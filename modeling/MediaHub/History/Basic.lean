import Mathlib.Data.Set.Function

/-!
Histories: sets of labelled entries that arrive in order, with a pointer to the newest one.
-/

namespace History

universe u v w

/-- An entry has an identity, the rank at which it came and the label that names it. -/
@[ext] structure Entry (ι : Type u) (ρ : Type v) (κ : Type w) where
  ident : ι
  rank : ρ
  label : κ

variable {ι : Type u} {ρ : Type v} {κ : Type w} [LinearOrder ρ]

/-- The pointer names an entry of the greatest rank; it is empty when nothing is visible. -/
structure Newest (visible : Set (Entry ι ρ κ)) (head : Option ι) : Prop where
  none_iff : head = none ↔ visible = ∅
  of_some : ∀ i, head = some i → ∃ e ∈ visible, e.ident = i ∧ ∀ f ∈ visible, f.rank ≤ e.rank

/-- What a history looks like at any time: identities, ranks and labels are distinct, no rank
is above the bound, and the pointer names the newest entry. -/
structure WellFormed (visible : Set (Entry ι ρ κ)) (bound : ρ) (head : Option ι) : Prop where
  rank_le : ∀ e ∈ visible, e.rank ≤ bound
  ident_inj : Set.InjOn Entry.ident visible
  rank_inj : Set.InjOn Entry.rank visible
  label_inj : Set.InjOn Entry.label visible
  newest : Newest visible head

variable {visible rest : Set (Entry ι ρ κ)} {bound : ρ} {head head' : Option ι}

theorem WellFormed.empty (bound : ρ) :
    WellFormed (∅ : Set (Entry ι ρ κ)) bound none where
  rank_le := by simp
  ident_inj := Set.injOn_empty _
  rank_inj := Set.injOn_empty _
  label_inj := Set.injOn_empty _
  newest := ⟨by simp, by simp⟩

/-- Entries may disappear as long as the pointer follows. -/
theorem WellFormed.shrink (h : WellFormed visible bound head) (hsub : rest ⊆ visible)
    (hnewest : Newest rest head') : WellFormed rest bound head' where
  rank_le e he := h.rank_le e (hsub he)
  ident_inj := h.ident_inj.mono hsub
  rank_inj := h.rank_inj.mono hsub
  label_inj := h.label_inj.mono hsub
  newest := hnewest

/-- Losing entries other than the newest one leaves the pointer right. -/
theorem Newest.filter (h : Newest visible head) (keep : ι → Prop)
    (hkeep : ∀ i, head = some i → keep i) :
    Newest (visible ∩ {e | keep e.ident}) head := by
  cases head with
  | none =>
      have hempty := h.none_iff.1 rfl
      exact ⟨by simp [hempty], by simp⟩
  | some i =>
      obtain ⟨top, htop, hident, hmax⟩ := h.of_some i rfl
      have htop' : top ∈ visible ∩ {e | keep e.ident} := ⟨htop, by
        change keep top.ident
        rw [hident]
        exact hkeep i rfl⟩
      refine ⟨?_, fun j hj => ?_⟩
      · simp only [reduceCtorEq, false_iff]
        exact Set.Nonempty.ne_empty ⟨top, htop'⟩
      · cases hj
        exact ⟨top, htop', hident, fun f hf => hmax f hf.1⟩

/-- A new entry becomes the newest one, whichever older entries give way to it. -/
theorem WellFormed.push (h : WellFormed visible bound head) (hsub : rest ⊆ visible)
    {e : Entry ι ρ κ} (hrank : bound < e.rank) (hident : ∀ f ∈ rest, f.ident ≠ e.ident)
    (hlabel : ∀ f ∈ rest, f.label ≠ e.label) :
    WellFormed (insert e rest) e.rank (some e.ident) := by
  have hlt : ∀ f ∈ rest, f.rank < e.rank := fun f hf =>
    lt_of_le_of_lt (h.rank_le f (hsub hf)) hrank
  have hfresh : e ∉ rest := fun he => hident e he rfl
  refine ⟨?_, ?_, ?_, ?_, ?_, ?_⟩
  · rintro f (rfl | hf)
    · exact le_refl _
    · exact (hlt f hf).le
  · refine (Set.injOn_insert hfresh).2 ⟨h.ident_inj.mono hsub, ?_⟩
    rintro ⟨f, hf, heq⟩
    exact hident f hf heq
  · refine (Set.injOn_insert hfresh).2 ⟨h.rank_inj.mono hsub, ?_⟩
    rintro ⟨f, hf, heq⟩
    exact (hlt f hf).ne heq
  · refine (Set.injOn_insert hfresh).2 ⟨h.label_inj.mono hsub, ?_⟩
    rintro ⟨f, hf, heq⟩
    exact hlabel f hf heq
  · simp only [reduceCtorEq, false_iff]
    exact (Set.insert_nonempty e rest).ne_empty
  · rintro i hi
    cases hi
    refine ⟨e, Set.mem_insert _ _, rfl, ?_⟩
    rintro f (rfl | hf)
    · exact le_refl _
    · exact (hlt f hf).le

/-- The newest entry is the only one that the pointer names. -/
theorem WellFormed.eq_newest (h : WellFormed visible bound head) {e : Entry ι ρ κ}
    (he : e ∈ visible) (hmax : ∀ f ∈ visible, f.rank ≤ e.rank) : head = some e.ident := by
  cases head with
  | none =>
      have hempty := h.newest.none_iff.1 rfl
      exact absurd he (by simp [hempty])
  | some i =>
      obtain ⟨top, htop, rfl, htopmax⟩ := h.newest.of_some i rfl
      have heq : top = e :=
        h.rank_inj htop he (le_antisymm (hmax top htop) (htopmax e he))
      rw [heq]

/-- Two entries under one label are the same entry. -/
theorem WellFormed.eq_of_label (h : WellFormed visible bound head) {e f : Entry ι ρ κ}
    (he : e ∈ visible) (hf : f ∈ visible) (hlabel : e.label = f.label) : e = f :=
  h.label_inj he hf hlabel

end History
