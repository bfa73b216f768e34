import Mathlib.Data.List.Forall2
import Mathlib.Tactic.Common

namespace Result

universe u v w

variable {ε : Type u} {α β : Type v}

@[simp] theorem pure_eq_ok_iff {a b : α} : (pure a : Except ε α) = .ok b ↔ a = b :=
  ⟨fun h => Except.ok.inj h, fun h => congrArg Except.ok h⟩

@[simp] theorem throw_ne_ok {e : ε} {a : α} : (throw e : Except ε α) = .ok a ↔ False :=
  ⟨(fun h => nomatch h), False.elim⟩

@[simp] theorem error_ne_ok {e : ε} {a : α} : (Except.error e : Except ε α) = .ok a ↔ False :=
  ⟨(fun h => nomatch h), False.elim⟩

theorem ok_bind (a : α) (f : α → Except ε β) : (Except.ok a >>= f) = f a := rfl

theorem error_bind (e : ε) (f : α → Except ε β) : (Except.error e >>= f) = .error e := rfl

@[simp] theorem bind_eq_ok_iff {x : Except ε α} {f : α → Except ε β} {b : β} :
    x >>= f = .ok b ↔ ∃ a, x = .ok a ∧ f a = .ok b := by
  cases x with
  | error e =>
      constructor
      · intro h
        exact nomatch h
      · rintro ⟨a, h, _⟩
        exact nomatch h
  | ok a =>
      constructor
      · intro h
        exact ⟨a, rfl, h⟩
      · rintro ⟨a', h, hf⟩
        cases Except.ok.inj h
        exact hf

@[simp] theorem andThen_eq_ok_iff {x : Except ε PUnit} {y : Except ε β} {b : β} :
    (x >>= fun _ => y) = .ok b ↔ x = .ok PUnit.unit ∧ y = .ok b := by
  rw [bind_eq_ok_iff]
  constructor
  · rintro ⟨_, h⟩
    exact h
  · intro h
    exact ⟨PUnit.unit, h⟩

@[simp] theorem ite_throw_eq_ok_iff {p : Prop} [Decidable p] {e : ε} {x : Except ε α} {a : α} :
    (if p then throw e else x) = .ok a ↔ ¬ p ∧ x = .ok a := by
  split <;> simp [*]

@[simp] theorem ite_else_throw_eq_ok_iff {p : Prop} [Decidable p] {e : ε} {x : Except ε α}
    {a : α} : (if p then x else throw e) = .ok a ↔ p ∧ x = .ok a := by
  split <;> simp [*]

/-- `if p { return Err(e) }`. -/
def rejectIf (p : Prop) [Decidable p] (e : ε) : Except ε Unit := if p then .error e else .ok ()

@[simp] theorem rejectIf_eq_ok_iff {p : Prop} [Decidable p] {e : ε} {u : Unit} :
    rejectIf p e = .ok u ↔ ¬ p := by
  unfold rejectIf
  split <;> simp [*]

/-- What every step of a fallible loop keeps holds of its result. -/
theorem foldlM_invariant {γ : Type w} {f : β → γ → Except ε β} {P : β → Prop} {l : List γ} {b r : β}
    (hstep : ∀ c ∈ l, ∀ b b', P b → f b c = .ok b' → P b') (hb : P b)
    (h : l.foldlM f b = .ok r) : P r := by
  induction l generalizing b with
  | nil =>
      obtain rfl := Except.ok.inj h
      exact hb
  | cons c l ih =>
      rw [List.foldlM_cons, bind_eq_ok_iff] at h
      obtain ⟨next, hnext, hrest⟩ := h
      exact ih (fun d hd => hstep d (List.mem_cons_of_mem _ hd))
        (hstep c List.mem_cons_self b next hb hnext) hrest

theorem exists_foldlM {γ : Type w} {f : β → γ → Except ε β} {l : List γ}
    (hstep : ∀ c ∈ l, ∀ b, ∃ b', f b c = .ok b') (b : β) : ∃ b', l.foldlM f b = .ok b' := by
  induction l generalizing b with
  | nil => exact ⟨b, rfl⟩
  | cons c l ih =>
      obtain ⟨next, hnext⟩ := hstep c List.mem_cons_self b
      rw [List.foldlM_cons, hnext, ok_bind]
      exact ih (fun d hd => hstep d (List.mem_cons_of_mem _ hd)) next

theorem foldlM_ok_or_error {γ : Type w} {f : β → γ → Except ε β} {e : ε} {l : List γ}
    (hstep : ∀ c ∈ l, ∀ b, (∃ b', f b c = .ok b') ∨ f b c = .error e) (b : β) :
    (∃ b', l.foldlM f b = .ok b') ∨ l.foldlM f b = .error e := by
  induction l generalizing b with
  | nil => exact Or.inl ⟨b, rfl⟩
  | cons c l ih =>
      rw [List.foldlM_cons]
      rcases hstep c List.mem_cons_self b with ⟨next, hnext⟩ | hfail
      · rw [hnext, ok_bind]
        exact ih (fun d hd => hstep d (List.mem_cons_of_mem _ hd)) next
      · exact Or.inr (by rw [hfail, error_bind])

/-- A fallible loop whose steps fail in one way only fails so as soon as one of them must. -/
theorem foldlM_eq_error {γ : Type w} {f : β → γ → Except ε β} {e : ε} {l : List γ}
    (hstep : ∀ c ∈ l, ∀ b, (∃ b', f b c = .ok b') ∨ f b c = .error e)
    (hbad : ∃ c ∈ l, ∀ b, f b c = .error e) (b : β) : l.foldlM f b = .error e := by
  obtain ⟨bad, hmem, hbad⟩ := hbad
  induction l generalizing b with
  | nil => exact absurd hmem List.not_mem_nil
  | cons c l ih =>
      rw [List.foldlM_cons]
      rcases List.mem_cons.1 hmem with rfl | hmem
      · rw [hbad, error_bind]
      · rcases hstep c List.mem_cons_self b with ⟨next, hnext⟩ | hfail
        · rw [hnext, ok_bind]
          exact ih (fun d hd => hstep d (List.mem_cons_of_mem _ hd)) next hmem
        · rw [hfail, error_bind]

theorem exists_of_toBool {x : Except ε α} (h : x.toBool = true) : ∃ a, x = .ok a := by
  cases x with
  | error e => exact nomatch h
  | ok a => exact ⟨a, rfl⟩

theorem mapM_cons_eq_ok_iff {γ : Type w} {f : γ → Except ε β} {c : γ} {l : List γ}
    {r : List β} :
    (c :: l).mapM f = .ok r ↔ ∃ b s, f c = .ok b ∧ l.mapM f = .ok s ∧ r = b :: s := by
  rw [List.mapM_cons, bind_eq_ok_iff]
  constructor
  · rintro ⟨b, hb, h⟩
    obtain ⟨s, hs, h⟩ := bind_eq_ok_iff.1 h
    exact ⟨b, s, hb, hs, (pure_eq_ok_iff.1 h).symm⟩
  · rintro ⟨b, s, hb, hs, rfl⟩
    exact ⟨b, hb, bind_eq_ok_iff.2 ⟨s, hs, rfl⟩⟩

/-- A list is mapped when each of its entries is. -/
theorem mapM_eq_ok_iff {γ : Type w} {f : γ → Except ε β} {l : List γ} {r : List β} :
    l.mapM f = .ok r ↔ List.Forall₂ (fun c b => f c = .ok b) l r := by
  induction l generalizing r with
  | nil =>
      rw [List.mapM_nil, pure_eq_ok_iff, List.forall₂_nil_left_iff, eq_comm]
  | cons c l ih =>
      rw [mapM_cons_eq_ok_iff]
      constructor
      · rintro ⟨b, s, hb, hs, rfl⟩
        exact List.Forall₂.cons hb (ih.1 hs)
      · intro h
        obtain ⟨b, s, hb, hs, rfl⟩ := List.forall₂_cons_left_iff.1 h
        exact ⟨b, s, hb, ih.2 hs, rfl⟩

theorem exists_of_mem_mapM {γ : Type w} {f : γ → Except ε β} {l : List γ} {r : List β} {b : β}
    (h : l.mapM f = .ok r) (hb : b ∈ r) : ∃ c ∈ l, f c = .ok b := by
  induction l generalizing r with
  | nil =>
      rw [List.mapM_nil, pure_eq_ok_iff] at h
      subst h
      simp at hb
  | cons c l ih =>
      obtain ⟨b', s, hb', hs, rfl⟩ := mapM_cons_eq_ok_iff.1 h
      rcases List.mem_cons.1 hb with rfl | hb
      · exact ⟨c, List.mem_cons_self, hb'⟩
      · obtain ⟨c', hc', hf⟩ := ih hs hb
        exact ⟨c', List.mem_cons_of_mem _ hc', hf⟩

theorem exists_mem_of_mapM {γ : Type w} {f : γ → Except ε β} {l : List γ} {r : List β} {c : γ}
    (h : l.mapM f = .ok r) (hc : c ∈ l) : ∃ b ∈ r, f c = .ok b := by
  induction l generalizing r with
  | nil => simp at hc
  | cons c' l ih =>
      obtain ⟨b, s, hb, hs, rfl⟩ := mapM_cons_eq_ok_iff.1 h
      rcases List.mem_cons.1 hc with rfl | hc
      · exact ⟨b, List.mem_cons_self, hb⟩
      · obtain ⟨b', hb', hf⟩ := ih hs hc
        exact ⟨b', List.mem_cons_of_mem _ hb', hf⟩

end Result
