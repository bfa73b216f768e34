import Mathlib.Data.List.Basic
import Mathlib.Logic.Function.Iterate
import Mathlib.Order.Lattice
import Mathlib.Tactic.Common

/-!
A walk round a finite list, resumed from the key of the item that it visited last.
-/

namespace Rotation

universe u v w

/-- The key of the item visited last in this round, and the round. -/
structure Position (κ : Type v) (ρ : Type w) where
  after : Option κ
  round : ρ

variable {α : Type u} {κ : Type v} {ρ : Type w} [LinearOrder κ] (key : α → κ) (next : ρ → ρ)
  (items : List α)

/-- What the round has still to visit. -/
def pending (after : Option κ) : List α := items.filter fun a => after.all (· < key a)

/-- Visits in the order of the list; a round that has nothing left gives way to the next. -/
inductive Walk : Position κ ρ → List (α × ρ) → Position κ ρ → Prop
  | stay (p : Position κ ρ) : Walk p [] p
  | visit {p q : Position κ ρ} {a : α} {rest : List α} {visits : List (α × ρ)} :
      pending key items p.after = a :: rest → Walk ⟨some (key a), p.round⟩ visits q →
      Walk p ((a, p.round) :: visits) q
  | wrap {p q : Position κ ρ} {visits : List (α × ρ)} :
      pending key items p.after = [] → Walk ⟨none, next p.round⟩ visits q → Walk p visits q

/-- What is left of the round of `p`, and the `n` rounds after it. -/
def tour (p : Position κ ρ) (n : Nat) : List (α × ρ) :=
  (pending key items p.after).map (·, p.round) ++
    (List.range n).flatMap fun i => items.map (·, next^[i + 1] p.round)

variable {key next items}

@[simp] theorem pending_none : pending key items none = items := by
  simp [pending]

theorem mem_pending {after : Option κ} {a : α} :
    a ∈ pending key items after ↔ a ∈ items ∧ ∀ k ∈ after, k < key a := by
  cases after <;> simp [pending]

/-- In a list in the order of its keys, the rest of the round begins after the item visited. -/
theorem pending_eq_of_cons (hsorted : items.Pairwise (key · < key ·)) {after : Option κ} {a : α}
    {rest : List α} (h : pending key items after = a :: rest) :
    pending key items (some (key a)) = rest := by
  have hpending : (pending key items after).Pairwise (key · < key ·) := hsorted.filter _
  have hafter : ∀ k ∈ after, k < key a :=
    (mem_pending.1 (h ▸ List.mem_cons_self)).2
  have hnarrow : pending key items (some (key a)) = (pending key items after).filter
      fun b => decide (key a < key b) := by
    simp only [pending, List.filter_filter, Option.all_some]
    apply List.filter_congr
    intro b _
    cases after with
    | none => simp
    | some k =>
        have hk := hafter k rfl
        by_cases hb : key a < key b
        · simp [hb, lt_trans hk hb]
        · simp [hb]
  rw [hnarrow, h]
  rw [h] at hpending
  obtain ⟨hhead, _⟩ := List.pairwise_cons.1 hpending
  simp only [List.filter_cons, lt_irrefl, decide_false, Bool.false_eq_true, if_false]
  exact List.filter_eq_self.2 fun b hb => by simpa using hhead b hb

namespace Walk

theorem trans {p q r : Position κ ρ} {first second : List (α × ρ)}
    (h : Walk key next items p first q) (h' : Walk key next items q second r) :
    Walk key next items p (first ++ second) r := by
  induction h with
  | stay => exact h'
  | visit hpending _ ih => exact .visit hpending (ih h')
  | wrap hpending _ ih => exact .wrap hpending (ih h')

theorem single {p : Position κ ρ} {a : α} {rest : List α}
    (h : pending key items p.after = a :: rest) :
    Walk key next items p [(a, p.round)] ⟨some (key a), p.round⟩ :=
  .visit h (.stay _)

end Walk

theorem tour_cons (hsorted : items.Pairwise (key · < key ·)) {p : Position κ ρ} {a : α}
    {rest : List α} (h : pending key items p.after = a :: rest) (n : Nat) :
    tour key next items p n =
      (a, p.round) :: tour key next items ⟨some (key a), p.round⟩ n := by
  simp [tour, h, pending_eq_of_cons hsorted h]

theorem tour_wrap {p : Position κ ρ} (h : pending key items p.after = []) (n : Nat) :
    tour key next items p (n + 1) = tour key next items ⟨none, next p.round⟩ n := by
  simp [tour, h, List.range_succ_eq_map, List.flatMap_map]

theorem tour_initial {p : Position κ ρ} {m n : Nat} (h : m ≤ n) :
    tour key next items p m <+: tour key next items p n := by
  obtain ⟨d, rfl⟩ := Nat.exists_eq_add_of_le h
  unfold tour
  rw [List.range_add, List.flatMap_append, ← List.append_assoc]
  exact List.prefix_append _ _

/-- A walk visits each item of a round once, in the order of the list, and no round before the one
before it is through. -/
theorem Walk.tour_eq (hsorted : items.Pairwise (key · < key ·)) {p q : Position κ ρ}
    {visits : List (α × ρ)} (h : Walk key next items p visits q) :
    ∃ n, q.round = next^[n] p.round ∧
      tour key next items p n =
        visits ++ (pending key items q.after).map (·, q.round) := by
  induction h with
  | stay p => exact ⟨0, rfl, by simp [tour]⟩
  | visit hpending _ ih =>
      obtain ⟨n, hround, htour⟩ := ih
      refine ⟨n, hround, ?_⟩
      rw [tour_cons hsorted hpending, htour]
      rfl
  | wrap hpending _ ih =>
      obtain ⟨n, hround, htour⟩ := ih
      refine ⟨n + 1, hround, ?_⟩
      rw [tour_wrap hpending, htour]

theorem Walk.initial_tour (hsorted : items.Pairwise (key · < key ·)) {p q : Position κ ρ}
    {visits : List (α × ρ)} (h : Walk key next items p visits q) :
    ∃ n, visits <+: tour key next items p n := by
  obtain ⟨n, _, htour⟩ := h.tour_eq hsorted
  exact ⟨n, htour ▸ List.prefix_append _ _⟩

/-- Of two walks from one position, one goes on where the other ended. -/
theorem Walk.prefix_or (hsorted : items.Pairwise (key · < key ·)) {p q q' : Position κ ρ}
    {visits visits' : List (α × ρ)} (h : Walk key next items p visits q)
    (h' : Walk key next items p visits' q') : visits <+: visits' ∨ visits' <+: visits := by
  obtain ⟨m, hm⟩ := h.initial_tour hsorted
  obtain ⟨n, hn⟩ := h'.initial_tour hsorted
  have hl := hm.trans (tour_initial (Nat.le_max_left m n))
  have hr := hn.trans (tour_initial (Nat.le_max_right m n))
  exact List.prefix_or_prefix_of_prefix hl hr

/-- Rounds count up from the first one. -/
theorem Walk.round_of_mem {p q : Position κ ρ} {visits : List (α × ρ)}
    (h : Walk key next items p visits q) {a : α} {r : ρ} (ha : (a, r) ∈ visits) :
    a ∈ items ∧ ∃ n, r = next^[n] p.round := by
  induction h with
  | stay => cases ha
  | @visit p q b rest visits hpending _ ih =>
      rcases List.mem_cons.1 ha with heq | ha
      · cases heq
        exact ⟨(mem_pending.1 (hpending ▸ List.mem_cons_self)).1, 0, rfl⟩
      · exact ih ha
  | wrap _ _ ih =>
      obtain ⟨hitem, n, hr⟩ := ih ha
      exact ⟨hitem, n + 1, hr⟩

theorem Walk.eq_nil {p q : Position κ ρ} {visits : List (α × ρ)}
    (h : Walk key next ([] : List α) p visits q) : visits = [] := by
  induction h with
  | stay => rfl
  | visit hpending => cases hpending
  | wrap _ _ ih => exact ih

theorem Walk.split {p q : Position κ ρ} {first second : List (α × ρ)}
    (h : Walk key next items p (first ++ second) q) :
    ∃ r, Walk key next items p first r ∧ Walk key next items r second q := by
  generalize hvisits : first ++ second = visits at h
  induction h generalizing first with
  | stay p =>
      obtain ⟨rfl, rfl⟩ := List.append_eq_nil_iff.1 hvisits
      exact ⟨p, .stay p, .stay p⟩
  | @visit p q a rest visits hpending hwalk ih =>
      cases first with
      | nil =>
          refine ⟨p, .stay p, ?_⟩
          rw [List.nil_append] at hvisits
          exact hvisits ▸ .visit hpending hwalk
      | cons visit first =>
          obtain ⟨rfl, hrest⟩ := List.cons.inj hvisits
          obtain ⟨r, hfirst, hsecond⟩ := ih hrest
          exact ⟨r, .visit hpending hfirst, hsecond⟩
  | wrap hpending _ ih =>
      obtain ⟨r, hfirst, hsecond⟩ := ih hvisits
      exact ⟨r, .wrap hpending hfirst, hsecond⟩

/-- A walk that never visits an item of its round stays in that round. -/
theorem Walk.avoid (hsorted : items.Pairwise (key · < key ·)) {p q : Position κ ρ}
    {visits : List (α × ρ)} {b : α} (h : Walk key next items p visits q)
    (hb : b ∈ pending key items p.after) (hne : ∀ visit ∈ visits, visit.1 ≠ b) :
    q.round = p.round ∧ b ∈ pending key items q.after ∧
    ∃ passed : List α, visits = passed.map (·, p.round) ∧
      pending key items p.after = passed ++ pending key items q.after := by
  induction h with
  | stay => exact ⟨rfl, hb, [], rfl, rfl⟩
  | @visit p q a rest visits hpending _ ih =>
      have hrest := pending_eq_of_cons hsorted hpending
      have hmem : b ∈ rest := by
        rw [hpending] at hb
        exact (List.mem_cons.1 hb).resolve_left (hne _ List.mem_cons_self).symm
      obtain ⟨hround, hb', passed, hvisits, hpassed⟩ := ih (hrest ▸ hmem) fun visit hvisit =>
        hne visit (List.mem_cons_of_mem _ hvisit)
      refine ⟨hround, hb', a :: passed, by rw [hvisits]; rfl, ?_⟩
      rw [hpending, ← hrest, hpassed]
      rfl
  | wrap hpending _ _ =>
      rw [hpending] at hb
      cases hb

/-- A walk that ends when it comes to the item has visited all that stand before it. -/
theorem Walk.reach (hsorted : items.Pairwise (key · < key ·)) {p q : Position κ ρ}
    {before : List (α × ρ)} {b : α} {r : ρ}
    (h : Walk key next items p (before ++ [(b, r)]) q) (hb : b ∈ pending key items p.after)
    (hne : ∀ visit ∈ before, visit.1 ≠ b) :
    r = p.round ∧ ∃ passed rest : List α, before = passed.map (·, p.round) ∧
      pending key items p.after = passed ++ b :: rest := by
  obtain ⟨m, hbefore, hlast⟩ := h.split
  obtain ⟨hround, hb', passed, hvisits, hpassed⟩ := hbefore.avoid hsorted hb hne
  cases hlast with
  | @visit _ _ _ rest _ hpending =>
      exact ⟨hround, passed, rest, hvisits, hpassed.trans (by rw [hpending])⟩
  | wrap hpending =>
      rw [hpending] at hb'
      cases hb'

end Rotation
