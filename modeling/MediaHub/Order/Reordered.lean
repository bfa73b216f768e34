import Mathlib.Data.List.Forall2
import Mathlib.Data.List.Perm.Basic
import Mathlib.Tactic.Common

/-!
Lists that are the same up to the order of their entries and a relation between these.
-/

namespace Reordered

universe u v

variable {α : Type u} {β : Type v}

def UpTo (r : α → β → Prop) (l : List α) (m : List β) : Prop :=
  ∃ middle, List.Forall₂ r l middle ∧ middle.Perm m

variable {r : α → β → Prop} {l : List α} {m : List β} {p : α → Prop} {q : β → Prop}

theorem exists_mem_iff_of_forall₂ (h : List.Forall₂ r l m)
    (hpq : ∀ a ∈ l, ∀ b, r a b → (p a ↔ q b)) : (∃ a ∈ l, p a) ↔ ∃ b ∈ m, q b := by
  induction h with
  | nil => simp
  | cons hab _ ih =>
      simp only [List.exists_mem_cons_iff]
      exact or_congr (hpq _ List.mem_cons_self _ hab)
        (ih fun a ha => hpq a (List.mem_cons_of_mem _ ha))

theorem UpTo.exists_mem_iff (h : UpTo r l m) (hpq : ∀ a ∈ l, ∀ b, r a b → (p a ↔ q b)) :
    (∃ a ∈ l, p a) ↔ ∃ b ∈ m, q b := by
  obtain ⟨middle, hforall, hperm⟩ := h
  rw [exists_mem_iff_of_forall₂ hforall hpq]
  exact exists_congr fun b => and_congr_left' hperm.mem_iff

theorem UpTo.forall_mem_iff (h : UpTo r l m) (hpq : ∀ a ∈ l, ∀ b, r a b → (p a ↔ q b)) :
    (∀ a ∈ l, p a) ↔ ∀ b ∈ m, q b := by
  have hexists := h.exists_mem_iff (p := fun a => ¬ p a) (q := fun b => ¬ q b)
    fun a ha b hab => not_congr (hpq a ha b hab)
  constructor
  · intro hall
    by_contra hnot
    push Not at hnot
    obtain ⟨a, ha, hna⟩ := hexists.2 hnot
    exact hna (hall a ha)
  · intro hall
    by_contra hnot
    push Not at hnot
    obtain ⟨b, hb, hnb⟩ := hexists.1 hnot
    exact hnb (hall b hb)

end Reordered
