import Mathlib.Data.List.Sort

/-!
The smallest entries of a list, found in one pass with a heap that never holds more than its
capacity.
-/

namespace Smallest

universe u

variable {α : Type u} [LinearOrder α]

/-- Offers an entry to a heap, which gives up its largest entry when it is full. The heap is the
list of its entries in order. -/
def keep (capacity : Nat) (heap : List α) (x : α) : List α :=
  if heap.length < capacity then heap.orderedInsert (· ≤ ·) x
  else if heap.getLast?.any (x < ·) then heap.dropLast.orderedInsert (· ≤ ·) x
  else heap

theorem keep_of_lt {capacity : Nat} {heap : List α} (h : heap.length < capacity) (x : α) :
    keep capacity heap x = heap.orderedInsert (· ≤ ·) x := if_pos h

/-- What comes before the new entry stays in front. -/
theorem keep_cons {capacity : Nat} {a x : α} (hlt : a < x) {heap : List α}
    (hlength : heap.length ≤ capacity) :
    keep (capacity + 1) (a :: heap) x = a :: keep capacity heap x := by
  have hinsert : ∀ l : List α, (a :: l).orderedInsert (· ≤ ·) x =
      a :: l.orderedInsert (· ≤ ·) x := fun l => by
    rw [List.orderedInsert, if_neg (not_le.2 hlt)]
  by_cases hroom : heap.length < capacity
  · rw [keep_of_lt hroom, keep_of_lt (by simpa using hroom), hinsert]
  · have hfull : ¬ (a :: heap).length < capacity + 1 := by simpa using hroom
    rw [keep, if_neg hfull, keep, if_neg hroom]
    cases heap with
    | nil =>
        have hno : ¬ ([a] : List α).getLast?.any (x < ·) = true := by
          simpa using le_of_lt hlt
        rw [if_neg hno]
        rfl
    | cons b heap =>
        rw [List.getLast?_cons_cons, List.dropLast_cons_cons]
        split
        · rw [hinsert]
        · rfl

theorem getLast?_le {a b : α} {l : List α} (h : (a :: l).Pairwise (· ≤ ·))
    (hlast : (a :: l).getLast? = some b) : ∀ c ∈ a :: l, c ≤ b := by
  obtain ⟨front, heq⟩ := List.getLast?_eq_some_iff.1 hlast
  rw [heq] at h ⊢
  intro c hc
  rcases List.mem_append.1 hc with hfront | hb
  · exact (List.pairwise_append.1 h).2.2 c hfront b List.mem_cons_self
  · exact le_of_eq (List.mem_singleton.1 hb)

/-- What comes first of all is kept. -/
theorem keep_first {capacity : Nat} {a x : α} (hle : x ≤ a) {l : List α}
    (h : (a :: l).Pairwise (· ≤ ·)) :
    keep (capacity + 1) (a :: l.take capacity) x = x :: (a :: l).take capacity := by
  have hinsert : ∀ l : List α, (a :: l).orderedInsert (· ≤ ·) x = x :: a :: l := fun l => by
    rw [List.orderedInsert, if_pos hle]
  by_cases hroom : l.length < capacity
  · have hlength : (a :: l.take capacity).length < capacity + 1 := by
      rw [List.length_cons, List.length_take]
      omega
    rw [keep_of_lt hlength, hinsert, List.take_of_length_le (Nat.le_of_lt hroom),
      List.take_of_length_le (Nat.succ_le_of_lt hroom)]
  · have hlength : (l.take capacity).length = capacity := by
      rw [List.length_take]
      omega
    have hfull : ¬ (a :: l.take capacity).length < capacity + 1 := by
      rw [List.length_cons, hlength]
      exact lt_irrefl _
    have htake : a :: l.take capacity = (a :: l).take (capacity + 1) := rfl
    have hsorted : (a :: l.take capacity).Pairwise (· ≤ ·) :=
      htake ▸ h.sublist (List.take_sublist _ _)
    obtain ⟨b, hb⟩ : ∃ b, (a :: l.take capacity).getLast? = some b :=
      ⟨_, List.getLast?_eq_some_getLast (List.cons_ne_nil _ _)⟩
    rw [keep, if_neg hfull, hb, Option.any_some]
    by_cases hlt : x < b
    · have hdrop : (a :: l.take capacity).dropLast = (a :: l).take capacity := by
        rw [List.dropLast_eq_take, htake, List.take_take, List.length_take, List.length_cons]
        congr 1
        omega
      rw [if_pos (decide_eq_true hlt), hdrop]
      cases capacity with
      | zero => rfl
      | succ capacity => rw [List.take_succ_cons, hinsert]
    · -- All that is kept is as small as the new entry.
      rw [if_neg (by simpa using hlt)]
      have hall : ∀ c ∈ a :: l.take capacity, c = x := fun c hc => by
        have hge : a ≤ c := by
          rcases List.mem_cons.1 hc with rfl | hmem
          · exact le_refl _
          · exact (List.pairwise_cons.1 hsorted).1 c hmem
        exact le_antisymm ((getLast?_le hsorted hb c hc).trans (not_lt.1 hlt)) (hle.trans hge)
      have hleft : a :: l.take capacity = List.replicate (capacity + 1) x :=
        List.eq_replicate_iff.2 ⟨by rw [List.length_cons, hlength], hall⟩
      have hright : (a :: l).take capacity = List.replicate capacity x := by
        have hpre := congrArg (List.take capacity) hleft
        rwa [htake, List.take_take, List.take_replicate, Nat.min_eq_left (Nat.le_succ _)] at hpre
      rw [hleft, hright, List.replicate_succ]

theorem keep_take (capacity : Nat) (x : α) {l : List α} (h : l.Pairwise (· ≤ ·)) :
    keep capacity (l.take capacity) x = (l.orderedInsert (· ≤ ·) x).take capacity := by
  induction l generalizing capacity with
  | nil =>
      cases capacity with
      | zero => rfl
      | succ capacity =>
          rw [List.take_nil, keep_of_lt (Nat.succ_pos capacity), List.orderedInsert_nil,
            List.take_succ_cons, List.take_nil]
  | cons a l ih =>
      cases capacity with
      | zero => rfl
      | succ capacity =>
          rw [List.take_succ_cons]
          by_cases hle : x ≤ a
          · rw [keep_first hle h, List.orderedInsert, if_pos hle, List.take_succ_cons]
          · have hlength : (l.take capacity).length ≤ capacity := by
              rw [List.length_take]
              exact Nat.min_le_left _ _
            rw [keep_cons (not_le.1 hle) hlength, ih capacity (List.pairwise_cons.1 h).2,
              List.orderedInsert, if_neg hle, List.take_succ_cons]

theorem foldl_keep (capacity : Nat) (entries : List α) {l : List α} (h : l.Pairwise (· ≤ ·)) :
    entries.foldl (keep capacity) (l.take capacity) =
      (entries.foldl (fun l x => l.orderedInsert (· ≤ ·) x) l).take capacity := by
  induction entries generalizing l with
  | nil => rfl
  | cons x entries ih =>
      rw [List.foldl_cons, List.foldl_cons, keep_take capacity x h]
      exact ih (h.orderedInsert x l)

theorem foldl_orderedInsert (entries : List α) :
    entries.foldl (fun l x => l.orderedInsert (· ≤ ·) x) [] =
      entries.insertionSort (· ≤ ·) := by
  have hreverse : entries.foldl (fun l x => l.orderedInsert (· ≤ ·) x) [] =
      entries.reverse.insertionSort (· ≤ ·) := List.foldl_eq_foldr_reverse
  rw [hreverse]
  refine List.Perm.eq_of_pairwise (fun _ _ _ _ => le_antisymm)
    (List.pairwise_insertionSort _ _) (List.pairwise_insertionSort _ _) ?_
  exact (List.perm_insertionSort _ _).trans
    ((List.reverse_perm entries).trans (List.perm_insertionSort _ _).symm)

/-- One pass finds the smallest entries in order. -/
theorem foldl_keep_nil (capacity : Nat) (entries : List α) :
    entries.foldl (keep capacity) [] = (entries.insertionSort (· ≤ ·)).take capacity := by
  rw [← foldl_orderedInsert, ← foldl_keep capacity entries List.Pairwise.nil, List.take_nil]

end Smallest
