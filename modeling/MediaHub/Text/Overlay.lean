import Mathlib.Data.List.Induction

/-!
Arrays as the writes that made them. Where writes overlap the last one counts, and what none of them
covers is blank.
-/

namespace MediaHub.Overlay

variable {α : Type}

/-- Each write with the index it starts at, in the order of time. -/
abbrev Writes (α : Type) := List (Nat × List α)

def valueAt (write : Nat × List α) (i : Nat) : Option α :=
  if write.1 ≤ i then write.2[i - write.1]? else none

def lastAt (writes : Writes α) (i : Nat) : Option α :=
  writes.reverse.findSome? fun write => valueAt write i

def size (writes : Writes α) : Nat :=
  (writes.map fun write => write.1 + write.2.length).foldr max 0

def contents (blank : α) (writes : Writes α) : List α :=
  (List.range (size writes)).map fun i => (lastAt writes i).getD blank

/-- `Vec::resize` to a length that is not smaller. -/
def grow (blank : α) (l : List α) (n : Nat) : List α := l ++ List.replicate (n - l.length) blank

/-- `copy_from_slice` into the slice that starts here. -/
def copyInto (l : List α) (start : Nat) (values : List α) : List α :=
  l.take start ++ values ++ l.drop (start + values.length)

theorem length_grow (blank : α) (l : List α) (n : Nat) :
    (grow blank l n).length = max l.length n := by
  rw [grow, List.length_append, List.length_replicate]
  omega

theorem foldr_max (l : List Nat) (n : Nat) : l.foldr max n = max (l.foldr max 0) n := by
  induction l with
  | nil => exact (Nat.zero_max n).symm
  | cons a l ih => rw [List.foldr_cons, List.foldr_cons, ih, Nat.max_assoc]

theorem size_append_singleton (writes : Writes α) (start : Nat) (values : List α) :
    size (writes ++ [(start, values)]) = max (size writes) (start + values.length) := by
  rw [size, List.map_append, List.foldr_append, foldr_max]
  simp [size]

@[simp] theorem length_contents (blank : α) (writes : Writes α) :
    (contents blank writes).length = size writes := by
  rw [contents, List.length_map, List.length_range]

theorem getElem?_contents (blank : α) (writes : Writes α) (i : Nat) :
    (contents blank writes)[i]? =
      if i < size writes then some ((lastAt writes i).getD blank) else none := by
  rw [contents, List.getElem?_map]
  split
  · next h => rw [List.getElem?_range h]; rfl
  · next h =>
      rw [List.getElem?_eq_none (by rw [List.length_range]; exact Nat.le_of_not_lt h)]
      rfl

theorem lastAt_append_singleton (writes : Writes α) (write : Nat × List α) (i : Nat) :
    lastAt (writes ++ [write]) i = (valueAt write i).or (lastAt writes i) := by
  rw [lastAt, List.reverse_append, List.reverse_singleton, List.singleton_append,
    List.findSome?_cons, lastAt]
  cases valueAt write i with
  | none => rfl
  | some value => rfl

/-- No write covers what lies behind the end. -/
theorem lastAt_eq_none {writes : Writes α} {i : Nat} (h : size writes ≤ i) :
    lastAt writes i = none := by
  induction writes using List.reverseRecOn with
  | nil => rfl
  | append_singleton writes write ih =>
      rw [size_append_singleton] at h
      have hvalue : valueAt write i = none := by
        rw [valueAt]
        split
        · exact List.getElem?_eq_none (by omega)
        · rfl
      rw [lastAt_append_singleton, hvalue, ih (by omega)]
      rfl

theorem getElem?_grow_contents (blank : α) (writes : Writes α) {n i : Nat} (h : i < n) :
    (grow blank (contents blank writes) n)[i]? = some ((lastAt writes i).getD blank) := by
  rw [grow, List.getElem?_append, getElem?_contents, length_contents]
  split
  · rfl
  · next hsize =>
      rw [List.getElem?_replicate, if_pos (by omega), lastAt_eq_none (Nat.le_of_not_lt hsize)]
      rfl

/-- A write into the grown array is one more write. -/
theorem copyInto_grow (blank : α) (writes : Writes α) (start : Nat) (values : List α) :
    copyInto (grow blank (contents blank writes) (start + values.length)) start values =
      contents blank (writes ++ [(start, values)]) := by
  apply List.ext_getElem?
  intro i
  have hlength : (grow blank (contents blank writes) (start + values.length)).length =
      max (size writes) (start + values.length) := by
    rw [length_grow, length_contents]
  have hfront : min start (max (size writes) (start + values.length)) = start := by omega
  rw [getElem?_contents, size_append_singleton, lastAt_append_singleton, valueAt, copyInto,
    List.append_assoc, List.getElem?_append, List.length_take, List.getElem?_take, hlength, hfront]
  by_cases hstart : i < start
  · have hbefore : ¬ start ≤ i := Nat.not_le.2 hstart
    have hinside : i < max (size writes) (start + values.length) := by omega
    simp only [if_pos hstart, if_neg hbefore, if_pos hinside]
    exact getElem?_grow_contents blank writes (by omega)
  · have hafter : start ≤ i := Nat.le_of_not_lt hstart
    simp only [if_neg hstart, if_pos hafter]
    by_cases hend : i - start < values.length
    · have hinside : i < max (size writes) (start + values.length) := by omega
      rw [if_pos hinside, List.getElem?_append_left hend, List.getElem?_eq_getElem hend]
      rfl
    · rw [List.getElem?_append_right (Nat.le_of_not_lt hend), List.getElem?_drop,
        List.getElem?_eq_none (Nat.le_of_not_lt hend), grow,
        show start + values.length + (i - start - values.length) = i by omega]
      by_cases hsize : i < size writes
      · have hinside : i < max (size writes) (start + values.length) := by omega
        rw [if_pos hinside, List.getElem?_append_left (by rwa [length_contents]),
          getElem?_contents, if_pos hsize]
        rfl
      · have houtside : ¬ i < max (size writes) (start + values.length) := by omega
        rw [if_neg houtside, List.getElem?_eq_none]
        rw [List.length_append, length_contents, List.length_replicate]
        omega

end MediaHub.Overlay
