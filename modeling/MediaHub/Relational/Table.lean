import Mathlib.Data.List.Nodup
import Mathlib.Algebra.BigOperators.Group.List.Basic
import Mathlib.Tactic.Abel

/-!
Relational tables: finite lists of rows with a primary key, newest row first.
-/

namespace Relational

universe u v w

/-- Rows of type `α` are identified by a primary key of type `κ`. -/
class Keyed (α : Type u) (κ : outParam (Type v)) where
  key : α → κ

open Keyed

/-- An update of a row's columns keeps the row's key. -/
@[ext] structure Update (α : Type u) {κ : Type v} [Keyed α κ] where
  apply : α → α
  key_apply : ∀ r, key (apply r) = key r

instance {α : Type u} {κ : Type v} [Keyed α κ] : CoeFun (Update α) fun _ => α → α :=
  ⟨Update.apply⟩

/-- A table carries the proof that its primary key is unique. -/
structure Table (α : Type u) {κ : Type v} [Keyed α κ] where
  rows : List α
  nodup : (rows.map key).Nodup

namespace Table

variable {α : Type u} {κ : Type v} [Keyed α κ]

instance : Membership α (Table α) := ⟨fun t r => r ∈ t.rows⟩

theorem mem_def {t : Table α} {r : α} : r ∈ t ↔ r ∈ t.rows := Iff.rfl

instance (t : Table α) (p : α → Prop) [DecidablePred p] : Decidable (∀ r ∈ t, p r) :=
  inferInstanceAs (Decidable (∀ r ∈ t.rows, p r))

instance (t : Table α) (p : α → Prop) [DecidablePred p] : Decidable (∃ r ∈ t, p r) :=
  inferInstanceAs (Decidable (∃ r ∈ t.rows, p r))

def empty : Table α := ⟨[], List.nodup_nil⟩

instance : EmptyCollection (Table α) := ⟨empty⟩

@[simp] theorem not_mem_empty (r : α) : ¬ r ∈ (∅ : Table α) := List.not_mem_nil

theorem eq_of_key {t : Table α} {r s : α} (hr : r ∈ t) (hs : s ∈ t) (h : key r = key s) :
    r = s :=
  List.inj_on_of_nodup_map t.nodup hr hs h

section Write

variable [DecidableEq κ]

def find? (t : Table α) (k : κ) : Option α := t.rows.find? fun r => key r = k

/-- Adds a row unless its key is taken; `INSERT` checks `find?` first. -/
def insert (t : Table α) (r : α) : Table α :=
  if h : key r ∈ t.rows.map key then t
  else ⟨r :: t.rows, List.nodup_cons.2 ⟨h, t.nodup⟩⟩

/-- `UPDATE ... WHERE p`: rewrites the selected rows and keeps their keys. -/
def updateWhere (t : Table α) (p : α → Bool) (f : Update α) : Table α where
  rows := t.rows.map fun r => if p r then f r else r
  nodup := by
    have hkeys : (t.rows.map fun r => if p r then f r else r).map key = t.rows.map key := by
      rw [List.map_map]
      refine List.map_congr_left fun r _ => ?_
      by_cases hp : p r <;> simp [hp, f.key_apply]
    rw [hkeys]
    exact t.nodup

/-- `UPDATE ... WHERE key = k`. -/
def update (t : Table α) (k : κ) (f : Update α) : Table α :=
  t.updateWhere (fun r => key r = k) f

/-- `DELETE ... WHERE key = k`. -/
def delete (t : Table α) (k : κ) : Table α where
  rows := t.rows.filter fun r => key r ≠ k
  nodup := t.nodup.sublist (List.filter_sublist.map key)

theorem mem_delete {t : Table α} {k : κ} {s : α} : s ∈ t.delete k ↔ s ∈ t ∧ key s ≠ k := by
  simp [delete, mem_def]

/-- `DELETE ... WHERE p`. -/
def deleteWhere (t : Table α) (p : α → Bool) : Table α where
  rows := t.rows.filter fun r => !p r
  nodup := t.nodup.sublist (List.filter_sublist.map key)

omit [DecidableEq κ] in
theorem mem_deleteWhere {t : Table α} {p : α → Bool} {s : α} :
    s ∈ t.deleteWhere p ↔ s ∈ t ∧ p s = false := by
  simp [deleteWhere, mem_def]

theorem find?_eq_some_iff {t : Table α} {k : κ} {r : α} :
    t.find? k = some r ↔ r ∈ t ∧ key r = k := by
  have hsound : ∀ s, t.find? k = some s → s ∈ t ∧ key s = k := by
    intro s hs
    have hfind : t.rows.find? (fun r => key r = k) = some s := hs
    exact ⟨List.mem_of_find?_eq_some hfind, by simpa using List.find?_some hfind⟩
  refine ⟨hsound r, fun ⟨hr, hk⟩ => ?_⟩
  cases hfind : t.find? k with
  | none => exact absurd (decide_eq_true hk) (List.find?_eq_none.1 hfind r hr)
  | some s =>
      obtain ⟨hs, hkey⟩ := hsound s hfind
      rw [eq_of_key hs hr (hkey.trans hk.symm)]

theorem mem_of_find? {t : Table α} {k : κ} {r : α} (h : t.find? k = some r) : r ∈ t :=
  (find?_eq_some_iff.1 h).1

theorem key_of_find? {t : Table α} {k : κ} {r : α} (h : t.find? k = some r) : key r = k :=
  (find?_eq_some_iff.1 h).2

theorem find?_of_mem {t : Table α} {r : α} (h : r ∈ t) : t.find? (key r) = some r :=
  find?_eq_some_iff.2 ⟨h, rfl⟩

theorem find?_eq_none_iff {t : Table α} {k : κ} :
    t.find? k = none ↔ ∀ r ∈ t, key r ≠ k := by
  simp [find?, List.find?_eq_none, mem_def]

theorem find?_deleteWhere {t : Table α} {p : α → Bool} (k : κ) :
    (t.deleteWhere p).find? k = (t.find? k).filter fun r => !p r := by
  refine Option.ext fun r => ?_
  rw [find?_eq_some_iff, mem_deleteWhere, Option.filter_eq_some_iff, find?_eq_some_iff]
  simp only [Bool.not_eq_true']
  constructor
  · rintro ⟨⟨hr, hp⟩, hk⟩
    exact ⟨⟨hr, hk⟩, hp⟩
  · rintro ⟨⟨hr, hk⟩, hp⟩
    exact ⟨⟨hr, hp⟩, hk⟩

theorem insert_rows {t : Table α} {r : α} (h : t.find? (key r) = none) :
    (t.insert r).rows = r :: t.rows := by
  have hfresh : ¬ key r ∈ t.rows.map key := by
    simpa [mem_def] using find?_eq_none_iff.1 h
  simp [insert, hfresh]

theorem insert_of_taken {t : Table α} {r : α} (h : (t.find? (key r)).isSome) :
    t.insert r = t := by
  obtain ⟨s, hs⟩ := Option.isSome_iff_exists.1 h
  have htaken : key r ∈ t.rows.map key := by
    rw [← key_of_find? hs]
    exact List.mem_map_of_mem (mem_of_find? hs)
  simp [insert, htaken]

theorem mem_insert {t : Table α} {r s : α} (h : t.find? (key r) = none) :
    s ∈ t.insert r ↔ s = r ∨ s ∈ t := by
  rw [mem_def, insert_rows h, List.mem_cons, mem_def]

theorem mem_insert_of_mem {t : Table α} {r s : α} (h : s ∈ t) : s ∈ t.insert r := by
  unfold insert
  split
  · exact h
  · exact List.mem_cons_of_mem _ h

theorem mem_or_eq_of_mem_insert {t : Table α} {r s : α} (h : s ∈ t.insert r) :
    s = r ∨ s ∈ t := by
  unfold insert at h
  split at h
  · exact Or.inr h
  · exact List.mem_cons.1 h

theorem find?_insert {t : Table α} {r : α} (h : t.find? (key r) = none) (k : κ) :
    (t.insert r).find? k = if key r = k then some r else t.find? k := by
  unfold find?
  rw [insert_rows h, List.find?_cons]
  by_cases hk : key r = k <;> simp [hk]

omit [DecidableEq κ] in
theorem mem_updateWhere {t : Table α} {p : α → Bool} {f : Update α} {s : α} :
    s ∈ t.updateWhere p f ↔ ∃ r ∈ t, (if p r then f r else r) = s :=
  List.mem_map

theorem mem_update {t : Table α} {k : κ} {f : Update α} {s : α} :
    s ∈ t.update k f ↔ (s ∈ t ∧ key s ≠ k) ∨ ∃ r ∈ t, key r = k ∧ s = f r := by
  unfold update
  rw [mem_updateWhere]
  constructor
  · rintro ⟨r, hr, rfl⟩
    by_cases hk : key r = k
    · exact Or.inr ⟨r, hr, hk, by simp [hk]⟩
    · exact Or.inl ⟨by simpa [hk] using hr, by simp [hk]⟩
  · rintro (⟨hs, hk⟩ | ⟨r, hr, hk, rfl⟩)
    · exact ⟨s, hs, by simp [hk]⟩
    · exact ⟨r, hr, by simp [hk]⟩

/-- The rows after an update of a row that is there. -/
theorem mem_update_of_mem {t : Table α} {k : κ} {f : Update α} {r s : α}
    (hr : r ∈ t) (hk : key r = k) :
    s ∈ t.update k f ↔ (s ∈ t ∧ s ≠ r) ∨ s = f r := by
  rw [mem_update]
  constructor
  · rintro (⟨hs, hne⟩ | ⟨r', hr', hk', rfl⟩)
    · exact Or.inl ⟨hs, fun h => hne (h ▸ hk)⟩
    · exact Or.inr (by rw [eq_of_key hr' hr (hk'.trans hk.symm)])
  · rintro (⟨hs, hne⟩ | rfl)
    · exact Or.inl ⟨hs, fun h => hne (eq_of_key hs hr (h.trans hk.symm))⟩
    · exact Or.inr ⟨r, hr, hk, rfl⟩

/-- Every row after an update is a row before it, rewritten or not. -/
theorem mem_update_iff_exists {t : Table α} {k : κ} {f : Update α} {s : α} :
    s ∈ t.update k f ↔ ∃ r ∈ t, (if key r = k then f r else r) = s := by
  unfold update
  rw [mem_updateWhere]
  simp

theorem update_rows_cons {t : Table α} {r : α} {rest : List α} (h : t.rows = r :: rest)
    (f : Update α) : (t.update (key r) f).rows = f r :: rest := by
  have hothers : ∀ s ∈ rest, key s ≠ key r := by
    have hnodup := t.nodup
    rw [h, List.map_cons, List.nodup_cons] at hnodup
    exact fun s hs heq => hnodup.1 (List.mem_map.2 ⟨s, hs, heq⟩)
  have hrest : rest.map (fun s => if decide (key s = key r) then f s else s) = rest := by
    rw [List.map_congr_left fun s hs => if_neg (by simpa using hothers s hs), List.map_id']
  change t.rows.map (fun s => if decide (key s = key r) then f s else s) = f r :: rest
  rw [h, List.map_cons, hrest, if_pos (decide_eq_true rfl)]
/-- An update of a row that is only sometimes named. -/
def updateOption (t : Table α) (k : Option κ) (f : Update α) : Table α :=
  match k with
  | none => t
  | some k => t.update k f

@[simp] theorem updateOption_none (t : Table α) (f : Update α) : t.updateOption none f = t := rfl

@[simp] theorem updateOption_some (t : Table α) (k : κ) (f : Update α) :
    t.updateOption (some k) f = t.update k f := rfl

theorem mem_updateOption {t : Table α} {k : Option κ} {f : Update α} {s : α} :
    s ∈ t.updateOption k f ↔ ∃ r ∈ t, (if k = some (key r) then f r else r) = s := by
  cases k with
  | none => simp
  | some k =>
      rw [updateOption_some, mem_update_iff_exists]
      simp only [Option.some.injEq, eq_comm]

theorem find?_updateWhere {t : Table α} {p : α → Bool} {f : Update α} (k : κ) :
    (t.updateWhere p f).find? k = (t.find? k).map fun r => if p r then f r else r := by
  cases h : t.find? k with
  | none =>
      rw [Option.map_none, find?_eq_none_iff]
      intro s hs
      obtain ⟨r, hr, rfl⟩ := mem_updateWhere.1 hs
      have hne := find?_eq_none_iff.1 h r hr
      by_cases hp : p r <;> simpa [hp, f.key_apply] using hne
  | some r =>
      obtain ⟨hr, hk⟩ := find?_eq_some_iff.1 h
      rw [Option.map_some, find?_eq_some_iff]
      refine ⟨mem_updateWhere.2 ⟨r, hr, rfl⟩, ?_⟩
      by_cases hp : p r <;> simp [hp, f.key_apply, hk]

theorem find?_update {t : Table α} {k : κ} {f : Update α} (k' : κ) :
    (t.update k f).find? k' = if k' = k then (t.find? k').map f else t.find? k' := by
  unfold update
  rw [find?_updateWhere]
  cases h : t.find? k' with
  | none => simp
  | some r =>
      have hk := key_of_find? h
      by_cases hkk : k' = k <;> simp [hk, hkk]

@[simp] theorem find?_update_self {t : Table α} {k : κ} {f : Update α} :
    (t.update k f).find? k = (t.find? k).map f := by
  simp [find?_update]

theorem find?_update_ne {t : Table α} {k k' : κ} {f : Update α} (h : k' ≠ k) :
    (t.update k f).find? k' = t.find? k' := by
  simp [find?_update, h]

end Write

section Sum

variable {M : Type w} [AddCommGroup M]

/-- `SELECT SUM(weight) FROM t`. -/
def sum (t : Table α) (weight : α → M) : M := (t.rows.map weight).sum

theorem sum_congr {t : Table α} {f g : α → M} (h : ∀ r ∈ t, f r = g r) :
    t.sum f = t.sum g := by
  unfold sum
  rw [List.map_congr_left h]

theorem sum_zero {t : Table α} {f : α → M} (h : ∀ r ∈ t, f r = 0) : t.sum f = 0 := by
  unfold sum
  refine List.sum_eq_zero fun x hx => ?_
  obtain ⟨r, hr, rfl⟩ := List.mem_map.1 hx
  exact h r hr

variable [DecidableEq κ]

theorem sum_insert {t : Table α} {r : α} (h : t.find? (key r) = none) (weight : α → M) :
    (t.insert r).sum weight = weight r + t.sum weight := by
  unfold sum
  rw [insert_rows h, List.map_cons, List.sum_cons]

private theorem sum_map_ite {l : List α} (hl : (l.map key).Nodup) {r : α} (hr : r ∈ l)
    (f : α → α) (weight : α → M) :
    ((l.map fun s => if key s = key r then f s else s).map weight).sum =
      (l.map weight).sum + (weight (f r) - weight r) := by
  induction l with
  | nil => cases hr
  | cons a l ih =>
      obtain ⟨ha, hl'⟩ := List.nodup_cons.1 hl
      rcases List.mem_cons.1 hr with rfl | hmem
      · have hrest : (l.map fun s => if key s = key r then f s else s) = l := by
          refine (List.map_congr_left fun s hs => ?_).trans (List.map_id l)
          have hne : key s ≠ key r := fun h => ha (h ▸ List.mem_map_of_mem hs)
          simp [hne]
        rw [List.map_cons, hrest, List.map_cons, List.sum_cons, List.map_cons,
          List.sum_cons, if_pos rfl]
        abel
      · have hne : key a ≠ key r := fun h => ha (h ▸ List.mem_map_of_mem hmem)
        simp only [List.map_cons, List.sum_cons, hne, if_false]
        rw [ih hl' hmem]
        abel

/-- An update moves a sum by the difference it makes to the one row it rewrites. -/
theorem sum_update {t : Table α} {r : α} {f : Update α} (hr : r ∈ t) (weight : α → M) :
    (t.update (key r) f).sum weight = t.sum weight + (weight (f r) - weight r) := by
  have h := sum_map_ite t.nodup hr f weight
  simpa [sum, update, updateWhere] using h

private theorem sum_map_filter {l : List α} (hl : (l.map key).Nodup) {r : α} (hr : r ∈ l)
    (weight : α → M) :
    ((l.filter fun s => key s ≠ key r).map weight).sum = (l.map weight).sum - weight r := by
  induction l with
  | nil => cases hr
  | cons a l ih =>
      obtain ⟨ha, hl'⟩ := List.nodup_cons.1 hl
      rcases List.mem_cons.1 hr with rfl | hmem
      · have hrest : (l.filter fun s => key s ≠ key r) = l := by
          refine List.filter_eq_self.2 fun s hs => ?_
          have hne : key s ≠ key r := fun h => ha (h ▸ List.mem_map_of_mem hs)
          simp [hne]
        rw [List.filter_cons_of_neg (by simp), hrest, List.map_cons, List.sum_cons]
        abel
      · have hne : key a ≠ key r := fun h => ha (h ▸ List.mem_map_of_mem hmem)
        rw [List.filter_cons_of_pos (by simp [hne]), List.map_cons, List.sum_cons,
          List.map_cons, List.sum_cons, ih hl' hmem]
        abel

theorem sum_delete {t : Table α} {r : α} (hr : r ∈ t) (weight : α → M) :
    (t.delete (key r)).sum weight = t.sum weight - weight r :=
  sum_map_filter t.nodup hr weight

end Sum

end Table

end Relational
