import Mathlib.Algebra.Order.BigOperators.Group.List
import Mathlib.Algebra.Order.Group.Int
import Mathlib.Data.List.Sort
import MediaHub.Relational.Table

namespace Relational

universe u v w

open Keyed

namespace Update

variable {α : Type u} {κ : Type v} [Keyed α κ]

/-- First `f`, then `g`. -/
def comp (g f : Update α) : Update α where
  apply r := g (f r)
  key_apply r := (g.key_apply (f r)).trans (f.key_apply r)

@[simp] theorem comp_apply (g f : Update α) (r : α) : g.comp f r = g (f r) := rfl

variable [DecidableEq κ]

/-- `f` on the one row that has this key, if any is named. -/
def only (k : Option κ) (f : Update α) : Update α where
  apply r := if k = some (key r) then f r else r
  key_apply r := by
    by_cases h : k = some (key r) <;> simp [h, f.key_apply]

theorem only_apply (k : Option κ) (f : Update α) (r : α) :
    f.only k r = if k = some (key r) then f r else r := rfl

theorem only_comp_only (k : Option κ) (f g : Update α) :
    (g.only k).comp (f.only k) = (g.comp f).only k := by
  ext r
  by_cases h : k = some (key r)
  · have hf : k = some (key (f r)) := h.trans (congrArg some (f.key_apply r)).symm
    rw [comp_apply, only_apply k f, if_pos h, only_apply, if_pos hf, only_apply, if_pos h,
      comp_apply]
  · simp only [comp_apply, only_apply, if_neg h]

end Update

namespace Table

variable {α : Type u} {κ : Type v} [Keyed α κ]

theorem ext_rows {t t' : Table α} (h : t.rows = t'.rows) : t = t' := by
  cases t
  cases t'
  cases h
  rfl

/-- Every row is rewritten. -/
def rewrite (t : Table α) (f : Update α) : Table α := t.updateWhere (fun _ => true) f

theorem mem_rewrite {t : Table α} {f : Update α} {s : α} :
    s ∈ t.rewrite f ↔ ∃ r ∈ t, f r = s := by
  simp [rewrite, mem_updateWhere]

theorem rewrite_rows (t : Table α) (f : Update α) : (t.rewrite f).rows = t.rows.map f.apply := by
  simp [rewrite, updateWhere]

@[simp] theorem rewrite_rewrite (t : Table α) (f g : Update α) :
    (t.rewrite f).rewrite g = t.rewrite (g.comp f) := by
  refine ext_rows ?_
  simp only [rewrite_rows, List.map_map]
  rfl

theorem rewrite_self {t : Table α} {f : Update α} (h : ∀ r ∈ t, f r = r) : t.rewrite f = t := by
  refine ext_rows ?_
  rw [rewrite_rows, List.map_congr_left h]
  exact List.map_id _

/-- `SELECT ... WHERE p ORDER BY r LIMIT n` gives rows of the table, each key once. -/
theorem mem_of_selected {t : Table α} {p : α → Bool} {r : α → α → Prop} [DecidableRel r]
    {n : Nat} {s : α} (h : s ∈ ((t.rows.filter p).insertionSort r).take n) : s ∈ t ∧ p s := by
  have hsorted := (List.mem_insertionSort r).1 (List.mem_of_mem_take h)
  exact List.mem_filter.1 hsorted

theorem nodup_selected (t : Table α) (p : α → Bool) (r : α → α → Prop) [DecidableRel r]
    (n : Nat) : ((((t.rows.filter p).insertionSort r).take n).map key).Nodup := by
  have hfiltered : ((t.rows.filter p).map key).Nodup :=
    t.nodup.sublist (List.filter_sublist.map key)
  have hsorted : (((t.rows.filter p).insertionSort r).map key).Nodup :=
    ((List.perm_insertionSort r _).map key).nodup_iff.2 hfiltered
  exact hsorted.sublist ((List.take_sublist _ _).map key)

section Keys

variable [DecidableEq κ]

theorem updateOption_eq_rewrite (t : Table α) (k : Option κ) (f : Update α) :
    t.updateOption k f = t.rewrite (f.only k) := by
  refine ext_rows ?_
  rw [rewrite_rows]
  cases k with
  | none => exact (List.map_id _).symm
  | some k =>
      refine List.map_congr_left fun r _ => ?_
      simp [Update.only_apply, eq_comm]

theorem update_eq_rewrite (t : Table α) (k : κ) (f : Update α) :
    t.update k f = t.rewrite (f.only (some k)) :=
  updateOption_eq_rewrite t (some k) f

theorem update_update (t : Table α) (k : κ) (f g : Update α) :
    (t.update k f).update k g = t.update k (g.comp f) := by
  simp only [update_eq_rewrite, rewrite_rewrite, Update.only_comp_only]

theorem update_self {t : Table α} {k : κ} {f : Update α} (h : ∀ r ∈ t, f r = r) :
    t.update k f = t := by
  rw [update_eq_rewrite]
  refine rewrite_self fun r hr => ?_
  by_cases hk : some k = some (key r) <;> simp [Update.only_apply, hk, h r hr]

theorem find?_rewrite (t : Table α) (f : Update α) (k : κ) :
    (t.rewrite f).find? k = (t.find? k).map f.apply := by
  simp [rewrite, find?_updateWhere]

end Keys

section Sum

variable {M : Type w} [AddCommGroup M]

theorem sum_rewrite (t : Table α) (f : Update α) (weight : α → M) :
    (t.rewrite f).sum weight = t.sum fun r => weight (f r) := by
  simp only [sum, rewrite_rows, List.map_map]
  rfl

private theorem sum_map_differ {l : List α} (hl : (l.map key).Nodup) {r : α} (hr : r ∈ l)
    {f g : α → M} (h : ∀ s ∈ l, s ≠ r → f s = g s) :
    (l.map f).sum = (l.map g).sum + (f r - g r) := by
  induction l with
  | nil => cases hr
  | cons a l ih =>
      obtain ⟨ha, hl'⟩ := List.nodup_cons.1 hl
      simp only [List.map_cons, List.sum_cons]
      rcases List.mem_cons.1 hr with rfl | hmem
      · have hrest : l.map f = l.map g := List.map_congr_left fun s hs =>
          h s (List.mem_cons_of_mem _ hs) fun heq => ha (heq ▸ List.mem_map_of_mem hs)
        rw [hrest]
        abel
      · have hne : a ≠ r := fun heq => ha (heq ▸ List.mem_map_of_mem hmem)
        rw [ih hl' hmem fun s hs => h s (List.mem_cons_of_mem _ hs),
          h a List.mem_cons_self hne]
        abel

/-- Two weights that differ at one row only have sums that differ as much. -/
theorem sum_differ {t : Table α} {r : α} (hr : r ∈ t) {f g : α → M}
    (h : ∀ s ∈ t, s ≠ r → f s = g s) : t.sum f = t.sum g + (f r - g r) :=
  sum_map_differ t.nodup hr h

end Sum

end Table

variable {α : Type u} {κ : Type v} [Keyed α κ]

/-- What one row adds to an aggregate. -/
def weigh (p : α → Bool) (weight : α → Int) (r : α) : Int := if p r then weight r else 0

namespace Table

variable {p : α → Bool} {weight : α → Int}

/-- `SELECT COALESCE(SUM(weight), 0) FROM t WHERE p`. -/
def sumWhere (t : Table α) (p : α → Bool) (weight : α → Int) : Int := t.sum (weigh p weight)

@[simp] theorem sumWhere_empty : (∅ : Table α).sumWhere p weight = 0 := rfl

theorem sumWhere_nonneg {t : Table α} (hweight : ∀ r ∈ t, 0 ≤ weight r) :
    0 ≤ t.sumWhere p weight := by
  refine List.sum_nonneg ?_
  rintro x hx
  obtain ⟨s, hs, rfl⟩ := List.mem_map.1 hx
  unfold weigh
  split
  · exact hweight s hs
  · exact le_refl 0

/-- No row alone outweighs the sum. -/
theorem le_sumWhere {t : Table α} (hweight : ∀ r ∈ t, 0 ≤ weight r) {r : α} (hr : r ∈ t)
    (hp : p r = true) : weight r ≤ t.sumWhere p weight := by
  have hweigh : weigh p weight r = weight r := if_pos hp
  rw [← hweigh]
  refine List.single_le_sum ?_ _ (List.mem_map_of_mem hr)
  rintro x hx
  obtain ⟨s, hs, rfl⟩ := List.mem_map.1 hx
  unfold weigh
  split
  · exact hweight s hs
  · exact le_refl 0

theorem sumWhere_rewrite (t : Table α) {f : Update α}
    (h : ∀ r ∈ t, weigh p weight (f r) = weigh p weight r) :
    (t.rewrite f).sumWhere p weight = t.sumWhere p weight := by
  unfold sumWhere
  rw [sum_rewrite]
  exact sum_congr h

/-- A rewriting that matters for one row only. -/
theorem sumWhere_rewrite_one {t : Table α} {f : Update α} {r : α} (hr : r ∈ t)
    (h : ∀ s ∈ t, s ≠ r → weigh p weight (f s) = weigh p weight s) :
    (t.rewrite f).sumWhere p weight =
      t.sumWhere p weight + (weigh p weight (f r) - weigh p weight r) := by
  unfold sumWhere
  rw [sum_rewrite]
  exact sum_differ hr h

variable [DecidableEq κ]

theorem sumWhere_insert {t : Table α} {r : α} (h : t.find? (key r) = none) :
    (t.insert r).sumWhere p weight = weigh p weight r + t.sumWhere p weight :=
  sum_insert h _

theorem sumWhere_update {t : Table α} {k : κ} {r : α} {f : Update α} (hr : r ∈ t)
    (hk : key r = k) :
    (t.update k f).sumWhere p weight =
      t.sumWhere p weight + (weigh p weight (f r) - weigh p weight r) := by
  subst hk
  exact sum_update hr _

theorem sumWhere_delete {t : Table α} {k : κ} {r : α} (hr : r ∈ t) (hk : key r = k) :
    (t.delete k).sumWhere p weight = t.sumWhere p weight - weigh p weight r := by
  subst hk
  exact sum_delete hr _

/-- An update of columns that the aggregate does not read. -/
theorem sumWhere_update_same (t : Table α) (k : κ) {f : Update α}
    (h : ∀ r ∈ t, weigh p weight (f r) = weigh p weight r) :
    (t.update k f).sumWhere p weight = t.sumWhere p weight := by
  rw [update_eq_rewrite]
  refine sumWhere_rewrite t fun r hr => ?_
  rw [Update.only_apply]
  split
  · exact h r hr
  · rfl

/-- The aggregate over one key is its row's weight. -/
theorem sumWhere_key {t : Table α} {r : α} (hr : r ∈ t) (weight : α → Int) :
    t.sumWhere (fun s => key s = key r) weight = weight r := by
  have hzero : ∀ s ∈ t, s ≠ r →
      weigh (fun s => decide (key s = key r)) weight s = (fun _ : α => (0 : Int)) s := by
    rintro s hs hne
    refine if_neg ?_
    simp only [decide_eq_true_eq]
    exact fun hkey => hne (eq_of_key hs hr hkey)
  unfold sumWhere
  rw [sum_differ hr hzero, sum_zero fun _ _ => rfl]
  simp [weigh]

end Table

end Relational
