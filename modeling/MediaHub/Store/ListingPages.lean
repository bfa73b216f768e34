import Mathlib.Data.List.Dedup
import Mathlib.Data.List.TakeWhile
import MediaHub.Store.Listing

namespace MediaHub.Store.Listing

open Relational
open MediaHub.Core Result

/-- The key has the prefix, and no delimiter after it where the keys are grouped. -/
def Ungrouped (pre : String) (delimiter : Bool) (key : String) : Prop :=
  ∃ rest, key.toList = pre.toList ++ rest ∧ (delimiter = true → '/' ∉ rest)

/-- The key lies under a common prefix, which ends at the first delimiter. -/
def Groups (pre key group : String) : Prop :=
  ∃ part rest, '/' ∉ part ∧ key.toList = pre.toList ++ part ++ '/' :: rest ∧
    group.toList = pre.toList ++ part ++ ['/']

theorem hasPrefix_iff {pre key : String} :
    hasPrefix pre key = true ↔ key.toList = pre.toList ++ relativeKey pre key := by
  simp only [hasPrefix, relativeKey, decide_eq_true_eq]
  constructor
  · intro h
    calc key.toList
        = key.toList.take pre.toList.length ++ key.toList.drop pre.toList.length :=
          (List.take_append_drop _ _).symm
      _ = pre.toList ++ key.toList.drop pre.toList.length := by rw [h]
  · intro h
    rw [h, List.take_left]

theorem hasDelimiter_iff {pre key : String} :
    hasDelimiter pre key = true ↔ '/' ∈ relativeKey pre key := by
  simp [hasDelimiter]

theorem ungrouped_iff {pre key : String} {delimiter : Bool} :
    Ungrouped pre delimiter key ↔
      hasPrefix pre key = true ∧ (delimiter = true → hasDelimiter pre key = false) := by
  rw [hasPrefix_iff]
  constructor
  · rintro ⟨rest, hkey, hrest⟩
    have hrelative : relativeKey pre key = rest := by rw [relativeKey, hkey, List.drop_left]
    refine ⟨by rw [hrelative, hkey], fun hdelimiter => ?_⟩
    rw [Bool.eq_false_iff, ne_eq, hasDelimiter_iff, hrelative]
    exact hrest hdelimiter
  · rintro ⟨hkey, hnone⟩
    refine ⟨_, hkey, fun hdelimiter hmem => ?_⟩
    exact absurd (hasDelimiter_iff.2 hmem) (by simp [hnone hdelimiter])

theorem toList_prefixEntry (pre : String) (part : List Char) :
    (prefixEntry pre part).toList = pre.toList ++ part ++ ['/'] := by
  simp [prefixEntry, String.toList_append]

theorem prefixEntry_injective (pre : String) : Function.Injective (prefixEntry pre) := by
  intro part part' h
  have hlists := congrArg String.toList h
  rw [toList_prefixEntry, toList_prefixEntry] at hlists
  exact List.append_cancel_left (List.append_cancel_right hlists)

theorem firstPart_append (pre key : String) (h : hasDelimiter pre key = true) :
    '/' ∉ firstPart pre key ∧
      ∃ rest, relativeKey pre key = firstPart pre key ++ '/' :: rest := by
  rw [hasDelimiter_iff] at h
  refine ⟨fun hmem => ?_, ?_⟩
  · have hne := List.mem_takeWhile_imp hmem
    simp at hne
  · have hsplit := @List.takeWhile_append_dropWhile _ (· ≠ '/') (relativeKey pre key)
    cases hdrop : (relativeKey pre key).dropWhile (· ≠ '/') with
    | nil =>
        rw [hdrop, List.append_nil] at hsplit
        rw [← hsplit] at h
        have hne := List.mem_takeWhile_imp h
        simp at hne
    | cons c rest =>
        have hc : c = '/' := by
          have hhead := List.head?_dropWhile_not (· ≠ '/') (relativeKey pre key)
          rw [hdrop] at hhead
          simpa using hhead
        rw [hdrop, hc] at hsplit
        exact ⟨rest, hsplit.symm⟩

theorem groups_iff {pre key group : String} :
    Groups pre key group ↔ hasPrefix pre key = true ∧ hasDelimiter pre key = true ∧
      group = prefixEntry pre (firstPart pre key) := by
  constructor
  · rintro ⟨part, rest, hpart, hkey, hgroup⟩
    have hrelative : relativeKey pre key = part ++ '/' :: rest := by
      rw [relativeKey, hkey, List.append_assoc, List.drop_left]
    have hfirst : firstPart pre key = part := by
      rw [firstPart, hrelative, List.takeWhile_append_of_pos]
      · simp
      · intro c hc
        simpa using fun heq : c = '/' => hpart (heq ▸ hc)
    refine ⟨?_, ?_, ?_⟩
    · rw [hasPrefix_iff, hrelative, hkey, List.append_assoc]
    · rw [hasDelimiter_iff, hrelative]
      exact List.mem_append_right _ List.mem_cons_self
    · rw [← String.toList_inj, toList_prefixEntry, hfirst, hgroup]
  · rintro ⟨hpre, hdelimiter, rfl⟩
    obtain ⟨hpart, rest, hrelative⟩ := firstPart_append pre key hdelimiter
    refine ⟨firstPart pre key, rest, hpart, ?_, toList_prefixEntry _ _⟩
    rw [List.append_assoc, ← hrelative]
    exact hasPrefix_iff.1 hpre

section Entries

variable {β : Type} {pre : String} {delimiter : Bool} {rows : List (String × β)}

theorem mem_entries {entry : Entry β} :
    entry ∈ entries pre delimiter rows ↔
      (∃ row ∈ rows, (delimiter = true → hasDelimiter pre row.1 = false) ∧ keyEntry row = entry) ∨
      (delimiter = true ∧ ∃ row ∈ rows, hasDelimiter pre row.1 = true ∧
        entry = ⟨prefixEntry pre (firstPart pre row.1), true, none⟩) := by
  unfold entries
  cases delimiter with
  | false => simp
  | true =>
      simp only [if_true, List.mem_append, List.mem_map, List.mem_filter, List.mem_dedup,
        Bool.not_eq_true', true_implies, true_and]
      constructor
      · rintro (⟨row, ⟨hrow, hnone⟩, heq⟩ | ⟨_, ⟨row, ⟨hrow, hdelimiter⟩, rfl⟩, rfl⟩)
        · exact Or.inl ⟨row, hrow, hnone, heq⟩
        · exact Or.inr ⟨row, hrow, hdelimiter, rfl⟩
      · rintro (⟨row, hrow, hnone, heq⟩ | ⟨row, hrow, hdelimiter, rfl⟩)
        · exact Or.inl ⟨row, ⟨hrow, hnone⟩, heq⟩
        · exact Or.inr ⟨_, ⟨row, ⟨hrow, hdelimiter⟩, rfl⟩, rfl⟩

theorem columns_of_mem_entries {entry : Entry β} (h : entry ∈ entries pre delimiter rows) :
    entry.isPrefix = true ∧ entry.columns = none ∨
      entry.isPrefix = false ∧ ∃ columns, entry.columns = some columns ∧
        (entry.entryKey, columns) ∈ rows := by
  rcases mem_entries.1 h with ⟨row, hrow, _, rfl⟩ | ⟨_, row, _, _, rfl⟩
  · exact Or.inr ⟨rfl, row.2, rfl, hrow⟩
  · exact Or.inl ⟨rfl, rfl⟩

/-- A key and a common prefix are never equal. -/
theorem entryKey_ne {entry other : Entry β} (h : entry ∈ entries pre delimiter rows)
    (h' : other ∈ entries pre delimiter rows) (hkey : entry.isPrefix = false)
    (hpre : other.isPrefix = true) : entry.entryKey ≠ other.entryKey := by
  intro heq
  rcases mem_entries.1 h with ⟨row, _, hnone, rfl⟩ | ⟨_, row, _, _, rfl⟩
  · rcases mem_entries.1 h' with ⟨row', _, _, rfl⟩ | ⟨hdelimiter, row', _, _, rfl⟩
    · cases hpre
    · have hmem : '/' ∈ relativeKey pre row.1 := by
        have hkeys : row.1 = prefixEntry pre (firstPart pre row'.1) := heq
        rw [relativeKey, hkeys, toList_prefixEntry, List.append_assoc, List.drop_left]
        simp
      exact absurd (hasDelimiter_iff.2 hmem) (by simp [hnone hdelimiter])
  · cases hkey

theorem nodup_entries (h : rows.Nodup) : (entries pre delimiter rows).Nodup := by
  have hinjective : Function.Injective (keyEntry : String × β → Entry β) := by
    rintro ⟨key, columns⟩ ⟨key', columns'⟩ heq
    cases heq
    rfl
  unfold entries
  cases delimiter with
  | false => exact h.map hinjective
  | true =>
      refine List.Nodup.append ((h.filter _).map hinjective) ((List.nodup_dedup _).map ?_) ?_
      · intro part part' heq
        exact prefixEntry_injective pre (congrArg Entry.entryKey heq)
      · intro entry hkey hgroup
        obtain ⟨row, _, rfl⟩ := List.mem_map.1 hkey
        obtain ⟨part, _, heq⟩ := List.mem_map.1 hgroup
        exact absurd (congrArg Entry.isPrefix heq) (by simp [keyEntry])

variable {κ : Type} [LinearOrder κ] {rank : β → κ}

omit [LinearOrder κ] in
/-- Positions tell the entries apart if keys and ranks tell the rows apart. -/
theorem position_injective
    (hrows : ∀ row ∈ rows, ∀ row' ∈ rows, row.1 = row'.1 → rank row.2 = rank row'.2 → row = row')
    {entry other : Entry β} (h : entry ∈ entries pre delimiter rows)
    (h' : other ∈ entries pre delimiter rows) (heq : position rank entry = position rank other) :
    entry = other := by
  have hkey : entry.entryKey = other.entryKey := congrArg (fun p => (ofLex p).1) heq
  have hpre : entry.isPrefix = other.isPrefix :=
    congrArg (fun p => (ofLex (ofLex p).2).1) heq
  have hcolumns : entry.columns = other.columns := by
    rcases columns_of_mem_entries h with ⟨_, hnone⟩ | ⟨hfalse, columns, hsome, hrow⟩ <;>
      rcases columns_of_mem_entries h' with ⟨_, hnone'⟩ | ⟨hfalse', columns', hsome', hrow'⟩
    · rw [hnone, hnone']
    · simp_all
    · simp_all
    · have hranks : (entry.columns.elim ⊤ fun columns => (rank columns : WithTop κ)) =
          other.columns.elim ⊤ fun columns => (rank columns : WithTop κ) :=
        congrArg (fun p => (ofLex (ofLex p).2).2) heq
      rw [hsome, hsome'] at hranks
      have hsame := hrows _ hrow _ hrow' hkey (WithTop.coe_injective hranks)
      rw [hsome, hsome', (Prod.mk.inj hsame).2]
  cases entry
  cases other
  simp_all

/-- The condition on the rows of the next page is that they come after the last row. -/
theorem afterMarker_iff {isAfter : β → β → Bool}
    (hafter : ∀ columns columns', isAfter columns columns' = true ↔ rank columns < rank columns')
    {entry other : Entry β} (h : entry ∈ entries pre delimiter rows)
    (h' : other ∈ entries pre delimiter rows) :
    afterMarker (some entry.entryKey) (entry.columns.map isAfter) other = true ↔
      position rank entry < position rank other := by
  rw [position, position, Prod.Lex.toLex_lt_toLex]
  simp only [Prod.Lex.toLex_lt_toLex]
  rcases columns_of_mem_entries h with ⟨hpre, hnone⟩ | ⟨hfalse, columns, hsome, _⟩
  · cases hother : other.isPrefix <;> simp [afterMarker, hpre, hnone]
  · rcases columns_of_mem_entries h' with ⟨hpre', hnone'⟩ | ⟨hfalse', columns', hsome', _⟩
    · have hne := entryKey_ne h h' hfalse hpre'
      simp [afterMarker, hsome, hnone', hpre', hne]
    · simp only [afterMarker, hsome, hsome', hfalse, hfalse', Option.map_some, Option.any_some,
        hafter, Bool.or_eq_true, Bool.and_eq_true, decide_eq_true_eq, Bool.not_false, and_true,
        Option.elim_some, WithTop.coe_lt_coe, lt_self_iff_false, false_or, true_and,
        @eq_comm _ other.entryKey]

end Entries

end MediaHub.Store.Listing
