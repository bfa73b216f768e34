import MediaHub.Store.ListingPages

namespace MediaHub.Store.Listing

open Relational
open MediaHub.Core Result
open Keyset (Follows Serves)

section Collect

variable {β ι : Type} (toItem : String → Option β → Except RepositoryError ι)

def itemsOf (rows : List (Entry β)) : List ι :=
  rows.filterMap fun row =>
    if row.isPrefix then none else (toItem row.entryKey row.columns).toOption

def prefixesOf (rows : List (Entry β)) : List String :=
  rows.filterMap fun row => if row.isPrefix then some row.entryKey else none

variable {toItem}

theorem foldlM_collect {rows : List (Entry β)}
    (h : ∀ row ∈ rows, row.isPrefix = false →
      ∃ item, toItem row.entryKey row.columns = .ok item) (page : List ι × List String) :
    rows.foldlM (fun page row =>
      if row.isPrefix then Except.ok (page.1, page.2 ++ [row.entryKey])
      else do
        let item ← toItem row.entryKey row.columns
        .ok (page.1 ++ [item], page.2)) page =
      (.ok (page.1 ++ itemsOf toItem rows, page.2 ++ prefixesOf rows) :
        Except RepositoryError (List ι × List String)) := by
  induction rows generalizing page with
  | nil => simp [itemsOf, prefixesOf, pure, Except.pure]
  | cons row rows ih =>
      have hrest := ih fun other hother => h other (List.mem_cons_of_mem _ hother)
      rw [List.foldlM_cons]
      cases hpre : row.isPrefix with
      | true =>
          simp only [if_true]
          show (rows.foldlM _ (page.1, page.2 ++ [row.entryKey]) :
            Except RepositoryError (List ι × List String)) = _
          rw [hrest]
          simp [itemsOf, prefixesOf, hpre]
      | false =>
          obtain ⟨item, hitem⟩ := h row List.mem_cons_self hpre
          simp only [Bool.false_eq_true, if_false, hitem]
          show (rows.foldlM _ (page.1 ++ [item], page.2) :
            Except RepositoryError (List ι × List String)) = _
          rw [hrest]
          simp [itemsOf, prefixesOf, hpre, hitem, Except.toOption]

theorem collect_eq {rows : List (Entry β)}
    (h : ∀ row ∈ rows, row.isPrefix = false →
      ∃ item, toItem row.entryKey row.columns = .ok item) :
    collect toItem rows = .ok (itemsOf toItem rows, prefixesOf rows) := by
  rw [collect, foldlM_collect h]
  rfl

end Collect

/-- The pages hold what is listed, each item and each common prefix once and in order; and no key
on a page is greater than a key on a later one. -/
structure Complete {π ι : Type} (keyOf : ι → String) (items : π → List ι)
    (prefixes : π → List String) (pages : List π) (Listed : ι → Prop) (Grouped : String → Prop)
    (before : ι → ι → Prop) : Prop where
  items_iff : ∀ item, item ∈ pages.flatMap items ↔ Listed item
  items_ordered : (pages.flatMap items).Pairwise before
  prefixes_iff : ∀ group, group ∈ pages.flatMap prefixes ↔ Grouped group
  prefixes_ordered : (pages.flatMap prefixes).Pairwise (· < ·)
  pages_ordered : pages.Pairwise fun page later =>
    ∀ a ∈ (items page).map keyOf ++ prefixes page,
      ∀ b ∈ (items later).map keyOf ++ prefixes later, a ≤ b

/-- Following the markers from the start ends, and its pages are complete. -/
def Enumerates {π ι μ : Type} (fetch : Option μ → Except RepositoryError π)
    (next : π → Option μ) (keyOf : ι → String) (items : π → List ι) (prefixes : π → List String)
    (Listed : ι → Prop) (Grouped : String → Prop) (before : ι → ι → Prop) : Prop :=
  (∃ pages, Follows fetch next none pages) ∧ ∀ pages, Follows fetch next none pages →
    Complete keyOf items prefixes pages Listed Grouped before

section Complete

variable {β ι π μ κ : Type} [LinearOrder κ] {pre : String} {delimiter : Bool}
  {rows : List (String × β)} {L : Keyset.Listing (Entry β) κ}
  {toItem : String → Option β → Except RepositoryError ι}

theorem mem_itemsOf {list : List (Entry β)} {item : ι} :
    item ∈ itemsOf toItem list ↔ ∃ entry ∈ list, entry.isPrefix = false ∧
      toItem entry.entryKey entry.columns = .ok item := by
  have hoption : ∀ result : Except RepositoryError ι,
      result.toOption = some item ↔ result = .ok item := by
    rintro (_ | _) <;> simp [Except.toOption]
  simp only [itemsOf, List.mem_filterMap]
  constructor
  · rintro ⟨entry, hentry, heq⟩
    split at heq
    · cases heq
    · rename_i hpre
      exact ⟨entry, hentry, by simpa using hpre, (hoption _).1 heq⟩
  · rintro ⟨entry, hentry, hpre, heq⟩
    refine ⟨entry, hentry, ?_⟩
    rw [if_neg (by simp [hpre]), (hoption _).2 heq]

theorem mem_prefixesOf {list : List (Entry β)} {group : String} :
    group ∈ prefixesOf list ↔ ∃ entry ∈ list, entry.isPrefix = true ∧ entry.entryKey = group := by
  simp only [prefixesOf, List.mem_filterMap]
  constructor
  · rintro ⟨entry, hentry, heq⟩
    split at heq
    · rename_i hpre
      exact ⟨entry, hentry, hpre, Option.some.inj heq⟩
    · cases heq
  · rintro ⟨entry, hentry, hpre, rfl⟩
    exact ⟨entry, hentry, if_pos hpre⟩

/-- How the rows of a listing become the items of its pages. -/
structure Renders (L : Keyset.Listing (Entry β) κ) (pre : String) (delimiter : Bool)
    (rows : List (String × β)) (toItem : String → Option β → Except RepositoryError ι)
    (keyOf : ι → String) (before : ι → ι → Prop) : Prop where
  lawful : L.Lawful
  entries_eq : L.entries = entries pre delimiter rows
  keys_le : ∀ entry other, L.position entry < L.position other → entry.entryKey ≤ other.entryKey
  key_eq : ∀ row ∈ rows, ∀ item, toItem row.1 (some row.2) = .ok item → keyOf item = row.1
  before_of_lt : ∀ row ∈ rows, ∀ row' ∈ rows,
    L.position (keyEntry row) < L.position (keyEntry row') → ∀ item item',
      toItem row.1 (some row.2) = .ok item → toItem row'.1 (some row'.2) = .ok item' →
        before item item'

variable {keyOf : ι → String} {before : ι → ι → Prop}

namespace Renders

/-- The entry that an item is made of. -/
theorem keyEntry_of_item (h : Renders L pre delimiter rows toItem keyOf before)
    {entry : Entry β} (hentry : entry ∈ L.entries) (hpre : entry.isPrefix = false) :
    ∃ row ∈ rows, entry = keyEntry row := by
  rw [h.entries_eq] at hentry
  rcases mem_entries.1 hentry with ⟨row, hrow, _, rfl⟩ | ⟨_, row, _, _, rfl⟩
  · exact ⟨row, hrow, rfl⟩
  · cases hpre

theorem keyOf_item (h : Renders L pre delimiter rows toItem keyOf before) {entry : Entry β}
    (hentry : entry ∈ L.entries) (hpre : entry.isPrefix = false) {item : ι}
    (hitem : toItem entry.entryKey entry.columns = .ok item) : keyOf item = entry.entryKey := by
  obtain ⟨row, hrow, rfl⟩ := h.keyEntry_of_item hentry hpre
  exact h.key_eq row hrow item hitem

theorem items_iff (h : Renders L pre delimiter rows toItem keyOf before) {item : ι} :
    item ∈ itemsOf toItem L.sorted ↔ ∃ row ∈ rows,
      (delimiter = true → hasDelimiter pre row.1 = false) ∧
        toItem row.1 (some row.2) = .ok item := by
  rw [mem_itemsOf]
  constructor
  · rintro ⟨entry, hentry, hpre, hitem⟩
    rw [L.mem_sorted, h.entries_eq] at hentry
    rcases mem_entries.1 hentry with ⟨row, hrow, hnone, rfl⟩ | ⟨_, row, _, _, rfl⟩
    · exact ⟨row, hrow, hnone, hitem⟩
    · cases hpre
  · rintro ⟨row, hrow, hnone, hitem⟩
    refine ⟨keyEntry row, ?_, rfl, hitem⟩
    rw [L.mem_sorted, h.entries_eq]
    exact mem_entries.2 (Or.inl ⟨row, hrow, hnone, rfl⟩)

theorem prefixes_iff (h : Renders L pre delimiter rows toItem keyOf before) {group : String} :
    group ∈ prefixesOf L.sorted ↔ delimiter = true ∧ ∃ row ∈ rows,
      hasDelimiter pre row.1 = true ∧ group = prefixEntry pre (firstPart pre row.1) := by
  rw [mem_prefixesOf]
  constructor
  · rintro ⟨entry, hentry, hpre, rfl⟩
    rw [L.mem_sorted, h.entries_eq] at hentry
    rcases mem_entries.1 hentry with ⟨row, _, _, rfl⟩ | ⟨hdelimiter, row, hrow, hgrouped, rfl⟩
    · cases hpre
    · exact ⟨hdelimiter, row, hrow, hgrouped, rfl⟩
  · rintro ⟨hdelimiter, row, hrow, hgrouped, rfl⟩
    refine ⟨⟨prefixEntry pre (firstPart pre row.1), true, none⟩, ?_, rfl, rfl⟩
    rw [L.mem_sorted, h.entries_eq]
    exact mem_entries.2 (Or.inr ⟨hdelimiter, row, hrow, hgrouped, rfl⟩)

theorem items_ordered (h : Renders L pre delimiter rows toItem keyOf before) :
    (itemsOf toItem L.sorted).Pairwise before := by
  rw [itemsOf, List.pairwise_filterMap]
  refine h.lawful.pairwise_sorted.imp_of_mem ?_
  intro entry other hentry hother hlt item hitem item' hitem'
  have hmem : ∀ {entry : Entry β} {item : ι}, entry ∈ L.sorted →
      (if entry.isPrefix then none else (toItem entry.entryKey entry.columns).toOption) =
        some item → ∃ row ∈ rows, entry = keyEntry row ∧ toItem row.1 (some row.2) = .ok item := by
    intro entry item hentry hitem
    have hin : item ∈ itemsOf toItem [entry] := List.mem_filterMap.2 ⟨entry, by simp, hitem⟩
    obtain ⟨_, hsingle, hpre, hitem⟩ := mem_itemsOf.1 hin
    rw [List.mem_singleton.1 hsingle] at hpre hitem
    obtain ⟨row, hrow, rfl⟩ := h.keyEntry_of_item (L.mem_sorted.1 hentry) hpre
    exact ⟨row, hrow, rfl, hitem⟩
  obtain ⟨row, hrow, rfl, hread⟩ := hmem hentry hitem
  obtain ⟨row', hrow', rfl, hread'⟩ := hmem hother hitem'
  exact h.before_of_lt row hrow row' hrow' hlt item item' hread hread'

theorem prefixes_ordered (h : Renders L pre delimiter rows toItem keyOf before) :
    (prefixesOf L.sorted).Pairwise (· < ·) := by
  rw [prefixesOf, List.pairwise_filterMap]
  refine h.lawful.pairwise_sorted.imp_of_mem ?_
  intro entry other hentry hother hlt group hgroup group' hgroup'
  split at hgroup
  · rename_i hpre
    split at hgroup'
    · rename_i hpre'
      cases hgroup
      cases hgroup'
      refine lt_of_le_of_ne (h.keys_le entry other hlt) fun heq => ?_
      rw [L.mem_sorted, h.entries_eq] at hentry hother
      have hsame : entry = other := by
        rcases columns_of_mem_entries hentry with ⟨_, hnone⟩ | ⟨hfalse, _⟩
        · rcases columns_of_mem_entries hother with ⟨_, hnone'⟩ | ⟨hfalse', _⟩
          · cases entry
            cases other
            simp_all
          · exact absurd (hpre'.symm.trans hfalse') (by decide)
        · exact absurd (hpre.symm.trans hfalse) (by decide)
      exact lt_irrefl _ (hsame ▸ hlt)
    · cases hgroup'
  · cases hgroup

end Renders

variable {fetch : Option μ → Except RepositoryError π} {next : π → Option μ} {marker : Entry β → μ}
  {render : List (Entry β) × Option (Entry β) → π} {items : π → List ι}
  {prefixes : π → List String} {limit : Nat}

theorem exists_complete (h : Renders L pre delimiter rows toItem keyOf before)
    (hlimit : 0 < limit) (hserves : Serves L limit fetch next marker render)
    (hitems : ∀ list last, items (render (list, last)) = itemsOf toItem list)
    (hprefixes : ∀ list last, prefixes (render (list, last)) = prefixesOf list) :
    ∃ pages, Follows fetch next none pages ∧ Complete keyOf items prefixes pages
      (fun item => ∃ row ∈ rows, (delimiter = true → hasDelimiter pre row.1 = false) ∧
        toItem row.1 (some row.2) = .ok item)
      (fun group => delimiter = true ∧ ∃ row ∈ rows, hasDelimiter pre row.1 = true ∧
        group = prefixEntry pre (firstPart pre row.1)) before := by
  obtain ⟨windows, hfollows, hflatten⟩ := hserves.follows h.lawful hlimit
  have hallItems : (windows.map render).flatMap items = itemsOf toItem L.sorted := by
    rw [← hflatten]
    clear hfollows hflatten
    induction windows with
    | nil => rfl
    | cons window windows ih =>
        simp only [List.map_cons, List.flatMap_cons, List.flatten_cons, ih]
        simp only [itemsOf, List.filterMap_append]
        rw [← itemsOf, ← itemsOf, ← hitems window.1 window.2]
  have hallPrefixes : (windows.map render).flatMap prefixes = prefixesOf L.sorted := by
    rw [← hflatten]
    clear hfollows hflatten hallItems
    induction windows with
    | nil => rfl
    | cons window windows ih =>
        simp only [List.map_cons, List.flatMap_cons, List.flatten_cons, ih]
        simp only [prefixesOf, List.filterMap_append]
        rw [← prefixesOf, ← prefixesOf, ← hprefixes window.1 window.2]
  refine ⟨windows.map render, hfollows, ?_, ?_, ?_, ?_, ?_⟩
  · intro item
    rw [hallItems, h.items_iff]
  · rw [hallItems]
    exact h.items_ordered
  · intro group
    rw [hallPrefixes, h.prefixes_iff]
  · rw [hallPrefixes]
    exact h.prefixes_ordered
  · have hsorted := h.lawful.pairwise_sorted
    have hmem : ∀ list ∈ windows.map (·.1), ∀ entry ∈ list, entry ∈ L.entries := by
      intro list hlist entry hentry
      rw [← L.mem_sorted, ← hflatten]
      exact List.mem_flatten.2 ⟨list, hlist, hentry⟩
    rw [← hflatten, List.pairwise_flatten, List.pairwise_map] at hsorted
    rw [List.pairwise_map]
    have hkeys : ∀ window ∈ windows, ∀ key ∈ (items (render window)).map keyOf ++
        prefixes (render window), ∃ entry ∈ window.1, entry.entryKey = key := by
      intro window hwindow key hkey
      have hlist := hmem window.1 (List.mem_map.2 ⟨window, hwindow, rfl⟩)
      rcases List.mem_append.1 hkey with hitem | hgroup
      · obtain ⟨item, hshown, rfl⟩ := List.mem_map.1 hitem
        rw [hitems window.1 window.2] at hshown
        obtain ⟨entry, hentry, hpre, hread⟩ := mem_itemsOf.1 hshown
        exact ⟨entry, hentry, (h.keyOf_item (hlist entry hentry) hpre hread).symm⟩
      · rw [hprefixes window.1 window.2] at hgroup
        obtain ⟨entry, hentry, _, rfl⟩ := mem_prefixesOf.1 hgroup
        exact ⟨entry, hentry, rfl⟩
    refine hsorted.2.imp_of_mem ?_
    intro window later hwindow hlater hlt a ha b hb
    obtain ⟨entry, hentry, rfl⟩ := hkeys window hwindow a ha
    obtain ⟨other, hother, rfl⟩ := hkeys later hlater b hb
    exact h.keys_le entry other (hlt entry hentry other hother)

theorem enumerates (h : Renders L pre delimiter rows toItem keyOf before)
    (hlimit : 0 < limit) (hserves : Serves L limit fetch next marker render)
    (hitems : ∀ list last, items (render (list, last)) = itemsOf toItem list)
    (hprefixes : ∀ list last, prefixes (render (list, last)) = prefixesOf list)
    {Listed : ι → Prop} {Grouped : String → Prop}
    (hlisted : ∀ item, (∃ row ∈ rows, (delimiter = true → hasDelimiter pre row.1 = false) ∧
      toItem row.1 (some row.2) = .ok item) ↔ Listed item)
    (hgrouped : ∀ group, (delimiter = true ∧ ∃ row ∈ rows, hasDelimiter pre row.1 = true ∧
      group = prefixEntry pre (firstPart pre row.1)) ↔ Grouped group) :
    Enumerates fetch next keyOf items prefixes Listed Grouped before := by
  obtain ⟨pages, hfollows, hcomplete⟩ := exists_complete h hlimit hserves hitems hprefixes
  refine ⟨⟨pages, hfollows⟩, fun pages' hfollows' => ?_⟩
  rw [← hfollows.unique hfollows']
  exact { hcomplete with
    items_iff := fun item => (hcomplete.items_iff item).trans (hlisted item)
    prefixes_iff := fun group => (hcomplete.prefixes_iff group).trans (hgrouped group) }

end Complete

end MediaHub.Store.Listing
