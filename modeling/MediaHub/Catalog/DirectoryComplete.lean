import MediaHub.Catalog.FlatComplete
import MediaHub.Catalog.Cursor
import MediaHub.Store.ListingPages

/-!
One directory of a bucket: its cursor keeps the whole place, but is refused where the last key of a
page holds a control character.
-/

namespace MediaHub.Catalog

open Relational
open MediaHub.Core Result
open MediaHub.Store.Listing
open Keyset (Follows)
open Json (Text)

/-- The conditions of a directory that do not depend on its prefix. -/
def MediaDirectoryListQuery.selects (query : MediaDirectoryListQuery)
    (applicationId : ApplicationId) (row : MediaRow) : Prop :=
  row.media.applicationId = applicationId ∧ row.media.bucketId = query.bucketId ∧
    passesFilters query.state query.mime query.createdFrom query.createdBefore row = true

/-- The key is the prefix and a name without a delimiter. -/
def DirectChild (pre key : String) : Prop :=
  ∃ name, name ≠ [] ∧ '/' ∉ name ∧ key.toList = pre.toList ++ name

theorem directChild_iff {pre key : String} :
    DirectChild pre key ↔ hasPrefix pre key = true ∧ relativeKey pre key ≠ [] ∧
      hasDelimiter pre key = false := by
  rw [hasPrefix_iff, ← Bool.not_eq_true, hasDelimiter_iff]
  constructor
  · rintro ⟨name, hne, hnone, hkey⟩
    have hrelative : relativeKey pre key = name := by rw [relativeKey, hkey, List.drop_left]
    rw [hrelative]
    exact ⟨hkey, hne, hnone⟩
  · rintro ⟨hkey, hne, hnone⟩
    exact ⟨_, hne, hnone, hkey⟩

section

variable {table : MediaTable} {applicationId : ApplicationId}

theorem mem_directoryRows {query : MediaDirectoryListQuery} {key : String} {row : MediaRow} :
    (key, row) ∈ directoryRows table applicationId query ↔
      row ∈ table.rows ∧ query.selects applicationId row ∧
        hasPrefix query.objectKeyPrefix key = true ∧
        relativeKey query.objectKeyPrefix key ≠ [] ∧ key = row.media.objectKey := by
  simp only [directoryRows, List.mem_map, List.mem_filter, Bool.and_eq_true, decide_eq_true_eq,
    Bool.not_eq_true', List.isEmpty_eq_false_iff, Prod.mk.injEq, MediaDirectoryListQuery.selects]
  constructor
  · rintro ⟨found, ⟨hmem, ⟨⟨⟨happlication, hbucket⟩, hfilters⟩, hpre⟩, hne⟩, rfl, rfl⟩
    exact ⟨hmem, ⟨happlication, hbucket, hfilters⟩, hpre, hne, rfl⟩
  · rintro ⟨hmem, ⟨happlication, hbucket, hfilters⟩, hpre, hne, rfl⟩
    exact ⟨row, ⟨hmem, ⟨⟨⟨happlication, hbucket⟩, hfilters⟩, hpre⟩, hne⟩, rfl, rfl⟩

theorem nodup_directoryRows (query : MediaDirectoryListQuery) :
    (directoryRows table applicationId query).Nodup := by
  refine List.Nodup.map ?_ (List.Nodup.filter _ (List.Nodup.of_map _ table.rows.nodup))
  intro row other heq
  exact (Prod.ext_iff.1 heq).2

/-- An entry is a media right in the directory, or the common prefix of some. -/
theorem mem_directoryEntries {query : MediaDirectoryListQuery} {entry : Entry MediaRow} :
    entry ∈ entries query.objectKeyPrefix true (directoryRows table applicationId query) ↔
      (∃ row ∈ table.rows, query.selects applicationId row ∧
        DirectChild query.objectKeyPrefix row.media.objectKey ∧
        entry = ⟨row.media.objectKey, false, some row⟩) ∨
      ∃ row ∈ table.rows, query.selects applicationId row ∧
        Groups query.objectKeyPrefix row.media.objectKey entry.entryKey ∧
        entry = ⟨entry.entryKey, true, none⟩ := by
  rw [mem_entries]
  constructor
  · rintro (⟨⟨key, row⟩, hmem, hnone, rfl⟩ | ⟨-, ⟨key, row⟩, hmem, hdelimiter, rfl⟩)
    · obtain ⟨hrow, hselects, hpre, hne, rfl⟩ := mem_directoryRows.1 hmem
      exact Or.inl ⟨row, hrow, hselects, directChild_iff.2 ⟨hpre, hne, hnone rfl⟩, rfl⟩
    · obtain ⟨hrow, hselects, hpre, hne, rfl⟩ := mem_directoryRows.1 hmem
      exact Or.inr ⟨row, hrow, hselects, groups_iff.2 ⟨hpre, hdelimiter, rfl⟩, rfl⟩
  · rintro (⟨row, hrow, hselects, hchild, rfl⟩ | ⟨row, hrow, hselects, hgroups, hentry⟩)
    · obtain ⟨hpre, hne, hnone⟩ := directChild_iff.1 hchild
      exact Or.inl ⟨(row.media.objectKey, row),
        mem_directoryRows.2 ⟨hrow, hselects, hpre, hne, rfl⟩, fun _ => hnone, rfl⟩
    · obtain ⟨hpre, hdelimiter, hkey⟩ := groups_iff.1 hgroups
      have hne : relativeKey query.objectKeyPrefix row.media.objectKey ≠ [] := by
        intro hnil
        have hmem := hasDelimiter_iff.1 hdelimiter
        rw [hnil] at hmem
        cases hmem
      exact Or.inr ⟨rfl, (row.media.objectKey, row),
        mem_directoryRows.2 ⟨hrow, hselects, hpre, hne, rfl⟩, hdelimiter, hkey ▸ hentry⟩

/-- The key of an entry fits its cursor. -/
theorem entryKey_fits {query : MediaDirectoryListQuery} {entry : Entry MediaRow}
    (h : entry ∈ entries query.objectKeyPrefix true (directoryRows table applicationId query)) :
    entry.entryKey ≠ "" ∧ Utf8.byteLength entry.entryKey.toList ≤ 1024 := by
  have hvalid : ∀ row : MediaRow, row.media.objectKey ≠ "" ∧
      Utf8.byteLength row.media.objectKey.toList ≤ 1024 := by
    intro row
    have hkey := row.validKey
    simp only [validateObjectKey, Bool.and_eq_true, decide_eq_true_eq] at hkey
    exact hkey.1
  rcases mem_directoryEntries.1 h with ⟨row, _, _, _, rfl⟩ | ⟨row, _, _, hgroups, _⟩
  · exact hvalid row
  · obtain ⟨part, rest, _, hkey, hgroup⟩ := hgroups
    have hlength := (hvalid row).2
    rw [hkey] at hlength
    rw [hgroup]
    simp only [Utf8.byteLength_append, Utf8.byteLength_cons, Utf8.byteLength_nil] at hlength ⊢
    refine ⟨fun hempty => ?_, by omega⟩
    rw [hempty] at hgroup
    simp at hgroup

theorem directoryListing_lawful (query : MediaDirectoryListQuery) :
    (directoryListing table applicationId query).Lawful where
  nodup := @nodup_entries _ _ true _ (nodup_directoryRows query)
  injective := by
    intro entry hentry other hother heq
    obtain ⟨hrank, hkey⟩ := Prod.ext_iff.1 (toLex.injective heq)
    have hkey : entry.entryKey = other.entryKey := hkey
    rcases mem_directoryEntries.1 hentry with ⟨row, hrow, hselects, _, rfl⟩ | ⟨_, _, _, _, hform⟩
    · rcases mem_directoryEntries.1 hother with ⟨row', hrow', hselects', _, rfl⟩ |
        ⟨_, _, _, _, hform'⟩
      · have hsame := table.keysUnique row hrow row' hrow' (hselects.1.trans hselects'.1.symm)
          (hselects.2.1.trans hselects'.2.1.symm) hkey
        rw [hsame]
      · rw [hform'] at hrank
        exact absurd hrank Nat.one_ne_zero
    · rcases mem_directoryEntries.1 hother with ⟨row', _, _, _, rfl⟩ | ⟨_, _, _, _, hform'⟩
      · rw [hform] at hrank
        exact absurd hrank Nat.zero_ne_one
      · rw [hform, hform', hkey]

variable [LinearOrder Collated]

/-- A directory is resumed at its last entry, if the cursor of that entry is taken back. -/
def directoryResumption (query : MediaDirectoryListQuery) :
    Keyset.Resumption (directoryListing table applicationId query) where
  accepted entry := hasAsciiControl entry.entryKey = false
  admits last next := decide (directoryPosition last.isPrefix last.entryKey <
    directoryPosition next.isPrefix next.entryKey)
  after _ _ _ _ h := of_decide_eq_true h
  upper _ _ _ _ _ _ h hlt := decide_eq_true (lt_trans (of_decide_eq_true h) hlt)

/-- The text of the cursor that a page leaves after its last entry. -/
def directoryCursor [Base64Engine] (entry : Entry MediaRow) : Text :=
  encodeMediaDirectoryCursor ⟨entry.entryKey, entry.isPrefix⟩

def directoryResponse [Base64Engine] (page : List (Entry MediaRow) × Option (Entry MediaRow)) :
    MediaListResponse :=
  ⟨itemsOfEntries page.1, prefixesOfEntries page.1, page.2.map directoryCursor⟩

variable [Base64Engine] [Json.Parser] [MediaIdText]

theorem listMedia_directory {query : ListMediaQuery} {options : ListOptions}
    {bucketId : BucketId} (hvalid : query.validate = .ok options)
    (hdirectory : options.directory = some bucketId) (start : Option (Entry MediaRow))
    (hstart : ∀ last ∈ start, last ∈ (directoryListing table applicationId
      (options.inDirectory query bucketId)).entries)
    (hclean : ∀ last ∈ start, hasAsciiControl last.entryKey = false) :
    listMedia table applicationId (query.at (start.map directoryCursor)) =
      .ok (directoryResponse ((@directoryResumption table applicationId _
        (options.inDirectory query bucketId)).pageFrom options.limit start)) := by
  obtain ⟨hpos, hle⟩ := limit_of_validate hvalid
  have hsame : (query.at (start.map directoryCursor)).validate = .ok options := hvalid
  have hdecode : decodeCursor decodeMediaDirectoryCursor (start.map directoryCursor) =
      .ok (start.map fun last => ⟨last.entryKey, last.isPrefix⟩) := by
    cases start with
    | none => rfl
    | some last =>
        obtain ⟨hne, hlength⟩ := entryKey_fits (hstart last rfl)
        rw [Option.map_some, decodeCursor, directoryCursor,
          @decodeMediaDirectoryCursor_encode _ _ ⟨last.entryKey, last.isPrefix⟩ hne hlength
            (hclean last rfl)]
        rfl
  have hpage : listMediaDirectoryPage table applicationId
      { options.inDirectory query bucketId with
        cursor := start.map fun last => ⟨last.entryKey, last.isPrefix⟩ } =
      .ok ⟨itemsOfEntries ((@directoryResumption table applicationId _
          (options.inDirectory query bucketId)).pageFrom options.limit start).1,
        prefixesOfEntries ((@directoryResumption table applicationId _
          (options.inDirectory query bucketId)).pageFrom options.limit start).1,
        ((@directoryResumption table applicationId _
          (options.inDirectory query bucketId)).pageFrom options.limit start).2.map
            fun row => ⟨row.entryKey, row.isPrefix⟩⟩ := by
    rw [listMediaDirectoryPage, if_neg (by
      show ¬ (options.limit = 0 ∨ 100 < options.limit)
      omega)]
    cases start <;> rfl
  rw [listMedia]
  refine bind_eq_ok_iff.2 ⟨options, hsame, ?_⟩
  rw [hdirectory]
  refine bind_eq_ok_iff.2 ⟨_, hdecode, ?_⟩
  refine bind_eq_ok_iff.2 ⟨_, congrArg (Except.mapError ApiError.repository) hpage, ?_⟩
  simp only [directoryResponse, Option.map_map]
  rfl

theorem listMedia_refused {query : ListMediaQuery} {options : ListOptions} {bucketId : BucketId}
    (hvalid : query.validate = .ok options) (hdirectory : options.directory = some bucketId)
    {last : Entry MediaRow} (hcontrol : hasAsciiControl last.entryKey = true)
    (page : MediaListResponse) :
    listMedia table applicationId (query.at (some (directoryCursor last))) ≠ .ok page := by
  intro h
  have hsame : (query.at (some (directoryCursor last))).validate = .ok options := hvalid
  rw [listMedia] at h
  obtain ⟨found, hfound, h⟩ := bind_eq_ok_iff.1 h
  obtain rfl : found = options := Except.ok.inj (hfound.symm.trans hsame)
  rw [hdirectory] at h
  obtain ⟨cursor, hcursor, -⟩ := bind_eq_ok_iff.1 h
  have hdecode : decodeMediaDirectoryCursor (directoryCursor last) = .error badCursor :=
    decodeMediaDirectoryCursor_refused hcontrol
  have hrefused : (decodeMediaDirectoryCursor (directoryCursor last)).map some = .ok cursor :=
    hcursor
  rw [hdecode] at hrefused
  cases hrefused

theorem directory_serves {query : ListMediaQuery} {options : ListOptions} {bucketId : BucketId}
    (hvalid : query.validate = .ok options) (hdirectory : options.directory = some bucketId) :
    (@directoryResumption table applicationId _ (options.inDirectory query bucketId)).Serves
      options.limit (fun cursor => listMedia table applicationId (query.at cursor))
      (·.nextCursor) directoryCursor directoryResponse where
  next_render _ _ := rfl
  fetch_eq := listMedia_directory hvalid hdirectory
  refused _ _ hrefused := listMedia_refused hvalid hdirectory (Bool.of_not_eq_false hrefused)

/-- In the order of the collation. -/
def KeyBefore (key later : String) : Prop := @LT.lt Collated _ key later

/-- What a complete directory shows: the media right in it and the common prefixes of the others,
each once and in the order of the keys. -/
structure DirectoryComplete (table : MediaTable) (applicationId : ApplicationId)
    (query : MediaDirectoryListQuery) (pages : List MediaListResponse) : Prop where
  items_iff : ∀ row, row ∈ pages.flatMap (·.items) ↔ row ∈ table.rows ∧
    query.selects applicationId row ∧ DirectChild query.objectKeyPrefix row.media.objectKey
  items_ordered : (pages.flatMap (·.items)).Pairwise fun row later =>
    KeyBefore row.media.objectKey later.media.objectKey
  prefixes_iff : ∀ group, group ∈ pages.flatMap (·.commonPrefixes) ↔ ∃ row ∈ table.rows,
    query.selects applicationId row ∧ Groups query.objectKeyPrefix row.media.objectKey group
  prefixes_ordered : (pages.flatMap (·.commonPrefixes)).Pairwise KeyBefore

/-- Where a page ends and an entry is left, the last key of the page has no control character. -/
def DirectoryPagesEndWell (table : MediaTable) (applicationId : ApplicationId)
    (query : MediaDirectoryListQuery) (limit : Nat) : Prop :=
  ∀ i last next, 0 < i →
    (directoryListing table applicationId query).sorted[i * limit - 1]? = some last →
    (directoryListing table applicationId query).sorted[i * limit]? = some next →
    hasAsciiControl last.entryKey = false

omit [Base64Engine] [Json.Parser] [MediaIdText] in
theorem pagesLead_directory_iff {query : MediaDirectoryListQuery} {limit : Nat}
    (hlimit : 0 < limit) :
    (@directoryResumption table applicationId _ query).PagesLead limit ↔
      DirectoryPagesEndWell table applicationId query limit := by
  constructor
  · intro h i last next hi hlast hnext
    exact (h i last next hi hlast hnext).1
  · intro h i last next hi hlast hnext
    refine ⟨h i last next hi hlast hnext, decide_eq_true ?_⟩
    have hpairwise := (@directoryListing_lawful table applicationId
      query).pairwise_sorted
    obtain ⟨hlt, rfl⟩ := List.getElem?_eq_some_iff.1 hlast
    obtain ⟨hlt', rfl⟩ := List.getElem?_eq_some_iff.1 hnext
    have hpos : 0 < i * limit := Nat.mul_pos hi hlimit
    exact List.pairwise_iff_getElem.1 hpairwise _ _ hlt hlt' (by omega)

omit [LinearOrder Collated] [Base64Engine] [Json.Parser] [MediaIdText] in
theorem mem_items_iff {rows : List (Entry MediaRow)} {row : MediaRow} :
    row ∈ itemsOfEntries rows ↔
      ∃ entry ∈ rows, entry.isPrefix = false ∧ entry.columns = some row := by
  simp only [itemsOfEntries, List.mem_filterMap]
  constructor
  · rintro ⟨entry, hentry, hrow⟩
    split at hrow
    · cases hrow
    · next hpre => exact ⟨entry, hentry, by simpa using hpre, hrow⟩
  · rintro ⟨entry, hentry, hpre, hrow⟩
    exact ⟨entry, hentry, by rw [if_neg (by simp [hpre]), hrow]⟩

omit [LinearOrder Collated] [Base64Engine] [Json.Parser] [MediaIdText] in
theorem mem_prefixes_iff {rows : List (Entry MediaRow)} {group : String} :
    group ∈ prefixesOfEntries rows ↔
      ∃ entry ∈ rows, entry.isPrefix = true ∧ entry.entryKey = group := by
  simp only [prefixesOfEntries, List.mem_filterMap]
  constructor
  · rintro ⟨entry, hentry, hgroup⟩
    split at hgroup
    · next hpre => exact ⟨entry, hentry, hpre, Option.some.inj hgroup⟩
    · cases hgroup
  · rintro ⟨entry, hentry, hpre, rfl⟩
    exact ⟨entry, hentry, if_pos hpre⟩

omit [LinearOrder Collated] [Json.Parser] [MediaIdText] in
theorem flatMap_itemsOfEntries (pages : List (List (Entry MediaRow) × Option (Entry MediaRow))) :
    (pages.map directoryResponse).flatMap (·.items) =
      itemsOfEntries (pages.map (·.1)).flatten := by
  induction pages with
  | nil => rfl
  | cons page pages ih =>
      rw [List.map_cons, List.flatMap_cons, ih, List.map_cons, List.flatten_cons, itemsOfEntries,
        itemsOfEntries, List.filterMap_append]
      rfl

omit [LinearOrder Collated] [Json.Parser] [MediaIdText] in
theorem flatMap_prefixesOfEntries
    (pages : List (List (Entry MediaRow) × Option (Entry MediaRow))) :
    (pages.map directoryResponse).flatMap (·.commonPrefixes) =
      prefixesOfEntries (pages.map (·.1)).flatten := by
  induction pages with
  | nil => rfl
  | cons page pages ih =>
      rw [List.map_cons, List.flatMap_cons, ih, List.map_cons, List.flatten_cons,
        prefixesOfEntries, prefixesOfEntries, List.filterMap_append]
      rfl

omit [Base64Engine] [Json.Parser] [MediaIdText] in
/-- Within one kind, the entries follow the order of their keys. -/
theorem key_lt_of_position {entry later : Entry MediaRow} (hsame : entry.isPrefix = later.isPrefix)
    (h : directoryPosition entry.isPrefix entry.entryKey <
      directoryPosition later.isPrefix later.entryKey) :
    KeyBefore entry.entryKey later.entryKey := by
  simp only [directoryPosition, hsame, Prod.Lex.toLex_lt_toLex] at h
  exact (h.resolve_left (lt_irrefl _)).2

omit [Json.Parser] [MediaIdText] in
/-- The entries in their order are a complete directory. -/
theorem directoryComplete_of_sorted {query : MediaDirectoryListQuery}
    {pages : List (List (Entry MediaRow) × Option (Entry MediaRow))}
    (h : (pages.map (·.1)).flatten = (directoryListing table applicationId query).sorted) :
    DirectoryComplete table applicationId query (pages.map directoryResponse) := by
  have hpairwise := (@directoryListing_lawful table applicationId query).pairwise_sorted
  have hmem : ∀ entry, entry ∈ (directoryListing table applicationId query).sorted ↔ entry ∈
      entries query.objectKeyPrefix true (directoryRows table applicationId query) :=
    fun entry => Keyset.Listing.mem_sorted _
  constructor
  · intro row
    rw [flatMap_itemsOfEntries, h, mem_items_iff]
    constructor
    · rintro ⟨entry, hentry, hpre, hrow⟩
      rcases mem_directoryEntries.1 ((hmem entry).1 hentry) with
        ⟨found, hfound, hselects, hchild, rfl⟩ | ⟨_, _, _, _, hform⟩
      · cases hrow
        exact ⟨hfound, hselects, hchild⟩
      · rw [hform] at hpre
        cases hpre
    · rintro ⟨hrow, hselects, hchild⟩
      exact ⟨_, (hmem _).2 (mem_directoryEntries.2 (Or.inl ⟨row, hrow, hselects, hchild, rfl⟩)),
        rfl, rfl⟩
  · rw [flatMap_itemsOfEntries, h, itemsOfEntries, List.pairwise_filterMap]
    refine hpairwise.imp_of_mem ?_
    intro entry later hentry hlater hlt row hrow row' hrow'
    have hbefore : entry.isPrefix = later.isPrefix → KeyBefore entry.entryKey later.entryKey :=
      fun hsame => key_lt_of_position hsame hlt
    rcases mem_directoryEntries.1 ((hmem entry).1 hentry) with
      ⟨found, _, _, _, rfl⟩ | ⟨_, _, _, _, hform⟩
    · rcases mem_directoryEntries.1 ((hmem later).1 hlater) with
        ⟨found', _, _, _, rfl⟩ | ⟨_, _, _, _, hform⟩
      · cases hrow
        cases hrow'
        exact hbefore rfl
      · rw [hform] at hrow'
        cases hrow'
    · rw [hform] at hrow
      cases hrow
  · intro group
    rw [flatMap_prefixesOfEntries, h, mem_prefixes_iff]
    constructor
    · rintro ⟨entry, hentry, hpre, rfl⟩
      rcases mem_directoryEntries.1 ((hmem entry).1 hentry) with ⟨_, _, _, _, rfl⟩ |
        ⟨row, hrow, hselects, hgroups, _⟩
      · cases hpre
      · exact ⟨row, hrow, hselects, hgroups⟩
    · rintro ⟨row, hrow, hselects, hgroups⟩
      exact ⟨⟨group, true, none⟩, (hmem _).2 (mem_directoryEntries.2
        (Or.inr ⟨row, hrow, hselects, hgroups, rfl⟩)), rfl, rfl⟩
  · rw [flatMap_prefixesOfEntries, h, prefixesOfEntries, List.pairwise_filterMap]
    refine hpairwise.imp_of_mem ?_
    intro entry later _ _ hlt group hgroup group' hgroup'
    split at hgroup
    · next hpre =>
        split at hgroup'
        · next hpre' =>
            cases hgroup
            cases hgroup'
            exact key_lt_of_position (hpre.trans hpre'.symm) hlt
        · cases hgroup'
    · cases hgroup

/-- A directory is complete exactly where no page ends on a key with a control character. -/
theorem directoryComplete_iff {query : ListMediaQuery} {options : ListOptions}
    {bucketId : BucketId} (hvalid : query.validate = .ok options)
    (hdirectory : options.directory = some bucketId) :
    (∃ pages, Follows (fun cursor => listMedia table applicationId (query.at cursor))
        (·.nextCursor) none pages ∧
        DirectoryComplete table applicationId (options.inDirectory query bucketId) pages) ↔
      DirectoryPagesEndWell table applicationId (options.inDirectory query bucketId)
        options.limit := by
  have hserves :=
    @directory_serves table applicationId _ _ _ _ query options bucketId hvalid hdirectory
  have hlawful := @directoryListing_lawful table applicationId (options.inDirectory query bucketId)
  obtain ⟨hpos, -⟩ := limit_of_validate hvalid
  have hstart : ∀ last ∈ (none : Option (Entry MediaRow)), last ∈
      (directoryListing table applicationId (options.inDirectory query bucketId)).entries := by
    simp
  rw [← pagesLead_directory_iff hpos]
  constructor
  · rintro ⟨shown, hfollows, hcomplete⟩
    obtain ⟨pages, hruns, rfl⟩ := (hserves.follows_iff hstart).1 hfollows
    refine (Keyset.Resumption.exists_runs_iff hlawful hpos).1 ⟨pages, hruns, fun entry hentry => ?_⟩
    rcases mem_directoryEntries.1 hentry with ⟨row, hrow, hselects, hchild, rfl⟩ |
      ⟨row, hrow, hselects, hgroups, hform⟩
    · have hshown := (hcomplete.items_iff row).2 ⟨hrow, hselects, hchild⟩
      rw [flatMap_itemsOfEntries, mem_items_iff] at hshown
      obtain ⟨found, hfound, hpre, hcolumns⟩ := hshown
      rcases mem_directoryEntries.1 (hruns.mem_entries hfound) with
        ⟨_, _, _, _, rfl⟩ | ⟨_, _, _, _, hform⟩
      · cases hcolumns
        exact hfound
      · rw [hform] at hpre
        cases hpre
    · have hshown := (hcomplete.prefixes_iff entry.entryKey).2 ⟨row, hrow, hselects, hgroups⟩
      rw [flatMap_prefixesOfEntries, mem_prefixes_iff] at hshown
      obtain ⟨found, hfound, hpre, hkey⟩ := hshown
      rcases mem_directoryEntries.1 (hruns.mem_entries hfound) with
        ⟨_, _, _, _, rfl⟩ | ⟨_, _, _, _, hform'⟩
      · cases hpre
      · rw [hform, ← hkey, ← hform']
        exact hfound
  · intro hleads
    obtain ⟨pages, hruns, hflatten⟩ := Keyset.Resumption.exists_runs_of_leads hlawful hpos hleads
    exact ⟨pages.map directoryResponse, (hserves.follows_iff hstart).2 ⟨pages, hruns, rfl⟩,
      directoryComplete_of_sorted hflatten⟩

/-- Following the cursors from the first page on reaches the last, and the pages are complete. -/
def ListsAll (table : MediaTable) (applicationId : ApplicationId) (query : ListMediaQuery)
    (options : ListOptions) : Prop :=
  ∃ pages, Follows (fun cursor => listMedia table applicationId (query.at cursor))
    (·.nextCursor) none pages ∧
    match options.directory with
    | none => FlatComplete table applicationId (options.flat query) pages
    | some bucketId =>
        DirectoryComplete table applicationId (options.inDirectory query bucketId) pages

def PagesEndWell (table : MediaTable) (applicationId : ApplicationId) (query : ListMediaQuery)
    (options : ListOptions) : Prop :=
  match options.directory with
  | none => FlatPagesEndWell table applicationId (options.flat query) options.limit
  | some bucketId => DirectoryPagesEndWell table applicationId
      (options.inDirectory query bucketId) options.limit

end

/-- A query that is accepted is answered completely exactly where its pages end well. -/
theorem listsAll_iff [Base64Engine] [Json.Parser] [MediaIdText] [LinearOrder Collated]
    (table : MediaTable) (applicationId : ApplicationId) (query : ListMediaQuery)
    (options : ListOptions) (hvalid : query.validate = .ok options) :
    ListsAll table applicationId query options ↔
      PagesEndWell table applicationId query options := by
  rw [ListsAll, PagesEndWell]
  cases hdirectory : options.directory with
  | none => exact flatComplete_iff hvalid hdirectory
  | some bucketId => exact directoryComplete_iff hvalid hdirectory

def sampleRow (id : MediaId) (key : String) (createdAt : Time) (hid : id < 2 ^ 128)
    (hrange : Time.inRange createdAt = true) (hstored : postgresTime createdAt = createdAt)
    (hkey : validateObjectKey key = true) : MediaRow where
  media :=
    { id, applicationId := 1, bucketId := 2, objectKey := key, storageKey := key, state := .active
      size := 5, uploadTemporaryKey := none, uploadLeaseToken := none, uploadLeasedUntil := none
      revision := 0, deletedAt := none, updatedAt := createdAt }
  contentType := "image/png"
  createdAt
  id_lt := hid
  createdInRange := hrange
  createdStored := hstored
  validKey := hkey

/-- 1.2 s and 1.5 s after the epoch. -/
def earlierRow : MediaRow :=
  sampleRow 3 "a" 1200000000 (by decide) (by decide) (by decide) (by decide)

def laterRow : MediaRow :=
  sampleRow 4 "b" 1500000000 (by decide) (by decide) (by decide) (by decide)

def twoOfOneSecond : MediaTable where
  rows := ((∅ : Table MediaRow).insert earlierRow).insert laterRow
  keysUnique := by
    have hall : ∀ row ∈ (((∅ : Table MediaRow).insert earlierRow).insert laterRow).rows,
        ∀ other ∈ (((∅ : Table MediaRow).insert earlierRow).insert laterRow).rows,
        row.media.objectKey = other.media.objectKey → row = other := by
      decide +kernel
    exact fun row hrow other hother _ _ hkey => hall row hrow other hother hkey

def oneByOne : ListMediaQuery :=
  { bucket := none, status := none, mime := none, createdFrom := none, createdBefore := none
    keyPrefix := none, delimiter := none, limit := some 1, cursor := none }

theorem validate_oneByOne : oneByOne.validate = .ok ⟨1, none, none⟩ := rfl

/-- The order of code points. -/
@[reducible] def codePointOrder : LinearOrder Collated := inferInstanceAs (LinearOrder String)

/-- 2.5 s and 3 s after the epoch. -/
def secondRow : MediaRow :=
  sampleRow 5 "c" 2500000000 (by decide) (by decide) (by decide) (by decide)

def thirdRow : MediaRow :=
  sampleRow 6 "d" 3000000000 (by decide) (by decide) (by decide) (by decide)

def threeSeconds : MediaTable where
  rows := (((∅ : Table MediaRow).insert earlierRow).insert secondRow).insert thirdRow
  keysUnique := by
    have hall :
        ∀ row ∈ ((((∅ : Table MediaRow).insert earlierRow).insert secondRow).insert thirdRow).rows,
        ∀ other ∈ ((((∅ : Table MediaRow).insert earlierRow).insert secondRow).insert
          thirdRow).rows,
        row.media.objectKey = other.media.objectKey → row = other := by
      decide +kernel
    exact fun row hrow other hother _ _ hkey => hall row hrow other hother hkey

/-- One media a page, each created in a second of its own. -/
theorem listsAll_iff_threeSeconds :
    (mediaListing threeSeconds 1 (ListOptions.flat ⟨1, none, none⟩ oneByOne)).sorted =
      [thirdRow, secondRow, earlierRow] ∧
    @ListsAll codePointOrder Base64.urlSafeNoPad Json.descent hyphenatedIds threeSeconds 1 oneByOne
      ⟨1, none, none⟩ := by
  have hsorted : (mediaListing threeSeconds 1
      (ListOptions.flat ⟨1, none, none⟩ oneByOne)).sorted = [thirdRow, secondRow, earlierRow] := rfl
  refine ⟨hsorted, (@listsAll_iff Base64.urlSafeNoPad Json.descent hyphenatedIds codePointOrder
    threeSeconds 1 oneByOne _ validate_oneByOne).2 ?_⟩
  intro i last next hpos hlast hnext
  rw [hsorted] at hlast hnext
  match i, hpos with
  | 1, _ =>
      cases hlast
      cases hnext
      decide
  | 2, _ =>
      cases hlast
      cases hnext
      decide
  | i + 3, _ => cases hnext

/-- The page that ends on the later media leaves out the earlier one. -/
theorem not_listsAll_oneByOne :
    oneByOne.validate = .ok ⟨1, none, none⟩ ∧
      ¬ @ListsAll codePointOrder Base64.urlSafeNoPad Json.descent hyphenatedIds twoOfOneSecond 1
        oneByOne ⟨1, none, none⟩ := by
  refine ⟨validate_oneByOne, fun hlists => ?_⟩
  have hends := (@flatComplete_iff twoOfOneSecond 1 Base64.urlSafeNoPad Json.descent hyphenatedIds
    codePointOrder oneByOne _ validate_oneByOne rfl).1 hlists
  have hnext := hends 1 laterRow earlierRow (by decide) (by rfl) (by rfl)
  exact absurd hnext (by decide)

end MediaHub.Catalog
