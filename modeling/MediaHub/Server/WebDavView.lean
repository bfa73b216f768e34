import Mathlib.Data.Nat.Cast.Order.Basic
import MediaHub.Server.WebDav

namespace MediaHub.Server.Dav

open MediaHub.Core
open MediaHub.Store
open MediaHub.Store.Listing
open Result

theorem dropPrefix?_append (pre rest : List Char) : (pre ++ rest).dropPrefix? pre = some rest :=
  List.dropPrefix?_eq_some_iff.2 ⟨pre, rfl, beq_self_eq_true pre⟩

theorem dropSuffix?_append (rest suffix : List Char) :
    (rest ++ suffix).dropSuffix? suffix = some rest :=
  List.dropSuffix?_eq_some_iff.2 ⟨suffix, rfl, beq_self_eq_true suffix⟩

section

variable {pre : String}

theorem addPrefix_prefixEntry (entries : DavEntries) (name : List Char) :
    addPrefix pre entries (prefixEntry pre name) = .ok (if name = [] then entries else
      entries.insertIfNew (String.ofList name) (.directory (Utf8.bytes name) unixEpoch)) := by
  rw [addPrefix, toList_prefixEntry, List.append_assoc, dropPrefix?_append, Option.bind_some,
    dropSuffix?_append]
  by_cases h : name = []
  · simp [h]
  · simp [h]

theorem exists_file {version : ObjectVersion} (h : version.isDeleteMarker = false)
    (name : List UInt8) : ∃ entry, DavEntry.file name version = .ok entry ∧ entry.name = name := by
  cases hpayload : version.payload with
  | object payload =>
      refine ⟨⟨name, .file payload.sizeBytes (toSystemTime version.createdAt) (some payload.etag)⟩,
        ?_, rfl⟩
      rw [DavEntry.file, DavMetadata.fromObjectVersion, hpayload]
      rfl
  | deleteMarker => simp [ObjectVersion.isDeleteMarker, hpayload] at h

/-- The key of a directory itself is refused. -/
theorem addItem_self (entries : DavEntries) {item : S3ObjectListItem}
    (h : item.key.toList = pre.toList) : addItem pre entries item = .error .generalFailure := by
  have hkey : item.key.toList = pre.toList ++ [] := h.trans (List.append_nil _).symm
  rw [addItem, hkey, dropPrefix?_append]
  exact if_pos (Or.inl rfl)

theorem addItem_append (entries : DavEntries) {item : S3ObjectListItem} {name : List Char}
    {entry : DavEntry} (hkey : item.key.toList = pre.toList ++ name) (hne : name ≠ [])
    (hslash : '/' ∉ name) (hfile : DavEntry.file (Utf8.bytes name) item.version = .ok entry) :
    addItem pre entries item = .ok (entries.insert (String.ofList name) entry) := by
  have hplain : ¬ (name = [] ∨ '/' ∈ name) := not_or.2 ⟨hne, hslash⟩
  rw [addItem, hkey, dropPrefix?_append]
  refine (if_neg hplain).trans ?_
  rw [hfile]
  rfl

/-- The entries of these groups and items: a name is a file where it is the name of an item, and
else a directory where it is that of a group. -/
structure Collected (pre : String) (groups : List String) (items : List S3ObjectListItem)
    (entries : DavEntries) : Prop where
  file : ∀ item ∈ items, ∀ name, item.key.toList = pre.toList ++ name →
    ∃ entry, DavEntry.file (Utf8.bytes name) item.version = .ok entry ∧
      entries[String.ofList name]? = some entry
  directory : ∀ name, name ≠ [] → prefixEntry pre name ∈ groups →
    (∀ item ∈ items, item.key.toList ≠ pre.toList ++ name) →
      entries[String.ofList name]? = some (.directory (Utf8.bytes name) unixEpoch)
  named : ∀ name, String.ofList name ∈ entries →
    (∃ item ∈ items, item.key.toList = pre.toList ++ name) ∨
      (name ≠ [] ∧ prefixEntry pre name ∈ groups)

theorem Collected.empty : Collected pre [] [] ∅ where
  file _ hitem := absurd hitem List.not_mem_nil
  directory _ _ hgroup := absurd hgroup List.not_mem_nil
  named _ hname := absurd hname Std.TreeMap.not_mem_emptyc

variable {groups : List String} {items : List S3ObjectListItem} {entries : DavEntries}

theorem ofList_eq_iff {name other : List Char} :
    compare (String.ofList name) (String.ofList other) = .eq ↔ name = other := by
  rw [compare_eq_iff_eq, String.ofList_inj]

theorem Collected.addPrefix (h : Collected pre groups items entries) (name : List Char) :
    ∃ next, Dav.addPrefix pre entries (prefixEntry pre name) = .ok next ∧
      Collected pre (groups ++ [prefixEntry pre name]) items next := by
  refine ⟨_, addPrefix_prefixEntry entries name, ?_⟩
  by_cases hempty : name = []
  · rw [if_pos hempty]
    refine ⟨h.file, fun other hne hgroup hnone => ?_, fun other hother => ?_⟩
    · rcases List.mem_append.1 hgroup with hgroup | hlast
      · exact h.directory other hne hgroup hnone
      · have hsame := prefixEntry_injective pre (List.mem_singleton.1 hlast)
        exact absurd (hsame.trans hempty) hne
    · exact (h.named other hother).imp_right fun ⟨hne, hgroup⟩ =>
        ⟨hne, List.mem_append_left _ hgroup⟩
  · rw [if_neg hempty]
    refine ⟨fun item hitem other hkey => ?_, fun other hne hgroup hnone => ?_,
      fun other hother => ?_⟩
    · obtain ⟨entry, hfile, hentry⟩ := h.file item hitem other hkey
      refine ⟨entry, hfile, ?_⟩
      have hmem : String.ofList other ∈ entries :=
        Std.TreeMap.mem_iff_isSome_getElem?.2 (by rw [hentry]; rfl)
      rw [Std.TreeMap.getElem?_insertIfNew, if_neg, hentry]
      rintro ⟨heq, hnot⟩
      exact hnot (ofList_eq_iff.1 heq ▸ hmem)
    · have hknown : prefixEntry pre other ∈ groups →
          entries[String.ofList other]? = some (.directory (Utf8.bytes other) unixEpoch) :=
        fun hgroup => h.directory other hne hgroup hnone
      rw [Std.TreeMap.getElem?_insertIfNew]
      split
      · next hnew => rw [ofList_eq_iff.1 hnew.1]
      · next hold =>
          rcases List.mem_append.1 hgroup with hgroup | hlast
          · exact hknown hgroup
          · obtain rfl := prefixEntry_injective pre (List.mem_singleton.1 hlast)
            rw [not_and, not_not] at hold
            rcases h.named other (hold (ofList_eq_iff.2 rfl)) with ⟨item, hitem, hkey⟩ | ⟨-, hgroup⟩
            · exact absurd hkey (hnone item hitem)
            · exact hknown hgroup
    · rw [Std.TreeMap.mem_insertIfNew] at hother
      rcases hother with hsame | hother
      · obtain rfl := ofList_eq_iff.1 hsame
        exact Or.inr ⟨hempty, List.mem_append_right _ (List.mem_singleton.2 rfl)⟩
      · exact (h.named other hother).imp_right fun ⟨hne, hgroup⟩ =>
          ⟨hne, List.mem_append_left _ hgroup⟩

/-- One version is shown by each key of the items. -/
def OneVersion (items : List S3ObjectListItem) : Prop :=
  ∀ item ∈ items, ∀ other ∈ items, item.key = other.key → item.version = other.version

theorem Collected.addItem (h : Collected pre groups items entries) {item : S3ObjectListItem}
    (hone : OneVersion (items ++ [item])) {name : List Char}
    (hkey : item.key.toList = pre.toList ++ name) (hne : name ≠ []) (hslash : '/' ∉ name)
    (hdata : item.version.isDeleteMarker = false) :
    ∃ next, Dav.addItem pre entries item = .ok next ∧
      Collected pre groups (items ++ [item]) next := by
  obtain ⟨entry, hfile, -⟩ := exists_file hdata (Utf8.bytes name)
  refine ⟨_, addItem_append entries hkey hne hslash hfile, ?_, ?_, ?_⟩
  · intro other hother otherName hotherKey
    have hlast : item ∈ items ++ [item] := List.mem_append_right _ (List.mem_singleton.2 rfl)
    rw [Std.TreeMap.getElem?_insert]
    split
    · next hsame =>
        obtain rfl := ofList_eq_iff.1 hsame
        have hversion := hone other hother item hlast
          (String.toList_inj.1 (hotherKey.trans hkey.symm))
        exact ⟨entry, hversion ▸ hfile, rfl⟩
    · next hdifferent =>
        rcases List.mem_append.1 hother with hother | hsingle
        · exact h.file other hother otherName hotherKey
        · rw [List.mem_singleton.1 hsingle, hkey] at hotherKey
          exact absurd (ofList_eq_iff.2 (List.append_cancel_left hotherKey)) hdifferent
  · intro other hother hgroup hnone
    rw [Std.TreeMap.getElem?_insert, if_neg]
    · exact h.directory other hother hgroup fun item hitem =>
        hnone item (List.mem_append_left _ hitem)
    · intro hsame
      rw [← ofList_eq_iff.1 hsame] at hnone
      exact hnone item (List.mem_append_right _ (List.mem_singleton.2 rfl)) hkey
  · intro other hother
    rw [Std.TreeMap.mem_insert] at hother
    rcases hother with hsame | hother
    · obtain rfl := ofList_eq_iff.1 hsame
      exact Or.inl ⟨item, List.mem_append_right _ (List.mem_singleton.2 rfl), hkey⟩
    · exact (h.named other hother).imp_left fun ⟨item, hitem, hkey⟩ =>
        ⟨item, List.mem_append_left _ hitem, hkey⟩

/-- An item that can be shown, or the key of the directory itself. -/
structure Shown (pre : String) (item : S3ObjectListItem) : Prop where
  under : ∃ name, item.key.toList = pre.toList ++ name ∧ '/' ∉ name
  data : item.version.isDeleteMarker = false

theorem Collected.addPrefixes (h : Collected pre groups items entries) {added : List String}
    (hadded : ∀ group ∈ added, ∃ name, group = prefixEntry pre name) :
    ∃ next, added.foldlM (Dav.addPrefix pre) entries = .ok next ∧
      Collected pre (groups ++ added) items next := by
  induction added generalizing groups entries with
  | nil => exact ⟨entries, rfl, by rwa [List.append_nil]⟩
  | cons group added ih =>
      rw [List.forall_mem_cons] at hadded
      obtain ⟨name, rfl⟩ := hadded.1
      obtain ⟨next, hnext, hcollected⟩ := h.addPrefix name
      rw [List.foldlM_cons, hnext, ok_bind, List.append_cons]
      exact ih hcollected hadded.2

theorem Collected.addItems (h : Collected pre groups items entries)
    {added : List S3ObjectListItem} (hone : OneVersion (items ++ added))
    (hshown : ∀ item ∈ added, Shown pre item)
    (hself : ∀ item ∈ added, item.key.toList ≠ pre.toList) :
    ∃ next, added.foldlM (Dav.addItem pre) entries = .ok next ∧
      Collected pre groups (items ++ added) next := by
  induction added generalizing items entries with
  | nil => exact ⟨entries, rfl, by rwa [List.append_nil]⟩
  | cons item added ih =>
      rw [List.forall_mem_cons] at hshown hself
      obtain ⟨name, hkey, hslash⟩ := hshown.1.under
      have hne : name ≠ [] := by
        rintro rfl
        exact hself.1 (hkey.trans (List.append_nil _))
      rw [List.append_cons] at hone ⊢
      have hfirst : OneVersion (items ++ [item]) := fun first hfirst other hother =>
        hone first (List.mem_append_left _ hfirst) other (List.mem_append_left _ hother)
      obtain ⟨next, hnext, hcollected⟩ := h.addItem hfirst hkey hne hslash hshown.1.data
      rw [List.foldlM_cons, hnext, ok_bind]
      exact ih hcollected hone hshown.2 hself.2

/-- The pages of a directory: their groups are those of names, and their items can be shown. -/
structure DirectoryPages (pre : String) (pages : List S3ObjectPage) : Prop where
  groups : ∀ group ∈ pages.flatMap S3ObjectPage.commonPrefixes, ∃ name, group = prefixEntry pre name
  shown : ∀ item ∈ pages.flatMap S3ObjectPage.items, Shown pre item

theorem DirectoryPages.cons {page : S3ObjectPage} {pages : List S3ObjectPage}
    (h : DirectoryPages pre (page :: pages)) :
    (∀ group ∈ page.commonPrefixes, ∃ name, group = prefixEntry pre name) ∧
      (∀ item ∈ page.items, Shown pre item) ∧ DirectoryPages pre pages := by
  obtain ⟨hgroups, hshown⟩ := h
  rw [List.flatMap_cons, List.forall_mem_append] at hgroups hshown
  exact ⟨hgroups.1, hshown.1, hgroups.2, hshown.2⟩

theorem Collected.addPages (h : Collected pre groups items entries) {pages : List S3ObjectPage}
    (hpages : DirectoryPages pre pages)
    (hone : OneVersion (items ++ pages.flatMap S3ObjectPage.items))
    (hself : ∀ item ∈ pages.flatMap S3ObjectPage.items, item.key.toList ≠ pre.toList) :
    ∃ final, pages.foldlM (Dav.addPage pre) entries = .ok final ∧
      Collected pre (groups ++ pages.flatMap S3ObjectPage.commonPrefixes)
        (items ++ pages.flatMap S3ObjectPage.items) final := by
  induction pages generalizing groups items entries with
  | nil => exact ⟨entries, rfl, by simpa using h⟩
  | cons page pages ih =>
      obtain ⟨hgroups, hshown, hrest⟩ := hpages.cons
      rw [List.flatMap_cons, List.forall_mem_append] at hself
      rw [List.flatMap_cons, ← List.append_assoc] at hone
      obtain ⟨next, hnext, hcollected⟩ := h.addPrefixes hgroups
      have hfirst : OneVersion (items ++ page.items) := fun first hfirst other hother =>
        hone first (List.mem_append_left _ hfirst) other (List.mem_append_left _ hother)
      obtain ⟨taken, htaken, hcollected⟩ := hcollected.addItems hfirst hshown hself.1
      have hpage : Dav.addPage pre entries page = .ok taken := by
        rw [addPage, hnext, ok_bind, htaken]
      rw [List.foldlM_cons, hpage, ok_bind, List.flatMap_cons, List.flatMap_cons,
        ← List.append_assoc, ← List.append_assoc]
      exact ih hcollected hrest hone hself.2

theorem addItem_ok_or_error {item : S3ObjectListItem} (h : Shown pre item)
    (entries : DavEntries) : (∃ next, addItem pre entries item = .ok next) ∨
      addItem pre entries item = .error .generalFailure := by
  obtain ⟨name, hkey, hslash⟩ := h.under
  by_cases hempty : name = []
  · rw [hempty, List.append_nil] at hkey
    exact Or.inr (addItem_self entries hkey)
  · obtain ⟨entry, hfile, -⟩ := exists_file h.data (Utf8.bytes name)
    exact Or.inl ⟨_, addItem_append entries hkey hempty hslash hfile⟩

/-- The key of a directory itself fails the listing of the directory, on whichever page it is. -/
theorem addPages_eq_error {pages : List S3ObjectPage} (hpages : DirectoryPages pre pages)
    {item : S3ObjectListItem} (hitem : item ∈ pages.flatMap S3ObjectPage.items)
    (hself : item.key.toList = pre.toList) (entries : DavEntries) :
    pages.foldlM (addPage pre) entries = .error .generalFailure := by
  have hprefixes : ∀ page ∈ pages, ∀ entries, ∃ next,
      page.commonPrefixes.foldlM (addPrefix pre) entries = .ok next := by
    intro page hpage entries
    refine exists_foldlM (fun group hgroup entries => ?_) entries
    obtain ⟨name, rfl⟩ := hpages.groups group (List.mem_flatMap.2 ⟨page, hpage, hgroup⟩)
    exact ⟨_, addPrefix_prefixEntry entries name⟩
  have hitems : ∀ page ∈ pages, ∀ item ∈ page.items, ∀ entries,
      (∃ next, addItem pre entries item = .ok next) ∨
        addItem pre entries item = .error .generalFailure := fun page hpage item hitem entries =>
    addItem_ok_or_error (hpages.shown item (List.mem_flatMap.2 ⟨page, hpage, hitem⟩)) entries
  obtain ⟨bad, hbad, hmem⟩ := List.mem_flatMap.1 hitem
  refine foldlM_eq_error (fun page hpage entries => ?_) ⟨bad, hbad, fun entries => ?_⟩ entries
  · obtain ⟨next, hnext⟩ := hprefixes page hpage entries
    rw [addPage, hnext, ok_bind]
    exact foldlM_ok_or_error (hitems page hpage) next
  · obtain ⟨next, hnext⟩ := hprefixes bad hbad entries
    rw [addPage, hnext, ok_bind]
    exact foldlM_eq_error (hitems bad hbad)
      ⟨item, hmem, fun entries => addItem_self entries hself⟩ next

/-- What is collected does not depend on the order, nor on the pages. -/
theorem Collected.getElem?_eq {groups' : List String} {items' : List S3ObjectListItem}
    {entries' : DavEntries} (h : Collected pre groups items entries)
    (h' : Collected pre groups' items' entries')
    (hgroups : ∀ group, group ∈ groups ↔ group ∈ groups')
    (hitems : ∀ item, item ∈ items ↔ item ∈ items') (name : String) :
    entries[name]? = entries'[name]? := by
  obtain ⟨name, rfl⟩ : ∃ text, name = String.ofList text := ⟨name.toList, String.ofList_toList.symm⟩
  by_cases hitem : ∃ item ∈ items, item.key.toList = pre.toList ++ name
  · obtain ⟨item, hitem, hkey⟩ := hitem
    obtain ⟨entry, hfile, hentry⟩ := h.file item hitem name hkey
    obtain ⟨entry', hfile', hentry'⟩ := h'.file item ((hitems item).1 hitem) name hkey
    rw [hentry, hentry', Except.ok.inj (hfile.symm.trans hfile')]
  · have hnone : ∀ item ∈ items, item.key.toList ≠ pre.toList ++ name := fun item hmem hkey =>
      hitem ⟨item, hmem, hkey⟩
    have hnone' : ∀ item ∈ items', item.key.toList ≠ pre.toList ++ name := fun item hmem =>
      hnone item ((hitems item).2 hmem)
    by_cases hgroup : name ≠ [] ∧ prefixEntry pre name ∈ groups
    · rw [h.directory name hgroup.1 hgroup.2 hnone,
        h'.directory name hgroup.1 ((hgroups _).1 hgroup.2) hnone']
    · have habsent : String.ofList name ∉ entries := fun hmem =>
        (h.named name hmem).elim hitem hgroup
      have habsent' : String.ofList name ∉ entries' := by
        intro hmem
        rcases h'.named name hmem with ⟨item, hmem, hkey⟩ | ⟨hne, hmem⟩
        · exact hnone' item hmem hkey
        · exact hgroup ⟨hne, (hgroups _).2 hmem⟩
      rw [Std.TreeMap.getElem?_eq_none habsent, Std.TreeMap.getElem?_eq_none habsent']

theorem Collected.toList_eq {groups' : List String} {items' : List S3ObjectListItem}
    {entries' : DavEntries} (h : Collected pre groups items entries)
    (h' : Collected pre groups' items' entries')
    (hgroups : ∀ group, group ∈ groups ↔ group ∈ groups')
    (hitems : ∀ item, item ∈ items ↔ item ∈ items') : entries.toList = entries'.toList :=
  (Std.TreeMap.Equiv.of_forall_constGet?_eq (h.getElem?_eq h' hgroups hitems)).toList_eq

end

section

variable (db : Database) (applicationId : ApplicationId) (bucketId : BucketId)

/-- A key that a current object has. -/
def CurrentKey (key : String) : Prop :=
  ∃ version, CurrentObject db applicationId bucketId key version

def StartsWith (pre : String) : Prop :=
  ∃ key rest, CurrentKey db applicationId bucketId key ∧ key.toList = pre.toList ++ rest

/-- A name that follows the prefix in a current key, up to its end or to the next slash. -/
structure NextSegment (pre : String) (segment : List Char) : Prop where
  nonempty : segment ≠ []
  slash : '/' ∉ segment
  key : ∃ key rest, CurrentKey db applicationId bucketId key ∧
    key.toList = pre.toList ++ segment ++ rest ∧ (rest = [] ∨ ∃ tail, rest = '/' :: tail)

/-- A file where the key exists, and a directory otherwise. -/
def IsEntry (pre : String) (segment : List Char) (entry : DavEntry) : Prop :=
  (∃ version, CurrentObject db applicationId bucketId (pre ++ String.ofList segment) version ∧
    DavEntry.file (Utf8.bytes segment) version = .ok entry) ∨
  (¬ CurrentKey db applicationId bucketId (pre ++ String.ofList segment) ∧
    entry = .directory (Utf8.bytes segment) unixEpoch)

/-- One entry for each of the names. -/
structure Shows (pre : String) (shown : List DavEntry) : Prop where
  names : (shown.map DavEntry.name).Nodup
  mem_iff : ∀ entry, entry ∈ shown ↔ ∃ segment,
    NextSegment db applicationId bucketId pre segment ∧
      IsEntry db applicationId bucketId pre segment entry

variable {db applicationId bucketId} {pre : String}

/-- The pages of a directory, of whatever size. -/
theorem exists_pages (h : Listable db) {limit : Nat} (hlimit : 0 < limit)
    (hmost : limit ≤ maxS3ObjectListLimit) :
    ∃ pages, Keyset.Follows
        (fun cursor => fetchPage db applicationId ⟨bucketId, pre, cursor, true, limit⟩)
        S3ObjectPage.nextCursor none pages ∧
      (∀ item, item ∈ pages.flatMap S3ObjectPage.items ↔
        ListedObject db applicationId ⟨bucketId, pre, none, true, limit⟩ item) ∧
      ∀ group, group ∈ pages.flatMap S3ObjectPage.commonPrefixes ↔
        GroupedObject db applicationId ⟨bucketId, pre, none, true, limit⟩ group := by
  obtain ⟨⟨pages, hfollows⟩, hcomplete⟩ := @listCurrentS3Objects_enumerates db applicationId h
    ⟨bucketId, pre, none, true, limit⟩ hlimit hmost
  refine ⟨pages, hfollows.of_fetch fun start page hpage => ?_,
    (hcomplete pages hfollows).items_iff, (hcomplete pages hfollows).prefixes_iff⟩
  rw [fetchPage]
  exact congrArg (Except.mapError mapRepositoryError) hpage

theorem ListedObject.shown {limit : Nat} {item : S3ObjectListItem}
    (h : ListedObject db applicationId ⟨bucketId, pre, none, true, limit⟩ item) :
    Shown pre item := by
  obtain ⟨⟨rest, hkey, hslash⟩, hcurrent⟩ := h
  exact ⟨⟨rest, hkey, hslash rfl⟩, hcurrent.data⟩

theorem groupedObject_iff {limit : Nat} {name : List Char} :
    GroupedObject db applicationId ⟨bucketId, pre, none, true, limit⟩ (prefixEntry pre name) ↔
      '/' ∉ name ∧ ∃ key rest, CurrentKey db applicationId bucketId key ∧
        key.toList = pre.toList ++ name ++ '/' :: rest := by
  constructor
  · rintro ⟨-, key, version, hcurrent, part, rest, hslash, hkey, hgroup⟩
    rw [toList_prefixEntry] at hgroup
    have hpart : name = part := List.append_cancel_left (List.append_cancel_right hgroup)
    rw [hpart]
    exact ⟨hslash, key, rest, ⟨version, hcurrent⟩, hkey⟩
  · rintro ⟨hslash, key, rest, ⟨version, hcurrent⟩, hkey⟩
    exact ⟨rfl, key, version, hcurrent, name, rest, hslash, hkey, toList_prefixEntry pre name⟩

theorem GroupedObject.exists_name {limit : Nat} {group : String}
    (h : GroupedObject db applicationId ⟨bucketId, pre, none, true, limit⟩ group) :
    ∃ name, group = prefixEntry pre name := by
  obtain ⟨-, key, version, -, part, rest, -, -, hgroup⟩ := h
  exact ⟨part, String.toList_inj.1 (hgroup.trans (toList_prefixEntry pre part).symm)⟩

/-- The key of the directory itself fails the listing. -/
theorem listDirectoryEntries_of_self (h : Listable db)
    (hself : CurrentKey db applicationId bucketId pre) {limit : Nat} (hlimit : 0 < limit)
    (hmost : limit ≤ maxS3ObjectListLimit) :
    ∃ fuel, ∀ more, listDirectoryEntries db applicationId bucketId limit (fuel + more) pre =
      some (.error .generalFailure) := by
  obtain ⟨pages, hfollows, hitems, hgroups⟩ := exists_pages h hlimit hmost
  obtain ⟨version, hcurrent⟩ := hself
  have hpages : DirectoryPages pre pages :=
    ⟨fun group hgroup => GroupedObject.exists_name ((hgroups group).1 hgroup),
      fun item hitem => ListedObject.shown ((hitems item).1 hitem)⟩
  have hitem : (⟨pre, version⟩ : S3ObjectListItem) ∈ pages.flatMap S3ObjectPage.items :=
    (hitems _).2 ⟨⟨[], (List.append_nil _).symm, fun _ => List.not_mem_nil⟩, hcurrent⟩
  refine ⟨pages.length, fun more => ?_⟩
  rw [listDirectoryEntries, hfollows.foldPages_eq, addPages_eq_error hpages hitem rfl]
  rfl

/-- What is collected of the listing of a directory that is no key. -/
structure Collects (db : Database) (applicationId : ApplicationId) (bucketId : BucketId)
    (pre : String) (entries : DavEntries) : Prop where
  file : ∀ name version, '/' ∉ name →
    CurrentObject db applicationId bucketId (pre ++ String.ofList name) version →
      ∃ entry, DavEntry.file (Utf8.bytes name) version = .ok entry ∧
        entries[String.ofList name]? = some entry
  directory : ∀ name, NextSegment db applicationId bucketId pre name →
    ¬ CurrentKey db applicationId bucketId (pre ++ String.ofList name) →
      entries[String.ofList name]? = some (.directory (Utf8.bytes name) unixEpoch)
  named : ∀ name, String.ofList name ∈ entries → NextSegment db applicationId bucketId pre name

theorem eq_append_ofList {key : String} {name : List Char}
    (h : key.toList = pre.toList ++ name) : key = pre ++ String.ofList name := by
  rw [← String.toList_inj, String.toList_append, String.toList_ofList, h]

theorem Collected.collects {groups : List String} {items : List S3ObjectListItem}
    {entries : DavEntries} (h : Collected pre groups items entries) {limit : Nat}
    (hself : ¬ CurrentKey db applicationId bucketId pre)
    (hitems : ∀ item, item ∈ items ↔
      ListedObject db applicationId ⟨bucketId, pre, none, true, limit⟩ item)
    (hgroups : ∀ group, group ∈ groups ↔
      GroupedObject db applicationId ⟨bucketId, pre, none, true, limit⟩ group) :
    Collects db applicationId bucketId pre entries where
  file name version hslash hcurrent := by
    have hkey : (pre ++ String.ofList name).toList = pre.toList ++ name := by
      rw [String.toList_append, String.toList_ofList]
    exact h.file ⟨pre ++ String.ofList name, version⟩
      ((hitems _).2 ⟨⟨name, hkey, fun _ => hslash⟩, hcurrent⟩) name hkey
  directory name hsegment hnone := by
    have hlisted : ∀ item ∈ items, item.key.toList ≠ pre.toList ++ name := by
      intro item hitem hkey
      exact hnone (eq_append_ofList hkey ▸ ⟨item.version, ((hitems item).1 hitem).2⟩)
    refine h.directory name hsegment.nonempty ((hgroups _).2 (groupedObject_iff.2 ?_)) hlisted
    obtain ⟨key, rest, hcurrent, hkey, rfl | ⟨tail, rfl⟩⟩ := hsegment.key
    · rw [List.append_nil] at hkey
      exact absurd (eq_append_ofList hkey ▸ hcurrent) hnone
    · exact ⟨hsegment.slash, key, tail, hcurrent, hkey⟩
  named name hname := by
    rcases h.named name hname with ⟨item, hitem, hkey⟩ | ⟨hne, hgroup⟩
    · obtain ⟨⟨rest, hrest, hslash⟩, hcurrent⟩ := (hitems item).1 hitem
      obtain rfl := List.append_cancel_left (hkey.symm.trans hrest)
      refine ⟨?_, hslash rfl, item.key, [], ⟨item.version, hcurrent⟩, ?_, Or.inl rfl⟩
      · rintro rfl
        rw [List.append_nil] at hkey
        exact hself (String.toList_inj.1 hkey ▸ ⟨item.version, hcurrent⟩)
      · rw [List.append_nil, hkey]
    · obtain ⟨hslash, key, rest, hcurrent, hkey⟩ := groupedObject_iff.1 ((hgroups _).1 hgroup)
      exact ⟨hne, hslash, key, '/' :: rest, hcurrent, hkey, Or.inr ⟨rest, rfl⟩⟩

/-- Every name that is collected has its entry. -/
theorem Collects.entry {entries : DavEntries}
    (h : Collects db applicationId bucketId pre entries) {name : List Char} {entry : DavEntry}
    (hentry : entries[String.ofList name]? = some entry) :
    NextSegment db applicationId bucketId pre name ∧
      IsEntry db applicationId bucketId pre name entry := by
  have hmem : String.ofList name ∈ entries :=
    Std.TreeMap.mem_iff_isSome_getElem?.2 (by rw [hentry]; rfl)
  have hsegment := h.named name hmem
  refine ⟨hsegment, ?_⟩
  by_cases hkey : CurrentKey db applicationId bucketId (pre ++ String.ofList name)
  · obtain ⟨version, hcurrent⟩ := hkey
    obtain ⟨other, hfile, hother⟩ := h.file name version hsegment.slash hcurrent
    rw [hentry] at hother
    exact Or.inl ⟨version, hcurrent, Option.some.inj hother ▸ hfile⟩
  · have hdirectory := h.directory name hsegment hkey
    rw [hentry] at hdirectory
    exact Or.inr ⟨hkey, Option.some.inj hdirectory⟩

theorem IsEntry.name_eq {segment : List Char} {entry : DavEntry}
    (h : IsEntry db applicationId bucketId pre segment entry) :
    entry.name = Utf8.bytes segment := by
  rcases h with ⟨version, hcurrent, hfile⟩ | ⟨-, rfl⟩
  · obtain ⟨other, hother, hname⟩ := exists_file hcurrent.data (Utf8.bytes segment)
    rw [← Except.ok.inj (hother.symm.trans hfile), hname]
  · rfl

theorem IsEntry.exists (segment : List Char) :
    ∃ entry, IsEntry db applicationId bucketId pre segment entry := by
  by_cases hkey : CurrentKey db applicationId bucketId (pre ++ String.ofList segment)
  · obtain ⟨version, hcurrent⟩ := hkey
    obtain ⟨entry, hfile, -⟩ := exists_file hcurrent.data (Utf8.bytes segment)
    exact ⟨entry, Or.inl ⟨version, hcurrent, hfile⟩⟩
  · exact ⟨_, Or.inr ⟨hkey, rfl⟩⟩

theorem Collects.shows {entries : DavEntries}
    (h : Collects db applicationId bucketId pre entries) :
    Shows db applicationId bucketId pre (entries.toList.map Prod.snd) := by
  have hentries : ∀ row ∈ entries.toList, entries[String.ofList row.1.toList]? = some row.2 := by
    intro row hrow
    rw [String.ofList_toList]
    exact Std.TreeMap.mem_toList_iff_getElem?_eq_some.1 hrow
  constructor
  · rw [List.map_map]
    refine List.pairwise_map.2 (Std.TreeMap.distinct_keys_toList.imp_of_mem ?_)
    intro row other hrow hother hdistinct hsame
    have hname := (h.entry (hentries row hrow)).2.name_eq
    have hname' := (h.entry (hentries other hother)).2.name_eq
    have hkeys := Utf8.bytes_injective (hname.symm.trans (hsame.trans hname'))
    exact hdistinct (compare_eq_iff_eq.2 (String.toList_inj.1 hkeys))
  · intro entry
    rw [List.mem_map]
    constructor
    · rintro ⟨row, hrow, rfl⟩
      exact ⟨row.1.toList, h.entry (hentries row hrow)⟩
    · rintro ⟨segment, hsegment, hentry⟩
      refine ⟨(String.ofList segment, entry), Std.TreeMap.mem_toList_iff_getElem?_eq_some.2 ?_, rfl⟩
      rcases hentry with ⟨version, hcurrent, hfile⟩ | ⟨hnone, rfl⟩
      · obtain ⟨other, hother, hfound⟩ := h.file segment version hsegment.slash hcurrent
        rw [hfound, Except.ok.inj (hother.symm.trans hfile)]
      · exact h.directory segment hsegment hnone

/-- Without that key, the listing ends, and shows the same whatever the size of its pages. -/
theorem exists_listDirectoryEntries (h : Listable db)
    (hself : ¬ CurrentKey db applicationId bucketId pre) :
    ∃ shown, Shows db applicationId bucketId pre shown ∧
      ∀ limit, 0 < limit → limit ≤ maxS3ObjectListLimit → ∃ fuel, ∀ more,
        listDirectoryEntries db applicationId bucketId limit (fuel + more) pre =
          some (.ok shown) := by
  have hcollected : ∀ limit, 0 < limit → limit ≤ maxS3ObjectListLimit →
      ∃ groups items entries, Collected pre groups items entries ∧
        (∀ item, item ∈ items ↔
          ListedObject db applicationId ⟨bucketId, pre, none, true, limit⟩ item) ∧
        (∀ group, group ∈ groups ↔
          GroupedObject db applicationId ⟨bucketId, pre, none, true, limit⟩ group) ∧
        ∃ fuel, ∀ more, listDirectoryEntries db applicationId bucketId limit (fuel + more) pre =
          some (.ok (entries.toList.map Prod.snd)) := by
    intro limit hlimit hmost
    obtain ⟨pages, hfollows, hitems, hgroups⟩ :=
      @exists_pages db applicationId bucketId pre h limit hlimit hmost
    have hpages : DirectoryPages pre pages :=
      ⟨fun group hgroup => GroupedObject.exists_name ((hgroups group).1 hgroup),
        fun item hitem => ListedObject.shown ((hitems item).1 hitem)⟩
    have hone : OneVersion ([] ++ pages.flatMap S3ObjectPage.items) := by
      intro item hitem other hother hkey
      have hcurrent := ((hitems item).1 hitem).2
      rw [hkey] at hcurrent
      exact hcurrent.unique h ((hitems other).1 hother).2
    have hnone : ∀ item ∈ pages.flatMap S3ObjectPage.items, item.key.toList ≠ pre.toList := by
      intro item hitem hkey
      exact hself (String.toList_inj.1 hkey ▸ ⟨item.version, ((hitems item).1 hitem).2⟩)
    obtain ⟨entries, hentries, hall⟩ := Collected.empty.addPages hpages hone hnone
    refine ⟨_, _, entries, hall, hitems, hgroups, pages.length, fun more => ?_⟩
    rw [listDirectoryEntries, hfollows.foldPages_eq, hentries]
    rfl
  obtain ⟨groups, items, entries, hfirst, hitems, hgroups, -⟩ :=
    hcollected 1 Nat.one_pos (by decide)
  refine ⟨_, (hfirst.collects hself hitems hgroups).shows, fun limit hlimit hmost => ?_⟩
  obtain ⟨groups', items', entries', hother, hitems', hgroups', hends⟩ :=
    hcollected limit hlimit hmost
  rw [hfirst.toList_eq hother (fun group => (hgroups group).trans (hgroups' group).symm)
    fun item => (hitems item).trans (hitems' item).symm]
  exact hends

/-- Without a delimiter, the entries are the current keys that start with the prefix. -/
theorem mem_objectListing_sorted {limit : Nat} {entry : Entry ObjectVersionId} :
    entry ∈ (objectListing db applicationId ⟨bucketId, pre, none, false, limit⟩).sorted ↔
      ∃ row ∈ currentObjects db applicationId bucketId pre, keyEntry row = entry :=
  (Keyset.Listing.mem_sorted _).trans List.mem_map

/-- The first page of one object finds a key wherever there is one. -/
theorem directoryExists_eq (h : Listable db) :
    ∃ found, directoryExists db applicationId bucketId pre = .ok found ∧
      (found = true ↔ StartsWith db applicationId bucketId pre) := by
  let query : S3ObjectListQuery := ⟨bucketId, pre, none, false, 1⟩
  have hlawful := @objectListing_lawful db applicationId query h
  have hmost : query.limit ≤ maxS3ObjectListLimit := Nat.one_le_ofNat
  have hserves := @objectListing_serves db applicationId query h Nat.one_pos hmost
  obtain ⟨admits, hadmits, hfetch⟩ := hserves.fetch_eq none nofun
  rw [hlawful.page_eq (List.nil_append _).symm hadmits] at hfetch
  have hpage : ∃ page, fetchPage db applicationId query = .ok page ∧ page.items =
      itemsOf (rowToObjectItem db) ((objectListing db applicationId query).sorted.take 1) :=
    ⟨_, congrArg (Except.mapError mapRepositoryError) hfetch, rfl⟩
  obtain ⟨page, hpage, hitems⟩ := hpage
  refine ⟨!page.items.isEmpty, by rw [directoryExists, hpage, ok_bind]; rfl, ?_⟩
  rw [Bool.not_eq_true', List.isEmpty_eq_false_iff_exists_mem, hitems]
  constructor
  · rintro ⟨item, hitem⟩
    obtain ⟨entry, hentry, -, -⟩ := mem_itemsOf.1 hitem
    obtain ⟨row, hrow, -⟩ := mem_objectListing_sorted.1 (List.mem_of_mem_take hentry)
    obtain ⟨hpre, version, hcurrent, -⟩ := mem_currentObjects.1 hrow
    exact ⟨row.1, _, ⟨version, hcurrent⟩, hasPrefix_iff.1 hpre⟩
  · rintro ⟨key, rest, ⟨version, hcurrent⟩, hkey⟩
    have hungrouped : Ungrouped pre false key := ⟨rest, hkey, nofun⟩
    have hrow : (key, version.id) ∈ currentObjects db applicationId bucketId pre :=
      mem_currentObjects.2 ⟨(ungrouped_iff.1 hungrouped).1, version, hcurrent, rfl⟩
    have hsome : keyEntry (key, version.id) ∈ (objectListing db applicationId query).sorted :=
      mem_objectListing_sorted.2 ⟨_, hrow, rfl⟩
    obtain ⟨first, later, hsorted⟩ := List.exists_cons_of_ne_nil (List.ne_nil_of_mem hsome)
    have hfirst : first ∈ (objectListing db applicationId query).sorted :=
      hsorted ▸ List.mem_cons_self
    obtain ⟨row, hrow, rfl⟩ := mem_objectListing_sorted.1 hfirst
    obtain ⟨-, found, hshown, hid⟩ := mem_currentObjects.1 hrow
    refine ⟨⟨row.1, found⟩, mem_itemsOf.2 ⟨keyEntry row, ?_, rfl, ?_⟩⟩
    · rw [hsorted]
      exact List.mem_cons_self
    · exact (rowToObjectItem_iff h hrow).2 ⟨rfl, hshown⟩

end

theorem directoryPrefix_of_not {objectKey : String} (h : objectKey.toList.getLast? ≠ some '/') :
    directoryPrefix objectKey = objectKey ++ "/" :=
  if_neg h

theorem getLast?_intercalate {segments : List (List Char)}
    (h : ∀ segment ∈ segments, segment ≠ [] ∧ '/' ∉ segment) :
    (['/'].intercalate segments).getLast? ≠ some '/' := by
  induction segments with
  | nil => simp
  | cons segment rest ih =>
      rw [List.forall_mem_cons] at h
      cases rest with
      | nil =>
          rw [List.intercalate_singleton]
          exact fun hlast => h.1.2 (List.mem_of_getLast? hlast)
      | cons next rest =>
          have hne : ['/'].intercalate (next :: rest) ≠ [] := by
            cases rest with
            | nil =>
                rw [List.intercalate_singleton]
                exact (h.2 next List.mem_cons_self).1
            | cons other rest => simp [List.intercalate]
          rw [List.intercalate_cons_cons, List.append_assoc, List.getLast?_append_of_ne_nil,
            List.getLast?_append_of_ne_nil]
          · exact ih h.2
          · exact hne
          · simp

/-- The key of a path has no slash at its end. -/
theorem DavResource.getLast?_of_parse {path : DavPath} {credentials : DavCredentials}
    {bucketName objectKey : String} {collection : Bool}
    (h : DavResource.parse path credentials = .ok (.object bucketName objectKey collection)) :
    objectKey.toList.getLast? ≠ some '/' ∧ collection = path.isCollection := by
  rw [DavResource.parse] at h
  split at h
  · cases h
  · next text htext =>
      have hsegments : ∀ segment ∈ pathSegments text, segment ≠ [] ∧ '/' ∉ segment := by
        intro segment hsegment
        obtain ⟨hmem, hne⟩ := List.mem_filter.1 hsegment
        exact ⟨of_decide_eq_true hne, Text.notMem_of_mem_splitOn hmem⟩
      split at h
      · cases h
      · next appId rest hall =>
          split at h
          · split at h
            · cases h
            · cases h
            · next bucket segments hnone =>
                dsimp only at h
                split at h
                · cases h
                · cases h
                  rw [String.toList_ofList]
                  refine ⟨getLast?_intercalate fun segment hsegment => hsegments segment ?_, rfl⟩
                  rw [hall]
                  exact List.mem_cons_of_mem _ (List.mem_cons_of_mem _ hsegment)
          · cases h

/-- A request for a collection of keys that its credentials may see. -/
structure CollectionRequest (db : Database) (credentials : DavCredentials) (path : DavPath)
    (bucketId : BucketId) (objectKey : String) : Prop where
  parse : ∃ bucketName,
    DavResource.parse path credentials = .ok (.object bucketName objectKey true) ∧ ∃ bucket,
      findBucket db credentials bucketName = .ok bucket ∧ bucket.id = bucketId
  allowed : credentials.requireAny ["media:list", "media:read", "media:upload"] = .ok ()

/-- The metadata of a collection and the listing of its directory are those of its keys. -/
structure ViewAgrees (db : Database) (credentials : DavCredentials) (path : DavPath)
    (bucketId : BucketId) (objectKey : String) : Prop where
  metadata : (∃ found, Dav.metadata db credentials path = .ok found) ↔
    StartsWith db credentials.applicationId bucketId (objectKey ++ "/")
  readDir : StartsWith db credentials.applicationId bucketId (objectKey ++ "/") →
    ∃ shown, Shows db credentials.applicationId bucketId (objectKey ++ "/") shown ∧
      ∀ limit, 0 < limit → limit ≤ maxS3ObjectListLimit → ∃ fuel, ∀ more,
        Dav.readDir db credentials limit (fuel + more) path = some (.ok shown)
  ends : ∀ limit, 0 < limit → limit ≤ maxS3ObjectListLimit → ∃ fuel result, ∀ more,
    Dav.readDir db credentials limit (fuel + more) path = some result

/-- The directory is no key itself, and if keys are below it, one has a name there. -/
def PlainDirectory (db : Database) (applicationId : ApplicationId) (bucketId : BucketId)
    (pre : String) : Prop :=
  ¬ CurrentKey db applicationId bucketId pre ∧
    (StartsWith db applicationId bucketId pre → ∃ key c rest,
      CurrentKey db applicationId bucketId key ∧ key.toList = pre.toList ++ c :: rest ∧ c ≠ '/')

section

variable {db : Database} {applicationId : ApplicationId} {bucketId : BucketId}

theorem exists_nextSegment_iff {pre : String} :
    (∃ segment, NextSegment db applicationId bucketId pre segment) ↔ ∃ key c rest,
      CurrentKey db applicationId bucketId key ∧ key.toList = pre.toList ++ c :: rest ∧
        c ≠ '/' := by
  constructor
  · rintro ⟨segment, hnonempty, hslash, key, rest, hcurrent, hkey, -⟩
    obtain ⟨c, tail, rfl⟩ := List.exists_cons_of_ne_nil hnonempty
    refine ⟨key, c, tail ++ rest, hcurrent, ?_, fun hc => hslash (hc ▸ List.mem_cons_self)⟩
    rw [hkey, List.append_assoc, List.cons_append]
  · rintro ⟨key, c, rest, hcurrent, hkey, hc⟩
    have hplain : (c != '/') = true := bne_iff_ne.2 hc
    refine ⟨(c :: rest).takeWhile (· != '/'), ?_, ?_, key, (c :: rest).dropWhile (· != '/'),
      hcurrent, ?_, ?_⟩
    · rw [List.takeWhile_cons_of_pos (p := (· != '/')) hplain]
      exact List.cons_ne_nil _ _
    · intro hmem
      exact absurd (List.mem_takeWhile_imp hmem) (by decide)
    · rw [hkey, List.append_assoc, List.takeWhile_append_dropWhile]
    · cases hrest : (c :: rest).dropWhile (· != '/') with
      | nil => exact Or.inl rfl
      | cons d tail =>
          have hd := List.head?_dropWhile_not (· != '/') (c :: rest)
          rw [hrest] at hd
          simp only [List.head?_cons, bne_eq_false_iff_eq] at hd
          exact Or.inr ⟨tail, by rw [hd]⟩

end

section

variable {db : Database} {credentials : DavCredentials} {path : DavPath} {bucketId : BucketId}
  {objectKey : String}

theorem CollectionRequest.directoryPrefix_eq
    (h : CollectionRequest db credentials path bucketId objectKey) :
    directoryPrefix objectKey = objectKey ++ "/" := by
  obtain ⟨bucketName, hparse, -⟩ := h.parse
  exact directoryPrefix_of_not (DavResource.getLast?_of_parse hparse).1

theorem CollectionRequest.readDir_eq
    (h : CollectionRequest db credentials path bucketId objectKey) (limit fuel : Nat) :
    readDir db credentials limit fuel path =
      withEntries (listDirectoryEntries db credentials.applicationId bucketId limit fuel
        (objectKey ++ "/")) fun entries =>
          if entries = [] then .error .notFound else .ok entries := by
  have hfront := h.directoryPrefix_eq
  obtain ⟨⟨bucketName, hparse, bucket, hbucket, rfl⟩, hallowed⟩ := h
  simp only [readDir, hparse, hallowed, hbucket, ok_bind, hfront]

theorem CollectionRequest.metadata_eq
    (h : CollectionRequest db credentials path bucketId objectKey) :
    metadata db credentials path =
      collectionMetadata db credentials bucketId objectKey := by
  obtain ⟨⟨bucketName, hparse, bucket, hbucket, rfl⟩, hallowed⟩ := h
  simp only [metadata, hparse, hbucket, ok_bind, Bool.true_eq_false, if_false]

theorem CollectionRequest.metadata_iff (hlistable : Listable db)
    (h : CollectionRequest db credentials path bucketId objectKey) :
    (∃ found, metadata db credentials path = .ok found) ↔
      StartsWith db credentials.applicationId bucketId (objectKey ++ "/") := by
  obtain ⟨found, hfound, hstarts⟩ := @directoryExists_eq db credentials.applicationId bucketId
    (objectKey ++ "/") hlistable
  have hmetadata : metadata db credentials path = do
      rejectIf (found = false) .notFound
      return .directory unixEpoch := by
    rw [h.metadata_eq, collectionMetadata, h.allowed, h.directoryPrefix_eq, hfound]
    rfl
  rw [hmetadata, ← hstarts]
  cases found with
  | true => exact iff_of_true ⟨_, rfl⟩ rfl
  | false => exact iff_of_false nofun nofun

theorem CollectionRequest.readDir_of_self (hlistable : Listable db)
    (h : CollectionRequest db credentials path bucketId objectKey)
    (hself : CurrentKey db credentials.applicationId bucketId (objectKey ++ "/")) {limit : Nat}
    (hlimit : 0 < limit) (hmost : limit ≤ maxS3ObjectListLimit) :
    ∃ fuel, ∀ more,
      readDir db credentials limit (fuel + more) path = some (.error .generalFailure) := by
  obtain ⟨fuel, hfuel⟩ := listDirectoryEntries_of_self hlistable hself hlimit hmost
  refine ⟨fuel, fun more => ?_⟩
  rw [h.readDir_eq, hfuel]
  rfl

/-- A key that is the directory itself can be found but not be listed. -/
theorem CollectionRequest.not_agrees_of_self (hlistable : Listable db)
    (h : CollectionRequest db credentials path bucketId objectKey)
    (hself : CurrentKey db credentials.applicationId bucketId (objectKey ++ "/")) :
    ¬ ViewAgrees db credentials path bucketId objectKey := by
  intro hagrees
  have hstarts : StartsWith db credentials.applicationId bucketId (objectKey ++ "/") :=
    ⟨objectKey ++ "/", [], hself, (List.append_nil _).symm⟩
  obtain ⟨shown, -, hshown⟩ := hagrees.readDir hstarts
  obtain ⟨fuel, hfuel⟩ := hshown 1 Nat.one_pos Nat.one_le_ofNat
  obtain ⟨fuel', hfuel'⟩ := h.readDir_of_self hlistable hself Nat.one_pos Nat.one_le_ofNat
  have hread := hfuel fuel'
  rw [Nat.add_comm, hfuel' fuel] at hread
  cases hread

/-- Every reachable database can be listed, and in such a database the view of a collection agrees
with its keys exactly when it is plain. -/
theorem viewAgrees_iff [Md5] :
    (∀ s, system.Reachable s → Listable s.db) ∧
    ∀ (db : Database) (credentials : DavCredentials) (path : DavPath) (bucketId : BucketId)
      (objectKey : String), Listable db →
        CollectionRequest db credentials path bucketId objectKey →
          (ViewAgrees db credentials path bucketId objectKey ↔
            PlainDirectory db credentials.applicationId bucketId (objectKey ++ "/")) := by
  refine ⟨fun _ => listable_of_reachable, fun db credentials path bucketId objectKey hlistable h =>
    ⟨fun hagrees => ⟨fun hself => h.not_agrees_of_self hlistable hself hagrees, fun hstarts => ?_⟩,
      fun ⟨hself, hname⟩ => ?_⟩⟩
  · obtain ⟨shown, hshows, hshown⟩ := hagrees.readDir hstarts
    obtain ⟨fuel, hfuel⟩ := hshown 1 Nat.one_pos Nat.one_le_ofNat
    have hread := hfuel 0
    rw [h.readDir_eq] at hread
    obtain ⟨entries, -, hentries⟩ := Option.map_eq_some_iff.1 hread
    cases entries with
    | error e => cases hentries
    | ok entries =>
        by_cases hempty : entries = []
        · rw [ok_bind, if_pos hempty] at hentries
          cases hentries
        · rw [ok_bind, if_neg hempty] at hentries
          obtain rfl := Except.ok.inj hentries
          obtain ⟨entry, hentry⟩ := List.exists_mem_of_ne_nil entries hempty
          obtain ⟨segment, hsegment, -⟩ := (hshows.mem_iff entry).1 hentry
          exact exists_nextSegment_iff.1 ⟨segment, hsegment⟩
  · obtain ⟨shown, hshows, hshown⟩ := exists_listDirectoryEntries hlistable hself
    have hread : ∀ limit, 0 < limit → limit ≤ maxS3ObjectListLimit → ∃ fuel, ∀ more,
        readDir db credentials limit (fuel + more) path =
          some (if shown = [] then .error .notFound else .ok shown) := by
      intro limit hlimit hmost
      obtain ⟨fuel, hfuel⟩ := hshown limit hlimit hmost
      refine ⟨fuel, fun more => ?_⟩
      rw [h.readDir_eq, hfuel]
      rfl
    refine ⟨h.metadata_iff hlistable, fun hstarts => ⟨shown, hshows, ?_⟩,
      fun limit hlimit hmost => ?_⟩
    · obtain ⟨segment, hsegment⟩ := exists_nextSegment_iff.2 (hname hstarts)
      have hne : shown ≠ [] := by
        obtain ⟨entry, hentry⟩ := IsEntry.exists segment
        exact List.ne_nil_of_mem ((hshows.mem_iff entry).2 ⟨segment, hsegment, hentry⟩)
      rw [if_neg hne] at hread
      exact hread
    · obtain ⟨fuel, hfuel⟩ := hread limit hlimit hmost
      exact ⟨fuel, _, hfuel⟩

end

/-- A put under this key of the bucket. -/
def putOf (objectKey : String) : List Event :=
  [.call (.createBucket plainBucket)] ++
    PutScript.run ⟨1, "bucket", objectKey, 5, 10, 11, 12, 13, "first", 1000⟩

def reader : DavCredentials := ⟨1, "app".toList, ["media:list"], "PROPFIND"⟩

def docsPath : DavPath := ⟨Utf8.bytes "/app/bucket/docs/".toList, true⟩

theorem currentKey_iff {db : Database} {applicationId : ApplicationId} {bucketId : BucketId}
    {pre key : String} (hpre : hasPrefix pre key = true) :
    CurrentKey db applicationId bucketId key ↔
      key ∈ (currentObjects db applicationId bucketId pre).map Prod.fst := by
  rw [List.mem_map]
  constructor
  · rintro ⟨version, hcurrent⟩
    exact ⟨(key, version.id), mem_currentObjects.2 ⟨hpre, version, hcurrent, rfl⟩, rfl⟩
  · rintro ⟨row, hrow, rfl⟩
    obtain ⟨-, version, hcurrent, -⟩ := mem_currentObjects.1 hrow
    exact ⟨version, hcurrent⟩

theorem docsPath_request (db : Database)
    (h : (findBucket db reader "bucket").map S3Bucket.id = .ok 2) :
    CollectionRequest db reader docsPath 2 "docs" := by
  refine ⟨⟨"bucket", by decide +kernel, ?_⟩, rfl⟩
  cases hbucket : findBucket db reader "bucket" with
  | error e => rw [hbucket] at h; cases h
  | ok bucket => rw [hbucket] at h; exact ⟨bucket, rfl, Except.ok.inj h⟩

theorem viewAgrees_iff_docs :
    ViewAgrees (scripted (putOf "docs/a")).db reader docsPath 2 "docs" := by
  have hview := @viewAgrees_iff noMd5
  have hlistable := hview.1 _ (reachable_scripted (putOf "docs/a"))
  have hkeys : (currentObjects (scripted (putOf "docs/a")).db 1 2 "docs/").map Prod.fst =
      ["docs/a"] := by decide +kernel
  have hrequest : CollectionRequest (scripted (putOf "docs/a")).db reader docsPath 2 "docs" :=
    docsPath_request _ (by decide +kernel)
  refine (hview.2 _ reader docsPath 2 "docs" hlistable hrequest).2 ⟨?_, fun _ => ?_⟩
  · rw [@currentKey_iff _ _ _ "docs/" _ (by decide +kernel)]
    intro hmem
    exact absurd (hkeys ▸ hmem) (by decide +kernel)
  · refine ⟨"docs/a", 'a', [], ?_, by decide +kernel, by decide⟩
    rw [@currentKey_iff _ _ _ "docs/" _ (by decide +kernel)]
    exact hkeys ▸ List.mem_singleton.2 rfl

/-- The metadata of a directory marker is found, and its directory is not. -/
theorem viewAgrees_marker :
    let db := (scripted (putOf "docs/")).db
    CurrentKey db 1 2 "docs/" ∧ CollectionRequest db reader docsPath 2 "docs" ∧
      metadata db reader docsPath = .ok (.directory unixEpoch) ∧
      readDir db reader pageSize 2 docsPath = some (.error .generalFailure) ∧
      ¬ ViewAgrees db reader docsPath 2 "docs" := by
  have hlistable := @listable_of_reachable noMd5 _ (reachable_scripted (putOf "docs/"))
  have hkey : CurrentKey (scripted (putOf "docs/")).db 1 2 "docs/" := by
    rw [@currentKey_iff _ _ _ "docs/" _ (by decide +kernel)]
    decide +kernel
  have hrequest : CollectionRequest (scripted (putOf "docs/")).db reader docsPath 2 "docs" :=
    docsPath_request _ (by decide +kernel)
  exact ⟨hkey, hrequest, by decide +kernel, by decide +kernel,
    hrequest.not_agrees_of_self hlistable hkey⟩

end MediaHub.Server.Dav
