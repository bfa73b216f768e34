import MediaHub.Store.ListingServed

namespace MediaHub.Store.Listing

open Relational
open MediaHub.Core Result
open Keyset (Follows Serves)

section Ranked

variable {β ι κ : Type} [LinearOrder κ] {rank : β → κ} {pre : String} {delimiter : Bool}
  {rows : List (String × β)} {toItem : String → Option β → Except RepositoryError ι}
  {keyOf : ι → String} {before : ι → ι → Prop}

/-- The rows are apart, and each becomes an item that keeps their order. -/
structure Ranked (rank : β → κ) (rows : List (String × β))
    (toItem : String → Option β → Except RepositoryError ι) (keyOf : ι → String)
    (before : ι → ι → Prop) : Prop where
  nodup : rows.Nodup
  apart : ∀ row ∈ rows, ∀ row' ∈ rows, row.1 = row'.1 → rank row.2 = rank row'.2 → row = row'
  read : ∀ row ∈ rows, ∃ item, toItem row.1 (some row.2) = .ok item
  key_eq : ∀ row ∈ rows, ∀ item, toItem row.1 (some row.2) = .ok item → keyOf item = row.1
  before_of_lt : ∀ row ∈ rows, ∀ row' ∈ rows, (row.1 < row'.1 ∨ row.1 = row'.1 ∧
    rank row.2 < rank row'.2) → ∀ item item', toItem row.1 (some row.2) = .ok item →
      toItem row'.1 (some row'.2) = .ok item' → before item item'

theorem Ranked.renders (h : Ranked rank rows toItem keyOf before) :
    Renders ⟨entries pre delimiter rows, position rank⟩ pre delimiter rows toItem keyOf before where
  lawful := {
    nodup := nodup_entries h.nodup
    injective := fun _ hentry _ hother heq => position_injective h.apart hentry hother heq
  }
  entries_eq := rfl
  keys_le _ _ hlt := keys_le_of_lt hlt
  key_eq := h.key_eq
  before_of_lt row hrow row' hrow' hlt := h.before_of_lt row hrow row' hrow' (keyRank_of_lt hlt)

/-- A page that is filtered by the marker of the last entry shows the entries after it. -/
theorem Ranked.serves (h : Ranked rank rows toItem keyOf before) {π ω : Type} {limit : Nat}
    (isAfter : β → β → Bool) {identity : β → ω} {fetch : Option (String × Option ω) →
      Except RepositoryError π} {next : π → Option (String × Option ω)}
    {render : List (Entry β) × Option (Entry β) → π}
    (hafter : ∀ columns columns', isAfter columns columns' = true ↔ rank columns < rank columns')
    (hnext : ∀ list last, next (render (list, last)) =
      last.map fun entry => (entry.entryKey, entry.columns.map identity))
    (hfetch : ∀ last : Option (Entry β), (∀ entry ∈ last, entry ∈ entries pre delimiter rows) →
      ∀ page, page = Keyset.Listing.page ⟨entries pre delimiter rows, position rank⟩ limit
        (afterMarker (last.map Entry.entryKey) (last.bind fun entry =>
          entry.columns.map isAfter)) →
      collect toItem page.1 = .ok (itemsOf toItem page.1, prefixesOf page.1) →
      fetch (last.map fun entry => (entry.entryKey, entry.columns.map identity)) =
        .ok (render page)) :
    Serves ⟨entries pre delimiter rows, position rank⟩ limit fetch next
      (fun entry => (entry.entryKey, entry.columns.map identity)) render where
  next_render := hnext
  fetch_eq last hlast := by
    refine ⟨_, ?_, hfetch last hlast _ rfl (collect_eq ?_)⟩
    · intro entry hentry
      cases last with
      | none => simp [afterMarker]
      | some final =>
          have hiff := afterMarker_iff hafter (hlast final rfl) hentry
          simpa only [Option.map_some, Option.bind_some, Option.mem_some_iff, forall_eq'] using hiff
    · intro row hrow hpre
      rcases columns_of_mem_entries (Keyset.Listing.mem_of_mem_page hrow) with
        ⟨htrue, _⟩ | ⟨_, columns, hsome, hmem⟩
      · exact absurd (htrue.symm.trans hpre) (by decide)
      · rw [hsome]
        exact h.read _ hmem

end Ranked

variable {db : Database} {applicationId : ApplicationId}

/-- A version of a key that has not been deleted. -/
structure VisibleVersion (db : Database) (applicationId : ApplicationId) (bucketId : BucketId)
    (item : S3ObjectVersionListItem) : Prop where
  version_mem : item.version ∈ db.objectVersions
  object : ∃ object ∈ db.objects, object.applicationId = applicationId ∧
    object.bucketId = bucketId ∧ object.key = item.key ∧ item.version.objectId = object.id ∧
      item.isLatest = decide (object.currentVersionId = some item.version.id)
  active : item.version.isActive = true

/-- By key, the newest version first. -/
def VersionBefore (item later : S3ObjectVersionListItem) : Prop :=
  item.key < later.key ∨
    item.key = later.key ∧ later.version.generation < item.version.generation

theorem mem_visibleVersions {bucketId : BucketId} {pre : String} {row : String × VersionColumns} :
    row ∈ visibleVersions db applicationId bucketId pre ↔ hasPrefix pre row.1 = true ∧
      ∃ version ∈ db.objectVersions, ∃ object ∈ db.objects, object.applicationId = applicationId ∧
        object.bucketId = bucketId ∧ version.objectId = object.id ∧ version.isActive = true ∧
          row = (object.key, ⟨version.id, version.generation, version.externalVersionId,
            object.currentVersionId.map fun current => decide (current = version.id)⟩) := by
  simp only [visibleVersions, List.mem_filterMap, Option.bind_eq_bind, Option.bind_eq_some_iff]
  constructor
  · rintro ⟨version, hversion, object, hfind, hrow⟩
    split at hrow
    · rename_i hconditions
      simp only [Bool.and_eq_true, decide_eq_true_eq] at hconditions
      obtain ⟨⟨⟨happlication, hbucket⟩, hactive⟩, hpre⟩ := hconditions
      have hid : object.id = version.objectId := Table.key_of_find? hfind
      cases Option.some.inj hrow
      exact ⟨hpre, version, hversion, object, Table.mem_of_find? hfind, happlication, hbucket,
        hid.symm, hactive, rfl⟩
    · cases hrow
  · rintro ⟨hpre, version, hversion, object, hobject, happlication, hbucket, hid, hactive, rfl⟩
    refine ⟨version, hversion, object, hid ▸ Table.find?_of_mem hobject, ?_⟩
    rw [if_pos]
    simp [happlication, hbucket, hactive, hpre]

theorem nodup_visibleVersions (bucketId : BucketId) (pre : String) :
    (visibleVersions db applicationId bucketId pre).Nodup := by
  have hrows : db.objectVersions.rows.Pairwise fun version other => version.id ≠ other.id :=
    List.pairwise_map.1 db.objectVersions.nodup
  rw [visibleVersions, List.Nodup, List.pairwise_filterMap]
  refine hrows.imp fun {version other} hne row hrow row' hrow' heq => hne ?_
  have hid : ∀ {version : ObjectVersion} {row : String × VersionColumns}, (do
      let object ← db.objects.find? version.objectId
      if object.applicationId = applicationId && object.bucketId = bucketId && version.isActive &&
          hasPrefix pre object.key then
        some (object.key, (⟨version.id, version.generation, version.externalVersionId,
          object.currentVersionId.map fun current => decide (current = version.id)⟩ :
            VersionColumns))
      else none) = some row → row.2.versionId = version.id := by
    intro version row hrow
    simp only [Option.bind_eq_bind, Option.bind_eq_some_iff] at hrow
    obtain ⟨object, _, hrow⟩ := hrow
    split at hrow
    · cases Option.some.inj hrow
      rfl
    · cases hrow
  rw [← hid hrow, ← hid hrow', heq]

theorem rowToVersionItem_iff (h : Listable db) {bucketId : BucketId} {pre : String}
    {row : String × VersionColumns}
    (hrow : row ∈ visibleVersions db applicationId bucketId pre) {item : S3ObjectVersionListItem} :
    rowToVersionItem db row.1 (some row.2) = .ok item ↔ item.key = row.1 ∧
      item.version.id = row.2.versionId ∧ VisibleVersion db applicationId bucketId item := by
  obtain ⟨_, version, hversion, object, hobject, happlication, hbucket, hid, hactive, rfl⟩ :=
    mem_visibleVersions.1 hrow
  obtain ⟨current, hcurrent⟩ := Option.isSome_iff_exists.1
    (h.heads object hobject version hversion hid hactive)
  have hfind : db.objectVersions.find? version.id = some version := Table.find?_of_mem hversion
  have hlatest : decide (object.currentVersionId = some version.id) =
      decide (current = version.id) := by simp [hcurrent]
  have hitem : rowToVersionItem db object.key (some ⟨version.id, version.generation,
      version.externalVersionId, object.currentVersionId.map fun current =>
        decide (current = version.id)⟩) =
      .ok ⟨object.key, version, decide (object.currentVersionId = some version.id)⟩ := by
    simp only [rowToVersionItem, hcurrent, Option.map_some, Option.bind_some, hfind,
      committed_of_isActive hactive, ne_eq, not_true_eq_false, if_false, Option.some.injEq]
  simp only [hitem, Except.ok.injEq]
  constructor
  · rintro rfl
    exact ⟨rfl, rfl, hversion, ⟨object, hobject, happlication, hbucket, rfl, hid, rfl⟩, hactive⟩
  · obtain ⟨key, shown, isLatest⟩ := item
    rintro ⟨hkey, hversionId, hvisible⟩
    have hshown : shown = version := Table.eq_of_key hvisible.version_mem hversion hversionId
    obtain ⟨object', hobject', _, _, _, hid', hlatest'⟩ := hvisible.object
    have hobjects : object' = object :=
      Table.eq_of_key hobject' hobject (hid'.symm.trans ((congrArg _ hshown).trans hid))
    simp only at hkey hlatest'
    rw [hkey, hshown, hlatest', hobjects, hshown]

theorem visibleVersions_ranked (h : Listable db) (bucketId : BucketId) (pre : String) :
    Ranked versionRank (visibleVersions db applicationId bucketId pre) (rowToVersionItem db)
      S3ObjectVersionListItem.key VersionBefore where
  nodup := nodup_visibleVersions _ _
  apart := by
    intro row hrow row' hrow' hkey hrank
    obtain ⟨_, version, hversion, object, hobject, _, hbucket, hid, hactive, rfl⟩ :=
      mem_visibleVersions.1 hrow
    obtain ⟨_, version', hversion', object', hobject', _, hbucket', hid', hactive', rfl⟩ :=
      mem_visibleVersions.1 hrow'
    have hobjects := h.keys object hobject object' hobject' (hbucket.trans hbucket'.symm) hkey
    subst hobjects
    have hversions := h.generations version hversion version' hversion' (hid.trans hid'.symm)
      hactive hactive' (OrderDual.toDual.injective hrank)
    rw [hversions]
  read := by
    intro row hrow
    obtain ⟨_, version, hversion, object, hobject, happlication, hbucket, hid, hactive, hshown⟩ :=
      mem_visibleVersions.1 hrow
    refine ⟨⟨row.1, version, decide (object.currentVersionId = some version.id)⟩,
      (rowToVersionItem_iff h hrow).2 ⟨rfl, ?_, hversion, ?_, hactive⟩⟩
    · rw [hshown]
    · exact ⟨object, hobject, happlication, hbucket, (congrArg Prod.fst hshown).symm, hid, rfl⟩
  key_eq row hrow item hitem := ((rowToVersionItem_iff h hrow).1 hitem).1
  before_of_lt := by
    intro row hrow row' hrow' hlt item item' hitem hitem'
    have hgeneration : ∀ {row : String × VersionColumns} {item : S3ObjectVersionListItem},
        row ∈ visibleVersions db applicationId bucketId pre →
        rowToVersionItem db row.1 (some row.2) = .ok item →
        item.key = row.1 ∧ item.version.generation = row.2.generation := by
      intro row item hrow hitem
      obtain ⟨hkey, hid, hvisible⟩ := (rowToVersionItem_iff h hrow).1 hitem
      obtain ⟨_, version, hversion, _, _, _, _, _, _, hshown⟩ := mem_visibleVersions.1 hrow
      rw [hshown] at hid ⊢
      exact ⟨by rw [hkey, hshown],
        congrArg ObjectVersion.generation (Table.eq_of_key hvisible.version_mem hversion hid)⟩
    obtain ⟨hkey, hrank⟩ := hgeneration hrow hitem
    obtain ⟨hkey', hrank'⟩ := hgeneration hrow' hitem'
    rw [VersionBefore, hkey, hkey', hrank, hrank']
    exact hlt

/-- The marker of a version names its generation. -/
theorem findListVersionMarkerGeneration_eq (h : Listable db) {bucketId : BucketId} {pre : String}
    {row : String × VersionColumns}
    (hrow : row ∈ visibleVersions db applicationId bucketId pre) :
    findListVersionMarkerGeneration db applicationId bucketId row.1 row.2.externalVersionId =
      some row.2.generation := by
  obtain ⟨_, version, hversion, object, hobject, happlication, hbucket, hid, hactive, rfl⟩ :=
    mem_visibleVersions.1 hrow
  rw [findListVersionMarkerGeneration]
  generalize hfind : db.objectVersions.rows.find? (fun version' =>
    version'.externalVersionId = version.externalVersionId && version'.isActive &&
    (db.objects.find? version'.objectId).any fun object' =>
      object'.applicationId = applicationId && object'.bucketId = bucketId &&
      object'.key = object.key) = found
  have hobjectFind : db.objects.find? version.objectId = some object :=
    hid ▸ Table.find?_of_mem hobject
  cases found with
  | none =>
      have hnone := List.find?_eq_none.1 hfind version hversion
      simp [hactive, hobjectFind, happlication, hbucket] at hnone
  | some version' =>
      have hsome := List.find?_some hfind
      simp only [Bool.and_eq_true, decide_eq_true_eq, Option.any_eq_true] at hsome
      obtain ⟨⟨hlabel, hactive'⟩, object', hfind', ⟨_, hbucket'⟩, hkey'⟩ := hsome
      have hobjects := h.keys object' (Table.mem_of_find? hfind') object hobject
        (hbucket'.trans hbucket.symm) hkey'
      have hid' : object'.id = version'.objectId := Table.key_of_find? hfind'
      have hversions := h.labels version' (List.mem_of_find?_eq_some hfind) version hversion
        (hid'.symm.trans ((congrArg _ hobjects).trans hid.symm)) hactive' hactive hlabel
      rw [hversions]
      rfl

theorem versionListing_serves {query : S3ObjectVersionListQuery} (h : Listable db)
    (hlimit : 0 < query.limit)
    (hmost : query.limit ≤ maxS3VersionListLimit) :
    Serves (versionListing db applicationId query) query.limit
      (fun start => listS3ObjectVersionsPage db applicationId
        { query with keyMarker := start.map (·.1), versionIdMarker := start.bind (·.2) })
      (fun page => page.nextKeyMarker.map fun key => (key, page.nextVersionIdMarker))
      (fun entry => (entry.entryKey, entry.columns.map (·.externalVersionId)))
      (fun page => ⟨itemsOf (rowToVersionItem db) page.1, prefixesOf page.1,
        page.2.map Entry.entryKey,
        page.2.bind fun row => row.columns.map (·.externalVersionId)⟩) := by
  refine (visibleVersions_ranked h query.bucketId query.pre).serves
    (fun columns columns' => decide (columns'.generation < columns.generation))
    (fun columns columns' => decide_eq_true_iff) ?_ ?_
  · intro list last
    cases last <;> rfl
  · intro last hlast page hpage hcollect
    have hvalid : S3ObjectVersionListQuery.validate { query with
        keyMarker := (last.map fun entry => (entry.entryKey,
          entry.columns.map (·.externalVersionId))).map (·.1)
        versionIdMarker := (last.map fun entry => (entry.entryKey,
          entry.columns.map (·.externalVersionId))).bind (·.2) } = .ok () := by
      have hnot : ¬ maxS3VersionListLimit < query.limit := Nat.not_lt.2 hmost
      cases last <;> simp [S3ObjectVersionListQuery.validate, rejectIf, hnot, bind, Except.bind]
    have hgeneration : markerGeneration db applicationId { query with
        keyMarker := (last.map fun entry => (entry.entryKey,
          entry.columns.map (·.externalVersionId))).map (·.1)
        versionIdMarker := (last.map fun entry => (entry.entryKey,
          entry.columns.map (·.externalVersionId))).bind (·.2) } =
        .ok (last.bind fun entry => entry.columns.map (·.generation)) := by
      cases last with
      | none => rfl
      | some entry =>
          rcases columns_of_mem_entries (hlast entry rfl) with
            ⟨_, hnone⟩ | ⟨_, columns, hsome, hrow⟩
          · simp [markerGeneration, hnone]
          · have hmarker := findListVersionMarkerGeneration_eq h hrow
            simp only at hmarker
            simp [markerGeneration, hsome, hmarker]
    have hlisting : versionListing db applicationId { query with
        keyMarker := (last.map fun entry => (entry.entryKey,
          entry.columns.map (·.externalVersionId))).map (·.1)
        versionIdMarker := (last.map fun entry => (entry.entryKey,
          entry.columns.map (·.externalVersionId))).bind (·.2) } =
        ⟨entries query.pre query.delimiter
          (visibleVersions db applicationId query.bucketId query.pre), position versionRank⟩ := rfl
    have hadmits : afterMarker ((last.map fun entry => (entry.entryKey,
          entry.columns.map (·.externalVersionId))).map (·.1))
        ((last.bind fun entry => entry.columns.map (·.generation)).map
          fun generation (columns : VersionColumns) => decide (columns.generation < generation)) =
        afterMarker (last.map Entry.entryKey) (last.bind fun entry => entry.columns.map
          fun columns columns' => decide (columns'.generation < columns.generation)) := by
      cases last with
      | none => rfl
      | some entry => cases hcolumns : entry.columns <;> simp [hcolumns]
    simp only [listS3ObjectVersionsPage, hvalid, hgeneration, hlisting,
      if_neg (Nat.ne_of_gt hlimit)]
    show (do
      let rows ← collect (rowToVersionItem db) (Keyset.Listing.page _ query.limit _).1
      pure _ : Except RepositoryError S3ObjectVersionPage) = _
    rw [hadmits, ← hpage, hcollect]
    rfl

/-- An upload of a key that is neither completed, aborted nor expired. -/
def OpenUpload (db : Database) (applicationId : ApplicationId) (bucketId : BucketId) (asOf : Time)
    (item : S3MultipartUploadListItem) : Prop :=
  ∃ upload ∈ db.multipartUploads, upload.applicationId = applicationId ∧
    upload.bucketId = bucketId ∧ upload.state.isOpen = true ∧
    postgresTime asOf < upload.expiresAt ∧
    item = ⟨upload.objectKey, upload.uploadId, upload.createdAt⟩

/-- By key, and by upload id under one key. -/
def UploadBefore (item later : S3MultipartUploadListItem) : Prop :=
  item.key < later.key ∨ item.key = later.key ∧ item.uploadId < later.uploadId

theorem mem_activeUploads {bucketId : BucketId} {pre : String} {asOf : Time}
    {row : String × UploadColumns} :
    row ∈ activeUploads db applicationId bucketId pre asOf ↔ hasPrefix pre row.1 = true ∧
      OpenUpload db applicationId bucketId asOf ⟨row.1, row.2.uploadId, row.2.createdAt⟩ := by
  simp only [activeUploads, List.mem_map, List.mem_filter, Bool.and_eq_true, decide_eq_true_eq]
  constructor
  · rintro ⟨upload, ⟨hupload, ⟨⟨⟨happlication, hbucket⟩, hopen⟩, hexpires⟩, hpre⟩, rfl⟩
    exact ⟨hpre, upload, hupload, happlication, hbucket, hopen, hexpires, rfl⟩
  · rintro ⟨hpre, upload, hupload, happlication, hbucket, hopen, hexpires, hitem⟩
    obtain ⟨key, uploadId, createdAt⟩ := row
    obtain ⟨hkey, hid, hcreated⟩ := S3MultipartUploadListItem.mk.injEq .. ▸ hitem
    simp only at hkey hid hcreated hpre
    exact ⟨upload, ⟨hupload, ⟨⟨⟨happlication, hbucket⟩, hopen⟩, hexpires⟩, hkey ▸ hpre⟩,
      by rw [hkey, hid, hcreated]⟩

theorem nodup_activeUploads (bucketId : BucketId) (pre : String) (asOf : Time) :
    (activeUploads db applicationId bucketId pre asOf).Nodup := by
  have hrows : db.multipartUploads.rows.Pairwise fun upload other =>
      upload.uploadId ≠ other.uploadId := List.pairwise_map.1 db.multipartUploads.nodup
  rw [activeUploads, List.Nodup, List.pairwise_map]
  refine (hrows.filter _).imp fun {upload other} hne heq => hne ?_
  exact congrArg (fun row : String × UploadColumns => row.2.uploadId) heq

theorem activeUploads_ranked (bucketId : BucketId) (pre : String) (asOf : Time) :
    Ranked uploadRank (activeUploads db applicationId bucketId pre asOf) rowToUploadItem
      S3MultipartUploadListItem.key UploadBefore where
  nodup := nodup_activeUploads _ _ _
  apart := by
    intro row hrow row' hrow' hkey hrank
    obtain ⟨_, upload, hupload, _, _, _, _, hitem⟩ := mem_activeUploads.1 hrow
    obtain ⟨_, upload', hupload', _, _, _, _, hitem'⟩ := mem_activeUploads.1 hrow'
    obtain ⟨key, columns⟩ := row
    obtain ⟨key', columns'⟩ := row'
    simp only [S3MultipartUploadListItem.mk.injEq] at hitem hitem'
    have huploads : upload = upload' := Table.eq_of_key hupload hupload'
      (hitem.2.1.symm.trans (hrank.trans hitem'.2.1))
    obtain ⟨uploadId, createdAt⟩ := columns
    obtain ⟨uploadId', createdAt'⟩ := columns'
    simp only at hitem hitem' hkey
    rw [hkey, hitem.2.1, hitem.2.2, hitem'.2.1, hitem'.2.2, huploads]
  read row _ := ⟨⟨row.1, row.2.uploadId, row.2.createdAt⟩, rfl⟩
  key_eq := by
    rintro row _ item ⟨⟩
    rfl
  before_of_lt := by
    rintro row _ row' _ hlt item item' ⟨⟩ ⟨⟩
    exact hlt

theorem uploadListing_serves {query : S3MultipartUploadListQuery} (hlimit : 0 < query.limit)
    (hmost : query.limit ≤ maxS3MultipartUploadListLimit) :
    Serves (uploadListing db applicationId query) query.limit
      (fun start => listS3MultipartUploadsPage db applicationId
        { query with keyMarker := start.map (·.1), uploadIdMarker := start.bind (·.2) })
      (fun page => page.nextKeyMarker.map fun key => (key, page.nextUploadIdMarker))
      (fun entry => (entry.entryKey, entry.columns.map (·.uploadId)))
      (fun page => ⟨itemsOf rowToUploadItem page.1, prefixesOf page.1,
        page.2.map Entry.entryKey, page.2.bind fun row => row.columns.map (·.uploadId)⟩) := by
  refine (activeUploads_ranked query.bucketId query.pre query.asOf).serves
    (fun columns columns' => decide (columns.uploadId < columns'.uploadId))
    (fun columns columns' => decide_eq_true_iff) ?_ ?_
  · intro list last
    cases last <;> rfl
  · intro last hlast page hpage hcollect
    have hvalid : S3MultipartUploadListQuery.validate { query with
        keyMarker := (last.map fun entry => (entry.entryKey,
          entry.columns.map (·.uploadId))).map (·.1)
        uploadIdMarker := (last.map fun entry => (entry.entryKey,
          entry.columns.map (·.uploadId))).bind (·.2) } = .ok () := by
      rw [S3MultipartUploadListQuery.validate, rejectIf_eq_ok_iff]
      exact Nat.not_lt.2 hmost
    have hadmits : afterMarker ((last.map fun entry => (entry.entryKey,
          entry.columns.map (·.uploadId))).map (·.1))
        (((last.map fun entry => (entry.entryKey,
          entry.columns.map (·.uploadId))).bind (·.2)).map
          fun uploadId (columns : UploadColumns) => decide (uploadId < columns.uploadId)) =
        afterMarker (last.map Entry.entryKey) (last.bind fun entry => entry.columns.map
          fun columns columns' => decide (columns.uploadId < columns'.uploadId)) := by
      cases last with
      | none => rfl
      | some entry => cases hcolumns : entry.columns <;> simp [hcolumns]
    have hlisting : uploadListing db applicationId { query with
        keyMarker := (last.map fun entry => (entry.entryKey,
          entry.columns.map (·.uploadId))).map (·.1)
        uploadIdMarker := (last.map fun entry => (entry.entryKey,
          entry.columns.map (·.uploadId))).bind (·.2) } =
        ⟨entries query.pre query.delimiter
          (activeUploads db applicationId query.bucketId query.pre query.asOf),
          position uploadRank⟩ := rfl
    simp only [listS3MultipartUploadsPage, hvalid, hlisting, if_neg (Nat.ne_of_gt hlimit)]
    show (do
      let rows ← collect rowToUploadItem (Keyset.Listing.page _ query.limit _).1
      pure _ : Except RepositoryError S3MultipartUploadPage) = _
    rw [hadmits, ← hpage, hcollect]
    rfl

end MediaHub.Store.Listing
