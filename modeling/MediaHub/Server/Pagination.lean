import MediaHub.Server.Ledgers
import MediaHub.Store.ListingMarkers
import MediaHub.Store.ObjectNames

namespace MediaHub.Server

open Relational
open MediaHub.Core
open MediaHub.Store
open MediaHub.Store.Listing
open Keyset (Follows)

theorem namesUnique_of_reachable [Md5] {s : State} (h : system.Reachable s) :
    NamesUnique s.db.objects := by
  refine reachable_invariant (P := fun s => NamesUnique s.db.objects) ?_ ?_ h
  · intro s hfresh
    rw [hfresh.tables]
    exact fun object hobject => absurd hobject (Table.not_mem_empty object)
  · intro s e _ hs hcases
    cases hcases with
    | effects heffects => exact heffects.namesUnique hs
    | bare hbare =>
        obtain ⟨applications, media, reservations, hdb⟩ := hbare.frame
        rw [hdb]
        exact hs

theorem listable_of_reachable [Md5] {s : State} (h : system.Reachable s) : Listable s.db := by
  have hchain := (Sound.of_reachable h).chain
  have hobject : ∀ version ∈ s.db.objectVersions, ∃ object ∈ s.db.objects,
      version.objectId = object.id := by
    intro version hversion
    obtain ⟨object, hobject, hid, _⟩ := hchain.owner version hversion
    exact ⟨object, hobject, hid.symm⟩
  refine ⟨namesUnique_of_reachable h, ?_, ?_, ?_⟩
  · intro version hversion other hother hsame hactive hactive' heq
    obtain ⟨object, hobject, hid⟩ := hobject version hversion
    exact (Chain.objectChain hchain hobject).generation_inj version hversion other hother hid
      (hsame.symm.trans hid) hactive hactive' heq
  · intro version hversion other hother hsame hactive hactive' heq
    obtain ⟨object, hobject, hid⟩ := hobject version hversion
    exact (Chain.objectChain hchain hobject).externalVersionId_inj version hversion other hother hid
      (hsame.symm.trans hid) hactive hactive' heq
  · intro object hobject version hversion hid hactive
    rw [Option.isSome_iff_ne_none]
    intro hnone
    have hhidden := (Chain.objectChain hchain hobject).head_none.1 hnone version hversion hid
    rw [hactive] at hhidden
    cases hhidden

section Complete

variable {db : Database} {applicationId : ApplicationId}

/-- A key and its current version that a listing of objects shows. -/
def ListedObject (db : Database) (applicationId : ApplicationId) (query : S3ObjectListQuery)
    (item : S3ObjectListItem) : Prop :=
  Ungrouped query.pre query.delimiter item.key ∧
    CurrentObject db applicationId query.bucketId item.key item.version

def GroupedObject (db : Database) (applicationId : ApplicationId) (query : S3ObjectListQuery)
    (group : String) : Prop :=
  query.delimiter = true ∧ ∃ key version,
    CurrentObject db applicationId query.bucketId key version ∧ Groups query.pre key group

def ListedVersion (db : Database) (applicationId : ApplicationId)
    (query : S3ObjectVersionListQuery) (item : S3ObjectVersionListItem) : Prop :=
  Ungrouped query.pre query.delimiter item.key ∧
    VisibleVersion db applicationId query.bucketId item

def GroupedVersion (db : Database) (applicationId : ApplicationId)
    (query : S3ObjectVersionListQuery) (group : String) : Prop :=
  query.delimiter = true ∧ ∃ item,
    VisibleVersion db applicationId query.bucketId item ∧ Groups query.pre item.key group

def ListedUpload (db : Database) (applicationId : ApplicationId)
    (query : S3MultipartUploadListQuery) (item : S3MultipartUploadListItem) : Prop :=
  Ungrouped query.pre query.delimiter item.key ∧
    OpenUpload db applicationId query.bucketId query.asOf item

def GroupedUpload (db : Database) (applicationId : ApplicationId)
    (query : S3MultipartUploadListQuery) (group : String) : Prop :=
  query.delimiter = true ∧ ∃ item,
    OpenUpload db applicationId query.bucketId query.asOf item ∧ Groups query.pre item.key group

theorem listCurrentS3Objects_enumerates (h : Listable db) {query : S3ObjectListQuery}
    (hlimit : 0 < query.limit) (hmost : query.limit ≤ maxS3ObjectListLimit) :
    Enumerates
      (fun cursor => listCurrentS3Objects db applicationId { query with startAfter := cursor })
      S3ObjectPage.nextCursor S3ObjectListItem.key S3ObjectPage.items S3ObjectPage.commonPrefixes
      (ListedObject db applicationId query) (GroupedObject db applicationId query)
      (fun item later => item.key < later.key) := by
  refine enumerates (objectListing_renders h) hlimit (objectListing_serves h hlimit hmost)
    (fun _ _ => rfl) (fun _ _ => rfl) ?_ ?_
  · intro item
    rw [ListedObject, ungrouped_iff]
    constructor
    · rintro ⟨row, hrow, hdelimiter, hitem⟩
      obtain ⟨hkey, hcurrent⟩ := (rowToObjectItem_iff h hrow).1 hitem
      rw [hkey] at hcurrent ⊢
      exact ⟨⟨(mem_currentObjects.1 hrow).1, hdelimiter⟩, hcurrent⟩
    · rintro ⟨⟨hpre, hdelimiter⟩, hcurrent⟩
      have hrow : (item.key, item.version.id) ∈
          currentObjects db applicationId query.bucketId query.pre :=
        mem_currentObjects.2 ⟨hpre, item.version, hcurrent, rfl⟩
      exact ⟨_, hrow, hdelimiter, (rowToObjectItem_iff h hrow).2 ⟨rfl, hcurrent⟩⟩
  · intro group
    rw [GroupedObject]
    refine and_congr_right fun _ => ?_
    constructor
    · rintro ⟨row, hrow, hdelimiter, hgroup⟩
      obtain ⟨hpre, version, hcurrent, _⟩ := mem_currentObjects.1 hrow
      exact ⟨row.1, version, hcurrent, groups_iff.2 ⟨hpre, hdelimiter, hgroup⟩⟩
    · rintro ⟨key, version, hcurrent, hgroups⟩
      obtain ⟨hpre, hdelimiter, hgroup⟩ := groups_iff.1 hgroups
      exact ⟨(key, version.id), mem_currentObjects.2 ⟨hpre, version, hcurrent, rfl⟩,
        hdelimiter, hgroup⟩

theorem listS3ObjectVersionsPage_enumerates (h : Listable db) {query : S3ObjectVersionListQuery}
    (hlimit : 0 < query.limit) (hmost : query.limit ≤ maxS3VersionListLimit) :
    Enumerates
      (fun start => listS3ObjectVersionsPage db applicationId
        { query with keyMarker := start.map (·.1), versionIdMarker := start.bind (·.2) })
      (fun page => page.nextKeyMarker.map fun key => (key, page.nextVersionIdMarker))
      S3ObjectVersionListItem.key S3ObjectVersionPage.items S3ObjectVersionPage.commonPrefixes
      (ListedVersion db applicationId query) (GroupedVersion db applicationId query)
      VersionBefore := by
  have hranked := @visibleVersions_ranked db applicationId h query.bucketId query.pre
  have hrow_of : ∀ item, VisibleVersion db applicationId query.bucketId item →
      hasPrefix query.pre item.key = true →
      ∃ row ∈ visibleVersions db applicationId query.bucketId query.pre, row.1 = item.key ∧
        item.version.id = row.2.versionId := by
    intro item hvisible hpre
    obtain ⟨object, hobject, happlication, hbucket, hkey, hid, _⟩ := hvisible.object
    exact ⟨_, mem_visibleVersions.2 ⟨by rwa [hkey], item.version, hvisible.version_mem, object,
      hobject, happlication, hbucket, hid, hvisible.active, rfl⟩, hkey, rfl⟩
  refine enumerates hranked.renders hlimit (versionListing_serves h hlimit hmost)
    (fun _ _ => rfl) (fun _ _ => rfl) ?_ ?_
  · intro item
    rw [ListedVersion, ungrouped_iff]
    constructor
    · rintro ⟨row, hrow, hdelimiter, hitem⟩
      obtain ⟨hkey, _, hvisible⟩ := (rowToVersionItem_iff h hrow).1 hitem
      rw [hkey]
      exact ⟨⟨(mem_visibleVersions.1 hrow).1, hdelimiter⟩, hvisible⟩
    · rintro ⟨⟨hpre, hdelimiter⟩, hvisible⟩
      obtain ⟨row, hrow, hkey, hid⟩ := hrow_of item hvisible hpre
      exact ⟨row, hrow, hkey ▸ hdelimiter,
        (rowToVersionItem_iff h hrow).2 ⟨hkey.symm, hid, hvisible⟩⟩
  · intro group
    rw [GroupedVersion]
    refine and_congr_right fun _ => ?_
    constructor
    · rintro ⟨row, hrow, hdelimiter, hgroup⟩
      obtain ⟨item, hitem⟩ := hranked.read row hrow
      obtain ⟨hkey, _, hvisible⟩ := (rowToVersionItem_iff h hrow).1 hitem
      refine ⟨item, hvisible, groups_iff.2 ?_⟩
      rw [hkey]
      exact ⟨(mem_visibleVersions.1 hrow).1, hdelimiter, hgroup⟩
    · rintro ⟨item, hvisible, hgroups⟩
      obtain ⟨hpre, hdelimiter, hgroup⟩ := groups_iff.1 hgroups
      obtain ⟨row, hrow, hkey, _⟩ := hrow_of item hvisible hpre
      rw [← hkey] at hdelimiter hgroup
      exact ⟨row, hrow, hdelimiter, hgroup⟩

theorem listS3MultipartUploadsPage_enumerates {query : S3MultipartUploadListQuery}
    (hlimit : 0 < query.limit) (hmost : query.limit ≤ maxS3MultipartUploadListLimit) :
    Enumerates
      (fun start => listS3MultipartUploadsPage db applicationId
        { query with keyMarker := start.map (·.1), uploadIdMarker := start.bind (·.2) })
      (fun page => page.nextKeyMarker.map fun key => (key, page.nextUploadIdMarker))
      S3MultipartUploadListItem.key S3MultipartUploadPage.items
      S3MultipartUploadPage.commonPrefixes (ListedUpload db applicationId query)
      (GroupedUpload db applicationId query) UploadBefore := by
  refine enumerates (activeUploads_ranked _ _ _).renders hlimit
    (uploadListing_serves hlimit hmost) (fun _ _ => rfl) (fun _ _ => rfl) ?_ ?_
  · intro item
    rw [ListedUpload, ungrouped_iff]
    constructor
    · rintro ⟨row, hrow, hdelimiter, ⟨⟩⟩
      obtain ⟨hpre, hupload⟩ := mem_activeUploads.1 hrow
      exact ⟨⟨hpre, hdelimiter⟩, hupload⟩
    · rintro ⟨⟨hpre, hdelimiter⟩, hupload⟩
      exact ⟨(item.key, ⟨item.uploadId, item.initiatedAt⟩),
        mem_activeUploads.2 ⟨hpre, hupload⟩, hdelimiter, rfl⟩
  · intro group
    rw [GroupedUpload]
    refine and_congr_right fun _ => ?_
    constructor
    · rintro ⟨row, hrow, hdelimiter, hgroup⟩
      obtain ⟨hpre, hupload⟩ := mem_activeUploads.1 hrow
      exact ⟨_, hupload, groups_iff.2 ⟨hpre, hdelimiter, hgroup⟩⟩
    · rintro ⟨item, hupload, hgroups⟩
      obtain ⟨hpre, hdelimiter, hgroup⟩ := groups_iff.1 hgroups
      exact ⟨(item.key, ⟨item.uploadId, item.initiatedAt⟩),
        mem_activeUploads.2 ⟨hpre, hupload⟩, hdelimiter, hgroup⟩

end Complete

/-- Every reachable database can be listed; and in a database that can, each listing of a bucket
ends after finitely many pages, which show what it lists once and in order. -/
theorem listings_complete [Md5] :
    (∀ s, system.Reachable s → Listable s.db) ∧
    ∀ (db : Database) (applicationId : ApplicationId), Listable db →
      (∀ query : S3ObjectListQuery, 0 < query.limit → query.limit ≤ maxS3ObjectListLimit →
        Enumerates
          (fun cursor => listCurrentS3Objects db applicationId { query with startAfter := cursor })
          S3ObjectPage.nextCursor S3ObjectListItem.key S3ObjectPage.items
          S3ObjectPage.commonPrefixes (ListedObject db applicationId query)
          (GroupedObject db applicationId query) (fun item later => item.key < later.key)) ∧
      (∀ query : S3ObjectVersionListQuery, 0 < query.limit → query.limit ≤ maxS3VersionListLimit →
        Enumerates
          (fun start => listS3ObjectVersionsPage db applicationId
            { query with keyMarker := start.map (·.1), versionIdMarker := start.bind (·.2) })
          (fun page => page.nextKeyMarker.map fun key => (key, page.nextVersionIdMarker))
          S3ObjectVersionListItem.key S3ObjectVersionPage.items
          S3ObjectVersionPage.commonPrefixes (ListedVersion db applicationId query)
          (GroupedVersion db applicationId query) VersionBefore) ∧
      ∀ query : S3MultipartUploadListQuery, 0 < query.limit →
        query.limit ≤ maxS3MultipartUploadListLimit →
        Enumerates
          (fun start => listS3MultipartUploadsPage db applicationId
            { query with keyMarker := start.map (·.1), uploadIdMarker := start.bind (·.2) })
          (fun page => page.nextKeyMarker.map fun key => (key, page.nextUploadIdMarker))
          S3MultipartUploadListItem.key S3MultipartUploadPage.items
          S3MultipartUploadPage.commonPrefixes (ListedUpload db applicationId query)
          (GroupedUpload db applicationId query) UploadBefore :=
  ⟨fun _ hreachable => listable_of_reachable hreachable, fun _ _ hlistable =>
    ⟨fun _ hlimit hmost => listCurrentS3Objects_enumerates hlistable hlimit hmost,
      fun _ hlimit hmost => listS3ObjectVersionsPage_enumerates hlistable hlimit hmost,
      fun _ hlimit hmost => listS3MultipartUploadsPage_enumerates hlimit hmost⟩⟩

def folderPut : PutScript := ⟨1, "bucket", "photos/new", 5, 30, 31, 32, 33, "third", 3000⟩

/-- Two versions of one key and one version below a folder. -/
def keptVersions : List Event :=
  [.call (.createBucket plainBucket), enableVersioning 500] ++ firstPut.run ++ secondPut.run ++
    folderPut.run

/-- The page ends between the two versions, and the last one shows the folder. -/
theorem listings_complete_keptVersions :
    let db := (scripted keptVersions).db
    let fetch (start : Option (String × Option S3VersionId)) :=
      listS3ObjectVersionsPage db 1 ⟨2, "", start.map (·.1), start.bind (·.2), true, 1⟩
    let shown (page : S3ObjectVersionPage) :=
      (page.items.map fun item => (item.key, item.version.id), page.commonPrefixes,
        page.nextKeyMarker)
    Enumerates fetch
      (fun page => page.nextKeyMarker.map fun key => (key, page.nextVersionIdMarker))
      S3ObjectVersionListItem.key S3ObjectVersionPage.items S3ObjectVersionPage.commonPrefixes
      (ListedVersion db 1 ⟨2, "", none, none, true, 1⟩)
      (GroupedVersion db 1 ⟨2, "", none, none, true, 1⟩) VersionBefore ∧
    (fetch none).map shown = .ok ([("key", 21)], [], some "key") ∧
    (fetch (some ("key", some (.uuid 21)))).map shown = .ok ([("key", 11)], [], some "key") ∧
    (fetch (some ("key", some (.uuid 11)))).map shown = .ok ([], ["photos/"], none) := by
  have hlistings := @listings_complete noMd5
  have hlistable := hlistings.1 _ (reachable_scripted keptVersions)
  exact ⟨(hlistings.2 _ 1 hlistable).2.1 ⟨2, "", none, none, true, 1⟩ (by decide) (by decide),
    by decide +kernel, by decide +kernel, by decide +kernel⟩

end MediaHub.Server
