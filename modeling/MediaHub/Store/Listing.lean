import Mathlib.Data.Prod.Lex
import Mathlib.Data.String.Basic
import Mathlib.Order.WithBot
import MediaHub.Pagination.Keyset
import MediaHub.Store.Database
import MediaHub.Text.Result

namespace MediaHub.Store.Listing

open Relational
open MediaHub.Core Result

def maxS3ObjectListLimit : Nat := 1000

def maxS3VersionListLimit : Nat := 1000

def maxS3MultipartUploadListLimit : Nat := 1000

structure S3ObjectListQuery where
  bucketId : BucketId
  pre : String
  startAfter : Option String
  delimiter : Bool
  limit : Nat

structure S3ObjectListItem where
  key : String
  version : ObjectVersion

structure S3ObjectPage where
  items : List S3ObjectListItem
  commonPrefixes : List String
  nextCursor : Option String

structure S3ObjectVersionListQuery where
  bucketId : BucketId
  pre : String
  keyMarker : Option String
  versionIdMarker : Option S3VersionId
  delimiter : Bool
  limit : Nat

structure S3ObjectVersionListItem where
  key : String
  version : ObjectVersion
  isLatest : Bool

structure S3ObjectVersionPage where
  items : List S3ObjectVersionListItem
  commonPrefixes : List String
  nextKeyMarker : Option String
  nextVersionIdMarker : Option S3VersionId

structure S3MultipartUploadListQuery where
  bucketId : BucketId
  pre : String
  keyMarker : Option String
  uploadIdMarker : Option MultipartUploadId
  delimiter : Bool
  limit : Nat
  asOf : Time

structure S3MultipartUploadListItem where
  key : String
  uploadId : MultipartUploadId
  initiatedAt : Time

structure S3MultipartUploadPage where
  items : List S3MultipartUploadListItem
  commonPrefixes : List String
  nextKeyMarker : Option String
  nextUploadIdMarker : Option MultipartUploadId

namespace S3ObjectListQuery

def validate (query : S3ObjectListQuery) : Except RepositoryError Unit :=
  rejectIf (maxS3ObjectListLimit < query.limit)
    (.invariant "S3 object page limit must not exceed 1000")

end S3ObjectListQuery

namespace S3ObjectVersionListQuery

def validate (query : S3ObjectVersionListQuery) : Except RepositoryError Unit := do
  rejectIf (maxS3VersionListLimit < query.limit)
    (.invariant "S3 object-version page limit must not exceed 1000")
  rejectIf (query.versionIdMarker.isSome = true ∧ query.keyMarker.isNone = true)
    (.invariant "version-id-marker requires key-marker")

end S3ObjectVersionListQuery

namespace S3MultipartUploadListQuery

def validate (query : S3MultipartUploadListQuery) : Except RepositoryError Unit :=
  rejectIf (maxS3MultipartUploadListLimit < query.limit)
    (.invariant "S3 multipart-upload page limit must not exceed 1000")

end S3MultipartUploadListQuery

/-- `LEFT(key, char_length(pre)) = pre` -/
def hasPrefix (pre key : String) : Bool := key.toList.take pre.toList.length = pre.toList

/-- `substring(key FROM char_length(pre) + 1)` -/
def relativeKey (pre key : String) : List Char := key.toList.drop pre.toList.length

/-- `strpos(relative_key, '/') > 0` -/
def hasDelimiter (pre key : String) : Bool := (relativeKey pre key).contains '/'

/-- `split_part(relative_key, '/', 1)` -/
def firstPart (pre key : String) : List Char := (relativeKey pre key).takeWhile (· ≠ '/')

def prefixEntry (pre : String) (part : List Char) : String := pre ++ String.ofList part ++ "/"

/-- An entry of a listing; the other columns of a common prefix are `NULL`. -/
structure Entry (β : Type) where
  entryKey : String
  isPrefix : Bool
  columns : Option β

def keyEntry {β : Type} (row : String × β) : Entry β := ⟨row.1, false, some row.2⟩

/-- The rows whose keys hold no delimiter after the prefix, and one entry for each group of the
others. -/
def entries {β : Type} (pre : String) (delimiter : Bool) (rows : List (String × β)) :
    List (Entry β) :=
  if delimiter then
    (rows.filter fun row => !hasDelimiter pre row.1).map keyEntry ++
      ((rows.filter fun row => hasDelimiter pre row.1).map fun row => firstPart pre row.1).dedup.map
        fun part => ⟨prefixEntry pre part, true, none⟩
  else rows.map keyEntry

/-- The entries of a page in two lists, in their order. -/
def collect {β ι : Type} (toItem : String → Option β → Except RepositoryError ι)
    (rows : List (Entry β)) : Except RepositoryError (List ι × List String) :=
  rows.foldlM (fun page row =>
    if row.isPrefix then .ok (page.1, page.2 ++ [row.entryKey])
    else do
      let item ← toItem row.entryKey row.columns
      .ok (page.1 ++ [item], page.2)) ([], [])

/-- `WHERE (entry_key > key) OR (entry_key = key AND NOT is_prefix AND isAfter)`, or the first half
alone where the page before ended on a common prefix. -/
def afterMarker {β : Type} (keyMarker : Option String) (isAfter : Option (β → Bool))
    (row : Entry β) : Bool :=
  match keyMarker, isAfter with
  | none, _ => true
  | some key, none => key < row.entryKey
  | some key, some isAfter =>
      key < row.entryKey || (row.entryKey = key && !row.isPrefix && row.columns.any isAfter)

/-- `ORDER BY entry_key COLLATE "C" ASC, is_prefix ASC, rank ASC NULLS LAST`: the bytes of UTF-8 are
ordered as the scalar values are. -/
def position {β κ : Type} (rank : β → κ) (row : Entry β) : String ×ₗ Bool ×ₗ WithTop κ :=
  toLex (row.entryKey, toLex (row.isPrefix, row.columns.elim ⊤ fun columns => (rank columns : κ)))

def unexpectedNull (column : String) : RepositoryError :=
  .unavailable ("error occurred while decoding column " ++ column ++ ": unexpected null")

section Objects

variable (db : Database) (applicationId : ApplicationId)

def currentObjects (bucketId : BucketId) (pre : String) : List (String × ObjectVersionId) :=
  db.objects.rows.filterMap fun object => do
    let versionId ← object.currentVersionId
    let version ← db.objectVersions.find? versionId
    if version.objectId = object.id && object.applicationId = applicationId &&
        object.bucketId = bucketId && version.isActive && !version.isDeleteMarker &&
        hasPrefix pre object.key then
      some (object.key, version.id)
    else none

/-- `ORDER BY entry_key COLLATE "C"` -/
def objectListing (query : S3ObjectListQuery) :
    Keyset.Listing (Entry ObjectVersionId) String where
  entries := entries query.pre query.delimiter
    (currentObjects db applicationId query.bucketId query.pre)
  position := Entry.entryKey

def rowToObjectItem (key : String) (versionId : Option ObjectVersionId) :
    Except RepositoryError S3ObjectListItem :=
  match versionId.bind db.objectVersions.find? with
  | none => .error (unexpectedNull "is_delete_marker")
  | some version =>
      if version.state ≠ .committed || version.isDeleteMarker then
        .error (.invariant "ListObjects query returned a non-committed data version")
      else .ok ⟨key, version⟩

def listCurrentS3Objects (query : S3ObjectListQuery) : Except RepositoryError S3ObjectPage := do
  query.validate
  if query.limit = 0 then return ⟨[], [], none⟩
  else do
    let page := (objectListing db applicationId query).page query.limit fun row =>
      query.startAfter.all (· < row.entryKey)
    let rows ← collect (rowToObjectItem db) page.1
    return ⟨rows.1, rows.2, page.2.map Entry.entryKey⟩

structure VersionColumns where
  versionId : ObjectVersionId
  generation : Nat
  externalVersionId : S3VersionId
  isLatest : Option Bool

def visibleVersions (bucketId : BucketId) (pre : String) : List (String × VersionColumns) :=
  db.objectVersions.rows.filterMap fun version => do
    let object ← db.objects.find? version.objectId
    if object.applicationId = applicationId && object.bucketId = bucketId && version.isActive &&
        hasPrefix pre object.key then
      some (object.key, ⟨version.id, version.generation, version.externalVersionId,
        object.currentVersionId.map fun current => decide (current = version.id)⟩)
    else none

/-- `generation DESC` -/
def versionRank (columns : VersionColumns) : ℕᵒᵈ := OrderDual.toDual columns.generation

def versionListing (query : S3ObjectVersionListQuery) :
    Keyset.Listing (Entry VersionColumns) (String ×ₗ Bool ×ₗ WithTop ℕᵒᵈ) where
  entries := entries query.pre query.delimiter
    (visibleVersions db applicationId query.bucketId query.pre)
  position := position versionRank

/-- `FIND_LIST_VERSION_MARKER_GENERATION_SQL` -/
def findListVersionMarkerGeneration (bucketId : BucketId) (key : String)
    (versionId : S3VersionId) : Option Nat :=
  (db.objectVersions.rows.find? fun version =>
    version.externalVersionId = versionId && version.isActive &&
    (db.objects.find? version.objectId).any fun object =>
      object.applicationId = applicationId && object.bucketId = bucketId &&
      object.key = key).map (·.generation)

def markerGeneration (query : S3ObjectVersionListQuery) :
    Except RepositoryError (Option Nat) :=
  match query.keyMarker, query.versionIdMarker with
  | some key, some versionId =>
      match findListVersionMarkerGeneration db applicationId query.bucketId key versionId with
      | none => .error .notFound
      | some generation => .ok (some generation)
  | _, _ => .ok none

def rowToVersionItem (key : String) (columns : Option VersionColumns) :
    Except RepositoryError S3ObjectVersionListItem :=
  match columns.bind (·.isLatest) with
  | none => .error (unexpectedNull "is_latest")
  | some isLatest =>
      match columns.bind fun columns => db.objectVersions.find? columns.versionId with
      | none => .error (unexpectedNull "is_delete_marker")
      | some version =>
          if version.state ≠ .committed then
            .error (.invariant "ListObjectVersions query returned a non-committed version")
          else .ok ⟨key, version, isLatest⟩

def listS3ObjectVersionsPage (query : S3ObjectVersionListQuery) :
    Except RepositoryError S3ObjectVersionPage := do
  query.validate
  if query.limit = 0 then return ⟨[], [], none, none⟩
  else do
    let generation ← markerGeneration db applicationId query
    let page := (versionListing db applicationId query).page query.limit
      (afterMarker query.keyMarker (generation.map fun generation columns =>
        decide (columns.generation < generation)))
    let rows ← collect (rowToVersionItem db) page.1
    return ⟨rows.1, rows.2, page.2.map Entry.entryKey,
      page.2.bind fun row => row.columns.map (·.externalVersionId)⟩

structure UploadColumns where
  uploadId : MultipartUploadId
  createdAt : Time

def activeUploads (bucketId : BucketId) (pre : String) (asOf : Time) :
    List (String × UploadColumns) :=
  (db.multipartUploads.rows.filter fun upload =>
    upload.applicationId = applicationId && upload.bucketId = bucketId && upload.state.isOpen &&
    postgresTime asOf < upload.expiresAt && hasPrefix pre upload.objectKey).map fun upload =>
      (upload.objectKey, ⟨upload.uploadId, upload.createdAt⟩)

/-- `upload_id COLLATE "C" ASC`: the texts of the ids are ordered as their UUIDs are. -/
def uploadRank (columns : UploadColumns) : MultipartUploadId := columns.uploadId

def uploadListing (query : S3MultipartUploadListQuery) :
    Keyset.Listing (Entry UploadColumns) (String ×ₗ Bool ×ₗ WithTop MultipartUploadId) where
  entries := entries query.pre query.delimiter
    (activeUploads db applicationId query.bucketId query.pre query.asOf)
  position := position uploadRank

def rowToUploadItem (key : String) (columns : Option UploadColumns) :
    Except RepositoryError S3MultipartUploadListItem :=
  match columns with
  | none => .error (unexpectedNull "upload_id")
  | some columns => .ok ⟨key, columns.uploadId, columns.createdAt⟩

def listS3MultipartUploadsPage (query : S3MultipartUploadListQuery) :
    Except RepositoryError S3MultipartUploadPage := do
  query.validate
  if query.limit = 0 then return ⟨[], [], none, none⟩
  else do
    let page := (uploadListing db applicationId query).page query.limit
      (afterMarker query.keyMarker (query.uploadIdMarker.map fun uploadId columns =>
        decide (uploadId < columns.uploadId)))
    let rows ← collect rowToUploadItem page.1
    return ⟨rows.1, rows.2, page.2.map Entry.entryKey,
      page.2.bind fun row => row.columns.map (·.uploadId)⟩

end Objects

end MediaHub.Store.Listing
