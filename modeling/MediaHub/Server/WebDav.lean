import MediaHub.Server.Pagination
import MediaHub.Text.Split
import MediaHub.Text.Utf8

namespace MediaHub.Server.Dav

open MediaHub.Core
open MediaHub.Store
open MediaHub.Store.Listing
open Result

/-- The errors of the handlers here. -/
inductive FsError where
  | notFound
  | forbidden
  | generalFailure
  | alreadyExists
  | insufficientStorage
  | tooLarge
deriving DecidableEq

abbrev FsResult := Except FsError

/-- The path of a request and whether it ends in a slash, as the protocol library gives them. -/
structure DavPath where
  bytes : List UInt8
  isCollection : Bool

structure DavCredentials where
  applicationId : ApplicationId
  appId : List Char
  permissions : List String
  method : String

namespace DavCredentials

def allows (credentials : DavCredentials) (permission : String) : Bool :=
  credentials.permissions.contains permission

def requireAny (credentials : DavCredentials) (permissions : List String) : FsResult Unit :=
  rejectIf (permissions.any credentials.allows = false) .forbidden

end DavCredentials

inductive DavResource where
  | root
  | application
  | bucket (bucketName : String)
  | object (bucketName objectKey : String) (collection : Bool)
deriving DecidableEq

/-- `trim_matches('/').split('/').filter(..)` -/
def pathSegments (text : List Char) : List (List Char) :=
  ((Text.trim (· = '/') text).splitOn '/').filter (· ≠ [])

def DavResource.parse (path : DavPath) (credentials : DavCredentials) : FsResult DavResource :=
  match Utf8.ofBytes path.bytes with
  | none => .error .forbidden
  | some text =>
      match pathSegments text with
      | [] => .ok .root
      | appId :: rest =>
          if appId = credentials.appId then
            match rest with
            | [] => .ok .application
            | [bucketName] => .ok (.bucket (String.ofList bucketName))
            | bucketName :: segments =>
                let objectKey := ['/'].intercalate segments
                if objectKey = [] then .error .forbidden
                else .ok (.object (String.ofList bucketName) (String.ofList objectKey)
                  path.isCollection)
          else .error .notFound

/-- `SystemTime` counts nanoseconds from the epoch too. -/
def toSystemTime (value : Time) : Time :=
  let seconds := value / Time.nanosPerSecond
  let nanos := value % Time.nanosPerSecond
  if 0 ≤ seconds then seconds * Time.nanosPerSecond + nanos
  else -(seconds.natAbs * Time.nanosPerSecond + nanos)

def unixEpoch : Time := 0

structure DavMetadata where
  isDir : Bool
  len : Nat
  modified : Time
  etag : Option EntityTag
deriving DecidableEq

namespace DavMetadata

def directory (modified : Time) : DavMetadata := ⟨true, 0, modified, none⟩

def file (len : Nat) (modified : Time) (etag : Option EntityTag) : DavMetadata :=
  ⟨false, len, modified, etag⟩

def fromObjectVersion (version : ObjectVersion) : FsResult DavMetadata :=
  match version.payload with
  | .object payload =>
      .ok (.file payload.sizeBytes (toSystemTime version.createdAt) (some payload.etag))
  | .deleteMarker => .error .notFound

end DavMetadata

structure DavEntry where
  name : List UInt8
  metadata : DavMetadata
deriving DecidableEq

namespace DavEntry

def directory (name : List UInt8) (modified : Time) : DavEntry := ⟨name, .directory modified⟩

def file (name : List UInt8) (version : ObjectVersion) : FsResult DavEntry := do
  return ⟨name, ← DavMetadata.fromObjectVersion version⟩

end DavEntry

def directoryPrefix (objectKey : String) : String :=
  if objectKey.toList.getLast? = some '/' then objectKey else objectKey ++ "/"

def mapRepositoryError : RepositoryError → FsError
  | .conflict => .alreadyExists
  | .quotaExceeded => .insufficientStorage
  | .notFound => .notFound
  | _ => .generalFailure

/-- `BTreeMap<String, DavEntry>` -/
abbrev DavEntries := Std.TreeMap String DavEntry

def addPrefix (pre : String) (entries : DavEntries) (commonPrefix : String) :
    FsResult DavEntries :=
  match (commonPrefix.toList.dropPrefix? pre.toList).bind (·.dropSuffix? ['/']) with
  | none => .error .generalFailure
  | some name =>
      if name = [] then .ok entries
      else .ok (entries.insertIfNew (String.ofList name)
        (.directory (Utf8.bytes name) unixEpoch))

def addItem (pre : String) (entries : DavEntries) (item : S3ObjectListItem) :
    FsResult DavEntries :=
  match item.key.toList.dropPrefix? pre.toList with
  | none => .error .generalFailure
  | some name =>
      if name = [] ∨ '/' ∈ name then .error .generalFailure
      else do
        let entry ← DavEntry.file (Utf8.bytes name) item.version
        return entries.insert (String.ofList name) entry

def addPage (pre : String) (entries : DavEntries) (page : S3ObjectPage) :
    FsResult DavEntries := do
  let entries ← page.commonPrefixes.foldlM (addPrefix pre) entries
  page.items.foldlM (addItem pre) entries

/-- `PAGE_SIZE` -/
def pageSize : Nat := 100

section

variable (db : Database) (applicationId : ApplicationId) (bucketId : BucketId)

/-- `list_current_s3_objects` under `map_repository_error`. -/
def fetchPage (query : S3ObjectListQuery) : FsResult S3ObjectPage :=
  (listCurrentS3Objects db applicationId query).mapError mapRepositoryError

/-- The loop over the pages, each of at most `limit` entries. -/
def listDirectoryEntries (limit fuel : Nat) (pre : String) : Option (FsResult (List DavEntry)) :=
  (Keyset.foldPages (fun cursor => fetchPage db applicationId ⟨bucketId, pre, cursor, true, limit⟩)
    S3ObjectPage.nextCursor (addPage pre) fuel none ∅).map fun result =>
      result.map fun entries => entries.toList.map Prod.snd

def directoryExists (pre : String) : FsResult Bool := do
  let page ← fetchPage db applicationId ⟨bucketId, pre, none, false, 1⟩
  return !page.items.isEmpty

end

section

variable (db : Database) (credentials : DavCredentials)

def findBucket (bucketName : String) : FsResult S3Bucket :=
  match db.findBucketByName credentials.applicationId bucketName with
  | none => .error .notFound
  | some bucket => .ok bucket

/-- `FIND_CURRENT_OBJECT_VERSION_SQL` -/
def findCurrentS3ObjectVersion (object : S3Object) : Option ObjectVersion :=
  (object.currentVersionId.bind db.objectVersions.find?).filter (·.isActive)

/-- `S3ObjectService::head` for the current version, under `map_s3_object_error`. -/
def headObject (bucketName objectKey : String) : FsResult ObjectVersion := do
  let bucket ← findBucket db credentials bucketName
  match (db.findObject credentials.applicationId bucket.id objectKey).bind
      (findCurrentS3ObjectVersion db) with
  | none => throw .notFound
  | some version => do
      rejectIf (version.state ≠ .committed ∨ version.isDeleteMarker = true) .notFound
      rejectIf (version.applicationId ≠ credentials.applicationId) .generalFailure
      return version

/-- The buckets of the application, ordered by their names. -/
def listS3Buckets : List S3Bucket :=
  (db.buckets.rows.filter (·.applicationId = credentials.applicationId)).insertionSort
    fun a b => a.name ≤ b.name

def bucketEntry (bucket : S3Bucket) : DavEntry :=
  .directory (Utf8.bytes bucket.name.toList) (toSystemTime bucket.configuration.updatedAt)

/-- A listing that was refused, or that did not end within the fuel, is left as it is. -/
def withEntries (entries : Option (FsResult (List DavEntry)))
    (answer : List DavEntry → FsResult (List DavEntry)) : Option (FsResult (List DavEntry)) :=
  entries.map (· >>= answer)

def readDir (limit fuel : Nat) (path : DavPath) : Option (FsResult (List DavEntry)) :=
  match DavResource.parse path credentials with
  | .error e => some (.error e)
  | .ok .root => some do
      credentials.requireAny
        ["application:read", "bucket:list", "media:list", "media:read", "media:upload"]
      return [.directory (Utf8.bytes credentials.appId) unixEpoch]
  | .ok .application => some do
      credentials.requireAny ["bucket:list", "media:list", "media:read", "media:upload"]
      return (listS3Buckets db credentials).map bucketEntry
  | .ok (.bucket bucketName) =>
      match (do
        credentials.requireAny ["media:list", "media:read", "media:upload"]
        findBucket db credentials bucketName : FsResult S3Bucket) with
      | .error e => some (.error e)
      | .ok bucket =>
          withEntries (listDirectoryEntries db credentials.applicationId bucket.id limit fuel "")
            fun entries =>
              if credentials.method = "DELETE" ∧ entries ≠ [] then .error .alreadyExists
              else .ok entries
  | .ok (.object bucketName objectKey _) =>
      match (do
        credentials.requireAny ["media:list", "media:read", "media:upload"]
        findBucket db credentials bucketName : FsResult S3Bucket) with
      | .error e => some (.error e)
      | .ok bucket =>
          withEntries (listDirectoryEntries db credentials.applicationId bucket.id limit fuel
            (directoryPrefix objectKey)) fun entries =>
              if entries = [] then .error .notFound else .ok entries

/-- The metadata of a collection of keys. -/
def collectionMetadata (bucketId : BucketId) (objectKey : String) : FsResult DavMetadata := do
  credentials.requireAny ["media:list", "media:read", "media:upload"]
  let found ← directoryExists db credentials.applicationId bucketId (directoryPrefix objectKey)
  rejectIf (found = false) .notFound
  return .directory unixEpoch

def metadata (path : DavPath) : FsResult DavMetadata := do
  match ← DavResource.parse path credentials with
  | .root | .application => return .directory unixEpoch
  | .bucket bucketName => do
      let bucket ← findBucket db credentials bucketName
      return .directory (toSystemTime bucket.configuration.updatedAt)
  | .object bucketName objectKey collection => do
      let bucket ← findBucket db credentials bucketName
      if collection = false then
        match headObject db credentials bucketName objectKey with
        | .ok version => do
            credentials.requireAny ["media:list", "media:read"]
            DavMetadata.fromObjectVersion version
        | .error .notFound => collectionMetadata db credentials bucket.id objectKey
        | .error e => throw e
      else collectionMetadata db credentials bucket.id objectKey

end

end MediaHub.Server.Dav
