import MediaHub.Catalog.Cursor
import MediaHub.Core.OffsetTime

namespace MediaHub.Catalog

open Relational
open MediaHub.Core Result
open MediaHub.Store (RepositoryError)
open MediaHub.Store.Listing
open Json (Text)

/-- The object keys that the core accepts. -/
def validateObjectKey (key : String) : Bool :=
  key ≠ "" && Utf8.byteLength key.toList ≤ 1024 && !key.toList.contains '\x00'

/-- A row of `media`, with the columns that a listing reads beside the others. -/
structure MediaRow where
  media : Media
  contentType : String
  createdAt : Time
  id_lt : media.id < 2 ^ 128
  createdInRange : Time.inRange createdAt = true
  createdStored : postgresTime createdAt = createdAt
  validKey : validateObjectKey media.objectKey = true

theorem MediaRow.eq_iff {row other : MediaRow} :
    row = other ↔ row.media = other.media ∧ row.contentType = other.contentType ∧
      row.createdAt = other.createdAt := by
  obtain ⟨media, contentType, createdAt⟩ := row
  obtain ⟨media', contentType', createdAt'⟩ := other
  rw [MediaRow.mk.injEq]

instance : DecidableEq MediaRow := fun _ _ => decidable_of_iff' _ MediaRow.eq_iff

instance : Keyed MediaRow MediaId := ⟨fun row => row.media.id⟩

/-- `UNIQUE (application_id, bucket_id, object_key)` -/
structure MediaTable where
  rows : Table MediaRow
  keysUnique : ∀ row ∈ rows, ∀ other ∈ rows,
    row.media.applicationId = other.media.applicationId →
    row.media.bucketId = other.media.bucketId →
    row.media.objectKey = other.media.objectKey → row = other

structure MediaListQuery where
  bucketId : Option BucketId
  state : Option MediaState
  mime : Option String
  createdFrom : Option Time
  createdBefore : Option Time
  objectKeyPrefix : Option String
  cursor : Option MediaListCursor
  limit : Nat

structure MediaPage where
  items : List MediaRow
  hasMore : Bool

structure MediaDirectoryListQuery where
  bucketId : BucketId
  state : Option MediaState
  mime : Option String
  createdFrom : Option Time
  createdBefore : Option Time
  objectKeyPrefix : String
  cursor : Option MediaDirectoryListCursor
  limit : Nat

structure MediaDirectoryPage where
  items : List MediaRow
  commonPrefixes : List String
  nextCursor : Option MediaDirectoryListCursor

/-- The conditions on state, type and time that both listings push. -/
def passesFilters (state : Option MediaState) (mime : Option String)
    (createdFrom createdBefore : Option Time) (row : MediaRow) : Bool :=
  state.all (row.media.state = ·) && mime.all (row.contentType = ·) &&
    createdFrom.all (postgresTime · ≤ row.createdAt) &&
    createdBefore.all (row.createdAt < postgresTime ·)

namespace MediaListQuery

def selects (query : MediaListQuery) (applicationId : ApplicationId) (row : MediaRow) : Bool :=
  row.media.applicationId = applicationId && query.bucketId.all (row.media.bucketId = ·) &&
    passesFilters query.state query.mime query.createdFrom query.createdBefore row &&
    query.objectKeyPrefix.all (hasPrefix · row.media.objectKey)

/-- `created_at < cursor OR (created_at = cursor AND id < cursor_id)` -/
def isPast (cursor : MediaListCursor) (row : MediaRow) : Bool :=
  row.createdAt < postgresTime cursor.createdAt ||
    (row.createdAt = postgresTime cursor.createdAt && row.media.id < cursor.id)

end MediaListQuery

/-- `ORDER BY created_at DESC, id DESC` -/
def newestFirst (row : MediaRow) : (Time ×ₗ MediaId)ᵒᵈ :=
  OrderDual.toDual (toLex (row.createdAt, row.media.id))

section Repository

variable (table : MediaTable) (applicationId : ApplicationId)

def mediaListing (query : MediaListQuery) : Keyset.Listing MediaRow (Time ×ₗ MediaId)ᵒᵈ where
  entries := table.rows.rows.filter (query.selects applicationId)
  position := newestFirst

def listMediaPage (query : MediaListQuery) : Except RepositoryError MediaPage :=
  if query.limit = 0 ∨ 100 < query.limit then
    .error (.invariant "media page limit must be between 1 and 100")
  else
    let rows := (mediaListing table applicationId query).window query.limit fun row =>
      query.cursor.all (MediaListQuery.isPast · row)
    .ok ⟨rows.take query.limit, query.limit < rows.length⟩

/-- Texts in the order of the database's default collation. -/
def Collated : Type := String

instance : DecidableEq Collated := inferInstanceAs (DecidableEq String)

variable [LinearOrder Collated]

/-- `(CASE WHEN is_prefix THEN 0 ELSE 1 END, entry_key)` -/
def directoryPosition (isPrefix : Bool) (entryKey : Collated) : Nat ×ₗ Collated :=
  toLex (if isPrefix then 0 else 1, entryKey)

/-- The rows of a directory: the key is longer than the prefix. -/
def directoryRows (query : MediaDirectoryListQuery) : List (String × MediaRow) :=
  (table.rows.rows.filter fun row =>
    row.media.applicationId = applicationId && row.media.bucketId = query.bucketId &&
    passesFilters query.state query.mime query.createdFrom query.createdBefore row &&
    hasPrefix query.objectKeyPrefix row.media.objectKey &&
    !(relativeKey query.objectKeyPrefix row.media.objectKey).isEmpty).map fun row =>
      (row.media.objectKey, row)

/-- `ORDER BY is_prefix DESC, entry_key ASC` -/
def directoryListing (query : MediaDirectoryListQuery) :
    Keyset.Listing (Entry MediaRow) (Nat ×ₗ Collated) where
  entries := entries query.objectKeyPrefix true (directoryRows table applicationId query)
  position entry := directoryPosition entry.isPrefix entry.entryKey

def itemsOfEntries (rows : List (Entry MediaRow)) : List MediaRow :=
  rows.filterMap fun row => if row.isPrefix then none else row.columns

def prefixesOfEntries (rows : List (Entry MediaRow)) : List String :=
  rows.filterMap fun row => if row.isPrefix then some row.entryKey else none

def listMediaDirectoryPage (query : MediaDirectoryListQuery) :
    Except RepositoryError MediaDirectoryPage :=
  if query.limit = 0 ∨ 100 < query.limit then
    .error (.invariant "media directory page limit must be between 1 and 100")
  else
    let page := (directoryListing table applicationId query).page query.limit fun row =>
      query.cursor.all fun cursor =>
        decide (directoryPosition cursor.isPrefix cursor.entryKey <
          directoryPosition row.isPrefix row.entryKey)
    .ok ⟨itemsOfEntries page.1, prefixesOfEntries page.1,
      page.2.map fun row => ⟨row.entryKey, row.isPrefix⟩⟩

end Repository

/-- The query of a request, once its bucket is found and its status, type and times are read. -/
structure ListMediaQuery where
  bucket : Option BucketId
  status : Option MediaState
  mime : Option String
  createdFrom : Option Time
  createdBefore : Option Time
  keyPrefix : Option String
  delimiter : Option String
  limit : Option Nat
  cursor : Option Text

structure MediaListResponse where
  items : List MediaRow
  commonPrefixes : List String
  nextCursor : Option Text

def parseListDelimiter : Option String → Except ApiError Bool
  | none => .ok false
  | some value => if value = "/" then .ok true else .error (.badRequest "delimiter must be /")

/-- What the checks of a query leave; a directory has its bucket. -/
structure ListOptions where
  limit : Nat
  directory : Option BucketId
  keyPrefix : Option String

def ListMediaQuery.validate (query : ListMediaQuery) : Except ApiError ListOptions := do
  let limit := query.limit.getD 50
  rejectIf (limit = 0 ∨ 100 < limit) (.badRequest "limit must be between 1 and 100")
  let directoryMode ← parseListDelimiter query.delimiter
  rejectIf (directoryMode = true ∧ query.bucket = none)
    (.badRequest "delimiter requires a bucket filter")
  rejectIf (query.mime.any (255 < Utf8.byteLength ·.toList) = true)
    (.badRequest "mime filter is too long")
  let keyPrefix := query.keyPrefix.filter (· ≠ "")
  rejectIf (keyPrefix.any (fun value =>
      1024 < Utf8.byteLength value.toList || hasAsciiControl value) = true)
    (.badRequest "prefix filter is invalid")
  rejectIf ((query.createdFrom.any fun start => query.createdBefore.any (· ≤ start)) = true)
    (.badRequest "created_from must precede created_before")
  .ok ⟨limit, if directoryMode then query.bucket else none, keyPrefix⟩

section Handler

variable [Base64Engine] [Json.Parser] [MediaIdText] [LinearOrder Collated]
  (table : MediaTable) (applicationId : ApplicationId)

def ListOptions.flat (options : ListOptions) (query : ListMediaQuery) : MediaListQuery where
  bucketId := query.bucket
  state := query.status
  mime := query.mime
  createdFrom := query.createdFrom
  createdBefore := query.createdBefore
  objectKeyPrefix := options.keyPrefix
  cursor := none
  limit := options.limit

def ListOptions.inDirectory (options : ListOptions) (query : ListMediaQuery)
    (bucketId : BucketId) : MediaDirectoryListQuery where
  bucketId
  state := query.status
  mime := query.mime
  createdFrom := query.createdFrom
  createdBefore := query.createdBefore
  objectKeyPrefix := options.keyPrefix.getD ""
  cursor := none
  limit := options.limit

def decodeCursor {α : Type} (decode : Text → Except ApiError α) :
    Option Text → Except ApiError (Option α)
  | none => .ok none
  | some value => (decode value).map some

def listMedia (query : ListMediaQuery) : Except ApiError MediaListResponse := do
  let options ← query.validate
  match options.directory with
  | some bucketId => do
      let cursor ← decodeCursor decodeMediaDirectoryCursor query.cursor
      let page ← (listMediaDirectoryPage table applicationId
        { options.inDirectory query bucketId with cursor }).mapError .repository
      .ok ⟨page.items, page.commonPrefixes, page.nextCursor.map encodeMediaDirectoryCursor⟩
  | none => do
      let cursor ← decodeCursor decodeMediaCursor query.cursor
      let page ← (listMediaPage table applicationId
        { options.flat query with cursor }).mapError .repository
      .ok ⟨page.items, [], if page.hasMore then
        page.items.getLast?.map fun row => encodeMediaCursor ⟨row.createdAt, row.media.id⟩
        else none⟩

end Handler

end MediaHub.Catalog
