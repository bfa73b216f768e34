import MediaHub.Core.OffsetTime
import MediaHub.Http.XmlReadBack
import MediaHub.Text.PercentEncoding
import MediaHub.Xml.Document

namespace MediaHub.Http

open Result
open MediaHub.Core (isXml10Character OffsetDateTime)
open Xml (Forest Tag Token normalizeEol)

/-- XML has a place for every character, and a reader gives the text back as it is. -/
def Carried (text : Text) : Prop := text.all isXml10Character = true ∧ '\r' ∉ text

instance (text : Text) : Decidable (Carried text) := inferInstanceAs (Decidable (_ ∧ _))

/-- A text the server has made: the name of a bucket, an id, an entity tag, a number. -/
abbrev PlainText := { text : Text // Carried text }

def isUrlUnreserved (byte : UInt8) : Bool :=
  (48 ≤ byte && byte ≤ 57) || (65 ≤ byte && byte ≤ 90) || (97 ≤ byte && byte ≤ 122) ||
    byte = 45 || byte = 46 || byte = 95 || byte = 126

def s3UrlEncode (value : Text) : Text := PercentEncoding.encode isUrlUnreserved value

/-- What stands in the page for a text that `push_listing_element` pushes. -/
def listingText (encodingUrl : Bool) (value : Text) : Text :=
  if encodingUrl then s3UrlEncode value else value

theorem readable_isUrlUnreserved : PercentEncoding.Readable isUrlUnreserved := by
  intro byte
  revert byte
  apply FormUrlencoded.forall_byte
  decide +kernel

theorem carried_of_forall {text : Text}
    (h : ∀ c ∈ text, isXml10Character c = true ∧ c ≠ '\r') : Carried text := by
  refine ⟨List.all_eq_true.2 fun c hc => (h c hc).1, fun hmem => ?_⟩
  exact (h '\r' hmem).2 rfl

theorem carried_s3UrlEncode (value : Text) : Carried (s3UrlEncode value) := by
  have hbyte : ∀ byte : UInt8, (PercentEncoding.encodeByte isUrlUnreserved byte).all
      (fun c => isXml10Character c && c ≠ '\r') = true := by
    apply FormUrlencoded.forall_byte
    decide +kernel
  refine carried_of_forall fun c hc => ?_
  obtain ⟨byte, _, hmem⟩ := List.mem_flatMap.1 hc
  simpa using List.all_eq_true.1 (hbyte byte) c hmem

theorem carried_digits (n : Nat) : Carried (Nat.toDigits 10 n) := by
  refine carried_of_forall fun c hc => ?_
  have hdigit : c.isDigit = true := Nat.isDigit_of_mem_toDigits (by decide) (by decide) hc
  rw [Char.isDigit_iff_toNat] at hdigit
  have hrange : 48 ≤ c.toNat ∧ c.toNat ≤ 57 := hdigit
  constructor
  · simp only [isXml10Character, Bool.or_eq_true, Bool.and_eq_true, decide_eq_true_eq]
    omega
  · rintro rfl
    exact absurd hrange (by decide)

theorem carried_base64 [Base64Engine] (bytes : List UInt8) :
    Carried (Base64Engine.encode bytes) := by
  have hall : Base64.alphabet.all (fun c => isXml10Character c && c ≠ '\r') = true := by
    decide +kernel
  refine carried_of_forall fun c hc => ?_
  simpa using List.all_eq_true.1 hall c (Base64Engine.mem_alphabet hc)

def PlainText.ofNat (n : Nat) : PlainText := ⟨Nat.toDigits 10 n, carried_digits n⟩

def PlainText.ofBool : Bool → PlainText
  | true => ⟨"true".toList, by decide⟩
  | false => ⟨"false".toList, by decide⟩

/-- An entity tag between quotes, which it may already have. -/
def quotedEtag (etag : PlainText) : PlainText :=
  if etag.1.head? = some '"' ∧ etag.1.getLast? = some '"' then etag
  else ⟨'"' :: (etag.1 ++ ['"']), by
    obtain ⟨text, hall, hreturn⟩ := etag
    have hquote : isXml10Character '"' = true := by decide
    exact ⟨by simp [hall, hquote], by simp [hreturn]⟩⟩

/-- The elements of a page in the order in which they are pushed. -/
inductive Parts (ε : Type) where
  | nil
  -- `push_element` and `push_number_element` with a text of the server
  | plain (name : Xml.Name) (value : Except ε PlainText) (next : Parts ε)
  -- `push_element` with a text of the client
  | client (name : Xml.Name) (value : Text) (next : Parts ε)
  -- `push_listing_element`
  | listing (name : Xml.Name) (value : Text) (next : Parts ε)
  | group (name : Xml.Name) (inner next : Parts ε)

namespace Parts

variable {ε : Type}

def append : Parts ε → Parts ε → Parts ε
  | .nil, rest => rest
  | .plain name value next, rest => .plain name value (next.append rest)
  | .client name value next, rest => .client name value (next.append rest)
  | .listing name value next, rest => .listing name value (next.append rest)
  | .group name inner next, rest => .group name inner (next.append rest)

def concat (parts : List (Parts ε)) : Parts ε := parts.foldr append .nil

/-- The pushes one after another; the first that fails ends the page. -/
def push (invalid : ε) (encodingUrl : Bool) (output : Text) : Parts ε → Except ε Text
  | .nil => .ok output
  | .plain name value next => do
      let value ← value
      let output ← pushElement invalid output name.text value.1
      next.push invalid encodingUrl output
  | .client name value next => do
      let output ← pushElement invalid output name.text value
      next.push invalid encodingUrl output
  | .listing name value next => do
      let output ← pushElement invalid output name.text (listingText encodingUrl value)
      next.push invalid encodingUrl output
  | .group name inner next => do
      let output ← inner.push invalid encodingUrl (output ++ '<' :: name.text ++ ['>'])
      next.push invalid encodingUrl (output ++ "</".toList ++ name.text ++ ['>'])

end Parts

def renderPage {ε : Type} (invalid : ε) (name : Xml.Name) (encodingUrl : Bool) (parts : Parts ε) :
    Except ε Text := do
  let output ← parts.push invalid encodingUrl (xmlDocumentStart name.text)
  return output ++ "</".toList ++ name.text ++ ['>']

/-- The name of an element. -/
def elementName (name : String)
    (hletter : name.toList.head?.any Char.isAlpha = true := by exact Eq.refl true)
    (hall : name.toList.all Xml.isNameCharacter = true := by exact Eq.refl true) : Xml.Name :=
  ⟨name.toList, hletter, hall⟩

/-- The elements whose texts a client decodes when it has asked for `encoding-type=url`. -/
def listingNames : List Xml.Name :=
  [elementName "Prefix", elementName "Delimiter", elementName "Key", elementName "KeyMarker",
    elementName "NextKeyMarker", elementName "StartAfter"]

/-- The text of an element as a client understands it; `none` is one that it cannot decode. -/
def decodeElement (encodingUrl : Bool) (element : List UInt8 × Text) :
    List UInt8 × Option Text :=
  if encodingUrl && (listingNames.map fun name => Utf8.bytes name.text).contains element.1 then
    (element.1, PercentEncoding.decode element.2)
  else (element.1, some element.2)

/-- What a client reads in a page: its elements in the order of their ends. -/
def readPage (reader : Xml.Reader) (encodingUrl : Bool) (page : Text) :
    Except Unit (List (List UInt8 × Option Text)) :=
  (Xml.elements (reader.events (Utf8.bytes page))).map (·.map (decodeElement encodingUrl))

structure ListObject where
  key : Text
  lastModified : OffsetDateTime
  etag : PlainText
  size : Nat

structure ListObjectsV2Result where
  bucket : PlainText
  query : ListObjectsV2Query
  items : List ListObject
  commonPrefixes : List Text
  nextCursor : Option Text

/-- The texts of `time`'s RFC 3339, which it makes of years from 0 to 9999. -/
abbrev FormatRfc3339 := OffsetDateTime → Option PlainText

section Pages

variable (formatRfc3339 : FormatRfc3339)

def formatted {ε : Type} (error : ε) (time : OffsetDateTime) : Except ε PlainText :=
  (formatRfc3339 time).elim (.error error) .ok

def optionally {α ε : Type} (value : Option α) (part : α → Parts ε) : Parts ε :=
  value.elim .nil part

def commonPrefixesParts {ε : Type} (commonPrefixes : List Text) : Parts ε :=
  .concat (commonPrefixes.map fun pre =>
    .group (elementName "CommonPrefixes") (.listing (elementName "Prefix") pre .nil) .nil)

def encodingTypeParts {ε : Type} (encodingUrl : Bool) : Parts ε :=
  if encodingUrl then .plain (elementName "EncodingType") (.ok ⟨"url".toList, by decide⟩) .nil
  else .nil

def storageClass : PlainText := ⟨"STANDARD".toList, by decide⟩

def ListObjectsV2Query.encodingUrl (query : ListObjectsV2Query) : Bool :=
  query.encodingType = some .url

namespace ListObjectsV2Result

def keyCount (result : ListObjectsV2Result) : Nat :=
  if result.query.maxKeys = 0 then 0 else result.items.length + result.commonPrefixes.length

def nextToken [Base64Engine] (cipher : Aead.Cipher) (nonce : List UInt8)
    (result : ListObjectsV2Result) : Except S3ListError (Option Text) :=
  if result.query.maxKeys = 0 then .ok none
  else
    match result.nextCursor with
    | none => .ok none
    | some cursor =>
        (ContinuationTokenCodec.encode cipher nonce result.bucket.1 result.query cursor).map some

def objectParts (object : ListObject) : Parts S3ListError :=
  .group (elementName "Contents")
    (.listing (elementName "Key") object.key
      (.plain (elementName "LastModified")
        (formatted formatRfc3339 .invalidLastModified object.lastModified)
        (.plain (elementName "ETag") (.ok (quotedEtag object.etag))
          (.plain (elementName "Size") (.ok (.ofNat object.size))
            (.plain (elementName "StorageClass") (.ok storageClass) .nil))))) .nil

def parts (result : ListObjectsV2Result) (nextToken : Option Text) : Parts S3ListError :=
  .concat [
    .plain (elementName "Name") (.ok result.bucket) .nil,
    .listing (elementName "Prefix") result.query.pre .nil,
    .plain (elementName "KeyCount") (.ok (.ofNat result.keyCount)) .nil,
    .plain (elementName "MaxKeys") (.ok (.ofNat result.query.maxKeys)) .nil,
    optionally result.query.delimiter fun delimiter =>
      .listing (elementName "Delimiter") delimiter .nil,
    encodingTypeParts result.query.encodingUrl,
    .plain (elementName "IsTruncated") (.ok (.ofBool nextToken.isSome)) .nil,
    if result.query.maxKeys = 0 then .nil
    else .concat (result.items.map (objectParts formatRfc3339)),
    if result.query.maxKeys = 0 then .nil else commonPrefixesParts result.commonPrefixes,
    optionally result.query.continuationToken fun token =>
      .client (elementName "ContinuationToken") token .nil,
    optionally nextToken fun token =>
      .client (elementName "NextContinuationToken") token .nil,
    optionally result.query.startAfter fun startAfter =>
      .listing (elementName "StartAfter") startAfter .nil]

def toXml [Base64Engine] (cipher : Aead.Cipher) (nonce : List UInt8)
    (result : ListObjectsV2Result) : Except S3ListError Text := do
  rejectIf (result.query.maxKeys < result.keyCount) .pageExceedsMaxKeys
  let nextToken ← result.nextToken cipher nonce
  renderPage .invalidXmlCharacter (elementName "ListBucketResult") result.query.encodingUrl
    (result.parts formatRfc3339 nextToken)

end ListObjectsV2Result

inductive ListedVersionKind where
  | object (etag : PlainText) (size : Nat)
  | deleteMarker

structure ListedObjectVersion where
  key : Text
  versionId : PlainText
  isLatest : Bool
  lastModified : OffsetDateTime
  kind : ListedVersionKind

structure ListObjectVersionsResult where
  bucket : PlainText
  ownerId : PlainText
  ownerDisplayName : PlainText
  pre : Text
  delimiter : Option Text
  keyMarker : Option Text
  versionIdMarker : Option Text
  nextKeyMarker : Option Text
  nextVersionIdMarker : Option PlainText
  maxKeys : Nat
  encodingUrl : Bool
  items : List ListedObjectVersion
  commonPrefixes : List Text

structure ListedMultipartUpload where
  key : Text
  uploadId : PlainText
  initiatedAt : OffsetDateTime

structure ListMultipartUploadsResult where
  bucket : PlainText
  ownerId : PlainText
  ownerDisplayName : PlainText
  pre : Text
  delimiter : Option Text
  keyMarker : Option Text
  uploadIdMarker : Option Text
  nextKeyMarker : Option Text
  nextUploadIdMarker : Option PlainText
  maxUploads : Nat
  encodingUrl : Bool
  items : List ListedMultipartUpload
  commonPrefixes : List Text

def ownerParts (name : Xml.Name) (id displayName : PlainText) : Parts S3XmlError :=
  .group name (.plain (elementName "ID") (.ok id)
    (.plain (elementName "DisplayName") (.ok displayName) .nil)) .nil

namespace ListObjectVersionsResult

def kindParts : ListedVersionKind → Parts S3XmlError
  | .object etag size =>
      .plain (elementName "ETag") (.ok (quotedEtag etag))
        (.plain (elementName "Size") (.ok (.ofNat size))
          (.plain (elementName "StorageClass") (.ok storageClass) .nil))
  | .deleteMarker => .nil

def kindName : ListedVersionKind → Xml.Name
  | .object _ _ => elementName "Version"
  | .deleteMarker => elementName "DeleteMarker"

def versionParts (result : ListObjectVersionsResult) (item : ListedObjectVersion) :
    Parts S3XmlError :=
  .group (kindName item.kind)
    (.listing (elementName "Key") item.key
      (.plain (elementName "VersionId") (.ok item.versionId)
        (.plain (elementName "IsLatest") (.ok (.ofBool item.isLatest))
          (.plain (elementName "LastModified")
            (formatted formatRfc3339 .invalidXmlCharacter item.lastModified)
            ((kindParts item.kind).append
              (ownerParts (elementName "Owner") result.ownerId result.ownerDisplayName)))))) .nil

-- a marker that is absent is written as the empty text, which has no characters to encode
def parts (result : ListObjectVersionsResult) : Parts S3XmlError :=
  .concat [
    .plain (elementName "Name") (.ok result.bucket) .nil,
    .listing (elementName "Prefix") result.pre .nil,
    .listing (elementName "KeyMarker") (result.keyMarker.getD []) .nil,
    .client (elementName "VersionIdMarker") (result.versionIdMarker.getD []) .nil,
    optionally result.nextKeyMarker fun marker =>
      .listing (elementName "NextKeyMarker") marker .nil,
    optionally result.nextVersionIdMarker fun marker =>
      .plain (elementName "NextVersionIdMarker") (.ok marker) .nil,
    optionally result.delimiter fun delimiter =>
      .listing (elementName "Delimiter") delimiter .nil,
    encodingTypeParts result.encodingUrl,
    .plain (elementName "MaxKeys") (.ok (.ofNat result.maxKeys)) .nil,
    .plain (elementName "IsTruncated") (.ok (.ofBool result.nextKeyMarker.isSome)) .nil,
    .concat (result.items.map (result.versionParts formatRfc3339)),
    commonPrefixesParts result.commonPrefixes]

end ListObjectVersionsResult

def listObjectVersionsResultXml (result : ListObjectVersionsResult) : Except S3XmlError Text :=
  renderPage .invalidXmlCharacter (elementName "ListVersionsResult") result.encodingUrl
    (result.parts formatRfc3339)

namespace ListMultipartUploadsResult

def uploadParts (result : ListMultipartUploadsResult) (item : ListedMultipartUpload) :
    Parts S3XmlError :=
  .group (elementName "Upload")
    (.listing (elementName "Key") item.key
      (.plain (elementName "UploadId") (.ok item.uploadId)
        ((ownerParts (elementName "Initiator") result.ownerId result.ownerDisplayName).append
          ((ownerParts (elementName "Owner") result.ownerId result.ownerDisplayName).append
            (.plain (elementName "StorageClass") (.ok storageClass)
              (.plain (elementName "Initiated")
                (formatted formatRfc3339 .invalidXmlCharacter item.initiatedAt) .nil)))))) .nil

def parts (result : ListMultipartUploadsResult) : Parts S3XmlError :=
  .concat [
    .plain (elementName "Bucket") (.ok result.bucket) .nil,
    .listing (elementName "KeyMarker") (result.keyMarker.getD []) .nil,
    .client (elementName "UploadIdMarker") (result.uploadIdMarker.getD []) .nil,
    optionally result.nextKeyMarker fun marker =>
      .listing (elementName "NextKeyMarker") marker .nil,
    optionally result.nextUploadIdMarker fun marker =>
      .plain (elementName "NextUploadIdMarker") (.ok marker) .nil,
    optionally result.delimiter fun delimiter =>
      .listing (elementName "Delimiter") delimiter .nil,
    .listing (elementName "Prefix") result.pre .nil,
    encodingTypeParts result.encodingUrl,
    .plain (elementName "MaxUploads") (.ok (.ofNat result.maxUploads)) .nil,
    .plain (elementName "IsTruncated") (.ok (.ofBool result.nextKeyMarker.isSome)) .nil,
    .concat (result.items.map (result.uploadParts formatRfc3339)),
    commonPrefixesParts result.commonPrefixes]

end ListMultipartUploadsResult

def listMultipartUploadsResultXml (result : ListMultipartUploadsResult) :
    Except S3XmlError Text :=
  renderPage .invalidXmlCharacter (elementName "ListMultipartUploadsResult") result.encodingUrl
    (result.parts formatRfc3339)

end Pages

end MediaHub.Http
