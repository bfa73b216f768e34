import Mathlib.Data.Finset.Insert
import MediaHub.Core.Media
import MediaHub.Http.Request
import MediaHub.Json.Parse
import MediaHub.Text.Result
import MediaHub.Text.Utf8

namespace MediaHub.Domain

open Result
open MediaHub.Core
open MediaHub.Http (Text isWhitespace trim toAsciiLowercase isAsciiHexdigit)
open Json (Value)
open Text (isAsciiControl)

inductive DomainError where
  | invalidBucketName
  | invalidBucketPolicy
  | invalidObjectKey
  | invalidTextField (field : String) (maxBytes : Nat)
  | invalidMimeType (value : Text)
  | objectTooLarge (actual maximum : Nat)
  | mimeTypeNotAllowed (mime : Text)
  | invalidSha256
  | invalidMetadataVersion
  | invalidMediaStateTransition (old new : MediaState)
  | revisionConflict (expected actual : Nat)
  | invalidUploadSessionExpiry
  | uploadSessionNotExpired
  | uploadSessionExpired
  | invalidUploadSessionStateTransition (old new : UploadSessionState)
  | restrictedMetadataNamespace
  | unknownMetadataNamespace (name : Text)
  | invalidMetadataShape
  | metadataTooLarge (maxBytes : Nat)
  | metadataTooDeep (maxDepth : Nat)
  | metadataTooManyKeys (maxKeys : Nat)
  | metadataStringTooLong (maxBytes : Nat)
deriving DecidableEq

abbrev DomainResult := Except DomainError

inductive Visibility where
  | «public»
  | «private»
deriving DecidableEq

def validateObjectKey (value : Text) : DomainResult Unit :=
  rejectIf (value = [] ∨ 1024 < Utf8.byteLength value ∨ '\x00' ∈ value) .invalidObjectKey

def validateTextField (field : String) (value : Text) (maxBytes : Nat) : DomainResult Unit :=
  rejectIf (value = [] ∨ maxBytes < Utf8.byteLength value ∨ value.any isAsciiControl = true)
    (.invalidTextField field maxBytes)

/-- `if let Some(value) = .. { validate_text_field(..)? }` -/
def validateOptionalTextField (field : String) (value : Option Text) (maxBytes : Nat) :
    DomainResult Unit :=
  match value with
  | some value => validateTextField field value maxBytes
  | none => .ok ()

/-- A byte that may stand in a MIME type: `is_ascii`, not `is_ascii_control` and no blank. -/
def isMimeCharacter (c : Char) : Bool := c.toNat < 128 && !isAsciiControl c && c ≠ ' '

def isMimeType (value : Text) : Bool :=
  match Text.splitOnce '/' value with
  | some (typePart, subtypePart) =>
      typePart ≠ [] && subtypePart ≠ [] && value.all isMimeCharacter
  | none => false

def canonicalMimeType (value : Text) : DomainResult Text :=
  if isMimeType (trim value) then .ok (toAsciiLowercase (trim value))
  else .error (.invalidMimeType (trim value))

theorem toLower_toLower (c : Char) : c.toLower.toLower = c.toLower := by
  by_cases hascii : c.toNat < 128
  · exact Text.of_ascii (P := fun c => c.toLower.toLower = c.toLower) (by decide +kernel) hascii
  · rw [Text.toLower_of_not_ascii hascii, Text.toLower_of_not_ascii hascii]

theorem toAsciiLowercase_idempotent (s : Text) :
    toAsciiLowercase (toAsciiLowercase s) = toAsciiLowercase s := by
  rw [toAsciiLowercase, toAsciiLowercase, List.map_map]
  apply List.map_congr_left
  intro c _
  exact toLower_toLower c

theorem toLower_ascii : ∀ n < 128,
    (isMimeCharacter (Char.ofNat n) = true → isMimeCharacter (Char.ofNat n).toLower = true) ∧
    ((Char.ofNat n).toLower = '/' ↔ Char.ofNat n = '/') ∧
    (isMimeCharacter (Char.ofNat n) = true → isWhitespace (Char.ofNat n) = false) := by
  decide +kernel

/-- What lower case does to a character of a MIME type. -/
theorem toLower_mime {c : Char} (h : isMimeCharacter c = true) :
    isMimeCharacter c.toLower = true ∧ (c.toLower = '/' ↔ c = '/') ∧ isWhitespace c = false := by
  have hascii : c.toNat < 128 := by
    simp only [isMimeCharacter, Bool.and_eq_true, decide_eq_true_eq] at h
    exact h.1.1
  have hlower := toLower_ascii c.toNat hascii
  rw [Char.ofNat_toNat] at hlower
  exact ⟨hlower.1 h, hlower.2.1, hlower.2.2 h⟩

/-- The form that MIME types are kept in. -/
structure IsCanonicalMime (mime : Text) : Prop where
  mimeType : isMimeType mime = true
  lowercase : toAsciiLowercase mime = mime

theorem all_of_isMimeType {value : Text} (h : isMimeType value = true) :
    ∀ c ∈ value, isMimeCharacter c = true := by
  unfold isMimeType at h
  split at h
  · simp only [Bool.and_eq_true, List.all_eq_true] at h
    exact h.2
  · exact nomatch h

theorem trim_of_isMimeType {value : Text} (h : isMimeType value = true) : trim value = value :=
  Text.trim_eq_self fun c hc => (toLower_mime (all_of_isMimeType h c hc)).2.2

theorem isCanonicalMime_toAsciiLowercase {value : Text} (h : isMimeType value = true) :
    IsCanonicalMime (toAsciiLowercase value) := by
  have hall := all_of_isMimeType h
  constructor
  · have hsplit : Text.splitOnce '/' (toAsciiLowercase value) = _ :=
      Text.splitOnce_map fun c hc => (toLower_mime (hall c hc)).2.1
    have hlower : (toAsciiLowercase value).all isMimeCharacter = true := by
      rw [List.all_eq_true]
      intro c hc
      obtain ⟨d, hd, rfl⟩ := List.mem_map.1 hc
      exact (toLower_mime (hall d hd)).1
    rw [isMimeType, hsplit, hlower]
    unfold isMimeType at h
    split at h
    · next typePart subtypePart heq =>
        simp only [Bool.and_eq_true, decide_eq_true_eq] at h
        simp [heq, h.1.1, h.1.2]
    · exact nomatch h
  · exact toAsciiLowercase_idempotent value

theorem isCanonicalMime_of_canonicalMimeType {value mime : Text}
    (h : canonicalMimeType value = .ok mime) : IsCanonicalMime mime := by
  rw [canonicalMimeType] at h
  split at h
  · next hmime =>
      obtain rfl := Except.ok.inj h
      exact isCanonicalMime_toAsciiLowercase hmime
  · exact nomatch h

/-- A type that is kept is kept again. -/
theorem canonicalMimeType_of_isCanonicalMime {mime : Text} (h : IsCanonicalMime mime) :
    canonicalMimeType mime = .ok mime := by
  rw [canonicalMimeType, trim_of_isMimeType h.mimeType, if_pos h.mimeType, h.lowercase]

def maxMetadataBytes : Nat := 64 * 1024
def maxMetadataDepth : Nat := 16
def maxMetadataKeys : Nat := 256
def maxMetadataStringBytes : Nat := 8 * 1024
def currentMetadataVersion : Nat := 1

abbrev Fields := List (Text × Value)

def validateSha256 (value : Text) : DomainResult Unit :=
  rejectIf (Utf8.byteLength value ≠ 64 ∨ value.all isAsciiHexdigit = false) .invalidSha256

/-- Width and height are there together and positive. -/
def validDimensions : Option Nat → Option Nat → Bool
  | none, none => true
  | some width, some height => 0 < width && 0 < height
  | _, _ => false

/-- Facts that the server measured. -/
structure SystemMetadata where
  mime : Text
  size : Nat
  width : Option Nat
  height : Option Nat
  durationMs : Option Nat
  sha256 : Text
  dimensions_valid : validDimensions width height = true
  mime_canonical : IsCanonicalMime mime
  sha256_valid : validateSha256 sha256 = .ok ()
  sha256_lowercase : toAsciiLowercase sha256 = sha256

namespace SystemMetadata

def new (mime : Text) (size : Nat) (width height durationMs : Option Nat) (sha256 : Text) :
    DomainResult SystemMetadata :=
  if hdimensions : validDimensions width height = true then
    if hsha256 : validateSha256 (toAsciiLowercase sha256) = .ok () then
      match hmime : canonicalMimeType mime with
      | .ok canonical => .ok {
          mime := canonical
          size, width, height, durationMs
          sha256 := toAsciiLowercase sha256
          dimensions_valid := hdimensions
          mime_canonical := isCanonicalMime_of_canonicalMimeType hmime
          sha256_valid := hsha256
          sha256_lowercase := toAsciiLowercase_idempotent sha256 }
      | .error e => .error e
    else .error .invalidSha256
  else .error .invalidMetadataShape

/-- What was measured is measured again. -/
theorem new_self (self : SystemMetadata) :
    new self.mime self.size self.width self.height self.durationMs self.sha256 = .ok self := by
  have hsha256 : validateSha256 (toAsciiLowercase self.sha256) = .ok () := by
    rw [self.sha256_lowercase, self.sha256_valid]
  have hmime := canonicalMimeType_of_isCanonicalMime self.mime_canonical
  rw [new, dif_pos self.dimensions_valid, dif_pos hsha256]
  split
  · next canonical heq =>
      rw [hmime] at heq
      obtain rfl := Except.ok.inj heq
      simp only [self.sha256_lowercase]
  · next heq =>
      rw [hmime] at heq
      exact nomatch heq

/-- The JSON of the fields, in their order. -/
def toJson (self : SystemMetadata) : Value :=
  let unsigned (n : Nat) : Value := .number (.unsigned n)
  .object [("mime".toList, .string self.mime), ("size".toList, unsigned self.size),
    ("width".toList, self.width.elim .null unsigned),
    ("height".toList, self.height.elim .null unsigned),
    ("duration_ms".toList, self.durationMs.elim .null unsigned),
    ("sha256".toList, .string self.sha256)]

end SystemMetadata

def validateString (value : Text) : DomainResult Unit :=
  rejectIf (maxMetadataStringBytes < Utf8.byteLength value)
    (.metadataStringTooLong maxMetadataStringBytes)

mutual

/-- The number of keys so far goes in, and the number after the value comes out. -/
def validateValue (depth keyCount : Nat) (value : Value) : DomainResult Nat := do
  rejectIf (maxMetadataDepth < depth) (.metadataTooDeep maxMetadataDepth)
  match value with
  | .string value => do
      validateString value
      return keyCount
  | .array values => validateValues (depth + 1) keyCount values
  | .object fields => validateMembers (depth + 1) keyCount fields
  | .null | .bool _ | .number _ => return keyCount

def validateValues (depth keyCount : Nat) (values : List Value) : DomainResult Nat :=
  match values with
  | [] => return keyCount
  | value :: values => do
      let keyCount ← validateValue depth keyCount value
      validateValues depth keyCount values

def validateMembers (depth keyCount : Nat) (fields : List (Text × Value)) : DomainResult Nat :=
  match fields with
  | [] => return keyCount
  | (key, value) :: fields => do
      validateString key
      rejectIf (maxMetadataKeys < keyCount + 1) (.metadataTooManyKeys maxMetadataKeys)
      let keyCount ← validateValue depth (keyCount + 1) value
      validateMembers depth keyCount fields

end

/-- The checks on both namespaces and on the document that is stored. -/
def validateContent (user ai : Fields) (document : Value) : DomainResult Unit := do
  let keyCount ← validateValue 1 0 (.object user)
  let _ ← validateValue 1 keyCount (.object ai)
  rejectIf (maxMetadataBytes < Utf8.byteLength (Json.render document))
    (.metadataTooLarge maxMetadataBytes)

def clientDocument (user ai : Fields) : Value :=
  .object [("user".toList, .object user), ("ai".toList, .object ai)]

/-- Metadata from a client. -/
structure ClientMetadata where
  user : Fields
  ai : Fields
  valid : validateContent user ai (clientDocument user ai) = .ok ()

theorem validateContent_empty : validateContent [] [] (clientDocument [] []) = .ok () := by
  decide +kernel

namespace ClientMetadata

def new (user ai : Fields) : DomainResult ClientMetadata :=
  match h : validateContent user ai (clientDocument user ai) with
  | .ok () => .ok ⟨user, ai, h⟩
  | .error e => .error e

theorem new_of_valid {user ai : Fields}
    (h : validateContent user ai (clientDocument user ai) = .ok ()) :
    new user ai = .ok ⟨user, ai, h⟩ := by
  unfold new
  split
  · rfl
  · next heq =>
      rw [h] at heq
      exact nomatch heq

end ClientMetadata

def mediaDocument (system : SystemMetadata) (user ai : Fields) : Value :=
  .object [("system".toList, system.toJson), ("user".toList, .object user),
    ("ai".toList, .object ai)]

/-- The metadata that is stored. -/
structure MediaMetadata where
  system : SystemMetadata
  user : Fields
  ai : Fields
  valid : validateContent user ai (mediaDocument system user ai) = .ok ()

namespace MediaMetadata

def new (system : SystemMetadata) (client : ClientMetadata) : DomainResult MediaMetadata :=
  match h : validateContent client.user client.ai
      (mediaDocument system client.user client.ai) with
  | .ok () => .ok ⟨system, client.user, client.ai, h⟩
  | .error e => .error e

theorem new_of_valid {system : SystemMetadata} {client : ClientMetadata}
    (h : validateContent client.user client.ai (mediaDocument system client.user client.ai) =
      .ok ()) : new system client = .ok ⟨system, client.user, client.ai, h⟩ := by
  unfold new
  split
  · rfl
  · next heq =>
      rw [h] at heq
      exact nomatch heq

theorem system_of_new {system : SystemMetadata} {client : ClientMetadata} {self : MediaMetadata}
    (h : new system client = .ok self) : self.system = system := by
  unfold new at h
  split at h
  · obtain rfl := Except.ok.inj h
    rfl
  · exact nomatch h

/-- The system metadata stays. -/
def replaceClientMetadata (self : MediaMetadata) (client : ClientMetadata) :
    DomainResult MediaMetadata :=
  new self.system client

theorem byteLength_clientDocument_le (system : SystemMetadata) (user ai : Fields) :
    Utf8.byteLength (Json.render (clientDocument user ai)) ≤
      Utf8.byteLength (Json.render (mediaDocument system user ai)) := by
  simp only [clientDocument, mediaDocument, Json.render, Json.renderFields, Json.renderMembers,
    Utf8.byteLength_append, Utf8.byteLength_cons]
  omega

/-- Metadata that may be stored is metadata that a client may send. -/
theorem validateContent_client (self : MediaMetadata) :
    validateContent self.user self.ai (clientDocument self.user self.ai) = .ok () := by
  have hvalid := self.valid
  have hle := byteLength_clientDocument_le self.system self.user self.ai
  simp only [validateContent, bind_eq_ok_iff, rejectIf_eq_ok_iff] at hvalid ⊢
  obtain ⟨keyCount, huser, total, hai, hsize⟩ := hvalid
  refine ⟨keyCount, huser, total, hai, ?_⟩
  omega

end MediaMetadata

def validateBucketName (name : Text) : DomainResult Unit :=
  rejectIf (name = [] ∨ 255 < Utf8.byteLength name ∨ name.any isAsciiControl = true)
    .invalidBucketName

/-- The upload and access defaults of a bucket. -/
structure BucketPolicy where
  visibility : Visibility
  defaultTtlSeconds : Option Nat
  maxObjectSize : Option Nat
  allowedMimeTypes : Finset Text
  ttl_positive : defaultTtlSeconds ≠ some 0
  size_positive : maxObjectSize ≠ some 0
deriving DecidableEq

namespace BucketPolicy

def new (visibility : Visibility) (defaultTtlSeconds maxObjectSize : Option Nat)
    (allowedMimeTypes : List Text) : DomainResult BucketPolicy :=
  if h : defaultTtlSeconds = some 0 ∨ maxObjectSize = some 0 then .error .invalidBucketPolicy
  else do
    let mimeTypes ← allowedMimeTypes.foldlM (fun mimeTypes mimeType => do
      return insert (← canonicalMimeType mimeType) mimeTypes) ∅
    return ⟨visibility, defaultTtlSeconds, maxObjectSize, mimeTypes, (not_or.1 h).1, (not_or.1 h).2⟩

def validateUpload (self : BucketPolicy) (mime : Text) (size : Nat) : DomainResult Unit := do
  let mime ← canonicalMimeType mime
  match self.maxObjectSize with
  | some maximum => rejectIf (maximum < size) (.objectTooLarge size maximum)
  | none => pure ()
  rejectIf (self.allowedMimeTypes ≠ ∅ ∧ mime ∉ self.allowedMimeTypes) (.mimeTypeNotAllowed mime)

end BucketPolicy

structure Bucket where
  id : BucketId
  applicationId : ApplicationId
  name : Text
  policy : BucketPolicy
  name_valid : validateBucketName name = .ok ()

def Bucket.validateUpload (self : Bucket) (mime : Text) (size : Nat) : DomainResult Unit :=
  self.policy.validateUpload mime size

end MediaHub.Domain
