import MediaHub.Cipher.Aead
import MediaHub.Http.Request
import MediaHub.Text.Base64
import MediaHub.Text.LengthPrefixed
import MediaHub.Text.Result
import MediaHub.Text.Utf8

namespace MediaHub.Http

open Result

def tokenVersion : UInt8 := 1
def tokenNonceBytes : Nat := 12
def tokenTagBytes : Nat := 16
def maxTokenBytes : Nat := 8 * 1024
def maxInternalCursorBytes : Nat := 4 * 1024
def maxKeyBytes : Nat := 1024
def tokenAadLabel : List UInt8 :=
  Utf8.bytes "mediahub:s3:list-objects-v2:continuation:v1".toList

inductive S3ListError where
  | missingListType
  | unsupportedListType
  | duplicateParameter (name : String)
  | invalidDelimiter
  | invalidMaxKeys
  | invalidEncodingType
  | invalidPrefix
  | invalidStartAfter
  | invalidContinuationToken
  | conflictingCursors
  | invalidBucketContext
  | invalidInternalCursor
  | tokenEncodingFailed
  | pageExceedsMaxKeys
  | invalidLastModified
  | invalidXmlCharacter

inductive ListEncodingType where
  | url
deriving DecidableEq

def validKeyLike (value : Text) : Bool :=
  Utf8.byteLength value ≤ maxKeyBytes && !value.contains '\x00'

/-- A delimiter is a slash. -/
def IsDelimiter (delimiter : Option Text) : Prop := delimiter = none ∨ delimiter = some ['/']

structure ListObjectsV2Query where
  pre : Text
  delimiter : Option Text
  maxKeys : Nat
  continuationToken : Option Text
  startAfter : Option Text
  encodingType : Option ListEncodingType
  pre_valid : validKeyLike pre = true
  delimiter_valid : IsDelimiter delimiter

theorem isDelimiter_slash : IsDelimiter (some ['/']) := Or.inr rfl

def parseContinuationToken (value : Option Text) : Except S3ListError (Option Text) := do
  rejectIf (∃ token ∈ value, token = [] ∨ maxTokenBytes < Utf8.byteLength token)
    .invalidContinuationToken
  return value

/-- `push_context_component` -/
def contextComponent (value : Text) : Except S3ListError (List UInt8) := do
  rejectIf (2 ^ 32 ≤ Utf8.byteLength value) .invalidBucketContext
  return LengthPrefixed.component (Utf8.bytes value)

def tokenAad (bucket : Text) (query : ListObjectsV2Query) : Except S3ListError (List UInt8) := do
  rejectIf (bucket = []) .invalidBucketContext
  let bucket ← contextComponent bucket
  let pre ← contextComponent query.pre
  let delimiter ← contextComponent (query.delimiter.getD [])
  return tokenAadLabel ++ bucket ++ pre ++ delimiter

namespace ContinuationTokenCodec

variable (cipher : Aead.Cipher)

/-- The first half of `encode`, up to the call of the cipher. -/
def sealCursor (nonce : List UInt8) (bucket : Text) (query : ListObjectsV2Query)
    (internalCursor : Text) : Except S3ListError Aead.Sealed := do
  rejectIf (internalCursor = [] ∨ maxInternalCursorBytes < Utf8.byteLength internalCursor)
    .invalidInternalCursor
  let aad ← tokenAad bucket query
  match cipher.encrypt nonce aad (Utf8.bytes internalCursor) with
  | none => .error .tokenEncodingFailed
  | some ciphertext => return ⟨nonce, aad, Utf8.bytes internalCursor, ciphertext⟩

/-- The second half of `encode`. -/
def tokenOf [Base64Engine] (entry : Aead.Sealed) : Text :=
  Base64Engine.encode (tokenVersion :: (entry.nonce ++ entry.ciphertext))

/-- The nonce is the one that was generated. -/
def encode [Base64Engine] (nonce : List UInt8) (bucket : Text) (query : ListObjectsV2Query)
    (internalCursor : Text) : Except S3ListError Text := do
  let entry ← sealCursor cipher nonce bucket query internalCursor
  return tokenOf entry

/-- What was decrypted, if it is a cursor. -/
def openCursor (cursor : Option (List UInt8)) : Except S3ListError Text :=
  match cursor with
  | none => .error .invalidContinuationToken
  | some cursor => do
      rejectIf (cursor = [] ∨ maxInternalCursorBytes < cursor.length) .invalidContinuationToken
      match Utf8.ofBytes cursor with
      | none => .error .invalidContinuationToken
      | some cursor => return cursor

def decode [Base64Engine] (token bucket : Text) (query : ListObjectsV2Query) :
    Except S3ListError Text := do
  rejectIf (token = [] ∨ maxTokenBytes < Utf8.byteLength token) .invalidContinuationToken
  match Base64Engine.decode token with
  | none => .error .invalidContinuationToken
  | some bytes => do
      rejectIf (bytes.length < 1 + tokenNonceBytes + tokenTagBytes + 1 ∨
        bytes.head? ≠ some tokenVersion) .invalidContinuationToken
      let nonce := (bytes.drop 1).take tokenNonceBytes
      let ciphertext := bytes.drop (1 + tokenNonceBytes)
      let aad ← tokenAad bucket query
      openCursor (cipher.decrypt nonce aad ciphertext)

end ContinuationTokenCodec

/-- What a listing is of. -/
def listing (bucket : Text) (query : ListObjectsV2Query) : Text × Text × Option Text :=
  (bucket, query.pre, query.delimiter)

/-- The components that are bound to a token. -/
def context (bucket : Text) (query : ListObjectsV2Query) : List Text :=
  [bucket, query.pre, query.delimiter.getD []]

theorem contextComponent_eq_ok_iff {value : Text} {bytes : List UInt8} :
    contextComponent value = .ok bytes ↔
      Utf8.byteLength value < 2 ^ 32 ∧ LengthPrefixed.component (Utf8.bytes value) = bytes := by
  simp only [contextComponent, andThen_eq_ok_iff, rejectIf_eq_ok_iff, pure_eq_ok_iff, not_le]

theorem tokenAad_eq_ok_iff {bucket : Text} {query : ListObjectsV2Query} {aad : List UInt8} :
    tokenAad bucket query = .ok aad ↔
      bucket ≠ [] ∧ (∀ value ∈ context bucket query, Utf8.byteLength value < 2 ^ 32) ∧
        aad = tokenAadLabel ++
          ((context bucket query).map Utf8.bytes).flatMap LengthPrefixed.component := by
  have hflat : ((context bucket query).map Utf8.bytes).flatMap LengthPrefixed.component =
      LengthPrefixed.component (Utf8.bytes bucket) ++
        (LengthPrefixed.component (Utf8.bytes query.pre) ++
          LengthPrefixed.component (Utf8.bytes (query.delimiter.getD []))) := by
    simp [context]
  rw [hflat, tokenAad, andThen_eq_ok_iff, rejectIf_eq_ok_iff]
  simp only [bind_eq_ok_iff, contextComponent_eq_ok_iff, pure_eq_ok_iff, context,
    List.forall_mem_cons, List.append_assoc]
  constructor
  · rintro ⟨hne, _, ⟨hbucket, rfl⟩, _, ⟨hpre, rfl⟩, _, ⟨hdelimiter, rfl⟩, rfl⟩
    exact ⟨hne, ⟨hbucket, hpre, hdelimiter, by simp⟩, rfl⟩
  · rintro ⟨hne, ⟨hbucket, hpre, hdelimiter, _⟩, rfl⟩
    exact ⟨hne, _, ⟨hbucket, rfl⟩, _, ⟨hpre, rfl⟩, _, ⟨hdelimiter, rfl⟩, rfl⟩

/-- Without a delimiter the component is empty, which no delimiter is. -/
theorem IsDelimiter.eq_of_getD {delimiter delimiter' : Option Text} (h : IsDelimiter delimiter)
    (h' : IsDelimiter delimiter') (heq : delimiter.getD [] = delimiter'.getD []) :
    delimiter = delimiter' := by
  rcases h with rfl | rfl
  · rcases h' with rfl | rfl
    · rfl
    · simp at heq
  · rcases h' with rfl | rfl
    · simp at heq
    · rfl

/-- The associated data tells listings apart. -/
theorem listing_of_tokenAad {bucket bucket' : Text} {query query' : ListObjectsV2Query}
    {aad : List UInt8} (h : tokenAad bucket query = .ok aad)
    (h' : tokenAad bucket' query' = .ok aad) : listing bucket query = listing bucket' query' := by
  obtain ⟨_, hbounds, rfl⟩ := tokenAad_eq_ok_iff.1 h
  obtain ⟨_, hbounds', heq⟩ := tokenAad_eq_ok_iff.1 h'
  have hshort {values : List Text} (hvalues : ∀ value ∈ values, Utf8.byteLength value < 2 ^ 32) :
      ∀ bytes ∈ values.map Utf8.bytes, bytes.length < 2 ^ 32 := by
    intro bytes hbytes
    obtain ⟨value, hvalue, rfl⟩ := List.mem_map.1 hbytes
    rw [Utf8.length_bytes]
    exact hvalues value hvalue
  have hcomponents := LengthPrefixed.flatMap_component_injective (hshort hbounds)
    (hshort hbounds') (List.append_cancel_left heq)
  have hcontext := List.map_injective_iff.2 Utf8.bytes_injective hcomponents
  simp only [context, List.cons.injEq, and_true] at hcontext
  obtain ⟨rfl, hpre, hdelimiter⟩ := hcontext
  rw [listing, listing, hpre,
    IsDelimiter.eq_of_getD query.delimiter_valid query'.delimiter_valid hdelimiter]

/-- Queries for one listing have one context. -/
theorem tokenAad_congr {bucket bucket' : Text} {query query' : ListObjectsV2Query}
    (h : listing bucket query = listing bucket' query') :
    tokenAad bucket query = tokenAad bucket' query' := by
  simp only [listing, Prod.mk.injEq] at h
  obtain ⟨rfl, hpre, hdelimiter⟩ := h
  rw [tokenAad, tokenAad, hpre, hdelimiter]

/-- The associated data of a token, where its components are not too long for it. -/
def contextAad (bucket : Text) (query : ListObjectsV2Query) : List UInt8 :=
  tokenAadLabel ++ ((context bucket query).map Utf8.bytes).flatMap LengthPrefixed.component

/-- A prefix and a delimiter are always short enough for a context. -/
theorem context_short_iff {bucket : Text} {query : ListObjectsV2Query} :
    (∀ value ∈ context bucket query, Utf8.byteLength value < 2 ^ 32) ↔
      Utf8.byteLength bucket < 2 ^ 32 := by
  have hpre : Utf8.byteLength query.pre < 2 ^ 32 := by
    have hshort : Utf8.byteLength query.pre ≤ maxKeyBytes :=
      of_decide_eq_true (Bool.and_eq_true_iff.1 query.pre_valid).1
    exact hshort.trans_lt (by decide)
  have hdelimiter : Utf8.byteLength (query.delimiter.getD []) < 2 ^ 32 := by
    rcases query.delimiter_valid with h | h
    · rw [h]
      decide
    · rw [h]
      decide
  simp only [context, List.forall_mem_cons, hpre, hdelimiter, true_and]
  simp

theorem tokenAad_eq_contextAad {bucket : Text} {query : ListObjectsV2Query} {aad : List UInt8} :
    tokenAad bucket query = .ok aad ↔
      bucket ≠ [] ∧ Utf8.byteLength bucket < 2 ^ 32 ∧ aad = contextAad bucket query := by
  rw [tokenAad_eq_ok_iff, context_short_iff, contextAad]

namespace ContinuationTokenCodec

variable {cipher : Aead.Cipher}

theorem sealCursor_eq_ok_iff {nonce : List UInt8} {bucket : Text} {query : ListObjectsV2Query}
    {cursor : Text} {entry : Aead.Sealed} :
    sealCursor cipher nonce bucket query cursor = .ok entry ↔
      cursor ≠ [] ∧ Utf8.byteLength cursor ≤ maxInternalCursorBytes ∧
        tokenAad bucket query = .ok entry.aad ∧
        cipher.encrypt nonce entry.aad (Utf8.bytes cursor) = some entry.ciphertext ∧
        entry.nonce = nonce ∧ entry.message = Utf8.bytes cursor := by
  rw [sealCursor, andThen_eq_ok_iff, rejectIf_eq_ok_iff, bind_eq_ok_iff, not_or, not_lt, and_assoc]
  apply and_congr_right
  intro _
  apply and_congr_right
  intro _
  constructor
  · rintro ⟨aad, haad, hencrypt⟩
    split at hencrypt
    · simp at hencrypt
    · next ciphertext heq =>
        obtain rfl := pure_eq_ok_iff.1 hencrypt
        exact ⟨haad, heq, rfl, rfl⟩
  · obtain ⟨nonce', aad, message, ciphertext⟩ := entry
    rintro ⟨haad, hencrypt, rfl, rfl⟩
    refine ⟨aad, haad, ?_⟩
    rw [hencrypt]
    rfl

/-- A cursor that can be sealed for a listing. -/
structure Sealable (cipher : Aead.Cipher) (nonce : List UInt8) (bucket : Text)
    (query : ListObjectsV2Query) (cursor : Text) : Prop where
  cursor_ne_nil : cursor ≠ []
  cursor_short : Utf8.byteLength cursor ≤ maxInternalCursorBytes
  bucket_ne_nil : bucket ≠ []
  bucket_short : Utf8.byteLength bucket < 2 ^ 32
  encrypts : (cipher.encrypt nonce (contextAad bucket query) (Utf8.bytes cursor)).isSome = true

theorem exists_encode_iff [Base64Engine] {nonce : List UInt8} {bucket : Text}
    {query : ListObjectsV2Query} {cursor : Text} :
    (∃ token, encode cipher nonce bucket query cursor = .ok token) ↔
      Sealable cipher nonce bucket query cursor := by
  simp only [encode, bind_eq_ok_iff, pure_eq_ok_iff, sealCursor_eq_ok_iff, tokenAad_eq_contextAad]
  constructor
  · rintro ⟨_, entry, ⟨hcursor, hshort, ⟨hbucket, hlong, haad⟩, hencrypt, _⟩, _⟩
    rw [haad] at hencrypt
    exact ⟨hcursor, hshort, hbucket, hlong, Option.isSome_iff_exists.2 ⟨_, hencrypt⟩⟩
  · rintro ⟨hcursor, hshort, hbucket, hlong, hencrypts⟩
    obtain ⟨ciphertext, hencrypt⟩ := Option.isSome_iff_exists.1 hencrypts
    exact ⟨_, ⟨nonce, contextAad bucket query, Utf8.bytes cursor, ciphertext⟩,
      ⟨hcursor, hshort, ⟨hbucket, hlong, rfl⟩, hencrypt, rfl, rfl⟩, rfl⟩

end ContinuationTokenCodec

end MediaHub.Http
