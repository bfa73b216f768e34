import MediaHub.Http.ListObjectsV2
import MediaHub.Policy.Names
import MediaHub.Store.ListingServed

namespace MediaHub.Http

open Result
open MediaHub.Core (ApplicationId BucketId)
open MediaHub.Policy (containsText parseIpAddr)
open MediaHub.Store (Database)
open MediaHub.Store.Listing
open Text (isAsciiDigit isAsciiLowercase)

/-- `validate_s3_bucket_name` -/
def validateS3BucketName (name : Text) : Bool :=
  let validEdge (c : Char) := isAsciiLowercase c || isAsciiDigit c
  3 ≤ Utf8.byteLength name && Utf8.byteLength name ≤ 63 &&
    name.head?.any validEdge && name.getLast?.any validEdge &&
    (name.all fun c => isAsciiLowercase c || isAsciiDigit c || c = '.' || c = '-') &&
    !containsText name "..".toList && (parseIpAddr name).isNone &&
    !(["xn--", "sthree-", "amzn_s3_demo_"].any fun start => start.toList.isPrefixOf name) &&
    !(["-s3alias", "--ol-s3", ".mrap", "--x-s3", "--table-s3"].any fun finish =>
      finish.toList.isSuffixOf name)

/-- The query of the repository for a page of the listing. -/
def ListObjectsV2Query.objectListQuery (query : ListObjectsV2Query) (bucketId : BucketId)
    (cursor : Option Text) : S3ObjectListQuery where
  bucketId
  pre := String.ofList query.pre
  startAfter := (cursor.or query.startAfter).map String.ofList
  delimiter := query.delimiter.isSome
  limit := query.maxKeys

/-- AES-256-GCM: the sizes that the codec relies on. -/
structure IsAes256Gcm (cipher : Aead.Cipher) : Prop where
  nonceBytes : cipher.nonceBytes = tokenNonceBytes
  tagBytes : cipher.tagBytes = tokenTagBytes
  maxBytes : 2 ^ 36 ≤ cipher.maxBytes

namespace ContinuationTokenCodec

variable {cipher : Aead.Cipher}

/-- One call of `encode`, with the nonce that it generated. -/
structure Call where
  nonce : List UInt8
  bucket : Text
  query : ListObjectsV2Query
  cursor : Text
  nonce_length : nonce.length = tokenNonceBytes

def Call.seal (cipher : Aead.Cipher) (call : Call) : Except S3ListError Aead.Sealed :=
  sealCursor cipher call.nonce call.bucket call.query call.cursor

def Call.encode [Base64Engine] (cipher : Aead.Cipher) (call : Call) : Except S3ListError Text :=
  ContinuationTokenCodec.encode cipher call.nonce call.bucket call.query call.cursor

/-- The encryptions that the calls made. -/
def issued (cipher : Aead.Cipher) (calls : List Call) : List Aead.Sealed :=
  calls.filterMap fun call => (call.seal cipher).toOption

theorem mem_issued {calls : List Call} {call : Call} (hcall : call ∈ calls) {entry : Aead.Sealed}
    (h : call.seal cipher = .ok entry) : entry ∈ issued cipher calls := by
  rw [issued, List.mem_filterMap]
  exact ⟨call, hcall, by rw [h]; rfl⟩

/-- The sizes of what is put into a token. -/
theorem length_sealed (hgcm : IsAes256Gcm cipher) {nonce : List UInt8} {bucket : Text}
    {query : ListObjectsV2Query} {cursor : Text} {entry : Aead.Sealed}
    (h : sealCursor cipher nonce bucket query cursor = .ok entry) :
    tokenTagBytes + 1 ≤ entry.ciphertext.length ∧
      entry.ciphertext.length ≤ maxInternalCursorBytes + tokenTagBytes := by
  obtain ⟨hne, hle, _, hencrypt, _, _⟩ := sealCursor_eq_ok_iff.1 h
  have hlength := cipher.length_encrypt hencrypt
  have hpos : 0 < Utf8.byteLength cursor := by
    have hcount := Utf8.length_le_byteLength cursor
    have hcursor := List.length_pos_iff.2 hne
    omega
  rw [Utf8.length_bytes, hgcm.tagBytes] at hlength
  omega

/-- A token is short enough to be sent back. -/
theorem byteLength_tokenOf [Base64Engine] {entry : Aead.Sealed}
    (hnonce : entry.nonce.length = tokenNonceBytes)
    (hciphertext : entry.ciphertext.length ≤ maxInternalCursorBytes + tokenTagBytes) :
    tokenOf entry ≠ [] ∧ Utf8.byteLength (tokenOf entry) ≤ maxTokenBytes := by
  constructor
  · exact Base64Engine.encode_ne_nil (List.cons_ne_nil _ _)
  · have hthree := Base64Engine.three_mul_length_encode_le
      (tokenVersion :: (entry.nonce ++ entry.ciphertext))
    rw [List.length_cons, List.length_append, hnonce] at hthree
    have hbytes : Utf8.byteLength (tokenOf entry) = (tokenOf entry).length :=
      Utf8.byteLength_eq_length fun c hc => Base64.utf8Size_encode hc
    rw [hbytes]
    simp only [tokenOf, tokenNonceBytes, maxInternalCursorBytes, tokenTagBytes, maxTokenBytes]
      at hthree hciphertext ⊢
    omega

/-- A call succeeds for every cursor of a size that is allowed, where the context is not too
long. -/
theorem exists_encode [Base64Engine] (hgcm : IsAes256Gcm cipher) {nonce : List UInt8}
    (hnonce : nonce.length = tokenNonceBytes) {bucket : Text} {query : ListObjectsV2Query}
    {cursor : Text} (hbucket : bucket ≠ []) (hcursor : cursor ≠ [])
    (hle : Utf8.byteLength cursor ≤ maxInternalCursorBytes)
    (hcontext : ∀ value ∈ context bucket query, Utf8.byteLength value < 2 ^ 32) :
    ∃ token, encode cipher nonce bucket query cursor = .ok token ∧ token ≠ [] ∧
      Utf8.byteLength token ≤ maxTokenBytes := by
  have haad := tokenAad_eq_ok_iff.2 ⟨hbucket, hcontext, rfl⟩
  generalize hdata : tokenAadLabel ++
    ((context bucket query).map Utf8.bytes).flatMap LengthPrefixed.component = aad at haad
  have hlong : aad.length ≤ cipher.maxBytes := by
    have hmax := hgcm.maxBytes
    have hlabel : tokenAadLabel.length = 43 := by decide +kernel
    simp only [context, List.forall_mem_cons] at hcontext
    obtain ⟨hfirst, hsecond, hthird, _⟩ := hcontext
    rw [← hdata, List.length_append, hlabel]
    simp only [context, List.map_cons, List.map_nil, List.flatMap_cons, List.flatMap_nil,
      List.length_append, LengthPrefixed.length_component, Utf8.length_bytes, List.length_nil]
    omega
  have hmessage : (Utf8.bytes cursor).length ≤ cipher.maxBytes := by
    have hmax := hgcm.maxBytes
    rw [Utf8.length_bytes]
    simp only [maxInternalCursorBytes] at hle
    omega
  obtain ⟨ciphertext, hencrypt⟩ := Option.isSome_iff_exists.1
    (cipher.encrypt_isSome (hnonce.trans hgcm.nonceBytes.symm) hlong hmessage)
  have hsealed : sealCursor cipher nonce bucket query cursor =
      .ok ⟨nonce, aad, Utf8.bytes cursor, ciphertext⟩ :=
    sealCursor_eq_ok_iff.2 ⟨hcursor, hle, haad, hencrypt, rfl, rfl⟩
  refine ⟨tokenOf ⟨nonce, aad, Utf8.bytes cursor, ciphertext⟩, ?_, ?_⟩
  · rw [encode, hsealed]
    rfl
  · exact byteLength_tokenOf hnonce (length_sealed hgcm hsealed).2

/-- What decoding does with a token that was made. -/
theorem decode_tokenOf [Base64Engine] {entry : Aead.Sealed}
    (hnonce : entry.nonce.length = tokenNonceBytes)
    (hlong : tokenTagBytes + 1 ≤ entry.ciphertext.length)
    (hshort : entry.ciphertext.length ≤ maxInternalCursorBytes + tokenTagBytes) (bucket : Text)
    (query : ListObjectsV2Query) :
    decode cipher (tokenOf entry) bucket query =
      (tokenAad bucket query >>= fun aad =>
        openCursor (cipher.decrypt entry.nonce aad entry.ciphertext)) := by
  have hsize : rejectIf (tokenOf entry = [] ∨ maxTokenBytes < Utf8.byteLength (tokenOf entry))
      S3ListError.invalidContinuationToken = .ok () := by
    rw [rejectIf_eq_ok_iff, not_or, not_lt]
    exact byteLength_tokenOf hnonce hshort
  have hbytes : rejectIf ((tokenVersion :: (entry.nonce ++ entry.ciphertext)).length <
        1 + tokenNonceBytes + tokenTagBytes + 1 ∨
      (tokenVersion :: (entry.nonce ++ entry.ciphertext)).head? ≠ some tokenVersion)
      S3ListError.invalidContinuationToken = .ok () := by
    rw [rejectIf_eq_ok_iff, not_or, not_lt]
    refine ⟨?_, fun h => h rfl⟩
    rw [List.length_cons, List.length_append, hnonce]
    omega
  have htake : ((tokenVersion :: (entry.nonce ++ entry.ciphertext)).drop 1).take tokenNonceBytes =
      entry.nonce := by
    rw [List.drop_succ_cons, List.drop_zero, ← hnonce, List.take_left]
  have hdrop : (tokenVersion :: (entry.nonce ++ entry.ciphertext)).drop (1 + tokenNonceBytes) =
      entry.ciphertext := by
    rw [Nat.add_comm, List.drop_succ_cons, ← hnonce, List.drop_left]
  have hdecode : Base64Engine.decode (tokenOf entry) =
      some (tokenVersion :: (entry.nonce ++ entry.ciphertext)) :=
    Base64Engine.decode_encode _
  simp only [decode, hsize, hdecode, hbytes, htake, hdrop]
  rfl

theorem openCursor_bytes {cursor : Text} (hne : cursor ≠ [])
    (hle : Utf8.byteLength cursor ≤ maxInternalCursorBytes) :
    openCursor (some (Utf8.bytes cursor)) = .ok cursor := by
  have hbytes : Utf8.bytes cursor ≠ [] := by
    intro heq
    exact hne (Utf8.bytes_injective heq)
  have hcheck : rejectIf (Utf8.bytes cursor = [] ∨
      maxInternalCursorBytes < (Utf8.bytes cursor).length)
      S3ListError.invalidContinuationToken = .ok () := by
    rw [rejectIf_eq_ok_iff, not_or, not_lt, Utf8.length_bytes]
    exact ⟨hbytes, hle⟩
  simp only [openCursor, hcheck, Utf8.ofBytes_bytes]
  rfl

/-- The same listing reads the cursor back. -/
theorem decode_eq_ok [Base64Engine] (hgcm : IsAes256Gcm cipher) {calls : List Call}
    (hideal : cipher.Ideal (issued cipher calls)) {call : Call} (hcall : call ∈ calls)
    {entry : Aead.Sealed} (hentry : call.seal cipher = .ok entry) {bucket : Text}
    {query : ListObjectsV2Query} (hsame : listing bucket query = listing call.bucket call.query) :
    decode cipher (tokenOf entry) bucket query = .ok call.cursor := by
  obtain ⟨hne, hle, haad, _, hnonce, hmessage⟩ := sealCursor_eq_ok_iff.1 hentry
  obtain ⟨hlong, hshort⟩ := length_sealed hgcm hentry
  have hopens := hideal.opens entry (mem_issued hcall hentry)
  rw [decode_tokenOf (hnonce ▸ call.nonce_length) hlong hshort, tokenAad_congr hsame, haad]
  calc openCursor (cipher.decrypt entry.nonce entry.aad entry.ciphertext)
      = openCursor (some (Utf8.bytes call.cursor)) := by rw [hopens, hmessage]
    _ = .ok call.cursor := openCursor_bytes hne hle

/-- Another listing has other associated data, with which nothing opens. -/
theorem decode_eq_error [Base64Engine] (hgcm : IsAes256Gcm cipher) {calls : List Call}
    (hideal : cipher.Ideal (issued cipher calls)) {call : Call} (hcall : call ∈ calls)
    {entry : Aead.Sealed} (hentry : call.seal cipher = .ok entry) {bucket : Text}
    {query : ListObjectsV2Query} (hother : listing bucket query ≠ listing call.bucket call.query) :
    ∃ e, decode cipher (tokenOf entry) bucket query = .error e := by
  obtain ⟨_, _, hsealed, _, hnonce, _⟩ := sealCursor_eq_ok_iff.1 hentry
  obtain ⟨hlong, hshort⟩ := length_sealed hgcm hentry
  rw [decode_tokenOf (hnonce ▸ call.nonce_length) hlong hshort]
  cases haad : tokenAad bucket query with
  | error e => exact ⟨e, rfl⟩
  | ok aad =>
      have hdiffers : entry.aad ≠ aad := by
        intro heq
        rw [← heq] at haad
        exact hother (listing_of_tokenAad haad hsealed)
      have hnone := hideal.decrypt_eq_none (mem_issued hcall hentry) hdiffers
      refine ⟨.invalidContinuationToken, ?_⟩
      calc openCursor (cipher.decrypt entry.nonce aad entry.ciphertext)
          = openCursor none := by rw [hnone]
        _ = .error .invalidContinuationToken := rfl

/-- `CHECK (octet_length(object_key) BETWEEN 1 AND 1024)` -/
def KeysChecked (db : Database) : Prop :=
  ∀ object ∈ db.objects, 1 ≤ Utf8.byteLength object.key.toList ∧
    Utf8.byteLength object.key.toList ≤ maxKeyBytes

variable {db : Database} {applicationId : ApplicationId}

theorem KeysChecked.currentObjects (h : KeysChecked db) {bucketId : BucketId} {pre : String}
    {row : String × Core.ObjectVersionId}
    (hrow : row ∈ currentObjects db applicationId bucketId pre) :
    1 ≤ Utf8.byteLength row.1.toList ∧ Utf8.byteLength row.1.toList ≤ maxKeyBytes := by
  obtain ⟨_, version, hcurrent, _⟩ := mem_currentObjects.1 hrow
  obtain ⟨object, hobject, _, _, hkey, _⟩ := hcurrent.object
  rw [← hkey]
  exact h object hobject

/-- A common prefix is the start of a key. -/
theorem byteLength_prefixEntry_le {pre key : String} (hpre : hasPrefix pre key = true)
    (hdelimiter : hasDelimiter pre key = true) :
    Utf8.byteLength (prefixEntry pre (firstPart pre key)).toList ≤ Utf8.byteLength key.toList := by
  obtain ⟨_, rest, hrelative⟩ := firstPart_append pre key hdelimiter
  have hkey := hasPrefix_iff.1 hpre
  rw [hrelative] at hkey
  rw [hkey, toList_prefixEntry]
  simp only [Utf8.byteLength_append, Utf8.byteLength_cons, Utf8.byteLength_nil]
  omega

theorem KeysChecked.entryKey (h : KeysChecked db) {query : S3ObjectListQuery}
    {entry : Entry Core.ObjectVersionId}
    (hentry : entry ∈ (objectListing db applicationId query).entries) :
    1 ≤ Utf8.byteLength entry.entryKey.toList ∧
      Utf8.byteLength entry.entryKey.toList ≤ maxKeyBytes := by
  rcases mem_entries.1 hentry with ⟨row, hrow, _, rfl⟩ | ⟨_, row, hrow, hdelimiter, rfl⟩
  · exact h.currentObjects hrow
  · have hpre := (mem_currentObjects.1 hrow).1
    constructor
    · rw [toList_prefixEntry, Utf8.byteLength_append]
      exact Nat.le_add_left 1 _
    · exact (byteLength_prefixEntry_le hpre hdelimiter).trans (h.currentObjects hrow).2

/-- A page ends with one of its entries. -/
theorem exists_entry_of_nextCursor {query : S3ObjectListQuery} {page : S3ObjectPage}
    (h : listCurrentS3Objects db applicationId query = .ok page) {cursor : String}
    (hcursor : page.nextCursor = some cursor) :
    ∃ entry ∈ (objectListing db applicationId query).entries, entry.entryKey = cursor := by
  rw [listCurrentS3Objects, andThen_eq_ok_iff] at h
  have hpage := h.2
  split at hpage
  · obtain rfl := pure_eq_ok_iff.1 hpage
    simp at hcursor
  · obtain ⟨rows, _, hrows⟩ := bind_eq_ok_iff.1 hpage
    obtain rfl := pure_eq_ok_iff.1 hrows
    obtain ⟨entry, hlast, rfl⟩ := Option.map_eq_some_iff.1 hcursor
    refine ⟨entry, ?_, rfl⟩
    simp only [Keyset.Listing.page, Option.ite_none_right_eq_some] at hlast
    exact Keyset.Listing.mem_of_mem_page (List.mem_of_getLast? hlast.2)

theorem byteLength_of_validateS3BucketName {bucket : Text}
    (h : validateS3BucketName bucket = true) :
    bucket ≠ [] ∧ Utf8.byteLength bucket ≤ 63 := by
  simp only [validateS3BucketName, Bool.and_eq_true, decide_eq_true_eq] at h
  constructor
  · rintro rfl
    simp at h
  · tauto

/-- The cursor of a page can be put into a token that a request may carry. -/
theorem exists_encode_nextCursor [Base64Engine] (hgcm : IsAes256Gcm cipher) (hkeys : KeysChecked db)
    {bucket : Text} (hbucket : validateS3BucketName bucket = true) (query : ListObjectsV2Query)
    {bucketId : BucketId} {cursor : Option Text} {page : S3ObjectPage}
    (hpage : listCurrentS3Objects db applicationId (query.objectListQuery bucketId cursor) =
      .ok page) {next : String} (hnext : page.nextCursor = some next) {nonce : List UInt8}
    (hnonce : nonce.length = tokenNonceBytes) :
    ∃ token, encode cipher nonce bucket query next.toList = .ok token ∧
      parseContinuationToken (some token) = .ok (some token) := by
  obtain ⟨entry, hentry, rfl⟩ := exists_entry_of_nextCursor hpage hnext
  obtain ⟨hpos, hle⟩ := hkeys.entryKey hentry
  have hbucketName := byteLength_of_validateS3BucketName hbucket
  have hne : entry.entryKey.toList ≠ [] := by
    intro heq
    rw [heq] at hpos
    simp at hpos
  have hcursor : Utf8.byteLength entry.entryKey.toList ≤ maxInternalCursorBytes :=
    hle.trans (by decide)
  obtain ⟨token, hencode, htoken, hlength⟩ := exists_encode hgcm hnonce
    hbucketName.1 hne hcursor (context_short_iff.2 (hbucketName.2.trans_lt (by decide)))
  refine ⟨token, hencode, ?_⟩
  simp only [parseContinuationToken, andThen_eq_ok_iff, rejectIf_eq_ok_iff, pure_eq_ok_iff,
    and_true, Option.mem_some, exists_eq_left', not_or, not_lt]
  exact ⟨htoken, hlength⟩

theorem continuationTokens_bound [Base64Engine] (hgcm : IsAes256Gcm cipher) {calls : List Call}
    (hideal : cipher.Ideal (issued cipher calls)) :
    (∀ call ∈ calls, ∀ token, call.encode cipher = .ok token →
      ∀ (bucket : Text) (query : ListObjectsV2Query),
        (listing bucket query = listing call.bucket call.query →
          decode cipher token bucket query = .ok call.cursor) ∧
        (listing bucket query ≠ listing call.bucket call.query →
          ∃ e, decode cipher token bucket query = .error e)) ∧
    (∀ (db : Database) (applicationId : ApplicationId) (bucketId : BucketId) (bucket : Text)
      (query : ListObjectsV2Query) (cursor : Option Text) (page : S3ObjectPage) (next : String)
      (nonce : List UInt8), KeysChecked db → validateS3BucketName bucket = true →
        listCurrentS3Objects db applicationId (query.objectListQuery bucketId cursor) = .ok page →
        page.nextCursor = some next → nonce.length = tokenNonceBytes →
          ∃ token, encode cipher nonce bucket query next.toList = .ok token ∧
            parseContinuationToken (some token) = .ok (some token)) ∧
    (∀ (bucket bucket' : Text) (query query' : ListObjectsV2Query) (aad : List UInt8),
      tokenAad bucket query = .ok aad → tokenAad bucket' query' = .ok aad →
        listing bucket query = listing bucket' query') := by
  refine ⟨?_, ?_, ?_⟩
  · intro call hcall token htoken bucket query
    obtain ⟨entry, hentry, hreturned⟩ := bind_eq_ok_iff.1 htoken
    obtain rfl := pure_eq_ok_iff.1 hreturned
    constructor
    · exact decode_eq_ok hgcm hideal hcall hentry
    · exact decode_eq_error hgcm hideal hcall hentry
  · intro db applicationId bucketId bucket query cursor page next nonce hkeys hbucket hpage hnext
      hnonce
    exact exists_encode_nextCursor hgcm hkeys hbucket query hpage hnext hnonce
  · intro bucket bucket' query query' aad h h'
    exact listing_of_tokenAad h h'

local instance : Base64Engine := Base64.urlSafeNoPad

def exampleQuery : ListObjectsV2Query where
  pre := "photos/".toList
  delimiter := some ['/']
  maxKeys := 2
  continuationToken := none
  startAfter := none
  encodingType := none
  pre_valid := by decide
  delimiter_valid := isDelimiter_slash

def exampleCall : Call where
  nonce := List.replicate 12 0
  bucket := "media".toList
  query := exampleQuery
  cursor := "photos/2024/".toList
  nonce_length := List.length_replicate

def exampleEntry : Aead.Sealed where
  nonce := exampleCall.nonce
  aad := ((tokenAad exampleCall.bucket exampleCall.query).toOption).getD []
  message := Utf8.bytes exampleCall.cursor
  ciphertext := Utf8.bytes exampleCall.cursor ++ List.replicate 16 0

def exampleCipher : Aead.Cipher := Aead.Cipher.ofTable 12 16 (2 ^ 36) [exampleEntry]

theorem continuationTokens_bound_example :
    ∃ token, exampleCall.encode exampleCipher = .ok token ∧
      decode exampleCipher token "media".toList exampleQuery = .ok "photos/2024/".toList ∧
      ∃ e, decode exampleCipher token "media-2".toList exampleQuery = .error e := by
  have hencode : (exampleCall.encode exampleCipher).toBool = true := by decide +kernel
  have hissued : issued exampleCipher [exampleCall] = [exampleEntry] := by decide +kernel
  have hideal : exampleCipher.Ideal (issued exampleCipher [exampleCall]) := by
    rw [hissued]
    exact Aead.ofTable_ideal
  obtain ⟨token, htoken⟩ := exists_of_toBool hencode
  have hbound := (continuationTokens_bound ⟨rfl, rfl, le_refl _⟩ hideal).1 exampleCall
    (List.mem_singleton_self _) token htoken
  refine ⟨token, htoken, ?_, ?_⟩
  · exact (hbound "media".toList exampleQuery).1 rfl
  · exact (hbound "media-2".toList exampleQuery).2 (by decide)

end ContinuationTokenCodec

end MediaHub.Http
