import MediaHub.Http.ObjectClassify

/-!
The operation that runs against the subresources that the query names. Reads are classified as a
whole; the other methods look for one subresource after the other, and do not look for all.
-/

namespace MediaHub.Http

open Result

/-- The subresources of an object that the server knows. -/
def objectSubresources : List String :=
  ["tagging", "retention", "legal-hold", "acl", "uploadId", "uploads", "torrent", "select",
    "select-type", "restore", "attributes"]

section Names

variable [FormDecoding]

/-- Of the given subresources, the query names the one that is asked for and no other. -/
def NamesOnly (uri : Uri) (subresources : List String) (asked : Option String) : Prop :=
  ∀ name ∈ subresources, name ∈ uri.names ↔ asked = some name

/-- The query names a subresource of objects besides the given one. -/
def NamesOther (uri : Uri) (asked : Option String) : Prop :=
  ∃ name ∈ objectSubresources, name ∈ uri.names ∧ asked ≠ some name

theorem namesOnly_iff {uri : Uri} {asked : Option String}
    (h : ∀ name, asked = some name → name ∈ uri.names) :
    NamesOnly uri objectSubresources asked ↔ ¬ NamesOther uri asked := by
  unfold NamesOnly NamesOther
  constructor
  · rintro honly ⟨name, hmem, hname, hasked⟩
    exact hasked ((honly name hmem).1 hname)
  · intro hother name hmem
    constructor
    · intro hname
      by_contra hasked
      exact hother ⟨name, hmem, hname, hasked⟩
    · exact h name

omit [FormDecoding] in
/-- No subresource of objects is a name that comes with a signature. -/
theorem not_isTransportName {name : String} (h : name ∈ objectSubresources) :
    isTransportName name = false ∧ name ≠ "versionId" := by
  revert name
  decide

end Names

namespace Surroundings

variable [FormDecoding]

/-- Every check before the operation passes. -/
def Passes (around : Surroundings) (operation : ObjectOperation) : Prop :=
  operation.checks.Forall fun check => around.check check = .ok ()

theorem versionHandler_eq_ok_iff {around : Surroundings} {uri : Uri}
    {operation result : ObjectOperation} :
    around.versionHandler uri operation = .ok result ↔
      around.check .objectKey = .ok () ∧ ValidVersion uri ∧
        around.check (.handler operation) = .ok () ∧ result = operation := by
  unfold versionHandler
  rw [← parseS3VersionId_ok_iff]
  constructor
  · intro h
    obtain ⟨hkey, h⟩ := andThen_eq_ok_iff.1 h
    obtain ⟨versionId, hversion, h⟩ := bind_eq_ok_iff.1 h
    obtain ⟨hhandler, h⟩ := andThen_eq_ok_iff.1 h
    exact ⟨hkey, ⟨versionId, hversion⟩, hhandler, (pure_eq_ok_iff.1 h).symm⟩
  · rintro ⟨hkey, ⟨versionId, hversion⟩, hhandler, rfl⟩
    refine andThen_eq_ok_iff.2 ⟨hkey, bind_eq_ok_iff.2 ⟨versionId, hversion, ?_⟩⟩
    exact andThen_eq_ok_iff.2 ⟨hhandler, rfl⟩

omit [FormDecoding] in
theorem findS3MultipartUpload_eq_ok_iff {around : Surroundings} {uploadId : Text} :
    around.findS3MultipartUpload uploadId = .ok () ↔ around.uploads uploadId := by
  unfold findS3MultipartUpload
  rw [ite_else_throw_eq_ok_iff]
  exact and_iff_left rfl

inductive DeleteRuns (around : Surroundings) (uri : Uri) : ObjectOperation → Prop
  | tagging (htagging : classifyS3ObjectTagging uri = .ok true) (hversion : ValidVersion uri)
      (hpasses : around.Passes .deleteTagging) : DeleteRuns around uri .deleteTagging
  | upload (uploadId : Text) (htagging : classifyS3ObjectTagging uri = .ok false)
      (huploadId : uri.values "uploadId" = [uploadId]) (hversion : "versionId" ∉ uri.names)
      (hfound : around.uploads uploadId)
      (hpasses : around.Passes (.abortMultipartUpload uploadId)) :
      DeleteRuns around uri (.abortMultipartUpload uploadId)
  | object (versionId : Option Text) (htagging : classifyS3ObjectTagging uri = .ok false)
      (huploadId : "uploadId" ∉ uri.names) (hversion : parseS3VersionId uri = .ok versionId)
      (hpasses : around.Passes (.deleteObject versionId)) :
      DeleteRuns around uri (.deleteObject versionId)

theorem deleteRuns_of_eq_ok {around : Surroundings} {uri : Uri} {operation : ObjectOperation}
    (h : around.s3DeleteObject uri = .ok operation) : DeleteRuns around uri operation := by
  unfold s3DeleteObject at h
  obtain ⟨tagging, htagging, h⟩ := bind_eq_ok_iff.1 h
  obtain ⟨hauthentication, h⟩ := andThen_eq_ok_iff.1 h
  obtain ⟨hsse, h⟩ := andThen_eq_ok_iff.1 h
  cases tagging with
  | true =>
      obtain ⟨hkey, hversion, hhandler, rfl⟩ := versionHandler_eq_ok_iff.1 h
      refine .tagging htagging hversion ?_
      simp [Passes, ObjectOperation.checks, hauthentication, hsse, hkey, hhandler]
  | false =>
      rw [if_neg (by decide)] at h
      unfold s3DeleteUploadOrObject at h
      obtain ⟨uploadId, huploadId, h⟩ := bind_eq_ok_iff.1 h
      cases uploadId with
      | some uploadId =>
          obtain ⟨hversion, h⟩ := andThen_eq_ok_iff.1 h
          obtain ⟨hfound, h⟩ := andThen_eq_ok_iff.1 h
          obtain ⟨hhandler, h⟩ := andThen_eq_ok_iff.1 h
          obtain rfl := pure_eq_ok_iff.1 h
          refine .upload uploadId htagging (s3QueryValue_eq_some_iff.1 huploadId)
            (rejectS3Versioning_eq_ok_iff.1 hversion) (findS3MultipartUpload_eq_ok_iff.1 hfound) ?_
          simp [Passes, ObjectOperation.checks, hauthentication, hsse, hhandler]
      | none =>
          obtain ⟨hkey, h⟩ := andThen_eq_ok_iff.1 h
          obtain ⟨versionId, hversion, h⟩ := bind_eq_ok_iff.1 h
          obtain ⟨hbypass, h⟩ := andThen_eq_ok_iff.1 h
          obtain ⟨hhandler, h⟩ := andThen_eq_ok_iff.1 h
          obtain rfl := pure_eq_ok_iff.1 h
          refine .object versionId htagging (s3QueryValue_eq_none_iff.1 huploadId) hversion ?_
          simp [Passes, ObjectOperation.checks, hauthentication, hsse, hkey, hbypass, hhandler]

theorem DeleteRuns.eq_ok {around : Surroundings} {uri : Uri} {operation : ObjectOperation}
    (h : DeleteRuns around uri operation) : around.s3DeleteObject uri = .ok operation := by
  unfold s3DeleteObject
  cases h with
  | tagging htagging hversion hpasses =>
      obtain ⟨hauthentication, hsse, hkey, hhandler⟩ := hpasses
      refine bind_eq_ok_iff.2 ⟨true, htagging, andThen_eq_ok_iff.2 ⟨hauthentication, ?_⟩⟩
      exact andThen_eq_ok_iff.2
        ⟨hsse, versionHandler_eq_ok_iff.2 ⟨hkey, hversion, hhandler, rfl⟩⟩
  | upload uploadId htagging huploadId hversion hfound hpasses =>
      obtain ⟨hauthentication, hsse, hhandler⟩ := hpasses
      refine bind_eq_ok_iff.2 ⟨false, htagging, andThen_eq_ok_iff.2 ⟨hauthentication, ?_⟩⟩
      refine andThen_eq_ok_iff.2 ⟨hsse, ?_⟩
      refine bind_eq_ok_iff.2 ⟨some uploadId, s3QueryValue_eq_some_iff.2 huploadId, ?_⟩
      refine andThen_eq_ok_iff.2 ⟨rejectS3Versioning_eq_ok_iff.2 hversion, ?_⟩
      refine andThen_eq_ok_iff.2 ⟨findS3MultipartUpload_eq_ok_iff.2 hfound, ?_⟩
      exact andThen_eq_ok_iff.2 ⟨hhandler, rfl⟩
  | object versionId htagging huploadId hversion hpasses =>
      obtain ⟨hauthentication, hsse, hkey, hbypass, hhandler⟩ := hpasses
      refine bind_eq_ok_iff.2 ⟨false, htagging, andThen_eq_ok_iff.2 ⟨hauthentication, ?_⟩⟩
      refine andThen_eq_ok_iff.2 ⟨hsse, ?_⟩
      refine bind_eq_ok_iff.2 ⟨none, s3QueryValue_eq_none_iff.2 huploadId, ?_⟩
      refine andThen_eq_ok_iff.2 ⟨hkey, bind_eq_ok_iff.2 ⟨versionId, hversion, ?_⟩⟩
      exact andThen_eq_ok_iff.2 ⟨hbypass, andThen_eq_ok_iff.2 ⟨hhandler, rfl⟩⟩

/-- The number of a part that a request uploads. -/
def ValidPartNumber (uri : Uri) (partNumber : Nat) : Prop :=
  ∃ text, uri.values "partNumber" = [text] ∧ parsePartNumber text = .ok partNumber

def putPart (isCopy : Bool) (uploadId : Text) (partNumber : Nat) : ObjectOperation :=
  if isCopy then .uploadPartCopy uploadId partNumber else .uploadPart uploadId partNumber

def putWhole (isCopy : Bool) : ObjectOperation := if isCopy then .copyObject else .putObject

inductive PutRuns (around : Surroundings) (uri : Uri) (isCopy : Bool) : ObjectOperation → Prop
  | tagging (htagging : classifyS3ObjectTagging uri = .ok true) (hversion : ValidVersion uri)
      (hpasses : around.Passes .putTagging) : PutRuns around uri isCopy .putTagging
  | lock (lock : S3ObjectVersionLockOperation) (htagging : classifyS3ObjectTagging uri = .ok false)
      (hlock : classifyS3ObjectVersionLock uri = .ok (some lock)) (hversion : ValidVersion uri)
      (hpasses : around.Passes (.putVersionLock lock)) :
      PutRuns around uri isCopy (.putVersionLock lock)
  | acl (htagging : classifyS3ObjectTagging uri = .ok false)
      (hlock : classifyS3ObjectVersionLock uri = .ok none)
      (hacl : ∃ value, uri.values "acl" = [value]) (hversion : ValidVersion uri)
      (hpasses : around.Passes .putAcl) : PutRuns around uri isCopy .putAcl
  | part (uploadId : Text) (partNumber : Nat)
      (htagging : classifyS3ObjectTagging uri = .ok false)
      (hlock : classifyS3ObjectVersionLock uri = .ok none) (hacl : "acl" ∉ uri.names)
      (huploadId : uri.values "uploadId" = [uploadId]) (hpart : ValidPartNumber uri partNumber)
      (hversion : "versionId" ∉ uri.names) (hfound : around.uploads uploadId)
      (hvalid : isCopy = false → validateS3MultipartUploadId uploadId = .ok ())
      (hpasses : around.Passes (putPart isCopy uploadId partNumber)) :
      PutRuns around uri isCopy (putPart isCopy uploadId partNumber)
  | object (htagging : classifyS3ObjectTagging uri = .ok false)
      (hlock : classifyS3ObjectVersionLock uri = .ok none) (hacl : "acl" ∉ uri.names)
      (huploadId : "uploadId" ∉ uri.names) (hpart : "partNumber" ∉ uri.names)
      (hversion : "versionId" ∉ uri.names) (hpasses : around.Passes (putWhole isCopy)) :
      PutRuns around uri isCopy (putWhole isCopy)

theorem rejectVersionIdFor_eq_ok_iff {operation : String} {uri : Uri} :
    rejectVersionIdFor operation uri = .ok () ↔ "versionId" ∉ uri.names := by
  unfold rejectVersionIdFor
  rw [← s3QueryValue_eq_none_iff, bind_eq_ok_iff]
  constructor
  · rintro ⟨versionId, hversion, h⟩
    have hnone := (ite_throw_eq_ok_iff.1 h).1
    rw [Bool.not_eq_true, Option.isSome_eq_false_iff, Option.isNone_iff_eq_none] at hnone
    rwa [hnone] at hversion
  · intro h
    exact ⟨none, h, rfl⟩

omit [FormDecoding] in
theorem requireParameter_eq_ok_iff {name : String} {value : Option Text} {text : Text} :
    requireParameter name value = .ok text ↔ value = some text := by
  cases value with
  | none => simp [requireParameter]
  | some value => simp [requireParameter]

theorem s3PutPart_of_eq_ok {around : Surroundings} {uri : Uri} {isCopy : Bool}
    {uploadId partNumber : Option Text} {operation : ObjectOperation}
    (h : around.s3PutPart uri isCopy uploadId partNumber = .ok operation) :
    ∃ id text number, uploadId = some id ∧ partNumber = some text ∧
      parsePartNumber text = .ok number ∧ "versionId" ∉ uri.names ∧ around.uploads id ∧
      (isCopy = false → validateS3MultipartUploadId id = .ok ()) ∧
      operation = putPart isCopy id number ∧
      (around.check .streamingAuthentication = .ok () →
        around.check (.sseHeaders (putContext isCopy true)) = .ok () →
          around.Passes operation) := by
  unfold s3PutPart at h
  obtain ⟨hlock, h⟩ := andThen_eq_ok_iff.1 h
  obtain ⟨hversion, h⟩ := andThen_eq_ok_iff.1 h
  obtain ⟨id, hid, h⟩ := bind_eq_ok_iff.1 h
  obtain ⟨text, htext, h⟩ := bind_eq_ok_iff.1 h
  obtain ⟨number, hnumber, h⟩ := bind_eq_ok_iff.1 h
  refine ⟨id, text, number, requireParameter_eq_ok_iff.1 hid, requireParameter_eq_ok_iff.1 htext,
    hnumber, rejectS3Versioning_eq_ok_iff.1 hversion, ?_⟩
  cases isCopy with
  | true =>
      obtain ⟨hbody, h⟩ := andThen_eq_ok_iff.1 h
      obtain ⟨hheaders, h⟩ := andThen_eq_ok_iff.1 h
      obtain ⟨hfound, h⟩ := andThen_eq_ok_iff.1 h
      obtain ⟨hhandler, h⟩ := andThen_eq_ok_iff.1 h
      obtain rfl := pure_eq_ok_iff.1 h
      refine ⟨findS3MultipartUpload_eq_ok_iff.1 hfound, by simp, rfl, fun hstreaming hsse => ?_⟩
      have hsse : around.check (.sseHeaders .uploadPartCopy) = .ok () := hsse
      simp [Passes, ObjectOperation.checks, hstreaming, hsse, hlock, hbody, hheaders, hhandler]
  | false =>
      obtain ⟨hvalid, h⟩ := andThen_eq_ok_iff.1 h
      obtain ⟨hfound, h⟩ := andThen_eq_ok_iff.1 h
      obtain ⟨hhandler, h⟩ := andThen_eq_ok_iff.1 h
      obtain rfl := pure_eq_ok_iff.1 h
      refine ⟨findS3MultipartUpload_eq_ok_iff.1 hfound, fun _ => hvalid, rfl,
        fun hstreaming hsse => ?_⟩
      have hsse : around.check (.sseHeaders .uploadPart) = .ok () := hsse
      simp [Passes, ObjectOperation.checks, hstreaming, hsse, hlock, hhandler]

theorem s3PutWhole_of_eq_ok {around : Surroundings} {uri : Uri} {isCopy : Bool}
    {operation : ObjectOperation} (h : around.s3PutWhole uri isCopy = .ok operation) :
    "versionId" ∉ uri.names ∧ operation = putWhole isCopy ∧
      (around.check .streamingAuthentication = .ok () →
        around.check (.sseHeaders (putContext isCopy false)) = .ok () →
        around.Passes operation) := by
  unfold s3PutWhole at h
  cases isCopy with
  | true =>
      obtain ⟨hlock, h⟩ := andThen_eq_ok_iff.1 h
      obtain ⟨hbody, h⟩ := andThen_eq_ok_iff.1 h
      obtain ⟨hheaders, h⟩ := andThen_eq_ok_iff.1 h
      obtain ⟨hkey, h⟩ := andThen_eq_ok_iff.1 h
      obtain ⟨hversion, h⟩ := andThen_eq_ok_iff.1 h
      obtain ⟨hhandler, h⟩ := andThen_eq_ok_iff.1 h
      obtain rfl := pure_eq_ok_iff.1 h
      refine ⟨rejectVersionIdFor_eq_ok_iff.1 hversion, rfl, fun hstreaming hsse => ?_⟩
      have hsse : around.check (.sseHeaders .copyObject) = .ok () := hsse
      simp [Passes, ObjectOperation.checks, hstreaming, hsse, hlock, hbody, hheaders, hkey,
        hhandler]
  | false =>
      obtain ⟨hkey, h⟩ := andThen_eq_ok_iff.1 h
      obtain ⟨hversion, h⟩ := andThen_eq_ok_iff.1 h
      obtain ⟨hhandler, h⟩ := andThen_eq_ok_iff.1 h
      obtain rfl := pure_eq_ok_iff.1 h
      refine ⟨rejectVersionIdFor_eq_ok_iff.1 hversion, rfl, fun hstreaming hsse => ?_⟩
      have hsse : around.check (.sseHeaders .putObject) = .ok () := hsse
      simp [Passes, ObjectOperation.checks, hstreaming, hsse, hkey, hhandler]

theorem putRuns_of_eq_ok {around : Surroundings} {uri : Uri} {headers : HeaderMap}
    {operation : ObjectOperation} (h : around.s3PutObject uri headers = .ok operation) :
    PutRuns around uri (headers.containsKey "x-amz-copy-source".toList) operation := by
  unfold s3PutObject at h
  obtain ⟨tagging, htagging, h⟩ := bind_eq_ok_iff.1 h
  cases tagging with
  | true =>
      obtain ⟨hlimit, h⟩ := andThen_eq_ok_iff.1 h
      obtain ⟨hauthentication, h⟩ := andThen_eq_ok_iff.1 h
      obtain ⟨hsse, h⟩ := andThen_eq_ok_iff.1 h
      obtain ⟨hkey, hversion, hhandler, rfl⟩ := versionHandler_eq_ok_iff.1 h
      refine .tagging htagging hversion ?_
      simp [Passes, ObjectOperation.checks, hlimit, hauthentication, hsse, hkey, hhandler]
  | false =>
      rw [if_neg (by decide)] at h
      obtain ⟨lockOperation, hlock, h⟩ := bind_eq_ok_iff.1 h
      cases lockOperation with
      | some lock =>
          obtain ⟨hlimit, h⟩ := andThen_eq_ok_iff.1 h
          obtain ⟨hauthentication, h⟩ := andThen_eq_ok_iff.1 h
          obtain ⟨hsse, h⟩ := andThen_eq_ok_iff.1 h
          unfold s3PutObjectVersionLock at h
          obtain ⟨hkey, h⟩ := andThen_eq_ok_iff.1 h
          obtain ⟨versionId, hversion, h⟩ := bind_eq_ok_iff.1 h
          obtain ⟨hbypass, h⟩ := andThen_eq_ok_iff.1 h
          obtain ⟨hhandler, h⟩ := andThen_eq_ok_iff.1 h
          obtain rfl := pure_eq_ok_iff.1 h
          refine .lock lock htagging hlock (parseS3VersionId_ok_iff.1 ⟨versionId, hversion⟩) ?_
          simp [Passes, ObjectOperation.checks, hlimit, hauthentication, hsse, hkey, hbypass,
            hhandler]
      | none =>
          replace h : around.s3PutStreamed uri (headers.containsKey "x-amz-copy-source".toList) =
              .ok operation := h
          unfold s3PutStreamed at h
          obtain ⟨hstreaming, h⟩ := andThen_eq_ok_iff.1 h
          obtain ⟨acl, hacl, h⟩ := bind_eq_ok_iff.1 h
          cases acl with
          | true =>
              obtain ⟨hsse, h⟩ := andThen_eq_ok_iff.1 h
              obtain ⟨hlimit, h⟩ := andThen_eq_ok_iff.1 h
              obtain ⟨hpayload, h⟩ := andThen_eq_ok_iff.1 h
              obtain ⟨hkey, hversion, hhandler, rfl⟩ := versionHandler_eq_ok_iff.1 h
              refine .acl htagging hlock (s3QueryFlag_eq_true_iff.1 hacl) hversion ?_
              simp [Passes, ObjectOperation.checks, hstreaming, hsse, hlimit, hpayload, hkey,
                hhandler]
          | false =>
              rw [if_neg (by decide)] at h
              have hacl := s3QueryFlag_eq_false_iff.1 hacl
              obtain ⟨uploadId, huploadId, h⟩ := bind_eq_ok_iff.1 h
              obtain ⟨partNumber, hpartNumber, h⟩ := bind_eq_ok_iff.1 h
              obtain ⟨hsse, h⟩ := andThen_eq_ok_iff.1 h
              split at h
              · next heither =>
                  rw [heither] at hsse
                  obtain ⟨id, text, number, rfl, rfl, hnumber, hversion, hfound, hvalid, rfl,
                    hpasses⟩ := s3PutPart_of_eq_ok h
                  exact .part id number htagging hlock hacl
                    (s3QueryValue_eq_some_iff.1 huploadId)
                    ⟨text, s3QueryValue_eq_some_iff.1 hpartNumber, hnumber⟩ hversion hfound hvalid
                    (hpasses hstreaming hsse)
              · next hneither =>
                  rw [Bool.eq_false_iff.2 hneither] at hsse
                  obtain ⟨hversion, rfl, hpasses⟩ := s3PutWhole_of_eq_ok h
                  simp only [Bool.or_eq_true, not_or, Option.not_isSome_iff_eq_none] at hneither
                  obtain ⟨rfl, rfl⟩ := hneither
                  exact .object htagging hlock hacl (s3QueryValue_eq_none_iff.1 huploadId)
                    (s3QueryValue_eq_none_iff.1 hpartNumber) hversion (hpasses hstreaming hsse)

theorem PutRuns.eq_ok {around : Surroundings} {uri : Uri} {headers : HeaderMap}
    {operation : ObjectOperation}
    (h : PutRuns around uri (headers.containsKey "x-amz-copy-source".toList) operation) :
    around.s3PutObject uri headers = .ok operation := by
  unfold s3PutObject
  cases h with
  | tagging htagging hversion hpasses =>
      obtain ⟨hlimit, hauthentication, hsse, hkey, hhandler⟩ := hpasses
      refine bind_eq_ok_iff.2 ⟨true, htagging, andThen_eq_ok_iff.2 ⟨hlimit, ?_⟩⟩
      refine andThen_eq_ok_iff.2 ⟨hauthentication, andThen_eq_ok_iff.2 ⟨hsse, ?_⟩⟩
      exact versionHandler_eq_ok_iff.2 ⟨hkey, hversion, hhandler, rfl⟩
  | lock lock htagging hlock hversion hpasses =>
      obtain ⟨hlimit, hauthentication, hsse, hkey, hbypass, hhandler⟩ := hpasses
      obtain ⟨versionId, hversion⟩ := parseS3VersionId_ok_iff.2 hversion
      refine bind_eq_ok_iff.2 ⟨false, htagging, bind_eq_ok_iff.2 ⟨some lock, hlock, ?_⟩⟩
      refine andThen_eq_ok_iff.2 ⟨hlimit, andThen_eq_ok_iff.2 ⟨hauthentication, ?_⟩⟩
      refine andThen_eq_ok_iff.2 ⟨hsse, andThen_eq_ok_iff.2 ⟨hkey, ?_⟩⟩
      refine bind_eq_ok_iff.2 ⟨versionId, hversion, andThen_eq_ok_iff.2 ⟨hbypass, ?_⟩⟩
      exact andThen_eq_ok_iff.2 ⟨hhandler, rfl⟩
  | acl htagging hlock hacl hversion hpasses =>
      obtain ⟨hstreaming, hsse, hlimit, hpayload, hkey, hhandler⟩ := hpasses
      refine bind_eq_ok_iff.2 ⟨false, htagging, bind_eq_ok_iff.2 ⟨none, hlock, ?_⟩⟩
      refine andThen_eq_ok_iff.2 ⟨hstreaming, ?_⟩
      refine bind_eq_ok_iff.2 ⟨true, s3QueryFlag_eq_true_iff.2 hacl, ?_⟩
      refine andThen_eq_ok_iff.2 ⟨hsse, andThen_eq_ok_iff.2 ⟨hlimit, ?_⟩⟩
      refine andThen_eq_ok_iff.2 ⟨hpayload, ?_⟩
      exact versionHandler_eq_ok_iff.2 ⟨hkey, hversion, hhandler, rfl⟩
  | part uploadId partNumber htagging hlock hacl huploadId hpart hversion hfound hvalid hpasses =>
      obtain ⟨text, htext, hnumber⟩ := hpart
      refine bind_eq_ok_iff.2 ⟨false, htagging, bind_eq_ok_iff.2 ⟨none, hlock, ?_⟩⟩
      have hfound := findS3MultipartUpload_eq_ok_iff.2 hfound
      generalize headers.containsKey "x-amz-copy-source".toList = isCopy at hvalid hpasses ⊢
      cases isCopy with
      | true =>
          obtain ⟨hstreaming, hsse, hheaders, hbody, hcopy, hhandler⟩ := hpasses
          refine andThen_eq_ok_iff.2 ⟨hstreaming, ?_⟩
          refine bind_eq_ok_iff.2 ⟨false, s3QueryFlag_eq_false_iff.2 hacl, ?_⟩
          refine bind_eq_ok_iff.2 ⟨some uploadId, s3QueryValue_eq_some_iff.2 huploadId, ?_⟩
          refine bind_eq_ok_iff.2 ⟨some text, s3QueryValue_eq_some_iff.2 htext, ?_⟩
          refine andThen_eq_ok_iff.2 ⟨hsse, andThen_eq_ok_iff.2 ⟨hheaders, ?_⟩⟩
          refine andThen_eq_ok_iff.2 ⟨rejectS3Versioning_eq_ok_iff.2 hversion, ?_⟩
          refine bind_eq_ok_iff.2 ⟨uploadId, rfl, bind_eq_ok_iff.2 ⟨text, rfl, ?_⟩⟩
          refine bind_eq_ok_iff.2 ⟨partNumber, hnumber, andThen_eq_ok_iff.2 ⟨hbody, ?_⟩⟩
          refine andThen_eq_ok_iff.2 ⟨hcopy, andThen_eq_ok_iff.2 ⟨hfound, ?_⟩⟩
          exact andThen_eq_ok_iff.2 ⟨hhandler, rfl⟩
      | false =>
          obtain ⟨hstreaming, hsse, hheaders, hhandler⟩ := hpasses
          refine andThen_eq_ok_iff.2 ⟨hstreaming, ?_⟩
          refine bind_eq_ok_iff.2 ⟨false, s3QueryFlag_eq_false_iff.2 hacl, ?_⟩
          refine bind_eq_ok_iff.2 ⟨some uploadId, s3QueryValue_eq_some_iff.2 huploadId, ?_⟩
          refine bind_eq_ok_iff.2 ⟨some text, s3QueryValue_eq_some_iff.2 htext, ?_⟩
          refine andThen_eq_ok_iff.2 ⟨hsse, andThen_eq_ok_iff.2 ⟨hheaders, ?_⟩⟩
          refine andThen_eq_ok_iff.2 ⟨rejectS3Versioning_eq_ok_iff.2 hversion, ?_⟩
          refine bind_eq_ok_iff.2 ⟨uploadId, rfl, bind_eq_ok_iff.2 ⟨text, rfl, ?_⟩⟩
          refine bind_eq_ok_iff.2 ⟨partNumber, hnumber, andThen_eq_ok_iff.2 ⟨hvalid rfl, ?_⟩⟩
          exact andThen_eq_ok_iff.2 ⟨hfound, andThen_eq_ok_iff.2 ⟨hhandler, rfl⟩⟩
  | object htagging hlock hacl huploadId hpart hversion hpasses =>
      refine bind_eq_ok_iff.2 ⟨false, htagging, bind_eq_ok_iff.2 ⟨none, hlock, ?_⟩⟩
      have hreject := fun name => (@rejectVersionIdFor_eq_ok_iff _ name _).2 hversion
      generalize headers.containsKey "x-amz-copy-source".toList = isCopy at hpasses ⊢
      cases isCopy with
      | true =>
          obtain ⟨hstreaming, hsse, hheaders, hbody, hcopy, hkey, hhandler⟩ := hpasses
          refine andThen_eq_ok_iff.2 ⟨hstreaming, ?_⟩
          refine bind_eq_ok_iff.2 ⟨false, s3QueryFlag_eq_false_iff.2 hacl, ?_⟩
          refine bind_eq_ok_iff.2 ⟨none, s3QueryValue_eq_none_iff.2 huploadId, ?_⟩
          refine bind_eq_ok_iff.2 ⟨none, s3QueryValue_eq_none_iff.2 hpart, ?_⟩
          refine andThen_eq_ok_iff.2 ⟨hsse, andThen_eq_ok_iff.2 ⟨hheaders, ?_⟩⟩
          refine andThen_eq_ok_iff.2 ⟨hbody, andThen_eq_ok_iff.2 ⟨hcopy, ?_⟩⟩
          refine andThen_eq_ok_iff.2 ⟨hkey, andThen_eq_ok_iff.2 ⟨hreject _, ?_⟩⟩
          exact andThen_eq_ok_iff.2 ⟨hhandler, rfl⟩
      | false =>
          obtain ⟨hstreaming, hsse, hkey, hhandler⟩ := hpasses
          refine andThen_eq_ok_iff.2 ⟨hstreaming, ?_⟩
          refine bind_eq_ok_iff.2 ⟨false, s3QueryFlag_eq_false_iff.2 hacl, ?_⟩
          refine bind_eq_ok_iff.2 ⟨none, s3QueryValue_eq_none_iff.2 huploadId, ?_⟩
          refine bind_eq_ok_iff.2 ⟨none, s3QueryValue_eq_none_iff.2 hpart, ?_⟩
          refine andThen_eq_ok_iff.2 ⟨hsse, andThen_eq_ok_iff.2 ⟨hkey, ?_⟩⟩
          exact andThen_eq_ok_iff.2 ⟨hreject _, andThen_eq_ok_iff.2 ⟨hhandler, rfl⟩⟩

inductive PostRuns (around : Surroundings) (uri : Uri) : ObjectOperation → Prop
  | create (hversion : "versionId" ∉ uri.names)
      (huploads : ∃ value, uri.values "uploads" = [value])
      (hpasses : around.Passes .createMultipartUpload) :
      PostRuns around uri .createMultipartUpload
  | complete (uploadId : Text) (hversion : "versionId" ∉ uri.names)
      (huploads : "uploads" ∉ uri.names) (huploadId : uri.values "uploadId" = [uploadId])
      (hfound : around.uploads uploadId)
      (hpasses : around.Passes (.completeMultipartUpload uploadId)) :
      PostRuns around uri (.completeMultipartUpload uploadId)

theorem postRuns_of_eq_ok {around : Surroundings} {uri : Uri} {operation : ObjectOperation}
    (h : around.s3PostObject uri = .ok operation) : PostRuns around uri operation := by
  unfold s3PostObject at h
  obtain ⟨hauthentication, h⟩ := andThen_eq_ok_iff.1 h
  obtain ⟨hversion, h⟩ := andThen_eq_ok_iff.1 h
  obtain ⟨uploads, huploads, h⟩ := bind_eq_ok_iff.1 h
  have hversion := rejectS3Versioning_eq_ok_iff.1 hversion
  cases uploads with
  | true =>
      obtain ⟨hsse, h⟩ := andThen_eq_ok_iff.1 h
      obtain ⟨hlock, h⟩ := andThen_eq_ok_iff.1 h
      obtain ⟨hkey, h⟩ := andThen_eq_ok_iff.1 h
      obtain ⟨hhandler, h⟩ := andThen_eq_ok_iff.1 h
      obtain rfl := pure_eq_ok_iff.1 h
      refine .create hversion (s3QueryFlag_eq_true_iff.1 huploads) ?_
      simp [Passes, ObjectOperation.checks, hauthentication, hsse, hlock, hkey, hhandler]
  | false =>
      rw [if_neg (by decide)] at h
      unfold s3PostUpload at h
      obtain ⟨uploadId, huploadId, h⟩ := bind_eq_ok_iff.1 h
      cases uploadId with
      | none => exact absurd (andThen_eq_ok_iff.1 h).2 (by simp)
      | some uploadId =>
          obtain ⟨hsse, h⟩ := andThen_eq_ok_iff.1 h
          obtain ⟨hlock, h⟩ := andThen_eq_ok_iff.1 h
          obtain ⟨hkey, h⟩ := andThen_eq_ok_iff.1 h
          obtain ⟨hfound, h⟩ := andThen_eq_ok_iff.1 h
          obtain ⟨hhandler, h⟩ := andThen_eq_ok_iff.1 h
          obtain rfl := pure_eq_ok_iff.1 h
          refine .complete uploadId hversion (s3QueryFlag_eq_false_iff.1 huploads)
            (s3QueryValue_eq_some_iff.1 huploadId) (findS3MultipartUpload_eq_ok_iff.1 hfound) ?_
          simp [Passes, ObjectOperation.checks, hauthentication, hsse, hlock, hkey, hhandler]

theorem PostRuns.eq_ok {around : Surroundings} {uri : Uri} {operation : ObjectOperation}
    (h : PostRuns around uri operation) : around.s3PostObject uri = .ok operation := by
  unfold s3PostObject
  cases h with
  | create hversion huploads hpasses =>
      obtain ⟨hauthentication, hsse, hlock, hkey, hhandler⟩ := hpasses
      refine andThen_eq_ok_iff.2 ⟨hauthentication, ?_⟩
      refine andThen_eq_ok_iff.2 ⟨rejectS3Versioning_eq_ok_iff.2 hversion, ?_⟩
      refine bind_eq_ok_iff.2 ⟨true, s3QueryFlag_eq_true_iff.2 huploads, ?_⟩
      refine andThen_eq_ok_iff.2 ⟨hsse, andThen_eq_ok_iff.2 ⟨hlock, ?_⟩⟩
      exact andThen_eq_ok_iff.2 ⟨hkey, andThen_eq_ok_iff.2 ⟨hhandler, rfl⟩⟩
  | complete uploadId hversion huploads huploadId hfound hpasses =>
      obtain ⟨hauthentication, hsse, hlock, hkey, hhandler⟩ := hpasses
      refine andThen_eq_ok_iff.2 ⟨hauthentication, ?_⟩
      refine andThen_eq_ok_iff.2 ⟨rejectS3Versioning_eq_ok_iff.2 hversion, ?_⟩
      refine bind_eq_ok_iff.2 ⟨false, s3QueryFlag_eq_false_iff.2 huploads, ?_⟩
      refine bind_eq_ok_iff.2 ⟨some uploadId, s3QueryValue_eq_some_iff.2 huploadId, ?_⟩
      refine andThen_eq_ok_iff.2 ⟨hsse, andThen_eq_ok_iff.2 ⟨hlock, ?_⟩⟩
      refine andThen_eq_ok_iff.2 ⟨hkey, ?_⟩
      refine andThen_eq_ok_iff.2 ⟨findS3MultipartUpload_eq_ok_iff.2 hfound, ?_⟩
      exact andThen_eq_ok_iff.2 ⟨hhandler, rfl⟩

end Surroundings

end MediaHub.Http
