import MediaHub.Http.Request
import MediaHub.Text.Result

/-!
The parameters of a request as the handlers read them. The resource and the request id of an error
are those of the request, and left out.
-/

namespace MediaHub.Http

open MediaHub.Core
open Result
open Text (isAsciiControl)

structure S3ApiError where
  status : Nat
  code : String
  message : String
deriving DecidableEq

namespace S3ApiError

def invalidArgument (message : String) : S3ApiError :=
  { status := 400, code := "InvalidArgument", message := message }

def invalidRequest (message : String) : S3ApiError :=
  { status := 400, code := "InvalidRequest", message := message }

def malformedXml : S3ApiError :=
  { status := 400, code := "MalformedXML"
    message := "The XML you provided was not well-formed or did not validate against our " ++
      "published schema." }

def methodNotAllowed (message : String) : S3ApiError :=
  { status := 405, code := "MethodNotAllowed", message := message }

def notImplemented (message : String) : S3ApiError :=
  { status := 501, code := "NotImplemented", message := message }

def invalidRange : S3ApiError :=
  { status := 416, code := "InvalidRange", message := "The requested range is not satisfiable." }

def noSuchUpload : S3ApiError :=
  { status := 404, code := "NoSuchUpload"
    message := "The specified multipart upload does not exist." }

def serviceUnavailable : S3ApiError :=
  { status := 503, code := "ServiceUnavailable", message := "Please reduce your request rate." }

end S3ApiError

def validS3ObjectKey (key : Text) : Bool :=
  key ≠ [] && Utf8.byteLength key ≤ 1024 && !key.contains '\x00'

def validateS3ObjectKey (objectKey : Text) : Except S3ApiError Unit :=
  rejectIf (validS3ObjectKey objectKey = false) (.invalidArgument "The object key is invalid.")

def optionalSingleS3Header (headers : HeaderMap) (name : String) :
    Except S3ApiError (Option Text) :=
  match headers.getAll name.toList with
  | [] => .ok none
  | [value] =>
      match value.toStr with
      | none => .error (.invalidArgument (name ++ " is invalid."))
      | some value => .ok (some value)
  | _ => .error (.invalidArgument (name ++ " must not occur more than once."))

section Parameters

variable [FormDecoding]

namespace Uri

def parameters (uri : Uri) : List (String × Text) :=
  uri.queryPairs.map fun pair => (String.ofList pair.1, pair.2)

def names (uri : Uri) : List String := uri.parameters.map Prod.fst

/-- The values of the parameters of one name. -/
def values (uri : Uri) (name : String) : List Text :=
  uri.parameters.filterMap fun parameter => if parameter.1 = name then some parameter.2 else none

end Uri

def s3QueryValue (uri : Uri) (name : String) : Except S3ApiError (Option Text) :=
  match uri.values name with
  | [] => pure none
  | [value] => pure (some value)
  | _ => throw (.invalidArgument ("Query parameter " ++ name ++ " must not occur more than once."))

def s3QueryFlag (uri : Uri) (name : String) : Except S3ApiError Bool := do
  let value ← s3QueryValue uri name
  pure value.isSome

/-- The parameters that come with a signature or an SDK. -/
def isTransportName (name : String) : Bool :=
  "X-Amz-".toList.isPrefixOf name.toList || name = "x-id"

def firstUnsupportedS3QueryParameter (uri : Uri) (allowed : List String) : Option String :=
  uri.names.find? fun name => !allowed.contains name && !isTransportName name

def rejectS3Versioning (uri : Uri) : Except S3ApiError Unit := do
  let versionId ← s3QueryValue uri "versionId"
  if versionId.isSome then
    throw (.notImplemented "Object Versioning is not supported.")
  else pure ()

/-- What a version id must look like. -/
def validVersionId (value : Text) : Bool :=
  !value.isEmpty && Utf8.byteLength value ≤ 1024 && !value.any isAsciiControl

def parseS3VersionId (uri : Uri) : Except S3ApiError (Option Text) := do
  let versionId ← s3QueryValue uri "versionId"
  match versionId with
  | none => pure none
  | some value =>
      if validVersionId value then pure (some value)
      else throw (.invalidArgument "versionId is invalid.")

theorem Uri.mem_names_iff {uri : Uri} {name : String} :
    name ∈ uri.names ↔ uri.values name ≠ [] := by
  unfold Uri.names Uri.values
  induction uri.parameters with
  | nil => simp
  | cons parameter parameters ih =>
      rw [List.map_cons, List.mem_cons, List.filterMap_cons]
      by_cases h : parameter.1 = name
      · simp [h]
      · rw [if_neg h, ih]
        simp [Ne.symm h]

theorem Uri.notMem_names_iff {uri : Uri} {name : String} :
    name ∉ uri.names ↔ uri.values name = [] := by
  rw [Uri.mem_names_iff, not_not]

theorem s3QueryValue_eq_none_iff {uri : Uri} {name : String} :
    s3QueryValue uri name = .ok none ↔ name ∉ uri.names := by
  rw [Uri.notMem_names_iff]
  unfold s3QueryValue
  split
  · next h => simp [h]
  · next h => simp [h]
  · next hnil _ => exact iff_of_false (by simp) hnil

theorem s3QueryValue_eq_some_iff {uri : Uri} {name : String} {value : Text} :
    s3QueryValue uri name = .ok (some value) ↔ uri.values name = [value] := by
  unfold s3QueryValue
  split <;> simp_all

theorem s3QueryFlag_eq_false_iff {uri : Uri} {name : String} :
    s3QueryFlag uri name = .ok false ↔ name ∉ uri.names := by
  unfold s3QueryFlag
  rw [← s3QueryValue_eq_none_iff, bind_eq_ok_iff]
  constructor
  · rintro ⟨value, hvalue, h⟩
    rw [pure_eq_ok_iff, Option.isSome_eq_false_iff, Option.isNone_iff_eq_none] at h
    rwa [h] at hvalue
  · intro h
    exact ⟨none, h, rfl⟩

theorem s3QueryFlag_eq_true_iff {uri : Uri} {name : String} :
    s3QueryFlag uri name = .ok true ↔ ∃ value, uri.values name = [value] := by
  unfold s3QueryFlag
  rw [bind_eq_ok_iff]
  constructor
  · rintro ⟨value, hvalue, h⟩
    rw [pure_eq_ok_iff] at h
    obtain ⟨text, rfl⟩ := Option.isSome_iff_exists.1 h
    exact ⟨text, s3QueryValue_eq_some_iff.1 hvalue⟩
  · rintro ⟨value, h⟩
    exact ⟨some value, s3QueryValue_eq_some_iff.2 h, rfl⟩

/-- A flag that is read says whether its name occurs. -/
theorem s3QueryFlag_eq_ok {uri : Uri} {name : String} {flag : Bool}
    (h : s3QueryFlag uri name = .ok flag) : flag = uri.names.contains name := by
  cases flag with
  | false =>
      have hnot := s3QueryFlag_eq_false_iff.1 h
      simpa using hnot
  | true =>
      obtain ⟨value, hvalue⟩ := s3QueryFlag_eq_true_iff.1 h
      have hmem : name ∈ uri.names := Uri.mem_names_iff.2 (by simp [hvalue])
      simpa using hmem

theorem rejectS3Versioning_eq_ok_iff {uri : Uri} :
    rejectS3Versioning uri = .ok () ↔ "versionId" ∉ uri.names := by
  unfold rejectS3Versioning
  rw [← s3QueryValue_eq_none_iff, bind_eq_ok_iff]
  constructor
  · rintro ⟨versionId, hversion, h⟩
    have hnone := (ite_throw_eq_ok_iff.1 h).1
    rw [Bool.not_eq_true, Option.isSome_eq_false_iff, Option.isNone_iff_eq_none] at hnone
    rwa [hnone] at hversion
  · intro h
    exact ⟨none, h, rfl⟩

/-- The version id of a request, where there is one, is a valid one and occurs once. -/
def ValidVersion (uri : Uri) : Prop :=
  "versionId" ∉ uri.names ∨ ∃ value, uri.values "versionId" = [value] ∧ validVersionId value

theorem parseS3VersionId_ok_iff {uri : Uri} :
    (∃ versionId, parseS3VersionId uri = .ok versionId) ↔ ValidVersion uri := by
  unfold parseS3VersionId ValidVersion
  simp only [bind_eq_ok_iff]
  constructor
  · rintro ⟨versionId, found, hfound, h⟩
    cases found with
    | none => exact .inl (s3QueryValue_eq_none_iff.1 hfound)
    | some value =>
        exact .inr ⟨value, s3QueryValue_eq_some_iff.1 hfound, (ite_else_throw_eq_ok_iff.1 h).1⟩
  · rintro (h | ⟨value, hvalue, hvalid⟩)
    · exact ⟨none, none, s3QueryValue_eq_none_iff.2 h, rfl⟩
    · exact ⟨some value, some value, s3QueryValue_eq_some_iff.2 hvalue,
        ite_else_throw_eq_ok_iff.2 ⟨hvalid, rfl⟩⟩

theorem firstUnsupportedS3QueryParameter_eq_none_iff {uri : Uri} {allowed : List String} :
    firstUnsupportedS3QueryParameter uri allowed = none ↔
      ∀ name ∈ uri.names, name ∈ allowed ∨ isTransportName name := by
  unfold firstUnsupportedS3QueryParameter
  rw [List.find?_eq_none]
  refine forall₂_congr ?_
  intro name _
  simp only [Bool.and_eq_true, Bool.not_eq_true', not_and_or, Bool.not_eq_false,
    List.contains_iff_mem]

end Parameters

end MediaHub.Http
