import MediaHub.Http.BucketDispatch
import MediaHub.Http.ObjectRequest
import Mathlib.Data.List.Perm.Subperm

namespace MediaHub.Http

open MediaHub.Core
open Result

variable [FormDecoding]

omit [FormDecoding] in
theorem bucketTaggingStep_taggingSeen {scan scan' : BucketTaggingScan}
    {parameter : String × Text} (h : bucketTaggingStep scan parameter = .ok scan') :
    scan'.taggingSeen = (scan.taggingSeen || decide (parameter.1 = "tagging")) := by
  unfold bucketTaggingStep at h
  split at h
  · next htagging =>
      obtain ⟨_, h⟩ := ite_else_throw_eq_ok_iff.1 h
      rw [← pure_eq_ok_iff.1 h]
      simp [htagging]
  · next hne =>
      have hscan : scan'.taggingSeen = scan.taggingSeen := by
        split at h
        · rw [pure_eq_ok_iff.1 h]
        · rw [← pure_eq_ok_iff.1 h]
      rw [hscan]
      simp [hne]

theorem classifyS3BucketTagging_eq_ok {uri : Uri} {tagging : Bool}
    (h : classifyS3BucketTagging uri = .ok tagging) : tagging = uri.names.contains "tagging" := by
  unfold classifyS3BucketTagging at h
  obtain ⟨scan, hscan, h⟩ := bind_eq_ok_iff.1 h
  obtain ⟨_, h⟩ := ite_throw_eq_ok_iff.1 h
  rw [← pure_eq_ok_iff.1 h]
  have hfold : ∀ (parameters : List (String × Text)) (start : BucketTaggingScan),
      parameters.foldlM bucketTaggingStep start = .ok scan →
      scan.taggingSeen = (start.taggingSeen || (parameters.map Prod.fst).contains "tagging") := by
    intro parameters
    induction parameters with
    | nil =>
        intro start hnil
        rw [List.foldlM_nil, pure_eq_ok_iff] at hnil
        simp [hnil]
    | cons parameter parameters ih =>
        intro start hcons
        rw [List.foldlM_cons] at hcons
        obtain ⟨next, hnext, hcons⟩ := bind_eq_ok_iff.1 hcons
        rw [ih next hcons, bucketTaggingStep_taggingSeen hnext, Bool.or_assoc, List.map_cons,
          List.contains_cons]
        congr 2
        rw [Bool.eq_iff_iff, decide_eq_true_iff, beq_iff_eq, eq_comm]
  rw [hfold _ _ hscan]
  rfl

/-- Where at most one name of a list occurs, one that occurs is the only one. -/
theorem namesOnly_of_count {uri : Uri} {subresources : List String}
    (hcount : ¬ 1 < (subresources.map uri.names.contains).count true) {asked : String}
    (hmem : asked ∈ subresources) (hasked : uri.names.contains asked) :
    NamesOnly uri subresources (some asked) := by
  have hasked : asked ∈ uri.names := by simpa using hasked
  intro name hname
  rw [Option.some.injEq]
  constructor
  · intro hnamed
    by_contra hne
    apply hcount
    have hsub : [asked, name].Subperm
      (subresources.filter fun name => uri.names.contains name) := by
      refine List.subperm_of_subset (List.nodup_cons.2 ⟨by simpa using hne, by simp⟩) ?_
      intro other hother
      simp only [List.mem_cons, List.not_mem_nil, or_false] at hother
      rcases hother with rfl | rfl
      · simp [hmem, hasked]
      · simp [hname, hnamed]
    have hlength := hsub.length_le
    rw [List.count_eq_countP, List.countP_map, List.countP_eq_length_filter]
    simp only [Function.comp_def, beq_true]
    exact hlength
  · rintro rfl
    exact hasked

theorem namesOnly_none {uri : Uri} {subresources : List String}
    (h : ∀ name ∈ subresources, uri.names.contains name = false) :
    NamesOnly uri subresources none := by
  intro name hname
  exact iff_of_false (by simpa using h name hname) (by simp)

/-- A request on a bucket whose query holds known names only runs what it names, or fails. -/
def BucketFaithful (method : BucketMethod) (uri : Uri) : Prop :=
  ∀ (around : BucketSurroundings) (operation : BucketOperation),
    around.dispatchBucket method uri = .ok operation →
    operation.answers.1 = method ∧
      (∀ name ∈ uri.names, name ∈ bucketParameters method ∨ isTransportName name) ∧
      NamesOnly uri (bucketSubresources method) operation.answers.2

theorem readConfigurationFlags_eq_ok {uri : Uri} {flags : ConfigurationFlags}
    (h : readConfigurationFlags uri = .ok flags) :
    flags =
      { versioning := uri.names.contains "versioning"
        lifecycle := uri.names.contains "lifecycle"
        cors := uri.names.contains "cors"
        tagging := uri.names.contains "tagging"
        encryption := uri.names.contains "encryption"
        notification := uri.names.contains "notification"
        objectLock := uri.names.contains "object-lock"
        policy := uri.names.contains "policy" } ∧
      ¬ 1 < ((bucketSubresources .put).map uri.names.contains).count true := by
  unfold readConfigurationFlags at h
  obtain ⟨versioning, hversioning, h⟩ := bind_eq_ok_iff.1 h
  obtain ⟨lifecycle, hlifecycle, h⟩ := bind_eq_ok_iff.1 h
  obtain ⟨cors, hcors, h⟩ := bind_eq_ok_iff.1 h
  obtain ⟨tagging, htagging, h⟩ := bind_eq_ok_iff.1 h
  obtain ⟨encryption, hencryption, h⟩ := bind_eq_ok_iff.1 h
  obtain ⟨notification, hnotification, h⟩ := bind_eq_ok_iff.1 h
  obtain ⟨objectLock, hobjectLock, h⟩ := bind_eq_ok_iff.1 h
  obtain ⟨policy, hpolicy, h⟩ := bind_eq_ok_iff.1 h
  obtain ⟨hcount, h⟩ := ite_throw_eq_ok_iff.1 h
  rw [s3QueryFlag_eq_ok hversioning, s3QueryFlag_eq_ok hlifecycle, s3QueryFlag_eq_ok hcors,
    classifyS3BucketTagging_eq_ok htagging, s3QueryFlag_eq_ok hencryption,
    s3QueryFlag_eq_ok hnotification, s3QueryFlag_eq_ok hobjectLock, s3QueryFlag_eq_ok hpolicy]
    at hcount h
  exact ⟨(pure_eq_ok_iff.1 h).symm, hcount⟩

theorem classifyS3BucketPut_names {uri : Uri} {operation : S3BucketPutOperation}
    (h : classifyS3BucketPut uri = .ok operation) :
    (∃ name, operation = .unsupported name) ∨
      (∀ name ∈ uri.names, name ∈ bucketParameters .put ∨ isTransportName name) ∧
        NamesOnly uri (bucketSubresources .put) (BucketOperation.put operation).answers.2 := by
  unfold classifyS3BucketPut at h
  obtain ⟨flags, hflags, h⟩ := bind_eq_ok_iff.1 h
  obtain ⟨rfl, hcount⟩ := readConfigurationFlags_eq_ok hflags
  split at h
  · next name _ => exact .inl ⟨name, (pure_eq_ok_iff.1 h).symm⟩
  · next hknown =>
      refine .inr ⟨firstUnsupportedS3QueryParameter_eq_none_iff.1 hknown, ?_⟩
      rw [pure_eq_ok_iff] at h
      rcases ite_eq_iff.1 h with ⟨hnamed, rfl⟩ | ⟨hpolicy, h⟩
      · exact namesOnly_of_count hcount (by decide) hnamed
      rcases ite_eq_iff.1 h with ⟨hnamed, rfl⟩ | ⟨hversioning, h⟩
      · exact namesOnly_of_count hcount (by decide) hnamed
      rcases ite_eq_iff.1 h with ⟨hnamed, rfl⟩ | ⟨hlifecycle, h⟩
      · exact namesOnly_of_count hcount (by decide) hnamed
      rcases ite_eq_iff.1 h with ⟨hnamed, rfl⟩ | ⟨hcors, h⟩
      · exact namesOnly_of_count hcount (by decide) hnamed
      rcases ite_eq_iff.1 h with ⟨hnamed, rfl⟩ | ⟨htagging, h⟩
      · exact namesOnly_of_count hcount (by decide) hnamed
      rcases ite_eq_iff.1 h with ⟨hnamed, rfl⟩ | ⟨hencryption, h⟩
      · exact namesOnly_of_count hcount (by decide) hnamed
      rcases ite_eq_iff.1 h with ⟨hnamed, rfl⟩ | ⟨hnotification, h⟩
      · exact namesOnly_of_count hcount (by decide) hnamed
      rcases ite_eq_iff.1 h with ⟨hnamed, rfl⟩ | ⟨hobjectLock, h⟩
      · exact namesOnly_of_count hcount (by decide) hnamed
      subst h
      refine namesOnly_none ?_
      simp only [bucketSubresources, List.forall_mem_cons, List.not_mem_nil, false_implies,
        implies_true, and_true]
      exact ⟨Bool.eq_false_iff.2 hversioning, Bool.eq_false_iff.2 hlifecycle,
        Bool.eq_false_iff.2 hcors, Bool.eq_false_iff.2 htagging,
        Bool.eq_false_iff.2 hencryption, Bool.eq_false_iff.2 hnotification,
        Bool.eq_false_iff.2 hobjectLock, Bool.eq_false_iff.2 hpolicy⟩

theorem classifyS3BucketDelete_names {uri : Uri} {operation : S3BucketDeleteOperation}
    (h : classifyS3BucketDelete uri = .ok operation) :
    (∃ name, operation = .unsupported name) ∨
      (∀ name ∈ uri.names, name ∈ bucketParameters .delete ∨ isTransportName name) ∧
        NamesOnly uri (bucketSubresources .delete)
          (BucketOperation.delete operation).answers.2 := by
  unfold classifyS3BucketDelete at h
  obtain ⟨flags, hflags, h⟩ := bind_eq_ok_iff.1 h
  obtain ⟨rfl, hcount⟩ := readConfigurationFlags_eq_ok hflags
  obtain ⟨hversioning, h⟩ := ite_throw_eq_ok_iff.1 h
  obtain ⟨hobjectLock, h⟩ := ite_throw_eq_ok_iff.1 h
  split at h
  · next name _ => exact .inl ⟨name, (pure_eq_ok_iff.1 h).symm⟩
  · next hknown =>
      refine .inr ⟨firstUnsupportedS3QueryParameter_eq_none_iff.1 hknown, ?_⟩
      rw [pure_eq_ok_iff] at h
      rcases ite_eq_iff.1 h with ⟨hnamed, rfl⟩ | ⟨hpolicy, h⟩
      · exact namesOnly_of_count hcount (by decide) hnamed
      rcases ite_eq_iff.1 h with ⟨hnamed, rfl⟩ | ⟨hlifecycle, h⟩
      · exact namesOnly_of_count hcount (by decide) hnamed
      rcases ite_eq_iff.1 h with ⟨hnamed, rfl⟩ | ⟨hcors, h⟩
      · exact namesOnly_of_count hcount (by decide) hnamed
      rcases ite_eq_iff.1 h with ⟨hnamed, rfl⟩ | ⟨htagging, h⟩
      · exact namesOnly_of_count hcount (by decide) hnamed
      rcases ite_eq_iff.1 h with ⟨hnamed, rfl⟩ | ⟨hencryption, h⟩
      · exact namesOnly_of_count hcount (by decide) hnamed
      rcases ite_eq_iff.1 h with ⟨hnamed, rfl⟩ | ⟨hnotification, h⟩
      · exact namesOnly_of_count hcount (by decide) hnamed
      subst h
      refine namesOnly_none ?_
      simp only [bucketSubresources, List.forall_mem_cons, List.not_mem_nil, false_implies,
        implies_true, and_true]
      exact ⟨Bool.eq_false_iff.2 hversioning, Bool.eq_false_iff.2 hlifecycle,
        Bool.eq_false_iff.2 hcors, Bool.eq_false_iff.2 htagging,
        Bool.eq_false_iff.2 hencryption, Bool.eq_false_iff.2 hnotification,
        Bool.eq_false_iff.2 hobjectLock, Bool.eq_false_iff.2 hpolicy⟩

theorem classifyS3BucketGet_names {uri : Uri} {operation : S3BucketGetOperation}
    (h : classifyS3BucketGet uri = .ok operation) :
    (∃ name, operation = .unsupported name) ∨
      (∀ name ∈ uri.names, name ∈ bucketParameters .get ∨ isTransportName name) ∧
        NamesOnly uri (bucketSubresources .get) (BucketOperation.get operation).answers.2 := by
  unfold classifyS3BucketGet at h
  obtain ⟨location, hlocation, h⟩ := bind_eq_ok_iff.1 h
  obtain ⟨versioning, hversioning, h⟩ := bind_eq_ok_iff.1 h
  obtain ⟨lifecycle, hlifecycle, h⟩ := bind_eq_ok_iff.1 h
  obtain ⟨cors, hcors, h⟩ := bind_eq_ok_iff.1 h
  obtain ⟨tagging, htagging, h⟩ := bind_eq_ok_iff.1 h
  obtain ⟨encryption, hencryption, h⟩ := bind_eq_ok_iff.1 h
  obtain ⟨notification, hnotification, h⟩ := bind_eq_ok_iff.1 h
  obtain ⟨objectLock, hobjectLock, h⟩ := bind_eq_ok_iff.1 h
  obtain ⟨versions, hversions, h⟩ := bind_eq_ok_iff.1 h
  obtain ⟨uploads, huploads, h⟩ := bind_eq_ok_iff.1 h
  obtain ⟨policy, hpolicy, h⟩ := bind_eq_ok_iff.1 h
  obtain ⟨policyStatus, hpolicyStatus, h⟩ := bind_eq_ok_iff.1 h
  obtain ⟨hcount, h⟩ := ite_throw_eq_ok_iff.1 h
  obtain ⟨_, h⟩ := andThen_eq_ok_iff.1 h
  have h := pure_eq_ok_iff.1 h
  obtain rfl := s3QueryFlag_eq_ok hlocation
  obtain rfl := s3QueryFlag_eq_ok hversioning
  obtain rfl := s3QueryFlag_eq_ok hlifecycle
  obtain rfl := s3QueryFlag_eq_ok hcors
  obtain rfl := classifyS3BucketTagging_eq_ok htagging
  obtain rfl := s3QueryFlag_eq_ok hencryption
  obtain rfl := s3QueryFlag_eq_ok hnotification
  obtain rfl := s3QueryFlag_eq_ok hobjectLock
  obtain rfl := s3QueryFlag_eq_ok hversions
  obtain rfl := s3QueryFlag_eq_ok huploads
  obtain rfl := s3QueryFlag_eq_ok hpolicy
  obtain rfl := s3QueryFlag_eq_ok hpolicyStatus
  have hcount : ¬ 1 < ((bucketSubresources .get).map uri.names.contains).count true := hcount
  split at h
  · next name _ => exact .inl ⟨name, h.symm⟩
  · next hknown =>
      refine .inr ⟨firstUnsupportedS3QueryParameter_eq_none_iff.1 hknown, ?_⟩
      rcases ite_eq_iff.1 h with ⟨hnamed, rfl⟩ | ⟨hpolicy, h⟩
      · exact namesOnly_of_count hcount (by decide) hnamed
      rcases ite_eq_iff.1 h with ⟨hnamed, rfl⟩ | ⟨hstatus, h⟩
      · exact namesOnly_of_count hcount (by decide) hnamed
      rcases ite_eq_iff.1 h with ⟨hnamed, rfl⟩ | ⟨hlocation, h⟩
      · exact namesOnly_of_count hcount (by decide) hnamed
      rcases ite_eq_iff.1 h with ⟨hnamed, rfl⟩ | ⟨hversioning, h⟩
      · exact namesOnly_of_count hcount (by decide) hnamed
      rcases ite_eq_iff.1 h with ⟨hnamed, rfl⟩ | ⟨hlifecycle, h⟩
      · exact namesOnly_of_count hcount (by decide) hnamed
      rcases ite_eq_iff.1 h with ⟨hnamed, rfl⟩ | ⟨hcors, h⟩
      · exact namesOnly_of_count hcount (by decide) hnamed
      rcases ite_eq_iff.1 h with ⟨hnamed, rfl⟩ | ⟨htagging, h⟩
      · exact namesOnly_of_count hcount (by decide) hnamed
      rcases ite_eq_iff.1 h with ⟨hnamed, rfl⟩ | ⟨hencryption, h⟩
      · exact namesOnly_of_count hcount (by decide) hnamed
      rcases ite_eq_iff.1 h with ⟨hnamed, rfl⟩ | ⟨hnotification, h⟩
      · exact namesOnly_of_count hcount (by decide) hnamed
      rcases ite_eq_iff.1 h with ⟨hnamed, rfl⟩ | ⟨hobjectLock, h⟩
      · exact namesOnly_of_count hcount (by decide) hnamed
      rcases ite_eq_iff.1 h with ⟨hnamed, rfl⟩ | ⟨hversions, h⟩
      · exact namesOnly_of_count hcount (by decide) hnamed
      rcases ite_eq_iff.1 h with ⟨hnamed, rfl⟩ | ⟨huploads, h⟩
      · exact namesOnly_of_count hcount (by decide) hnamed
      subst h
      refine namesOnly_none ?_
      simp only [bucketSubresources, List.forall_mem_cons, List.not_mem_nil, false_implies,
        implies_true, and_true]
      exact ⟨Bool.eq_false_iff.2 hlocation, Bool.eq_false_iff.2 hversioning,
        Bool.eq_false_iff.2 hlifecycle, Bool.eq_false_iff.2 hcors,
        Bool.eq_false_iff.2 htagging, Bool.eq_false_iff.2 hencryption,
        Bool.eq_false_iff.2 hnotification, Bool.eq_false_iff.2 hobjectLock,
        Bool.eq_false_iff.2 hversions, Bool.eq_false_iff.2 huploads,
        Bool.eq_false_iff.2 hpolicy, Bool.eq_false_iff.2 hstatus⟩

/-- What runs is the operation of the classification, and a known one. -/
theorem dispatchBucket_operation {around : BucketSurroundings} {method : BucketMethod} {uri : Uri}
    {operation : BucketOperation} (h : around.dispatchBucket method uri = .ok operation) :
    match method with
    | .get => ∃ get, operation = .get get ∧ classifyS3BucketGet uri = .ok get ∧
        ∀ name, get ≠ .unsupported name
    | .put => ∃ put, operation = .put put ∧ classifyS3BucketPut uri = .ok put ∧
        ∀ name, put ≠ .unsupported name
    | .delete => ∃ delete, operation = .delete delete ∧ classifyS3BucketDelete uri = .ok delete ∧
        ∀ name, delete ≠ .unsupported name := by
  cases method with
  | get =>
      obtain ⟨get, hget, h⟩ := bind_eq_ok_iff.1 h
      cases get with
      | getEncryption | getNotification | unsupported name => exact absurd h (by simp)
      | _ =>
          obtain ⟨_, h⟩ := andThen_eq_ok_iff.1 h
          exact ⟨_, (pure_eq_ok_iff.1 h).symm, hget, by simp⟩
  | put =>
      obtain ⟨put, hput, h⟩ := bind_eq_ok_iff.1 h
      cases put with
      | putEncryption | putNotification | unsupported name =>
          exact absurd (andThen_eq_ok_iff.1 h).2 (by simp)
      | putPolicy =>
          obtain ⟨_, h⟩ := andThen_eq_ok_iff.1 h
          exact ⟨_, (pure_eq_ok_iff.1 h).symm, hput, by simp⟩
      | _ =>
          obtain ⟨_, h⟩ := andThen_eq_ok_iff.1 h
          obtain ⟨_, h⟩ := andThen_eq_ok_iff.1 h
          exact ⟨_, (pure_eq_ok_iff.1 h).symm, hput, by simp⟩
  | delete =>
      obtain ⟨delete, hdelete, h⟩ := bind_eq_ok_iff.1 h
      cases delete with
      | encryption | notification | unsupported name => exact absurd h (by simp)
      | _ =>
          obtain ⟨_, h⟩ := andThen_eq_ok_iff.1 h
          exact ⟨_, (pure_eq_ok_iff.1 h).symm, hdelete, by simp⟩

theorem bucketFaithful (method : BucketMethod) (uri : Uri) : BucketFaithful method uri := by
  intro around operation h
  have hoperation := dispatchBucket_operation h
  cases method with
  | get =>
      obtain ⟨get, rfl, hclassify, hknown⟩ := hoperation
      rcases classifyS3BucketGet_names hclassify with ⟨name, hname⟩ | hnames
      · exact absurd hname (hknown name)
      · exact ⟨by cases get <;> rfl, hnames⟩
  | put =>
      obtain ⟨put, rfl, hclassify, hknown⟩ := hoperation
      rcases classifyS3BucketPut_names hclassify with ⟨name, hname⟩ | hnames
      · exact absurd hname (hknown name)
      · exact ⟨by cases put <;> rfl, hnames⟩
  | delete =>
      obtain ⟨delete, rfl, hclassify, hknown⟩ := hoperation
      rcases classifyS3BucketDelete_names hclassify with ⟨name, hname⟩ | hnames
      · exact absurd hname (hknown name)
      · exact ⟨by cases delete <;> rfl, hnames⟩

section Requests

variable [PathDecoding] [Calendar] [Signing] [PayloadDigest]

/-- A request as the router sorts it. -/
inductive S3Request where
  | object (request : ObjectRequest)
  | bucket (method : BucketMethod) (uri : Uri)

/-- No subresource is mistaken for its object or bucket. -/
def DispatchFaithful (server : Server) : S3Request → Prop
  | .object request => ObjectFaithful (request.surroundings server) request.uri request.method
      request.headers
  | .bucket method uri => BucketFaithful method uri

/-- A request on an object whose query names a subresource that its handler does not look for, and
that the server admits to another operation. -/
def Overlooks (server : Server) : S3Request → Prop
  | .object request => OverlooksObject (request.surroundings server) request.uri request.method
      request.headers
  | .bucket _ _ => False

end Requests

omit [FormDecoding]

/-- The decoding of paths without percent signs. -/
abbrev plainPath : PathDecoding := ⟨some⟩

/-- The digest of an empty body. -/
abbrev emptyDigest : PayloadDigest :=
  ⟨fun _ => "e3b0c44298fc1c149afbf4c8996fb92427ae41e4649b934ca495991b7852b855".toList⟩

def retentionSignature : Text :=
  "2358518def1a83e7bd06be9d669e484cda5a1a144c2bb78c465b6e50dc7c625c".toList

/-- The signature of the DELETE under the secret of the key. -/
abbrev retentionSigning : Signing := ⟨fun _ _ => some retentionSignature⟩

theorem photosKey_no_question_mark : '?' ∉ "/photos/key".toList := by
  decide

def retentionUri : Uri where
  scheme := none
  authority := none
  path := "/photos/key".toList
  query := some "retention".toList
  path_no_question_mark := photosKey_no_question_mark

/-- A signed DELETE of the retention of an object. -/
def deleteRetention : @ObjectRequest plainPath :=
  @ObjectRequest.mk plainPath .delete retentionUri
    [("authorization".toList, HeaderValue.ofText
        (algorithm ++ " Credential=".toList ++ sampleCredential ++
          ", SignedHeaders=host;x-amz-date, Signature=".toList ++ retentionSignature)),
      ("host".toList, HeaderValue.ofText "localhost".toList),
      ("x-amz-date".toList, HeaderValue.ofText sampleDate)]
    [] "photos".toList "key".toList rfl

/-- A server that knows the key and deletes the object. -/
def photoServer : Server where
  now := Time.seconds 1767323045
  findSecret _ := .ok "mediahub-sub2api-secret".toList
  uploads _ := false
  handle _ := .ok ()

end MediaHub.Http
