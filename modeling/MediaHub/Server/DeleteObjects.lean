import MediaHub.Server.BatchDelete

namespace MediaHub.Server

open Relational Result
open MediaHub.Core
open MediaHub.Http
open MediaHub.Store
open MediaHub.Policy (S3BucketIdentity S3BucketPolicySnapshot S3DataAuthorizationInput)
open DeleteResultOf (deletedObject pushError)

/-- What is looked up to authorize the action is found. -/
def LooksUp [Json.Parser] (auth : ApplicationAuth) (input : S3DataAuthorizationInput)
    (answers : AuthorizationAnswers) : Prop :=
  match loadS3SignedPolicyPrincipal auth input answers.identityPolicy with
  | .error _ => False
  | .ok .failClosed => ∃ bucket, answers.bucketIdentity = .ok (some bucket)
  | .ok (.principal _) =>
      ∃ snapshot, answers.bucketPolicy = .ok (some snapshot) ∧
        snapshot.identity.bucketName = input.bucketName

/-- A request is allowed or denied; any other end is an error of the lookups. -/
inductive Authorization (input : S3DataAuthorizationInput) :
    Except S3ApiError S3BucketIdentity → Prop
  | allowed (bucket : S3BucketIdentity)
      (hkey : ∀ key, input.action.scope = .object → input.objectKey = some key →
        key ≠ [] ∧ Utf8.byteLength key ≤ 1024) : Authorization input (.ok bucket)
  | denied : Authorization input (.error (.accessDenied "Access Denied."))

def Fails (outcome : Except S3ApiError S3BucketIdentity) : Prop :=
  ∃ error, outcome = .error error ∧ error.code ≠ "AccessDenied".toList

theorem fails_noSuchBucket : Fails (.error .noSuchBucket) := ⟨_, rfl, by decide⟩

theorem fails_serviceUnavailable : Fails (.error .serviceUnavailable) := ⟨_, rfl, by decide⟩

theorem key_of_requestIsWellFormed {request : Policy.S3AuthorizationRequest} {key : Text}
    (h : Policy.requestIsWellFormed request = true) (hscope : request.action.scope = .object)
    (hkey : request.objectKey = some key) : key ≠ [] ∧ Utf8.byteLength key ≤ 1024 := by
  simp only [Policy.requestIsWellFormed, hscope, hkey, Bool.and_eq_true, decide_eq_true_eq] at h
  obtain ⟨⟨⟨⟨_, hne, hlength⟩, _⟩, _⟩, _⟩ := h
  refine ⟨?_, hlength⟩
  rintro rfl
  simp at hne

theorem authorize_cases [Json.Parser] (snapshot : S3BucketPolicySnapshot)
    (request : Policy.S3AuthorizationRequest)
    (h : snapshot.identity.bucketName = request.bucketName) :
    (∃ bucket, Policy.authorize (some snapshot) request = .ok (.explicitDeny bucket)) ∨
      (∃ bucket, Policy.authorize (some snapshot) request = .ok (.implicitDeny bucket)) ∨
      ∃ bucket, Policy.authorize (some snapshot) request = .ok (.allowed bucket) ∧
        Policy.requestIsWellFormed request = true := by
  simp only [Policy.authorize]
  split_ifs with hname hdeny hformed
  · exact absurd h hname
  · exact Or.inl ⟨_, rfl⟩
  · exact Or.inr (Or.inl ⟨_, rfl⟩)
  · split
    · exact Or.inr (Or.inl ⟨_, rfl⟩)
    · split_ifs
      · exact Or.inl ⟨_, rfl⟩
      · exact Or.inr (Or.inr ⟨_, rfl, Bool.eq_true_of_not_eq_false hformed⟩)
      · exact Or.inr (Or.inl ⟨_, rfl⟩)

theorem authorizeS3PolicyPrincipalRequest_found [Json.Parser] {input : S3DataAuthorizationInput}
    (principal : Policy.S3SignedPrincipal) {snapshot : S3BucketPolicySnapshot}
    (h : snapshot.identity.bucketName = input.bucketName) :
    Authorization input
      (authorizeS3PolicyPrincipalRequest input principal (.ok (some snapshot))) := by
  unfold authorizeS3PolicyPrincipalRequest
  dsimp only
  rcases authorize_cases snapshot (Policy.authorizationRequest input (.signed principal)) h with
    ⟨bucket, heq⟩ | ⟨bucket, heq⟩ | ⟨bucket, heq, hformed⟩
  · rw [heq]
    exact .denied
  · rw [heq]
    exact .denied
  · rw [heq]
    exact .allowed bucket fun key hscope hkey => key_of_requestIsWellFormed hformed hscope hkey

theorem authorizeS3PolicyPrincipalRequest_fails [Json.Parser] {input : S3DataAuthorizationInput}
    (principal : Policy.S3SignedPrincipal)
    {bucketPolicy : Except RepositoryError (Option S3BucketPolicySnapshot)}
    (h : ¬ ∃ snapshot, bucketPolicy = .ok (some snapshot) ∧
      snapshot.identity.bucketName = input.bucketName) :
    Fails (authorizeS3PolicyPrincipalRequest input principal bucketPolicy) := by
  cases bucketPolicy with
  | error error => exact fails_serviceUnavailable
  | ok snapshot =>
      cases snapshot with
      | none => exact fails_noSuchBucket
      | some snapshot =>
          have hname : snapshot.identity.bucketName ≠ input.bucketName := by
            intro hname
            exact h ⟨snapshot, rfl, hname⟩
          have herror : Policy.authorize (some snapshot)
              (Policy.authorizationRequest input (.signed principal)) = .error .invariant :=
            if_pos hname
          simp only [authorizeS3PolicyPrincipalRequest, herror]
          exact fails_serviceUnavailable

theorem authorizeS3SignedDataRequest_found [Json.Parser] {auth : ApplicationAuth}
    {input : S3DataAuthorizationInput} {answers : AuthorizationAnswers}
    (h : LooksUp auth input answers) :
    Authorization input (authorizeS3SignedDataRequest auth input answers) := by
  unfold LooksUp at h
  unfold authorizeS3SignedDataRequest
  cases hload : loadS3SignedPolicyPrincipal auth input answers.identityPolicy with
  | error error =>
      rw [hload] at h
      exact h.elim
  | ok resolution =>
      rw [hload] at h
      rw [ok_bind]
      cases resolution with
      | principal principal =>
          obtain ⟨snapshot, hpolicy, hname⟩ := h
          dsimp only
          rw [hpolicy]
          exact authorizeS3PolicyPrincipalRequest_found principal hname
      | failClosed =>
          obtain ⟨bucket, hbucket⟩ := h
          dsimp only
          rw [hbucket]
          exact .denied

theorem loadS3SignedPolicyPrincipal_error [Json.Parser] {auth : ApplicationAuth}
    {input : S3DataAuthorizationInput}
    {identityPolicy : Except RepositoryError (Option S3IdentityPolicySnapshot)} {error : S3ApiError}
    (h : loadS3SignedPolicyPrincipal auth input identityPolicy = .error error) :
    error = .serviceUnavailable := by
  unfold loadS3SignedPolicyPrincipal at h
  split at h
  · cases h
  · split at h
    · cases h
    · cases h
    · exact (Except.error.inj h).symm
    · split at h
      · cases h
      · split at h
        · cases h
        · cases h

theorem authorizeS3SignedDataRequest_fails [Json.Parser] {auth : ApplicationAuth}
    {input : S3DataAuthorizationInput} {answers : AuthorizationAnswers}
    (h : ¬ LooksUp auth input answers) :
    Fails (authorizeS3SignedDataRequest auth input answers) := by
  unfold LooksUp at h
  unfold authorizeS3SignedDataRequest
  cases hload : loadS3SignedPolicyPrincipal auth input answers.identityPolicy with
  | error error =>
      rw [error_bind, loadS3SignedPolicyPrincipal_error hload]
      exact fails_serviceUnavailable
  | ok resolution =>
      rw [hload] at h
      rw [ok_bind]
      cases resolution with
      | principal principal => exact authorizeS3PolicyPrincipalRequest_fails principal h
      | failClosed =>
          dsimp only at h ⊢
          cases hidentity : answers.bucketIdentity with
          | error error => exact fails_serviceUnavailable
          | ok bucket =>
              cases bucket with
              | none => exact fails_noSuchBucket
              | some bucket => exact absurd ⟨bucket, hidentity⟩ h

/-- Every lookup that may be made finds something. -/
theorem looksUp_of_found [Json.Parser] {auth : ApplicationAuth} {input : S3DataAuthorizationInput}
    {answers : AuthorizationAnswers} {identityPolicy : Option S3IdentityPolicySnapshot}
    {bucket : S3BucketIdentity} {snapshot : S3BucketPolicySnapshot}
    (hidentity : answers.identityPolicy = .ok identityPolicy)
    (hbucket : answers.bucketIdentity = .ok (some bucket))
    (hpolicy : answers.bucketPolicy = .ok (some snapshot))
    (hname : snapshot.identity.bucketName = input.bucketName) : LooksUp auth input answers := by
  have hload : ∀ error,
      loadS3SignedPolicyPrincipal auth input answers.identityPolicy ≠ .error error := by
    intro error herror
    rw [hidentity] at herror
    unfold loadS3SignedPolicyPrincipal at herror
    cases identityPolicy with
    | none => split at herror <;> cases herror
    | some found =>
        dsimp only at herror
        split at herror
        · cases herror
        · split at herror
          · cases herror
          · split at herror
            · cases herror
            · cases herror
  unfold LooksUp
  split
  · next error herror => exact hload error herror
  · exact ⟨bucket, hbucket⟩
  · exact ⟨snapshot, hpolicy, hname⟩

/-- The lookups for a delete succeed, and those for the bypass of governance retention find a
bucket of the same owner. -/
structure DeleteLooksUp [Json.Parser] (context : DeleteContext) (key : Text)
    (versionId : Option S3VersionId) (answers : DeleteAnswers) : Prop where
  authorization : LooksUp context.auth (deleteAuthorizationInput context key versionId)
    answers.authorization
  bypass : context.bypassGovernance = true → ∀ bucket,
    authorizeS3SignedDataRequest context.auth (deleteAuthorizationInput context key versionId)
      answers.authorization = .ok bucket →
    LooksUp context.auth (bypassAuthorizationInput context key versionId) answers.bypass ∧
      ∀ other, authorizeS3SignedDataRequest context.auth
          (bypassAuthorizationInput context key versionId) answers.bypass = .ok other →
        other.applicationId = bucket.applicationId

theorem scope_deleteAuthorizationInput (context : DeleteContext) (key : Text)
    (versionId : Option S3VersionId) :
    (deleteAuthorizationInput context key versionId).action.scope = .object := by
  cases versionId with
  | none => rfl
  | some versionId => rfl

/-- What a delete is authorized to do, it does on a key that a DeleteObject may name. -/
theorem authorizeS3SignedDeleteRequest_found [Json.Parser] {context : DeleteContext} {key : Text}
    {versionId : Option S3VersionId} {answers : DeleteAnswers}
    (h : DeleteLooksUp context key versionId answers) :
    (∃ bucket, authorizeS3SignedDeleteRequest context key versionId answers = .ok bucket ∧
        key ≠ [] ∧ Utf8.byteLength key ≤ 1024) ∨
      authorizeS3SignedDeleteRequest context key versionId answers =
        .error (.accessDenied "Access Denied.") := by
  unfold authorizeS3SignedDeleteRequest
  have hfirst := authorizeS3SignedDataRequest_found h.authorization
  generalize houtcome : authorizeS3SignedDataRequest context.auth
    (deleteAuthorizationInput context key versionId) answers.authorization = outcome at hfirst
  cases hfirst with
  | denied => exact Or.inr (error_bind _ _)
  | allowed bucket hkey =>
      have hkey := hkey key (scope_deleteAuthorizationInput context key versionId) rfl
      rw [ok_bind]
      split
      · next hbypass =>
          obtain ⟨hlookup, hsame⟩ := h.bypass hbypass bucket houtcome
          have hsecond := authorizeS3SignedDataRequest_found hlookup
          generalize hother : authorizeS3SignedDataRequest context.auth
            (bypassAuthorizationInput context key versionId) answers.bypass = other at hsecond hsame
          cases hsecond with
          | denied => exact Or.inr (error_bind _ _)
          | allowed other _ =>
              rw [ok_bind, if_neg (not_not.2 (hsame other rfl))]
              exact Or.inl ⟨bucket, rfl, hkey⟩
      · exact Or.inl ⟨bucket, rfl, hkey⟩

theorem authorizeS3SignedDeleteRequest_fails [Json.Parser] {context : DeleteContext} {key : Text}
    {versionId : Option S3VersionId} {answers : DeleteAnswers}
    (h : ¬ DeleteLooksUp context key versionId answers) :
    Fails (authorizeS3SignedDeleteRequest context key versionId answers) := by
  unfold authorizeS3SignedDeleteRequest
  by_cases hfirst : LooksUp context.auth (deleteAuthorizationInput context key versionId)
      answers.authorization
  · have hallowed : ∃ bucket, authorizeS3SignedDataRequest context.auth
        (deleteAuthorizationInput context key versionId) answers.authorization = .ok bucket := by
      by_contra hnone
      exact h ⟨hfirst, fun _ bucket hbucket => absurd ⟨bucket, hbucket⟩ hnone⟩
    obtain ⟨bucket, hbucket⟩ := hallowed
    rw [hbucket, ok_bind]
    split
    · next hbypass =>
        by_cases hsecond : LooksUp context.auth
            (bypassAuthorizationInput context key versionId) answers.bypass
        · have hother : ∃ other, authorizeS3SignedDataRequest context.auth
              (bypassAuthorizationInput context key versionId) answers.bypass = .ok other ∧
              other.applicationId ≠ bucket.applicationId := by
            by_contra hnone
            refine h ⟨hfirst, fun _ found hfound => ⟨hsecond, fun other hother => ?_⟩⟩
            by_contra hne
            rw [hbucket] at hfound
            exact hnone ⟨other, hother, Except.ok.inj hfound ▸ hne⟩
          obtain ⟨other, hother, hne⟩ := hother
          rw [hother, ok_bind, if_pos hne]
          exact fails_serviceUnavailable
        · obtain ⟨error, herror, hcode⟩ := authorizeS3SignedDataRequest_fails hsecond
          rw [herror, error_bind]
          exact ⟨error, rfl, hcode⟩
    · next hbypass => exact absurd ⟨hfirst, fun hyes => absurd hyes hbypass⟩ h
  · obtain ⟨error, herror, hcode⟩ := authorizeS3SignedDataRequest_fails hfirst
    rw [herror, error_bind]
    exact ⟨error, rfl, hcode⟩

section

variable {command : DeleteS3ObjectCommand} {object : S3Object} {db db' : Database}
  {versionId : Option S3VersionId} {marker : Bool}

theorem deleteCurrent_versionId {status : VersioningStatus} {activeVersions : List ObjectVersion}
    (h : (deleteCurrent command status object activeVersions).run db =
      .ok (.deleted versionId marker, db')) :
    versionId = none ∨ versionId = some .null ∨
      versionId = some command.deleteMarkerVersionId := by
  unfold deleteCurrent at h
  dsimp only at h
  split at h
  · simp only [deleteEnabled, Transaction.run_bind_ok, Transaction.run_pure_ok] at h
    obtain ⟨_, _, _, _, _, _, _, _, _, _, _, _, heq, _⟩ := h
    exact Or.inr (Or.inr (DeleteS3ObjectOutcome.deleted.inj heq).1.symm)
  · cases (Transaction.run_pure_ok.1 h).1
  · cases (Transaction.run_pure_ok.1 h).1
  · simp only [deleteSuspended, Transaction.run_bind_ok, Transaction.run_pure_ok] at h
    obtain ⟨_, _, _, _, _, _, _, _, _, _, _, _, _, _, _, heq, _⟩ := h
    exact Or.inr (Or.inl (DeleteS3ObjectOutcome.deleted.inj heq).1.symm)
  · simp only [deleteUnversioned, Transaction.run_bind_ok, Transaction.run_pure_ok] at h
    obtain ⟨_, _, _, _, _, _, _, _, _, _, _, _, _, _, _, heq, _⟩ := h
    exact Or.inl (DeleteS3ObjectOutcome.deleted.inj heq).1.symm

/-- The version of a receipt is the marker that was put, the null version or the one that was
asked for. -/
theorem deleteS3Object_versionId
    (h : (deleteS3Object command).run db = .ok (.deleted versionId marker, db')) :
    versionId = none ∨ versionId = some .null ∨
      versionId = some command.deleteMarkerVersionId ∨ versionId = command.versionId := by
  simp only [deleteS3Object, Transaction.run_bind_ok, Transaction.run_require_ok,
    Transaction.run_query_ok, Transaction.run_orThrow_ok] at h
  obtain ⟨_, _, ⟨-, rfl⟩, _, _, ⟨-, rfl⟩, bucket, _, ⟨-, rfl⟩, row, _, ⟨-, rfl⟩, h⟩ := h
  cases row with
  | none =>
      have heq := (Transaction.run_pure_ok.1 h).1
      split at heq
      · cases heq
      · cases heq
  | some object =>
      simp only [Transaction.run_bind_ok, Transaction.run_query_ok] at h
      obtain ⟨_, _, ⟨rfl, rfl⟩, h⟩ := h
      cases hrequested : command.versionId with
      | none =>
          rw [hrequested] at h
          rcases deleteCurrent_versionId h with hnone | hnull | hmarker
          · exact Or.inl hnone
          · exact Or.inr (Or.inl hnull)
          · exact Or.inr (Or.inr (Or.inl hmarker))
      | some requested =>
          simp only [hrequested] at h
          split at h
          · cases (Transaction.run_pure_ok.1 h).1
          · next target htarget =>
              split at h
              · cases (Transaction.run_pure_ok.1 h).1
              · simp only [Transaction.run_bind_ok, Transaction.run_pure_ok] at h
                obtain ⟨_, _, _, heq, _⟩ := h
                have hsame : target.externalVersionId = requested := by
                  simpa using List.find?_some htarget
                rw [hsame] at heq
                exact Or.inr (Or.inr (Or.inr (DeleteS3ObjectOutcome.deleted.inj heq).1.symm))

end

theorem isXmlText_uuid (id : Uuid) : IsXmlText (versionIdText (.uuid id)) := by
  have hdigits : IsXmlText "0123456789abcdef".toList := by decide +kernel
  have hall : ∀ c ∈ Catalog.simpleText id, isXml10Character c = true := fun c hc =>
    List.all_eq_true.1 hdigits c (Catalog.mem_simpleText hc)
  have htake : ∀ n m, (((Catalog.simpleText id).drop n).take m).all isXml10Character = true := by
    intro n m
    exact List.all_eq_true.2 fun c hc => hall c (List.mem_of_mem_drop (List.mem_of_mem_take hc))
  have hdrop : ((Catalog.simpleText id).drop 20).all isXml10Character = true :=
    List.all_eq_true.2 fun c hc => hall c (List.mem_of_mem_drop hc)
  have hfirst := htake 0 8
  rw [List.drop_zero] at hfirst
  have hhyphen : isXml10Character '-' = true := by decide
  simp only [IsXmlText, versionIdText, Catalog.hyphenate, List.all_append, List.all_cons, hfirst,
    htake, hdrop, hhyphen, Bool.and_self]

theorem requestedVersionId_text {requested : Option Text} {versionId : S3VersionId}
    (h : requestedVersionId requested = some (some versionId)) :
    requested = some (versionIdText versionId) := by
  cases requested with
  | none => cases h
  | some value =>
      obtain ⟨found, hfound, heq⟩ := Option.map_eq_some_iff.1 h
      obtain rfl := Option.some.inj heq
      unfold newS3VersionId at hfound
      split at hfound
      · rw [← Option.some.inj hfound, versionIdText_versionIdOfText]
      · cases hfound

theorem isXmlText_of_serviceDelete {gcGrace : Int} {request : DeleteObjectRequest}
    {answers : DeleteAnswers} {db db' : Database} {receipt : DeleteObjectReceipt}
    {versionId : S3VersionId}
    (hrequest : ∀ requested, request.versionId = some requested →
      IsXmlText (versionIdText requested))
    (h : serviceDelete gcGrace request answers db = (.ok receipt, db'))
    (hversion : receipt.versionId = some versionId) : IsXmlText (versionIdText versionId) := by
  unfold serviceDelete at h
  split at h
  · cases h
  · split at h
    · cases h
    · next bucket _ =>
        unfold answerOf at h
        cases hfailure : answers.deletion with
        | some failure =>
            rw [hfailure] at h
            cases h
        | none =>
            rw [hfailure] at h
            cases hrun : (deleteS3Object (deleteCommand gcGrace request bucket answers)).run db with
            | error error =>
                rw [hrun] at h
                cases h
            | ok result =>
                obtain ⟨outcome, left⟩ := result
                rw [hrun] at h
                cases outcome with
                | locked reason => cases h
                | versionNotFound => cases h
                | noOp =>
                    cases h
                    cases hversion
                | deleted found marker =>
                    cases h
                    dsimp only at hversion
                    subst hversion
                    rcases deleteS3Object_versionId hrun with hnone | hnull | hmarker | hsame
                    · cases hnone
                    · rw [Option.some.inj hnull]
                      decide +kernel
                    · rw [Option.some.inj hmarker]
                      exact isXmlText_uuid answers.deleteMarkerId
                    · exact hrequest versionId hsame.symm

theorem validS3ObjectKey_of {key : Text} (hne : key ≠ []) (hlength : Utf8.byteLength key ≤ 1024)
    (htext : IsXmlText key) : validS3ObjectKey key = true := by
  have hnul : '\x00' ∉ key := by
    intro hmem
    exact absurd (List.all_eq_true.1 htext _ hmem) (by decide)
  simp [validS3ObjectKey, hne, hlength, hnul]

/-- What is reported of a delete that succeeds. -/
def reportedDeletion : DeleteObjectIdentifier × Except S3ApiError DeleteObjectReceipt →
    Option DeletedObject
  | (object, .ok receipt) => some (deletedObject object receipt)
  | (_, .error _) => none

/-- The object of a delete that fails. -/
def reportedError : DeleteObjectIdentifier × Except S3ApiError DeleteObjectReceipt →
    Option DeleteObjectIdentifier
  | (_, .ok _) => none
  | (object, .error _) => some object

def DeleteResult.failed (result : DeleteResult) : List DeleteObjectIdentifier :=
  result.errors.map fun error => ⟨error.key, error.versionId⟩

structure DeleteResult.IsValid (result : DeleteResult) : Prop where
  deleted : ∀ deleted ∈ result.deleted, deleted.IsValid
  errors : ∀ error ∈ result.errors, error.IsValid

/-- The outcomes are added to what has been reported, one place for each of them. -/
structure Reports (quiet : Bool)
    (outcomes : List (DeleteObjectIdentifier × Except S3ApiError DeleteObjectReceipt))
    (before after : DeleteResult) : Prop where
  deleted : after.deleted =
    before.deleted ++ if quiet then [] else outcomes.filterMap reportedDeletion
  errors : DeleteResult.failed after =
    DeleteResult.failed before ++ outcomes.filterMap reportedError
  valid : DeleteResult.IsValid before → DeleteResult.IsValid after

theorem reports_nil (quiet : Bool) (result : DeleteResult) : Reports quiet [] result result := by
  constructor
  · rw [List.filterMap_nil, ite_self, List.append_nil]
  · rw [List.filterMap_nil, List.append_nil]
  · exact id

theorem Reports.cons {quiet : Bool}
    {outcome : DeleteObjectIdentifier × Except S3ApiError DeleteObjectReceipt}
    {outcomes : List (DeleteObjectIdentifier × Except S3ApiError DeleteObjectReceipt)}
    {before middle after : DeleteResult} (hfirst : Reports quiet [outcome] before middle)
    (hrest : Reports quiet outcomes middle after) :
    Reports quiet (outcome :: outcomes) before after := by
  have happend : ∀ {α : Type}
      (f : DeleteObjectIdentifier × Except S3ApiError DeleteObjectReceipt → Option α),
      (outcome :: outcomes).filterMap f = [outcome].filterMap f ++ outcomes.filterMap f :=
    fun f => List.filterMap_append (l := [outcome])
  constructor
  · rw [hrest.deleted, hfirst.deleted, happend]
    cases quiet with
    | true => simp
    | false => simp
  · rw [hrest.errors, hfirst.errors, happend, List.append_assoc]
  · exact fun hvalid => hrest.valid (hfirst.valid hvalid)

theorem isValid_deletedObject {object : DeleteObjectIdentifier} {receipt : DeleteObjectReceipt}
    (hobject : object.IsValid)
    (hreceipt : ∀ versionId, receipt.versionId = some versionId →
      IsXmlText (versionIdText versionId)) : (deletedObject object receipt).IsValid := by
  constructor
  · exact hobject.key
  · intro versionId hversionId
    dsimp only [deletedObject] at hversionId
    split at hversionId
    · cases hversionId
    · exact hobject.versionId versionId hversionId
  · intro versionId hversionId
    dsimp only [deletedObject] at hversionId
    split at hversionId
    · obtain ⟨found, hfound, rfl⟩ := Option.map_eq_some_iff.1 hversionId
      exact hreceipt found hfound
    · cases hversionId

theorem reports_pushError {quiet : Bool} {result : DeleteResult} {object : DeleteObjectIdentifier}
    {error failure : S3ApiError} (hobject : object.IsValid) (hcode : IsXmlText error.code)
    (hmessage : IsXmlText error.message) :
    Reports quiet [(object, .error failure)] result (pushError result object error) := by
  constructor
  · cases quiet with
    | true => simp [pushError]
    | false => simp [pushError, reportedDeletion]
  · simp [pushError, DeleteResult.failed, reportedError]
  · intro hvalid
    constructor
    · exact hvalid.deleted
    · intro other hother
      rcases List.mem_append.1 hother with hother | hother
      · exact hvalid.errors other hother
      · rw [List.mem_singleton.1 hother]
        exact ⟨hobject.key, hobject.versionId, hcode, hmessage⟩

theorem isXmlText_mapS3ObjectServiceError (error : DeleteServiceError) :
    IsXmlText (mapS3ObjectServiceError error).code ∧
      IsXmlText (mapS3ObjectServiceError error).message := by
  cases error with
  | bucketNotFound => decide +kernel
  | versionNotFound => decide +kernel
  | deleteLocked reason => cases reason <;> decide +kernel
  | repository error =>
      cases error with
      | notFound => decide +kernel
      | conflict => decide +kernel
      | quotaExceeded => decide +kernel
      | invariant message =>
          exact (by decide +kernel : IsXmlText S3ApiError.internalError.code ∧
            IsXmlText S3ApiError.internalError.message)
      | unavailable message =>
          exact (by decide +kernel : IsXmlText S3ApiError.serviceUnavailable.code ∧
            IsXmlText S3ApiError.serviceUnavailable.message)

theorem reports_deleted {quiet : Bool} {result : DeleteResult} {object : DeleteObjectIdentifier}
    {receipt : DeleteObjectReceipt} (hvalid : (deletedObject object receipt).IsValid) :
    Reports quiet [(object, .ok receipt)] result
      (recordS3BatchDeleteResult result object quiet (.ok receipt)) := by
  cases quiet with
  | true =>
      constructor
      · simp [recordS3BatchDeleteResult]
      · simp [recordS3BatchDeleteResult, reportedError]
      · exact id
  | false =>
      constructor
      · simp [recordS3BatchDeleteResult, reportedDeletion]
      · simp [recordS3BatchDeleteResult, DeleteResult.failed, reportedError]
      · intro hresult
        constructor
        · intro other hother
          rcases List.mem_append.1 hother with hother | hother
          · exact hresult.deleted other hother
          · rwa [List.mem_singleton.1 hother]
        · exact hresult.errors

/-- Whatever the version id of the object is, if it is valid its delete can be authorized or
denied. -/
def EntryLooksUp [Json.Parser] (context : DeleteContext)
    (entry : DeleteObjectIdentifier × DeleteAnswers) : Prop :=
  ∀ versionId, requestedVersionId entry.1.versionId = some versionId →
    DeleteLooksUp context entry.1.key versionId entry.2

theorem s3DeleteObject_of_invalid [Json.Parser] {context : DeleteContext}
    {object : DeleteObjectIdentifier} (h : requestedVersionId object.versionId = none)
    (answers : DeleteAnswers) (db : Database) :
    ∃ error, s3DeleteObject context object answers db = (.error error, db) := by
  unfold s3DeleteObject
  split
  · exact ⟨_, rfl⟩
  · rw [h]
    exact ⟨_, rfl⟩

theorem s3DeleteObject_of_denied [Json.Parser] {context : DeleteContext}
    {object : DeleteObjectIdentifier} {answers : DeleteAnswers} {versionId : Option S3VersionId}
    {error : S3ApiError} (hversion : requestedVersionId object.versionId = some versionId)
    (h : authorizeS3SignedDeleteRequest context object.key versionId answers = .error error)
    (db : Database) :
    ∃ error, s3DeleteObject context object answers db = (.error error, db) := by
  unfold s3DeleteObject
  split
  · exact ⟨_, rfl⟩
  · rw [hversion]
    dsimp only
    rw [h]
    exact ⟨_, rfl⟩

theorem s3DeleteObject_of_allowed [Json.Parser] {context : DeleteContext}
    {object : DeleteObjectIdentifier} {answers : DeleteAnswers} {versionId : Option S3VersionId}
    {bucket : S3BucketIdentity} (hversion : requestedVersionId object.versionId = some versionId)
    (h : authorizeS3SignedDeleteRequest context object.key versionId answers = .ok bucket)
    (hkey : validS3ObjectKey object.key = true) (db : Database) :
    s3DeleteObject context object answers db =
      ((serviceDelete context.gcGrace (deleteRequest context bucket object.key versionId) answers
          db).1.mapError mapS3ObjectServiceError,
        (serviceDelete context.gcGrace (deleteRequest context bucket object.key versionId) answers
          db).2) := by
  unfold s3DeleteObject
  rw [hkey, if_neg Bool.false_ne_true.symm, hversion]
  dsimp only
  rw [h]
  dsimp only
  generalize serviceDelete context.gcGrace (deleteRequest context bucket object.key versionId)
    answers db = service
  obtain ⟨deletion, db'⟩ := service
  cases deletion with
  | error error => rfl
  | ok receipt => rfl

theorem deleteEntry_reports [Json.Parser] {context : DeleteContext}
    {object : DeleteObjectIdentifier} {answers : DeleteAnswers} (hobject : object.IsValid)
    (h : EntryLooksUp context (object, answers)) (quiet : Bool) (result : DeleteResult)
    (db : Database) :
    ∃ next, deleteEntry context quiet result object answers db =
        (.ok next, (s3DeleteObject context object answers db).2) ∧
      Reports quiet [(object, (s3DeleteObject context object answers db).1)] result next := by
  unfold deleteEntry
  cases hversion : requestedVersionId object.versionId with
  | none =>
      obtain ⟨error, heq⟩ := s3DeleteObject_of_invalid hversion answers db
      rw [heq]
      exact ⟨_, rfl, reports_pushError hobject (by decide +kernel) (by decide +kernel)⟩
  | some versionId =>
      dsimp only
      rcases authorizeS3SignedDeleteRequest_found (h versionId hversion) with
        ⟨bucket, hallowed, hne, hlength⟩ | hdenied
      · rw [s3DeleteObject_of_allowed hversion hallowed
          (validS3ObjectKey_of hne hlength hobject.key) db, hallowed]
        dsimp only
        cases hservice : serviceDelete context.gcGrace
            (deleteRequest context bucket object.key versionId) answers db with
        | mk deletion db' =>
            cases deletion with
            | error error =>
                obtain ⟨hcode, hmessage⟩ := isXmlText_mapS3ObjectServiceError error
                exact ⟨_, rfl, reports_pushError hobject hcode hmessage⟩
            | ok receipt =>
                refine ⟨_, rfl, reports_deleted (isValid_deletedObject hobject ?_)⟩
                intro found hfound
                refine isXmlText_of_serviceDelete (fun requested hrequested => ?_) hservice hfound
                have hsame : versionId = some requested := hrequested
                subst hsame
                exact hobject.versionId _ (requestedVersionId_text hversion)
      · obtain ⟨error, heq⟩ := s3DeleteObject_of_denied hversion hdenied db
        have hcode : (S3ApiError.accessDenied "Access Denied.").code = "AccessDenied".toList := rfl
        rw [heq, hdenied]
        dsimp only
        rw [if_pos hcode]
        exact ⟨_, rfl, reports_pushError hobject (by decide +kernel) (by decide +kernel)⟩

theorem deleteEntry_fails [Json.Parser] {context : DeleteContext} {object : DeleteObjectIdentifier}
    {answers : DeleteAnswers} (h : ¬ EntryLooksUp context (object, answers)) (quiet : Bool)
    (result : DeleteResult) (db : Database) :
    ∃ error, deleteEntry context quiet result object answers db = (.error error, db) := by
  simp only [EntryLooksUp, not_forall] at h
  obtain ⟨versionId, hversion, hlookup⟩ := h
  obtain ⟨error, herror, hcode⟩ := authorizeS3SignedDeleteRequest_fails hlookup
  refine ⟨error, ?_⟩
  unfold deleteEntry
  rw [hversion]
  dsimp only
  rw [herror]
  dsimp only
  rw [if_neg hcode]

/-- The deletes of the objects one after another, each a request of its own. -/
def deleteOneByOne [Json.Parser] (context : DeleteContext) :
    List (DeleteObjectIdentifier × DeleteAnswers) → Database →
      List (DeleteObjectIdentifier × Except S3ApiError DeleteObjectReceipt) × Database
  | [], db => ([], db)
  | (object, answers) :: entries, db =>
      let (outcome, db') := s3DeleteObject context object answers db
      let (outcomes, db'') := deleteOneByOne context entries db'
      ((object, outcome) :: outcomes, db'')

theorem deleteEntries_reports [Json.Parser] {context : DeleteContext}
    {entries : List (DeleteObjectIdentifier × DeleteAnswers)}
    (hobjects : ∀ entry ∈ entries, entry.1.IsValid)
    (h : ∀ entry ∈ entries, EntryLooksUp context entry) (quiet : Bool) (before : DeleteResult)
    (db : Database) :
    ∃ after, deleteEntries context quiet before entries db =
        (.ok after, (deleteOneByOne context entries db).2) ∧
      Reports quiet (deleteOneByOne context entries db).1 before after := by
  induction entries generalizing before db with
  | nil => exact ⟨before, rfl, reports_nil quiet before⟩
  | cons entry entries ih =>
      obtain ⟨object, answers⟩ := entry
      rw [List.forall_mem_cons] at hobjects h
      obtain ⟨middle, hentry, hfirst⟩ := deleteEntry_reports hobjects.1 h.1 quiet before db
      obtain ⟨after, hentries, hrest⟩ :=
        ih hobjects.2 h.2 middle (s3DeleteObject context object answers db).2
      refine ⟨after, ?_, hfirst.cons hrest⟩
      rw [deleteEntries, hentry]
      exact hentries

theorem deleteEntries_fails [Json.Parser] {context : DeleteContext}
    {entries : List (DeleteObjectIdentifier × DeleteAnswers)}
    (hobjects : ∀ entry ∈ entries, entry.1.IsValid)
    (h : ∃ entry ∈ entries, ¬ EntryLooksUp context entry) (quiet : Bool) (before : DeleteResult)
    (db : Database) :
    ∃ error db', deleteEntries context quiet before entries db = (.error error, db') := by
  induction entries generalizing before db with
  | nil =>
      obtain ⟨_, hmem, _⟩ := h
      exact absurd hmem List.not_mem_nil
  | cons entry entries ih =>
      obtain ⟨object, answers⟩ := entry
      rw [List.forall_mem_cons] at hobjects
      by_cases hentry : EntryLooksUp context (object, answers)
      · obtain ⟨bad, hmem, hbad⟩ := h
        have hrest : ∃ entry ∈ entries, ¬ EntryLooksUp context entry := by
          rcases List.mem_cons.1 hmem with rfl | hmem
          · exact absurd hentry hbad
          · exact ⟨bad, hmem, hbad⟩
        obtain ⟨middle, heq, _⟩ := deleteEntry_reports hobjects.1 hentry quiet before db
        obtain ⟨error, db', hentries⟩ := ih hobjects.2 hrest middle _
        refine ⟨error, db', ?_⟩
        rw [deleteEntries, heq]
        exact hentries
      · obtain ⟨error, heq⟩ := deleteEntry_fails hentry quiet before db
        exact ⟨error, db, by rw [deleteEntries, heq]⟩

/-- Each outcome stands in the result: a failed delete among the errors, another one among what
was deleted unless the request is quiet. -/
structure ReportsEach (quiet : Bool)
    (outcomes : List (DeleteObjectIdentifier × Except S3ApiError DeleteObjectReceipt))
    (result : DeleteResult) : Prop where
  deleted : result.deleted = if quiet then [] else outcomes.filterMap reportedDeletion
  errors : DeleteResult.failed result = outcomes.filterMap reportedError

/-- The batch leaves the store as the deletes of its objects do one after another, and its response
reports each of them. -/
def EqualsDeletes [Json.Parser] (context : DeleteContext) (quiet : Bool)
    (entries : List (DeleteObjectIdentifier × DeleteAnswers)) (db : Database)
    (response : Except S3ApiError Text × Database) : Prop :=
  response.2 = (deleteOneByOne context entries db).2 ∧
    ∃ result body, response.1 = .ok body ∧ deleteResultXml result = .ok body ∧
      ReportsEach quiet (deleteOneByOne context entries db).1 result

/-- A batch equals the deletes of its objects exactly when the lookups for each of them succeed:
where one fails, the response tells of no object, whatever was deleted before. -/
theorem deleteObjects_equals_deletes_iff [Json.Parser] {reader : Xml.Reader} {content : List UInt8}
    {request : DeleteObjectsRequest} (h : parseDeleteObjectsXml reader content = .ok request)
    (context : DeleteContext) (answers : Nat → DeleteAnswers) (db : Database) :
    EqualsDeletes context request.quiet (batchEntries request answers) db
        (s3BucketPost reader context content answers db) ↔
      ∀ entry ∈ batchEntries request answers, EntryLooksUp context entry := by
  have hobjects : ∀ entry ∈ batchEntries request answers, entry.1.IsValid := by
    intro entry hentry
    obtain ⟨indexed, hindexed, rfl⟩ := List.mem_map.1 hentry
    exact isValid_parseDeleteObjectsXml h _ (List.fst_mem_of_mem_zipIdx hindexed)
  have hpost : s3BucketPost reader context content answers db =
      respondToBatch context request.quiet (batchEntries request answers) db := by
    rw [s3BucketPost, h]
  rw [hpost, respondToBatch]
  constructor
  · rintro ⟨_, result, body, hresponse, _⟩
    by_contra hfails
    simp only [not_forall] at hfails
    obtain ⟨entry, hentry, hlookup⟩ := hfails
    obtain ⟨error, db', heq⟩ := deleteEntries_fails hobjects ⟨entry, hentry, hlookup⟩
      request.quiet ⟨[], []⟩ db
    rw [heq] at hresponse
    cases hresponse
  · intro hlookup
    obtain ⟨result, heq, hreports⟩ :=
      deleteEntries_reports hobjects hlookup request.quiet ⟨[], []⟩ db
    have hvalid := hreports.valid ⟨fun _ hmem => absurd hmem List.not_mem_nil,
      fun _ hmem => absurd hmem List.not_mem_nil⟩
    obtain ⟨body, hbody⟩ := exists_deleteResultXml hvalid.deleted hvalid.errors
    rw [heq]
    refine ⟨rfl, result, body, ?_, hbody, hreports.deleted, hreports.errors⟩
    dsimp only
    rw [hbody]
    rfl

local instance : Json.Parser := Json.descent

def sampleAccountId : Policy.S3AccountId := ⟨"123456789012".toList, Eq.refl true⟩

/-- A caller whose policy allows everything. -/
def allowingSnapshot : S3IdentityPolicySnapshot where
  applicationId := 1
  accessKeyId := "AK".toList
  accountId := sampleAccountId
  document := some ("\x7b\"Version\":\"2012-10-17\",\"Statement\":" ++
    "[\x7b\"Effect\":\"Allow\",\"Action\":\"s3:*\",\"Resource\":\"*\"\x7d]\x7d").toList

def sampleBucketPolicy : S3BucketPolicySnapshot where
  identity := ⟨2, 1, "bucket".toList, sampleAccountId⟩
  policy := none

/-- The lookups of a delete that is allowed. -/
def allowingAnswers : DeleteAnswers where
  authorization := ⟨.ok (some allowingSnapshot), .ok (some sampleBucketPolicy.identity),
    .ok (some sampleBucketPolicy)⟩
  bypass := ⟨.ok none, .ok none, .ok none⟩
  bucketLookup := none
  deletion := none
  now := 5
  deleteMarkerId := 9

/-- Lookups during which the database is not available. -/
def unavailableAnswers : DeleteAnswers :=
  { allowingAnswers with
    authorization := { allowingAnswers.authorization with
      bucketPolicy := .error (.unavailable "timeout") } }

def sampleContext : DeleteContext where
  auth := ⟨1, "client", some ⟨"AK".toList, 1⟩⟩
  bucketName := "bucket".toList
  bypassGovernance := false
  secureTransport := true
  sourceIp := none
  gcGrace := 0

theorem enabled_of_unlocked (h : false = true) : VersioningStatus.unversioned = .enabled := by
  cases h

theorem locked_of_no_retention (h : (none : Option DefaultRetention).isSome = true) :
    false = true := by
  cases h

def sampleBucket : S3Bucket where
  id := 2
  applicationId := 1
  name := "bucket"
  configuration :=
    ⟨.unversioned, false, none, none, 1, 0, enabled_of_unlocked, locked_of_no_retention,
      Nat.one_pos⟩
  createdAt := 0

theorem validCreatedBy_client : validCreatedBy "client" := by decide

def sampleVersion : ObjectVersion where
  id := 4
  objectId := 3
  applicationId := 1
  bucketId := 2
  externalVersionId := .null
  generation := 1
  state := .committed
  payload := .object ⟨⟨.localStore, .object 1 2 4⟩, .text "etag", 0, none, [], none⟩
  retention := none
  legalHold := false
  createdBy := "client"
  createdAt := 0
  becameNoncurrentAt := none
  supersededAt := none
  generation_ne_zero := Nat.one_ne_zero
  createdBy_valid := validCreatedBy_client
  marker_unlocked := nofun

/-- A bucket with the one object `a`. -/
def sampleDatabase : Database :=
  { Database.empty with
    buckets := ⟨[sampleBucket], List.nodup_singleton _⟩
    objects := ⟨[⟨3, 1, 2, "a", some 4, 1, 0, 0⟩], List.nodup_singleton _⟩
    objectVersions := ⟨[sampleVersion], List.nodup_singleton _⟩ }

def sampleContent : List UInt8 :=
  Utf8.bytes ("<Delete><Object><Key>a</Key></Object><Object><Key>b</Key></Object>" ++
    "</Delete>").toList

def sampleRequest : DeleteObjectsRequest := ⟨[⟨"a".toList, none⟩, ⟨"b".toList, none⟩], false⟩

theorem parse_sampleContent :
    parseDeleteObjectsXml Xml.plainReader sampleContent = .ok sampleRequest := by
  rfl

theorem deleteLooksUp_allowing (key : Text) (versionId : Option S3VersionId) :
    DeleteLooksUp sampleContext key versionId allowingAnswers := by
  constructor
  · exact looksUp_of_found rfl rfl rfl rfl
  · intro hbypass
    exact absurd hbypass Bool.false_ne_true

theorem deleteObjects_equals_deletes_sample :
    EqualsDeletes sampleContext sampleRequest.quiet
      (batchEntries sampleRequest fun _ => allowingAnswers) sampleDatabase
      (s3BucketPost Xml.plainReader sampleContext sampleContent (fun _ => allowingAnswers)
        sampleDatabase) :=
  (deleteObjects_equals_deletes_iff parse_sampleContent sampleContext (fun _ => allowingAnswers)
    sampleDatabase).2 fun entry hentry versionId _ => by
      obtain ⟨indexed, _, rfl⟩ := List.mem_map.1 hentry
      exact deleteLooksUp_allowing _ versionId

/-- The first object is deleted, and the lookup for the second one fails. -/
def failingAnswers (n : Nat) : DeleteAnswers :=
  if n = 0 then allowingAnswers else unavailableAnswers

def abortedResponse : Except S3ApiError Text × Database :=
  s3BucketPost Xml.plainReader sampleContext sampleContent failingAnswers sampleDatabase

theorem abortedResponse_error :
    (match abortedResponse.1 with
      | .ok _ => []
      | .error error => error.code) = "ServiceUnavailable".toList := by
  decide +kernel

/-- The object was deleted, and the response is an error that does not tell of it. -/
theorem abortedResponse_hides_deletion :
    (sampleDatabase.findObject 1 2 "a").map (·.currentVersionId) = some (some 4) ∧
      (abortedResponse.2.findObject 1 2 "a").map (·.currentVersionId) = some none ∧
      ¬ EqualsDeletes sampleContext sampleRequest.quiet (batchEntries sampleRequest failingAnswers)
        sampleDatabase abortedResponse := by
  refine ⟨by decide +kernel, by decide +kernel, ?_⟩
  rintro ⟨_, result, body, hresponse, _⟩
  have herror := abortedResponse_error
  rw [hresponse] at herror
  dsimp only at herror
  exact absurd herror (by decide)

end MediaHub.Server
