import MediaHub.Store.AccountingEffects

namespace MediaHub.Store

open Relational
open MediaHub.Core
open ObjectVersion (retentionUpdateRefusal)

/-- The version with its new lock, or none if the update is refused. -/
def updateLock (version : ObjectVersion) (now : Time) : S3ObjectLockMutation → Option ObjectVersion
  | .retention retention bypassGovernance =>
      (version.withRetentionUpdate retention now bypassGovernance).toOption
  | .legalHold legalHold => (version.withLegalHoldUpdate legalHold).toOption

/-- An update that is refused changes nothing. -/
def applyLock (version : ObjectVersion) (call : Time × S3ObjectLockMutation) : ObjectVersion :=
  (updateLock version call.1 call.2).getD version

/-- What the row of the version holds after the update. -/
def storeLock (version : ObjectVersion) (call : Time × S3ObjectLockMutation) : ObjectVersion :=
  match updateLock version call.1 call.2 with
  | some updated => ObjectVersion.relock updated.retention updated.legalHold version
  | none => version

def S3ObjectLockMutation.bypasses : S3ObjectLockMutation → Bool
  | .retention _ bypassGovernance => bypassGovernance
  | .legalHold _ => false

/-- What may become of a retention at `now`: one that still holds is not shortened, except a
Governance retention with the permission to bypass it; and Compliance stays Compliance. -/
structure Firmer (now : Time) (bypassed : Bool) (old new : Option ObjectRetention) : Prop where
  compliance : ∀ retention ∈ old, now < retention.retainUntil → retention.mode = .compliance →
    ∃ later ∈ new, later.mode = .compliance ∧ retention.retainUntil ≤ later.retainUntil
  unbypassed : bypassed = false → ∀ retention ∈ old, now < retention.retainUntil →
    ∃ later ∈ new, retention.retainUntil ≤ later.retainUntil

theorem Firmer.refl (now : Time) (bypassed : Bool) (old : Option ObjectRetention) :
    Firmer now bypassed old old where
  compliance retention hold _ hmode := ⟨retention, hold, hmode, le_refl _⟩
  unbypassed _ retention hold _ := ⟨retention, hold, le_refl _⟩

theorem withRetentionUpdate_ok {version updated : ObjectVersion} {retention : ObjectRetention}
    {now : Time} {bypassGovernance : Bool}
    (h : version.withRetentionUpdate retention now bypassGovernance = .ok updated) :
    now < retention.retainUntil ∧ updated.retention = some retention ∧ updated.id = version.id ∧
      version.payload ≠ .deleteMarker ∧
      retentionUpdateRefusal version.retention retention now bypassGovernance = none := by
  unfold ObjectVersion.withRetentionUpdate at h
  split at h
  · rename_i hdata
    split at h
    · cases h
    · rename_i hfuture
      cases hrefusal : retentionUpdateRefusal version.retention retention now bypassGovernance with
      | some error => simp [hrefusal] at h
      | none =>
          simp only [hrefusal, Except.ok.injEq] at h
          subst h
          exact ⟨not_le.1 hfuture, rfl, rfl, hdata.2, rfl⟩
  · cases h

theorem withLegalHoldUpdate_ok {version updated : ObjectVersion} {legalHold : Bool}
    (h : version.withLegalHoldUpdate legalHold = .ok updated) :
    updated.retention = version.retention ∧ updated.id = version.id ∧
      version.payload ≠ .deleteMarker := by
  unfold ObjectVersion.withLegalHoldUpdate at h
  split at h
  · rename_i hdata
    cases h
    exact ⟨rfl, rfl, hdata.2⟩
  · cases h

theorem updateLock_cases {version updated : ObjectVersion} {now : Time}
    {mutation : S3ObjectLockMutation} (h : updateLock version now mutation = some updated) :
    (∃ retention bypassGovernance, mutation = .retention retention bypassGovernance ∧
      version.withRetentionUpdate retention now bypassGovernance = .ok updated) ∨
    ∃ legalHold, mutation = .legalHold legalHold ∧
      version.withLegalHoldUpdate legalHold = .ok updated := by
  have hoption : ∀ {ε : Type} {result : Except ε ObjectVersion},
      result.toOption = some updated → result = .ok updated := by
    intro ε result hresult
    cases result with
    | error error => cases hresult
    | ok value => rw [Option.some.inj hresult]
  cases mutation with
  | retention retention bypassGovernance =>
      exact Or.inl ⟨retention, bypassGovernance, rfl, hoption h⟩
  | legalHold legalHold => exact Or.inr ⟨legalHold, rfl, hoption h⟩

/-- A retention that is not refused. -/
theorem firmer_of_admitted {old : Option ObjectRetention} {retention : ObjectRetention} {now : Time}
    {bypassGovernance : Bool}
    (h : retentionUpdateRefusal old retention now bypassGovernance = none) :
    Firmer now bypassGovernance old (some retention) := by
  have hactive : ∀ current ∈ old, now < current.retainUntil →
      (current.mode = .compliance →
        retention.mode = .compliance ∧ current.retainUntil ≤ retention.retainUntil) ∧
      (bypassGovernance = false → current.retainUntil ≤ retention.retainUntil) := by
    intro current hold hnow
    cases hold
    simp only [retentionUpdateRefusal, Option.filter_some, decide_eq_true hnow, if_true] at h
    split at h
    · rename_i hmode
      split at h
      · cases h
      · rename_i hfree
        simp only [ne_eq, not_or, not_not, not_lt] at hfree
        exact ⟨fun _ => hfree, fun _ => hfree.2⟩
    · rename_i hmode
      split at h
      · cases h
      · rename_i hfree
        refine ⟨fun hcompliance => ?_, fun hbypass => ?_⟩
        · rw [hmode] at hcompliance
          cases hcompliance
        · rw [hbypass] at hfree
          simpa using hfree
  constructor
  · intro current hold hnow hmode
    exact ⟨retention, rfl, ((hactive current hold hnow).1 hmode)⟩
  · intro hbypass current hold hnow
    exact ⟨retention, rfl, (hactive current hold hnow).2 hbypass⟩

theorem updateLock_firmer {version updated : ObjectVersion} {now : Time}
    {mutation : S3ObjectLockMutation} (h : updateLock version now mutation = some updated) :
    Firmer now mutation.bypasses version.retention updated.retention := by
  rcases updateLock_cases h with ⟨retention, bypassGovernance, rfl, hresult⟩ | ⟨_, rfl, hresult⟩
  · obtain ⟨_, hretention, _, _, hadmitted⟩ := withRetentionUpdate_ok hresult
    rw [hretention]
    exact firmer_of_admitted hadmitted
  · rw [(withLegalHoldUpdate_ok hresult).1]
    exact .refl _ _ _

theorem applyLock_firmer (version : ObjectVersion) (call : Time × S3ObjectLockMutation) :
    Firmer call.1 call.2.bypasses version.retention (applyLock version call).retention := by
  unfold applyLock
  cases hupdate : updateLock version call.1 call.2 with
  | none => exact .refl _ _ _
  | some updated => exact updateLock_firmer hupdate

/-- A row keeps whole microseconds of a date. -/
def IsStored (retention : Option ObjectRetention) : Prop :=
  ∀ value ∈ retention, postgresTime value.retainUntil = value.retainUntil

theorem retention_relock {version : ObjectVersion} (hdata : version.payload ≠ .deleteMarker)
    (retention : Option ObjectRetention) (legalHold : Bool) :
    (ObjectVersion.relock retention legalHold version).retention =
      retention.map fun value => { value with retainUntil := postgresTime value.retainUntil } := by
  simp [ObjectVersion.relock, hdata]

theorem data_of_updateLock {version updated : ObjectVersion} {now : Time}
    {mutation : S3ObjectLockMutation} (h : updateLock version now mutation = some updated) :
    updated.id = version.id ∧ version.payload ≠ .deleteMarker := by
  rcases updateLock_cases h with ⟨_, _, _, hresult⟩ | ⟨_, _, hresult⟩
  · obtain ⟨_, _, hid, hdata, _⟩ := withRetentionUpdate_ok hresult
    exact ⟨hid, hdata⟩
  · exact (withLegalHoldUpdate_ok hresult).2

theorem storeLock_stored {version : ObjectVersion} (call : Time × S3ObjectLockMutation)
    (h : IsStored version.retention) : IsStored (storeLock version call).retention := by
  unfold storeLock
  cases hupdate : updateLock version call.1 call.2 with
  | none => exact h
  | some updated =>
      intro value hvalue
      simp only [retention_relock (data_of_updateLock hupdate).2] at hvalue
      obtain ⟨original, _, rfl⟩ := Option.map_eq_some_iff.1 hvalue
      exact postgresTime_postgresTime _

/-- Rounding a date down to the microsecond does not put it before a whole microsecond that it was
not before. -/
theorem storeLock_firmer {version : ObjectVersion} (call : Time × S3ObjectLockMutation)
    (h : IsStored version.retention) :
    Firmer call.1 call.2.bypasses version.retention (storeLock version call).retention := by
  unfold storeLock
  cases hupdate : updateLock version call.1 call.2 with
  | none => exact .refl _ _ _
  | some updated =>
      have hfirmer := updateLock_firmer hupdate
      simp only [retention_relock (data_of_updateLock hupdate).2]
      constructor
      · intro retention hold hnow hmode
        obtain ⟨later, hlater, hcompliance, hle⟩ :=
          hfirmer.compliance retention hold hnow hmode
        refine ⟨_, Option.mem_map_of_mem _ hlater, hcompliance, ?_⟩
        rw [← h retention hold]
        exact postgresTime_mono hle
      · intro hbypass retention hold hnow
        obtain ⟨later, hlater, hle⟩ := hfirmer.unbypassed hbypass retention hold hnow
        refine ⟨_, Option.mem_map_of_mem _ hlater, ?_⟩
        rw [← h retention hold]
        exact postgresTime_mono hle

section Run

variable {step : ObjectVersion → Time × S3ObjectLockMutation → ObjectVersion}
  {Good : ObjectVersion → Prop}

/-- What one step keeps of a Compliance retention, a run keeps until its date. -/
theorem run_compliance (hgood : ∀ version call, Good version → Good (step version call))
    (hstep : ∀ version call, Good version →
      Firmer call.1 call.2.bypasses version.retention (step version call).retention)
    {version : ObjectVersion} (hversion : Good version) {retention : ObjectRetention}
    (hretention : retention ∈ version.retention) (hmode : retention.mode = .compliance)
    {calls : List (Time × S3ObjectLockMutation)}
    (hcalls : ∀ call ∈ calls, call.1 < retention.retainUntil) :
    ∃ later ∈ (calls.foldl step version).retention, later.mode = .compliance ∧
      retention.retainUntil ≤ later.retainUntil := by
  induction calls generalizing version retention with
  | nil => exact ⟨retention, hretention, hmode, le_refl _⟩
  | cons call calls ih =>
      obtain ⟨next, hnext, hnextMode, hle⟩ := (hstep version call hversion).compliance retention
        hretention (hcalls call List.mem_cons_self) hmode
      obtain ⟨later, hlater, hlaterMode, hle'⟩ := ih (hgood version call hversion) hnext hnextMode
        fun other hother => lt_of_lt_of_le (hcalls other (List.mem_cons_of_mem _ hother)) hle
      exact ⟨later, hlater, hlaterMode, le_trans hle hle'⟩

/-- Without a bypass, a run shortens no retention before its date. -/
theorem run_unbypassed (hgood : ∀ version call, Good version → Good (step version call))
    (hstep : ∀ version call, Good version →
      Firmer call.1 call.2.bypasses version.retention (step version call).retention)
    {version : ObjectVersion} (hversion : Good version) {retention : ObjectRetention}
    (hretention : retention ∈ version.retention) {calls : List (Time × S3ObjectLockMutation)}
    (hcalls : ∀ call ∈ calls, call.1 < retention.retainUntil ∧ call.2.bypasses = false) :
    ∃ later ∈ (calls.foldl step version).retention,
      retention.retainUntil ≤ later.retainUntil := by
  induction calls generalizing version retention with
  | nil => exact ⟨retention, hretention, le_refl _⟩
  | cons call calls ih =>
      obtain ⟨hbefore, hbypass⟩ := hcalls call List.mem_cons_self
      obtain ⟨next, hnext, hle⟩ := (hstep version call hversion).unbypassed hbypass retention
        hretention hbefore
      obtain ⟨later, hlater, hle'⟩ := ih (hgood version call hversion) hnext fun other hother =>
        ⟨lt_of_lt_of_le (hcalls other (List.mem_cons_of_mem _ hother)).1 hle,
          (hcalls other (List.mem_cons_of_mem _ hother)).2⟩
      exact ⟨later, hlater, le_trans hle hle'⟩

end Run

theorem deleteLockReasonAt_compliance {version : ObjectVersion} {deletedAt : Time} {bypass : Bool}
    (h : deleteLockReasonAt version deletedAt bypass = some .complianceRetention) :
    ∃ retention ∈ version.retention, retention.mode = .compliance ∧
      deletedAt < retention.retainUntil := by
  unfold deleteLockReasonAt at h
  split at h
  · cases h
  · split at h
    · cases h
    · rename_i retention hretention
      split at h
      · cases h
      · rename_i hbefore
        split at h
        · rename_i hmode
          exact ⟨retention, hretention, hmode, not_le.1 hbefore⟩
        · split at h <;> cases h

theorem deleteLockReasonAt_isSome {version : ObjectVersion} {retention : ObjectRetention}
    (hretention : retention ∈ version.retention) (hmode : retention.mode = .compliance)
    {deletedAt : Time} (hbefore : deletedAt < retention.retainUntil) (bypass : Bool) :
    (deleteLockReasonAt version deletedAt bypass).isSome := by
  have hsome : version.retention = some retention := hretention
  unfold deleteLockReasonAt
  split
  · rfl
  · simp [hsome, not_le.2 hbefore, hmode]

/-- What a run of updates keeps of a retention, and of its lock, at every time before its date. -/
def Lasting (step : ObjectVersion → Time × S3ObjectLockMutation → ObjectVersion)
    (Good : ObjectVersion → Prop) : Prop :=
  ∀ version, Good version → ∀ retention ∈ version.retention,
    ∀ (calls : List (Time × S3ObjectLockMutation)) (now : Time), (∀ call ∈ calls, call.1 ≤ now) →
      now < retention.retainUntil →
      (retention.mode = .compliance →
        (∃ later ∈ (calls.foldl step version).retention, later.mode = .compliance ∧
          retention.retainUntil ≤ later.retainUntil) ∧
        ∀ bypass, (deleteLockReasonAt (calls.foldl step version) now bypass).isSome) ∧
      ((∀ call ∈ calls, call.2.bypasses = false) →
        ∃ later ∈ (calls.foldl step version).retention,
          retention.retainUntil ≤ later.retainUntil)

theorem lasting_of_firmer {step : ObjectVersion → Time × S3ObjectLockMutation → ObjectVersion}
    {Good : ObjectVersion → Prop} (hgood : ∀ version call, Good version → Good (step version call))
    (hstep : ∀ version call, Good version →
      Firmer call.1 call.2.bypasses version.retention (step version call).retention) :
    Lasting step Good := by
  intro version hversion retention hretention calls now hcalls hnow
  have hbefore : ∀ call ∈ calls, call.1 < retention.retainUntil := fun call hcall =>
    lt_of_le_of_lt (hcalls call hcall) hnow
  refine ⟨fun hmode => ?_, fun hbypass => ?_⟩
  · obtain ⟨later, hlater, hlaterMode, hle⟩ :=
      run_compliance hgood hstep hversion hretention hmode hbefore
    exact ⟨⟨later, hlater, hlaterMode, hle⟩, fun bypass =>
      deleteLockReasonAt_isSome hlater hlaterMode (lt_of_lt_of_le hnow hle) bypass⟩
  · exact run_unbypassed hgood hstep hversion hretention fun call hcall =>
      ⟨hbefore call hcall, hbypass call hcall⟩

/-- A data version under Compliance retention until the fifth second. -/
def retainedVersion : ObjectVersion where
  id := 1
  objectId := 2
  applicationId := 3
  bucketId := 4
  externalVersionId := .null
  generation := 1
  state := .committed
  payload := .object ⟨⟨.localStore, .object 3 4 1⟩, .text "etag", 0, none, [], none⟩
  retention := some ⟨.compliance, Time.seconds 5⟩
  legalHold := false
  createdBy := "client"
  createdAt := 0
  becameNoncurrentAt := none
  supersededAt := none
  generation_ne_zero := by decide
  createdBy_valid := by decide
  marker_unlocked := nofun

/-- Retention updates are monotone, in the functions of the core and in the rows of the store. -/
theorem retention_monotone :
    (∀ version call,
      Firmer call.1 call.2.bypasses version.retention (applyLock version call).retention) ∧
    (∀ version now retention bypassGovernance updated,
      updateLock version now (.retention retention bypassGovernance) = some updated →
        now < retention.retainUntil ∧ updated.retention = some retention) ∧
    (∀ version call, updateLock version call.1 call.2 = none → applyLock version call = version) ∧
    Lasting applyLock (fun _ => True) ∧
      Lasting storeLock (fun version => IsStored version.retention) ∧
    ∀ version reportedAt bypass,
      deleteLockReasonAt version reportedAt bypass = some .complianceRetention →
      ∃ retention ∈ version.retention, reportedAt < retention.retainUntil ∧
        ∀ (calls : List (Time × S3ObjectLockMutation)) (now : Time),
          (∀ call ∈ calls, call.1 ≤ now) → now < retention.retainUntil → ∀ bypass',
            (deleteLockReasonAt (calls.foldl applyLock version) now bypass').isSome := by
  have hlasting : Lasting applyLock fun _ => True :=
    lasting_of_firmer (fun _ _ _ => trivial) fun version call _ => applyLock_firmer version call
  refine ⟨applyLock_firmer, ?_, ?_, hlasting, ?_, ?_⟩
  · intro version now retention bypassGovernance updated hupdated
    rcases updateLock_cases hupdated with ⟨_, _, heq, hresult⟩ | ⟨_, heq, _⟩
    · cases heq
      exact ⟨(withRetentionUpdate_ok hresult).1, (withRetentionUpdate_ok hresult).2.1⟩
    · cases heq
  · intro version call hrefused
    rw [applyLock, hrefused, Option.getD_none]
  · exact lasting_of_firmer (fun _ call => storeLock_stored call)
      fun _ call => storeLock_firmer call
  · intro version reportedAt bypass hreported
    obtain ⟨retention, hretention, hmode, hbefore⟩ := deleteLockReasonAt_compliance hreported
    refine ⟨retention, hretention, hbefore, fun calls now hcalls hnow bypass' => ?_⟩
    exact ((hlasting version trivial retention hretention calls now hcalls hnow).1 hmode).2 bypass'

/-- An attempt to shorten it, and one to turn it into Governance. -/
theorem retention_monotone_retained :
    ∃ retention ∈ retainedVersion.retention, Time.seconds 1 < retention.retainUntil ∧
      (deleteLockReasonAt ([(Time.seconds 2, .retention ⟨.compliance, Time.seconds 3⟩ true),
        (Time.seconds 3, .retention ⟨.governance, Time.seconds 9⟩ true)].foldl applyLock
          retainedVersion) (Time.seconds 4) true).isSome := by
  obtain ⟨retention, hretention, hbefore, hlocked⟩ :=
    retention_monotone.2.2.2.2.2 retainedVersion (Time.seconds 1) true (by decide)
  cases hretention
  exact ⟨_, rfl, hbefore, hlocked _ (Time.seconds 4) (by decide) (by decide) true⟩

end MediaHub.Store
