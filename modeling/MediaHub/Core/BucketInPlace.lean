import MediaHub.Core.Bucket
import MediaHub.Text.Result
import MediaHub.Transition.System

namespace MediaHub.Core.InPlace

open Result Transition Transition.Method

def maxRegionBytes : Nat := 63

def validateRegion (region : String) : Except S3ModelError Unit :=
  if region ≠ "" && region.utf8ByteSize ≤ maxRegionBytes &&
      region.toList.all (fun c => c.isAlphanum || c = '-') &&
      region.toList.head? ≠ some '-' && region.toList.getLast? ≠ some '-' then .ok ()
  else .error .invalidRegion

/-- A list of rules that nothing was checked of. -/
structure S3LifecycleConfiguration where
  rules : List S3LifecycleRule
deriving DecidableEq

/-- The rules from here on, after rules with these ids. -/
def validateRules (ids : List String) : List S3LifecycleRule → Except S3ModelError Unit
  | [] => .ok ()
  | rule :: rules =>
      if !rule.isValid then .error .invalidLifecycleConfiguration
      else
        match rule.id with
        | none => validateRules ids rules
        | some id =>
            if id ∈ ids then .error .invalidLifecycleConfiguration
            else validateRules (id :: ids) rules

def S3LifecycleConfiguration.validate (self : S3LifecycleConfiguration) :
    Except S3ModelError Unit :=
  if self.rules = [] ∨ 1000 < self.rules.length then .error .invalidLifecycleConfiguration
  else validateRules [] self.rules

/-- `if let Some(configuration) = .. { configuration.validate()? }` -/
def validateLifecycle : Option S3LifecycleConfiguration → Except S3ModelError Unit
  | some configuration => configuration.validate
  | none => .ok ()

theorem validateRules_eq_ok_iff {rules : List S3LifecycleRule} {ids : List String} :
    validateRules ids rules = .ok () ↔
      (∀ rule ∈ rules, rule.isValid = true) ∧ (rules.filterMap S3LifecycleRule.id).Nodup ∧
        ∀ id ∈ rules.filterMap S3LifecycleRule.id, id ∉ ids := by
  induction rules generalizing ids with
  | nil => simp [validateRules]
  | cons rule rules ih =>
      rw [validateRules]
      by_cases hvalid : rule.isValid = true
      · cases hid : rule.id with
        | none => simp [hvalid, hid, ih]
        | some id =>
            by_cases hmem : id ∈ ids
            · simp [hvalid, hid, hmem]
            · simp only [hvalid, hid, hmem, ih, Bool.not_true, Bool.false_eq_true, if_false,
                List.mem_cons, forall_eq_or_imp, List.filterMap_cons, List.nodup_cons, not_or,
                true_and]
              grind
      · simp [hvalid]

/-- The check of the value is the check of the rules that carry their proof. -/
theorem S3LifecycleConfiguration.validate_eq_ok_iff {self : S3LifecycleConfiguration} :
    self.validate = .ok () ↔ validLifecycleRules self.rules = true := by
  rw [validate, validLifecycleRules]
  split
  · next h =>
      rcases h with h | h
      · simp [h]
      · have hlength : ¬ self.rules.length ≤ 1000 := Nat.not_le.2 h
        simp [hlength]
  · next h =>
      obtain ⟨hne, hlength⟩ := not_or.1 h
      rw [validateRules_eq_ok_iff]
      simp [hne, Nat.le_of_not_lt hlength]

theorem validateLifecycle_eq_ok_iff {lifecycleConfiguration : Option S3LifecycleConfiguration} :
    validateLifecycle lifecycleConfiguration = .ok () ↔
      ∀ configuration ∈ lifecycleConfiguration,
        validLifecycleRules configuration.rules = true := by
  cases lifecycleConfiguration with
  | none => simp [validateLifecycle]
  | some configuration =>
      rw [validateLifecycle, S3LifecycleConfiguration.validate_eq_ok_iff]
      simp

structure PersistedBucketS3Configuration where
  region : String
  versioningStatus : VersioningStatus
  objectLockEnabled : Bool
  defaultRetention : Option DefaultRetention
  lifecycleConfiguration : Option S3LifecycleConfiguration
  revision : Nat
  updatedAt : Time

structure BucketS3Configuration where
  region : String
  versioningStatus : VersioningStatus
  objectLockEnabled : Bool
  defaultRetention : Option DefaultRetention
  lifecycleConfiguration : Option S3LifecycleConfiguration
  revision : Nat
  updatedAt : Time
deriving DecidableEq

namespace BucketS3Configuration

def fromPersistence (persisted : PersistedBucketS3Configuration) :
    Except S3ModelError BucketS3Configuration := do
  validateRegion persisted.region
  rejectIf (persisted.revision = 0) .invalidConfigurationRevision
  validateLifecycle persisted.lifecycleConfiguration
  rejectIf (persisted.defaultRetention.isSome = true ∧ persisted.objectLockEnabled = false)
    .retentionRequiresObjectLock
  rejectIf (persisted.objectLockEnabled = true ∧ persisted.versioningStatus ≠ .enabled)
    .objectLockRequiresEnabledVersioning
  return {
    region := persisted.region
    versioningStatus := persisted.versioningStatus
    objectLockEnabled := persisted.objectLockEnabled
    defaultRetention := persisted.defaultRetention
    lifecycleConfiguration := persisted.lifecycleConfiguration
    revision := persisted.revision
    updatedAt := persisted.updatedAt }

abbrev Step := Method BucketS3Configuration S3ModelError

/-- `self.revision = self.revision.checked_add(1).ok_or(..)?` -/
def incrementRevision : Step Unit := do
  reject (fun self => (checkedAddU64 self.revision 1).isNone) fun _ =>
    .invalidConfigurationRevision
  assign fun self => { self with revision := self.revision + 1 }

def transitionVersioning (next : VersioningStatus) (now : Time) : Step Bool := do
  reject (fun self => self.objectLockEnabled && next ≠ .enabled) fun _ =>
    .objectLockRequiresEnabledVersioning
  reject (fun self => !self.versioningStatus.canTransitionTo next) fun self =>
    .invalidVersioningTransition self.versioningStatus next
  let same ← observe fun self => decide (self.versioningStatus = next)
  if same then return false
  else
    assign fun self => { self with versioningStatus := next }
    incrementRevision
    assign fun self => { self with updatedAt := now }
    return true

def replaceLifecycleConfiguration (lifecycleConfiguration : Option S3LifecycleConfiguration)
    (now : Time) : Step Bool := do
  check (validateLifecycle lifecycleConfiguration)
  let same ← observe fun self => decide (self.lifecycleConfiguration = lifecycleConfiguration)
  if same then return false
  else
    assign fun self => { self with lifecycleConfiguration := lifecycleConfiguration }
    incrementRevision
    assign fun self => { self with updatedAt := now }
    return true

def replaceObjectLockConfiguration (defaultRetention : Option DefaultRetention) (now : Time) :
    Step Bool := do
  let same ← observe fun self => decide (self.objectLockEnabled = true ∧
    self.versioningStatus = .enabled ∧ self.defaultRetention = defaultRetention)
  if same then return false
  else
    assign fun self => { self with objectLockEnabled := true }
    assign fun self => { self with versioningStatus := .enabled }
    assign fun self => { self with defaultRetention := defaultRetention }
    incrementRevision
    assign fun self => { self with updatedAt := now }
    return true

inductive Call where
  | transitionVersioning (next : VersioningStatus)
  | replaceLifecycleConfiguration (lifecycleConfiguration : Option S3LifecycleConfiguration)
  | replaceObjectLockConfiguration (defaultRetention : Option DefaultRetention)

namespace Call

def perform (now : Time) : Call → Step Bool
  | .transitionVersioning next => BucketS3Configuration.transitionVersioning next now
  | .replaceLifecycleConfiguration lifecycleConfiguration =>
      BucketS3Configuration.replaceLifecycleConfiguration lifecycleConfiguration now
  | .replaceObjectLockConfiguration defaultRetention =>
      BucketS3Configuration.replaceObjectLockConfiguration defaultRetention now

/-- The configuration that a call asks for, when it is one that the call may ask for. -/
def request (self : BucketS3Configuration) :
    Call → Except S3ModelError BucketS3Configuration
  | .transitionVersioning next =>
      if self.objectLockEnabled && next ≠ .enabled then
        .error .objectLockRequiresEnabledVersioning
      else if !self.versioningStatus.canTransitionTo next then
        .error (.invalidVersioningTransition self.versioningStatus next)
      else .ok { self with versioningStatus := next }
  | .replaceLifecycleConfiguration lifecycleConfiguration => do
      validateLifecycle lifecycleConfiguration
      return { self with lifecycleConfiguration := lifecycleConfiguration }
  | .replaceObjectLockConfiguration defaultRetention =>
      .ok { self with
        objectLockEnabled := true
        versioningStatus := .enabled
        defaultRetention := defaultRetention }

end Call

/-- What a mutator does with the configuration it was asked for: it is written before the revision
is counted. -/
def settle (self wanted : BucketS3Configuration) (now : Time) :
    Except S3ModelError Bool × BucketS3Configuration :=
  if wanted = self then (.ok false, self)
  else if wanted.revision < maxU64 then
    (.ok true, { wanted with revision := wanted.revision + 1, updatedAt := now })
  else (.error .invalidConfigurationRevision, wanted)

/-- The statements after the assignments. -/
theorem run_count (wanted : BucketS3Configuration) (now : Time) :
    (do
      incrementRevision
      assign fun self => { self with updatedAt := now }
      return true : Step Bool).run wanted =
      if wanted.revision < maxU64 then
        (.ok true, { wanted with revision := wanted.revision + 1, updatedAt := now })
      else (.error .invalidConfigurationRevision, wanted) := by
  have hcount : incrementRevision.run wanted =
      if wanted.revision < maxU64 then
        (.ok (), { wanted with revision := wanted.revision + 1 })
      else (.error .invalidConfigurationRevision, wanted) := by
    rw [incrementRevision, run_reject_bind, checkedAddU64]
    by_cases hlt : wanted.revision < maxU64
    · have hle : wanted.revision + 1 ≤ maxU64 := hlt
      rw [if_pos hle, if_pos hlt]
      rfl
    · have hle : ¬ wanted.revision + 1 ≤ maxU64 := hlt
      rw [if_neg hle, if_neg hlt]
      rfl
  split
  · next hlt =>
      rw [if_pos hlt] at hcount
      rw [run_bind_of_ok hcount]
      rfl
  · next hlt =>
      rw [if_neg hlt] at hcount
      rw [run_bind_of_error hcount]

/-- A method that writes what it was asked for, unless there is nothing to write. -/
theorem run_unless_same {same : Prop} [Decidable same] {write : Step Bool}
    {self wanted : BucketS3Configuration} {now : Time} (hsame : wanted = self ↔ same)
    (hwrite : write.run self =
      (do
        incrementRevision
        assign fun self => { self with updatedAt := now }
        return true : Step Bool).run wanted) :
    (if decide same then return false else write).run self = settle self wanted now := by
  rw [settle]
  by_cases h : same
  · rw [if_pos (decide_eq_true h), if_pos (hsame.2 h)]
    rfl
  · have hne : ¬ wanted = self := fun heq => h (hsame.1 heq)
    rw [if_neg (by simpa using h), if_neg hne, hwrite, run_count]

theorem versioning_eq_self_iff {self : BucketS3Configuration} {next : VersioningStatus} :
    { self with versioningStatus := next } = self ↔ self.versioningStatus = next := by
  obtain ⟨_, status, _, _, _, _, _⟩ := self
  simp [eq_comm]

theorem lifecycle_eq_self_iff {self : BucketS3Configuration}
    {lifecycleConfiguration : Option S3LifecycleConfiguration} :
    { self with lifecycleConfiguration := lifecycleConfiguration } = self ↔
      self.lifecycleConfiguration = lifecycleConfiguration := by
  obtain ⟨_, _, _, _, lifecycle, _, _⟩ := self
  simp [eq_comm]

theorem objectLock_eq_self_iff {self : BucketS3Configuration}
    {defaultRetention : Option DefaultRetention} :
    { self with
      objectLockEnabled := true
      versioningStatus := .enabled
      defaultRetention := defaultRetention } = self ↔
    self.objectLockEnabled = true ∧ self.versioningStatus = .enabled ∧
      self.defaultRetention = defaultRetention := by
  obtain ⟨_, status, lock, retention, _, _, _⟩ := self
  simp only [BucketS3Configuration.mk.injEq, true_and, and_true]
  grind

/-- What a call does is one rule over what it asks for. -/
theorem run_perform (call : Call) (now : Time) (self : BucketS3Configuration) :
    (call.perform now).run self =
      match call.request self with
      | .error e => (.error e, self)
      | .ok wanted => settle self wanted now := by
  cases call with
  | transitionVersioning next =>
      rw [Call.perform, transitionVersioning, run_reject_bind, run_reject_bind, run_observe_bind,
        Call.request]
      split
      · rfl
      · split
        · rfl
        · exact run_unless_same versioning_eq_self_iff rfl
  | replaceLifecycleConfiguration lifecycleConfiguration =>
      rw [Call.perform, replaceLifecycleConfiguration, run_check_bind, Call.request]
      cases validateLifecycle lifecycleConfiguration with
      | error e => rfl
      | ok _ => exact run_unless_same lifecycle_eq_self_iff rfl
  | replaceObjectLockConfiguration defaultRetention =>
      rw [Call.perform, replaceObjectLockConfiguration, run_observe_bind, Call.request]
      exact run_unless_same objectLock_eq_self_iff rfl

end BucketS3Configuration

end MediaHub.Core.InPlace
