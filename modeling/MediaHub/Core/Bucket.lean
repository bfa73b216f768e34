import MediaHub.Core.Basic

namespace MediaHub.Core

/-- `Unversioned` is an initial state that is never restored. -/
inductive VersioningStatus where
  | unversioned
  | enabled
  | suspended
deriving DecidableEq

def VersioningStatus.canTransitionTo : VersioningStatus → VersioningStatus → Bool
  | .unversioned, .unversioned | .unversioned, .enabled => true
  | .enabled, .enabled | .enabled, .suspended => true
  | .suspended, .enabled | .suspended, .suspended => true
  | _, _ => false

inductive S3ModelError where
  | invalidRegion
  | invalidDefaultRetention
  | retentionRequiresObjectLock
  | invalidLifecycleConfiguration
  | invalidUploadIntent
  | invalidStorageGcTask
  | invalidConfigurationRevision
  | objectLockRequiresEnabledVersioning
  | invalidVersioningTransition (old new : VersioningStatus)
  | invalidObjectKey
  | invalidVersionId
  | invalidObjectGeneration
  | invalidObjectVersionPayload
  | invalidObjectRetention
  | objectVersionOwnershipMismatch
  | invalidCreatedBy
deriving DecidableEq

def VersioningStatus.debugName : VersioningStatus → String
  | .unversioned => "Unversioned"
  | .enabled => "Enabled"
  | .suspended => "Suspended"

/-- The text of an error, as `Display` renders it. -/
def S3ModelError.message : S3ModelError → String
  | .invalidRegion => "S3 region is invalid"
  | .invalidDefaultRetention => "default retention period must be positive"
  | .retentionRequiresObjectLock => "default retention requires Object Lock"
  | .invalidLifecycleConfiguration => "lifecycle configuration must be a JSON object"
  | .invalidUploadIntent => "upload intent is invalid"
  | .invalidStorageGcTask => "storage garbage-collection task is invalid"
  | .invalidConfigurationRevision => "S3 configuration revision must be positive"
  | .objectLockRequiresEnabledVersioning => "Object Lock requires versioning to remain enabled"
  | .invalidVersioningTransition old new =>
      "versioning cannot transition from " ++ old.debugName ++ " to " ++ new.debugName
  | .invalidObjectKey => "object key is invalid"
  | .invalidVersionId => "object version ID is invalid"
  | .invalidObjectGeneration => "object version generation is invalid"
  | .invalidObjectVersionPayload => "object version payload is invalid"
  | .invalidObjectRetention => "object retention is invalid"
  | .objectVersionOwnershipMismatch => "object version does not belong to the logical object"
  | .invalidCreatedBy => "object version creator is invalid"

inductive RetentionMode where
  | governance
  | compliance
deriving DecidableEq

structure ObjectRetention where
  mode : RetentionMode
  retainUntil : Time
deriving DecidableEq

inductive DefaultRetentionPeriod where
  | days (value : Nat)
  | years (value : Nat)
deriving DecidableEq

def DefaultRetentionPeriod.isValid : DefaultRetentionPeriod → Bool
  | .days value | .years value => 0 < value

structure DefaultRetention where
  mode : RetentionMode
  period : DefaultRetentionPeriod
  valid : period.isValid
deriving DecidableEq

/-- Resolves a bucket default into the timestamp frozen on a new version. Year periods use
calendar years; 29 February falls back to the 28th. -/
def DefaultRetention.forObjectAt (retention : DefaultRetention) (createdAt : Time) :
    Except S3ModelError ObjectRetention :=
  match retention.period with
  | .days days =>
      match Time.checkedAdd createdAt (Time.days days) with
      | some retainUntil => .ok ⟨retention.mode, retainUntil⟩
      | none => .error .invalidObjectRetention
  | .years years =>
      let date := Time.date createdAt
      let year := date.year + years
      match (date.replaceYear year).or ({ date with day := 28 }.replaceYear year) with
      | some date => .ok ⟨retention.mode, Time.replaceDate createdAt date⟩
      | none => .error .invalidObjectRetention

inductive S3LifecycleRuleStatus where
  | enabled
  | disabled
deriving DecidableEq

inductive S3LifecycleFilter where
  | empty
  | prefixed (pre : String)
deriving DecidableEq

inductive S3Expiration where
  | days (days : Nat)
  | date (date : Time)
  | expiredObjectDeleteMarker
deriving DecidableEq

structure S3LifecycleRule where
  id : Option String
  status : S3LifecycleRuleStatus
  filter : S3LifecycleFilter
  expiration : Option S3Expiration
  noncurrentDays : Option Nat
  daysAfterInitiation : Option Nat
deriving DecidableEq

def S3LifecycleRule.isValid (rule : S3LifecycleRule) : Bool :=
  (match rule.id with
    | some id => id ≠ "" && id.utf8ByteSize ≤ 255 && !hasAsciiControl id
    | none => true) &&
  (match rule.filter with
    | .empty => true
    | .prefixed pre => pre.utf8ByteSize ≤ 1024 && !pre.toList.contains '\x00') &&
  rule.expiration ≠ some (.days 0) && rule.noncurrentDays ≠ some 0 &&
  rule.daysAfterInitiation ≠ some 0 &&
  (rule.expiration.isSome || rule.noncurrentDays.isSome || rule.daysAfterInitiation.isSome)

/-- At most 1000 valid rules with distinct ids. -/
def validLifecycleRules (rules : List S3LifecycleRule) : Bool :=
  rules ≠ [] && rules.length ≤ 1000 && rules.all S3LifecycleRule.isValid &&
  decide (rules.filterMap S3LifecycleRule.id).Nodup

structure S3LifecycleConfiguration where
  rules : List S3LifecycleRule
  valid : validLifecycleRules rules
deriving DecidableEq

/-- Bucket-scoped S3 configuration. A value satisfies what `from_persistence` checks. -/
structure BucketS3Configuration where
  versioningStatus : VersioningStatus
  objectLockEnabled : Bool
  defaultRetention : Option DefaultRetention
  lifecycleConfiguration : Option S3LifecycleConfiguration
  revision : Nat
  updatedAt : Time
  enabled_of_lock : objectLockEnabled → versioningStatus = .enabled
  lock_of_retention : defaultRetention.isSome → objectLockEnabled
  revision_pos : 0 < revision
deriving DecidableEq

namespace BucketS3Configuration

/-- The flag tells whether anything changed. -/
def transitionVersioning (configuration : BucketS3Configuration) (next : VersioningStatus)
    (now : Time) : Except S3ModelError (Bool × BucketS3Configuration) :=
  if hlock : configuration.objectLockEnabled ∧ next ≠ .enabled then
    .error .objectLockRequiresEnabledVersioning
  else if !configuration.versioningStatus.canTransitionTo next then
    .error (.invalidVersioningTransition configuration.versioningStatus next)
  else if configuration.versioningStatus = next then .ok (false, configuration)
  else match checkedAddU64 configuration.revision 1 with
    | none => .error .invalidConfigurationRevision
    | some _ => .ok (true, { configuration with
        versioningStatus := next
        revision := configuration.revision + 1
        updatedAt := now
        enabled_of_lock := fun h => by
          by_contra hnext
          exact hlock ⟨h, hnext⟩
        revision_pos := Nat.succ_pos _ })

def replaceLifecycleConfiguration (configuration : BucketS3Configuration)
    (lifecycleConfiguration : Option S3LifecycleConfiguration) (now : Time) :
    Except S3ModelError (Bool × BucketS3Configuration) :=
  if configuration.lifecycleConfiguration = lifecycleConfiguration then
    .ok (false, configuration)
  else match checkedAddU64 configuration.revision 1 with
    | none => .error .invalidConfigurationRevision
    | some _ => .ok (true, { configuration with
        lifecycleConfiguration
        revision := configuration.revision + 1
        updatedAt := now
        revision_pos := Nat.succ_pos _ })

/-- Object Lock is irreversible, and enabling it also enables versioning. -/
def replaceObjectLockConfiguration (configuration : BucketS3Configuration)
    (defaultRetention : Option DefaultRetention) (now : Time) :
    Except S3ModelError (Bool × BucketS3Configuration) :=
  if configuration.objectLockEnabled ∧ configuration.versioningStatus = .enabled ∧
      configuration.defaultRetention = defaultRetention then
    .ok (false, configuration)
  else match checkedAddU64 configuration.revision 1 with
    | none => .error .invalidConfigurationRevision
    | some _ => .ok (true, { configuration with
        objectLockEnabled := true
        versioningStatus := .enabled
        defaultRetention
        revision := configuration.revision + 1
        updatedAt := now
        enabled_of_lock := fun _ => rfl
        lock_of_retention := fun _ => rfl
        revision_pos := Nat.succ_pos _ })

theorem transitionVersioning_status {configuration configuration' : BucketS3Configuration}
    {next : VersioningStatus} {now : Time} {changed : Bool}
    (h : configuration.transitionVersioning next now = .ok (changed, configuration')) :
    configuration'.versioningStatus = next ∧
      configuration.versioningStatus.canTransitionTo next ∧
      configuration'.objectLockEnabled = configuration.objectLockEnabled := by
  unfold transitionVersioning at h
  split at h
  · cases h
  split at h
  · cases h
  rename_i htransition
  have hallowed : configuration.versioningStatus.canTransitionTo next := by
    simpa using htransition
  split at h
  · rename_i hsame
    cases h
    exact ⟨hsame, hallowed, rfl⟩
  split at h
  · cases h
  · cases h
    exact ⟨rfl, hallowed, rfl⟩

theorem replaceLifecycleConfiguration_status
    {configuration configuration' : BucketS3Configuration}
    {lifecycle : Option S3LifecycleConfiguration} {now : Time} {changed : Bool}
    (h : configuration.replaceLifecycleConfiguration lifecycle now =
      .ok (changed, configuration')) :
    configuration'.versioningStatus = configuration.versioningStatus ∧
      configuration'.objectLockEnabled = configuration.objectLockEnabled := by
  unfold replaceLifecycleConfiguration at h
  split at h
  · cases h
    exact ⟨rfl, rfl⟩
  split at h
  · cases h
  · cases h
    exact ⟨rfl, rfl⟩

theorem replaceObjectLockConfiguration_status
    {configuration configuration' : BucketS3Configuration}
    {retention : Option DefaultRetention} {now : Time} {changed : Bool}
    (h : configuration.replaceObjectLockConfiguration retention now =
      .ok (changed, configuration')) :
    configuration'.versioningStatus = .enabled ∧ configuration'.objectLockEnabled = true := by
  unfold replaceObjectLockConfiguration at h
  split at h
  · rename_i hsame
    cases h
    exact ⟨hsame.2.1, hsame.1⟩
  split at h
  · cases h
  · cases h
    exact ⟨rfl, rfl⟩

end BucketS3Configuration

/-- The S3 view of a bucket. -/
structure S3Bucket where
  id : BucketId
  applicationId : ApplicationId
  name : String
  configuration : BucketS3Configuration
  createdAt : Time
deriving DecidableEq

end MediaHub.Core
