import MediaHub.Core.BucketInPlace
import MediaHub.Transition.System

namespace MediaHub.Core.InPlace

open Result Transition

namespace BucketS3Configuration

/-- What holds of every configuration. -/
structure Invariant (configuration : BucketS3Configuration) : Prop where
  enabled_of_lock : configuration.objectLockEnabled = true →
    configuration.versioningStatus = .enabled
  lock_of_retention : configuration.defaultRetention.isSome = true →
    configuration.objectLockEnabled = true

/-- What is never undone. -/
structure Keeps (before after : BucketS3Configuration) : Prop where
  versioned : after.versioningStatus = .unversioned → before.versioningStatus = .unversioned
  locked : before.objectLockEnabled = true → after.objectLockEnabled = true

/-- The fields that are configured, all but the revision and the time of the last change. -/
def SameFields (left right : BucketS3Configuration) : Prop :=
  left.region = right.region ∧ left.versioningStatus = right.versioningStatus ∧
    left.objectLockEnabled = right.objectLockEnabled ∧
    left.defaultRetention = right.defaultRetention ∧
    left.lifecycleConfiguration = right.lifecycleConfiguration

instance (left right : BucketS3Configuration) : Decidable (left.SameFields right) := by
  unfold SameFields
  infer_instance

theorem invariant_of_fromPersistence {persisted : PersistedBucketS3Configuration}
    {self : BucketS3Configuration} (h : fromPersistence persisted = .ok self) :
    self.Invariant := by
  simp only [fromPersistence, andThen_eq_ok_iff, rejectIf_eq_ok_iff, pure_eq_ok_iff] at h
  obtain ⟨_, _, _, hretention, hlock, rfl⟩ := h
  constructor
  · intro hlocked
    by_contra hstatus
    exact hlock ⟨hlocked, hstatus⟩
  · intro hsome
    by_contra hunlocked
    exact hretention ⟨hsome, eq_false_of_ne_true hunlocked⟩

namespace Call

/-- The call passes its checks and asks for another configuration, so that it counts a revision. -/
def counts (self : BucketS3Configuration) : Call → Bool
  | .transitionVersioning next =>
      (!self.objectLockEnabled || next = .enabled) &&
        self.versioningStatus.canTransitionTo next && self.versioningStatus ≠ next
  | .replaceLifecycleConfiguration lifecycleConfiguration =>
      lifecycleConfiguration.all (fun configuration => validLifecycleRules configuration.rules) &&
        self.lifecycleConfiguration ≠ lifecycleConfiguration
  | .replaceObjectLockConfiguration defaultRetention =>
      !self.objectLockEnabled || self.versioningStatus ≠ .enabled ||
        self.defaultRetention ≠ defaultRetention

/-- What a call asks for, case by case. -/
inductive Asks (self : BucketS3Configuration) : Call → BucketS3Configuration → Prop
  | versioning {next : VersioningStatus}
      (lock : self.objectLockEnabled = true → next = .enabled)
      (transition : self.versioningStatus.canTransitionTo next = true) :
      Asks self (.transitionVersioning next) { self with versioningStatus := next }
  | lifecycle {lifecycleConfiguration : Option S3LifecycleConfiguration}
      (valid : ∀ configuration ∈ lifecycleConfiguration,
        validLifecycleRules configuration.rules = true) :
      Asks self (.replaceLifecycleConfiguration lifecycleConfiguration)
        { self with lifecycleConfiguration := lifecycleConfiguration }
  | objectLock {defaultRetention : Option DefaultRetention} :
      Asks self (.replaceObjectLockConfiguration defaultRetention)
        { self with
          objectLockEnabled := true
          versioningStatus := .enabled
          defaultRetention := defaultRetention }

theorem request_eq_ok_iff {call : Call} {self wanted : BucketS3Configuration} :
    call.request self = .ok wanted ↔ call.Asks self wanted := by
  constructor
  · intro h
    cases call with
    | transitionVersioning next =>
        rw [request] at h
        split at h
        · cases h
        · next hlock =>
            split at h
            · cases h
            · next htransition =>
                cases h
                refine .versioning (fun hlocked => ?_) (by simpa using htransition)
                simpa [hlocked] using hlock
    | replaceLifecycleConfiguration lifecycleConfiguration =>
        rw [request, bind_eq_ok_iff] at h
        obtain ⟨_, hvalidate, h⟩ := h
        cases h
        exact .lifecycle (validateLifecycle_eq_ok_iff.1 hvalidate)
    | replaceObjectLockConfiguration defaultRetention =>
        cases h
        exact .objectLock
  · intro h
    cases h with
    | @versioning next lock transition =>
        have hlock : (self.objectLockEnabled && decide (next ≠ .enabled)) = false := by
          cases hlocked : self.objectLockEnabled with
          | false => rfl
          | true => simp [lock hlocked]
        rw [request, hlock, transition]
        rfl
    | @lifecycle lifecycleConfiguration valid =>
        rw [request, validateLifecycle_eq_ok_iff.2 valid]
        rfl
    | objectLock => rfl

theorem counts_iff {call : Call} {self : BucketS3Configuration} :
    call.counts self = true ↔ ∃ wanted, call.Asks self wanted ∧ wanted ≠ self := by
  constructor
  · intro h
    cases call with
    | transitionVersioning next =>
        simp only [counts, Bool.and_eq_true, Bool.or_eq_true, Bool.not_eq_true',
          decide_eq_true_eq] at h
        obtain ⟨⟨hlock, htransition⟩, hne⟩ := h
        refine ⟨_, .versioning (fun hlocked => ?_) htransition, fun heq => ?_⟩
        · simpa [hlocked] using hlock
        · exact hne (versioning_eq_self_iff.1 heq)
    | replaceLifecycleConfiguration lifecycleConfiguration =>
        simp only [counts, Bool.and_eq_true, decide_eq_true_eq, Option.all_eq_true] at h
        obtain ⟨hvalid, hne⟩ := h
        exact ⟨_, .lifecycle hvalid, fun heq => hne (lifecycle_eq_self_iff.1 heq)⟩
    | replaceObjectLockConfiguration defaultRetention =>
        refine ⟨_, .objectLock, fun heq => ?_⟩
        obtain ⟨hlock, hstatus, hretention⟩ := objectLock_eq_self_iff.1 heq
        simp [counts, hlock, hstatus, hretention] at h
  · rintro ⟨wanted, hasks, hne⟩
    cases hasks with
    | @versioning next lock transition =>
        have hdiffers := mt versioning_eq_self_iff.2 hne
        cases hlocked : self.objectLockEnabled with
        | false => simp [counts, hlocked, transition, hdiffers]
        | true =>
            obtain rfl := lock hlocked
            simp [counts, transition, hdiffers]
    | @lifecycle lifecycleConfiguration valid =>
        have hdiffers := mt lifecycle_eq_self_iff.2 hne
        simp only [counts, Bool.and_eq_true, decide_eq_true_eq, Option.all_eq_true]
        exact ⟨valid, hdiffers⟩
    | @objectLock defaultRetention =>
        have hdiffers := mt objectLock_eq_self_iff.2 hne
        by_contra hcounts
        apply hdiffers
        simpa [counts, and_assoc] using hcounts

theorem Asks.invariant {call : Call} {self wanted : BucketS3Configuration}
    (h : call.Asks self wanted) (hself : self.Invariant) : wanted.Invariant := by
  cases h with
  | versioning lock _ => exact ⟨lock, hself.lock_of_retention⟩
  | lifecycle _ => exact ⟨hself.enabled_of_lock, hself.lock_of_retention⟩
  | objectLock => exact ⟨fun _ => rfl, fun _ => rfl⟩

theorem Asks.keeps {call : Call} {self wanted : BucketS3Configuration}
    (h : call.Asks self wanted) : self.Keeps wanted := by
  cases h with
  | @versioning next _ transition =>
      refine ⟨fun hnext => ?_, fun hlock => hlock⟩
      obtain rfl : next = .unversioned := hnext
      cases hstatus : self.versioningStatus with
      | unversioned => rfl
      | enabled => simp [hstatus, VersioningStatus.canTransitionTo] at transition
      | suspended => simp [hstatus, VersioningStatus.canTransitionTo] at transition
  | lifecycle _ => exact ⟨fun h => h, fun h => h⟩
  | objectLock => exact ⟨(fun h => nomatch h), fun _ => rfl⟩

theorem Asks.revision {call : Call} {self wanted : BucketS3Configuration}
    (h : call.Asks self wanted) :
    wanted.revision = self.revision ∧ wanted.updatedAt = self.updatedAt := by
  cases h with
  | versioning _ _ => exact ⟨rfl, rfl⟩
  | lifecycle _ => exact ⟨rfl, rfl⟩
  | objectLock => exact ⟨rfl, rfl⟩

theorem Asks.sameFields_iff {call : Call} {self wanted : BucketS3Configuration}
    (h : call.Asks self wanted) : wanted.SameFields self ↔ wanted = self := by
  obtain ⟨hrevision, hupdated⟩ := h.revision
  obtain ⟨_, _, _, _, _, _, _⟩ := self
  obtain ⟨_, _, _, _, _, _, _⟩ := wanted
  simp_all [SameFields]

end Call

/-- The ways in which a call ends. -/
inductive Ends (self : BucketS3Configuration) (call : Call) (now : Time) :
    Except S3ModelError Bool × BucketS3Configuration → Prop
  | refused (e : S3ModelError) (h : call.counts self = false) : Ends self call now (.error e, self)
  | same (h : call.counts self = false) : Ends self call now (.ok false, self)
  | changed {wanted : BucketS3Configuration} (h : call.counts self = true)
      (asks : call.Asks self wanted) (hne : wanted ≠ self) (limit : self.revision < maxU64) :
      Ends self call now
        (.ok true, { wanted with revision := self.revision + 1, updatedAt := now })
  | limit {wanted : BucketS3Configuration} (h : call.counts self = true)
      (asks : call.Asks self wanted) (hne : wanted ≠ self) (limit : ¬ self.revision < maxU64) :
      Ends self call now (.error .invalidConfigurationRevision, wanted)

theorem ends_perform (self : BucketS3Configuration) (call : Call) (now : Time) :
    Ends self call now ((call.perform now).run self) := by
  rw [run_perform]
  cases hrequest : call.request self with
  | error e =>
      refine .refused e ?_
      rw [Bool.eq_false_iff]
      intro hcounts
      obtain ⟨wanted, hasks, _⟩ := Call.counts_iff.1 hcounts
      rw [Call.request_eq_ok_iff.2 hasks] at hrequest
      exact nomatch hrequest
  | ok wanted =>
      have hasks := Call.request_eq_ok_iff.1 hrequest
      show Ends self call now (settle self wanted now)
      rw [settle, hasks.revision.1]
      split
      · next heq =>
          refine .same ?_
          rw [Bool.eq_false_iff]
          intro hcounts
          obtain ⟨other, hother, hne⟩ := Call.counts_iff.1 hcounts
          have hrequested := Call.request_eq_ok_iff.2 hother
          rw [hrequest] at hrequested
          exact hne (Except.ok.inj hrequested ▸ heq)
      · next hne =>
          have hcounts := Call.counts_iff.2 ⟨wanted, hasks, hne⟩
          split
          · next hlimit => exact .changed hcounts hasks hne hlimit
          · next hlimit => exact .limit hcounts hasks hne hlimit

/-- The calls on a configuration that was read back. -/
def receiver : System BucketS3Configuration (Call × Time) where
  init self := ∃ persisted, fromPersistence persisted = .ok self
  step self event := ((event.1.perform event.2).run self).2

/-- What is expected of one call. -/
structure CallMeets (before : BucketS3Configuration) (event : Call × Time) : Prop where
  invariant : ((event.1.perform event.2).run before).2.Invariant
  keeps : before.Keeps ((event.1.perform event.2).run before).2
  changed : ∀ changed, ((event.1.perform event.2).run before).1 = .ok changed →
    (changed = true ↔ ¬ ((event.1.perform event.2).run before).2.SameFields before)
  counted : ((event.1.perform event.2).run before).1 = .ok true →
    ((event.1.perform event.2).run before).2.revision = before.revision + 1
  unchanged : ((event.1.perform event.2).run before).1 = .ok false →
    ((event.1.perform event.2).run before).2 = before
  failed : ∀ e, ((event.1.perform event.2).run before).1 = .error e →
    ((event.1.perform event.2).run before).2 = before

/-- A call that counts a revision finds one left. -/
def BelowLimit (self : BucketS3Configuration) (event : Call × Time) : Prop :=
  event.1.counts self = true → self.revision < maxU64

theorem sameFields_refl (self : BucketS3Configuration) : self.SameFields self :=
  ⟨rfl, rfl, rfl, rfl, rfl⟩

theorem keeps_refl (self : BucketS3Configuration) : self.Keeps self :=
  ⟨fun h => h, fun h => h⟩

/-- Even a call that fails keeps the invariant, and what is never undone. -/
theorem step_invariant (self : BucketS3Configuration) (event : Call × Time)
    (hself : self.Invariant) :
    (receiver.step self event).Invariant ∧ self.Keeps (receiver.step self event) := by
  obtain ⟨call, now⟩ := event
  have hends := ends_perform self call now
  show ((call.perform now).run self).2.Invariant ∧ self.Keeps ((call.perform now).run self).2
  generalize (call.perform now).run self = response at hends
  cases hends with
  | refused e _ => exact ⟨hself, keeps_refl self⟩
  | same _ => exact ⟨hself, keeps_refl self⟩
  | changed _ asks _ _ =>
      have hwanted := asks.invariant hself
      have hkeeps := asks.keeps
      exact ⟨⟨hwanted.enabled_of_lock, hwanted.lock_of_retention⟩,
        ⟨hkeeps.versioned, hkeeps.locked⟩⟩
  | limit _ asks _ _ => exact ⟨asks.invariant hself, asks.keeps⟩

theorem callMeets_iff_belowLimit {self : BucketS3Configuration} (hself : self.Invariant)
    (event : Call × Time) : self.CallMeets event ↔ self.BelowLimit event := by
  obtain ⟨call, now⟩ := event
  have hends := ends_perform self call now
  obtain ⟨hinvariant, hkeeps⟩ := step_invariant self (call, now) hself
  constructor
  · intro h hcounts
    have hfailed := h.failed
    simp only at hfailed hcounts
    generalize (call.perform now).run self = response at hends hfailed
    cases hends with
    | refused _ hnot => simp [hnot] at hcounts
    | same hnot => simp [hnot] at hcounts
    | changed _ _ _ hlimit => exact hlimit
    | limit _ _ hne _ => exact absurd (hfailed _ rfl) hne
  · intro hbelow
    refine ⟨hinvariant, hkeeps, ?_, ?_, ?_, ?_⟩
    all_goals
      simp only
      generalize (call.perform now).run self = response at hends
      cases hends with
      | refused e _ => simp
      | same _ => simp [sameFields_refl]
      | @changed wanted _ asks hne _ =>
          have hdiffers := mt asks.sameFields_iff.1 hne
          simp_all [SameFields]
      | limit hcounts _ _ hlimit => exact absurd (hbelow hcounts) hlimit

/-- In a run from a configuration that was read back every call does what is expected of it
exactly when no call has to count a revision past the last one. -/
theorem along_callMeets_iff {persisted : PersistedBucketS3Configuration}
    {self : BucketS3Configuration} (h : fromPersistence persisted = .ok self)
    (events : List (Call × Time)) :
    self.Invariant ∧
      (receiver.Along CallMeets self events ↔ receiver.Along BelowLimit self events) := by
  have hself := invariant_of_fromPersistence h
  refine ⟨hself, ?_⟩
  clear h
  induction events generalizing self with
  | nil => simp
  | cons event events ih =>
      rw [System.along_cons, System.along_cons, callMeets_iff_belowLimit hself,
        ih (step_invariant self event hself).1]

/-- A configuration with no revision left. -/
def atLimit : PersistedBucketS3Configuration where
  region := "eu-central-1"
  versioningStatus := .unversioned
  objectLockEnabled := false
  defaultRetention := none
  lifecycleConfiguration := none
  revision := maxU64
  updatedAt := 0

/-- The last revision is counted, and a call that changes nothing needs no other. -/
theorem along_callMeets_iff_lastRevision :
    ∃ configuration, fromPersistence { atLimit with revision := maxU64 - 1 } = .ok configuration ∧
      receiver.Along CallMeets configuration
        [(.transitionVersioning .enabled, 10), (.transitionVersioning .enabled, 20)] ∧
      ((Call.transitionVersioning .enabled).perform 10).run configuration =
        (.ok true, { configuration with
          versioningStatus := .enabled
          revision := maxU64
          updatedAt := 10 }) ∧
      (receiver.run configuration
        [(.transitionVersioning .enabled, 10), (.transitionVersioning .enabled, 20)]).revision =
          maxU64 := by
  have hread : fromPersistence { atLimit with revision := maxU64 - 1 } = .ok
      ⟨"eu-central-1", .unversioned, false, none, none, maxU64 - 1, 0⟩ := by decide +kernel
  refine ⟨_, hread, ((along_callMeets_iff hread _).2).2 ?_, by decide +kernel, by decide +kernel⟩
  refine ⟨fun _ => by decide, fun hcounts => ?_, trivial⟩
  exact absurd hcounts (by decide +kernel)

/-- The status is written although the call fails. -/
theorem transitionVersioning_atLimit_writes :
    ∃ configuration, fromPersistence atLimit = .ok configuration ∧
      ((Call.transitionVersioning .enabled).perform 0).run configuration =
        (.error .invalidConfigurationRevision,
          { configuration with versioningStatus := .enabled }) ∧
      ¬ receiver.Along CallMeets configuration [(.transitionVersioning .enabled, 0)] := by
  have hread : fromPersistence atLimit = .ok
      ⟨"eu-central-1", .unversioned, false, none, none, maxU64, 0⟩ := by decide +kernel
  refine ⟨_, hread, by decide +kernel, fun h => ?_⟩
  have hfailed := h.1.failed .invalidConfigurationRevision (by decide +kernel)
  exact absurd (congrArg versioningStatus hfailed) (by decide +kernel)

/-- The fields of a configuration that carries its proofs. -/
@[simps]
def ofCore (region : String) (configuration : Core.BucketS3Configuration) :
    BucketS3Configuration where
  region := region
  versioningStatus := configuration.versioningStatus
  objectLockEnabled := configuration.objectLockEnabled
  defaultRetention := configuration.defaultRetention
  lifecycleConfiguration := configuration.lifecycleConfiguration.map fun lifecycle =>
    ⟨lifecycle.rules⟩
  revision := configuration.revision
  updatedAt := configuration.updatedAt

/-- A method in place returns what the function on configurations returns, and leaves the
configuration that a success returns. -/
def Agrees (region : String) (response : Except S3ModelError Bool × BucketS3Configuration) :
    Except S3ModelError (Bool × Core.BucketS3Configuration) → Prop
  | .ok (changed, configuration) => response = (.ok changed, ofCore region configuration)
  | .error e => response.1 = .error e

theorem agrees_settle {region : String} {configuration changed : Core.BucketS3Configuration}
    {wanted : BucketS3Configuration} {now : Time} {same : Prop} [Decidable same]
    (hsame : wanted = ofCore region configuration ↔ same)
    (hrevision : wanted.revision = configuration.revision)
    (hchanged : ofCore region changed =
      { wanted with revision := configuration.revision + 1, updatedAt := now }) :
    Agrees region (settle (ofCore region configuration) wanted now)
      (if same then .ok (false, configuration)
      else match checkedAddU64 configuration.revision 1 with
        | none => .error .invalidConfigurationRevision
        | some _ => .ok (true, changed)) := by
  rw [settle, hrevision]
  by_cases h : same
  · rw [if_pos h, if_pos (hsame.2 h)]
    rfl
  · rw [if_neg h, if_neg (mt hsame.1 h), checkedAddU64]
    by_cases hlimit : configuration.revision < maxU64
    · have hle : configuration.revision + 1 ≤ maxU64 := hlimit
      rw [if_pos hlimit, if_pos hle, ← hchanged]
      rfl
    · have hle : ¬ configuration.revision + 1 ≤ maxU64 := hlimit
      rw [if_neg hlimit, if_neg hle]
      rfl

theorem transitionVersioning_agrees (region : String) (configuration : Core.BucketS3Configuration)
    (next : VersioningStatus) (now : Time) :
    Agrees region ((transitionVersioning next now).run (ofCore region configuration))
      (configuration.transitionVersioning next now) := by
  have hrun := run_perform (.transitionVersioning next) now (ofCore region configuration)
  rw [Call.perform] at hrun
  rw [hrun, Call.request, Core.BucketS3Configuration.transitionVersioning]
  simp only [ofCore_objectLockEnabled, ofCore_versioningStatus, Bool.and_eq_true,
    decide_eq_true_eq]
  by_cases hlock : configuration.objectLockEnabled = true ∧ next ≠ .enabled
  · rw [if_pos hlock, dif_pos hlock]
    rfl
  · rw [if_neg hlock, dif_neg hlock]
    by_cases htransition : (!configuration.versioningStatus.canTransitionTo next) = true
    · rw [if_pos htransition, if_pos htransition]
      rfl
    · rw [if_neg htransition, if_neg htransition]
      exact agrees_settle versioning_eq_self_iff rfl rfl

theorem replaceObjectLockConfiguration_agrees (region : String)
    (configuration : Core.BucketS3Configuration) (defaultRetention : Option DefaultRetention)
    (now : Time) :
    Agrees region
      ((replaceObjectLockConfiguration defaultRetention now).run (ofCore region configuration))
      (configuration.replaceObjectLockConfiguration defaultRetention now) := by
  have hrun := run_perform (.replaceObjectLockConfiguration defaultRetention) now
    (ofCore region configuration)
  rw [Call.perform] at hrun
  rw [hrun, Call.request, Core.BucketS3Configuration.replaceObjectLockConfiguration]
  exact agrees_settle objectLock_eq_self_iff rfl rfl

/-- The rules of a configuration that carries their proof. -/
def rulesOf (lifecycleConfiguration : Option Core.S3LifecycleConfiguration) :
    Option S3LifecycleConfiguration :=
  lifecycleConfiguration.map fun lifecycle => ⟨lifecycle.rules⟩

theorem rulesOf_inj {left right : Option Core.S3LifecycleConfiguration} :
    rulesOf left = rulesOf right ↔ left = right := by
  apply (Option.map_injective _).eq_iff
  rintro ⟨left, _⟩ ⟨right, _⟩ h
  obtain rfl : left = right := S3LifecycleConfiguration.mk.inj h
  rfl

theorem replaceLifecycleConfiguration_agrees (region : String)
    (configuration : Core.BucketS3Configuration)
    (lifecycleConfiguration : Option Core.S3LifecycleConfiguration) (now : Time) :
    Agrees region
      ((replaceLifecycleConfiguration (rulesOf lifecycleConfiguration) now).run
        (ofCore region configuration))
      (configuration.replaceLifecycleConfiguration lifecycleConfiguration now) := by
  have hvalid : validateLifecycle (rulesOf lifecycleConfiguration) = .ok () := by
    rw [validateLifecycle_eq_ok_iff]
    intro rules hmem
    obtain ⟨lifecycle, _, rfl⟩ := Option.map_eq_some_iff.1 hmem
    exact lifecycle.valid
  have hrun := run_perform (.replaceLifecycleConfiguration (rulesOf lifecycleConfiguration)) now
    (ofCore region configuration)
  rw [Call.perform] at hrun
  rw [hrun, Call.request, hvalid, Core.BucketS3Configuration.replaceLifecycleConfiguration]
  exact agrees_settle (lifecycle_eq_self_iff.trans rulesOf_inj) rfl rfl

end BucketS3Configuration

end MediaHub.Core.InPlace
