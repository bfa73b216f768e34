import MediaHub.Domain.Media
import MediaHub.Transition.System

namespace MediaHub.Domain

open Result Transition Transition.Method
open MediaHub.Core (Time MediaState maxU64)
open MediaHub.Http (Text)

namespace Media

inductive Call where
  | transitionTo (next : MediaState)
  | replaceClientMetadata (clientMetadata : ClientMetadata) (expectedRevision : Nat)
  | setDisplayName (displayName : Text) (expectedRevision : Nat)
  | setVisibilityOverride (visibilityOverride : Option Visibility) (expectedRevision : Nat)
  | setExpireAt (expireAt : Option Time) (expectedRevision : Nat)

namespace Call

def perform (now : Time) : Call → Step Unit
  | .transitionTo next => Media.transitionTo next now
  | .replaceClientMetadata clientMetadata expectedRevision =>
      Media.replaceClientMetadata clientMetadata expectedRevision now
  | .setDisplayName displayName expectedRevision =>
      Media.setDisplayName displayName expectedRevision now
  | .setVisibilityOverride visibilityOverride expectedRevision =>
      Media.setVisibilityOverride visibilityOverride expectedRevision now
  | .setExpireAt expireAt expectedRevision => Media.setExpireAt expireAt expectedRevision now

/-- Transitions expect no revision. -/
def expectedRevision : Call → Option Nat
  | .transitionTo _ => none
  | .replaceClientMetadata _ expectedRevision | .setDisplayName _ expectedRevision
  | .setVisibilityOverride _ expectedRevision | .setExpireAt _ expectedRevision =>
      some expectedRevision

end Call

/-- The medium in its next state, with the time of it. -/
def enter (media : Media) (next : MediaState) (now : Time) : Media :=
  { media with
    state := next
    archivedAt := if next = .archived then some now else media.archivedAt
    deletedAt := if next = .deleted then some now else media.deletedAt }

/-- The medium after `touch`. -/
def touched (media : Media) (now : Time) : Media :=
  { media with revision := min (media.revision + 1) maxU64, updatedAt := now }

/-- What a call that succeeds writes, before it touches the medium. -/
inductive Writes (media : Media) (now : Time) : Call → Media → Prop
  | transition {next : MediaState} (allowed : media.state.canTransitionTo next = true) :
      Writes media now (.transitionTo next) (media.enter next now)
  | metadata {clientMetadata : ClientMetadata} {expectedRevision : Nat} {metadata : MediaMetadata}
      (revision : media.revision = expectedRevision)
      (replaced : media.metadata.replaceClientMetadata clientMetadata = .ok metadata) :
      Writes media now (.replaceClientMetadata clientMetadata expectedRevision)
        { media with metadata := metadata }
  | displayName {displayName : Text} {expectedRevision : Nat}
      (revision : media.revision = expectedRevision)
      (valid : validateTextField "display name" displayName 255 = .ok ()) :
      Writes media now (.setDisplayName displayName expectedRevision)
        { media with displayName := displayName }
  | visibilityOverride {visibilityOverride : Option Visibility} {expectedRevision : Nat}
      (revision : media.revision = expectedRevision) :
      Writes media now (.setVisibilityOverride visibilityOverride expectedRevision)
        { media with visibilityOverride := visibilityOverride }
  | expireAt {expireAt : Option Time} {expectedRevision : Nat}
      (revision : media.revision = expectedRevision) :
      Writes media now (.setExpireAt expireAt expectedRevision)
        { media with expireAt := expireAt }

/-- Why a call is refused. -/
inductive Refuses (media : Media) : Call → DomainError → Prop
  | transition {next : MediaState} (refused : media.state.canTransitionTo next = false) :
      Refuses media (.transitionTo next) (.invalidMediaStateTransition media.state next)
  | conflict {call : Call} {expectedRevision : Nat}
      (expected : call.expectedRevision = some expectedRevision)
      (differs : media.revision ≠ expectedRevision) :
      Refuses media call (.revisionConflict expectedRevision media.revision)
  | metadata {clientMetadata : ClientMetadata} {expectedRevision : Nat} {e : DomainError}
      (revision : media.revision = expectedRevision)
      (invalid : media.metadata.replaceClientMetadata clientMetadata = .error e) :
      Refuses media (.replaceClientMetadata clientMetadata expectedRevision) e
  | displayName {displayName : Text} {expectedRevision : Nat} {e : DomainError}
      (revision : media.revision = expectedRevision)
      (invalid : validateTextField "display name" displayName 255 = .error e) :
      Refuses media (.setDisplayName displayName expectedRevision) e

/-- The ways in which a call ends. -/
inductive Ends (media : Media) (call : Call) (now : Time) : DomainResult Unit × Media → Prop
  | refused {e : DomainError} (why : media.Refuses call e) : Ends media call now (.error e, media)
  | applied {written : Media} (writes : media.Writes now call written) :
      Ends media call now (.ok (), written.touched now)

theorem run_ensureExpectedRevision_bind (expectedRevision : Nat) (next : Unit → Step Unit)
    (media : Media) :
    (ensureExpectedRevision expectedRevision >>= next).run media =
      if media.revision = expectedRevision then (next ()).run media
      else (.error (.revisionConflict expectedRevision media.revision), media) := by
  rw [ensureExpectedRevision, run_reject_bind]
  by_cases h : media.revision = expectedRevision
  · simp [h]
  · simp [h]

/-- A call that expects a revision is refused where it does not find it. -/
theorem ends_ensureExpectedRevision {media : Media} {call : Call} {now : Time}
    {expectedRevision : Nat} {next : Unit → Step Unit}
    (expected : call.expectedRevision = some expectedRevision)
    (hnext : media.revision = expectedRevision → Ends media call now ((next ()).run media)) :
    Ends media call now ((ensureExpectedRevision expectedRevision >>= next).run media) := by
  rw [run_ensureExpectedRevision_bind]
  split
  · next h => exact hnext h
  · next h => exact .refused (.conflict expected h)

theorem ends_perform (media : Media) (call : Call) (now : Time) :
    Ends media call now ((call.perform now).run media) := by
  cases call with
  | transitionTo next =>
      rw [Call.perform, transitionTo, run_reject_bind]
      split
      · next h => exact .refused (.transition (by simpa using h))
      · next h =>
          have allowed : media.state.canTransitionTo next = true := by simpa using h
          simp only [run_assign_bind]
          have hends : Ends media (.transitionTo next) now
              (.ok (), (media.enter next now).touched now) := .applied (.transition allowed)
          cases next
          all_goals exact hends
  | replaceClientMetadata clientMetadata expectedRevision =>
      apply ends_ensureExpectedRevision rfl
      intro hrevision
      rw [run_observe_bind, run_check_bind]
      split
      · next metadata heq => exact .applied (.metadata hrevision heq)
      · next heq => exact .refused (.metadata hrevision heq)
  | setDisplayName displayName expectedRevision =>
      apply ends_ensureExpectedRevision rfl
      intro hrevision
      rw [run_check_bind]
      split
      · next heq => exact .applied (.displayName hrevision heq)
      · next heq => exact .refused (.displayName hrevision heq)
  | setVisibilityOverride visibilityOverride expectedRevision =>
      apply ends_ensureExpectedRevision rfl
      intro hrevision
      exact .applied (.visibilityOverride hrevision)
  | setExpireAt expireAt expectedRevision =>
      apply ends_ensureExpectedRevision rfl
      intro hrevision
      exact .applied (.expireAt hrevision)

theorem Writes.revision_eq {media written : Media} {now : Time} {call : Call}
    (h : media.Writes now call written) : written.revision = media.revision := by
  cases h
  all_goals rfl

theorem Writes.expectedRevision_eq {media written : Media} {now : Time} {call : Call}
    {expectedRevision : Nat} (h : media.Writes now call written)
    (expected : call.expectedRevision = some expectedRevision) :
    media.revision = expectedRevision := by
  cases h with
  | transition _ => exact nomatch expected
  | metadata revision _ => exact revision.trans (Option.some.inj expected)
  | displayName revision _ => exact revision.trans (Option.some.inj expected)
  | visibilityOverride revision => exact revision.trans (Option.some.inj expected)
  | expireAt revision => exact revision.trans (Option.some.inj expected)

/-- The changes do not look at the state of the medium. -/
theorem run_perform_state (media : Media) (state : MediaState) {call : Call}
    (h : call.expectedRevision.isSome = true) (now : Time) :
    (call.perform now).run { media with state := state } =
      (((call.perform now).run media).1,
        { ((call.perform now).run media).2 with state := state }) := by
  cases call with
  | transitionTo next => exact nomatch h
  | replaceClientMetadata clientMetadata expectedRevision =>
      simp only [Call.perform, replaceClientMetadata, run_ensureExpectedRevision_bind]
      split
      · simp only [run_observe_bind, run_check_bind]
        split
        · rfl
        · rfl
      · rfl
  | setDisplayName displayName expectedRevision =>
      simp only [Call.perform, setDisplayName, run_ensureExpectedRevision_bind]
      split
      · simp only [run_check_bind]
        split
        · rfl
        · rfl
      · rfl
  | setVisibilityOverride visibilityOverride expectedRevision =>
      simp only [Call.perform, setVisibilityOverride, run_ensureExpectedRevision_bind]
      split
      · rfl
      · rfl
  | setExpireAt expireAt expectedRevision =>
      simp only [Call.perform, setExpireAt, run_ensureExpectedRevision_bind]
      split
      · rfl
      · rfl

/-- What `from_persistence` checks, and the fields that it takes from the system metadata. -/
structure Invariant (media : Media) : Prop where
  fields : validateFields media.objectKey media.originalName media.displayName media.extension
    media.storageBackend media.storageKey = .ok ()
  metadataVersion : media.metadataVersion ≠ 0
  timestamps : validTerminalTimestamps media.state media.archivedAt media.deletedAt = true
  mime : media.mime = media.metadata.system.mime
  size : media.size = media.metadata.system.size
  durationMs : media.durationMs = media.metadata.system.durationMs
  sha256 : media.sha256 = media.metadata.system.sha256
  etag : media.etag = media.metadata.system.sha256
  dimensions : dimensionsOf media.metadata.system = .ok media.dimensions
  revision : media.revision ≤ maxU64

theorem validateTerminalTimestamps_eq_ok_iff {state : MediaState}
    {archivedAt deletedAt : Option Time} :
    validateTerminalTimestamps state archivedAt deletedAt = .ok () ↔
      validTerminalTimestamps state archivedAt deletedAt = true := by
  rw [validateTerminalTimestamps, rejectIf_eq_ok_iff, Bool.not_eq_false]

theorem MediaDimensions.new_eq_ok {width height : Nat} {dimensions : MediaDimensions}
    (h : MediaDimensions.new width height = .ok dimensions) :
    dimensions.width = width ∧ dimensions.height = height := by
  rw [MediaDimensions.new] at h
  split at h
  · obtain rfl := Except.ok.inj h
    exact ⟨rfl, rfl⟩
  · exact nomatch h

/-- The dimensions have the width and the height that were measured. -/
theorem map_dimensions {system : SystemMetadata} {dimensions : Option MediaDimensions}
    (h : dimensionsOf system = .ok dimensions) :
    dimensions.map MediaDimensions.width = system.width ∧
      dimensions.map MediaDimensions.height = system.height := by
  rw [dimensionsOf] at h
  split at h
  · next width height hwidth hheight =>
      cases hnew : MediaDimensions.new width height with
      | error e =>
          rw [hnew] at h
          exact nomatch h
      | ok value =>
          rw [hnew] at h
          obtain rfl := Except.ok.inj h
          obtain ⟨rfl, rfl⟩ := MediaDimensions.new_eq_ok hnew
          exact ⟨hwidth.symm, hheight.symm⟩
  · next hwidth hheight =>
      obtain rfl := Except.ok.inj h
      exact ⟨hwidth.symm, hheight.symm⟩
  · exact nomatch h

/-- The `expect` holds, and the medium is read back. -/
theorem fromPersistence_toPersisted {media : Media} (h : media.Invariant) :
    ∃ persisted, media.toPersisted = some persisted ∧ fromPersistence persisted = .ok media := by
  have hclient := ClientMetadata.new_of_valid media.metadata.validateContent_client
  refine ⟨_, by rw [toPersisted, hclient], ?_⟩
  obtain ⟨hwidth, hheight⟩ := map_dimensions h.dimensions
  simp only [fromPersistence, andThen_eq_ok_iff, rejectIf_eq_ok_iff,
    validateTerminalTimestamps_eq_ok_iff]
  refine ⟨h.fields, h.metadataVersion, h.timestamps, ?_⟩
  rw [hwidth, hheight, h.mime, h.size, h.durationMs, h.sha256, SystemMetadata.new_self]
  have hmetadata : MediaMetadata.new media.metadata.system
      ⟨media.metadata.user, media.metadata.ai, media.metadata.validateContent_client⟩ =
        .ok media.metadata := MediaMetadata.new_of_valid media.metadata.valid
  change (dimensionsOf media.metadata.system >>= _) = _
  rw [h.dimensions]
  change (MediaMetadata.new media.metadata.system _ >>= _) = _
  rw [hmetadata]
  have hetag := h.etag
  have hmime := h.mime
  have hsize := h.size
  have hduration := h.durationMs
  have hsha256 := h.sha256
  cases media
  simp only at hetag hmime hsize hduration hsha256
  subst hetag hmime hsize hduration hsha256
  rfl

/-- A new medium is at revision zero and can be stored. -/
theorem new_spec {input : NewMedia} {now : Time} {media : Media} (h : new input now = .ok media) :
    media.revision = 0 ∧ media.Invariant := by
  simp only [new, andThen_eq_ok_iff] at h
  obtain ⟨hfields, h⟩ := h
  obtain ⟨dimensions, hdimensions, h⟩ := bind_eq_ok_iff.1 h
  obtain ⟨metadata, hmetadata, h⟩ := bind_eq_ok_iff.1 h
  obtain rfl := pure_eq_ok_iff.1 h
  have hsystem := MediaMetadata.system_of_new hmetadata
  rw [← hsystem] at hdimensions
  exact ⟨rfl, hfields, Nat.one_ne_zero, rfl, rfl, rfl, rfl, rfl, rfl, hdimensions, Nat.zero_le _⟩

theorem validTerminalTimestamps_enter (media : Media) (next : MediaState) (now : Time) :
    validTerminalTimestamps (media.enter next now).state (media.enter next now).archivedAt
      (media.enter next now).deletedAt = true := by
  cases next
  all_goals simp [enter, validTerminalTimestamps]

theorem Invariant.writes {media written : Media} {now : Time} {call : Call} (h : media.Invariant)
    (hwrites : media.Writes now call written) : written.Invariant := by
  cases hwrites with
  | transition allowed =>
      exact { h with timestamps := validTerminalTimestamps_enter media _ now }
  | metadata revision replaced =>
      have hsystem := MediaMetadata.system_of_new replaced
      exact { h with
        mime := hsystem ▸ h.mime
        size := hsystem ▸ h.size
        durationMs := hsystem ▸ h.durationMs
        sha256 := hsystem ▸ h.sha256
        etag := hsystem ▸ h.etag
        dimensions := hsystem ▸ h.dimensions }
  | displayName revision valid =>
      have hfields := h.fields
      simp only [validateFields, andThen_eq_ok_iff] at hfields
      refine { h with fields := ?_ }
      simp only [validateFields, andThen_eq_ok_iff]
      exact ⟨hfields.1, valid, hfields.2.2⟩
  | visibilityOverride revision => exact { h with }
  | expireAt revision => exact { h with }

theorem Invariant.touched {media : Media} (h : media.Invariant) (now : Time) :
    (media.touched now).Invariant :=
  { h with revision := Nat.min_le_right _ _ }

/-- The calls on a medium that `Media::new` built. -/
def lifecycle : System Media (Call × Time) where
  init media := ∃ input now, new input now = .ok media
  step media event := ((event.1.perform event.2).run media).2

theorem lifecycle_step (media : Media) (event : Call × Time) :
    lifecycle.step media event = ((event.1.perform event.2).run media).2 := rfl

theorem Invariant.step {media : Media} (h : media.Invariant) (event : Call × Time) :
    (lifecycle.step media event).Invariant := by
  have hends := ends_perform media event.1 event.2
  rw [lifecycle_step]
  generalize (event.1.perform event.2).run media = response at hends
  cases hends with
  | refused _ => exact h
  | applied writes => exact (h.writes writes).touched event.2

/-- What is promised of one call. -/
structure Promised (media : Media) (event : Call × Time) : Prop where
  failed : ∀ e, ((event.1.perform event.2).run media).1 = .error e →
    ((event.1.perform event.2).run media).2 = media
  conflict : ∀ expectedRevision, event.1.expectedRevision = some expectedRevision →
    media.revision ≠ expectedRevision →
    (event.1.perform event.2).run media =
      (.error (.revisionConflict expectedRevision media.revision), media)
  refused : ∀ next, event.1 = .transitionTo next → media.state.canTransitionTo next = false →
    (event.1.perform event.2).run media =
      (.error (.invalidMediaStateTransition media.state next), media)
  counted : ((event.1.perform event.2).run media).1 = .ok () →
    ((event.1.perform event.2).run media).2.revision = min (media.revision + 1) maxU64
  increases : ((event.1.perform event.2).run media).1 = .ok () → media.revision < maxU64 →
    media.revision < ((event.1.perform event.2).run media).2.revision
  anyState : ∀ state, event.1.expectedRevision.isSome = true →
    ((event.1.perform event.2).run { media with state := state }).1 =
      ((event.1.perform event.2).run media).1
  persisted : ∃ persisted, ((event.1.perform event.2).run media).2.toPersisted = some persisted ∧
    fromPersistence persisted = .ok ((event.1.perform event.2).run media).2

theorem run_conflict {media : Media} {call : Call} {now : Time} {expectedRevision : Nat}
    (expected : call.expectedRevision = some expectedRevision)
    (differs : media.revision ≠ expectedRevision) :
    (call.perform now).run media =
      (.error (.revisionConflict expectedRevision media.revision), media) := by
  have hends := ends_perform media call now
  generalize (call.perform now).run media = response at hends
  cases hends with
  | applied writes => exact absurd (writes.expectedRevision_eq expected) differs
  | refused why =>
      cases why with
      | transition _ => exact nomatch expected
      | conflict expected' _ => rw [Option.some.inj (expected'.symm.trans expected)]
      | metadata revision _ => exact absurd (revision.trans (Option.some.inj expected)) differs
      | displayName revision _ => exact absurd (revision.trans (Option.some.inj expected)) differs

theorem run_refused {media : Media} {next : MediaState} {now : Time}
    (h : media.state.canTransitionTo next = false) :
    ((Call.transitionTo next).perform now).run media =
      (.error (.invalidMediaStateTransition media.state next), media) := by
  rw [Call.perform, transitionTo, run_reject_bind]
  simp [h]

theorem promised {media : Media} (h : media.Invariant) (event : Call × Time) :
    media.Promised event := by
  have hends := ends_perform media event.1 event.2
  have hpersisted := fromPersistence_toPersisted (h.step event)
  rw [lifecycle_step] at hpersisted
  refine ⟨?_, fun _ => run_conflict, ?_, ?_, ?_, ?_, hpersisted⟩
  · intro e he
    generalize (event.1.perform event.2).run media = response at hends he
    cases hends with
    | refused _ => rfl
    | applied _ => exact nomatch he
  · rintro next hcall hrefused
    rw [hcall]
    exact run_refused hrefused
  · intro hok
    generalize (event.1.perform event.2).run media = response at hends hok
    cases hends with
    | refused _ => exact nomatch hok
    | applied writes => simp only [touched, writes.revision_eq]
  · intro hok hlt
    generalize (event.1.perform event.2).run media = response at hends hok
    cases hends with
    | refused _ => exact nomatch hok
    | applied writes =>
        simp only [touched, writes.revision_eq]
        omega
  · intro state hsome
    rw [run_perform_state media state hsome]

theorem along_promised {media : Media} (h : media.Invariant) (events : List (Call × Time)) :
    lifecycle.Along Promised media events := by
  induction events generalizing media with
  | nil => trivial
  | cons event events ih => exact ⟨promised h event, ih (h.step event)⟩

/-- The call expects `revision`, and it succeeds. -/
def accepts (revision : Nat) (media : Media) (event : Call × Time) : Bool :=
  event.1.expectedRevision = some revision &&
    (((event.1.perform event.2).run media).1).toBool

/-- The calls of a run that expect `revision` and succeed. -/
def accepted (revision : Nat) : Media → List (Call × Time) → Nat
  | _, [] => 0
  | media, event :: events =>
      (if accepts revision media event then 1 else 0) +
        accepted revision (lifecycle.step media event) events

theorem accepts_spec {revision : Nat} {media : Media} {event : Call × Time}
    (h : accepts revision media event = true) :
    media.revision = revision ∧
      (lifecycle.step media event).revision = min (revision + 1) maxU64 := by
  simp only [accepts, Bool.and_eq_true, decide_eq_true_eq] at h
  obtain ⟨expected, hok⟩ := h
  have hends := ends_perform media event.1 event.2
  rw [lifecycle_step]
  generalize (event.1.perform event.2).run media = response at hends hok
  cases hends with
  | refused _ => exact nomatch hok
  | applied writes =>
      obtain rfl := writes.expectedRevision_eq expected
      refine ⟨rfl, ?_⟩
      simp only [touched, writes.revision_eq]

theorem revision_le_step {media : Media} (h : media.Invariant) (event : Call × Time) :
    media.revision ≤ (lifecycle.step media event).revision := by
  have hrevision := h.revision
  have hends := ends_perform media event.1 event.2
  rw [lifecycle_step]
  generalize (event.1.perform event.2).run media = response at hends
  cases hends with
  | refused _ => exact Nat.le_refl _
  | applied writes =>
      simp only [touched, writes.revision_eq]
      omega

/-- A revision that is past is not expected with success again. -/
theorem accepted_of_lt {revision : Nat} {media : Media} (h : media.Invariant)
    (hlt : revision < media.revision) (events : List (Call × Time)) :
    accepted revision media events = 0 := by
  induction events generalizing media with
  | nil => rfl
  | cons event events ih =>
      have hrest := ih (h.step event) (Nat.lt_of_lt_of_le hlt (revision_le_step h event))
      have hnone : ¬ accepts revision media event = true := by
        intro haccepts
        have heq := (accepts_spec haccepts).1
        omega
      rw [accepted, if_neg hnone, hrest]

/-- Below the last revision, at most one call that expects a revision succeeds. -/
theorem accepted_le_one {revision : Nat} (hlt : revision < maxU64) {media : Media}
    (h : media.Invariant) (events : List (Call × Time)) : accepted revision media events ≤ 1 := by
  induction events generalizing media with
  | nil => exact Nat.zero_le 1
  | cons event events ih =>
      rw [accepted]
      by_cases haccepts : accepts revision media event = true
      · have hafter := (accepts_spec haccepts).2
        have hpast : revision < (lifecycle.step media event).revision := by omega
        rw [if_pos haccepts, accepted_of_lt (h.step event) hpast]
      · have hrest := ih (h.step event)
        rw [if_neg haccepts]
        omega

/-- In every run from a new medium each call keeps its promises, at most one change that expects a
given revision below the last one succeeds, and every state can be stored and read back. -/
theorem media_run {input : NewMedia} {now : Time} {media : Media} (h : new input now = .ok media)
    (events : List (Call × Time)) :
    lifecycle.Along Promised media events ∧
      (∀ revision < maxU64, accepted revision media events ≤ 1) ∧
      (∃ persisted, media.toPersisted = some persisted ∧
        fromPersistence persisted = .ok media) ∧
      ∃ persisted, (lifecycle.run media events).toPersisted = some persisted ∧
        fromPersistence persisted = .ok (lifecycle.run media events) := by
  obtain ⟨_, hinvariant⟩ := new_spec h
  refine ⟨along_promised hinvariant events, ?_, fromPersistence_toPersisted hinvariant, ?_⟩
  · intro revision hlt
    exact accepted_le_one hlt hinvariant events
  · exact fromPersistence_toPersisted
      (System.run_invariant (fun _ event hmedia => hmedia.step event) hinvariant events)

def exampleInput : NewMedia where
  id := 1
  applicationId := 2
  bucketId := 3
  objectKey := "avatars/example.png".toList
  originalName := none
  displayName := "Example".toList
  extension := some "png".toList
  storageBackend := "local".toList
  storageKey := "objects/example".toList
  visibilityOverride := none
  expireAt := none
  systemMetadata := {
    mime := "image/png".toList
    size := 42
    width := some 10
    height := some 20
    durationMs := none
    sha256 := List.replicate 64 'a'
    dimensions_valid := by decide
    mime_canonical := ⟨by decide, by decide⟩
    sha256_valid := by decide
    sha256_lowercase := by decide }
  clientMetadata := ⟨[], [], validateContent_empty⟩

def exampleCalls : List (Call × Time) :=
  [(.transitionTo .active, 10), (.setExpireAt none 1, 20), (.setVisibilityOverride none 1, 30)]

/-- Two of the calls expect the revision after the first one, and one of them succeeds. -/
theorem media_run_example :
    ∃ media, new exampleInput 0 = .ok media ∧
      lifecycle.Along Promised media exampleCalls ∧ accepted 1 media exampleCalls = 1 ∧
      (lifecycle.run media exampleCalls).state = .active ∧
      (lifecycle.run media exampleCalls).revision = 2 := by
  have hnew : (new exampleInput 0).toBool = true := by decide +kernel
  obtain ⟨media, hmedia⟩ := exists_of_toBool hnew
  have hafter : (new exampleInput 0).toOption.map (fun media =>
      (accepted 1 media exampleCalls, (lifecycle.run media exampleCalls).state,
        (lifecycle.run media exampleCalls).revision)) = some (1, .active, 2) := by decide +kernel
  rw [hmedia, Except.toOption, Option.map_some, Option.some_inj, Prod.mk.injEq,
    Prod.mk.injEq] at hafter
  exact ⟨media, hmedia, (media_run hmedia exampleCalls).1, hafter⟩

/-- Calls that each expect the revision that they find. -/
def climb (count : Nat) : List (Call × Time) :=
  (List.range count).map fun revision => (.setExpireAt none revision, 0)

theorem perform_setExpireAt {media : Media} {revision : Nat} (h : media.revision = revision)
    (expireAt : Option Time) (now : Time) :
    ((Call.setExpireAt expireAt revision).perform now).run media =
      (.ok (), { media with expireAt := expireAt }.touched now) := by
  rw [Call.perform, setExpireAt, run_ensureExpectedRevision_bind, if_pos h]
  rfl

theorem revision_run_climb {media : Media} (h : media.revision = 0) {count : Nat}
    (hcount : count ≤ maxU64) : (lifecycle.run media (climb count)).revision = count := by
  induction count with
  | zero => exact h
  | succ count ih =>
      have hrevision := ih (by omega)
      rw [climb, List.range_succ, List.map_append, System.run_append]
      change (lifecycle.step (lifecycle.run media (climb count)) _).revision = _
      rw [lifecycle_step, perform_setExpireAt hrevision, touched]
      change min ((lifecycle.run media (climb count)).revision + 1) maxU64 = _
      omega

theorem perform_transitionTo {media : Media} {next : MediaState}
    (h : media.state.canTransitionTo next = true) (now : Time) :
    ((Call.transitionTo next).perform now).run media =
      (.ok (), (media.enter next now).touched now) := by
  rw [Call.perform, transitionTo, run_reject_bind]
  cases next
  all_goals
    simp only [h]
    rfl

theorem perform_setDisplayName {media : Media} {revision : Nat} (h : media.revision = revision)
    {displayName : Text} (valid : validateTextField "display name" displayName 255 = .ok ())
    (now : Time) :
    ((Call.setDisplayName displayName revision).perform now).run media =
      (.ok (), { media with displayName := displayName }.touched now) := by
  rw [Call.perform, setDisplayName, run_ensureExpectedRevision_bind, if_pos h, run_check_bind,
    valid]
  rfl

/-- The transitions of a new medium that is deleted. -/
def delete : List (Call × Time) :=
  [(.transitionTo .active, 1), (.transitionTo .deletePending, 2), (.transitionTo .deleted, 3)]

theorem run_delete {media : Media} (hstate : media.state = .uploading)
    (hrevision : media.revision = 0) :
    (lifecycle.run media delete).state = .deleted ∧ (lifecycle.run media delete).revision = 3 ∧
      (lifecycle.run media delete).displayName = media.displayName := by
  have hactive : lifecycle.step media (.transitionTo .active, 1) =
      (media.enter .active 1).touched 1 := by
    rw [lifecycle_step, perform_transitionTo (by rw [hstate]; rfl)]
  rw [delete, System.run_cons, hactive, System.run_cons, lifecycle_step, perform_transitionTo rfl,
    System.run_cons, lifecycle_step, perform_transitionTo rfl, System.run_nil]
  simp only [touched, enter, hrevision, true_and, and_true]
  rfl

theorem accepts_setExpireAt {media : Media} {revision : Nat} (h : media.revision = revision)
    (expireAt : Option Time) (now : Time) :
    accepts revision media (.setExpireAt expireAt revision, now) = true := by
  rw [accepts, perform_setExpireAt h]
  simp [Call.expectedRevision, Except.toBool]

/-- At the last revision two calls that expect it succeed. -/
theorem accepted_last {media : Media} (h : media.revision = maxU64) :
    (lifecycle.step media (.setExpireAt none maxU64, 5)).revision = maxU64 ∧
      accepted maxU64 media [(.setExpireAt none maxU64, 5), (.setExpireAt none maxU64, 6)] = 2 := by
  have hnext : (lifecycle.step media (.setExpireAt none maxU64, 5)).revision = maxU64 := by
    rw [lifecycle_step, perform_setExpireAt h]
    change min (media.revision + 1) maxU64 = maxU64
    omega
  refine ⟨hnext, ?_⟩
  rw [accepted, if_pos (accepts_setExpireAt h none 5), accepted,
    if_pos (accepts_setExpireAt hnext none 6), accepted]

/-- A deleted medium is renamed, and at the last revision two changes that expect it succeed. -/
theorem media_run_deleted_and_last :
    ∃ media, new exampleInput 0 = .ok media ∧
      (∃ deleted, lifecycle.run media delete = deleted ∧ deleted.state = .deleted ∧
        ((Call.setDisplayName "Renamed".toList 3).perform 4).run deleted =
          (.ok (), { deleted with displayName := "Renamed".toList }.touched 4) ∧
        deleted.displayName ≠ "Renamed".toList) ∧
      ∃ last, lifecycle.run media (climb maxU64) = last ∧ last.revision = maxU64 ∧
        accepted maxU64 last [(.setExpireAt none maxU64, 5), (.setExpireAt none maxU64, 6)] = 2 ∧
        (lifecycle.step last (.setExpireAt none maxU64, 5)).revision = last.revision := by
  have hnew : (new exampleInput 0).toBool = true := by decide +kernel
  obtain ⟨media, hmedia⟩ := exists_of_toBool hnew
  have hstart : (new exampleInput 0).map (fun media => (media.state, media.displayName)) =
      .ok (.uploading, "Example".toList) := by decide +kernel
  rw [hmedia] at hstart
  obtain ⟨hstate, hname⟩ := Prod.mk.inj (Except.ok.inj hstart)
  have hrevision := (new_spec hmedia).1
  refine ⟨media, hmedia, ⟨_, rfl, ?_⟩, _, rfl, ?_⟩
  · obtain ⟨hdeleted, hthree, hsame⟩ := run_delete hstate hrevision
    generalize lifecycle.run media delete = deleted at hdeleted hthree hsame ⊢
    refine ⟨hdeleted, perform_setDisplayName hthree (by decide +kernel) 4, ?_⟩
    rw [hsame, hname]
    decide
  · have hlast := revision_run_climb hrevision (Nat.le_refl maxU64)
    obtain ⟨hnext, hcount⟩ := accepted_last hlast
    exact ⟨hlast, hcount, hnext.trans hlast.symm⟩

end Media

end MediaHub.Domain
