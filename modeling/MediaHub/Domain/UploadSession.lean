import MediaHub.Domain.Metadata
import MediaHub.Store.Media
import MediaHub.Transition.System

namespace MediaHub.Domain

open Result Transition Transition.Method
open MediaHub.Core (Time ApplicationId BucketId MediaId UploadSessionId UploadSessionState)
open MediaHub.Http (Text)

inductive UploadSessionTransition where
  | applied
  | alreadyApplied
deriving DecidableEq

structure NewUploadSession where
  id : UploadSessionId
  mediaId : MediaId
  applicationId : ApplicationId
  bucketId : BucketId
  objectKey : Text
  originalName : Option Text
  displayName : Text
  extension : Option Text
  expectedSize : Nat
  expectedMime : Text
  storageBackend : Text
  storageKey : Text
  visibilityOverride : Option Visibility
  mediaExpiresAt : Option Time
  clientMetadata : ClientMetadata
  sessionExpiresAt : Time

structure PersistedUploadSession where
  id : UploadSessionId
  mediaId : MediaId
  applicationId : ApplicationId
  bucketId : BucketId
  objectKey : Text
  originalName : Option Text
  displayName : Text
  extension : Option Text
  expectedSize : Nat
  expectedMime : Text
  storageBackend : Text
  storageKey : Text
  visibilityOverride : Option Visibility
  mediaExpiresAt : Option Time
  clientMetadata : ClientMetadata
  sessionExpiresAt : Time
  state : UploadSessionState
  completedAt : Option Time
  cancelledAt : Option Time
  expiredAt : Option Time
  createdAt : Time
  updatedAt : Time

structure UploadSession where
  id : UploadSessionId
  mediaId : MediaId
  applicationId : ApplicationId
  bucketId : BucketId
  objectKey : Text
  originalName : Option Text
  displayName : Text
  extension : Option Text
  expectedSize : Nat
  expectedMime : Text
  storageBackend : Text
  storageKey : Text
  visibilityOverride : Option Visibility
  mediaExpiresAt : Option Time
  clientMetadata : ClientMetadata
  sessionExpiresAt : Time
  state : UploadSessionState
  completedAt : Option Time
  cancelledAt : Option Time
  expiredAt : Option Time
  createdAt : Time
  updatedAt : Time

namespace UploadSession

def validateFields (objectKey : Text) (originalName : Option Text) (displayName : Text)
    (extension : Option Text) (storageBackend storageKey : Text) : DomainResult Unit := do
  validateObjectKey objectKey
  validateTextField "display name" displayName 255
  validateOptionalTextField "original name" originalName 255
  validateOptionalTextField "extension" extension 32
  validateTextField "storage backend" storageBackend 128
  validateTextField "storage key" storageKey 1024

/-- Each state has its own time and no other. -/
def validTerminalTimestamps (state : UploadSessionState)
    (completedAt cancelledAt expiredAt : Option Time) : Bool :=
  match state with
  | .pending => completedAt.isNone && cancelledAt.isNone && expiredAt.isNone
  | .completed => completedAt.isSome && cancelledAt.isNone && expiredAt.isNone
  | .cancelled => completedAt.isNone && cancelledAt.isSome && expiredAt.isNone
  | .expired => completedAt.isNone && cancelledAt.isNone && expiredAt.isSome

def validateTerminalTimestamps (state : UploadSessionState)
    (completedAt cancelledAt expiredAt : Option Time) : DomainResult Unit :=
  rejectIf (validTerminalTimestamps state completedAt cancelledAt expiredAt = false)
    (.invalidUploadSessionStateTransition state state)

def new (input : NewUploadSession) (now : Time) : DomainResult UploadSession := do
  validateFields input.objectKey input.originalName input.displayName input.extension
    input.storageBackend input.storageKey
  rejectIf (input.sessionExpiresAt ≤ now) .invalidUploadSessionExpiry
  let expectedMime ← canonicalMimeType input.expectedMime
  return {
    id := input.id
    mediaId := input.mediaId
    applicationId := input.applicationId
    bucketId := input.bucketId
    objectKey := input.objectKey
    originalName := input.originalName
    displayName := input.displayName
    extension := input.extension
    expectedSize := input.expectedSize
    expectedMime
    storageBackend := input.storageBackend
    storageKey := input.storageKey
    visibilityOverride := input.visibilityOverride
    mediaExpiresAt := input.mediaExpiresAt
    clientMetadata := input.clientMetadata
    sessionExpiresAt := input.sessionExpiresAt
    state := .pending
    completedAt := none
    cancelledAt := none
    expiredAt := none
    createdAt := now
    updatedAt := now }

def fromPersistence (persisted : PersistedUploadSession) : DomainResult UploadSession := do
  validateFields persisted.objectKey persisted.originalName persisted.displayName
    persisted.extension persisted.storageBackend persisted.storageKey
  validateTerminalTimestamps persisted.state persisted.completedAt persisted.cancelledAt
    persisted.expiredAt
  let expectedMime ← canonicalMimeType persisted.expectedMime
  return {
    id := persisted.id
    mediaId := persisted.mediaId
    applicationId := persisted.applicationId
    bucketId := persisted.bucketId
    objectKey := persisted.objectKey
    originalName := persisted.originalName
    displayName := persisted.displayName
    extension := persisted.extension
    expectedSize := persisted.expectedSize
    expectedMime
    storageBackend := persisted.storageBackend
    storageKey := persisted.storageKey
    visibilityOverride := persisted.visibilityOverride
    mediaExpiresAt := persisted.mediaExpiresAt
    clientMetadata := persisted.clientMetadata
    sessionExpiresAt := persisted.sessionExpiresAt
    state := persisted.state
    completedAt := persisted.completedAt
    cancelledAt := persisted.cancelledAt
    expiredAt := persisted.expiredAt
    createdAt := persisted.createdAt
    updatedAt := persisted.updatedAt }

def toPersisted (self : UploadSession) : PersistedUploadSession where
  id := self.id
  mediaId := self.mediaId
  applicationId := self.applicationId
  bucketId := self.bucketId
  objectKey := self.objectKey
  originalName := self.originalName
  displayName := self.displayName
  extension := self.extension
  expectedSize := self.expectedSize
  expectedMime := self.expectedMime
  storageBackend := self.storageBackend
  storageKey := self.storageKey
  visibilityOverride := self.visibilityOverride
  mediaExpiresAt := self.mediaExpiresAt
  clientMetadata := self.clientMetadata
  sessionExpiresAt := self.sessionExpiresAt
  state := self.state
  completedAt := self.completedAt
  cancelledAt := self.cancelledAt
  expiredAt := self.expiredAt
  createdAt := self.createdAt
  updatedAt := self.updatedAt

abbrev Step := Method UploadSession DomainError

def isExpiredAt (self : UploadSession) (now : Time) : Bool :=
  self.state = .pending && self.sessionExpiresAt ≤ now

/-- The time of a terminal state. The source has `unreachable!` for `Pending`, which the tests
before it exclude. -/
def stamp (self : UploadSession) (next : UploadSessionState) (now : Time) : UploadSession :=
  match next with
  | .completed => { self with completedAt := some now }
  | .cancelled => { self with cancelledAt := some now }
  | .expired => { self with expiredAt := some now }
  | .pending => self

/-- `apply_terminal_state` after its first test. -/
def enterTerminalState (next : UploadSessionState) (now : Time) : Step UploadSessionTransition := do
  reject (fun self => self.state ≠ .pending) fun self =>
    .invalidUploadSessionStateTransition self.state next
  assign fun self => { self with state := next }
  assign fun self => self.stamp next now
  assign fun self => { self with updatedAt := now }
  return .applied

def applyTerminalState (next : UploadSessionState) (now : Time) :
    Step UploadSessionTransition := do
  let state ← observe UploadSession.state
  if state = next then return .alreadyApplied
  else enterTerminalState next now

def complete (now : Time) : Step UploadSessionTransition := do
  reject (fun self => self.isExpiredAt now) fun _ => .uploadSessionExpired
  applyTerminalState .completed now

def cancel (now : Time) : Step UploadSessionTransition := applyTerminalState .cancelled now

def expire (now : Time) : Step UploadSessionTransition := do
  reject (fun self => self.state = .pending && now < self.sessionExpiresAt) fun _ =>
    .uploadSessionNotExpired
  applyTerminalState .expired now

end UploadSession

namespace UploadSession

/-- The calls that compete for a session. -/
inductive Call where
  | complete
  | cancel
  | expire
deriving DecidableEq

namespace Call

def perform (now : Time) : Call → Step UploadSessionTransition
  | .complete => UploadSession.complete now
  | .cancel => UploadSession.cancel now
  | .expire => UploadSession.expire now

/-- The state that a call leads to. -/
def target : Call → UploadSessionState
  | .complete => .completed
  | .cancel => .cancelled
  | .expire => .expired

/-- The time at which a call may take effect. -/
def Timely (session : UploadSession) (now : Time) : Call → Prop
  | .complete => now < session.sessionExpiresAt
  | .cancel => True
  | .expire => session.sessionExpiresAt ≤ now

/-- What is said of a call that comes at the wrong time. -/
def untimely : Call → DomainError
  | .expire => .uploadSessionNotExpired
  | .complete | .cancel => .uploadSessionExpired

end Call

/-- The session after the call that took effect. -/
def finish (self : UploadSession) (call : Call) (now : Time) : UploadSession :=
  { { self with state := call.target }.stamp call.target now with updatedAt := now }

theorem finish_state (self : UploadSession) (call : Call) (now : Time) :
    (self.finish call now).state = call.target := by
  cases call
  all_goals rfl

/-- The ways in which a call ends. -/
inductive Ends (self : UploadSession) (call : Call) (now : Time) :
    DomainResult UploadSessionTransition × UploadSession → Prop
  | replayed (same : self.state = call.target) : Ends self call now (.ok .alreadyApplied, self)
  | refused (terminal : self.state ≠ .pending) (differs : self.state ≠ call.target) :
      Ends self call now
        (.error (.invalidUploadSessionStateTransition self.state call.target), self)
  | untimely (pending : self.state = .pending) (time : ¬ call.Timely self now) :
      Ends self call now (.error call.untimely, self)
  | applied (pending : self.state = .pending) (time : call.Timely self now) :
      Ends self call now (.ok .applied, self.finish call now)

theorem target_ne_pending (call : Call) : call.target ≠ .pending := by
  cases call
  all_goals decide

theorem run_applyTerminalState (self : UploadSession) (next : UploadSessionState) (now : Time) :
    (applyTerminalState next now).run self =
      if self.state = next then (.ok .alreadyApplied, self)
      else if self.state ≠ .pending then
        (.error (.invalidUploadSessionStateTransition self.state next), self)
      else
        (.ok .applied, { { self with state := next }.stamp next now with updatedAt := now }) := by
  rw [applyTerminalState, run_observe_bind]
  split
  · rfl
  · rw [enterTerminalState, run_reject_bind]
    by_cases hpending : self.state = .pending
    · simp only [hpending, ne_eq, not_true_eq_false, decide_false, Bool.false_eq_true, if_false]
      rfl
    · simp [hpending]

theorem ends_apply {self : UploadSession} {call : Call} {now : Time} (time : call.Timely self now ∨
    self.state ≠ .pending) :
    Ends self call now ((applyTerminalState call.target now).run self) := by
  rw [run_applyTerminalState]
  split
  · next same => exact .replayed same
  · next differs =>
      split
      · next terminal => exact .refused terminal differs
      · next hpending =>
          have pending : self.state = .pending := by simpa using hpending
          exact .applied pending (time.resolve_right (fun h => h pending))

theorem ends_perform (self : UploadSession) (call : Call) (now : Time) :
    Ends self call now ((call.perform now).run self) := by
  cases call with
  | cancel => exact ends_apply (Or.inl trivial)
  | complete =>
      rw [Call.perform, complete, run_reject_bind]
      split
      · next h =>
          simp only [isExpiredAt, Bool.and_eq_true, decide_eq_true_eq] at h
          exact .untimely h.1 (Int.not_lt.2 h.2)
      · next h =>
          simp only [isExpiredAt, Bool.and_eq_true, decide_eq_true_eq, not_and] at h
          apply ends_apply
          by_cases hpending : self.state = .pending
          · exact Or.inl (Int.not_le.1 (h hpending))
          · exact Or.inr hpending
  | expire =>
      rw [Call.perform, expire, run_reject_bind]
      split
      · next h =>
          simp only [Bool.and_eq_true, decide_eq_true_eq] at h
          exact .untimely h.1 (Int.not_le.2 h.2)
      · next h =>
          simp only [Bool.and_eq_true, decide_eq_true_eq, not_and] at h
          apply ends_apply
          by_cases hpending : self.state = .pending
          · exact Or.inl (Int.not_lt.1 (h hpending))
          · exact Or.inr hpending

/-- What `from_persistence` checks. -/
structure Invariant (session : UploadSession) : Prop where
  fields : validateFields session.objectKey session.originalName session.displayName
    session.extension session.storageBackend session.storageKey = .ok ()
  timestamps : validTerminalTimestamps session.state session.completedAt session.cancelledAt
    session.expiredAt = true
  mime : IsCanonicalMime session.expectedMime

theorem validateTerminalTimestamps_eq_ok_iff {state : UploadSessionState}
    {completedAt cancelledAt expiredAt : Option Time} :
    validateTerminalTimestamps state completedAt cancelledAt expiredAt = .ok () ↔
      validTerminalTimestamps state completedAt cancelledAt expiredAt = true := by
  rw [validateTerminalTimestamps, rejectIf_eq_ok_iff, Bool.not_eq_false]

theorem fromPersistence_toPersisted {session : UploadSession} (h : session.Invariant) :
    fromPersistence session.toPersisted = .ok session := by
  simp only [fromPersistence, andThen_eq_ok_iff, validateTerminalTimestamps_eq_ok_iff]
  refine ⟨h.fields, h.timestamps, ?_⟩
  have hmime : canonicalMimeType session.toPersisted.expectedMime = .ok session.expectedMime :=
    canonicalMimeType_of_isCanonicalMime h.mime
  rw [hmime]
  rfl

/-- A new session is pending and can be stored. -/
theorem new_spec {input : NewUploadSession} {now : Time} {session : UploadSession}
    (h : new input now = .ok session) : session.state = .pending ∧ session.Invariant := by
  simp only [new, andThen_eq_ok_iff, rejectIf_eq_ok_iff] at h
  obtain ⟨hfields, _, h⟩ := h
  obtain ⟨mime, hmime, h⟩ := bind_eq_ok_iff.1 h
  obtain rfl := pure_eq_ok_iff.1 h
  exact ⟨rfl, hfields, rfl, isCanonicalMime_of_canonicalMimeType hmime⟩

theorem Invariant.finish {session : UploadSession} (h : session.Invariant)
    (hpending : session.state = .pending) (call : Call) (now : Time) :
    (session.finish call now).Invariant := by
  have htimestamps := h.timestamps
  simp only [hpending, validTerminalTimestamps, Bool.and_eq_true, Option.isNone_iff_eq_none]
    at htimestamps
  obtain ⟨⟨hcompleted, hcancelled⟩, hexpired⟩ := htimestamps
  cases call with
  | complete =>
      refine ⟨h.fields, ?_, h.mime⟩
      simp [UploadSession.finish, stamp, Call.target, validTerminalTimestamps, hcancelled, hexpired]
  | cancel =>
      refine ⟨h.fields, ?_, h.mime⟩
      simp [UploadSession.finish, stamp, Call.target, validTerminalTimestamps, hcompleted, hexpired]
  | expire =>
      refine ⟨h.fields, ?_, h.mime⟩
      simp [UploadSession.finish, stamp, Call.target, validTerminalTimestamps, hcompleted,
        hcancelled]

/-- The calls on a session that `UploadSession::new` built. -/
def lifecycle : System UploadSession (Call × Time) where
  init session := ∃ input now, new input now = .ok session
  step session event := ((event.1.perform event.2).run session).2

theorem lifecycle_step (session : UploadSession) (event : Call × Time) :
    lifecycle.step session event = ((event.1.perform event.2).run session).2 := rfl

theorem Invariant.step {session : UploadSession} (h : session.Invariant) (event : Call × Time) :
    (lifecycle.step session event).Invariant := by
  have hends := ends_perform session event.1 event.2
  rw [lifecycle_step]
  generalize (event.1.perform event.2).run session = response at hends
  cases hends with
  | replayed _ => exact h
  | refused _ _ => exact h
  | untimely _ _ => exact h
  | applied pending _ => exact h.finish pending event.1 event.2

/-- What is promised of one call. -/
structure Promised (session : UploadSession) (event : Call × Time) : Prop where
  failed : ∀ e, ((event.1.perform event.2).run session).1 = .error e →
    ((event.1.perform event.2).run session).2 = session
  replayed : ((event.1.perform event.2).run session).1 = .ok .alreadyApplied →
    session.state = event.1.target ∧ ((event.1.perform event.2).run session).2 = session
  applied : ((event.1.perform event.2).run session).1 = .ok .applied →
    session.state = .pending ∧ event.1.Timely session event.2 ∧
      ((event.1.perform event.2).run session).2 = session.finish event.1 event.2
  taken : session.state = .pending → event.1.Timely session event.2 →
    ((event.1.perform event.2).run session).1 = .ok .applied
  untimely : session.state = .pending → ¬ event.1.Timely session event.2 →
    ((event.1.perform event.2).run session).1 = .error event.1.untimely
  terminal : session.state ≠ .pending →
    ((event.1.perform event.2).run session).2 = session ∧
      (((event.1.perform event.2).run session).1 = .ok .alreadyApplied ↔
        session.state = event.1.target)
  persisted : fromPersistence ((event.1.perform event.2).run session).2.toPersisted =
    .ok ((event.1.perform event.2).run session).2

theorem promised {session : UploadSession} (h : session.Invariant) (event : Call × Time) :
    session.Promised event := by
  have hends := ends_perform session event.1 event.2
  have hpersisted := fromPersistence_toPersisted (h.step event)
  have htarget := target_ne_pending event.1
  rw [lifecycle_step] at hpersisted
  refine ⟨?_, ?_, ?_, ?_, ?_, ?_, hpersisted⟩
  all_goals
    generalize (event.1.perform event.2).run session = response at hends
    cases hends with
    | replayed same => simp_all
    | refused terminal differs => simp_all
    | untimely pending time => simp_all
    | applied pending time => simp_all

theorem along_promised {session : UploadSession} (h : session.Invariant)
    (events : List (Call × Time)) : lifecycle.Along Promised session events := by
  induction events generalizing session with
  | nil => trivial
  | cons event events ih => exact ⟨promised h event, ih (h.step event)⟩

def isApplied : DomainResult UploadSessionTransition → Bool
  | .ok .applied => true
  | _ => false

/-- The results of the calls of a run. -/
def outcomes : UploadSession → List (Call × Time) → List (DomainResult UploadSessionTransition)
  | _, [] => []
  | session, event :: events =>
      ((event.1.perform event.2).run session).1 ::
        outcomes ((event.1.perform event.2).run session).2 events

theorem isApplied_iff {result : DomainResult UploadSessionTransition} :
    isApplied result = true ↔ result = .ok .applied := by
  rcases result with e | (_ | _)
  all_goals simp [isApplied]

/-- A terminal session takes no call. -/
theorem countP_outcomes_terminal {session : UploadSession} (h : session.Invariant)
    (hterminal : session.state ≠ .pending) (events : List (Call × Time)) :
    (outcomes session events).countP isApplied = 0 := by
  induction events with
  | nil => rfl
  | cons event events ih =>
      have hpromised := promised h event
      have hnone : ¬ isApplied ((event.1.perform event.2).run session).1 = true := by
        intro happlied
        exact hterminal (hpromised.applied (isApplied_iff.1 happlied)).1
      rw [outcomes, List.countP_cons, if_neg hnone, (hpromised.terminal hterminal).1, ih]

/-- A call that comes too early or too late leaves a pending session as it is. -/
theorem step_untimely {session : UploadSession} (h : session.Invariant)
    (hpending : session.state = .pending) {event : Call × Time}
    (huntimely : ¬ event.1.Timely session event.2) :
    ((event.1.perform event.2).run session).1 = .error event.1.untimely ∧
      ((event.1.perform event.2).run session).2 = session := by
  have hpromised := promised h event
  have herror := hpromised.untimely hpending huntimely
  exact ⟨herror, hpromised.failed _ herror⟩

/-- A pending session takes exactly one call of a run in which one comes at its time, and none
where all come too early or too late. -/
theorem countP_outcomes {session : UploadSession} (h : session.Invariant)
    (hpending : session.state = .pending) (events : List (Call × Time)) :
    (outcomes session events).countP isApplied ≤ 1 ∧
      ((outcomes session events).countP isApplied = 1 ↔
        ∃ event ∈ events, event.1.Timely session event.2) := by
  induction events with
  | nil => simp [outcomes]
  | cons event events ih =>
      by_cases htimely : event.1.Timely session event.2
      · have happlied := (promised h event).taken hpending htimely
        have hafter := ((promised h event).applied happlied).2.2
        have hterminal : (session.finish event.1 event.2).state ≠ .pending := by
          rw [finish_state]
          exact target_ne_pending event.1
        have hrest := countP_outcomes_terminal (h.finish hpending event.1 event.2) hterminal events
        rw [outcomes, List.countP_cons, if_pos (isApplied_iff.2 happlied), hafter, hrest]
        exact ⟨Nat.le_refl 1, iff_of_true rfl ⟨event, List.mem_cons_self, htimely⟩⟩
      · obtain ⟨herror, hsame⟩ := step_untimely h hpending htimely
        have hnone : ¬ isApplied ((event.1.perform event.2).run session).1 = true := by
          rw [herror]
          exact Bool.false_ne_true
        rw [outcomes, List.countP_cons, if_neg hnone, hsame, Nat.add_zero]
        refine ⟨ih.1, ih.2.trans ?_⟩
        simp only [List.exists_mem_cons_iff, htimely, false_or]

/-- In every run from a new session exactly one call takes effect where one comes at its time and
none elsewhere, each call keeps its promises, and every state can be stored and read back. -/
theorem uploadSession_run {input : NewUploadSession} {now : Time} {session : UploadSession}
    (h : new input now = .ok session) (events : List (Call × Time)) :
    (outcomes session events).countP isApplied ≤ 1 ∧
      ((outcomes session events).countP isApplied = 1 ↔
        ∃ event ∈ events, event.1.Timely session event.2) ∧
      lifecycle.Along Promised session events ∧
      fromPersistence session.toPersisted = .ok session ∧
      fromPersistence (lifecycle.run session events).toPersisted =
        .ok (lifecycle.run session events) := by
  obtain ⟨hpending, hinvariant⟩ := new_spec h
  obtain ⟨hle, hone⟩ := countP_outcomes hinvariant hpending events
  refine ⟨hle, hone, ?_, fromPersistence_toPersisted hinvariant, ?_⟩
  · exact along_promised hinvariant events
  · exact fromPersistence_toPersisted
      (System.run_invariant (fun _ event hsession => hsession.step event) hinvariant events)

def exampleInput : NewUploadSession where
  id := 1
  mediaId := 2
  applicationId := 3
  bucketId := 4
  objectKey := "avatars/example.png".toList
  originalName := some "example.png".toList
  displayName := "Example".toList
  extension := some "png".toList
  expectedSize := 42
  expectedMime := "IMAGE/PNG".toList
  storageBackend := "s3".toList
  storageKey := "uploads/example".toList
  visibilityOverride := none
  mediaExpiresAt := none
  clientMetadata := ⟨[], [], validateContent_empty⟩
  sessionExpiresAt := 60

/-- The cancellation takes effect; the calls after it do not. -/
theorem uploadSession_run_example :
    ∃ session, new exampleInput 0 = .ok session ∧
      (outcomes session [(.complete, 70), (.cancel, 80), (.cancel, 90), (.expire, 95)]).countP
        isApplied = 1 := by
  have hnew : (new exampleInput 0).toBool = true := by decide +kernel
  obtain ⟨session, hsession⟩ := exists_of_toBool hnew
  refine ⟨session, hsession, (uploadSession_run hsession _).2.1.2 ?_⟩
  exact ⟨(.cancel, 80), by simp, trivial⟩

/-- The part of a row that the repository works with. -/
def row (session : UploadSession) (storageCleanupCompletedAt : Option Time) :
    Core.UploadSession where
  id := session.id
  mediaId := session.mediaId
  applicationId := session.applicationId
  bucketId := session.bucketId
  objectKey := String.ofList session.objectKey
  storageKey := String.ofList session.storageKey
  expectedSize := session.expectedSize
  sessionExpiresAt := session.sessionExpiresAt
  state := session.state
  completedAt := session.completedAt
  cancelledAt := session.cancelledAt
  expiredAt := session.expiredAt
  storageCleanupCompletedAt := storageCleanupCompletedAt
  updatedAt := session.updatedAt

theorem isExpiredAt_row (session : UploadSession) (cleanup : Option Time) (now : Time) :
    (session.row cleanup).isExpiredAt now = session.isExpiredAt now := rfl

/-- The statement that the repository runs writes what the call that took effect left. -/
theorem row_finish (session : UploadSession) (cleanup : Option Time) (call : Call) (now : Time) :
    (session.finish call now).row cleanup =
      (Store.UploadSession.finish call.target now).apply (session.row cleanup) := by
  cases call
  all_goals rfl

end UploadSession

end MediaHub.Domain
