import Mathlib.Data.Finset.Card
import Mathlib.Logic.Function.Basic
import MediaHub.Transition.System

/-!
The browser's upload scheduler (`upload-scheduler.ts`). A step is what happens between two awaits:
a call of `enqueue`, `cancel` or `setConcurrency`, or the continuation of one run after its promise
has settled. The listeners and the clock readings they are shown are left out.
-/

namespace MediaHub.Web

open Function

inductive UploadScheduleState
  | pending | active | succeeded | failed | cancelled
  deriving DecidableEq

/-- The states a task is never to leave. -/
def UploadScheduleState.Terminal (state : UploadScheduleState) : Prop :=
  state = .succeeded ∨ state = .failed ∨ state = .cancelled

instance (state : UploadScheduleState) : Decidable state.Terminal := by
  unfold UploadScheduleState.Terminal
  infer_instance

def minUploadConcurrency : Nat := 1

def maxUploadConcurrency : Nat := 12

/-- The values `validateConcurrency` lets through. -/
abbrev Concurrency :=
  { value : Nat // minUploadConcurrency ≤ value ∧ value ≤ maxUploadConcurrency }

/-- `none` stands for a number that is no integer. -/
def validateConcurrency : Option Int → Option Concurrency
  | some value =>
      if h : minUploadConcurrency ≤ value.toNat ∧ value.toNat ≤ maxUploadConcurrency then
        some ⟨value.toNat, h⟩
      else none
  | none => none

structure ScheduledUpload (Input Result Error : Type) where
  input : Input
  state : UploadScheduleState
  attempts : Nat
  result : Option Result
  error : Option Error

structure AbortController where
  aborted : Bool

/-- The promise a suspended `run` waits for. -/
inductive Awaited
  | runner | delay
  deriving DecidableEq

/-- A start of a task with the two numbers `pump` compared for it. -/
structure Start where
  active : Nat
  concurrency : Nat

/-- The scheduler's options, with what its runner and its delay do when they are called: `none`
returns a promise, which settles in a later step, and `some error` throws at once. No task makes an
attempt twice, so the id and the attempt number tell two calls apart. -/
structure UploadSchedulerOptions (Input Error : Type) where
  maxRetries : Nat
  isAbortError : Error → Bool
  isTransientError : Error → Bool
  runner : Input → String → Nat → Option Error
  delay : String → Nat → Option Error

/-- The fields of the class. `awaiting` is what the event loop keeps of every suspended `run`, and
`starts` only records what `pump` has done. -/
structure UploadScheduler (Input Result Error : Type) where
  concurrency : Concurrency
  tasks : String → Option (ScheduledUpload Input Result Error)
  pendingIds : List String
  activeIds : Finset String
  controllers : String → Option AbortController
  awaiting : String → Option Awaited
  starts : List Start

namespace UploadScheduler

variable {Input Result Error : Type} (options : UploadSchedulerOptions Input Error)

/-- What the constructor leaves. -/
def new (concurrency : Concurrency) : UploadScheduler Input Result Error where
  concurrency := concurrency
  tasks := fun _ => none
  pendingIds := []
  activeIds := ∅
  controllers := fun _ => none
  awaiting := fun _ => none
  starts := []

/-- The fields of the task object are written through its reference. -/
def put (s : UploadScheduler Input Result Error) (id : String)
    (task : ScheduledUpload Input Result Error) : UploadScheduler Input Result Error :=
  { s with tasks := update s.tasks id (some task) }

def await (s : UploadScheduler Input Result Error) (id : String) (awaited : Awaited) :
    UploadScheduler Input Result Error :=
  { s with awaiting := update s.awaiting id (some awaited) }

/-- `controller.signal.aborted` of the task's run. -/
def aborted (s : UploadScheduler Input Result Error) (id : String) : Bool :=
  (s.controllers id).any (·.aborted)

/-- The inner `catch` of `run`. Like the functions below it answers with the state and with whether
the loop of `run` is left. -/
def delayCaught (s : UploadScheduler Input Result Error) (id : String)
    (task : ScheduledUpload Input Result Error) (delayError : Error) :
    UploadScheduler Input Result Error × Bool :=
  (s.put id { task with
      error := some delayError
      state := if s.aborted id || options.isAbortError delayError then .cancelled else .failed },
    true)

/-- The outer `catch` of `run`, up to the delay. -/
def caught (s : UploadScheduler Input Result Error) (id : String)
    (task : ScheduledUpload Input Result Error) (error : Error) :
    UploadScheduler Input Result Error × Bool :=
  if s.aborted id || options.isAbortError error then
    (s.put id { task with state := .cancelled }, true)
  else
    let task := { task with error := some error }
    if options.maxRetries < task.attempts || !options.isTransientError error then
      (s.put id { task with state := .failed }, true)
    else
      match options.delay id task.attempts with
      | none => ((s.put id task).await id .delay, false)
      | some delayError => delayCaught options (s.put id task) id task delayError

/-- One turn of the loop of `run`, up to its first await. -/
def attempt (s : UploadScheduler Input Result Error) (id : String)
    (task : ScheduledUpload Input Result Error) : UploadScheduler Input Result Error × Bool :=
  if task.state = .active then
    let task := { task with attempts := task.attempts + 1 }
    match options.runner task.input id task.attempts with
    | none => ((s.put id task).await id .runner, false)
    | some error => caught options (s.put id task) id task error
  else (s, true)

/-- The runner's promise has resolved. -/
def resolved (s : UploadScheduler Input Result Error) (id : String)
    (task : ScheduledUpload Input Result Error) (result : Result) :
    UploadScheduler Input Result Error × Bool :=
  if task.state = .active then
    (s.put id { task with result := some result, state := .succeeded }, true)
  else (s, true)

/-- `run` takes its task out of the active set when its loop is left. -/
def release (s : UploadScheduler Input Result Error) (id : String) :
    UploadScheduler Input Result Error :=
  { s with
    activeIds := s.activeIds.erase id
    controllers := update s.controllers id none
    awaiting := update s.awaiting id none }

/-- What `pump` does to a task before it calls `run`. -/
def start (s : UploadScheduler Input Result Error) (id : String)
    (task : ScheduledUpload Input Result Error) : UploadScheduler Input Result Error :=
  { s with
    tasks := update s.tasks id (some { task with state := .active })
    activeIds := insert id s.activeIds
    controllers := update s.controllers id (some ⟨false⟩)
    starts := s.starts ++ [⟨s.activeIds.card, s.concurrency⟩] }

/-- The loop of `pump`, for at most so many turns; a `run` that ends before its first await pumps
inside the turn that started it. -/
def pumpLoop : Nat → UploadScheduler Input Result Error → UploadScheduler Input Result Error
  | 0, s => s
  | turns + 1, s =>
      if s.activeIds.card < s.concurrency then
        match s.pendingIds with
        | [] => s
        | id :: rest =>
            let s := { s with pendingIds := rest }
            -- `if (!id) return`: the empty string is as falsy as `undefined`
            if id = "" then s
            else
              match s.tasks id with
              | none => pumpLoop turns s
              | some task =>
                  if task.state ≠ .pending then pumpLoop turns s
                  else
                    let run := attempt options (s.start id task) id { task with state := .active }
                    pumpLoop turns
                      (if run.2 then pumpLoop turns (run.1.release id) else run.1)
      else s

/-- Every turn shifts an id, so there are no more turns than ids. -/
def pump (s : UploadScheduler Input Result Error) : UploadScheduler Input Result Error :=
  pumpLoop options s.pendingIds.length s

/-- What follows the loop of `run`, where it was left. -/
def settle (id : String) (run : UploadScheduler Input Result Error × Bool) :
    UploadScheduler Input Result Error :=
  if run.2 then pump options (run.1.release id) else run.1

def enqueue (s : UploadScheduler Input Result Error) (id : String) (input : Input) :
    UploadScheduler Input Result Error × Bool :=
  if (s.tasks id).isSome then (s, false)
  else
    (pump options { s with
      tasks := update s.tasks id (some ⟨input, .pending, 0, none, none⟩)
      pendingIds := s.pendingIds ++ [id] }, true)

def cancel (s : UploadScheduler Input Result Error) (id : String) :
    UploadScheduler Input Result Error × Bool :=
  match s.tasks id with
  | none => (s, false)
  | some task =>
      if task.state = .pending ∨ task.state = .active then
        let s := s.put id { task with state := .cancelled }
        if id ∈ s.activeIds then
          ({ s with controllers :=
              update s.controllers id ((s.controllers id).map fun _ => ⟨true⟩) }, true)
        else ({ s with pendingIds := s.pendingIds.erase id }, true)
      else (s, false)

/-- `none` is the `RangeError` of `validateConcurrency`. -/
def setConcurrency (s : UploadScheduler Input Result Error) (value : Option Int) :
    Option (UploadScheduler Input Result Error) :=
  (validateConcurrency value).map fun next =>
    if next = s.concurrency then s else pump options { s with concurrency := next }

/-- A call of the scheduler, or the settling of a promise that a run awaits. -/
inductive Event (Input Result Error : Type)
  | enqueue (id : String) (input : Input)
  | cancel (id : String)
  | setConcurrency (value : Option Int)
  | resolve (id : String) (result : Result)
  | reject (id : String) (error : Error)
  | delayed (id : String)
  | delayRejected (id : String) (delayError : Error)

/-- The continuation of the run of `id`, if it awaits `awaited`. -/
def continued (s : UploadScheduler Input Result Error) (id : String) (awaited : Awaited)
    (next : ScheduledUpload Input Result Error → UploadScheduler Input Result Error × Bool) :
    UploadScheduler Input Result Error :=
  match s.tasks id with
  | some task => if s.awaiting id = some awaited then settle options id (next task) else s
  | none => s

def step (s : UploadScheduler Input Result Error) :
    Event Input Result Error → UploadScheduler Input Result Error
  | .enqueue id input => (s.enqueue options id input).1
  | .cancel id => (s.cancel id).1
  | .setConcurrency value => (s.setConcurrency options value).getD s
  | .resolve id result => s.continued options id .runner fun task => s.resolved id task result
  | .reject id error => s.continued options id .runner fun task => s.caught options id task error
  | .delayed id => s.continued options id .delay fun task => s.attempt options id task
  | .delayRejected id delayError =>
      s.continued options id .delay fun task => s.delayCaught options id task delayError

/-- The scheduler over every sequence of calls and of runner and delay outcomes. -/
def system : Transition.System (UploadScheduler Input Result Error) (Event Input Result Error) where
  init := fun s => ∃ concurrency, s = new concurrency
  step := step options

end UploadScheduler

end MediaHub.Web
