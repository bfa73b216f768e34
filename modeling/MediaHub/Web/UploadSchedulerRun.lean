import Mathlib.Data.Set.Insert
import MediaHub.Web.UploadScheduler

namespace MediaHub.Web.UploadScheduler

open Function

variable {Input Result Error : Type}

theorem terminal_succeeded : UploadScheduleState.succeeded.Terminal := .inl rfl

theorem terminal_failed : UploadScheduleState.failed.Terminal := .inr (.inl rfl)

theorem terminal_cancelled : UploadScheduleState.cancelled.Terminal := .inr (.inr rfl)

/-- All that the scheduler holds under one id. -/
structure Slot (Input Result Error : Type) where
  task : Option (ScheduledUpload Input Result Error)
  queued : Prop
  active : Prop
  controller : Option AbortController
  awaiting : Option Awaited

def slot (s : UploadScheduler Input Result Error) (id : String) : Slot Input Result Error :=
  ⟨s.tasks id, id ∈ s.pendingIds, id ∈ s.activeIds, s.controllers id, s.awaiting id⟩

/-- The places a task can have between two steps. -/
inductive Slot.Sound (maxRetries : Nat) (slot : Slot Input Result Error) : Prop
  | unknown (htask : slot.task = none) (hqueued : ¬ slot.queued) (hactive : ¬ slot.active)
      (hawaiting : slot.awaiting = none)
  | waiting (task : ScheduledUpload Input Result Error) (htask : slot.task = some task)
      (hstate : task.state = .pending) (hattempts : task.attempts = 0) (hqueued : slot.queued)
      (hactive : ¬ slot.active) (hawaiting : slot.awaiting = none)
  | running (task : ScheduledUpload Input Result Error) (htask : slot.task = some task)
      (hstate : task.state = .active) (hattempts : task.attempts ≤ maxRetries + 1)
      (hdelay : slot.awaiting = some .delay → task.attempts ≤ maxRetries)
      (hqueued : ¬ slot.queued) (hactive : slot.active)
      (hcontroller : slot.controller = some ⟨false⟩)
  -- cancelled, while its runner or its delay has not yet settled
  | leaving (task : ScheduledUpload Input Result Error) (htask : slot.task = some task)
      (hstate : task.state = .cancelled) (hattempts : task.attempts ≤ maxRetries + 1)
      (hqueued : ¬ slot.queued) (hactive : slot.active)
      (hcontroller : slot.controller = some ⟨true⟩)
  | finished (task : ScheduledUpload Input Result Error) (htask : slot.task = some task)
      (hstate : task.state.Terminal) (hattempts : task.attempts ≤ maxRetries + 1)
      (hqueued : ¬ slot.queued) (hactive : ¬ slot.active) (hawaiting : slot.awaiting = none)

/-- What holds whenever no code of the scheduler is running. -/
structure Sound (maxRetries : Nat) (s : UploadScheduler Input Result Error) : Prop where
  slots : ∀ id, (s.slot id).Sound maxRetries
  nodup : s.pendingIds.Nodup
  named : "" ∉ s.pendingIds
  guarded : ∀ start ∈ s.starts, start.active < start.concurrency

/-- No slot is free, or no task waits for one. -/
def Busy (s : UploadScheduler Input Result Error) : Prop :=
  s.pendingIds = [] ∨ (s.concurrency : Nat) ≤ s.activeIds.card

/-- Terminal states are not left. -/
def Kept (s s' : UploadScheduler Input Result Error) : Prop :=
  ∀ id task, s.tasks id = some task → task.state.Terminal →
    ∃ task', s'.tasks id = some task' ∧ task'.state = task.state

theorem Kept.refl (s : UploadScheduler Input Result Error) : Kept s s :=
  fun _ task htask _ => ⟨task, htask, rfl⟩

theorem Kept.trans {s s' s'' : UploadScheduler Input Result Error} (h : Kept s s')
    (h' : Kept s' s'') : Kept s s'' := by
  intro id task htask hterminal
  obtain ⟨task', htask', hstate'⟩ := h id task htask hterminal
  obtain ⟨task'', htask'', hstate''⟩ := h' id task' htask' (hstate' ▸ hterminal)
  exact ⟨task'', htask'', hstate''.trans hstate'⟩

section Turn

variable (options : UploadSchedulerOptions Input Error)

/-- A run between two awaits: its task is active, or was cancelled and its controller aborted. -/
structure InRun (maxRetries : Nat) (s : UploadScheduler Input Result Error) (id : String)
    (task : ScheduledUpload Input Result Error) : Prop where
  htask : s.tasks id = some task
  hqueued : id ∉ s.pendingIds
  hactive : id ∈ s.activeIds
  hattempts : task.attempts ≤ maxRetries + 1
  hstate : task.state = .active ∧ s.controllers id = some ⟨false⟩ ∨
    task.state = .cancelled ∧ s.controllers id = some ⟨true⟩

/-- What a turn of `run` leaves: nothing but its own task has changed, and that task is either
active and awaited or terminal. -/
structure Turn (maxRetries : Nat) (s : UploadScheduler Input Result Error) (id : String)
    (run : UploadScheduler Input Result Error × Bool) : Prop where
  others : ∀ other, other ≠ id → run.1.slot other = s.slot other
  pendingIds : run.1.pendingIds = s.pendingIds
  activeIds : run.1.activeIds = s.activeIds
  starts : run.1.starts = s.starts
  concurrency : run.1.concurrency = s.concurrency
  suspended : run.2 = false → (run.1.slot id).Sound maxRetries
  left : run.2 = true → ∃ task, run.1.tasks id = some task ∧ task.state.Terminal ∧
    task.attempts ≤ maxRetries + 1
  kept : ∀ task, s.tasks id = some task → task.state.Terminal →
    ∃ task', run.1.tasks id = some task' ∧ task'.state = task.state

variable {options} {s : UploadScheduler Input Result Error} {id : String}
  {task : ScheduledUpload Input Result Error}

theorem slot_put_of_ne {other : String} (h : other ≠ id) :
    (s.put id task).slot other = s.slot other := by
  simp [slot, put, update_of_ne h]

theorem slot_await_of_ne {other : String} {awaited : Awaited} (h : other ≠ id) :
    (s.await id awaited).slot other = s.slot other := by
  simp [slot, await, update_of_ne h]

theorem slot_release_of_ne {other : String} (h : other ≠ id) :
    (s.release id).slot other = s.slot other := by
  simp [slot, release, h]

/-- A turn that ends in a terminal state. -/
theorem Turn.of_terminal {maxRetries : Nat} {task' : ScheduledUpload Input Result Error}
    (h : InRun maxRetries s id task) (hterminal : task'.state.Terminal)
    (hattempts : task'.attempts ≤ maxRetries + 1)
    (hkept : task.state = .cancelled → task'.state = .cancelled) :
    Turn maxRetries s id (s.put id task', true) where
  others := fun _ hne => slot_put_of_ne hne
  pendingIds := rfl
  activeIds := rfl
  starts := rfl
  concurrency := rfl
  suspended := nofun
  left := fun _ => ⟨task', by simp [put], hterminal, hattempts⟩
  kept := by
    intro old hold hterm
    obtain rfl : task = old := Option.some.inj (h.htask.symm.trans hold)
    have hcancelled : task.state = .cancelled := by
      rcases h.hstate with ⟨hstate, _⟩ | ⟨hstate, _⟩
      · rw [hstate] at hterm
        exact absurd hterm (by decide)
      · exact hstate
    exact ⟨task', by simp [put], (hkept hcancelled).trans hcancelled.symm⟩

/-- A turn that ends at an await of an active task. -/
theorem Turn.of_await {maxRetries : Nat} {task' : ScheduledUpload Input Result Error}
    {awaited : Awaited} (h : InRun maxRetries s id task) (hactive : task.state = .active)
    (hstate : task'.state = .active) (hattempts : task'.attempts ≤ maxRetries + 1)
    (hdelay : awaited = .delay → task'.attempts ≤ maxRetries) :
    Turn maxRetries s id ((s.put id task').await id awaited, false) where
  others := fun _ hne => (slot_await_of_ne hne).trans (slot_put_of_ne hne)
  pendingIds := rfl
  activeIds := rfl
  starts := rfl
  concurrency := rfl
  suspended := by
    intro _
    refine .running task' (by simp [slot, await, put]) hstate hattempts ?_ h.hqueued h.hactive ?_
    · intro hawaiting
      exact hdelay (by simpa [slot, await] using hawaiting)
    · rcases h.hstate with ⟨_, hcontroller⟩ | ⟨hcancelled, _⟩
      · exact hcontroller
      · rw [hactive] at hcancelled
        cases hcancelled
  left := nofun
  kept := by
    intro old hold hterm
    obtain rfl : task = old := Option.some.inj (h.htask.symm.trans hold)
    rw [hactive] at hterm
    exact absurd hterm (by decide)

/-- A turn that goes on from the same task with other fields. -/
theorem Turn.of_put {maxRetries : Nat} {task' : ScheduledUpload Input Result Error}
    {run : UploadScheduler Input Result Error × Bool} (h : InRun maxRetries s id task)
    (hstate : task'.state = task.state) (hturn : Turn maxRetries (s.put id task') id run) :
    Turn maxRetries s id run where
  others := fun other hne => (hturn.others other hne).trans (slot_put_of_ne hne)
  pendingIds := hturn.pendingIds
  activeIds := hturn.activeIds
  starts := hturn.starts
  concurrency := hturn.concurrency
  suspended := hturn.suspended
  left := hturn.left
  kept := by
    intro old hold hterm
    obtain rfl : task = old := Option.some.inj (h.htask.symm.trans hold)
    obtain ⟨task'', htask'', hstate''⟩ := hturn.kept task' (by simp [put]) (hstate ▸ hterm)
    exact ⟨task'', htask'', hstate''.trans hstate⟩

/-- A turn that finds its task cancelled. -/
theorem Turn.of_cancelled {maxRetries : Nat} (h : InRun maxRetries s id task)
    (hnot : task.state ≠ .active) : Turn maxRetries s id (s, true) where
  others := fun _ _ => rfl
  pendingIds := rfl
  activeIds := rfl
  starts := rfl
  concurrency := rfl
  suspended := nofun
  left := by
    intro _
    rcases h.hstate with ⟨hstate, _⟩ | ⟨hstate, _⟩
    · exact absurd hstate hnot
    · exact ⟨task, h.htask, .inr (.inr hstate), h.hattempts⟩
  kept := fun old hold _ => ⟨old, hold, rfl⟩

theorem InRun.put {maxRetries : Nat} {task' : ScheduledUpload Input Result Error}
    (h : InRun maxRetries s id task) (hstate : task'.state = task.state)
    (hattempts : task'.attempts ≤ maxRetries + 1) : InRun maxRetries (s.put id task') id task' where
  htask := by simp [UploadScheduler.put]
  hqueued := h.hqueued
  hactive := h.hactive
  hattempts := hattempts
  hstate := hstate ▸ h.hstate

theorem InRun.aborted_iff {maxRetries : Nat} (h : InRun maxRetries s id task) :
    s.aborted id = true ↔ task.state = .cancelled := by
  rcases h.hstate with ⟨hstate, hcontroller⟩ | ⟨hstate, hcontroller⟩ <;>
    simp [aborted, hstate, hcontroller]

theorem InRun.active_of_not_aborted {maxRetries : Nat} (h : InRun maxRetries s id task)
    (hnot : s.aborted id = false) : task.state = .active := by
  rcases h.hstate with ⟨hstate, _⟩ | ⟨hstate, _⟩
  · exact hstate
  · rw [h.aborted_iff.mpr hstate] at hnot
    cases hnot

theorem turn_delayCaught (h : InRun options.maxRetries s id task) (delayError : Error) :
    Turn options.maxRetries s id (delayCaught options s id task delayError) := by
  refine Turn.of_terminal h ?_ h.hattempts ?_
  · dsimp only
    split <;> decide
  · intro hcancelled
    simp [h.aborted_iff.mpr hcancelled]

theorem turn_caught (h : InRun options.maxRetries s id task) (error : Error) :
    Turn options.maxRetries s id (caught options s id task error) := by
  unfold caught
  split
  · exact Turn.of_terminal h terminal_cancelled h.hattempts fun _ => rfl
  · rename_i hnot
    obtain ⟨hnot, _⟩ : s.aborted id = false ∧ options.isAbortError error = false := by
      simpa using hnot
    have hactive := h.active_of_not_aborted hnot
    dsimp only
    split
    · refine Turn.of_terminal h terminal_failed h.hattempts fun hcancelled => ?_
      rw [hactive] at hcancelled
      cases hcancelled
    · rename_i hretry
      have hleft : task.attempts ≤ options.maxRetries := by
        simp only [Bool.or_eq_true, decide_eq_true_eq, not_or, Nat.not_lt] at hretry
        exact hretry.1
      split
      · exact Turn.of_await h hactive hactive h.hattempts fun _ => hleft
      · let task' := { task with error := some error }
        have hput : InRun options.maxRetries (s.put id task') id task' := h.put rfl h.hattempts
        exact @Turn.of_put _ _ _ _ _ _ _ task' _ h rfl (turn_delayCaught hput _)

theorem turn_attempt (h : InRun options.maxRetries s id task)
    (hleft : task.state = .active → task.attempts ≤ options.maxRetries) :
    Turn options.maxRetries s id (attempt options s id task) := by
  unfold attempt
  split
  · rename_i hactive
    have hbound : task.attempts + 1 ≤ options.maxRetries + 1 := Nat.succ_le_succ (hleft hactive)
    dsimp only
    split
    · exact Turn.of_await h hactive hactive hbound nofun
    · let task' := { task with attempts := task.attempts + 1 }
      have hput : InRun options.maxRetries (s.put id task') id task' := h.put rfl hbound
      exact @Turn.of_put _ _ _ _ _ _ _ task' _ h rfl (turn_caught hput _)
  · rename_i hnot
    exact Turn.of_cancelled h hnot

theorem turn_resolved (h : InRun options.maxRetries s id task) (result : Result) :
    Turn options.maxRetries s id (s.resolved id task result) := by
  unfold resolved
  split
  · rename_i hactive
    refine Turn.of_terminal h terminal_succeeded h.hattempts fun hcancelled => ?_
    rw [hactive] at hcancelled
    cases hcancelled
  · rename_i hnot
    exact Turn.of_cancelled h hnot

end Turn

section Pump

variable {options : UploadSchedulerOptions Input Error}

/-- What the loop of `pump` leaves. -/
structure Pumped (maxRetries : Nat) (s s' : UploadScheduler Input Result Error) : Prop where
  sound : s'.Sound maxRetries
  kept : Kept s s'
  length_le : s'.pendingIds.length ≤ s.pendingIds.length

theorem Sound.turn {maxRetries : Nat} {s : UploadScheduler Input Result Error} {id : String}
    {run : UploadScheduler Input Result Error × Bool}
    (hslots : ∀ other, other ≠ id → (s.slot other).Sound maxRetries) (hnodup : s.pendingIds.Nodup)
    (hnamed : "" ∉ s.pendingIds) (hguarded : ∀ start ∈ s.starts, start.active < start.concurrency)
    (hqueued : id ∉ s.pendingIds) (hturn : Turn maxRetries s id run) :
    (if run.2 then run.1.release id else run.1).Sound maxRetries := by
  split
  · rename_i hleft
    obtain ⟨task, htask, hterminal, hattempts⟩ := hturn.left hleft
    refine ⟨fun other => ?_, hturn.pendingIds ▸ hnodup, hturn.pendingIds ▸ hnamed,
      hturn.starts ▸ hguarded⟩
    rcases eq_or_ne other id with rfl | hne
    · refine .finished task htask hterminal hattempts ?_ ?_ ?_
      · simpa [slot, release, hturn.pendingIds] using hqueued
      · simp [slot, release]
      · simp [slot, release]
    · rw [slot_release_of_ne hne, hturn.others other hne]
      exact hslots other hne
  · rename_i hsuspended
    refine ⟨fun other => ?_, hturn.pendingIds ▸ hnodup, hturn.pendingIds ▸ hnamed,
      hturn.starts ▸ hguarded⟩
    rcases eq_or_ne other id with rfl | hne
    · exact hturn.suspended (by simpa using hsuspended)
    · rw [hturn.others other hne]
      exact hslots other hne

theorem Turn.keeps {maxRetries : Nat} {s : UploadScheduler Input Result Error} {id : String}
    {run : UploadScheduler Input Result Error × Bool} (hturn : Turn maxRetries s id run) :
    Kept s (if run.2 then run.1.release id else run.1) := by
  have htasks : (if run.2 then run.1.release id else run.1).tasks = run.1.tasks := by
    split <;> rfl
  intro other task htask hterminal
  rw [htasks]
  rcases eq_or_ne other id with rfl | hne
  · exact hturn.kept task htask hterminal
  · have hother : run.1.tasks other = s.tasks other :=
      congrArg Slot.task (hturn.others other hne)
    exact ⟨task, hother.trans htask, rfl⟩

/-- A queued id is the id of a task that has not been tried. -/
theorem Slot.Sound.of_queued {maxRetries : Nat} {slot : Slot Input Result Error}
    (h : slot.Sound maxRetries) (hqueued : slot.queued) :
    ∃ task, slot.task = some task ∧ task.state = .pending ∧ task.attempts = 0 := by
  cases h with
  | waiting task htask hstate hattempts => exact ⟨task, htask, hstate, hattempts⟩
  | unknown _ hnot => exact absurd hqueued hnot
  | running _ _ _ _ _ hnot => exact absurd hqueued hnot
  | leaving _ _ _ _ hnot => exact absurd hqueued hnot
  | finished _ _ _ _ hnot => exact absurd hqueued hnot

/-- The state a turn of `pump` leaves where it starts the task it has shifted. -/
theorem started {s : UploadScheduler Input Result Error} {id : String} {rest : List String}
    {task : ScheduledUpload Input Result Error} (hs : s.Sound options.maxRetries)
    (hfree : s.activeIds.card < s.concurrency) (hqueue : s.pendingIds = id :: rest)
    (htask : s.tasks id = some task) (hstate : task.state = .pending)
    (hattempts : task.attempts = 0) {run : UploadScheduler Input Result Error × Bool}
    (hrun : run = attempt options (({ s with pendingIds := rest }).start id task) id
      { task with state := .active }) :
    (if run.2 then run.1.release id else run.1).Sound options.maxRetries ∧
      Kept s (if run.2 then run.1.release id else run.1) ∧
      (if run.2 then run.1.release id else run.1).pendingIds = rest := by
  let s' := ({ s with pendingIds := rest }).start id task
  let task' := { task with state := UploadScheduleState.active }
  have hnodup : (id :: rest).Nodup := hqueue ▸ hs.nodup
  have hnamed : "" ∉ id :: rest := hqueue ▸ hs.named
  have hothers : ∀ other, other ≠ id → s'.slot other = s.slot other := by
    intro other hne
    simp [s', slot, start, hqueue, hne]
  have hin : InRun options.maxRetries s' id task' := {
    htask := by simp [s', task', start]
    hqueued := (List.nodup_cons.mp hnodup).1
    hactive := by simp [s', start]
    hattempts := by simp [task', hattempts]
    hstate := .inl ⟨rfl, by simp [s', start]⟩ }
  have hturn : Turn options.maxRetries s' id run := by
    rw [hrun]
    exact turn_attempt hin fun _ => by simp [hattempts]
  have hguarded : ∀ start ∈ s'.starts, start.active < start.concurrency := by
    intro start hstart
    rcases List.mem_append.mp hstart with hold | hnew
    · exact hs.guarded start hold
    · obtain rfl := List.mem_singleton.mp hnew
      exact hfree
  have hkept : Kept s s' := by
    intro other old hold hterminal
    rcases eq_or_ne other id with rfl | hne
    · obtain rfl : task = old := Option.some.inj (htask.symm.trans hold)
      rw [hstate] at hterminal
      exact absurd hterminal (by decide)
    · have hother : s'.tasks other = s.tasks other := congrArg Slot.task (hothers other hne)
      exact ⟨old, hother.trans hold, rfl⟩
  refine ⟨?_, hkept.trans hturn.keeps, ?_⟩
  · refine Sound.turn (fun other hne => ?_) (List.nodup_cons.mp hnodup).2
      (fun hmem => hnamed (List.mem_cons_of_mem id hmem)) hguarded
      (List.nodup_cons.mp hnodup).1 hturn
    rw [hothers other hne]
    exact hs.slots other
  · split <;> exact hturn.pendingIds

/-- The loop of `pump`, by induction on its turns: it keeps what is known of the tasks, and with a
turn for every queued id it only ends when no slot is free or no id is left. -/
theorem pumpLoop_pumped (turns : Nat) (s : UploadScheduler Input Result Error)
    (hs : s.Sound options.maxRetries) (hturns : s.pendingIds.length ≤ turns) :
    Pumped options.maxRetries s (pumpLoop options turns s) ∧ Busy (pumpLoop options turns s) := by
  induction turns generalizing s with
  | zero =>
      have hempty : s.pendingIds = [] := List.length_eq_zero_iff.mp (Nat.le_zero.mp hturns)
      exact ⟨⟨hs, Kept.refl s, Nat.le_refl _⟩, .inl hempty⟩
  | succ turns ih =>
      unfold pumpLoop
      split
      case isFalse hfull => exact ⟨⟨hs, Kept.refl s, Nat.le_refl _⟩, .inr (Nat.not_lt.mp hfull)⟩
      case isTrue hfree =>
        split
        case h_1 hempty => exact ⟨⟨hs, Kept.refl s, Nat.le_refl _⟩, .inl hempty⟩
        case h_2 id rest hqueue =>
          have hmem : id ∈ s.pendingIds := hqueue ▸ List.mem_cons_self
          obtain ⟨task, htask, hstate, hattempts⟩ := (hs.slots id).of_queued hmem
          have hname : id ≠ "" := fun hempty => hs.named (hempty ▸ hmem)
          replace htask : s.tasks id = some task := htask
          simp only [if_neg hname, htask, hstate, ne_eq, not_true_eq_false, if_false]
          generalize hrun : attempt options (({ s with pendingIds := rest }).start id task) id
            { task with state := .active } = run
          obtain ⟨hsound, hkept, hrest⟩ :=
            started hs hfree hqueue htask hstate hattempts hrun.symm
          have hlength : rest.length ≤ turns := by
            rw [hqueue] at hturns
            exact Nat.le_of_succ_le_succ hturns
          have hshorter : rest.length ≤ s.pendingIds.length := by
            rw [hqueue]
            exact Nat.le_succ _
          -- a run that has ended pumps first, and the loop goes on from what that leaves
          have hnested : Pumped options.maxRetries s
              (if run.2 then pumpLoop options turns (run.1.release id) else run.1) ∧
              (if run.2 then pumpLoop options turns (run.1.release id)
                else run.1).pendingIds.length ≤ turns := by
            split at hsound
            case isTrue hleft =>
              simp only [hleft, if_true] at hkept hrest ⊢
              obtain ⟨hpumped, _⟩ := ih _ hsound (hrest ▸ hlength)
              have hle := hpumped.length_le
              rw [hrest] at hle
              exact ⟨⟨hpumped.sound, hkept.trans hpumped.kept, hle.trans hshorter⟩,
                hle.trans hlength⟩
            case isFalse hsuspended =>
              simp only [hsuspended] at hkept hrest ⊢
              exact ⟨⟨hsound, hkept, hrest ▸ hshorter⟩, hrest ▸ hlength⟩
          obtain ⟨hpumped, hle⟩ := hnested
          obtain ⟨hagain, hbusy⟩ := ih _ hpumped.sound hle
          exact ⟨⟨hagain.sound, hpumped.kept.trans hagain.kept,
            hagain.length_le.trans hpumped.length_le⟩, hbusy⟩

theorem pump_pumped {s : UploadScheduler Input Result Error} (hs : s.Sound options.maxRetries) :
    Pumped options.maxRetries s (pump options s) ∧ Busy (pump options s) :=
  pumpLoop_pumped s.pendingIds.length s hs (Nat.le_refl _)

end Pump

section Step

variable {options : UploadSchedulerOptions Input Error}

/-- What holds between two steps. -/
structure Stable (maxRetries : Nat) (s : UploadScheduler Input Result Error) : Prop where
  sound : s.Sound maxRetries
  busy : Busy s

theorem Pumped.stable {maxRetries : Nat} {s s' : UploadScheduler Input Result Error}
    (h : Pumped maxRetries s s' ∧ Busy s') : Stable maxRetries s' :=
  ⟨h.1.sound, h.2⟩

theorem settle_stable {s : UploadScheduler Input Result Error} {id : String}
    {run : UploadScheduler Input Result Error × Bool} (hs : Stable options.maxRetries s)
    (hqueued : id ∉ s.pendingIds) (hturn : Turn options.maxRetries s id run) :
    Stable options.maxRetries (settle options id run) ∧ Kept s (settle options id run) := by
  have hsound : (if run.2 then run.1.release id else run.1).Sound options.maxRetries :=
    Sound.turn (fun other _ => hs.sound.slots other) hs.sound.nodup hs.sound.named
      hs.sound.guarded hqueued hturn
  have hkept := hturn.keeps
  unfold settle
  split
  case isTrue hleft =>
    simp only [hleft, if_true] at hsound hkept
    have hpumped := pump_pumped hsound
    exact ⟨Pumped.stable hpumped, hkept.trans hpumped.1.kept⟩
  case isFalse hsuspended =>
    simp only [hsuspended] at hsound hkept
    refine ⟨⟨hsound, ?_⟩, hkept⟩
    have hbusy := hs.busy
    simpa only [Busy, hturn.pendingIds, hturn.activeIds, hturn.concurrency] using hbusy

/-- A run that awaits a promise can go on when it settles. -/
theorem Slot.Sound.inRun {maxRetries : Nat} {s : UploadScheduler Input Result Error}
    {id : String} {task : ScheduledUpload Input Result Error} {awaited : Awaited}
    (h : (s.slot id).Sound maxRetries) (htask : s.tasks id = some task)
    (hawaiting : s.awaiting id = some awaited) :
    InRun maxRetries s id task ∧
      (awaited = .delay → task.state = .active → task.attempts ≤ maxRetries) := by
  cases h with
  | unknown _ _ _ hnone => exact absurd (hawaiting.symm.trans hnone) (by simp)
  | waiting _ _ _ _ _ _ hnone => exact absurd (hawaiting.symm.trans hnone) (by simp)
  | finished _ _ _ _ _ _ hnone => exact absurd (hawaiting.symm.trans hnone) (by simp)
  | running old hold hstate hattempts hdelay hqueued hactive hcontroller =>
      obtain rfl : task = old := Option.some.inj (htask.symm.trans hold)
      exact ⟨⟨htask, hqueued, hactive, hattempts, .inl ⟨hstate, hcontroller⟩⟩,
        fun hawaited _ => hdelay (hawaited ▸ hawaiting)⟩
  | leaving old hold hstate hattempts hqueued hactive hcontroller =>
      obtain rfl : task = old := Option.some.inj (htask.symm.trans hold)
      refine ⟨⟨htask, hqueued, hactive, hattempts, .inr ⟨hstate, hcontroller⟩⟩, ?_⟩
      intro _ hnot
      rw [hstate] at hnot
      cases hnot

theorem continued_stable {s : UploadScheduler Input Result Error} {id : String}
    {awaited : Awaited}
    {next : ScheduledUpload Input Result Error → UploadScheduler Input Result Error × Bool}
    (hs : Stable options.maxRetries s)
    (hnext : ∀ task, InRun options.maxRetries s id task →
      (awaited = .delay → task.state = .active → task.attempts ≤ options.maxRetries) →
      Turn options.maxRetries s id (next task)) :
    Stable options.maxRetries (s.continued options id awaited next) ∧
      Kept s (s.continued options id awaited next) := by
  unfold continued
  split
  · rename_i task htask
    split
    · rename_i hawaiting
      obtain ⟨hin, hleft⟩ := (hs.sound.slots id).inRun htask hawaiting
      exact settle_stable hs hin.hqueued (hnext task hin hleft)
    · exact ⟨hs, Kept.refl s⟩
  · exact ⟨hs, Kept.refl s⟩

theorem enqueue_stable {s : UploadScheduler Input Result Error} {id : String}
    (hs : Stable options.maxRetries s) (hname : id ≠ "") (input : Input) :
    Stable options.maxRetries (s.enqueue options id input).1 ∧
      Kept s (s.enqueue options id input).1 := by
  unfold enqueue
  split
  · exact ⟨hs, Kept.refl s⟩
  · rename_i hnew
    have hnone : s.tasks id = none := by simpa using hnew
    have habsent : id ∉ s.pendingIds ∧ id ∉ s.activeIds ∧ s.awaiting id = none := by
      cases hs.sound.slots id with
      | unknown _ hqueued hactive hawaiting => exact ⟨hqueued, hactive, hawaiting⟩
      | waiting _ htask => exact absurd (hnone.symm.trans htask) (by simp)
      | running _ htask => exact absurd (hnone.symm.trans htask) (by simp)
      | leaving _ htask => exact absurd (hnone.symm.trans htask) (by simp)
      | finished _ htask => exact absurd (hnone.symm.trans htask) (by simp)
    obtain ⟨hqueued, hactive, hawaiting⟩ := habsent
    let s' : UploadScheduler Input Result Error := { s with
      tasks := update s.tasks id (some ⟨input, .pending, 0, none, none⟩)
      pendingIds := s.pendingIds ++ [id] }
    have hsound : s'.Sound options.maxRetries := by
      refine ⟨fun other => ?_, ?_, ?_, hs.sound.guarded⟩
      · rcases eq_or_ne other id with rfl | hne
        · exact .waiting ⟨input, .pending, 0, none, none⟩ (by simp [s', slot]) rfl rfl
            (by simp [s', slot]) hactive hawaiting
        · have hother : s'.slot other = s.slot other := by simp [s', slot, hne]
          exact hother ▸ hs.sound.slots other
      · exact List.nodup_append.mpr ⟨hs.sound.nodup, List.nodup_singleton id, by
          intro old hold new hnew heq
          exact hqueued (List.mem_singleton.mp hnew ▸ heq ▸ hold)⟩
      · intro hmem
        rcases List.mem_append.mp hmem with hold | hnew
        · exact hs.sound.named hold
        · exact hname (List.mem_singleton.mp hnew).symm
    have hkept : Kept s s' := by
      intro other task htask _
      have hne : other ≠ id := by
        rintro rfl
        exact absurd (hnone.symm.trans htask) (by simp)
      exact ⟨task, by simp [s', hne, htask], rfl⟩
    have hpumped := pump_pumped hsound
    exact ⟨Pumped.stable hpumped, hkept.trans hpumped.1.kept⟩

theorem setConcurrency_stable {s : UploadScheduler Input Result Error}
    (hs : Stable options.maxRetries s) (value : Option Int) :
    Stable options.maxRetries ((s.setConcurrency options value).getD s) ∧
      Kept s ((s.setConcurrency options value).getD s) := by
  unfold setConcurrency
  cases validateConcurrency value with
  | none => exact ⟨hs, Kept.refl s⟩
  | some next =>
      simp only [Option.map_some, Option.getD_some]
      split
      · exact ⟨hs, Kept.refl s⟩
      · have hsound : ({ s with concurrency := next } :
            UploadScheduler Input Result Error).Sound options.maxRetries :=
          ⟨hs.sound.slots, hs.sound.nodup, hs.sound.named, hs.sound.guarded⟩
        have hkept : Kept s { s with concurrency := next } := Kept.refl s
        have hpumped := pump_pumped hsound
        exact ⟨Pumped.stable hpumped, hkept.trans hpumped.1.kept⟩

theorem cancel_stable {s : UploadScheduler Input Result Error} {id : String}
    (hs : Stable options.maxRetries s) :
    Stable options.maxRetries (s.cancel id).1 ∧ Kept s (s.cancel id).1 := by
  unfold cancel
  split
  · exact ⟨hs, Kept.refl s⟩
  · rename_i task htask
    split
    case isFalse hnot => exact ⟨hs, Kept.refl s⟩
    case isTrue hopen =>
      let task' := { task with state := UploadScheduleState.cancelled }
      have hput : ∀ other, other ≠ id → (s.put id task').slot other = s.slot other :=
        fun other hne => slot_put_of_ne hne
      have hkept : Kept s (s.put id task') := by
        intro other old hold hterminal
        rcases eq_or_ne other id with rfl | hne
        · obtain rfl : task = old := Option.some.inj (htask.symm.trans hold)
          rcases hopen with hstate | hstate <;>
            · rw [hstate] at hterminal
              exact absurd hterminal (by decide)
        · have hother : (s.put id task').tasks other = s.tasks other :=
            congrArg Slot.task (hput other hne)
          exact ⟨old, hother.trans hold, rfl⟩
      dsimp only
      split
      case isTrue hactive =>
        replace hactive : id ∈ s.activeIds := hactive
        have hrunning : task.attempts ≤ options.maxRetries + 1 ∧ id ∉ s.pendingIds ∧
            s.controllers id = some ⟨false⟩ := by
          cases hs.sound.slots id with
          | unknown _ _ hnot => exact absurd hactive hnot
          | waiting _ _ _ _ _ hnot => exact absurd hactive hnot
          | finished _ _ _ _ _ hnot => exact absurd hactive hnot
          | running old hold _ hattempts _ hqueued _ hcontroller =>
              obtain rfl : task = old := Option.some.inj (htask.symm.trans hold)
              exact ⟨hattempts, hqueued, hcontroller⟩
          | leaving old hold hstate =>
              obtain rfl : task = old := Option.some.inj (htask.symm.trans hold)
              rw [hstate] at hopen
              exact absurd hopen (by decide)
        obtain ⟨hattempts, hqueued, hcontroller⟩ := hrunning
        refine ⟨⟨⟨fun other => ?_, hs.sound.nodup, hs.sound.named, hs.sound.guarded⟩, hs.busy⟩,
          hkept⟩
        rcases eq_or_ne other id with rfl | hne
        · exact .leaving task' (by simp [slot, put, task']) rfl hattempts hqueued hactive
            (by simp [slot, put, hcontroller])
        · have hother := hs.sound.slots other
          rw [← hput other hne] at hother
          simpa [slot, hne] using hother
      case isFalse hidle =>
        replace hidle : id ∉ s.activeIds := hidle
        have hwaiting : task.attempts = 0 ∧ s.awaiting id = none := by
          cases hs.sound.slots id with
          | unknown hnone => exact absurd (htask.symm.trans hnone) (by simp)
          | waiting old hold _ hattempts _ _ hawaiting =>
              obtain rfl : task = old := Option.some.inj (htask.symm.trans hold)
              exact ⟨hattempts, hawaiting⟩
          | running _ _ _ _ _ _ hactive => exact absurd hactive hidle
          | leaving _ _ _ _ _ hactive => exact absurd hactive hidle
          | finished old hold hterminal =>
              obtain rfl : task = old := Option.some.inj (htask.symm.trans hold)
              rcases hopen with hstate | hstate <;>
                · rw [hstate] at hterminal
                  exact absurd hterminal (by decide)
        obtain ⟨hattempts, hawaiting⟩ := hwaiting
        refine ⟨⟨⟨fun other => ?_, hs.sound.nodup.erase id, ?_, hs.sound.guarded⟩, ?_⟩, hkept⟩
        · rcases eq_or_ne other id with rfl | hne
          · refine .finished task' (by simp [slot, put, task']) terminal_cancelled ?_ ?_
              hidle hawaiting
            · simp [task', hattempts]
            · exact hs.sound.nodup.not_mem_erase
          · have herase : other ∈ s.pendingIds.erase id ↔ other ∈ s.pendingIds :=
              List.mem_erase_of_ne hne
            simpa [slot, put, hne, herase] using hs.sound.slots other
        · exact fun hmem => hs.sound.named (List.mem_of_mem_erase hmem)
        · rcases hs.busy with hempty | hfull
          · left
            show s.pendingIds.erase id = []
            rw [hempty, List.erase_nil]
          · exact .inr hfull

/-- The ids that an event may enqueue a task under. -/
def Event.Over (ids : Set String) : Event Input Result Error → Prop
  | .enqueue id _ => id ∈ ids
  | _ => True

theorem step_stable {s : UploadScheduler Input Result Error} {ids : Set String}
    (hids : "" ∉ ids) (hs : Stable options.maxRetries s) (event : Event Input Result Error)
    (hevent : event.Over ids) :
    Stable options.maxRetries (step options s event) ∧ Kept s (step options s event) := by
  cases event with
  | enqueue id input =>
      have hname : id ≠ "" := fun hempty => hids (hempty ▸ hevent)
      exact enqueue_stable hs hname input
  | cancel id => exact cancel_stable hs
  | setConcurrency value => exact setConcurrency_stable hs value
  | resolve id result => exact continued_stable hs fun _ hin _ => turn_resolved hin result
  | reject id error => exact continued_stable hs fun _ hin _ => turn_caught hin error
  | delayed id => exact continued_stable hs fun _ hin hleft => turn_attempt hin (hleft rfl)
  | delayRejected id delayError =>
      exact continued_stable hs fun _ hin _ => turn_delayCaught hin delayError

theorem new_stable (maxRetries : Nat) (concurrency : Concurrency) :
    Stable maxRetries (new concurrency : UploadScheduler Input Result Error) where
  sound := {
    slots := fun _ => .unknown rfl (by simp [slot, new]) (by simp [slot, new]) rfl
    nodup := List.nodup_nil
    named := by simp [new]
    guarded := by simp [new] }
  busy := .inl rfl

theorem run_stable {ids : Set String} (hids : "" ∉ ids) (events : List (Event Input Result Error))
    {s : UploadScheduler Input Result Error} (hs : Stable options.maxRetries s)
    (hevents : ∀ event ∈ events, event.Over ids) :
    Stable options.maxRetries ((system options).run s events) ∧
      Kept s ((system options).run s events) := by
  induction events generalizing s with
  | nil => exact ⟨hs, Kept.refl s⟩
  | cons event events ih =>
      obtain ⟨hstep, hkept⟩ := step_stable hids hs event (hevents event List.mem_cons_self)
      obtain ⟨hrun, hkept'⟩ :=
        ih hstep fun later hlater => hevents later (List.mem_cons_of_mem event hlater)
      exact ⟨hrun, hkept.trans hkept'⟩

end Step

section LosesNoTask

def ExactlyOne (a b c : Prop) : Prop :=
  a ∧ ¬ b ∧ ¬ c ∨ ¬ a ∧ b ∧ ¬ c ∨ ¬ a ∧ ¬ b ∧ c

/-- The scheduler has lost no task. A cancelled task keeps its slot in the active set until its
aborted run has come back, so it is placed by its state. -/
structure LosesNoTask (maxRetries : Nat) (s : UploadScheduler Input Result Error) : Prop where
  placed : ∀ id task, s.tasks id = some task →
    ExactlyOne (id ∈ s.pendingIds) (id ∈ s.activeIds ∧ task.state = .active) task.state.Terminal
  settled : ∀ id task, s.tasks id = some task → s.aborted id = false →
    ExactlyOne (id ∈ s.pendingIds) (id ∈ s.activeIds) task.state.Terminal
  started : ∀ start ∈ s.starts, start.active < start.concurrency
  noFreeSlot : ∀ id task, s.tasks id = some task → task.state = .pending →
    (s.concurrency : Nat) ≤ s.activeIds.card
  attempts : ∀ id task, s.tasks id = some task → task.attempts ≤ maxRetries + 1

theorem Slot.Sound.attempts_le {maxRetries : Nat} {slot : Slot Input Result Error}
    {task : ScheduledUpload Input Result Error} (h : slot.Sound maxRetries)
    (htask : slot.task = some task) : task.attempts ≤ maxRetries + 1 := by
  cases h with
  | unknown hnone => exact absurd (htask.symm.trans hnone) (by simp)
  | waiting old hold _ hattempts =>
      obtain rfl := Option.some.inj (htask.symm.trans hold)
      exact hattempts ▸ Nat.zero_le _
  | running old hold _ hattempts => exact Option.some.inj (htask.symm.trans hold) ▸ hattempts
  | leaving old hold _ hattempts => exact Option.some.inj (htask.symm.trans hold) ▸ hattempts
  | finished old hold _ hattempts => exact Option.some.inj (htask.symm.trans hold) ▸ hattempts

theorem not_terminal_pending : ¬ UploadScheduleState.pending.Terminal := by decide

theorem not_terminal_active : ¬ UploadScheduleState.active.Terminal := by decide

theorem Stable.losesNoTask {maxRetries : Nat} {s : UploadScheduler Input Result Error}
    (hs : Stable maxRetries s) : LosesNoTask maxRetries s where
  placed := by
    intro id task htask
    cases hs.sound.slots id with
    | unknown hnone => exact absurd (htask.symm.trans hnone) (by simp)
    | waiting old hold hstate _ hqueued hactive =>
        obtain rfl : task = old := Option.some.inj (htask.symm.trans hold)
        exact .inl ⟨hqueued, fun h => hactive h.1, hstate ▸ not_terminal_pending⟩
    | running old hold hstate _ _ hqueued hactive =>
        obtain rfl : task = old := Option.some.inj (htask.symm.trans hold)
        exact .inr (.inl ⟨hqueued, ⟨hactive, hstate⟩, hstate ▸ not_terminal_active⟩)
    | leaving old hold hstate _ hqueued =>
        obtain rfl : task = old := Option.some.inj (htask.symm.trans hold)
        refine .inr (.inr ⟨hqueued, fun h => ?_, hstate ▸ terminal_cancelled⟩)
        rw [hstate] at h
        cases h.2
    | finished old hold hstate _ hqueued hactive =>
        obtain rfl : task = old := Option.some.inj (htask.symm.trans hold)
        exact .inr (.inr ⟨hqueued, fun h => hactive h.1, hstate⟩)
  settled := by
    intro id task htask haborted
    cases hs.sound.slots id with
    | unknown hnone => exact absurd (htask.symm.trans hnone) (by simp)
    | waiting old hold hstate _ hqueued hactive =>
        obtain rfl : task = old := Option.some.inj (htask.symm.trans hold)
        exact .inl ⟨hqueued, hactive, hstate ▸ not_terminal_pending⟩
    | running old hold hstate _ _ hqueued hactive =>
        obtain rfl : task = old := Option.some.inj (htask.symm.trans hold)
        exact .inr (.inl ⟨hqueued, hactive, hstate ▸ not_terminal_active⟩)
    | leaving old hold _ _ _ _ hcontroller =>
        replace hcontroller : s.controllers id = some ⟨true⟩ := hcontroller
        simp [aborted, hcontroller] at haborted
    | finished old hold hstate _ hqueued hactive =>
        obtain rfl : task = old := Option.some.inj (htask.symm.trans hold)
        exact .inr (.inr ⟨hqueued, hactive, hstate⟩)
  started := hs.sound.guarded
  noFreeSlot := by
    intro id task htask hpending
    have hqueued : id ∈ s.pendingIds := by
      cases hs.sound.slots id with
      | unknown hnone => exact absurd (htask.symm.trans hnone) (by simp)
      | waiting _ _ _ _ hqueued => exact hqueued
      | running old hold hstate =>
          obtain rfl : task = old := Option.some.inj (htask.symm.trans hold)
          rw [hpending] at hstate
          cases hstate
      | leaving old hold hstate =>
          obtain rfl : task = old := Option.some.inj (htask.symm.trans hold)
          rw [hpending] at hstate
          cases hstate
      | finished old hold hstate =>
          obtain rfl : task = old := Option.some.inj (htask.symm.trans hold)
          rw [hpending] at hstate
          exact absurd hstate not_terminal_pending
    rcases hs.busy with hempty | hfull
    · rw [hempty] at hqueued
      cases hqueued
    · exact hfull
  attempts := fun id _ htask => (hs.sound.slots id).attempts_le htask

/-- The empty id is shifted off the queue and dropped, so its task waits in no queue for ever. -/
theorem not_losesNoTask_of_empty (options : UploadSchedulerOptions Input Error) (input : Input)
    (concurrency : Concurrency) (maxRetries : Nat) :
    ¬ LosesNoTask maxRetries ((system options).run
      (new concurrency : UploadScheduler Input Result Error) [.enqueue "" input]) := by
  intro h
  have hfree : 0 < (concurrency : Nat) := concurrency.2.1
  have hrun : (system options).run (new concurrency : UploadScheduler Input Result Error)
      [.enqueue "" input] = { (new concurrency : UploadScheduler Input Result Error) with
        tasks := update (fun _ => none) "" (some ⟨input, .pending, 0, none, none⟩) } := by
    simp [Transition.System.run, system, step, enqueue, pump, pumpLoop, new, hfree]
  rw [hrun] at h
  have hplaced := h.placed "" ⟨input, .pending, 0, none, none⟩ (by simp)
  simp [ExactlyOne, new, UploadScheduleState.Terminal] at hplaced

/-- With the default options and nothing else to do, the task of the empty id is never started. -/
theorem scheduler_empty_id_lost :
    ¬ LosesNoTask 2 ((system ⟨2, fun _ => false, fun _ => true, fun _ _ _ => none,
        fun _ _ => none⟩).run (new ⟨4, by decide⟩ : UploadScheduler String Unit Unit)
      [.enqueue "" "photo.jpg"]) :=
  not_losesNoTask_of_empty _ "photo.jpg" ⟨4, by decide⟩ 2

/-- The scheduler loses no task in any run, whatever the runner and the delay do, just when the
empty id is not among those it may be given. -/
theorem scheduler_losesNoTask_iff (options : UploadSchedulerOptions Input Error) (input : Input)
    (concurrency : Concurrency) (ids : Set String) :
    (∀ front back : List (Event Input Result Error),
      (∀ event ∈ front ++ back, event.Over ids) →
        LosesNoTask options.maxRetries ((system options).run (new concurrency) front) ∧
          Kept ((system options).run (new concurrency) front)
            ((system options).run (new concurrency) (front ++ back))) ↔
      "" ∉ ids := by
  constructor
  · intro h hempty
    have hevents : ∀ event ∈ [Event.enqueue "" input] ++ ([] : List (Event Input Result Error)),
        event.Over ids := by
      intro event hevent
      obtain rfl : event = .enqueue "" input := by simpa using hevent
      exact hempty
    exact not_losesNoTask_of_empty options input concurrency options.maxRetries
      (h [.enqueue "" input] [] hevents).1
  · intro hids front back hevents
    obtain ⟨hfront, _⟩ := run_stable hids front (new_stable options.maxRetries concurrency)
      fun event hevent => hevents event (List.mem_append_left back hevent)
    obtain ⟨_, hkept⟩ := run_stable hids back hfront
      fun event hevent => hevents event (List.mem_append_right front hevent)
    refine ⟨hfront.losesNoTask, ?_⟩
    rw [Transition.System.run_append]
    exact hkept

end LosesNoTask

end MediaHub.Web.UploadScheduler
