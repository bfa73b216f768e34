import Mathlib.Data.List.Basic
import Mathlib.Data.List.TakeWhile
import Mathlib.Logic.Function.Basic
import Mathlib.Tactic.Common

/-!
Counters that admit a number of calls in each window. A window starts with the first call after the
window before it has ended, and a counter that is old enough may be forgotten.
-/

namespace FixedWindow

/-- The start of a window, and how many calls it has admitted. -/
structure Counter where
  start : Nat
  admitted : Nat

structure Rate where
  limit : Nat
  window : Nat

namespace Rate

/-- The counter of the window that a moment lies in. -/
def current (rate : Rate) (now : Nat) : Option Counter → Counter
  | none => ⟨now, 0⟩
  | some counter => if rate.window ≤ now - counter.start then ⟨now, 0⟩ else counter

def admits (rate : Rate) (now : Nat) (counter : Option Counter) : Bool :=
  (rate.current now counter).admitted < rate.limit

def next (rate : Rate) (now : Nat) (counter : Option Counter) : Counter :=
  ⟨(rate.current now counter).start,
    (rate.current now counter).admitted + if rate.admits now counter then 1 else 0⟩

/-- The moments of the calls that are admitted, one counter being all there is. -/
def accepted (rate : Rate) : Option Counter → List Nat → List Nat
  | _, [] => []
  | counter, now :: rest =>
      if rate.admits now counter then now :: rate.accepted (some (rate.next now counter)) rest
      else rate.accepted (some (rate.next now counter)) rest

theorem current_ended {rate : Rate} {now : Nat} {counter : Counter}
    (h : counter.start + rate.window ≤ now) : rate.current now (some counter) = ⟨now, 0⟩ :=
  if_pos (Nat.le_sub_of_add_le (by rwa [Nat.add_comm]))

theorem current_running {rate : Rate} {now : Nat} {counter : Counter}
    (hstart : counter.start ≤ now) (h : now < counter.start + rate.window) :
    rate.current now (some counter) = counter := by
  refine if_neg ?_
  omega

end Rate

/-- The windows that moments lie in: each starts with the first moment that the one before leaves
out. -/
def windows (length : Nat) : List Nat → List (List Nat)
  | [] => []
  | start :: rest =>
      (start :: rest.takeWhile (· < start + length)) ::
        windows length (rest.dropWhile (· < start + length))
termination_by moments => moments.length
decreasing_by
  rw [List.length_cons]
  exact Nat.lt_succ_of_le (List.dropWhile_suffix _).length_le

theorem windows_append {length start : Nat} {inside outside : List Nat}
    (hinside : ∀ moment ∈ inside, moment < start + length)
    (houtside : ∀ moment ∈ outside, start + length ≤ moment) :
    windows length (start :: (inside ++ outside)) =
      (start :: inside) :: windows length outside := by
  have htake : inside.takeWhile (· < start + length) = inside :=
    List.takeWhile_eq_self_iff.2 fun moment hmoment => by simpa using hinside moment hmoment
  have hdrop : outside.takeWhile (· < start + length) = [] := by
    cases outside with
    | nil => rfl
    | cons moment rest =>
        have hmoment := houtside moment List.mem_cons_self
        rw [List.takeWhile_cons_of_neg]
        simpa using hmoment
  have hall : ∀ moment ∈ inside, (decide (moment < start + length)) = true :=
    fun moment hmoment => by simpa using hinside moment hmoment
  have hrest : outside.dropWhile (· < start + length) = outside := by
    have happend := List.takeWhile_append_dropWhile (p := (· < start + length)) (l := outside)
    rwa [hdrop, List.nil_append] at happend
  rw [windows, List.takeWhile_append_of_pos hall, List.dropWhile_append_of_pos hall, hdrop, hrest,
    List.append_nil]

theorem Rate.accepted_cons (rate : Rate) (counter : Option Counter) (now : Nat)
    (rest : List Nat) :
    rate.accepted counter (now :: rest) =
      (if rate.admits now counter then [now] else []) ++
        rate.accepted (some (rate.next now counter)) rest := by
  rw [accepted]
  split <;> rfl

theorem Rate.accepted_sublist (rate : Rate) (counter : Option Counter) (moments : List Nat) :
    (rate.accepted counter moments).Sublist moments := by
  induction moments generalizing counter with
  | nil => exact List.Sublist.refl _
  | cons now rest ih =>
      rw [Rate.accepted]
      split
      · exact (ih _).cons_cons now
      · exact (ih _).cons now

theorem Rate.next_le {rate : Rate} {now : Nat} {counter : Option Counter}
    (h : (rate.current now counter).admitted ≤ rate.limit) :
    (rate.next now counter).admitted ≤ rate.limit := by
  rw [Rate.next]
  split
  · next hadmits => exact of_decide_eq_true hadmits
  · exact h

/-- What is admitted from a counter on: calls in its own window, and then calls in windows that
have their own limit each. -/
structure Paced (rate : Rate) (counter : Counter) (inside outside : List Nat) : Prop where
  inside_lt : ∀ moment ∈ inside, moment < counter.start + rate.window
  outside_ge : ∀ moment ∈ outside, counter.start + rate.window ≤ moment
  length_le : counter.admitted + inside.length ≤ rate.limit
  windows_le : ∀ window ∈ windows rate.window outside, window.length ≤ rate.limit

/-- A call that opens a window, and what follows it. -/
theorem windows_le_of_opened {rate : Rate} {now : Nat} {counter : Option Counter}
    {rest inside outside : List Nat} (hcurrent : rate.current now counter = ⟨now, 0⟩)
    (heq : rate.accepted (some (rate.next now counter)) rest = inside ++ outside)
    (h : Paced rate (rate.next now counter) inside outside) :
    ∀ window ∈ windows rate.window (rate.accepted counter (now :: rest)),
      window.length ≤ rate.limit := by
  obtain ⟨hinside, houtside, hlength, hwindows⟩ := h
  rw [Rate.accepted_cons, heq]
  rw [Rate.next, hcurrent] at hinside houtside
  by_cases hadmits : rate.admits now counter = true
  · rw [Rate.next, hcurrent, if_pos hadmits] at hlength
    rw [if_pos hadmits, List.singleton_append, windows_append hinside houtside]
    refine List.forall_mem_cons.2 ⟨?_, hwindows⟩
    rw [List.length_cons, Nat.add_comm]
    exact hlength
  · -- A window that does not even admit the call that opens it has a limit of zero.
    have hlimit : rate.limit = 0 := by
      rw [Rate.admits, hcurrent] at hadmits
      simpa using hadmits
    obtain rfl : inside = [] := List.eq_nil_of_length_eq_zero (by omega)
    rwa [if_neg hadmits]

theorem exists_paced (rate : Rate) {counter : Counter} {moments : List Nat}
    (hcounter : counter.admitted ≤ rate.limit)
    (hstart : ∀ moment ∈ moments, counter.start ≤ moment) (hsorted : moments.Pairwise (· ≤ ·)) :
    ∃ inside outside, rate.accepted (some counter) moments = inside ++ outside ∧
      Paced rate counter inside outside := by
  induction moments generalizing counter with
  | nil => exact ⟨[], [], rfl, by simp, by simp, by simpa using hcounter, by simp [windows]⟩
  | cons now rest ih =>
      obtain ⟨hnow, hrest⟩ := List.pairwise_cons.1 hsorted
      have hlater := hstart now List.mem_cons_self
      by_cases hrunning : now < counter.start + rate.window
      · have hcurrent := Rate.current_running hlater hrunning
        have hnext : (rate.next now (some counter)).start = counter.start := by
          rw [Rate.next, hcurrent]
        obtain ⟨inside, outside, heq, hinside, houtside, hlength, hwindows⟩ :=
          ih (Rate.next_le (hcurrent ▸ hcounter))
            (fun moment hmoment => hnext ▸ hstart moment (List.mem_cons_of_mem _ hmoment)) hrest
        rw [hnext] at hinside houtside
        refine ⟨(if rate.admits now (some counter) then [now] else []) ++ inside, outside, ?_, ?_,
          houtside, ?_, hwindows⟩
        · rw [Rate.accepted_cons, heq, List.append_assoc]
        · intro moment hmoment
          rcases List.mem_append.1 hmoment with hhere | hthere
          · split at hhere
            · rwa [List.mem_singleton.1 hhere]
            · simp at hhere
          · exact hinside moment hthere
        · rw [Rate.next, hcurrent] at hlength
          rw [List.length_append]
          split at hlength
          · next hadmits =>
              rw [if_pos hadmits, List.length_singleton, ← Nat.add_assoc]
              exact hlength
          · next hadmits =>
              rw [if_neg hadmits, List.length_nil, Nat.zero_add]
              exact hlength
      · have hended := Nat.not_lt.1 hrunning
        have hcurrent := Rate.current_ended hended
        have hnext : (rate.next now (some counter)).start = now := by rw [Rate.next, hcurrent]
        have hadmitted : (rate.current now (some counter)).admitted ≤ rate.limit := by
          rw [hcurrent]
          exact Nat.zero_le _
        obtain ⟨inside, outside, heq, hpaced⟩ := ih (Rate.next_le hadmitted)
          (fun moment hmoment => by rw [hnext]; exact hnow moment hmoment) hrest
        refine ⟨[], rate.accepted (some counter) (now :: rest), rfl, by simp, ?_,
          by simpa using hcounter, windows_le_of_opened hcurrent heq hpaced⟩
        intro moment hmoment
        rcases List.mem_cons.1 ((rate.accepted_sublist _ _).subset hmoment) with rfl | hlater
        · exact hended
        · exact Nat.le_trans hended (hnow moment hlater)

/-- What is admitted falls into windows with at most `limit` calls each. -/
theorem length_le_of_mem_windows (rate : Rate) {moments : List Nat}
    (hsorted : moments.Pairwise (· ≤ ·)) :
    ∀ window ∈ windows rate.window (rate.accepted none moments), window.length ≤ rate.limit := by
  cases moments with
  | nil => simp [Rate.accepted, windows]
  | cons now rest =>
      obtain ⟨hnow, hrest⟩ := List.pairwise_cons.1 hsorted
      have hcurrent : rate.current now none = ⟨now, 0⟩ := rfl
      have hadmitted : (rate.current now none).admitted ≤ rate.limit := Nat.zero_le _
      obtain ⟨inside, outside, heq, hpaced⟩ :=
        exists_paced rate (Rate.next_le hadmitted) hnow hrest
      exact windows_le_of_opened hcurrent heq hpaced

theorem le_of_mem_dropWhile {bound : Nat} {moments : List Nat}
    (hsorted : moments.Pairwise (· ≤ ·)) :
    ∀ moment ∈ moments.dropWhile (· < bound), bound ≤ moment := by
  induction moments with
  | nil => simp
  | cons now rest ih =>
      obtain ⟨hnow, hrest⟩ := List.pairwise_cons.1 hsorted
      rw [List.dropWhile_cons]
      split
      · exact ih hrest
      · next hlt =>
          have hbound : bound ≤ now := by simpa using hlt
          exact List.forall_mem_cons.2 ⟨hbound, fun moment h => hbound.trans (hnow moment h)⟩

/-- Moments from the interval `[t, t + length]`. -/
def within (length t : Nat) (moments : List Nat) : List Nat :=
  moments.filter fun moment => t ≤ moment ∧ moment ≤ t + length

theorem within_eq_nil {length t : Nat} {moments : List Nat}
    (h : ∀ moment ∈ moments, moment < t ∨ t + length < moment) : within length t moments = [] := by
  rw [within, List.filter_eq_nil_iff]
  intro moment hmoment
  have houtside := h moment hmoment
  simp only [decide_eq_true_eq]
  omega

section

variable {length limit t : Nat}

/-- The moments of an interval, taken apart at the end of the first window. -/
theorem length_within_cons (start : Nat) (rest : List Nat) :
    (within length t (start :: rest)).length =
      (within length t (start :: rest.takeWhile (· < start + length))).length +
        (within length t (rest.dropWhile (· < start + length))).length := by
  have hsplit : start :: rest = (start :: rest.takeWhile (· < start + length)) ++
      rest.dropWhile (· < start + length) := by
    rw [List.cons_append, List.takeWhile_append_dropWhile]
  calc (within length t (start :: rest)).length
      = (within length t ((start :: rest.takeWhile (· < start + length)) ++
          rest.dropWhile (· < start + length))).length :=
        congrArg (within length t · |>.length) hsplit
    _ = _ := by rw [within, List.filter_append, List.length_append, within, within]

theorem length_within_le_of_lt {moments : List Nat} (hsorted : moments.Pairwise (· ≤ ·))
    (h : ∀ window ∈ windows length moments, window.length ≤ limit)
    (hlater : ∀ moment ∈ moments, t < moment) : (within length t moments).length ≤ limit := by
  cases moments with
  | nil => exact Nat.zero_le _
  | cons start rest =>
      rw [windows] at h
      have hfirst := (List.forall_mem_cons.1 h).1
      have hstart := hlater start List.mem_cons_self
      have hrest : within length t (rest.dropWhile (· < start + length)) = [] :=
        within_eq_nil fun moment hmoment => by
          have hge := le_of_mem_dropWhile (List.pairwise_cons.1 hsorted).2 moment hmoment
          omega
      rw [length_within_cons, hrest]
      exact (List.filter_sublist.length_le).trans hfirst

/-- An interval as long as a window meets at most two of the windows. -/
theorem length_within_le (hlength : 0 < length) {moments : List Nat}
    (hsorted : moments.Pairwise (· ≤ ·))
    (h : ∀ window ∈ windows length moments, window.length ≤ limit) :
    (within length t moments).length ≤ 2 * limit := by
  induction moments using windows.induct length with
  | case1 => exact Nat.zero_le _
  | case2 start rest ih =>
      rw [windows] at h
      obtain ⟨hfirst, hothers⟩ := List.forall_mem_cons.1 h
      have hsorted' := (List.pairwise_cons.1 hsorted).2
      have hdrop := hsorted'.sublist (List.dropWhile_suffix (· < start + length)).sublist
      rw [length_within_cons]
      by_cases hbefore : start + length ≤ t
      · have hnil : within length t (start :: rest.takeWhile (· < start + length)) = [] := by
          refine within_eq_nil (List.forall_mem_cons.2 ⟨by omega, fun moment hmoment => ?_⟩)
          have hlt : moment < start + length := by simpa using List.mem_takeWhile_imp hmoment
          omega
        rw [hnil, List.length_nil, Nat.zero_add]
        exact ih hdrop hothers
      · have hlater : ∀ moment ∈ rest.dropWhile (· < start + length), t < moment :=
          fun moment hmoment => by
            have hge := le_of_mem_dropWhile hsorted' moment hmoment
            omega
        have hone := (List.filter_sublist (p := fun moment => t ≤ moment ∧ moment ≤ t + length)
          (l := start :: rest.takeWhile (· < start + length))).length_le.trans hfirst
        have htwo := length_within_le_of_lt hdrop hothers hlater
        rw [within]
        omega

/-- Without its last moment the interval may also be empty. -/
theorem length_filter_lt_le {moments : List Nat} (hsorted : moments.Pairwise (· ≤ ·))
    (h : ∀ window ∈ windows length moments, window.length ≤ limit) :
    (moments.filter fun moment => t ≤ moment ∧ moment < t + length).length ≤ 2 * limit := by
  rcases Nat.eq_zero_or_pos length with rfl | hpos
  · have hnil : (moments.filter fun moment => t ≤ moment ∧ moment < t + 0) = [] :=
      List.filter_eq_nil_iff.2 fun moment _ => by simp
    rw [hnil]
    exact Nat.zero_le _
  · have hle : (moments.filter fun moment => t ≤ moment ∧ moment < t + length).length ≤
        (within length t moments).length := by
      refine List.Sublist.length_le (List.monotone_filter_right moments fun moment hmoment => ?_)
      simp only [decide_eq_true_eq] at hmoment ⊢
      exact ⟨hmoment.1, Nat.le_of_lt hmoment.2⟩
    exact hle.trans (length_within_le hpos hsorted h)

end

universe u

structure Call (κ : Type u) where
  key : κ
  now : Nat

section

variable {κ : Type u} [DecidableEq κ] (rate : κ → Rate)

def step (counters : κ → Option Counter) (call : Call κ) : κ → Option Counter :=
  Function.update counters call.key (some ((rate call.key).next call.now (counters call.key)))

def answers (counters : κ → Option Counter) : List (Call κ) → List Bool
  | [] => []
  | call :: calls =>
      (rate call.key).admits call.now (counters call.key) ::
        answers (step rate counters call) calls

/-- The moments of the calls with a key, and of those that are admitted. -/
def momentsOf (key : κ) (calls : List (Call κ)) : List Nat :=
  (calls.filter (·.key = key)).map (·.now)

def acceptedOf (key : κ) (calls : List (Call κ)) (answers : List Bool) : List Nat :=
  momentsOf key (((calls.zip answers).filter (·.2)).map (·.1))

theorem acceptedOf_cons (key : κ) (call : Call κ) (calls : List (Call κ))
    (answer : Bool) (answers : List Bool) :
    acceptedOf key (call :: calls) (answer :: answers) =
      (if answer ∧ call.key = key then [call.now] else []) ++ acceptedOf key calls answers := by
  rw [acceptedOf, List.zip_cons_cons, acceptedOf, momentsOf, momentsOf]
  cases answer with
  | false => simp
  | true => by_cases hkey : call.key = key <;> simp [hkey]

/-- The calls with a key are answered as if there were no other keys. -/
theorem acceptedOf_answers (key : κ) (counters : κ → Option Counter) (calls : List (Call κ)) :
    acceptedOf key calls (answers rate counters calls) =
      (rate key).accepted (counters key) (momentsOf key calls) := by
  induction calls generalizing counters with
  | nil => rfl
  | cons call calls ih =>
      rw [answers, acceptedOf_cons, ih, momentsOf, momentsOf, step]
      by_cases hkey : call.key = key
      · subst hkey
        rw [Function.update_self, List.filter_cons_of_pos (by simp), List.map_cons,
          Rate.accepted_cons]
        simp
      · rw [Function.update_of_ne (Ne.symm hkey), List.filter_cons_of_neg (by simpa using hkey)]
        simp [hkey]

end

section

variable {κ : Type u} {horizon now : Nat} {counters kept : κ → Option Counter}

/-- What is left of counters when some that have stood for as long as the horizon are gone. -/
def Forgets (horizon now : Nat) (counters kept : κ → Option Counter) : Prop :=
  ∀ key, kept key = counters key ∨
    kept key = none ∧ ∃ counter, counters key = some counter ∧ horizon ≤ now - counter.start

theorem Forgets.refl (horizon now : Nat) (counters : κ → Option Counter) :
    Forgets horizon now counters counters := fun _ => Or.inl rfl

theorem Forgets.trans {rest : κ → Option Counter} (h : Forgets horizon now counters kept)
    (h' : Forgets horizon now kept rest) : Forgets horizon now counters rest := by
  intro key
  rcases h' key with hsame | ⟨hnone, counter, hcounter, hold⟩
  · rw [hsame]
    exact h key
  · refine Or.inr ⟨hnone, ?_⟩
    rcases h key with hsame | ⟨hgone, _⟩
    · exact ⟨counter, hsame ▸ hcounter, hold⟩
    · rw [hgone] at hcounter
      simp at hcounter

theorem Forgets.later {later : Nat} (h : Forgets horizon now counters kept) (hle : now ≤ later) :
    Forgets horizon later counters kept := by
  intro key
  rcases h key with hsame | ⟨hnone, counter, hcounter, hold⟩
  · exact Or.inl hsame
  · exact Or.inr ⟨hnone, counter, hcounter, hold.trans (Nat.sub_le_sub_right hle _)⟩

/-- A counter that is forgotten has ended its window, if no window is longer than the horizon. -/
theorem Forgets.current_eq {rate : Rate} (h : Forgets horizon now counters kept)
    (hrate : rate.window ≤ horizon) (key : κ) :
    rate.current now (kept key) = rate.current now (counters key) := by
  rcases h key with hsame | ⟨hnone, counter, hcounter, hold⟩
  · rw [hsame]
  · rw [hnone, hcounter, Rate.current, Rate.current, if_pos (hrate.trans hold)]

theorem Forgets.admits_eq {rate : Rate} (h : Forgets horizon now counters kept)
    (hrate : rate.window ≤ horizon) (key : κ) :
    rate.admits now (kept key) = rate.admits now (counters key) := by
  rw [Rate.admits, Rate.admits, h.current_eq hrate]

theorem Forgets.step [DecidableEq κ] {rate : κ → Rate} {call : Call κ}
    (h : Forgets horizon call.now counters kept) (hrate : (rate call.key).window ≤ horizon) :
    Forgets horizon call.now (step rate counters call) (step rate kept call) := by
  intro key
  by_cases hkey : key = call.key
  · subst hkey
    rw [FixedWindow.step, FixedWindow.step, Function.update_self, Function.update_self, Rate.next,
      Rate.next, h.current_eq hrate, h.admits_eq hrate]
    exact Or.inl rfl
  · rw [FixedWindow.step, FixedWindow.step, Function.update_of_ne hkey,
      Function.update_of_ne hkey]
    exact h key

end

end FixedWindow
