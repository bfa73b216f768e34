import Mathlib.Tactic.Common

/-!
Deterministic transition systems driven by events, with rules for whole runs.
-/

namespace Transition

universe u v u' v'

/-- A system has initial states and reacts to every event; an event that is refused leaves
the state as it is. -/
structure System (σ : Type u) (ε : Type v) where
  init : σ → Prop
  step : σ → ε → σ

namespace System

variable {σ : Type u} {ε : Type v} (S : System σ ε)

def run (s : σ) (events : List ε) : σ := events.foldl S.step s

def Reachable (s : σ) : Prop := ∃ s₀ events, S.init s₀ ∧ S.run s₀ events = s

/-- `P` holds of every event of the run together with the state it is taken from. -/
def Along (P : σ → ε → Prop) : σ → List ε → Prop
  | _, [] => True
  | s, e :: events => P s e ∧ Along P (S.step s e) events

@[simp] theorem run_nil (s : σ) : S.run s [] = s := rfl

@[simp] theorem run_cons (s : σ) (e : ε) (events : List ε) :
    S.run s (e :: events) = S.run (S.step s e) events := rfl

theorem run_append (s : σ) (front back : List ε) :
    S.run s (front ++ back) = S.run (S.run s front) back :=
  List.foldl_append

variable {S}

theorem Reachable.of_init {s : σ} (h : S.init s) : S.Reachable s := ⟨s, [], h, rfl⟩

theorem Reachable.step {s : σ} (h : S.Reachable s) (e : ε) : S.Reachable (S.step s e) := by
  obtain ⟨s₀, events, hinit, rfl⟩ := h
  exact ⟨s₀, events ++ [e], hinit, S.run_append s₀ events [e]⟩

theorem Reachable.run {s : σ} (h : S.Reachable s) (events : List ε) :
    S.Reachable (S.run s events) := by
  induction events generalizing s with
  | nil => exact h
  | cons e events ih => exact ih (h.step e)

/-- What one step preserves, a run preserves. -/
theorem run_invariant {P : σ → Prop} (hstep : ∀ s e, P s → P (S.step s e)) {s : σ}
    (hs : P s) (events : List ε) : P (S.run s events) := by
  induction events generalizing s with
  | nil => exact hs
  | cons e events ih => exact ih (hstep s e hs)

theorem Reachable.invariant {P : σ → Prop} (hinit : ∀ s, S.init s → P s)
    (hstep : ∀ s e, P s → P (S.step s e)) {s : σ} (h : S.Reachable s) : P s := by
  obtain ⟨s₀, events, hs₀, rfl⟩ := h
  exact run_invariant hstep (hinit s₀ hs₀) events

/-- An invariant whose step may use what is already known of the reachable states. -/
theorem Reachable.invariant_of {P Q : σ → Prop} (hQ : ∀ s, S.Reachable s → Q s)
    (hinit : ∀ s, S.init s → P s) (hstep : ∀ s e, Q s → P s → P (S.step s e))
    {s : σ} (h : S.Reachable s) : P s := by
  obtain ⟨s₀, events, hs₀, rfl⟩ := h
  let P' : σ → Prop := fun s => S.Reachable s ∧ P s
  have hboth : P' (S.run s₀ events) :=
    run_invariant (fun s e hs => ⟨hs.1.step e, hstep s e (hQ s hs.1) hs.2⟩)
      ⟨.of_init hs₀, hinit s₀ hs₀⟩ events
  exact hboth.2

@[simp] theorem along_nil {P : σ → ε → Prop} {s : σ} : S.Along P s [] := trivial

@[simp] theorem along_cons {P : σ → ε → Prop} {s : σ} {e : ε} {events : List ε} :
    S.Along P s (e :: events) ↔ P s e ∧ S.Along P (S.step s e) events := Iff.rfl

instance decidableAlong {P : σ → ε → Prop} [∀ s e, Decidable (P s e)] :
    ∀ (s : σ) (events : List ε), Decidable (S.Along P s events)
  | _, [] => inferInstanceAs (Decidable True)
  | s, e :: events =>
      have := decidableAlong (P := P) (S.step s e) events
      inferInstanceAs (Decidable (P s e ∧ S.Along P (S.step s e) events))

/-- In a run whose steps all meet `guard`, an invariant kept by guarded steps holds at every
state, and what it gives for one step holds of every step. -/
theorem along_of_invariant {P : σ → Prop} {guard Q : σ → ε → Prop}
    (hstep : ∀ s e, P s → guard s e → P (S.step s e))
    (hQ : ∀ s e, P s → guard s e → Q s e) {s : σ} {events : List ε}
    (hs : P s) (h : S.Along guard s events) : S.Along Q s events := by
  induction events generalizing s with
  | nil => trivial
  | cons e events ih =>
      exact ⟨hQ s e hs h.1, ih (hstep s e hs h.1) h.2⟩

/-- The guarded form of `run_invariant`. -/
theorem run_invariant_along {P : σ → Prop} {guard : σ → ε → Prop}
    (hstep : ∀ s e, P s → guard s e → P (S.step s e)) {s : σ} {events : List ε}
    (hs : P s) (h : S.Along guard s events) : P (S.run s events) := by
  induction events generalizing s with
  | nil => exact hs
  | cons e events ih => exact ih (hstep s e hs h.1) h.2

end System

structure Method (σ : Type u) (ε : Type v) (α : Type) where
  run : σ → Except ε α × σ

namespace Method

variable {σ : Type u} {ε : Type v} {α β : Type}

protected def pure (a : α) : Method σ ε α := ⟨fun s => (.ok a, s)⟩

protected def bind (m : Method σ ε α) (f : α → Method σ ε β) : Method σ ε β :=
  ⟨fun s => match m.run s with
    | (.ok a, s') => (f a).run s'
    | (.error e, s') => (.error e, s')⟩

instance : Monad (Method σ ε) where
  pure := Method.pure
  bind := Method.bind

/-- A value computed from the receiver. -/
def observe (f : σ → α) : Method σ ε α := ⟨fun s => (.ok (f s), s)⟩

/-- A write to the receiver. -/
def assign (f : σ → σ) : Method σ ε Unit := ⟨fun s => (.ok (), f s)⟩

/-- Returns an error when the receiver meets `p`. -/
def reject (p : σ → Bool) (e : σ → ε) : Method σ ε Unit :=
  ⟨fun s => if p s then (.error (e s), s) else (.ok (), s)⟩

/-- A check that does not look at the receiver. -/
def check (x : Except ε α) : Method σ ε α := ⟨fun s => (x, s)⟩

@[simp] theorem run_pure_ok {a b : α} {s s' : σ} :
    (pure a : Method σ ε α).run s = (.ok b, s') ↔ b = a ∧ s' = s := by
  change (Except.ok a, s) = (Except.ok b, s') ↔ _
  simp [eq_comm]

@[simp] theorem run_bind_ok {m : Method σ ε α} {f : α → Method σ ε β} {b : β} {s s' : σ} :
    (m >>= f).run s = (.ok b, s') ↔
      ∃ a t, m.run s = (.ok a, t) ∧ (f a).run t = (.ok b, s') := by
  change (match m.run s with
    | (.ok a, s') => (f a).run s'
    | (.error e, s') => (.error e, s')) = (.ok b, s') ↔ _
  rcases m.run s with ⟨_ | a, t⟩
  · simp
  · constructor
    · intro h
      exact ⟨a, t, rfl, h⟩
    · rintro ⟨_, _, heq, h⟩
      cases heq
      exact h

@[simp] theorem run_observe_ok {f : σ → α} {a : α} {s s' : σ} :
    (observe f : Method σ ε α).run s = (.ok a, s') ↔ a = f s ∧ s' = s := by
  simp [observe, eq_comm]

@[simp] theorem run_assign_ok {f : σ → σ} {u : Unit} {s s' : σ} :
    (assign f : Method σ ε Unit).run s = (.ok u, s') ↔ s' = f s := by
  simp [assign, eq_comm]

@[simp] theorem run_reject_ok {p : σ → Bool} {e : σ → ε} {u : Unit} {s s' : σ} :
    (reject p e : Method σ ε Unit).run s = (.ok u, s') ↔ p s = false ∧ s' = s := by
  by_cases hp : p s <;> simp [reject, hp, @eq_comm _ s s']

@[simp] theorem run_check_ok {x : Except ε α} {a : α} {s s' : σ} :
    (check x : Method σ ε α).run s = (.ok a, s') ↔ x = .ok a ∧ s' = s := by
  simp [check, eq_comm]

theorem run_bind_of_ok {m : Method σ ε α} {s t : σ} {a : α} (h : m.run s = (.ok a, t))
    (f : α → Method σ ε β) : (m >>= f).run s = (f a).run t := by
  change (match m.run s with
    | (.ok a, s') => (f a).run s'
    | (.error e, s') => (.error e, s')) = _
  rw [h]

theorem run_bind_of_error {m : Method σ ε α} {s t : σ} {e : ε} (h : m.run s = (.error e, t))
    (f : α → Method σ ε β) : (m >>= f).run s = (.error e, t) := by
  change (match m.run s with
    | (.ok a, s') => (f a).run s'
    | (.error e, s') => (.error e, s')) = _
  rw [h]

theorem run_observe_bind (f : σ → α) (g : α → Method σ ε β) (s : σ) :
    (observe f >>= g).run s = (g (f s)).run s := rfl

theorem run_assign_bind (f : σ → σ) (g : Unit → Method σ ε β) (s : σ) :
    (assign f >>= g).run s = (g ()).run (f s) := rfl

theorem run_reject_bind (p : σ → Bool) (e : σ → ε) (g : Unit → Method σ ε β) (s : σ) :
    (reject p e >>= g).run s = if p s then (.error (e s), s) else (g ()).run s := by
  by_cases hp : p s = true
  · have hrun : (reject p e).run s = (.error (e s), s) := by simp [reject, hp]
    rw [run_bind_of_error hrun, if_pos hp]
  · have hrun : (reject p e).run s = (.ok (), s) := by simp [reject, hp]
    rw [run_bind_of_ok hrun, if_neg hp]

theorem run_check_bind (x : Except ε α) (g : α → Method σ ε β) (s : σ) :
    (check x >>= g).run s = match x with
      | .ok a => (g a).run s
      | .error e => (.error e, s) := by
  cases x with
  | ok a => rfl
  | error e => rfl

def ReadOnly (m : Method σ ε α) : Prop := ∀ s, (m.run s).2 = s

def Total (m : Method σ ε α) : Prop := ∀ s, ∃ a, (m.run s).1 = .ok a

/-- A call that returns an error leaves the receiver as it was. -/
def Atomic (m : Method σ ε α) : Prop := ∀ s e, (m.run s).1 = .error e → (m.run s).2 = s

theorem readOnly_observe (f : σ → α) : (observe f : Method σ ε α).ReadOnly := fun _ => rfl

theorem readOnly_check (x : Except ε α) : (check x : Method σ ε α).ReadOnly := fun _ => rfl

theorem readOnly_reject (p : σ → Bool) (e : σ → ε) : (reject p e).ReadOnly := by
  intro s
  by_cases hp : p s <;> simp [reject, hp]

theorem ReadOnly.bind {m : Method σ ε α} {f : α → Method σ ε β} (hm : m.ReadOnly)
    (hf : ∀ a, (f a).ReadOnly) : (m >>= f).ReadOnly := by
  intro s
  have hs : (m.run s).2 = s := hm s
  change (match m.run s with
    | (.ok a, s') => (f a).run s'
    | (.error e, s') => (.error e, s')).2 = s
  rcases hrun : m.run s with ⟨_ | a, t⟩ <;> rw [hrun] at hs
  · exact hs
  · exact (hf a t).trans hs

theorem total_pure (a : α) : (pure a : Method σ ε α).Total := fun _ => ⟨a, rfl⟩

theorem total_assign (f : σ → σ) : (assign f : Method σ ε Unit).Total := fun _ => ⟨(), rfl⟩

theorem Total.bind {m : Method σ ε α} {f : α → Method σ ε β} (hm : m.Total)
    (hf : ∀ a, (f a).Total) : (m >>= f).Total := by
  intro s
  obtain ⟨a, ha⟩ := hm s
  change ∃ b, (match m.run s with
    | (.ok a, s') => (f a).run s'
    | (.error e, s') => (.error e, s')).1 = .ok b
  rcases hrun : m.run s with ⟨_ | a', t⟩
  · simp [hrun] at ha
  · exact hf a' t

theorem Total.atomic {m : Method σ ε α} (hm : m.Total) : m.Atomic := by
  intro s e he
  obtain ⟨a, ha⟩ := hm s
  rw [ha] at he
  exact nomatch he

/-- Checks may come before a method that fails before it writes. -/
theorem ReadOnly.bind_atomic {m : Method σ ε α} {f : α → Method σ ε β} (hm : m.ReadOnly)
    (hf : ∀ a, (f a).Atomic) : (m >>= f).Atomic := by
  intro s e he
  have hs : (m.run s).2 = s := hm s
  change (match m.run s with
    | (.ok a, s') => (f a).run s'
    | (.error e, s') => (.error e, s')).1 = .error e at he
  change (match m.run s with
    | (.ok a, s') => (f a).run s'
    | (.error e, s') => (.error e, s')).2 = s
  rcases hrun : m.run s with ⟨_ | a, t⟩ <;> rw [hrun] at hs he
  · exact hs
  · exact (hf a t e he).trans hs

/-- What cannot fail may follow a method that fails before it writes. -/
theorem Atomic.bind_total {m : Method σ ε α} {f : α → Method σ ε β} (hm : m.Atomic)
    (hf : ∀ a, (f a).Total) : (m >>= f).Atomic := by
  intro s e he
  have hs := hm s
  change (match m.run s with
    | (.ok a, s') => (f a).run s'
    | (.error e, s') => (.error e, s')).1 = .error e at he
  change (match m.run s with
    | (.ok a, s') => (f a).run s'
    | (.error e, s') => (.error e, s')).2 = s
  rcases hrun : m.run s with ⟨e' | a, t⟩ <;> rw [hrun] at hs he
  · exact hs e' rfl
  · obtain ⟨b, hb⟩ := hf a t
    exact nomatch hb.symm.trans he

end Method

end Transition
