import Mathlib.Tactic.Common

namespace Calls

universe u

/-- A program runs one call after the other; what it does next depends on the reply. -/
inductive Program (σ : Type u) (ε α : Type) : Type (max u 1)
  | ok (a : α)
  | error (e : ε)
  | call {β : Type} (perform : σ → β × σ) (next : β → Program σ ε α)

namespace Program

variable {σ : Type u} {ε α β : Type}

protected def bind : Program σ ε α → (α → Program σ ε β) → Program σ ε β
  | .ok a, f => f a
  | .error e, _ => .error e
  | .call perform next, f => .call perform fun reply => (next reply).bind f

instance : Monad (Program σ ε) where
  pure := .ok
  bind := Program.bind

def lift : Except ε α → Program σ ε α
  | .ok a => .ok a
  | .error e => .error e

/-- A single call. -/
def ask (perform : σ → α × σ) : Program σ ε α := .call perform .ok

def run : Program σ ε α → σ → Except ε α × σ
  | .ok a, s => (.ok a, s)
  | .error e, s => (.error e, s)
  | .call perform next, s => (next (perform s).1).run (perform s).2

/-- The state is the same before and after each call. -/
def ReadOnly : Program σ ε α → Prop
  | .ok _ => True
  | .error _ => True
  | .call perform next => (∀ s, (perform s).2 = s) ∧ ∀ reply, (next reply).ReadOnly

theorem readOnly_ask {perform : σ → α × σ} (h : ∀ s, (perform s).2 = s) :
    (ask perform : Program σ ε α).ReadOnly := ⟨h, fun _ => trivial⟩

theorem ReadOnly.run_snd {p : Program σ ε α} (h : p.ReadOnly) (s : σ) : (p.run s).2 = s := by
  induction p generalizing s with
  | ok a => rfl
  | error e => rfl
  | call perform next ih =>
      show ((next (perform s).1).run (perform s).2).2 = s
      rw [h.1 s]
      exact ih _ (h.2 _) s

theorem ReadOnly.bind {p : Program σ ε α} {f : α → Program σ ε β} (hp : p.ReadOnly)
    (hf : ∀ a, (f a).ReadOnly) : (p >>= f).ReadOnly := by
  induction p with
  | ok a => exact hf a
  | error e => trivial
  | call perform next ih => exact ⟨hp.1, fun reply => ih reply (hp.2 reply)⟩

@[simp] theorem run_lift (r : Except ε α) (s : σ) :
    (lift r : Program σ ε α).run s = (r, s) := by
  cases r <;> rfl

@[simp] theorem run_ask (perform : σ → α × σ) (s : σ) :
    (ask perform : Program σ ε α).run s = (.ok (perform s).1, (perform s).2) := rfl

theorem run_bind (p : Program σ ε α) (f : α → Program σ ε β) (s : σ) :
    (p >>= f).run s = match p.run s with
      | (.ok a, s') => (f a).run s'
      | (.error e, s') => (.error e, s') := by
  induction p generalizing s with
  | ok a => rfl
  | error e => rfl
  | call perform next ih => exact ih (perform s).1 (perform s).2

/-- What a program does after a part that succeeds. -/
theorem run_bind_ok {p : Program σ ε α} {f : α → Program σ ε β} {s s' : σ} {a : α}
    (h : p.run s = (.ok a, s')) : (p >>= f).run s = (f a).run s' := by
  rw [run_bind, h]

theorem run_bind_error {p : Program σ ε α} {f : α → Program σ ε β} {s s' : σ} {e : ε}
    (h : p.run s = (.error e, s')) : (p >>= f).run s = (.error e, s') := by
  rw [run_bind, h]

end Program

end Calls
