import Mathlib.Tactic.Common
import MediaHub.Relational.Table

/-!
Transactions over a state: a sequence of statements that either all take effect or none.
-/

namespace Relational

open Keyed

universe u v

/-- Statements run one after another on the state, and the first error ends them. -/
structure Transaction (σ : Type u) (ε : Type v) (α : Type) where
  run : σ → Except ε (α × σ)

namespace Transaction

variable {σ : Type u} {ε : Type v} {α β : Type}

protected def pure (a : α) : Transaction σ ε α := ⟨fun s => .ok (a, s)⟩

protected def bind (tx : Transaction σ ε α) (f : α → Transaction σ ε β) :
    Transaction σ ε β :=
  ⟨fun s => match tx.run s with
    | .ok (a, s') => (f a).run s'
    | .error e => .error e⟩

instance : Monad (Transaction σ ε) where
  pure := Transaction.pure
  bind := Transaction.bind

/-- Ends the transaction with an error. -/
def fail (error : ε) : Transaction σ ε α := ⟨fun _ => .error error⟩

/-- The result of a query on the state. -/
def query (f : σ → α) : Transaction σ ε α := ⟨fun s => .ok (f s, s)⟩

/-- A statement that writes. -/
def write (f : σ → σ) : Transaction σ ε Unit := ⟨fun s => .ok ((), f s)⟩

/-- Continues only if `p` holds. -/
def require (p : Prop) [Decidable p] (error : ε) : Transaction σ ε Unit :=
  ⟨fun s => if p then .ok ((), s) else .error error⟩

/-- The row of a `fetch_optional`, or the error its absence means. -/
def orThrow (value : Option α) (error : ε) : Transaction σ ε α :=
  match value with
  | some a => pure a
  | none => fail error

/-- A pure check inside a transaction. -/
def ofExcept (value : Except ε α) : Transaction σ ε α :=
  match value with
  | .ok a => pure a
  | .error e => fail e

/-- The same statement for every element, in order. -/
def forEach {γ : Type*} (body : γ → Transaction σ ε Unit) : List γ → Transaction σ ε Unit
  | [] => pure ()
  | x :: xs => body x >>= fun _ => forEach body xs

/-- The state left behind: an error rolls every statement back. -/
def commit (tx : Transaction σ ε α) (s : σ) : σ :=
  match tx.run s with
  | .ok (_, s') => s'
  | .error _ => s

theorem commit_of_ok {tx : Transaction σ ε α} {s s' : σ} {a : α}
    (h : tx.run s = .ok (a, s')) : tx.commit s = s' := by
  simp [commit, h]

theorem commit_of_error {tx : Transaction σ ε α} {s : σ} {e : ε}
    (h : tx.run s = .error e) : tx.commit s = s := by
  simp [commit, h]

/-- A transaction commits what its successful run wrote, or nothing at all. -/
theorem commit_cases (tx : Transaction σ ε α) (s : σ) :
    (∃ a, tx.run s = .ok (a, tx.commit s)) ∨ tx.commit s = s := by
  cases h : tx.run s with
  | ok r => exact Or.inl ⟨r.1, by rw [commit_of_ok h]⟩
  | error e => exact Or.inr (commit_of_error h)

@[simp] theorem run_pure_ok {a b : α} {s s' : σ} :
    (pure a : Transaction σ ε α).run s = .ok (b, s') ↔ a = b ∧ s = s' := by
  change (Except.ok (a, s) : Except ε (α × σ)) = .ok (b, s') ↔ _
  simp

@[simp] theorem run_fail_ok {e : ε} {a : α} {s s' : σ} :
    (fail e : Transaction σ ε α).run s = .ok (a, s') ↔ False := by
  simp [fail]

@[simp] theorem run_bind_ok {tx : Transaction σ ε α} {f : α → Transaction σ ε β} {b : β}
    {s s' : σ} :
    (tx >>= f).run s = .ok (b, s') ↔
      ∃ a t, tx.run s = .ok (a, t) ∧ (f a).run t = .ok (b, s') := by
  change (match tx.run s with
    | .ok (a, s') => (f a).run s'
    | .error e => .error e) = .ok (b, s') ↔ _
  cases h : tx.run s with
  | ok r =>
      rcases r with ⟨a, t⟩
      constructor
      · intro hf
        exact ⟨a, t, rfl, hf⟩
      · rintro ⟨_, _, heq, hf⟩
        cases heq
        exact hf
  | error e => simp

@[simp] theorem run_query_ok {f : σ → α} {a : α} {s s' : σ} :
    (query f : Transaction σ ε α).run s = .ok (a, s') ↔ f s = a ∧ s = s' := by
  simp [query]

@[simp] theorem run_write_ok {f : σ → σ} {s s' : σ} {u : Unit} :
    (write f : Transaction σ ε Unit).run s = .ok (u, s') ↔ s' = f s := by
  simp [write, eq_comm]

@[simp] theorem run_require_ok {p : Prop} [Decidable p] {e : ε} {s s' : σ} {u : Unit} :
    (require p e : Transaction σ ε Unit).run s = .ok (u, s') ↔ p ∧ s = s' := by
  by_cases hp : p <;> simp [require, hp]

@[simp] theorem run_orThrow_ok {value : Option α} {e : ε} {a : α} {s s' : σ} :
    (orThrow value e : Transaction σ ε α).run s = .ok (a, s') ↔ value = some a ∧ s = s' := by
  cases value with
  | none => simp [orThrow]
  | some b => simp [orThrow]

@[simp] theorem run_ofExcept_ok {value : Except ε α} {a : α} {s s' : σ} :
    (ofExcept value : Transaction σ ε α).run s = .ok (a, s') ↔ value = .ok a ∧ s = s' := by
  cases value with
  | ok b => simp [ofExcept]
  | error e => simp [ofExcept]

@[simp] theorem run_ite_ok {p : Prop} [Decidable p] {x y : Transaction σ ε α} {a : α}
    {s s' : σ} :
    (if p then x else y).run s = .ok (a, s') ↔
      (p ∧ x.run s = .ok (a, s')) ∨ (¬ p ∧ y.run s = .ok (a, s')) := by
  by_cases hp : p <;> simp [hp]

theorem run_bind_of_ok {tx : Transaction σ ε α} {s t : σ} {a : α} (h : tx.run s = .ok (a, t))
    (f : α → Transaction σ ε β) : (tx >>= f).run s = (f a).run t := by
  change (match tx.run s with
    | .ok (a, s') => (f a).run s'
    | .error e => .error e) = _
  rw [h]

theorem run_query_bind (f : σ → α) (g : α → Transaction σ ε β) (s : σ) :
    (query f >>= g).run s = (g (f s)).run s := rfl

theorem run_require_bind {p : Prop} [Decidable p] (hp : p) (e : ε)
    (g : Unit → Transaction σ ε β) (s : σ) : (require p e >>= g).run s = (g ()).run s := by
  have hpure : (require p e : Transaction σ ε Unit) = pure () := by
    simp only [require, if_pos hp]
    rfl
  rw [hpure]
  rfl

section ForEach

variable {γ : Type*} {body : γ → Transaction σ ε Unit}

@[simp] theorem run_forEach_nil_ok {s s' : σ} {u : Unit} :
    (forEach body []).run s = .ok (u, s') ↔ s = s' := by
  simp [forEach]

@[simp] theorem run_forEach_cons_ok {x : γ} {xs : List γ} {s s' : σ} {u : Unit} :
    (forEach body (x :: xs)).run s = .ok (u, s') ↔
      ∃ t, (body x).run s = .ok ((), t) ∧ (forEach body xs).run t = .ok ((), s') := by
  rw [forEach, run_bind_ok]
  exact ⟨fun ⟨_, t, hx, hxs⟩ => ⟨t, hx, hxs⟩, fun ⟨t, hx, hxs⟩ => ⟨(), t, hx, hxs⟩⟩

/-- An invariant of the body carries over a loop; the body may use which element it is. -/
theorem forEach_invariant {P : σ → Prop} {l : List γ}
    (hbody : ∀ x ∈ l, ∀ s s', P s → (body x).run s = .ok ((), s') → P s')
    {s s' : σ} {u : Unit} (hs : P s) (h : (forEach body l).run s = .ok (u, s')) : P s' := by
  induction l generalizing s with
  | nil =>
      cases run_forEach_nil_ok.1 h
      exact hs
  | cons x l ih =>
      obtain ⟨t, hx, hl⟩ := run_forEach_cons_ok.1 h
      exact ih (fun y hy => hbody y (List.mem_cons_of_mem x hy))
        (hbody x List.mem_cons_self s t hs hx) hl

end ForEach

end Transaction

/-- One table of a database. -/
structure TableIn (σ : Type u) (α : Type) {κ : Type v} [Keyed α κ] where
  get : σ → Table α
  map : (Table α → Table α) → σ → σ
  get_map : ∀ f s, get (map f s) = f (get s)

namespace Transaction

variable {σ : Type u} {ε : Type v} {α κ : Type} [Keyed α κ] [DecidableEq κ]

/-- `SELECT ... WHERE key = k`, or the error that a missing row means. -/
def selectRow (T : TableIn σ α) (k : κ) (missing : ε) : Transaction σ ε α := do
  let row ← query fun s => (T.get s).find? k
  orThrow row missing

/-- `INSERT`: `check` is what the `CHECK` constraints say of the row, and `clash` whether a
`UNIQUE` index other than the primary key forbids it beside another one. -/
def insertRow (T : TableIn σ α) (row : α) (check : Bool) (clash : α → Bool)
    (violation duplicate : ε) : Transaction σ ε Unit := do
  require (check = true) violation
  let rows ← query T.get
  require (rows.find? (key row) = none ∧ rows.rows.any clash = false) duplicate
  write (T.map (·.insert row))

/-- `UPDATE ... WHERE key = k AND guard` that must affect exactly one row. -/
def updateRow (T : TableIn σ α) (k : κ) (guard : α → Bool) (change : Update α)
    (check : α → Bool) (missing violation : ε) : Transaction σ ε Unit := do
  let row ← query fun s => ((T.get s).find? k).filter guard
  let row ← orThrow row missing
  require (check (change row) = true) violation
  write (T.map (·.update k change))

@[simp] theorem run_selectRow_ok {T : TableIn σ α} {k : κ} {missing : ε} {row : α}
    {s s' : σ} :
    (selectRow T k missing).run s = .ok (row, s') ↔
      (row ∈ T.get s ∧ key row = k) ∧ s = s' := by
  simp only [selectRow, run_bind_ok, run_query_ok, run_orThrow_ok]
  constructor
  · rintro ⟨_, _, ⟨rfl, rfl⟩, hrow, rfl⟩
    exact ⟨Table.find?_eq_some_iff.1 hrow, rfl⟩
  · rintro ⟨hrow, rfl⟩
    exact ⟨_, _, ⟨rfl, rfl⟩, Table.find?_eq_some_iff.2 hrow, rfl⟩

@[simp] theorem run_insertRow_ok {T : TableIn σ α} {row : α} {check : Bool}
    {clash : α → Bool} {violation duplicate : ε} {s s' : σ} {u : Unit} :
    (insertRow T row check clash violation duplicate).run s = .ok (u, s') ↔
      check = true ∧ (T.get s).find? (key row) = none ∧
        (∀ r ∈ T.get s, clash r = false) ∧ s' = T.map (·.insert row) s := by
  simp only [insertRow, run_bind_ok, run_require_ok, run_query_ok, run_write_ok]
  constructor
  · rintro ⟨_, _, ⟨hcheck, rfl⟩, _, _, ⟨rfl, rfl⟩, _, _, ⟨⟨hfresh, hclash⟩, rfl⟩, rfl⟩
    exact ⟨hcheck, hfresh, by simpa [Table.mem_def] using hclash, rfl⟩
  · rintro ⟨hcheck, hfresh, hclash, rfl⟩
    exact ⟨(), s, ⟨hcheck, rfl⟩, _, _, ⟨rfl, rfl⟩, (), s,
      ⟨⟨hfresh, by simpa [Table.mem_def] using hclash⟩, rfl⟩, rfl⟩

@[simp] theorem run_updateRow_ok {T : TableIn σ α} {k : κ} {guard check : α → Bool}
    {change : Update α} {missing violation : ε} {s s' : σ} {u : Unit} :
    (updateRow T k guard change check missing violation).run s = .ok (u, s') ↔
      (∃ row ∈ T.get s, key row = k ∧ guard row ∧ check (change row)) ∧
        s' = T.map (·.update k change) s := by
  simp only [updateRow, run_bind_ok, run_require_ok, run_query_ok, run_orThrow_ok,
    run_write_ok]
  constructor
  · rintro ⟨_, _, ⟨rfl, rfl⟩, row, _, ⟨hrow, rfl⟩, _, _, ⟨hcheck, rfl⟩, rfl⟩
    obtain ⟨hfind, hguard⟩ := Option.filter_eq_some_iff.1 hrow
    obtain ⟨hmem, hkey⟩ := Table.find?_eq_some_iff.1 hfind
    exact ⟨⟨row, hmem, hkey, hguard, hcheck⟩, rfl⟩
  · rintro ⟨⟨row, hmem, hkey, hguard, hcheck⟩, rfl⟩
    have hrow : ((T.get s).find? k).filter guard = some row :=
      Option.filter_eq_some_iff.2 ⟨Table.find?_eq_some_iff.2 ⟨hmem, hkey⟩, hguard⟩
    exact ⟨_, _, ⟨rfl, rfl⟩, row, s, ⟨hrow, rfl⟩, (), s, ⟨hcheck, rfl⟩, rfl⟩

end Transaction

end Relational
