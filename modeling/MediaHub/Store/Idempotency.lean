import Mathlib.Tactic.Simps.Basic
import MediaHub.Store.Database
import MediaHub.Transition.System

namespace MediaHub.Store.Idempotency

open Relational Relational.Transaction
open MediaHub.Core Transition

structure CompletedIdempotencyResponse where
  status : Nat
  payload : String
  resourceId : Option String
deriving DecidableEq

inductive IdempotencyClaim where
  | claimed (claimToken : String)
  | inProgress
  | completed (response : CompletedIdempotencyResponse)
  | conflict
deriving DecidableEq

/-- `UNIQUE (application_id, operation_scope, idempotency_key)` -/
structure KeyId where
  applicationId : ApplicationId
  operationScope : String
  key : String
deriving DecidableEq

structure IdempotencyContext where
  key : KeyId
  requestHash : String
  claimToken : String

inductive IdempotencyStatus where
  | inProgress
  | completed
deriving DecidableEq

structure IdempotencyKey where
  id : KeyId
  requestHash : String
  claimToken : String
  status : IdempotencyStatus
  responseStatus : Option Nat
  responsePayload : Option String
  resourceId : Option String
  expiresAt : Time
  createdAt : Time
  completedAt : Option Time

instance : Keyed IdempotencyKey KeyId := ⟨IdempotencyKey.id⟩

/-- The keys, and the rest of the database that the effects of requests change. -/
structure KeyStore (W : Type) where
  keys : Table IdempotencyKey
  world : W

variable {W : Type}

@[simps] def keyRows : TableIn (KeyStore W) IdempotencyKey :=
  ⟨KeyStore.keys, fun f store => { store with keys := f store.keys }, fun _ _ => rfl⟩

abbrev Transaction (W : Type) := Relational.Transaction (KeyStore W) RepositoryError

/-- Statements on the rest of the database. -/
def inWorld {α : Type} (tx : Relational.Transaction W RepositoryError α) : Transaction W α :=
  ⟨fun store => match tx.run store.world with
    | .ok (a, world) => .ok (a, { store with world := world })
    | .error e => .error e⟩

@[simp] theorem run_inWorld_ok {α : Type} {tx : Relational.Transaction W RepositoryError α} {a : α}
    {store store' : KeyStore W} :
    (inWorld tx).run store = .ok (a, store') ↔
      ∃ world, tx.run store.world = .ok (a, world) ∧ store' = { store with world := world } := by
  simp only [inWorld]
  cases tx.run store.world with
  | error e => simp
  | ok r =>
      rcases r with ⟨b, world⟩
      simp only [Except.ok.injEq, Prod.mk.injEq]
      constructor
      · rintro ⟨rfl, rfl⟩
        exact ⟨world, ⟨rfl, rfl⟩, rfl⟩
      · rintro ⟨_, ⟨rfl, rfl⟩, rfl⟩
        exact ⟨rfl, rfl⟩

/-- The constraint on the columns of a row's status. -/
def rowIsValid (row : IdempotencyKey) : Bool :=
  row.responseStatus.all (fun status => 100 ≤ status && status ≤ 599) &&
  match row.status with
  | .inProgress =>
      row.responseStatus.isNone && row.responsePayload.isNone && row.completedAt.isNone
  | .completed =>
      row.responseStatus.isSome && row.responsePayload.isSome && row.completedAt.isSome

def completedResponse (row : IdempotencyKey) : Transaction W CompletedIdempotencyResponse := do
  let status ← orThrow row.responseStatus
    (.invariant "completed idempotency response is missing a status")
  require (status ≤ 65535) (.invariant "completed idempotency response status is invalid")
  let payload ← orThrow row.responsePayload
    (.invariant "completed idempotency response is missing a payload")
  return ⟨status, payload, row.resourceId⟩

/-- The row of a fresh claim. -/
def claimedRow (key : KeyId) (requestHash claimToken : String) (expiresAt now : Time) :
    IdempotencyKey where
  id := key
  requestHash := requestHash
  claimToken := claimToken
  status := .inProgress
  responseStatus := none
  responsePayload := none
  resourceId := none
  expiresAt := postgresTime expiresAt
  createdAt := now
  completedAt := none

/-- What the row of a key answers to a request that did not get the claim. -/
def answerFor (row : IdempotencyKey) (requestHash : String) : Transaction W IdempotencyClaim :=
  if row.requestHash ≠ requestHash then return .conflict
  else match row.status with
    | .inProgress => return .inProgress
    | .completed => do
        let response ← completedResponse row
        return .completed response

/-- `claimToken` is the fresh `Uuid::new_v4`. -/
def claimIdempotencyKey (key : KeyId) (requestHash : String) (expiresAt now : Time)
    (claimToken : String) : Transaction W IdempotencyClaim := do
  let now := postgresTime now
  write (keyRows.map (·.deleteWhere (·.expiresAt ≤ now)))
  -- `CHECK (length(request_hash) = 64)` comes before `ON CONFLICT DO NOTHING`.
  require (requestHash.length = 64)
    (checkViolation "idempotency_keys" "idempotency_keys_request_hash_check")
  let row ← query fun store => store.keys.find? key
  match row with
  | none => do
      write (keyRows.map (·.insert (claimedRow key requestHash claimToken expiresAt now)))
      return .claimed claimToken
  | some row => answerFor row requestHash

/-- The claim that a request still holds. -/
def holdsClaim (context : IdempotencyContext) (row : IdempotencyKey) : Bool :=
  row.requestHash = context.requestHash && row.claimToken = context.claimToken &&
  row.status = .inProgress

def complete (response : CompletedIdempotencyResponse) (completedAt : Time) :
    Update IdempotencyKey where
  apply row :=
    { row with
      status := .completed
      responseStatus := some response.status
      responsePayload := some response.payload
      resourceId := response.resourceId
      completedAt := some (postgresTime completedAt) }
  key_apply _ := rfl

def completeInTransaction (context : IdempotencyContext)
    (response : CompletedIdempotencyResponse) (completedAt : Time) : Transaction W Unit :=
  updateRow keyRows context.key (holdsClaim context) (complete response completedAt) rowIsValid
    .conflict (checkViolation "idempotency_keys" "idempotency_keys_check")

/-- The effect of a request of `applicationId` and its answer, in one transaction. -/
def effectAndComplete (applicationId : ApplicationId) (mismatch : String)
    (effect : Relational.Transaction W RepositoryError Unit) (context : IdempotencyContext)
    (response : CompletedIdempotencyResponse) (completedAt : Time) : Transaction W Unit := do
  require (applicationId = context.key.applicationId) (.invariant mismatch)
  inWorld effect
  completeInTransaction context response completedAt

def releaseIdempotencyKey (context : IdempotencyContext) : Transaction W Unit :=
  write (keyRows.map (·.deleteWhere fun row =>
    decide (row.id = context.key) && holdsClaim context row))

/-- The keys of a deleted application go with it. -/
def deleteApplicationKeys (applicationId : ApplicationId) : Transaction W Unit :=
  write (keyRows.map (·.deleteWhere (·.id.applicationId = applicationId)))

/-- What requests, and time, do to the keys. -/
inductive Event (W : Type) where
  | claim (key : KeyId) (requestHash : String) (expiresAt now : Time) (claimToken : String)
  | commit (applicationId : ApplicationId) (mismatch : String)
      (effect : Relational.Transaction W RepositoryError Unit) (context : IdempotencyContext)
      (response : CompletedIdempotencyResponse) (completedAt : Time)
  | release (context : IdempotencyContext)
  | deleteApplication (applicationId : ApplicationId)
  /-- Whatever the rest of the program does to the rest of the database. -/
  | world (world : W)

inductive Answer where
  | claim (claim : IdempotencyClaim)
  | done
  | refused
deriving DecidableEq

/-- The answer to a transaction, and the database it leaves. -/
def settle {α : Type} (tx : Transaction W α) (answer : α → Answer) (store : KeyStore W) :
    Answer × KeyStore W :=
  match tx.run store with
  | .ok (a, store') => (answer a, store')
  | .error _ => (.refused, store)

def respond (store : KeyStore W) : Event W → Answer × KeyStore W
  | .claim key requestHash expiresAt now claimToken =>
      settle (claimIdempotencyKey key requestHash expiresAt now claimToken) .claim store
  | .commit applicationId mismatch effect context response completedAt =>
      settle (effectAndComplete applicationId mismatch effect context response completedAt)
        (fun _ => .done) store
  | .release context => settle (releaseIdempotencyKey context) (fun _ => .done) store
  | .deleteApplication applicationId =>
      settle (deleteApplicationKeys applicationId) (fun _ => .done) store
  | .world world => (.done, { store with world })

/-- The database, the claim tokens handed out, and the answered events, newest first. -/
structure History (W : Type) where
  store : KeyStore W
  issued : List String
  log : List (Event W × Answer)

def record (history : History W) (event : Event W) (issued : List String) : History W :=
  let response := respond history.store event
  ⟨response.2, issued, (event, response.1) :: history.log⟩

/-- No two claims draw the same token. -/
def step (history : History W) (event : Event W) : History W :=
  match event with
  | .claim _ _ _ _ claimToken =>
      if claimToken ∈ history.issued then history
      else record history event (claimToken :: history.issued)
  | _ => record history event history.issued

def requests (W : Type) : System (History W) (Event W) where
  init history := ∃ world, history = ⟨⟨∅, world⟩, [], []⟩
  step := step

inductive KeyLife where
  | absent
  | claimed (requestHash claimToken : String) (expiresAt : Time)
  | committed (requestHash : String) (expiresAt : Time) (response : CompletedIdempotencyResponse)
deriving DecidableEq

def KeyLife.expiresAt : KeyLife → Option Time
  | .absent => none
  | .claimed _ _ expiresAt | .committed _ expiresAt _ => some expiresAt

def KeyLife.requestHash : KeyLife → Option String
  | .absent => none
  | .claimed requestHash _ _ | .committed requestHash _ _ => some requestHash

/-- A claim removes what has expired. -/
def KeyLife.purge (life : KeyLife) (now : Time) : KeyLife :=
  if life.expiresAt.any (· ≤ now) then .absent else life

def KeyLife.commit (life : KeyLife) (response : CompletedIdempotencyResponse) : KeyLife :=
  match life with
  | .claimed requestHash _ expiresAt => .committed requestHash expiresAt response
  | other => other

/-- The one request that holds a claimed key. -/
def KeyLife.heldBy (life : KeyLife) (requestHash claimToken : String) : Bool :=
  match life with
  | .claimed requestHash' claimToken' _ => requestHash' = requestHash ∧ claimToken' = claimToken
  | _ => false

def KeyLife.next (key : KeyId) (life : KeyLife) : Event W × Answer → KeyLife
  | (.claim key' requestHash expiresAt now _, .claim (.claimed claimToken)) =>
      if key' = key then .claimed requestHash claimToken (postgresTime expiresAt)
      else life.purge (postgresTime now)
  | (.claim _ _ _ now _, .claim _) => life.purge (postgresTime now)
  | (.commit _ _ _ context response _, .done) =>
      if context.key = key then life.commit response else life
  | (.release context, .done) =>
      if context.key = key ∧ life.heldBy context.requestHash context.claimToken then .absent
      else life
  | (.deleteApplication applicationId, .done) =>
      if key.applicationId = applicationId then .absent else life
  | _ => life

def life (key : KeyId) : List (Event W × Answer) → KeyLife
  | [] => .absent
  | entry :: log => (life key log).next key entry

/-- The effects committed for a key since it was last claimed. -/
def commitsInLifetime (key : KeyId) : List (Event W × Answer) → Nat
  | [] => 0
  | (.claim key' _ _ _ _, .claim (.claimed _)) :: log =>
      if key' = key then 0 else commitsInLifetime key log
  | (.commit _ _ _ context _ _, .done) :: log =>
      if context.key = key then commitsInLifetime key log + 1 else commitsInLifetime key log
  | _ :: log => commitsInLifetime key log

/-- The event ends a claim that was not committed: its holder or the deletion of the application
released it, a claim removed it after its expiry, or another request replaced it. -/
def EndsClaim (context : IdempotencyContext) (expiresAt : Time) : Event W × Answer → Prop
  | (.release context', .done) => context' = context
  | (.deleteApplication applicationId, .done) => context.key.applicationId = applicationId
  | (.claim key _ _ now _, .claim answer) =>
      expiresAt ≤ postgresTime now ∨
        (key = context.key ∧ ∃ claimToken, answer = .claimed claimToken)
  | _ => False

/-- A claim under the token was made, and it has ended. -/
def TokenEnded (claimToken : String) : List (Event W × Answer) → Prop
  | [] => False
  | entry :: log => TokenEnded claimToken log ∨ ∃ key requestHash expiresAt,
      life key log = .claimed requestHash claimToken expiresAt ∧
      EndsClaim ⟨key, requestHash, claimToken⟩ expiresAt entry

/-- The row of a key is what its life says. -/
inductive Represents : Option IdempotencyKey → KeyLife → Prop
  | absent : Represents none .absent
  | claimed {row : IdempotencyKey} (status : row.status = .inProgress) :
      Represents (some row) (.claimed row.requestHash row.claimToken row.expiresAt)
  | committed {row : IdempotencyKey} {response : CompletedIdempotencyResponse}
      (status : row.status = .completed)
      (responseStatus : row.responseStatus = some response.status)
      (small : response.status ≤ 65535) (payload : row.responsePayload = some response.payload)
      (resource : row.resourceId = response.resourceId) :
      Represents (some row) (.committed row.requestHash row.expiresAt response)

namespace Represents

variable {row : Option IdempotencyKey} {keyLife : KeyLife}

theorem expiresAt_eq (h : Represents row keyLife) :
    keyLife.expiresAt = row.map (·.expiresAt) := by
  cases h <;> rfl

theorem requestHash_eq (h : Represents row keyLife) :
    keyLife.requestHash = row.map (·.requestHash) := by
  cases h <;> rfl

theorem purge (h : Represents row keyLife) (now : Time) :
    Represents (row.filter fun row => !decide (row.expiresAt ≤ now)) (keyLife.purge now) := by
  have hexpires := h.expiresAt_eq
  unfold KeyLife.purge
  rw [hexpires]
  cases row with
  | none => cases h; exact .absent
  | some row =>
      by_cases hle : row.expiresAt ≤ now
      · simpa [Option.filter, hle] using Represents.absent
      · simpa [Option.filter, hle] using h

theorem heldBy_iff {row : IdempotencyKey} (h : Represents (some row) keyLife)
    (context : IdempotencyContext) :
    holdsClaim context row = keyLife.heldBy context.requestHash context.claimToken := by
  cases h with
  | claimed status => simp [holdsClaim, KeyLife.heldBy, status]
  | committed status => simp [holdsClaim, KeyLife.heldBy, status]

theorem commit {row : IdempotencyKey} {requestHash claimToken : String}
    {response : CompletedIdempotencyResponse} (h : Represents (some row) keyLife)
    (hheld : keyLife.heldBy requestHash claimToken = true) (hstatus : response.status ≤ 599)
    (completedAt : Time) :
    Represents ((some row).map (complete response completedAt)) (keyLife.commit response) := by
  cases h with
  | claimed =>
      exact @Represents.committed (complete response completedAt row) response rfl rfl
        (Nat.le_trans hstatus (by decide)) rfl rfl
  | committed => simp [KeyLife.heldBy] at hheld

end Represents

theorem settle_cases {α : Type} (tx : Transaction W α) (answer : α → Answer)
    (store : KeyStore W) :
    settle tx answer store = (.refused, store) ∨
      ∃ a store', tx.run store = .ok (a, store') ∧ settle tx answer store = (answer a, store') := by
  unfold settle
  rcases tx.run store with e | ⟨a, store'⟩
  · exact Or.inl rfl
  · exact Or.inr ⟨a, store', rfl, rfl⟩

theorem run_answerFor_ok {row : IdempotencyKey} {requestHash : String} {claim : IdempotencyClaim}
    {store store' : KeyStore W} (h : (answerFor row requestHash).run store = .ok (claim, store')) :
    store' = store ∧ ∀ claimToken, claim ≠ .claimed claimToken := by
  unfold answerFor at h
  split at h
  · simp only [run_pure_ok] at h
    obtain ⟨rfl, rfl⟩ := h
    exact ⟨rfl, by simp⟩
  · cases hstatus : row.status <;> simp only [hstatus] at h
    · simp only [run_pure_ok] at h
      obtain ⟨rfl, rfl⟩ := h
      exact ⟨rfl, by simp⟩
    · simp only [completedResponse, run_bind_ok, run_orThrow_ok, run_require_ok, run_pure_ok] at h
      obtain ⟨_, _, ⟨_, _, ⟨_, rfl⟩, _, _, ⟨_, rfl⟩, _, _, ⟨_, rfl⟩, _, rfl⟩, rfl, rfl⟩ := h
      exact ⟨rfl, by simp⟩

/-- The rows that a claim at this time leaves. -/
def purged (store : KeyStore W) (now : Time) : Table IdempotencyKey :=
  store.keys.deleteWhere (·.expiresAt ≤ postgresTime now)

theorem respond_claim_cases (store : KeyStore W) (key : KeyId) (requestHash : String)
    (expiresAt now : Time) (claimToken : String) :
    respond store (.claim key requestHash expiresAt now claimToken) = (.refused, store) ∨
    (requestHash.length = 64 ∧ (purged store now).find? key = none ∧
      respond store (.claim key requestHash expiresAt now claimToken) =
        (.claim (.claimed claimToken), { store with
          keys := (purged store now).insert
            (claimedRow key requestHash claimToken expiresAt (postgresTime now)) })) ∨
    ∃ claim, (∀ claimToken', claim ≠ .claimed claimToken') ∧
      respond store (.claim key requestHash expiresAt now claimToken) =
        (.claim claim, { store with keys := purged store now }) := by
  rcases settle_cases (claimIdempotencyKey key requestHash expiresAt now claimToken) .claim store
    with h | ⟨claim, store', hrun, h⟩
  · exact Or.inl h
  · simp only [claimIdempotencyKey, run_bind_ok, run_write_ok, run_require_ok, run_query_ok] at hrun
    obtain ⟨_, _, rfl, _, _, ⟨hlength, rfl⟩, row, _, ⟨hrow, rfl⟩, hrest⟩ := hrun
    have hrow' : (purged store now).find? key = row := hrow
    cases row with
    | none =>
        simp only [run_bind_ok, run_write_ok, run_pure_ok] at hrest
        obtain ⟨_, _, rfl, rfl, rfl⟩ := hrest
        exact Or.inr (Or.inl ⟨hlength, hrow', h⟩)
    | some row =>
        obtain ⟨rfl, hclaim⟩ := run_answerFor_ok hrest
        exact Or.inr (Or.inr ⟨claim, hclaim, h⟩)

theorem respond_commit_cases (store : KeyStore W) (applicationId : ApplicationId)
    (mismatch : String) (effect : Relational.Transaction W RepositoryError Unit)
    (context : IdempotencyContext) (response : CompletedIdempotencyResponse) (completedAt : Time) :
    respond store (.commit applicationId mismatch effect context response completedAt) =
      (.refused, store) ∨
    ∃ row world, store.keys.find? context.key = some row ∧ holdsClaim context row = true ∧
      response.status ≤ 599 ∧
      respond store (.commit applicationId mismatch effect context response completedAt) =
        (.done, ⟨store.keys.update context.key (complete response completedAt), world⟩) := by
  rcases settle_cases
    (effectAndComplete applicationId mismatch effect context response completedAt)
    (fun _ => .done) store with h | ⟨_, store', hrun, h⟩
  · exact Or.inl h
  · simp only [effectAndComplete, completeInTransaction, run_bind_ok, run_require_ok,
      run_inWorld_ok, run_updateRow_ok] at hrun
    obtain ⟨_, _, ⟨_, rfl⟩, _, _, ⟨world, _, rfl⟩, ⟨row, hrow, hkey, hholds, hvalid⟩, rfl⟩ := hrun
    have hfind : store.keys.find? context.key = some row :=
      Table.find?_eq_some_iff.2 ⟨hrow, hkey⟩
    have hstatus : response.status ≤ 599 := by
      simp [rowIsValid, complete] at hvalid
      exact hvalid.2
    exact Or.inr ⟨row, world, hfind, hholds, hstatus, h⟩

/-- Each answer moves the lives of the keys as it moves their rows. -/
theorem represents_respond {store : KeyStore W} {lives : KeyId → KeyLife}
    (h : ∀ key, Represents (store.keys.find? key) (lives key)) (event : Event W) (key : KeyId) :
    Represents ((respond store event).2.keys.find? key)
      ((lives key).next key (event, (respond store event).1)) := by
  cases event with
  | claim key' requestHash expiresAt now claimToken =>
      have hpurged : Represents ((purged store now).find? key)
          ((lives key).purge (postgresTime now)) := by
        rw [purged, Table.find?_deleteWhere]
        exact (h key).purge _
      rcases respond_claim_cases store key' requestHash expiresAt now claimToken with
        hanswer | ⟨_, hfresh, hanswer⟩ | ⟨claim, hclaim, hanswer⟩ <;> rw [hanswer]
      · exact h key
      · simp only [KeyLife.next]
        rw [Table.find?_insert hfresh]
        have hrow : Keyed.key
            (claimedRow key' requestHash claimToken expiresAt (postgresTime now)) = key' := rfl
        rw [hrow]
        by_cases hkey : key' = key
        · rw [if_pos hkey, if_pos hkey]
          exact @Represents.claimed (claimedRow key' requestHash claimToken expiresAt _) rfl
        · rw [if_neg hkey, if_neg hkey]
          exact hpurged
      · cases claim with
        | claimed claimToken' => exact absurd rfl (hclaim claimToken')
        | inProgress | completed | conflict => exact hpurged
  | commit applicationId mismatch effect context response completedAt =>
      rcases respond_commit_cases store applicationId mismatch effect context response completedAt
        with hanswer | ⟨row, world, hfind, hholds, hstatus, hanswer⟩ <;> rw [hanswer]
      · exact h key
      · simp only [KeyLife.next]
        by_cases hkey : context.key = key
        · cases hkey
          rw [if_pos rfl, Table.find?_update_self, hfind]
          have hlife := h context.key
          rw [hfind] at hlife
          exact hlife.commit (hlife.heldBy_iff context ▸ hholds) hstatus completedAt
        · rw [if_neg hkey, Table.find?_update_ne (Ne.symm hkey)]
          exact h key
  | release context =>
      have hanswer : respond store (.release context) = (.done, { store with
          keys := store.keys.deleteWhere fun row =>
            decide (row.id = context.key) && holdsClaim context row }) := rfl
      rw [hanswer]
      simp only [KeyLife.next]
      rw [Table.find?_deleteWhere]
      have hlife := h key
      generalize lives key = keyLife at hlife ⊢
      cases hfind : store.keys.find? key with
      | none =>
          rw [hfind] at hlife
          cases hlife
          simpa [KeyLife.heldBy] using Represents.absent
      | some row =>
          rw [hfind] at hlife
          have hid : row.id = key := Table.key_of_find? hfind
          have hheld := hlife.heldBy_iff context
          by_cases hends : context.key = key ∧
              keyLife.heldBy context.requestHash context.claimToken = true
          · simpa [Option.filter, hid, hheld, hends.1, hends.2] using Represents.absent
          · have hkept : (decide (row.id = context.key) && holdsClaim context row) = false := by
              rw [hid, hheld, Bool.and_eq_false_iff, decide_eq_false_iff_not]
              by_cases hkey : context.key = key
              · exact Or.inr (Bool.eq_false_iff.2 fun hheld => hends ⟨hkey, hheld⟩)
              · exact Or.inl (Ne.symm hkey)
            simpa [Option.filter, hkept, hends] using hlife
  | deleteApplication applicationId =>
      have hanswer : respond store (.deleteApplication applicationId) = (.done, { store with
          keys := store.keys.deleteWhere (·.id.applicationId = applicationId) }) := rfl
      rw [hanswer]
      simp only [KeyLife.next]
      rw [Table.find?_deleteWhere]
      have hlife := h key
      generalize lives key = keyLife at hlife ⊢
      cases hfind : store.keys.find? key with
      | none =>
          rw [hfind] at hlife
          cases hlife
          simpa using Represents.absent
      | some row =>
          rw [hfind] at hlife
          have hid : row.id = key := Table.key_of_find? hfind
          by_cases happ : key.applicationId = applicationId
          · simpa [Option.filter, hid, happ] using Represents.absent
          · simpa [Option.filter, hid, happ] using hlife
  | world world => exact h key

end MediaHub.Store.Idempotency
