import Mathlib.Tactic.Simps.Basic
import MediaHub.Http.Hmac
import MediaHub.Relational.Transaction

namespace MediaHub.Store.ReplayNonces

open Relational Relational.Transaction
open MediaHub.Core
open MediaHub.Http (Text)

structure AccessKeyRecord where
  accessKeyId : Text
  applicationId : ApplicationId
  secretCiphertext : Text
  secretKeyVersion : Nat
  permissions : List String
  expiresAt : Option Time
  revokedAt : Option Time
deriving DecidableEq

structure ReplayNonce where
  accessKeyId : Text
  nonce : Text
  expiresAt : Time
  createdAt : Time

instance : Keyed AccessKeyRecord Text := ⟨AccessKeyRecord.accessKeyId⟩

instance : Keyed ReplayNonce (Text × Text) := ⟨fun row => (row.accessKeyId, row.nonce)⟩

structure Database where
  accessKeys : Table AccessKeyRecord
  replayNonces : Table ReplayNonce

abbrev Transaction := Relational.Transaction Database RepositoryError

@[simps] def replayNonceRows : TableIn Database ReplayNonce :=
  ⟨Database.replayNonces, fun f db => { db with replayNonces := f db.replayNonces }, fun _ _ => rfl⟩

/-- `revoked_at IS NULL AND (expires_at IS NULL OR expires_at > now)` -/
def isActive (now : Time) (row : AccessKeyRecord) : Bool :=
  row.revokedAt.isNone && row.expiresAt.all (now < ·)

def findActiveAccessKey (accessKeyId : Text) (now : Time) (db : Database) :
    Option AccessKeyRecord :=
  (db.accessKeys.find? accessKeyId).filter (isActive (postgresTime now))

/-- The expired rows that a transaction finds when it deletes them; rows committed after its
`DELETE` has begun are not `seen`. -/
def purge (now : Time) (seen : ReplayNonce → Bool) (db : Database) : Database :=
  { db with
    replayNonces := db.replayNonces.deleteWhere fun row =>
      decide (row.expiresAt ≤ now) && seen row }

def recordReplayNonce (accessKeyId nonce : Text) (expiresAt now : Time)
    (seen : ReplayNonce → Bool) : Transaction Unit := do
  write (purge (postgresTime now) seen)
  insertRow replayNonceRows ⟨accessKeyId, nonce, postgresTime expiresAt, postgresTime now⟩ true
    (fun _ => false) (.invariant "") .conflict

/-- The row under the nonce, unless the transaction deletes it. -/
theorem find?_purge {now : Time} {seen : ReplayNonce → Bool} {db : Database} (id : Text × Text) :
    (purge now seen db).replayNonces.find? id =
      (db.replayNonces.find? id).filter fun row => !(decide (row.expiresAt ≤ now) && seen row) :=
  Table.find?_deleteWhere id

/-- A nonce is recorded exactly when no row under it is left. -/
theorem run_recordReplayNonce_ok {accessKeyId nonce : Text} {expiresAt now : Time}
    {seen : ReplayNonce → Bool} {db db' : Database} {u : Unit} :
    (recordReplayNonce accessKeyId nonce expiresAt now seen).run db = .ok (u, db') ↔
      (∀ row ∈ db.replayNonces.find? (accessKeyId, nonce),
        row.expiresAt ≤ postgresTime now ∧ seen row = true) ∧
      db' = replayNonceRows.map (·.insert
        ⟨accessKeyId, nonce, postgresTime expiresAt, postgresTime now⟩)
          (purge (postgresTime now) seen db) := by
  simp only [recordReplayNonce, run_bind_ok, run_write_ok, run_insertRow_ok]
  constructor
  · rintro ⟨_, _, rfl, _, hnone, _, rfl⟩
    refine ⟨fun row hrow => ?_, rfl⟩
    have hfree :
        (purge (postgresTime now) seen db).replayNonces.find? (accessKeyId, nonce) = none := hnone
    rw [find?_purge, Option.mem_def.1 hrow] at hfree
    simpa [Option.filter] using hfree
  · rintro ⟨hfree, rfl⟩
    refine ⟨(), _, rfl, trivial, ?_, fun _ _ => trivial, rfl⟩
    show (purge (postgresTime now) seen db).replayNonces.find? (accessKeyId, nonce) = none
    rw [find?_purge]
    cases hrow : db.replayNonces.find? (accessKeyId, nonce) with
    | none => rfl
    | some row =>
        have hgone := hfree row hrow
        simp [Option.filter, hgone.1, hgone.2]

/-- The rows once a nonce has been recorded. -/
theorem find?_recorded {accessKeyId nonce : Text} {expiresAt now : Time}
    {seen : ReplayNonce → Bool} {db : Database}
    (hfree : ∀ row ∈ db.replayNonces.find? (accessKeyId, nonce),
      row.expiresAt ≤ now ∧ seen row = true) (id : Text × Text) :
    (replayNonceRows.map (·.insert ⟨accessKeyId, nonce, expiresAt, now⟩)
      (purge now seen db)).replayNonces.find? id =
      if id = (accessKeyId, nonce) then some ⟨accessKeyId, nonce, expiresAt, now⟩
      else (db.replayNonces.find? id).filter
        fun row => !(decide (row.expiresAt ≤ now) && seen row) := by
  have hnone : (purge now seen db).replayNonces.find? (accessKeyId, nonce) = none := by
    rw [find?_purge]
    cases hrow : db.replayNonces.find? (accessKeyId, nonce) with
    | none => rfl
    | some row =>
        have hgone := hfree row hrow
        simp [Option.filter, hgone.1, hgone.2]
  show ((purge now seen db).replayNonces.insert ⟨accessKeyId, nonce, expiresAt, now⟩).find? id = _
  rw [Table.find?_insert hnone, find?_purge]
  simp only [Keyed.key, @eq_comm _ id]

end MediaHub.Store.ReplayNonces
