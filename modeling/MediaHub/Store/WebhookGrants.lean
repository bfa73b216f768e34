import MediaHub.Store.Webhook
import MediaHub.Transition.System

namespace MediaHub.Store.Webhook

open Relational Relational.Transaction
open MediaHub.Core Transition
open AsyncJobs (UuidText)

theorem isFinished_of_isClaimable {row : WebhookDelivery} {now : Time}
    (h : isClaimable now row = true) : isFinished row = false := by
  simp only [isClaimable, Bool.and_eq_true, Option.isNone_iff_eq_none] at h
  simp [isFinished, h.1.1.1, h.1.1.2]

theorem isFinished_of_holdsLease {row : WebhookDelivery} {leaseToken : String} {now : Time}
    (h : holdsLease leaseToken now row = true) : isFinished row = false := by
  simp only [holdsLease, Bool.and_eq_true, Option.isNone_iff_eq_none] at h
  simp [isFinished, h.1.1.1, h.1.1.2]

theorem leaseToken_of_holdsLease {row : WebhookDelivery} {leaseToken : String} {now : Time}
    (h : holdsLease leaseToken now row = true) :
    row.leaseToken = some leaseToken ∧ ∃ t, row.leasedUntil = some t ∧ now < t := by
  simp only [holdsLease, Bool.and_eq_true, Option.any_eq_true, decide_eq_true_eq] at h
  exact ⟨h.1.2, h.2⟩

/-- A successful claim leases the selected rows and no others. -/
theorem run_claimWebhookDeliveries_ok {now leaseUntil : Time} {limit : Nat} {leaseToken : String}
    {leased : Except RepositoryError (List LeasedWebhookDelivery)} {db db' : Database}
    (h : (claimWebhookDeliveries now leaseUntil limit leaseToken).run db = .ok (leased, db')) :
    now < leaseUntil ∧ db' = deliveryRows.map (·.updateWhere
      (fun row => decide (row ∈ claimable (postgresTime now) limit db))
      (lease leaseToken (postgresTime leaseUntil) (postgresTime now))) db := by
  simp only [claimWebhookDeliveries, validateClaim, run_bind_ok, run_require_ok, run_ite_ok,
    run_pure_ok, run_query_ok, run_write_ok] at h
  obtain ⟨_, _, ⟨hlater, rfl⟩, ⟨hlimit, _, rfl⟩ |
    ⟨_, _, _, ⟨_, rfl⟩, rows, _, ⟨rfl, rfl⟩, _, _, rfl, _, _, ⟨_, rfl⟩, _, rfl⟩⟩ := h
  · refine ⟨hlater, ?_⟩
    have hnone : claimable (postgresTime now) limit db = [] := by simp [claimable, hlimit]
    rw [hnone]
    simp [deliveryRows, Table.updateWhere]
  · exact ⟨hlater, rfl⟩

theorem of_mem_claimable {now : Time} {limit : Nat} {db : Database} {row : WebhookDelivery}
    (h : row ∈ claimable now limit db) : row ∈ db.deliveries ∧ isClaimable now row = true := by
  have hsorted := List.mem_of_mem_take h
  rw [List.mem_insertionSort] at hsorted
  have hfilter := List.mem_filter.1 hsorted
  simp only [Bool.and_eq_true] at hfilter
  exact ⟨hfilter.1, hfilter.2.2⟩

section

variable [UuidText]

/-- An acknowledgement of a delivery finds the lease of its token on the row, or does nothing. -/
theorem run_markDelivered_ok {eventId endpointId leaseToken : String} {deliveredAt : Time}
    {responseStatus : Option Nat} {done : Bool} {db db' : Database}
    (h : (markWebhookDeliveryDeliveredWithStatus eventId endpointId leaseToken deliveredAt
      responseStatus).run db = .ok (done, db')) :
    (done = false ∧ db' = db) ∨ (done = true ∧ ∃ row token,
      db.deliveries.find? (eventId, endpointId) = some row ∧
      UuidText.canonical leaseToken = some token ∧
      holdsLease token (postgresTime deliveredAt) row = true ∧
      db'.deliveries = db.deliveries.update (eventId, endpointId)
        (deliver (postgresTime deliveredAt) responseStatus) ∧
      db'.nextHistoryId = db.nextHistoryId) := by
  simp only [markWebhookDeliveryDeliveredWithStatus, validateResponseStatus, parseLeaseToken,
    run_bind_ok, run_require_ok, run_orThrow_ok, run_query_ok, run_ite_ok, run_write_ok,
    run_pure_ok] at h
  obtain ⟨_, _, ⟨_, rfl⟩, token, _, ⟨htoken, rfl⟩, found, _, ⟨hfound, rfl⟩,
    ⟨hsome, _, _, rfl, _, _, rfl, rfl, rfl⟩ | ⟨_, rfl, rfl⟩⟩ := h
  · obtain ⟨row, rfl⟩ := Option.isSome_iff_exists.1 hsome
    obtain ⟨hfind, hholds⟩ := Option.filter_eq_some_iff.1 hfound
    exact Or.inr ⟨rfl, row, token, hfind, htoken, hholds, rfl, rfl⟩
  · exact Or.inl ⟨rfl, rfl⟩

theorem run_recordFailure_ok {eventId endpointId leaseToken lastError : String}
    {failedAt retryAt : Time} {maxAttempts : Nat} {responseStatus : Option Nat}
    {done : Option WebhookDeliveryFailureDisposition} {db db' : Database}
    (h : (recordWebhookDeliveryFailureWithStatus eventId endpointId leaseToken failedAt retryAt
      maxAttempts responseStatus lastError).run db = .ok (done, db')) :
    (done = none ∧ db' = db) ∨ (done.isSome ∧ maxAttempts ≠ 0 ∧ ∃ row token,
      db.deliveries.find? (eventId, endpointId) = some row ∧
      UuidText.canonical leaseToken = some token ∧
      holdsLease token (postgresTime failedAt) row = true ∧
      db' = deliveryRows.map (·.update (eventId, endpointId) (recordFailure maxAttempts
        (postgresTime retryAt) (postgresTime failedAt) responseStatus lastError)) db) := by
  simp only [recordWebhookDeliveryFailureWithStatus, validateResponseStatus, parseLeaseToken,
    run_bind_ok, run_require_ok, run_orThrow_ok, run_query_ok] at h
  obtain ⟨_, _, ⟨⟨hattempts, _⟩, rfl⟩, _, _, ⟨_, rfl⟩, token, _, ⟨htoken, rfl⟩, _, _, ⟨_, rfl⟩,
    found, _, ⟨hfound, rfl⟩, hrest⟩ := h
  cases found with
  | none =>
      simp only [run_pure_ok] at hrest
      exact Or.inl ⟨hrest.1.symm, hrest.2.symm⟩
  | some row =>
      simp only [run_bind_ok, run_require_ok, run_write_ok, run_pure_ok] at hrest
      obtain ⟨_, _, ⟨_, rfl⟩, _, _, rfl, rfl, rfl⟩ := hrest
      obtain ⟨hfind, hholds⟩ := Option.filter_eq_some_iff.1 hfound
      exact Or.inr ⟨rfl, hattempts, row, token, hfind, htoken, hholds, rfl⟩

end

theorem run_replay_ok {applicationId : ApplicationId} {endpointId eventId : String}
    {replayedAt : Time} {done : Bool} {db db' : Database}
    (h : (replayWebhookDelivery applicationId endpointId eventId replayedAt).run db =
      .ok (done, db')) :
    (done = false ∧ db' = db) ∨ (done = true ∧ ∃ row,
      db.deliveries.find? (eventId, endpointId) = some row ∧ isFinished row = true ∧
      db' = deliveryRows.map (·.update (eventId, endpointId) (replay (postgresTime replayedAt)))
        db) := by
  simp only [replayWebhookDelivery, run_bind_ok, run_query_ok, run_ite_ok, run_write_ok,
    run_pure_ok] at h
  obtain ⟨found, _, ⟨hfound, rfl⟩, ⟨hsome, _, _, rfl, rfl, rfl⟩ | ⟨_, rfl, rfl⟩⟩ := h
  · obtain ⟨row, rfl⟩ := Option.isSome_iff_exists.1 hsome
    split at hfound
    · obtain ⟨hfind, hfinished⟩ := Option.filter_eq_some_iff.1 hfound
      exact Or.inr ⟨rfl, row, hfind, hfinished, rfl⟩
    · cases hfound
  · exact Or.inl ⟨rfl, rfl⟩

/-- What a worker was told when it claimed a delivery, and whether it has acknowledged it. -/
structure Grant where
  historyId : Nat
  leaseToken : String
  leasedUntil : Time
  acknowledged : Bool

/-- The last grant on a delivery; the newest grant comes first. -/
def latestGrant (historyId : Nat) (grants : List Grant) : Option Grant :=
  grants.find? (·.historyId = historyId)

def acknowledge (historyId : Nat) (leaseToken : String) (grants : List Grant) : List Grant :=
  grants.map fun grant =>
    if grant.historyId = historyId ∧ grant.leaseToken = leaseToken then
      { grant with acknowledged := true }
    else grant

/-- The database with the grants made so far, the tokens drawn, and the latest time that a worker
has called at. -/
structure History where
  db : Database
  grants : List Grant
  issued : List String
  clock : Time

/-- The transactions on the deliveries, in any order and by any number of workers. -/
inductive Event where
  | materialize (eventId : String)
  | insertOutbox (event : OutboxEvent)
  | claim (now leaseUntil : Time) (limit : Nat) (leaseToken : String)
  | deliver (eventId endpointId leaseToken : String) (deliveredAt : Time)
      (responseStatus : Option Nat)
  | fail (eventId endpointId leaseToken : String) (failedAt retryAt : Time) (maxAttempts : Nat)
      (responseStatus : Option Nat) (lastError : String)
  | replay (applicationId : ApplicationId) (endpointId eventId : String) (replayedAt : Time)
  /-- The rows that fall with their event or their endpoint. -/
  | remove (rows : WebhookDelivery → Bool)
  /-- Whatever the rest of the program does to the events and the endpoints. -/
  | world (events : Table OutboxEvent) (endpoints : Table WebhookEndpoint)

/-- The attempt limit that a failure is recorded under. -/
def Event.maxAttempts : Event → Option Nat
  | .fail _ _ _ _ _ maxAttempts _ _ => some maxAttempts
  | .materialize _ | .insertOutbox _ | .claim _ _ _ _ | .deliver _ _ _ _ _ | .replay _ _ _ _
  | .remove _ | .world _ _ => none

def tick (clock : Time) (now : Time) : Time := max clock (postgresTime now)

section Step

variable [UuidText]

/-- The delivery of an acknowledgement, with its token. -/
def acknowledged (db : Database) (eventId endpointId leaseToken : String)
    (grants : List Grant) : List Grant :=
  match db.deliveries.find? (eventId, endpointId), UuidText.canonical leaseToken with
  | some row, some token => acknowledge row.historyId token grants
  | _, _ => grants

def claim (history : History) (now leaseUntil : Time) (limit : Nat) (leaseToken : String) :
    History :=
  if leaseToken ∈ history.issued then history
  else match (claimWebhookDeliveries now leaseUntil limit leaseToken).run history.db with
    | .ok (_, db) =>
        { db
          grants := (claimable (postgresTime now) limit history.db).map
            (⟨·.historyId, leaseToken, postgresTime leaseUntil, false⟩) ++ history.grants
          issued := leaseToken :: history.issued
          clock := tick history.clock now }
    | .error _ => { history with clock := tick history.clock now }

def step (history : History) : Event → History
  | .materialize eventId =>
      { history with db := (materializeDeliveries eventId).commit history.db }
  | .insertOutbox event => { history with db := (insertOutbox event).commit history.db }
  | .claim now leaseUntil limit leaseToken => claim history now leaseUntil limit leaseToken
  | .deliver eventId endpointId leaseToken deliveredAt responseStatus =>
      match (markWebhookDeliveryDeliveredWithStatus eventId endpointId leaseToken deliveredAt
        responseStatus).run history.db with
      | .ok (true, db) =>
          { history with
            db
            grants := acknowledged history.db eventId endpointId leaseToken history.grants
            clock := tick history.clock deliveredAt }
      | .ok (false, db) => { history with db, clock := tick history.clock deliveredAt }
      | .error _ => { history with clock := tick history.clock deliveredAt }
  | .fail eventId endpointId leaseToken failedAt retryAt maxAttempts responseStatus lastError =>
      match (recordWebhookDeliveryFailureWithStatus eventId endpointId leaseToken failedAt retryAt
        maxAttempts responseStatus lastError).run history.db with
      | .ok (some _, db) =>
          { history with
            db
            grants := acknowledged history.db eventId endpointId leaseToken history.grants
            clock := tick history.clock failedAt }
      | .ok (none, db) => { history with db, clock := tick history.clock failedAt }
      | .error _ => { history with clock := tick history.clock failedAt }
  | .replay applicationId endpointId eventId replayedAt =>
      { history with
        db := (replayWebhookDelivery applicationId endpointId eventId replayedAt).commit
          history.db }
  | .remove rows =>
      { history with
        db := { history.db with
          deliveries := history.db.deliveries.deleteWhere rows } }
  | .world events endpoints => { history with db := { history.db with events, endpoints } }

def deliveries : System History Event where
  init history :=
    history.db.deliveries = ∅ ∧ history.grants = [] ∧ history.issued = []
  step := step

end Step

theorem latestGrant_acknowledge (historyId historyId' : Nat) (leaseToken : String)
    (grants : List Grant) :
    latestGrant historyId (acknowledge historyId' leaseToken grants) =
      (latestGrant historyId grants).map fun grant =>
        if grant.historyId = historyId' ∧ grant.leaseToken = leaseToken then
          { grant with acknowledged := true }
        else grant := by
  have hsame : ((fun grant : Grant => decide (grant.historyId = historyId)) ∘ fun grant : Grant =>
      if grant.historyId = historyId' ∧ grant.leaseToken = leaseToken then
        { grant with acknowledged := true }
      else grant) = fun grant => decide (grant.historyId = historyId) := by
    funext grant
    dsimp only [Function.comp]
    split <;> rfl
  rw [latestGrant, acknowledge, List.find?_map, hsame]
  rfl

theorem historyId_of_latestGrant {historyId : Nat} {grants : List Grant} {grant : Grant}
    (h : latestGrant historyId grants = some grant) : grant.historyId = historyId := by
  simpa using List.find?_some h

theorem mem_of_latestGrant {historyId : Nat} {grants : List Grant} {grant : Grant}
    (h : latestGrant historyId grants = some grant) : grant ∈ grants :=
  List.mem_of_find?_eq_some h

theorem latestGrant_acknowledge_ne {historyId historyId' : Nat} {leaseToken : String}
    {grants : List Grant} (h : historyId ≠ historyId') :
    latestGrant historyId (acknowledge historyId' leaseToken grants) =
      latestGrant historyId grants := by
  rw [latestGrant_acknowledge]
  cases hlatest : latestGrant historyId grants with
  | none => rfl
  | some grant =>
      have hid : grant.historyId ≠ historyId' := historyId_of_latestGrant hlatest ▸ h
      simp [hid]

/-- The grants of one claim. -/
theorem latestGrant_claimed {rows : List WebhookDelivery} {leaseToken : String}
    {leasedUntil : Time} {grants : List Grant} (historyId : Nat) :
    latestGrant historyId (rows.map
        (fun row => (⟨row.historyId, leaseToken, leasedUntil, false⟩ : Grant)) ++ grants) =
      if ∃ row ∈ rows, row.historyId = historyId then
        some ⟨historyId, leaseToken, leasedUntil, false⟩
      else latestGrant historyId grants := by
  induction rows with
  | nil => simp
  | cons row rows ih =>
      rw [latestGrant] at ih
      rw [latestGrant, List.map_cons, List.cons_append, List.find?_cons]
      by_cases hid : row.historyId = historyId
      · simp [hid]
      · simp only [hid, decide_false, List.mem_cons, exists_eq_or_imp, false_or]
        exact ih

inductive RowStep (id : String × String) :
    Event → Option WebhookDelivery → Option WebhookDelivery → Prop
  | kept {event : Event} {row : Option WebhookDelivery} : RowStep id event row row
  | created {event : Event} {outboxEvent : OutboxEvent} {endpoint : WebhookEndpoint}
      {historyId : Nat} : RowStep id event none (some (newDelivery outboxEvent endpoint historyId))
  | removed {rows : WebhookDelivery → Bool} {row : WebhookDelivery} :
      RowStep id (.remove rows) (some row) none
  | leased {now leaseUntil : Time} {limit : Nat} {leaseToken : String} {row : WebhookDelivery}
      (claimable : isClaimable (postgresTime now) row = true) :
      RowStep id (.claim now leaseUntil limit leaseToken) (some row)
        (some (lease leaseToken (postgresTime leaseUntil) (postgresTime now) row))
  | delivered {leaseToken token : String} {deliveredAt : Time} {responseStatus : Option Nat}
      {row : WebhookDelivery} (holds : holdsLease token (postgresTime deliveredAt) row = true) :
      RowStep id (.deliver id.1 id.2 leaseToken deliveredAt responseStatus) (some row)
        (some (deliver (postgresTime deliveredAt) responseStatus row))
  | failed {leaseToken token lastError : String} {failedAt retryAt : Time} {maxAttempts : Nat}
      {responseStatus : Option Nat} {row : WebhookDelivery} (some_attempt : maxAttempts ≠ 0)
      (holds : holdsLease token (postgresTime failedAt) row = true) :
      RowStep id (.fail id.1 id.2 leaseToken failedAt retryAt maxAttempts responseStatus lastError)
        (some row) (some (recordFailure maxAttempts (postgresTime retryAt) (postgresTime failedAt)
          responseStatus lastError row))
  | replayed {applicationId : ApplicationId} {replayedAt : Time} {row : WebhookDelivery}
      (finished : isFinished row = true) :
      RowStep id (.replay applicationId id.2 id.1 replayedAt) (some row)
        (some (Webhook.replay (postgresTime replayedAt) row))

/-- New deliveries take the place of none. -/
def RowCreated (id : String × String) (db db' : Database) : Prop :=
  db'.deliveries.find? id = db.deliveries.find? id ∨
    db.deliveries.find? id = none ∧ ∃ event endpoint historyId,
      db'.deliveries.find? id = some (newDelivery event endpoint historyId)

theorem RowCreated.insertDelivery {id : String × String} {db db' : Database}
    (h : RowCreated id db db') (event : OutboxEvent) (endpoint : WebhookEndpoint) :
    RowCreated id db { db' with
      deliveries := db'.deliveries.insert (newDelivery event endpoint db'.nextHistoryId)
      nextHistoryId := db'.nextHistoryId + 1 } := by
  unfold RowCreated
  cases hnew : db'.deliveries.find? (Keyed.key (newDelivery event endpoint db'.nextHistoryId)) with
  | some row =>
      rw [Table.insert_of_taken (by rw [hnew]; rfl)]
      exact h
  | none =>
      rw [Table.find?_insert hnew]
      split
      · rename_i hid
        refine Or.inr ⟨?_, event, endpoint, _, rfl⟩
        rcases h with hsame | ⟨hnone, _⟩
        · rw [← hsame, ← hid]
          exact hnew
        · exact hnone
      · exact h

theorem rowCreated_materialize {id eventId} {db db' : Database} {u : Unit}
    (h : (materializeDeliveries eventId).run db = .ok (u, db')) : RowCreated id db db' := by
  simp only [materializeDeliveries, run_bind_ok, run_query_ok] at h
  obtain ⟨event, _, ⟨_, rfl⟩, hrest⟩ := h
  cases event with
  | none =>
      simp only [run_pure_ok] at hrest
      exact Or.inl (by rw [hrest.2])
  | some event =>
      simp only [run_bind_ok, run_query_ok] at hrest
      obtain ⟨endpoints, _, ⟨_, rfl⟩, hinserted⟩ := hrest
      refine forEach_invariant (P := RowCreated id db) ?_ (Or.inl rfl) hinserted
      intro endpoint _ db₁ db₂ hcreated hinsert
      simp only [insertDelivery, run_write_ok] at hinsert
      subst hinsert
      exact hcreated.insertDelivery event endpoint

theorem RowCreated.rowStep {id : String × String} {db db' : Database} (h : RowCreated id db db')
    (event : Event) : RowStep id event (db.deliveries.find? id) (db'.deliveries.find? id) := by
  rcases h with hsame | ⟨hnone, outboxEvent, endpoint, historyId, hnew⟩
  · rw [hsame]
    exact .kept
  · rw [hnone, hnew]
    exact .created

theorem rowStep_update {id id' : String × String} {event : Event} {db : Database}
    {row : WebhookDelivery} {f : Update WebhookDelivery}
    (hfind : db.deliveries.find? id' = some row)
    (h : id = id' → RowStep id event (some row) (some (f row))) :
    RowStep id event (db.deliveries.find? id) ((db.deliveries.update id' f).find? id) := by
  rw [Table.find?_update]
  split
  · rename_i hid
    rw [hid, hfind]
    exact hid ▸ h hid
  · exact .kept

variable [UuidText]

theorem rowStep_step (history : History) (event : Event) (id : String × String) :
    RowStep id event (history.db.deliveries.find? id)
      ((step history event).db.deliveries.find? id) := by
  cases event with
  | materialize eventId =>
      rcases (materializeDeliveries eventId).commit_cases history.db with ⟨_, hrun⟩ | hsame
      · exact (rowCreated_materialize hrun).rowStep _
      · simp only [step, hsame]
        exact .kept
  | insertOutbox event =>
      rcases (insertOutbox event).commit_cases history.db with ⟨_, hrun⟩ | hsame
      · simp only [insertOutbox, run_bind_ok, run_require_ok, run_write_ok] at hrun
        obtain ⟨_, _, ⟨_, rfl⟩, _, _, rfl, hmaterialized⟩ := hrun
        have hcreated : RowCreated id ((eventRows.map (·.insert event)) history.db) _ :=
          rowCreated_materialize hmaterialized
        exact hcreated.rowStep _
      · simp only [step, hsame]
        exact .kept
  | claim now leaseUntil limit leaseToken =>
      simp only [step, claim]
      split
      · exact .kept
      · split
        · rename_i hrun
          obtain ⟨_, rfl⟩ := run_claimWebhookDeliveries_ok hrun
          show RowStep id _ _ ((history.db.deliveries.updateWhere _ _).find? id)
          rw [Table.find?_updateWhere]
          cases hfind : history.db.deliveries.find? id with
          | none => exact .kept
          | some row =>
              by_cases hclaimed : row ∈ claimable (postgresTime now) limit history.db
              · simp only [Option.map_some, hclaimed, decide_true, if_true]
                exact .leased (of_mem_claimable hclaimed).2
              · simp only [Option.map_some, hclaimed, decide_false, Bool.false_eq_true, if_false]
                exact .kept
        · exact .kept
  | deliver eventId endpointId leaseToken deliveredAt responseStatus =>
      simp only [step]
      split
      · rename_i hrun
        rcases run_markDelivered_ok hrun with ⟨hfalse, _⟩ |
          ⟨_, row, token, hfind, _, hholds, hdb, _⟩
        · cases hfalse
        · dsimp only
          rw [hdb]
          exact rowStep_update hfind fun hid => hid ▸ .delivered hholds
      · rename_i hrun
        rcases run_markDelivered_ok hrun with ⟨_, rfl⟩ | ⟨hfalse, _⟩
        · exact .kept
        · cases hfalse
      · exact .kept
  | fail eventId endpointId leaseToken failedAt retryAt maxAttempts responseStatus lastError =>
      simp only [step]
      split
      · rename_i hrun
        rcases run_recordFailure_ok hrun with ⟨hnone, _⟩ |
          ⟨_, hattempts, row, token, hfind, _, hholds, rfl⟩
        · cases hnone
        · exact rowStep_update hfind fun hid => hid ▸ .failed hattempts hholds
      · rename_i hrun
        rcases run_recordFailure_ok hrun with ⟨_, rfl⟩ | ⟨hsome, _⟩
        · exact .kept
        · cases hsome
      · exact .kept
  | replay applicationId endpointId eventId replayedAt =>
      simp only [step]
      rcases (replayWebhookDelivery applicationId endpointId eventId replayedAt).commit_cases
        history.db with ⟨_, hrun⟩ | hsame
      · rcases run_replay_ok hrun with ⟨_, hdb⟩ | ⟨_, row, hfind, hfinished, hdb⟩
        · rw [hdb]
          exact .kept
        · rw [hdb]
          exact rowStep_update hfind fun hid => hid ▸ .replayed hfinished
      · rw [hsame]
        exact .kept
  | remove rows =>
      simp only [step, Table.find?_deleteWhere]
      cases history.db.deliveries.find? id with
      | none => exact .kept
      | some row =>
          cases hrow : rows row with
          | true =>
              simp only [Option.filter_some, hrow, Bool.not_true, Bool.false_eq_true, if_false]
              exact .removed
          | false =>
              simp only [Option.filter_some, hrow, Bool.not_false, if_true]
              exact .kept
  | world events endpoints => exact .kept

end MediaHub.Store.Webhook
