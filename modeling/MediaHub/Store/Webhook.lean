import Mathlib.Data.List.Sort
import Mathlib.Tactic.Simps.Basic
import MediaHub.Store.AsyncJob

namespace MediaHub.Store.Webhook

open Relational Relational.Transaction
open MediaHub.Core
open AsyncJobs (UuidText)

structure OutboxEvent where
  id : String
  applicationId : ApplicationId
  eventType : String
  aggregateId : String
  payload : String
  attempts : Nat
  availableAt : Time
  leasedUntil : Option Time
  leaseToken : Option String
  deliveredAt : Option Time
  createdAt : Time

structure WebhookEndpoint where
  id : String
  applicationId : ApplicationId
  url : String
  secretCiphertext : String
  secretKeyVersion : Nat
  subscribedEvents : List String
  enabled : Bool

/-- A row of `webhook_deliveries`; `historyId` is drawn from a sequence and never used again. -/
structure WebhookDelivery where
  eventId : String
  endpointId : String
  attempts : Nat
  nextAttemptAt : Option Time
  leasedUntil : Option Time
  leaseToken : Option String
  deliveredAt : Option Time
  deadLetteredAt : Option Time
  lastError : Option String
  lastResponseStatus : Option Nat
  replayCount : Nat
  lastReplayedAt : Option Time
  historyId : Nat
  createdAt : Time
  updatedAt : Time
deriving DecidableEq

instance : Keyed OutboxEvent String := ⟨OutboxEvent.id⟩

instance : Keyed WebhookEndpoint String := ⟨WebhookEndpoint.id⟩

instance : Keyed WebhookDelivery (String × String) :=
  ⟨fun delivery => (delivery.eventId, delivery.endpointId)⟩

structure LeasedWebhookDelivery where
  delivery : WebhookDelivery
  event : OutboxEvent
  endpoint : WebhookEndpoint
  leaseToken : String
  leasedUntil : Time

inductive WebhookDeliveryFailureDisposition where
  | retryScheduled (attemptCount : Nat) (nextAttemptAt : Option Time)
  | deadLettered (attemptCount : Nat) (deadLetteredAt : Time)

structure Database where
  events : Table OutboxEvent
  endpoints : Table WebhookEndpoint
  deliveries : Table WebhookDelivery
  nextHistoryId : Nat

@[simps] def eventRows : TableIn Database OutboxEvent :=
  ⟨Database.events, fun f db => { db with events := f db.events }, fun _ _ => rfl⟩

@[simps] def deliveryRows : TableIn Database WebhookDelivery :=
  ⟨Database.deliveries, fun f db => { db with deliveries := f db.deliveries }, fun _ _ => rfl⟩

abbrev Transaction := Relational.Transaction Database RepositoryError

/-- The `CHECK` constraints of `webhook_deliveries`. -/
def rowIsValid (row : WebhookDelivery) : Bool :=
  row.attempts ≤ maxI32 &&
  row.lastResponseStatus.all (fun status => 100 ≤ status && status ≤ 599) &&
  row.leaseToken.isNone = row.leasedUntil.isNone &&
  (row.deliveredAt.isNone || row.deadLetteredAt.isNone)

def validateClaim (now leaseUntil : Time) : Transaction Unit :=
  require (now < leaseUntil) (.invariant "lease must end in the future")

def validateResponseStatus (responseStatus : Option Nat) : Transaction Unit :=
  require (∀ status ∈ responseStatus, 100 ≤ status ∧ status ≤ 599)
    (.invariant "webhook delivery response status is invalid")

def parseLeaseToken [UuidText] (value : String) : Transaction String :=
  orThrow (UuidText.canonical value) (.invariant "lease token is not a UUID")

/-- The row that an event and an endpoint have at first. -/
def newDelivery (event : OutboxEvent) (endpoint : WebhookEndpoint) (historyId : Nat) :
    WebhookDelivery where
  eventId := event.id
  endpointId := endpoint.id
  attempts := 0
  nextAttemptAt := some event.availableAt
  leasedUntil := none
  leaseToken := none
  deliveredAt := none
  deadLetteredAt := none
  lastError := none
  lastResponseStatus := none
  replayCount := 0
  lastReplayedAt := none
  historyId := historyId
  createdAt := event.createdAt
  updatedAt := event.createdAt

/-- `endpoint.application_id = event.application_id AND endpoint.enabled = TRUE AND
endpoint.subscribed_events ? event.event_type` -/
def subscribes (event : OutboxEvent) (endpoint : WebhookEndpoint) : Bool :=
  endpoint.applicationId = event.applicationId && endpoint.enabled &&
  endpoint.subscribedEvents.contains event.eventType

/-- `INSERT ... ON CONFLICT (event_id, endpoint_id) DO NOTHING`, which draws from the sequence
either way. -/
def insertDelivery (event : OutboxEvent) (endpoint : WebhookEndpoint) : Transaction Unit :=
  write fun db => { db with
    deliveries := db.deliveries.insert (newDelivery event endpoint db.nextHistoryId)
    nextHistoryId := db.nextHistoryId + 1 }

def materializeDeliveries (eventId : String) : Transaction Unit := do
  let event ← query fun db => (db.events.find? eventId).filter (·.deliveredAt.isNone)
  match event with
  | none => return ()
  | some event => do
      let endpoints ← query fun db => db.endpoints.rows.filter (subscribes event)
      forEach (insertDelivery event) endpoints

def insertOutbox (event : OutboxEvent) : Transaction Unit := do
  require (event.attempts ≤ maxI32)
    (.invariant "outbox attempts exceeds PostgreSQL INTEGER")
  write (eventRows.map (·.insert event))
  materializeDeliveries event.id

/-- `delivered_at IS NULL AND dead_lettered_at IS NULL AND next_attempt_at <= now AND
(leased_until IS NULL OR leased_until <= now)` -/
def isClaimable (now : Time) (row : WebhookDelivery) : Bool :=
  row.deliveredAt.isNone && row.deadLetteredAt.isNone && row.nextAttemptAt.any (· ≤ now) &&
  row.leasedUntil.all (· ≤ now)

def endpointIsEnabled (db : Database) (row : WebhookDelivery) : Bool :=
  (db.endpoints.find? row.endpointId).any (·.enabled)

/-- `ORDER BY next_attempt_at, event_id, endpoint_id` -/
def attemptedBefore (a b : WebhookDelivery) : Bool :=
  let rest := a.eventId < b.eventId || (a.eventId = b.eventId && a.endpointId ≤ b.endpointId)
  match a.nextAttemptAt, b.nextAttemptAt with
  | some s, some t => s < t || (s = t && rest)
  | some _, none => true
  | none, some _ => false
  | none, none => rest

def claimable (now : Time) (limit : Nat) (db : Database) : List WebhookDelivery :=
  ((db.deliveries.rows.filter fun row => endpointIsEnabled db row && isClaimable now row
    ).insertionSort fun a b => attemptedBefore a b).take limit

def lease (leaseToken : String) (leasedUntil now : Time) : Update WebhookDelivery where
  apply row :=
    { row with leasedUntil := some leasedUntil, leaseToken := some leaseToken, updatedAt := now }
  key_apply _ := rfl

/-- The rows under a token with their events and endpoints. -/
def leasedRows (leaseToken : String) (db : Database) :
    List (WebhookDelivery × OutboxEvent × WebhookEndpoint) :=
  ((db.deliveries.rows.filter (·.leaseToken = some leaseToken)).insertionSort
    fun a b => attemptedBefore a b).filterMap fun row => do
      let event ← db.events.find? row.eventId
      let endpoint ← db.endpoints.find? row.endpointId
      return (row, event, endpoint)

def rowToDelivery (leaseToken : String) (leasedUntil : Time)
    (row : WebhookDelivery × OutboxEvent × WebhookEndpoint) :
    Except RepositoryError LeasedWebhookDelivery :=
  if row.2.1.applicationId ≠ row.2.2.applicationId then
    .error (.invariant "webhook delivery crosses application boundary")
  else .ok ⟨row.1, row.2.1, row.2.2, leaseToken, leasedUntil⟩

/-- `leaseToken` is the fresh `Uuid::new_v4` of the whole batch. The rows are read after the
commit, so an error there does not undo the claim. -/
def claimWebhookDeliveries (now leaseUntil : Time) (limit : Nat) (leaseToken : String) :
    Transaction (Except RepositoryError (List LeasedWebhookDelivery)) := do
  validateClaim now leaseUntil
  if limit = 0 then return .ok []
  else do
    require (limit ≤ maxI64) (.invariant "numeric value exceeds PostgreSQL BIGINT")
    let rows ← query (claimable (postgresTime now) limit)
    write (deliveryRows.map (·.updateWhere (fun row => decide (row ∈ rows))
      (lease leaseToken (postgresTime leaseUntil) (postgresTime now))))
    let leased ← query (leasedRows leaseToken)
    return leased.mapM (rowToDelivery leaseToken leaseUntil)

/-- `delivered_at IS NULL AND dead_lettered_at IS NULL AND lease_token = token AND
leased_until > now` -/
def holdsLease (leaseToken : String) (now : Time) (row : WebhookDelivery) : Bool :=
  row.deliveredAt.isNone && row.deadLetteredAt.isNone && row.leaseToken = some leaseToken &&
  row.leasedUntil.any (now < ·)

def deliver (deliveredAt : Time) (responseStatus : Option Nat) : Update WebhookDelivery where
  apply row :=
    { row with
      deliveredAt := some deliveredAt
      nextAttemptAt := none
      leasedUntil := none
      leaseToken := none
      lastError := none
      lastResponseStatus := responseStatus
      updatedAt := deliveredAt }
  key_apply _ := rfl

def finishEvent (deliveredAt : Time) : Update OutboxEvent where
  apply event :=
    { event with deliveredAt := some deliveredAt, leasedUntil := none, leaseToken := none }
  key_apply _ := rfl

/-- The event is delivered once all of its deliveries are. -/
def allDelivered (db : Database) (event : OutboxEvent) : Bool :=
  event.deliveredAt.isNone && db.deliveries.rows.any (·.eventId = event.id) &&
  db.deliveries.rows.all fun row => row.eventId ≠ event.id || row.deliveredAt.isSome

section Acknowledge

variable [UuidText]

def markWebhookDeliveryDeliveredWithStatus (eventId endpointId leaseToken : String)
    (deliveredAt : Time) (responseStatus : Option Nat) : Transaction Bool := do
  validateResponseStatus responseStatus
  let leaseToken ← parseLeaseToken leaseToken
  let deliveredAt := postgresTime deliveredAt
  let row ← query fun db =>
    (db.deliveries.find? (eventId, endpointId)).filter (holdsLease leaseToken deliveredAt)
  if row.isSome then do
    write (deliveryRows.map (·.update (eventId, endpointId) (deliver deliveredAt responseStatus)))
    write fun db => { db with
      events := db.events.updateWhere (fun event => decide (event.id = eventId) &&
        allDelivered db event) (finishEvent deliveredAt) }
    return true
  else return false

def recordFailure (maxAttempts : Nat) (retryAt failedAt : Time) (responseStatus : Option Nat)
    (lastError : String) : Update WebhookDelivery where
  apply row :=
    { row with
      attempts := row.attempts + 1
      nextAttemptAt := if maxAttempts ≤ row.attempts + 1 then none else some retryAt
      deadLetteredAt := if maxAttempts ≤ row.attempts + 1 then some failedAt else none
      leasedUntil := none
      leaseToken := none
      lastError := some lastError
      lastResponseStatus := responseStatus
      updatedAt := failedAt }
  key_apply _ := rfl

/-- `RETURNING attempts, next_attempt_at, dead_lettered_at` -/
def disposition (row : WebhookDelivery) : WebhookDeliveryFailureDisposition :=
  match row.deadLetteredAt with
  | some deadLetteredAt => .deadLettered row.attempts deadLetteredAt
  | none => .retryScheduled row.attempts row.nextAttemptAt

def recordWebhookDeliveryFailureWithStatus (eventId endpointId leaseToken : String)
    (failedAt retryAt : Time) (maxAttempts : Nat) (responseStatus : Option Nat)
    (lastError : String) : Transaction (Option WebhookDeliveryFailureDisposition) := do
  require (maxAttempts ≠ 0 ∧ failedAt < retryAt ∧ lastError ≠ "")
    (.invariant "webhook failure retry contract is invalid")
  validateResponseStatus responseStatus
  let leaseToken ← parseLeaseToken leaseToken
  require (maxAttempts ≤ maxI32) (.invariant "max attempts exceeds PostgreSQL INTEGER")
  let failedAt := postgresTime failedAt
  let failure := recordFailure maxAttempts (postgresTime retryAt) failedAt responseStatus lastError
  let row ← query fun db =>
    (db.deliveries.find? (eventId, endpointId)).filter (holdsLease leaseToken failedAt)
  match row with
  | none => return none
  | some row => do
      require (rowIsValid (failure row) = true)
        (checkViolation "webhook_deliveries" "webhook_deliveries_check")
      write (deliveryRows.map (·.update (eventId, endpointId) failure))
      return some (disposition (failure row))

end Acknowledge

def isFinished (row : WebhookDelivery) : Bool :=
  row.deliveredAt.isSome || row.deadLetteredAt.isSome

def replay (replayedAt : Time) : Update WebhookDelivery where
  apply row :=
    { row with
      attempts := 0
      nextAttemptAt := some replayedAt
      deliveredAt := none
      deadLetteredAt := none
      leasedUntil := none
      leaseToken := none
      lastError := none
      lastResponseStatus := none
      replayCount := row.replayCount + 1
      lastReplayedAt := some replayedAt
      updatedAt := replayedAt }
  key_apply _ := rfl

def replayWebhookDelivery (applicationId : ApplicationId) (endpointId eventId : String)
    (replayedAt : Time) : Transaction Bool := do
  let replayedAt := postgresTime replayedAt
  let row ← query fun db =>
    if (db.endpoints.find? endpointId).any (·.applicationId = applicationId) then
      (db.deliveries.find? (eventId, endpointId)).filter isFinished
    else none
  if row.isSome then do
    write (deliveryRows.map (·.update (eventId, endpointId) (replay replayedAt)))
    return true
  else return false

end MediaHub.Store.Webhook
