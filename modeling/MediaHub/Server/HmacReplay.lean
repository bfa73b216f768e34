import MediaHub.Store.ReplayNonce
import MediaHub.Transition.System

namespace MediaHub.Server.HmacReplay

open Relational Relational.Transaction
open MediaHub.Core MediaHub.Store.ReplayNonces Transition
open MediaHub.Http (Text FormDecoding Calendar)
open MediaHub.Http.Hmac

section Authorize

variable [ControlText] [ControlCrypto]

/-- The key and the signature, at the two readings of the clock. -/
def authorize (db : Database) (request : PreparedRequest) (now keyNow : Time) :
    Except ApiError AccessKeyRecord :=
  match findActiveAccessKey request.accessKeyId keyNow db with
  | none => .error .unauthorized
  | some accessKey =>
      match ControlCrypto.decrypt accessKey.secretCiphertext accessKey.secretKeyVersion with
      | none => .error .fromAccessKeyCipher
      | some secret =>
          match verifyHmac secret request.signature request.canonical now with
          | .error error => .error (.fromHmac error)
          | .ok () => .ok accessKey

/-- `DateTime::timestamp` drops the fraction of a second. -/
def timestamp (date : Time) : Int := date / Time.nanosPerSecond

/-- The time that the nonce of a request is kept until. -/
def expiresAt (request : PreparedRequest) : Time :=
  Time.seconds (timestamp request.date + maxSignatureAge)

def expiryInRange (request : PreparedRequest) : Except ApiError Time :=
  if Time.inRange (expiresAt request) then .ok (expiresAt request)
  else .error (.badRequest "X-MediaHub-Date is invalid")

def replayError : Store.RepositoryError → ApiError
  | .conflict => .replayDetected
  | error => .fromRepository error

/-- The last step of a mutation, which records its nonce. -/
def recordNonce (db : Database) (request : PreparedRequest) (now : Time)
    (seen : ReplayNonce → Bool) : Except ApiError Database :=
  match expiryInRange request with
  | .error error => .error error
  | .ok expiry =>
      match (recordReplayNonce request.accessKeyId request.nonce expiry now seen).run db with
      | .error error => .error (replayError error)
      | .ok (_, db') => .ok db'

end Authorize

/-- The requests in flight are kept with the readings that were made for them. -/
structure Gateway where
  clock : Time
  db : Database
  received : List (PreparedRequest × Time)
  verified : List PreparedRequest
  recording : List (PreparedRequest × Time)
  accepted : List PreparedRequest

/-- The steps of any number of requests, in any order. -/
inductive Event where
  | advance (now : Time)
  /-- Whatever the rest of the program does to the access keys. -/
  | accessKeys (rows : Table AccessKeyRecord)
  /-- Checks the form of a request and reads the clock for its date. -/
  | receive (request : HmacRequest)
  /-- Reads the clock for the access key and verifies the signature. -/
  | verify (request : PreparedRequest) (now : Time)
  /-- Reads the clock for the nonce. -/
  | read (request : PreparedRequest)
  | record (request : PreparedRequest) (now : Time) (seen : ReplayNonce → Bool)

section Step

variable [FormDecoding] [Calendar] [ControlText] [ControlCrypto]

def step (gateway : Gateway) : Event → Gateway
  | .advance now => { gateway with clock := max gateway.clock now }
  | .accessKeys rows => { gateway with db := { gateway.db with accessKeys := rows } }
  | .receive request =>
      match prepareHmacRequest request with
      | .error _ => gateway
      | .ok prepared => { gateway with received := (prepared, gateway.clock) :: gateway.received }
  | .verify request now =>
      if (request, now) ∈ gateway.received then
        let received := gateway.received.erase (request, now)
        match authorize gateway.db request now gateway.clock with
        | .error _ => { gateway with received }
        | .ok _ =>
            if request.isMutation then
              { gateway with received, verified := request :: gateway.verified }
            else { gateway with received }
      else gateway
  | .read request =>
      if request ∈ gateway.verified then
        { gateway with
          verified := gateway.verified.erase request
          recording := (request, gateway.clock) :: gateway.recording }
      else gateway
  | .record request now seen =>
      if (request, now) ∈ gateway.recording then
        let recording := gateway.recording.erase (request, now)
        match recordNonce gateway.db request now seen with
        | .error _ => { gateway with recording }
        | .ok db => { gateway with db, recording, accepted := request :: gateway.accepted }
      else gateway

def hmacGateway : System Gateway Event where
  init gateway :=
    gateway.db.replayNonces = ∅ ∧ gateway.received = [] ∧ gateway.verified = [] ∧
      gateway.recording = [] ∧ gateway.accepted = []
  step := step

end Step

/-- What a request must not share with another one: its key, its nonce and its date. -/
def replayId (request : PreparedRequest) : (Text × Text) × Time :=
  ((request.accessKeyId, request.nonce), request.date)

def NoReplay (gateway : Gateway) : Prop := (gateway.accepted.map replayId).Nodup

/-- A nonce is recorded before it expires. -/
def InTime (gateway : Gateway) : Event → Prop
  | .record request _ _ => postgresTime gateway.clock < expiresAt request
  | .advance _ | .accessKeys _ | .receive _ | .verify _ _ | .read _ => True

theorem postgresTime_expiresAt (request : PreparedRequest) :
    postgresTime (expiresAt request) = expiresAt request := by
  have hwhole : ∀ seconds : Int, seconds * 1000000000 / 1000 * 1000 = seconds * 1000000000 := by
    intro seconds
    omega
  exact hwhole _

theorem expiresAt_of_replayId {request other : PreparedRequest}
    (h : replayId request = replayId other) : expiresAt request = expiresAt other := by
  have hdate : request.date = other.date := (Prod.mk.inj h).2
  rw [expiresAt, hdate, expiresAt]

theorem recordNonce_ok {db db' : Database} {request : PreparedRequest} {now : Time}
    {seen : ReplayNonce → Bool} :
    recordNonce db request now seen = .ok db' ↔ Time.inRange (expiresAt request) = true ∧
      (recordReplayNonce request.accessKeyId request.nonce (expiresAt request) now seen).run db =
        .ok ((), db') := by
  unfold recordNonce expiryInRange
  split
  · rename_i herror
    split at herror
    · cases herror
    · rename_i hrange
      simp [hrange]
  · rename_i expiry hexpiry
    split at hexpiry
    · rename_i hrange
      cases hexpiry
      split <;> simp_all
    · cases hexpiry

/-- The nonce of an accepted request is kept, or its time is over. -/
def Kept (gateway : Gateway) (request : PreparedRequest) : Prop :=
  (∃ row, gateway.db.replayNonces.find? (request.accessKeyId, request.nonce) = some row ∧
    row.expiresAt = expiresAt request) ∨ expiresAt request ≤ postgresTime gateway.clock

structure Invariant (gateway : Gateway) : Prop where
  kept : ∀ request ∈ gateway.accepted, Kept gateway request
  readings : ∀ reading ∈ gateway.recording, reading.2 ≤ gateway.clock

theorem Invariant.mono {gateway gateway' : Gateway} (h : Invariant gateway)
    (hclock : gateway.clock ≤ gateway'.clock)
    (hnonces : gateway'.db.replayNonces = gateway.db.replayNonces)
    (haccepted : gateway'.accepted = gateway.accepted)
    (hrecording : ∀ reading ∈ gateway'.recording,
      reading ∈ gateway.recording ∨ reading.2 ≤ gateway'.clock) : Invariant gateway' where
  kept := by
    intro request hrequest
    rw [haccepted] at hrequest
    rcases h.kept request hrequest with hrow | hover
    · exact Or.inl (hnonces ▸ hrow)
    · exact Or.inr (Int.le_trans hover (postgresTime_mono hclock))
  readings := by
    intro reading hreading
    rcases hrecording reading hreading with hold | hnew
    · exact Int.le_trans (h.readings reading hold) hclock
    · exact hnew

theorem kept_record {gateway : Gateway} {request other : PreparedRequest} {now : Time}
    {seen : ReplayNonce → Bool} {db : Database} (h : Kept gateway other)
    (hnow : now ≤ gateway.clock) (hrecord : recordNonce gateway.db request now seen = .ok db)
    (recording : List (PreparedRequest × Time)) (accepted : List PreparedRequest) :
    Kept { gateway with db, recording, accepted } other := by
  obtain ⟨_, hrun⟩ := recordNonce_ok.1 hrecord
  obtain ⟨hfree, rfl⟩ := run_recordReplayNonce_ok.1 hrun
  have hlater := postgresTime_mono hnow
  rcases h with ⟨row, hrow, hexpiry⟩ | hover
  · by_cases hexpired : row.expiresAt ≤ postgresTime now
    · exact Or.inr (hexpiry ▸ Int.le_trans hexpired hlater)
    · refine Or.inl ⟨row, ?_, hexpiry⟩
      have hne : (other.accessKeyId, other.nonce) ≠ (request.accessKeyId, request.nonce) := by
        intro heq
        exact hexpired (hfree row (heq ▸ hrow)).1
      rw [find?_recorded hfree, if_neg hne, hrow]
      simp [Option.filter, hexpired]
  · exact Or.inr hover

theorem kept_recorded {gateway : Gateway} {request : PreparedRequest} {now : Time}
    {seen : ReplayNonce → Bool} {db : Database}
    (hrecord : recordNonce gateway.db request now seen = .ok db)
    (recording : List (PreparedRequest × Time)) (accepted : List PreparedRequest) :
    Kept { gateway with db, recording, accepted } request := by
  obtain ⟨_, hrun⟩ := recordNonce_ok.1 hrecord
  obtain ⟨hfree, rfl⟩ := run_recordReplayNonce_ok.1 hrun
  refine Or.inl ⟨_, (find?_recorded hfree _).trans (if_pos rfl), ?_⟩
  exact postgresTime_expiresAt request

/-- A request whose nonce is still kept is refused. -/
theorem Kept.not_recorded {gateway : Gateway} {request other : PreparedRequest} {now : Time}
    {seen : ReplayNonce → Bool} {db : Database} (h : Kept gateway other)
    (hid : replayId request = replayId other) (hnow : now ≤ gateway.clock)
    (hlater : postgresTime gateway.clock < expiresAt request) :
    recordNonce gateway.db request now seen ≠ .ok db := by
  intro hrecord
  obtain ⟨_, hrun⟩ := recordNonce_ok.1 hrecord
  obtain ⟨hfree, _⟩ := run_recordReplayNonce_ok.1 hrun
  have hexpiry := expiresAt_of_replayId hid
  have hkey : (request.accessKeyId, request.nonce) = (other.accessKeyId, other.nonce) :=
    (Prod.mk.inj hid).1
  rcases h with ⟨row, hrow, hrowExpiry⟩ | hover
  · have hexpired := (hfree row (hkey ▸ hrow)).1
    rw [hrowExpiry, ← hexpiry] at hexpired
    exact Int.not_le.2 hlater (Int.le_trans hexpired (postgresTime_mono hnow))
  · exact Int.not_le.2 hlater (hexpiry ▸ hover)

section Run

variable [FormDecoding] [Calendar] [ControlText] [ControlCrypto]

theorem Invariant.step {gateway : Gateway} (h : Invariant gateway) (event : Event) :
    Invariant (step gateway event) := by
  cases event with
  | advance now => exact h.mono (Int.le_max_left _ _) rfl rfl fun _ hreading => Or.inl hreading
  | accessKeys rows => exact h.mono (Int.le_refl _) rfl rfl fun _ hreading => Or.inl hreading
  | receive request =>
      simp only [HmacReplay.step]
      split
      · exact h
      · exact h.mono (Int.le_refl _) rfl rfl fun _ hreading => Or.inl hreading
  | verify request now =>
      simp only [HmacReplay.step]
      repeat' split
      all_goals exact h.mono (Int.le_refl _) rfl rfl fun _ hreading => Or.inl hreading
  | read request =>
      simp only [HmacReplay.step]
      split
      · refine h.mono (Int.le_refl _) rfl rfl fun reading hreading => ?_
        rcases List.mem_cons.1 hreading with rfl | hold
        · exact Or.inr (Int.le_refl _)
        · exact Or.inl hold
      · exact h
  | record request now seen =>
      simp only [HmacReplay.step]
      split
      · rename_i hmem
        split
        · exact h.mono (Int.le_refl _) rfl rfl fun _ hreading =>
            Or.inl (List.mem_of_mem_erase hreading)
        · rename_i db hrecord
          refine ⟨?_, fun reading hreading => h.readings reading (List.mem_of_mem_erase hreading)⟩
          intro other hother
          rcases List.mem_cons.1 hother with rfl | hold
          · exact kept_recorded hrecord _ _
          · exact kept_record (h.kept other hold) (h.readings _ hmem) hrecord _ _
      · exact h

theorem invariant_of_reachable {gateway : Gateway} (h : hmacGateway.Reachable gateway) :
    Invariant gateway := by
  refine h.invariant ?_ fun _ event hs => hs.step event
  rintro gateway ⟨_, _, _, hrecording, haccepted⟩
  refine ⟨?_, ?_⟩
  · rw [haccepted]
    exact fun _ hrequest => absurd hrequest List.not_mem_nil
  · rw [hrecording]
    exact fun _ hreading => absurd hreading List.not_mem_nil

theorem noReplay_step {gateway : Gateway} (hinv : Invariant gateway) (h : NoReplay gateway)
    {event : Event} (hevent : InTime gateway event) : NoReplay (step gateway event) := by
  cases event with
  | advance | accessKeys => exact h
  | receive request =>
      simp only [HmacReplay.step]
      split <;> exact h
  | verify request now =>
      simp only [HmacReplay.step]
      repeat' split
      all_goals exact h
  | read request =>
      simp only [HmacReplay.step]
      split <;> exact h
  | record request now seen =>
      simp only [HmacReplay.step]
      split
      · rename_i hmem
        split
        · exact h
        · rename_i db hrecord
          refine List.nodup_cons.2 ⟨?_, h⟩
          intro hreplayed
          obtain ⟨other, hother, hid⟩ := List.mem_map.1 hreplayed
          exact (hinv.kept other hother).not_recorded hid.symm (hinv.readings _ hmem) hevent hrecord
      · exact h

/-- The steps of a request that nothing comes between. -/
def send (gateway : Gateway) (request : HmacRequest) : Gateway :=
  match prepareHmacRequest request with
  | .error _ => gateway
  | .ok prepared =>
      hmacGateway.run gateway [.receive request, .verify prepared gateway.clock, .read prepared,
        .record prepared gateway.clock fun _ => true]

/-- The gateway takes the request up to the point where it records the nonce. -/
structure Verified (gateway : Gateway) (request : HmacRequest) (prepared : PreparedRequest) :
    Prop where
  form : prepareHmacRequest request = .ok prepared
  mutation : prepared.isMutation = true
  authorized : ∃ accessKey,
    authorize gateway.db prepared gateway.clock gateway.clock = .ok accessKey
  inRange : Time.inRange (expiresAt prepared) = true

theorem step_verify {gateway : Gateway} {request : PreparedRequest} {now : Time}
    {accessKey : AccessKeyRecord} (hmem : (request, now) ∈ gateway.received)
    (hauthorized : authorize gateway.db request now gateway.clock = .ok accessKey)
    (hmutation : request.isMutation = true) :
    step gateway (.verify request now) =
      { gateway with
        received := gateway.received.erase (request, now)
        verified := request :: gateway.verified } := by
  simp only [step, hmem, hauthorized, hmutation, if_true]

theorem step_read {gateway : Gateway} {request : PreparedRequest}
    (hmem : request ∈ gateway.verified) :
    step gateway (.read request) =
      { gateway with
        verified := gateway.verified.erase request
        recording := (request, gateway.clock) :: gateway.recording } := by
  simp only [step, hmem, if_true]

theorem send_eq {gateway : Gateway} {request : HmacRequest} {prepared : PreparedRequest}
    (h : Verified gateway request prepared) :
    send gateway request =
      match recordNonce gateway.db prepared gateway.clock fun _ => true with
      | .error _ => gateway
      | .ok db => { gateway with db, accepted := prepared :: gateway.accepted } := by
  obtain ⟨accessKey, hauthorized⟩ := h.authorized
  have hstep : ∀ (gateway : Gateway) event, hmacGateway.step gateway event = step gateway event :=
    fun _ _ => rfl
  have hreceived : step gateway (.receive request) =
      { gateway with received := (prepared, gateway.clock) :: gateway.received } := by
    simp only [step, h.form]
  have hverified : step { gateway with
        received := (prepared, gateway.clock) :: gateway.received }
      (.verify prepared gateway.clock) =
      { gateway with
        received := ((prepared, gateway.clock) :: gateway.received).erase (prepared, gateway.clock)
        verified := prepared :: gateway.verified } :=
    step_verify List.mem_cons_self hauthorized h.mutation
  rw [List.erase_cons_head] at hverified
  have hread : step { gateway with verified := prepared :: gateway.verified } (.read prepared) =
      { gateway with
        verified := (prepared :: gateway.verified).erase prepared
        recording := (prepared, gateway.clock) :: gateway.recording } :=
    step_read List.mem_cons_self
  rw [List.erase_cons_head] at hread
  simp only [send, h.form, System.run_cons, System.run_nil, hstep]
  rw [hreceived, hverified, hread]
  simp only [step, List.mem_cons_self, if_true, List.erase_cons_head]

/-- Where the nonce is free, a copy of the request is accepted exactly when its time is over. -/
theorem noReplay_copies {gateway : Gateway} (hinv : Invariant gateway) (h : NoReplay gateway)
    {request : HmacRequest} {prepared : PreparedRequest}
    (hverified : Verified gateway request prepared)
    (hfree : ∀ row ∈ gateway.db.replayNonces.find? (prepared.accessKeyId, prepared.nonce),
      row.expiresAt ≤ postgresTime gateway.clock) :
    NoReplay (send (send gateway request) request) ↔
      postgresTime gateway.clock < expiresAt prepared := by
  have hrun : ∀ {gateway : Gateway},
      (∀ row ∈ gateway.db.replayNonces.find? (prepared.accessKeyId, prepared.nonce),
        row.expiresAt ≤ postgresTime gateway.clock) →
      ∃ db, recordNonce gateway.db prepared gateway.clock (fun _ => true) = .ok db ∧
        db.accessKeys = gateway.db.accessKeys ∧
        db.replayNonces.find? (prepared.accessKeyId, prepared.nonce) = some
          ⟨prepared.accessKeyId, prepared.nonce, expiresAt prepared,
            postgresTime gateway.clock⟩ := by
    intro gateway hfree
    have hseen : ∀ row ∈ gateway.db.replayNonces.find? (prepared.accessKeyId, prepared.nonce),
        row.expiresAt ≤ postgresTime gateway.clock ∧ (fun _ : ReplayNonce => true) row = true :=
      fun row hrow => ⟨hfree row hrow, rfl⟩
    refine
      ⟨_, recordNonce_ok.2 ⟨hverified.inRange, run_recordReplayNonce_ok.2 ⟨hseen, rfl⟩⟩, rfl, ?_⟩
    rw [postgresTime_expiresAt, find?_recorded hseen, if_pos rfl]
  obtain ⟨db, hrecord, hkeys, hrow⟩ := hrun hfree
  have hfirst : send gateway request =
      { gateway with db, accepted := prepared :: gateway.accepted } := by
    rw [send_eq hverified, hrecord]
  have hverified' : Verified (send gateway request) request prepared := by
    refine ⟨hverified.form, hverified.mutation, ?_, hverified.inRange⟩
    obtain ⟨accessKey, hauthorized⟩ := hverified.authorized
    refine ⟨accessKey, ?_⟩
    rw [hfirst, ← hauthorized]
    simp only [authorize, findActiveAccessKey, hkeys]
  rw [send_eq hverified', hfirst]
  by_cases hlater : postgresTime gateway.clock < expiresAt prepared
  · have hkept : Kept { gateway with db, accepted := prepared :: gateway.accepted } prepared :=
      kept_recorded hrecord _ _
    simp only [hlater, iff_true]
    split
    · refine List.nodup_cons.2 ⟨?_, h⟩
      intro hreplayed
      obtain ⟨other, hother, hid⟩ := List.mem_map.1 hreplayed
      exact (hinv.kept other hother).not_recorded hid.symm (Int.le_refl _) hlater hrecord
    · rename_i hagain
      exact absurd hagain (hkept.not_recorded rfl (Int.le_refl _) hlater)
  · simp only [hlater, iff_false]
    have hover : ∀ row ∈ db.replayNonces.find? (prepared.accessKeyId, prepared.nonce),
        row.expiresAt ≤ postgresTime gateway.clock := by
      intro row hrow'
      cases hrow.symm.trans hrow'
      exact Int.not_lt.1 hlater
    obtain ⟨db', hagain, _⟩ :=
      @hrun { gateway with db, accepted := prepared :: gateway.accepted } hover
    rw [hagain]
    intro hnodup
    exact (List.nodup_cons.1 hnodup).1 (List.mem_map.2 ⟨prepared, List.mem_cons_self, rfl⟩)

/-- Nonces that are recorded before they expire are used once, whatever the order of the steps;
and of a request that still verifies while its nonce is free, a copy sent at once is refused
exactly when the time of the nonce is not over. -/
theorem hmac_noReplay_iff {gateway₀ : Gateway} (hinit : hmacGateway.init gateway₀)
    (events : List Event) :
    let gateway := hmacGateway.run gateway₀ events
    (hmacGateway.Along InTime gateway₀ events → NoReplay gateway) ∧
    ∀ request prepared, NoReplay gateway → Verified gateway request prepared →
      (∀ row ∈ gateway.db.replayNonces.find? (prepared.accessKeyId, prepared.nonce),
        row.expiresAt ≤ postgresTime gateway.clock) →
      (NoReplay (send (send gateway request) request) ↔
        postgresTime gateway.clock < expiresAt prepared) := by
  intro gateway
  have hinv : Invariant gateway := invariant_of_reachable ⟨gateway₀, events, hinit, rfl⟩
  refine ⟨fun halong => ?_, fun request prepared h => noReplay_copies hinv h⟩
  let P : Gateway → Prop := fun gateway => Invariant gateway ∧ NoReplay gateway
  have hboth : P gateway := by
    refine System.run_invariant_along (P := P)
      (fun _ event hs hevent => ⟨hs.1.step event, noReplay_step hs.1 hs.2 hevent⟩) ?_ halong
    refine ⟨invariant_of_reachable (.of_init hinit), ?_⟩
    obtain ⟨_, _, _, _, haccepted⟩ := hinit
    rw [NoReplay, haccepted]
    exact List.nodup_nil
  exact hboth.2

end Run

namespace Edge

/-- The digest of no bytes. -/
def bodyDigest : List UInt8 :=
  [227, 176, 196, 66, 152, 252, 28, 20, 154, 251, 244, 200, 153, 111, 185, 36, 39, 174, 65,
   228, 100, 155, 147, 76, 164, 149, 153, 27, 120, 82, 184, 85]

def requestDigest : List UInt8 :=
  [99, 176, 149, 242, 198, 162, 140, 96, 5, 149, 211, 227, 11, 79, 186, 197, 253, 89, 30,
   30, 5, 74, 108, 21, 88, 138, 181, 54, 142, 71, 173, 189]

def signatureBytes : List UInt8 :=
  [106, 82, 9, 31, 246, 210, 145, 86, 40, 187, 181, 53, 185, 154, 164, 153, 172, 178, 187,
   7, 57, 62, 70, 155, 143, 246, 136, 29, 60, 42, 170, 67]

def dateText : Text := "2026-07-14T12:00:00Z".toList

def date : Time := Time.seconds 1784030400

def accessKeyHeader : Text := "x-mediahub-".toList ++ "access-key".toList

def dateHeader : Text := "x-mediahub-".toList ++ "date".toList

def digestHeader : Text := "x-mediahub-".toList ++ "content-sha256".toList

def nonceHeader : Text := "x-mediahub-".toList ++ "nonce".toList

def headers : List (Text × Text) :=
  [(accessKeyHeader, "MH1".toList), (digestHeader, hexEncode bodyDigest), (dateHeader, dateText),
    (nonceHeader, "nonce-123".toList)]

def prepared : PreparedRequest where
  accessKeyId := "MH1".toList
  signature := hexEncode signatureBytes
  canonical :=
    { method := "POST".toList
      path := "/api/v1/media".toList
      query := []
      headers := headers
      bodySha256 := hexEncode bodyDigest
      timestamp := date
      nonce := "nonce-123".toList
      idempotencyKey := none }
  isMutation := true
  requestHash := hexEncode requestDigest

def authorization : Text :=
  "MH-HMAC-SHA256 ".toList ++ "SignedHeaders=".toList ++
    [','].intercalate [accessKeyHeader, digestHeader, dateHeader, nonceHeader] ++
      "; Signature=".toList ++ prepared.signature

def request : HmacRequest where
  method := "POST".toList
  uri := ⟨none, none, "/api/v1/media".toList, none, by decide⟩
  headers := (("authorization".toList, authorization) :: headers).map fun header =>
    (header.1, Http.HeaderValue.ofText header.2)
  body := []

def secret : List UInt8 := [112, 114, 105, 118, 97, 116, 101]

/-- The digests that the request needs. -/
abbrev crypto : ControlCrypto where
  sha256 bytes := if bytes = [] then bodyDigest else requestDigest
  hmacSha256 key _ := if key = secret then signatureBytes else []
  decrypt _ _ := some secret

abbrev texts : ControlText where
  parseFromRfc3339 text := if text = dateText then some date else none
  toRfc3339Secs _ := dateText
  serializeForm _ := []

abbrev form : FormDecoding := ⟨id⟩

abbrev calendar : Calendar := ⟨fun _ => none, fun _ => []⟩

def accessKey : AccessKeyRecord where
  accessKeyId := "MH1".toList
  applicationId := 1
  secretCiphertext := []
  secretKeyVersion := 1
  permissions := []
  expiresAt := none
  revokedAt := none

def start : Gateway := ⟨date, ⟨Table.insert ∅ accessKey, ∅⟩, [], [], [], []⟩

/-- A request whose nonce is recorded a moment after its date is checked. -/
def copy (checked recorded : Time) : List Event :=
  [.advance checked, .receive request, .verify prepared checked, .advance recorded, .read prepared,
    .record prepared recorded fun _ => true]

/-- The second copy is checked at the end of the window. -/
def copies : List Event :=
  copy (date + Time.seconds 60) (date + Time.seconds 61) ++
    copy (date + Time.seconds 300) (date + Time.seconds 300 + 1000)

end Edge

instance (gateway : Gateway) : Decidable (NoReplay gateway) :=
  inferInstanceAs (Decidable (List.Nodup _))

theorem not_noReplay_copies :
    (@hmacGateway Edge.form Edge.calendar Edge.texts Edge.crypto).init Edge.start ∧
      ¬ NoReplay ((@hmacGateway Edge.form Edge.calendar Edge.texts Edge.crypto).run Edge.start
        Edge.copies) := by
  refine ⟨⟨rfl, rfl, rfl, rfl, rfl⟩, ?_⟩
  decide +kernel

/-- At the end of the window the first copy in time has left nothing that stops another two. -/
theorem hmac_noReplay_iff_edge :
    let system := @hmacGateway Edge.form Edge.calendar Edge.texts Edge.crypto
    let events := Edge.copy (Edge.date + Time.seconds 60) (Edge.date + Time.seconds 61)
    NoReplay (system.run Edge.start events) ∧
    (NoReplay (@send Edge.form Edge.calendar Edge.texts Edge.crypto
      (@send Edge.form Edge.calendar Edge.texts Edge.crypto
        (system.run Edge.start [.advance (Edge.date + Time.seconds 300)]) Edge.request)
          Edge.request) ↔
      postgresTime (Edge.date + Time.seconds 300) < expiresAt Edge.prepared) := by
  intro system events
  have hinit : system.init Edge.start := ⟨rfl, rfl, rfl, rfl, rfl⟩
  have hinTime : system.Along InTime Edge.start events := by
    refine ⟨trivial, trivial, trivial, trivial, trivial, ?_, trivial⟩
    show postgresTime _ < expiresAt Edge.prepared
    decide +kernel
  have hverified : @Verified Edge.form Edge.calendar Edge.texts Edge.crypto
      (system.run Edge.start [.advance (Edge.date + Time.seconds 300)]) Edge.request
        Edge.prepared :=
    @Verified.mk Edge.form Edge.calendar Edge.texts Edge.crypto _ _ _ (by decide +kernel) rfl
      ⟨Edge.accessKey, by decide +kernel⟩ (by decide +kernel)
  have hnone : (system.run Edge.start [.advance (Edge.date + Time.seconds 300)]
      ).db.replayNonces.find? (Edge.prepared.accessKeyId, Edge.prepared.nonce) = none := rfl
  refine ⟨(@hmac_noReplay_iff Edge.form Edge.calendar Edge.texts Edge.crypto _ hinit events).1
      hinTime, (@hmac_noReplay_iff Edge.form Edge.calendar Edge.texts Edge.crypto _ hinit
      [.advance (Edge.date + Time.seconds 300)]).2 Edge.request Edge.prepared ?_ hverified ?_⟩
  · decide +kernel
  · rw [hnone]
    exact fun _ hrow => absurd hrow (by simp)

end MediaHub.Server.HmacReplay
