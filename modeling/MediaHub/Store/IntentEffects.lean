import MediaHub.Store.Effect

namespace MediaHub.Store

open Relational
open MediaHub.Core

theorem fromPersistence_self {intent row : UploadIntent}
    (h : intent.fromPersistence = .ok row) : row = intent := by
  unfold UploadIntent.fromPersistence at h
  repeat' split at h
  all_goals first
    | exact (Except.ok.inj h).symm
    | cases h

/-- A consistent row is checked field by field. -/
theorem fromPersistence_ok {intent : UploadIntent} :
    intent.fromPersistence = .ok intent ↔
      validObjectKey intent.objectKey ∧
      (intent.temporaryStorageKey ≠ intent.finalStorageKey ∧
        intent.createdAt < intent.expiresAt) ∧
      (intent.factCount = 0 ∨ intent.factCount = 3) ∧
      (∀ size, intent.sizeBytes = some size → size = intent.expectedSizeBytes) ∧
      intent.stateIsValid ∧ intent.leaseToken.isSome = intent.leaseUntil.isSome ∧
      intent.committedObjectId.isSome = intent.committedVersionId.isSome ∧
      (∀ token, intent.leaseToken = some token → validToken token) := by
  unfold UploadIntent.fromPersistence
  constructor
  · intro h
    split at h
    · cases h
    rename_i hkey
    split at h
    · cases h
    rename_i hfence
    split at h
    · cases h
    rename_i hfacts
    split at h
    · cases h
    rename_i hsize
    split at h
    · cases h
    rename_i hstate
    simp only [not_or, Int.not_le] at hfence
    simp only [not_or, Bool.not_eq_true, Bool.not_eq_false', ne_eq, not_not] at hstate
    refine ⟨by simpa using hkey, hfence, by omega, ?_, hstate.1, hstate.2.1, hstate.2.2.1, ?_⟩
    · intro size hsome
      simpa [hsome] using hsize
    · intro token hsome
      simpa [hsome] using hstate.2.2.2
  · rintro ⟨hkey, ⟨hfence, htime⟩, hfacts, hsize, hstate, hlease, hcommit, htoken⟩
    rw [if_neg (by simp [hkey]), if_neg (by simp [hfence, htime]), if_neg (by omega),
      if_neg, if_neg]
    · simp only [hstate, hlease, hcommit, not_or, Bool.not_true, Bool.false_eq_true,
        not_false_eq_true, ne_eq, not_true_eq_false, true_and]
      cases hsome : intent.leaseToken with
      | none => simp
      | some token => simp [htoken token hsome]
    · cases hsome : intent.sizeBytes with
      | none => simp
      | some size => simp [hsize size hsome]

@[simp] theorem lockUploadIntent_ok {intentId : UploadIntentId} {intent : UploadIntent}
    {db db' : Database} :
    (lockUploadIntent intentId).run db = .ok (intent, db') ↔
      (intent ∈ db.uploadIntents ∧ intent.id = intentId ∧
        intent.fromPersistence = .ok intent) ∧ db = db' := by
  simp only [lockUploadIntent, Transaction.run_bind_ok, Transaction.run_selectRow_ok,
    run_domain_ok]
  constructor
  · rintro ⟨row, _, ⟨⟨hrow, hid⟩, rfl⟩, hconsistent, rfl⟩
    cases fromPersistence_self hconsistent
    exact ⟨⟨hrow, hid, hconsistent⟩, rfl⟩
  · rintro ⟨⟨hrow, hid, hconsistent⟩, rfl⟩
    exact ⟨intent, db, ⟨⟨hrow, hid⟩, rfl⟩, hconsistent, rfl⟩

/-- The row of a consistent intent is consistent once its times are in order. -/
theorem fromPersistence_persisted {intent : UploadIntent}
    (h : intent.fromPersistence = .ok intent) (hvalid : UploadIntent.rowIsValid intent) :
    (UploadIntent.persisted intent).fromPersistence = .ok (UploadIntent.persisted intent) := by
  obtain ⟨hkey, ⟨hfence, -⟩, hrest⟩ := fromPersistence_ok.1 h
  simp only [UploadIntent.rowIsValid, Bool.and_eq_true, decide_eq_true_eq] at hvalid
  exact fromPersistence_ok.2 ⟨hkey, ⟨hfence, hvalid.1⟩, hrest⟩

theorem isLive_eq_false {state : UploadIntentState} (h : state.isLive = false)
    (hcommitted : state ≠ .committed) : state = .aborted ∨ state = .expired := by
  cases state <;> simp_all [UploadIntentState.isLive]

theorem releaseS3UploadIntentQuota_ok {intent : UploadIntent} {db db' : Database} {u : Unit}
    (h : (releaseS3UploadIntentQuota intent).run db = .ok (u, db')) :
    CanCharge db intent.applicationId (fun a => intent.expectedSizeBytes ≤ a.reservedBytes)
        (Application.release intent.expectedSizeBytes) ∧
      db' = db.mapApplications (·.update intent.applicationId
        (Application.release intent.expectedSizeBytes)) :=
  (releaseBytes_ok.1 h).2

/-- The two tasks that a cleanup template stands for. -/
def templateTasks (intent : UploadIntent) (template : NewStorageGcTask) :
    List NewStorageGcTask :=
  [{ template with locator := { template.locator with key := intent.temporaryStorageKey } },
    { template with locator := { template.locator with key := intent.finalStorageKey } }]

theorem enqueueUploadIntentCleanup_ok {intent : UploadIntent} {template : NewStorageGcTask}
    {db db' : Database} {u : Unit} (hbackend : template.locator.backend = intent.storageBackend)
    (hnames : NamesIntent template.provenance intent)
    (h : (enqueueUploadIntentCleanup intent template).run db = .ok (u, db')) :
    QueuesIntent db.storageGcTasks intent (templateTasks intent template) ∧
      db' = { db with
        storageGcTasks := queueTasks db.storageGcTasks (templateTasks intent template) } := by
  simp only [enqueueUploadIntentCleanup, Transaction.run_bind_ok, insertStorageGcTask_ok] at h
  obtain ⟨_, _, ⟨⟨-, -, htemporary⟩, rfl⟩, ⟨-, -, hfinal⟩, rfl⟩ := h
  refine ⟨⟨?_, ?_, htemporary, hfinal, trivial⟩, rfl⟩
  · simp [templateTasks, UploadIntent.temporaryLocator, UploadIntent.finalLocator, hbackend]
  · intro task htask
    simp only [templateTasks, List.mem_cons, List.not_mem_nil, or_false] at htask
    rcases htask with rfl | rfl <;> exact hnames

theorem ok_of_map_ok {α β ε : Type} {f : α → β} {value : Except ε α} {b : β}
    (h : value.map f = .ok b) : ∃ a, value = .ok a := by
  cases value with
  | ok a => exact ⟨a, rfl⟩
  | error e => cases h

/-- A loop of pure checks. -/
theorem run_forEach_domain_ok {α : Type} {check : α → Except S3ModelError Unit} {items : List α}
    {db db' : Database} {u : Unit} :
    (forEach (fun item => domain (check item)) items).run db = .ok (u, db') ↔
      (∀ item ∈ items, check item = .ok ()) ∧ db = db' := by
  induction items with
  | nil => simp
  | cons item items ih =>
      rw [Transaction.run_forEach_cons_ok]
      simp only [run_domain_ok]
      constructor
      · rintro ⟨_, ⟨hitem, rfl⟩, hrest⟩
        obtain ⟨hitems, rfl⟩ := ih.1 hrest
        exact ⟨by simpa [hitem] using hitems, rfl⟩
      · rintro ⟨hall, rfl⟩
        exact ⟨db, ⟨hall item List.mem_cons_self, rfl⟩,
          ih.2 ⟨fun other hother => hall other (List.mem_cons_of_mem _ hother), rfl⟩⟩

section

variable [Md5] {licence : Licence} {db db' : Database}

theorem createUploadIntent_effect {intent : UploadIntent} {u : Unit}
    (hconsistent : intent.fromPersistence = .ok intent)
    (htemporary : intent.temporaryStorageKey = .staging intent.id intent.proposedVersionId)
    (hfinal : intent.finalStorageKey =
      .object intent.applicationId intent.bucketId intent.proposedVersionId)
    (hunversioned : db.objectVersions.find? intent.proposedVersionId = none)
    (hmints : licence.mints intent.proposedVersionId)
    (h : (createUploadIntent intent).run db = .ok (u, db')) : Effect licence db db' := by
  simp only [createUploadIntent, reserveS3UploadIntentQuota, Transaction.run_bind_ok,
    Transaction.run_require_ok, lockS3QuotaBucket_ok, reserveBytes_ok,
    Transaction.run_insertRow_ok] at h
  obtain ⟨_, _, ⟨hstaging, rfl⟩, _, _, ⟨hbucket, rfl⟩, _, _, ⟨-, hcharge, rfl⟩, hvalid, hfresh,
    hunproposed, rfl⟩ := h
  obtain ⟨bucket, hbucketRow⟩ := Option.isSome_iff_exists.1 hbucket
  have hrow : NewIntentValid (UploadIntent.persisted intent) db := {
    fresh := hfresh
    unproposed := fun row hmem => of_decide_eq_false (hunproposed row hmem)
    unversioned := hunversioned
    consistent := fromPersistence_persisted hconsistent hvalid
    staging := hstaging
    temporaryKey := htemporary
    finalKey := hfinal
    bucket := ⟨bucket, Database.findBucket_eq_some_iff.1 hbucketRow⟩
    charge := hcharge }
  exact .intentCreated hrow hmints

/-- An update of a live row that is read back consistent is a step of the intent's life. -/
theorem advance_effect {intent row : UploadIntent} {f : Update UploadIntent}
    (hmem : intent ∈ db.uploadIntents) (hfacts : (f intent).facts = intent.facts)
    (hlive : intent.state.isLive) (hlive' : (f intent).state.isLive)
    (hread : row ∈ db.uploadIntents.update intent.id f) (hid : row.id = intent.id)
    (hconsistent : row.fromPersistence = .ok row)
    (hreleases : intent.state = .committing → (f intent).state ≠ .committing →
      licence.releases intent) :
    Effect licence db (db.mapUploadIntents (·.update intent.id f)) := by
  have hrow : row = f intent := by
    rcases (Table.mem_update_of_mem hmem rfl).1 hread with ⟨hold, hne⟩ | heq
    · exact absurd (Table.eq_of_key hold hmem hid) hne
    · exact heq
  exact .intentAdvanced hmem {
    facts_eq := hfacts
    live := hlive
    live' := hlive'
    consistent := hrow ▸ hconsistent } hreleases

theorem completeUploadIntentStaging_effect {intentId : UploadIntentId} {entityTag : EntityTag}
    {checksum : Checksum} {sizeBytes : Nat} {now : Time} {intent : UploadIntent}
    (h : (completeUploadIntentStaging intentId entityTag checksum sizeBytes now).run db =
      .ok (intent, db')) : Effect licence db db' := by
  simp only [completeUploadIntentStaging, asI64, Transaction.run_bind_ok,
    Transaction.run_require_ok, lockUploadIntent_ok, Transaction.run_updateRow_ok] at h
  obtain ⟨old, _, ⟨⟨hmem, rfl, -⟩, rfl⟩, _, _, ⟨⟨hstate, -⟩, rfl⟩, _, _, ⟨-, rfl⟩, _, _,
    ⟨-, rfl⟩, _, _, ⟨-, rfl⟩, ⟨hread, hid, hconsistent⟩, rfl⟩ := h
  exact advance_effect hmem rfl (by simp [hstate, UploadIntentState.isLive]) rfl hread hid
    hconsistent (by simp [hstate])

theorem claimUploadIntent_effect {intentId : UploadIntentId} {leaseToken : String}
    {leaseUntil now : Time} {intent : UploadIntent}
    (h : (claimUploadIntent intentId leaseToken leaseUntil now).run db = .ok (intent, db')) :
    Effect licence db db' := by
  simp only [claimUploadIntent, validateLease, validateToken, uploadIntentWriteMiss,
    Transaction.run_bind_ok, Transaction.run_require_ok, Transaction.run_query_ok,
    lockUploadIntent_ok, Transaction.run_updateRow_ok] at h
  obtain ⟨_, _, ⟨_, _, ⟨-, rfl⟩, -, rfl⟩, _, _, ⟨-, rfl⟩, _, _,
    ⟨⟨old, hmem, rfl, hclaimable, -⟩, rfl⟩, ⟨hread, hid, hconsistent⟩, rfl⟩ := h
  refine advance_effect hmem rfl ?_ rfl hread hid hconsistent fun _ hne => absurd rfl hne
  simp only [UploadIntent.isClaimable, Bool.and_eq_true, Bool.or_eq_true,
    decide_eq_true_eq] at hclaimable
  rcases hclaimable.2 with hready | ⟨hcommitting, -⟩
  · simp [hready, UploadIntentState.isLive]
  · simp [hcommitting, UploadIntentState.isLive]

theorem releaseUploadIntent_effect {intentId : UploadIntentId} {leaseToken : String}
    {now : Time} {intent : UploadIntent}
    (hreleases : ∀ row ∈ db.uploadIntents, row.id = intentId →
      UploadIntent.holdsLease leaseToken (postgresTime now) row → licence.releases row)
    (h : (releaseUploadIntent intentId leaseToken now).run db = .ok (intent, db')) :
    Effect licence db db' := by
  simp only [releaseUploadIntent, validateToken, uploadIntentWriteMiss,
    Transaction.run_bind_ok, Transaction.run_require_ok, Transaction.run_query_ok,
    lockUploadIntent_ok, Transaction.run_updateRow_ok] at h
  obtain ⟨_, _, ⟨-, rfl⟩, _, _, ⟨-, rfl⟩, _, _, ⟨⟨old, hmem, rfl, hholds, -⟩, rfl⟩,
    ⟨hread, hid, hconsistent⟩, rfl⟩ := h
  rw [Bool.and_eq_true] at hholds
  refine advance_effect hmem rfl ?_ rfl hread hid hconsistent fun _ _ =>
    hreleases old hmem rfl hholds.1
  have hstate := hholds.1
  simp only [UploadIntent.holdsLease, Bool.and_eq_true, decide_eq_true_eq] at hstate
  simp [hstate.1.1, UploadIntentState.isLive]

theorem abortUploadIntentAndEnqueueGc_effect {intentId : UploadIntentId}
    {gcTask : NewStorageGcTask} {now : Time} {intent : UploadIntent}
    (h : (abortUploadIntentAndEnqueueGc intentId gcTask now).run db = .ok (intent, db')) :
    Effect licence db db' := by
  simp only [abortUploadIntentAndEnqueueGc, Transaction.run_bind_ok, run_domain_ok,
    lockUploadIntent_ok, Transaction.run_require_ok, lockS3QuotaBucket_ok,
    Transaction.run_ite_ok] at h
  obtain ⟨_, _, ⟨-, rfl⟩, old, _, ⟨⟨hmem, rfl, hconsistent⟩, rfl⟩, _, _, ⟨hstate, rfl⟩, _, _,
    ⟨htemplate, rfl⟩, _, _, ⟨-, rfl⟩, _, _, hqueue, hend⟩ := h
  have htask : gcTask = uploadIntentGcTask old gcTask.locator.key gcTask.notBefore
      gcTask.maxAttempts gcTask.createdAt := by
    simp only [isUploadIntentGcTemplate, Bool.and_eq_true, decide_eq_true_eq] at htemplate
    exact htemplate.1
  have hbackend : gcTask.locator.backend = old.storageBackend := by
    rw [htask]
    rfl
  have hnames : NamesIntent gcTask.provenance old := by
    rw [htask]
    exact ⟨rfl, rfl, rfl, rfl, Or.inl rfl⟩
  obtain ⟨hqueues, rfl⟩ := enqueueUploadIntentCleanup_ok hbackend hnames hqueue
  rcases hend with ⟨hlive, hrest⟩ | ⟨hended, hpure⟩
  · simp only [Transaction.run_updateRow_ok] at hrest
    obtain ⟨_, _, ⟨-, rfl⟩, _, _, hrelease, -, rfl⟩ := hrest
    obtain ⟨hcharge, rfl⟩ := releaseS3UploadIntentQuota_ok hrelease
    let ended : IntentEnd := ⟨old, .aborted, postgresTime now, templateTasks old gcTask⟩
    have hvalid : ended.Valid db := {
      intent_mem := hmem
      consistent := hconsistent
      live := hlive
      terminal := Or.inl rfl
      queues := hqueues
      charge := hcharge }
    exact .intentEnded hvalid
  · obtain ⟨-, rfl⟩ := Transaction.run_pure_ok.1 hpure
    exact .intentRequeued hmem (isLive_eq_false (by simpa using hended) hstate) hqueues

/-- One lapsed intent ends; its row is still the one that was selected. -/
theorem expireUploadIntent_effect {gcMaxAttempts : Nat} {now : Time} {intent : UploadIntent}
    {u : Unit} (hmem : intent ∈ db.uploadIntents)
    (hconsistent : intent.fromPersistence = .ok intent)
    (h : (expireUploadIntent gcMaxAttempts now intent).run db = .ok (u, db')) :
    Effect licence db db' ∧ ∀ row ∈ db.uploadIntents, row ≠ intent → row ∈ db'.uploadIntents := by
  simp only [expireUploadIntent, enqueueExpiredUploadIntentCleanup, Transaction.run_bind_ok,
    lockS3QuotaBucket_ok, insertStorageGcTask_ok, Transaction.run_updateRow_ok] at h
  obtain ⟨_, _, ⟨-, rfl⟩, _, _, ⟨_, _, ⟨⟨-, -, htemporary⟩, rfl⟩, ⟨-, -, hfinal⟩, rfl⟩, _, _,
    ⟨⟨old, hold, hid, hlapsed, -⟩, rfl⟩, hrelease⟩ := h
  have heq : old = intent := Table.eq_of_key hold hmem hid
  subst heq
  obtain ⟨hcharge, rfl⟩ := releaseS3UploadIntentQuota_ok hrelease
  let ended : IntentEnd := ⟨old, .expired, now,
    [uploadIntentGcTask old old.temporaryStorageKey now gcMaxAttempts now,
      uploadIntentGcTask old old.finalStorageKey now gcMaxAttempts now]⟩
  have hnames : ∀ task ∈ ended.tasks, NamesIntent task.provenance old := by
    intro task htask
    simp only [ended, List.mem_cons, List.not_mem_nil, or_false] at htask
    rcases htask with rfl | rfl <;> exact ⟨rfl, rfl, rfl, rfl, Or.inl rfl⟩
  have hlive : old.state.isLive := by
    simp only [UploadIntent.isLapsed, Bool.or_eq_true, Bool.and_eq_true,
      decide_eq_true_eq] at hlapsed
    rcases hlapsed with (hstate | hstate) | ⟨hstate, -⟩ <;>
      simp [hstate, UploadIntentState.isLive]
  have hvalid : ended.Valid db := {
    intent_mem := hmem
    consistent := hconsistent
    live := hlive
    terminal := Or.inr rfl
    queues := ⟨rfl, hnames, htemporary, hfinal, trivial⟩
    charge := hcharge }
  refine ⟨.intentEnded hvalid, fun row hrow hne => ?_⟩
  exact (Table.mem_update_of_mem hmem rfl).2 (Or.inl ⟨hrow, hne⟩)

theorem forEach_expireUploadIntent_effects {gcMaxAttempts : Nat} {now : Time}
    {intents : List UploadIntent} {u : Unit} (hnodup : (intents.map (·.id)).Nodup)
    (hmem : ∀ intent ∈ intents, intent ∈ db.uploadIntents)
    (hconsistent : ∀ intent ∈ intents, intent.fromPersistence = .ok intent)
    (h : (forEach (expireUploadIntent gcMaxAttempts now) intents).run db = .ok (u, db')) :
    Effects licence db db' := by
  induction intents generalizing db with
  | nil =>
      cases Transaction.run_forEach_nil_ok.1 h
      exact .refl _
  | cons intent intents ih =>
      obtain ⟨mid, hhead, hrest⟩ := Transaction.run_forEach_cons_ok.1 h
      obtain ⟨hfresh, hnodup'⟩ := List.nodup_cons.1 hnodup
      obtain ⟨heffect, hkeep⟩ := expireUploadIntent_effect (hmem intent List.mem_cons_self)
        (hconsistent intent List.mem_cons_self) hhead
      refine (Effects.single heffect).trans (ih hnodup' (fun row hrow => ?_)
        (fun row hrow => hconsistent row (List.mem_cons_of_mem _ hrow)) hrest)
      refine hkeep row (hmem row (List.mem_cons_of_mem _ hrow)) fun heq => ?_
      exact hfresh (heq ▸ List.mem_map_of_mem hrow)

theorem expireUploadIntents_effects {now : Time} {limit gcMaxAttempts count : Nat}
    (h : (expireUploadIntents now limit gcMaxAttempts).run db = .ok (count, db')) :
    Effects licence db db' := by
  simp only [expireUploadIntents, Transaction.run_bind_ok, Transaction.run_require_ok,
    Transaction.run_query_ok, Transaction.run_pure_ok] at h
  obtain ⟨_, _, ⟨-, rfl⟩, intents, _, ⟨hintents, rfl⟩, _, _, hcheck, _, _, hexpire, -, rfl⟩ := h
  obtain ⟨hconsistent, rfl⟩ := run_forEach_domain_ok.1 hcheck
  subst hintents
  refine forEach_expireUploadIntent_effects (Table.nodup_selected _ _ _ _)
    (fun intent hintent => (Table.mem_of_selected hintent).1) (fun intent hintent => ?_) hexpire
  obtain ⟨row, hrow⟩ := ok_of_map_ok (hconsistent intent hintent)
  cases fromPersistence_self hrow
  exact hrow

end

end MediaHub.Store
