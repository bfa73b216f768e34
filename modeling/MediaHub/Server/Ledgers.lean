import MediaHub.Server.Run
import MediaHub.Store.Cleanup
import MediaHub.Store.HistoryRows
import MediaHub.Store.LedgerEffects

namespace MediaHub.Server

open Relational
open MediaHub.Core
open MediaHub.Store

/-- Cleanup does not look at the ledger or at media. -/
theorem CleanupSound.frame {db : Database} (h : CleanupSound db)
    (applications : Table Application) (media : Table Media) :
    CleanupSound { db with applications, media } where
  parts := ⟨h.parts.intentKeys, h.parts.versionKeys, h.parts.rows, h.parts.tasks⟩
  intents := ⟨h.intents.consistent, h.intents.proposed_inj, h.intents.committed,
    h.intents.owner⟩
  known := h.known
  exact := ⟨h.exact.active, h.exact.retired, h.exact.live, h.exact.ended⟩

theorem cleanupSound_of_init {s : State} (h : IsFresh s) : CleanupSound s.db := by
  have hparts := (Sound.of_init h).parts
  rw [h.tables] at hparts ⊢
  have hnone : ∀ {α κ : Type} [Keyed α κ] {P : α → Prop}, ∀ row ∈ (∅ : Table α), P row :=
    fun row hrow => absurd hrow (Table.not_mem_empty row)
  have hunqueued : ∀ {locator owner}, queuedOwner (∅ : Table StorageGcTask) locator ≠ some owner :=
    fun h => by cases h
  exact ⟨hparts, ⟨hnone, hnone, hnone, hnone⟩,
    ⟨fun _ _ howner => absurd howner hunqueued, fun _ _ howner => absurd howner hunqueued⟩,
    ⟨hnone, hnone, hnone, hnone⟩⟩

theorem StepCases.cleanupSound [Md5] {s s' : State} {e : Event} {licence : Licence}
    (h : StepCases s e s' licence) (hsound : CleanupSound s.db) : CleanupSound s'.db := by
  cases h with
  | effects heffects => exact heffects.cleanupSound hsound
  | bare hbare =>
      obtain ⟨applications, media, reservations, rfl⟩ := hbare.frame
      exact CleanupSound.frame hsound applications media

theorem cleanupSound_of_reachable [Md5] {s : State} (h : system.Reachable s) :
    CleanupSound s.db :=
  reachable_invariant (P := fun s => CleanupSound s.db) (fun _ => cleanupSound_of_init)
    (fun _ _ _ hs hcases => hcases.cleanupSound hs) h

/-- Exactly one task names the locator, and it satisfies `P`. -/
def NamedOnce (tasks : Table StorageGcTask) (locator : StorageLocator)
    (P : GcProvenance → Prop) : Prop :=
  ∃ task ∈ tasks, task.task.locator = locator ∧ P task.task.provenance ∧
    ∀ other ∈ tasks, other.task.locator = locator → other = task

theorem namedOnce_of_queuedOwner {tasks : Table StorageGcTask} {locator : StorageLocator}
    {P : GcProvenance → Prop} {owner : GcProvenance} (h : queuedOwner tasks locator = some owner)
    (hP : P owner) : NamedOnce tasks locator P := by
  obtain ⟨task, hfind, rfl⟩ := Option.map_eq_some_iff.1 h
  obtain ⟨hmem, hlocator⟩ := Table.find?_eq_some_iff.1 hfind
  exact ⟨task, hmem, hlocator, hP, fun other hother hsame =>
    Table.eq_of_key hother hmem (hsame.trans hlocator.symm)⟩

theorem queuedOwner_eq_none_iff {tasks : Table StorageGcTask} {locator : StorageLocator} :
    queuedOwner tasks locator = none ↔ ∀ task ∈ tasks, task.task.locator ≠ locator := by
  rw [queuedOwner, Option.map_eq_none_iff]
  exact Table.find?_eq_none_iff

/-- In every reachable state a data version is visible exactly if no task names its payload, no
task names a key of a live intent, and what is no longer needed is named by one task, which says
whose it was. -/
theorem reachable_queue_exact [Md5] (s : State) (h : system.Reachable s) :
    (∀ version ∈ s.db.objectVersions, ∀ locator, version.locator? = some locator →
      (version.isActive ↔ ∀ task ∈ s.db.storageGcTasks, task.task.locator ≠ locator)) ∧
    (∀ intent ∈ s.db.uploadIntents, intent.state.isLive → ∀ task ∈ s.db.storageGcTasks,
      task.task.locator ≠ intent.temporaryLocator ∧ task.task.locator ≠ intent.finalLocator) ∧
    (∀ version ∈ s.db.objectVersions, version.isActive = false →
      ∀ locator, version.locator? = some locator →
        NamedOnce s.db.storageGcTasks locator (NamesVersion · version)) ∧
    (∀ intent ∈ s.db.uploadIntents, intent.state = .aborted ∨ intent.state = .expired →
      NamedOnce s.db.storageGcTasks intent.temporaryLocator (NamesIntent · intent) ∧
      NamedOnce s.db.storageGcTasks intent.finalLocator (NamesIntent · intent)) := by
  have hexact := (cleanupSound_of_reachable h).exact
  refine ⟨fun version hversion locator hlocator => ?_, fun intent hintent hlive task htask => ?_,
    fun version hversion hretired locator hlocator => ?_, fun intent hintent hend => ?_⟩
  · rw [← queuedOwner_eq_none_iff]
    constructor
    · exact fun hactive => hexact.active version hversion hactive locator hlocator
    · intro hunqueued
      by_contra hretired
      obtain ⟨owner, howner, -⟩ :=
        hexact.retired version hversion (by simpa using hretired) locator hlocator
      rw [hunqueued] at howner
      cases howner
  · exact ⟨queuedOwner_eq_none_iff.1 (hexact.live intent hintent hlive _ (Or.inl rfl)) task htask,
      queuedOwner_eq_none_iff.1 (hexact.live intent hintent hlive _ (Or.inr rfl)) task htask⟩
  · obtain ⟨owner, howner, hnames⟩ := hexact.retired version hversion hretired locator hlocator
    exact namedOnce_of_queuedOwner howner hnames
  · obtain ⟨owner, howner, hnames⟩ := hexact.ended intent hintent hend _ (Or.inl rfl)
    obtain ⟨owner', howner', hnames'⟩ := hexact.ended intent hintent hend _ (Or.inr rfl)
    exact ⟨namedOnce_of_queuedOwner howner hnames, namedOnce_of_queuedOwner howner' hnames'⟩

/-- A replaced version is queued. -/
theorem reachable_queue_exact_twoPuts :
    letI := noMd5
    let s := system.run (State.installation 1 1000) twoPuts
    ∃ version ∈ s.db.objectVersions, version.isActive = false ∧
      ∀ locator, version.locator? = some locator →
        NamedOnce s.db.storageGcTasks locator (NamesVersion · version) := by
  have hretired :
      letI := noMd5
      ∃ version ∈ (system.run (State.installation 1 1000) twoPuts).db.objectVersions,
        version.isActive = false := by
    decide +kernel
  have hexact := @reachable_queue_exact noMd5 _ (@reachable_run noMd5 twoPuts)
  obtain ⟨version, hversion, hinactive⟩ := hretired
  exact ⟨version, hversion, hinactive, hexact.2.2.1 version hversion hinactive⟩

theorem historyRows_of_init {s : State} (h : IsFresh s) :
    HistoryRows s.db.buckets s.db.objects s.db.objectVersions := by
  rw [h.tables]
  have hnone : ∀ {α κ : Type} [Keyed α κ] {P : α → Prop}, ∀ row ∈ (∅ : Table α), P row :=
    fun row hrow => absurd hrow (Table.not_mem_empty row)
  exact ⟨hnone, hnone, hnone⟩

theorem StepCases.historyRows [Md5] {s s' : State} {e : Event} {licence : Licence}
    (h : StepCases s e s' licence) (hsound : Sound s)
    (hrows : HistoryRows s.db.buckets s.db.objects s.db.objectVersions) :
    HistoryRows s'.db.buckets s'.db.objects s'.db.objectVersions := by
  cases h with
  | effects heffects => exact heffects.historyRows hsound.chain hrows
  | bare hbare =>
      obtain ⟨applications, media, reservations, rfl⟩ := hbare.frame
      exact hrows

theorem historyRows_of_reachable [Md5] {s : State} (h : system.Reachable s) :
    HistoryRows s.db.buckets s.db.objects s.db.objectVersions :=
  reachable_invariant
    (P := fun s => HistoryRows s.db.buckets s.db.objects s.db.objectVersions)
    (fun _ => historyRows_of_init) (fun _ _ hsound hs hcases => hcases.historyRows hsound hs) h

/-- What the rows of one object and of its active versions look like. -/
structure ObjectChain (db : Database) (object : S3Object) : Prop where
  generation_le : ∀ version ∈ db.objectVersions, version.objectId = object.id →
    version.isActive → version.generation ≤ object.generation
  generation_inj : ∀ version ∈ db.objectVersions, ∀ other ∈ db.objectVersions,
    version.objectId = object.id → other.objectId = object.id → version.isActive →
    other.isActive → version.generation = other.generation → version = other
  externalVersionId_inj : ∀ version ∈ db.objectVersions, ∀ other ∈ db.objectVersions,
    version.objectId = object.id → other.objectId = object.id → version.isActive →
    other.isActive → version.externalVersionId = other.externalVersionId → version = other
  null_unique : ∀ version ∈ db.objectVersions, ∀ other ∈ db.objectVersions,
    version.objectId = object.id → other.objectId = object.id → version.isActive →
    other.isActive → version.isNullVersion → other.isNullVersion → version = other
  head_none : object.currentVersionId = none ↔
    ∀ version ∈ db.objectVersions, version.objectId = object.id → version.isActive = false
  head_some : ∀ versionId, object.currentVersionId = some versionId →
    ∃ version ∈ db.objectVersions, version.id = versionId ∧ version.objectId = object.id ∧
      version.isActive ∧ ∀ other ∈ db.objectVersions, other.objectId = object.id →
        other.isActive → other.generation ≤ version.generation
  current_iff : ∀ version ∈ db.objectVersions, version.objectId = object.id →
    version.isActive →
    (version.becameNoncurrentAt = none ↔ object.currentVersionId = some version.id)

theorem Chain.objectChain {db : Database} (h : Chain db.buckets db.objects db.objectVersions)
    {object : S3Object} (hobject : object ∈ db.objects) : ObjectChain db object := by
  have hhistory := h.history object hobject
  have hvisible : ∀ version ∈ db.objectVersions, version.objectId = object.id →
      version.isActive → entry version ∈ visible db.objectVersions object.id :=
    fun version hversion hid hactive => ⟨version, hversion, hid, hactive, rfl⟩
  have hsame : ∀ version ∈ db.objectVersions, ∀ other ∈ db.objectVersions,
      entry version = entry other → version = other := fun version hversion other hother heq =>
    Table.eq_of_key hversion hother (congrArg History.Entry.ident heq)
  have hlabel : ∀ version ∈ db.objectVersions, ∀ other ∈ db.objectVersions,
      version.objectId = object.id → other.objectId = object.id → version.isActive →
      other.isActive → version.externalVersionId = other.externalVersionId → version = other :=
    fun version hversion other hother hid hid' hactive hactive' heq =>
      hsame version hversion other hother (hhistory.label_inj
        (hvisible version hversion hid hactive) (hvisible other hother hid' hactive') heq)
  refine {
    generation_le := fun version hversion hid hactive =>
      hhistory.rank_le _ (hvisible version hversion hid hactive)
    generation_inj := fun version hversion other hother hid hid' hactive hactive' heq =>
      hsame version hversion other hother (hhistory.rank_inj
        (hvisible version hversion hid hactive) (hvisible other hother hid' hactive') heq)
    externalVersionId_inj := hlabel
    null_unique := fun version hversion other hother hid hid' hactive hactive' hnull hnull' =>
      hlabel version hversion other hother hid hid' hactive hactive' <|
        (S3VersionId.isNull_iff.1 hnull).trans (S3VersionId.isNull_iff.1 hnull').symm
    head_none := ?_
    head_some := ?_
    current_iff := h.current object hobject }
  · rw [hhistory.newest.none_iff]
    constructor
    · intro hempty version hversion hid
      by_contra hactive
      have hmem := hvisible version hversion hid (by simpa using hactive)
      rw [hempty] at hmem
      exact hmem
    · intro hnone
      refine Set.eq_empty_of_forall_notMem ?_
      rintro _ ⟨version, hversion, hid, hactive, -⟩
      rw [hnone version hversion hid] at hactive
      cases hactive
  · intro versionId hhead
    obtain ⟨_, ⟨version, hversion, hid, hactive, rfl⟩, hident, hmax⟩ :=
      hhistory.newest.of_some versionId hhead
    exact ⟨version, hversion, hident, hid, hactive, fun other hother hid' hactive' =>
      hmax _ (hvisible other hother hid' hactive')⟩

/-- Every reachable state keeps the chain of each object, and what a transaction that ends in an
error leaves behind is the database it started from. -/
theorem reachable_objectChain [Md5] (s : State) (h : system.Reachable s) :
    (∀ object ∈ s.db.objects, ObjectChain s.db object) ∧
    ∀ (α : Type) (tx : Transaction α) (error : RepositoryError),
      tx.run s.db = .error error → tx.commit s.db = s.db :=
  ⟨fun _ hobject => Chain.objectChain (Sound.of_reachable h).chain hobject,
    fun _ _ _ herror => Relational.Transaction.commit_of_error herror⟩

theorem reachable_objectChain_twoPuts :
    letI := noMd5
    let s := system.run (State.installation 1 1000) twoPuts
    s.db.objectVersions.rows.length = 2 ∧ ∀ object ∈ s.db.objects, ObjectChain s.db object := by
  have hchain := @reachable_objectChain noMd5 _ (@reachable_run noMd5 twoPuts)
  exact ⟨by decide +kernel, hchain.1⟩

/-- The bare reservations of an application: those that no media row holds. -/
def outstandingBytes (app : ApplicationId) (reservations : Table BareReservation) : Int :=
  reservations.sumWhere
    (fun reservation => reservation.applicationId = app && !reservation.created) (·.bytes)

section Reservations

variable {reservations : Table BareReservation} {reservation : BareReservation}

theorem outstandingBytes_insert (app : ApplicationId)
    (hfresh : reservations.find? reservation.id = none) (hbare : reservation.created = false) :
    outstandingBytes app (reservations.insert reservation) =
      outstandingBytes app reservations +
        share app reservation.applicationId reservation.bytes := by
  unfold outstandingBytes
  rw [Table.sumWhere_insert hfresh, weigh_owned, if_pos (by simp [hbare]), Int.add_comm]

theorem outstandingBytes_delete (app : ApplicationId) (hmem : reservation ∈ reservations) :
    outstandingBytes app (reservations.delete reservation.id) =
      outstandingBytes app reservations -
        if reservation.created then 0
        else share app reservation.applicationId reservation.bytes := by
  unfold outstandingBytes
  rw [Table.sumWhere_delete (k := reservation.id) hmem rfl, weigh_owned]
  cases reservation.created <;> simp

theorem outstandingBytes_misreport (app : ApplicationId) (hmem : reservation ∈ reservations)
    (hbare : reservation.created = false) :
    outstandingBytes app (reservations.update reservation.id BareReservation.misreport) =
      outstandingBytes app reservations -
        share app reservation.applicationId reservation.bytes := by
  have hcreated : (BareReservation.misreport reservation).created = true := rfl
  unfold outstandingBytes
  rw [Table.sumWhere_update (k := reservation.id) hmem rfl, weigh_owned, weigh_owned,
    if_neg (by simp [hcreated]), if_pos (by simp [hbare])]
  omega

end Reservations

/-- What the reserved column of an application holds beyond its rows and bare reservations. -/
def ledgerSurplus (app : ApplicationId) (s : State) : Int :=
  reservedSurplus app s.db - outstandingBytes app s.reservations

/-- The bytes that an event would give back although the media row of their upload holds them. -/
def State.strayBytes (s : State) (app : ApplicationId) : Event → Int
  | .releaseReservation id => (s.reservations.find? id).elim 0 fun reservation =>
      if reservation.created then share app reservation.applicationId reservation.bytes else 0
  | _ => 0

section BareSteps

variable {s s' : State} {e : Event}

/-- A bare step moves the reserved column and the bare reservations together, but for bytes that
were not bare any more. -/
theorem BareStep.ledgerSurplus_eq (h : BareStep s e s') (app : ApplicationId) :
    ledgerSurplus app s' = ledgerSurplus app s - s.strayBytes app e := by
  unfold ledgerSurplus reservedSurplus
  cases h with
  | @reserved reservation applicationId bytes hfresh _ hcharge =>
      obtain ⟨a, ha, rfl, -, -⟩ := hcharge
      have hcharges := chargesBy_reserve (a := a) bytes
      have hinsert := @outstandingBytes_insert _ ⟨reservation, a.id, bytes, false⟩ app hfresh rfl
      simp only [Database.mapApplications, reservedColumn_update app ha hcharges, hinsert,
        State.strayBytes]
      omega
  | @released id reservation hfind hcharge =>
      obtain ⟨a, ha, happlication, -, -⟩ := hcharge
      have hcharges := chargesBy_release (a := a) reservation.bytes
      simp only [Database.mapApplications, ← happlication, reservedColumn_update app ha hcharges,
        outstandingBytes_delete app (Table.mem_of_find? hfind), State.strayBytes, hfind,
        Option.elim, share_neg]
      split <;> omega
  | @mediaCreated id reservation media row _ _ _ hfind hbare happlication hsize hstate hfresh =>
      simp only [Database.mapMedia, uploadingBytes_insert app hfresh,
        outstandingBytes_delete app (Table.mem_of_find? hfind), State.strayBytes, hbare]
      simp only [hstate, happlication, hsize, if_true, if_false, Bool.false_eq_true]
      omega
  | @mediaMisreported id reservation media row _ _ _ hfind hbare happlication hsize hstate
      hfresh =>
      simp only [Database.mapMedia, uploadingBytes_insert app hfresh,
        outstandingBytes_misreport app (Table.mem_of_find? hfind) hbare, State.strayBytes]
      simp only [hstate, happlication, hsize, if_true]
      omega

theorem BareStep.usedSurplus_eq (h : BareStep s e s') (app : ApplicationId) :
    usedSurplus app s'.db = usedSurplus app s.db := by
  unfold usedSurplus
  cases h with
  | @reserved _ _ bytes _ _ hcharge =>
      obtain ⟨a, ha, rfl, -, -⟩ := hcharge
      simp only [Database.mapApplications, usedColumn_update app ha (chargesBy_reserve bytes),
        share_zero, Int.add_zero]
  | @released _ reservation _ hcharge =>
      obtain ⟨a, ha, happlication, -, -⟩ := hcharge
      simp only [Database.mapApplications, ← happlication,
        usedColumn_update app ha (chargesBy_release reservation.bytes), share_zero, Int.add_zero]
  | mediaCreated _ _ _ _ hstate hfresh | mediaMisreported _ _ _ _ hstate hfresh =>
      simp [Database.mapMedia, mediaBytes_insert app hfresh, hstate, isStoredMedia]

theorem BareStep.consistent (h : BareStep s e s') (hs : Consistent s.db.applications) :
    Consistent s'.db.applications := by
  cases h with
  | reserved _ _ hcharge => exact hs.charge hcharge
  | released _ hcharge => exact hs.charge hcharge
  | mediaCreated => exact hs
  | mediaMisreported => exact hs

theorem BareStep.bounded (h : BareStep s e s')
    (hs : ∀ reservation ∈ s.reservations, reservation.bytes ≤ maxI64) :
    ∀ reservation ∈ s'.reservations, reservation.bytes ≤ maxI64 := by
  intro row hrow
  cases h with
  | reserved _ hbytes _ =>
      rcases Table.mem_or_eq_of_mem_insert hrow with rfl | hold
      · exact hbytes
      · exact hs row hold
  | released => exact hs row (Table.mem_delete.1 hrow).1
  | mediaCreated => exact hs row (Table.mem_delete.1 hrow).1
  | mediaMisreported =>
      rcases Table.mem_update.1 hrow with ⟨hold, -⟩ | ⟨old, hold, -, rfl⟩
      · exact hs row hold
      · exact hs old hold

end BareSteps

structure LedgerSound (s : State) : Prop where
  used : ∀ app, usedSurplus app s.db = 0
  consistent : Consistent s.db.applications
  bounded : ∀ reservation ∈ s.reservations, reservation.bytes ≤ maxI64

/-- Whatever the reserved column says, it is balanced by what it says too much. -/
theorem LedgerSound.balanced {s : State} (h : LedgerSound s) :
    Balanced s.db (reservedSurplus · s.db) :=
  ⟨fun _ => rfl, h.used, h.consistent⟩

theorem ledgerSound_of_init {s : State} (h : IsFresh s) :
    LedgerSound s ∧ ∀ app, ledgerSurplus app s = 0 := by
  have hnew : ∀ application ∈ s.db.applications,
      application.reservedBytes = 0 ∧ application.usedBytes = 0 := by
    intro application happlication
    obtain ⟨quotaBytes, -, heq⟩ := h.unused application happlication
    rw [heq]
    exact ⟨rfl, rfl⟩
  refine ⟨⟨fun app => ?_, fun application happlication => ?_, ?_⟩, fun app => ?_⟩
  · have hcolumn : usedColumn app s.db.applications = 0 :=
      Table.sum_zero fun application happlication => by
        simp [weigh, (hnew application happlication).2]
    rw [h.tables]
    simp [usedSurplus, hcolumn, Database.empty, versionBytes, mediaBytes]
  · obtain ⟨quotaBytes, -, heq⟩ := h.unused application happlication
    rw [heq]
    simp [Application.isConsistent, Application.new]
  · rw [h.reservations]
    exact fun reservation hreservation => absurd hreservation (Table.not_mem_empty reservation)
  · have hcolumn : reservedColumn app s.db.applications = 0 :=
      Table.sum_zero fun application happlication => by
        simp [weigh, (hnew application happlication).1]
    rw [ledgerSurplus, h.reservations, h.tables]
    simp [reservedSurplus, hcolumn, Database.empty, intentBytes, sessionBytes, uploadingBytes,
      outstandingBytes]

section Steps

variable [Md5] {s s' : State} {e : Event} {licence : Licence}

theorem StepCases.ledgerSound (h : StepCases s e s' licence) (hsound : Sound s)
    (hs : LedgerSound s) : LedgerSound s' := by
  cases h with
  | effects heffects hreservations =>
      have hbalanced := hs.balanced.effects hsound.chain heffects
      exact ⟨hbalanced.used, hbalanced.consistent, hreservations ▸ hs.bounded⟩
  | bare hbare =>
      exact ⟨fun app => (hbare.usedSurplus_eq app).trans (hs.used app),
        hbare.consistent hs.consistent, hbare.bounded hs.bounded⟩

theorem ledgerSound_of_reachable (h : system.Reachable s) : LedgerSound s :=
  reachable_invariant (fun _ hinit => (ledgerSound_of_init hinit).1)
    (fun _ _ hsound hs hcases => hcases.ledgerSound hsound hs) h

end Steps

/-- An upload that was told that its media row was not created gives back nothing of the
reservation that the row holds: there is nothing to give back, or the ledger does not have it. -/
def GivesBackOwn (s : State) : Event → Prop
  | .releaseReservation id => ∀ reservation ∈ s.reservations.find? id, reservation.created = true →
      reservation.bytes = 0 ∨ ∀ a ∈ s.db.applications, a.id = reservation.applicationId →
        a.reservedBytes < reservation.bytes
  | _ => True

theorem BareStep.strayBytes_eq_zero {s s' : State} {e : Event} (h : BareStep s e s')
    (hguard : GivesBackOwn s e) (app : ApplicationId) : s.strayBytes app e = 0 := by
  cases h with
  | @released id reservation hfind hcharge =>
      rw [State.strayBytes, hfind, Option.elim]
      split
      · rename_i hcreated
        obtain ⟨a, ha, happlication, hcovered, -⟩ := hcharge
        have hcovered : (reservation.bytes : Int) ≤ a.reservedBytes := of_decide_eq_true hcovered
        rcases hguard reservation hfind hcreated with hzero | hshort
        · simp [hzero]
        · exact absurd hcovered (Int.not_le.2 (hshort a ha happlication))
      · rfl
  | _ => rfl

theorem canCharge_release {s : State} (hs : LedgerSound s) {a : Application}
    (ha : a ∈ s.db.applications)
    {bytes : Nat} (hcovered : (bytes : Int) ≤ a.reservedBytes) :
    CanCharge s.db a.id (fun a => bytes ≤ a.reservedBytes) (Application.release bytes) := by
  have hconsistent := hs.consistent a ha
  simp only [Application.isConsistent, Bool.and_eq_true, decide_eq_true_eq] at hconsistent
  refine ⟨a, ha, rfl, decide_eq_true hcovered, ?_⟩
  have hreserved : (Application.release bytes a).reservedBytes = a.reservedBytes - bytes := rfl
  have hused : (Application.release bytes a).usedBytes = a.usedBytes := rfl
  have hquota : (Application.release bytes a).quotaBytes = a.quotaBytes := rfl
  simp only [Application.isConsistent, Bool.and_eq_true, decide_eq_true_eq, hreserved, hused,
    hquota]
  omega

section Steps

variable [Md5] {s : State} {e : Event}

theorem Sound.ledgerSurplus_step (h : Sound s) (hs : LedgerSound s) (hguard : GivesBackOwn s e)
    (app : ApplicationId) : ledgerSurplus app (s.step e) = ledgerSurplus app s := by
  cases h.step_cases e with
  | effects heffects hreservations =>
      have hreserved := (hs.balanced.effects h.chain heffects).reserved app
      rw [ledgerSurplus, ledgerSurplus, hreserved, hreservations]
  | bare hbare =>
      rw [hbare.ledgerSurplus_eq, hbare.strayBytes_eq_zero hguard, Int.sub_zero]

/-- A stray release takes bytes from a ledger row although a media row still holds them. -/
theorem stray_step (hs : LedgerSound s) {id : Uuid} {reservation : BareReservation}
    (hfind : s.reservations.find? id = some reservation) (hcreated : reservation.created = true)
    {a : Application} (ha : a ∈ s.db.applications)
    (happlication : a.id = reservation.applicationId)
    (hcovered : (reservation.bytes : Int) ≤ a.reservedBytes) :
    ∃ row ∈ (s.step (.releaseReservation id)).db.applications,
      ledgerSurplus row.id (s.step (.releaseReservation id)) =
        ledgerSurplus row.id s - reservation.bytes := by
  have hcharge := canCharge_release hs ha hcovered
  rw [happlication] at hcharge
  have hrun : (releaseQuota reservation.applicationId reservation.bytes).run s.db =
      .ok ((), s.db.mapApplications
        (·.update reservation.applicationId (Application.release reservation.bytes))) :=
    releaseQuota_ok.2 ⟨hs.bounded _ (Table.mem_of_find? hfind), hcharge, rfl⟩
  have heq : s.step (.releaseReservation id) = { s with
      db := s.db.mapApplications
        (·.update reservation.applicationId (Application.release reservation.bytes))
      reservations := s.reservations.delete reservation.id } := by
    change (s.reservations.find? id).elim s s.releaseReservation = _
    rw [hfind, Option.elim, State.releaseReservation, hrun]
  have hsurplus := (BareStep.released hfind hcharge).ledgerSurplus_eq a.id
  rw [State.strayBytes, hfind, Option.elim, if_pos hcreated, share, if_pos happlication.symm]
    at hsurplus
  rw [heq]
  exact ⟨Application.release reservation.bytes a,
    (Table.mem_update_of_mem ha happlication).2 (Or.inr rfl), hsurplus⟩

end Steps

/-- The ledger row of an application says what its rows add up to, no column is negative and the
quota is kept. -/
def LedgerKept (s : State) : Prop :=
  ∀ a ∈ s.db.applications,
    a.reservedBytes = intentBytes a.id s.db.uploadIntents +
      sessionBytes a.id s.db.uploadSessions + uploadingBytes a.id s.db.media +
      outstandingBytes a.id s.reservations ∧
    a.usedBytes = versionBytes a.id s.db.objectVersions + mediaBytes a.id s.db.media ∧
    0 ≤ a.reservedBytes ∧ 0 ≤ a.usedBytes ∧ a.usedBytes + a.reservedBytes ≤ a.quotaBytes

theorem LedgerSound.kept_iff {s : State} (h : LedgerSound s) :
    LedgerKept s ↔ ∀ a ∈ s.db.applications, ledgerSurplus a.id s = 0 := by
  refine forall₂_congr fun a ha => ?_
  have hused := h.used a.id
  have hconsistent := h.consistent a ha
  unfold ledgerSurplus reservedSurplus
  unfold usedSurplus at hused
  rw [reservedColumn_of_mem ha]
  rw [usedColumn_of_mem ha] at hused
  simp only [Application.isConsistent, Bool.and_eq_true, decide_eq_true_eq] at hconsistent
  omega

/-- In every reachable state the used bytes are those of the rows, no column is negative and the
quota is kept, whatever uploads were told. -/
theorem used_of_reachable [Md5] {s : State} (h : system.Reachable s) :
    ∀ a ∈ s.db.applications,
      a.usedBytes = versionBytes a.id s.db.objectVersions + mediaBytes a.id s.db.media ∧
      0 ≤ a.reservedBytes ∧ 0 ≤ a.usedBytes ∧ a.usedBytes + a.reservedBytes ≤ a.quotaBytes := by
  intro a ha
  have hsound := ledgerSound_of_reachable h
  have hused := hsound.used a.id
  have hconsistent := hsound.consistent a ha
  unfold usedSurplus at hused
  rw [usedColumn_of_mem ha] at hused
  simp only [Application.isConsistent, Bool.and_eq_true, decide_eq_true_eq] at hconsistent
  omega

def KeepsLedger [Md5] (s : State) (e : Event) : Prop := LedgerKept (s.step e)

/-- A run keeps the ledger in every state it comes to exactly if no upload gives back bytes that
its media row holds. -/
theorem ledger_along_iff [Md5] (s : State) (events : List Event) (hinit : IsFresh s) :
    system.Along KeepsLedger s events ↔ system.Along GivesBackOwn s events := by
  let P : State → Prop := fun s => Sound s ∧ LedgerSound s ∧ ∀ app, ledgerSurplus app s = 0
  have hfresh : P s := ⟨Sound.of_init hinit, ledgerSound_of_init hinit⟩
  have hstep : ∀ s e, P s → GivesBackOwn s e → P (s.step e) := by
    rintro s e ⟨hsound, hledger, hzero⟩ hguard
    exact ⟨hsound.step e, (hsound.step_cases e).ledgerSound hsound hledger, fun app =>
      (hsound.ledgerSurplus_step hledger hguard app).trans (hzero app)⟩
  have hown : ∀ s e, P s → KeepsLedger s e → GivesBackOwn s e := by
    rintro s e ⟨hsound, hledger, hzero⟩ hkept
    have hledger' := (hsound.step_cases e).ledgerSound hsound hledger
    cases e with
    | releaseReservation id =>
        intro reservation hfind hcreated
        by_contra hstray
        simp only [not_or, not_forall, Int.not_lt] at hstray
        obtain ⟨hbytes, a, ha, happlication, hcovered⟩ := hstray
        obtain ⟨row, hrow, hsurplus⟩ :=
          stray_step hledger hfind hcreated ha happlication hcovered
        have hbalanced := hledger'.kept_iff.1 hkept row hrow
        rw [hsurplus, hzero] at hbalanced
        omega
    | _ => trivial
  constructor
  · exact Transition.System.along_of_invariant
      (fun s e hs hkept => hstep s e hs (hown s e hs hkept)) hown hfresh
  · exact Transition.System.along_of_invariant hstep
      (fun s e hs hguard => (hstep s e hs hguard).2.1.kept_iff.2 fun a _ =>
        (hstep s e hs hguard).2.2 a.id) hfresh

instance (s : State) (e : Event) : Decidable (GivesBackOwn s e) := by
  unfold GivesBackOwn
  split <;> infer_instance

instance (s : State) : Decidable (LedgerKept s) := by
  unfold LedgerKept
  infer_instance

instance [Md5] (s : State) (e : Event) : Decidable (KeepsLedger s e) := by
  unfold KeepsLedger
  infer_instance

def uploadingMedia : Media where
  id := 31
  applicationId := 1
  bucketId := 2
  objectKey := "photo"
  storageKey := "objects/31"
  state := .uploading
  size := 5
  uploadTemporaryKey := none
  uploadLeaseToken := none
  uploadLeasedUntil := none
  revision := 0
  deletedAt := none
  updatedAt := 3000

/-- An upload reserves its bytes and creates its media row. -/
def createMedia (replyLost : Bool) : List Event := [
  .reserve 30 1 5,
  .createUploading 30 uploadingMedia "temporary/31" "lease" (3000 + Time.seconds 60) replyLost]

/-- Two PUTs, an upload that gives its bare reservation back, and one whose media row is created
without its knowledge and that is not told to give anything back. -/
theorem ledger_along_puts :
    letI := noMd5
    let events := twoPuts ++ [.reserve 40 1 7, .releaseReservation 40] ++ createMedia true
    system.Along KeepsLedger (State.installation 1 1000) events ∧
      (scripted events).db.applications.rows.map (fun a => (a.usedBytes, a.reservedBytes)) =
        [(5, 5)] :=
  letI := noMd5
  ⟨(ledger_along_iff _ _ (isFresh_installation 1 (by decide))).2 (by decide +kernel),
    by decide +kernel⟩

/-- The reply to a created media row is lost, and the upload gives back what the row holds. -/
def strayRelease : List Event := createMedia true ++ [.releaseReservation 30]

/-- Nothing is reserved any more while five bytes are being uploaded. -/
theorem not_ledger_along_strayRelease :
    letI := noMd5
    IsFresh (State.installation 1 1000) ∧
      ¬ system.Along KeepsLedger (State.installation 1 1000) strayRelease ∧
      (scripted strayRelease).db.applications.rows.map (·.reservedBytes) = [0] ∧
      uploadingBytes 1 (scripted strayRelease).db.media = 5 :=
  ⟨isFresh_installation 1 (by decide), by decide +kernel, by decide +kernel, by decide +kernel⟩

end MediaHub.Server
