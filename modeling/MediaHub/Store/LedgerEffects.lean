import MediaHub.Store.Ledger

namespace MediaHub.Store

open Relational
open MediaHub.Core

/-- Neither column of the application drifts from its rows. -/
def Conserves (app : ApplicationId) (db db' : Database) : Prop :=
  reservedSurplus app db' = reservedSurplus app db ∧ usedSurplus app db' = usedSurplus app db

/-- Media that are about to be deleted are used. -/
def MediaCovered (db : Database) : Prop :=
  ∀ media ∈ db.media, media.state = .deletePending → ∀ a ∈ db.applications,
    a.id = media.applicationId → media.size ≤ a.usedBytes

theorem Accounting.conserves {db db' : Database} (h : Accounting db db')
    (hcovered : MediaCovered db) (app : ApplicationId) : Conserves app db db' := by
  unfold Conserves reservedSurplus usedSurplus
  cases h with
  | @quotaSet a quota hmem _ _ =>
      have hcharges := chargesBy_setQuota (a := a) quota
      simp only [Database.mapApplications, reservedColumn_update app hmem hcharges,
        usedColumn_update app hmem hcharges, share_zero, Int.add_zero, and_self]
  | mediaTouched hshare =>
      simp only [Database.mapMedia, uploadingBytes_touch app hshare, mediaBytes_touch app hshare,
        and_self]
  | @mediaActivated media _ hmem hstate hcharge =>
      obtain ⟨a, ha, happlication, -, -⟩ := hcharge
      have hcharges := chargesBy_transfer (a := a) media.size 0
      have hcan : media.state.canTransitionTo .active := by rw [hstate]; rfl
      simp only [← happlication, reservedColumn_update app ha hcharges,
        usedColumn_update app ha hcharges, uploadingBytes_moveTo app hmem hcan,
        mediaBytes_moveTo app hmem hcan]
      simp [hstate]
      omega
  | @mediaAborted media hmem hstate hcharge =>
      obtain ⟨a, ha, happlication, -, -⟩ := hcharge
      have hcharges := chargesBy_release (a := a) media.size
      simp only [← happlication, reservedColumn_update app ha hcharges,
        usedColumn_update app ha hcharges, uploadingBytes_delete app hmem hstate,
        mediaBytes_delete app hmem hstate, share_zero, share_neg]
      omega
  | @mediaScheduled media _ hmem hstate =>
      have hcan : media.state.canTransitionTo .deletePending := by rw [hstate]; rfl
      simp only [Database.mapMedia, uploadingBytes_moveTo app hmem hcan,
        mediaBytes_moveTo app hmem hcan]
      simp [hstate]
  | @mediaDeleted media _ hmem hstate hcharge =>
      obtain ⟨a, ha, happlication, -, -⟩ := hcharge
      have hcharges := chargesBy_releaseUsedClamped (hcovered media hmem hstate a ha happlication)
      have hcan : media.state.canTransitionTo .deleted := by rw [hstate]; rfl
      simp only [← happlication, reservedColumn_update app ha hcharges,
        usedColumn_update app ha hcharges, uploadingBytes_moveTo app hmem hcan,
        mediaBytes_moveTo app hmem hcan]
      simp [hstate]
      omega
  | @sessionCreated session hfresh hstate hcharge =>
      obtain ⟨a, ha, happlication, -, -⟩ := hcharge
      have hcharges := chargesBy_reserve (a := a) session.expectedSize
      simp only [← happlication, reservedColumn_update app ha hcharges,
        usedColumn_update app ha hcharges, sessionBytes_insert app hfresh hstate, share_zero]
      omega
  | sessionTouched hshare =>
      simp only [Database.mapUploadSessions, sessionBytes_touch app hshare, and_self]
  | @sessionEnded session _ _ hmem hstate hend hcharge =>
      obtain ⟨a, ha, happlication, -, -⟩ := hcharge
      have hcharges := chargesBy_release (a := a) session.expectedSize
      simp only [← happlication, reservedColumn_update app ha hcharges,
        usedColumn_update app ha hcharges, sessionBytes_finish app hmem hstate hend, share_zero,
        share_neg]
      omega
  | @sessionCompleted session media _ hmem hstate hfresh hmedia happ hsize hcharge =>
      obtain ⟨a, ha, happlication, -, -⟩ := hcharge
      have hend : UploadSessionState.completed ≠ .pending := by decide
      have hcharges := chargesBy_transfer (a := a) session.expectedSize 0
      simp only [← happlication, reservedColumn_update app ha hcharges,
        usedColumn_update app ha hcharges, sessionBytes_finish app hmem hstate hend,
        uploadingBytes_insert app hfresh, mediaBytes_insert app hfresh]
      simp [hmedia, isStoredMedia, happ, happlication, hsize]
      omega

/-- What a version gives back leaves the used column. -/
theorem usedColumn_giveBack {db : Database} {version : ObjectVersion}
    (h : CanGiveBack db version) (app : ApplicationId) :
    usedColumn app (giveBack db.applications version) =
        usedColumn app db.applications - share app version.applicationId version.sizeBytes ∧
      reservedColumn app (giveBack db.applications version) =
        reservedColumn app db.applications := by
  unfold giveBack
  rcases h with hzero | ⟨a, ha, happlication, -, -⟩
  · have hsame : ∀ row ∈ db.applications, Application.releaseUsed version.sizeBytes row = row := by
      rintro row -
      simp [Application.releaseUsed, hzero]
    rw [Table.update_self hsame, hzero]
    simp
  · have hcharges := chargesBy_releaseUsed (a := a) version.sizeBytes
    rw [← happlication, usedColumn_update app ha hcharges, reservedColumn_update app ha hcharges,
      share_zero, share_neg]
    omega

/-- The version that an intent becomes holds the bytes that the intent reserved. -/
theorem VersionCommit.Valid.sizeBytes_eq {commit : VersionCommit} {db : Database}
    (h : commit.Valid db) : commit.push.version.sizeBytes = commit.intent.expectedSizeBytes := by
  obtain ⟨stored, hpayload, hmatches⟩ := h.payload
  simp only [payloadMatchesIntent, Bool.and_eq_true, decide_eq_true_eq] at hmatches
  rw [ObjectVersion.sizeBytes, hpayload]
  exact hmatches.1.1.2

/-- A replaced version belongs to the application of the version that replaces it. -/
theorem Push.Valid.replaced_share {push : Push} {db : Database} (h : push.Valid db)
    (hchain : Chain db.buckets db.objects db.objectVersions) (app : ApplicationId) :
    (push.replaced.elim 0 fun version => share app version.applicationId version.sizeBytes) =
      share app push.version.applicationId (releasedBytes push.replaced) := by
  cases hreplaced : push.replaced with
  | none => simp [releasedBytes]
  | some previous =>
      obtain ⟨hmem, hobject, -, -⟩ := h.replaced_mem previous hreplaced
      have hprevious := (hchain.owner_of h.object_mem hmem hobject).1
      rw [Option.elim, ← hprevious, ← h.applicationId_eq]
      rfl

theorem VersionCommit.Valid.conserves {commit : VersionCommit} {db : Database}
    (h : commit.Valid db) (hchain : Chain db.buckets db.objects db.objectVersions)
    (app : ApplicationId) : Conserves app db (commit.apply db) := by
  obtain ⟨a, ha, happlication, -, -⟩ := h.charge
  have hcharges := chargesBy_transfer (a := a) commit.intent.expectedSizeBytes
    (releasedBytes commit.push.replaced)
  have hlive : commit.intent.state.isLive := by rw [h.committing]; rfl
  have hrows := versionBytes_push app h.push_valid
  rw [h.push_valid.replaced_share hchain, h.sizeBytes_eq, ← h.applicationId_eq] at hrows
  have hintents := intentBytes_end app h.intent_mem hlive
    (f := UploadIntent.commit commit.push.object.id commit.push.version.id commit.committedAt) rfl
  unfold Conserves reservedSurplus usedSurplus VersionCommit.apply
  simp only [hrows, hintents, ← happlication, reservedColumn_update app ha hcharges,
    usedColumn_update app ha hcharges, share_neg, share_sub]
  omega

theorem MarkerPush.Valid.conserves {marker : MarkerPush} {db : Database}
    (h : marker.Valid db) (app : ApplicationId) : Conserves app db (marker.apply db) := by
  have hsize : marker.push.version.sizeBytes = 0 := by
    rw [ObjectVersion.sizeBytes, h.isMarker]
  have hrows := versionBytes_push app h.push_valid
  rw [hsize, Int.natCast_zero, share_zero] at hrows
  unfold Conserves reservedSurplus usedSurplus MarkerPush.apply
  cases hreplaced : marker.push.replaced with
  | none =>
      rw [hreplaced] at hrows
      simp only [hrows, Option.elim, true_and]
      omega
  | some version =>
      rw [hreplaced] at hrows
      obtain ⟨hused, hreserved⟩ := usedColumn_giveBack (h.charge version hreplaced) app
      simp only [hrows, Option.elim, hused, hreserved, true_and]
      omega

theorem VersionRemoval.Valid.conserves {removed : VersionRemoval} {db : Database}
    (h : removed.Valid db) (app : ApplicationId) : Conserves app db (removed.apply db) := by
  obtain ⟨hused, hreserved⟩ := usedColumn_giveBack h.charge app
  unfold Conserves reservedSurplus usedSurplus VersionRemoval.apply
  simp only [hused, hreserved, versionBytes_removal app h.removal_valid, true_and]
  omega

theorem Effect.conserves [Md5] {licence : Licence} {db db' : Database} (h : Effect licence db db')
    (hchain : Chain db.buckets db.objects db.objectVersions) (hcovered : MediaCovered db)
    (app : ApplicationId) : Conserves app db db' := by
  cases h with
  | accounted hstep => exact hstep.conserves hcovered app
  | versionCommitted hcommit _ _ => exact hcommit.conserves hchain app
  | markerPushed hmarker _ _ => exact hmarker.conserves app
  | versionRemoved hremoved _ _ _ => exact hremoved.conserves app
  | headRemoved hremoved _ _ _ => exact hremoved.conserves app
  | @relocked versionId retention legalHold _ =>
      have hsame : versionBytes app (db.objectVersions.update versionId
          (ObjectVersion.relock retention legalHold)) = versionBytes app db.objectVersions :=
        Table.sumWhere_update_same _ _ fun version _ =>
          weigh_version_eq app (keepsFacts_relock retention legalHold version)
            (ObjectVersion.isActive_relock _ _ _)
      unfold Conserves usedSurplus
      simp only [Database.mapObjectVersions, hsame]
      exact ⟨rfl, trivial⟩
  | @intentCreated intent hintent _ =>
      obtain ⟨a, ha, happlication, -, -⟩ := hintent.charge
      have hcharges := chargesBy_reserve (a := a) intent.expectedSizeBytes
      have hlive : intent.state.isLive := by rw [hintent.staging]; rfl
      unfold Conserves reservedSurplus usedSurplus
      simp only [← happlication, reservedColumn_update app ha hcharges,
        usedColumn_update app ha hcharges, intentBytes_insert app hintent.fresh hlive, share_zero]
      omega
  | intentAdvanced hmem hadvances _ =>
      unfold Conserves reservedSurplus
      simp only [Database.mapUploadIntents, intentBytes_advance app hmem hadvances]
      exact ⟨trivial, rfl⟩
  | @intentEnded ended hended =>
      obtain ⟨a, ha, happlication, -, -⟩ := hended.charge
      have hcharges := chargesBy_release (a := a) ended.intent.expectedSizeBytes
      have hdead : (UploadIntent.terminate ended.state ended.endedAt ended.intent).state.isLive =
          false := by
        rcases hended.terminal with hstate | hstate <;>
          simp [UploadIntent.terminate, hstate, UploadIntentState.isLive]
      unfold Conserves reservedSurplus usedSurplus IntentEnd.apply
      simp only [← happlication, reservedColumn_update app ha hcharges,
        usedColumn_update app ha hcharges, intentBytes_end app hended.intent_mem hended.live hdead,
        share_zero, share_neg]
      omega
  | _ => exact ⟨rfl, rfl⟩

def Consistent (applications : Table Application) : Prop :=
  ∀ a ∈ applications, a.isConsistent = true

theorem Consistent.charge {db : Database} (h : Consistent db.applications)
    {applicationId : ApplicationId} {guard : Application → Bool} {change : Update Application}
    (hcharge : CanCharge db applicationId guard change) :
    Consistent (db.applications.update applicationId change) := by
  obtain ⟨a, ha, hid, -, hchange⟩ := hcharge
  intro row hrow
  rcases (Table.mem_update_of_mem ha hid).1 hrow with ⟨hold, -⟩ | rfl
  · exact h row hold
  · exact hchange

theorem Consistent.giveBack {db : Database} (h : Consistent db.applications)
    {version : ObjectVersion} (hcharge : CanGiveBack db version) :
    Consistent (giveBack db.applications version) := by
  unfold Store.giveBack
  rcases hcharge with hzero | hcharge
  · rw [Table.update_self fun row _ => by simp [Application.releaseUsed, hzero]]
    exact h
  · exact h.charge hcharge

theorem Consistent.setQuota {applications : Table Application} (h : Consistent applications)
    {a : Application} {quotaBytes : Nat} (ha : a ∈ applications)
    (hquota : a.usedBytes + a.reservedBytes ≤ quotaBytes) :
    Consistent (applications.update a.id (Application.setQuota quotaBytes)) := by
  intro row hrow
  rcases (Table.mem_update_of_mem ha rfl).1 hrow with ⟨hold, -⟩ | rfl
  · exact h row hold
  · have hconsistent := h a ha
    simp only [Application.isConsistent, Bool.and_eq_true, decide_eq_true_eq] at hconsistent ⊢
    exact ⟨hconsistent.1, hquota⟩

theorem Accounting.consistent {db db' : Database} (h : Accounting db db')
    (hdb : Consistent db.applications) : Consistent db'.applications := by
  cases h with
  | quotaSet hmem _ hquota => exact hdb.setQuota hmem hquota
  | mediaActivated _ _ hcharge => exact hdb.charge hcharge
  | mediaAborted _ _ hcharge => exact hdb.charge hcharge
  | mediaDeleted _ _ hcharge => exact hdb.charge hcharge
  | sessionCreated _ _ hcharge => exact hdb.charge hcharge
  | sessionEnded _ _ _ hcharge => exact hdb.charge hcharge
  | sessionCompleted _ _ _ _ _ _ hcharge => exact hdb.charge hcharge
  | _ => exact hdb

theorem Effect.consistent [Md5] {licence : Licence} {db db' : Database}
    (h : Effect licence db db') (hdb : Consistent db.applications) :
    Consistent db'.applications := by
  cases h with
  | accounted hstep => exact hstep.consistent hdb
  | versionCommitted hcommit _ _ => exact hdb.charge hcommit.charge
  | @markerPushed marker hmarker _ _ =>
      unfold MarkerPush.apply
      cases hreplaced : marker.push.replaced with
      | none => exact hdb
      | some version => exact hdb.giveBack (hmarker.charge version hreplaced)
  | versionRemoved hremoved _ _ _ => exact hdb.giveBack hremoved.charge
  | headRemoved hremoved _ _ _ => exact hdb.giveBack hremoved.charge
  | intentCreated hintent _ => exact hdb.charge hintent.charge
  | intentEnded hended => exact hdb.charge hended.charge
  | _ => exact hdb

/-- Both columns are what the rows add up to, but for reservations that no row holds yet. -/
structure Balanced (db : Database) (outstanding : ApplicationId → Int) : Prop where
  reserved : ∀ app, reservedSurplus app db = outstanding app
  used : ∀ app, usedSurplus app db = 0
  consistent : Consistent db.applications

section

variable {db : Database} {outstanding : ApplicationId → Int}

theorem reservedColumn_of_mem {a : Application} (ha : a ∈ db.applications) :
    reservedColumn a.id db.applications = a.reservedBytes :=
  Table.sumWhere_key ha _

theorem usedColumn_of_mem {a : Application} (ha : a ∈ db.applications) :
    usedColumn a.id db.applications = a.usedBytes :=
  Table.sumWhere_key ha _

theorem versionBytes_nonneg (app : ApplicationId) (versions : Table ObjectVersion) :
    0 ≤ versionBytes app versions :=
  Table.sumWhere_nonneg fun _ _ => Int.natCast_nonneg _

theorem Balanced.mediaCovered (h : Balanced db outstanding) : MediaCovered db := by
  intro media hmedia hstate a ha hid
  have hused := h.used a.id
  have hstored : (decide (media.applicationId = a.id) && isStoredMedia media) = true := by
    simp [hid, isStoredMedia, hstate]
  have hle : (media.size : Int) ≤ mediaBytes a.id db.media :=
    Table.le_sumWhere (fun _ _ => Int.natCast_nonneg _) hmedia hstored
  have hversions := versionBytes_nonneg a.id db.objectVersions
  unfold usedSurplus at hused
  rw [usedColumn_of_mem ha] at hused
  omega

theorem Balanced.effect [Md5] {licence : Licence} {db' : Database} (h : Balanced db outstanding)
    (hchain : Chain db.buckets db.objects db.objectVersions) (heffect : Effect licence db db') :
    Balanced db' outstanding where
  reserved app := (heffect.conserves hchain h.mediaCovered app).1.trans (h.reserved app)
  used app := (heffect.conserves hchain h.mediaCovered app).2.trans (h.used app)
  consistent := heffect.consistent h.consistent

theorem Balanced.effects [Md5] {licence : Licence} {db' : Database} (h : Balanced db outstanding)
    (hchain : Chain db.buckets db.objects db.objectVersions) (heffects : Effects licence db db') :
    Balanced db' outstanding :=
  (heffects.invariant (P := fun db => Chain db.buckets db.objects db.objectVersions ∧
      Balanced db outstanding)
    (fun _ _ hdb heffect => ⟨heffect.chain hdb.1, hdb.2.effect hdb.1 heffect⟩) ⟨hchain, h⟩).2

end

end MediaHub.Store
