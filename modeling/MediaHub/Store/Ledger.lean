import MediaHub.Relational.Rewrite
import MediaHub.Store.Chain

namespace MediaHub.Store

open Relational
open MediaHub.Core

section Sums

variable (app : ApplicationId)

/-- `reserved_bytes` of the application; nothing if it is not there. -/
def reservedColumn (applications : Table Application) : Int :=
  applications.sumWhere (·.id = app) (·.reservedBytes)

/-- `used_bytes` of the application. -/
def usedColumn (applications : Table Application) : Int :=
  applications.sumWhere (·.id = app) (·.usedBytes)

/-- The expected sizes of the staging, ready and committing intents. -/
def intentBytes (intents : Table UploadIntent) : Int :=
  intents.sumWhere (fun intent => intent.applicationId = app && intent.state.isLive)
    (·.expectedSizeBytes)

/-- The expected sizes of the pending sessions. -/
def sessionBytes (sessions : Table UploadSession) : Int :=
  sessions.sumWhere (fun session => session.applicationId = app && session.state = .pending)
    (·.expectedSize)

def uploadingBytes (media : Table Media) : Int :=
  media.sumWhere (fun media => media.applicationId = app && media.state = .uploading) (·.size)

/-- A medium that is uploaded and not deleted uses its bytes. -/
def isStoredMedia (media : Media) : Bool := media.state ≠ .uploading && media.state ≠ .deleted

def mediaBytes (media : Table Media) : Int :=
  media.sumWhere (fun media => media.applicationId = app && isStoredMedia media) (·.size)

/-- The sizes of the active versions; a delete marker has none. -/
def versionBytes (versions : Table ObjectVersion) : Int :=
  versions.sumWhere (fun version => version.applicationId = app && version.isActive) (·.sizeBytes)

/-- What the reserved column holds beyond the rows that are charged to it. -/
def reservedSurplus (db : Database) : Int :=
  reservedColumn app db.applications - (intentBytes app db.uploadIntents +
    sessionBytes app db.uploadSessions + uploadingBytes app db.media)

/-- What the used column holds beyond the rows that are charged to it. -/
def usedSurplus (db : Database) : Int :=
  usedColumn app db.applications -
    (versionBytes app db.objectVersions + mediaBytes app db.media)

end Sums

/-- The part of an amount that belongs to an application. -/
def share (app owner : ApplicationId) (bytes : Int) : Int := if owner = app then bytes else 0

@[simp] theorem share_zero (app owner : ApplicationId) : share app owner 0 = 0 := by
  simp [share]

@[simp] theorem share_neg (app owner : ApplicationId) (x : Int) :
    share app owner (-x) = -share app owner x := by
  unfold share
  split <;> simp

@[simp] theorem share_sub (app owner : ApplicationId) (x y : Int) :
    share app owner (x - y) = share app owner x - share app owner y := by
  unfold share
  split <;> simp

/-- A row counts for its owner while it is held. -/
theorem weigh_owned {α : Type} {app : ApplicationId} {owner : α → ApplicationId}
    {held : α → Bool} {weight : α → Int} (r : α) :
    weigh (fun r => decide (owner r = app) && held r) weight r =
      if held r then share app (owner r) (weight r) else 0 := by
  unfold weigh share
  by_cases howner : owner r = app <;> simp [howner]

/-- A charge moves the columns of one application by these amounts. -/
structure ChargesBy (change : Update Application) (a : Application) (reserved used : Int) :
    Prop where
  reserved_eq : (change a).reservedBytes = a.reservedBytes + reserved
  used_eq : (change a).usedBytes = a.usedBytes + used

section Columns

variable {applications : Table Application} {a : Application} {change : Update Application}
  {reserved used : Int}

theorem reservedColumn_update (app : ApplicationId) (ha : a ∈ applications)
    (h : ChargesBy change a reserved used) :
    reservedColumn app (applications.update a.id change) =
      reservedColumn app applications + share app a.id reserved := by
  have hid : (change a).id = a.id := change.key_apply a
  unfold reservedColumn share
  rw [Table.sumWhere_update (k := a.id) ha rfl]
  simp only [weigh, hid, h.reserved_eq]
  by_cases hown : a.id = app <;> simp [hown]

theorem usedColumn_update (app : ApplicationId) (ha : a ∈ applications)
    (h : ChargesBy change a reserved used) :
    usedColumn app (applications.update a.id change) =
      usedColumn app applications + share app a.id used := by
  have hid : (change a).id = a.id := change.key_apply a
  unfold usedColumn share
  rw [Table.sumWhere_update (k := a.id) ha rfl]
  simp only [weigh, hid, h.used_eq]
  by_cases hown : a.id = app <;> simp [hown]

theorem chargesBy_reserve (bytes : Nat) : ChargesBy (Application.reserve bytes) a bytes 0 :=
  ⟨rfl, (Int.add_zero _).symm⟩

theorem chargesBy_release (bytes : Nat) : ChargesBy (Application.release bytes) a (-bytes) 0 :=
  ⟨rfl, (Int.add_zero _).symm⟩

theorem chargesBy_transfer (committed released : Nat) :
    ChargesBy (Application.transfer committed released) a (-committed) (committed - released) :=
  ⟨rfl, Int.add_sub_assoc _ _ _⟩

theorem chargesBy_releaseUsed (bytes : Nat) :
    ChargesBy (Application.releaseUsed bytes) a 0 (-bytes) :=
  ⟨(Int.add_zero _).symm, rfl⟩

/-- The clamp does nothing while the bytes are used. -/
theorem chargesBy_releaseUsedClamped {bytes : Nat} (h : bytes ≤ a.usedBytes) :
    ChargesBy (Application.releaseUsedClamped bytes) a 0 (-bytes) :=
  ⟨(Int.add_zero _).symm, max_eq_left (Int.sub_nonneg.2 h)⟩

theorem chargesBy_setQuota (quotaBytes : Nat) :
    ChargesBy (Application.setQuota quotaBytes) a 0 0 :=
  ⟨(Int.add_zero _).symm, (Int.add_zero _).symm⟩

end Columns

section Rows

variable (app : ApplicationId)

theorem intentBytes_insert {intents : Table UploadIntent} {intent : UploadIntent}
    (hfresh : intents.find? intent.id = none) (hlive : intent.state.isLive) :
    intentBytes app (intents.insert intent) =
      intentBytes app intents + share app intent.applicationId intent.expectedSizeBytes := by
  unfold intentBytes
  rw [Table.sumWhere_insert hfresh, weigh_owned, if_pos hlive, Int.add_comm]

/-- An intent that ends gives up its reservation. -/
theorem intentBytes_end {intents : Table UploadIntent} {intent : UploadIntent}
    {f : Update UploadIntent} (hmem : intent ∈ intents) (hlive : intent.state.isLive)
    (hended : (f intent).state.isLive = false) :
    intentBytes app (intents.update intent.id f) =
      intentBytes app intents - share app intent.applicationId intent.expectedSizeBytes := by
  unfold intentBytes
  rw [Table.sumWhere_update (k := intent.id) hmem rfl, weigh_owned, weigh_owned, if_pos hlive,
    if_neg (by simp [hended])]
  omega

theorem intentBytes_advance {intents : Table UploadIntent} {intent : UploadIntent}
    {f : Update UploadIntent} (hmem : intent ∈ intents) (h : Advances intent (f intent)) :
    intentBytes app (intents.update intent.id f) = intentBytes app intents := by
  have happlication : (f intent).applicationId = intent.applicationId :=
    congrArg IntentFacts.applicationId h.facts_eq
  have hsize : (f intent).expectedSizeBytes = intent.expectedSizeBytes :=
    congrArg IntentFacts.expectedSizeBytes h.facts_eq
  unfold intentBytes
  rw [Table.sumWhere_update (k := intent.id) hmem rfl, weigh_owned, weigh_owned, if_pos h.live,
    if_pos h.live', happlication, hsize]
  omega

theorem sessionBytes_insert {sessions : Table UploadSession} {session : UploadSession}
    (hfresh : sessions.find? session.id = none) (hpending : session.state = .pending) :
    sessionBytes app (sessions.insert session) =
      sessionBytes app sessions + share app session.applicationId session.expectedSize := by
  unfold sessionBytes
  rw [Table.sumWhere_insert hfresh, weigh_owned, if_pos (by simp [hpending]), Int.add_comm]

theorem sessionBytes_finish {sessions : Table UploadSession} {session : UploadSession}
    {state : UploadSessionState} {now : Time} (hmem : session ∈ sessions)
    (hpending : session.state = .pending) (hend : state ≠ .pending) :
    sessionBytes app (sessions.update session.id (UploadSession.finish state now)) =
      sessionBytes app sessions - share app session.applicationId session.expectedSize := by
  unfold sessionBytes
  rw [Table.sumWhere_update (k := session.id) hmem rfl, weigh_owned, weigh_owned,
    if_neg (by simp [UploadSession.finish, hend]), if_pos (by simp [hpending])]
  omega

theorem sessionBytes_touch {sessions : Table UploadSession} {sessionId : UploadSessionId}
    {f : Update UploadSession}
    (hshare : ∀ session, sessionShare (f session) = sessionShare session) :
    sessionBytes app (sessions.update sessionId f) = sessionBytes app sessions := by
  refine Table.sumWhere_update_same _ _ fun session _ => ?_
  have happlication : (f session).applicationId = session.applicationId :=
    congrArg SessionShare.applicationId (hshare session)
  have hpending : decide ((f session).state = .pending) = decide (session.state = .pending) :=
    congrArg SessionShare.pending (hshare session)
  have hsize : (f session).expectedSize = session.expectedSize :=
    congrArg SessionShare.expectedSize (hshare session)
  rw [weigh_owned, weigh_owned, happlication, hpending, hsize]

section Media

variable {table : Table Media} {media : Media}

theorem uploadingBytes_insert (hfresh : table.find? media.id = none) :
    uploadingBytes app (table.insert media) = uploadingBytes app table +
      if media.state = .uploading then share app media.applicationId media.size else 0 := by
  unfold uploadingBytes
  rw [Table.sumWhere_insert hfresh, weigh_owned, Int.add_comm]
  simp only [decide_eq_true_eq]

theorem mediaBytes_insert (hfresh : table.find? media.id = none) :
    mediaBytes app (table.insert media) = mediaBytes app table +
      if isStoredMedia media then share app media.applicationId media.size else 0 := by
  unfold mediaBytes
  rw [Table.sumWhere_insert hfresh, weigh_owned, Int.add_comm]

theorem uploadingBytes_delete (hmem : media ∈ table) (hstate : media.state = .uploading) :
    uploadingBytes app (table.delete media.id) =
      uploadingBytes app table - share app media.applicationId media.size := by
  unfold uploadingBytes
  rw [Table.sumWhere_delete (k := media.id) hmem rfl, weigh_owned, if_pos (by simp [hstate])]

theorem mediaBytes_delete (hmem : media ∈ table) (hstate : media.state = .uploading) :
    mediaBytes app (table.delete media.id) = mediaBytes app table := by
  unfold mediaBytes
  rw [Table.sumWhere_delete (k := media.id) hmem rfl, weigh_owned,
    if_neg (by simp [isStoredMedia, hstate]), Int.sub_zero]

theorem moveTo_of_canTransition {next : MediaState} (now : Time)
    (h : media.state.canTransitionTo next) :
    (Media.moveTo next now media).applicationId = media.applicationId ∧
      (Media.moveTo next now media).state = next ∧
      (Media.moveTo next now media).size = media.size := by
  simp [Media.moveTo, Media.transitionTo, h]

/-- No medium moves back to uploading. -/
theorem uploadingBytes_moveTo {next : MediaState} {now : Time} (hmem : media ∈ table)
    (h : media.state.canTransitionTo next) :
    uploadingBytes app (table.update media.id (Media.moveTo next now)) =
      uploadingBytes app table -
        if media.state = .uploading then share app media.applicationId media.size else 0 := by
  obtain ⟨happlication, hstate, hsize⟩ := moveTo_of_canTransition now h
  have hnext : next ≠ .uploading := by
    rintro rfl
    unfold MediaState.canTransitionTo at h
    split at h <;> simp_all
  unfold uploadingBytes
  rw [Table.sumWhere_update (k := media.id) hmem rfl, weigh_owned, weigh_owned,
    if_neg (by simp [hstate, hnext])]
  simp only [decide_eq_true_eq]
  omega

theorem mediaBytes_moveTo {next : MediaState} {now : Time} (hmem : media ∈ table)
    (h : media.state.canTransitionTo next) :
    mediaBytes app (table.update media.id (Media.moveTo next now)) = mediaBytes app table +
      ((if next = .deleted then 0 else share app media.applicationId media.size) -
        if media.state = .uploading then 0 else share app media.applicationId media.size) := by
  obtain ⟨happlication, hstate, hsize⟩ := moveTo_of_canTransition now h
  unfold mediaBytes
  rw [Table.sumWhere_update (k := media.id) hmem rfl, weigh_owned, weigh_owned, happlication,
    hsize]
  congr 1
  unfold MediaState.canTransitionTo at h
  split at h <;> simp_all [isStoredMedia]

theorem uploadingBytes_touch {mediaId : MediaId} {f : Update Media}
    (hshare : ∀ media, mediaShare (f media) = mediaShare media) :
    uploadingBytes app (table.update mediaId f) = uploadingBytes app table := by
  refine Table.sumWhere_update_same _ _ fun media _ => ?_
  have happlication : (f media).applicationId = media.applicationId :=
    congrArg MediaShare.applicationId (hshare media)
  have hstate : (f media).state = media.state := congrArg MediaShare.state (hshare media)
  have hsize : (f media).size = media.size := congrArg MediaShare.size (hshare media)
  rw [weigh_owned, weigh_owned, happlication, hstate, hsize]

theorem mediaBytes_touch {mediaId : MediaId} {f : Update Media}
    (hshare : ∀ media, mediaShare (f media) = mediaShare media) :
    mediaBytes app (table.update mediaId f) = mediaBytes app table := by
  refine Table.sumWhere_update_same _ _ fun media _ => ?_
  have happlication : (f media).applicationId = media.applicationId :=
    congrArg MediaShare.applicationId (hshare media)
  have hstate : (f media).state = media.state := congrArg MediaShare.state (hshare media)
  have hsize : (f media).size = media.size := congrArg MediaShare.size (hshare media)
  rw [weigh_owned, weigh_owned, isStoredMedia, isStoredMedia, happlication, hstate, hsize]

end Media

section Versions

variable {db : Database}

/-- A version whose row keeps its facts and its activity weighs the same. -/
theorem weigh_version_eq {f : Update ObjectVersion} {version : ObjectVersion}
    (hfacts : (f version).facts = version.facts)
    (hactive : (f version).isActive = version.isActive) :
    weigh (fun version => decide (version.applicationId = app) && version.isActive)
        (fun version => (version.sizeBytes : Int)) (f version) =
      weigh (fun version => decide (version.applicationId = app) && version.isActive)
        (fun version => (version.sizeBytes : Int)) version := by
  rw [weigh_owned, weigh_owned, hactive, ObjectVersion.applicationId_of_facts hfacts,
    ObjectVersion.sizeBytes_of_facts hfacts]

/-- One version stops being active. -/
theorem versionBytes_retire {f : Update ObjectVersion} {target : ObjectVersion}
    (hf : KeepsFacts f) (hmem : target ∈ db.objectVersions) (htarget : target.isActive)
    (hactive : ∀ version ∈ db.objectVersions,
      (f version).isActive = (version.isActive && decide (version.id ≠ target.id))) :
    versionBytes app (db.objectVersions.rewrite f) =
      versionBytes app db.objectVersions - share app target.applicationId target.sizeBytes := by
  have hother : ∀ version ∈ db.objectVersions, version ≠ target →
      (f version).isActive = version.isActive := by
    intro version hversion hne
    have hid : version.id ≠ target.id := fun hid => hne (Table.eq_of_key hversion hmem hid)
    rw [hactive version hversion, decide_eq_true hid, Bool.and_true]
  have hgone : (f target).isActive = false := by
    rw [hactive target hmem]
    simp
  unfold versionBytes
  rw [Table.sumWhere_rewrite_one hmem fun version hversion hne =>
      weigh_version_eq app (hf version) (hother version hversion hne),
    weigh_owned, weigh_owned, if_pos htarget, if_neg (by simp [hgone])]
  omega

theorem versionBytes_push {push : Push} (h : push.Valid db) :
    versionBytes app (push.versions db.objectVersions) =
      versionBytes app db.objectVersions +
        (share app push.version.applicationId push.version.sizeBytes -
          push.replaced.elim 0
            fun version => share app version.applicationId version.sizeBytes) := by
  have hfresh : (db.objectVersions.rewrite push.age).find? push.version.id = none := by
    rw [Table.find?_rewrite]
    exact Option.map_eq_none_iff.2 h.fresh
  have haged : versionBytes app (db.objectVersions.rewrite push.age) =
      versionBytes app db.objectVersions -
        push.replaced.elim 0 fun version => share app version.applicationId version.sizeBytes := by
    cases hreplaced : push.replaced with
    | none =>
        rw [Option.elim, Int.sub_zero]
        refine Table.sumWhere_rewrite _ fun version _ =>
          weigh_version_eq app (push.keepsFacts_age version) ?_
        simp [push.isActive_age, hreplaced]
    | some previous =>
        obtain ⟨hmem, -, hactive, -⟩ := h.replaced_mem previous hreplaced
        refine versionBytes_retire app push.keepsFacts_age hmem hactive fun version _ => ?_
        rw [push.isActive_age, hreplaced]
        simp [eq_comm]
  have hinsert : versionBytes app (push.versions db.objectVersions) =
      versionBytes app (db.objectVersions.rewrite push.age) +
        share app push.version.applicationId push.version.sizeBytes := by
    unfold versionBytes Push.versions
    rw [Table.sumWhere_insert hfresh, weigh_owned, if_pos h.active, Int.add_comm]
  rw [hinsert, haged]
  omega

theorem versionBytes_removal {removal : Removal} (h : removal.Valid db) :
    versionBytes app (db.objectVersions.rewrite removal.age) =
      versionBytes app db.objectVersions -
        share app removal.target.applicationId removal.target.sizeBytes :=
  versionBytes_retire app (Removal.keepsFacts_age h.retires) h.target_mem h.active
    fun version _ => Removal.isActive_age h.retires version

end Versions

end Rows

end MediaHub.Store
