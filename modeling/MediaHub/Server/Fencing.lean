import MediaHub.Server.Ledgers

namespace MediaHub.Server

open Relational
open MediaHub.Core
open MediaHub.Store

/-- The event is the commit of a worker that holds the lease of the intent when it commits. -/
def CommitsUnderLease (s : State) (e : Event) (intent : UploadIntent) : Prop :=
  ∃ worker ∈ s.puts, ∃ commit, worker.phase = .prepared commit ∧
    (e = .commitPut worker.id ∨ ∃ uploadId, e = .commitMultipart worker.id uploadId) ∧
    UploadIntent.holdsLease worker.request.leaseToken (postgresTime commit.committedAt) intent

/-- The event releases the intent for a caller that holds its lease. -/
def ReleasesUnderLease (e : Event) (intent : UploadIntent) : Prop :=
  ∃ leaseToken now, e = .call (.releaseIntent intent.id leaseToken now) ∧
    UploadIntent.holdsLease leaseToken (postgresTime now) intent

theorem workerLicence_commits {db : Database} {worker : PutWorker} {intent : UploadIntent}
    (h : (workerLicence db worker).commits intent) :
    intent ∈ db.uploadIntents ∧ ∃ commit, worker.phase = .prepared commit ∧
      UploadIntent.holdsLease worker.request.leaseToken (postgresTime commit.committedAt)
        intent := by
  unfold workerLicence at h
  split at h
  · exact ⟨h.1, _, ‹_›, h.2⟩
  · exact h.elim

theorem workerLicence_releases {db : Database} {worker : PutWorker} {intent : UploadIntent} :
    ¬ (workerLicence db worker).releases intent := by
  unfold workerLicence
  split <;> exact False.elim

theorem licence_of_row {α : Type} [Keyed α Uuid] {t : Table α} {k : Uuid} {f : α → Licence}
    {P : Licence → Prop} (hnone : ¬ P Licence.none) (h : P ((t.find? k).elim Licence.none f)) :
    ∃ row ∈ t, Keyed.key row = k ∧ P (f row) := by
  cases hfind : t.find? k with
  | none =>
      rw [hfind] at h
      exact absurd h hnone
  | some row =>
      rw [hfind] at h
      obtain ⟨hmem, hkey⟩ := Table.find?_eq_some_iff.1 hfind
      exact ⟨row, hmem, hkey, h⟩

theorem licence_commits {s : State} {e : Event} {intent : UploadIntent}
    (h : (s.licence e).commits intent) :
    intent ∈ s.db.uploadIntents ∧ CommitsUnderLease s e intent := by
  have hworker : ∀ worker,
      ((s.puts.find? worker).elim Licence.none (workerLicence s.db)).commits intent →
      (e = .commitPut worker ∨ ∃ uploadId, e = .commitMultipart worker uploadId) →
      intent ∈ s.db.uploadIntents ∧ CommitsUnderLease s e intent := by
    intro worker hcommits he
    obtain ⟨row, hrow, rfl, hrowCommits⟩ :=
      licence_of_row (P := fun licence => licence.commits intent) id hcommits
    obtain ⟨hintent, commit, hphase, hlease⟩ := workerLicence_commits hrowCommits
    exact ⟨hintent, row, hrow, commit, hphase, he, hlease⟩
  cases e with
  | commitPut worker => exact hworker worker h (Or.inl rfl)
  | commitMultipart worker uploadId => exact hworker worker h (Or.inr ⟨uploadId, rfl⟩)
  | call command => cases command <;> exact h.elim
  | putPart nonce =>
      obtain ⟨_, -, -, hrow⟩ :=
        licence_of_row (P := fun licence => licence.commits intent) id h
      exact hrow.elim
  | queuePart nonce =>
      obtain ⟨_, -, -, hrow⟩ :=
        licence_of_row (P := fun licence => licence.commits intent) id h
      exact hrow.elim
  | _ => exact h.elim

theorem licence_releases {s : State} {e : Event} {intent : UploadIntent}
    (h : (s.licence e).releases intent) :
    intent ∈ s.db.uploadIntents ∧ ReleasesUnderLease e intent := by
  have hrow : ∀ {α : Type} [Keyed α Uuid] {t : Table α} {k : Uuid} {f : α → Licence},
      ((t.find? k).elim Licence.none f).releases intent → ∃ row, (f row).releases intent := by
    intro α _ t k f hreleases
    obtain ⟨row, -, -, hrow⟩ :=
      licence_of_row (P := fun licence => licence.releases intent) id hreleases
    exact ⟨row, hrow⟩
  cases e with
  | call command =>
      cases command with
      | releaseIntent intentId leaseToken now =>
          obtain ⟨hintent, rfl, hlease⟩ := h
          exact ⟨hintent, leaseToken, now, rfl, hlease⟩
      | _ => exact h.elim
  | commitPut =>
      obtain ⟨worker, hworker⟩ := hrow h
      exact absurd hworker workerLicence_releases
  | commitMultipart =>
      obtain ⟨worker, hworker⟩ := hrow h
      exact absurd hworker workerLicence_releases
  | putPart =>
      obtain ⟨_, hrequest⟩ := hrow h
      exact hrequest.elim
  | queuePart =>
      obtain ⟨_, hrequest⟩ := hrow h
      exact hrequest.elim
  | _ => exact h.elim

/-- What one event may do to an intent. -/
structure IntentStep (s s' : State) (e : Event) (intent row : UploadIntent) : Prop where
  id_eq : row.id = intent.id
  terminal : intent.state.isLive = false → row = intent
  committed : row.state = .committed → intent.state ≠ .committed → CommitsUnderLease s e intent
  released : intent.state = .committing →
    row.state = .committing ∨ row.state = .aborted ∨ row.state = .expired ∨
      CommitsUnderLease s e intent ∨ ReleasesUnderLease e intent

theorem Sound.intentStep [Md5] {s : State} (h : Sound s) (e : Event) {intent : UploadIntent}
    (hintent : intent ∈ s.db.uploadIntents) :
    ∃ row ∈ (s.step e).db.uploadIntents, IntentStep s (s.step e) e intent row := by
  have hsame : ∀ old, old.facts = intent.facts → old ∈ s.db.uploadIntents → old = intent :=
    fun old hfacts hold => Table.eq_of_key hold hintent (congrArg IntentFacts.id hfacts)
  cases h.step_cases e with
  | effects heffects =>
      obtain ⟨row, hrow, hfenced⟩ := heffects.intent_fenced hintent
      refine ⟨row, hrow, congrArg IntentFacts.id hfenced.facts_eq, hfenced.terminal,
        fun hstate hold => ?_, fun hstate => ?_⟩
      · rcases hfenced.committed hstate with hcommitted | ⟨old, hfacts, hcommits⟩
        · exact absurd hcommitted hold
        · obtain ⟨holdMem, hlease⟩ := licence_commits hcommits
          rwa [hsame old hfacts holdMem] at hlease
      · rcases hfenced.released hstate with hrow | hrow | hrow | ⟨old, hfacts, hlicensed⟩
        · exact Or.inl hrow
        · exact Or.inr (Or.inl hrow)
        · exact Or.inr (Or.inr (Or.inl hrow))
        · refine Or.inr (Or.inr (Or.inr ?_))
          rcases hlicensed with hcommits | hreleases
          · obtain ⟨holdMem, hlease⟩ := licence_commits hcommits
            rw [hsame old hfacts holdMem] at hlease
            exact Or.inl hlease
          · obtain ⟨holdMem, hlease⟩ := licence_releases hreleases
            rw [hsame old hfacts holdMem] at hlease
            exact Or.inr hlease
  | bare hbare =>
      obtain ⟨applications, media, reservations, hstep⟩ := hbare.frame
      refine ⟨intent, ?_, rfl, fun _ => rfl, fun hstate hold => absurd hstate hold, Or.inl⟩
      rw [hstep]
      exact hintent

/-- A version is inserted exactly for the intent that becomes committed with its ids. -/
theorem inserted_iff_committed {db db' : Database} (h : IntentsSound db) (h' : IntentsSound db')
    (hkept : ∀ version ∈ db.objectVersions, ∃ row ∈ db'.objectVersions,
      row.facts = version.facts)
    (hintents : ∀ intent ∈ db.uploadIntents, ∃ row ∈ db'.uploadIntents, row.id = intent.id ∧
      (intent.state = .committed → row = intent)) (versionId : ObjectVersionId) :
    (db.objectVersions.find? versionId = none ∧ ∃ row ∈ db'.objectVersions,
      row.id = versionId ∧ row.payload ≠ .deleteMarker) ↔
    ∃ row ∈ db'.uploadIntents, row.state = .committed ∧
      row.committedVersionId = some versionId ∧
      ∀ intent ∈ db.uploadIntents, intent.id = row.id → intent.state ≠ .committed := by
  constructor
  · rintro ⟨hfresh, version, hversion, rfl, hdata⟩
    obtain ⟨row, hrow, hstate, hproposed⟩ := h'.owner version hversion hdata
    obtain ⟨other, hother, -, hid, -, hversionId, -⟩ := h'.committed row hrow hstate
    refine ⟨row, hrow, hstate, by rw [hversionId, hid, hproposed],
      fun intent hintent hrowId hold => ?_⟩
    obtain ⟨kept, hkeptMem, hkeptId, hkeptEq⟩ := hintents intent hintent
    have heq : row = intent :=
      (Table.eq_of_key hrow hkeptMem (hrowId.symm.trans hkeptId.symm)).trans (hkeptEq hold)
    obtain ⟨old, hold', -, holdId, -⟩ := h.committed intent hintent hold
    exact Table.find?_eq_none_iff.1 hfresh old hold'
      (holdId.trans ((congrArg UploadIntent.proposedVersionId heq.symm).trans hproposed))
  · rintro ⟨row, hrow, hstate, hversionId, hnew⟩
    obtain ⟨version, hversion, hdata, hid, -, hcommittedId, -⟩ := h'.committed row hrow hstate
    have hversionEq : version.id = versionId :=
      Option.some.inj (hcommittedId.symm.trans hversionId)
    refine ⟨Table.find?_eq_none_iff.2 fun old hold holdId => ?_, version, hversion, hversionEq,
      hdata⟩
    obtain ⟨kept, hkeptMem, hfacts⟩ := hkept old hold
    have hkeptEq : kept = version := Table.eq_of_key hkeptMem hversion
      ((ObjectVersion.id_of_facts hfacts).trans (holdId.trans hversionEq.symm))
    have holdData : old.payload ≠ .deleteMarker := by
      rw [← ObjectVersion.payload_of_facts hfacts, hkeptEq]
      exact hdata
    obtain ⟨intent, hintent, hcommitted, hproposed⟩ := h.owner old hold holdData
    obtain ⟨keptIntent, hkeptIntent, hkeptId, hkeptRow⟩ := hintents intent hintent
    have hrowEq : keptIntent = row := h'.proposed_inj keptIntent hkeptIntent row hrow (by
      rw [hkeptRow hcommitted, hproposed]
      exact holdId.trans (hversionEq.symm.trans hid))
    refine hnew intent hintent ?_ hcommitted
    rw [← hkeptId, hrowEq]

theorem Sound.inserted_iff_committed [Md5] {s : State} (h : Sound s) (hcleanup : CleanupSound s.db)
    (e : Event) (versionId : ObjectVersionId) :
    (s.db.objectVersions.find? versionId = none ∧ ∃ row ∈ (s.step e).db.objectVersions,
      row.id = versionId ∧ row.payload ≠ .deleteMarker) ↔
    ∃ row ∈ (s.step e).db.uploadIntents, row.state = .committed ∧
      row.committedVersionId = some versionId ∧
      ∀ intent ∈ s.db.uploadIntents, intent.id = row.id → intent.state ≠ .committed := by
  have hcases := h.step_cases e
  refine Server.inserted_iff_committed hcleanup.intents (hcases.cleanupSound hcleanup).intents
    (fun version hversion => ?_) (fun intent hintent => ?_) versionId
  · cases hcases with
    | effects heffects =>
        obtain ⟨row, hrow, hfacts, -⟩ := heffects.version_kept hversion
        exact ⟨row, hrow, hfacts⟩
    | bare hbare =>
        obtain ⟨applications, media, reservations, hstep⟩ := hbare.frame
        rw [hstep]
        exact ⟨version, hversion, rfl⟩
  · obtain ⟨row, hrow, hstep⟩ := h.intentStep e hintent
    refine ⟨row, hrow, hstep.id_eq, fun hstate => hstep.terminal ?_⟩
    rw [hstate]
    rfl

/-- The fencing of upload intents: in every reachable state the rows are consistent and no two
committed intents share a version; every event keeps terminal rows, commits or releases only for
the holder of an unexpired lease, and inserts a version exactly for the intent that becomes
committed with its ids. -/
theorem reachable_fencing [Md5] (s : State) (h : system.Reachable s) (e : Event) :
    (∀ intent ∈ s.db.uploadIntents, intent.fromPersistence = .ok intent) ∧
    (∀ intent ∈ s.db.uploadIntents, ∀ other ∈ s.db.uploadIntents, intent.state = .committed →
      other.state = .committed → intent.committedVersionId = other.committedVersionId →
      intent = other) ∧
    (∀ version ∈ s.db.objectVersions, version.payload ≠ .deleteMarker →
      ∃ intent ∈ s.db.uploadIntents, intent.state = .committed ∧
        intent.committedVersionId = some version.id ∧
        intent.committedObjectId = some version.objectId) ∧
    (∀ intent ∈ s.db.uploadIntents,
      ∃ row ∈ (s.step e).db.uploadIntents, IntentStep s (s.step e) e intent row) ∧
    (∀ versionId, (s.db.objectVersions.find? versionId = none ∧
      ∃ row ∈ (s.step e).db.objectVersions, row.id = versionId ∧ row.payload ≠ .deleteMarker) ↔
      ∃ row ∈ (s.step e).db.uploadIntents, row.state = .committed ∧
        row.committedVersionId = some versionId ∧
        ∀ intent ∈ s.db.uploadIntents, intent.id = row.id → intent.state ≠ .committed) := by
  have hsound := Sound.of_reachable h
  have hcleanup := cleanupSound_of_reachable h
  refine ⟨hcleanup.intents.consistent, fun intent hintent other hother hstate hstate' heq => ?_,
    fun version hversion hdata => ?_, fun intent hintent => hsound.intentStep e hintent,
    fun versionId => hsound.inserted_iff_committed hcleanup e versionId⟩
  · obtain ⟨version, -, -, hid, -, hversionId, -⟩ :=
      hcleanup.intents.committed intent hintent hstate
    obtain ⟨version', -, -, hid', -, hversionId', -⟩ :=
      hcleanup.intents.committed other hother hstate'
    refine hcleanup.intents.proposed_inj intent hintent other hother ?_
    rw [hversionId, hversionId'] at heq
    exact hid.symm.trans ((Option.some.inj heq).trans hid')
  · obtain ⟨intent, hintent, hstate, hproposed⟩ :=
      hcleanup.intents.owner version hversion hdata
    obtain ⟨other, hother, -, hid, -, hversionId, hobjectId⟩ :=
      hcleanup.intents.committed intent hintent hstate
    have heq : other = version := Table.eq_of_key hother hversion (hid.trans hproposed)
    subst heq
    exact ⟨intent, hintent, hstate, hversionId, hobjectId⟩

/-- A PUT that is about to commit. -/
def preparedPut : List Event :=
  [.call (.createBucket plainBucket)] ++ firstPut.stage ++ firstPut.prepare

/-- Its commit inserts its version, and the intent becomes committed with it. -/
theorem reachable_fencing_preparedPut :
    letI := noMd5
    let s := system.run (State.installation 1 1000) preparedPut
    let e := Event.commitPut firstPut.worker
    (∃ intent ∈ s.db.uploadIntents, intent.state = .committing ∧
      ∃ row ∈ (s.step e).db.uploadIntents, IntentStep s (s.step e) e intent row) ∧
    s.db.objectVersions.find? firstPut.versionId = none ∧
    (∃ row ∈ (s.step e).db.objectVersions, row.id = firstPut.versionId ∧
      row.payload ≠ .deleteMarker) ∧
    ∃ row ∈ (s.step e).db.uploadIntents, row.state = .committed ∧
      row.committedVersionId = some firstPut.versionId := by
  have hfencing := @reachable_fencing noMd5 _ (@reachable_run noMd5 preparedPut)
    (.commitPut firstPut.worker)
  have hintent :
      letI := noMd5
      ∃ intent ∈ (system.run (State.installation 1 1000) preparedPut).db.uploadIntents,
        intent.state = .committing := by
    decide +kernel
  have hinserted :
      letI := noMd5
      let s := system.run (State.installation 1 1000) preparedPut
      s.db.objectVersions.find? firstPut.versionId = none ∧
        ∃ row ∈ (s.step (.commitPut firstPut.worker)).db.objectVersions,
          row.id = firstPut.versionId ∧ row.payload ≠ .deleteMarker := by
    decide +kernel
  obtain ⟨intent, hmem, hstate⟩ := hintent
  obtain ⟨row, hrow, hcommitted, hversion, -⟩ :=
    (hfencing.2.2.2.2 firstPut.versionId).1 hinserted
  exact ⟨⟨intent, hmem, hstate, hfencing.2.2.2.1 intent hmem⟩, hinserted.1, hinserted.2,
    row, hrow, hcommitted, hversion⟩

end MediaHub.Server
