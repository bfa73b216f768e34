import MediaHub.Store.Cleanup
import MediaHub.Store.HistoryRows
import MediaHub.Store.LedgerEffects
import MediaHub.Store.LifecycleEffects

namespace MediaHub.Store

open Relational
open MediaHub.Core

/-- Histories, queue and ledger are as the transactions leave them. -/
structure Standing (db : Database) : Prop where
  chain : Chain db.buckets db.objects db.objectVersions
  rows : HistoryRows db.buckets db.objects db.objectVersions
  exact : QueueExact db
  ledger : ∃ outstanding, Balanced db outstanding

/-- Only an application that is there uses anything. -/
theorem exists_of_usedColumn (applications : Table Application) (app : ApplicationId)
    (h : 0 < usedColumn app applications) : ∃ a ∈ applications, a.id = app := by
  by_contra hnone
  have hzero : usedColumn app applications = 0 := by
    refine Table.sum_zero fun a ha => if_neg ?_
    rw [decide_eq_true_eq]
    exact fun hid => hnone ⟨a, ha, hid⟩
  omega

/-- The bytes of an active version are used. -/
theorem Standing.canGiveBack {db : Database} (h : Standing db) {version : ObjectVersion}
    (hmem : version ∈ db.objectVersions) (hactive : version.isActive) :
    CanGiveBack db version := by
  obtain ⟨outstanding, hbalanced⟩ := h.ledger
  by_cases hzero : version.sizeBytes = 0
  · exact Or.inl hzero
  have hused := hbalanced.used version.applicationId
  have hheld : (decide (version.applicationId = version.applicationId) && version.isActive) =
      true := by
    simp [hactive]
  have hle : (version.sizeBytes : Int) ≤ versionBytes version.applicationId db.objectVersions :=
    Table.le_sumWhere (fun _ _ => Int.natCast_nonneg _) hmem hheld
  have hmedia : 0 ≤ mediaBytes version.applicationId db.media :=
    Table.sumWhere_nonneg fun _ _ => Int.natCast_nonneg _
  unfold usedSurplus at hused
  obtain ⟨a, ha, hid⟩ := exists_of_usedColumn db.applications version.applicationId
    (by omega)
  have hcolumn := usedColumn_of_mem ha
  rw [hid] at hcolumn
  have hconsistent := hbalanced.consistent a ha
  simp only [Application.isConsistent, Bool.and_eq_true, decide_eq_true_eq] at hconsistent
  refine Or.inr ⟨a, ha, hid, ?_, ?_⟩
  · rw [decide_eq_true_eq]
    omega
  · simp only [Application.isConsistent, Bool.and_eq_true, decide_eq_true_eq]
    exact ⟨⟨Int.sub_nonneg.2 (by omega), hconsistent.1.2⟩,
      by change a.usedBytes - _ + a.reservedBytes ≤ a.quotaBytes; omega⟩

theorem run_releaseS3UsedBytes {db : Database} {version : ObjectVersion}
    (hsize : version.sizeBytes ≤ maxI64) (h : CanGiveBack db version) :
    (releaseS3UsedBytes version.applicationId version.sizeBytes).run db =
      .ok ((), { db with applications := giveBack db.applications version }) := by
  rw [releaseS3UsedBytes_ok]
  by_cases hzero : version.sizeBytes = 0
  · exact Or.inl ⟨hzero, by rw [giveBack_of_zero hzero]⟩
  · exact Or.inr ⟨hzero, hsize, h.resolve_left hzero, rfl⟩

/-- No task names the payload of the version. -/
def IsUnqueued (tasks : Table StorageGcTask) (version : ObjectVersion) : Prop :=
  ∀ locator, version.locator? = some locator → queuedOwner tasks locator = none

theorem run_enqueueVersionPayload {db : Database} {version : ObjectVersion}
    {reason : StorageGcReason} {notBefore createdAt : Time} {maxAttempts : Nat}
    (hattempts : maxAttempts ≠ 0 ∧ maxAttempts ≤ maxI32)
    (h : IsUnqueued db.storageGcTasks version) :
    (enqueueVersionPayload
      (versionGcTask version reason notBefore maxAttempts createdAt)).run db =
      .ok ((), { db with
        storageGcTasks := queueTasks db.storageGcTasks
          (versionGcTask version reason notBefore maxAttempts createdAt).toList }) := by
  unfold versionGcTask
  cases hlocator : version.locator? with
  | none => rfl
  | some locator =>
      refine enqueueObjectVersionGcTask_ok.2 ⟨⟨rfl, rfl⟩, insertStorageGcTask_ok.2
        ⟨⟨?_, hattempts.2, fun owner howner => ?_⟩, rfl⟩⟩
      · exact if_neg hattempts.1
      · rw [h locator hlocator] at howner
        cases howner

/-- The current version of an object can become noncurrent from its creation on. -/
theorem run_markCurrentVersionNoncurrent {db : Database} {object : S3Object}
    {version : ObjectVersion} {changedAt : Time}
    (hchain : Chain db.buckets db.objects db.objectVersions) (hobject : object ∈ db.objects)
    (hversion : version ∈ db.objectVersions) (hid : version.objectId = object.id)
    (hactive : version.isActive) (hcurrent : object.currentVersionId = some version.id)
    (hcreated : version.createdAt ≤ postgresTime changedAt) :
    (markCurrentVersionNoncurrent object changedAt).run db =
      .ok ((), db.mapObjectVersions
        (·.updateOption object.currentVersionId (ObjectVersion.markNoncurrent changedAt))) := by
  refine markCurrentVersionNoncurrent_ok.2 ⟨fun current hcurrent' => ?_, rfl⟩
  have heq : version.id = current := Option.some.inj (hcurrent.symm.trans hcurrent')
  exact ⟨version, hversion, heq, hid,
    (hchain.current object hobject version hversion hid hactive).2 hcurrent, hcreated⟩

theorem run_updateDeletedObjectHead {db : Database} {object : S3Object}
    {current : Option ObjectVersionId} {updatedAt : Time} (hobject : object ∈ db.objects)
    (hgeneration : object.generation ≤ maxI64) :
    (updateDeletedObjectHead object current updatedAt).run db =
      .ok ((), db.mapObjects (·.update object.id (S3Object.pointTo current updatedAt))) := by
  rw [updateDeletedObjectHead, asI64, Transaction.run_require_bind hgeneration,
    Transaction.run_updateRow_ok]
  exact ⟨⟨object, hobject, rfl, by simp, rfl⟩, rfl⟩

/-- The head moves to a marker of the next generation. -/
theorem run_advanceObjectToDeleteMarker {db : Database} {object : S3Object}
    {marker : ObjectVersion} {updatedAt : Time} (hobject : object ∈ db.objects)
    (hgeneration : marker.generation = object.generation + 1)
    (hbigint : marker.generation ≤ maxI64) :
    (advanceObjectToDeleteMarker object marker updatedAt).run db =
      .ok ((), db.mapObjects
        (·.update object.id (S3Object.advance marker.id marker.generation updatedAt))) := by
  have hchecked : checkedAddU64 object.generation 1 = some marker.generation := by
    rw [checkedAddU64, if_pos, hgeneration]
    have hle : maxI64 ≤ maxU64 := by decide
    omega
  have hobjectBigint : object.generation ≤ maxI64 := by omega
  simp only [advanceObjectToDeleteMarker, hchecked, Transaction.run_bind_ok,
    Transaction.run_orThrow_ok, Transaction.run_require_ok, advanceObject_ok]
  exact ⟨_, _, ⟨rfl, rfl⟩, (), db, ⟨rfl, rfl⟩,
    ⟨hbigint, hobjectBigint, object, hobject, rfl, rfl⟩, rfl⟩

end MediaHub.Store
