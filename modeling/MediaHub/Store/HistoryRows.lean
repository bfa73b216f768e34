import MediaHub.Store.Chain

namespace MediaHub.Store

open Relational
open MediaHub.Core

/-- The columns of one version row. -/
structure VersionRow (buckets : Table S3Bucket) (version : ObjectVersion) : Prop where
  size : version.sizeBytes ≤ maxI64
  truncated : postgresTime version.createdAt = version.createdAt
  lockable : version.isActive → ObjectVersion.isUnlocked version ∨
    IsLockEnabled buckets version.bucketId
  null_active : version.isNullVersion → version.supersededAt = none → version.isActive

/-- The rows of objects and versions: a generation is never above that of its object. -/
structure HistoryRows (buckets : Table S3Bucket) (objects : Table S3Object)
    (versions : Table ObjectVersion) : Prop where
  rows : ∀ version ∈ versions, VersionRow buckets version
  generation_le : ∀ version ∈ versions, ∀ object ∈ objects, version.objectId = object.id →
    version.generation ≤ object.generation
  bigint : ∀ object ∈ objects, object.generation ≤ maxI64

variable {buckets : Table S3Bucket} {objects : Table S3Object} {versions : Table ObjectVersion}

theorem VersionRow.evolve {buckets' : Table S3Bucket} {version : ObjectVersion}
    (h : VersionRow buckets version) (hevolve : BucketsEvolve buckets buckets') :
    VersionRow buckets' version :=
  { h with
    lockable := fun hactive => (h.lockable hactive).imp_right fun hlock => hlock.evolve hevolve }

/-- An update that shows no hidden version, and that hides null versions by superseding them. -/
theorem VersionRow.rewritten {f : Update ObjectVersion} {version : ObjectVersion}
    (h : VersionRow buckets version) (hfacts : (f version).facts = version.facts)
    (hactive : (f version).isActive → version.isActive ∧
      (ObjectVersion.isUnlocked (f version) = ObjectVersion.isUnlocked version ∨
        IsLockEnabled buckets version.bucketId))
    (hnull : version.isNullVersion → (f version).supersededAt = none →
      version.supersededAt = none ∧ (f version).state = version.state) :
    VersionRow buckets (f version) where
  size := by
    rw [ObjectVersion.sizeBytes_of_facts hfacts]
    exact h.size
  truncated := by
    have hcreatedAt : (f version).createdAt = version.createdAt :=
      congrArg VersionFacts.createdAt hfacts
    rw [hcreatedAt]
    exact h.truncated
  lockable hrow := by
    obtain ⟨hold, hlock⟩ := hactive hrow
    rw [ObjectVersion.bucketId_of_facts hfacts]
    rcases hlock with hsame | henabled
    · rw [hsame]
      exact h.lockable hold
    · exact Or.inr henabled
  null_active hrow hsuperseded := by
    rw [ObjectVersion.isNullVersion_of_facts hfacts] at hrow
    obtain ⟨hold, hstate⟩ := hnull hrow hsuperseded
    have hactiveOld := h.null_active hrow hold
    simp only [ObjectVersion.isActive, Bool.and_eq_true, decide_eq_true_eq] at hactiveOld ⊢
    exact ⟨hstate.trans hactiveOld.1, hsuperseded⟩

/-- Older rows of a push keep their state and their lock; none loses its supersession. -/
theorem Push.supersededAt_age (push : Push) (version : ObjectVersion) :
    (push.age version).state = version.state ∧
      ObjectVersion.isUnlocked (push.age version) = ObjectVersion.isUnlocked version ∧
      ((push.age version).supersededAt = none → version.supersededAt = none) := by
  simp only [Push.age, Update.comp_apply, Update.only_apply, Keyed.key]
  by_cases hmarked : push.object.currentVersionId = some version.id <;>
    by_cases hreplaced : push.replaced.map (·.id) = some version.id <;>
    simp [hmarked, hreplaced, ObjectVersion.markNoncurrent, ObjectVersion.supersede,
      ObjectVersion.isUnlocked]

theorem VersionRow.aged {push : Push} {version : ObjectVersion}
    (h : VersionRow buckets version) : VersionRow buckets (push.age version) := by
  obtain ⟨hstate, hlock, hsuperseded⟩ := push.supersededAt_age version
  refine h.rewritten (push.keepsFacts_age version) (fun hactive => ⟨?_, Or.inl hlock⟩)
    fun _ hnone => ⟨hsuperseded hnone, hstate⟩
  rw [Push.isActive_age, Bool.and_eq_true] at hactive
  exact hactive.1

/-- Rows other than the target of a removal keep everything but their place in the history. -/
theorem Removal.age_of_ne {removal : Removal} {version : ObjectVersion}
    (hne : version.id ≠ removal.target.id) :
    (removal.age version).state = version.state ∧
      ObjectVersion.isUnlocked (removal.age version) = ObjectVersion.isUnlocked version ∧
      (removal.age version).supersededAt = version.supersededAt := by
  have hkeep : removal.retire.only (some removal.target.id) version = version := by
    rw [Update.only_apply, if_neg]
    exact fun h => hne (Option.some.inj h).symm
  rw [Removal.age, Update.comp_apply, hkeep, Update.only_apply]
  split <;> exact ⟨rfl, rfl, rfl⟩

theorem VersionRow.removed {db : Database} {removal : Removal} (hvalid : removal.Valid db)
    {version : ObjectVersion} (hversion : version ∈ db.objectVersions)
    (h : VersionRow buckets version) : VersionRow buckets (removal.age version) := by
  have hactive : (removal.age version).isActive →
      version.isActive ∧ version.id ≠ removal.target.id := by
    rw [Removal.isActive_age hvalid.retires, Bool.and_eq_true, decide_eq_true_eq]
    exact id
  refine h.rewritten (Removal.keepsFacts_age hvalid.retires version) (fun hrow => ?_)
    fun hnull hnone => ?_
  · obtain ⟨hold, hne⟩ := hactive hrow
    exact ⟨hold, Or.inl (Removal.age_of_ne hne).2.1⟩
  · by_cases hid : version.id = removal.target.id
    · have htarget : version = removal.target :=
        Table.eq_of_key hversion hvalid.target_mem hid
      have hretired := hvalid.superseded (htarget ▸ hnull) version
      have hage : (removal.age version).supersededAt = (removal.retire version).supersededAt := by
        have hretire : removal.retire.only (some removal.target.id) version =
            removal.retire version := by
          rw [Update.only_apply, if_pos]
          exact congrArg some hid.symm
        rw [Removal.age, Update.comp_apply, hretire, Update.only_apply]
        split <;> rfl
      rw [← hage, hnone] at hretired
      cases hretired
    · obtain ⟨hstate, -, hsuperseded⟩ := Removal.age_of_ne hid
      exact ⟨hsuperseded.symm.trans hnone, hstate⟩

namespace HistoryRows

/-- Rewriting versions does not move generations. -/
theorem rewritten {f : Update ObjectVersion} (h : HistoryRows buckets objects versions)
    (hf : ∀ version ∈ versions, (f version).facts = version.facts)
    (hrows : ∀ version ∈ versions, VersionRow buckets (f version)) :
    HistoryRows buckets objects (versions.rewrite f) where
  rows row hrow := by
    obtain ⟨version, hversion, rfl⟩ := Table.mem_rewrite.1 hrow
    exact hrows version hversion
  generation_le row hrow object hobject hid := by
    obtain ⟨version, hversion, rfl⟩ := Table.mem_rewrite.1 hrow
    rw [ObjectVersion.objectId_of_facts (hf version hversion)] at hid
    rw [ObjectVersion.generation_of_facts (hf version hversion)]
    exact h.generation_le version hversion object hobject hid
  bigint := h.bigint

theorem pushed {db : Database} {push : Push}
    (h : HistoryRows db.buckets db.objects db.objectVersions) (hvalid : push.Valid db) :
    HistoryRows db.buckets (push.objects db.objects) (push.versions db.objectVersions) := by
  refine ⟨fun row hrow => ?_, fun row hrow object hobject hid => ?_, fun object hobject => ?_⟩
  · rcases (Push.mem_versions hvalid.fresh).1 hrow with rfl | ⟨version, hversion, rfl⟩
    · exact ⟨hvalid.bigint.2, hvalid.truncated, fun _ => hvalid.lockable,
        fun _ _ => hvalid.active⟩
    · exact (h.rows version hversion).aged
  · have hnew : ∀ version ∈ db.objectVersions, version.objectId = push.object.id →
        version.generation ≤ push.version.generation := by
      intro version hversion hversionObject
      have hle := h.generation_le version hversion push.object hvalid.object_mem hversionObject
      rw [hvalid.generation_eq]
      omega
    rcases (Push.mem_versions hvalid.fresh).1 hrow with rfl | ⟨version, hversion, rfl⟩
    · rcases (Push.mem_objects hvalid.object_mem).1 hobject with ⟨hold, hne⟩ | rfl
      · exact absurd (Table.eq_of_key hold hvalid.object_mem
          (hid.symm.trans hvalid.objectId_eq)) hne
      · exact le_refl _
    · have hfacts := push.keepsFacts_age version
      rw [ObjectVersion.objectId_of_facts hfacts] at hid
      rw [ObjectVersion.generation_of_facts hfacts]
      rcases (Push.mem_objects hvalid.object_mem).1 hobject with ⟨hold, -⟩ | rfl
      · exact h.generation_le version hversion object hold hid
      · exact hnew version hversion hid
  · rcases (Push.mem_objects hvalid.object_mem).1 hobject with ⟨hold, -⟩ | rfl
    · exact h.bigint object hold
    · exact hvalid.bigint.1

/-- Moving the head of an object does not touch its generation. -/
theorem headMoved {objectId : ObjectId} {current : Option ObjectVersionId} {movedAt : Time}
    (h : HistoryRows buckets objects versions) :
    HistoryRows buckets (objects.update objectId (S3Object.pointTo current movedAt))
      versions := by
  refine ⟨h.rows, fun version hversion object hobject hid => ?_, fun object hobject => ?_⟩
  · rcases Table.mem_update.1 hobject with ⟨hold, -⟩ | ⟨old, hold, -, rfl⟩
    · exact h.generation_le version hversion object hold hid
    · exact h.generation_le version hversion old hold hid
  · rcases Table.mem_update.1 hobject with ⟨hold, -⟩ | ⟨old, hold, -, rfl⟩
    · exact h.bigint object hold
    · exact h.bigint old hold

theorem removed {db : Database} {removal : Removal}
    (h : HistoryRows db.buckets db.objects db.objectVersions) (hvalid : removal.Valid db) :
    HistoryRows db.buckets db.objects (db.objectVersions.rewrite removal.age) :=
  h.rewritten (fun version _ => Removal.keepsFacts_age hvalid.retires version)
    fun version hversion => (h.rows version hversion).removed hvalid hversion

theorem objectCreated {object : S3Object} (h : HistoryRows buckets objects versions)
    (hchain : Chain buckets objects versions) (hfresh : objects.find? object.id = none)
    (hgeneration : object.generation = 0) :
    HistoryRows buckets (objects.insert object) versions := by
  refine ⟨h.rows, fun version hversion row hrow hid => ?_, fun row hrow => ?_⟩
  · rcases (Table.mem_insert hfresh).1 hrow with rfl | hold
    · obtain ⟨owner, howner, hownerId, -⟩ := hchain.owner version hversion
      exact absurd (hownerId.trans hid) (Table.find?_eq_none_iff.1 hfresh owner howner)
    · exact h.generation_le version hversion row hold hid
  · rcases (Table.mem_insert hfresh).1 hrow with rfl | hold
    · rw [hgeneration]
      exact Nat.zero_le _
    · exact h.bigint row hold

theorem relocked {versionId : ObjectVersionId} {retention : Option ObjectRetention}
    {legalHold : Bool} (h : HistoryRows buckets objects versions)
    (hlock : ∀ version ∈ versions, version.id = versionId →
      IsLockEnabled buckets version.bucketId) :
    HistoryRows buckets objects
      (versions.update versionId (ObjectVersion.relock retention legalHold)) := by
  rw [Table.update_eq_rewrite]
  have hf := (keepsFacts_relock retention legalHold).only (some versionId)
  refine h.rewritten (fun version _ => hf version) fun version hversion => ?_
  refine (h.rows version hversion).rewritten (hf version) (fun hactive => ?_) fun _ hnone => ?_
  · rw [Update.only_apply] at hactive ⊢
    split at hactive
    · rename_i hid
      rw [ObjectVersion.isActive_relock] at hactive
      exact ⟨hactive, Or.inr (hlock version hversion (Option.some.inj hid).symm)⟩
    · rename_i hid
      rw [if_neg hid]
      exact ⟨hactive, Or.inl rfl⟩
  · rw [Update.only_apply] at hnone ⊢
    by_cases hmarker : version.payload = .deleteMarker <;>
      split at hnone <;> simp_all [ObjectVersion.relock]

end HistoryRows

theorem Effect.historyRows [Md5] {licence : Licence} {db db' : Database}
    (h : Effect licence db db') (hchain : Chain db.buckets db.objects db.objectVersions)
    (hrows : HistoryRows db.buckets db.objects db.objectVersions) :
    HistoryRows db'.buckets db'.objects db'.objectVersions := by
  cases h with
  | configured hevolve =>
      exact { hrows with rows := fun version hversion =>
        (hrows.rows version hversion).evolve hevolve }
  | accounted hstep => cases hstep <;> exact hrows
  | objectCreated hfresh _ _ hgeneration _ => exact hrows.objectCreated hchain hfresh hgeneration
  | versionCommitted hcommit _ _ => exact hrows.pushed hcommit.push_valid
  | markerPushed hmarker _ _ => exact hrows.pushed hmarker.push_valid
  | versionRemoved hremoved _ _ _ => exact hrows.removed hremoved.removal_valid
  | headRemoved hremoved _ _ _ => exact (hrows.removed hremoved.removal_valid).headMoved
  | relocked hlock => exact hrows.relocked hlock
  | _ => exact hrows

theorem Effects.historyRows [Md5] {licence : Licence} {db db' : Database}
    (h : Effects licence db db') (hchain : Chain db.buckets db.objects db.objectVersions)
    (hrows : HistoryRows db.buckets db.objects db.objectVersions) :
    HistoryRows db'.buckets db'.objects db'.objectVersions :=
  (h.invariant (P := fun db => Chain db.buckets db.objects db.objectVersions ∧
      HistoryRows db.buckets db.objects db.objectVersions)
    (fun _ _ hdb heffect => ⟨heffect.chain hdb.1, heffect.historyRows hdb.1 hdb.2⟩)
    ⟨hchain, hrows⟩).2

end MediaHub.Store
