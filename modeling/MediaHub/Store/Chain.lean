import MediaHub.History.Basic
import MediaHub.Store.Effect

namespace MediaHub.Store

open Relational
open MediaHub.Core

/-- A version as an entry of the history of its object. -/
def entry (version : ObjectVersion) : History.Entry ObjectVersionId Nat S3VersionId where
  ident := version.id
  rank := version.generation
  label := version.externalVersionId

/-- The active versions of an object. -/
def visible (versions : Table ObjectVersion) (objectId : ObjectId) :
    Set (History.Entry ObjectVersionId Nat S3VersionId) :=
  {e | ∃ version ∈ versions, version.objectId = objectId ∧ version.isActive ∧
    entry version = e}

/-- The representation invariant of objects and their versions. -/
structure Chain (buckets : Table S3Bucket) (objects : Table S3Object)
    (versions : Table ObjectVersion) : Prop where
  owner : ∀ version ∈ versions, ∃ object ∈ objects, object.id = version.objectId ∧
    object.applicationId = version.applicationId ∧ object.bucketId = version.bucketId
  history : ∀ object ∈ objects,
    History.WellFormed (visible versions object.id) object.generation object.currentVersionId
  current : ∀ object ∈ objects, ∀ version ∈ versions, version.objectId = object.id →
    version.isActive →
    (version.becameNoncurrentAt = none ↔ object.currentVersionId = some version.id)
  versioned : ∀ version ∈ versions, version.isActive →
    version.isNullVersion ∨ IsVersioned buckets version.bucketId

theorem entry_of_facts {version other : ObjectVersion} (h : version.facts = other.facts) :
    entry version = entry other := by
  unfold entry
  rw [ObjectVersion.id_of_facts h, ObjectVersion.generation_of_facts h,
    ObjectVersion.externalVersionId_of_facts h]

/-- Rewriting keeps the entries of the versions that stay active. -/
theorem visible_rewrite {versions : Table ObjectVersion} {f : Update ObjectVersion}
    (hf : KeepsFacts f) (keep : ObjectVersionId → Prop) [DecidablePred keep]
    (hactive : ∀ version ∈ versions,
      (f version).isActive = (version.isActive && decide (keep version.id)))
    (objectId : ObjectId) :
    visible (versions.rewrite f) objectId =
      visible versions objectId ∩ {e | keep e.ident} := by
  ext e
  constructor
  · rintro ⟨row, hrow, hobject, hrowActive, rfl⟩
    obtain ⟨version, hversion, rfl⟩ := Table.mem_rewrite.1 hrow
    rw [hactive version hversion, Bool.and_eq_true, decide_eq_true_eq] at hrowActive
    rw [ObjectVersion.objectId_of_facts (hf version)] at hobject
    rw [entry_of_facts (hf version)]
    exact ⟨⟨version, hversion, hobject, hrowActive.1, rfl⟩, hrowActive.2⟩
  · rintro ⟨⟨version, hversion, hobject, hversionActive, rfl⟩, hkeep⟩
    refine ⟨f version, Table.mem_rewrite.2 ⟨version, hversion, rfl⟩, ?_, ?_,
      entry_of_facts (hf version)⟩
    · rw [ObjectVersion.objectId_of_facts (hf version)]
      exact hobject
    · rw [hactive version hversion, Bool.and_eq_true, decide_eq_true_eq]
      exact ⟨hversionActive, hkeep⟩

theorem visible_insert {versions : Table ObjectVersion} {version : ObjectVersion}
    (hfresh : versions.find? version.id = none) (hactive : version.isActive)
    (objectId : ObjectId) :
    visible (versions.insert version) objectId =
      if version.objectId = objectId then insert (entry version) (visible versions objectId)
      else visible versions objectId := by
  have hmem : ∀ row, row ∈ versions.insert version ↔ row = version ∨ row ∈ versions :=
    fun row => Table.mem_insert hfresh
  ext e
  split
  · rename_i hobject
    constructor
    · rintro ⟨row, hrow, hrowObject, hrowActive, rfl⟩
      rcases (hmem row).1 hrow with rfl | hold
      · exact Or.inl rfl
      · exact Or.inr ⟨row, hold, hrowObject, hrowActive, rfl⟩
    · rintro (rfl | ⟨row, hrow, hrowObject, hrowActive, rfl⟩)
      · exact ⟨version, (hmem _).2 (Or.inl rfl), hobject, hactive, rfl⟩
      · exact ⟨row, (hmem _).2 (Or.inr hrow), hrowObject, hrowActive, rfl⟩
  · rename_i hobject
    constructor
    · rintro ⟨row, hrow, hrowObject, hrowActive, rfl⟩
      rcases (hmem row).1 hrow with rfl | hold
      · exact absurd hrowObject hobject
      · exact ⟨row, hold, hrowObject, hrowActive, rfl⟩
    · rintro ⟨row, hrow, hrowObject, hrowActive, rfl⟩
      exact ⟨row, (hmem _).2 (Or.inr hrow), hrowObject, hrowActive, rfl⟩

namespace Chain

variable {buckets : Table S3Bucket} {objects : Table S3Object} {versions : Table ObjectVersion}

theorem configured {buckets' : Table S3Bucket} (h : Chain buckets objects versions)
    (hevolve : BucketsEvolve buckets buckets') : Chain buckets' objects versions :=
  { h with
    versioned := fun version hversion hactive =>
      (h.versioned version hversion hactive).imp_right fun hversioned =>
        hversioned.evolve hevolve }

/-- The object of a version, known by its id. -/
theorem owner_of {object : S3Object} {version : ObjectVersion}
    (h : Chain buckets objects versions) (hobject : object ∈ objects)
    (hversion : version ∈ versions) (hid : version.objectId = object.id) :
    object.applicationId = version.applicationId ∧ object.bucketId = version.bucketId := by
  obtain ⟨owner, howner, hownerId, happlication, hbucket⟩ := h.owner version hversion
  have heq : owner = object := Table.eq_of_key howner hobject (hownerId.trans hid)
  exact heq ▸ ⟨happlication, hbucket⟩

theorem objectCreated {object : S3Object} (h : Chain buckets objects versions)
    (hfresh : objects.find? object.id = none) (hgeneration : object.generation = 0)
    (hhead : object.currentVersionId = none) :
    Chain buckets (objects.insert object) versions := by
  have hmem : ∀ row, row ∈ objects.insert object ↔ row = object ∨ row ∈ objects :=
    fun row => Table.mem_insert hfresh
  have hnone : ∀ version ∈ versions, version.objectId ≠ object.id := by
    intro version hversion hid
    obtain ⟨owner, howner, hownerId, -⟩ := h.owner version hversion
    exact Table.find?_eq_none_iff.1 hfresh owner howner (hownerId.trans hid)
  refine ⟨fun version hversion => ?_, fun row hrow => ?_, fun row hrow version hversion hid => ?_,
    h.versioned⟩
  · obtain ⟨owner, howner, hrest⟩ := h.owner version hversion
    exact ⟨owner, (hmem owner).2 (Or.inr howner), hrest⟩
  · rcases (hmem row).1 hrow with rfl | hold
    · have hempty : visible versions row.id = ∅ := by
        refine Set.eq_empty_of_forall_notMem ?_
        rintro e ⟨version, hversion, hid, -⟩
        exact hnone version hversion hid
      rw [hempty, hhead]
      exact History.WellFormed.empty _
    · exact h.history row hold
  · rcases (hmem row).1 hrow with rfl | hold
    · exact absurd hid (hnone version hversion)
    · exact h.current row hold version hversion hid

/-- Lock columns are not part of the chain. -/
theorem rewritten {f : Update ObjectVersion} (h : Chain buckets objects versions)
    (hf : KeepsFacts f) (hactive : ∀ version, (f version).isActive = version.isActive)
    (hcurrent : ∀ version, (f version).becameNoncurrentAt = version.becameNoncurrentAt) :
    Chain buckets objects (versions.rewrite f) := by
  refine ⟨fun row hrow => ?_, fun object hobject => ?_, fun object hobject row hrow => ?_,
    fun row hrow => ?_⟩
  · obtain ⟨version, hversion, rfl⟩ := Table.mem_rewrite.1 hrow
    rw [ObjectVersion.objectId_of_facts (hf version),
      ObjectVersion.applicationId_of_facts (hf version),
      ObjectVersion.bucketId_of_facts (hf version)]
    exact h.owner version hversion
  · rw [visible_rewrite hf (fun _ => True) (by simp [hactive])]
    simpa using h.history object hobject
  · obtain ⟨version, hversion, rfl⟩ := Table.mem_rewrite.1 hrow
    rw [ObjectVersion.objectId_of_facts (hf version), hactive, hcurrent,
      ObjectVersion.id_of_facts (hf version)]
    exact h.current object hobject version hversion
  · obtain ⟨version, hversion, rfl⟩ := Table.mem_rewrite.1 hrow
    rw [hactive, ObjectVersion.isNullVersion_of_facts (hf version),
      ObjectVersion.bucketId_of_facts (hf version)]
    exact h.versioned version hversion

end Chain

section Push

variable {push : Push} {db : Database}

/-- The versions that a push leaves active. -/
def Push.Keeps (push : Push) (versionId : ObjectVersionId) : Prop :=
  push.replaced.map (·.id) ≠ some versionId

instance (push : Push) : DecidablePred push.Keeps := fun _ => instDecidableNot

/-- A push touches the history of its own object only. -/
theorem Push.Valid.keeps_of_ne (h : push.Valid db) {version : ObjectVersion}
    (hversion : version ∈ db.objectVersions) (hne : version.objectId ≠ push.object.id) :
    push.Keeps version.id := by
  intro hreplaced
  obtain ⟨previous, hprevious, hid⟩ := Option.map_eq_some_iff.1 hreplaced
  obtain ⟨hmem, hobject, -⟩ := h.replaced_mem previous hprevious
  have heq : previous = version := Table.eq_of_key hmem hversion hid
  exact hne (heq ▸ hobject)

theorem Push.Valid.visible_eq (h : push.Valid db) (objectId : ObjectId) :
    visible (push.versions db.objectVersions) objectId =
      if push.object.id = objectId then
        insert (entry push.version)
          (visible db.objectVersions objectId ∩ {e | push.Keeps e.ident})
      else visible db.objectVersions objectId := by
  have hfresh : (db.objectVersions.rewrite push.age).find? push.version.id = none := by
    rw [Table.find?_rewrite, h.fresh]
    rfl
  rw [Push.versions, visible_insert hfresh h.active,
    visible_rewrite push.keepsFacts_age push.Keeps (fun version _ => push.isActive_age version),
    h.objectId_eq]
  split
  · rfl
  · rename_i hne
    refine Set.inter_eq_left.2 ?_
    rintro e ⟨version, hversion, hobject, -, rfl⟩
    exact h.keeps_of_ne hversion fun hid => hne (hid.symm.trans hobject)

/-- The new version's label is free among the versions that stay. -/
theorem Push.Valid.label_ne (h : push.Valid db) {version : ObjectVersion}
    (hversion : version ∈ db.objectVersions) (hobject : version.objectId = push.object.id)
    (hactive : version.isActive) (hkeep : push.Keeps version.id) :
    version.externalVersionId ≠ push.version.externalVersionId := by
  intro hlabel
  have hrow : push.age version ∈ db.objectVersions.rewrite push.age :=
    Table.mem_rewrite.2 ⟨version, hversion, rfl⟩
  have hclash := h.distinct _ hrow
  have hrowActive : (push.age version).isActive := by
    rw [push.isActive_age, hactive]
    simpa [Push.Keeps] using hkeep
  have hnone : (push.age version).supersededAt = none := by
    simp only [ObjectVersion.isActive, Bool.and_eq_true, decide_eq_true_eq] at hrowActive
    exact hrowActive.2
  have hsame : push.version.objectId = (push.age version).objectId := by
    rw [ObjectVersion.objectId_of_facts (push.facts_age version), hobject, h.objectId_eq]
  have hext : push.version.externalVersionId = (push.age version).externalVersionId := by
    rw [ObjectVersion.externalVersionId_of_facts (push.facts_age version), hlabel]
  simp [ObjectVersion.clashes, hsame, hext, hnone] at hclash

theorem Push.Valid.id_ne (h : push.Valid db) {version : ObjectVersion}
    (hversion : version ∈ db.objectVersions) : version.id ≠ push.version.id :=
  Table.find?_eq_none_iff.1 h.fresh version hversion

theorem Push.Valid.history (h : push.Valid db)
    (hchain : Chain db.buckets db.objects db.objectVersions) :
    History.WellFormed (visible (push.versions db.objectVersions) push.object.id)
      push.version.generation (some push.version.id) := by
  rw [h.visible_eq, if_pos rfl]
  have hrank : push.object.generation < (entry push.version).rank := by
    change _ < push.version.generation
    rw [h.generation_eq]
    exact Nat.lt_succ_self _
  refine (hchain.history push.object h.object_mem).push Set.inter_subset_left hrank ?_ ?_
  · rintro e ⟨⟨version, hversion, -, -, rfl⟩, -⟩
    exact h.id_ne hversion
  · rintro e ⟨⟨version, hversion, hobject, hactive, rfl⟩, hkeep⟩
    exact h.label_ne hversion hobject hactive hkeep

theorem Chain.pushed (hchain : Chain db.buckets db.objects db.objectVersions)
    (h : push.Valid db) :
    Chain db.buckets (push.objects db.objects) (push.versions db.objectVersions) := by
  have hobjects : ∀ row, row ∈ push.objects db.objects ↔ _ := fun row =>
    Push.mem_objects h.object_mem
  have hversions : ∀ row, row ∈ push.versions db.objectVersions ↔ _ := fun row =>
    Push.mem_versions h.fresh
  have hother : ∀ row ∈ db.objects, row ≠ push.object → push.object.id ≠ row.id :=
    fun row hrow hne hid => hne (Table.eq_of_key hrow h.object_mem hid.symm)
  refine ⟨fun row hrow => ?_, fun object hobject => ?_,
    fun object hobject row hrow hid hactive => ?_, fun row hrow hactive => ?_⟩
  · -- every version still has its object, moved or not
    have hadvanced : ∀ owner ∈ db.objects, ∃ object ∈ push.objects db.objects,
        object.id = owner.id ∧ object.applicationId = owner.applicationId ∧
          object.bucketId = owner.bucketId := by
      intro owner howner
      by_cases heq : owner = push.object
      · exact ⟨_, (hobjects _).2 (Or.inr rfl), by rw [heq]; exact ⟨rfl, rfl, rfl⟩⟩
      · exact ⟨owner, (hobjects _).2 (Or.inl ⟨howner, heq⟩), rfl, rfl, rfl⟩
    rcases (hversions row).1 hrow with rfl | ⟨version, hversion, rfl⟩
    · obtain ⟨object, hobject, hid, happlication, hbucket⟩ := hadvanced _ h.object_mem
      exact ⟨object, hobject, hid.trans h.objectId_eq.symm,
        happlication.trans h.applicationId_eq.symm, hbucket.trans h.bucketId_eq.symm⟩
    · obtain ⟨owner, howner, hid, happlication, hbucket⟩ := hchain.owner version hversion
      obtain ⟨object, hobject, hid', happlication', hbucket'⟩ := hadvanced owner howner
      have hfacts := push.facts_age version
      exact ⟨object, hobject,
        (hid'.trans hid).trans (ObjectVersion.objectId_of_facts hfacts).symm,
        (happlication'.trans happlication).trans (ObjectVersion.applicationId_of_facts hfacts).symm,
        (hbucket'.trans hbucket).trans (ObjectVersion.bucketId_of_facts hfacts).symm⟩
  · rcases (hobjects object).1 hobject with ⟨hold, hne⟩ | rfl
    · rw [h.visible_eq, if_neg (hother object hold hne)]
      exact hchain.history object hold
    · exact h.history hchain
  · rcases (hobjects object).1 hobject with ⟨hold, hne⟩ | rfl
    · rcases (hversions row).1 hrow with rfl | ⟨version, hversion, rfl⟩
      · exact absurd (h.objectId_eq.symm.trans hid) (hother object hold hne)
      · rw [ObjectVersion.objectId_of_facts (push.facts_age version)] at hid
        rw [push.isActive_age, Bool.and_eq_true] at hactive
        have hcurrent := hchain.current object hold version hversion hid hactive.1
        -- the marked version is the head of another object
        have hunmarked : push.object.currentVersionId ≠ some version.id := by
          intro hhead
          obtain ⟨e, ⟨top, htop, htopObject, -, rfl⟩, htopId, -⟩ :=
            (hchain.history push.object h.object_mem).newest.of_some _ hhead
          have heq : top = version := Table.eq_of_key htop hversion htopId
          exact hother object hold hne ((heq ▸ htopObject).symm.trans hid)
        rw [push.becameNoncurrentAt_age, if_neg hunmarked, push.id_age]
        exact hcurrent
    · rcases (hversions row).1 hrow with rfl | ⟨version, hversion, rfl⟩
      · exact iff_of_true h.current rfl
      · rw [ObjectVersion.objectId_of_facts (push.facts_age version)] at hid
        rw [push.isActive_age, Bool.and_eq_true] at hactive
        have hcurrent := hchain.current push.object h.object_mem version hversion hid hactive.1
        have hnew : some push.version.id ≠ some version.id := fun heq =>
          h.id_ne hversion (Option.some.inj heq).symm
        refine iff_of_false ?_ (by rw [push.id_age]; exact hnew)
        rw [push.becameNoncurrentAt_age]
        split
        · exact Option.some_ne_none _
        · rename_i hunmarked
          exact fun hnone => hunmarked (hcurrent.1 hnone)
  · rcases (hversions row).1 hrow with rfl | ⟨version, hversion, rfl⟩
    · exact h.versioned
    · rw [push.isActive_age, Bool.and_eq_true] at hactive
      rw [ObjectVersion.isNullVersion_of_facts (push.facts_age version),
        ObjectVersion.bucketId_of_facts (push.facts_age version)]
      exact hchain.versioned version hversion hactive.1

end Push

section Removal

variable {removal : Removal} {db : Database}

theorem Removal.Valid.visible_eq (h : removal.Valid db) (objectId : ObjectId) :
    visible (db.objectVersions.rewrite removal.age) objectId =
      visible db.objectVersions objectId ∩ {e | e.ident ≠ removal.target.id} :=
  visible_rewrite (Removal.keepsFacts_age h.retires) (· ≠ removal.target.id)
    (fun version _ => Removal.isActive_age h.retires version) objectId

/-- The head of an object is one of its own versions. -/
theorem Chain.head_mem (hchain : Chain db.buckets db.objects db.objectVersions)
    {object : S3Object} (hobject : object ∈ db.objects) {versionId : ObjectVersionId}
    (hhead : object.currentVersionId = some versionId) :
    ∃ version ∈ db.objectVersions, version.id = versionId ∧ version.objectId = object.id ∧
      version.isActive := by
  obtain ⟨e, ⟨version, hversion, hid, hactive, rfl⟩, hident, -⟩ :=
    (hchain.history object hobject).newest.of_some _ hhead
  exact ⟨version, hversion, hident, hid, hactive⟩

/-- The target is the head of no object but its own. -/
theorem Removal.Valid.head_ne (h : removal.Valid db)
    (hchain : Chain db.buckets db.objects db.objectVersions) {object : S3Object}
    (hobject : object ∈ db.objects) (hne : object ≠ removal.object) :
    object.currentVersionId ≠ some removal.target.id := by
  intro hhead
  obtain ⟨version, hversion, hid, hversionObject, -⟩ := hchain.head_mem hobject hhead
  have heq : version = removal.target := Table.eq_of_key hversion h.target_mem hid
  refine hne (Table.eq_of_key hobject h.object_mem ?_)
  exact hversionObject.symm.trans (heq ▸ h.objectId_eq)

/-- An object whose head stays keeps a well-formed history. -/
theorem Removal.Valid.history_of_ne (h : removal.Valid db)
    (hchain : Chain db.buckets db.objects db.objectVersions) {object : S3Object}
    (hobject : object ∈ db.objects) (hhead : object.currentVersionId ≠ some removal.target.id) :
    History.WellFormed (visible (db.objectVersions.rewrite removal.age) object.id)
      object.generation object.currentVersionId := by
  rw [h.visible_eq]
  have hold := hchain.history object hobject
  refine hold.shrink Set.inter_subset_left
    (hold.newest.filter (· ≠ removal.target.id) fun i hi hitarget => ?_)
  exact hhead (hitarget ▸ hi)

/-- What a removal says of the rows after it, but for the head of its object. -/
theorem Removal.Valid.rows (h : removal.Valid db)
    (hchain : Chain db.buckets db.objects db.objectVersions) {row : ObjectVersion}
    (hrow : row ∈ db.objectVersions.rewrite removal.age) :
    ∃ version ∈ db.objectVersions, row = removal.age version ∧ row.facts = version.facts ∧
      (row.isActive → version.isActive ∧ version.id ≠ removal.target.id) ∧
      (row.isActive → row.isNullVersion ∨ IsVersioned db.buckets row.bucketId) := by
  obtain ⟨version, hversion, rfl⟩ := Table.mem_rewrite.1 hrow
  have hfacts := Removal.keepsFacts_age h.retires version
  have hactive : (removal.age version).isActive →
      version.isActive ∧ version.id ≠ removal.target.id := by
    rw [Removal.isActive_age h.retires, Bool.and_eq_true, decide_eq_true_eq]
    exact id
  refine ⟨version, hversion, rfl, hfacts, hactive, fun hrowActive => ?_⟩
  rw [ObjectVersion.isNullVersion_of_facts hfacts, ObjectVersion.bucketId_of_facts hfacts]
  exact hchain.versioned version hversion (hactive hrowActive).1

theorem Chain.removed (hchain : Chain db.buckets db.objects db.objectVersions)
    (h : removal.Valid db) (htail : removal.object.currentVersionId ≠ some removal.target.id)
    (hnext : removal.next = none) :
    Chain db.buckets db.objects (db.objectVersions.rewrite removal.age) := by
  refine ⟨fun row hrow => ?_, fun object hobject => ?_,
    fun object hobject row hrow hid hactive => ?_, fun row hrow hactive => ?_⟩
  · obtain ⟨version, hversion, -, hfacts, -⟩ := h.rows hchain hrow
    rw [ObjectVersion.objectId_of_facts hfacts, ObjectVersion.applicationId_of_facts hfacts,
      ObjectVersion.bucketId_of_facts hfacts]
    exact hchain.owner version hversion
  · refine h.history_of_ne hchain hobject ?_
    by_cases heq : object = removal.object
    · rw [heq]
      exact htail
    · exact h.head_ne hchain hobject heq
  · obtain ⟨version, hversion, rfl, hfacts, hold, -⟩ := h.rows hchain hrow
    obtain ⟨hversionActive, hne⟩ := hold hactive
    rw [ObjectVersion.objectId_of_facts hfacts] at hid
    rw [Removal.becameNoncurrentAt_age hne, hnext, Removal.id_age]
    exact hchain.current object hobject version hversion hid hversionActive
  · obtain ⟨-, -, -, -, -, hversioned⟩ := h.rows hchain hrow
    exact hversioned hactive

/-- After the head is gone the next version is the newest one. -/
theorem Removal.NextValid.newest (hnext : removal.NextValid db) :
    History.Newest (visible db.objectVersions removal.object.id ∩
      {e | e.ident ≠ removal.target.id}) (removal.next.map (·.id)) := by
  refine ⟨?_, fun versionId hid => ?_⟩
  · rw [Option.map_eq_none_iff, hnext.none_iff]
    constructor
    · intro hall
      refine Set.eq_empty_of_forall_notMem ?_
      rintro e ⟨⟨version, hversion, hobject, hactive, rfl⟩, hne⟩
      exact hne (hall version hversion hobject hactive)
    · intro hempty version hversion hobject hactive
      by_contra hne
      have hmem : entry version ∈ visible db.objectVersions removal.object.id ∩
          {e | e.ident ≠ removal.target.id} :=
        ⟨⟨version, hversion, hobject, hactive, rfl⟩, hne⟩
      rw [hempty] at hmem
      exact hmem
  · obtain ⟨version, hversion, rfl⟩ := Option.map_eq_some_iff.1 hid
    obtain ⟨hmem, hobject, hactive, hne, hmax⟩ := hnext.of_some version hversion
    refine ⟨entry version, ⟨⟨version, hmem, hobject, hactive, rfl⟩, hne⟩, rfl, ?_⟩
    rintro e ⟨⟨other, hother, hotherObject, hotherActive, rfl⟩, hotherNe⟩
    exact hmax other hother hotherObject hotherActive hotherNe

theorem Chain.headRemoved (hchain : Chain db.buckets db.objects db.objectVersions)
    (h : removal.Valid db) (hhead : removal.object.currentVersionId = some removal.target.id)
    (hnext : removal.NextValid db) (movedAt : Time) :
    Chain db.buckets
      (db.objects.update removal.object.id
        (S3Object.pointTo (removal.next.map (·.id)) movedAt))
      (db.objectVersions.rewrite removal.age) := by
  have hobjects : ∀ row, row ∈ db.objects.update removal.object.id
      (S3Object.pointTo (removal.next.map (·.id)) movedAt) ↔ _ := fun row =>
    Table.mem_update_of_mem h.object_mem rfl
  refine ⟨fun row hrow => ?_, fun object hobject => ?_,
    fun object hobject row hrow hid hactive => ?_, fun row hrow hactive => ?_⟩
  · obtain ⟨version, hversion, -, hfacts, -⟩ := h.rows hchain hrow
    rw [ObjectVersion.objectId_of_facts hfacts, ObjectVersion.applicationId_of_facts hfacts,
      ObjectVersion.bucketId_of_facts hfacts]
    obtain ⟨owner, howner, hrest⟩ := hchain.owner version hversion
    by_cases heq : owner = removal.object
    · exact ⟨_, (hobjects _).2 (Or.inr rfl), heq ▸ hrest⟩
    · exact ⟨owner, (hobjects _).2 (Or.inl ⟨howner, heq⟩), hrest⟩
  · rcases (hobjects object).1 hobject with ⟨hold, hne⟩ | rfl
    · exact h.history_of_ne hchain hold (h.head_ne hchain hold hne)
    · change History.WellFormed (visible _ removal.object.id) removal.object.generation _
      rw [h.visible_eq]
      exact (hchain.history _ h.object_mem).shrink Set.inter_subset_left hnext.newest
  · obtain ⟨version, hversion, rfl, hfacts, hold, -⟩ := h.rows hchain hrow
    obtain ⟨hversionActive, hne⟩ := hold hactive
    rw [ObjectVersion.objectId_of_facts hfacts] at hid
    rw [Removal.becameNoncurrentAt_age hne, Removal.id_age]
    rcases (hobjects object).1 hobject with ⟨hobjectOld, hobjectNe⟩ | rfl
    · -- the next head belongs to the object of the removal
      have hother : removal.next.map (·.id) ≠ some version.id := by
        intro hmap
        obtain ⟨next, hnextEq, hnextId⟩ := Option.map_eq_some_iff.1 hmap
        obtain ⟨hnextMem, hnextObject, -⟩ := hnext.of_some next hnextEq
        have heq : next = version := Table.eq_of_key hnextMem hversion hnextId
        refine hobjectNe (Table.eq_of_key hobjectOld h.object_mem ?_)
        exact hid.symm.trans (heq ▸ hnextObject)
      rw [if_neg hother]
      exact hchain.current object hobjectOld version hversion hid hversionActive
    · have hcurrent := hchain.current _ h.object_mem version hversion hid hversionActive
      have hnotHead : removal.object.currentVersionId ≠ some version.id := by
        rw [hhead]
        exact fun heq => hne (Option.some.inj heq).symm
      change _ ↔ removal.next.map (·.id) = some version.id
      by_cases hmap : removal.next.map (·.id) = some version.id
      · simp [hmap]
      · rw [if_neg hmap]
        exact iff_of_false (fun hnone => hnotHead (hcurrent.1 hnone)) hmap
  · obtain ⟨-, -, -, -, -, hversioned⟩ := h.rows hchain hrow
    exact hversioned hactive

end Removal

/-- Lock columns are neither facts nor activity. -/
theorem keepsFacts_relock (retention : Option ObjectRetention) (legalHold : Bool) :
    KeepsFacts (ObjectVersion.relock retention legalHold) := by
  intro version
  by_cases h : version.payload = .deleteMarker <;>
    simp [ObjectVersion.relock, h, ObjectVersion.facts]

theorem Chain.relocked {buckets : Table S3Bucket} {objects : Table S3Object}
    {versions : Table ObjectVersion} (h : Chain buckets objects versions)
    (versionId : ObjectVersionId) (retention : Option ObjectRetention) (legalHold : Bool) :
    Chain buckets objects
      (versions.update versionId (ObjectVersion.relock retention legalHold)) := by
  rw [Table.update_eq_rewrite]
  refine h.rewritten ((keepsFacts_relock retention legalHold).only _) (fun version => ?_)
    (fun version => ?_)
  · rw [Update.only_apply]
    split
    · by_cases hmarker : version.payload = .deleteMarker <;>
        simp [ObjectVersion.relock, hmarker, ObjectVersion.isActive]
    · rfl
  · rw [Update.only_apply]
    split
    · by_cases hmarker : version.payload = .deleteMarker <;>
        simp [ObjectVersion.relock, hmarker]
    · rfl

/-- Every effect keeps the chain. -/
theorem Effect.chain [Md5] {licence : Licence} {db db' : Database}
    (h : Effect licence db db') (hchain : Chain db.buckets db.objects db.objectVersions) :
    Chain db'.buckets db'.objects db'.objectVersions := by
  cases h with
  | configured hevolve => exact hchain.configured hevolve
  | accounted hstep => cases hstep <;> exact hchain
  | objectCreated hfresh _ _ hgeneration hhead =>
      exact hchain.objectCreated hfresh hgeneration hhead
  | versionCommitted hcommit _ _ => exact hchain.pushed hcommit.push_valid
  | markerPushed hmarker _ _ => exact hchain.pushed hmarker.push_valid
  | versionRemoved hremoved htail hnext _ =>
      exact hchain.removed hremoved.removal_valid htail hnext
  | headRemoved hremoved hhead hnext _ =>
      exact hchain.headRemoved hremoved.removal_valid hhead hnext _
  | relocked _ => exact hchain.relocked _ _ _
  | _ => exact hchain

theorem Effects.chain [Md5] {licence : Licence} {db db' : Database}
    (h : Effects licence db db') (hchain : Chain db.buckets db.objects db.objectVersions) :
    Chain db'.buckets db'.objects db'.objectVersions :=
  h.invariant (P := fun db => Chain db.buckets db.objects db.objectVersions)
    (fun _ _ hdb heffect => heffect.chain hdb) hchain

end MediaHub.Store
