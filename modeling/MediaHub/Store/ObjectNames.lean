import MediaHub.Store.Effect

namespace MediaHub.Store

open Relational
open MediaHub.Core

def NamesUnique (objects : Table S3Object) : Prop :=
  ∀ object ∈ objects, ∀ other ∈ objects,
    object.bucketId = other.bucketId → object.key = other.key → object = other

namespace NamesUnique

variable {objects : Table S3Object}

/-- An update that renames nothing keeps the names apart. -/
theorem update {id : ObjectId} {f : Update S3Object} (h : NamesUnique objects)
    (hname : ∀ object, (f object).bucketId = object.bucketId ∧ (f object).key = object.key) :
    NamesUnique (objects.update id f) := by
  have horigin : ∀ object ∈ objects.update id f, ∃ old ∈ objects, old.bucketId = object.bucketId ∧
      old.key = object.key ∧ old.id = object.id := by
    intro object hobject
    rcases Table.mem_update.1 hobject with ⟨hold, _⟩ | ⟨old, hold, _, rfl⟩
    · exact ⟨object, hold, rfl, rfl, rfl⟩
    · exact ⟨old, hold, (hname old).1.symm, (hname old).2.symm, (f.key_apply old).symm⟩
  intro object hobject other hother hbucket hkey
  obtain ⟨old, hold, hbucketOld, hkeyOld, hidOld⟩ := horigin object hobject
  obtain ⟨old', hold', hbucketOld', hkeyOld', hidOld'⟩ := horigin other hother
  have hsame : old = old' := h old hold old' hold'
    (hbucketOld.trans (hbucket.trans hbucketOld'.symm)) (hkeyOld.trans (hkey.trans hkeyOld'.symm))
  exact Table.eq_of_key hobject hother (hidOld.symm.trans ((congrArg _ hsame).trans hidOld'))

theorem insert {object : S3Object} (h : NamesUnique objects)
    (hfresh : objects.find? object.id = none)
    (hkey : ∀ row ∈ objects, ¬ (row.bucketId = object.bucketId ∧ row.key = object.key)) :
    NamesUnique (objects.insert object) := by
  intro first hfirst second hsecond hbucket hname
  rcases (Table.mem_insert hfresh).1 hfirst with hnew | hold <;>
    rcases (Table.mem_insert hfresh).1 hsecond with hnew' | hold'
  · rw [hnew, hnew']
  · rw [hnew] at hbucket hname
    exact absurd ⟨hbucket.symm, hname.symm⟩ (hkey second hold')
  · rw [hnew'] at hbucket hname
    exact absurd ⟨hbucket, hname⟩ (hkey first hold)
  · exact h first hold second hold' hbucket hname

end NamesUnique

theorem Effect.namesUnique [Md5] {licence : Licence} {db db' : Database}
    (h : Effect licence db db') (hnames : NamesUnique db.objects) : NamesUnique db'.objects := by
  cases h with
  | accounted hstep => cases hstep <;> exact hnames
  | objectCreated hfresh hkey _ _ _ => exact hnames.insert hfresh hkey
  | versionCommitted _ _ _ => exact hnames.update fun _ => ⟨rfl, rfl⟩
  | markerPushed _ _ _ => exact hnames.update fun _ => ⟨rfl, rfl⟩
  | headRemoved _ _ _ _ => exact hnames.update fun _ => ⟨rfl, rfl⟩
  | _ => exact hnames

theorem Effects.namesUnique [Md5] {licence : Licence} {db db' : Database}
    (h : Effects licence db db') (hnames : NamesUnique db.objects) : NamesUnique db'.objects :=
  h.invariant (P := fun db => NamesUnique db.objects)
    (fun _ _ hdb heffect => heffect.namesUnique hdb) hnames

end MediaHub.Store
