import MediaHub.Transition.System
import MediaHub.Variant.Service

/-!
Any number of generations side by side, with the removal of media among them.
-/

namespace MediaHub.Variant

open Relational Relational.Transaction
open Transition Transition.Method
open MediaHub.Core

/-- How far a generation has come. -/
inductive Progress where
  | claimed
  | processed (image : ProcessedVariant)
  | staged (image : ProcessedVariant)
  | published (image : ProcessedVariant)
  | failing (summary : String)
  | finished
deriving DecidableEq

def Progress.image? : Progress → Option ProcessedVariant
  | .processed image | .staged image | .published image => some image
  | .claimed | .failing _ | .finished => none

/-- A generation that was granted a lease. -/
structure Generator where
  leaseToken : Uuid
  job : Job
  variant : VariantRow
  progress : Progress
deriving DecidableEq

instance : Keyed Generator Uuid := ⟨Generator.leaseToken⟩

@[simps] def setProgress (progress : Progress) : Update Generator where
  apply generator := { generator with progress := progress }
  key_apply _ := rfl

inductive LeaseEntry where
  | granted (variantId : VariantId) (leaseToken : Uuid) (leasedUntil : Time)
  | ended (variantId : VariantId)

/-- The lease on a variant that was granted last, unless it has ended; newest entry first. -/
def currentLease (variantId : VariantId) : List LeaseEntry → Option (Uuid × Time)
  | [] => none
  | .granted id leaseToken leasedUntil :: rest =>
      if id = variantId then some (leaseToken, leasedUntil) else currentLease variantId rest
  | .ended id :: rest => if id = variantId then none else currentLease variantId rest

/-- The world, and a record of what was asked for, granted and handed out. -/
structure State where
  world : World
  generators : Table Generator
  requested : List Job
  leases : List LeaseEntry
  issued : List Uuid

/-- What became of a call to the object store: an error may hide that it took effect. -/
inductive Delivery where
  | done
  | failed (tookEffect : Bool) (error : ObjectStoreError)

inductive Event where
  | claim (job : Job) (variantId leaseToken : Uuid) (now currentTimestamp : Time)
  | process (leaseToken : Uuid)
  | putTemporary (leaseToken : Uuid) (delivery : Delivery)
  | commitTemporary (leaseToken : Uuid) (delivery : Delivery)
  | complete (leaseToken : Uuid) (completedAt : Time)
  | recordFailure (leaseToken : Uuid) (failedAt : Time)
  /-- A temporary object or a stored one, by a cleanup or the removal of a media. -/
  | removeObject (key : ObjectKey)
  | deleteVariants (mediaId : MediaId)

section System

variable [Sha256] [ImageProcessor]

/-- UUIDs are never handed out twice. -/
def State.Fresh (s : State) (variantId leaseToken : Uuid) : Prop :=
  variantId ∉ s.issued ∧ leaseToken ∉ s.issued ∧ variantId ≠ leaseToken

instance (s : State) (variantId leaseToken : Uuid) : Decidable (s.Fresh variantId leaseToken) :=
  inferInstanceAs (Decidable (_ ∧ _ ∧ _))

def claimStep (s : State) (job : Job) (variantId leaseToken : Uuid)
    (now currentTimestamp : Time) : State :=
  let asked := { s with
    requested := job :: s.requested
    issued := variantId :: leaseToken :: s.issued }
  match (claim job variantId leaseToken now currentTimestamp).run s.world with
  | (.ok (.generate variant leaseToken), w) =>
      { asked with
        world := w
        generators := s.generators.insert ⟨leaseToken, job, variant, .claimed⟩
        leases := .granted variant.id leaseToken
          (postgresTime (now + Time.seconds defaultVariantLeaseSeconds)) :: s.leases }
  | (_, w) => { asked with world := w }

def processStep (generator : Generator) (w : World) : Progress × World :=
  match generator.progress with
  | .claimed =>
      match (processImage generator.job).run w with
      | (.ok image, w') => (.processed image, w')
      | (.error error, w') => (.failing error.message, w')
  | progress => (progress, w)

def putStep (delivery : Delivery) (generator : Generator) (w : World) : Progress × World :=
  match generator.progress with
  | .processed image =>
      let w' := ((Variant.putTemporary generator.variant generator.leaseToken image).run w).2
      match delivery with
      | .done => (.staged image, w')
      | .failed true error => (.failing error.message, w')
      | .failed false error => (.failing error.message, w)
  | progress => (progress, w)

def commitStep (delivery : Delivery) (generator : Generator) (w : World) : Progress × World :=
  match generator.progress with
  | .staged image =>
      match delivery, (commitImage generator.variant generator.leaseToken).run w with
      | .done, (.ok (), w') => (.published image, w')
      | .done, (.error error, w') => (.failing error.message, w')
      | .failed true error, (_, w') => (.failing error.message, w')
      | .failed false error, _ => (.failing error.message, w)
  | progress => (progress, w)

/-- One step of the generation that holds a token. -/
def advance (s : State) (leaseToken : Uuid) (step : Generator → World → Progress × World) :
    State :=
  match s.generators.find? leaseToken with
  | none => s
  | some generator =>
      { s with
        world := (step generator s.world).2
        generators := s.generators.update leaseToken (setProgress (step generator s.world).1) }

/-- The statement that ends a generation; it ends the lease too when it finds the row. -/
def conclude (s : State) (generator : Generator) (w : World) (found : Bool) : State :=
  { s with
    world := w
    generators := s.generators.update generator.leaseToken (setProgress .finished)
    leases := if found then .ended generator.variant.id :: s.leases else s.leases }

def completeStep (s : State) (leaseToken : Uuid) (completedAt : Time) : State :=
  match s.generators.find? leaseToken with
  | none => s
  | some generator =>
      match generator.progress with
      | .published image =>
          conclude s generator
            ((finish generator.variant generator.leaseToken image completedAt).run s.world).2
            (leasedRow s.world.variants generator.variant.id generator.leaseToken
              completedAt).isSome
      | _ => s

def failStep (s : State) (leaseToken : Uuid) (failedAt : Time) : State :=
  match s.generators.find? leaseToken with
  | none => s
  | some generator =>
      match generator.progress with
      | .failing summary =>
          conclude s generator
            (recordFailure generator.variant generator.leaseToken summary failedAt s.world)
            (summary ≠ "" &&
              (leasedRow s.world.variants generator.variant.id generator.leaseToken
                failedAt).isSome)
      | _ => s

def step (s : State) : Event → State
  | .claim job variantId leaseToken now currentTimestamp =>
      if s.Fresh variantId leaseToken then
        claimStep s job variantId leaseToken now currentTimestamp
      else s
  | .process leaseToken => advance s leaseToken processStep
  | .putTemporary leaseToken delivery => advance s leaseToken (putStep delivery)
  | .commitTemporary leaseToken delivery => advance s leaseToken (commitStep delivery)
  | .complete leaseToken completedAt => completeStep s leaseToken completedAt
  | .recordFailure leaseToken failedAt => failStep s leaseToken failedAt
  | .removeObject key =>
      { s with world := { s.world with objects := s.world.objects.delete key } }
  | .deleteVariants mediaId =>
      { s with world :=
        { s.world with variants := (deleteVariants mediaId).commit s.world.variants } }

def generations : System State Event where
  init s := s = ⟨⟨∅, fun _ => none⟩, ∅, [], [], []⟩
  step := step

/-- A row stands for a job that was asked for; a ready one has its image's measures. -/
structure RowSound (jobs : List Job) (row : VariantRow) : Prop where
  status : row.status ≠ .deletePending
  keys : ∃ job ∈ jobs, row.transformKey = job.variantCacheKey ∧ row.storageKey = job.storageKey
  ready : row.status = .ready → ∃ job ∈ jobs, row.transformKey = job.variantCacheKey ∧
    ∃ image, job.process = .ok image ∧ row.width = some image.width ∧
      row.height = some image.height ∧ row.sizeBytes = some image.content.length

/-- The lease that a row's columns hold. -/
def rowLease (row : VariantRow) : Option (Uuid × Time) :=
  match row.generationToken, row.generationLeaseUntil with
  | some leaseToken, some leasedUntil => some (leaseToken, leasedUntil)
  | _, _ => none

structure GeneratorSound (s : State) (generator : Generator) : Prop where
  requested : generator.job ∈ s.requested
  token : generator.leaseToken ∈ s.issued
  id : generator.variant.id ∈ s.issued
  transformKey : generator.variant.transformKey = generator.job.variantCacheKey
  storageKey : ∃ format,
    generator.variant.storageKey = imagePath generator.job.variantCacheKey format
  image : ∀ image ∈ generator.progress.image?, generator.job.process = .ok image
  row : ∀ row ∈ s.world.variants, row.id = generator.variant.id →
    row.transformKey = generator.variant.transformKey ∧
      row.storageKey = generator.variant.storageKey

structure Sound (s : State) : Prop where
  constrained : Constrained s.world.variants
  rows : ∀ row ∈ s.world.variants, RowSound s.requested row
  ids : ∀ row ∈ s.world.variants, row.id ∈ s.issued
  leases : ∀ row ∈ s.world.variants, currentLease row.id s.leases = rowLease row
  granted : ∀ variantId leaseToken leasedUntil,
    .granted variantId leaseToken leasedUntil ∈ s.leases → leaseToken ∈ s.issued
  stored : ∀ key content, s.world.objects (.stored key) = some content →
    ∃ job ∈ s.requested, ∃ format image, key = imagePath job.variantCacheKey format ∧
      job.process = .ok image ∧ image.content = content
  temporary : ∀ variantId leaseToken content,
    s.world.objects (.temporary variantId leaseToken) = some content →
    ∃ generator ∈ s.generators, generator.leaseToken = leaseToken ∧
      generator.variant.id = variantId ∧
      ∃ image, generator.job.process = .ok image ∧ image.content = content
  generators : ∀ generator ∈ s.generators, GeneratorSound s generator

theorem RowSound.mono {jobs jobs' : List Job} {row : VariantRow} (h : RowSound jobs row)
    (hsub : ∀ job ∈ jobs, job ∈ jobs') : RowSound jobs' row := by
  refine ⟨h.status, ?_, ?_⟩
  · obtain ⟨job, hjob, hkeys⟩ := h.keys
    exact ⟨job, hsub job hjob, hkeys⟩
  · intro hready
    obtain ⟨job, hjob, hmade⟩ := h.ready hready
    exact ⟨job, hsub job hjob, hmade⟩

/-- What a step of one generation may do to the world. -/
structure StepSound (generator : Generator) (w : World) (result : Progress × World) : Prop where
  variants : result.2.variants = w.variants
  stored : ∀ key content, result.2.objects (.stored key) = some content →
    w.objects (.stored key) = some content ∨ key = generator.variant.storageKey ∧
      w.objects (.temporary generator.variant.id generator.leaseToken) = some content
  temporary : ∀ variantId leaseToken content,
    result.2.objects (.temporary variantId leaseToken) = some content →
    w.objects (.temporary variantId leaseToken) = some content ∨
      variantId = generator.variant.id ∧ leaseToken = generator.leaseToken ∧
        ∃ image ∈ generator.progress.image?, image.content = content
  image : ∀ image ∈ result.1.image?,
    image ∈ generator.progress.image? ∨ generator.job.process = .ok image

omit [Sha256] in
theorem stepSound_refl {generator : Generator} {w : World} {progress : Progress}
    (h : ∀ image ∈ progress.image?, image ∈ generator.progress.image?) :
    StepSound generator w (progress, w) where
  variants := rfl
  stored _ _ hobject := Or.inl hobject
  temporary _ _ _ hobject := Or.inl hobject
  image image himage := Or.inl (h image himage)

omit [Sha256] [ImageProcessor] in
theorem noImage {summary : String} {progress : Progress} :
    ∀ image ∈ (Progress.failing summary).image?, image ∈ progress.image? := by
  simp [Progress.image?]

omit [Sha256] in
theorem stepSound_processStep (generator : Generator) (w : World) :
    StepSound generator w (processStep generator w) := by
  cases hprogress : generator.progress with
  | claimed =>
      cases hprocess : generator.job.process with
      | ok image =>
          have hstep : processStep generator w = (.processed image, w) := by
            simp only [processStep, hprogress, processImage, check, hprocess, Except.mapError]
          rw [hstep]
          refine ⟨rfl, fun _ _ => Or.inl, fun _ _ _ => Or.inl, ?_⟩
          intro image' himage
          obtain rfl := Option.some.inj himage
          exact Or.inr hprocess
      | error error =>
          have hstep : processStep generator w =
              (.failing (VariantApplicationError.processor error).message, w) := by
            simp only [processStep, hprogress, processImage, check, hprocess, Except.mapError]
          rw [hstep]
          exact stepSound_refl noImage
  | processed | staged | published | failing | finished =>
      have hstep : processStep generator w = (generator.progress, w) := by
        simp only [processStep, hprogress]
      rw [hstep]
      exact stepSound_refl fun _ himage => himage

omit [Sha256] in
theorem stepSound_putTemporary {generator : Generator} {w : World} {image : ProcessedVariant}
    {progress : Progress} (hprogress : image ∈ generator.progress.image?)
    (h : ∀ image ∈ progress.image?, image ∈ generator.progress.image?) :
    StepSound generator w (progress, ((Variant.putTemporary generator.variant generator.leaseToken
      image).run w).2) where
  variants := rfl
  stored key content hobject := by
    have hput : w.objects.put (.temporary generator.variant.id generator.leaseToken) image.content
        (.stored key) = some content := hobject
    rcases Objects.put_eq_some hput with hold | ⟨hkey, -⟩
    · exact Or.inl hold
    · cases hkey
  temporary variantId leaseToken content hobject := by
    have hput : w.objects.put (.temporary generator.variant.id generator.leaseToken) image.content
        (.temporary variantId leaseToken) = some content := hobject
    rcases Objects.put_eq_some hput with hold | ⟨hkey, rfl⟩
    · exact Or.inl hold
    · obtain ⟨rfl, rfl⟩ := ObjectKey.temporary.inj hkey
      exact Or.inr ⟨rfl, rfl, image, hprogress, rfl⟩
  image image himage := Or.inl (h image himage)

omit [Sha256] in
theorem stepSound_putStep (delivery : Delivery) (generator : Generator) (w : World) :
    StepSound generator w (putStep delivery generator w) := by
  cases hprogress : generator.progress with
  | processed image =>
      have himage : image ∈ generator.progress.image? := by rw [hprogress]; rfl
      rcases delivery with _ | ⟨_ | _, error⟩
      · simp only [putStep, hprogress]
        refine stepSound_putTemporary himage ?_
        intro image' himage'
        obtain rfl := Option.some.inj himage'
        exact himage
      · simp only [putStep, hprogress]
        exact stepSound_refl noImage
      · simp only [putStep, hprogress]
        exact stepSound_putTemporary himage noImage
  | claimed | staged | published | failing | finished =>
      have hstep : putStep delivery generator w = (generator.progress, w) := by
        simp only [putStep, hprogress]
      rw [hstep]
      exact stepSound_refl fun _ himage => himage

omit [Sha256] in
theorem stepSound_commitImage {generator : Generator} {w : World} {progress : Progress}
    (h : ∀ image ∈ progress.image?, image ∈ generator.progress.image?) :
    StepSound generator w
      (progress, ((commitImage generator.variant generator.leaseToken).run w).2) := by
  rcases run_commitImage generator.variant generator.leaseToken w with
    ⟨staged, htemporary, -, hrun⟩ | ⟨content, -, hrun⟩ | ⟨-, hrun⟩
  · rw [hrun]
    let moved : Objects := (w.objects.put (.stored generator.variant.storageKey) staged).delete
      (.temporary generator.variant.id generator.leaseToken)
    refine ⟨rfl, ?_, ?_, fun image himage => Or.inl (h image himage)⟩
    · intro key content hobject
      have hmoved : moved (.stored key) = some content := hobject
      rcases Objects.put_eq_some (Objects.of_delete hmoved) with hold | ⟨hkey, rfl⟩
      · exact Or.inl hold
      · exact Or.inr ⟨ObjectKey.stored.inj hkey, htemporary⟩
    · intro variantId leaseToken content hobject
      have hmoved : moved (.temporary variantId leaseToken) = some content := hobject
      rcases Objects.put_eq_some (Objects.of_delete hmoved) with hold | ⟨hkey, -⟩
      · exact Or.inl hold
      · cases hkey
  · rw [hrun]
    exact stepSound_refl h
  · rw [hrun]
    have hkept : ∀ key content,
        w.objects.delete (.temporary generator.variant.id generator.leaseToken) key = some content →
        w.objects key = some content := fun _ _ hobject => Objects.of_delete hobject
    exact ⟨rfl, fun _ _ hobject => Or.inl (hkept _ _ hobject),
      fun _ _ _ hobject => Or.inl (hkept _ _ hobject), fun image himage => Or.inl (h image himage)⟩

omit [Sha256] in
theorem stepSound_commitStep (delivery : Delivery) (generator : Generator) (w : World) :
    StepSound generator w (commitStep delivery generator w) := by
  cases hprogress : generator.progress with
  | staged image =>
      have hpublished : ∀ image' ∈ (Progress.published image).image?,
          image' ∈ generator.progress.image? := by
        intro image' himage'
        rw [hprogress]
        exact himage'
      have hcommit : ∀ {progress}, (∀ image ∈ Progress.image? progress,
          image ∈ generator.progress.image?) → StepSound generator w
            (progress, ((commitImage generator.variant generator.leaseToken).run w).2) :=
        stepSound_commitImage
      rcases hrun : (commitImage generator.variant generator.leaseToken).run w with ⟨error | _, w'⟩
      · rw [hrun] at hcommit
        rcases delivery with _ | ⟨_ | _, _⟩
        · simp only [commitStep, hprogress, hrun]
          exact hcommit noImage
        · simp only [commitStep, hprogress]
          exact stepSound_refl noImage
        · simp only [commitStep, hprogress, hrun]
          exact hcommit noImage
      · rw [hrun] at hcommit
        rcases delivery with _ | ⟨_ | _, _⟩
        · simp only [commitStep, hprogress, hrun]
          exact hcommit hpublished
        · simp only [commitStep, hprogress]
          exact stepSound_refl noImage
        · simp only [commitStep, hprogress, hrun]
          exact hcommit noImage
  | claimed | processed | published | failing | finished =>
      have hstep : commitStep delivery generator w = (generator.progress, w) := by
        simp only [commitStep, hprogress]
      rw [hstep]
      exact stepSound_refl fun _ himage => himage

theorem GeneratorSound.setProgress {s : State} {generator : Generator} {progress : Progress}
    (h : GeneratorSound s generator)
    (himage : ∀ image ∈ progress.image?, generator.job.process = .ok image) :
    GeneratorSound s (setProgress progress generator) :=
  { h with image := himage }

/-- What is known of a generation stays known while rows keep their ids and keys. -/
theorem GeneratorSound.transfer {s s' : State} {generator : Generator}
    (h : GeneratorSound s generator) (hrequested : ∀ job ∈ s.requested, job ∈ s'.requested)
    (hissued : ∀ id ∈ s.issued, id ∈ s'.issued)
    (hrows : ∀ row' ∈ s'.world.variants, row'.id ∈ s.issued → ∃ row ∈ s.world.variants,
      row.id = row'.id ∧ row.transformKey = row'.transformKey ∧ row.storageKey = row'.storageKey) :
    GeneratorSound s' generator where
  requested := hrequested _ h.requested
  token := hissued _ h.token
  id := hissued _ h.id
  transformKey := h.transformKey
  storageKey := h.storageKey
  image := h.image
  row row' hrow' hid := by
    obtain ⟨row, hrow, hsame, hkey, hstorage⟩ := hrows row' hrow' (hid ▸ h.id)
    rw [← hkey, ← hstorage]
    exact h.row row hrow (hsame.trans hid)

theorem Sound.advance {s : State} (h : Sound s) {step : Generator → World → Progress × World}
    (hstep : ∀ generator, StepSound generator s.world (step generator s.world))
    (leaseToken : Uuid) :
    Sound (advance s leaseToken step) := by
  unfold Variant.advance
  cases hfind : s.generators.find? leaseToken with
  | none => exact h
  | some generator =>
      obtain ⟨hgenerator, htoken⟩ := Table.find?_eq_some_iff.1 hfind
      have hsound := h.generators generator hgenerator
      have hmoved := hstep generator
      obtain ⟨hvariants, hstored, htemporary, himage⟩ := hmoved
      have hprogress : ∀ image ∈ (step generator s.world).1.image?,
          generator.job.process = .ok image := by
        intro image hmem
        rcases himage image hmem with hold | hnew
        · exact hsound.image image hold
        · exact hnew
      have hmem : ∀ other, other ∈ s.generators.update leaseToken
            (setProgress (step generator s.world).1) ↔
          (other ∈ s.generators ∧ other ≠ generator) ∨
            other = Variant.setProgress (step generator s.world).1 generator :=
        fun other => Table.mem_update_of_mem hgenerator htoken
      refine ⟨?_, ?_, ?_, ?_, h.granted, ?_, ?_, ?_⟩
      · show Constrained (step generator s.world).2.variants
        rw [hvariants]
        exact h.constrained
      · show ∀ row ∈ (step generator s.world).2.variants, _
        rw [hvariants]
        exact h.rows
      · show ∀ row ∈ (step generator s.world).2.variants, _
        rw [hvariants]
        exact h.ids
      · show ∀ row ∈ (step generator s.world).2.variants, _
        rw [hvariants]
        exact h.leases
      · intro key content hobject
        rcases hstored key content hobject with hold | ⟨rfl, hstaged⟩
        · exact h.stored key content hold
        · obtain ⟨other, hother, hsame, -, image, hprocess, hcontent⟩ :=
            h.temporary _ _ content hstaged
          obtain rfl : other = generator := Table.eq_of_key hother hgenerator hsame
          obtain ⟨format, hkey⟩ := hsound.storageKey
          exact ⟨other.job, hsound.requested, format, image, hkey, hprocess, hcontent⟩
      · intro variantId token content hobject
        rcases htemporary variantId token content hobject with hold | ⟨rfl, rfl, image, hmem', rfl⟩
        · obtain ⟨other, hother, hsame, hid, hmade⟩ := h.temporary variantId token content hold
          by_cases heq : other = generator
          · subst heq
            exact ⟨_, (hmem _).2 (Or.inr rfl), hsame, hid, hmade⟩
          · exact ⟨other, (hmem other).2 (Or.inl ⟨hother, heq⟩), hsame, hid, hmade⟩
        · exact ⟨_, (hmem _).2 (Or.inr rfl), rfl, rfl, image, hsound.image image hmem', rfl⟩
      · intro other hother
        have htransfer : ∀ {other}, GeneratorSound s other → GeneratorSound
            { s with world := (step generator s.world).2,
                     generators := s.generators.update leaseToken
                       (setProgress (step generator s.world).1) } other := by
          intro other hother
          refine hother.transfer (fun _ => id) (fun _ => id) ?_
          show ∀ row' ∈ (step generator s.world).2.variants, _
          rw [hvariants]
          exact fun row hrow _ => ⟨row, hrow, rfl, rfl, rfl⟩
        rcases (hmem other).1 hother with ⟨hold, -⟩ | rfl
        · exact htransfer (h.generators other hold)
        · exact (htransfer hsound).setProgress hprogress

theorem Sound.conclude {s : State} (h : Sound s) {generator : Generator}
    (hgenerator : generator ∈ s.generators) {w : World} (hobjects : w.objects = s.world.objects)
    {found : Bool}
    (hvariants : found = false ∧ w.variants = s.world.variants ∨
      found = true ∧ ∃ change : Update VariantRow,
        w.variants = s.world.variants.update generator.variant.id change ∧
        (∀ row, (change row).mediaId = row.mediaId ∧ (change row).transformKey = row.transformKey ∧
          (change row).storageKey = row.storageKey) ∧
        ∀ row ∈ s.world.variants, row.id = generator.variant.id →
          rowIsValid (change row) = true ∧ RowSound s.requested (change row) ∧
            rowLease (change row) = none) :
    Sound (conclude s generator w found) := by
  have hgenerators : ∀ other ∈ s.generators.update generator.leaseToken (setProgress .finished),
      ∃ old ∈ s.generators, other.leaseToken = old.leaseToken ∧ other.variant = old.variant ∧
        other.job = old.job ∧ GeneratorSound s other := by
    intro other hother
    rcases (Table.mem_update_of_mem hgenerator rfl).1 hother with ⟨hold, -⟩ | rfl
    · exact ⟨other, hold, rfl, rfl, rfl, h.generators other hold⟩
    · exact ⟨generator, hgenerator, rfl, rfl, rfl,
        (h.generators generator hgenerator).setProgress (by simp [Progress.image?])⟩
  have htemporary : ∀ variantId leaseToken content,
      w.objects (.temporary variantId leaseToken) = some content →
      ∃ other ∈ s.generators.update generator.leaseToken (setProgress .finished),
        other.leaseToken = leaseToken ∧ other.variant.id = variantId ∧
        ∃ image, other.job.process = .ok image ∧ image.content = content := by
    intro variantId leaseToken content hobject
    rw [hobjects] at hobject
    obtain ⟨other, hother, hrest⟩ := h.temporary variantId leaseToken content hobject
    by_cases heq : other = generator
    · subst heq
      exact ⟨_, (Table.mem_update_of_mem hgenerator rfl).2 (Or.inr rfl), hrest⟩
    · exact ⟨other, (Table.mem_update_of_mem hgenerator rfl).2 (Or.inl ⟨hother, heq⟩), hrest⟩
  rcases hvariants with ⟨rfl, hsame⟩ | ⟨rfl, change, hchanged, hkeys, hrow⟩
  · have hstored : w = s.world := by
      cases w
      cases hworld : s.world
      rw [hworld] at hobjects hsame
      exact congrArg₂ World.mk hsame hobjects
    subst hstored
    refine { h with temporary := htemporary, generators := ?_ }
    intro other hother
    obtain ⟨-, -, -, -, -, hsound⟩ := hgenerators other hother
    exact { hsound with }
  · have hmem : ∀ row' ∈ w.variants, ∃ row ∈ s.world.variants, row.id = row'.id ∧
        row.transformKey = row'.transformKey ∧ row.storageKey = row'.storageKey ∧
        (row' = row ∧ row.id ≠ generator.variant.id ∨
          row' = change row ∧ row.id = generator.variant.id) := by
      intro row' hrow'
      rw [hchanged] at hrow'
      rcases Table.mem_update.1 hrow' with ⟨hold, hne⟩ | ⟨row, hold, hid, rfl⟩
      · exact ⟨row', hold, rfl, rfl, rfl, Or.inl ⟨rfl, hne⟩⟩
      · exact ⟨row, hold, (change.key_apply row).symm, (hkeys row).2.1.symm, (hkeys row).2.2.symm,
          Or.inr ⟨rfl, hid⟩⟩
    refine ⟨?_, ?_, ?_, ?_, ?_, ?_, htemporary, ?_⟩
    · show Constrained w.variants
      rw [hchanged]
      exact h.constrained.update (fun row => (hkeys row).1) (fun row => (hkeys row).2.1)
        (fun row => (hkeys row).2.2) fun row hmem hid => (hrow row hmem hid).1
    · intro row' hrow'
      obtain ⟨row, hold, -, -, -, ⟨rfl, -⟩ | ⟨rfl, hid⟩⟩ := hmem row' hrow'
      · exact h.rows _ hold
      · exact (hrow row hold hid).2.1
    · intro row' hrow'
      obtain ⟨row, hold, hsame, -⟩ := hmem row' hrow'
      rw [← hsame]
      exact h.ids row hold
    · intro row' hrow'
      show currentLease row'.id (.ended generator.variant.id :: s.leases) = rowLease row'
      obtain ⟨row, hold, hsame, -, -, ⟨rfl, hne⟩ | ⟨rfl, hid⟩⟩ := hmem row' hrow'
      · rw [currentLease, if_neg (Ne.symm hne)]
        exact h.leases _ hold
      · rw [currentLease, if_pos (hid.symm.trans hsame), (hrow row hold hid).2.2]
    · intro variantId leaseToken leasedUntil hentry
      rcases List.mem_cons.1 hentry with heq | hold
      · cases heq
      · exact h.granted variantId leaseToken leasedUntil hold
    · intro key content hobject
      refine h.stored key content ?_
      rw [← hobjects]
      exact hobject
    · intro other hother
      obtain ⟨-, -, -, -, -, hsound⟩ := hgenerators other hother
      refine hsound.transfer (fun _ => id) (fun _ => id) ?_
      intro row' hrow' _
      obtain ⟨row, hold, hid, hkey, hstorage, -⟩ := hmem row' hrow'
      exact ⟨row, hold, hid, hkey, hstorage⟩

theorem Sound.completeStep {s : State} (h : Sound s) (leaseToken : Uuid) (completedAt : Time) :
    Sound (completeStep s leaseToken completedAt) := by
  unfold Variant.completeStep
  cases hfind : s.generators.find? leaseToken with
  | none => exact h
  | some generator =>
      have hgenerator := Table.mem_of_find? hfind
      have hsound := h.generators generator hgenerator
      cases hprogress : generator.progress with
      | claimed | processed | staged | failing | finished => simpa only [hprogress] using h
      | published image =>
          simp only [hprogress]
          have hprocess : generator.job.process = .ok image :=
            hsound.image image (by rw [hprogress]; rfl)
          rcases run_finish hprocess generator.variant generator.leaseToken completedAt s.world with
            ⟨hleased, hrun⟩ | ⟨row, hleased, hrun⟩
          · rw [hrun, hleased]
            exact h.conclude hgenerator rfl (Or.inl ⟨rfl, rfl⟩)
          · rw [hrun, hleased]
            have hobjects : (⟨s.world.variants.update generator.variant.id
              (complete image.width image.height image.content.length completedAt),
              s.world.objects⟩ : World).objects = s.world.objects := rfl
            refine h.conclude hgenerator hobjects (Or.inr ⟨rfl,
              complete image.width image.height image.content.length completedAt, rfl,
              fun _ => ⟨rfl, rfl, rfl⟩, ?_⟩)
            intro row hrow hid
            obtain ⟨⟨hwidth, -⟩, hheight, -⟩ := ImageProcessor.process_sides hprocess
            refine ⟨rowIsValid_complete (by omega) (by omega) _, ⟨nofun, (h.rows row hrow).keys,
              fun _ => ⟨generator.job, hsound.requested, ?_, image, hprocess, rfl, rfl, rfl⟩⟩, rfl⟩
            exact (hsound.row row hrow hid).1.trans hsound.transformKey

theorem Sound.failStep {s : State} (h : Sound s) (leaseToken : Uuid) (failedAt : Time) :
    Sound (failStep s leaseToken failedAt) := by
  unfold Variant.failStep
  cases hfind : s.generators.find? leaseToken with
  | none => exact h
  | some generator =>
      have hgenerator := Table.mem_of_find? hfind
      cases hprogress : generator.progress with
      | claimed | processed | staged | published | finished => simpa only [hprogress] using h
      | failing summary =>
          simp only [hprogress]
          have hobjects : (recordFailure generator.variant generator.leaseToken summary failedAt
            s.world).objects = s.world.objects := rfl
          refine h.conclude hgenerator hobjects ?_
          cases hfound : (summary ≠ "" && (leasedRow s.world.variants generator.variant.id
            generator.leaseToken failedAt).isSome : Bool) with
          | false =>
              refine Or.inl ⟨rfl, ?_⟩
              rcases commit_cases (failVariant generator.variant.id generator.leaseToken summary
                failedAt) s.world.variants with ⟨u, hrun⟩ | hsame
              · obtain ⟨hsummary, hleased, -⟩ := (run_failVariant_ok h.constrained).1 hrun
                simp [hsummary, hleased] at hfound
              · exact hsame
          | true =>
              simp only [Bool.and_eq_true, decide_eq_true_eq] at hfound
              refine Or.inr ⟨rfl, markFailed summary failedAt, ?_, fun _ => ⟨rfl, rfl, rfl⟩, ?_⟩
              · exact commit_of_ok ((run_failVariant_ok h.constrained (u := ())).2
                  ⟨hfound.1, hfound.2, rfl⟩)
              · intro row hrow _
                exact ⟨rowIsValid_markFailed (h.constrained.valid row hrow) _ _,
                  ⟨nofun, (h.rows row hrow).keys, nofun⟩, rfl⟩

/-- A generation that was granted a lease on a row joins the others. -/
theorem Sound.grant {s : State} (h : Sound s) {job : Job} {variantId leaseToken : Uuid}
    (htoken : leaseToken ∉ s.issued) {variants : Variants} {variant : VariantRow}
    {leasedUntil : Time} (hvariant : variant ∈ variants) (hconstrained : Constrained variants)
    (hkey : variant.transformKey = job.variantCacheKey)
    (hpath : ∃ other ∈ job :: s.requested, variant.transformKey = other.variantCacheKey ∧
      variant.storageKey = other.storageKey)
    (hid : variant.id = variantId ∨ variant.id ∈ s.issued)
    (hstatus : variant.status = .generating)
    (hlease : rowLease variant = some (leaseToken, leasedUntil))
    (hrows : ∀ row' ∈ variants, row' = variant ∨ row'.id ≠ variant.id ∧ row' ∈ s.world.variants)
    (hsame : variant.id ∈ s.issued → ∃ row ∈ s.world.variants, row.id = variant.id ∧
      row.transformKey = variant.transformKey ∧ row.storageKey = variant.storageKey) :
    Sound { world := ⟨variants, s.world.objects⟩
            generators := s.generators.insert ⟨leaseToken, job, variant, .claimed⟩
            requested := job :: s.requested
            leases := .granted variant.id leaseToken leasedUntil :: s.leases
            issued := variantId :: leaseToken :: s.issued } := by
  have hfresh : s.generators.find? (Keyed.key (⟨leaseToken, job, variant, .claimed⟩ : Generator)) =
      none := by
    refine Table.find?_eq_none_iff.2 ?_
    intro other hother heq
    have htoken' : other.leaseToken = leaseToken := heq
    exact htoken (htoken' ▸ (h.generators other hother).token)
  have hissued : ∀ id ∈ s.issued, id ∈ variantId :: leaseToken :: s.issued := fun id hid =>
    List.mem_cons_of_mem _ (List.mem_cons_of_mem _ hid)
  have hjobs : ∀ other ∈ s.requested, other ∈ job :: s.requested := fun other hother =>
    List.mem_cons_of_mem _ hother
  have hnew : variant.id ∈ variantId :: leaseToken :: s.issued := by
    rcases hid with rfl | hold
    · exact List.mem_cons_self
    · exact hissued _ hold
  refine ⟨hconstrained, ?_, ?_, ?_, ?_, ?_, ?_, ?_⟩
  · intro row' hrow'
    rcases hrows row' hrow' with rfl | ⟨-, hold⟩
    · exact ⟨by simp [hstatus], hpath, by simp [hstatus]⟩
    · exact (h.rows row' hold).mono hjobs
  · intro row' hrow'
    rcases hrows row' hrow' with rfl | ⟨-, hold⟩
    · exact hnew
    · exact hissued _ (h.ids row' hold)
  · intro row' hrow'
    rcases hrows row' hrow' with rfl | ⟨hne, hold⟩
    · rw [hlease]
      simp [currentLease]
    · rw [currentLease, if_neg (Ne.symm hne)]
      exact h.leases row' hold
  · intro id token until' hentry
    rcases List.mem_cons.1 hentry with heq | hold
    · cases heq
      exact List.mem_cons_of_mem _ List.mem_cons_self
    · exact hissued _ (h.granted id token until' hold)
  · intro key content hobject
    obtain ⟨other, hother, hrest⟩ := h.stored key content hobject
    exact ⟨other, hjobs other hother, hrest⟩
  · intro id token content hobject
    obtain ⟨other, hother, hrest⟩ := h.temporary id token content hobject
    exact ⟨other, Table.mem_insert_of_mem hother, hrest⟩
  · intro other hother
    rcases (Table.mem_insert hfresh).1 hother with rfl | hold
    · refine ⟨List.mem_cons_self, List.mem_cons_of_mem _ List.mem_cons_self, hnew, hkey, ?_, ?_, ?_⟩
      · obtain ⟨other, -, hother, hpath⟩ := hpath
        refine ⟨other.request.transform.format, ?_⟩
        rw [hpath, Job.storageKey, ← hother, hkey]
      · simp [Progress.image?]
      · intro row' hrow' heq
        rcases hrows row' hrow' with rfl | ⟨hne, -⟩
        · exact ⟨rfl, rfl⟩
        · exact absurd heq hne
    · refine (h.generators other hold).transfer hjobs hissued ?_
      intro row' hrow' hknown
      rcases hrows row' hrow' with rfl | ⟨-, hold'⟩
      · exact hsame hknown
      · exact ⟨row', hold', rfl, rfl, rfl⟩

theorem Sound.ask {s : State} (h : Sound s) (job : Job) (variantId leaseToken : Uuid) :
    Sound { s with requested := job :: s.requested
                   issued := variantId :: leaseToken :: s.issued } := by
  have hissued : ∀ id ∈ s.issued, id ∈ variantId :: leaseToken :: s.issued := fun id hid =>
    List.mem_cons_of_mem _ (List.mem_cons_of_mem _ hid)
  have hjobs : ∀ other ∈ s.requested, other ∈ job :: s.requested := fun other hother =>
    List.mem_cons_of_mem _ hother
  refine ⟨h.constrained, fun row hrow => (h.rows row hrow).mono hjobs,
    fun row hrow => hissued _ (h.ids row hrow), h.leases,
    fun id token until' hentry => hissued _ (h.granted id token until' hentry), ?_, h.temporary,
    fun other hother => (h.generators other hother).transfer hjobs hissued
      fun row hrow _ => ⟨row, hrow, rfl, rfl, rfl⟩⟩
  intro key content hobject
  obtain ⟨other, hother, hrest⟩ := h.stored key content hobject
  exact ⟨other, hjobs other hother, hrest⟩

theorem Sound.claimStep {s : State} (h : Sound s) {job : Job} {variantId leaseToken : Uuid}
    (hfresh : s.Fresh variantId leaseToken) (now currentTimestamp : Time) :
    Sound (claimStep s job variantId leaseToken now currentTimestamp) := by
  obtain ⟨hid, htoken, -⟩ := hfresh
  have hasked := h.ask job variantId leaseToken
  unfold Variant.claimStep
  cases hrun : (claimVariant (newVariant job variantId now) leaseToken
      (now + Time.seconds defaultVariantLeaseSeconds) currentTimestamp).run s.world.variants with
  | error error => simpa only [claim, transact, hrun] using hasked
  | ok result =>
      obtain ⟨granted, variants⟩ := result
      have hconstrained := h.constrained.claimVariant hrun
      obtain ⟨-, ⟨-, hnone, -, rfl, rfl⟩ | ⟨row, hfind, hcase⟩⟩ :=
        (run_claimVariant_ok h.constrained).1 hrun
      · simp only [claim, transact, hrun]
        refine h.grant htoken ((Table.mem_insert hnone).2 (Or.inl rfl)) hconstrained rfl
          ⟨job, List.mem_cons_self, rfl, rfl⟩ (Or.inl rfl) rfl rfl ?_
            (fun hknown => absurd hknown hid)
        intro row' hrow'
        rcases (Table.mem_insert hnone).1 hrow' with rfl | hold
        · exact Or.inl rfl
        · exact Or.inr ⟨Table.find?_eq_none_iff.1 hnone row' hold, hold⟩
      · have hrow : row ∈ s.world.variants := List.mem_of_find?_eq_some hfind
        obtain ⟨-, hkey⟩ := sameVariant_iff.1 (List.find?_some hfind)
        obtain ⟨other, hother, hpath⟩ := (h.rows row hrow).keys
        rcases hcase with ⟨-, rfl, rfl⟩ | ⟨-, -, rfl, rfl⟩ | ⟨-, -, rfl, rfl⟩
        · simpa only [claim, transact, hrun] using hasked
        · simp only [claim, transact, hrun]
          have hmem : ∀ row', row' ∈ s.world.variants.update row.id (reclaim leaseToken
                (now + Time.seconds defaultVariantLeaseSeconds) currentTimestamp) ↔
              (row' ∈ s.world.variants ∧ row' ≠ row) ∨ row' = reclaim leaseToken
                (now + Time.seconds defaultVariantLeaseSeconds) currentTimestamp row :=
            fun row' => Table.mem_update_of_mem hrow rfl
          refine h.grant htoken ((hmem _).2 (Or.inr rfl)) hconstrained hkey
            ⟨other, List.mem_cons_of_mem _ hother, hpath⟩ (Or.inr (h.ids row hrow)) rfl rfl ?_
            (fun _ => ⟨row, hrow, rfl, rfl, rfl⟩)
          intro row' hrow'
          rcases (hmem row').1 hrow' with ⟨hold, hne⟩ | rfl
          · exact Or.inr ⟨fun heq => hne (Table.eq_of_key hold hrow heq), hold⟩
          · exact Or.inl rfl
        · simpa only [claim, transact, hrun] using hasked

theorem Sound.removeObject {s : State} (h : Sound s) (key : ObjectKey) :
    Sound { s with world := { s.world with objects := s.world.objects.delete key } } where
  constrained := h.constrained
  rows := h.rows
  ids := h.ids
  leases := h.leases
  granted := h.granted
  stored other content hobject := h.stored other content (Objects.of_delete hobject)
  temporary id token content hobject := h.temporary id token content (Objects.of_delete hobject)
  generators other hother := { h.generators other hother with }

theorem Sound.deleteVariants {s : State} (h : Sound s) (mediaId : MediaId) :
    Sound { s with world :=
      { s.world with variants := (deleteVariants mediaId).commit s.world.variants } } := by
  have hkept : ∀ row ∈ (Variant.deleteVariants mediaId).commit s.world.variants,
      row ∈ s.world.variants := fun row hrow => (Table.mem_deleteWhere.1 hrow).1
  exact
    { constrained := h.constrained.deleteWhere _
      rows := fun row hrow => h.rows row (hkept row hrow)
      ids := fun row hrow => h.ids row (hkept row hrow)
      leases := fun row hrow => h.leases row (hkept row hrow)
      granted := h.granted
      stored := h.stored
      temporary := h.temporary
      generators := fun other hother => (h.generators other hother).transfer (fun _ => id)
        (fun _ => id) fun row hrow _ => ⟨row, hkept row hrow, rfl, rfl, rfl⟩ }

theorem Sound.step {s : State} (h : Sound s) (event : Event) : Sound (step s event) := by
  cases event with
  | claim job variantId leaseToken now currentTimestamp =>
      show Sound (if s.Fresh variantId leaseToken then _ else _)
      split
      · next hfresh => exact h.claimStep hfresh now currentTimestamp
      · exact h
  | process leaseToken => exact h.advance (fun g => stepSound_processStep g s.world) leaseToken
  | putTemporary leaseToken delivery =>
      exact h.advance (fun g => stepSound_putStep delivery g s.world) leaseToken
  | commitTemporary leaseToken delivery =>
      exact h.advance (fun g => stepSound_commitStep delivery g s.world) leaseToken
  | complete leaseToken completedAt => exact h.completeStep leaseToken completedAt
  | recordFailure leaseToken failedAt => exact h.failStep leaseToken failedAt
  | removeObject key => exact h.removeObject key
  | deleteVariants mediaId => exact h.deleteVariants mediaId

theorem reachable_sound {s : State} (h : generations.Reachable s) : Sound s := by
  refine h.invariant ?_ (fun s event hs => hs.step event)
  rintro s rfl
  exact
    { constrained := constrained_empty
      rows := fun row hrow => absurd hrow (Table.not_mem_empty row)
      ids := fun row hrow => absurd hrow (Table.not_mem_empty row)
      leases := fun row hrow => absurd hrow (Table.not_mem_empty row)
      granted := fun _ _ _ hentry => absurd hentry List.not_mem_nil
      stored := fun _ _ hobject => nomatch hobject
      temporary := fun _ _ _ hobject => nomatch hobject
      generators := fun other hother => absurd hother (Table.not_mem_empty other) }

end System

end MediaHub.Variant
