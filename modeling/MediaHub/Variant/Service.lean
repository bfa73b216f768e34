import MediaHub.Transition.System
import MediaHub.Variant.Repository

namespace MediaHub.Variant

open Transition Transition.Method
open MediaHub.Core
open MediaHub.Store (RepositoryError)

structure ProcessedVariant where
  content : Content
  mime : String
  format : VariantFormat
  width : Nat
  height : Nat
  /-- A `Vec` holds at most `isize::MAX` bytes. -/
  content_length : content.length ≤ maxI64
deriving DecidableEq

inductive ImageProcessorError where
  | unsupportedInput
  | inputTooLarge
  | outputTooLarge
  | processingFailed
  | encodingFailed
deriving DecidableEq

def ImageProcessorError.message : ImageProcessorError → String
  | .unsupportedInput => "input is not a supported image"
  | .inputTooLarge => "input image exceeds configured limits"
  | .outputTooLarge => "output image exceeds configured limits"
  | .processingFailed => "image transformation failed"
  | .encodingFailed => "image encoding failed"

/-- What a processor of some version makes of an image. An image has at least one pixel, and
its sides fit an `INTEGER`. -/
class ImageProcessor where
  process : List Char → Content → VariantTransform → Except ImageProcessorError ProcessedVariant
  process_sides : ∀ {version input transform image}, process version input transform = .ok image →
    (0 < image.width ∧ image.width ≤ maxI32) ∧ 0 < image.height ∧ image.height ≤ maxI32

/-- `hex::encode(Sha256::digest(text))` -/
class Sha256 where
  hexDigest : List Char → List Char

inductive ObjectStoreError where
  | notFound
  | alreadyExists
  | unavailable (message : String)
deriving DecidableEq

def ObjectStoreError.message : ObjectStoreError → String
  | .notFound => "object was not found"
  | .alreadyExists => "object key already exists"
  | .unavailable message => "object store failed: " ++ message

/-- `temp/variants/{variant.id}/{lease_token}`, or the storage key of a variant. -/
inductive ObjectKey where
  | temporary (variantId : VariantId) (leaseToken : Uuid)
  | stored (storageKey : List Char)
deriving DecidableEq

abbrev Objects := ObjectKey → Option Content

namespace Objects

def put (objects : Objects) (key : ObjectKey) (content : Content) : Objects :=
  Function.update objects key (some content)

def delete (objects : Objects) (key : ObjectKey) : Objects := Function.update objects key none

/-- An object that is stored already is not replaced. -/
def commitTemporary (objects : Objects) (temporaryKey finalKey : ObjectKey) :
    Except ObjectStoreError Objects :=
  match objects temporaryKey with
  | none => .error .notFound
  | some content =>
      match objects finalKey with
      | none => .ok ((objects.put finalKey content).delete temporaryKey)
      | some _ => .error .alreadyExists

variable {objects : Objects} {key other : ObjectKey} {content content' : Content}

@[simp] theorem put_self : objects.put key content key = some content := Function.update_self _ _ _

theorem put_of_ne (h : other ≠ key) : objects.put key content other = objects other :=
  Function.update_of_ne h _ _

theorem delete_of_ne (h : other ≠ key) : objects.delete key other = objects other :=
  Function.update_of_ne h _ _

theorem of_delete (h : objects.delete key other = some content) : objects other = some content := by
  by_cases hkey : other = key
  · subst hkey
    have hnone : objects.delete other other = none := Function.update_self _ _ _
    rw [hnone] at h
    exact nomatch h
  · rwa [delete_of_ne hkey] at h

theorem put_eq_some (h : objects.put key content other = some content') :
    objects other = some content' ∨ other = key ∧ content' = content := by
  by_cases hkey : other = key
  · subst hkey
    rw [put_self] at h
    exact Or.inr ⟨rfl, (Option.some.inj h).symm⟩
  · rw [put_of_ne hkey] at h
    exact Or.inl h

end Objects

/-- `cache/image/{transform_key}.{extension}` -/
def imagePath (transformKey : List Char) (format : VariantFormat) : List Char :=
  "cache/image/".toList ++ (transformKey ++ '.' :: format.extension)

/-- The SHA-256 of a media as `validate_sha256` accepts it. -/
structure MediaSha256 where
  text : List Char
  digits : text.length = 64 ∧ ∀ c ∈ text, isAsciiHexdigit c
deriving DecidableEq

structure GenerateVariantRequest where
  mediaId : MediaId
  mediaSha256 : MediaSha256
  sourceContent : Content
  transform : VariantTransform
deriving DecidableEq

/-- A request as the processor of some version serves it. -/
structure Job where
  request : GenerateVariantRequest
  processorVersion : List Char
deriving DecidableEq

namespace Job

def process [ImageProcessor] (job : Job) : Except ImageProcessorError ProcessedVariant :=
  ImageProcessor.process job.processorVersion job.request.sourceContent job.request.transform

/-- The text that `variant_cache_key` digests. -/
def cacheSource (job : Job) : List Char :=
  VariantTransform.toAsciiLowercase job.request.mediaSha256.text ++
    '\n' :: (job.request.transform.canonical ++ '\n' :: job.processorVersion)

def variantCacheKey [Sha256] (job : Job) : List Char := Sha256.hexDigest job.cacheSource

def storageKey [Sha256] (job : Job) : List Char :=
  imagePath job.variantCacheKey job.request.transform.format

end Job

structure World where
  variants : Variants
  objects : Objects

inductive VariantApplicationError where
  | generationInProgress
  | leaseLost
  | processor (error : ImageProcessorError)
  | storage (error : ObjectStoreError)
  | repository (error : RepositoryError)
deriving DecidableEq

structure VariantReceipt where
  variant : VariantRow
  content : Content
  cacheHit : Bool
deriving DecidableEq

def VariantApplicationError.message : VariantApplicationError → String
  | .generationInProgress => "variant generation is already in progress"
  | .leaseLost => "variant generation lease was lost"
  | .processor error => error.message
  | .storage error => error.message
  | .repository .notFound => "record was not found"
  | .repository .conflict => "concurrent write conflict"
  | .repository .quotaExceeded => "quota has insufficient available bytes"
  | .repository (.invariant message) => "repository invariant was violated: " ++ message
  | .repository (.unavailable message) => "repository failed: " ++ message

abbrev Generation := Method World VariantApplicationError

def defaultVariantLeaseSeconds : Int := 60

/-- A transaction of its own. -/
def transact {α : Type} (tx : Transaction α) : Generation α :=
  ⟨fun w => match tx.run w.variants with
    | .ok (a, variants) => (.ok a, { w with variants := variants })
    | .error error => (.error (.repository error), w)⟩

def newVariant [Sha256] (job : Job) (variantId : VariantId) (now : Time) : NewVariant where
  id := variantId
  mediaId := job.request.mediaId
  transformKey := job.variantCacheKey
  transform := job.request.transform
  processorVersion := job.processorVersion
  storageKey := job.storageKey
  createdAt := now

def claim [Sha256] (job : Job) (variantId : VariantId) (leaseToken : Uuid)
    (now currentTimestamp : Time) : Generation VariantClaim :=
  transact (claimVariant (newVariant job variantId now) leaseToken
    (now + Time.seconds defaultVariantLeaseSeconds) currentTimestamp)

def readImage (variant : VariantRow) : Generation VariantReceipt :=
  ⟨fun w => match w.objects (.stored variant.storageKey) with
    | some content => (.ok ⟨variant, content, true⟩, w)
    | none => (.error (.storage .notFound), w)⟩

def processImage [ImageProcessor] (job : Job) : Generation ProcessedVariant :=
  check (job.process.mapError .processor)

section Lease

variable (variant : VariantRow) (leaseToken : Uuid)

def putTemporary (image : ProcessedVariant) : Generation Unit :=
  assign fun w =>
    { w with objects := w.objects.put (.temporary variant.id leaseToken) image.content }

/-- An object that is there already is as good as this one. -/
def commitImage : Generation Unit :=
  ⟨fun w =>
    match w.objects.commitTemporary (.temporary variant.id leaseToken)
      (.stored variant.storageKey) with
    | .ok objects => (.ok (), { w with objects := objects })
    | .error .alreadyExists => (.ok (), w)
    | .error error =>
        (.error (.storage error),
          { w with objects := w.objects.delete (.temporary variant.id leaseToken) })⟩

def finish (image : ProcessedVariant) (completedAt : Time) : Generation VariantReceipt := do
  let ready ← transact (completeVariant variant.id leaseToken image.width image.height
    image.content.length completedAt)
  match ready with
  | none => check (.error .leaseLost)
  | some ready => return ⟨ready, image.content, false⟩

/-- What `fail_variant` answers is not looked at. -/
def recordFailure (summary : String) (failedAt : Time) (w : World) : World :=
  { w with variants := (failVariant variant.id leaseToken summary failedAt).commit w.variants }

/-- An error is recorded in the row before it is returned. -/
def recording {α : Type} (failedAt : Time) (m : Generation α) : Generation α :=
  ⟨fun w => match m.run w with
    | (.ok a, w') => (.ok a, w')
    | (.error error, w') =>
        (.error error, recordFailure variant leaseToken error.message failedAt w')⟩

end Lease

/-- The times that one generation reads off its clock and the database's. -/
structure Readings where
  now : Time
  currentTimestamp : Time
  failedAt : Time
  completedAt : Time

/-- What follows once a lease is granted. -/
def produce [ImageProcessor] (job : Job) (variant : VariantRow) (leaseToken : Uuid)
    (clock : Readings) : Generation VariantReceipt := do
  let image ← recording variant leaseToken clock.failedAt (processImage job)
  recording variant leaseToken clock.failedAt (putTemporary variant leaseToken image)
  recording variant leaseToken clock.failedAt (commitImage variant leaseToken)
  finish variant leaseToken image clock.completedAt

def generate [Sha256] [ImageProcessor] (job : Job) (variantId : VariantId) (leaseToken : Uuid)
    (clock : Readings) : Generation VariantReceipt := do
  let claim ← claim job variantId leaseToken clock.now clock.currentTimestamp
  match claim with
  | .ready variant => readImage variant
  | .inProgress => check (.error .generationInProgress)
  | .generate variant leaseToken => produce job variant leaseToken clock

/-- The staged object is moved, or one was stored before it, or it is gone. -/
theorem run_commitImage (variant : VariantRow) (leaseToken : Uuid) (w : World) :
    (∃ content, w.objects (.temporary variant.id leaseToken) = some content ∧
        w.objects (.stored variant.storageKey) = none ∧
        (commitImage variant leaseToken).run w = (.ok (), { w with
          objects := (w.objects.put (.stored variant.storageKey) content).delete
            (.temporary variant.id leaseToken) })) ∨
      (∃ content, w.objects (.stored variant.storageKey) = some content ∧
        (commitImage variant leaseToken).run w = (.ok (), w)) ∨
      (w.objects (.temporary variant.id leaseToken) = none ∧
        (commitImage variant leaseToken).run w = (.error (.storage .notFound), { w with
          objects := w.objects.delete (.temporary variant.id leaseToken) })) := by
  cases htemporary : w.objects (.temporary variant.id leaseToken) with
  | none =>
      refine Or.inr (Or.inr ⟨rfl, ?_⟩)
      simp only [commitImage, Objects.commitTemporary, htemporary]
  | some content =>
      cases hstored : w.objects (.stored variant.storageKey) with
      | none =>
          refine Or.inl ⟨content, rfl, rfl, ?_⟩
          simp only [commitImage, Objects.commitTemporary, htemporary, hstored]
      | some other =>
          refine Or.inr (Or.inl ⟨other, rfl, ?_⟩)
          simp only [commitImage, Objects.commitTemporary, htemporary, hstored]

/-- A published image has measures that the columns take. -/
theorem run_finish [ImageProcessor] {job : Job} {image : ProcessedVariant}
    (h : job.process = .ok image)
    (variant : VariantRow) (leaseToken : Uuid) (completedAt : Time) (w : World) :
    (leasedRow w.variants variant.id leaseToken completedAt = none ∧
      (finish variant leaseToken image completedAt).run w = (.error .leaseLost, w)) ∨
    ∃ row, leasedRow w.variants variant.id leaseToken completedAt = some row ∧
      (finish variant leaseToken image completedAt).run w =
        (.ok ⟨complete image.width image.height image.content.length completedAt row, image.content,
            false⟩,
          ⟨w.variants.update variant.id
            (complete image.width image.height image.content.length completedAt), w.objects⟩) := by
  obtain ⟨⟨hwidth, hwidth'⟩, hheight, hheight'⟩ := ImageProcessor.process_sides h
  have hsizes : image.width ≠ 0 ∧ image.height ≠ 0 ∧ image.width ≤ maxI32 ∧ image.height ≤ maxI32 ∧
      image.content.length ≤ maxI64 :=
    ⟨by omega, by omega, hwidth', hheight', image.content_length⟩
  have htransact : ∀ {found variants},
      (completeVariant variant.id leaseToken image.width image.height
        image.content.length completedAt).run w.variants = .ok (found, variants) →
      (transact (completeVariant variant.id leaseToken image.width image.height
        image.content.length completedAt)).run w = (.ok found, ⟨variants, w.objects⟩) := by
    intro found variants hrun
    simp only [transact, hrun]
  cases hleased : leasedRow w.variants variant.id leaseToken completedAt with
  | none =>
      refine Or.inl ⟨rfl, ?_⟩
      have hrun := htransact (run_completeVariant_ok.2 ⟨hsizes, Or.inl ⟨hleased, rfl, rfl⟩⟩)
      rw [finish, run_bind_of_ok hrun]
      rfl
  | some row =>
      refine Or.inr ⟨row, rfl, ?_⟩
      have hrun := htransact (run_completeVariant_ok.2 ⟨hsizes, Or.inr ⟨row, hleased, rfl, rfl⟩⟩)
      rw [finish, run_bind_of_ok hrun]
      rfl

theorem run_recording {α : Type} {m : Generation α} {w w' : World} {a : α}
    (h : m.run w = (.ok a, w')) (variant : VariantRow) (leaseToken : Uuid) (failedAt : Time) :
    (recording variant leaseToken failedAt m).run w = (.ok a, w') := by
  simp only [recording, h]

/-- While the lease lasts, the image is stored and its row becomes ready. -/
theorem run_produce [ImageProcessor] {job : Job} {image : ProcessedVariant}
    (hprocess : job.process = .ok image) {variant : VariantRow} {leaseToken : Uuid}
    {clock : Readings} {w : World}
    (hleased : leasedRow w.variants variant.id leaseToken clock.completedAt = some variant)
    (hobject : ∀ content, w.objects (.stored variant.storageKey) = some content →
      content = image.content) :
    ∃ w', (produce job variant leaseToken clock).run w =
        (.ok ⟨complete image.width image.height image.content.length clock.completedAt variant,
          image.content, false⟩, w') ∧
      w'.variants = w.variants.update variant.id
        (complete image.width image.height image.content.length clock.completedAt) ∧
      w'.objects (.stored variant.storageKey) = some image.content := by
  have hmake : (processImage job).run w = (.ok image, w) := by
    simp only [processImage, check, hprocess, Except.mapError]
  let staged : World :=
    ⟨w.variants, w.objects.put (.temporary variant.id leaseToken) image.content⟩
  have hput : (putTemporary variant leaseToken image).run w = (.ok (), staged) := rfl
  obtain ⟨published, hcommit, hvariants, hstored⟩ : ∃ published,
      (commitImage variant leaseToken).run staged = (.ok (), published) ∧
        published.variants = w.variants ∧
        published.objects (.stored variant.storageKey) = some image.content := by
    have htemporary : staged.objects (.temporary variant.id leaseToken) = some image.content :=
      Objects.put_self
    rcases run_commitImage variant leaseToken staged with
      ⟨content, hcontent, -, hrun⟩ | ⟨content, hcontent, hrun⟩ | ⟨hnone, -⟩
    · obtain rfl : image.content = content := Option.some.inj (htemporary.symm.trans hcontent)
      refine ⟨_, hrun, rfl, ?_⟩
      have hkept : ((staged.objects.put (.stored variant.storageKey) image.content).delete
          (.temporary variant.id leaseToken)) (.stored variant.storageKey) =
            some image.content := by
        rw [Objects.delete_of_ne ObjectKey.noConfusion, Objects.put_self]
      exact hkept
    · refine ⟨staged, hrun, rfl, ?_⟩
      have hold : w.objects (.stored variant.storageKey) = some content := by
        rw [← hcontent]
        have hkept : w.objects.put (.temporary variant.id leaseToken) image.content
            (.stored variant.storageKey) = w.objects (.stored variant.storageKey) :=
          Objects.put_of_ne ObjectKey.noConfusion
        exact hkept.symm
      rw [hcontent, hobject content hold]
    · rw [htemporary] at hnone
      simp at hnone
  rw [← hvariants] at hleased
  rcases run_finish hprocess variant leaseToken clock.completedAt published with
    ⟨hnone, -⟩ | ⟨row, hrow, hrun⟩
  · rw [hleased] at hnone
    simp at hnone
  · obtain rfl : variant = row := Option.some.inj (hleased.symm.trans hrow)
    refine ⟨⟨published.variants.update variant.id
      (complete image.width image.height image.content.length clock.completedAt),
      published.objects⟩, ?_, ?_, hstored⟩
    · rw [produce, run_bind_of_ok (run_recording hmake _ _ _),
        run_bind_of_ok (run_recording hput _ _ _), run_bind_of_ok (run_recording hcommit _ _ _),
        hrun]
    · rw [← hvariants]

theorem imagePath_inj {transformKey transformKey' : List Char} {format format' : VariantFormat}
    (h : imagePath transformKey format = imagePath transformKey' format') :
    transformKey = transformKey' := by
  have hextension : ∀ format : VariantFormat, '.' ∉ format.extension.reverse := by
    intro format
    cases format <;> decide
  have hkey := congrArg List.reverse (List.append_cancel_left h)
  simp only [List.reverse_append, List.reverse_cons, List.append_assoc, List.singleton_append]
    at hkey
  have hparts := Text.append_separator_inj (hextension _) (hextension _) hkey
  exact List.reverse_injective hparts.2

namespace Job

variable {job job' : Job}

theorem newline_not_mem_sha256 (sha256 : MediaSha256) :
    '\n' ∉ VariantTransform.toAsciiLowercase sha256.text := by
  intro h
  obtain ⟨c, hc, hlower⟩ := List.mem_map.1 h
  have hdigit := sha256.digits.2 c hc
  have hall : "0123456789abcdefABCDEF".toList.all (fun c => c.toLower ≠ '\n') = true := by decide
  exact of_decide_eq_true (List.all_eq_true.1 hall c (List.contains_iff_mem.1 hdigit)) hlower

/-- The digested text says which content is processed, how, and by which processor. -/
theorem cacheSource_inj (h : job.cacheSource = job'.cacheSource) :
    VariantTransform.toAsciiLowercase job.request.mediaSha256.text =
        VariantTransform.toAsciiLowercase job'.request.mediaSha256.text ∧
      job.request.transform = job'.request.transform ∧
      job.processorVersion = job'.processorVersion := by
  obtain ⟨hsha256, hrest⟩ := Text.append_separator_inj (newline_not_mem_sha256 _)
    (newline_not_mem_sha256 _) h
  obtain ⟨htransform, hversion⟩ := Text.append_separator_inj
    (VariantTransform.newline_not_mem_canonical _)
    (VariantTransform.newline_not_mem_canonical _) hrest
  exact ⟨hsha256, VariantTransform.canonical_injective htransform, hversion⟩

end Job

end MediaHub.Variant
