import MediaHub.Core.Cors
import MediaHub.Core.Storage

namespace MediaHub.Core

open Result
open MediaHub.Http (Text isWhitespace)
open Text (isControl)

def maxS3BucketTags : Nat := 50
def maxS3ObjectTagKeyChars : Nat := 128
def maxS3ObjectTagValueChars : Nat := 256

/-- `char::is_alphabetic` and `char::is_numeric`: letters, marks and numbers of Unicode. None of
them is a control character or a noncharacter. -/
class CharacterClasses where
  isAlphabetic : Char → Bool
  isNumeric : Char → Bool
  assigned : ∀ c, (isAlphabetic c || isNumeric c) = true →
    isControl c = false ∧ isXml10Character c = true
  ascii : ∀ c, c.toNat < 128 → isAlphabetic c = c.isAlpha ∧ isNumeric c = c.isDigit

export CharacterClasses (isAlphabetic isNumeric)

inductive S3TaggingError where
  | tooManyTags
  | invalidKey
  | invalidValue
  | duplicateKey
deriving DecidableEq

structure S3ObjectTag where
  key : Text
  value : Text

section

variable [CharacterClasses]

def isValidTagCharacter (c : Char) : Bool :=
  isAlphabetic c || isNumeric c || (isWhitespace c && !isControl c) ||
    "_.:/=+-@".toList.contains c

def validateTagText (value : Text) (minimumChars maximumChars : Nat) (error : S3TaggingError) :
    Except S3TaggingError Unit :=
  rejectIf (¬ (minimumChars ≤ value.length ∧ value.length ≤ maximumChars) ∨
    value.all isValidTagCharacter = false) error

namespace S3ObjectTag

def validate (tag : S3ObjectTag) : Except S3TaggingError Unit := do
  validateTagText tag.key 1 maxS3ObjectTagKeyChars .invalidKey
  validateTagText tag.value 0 maxS3ObjectTagValueChars .invalidValue

def new (key value : Text) : Except S3TaggingError S3ObjectTag := do
  S3ObjectTag.validate ⟨key, value⟩
  return ⟨key, value⟩

end S3ObjectTag

/-- The loop of `validate_tag_set`, after the tags with some keys. -/
def validateTags (keys : List Text) : List S3ObjectTag → Except S3TaggingError Unit
  | [] => .ok ()
  | tag :: tags => do
      tag.validate
      rejectIf (keys.contains tag.key = true) .duplicateKey
      validateTags (tag.key :: keys) tags

def validateTagSet (tags : List S3ObjectTag) (maximumTags : Nat) :
    Except S3TaggingError Unit := do
  rejectIf (maximumTags < tags.length) .tooManyTags
  validateTags [] tags

/-- A set of tags with a limit of its own. -/
structure S3TagSet (maximumTags : Nat) where
  tags : List S3ObjectTag
  valid : validateTagSet tags maximumTags = .ok ()

/-- The tags of an object. `S3ObjectTagSet` is how a row keeps them. -/
abbrev S3ObjectTags := S3TagSet maxS3ObjectTags

abbrev S3BucketTagSet := S3TagSet maxS3BucketTags

namespace S3TagSet

variable {maximumTags : Nat}

def new (tags : List S3ObjectTag) : Except S3TaggingError (S3TagSet maximumTags) :=
  match h : validateTagSet tags maximumTags with
  | .error e => .error e
  | .ok () => .ok ⟨tags, h⟩

def empty : S3TagSet maximumTags where
  tags := []
  valid := by
    rw [validateTagSet, andThen_eq_ok_iff, rejectIf_eq_ok_iff]
    exact ⟨Nat.not_lt_zero _, rfl⟩

def validate (set : S3TagSet maximumTags) : Except S3TaggingError Unit :=
  (new set.tags : Except S3TaggingError (S3TagSet maximumTags)).map fun _ => ()

theorem new_tags (set : S3TagSet maximumTags) : new set.tags = .ok set := by
  rw [new]
  split
  · next e h =>
      rw [set.valid] at h
      simp at h
  · rfl

theorem tags_of_new {tags : List S3ObjectTag} {set : S3TagSet maximumTags}
    (h : new tags = .ok set) : set.tags = tags := by
  rw [new] at h
  split at h
  · simp at h
  · rw [← Except.ok.inj h]

@[simp] theorem validate_eq_ok (set : S3TagSet maximumTags) : set.validate = .ok () := by
  rw [validate, new_tags]
  rfl

end S3TagSet

/-- A text of a tag within its bounds. -/
def TextWithin (minimumChars maximumChars : Nat) (value : Text) : Prop :=
  minimumChars ≤ value.length ∧ value.length ≤ maximumChars ∧
    value.all isValidTagCharacter = true

def S3ObjectTag.IsValid (tag : S3ObjectTag) : Prop :=
  TextWithin 1 maxS3ObjectTagKeyChars tag.key ∧ TextWithin 0 maxS3ObjectTagValueChars tag.value

/-- What the core asks of a set of tags. -/
structure CoreLimits (maximumTags : Nat) (tags : List S3ObjectTag) : Prop where
  count : tags.length ≤ maximumTags
  keysUnique : (tags.map S3ObjectTag.key).Nodup
  texts : ∀ tag ∈ tags, tag.IsValid

theorem validateTagText_eq_ok_iff {value : Text} {minimumChars maximumChars : Nat}
    {error : S3TaggingError} :
    validateTagText value minimumChars maximumChars error = .ok () ↔
      TextWithin minimumChars maximumChars value := by
  rw [validateTagText, rejectIf_eq_ok_iff, TextWithin, not_or, not_not, Bool.not_eq_false,
    and_assoc]

theorem S3ObjectTag.validate_eq_ok_iff {tag : S3ObjectTag} :
    tag.validate = .ok () ↔ tag.IsValid := by
  rw [validate, andThen_eq_ok_iff, validateTagText_eq_ok_iff, validateTagText_eq_ok_iff, IsValid]

theorem S3ObjectTag.new_eq_ok_iff {key value : Text} {tag : S3ObjectTag} :
    new key value = .ok tag ↔ tag = ⟨key, value⟩ ∧ tag.IsValid := by
  rw [new, andThen_eq_ok_iff, validate_eq_ok_iff, pure_eq_ok_iff]
  constructor
  · rintro ⟨hvalid, rfl⟩
    exact ⟨rfl, hvalid⟩
  · rintro ⟨rfl, hvalid⟩
    exact ⟨hvalid, rfl⟩

theorem validateTags_eq_ok_iff {keys : List Text} {tags : List S3ObjectTag} :
    validateTags keys tags = .ok () ↔
      (∀ tag ∈ tags, tag.IsValid) ∧ (∀ tag ∈ tags, tag.key ∉ keys) ∧
        (tags.map S3ObjectTag.key).Nodup := by
  induction tags generalizing keys with
  | nil => simp [validateTags]
  | cons tag tags ih =>
      rw [validateTags, andThen_eq_ok_iff, andThen_eq_ok_iff, rejectIf_eq_ok_iff,
        List.contains_iff_mem, S3ObjectTag.validate_eq_ok_iff, ih, List.map_cons, List.nodup_cons,
        List.forall_mem_cons, List.forall_mem_cons]
      simp only [List.mem_cons, not_or, List.mem_map, not_exists, not_and]
      constructor
      · rintro ⟨hvalid, hfresh, hrest, hkeys, hnodup⟩
        exact ⟨⟨hvalid, hrest⟩, ⟨hfresh, fun other hother => (hkeys other hother).2⟩,
          fun other hother => (hkeys other hother).1, hnodup⟩
      · rintro ⟨⟨hvalid, hrest⟩, ⟨hfresh, hkeys⟩, hother, hnodup⟩
        exact ⟨hvalid, hfresh, hrest, fun other hmem => ⟨hother other hmem, hkeys other hmem⟩,
          hnodup⟩

theorem validateTagSet_eq_ok_iff {tags : List S3ObjectTag} {maximumTags : Nat} :
    validateTagSet tags maximumTags = .ok () ↔ CoreLimits maximumTags tags := by
  rw [validateTagSet, andThen_eq_ok_iff, rejectIf_eq_ok_iff, validateTags_eq_ok_iff, not_lt]
  constructor
  · rintro ⟨hcount, htexts, _, hkeys⟩
    exact ⟨hcount, hkeys, htexts⟩
  · intro h
    exact ⟨h.count, h.texts, by simp, h.keysUnique⟩

theorem S3TagSet.coreLimits {maximumTags : Nat} (set : S3TagSet maximumTags) :
    CoreLimits maximumTags set.tags :=
  validateTagSet_eq_ok_iff.1 set.valid

theorem not_isControl_of_isValidTagCharacter {c : Char} (h : isValidTagCharacter c = true) :
    isControl c = false := by
  simp only [isValidTagCharacter, Bool.or_eq_true, Bool.and_eq_true, Bool.not_eq_true'] at h
  rcases h with ((hletter | hnumber) | hblank) | hsign
  · exact (CharacterClasses.assigned c (by simp [hletter])).1
  · exact (CharacterClasses.assigned c (by simp [hnumber])).1
  · exact hblank.2
  · have hall : ("_.:/=+-@".toList.all fun c => !isControl c) = true := by decide
    have hc := List.all_eq_true.1 hall c (by simpa using hsign)
    simpa using hc

theorem isXml10Character_of_isValidTagCharacter {c : Char} (h : isValidTagCharacter c = true) :
    isXml10Character c = true := by
  simp only [isValidTagCharacter, Bool.or_eq_true, Bool.and_eq_true, Bool.not_eq_true'] at h
  rcases h with ((hletter | hnumber) | hblank) | hsign
  · exact (CharacterClasses.assigned c (by simp [hletter])).2
  · exact (CharacterClasses.assigned c (by simp [hnumber])).2
  · obtain ⟨hwhite, hcontrol⟩ := hblank
    simp only [isControl, Bool.or_eq_false_iff, Bool.and_eq_false_iff, decide_eq_false_iff_not]
      at hcontrol
    simp only [isWhitespace, Bool.or_eq_true, Bool.and_eq_true, decide_eq_true_eq] at hwhite
    simp only [isXml10Character, Bool.or_eq_true, Bool.and_eq_true, decide_eq_true_eq]
    omega
  · have hall : ("_.:/=+-@".toList.all isXml10Character) = true := by decide
    exact List.all_eq_true.1 hall c (by simpa using hsign)

end

end MediaHub.Core
