import MediaHub.Http.Hmac
import MediaHub.Text.Utf8
import MediaHub.Variant.Service

namespace MediaHub.Variant

open MediaHub.Http.Hmac (hexEncode)

/-- `eq_ignore_ascii_case` -/
def EqIgnoreAsciiCase (a b : List Char) : Prop :=
  VariantTransform.toAsciiLowercase a = VariantTransform.toAsciiLowercase b

section

variable (sha256 : List UInt8 → List UInt8)

def variantCacheKey (mediaSha256 : List Char) (transform : VariantTransform)
    (processorVersion : List Char) : List Char :=
  let source := VariantTransform.toAsciiLowercase mediaSha256 ++
    '\n' :: (transform.canonical ++ '\n' :: processorVersion)
  hexEncode (sha256 (Utf8.bytes source))

end

theorem hexEncode_injective : Function.Injective hexEncode := by
  have hdigit : ∀ n < 16, ∀ m < 16, Nat.digitChar n = Nat.digitChar m → n = m := by decide
  intro bytes
  induction bytes with
  | nil =>
      intro bytes' h
      cases bytes' with
      | nil => rfl
      | cons byte bytes' => simp [hexEncode] at h
  | cons byte bytes ih =>
      intro bytes' h
      cases bytes' with
      | nil => simp [hexEncode] at h
      | cons byte' bytes' =>
          simp only [hexEncode, List.flatMap_cons, List.cons_append, List.nil_append,
            List.cons.injEq] at h
          obtain ⟨hhigh, hlow, hrest⟩ := h
          have hbyte := byte.toNat_lt
          have hbyte' := byte'.toNat_lt
          have hdiv := hdigit _ (by omega) _ (by omega) hhigh
          have hmod := hdigit _ (by omega) _ (by omega) hlow
          have heq : byte = byte' := UInt8.toNat_inj.1 (by omega)
          rw [heq, ih hrest]

/-- The key says which content was processed, how, and by which processor, and so does the path
of the stored image. -/
theorem variantCacheKey_eq_iff {sha256 : List UInt8 → List UInt8}
    (hsha256 : Function.Injective sha256) (media media' : MediaSha256)
    (transform transform' : VariantTransform) (version version' : List Char) :
    (variantCacheKey sha256 media.text transform version =
        variantCacheKey sha256 media'.text transform' version' ↔
      EqIgnoreAsciiCase media.text media'.text ∧ transform = transform' ∧ version = version') ∧
    (imagePath (variantCacheKey sha256 media.text transform version) transform.format =
        imagePath (variantCacheKey sha256 media'.text transform' version') transform'.format ↔
      EqIgnoreAsciiCase media.text media'.text ∧ transform = transform' ∧ version = version') := by
  have hinj : variantCacheKey sha256 media.text transform version =
        variantCacheKey sha256 media'.text transform' version' →
      EqIgnoreAsciiCase media.text media'.text ∧ transform = transform' ∧ version = version' := by
    intro h
    have hsource := Utf8.bytes_injective (hsha256 (hexEncode_injective h))
    obtain ⟨hmedia, hrest⟩ := Text.append_separator_inj (Job.newline_not_mem_sha256 media)
      (Job.newline_not_mem_sha256 media') hsource
    obtain ⟨htransform, hversion⟩ := Text.append_separator_inj
      (VariantTransform.newline_not_mem_canonical _)
      (VariantTransform.newline_not_mem_canonical _) hrest
    exact ⟨hmedia, VariantTransform.canonical_injective htransform, hversion⟩
  have hsame : EqIgnoreAsciiCase media.text media'.text ∧ transform = transform' ∧
      version = version' → variantCacheKey sha256 media.text transform version =
        variantCacheKey sha256 media'.text transform' version' := by
    rintro ⟨hmedia, rfl, rfl⟩
    simp only [variantCacheKey, show VariantTransform.toAsciiLowercase media.text =
      VariantTransform.toAsciiLowercase media'.text from hmedia]
  refine ⟨⟨hinj, hsame⟩, fun h => hinj (imagePath_inj h), fun h => ?_⟩
  rw [hsame h, h.2.1]

/-- The same digest in two spellings. -/
def upperDigest : MediaSha256 where
  text := List.replicate 64 'A'
  digits := ⟨List.length_replicate, List.forall_mem_replicate.2 (Or.inr rfl)⟩

def lowerDigest : MediaSha256 where
  text := List.replicate 64 'a'
  digits := ⟨List.length_replicate, List.forall_mem_replicate.2 (Or.inr rfl)⟩

def keySource (version : String) : List UInt8 :=
  Utf8.bytes (lowerDigest.text ++ '\n' :: (webpTransform.canonical ++ '\n' :: version.toList))

/-- SHA-256 of two texts; every other text is told apart by a digest of its own length. -/
def sampleSha256 (bytes : List UInt8) : List UInt8 :=
  if bytes = keySource "image-1" then
    [29, 216, 56, 93, 105, 140, 114, 17, 201, 113, 137, 41, 169, 109, 4, 231, 17, 86, 22, 70, 88,
      136, 12, 35, 213, 93, 9, 199, 23, 143, 6, 110]
  else if bytes = keySource "image-2" then
    [151, 31, 106, 5, 24, 40, 196, 19, 31, 149, 32, 42, 193, 187, 94, 24, 45, 32, 159, 120, 207,
      21, 193, 166, 58, 141, 189, 220, 232, 177, 219, 44]
  else List.replicate 33 0 ++ bytes

theorem sampleSha256_injective : Function.Injective sampleSha256 := by
  intro bytes bytes' h
  have hlong : ∀ {digest bytes : List UInt8}, digest.length = 32 →
      digest ≠ List.replicate 33 0 ++ bytes := by
    rintro _ bytes hlength rfl
    rw [List.length_append, List.length_replicate] at hlength
    omega
  unfold sampleSha256 at h
  split at h
  · split at h
    · simp_all
    · split at h
      · exact absurd h (by decide)
      · exact absurd h (hlong rfl)
  · split at h
    · split at h
      · exact absurd h (by decide)
      · split at h
        · simp_all
        · exact absurd h (hlong rfl)
    · split at h
      · exact absurd h.symm (hlong rfl)
      · split at h
        · exact absurd h.symm (hlong rfl)
        · exact List.append_cancel_left h

theorem variantCacheKey_eq_iff_upperDigest :
    variantCacheKey sampleSha256 upperDigest.text webpTransform "image-1".toList =
        "1dd8385d698c7211c9718929a96d04e71156164658880c23d55d09c7178f066e".toList ∧
      variantCacheKey sampleSha256 upperDigest.text webpTransform "image-1".toList =
        variantCacheKey sampleSha256 lowerDigest.text webpTransform "image-1".toList ∧
      variantCacheKey sampleSha256 upperDigest.text webpTransform "image-1".toList ≠
        variantCacheKey sampleSha256 lowerDigest.text webpTransform "image-2".toList := by
  have hdigits : EqIgnoreAsciiCase upperDigest.text lowerDigest.text := by
    unfold EqIgnoreAsciiCase
    decide
  have hkeys := fun version => (variantCacheKey_eq_iff sampleSha256_injective upperDigest
    lowerDigest webpTransform webpTransform "image-1".toList version).1
  refine ⟨by decide +kernel, (hkeys _).2 ⟨hdigits, rfl, rfl⟩, fun h => ?_⟩
  exact absurd ((hkeys _).1 h).2.2 (by decide)

end MediaHub.Variant
