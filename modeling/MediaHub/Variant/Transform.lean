import Mathlib.Algebra.GroupWithZero.Nat
import Mathlib.Tactic.Common
import MediaHub.Text.Digits
import MediaHub.Text.Split

namespace MediaHub.Variant

def maxVariantDimension : Nat := 4096

def maxVariantOutputPixels : Nat := 16777216

inductive VariantFit where
  | cover
  | contain
  | inside
deriving DecidableEq

inductive CropPosition where
  | center
  | top
  | bottom
  | left
  | right
deriving DecidableEq

inductive VariantFormat where
  | jpeg
  | png
  | webp
deriving DecidableEq

def VariantFormat.extension : VariantFormat → List Char
  | .jpeg => "jpg".toList
  | .png => "png".toList
  | .webp => "webp".toList

def isAsciiHexdigit (c : Char) : Bool := "0123456789abcdefABCDEF".toList.contains c

/-- A transform that passed the checks of `VariantTransform.new`. -/
structure VariantTransform where
  width : Option Nat
  height : Option Nat
  fit : VariantFit
  quality : Nat
  format : VariantFormat
  blur : Nat
  crop : CropPosition
  background : List Char
  dimensions : ∀ value, value ∈ width ∨ value ∈ height → 0 < value ∧ value ≤ maxVariantDimension
  pixels : ∀ w ∈ width, ∀ h ∈ height, w * h ≤ maxVariantOutputPixels
  quality_bounds : 1 ≤ quality ∧ quality ≤ 100
  blur_bound : blur ≤ 100
  color : background.length = 6 ∧ ∀ c ∈ background, isAsciiHexdigit c
deriving DecidableEq

namespace VariantTransform

def toAsciiLowercase (s : List Char) : List Char := s.map Char.toLower

/-- `value.to_string()`, or nothing. -/
def dimensionText : Option Nat → List Char
  | none => []
  | some value => Nat.toDigits 10 value

def enumName : VariantFit → List Char
  | .cover => "cover".toList
  | .contain => "contain".toList
  | .inside => "inside".toList

def formatName : VariantFormat → List Char
  | .jpeg => "jpeg".toList
  | .png => "png".toList
  | .webp => "webp".toList

def cropName : CropPosition → List Char
  | .center => "center".toList
  | .top => "top".toList
  | .bottom => "bottom".toList
  | .left => "left".toList
  | .right => "right".toList

def canonical (t : VariantTransform) : List Char :=
  "w=".toList ++ (dimensionText t.width ++
    ("&h=".toList ++ (dimensionText t.height ++
      ("&fit=".toList ++ (enumName t.fit ++
        ("&quality=".toList ++ (Nat.toDigits 10 t.quality ++
          ("&format=".toList ++ (formatName t.format ++
            ("&blur=".toList ++ (Nat.toDigits 10 t.blur ++
              ("&crop=".toList ++ (cropName t.crop ++
                ("&background=".toList ++ t.background))))))))))))))

theorem toDigits_injective {n m : Nat} (h : Nat.toDigits 10 n = Nat.toDigits 10 m) : n = m := by
  rw [← @Nat.ofDigitChars_ten_toDigits n, h, Nat.ofDigitChars_ten_toDigits]

theorem dimensionText_injective {a b : Option Nat} (h : dimensionText a = dimensionText b) :
    a = b := by
  cases a with
  | none =>
      cases b with
      | none => rfl
      | some m => exact absurd h.symm Nat.toDigits_ne_nil
  | some n =>
      cases b with
      | none => exact absurd h Nat.toDigits_ne_nil
      | some m => rw [toDigits_injective h]

theorem enumName_injective {a b : VariantFit} (h : enumName a = enumName b) : a = b := by
  cases a <;> cases b <;> first | rfl | exact absurd h (by decide)

theorem formatName_injective {a b : VariantFormat} (h : formatName a = formatName b) : a = b := by
  cases a <;> cases b <;> first | rfl | exact absurd h (by decide)

theorem cropName_injective {a b : CropPosition} (h : cropName a = cropName b) : a = b := by
  cases a <;> cases b <;> first | rfl | exact absurd h (by decide)

/-- Neither a separator of the fields nor a line break. -/
def Plain (s : List Char) : Prop := '&' ∉ s ∧ '\n' ∉ s

theorem plain_toDigits (n : Nat) : Plain (Nat.toDigits 10 n) := by
  have hdigit : ∀ c ∈ Nat.toDigits 10 n, c.isDigit := fun c hc =>
    Nat.isDigit_of_mem_toDigits (by decide) (by decide) hc
  exact ⟨fun h => absurd (hdigit _ h) (by decide), fun h => absurd (hdigit _ h) (by decide)⟩

theorem plain_dimensionText (value : Option Nat) : Plain (dimensionText value) := by
  cases value with
  | none => exact ⟨List.not_mem_nil, List.not_mem_nil⟩
  | some n => exact plain_toDigits n

theorem plain_enumName (fit : VariantFit) : Plain (enumName fit) := by
  cases fit <;> exact ⟨by decide, by decide⟩

theorem plain_formatName (format : VariantFormat) : Plain (formatName format) := by
  cases format <;> exact ⟨by decide, by decide⟩

theorem plain_cropName (crop : CropPosition) : Plain (cropName crop) := by
  cases crop <;> exact ⟨by decide, by decide⟩

/-- One field ends where the name of the next one begins. -/
theorem field_inj {a b x y name : List Char} (ha : Plain a) (hb : Plain b)
    (hname : name.head? = some '&') (h : a ++ (name ++ x) = b ++ (name ++ y)) :
    a = b ∧ x = y := by
  obtain ⟨rest, rfl⟩ : ∃ rest, name = '&' :: rest := ⟨name.tail, by rw [List.cons_head?_tail hname]⟩
  obtain ⟨rfl, hrest⟩ := Text.append_separator_inj ha.1 hb.1 h
  exact ⟨rfl, List.append_cancel_left hrest⟩

/-- No two transforms share a canonical text. -/
theorem canonical_injective {t t' : VariantTransform} (h : canonical t = canonical t') :
    t = t' := by
  obtain ⟨hwidth, h⟩ := field_inj (plain_dimensionText _) (plain_dimensionText _) rfl
    (List.append_cancel_left h)
  obtain ⟨hheight, h⟩ := field_inj (plain_dimensionText _) (plain_dimensionText _) rfl h
  obtain ⟨hfit, h⟩ := field_inj (plain_enumName _) (plain_enumName _) rfl h
  obtain ⟨hquality, h⟩ := field_inj (plain_toDigits _) (plain_toDigits _) rfl h
  obtain ⟨hformat, h⟩ := field_inj (plain_formatName _) (plain_formatName _) rfl h
  obtain ⟨hblur, h⟩ := field_inj (plain_toDigits _) (plain_toDigits _) rfl h
  obtain ⟨hcrop, hbackground⟩ := field_inj (plain_cropName _) (plain_cropName _) rfl h
  cases t
  cases t'
  obtain rfl := dimensionText_injective hwidth
  obtain rfl := dimensionText_injective hheight
  obtain rfl := enumName_injective hfit
  obtain rfl := toDigits_injective hquality
  obtain rfl := formatName_injective hformat
  obtain rfl := toDigits_injective hblur
  obtain rfl := cropName_injective hcrop
  obtain rfl := hbackground
  rfl

theorem newline_not_mem_canonical (t : VariantTransform) : '\n' ∉ canonical t := by
  have hbackground : '\n' ∉ t.background := fun h => absurd (t.color.2 _ h) (by decide)
  have hnames : '\n' ∉ "w=".toList ∧ '\n' ∉ "&h=".toList ∧ '\n' ∉ "&fit=".toList ∧
      '\n' ∉ "&quality=".toList ∧ '\n' ∉ "&format=".toList ∧ '\n' ∉ "&blur=".toList ∧
      '\n' ∉ "&crop=".toList ∧ '\n' ∉ "&background=".toList := by decide
  obtain ⟨hw, hh, hf, hq, ho, hb, hc, hg⟩ := hnames
  simp only [canonical, List.mem_append, not_or]
  exact ⟨hw, (plain_dimensionText _).2, hh, (plain_dimensionText _).2, hf, (plain_enumName _).2, hq,
    (plain_toDigits _).2, ho, (plain_formatName _).2, hb, (plain_toDigits _).2, hc,
    (plain_cropName _).2, hg, hbackground⟩

end VariantTransform

/-- An image as it is. -/
def webpTransform : VariantTransform where
  width := none
  height := none
  fit := .inside
  quality := 80
  format := .webp
  blur := 0
  crop := .center
  background := "ffffff".toList
  dimensions := by simp
  pixels := by simp
  quality_bounds := by decide
  blur_bound := by decide
  color := ⟨rfl, List.all_eq_true.1 rfl⟩

end MediaHub.Variant
