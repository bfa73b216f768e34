import Mathlib.Tactic.Common

namespace Text

/-- `char::is_control` -/
def isControl (c : Char) : Bool := c.toNat < 32 || (127 ≤ c.toNat && c.toNat < 160)

/-- The bytes that `is_ascii_control` names. -/
def isAsciiControl (c : Char) : Bool := c.toNat < 32 || c.toNat = 127

def isAsciiDigit (c : Char) : Bool := '0' ≤ c && c ≤ '9'

def isAsciiLowercase (c : Char) : Bool := 'a' ≤ c && c ≤ 'z'

theorem toLower_of_not_ascii {c : Char} (h : ¬ c.toNat < 128) : c.toLower = c := by
  refine dif_neg ?_
  rintro ⟨_, hupper⟩
  exact h (Nat.lt_of_le_of_lt (UInt32.le_iff_toNat_le.1 hupper) (by decide))

theorem toUpper_of_not_ascii {c : Char} (h : ¬ c.toNat < 128) : c.toUpper = c := by
  refine dif_neg ?_
  rintro ⟨_, hlower⟩
  exact h (Nat.lt_of_le_of_lt (UInt32.le_iff_toNat_le.1 hlower) (by decide))

/-- What is checked of each ASCII character holds of every one. -/
theorem of_ascii {P : Char → Prop} (h : ∀ n < 128, P (Char.ofNat n)) {c : Char}
    (hascii : c.toNat < 128) : P c := by
  rw [← Char.ofNat_toNat c]
  exact h c.toNat hascii

end Text
