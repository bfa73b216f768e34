import Mathlib.Data.List.Basic
import Mathlib.Tactic.Common

namespace Base64

def alphabet : List Char :=
  "ABCDEFGHIJKLMNOPQRSTUVWXYZabcdefghijklmnopqrstuvwxyz0123456789-_".toList

/-- The character that stands for six bits. -/
def digit (n : Nat) : Char := alphabet.getD n 'A'

def value (c : Char) : Option Nat := alphabet.idxOf? c

/-- Three bytes become four characters; the last group may be shorter. -/
def encode : List UInt8 → List Char
  | [] => []
  | [a] => [digit (a.toNat / 4), digit (a.toNat % 4 * 16)]
  | [a, b] =>
      [digit (a.toNat / 4), digit (a.toNat % 4 * 16 + b.toNat / 16), digit (b.toNat % 16 * 4)]
  | a :: b :: c :: rest =>
      digit (a.toNat / 4) :: digit (a.toNat % 4 * 16 + b.toNat / 16) ::
        digit (b.toNat % 16 * 4 + c.toNat / 64) :: digit (c.toNat % 64) :: encode rest

/-- Refuses other characters, a single last character and bits that are left over. -/
def decode : List Char → Option (List UInt8)
  | [] => some []
  | [_] => none
  | [w, x] => do
      let w ← value w
      let x ← value x
      if x % 16 = 0 then some [UInt8.ofNat (w * 4 + x / 16)] else none
  | [w, x, y] => do
      let w ← value w
      let x ← value x
      let y ← value y
      if y % 4 = 0 then
        some [UInt8.ofNat (w * 4 + x / 16), UInt8.ofNat (x % 16 * 16 + y / 4)]
      else none
  | w :: x :: y :: z :: rest => do
      let w ← value w
      let x ← value x
      let y ← value y
      let z ← value z
      let bytes ← decode rest
      some (UInt8.ofNat (w * 4 + x / 16) :: UInt8.ofNat (x % 16 * 16 + y / 4) ::
        UInt8.ofNat (y % 4 * 64 + z) :: bytes)

set_option maxRecDepth 2000 in
theorem value_digit {n : Nat} (h : n < 64) : value (digit n) = some n := by
  have hall : ∀ n : Fin 64, value (digit n) = some n.val := by decide
  exact hall ⟨n, h⟩

theorem ofNat_eq {a : UInt8} {n : Nat} (h : n = a.toNat) : UInt8.ofNat n = a := by
  rw [h, UInt8.ofNat_toNat]

theorem decode_encode (bytes : List UInt8) : decode (encode bytes) = some bytes := by
  induction bytes using encode.induct with
  | case1 => rfl
  | case2 a =>
      have ha := a.toNat_lt
      have hfirst : value (digit (a.toNat / 4)) = some (a.toNat / 4) := value_digit (by omega)
      have hsecond : value (digit (a.toNat % 4 * 16)) = some (a.toNat % 4 * 16) :=
        value_digit (by omega)
      have hbyte : UInt8.ofNat (a.toNat / 4 * 4 + a.toNat % 4 * 16 / 16) = a :=
        ofNat_eq (by omega)
      simp only [encode, decode, hfirst, hsecond, hbyte, Option.bind_eq_bind, Option.bind_some]
      rw [if_pos (by omega)]
  | case3 a b =>
      have ha := a.toNat_lt
      have hb := b.toNat_lt
      have hfirst : value (digit (a.toNat / 4)) = some (a.toNat / 4) := value_digit (by omega)
      have hsecond : value (digit (a.toNat % 4 * 16 + b.toNat / 16)) =
          some (a.toNat % 4 * 16 + b.toNat / 16) := value_digit (by omega)
      have hthird : value (digit (b.toNat % 16 * 4)) = some (b.toNat % 16 * 4) :=
        value_digit (by omega)
      have hbyte : UInt8.ofNat (a.toNat / 4 * 4 + (a.toNat % 4 * 16 + b.toNat / 16) / 16) = a :=
        ofNat_eq (by omega)
      have hbyte' : UInt8.ofNat ((a.toNat % 4 * 16 + b.toNat / 16) % 16 * 16 +
          b.toNat % 16 * 4 / 4) = b := ofNat_eq (by omega)
      simp only [encode, decode, hfirst, hsecond, hthird, hbyte, hbyte', Option.bind_eq_bind,
        Option.bind_some]
      rw [if_pos (by omega)]
  | case4 a b c rest ih =>
      have ha := a.toNat_lt
      have hb := b.toNat_lt
      have hc := c.toNat_lt
      have hfirst : value (digit (a.toNat / 4)) = some (a.toNat / 4) := value_digit (by omega)
      have hsecond : value (digit (a.toNat % 4 * 16 + b.toNat / 16)) =
          some (a.toNat % 4 * 16 + b.toNat / 16) := value_digit (by omega)
      have hthird : value (digit (b.toNat % 16 * 4 + c.toNat / 64)) =
          some (b.toNat % 16 * 4 + c.toNat / 64) := value_digit (by omega)
      have hfourth : value (digit (c.toNat % 64)) = some (c.toNat % 64) := value_digit (by omega)
      have hbyte : UInt8.ofNat (a.toNat / 4 * 4 + (a.toNat % 4 * 16 + b.toNat / 16) / 16) = a :=
        ofNat_eq (by omega)
      have hbyte' : UInt8.ofNat ((a.toNat % 4 * 16 + b.toNat / 16) % 16 * 16 +
          (b.toNat % 16 * 4 + c.toNat / 64) / 4) = b := ofNat_eq (by omega)
      have hbyte'' : UInt8.ofNat ((b.toNat % 16 * 4 + c.toNat / 64) % 4 * 64 + c.toNat % 64) = c :=
        ofNat_eq (by omega)
      simp only [encode, decode, hfirst, hsecond, hthird, hfourth, hbyte, hbyte', hbyte'', ih,
        Option.bind_eq_bind, Option.bind_some]

theorem three_mul_length_encode_le (bytes : List UInt8) :
    3 * (encode bytes).length ≤ 4 * bytes.length + 2 := by
  induction bytes using encode.induct with
  | case1 => simp [encode]
  | case2 a => simp [encode]
  | case3 a b => simp [encode]
  | case4 a b c rest ih =>
      simp only [encode, List.length_cons]
      omega

theorem encode_ne_nil {bytes : List UInt8} (h : bytes ≠ []) : encode bytes ≠ [] := by
  cases bytes using encode.induct with
  | case1 => exact absurd rfl h
  | case2 | case3 | case4 => simp [encode]

theorem digit_mem (n : Nat) : digit n ∈ alphabet := by
  rw [digit, List.getD_eq_getElem?_getD]
  cases hget : alphabet[n]? with
  | none => decide
  | some c => exact List.mem_of_getElem? hget

theorem mem_alphabet {bytes : List UInt8} {c : Char} (h : c ∈ encode bytes) : c ∈ alphabet := by
  induction bytes using encode.induct with
  | case1 => cases h
  | case2 a =>
      simp only [encode, List.mem_cons, List.not_mem_nil, or_false] at h
      rcases h with rfl | rfl <;> exact digit_mem _
  | case3 a b =>
      simp only [encode, List.mem_cons, List.not_mem_nil, or_false] at h
      rcases h with rfl | rfl | rfl <;> exact digit_mem _
  | case4 a b d rest ih =>
      simp only [encode, List.mem_cons] at h
      rcases h with rfl | rfl | rfl | rfl | hrest
      · exact digit_mem _
      · exact digit_mem _
      · exact digit_mem _
      · exact digit_mem _
      · exact ih hrest

end Base64

/-- An engine for texts without padding that are safe in URLs, and what it promises of them. -/
class Base64Engine where
  encode : List UInt8 → List Char
  decode : List Char → Option (List UInt8)
  decode_encode : ∀ bytes, decode (encode bytes) = some bytes
  encode_ne_nil : ∀ {bytes}, bytes ≠ [] → encode bytes ≠ []
  three_mul_length_encode_le : ∀ bytes, 3 * (encode bytes).length ≤ 4 * bytes.length + 2
  mem_alphabet : ∀ {bytes} {c : Char}, c ∈ encode bytes → c ∈ Base64.alphabet

namespace Base64

abbrev urlSafeNoPad : Base64Engine where
  encode := encode
  decode := decode
  decode_encode := decode_encode
  encode_ne_nil := encode_ne_nil
  three_mul_length_encode_le := three_mul_length_encode_le
  mem_alphabet := mem_alphabet

/-- Every character of an encoding is one byte of UTF-8. -/
theorem utf8Size_encode [Base64Engine] {bytes : List UInt8} {c : Char}
    (h : c ∈ Base64Engine.encode bytes) : c.utf8Size = 1 := by
  have hall : alphabet.all (fun c => c.utf8Size = 1) = true := by decide
  exact of_decide_eq_true (List.all_eq_true.1 hall c (Base64Engine.mem_alphabet h))

end Base64
