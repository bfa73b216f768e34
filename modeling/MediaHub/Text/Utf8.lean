import Mathlib.Algebra.GroupWithZero.Nat
import Mathlib.Tactic.Common

namespace Utf8

def bytes (s : List Char) : List UInt8 := s.flatMap String.utf8EncodeChar

/-- The text that the bytes spell, if they are well formed. -/
def ofBytes (bytes : List UInt8) : Option (List Char) :=
  bytes.toByteArray.utf8Decode?.map Array.toList

def byteLength (s : List Char) : Nat := (s.map Char.utf8Size).sum

theorem length_bytes (s : List Char) : (bytes s).length = byteLength s := by
  simp only [bytes, byteLength, List.length_flatMap, String.length_utf8EncodeChar]

theorem ofBytes_bytes (s : List Char) : ofBytes (bytes s) = some s := by
  have hencode : (bytes s).toByteArray = s.utf8Encode := rfl
  rw [ofBytes, hencode, List.utf8Decode?_utf8Encode]
  rfl

theorem bytes_injective : Function.Injective bytes := by
  intro s t h
  have hread := congrArg ofBytes h
  rw [ofBytes_bytes, ofBytes_bytes] at hread
  exact Option.some.inj hread

@[simp] theorem byteLength_nil : byteLength [] = 0 := rfl

@[simp] theorem byteLength_cons (c : Char) (s : List Char) :
    byteLength (c :: s) = c.utf8Size + byteLength s := by
  simp [byteLength]

@[simp] theorem byteLength_append (s t : List Char) :
    byteLength (s ++ t) = byteLength s + byteLength t := by
  simp [byteLength]

theorem length_le_byteLength (s : List Char) : s.length ≤ byteLength s := by
  induction s with
  | nil => simp
  | cons c s ih =>
      have hpos := c.utf8Size_pos
      simp only [List.length_cons, byteLength_cons]
      omega

/-- Where every character is one byte, the bytes are as many as the characters. -/
theorem byteLength_eq_length {s : List Char} (h : ∀ c ∈ s, c.utf8Size = 1) :
    byteLength s = s.length := by
  induction s with
  | nil => rfl
  | cons c s ih =>
      have hhead := h c List.mem_cons_self
      have htail := ih fun d hd => h d (List.mem_cons_of_mem _ hd)
      simp only [byteLength_cons, List.length_cons]
      omega

end Utf8
