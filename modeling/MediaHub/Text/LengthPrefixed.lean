import Mathlib.Algebra.Group.Nat.Defs
import Mathlib.Data.List.Basic
import Mathlib.Tactic.Common

/-!
Byte strings one after another, each with its length in four bytes before it.
-/

namespace LengthPrefixed

/-- `u32::to_be_bytes` -/
def bigEndian (n : Nat) : List UInt8 :=
  [UInt8.ofNat (n / 16777216), UInt8.ofNat (n / 65536), UInt8.ofNat (n / 256), UInt8.ofNat n]

def component (bytes : List UInt8) : List UInt8 := bigEndian bytes.length ++ bytes

@[simp] theorem length_bigEndian (n : Nat) : (bigEndian n).length = 4 := rfl

theorem length_component (bytes : List UInt8) : (component bytes).length = 4 + bytes.length := by
  rw [component, List.length_append, length_bigEndian]

theorem bigEndian_injective {n m : Nat} (hn : n < 2 ^ 32) (hm : m < 2 ^ 32)
    (h : bigEndian n = bigEndian m) : n = m := by
  simp only [bigEndian, List.cons.injEq, and_true] at h
  obtain ⟨h24, h16, h8, h0⟩ := h
  have hbyte {a b : Nat} (heq : UInt8.ofNat a = UInt8.ofNat b) : a % 256 = b % 256 := by
    simpa [UInt8.toNat_ofNat'] using congrArg UInt8.toNat heq
  have h24 := hbyte h24
  have h16 := hbyte h16
  have h8 := hbyte h8
  have h0 := hbyte h0
  omega

/-- The first component can be told from what follows it. -/
theorem component_append_inj {a b x y : List UInt8} (ha : a.length < 2 ^ 32)
    (hb : b.length < 2 ^ 32) (h : component a ++ x = component b ++ y) : a = b ∧ x = y := by
  rw [component, component, List.append_assoc, List.append_assoc] at h
  obtain ⟨hlength, hrest⟩ := List.append_inj h rfl
  have heq := bigEndian_injective ha hb hlength
  exact List.append_inj hrest heq

/-- Lists of components are told apart, however many they are. -/
theorem flatMap_component_injective {as bs : List (List UInt8)}
    (has : ∀ a ∈ as, a.length < 2 ^ 32) (hbs : ∀ b ∈ bs, b.length < 2 ^ 32)
    (h : as.flatMap component = bs.flatMap component) : as = bs := by
  induction as generalizing bs with
  | nil =>
      cases bs with
      | nil => rfl
      | cons b bs => simp [component, bigEndian] at h
  | cons a as ih =>
      cases bs with
      | nil => simp [component, bigEndian] at h
      | cons b bs =>
          rw [List.forall_mem_cons] at has hbs
          rw [List.flatMap_cons, List.flatMap_cons] at h
          obtain ⟨hhead, hrest⟩ := component_append_inj has.1 hbs.1 h
          rw [hhead, ih has.2 hbs.2 hrest]

end LengthPrefixed
