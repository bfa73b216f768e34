import Mathlib.Data.List.Basic
import Mathlib.Tactic.Common

/-!
Authenticated ciphers with associated data, under one key: what their two operations promise, and
what it means that nobody forges a ciphertext.
-/

namespace Aead

/-- Sizes and operations of a cipher; `none` is an error. -/
structure Cipher where
  nonceBytes : Nat
  tagBytes : Nat
  maxBytes : Nat
  encrypt : List UInt8 → List UInt8 → List UInt8 → Option (List UInt8)
  decrypt : List UInt8 → List UInt8 → List UInt8 → Option (List UInt8)
  encrypt_isSome : ∀ {nonce aad message}, nonce.length = nonceBytes → aad.length ≤ maxBytes →
    message.length ≤ maxBytes → (encrypt nonce aad message).isSome = true
  length_encrypt : ∀ {nonce aad message ciphertext},
    encrypt nonce aad message = some ciphertext → ciphertext.length = message.length + tagBytes

/-- One encryption: what went in, and what came out. -/
structure Sealed where
  nonce : List UInt8
  aad : List UInt8
  message : List UInt8
  ciphertext : List UInt8
deriving DecidableEq

variable {cipher : Cipher} {issued : List Sealed}

/-- Ideal for the encryptions made so far: each of them opens again, nothing else opens, and no two
of them have one nonce and one ciphertext. -/
structure Cipher.Ideal (cipher : Cipher) (issued : List Sealed) : Prop where
  opens : ∀ entry ∈ issued,
    cipher.decrypt entry.nonce entry.aad entry.ciphertext = some entry.message
  authentic : ∀ {nonce aad ciphertext message},
    cipher.decrypt nonce aad ciphertext = some message →
      ⟨nonce, aad, message, ciphertext⟩ ∈ issued
  unique : ∀ entry ∈ issued, ∀ other ∈ issued, entry.nonce = other.nonce →
    entry.ciphertext = other.ciphertext → entry = other

/-- A ciphertext does not open under other associated data. -/
theorem Cipher.Ideal.decrypt_eq_none (h : cipher.Ideal issued) {entry : Sealed}
    (hentry : entry ∈ issued) {aad : List UInt8} (haad : entry.aad ≠ aad) :
    cipher.decrypt entry.nonce aad entry.ciphertext = none := by
  rw [Option.eq_none_iff_forall_ne_some]
  intro message hmessage
  have heq := h.unique entry hentry _ (h.authentic hmessage) rfl rfl
  exact haad (congrArg Sealed.aad heq)

/-- A cipher that keeps a table of what may be opened, and adds a tag of zeros. -/
def Cipher.ofTable (nonceBytes tagBytes maxBytes : Nat) (issued : List Sealed) : Cipher where
  nonceBytes
  tagBytes
  maxBytes
  encrypt _ _ message := some (message ++ List.replicate tagBytes 0)
  decrypt nonce aad ciphertext :=
    (issued.find? fun entry =>
      entry.nonce = nonce ∧ entry.aad = aad ∧ entry.ciphertext = ciphertext).map Sealed.message
  encrypt_isSome _ _ _ := rfl
  length_encrypt := by
    rintro _ _ message _ ⟨⟩
    rw [List.length_append, List.length_replicate]

theorem ofTable_ideal {nonceBytes tagBytes maxBytes : Nat} {entry : Sealed} :
    (Cipher.ofTable nonceBytes tagBytes maxBytes [entry]).Ideal [entry] where
  opens other hother := by
    obtain rfl := List.mem_singleton.1 hother
    simp [Cipher.ofTable]
  authentic := by
    intro nonce aad ciphertext message h
    simp only [Cipher.ofTable, Option.map_eq_some_iff] at h
    obtain ⟨other, hfind, rfl⟩ := h
    obtain rfl := List.mem_singleton.1 (List.mem_of_find?_eq_some hfind)
    have hsame := List.find?_some hfind
    simp only [decide_eq_true_eq] at hsame
    obtain ⟨rfl, rfl, rfl⟩ := hsame
    exact List.mem_singleton_self _
  unique other hother another hanother _ _ := by
    rw [List.mem_singleton.1 hother, List.mem_singleton.1 hanother]

end Aead
