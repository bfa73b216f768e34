import MediaHub.Text.Split
import MediaHub.Text.Utf8

namespace FormUrlencoded

/-- Letters, digits and the four marks that stand for themselves. -/
def isUnreserved (byte : UInt8) : Bool :=
  (48 ≤ byte && byte ≤ 57) || (65 ≤ byte && byte ≤ 90) || (97 ≤ byte && byte ≤ 122) ||
    byte = 42 || byte = 45 || byte = 46 || byte = 95

def hexDigit (n : Nat) : Char := "0123456789ABCDEF".toList.getD n '0'

def encodeByte (byte : UInt8) : List Char :=
  if isUnreserved byte then [Char.ofNat byte.toNat]
  else if byte = 32 then ['+']
  else ['%', hexDigit (byte.toNat / 16), hexDigit (byte.toNat % 16)]

def encode (s : List Char) : List Char := (Utf8.bytes s).flatMap encodeByte

def encodePair (pair : List Char × List Char) : List Char :=
  encode pair.1 ++ '=' :: encode pair.2

def serialize (pairs : List (List Char × List Char)) : List Char :=
  ['&'].intercalate (pairs.map encodePair)

/-- Visible ASCII that separates nothing. -/
def isEncoded (c : Char) : Bool := 32 < c.toNat && c.toNat < 127 && c ≠ '&' && c ≠ '='

theorem forall_byte {p : UInt8 → Prop} (h : ∀ n < 256, p (UInt8.ofNat n)) (byte : UInt8) :
    p byte := by
  have hbyte := h byte.toNat byte.toNat_lt
  rwa [UInt8.ofNat_toNat] at hbyte

set_option maxRecDepth 2000 in
theorem all_encodeByte (byte : UInt8) : (encodeByte byte).all isEncoded = true := by
  refine forall_byte (p := fun byte => (encodeByte byte).all isEncoded = true) ?_ byte
  decide

theorem isEncoded_of_mem {s : List Char} {c : Char} (h : c ∈ encode s) : isEncoded c = true := by
  obtain ⟨byte, _, hc⟩ := List.mem_flatMap.1 h
  exact List.all_eq_true.1 (all_encodeByte byte) c hc

theorem not_mem_encode {s : List Char} {c : Char} (hc : isEncoded c = false) : c ∉ encode s := by
  intro h
  rw [isEncoded_of_mem h] at hc
  exact Bool.noConfusion hc

theorem not_mem_encodePair (pair : List Char × List Char) : '&' ∉ encodePair pair := by
  rw [encodePair, List.mem_append, List.mem_cons, not_or, not_or]
  exact ⟨not_mem_encode (by decide), by decide, not_mem_encode (by decide)⟩

/-- A pair is cut where it was put together. -/
theorem splitOnce_encodePair (pair : List Char × List Char) :
    Text.splitOnce '=' (encodePair pair) = some (encode pair.1, encode pair.2) :=
  Text.splitOnce_eq_some_iff.2 ⟨not_mem_encode (by decide), rfl⟩

theorem splitOn_serialize {pairs : List (List Char × List Char)} (h : pairs ≠ []) :
    (serialize pairs).splitOn '&' = pairs.map encodePair := by
  rw [serialize]
  refine List.splitOn_intercalate '&' ?_ (by simpa using h)
  intro piece hpiece
  obtain ⟨pair, _, rfl⟩ := List.mem_map.1 hpiece
  exact not_mem_encodePair pair

/-- A form is written in visible ASCII. -/
theorem visible_of_mem {pairs : List (List Char × List Char)} {c : Char}
    (h : c ∈ serialize pairs) : 32 < c.toNat ∧ c.toNat < 127 := by
  have hencoded {c : Char} (hc : isEncoded c = true) : 32 < c.toNat ∧ c.toNat < 127 := by
    simp only [isEncoded, Bool.and_eq_true, decide_eq_true_eq] at hc
    exact hc.1.1
  rcases Text.mem_intercalate h with rfl | ⟨piece, hpiece, hc⟩
  · decide
  · obtain ⟨pair, _, rfl⟩ := List.mem_map.1 hpiece
    rw [encodePair, List.mem_append, List.mem_cons] at hc
    rcases hc with hkey | rfl | hvalue
    · exact hencoded (isEncoded_of_mem hkey)
    · decide
    · exact hencoded (isEncoded_of_mem hvalue)

end FormUrlencoded

namespace PercentEncoding

open FormUrlencoded (hexDigit forall_byte)

variable (keep : UInt8 → Bool)

def encodeByte (byte : UInt8) : List Char :=
  if keep byte then [Char.ofNat byte.toNat]
  else ['%', hexDigit (byte.toNat / 16), hexDigit (byte.toNat % 16)]

def encode (s : List Char) : List Char := (Utf8.bytes s).flatMap (encodeByte keep)

def hexValue (byte : UInt8) : Option UInt8 :=
  if 48 ≤ byte && byte ≤ 57 then some (byte - 48)
  else if 65 ≤ byte && byte ≤ 70 then some (byte - 55)
  else if 97 ≤ byte && byte ≤ 102 then some (byte - 87)
  else none

/-- A percent sign without two digits stands for itself. -/
def decodeBytes : List UInt8 → List UInt8
  | 37 :: high :: low :: rest =>
      match hexValue high, hexValue low with
      | some high', some low' => (high' <<< 4 ||| low') :: decodeBytes rest
      | _, _ => 37 :: decodeBytes (high :: low :: rest)
  | byte :: rest => byte :: decodeBytes rest
  | [] => []

def decode (s : List Char) : Option (List Char) := Utf8.ofBytes (decodeBytes (Utf8.bytes s))

def hexByte (n : Nat) : UInt8 := UInt8.ofNat (hexDigit n).toNat

set_option maxRecDepth 2000 in
/-- The digits of a byte, and what they stand for. -/
theorem bytes_digits (byte : UInt8) :
    Utf8.bytes ['%', hexDigit (byte.toNat / 16), hexDigit (byte.toNat % 16)] =
        [37, hexByte (byte.toNat / 16), hexByte (byte.toNat % 16)] ∧
      hexValue (hexByte (byte.toNat / 16)) = some (byte >>> 4) ∧
      hexValue (hexByte (byte.toNat % 16)) = some (byte &&& 15) ∧
      ((byte >>> 4) <<< 4 ||| (byte &&& 15)) = byte := by
  revert byte
  apply forall_byte
  decide

set_option maxRecDepth 2000 in
theorem bytes_ascii (byte : UInt8) (h : byte < 128) :
    Utf8.bytes [Char.ofNat byte.toNat] = [byte] := by
  revert byte
  apply forall_byte
  decide

theorem decodeBytes_of_ne {byte : UInt8} (h : byte ≠ 37) (rest : List UInt8) :
    decodeBytes (byte :: rest) = byte :: decodeBytes rest := by
  rw [decodeBytes]
  intro high low rest heq _
  exact h heq

theorem decodeBytes_percent {high low high' low' : UInt8} (hhigh : hexValue high = some high')
    (hlow : hexValue low = some low') (rest : List UInt8) :
    decodeBytes (37 :: high :: low :: rest) = (high' <<< 4 ||| low') :: decodeBytes rest := by
  rw [decodeBytes, hhigh, hlow]

variable {keep}

/-- Only ASCII may stand for itself, and the percent sign may not. -/
def Readable (keep : UInt8 → Bool) : Prop := ∀ byte, keep byte = true → byte < 128 ∧ byte ≠ 37

theorem decodeBytes_encodeByte (h : Readable keep) (byte : UInt8) (rest : List UInt8) :
    decodeBytes (Utf8.bytes (encodeByte keep byte) ++ rest) = byte :: decodeBytes rest := by
  rw [encodeByte]
  split
  · next hkeep =>
      obtain ⟨hascii, hpercent⟩ := h byte hkeep
      rw [bytes_ascii byte hascii, List.singleton_append, decodeBytes_of_ne hpercent]
  · obtain ⟨hbytes, hhigh, hlow, hbyte⟩ := bytes_digits byte
    rw [hbytes, List.cons_append, List.cons_append, List.singleton_append,
      decodeBytes_percent hhigh hlow, hbyte]

theorem decodeBytes_encode (h : Readable keep) (bytes : List UInt8) :
    decodeBytes (Utf8.bytes (bytes.flatMap (encodeByte keep))) = bytes := by
  induction bytes with
  | nil => rfl
  | cons byte bytes ih =>
      have happend : Utf8.bytes ((byte :: bytes).flatMap (encodeByte keep)) =
          Utf8.bytes (encodeByte keep byte) ++ Utf8.bytes (bytes.flatMap (encodeByte keep)) := by
        rw [List.flatMap_cons]
        exact List.flatMap_append
      rw [happend, decodeBytes_encodeByte h, ih]

/-- What was encoded is decoded. -/
theorem decode_encode (h : Readable keep) (s : List Char) : decode (encode keep s) = some s := by
  rw [decode, encode, decodeBytes_encode h, Utf8.ofBytes_bytes]

theorem hexDigit_mem : ∀ n < 16, hexDigit n ∈ "0123456789ABCDEF".toList := by decide

theorem not_mem_encode {c : Char} (hkeep : ∀ byte, keep byte = true → Char.ofNat byte.toNat ≠ c)
    (hpercent : c ≠ '%') (hdigit : c ∉ "0123456789ABCDEF".toList) (s : List Char) :
    c ∉ encode keep s := by
  intro hmem
  obtain ⟨byte, _, hc⟩ := List.mem_flatMap.1 hmem
  rw [encodeByte] at hc
  split at hc
  · next h => exact hkeep byte h (List.mem_singleton.1 hc).symm
  · have hbyte := byte.toNat_lt
    simp only [List.mem_cons, List.not_mem_nil, or_false] at hc
    rcases hc with rfl | rfl | rfl
    · exact hpercent rfl
    · exact hdigit (hexDigit_mem _ (by omega))
    · exact hdigit (hexDigit_mem _ (Nat.mod_lt _ (by decide)))

end PercentEncoding
