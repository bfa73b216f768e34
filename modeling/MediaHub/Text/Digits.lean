import Mathlib.Tactic.Common

namespace Text

/-- The digit that a character stands for, if its value is below the radix. -/
def toDigit (radix : Nat) (c : Char) : Option Nat :=
  let digit :=
    if '0' ≤ c ∧ c ≤ '9' then some (c.toNat - '0'.toNat)
    else if 'a' ≤ c ∧ c ≤ 'z' then some (c.toNat - 'a'.toNat + 10)
    else if 'A' ≤ c ∧ c ≤ 'Z' then some (c.toNat - 'A'.toNat + 10)
    else none
  digit.filter (· < radix)

/-- The digits in front, and what follows them. -/
def takeDigits (radix : Nat) : List Char → List Nat × List Char
  | [] => ([], [])
  | c :: rest =>
      match toDigit radix c with
      | none => ([], c :: rest)
      | some digit => (digit :: (takeDigits radix rest).1, (takeDigits radix rest).2)

/-- The number that digits stand for. -/
def ofDigits (radix : Nat) (digits : List Nat) : Nat :=
  digits.foldl (fun n digit => n * radix + digit) 0

/-- No digit comes first. -/
def NoDigit (radix : Nat) (s : List Char) : Prop := ∀ c ∈ s.head?, toDigit radix c = none

theorem noDigit_nil (radix : Nat) : NoDigit radix [] := by simp [NoDigit]

theorem noDigit_cons {radix : Nat} {c : Char} (h : toDigit radix c = none) (s : List Char) :
    NoDigit radix (c :: s) := by
  simpa [NoDigit] using h

theorem toDigit_digitChar {radix digit : Nat} (hradix : radix ≤ 16) (h : digit < radix) :
    toDigit radix digit.digitChar = some digit := by
  have hvalue : ∀ d < 16, toDigit 16 d.digitChar = some d := by decide
  have hdigit := hvalue digit (by omega)
  rw [toDigit, Option.filter_eq_some_iff] at hdigit ⊢
  exact ⟨hdigit.1, by simpa using h⟩

theorem takeDigits_append {radix : Nat} (hradix : radix ≤ 16) {digits : List Nat}
    (hdigits : ∀ digit ∈ digits, digit < radix) {rest : List Char} (hrest : NoDigit radix rest) :
    takeDigits radix (digits.map Nat.digitChar ++ rest) = (digits, rest) := by
  induction digits with
  | nil =>
      cases rest with
      | nil => rfl
      | cons c rest =>
          rw [List.map_nil, List.nil_append, takeDigits, hrest c (by simp)]
  | cons digit digits ih =>
      rw [List.map_cons, List.cons_append, takeDigits,
        toDigit_digitChar hradix (hdigits digit List.mem_cons_self)]
      simp only [ih fun d hd => hdigits d (List.mem_cons_of_mem _ hd)]

theorem ofDigits_concat (radix : Nat) (digits : List Nat) (digit : Nat) :
    ofDigits radix (digits ++ [digit]) = ofDigits radix digits * radix + digit := by
  simp [ofDigits]

/-- The digits of a number, as they are written. -/
theorem exists_digits {radix : Nat} (hradix : 1 < radix) (n : Nat) :
    ∃ digits : List Nat, Nat.toDigits radix n = digits.map Nat.digitChar ∧
      (∀ digit ∈ digits, digit < radix) ∧ ofDigits radix digits = n := by
  induction n using Nat.strongRecOn with
  | ind n ih =>
      rw [Nat.toDigits_eq_if hradix]
      split
      · next hlt => exact ⟨[n], rfl, by simpa using hlt, by simp [ofDigits]⟩
      · next hle =>
          have hpos : 0 < n := by omega
          obtain ⟨digits, hdigits, hbound, hvalue⟩ := ih (n / radix) (Nat.div_lt_self hpos hradix)
          refine ⟨digits ++ [n % radix], by rw [hdigits]; simp, ?_, ?_⟩
          · intro digit hdigit
            rcases List.mem_append.1 hdigit with hmem | hmem
            · exact hbound digit hmem
            · obtain rfl : digit = n % radix := by simpa using hmem
              exact Nat.mod_lt _ (by omega)
          · rw [ofDigits_concat, hvalue, Nat.mul_comm]
            exact Nat.div_add_mod n radix

/-- What is written is read back. -/
theorem takeDigits_toDigits {radix : Nat} (hradix : 1 < radix) (hle : radix ≤ 16) (n : Nat)
    {rest : List Char} (hrest : NoDigit radix rest) :
    ∃ digits : List Nat, takeDigits radix (Nat.toDigits radix n ++ rest) = (digits, rest) ∧
      ofDigits radix digits = n ∧ digits.length = (Nat.toDigits radix n).length := by
  obtain ⟨digits, hdigits, hbound, hvalue⟩ := exists_digits hradix n
  refine ⟨digits, ?_, hvalue, ?_⟩
  · rw [hdigits, takeDigits_append hle hbound hrest]
  · rw [hdigits, List.length_map]

/-- A decimal digit is written in one way. -/
theorem eq_digitChar_of_toDigit {c : Char} {digit : Nat} (h : toDigit 10 c = some digit) :
    c = digit.digitChar ∧ digit < 10 := by
  obtain ⟨hvalue, hlt⟩ := Option.filter_eq_some_iff.1 h
  have hdigit : digit < 10 := of_decide_eq_true hlt
  refine ⟨?_, hdigit⟩
  split at hvalue
  · next hrange =>
      obtain rfl := Option.some.inj hvalue
      have hall : ∀ n < 58, 48 ≤ n → Char.ofNat n = (n - 48).digitChar := by decide
      have hlow : 48 ≤ c.toNat := hrange.1
      have hhigh : c.toNat ≤ 57 := hrange.2
      have hc := hall c.toNat (by omega) hlow
      rwa [Char.ofNat_toNat] at hc
  · split at hvalue
    · have := Option.some.inj hvalue
      omega
    · split at hvalue
      · have := Option.some.inj hvalue
        omega
      · cases hvalue

theorem eq_map_digitChar_of_takeDigits {s : List Char} {digits : List Nat}
    (h : takeDigits 10 s = (digits, [])) :
    s = digits.map Nat.digitChar ∧ ∀ digit ∈ digits, digit < 10 := by
  induction s generalizing digits with
  | nil =>
      obtain rfl : [] = digits := congrArg Prod.fst h
      simp
  | cons c rest ih =>
      rw [takeDigits] at h
      cases hdigit : toDigit 10 c with
      | none =>
          rw [hdigit] at h
          cases h
      | some digit =>
          rw [hdigit] at h
          obtain ⟨rfl, hrest⟩ := Prod.mk.inj h
          obtain ⟨rfl, hlt⟩ := eq_digitChar_of_toDigit hdigit
          obtain ⟨heq, hall⟩ := ih (Prod.ext rfl hrest)
          exact ⟨by rw [List.map_cons, ← heq], List.forall_mem_cons.2 ⟨hlt, hall⟩⟩

end Text
