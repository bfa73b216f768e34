import Mathlib.Data.List.Lex
import Mathlib.Data.Char
import Mathlib.Data.List.Sort
import Mathlib.Order.Lattice

/-!
Words over an alphabet whose letters are encoded one by one: the encodings are ordered as the words
are. UTF-8 is such an encoding.
-/

namespace EncodedOrder

universe u v

variable {α : Type u} {β : Type v} [LinearOrder α]

/-- A smaller letter has the smaller encoding, whatever follows. -/
structure IsOrdered (r : β → β → Prop) (encode : α → List β) : Prop where
  lex_append : ∀ a b, a < b → ∀ x y, List.Lex r (encode a ++ x) (encode b ++ y)
  ne_nil : ∀ a, encode a ≠ []
  asymm : ∀ b c, r b c → ¬ r c b

variable {r : β → β → Prop} {encode : α → List β}

theorem IsOrdered.irrefl (h : IsOrdered r encode) (b : β) : ¬ r b b := fun hr => h.asymm b b hr hr

theorem lex_asymm (h : IsOrdered r encode) {word other : List β} (hlex : List.Lex r word other) :
    ¬ List.Lex r other word := by
  induction hlex with
  | nil => simp
  | cons _ ih =>
      simp only [List.cons_lex_cons_iff, h.irrefl, ih, and_false, or_false, not_false_iff]
  | rel hlt =>
      rw [List.cons_lex_cons_iff, not_or]
      refine ⟨h.asymm _ _ hlt, fun heq => ?_⟩
      rw [heq.1] at hlt
      exact h.irrefl _ hlt

theorem lex_append_left_iff (h : IsOrdered r encode) (front word other : List β) :
    List.Lex r (front ++ word) (front ++ other) ↔ List.Lex r word other := by
  induction front with
  | nil => rfl
  | cons b front ih =>
      simp only [List.cons_append, List.cons_lex_cons_iff, h.irrefl, ih, true_and, false_or]

theorem lex_flatMap_iff (h : IsOrdered r encode) (s t : List α) :
    List.Lex r (s.flatMap encode) (t.flatMap encode) ↔ List.Lex (· < ·) s t := by
  induction s generalizing t with
  | nil =>
      cases t with
      | nil => simp
      | cons b t =>
          obtain ⟨first, rest, hencode⟩ := List.exists_cons_of_ne_nil (h.ne_nil b)
          simp [hencode]
  | cons a s ih =>
      cases t with
      | nil => simp
      | cons b t =>
          rw [List.flatMap_cons, List.flatMap_cons, List.cons_lex_cons_iff]
          rcases lt_trichotomy a b with hlt | rfl | hgt
          · exact iff_of_true (h.lex_append a b hlt _ _) (Or.inl hlt)
          · rw [lex_append_left_iff h, ih]
            simp
          · refine iff_of_false (lex_asymm h (h.lex_append b a hgt _ _)) ?_
            rintro (hlt | ⟨heq, _⟩)
            · exact lt_asymm hlt hgt
            · exact ne_of_gt hgt heq

theorem digit_lt {v w : Nat} (h : v < w) : v / 64 < w / 64 ∨ v / 64 = w / 64 ∧ v % 64 < w % 64 := by
  omega

/-- The bytes of UTF-8 are ordered as the scalar values are. -/
theorem isOrdered_utf8 : IsOrdered (· < ·) String.utf8EncodeChar where
  lex_append := by
    intro c d hlt x y
    have hvalid : ∀ c : Char, c.val.toNat < 0x110000 := by
      intro c
      rcases c.valid with h | h
      · exact lt_trans h (by decide)
      · exact h.2
    have hc := hvalid c
    have hd := hvalid d
    have hval : c.val.toNat < d.val.toNat := hlt
    have hbyte : ∀ m n : Nat, UInt8.ofNat m < UInt8.ofNat n ↔ m % 256 < n % 256 := by
      intro m n
      rw [UInt8.lt_iff_toNat_lt, UInt8.toNat_ofNat', UInt8.toNat_ofNat']
    have hsame : ∀ m n : Nat, UInt8.ofNat m = UInt8.ofNat n ↔ m % 256 = n % 256 := by
      intro m n
      rw [← UInt8.toNat_inj, UInt8.toNat_ofNat', UInt8.toNat_ofNat']
    unfold String.utf8EncodeChar
    generalize c.val.toNat = v at *
    generalize d.val.toNat = w at *
    dsimp only
    have hdigits : ∀ n : Nat, n / 4096 = n / 64 / 64 ∧ n / 262144 = n / 64 / 64 / 64 := by
      intro n
      rw [Nat.div_div_eq_div_mul, Nat.div_div_eq_div_mul]
      exact ⟨rfl, rfl⟩
    rw [(hdigits v).1, (hdigits v).2, (hdigits w).1, (hdigits w).2]
    have hlead : w / 64 / 64 / 64 < 8 := by omega
    by_cases hfour : 0xffff < v
    · rw [if_neg (by omega), if_neg (by omega), if_neg (by omega), if_neg (by omega),
        if_neg (by omega), if_neg (by omega)]
      simp only [List.cons_append, List.nil_append, List.cons_lex_cons_iff, hbyte, hsame]
      -- four bytes each: the first digit that differs decides
      rcases digit_lt hval with hhigh | ⟨hhigh, hlow⟩
      · rcases digit_lt hhigh with hhigher | ⟨hhigher, hlow⟩
        · rcases digit_lt hhigher with hhighest | ⟨hhighest, hlow⟩
          · left
            omega
          · rw [hhighest]
            right
            refine ⟨rfl, Or.inl ?_⟩
            omega
        · rw [hhigher]
          refine Or.inr ⟨rfl, Or.inr ⟨rfl, Or.inl ?_⟩⟩
          omega
      · rw [hhigh]
        refine Or.inr ⟨rfl, Or.inr ⟨rfl, Or.inr ⟨rfl, Or.inl ?_⟩⟩⟩
        omega
    · split_ifs <;>
        simp only [List.cons_append, List.nil_append, List.cons_lex_cons_iff, hbyte, hsame] <;>
          omega
  ne_nil c := by
    unfold String.utf8EncodeChar
    dsimp only
    split_ifs <;> simp
  asymm b c := by
    rw [UInt8.lt_iff_toNat_lt, UInt8.lt_iff_toNat_lt]
    omega

end EncodedOrder

namespace PrefixRange

universe u

variable {α : Type u}

/-- The next greater letter, or none after the greatest one. -/
structure IsNext [LinearOrder α] (next : α → Option α) : Prop where
  lt_iff : ∀ a b, next a = some b → ∀ c, c < b ↔ c ≤ a
  le_of_none : ∀ a, next a = none → ∀ c, c ≤ a

/-- The end of the interval: the last letter that has a greater one gives way to it, and the
letters after it are dropped. The prefix is read from its end. -/
def upperBound (next : α → Option α) : List α → Option (List α)
  | [] => none
  | a :: reversed => match next a with
      | none => upperBound next reversed
      | some b => some (reversed.reverse ++ [b])

theorem upperBound_append (next : α → Option α) (reversed : List α) (a : α) :
    upperBound next (reversed ++ [a]) = match upperBound next reversed with
      | none => (next a).map ([·])
      | some upper => some (a :: upper) := by
  induction reversed with
  | nil =>
      cases hnext : next a with
      | none => simp [upperBound, hnext]
      | some b => simp [upperBound, hnext]
  | cons c reversed ih =>
      cases hnext : next c with
      | none => simpa [upperBound, hnext] using ih
      | some b => simp [upperBound, hnext]

variable [LinearOrder α]

/-- The words between a prefix and its upper bound are the words that start with it. -/
theorem isPrefix_iff {next : α → Option α} (hnext : IsNext next) (pre word : List α) :
    pre <+: word ↔ ¬ List.Lex (· < ·) word pre ∧
      ∀ upper ∈ upperBound next pre.reverse, List.Lex (· < ·) word upper := by
  induction pre generalizing word with
  | nil => simp [upperBound]
  | cons a pre ih =>
      rw [List.reverse_cons, upperBound_append]
      cases word with
      | nil => simp
      | cons b word =>
          have hbound : (∀ upper ∈ (match upperBound next pre.reverse with
              | none => (next a).map ([·])
              | some upper => some (a :: upper)), List.Lex (· < ·) (b :: word) upper) ↔
              b < a ∨ b = a ∧ ∀ upper ∈ upperBound next pre.reverse,
                List.Lex (· < ·) word upper := by
            cases hupper : upperBound next pre.reverse with
            | none =>
                cases hsucc : next a with
                | none => simpa [le_iff_lt_or_eq] using hnext.le_of_none a hsucc b
                | some c =>
                    simp only [Option.map_some, Option.mem_some_iff, forall_eq',
                      List.cons_lex_cons_iff, hnext.lt_iff a c hsucc b, List.not_lex_nil,
                      and_false, or_false, Option.not_mem_none, false_implies, implies_true,
                      and_true]
                    exact le_iff_lt_or_eq
            | some upper =>
                simp only [Option.mem_some_iff, forall_eq', List.cons_lex_cons_iff]
          rw [List.cons_prefix_cons, ih, List.cons_lex_cons_iff, hbound]
          constructor
          · rintro ⟨rfl, hle, hupper⟩
            exact ⟨by simpa using hle, Or.inr ⟨rfl, hupper⟩⟩
          · rintro ⟨hle, hlt | ⟨rfl, hupper⟩⟩
            · exact absurd (Or.inl hlt) hle
            · exact ⟨rfl, fun hlex => hle (Or.inr ⟨rfl, hlex⟩), hupper⟩

end PrefixRange
