import Mathlib.Data.Char
import Mathlib.Data.List.Sort
import Mathlib.Data.List.Lex
import MediaHub.Json.Parse

namespace Json

open Text (toDigit takeDigits ofDigits NoDigit)

/-- A number that a reader keeps as it is. -/
def Number.Plain : Number → Prop
  | .unsigned n => n < 2 ^ 64
  | .negative n => 0 < n ∧ n ≤ 2 ^ 63
  | .float _ => False

inductive Value.Plain : Value → Prop
  | null : Plain .null
  | bool (value) : Plain (.bool value)
  | number {value} (h : Number.Plain value) : Plain (.number value)
  | string (value) : Plain (.string value)
  | array {values} (h : ∀ value ∈ values, Plain value) : Plain (.array values)
  | object {fields : List (Text × Value)} (h : ∀ field ∈ fields, Plain field.2) :
      Plain (.object fields)

/-- What may come after a value. -/
def Follows (rest : Text) : Prop := ∀ c ∈ rest.head?, c = ',' ∨ c = ']' ∨ c = '}'

theorem follows_nil : Follows [] := by simp [Follows]

theorem follows_cons {c : Char} (h : c = ',' ∨ c = ']' ∨ c = '}') (s : Text) :
    Follows (c :: s) := by
  simpa [Follows] using h

theorem skipWhitespace_cons {c : Char} (h : isWhitespace c = false) (s : Text) :
    skipWhitespace (c :: s) = c :: s := by
  rw [skipWhitespace, List.dropWhile_cons_of_neg (by simp [h])]

theorem parseHex_low {n : Nat} (h : n < 32) (rest : Text) :
    parseHex ('0' :: '0' :: (n / 16).digitChar :: (n % 16).digitChar :: rest) =
      some (n, rest) := by
  have hzero : toDigit 16 '0' = some 0 := by decide
  have hhigh : toDigit 16 (n / 16).digitChar = some (n / 16) :=
    Text.toDigit_digitChar (by omega) (by omega)
  have hlow : toDigit 16 (n % 16).digitChar = some (n % 16) :=
    Text.toDigit_digitChar (by omega) (by omega)
  have hvalue : ofDigits 16 [0, 0, n / 16, n % 16] = n := by
    simp only [ofDigits, List.foldl_cons, List.foldl_nil]
    omega
  simp only [parseHex, hzero, hhigh, hlow, Option.bind_eq_bind, Option.bind_some, hvalue]
  rfl

theorem parseEscape_escape {c : Char} (h : c = '"' ∨ c = '\\' ∨ c.toNat < 32) :
    ∃ code, escape c = '\\' :: code ∧
      ∀ rest, parseEscape (code ++ rest) = some (c, rest) := by
  by_cases hquote : c = '"'
  · subst hquote
    exact ⟨['"'], rfl, fun rest => rfl⟩
  by_cases hslash : c = '\\'
  · subst hslash
    exact ⟨['\\'], rfl, fun rest => rfl⟩
  by_cases hb : c = '\x08'
  · subst hb
    exact ⟨['b'], rfl, fun rest => rfl⟩
  by_cases hf : c = '\x0c'
  · subst hf
    exact ⟨['f'], rfl, fun rest => rfl⟩
  by_cases hn : c = '\n'
  · subst hn
    exact ⟨['n'], rfl, fun rest => rfl⟩
  by_cases hr : c = '\r'
  · subst hr
    exact ⟨['r'], rfl, fun rest => rfl⟩
  by_cases ht : c = '\t'
  · subst ht
    exact ⟨['t'], rfl, fun rest => rfl⟩
  have hlow : c.toNat < 32 := by
    rcases h with h | h | h
    · exact absurd h hquote
    · exact absurd h hslash
    · exact h
  refine ⟨['u', '0', '0', (c.toNat / 16).digitChar, (c.toNat % 16).digitChar], ?_, ?_⟩
  · rw [escape, if_neg hquote, if_neg hslash, if_neg hb, if_neg hf, if_neg hn, if_neg hr,
      if_neg ht, if_pos hlow]
  · intro rest
    show parseUnicode ('0' :: '0' :: (c.toNat / 16).digitChar :: (c.toNat % 16).digitChar ::
      rest) = _
    rw [parseUnicode, parseHex_low hlow]
    simp only [Option.bind_eq_bind, Option.bind_some]
    rw [if_neg (by omega), if_neg (by omega), Char.ofNat_toNat]

theorem parseCharacters_escape (fuel : Nat) (c : Char) (s : Text) :
    parseCharacters (fuel + 1) (escape c ++ s) =
      (parseCharacters fuel s).map fun found => (c :: found.1, found.2) := by
  by_cases hspecial : c = '"' ∨ c = '\\' ∨ c.toNat < 32
  · obtain ⟨code, hescape, hparse⟩ := parseEscape_escape hspecial
    rw [hescape, List.cons_append, parseCharacters, if_neg (by decide), if_pos rfl, hparse]
    simp only [Option.bind_eq_bind, Option.bind_some]
    cases parseCharacters fuel s <;> rfl
  · have hplain : escape c = [c] := by
      have hcontrol (d : Char) (hd : d.toNat < 32) : c ≠ d := by
        rintro rfl
        exact hspecial (Or.inr (Or.inr hd))
      rw [escape, if_neg fun h => hspecial (Or.inl h),
        if_neg fun h => hspecial (Or.inr (Or.inl h)), if_neg (hcontrol _ (by decide)),
        if_neg (hcontrol _ (by decide)), if_neg (hcontrol _ (by decide)),
        if_neg (hcontrol _ (by decide)), if_neg (hcontrol _ (by decide)),
        if_neg fun h => hspecial (Or.inr (Or.inr h))]
    rw [hplain, List.singleton_append, parseCharacters, if_neg fun h => hspecial (Or.inl h),
      if_neg fun h => hspecial (Or.inr (Or.inl h)),
      if_neg fun h => hspecial (Or.inr (Or.inr h))]
    cases parseCharacters fuel s <;> rfl

theorem parseCharacters_flatMap {fuel : Nat} {s : Text} (h : s.length < fuel) (rest : Text) :
    parseCharacters fuel (s.flatMap escape ++ '"' :: rest) = some (s, rest) := by
  induction s generalizing fuel with
  | nil =>
      obtain ⟨fuel, rfl⟩ : ∃ n, fuel = n + 1 := ⟨fuel - 1, by simp at h; omega⟩
      rfl
  | cons c s ih =>
      obtain ⟨fuel, rfl⟩ : ∃ n, fuel = n + 1 := ⟨fuel - 1, by simp at h; omega⟩
      rw [List.flatMap_cons, List.append_assoc, parseCharacters_escape,
        ih (by simpa using h)]
      rfl

theorem length_escape_pos (c : Char) : 0 < (escape c).length := by
  unfold escape
  repeat' split
  all_goals simp

theorem length_le_length_flatMap_escape (s : Text) : s.length ≤ (s.flatMap escape).length := by
  induction s with
  | nil => simp
  | cons c s ih =>
      have hpos := length_escape_pos c
      rw [List.flatMap_cons, List.length_append, List.length_cons]
      omega

theorem parseString_render (s rest : Text) :
    parseString (s.flatMap escape ++ '"' :: rest) = some (s, rest) := by
  apply parseCharacters_flatMap
  have hle := length_le_length_flatMap_escape s
  rw [List.length_append, List.length_cons]
  omega

theorem noDigit_of_follows {rest : Text} (h : Follows rest) : NoDigit 10 rest := by
  intro c hc
  rcases h c hc with rfl | rfl | rfl <;> decide

theorem parseFraction_of_follows {rest : Text} (h : Follows rest) :
    parseFraction rest = some ([], rest) := by
  cases rest with
  | nil => rfl
  | cons c rest => rcases h c rfl with rfl | rfl | rfl <;> rfl

theorem parseExponent_of_follows {rest : Text} (h : Follows rest) :
    parseExponent rest = some ([], rest) := by
  cases rest with
  | nil => rfl
  | cons c rest => rcases h c rfl with rfl | rfl | rfl <;> rfl

/-- What is written for a number starts with a digit, and with a zero only if it is zero. -/
theorem exists_digit_cons (n : Nat) :
    ∃ digit rest, Nat.toDigits 10 n = Nat.digitChar digit :: rest ∧ digit < 10 ∧
      (digit = 0 → rest = []) := by
  induction n using Nat.strongRecOn with
  | ind n ih =>
      rw [Nat.toDigits_eq_if (by omega)]
      split
      · next hlt => exact ⟨n, [], rfl, hlt, fun _ => rfl⟩
      · next hle =>
          obtain ⟨digit, rest, hdigits, hlt, hzero⟩ := ih (n / 10) (by omega)
          refine ⟨digit, rest ++ [(n % 10).digitChar], by rw [hdigits]; rfl, hlt, ?_⟩
          intro h
          exfalso
          subst h
          rw [hzero rfl] at hdigits
          have hvalue : n / 10 = 0 := by
            have hread := Text.takeDigits_toDigits (by omega : 1 < 10) (by omega) (n / 10)
              (Text.noDigit_nil 10)
            rw [hdigits] at hread
            obtain ⟨digits, htake, hof, _⟩ := hread
            have hzero : takeDigits 10 ([Nat.digitChar 0] ++ []) = ([0], []) := by decide
            obtain rfl : [0] = digits := congrArg Prod.fst (hzero.symm.trans htake)
            exact hof.symm
          omega

theorem parseNumber_unsigned {n : Nat} (negative : Bool) {rest : Text} (h : Follows rest) :
    parseNumber ((if negative then ['-'] else []) ++ Nat.toDigits 10 n ++ rest) =
      some (integer negative n, rest) := by
  obtain ⟨first, tail, hfirst, hlt, hzero⟩ := exists_digit_cons n
  obtain ⟨digits, htake, hvalue, hlength⟩ :=
    Text.takeDigits_toDigits (by omega : 1 < 10) (by omega) n (noDigit_of_follows h)
  have hsign : (((if negative then ['-'] else []) ++ Nat.toDigits 10 n ++ rest).head? ==
      some '-') = negative := by
    cases negative with
    | true => rfl
    | false =>
        rw [hfirst]
        simp
  have hunsigned : (if negative then
      ((if negative then ['-'] else []) ++ Nat.toDigits 10 n ++ rest).drop 1
      else (if negative then ['-'] else []) ++ Nat.toDigits 10 n ++ rest) =
        Nat.toDigits 10 n ++ rest := by
    cases negative <;> rfl
  have hdigits : ¬ (digits = [] ∨
      ((Nat.toDigits 10 n ++ rest).head? = some '0' ∧ 1 < digits.length)) := by
    rw [not_or, not_and]
    constructor
    · rintro rfl
      rw [hfirst] at hlength
      simp at hlength
    · intro hhead
      rw [hlength, hfirst]
      rw [hfirst] at hhead
      have hdigit : first = 0 := by
        have hall : ∀ d < 10, Nat.digitChar d = '0' → d = 0 := by decide
        exact hall first hlt (by simpa using hhead)
      rw [hzero hdigit]
      simp
  simp only [parseNumber, hsign, hunsigned, htake]
  rw [if_neg hdigits, parseFraction_of_follows h]
  simp only [Option.bind_eq_bind, Option.bind_some]
  rw [parseExponent_of_follows h]
  simp only [Option.bind_some, and_self, if_true, hvalue]
  rfl

theorem parseNumber_render {value : Number} (hplain : value.Plain) {rest : Text}
    (h : Follows rest) : parseNumber (renderNumber value ++ rest) = some (value, rest) := by
  cases value with
  | unsigned n =>
      have hbound : n < 2 ^ 64 := hplain
      have hparse := parseNumber_unsigned (n := n) false h
      rw [integer, if_neg (by simp), if_pos hbound] at hparse
      exact hparse
  | negative n =>
      have hbound : 0 < n ∧ n ≤ 2 ^ 63 := hplain
      have hparse := parseNumber_unsigned (n := n) true h
      rw [integer, if_pos rfl, if_pos hbound] at hparse
      exact hparse
  | float written => exact absurd hplain (by simp [Number.Plain])

/-- No value starts with a blank or an end. -/
structure Opens (s : Text) : Prop where
  nonblank : skipWhitespace s = s
  nonempty : s ≠ []
  bracket : s.head? ≠ some ']'
  brace : s.head? ≠ some '}'

theorem opens_cons {c : Char} (hblank : isWhitespace c = false) (hbracket : c ≠ ']')
    (hbrace : c ≠ '}') (s : Text) : Opens (c :: s) :=
  ⟨skipWhitespace_cons hblank s, by simp, by simpa using hbracket, by simpa using hbrace⟩

theorem opens_digits (n : Nat) (rest : Text) : Opens (Nat.toDigits 10 n ++ rest) := by
  obtain ⟨digit, tail, hdigits, hlt, _⟩ := exists_digit_cons n
  have hall : ∀ d < 10, isWhitespace d.digitChar = false ∧ d.digitChar ≠ ']' ∧
      d.digitChar ≠ '}' := by decide
  obtain ⟨hblank, hbracket, hbrace⟩ := hall digit hlt
  rw [hdigits]
  exact opens_cons hblank hbracket hbrace _

theorem opens_render {value : Value} (h : value.Plain) (rest : Text) :
    Opens (render value ++ rest) := by
  cases h with
  | null => exact opens_cons (by decide) (by decide) (by decide) _
  | bool flag =>
      cases flag with
      | true => exact opens_cons (by decide) (by decide) (by decide) _
      | false => exact opens_cons (by decide) (by decide) (by decide) _
  | @number value h =>
      rw [render]
      cases value with
      | unsigned n => exact opens_digits n rest
      | negative n => exact opens_cons (by decide) (by decide) (by decide) _
      | float written => exact absurd h (by simp [Number.Plain])
  | string s =>
      rw [render]
      exact opens_cons (by decide) (by decide) (by decide) _
  | array h =>
      rw [render]
      exact opens_cons (by decide) (by decide) (by decide) _
  | object h =>
      rw [render]
      exact opens_cons (by decide) (by decide) (by decide) _

section Compound

variable {value : Text → Option (Value × Text)}

/-- The reader reads back what is written for the value. -/
def Reads (value : Text → Option (Value × Text)) (found : Value) : Prop :=
  found.Plain ∧ ∀ rest, Follows rest → value (render found ++ rest) = some (found, rest)

theorem follows_renderElements (values : List Value) (rest : Text) :
    Follows (renderElements values ++ rest) := by
  cases values with
  | nil => exact follows_cons (Or.inr (Or.inl rfl)) _
  | cons found values => exact follows_cons (Or.inl rfl) _

theorem follows_renderMembers (fields : List (Text × Value)) (rest : Text) :
    Follows (renderMembers fields ++ rest) := by
  cases fields with
  | nil => exact follows_cons (Or.inr (Or.inr rfl)) _
  | cons field fields => exact follows_cons (Or.inl rfl) _

theorem length_le_renderElements (values : List Value) :
    values.length ≤ (renderElements values).length := by
  induction values with
  | nil => simp
  | cons found values ih =>
      rw [renderElements, List.length_cons, List.length_cons, List.length_append]
      omega

theorem length_le_renderMembers (fields : List (Text × Value)) :
    fields.length ≤ (renderMembers fields).length := by
  induction fields with
  | nil => simp
  | cons field fields ih =>
      obtain ⟨name, found⟩ := field
      rw [renderMembers]
      simp only [List.length_cons, List.length_append]
      omega

theorem parseElements_render {values : List Value} (h : ∀ found ∈ values, Reads value found)
    {fuel : Nat} (hfuel : values.length < fuel) (rest : Text) :
    parseElements value fuel (renderElements values ++ rest) = some (values, rest) := by
  induction values generalizing fuel with
  | nil =>
      obtain ⟨fuel, rfl⟩ : ∃ n, fuel = n + 1 := ⟨fuel - 1, by simp at hfuel; omega⟩
      rfl
  | cons found values ih =>
      obtain ⟨fuel, rfl⟩ : ∃ n, fuel = n + 1 := ⟨fuel - 1, by simp at hfuel; omega⟩
      have hread := (h found List.mem_cons_self).2 (renderElements values ++ rest)
        (follows_renderElements values rest)
      have hmore := ih (fun v hv => h v (List.mem_cons_of_mem _ hv)) (by simpa using hfuel)
      rw [renderElements, List.cons_append, parseElements, skipWhitespace_cons (by decide),
        List.append_assoc]
      simp only [hread, hmore, Option.bind_eq_bind, Option.bind_some]
      rfl

theorem parseArray_render {values : List Value} (h : ∀ found ∈ values, Reads value found)
    (rest : Text) : parseArray value (renderArray values ++ rest) = some (values, rest) := by
  cases values with
  | nil => rfl
  | cons found values =>
      have hfound := h found List.mem_cons_self
      have hread := hfound.2 (renderElements values ++ rest) (follows_renderElements values rest)
      have hlength := length_le_renderElements values
      have hmore := parseElements_render (fun v hv => h v (List.mem_cons_of_mem _ hv))
        (show values.length < (renderElements values ++ rest).length + 1 by
          rw [List.length_append]
          omega) rest
      have hopens := opens_render hfound.1 (renderElements values ++ rest)
      rw [renderArray, List.append_assoc, parseArray, hopens.nonblank]
      split
      · next heq => exact absurd (congrArg List.head? heq) hopens.bracket
      · simp only [hread, hmore, Option.bind_eq_bind, Option.bind_some]
        rfl

theorem parseMember_render {field : Text × Value} (h : Reads value field.2) {rest : Text}
    (hrest : Follows rest) :
    parseMember value (renderString field.1 ++ ':' :: (render field.2 ++ rest)) =
      some (field, rest) := by
  have hstring := parseString_render field.1 (':' :: (render field.2 ++ rest))
  have hcolon := skipWhitespace_cons (c := ':') (by decide) (render field.2 ++ rest)
  rw [parseMember, renderString, List.cons_append, skipWhitespace_cons (by decide),
    List.append_assoc, List.singleton_append]
  simp only [hstring, Option.bind_eq_bind, Option.bind_some, hcolon, h.2 rest hrest]
  rfl

theorem parseMembers_render {fields : List (Text × Value)}
    (h : ∀ field ∈ fields, Reads value field.2) {fuel : Nat} (hfuel : fields.length < fuel)
    (rest : Text) :
    parseMembers value fuel (renderMembers fields ++ rest) = some (fields, rest) := by
  induction fields generalizing fuel with
  | nil =>
      obtain ⟨fuel, rfl⟩ : ∃ n, fuel = n + 1 := ⟨fuel - 1, by simp at hfuel; omega⟩
      rfl
  | cons field fields ih =>
      obtain ⟨fuel, rfl⟩ : ∃ n, fuel = n + 1 := ⟨fuel - 1, by simp at hfuel; omega⟩
      have hread := parseMember_render (h field List.mem_cons_self)
        (follows_renderMembers fields rest)
      have hmore := ih (fun v hv => h v (List.mem_cons_of_mem _ hv)) (by simpa using hfuel)
      rw [renderMembers, List.cons_append, parseMembers, skipWhitespace_cons (by decide),
        List.append_assoc, List.cons_append, List.append_assoc]
      simp only [hread, hmore, Option.bind_eq_bind, Option.bind_some]
      rfl

theorem parseObject_render {fields : List (Text × Value)}
    (h : ∀ field ∈ fields, Reads value field.2) (rest : Text) :
    parseObject value (renderFields fields ++ rest) = some (fields, rest) := by
  cases fields with
  | nil => rfl
  | cons field fields =>
      have hread := parseMember_render (h field List.mem_cons_self)
        (follows_renderMembers fields rest)
      have hlength := length_le_renderMembers fields
      have hmore := parseMembers_render (fun v hv => h v (List.mem_cons_of_mem _ hv))
        (show fields.length < (renderMembers fields ++ rest).length + 1 by
          rw [List.length_append]
          omega) rest
      rw [renderFields, List.append_assoc, List.cons_append, List.append_assoc, parseObject]
      have hblank : skipWhitespace (renderString field.1 ++
          ':' :: (render field.2 ++ (renderMembers fields ++ rest))) =
          renderString field.1 ++ ':' :: (render field.2 ++ (renderMembers fields ++ rest)) := by
        rw [renderString, List.cons_append]
        exact skipWhitespace_cons (by decide) _
      rw [hblank]
      split
      · next heq =>
          rw [renderString, List.cons_append] at heq
          exact absurd (congrArg List.head? heq) (by simp)
      · simp only [hread, hmore, Option.bind_eq_bind, Option.bind_some]
        rfl

end Compound

theorem nesting_le_of_mem {values : List Value} {found : Value} (h : found ∈ values) :
    found.nesting ≤ Value.arrayNesting values := by
  induction values with
  | nil => simp at h
  | cons first values ih =>
      rw [Value.arrayNesting]
      rcases List.mem_cons.1 h with rfl | hmem
      · exact Nat.le_max_left _ _
      · exact (ih hmem).trans (Nat.le_max_right _ _)

theorem nesting_le_of_mem_fields {fields : List (Text × Value)} {field : Text × Value}
    (h : field ∈ fields) : field.2.nesting ≤ Value.fieldsNesting fields := by
  induction fields with
  | nil => simp at h
  | cons first fields ih =>
      obtain ⟨name, value⟩ := first
      rw [Value.fieldsNesting]
      rcases List.mem_cons.1 h with rfl | hmem
      · exact Nat.le_max_left _ _
      · exact (ih hmem).trans (Nat.le_max_right _ _)

theorem parseValue_digits {n depth : Nat} (hplain : n < 2 ^ 64) {rest : Text}
    (hrest : Follows rest) :
    parseValue (depth + 1) (Nat.toDigits 10 n ++ rest) =
      some (.number (.unsigned n), rest) := by
  have hparse : parseNumber (Nat.toDigits 10 n ++ rest) = some (.unsigned n, rest) :=
    @parseNumber_render (.unsigned n) hplain rest hrest
  have hopens := opens_digits n rest
  obtain ⟨digit, tail, hdigits, hlt, _⟩ := exists_digit_cons n
  have hall : ∀ d < 10, d.digitChar ≠ 'n' ∧ d.digitChar ≠ 't' ∧ d.digitChar ≠ 'f' ∧
      d.digitChar ≠ '"' ∧ d.digitChar ≠ '[' ∧ d.digitChar ≠ '{' := by decide
  obtain ⟨hn, ht, hf, hquote, hbracket, hbrace⟩ := hall digit hlt
  rw [parseValue, hopens.nonblank]
  rw [hdigits, List.cons_append] at hparse ⊢
  split
  · next heq => exact absurd (List.cons.inj heq).1 hn
  · next heq => exact absurd (List.cons.inj heq).1 ht
  · next heq => exact absurd (List.cons.inj heq).1 hf
  · next heq => exact absurd (List.cons.inj heq).1 hquote
  · next heq => exact absurd (List.cons.inj heq).1 hbracket
  · next heq => exact absurd (List.cons.inj heq).1 hbrace
  · rw [hparse]
    rfl

/-- A reader that goes deep enough reads every value back. -/
theorem parseValue_render {depth : Nat} {value : Value} (hplain : value.Plain)
    (hdepth : value.nesting < depth) {rest : Text} (hrest : Follows rest) :
    parseValue depth (render value ++ rest) = some (value, rest) := by
  induction value using Value.induction generalizing depth rest with
  | null =>
      obtain ⟨depth, rfl⟩ : ∃ n, depth = n + 1 := ⟨depth - 1, by omega⟩
      rfl
  | bool flag =>
      obtain ⟨depth, rfl⟩ : ∃ n, depth = n + 1 := ⟨depth - 1, by omega⟩
      cases flag <;> rfl
  | number number =>
      obtain ⟨depth, rfl⟩ : ∃ n, depth = n + 1 := ⟨depth - 1, by omega⟩
      cases hplain with
      | number hnumber =>
          cases number with
          | unsigned n => exact parseValue_digits hnumber hrest
          | negative n =>
              have hparse := @parseNumber_render (.negative n) hnumber rest hrest
              rw [renderNumber, List.cons_append] at hparse
              rw [render, renderNumber, List.cons_append, parseValue,
                skipWhitespace_cons (by decide)]
              show (parseNumber _).map _ = _
              rw [hparse]
              rfl
          | float written => exact absurd hnumber (by simp [Number.Plain])
  | string s =>
      obtain ⟨depth, rfl⟩ : ∃ n, depth = n + 1 := ⟨depth - 1, by omega⟩
      rw [render, renderString, List.cons_append, parseValue, skipWhitespace_cons (by decide),
        List.append_assoc, List.singleton_append]
      simp only [parseString_render]
      rfl
  | array values ih =>
      obtain ⟨depth, rfl⟩ : ∃ n, depth = n + 1 := ⟨depth - 1, by omega⟩
      rw [Value.nesting] at hdepth
      cases hplain with
      | array hvalues =>
          have hreads : ∀ found ∈ values, Reads (parseValue depth) found := by
            intro found hmem
            have hle := nesting_le_of_mem hmem
            exact ⟨hvalues found hmem, fun rest hrest =>
              ih found hmem (hvalues found hmem) (by omega) hrest⟩
          rw [render, List.cons_append, parseValue, skipWhitespace_cons (by decide)]
          simp only [parseArray_render hreads]
          rw [if_neg (by omega)]
          rfl
  | object fields ih =>
      obtain ⟨depth, rfl⟩ : ∃ n, depth = n + 1 := ⟨depth - 1, by omega⟩
      rw [Value.nesting] at hdepth
      cases hplain with
      | object hfields =>
          have hreads : ∀ field ∈ fields, Reads (parseValue depth) field.2 := by
            intro field hmem
            have hle := nesting_le_of_mem_fields hmem
            exact ⟨hfields field hmem, fun rest hrest =>
              ih field hmem (hfields field hmem) (by omega) hrest⟩
          rw [render, List.cons_append, parseValue, skipWhitespace_cons (by decide)]
          simp only [parseObject_render hreads]
          rw [if_neg (by omega)]
          rfl

theorem parse_render {depth : Nat} {value : Value} (hplain : value.Plain)
    (hdepth : value.nesting < depth) : parse depth (render value) = some value := by
  have hparse := parseValue_render hplain hdepth follows_nil
  rw [List.append_nil] at hparse
  rw [parse, hparse]
  rfl

def sortFields (fields : List (Text × Value)) : List (Text × Value) :=
  fields.insertionSort fun first second => first.1 ≤ second.1

mutual

/-- The value with its objects as maps, if they are. -/
def unique : Value → Option Value
  | .null => some .null
  | .bool value => some (.bool value)
  | .number value => some (.number value)
  | .string value => some (.string value)
  | .array values => (uniqueArray values).map .array
  | .object fields => do
      let fields ← uniqueFields fields
      if (fields.map (·.1)).Nodup then some (.object (sortFields fields)) else none

def uniqueArray : List Value → Option (List Value)
  | [] => some []
  | value :: values => do
      let value ← unique value
      let values ← uniqueArray values
      some (value :: values)

def uniqueFields : List (Text × Value) → Option (List (Text × Value))
  | [] => some []
  | (name, value) :: fields => do
      let value ← unique value
      let fields ← uniqueFields fields
      some ((name, value) :: fields)

end

end Json
