import MediaHub.Pattern.Wildcard

namespace MediaHub.Policy

/-- A `str`, as its characters. -/
abbrev Text := List Char

/-- `char::eq_ignore_ascii_case`. -/
def eqIgnoreAsciiCase (left right : Char) : Bool := left.toLower == right.toLower

def charactersEqual (left right : Char) (asciiCaseInsensitive : Bool) : Bool :=
  if asciiCaseInsensitive then eqIgnoreAsciiCase left right else left == right

/-- The entries of `current` after the one at hand, which is given with what is left of
`previous`. -/
def globColumns (patternCharacter : Char) (asciiCaseInsensitive : Bool) :
    Text → List Bool → Bool → List Bool
  | valueCharacter :: value, before :: after :: previous, current =>
      let next :=
        if patternCharacter = '*' then after || current
        else
          before && (patternCharacter == '?' ||
            charactersEqual patternCharacter valueCharacter asciiCaseInsensitive)
      next :: globColumns patternCharacter asciiCaseInsensitive value (after :: previous) next
  | _, _, _ => []

def globRow (patternCharacter : Char) (asciiCaseInsensitive : Bool) (value : Text)
    (previous : List Bool) : List Bool :=
  let first := patternCharacter == '*' && previous.headD false
  first :: globColumns patternCharacter asciiCaseInsensitive value previous first

/-- `previous` after the last character of the pattern. -/
def globTable (pattern value : Text) (asciiCaseInsensitive : Bool) : List Bool :=
  pattern.foldl
    (fun previous patternCharacter =>
      globRow patternCharacter asciiCaseInsensitive value previous)
    (true :: List.replicate value.length false)

def globMatches (pattern value : Text) (asciiCaseInsensitive : Bool) : Bool :=
  (globTable pattern value asciiCaseInsensitive).getLastD false

/-- What a character of a pattern means. -/
def wildcard (c : Char) : Wildcard.Symbol Char :=
  if c = '*' then .any else if c = '?' then .one else .lit c

def wildcards (pattern : Text) : List (Wildcard.Symbol Char) := pattern.map wildcard

/-- The values a pattern stands for. -/
def Globs (pattern value : Text) (asciiCaseInsensitive : Bool) : Prop :=
  Wildcard.Matches (fun left right => charactersEqual left right asciiCaseInsensitive = true)
    (wildcards pattern) value

@[simp] theorem wildcards_append (front back : Text) :
    wildcards (front ++ back) = wildcards front ++ wildcards back := List.map_append

theorem wildcard_ne_any {c : Char} (hstar : c ≠ '*') : wildcard c ≠ .any := by
  rw [wildcard, if_neg hstar]
  split <;> simp

theorem wildcard_takes_iff {patternCharacter c : Char} {asciiCaseInsensitive : Bool}
    (hstar : patternCharacter ≠ '*') :
    (wildcard patternCharacter).Takes
        (fun left right => charactersEqual left right asciiCaseInsensitive = true) c ↔
      (patternCharacter == '?' || charactersEqual patternCharacter c asciiCaseInsensitive) =
        true := by
  rw [wildcard, if_neg hstar]
  split
  · next hone => simp [Wildcard.Symbol.Takes, hone]
  · next hone => simp [Wildcard.Symbol.Takes, hone]

variable {pattern value front : Text} {asciiCaseInsensitive : Bool} {patternCharacter : Char}

/-- One character of the pattern: the columns of the next row. -/
theorem table_globColumns {previous : List Bool} {current : Bool}
    (hprevious : Wildcard.Table (Globs pattern · asciiCaseInsensitive) front value previous)
    (hcurrent : current = true ↔
      Globs (pattern ++ [patternCharacter]) front asciiCaseInsensitive) :
    Wildcard.Table (Globs (pattern ++ [patternCharacter]) · asciiCaseInsensitive) front value
      (current :: globColumns patternCharacter asciiCaseInsensitive value previous current) := by
  induction value generalizing front previous current with
  | nil =>
      obtain ⟨before, rfl, _⟩ := hprevious
      exact ⟨current, rfl, hcurrent⟩
  | cons c value ih =>
      obtain ⟨before, rest, rfl, hbefore, hrest⟩ := hprevious
      obtain ⟨after, previous, rfl, hafter⟩ := hrest.exists_cons
      refine ⟨current, _, rfl, hcurrent, ?_⟩
      rw [globColumns]
      apply ih hrest
      by_cases hstar : patternCharacter = '*'
      · subst hstar
        rw [if_pos rfl, Bool.or_eq_true, hafter, hcurrent]
        simp only [Globs, wildcards_append]
        exact Wildcard.matches_concat_any_concat_iff.symm
      · rw [if_neg hstar, Bool.and_eq_true, hbefore, ← wildcard_takes_iff hstar]
        simp only [Globs, wildcards_append]
        exact (Wildcard.matches_concat_iff (wildcard_ne_any hstar)).symm

theorem table_globRow {previous : List Bool}
    (hprevious : Wildcard.Table (Globs pattern · asciiCaseInsensitive) [] value previous) :
    Wildcard.Table (Globs (pattern ++ [patternCharacter]) · asciiCaseInsensitive) [] value
      (globRow patternCharacter asciiCaseInsensitive value previous) := by
  apply table_globColumns hprevious
  rw [Bool.and_eq_true, hprevious.head]
  show _ ↔ Wildcard.Matches _ (wildcards (pattern ++ [patternCharacter])) []
  rw [wildcards_append]
  by_cases hstar : patternCharacter = '*'
  · subst hstar
    exact ⟨fun h => Wildcard.matches_concat_any_nil_iff.2 h.2,
      fun h => ⟨rfl, Wildcard.matches_concat_any_nil_iff.1 h⟩⟩
  · refine iff_of_false (fun h => hstar (by simpa using h.1)) ?_
    exact Wildcard.not_matches_concat_nil (wildcard_ne_any hstar)

/-- Before any character of the pattern only the empty prefix is matched. -/
theorem table_replicate (c : Char) (front value : Text) :
    Wildcard.Table (Globs [] · asciiCaseInsensitive) (front ++ [c]) value
      (List.replicate (value.length + 1) false) := by
  have hfalse (front : Text) (c : Char) : ¬ Globs [] (front ++ [c]) asciiCaseInsensitive := by
    intro h
    simpa using Wildcard.matches_nil_iff.1 h
  induction value generalizing front c with
  | nil => exact ⟨false, rfl, by simpa using hfalse front c⟩
  | cons d value ih =>
      exact ⟨false, _, rfl, by simpa using hfalse front c, ih d (front ++ [c])⟩

theorem table_start (value : Text) :
    Wildcard.Table (Globs [] · asciiCaseInsensitive) [] value
      (true :: List.replicate value.length false) := by
  have hnil : Globs [] [] asciiCaseInsensitive := .nil
  cases value with
  | nil => exact ⟨true, rfl, by simpa using hnil⟩
  | cons c value => exact ⟨true, _, rfl, by simpa using hnil, table_replicate c [] value⟩

theorem table_foldl (rest : Text) {previous : List Bool}
    (hprevious : Wildcard.Table (Globs pattern · asciiCaseInsensitive) [] value previous) :
    Wildcard.Table (Globs (pattern ++ rest) · asciiCaseInsensitive) [] value
      (rest.foldl (fun previous c => globRow c asciiCaseInsensitive value previous) previous) := by
  induction rest generalizing pattern previous with
  | nil => simpa using hprevious
  | cons c rest ih =>
      have hrow : Wildcard.Table (Globs (pattern ++ [c]) · asciiCaseInsensitive) [] value
          (globRow c asciiCaseInsensitive value previous) := table_globRow hprevious
      have h := ih hrow
      rwa [List.append_assoc, List.singleton_append] at h

theorem table_globTable :
    Wildcard.Table (Globs pattern · asciiCaseInsensitive) [] value
      (globTable pattern value asciiCaseInsensitive) :=
  table_foldl pattern (table_start value)

theorem globMatches_iff :
    globMatches pattern value asciiCaseInsensitive = true ↔
      Globs pattern value asciiCaseInsensitive :=
  table_globTable.getLastD false

/-- The part of a value that a character of a pattern stands for. -/
def StandsFor (asciiCaseInsensitive : Bool) (patternCharacter : Char) (part : Text) : Prop :=
  if patternCharacter = '*' then True
  else if patternCharacter = '?' then part.length = 1
  else
    ∃ c, part = [c] ∧
      (c = patternCharacter ∨
        asciiCaseInsensitive = true ∧ eqIgnoreAsciiCase patternCharacter c = true)

theorem charactersEqual_iff {left right : Char} :
    charactersEqual left right asciiCaseInsensitive = true ↔
      right = left ∨ asciiCaseInsensitive = true ∧ eqIgnoreAsciiCase left right = true := by
  cases asciiCaseInsensitive with
  | false =>
      simp only [charactersEqual, Bool.false_eq_true, if_false, false_and, or_false, beq_iff_eq]
      exact eq_comm
  | true =>
      simp only [charactersEqual, if_true, true_and]
      refine ⟨Or.inr, ?_⟩
      rintro (rfl | h)
      · exact beq_self_eq_true _
      · exact h

theorem stands_wildcard_iff {part : Text} :
    (wildcard patternCharacter).Stands
        (fun left right => charactersEqual left right asciiCaseInsensitive = true) part ↔
      StandsFor asciiCaseInsensitive patternCharacter part := by
  unfold wildcard StandsFor
  split
  · exact Iff.rfl
  · split
    · exact Iff.rfl
    · simp only [Wildcard.Symbol.Stands, charactersEqual_iff]

/-- The matcher ends with one entry for each prefix of the value, and accepts the values that split
into a part for each character of the pattern. -/
theorem globMatches_iff_exists_split (pattern value : Text) (asciiCaseInsensitive : Bool) :
    (globTable pattern value asciiCaseInsensitive).length = value.length + 1 ∧
      (globMatches pattern value asciiCaseInsensitive = true ↔
        ∃ parts : List Text, value = parts.flatten ∧
          List.Forall₂ (StandsFor asciiCaseInsensitive) pattern parts) := by
  refine ⟨table_globTable.length, ?_⟩
  rw [globMatches_iff, Globs, Wildcard.matches_iff_exists_parts, wildcards]
  simp only [List.forall₂_map_left_iff, stands_wildcard_iff]

end MediaHub.Policy
