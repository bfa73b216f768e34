import MediaHub.Json.RoundTrip

namespace Json

namespace Value

theorem arrayNesting_le_iff {values : List Value} {n : Nat} :
    arrayNesting values ≤ n ↔ ∀ value ∈ values, value.nesting ≤ n := by
  induction values with
  | nil => simp [arrayNesting]
  | cons value values ih => rw [arrayNesting, Nat.max_le, ih, List.forall_mem_cons]

theorem fieldsNesting_le_iff {fields : List (Text × Value)} {n : Nat} :
    fieldsNesting fields ≤ n ↔ ∀ field ∈ fields, field.2.nesting ≤ n := by
  induction fields with
  | nil => simp [fieldsNesting]
  | cons field fields ih =>
      obtain ⟨name, value⟩ := field
      rw [fieldsNesting, Nat.max_le, ih, List.forall_mem_cons]

end Value

section Compound

variable {value : Text → Option (Value × Text)} {n : Nat}
  (hvalue : ∀ {s found}, value s = some found → found.1.nesting ≤ n)

include hvalue

theorem nesting_parseElements {fuel : Nat} {s : Text} {found : List Value × Text}
    (h : parseElements value fuel s = some found) : ∀ v ∈ found.1, v.nesting ≤ n := by
  induction fuel generalizing s found with
  | zero => cases h
  | succ fuel ih =>
      rw [parseElements] at h
      split at h
      · obtain rfl := Option.some.inj h
        simp
      · obtain ⟨first, hfirst, h⟩ := Option.bind_eq_some_iff.1 h
        obtain ⟨more, hmore, h⟩ := Option.bind_eq_some_iff.1 h
        obtain rfl := Option.some.inj h
        exact List.forall_mem_cons.2 ⟨hvalue hfirst, ih hmore⟩
      · cases h

theorem nesting_parseArray {s : Text} {found : List Value × Text}
    (h : parseArray value s = some found) : ∀ v ∈ found.1, v.nesting ≤ n := by
  rw [parseArray] at h
  split at h
  · obtain rfl := Option.some.inj h
    simp
  · obtain ⟨first, hfirst, h⟩ := Option.bind_eq_some_iff.1 h
    obtain ⟨more, hmore, h⟩ := Option.bind_eq_some_iff.1 h
    obtain rfl := Option.some.inj h
    exact List.forall_mem_cons.2 ⟨hvalue hfirst, nesting_parseElements hvalue hmore⟩

theorem nesting_parseMember {s : Text} {found : (Text × Value) × Text}
    (h : parseMember value s = some found) : found.1.2.nesting ≤ n := by
  rw [parseMember] at h
  split at h
  · obtain ⟨name, hname, h⟩ := Option.bind_eq_some_iff.1 h
    split at h
    · obtain ⟨member, hmember, h⟩ := Option.bind_eq_some_iff.1 h
      obtain rfl := Option.some.inj h
      exact hvalue hmember
    · cases h
  · cases h

theorem nesting_parseMembers {fuel : Nat} {s : Text} {found : List (Text × Value) × Text}
    (h : parseMembers value fuel s = some found) : ∀ field ∈ found.1, field.2.nesting ≤ n := by
  induction fuel generalizing s found with
  | zero => cases h
  | succ fuel ih =>
      rw [parseMembers] at h
      split at h
      · obtain rfl := Option.some.inj h
        simp
      · obtain ⟨first, hfirst, h⟩ := Option.bind_eq_some_iff.1 h
        obtain ⟨more, hmore, h⟩ := Option.bind_eq_some_iff.1 h
        obtain rfl := Option.some.inj h
        exact List.forall_mem_cons.2 ⟨nesting_parseMember hvalue hfirst, ih hmore⟩
      · cases h

theorem nesting_parseObject {s : Text} {found : List (Text × Value) × Text}
    (h : parseObject value s = some found) : ∀ field ∈ found.1, field.2.nesting ≤ n := by
  rw [parseObject] at h
  split at h
  · obtain rfl := Option.some.inj h
    simp
  · obtain ⟨first, hfirst, h⟩ := Option.bind_eq_some_iff.1 h
    obtain ⟨more, hmore, h⟩ := Option.bind_eq_some_iff.1 h
    obtain rfl := Option.some.inj h
    exact List.forall_mem_cons.2
      ⟨nesting_parseMember hvalue hfirst, nesting_parseMembers hvalue hmore⟩

end Compound

/-- The reader takes no value that is nested deeper than it may go. -/
theorem nesting_parseValue {depth : Nat} {s : Text} {found : Value × Text}
    (h : parseValue (depth + 1) s = some found) : found.1.nesting ≤ depth := by
  induction depth generalizing s found with
  | zero =>
      rw [parseValue] at h
      split at h
      · obtain rfl := Option.some.inj h
        exact Nat.le_refl 0
      · obtain rfl := Option.some.inj h
        exact Nat.le_refl 0
      · obtain rfl := Option.some.inj h
        exact Nat.le_refl 0
      · obtain ⟨_, _, rfl⟩ := Option.map_eq_some_iff.1 h
        exact Nat.le_refl 0
      · cases h
      · cases h
      · obtain ⟨_, _, rfl⟩ := Option.map_eq_some_iff.1 h
        exact Nat.le_refl 0
  | succ depth ih =>
      rw [parseValue] at h
      split at h
      · obtain rfl := Option.some.inj h
        exact Nat.zero_le _
      · obtain rfl := Option.some.inj h
        exact Nat.zero_le _
      · obtain rfl := Option.some.inj h
        exact Nat.zero_le _
      · obtain ⟨_, _, rfl⟩ := Option.map_eq_some_iff.1 h
        exact Nat.zero_le _
      · obtain ⟨values, hvalues, rfl⟩ := Option.map_eq_some_iff.1 h
        exact Nat.succ_le_succ (Value.arrayNesting_le_iff.2 (nesting_parseArray ih hvalues))
      · obtain ⟨fields, hfields, rfl⟩ := Option.map_eq_some_iff.1 h
        exact Nat.succ_le_succ (Value.fieldsNesting_le_iff.2 (nesting_parseObject ih hfields))
      · obtain ⟨_, _, rfl⟩ := Option.map_eq_some_iff.1 h
        exact Nat.zero_le _

theorem nesting_parse {depth : Nat} {s : Text} {value : Value}
    (h : parse depth s = some value) : value.nesting < depth := by
  rw [parse] at h
  split at h
  · next found rest hread =>
      split at h
      · obtain rfl := Option.some.inj h
        cases depth with
        | zero => cases hread
        | succ depth => exact Nat.lt_succ_of_le (nesting_parseValue hread)
      · cases h
  · cases h

/-- A parser with a limit for the nesting, and what it promises: the values stay below the limit,
and what is rendered is read back. -/
class Parser where
  parse : Nat → Text → Option Value
  nesting_parse : ∀ {depth s value}, parse depth s = some value → value.nesting < depth
  parse_render : ∀ {depth value}, value.Plain → value.nesting < depth →
    parse depth (render value) = some value

abbrev descent : Parser where
  parse := parse
  nesting_parse := nesting_parse
  parse_render := parse_render

end Json
