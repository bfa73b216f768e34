import Mathlib.Algebra.GroupWithZero.Nat
import Mathlib.Tactic.Common
import MediaHub.Text.Digits

/-!
JSON values, and how a compact document writes them.
-/

namespace Json

open Text (toDigit takeDigits ofDigits)

abbrev Text := List Char

/-- An integer, or a number that is kept as it is written. -/
inductive Number where
  | unsigned (n : Nat)
  | negative (n : Nat)
  | float (written : Text)

inductive Value where
  | null
  | bool (value : Bool)
  | number (value : Number)
  | string (value : Text)
  | array (values : List Value)
  | object (fields : List (Text × Value))

def Number.asU64 : Number → Option Nat
  | .unsigned n => some n
  | _ => none

namespace Value

def asStr : Value → Option Text
  | .string value => some value
  | _ => none

/-- A value is known by the values in it. -/
theorem induction {motive : Value → Prop} (null : motive .null)
    (bool : ∀ value, motive (.bool value)) (number : ∀ value, motive (.number value))
    (string : ∀ value, motive (.string value))
    (array : ∀ values, (∀ value ∈ values, motive value) → motive (.array values))
    (object : ∀ fields : List (Text × Value), (∀ field ∈ fields, motive field.2) →
      motive (.object fields)) (value : Value) : motive value :=
  @Value.rec motive (fun values => ∀ value ∈ values, motive value)
    (fun fields => ∀ field ∈ fields, motive field.2) (fun field => motive field.2)
    null bool number string array object (by simp)
    (fun _ _ hhead htail => List.forall_mem_cons.2 ⟨hhead, htail⟩) (by simp)
    (fun _ _ hhead htail => List.forall_mem_cons.2 ⟨hhead, htail⟩) (fun _ _ hvalue => hvalue) value

mutual

/-- How deep arrays and objects are nested. -/
def nesting : Value → Nat
  | .array values => arrayNesting values + 1
  | .object fields => fieldsNesting fields + 1
  | _ => 0

def arrayNesting : List Value → Nat
  | [] => 0
  | value :: values => max value.nesting (arrayNesting values)

def fieldsNesting : List (Text × Value) → Nat
  | [] => 0
  | (_, value) :: fields => max value.nesting (fieldsNesting fields)

end

end Value

def escape (c : Char) : Text :=
  if c = '"' then ['\\', '"']
  else if c = '\\' then ['\\', '\\']
  else if c = '\x08' then ['\\', 'b']
  else if c = '\x0c' then ['\\', 'f']
  else if c = '\n' then ['\\', 'n']
  else if c = '\r' then ['\\', 'r']
  else if c = '\t' then ['\\', 't']
  else if c.toNat < 32 then
    ['\\', 'u', '0', '0', (c.toNat / 16).digitChar, (c.toNat % 16).digitChar]
  else [c]

def renderString (s : Text) : Text := '"' :: (s.flatMap escape ++ ['"'])

def renderNumber : Number → Text
  | .unsigned n => Nat.toDigits 10 n
  | .negative n => '-' :: Nat.toDigits 10 n
  | .float written => written

mutual

def render : Value → Text
  | .null => "null".toList
  | .bool true => "true".toList
  | .bool false => "false".toList
  | .number value => renderNumber value
  | .string value => renderString value
  | .array values => '[' :: renderArray values
  | .object fields => '{' :: renderFields fields

/-- The entries of an array, up to its end. -/
def renderArray : List Value → Text
  | [] => [']']
  | value :: values => render value ++ renderElements values

/-- The entries after the first one. -/
def renderElements : List Value → Text
  | [] => [']']
  | value :: values => ',' :: (render value ++ renderElements values)

def renderFields : List (Text × Value) → Text
  | [] => ['}']
  | (name, value) :: fields => renderString name ++ ':' :: (render value ++ renderMembers fields)

def renderMembers : List (Text × Value) → Text
  | [] => ['}']
  | (name, value) :: fields =>
      ',' :: (renderString name ++ ':' :: (render value ++ renderMembers fields))

end

def isWhitespace (c : Char) : Bool := c == ' ' || c == '\n' || c == '\t' || c == '\r'

def skipWhitespace (s : Text) : Text := s.dropWhile isWhitespace

def parseHex : Text → Option (Nat × Text)
  | a :: b :: c :: d :: rest => do
      let a ← toDigit 16 a
      let b ← toDigit 16 b
      let c ← toDigit 16 c
      let d ← toDigit 16 d
      return (ofDigits 16 [a, b, c, d], rest)
  | _ => none

/-- The character after `\u`: one of two surrogates does not stand alone. -/
def parseUnicode (s : Text) : Option (Char × Text) := do
  let first ← parseHex s
  if 0xDC00 ≤ first.1 ∧ first.1 ≤ 0xDFFF then none
  else if 0xD800 ≤ first.1 ∧ first.1 ≤ 0xDBFF then
    match first.2 with
    | '\\' :: 'u' :: rest => do
        let second ← parseHex rest
        if 0xDC00 ≤ second.1 ∧ second.1 ≤ 0xDFFF then
          some (Char.ofNat (0x10000 + (first.1 - 0xD800) * 0x400 + (second.1 - 0xDC00)), second.2)
        else none
    | _ => none
  else some (Char.ofNat first.1, first.2)

/-- The character after a backslash. -/
def parseEscape : Text → Option (Char × Text)
  | [] => none
  | c :: rest =>
      if c = '"' ∨ c = '\\' ∨ c = '/' then some (c, rest)
      else if c = 'b' then some ('\x08', rest)
      else if c = 'f' then some ('\x0c', rest)
      else if c = 'n' then some ('\n', rest)
      else if c = 'r' then some ('\r', rest)
      else if c = 't' then some ('\t', rest)
      else if c = 'u' then parseUnicode rest
      else none

/-- The characters up to the closing quote. -/
def parseCharacters : Nat → Text → Option (Text × Text)
  | 0, _ => none
  | _ + 1, [] => none
  | fuel + 1, c :: rest =>
      if c = '"' then some ([], rest)
      else if c = '\\' then do
        let escaped ← parseEscape rest
        let more ← parseCharacters fuel escaped.2
        return (escaped.1 :: more.1, more.2)
      else if c.toNat < 32 then none
      else do
        let more ← parseCharacters fuel rest
        return (c :: more.1, more.2)

/-- A string, after its opening quote. -/
def parseString (s : Text) : Option (Text × Text) := parseCharacters s.length s

/-- A fraction, if there is one: what it is written as, and what follows. -/
def parseFraction (s : Text) : Option (Text × Text) :=
  match s with
  | '.' :: rest =>
      let digits := takeDigits 10 rest
      if digits.1 = [] then none
      else some (s.take (s.length - digits.2.length), digits.2)
  | _ => some ([], s)

def parseExponent (s : Text) : Option (Text × Text) :=
  match s with
  | c :: rest =>
      if c = 'e' ∨ c = 'E' then
        let unsigned := match rest with
          | '+' :: rest | '-' :: rest => rest
          | _ => rest
        let digits := takeDigits 10 unsigned
        if digits.1 = [] then none
        else some (s.take (s.length - digits.2.length), digits.2)
      else some ([], s)
  | [] => some ([], [])

/-- The number that an integer is, with the sign it has: one that fits no integer is a float. -/
def integer (negative : Bool) (n : Nat) : Number :=
  if negative then
    if 0 < n ∧ n ≤ 2 ^ 63 then .negative n else .float ('-' :: Nat.toDigits 10 n)
  else if n < 2 ^ 64 then .unsigned n
  else .float (Nat.toDigits 10 n)

def parseNumber (s : Text) : Option (Number × Text) :=
  let negative := s.head? == some '-'
  let unsigned := if negative then s.drop 1 else s
  let digits := takeDigits 10 unsigned
  if digits.1 = [] ∨ (unsigned.head? = some '0' ∧ 1 < digits.1.length) then none
  else do
    let fraction ← parseFraction digits.2
    let exponent ← parseExponent fraction.2
    if fraction.1 = [] ∧ exponent.1 = [] then
      return (integer negative (ofDigits 10 digits.1), digits.2)
    else return (.float (s.take (s.length - exponent.2.length)), exponent.2)

section Compound

variable (value : Text → Option (Value × Text))

/-- The entries of an array after one of them. -/
def parseElements : Nat → Text → Option (List Value × Text)
  | 0, _ => none
  | fuel + 1, s =>
      match skipWhitespace s with
      | ']' :: rest => some ([], rest)
      | ',' :: rest => do
          let first ← value rest
          let more ← parseElements fuel first.2
          return (first.1 :: more.1, more.2)
      | _ => none

/-- An array, after its bracket. -/
def parseArray (s : Text) : Option (List Value × Text) :=
  match skipWhitespace s with
  | ']' :: rest => some ([], rest)
  | s => do
      let first ← value s
      let more ← parseElements value (first.2.length + 1) first.2
      return (first.1 :: more.1, more.2)

/-- A name and its value. -/
def parseMember (s : Text) : Option ((Text × Value) × Text) :=
  match skipWhitespace s with
  | '"' :: rest => do
      let name ← parseString rest
      match skipWhitespace name.2 with
      | ':' :: rest => do
          let found ← value rest
          return ((name.1, found.1), found.2)
      | _ => none
  | _ => none

def parseMembers : Nat → Text → Option (List (Text × Value) × Text)
  | 0, _ => none
  | fuel + 1, s =>
      match skipWhitespace s with
      | '}' :: rest => some ([], rest)
      | ',' :: rest => do
          let first ← parseMember value rest
          let more ← parseMembers fuel first.2
          return (first.1 :: more.1, more.2)
      | _ => none

/-- An object, after its brace. -/
def parseObject (s : Text) : Option (List (Text × Value) × Text) :=
  match skipWhitespace s with
  | '}' :: rest => some ([], rest)
  | s => do
      let first ← parseMember value s
      let more ← parseMembers value (first.2.length + 1) first.2
      return (first.1 :: more.1, more.2)

end Compound

/-- A value, with arrays and objects nested less than `depth` levels deep. -/
def parseValue : Nat → Text → Option (Value × Text)
  | 0, _ => none
  | depth + 1, s =>
      match skipWhitespace s with
      | 'n' :: 'u' :: 'l' :: 'l' :: rest => some (.null, rest)
      | 't' :: 'r' :: 'u' :: 'e' :: rest => some (.bool true, rest)
      | 'f' :: 'a' :: 'l' :: 's' :: 'e' :: rest => some (.bool false, rest)
      | '"' :: rest => (parseString rest).map fun found => (.string found.1, found.2)
      | '[' :: rest =>
          if depth = 0 then none
          else (parseArray (parseValue depth) rest).map fun found => (.array found.1, found.2)
      | '{' :: rest =>
          if depth = 0 then none
          else (parseObject (parseValue depth) rest).map fun found => (.object found.1, found.2)
      | s => (parseNumber s).map fun found => (.number found.1, found.2)

/-- A document: one value, and nothing else. -/
def parse (depth : Nat) (s : Text) : Option Value :=
  match parseValue depth s with
  | some (value, rest) => if skipWhitespace rest = [] then some value else none
  | none => none

end Json
