import MediaHub.Text.Utf8

/-!
Documents of XML as the tokens that write them, and what a reader reports of them.
-/

namespace Xml

abbrev Text := List Char

def isNameCharacter (c : Char) : Bool := c.isAlphanum || c = ':'

/-- A name of letters, digits and colons. -/
structure Name where
  text : Text
  letter_first : text.head?.any Char.isAlpha = true
  characters : text.all isNameCharacter = true
deriving DecidableEq

/-- What stands for itself between quotes. -/
def isPlainCharacter (c : Char) : Bool := !"\"<>&\t\n\r".toList.contains c

structure Attribute where
  key : Name
  value : Text
  plain : value.all isPlainCharacter = true

structure Tag where
  name : Name
  attributes : List Attribute
  keysUnique : (attributes.map Attribute.key).Nodup

def Tag.plain (name : Name) : Tag := ⟨name, [], List.nodup_nil⟩

def isCharacterData (c : Char) : Bool := c ≠ '<' && c ≠ '&'

/-- Characters between markup. -/
structure Run where
  text : Text
  nonempty : text ≠ []
  data : text.all isCharacterData = true

inductive Token where
  | declaration
  | start (tag : Tag)
  | finish (name : Name)
  | text (run : Run)
  | reference (name : Name)

def Attribute.write (pair : Attribute) : Text :=
  ' ' :: pair.key.text ++ '=' :: '"' :: pair.value ++ ['"']

def Tag.write (tag : Tag) : Text := tag.name.text ++ tag.attributes.flatMap Attribute.write

def declarationText : Text := "?xml version=\"1.0\" encoding=\"UTF-8\"?".toList

def Token.write : Token → Text
  | .declaration => '<' :: (declarationText ++ ['>'])
  | .start tag => '<' :: (tag.write ++ ['>'])
  | .finish name => '<' :: ('/' :: name.text ++ ['>'])
  | .text run => run.text
  | .reference name => '&' :: (name.text ++ [';'])

def write (tokens : List Token) : Text := tokens.flatMap Token.write

/-- Each element is closed under its own name, and no run follows another one: `names` are those of
the open elements, and `fresh` says whether a run may come next. -/
def WellFormed : List Name → Bool → List Token → Prop
  | [], _, [] => True
  | _ :: _, _, [] => False
  | names, _, .declaration :: tokens => names = [] ∧ WellFormed [] true tokens
  | names, _, .start tag :: tokens => WellFormed (tag.name :: names) true tokens
  | [], _, .finish _ :: _ => False
  | opened :: names, _, .finish name :: tokens => opened = name ∧ WellFormed names true tokens
  | names, fresh, .text _ :: tokens => fresh = true ∧ WellFormed names false tokens
  | names, _, .reference _ :: tokens => WellFormed names true tokens

/-- A character as it is read before the next one: a carriage return is the end of a line, unless a
line feed follows. -/
def eol (c : Char) (next : Option Char) : Text :=
  if c ≠ '\r' then [c] else if next = some '\n' then [] else ['\n']

/-- The ends of lines as XML 1.0 reads them. -/
def normalizeEol : Text → Text
  | [] => []
  | c :: s => eol c s.head? ++ normalizeEol s

/-- An attribute as it is found; a value that cannot be decoded is `none`. -/
structure RawAttribute where
  key : List UInt8
  value : Option Text
deriving DecidableEq

/-- What a reader reports: an attribute that is malformed is `none`, and so is content that cannot
be decoded. A reference is to a character, to no character (an error), or has a name. -/
inductive Event where
  | start (name : List UInt8) (attributes : List (Option RawAttribute))
  | empty (name : List UInt8) (attributes : List (Option RawAttribute))
  | finish (name : List UInt8)
  | text (content : Option Text)
  | cdata (content : Option Text)
  | generalRef (character : Option (Option Char)) (name : Option Text)
  | decl
  | comment
  | docType
  | pi
deriving DecidableEq

def Attribute.report (pair : Attribute) : Option RawAttribute :=
  some ⟨Utf8.bytes pair.key.text, some pair.value⟩

def Token.report : Token → Event
  | .declaration => .decl
  | .start tag => .start (Utf8.bytes tag.name.text) (tag.attributes.map Attribute.report)
  | .finish name => .finish (Utf8.bytes name.text)
  | .text run => .text (some (normalizeEol run.text))
  | .reference name => .generalRef (some none) (some name.text)

/-- A pull reader: its events up to the end of the input, where `none` is an error. A document that
is well formed is reported token by token. -/
structure Reader where
  events : List UInt8 → List (Option Event)
  reads : ∀ tokens, WellFormed [] false tokens →
    events (Utf8.bytes (write tokens)) = tokens.map fun token => some token.report

theorem eol_of_ne {c : Char} (h : c ≠ '\r') (next : Option Char) : eol c next = [c] := if_pos h

theorem eol_of_next_ne (c : Char) {next : Option Char} (h : next ≠ some '\n') :
    eol c next = eol c none := by
  simp [eol, h]

theorem not_mem_normalizeEol (s : Text) : '\r' ∉ normalizeEol s := by
  induction s with
  | nil => simp [normalizeEol]
  | cons c s ih =>
      rw [normalizeEol, List.mem_append, not_or]
      refine ⟨?_, ih⟩
      unfold eol
      split_ifs with hc
      · simpa using Ne.symm hc
      · simp
      · simp

theorem normalizeEol_eq_self_iff {s : Text} : normalizeEol s = s ↔ '\r' ∉ s := by
  constructor
  · intro h
    rw [← h]
    exact not_mem_normalizeEol s
  · intro h
    induction s with
    | nil => rfl
    | cons c s ih =>
        rw [List.mem_cons, not_or] at h
        rw [normalizeEol, eol_of_ne (Ne.symm h.1), ih h.2]
        rfl

end Xml
