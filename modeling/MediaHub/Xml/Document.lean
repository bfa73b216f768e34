import MediaHub.Xml.Token

namespace Xml

def amp : Name := ⟨"amp".toList, by decide, by decide⟩

def lt : Name := ⟨"lt".toList, by decide, by decide⟩

def gt : Name := ⟨"gt".toList, by decide, by decide⟩

def quot : Name := ⟨"quot".toList, by decide, by decide⟩

def apos : Name := ⟨"apos".toList, by decide, by decide⟩

/-- The predefined entities. -/
def entity (c : Char) : Option Name :=
  if c = '&' then some amp
  else if c = '<' then some lt
  else if c = '>' then some gt
  else if c = '"' then some quot
  else if c = '\'' then some apos
  else none

def resolve (name : Text) : Option Char :=
  if name = "amp".toList then some '&'
  else if name = "lt".toList then some '<'
  else if name = "gt".toList then some '>'
  else if name = "quot".toList then some '"'
  else if name = "apos".toList then some '\''
  else none

theorem resolve_entity {c : Char} {name : Name} (h : entity c = some name) :
    resolve name.text = some c := by
  unfold entity at h
  split_ifs at h with h₁ h₂ h₃ h₄ h₅
  all_goals
    obtain rfl := Option.some.inj h
    subst c
    decide

theorem isCharacterData_of_entity {c : Char} (h : entity c = none) :
    isCharacterData c = true := by
  unfold entity at h
  split_ifs at h with h₁ h₂ h₃ h₄ h₅
  simp [isCharacterData, h₁, h₂]

theorem entity_eol {c : Char} {name : Name} (h : entity c = some name) : c ≠ '\r' ∧ c ≠ '\n' := by
  constructor
  · rintro rfl
    simp [entity] at h
  · rintro rfl
    simp [entity] at h

def escape (s : Text) : Text :=
  s.flatMap fun c => (entity c).elim [c] fun name => (Token.reference name).write

theorem escape_of_entity {c : Char} {name : Name} (h : entity c = some name) (s : Text) :
    escape (c :: s) = (Token.reference name).write ++ escape s := by
  rw [escape, List.flatMap_cons, h]
  rfl

theorem escape_of_none {c : Char} (h : entity c = none) (s : Text) :
    escape (c :: s) = c :: escape s := by
  rw [escape, List.flatMap_cons, h]
  rfl

theorem byteLength_escape_le (s : Text) : Utf8.byteLength (escape s) ≤ 6 * s.length := by
  induction s with
  | nil => exact Nat.zero_le _
  | cons c s ih =>
      cases hentity : entity c with
      | none =>
          have hsize := c.utf8Size_le_four
          rw [escape_of_none hentity, Utf8.byteLength_cons, List.length_cons]
          omega
      | some name =>
          have hsize : Utf8.byteLength (Token.reference name).write ≤ 6 := by
            unfold entity at hentity
            split_ifs at hentity
            all_goals
              obtain rfl := Option.some.inj hentity
              decide
          rw [escape_of_entity hentity, Utf8.byteLength_append, List.length_cons]
          omega

def Run.single (c : Char) (h : isCharacterData c = true) : Run := ⟨[c], by simp, by simpa using h⟩

def Run.cons (c : Char) (h : isCharacterData c = true) (run : Run) : Run where
  text := c :: run.text
  nonempty := List.cons_ne_nil _ _
  data := by
    rw [List.all_cons, h, run.data]
    rfl

/-- A character before the tokens of a text: it joins the run that they begin with. -/
def consRun (c : Char) (h : isCharacterData c = true) : List Token → List Token
  | .text run :: tokens => .text (run.cons c h) :: tokens
  | tokens => .text (.single c h) :: tokens

/-- The tokens of an escaped text. -/
def textTokens : Text → List Token
  | [] => []
  | c :: s =>
      match h : entity c with
      | some name => .reference name :: textTokens s
      | none => consRun c (isCharacterData_of_entity h) (textTokens s)

theorem textTokens_of_entity {c : Char} {name : Name} (h : entity c = some name) (s : Text) :
    textTokens (c :: s) = .reference name :: textTokens s := by
  rw [textTokens]
  split
  · next name' heq =>
      rw [h] at heq
      rw [Option.some.inj heq]
  · next heq => simp [h] at heq

theorem textTokens_of_none {c : Char} (h : entity c = none) (s : Text) :
    textTokens (c :: s) = consRun c (isCharacterData_of_entity h) (textTokens s) := by
  rw [textTokens]
  split
  · next name' heq => simp [h] at heq
  · rfl

theorem write_consRun {c : Char} (h : isCharacterData c = true) (tokens : List Token) :
    write (consRun c h tokens) = c :: write tokens := by
  unfold consRun
  split
  · rfl
  · rfl

theorem write_textTokens (s : Text) : write (textTokens s) = escape s := by
  induction s with
  | nil => rfl
  | cons c s ih =>
      cases hentity : entity c with
      | some name =>
          rw [textTokens_of_entity hentity, escape_of_entity hentity, ← ih]
          rfl
      | none => rw [textTokens_of_none hentity, write_consRun, ih, escape_of_none hentity]

/-- Runs, and references to what has an entity. -/
def Token.IsContent : Token → Prop
  | .text _ => True
  | .reference name => ∃ c, entity c = some name
  | _ => False

theorem isContent_consRun {c : Char} (h : isCharacterData c = true) {tokens : List Token}
    (htokens : ∀ token ∈ tokens, token.IsContent) :
    ∀ token ∈ consRun c h tokens, token.IsContent := by
  unfold consRun
  split
  · rw [List.forall_mem_cons] at htokens ⊢
    exact htokens
  · exact List.forall_mem_cons.2 ⟨True.intro, htokens⟩

theorem isContent_textTokens (s : Text) : ∀ token ∈ textTokens s, token.IsContent := by
  induction s with
  | nil => simp [textTokens]
  | cons c s ih =>
      cases hentity : entity c with
      | some name =>
          rw [textTokens_of_entity hentity]
          exact List.forall_mem_cons.2 ⟨⟨c, hentity⟩, ih⟩
      | none =>
          rw [textTokens_of_none hentity]
          exact isContent_consRun _ ih

/-- The tokens may follow a run as well as anything else. -/
def Follows (names : List Name) (tokens : List Token) : Prop :=
  ∀ fresh, WellFormed names fresh tokens

theorem Follows.reference {names : List Name} {tokens : List Token} (name : Name)
    (h : WellFormed names true tokens) : Follows names (.reference name :: tokens) := by
  intro fresh
  cases names with
  | nil => exact h
  | cons opened names => exact h

theorem Follows.start {names : List Name} {tokens : List Token} (tag : Tag)
    (h : WellFormed (tag.name :: names) true tokens) : Follows names (.start tag :: tokens) := by
  intro fresh
  cases names with
  | nil => exact h
  | cons opened names => exact h

theorem Follows.finish {name : Name} {names : List Name} {tokens : List Token}
    (h : WellFormed names true tokens) : Follows (name :: names) (.finish name :: tokens) := by
  intro fresh
  exact ⟨rfl, h⟩

theorem wellFormed_text_iff {names : List Name} {fresh : Bool} {run : Run} {tokens : List Token} :
    WellFormed names fresh (.text run :: tokens) ↔
      fresh = true ∧ WellFormed names false tokens := by
  cases names with
  | nil => rfl
  | cons opened names => rfl

theorem wellFormed_false {names : List Name} {token : Token} {tokens : List Token}
    (hmarkup : ∀ run, token ≠ .text run) (h : WellFormed names true (token :: tokens)) :
    WellFormed names false (token :: tokens) := by
  cases token with
  | text run => exact absurd rfl (hmarkup run)
  | declaration =>
      cases names with
      | nil => exact h
      | cons opened names => exact h
  | start tag =>
      cases names with
      | nil => exact h
      | cons opened names => exact h
  | finish name =>
      cases names with
      | nil => exact h
      | cons opened names => exact h
  | reference name =>
      cases names with
      | nil => exact h
      | cons opened names => exact h

theorem wellFormed_consRun {names : List Name} {c : Char} (h : isCharacterData c = true)
    {tokens rest : List Token} (hrest : Follows names rest)
    (htokens : WellFormed names true (tokens ++ rest)) :
    WellFormed names true (consRun c h tokens ++ rest) := by
  unfold consRun
  split
  · rw [List.cons_append, wellFormed_text_iff] at htokens
    exact wellFormed_text_iff.2 htokens
  · next hmarkup =>
      refine wellFormed_text_iff.2 ⟨rfl, ?_⟩
      cases tokens with
      | nil => exact hrest false
      | cons token tokens =>
          refine wellFormed_false (fun run heq => ?_) htokens
          exact hmarkup run tokens (by rw [heq])

/-- A text before what may follow a run. -/
theorem wellFormed_textTokens {names : List Name} (s : Text) {rest : List Token}
    (hrest : Follows names rest) : WellFormed names true (textTokens s ++ rest) := by
  induction s with
  | nil => exact hrest true
  | cons c s ih =>
      cases hentity : entity c with
      | some name =>
          rw [textTokens_of_entity hentity]
          exact Follows.reference name ih true
      | none =>
          rw [textTokens_of_none hentity]
          exact wellFormed_consRun _ hrest ih

/-- What one event adds to a text, where nothing is wrong with it. -/
def Event.content : Event → Text
  | .text content => content.getD []
  | .cdata content => content.getD []
  | .generalRef _ name => ((name.bind resolve).map fun c => [c]).getD []
  | _ => []

def contentOf (tokens : List Token) : Text := tokens.flatMap fun token => token.report.content

theorem contentOf_reference {c : Char} {name : Name} (h : entity c = some name)
    (tokens : List Token) : contentOf (.reference name :: tokens) = c :: contentOf tokens := by
  have hresolve : (Token.reference name).report.content = [c] := by
    change ((resolve name.text).map fun c => [c]).getD [] = [c]
    rw [resolve_entity h]
    rfl
  rw [contentOf, List.flatMap_cons, hresolve]
  rfl

theorem head_textTokens {s : Text} {run : Run} {tokens : List Token}
    (h : textTokens s = .text run :: tokens) : run.text.head? = s.head? := by
  cases s with
  | nil => simp [textTokens] at h
  | cons c s =>
      cases hentity : entity c with
      | some name => simp [textTokens_of_entity hentity] at h
      | none =>
          rw [textTokens_of_none hentity] at h
          unfold consRun at h
          split at h
          · rw [← Token.text.inj (List.cons.inj h).1]
            rfl
          · rw [← Token.text.inj (List.cons.inj h).1]
            rfl

/-- Where the tokens of a text begin with no run, no line feed comes first. -/
theorem head_ne_of_textTokens {s : Text} (h : ∀ run tokens, textTokens s ≠ .text run :: tokens) :
    s.head? ≠ some '\n' := by
  cases s with
  | nil => simp
  | cons c s =>
      rw [List.head?_cons, ne_eq, Option.some.injEq]
      rintro rfl
      rw [textTokens_of_none (by decide)] at h
      cases htokens : textTokens s with
      | nil => exact h _ _ (by rw [htokens]; rfl)
      | cons token tokens =>
          cases token with
          | text run => exact h _ _ (by rw [htokens]; rfl)
          | _ => exact h _ _ (by rw [htokens]; rfl)

/-- A character that joins a run is read together with it. -/
theorem contentOf_consRun {c : Char} (h : isCharacterData c = true) (s : Text) :
    contentOf (consRun c h (textTokens s)) = eol c s.head? ++ contentOf (textTokens s) := by
  unfold consRun
  split
  · next run tokens heq =>
      have hcontent : normalizeEol (c :: run.text) = eol c s.head? ++ normalizeEol run.text := by
        rw [normalizeEol, head_textTokens heq]
      calc contentOf (.text (run.cons c h) :: tokens)
          = normalizeEol (c :: run.text) ++ contentOf tokens := rfl
        _ = eol c s.head? ++ (normalizeEol run.text ++ contentOf tokens) := by
          rw [hcontent, List.append_assoc]
        _ = eol c s.head? ++ contentOf (textTokens s) := by
          rw [heq]
          rfl
  · next hmarkup =>
      have hnext := head_ne_of_textTokens hmarkup
      calc contentOf (.text (.single c h) :: textTokens s)
          = (eol c none ++ []) ++ contentOf (textTokens s) := rfl
        _ = eol c s.head? ++ contentOf (textTokens s) := by
          rw [List.append_nil, eol_of_next_ne c hnext]

/-- An escaped text is read back with its ends of lines normalized, and nothing else changed. -/
theorem contentOf_textTokens (s : Text) : contentOf (textTokens s) = normalizeEol s := by
  induction s with
  | nil => rfl
  | cons c s ih =>
      cases hentity : entity c with
      | some name =>
          rw [textTokens_of_entity hentity, contentOf_reference hentity, ih, normalizeEol,
            eol_of_ne (entity_eol hentity).1]
          rfl
      | none => rw [textTokens_of_none hentity, contentOf_consRun, ih, normalizeEol]

/-- A loop that adds contents to a text reads the tokens of an escaped one into it, where `valid`
says which characters it takes. -/
theorem foldlM_content {σ ε : Type} (readEvent : σ → Event → Except ε σ) (state : Text → σ)
    (valid : Char → Bool)
    (htext : ∀ current value, value.all valid = true →
      readEvent (state current) (.text (some value)) = .ok (state (current ++ value)))
    (hreference : ∀ current name c, resolve name = some c → valid c = true →
      readEvent (state current) (.generalRef (some none) (some name)) =
        .ok (state (current ++ [c])))
    {tokens : List Token} (htokens : ∀ token ∈ tokens, token.IsContent)
    (h : (contentOf tokens).all valid = true) (current : Text) :
    tokens.foldlM (fun s token => readEvent s token.report) (state current) =
      .ok (state (current ++ contentOf tokens)) := by
  induction tokens generalizing current with
  | nil =>
      rw [contentOf, List.flatMap_nil, List.append_nil]
      rfl
  | cons token tokens ih =>
      rw [List.forall_mem_cons] at htokens
      rw [contentOf, List.flatMap_cons, List.all_append, Bool.and_eq_true] at h
      have hstep : readEvent (state current) token.report =
          .ok (state (current ++ token.report.content)) := by
        cases token with
        | text run => exact htext current _ h.1
        | reference name =>
            obtain ⟨c, hentity⟩ := htokens.1
            have hresolve := resolve_entity hentity
            have hcontent : (Token.reference name).report.content = [c] := by
              simp [Token.report, Event.content, hresolve]
            rw [hcontent] at h ⊢
            refine hreference current name.text c hresolve ?_
            simpa using h.1
        | _ => exact htokens.1.elim
      have hcontent : contentOf (token :: tokens) = token.report.content ++ contentOf tokens :=
        List.flatMap_cons
      rw [List.foldlM_cons, hstep, hcontent, ← List.append_assoc]
      exact ih htokens.2 h.2 _

theorem all_normalizeEol {valid : Char → Bool} (hline : valid '\n' = true) {s : Text}
    (h : s.all valid = true) : (normalizeEol s).all valid = true := by
  induction s with
  | nil => rfl
  | cons c s ih =>
      rw [List.all_cons, Bool.and_eq_true] at h
      rw [normalizeEol, List.all_append, ih h.2, Bool.and_true, eol]
      split_ifs
      · simpa using h.1
      · rfl
      · simpa using hline

theorem foldlM_textTokens {σ ε : Type} (readEvent : σ → Event → Except ε σ) (state : Text → σ)
    (valid : Char → Bool) (hline : valid '\n' = true)
    (htext : ∀ current value, value.all valid = true →
      readEvent (state current) (.text (some value)) = .ok (state (current ++ value)))
    (hreference : ∀ current name c, resolve name = some c → valid c = true →
      readEvent (state current) (.generalRef (some none) (some name)) =
        .ok (state (current ++ [c])))
    {value : Text} (h : value.all valid = true) (current : Text) :
    (textTokens value).foldlM (fun s token => readEvent s token.report) (state current) =
      .ok (state (current ++ normalizeEol value)) := by
  have hcontent := contentOf_textTokens value
  rw [foldlM_content readEvent state valid htext hreference (isContent_textTokens value), hcontent]
  rw [hcontent]
  exact all_normalizeEol hline h

inductive Forest where
  | nil
  | cons (tag : Tag) (text : Text) (children next : Forest)

namespace Forest

/-- An element alone. -/
def single (tag : Tag) (text : Text) (children : Forest) : Forest := .cons tag text children .nil

def tokens : Forest → List Token
  | .nil => []
  | .cons tag text children next =>
      .start tag :: (textTokens text ++ (children.tokens ++ .finish tag.name :: next.tokens))

def write (forest : Forest) : Text := Xml.write forest.tokens

/-- The texts, in the order of the document. -/
def texts : Forest → List Text
  | .nil => []
  | .cons _ text children next => text :: (children.texts ++ next.texts)

/-- The tags, those within others too. -/
def AllTags (p : Tag → Prop) : Forest → Prop
  | .nil => True
  | .cons tag _ children next => p tag ∧ children.AllTags p ∧ next.AllTags p

/-- How deep elements are nested. -/
def height : Forest → Nat
  | .nil => 0
  | .cons _ _ children next => max (children.height + 1) next.height

def count : Forest → Nat
  | .nil => 0
  | .cons _ _ children next => children.count + 1 + next.count

theorem write_append_tokens (first second : List Token) :
    Xml.write (first ++ second) = Xml.write first ++ Xml.write second :=
  List.flatMap_append

theorem write_nil : Forest.nil.write = [] := rfl

theorem write_cons (tag : Tag) (text : Text) (children next : Forest) :
    (cons tag text children next).write = (Token.start tag).write ++ (escape text ++
      (children.write ++ ((Token.finish tag.name).write ++ next.write))) := by
  rw [write, tokens, Xml.write, List.flatMap_cons, ← Xml.write, write_append_tokens,
    write_append_tokens, write_textTokens]
  rfl

/-- Elements are well formed before whatever may follow them. -/
theorem follows_tokens (forest : Forest) {names : List Name} {rest : List Token}
    (h : Follows names rest) : Follows names (forest.tokens ++ rest) := by
  induction forest generalizing names rest with
  | nil => exact h
  | cons tag text children next ihchildren ihnext =>
      have hfinish : Follows (tag.name :: names) (.finish tag.name :: (next.tokens ++ rest)) :=
        Follows.finish (ihnext h true)
      have htext := wellFormed_textTokens text (ihchildren hfinish)
      rw [tokens]
      simp only [List.cons_append, List.append_assoc]
      exact Follows.start tag htext

theorem wellFormed_document (forest : Forest) :
    WellFormed [] false (.declaration :: forest.tokens) := by
  have hrest : Follows [] forest.tokens := by
    have hnil : Follows [] (forest.tokens ++ []) :=
      forest.follows_tokens fun _ => by simp [WellFormed]
    rwa [List.append_nil] at hnil
  exact ⟨rfl, hrest true⟩

end Forest

/-- A document with a declaration: its element, with a text and then elements. -/
structure Document where
  tag : Tag
  text : Text
  children : Forest

namespace Document

def forest (document : Document) : Forest :=
  .single document.tag document.text document.children

def tokens (document : Document) : List Token := .declaration :: document.forest.tokens

def write (document : Document) : Text := Token.declaration.write ++ document.forest.write

def texts (document : Document) : List Text := document.text :: document.children.texts

theorem texts_forest (document : Document) : document.forest.texts = document.texts := by
  rw [forest, Forest.single, Forest.texts, Forest.texts, List.append_nil, texts]

theorem bytes_write_ne_nil (document : Document) : Utf8.bytes document.write ≠ [] := by
  simp [write, Token.write, Utf8.bytes, String.utf8EncodeChar]

theorem events_write (reader : Reader) (document : Document) :
    reader.events (Utf8.bytes document.write) =
      document.tokens.map fun token => some token.report :=
  reader.reads _ document.forest.wellFormed_document

end Document

/-- The elements that are open, innermost first, with their texts so far, and those that are closed,
in the order of their ends. -/
structure Reading where
  opened : List (List UInt8 × Text)
  closed : List (List UInt8 × Text)

namespace Reading

def append (reading : Reading) (value : Text) : Except Unit Reading :=
  match reading.opened with
  | [] => .error ()
  | (name, text) :: opened => .ok ⟨(name, text ++ value) :: opened, reading.closed⟩

def appendContent (reading : Reading) : Option Text → Except Unit Reading
  | some value => reading.append value
  | none => .error ()

def read (reading : Reading) : Event → Except Unit Reading
  | .start name _ => .ok ⟨(name, []) :: reading.opened, reading.closed⟩
  | .empty name _ => .ok ⟨reading.opened, reading.closed ++ [(name, [])]⟩
  | .finish name =>
      match reading.opened with
      | [] => .error ()
      | (opened, text) :: rest =>
          if opened = name then .ok ⟨rest, reading.closed ++ [(opened, text)]⟩ else .error ()
  | .text content => reading.appendContent content
  | .cdata content => reading.appendContent content
  | .generalRef (some (some character)) _ => reading.append [character]
  | .generalRef (some none) (some name) => reading.appendContent ((resolve name).map ([·]))
  | .generalRef _ _ => .error ()
  | .decl => .ok reading
  | .comment => .ok reading
  | .docType => .ok reading
  | .pi => .ok reading

def readResult (reading : Reading) : Option Event → Except Unit Reading
  | some event => reading.read event
  | none => .error ()

def readTokens (reading : Reading) (tokens : List Token) : Except Unit Reading :=
  tokens.foldlM (fun reading token => reading.read token.report) reading

theorem readTokens_cons (reading : Reading) (token : Token) (tokens : List Token) :
    reading.readTokens (token :: tokens) =
      reading.read token.report >>= fun next => next.readTokens tokens :=
  List.foldlM_cons

theorem readTokens_append (reading : Reading) (first second : List Token) :
    reading.readTokens (first ++ second) =
      reading.readTokens first >>= fun next => next.readTokens second :=
  List.foldlM_append

theorem readTokens_textTokens (name : List UInt8) (text : Text)
    (opened closed : List (List UInt8 × Text)) (value : Text) :
    readTokens ⟨(name, text) :: opened, closed⟩ (textTokens value) =
      .ok ⟨(name, text ++ normalizeEol value) :: opened, closed⟩ := by
  have hall : value.all (fun _ => true) = true := by simp
  refine foldlM_textTokens read (fun text => ⟨(name, text) :: opened, closed⟩) (fun _ => true) rfl
    (fun _ _ _ => rfl) ?_ hall text
  intro current entity c hresolve _
  have hread : (Reading.mk ((name, current) :: opened) closed).read
      (.generalRef (some none) (some entity)) =
        appendContent ⟨(name, current) :: opened, closed⟩ ((resolve entity).map ([·])) := rfl
  rw [hread, hresolve]
  rfl

theorem read_start (tag : Tag) (opened closed : List (List UInt8 × Text)) :
    (Reading.mk opened closed).read (Token.start tag).report =
      .ok ⟨(Utf8.bytes tag.name.text, []) :: opened, closed⟩ := rfl

theorem read_finish (name : Name) (text : Text) (opened closed : List (List UInt8 × Text)) :
    (Reading.mk ((Utf8.bytes name.text, text) :: opened) closed).read (Token.finish name).report =
      .ok ⟨opened, closed ++ [(Utf8.bytes name.text, text)]⟩ := if_pos rfl

theorem ok_bind (reading : Reading) (f : Reading → Except Unit Reading) :
    (Except.ok reading >>= f) = f reading := rfl

end Reading

/-- All elements of an input, in the order of their ends. -/
def elements (events : List (Option Event)) : Except Unit (List (List UInt8 × Text)) :=
  match events.foldlM Reading.readResult ⟨[], []⟩ with
  | .ok ⟨[], closed⟩ => .ok closed
  | _ => .error ()

/-- The elements of a forest with their texts changed by `f`. -/
def Forest.closed (f : Text → Text) : Forest → List (List UInt8 × Text)
  | .nil => []
  | .cons tag text children next =>
      children.closed f ++ (Utf8.bytes tag.name.text, f text) :: next.closed f

/-- A forest adds its elements to those that are closed. -/
theorem Reading.readTokens_forest (forest : Forest) (opened closed : List (List UInt8 × Text)) :
    readTokens ⟨opened, closed⟩ forest.tokens =
      .ok ⟨opened, closed ++ forest.closed normalizeEol⟩ := by
  induction forest generalizing opened closed with
  | nil =>
      rw [Forest.closed, List.append_nil]
      rfl
  | cons tag text children next ihchildren ihnext =>
      rw [Forest.tokens, readTokens_cons, read_start, ok_bind, readTokens_append,
        readTokens_textTokens, ok_bind, readTokens_append, ihchildren, ok_bind, readTokens_cons,
        read_finish, ok_bind, ihnext, Forest.closed]
      simp only [List.nil_append, List.append_assoc, List.singleton_append]

theorem elements_write (reader : Reader) (document : Document) :
    elements (reader.events (Utf8.bytes document.write)) =
      .ok (document.forest.closed normalizeEol) := by
  have hdeclaration : (Reading.mk [] []).read Token.declaration.report = .ok ⟨[], []⟩ := rfl
  have hread : (document.tokens.map fun token => some token.report).foldlM Reading.readResult
      ⟨[], []⟩ = Reading.readTokens ⟨[], []⟩ document.tokens := by
    rw [List.foldlM_map]
    rfl
  rw [elements, document.events_write, hread, Document.tokens, Reading.readTokens_cons,
    hdeclaration, Reading.ok_bind, Reading.readTokens_forest, List.nil_append]

end Xml
