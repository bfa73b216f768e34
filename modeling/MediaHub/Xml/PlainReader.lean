import MediaHub.Text.Split
import MediaHub.Xml.Token

/-!
A reader of documents without comments, sections of character data and empty tags.
-/

namespace Xml.PlainReader

/-- The attributes after the name of a tag. -/
def readAttributes : Nat → Text → Option (List (Option RawAttribute))
  | _, [] => some []
  | 0, _ :: _ => none
  | fuel + 1, _ :: s => do
      let (key, quoted) ← Text.splitOnce '=' s
      let (value, rest) ← Text.splitOnce '"' (quoted.drop 1)
      let pairs ← readAttributes fuel rest
      return some ⟨Utf8.bytes key, some value⟩ :: pairs

def readTag (tag : Text) : Option Event := do
  let name := tag.takeWhile (· ≠ ' ')
  let pairs ← readAttributes tag.length (tag.dropWhile (· ≠ ' '))
  return .start (Utf8.bytes name) pairs

/-- What stands between angle brackets. -/
def readMarkup : Text → Option Event
  | '?' :: _ => some .decl
  | '/' :: name => some (.finish (Utf8.bytes name))
  | tag => readTag tag

/-- The event that comes first, and what is left. -/
def readEvent (s : Text) : Option (Event × Text) :=
  if s.head? = some '<' then do
    let (markup, rest) ← Text.splitOnce '>' s.tail
    let event ← readMarkup markup
    return (event, rest)
  else if s.head? = some '&' then do
    let (name, rest) ← Text.splitOnce ';' s.tail
    return (.generalRef (some none) (some name), rest)
  else
    some (.text (some (normalizeEol (s.takeWhile isCharacterData))), s.dropWhile isCharacterData)

def readEvents : Nat → Text → List (Option Event)
  | _, [] => []
  | 0, _ :: _ => [none]
  | fuel + 1, c :: s =>
      match readEvent (c :: s) with
      | none => [none]
      | some (event, rest) => some event :: readEvents fuel rest

def events (input : List UInt8) : List (Option Event) :=
  match Utf8.ofBytes input with
  | none => [none]
  | some s => readEvents s.length s

theorem not_mem_of_all {p : Char → Bool} {c : Char} {s : Text} (h : s.all p = true)
    (hc : p c = false) : c ∉ s := by
  intro hmem
  have hp := List.all_eq_true.1 h c hmem
  rw [hc] at hp
  exact Bool.false_ne_true hp

theorem not_mem_name (name : Name) {c : Char} (hc : isNameCharacter c = false) : c ∉ name.text :=
  not_mem_of_all name.characters hc

theorem readAttributes_write (pairs : List Attribute) {fuel : Nat} (h : pairs.length ≤ fuel) :
    readAttributes fuel (pairs.flatMap Attribute.write) = some (pairs.map Attribute.report) := by
  induction pairs generalizing fuel with
  | nil =>
      cases fuel with
      | zero => rfl
      | succ fuel => rfl
  | cons pair pairs ih =>
      cases fuel with
      | zero => simp at h
      | succ fuel =>
          have hkey : Text.splitOnce '=' (pair.key.text ++ '=' :: ('"' :: pair.value ++
              '"' :: pairs.flatMap Attribute.write)) = some (pair.key.text, '"' :: pair.value ++
              '"' :: pairs.flatMap Attribute.write) :=
            Text.splitOnce_eq_some_iff.2 ⟨not_mem_name _ (by decide), rfl⟩
          have hvalue : Text.splitOnce '"' (pair.value ++ '"' :: pairs.flatMap Attribute.write) =
              some (pair.value, pairs.flatMap Attribute.write) :=
            Text.splitOnce_eq_some_iff.2 ⟨not_mem_of_all pair.plain (by decide), rfl⟩
          have hlength : pairs.length ≤ fuel := Nat.le_of_succ_le_succ h
          have hwrite : (pair :: pairs).flatMap Attribute.write = ' ' :: (pair.key.text ++ '=' ::
              ('"' :: pair.value ++ '"' :: pairs.flatMap Attribute.write)) := by
            simp [List.flatMap_cons, Attribute.write]
          rw [hwrite, readAttributes, hkey]
          simp only [Option.bind_eq_bind, Option.bind_some, List.cons_append, List.drop_succ_cons,
            List.drop_zero, hvalue, ih hlength]
          rfl

theorem not_mem_write {tag : Tag} : '>' ∉ tag.write := by
  rw [Tag.write, List.mem_append, not_or]
  refine ⟨not_mem_name _ (by decide), ?_⟩
  intro hmem
  obtain ⟨pair, _, hpair⟩ := List.mem_flatMap.1 hmem
  have hkey : '>' ∉ pair.key.text := not_mem_name _ (by decide)
  have hvalue : '>' ∉ pair.value := not_mem_of_all pair.plain (by decide)
  simp [Attribute.write, hkey, hvalue] at hpair

theorem length_le_write (pairs : List Attribute) :
    pairs.length ≤ (pairs.flatMap Attribute.write).length := by
  induction pairs with
  | nil => exact Nat.le_refl 0
  | cons pair pairs ih =>
      rw [List.flatMap_cons, List.length_append, List.length_cons]
      have hpos : 1 ≤ pair.write.length := by simp [Attribute.write]
      omega

/-- What follows a name begins with a blank. -/
theorem head_write (pairs : List Attribute) :
    ∀ c ∈ (pairs.flatMap Attribute.write).head?, (c ≠ ' ' : Bool) = false := by
  cases pairs with
  | nil => simp
  | cons pair pairs => simp [Attribute.write]

theorem span_append {p : Char → Bool} {s rest : Text} (hs : s.all p = true)
    (hrest : ∀ c ∈ rest.head?, p c = false) :
    (s ++ rest).takeWhile p = s ∧ (s ++ rest).dropWhile p = rest := by
  have hall := List.all_eq_true.1 hs
  rw [List.takeWhile_append_of_pos hall, List.dropWhile_append_of_pos hall]
  cases rest with
  | nil => simp
  | cons c rest =>
      have hc : p c = false := hrest c rfl
      simp [hc]

theorem readTag_write (tag : Tag) :
    readTag tag.write = some (Token.start tag).report := by
  have hblank : ' ' ∉ tag.name.text := not_mem_name _ (by decide)
  have hname : tag.name.text.all (fun c => decide (c ≠ ' ')) = true := by
    rw [List.all_eq_true]
    intro c hc
    rw [decide_eq_true_eq]
    rintro rfl
    exact hblank hc
  obtain ⟨htake, hdrop⟩ := span_append hname (head_write tag.attributes)
  have hlength : tag.attributes.length ≤ tag.write.length := by
    rw [Tag.write, List.length_append]
    exact (length_le_write _).trans (Nat.le_add_left _ _)
  have hpairs := readAttributes_write tag.attributes hlength
  rw [← Tag.write] at htake hdrop
  simp only [readTag, htake, hdrop, hpairs, Option.bind_eq_bind, Option.bind_some]
  rfl

/-- A tag does not look like a declaration or like the end of an element. -/
theorem readMarkup_write (tag : Tag) : readMarkup tag.write = some (Token.start tag).report := by
  have hletter := tag.name.letter_first
  have hread := readTag_write tag
  cases htext : tag.name.text with
  | nil => simp [htext] at hletter
  | cons c s =>
      rw [htext, List.head?_cons, Option.any_some] at hletter
      rw [Tag.write, htext, List.cons_append] at hread ⊢
      unfold readMarkup
      split
      · next heq =>
          rw [(List.cons.inj heq).1] at hletter
          exact absurd hletter (by decide)
      · next heq =>
          rw [(List.cons.inj heq).1] at hletter
          exact absurd hletter (by decide)
      · exact hread

theorem readEvent_markup {markup : Text} {event : Event} (hmarkup : '>' ∉ markup)
    (hevent : readMarkup markup = some event) (rest : Text) :
    readEvent ('<' :: (markup ++ ['>']) ++ rest) = some (event, rest) := by
  have hsplit : Text.splitOnce '>' (markup ++ ['>'] ++ rest) = some (markup, rest) :=
    Text.splitOnce_eq_some_iff.2 ⟨hmarkup, by simp⟩
  rw [readEvent, List.cons_append, if_pos (List.head?_cons), List.tail_cons, hsplit]
  simp only [Option.bind_eq_bind, Option.bind_some, hevent]
  rfl

/-- What may come after a token: after a run, markup. -/
def MayFollow : Token → Text → Prop
  | .text _, rest => ∀ c ∈ rest.head?, isCharacterData c = false
  | _, _ => True

theorem readEvent_reference (name : Name) (rest : Text) :
    readEvent ((Token.reference name).write ++ rest) =
      some ((Token.reference name).report, rest) := by
  have hsplit : Text.splitOnce ';' (name.text ++ [';'] ++ rest) = some (name.text, rest) :=
    Text.splitOnce_eq_some_iff.2 ⟨not_mem_name _ (by decide), by simp⟩
  rw [readEvent, Token.write, List.cons_append, if_neg (by simp), if_pos (List.head?_cons),
    List.tail_cons, hsplit]
  rfl

theorem readEvent_text (run : Run) {rest : Text}
    (h : ∀ c ∈ rest.head?, isCharacterData c = false) :
    readEvent ((Token.text run).write ++ rest) = some ((Token.text run).report, rest) := by
  obtain ⟨htake, hdrop⟩ := span_append run.data h
  have hhead : (run.text ++ rest).head? ≠ some '<' ∧ (run.text ++ rest).head? ≠ some '&' := by
    have hdata := run.data
    cases htext : run.text with
    | nil => exact absurd htext run.nonempty
    | cons c s =>
        rw [htext, List.all_cons, Bool.and_eq_true] at hdata
        simpa [isCharacterData] using hdata.1
  rw [readEvent, Token.write, if_neg hhead.1, if_neg hhead.2, htake, hdrop]
  rfl

theorem readEvent_write {token : Token} {rest : Text} (h : MayFollow token rest) :
    readEvent (token.write ++ rest) = some (token.report, rest) := by
  cases token with
  | declaration => exact readEvent_markup (by decide) rfl rest
  | start tag => exact readEvent_markup not_mem_write (readMarkup_write tag) rest
  | finish name =>
      refine readEvent_markup ?_ rfl rest
      rw [List.mem_cons, not_or]
      exact ⟨by decide, not_mem_name _ (by decide)⟩
  | text run => exact readEvent_text run h
  | reference name => exact readEvent_reference name rest

/-- Where no run comes next, markup does. -/
theorem mayFollow_of_wellFormed {names : List Name} {token : Token} {tokens : List Token}
    {fresh : Bool} (h : WellFormed names fresh (token :: tokens)) :
    MayFollow token (write tokens) := by
  cases token with
  | text run =>
      have hrest : WellFormed names false tokens := by
        cases names with
        | nil => exact h.2
        | cons opened names => exact h.2
      cases tokens with
      | nil => simp [MayFollow, write]
      | cons next tokens =>
          cases next with
          | text run =>
              cases names with
              | nil => exact absurd hrest.1 (by decide)
              | cons opened names => exact absurd hrest.1 (by decide)
          | _ =>
              intro c hc
              obtain rfl := Option.some.inj hc
              rfl
  | _ => exact True.intro

theorem exists_wellFormed_tail {names : List Name} {token : Token} {tokens : List Token}
    {fresh : Bool} (h : WellFormed names fresh (token :: tokens)) :
    ∃ names fresh, WellFormed names fresh tokens := by
  cases names with
  | nil =>
      cases token with
      | finish name => exact h.elim
      | declaration => exact ⟨_, _, h.2⟩
      | text run => exact ⟨_, _, h.2⟩
      | start tag => exact ⟨_, _, h⟩
      | reference name => exact ⟨_, _, h⟩
  | cons opened names =>
      cases token with
      | finish name => exact ⟨_, _, h.2⟩
      | declaration => exact ⟨_, _, h.2⟩
      | text run => exact ⟨_, _, h.2⟩
      | start tag => exact ⟨_, _, h⟩
      | reference name => exact ⟨_, _, h⟩

theorem write_ne_nil (token : Token) : ∃ c s, token.write = c :: s := by
  cases token with
  | text run => exact List.exists_cons_of_ne_nil run.nonempty
  | _ => exact ⟨_, _, rfl⟩

/-- A document is read token by token. -/
theorem readEvents_write {names : List Name} {fresh : Bool} {tokens : List Token}
    (h : WellFormed names fresh tokens) {fuel : Nat} (hfuel : (write tokens).length ≤ fuel) :
    readEvents fuel (write tokens) = tokens.map fun token => some token.report := by
  induction tokens generalizing names fresh fuel with
  | nil =>
      cases fuel with
      | zero => rfl
      | succ fuel => rfl
  | cons token tokens ih =>
      have hread := readEvent_write (mayFollow_of_wellFormed h)
      obtain ⟨names', fresh', htail⟩ := exists_wellFormed_tail h
      obtain ⟨c, s, hcons⟩ := write_ne_nil token
      have hwrite : write (token :: tokens) = c :: (s ++ write tokens) := by
        rw [write, List.flatMap_cons, hcons]
        rfl
      rw [hcons, List.cons_append] at hread
      rw [hwrite, List.length_cons, List.length_append] at hfuel
      cases fuel with
      | zero => omega
      | succ fuel =>
          rw [hwrite, readEvents, hread]
          simp only [List.map_cons]
          rw [ih htail (by omega)]

end Xml.PlainReader

namespace Xml

/-- Documents in UTF-8. -/
def plainReader : Reader where
  events := PlainReader.events
  reads tokens h := by
    rw [PlainReader.events, Utf8.ofBytes_bytes]
    exact PlainReader.readEvents_write h (Nat.le_refl _)

end Xml
