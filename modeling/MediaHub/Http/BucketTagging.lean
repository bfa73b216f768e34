import MediaHub.Http.ObjectTagging

namespace MediaHub.Http

open Result
open MediaHub.Core
open Xml (Forest Tag Token normalizeEol contentOf textTokens)
open Text (isControl)

inductive S3BucketTaggingError where
  | tooManyTags
  | invalidKey
  | invalidValue
  | duplicateKey
deriving DecidableEq

inductive S3BucketTaggingXmlError where
  | inputTooLarge
  | malformedXml
  | invalidTag (error : S3BucketTaggingError)

def mapS3BucketTagValidationError : S3TaggingError → S3BucketTaggingError
  | .tooManyTags => .tooManyTags
  | .invalidKey => .invalidKey
  | .invalidValue => .invalidValue
  | .duplicateKey => .duplicateKey

def invalidTag (error : S3TaggingError) : S3BucketTaggingXmlError :=
  .invalidTag (mapS3BucketTagValidationError error)

inductive S3BucketTaggingXmlElement where
  | tagging
  | tagSet
  | tag
  | key
  | value
deriving DecidableEq

def S3BucketTaggingXmlElement.name : S3BucketTaggingXmlElement → List UInt8
  | .tagging => Utf8.bytes taggingName.text
  | .tagSet => Utf8.bytes tagSetName.text
  | .tag => Utf8.bytes tagName.text
  | .key => Utf8.bytes keyName.text
  | .value => Utf8.bytes valueName.text

/-- The innermost element comes first; the flag of the declaration belongs to the loop. -/
structure S3BucketTaggingXmlState where
  stack : List S3BucketTaggingXmlElement
  rootSeen : Bool
  rootClosed : Bool
  tagSetSeen : Bool
  currentKey : Option Text
  currentValue : Option Text
  tags : List S3ObjectTag
  declarationSeen : Bool

def validateRootAttributes (pairs : List (Option Xml.RawAttribute)) :
    Except S3BucketTaggingXmlError Unit :=
  match pairs with
  | [] => .ok ()
  | [some pair] =>
      rejectIf (pair.key ≠ Utf8.bytes "xmlns".toList ∨ pair.value ≠ some s3XmlNamespace)
        .malformedXml
  | _ => .error .malformedXml

def validateNoAttributes (pairs : List (Option Xml.RawAttribute)) :
    Except S3BucketTaggingXmlError Unit :=
  rejectIf (pairs ≠ []) .malformedXml

namespace S3BucketTaggingXmlState

def initial : S3BucketTaggingXmlState := ⟨[], false, false, false, none, none, [], false⟩

def enter (state : S3BucketTaggingXmlState) (name : List UInt8)
    (pairs : List (Option Xml.RawAttribute)) :
    Except S3BucketTaggingXmlError S3BucketTaggingXmlState :=
  match state.stack with
  | [] => do
      rejectIf (¬ (name = S3BucketTaggingXmlElement.tagging.name ∧ state.rootSeen = false ∧
        state.rootClosed = false)) .malformedXml
      validateRootAttributes pairs
      return { state with rootSeen := true, stack := [.tagging] }
  | [.tagging] => do
      rejectIf (¬ (name = S3BucketTaggingXmlElement.tagSet.name ∧ state.tagSetSeen = false))
        .malformedXml
      validateNoAttributes pairs
      return { state with tagSetSeen := true, stack := [.tagSet, .tagging] }
  | [.tagSet, .tagging] => do
      rejectIf (name ≠ S3BucketTaggingXmlElement.tag.name) .malformedXml
      validateNoAttributes pairs
      return { state with
        currentKey := none
        currentValue := none
        stack := [.tag, .tagSet, .tagging] }
  | [.tag, .tagSet, .tagging] =>
      if name = S3BucketTaggingXmlElement.key.name ∧ state.currentKey = none ∧
          state.currentValue = none then do
        validateNoAttributes pairs
        return { state with
          currentKey := some []
          stack := [.key, .tag, .tagSet, .tagging] }
      else if name = S3BucketTaggingXmlElement.value.name ∧ state.currentKey ≠ none ∧
          state.currentValue = none then do
        validateNoAttributes pairs
        return { state with
          currentValue := some []
          stack := [.value, .tag, .tagSet, .tagging] }
      else .error .malformedXml
  | _ => .error .malformedXml

/-- The end of a `<Tag>`. -/
def takeTag [CharacterClasses] (state : S3BucketTaggingXmlState) :
    Except S3BucketTaggingXmlError S3BucketTaggingXmlState :=
  match state.currentKey, state.currentValue with
  | some key, some value => do
      let tag ← (S3ObjectTag.new key value).mapError invalidTag
      rejectIf (maxS3BucketTags < state.tags.length + 1) (.invalidTag .tooManyTags)
      return { state with
        currentKey := none
        currentValue := none
        tags := state.tags ++ [tag] }
  | _, _ => .error .malformedXml

def exitKind [CharacterClasses] (state : S3BucketTaggingXmlState) :
    S3BucketTaggingXmlElement → Except S3BucketTaggingXmlError S3BucketTaggingXmlState
  | .tag => state.takeTag
  | .tagging => do
      rejectIf (state.tagSetSeen = false) .malformedXml
      return { state with rootClosed := true }
  | .tagSet => .ok state
  | .key => .ok state
  | .value => .ok state

def exit [CharacterClasses] (state : S3BucketTaggingXmlState) (name : List UInt8) :
    Except S3BucketTaggingXmlError S3BucketTaggingXmlState :=
  match state.stack with
  | [] => .error .malformedXml
  | kind :: stack => do
      rejectIf (kind.name ≠ name) .malformedXml
      exitKind { state with stack := stack } kind

def appendText (state : S3BucketTaggingXmlState) (value : Text) :
    Except S3BucketTaggingXmlError S3BucketTaggingXmlState :=
  match state.stack.head? with
  | some .key =>
      match state.currentKey with
      | none => .error .malformedXml
      | some key => .ok { state with currentKey := some (key ++ value) }
  | some .value =>
      match state.currentValue with
      | none => .error .malformedXml
      | some current => .ok { state with currentValue := some (current ++ value) }
  | _ => if trim value = [] then .ok state else .error .malformedXml

def appendContent (state : S3BucketTaggingXmlState) (content : Option Text) :
    Except S3BucketTaggingXmlError S3BucketTaggingXmlState :=
  match content with
  | none => .error .malformedXml
  | some value => state.appendText value

def readEvent [CharacterClasses] (state : S3BucketTaggingXmlState) :
    Xml.Event → Except S3BucketTaggingXmlError S3BucketTaggingXmlState
  | .start name pairs => state.enter name pairs
  | .empty name pairs => do
      let state ← state.enter name pairs
      state.exit name
  | .finish name => state.exit name
  | .text content => state.appendContent content
  | .cdata content => state.appendContent content
  | .generalRef character name =>
      match referencedCharacter character name with
      | none => .error .malformedXml
      | some character => state.appendText [character]
  | .decl =>
      if state.declarationSeen = false ∧ state.rootSeen = false then
        .ok { state with declarationSeen := true }
      else .error .malformedXml
  | .comment => .ok state
  | .docType => .error .malformedXml
  | .pi => .error .malformedXml

def readResult [CharacterClasses] (state : S3BucketTaggingXmlState) (result : Option Xml.Event) :
    Except S3BucketTaggingXmlError S3BucketTaggingXmlState :=
  match result with
  | none => .error .malformedXml
  | some event => state.readEvent event

def finish [CharacterClasses] (state : S3BucketTaggingXmlState) :
    Except S3BucketTaggingXmlError S3BucketTagSet := do
  rejectIf (state.stack ≠ [] ∨ state.rootSeen = false ∨ state.rootClosed = false ∨
    state.tagSetSeen = false ∨ state.currentKey ≠ none ∨ state.currentValue ≠ none) .malformedXml
  (S3TagSet.new state.tags).mapError invalidTag

end S3BucketTaggingXmlState

section

variable [CharacterClasses]

def parseS3BucketTaggingXml (reader : Xml.Reader) (input : List UInt8) :
    Except S3BucketTaggingXmlError S3BucketTagSet := do
  rejectIf (input = []) .malformedXml
  rejectIf (maxS3XmlBodyBytes < input.length) .inputTooLarge
  let state ← (reader.events input).foldlM S3BucketTaggingXmlState.readResult .initial
  state.finish

def renderTag (tag : S3ObjectTag) : Text :=
  "<Tag><Key>".toList ++ escapeS3Xml tag.key ++ "</Key><Value>".toList ++ escapeS3Xml tag.value ++
    "</Value></Tag>".toList

def renderS3BucketTaggingXml (tags : S3BucketTagSet) : Except S3BucketTaggingXmlError Text := do
  tags.validate.mapError invalidTag
  return ("<?xml version=\"1.0\" encoding=\"UTF-8\"?><Tagging xmlns=\"" ++
      "http://s3.amazonaws.com/doc/2006-03-01/\"><TagSet>").toList ++
    tags.tags.flatMap renderTag ++ "</TagSet></Tagging>".toList

end

/-- Tags around two texts are those of the forest. -/
theorem write_tagForest_singleton (tag : S3ObjectTag) {opening middle closing : Text}
    (hopening : opening =
      (Token.start (Tag.plain tagName)).write ++ (Token.start (Tag.plain keyName)).write)
    (hmiddle : middle =
      (Token.finish keyName).write ++ (Token.start (Tag.plain valueName)).write)
    (hclosing : closing = (Token.finish valueName).write ++ (Token.finish tagName).write) :
    opening ++ Xml.escape tag.key ++ middle ++ Xml.escape tag.value ++ closing =
      (tagForest [tag]).write := by
  have hempty : Xml.escape [] = [] := rfl
  rw [hopening, hmiddle, hclosing]
  simp only [tagForest, Forest.single, Forest.write_cons, Forest.write_nil, hempty, Tag.plain,
    List.nil_append, List.append_nil, List.append_assoc]

theorem renderTag_eq (tag : S3ObjectTag) : renderTag tag = (tagForest [tag]).write := by
  unfold renderTag
  rw [escapeS3Xml_eq, escapeS3Xml_eq]
  exact write_tagForest_singleton tag (by decide) (by decide) (by decide)

theorem flatMap_renderTag (tags : List S3ObjectTag) :
    tags.flatMap renderTag = (tagForest tags).write := by
  induction tags with
  | nil => rfl
  | cons tag tags ih =>
      rw [List.flatMap_cons, ih, renderTag_eq]
      simp only [tagForest, Forest.write_cons, Forest.write_nil, List.append_nil,
        List.append_assoc]

section

variable [CharacterClasses]

namespace S3BucketTaggingXmlState

def readTokens (state : S3BucketTaggingXmlState) (tokens : List Token) :
    Except S3BucketTaggingXmlError S3BucketTaggingXmlState :=
  tokens.foldlM (fun state token => state.readEvent token.report) state

theorem readTokens_cons {state next : S3BucketTaggingXmlState} {token : Token}
    (h : state.readEvent token.report = .ok next) (tokens : List Token) :
    state.readTokens (token :: tokens) = next.readTokens tokens := by
  rw [readTokens, List.foldlM_cons, h, ok_bind]
  rfl

theorem readTokens_append {state next : S3BucketTaggingXmlState} {first : List Token}
    (h : state.readTokens first = .ok next) (second : List Token) :
    state.readTokens (first ++ second) = next.readTokens second := by
  rw [readTokens] at h
  rw [readTokens, List.foldlM_append, h, ok_bind]
  rfl

/-- A text is read wherever texts are collected. -/
theorem readTokens_textTokens {state : Text → S3BucketTaggingXmlState}
    (happend : ∀ current value, (state current).appendText value = .ok (state (current ++ value)))
    {value : Text} (h : '\r' ∉ value) :
    (state []).readTokens (textTokens value) = .ok (state value) := by
  have hreference : ∀ current name c, Xml.resolve name = some c → true = true →
      (state current).readEvent (.generalRef (some none) (some name)) =
        .ok (state (current ++ [c])) := by
    intro current name c hresolve _
    have hreferenced : referencedCharacter (some none) (some name) = some c := hresolve
    simp only [readEvent, hreferenced]
    exact happend current [c]
  have hall : value.all (fun _ => true) = true := by simp
  have hread := Xml.foldlM_textTokens readEvent state (fun _ => true) rfl
    (fun current value _ => happend current value) hreference hall []
  rwa [Xml.normalizeEol_eq_self_iff.2 h, List.nil_append] at hread

def inTagSet (tags : List S3ObjectTag) : S3BucketTaggingXmlState :=
  ⟨[.tagSet, .tagging], true, false, true, none, none, tags, true⟩

def inTag (tags : List S3ObjectTag) (key value : Option Text) : S3BucketTaggingXmlState :=
  ⟨[.tag, .tagSet, .tagging], true, false, true, key, value, tags, true⟩

def inKey (tags : List S3ObjectTag) (key : Text) : S3BucketTaggingXmlState :=
  ⟨[.key, .tag, .tagSet, .tagging], true, false, true, some key, none, tags, true⟩

def inValue (tags : List S3ObjectTag) (key value : Text) : S3BucketTaggingXmlState :=
  ⟨[.value, .tag, .tagSet, .tagging], true, false, true, some key, some value, tags, true⟩

theorem readEvent_startTag (tags : List S3ObjectTag) :
    (inTagSet tags).readEvent (Token.start (Tag.plain tagName)).report =
      .ok (inTag tags none none) := by
  rfl

theorem readEvent_startKey (tags : List S3ObjectTag) :
    (inTag tags none none).readEvent (Token.start (Tag.plain keyName)).report =
      .ok (inKey tags []) := by
  rfl

theorem readEvent_finishKey (tags : List S3ObjectTag) (key : Text) :
    (inKey tags key).readEvent (Token.finish keyName).report =
      .ok (inTag tags (some key) none) := by
  rfl

theorem readEvent_startValue (tags : List S3ObjectTag) (key : Text) :
    (inTag tags (some key) none).readEvent (Token.start (Tag.plain valueName)).report =
      .ok (inValue tags key []) := by
  rfl

theorem readEvent_finishValue (tags : List S3ObjectTag) (key value : Text) :
    (inValue tags key value).readEvent (Token.finish valueName).report =
      .ok (inTag tags (some key) (some value)) := by
  rfl

theorem readEvent_finishTag {tags : List S3ObjectTag} {tag : S3ObjectTag} (h : tag.IsValid)
    (hroom : tags.length + 1 ≤ maxS3BucketTags) :
    (inTag tags (some tag.key) (some tag.value)).readEvent (Token.finish tagName).report =
      .ok (inTagSet (tags ++ [tag])) := by
  have hnew : S3ObjectTag.new tag.key tag.value = .ok tag := S3ObjectTag.new_eq_ok_iff.2 ⟨rfl, h⟩
  have htake : takeTag ⟨[.tagSet, .tagging], true, false, true, some tag.key, some tag.value, tags,
      true⟩ = .ok (inTagSet (tags ++ [tag])) := by
    rw [takeTag]
    dsimp only
    rw [hnew, Except.mapError, ok_bind, andThen_eq_ok_iff, rejectIf_eq_ok_iff, not_lt]
    exact ⟨hroom, rfl⟩
  exact htake

/-- The tokens of one tag. -/
theorem readTokens_tag {tags : List S3ObjectTag} {tag : S3ObjectTag} (h : tag.IsValid)
    (hroom : tags.length + 1 ≤ maxS3BucketTags) (rest : List Token) :
    (inTagSet tags).readTokens ((tagForest [tag]).tokens ++ rest) =
      (inTagSet (tags ++ [tag])).readTokens rest := by
  have hkey : (inKey tags []).readTokens (textTokens tag.key) = .ok (inKey tags tag.key) :=
    readTokens_textTokens (fun _ _ => rfl) (not_mem_of_textWithin h.1)
  have hvalue : (inValue tags tag.key []).readTokens (textTokens tag.value) =
      .ok (inValue tags tag.key tag.value) :=
    readTokens_textTokens (fun _ _ => rfl) (not_mem_of_textWithin h.2)
  have htokens : (tagForest [tag]).tokens ++ rest = .start (Tag.plain tagName) ::
      .start (Tag.plain keyName) :: (textTokens tag.key ++ .finish keyName ::
        .start (Tag.plain valueName) :: (textTokens tag.value ++ .finish valueName ::
          .finish tagName :: rest)) := by
    simp [tagForest, Forest.single, Forest.tokens, textTokens, Tag.plain]
  rw [htokens, readTokens_cons (readEvent_startTag tags), readTokens_cons (readEvent_startKey tags),
    readTokens_append hkey, readTokens_cons (readEvent_finishKey tags tag.key),
    readTokens_cons (readEvent_startValue tags tag.key), readTokens_append hvalue,
    readTokens_cons (readEvent_finishValue tags tag.key tag.value),
    readTokens_cons (readEvent_finishTag h hroom)]

theorem readTokens_tagForest {tags added : List S3ObjectTag} (h : ∀ tag ∈ added, tag.IsValid)
    (hroom : tags.length + added.length ≤ maxS3BucketTags) (rest : List Token) :
    (inTagSet tags).readTokens ((tagForest added).tokens ++ rest) =
      (inTagSet (tags ++ added)).readTokens rest := by
  induction added generalizing tags with
  | nil =>
      rw [List.append_nil]
      rfl
  | cons tag added ih =>
      rw [List.forall_mem_cons] at h
      rw [List.length_cons] at hroom
      have htokens : (tagForest (tag :: added)).tokens ++ rest =
          (tagForest [tag]).tokens ++ ((tagForest added).tokens ++ rest) := by
        simp [tagForest, Forest.single, Forest.tokens]
      have hlength : (tags ++ [tag]).length + added.length ≤ maxS3BucketTags := by
        rw [List.length_append, List.length_singleton]
        omega
      rw [htokens, readTokens_tag h.1 (by omega), ih h.2 hlength, List.append_assoc,
        List.singleton_append]

def closed (tags : List S3ObjectTag) : S3BucketTaggingXmlState :=
  ⟨[], true, true, true, none, none, tags, true⟩

theorem readTokens_taggingDocument {tags : List S3ObjectTag}
    (h : CoreLimits maxS3BucketTags tags) :
    initial.readTokens (taggingDocument tags).tokens = .ok (closed tags) := by
  have htokens : (taggingDocument tags).tokens = .declaration :: .start (s3Tag taggingName) ::
      .start (Tag.plain tagSetName) :: ((tagForest tags).tokens ++ [.finish tagSetName,
        .finish taggingName]) := by
    simp [taggingDocument, Xml.Document.tokens, Xml.Document.forest, Forest.single, Forest.tokens,
      textTokens, Tag.plain, s3Tag]
  have hstart : initial.readTokens (taggingDocument tags).tokens = (inTagSet []).readTokens
      ((tagForest tags).tokens ++ [.finish tagSetName, .finish taggingName]) := by
    rw [htokens]
    rfl
  have hcount : ([] : List S3ObjectTag).length + tags.length ≤ maxS3BucketTags := by
    simpa using h.count
  rw [hstart, readTokens_tagForest h.texts hcount]
  rfl

end S3BucketTaggingXmlState

theorem parseS3BucketTaggingXml_taggingDocument (reader : Xml.Reader) (set : S3BucketTagSet) :
    parseS3BucketTaggingXml reader (Utf8.bytes (taggingDocument set.tags).write) = .ok set := by
  have hlimits := withinLimits_taggingDocument set.coreLimits (Nat.le_refl _)
  have hnonempty := (taggingDocument set.tags).bytes_write_ne_nil
  have hfold : (reader.events (Utf8.bytes (taggingDocument set.tags).write)).foldlM
      S3BucketTaggingXmlState.readResult .initial = .ok (.closed set.tags) := by
    rw [Xml.Document.events_write, List.foldlM_map]
    exact S3BucketTaggingXmlState.readTokens_taggingDocument set.coreLimits
  have hfinish : (S3BucketTaggingXmlState.closed set.tags).finish = .ok set := by
    rw [S3BucketTaggingXmlState.finish, andThen_eq_ok_iff, rejectIf_eq_ok_iff]
    refine ⟨by simp [S3BucketTaggingXmlState.closed], ?_⟩
    rw [S3BucketTaggingXmlState.closed, S3TagSet.new_tags]
    rfl
  rw [parseS3BucketTaggingXml, andThen_eq_ok_iff, andThen_eq_ok_iff, rejectIf_eq_ok_iff,
    rejectIf_eq_ok_iff, Utf8.length_bytes, hfold, ok_bind, not_lt]
  exact ⟨hnonempty, hlimits.1, hfinish⟩

theorem renderS3BucketTaggingXml_eq (set : S3BucketTagSet) :
    renderS3BucketTaggingXml set = .ok (taggingDocument set.tags).write := by
  have hvalidate : set.validate.mapError invalidTag = .ok () := by
    rw [S3TagSet.validate_eq_ok]
    rfl
  have hstart : ("<?xml version=\"1.0\" encoding=\"UTF-8\"?><Tagging xmlns=\"" ++
      "http://s3.amazonaws.com/doc/2006-03-01/\"><TagSet>").toList =
      xmlDocumentStart taggingName.text ++ "<TagSet>".toList := by
    decide +kernel
  rw [renderS3BucketTaggingXml, hvalidate, ok_bind, hstart, flatMap_renderTag,
    write_taggingDocument]
  rfl

theorem tagging_roundTrips (reader : Xml.Reader) :
    (∀ (tags : List S3ObjectTag) (set : S3ObjectTags), S3TagSet.new tags = .ok set →
      set.tags = tags ∧
      (∃ output, objectTaggingXml set = .ok output ∧
        parseObjectTaggingXml reader (Utf8.bytes output) = .ok set) ∧
      ∀ headers : HeaderMap, headers.getAll "x-amz-tagging".toList =
          [HeaderValue.ofText (formUrlencoded tags)] →
        parseS3TaggingHeader headers = .ok (some set)) ∧
    (∀ (tags : List S3ObjectTag) (set : S3BucketTagSet), S3TagSet.new tags = .ok set →
      set.tags = tags ∧
      ∃ output, renderS3BucketTaggingXml set = .ok output ∧
        parseS3BucketTaggingXml reader (Utf8.bytes output) = .ok set) ∧
    (∀ (input : List UInt8) (set : S3ObjectTags),
      parseObjectTaggingXml reader input = .ok set → CoreLimits maxS3ObjectTags set.tags) ∧
    (∀ (input : List UInt8) (set : S3BucketTagSet),
      parseS3BucketTaggingXml reader input = .ok set → CoreLimits maxS3BucketTags set.tags) ∧
    (∀ (headers : HeaderMap) (set : S3ObjectTags),
      parseS3TaggingHeader headers = .ok (some set) → CoreLimits maxS3ObjectTags set.tags) := by
  refine ⟨?_, ?_, ?_, ?_, ?_⟩
  · intro tags set hnew
    obtain rfl := S3TagSet.tags_of_new hnew
    refine ⟨rfl, ⟨_, objectTaggingXml_eq set, ?_⟩, ?_⟩
    · exact parseObjectTaggingXml_taggingDocument reader set
    · intro headers hheaders
      exact parseS3TaggingHeader_formUrlencoded set hheaders
  · intro tags set hnew
    obtain rfl := S3TagSet.tags_of_new hnew
    exact ⟨rfl, _, renderS3BucketTaggingXml_eq set,
      parseS3BucketTaggingXml_taggingDocument reader set⟩
  · intro input set _
    exact set.coreLimits
  · intro input set _
    exact set.coreLimits
  · intro headers set _
    exact set.coreLimits

end

@[reducible] def asciiClasses : CharacterClasses where
  isAlphabetic := Char.isAlpha
  isNumeric := Char.isDigit
  assigned := by
    intro c h
    have hbounds : 48 ≤ c.toNat ∧ c.toNat ≤ 122 := by
      have hvalue : c.toNat = c.val.toNat := rfl
      change (decide (65 ≤ c.val ∧ c.val ≤ 90) || (decide (97 ≤ c.val) && decide (c.val ≤ 122)) ||
        (decide (48 ≤ c.val) && decide (c.val ≤ 57))) = true at h
      simp [UInt32.le_iff_toNat_le] at h
      omega
    simp only [isControl, isXml10Character, Bool.or_eq_false_iff, Bool.and_eq_false_iff,
      decide_eq_false_iff_not, Bool.or_eq_true, Bool.and_eq_true, decide_eq_true_eq]
    omega
  ascii _ _ := ⟨rfl, rfl⟩

def exampleTags : List S3ObjectTag :=
  [⟨"stage".toList, "pre prod".toList⟩, ⟨"team:name".toList, []⟩]

def exampleHeaders : HeaderMap :=
  [("x-amz-tagging".toList, HeaderValue.ofText (formUrlencoded exampleTags))]

theorem tagging_roundTrips_example :
    ∃ (set : @S3TagSet asciiClasses maxS3ObjectTags) (output : Text),
      @S3TagSet.tags asciiClasses _ set = exampleTags ∧
      @objectTaggingXml asciiClasses set = .ok output ∧
      @parseObjectTaggingXml asciiClasses Xml.plainReader (Utf8.bytes output) = .ok set ∧
      @parseS3TaggingHeader asciiClasses exampleHeaders = .ok (some set) := by
  have hnew : (@S3TagSet.new asciiClasses maxS3ObjectTags exampleTags).toBool = true := by
    decide +kernel
  obtain ⟨set, hset⟩ := exists_of_toBool hnew
  obtain ⟨htags, ⟨output, hrender, hparse⟩, hheader⟩ :=
    (@tagging_roundTrips asciiClasses Xml.plainReader).1 exampleTags set hset
  exact ⟨set, output, htags, hrender, hparse, hheader exampleHeaders (by decide +kernel)⟩

end MediaHub.Http
