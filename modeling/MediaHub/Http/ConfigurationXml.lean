import MediaHub.Http.XmlReadBack

namespace MediaHub.Http

open Result
open MediaHub.Core (isXml10Character)
open Xml (Forest Tag Token normalizeEol)

inductive S3BucketConfigurationXmlError where
  | malformedXml
  | invalid (message : String)
  | unsupported (message : String)
deriving DecidableEq

/-- Its name is without the prefix. -/
abbrev S3ConfigurationXmlElement := XmlNode

/-- What follows the first colon of a name. -/
def localName (name : List UInt8) : List UInt8 :=
  (Text.splitOnce 58 name).elim name Prod.snd

def newS3ConfigurationXmlElement (name : List UInt8) (pairs : List (Option Xml.RawAttribute)) :
    Except S3BucketConfigurationXmlError S3ConfigurationXmlElement :=
  match decodeName (localName name), decodeAttributes pairs with
  | .ok name, .ok attributes => .ok ⟨name, attributes, [], []⟩
  | _, _ => .error .malformedXml

/-- The state of the loop in `parse_s3_configuration_xml`; the innermost element comes first. -/
structure ConfigurationXmlState where
  stack : List S3ConfigurationXmlElement
  root : Option S3ConfigurationXmlElement
  declarationSeen : Bool

namespace ConfigurationXmlState

def attach (state : ConfigurationXmlState) (element : S3ConfigurationXmlElement) :
    Except S3BucketConfigurationXmlError ConfigurationXmlState :=
  match state.stack with
  | parent :: stack =>
      .ok { state with stack := { parent with children := parent.children ++ [element] } :: stack }
  | [] =>
      match state.root with
      | none => .ok { state with root := some element }
      | some _ => .error .malformedXml

def appendText (state : ConfigurationXmlState) (value : Text) :
    Except S3BucketConfigurationXmlError ConfigurationXmlState :=
  match state.stack with
  | element :: stack =>
      .ok { state with stack := { element with text := element.text ++ value } :: stack }
  | [] => if trim value = [] then .ok state else .error .malformedXml

def appendContent (state : ConfigurationXmlState) (content : Option Text) :
    Except S3BucketConfigurationXmlError ConfigurationXmlState :=
  match content with
  | none => .error .malformedXml
  | some value => state.appendText value

def readEvent (state : ConfigurationXmlState) :
    Xml.Event → Except S3BucketConfigurationXmlError ConfigurationXmlState
  | .start name pairs => do
      let element ← newS3ConfigurationXmlElement name pairs
      return { state with stack := element :: state.stack }
  | .empty name pairs => do
      let element ← newS3ConfigurationXmlElement name pairs
      state.attach element
  | .finish _ =>
      match state.stack with
      | [] => .error .malformedXml
      | element :: stack => { state with stack := stack }.attach element
  | .text content => state.appendContent content
  | .cdata content => state.appendContent content
  | .generalRef character name =>
      match referencedCharacter character name with
      | none => .error .malformedXml
      | some character => do
          rejectIf (isXml10Character character = false) .malformedXml
          state.appendText [character]
  | .decl =>
      if state.declarationSeen = false ∧ state.stack.isEmpty = true ∧ state.root.isNone = true then
        .ok { state with declarationSeen := true }
      else .error .malformedXml
  | .comment => .ok state
  | .docType => .error .malformedXml
  | .pi => .error .malformedXml

def readResult (state : ConfigurationXmlState) (result : Option Xml.Event) :
    Except S3BucketConfigurationXmlError ConfigurationXmlState :=
  match result with
  | none => .error .malformedXml
  | some event => state.readEvent event

def finish (state : ConfigurationXmlState) :
    Except S3BucketConfigurationXmlError S3ConfigurationXmlElement :=
  match state.stack, state.root with
  | [], some root => .ok root
  | _, _ => .error .malformedXml

end ConfigurationXmlState

def parseS3ConfigurationXml (reader : Xml.Reader) (input : List UInt8) :
    Except S3BucketConfigurationXmlError S3ConfigurationXmlElement := do
  rejectIf (input = [] ∨ maxS3BucketConfigurationBytes < input.length) .malformedXml
  let state ← (reader.events input).foldlM ConfigurationXmlState.readResult ⟨[], none, false⟩
  state.finish

def validateS3ConfigurationRoot (element : S3ConfigurationXmlElement) (expectedName : String) :
    Except S3BucketConfigurationXmlError Unit := do
  rejectIf (element.name ≠ expectedName.toList ∨ trim element.text ≠ []) .malformedXml
  rejectIf (element.attributes ≠ [] ∧
    element.attributes ≠ [("xmlns".toList, s3XmlNamespace)]) .malformedXml

def validateS3Container (element : S3ConfigurationXmlElement) :
    Except S3BucketConfigurationXmlError Unit :=
  rejectIf (element.attributes ≠ [] ∨ trim element.text ≠ []) .malformedXml

def s3LeafText (element : S3ConfigurationXmlElement) :
    Except S3BucketConfigurationXmlError Text :=
  if element.attributes.isEmpty && element.children.isEmpty then .ok (trim element.text)
  else .error .malformedXml

def requiredS3LeafText (element : S3ConfigurationXmlElement) :
    Except S3BucketConfigurationXmlError Text := do
  let value ← s3LeafText element
  rejectIf (value = []) .malformedXml
  return value

/-- A name without a prefix. -/
def Unprefixed (tag : Tag) : Prop :=
  localName (Utf8.bytes tag.name.text) = Utf8.bytes tag.name.text

instance (tag : Tag) : Decidable (Unprefixed tag) := inferInstanceAs (Decidable (_ = _))

namespace ConfigurationXmlState

def readTokens (state : ConfigurationXmlState) (tokens : List Token) :
    Except S3BucketConfigurationXmlError ConfigurationXmlState :=
  tokens.foldlM (fun state token => state.readEvent token.report) state

theorem readTokens_cons (state : ConfigurationXmlState) (token : Token) (tokens : List Token) :
    state.readTokens (token :: tokens) =
      state.readEvent token.report >>= fun next => next.readTokens tokens :=
  List.foldlM_cons

theorem readTokens_append (state : ConfigurationXmlState) (first second : List Token) :
    state.readTokens (first ++ second) =
      state.readTokens first >>= fun next => next.readTokens second :=
  List.foldlM_append

theorem foldlM_readResult (state : ConfigurationXmlState) (tokens : List Token) :
    (tokens.map fun token => some token.report).foldlM readResult state =
      state.readTokens tokens := by
  rw [List.foldlM_map]
  rfl

variable {element : S3ConfigurationXmlElement} {stack : List S3ConfigurationXmlElement}
  {root : Option S3ConfigurationXmlElement} {declarationSeen : Bool}

theorem isXml10Character_resolve {name : Text} {c : Char} (h : Xml.resolve name = some c) :
    isXml10Character c = true := by
  unfold Xml.resolve at h
  split_ifs at h
  all_goals
    obtain rfl := Option.some.inj h
    decide

theorem readTokens_textTokens (value : Text) :
    readTokens ⟨element :: stack, root, declarationSeen⟩ (Xml.textTokens value) =
      .ok ⟨{ element with text := element.text ++ normalizeEol value } :: stack, root,
        declarationSeen⟩ := by
  obtain ⟨name, attributes, text, children⟩ := element
  have hall : value.all (fun _ => true) = true := by simp
  refine Xml.foldlM_textTokens readEvent
    (fun text => ⟨⟨name, attributes, text, children⟩ :: stack, root, declarationSeen⟩)
    (fun _ => true) rfl (fun _ _ _ => rfl) ?_ hall text
  intro current name c hresolve _
  have hreferenced : referencedCharacter (some none) (some name) = some c := hresolve
  have hvalid : rejectIf (isXml10Character c = false)
      S3BucketConfigurationXmlError.malformedXml = .ok () := by
    simp [isXml10Character_resolve hresolve]
  simp only [readEvent, hreferenced, ok_bind, hvalid]
  rfl

theorem readEvent_start (state : ConfigurationXmlState) {tag : Tag} (h : Unprefixed tag) :
    state.readEvent (Token.start tag).report = .ok { state with
      stack := ⟨tag.name.text, attributePairs tag, [], []⟩ :: state.stack } := by
  have hname : decodeName (localName (Utf8.bytes tag.name.text)) = .ok tag.name.text := by
    rw [h, decodeName, Utf8.ofBytes_bytes]
  simp only [Token.report, readEvent, newS3ConfigurationXmlElement, hname,
    decodeAttributes_report, ok_bind]
  rfl

/-- An element is read into a node that its parent takes. -/
theorem readTokens_element {tag : Tag} (htag : Unprefixed tag) {text : Text} {children : Forest}
    (hchildren : ∀ element : S3ConfigurationXmlElement,
      readTokens ⟨element :: stack, root, declarationSeen⟩ children.tokens =
        .ok ⟨{ element with children := element.children ++ nodes normalizeEol children } :: stack,
          root, declarationSeen⟩) :
    readTokens ⟨stack, root, declarationSeen⟩
        (.start tag :: (Xml.textTokens text ++ (children.tokens ++ [.finish tag.name]))) =
      attach ⟨stack, root, declarationSeen⟩
        ⟨tag.name.text, attributePairs tag, normalizeEol text, nodes normalizeEol children⟩ := by
  rw [readTokens_cons, readEvent_start _ htag, ok_bind, readTokens_append, readTokens_textTokens,
    ok_bind, readTokens_append, hchildren, ok_bind, readTokens_cons]
  simp only [List.nil_append]
  exact bind_pure _

/-- Elements are added to the one that they are read into. -/
theorem readTokens_forest {forest : Forest} (h : forest.AllTags Unprefixed)
    (element : S3ConfigurationXmlElement) (stack : List S3ConfigurationXmlElement) :
    readTokens ⟨element :: stack, root, declarationSeen⟩ forest.tokens =
      .ok ⟨{ element with children := element.children ++ nodes normalizeEol forest } :: stack,
        root, declarationSeen⟩ := by
  induction forest generalizing element stack with
  | nil =>
      rw [nodes, List.append_nil]
      cases element
      rfl
  | cons tag text children next ihchildren ihnext =>
      obtain ⟨htag, hchildren, hnext⟩ := h
      have htokens : (Forest.cons tag text children next).tokens =
          (.start tag :: (Xml.textTokens text ++ (children.tokens ++ [.finish tag.name]))) ++
            next.tokens := by
        simp [Forest.tokens]
      rw [htokens, readTokens_append,
        readTokens_element htag fun inner => ihchildren hchildren inner (element :: stack)]
      refine (ihnext hnext _ stack).trans ?_
      simp only [nodes, List.append_assoc, List.singleton_append]

end ConfigurationXmlState

/-- What is read is the document with its ends of lines normalized. -/
theorem parseS3ConfigurationXml_write (reader : Xml.Reader) {document : Xml.Document}
    (h : document.forest.AllTags Unprefixed) :
    parseS3ConfigurationXml reader (Utf8.bytes document.write) =
      if maxS3BucketConfigurationBytes < Utf8.byteLength document.write then .error .malformedXml
      else .ok (documentNode normalizeEol document) := by
  obtain ⟨htag, hchildren, -⟩ := h
  have hdeclaration : ConfigurationXmlState.readEvent ⟨[], none, false⟩ Token.declaration.report =
      .ok ⟨[], none, true⟩ := rfl
  have htokens : document.tokens = .declaration :: (.start document.tag ::
      (Xml.textTokens document.text ++
        (document.children.tokens ++ [.finish document.tag.name]))) :=
    rfl
  have helement := @ConfigurationXmlState.readTokens_element [] none true document.tag htag
    document.text document.children
    fun element => ConfigurationXmlState.readTokens_forest hchildren element []
  rw [parseS3ConfigurationXml, rejectIf, Utf8.length_bytes]
  simp only [document.bytes_write_ne_nil, false_or]
  split
  · rfl
  · rw [ok_bind, Xml.Document.events_write, ConfigurationXmlState.foldlM_readResult, htokens,
      ConfigurationXmlState.readTokens_cons, hdeclaration, ok_bind, helement]
    rfl

end MediaHub.Http
