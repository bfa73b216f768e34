import Mathlib.Data.List.Nodup
import MediaHub.Http.XmlDocument
import MediaHub.Xml.PlainReader

namespace MediaHub.Http

open Result
open MediaHub.Core (isXml10Character)
open Xml (Forest Tag Token normalizeEol contentOf textTokens)

def attributePairs (tag : Tag) : List (Text × Text) :=
  tag.attributes.map fun pair => (pair.key.text, pair.value)

/-- The nodes of a forest, with its texts changed by `f`. -/
def nodes (f : Text → Text) : Forest → List XmlNode
  | .nil => []
  | .cons tag text children next =>
      ⟨tag.name.text, attributePairs tag, f text, nodes f children⟩ :: nodes f next

mutual

/-- A node without the texts. -/
def XmlNode.shape : XmlNode → XmlNode
  | ⟨name, attributes, _, children⟩ => ⟨name, attributes, [], shapes children⟩

def shapes : List XmlNode → List XmlNode
  | [] => []
  | node :: nodes => node.shape :: shapes nodes

end

theorem shapes_nodes (f g : Text → Text) (forest : Forest) :
    shapes (nodes f forest) = shapes (nodes g forest) := by
  induction forest with
  | nil => rfl
  | cons tag text children next ihchildren ihnext =>
      rw [nodes, nodes, shapes, shapes, XmlNode.shape, XmlNode.shape, ihchildren, ihnext]

theorem nodes_eq_iff (f : Text → Text) (forest : Forest) :
    nodes f forest = nodes id forest ↔ ∀ text ∈ forest.texts, f text = text := by
  induction forest with
  | nil => simp [nodes, Forest.texts]
  | cons tag text children next ihchildren ihnext =>
      rw [nodes, nodes, Forest.texts, List.forall_mem_cons, List.forall_mem_append, ← ihchildren,
        ← ihnext]
      simp only [List.cons.injEq, XmlNode.mk.injEq, true_and, id, and_assoc]

theorem escapedCharacter_eq (c : Char) :
    escapedCharacter c = (Xml.entity c).elim [c] fun name => (Token.reference name).write := by
  unfold escapedCharacter
  split
  · decide
  · decide
  · decide
  · decide
  · decide
  · next hamp hlt hgt hquot hapos =>
      rw [Xml.entity, if_neg hamp, if_neg hlt, if_neg hgt, if_neg hquot, if_neg hapos]
      rfl

theorem flatMap_escapedCharacter (value : Text) :
    value.flatMap escapedCharacter = Xml.escape value := by
  unfold Xml.escape
  congr 1
  funext c
  exact escapedCharacter_eq c

theorem pushEscaped_eq_ok_iff {ε : Type} {invalid : ε} {output value written : Text} :
    pushEscaped invalid output value = .ok written ↔
      value.all isXml10Character = true ∧ written = output ++ Xml.escape value := by
  rw [← flatMap_escapedCharacter]
  induction value generalizing output with
  | nil =>
      rw [pushEscaped, List.foldlM_nil, pure_eq_ok_iff]
      simp [eq_comm]
  | cons c value ih =>
      rw [pushEscaped, List.foldlM_cons, bind_eq_ok_iff, List.all_cons, List.flatMap_cons,
        Bool.and_eq_true]
      constructor
      · rintro ⟨next, hnext, hrest⟩
        rw [andThen_eq_ok_iff, rejectIf_eq_ok_iff, pure_eq_ok_iff] at hnext
        obtain ⟨hvalid, rfl⟩ := hnext
        obtain ⟨hall, rfl⟩ := ih.1 hrest
        exact ⟨⟨by simpa using hvalid, hall⟩, List.append_assoc _ _ _⟩
      · rintro ⟨⟨hvalid, hall⟩, rfl⟩
        refine ⟨output ++ escapedCharacter c, ?_, ih.2 ⟨hall, (List.append_assoc _ _ _).symm⟩⟩
        rw [andThen_eq_ok_iff, rejectIf_eq_ok_iff]
        exact ⟨by simp [hvalid], rfl⟩

theorem escapeS3Xml_eq (value : Text) : escapeS3Xml value = Xml.escape value := by
  rw [escapeS3Xml, flatMap_escapedCharacter]
  split_ifs with hplain
  · induction value with
    | nil => rfl
    | cons c value ih =>
        rw [List.any_cons, Bool.or_eq_false_iff] at hplain
        have hentity : Xml.entity c = none := by
          have hc := hplain.1
          simp only [String.reduceToList, List.contains_eq_mem, List.mem_cons, List.not_mem_nil,
            or_false, decide_eq_false_iff_not, not_or] at hc
          simp [Xml.entity, hc]
        rw [Xml.escape_of_none hentity, ← ih hplain.2]
  · rfl

/-- The elements of a document as the renderers write them: texts are escaped, tags are not. -/
def pushForest {ε : Type} (invalid : ε) (output : Text) : Forest → Except ε Text
  | .nil => .ok output
  | .cons tag text children next => do
      let output ← pushEscaped invalid (output ++ (Token.start tag).write) text
      let output ← pushForest invalid output children
      pushForest invalid (output ++ (Token.finish tag.name).write) next

theorem pushForest_eq_ok_iff {ε : Type} {invalid : ε} {output written : Text} {forest : Forest} :
    pushForest invalid output forest = .ok written ↔
      (∀ text ∈ forest.texts, text.all isXml10Character = true) ∧
        written = output ++ forest.write := by
  induction forest generalizing output written with
  | nil =>
      have hwrite : Forest.nil.write = [] := rfl
      rw [pushForest, hwrite, List.append_nil, Except.ok.injEq]
      constructor
      · intro h
        exact ⟨by simp [Forest.texts], h.symm⟩
      · intro h
        exact h.2.symm
  | cons tag text children next ihchildren ihnext =>
      rw [pushForest, bind_eq_ok_iff, Forest.texts, List.forall_mem_cons, List.forall_mem_append,
        Forest.write_cons]
      constructor
      · rintro ⟨_, htext, h⟩
        obtain ⟨_, hchildren, hnext⟩ := bind_eq_ok_iff.1 h
        obtain ⟨hall, rfl⟩ := pushEscaped_eq_ok_iff.1 htext
        obtain ⟨hallchildren, rfl⟩ := ihchildren.1 hchildren
        obtain ⟨hallnext, rfl⟩ := ihnext.1 hnext
        exact ⟨⟨hall, hallchildren, hallnext⟩, by simp only [List.append_assoc]⟩
      · rintro ⟨⟨hall, hallchildren, hallnext⟩, rfl⟩
        refine ⟨_, pushEscaped_eq_ok_iff.2 ⟨hall, rfl⟩, bind_eq_ok_iff.2
          ⟨_, ihchildren.2 ⟨hallchildren, rfl⟩, ihnext.2 ⟨hallnext, ?_⟩⟩⟩
        simp only [List.append_assoc]

/-- An element with a text is what `push_element` writes. -/
theorem pushForest_leaf {ε : Type} (invalid : ε) (output : Text) (name : Xml.Name) (value : Text) :
    pushForest invalid output (Forest.single (Tag.plain name) value .nil) =
      pushElement invalid output name.text value := by
  have hstart : output ++ (Token.start (Tag.plain name)).write =
      output ++ '<' :: name.text ++ ['>'] := by
    simp [Token.write, Tag.write, Tag.plain]
  have hfinish (written : Text) : written ++ (Token.finish name).write =
      written ++ "</".toList ++ name.text ++ ['>'] := by
    simp [Token.write]
  rw [Forest.single, pushForest, pushElement, hstart]
  simp only [pushForest, Tag.plain, hfinish]
  rfl

/-- `push_element` with a text that XML has a place for. -/
theorem pushElement_eq_ok {ε : Type} (invalid : ε) (output : Text) (name : Xml.Name) {value : Text}
    (h : value.all isXml10Character = true) :
    pushElement invalid output name.text value =
      .ok (output ++ (Forest.single (Tag.plain name) value .nil).write) := by
  rw [← pushForest_leaf, pushForest_eq_ok_iff]
  simpa [Forest.single, Forest.texts] using h

namespace XmlState

/-- The loop over tokens and then over whatever events follow. -/
def readTokens (state : XmlState) (tokens : List Token) : Except S3XmlError XmlState :=
  tokens.foldlM (fun state token => state.readEvent token.report) state

theorem readTokens_cons (state : XmlState) (token : Token) (tokens : List Token) :
    state.readTokens (token :: tokens) =
      state.readEvent token.report >>= fun next => next.readTokens tokens :=
  List.foldlM_cons

theorem readTokens_append (state : XmlState) (first second : List Token) :
    state.readTokens (first ++ second) =
      state.readTokens first >>= fun next => next.readTokens second :=
  List.foldlM_append

variable {node : XmlNode} {stack : List XmlNode} {root : Option XmlNode} {nodeCount : Nat}
  {declarationSeen : Bool}

theorem appendText_eq {value : Text} (h : value.all isXml10Character = true) :
    XmlState.appendText ⟨node :: stack, root, nodeCount, declarationSeen⟩ value =
      .ok ⟨{ node with text := node.text ++ value } :: stack, root, nodeCount,
        declarationSeen⟩ := by
  rw [appendText, if_neg (by simp [h])]

end XmlState

/-- A text is read with its ends of lines normalized. -/
theorem readTokens_textTokens {node : XmlNode} {stack : List XmlNode} {nodeCount : Nat}
    {declarationSeen : Bool} {value : Text} (h : value.all isXml10Character = true) :
    XmlState.readTokens ⟨node :: stack, none, nodeCount, declarationSeen⟩ (textTokens value) =
      .ok ⟨{ node with text := node.text ++ normalizeEol value } :: stack, none, nodeCount,
        declarationSeen⟩ := by
  obtain ⟨name, attributes, text, children⟩ := node
  refine Xml.foldlM_textTokens XmlState.readEvent
    (fun text => ⟨⟨name, attributes, text, children⟩ :: stack, none, nodeCount, declarationSeen⟩)
    isXml10Character rfl ?_ ?_ h text
  · intro current value hvalue
    exact XmlState.appendText_eq hvalue
  · intro current name c hresolve hc
    have hreferenced : referencedCharacter (some none) (some name) = some c := hresolve
    have hvalid : rejectIf (isXml10Character c = false) S3XmlError.malformedXml = .ok () := by
      simp [hc]
    simp only [XmlState.readEvent, hreferenced, ok_bind, hvalid]
    refine XmlState.appendText_eq ?_
    simp [hc]

theorem decodeAttributes_report (tag : Tag) :
    decodeAttributes (tag.attributes.map Xml.Attribute.report) = .ok (attributePairs tag) := by
  rw [decodeAttributes, attributePairs]
  induction tag.attributes with
  | nil => rfl
  | cons pair pairs ih =>
      rw [List.map_cons, List.map_cons, mapM_cons_eq_ok_iff]
      refine ⟨_, _, ?_, ih, rfl⟩
      simp only [decodeAttribute, Xml.Attribute.report, decodeName, Utf8.ofBytes_bytes]
      rfl

/-- There is room for the elements below `depth` others and after `count` others. -/
def Fits (depth count : Nat) (forest : Forest) : Prop :=
  depth + forest.height ≤ maxXmlDepth ∧ count + forest.count ≤ maxXmlNodes

instance (depth count : Nat) (forest : Forest) : Decidable (Fits depth count forest) :=
  inferInstanceAs (Decidable (_ ∧ _))

theorem readEvent_start {stack : List XmlNode} {nodeCount : Nat} {declarationSeen : Bool}
    (tag : Tag) :
    XmlState.readEvent ⟨stack, none, nodeCount, declarationSeen⟩ (Token.start tag).report =
      if stack.length ≠ maxXmlDepth ∧ nodeCount + 1 ≤ maxXmlNodes then
        .ok ⟨⟨tag.name.text, attributePairs tag, [], []⟩ :: stack, none, nodeCount + 1,
          declarationSeen⟩
      else .error .malformedXml := by
  have hname : decodeName (Utf8.bytes tag.name.text) = .ok tag.name.text := by
    rw [decodeName, Utf8.ofBytes_bytes]
  simp only [Token.report, XmlState.readEvent, decodeAttributes_report, hname, ok_bind,
    Option.isSome_none, Bool.false_eq_true, or_false, rejectIf]
  by_cases hroom : stack.length ≠ maxXmlDepth ∧ nodeCount + 1 ≤ maxXmlNodes
  · rw [if_pos hroom, if_neg hroom.1, if_neg (Nat.not_lt.2 hroom.2), ok_bind, ok_bind]
    rfl
  · rw [if_neg hroom]
    by_cases hdepth : stack.length = maxXmlDepth
    · rw [if_pos hdepth, error_bind]
    · have hcount : maxXmlNodes < nodeCount + 1 := by omega
      rw [if_neg hdepth, if_pos hcount, ok_bind, error_bind]

theorem readTokens_finish {node : XmlNode} {stack : List XmlNode} {nodeCount : Nat}
    {declarationSeen : Bool} (name : Xml.Name) :
    XmlState.readTokens ⟨node :: stack, none, nodeCount, declarationSeen⟩ [.finish name] =
      XmlState.appendNode ⟨stack, none, nodeCount, declarationSeen⟩ node := by
  rw [XmlState.readTokens_cons]
  exact bind_pure _

/-- An element is read into a node that its parent takes, if there is room. -/
theorem readTokens_element (tag : Tag) {stack : List XmlNode} {nodeCount : Nat}
    {declarationSeen : Bool} {text : Text} {children : Forest}
    (htext : text.all isXml10Character = true) (hdepth : stack.length ≤ maxXmlDepth)
    (hcount : nodeCount ≤ maxXmlNodes)
    (hchildren : ∀ node : XmlNode, stack.length + 1 ≤ maxXmlDepth → nodeCount + 1 ≤ maxXmlNodes →
      XmlState.readTokens ⟨node :: stack, none, nodeCount + 1, declarationSeen⟩ children.tokens =
        if Fits (stack.length + 1) (nodeCount + 1) children then
          .ok ⟨{ node with children := node.children ++ nodes normalizeEol children } :: stack,
            none, nodeCount + 1 + children.count, declarationSeen⟩
        else .error .malformedXml) :
    XmlState.readTokens ⟨stack, none, nodeCount, declarationSeen⟩
        (.start tag :: (textTokens text ++ (children.tokens ++ [.finish tag.name]))) =
      if Fits (stack.length + 1) (nodeCount + 1) children then
        XmlState.appendNode ⟨stack, none, nodeCount + 1 + children.count, declarationSeen⟩
          ⟨tag.name.text, attributePairs tag, normalizeEol text, nodes normalizeEol children⟩
      else .error .malformedXml := by
  rw [XmlState.readTokens_cons, readEvent_start]
  by_cases hroom : stack.length ≠ maxXmlDepth ∧ nodeCount + 1 ≤ maxXmlNodes
  · rw [if_pos hroom, ok_bind, XmlState.readTokens_append, readTokens_textTokens htext, ok_bind,
      XmlState.readTokens_append, hchildren _ (by omega) hroom.2]
    by_cases hfits : Fits (stack.length + 1) (nodeCount + 1) children
    · rw [if_pos hfits, if_pos hfits, ok_bind, readTokens_finish]
      simp only [List.nil_append]
    · rw [if_neg hfits, if_neg hfits, error_bind]
  · have hfits : ¬ Fits (stack.length + 1) (nodeCount + 1) children := by
      rintro ⟨hheight, hnodes⟩
      exact hroom ⟨by omega, by omega⟩
    rw [if_neg hroom, if_neg hfits, error_bind]

/-- Elements are added to the node that they are read into. -/
theorem readTokens_forest {forest : Forest}
    (h : ∀ text ∈ forest.texts, text.all isXml10Character = true) {node : XmlNode}
    {stack : List XmlNode} {nodeCount : Nat} {declarationSeen : Bool}
    (hdepth : stack.length + 1 ≤ maxXmlDepth) (hcount : nodeCount ≤ maxXmlNodes) :
    XmlState.readTokens ⟨node :: stack, none, nodeCount, declarationSeen⟩ forest.tokens =
      if Fits (stack.length + 1) nodeCount forest then
        .ok ⟨{ node with children := node.children ++ nodes normalizeEol forest } :: stack, none,
          nodeCount + forest.count, declarationSeen⟩
      else .error .malformedXml := by
  induction forest generalizing node stack nodeCount with
  | nil =>
      have hfits : Fits (stack.length + 1) nodeCount .nil := ⟨hdepth, hcount⟩
      rw [if_pos hfits, nodes, List.append_nil]
      cases node
      rfl
  | cons tag text children next ihchildren ihnext =>
      rw [Forest.texts, List.forall_mem_cons, List.forall_mem_append] at h
      have htokens : (Forest.cons tag text children next).tokens =
          (.start tag :: (textTokens text ++ (children.tokens ++ [.finish tag.name]))) ++
            next.tokens := by
        simp [Forest.tokens]
      have helement := readTokens_element tag h.1
        (show (node :: stack).length ≤ maxXmlDepth from hdepth) hcount
        fun _ hdepth hcount => ihchildren h.2.1 hdepth hcount
      rw [htokens, XmlState.readTokens_append, helement, List.length_cons]
      by_cases hchildren : Fits (stack.length + 1 + 1) (nodeCount + 1) children
      · have hrest := @ihnext h.2.2 { node with children := node.children ++ [
          ⟨tag.name.text, attributePairs tag, normalizeEol text, nodes normalizeEol children⟩] }
          stack (nodeCount + 1 + children.count) hdepth hchildren.2
        rw [if_pos hchildren]
        refine hrest.trans ?_
        have hiff : Fits (stack.length + 1) (nodeCount + 1 + children.count) next ↔
            Fits (stack.length + 1) nodeCount (.cons tag text children next) := by
          obtain ⟨hheight, hnodes⟩ := hchildren
          simp only [Fits, Forest.height, Forest.count]
          omega
        simp only [hiff, nodes, Forest.count, List.append_assoc, List.singleton_append]
        congr 3
        omega
      · have hfits : ¬ Fits (stack.length + 1) nodeCount (.cons tag text children next) := by
          simp only [Fits, Forest.height, Forest.count] at hchildren ⊢
          omega
        rw [if_neg hchildren, if_neg hfits, error_bind]

def documentNode (f : Text → Text) (document : Xml.Document) : XmlNode :=
  ⟨document.tag.name.text, attributePairs document.tag, f document.text,
    nodes f document.children⟩

theorem documentNode_eq_iff (f : Text → Text) (document : Xml.Document) :
    documentNode f document = documentNode id document ↔
      ∀ text ∈ document.texts, f text = text := by
  rw [documentNode, documentNode, Xml.Document.texts, List.forall_mem_cons,
    ← nodes_eq_iff f document.children]
  simp only [XmlNode.mk.injEq, true_and, id]

theorem shape_documentNode (f g : Text → Text) (document : Xml.Document) :
    (documentNode f document).shape = (documentNode g document).shape := by
  rw [documentNode, documentNode, XmlNode.shape, XmlNode.shape,
    shapes_nodes f g document.children]

/-- A document as the renderers write it. -/
def renderDocument {ε : Type} (invalid : ε) (document : Xml.Document) : Except ε Text :=
  pushForest invalid Token.declaration.write document.forest

theorem renderDocument_eq_ok_iff {ε : Type} {invalid : ε} {document : Xml.Document}
    {output : Text} :
    renderDocument invalid document = .ok output ↔
      (∀ text ∈ document.texts, text.all isXml10Character = true) ∧ output = document.write := by
  rw [renderDocument, pushForest_eq_ok_iff, Xml.Document.texts_forest]
  rfl

def xmlns : Xml.Attribute := ⟨⟨"xmlns".toList, by decide, by decide⟩, s3XmlNamespace, by decide⟩

/-- The tag that a document begins with. -/
def s3Tag (name : Xml.Name) : Tag := ⟨name, [xmlns], List.nodup_singleton _⟩

theorem xmlDocumentStart_eq (name : Xml.Name) :
    xmlDocumentStart name.text = Token.declaration.write ++ (Token.start (s3Tag name)).write := by
  have hstart : "<?xml version=\"1.0\" encoding=\"UTF-8\"?><".toList =
      Token.declaration.write ++ ['<'] := by
    decide
  have hpair : " xmlns=\"".toList ++ s3XmlNamespace ++ "\">".toList = xmlns.write ++ ['>'] := by
    decide
  have htag : (Token.start (s3Tag name)).write = '<' :: (name.text ++ (xmlns.write ++ ['>'])) := by
    rw [Token.write, Tag.write, s3Tag, List.flatMap_singleton, List.append_assoc]
  calc xmlDocumentStart name.text
      = "<?xml version=\"1.0\" encoding=\"UTF-8\"?><".toList ++ (name.text ++
          (" xmlns=\"".toList ++ s3XmlNamespace ++ "\">".toList)) := by
        unfold xmlDocumentStart
        rw [List.append_assoc, List.append_assoc, List.append_assoc, List.append_assoc]
    _ = (Token.declaration.write ++ ['<']) ++ (name.text ++ (xmlns.write ++ ['>'])) :=
        congrArg₂ (· ++ ·) hstart (congrArg (name.text ++ ·) hpair)
    _ = Token.declaration.write ++ (Token.start (s3Tag name)).write := by
        rw [htag, List.append_assoc]
        rfl

/-- A document is within the limits of the parser. -/
def WithinLimits (document : Xml.Document) : Prop :=
  Utf8.byteLength document.write ≤ maxS3XmlBodyBytes ∧ Fits 0 0 document.forest

theorem fits_iff (document : Xml.Document) :
    Fits 0 0 document.forest ↔ Fits 1 1 document.children := by
  simp only [Fits, Xml.Document.forest, Forest.single, Forest.height, Forest.count]
  omega

theorem readTokens_document {document : Xml.Document}
    (h : ∀ text ∈ document.texts, text.all isXml10Character = true) :
    XmlState.readTokens ⟨[], none, 0, false⟩ document.tokens =
      if Fits 0 0 document.forest then
        .ok ⟨[], some (documentNode normalizeEol document), 1 + document.children.count, true⟩
      else .error .malformedXml := by
  rw [Xml.Document.texts, List.forall_mem_cons] at h
  have hdeclaration : XmlState.readEvent ⟨[], none, 0, false⟩ Token.declaration.report =
      .ok ⟨[], none, 0, true⟩ := rfl
  have helement := @readTokens_element document.tag [] 0 true document.text document.children h.1
    (by decide) (by decide) fun _ hdepth hcount => readTokens_forest h.2 hdepth hcount
  have htokens : document.tokens = .declaration :: (.start document.tag ::
      (textTokens document.text ++ (document.children.tokens ++ [.finish document.tag.name]))) :=
    rfl
  rw [htokens, XmlState.readTokens_cons, hdeclaration, ok_bind, helement]
  simp only [fits_iff, List.length_nil, Nat.zero_add]
  rfl

theorem foldlM_readResult (state : XmlState) (tokens : List Token) :
    (tokens.map fun token => some token.report).foldlM XmlState.readResult state =
      state.readTokens tokens := by
  rw [List.foldlM_map]
  rfl

/-- What is read is the document with its ends of lines normalized. -/
theorem parseXmlDocument_write (reader : Xml.Reader) {document : Xml.Document}
    (h : ∀ text ∈ document.texts, text.all isXml10Character = true) {node : XmlNode} :
    parseXmlDocument reader (Utf8.bytes document.write) = .ok node ↔
      WithinLimits document ∧ node = documentNode normalizeEol document := by
  have hnonempty := document.bytes_write_ne_nil
  rw [parseXmlDocument, andThen_eq_ok_iff, andThen_eq_ok_iff, rejectIf_eq_ok_iff,
    rejectIf_eq_ok_iff, Utf8.length_bytes, Xml.Document.events_write, foldlM_readResult,
    readTokens_document h, not_lt, WithinLimits, and_assoc]
  by_cases hfits : Fits 0 0 document.forest
  · rw [if_pos hfits, ok_bind]
    simp [XmlState.finish, hnonempty, hfits, eq_comm]
  · rw [if_neg hfits, error_bind]
    simp [hfits]

theorem xmlText_survives_iff (reader : Xml.Reader) {ε : Type} (invalid : ε)
    (document : Xml.Document)
    (h : ∀ text ∈ document.texts, text.all isXml10Character = true) :
    ∃ output, renderDocument invalid document = .ok output ∧
      (parseXmlDocument reader (Utf8.bytes output) = .ok (documentNode id document) ↔
        (∀ text ∈ document.texts, '\r' ∉ text) ∧ WithinLimits document) ∧
      ∀ node, parseXmlDocument reader (Utf8.bytes output) = .ok node →
        node.shape = (documentNode id document).shape := by
  refine ⟨document.write, renderDocument_eq_ok_iff.2 ⟨h, rfl⟩, ?_, ?_⟩
  · rw [parseXmlDocument_write reader h, eq_comm (a := documentNode id document),
      documentNode_eq_iff, and_comm]
    simp only [Xml.normalizeEol_eq_self_iff]
  · intro node hnode
    obtain ⟨_, rfl⟩ := (parseXmlDocument_write reader h).1 hnode
    exact shape_documentNode _ _ document

def keyName : Xml.Name := ⟨"Key".toList, by decide, by decide⟩

/-- `<Key>` with a key. -/
def keyDocument (key : Text) : Xml.Document where
  tag := Tag.plain keyName
  text := key
  children := .nil

theorem documentNode_keyDocument (f : Text → Text) (key : Text) :
    documentNode f (keyDocument key) = ⟨"Key".toList, [], f key, []⟩ := rfl

theorem xmlText_survives_iff_key :
    ∃ output, renderDocument S3XmlError.invalidXmlCharacter (keyDocument "a<b & 'c'".toList) =
        .ok output ∧
      parseXmlDocument Xml.plainReader (Utf8.bytes output) =
        .ok (documentNode id (keyDocument "a<b & 'c'".toList)) := by
  obtain ⟨output, hrender, hsurvives, _⟩ := xmlText_survives_iff Xml.plainReader
    S3XmlError.invalidXmlCharacter (keyDocument "a<b & 'c'".toList) (by decide +kernel)
  refine ⟨output, hrender, hsurvives.2 ⟨by decide +kernel, ?_⟩⟩
  exact ⟨by decide +kernel, by decide +kernel⟩

/-- A carriage return in a key comes back as a line feed. -/
theorem keyDocument_carriageReturn :
    (∀ text ∈ (keyDocument "a\rb".toList).texts, text.all isXml10Character = true) ∧
      renderDocument S3XmlError.invalidXmlCharacter (keyDocument "a\rb".toList) =
        .ok (keyDocument "a\rb".toList).write ∧
      parseXmlDocument Xml.plainReader (Utf8.bytes (keyDocument "a\rb".toList).write) =
        .ok (documentNode id (keyDocument "a\nb".toList)) ∧
      documentNode id (keyDocument "a\nb".toList) ≠
        documentNode id (keyDocument "a\rb".toList) := by
  have hvalid : ∀ text ∈ (keyDocument "a\rb".toList).texts,
      text.all isXml10Character = true := by
    decide +kernel
  have htext : normalizeEol "a\rb".toList = "a\nb".toList := by decide
  refine ⟨hvalid, renderDocument_eq_ok_iff.2 ⟨hvalid, rfl⟩, ?_, ?_⟩
  · refine (parseXmlDocument_write Xml.plainReader hvalid).2 ⟨⟨?_, ?_⟩, ?_⟩
    · decide +kernel
    · decide +kernel
    · rw [documentNode_keyDocument, documentNode_keyDocument, htext, id]
  · rw [documentNode_keyDocument, documentNode_keyDocument]
    intro h
    exact absurd (congrArg XmlNode.text h) (by decide)

end MediaHub.Http
