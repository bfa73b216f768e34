import MediaHub.Http.ListingReadBack

namespace MediaHub.Http

open Result
open MediaHub.Core (isXml10Character)

def maxDeleteObjects : Nat := 1000

structure DeleteObjectIdentifier where
  key : Text
  versionId : Option Text

structure DeleteObjectsRequest where
  objects : List DeleteObjectIdentifier
  quiet : Bool

structure DeletedObject where
  key : Text
  versionId : Option Text
  deleteMarker : Bool
  deleteMarkerVersionId : Option Text

structure DeleteObjectError where
  key : Text
  versionId : Option Text
  code : Text
  message : Text

structure DeleteResult where
  deleted : List DeletedObject
  errors : List DeleteObjectError

/-- What has been read of an `Object`. -/
structure ObjectFields where
  key : Option Text
  versionId : Option Text

def ObjectFields.readField (fields : ObjectFields) (field : XmlNode) :
    Except S3XmlError ObjectFields :=
  if field.children.isEmpty = false then .error .malformedXml
  else if field.name = "Key".toList ∧ fields.key = none then
    .ok { fields with key := some field.text }
  else if field.name = "VersionId".toList ∧ fields.versionId = none ∧ trim field.text ≠ [] then
    .ok { fields with versionId := some field.text }
  else .error .malformedXml

def readIdentifier (node : XmlNode) : Except S3XmlError DeleteObjectIdentifier := do
  rejectIf (trim node.text ≠ []) .malformedXml
  let fields ← node.children.foldlM ObjectFields.readField ⟨none, none⟩
  match fields.key with
  | none => .error .missingKey
  | some key => do
      rejectIf (key = []) .missingKey
      return ⟨key, fields.versionId⟩

def parseQuiet (value : Text) : Except S3XmlError Bool :=
  if (trim value).map Char.toLower = "true".toList then .ok true
  else if (trim value).map Char.toLower = "false".toList then .ok false
  else .error .malformedXml

/-- The state of the loop in `parse_delete_objects_xml`. -/
structure DeleteObjectsState where
  objects : List DeleteObjectIdentifier
  quiet : Option Bool

def DeleteObjectsState.readChild (state : DeleteObjectsState) (child : XmlNode) :
    Except S3XmlError DeleteObjectsState :=
  if child.name = "Object".toList then do
    let object ← readIdentifier child
    rejectIf (state.objects.length = maxDeleteObjects) .tooManyObjects
    return { state with objects := state.objects ++ [object] }
  else if child.name = "Quiet".toList ∧ state.quiet = none ∧ child.children.isEmpty = true then do
    let quiet ← parseQuiet child.text
    return { state with quiet := some quiet }
  else .error .malformedXml

def parseDeleteObjectsXml (reader : Xml.Reader) (input : List UInt8) :
    Except S3XmlError DeleteObjectsRequest := do
  let root ← parseXmlDocument reader input
  rejectIf (root.name ≠ "Delete".toList ∨ trim root.text ≠ []) .malformedXml
  let state ← root.children.foldlM DeleteObjectsState.readChild ⟨[], none⟩
  rejectIf (state.objects = []) .missingKey
  return ⟨state.objects, state.quiet.getD false⟩

def deletedParts (deleted : DeletedObject) : Parts S3XmlError :=
  .group (elementName "Deleted") (.concat [
    .client (elementName "Key") deleted.key .nil,
    optionally deleted.versionId fun versionId =>
      .client (elementName "VersionId") versionId .nil,
    if deleted.deleteMarker then .plain (elementName "DeleteMarker") (.ok (.ofBool true)) .nil
    else .nil,
    optionally deleted.deleteMarkerVersionId fun versionId =>
      .client (elementName "DeleteMarkerVersionId") versionId .nil]) .nil

def errorParts (error : DeleteObjectError) : Parts S3XmlError :=
  .group (elementName "Error") (.concat [
    .client (elementName "Key") error.key .nil,
    optionally error.versionId fun versionId => .client (elementName "VersionId") versionId .nil,
    .client (elementName "Code") error.code .nil,
    .client (elementName "Message") error.message .nil]) .nil

def DeleteResult.parts (result : DeleteResult) : Parts S3XmlError :=
  .concat [.concat (result.deleted.map deletedParts), .concat (result.errors.map errorParts)]

def deleteResultXml (result : DeleteResult) : Except S3XmlError Text :=
  renderPage .invalidXmlCharacter (elementName "DeleteResult") false result.parts

def IsXmlText (text : Text) : Prop := text.all isXml10Character = true

instance (text : Text) : Decidable (IsXmlText text) := inferInstanceAs (Decidable (_ = true))

/-- The texts of a node and of those below it are ones that XML has a place for. -/
inductive XmlNode.IsValid : XmlNode → Prop
  | intro {name text : Text} {attributes : List (Text × Text)} {children : List XmlNode}
      (htext : IsXmlText text) (hchildren : ∀ child ∈ children, child.IsValid) :
      IsValid ⟨name, attributes, text, children⟩

theorem XmlNode.IsValid.text {node : XmlNode} (h : node.IsValid) : IsXmlText node.text := by
  cases h with
  | intro htext _ => exact htext

theorem XmlNode.IsValid.children {node : XmlNode} (h : node.IsValid) :
    ∀ child ∈ node.children, child.IsValid := by
  cases h with
  | intro _ hchildren => exact hchildren

theorem isXmlText_append {first second : Text} (hfirst : IsXmlText first)
    (hsecond : IsXmlText second) : IsXmlText (first ++ second) := by
  unfold IsXmlText at *
  rw [List.all_append, hfirst, hsecond]
  rfl

namespace XmlState

/-- What the reading loop keeps. -/
structure IsValid (state : XmlState) : Prop where
  stack : ∀ node ∈ state.stack, node.IsValid
  root : ∀ node, state.root = some node → node.IsValid

variable {state next : XmlState}

theorem IsValid.with_nodeCount (h : state.IsValid) (nodeCount : Nat) :
    { state with nodeCount := nodeCount }.IsValid :=
  ⟨h.stack, h.root⟩

theorem IsValid.appendNode {node : XmlNode} (h : state.IsValid) (hnode : node.IsValid)
    (happend : state.appendNode node = .ok next) : next.IsValid := by
  unfold XmlState.appendNode at happend
  split at happend
  · next parent stack hstack =>
      rw [← Except.ok.inj happend]
      have hparent := h.stack parent (hstack ▸ List.mem_cons_self)
      constructor
      · intro other hother
        rcases List.mem_cons.1 hother with rfl | hother
        · constructor
          · exact hparent.text
          · intro child hchild
            rcases List.mem_append.1 hchild with hchild | hchild
            · exact hparent.children child hchild
            · rwa [List.mem_singleton.1 hchild]
        · exact h.stack other (hstack ▸ List.mem_cons_of_mem _ hother)
      · exact h.root
  · split at happend
    · rw [← Except.ok.inj happend]
      constructor
      · exact h.stack
      · intro other hother
        rwa [← Option.some.inj hother]
    · cases happend

theorem IsValid.appendText {value : Text} (h : state.IsValid)
    (happend : state.appendText value = .ok next) : next.IsValid := by
  unfold XmlState.appendText at happend
  split at happend
  · cases happend
  · next hvalid =>
      have hvalue : IsXmlText value := Bool.eq_true_of_not_eq_false hvalid
      split at happend
      · next node stack hstack =>
          rw [← Except.ok.inj happend]
          have hnode := h.stack node (hstack ▸ List.mem_cons_self)
          constructor
          · intro other hother
            rcases List.mem_cons.1 hother with rfl | hother
            · exact .intro (isXmlText_append hnode.text hvalue) hnode.children
            · exact h.stack other (hstack ▸ List.mem_cons_of_mem _ hother)
          · exact h.root
      · split at happend
        · rwa [← Except.ok.inj happend]
        · cases happend

theorem IsValid.appendContent {content : Option Text} (h : state.IsValid)
    (happend : state.appendContent content = .ok next) : next.IsValid := by
  cases content with
  | none => cases happend
  | some value => exact h.appendText happend

theorem isValid_element {name : Text} {attributes : List (Text × Text)} :
    XmlNode.IsValid ⟨name, attributes, [], []⟩ :=
  .intro rfl fun _ h => absurd h List.not_mem_nil

theorem IsValid.readEvent {event : Xml.Event} (h : state.IsValid)
    (hread : state.readEvent event = .ok next) : next.IsValid := by
  cases event with
  | start name pairs =>
      obtain ⟨attributes, _, hread⟩ := bind_eq_ok_iff.1 hread
      obtain ⟨_, hread⟩ := andThen_eq_ok_iff.1 hread
      obtain ⟨_, hread⟩ := andThen_eq_ok_iff.1 hread
      obtain ⟨text, _, hread⟩ := bind_eq_ok_iff.1 hread
      rw [← pure_eq_ok_iff.1 hread]
      constructor
      · intro node hnode
        rcases List.mem_cons.1 hnode with rfl | hnode
        · exact isValid_element
        · exact h.stack node hnode
      · exact h.root
  | empty name pairs =>
      obtain ⟨attributes, _, hread⟩ := bind_eq_ok_iff.1 hread
      obtain ⟨_, hread⟩ := andThen_eq_ok_iff.1 hread
      obtain ⟨text, _, hread⟩ := bind_eq_ok_iff.1 hread
      exact (h.with_nodeCount _).appendNode isValid_element hread
  | finish name =>
      simp only [XmlState.readEvent] at hread
      split at hread
      · cases hread
      · next node stack hstack =>
          have hrest : { state with stack := stack }.IsValid := by
            constructor
            · intro other hother
              exact h.stack other (hstack ▸ List.mem_cons_of_mem _ hother)
            · exact h.root
          exact hrest.appendNode (h.stack node (hstack ▸ List.mem_cons_self)) hread
  | text content => exact h.appendContent hread
  | cdata content => exact h.appendContent hread
  | generalRef character name =>
      simp only [XmlState.readEvent] at hread
      split at hread
      · cases hread
      · exact h.appendText (andThen_eq_ok_iff.1 hread).2
  | decl =>
      simp only [XmlState.readEvent] at hread
      split at hread
      · rw [← Except.ok.inj hread]
        exact ⟨h.stack, h.root⟩
      · cases hread
  | comment => rwa [← Except.ok.inj hread]
  | docType => cases hread
  | pi => cases hread

end XmlState

theorem isValid_parseXmlDocument {reader : Xml.Reader} {input : List UInt8} {root : XmlNode}
    (h : parseXmlDocument reader input = .ok root) : root.IsValid := by
  obtain ⟨_, h⟩ := andThen_eq_ok_iff.1 h
  obtain ⟨_, h⟩ := andThen_eq_ok_iff.1 h
  obtain ⟨state, hread, hfinish⟩ := bind_eq_ok_iff.1 h
  have hstate : state.IsValid := by
    apply foldlM_invariant _ _ hread
    · intro result _ before after hbefore hresult
      cases result with
      | none => cases hresult
      | some event => exact hbefore.readEvent hresult
    · exact ⟨fun _ hmem => absurd hmem List.not_mem_nil, fun _ hroot => nomatch hroot⟩
  unfold XmlState.finish at hfinish
  split at hfinish
  · cases hfinish
  · split at hfinish
    · cases hfinish
    · next node hroot =>
        rw [← Except.ok.inj hfinish]
        exact hstate.root node hroot

/-- An object that a document may name. -/
structure DeleteObjectIdentifier.IsValid (object : DeleteObjectIdentifier) : Prop where
  nonempty : object.key ≠ []
  key : IsXmlText object.key
  versionId : ∀ versionId, object.versionId = some versionId → IsXmlText versionId

structure ObjectFields.IsValid (fields : ObjectFields) : Prop where
  key : ∀ key, fields.key = some key → IsXmlText key
  versionId : ∀ versionId, fields.versionId = some versionId → IsXmlText versionId

theorem isValid_readIdentifier {node : XmlNode} {object : DeleteObjectIdentifier}
    (hnode : node.IsValid) (h : readIdentifier node = .ok object) : object.IsValid := by
  obtain ⟨_, h⟩ := andThen_eq_ok_iff.1 h
  obtain ⟨fields, hread, h⟩ := bind_eq_ok_iff.1 h
  have hfields : fields.IsValid := by
    apply foldlM_invariant _ _ hread
    · intro field hfield before after hbefore hafter
      have htext := (hnode.children field hfield).text
      unfold ObjectFields.readField at hafter
      split_ifs at hafter
      · rw [← Except.ok.inj hafter]
        refine ⟨fun key hkey => ?_, hbefore.versionId⟩
        rwa [← Option.some.inj hkey]
      · rw [← Except.ok.inj hafter]
        refine ⟨hbefore.key, fun versionId hversionId => ?_⟩
        rwa [← Option.some.inj hversionId]
    · constructor
      · exact fun _ hkey => nomatch hkey
      · exact fun _ hversionId => nomatch hversionId
  split at h
  · cases h
  · next key hkey =>
      obtain ⟨hne, h⟩ := andThen_eq_ok_iff.1 h
      rw [← pure_eq_ok_iff.1 h]
      exact ⟨rejectIf_eq_ok_iff.1 hne, hfields.key key hkey, hfields.versionId⟩

theorem isValid_parseDeleteObjectsXml {reader : Xml.Reader} {input : List UInt8}
    {request : DeleteObjectsRequest} (h : parseDeleteObjectsXml reader input = .ok request) :
    ∀ object ∈ request.objects, object.IsValid := by
  obtain ⟨root, hroot, h⟩ := bind_eq_ok_iff.1 h
  obtain ⟨_, h⟩ := andThen_eq_ok_iff.1 h
  obtain ⟨state, hread, h⟩ := bind_eq_ok_iff.1 h
  obtain ⟨_, h⟩ := andThen_eq_ok_iff.1 h
  have hnode := isValid_parseXmlDocument hroot
  rw [← pure_eq_ok_iff.1 h]
  apply foldlM_invariant (P := fun state : DeleteObjectsState =>
    ∀ object ∈ state.objects, object.IsValid) _ _ hread
  · intro child hchild before after hbefore hafter
    unfold DeleteObjectsState.readChild at hafter
    split_ifs at hafter
    · obtain ⟨object, hobject, hafter⟩ := bind_eq_ok_iff.1 hafter
      obtain ⟨_, hafter⟩ := andThen_eq_ok_iff.1 hafter
      rw [← pure_eq_ok_iff.1 hafter]
      intro other hother
      rcases List.mem_append.1 hother with hother | hother
      · exact hbefore other hother
      · rw [List.mem_singleton.1 hother]
        exact isValid_readIdentifier (hnode.children child hchild) hobject
    · obtain ⟨quiet, _, hafter⟩ := bind_eq_ok_iff.1 hafter
      rw [← pure_eq_ok_iff.1 hafter]
      exact hbefore
  · exact fun _ hmem => absurd hmem List.not_mem_nil

structure DeletedObject.IsValid (deleted : DeletedObject) : Prop where
  key : IsXmlText deleted.key
  versionId : ∀ versionId, deleted.versionId = some versionId → IsXmlText versionId
  deleteMarkerVersionId : ∀ versionId, deleted.deleteMarkerVersionId = some versionId →
    IsXmlText versionId

structure DeleteObjectError.IsValid (error : DeleteObjectError) : Prop where
  key : IsXmlText error.key
  versionId : ∀ versionId, error.versionId = some versionId → IsXmlText versionId
  code : IsXmlText error.code
  message : IsXmlText error.message

/-- Parts that are written whatever they follow. -/
structure Parts.Writable {ε : Type} (parts : Parts ε) : Prop where
  formatted : parts.Formatted
  clients : ∀ text ∈ parts.clients, IsXmlText text
  listings : parts.listings = []

namespace Parts

variable {ε : Type}

theorem writable_nil : (nil : Parts ε).Writable :=
  ⟨True.intro, fun _ h => absurd h List.not_mem_nil, rfl⟩

theorem writable_client {name : Xml.Name} {value : Text} (h : IsXmlText value) :
    (client name value nil : Parts ε).Writable := by
  refine ⟨True.intro, fun text htext => ?_, rfl⟩
  rwa [List.mem_singleton.1 htext]

theorem writable_plain {name : Xml.Name} (value : PlainText) :
    (plain name (.ok value) nil : Parts ε).Writable :=
  ⟨⟨rfl, True.intro⟩, fun _ h => absurd h List.not_mem_nil, rfl⟩

theorem writable_optionally {name : Xml.Name} {value : Option Text}
    (h : ∀ text, value = some text → IsXmlText text) :
    (optionally value fun text => client name text nil : Parts ε).Writable := by
  cases value with
  | none => exact writable_nil
  | some text => exact writable_client (h text rfl)

theorem writable_concat {list : List (Parts ε)} (h : ∀ parts ∈ list, parts.Writable) :
    (concat list).Writable := by
  constructor
  · rw [formatted_concat]
    exact fun parts hparts => (h parts hparts).formatted
  · intro text htext
    rw [clients_concat] at htext
    obtain ⟨parts, hparts, htext⟩ := List.mem_flatMap.1 htext
    exact (h parts hparts).clients text htext
  · rw [listings_concat, List.flatMap_eq_nil_iff]
    exact fun parts hparts => (h parts hparts).listings

theorem writable_group {name : Xml.Name} {inner : Parts ε} (h : inner.Writable) :
    (group name inner nil).Writable := by
  constructor
  · exact ⟨h.formatted, True.intro⟩
  · intro text htext
    exact h.clients text (by simpa [clients] using htext)
  · simp [listings, h.listings]

end Parts

theorem writable_deletedParts {deleted : DeletedObject} (h : deleted.IsValid) :
    (deletedParts deleted).Writable := by
  apply Parts.writable_group
  apply Parts.writable_concat
  simp only [List.forall_mem_cons]
  refine ⟨Parts.writable_client h.key, Parts.writable_optionally h.versionId, ?_,
    Parts.writable_optionally h.deleteMarkerVersionId, fun _ hmem => absurd hmem List.not_mem_nil⟩
  split
  · exact Parts.writable_plain _
  · exact Parts.writable_nil

theorem writable_errorParts {error : DeleteObjectError} (h : error.IsValid) :
    (errorParts error).Writable := by
  apply Parts.writable_group
  apply Parts.writable_concat
  simp only [List.forall_mem_cons]
  exact ⟨Parts.writable_client h.key, Parts.writable_optionally h.versionId,
    Parts.writable_client h.code, Parts.writable_client h.message,
    fun _ hmem => absurd hmem List.not_mem_nil⟩

theorem exists_deleteResultXml {result : DeleteResult}
    (hdeleted : ∀ deleted ∈ result.deleted, deleted.IsValid)
    (herrors : ∀ error ∈ result.errors, error.IsValid) :
    ∃ body, deleteResultXml result = .ok body := by
  have hparts : result.parts.Writable := by
    apply Parts.writable_concat
    simp only [List.forall_mem_cons]
    refine ⟨Parts.writable_concat ?_, Parts.writable_concat ?_,
      fun _ hmem => absurd hmem List.not_mem_nil⟩
    · intro parts hparts
      obtain ⟨deleted, hmem, rfl⟩ := List.mem_map.1 hparts
      exact writable_deletedParts (hdeleted deleted hmem)
    · intro parts hparts
      obtain ⟨error, hmem, rfl⟩ := List.mem_map.1 hparts
      exact writable_errorParts (herrors error hmem)
  refine ⟨_, renderPage_eq_ok_iff.2 ⟨hparts.formatted, hparts.clients, ?_, rfl⟩⟩
  rw [hparts.listings]
  exact fun _ hmem => absurd hmem List.not_mem_nil

end MediaHub.Http
