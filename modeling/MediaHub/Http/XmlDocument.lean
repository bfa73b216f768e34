import MediaHub.Core.Cors
import MediaHub.Http.ListObjectsV2
import MediaHub.Xml.Document

namespace MediaHub.Http

open Result
open MediaHub.Core (isXml10Character)

def maxXmlDepth : Nat := 16
def maxXmlNodes : Nat := 40016

inductive S3XmlError where
  | inputTooLarge
  | malformedXml
  | tooManyObjects
  | missingKey
  | invalidXmlCharacter
deriving DecidableEq

structure XmlNode where
  name : Text
  attributes : List (Text × Text)
  text : Text
  children : List XmlNode

/-- The state of the loop in `parse_xml_document`; the innermost node comes first. -/
structure XmlState where
  stack : List XmlNode
  root : Option XmlNode
  nodeCount : Nat
  declarationSeen : Bool

def decodeName (name : List UInt8) : Except S3XmlError Text :=
  match Utf8.ofBytes name with
  | none => .error .malformedXml
  | some name => .ok name

def decodeAttribute (pair : Option Xml.RawAttribute) : Except S3XmlError (Text × Text) :=
  match pair with
  | none => .error .malformedXml
  | some pair => do
      let key ← decodeName pair.key
      match pair.value with
      | none => .error .malformedXml
      | some value => return (key, value)

def decodeAttributes (pairs : List (Option Xml.RawAttribute)) :
    Except S3XmlError (List (Text × Text)) :=
  pairs.mapM decodeAttribute

/-- The character that a reference stands for, if it stands for one. -/
def referencedCharacter (character : Option (Option Char)) (name : Option Text) : Option Char :=
  match character with
  | none => none
  | some (some c) => some c
  | some none => name.bind Xml.resolve

namespace XmlState

def appendNode (state : XmlState) (node : XmlNode) : Except S3XmlError XmlState :=
  match state.stack with
  | parent :: stack =>
      .ok { state with stack := { parent with children := parent.children ++ [node] } :: stack }
  | [] =>
      match state.root with
      | none => .ok { state with root := some node }
      | some _ => .error .malformedXml

def appendText (state : XmlState) (value : Text) : Except S3XmlError XmlState :=
  if value.all isXml10Character = false then .error .malformedXml
  else
    match state.stack with
    | node :: stack => .ok { state with stack := { node with text := node.text ++ value } :: stack }
    | [] => if trim value = [] then .ok state else .error .malformedXml

def appendContent (state : XmlState) (content : Option Text) : Except S3XmlError XmlState :=
  match content with
  | none => .error .malformedXml
  | some value => state.appendText value

def readEvent (state : XmlState) : Xml.Event → Except S3XmlError XmlState
  | .start name pairs => do
      let attributes ← decodeAttributes pairs
      rejectIf (state.stack.length = maxXmlDepth ∨ state.root.isSome = true) .malformedXml
      rejectIf (maxXmlNodes < state.nodeCount + 1) .malformedXml
      let name ← decodeName name
      return { state with
        stack := ⟨name, attributes, [], []⟩ :: state.stack
        nodeCount := state.nodeCount + 1 }
  | .empty name pairs => do
      let attributes ← decodeAttributes pairs
      rejectIf (state.stack.length = maxXmlDepth ∨ maxXmlNodes < state.nodeCount + 1 ∨
        (state.stack = [] ∧ state.root.isSome = true)) .malformedXml
      let name ← decodeName name
      { state with nodeCount := state.nodeCount + 1 }.appendNode ⟨name, attributes, [], []⟩
  | .finish _ =>
      match state.stack with
      | [] => .error .malformedXml
      | node :: stack => { state with stack := stack }.appendNode node
  | .text content => state.appendContent content
  | .cdata content => state.appendContent content
  | .generalRef character name =>
      match referencedCharacter character name with
      | none => .error .malformedXml
      | some character => do
          rejectIf (isXml10Character character = false) .malformedXml
          state.appendText [character]
  | .decl =>
      if state.declarationSeen = false ∧ state.stack = [] ∧ state.root.isNone = true then
        .ok { state with declarationSeen := true }
      else .error .malformedXml
  | .comment => .ok state
  | .docType => .error .malformedXml
  | .pi => .error .malformedXml

def readResult (state : XmlState) (result : Option Xml.Event) : Except S3XmlError XmlState :=
  match result with
  | none => .error .malformedXml
  | some event => state.readEvent event

def finish (state : XmlState) : Except S3XmlError XmlNode :=
  if state.stack ≠ [] then .error .malformedXml
  else
    match state.root with
    | none => .error .malformedXml
    | some root => .ok root

end XmlState

def parseXmlDocument (reader : Xml.Reader) (input : List UInt8) : Except S3XmlError XmlNode := do
  rejectIf (input = []) .malformedXml
  rejectIf (maxS3XmlBodyBytes < input.length) .inputTooLarge
  let state ← (reader.events input).foldlM XmlState.readResult ⟨[], none, 0, false⟩
  state.finish

def escapedCharacter (character : Char) : Text :=
  match character with
  | '&' => "&amp;".toList
  | '<' => "&lt;".toList
  | '>' => "&gt;".toList
  | '"' => "&quot;".toList
  | '\'' => "&apos;".toList
  | _ => [character]

/-- What `push_escaped_xml` and `escape_xml_text` do, with the error that they return for a
character that XML has no place for. -/
def pushEscaped {ε : Type} (invalid : ε) (output value : Text) : Except ε Text :=
  value.foldlM (fun output character => do
    rejectIf (isXml10Character character = false) invalid
    return output ++ escapedCharacter character) output

/-- Without a check of the characters. -/
def escapeS3Xml (value : Text) : Text :=
  if value.any (fun c => "&<>\"'".toList.contains c) = false then value
  else value.flatMap escapedCharacter

/-- `push_element` -/
def pushElement {ε : Type} (invalid : ε) (output name value : Text) : Except ε Text := do
  let output ← pushEscaped invalid (output ++ '<' :: name ++ ['>']) value
  return output ++ "</".toList ++ name ++ ['>']

def s3XmlNamespace : Text := "http://s3.amazonaws.com/doc/2006-03-01/".toList

def xmlDocumentStart (rootName : Text) : Text :=
  "<?xml version=\"1.0\" encoding=\"UTF-8\"?><".toList ++ rootName ++ " xmlns=\"".toList ++
    s3XmlNamespace ++ "\">".toList

end MediaHub.Http
