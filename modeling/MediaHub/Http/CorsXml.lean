import MediaHub.Http.LifecycleXml

namespace MediaHub.Http.CorsXml

open Result
open MediaHub.Core (S3CorsConfiguration S3CorsError S3CorsMethod S3CorsRule isXml10Character)
open Text (isAsciiDigit)

def maxS3CorsDocumentBytes : Nat := 64 * 1024
def maxS3CorsXmlDepth : Nat := 3
def maxS3CorsXmlNodes : Nat := 40001

inductive S3CorsProtocolError where
  | inputTooLarge
  | missingContentMd5
  | invalidDigest
  | badDigest
  | malformedXml
  | invalidConfiguration (error : S3CorsError)
deriving DecidableEq

abbrev CorsResult := Except S3CorsProtocolError

/-- The declaration of a document; a version or an encoding that cannot be read is `none`. -/
structure Declaration where
  version : Option (List UInt8)
  encoding : Option (Option (List UInt8))

def writtenDeclaration : Declaration :=
  ⟨some (Utf8.bytes "1.0".toList), some (some (Utf8.bytes "UTF-8".toList))⟩

/-- A pull reader that also tells what the first declaration of an input says. -/
structure CorsReader extends Xml.Reader where
  declaration : List UInt8 → Declaration
  declares : ∀ tokens, Xml.WellFormed [] false (.declaration :: tokens) →
    declaration (Utf8.bytes (Xml.write (.declaration :: tokens))) = writtenDeclaration

/-- The crates that a Content-MD5 is checked with: padded Base64, and MD5. -/
structure DigestCrates where
  decodeBase64 : List UInt8 → Option (List UInt8)
  md5 : List UInt8 → List UInt8

abbrev S3CorsXmlElement := XmlNode

def malformed {ε α : Type} (result : Except ε α) : CorsResult α :=
  result.mapError fun _ => .malformedXml

def newS3CorsXmlElement (name : List UInt8) (pairs : List (Option Xml.RawAttribute)) :
    CorsResult S3CorsXmlElement := do
  let name ← malformed (decodeName name)
  let attributes ← malformed (decodeAttributes pairs)
  return ⟨name, attributes, [], []⟩

/-- `eq_ignore_ascii_case(b"UTF-8")` -/
def isUtf8Name (encoding : List UInt8) : Bool :=
  (Utf8.ofBytes encoding).any fun name => toAsciiLowercase name = "utf-8".toList

def validateS3CorsXmlDeclaration (declaration : Declaration) : CorsResult Unit := do
  rejectIf (declaration.version ≠ some (Utf8.bytes "1.0".toList)) .malformedXml
  rejectIf (declaration.encoding.all (fun encoding => encoding.any isUtf8Name) = false)
    .malformedXml

/-- The state of the loop in `parse_s3_cors_xml_document`; the innermost element comes first. -/
structure CorsXmlState where
  stack : List S3CorsXmlElement
  root : Option S3CorsXmlElement
  nodeCount : Nat
  declarationAllowed : Bool
  declarationSeen : Bool

namespace CorsXmlState

/-- `attach_s3_cors_xml_element` -/
def attach (state : CorsXmlState) (element : S3CorsXmlElement) : CorsResult CorsXmlState :=
  match state.stack with
  | parent :: stack =>
      .ok { state with stack := { parent with children := parent.children ++ [element] } :: stack }
  | [] =>
      match state.root with
      | none => .ok { state with root := some element }
      | some _ => .error .malformedXml

/-- `append_s3_cors_xml_text` -/
def appendText (state : CorsXmlState) (value : Text) : CorsResult CorsXmlState :=
  match state.stack with
  | element :: stack =>
      .ok { state with stack := { element with text := element.text ++ value } :: stack }
  | [] => if trim value = [] then .ok state else .error .malformedXml

/-- An element begins where there is room for it. -/
def countNode (state : CorsXmlState) : CorsResult CorsXmlState := do
  rejectIf (maxS3CorsXmlDepth ≤ state.stack.length ∨ maxS3CorsXmlNodes < state.nodeCount + 1)
    .malformedXml
  return { state with nodeCount := state.nodeCount + 1, declarationAllowed := false }

def readEvent (declaration : Declaration) (state : CorsXmlState) :
    Xml.Event → CorsResult CorsXmlState
  | .start name pairs => do
      let state ← state.countNode
      let element ← newS3CorsXmlElement name pairs
      return { state with stack := element :: state.stack }
  | .empty name pairs => do
      let state ← state.countNode
      let element ← newS3CorsXmlElement name pairs
      state.attach element
  | .finish _ =>
      match state.stack with
      | [] => .error .malformedXml
      | element :: stack =>
          { state with stack := stack, declarationAllowed := false }.attach element
  | .text none => .error .malformedXml
  | .text (some value) =>
      -- A text that is empty may come before the declaration.
      { state with declarationAllowed := state.declarationAllowed && value.isEmpty }.appendText
        value
  | .cdata none => .error .malformedXml
  | .cdata (some value) => { state with declarationAllowed := false }.appendText value
  | .generalRef character name =>
      match referencedCharacter character name with
      | none => .error .malformedXml
      | some character => do
          rejectIf (isXml10Character character = false) .malformedXml
          { state with declarationAllowed := false }.appendText [character]
  | .decl =>
      if state.declarationAllowed = true ∧ state.declarationSeen = false ∧
          state.stack.isEmpty = true ∧ state.root.isNone = true then do
        validateS3CorsXmlDeclaration declaration
        return { state with declarationAllowed := false, declarationSeen := true }
      else .error .malformedXml
  | .comment => .ok { state with declarationAllowed := false }
  | .docType => .error .malformedXml
  | .pi => .error .malformedXml

def readResult (declaration : Declaration) (state : CorsXmlState) (result : Option Xml.Event) :
    CorsResult CorsXmlState :=
  match result with
  | none => .error .malformedXml
  | some event => state.readEvent declaration event

def finish (state : CorsXmlState) : CorsResult S3CorsXmlElement :=
  match state.stack, state.root with
  | [], some root => .ok root
  | _, _ => .error .malformedXml

end CorsXmlState

def parseS3CorsXmlDocument (reader : CorsReader) (input : List UInt8) :
    CorsResult S3CorsXmlElement := do
  rejectIf (input = []) .malformedXml
  let state ← (reader.events input).foldlM
    (CorsXmlState.readResult (reader.declaration input)) ⟨[], none, 0, true, false⟩
  state.finish

def validateS3CorsRoot (root : S3CorsXmlElement) : CorsResult Unit := do
  rejectIf (root.name ≠ "CORSConfiguration".toList ∨ trim root.text ≠ []) .malformedXml
  rejectIf (root.attributes ≠ [] ∧ root.attributes ≠ [("xmlns".toList, s3XmlNamespace)])
    .malformedXml
  rejectIf (root.children.any (fun child => child.name ≠ "CORSRule".toList) = true) .malformedXml

def validateS3CorsContainer (element : S3CorsXmlElement) : CorsResult Unit :=
  if element.attributes.isEmpty && (trim element.text).isEmpty then .ok ()
  else .error .malformedXml

def requiredS3CorsLeafText (element : S3CorsXmlElement) : CorsResult Text :=
  if element.attributes.isEmpty && element.children.isEmpty then .ok element.text
  else .error .malformedXml

def invalidConfiguration {α : Type} (result : Except S3CorsError α) : CorsResult α :=
  result.mapError .invalidConfiguration

def parseMaxAgeSeconds (text : Text) : CorsResult Nat := do
  rejectIf (text = [] ∨ text.all isAsciiDigit = false) .malformedXml
  match Lifecycle.parseU32 text with
  | some seconds => return seconds
  | none => throw .malformedXml

/-- The locals of `parse_s3_cors_rule`. -/
structure RuleState where
  id : Option Text
  allowedMethods : List S3CorsMethod
  allowedOrigins : List Text
  allowedHeaders : List Text
  exposeHeaders : List Text
  maxAgeSeconds : Option Nat

def RuleState.readChild (state : RuleState) (child : S3CorsXmlElement) : CorsResult RuleState := do
  let text ← requiredS3CorsLeafText child
  if child.name = "ID".toList ∧ state.id = none then
    return { state with id := some text }
  else if child.name = "AllowedMethod".toList then
    let method ← invalidConfiguration (S3CorsMethod.fromStr text)
    return { state with allowedMethods := state.allowedMethods ++ [method] }
  else if child.name = "AllowedOrigin".toList then
    return { state with allowedOrigins := state.allowedOrigins ++ [text] }
  else if child.name = "AllowedHeader".toList then
    return { state with allowedHeaders := state.allowedHeaders ++ [text] }
  else if child.name = "ExposeHeader".toList then
    return { state with exposeHeaders := state.exposeHeaders ++ [text] }
  else if child.name = "MaxAgeSeconds".toList ∧ state.maxAgeSeconds = none then
    let seconds ← parseMaxAgeSeconds text
    return { state with maxAgeSeconds := some seconds }
  else throw .malformedXml

def parseS3CorsRule (element : S3CorsXmlElement) : CorsResult S3CorsRule := do
  validateS3CorsContainer element
  let state ← element.children.foldlM RuleState.readChild ⟨none, [], [], [], [], none⟩
  invalidConfiguration (S3CorsRule.new state.id state.allowedMethods state.allowedOrigins
    state.allowedHeaders state.exposeHeaders state.maxAgeSeconds)

def parseS3CorsConfigurationXml (reader : CorsReader) (input : List UInt8) :
    CorsResult S3CorsConfiguration := do
  rejectIf (maxS3CorsDocumentBytes < input.length) .inputTooLarge
  let root ← parseS3CorsXmlDocument reader input
  validateS3CorsRoot root
  let rules ← root.children.mapM parseS3CorsRule
  invalidConfiguration (S3CorsConfiguration.new rules)

/-- `validate_content_md5` as `validate_s3_cors_content_md5` calls it. -/
def validateS3CorsContentMd5 (crates : DigestCrates) (contentMd5 : Option (List UInt8))
    (input : List UInt8) : CorsResult Unit :=
  match contentMd5 with
  | none => .error .missingContentMd5
  | some encoded =>
      match (crates.decodeBase64 encoded).filter (·.length = 16) with
      | none => .error .invalidDigest
      | some expected => rejectIf (crates.md5 input ≠ expected) .badDigest

/-- Applies the protocol body limit and required Content-MD5 check before XML parsing. -/
def parseS3CorsPutXml (reader : CorsReader) (crates : DigestCrates)
    (contentMd5 : Option (List UInt8)) (input : List UInt8) : CorsResult S3CorsConfiguration := do
  rejectIf (maxS3CorsDocumentBytes < input.length) .inputTooLarge
  validateS3CorsContentMd5 crates contentMd5 input
  parseS3CorsConfigurationXml reader input

/-- What `push_s3_cors_xml_element` adds. -/
def s3CorsXmlElement (name : String) (value : Text) : Text :=
  '<' :: name.toList ++ '>' :: value.flatMap escapedCharacter ++ "</".toList ++ name.toList ++ ['>']

def writeRule (rule : S3CorsRule) : Text :=
  "<CORSRule>".toList ++
    rule.allowedHeaders.flatMap (s3CorsXmlElement "AllowedHeader") ++
    rule.allowedMethods.flatMap
      (fun method => s3CorsXmlElement "AllowedMethod" method.asStr.toList) ++
    rule.allowedOrigins.flatMap (s3CorsXmlElement "AllowedOrigin") ++
    rule.exposeHeaders.flatMap (s3CorsXmlElement "ExposeHeader") ++
    (rule.id.elim [] fun id => s3CorsXmlElement "ID" id) ++
    (rule.maxAgeSeconds.elim [] fun seconds =>
      "<MaxAgeSeconds>".toList ++ Nat.toDigits 10 seconds ++ "</MaxAgeSeconds>".toList) ++
    "</CORSRule>".toList

def renderS3CorsConfigurationXml (configuration : S3CorsConfiguration) : CorsResult Text := do
  invalidConfiguration (Core.validateConfiguration configuration.rules)
  let output :=
    "<?xml version=\"1.0\" encoding=\"UTF-8\"?><CORSConfiguration xmlns=\"".toList ++
      s3XmlNamespace ++ "\">".toList ++ configuration.rules.flatMap writeRule ++
      "</CORSConfiguration>".toList
  rejectIf (maxS3CorsDocumentBytes < Utf8.byteLength output) .inputTooLarge
  return output

end MediaHub.Http.CorsXml
