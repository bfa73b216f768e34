import Mathlib.Algebra.BigOperators.Group.List.Basic
import Mathlib.Algebra.Group.Action.Defs
import MediaHub.Http.CorsXml
import MediaHub.Http.LifecycleWriting
import MediaHub.Xml.PlainReader

namespace MediaHub.Http.CorsXml

open Result
open MediaHub.Core (S3CorsConfiguration S3CorsError S3CorsMethod S3CorsRule isXml10Character)
open Lifecycle (leaf branch optional elementBytes escapedBytes Takes WritesFirst)
open Xml (Forest Tag Token normalizeEol)
open Text (isAsciiDigit)

def corsConfigurationName : Xml.Name := ⟨"CORSConfiguration".toList, by decide, by decide⟩
def corsRuleName : Xml.Name := ⟨"CORSRule".toList, by decide, by decide⟩
def allowedHeaderName : Xml.Name := ⟨"AllowedHeader".toList, by decide, by decide⟩
def allowedMethodName : Xml.Name := ⟨"AllowedMethod".toList, by decide, by decide⟩
def allowedOriginName : Xml.Name := ⟨"AllowedOrigin".toList, by decide, by decide⟩
def exposeHeaderName : Xml.Name := ⟨"ExposeHeader".toList, by decide, by decide⟩
def idName : Xml.Name := ⟨"ID".toList, Eq.refl true, Eq.refl true⟩
def maxAgeSecondsName : Xml.Name := ⟨"MaxAgeSeconds".toList, by decide, by decide⟩

/-- Elements of one name, each with a text, before others. -/
def leaves (name : Xml.Name) (texts : List Text) (next : Forest) : Forest :=
  texts.foldr (leaf name) next

def methodTexts (rule : S3CorsRule) : List Text :=
  rule.allowedMethods.map fun method => method.asStr.toList

def ruleForest (rule : S3CorsRule) : Forest :=
  leaves allowedHeaderName rule.allowedHeaders
    (leaves allowedMethodName (methodTexts rule)
      (leaves allowedOriginName rule.allowedOrigins
        (leaves exposeHeaderName rule.exposeHeaders
          (optional rule.id (leaf idName)
            (optional rule.maxAgeSeconds
              (fun seconds => leaf maxAgeSecondsName (Nat.toDigits 10 seconds)) .nil)))))

def rulesForest : List S3CorsRule → Forest
  | [] => .nil
  | rule :: rules => branch corsRuleName (ruleForest rule) (rulesForest rules)

def xmlDocument (configuration : S3CorsConfiguration) : Xml.Document where
  tag := s3Tag corsConfigurationName
  text := []
  children := rulesForest configuration.rules

theorem writesFirst_element {name : String} {elementName : Xml.Name}
    (h : elementName.text = name.toList) (text : Text) :
    WritesFirst (leaf elementName text) (s3CorsXmlElement name text) := by
  intro next
  rw [Lifecycle.write_leaf, s3CorsXmlElement, flatMap_escapedCharacter, ← h]
  simp [Token.write, Tag.write, Tag.plain]

theorem writesFirst_leaves {name : String} {elementName : Xml.Name}
    (h : elementName.text = name.toList) (texts : List Text) :
    WritesFirst (leaves elementName texts) (texts.flatMap (s3CorsXmlElement name)) := by
  intro next
  induction texts with
  | nil => rfl
  | cons text texts ih =>
      have hnext := writesFirst_element h text (leaves elementName texts next)
      rw [ih] at hnext
      rw [List.flatMap_cons, List.append_assoc]
      exact hnext

theorem writesFirst_maxAge (seconds : Nat) :
    WritesFirst (leaf maxAgeSecondsName (Nat.toDigits 10 seconds))
      ("<MaxAgeSeconds>".toList ++ Nat.toDigits 10 seconds ++ "</MaxAgeSeconds>".toList) := by
  have hwritten := @Lifecycle.writesFirst_leaf maxAgeSecondsName "<MaxAgeSeconds>".toList
    "</MaxAgeSeconds>".toList (by decide) (by decide) (Nat.toDigits 10 seconds)
  rwa [Lifecycle.escape_dateCharacters fun _ => Lifecycle.mem_dateCharacters_of_toDigits]
    at hwritten

theorem write_ruleForest (rule : S3CorsRule) :
    (Token.start (Tag.plain corsRuleName)).write ++ (ruleForest rule).write ++
      (Token.finish corsRuleName).write = writeRule rule := by
  have hopening : (Token.start (Tag.plain corsRuleName)).write = "<CORSRule>".toList := by decide
  have hclosing : (Token.finish corsRuleName).write = "</CORSRule>".toList := by decide
  have hmethods : (methodTexts rule).flatMap (s3CorsXmlElement "AllowedMethod") =
      rule.allowedMethods.flatMap
        fun method => s3CorsXmlElement "AllowedMethod" method.asStr.toList :=
    List.flatMap_map _ _ _
  have hid : ∀ id, WritesFirst (leaf idName id) (s3CorsXmlElement "ID" id) :=
    writesFirst_element (by decide)
  unfold writeRule
  rw [ruleForest, @writesFirst_leaves "AllowedHeader" allowedHeaderName (by decide),
    @writesFirst_leaves "AllowedMethod" allowedMethodName (by decide),
    @writesFirst_leaves "AllowedOrigin" allowedOriginName (by decide),
    @writesFirst_leaves "ExposeHeader" exposeHeaderName (by decide), Lifecycle.write_optional hid,
    Lifecycle.write_optional writesFirst_maxAge, hopening, hclosing, hmethods, Forest.write_nil]
  simp only [List.append_assoc, List.append_nil]

theorem write_rulesForest (rules : List S3CorsRule) :
    (rulesForest rules).write = rules.flatMap writeRule := by
  induction rules with
  | nil => rfl
  | cons rule rules ih =>
      rw [rulesForest, Lifecycle.write_branch, List.flatMap_cons, ih, ← write_ruleForest]
      simp only [List.append_assoc]

def leavesBytes (name : Xml.Name) (texts : List Text) : Nat :=
  (texts.map fun text => elementBytes name (escapedBytes text)).sum

def ruleBytes (rule : S3CorsRule) : Nat :=
  elementBytes corsRuleName
    (leavesBytes allowedHeaderName rule.allowedHeaders +
      (leavesBytes allowedMethodName (methodTexts rule) +
        (leavesBytes allowedOriginName rule.allowedOrigins +
          (leavesBytes exposeHeaderName rule.exposeHeaders +
            ((rule.id.elim 0 fun id => elementBytes idName (escapedBytes id)) +
              rule.maxAgeSeconds.elim 0 fun seconds =>
                elementBytes maxAgeSecondsName (Nat.toDigits 10 seconds).length)))))

/-- The declaration and the namespace are 86 bytes. -/
def configurationBytes (configuration : S3CorsConfiguration) : Nat :=
  86 + elementBytes corsConfigurationName (configuration.rules.map ruleBytes).sum

theorem takes_leaves (name : Xml.Name) (texts : List Text) :
    Takes (leaves name texts) (leavesBytes name texts) := by
  intro next
  induction texts with
  | nil => exact (Nat.zero_add _).symm
  | cons text texts ih =>
      have hfirst := @Lifecycle.takes_leaf name text _ rfl (leaves name texts next)
      rw [ih, ← Nat.add_assoc] at hfirst
      rw [leavesBytes, List.map_cons, List.sum_cons]
      exact hfirst

theorem byteLength_ruleForest (rule : S3CorsRule) :
    elementBytes corsRuleName (Utf8.byteLength (ruleForest rule).write) = ruleBytes rule := by
  have hid := @Lifecycle.takes_optional _ rule.id (leaf idName) _
    fun id => Lifecycle.takes_leaf idName rfl
  have hmaxAge := @Lifecycle.takes_optional _ rule.maxAgeSeconds
    (fun seconds => leaf maxAgeSecondsName (Nat.toDigits 10 seconds)) _
    fun seconds => Lifecycle.takes_leaf maxAgeSecondsName (Lifecycle.escapedBytes_toDigits seconds)
  rw [ruleForest, takes_leaves, takes_leaves, takes_leaves, takes_leaves, hid, hmaxAge.alone]
  rfl

theorem byteLength_rulesForest (rules : List S3CorsRule) :
    Utf8.byteLength (rulesForest rules).write = (rules.map ruleBytes).sum := by
  induction rules with
  | nil => rfl
  | cons rule rules ih =>
      rw [rulesForest, Lifecycle.takes_branch corsRuleName rfl, ih, byteLength_ruleForest,
        List.map_cons, List.sum_cons]

theorem byteLength_xmlDocument (configuration : S3CorsConfiguration) :
    Utf8.byteLength (xmlDocument configuration).write = configurationBytes configuration := by
  have hstart : Utf8.byteLength Token.declaration.write +
      Utf8.byteLength (Token.start (s3Tag corsConfigurationName)).write = 105 := by
    decide
  have hname : Utf8.byteLength corsConfigurationName.text = 17 := by decide
  have hempty : Xml.escape [] = [] := rfl
  rw [Xml.Document.write, Xml.Document.forest, Forest.single, Forest.write_cons, xmlDocument,
    hempty, Forest.write_nil, List.append_nil, List.nil_append, Utf8.byteLength_append,
    Utf8.byteLength_append, Utf8.byteLength_append, Lifecycle.byteLength_finish,
    byteLength_rulesForest, configurationBytes, elementBytes]
  simp only [s3Tag] at hstart ⊢
  omega

theorem renderS3CorsConfigurationXml_eq (configuration : S3CorsConfiguration) :
    renderS3CorsConfigurationXml configuration =
      if maxS3CorsDocumentBytes < configurationBytes configuration then .error .inputTooLarge
      else .ok (xmlDocument configuration).write := by
  have hstart :
      "<?xml version=\"1.0\" encoding=\"UTF-8\"?><CORSConfiguration xmlns=\"".toList ++
        s3XmlNamespace ++ "\">".toList = xmlDocumentStart corsConfigurationName.text := by
    decide
  have hclosing : "</CORSConfiguration>".toList = (Token.finish corsConfigurationName).write := by
    decide
  have hempty : Xml.escape [] = [] := rfl
  have houtput : xmlDocumentStart corsConfigurationName.text ++
      configuration.rules.flatMap writeRule ++ (Token.finish corsConfigurationName).write =
      (xmlDocument configuration).write := by
    rw [xmlDocumentStart_eq, ← write_rulesForest, Xml.Document.write, Xml.Document.forest,
      Forest.single, Forest.write_cons, Forest.write_nil, List.append_nil, xmlDocument, hempty,
      List.nil_append]
    simp only [List.append_assoc]
    rfl
  have hvalid : invalidConfiguration (Core.validateConfiguration configuration.rules) = .ok () := by
    rw [configuration.valid]
    rfl
  unfold renderS3CorsConfigurationXml
  rw [hvalid, ok_bind, hstart, hclosing, houtput]
  dsimp only
  rw [byteLength_xmlDocument, rejectIf]
  split
  · rfl
  · rfl

namespace CorsXmlState

/-- The state between the first tag of a written document and the last one. -/
def reading (stack : List S3CorsXmlElement) (nodeCount : Nat) : CorsXmlState :=
  ⟨stack, none, nodeCount, false, true⟩

variable {declaration : Declaration}

def readTokens (declaration : Declaration) (state : CorsXmlState) (tokens : List Token) :
    CorsResult CorsXmlState :=
  tokens.foldlM (fun state token => state.readEvent declaration token.report) state

theorem readTokens_cons (state : CorsXmlState) (token : Token) (tokens : List Token) :
    readTokens declaration state (token :: tokens) =
      state.readEvent declaration token.report >>= fun next =>
        readTokens declaration next tokens :=
  List.foldlM_cons

theorem readTokens_append (state : CorsXmlState) (first second : List Token) :
    readTokens declaration state (first ++ second) =
      readTokens declaration state first >>= fun next => readTokens declaration next second :=
  List.foldlM_append

theorem foldlM_readResult (state : CorsXmlState) (tokens : List Token) :
    (tokens.map fun token => some token.report).foldlM (readResult declaration) state =
      readTokens declaration state tokens := by
  rw [List.foldlM_map]
  rfl

variable {element : S3CorsXmlElement} {stack : List S3CorsXmlElement} {nodeCount : Nat}

theorem readTokens_textTokens (value : Text) :
    readTokens declaration (reading (element :: stack) nodeCount) (Xml.textTokens value) =
      .ok (reading ({ element with text := element.text ++ normalizeEol value } :: stack)
        nodeCount) := by
  obtain ⟨name, attributes, text, children⟩ := element
  have hall : value.all (fun _ => true) = true := by simp
  refine Xml.foldlM_textTokens (fun state event => state.readEvent declaration event)
    (fun text => reading (⟨name, attributes, text, children⟩ :: stack) nodeCount)
    (fun _ => true) rfl (fun _ _ _ => rfl) ?_ hall text
  intro current name c hresolve _
  have hreferenced : referencedCharacter (some none) (some name) = some c := hresolve
  have hvalid : rejectIf (isXml10Character c = false) S3CorsProtocolError.malformedXml =
      .ok () := by
    simp [ConfigurationXmlState.isXml10Character_resolve hresolve]
  simp only [readEvent, hreferenced, ok_bind, hvalid]
  rfl

/-- There is room for the elements below `depth` others and after `count` others. -/
def Fits (depth count : Nat) (forest : Forest) : Prop :=
  depth + forest.height ≤ maxS3CorsXmlDepth ∧ count + forest.count ≤ maxS3CorsXmlNodes

theorem readEvent_start (tag : Tag) (hdepth : stack.length < maxS3CorsXmlDepth)
    (hcount : nodeCount + 1 ≤ maxS3CorsXmlNodes) :
    (reading stack nodeCount).readEvent declaration (Token.start tag).report =
      .ok (reading (⟨tag.name.text, attributePairs tag, [], []⟩ :: stack) (nodeCount + 1)) := by
  have hname : decodeName (Utf8.bytes tag.name.text) = .ok tag.name.text := by
    rw [decodeName, Utf8.ofBytes_bytes]
  have hroom : (reading stack nodeCount).countNode = .ok (reading stack (nodeCount + 1)) := by
    have hnot : ¬ (maxS3CorsXmlDepth ≤ stack.length ∨ maxS3CorsXmlNodes < nodeCount + 1) := by
      omega
    rw [countNode, rejectIf]
    exact congrArg (· >>= _) (if_neg hnot)
  simp only [Token.report, readEvent, hroom, ok_bind, newS3CorsXmlElement, hname,
    decodeAttributes_report]
  rfl

/-- An element is read into a node that its parent takes. -/
theorem readTokens_element (tag : Tag) {text : Text} {children : Forest}
    (hfits : Fits (stack.length + 1) (nodeCount + 1) children)
    (hchildren : ∀ element : S3CorsXmlElement,
      readTokens declaration (reading (element :: stack) (nodeCount + 1)) children.tokens =
        .ok (reading ({ element with
          children := element.children ++ nodes normalizeEol children } :: stack)
          (nodeCount + 1 + children.count))) :
    readTokens declaration (reading stack nodeCount)
        (.start tag :: (Xml.textTokens text ++ (children.tokens ++ [.finish tag.name]))) =
      attach (reading stack (nodeCount + 1 + children.count))
        ⟨tag.name.text, attributePairs tag, normalizeEol text, nodes normalizeEol children⟩ := by
  obtain ⟨hdepth, hcount⟩ := hfits
  rw [readTokens_cons, readEvent_start tag (by omega) (by omega), ok_bind, readTokens_append,
    readTokens_textTokens, ok_bind, readTokens_append, hchildren, ok_bind, readTokens_cons]
  simp only [List.nil_append]
  exact bind_pure _

/-- Elements are added to the one that they are read into. -/
theorem readTokens_forest {forest : Forest} (hfits : Fits (stack.length + 1) nodeCount forest)
    (element : S3CorsXmlElement) :
    readTokens declaration (reading (element :: stack) nodeCount) forest.tokens =
      .ok (reading ({ element with
        children := element.children ++ nodes normalizeEol forest } :: stack)
        (nodeCount + forest.count)) := by
  induction forest generalizing element stack nodeCount with
  | nil =>
      rw [nodes, List.append_nil]
      cases element
      rfl
  | cons tag text children next ihchildren ihnext =>
      obtain ⟨hdepth, hcount⟩ := hfits
      rw [Forest.height] at hdepth
      rw [Forest.count] at hcount
      have hinner : Fits ((element :: stack).length + 1) (nodeCount + 1) children := by
        rw [List.length_cons]
        exact ⟨by omega, by omega⟩
      have hnext : Fits (stack.length + 1) (nodeCount + 1 + children.count) next :=
        ⟨by omega, by omega⟩
      have htokens : (Forest.cons tag text children next).tokens =
          (.start tag :: (Xml.textTokens text ++ (children.tokens ++ [.finish tag.name]))) ++
            next.tokens := by
        simp [Forest.tokens]
      rw [htokens, readTokens_append,
        readTokens_element tag hinner fun inner => ihchildren hinner inner]
      refine (ihnext hnext _).trans ?_
      simp only [nodes, Forest.count, List.append_assoc, List.singleton_append]
      congr 2
      omega

end CorsXmlState

/-- Each element takes more than one byte. -/
theorem count_le_byteLength (forest : Forest) :
    2 * forest.count ≤ Utf8.byteLength forest.write := by
  induction forest with
  | nil => exact Nat.zero_le _
  | cons tag text children next ihchildren ihnext =>
      have hfinish := Lifecycle.byteLength_finish tag.name
      rw [Forest.count, Forest.write_cons]
      simp only [Utf8.byteLength_append]
      omega

theorem height_leaves_le (name : Xml.Name) (texts : List Text) {next : Forest}
    (h : next.height ≤ 1) : (leaves name texts next).height ≤ 1 := by
  induction texts with
  | nil => exact h
  | cons text texts ih => exact max_le (Nat.le_refl 1) ih

theorem height_optional_le {α : Type} (value : Option α) (name : Xml.Name) (text : α → Text)
    {next : Forest} (h : next.height ≤ 1) :
    (optional value (fun value => leaf name (text value)) next).height ≤ 1 := by
  cases value with
  | none => exact h
  | some value => exact max_le (Nat.le_refl 1) h

theorem height_ruleForest_le (rule : S3CorsRule) : (ruleForest rule).height ≤ 1 := by
  apply height_leaves_le
  apply height_leaves_le
  apply height_leaves_le
  apply height_leaves_le
  apply height_optional_le rule.id idName id
  apply height_optional_le
  exact Nat.zero_le 1

theorem height_rulesForest_le (rules : List S3CorsRule) : (rulesForest rules).height ≤ 2 := by
  induction rules with
  | nil => exact Nat.zero_le 2
  | cons rule rules ih => exact max_le (Nat.succ_le_succ (height_ruleForest_le rule)) ih

theorem readEvent_declaration :
    CorsXmlState.readEvent writtenDeclaration ⟨[], none, 0, true, false⟩
      Token.declaration.report = .ok (CorsXmlState.reading [] 0) := by
  have hvalid : validateS3CorsXmlDeclaration writtenDeclaration = .ok () := by decide
  simp only [Token.report, CorsXmlState.readEvent, hvalid, ok_bind]
  rfl

/-- A document that is written has room for its elements. -/
theorem parseS3CorsXmlDocument_write (reader : CorsReader) {configuration : S3CorsConfiguration}
    (h : configurationBytes configuration ≤ maxS3CorsDocumentBytes) :
    parseS3CorsXmlDocument reader (Utf8.bytes (xmlDocument configuration).write) =
      .ok (documentNode normalizeEol (xmlDocument configuration)) := by
  have hheight := height_rulesForest_le configuration.rules
  have hcount := count_le_byteLength (rulesForest configuration.rules)
  have hbytes : Utf8.byteLength (rulesForest configuration.rules).write ≤
      maxS3CorsDocumentBytes := by
    rw [configurationBytes, elementBytes, ← byteLength_rulesForest] at h
    omega
  have hfits : CorsXmlState.Fits 1 1 (rulesForest configuration.rules) := by
    rw [maxS3CorsDocumentBytes] at hbytes
    rw [CorsXmlState.Fits, maxS3CorsXmlDepth, maxS3CorsXmlNodes]
    exact ⟨by omega, by omega⟩
  have hdeclares : reader.declaration (Utf8.bytes (xmlDocument configuration).write) =
      writtenDeclaration :=
    reader.declares _ (xmlDocument configuration).forest.wellFormed_document
  have helement := @CorsXmlState.readTokens_element writtenDeclaration [] 0
    (s3Tag corsConfigurationName) [] (rulesForest configuration.rules) hfits
    fun element => @CorsXmlState.readTokens_forest writtenDeclaration [] 1 _ hfits element
  have htokens : (xmlDocument configuration).tokens =
      .declaration :: (.start (s3Tag corsConfigurationName) :: (Xml.textTokens [] ++
        ((rulesForest configuration.rules).tokens ++
          [.finish (s3Tag corsConfigurationName).name]))) :=
    rfl
  rw [parseS3CorsXmlDocument, rejectIf, if_neg (xmlDocument configuration).bytes_write_ne_nil,
    ok_bind, Xml.Document.events_write, CorsXmlState.foldlM_readResult, hdeclares, htokens,
    CorsXmlState.readTokens_cons, readEvent_declaration, ok_bind, helement]
  rfl

theorem not_mem_of_isValidHeader {wildcardAllowed : Bool} {header : Text}
    (h : Core.isValidHeader wildcardAllowed header = true) : '\r' ∉ header := by
  have htoken : Core.isHttpTokenByte '\r' = false := by decide
  simp only [Core.isValidHeader, Bool.and_eq_true] at h
  obtain ⟨⟨-, hall⟩, -⟩ := h
  intro hmem
  have hreturn := List.all_eq_true.1 hall _ hmem
  rw [htoken] at hreturn
  exact Bool.false_ne_true hreturn

/-- A carriage return is in neither scheme, and no authority has one. -/
theorem not_mem_of_isValidOrigin {origin : Text} (h : Core.isValidOrigin origin = true) :
    '\r' ∉ origin := by
  have hscheme : ∀ scheme : String, '\r' ∉ scheme.toList → scheme.toList.isPrefixOf
      (toAsciiLowercase origin) = true → '\r' ∉ origin.take scheme.toList.length := by
    intro scheme hnone hpre hmem
    obtain ⟨rest, hrest⟩ := List.isPrefixOf_iff_prefix.1 hpre
    have htake : (toAsciiLowercase origin).take scheme.toList.length = scheme.toList := by
      rw [← hrest, List.take_left]
    rw [toAsciiLowercase, ← List.map_take] at htake
    rw [← htake] at hnone
    exact hnone (List.mem_map.2 ⟨_, hmem, rfl⟩)
  have hauthority : ∀ authority, Core.validAuthority authority = true → '\r' ∉ authority := by
    intro authority hvalid hmem
    unfold Core.validAuthority at hvalid
    split at hvalid
    · exact Bool.false_ne_true hvalid
    · next hplain =>
        apply hplain
        rw [Bool.or_eq_true]
        exact Or.inr (List.any_eq_true.2 ⟨_, hmem, by decide⟩)
  unfold Core.isValidOrigin at h
  split at h
  · next hstar =>
      subst hstar
      decide
  · split at h
    · exact nomatch h
    · have hsplit : ∀ count, '\r' ∉ origin.take count → '\r' ∉ origin.drop count →
          '\r' ∉ origin := by
        intro count htake hdrop
        rw [← List.take_append_drop count origin, List.mem_append, not_or]
        exact ⟨htake, hdrop⟩
      unfold Core.authorityOf at h
      split_ifs at h with hhttp hhttps
      · exact hsplit 7 (hscheme "http://" (by decide) hhttp) (hauthority _ h)
      · exact hsplit 8 (hscheme "https://" (by decide) hhttps) (hauthority _ h)
      · exact nomatch h

theorem not_mem_of_validRuleId {id : Text} (h : Core.validRuleId id = true) : '\r' ∉ id := by
  have hcontrol : Text.isControl '\r' = true := by decide
  simp only [Core.validRuleId, Bool.and_eq_true] at h
  obtain ⟨-, hall⟩ := h
  intro hmem
  have hreturn := List.all_eq_true.1 hall _ hmem
  rw [hcontrol] at hreturn
  exact Bool.false_ne_true hreturn

theorem not_mem_of_validateHeaders {headers : List Text} {wildcardAllowed : Bool}
    (h : Core.validateHeaders headers wildcardAllowed = .ok ()) :
    ∀ header ∈ headers, '\r' ∉ header := by
  rw [Core.validateHeaders, andThen_eq_ok_iff] at h
  intro header hheader
  exact not_mem_of_isValidHeader (Core.valid_of_validateEach h.2 header hheader)

/-- No value of a rule has a carriage return in it. -/
structure NoReturns (rule : S3CorsRule) : Prop where
  id : ∀ id ∈ rule.id, '\r' ∉ id
  allowedOrigins : ∀ origin ∈ rule.allowedOrigins, '\r' ∉ origin
  allowedHeaders : ∀ header ∈ rule.allowedHeaders, '\r' ∉ header
  exposeHeaders : ∀ header ∈ rule.exposeHeaders, '\r' ∉ header

theorem noReturns (rule : S3CorsRule) : NoReturns rule := by
  have h := rule.valid
  simp only [Core.validateRule, andThen_eq_ok_iff, rejectIf_eq_ok_iff, Bool.not_eq_false] at h
  obtain ⟨hid, -, horigins, hallowed, hexpose⟩ := h
  rw [Core.validateOrigins, andThen_eq_ok_iff, andThen_eq_ok_iff] at horigins
  refine ⟨?_, ?_, not_mem_of_validateHeaders hallowed, not_mem_of_validateHeaders hexpose⟩
  · intro id hmem
    rw [Option.mem_def] at hmem
    rw [hmem] at hid
    exact not_mem_of_validRuleId hid
  · intro origin horigin
    exact not_mem_of_isValidOrigin (Core.valid_of_validateEach horigins.2.2 origin horigin)

/-- An element with a text, as it is read. -/
def leafNode (name : Xml.Name) (text : Text) : S3CorsXmlElement := ⟨name.text, [], text, []⟩

/-- The nodes that are read of a forest. -/
abbrev read (forest : Forest) : List S3CorsXmlElement := nodes normalizeEol forest

theorem read_leaf (name : Xml.Name) {text : Text} (h : '\r' ∉ text) (next : Forest) :
    read (leaf name text next) = leafNode name text :: read next := by
  have htext := Xml.normalizeEol_eq_self_iff.2 h
  calc read (leaf name text next)
      = leafNode name (normalizeEol text) :: read next := rfl
    _ = leafNode name text :: read next := by rw [htext]

/-- A loop over elements of one name, where `state` is what it has after some of their values. -/
theorem readChild_leaves {α : Type} {name : Xml.Name} {text : α → Text}
    {state : List α → RuleState}
    (hstep : ∀ current value, (state current).readChild (leafNode name (text value)) =
      .ok (state (current ++ [value])))
    {values : List α} (h : ∀ value ∈ values, '\r' ∉ text value) (current : List α)
    (next : Forest) :
    (read (leaves name (values.map text) next)).foldlM RuleState.readChild (state current) =
      (read next).foldlM RuleState.readChild (state (current ++ values)) := by
  induction values generalizing current with
  | nil => rw [List.append_nil]; rfl
  | cons value values ih =>
      rw [List.forall_mem_cons] at h
      have hleaves : leaves name ((value :: values).map text) next =
          leaf name (text value) (leaves name (values.map text) next) :=
        rfl
      rw [hleaves, read_leaf name h.1, List.foldlM_cons, hstep, ok_bind, ih h.2,
        List.append_assoc, List.singleton_append]

theorem readChild_texts {name : Xml.Name} {state : List Text → RuleState}
    (hstep : ∀ current text, (state current).readChild (leafNode name text) =
      .ok (state (current ++ [text])))
    {texts : List Text} (h : ∀ text ∈ texts, '\r' ∉ text) (next : Forest) :
    (read (leaves name texts next)).foldlM RuleState.readChild (state []) =
      (read next).foldlM RuleState.readChild (state texts) := by
  have hread := @readChild_leaves Text name id state hstep texts h [] next
  rwa [List.map_id, List.nil_append] at hread

theorem readChild_method (state : RuleState) (method : S3CorsMethod) :
    state.readChild (leafNode allowedMethodName method.asStr.toList) =
      .ok { state with allowedMethods := state.allowedMethods ++ [method] } := by
  have hmethod : S3CorsMethod.fromStr method.asStr.toList = .ok method := by
    cases method
    all_goals decide
  have hchild : state.readChild (leafNode allowedMethodName method.asStr.toList) =
      (invalidConfiguration (S3CorsMethod.fromStr method.asStr.toList) >>= fun method =>
        pure { state with allowedMethods := state.allowedMethods ++ [method] }) :=
    rfl
  rw [hchild, hmethod]
  rfl

theorem parseMaxAgeSeconds_toDigits {seconds : Nat} (h : seconds ≤ 4294967295) :
    parseMaxAgeSeconds (Nat.toDigits 10 seconds) = .ok seconds := by
  have hdigits : ∀ c ∈ Nat.toDigits 10 seconds, isAsciiDigit c = true := by
    intro c hc
    obtain ⟨digits, hdigits, hbound, -⟩ := Text.exists_digits (show 1 < 10 by decide) seconds
    rw [hdigits] at hc
    obtain ⟨digit, hdigit, rfl⟩ := List.mem_map.1 hc
    have hall : ∀ d < 10, isAsciiDigit d.digitChar = true := by decide
    exact hall digit (hbound digit hdigit)
  have hnot : ¬ (Nat.toDigits 10 seconds = [] ∨
      (Nat.toDigits 10 seconds).all isAsciiDigit = false) := by
    rw [List.all_eq_true.2 hdigits, not_or]
    exact ⟨Lifecycle.toDigits_ne_nil seconds, by decide⟩
  rw [parseMaxAgeSeconds, rejectIf, if_neg hnot, ok_bind, Lifecycle.parseU32_toDigits h]
  rfl

/-- What the parser accepts as the age of a rule. -/
def AgeFits (rule : S3CorsRule) : Prop := ∀ seconds ∈ rule.maxAgeSeconds, seconds ≤ 4294967295

theorem readChild_ruleForest {rule : S3CorsRule} (hage : AgeFits rule) :
    (read (ruleForest rule)).foldlM RuleState.readChild ⟨none, [], [], [], [], none⟩ =
      .ok ⟨rule.id, rule.allowedMethods, rule.allowedOrigins, rule.allowedHeaders,
        rule.exposeHeaders, rule.maxAgeSeconds⟩ := by
  obtain ⟨id, methods, origins, headers, expose, age, hvalid⟩ := rule
  obtain ⟨hid, horigins, hheaders, hexpose⟩ := noReturns
    ⟨id, methods, origins, headers, expose, age, hvalid⟩
  have hmethods : ∀ method ∈ methods, '\r' ∉ method.asStr.toList := by
    intro method _
    cases method
    all_goals decide
  have hread := @readChild_leaves S3CorsMethod allowedMethodName (fun method => method.asStr.toList)
    (fun methods => ⟨none, methods, [], headers, [], none⟩) (fun _ _ => readChild_method _ _)
    methods hmethods []
  rw [ruleForest, @readChild_texts allowedHeaderName
    (fun headers => ⟨none, [], [], headers, [], none⟩) (fun _ _ => rfl) headers hheaders,
    methodTexts, hread, List.nil_append, @readChild_texts allowedOriginName
    (fun origins => ⟨none, methods, origins, headers, [], none⟩) (fun _ _ => rfl) origins horigins,
    @readChild_texts exposeHeaderName
    (fun expose => ⟨none, methods, origins, headers, expose, none⟩) (fun _ _ => rfl) expose hexpose]
  have hlast : (read (optional age
      (fun seconds => leaf maxAgeSecondsName (Nat.toDigits 10 seconds)) .nil)).foldlM
        RuleState.readChild ⟨id, methods, origins, headers, expose, none⟩ =
      .ok ⟨id, methods, origins, headers, expose, age⟩ := by
    cases age with
    | none => rfl
    | some seconds =>
        have hreturn : '\r' ∉ Nat.toDigits 10 seconds := fun hmem =>
          absurd (Lifecycle.mem_dateCharacters_of_toDigits hmem) (by decide)
        have hseconds := parseMaxAgeSeconds_toDigits (hage seconds rfl)
        have hchild : RuleState.readChild ⟨id, methods, origins, headers, expose, none⟩
            (leafNode maxAgeSecondsName (Nat.toDigits 10 seconds)) =
            (parseMaxAgeSeconds (Nat.toDigits 10 seconds) >>= fun seconds =>
              pure ⟨id, methods, origins, headers, expose, some seconds⟩) :=
          rfl
        rw [Lifecycle.optional, Option.elim_some, read_leaf maxAgeSecondsName hreturn,
          List.foldlM_cons, hchild, hseconds]
        rfl
  cases id with
  | none => exact hlast
  | some id =>
      rw [Lifecycle.optional, Option.elim_some, read_leaf idName (hid id rfl), List.foldlM_cons]
      exact hlast

theorem new_eq_ok (rule : S3CorsRule) :
    S3CorsRule.new rule.id rule.allowedMethods rule.allowedOrigins rule.allowedHeaders
      rule.exposeHeaders rule.maxAgeSeconds = .ok rule := by
  unfold S3CorsRule.new
  split
  · rfl
  · next error heq =>
      rw [rule.valid] at heq
      exact nomatch heq

theorem configuration_new_eq_ok (configuration : S3CorsConfiguration) :
    S3CorsConfiguration.new configuration.rules = .ok configuration := by
  unfold S3CorsConfiguration.new
  split
  · rfl
  · next error heq =>
      rw [configuration.valid] at heq
      exact nomatch heq

theorem rule_readBack {rule : S3CorsRule} (hage : AgeFits rule) :
    parseS3CorsRule ⟨corsRuleName.text, [], [], read (ruleForest rule)⟩ = .ok rule := by
  have hcontainer : validateS3CorsContainer
      ⟨corsRuleName.text, [], [], read (ruleForest rule)⟩ = .ok () :=
    rfl
  rw [parseS3CorsRule, hcontainer, ok_bind, readChild_ruleForest hage, ok_bind, new_eq_ok]
  rfl

theorem rules_readBack {rules : List S3CorsRule} (hage : ∀ rule ∈ rules, AgeFits rule) :
    (read (rulesForest rules)).mapM parseS3CorsRule = .ok rules := by
  induction rules with
  | nil => rfl
  | cons rule rules ih =>
      rw [List.forall_mem_cons] at hage
      have hread : read (rulesForest (rule :: rules)) =
          ⟨corsRuleName.text, [], [], read (ruleForest rule)⟩ :: read (rulesForest rules) :=
        rfl
      rw [hread, mapM_cons_eq_ok_iff]
      exact ⟨_, _, rule_readBack hage.1, ih hage.2, rfl⟩

theorem names_rulesForest (rules : List S3CorsRule) :
    (read (rulesForest rules)).any (fun child => child.name ≠ "CORSRule".toList) = false := by
  induction rules with
  | nil => rfl
  | cons rule rules ih =>
      have hname : decide (corsRuleName.text ≠ "CORSRule".toList) = false := by decide
      rw [rulesForest, branch]
      simp only [nodes, List.any_cons, ih, Bool.or_false]
      exact hname

theorem parse_of_document {reader : CorsReader} {input : List UInt8} {root : S3CorsXmlElement}
    {configuration : S3CorsConfiguration} (hshort : input.length ≤ maxS3CorsDocumentBytes)
    (hdocument : parseS3CorsXmlDocument reader input = .ok root)
    (hroot : validateS3CorsRoot root = .ok ())
    (hrules : root.children.mapM parseS3CorsRule = .ok configuration.rules) :
    parseS3CorsConfigurationXml reader input = .ok configuration := by
  rw [parseS3CorsConfigurationXml, rejectIf, if_neg (Nat.not_lt.2 hshort), ok_bind, hdocument,
    ok_bind, hroot, ok_bind, hrules, ok_bind, configuration_new_eq_ok]
  rfl

theorem parseS3CorsPutXml_of_parse {reader : CorsReader} {crates : DigestCrates}
    {contentMd5 : Option (List UInt8)} {input : List UInt8} {configuration : S3CorsConfiguration}
    (hshort : input.length ≤ maxS3CorsDocumentBytes)
    (hdigest : validateS3CorsContentMd5 crates contentMd5 input = .ok ())
    (hparse : parseS3CorsConfigurationXml reader input = .ok configuration) :
    parseS3CorsPutXml reader crates contentMd5 input = .ok configuration := by
  rw [parseS3CorsPutXml, rejectIf, if_neg (Nat.not_lt.2 hshort), ok_bind, hdigest, ok_bind, hparse]

/-- What was written within the limit is read again. -/
theorem configuration_readBack (reader : CorsReader) {configuration : S3CorsConfiguration}
    (hage : ∀ rule ∈ configuration.rules, AgeFits rule)
    (h : configurationBytes configuration ≤ maxS3CorsDocumentBytes) :
    parseS3CorsConfigurationXml reader (Utf8.bytes (xmlDocument configuration).write) =
      .ok configuration := by
  have hroot : validateS3CorsRoot (documentNode normalizeEol (xmlDocument configuration)) =
      .ok () := by
    have hnames := names_rulesForest configuration.rules
    have hchildren : (documentNode normalizeEol (xmlDocument configuration)).children =
        read (rulesForest configuration.rules) :=
      rfl
    have hlast : rejectIf ((read (rulesForest configuration.rules)).any
        (fun child => child.name ≠ "CORSRule".toList) = true)
        S3CorsProtocolError.malformedXml = .ok () := by
      rw [hnames]
      rfl
    rw [validateS3CorsRoot, hchildren, hlast]
    rfl
  have hrules : (documentNode normalizeEol (xmlDocument configuration)).children.mapM
      parseS3CorsRule = .ok configuration.rules :=
    rules_readBack hage
  have hshort : (Utf8.bytes (xmlDocument configuration).write).length ≤ maxS3CorsDocumentBytes := by
    rwa [Utf8.length_bytes, byteLength_xmlDocument]
  exact parse_of_document hshort (parseS3CorsXmlDocument_write reader h) hroot hrules

theorem eq_ok_of_mapError {ε ε' α : Type} {f : ε → ε'} {result : Except ε α} {a : α}
    (h : result.mapError f = .ok a) : result = .ok a := by
  cases result with
  | error e => exact nomatch h
  | ok b => exact congrArg Except.ok (Except.ok.inj h)

theorem parseMaxAgeSeconds_le {text : Text} {seconds : Nat}
    (h : parseMaxAgeSeconds text = .ok seconds) : seconds ≤ 4294967295 := by
  rw [parseMaxAgeSeconds, andThen_eq_ok_iff] at h
  obtain ⟨-, h⟩ := h
  split at h
  · next parsed heq =>
      obtain rfl := pure_eq_ok_iff.1 h
      have hbound := (Option.filter_eq_some_iff.1 heq).2
      exact of_decide_eq_true hbound
  · exact nomatch h

theorem RuleState.readChild_age {state next : RuleState} {child : S3CorsXmlElement}
    (hstate : ∀ seconds ∈ state.maxAgeSeconds, seconds ≤ 4294967295)
    (h : state.readChild child = .ok next) :
    ∀ seconds ∈ next.maxAgeSeconds, seconds ≤ 4294967295 := by
  rw [readChild] at h
  obtain ⟨text, -, h⟩ := bind_eq_ok_iff.1 h
  split_ifs at h
  · obtain rfl := pure_eq_ok_iff.1 h
    exact hstate
  · obtain ⟨method, -, h⟩ := bind_eq_ok_iff.1 h
    obtain rfl := pure_eq_ok_iff.1 h
    exact hstate
  · obtain rfl := pure_eq_ok_iff.1 h
    exact hstate
  · obtain rfl := pure_eq_ok_iff.1 h
    exact hstate
  · obtain rfl := pure_eq_ok_iff.1 h
    exact hstate
  · obtain ⟨seconds, hseconds, h⟩ := bind_eq_ok_iff.1 h
    obtain rfl := pure_eq_ok_iff.1 h
    intro parsed hparsed
    obtain rfl := Option.some.inj hparsed
    exact parseMaxAgeSeconds_le hseconds

theorem maxAgeSeconds_of_new {id : Option Text} {methods : List S3CorsMethod}
    {origins headers expose : List Text} {age : Option Nat} {rule : S3CorsRule}
    (h : S3CorsRule.new id methods origins headers expose age = .ok rule) :
    rule.maxAgeSeconds = age := by
  unfold S3CorsRule.new at h
  split at h
  · obtain rfl := Except.ok.inj h
    rfl
  · exact nomatch h

theorem ageFits_of_parse {element : S3CorsXmlElement} {rule : S3CorsRule}
    (h : parseS3CorsRule element = .ok rule) : AgeFits rule := by
  rw [parseS3CorsRule, andThen_eq_ok_iff] at h
  obtain ⟨-, h⟩ := h
  obtain ⟨state, hfold, h⟩ := bind_eq_ok_iff.1 h
  have hage : ∀ seconds ∈ state.maxAgeSeconds, seconds ≤ 4294967295 := by
    refine foldlM_invariant (P := fun state : RuleState =>
      ∀ seconds ∈ state.maxAgeSeconds, seconds ≤ 4294967295) ?_ ?_ hfold
    · intro child _ current next hcurrent hnext
      exact RuleState.readChild_age hcurrent hnext
    · intro seconds hseconds
      exact nomatch hseconds
  rw [AgeFits, maxAgeSeconds_of_new (eq_ok_of_mapError h)]
  exact hage

theorem rules_eq_of_new {rules : List S3CorsRule} {configuration : S3CorsConfiguration}
    (h : S3CorsConfiguration.new rules = .ok configuration) : configuration.rules = rules := by
  unfold S3CorsConfiguration.new at h
  split at h
  · obtain rfl := Except.ok.inj h
    rfl
  · exact nomatch h

theorem ageFits_of_accepted {reader : CorsReader} {crates : DigestCrates}
    {contentMd5 : Option (List UInt8)} {input : List UInt8} {configuration : S3CorsConfiguration}
    (h : parseS3CorsPutXml reader crates contentMd5 input = .ok configuration) :
    ∀ rule ∈ configuration.rules, AgeFits rule := by
  rw [parseS3CorsPutXml, andThen_eq_ok_iff, andThen_eq_ok_iff, parseS3CorsConfigurationXml,
    andThen_eq_ok_iff] at h
  obtain ⟨-, -, -, h⟩ := h
  obtain ⟨root, -, h⟩ := bind_eq_ok_iff.1 h
  rw [andThen_eq_ok_iff] at h
  obtain ⟨-, h⟩ := h
  obtain ⟨rules, hrules, h⟩ := bind_eq_ok_iff.1 h
  rw [rules_eq_of_new (eq_ok_of_mapError h)]
  intro rule hrule
  obtain ⟨element, -, hparse⟩ := exists_of_mem_mapM hrules hrule
  exact ageFits_of_parse hparse

/-- A configuration is rendered, and what is rendered is parsed into the same one. -/
def RoundTrips (reader : CorsReader) (configuration : S3CorsConfiguration) : Prop :=
  ∃ text, renderS3CorsConfigurationXml configuration = .ok text ∧
    parseS3CorsConfigurationXml reader (Utf8.bytes text) = .ok configuration

/-- A configuration that was accepted can be read back where its values, escaped, and the elements
around them fit into the document limit. -/
theorem cors_roundTrips_iff (reader : CorsReader) (crates : DigestCrates)
    {contentMd5 : Option (List UInt8)} {input : List UInt8} {configuration : S3CorsConfiguration}
    (h : parseS3CorsPutXml reader crates contentMd5 input = .ok configuration) :
    RoundTrips reader configuration ↔
      configurationBytes configuration ≤ maxS3CorsDocumentBytes := by
  have hrender := renderS3CorsConfigurationXml_eq configuration
  constructor
  · rintro ⟨text, htext, -⟩
    by_contra hlong
    rw [hrender, if_pos (Nat.not_le.1 hlong)] at htext
    exact nomatch htext
  · intro hfits
    rw [if_neg (Nat.not_lt.2 hfits)] at hrender
    exact ⟨_, hrender, configuration_readBack reader (ageFits_of_accepted h) hfits⟩

/-- A reader of documents that begin with the declaration above. -/
def plainCorsReader : CorsReader where
  toReader := Xml.plainReader
  declaration _ := writtenDeclaration
  declares _ _ := rfl

/-- What the crates make of one body and of the header that it comes with. -/
def digestCrates (encoded digest : List UInt8) : DigestCrates where
  decodeBase64 header := if header = encoded then some digest else none
  md5 _ := digest

theorem validateS3CorsContentMd5_digestCrates {encoded digest : List UInt8}
    (h : digest.length = 16) (input : List UInt8) :
    validateS3CorsContentMd5 (digestCrates encoded digest) (some encoded) input = .ok () := by
  have hfilter : (some digest).filter (fun digest => digest.length = 16) = some digest := by
    rw [Option.filter_some, if_pos (decide_eq_true h)]
  have hdecode : (digestCrates encoded digest).decodeBase64 encoded = some digest := if_pos rfl
  rw [validateS3CorsContentMd5, hdecode, hfilter, rejectIf_eq_ok_iff]
  exact fun hne => hne rfl

def uploadRule : S3CorsRule where
  id := some "upload&preview".toList
  allowedMethods := [.put, .get]
  allowedOrigins := ["https://*.example.com".toList]
  allowedHeaders := ["x-amz-*".toList]
  exposeHeaders := ["etag".toList]
  maxAgeSeconds := some 3600
  valid := by decide +kernel

def uploadConfiguration : S3CorsConfiguration := ⟨[uploadRule], by decide +kernel⟩

def uploadMd5 : List UInt8 := Utf8.bytes "DzCD+Y5K6gNNNI4ZTIlH8Q==".toList

def uploadCrates : DigestCrates := digestCrates uploadMd5
  [15, 48, 131, 249, 142, 74, 234, 3, 77, 52, 142, 25, 76, 137, 71, 241]

/-- What is rendered is accepted. -/
theorem cors_roundTrips_iff_upload :
    parseS3CorsPutXml plainCorsReader uploadCrates (some uploadMd5)
        (Utf8.bytes (xmlDocument uploadConfiguration).write) = .ok uploadConfiguration ∧
      RoundTrips plainCorsReader uploadConfiguration := by
  have hfits : configurationBytes uploadConfiguration ≤ maxS3CorsDocumentBytes := by
    decide +kernel
  have hage : ∀ rule ∈ uploadConfiguration.rules, AgeFits rule := by
    intro rule hrule seconds hseconds
    obtain rfl := List.mem_singleton.1 hrule
    obtain rfl := Option.some.inj hseconds
    decide
  have hshort : (Utf8.bytes (xmlDocument uploadConfiguration).write).length ≤
      maxS3CorsDocumentBytes := by
    rwa [Utf8.length_bytes, byteLength_xmlDocument]
  have haccepted : parseS3CorsPutXml plainCorsReader uploadCrates (some uploadMd5)
      (Utf8.bytes (xmlDocument uploadConfiguration).write) = .ok uploadConfiguration :=
    parseS3CorsPutXml_of_parse hshort (validateS3CorsContentMd5_digestCrates rfl _)
      (configuration_readBack plainCorsReader hage hfits)
  exact ⟨haccepted, (cors_roundTrips_iff plainCorsReader uploadCrates haccepted).2 hfits⟩

/-- An element around a run of characters. -/
def runTokens (name : Xml.Name) (run : Xml.Run) : List Token :=
  [.start (Tag.plain name), .text run, .finish name]

def getRun : Xml.Run := ⟨"GET".toList, by decide, by decide⟩

def starRun : Xml.Run := ⟨['*'], by decide, by decide⟩

def quoteText (i : Nat) : Text := List.replicate (1000 + i) '\''

def quoteRun (i : Nat) : Xml.Run where
  text := quoteText i
  nonempty := by simp [quoteText]
  data := List.all_eq_true.2 fun c hc => by
    rw [List.eq_of_mem_replicate hc]
    decide

def quoteHeaders : List Text := (List.range 12).map quoteText

def ruleRuns : List (Xml.Name × Xml.Run) :=
  (allowedMethodName, getRun) :: (allowedOriginName, starRun) ::
    (List.range 12).map fun i => (allowedHeaderName, quoteRun i)

def quoteTokens : List Token :=
  .declaration :: .start (s3Tag corsConfigurationName) :: .start (Tag.plain corsRuleName) ::
    (ruleRuns.flatMap (fun pair => runTokens pair.1 pair.2) ++
      [.finish corsRuleName, .finish corsConfigurationName])

theorem readTokens_runs {declaration : Declaration} {element : S3CorsXmlElement}
    {stack : List S3CorsXmlElement} {nodeCount : Nat} {runs : List (Xml.Name × Xml.Run)}
    (h : ∀ pair ∈ runs, '\r' ∉ pair.2.text) (hdepth : stack.length + 1 < maxS3CorsXmlDepth)
    (hcount : nodeCount + runs.length ≤ maxS3CorsXmlNodes) :
    CorsXmlState.readTokens declaration (CorsXmlState.reading (element :: stack) nodeCount)
        (runs.flatMap fun pair => runTokens pair.1 pair.2) =
      .ok (CorsXmlState.reading ({ element with
        children := element.children ++ runs.map fun pair => leafNode pair.1 pair.2.text } ::
          stack) (nodeCount + runs.length)) := by
  induction runs generalizing element nodeCount with
  | nil =>
      rw [List.map_nil, List.append_nil]
      cases element
      rfl
  | cons pair runs ih =>
      rw [List.forall_mem_cons] at h
      rw [List.length_cons] at hcount
      have htext := Xml.normalizeEol_eq_self_iff.2 h.1
      have hroom : (element :: stack).length < maxS3CorsXmlDepth := hdepth
      have hpair : CorsXmlState.readTokens declaration
          (CorsXmlState.reading (element :: stack) nodeCount) (runTokens pair.1 pair.2) =
          .ok (CorsXmlState.reading ({ element with
            children := element.children ++ [leafNode pair.1 (normalizeEol pair.2.text)] } ::
              stack) (nodeCount + 1)) := by
        rw [runTokens, CorsXmlState.readTokens_cons,
          CorsXmlState.readEvent_start _ hroom (by omega), ok_bind]
        rfl
      rw [List.flatMap_cons, CorsXmlState.readTokens_append, hpair, ok_bind,
        ih h.2 (by omega), htext]
      simp only [List.map_cons, List.append_assoc, List.singleton_append, List.length_cons]
      congr 2
      omega

theorem wellFormed_runs {names : List Xml.Name} (runs : List (Xml.Name × Xml.Run))
    {rest : List Token} (h : Xml.Follows names rest) :
    Xml.Follows names (runs.flatMap (fun pair => runTokens pair.1 pair.2) ++ rest) := by
  induction runs with
  | nil => exact h
  | cons pair runs ih =>
      rw [List.flatMap_cons, List.append_assoc]
      exact Xml.Follows.start (Tag.plain pair.1)
        (Xml.wellFormed_text_iff.2 ⟨rfl, Xml.Follows.finish (ih true) false⟩)

theorem wellFormed_quoteTokens : Xml.WellFormed [] false quoteTokens := by
  have hnil : Xml.Follows [] [] := fun _ => by simp [Xml.WellFormed]
  have hend : Xml.Follows [corsRuleName, corsConfigurationName]
      [.finish corsRuleName, .finish corsConfigurationName] :=
    Xml.Follows.finish (Xml.Follows.finish (hnil true) true)
  have hrule : Xml.Follows [corsConfigurationName] (.start (Tag.plain corsRuleName) ::
      (ruleRuns.flatMap (fun pair => runTokens pair.1 pair.2) ++
        [.finish corsRuleName, .finish corsConfigurationName])) :=
    Xml.Follows.start _ (wellFormed_runs ruleRuns hend true)
  exact ⟨rfl, Xml.Follows.start (s3Tag corsConfigurationName) (hrule true) true⟩

theorem validateEach_eq_ok {α κ : Type} [DecidableEq κ] {valid : α → Bool} {key : α → κ}
    (invalid duplicate : S3CorsError) {unique : List κ} {values : List α}
    (hvalid : ∀ value ∈ values, valid value = true) (hnodup : (values.map key).Nodup)
    (hfresh : ∀ value ∈ values, key value ∉ unique) :
    Core.validateEach valid key invalid duplicate unique values = .ok () := by
  induction values generalizing unique with
  | nil => rfl
  | cons value values ih =>
      rw [List.forall_mem_cons] at hvalid hfresh
      rw [List.map_cons, List.nodup_cons] at hnodup
      have hrest : ∀ other ∈ values, key other ∉ key value :: unique := by
        intro other hother hmem
        rcases List.mem_cons.1 hmem with heq | hmem
        · exact hnodup.1 (heq ▸ List.mem_map_of_mem hother)
        · exact hfresh.2 other hother hmem
      simp only [Core.validateEach, andThen_eq_ok_iff, rejectIf_eq_ok_iff, Bool.not_eq_false]
      exact ⟨hvalid.1, hfresh.1, ih hvalid.2 hnodup.2 hrest⟩

theorem byteLength_quoteText (i : Nat) : Utf8.byteLength (quoteText i) = 1000 + i := by
  rw [Utf8.byteLength_eq_length, quoteText, List.length_replicate]
  intro c hc
  rw [List.eq_of_mem_replicate hc]
  decide

theorem isValidHeader_quoteText {i : Nat} (h : i < 12) :
    Core.isValidHeader true (quoteText i) = true := by
  have hquote : Core.isHttpTokenByte '\'' = true := by decide
  have hne : quoteText i ≠ [] := by simp [quoteText]
  have hcount : (quoteText i).count '*' = 0 := by simp [quoteText, List.count_replicate]
  have hascii : Core.isAscii (quoteText i) = true := by simp [quoteText, Core.isAscii]
  have htoken : (quoteText i).all Core.isHttpTokenByte = true := by simp [quoteText, hquote]
  simp only [Core.isValidHeader, byteLength_quoteText, hascii, htoken, hcount,
    Core.maxS3CorsHeaderBytes]
  simp [hne]
  omega

theorem toAsciiLowercase_quoteText (i : Nat) : toAsciiLowercase (quoteText i) = quoteText i := by
  rw [toAsciiLowercase, quoteText, List.map_replicate]
  rfl

theorem quoteText_injective : Function.Injective quoteText := by
  intro i j h
  have hlength := congrArg List.length h
  rw [quoteText, quoteText, List.length_replicate, List.length_replicate] at hlength
  omega

theorem validateHeaders_quoteHeaders : Core.validateHeaders quoteHeaders true = .ok () := by
  have hvalid : ∀ header ∈ quoteHeaders, Core.isValidHeader true header = true := by
    intro header hheader
    obtain ⟨i, hi, rfl⟩ := List.mem_map.1 hheader
    exact isValidHeader_quoteText (List.mem_range.1 hi)
  have hnodup : (quoteHeaders.map toAsciiLowercase).Nodup := by
    have hkeys : quoteHeaders.map toAsciiLowercase = quoteHeaders := by
      rw [quoteHeaders, List.map_map]
      exact List.map_congr_left fun i _ => toAsciiLowercase_quoteText i
    rw [hkeys]
    exact List.nodup_range.map quoteText_injective
  have heach := validateEach_eq_ok .invalidAllowedHeader .duplicateAllowedHeader hvalid hnodup
    fun _ _ => List.not_mem_nil
  have hlength : ¬ Core.maxS3CorsHeadersPerRule < quoteHeaders.length := by
    rw [quoteHeaders, List.length_map]
    decide
  rw [Core.validateHeaders, rejectIf, if_neg hlength, ok_bind]
  exact heach

def quoteRule : S3CorsRule where
  id := none
  allowedMethods := [.get]
  allowedOrigins := [['*']]
  allowedHeaders := quoteHeaders
  exposeHeaders := []
  maxAgeSeconds := none
  valid := by
    rw [Core.validateRule, validateHeaders_quoteHeaders]
    rfl

theorem validateConfiguration_singleton (rule : S3CorsRule) :
    Core.validateConfiguration [rule] = .ok () := by
  have hrule : rule.validate = .ok () := rule.valid
  simp [Core.validateConfiguration, Core.validateRules, Core.maxS3CorsRules, hrule]

def quoteConfiguration : S3CorsConfiguration :=
  ⟨[quoteRule], validateConfiguration_singleton quoteRule⟩

theorem readChild_headers (headers : List Text) :
    (leafNode allowedMethodName "GET".toList :: leafNode allowedOriginName ['*'] ::
      headers.map (leafNode allowedHeaderName)).foldlM RuleState.readChild
        ⟨none, [], [], [], [], none⟩ = .ok ⟨none, [.get], [['*']], headers, [], none⟩ := by
  have hheaders : ∀ current : List Text,
      (headers.map (leafNode allowedHeaderName)).foldlM RuleState.readChild
        ⟨none, [.get], [['*']], current, [], none⟩ =
      .ok ⟨none, [.get], [['*']], current ++ headers, [], none⟩ := by
    induction headers with
    | nil =>
        intro current
        rw [List.append_nil]
        rfl
    | cons header headers ih =>
        intro current
        rw [List.map_cons, List.foldlM_cons]
        refine (ih (current ++ [header])).trans ?_
        rw [List.append_assoc, List.singleton_append]
  have hmethod := readChild_method ⟨none, [], [], [], [], none⟩ .get
  have horigin : RuleState.readChild ⟨none, [.get], [], [], [], none⟩
      (leafNode allowedOriginName ['*']) = .ok ⟨none, [.get], [['*']], [], [], none⟩ :=
    rfl
  rw [List.foldlM_cons]
  refine (congrArg (· >>= _) hmethod).trans ?_
  rw [ok_bind, List.nil_append, List.foldlM_cons, horigin]
  exact hheaders []

theorem parseS3CorsRule_quote :
    parseS3CorsRule ⟨corsRuleName.text, [], [],
      ruleRuns.map fun pair => leafNode pair.1 pair.2.text⟩ = .ok quoteRule := by
  have hchildren : (ruleRuns.map fun pair => leafNode pair.1 pair.2.text) =
      leafNode allowedMethodName "GET".toList :: leafNode allowedOriginName ['*'] ::
        quoteHeaders.map (leafNode allowedHeaderName) := by
    rw [ruleRuns, quoteHeaders, List.map_cons, List.map_cons, List.map_map, List.map_map]
    rfl
  have hcontainer : ∀ children, validateS3CorsContainer ⟨corsRuleName.text, [], [], children⟩ =
      .ok () := fun _ => rfl
  have hnew := new_eq_ok quoteRule
  rw [parseS3CorsRule, hcontainer, ok_bind, hchildren, readChild_headers, ok_bind]
  exact congrArg invalidConfiguration hnew

def quoteMd5 : List UInt8 := Utf8.bytes "vF8kRoJdDgmsEOoq5zP7GA==".toList

def quoteCrates : DigestCrates := digestCrates quoteMd5
  [188, 95, 36, 70, 130, 93, 14, 9, 172, 16, 234, 42, 231, 51, 251, 24]

theorem parseS3CorsXmlDocument_quote :
    parseS3CorsXmlDocument plainCorsReader (Utf8.bytes (Xml.write quoteTokens)) =
      .ok ⟨corsConfigurationName.text, [("xmlns".toList, s3XmlNamespace)], [],
        [⟨corsRuleName.text, [], [], ruleRuns.map fun pair => leafNode pair.1 pair.2.text⟩]⟩ := by
  have hreturn : ∀ pair ∈ ruleRuns, '\r' ∉ pair.2.text := by
    intro pair hpair
    rcases List.mem_cons.1 hpair with rfl | hpair
    · decide
    · rcases List.mem_cons.1 hpair with rfl | hpair
      · decide
      · obtain ⟨i, -, rfl⟩ := List.mem_map.1 hpair
        intro hmem
        exact absurd (List.eq_of_mem_replicate hmem) (by decide)
  have hread := @readTokens_runs writtenDeclaration ⟨corsRuleName.text, [], [], []⟩
    [⟨corsConfigurationName.text, [("xmlns".toList, s3XmlNamespace)], [], []⟩] 2 ruleRuns hreturn
    (by decide) (by decide)
  have hstart : CorsXmlState.readTokens writtenDeclaration ⟨[], none, 0, true, false⟩
      [.declaration, .start (s3Tag corsConfigurationName), .start (Tag.plain corsRuleName)] =
      .ok (CorsXmlState.reading [⟨corsRuleName.text, [], [], []⟩,
        ⟨corsConfigurationName.text, [("xmlns".toList, s3XmlNamespace)], [], []⟩] 2) := by
    rw [CorsXmlState.readTokens_cons, readEvent_declaration, ok_bind, CorsXmlState.readTokens_cons,
      CorsXmlState.readEvent_start _ (by decide) (by decide), ok_bind,
      CorsXmlState.readTokens_cons, CorsXmlState.readEvent_start _ (by decide) (by decide)]
    rfl
  have htokens : quoteTokens =
      [.declaration, .start (s3Tag corsConfigurationName), .start (Tag.plain corsRuleName)] ++
        (ruleRuns.flatMap (fun pair => runTokens pair.1 pair.2) ++
          [.finish corsRuleName, .finish corsConfigurationName]) :=
    rfl
  have hnonempty : Utf8.bytes (Xml.write quoteTokens) ≠ [] := by
    intro heq
    have hempty := congrArg List.length heq
    rw [Utf8.length_bytes, quoteTokens, Xml.write, List.flatMap_cons,
      Utf8.byteLength_append] at hempty
    have hdeclaration : 0 < Utf8.byteLength Token.declaration.write := by decide
    simp only [List.length_nil] at hempty
    omega
  have hevents : plainCorsReader.events (Utf8.bytes (Xml.write quoteTokens)) =
      quoteTokens.map fun token => some token.report :=
    plainCorsReader.reads quoteTokens wellFormed_quoteTokens
  have hdeclares : plainCorsReader.declaration (Utf8.bytes (Xml.write quoteTokens)) =
      writtenDeclaration :=
    rfl
  rw [parseS3CorsXmlDocument, rejectIf, if_neg hnonempty, ok_bind, hevents,
    CorsXmlState.foldlM_readResult, hdeclares, htokens, CorsXmlState.readTokens_append, hstart,
    ok_bind, CorsXmlState.readTokens_append, hread]
  rfl

theorem byteLength_runs (runs : List (Xml.Name × Xml.Run)) :
    Utf8.byteLength (Xml.write (runs.flatMap fun pair => runTokens pair.1 pair.2)) =
      (runs.map fun pair => elementBytes pair.1 (Utf8.byteLength pair.2.text)).sum := by
  induction runs with
  | nil => rfl
  | cons pair runs ih =>
      have hrun : Xml.write (runTokens pair.1 pair.2) = (Token.start (Tag.plain pair.1)).write ++
          (pair.2.text ++ (Token.finish pair.1).write) := by
        simp [Xml.write, runTokens, Token.write]
      rw [List.flatMap_cons, Forest.write_append_tokens, Utf8.byteLength_append, ih, hrun,
        Utf8.byteLength_append, Utf8.byteLength_append, Lifecycle.byteLength_start,
        Lifecycle.byteLength_finish, List.map_cons, List.sum_cons, elementBytes]
      omega

theorem byteLength_quoteTokens : Utf8.byteLength (Xml.write quoteTokens) = 12650 := by
  have hstart : Utf8.byteLength (Xml.write [.declaration, .start (s3Tag corsConfigurationName),
      .start (Tag.plain corsRuleName)]) = 115 := by
    decide +kernel
  have hfinish : Utf8.byteLength (Xml.write [.finish corsRuleName,
      .finish corsConfigurationName]) = 31 := by
    decide
  have hruns : (ruleRuns.map fun pair => elementBytes pair.1 (Utf8.byteLength pair.2.text)).sum =
      12504 := by
    have hheaders : ((List.range 12).map fun i => (allowedHeaderName, quoteRun i)).map
        (fun pair => elementBytes pair.1 (Utf8.byteLength pair.2.text)) =
        (List.range 12).map fun i => elementBytes allowedHeaderName (1000 + i) := by
      rw [List.map_map]
      refine List.map_congr_left fun i _ => ?_
      exact congrArg (elementBytes allowedHeaderName) (byteLength_quoteText i)
    rw [ruleRuns, List.map_cons, List.map_cons, hheaders]
    decide
  have htokens : quoteTokens =
      [.declaration, .start (s3Tag corsConfigurationName), .start (Tag.plain corsRuleName)] ++
        (ruleRuns.flatMap (fun pair => runTokens pair.1 pair.2) ++
          [.finish corsRuleName, .finish corsConfigurationName]) :=
    rfl
  rw [htokens, Forest.write_append_tokens, Forest.write_append_tokens, Utf8.byteLength_append,
    Utf8.byteLength_append, hstart, hfinish, byteLength_runs, hruns]

theorem escapedBytes_quoteText (i : Nat) : escapedBytes (quoteText i) = 6 * (1000 + i) := by
  have hquote : Lifecycle.escapedSize '\'' = 6 := by decide
  rw [escapedBytes, quoteText, List.map_replicate, List.sum_replicate, hquote, smul_eq_mul,
    Nat.mul_comm]

theorem configurationBytes_quote :
    maxS3CorsDocumentBytes < configurationBytes quoteConfiguration := by
  have hheaders : leavesBytes allowedHeaderName quoteHeaders = 72768 := by
    have hmap : quoteHeaders.map (fun text => elementBytes allowedHeaderName (escapedBytes text)) =
        (List.range 12).map fun i => elementBytes allowedHeaderName (6 * (1000 + i)) := by
      rw [quoteHeaders, List.map_map]
      refine List.map_congr_left fun i _ => ?_
      exact congrArg (elementBytes allowedHeaderName) (escapedBytes_quoteText i)
    rw [leavesBytes, hmap]
    decide
  have hrules : quoteConfiguration.rules = [quoteRule] := rfl
  have hrule : quoteRule.allowedHeaders = quoteHeaders := rfl
  rw [configurationBytes, hrules, List.map_singleton, List.sum_singleton, ruleBytes, hrule,
    hheaders, maxS3CorsDocumentBytes]
  simp only [elementBytes]
  omega

/-- Twelve headers of a thousand apostrophes are accepted, and cannot be read back. -/
theorem cors_apostrophes :
    parseS3CorsPutXml plainCorsReader quoteCrates (some quoteMd5)
        (Utf8.bytes (Xml.write quoteTokens)) = .ok quoteConfiguration ∧
      renderS3CorsConfigurationXml quoteConfiguration = .error .inputTooLarge ∧
      ¬ RoundTrips plainCorsReader quoteConfiguration := by
  have hlong := configurationBytes_quote
  have hrender : renderS3CorsConfigurationXml quoteConfiguration = .error .inputTooLarge := by
    rw [renderS3CorsConfigurationXml_eq, if_pos hlong]
  have hshort : (Utf8.bytes (Xml.write quoteTokens)).length ≤ maxS3CorsDocumentBytes := by
    rw [Utf8.length_bytes, byteLength_quoteTokens]
    decide
  have hdigest : validateS3CorsContentMd5 quoteCrates (some quoteMd5)
      (Utf8.bytes (Xml.write quoteTokens)) = .ok () :=
    validateS3CorsContentMd5_digestCrates rfl _
  have hroot : ∀ children, validateS3CorsRoot ⟨corsConfigurationName.text,
      [("xmlns".toList, s3XmlNamespace)], [], [⟨corsRuleName.text, [], [], children⟩]⟩ = .ok () :=
    fun _ => rfl
  have hrules : [(⟨corsRuleName.text, [], [],
      ruleRuns.map fun pair => leafNode pair.1 pair.2.text⟩ : S3CorsXmlElement)].mapM
        parseS3CorsRule = .ok quoteConfiguration.rules :=
    mapM_cons_eq_ok_iff.2 ⟨quoteRule, [], parseS3CorsRule_quote, rfl, rfl⟩
  refine ⟨?_, hrender, ?_⟩
  · exact parseS3CorsPutXml_of_parse hshort hdigest
      (parse_of_document hshort parseS3CorsXmlDocument_quote (hroot _) hrules)
  · rintro ⟨text, htext, -⟩
    rw [hrender] at htext
    exact nomatch htext

end MediaHub.Http.CorsXml
