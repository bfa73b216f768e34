import MediaHub.Core.Tagging
import MediaHub.Http.Query
import MediaHub.Http.XmlReadBack
import MediaHub.Text.PercentEncoding

namespace MediaHub.Http

open Result
open MediaHub.Core
open Xml (Forest Tag Token normalizeEol)

inductive S3TaggingXmlError where
  | inputTooLarge
  | malformedXml
  | invalidTag (error : S3TaggingError)

def taggingName : Xml.Name := ⟨"Tagging".toList, by decide, by decide⟩

def tagSetName : Xml.Name := ⟨"TagSet".toList, by decide, by decide⟩

def tagName : Xml.Name := ⟨"Tag".toList, by decide, by decide⟩

def valueName : Xml.Name := ⟨"Value".toList, by decide, by decide⟩

section

variable [CharacterClasses]

def parseTag (tag : XmlNode) : Except S3TaggingXmlError S3ObjectTag := do
  rejectIf (tag.name ≠ tagName.text ∨ tag.attributes ≠ [] ∨ trim tag.text ≠ []) .malformedXml
  match tag.children with
  | [key, value] => do
      rejectIf (key.name ≠ keyName.text ∨ value.name ≠ valueName.text ∨ key.attributes ≠ [] ∨
        value.attributes ≠ [] ∨ key.children.isEmpty = false ∨ value.children.isEmpty = false)
        .malformedXml
      (S3ObjectTag.new key.text value.text).mapError .invalidTag
  | _ => .error .malformedXml

/-- What `parse_object_tagging_xml` does with the document. -/
def parseTagging (root : XmlNode) : Except S3TaggingXmlError S3ObjectTags := do
  rejectIf (root.name ≠ taggingName.text ∨ root.attributes ≠ [("xmlns".toList, s3XmlNamespace)] ∨
    trim root.text ≠ []) .malformedXml
  match root.children with
  | [tagSet] => do
      rejectIf (tagSet.name ≠ tagSetName.text ∨ tagSet.attributes ≠ [] ∨ trim tagSet.text ≠ [])
        .malformedXml
      let tags ← tagSet.children.mapM parseTag
      (S3TagSet.new tags).mapError .invalidTag
  | _ => .error .malformedXml

def mapTaggingError (error : S3XmlError) : S3TaggingXmlError :=
  match error with
  | .inputTooLarge => .inputTooLarge
  | _ => .malformedXml

def parseObjectTaggingXml (reader : Xml.Reader) (input : List UInt8) :
    Except S3TaggingXmlError S3ObjectTags := do
  let root ← (parseXmlDocument reader input).mapError mapTaggingError
  parseTagging root

def pushTag (output : Text) (tag : S3ObjectTag) : Except S3XmlError Text := do
  let output := output ++ "<Tag>".toList
  let output ← pushElement .invalidXmlCharacter output keyName.text tag.key
  let output ← pushElement .invalidXmlCharacter output valueName.text tag.value
  return output ++ "</Tag>".toList

def objectTaggingXml (tags : S3ObjectTags) : Except S3XmlError Text := do
  tags.validate.mapError fun _ => S3XmlError.invalidXmlCharacter
  let output := xmlDocumentStart taggingName.text ++ "<TagSet>".toList
  let output ← tags.tags.foldlM pushTag output
  return output ++ "</TagSet></Tagging>".toList

def S3ApiError.invalidTag (message : String) : S3ApiError :=
  { status := 400, code := "InvalidTag", message := message }

def S3TaggingError.message (error : S3TaggingError) : String :=
  match error with
  | .tooManyTags => "the tag set exceeds the resource limit"
  | .invalidKey => "a tag key is invalid"
  | .invalidValue => "a tag value is invalid"
  | .duplicateKey => "tag keys must be unique"

def hexNibble (value : UInt8) : Option UInt8 :=
  if 48 ≤ value ∧ value ≤ 57 then some (value - 48)
  else if 97 ≤ value ∧ value ≤ 102 then some (value - 97 + 10)
  else if 65 ≤ value ∧ value ≤ 70 then some (value - 65 + 10)
  else none

/-- The loop of `strict_form_component_decode`. -/
def decodeFormBytes : List UInt8 → Except S3ApiError (List UInt8)
  | [] => .ok []
  | 37 :: high :: low :: input =>
      match hexNibble high, hexNibble low with
      | some high, some low => do
          let output ← decodeFormBytes input
          return (high <<< 4 ||| low) :: output
      | _, _ => .error (.invalidTag "x-amz-tagging contains invalid percent encoding.")
  | byte :: input =>
      if byte = 37 then .error (.invalidTag "x-amz-tagging contains truncated percent encoding.")
      else do
        let output ← decodeFormBytes input
        return (if byte = 43 then 32 else byte) :: output

def strictFormComponentDecode (value : Text) : Except S3ApiError Text := do
  let output ← decodeFormBytes (Utf8.bytes value)
  match Utf8.ofBytes output with
  | none => .error (.invalidTag "x-amz-tagging must decode to valid UTF-8.")
  | some output => return output

def parseTagPair (pair : Text) : Except S3ApiError S3ObjectTag :=
  match Text.splitOnce '=' pair with
  | none => .error (.invalidTag "x-amz-tagging must contain URL-encoded key=value pairs.")
  | some (key, value) => do
      rejectIf ('=' ∈ value)
        (.invalidTag "Reserved characters in x-amz-tagging must be percent-encoded.")
      let key ← strictFormComponentDecode key
      let value ← strictFormComponentDecode value
      (S3ObjectTag.new key value).mapError fun error => .invalidTag (S3TaggingError.message error)

def parseS3TaggingHeader (headers : HeaderMap) : Except S3ApiError (Option S3ObjectTags) := do
  match ← optionalSingleS3Header headers "x-amz-tagging" with
  | none => return none
  | some value =>
      if value = [] then return some S3TagSet.empty
      else do
        let tags ← (value.splitOn '&').mapM parseTagPair
        let set ← (S3TagSet.new tags).mapError fun error =>
          .invalidTag (S3TaggingError.message error)
        return some set

end

def tagForest : List S3ObjectTag → Forest
  | [] => .nil
  | tag :: tags =>
      .cons (Tag.plain tagName) [] (.cons (Tag.plain keyName) tag.key .nil
        (.single (Tag.plain valueName) tag.value .nil)) (tagForest tags)

def taggingDocument (tags : List S3ObjectTag) : Xml.Document where
  tag := s3Tag taggingName
  text := []
  children := .single (Tag.plain tagSetName) [] (tagForest tags)

theorem forall_texts_tagForest {p : Text → Prop} (hempty : p []) {tags : List S3ObjectTag}
    (h : ∀ tag ∈ tags, p tag.key ∧ p tag.value) : ∀ text ∈ (tagForest tags).texts, p text := by
  induction tags with
  | nil => simp [tagForest, Forest.texts]
  | cons tag tags ih =>
      rw [List.forall_mem_cons] at h
      simp only [tagForest, Forest.single, Forest.texts, List.append_nil, List.nil_append,
        List.cons_append, List.forall_mem_cons]
      exact ⟨hempty, h.1.1, h.1.2, ih h.2⟩

theorem forall_texts_taggingDocument {p : Text → Prop} (hempty : p []) {tags : List S3ObjectTag}
    (h : ∀ tag ∈ tags, p tag.key ∧ p tag.value) :
    ∀ text ∈ (taggingDocument tags).texts, p text := by
  simp only [taggingDocument, Xml.Document.texts, Forest.single, Forest.texts, List.append_nil,
    List.forall_mem_cons]
  exact ⟨hempty, hempty, forall_texts_tagForest hempty h⟩

/-- The texts around the tags of a set. -/
theorem write_taggingDocument (tags : List S3ObjectTag) :
    xmlDocumentStart taggingName.text ++ "<TagSet>".toList ++ (tagForest tags).write ++
        "</TagSet></Tagging>".toList = (taggingDocument tags).write := by
  have hstart : "<TagSet>".toList = (Token.start (Tag.plain tagSetName)).write := by decide
  have hfinish : "</TagSet></Tagging>".toList =
      (Token.finish tagSetName).write ++ (Token.finish taggingName).write := by
    decide
  have hempty : Xml.escape [] = [] := rfl
  have hwrite : (taggingDocument tags).write = Token.declaration.write ++
      ((Token.start (s3Tag taggingName)).write ++ ((Token.start (Tag.plain tagSetName)).write ++
        ((tagForest tags).write ++
          ((Token.finish tagSetName).write ++ (Token.finish taggingName).write)))) := by
    simp only [Xml.Document.write, Xml.Document.forest, taggingDocument, Forest.single,
      Forest.write_cons, Forest.write_nil, hempty, List.nil_append, List.append_nil,
      List.append_assoc]
    rfl
  rw [hwrite, xmlDocumentStart_eq, hstart, hfinish]
  simp only [List.append_assoc]

theorem count_tagForest (tags : List S3ObjectTag) : (tagForest tags).count = 3 * tags.length := by
  induction tags with
  | nil => rfl
  | cons tag tags ih =>
      simp only [tagForest, Forest.single, Forest.count, ih, List.length_cons]
      omega

theorem height_tagForest_le (tags : List S3ObjectTag) : (tagForest tags).height ≤ 2 := by
  induction tags with
  | nil => exact Nat.zero_le 2
  | cons tag tags ih =>
      simp only [tagForest, Forest.single, Forest.height]
      omega

def hexByte (n : Nat) : UInt8 := UInt8.ofNat (FormUrlencoded.hexDigit n).toNat

/-- How a byte is written, and what its digits stand for. -/
theorem bytes_encodeByte (byte : UInt8) :
    (Utf8.bytes (FormUrlencoded.encodeByte byte) = [byte] ∧ byte ≠ 37 ∧ byte ≠ 43) ∨
    (Utf8.bytes (FormUrlencoded.encodeByte byte) = [43] ∧ byte = 32) ∨
    (Utf8.bytes (FormUrlencoded.encodeByte byte) =
        [37, hexByte (byte.toNat / 16), hexByte (byte.toNat % 16)] ∧
      hexNibble (hexByte (byte.toNat / 16)) = some (byte >>> 4) ∧
      hexNibble (hexByte (byte.toNat % 16)) = some (byte &&& 15) ∧
      ((byte >>> 4) <<< 4 ||| (byte &&& 15)) = byte) := by
  revert byte
  apply FormUrlencoded.forall_byte
  decide +kernel

theorem decodeFormBytes_of_ne {byte : UInt8} (h : byte ≠ 37) (input : List UInt8) :
    decodeFormBytes (byte :: input) = decodeFormBytes input >>= fun output =>
      .ok ((if byte = 43 then 32 else byte) :: output) := by
  rw [decodeFormBytes, if_neg h]
  · rfl
  · intro high low rest heq _
    exact h heq

theorem decodeFormBytes_percent {high low high' low' : UInt8} (hhigh : hexNibble high = some high')
    (hlow : hexNibble low = some low') (input : List UInt8) :
    decodeFormBytes (37 :: high :: low :: input) = decodeFormBytes input >>= fun output =>
      .ok ((high' <<< 4 ||| low') :: output) := by
  rw [decodeFormBytes, hhigh, hlow]
  rfl

theorem decodeFormBytes_encodeByte (byte : UInt8) (input : List UInt8) :
    decodeFormBytes (Utf8.bytes (FormUrlencoded.encodeByte byte) ++ input) =
      decodeFormBytes input >>= fun output => .ok (byte :: output) := by
  rcases bytes_encodeByte byte with ⟨hbytes, hpercent, hplus⟩ | ⟨hbytes, hspace⟩ |
    ⟨hbytes, hhigh, hlow, hbyte⟩
  · rw [hbytes, List.singleton_append, decodeFormBytes_of_ne hpercent, if_neg hplus]
  · rw [hbytes, List.singleton_append, decodeFormBytes_of_ne (by decide), if_pos rfl, hspace]
  · rw [hbytes, List.cons_append, List.cons_append, List.singleton_append,
      decodeFormBytes_percent hhigh hlow, hbyte]

theorem decodeFormBytes_encode (bytes : List UInt8) :
    decodeFormBytes (Utf8.bytes (bytes.flatMap FormUrlencoded.encodeByte)) = .ok bytes := by
  induction bytes with
  | nil => rfl
  | cons byte bytes ih =>
      have happend : Utf8.bytes ((byte :: bytes).flatMap FormUrlencoded.encodeByte) =
          Utf8.bytes (FormUrlencoded.encodeByte byte) ++
            Utf8.bytes (bytes.flatMap FormUrlencoded.encodeByte) := by
        rw [List.flatMap_cons]
        exact List.flatMap_append
      rw [happend, decodeFormBytes_encodeByte, ih, ok_bind]

theorem strictFormComponentDecode_encode (value : Text) :
    strictFormComponentDecode (FormUrlencoded.encode value) = .ok value := by
  rw [strictFormComponentDecode, FormUrlencoded.encode, decodeFormBytes_encode, ok_bind,
    Utf8.ofBytes_bytes]
  rfl

theorem toStr_ofText {s : Text} (h : ∀ c ∈ s, 32 < c.toNat ∧ c.toNat < 127) :
    (HeaderValue.ofText s).toStr = some s := by
  have htoNat : ∀ c ∈ s, (UInt8.ofNat c.toNat).toNat = c.toNat := by
    intro c hc
    have hlt := (h c hc).2
    rw [UInt8.toNat_ofNat']
    omega
  have hvisible : (HeaderValue.ofText s).all (fun byte => (32 ≤ byte && byte < 127) || byte = 9) =
      true := by
    rw [HeaderValue.ofText, List.all_map, List.all_eq_true]
    intro c hc
    have hbounds := h c hc
    simp only [Function.comp_apply, Bool.or_eq_true, Bool.and_eq_true, decide_eq_true_eq,
      UInt8.le_iff_toNat_le, UInt8.lt_iff_toNat_lt, htoNat c hc]
    exact Or.inl ⟨le_of_lt hbounds.1, hbounds.2⟩
  have hmap : (HeaderValue.ofText s).map (fun byte => Char.ofNat byte.toNat) = s := by
    rw [HeaderValue.ofText, List.map_map]
    refine (List.map_congr_left ?_).trans (List.map_id s)
    intro c hc
    rw [Function.comp_apply, htoNat c hc, Char.ofNat_toNat, id]
  rw [HeaderValue.toStr, if_pos hvisible, hmap]

theorem formUrlencoded_ne_nil {pairs : List (Text × Text)} (h : pairs ≠ []) :
    FormUrlencoded.serialize pairs ≠ [] := by
  intro heq
  have hsplit := FormUrlencoded.splitOn_serialize h
  obtain ⟨pair, rest, rfl⟩ := List.exists_cons_of_ne_nil h
  rw [heq, List.splitOn_nil, List.map_cons] at hsplit
  simp [FormUrlencoded.encodePair] at hsplit

section

variable [CharacterClasses]

theorem all_isXml10Character {minimumChars maximumChars : Nat} {value : Text}
    (h : TextWithin minimumChars maximumChars value) : value.all isXml10Character = true := by
  rw [List.all_eq_true]
  intro c hc
  exact isXml10Character_of_isValidTagCharacter (List.all_eq_true.1 h.2.2 c hc)

theorem not_mem_of_textWithin {minimumChars maximumChars : Nat} {value : Text}
    (h : TextWithin minimumChars maximumChars value) : '\r' ∉ value := by
  intro hmem
  have hcontrol := not_isControl_of_isValidTagCharacter (List.all_eq_true.1 h.2.2 '\r' hmem)
  exact absurd hcontrol (by decide)

theorem byteLength_tagForest_le {tags : List S3ObjectTag} (h : ∀ tag ∈ tags, tag.IsValid) :
    Utf8.byteLength (tagForest tags).write ≤ 2400 * tags.length := by
  induction tags with
  | nil => exact Nat.zero_le _
  | cons tag tags ih =>
      rw [List.forall_mem_cons] at h
      obtain ⟨⟨hkey, hvalue⟩, htags⟩ := h
      have hkeys := Xml.byteLength_escape_le tag.key
      have hvalues := Xml.byteLength_escape_le tag.value
      have hrest := ih htags
      have hmarkup : Utf8.byteLength (Token.start (Tag.plain tagName)).write = 5 ∧
          Utf8.byteLength (Token.finish tagName).write = 6 ∧
          Utf8.byteLength (Token.start (Tag.plain keyName)).write = 5 ∧
          Utf8.byteLength (Token.finish keyName).write = 6 ∧
          Utf8.byteLength (Token.start (Tag.plain valueName)).write = 7 ∧
          Utf8.byteLength (Token.finish valueName).write = 8 := by
        decide
      have hlengths : tag.key.length ≤ 128 ∧ tag.value.length ≤ 256 := ⟨hkey.2.1, hvalue.2.1⟩
      have hempty : Xml.escape [] = [] := rfl
      rw [tagForest, Forest.single]
      simp only [Forest.write_cons, Utf8.byteLength_append, Forest.write_nil, hempty,
        Utf8.byteLength_nil, List.length_cons, Tag.plain] at hmarkup ⊢
      omega

/-- A set of at most fifty tags is small enough for the parser. -/
theorem withinLimits_taggingDocument {tags : List S3ObjectTag} {maximumTags : Nat}
    (h : CoreLimits maximumTags tags) (hmaximum : maximumTags ≤ maxS3BucketTags) :
    WithinLimits (taggingDocument tags) := by
  have hcount : tags.length ≤ 50 := h.count.trans hmaximum
  constructor
  · have hforest := byteLength_tagForest_le h.texts
    have hmarkup : Utf8.byteLength Token.declaration.write = 38 ∧
        Utf8.byteLength (Token.start (s3Tag taggingName)).write = 57 ∧
        Utf8.byteLength (Token.finish taggingName).write = 10 ∧
        Utf8.byteLength (Token.start (Tag.plain tagSetName)).write = 8 ∧
        Utf8.byteLength (Token.finish tagSetName).write = 9 := by
      decide +kernel
    have hempty : Xml.escape [] = [] := rfl
    simp only [Xml.Document.write, Xml.Document.forest, taggingDocument, Forest.single,
      Forest.write_cons, Utf8.byteLength_append, Forest.write_nil, hempty, Utf8.byteLength_nil,
      maxS3XmlBodyBytes] at hmarkup ⊢
    simp only [s3Tag, Tag.plain] at hmarkup ⊢
    omega
  · have hheight := height_tagForest_le tags
    rw [fits_iff]
    simp only [Fits, taggingDocument, Forest.single, Forest.height, Forest.count, count_tagForest,
      maxXmlDepth, maxXmlNodes]
    omega

theorem forall_texts_of_coreLimits {p : Text → Prop} {tags : List S3ObjectTag} {maximumTags : Nat}
    (h : CoreLimits maximumTags tags) (hempty : p [])
    (hp : ∀ {minimumChars maximumChars value}, TextWithin minimumChars maximumChars value →
      p value) :
    ∀ text ∈ (taggingDocument tags).texts, p text :=
  forall_texts_taggingDocument hempty fun tag htag =>
    ⟨hp (h.texts tag htag).1, hp (h.texts tag htag).2⟩

/-- What the parser makes of the document of a tag set. -/
theorem parseXmlDocument_taggingDocument (reader : Xml.Reader) {tags : List S3ObjectTag}
    {maximumTags : Nat} (h : CoreLimits maximumTags tags)
    (hmaximum : maximumTags ≤ maxS3BucketTags) :
    parseXmlDocument reader (Utf8.bytes (taggingDocument tags).write) =
      .ok (documentNode id (taggingDocument tags)) := by
  have hvalid : ∀ text ∈ (taggingDocument tags).texts, text.all isXml10Character = true :=
    forall_texts_of_coreLimits h rfl all_isXml10Character
  have hreturn : ∀ text ∈ (taggingDocument tags).texts, '\r' ∉ text :=
    forall_texts_of_coreLimits h List.not_mem_nil not_mem_of_textWithin
  refine (parseXmlDocument_write reader hvalid).2 ⟨withinLimits_taggingDocument h hmaximum, ?_⟩
  refine ((documentNode_eq_iff normalizeEol _).2 ?_).symm
  intro text htext
  exact Xml.normalizeEol_eq_self_iff.2 (hreturn text htext)

theorem parseTag_ok {tag : S3ObjectTag} (h : tag.IsValid) :
    parseTag ⟨tagName.text, [], [], [⟨keyName.text, [], tag.key, []⟩,
      ⟨valueName.text, [], tag.value, []⟩]⟩ = .ok tag := by
  have hnew : S3ObjectTag.new tag.key tag.value = .ok tag := S3ObjectTag.new_eq_ok_iff.2 ⟨rfl, h⟩
  have htrim : trim [] = [] := rfl
  rw [parseTag, andThen_eq_ok_iff, rejectIf_eq_ok_iff]
  refine ⟨by simp [htrim], ?_⟩
  dsimp only
  rw [andThen_eq_ok_iff, rejectIf_eq_ok_iff, hnew]
  exact ⟨by simp, rfl⟩

theorem mapM_parseTag {tags : List S3ObjectTag} (h : ∀ tag ∈ tags, tag.IsValid) :
    (nodes id (tagForest tags)).mapM parseTag = .ok tags := by
  induction tags with
  | nil => rfl
  | cons tag tags ih =>
      rw [List.forall_mem_cons] at h
      exact mapM_cons_eq_ok_iff.2 ⟨tag, tags, parseTag_ok h.1, ih h.2, rfl⟩

theorem parseTagging_documentNode (set : S3ObjectTags) :
    parseTagging (documentNode id (taggingDocument set.tags)) = .ok set := by
  rw [documentNode, taggingDocument, parseTagging, andThen_eq_ok_iff, rejectIf_eq_ok_iff]
  simp only [not_or, not_not]
  refine ⟨⟨rfl, rfl, rfl⟩, ?_⟩
  dsimp only [Forest.single, nodes]
  rw [andThen_eq_ok_iff, rejectIf_eq_ok_iff, mapM_parseTag set.coreLimits.texts, ok_bind,
    S3TagSet.new_tags]
  simp only [not_or, not_not]
  exact ⟨⟨rfl, rfl, rfl⟩, rfl⟩

theorem parseObjectTaggingXml_taggingDocument (reader : Xml.Reader) (set : S3ObjectTags) :
    parseObjectTaggingXml reader (Utf8.bytes (taggingDocument set.tags).write) = .ok set := by
  have hlimit : maxS3ObjectTags ≤ maxS3BucketTags := by decide
  rw [parseObjectTaggingXml, parseXmlDocument_taggingDocument reader set.coreLimits hlimit]
  exact parseTagging_documentNode set

theorem pushTag_eq_ok {tag : S3ObjectTag} (h : tag.IsValid) (output : Text) :
    pushTag output tag = .ok (output ++ (tagForest [tag]).write) := by
  have hstart : "<Tag>".toList = (Token.start (Tag.plain tagName)).write := by decide
  have hfinish : "</Tag>".toList = (Token.finish tagName).write := by decide
  rw [pushTag, pushElement_eq_ok _ _ _ (all_isXml10Character h.1), ok_bind,
    pushElement_eq_ok _ _ _ (all_isXml10Character h.2), ok_bind, hstart, hfinish]
  refine congrArg Except.ok ?_
  have hempty : Xml.escape [] = [] := rfl
  simp only [tagForest, Forest.single, Forest.write_cons, Forest.write_nil, hempty, Tag.plain,
    List.nil_append, List.append_nil, List.append_assoc]

theorem foldlM_pushTag {tags : List S3ObjectTag} (h : ∀ tag ∈ tags, tag.IsValid)
    (output : Text) : tags.foldlM pushTag output = .ok (output ++ (tagForest tags).write) := by
  induction tags generalizing output with
  | nil =>
      rw [tagForest, Forest.write_nil, List.append_nil]
      rfl
  | cons tag tags ih =>
      rw [List.forall_mem_cons] at h
      rw [List.foldlM_cons, pushTag_eq_ok h.1, ok_bind, ih h.2]
      simp only [tagForest, Forest.write_cons, Forest.write_nil, List.append_nil,
        List.append_assoc]

theorem objectTaggingXml_eq (set : S3ObjectTags) :
    objectTaggingXml set = .ok (taggingDocument set.tags).write := by
  have hvalidate : set.validate.mapError (fun _ => S3XmlError.invalidXmlCharacter) = .ok () := by
    rw [S3TagSet.validate_eq_ok]
    rfl
  rw [objectTaggingXml, hvalidate, ok_bind]
  dsimp only
  rw [foldlM_pushTag set.coreLimits.texts, ok_bind, write_taggingDocument]
  rfl

/-- The form of a tag set. -/
def formUrlencoded (tags : List S3ObjectTag) : Text :=
  FormUrlencoded.serialize (tags.map fun tag => (tag.key, tag.value))

theorem parseTagPair_encodePair {tag : S3ObjectTag} (h : tag.IsValid) :
    parseTagPair (FormUrlencoded.encodePair (tag.key, tag.value)) = .ok tag := by
  have hvalue : '=' ∉ FormUrlencoded.encode tag.value :=
    FormUrlencoded.not_mem_encode (by decide)
  have hnew : S3ObjectTag.new tag.key tag.value = .ok tag := S3ObjectTag.new_eq_ok_iff.2 ⟨rfl, h⟩
  rw [parseTagPair, FormUrlencoded.splitOnce_encodePair]
  dsimp only
  rw [andThen_eq_ok_iff, rejectIf_eq_ok_iff, strictFormComponentDecode_encode, ok_bind,
    strictFormComponentDecode_encode, ok_bind, hnew]
  exact ⟨hvalue, rfl⟩

theorem mapM_parseTagPair {tags : List S3ObjectTag} (h : ∀ tag ∈ tags, tag.IsValid) :
    ((tags.map fun tag => (tag.key, tag.value)).map FormUrlencoded.encodePair).mapM parseTagPair =
      .ok tags := by
  induction tags with
  | nil => rfl
  | cons tag tags ih =>
      rw [List.forall_mem_cons] at h
      exact mapM_cons_eq_ok_iff.2 ⟨tag, tags, parseTagPair_encodePair h.1, ih h.2, rfl⟩

/-- A header that holds the form of a set. -/
theorem parseS3TaggingHeader_formUrlencoded (set : S3ObjectTags) {headers : HeaderMap}
    (h : headers.getAll "x-amz-tagging".toList = [HeaderValue.ofText (formUrlencoded set.tags)]) :
    parseS3TaggingHeader headers = .ok (some set) := by
  have hvisible : (HeaderValue.ofText (formUrlencoded set.tags)).toStr =
      some (formUrlencoded set.tags) :=
    toStr_ofText fun c hc => FormUrlencoded.visible_of_mem hc
  have hheader : optionalSingleS3Header headers "x-amz-tagging" =
      .ok (some (formUrlencoded set.tags)) := by
    rw [optionalSingleS3Header, h]
    dsimp only
    rw [hvisible]
  rw [parseS3TaggingHeader, hheader, ok_bind]
  dsimp only
  by_cases hempty : set.tags = []
  · have hset : (S3TagSet.empty : S3ObjectTags) = set := by
      cases set
      simp only [S3TagSet.empty]
      congr
      exact hempty.symm
    rw [if_pos (by rw [hempty]; rfl), hset]
    rfl
  · have hpairs : (set.tags.map fun tag => (tag.key, tag.value)) ≠ [] := by simpa using hempty
    rw [formUrlencoded, if_neg (formUrlencoded_ne_nil hpairs),
      FormUrlencoded.splitOn_serialize hpairs, mapM_parseTagPair set.coreLimits.texts, ok_bind,
      S3TagSet.new_tags]
    rfl

end

end MediaHub.Http
