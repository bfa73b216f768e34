import MediaHub.Http.LifecycleXml

namespace MediaHub.Http.Lifecycle

open Result
open MediaHub.Core (S3LifecycleRuleStatus S3LifecycleRule S3LifecycleConfiguration Time)
open Xml (Forest Tag Token normalizeEol)
open Text (isAsciiDigit)

def lifecycleConfigurationName : Xml.Name := ⟨"LifecycleConfiguration".toList, by decide, by decide⟩
def ruleName : Xml.Name := ⟨"Rule".toList, by decide, by decide⟩
def idName : Xml.Name := ⟨"ID".toList, by decide, by decide⟩
def filterName : Xml.Name := ⟨"Filter".toList, by decide, by decide⟩
def prefixName : Xml.Name := ⟨"Prefix".toList, by decide, by decide⟩
def statusName : Xml.Name := ⟨"Status".toList, by decide, by decide⟩
def expirationName : Xml.Name := ⟨"Expiration".toList, by decide, by decide⟩
def daysName : Xml.Name := ⟨"Days".toList, by decide, by decide⟩
def dateName : Xml.Name := ⟨"Date".toList, by decide, by decide⟩
def markerName : Xml.Name := ⟨"ExpiredObjectDeleteMarker".toList, by decide, by decide⟩
def noncurrentName : Xml.Name := ⟨"NoncurrentVersionExpiration".toList, by decide, by decide⟩
def noncurrentDaysName : Xml.Name := ⟨"NoncurrentDays".toList, by decide, by decide⟩
def abortName : Xml.Name := ⟨"AbortIncompleteMultipartUpload".toList, by decide, by decide⟩
def daysAfterName : Xml.Name := ⟨"DaysAfterInitiation".toList, by decide, by decide⟩

/-- An element with a text, before others. -/
def leaf (name : Xml.Name) (text : Text) (next : Forest) : Forest :=
  .cons (Tag.plain name) text .nil next

/-- An element with elements, before others. -/
def branch (name : Xml.Name) (children next : Forest) : Forest :=
  .cons (Tag.plain name) [] children next

/-- An element that may be missing, before others. -/
def optional {α : Type} (value : Option α) (element : α → Forest → Forest) (next : Forest) :
    Forest :=
  value.elim next fun value => element value next

def filterForest : S3LifecycleFilter → Forest → Forest
  | .empty => branch filterName .nil
  | .prefixed value => branch filterName (leaf prefixName value .nil)

def expirationForest : S3LifecycleExpiration → Forest
  | .days count => leaf daysName (Nat.toDigits 10 count) .nil
  | .date text => leaf dateName text .nil
  | .expiredObjectDeleteMarker => leaf markerName "true".toList .nil

def actionsForest (rule : S3LifecycleRuleDocument) : Forest :=
  optional rule.expiration (fun expiration => branch expirationName (expirationForest expiration))
    (optional rule.noncurrentDays
      (fun days => branch noncurrentName (leaf noncurrentDaysName (Nat.toDigits 10 days) .nil))
      (optional rule.daysAfterInitiation
        (fun days => branch abortName (leaf daysAfterName (Nat.toDigits 10 days) .nil)) .nil))

def ruleForest (rule : S3LifecycleRuleDocument) : Forest :=
  optional rule.id (leaf idName)
    (filterForest rule.filter (leaf statusName (statusText rule.status) (actionsForest rule)))

def rulesForest : List S3LifecycleRuleDocument → Forest
  | [] => .nil
  | rule :: rules => branch ruleName (ruleForest rule) (rulesForest rules)

def xmlDocument (document : S3LifecycleDocument) : Xml.Document where
  tag := s3Tag lifecycleConfigurationName
  text := []
  children := rulesForest document.rules

theorem write_leaf (name : Xml.Name) (text : Text) (next : Forest) :
    (leaf name text next).write = (Token.start (Tag.plain name)).write ++ (Xml.escape text ++
      ((Token.finish name).write ++ next.write)) := by
  rw [leaf, Forest.write_cons, Forest.write_nil, List.nil_append]
  rfl

theorem write_branch (name : Xml.Name) (children next : Forest) :
    (branch name children next).write = (Token.start (Tag.plain name)).write ++ (children.write ++
      ((Token.finish name).write ++ next.write)) := by
  have hempty : Xml.escape [] = [] := rfl
  rw [branch, Forest.write_cons, hempty, List.nil_append]
  rfl

/-- An element that writes itself and then the others. -/
def WritesFirst (element : Forest → Forest) (text : Text) : Prop :=
  ∀ next, (element next).write = text ++ next.write

theorem write_optional {α : Type} {value : Option α} {element : α → Forest → Forest}
    {text : α → Text} (h : ∀ value, WritesFirst (element value) (text value)) (next : Forest) :
    (optional value element next).write = value.elim [] text ++ next.write := by
  cases value with
  | none => rfl
  | some value => exact h value next

theorem writesFirst_leaf {name : Xml.Name} {opening closing : Text}
    (hopening : opening = (Token.start (Tag.plain name)).write)
    (hclosing : closing = (Token.finish name).write) (text : Text) :
    WritesFirst (leaf name text) (opening ++ Xml.escape text ++ closing) := by
  intro next
  rw [write_leaf, hopening, hclosing]
  simp only [List.append_assoc]

theorem writesFirst_branch {name : Xml.Name} {opening closing : Text}
    (hopening : opening = (Token.start (Tag.plain name)).write)
    (hclosing : closing = (Token.finish name).write) (children : Forest) :
    WritesFirst (branch name children) (opening ++ children.write ++ closing) := by
  intro next
  rw [write_branch, hopening, hclosing]
  simp only [List.append_assoc]

/-- An element with a text, within another. -/
theorem writesFirst_nested {outer inner : Xml.Name} {opening closing : Text}
    (hopening : opening =
      (Token.start (Tag.plain outer)).write ++ (Token.start (Tag.plain inner)).write)
    (hclosing : closing = (Token.finish inner).write ++ (Token.finish outer).write) (text : Text) :
    WritesFirst (branch outer (leaf inner text .nil)) (opening ++ Xml.escape text ++ closing) := by
  intro next
  rw [write_branch, write_leaf, hopening, hclosing]
  simp only [Forest.write_nil, List.append_nil, List.append_assoc]

theorem escape_eq_self {text : Text} (h : ∀ c ∈ text, Xml.entity c = none) :
    Xml.escape text = text := by
  induction text with
  | nil => rfl
  | cons c text ih =>
      rw [Xml.escape_of_none (h c List.mem_cons_self), ih fun d hd =>
        h d (List.mem_cons_of_mem _ hd)]

/-- The characters of a number are among those of a moment. -/
theorem mem_dateCharacters_of_toDigits {n : Nat} {c : Char} (h : c ∈ Nat.toDigits 10 n) :
    c ∈ dateCharacters := by
  obtain ⟨digits, hdigits, hbound, -⟩ := Text.exists_digits (show 1 < 10 by decide) n
  rw [hdigits] at h
  obtain ⟨digit, hdigit, rfl⟩ := List.mem_map.1 h
  have hall : ∀ d < 10, d.digitChar ∈ dateCharacters := by decide
  exact hall digit (hbound digit hdigit)

section

variable {text : Text} (h : ∀ c ∈ text, c ∈ dateCharacters)

include h

theorem forall_of_dateCharacters {p : Char → Prop} [DecidablePred p]
    (hall : dateCharacters.all (fun c => p c) = true) : ∀ c ∈ text, p c :=
  fun c hc => of_decide_eq_true (List.all_eq_true.1 hall c (h c hc))

theorem escape_dateCharacters : Xml.escape text = text :=
  escape_eq_self (forall_of_dateCharacters h (by decide))

theorem normalizeEol_dateCharacters : normalizeEol text = text :=
  Xml.normalizeEol_eq_self_iff.2 fun hreturn => absurd (h _ hreturn) (by decide)

theorem trim_dateCharacters : trim text = text :=
  Text.trim_eq_self (forall_of_dateCharacters h (by decide))

theorem byteLength_dateCharacters : Utf8.byteLength text = text.length :=
  Utf8.byteLength_eq_length (forall_of_dateCharacters h (by decide))

end

theorem toDigits_ne_nil (n : Nat) : Nat.toDigits 10 n ≠ [] := by
  rw [Nat.toDigits_eq_if (by decide)]
  split
  · exact List.cons_ne_nil _ _
  · exact List.append_ne_nil_of_right_ne_nil _ (List.cons_ne_nil _ _)

/-- What is written is read back. -/
theorem parseU32_toDigits {n : Nat} (h : n ≤ 4294967295) :
    parseU32 (Nat.toDigits 10 n) = some n := by
  obtain ⟨digits, hdigits, hbound, hvalue⟩ := Text.exists_digits (show 1 < 10 by decide) n
  have hdigit : ∀ d < 10, isAsciiDigit d.digitChar = true ∧ d.digitChar.toNat - '0'.toNat = d := by
    decide
  have hall : (Nat.toDigits 10 n).all isAsciiDigit = true := by
    rw [hdigits, List.all_map, List.all_eq_true]
    exact fun d hd => (hdigit d (hbound d hd)).1
  have hnumber : Http.digits (Nat.toDigits 10 n) = n := by
    rw [hdigits, Http.digits, List.foldl_map, ← hvalue, Text.ofDigits]
    refine List.foldl_ext _ _ _ fun sum d hd => ?_
    rw [(hdigit d (hbound d hd)).2]
  have hplus : ∀ rest, Nat.toDigits 10 n ≠ '+' :: rest := by
    intro rest heq
    rw [heq, List.all_cons, Bool.and_eq_true] at hall
    exact absurd hall.1 (by decide)
  have hnonempty : (Nat.toDigits 10 n).isEmpty = false :=
    List.isEmpty_eq_false_iff.2 (toDigits_ne_nil n)
  have hmax : n ≤ Core.maxU64 := h.trans (by decide)
  rw [parseU32, parseU64.eq_2 _ hplus, hall, hnumber, hnonempty]
  simp [hmax, h]

theorem write_filterForest (filter : S3LifecycleFilter) (next : Forest) :
    (filterForest filter next).write = filter.write ++ next.write := by
  cases filter with
  | empty =>
      have hwritten : "<Filter></Filter>".toList =
          (Token.start (Tag.plain filterName)).write ++ (Token.finish filterName).write := by
        decide
      unfold S3LifecycleFilter.write
      rw [filterForest, write_branch, hwritten, Forest.write_nil, List.nil_append,
        List.append_assoc]
  | prefixed value =>
      have hwritten := @writesFirst_nested filterName prefixName "<Filter><Prefix>".toList
        "</Prefix></Filter>".toList (by decide) (by decide) value next
      rwa [← escapeS3Xml_eq] at hwritten

theorem write_expirationForest (expiration : S3LifecycleExpiration) :
    (expirationForest expiration).write = expiration.write := by
  cases expiration with
  | days count =>
      have hwritten := @writesFirst_leaf daysName "<Days>".toList "</Days>".toList
        (by decide) (by decide) (Nat.toDigits 10 count) .nil
      rw [escape_dateCharacters fun _ => mem_dateCharacters_of_toDigits, Forest.write_nil,
        List.append_nil] at hwritten
      exact hwritten
  | date text =>
      have hwritten := @writesFirst_leaf dateName "<Date>".toList "</Date>".toList
        (by decide) (by decide) text .nil
      rw [Forest.write_nil, List.append_nil, ← escapeS3Xml_eq] at hwritten
      exact hwritten
  | expiredObjectDeleteMarker => decide

theorem writesFirst_status (status : S3LifecycleRuleStatus) :
    WritesFirst (leaf statusName (statusText status))
      ("<Status>".toList ++ statusText status ++ "</Status>".toList) := by
  have hescape : Xml.escape (statusText status) = statusText status := by
    cases status
    · decide
    · decide
  have hwritten := @writesFirst_leaf statusName "<Status>".toList "</Status>".toList
    (by decide) (by decide) (statusText status)
  rwa [hescape] at hwritten

/-- A number is written as it is, within an element within another. -/
theorem writesFirst_count {outer inner : Xml.Name} {opening closing : Text}
    (hopening : opening =
      (Token.start (Tag.plain outer)).write ++ (Token.start (Tag.plain inner)).write)
    (hclosing : closing = (Token.finish inner).write ++ (Token.finish outer).write) (days : Nat) :
    WritesFirst (branch outer (leaf inner (Nat.toDigits 10 days) .nil))
      (opening ++ Nat.toDigits 10 days ++ closing) := by
  have hwritten := writesFirst_nested hopening hclosing (Nat.toDigits 10 days)
  rwa [escape_dateCharacters fun _ => mem_dateCharacters_of_toDigits] at hwritten

theorem write_ruleForest (rule : S3LifecycleRuleDocument) :
    (Token.start (Tag.plain ruleName)).write ++ (ruleForest rule).write ++
      (Token.finish ruleName).write = rule.write := by
  have hid : ∀ id, WritesFirst (leaf idName id)
      ("<ID>".toList ++ escapeS3Xml id ++ "</ID>".toList) := by
    intro id
    rw [escapeS3Xml_eq]
    exact writesFirst_leaf (by decide) (by decide) id
  have hexpiration : ∀ expiration, WritesFirst (branch expirationName (expirationForest expiration))
      ("<Expiration>".toList ++ expiration.write ++ "</Expiration>".toList) := by
    intro expiration
    rw [← write_expirationForest]
    exact writesFirst_branch (by decide) (by decide) _
  have hnoncurrent := @writesFirst_count noncurrentName noncurrentDaysName
    "<NoncurrentVersionExpiration><NoncurrentDays>".toList
    "</NoncurrentDays></NoncurrentVersionExpiration>".toList (by decide) (by decide)
  have habort := @writesFirst_count abortName daysAfterName
    "<AbortIncompleteMultipartUpload><DaysAfterInitiation>".toList
    "</DaysAfterInitiation></AbortIncompleteMultipartUpload>".toList (by decide) (by decide)
  have hopening : (Token.start (Tag.plain ruleName)).write = "<Rule>".toList := by decide
  have hclosing : (Token.finish ruleName).write = "</Rule>".toList := by decide
  unfold S3LifecycleRuleDocument.write
  rw [ruleForest, write_optional hid, write_filterForest, writesFirst_status, actionsForest,
    write_optional hexpiration, write_optional hnoncurrent, write_optional habort, hopening,
    hclosing, Forest.write_nil]
  simp only [List.append_assoc, List.append_nil]

theorem write_rulesForest (rules : List S3LifecycleRuleDocument) :
    (rulesForest rules).write = rules.flatMap S3LifecycleRuleDocument.write := by
  induction rules with
  | nil => rfl
  | cons rule rules ih =>
      rw [rulesForest, write_branch, List.flatMap_cons, ih, ← write_ruleForest]
      simp only [List.append_assoc]

theorem s3BucketLifecycleXml_eq (document : S3LifecycleDocument) :
    s3BucketLifecycleXml document = (xmlDocument document).write := by
  have hstart :
      "<?xml version=\"1.0\" encoding=\"UTF-8\"?><LifecycleConfiguration xmlns=\"".toList ++
        s3XmlNamespace ++ "\">".toList = xmlDocumentStart lifecycleConfigurationName.text := by
    decide
  have hclosing : "</LifecycleConfiguration>".toList =
      (Token.finish lifecycleConfigurationName).write := by
    decide
  have hempty : Xml.escape [] = [] := rfl
  unfold s3BucketLifecycleXml
  rw [hstart, hclosing, xmlDocumentStart_eq, ← write_rulesForest,
    Xml.Document.write, Xml.Document.forest, Forest.single, Forest.write_cons, Forest.write_nil,
    List.append_nil, xmlDocument, hempty, List.nil_append]
  simp only [List.append_assoc]
  rfl

/-- Elements whose names have no prefix, before any such. -/
def UnprefixedFirst (element : Forest → Forest) : Prop :=
  ∀ next : Forest, next.AllTags Unprefixed → (element next).AllTags Unprefixed

theorem unprefixed_leaf {name : Xml.Name} (h : Unprefixed (Tag.plain name)) (text : Text) :
    UnprefixedFirst (leaf name text) := fun _ hnext => ⟨h, trivial, hnext⟩

theorem unprefixed_branch {name : Xml.Name} (h : Unprefixed (Tag.plain name)) {children : Forest}
    (hchildren : children.AllTags Unprefixed) : UnprefixedFirst (branch name children) :=
  fun _ hnext => ⟨h, hchildren, hnext⟩

theorem unprefixed_optional {α : Type} {value : Option α} {element : α → Forest → Forest}
    (h : ∀ value, UnprefixedFirst (element value)) : UnprefixedFirst (optional value element) := by
  intro next hnext
  cases value with
  | none => exact hnext
  | some value => exact h value next hnext

theorem unprefixed_filterForest (filter : S3LifecycleFilter) :
    UnprefixedFirst (filterForest filter) := by
  cases filter with
  | empty => exact unprefixed_branch (by decide) trivial
  | prefixed value =>
      exact unprefixed_branch (by decide) (unprefixed_leaf (by decide) value .nil trivial)

theorem allTags_expirationForest (expiration : S3LifecycleExpiration) :
    (expirationForest expiration).AllTags Unprefixed := by
  cases expiration with
  | days count => exact unprefixed_leaf (by decide) _ .nil trivial
  | date text => exact unprefixed_leaf (by decide) _ .nil trivial
  | expiredObjectDeleteMarker => exact unprefixed_leaf (by decide) _ .nil trivial

theorem allTags_ruleForest (rule : S3LifecycleRuleDocument) :
    (ruleForest rule).AllTags Unprefixed := by
  apply unprefixed_optional fun id => unprefixed_leaf (by decide) id
  apply unprefixed_filterForest
  apply unprefixed_leaf (by decide)
  apply unprefixed_optional fun expiration =>
    unprefixed_branch (by decide) (allTags_expirationForest expiration)
  apply unprefixed_optional fun days =>
    unprefixed_branch (by decide) (unprefixed_leaf (by decide) _ .nil trivial)
  apply unprefixed_optional fun days =>
    unprefixed_branch (by decide) (unprefixed_leaf (by decide) _ .nil trivial)
  trivial

theorem allTags_rulesForest (rules : List S3LifecycleRuleDocument) :
    (rulesForest rules).AllTags Unprefixed := by
  induction rules with
  | nil => trivial
  | cons rule rules ih =>
      exact unprefixed_branch (by decide) (allTags_ruleForest rule) _ ih

theorem allTags_xmlDocument (document : S3LifecycleDocument) :
    (xmlDocument document).forest.AllTags Unprefixed := by
  have hroot : Unprefixed (s3Tag lifecycleConfigurationName) := by decide
  exact ⟨hroot, allTags_rulesForest document.rules, trivial⟩

def escapedSize (c : Char) : Nat :=
  if c = '&' then 5
  else if c = '<' ∨ c = '>' then 4
  else if c = '"' ∨ c = '\'' then 6
  else c.utf8Size

/-- The bytes of a text once it is escaped. -/
def escapedBytes (text : Text) : Nat := (text.map escapedSize).sum

/-- The bytes of an element around what is in it. -/
def elementBytes (name : Xml.Name) (content : Nat) : Nat :=
  2 * Utf8.byteLength name.text + 5 + content

def filterBytes : Core.S3LifecycleFilter → Nat
  | .empty => elementBytes filterName 0
  | .prefixed pre => elementBytes filterName (elementBytes prefixName (escapedBytes pre.toList))

def expirationBytes : Core.S3Expiration → Nat
  | .days days => elementBytes daysName (Nat.toDigits 10 days).length
  | .date _ => elementBytes dateName 20
  | .expiredObjectDeleteMarker => elementBytes markerName 4

/-- The bytes of a number in an element within another. -/
def countBytes (outer inner : Xml.Name) (days : Nat) : Nat :=
  elementBytes outer (elementBytes inner (Nat.toDigits 10 days).length)

def ruleBytes (rule : S3LifecycleRule) : Nat :=
  elementBytes ruleName
    ((rule.id.elim 0 fun id => elementBytes idName (escapedBytes id.toList)) +
      (filterBytes rule.filter +
        (elementBytes statusName (statusText rule.status).length +
          ((rule.expiration.elim 0 fun expiration =>
              elementBytes expirationName (expirationBytes expiration)) +
            (rule.noncurrentDays.elim 0 (countBytes noncurrentName noncurrentDaysName) +
              rule.daysAfterInitiation.elim 0 (countBytes abortName daysAfterName))))))

/-- The declaration and the namespace are 86 bytes. -/
def configurationBytes (configuration : S3LifecycleConfiguration) : Nat :=
  86 + elementBytes lifecycleConfigurationName (configuration.rules.map ruleBytes).sum

theorem byteLength_escape (text : Text) :
    Utf8.byteLength (Xml.escape text) = escapedBytes text := by
  have hcharacter : ∀ c, Utf8.byteLength
      ((Xml.entity c).elim [c] fun name => (Token.reference name).write) = escapedSize c := by
    intro c
    unfold Xml.entity escapedSize
    split_ifs
    all_goals first | rfl | simp_all
  rw [Xml.escape, escapedBytes]
  induction text with
  | nil => rfl
  | cons c text ih =>
      rw [List.flatMap_cons, Utf8.byteLength_append, hcharacter, ih, List.map_cons, List.sum_cons]

/-- An element of so many bytes, before others. -/
def Takes (element : Forest → Forest) (size : Nat) : Prop :=
  ∀ next : Forest, Utf8.byteLength (element next).write = size + Utf8.byteLength next.write

theorem byteLength_start (name : Xml.Name) :
    Utf8.byteLength (Token.start (Tag.plain name)).write = Utf8.byteLength name.text + 2 := by
  have hwrite : (Token.start (Tag.plain name)).write = '<' :: (name.text ++ [] ++ ['>']) := rfl
  have hless : '<'.utf8Size = 1 := by decide
  have hgreater : '>'.utf8Size = 1 := by decide
  simp only [hwrite, List.append_nil, Utf8.byteLength_cons, Utf8.byteLength_append,
    Utf8.byteLength_nil, hless, hgreater]
  omega

theorem byteLength_finish (name : Xml.Name) :
    Utf8.byteLength (Token.finish name).write = Utf8.byteLength name.text + 3 := by
  have hwrite : (Token.finish name).write = '<' :: '/' :: (name.text ++ ['>']) := rfl
  have hless : '<'.utf8Size = 1 := by decide
  have hslash : '/'.utf8Size = 1 := by decide
  have hgreater : '>'.utf8Size = 1 := by decide
  simp only [hwrite, Utf8.byteLength_cons, Utf8.byteLength_append, Utf8.byteLength_nil, hless,
    hslash, hgreater]
  omega

theorem takes_leaf (name : Xml.Name) {text : Text} {size : Nat} (h : escapedBytes text = size) :
    Takes (leaf name text) (elementBytes name size) := by
  intro next
  rw [write_leaf, Utf8.byteLength_append, Utf8.byteLength_append, Utf8.byteLength_append,
    byteLength_start, byteLength_finish, byteLength_escape, h, elementBytes]
  omega

theorem takes_branch (name : Xml.Name) {children : Forest} {size : Nat}
    (h : Utf8.byteLength children.write = size) :
    Takes (branch name children) (elementBytes name size) := by
  intro next
  rw [write_branch, Utf8.byteLength_append, Utf8.byteLength_append, Utf8.byteLength_append,
    byteLength_start, byteLength_finish, h, elementBytes]
  omega

theorem takes_optional {α : Type} {value : Option α} {element : α → Forest → Forest}
    {size : α → Nat} (h : ∀ value, Takes (element value) (size value)) :
    Takes (optional value element) (value.elim 0 size) := by
  intro next
  cases value with
  | none => exact (Nat.zero_add _).symm
  | some value => exact h value next

theorem Takes.alone {element : Forest → Forest} {size : Nat} (h : Takes element size) :
    Utf8.byteLength (element .nil).write = size :=
  (h .nil).trans (Nat.add_zero size)

theorem escapedBytes_dateCharacters {text : Text} (h : ∀ c ∈ text, c ∈ dateCharacters) :
    escapedBytes text = text.length := by
  rw [← byteLength_escape, escape_dateCharacters h, byteLength_dateCharacters h]

theorem escapedBytes_toDigits (days : Nat) :
    escapedBytes (Nat.toDigits 10 days) = (Nat.toDigits 10 days).length :=
  escapedBytes_dateCharacters fun _ => mem_dateCharacters_of_toDigits

theorem takes_count (outer inner : Xml.Name) (days : Nat) :
    Takes (branch outer (leaf inner (Nat.toDigits 10 days) .nil)) (countBytes outer inner days) :=
  takes_branch outer (takes_leaf inner (escapedBytes_toDigits days)).alone

theorem takes_filterForest (filter : Core.S3LifecycleFilter) :
    Takes (filterForest (.fromCore filter)) (filterBytes filter) := by
  cases filter with
  | empty => exact takes_branch filterName rfl
  | prefixed pre => exact takes_branch filterName (takes_leaf prefixName rfl).alone

theorem takes_id (id : Option String) :
    Takes (optional (id.map String.toList) (leaf idName))
      (id.elim 0 fun id => elementBytes idName (escapedBytes id.toList)) := by
  cases id with
  | none => exact fun _ => (Nat.zero_add _).symm
  | some id => exact takes_leaf idName rfl

theorem takes_status (status : S3LifecycleRuleStatus) :
    Takes (leaf statusName (statusText status))
      (elementBytes statusName (statusText status).length) := by
  apply takes_leaf
  cases status
  · decide
  · decide

theorem byteLength_xmlDocument (document : S3LifecycleDocument) :
    Utf8.byteLength (xmlDocument document).write =
      86 + elementBytes lifecycleConfigurationName
        (Utf8.byteLength (rulesForest document.rules).write) := by
  have hstart : Utf8.byteLength Token.declaration.write +
      Utf8.byteLength (Token.start (s3Tag lifecycleConfigurationName)).write = 110 := by
    decide
  have hname : Utf8.byteLength lifecycleConfigurationName.text = 22 := by decide
  have hempty : Xml.escape [] = [] := rfl
  rw [Xml.Document.write, Xml.Document.forest, Forest.single, Forest.write_cons, xmlDocument,
    hempty, Forest.write_nil, List.append_nil, List.nil_append, Utf8.byteLength_append,
    Utf8.byteLength_append, Utf8.byteLength_append, byteLength_finish, elementBytes]
  simp only [s3Tag] at hstart ⊢
  omega

end MediaHub.Http.Lifecycle
