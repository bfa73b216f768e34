import MediaHub.Core.Bucket
import MediaHub.Http.ConfigurationXml
import MediaHub.Text.Digits

namespace MediaHub.Http.Lifecycle

open Result
open MediaHub.Core (S3LifecycleRuleStatus S3LifecycleRule S3LifecycleConfiguration S3ModelError
  Time)

def maxS3LifecycleRules : Nat := 1000
def maxS3LifecycleIdBytes : Nat := 255

inductive S3LifecycleFilter where
  | empty
  | prefixed (value : Text)
deriving DecidableEq

inductive S3LifecycleExpiration where
  | days (days : Nat)
  | date (date : Text)
  | expiredObjectDeleteMarker
deriving DecidableEq

structure S3LifecycleRuleDocument where
  id : Option Text
  status : S3LifecycleRuleStatus
  filter : S3LifecycleFilter
  expiration : Option S3LifecycleExpiration
  noncurrentDays : Option Nat
  daysAfterInitiation : Option Nat
deriving DecidableEq

structure S3LifecycleDocument where
  schemaVersion : Nat
  rules : List S3LifecycleRuleDocument
deriving DecidableEq

/-- What `chrono` reads: the day on the clock, the nanoseconds since its midnight, and the seconds
by which the clock is ahead of UTC. -/
structure ChronoDateTime where
  day : Int
  nanos : Nat
  offset : Int
deriving DecidableEq

def ChronoDateTime.isMidnightUtc (date : ChronoDateTime) : Bool := date.offset = 0 && date.nanos = 0

/-- The characters that a moment in UTC is written with. -/
def dateCharacters : Text := "0123456789-:TZ".toList

/-- RFC 3339 as the crates read and write it. -/
structure DateCrates where
  parseFromRfc3339 : Text → Option ChronoDateTime
  toRfc3339 : ChronoDateTime → Text
  parse : Text → Option Time
  format : Time → Except String Text
  parse_toRfc3339 : ∀ text date, parseFromRfc3339 text = some date → date.isMidnightUtc = true →
    parse (toRfc3339 date) = some (Time.days date.day)
  format_read : ∀ text date, parseFromRfc3339 text = some date → date.isMidnightUtc = true →
    ∃ written, format (Time.days date.day) = .ok written ∧ written.length = 20 ∧
      (∀ c ∈ written, c ∈ dateCharacters) ∧ parseFromRfc3339 written = some date

abbrev LifecycleResult := Except S3BucketConfigurationXmlError

def S3LifecycleFilter.toCore : S3LifecycleFilter → Core.S3LifecycleFilter
  | .empty => .empty
  | .prefixed value => .prefixed (String.ofList value)

def S3LifecycleFilter.fromCore : Core.S3LifecycleFilter → S3LifecycleFilter
  | .empty => .empty
  | .prefixed pre => .prefixed pre.toList

section

variable (crates : DateCrates)

def expirationToCore : S3LifecycleExpiration → LifecycleResult Core.S3Expiration
  | .days days => .ok (.days days)
  | .date date =>
      match crates.parse date with
      | some date => .ok (.date date)
      | none => .error (.invalid "Lifecycle Expiration Date is invalid.")
  | .expiredObjectDeleteMarker => .ok .expiredObjectDeleteMarker

def expirationFromCore : Core.S3Expiration → Except String S3LifecycleExpiration
  | .days days => .ok (.days days)
  | .date date => (crates.format date).map .date
  | .expiredObjectDeleteMarker => .ok .expiredObjectDeleteMarker

def ruleToCore (rule : S3LifecycleRuleDocument) : LifecycleResult S3LifecycleRule := do
  let expiration ← rule.expiration.mapM (expirationToCore crates)
  return {
    id := rule.id.map String.ofList
    status := rule.status
    filter := rule.filter.toCore
    expiration
    noncurrentDays := rule.noncurrentDays
    daysAfterInitiation := rule.daysAfterInitiation }

def ruleFromCore (rule : S3LifecycleRule) : Except String S3LifecycleRuleDocument := do
  let expiration ← rule.expiration.mapM (expirationFromCore crates)
  return {
    id := rule.id.map String.toList
    status := rule.status
    filter := .fromCore rule.filter
    expiration
    noncurrentDays := rule.noncurrentDays
    daysAfterInitiation := rule.daysAfterInitiation }

/-- `S3LifecycleConfiguration::new` -/
def newConfiguration (rules : List S3LifecycleRule) : LifecycleResult S3LifecycleConfiguration :=
  if h : Core.validLifecycleRules rules = true then .ok ⟨rules, h⟩
  else .error (.invalid ("Lifecycle configuration violates domain invariants: " ++
    S3ModelError.invalidLifecycleConfiguration.message))

def s3LifecycleDocumentToCore (document : S3LifecycleDocument) :
    LifecycleResult S3LifecycleConfiguration := do
  rejectIf (document.schemaVersion ≠ 1) (.invalid "Lifecycle document schema version is invalid.")
  let rules ← document.rules.mapM (ruleToCore crates)
  newConfiguration rules

/-- A configuration is valid already. -/
def s3LifecycleDocumentFromCore (configuration : S3LifecycleConfiguration) :
    Except String S3LifecycleDocument := do
  let rules ← configuration.rules.mapM (ruleFromCore crates)
  return ⟨1, rules⟩

end

/-- `parse::<u32>`: a leading plus sign is allowed. -/
def parseU32 (s : Text) : Option Nat := (parseU64 s).filter (· ≤ 4294967295)

def parseS3PositiveU32 (element : S3ConfigurationXmlElement) (field : String) :
    LifecycleResult Nat := do
  let value ← requiredS3LeafText element
  match (parseU32 value).filter (0 < ·) with
  | some value => return value
  | none => throw (.invalid (field ++ " must be a positive integer."))

def parseS3LifecycleDate (crates : DateCrates) (element : S3ConfigurationXmlElement) :
    LifecycleResult Text := do
  let value ← requiredS3LeafText element
  match crates.parseFromRfc3339 value with
  | none => throw (.invalid "Lifecycle Expiration Date must be an ISO-8601 timestamp.")
  | some parsed =>
      rejectIf (parsed.isMidnightUtc = false)
        (.invalid "Lifecycle Expiration Date must be midnight UTC.")
      return crates.toRfc3339 parsed

def parseS3LifecycleExpiration (crates : DateCrates) (element : S3ConfigurationXmlElement) :
    LifecycleResult S3LifecycleExpiration := do
  validateS3Container element
  match element.children with
  | [child] =>
      if child.name = "Days".toList then
        return .days (← parseS3PositiveU32 child "Expiration Days")
      else if child.name = "Date".toList then return .date (← parseS3LifecycleDate crates child)
      else if child.name = "ExpiredObjectDeleteMarker".toList then
        let value ← requiredS3LeafText child
        rejectIf (value ≠ "true".toList) (.invalid "ExpiredObjectDeleteMarker must be true.")
        return .expiredObjectDeleteMarker
      else throw .malformedXml
  | _ => throw .malformedXml

/-- The last arms of the match in `parse_s3_lifecycle_filter`. -/
def otherFilter (children : List S3ConfigurationXmlElement) : S3BucketConfigurationXmlError :=
  if children.any (fun child => ["Tag", "And", "ObjectSizeGreaterThan",
      "ObjectSizeLessThan"].any fun name => child.name = name.toList) then
    .unsupported "Lifecycle Tag, And, and ObjectSize filters are not supported."
  else .malformedXml

def parseS3LifecycleFilter (element : S3ConfigurationXmlElement) :
    LifecycleResult S3LifecycleFilter := do
  validateS3Container element
  match element.children with
  | [] => return .empty
  | [child] =>
      if child.name = "Prefix".toList then
        let value ← s3LeafText child
        rejectIf (1024 < Utf8.byteLength value ∨ '\x00' ∈ value)
          (.invalid "Lifecycle Prefix is invalid.")
        return .prefixed value
      else throw (otherFilter [child])
  | children => throw (otherFilter children)

def parseS3LifecycleNoncurrentExpiration (element : S3ConfigurationXmlElement) :
    LifecycleResult Nat := do
  validateS3Container element
  rejectIf
    (element.children.any (fun child => child.name = "NewerNoncurrentVersions".toList) = true)
    (.unsupported "Lifecycle NewerNoncurrentVersions is not supported.")
  match element.children with
  | [child] =>
      if child.name = "NoncurrentDays".toList then parseS3PositiveU32 child "NoncurrentDays"
      else throw .malformedXml
  | _ => throw .malformedXml

def parseS3LifecycleAbortMultipart (element : S3ConfigurationXmlElement) :
    LifecycleResult Nat := do
  validateS3Container element
  match element.children with
  | [child] =>
      if child.name = "DaysAfterInitiation".toList then
        parseS3PositiveU32 child "DaysAfterInitiation"
      else throw .malformedXml
  | _ => throw .malformedXml

def parseStatus (element : S3ConfigurationXmlElement) : LifecycleResult S3LifecycleRuleStatus := do
  let value ← requiredS3LeafText element
  if value = "Enabled".toList then return .enabled
  else if value = "Disabled".toList then return .disabled
  else throw (.invalid "Lifecycle rule Status must be Enabled or Disabled.")

def parseId (element : S3ConfigurationXmlElement) : LifecycleResult Text := do
  let value ← requiredS3LeafText element
  rejectIf (maxS3LifecycleIdBytes < Utf8.byteLength value)
    (.invalid "Lifecycle rule ID must not exceed 255 bytes.")
  return value

/-- The locals of `parse_s3_lifecycle_rule`. -/
structure RuleState where
  id : Option Text
  status : Option S3LifecycleRuleStatus
  filter : Option S3LifecycleFilter
  expiration : Option S3LifecycleExpiration
  noncurrentDays : Option Nat
  daysAfterInitiation : Option Nat

def RuleState.readChild (crates : DateCrates) (state : RuleState)
    (child : S3ConfigurationXmlElement) : LifecycleResult RuleState :=
  if child.name = "ID".toList ∧ state.id = none then do
    return { state with id := some (← parseId child) }
  else if child.name = "Status".toList ∧ state.status = none then do
    return { state with status := some (← parseStatus child) }
  else if child.name = "Filter".toList ∧ state.filter = none then do
    return { state with filter := some (← parseS3LifecycleFilter child) }
  else if child.name = "Expiration".toList ∧ state.expiration = none then do
    return { state with expiration := some (← parseS3LifecycleExpiration crates child) }
  else if child.name = "NoncurrentVersionExpiration".toList ∧ state.noncurrentDays = none then do
    return { state with noncurrentDays := some (← parseS3LifecycleNoncurrentExpiration child) }
  else if child.name = "AbortIncompleteMultipartUpload".toList ∧
      state.daysAfterInitiation = none then do
    return { state with daysAfterInitiation := some (← parseS3LifecycleAbortMultipart child) }
  else if child.name = "Transition".toList then
    throw (.unsupported "Lifecycle Transition is not supported.")
  else if child.name = "NoncurrentVersionTransition".toList then
    throw (.unsupported "Lifecycle NoncurrentVersionTransition is not supported.")
  else throw .malformedXml

def RuleState.finish (state : RuleState) : LifecycleResult S3LifecycleRuleDocument :=
  match state.filter, state.status with
  | none, _ => throw (.invalid "Lifecycle rule requires an empty Filter or a Prefix Filter.")
  | _, none => throw (.invalid "Lifecycle rule requires exactly one Status.")
  | some filter, some status => do
      rejectIf (state.expiration = none ∧ state.noncurrentDays = none ∧
        state.daysAfterInitiation = none)
        (.invalid "Lifecycle rule requires at least one supported action.")
      return ⟨state.id, status, filter, state.expiration, state.noncurrentDays,
        state.daysAfterInitiation⟩

def parseS3LifecycleRule (crates : DateCrates) (element : S3ConfigurationXmlElement) :
    LifecycleResult S3LifecycleRuleDocument := do
  validateS3Container element
  let state ← element.children.foldlM (RuleState.readChild crates)
    ⟨none, none, none, none, none, none⟩
  state.finish

section Rules

local instance : LawfulBEq Text := inferInstance

/-- The rules from here on, after rules with these ids. -/
def parseRules (crates : DateCrates) (ids : List Text) :
    List S3ConfigurationXmlElement → LifecycleResult (List S3LifecycleRuleDocument)
  | [] => return []
  | child :: children => do
      rejectIf (child.name ≠ "Rule".toList) .malformedXml
      let rule ← parseS3LifecycleRule crates child
      rejectIf (rule.id.any (· ∈ ids) = true) (.invalid "Lifecycle rule IDs must be unique.")
      let rules ← parseRules crates (rule.id.elim ids (· :: ids)) children
      return rule :: rules

end Rules

def parseS3BucketLifecycleXml (reader : Xml.Reader) (crates : DateCrates) (input : List UInt8) :
    LifecycleResult S3LifecycleDocument := do
  let root ← parseS3ConfigurationXml reader input
  validateS3ConfigurationRoot root "LifecycleConfiguration"
  rejectIf (root.children = [] ∨ maxS3LifecycleRules < root.children.length)
    (.invalid "LifecycleConfiguration must contain between 1 and 1000 rules.")
  let rules ← parseRules crates [] root.children
  return ⟨1, rules⟩

def S3LifecycleFilter.write : S3LifecycleFilter → Text
  | .empty => "<Filter></Filter>".toList
  | .prefixed value =>
      "<Filter><Prefix>".toList ++ escapeS3Xml value ++ "</Prefix></Filter>".toList

def statusText : S3LifecycleRuleStatus → Text
  | .enabled => "Enabled".toList
  | .disabled => "Disabled".toList

def S3LifecycleExpiration.write : S3LifecycleExpiration → Text
  | .days count => "<Days>".toList ++ Nat.toDigits 10 count ++ "</Days>".toList
  | .date text => "<Date>".toList ++ escapeS3Xml text ++ "</Date>".toList
  | .expiredObjectDeleteMarker =>
      "<ExpiredObjectDeleteMarker>true</ExpiredObjectDeleteMarker>".toList

def S3LifecycleRuleDocument.write (rule : S3LifecycleRuleDocument) : Text :=
  "<Rule>".toList ++
    (rule.id.elim [] fun id => "<ID>".toList ++ escapeS3Xml id ++ "</ID>".toList) ++
    rule.filter.write ++
    ("<Status>".toList ++ statusText rule.status ++ "</Status>".toList) ++
    (rule.expiration.elim [] fun expiration =>
      "<Expiration>".toList ++ expiration.write ++ "</Expiration>".toList) ++
    (rule.noncurrentDays.elim [] fun days =>
      "<NoncurrentVersionExpiration><NoncurrentDays>".toList ++ Nat.toDigits 10 days ++
        "</NoncurrentDays></NoncurrentVersionExpiration>".toList) ++
    (rule.daysAfterInitiation.elim [] fun days =>
      "<AbortIncompleteMultipartUpload><DaysAfterInitiation>".toList ++ Nat.toDigits 10 days ++
        "</DaysAfterInitiation></AbortIncompleteMultipartUpload>".toList) ++
    "</Rule>".toList

def s3BucketLifecycleXml (document : S3LifecycleDocument) : Text :=
  "<?xml version=\"1.0\" encoding=\"UTF-8\"?><LifecycleConfiguration xmlns=\"".toList ++
    s3XmlNamespace ++ "\">".toList ++ document.rules.flatMap S3LifecycleRuleDocument.write ++
    "</LifecycleConfiguration>".toList

end MediaHub.Http.Lifecycle
