import MediaHub.Json.Parser
import MediaHub.Policy.Names

namespace MediaHub.Policy

open Json (Value)
open S3PolicyErrorCode
open Text (isControl)

def maxS3PolicyDepth : Nat := 16

abbrev Fields := List (Text × Value)

/-- `Map::get`. -/
def Fields.get (fields : Fields) (name : Text) : Option Value :=
  (fields.find? fun field => field.1 == name).map (·.2)

def object (value : Value) (errorCode : S3PolicyErrorCode) : Except S3PolicyError Fields :=
  match value with
  | .object fields => .ok fields
  | _ => .error (.validation errorCode)

def requiredString (object : Fields) (name : String) (errorCode : S3PolicyErrorCode) :
    Except S3PolicyError Text :=
  match ((object.get name.toList).bind Value.asStr).filter
      (fun value => Utf8.byteLength value ≤ maxS3PolicyStringBytes) with
  | some value => .ok value
  | none => .error (.validation errorCode)

def rejectUnknownFields (object : Fields) (allowed : List String) : Except S3PolicyError Unit :=
  if object.any fun field => !(allowed.map String.toList).contains field.1 then
    .error (.validation .unsupportedField)
  else .ok ()

/-- `.map(parse).transpose()` of a field. -/
def optionalField {α : Type} (value : Option Value) (parse : Value → Except S3PolicyError α) :
    Except S3PolicyError (Option α) :=
  match value with
  | none => .ok none
  | some value => (parse value).map some

mutual

def valueDepth (depth : Nat) : Value → Nat
  | .array values => (arrayDepth (depth + 1) values).getD depth
  | .object fields => (fieldsDepth (depth + 1) fields).getD depth
  | _ => depth

/-- The greatest depth of the values, if there are any. -/
def arrayDepth (depth : Nat) : List Value → Option Nat
  | [] => none
  | value :: values =>
      some (max (valueDepth depth value) ((arrayDepth depth values).getD 0))

def fieldsDepth (depth : Nat) : List (Text × Value) → Option Nat
  | [] => none
  | (_, value) :: fields =>
      some (max (valueDepth depth value) ((fieldsDepth depth fields).getD 0))

end

mutual

def validateJsonStringLimits : Value → Except S3PolicyError Unit
  | .string value =>
      if maxS3PolicyStringBytes < Utf8.byteLength value then .error (.limit .limitExceeded)
      else .ok ()
  | .array values => validateArrayStringLimits values
  | .object fields =>
      if fields.any fun field => maxS3PolicyStringBytes < Utf8.byteLength field.1 then
        .error (.limit .limitExceeded)
      else validateFieldsStringLimits fields
  | _ => .ok ()

def validateArrayStringLimits : List Value → Except S3PolicyError Unit
  | [] => .ok ()
  | value :: values => do
      validateJsonStringLimits value
      validateArrayStringLimits values

def validateFieldsStringLimits : List (Text × Value) → Except S3PolicyError Unit
  | [] => .ok ()
  | (_, value) :: fields => do
      validateJsonStringLimits value
      validateFieldsStringLimits fields

end

def maxS3PolicyStatements : Nat := 100

def maxS3PolicyActions : Nat := 64

def maxS3PolicyResources : Nat := 64

def maxS3PolicyPrincipals : Nat := 64

def maxS3PolicyConditionOperators : Nat := 16

def maxS3PolicyConditionKeys : Nat := 32

def maxS3PolicyConditionValues : Nat := 64

/-- `str::eq_ignore_ascii_case`. -/
def eqTextIgnoreAsciiCase (left right : Text) : Bool :=
  left.map Char.toLower == right.map Char.toLower

inductive S3PolicyKind where
  | bucket (targetBucket : Text)
  | identity

def S3PolicyKind.supportedActions : S3PolicyKind → List S3PolicyAction
  | .bucket _ => s3BucketPolicyActions
  | .identity => S3PolicyAction.all

def stringValue (errorCode : S3PolicyErrorCode) (value : Value) : Except S3PolicyError Text :=
  match value.asStr with
  | some value => .ok value
  | none => .error (.validation errorCode)

def stringValues (value : Value) (errorCode : S3PolicyErrorCode) :
    Except S3PolicyError (List Text) :=
  match value with
  | .string value => .ok [value]
  | .array (first :: rest) => (first :: rest).mapM (stringValue errorCode)
  | _ => .error (.validation errorCode)

def parseStringValues (value : Value) (limit : Nat) (errorCode : S3PolicyErrorCode) :
    Except S3PolicyError (List Text) := do
  let values ← stringValues value errorCode
  if limit < values.length ∨
      values.any (fun value => value.isEmpty || maxS3PolicyStringBytes < Utf8.byteLength value) then
    .error (.limit limitExceeded)
  else if ¬ values.Nodup then .error (.validation errorCode)
  else .ok values

def parsePatterns (value : Value) (limit : Nat) (errorCode : S3PolicyErrorCode) :
    Except S3PolicyError (List Text) := do
  let values ← parseStringValues value limit errorCode
  if values.any fun pattern =>
      maxS3PolicyStringBytes < Utf8.byteLength pattern || pattern.any isControl ||
        containsText pattern "$\x7b".toList || pattern.contains '\\' then
    .error (.validation errorCode)
  else .ok values

def parsePrincipal (value : Value) : Except S3PolicyError S3PolicyPrincipal :=
  if value.asStr = some "*".toList then .ok .any
  else do
    let object ← object value invalidPrincipal
    rejectUnknownFields object ["AWS"]
    match object with
    | [(_, aws)] => do
        let values ← parseStringValues aws maxS3PolicyPrincipals invalidPrincipal
        let principals ← values.mapM parseAwsPrincipal
        .ok (.aws principals)
    | _ => .error (.validation invalidPrincipal)

def validateActionPatterns (patterns : List Text) (negative : Bool)
    (supportedActions : List S3PolicyAction) : Except S3PolicyError Unit :=
  if patterns.any fun pattern =>
      !eqTextIgnoreAsciiCase (pattern.take 3) "s3:".toList || Utf8.byteLength pattern ≤ 3 ||
        (pattern.drop 3).any (fun c => !(isAsciiAlphanumeric c || isWildcard c)) ||
        !supportedActions.any (fun action => globMatches pattern action.asStr true) then
    .error (.validation unsupportedAction)
  else if negative && supportedActions.all (fun action =>
      patterns.any fun pattern => globMatches pattern action.asStr true) then
    .error (.validation unsupportedAction)
  else .ok ()

/-- Whether a pattern is for the bucket or for objects of it. -/
def validBucketResource (targetBucket pattern : Text) : Bool :=
  let bucketArn := resourceStart ++ targetBucket
  pattern == bucketArn ||
    (pattern.dropPrefix? bucketArn).any fun suffix =>
      suffix.head? == some '/' && 1 < Utf8.byteLength suffix && !suffix.any isControl

def validateResources (patterns : List Text) (policyKind : S3PolicyKind) :
    Except S3PolicyError Unit :=
  let valid := match policyKind with
    | .bucket targetBucket => patterns.all (validBucketResource targetBucket)
    | .identity => patterns.all validIdentityResource
  if valid then .ok () else .error (.validation invalidResource)

/-- The scopes of what a pattern is for. -/
def resourcePatternScopes (resource : Text) : List S3PolicyResourceScope :=
  if resource = "*".toList then [.account, .bucket, .object]
  else if (resource.drop resourceStart.length).contains '/' then [.object]
  else [.bucket]

def resourceClauseScopes (resources : S3ResourceClause) (policyKind : S3PolicyKind) :
    List S3PolicyResourceScope :=
  match resources, policyKind with
  | .notResource patterns, .identity =>
      if patterns.any (· == "*".toList) then [] else [.account, .bucket, .object]
  | .resource patterns, _ => patterns.flatMap resourcePatternScopes
  | .notResource patterns, .bucket _ => patterns.flatMap resourcePatternScopes

def actionClauseMatches (clause : S3ActionClause) (action : S3PolicyAction) : Bool :=
  match clause with
  | .action patterns => patterns.any fun pattern => globMatches pattern action.asStr true
  | .notAction patterns => !patterns.any fun pattern => globMatches pattern action.asStr true

def validateActionResourceCompatibility (actions : S3ActionClause)
    (resources : S3ResourceClause) (policyKind : S3PolicyKind) : Except S3PolicyError Unit :=
  let scopes := resourceClauseScopes resources policyKind
  let applicable := policyKind.supportedActions.filter fun action =>
    actionClauseMatches actions action && scopes.contains action.scope
  if applicable.length = 0 then .error (.validation invalidResource) else .ok ()

def parseConditionOperator (value : Text) : Except S3PolicyError S3ConditionOperator :=
  if value = "StringEquals".toList then .ok .stringEquals
  else if value = "StringNotEquals".toList then .ok .stringNotEquals
  else if value = "StringLike".toList then .ok .stringLike
  else if value = "StringNotLike".toList then .ok .stringNotLike
  else if value = "Bool".toList then .ok .bool
  else if value = "IpAddress".toList then .ok .ipAddress
  else if value = "NotIpAddress".toList then .ok .notIpAddress
  else if value = "NumericLessThanEquals".toList then .ok .numericLessThanEquals
  else if value = "Null".toList then .ok .null
  else .error (.validation unsupportedCondition)

def parseConditionKey (value : Text) : Except S3PolicyError S3ConditionKey :=
  if eqTextIgnoreAsciiCase value "aws:SecureTransport".toList then .ok .secureTransport
  else if eqTextIgnoreAsciiCase value "aws:SourceIp".toList then .ok .sourceIp
  else if eqTextIgnoreAsciiCase value "aws:PrincipalArn".toList then .ok .principalArn
  else if eqTextIgnoreAsciiCase value "aws:userid".toList then .ok .userId
  else if eqTextIgnoreAsciiCase value "s3:prefix".toList then .ok .keyPrefix
  else if eqTextIgnoreAsciiCase value "s3:delimiter".toList then .ok .delimiter
  else if eqTextIgnoreAsciiCase value "s3:max-keys".toList then .ok .maxKeys
  else if eqTextIgnoreAsciiCase value "s3:VersionId".toList then .ok .versionId
  else .error (.validation unsupportedCondition)

def validPair : S3ConditionOperator → S3ConditionKey → Bool
  | .stringEquals, key | .stringNotEquals, key | .stringLike, key | .stringNotLike, key =>
      key == .principalArn || key == .userId || key == .keyPrefix || key == .delimiter ||
        key == .versionId
  | .bool, key => key == .secureTransport
  | .ipAddress, key | .notIpAddress, key => key == .sourceIp
  | .numericLessThanEquals, key => key == .maxKeys
  | .null, _ => true

def conditionString (value : Value) : Except S3PolicyError Text :=
  match value.asStr with
  | none => .error (.validation unsupportedCondition)
  | some value =>
      if value.isEmpty || maxS3PolicyStringBytes < Utf8.byteLength value || value.any isControl then
        .error (.validation unsupportedCondition)
      else .ok value

def scalarOrArray (value : Value) : Except S3PolicyError (List Value) :=
  match value with
  | .array (first :: rest) => .ok (first :: rest)
  | .string _ | .bool _ | .number _ => .ok [value]
  | _ => .error (.validation unsupportedCondition)

def conditionBool (value : Value) : Option Bool :=
  match value with
  | .bool value => some value
  | .string value =>
      if eqTextIgnoreAsciiCase value "true".toList then some true
      else if eqTextIgnoreAsciiCase value "false".toList then some false
      else none
  | _ => none

def conditionUnsigned (value : Value) : Option Nat :=
  match value with
  | .number number => number.asU64
  | .string value => parseUnsigned (2 ^ 64) value
  | _ => none

/-- `.ok_or_else` of a condition's value. -/
def supported {α : Type} (value : Option α) : Except S3PolicyError α :=
  match value with
  | some value => .ok value
  | none => .error (.validation unsupportedCondition)

def parseConditionValue (operator : S3ConditionOperator) (value : Value) :
    Except S3PolicyError S3ConditionValue :=
  match operator with
  | .stringEquals | .stringNotEquals => do
      let value ← conditionString value
      .ok (.string value)
  | .stringLike | .stringNotLike => do
      let value ← conditionString value
      if containsText value "$\x7b".toList || value.contains '\\' then
        .error (.validation unsupportedCondition)
      else .ok (.string value)
  | .bool | .null => do
      let parsed ← supported (conditionBool value)
      .ok (.bool parsed)
  | .ipAddress | .notIpAddress => do
      let value ← conditionString value
      let network ← supported (IpNetwork.parse value)
      .ok (.ip network)
  | .numericLessThanEquals => do
      let parsed ← supported (conditionUnsigned value)
      .ok (.unsigned parsed)

def parseCondition (operator : S3ConditionOperator) (key : S3ConditionKey) (value : Value) :
    Except S3PolicyError S3PolicyCondition :=
  if !validPair operator key then .error (.validation unsupportedCondition)
  else do
    let rawValues ← scalarOrArray value
    if rawValues.isEmpty || maxS3PolicyConditionValues < rawValues.length then
      .error (.limit limitExceeded)
    else if (operator = .bool ∨ operator = .null) ∧ rawValues.length ≠ 1 then
      .error (.validation unsupportedCondition)
    else do
      let values ← rawValues.mapM (parseConditionValue operator)
      .ok { operator, key, values }

/-- The entries of one operator. -/
def parseConditionEntries (operator : S3ConditionOperator) (entries : Fields) :
    Except S3PolicyError (List S3PolicyCondition) :=
  entries.mapM fun entry => do
    let key ← parseConditionKey entry.1
    parseCondition operator key entry.2

/-- The operators from some point on, after `conditionCount` entries. -/
def parseConditionOperators (conditionCount : Nat) :
    Fields → Except S3PolicyError (List S3PolicyCondition)
  | [] => .ok []
  | (operatorName, entries) :: operators => do
      let operator ← parseConditionOperator operatorName
      let entries ← object entries unsupportedCondition
      if entries.isEmpty then .error (.validation unsupportedCondition)
      else if maxS3PolicyConditionKeys < conditionCount + entries.length then
        .error (.limit limitExceeded)
      else do
        let conditions ← parseConditionEntries operator entries
        let rest ← parseConditionOperators (conditionCount + entries.length) operators
        .ok (conditions ++ rest)

def parseConditions (value : Value) : Except S3PolicyError (List S3PolicyCondition) := do
  let operators ← object value unsupportedCondition
  if operators.isEmpty then .error (.validation unsupportedCondition)
  else if maxS3PolicyConditionOperators < operators.length then .error (.limit limitExceeded)
  else parseConditionOperators 0 operators

structure ParsedPolicyStatement where
  sid : Option Text
  effect : S3PolicyEffect
  principal : Option S3PrincipalClause
  actions : S3ActionClause
  resources : S3ResourceClause
  conditions : List S3PolicyCondition
  deriving DecidableEq

inductive Clause (α : Type) where
  | positive (value : α)
  | negative (value : α)

def exclusiveClause {α : Type} (object : Fields) (positive negative : String)
    (parse : Value → Except S3PolicyError α) : Except S3PolicyError (Clause α) :=
  match object.get positive.toList, object.get negative.toList with
  | some _, some _ => .error (.validation invalidStatement)
  | none, none => .error (.validation invalidStatement)
  | some value, none => (parse value).map Clause.positive
  | none, some value => (parse value).map Clause.negative

def allowedFields : S3PolicyKind → List String
  | .bucket _ =>
      ["Sid", "Effect", "Principal", "NotPrincipal", "Action", "NotAction", "Resource",
        "NotResource", "Condition"]
  | .identity =>
      ["Sid", "Effect", "Action", "NotAction", "Resource", "NotResource", "Condition"]

def parseSid (value : Value) : Except S3PolicyError Text :=
  match value.asStr with
  | none => .error (.validation invalidStatement)
  | some sid =>
      if maxS3PolicySidBytes < Utf8.byteLength sid || !sid.all isAsciiAlphanumeric then
        .error (.validation invalidStatement)
      else .ok sid

def parseEffect (statement : Fields) : Except S3PolicyError S3PolicyEffect := do
  let effect ← requiredString statement "Effect" invalidStatement
  if effect = "Allow".toList then .ok .allow
  else if effect = "Deny".toList then .ok .deny
  else .error (.validation invalidStatement)

def parsePrincipalClause (statement : Fields) (policyKind : S3PolicyKind) :
    Except S3PolicyError (Option S3PrincipalClause) :=
  match policyKind with
  | .bucket _ => do
      match ← exclusiveClause statement "Principal" "NotPrincipal" parsePrincipal with
      | .positive value => .ok (some (.principal value))
      | .negative value => .ok (some (.notPrincipal value))
  | .identity => .ok none

def parseActionClause (statement : Fields) (policyKind : S3PolicyKind) :
    Except S3PolicyError S3ActionClause := do
  let actions ← exclusiveClause statement "Action" "NotAction" fun value =>
    parsePatterns value maxS3PolicyActions unsupportedAction
  match actions with
  | .positive patterns => do
      validateActionPatterns patterns false policyKind.supportedActions
      .ok (.action patterns)
  | .negative patterns => do
      validateActionPatterns patterns true policyKind.supportedActions
      .ok (.notAction patterns)

def parseResourceClause (statement : Fields) (policyKind : S3PolicyKind) :
    Except S3PolicyError S3ResourceClause := do
  let resources ← exclusiveClause statement "Resource" "NotResource" fun value =>
    parsePatterns value maxS3PolicyResources invalidResource
  match resources with
  | .positive patterns => do
      validateResources patterns policyKind
      .ok (.resource patterns)
  | .negative patterns => do
      validateResources patterns policyKind
      .ok (.notResource patterns)

def parseStatement (value : Value) (policyKind : S3PolicyKind) :
    Except S3PolicyError ParsedPolicyStatement := do
  let statement ← object value invalidStatement
  rejectUnknownFields statement (allowedFields policyKind)
  let sid ← optionalField (statement.get "Sid".toList) parseSid
  let effect ← parseEffect statement
  let principal ← parsePrincipalClause statement policyKind
  let actions ← parseActionClause statement policyKind
  let resources ← parseResourceClause statement policyKind
  validateActionResourceCompatibility actions resources policyKind
  let conditions ← optionalField (statement.get "Condition".toList) parseConditions
  .ok { sid, effect, principal, actions, resources, conditions := conditions.getD [] }

namespace ParsedPolicyStatement

/-- A statement without a principal has none to keep. -/
def toBucket (self : ParsedPolicyStatement) : Option S3PolicyStatement :=
  self.principal.map fun principal =>
    { sid := self.sid, effect := self.effect, principal, actions := self.actions,
      resources := self.resources, conditions := self.conditions }

def toIdentity (self : ParsedPolicyStatement) : S3IdentityPolicyStatement :=
  { sid := self.sid, effect := self.effect, actions := self.actions,
    resources := self.resources, conditions := self.conditions }

end ParsedPolicyStatement

/-- A statement that the parser makes for policies of a bucket. -/
def S3PolicyStatement.IsParsed (targetBucket : Text) (statement : S3PolicyStatement) : Prop :=
  ∃ value parsed, parseStatement value (.bucket targetBucket) = .ok parsed ∧
    parsed.toBucket = some statement

def S3IdentityPolicyStatement.IsParsed (statement : S3IdentityPolicyStatement) : Prop :=
  ∃ value parsed, parseStatement value .identity = .ok parsed ∧ parsed.toIdentity = statement

end MediaHub.Policy
