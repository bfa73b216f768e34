import MediaHub.Policy.Parse
import MediaHub.Text.Result

namespace MediaHub.Policy

open Json (Value)
open S3PolicyErrorCode
open Text (isControl)

/-- A value of the kind that the operator compares with. -/
def S3ConditionOperator.Takes : S3ConditionOperator → S3ConditionValue → Prop
  | .stringEquals, value | .stringNotEquals, value | .stringLike, value | .stringNotLike, value =>
      ∃ text, value = .string text
  | .bool, value | .null, value => ∃ flag, value = .bool flag
  | .ipAddress, value | .notIpAddress, value =>
      ∃ network : IpNetwork, value = .ip network ∧ network.IsMasked
  | .numericLessThanEquals, value => ∃ n, value = .unsigned n

/-- The values of a condition fit its operator, and its operator its key. -/
structure S3PolicyCondition.IsTyped (condition : S3PolicyCondition) : Prop where
  pair : validPair condition.operator condition.key = true
  values : ∀ value ∈ condition.values, condition.operator.Takes value
  nonempty : condition.values ≠ []

def S3ResourceClause.patterns : S3ResourceClause → List Text
  | .resource patterns | .notResource patterns => patterns

/-- What a pattern for resources keeps to, by the kind of policy. -/
def validResource (policyKind : S3PolicyKind) (pattern : Text) : Bool :=
  match policyKind with
  | .bucket targetBucket => validBucketResource targetBucket pattern
  | .identity => validIdentityResource pattern

/-- Some action of the policy is for a resource that the statement names. -/
def IsApplicable (policyKind : S3PolicyKind) (actions : S3ActionClause)
    (resources : S3ResourceClause) : Prop :=
  ∃ action ∈ policyKind.supportedActions, actionClauseMatches actions action = true ∧
    action.scope ∈ resourceClauseScopes resources policyKind

structure ParsedPolicyStatement.IsAccepted (policyKind : S3PolicyKind)
    (statement : ParsedPolicyStatement) : Prop where
  resources : ∀ pattern ∈ statement.resources.patterns, validResource policyKind pattern = true
  applicable : IsApplicable policyKind statement.actions statement.resources
  conditions : ∀ condition ∈ statement.conditions, condition.IsTyped

theorem takes_of_parseConditionValue {operator : S3ConditionOperator} {value : Value}
    {parsed : S3ConditionValue} (h : parseConditionValue operator value = .ok parsed) :
    operator.Takes parsed := by
  cases operator with
  | stringEquals | stringNotEquals =>
      obtain ⟨text, _, hparsed⟩ := Result.bind_eq_ok_iff.1 h
      cases hparsed
      exact ⟨text, rfl⟩
  | stringLike | stringNotLike =>
      obtain ⟨text, _, hparsed⟩ := Result.bind_eq_ok_iff.1 h
      split at hparsed
      · cases hparsed
      · cases hparsed
        exact ⟨text, rfl⟩
  | bool | null =>
      obtain ⟨flag, _, hparsed⟩ := Result.bind_eq_ok_iff.1 h
      cases hparsed
      exact ⟨flag, rfl⟩
  | ipAddress | notIpAddress =>
      obtain ⟨text, _, h⟩ := Result.bind_eq_ok_iff.1 h
      obtain ⟨network, hnetwork, hparsed⟩ := Result.bind_eq_ok_iff.1 h
      cases hparsed
      refine ⟨network, rfl, ?_⟩
      cases hparse : IpNetwork.parse text with
      | none => rw [hparse] at hnetwork; cases hnetwork
      | some found =>
          rw [hparse] at hnetwork
          cases hnetwork
          exact IpNetwork.isMasked_of_parse hparse
  | numericLessThanEquals =>
      obtain ⟨n, _, hparsed⟩ := Result.bind_eq_ok_iff.1 h
      cases hparsed
      exact ⟨n, rfl⟩

theorem isTyped_of_parseCondition {operator : S3ConditionOperator} {key : S3ConditionKey}
    {value : Value} {condition : S3PolicyCondition}
    (h : parseCondition operator key value = .ok condition) :
    condition.IsTyped ∧ condition.operator = operator ∧ condition.key = key := by
  rw [parseCondition] at h
  split at h
  · cases h
  · next hpair =>
      obtain ⟨rawValues, _, h⟩ := Result.bind_eq_ok_iff.1 h
      split at h
      · cases h
      · next hlength =>
          split at h
          · cases h
          · obtain ⟨values, hvalues, hcondition⟩ := Result.bind_eq_ok_iff.1 h
            cases hcondition
            refine ⟨⟨by simpa using hpair, ?_, ?_⟩, rfl, rfl⟩
            · intro value hvalue
              obtain ⟨raw, _, hparsed⟩ := Result.exists_of_mem_mapM hvalues hvalue
              exact takes_of_parseConditionValue hparsed
            · rintro rfl
              have hnil := List.forall₂_nil_right_iff.1 (Result.mapM_eq_ok_iff.1 hvalues)
              exact hlength (by simp [hnil])

theorem isTyped_of_mem_parseConditionOperators {conditionCount : Nat} {operators : Fields}
    {conditions : List S3PolicyCondition}
    (h : parseConditionOperators conditionCount operators = .ok conditions) :
    ∀ condition ∈ conditions, condition.IsTyped := by
  induction operators generalizing conditionCount conditions with
  | nil =>
      cases h
      simp
  | cons entry operators ih =>
      rw [parseConditionOperators] at h
      obtain ⟨operator, _, h⟩ := Result.bind_eq_ok_iff.1 h
      obtain ⟨entries, _, h⟩ := Result.bind_eq_ok_iff.1 h
      split at h
      · cases h
      · split at h
        · cases h
        · obtain ⟨first, hfirst, h⟩ := Result.bind_eq_ok_iff.1 h
          obtain ⟨rest, hrest, h⟩ := Result.bind_eq_ok_iff.1 h
          cases h
          intro condition hcondition
          rcases List.mem_append.1 hcondition with hmem | hmem
          · obtain ⟨field, _, hparsed⟩ := Result.exists_of_mem_mapM hfirst hmem
            obtain ⟨key, _, hparsed⟩ := Result.bind_eq_ok_iff.1 hparsed
            exact (isTyped_of_parseCondition hparsed).1
          · exact ih hrest condition hmem

theorem isTyped_of_mem_parseConditions {value : Value} {conditions : List S3PolicyCondition}
    (h : parseConditions value = .ok conditions) :
    ∀ condition ∈ conditions, condition.IsTyped := by
  obtain ⟨operators, _, h⟩ := Result.bind_eq_ok_iff.1 h
  split at h
  · cases h
  · split at h
    · cases h
    · exact isTyped_of_mem_parseConditionOperators h

theorem validateResources_eq_ok_iff {patterns : List Text} {policyKind : S3PolicyKind} :
    validateResources patterns policyKind = .ok () ↔
      ∀ pattern ∈ patterns, validResource policyKind pattern = true := by
  cases policyKind with
  | bucket targetBucket =>
      rw [validateResources, ← List.all_eq_true]
      show (if patterns.all (validBucketResource targetBucket) = true then _ else _) = _ ↔ _
      split
      · next h => exact iff_of_true rfl h
      · next h => exact iff_of_false (fun heq => by cases heq) h
  | identity =>
      rw [validateResources, ← List.all_eq_true]
      show (if patterns.all validIdentityResource = true then _ else _) = _ ↔ _
      split
      · next h => exact iff_of_true rfl h
      · next h => exact iff_of_false (fun heq => by cases heq) h

theorem validResource_of_parseResourceClause {statement : Fields} {policyKind : S3PolicyKind}
    {clause : S3ResourceClause} (h : parseResourceClause statement policyKind = .ok clause) :
    ∀ pattern ∈ clause.patterns, validResource policyKind pattern = true := by
  obtain ⟨resources, _, h⟩ := Result.bind_eq_ok_iff.1 h
  cases resources with
  | positive patterns | negative patterns =>
      obtain ⟨hvalid, hclause⟩ := Result.andThen_eq_ok_iff.1 h
      cases hclause
      exact validateResources_eq_ok_iff.1 hvalid

theorem validateActionResourceCompatibility_eq_ok_iff {actions : S3ActionClause}
    {resources : S3ResourceClause} {policyKind : S3PolicyKind} :
    validateActionResourceCompatibility actions resources policyKind = .ok () ↔
      IsApplicable policyKind actions resources := by
  simp only [validateActionResourceCompatibility, List.length_eq_zero_iff, IsApplicable]
  split
  · next h =>
      refine iff_of_false (fun heq => by cases heq) ?_
      rintro ⟨action, hmem, hmatch, hscope⟩
      have := List.filter_eq_nil_iff.1 h action hmem
      exact this (by simp [hmatch, hscope])
  · next h =>
      refine iff_of_true rfl ?_
      obtain ⟨action, haction⟩ := List.exists_mem_of_ne_nil _ h
      obtain ⟨hmem, hfilter⟩ := List.mem_filter.1 haction
      rw [Bool.and_eq_true, List.contains_iff_mem] at hfilter
      exact ⟨action, hmem, hfilter⟩

theorem isAccepted_of_parseStatement {value : Value} {policyKind : S3PolicyKind}
    {parsed : ParsedPolicyStatement} (h : parseStatement value policyKind = .ok parsed) :
    parsed.IsAccepted policyKind := by
  obtain ⟨statement, _, h⟩ := Result.bind_eq_ok_iff.1 h
  obtain ⟨_, h⟩ := Result.andThen_eq_ok_iff.1 h
  obtain ⟨sid, _, h⟩ := Result.bind_eq_ok_iff.1 h
  obtain ⟨effect, _, h⟩ := Result.bind_eq_ok_iff.1 h
  obtain ⟨principal, _, h⟩ := Result.bind_eq_ok_iff.1 h
  obtain ⟨actions, _, h⟩ := Result.bind_eq_ok_iff.1 h
  obtain ⟨resources, hresources, h⟩ := Result.bind_eq_ok_iff.1 h
  obtain ⟨happlicable, h⟩ := Result.andThen_eq_ok_iff.1 h
  obtain ⟨conditions, hconditions, h⟩ := Result.bind_eq_ok_iff.1 h
  cases h
  refine ⟨validResource_of_parseResourceClause hresources,
    validateActionResourceCompatibility_eq_ok_iff.1 happlicable, ?_⟩
  cases hfield : statement.get "Condition".toList with
  | none =>
      rw [hfield] at hconditions
      cases hconditions
      simp
  | some field =>
      rw [hfield, optionalField] at hconditions
      cases hparse : parseConditions field with
      | error e => rw [hparse] at hconditions; cases hconditions
      | ok found =>
          rw [hparse] at hconditions
          cases hconditions
          exact isTyped_of_mem_parseConditions hparse

theorem S3PolicyStatement.IsParsed.isAccepted {targetBucket : Text}
    {statement : S3PolicyStatement} (h : statement.IsParsed targetBucket) :
    ∃ parsed : ParsedPolicyStatement, parsed.IsAccepted (.bucket targetBucket) ∧
      parsed.toBucket = some statement := by
  obtain ⟨value, parsed, hparse, hstatement⟩ := h
  exact ⟨parsed, isAccepted_of_parseStatement hparse, hstatement⟩

theorem S3IdentityPolicyStatement.IsParsed.isAccepted {statement : S3IdentityPolicyStatement}
    (h : statement.IsParsed) :
    ∃ parsed : ParsedPolicyStatement, parsed.IsAccepted .identity ∧
      parsed.toIdentity = statement := by
  obtain ⟨value, parsed, hparse, hstatement⟩ := h
  exact ⟨parsed, isAccepted_of_parseStatement hparse, hstatement⟩

def s3PolicyVersion : Text := "2012-10-17".toList

def s3PolicyLegacyVersion : Text := "2008-10-17".toList

def maxS3PolicyBytes : Nat := 20 * 1024

/-- The depth at which the reader of JSON gives up. -/
def jsonRecursionLimit : Nat := 128

structure ParsedPolicyDocument (α : Type) where
  version : Text
  id : Option Text
  statements : List α

def parseVersion (root : Fields) : Except S3PolicyError Text := do
  let version ← requiredString root "Version" unsupportedVersion
  if version = s3PolicyVersion ∨ version = s3PolicyLegacyVersion then .ok version
  else .error (.validation unsupportedVersion)

def parseId (value : Value) : Except S3PolicyError Text :=
  match value.asStr.filter fun value =>
      !value.isEmpty && Utf8.byteLength value ≤ maxS3PolicySidBytes && !value.any isControl with
  | some value => .ok value
  | none => .error (.validation invalidDocument)

/-- One statement, or an array of them. -/
def statementValues (root : Fields) : Except S3PolicyError (List Value) :=
  match root.get "Statement".toList with
  | none => .error (.validation invalidDocument)
  | some (.object fields) => .ok [.object fields]
  | some (.array (first :: rest)) => .ok (first :: rest)
  | some _ => .error (.validation invalidStatement)

/-- The document, once it is read as JSON. -/
def parsePolicyRoot {α : Type} (root : Value) (parse : Value → Except S3PolicyError α) :
    Except S3PolicyError (ParsedPolicyDocument α) :=
  if maxS3PolicyDepth < valueDepth 1 root then .error (.limit policyTooDeep)
  else do
    validateJsonStringLimits root
    let root ← object root invalidDocument
    rejectUnknownFields root ["Version", "Id", "Statement"]
    let version ← parseVersion root
    let id ← optionalField (root.get "Id".toList) parseId
    let values ← statementValues root
    if maxS3PolicyStatements < values.length then .error (.limit limitExceeded)
    else do
      let statements ← values.mapM parse
      .ok { version, id, statements }

theorem parsePolicyRoot_statements {α : Type} {root : Value}
    {parse : Value → Except S3PolicyError α} {parsed : ParsedPolicyDocument α}
    (h : parsePolicyRoot root parse = .ok parsed) :
    ∀ statement ∈ parsed.statements, ∃ value, parse value = .ok statement := by
  rw [parsePolicyRoot] at h
  split at h
  · cases h
  · obtain ⟨_, h⟩ := Result.andThen_eq_ok_iff.1 h
    obtain ⟨root, _, h⟩ := Result.bind_eq_ok_iff.1 h
    obtain ⟨_, h⟩ := Result.andThen_eq_ok_iff.1 h
    obtain ⟨version, _, h⟩ := Result.bind_eq_ok_iff.1 h
    obtain ⟨id, _, h⟩ := Result.bind_eq_ok_iff.1 h
    obtain ⟨values, _, h⟩ := Result.bind_eq_ok_iff.1 h
    split at h
    · cases h
    · obtain ⟨statements, hstatements, h⟩ := Result.bind_eq_ok_iff.1 h
      cases h
      intro statement hmem
      obtain ⟨value, _, hvalue⟩ := Result.exists_of_mem_mapM hstatements hmem
      exact ⟨value, hvalue⟩

section Documents

variable [Json.Parser]

def parseUniqueJson (document : Text) : Except S3PolicyError Value :=
  match (Json.Parser.parse jsonRecursionLimit document).bind Json.unique with
  | some value => .ok value
  | none => .error (.ofSyntax malformedJson)

def parsePolicyDocument {α : Type} (document : Text) (parse : Value → Except S3PolicyError α) :
    Except S3PolicyError (ParsedPolicyDocument α) :=
  if maxS3PolicyBytes < Utf8.byteLength document then .error (.limit policyTooLarge)
  else if document = [] then .error (.ofSyntax malformedJson)
  else do
    let root ← parseUniqueJson document
    parsePolicyRoot root parse

def S3BucketPolicy.parse (document targetBucket : Text) : Except S3PolicyError S3BucketPolicy :=
  if !validBucketName targetBucket then .error (.validation invalidResource)
  else do
    let parsed ← parsePolicyDocument document fun value =>
      parseStatement value (.bucket targetBucket)
    .ok
      { version := parsed.version, id := parsed.id, targetBucket
        -- The parser requires a principal: every statement is kept.
        statements := parsed.statements.filterMap (·.toBucket) }

def S3IdentityPolicy.parse (document : Text) : Except S3PolicyError S3IdentityPolicy := do
  let parsed ← parsePolicyDocument document fun value => parseStatement value .identity
  .ok
    { version := parsed.version, id := parsed.id
      statements := parsed.statements.map (·.toIdentity) }

theorem parsePolicyDocument_statements {α : Type} {document : Text}
    {parse : Value → Except S3PolicyError α} {parsed : ParsedPolicyDocument α}
    (h : parsePolicyDocument document parse = .ok parsed) :
    ∀ statement ∈ parsed.statements, ∃ value, parse value = .ok statement := by
  rw [parsePolicyDocument] at h
  split at h
  · cases h
  · split at h
    · cases h
    · obtain ⟨root, _, h⟩ := Result.bind_eq_ok_iff.1 h
      exact parsePolicyRoot_statements h

theorem S3BucketPolicy.of_parse {document targetBucket : Text} {policy : S3BucketPolicy}
    (h : parse document targetBucket = .ok policy) :
    policy.targetBucket = targetBucket ∧
      ∀ statement ∈ policy.statements, statement.IsParsed targetBucket := by
  rw [parse] at h
  split at h
  · cases h
  · obtain ⟨parsed, hparsed, h⟩ := Result.bind_eq_ok_iff.1 h
    cases h
    refine ⟨rfl, fun statement hmem => ?_⟩
    obtain ⟨found, hfound, hstatement⟩ := List.mem_filterMap.1 hmem
    obtain ⟨value, hvalue⟩ := parsePolicyDocument_statements hparsed found hfound
    exact ⟨value, found, hvalue, hstatement⟩

theorem S3IdentityPolicy.of_parse {document : Text} {policy : S3IdentityPolicy}
    (h : parse document = .ok policy) : ∀ statement ∈ policy.statements, statement.IsParsed := by
  obtain ⟨parsed, hparsed, h⟩ := Result.bind_eq_ok_iff.1 h
  cases h
  intro statement hmem
  obtain ⟨found, hfound, hstatement⟩ := List.mem_map.1 hmem
  obtain ⟨value, hvalue⟩ := parsePolicyDocument_statements hparsed found hfound
  exact ⟨value, found, hvalue, hstatement⟩

end Documents

end MediaHub.Policy
