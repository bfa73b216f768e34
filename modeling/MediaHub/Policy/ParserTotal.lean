import MediaHub.Policy.Checked

namespace Json

theorem exists_of_uniqueArray {values found : List Value} (h : uniqueArray values = some found) :
    ∀ v ∈ found, ∃ value ∈ values, unique value = some v := by
  induction values generalizing found with
  | nil =>
      obtain rfl := Option.some.inj h
      simp
  | cons value values ih =>
      rw [uniqueArray] at h
      obtain ⟨first, hfirst, h⟩ := Option.bind_eq_some_iff.1 h
      obtain ⟨more, hmore, h⟩ := Option.bind_eq_some_iff.1 h
      obtain rfl := Option.some.inj h
      refine List.forall_mem_cons.2 ⟨⟨value, List.mem_cons_self, hfirst⟩, fun v hv => ?_⟩
      obtain ⟨other, hother, hunique⟩ := ih hmore v hv
      exact ⟨other, List.mem_cons_of_mem _ hother, hunique⟩

theorem exists_of_uniqueFields {fields found : List (Text × Value)}
    (h : uniqueFields fields = some found) :
    ∀ f ∈ found, ∃ field ∈ fields, unique field.2 = some f.2 := by
  induction fields generalizing found with
  | nil =>
      obtain rfl := Option.some.inj h
      simp
  | cons field fields ih =>
      obtain ⟨name, value⟩ := field
      rw [uniqueFields] at h
      obtain ⟨first, hfirst, h⟩ := Option.bind_eq_some_iff.1 h
      obtain ⟨more, hmore, h⟩ := Option.bind_eq_some_iff.1 h
      obtain rfl := Option.some.inj h
      refine List.forall_mem_cons.2 ⟨⟨(name, value), List.mem_cons_self, hfirst⟩, fun f hf => ?_⟩
      obtain ⟨other, hother, hunique⟩ := ih hmore f hf
      exact ⟨other, List.mem_cons_of_mem _ hother, hunique⟩

theorem nesting_unique {value found : Value} (h : unique value = some found) :
    found.nesting ≤ value.nesting := by
  induction value using Value.induction generalizing found with
  | null | bool value | number value | string value =>
      obtain rfl := Option.some.inj h
      exact Nat.le_refl _
  | array values ih =>
      obtain ⟨more, hmore, rfl⟩ := Option.map_eq_some_iff.1 h
      refine Nat.succ_le_succ (Value.arrayNesting_le_iff.2 fun v hv => ?_)
      obtain ⟨value, hvalue, hunique⟩ := exists_of_uniqueArray hmore v hv
      exact (ih value hvalue hunique).trans (nesting_le_of_mem hvalue)
  | object fields ih =>
      rw [unique] at h
      obtain ⟨more, hmore, h⟩ := Option.bind_eq_some_iff.1 h
      split at h
      · obtain rfl := Option.some.inj h
        refine Nat.succ_le_succ (Value.fieldsNesting_le_iff.2 fun f hf => ?_)
        obtain ⟨field, hfield, hunique⟩ := exists_of_uniqueFields hmore f
          ((List.mem_insertionSort _).1 hf)
        exact (ih field hfield hunique).trans (nesting_le_of_mem_fields hfield)
      · cases h

end Json

namespace MediaHub.Policy

open Json (Value)
open S3PolicyErrorCode

/-- `value_depth`, with so many calls that may be open at once. -/
def checkedValueDepth : Nat → Nat → Value → Option Nat
  | 0, _, _ => none
  | stack + 1, depth, .array values => do
      let depths ← values.mapM (checkedValueDepth stack (depth + 1))
      some (depths.max?.getD depth)
  | stack + 1, depth, .object fields => do
      let depths ← fields.mapM fun field => checkedValueDepth stack (depth + 1) field.2
      some (depths.max?.getD depth)
  | _ + 1, depth, _ => some depth

/-- `validate_json_string_limits`, with so many calls that may be open at once. -/
def checkedStringLimits : Nat → Value → Checked Unit
  | 0, _ => orPanic none
  | stack + 1, .array values => values.forM (checkedStringLimits stack)
  | stack + 1, .object fields =>
      if fields.any fun field => maxS3PolicyStringBytes < Utf8.byteLength field.1 then
        returns (.error (.limit limitExceeded))
      else fields.forM fun field => checkedStringLimits stack field.2
  | _ + 1, value => returns (validateJsonStringLimits value)

theorem arrayDepth_eq (depth : Nat) (values : List Value) :
    arrayDepth depth values = (values.map (valueDepth depth)).max? := by
  induction values with
  | nil => rfl
  | cons value values ih =>
      rw [arrayDepth, ih, List.map_cons, List.max?_cons]
      cases (values.map (valueDepth depth)).max? with
      | none => simp
      | some rest => rfl

theorem fieldsDepth_eq (depth : Nat) (fields : Fields) :
    fieldsDepth depth fields = (fields.map fun field => valueDepth depth field.2).max? := by
  induction fields with
  | nil => rfl
  | cons field fields ih =>
      obtain ⟨name, value⟩ := field
      rw [fieldsDepth, ih, List.map_cons, List.max?_cons]
      cases (fields.map fun field => valueDepth depth field.2).max? with
      | none => simp
      | some rest => rfl

theorem checkedValueDepth_eq {stack : Nat} {value : Value} (h : value.nesting < stack)
    (depth : Nat) : checkedValueDepth stack depth value = some (valueDepth depth value) := by
  induction stack generalizing value depth with
  | zero => exact absurd h (Nat.not_lt_zero _)
  | succ stack ih =>
      cases value with
      | array values =>
          have hnesting : ∀ value ∈ values, value.nesting < stack := by
            intro value hvalue
            have hmax := Json.nesting_le_of_mem hvalue
            rw [Value.nesting] at h
            omega
          have hdepths := mapM_some fun value hvalue => ih (hnesting value hvalue) (depth + 1)
          rw [checkedValueDepth, hdepths, valueDepth, arrayDepth_eq]
          rfl
      | object fields =>
          have hnesting : ∀ field ∈ fields, field.2.nesting < stack := by
            intro field hfield
            have hmax := Json.nesting_le_of_mem_fields hfield
            rw [Value.nesting] at h
            omega
          have hdepths := @mapM_some (Text × Value) Nat
            (fun field => checkedValueDepth stack (depth + 1) field.2)
            (fun field => valueDepth (depth + 1) field.2) fields
            fun field hfield => ih (hnesting field hfield) (depth + 1)
          rw [checkedValueDepth, hdepths, valueDepth, fieldsDepth_eq]
          rfl
      | null => rfl
      | bool value => rfl
      | number value => rfl
      | string value => rfl

theorem checkedStringLimits_eq {stack : Nat} {value : Value} (h : value.nesting < stack) :
    checkedStringLimits stack value = returns (validateJsonStringLimits value) := by
  induction stack generalizing value with
  | zero => exact absurd h (Nat.not_lt_zero _)
  | succ stack ih =>
      cases value with
      | array values =>
          have hnesting : ∀ value ∈ values, value.nesting < stack := by
            intro value hvalue
            have hmax := Json.nesting_le_of_mem hvalue
            rw [Value.nesting] at h
            omega
          rw [checkedStringLimits, validateJsonStringLimits]
          clear h
          induction values with
          | nil => rfl
          | cons value values ihvalues =>
              rw [List.forall_mem_cons] at hnesting
              rw [List.forM, ih hnesting.1, ihvalues hnesting.2, validateArrayStringLimits]
              exact returns_bind fun _ _ => rfl
      | object fields =>
          have hnesting : ∀ field ∈ fields, field.2.nesting < stack := by
            intro field hfield
            have hmax := Json.nesting_le_of_mem_fields hfield
            rw [Value.nesting] at h
            omega
          rw [checkedStringLimits, validateJsonStringLimits]
          split
          · rfl
          · clear * - ih hnesting
            induction fields with
            | nil => rfl
            | cons field fields ihfields =>
                rw [List.forall_mem_cons] at hnesting
                rw [List.forM, ih hnesting.1, ihfields hnesting.2,
                  validateFieldsStringLimits]
                exact returns_bind fun _ _ => rfl
      | null => rfl
      | bool value => rfl
      | number value => rfl
      | string value => rfl

/-- `parse_unique_json`: bytes that are no text are no JSON. -/
def parseUniqueJsonBytes [Json.Parser] (document : List UInt8) : Except S3PolicyError Value :=
  match Utf8.ofBytes document with
  | some text => parseUniqueJson text
  | none => .error (.ofSyntax malformedJson)

theorem nesting_parseUniqueJson [Json.Parser] {document : Text} {root : Value}
    (h : parseUniqueJson document = .ok root) : root.nesting < jsonRecursionLimit := by
  rw [parseUniqueJson] at h
  split at h
  · next value hvalue =>
      obtain rfl := Except.ok.inj h
      obtain ⟨found, hparse, hunique⟩ := Option.bind_eq_some_iff.1 hvalue
      exact (Json.nesting_unique hunique).trans_lt (Json.Parser.nesting_parse hparse)
  · cases h

variable {α : Type}

/-- `parse_policy_document`, with so many calls that may be open at once. -/
def checkedParsePolicyDocument [Json.Parser] (stack : Nat) (document : List UInt8)
    (parse : Value → Checked α) : Checked (ParsedPolicyDocument α) :=
  if maxS3PolicyBytes < document.length then returns (.error (.limit policyTooLarge))
  else if document = [] then returns (.error (.ofSyntax malformedJson))
  else do
    let root ← returns (parseUniqueJsonBytes document)
    let depth ← orPanic (checkedValueDepth stack 1 root)
    if maxS3PolicyDepth < depth then returns (.error (.limit policyTooDeep))
    else do
      checkedStringLimits stack root
      let root ← returns (object root invalidDocument)
      returns (rejectUnknownFields root ["Version", "Id", "Statement"])
      let version ← returns (parseVersion root)
      let id ← returns (optionalField (root.get "Id".toList) parseId)
      let values ← returns (statementValues root)
      if maxS3PolicyStatements < values.length then returns (.error (.limit limitExceeded))
      else do
        let statements ← values.mapM parse
        returns (.ok { version, id, statements })

/-- `parse_policy_document` for bytes, without its panics. -/
def parsePolicyBytes [Json.Parser] (document : List UInt8)
    (parse : Value → Except S3PolicyError α) : Except S3PolicyError (ParsedPolicyDocument α) :=
  if maxS3PolicyBytes < document.length then .error (.limit policyTooLarge)
  else if document = [] then .error (.ofSyntax malformedJson)
  else do
    let root ← parseUniqueJsonBytes document
    parsePolicyRoot root parse

theorem nesting_parseUniqueJsonBytes [Json.Parser] {document : List UInt8} {root : Value}
    (h : parseUniqueJsonBytes document = .ok root) : root.nesting < jsonRecursionLimit := by
  rw [parseUniqueJsonBytes] at h
  split at h
  · exact nesting_parseUniqueJson h
  · cases h

theorem checkedParsePolicyDocument_eq [Json.Parser] {stack : Nat}
    (hstack : jsonRecursionLimit ≤ stack) {parse : Value → Except S3PolicyError α}
    {checked : Value → Checked α}
    (h : ∀ value, checked value = returns (parse value)) (document : List UInt8) :
    checkedParsePolicyDocument stack document checked =
      returns (parsePolicyBytes document parse) := by
  rw [checkedParsePolicyDocument, parsePolicyBytes]
  split
  · rfl
  · split
    · rfl
    · refine returns_bind fun root hroot => ?_
      have hnesting := (nesting_parseUniqueJsonBytes hroot).trans_le hstack
      rw [checkedValueDepth_eq hnesting, orPanic_some, returns_ok_bind, parsePolicyRoot]
      split
      · rfl
      · rw [checkedStringLimits_eq hnesting]
        refine returns_bind fun _ _ => returns_bind fun fields _ => returns_bind fun _ _ =>
          returns_bind fun version _ => returns_bind fun id _ => returns_bind fun values _ => ?_
        split
        · rfl
        · rw [mapM_returns fun value _ => h value]
          exact returns_bind fun _ _ => rfl

/-- `S3BucketPolicy::parse` -/
def S3BucketPolicy.checkedParse [Json.Parser] (stack : Nat) (document : List UInt8)
    (targetBucket : Text) : Checked S3BucketPolicy :=
  if !validBucketName targetBucket then returns (.error (.validation invalidResource))
  else do
    let parsed ← checkedParsePolicyDocument stack document fun value =>
      checkedParseStatement value (.bucket targetBucket)
    let statements ← orPanic (parsed.statements.mapM (·.toBucket))
    returns (.ok { version := parsed.version, id := parsed.id, targetBucket, statements })

/-- `S3IdentityPolicy::parse` -/
def S3IdentityPolicy.checkedParse [Json.Parser] (stack : Nat) (document : List UInt8) :
    Checked S3IdentityPolicy := do
  let parsed ← checkedParsePolicyDocument stack document fun value =>
    checkedParseStatement value .identity
  let statements := parsed.statements.map (·.toIdentity)
  returns (.ok { version := parsed.version, id := parsed.id, statements })

def S3PrincipalClause.IsNonempty : S3PrincipalClause → Prop
  | .principal clause | .notPrincipal clause => clause ≠ .aws []

def S3ActionClause.patterns : S3ActionClause → List Text
  | .action patterns | .notAction patterns => patterns

/-- Patterns of which none is empty, and at least one. -/
def Nonempties (patterns : List Text) : Prop := patterns ≠ [] ∧ [] ∉ patterns

structure ParsedPolicyStatement.HasClauses (statement : ParsedPolicyStatement) : Prop where
  principal : ∀ clause ∈ statement.principal, clause.IsNonempty
  actions : Nonempties statement.actions.patterns
  resources : Nonempties statement.resources.patterns
  conditions : ∀ condition ∈ statement.conditions, condition.values ≠ []

structure S3PolicyStatement.HasClauses (statement : S3PolicyStatement) : Prop where
  principal : statement.principal.IsNonempty
  actions : Nonempties statement.actions.patterns
  resources : Nonempties statement.resources.patterns
  conditions : ∀ condition ∈ statement.conditions, condition.values ≠ []

structure S3IdentityPolicyStatement.HasClauses (statement : S3IdentityPolicyStatement) :
    Prop where
  actions : Nonempties statement.actions.patterns
  resources : Nonempties statement.resources.patterns
  conditions : ∀ condition ∈ statement.conditions, condition.values ≠ []

theorem mapM_ne_nil {β : Type} {f : α → Except S3PolicyError β} {values : List α}
    {results : List β} (h : values.mapM f = .ok results) (hne : values ≠ []) : results ≠ [] := by
  rintro rfl
  exact hne (List.forall₂_nil_right_iff.1 (Result.mapM_eq_ok_iff.1 h))

theorem nonempties_of_parseStringValues {value : Value} {limit : Nat}
    {errorCode : S3PolicyErrorCode} {values : List Text}
    (h : parseStringValues value limit errorCode = .ok values) : Nonempties values := by
  obtain ⟨found, hfound, h⟩ := Result.bind_eq_ok_iff.1 h
  have hne : found ≠ [] := by
    unfold stringValues at hfound
    split at hfound
    · obtain rfl := Except.ok.inj hfound
      exact List.cons_ne_nil _ _
    · exact mapM_ne_nil hfound (List.cons_ne_nil _ _)
    · cases hfound
  split at h
  · cases h
  · next hlimits =>
      split at h
      · cases h
      · obtain rfl := Except.ok.inj h
        refine ⟨hne, fun hempty => hlimits (Or.inr ?_)⟩
        exact List.any_eq_true.2 ⟨[], hempty, rfl⟩

theorem nonempties_of_parsePatterns {value : Value} {limit : Nat} {errorCode : S3PolicyErrorCode}
    {values : List Text} (h : parsePatterns value limit errorCode = .ok values) :
    Nonempties values := by
  obtain ⟨found, hfound, h⟩ := Result.bind_eq_ok_iff.1 h
  split at h
  · cases h
  · obtain rfl := Except.ok.inj h
    exact nonempties_of_parseStringValues hfound

theorem exists_of_exclusiveClause {object : Fields} {positive negative : String}
    {parse : Value → Except S3PolicyError α} {clause : Clause α}
    (h : exclusiveClause object positive negative parse = .ok clause) :
    ∃ value parsed, parse value = .ok parsed ∧
      (clause = .positive parsed ∨ clause = .negative parsed) := by
  unfold exclusiveClause at h
  split at h
  · cases h
  · cases h
  · next value _ _ =>
      cases hparse : parse value with
      | error e =>
          rw [hparse] at h
          cases h
      | ok parsed =>
          rw [hparse] at h
          exact ⟨value, parsed, hparse, Or.inl (Except.ok.inj h).symm⟩
  · next value _ _ =>
      cases hparse : parse value with
      | error e =>
          rw [hparse] at h
          cases h
      | ok parsed =>
          rw [hparse] at h
          exact ⟨value, parsed, hparse, Or.inr (Except.ok.inj h).symm⟩

theorem parsePrincipal_ne {value : Value} {principal : S3PolicyPrincipal}
    (h : parsePrincipal value = .ok principal) : principal ≠ .aws [] := by
  rw [parsePrincipal] at h
  split at h
  · obtain rfl := Except.ok.inj h
    intro heq
    cases heq
  · obtain ⟨fields, _, h⟩ := Result.bind_eq_ok_iff.1 h
    obtain ⟨_, h⟩ := Result.andThen_eq_ok_iff.1 h
    split at h
    · obtain ⟨values, hvalues, h⟩ := Result.bind_eq_ok_iff.1 h
      obtain ⟨principals, hprincipals, h⟩ := Result.bind_eq_ok_iff.1 h
      obtain rfl := Except.ok.inj h
      intro heq
      exact mapM_ne_nil hprincipals (nonempties_of_parseStringValues hvalues).1
        (S3PolicyPrincipal.aws.inj heq)
    · cases h

theorem nonempty_of_parsePrincipalClause {statement : Fields} {targetBucket : Text}
    {clause : Option S3PrincipalClause}
    (h : parsePrincipalClause statement (.bucket targetBucket) = .ok clause) :
    ∃ found, clause = some found ∧ found.IsNonempty := by
  obtain ⟨parsed, hclause, h⟩ := Result.bind_eq_ok_iff.1 h
  obtain ⟨value, principal, hparse, rfl | rfl⟩ := exists_of_exclusiveClause hclause
  · obtain rfl := Except.ok.inj h
    exact ⟨_, rfl, parsePrincipal_ne hparse⟩
  · obtain rfl := Except.ok.inj h
    exact ⟨_, rfl, parsePrincipal_ne hparse⟩

theorem nonempties_of_parseActionClause {statement : Fields} {policyKind : S3PolicyKind}
    {clause : S3ActionClause} (h : parseActionClause statement policyKind = .ok clause) :
    Nonempties clause.patterns := by
  obtain ⟨parsed, hclause, h⟩ := Result.bind_eq_ok_iff.1 h
  obtain ⟨value, patterns, hparse, rfl | rfl⟩ := exists_of_exclusiveClause hclause
  · obtain ⟨-, h⟩ := Result.andThen_eq_ok_iff.1 h
    obtain rfl := Except.ok.inj h
    exact nonempties_of_parsePatterns hparse
  · obtain ⟨-, h⟩ := Result.andThen_eq_ok_iff.1 h
    obtain rfl := Except.ok.inj h
    exact nonempties_of_parsePatterns hparse

theorem nonempties_of_parseResourceClause {statement : Fields} {policyKind : S3PolicyKind}
    {clause : S3ResourceClause} (h : parseResourceClause statement policyKind = .ok clause) :
    Nonempties clause.patterns := by
  obtain ⟨parsed, hclause, h⟩ := Result.bind_eq_ok_iff.1 h
  obtain ⟨value, patterns, hparse, rfl | rfl⟩ := exists_of_exclusiveClause hclause
  · obtain ⟨-, h⟩ := Result.andThen_eq_ok_iff.1 h
    obtain rfl := Except.ok.inj h
    exact nonempties_of_parsePatterns hparse
  · obtain ⟨-, h⟩ := Result.andThen_eq_ok_iff.1 h
    obtain rfl := Except.ok.inj h
    exact nonempties_of_parsePatterns hparse

theorem hasClauses_of_parseStatement {value : Value} {policyKind : S3PolicyKind}
    {parsed : ParsedPolicyStatement} (h : parseStatement value policyKind = .ok parsed) :
    parsed.HasClauses ∧ ∀ targetBucket, policyKind = .bucket targetBucket →
      parsed.principal.isSome = true := by
  have hconditions := (isAccepted_of_parseStatement h).conditions
  obtain ⟨statement, _, h⟩ := Result.bind_eq_ok_iff.1 h
  obtain ⟨_, h⟩ := Result.andThen_eq_ok_iff.1 h
  obtain ⟨sid, _, h⟩ := Result.bind_eq_ok_iff.1 h
  obtain ⟨effect, _, h⟩ := Result.bind_eq_ok_iff.1 h
  obtain ⟨principal, hprincipal, h⟩ := Result.bind_eq_ok_iff.1 h
  obtain ⟨actions, hactions, h⟩ := Result.bind_eq_ok_iff.1 h
  obtain ⟨resources, hresources, h⟩ := Result.bind_eq_ok_iff.1 h
  obtain ⟨_, h⟩ := Result.andThen_eq_ok_iff.1 h
  obtain ⟨conditions, _, h⟩ := Result.bind_eq_ok_iff.1 h
  obtain rfl := Except.ok.inj h
  refine ⟨⟨?_, nonempties_of_parseActionClause hactions,
    nonempties_of_parseResourceClause hresources,
    fun condition hcondition => (hconditions condition hcondition).nonempty⟩, ?_⟩
  · intro clause hclause
    cases policyKind with
    | identity =>
        obtain rfl := Except.ok.inj hprincipal
        cases hclause
    | bucket targetBucket =>
        obtain ⟨found, rfl, hfound⟩ := nonempty_of_parsePrincipalClause hprincipal
        obtain rfl := Option.some.inj hclause
        exact hfound
  · rintro targetBucket rfl
    obtain ⟨found, rfl, -⟩ := nonempty_of_parsePrincipalClause hprincipal
    rfl

theorem statements_of_parsePolicyBytes [Json.Parser] {document : List UInt8}
    {parse : Value → Except S3PolicyError α} {parsed : ParsedPolicyDocument α}
    (h : parsePolicyBytes document parse = .ok parsed) :
    parsed.statements ≠ [] ∧
      ∀ statement ∈ parsed.statements, ∃ value, parse value = .ok statement := by
  rw [parsePolicyBytes] at h
  split at h
  · cases h
  · split at h
    · cases h
    · obtain ⟨root, -, h⟩ := Result.bind_eq_ok_iff.1 h
      refine ⟨?_, parsePolicyRoot_statements h⟩
      rw [parsePolicyRoot] at h
      split at h
      · cases h
      · obtain ⟨-, h⟩ := Result.andThen_eq_ok_iff.1 h
        obtain ⟨fields, -, h⟩ := Result.bind_eq_ok_iff.1 h
        obtain ⟨-, h⟩ := Result.andThen_eq_ok_iff.1 h
        obtain ⟨version, -, h⟩ := Result.bind_eq_ok_iff.1 h
        obtain ⟨id, -, h⟩ := Result.bind_eq_ok_iff.1 h
        obtain ⟨values, hvalues, h⟩ := Result.bind_eq_ok_iff.1 h
        split at h
        · cases h
        · obtain ⟨statements, hstatements, h⟩ := Result.bind_eq_ok_iff.1 h
          obtain rfl := Except.ok.inj h
          refine mapM_ne_nil hstatements ?_
          rw [statementValues] at hvalues
          split at hvalues
          · cases hvalues
          · obtain rfl := Except.ok.inj hvalues
            exact List.cons_ne_nil _ _
          · obtain rfl := Except.ok.inj hvalues
            exact List.cons_ne_nil _ _
          · cases hvalues

/-- A document of a size and a depth that the parser admits. -/
def WithinLimits [Json.Parser] (document : List UInt8) : Prop :=
  document.length ≤ maxS3PolicyBytes ∧
    ∃ root, parseUniqueJsonBytes document = .ok root ∧ valueDepth 1 root ≤ maxS3PolicyDepth

theorem withinLimits_of_parsePolicyBytes [Json.Parser] {document : List UInt8}
    {parse : Value → Except S3PolicyError α} {parsed : ParsedPolicyDocument α}
    (h : parsePolicyBytes document parse = .ok parsed) : WithinLimits document := by
  rw [parsePolicyBytes] at h
  split at h
  · cases h
  · next hlength =>
      split at h
      · cases h
      · obtain ⟨root, hroot, h⟩ := Result.bind_eq_ok_iff.1 h
        rw [parsePolicyRoot] at h
        split at h
        · cases h
        · next hdepth => exact ⟨Nat.le_of_not_lt hlength, root, hroot, Nat.le_of_not_lt hdepth⟩

/-- The principal that is expected is there. -/
theorem toBucket_of_mem [Json.Parser] {document : List UInt8} {targetBucket : Text}
    {parsed : ParsedPolicyDocument ParsedPolicyStatement}
    (h : parsePolicyBytes document (fun value => parseStatement value (.bucket targetBucket)) =
      .ok parsed) :
    ∃ statements, parsed.statements.mapM (·.toBucket) = some statements ∧ statements ≠ [] ∧
      ∀ statement ∈ statements, statement.HasClauses := by
  obtain ⟨hne, hparsed⟩ := statements_of_parsePolicyBytes h
  have hfound : ∀ statement ∈ parsed.statements, ∃ found, statement.toBucket = some found ∧
      found.HasClauses := by
    intro statement hstatement
    obtain ⟨value, hvalue⟩ := hparsed statement hstatement
    obtain ⟨hclauses, hprincipal⟩ := hasClauses_of_parseStatement hvalue
    obtain ⟨principal, hsome⟩ := Option.isSome_iff_exists.1 (hprincipal targetBucket rfl)
    rw [ParsedPolicyStatement.toBucket, hsome]
    exact ⟨_, rfl, hclauses.principal principal hsome, hclauses.actions, hclauses.resources,
      hclauses.conditions⟩
  have hall : ∀ list : List ParsedPolicyStatement, (∀ statement ∈ list, ∃ found,
      statement.toBucket = some found ∧ found.HasClauses) → ∃ statements,
        list.mapM (·.toBucket) = some statements ∧ statements.length = list.length ∧
          ∀ statement ∈ statements, statement.HasClauses := by
    intro list hlist
    induction list with
    | nil => exact ⟨[], rfl, rfl, by simp⟩
    | cons statement list ih =>
        rw [List.forall_mem_cons] at hlist
        obtain ⟨found, hsome, hclauses⟩ := hlist.1
        obtain ⟨statements, hrest, hlength, hstatements⟩ := ih hlist.2
        refine ⟨found :: statements, ?_, congrArg (· + 1) hlength,
          List.forall_mem_cons.2 ⟨hclauses, hstatements⟩⟩
        rw [List.mapM_cons, hsome, hrest]
        rfl
  obtain ⟨statements, hsome, hlength, hclauses⟩ := hall parsed.statements hfound
  refine ⟨statements, hsome, ?_, hclauses⟩
  rintro rfl
  exact hne (List.eq_nil_of_length_eq_zero hlength.symm)

/-- Either parser returns a policy or an error for any bytes, with no more calls open at once than
the nesting that the reader of JSON takes; a policy has statements, and each has its clauses. -/
theorem parsers_total [Json.Parser] (document : List UInt8) :
    (∀ targetBucket, ∃ result,
      S3BucketPolicy.checkedParse jsonRecursionLimit document targetBucket = returns result ∧
        ∀ policy, result = .ok policy → WithinLimits document ∧ policy.statements ≠ [] ∧
          ∀ statement ∈ policy.statements, statement.HasClauses) ∧
    ∃ result, S3IdentityPolicy.checkedParse jsonRecursionLimit document = returns result ∧
      ∀ policy, result = .ok policy → WithinLimits document ∧ policy.statements ≠ [] ∧
        ∀ statement ∈ policy.statements, statement.HasClauses := by
  have hdocument : ∀ policyKind, checkedParsePolicyDocument jsonRecursionLimit document
      (fun value => checkedParseStatement value policyKind) =
        returns (parsePolicyBytes document fun value => parseStatement value policyKind) :=
    fun policyKind => checkedParsePolicyDocument_eq (Nat.le_refl _)
      (fun value => checkedParseStatement_eq value policyKind) document
  constructor
  · intro targetBucket
    rw [S3BucketPolicy.checkedParse, hdocument]
    split
    · exact ⟨_, rfl, fun policy heq => nomatch heq⟩
    · cases hparsed : parsePolicyBytes document fun value =>
          parseStatement value (.bucket targetBucket) with
      | error e => exact ⟨.error e, rfl, fun policy heq => nomatch heq⟩
      | ok parsed =>
          obtain ⟨statements, hsome, hne, hclauses⟩ := toBucket_of_mem hparsed
          rw [returns_ok_bind, hsome]
          refine ⟨_, rfl, ?_⟩
          intro policy heq
          obtain rfl := Except.ok.inj heq
          exact ⟨withinLimits_of_parsePolicyBytes hparsed, hne, hclauses⟩
  · rw [S3IdentityPolicy.checkedParse, hdocument]
    cases hparsed : parsePolicyBytes document fun value => parseStatement value .identity with
    | error e => exact ⟨.error e, rfl, fun policy heq => nomatch heq⟩
    | ok parsed =>
        obtain ⟨hne, hstatements⟩ := statements_of_parsePolicyBytes hparsed
        refine ⟨_, rfl, ?_⟩
        intro policy heq
        obtain rfl := Except.ok.inj heq
        refine ⟨withinLimits_of_parsePolicyBytes hparsed, ?_, ?_⟩
        · exact fun hnil => hne (List.map_eq_nil_iff.1 hnil)
        · intro statement hstatement
          obtain ⟨found, hfound, rfl⟩ := List.mem_map.1 hstatement
          obtain ⟨value, hvalue⟩ := hstatements found hfound
          obtain ⟨hclauses, -⟩ := hasClauses_of_parseStatement hvalue
          exact ⟨hclauses.actions, hclauses.resources, hclauses.conditions⟩

end MediaHub.Policy
