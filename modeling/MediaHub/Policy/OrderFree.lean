import MediaHub.Order.Reordered
import MediaHub.Policy.Reference

/-!
Neither the order of a policy's parts matters, nor which of the two forms of a clause is negated.
-/

namespace MediaHub.Policy

open Json (Value)

inductive S3PolicyPrincipal.Reordered : S3PolicyPrincipal → S3PolicyPrincipal → Prop
  | any : Reordered .any .any
  | aws {first second} (h : List.Perm first second) : Reordered (.aws first) (.aws second)

inductive S3PrincipalClause.Reordered : S3PrincipalClause → S3PrincipalClause → Prop
  | principal {first second} (h : S3PolicyPrincipal.Reordered first second) :
      Reordered (.principal first) (.principal second)
  | notPrincipal {first second} (h : S3PolicyPrincipal.Reordered first second) :
      Reordered (.notPrincipal first) (.notPrincipal second)

inductive S3ActionClause.Reordered : S3ActionClause → S3ActionClause → Prop
  | action {first second} (h : List.Perm first second) : Reordered (.action first) (.action second)
  | notAction {first second} (h : List.Perm first second) :
      Reordered (.notAction first) (.notAction second)

inductive S3ResourceClause.Reordered : S3ResourceClause → S3ResourceClause → Prop
  | resource {first second} (h : List.Perm first second) :
      Reordered (.resource first) (.resource second)
  | notResource {first second} (h : List.Perm first second) :
      Reordered (.notResource first) (.notResource second)

structure S3PolicyCondition.Reordered (first second : S3PolicyCondition) : Prop where
  operator : second.operator = first.operator
  key : second.key = first.key
  values : first.values.Perm second.values

structure S3PolicyStatement.Reordered (first second : S3PolicyStatement) : Prop where
  effect : second.effect = first.effect
  principal : first.principal.Reordered second.principal
  actions : first.actions.Reordered second.actions
  resources : first.resources.Reordered second.resources
  conditions : Reordered.UpTo S3PolicyCondition.Reordered first.conditions second.conditions

structure S3IdentityPolicyStatement.Reordered (first second : S3IdentityPolicyStatement) :
    Prop where
  effect : second.effect = first.effect
  actions : first.actions.Reordered second.actions
  resources : first.resources.Reordered second.resources
  conditions : Reordered.UpTo S3PolicyCondition.Reordered first.conditions second.conditions

theorem exists_mem_iff_of_perm {α : Type} {first second : List α} (h : first.Perm second)
    {p : α → Prop} : (∃ a ∈ first, p a) ↔ ∃ a ∈ second, p a :=
  exists_congr fun _ => and_congr_left' h.mem_iff

theorem S3PolicyPrincipal.Reordered.names_iff {first second : S3PolicyPrincipal}
    (h : first.Reordered second) {request : S3PolicyRequestContext} :
    first.Names request ↔ second.Names request := by
  cases h with
  | any => exact Iff.rfl
  | aws hperm => exact exists_mem_iff_of_perm hperm

theorem S3PrincipalClause.Reordered.holds_iff {first second : S3PrincipalClause}
    (h : first.Reordered second) {request : S3PolicyRequestContext} :
    first.Holds request ↔ second.Holds request := by
  cases h with
  | principal hperm => exact hperm.names_iff
  | notPrincipal hperm => exact not_congr hperm.names_iff

theorem S3ActionClause.Reordered.holds_iff {first second : S3ActionClause}
    (h : first.Reordered second) {action : S3PolicyAction} :
    first.Holds action ↔ second.Holds action := by
  cases h with
  | action hperm => exact exists_mem_iff_of_perm hperm
  | notAction hperm => exact not_congr (exists_mem_iff_of_perm hperm)

theorem S3ResourceClause.Reordered.holds_iff {first second : S3ResourceClause}
    (h : first.Reordered second) {resource : Text} :
    first.Holds resource ↔ second.Holds resource := by
  cases h with
  | resource hperm => exact exists_mem_iff_of_perm hperm
  | notResource hperm => exact not_congr (exists_mem_iff_of_perm hperm)

namespace S3PolicyCondition.Reordered

variable {first second : S3PolicyCondition}

theorem holds_iff (h : first.Reordered second) {request : S3PolicyRequestContext} :
    first.Holds request ↔ second.Holds request := by
  obtain ⟨test, subject, listed⟩ := first
  obtain ⟨test', subject', permuted⟩ := second
  have hmem (value : S3ConditionValue) : value ∈ listed ↔ value ∈ permuted := h.values.mem_iff
  obtain rfl : test' = test := h.operator
  obtain rfl : subject' = subject := h.key
  cases test' <;> simp only [Holds, hmem]

theorem isTyped (h : first.Reordered second) (htyped : first.IsTyped) : second.IsTyped := by
  refine ⟨?_, ?_, ?_⟩
  · rw [h.operator, h.key]
    exact htyped.pair
  · intro value hmem
    rw [h.operator]
    exact htyped.values value (h.values.mem_iff.2 hmem)
  · intro hnil
    exact htyped.nonempty (List.perm_nil.1 (hnil ▸ h.values))

end S3PolicyCondition.Reordered

section Conditions

variable {first second : List S3PolicyCondition}

theorem forall_holds_iff (h : Reordered.UpTo S3PolicyCondition.Reordered first second)
    {request : S3PolicyRequestContext} :
    (∀ condition ∈ first, condition.Holds request) ↔
      ∀ condition ∈ second, condition.Holds request :=
  h.forall_mem_iff fun _ _ _ hab => hab.holds_iff

theorem forall_isTyped (h : Reordered.UpTo S3PolicyCondition.Reordered first second)
    (htyped : ∀ condition ∈ first, condition.IsTyped) :
    ∀ condition ∈ second, condition.IsTyped := by
  have hiff := h.forall_mem_iff (p := fun _ => True) (q := fun condition => condition.IsTyped)
    fun condition hmem _ hab => iff_of_true trivial (hab.isTyped (htyped condition hmem))
  exact hiff.1 fun _ _ => trivial

end Conditions

theorem S3PolicyStatement.Reordered.holds_iff {first second : S3PolicyStatement}
    (h : first.Reordered second) {request : S3PolicyEvaluationRequest} :
    first.Holds request ↔ second.Holds request :=
  and_congr h.principal.holds_iff (and_congr h.actions.holds_iff
    (and_congr h.resources.holds_iff (forall_holds_iff h.conditions)))

theorem S3IdentityPolicyStatement.Reordered.holds_iff {first second : S3IdentityPolicyStatement}
    (h : first.Reordered second) {request : S3PolicyEvaluationRequest} :
    first.Holds request ↔ second.Holds request :=
  and_congr h.actions.holds_iff
    (and_congr h.resources.holds_iff (forall_holds_iff h.conditions))

/-- The same decision is called for when the statements are reordered. -/
theorem callsFor_iff_of_upTo {α : Type} {r : α → α → Prop} {holds : α → Prop}
    {effect : α → S3PolicyEffect} {first second : List α} (h : Reordered.UpTo r first second)
    (hholds : ∀ a b, r a b → (holds a ↔ holds b)) (heffect : ∀ a b, r a b → effect b = effect a)
    (decision : S3PolicyDecision) :
    CallsFor holds effect first decision ↔ CallsFor holds effect second decision := by
  have hexists (e : S3PolicyEffect) :
      (∃ a ∈ first, holds a ∧ effect a = e) ↔ ∃ b ∈ second, holds b ∧ effect b = e :=
    h.exists_mem_iff fun a _ b hab => by rw [hholds a b hab, heffect a b hab]
  cases decision with
  | explicitDeny => exact hexists .deny
  | allow => exact and_congr (not_congr (hexists .deny)) (hexists .allow)
  | implicitDeny => exact not_congr (h.exists_mem_iff fun a _ b hab => hholds a b hab)

theorem S3PolicyStatement.IsParsed.isTyped {targetBucket : Text} {statement : S3PolicyStatement}
    (h : statement.IsParsed targetBucket) :
    ∀ condition ∈ statement.conditions, condition.IsTyped := by
  obtain ⟨parsed, haccepted, hstatement⟩ := h.isAccepted
  obtain ⟨principal, _, rfl⟩ := Option.map_eq_some_iff.1 hstatement
  exact haccepted.conditions

theorem S3IdentityPolicyStatement.IsParsed.isTyped {statement : S3IdentityPolicyStatement}
    (h : statement.IsParsed) : ∀ condition ∈ statement.conditions, condition.IsTyped := by
  obtain ⟨parsed, haccepted, rfl⟩ := h.isAccepted
  exact haccepted.conditions

theorem S3BucketPolicy.evaluate_eq_iff {policy : S3BucketPolicy} {request : S3PolicyRequest}
    {evaluated : S3PolicyEvaluationRequest}
    (htyped : ∀ statement ∈ policy.statements, ∀ condition ∈ statement.conditions,
      condition.IsTyped)
    (hbucket : request.bucket = policy.targetBucket)
    (hrequest : request.evaluationRequest = some evaluated) (decision : S3PolicyDecision) :
    policy.evaluate request = decision ↔
      CallsFor (·.Holds evaluated) (·.effect) policy.statements decision := by
  rw [evaluate, if_neg (not_not_intro hbucket), hrequest]
  exact evaluateStatements_eq_iff fun statement hmem =>
    S3PolicyStatement.matches_iff (htyped statement hmem)

theorem S3IdentityPolicy.evaluate_eq_iff {policy : S3IdentityPolicy}
    {request : S3IdentityPolicyRequest} {evaluated : S3PolicyEvaluationRequest}
    (htyped : ∀ statement ∈ policy.statements, ∀ condition ∈ statement.conditions,
      condition.IsTyped)
    (hrequest : request.evaluationRequest = some evaluated) (decision : S3PolicyDecision) :
    policy.evaluate request = decision ↔
      CallsFor (·.Holds evaluated) (·.effect) policy.statements decision := by
  rw [evaluate, hrequest]
  exact evaluateStatements_eq_iff fun statement hmem =>
    S3IdentityPolicyStatement.matches_iff (htyped statement hmem)

theorem S3BucketPolicy.evaluate_reordered {first second : S3BucketPolicy}
    {request : S3PolicyRequest} {evaluated : S3PolicyEvaluationRequest}
    (htyped : ∀ statement ∈ first.statements, ∀ condition ∈ statement.conditions,
      condition.IsTyped)
    (htarget : second.targetBucket = first.targetBucket)
    (h : Reordered.UpTo S3PolicyStatement.Reordered first.statements second.statements)
    (hbucket : request.bucket = first.targetBucket)
    (hrequest : request.evaluationRequest = some evaluated) :
    second.evaluate request = first.evaluate request := by
  have htyped' : ∀ statement ∈ second.statements, ∀ condition ∈ statement.conditions,
      condition.IsTyped := by
    have hiff := h.forall_mem_iff (p := fun _ => True)
      (q := fun statement => ∀ condition ∈ statement.conditions, condition.IsTyped)
      fun statement hmem _ hab =>
        iff_of_true trivial (forall_isTyped hab.conditions (htyped statement hmem))
    exact hiff.1 fun _ _ => trivial
  rw [evaluate_eq_iff htyped' (hbucket.trans htarget.symm) hrequest,
    ← callsFor_iff_of_upTo h (fun _ _ hab => hab.holds_iff) (fun _ _ hab => hab.effect),
    ← evaluate_eq_iff htyped hbucket hrequest]

theorem S3IdentityPolicy.evaluate_reordered {first second : S3IdentityPolicy}
    {request : S3IdentityPolicyRequest} {evaluated : S3PolicyEvaluationRequest}
    (htyped : ∀ statement ∈ first.statements, ∀ condition ∈ statement.conditions,
      condition.IsTyped)
    (h : Reordered.UpTo S3IdentityPolicyStatement.Reordered first.statements second.statements)
    (hrequest : request.evaluationRequest = some evaluated) :
    second.evaluate request = first.evaluate request := by
  have htyped' : ∀ statement ∈ second.statements, ∀ condition ∈ statement.conditions,
      condition.IsTyped := by
    have hiff := h.forall_mem_iff (p := fun _ => True)
      (q := fun statement => ∀ condition ∈ statement.conditions, condition.IsTyped)
      fun statement hmem _ hab =>
        iff_of_true trivial (forall_isTyped hab.conditions (htyped statement hmem))
    exact hiff.1 fun _ _ => trivial
  rw [evaluate_eq_iff htyped' hrequest,
    ← callsFor_iff_of_upTo h (fun _ _ hab => hab.holds_iff) (fun _ _ hab => hab.effect),
    ← evaluate_eq_iff htyped hrequest]

/-- The operators that come in two forms. -/
inductive S3ConditionOperator.Negates : S3ConditionOperator → S3ConditionOperator → Prop
  | equals : Negates .stringEquals .stringNotEquals
  | like : Negates .stringLike .stringNotLike
  | ipAddress : Negates .ipAddress .notIpAddress

theorem parseConditionValue_negates {operator negated : S3ConditionOperator}
    (h : operator.Negates negated) :
    parseConditionValue negated = parseConditionValue operator := by
  funext value
  cases h <;> rfl

theorem parseCondition_negates {operator negated : S3ConditionOperator}
    (h : operator.Negates negated) {key : S3ConditionKey} {value : Value}
    {condition : S3PolicyCondition} (hparse : parseCondition operator key value = .ok condition) :
    parseCondition negated key value = .ok { condition with operator := negated } := by
  have hpair : validPair negated key = validPair operator key := by cases h <;> rfl
  have hshape : (negated = .bool ∨ negated = .null) ↔ (operator = .bool ∨ operator = .null) := by
    cases h <;> simp
  rw [parseCondition] at hparse ⊢
  rw [hpair]
  split at hparse
  · cases hparse
  · next hvalid =>
      rw [if_neg hvalid]
      obtain ⟨rawValues, hraw, hparse⟩ := Result.bind_eq_ok_iff.1 hparse
      refine Result.bind_eq_ok_iff.2 ⟨rawValues, hraw, ?_⟩
      rw [parseConditionValue_negates h]
      simp only [hshape]
      split at hparse
      · cases hparse
      · next hlength =>
          rw [if_neg hlength]
          split at hparse
          · cases hparse
          · next hsingle =>
              rw [if_neg hsingle]
              obtain ⟨values, hvalues, hcondition⟩ := Result.bind_eq_ok_iff.1 hparse
              cases hcondition
              exact Result.bind_eq_ok_iff.2 ⟨values, hvalues, rfl⟩

theorem holds_negates {operator negated : S3ConditionOperator} (h : operator.Negates negated)
    {key : S3ConditionKey} {values : List S3ConditionValue} {request : S3PolicyRequestContext} :
    S3PolicyCondition.Holds { operator := negated, key, values } request ↔
      ¬ S3PolicyCondition.Holds { operator, key, values } request := by
  cases h <;> simp [S3PolicyCondition.Holds]

theorem exists_matches_negates {operator negated : S3ConditionOperator}
    (h : operator.Negates negated) {key : S3ConditionKey} {value : Value}
    {condition : S3PolicyCondition} (hparse : parseCondition operator key value = .ok condition) :
    ∃ complement, parseCondition negated key value = .ok complement ∧
      ∀ request, complement.matches request = !condition.matches request := by
  refine ⟨_, parseCondition_negates h hparse, fun request => ?_⟩
  obtain ⟨htyped, rfl, rfl⟩ := isTyped_of_parseCondition hparse
  have htyped' := (isTyped_of_parseCondition (parseCondition_negates h hparse)).1
  rw [Bool.eq_iff_iff, S3PolicyCondition.matches_iff htyped', Bool.not_eq_true',
    Bool.eq_false_iff, ne_eq, S3PolicyCondition.matches_iff htyped]
  exact holds_negates h

/-- On parsed statements and well-formed requests a policy decides what its statements call for, in
whatever order its parts are written, and a negated form holds just where its positive form does
not. -/
theorem evaluation_is_reference :
    (∀ (policy : S3BucketPolicy) (request : S3PolicyRequest)
        (evaluated : S3PolicyEvaluationRequest),
      (∀ statement ∈ policy.statements, statement.IsParsed policy.targetBucket) →
      request.bucket = policy.targetBucket → request.evaluationRequest = some evaluated →
      (∀ statement ∈ policy.statements,
          statement.matches evaluated = true ↔ statement.Holds evaluated) ∧
        (∀ decision, policy.evaluate request = decision ↔
          CallsFor (·.Holds evaluated) (·.effect) policy.statements decision) ∧
        ∀ other : S3BucketPolicy, other.targetBucket = policy.targetBucket →
          Reordered.UpTo S3PolicyStatement.Reordered policy.statements other.statements →
          other.evaluate request = policy.evaluate request) ∧
    (∀ (policy : S3IdentityPolicy) (request : S3IdentityPolicyRequest)
        (evaluated : S3PolicyEvaluationRequest),
      (∀ statement ∈ policy.statements, statement.IsParsed) →
      request.evaluationRequest = some evaluated →
      (∀ statement ∈ policy.statements,
          statement.matches evaluated = true ↔ statement.Holds evaluated) ∧
        (∀ decision, policy.evaluate request = decision ↔
          CallsFor (·.Holds evaluated) (·.effect) policy.statements decision) ∧
        ∀ other : S3IdentityPolicy,
          Reordered.UpTo S3IdentityPolicyStatement.Reordered policy.statements other.statements →
          other.evaluate request = policy.evaluate request) ∧
    (∀ principal request, principalMatches (.notPrincipal principal) request =
      !principalMatches (.principal principal) request) ∧
    (∀ patterns action, actionClauseMatches (.notAction patterns) action =
      !actionClauseMatches (.action patterns) action) ∧
    (∀ patterns resource, resourceClauseMatches (.notResource patterns) resource =
      !resourceClauseMatches (.resource patterns) resource) ∧
    ∀ operator negated, S3ConditionOperator.Negates operator negated →
      ∀ key value condition, parseCondition operator key value = .ok condition →
        ∃ complement, parseCondition negated key value = .ok complement ∧
          ∀ request, complement.matches request = !condition.matches request := by
  refine ⟨?_, ?_, fun _ _ => rfl, fun _ _ => rfl, fun _ _ => rfl, ?_⟩
  · intro policy request evaluated hparsed hbucket hrequest
    have htyped := fun statement hmem => (hparsed statement hmem).isTyped
    exact ⟨fun statement hmem => S3PolicyStatement.matches_iff (htyped statement hmem),
      S3BucketPolicy.evaluate_eq_iff htyped hbucket hrequest,
      fun other htarget h =>
        S3BucketPolicy.evaluate_reordered htyped htarget h hbucket hrequest⟩
  · intro policy request evaluated hparsed hrequest
    have htyped := fun statement hmem => (hparsed statement hmem).isTyped
    exact ⟨fun statement hmem => S3IdentityPolicyStatement.matches_iff (htyped statement hmem),
      S3IdentityPolicy.evaluate_eq_iff htyped hrequest,
      fun other h => S3IdentityPolicy.evaluate_reordered htyped h hrequest⟩
  · intro operator negated h key value condition hparse
    exact exists_matches_negates h hparse

/-- A text field of a JSON object. -/
def textField (name value : String) : Text × Value := (name.toList, .string value.toList)

/-- Whoever asks from one network may read. -/
def networkReads : S3PolicyStatement :=
  { sid := none, effect := .allow, principal := .principal .any
    actions := .action ["s3:GetObject".toList]
    resources := .resource ["arn:aws:s3:::photos-prod/*".toList]
    conditions :=
      [{ operator := .ipAddress, key := .sourceIp
         values := [.ip { network := .v4 3405803776#32, prefixLen := 24 }] }] }

theorem networkReads_isParsed : networkReads.IsParsed "photos-prod".toList :=
  ⟨.object
      [textField "Action" "s3:GetObject",
        ("Condition".toList,
          .object [("IpAddress".toList, .object [textField "aws:SourceIp" "203.0.113.0/24"])]),
        textField "Effect" "Allow", textField "Principal" "*",
        textField "Resource" "arn:aws:s3:::photos-prod/*"],
    { networkReads with principal := some networkReads.principal },
    by decide +kernel, rfl⟩

/-- A request to read an object, from some address. -/
def readFrom (sourceIp : IpAddr) : S3PolicyRequest :=
  { action := .getObject, bucket := "photos-prod".toList, key := some "a".toList
    versionId := none, principalArn := none, principalAccount := none, userid := none
    secureTransport := true, sourceIp := some sourceIp
    query := { keyPrefix := none, delimiter := none, maxKeys := none } }

theorem evaluation_is_reference_networkReads :
    CallsFor
        (·.Holds { readFrom (.v4 3405803786#32) with
          resource := "arn:aws:s3:::photos-prod/a".toList })
        (·.effect) [networkReads] .allow :=
  ((evaluation_is_reference.1
      { version := "2012-10-17".toList, id := none, targetBucket := "photos-prod".toList
        statements := [networkReads] }
      (readFrom (.v4 3405803786#32)) _ (List.forall_mem_singleton.2 networkReads_isParsed) rfl
      (by decide +kernel)).2.1 .allow).1 (by decide +kernel)

end MediaHub.Policy
