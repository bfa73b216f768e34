import MediaHub.Policy.Document
import MediaHub.Policy.Evaluate

namespace MediaHub.Policy

/-- The callers that a principal names. -/
def S3AwsPrincipal.Names (request : S3PolicyRequestContext) : S3AwsPrincipal → Prop
  | .any => True
  | .account named => request.principalAccount = some named
  | .arn named =>
      request.principalArn = some named ∨
        ∃ account, named = "arn:aws:iam::".toList ++ account ++ ":root".toList ∧
          request.principalAccount = some account

def S3PolicyPrincipal.Names (request : S3PolicyRequestContext) : S3PolicyPrincipal → Prop
  | .any => True
  | .aws principals => ∃ principal ∈ principals, principal.Names request

def S3PrincipalClause.Holds (request : S3PolicyRequestContext) : S3PrincipalClause → Prop
  | .principal named => named.Names request
  | .notPrincipal named => ¬ named.Names request

def S3ActionClause.Holds (action : S3PolicyAction) : S3ActionClause → Prop
  | .action patterns => ∃ pattern ∈ patterns, Globs pattern action.asStr true
  | .notAction patterns => ¬ ∃ pattern ∈ patterns, Globs pattern action.asStr true

def S3ResourceClause.Holds (resource : Text) : S3ResourceClause → Prop
  | .resource patterns => ∃ pattern ∈ patterns, Globs pattern resource false
  | .notResource patterns => ¬ ∃ pattern ∈ patterns, Globs pattern resource false

/-- A key without a value in the request satisfies the operators that deny, and no other. -/
def S3PolicyCondition.Holds (self : S3PolicyCondition) (request : S3PolicyRequestContext) :
    Prop :=
  match self.operator with
  | .null => .bool true ∈ self.values ↔ conditionKeyIsPresent self.key request = false
  | .stringEquals =>
      ∃ actual, conditionStringValue self.key request = some actual ∧
        .string actual ∈ self.values
  | .stringNotEquals =>
      ∀ actual, conditionStringValue self.key request = some actual →
        .string actual ∉ self.values
  | .stringLike =>
      ∃ actual, conditionStringValue self.key request = some actual ∧
        ∃ pattern, .string pattern ∈ self.values ∧ Globs pattern actual false
  | .stringNotLike =>
      ∀ actual, conditionStringValue self.key request = some actual →
        ∀ pattern, .string pattern ∈ self.values → ¬ Globs pattern actual false
  | .bool =>
      ∃ actual, conditionBoolValue self.key request = some actual ∧ .bool actual ∈ self.values
  | .ipAddress =>
      ∃ actual, request.sourceIp = some actual ∧
        ∃ network : IpNetwork, .ip network ∈ self.values ∧
          IpNetwork.AgreeTo network.prefixLen actual network.network
  | .notIpAddress =>
      ∀ actual, request.sourceIp = some actual →
        ∀ network : IpNetwork, .ip network ∈ self.values →
          ¬ IpNetwork.AgreeTo network.prefixLen actual network.network
  | .numericLessThanEquals =>
      ∃ actual, request.query.maxKeys = some actual ∧
        ∃ limit, .unsigned limit ∈ self.values ∧ actual ≤ limit

def S3PolicyStatement.Holds (self : S3PolicyStatement) (request : S3PolicyEvaluationRequest) :
    Prop :=
  self.principal.Holds request.toS3PolicyRequestContext ∧ self.actions.Holds request.action ∧
    self.resources.Holds request.resource ∧
    ∀ condition ∈ self.conditions, condition.Holds request.toS3PolicyRequestContext

def S3IdentityPolicyStatement.Holds (self : S3IdentityPolicyStatement)
    (request : S3PolicyEvaluationRequest) : Prop :=
  self.actions.Holds request.action ∧ self.resources.Holds request.resource ∧
    ∀ condition ∈ self.conditions, condition.Holds request.toS3PolicyRequestContext

/-- The decision that statements call for: a denial wins, and without an allowance nothing is
allowed. -/
def CallsFor {α : Type} (holds : α → Prop) (effect : α → S3PolicyEffect) (statements : List α) :
    S3PolicyDecision → Prop
  | .explicitDeny => ∃ statement ∈ statements, holds statement ∧ effect statement = .deny
  | .allow =>
      (¬ ∃ statement ∈ statements, holds statement ∧ effect statement = .deny) ∧
        ∃ statement ∈ statements, holds statement ∧ effect statement = .allow
  | .implicitDeny => ¬ ∃ statement ∈ statements, holds statement

theorem rootArnAccount_eq_some_iff {arn account : Text} :
    rootArnAccount arn = some account ↔
      arn = "arn:aws:iam::".toList ++ account ++ ":root".toList := by
  rw [rootArnAccount, Option.bind_eq_some_iff]
  constructor
  · rintro ⟨rest, hrest, h⟩
    obtain ⟨reversed, hreversed, rfl⟩ := Option.map_eq_some_iff.1 h
    rw [List.dropPrefix?_eq_some_iff] at hrest hreversed
    obtain ⟨start, rfl, hstart⟩ := hrest
    obtain ⟨finish, hrev, hfinish⟩ := hreversed
    rw [beq_iff_eq] at hstart hfinish
    rw [hstart, List.append_assoc, List.reverse_eq_iff.1 hrev, List.reverse_append, hfinish,
      List.reverse_reverse]
  · rintro rfl
    refine ⟨account ++ ":root".toList, ?_, ?_⟩
    · rw [List.dropPrefix?_eq_some_iff]
      exact ⟨_, List.append_assoc _ _ _, beq_self_eq_true _⟩
    · refine Option.map_eq_some_iff.2 ⟨account.reverse, ?_, List.reverse_reverse account⟩
      rw [List.dropPrefix?_eq_some_iff]
      exact ⟨_, List.reverse_append, beq_self_eq_true _⟩

variable {request : S3PolicyRequestContext}

theorem awsPrincipalMatches_iff {principal : S3AwsPrincipal} :
    awsPrincipalMatches principal request = true ↔ principal.Names request := by
  cases principal with
  | any => simp [awsPrincipalMatches, S3AwsPrincipal.Names]
  | account account => simp [awsPrincipalMatches, S3AwsPrincipal.Names]
  | arn arn =>
      simp only [awsPrincipalMatches, S3AwsPrincipal.Names, Bool.or_eq_true, beq_iff_eq,
        Option.any_eq_true, rootArnAccount_eq_some_iff]

theorem principalMatchesValue_iff {principal : S3PolicyPrincipal} :
    principalMatchesValue principal request = true ↔ principal.Names request := by
  cases principal with
  | any => simp [principalMatchesValue, S3PolicyPrincipal.Names]
  | aws principals =>
      simp only [principalMatchesValue, S3PolicyPrincipal.Names, List.any_eq_true,
        awsPrincipalMatches_iff]

theorem principalMatches_iff {clause : S3PrincipalClause} :
    principalMatches clause request = true ↔ clause.Holds request := by
  cases clause with
  | principal principal => exact principalMatchesValue_iff
  | notPrincipal principal =>
      rw [principalMatches, S3PrincipalClause.Holds, Bool.not_eq_true', Bool.eq_false_iff, ne_eq,
        principalMatchesValue_iff]

theorem actionClauseMatches_iff {clause : S3ActionClause} {action : S3PolicyAction} :
    actionClauseMatches clause action = true ↔ clause.Holds action := by
  cases clause with
  | action patterns =>
      simp only [actionClauseMatches, S3ActionClause.Holds, List.any_eq_true, globMatches_iff]
  | notAction patterns =>
      simp only [actionClauseMatches, S3ActionClause.Holds, Bool.not_eq_true',
        Bool.eq_false_iff, ne_eq, List.any_eq_true, globMatches_iff]

theorem resourceClauseMatches_iff {clause : S3ResourceClause} {resource : Text} :
    resourceClauseMatches clause resource = true ↔ clause.Holds resource := by
  cases clause with
  | resource patterns =>
      simp only [resourceClauseMatches, S3ResourceClause.Holds, List.any_eq_true, globMatches_iff]
  | notResource patterns =>
      simp only [resourceClauseMatches, S3ResourceClause.Holds, Bool.not_eq_true',
        Bool.eq_false_iff, ne_eq, List.any_eq_true, globMatches_iff]

namespace S3PolicyCondition

variable {self : S3PolicyCondition}

theorem stringValuesAny_iff {predicate : Text → Bool} :
    self.stringValuesAny predicate = true ↔
      ∃ text, .string text ∈ self.values ∧ predicate text = true := by
  rw [stringValuesAny, List.any_eq_true]
  constructor
  · rintro ⟨value, hmem, hvalue⟩
    split at hvalue
    · exact ⟨_, hmem, hvalue⟩
    · exact absurd hvalue (by simp)
  · rintro ⟨text, hmem, htext⟩
    exact ⟨_, hmem, htext⟩

theorem stringValuesAll_iff {predicate : Text → Bool}
    (htyped : ∀ value ∈ self.values, ∃ text, value = .string text) :
    self.stringValuesAll predicate = true ↔
      ∀ text, .string text ∈ self.values → predicate text = true := by
  rw [stringValuesAll, List.all_eq_true]
  constructor
  · intro h text hmem
    exact h _ hmem
  · intro h value hmem
    obtain ⟨text, rfl⟩ := htyped value hmem
    exact h text hmem

theorem matches_iff (h : self.IsTyped) :
    self.matches request = true ↔ self.Holds request := by
  obtain ⟨operator, key, values⟩ := self
  have htyped := h.values
  cases operator with
  | null =>
      show ((!conditionKeyIsPresent key request) == values.any fun value => value == .bool true) =
        true ↔ (.bool true ∈ values ↔ conditionKeyIsPresent key request = false)
      rw [beq_iff_eq, Bool.eq_iff_iff, List.any_eq_true]
      simp only [beq_iff_eq, exists_eq_right, Bool.not_eq_true']
      exact Iff.comm
  | stringEquals =>
      simp only [«matches», Holds, Option.any_eq_true, stringValuesAny_iff, beq_iff_eq,
        exists_eq_right']
  | stringNotEquals =>
      simp only [«matches», Holds, Option.all_eq_true, stringValuesAll_iff htyped, bne_iff_ne]
      constructor
      · intro h actual hactual hmem
        exact h actual hactual actual hmem rfl
      · rintro h actual hactual text hmem rfl
        exact h actual hactual hmem
  | stringLike =>
      simp only [«matches», Holds, Option.any_eq_true, stringValuesAny_iff, globMatches_iff]
  | stringNotLike =>
      simp only [«matches», Holds, Option.all_eq_true, stringValuesAll_iff htyped,
        Bool.not_eq_true', Bool.eq_false_iff, ne_eq, globMatches_iff]
  | bool =>
      simp only [«matches», Holds, Option.any_eq_true, List.any_eq_true]
      constructor
      · rintro ⟨actual, hactual, value, hmem, hvalue⟩
        obtain ⟨flag, rfl⟩ := htyped value hmem
        obtain rfl : flag = actual := by simpa using hvalue
        exact ⟨flag, hactual, hmem⟩
      · rintro ⟨actual, hactual, hmem⟩
        exact ⟨actual, hactual, _, hmem, by simp⟩
  | ipAddress =>
      simp only [«matches», Holds, Option.any_eq_true, List.any_eq_true]
      constructor
      · rintro ⟨actual, hactual, value, hmem, hvalue⟩
        obtain ⟨network, rfl, hmasked⟩ := htyped value hmem
        exact ⟨actual, hactual, network, hmem,
          (IpNetwork.contains_iff_agreeTo hmasked actual).1 hvalue⟩
      · rintro ⟨actual, hactual, network, hmem, hagree⟩
        obtain ⟨_, heq, hmasked⟩ := htyped _ hmem
        cases heq
        exact ⟨actual, hactual, _, hmem,
          (IpNetwork.contains_iff_agreeTo hmasked actual).2 hagree⟩
  | notIpAddress =>
      simp only [«matches», Holds, Option.all_eq_true, List.all_eq_true]
      constructor
      · intro h actual hactual network hmem hagree
        obtain ⟨_, heq, hmasked⟩ := htyped _ hmem
        cases heq
        have hnot : (!network.contains actual) = true := h actual hactual _ hmem
        rw [(IpNetwork.contains_iff_agreeTo hmasked actual).2 hagree] at hnot
        exact absurd hnot (by simp)
      · intro h actual hactual value hmem
        obtain ⟨network, rfl, hmasked⟩ := htyped value hmem
        have hnot := h actual hactual network hmem
        rw [← IpNetwork.contains_iff_agreeTo hmasked actual] at hnot
        simpa using hnot
  | numericLessThanEquals =>
      simp only [«matches», Holds, Option.any_eq_true, List.any_eq_true]
      constructor
      · rintro ⟨actual, hactual, value, hmem, hvalue⟩
        obtain ⟨limit, rfl⟩ := htyped value hmem
        exact ⟨actual, hactual, limit, hmem, of_decide_eq_true hvalue⟩
      · rintro ⟨actual, hactual, limit, hmem, hle⟩
        exact ⟨actual, hactual, _, hmem, decide_eq_true hle⟩

end S3PolicyCondition

theorem all_matches_iff {conditions : List S3PolicyCondition}
    (h : ∀ condition ∈ conditions, condition.IsTyped) :
    (conditions.all fun condition => condition.matches request) = true ↔
      ∀ condition ∈ conditions, condition.Holds request := by
  rw [List.all_eq_true]
  exact forall₂_congr fun condition hmem => S3PolicyCondition.matches_iff (h condition hmem)

theorem S3PolicyStatement.matches_iff {self : S3PolicyStatement}
    {request : S3PolicyEvaluationRequest} (h : ∀ condition ∈ self.conditions, condition.IsTyped) :
    self.matches request = true ↔ self.Holds request := by
  simp only [«matches», Holds, Bool.and_eq_true, principalMatches_iff, actionClauseMatches_iff,
    resourceClauseMatches_iff, all_matches_iff h, and_assoc]

theorem S3IdentityPolicyStatement.matches_iff {self : S3IdentityPolicyStatement}
    {request : S3PolicyEvaluationRequest} (h : ∀ condition ∈ self.conditions, condition.IsTyped) :
    self.matches request = true ↔ self.Holds request := by
  simp only [«matches», Holds, Bool.and_eq_true, actionClauseMatches_iff,
    resourceClauseMatches_iff, all_matches_iff h, and_assoc]

theorem evaluateStatements_eq_iff {α : Type} {doesMatch : α → Bool} {holds : α → Prop}
    {effect : α → S3PolicyEffect} {statements : List α}
    (h : ∀ statement ∈ statements, doesMatch statement = true ↔ holds statement)
    {decision : S3PolicyDecision} :
    evaluateStatements doesMatch effect false statements = decision ↔
      CallsFor holds effect statements decision := by
  have hexists (p : α → Prop) :
      (∃ statement ∈ statements, doesMatch statement = true ∧ p statement) ↔
        ∃ statement ∈ statements, holds statement ∧ p statement :=
    exists_congr fun statement => and_congr_right fun hmem => and_congr_left' (h statement hmem)
  cases decision with
  | explicitDeny =>
      rw [evaluateStatements_eq_explicitDeny_iff, hexists]
      rfl
  | allow =>
      rw [evaluateStatements_eq_allow_iff, hexists, hexists]
      simp only [Bool.false_eq_true, false_or]
      rfl
  | implicitDeny =>
      rw [eq_implicitDeny_iff, ne_eq, ne_eq, evaluateStatements_eq_explicitDeny_iff,
        evaluateStatements_eq_allow_iff, hexists, hexists]
      simp only [Bool.false_eq_true, false_or]
      constructor
      · rintro ⟨hdeny, hallow⟩ ⟨statement, hmem, hholds⟩
        cases heffect : effect statement with
        | deny => exact hdeny ⟨statement, hmem, hholds, heffect⟩
        | allow => exact hallow ⟨hdeny, statement, hmem, hholds, heffect⟩
      · intro hnone
        refine ⟨?_, ?_⟩
        · rintro ⟨statement, hmem, hholds, _⟩
          exact hnone ⟨statement, hmem, hholds⟩
        · rintro ⟨_, statement, hmem, hholds, _⟩
          exact hnone ⟨statement, hmem, hholds⟩

end MediaHub.Policy
