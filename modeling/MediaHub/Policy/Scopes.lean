import MediaHub.Policy.OrderFree

namespace MediaHub.Policy

open Json (Value)

theorem slash_notMem_bucketResource {bucket : Text} (h : validBucketName bucket = true) :
    '/' ∉ bucketResource bucket := by
  rw [bucketResource, List.mem_append, not_or]
  exact ⟨by decide, notMem_of_validBucketName h (by decide)⟩

theorem slash_mem_objectResource (bucket key : Text) : '/' ∈ objectResource bucket key := by
  simp [objectResource]

theorem not_isWildcard_of_mem_bucketResource {bucket : Text} (h : validBucketName bucket = true) :
    ∀ c ∈ bucketResource bucket, isWildcard c = false := by
  intro c hc
  rcases List.mem_append.1 hc with hc | hc
  · have hall : resourceStart.all (fun c => !isWildcard c) = true := by decide
    simpa using List.all_eq_true.1 hall c hc
  · have hname := validBucketName_all h c hc
    rw [isWildcard, Bool.or_eq_false_iff, beq_eq_false_iff_ne, beq_eq_false_iff_ne]
    refine ⟨?_, ?_⟩
    · rintro rfl
      exact absurd hname (by decide)
    · rintro rfl
      exact absurd hname (by decide)

/-- Only a pattern without a slash of its own is for buckets. -/
theorem globs_bucketResource {pattern bucket : Text} (h : validBucketName bucket = true)
    (hglobs : Globs pattern (bucketResource bucket) false) : '/' ∉ pattern :=
  fun hmem => slash_notMem_bucketResource h (mem_of_globs hglobs hmem (by decide))

theorem eq_star_of_globs {pattern : Text} (h : validIdentityResource pattern = true)
    (hglobs : Globs pattern "*".toList false) : pattern = "*".toList := by
  by_contra hne
  rw [validIdentityResource, if_neg hne] at h
  split at h
  · exact absurd h (by simp)
  · next resource hdrop =>
      rw [List.dropPrefix?_eq_some_iff] at hdrop
      obtain ⟨start, rfl, hstart⟩ := hdrop
      rw [beq_iff_eq] at hstart
      subst hstart
      have hmem : 'a' ∈ resourceStart ++ resource := List.mem_append_left _ (by decide)
      exact absurd (mem_of_globs hglobs hmem (by decide)) (by decide)

theorem resourcePatternScopes_star :
    resourcePatternScopes "*".toList = [.account, .bucket, .object] :=
  if_pos rfl

/-- After the start of an ARN. -/
theorem resourcePatternScopes_append (resource : Text) :
    resourcePatternScopes (resourceStart ++ resource) =
      if '/' ∈ resourceStart ++ resource then [.object] else [.bucket] := by
  have hne : resourceStart ++ resource ≠ "*".toList := by
    intro heq
    have hmem : 'a' ∈ resourceStart ++ resource := List.mem_append_left _ (by decide)
    rw [heq] at hmem
    exact absurd hmem (by decide)
  have hslash : '/' ∉ resourceStart := by decide
  rw [resourcePatternScopes, if_neg hne, List.drop_left, List.contains_eq_mem]
  simp only [List.mem_append, hslash, false_or, decide_eq_true_eq]

theorem exists_append_of_validIdentityResource {pattern : Text}
    (h : validIdentityResource pattern = true) (hne : pattern ≠ "*".toList) :
    ∃ resource, pattern = resourceStart ++ resource := by
  rw [validIdentityResource, if_neg hne] at h
  split at h
  · exact absurd h (by simp)
  · next resource hdrop =>
      rw [List.dropPrefix?_eq_some_iff] at hdrop
      obtain ⟨start, rfl, hstart⟩ := hdrop
      exact ⟨resource, by rw [beq_iff_eq.1 hstart]⟩

theorem resourcePatternScopes_of_validIdentityResource {pattern : Text}
    (h : validIdentityResource pattern = true) (hne : pattern ≠ "*".toList) :
    resourcePatternScopes pattern = if '/' ∈ pattern then [.object] else [.bucket] := by
  obtain ⟨resource, rfl⟩ := exists_append_of_validIdentityResource h hne
  exact resourcePatternScopes_append resource

theorem validBucketResource_cases {targetBucket pattern : Text}
    (h : validBucketResource targetBucket pattern = true) :
    pattern = bucketResource targetBucket ∨
      ∃ suffix, pattern = bucketResource targetBucket ++ '/' :: suffix := by
  simp only [validBucketResource, Bool.or_eq_true, beq_iff_eq, Option.any_eq_true,
    Bool.and_eq_true] at h
  rcases h with h | ⟨suffix, hdrop, ⟨hhead, _⟩, _⟩
  · exact Or.inl h
  · rw [List.dropPrefix?_eq_some_iff] at hdrop
    obtain ⟨start, rfl, hstart⟩ := hdrop
    rw [beq_iff_eq] at hstart
    subst hstart
    obtain ⟨rest, rfl⟩ := List.head?_eq_some_iff.1 hhead
    exact Or.inr ⟨rest, rfl⟩

theorem resourcePatternScopes_of_validBucketResource {targetBucket pattern : Text}
    (htarget : validBucketName targetBucket = true)
    (h : validBucketResource targetBucket pattern = true) :
    resourcePatternScopes pattern =
      if pattern = bucketResource targetBucket then [.bucket] else [.object] := by
  rcases validBucketResource_cases h with rfl | ⟨suffix, rfl⟩
  · rw [if_pos rfl, bucketResource, resourcePatternScopes_append, if_neg]
    exact slash_notMem_bucketResource htarget
  · have hne : bucketResource targetBucket ++ '/' :: suffix ≠ bucketResource targetBucket := by
      intro heq
      simpa using congrArg List.length heq
    rw [if_neg hne, bucketResource, List.append_assoc, resourcePatternScopes_append, if_pos]
    simp

/-- The bucket itself, or an object of it. -/
inductive IsResourceIn (targetBucket : Text) : S3PolicyResourceScope → Text → Prop
  | bucket : IsResourceIn targetBucket .bucket (bucketResource targetBucket)
  | object (key : Text) : IsResourceIn targetBucket .object (objectResource targetBucket key)

variable {targetBucket resource : Text} {scope : S3PolicyResourceScope} {patterns : List Text}

theorem scope_mem_of_globs_bucket (htarget : validBucketName targetBucket = true)
    (hresource : IsResourceIn targetBucket scope resource) {pattern : Text}
    (hvalid : validBucketResource targetBucket pattern = true)
    (hglobs : Globs pattern resource false) : scope ∈ resourcePatternScopes pattern := by
  rw [resourcePatternScopes_of_validBucketResource htarget hvalid]
  cases hresource with
  | bucket =>
      rcases validBucketResource_cases hvalid with rfl | ⟨suffix, rfl⟩
      · simp
      · exact absurd (globs_bucketResource htarget hglobs) (by simp)
  | object key =>
      rw [if_neg]
      · simp
      · rintro rfl
        rw [globs_iff_of_not_isWildcard (not_isWildcard_of_mem_bucketResource htarget)] at hglobs
        have hmem := slash_mem_objectResource targetBucket key
        rw [hglobs] at hmem
        exact slash_notMem_bucketResource htarget hmem

/-- None of the patterns is for the kind of resource that the scope names. -/
def NoneOfKind (targetBucket : Text) (scope : S3PolicyResourceScope) (patterns : List Text) :
    Prop :=
  match scope with
  | .bucket => bucketResource targetBucket ∉ patterns
  | _ => ∀ pattern ∈ patterns, pattern = bucketResource targetBucket

theorem scope_notMem_iff (htarget : validBucketName targetBucket = true)
    (hresource : IsResourceIn targetBucket scope resource)
    (hvalid : ∀ pattern ∈ patterns, validBucketResource targetBucket pattern = true) :
    scope ∉ patterns.flatMap resourcePatternScopes ↔ NoneOfKind targetBucket scope patterns := by
  rw [List.mem_flatMap, not_exists]
  have hscopes (pattern : Text) (hmem : pattern ∈ patterns) :=
    resourcePatternScopes_of_validBucketResource htarget (hvalid pattern hmem)
  cases hresource with
  | bucket =>
      constructor
      · intro h hmem
        refine h _ ⟨hmem, ?_⟩
        rw [hscopes _ hmem, if_pos rfl]
        exact List.mem_singleton_self _
      · rintro h pattern ⟨hmem, hscope⟩
        have hne : pattern ≠ bucketResource targetBucket := by
          rintro rfl
          exact h hmem
        rw [hscopes pattern hmem, if_neg hne] at hscope
        simp at hscope
  | object key =>
      constructor
      · intro h pattern hmem
        by_contra hne
        refine h pattern ⟨hmem, ?_⟩
        rw [hscopes pattern hmem, if_neg hne]
        exact List.mem_singleton_self _
      · rintro h pattern ⟨hmem, hscope⟩
        rw [hscopes pattern hmem, if_pos (h pattern hmem)] at hscope
        simp at hscope

/-- A negated clause about resources of the other kind only matches whatever is asked for. -/
structure S3PolicyStatement.Oversteps (targetBucket : Text) (statement : S3PolicyStatement)
    (request : S3PolicyEvaluationRequest) (patterns : List Text) : Prop where
  resources : statement.resources = .notResource patterns
  kind : NoneOfKind targetBucket request.action.scope patterns
  principal : principalMatches statement.principal request.toS3PolicyRequestContext = true
  actions : actionClauseMatches statement.actions request.action = true
  conditions : ∀ condition ∈ statement.conditions,
    condition.matches request.toS3PolicyRequestContext = true

theorem S3PolicyStatement.matches_iff_and {statement : S3PolicyStatement}
    {request : S3PolicyEvaluationRequest} :
    statement.matches request = true ↔
      principalMatches statement.principal request.toS3PolicyRequestContext = true ∧
        actionClauseMatches statement.actions request.action = true ∧
        resourceClauseMatches statement.resources request.resource = true ∧
        ∀ condition ∈ statement.conditions,
          condition.matches request.toS3PolicyRequestContext = true := by
  simp only [«matches», Bool.and_eq_true, List.all_eq_true, and_assoc]

theorem S3PolicyStatement.scope_mem_iff {statement : S3PolicyStatement}
    {request : S3PolicyEvaluationRequest} (hparsed : statement.IsParsed targetBucket)
    (htarget : validBucketName targetBucket = true)
    (hresource : IsResourceIn targetBucket request.action.scope request.resource) :
    (statement.matches request = true →
        request.action.scope ∈ resourceClauseScopes statement.resources (.bucket targetBucket)) ↔
      ¬ ∃ patterns, statement.Oversteps targetBucket request patterns := by
  have hvalid : ∀ pattern ∈ statement.resources.patterns,
      validBucketResource targetBucket pattern = true := by
    obtain ⟨parsed, haccepted, hstatement⟩ := hparsed.isAccepted
    obtain ⟨_, _, rfl⟩ := Option.map_eq_some_iff.1 hstatement
    exact haccepted.resources
  constructor
  · rintro h ⟨patterns, hclause, hkind, hprincipal, hactions, hconditions⟩
    rw [hclause] at hvalid
    have hnot := (scope_notMem_iff htarget hresource hvalid).2 hkind
    have hmatch : resourceClauseMatches (.notResource patterns) request.resource = true := by
      rw [resourceClauseMatches, Bool.not_eq_true', Bool.eq_false_iff, ne_eq, List.any_eq_true]
      rintro ⟨pattern, hmem, hglobs⟩
      exact hnot (List.mem_flatMap.2 ⟨pattern, hmem,
        scope_mem_of_globs_bucket htarget hresource (hvalid pattern hmem)
          (globMatches_iff.1 hglobs)⟩)
    rw [matches_iff_and, hclause] at h
    exact hnot (h ⟨hprincipal, hactions, hmatch, hconditions⟩)
  · intro h hmatches
    obtain ⟨hprincipal, hactions, hresources, hconditions⟩ := matches_iff_and.1 hmatches
    cases hclause : statement.resources with
    | resource patterns =>
        rw [hclause] at hvalid hresources
        obtain ⟨pattern, hmem, hglobs⟩ := List.any_eq_true.1 hresources
        exact List.mem_flatMap.2 ⟨pattern, hmem,
          scope_mem_of_globs_bucket htarget hresource (hvalid pattern hmem)
            (globMatches_iff.1 hglobs)⟩
    | notResource patterns =>
        rw [hclause] at hvalid
        by_contra hnot
        exact h ⟨patterns, hclause, (scope_notMem_iff htarget hresource hvalid).1 hnot,
          hprincipal, hactions, hconditions⟩

/-- Every pattern is for buckets by its text, and a wildcard of one of them reaches an object. -/
structure S3IdentityPolicyStatement.Oversteps (statement : S3IdentityPolicyStatement)
    (request : S3PolicyEvaluationRequest) (patterns : List Text) : Prop where
  resources : statement.resources = .resource patterns
  kind : ∀ pattern ∈ patterns, pattern ≠ "*".toList ∧ '/' ∉ pattern
  object : request.action.scope = .object
  reaches : ∃ pattern ∈ patterns, globMatches pattern request.resource false = true
  actions : actionClauseMatches statement.actions request.action = true
  conditions : ∀ condition ∈ statement.conditions,
    condition.matches request.toS3PolicyRequestContext = true

theorem scope_mem_of_globs_identity (hresource : IsResourceOf scope resource) {pattern : Text}
    (hvalid : validIdentityResource pattern = true) (hglobs : Globs pattern resource false) :
    scope ∈ resourcePatternScopes pattern ∨
      scope = .object ∧ pattern ≠ "*".toList ∧ '/' ∉ pattern := by
  by_cases hstar : pattern = "*".toList
  · subst hstar
    rw [resourcePatternScopes_star]
    cases scope <;> simp
  · rw [resourcePatternScopes_of_validIdentityResource hvalid hstar]
    cases hresource with
    | account => exact absurd (eq_star_of_globs hvalid hglobs) hstar
    | bucket hbucket =>
        rw [if_neg (globs_bucketResource hbucket hglobs)]
        exact Or.inl (List.mem_singleton_self _)
    | object hbucket hkey =>
        split
        · exact Or.inl (List.mem_singleton_self _)
        · next hslash => exact Or.inr ⟨rfl, hstar, hslash⟩

theorem object_notMem_of_forall
    (hvalid : ∀ pattern ∈ patterns, validIdentityResource pattern = true)
    (hkind : ∀ pattern ∈ patterns, pattern ≠ "*".toList ∧ '/' ∉ pattern) :
    S3PolicyResourceScope.object ∉ patterns.flatMap resourcePatternScopes := by
  rw [List.mem_flatMap]
  rintro ⟨pattern, hmem, hscope⟩
  obtain ⟨hstar, hslash⟩ := hkind pattern hmem
  rw [resourcePatternScopes_of_validIdentityResource (hvalid pattern hmem) hstar,
    if_neg hslash] at hscope
  simp at hscope

theorem object_mem_of_not_forall
    (hvalid : ∀ pattern ∈ patterns, validIdentityResource pattern = true)
    (hkind : ¬ ∀ pattern ∈ patterns, pattern ≠ "*".toList ∧ '/' ∉ pattern) :
    S3PolicyResourceScope.object ∈ patterns.flatMap resourcePatternScopes := by
  push Not at hkind
  obtain ⟨pattern, hmem, hslash⟩ := hkind
  refine List.mem_flatMap.2 ⟨pattern, hmem, ?_⟩
  by_cases hstar : pattern = "*".toList
  · rw [hstar, resourcePatternScopes_star]
    simp
  · rw [resourcePatternScopes_of_validIdentityResource (hvalid pattern hmem) hstar,
      if_pos (hslash hstar)]
    exact List.mem_singleton_self _

theorem S3IdentityPolicyStatement.matches_iff_and {statement : S3IdentityPolicyStatement}
    {request : S3PolicyEvaluationRequest} :
    statement.matches request = true ↔
      actionClauseMatches statement.actions request.action = true ∧
        resourceClauseMatches statement.resources request.resource = true ∧
        ∀ condition ∈ statement.conditions,
          condition.matches request.toS3PolicyRequestContext = true := by
  simp only [«matches», Bool.and_eq_true, List.all_eq_true, and_assoc]

theorem S3IdentityPolicyStatement.scope_mem_iff {statement : S3IdentityPolicyStatement}
    {request : S3PolicyEvaluationRequest} (hparsed : statement.IsParsed)
    (hresource : IsResourceOf request.action.scope request.resource) :
    (statement.matches request = true →
        request.action.scope ∈ resourceClauseScopes statement.resources .identity) ↔
      ¬ ∃ patterns, statement.Oversteps request patterns := by
  obtain ⟨parsed, haccepted, rfl⟩ := hparsed.isAccepted
  have hvalid : ∀ pattern ∈ parsed.resources.patterns, validIdentityResource pattern = true :=
    haccepted.resources
  obtain ⟨_, _, _, happlicable⟩ := haccepted.applicable
  show (_ → _ ∈ resourceClauseScopes parsed.resources .identity) ↔ _
  constructor
  · rintro h ⟨patterns, hclause, hkind, hobject, hreaches, hactions, hconditions⟩
    have hclause : parsed.resources = .resource patterns := hclause
    rw [hclause] at hvalid
    rw [matches_iff_and, hclause, hobject] at h
    refine object_notMem_of_forall hvalid hkind (h ⟨hactions, ?_, hconditions⟩)
    show resourceClauseMatches parsed.resources _ = true
    rw [hclause]
    exact List.any_eq_true.2 hreaches
  · intro h hmatches
    obtain ⟨hactions, hresources, hconditions⟩ := matches_iff_and.1 hmatches
    have hresources : resourceClauseMatches parsed.resources request.resource = true := hresources
    cases hclause : parsed.resources with
    | resource patterns =>
        rw [hclause] at hvalid hresources
        obtain ⟨pattern, hmem, hglobs⟩ := List.any_eq_true.1 hresources
        rcases scope_mem_of_globs_identity hresource (hvalid pattern hmem)
            (globMatches_iff.1 hglobs) with hscope | ⟨hobject, _, _⟩
        · exact List.mem_flatMap.2 ⟨pattern, hmem, hscope⟩
        · by_contra hnot
          refine h ⟨patterns, hclause, ?_, hobject, ⟨pattern, hmem, hglobs⟩, hactions,
            hconditions⟩
          by_contra hkind
          rw [hobject] at hnot
          exact hnot (object_mem_of_not_forall hvalid hkind)
    | notResource patterns =>
        rw [hclause] at happlicable
        rw [resourceClauseScopes] at happlicable ⊢
        split
        · next hstar =>
            rw [if_pos hstar] at happlicable
            simp at happlicable
        · cases request.action.scope <;> simp

theorem S3PolicyRequest.isResourceIn {request : S3PolicyRequest}
    {evaluated : S3PolicyEvaluationRequest} (h : request.evaluationRequest = some evaluated) :
    validBucketName request.bucket = true ∧
      IsResourceIn request.bucket evaluated.action.scope evaluated.resource := by
  obtain ⟨_, hbucket, ⟨_, hscope, rfl⟩ | ⟨key, _, _, hscope, rfl⟩⟩ :=
    evaluationRequest_eq_some_iff.1 h
  · show _ ∧ IsResourceIn request.bucket request.action.scope _
    rw [hscope]
    exact ⟨hbucket, .bucket⟩
  · show _ ∧ IsResourceIn request.bucket request.action.scope _
    rw [hscope]
    exact ⟨hbucket, .object key⟩

/-- A statement takes effect within the scopes that the parser computed for it, unless it
oversteps them. -/
theorem effect_within_scopes_iff (targetBucket : Text) :
    (∀ (statement : S3PolicyStatement) (request : S3PolicyRequest) evaluated,
      statement.IsParsed targetBucket → request.bucket = targetBucket →
      request.evaluationRequest = some evaluated →
      ((statement.matches evaluated = true → evaluated.action.scope ∈
          resourceClauseScopes statement.resources (.bucket targetBucket)) ↔
        ¬ ∃ patterns, statement.Oversteps targetBucket evaluated patterns)) ∧
    ∀ (statement : S3IdentityPolicyStatement) (request : S3IdentityPolicyRequest) evaluated,
      statement.IsParsed → request.evaluationRequest = some evaluated →
      ((statement.matches evaluated = true → evaluated.action.scope ∈
          resourceClauseScopes statement.resources .identity) ↔
        ¬ ∃ patterns, statement.Oversteps evaluated patterns) := by
  constructor
  · rintro statement request evaluated hparsed rfl hrequest
    obtain ⟨hbucket, hresource⟩ := request.isResourceIn hrequest
    exact statement.scope_mem_iff hparsed hbucket hresource
  · intro statement request evaluated hparsed hrequest
    exact statement.scope_mem_iff hparsed (request.isResourceOf hrequest)

/-- Everything but the objects below one prefix. -/
def outsidePrivate : S3PolicyStatement :=
  { sid := none, effect := .allow, principal := .principal .any
    actions := .action ["s3:*".toList]
    resources := .notResource ["arn:aws:s3:::photos-prod/private/*".toList]
    conditions := [] }

/-- All buckets, as the author writes it. -/
def everyBucket : S3IdentityPolicyStatement :=
  { sid := none, effect := .allow
    actions := .action ["s3:*".toList]
    resources := .resource ["arn:aws:s3:::*".toList]
    conditions := [] }

theorem outsidePrivate_isParsed : outsidePrivate.IsParsed "photos-prod".toList :=
  ⟨.object
      [textField "Action" "s3:*", textField "Effect" "Allow",
        textField "NotResource" "arn:aws:s3:::photos-prod/private/*", textField "Principal" "*"],
    { outsidePrivate with principal := some outsidePrivate.principal }, by decide +kernel, rfl⟩

theorem everyBucket_isParsed : everyBucket.IsParsed :=
  ⟨.object
      [textField "Action" "s3:*", textField "Effect" "Allow",
        textField "Resource" "arn:aws:s3:::*"],
    { everyBucket with principal := none }, by decide +kernel, rfl⟩

/-- Nothing but what is asked for. -/
def bareContext : S3PolicyRequestContext :=
  { versionId := none, principalArn := none, principalAccount := none, userid := none
    secureTransport := true, sourceIp := none
    query := { keyPrefix := none, delimiter := none, maxKeys := none } }

theorem effect_outside_scopes :
    (∃ evaluated, S3PolicyRequest.evaluationRequest
          { bareContext with
            action := .listBucket, bucket := "photos-prod".toList, key := none } =
        some evaluated ∧
      outsidePrivate.IsParsed "photos-prod".toList ∧ outsidePrivate.matches evaluated = true ∧
      evaluated.action.scope ∉
        resourceClauseScopes outsidePrivate.resources (.bucket "photos-prod".toList)) ∧
    ∃ evaluated, S3IdentityPolicyRequest.evaluationRequest
          { bareContext with
            action := .getObject, resource := .object "photos-prod".toList "a".toList } =
        some evaluated ∧
      everyBucket.IsParsed ∧ everyBucket.matches evaluated = true ∧
      evaluated.action.scope ∉ resourceClauseScopes everyBucket.resources .identity := by
  refine ⟨⟨{ bareContext with
      action := .listBucket, resource := "arn:aws:s3:::photos-prod".toList }, ?_⟩,
    ⟨{ bareContext with
      action := .getObject, resource := "arn:aws:s3:::photos-prod/a".toList }, ?_⟩⟩
  · exact ⟨by decide +kernel, outsidePrivate_isParsed, by decide +kernel, by decide +kernel⟩
  · exact ⟨by decide +kernel, everyBucket_isParsed, by decide +kernel, by decide +kernel⟩

theorem effect_within_scopes_iff_networkReads :
    S3PolicyResourceScope.object ∈
      resourceClauseScopes networkReads.resources (.bucket "photos-prod".toList) :=
  ((effect_within_scopes_iff "photos-prod".toList).1 networkReads (readFrom (.v4 3405803786#32))
    { readFrom (.v4 3405803786#32) with resource := "arn:aws:s3:::photos-prod/a".toList }
    networkReads_isParsed rfl (by decide +kernel)).2
    (fun ⟨_, h⟩ => S3ResourceClause.noConfusion h.resources) (by decide +kernel)

end MediaHub.Policy
