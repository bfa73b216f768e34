import MediaHub.Service.LifecycleRun

namespace MediaHub.Service

open MediaHub.Core
open MediaHub.Store
open Rotation

def enabledActions (rules : List S3LifecycleRule) : List SelectedAction :=
  (rules.filter fun rule => rule.status = .enabled).flatMap fun rule =>
    (ruleScanActions rule).reduceOption.map (rule, ·)

def bucketActions (bucket : S3Bucket) : List SelectedAction :=
  (bucket.configuration.lifecycleConfiguration.map fun lifecycle =>
    enabledActions lifecycle.rules).getD []

theorem selectRuleAction_eq (rule : S3LifecycleRule) (actions : List S3LifecycleScanAction)
    (selected : Nat) :
    selectRuleAction rule actions selected =
      if h : selected < actions.length then .inl (rule, actions[selected])
      else .inr (selected - actions.length) := by
  induction actions generalizing selected with
  | nil => simp [selectRuleAction]
  | cons action rest ih =>
      rw [selectRuleAction]
      cases selected with
      | zero => simp
      | succ selected =>
          rw [if_neg (Nat.succ_ne_zero _), Nat.add_sub_cancel, ih]
          simp [Nat.add_sub_add_right]

theorem selectAction_eq (rules : List S3LifecycleRule) (selected : Nat) :
    selectAction rules selected =
      (rules.flatMap fun rule => (ruleScanActions rule).reduceOption.map (rule, ·))[selected]? := by
  induction rules generalizing selected with
  | nil => rfl
  | cons rule rest ih =>
      rw [selectAction, selectRuleAction_eq, List.flatMap_cons]
      by_cases hlt : selected < (ruleScanActions rule).reduceOption.length
      · rw [dif_pos hlt, List.getElem?_append_left (by simpa using hlt)]
        simp [List.getElem?_eq_getElem hlt]
      · rw [dif_neg hlt, List.getElem?_append_right (by simpa using hlt), List.length_map]
        exact ih _

theorem length_enabledActions (rules : List S3LifecycleRule) :
    (enabledActions rules).length =
      ((rules.filter fun rule => rule.status = .enabled).map ruleScanActionCount).sum := by
  unfold enabledActions ruleScanActionCount
  rw [List.length_flatMap]
  simp

/-- The selection is the action with the number of the round, counted round and round. -/
theorem selectScanAction_eq (rules : List S3LifecycleRule) (actionRound : Nat) :
    selectScanAction rules actionRound =
      (enabledActions rules)[actionRound % (enabledActions rules).length]? := by
  simp only [selectScanAction, ← length_enabledActions]
  split
  · next hnone => rw [List.length_eq_zero_iff.1 hnone, List.getElem?_nil]
  · exact selectAction_eq _ _

theorem selectedOf_eq (bucket : S3Bucket) (actionRound : Nat) :
    selectedOf bucket actionRound =
      (bucketActions bucket)[actionRound % (bucketActions bucket).length]? := by
  unfold selectedOf bucketActions
  cases bucket.configuration.lifecycleConfiguration with
  | none => rfl
  | some lifecycle => exact selectScanAction_eq _ _

theorem mem_bucketActions_of_selectedOf {bucket : S3Bucket} {actionRound : Nat}
    {selected : SelectedAction} (h : selectedOf bucket actionRound = some selected) :
    selected ∈ bucketActions bucket :=
  List.mem_of_getElem? (selectedOf_eq bucket actionRound ▸ h)

theorem status_of_mem_bucketActions {bucket : S3Bucket} {selected : SelectedAction}
    (h : selected ∈ bucketActions bucket) : selected.1.status = .enabled := by
  unfold bucketActions at h
  cases hlifecycle : bucket.configuration.lifecycleConfiguration with
  | none => simp [hlifecycle] at h
  | some lifecycle =>
      simp only [hlifecycle, Option.map_some, Option.getD_some, enabledActions,
        List.mem_flatMap, List.mem_filter, decide_eq_true_eq, List.mem_map] at h
      obtain ⟨rule, ⟨_, henabled⟩, _, _, rfl⟩ := h
      exact henabled

/-- As many rounds in a row as a bucket has actions select each of them. -/
theorem exists_round_selecting {bucket : S3Bucket} {selected : SelectedAction}
    (h : selected ∈ bucketActions bucket) (first : Nat) :
    ∃ i < (bucketActions bucket).length, selectedOf bucket (first + i) = some selected := by
  obtain ⟨j, hj, hget⟩ := List.mem_iff_getElem.1 h
  set n := (bucketActions bucket).length with hn
  refine ⟨(j + (n - first % n)) % n, Nat.mod_lt _ (by omega), ?_⟩
  have hmod : (first + (j + (n - first % n)) % n) % n = j := by
    have hfirst : first % n < n := Nat.mod_lt _ (by omega)
    have hdivide : n * (first / n) + first % n = first := Nat.div_add_mod first n
    have hsum : first + (j + (n - first % n)) = j + n * (first / n + 1) := by
      rw [Nat.mul_succ]
      omega
    rw [Nat.add_mod_mod, hsum, Nat.add_mul_mod_self_left, Nat.mod_eq_of_lt hj]
  rw [selectedOf_eq, hmod, List.getElem?_eq_getElem hj, hget]

/-- A count of days that leads to a time before the first one has no cutoff. -/
def expirationInRange (now : Time) : Option S3Expiration → Bool
  | some (.days days) => (lifecycleDaysCutoff now days).isSome
  | _ => true

def actionInRange (now : Time) (selected : SelectedAction) : Bool :=
  match selected.2 with
  | .currentExpiration | .expiredDeleteMarker => expirationInRange now selected.1.expiration
  | .noncurrentExpiration =>
      selected.1.noncurrentDays.any fun days => (lifecycleDaysCutoff now days).isSome
  | .multipartAbort =>
      selected.1.daysAfterInitiation.any fun days => (lifecycleDaysCutoff now days).isSome

/-- The work unit needs no cutoff out of range. -/
def UnitInRange (now : Time) (bucket : S3Bucket) (actionRound : Nat) : Prop :=
  ∀ selected ∈ selectedOf bucket actionRound, actionInRange now selected

theorem lifecycleDaysCutoffOrThrow_cases (now : Time) (days : Nat) :
    (∃ cutoff, lifecycleDaysCutoff now days = some cutoff ∧
      lifecycleDaysCutoffOrThrow now days = .ok cutoff) ∨
    (lifecycleDaysCutoff now days = none ∧
      ∃ error, lifecycleDaysCutoffOrThrow now days = .error error) := by
  unfold lifecycleDaysCutoffOrThrow
  cases lifecycleDaysCutoff now days with
  | none => exact Or.inr ⟨rfl, _, rfl⟩
  | some cutoff => exact Or.inl ⟨cutoff, rfl, rfl⟩

section Laws

variable {σ : Type} (repository : S3LifecycleRepository σ) (Holds : σ → Prop)

/-- The call has an answer, and the state behind it is still a good one. -/
def Answers {α : Type} (call : Call σ α) (s : σ) : Prop :=
  (∃ answer, (call s).1 = .ok answer) ∧ Holds (call s).2

def Fails {α : Type} (call : Call σ α) (s : σ) : Prop :=
  (∃ error, (call s).1 = .error error) ∧ Holds (call s).2

/-- The call is answered just when the cutoff that it needs is in range. -/
def Decided {α : Type} (inRange : Bool) (call : Call σ α) (s : σ) : Prop :=
  match inRange with
  | true => Answers Holds call s
  | false => Fails Holds call s

/-- The buckets are listed a page at a time, in the order of their ids. -/
structure ListsBuckets (items : List S3Bucket) : Prop where
  sorted : items.Pairwise (S3Bucket.id · < S3Bucket.id ·)
  page : ∀ {s} after {limit}, Holds s → 1 ≤ limit → limit ≤ maxS3LifecycleBatchSize →
    (repository.listS3LifecycleBuckets after limit s).1 =
      .ok ((pending S3Bucket.id items after).take limit) ∧
    Holds (repository.listS3LifecycleBuckets after limit s).2

/-- The scans of the bucket are answered; the one for delete markers computes its own cutoff. -/
structure AnswersScans (bucket : S3Bucket) : Prop where
  current : ∀ {s} pre createdBefore now, Holds s → Answers Holds
    (repository.listS3CurrentExpirationCandidates bucket.applicationId bucket.id pre
      createdBefore now 1) s
  noncurrent : ∀ {s} pre cutoff now, Holds s → Answers Holds
    (repository.listS3NoncurrentExpirationCandidates bucket.applicationId bucket.id pre
      cutoff now 1) s
  multipart : ∀ {s} pre cutoff now, Holds s → Answers Holds
    (repository.listS3MultipartLifecycleCandidates bucket.applicationId bucket.id pre
      cutoff now 1) s
  marker : ∀ {s rule} now, Holds s → rule.status = .enabled →
    Decided Holds (expirationInRange now rule.expiration)
      (repository.listS3ExpirationDeleteMarkerCandidates bucket.applicationId bucket.id rule
        now 1) s

/-- An execution for the bucket ends with an outcome or with a conflict. -/
def AnswersExecutions (bucket : S3Bucket) : Prop :=
  ∀ {s} now rule target versionId, Holds s →
    let answer := repository.executeS3Lifecycle
      (executeCommand now bucket rule target versionId) s
    ((∃ outcome, answer.1 = .ok outcome) ∨ answer.1 = .error .conflict) ∧ Holds answer.2

end Laws

variable {σ : Type} {repository : S3LifecycleRepository σ} {Holds : σ → Prop}
  {items : List S3Bucket}

theorem Answers.firstTarget {α : Type} {call : Call σ (List α)} {s : σ}
    (target : α → S3LifecycleTarget) (h : Answers Holds call s) :
    Answers Holds (firstTarget call target) s := by
  obtain ⟨⟨rows, hrows⟩, hholds⟩ := h
  exact ⟨⟨rows.head?.map target, by simp [Service.firstTarget, hrows, Except.map]⟩, hholds⟩

theorem Decided.firstTarget {α : Type} {inRange : Bool} {call : Call σ (List α)} {s : σ}
    (target : α → S3LifecycleTarget) (h : Decided Holds inRange call s) :
    Decided Holds inRange (firstTarget call target) s := by
  cases inRange with
  | true => exact Answers.firstTarget target h
  | false =>
      obtain ⟨⟨error, herror⟩, hholds⟩ := h
      exact ⟨⟨error, by simp [Service.firstTarget, herror, Except.map]⟩, hholds⟩

/-- A query behind a cutoff is answered just when there is one. -/
theorem decided_withCutoff {α : Type} {now : Time} {days : Nat} {query : Time → Call σ α}
    {s : σ} (hs : Holds s) (h : ∀ cutoff, Answers Holds (query cutoff) s) :
    Decided Holds (lifecycleDaysCutoff now days).isSome (withCutoff now days query) s := by
  rcases lifecycleDaysCutoffOrThrow_cases now days with ⟨cutoff, hsome, hok⟩ |
    ⟨hnone, error, herror⟩
  · have hquery := h cutoff
    rw [hsome]
    simp only [Decided, Option.isSome_some, Answers, withCutoff, hok] at hquery ⊢
    exact hquery
  · rw [hnone]
    simp only [Decided, Option.isSome_none, Fails, withCutoff, herror]
    exact ⟨⟨error, rfl⟩, hs⟩

/-- The scan of an enabled rule fails just when the action needs a cutoff out of range. -/
theorem decided_scanAction {bucket : S3Bucket} (hscans : AnswersScans repository Holds bucket)
    {rule : S3LifecycleRule} (henabled : rule.status = .enabled)
    (action : S3LifecycleScanAction) (now : Time) {s : σ} (hs : Holds s) :
    Decided Holds (actionInRange now (rule, action))
      (scanAction repository bucket rule action now) s := by
  have hnothing : Answers Holds (fun s => (.ok (none : Option S3LifecycleTarget), s)) s :=
    ⟨⟨none, rfl⟩, hs⟩
  cases action with
  | currentExpiration =>
      simp only [scanAction, actionInRange]
      cases rule.expiration with
      | none => exact hnothing
      | some expiration =>
          cases expiration with
          | days days =>
              exact decided_withCutoff hs fun cutoff =>
                (hscans.current _ (some cutoff) now hs).firstTarget _
          | date date =>
              dsimp only [expirationInRange, Decided]
              split
              · exact (hscans.current _ none now hs).firstTarget _
              · exact hnothing
          | expiredObjectDeleteMarker => exact hnothing
  | expiredDeleteMarker => exact (hscans.marker now hs henabled).firstTarget _
  | noncurrentExpiration =>
      simp only [scanAction, actionInRange]
      cases rule.noncurrentDays with
      | none => exact ⟨⟨_, rfl⟩, hs⟩
      | some days =>
          exact decided_withCutoff hs fun cutoff =>
            (hscans.noncurrent _ cutoff now hs).firstTarget _
  | multipartAbort =>
      simp only [scanAction, actionInRange]
      cases rule.daysAfterInitiation with
      | none => exact ⟨⟨_, rfl⟩, hs⟩
      | some days =>
          exact decided_withCutoff hs fun cutoff =>
            (hscans.multipart _ cutoff now hs).firstTarget _

/-- A scan of the bucket may find a target with this identity. -/
def Scanned (repository : S3LifecycleRepository σ) (Holds : σ → Prop) (bucket : S3Bucket)
    (identity : S3LifecycleTargetIdentity) : Prop :=
  ∃ s rule action now target, Holds s ∧
    (scanAction repository bucket rule action now s).1 = .ok (some target) ∧
    targetIdentity target = identity

theorem executeTarget_served {bucket : S3Bucket}
    (hexecutions : AnswersExecutions repository Holds bucket) (now : Time)
    (newVersionId : Nat → ObjectVersionId) (rule : S3LifecycleRule)
    (target : S3LifecycleTarget) (batch : BatchState σ) (hs : Holds batch.repository) :
    (executeTarget repository now newVersionId bucket rule target batch).1 = .ok () ∧
    Holds (executeTarget repository now newVersionId bucket rule target batch).2.repository ∧
    (executeTarget repository now newVersionId bucket rule target batch).2.seen =
      batch.seen := by
  obtain ⟨hresult, hs'⟩ :=
    hexecutions now rule target (newVersionId batch.receipt.examined) hs
  unfold executeTarget
  dsimp only
  generalize repository.executeS3Lifecycle
    (executeCommand now bucket rule target (newVersionId batch.receipt.examined))
    batch.repository = answer at *
  obtain ⟨result, s⟩ := answer
  rcases hresult with ⟨outcome, hok⟩ | hconflict
  · subst hok
    exact ⟨rfl, by simpa [BatchState.answered] using hs', by simp [BatchState.answered]⟩
  · subst hconflict
    exact ⟨rfl, hs', rfl⟩

/-- What a work unit on a bucket that the repository serves leaves behind. -/
structure Served (Holds : σ → Prop) (repository : S3LifecycleRepository σ) (bucket : S3Bucket)
    (batch batch' : BatchState σ) : Prop where
  holds : Holds batch'.repository
  seen : ∀ identity ∈ batch'.seen,
    identity ∈ batch.seen ∨ Scanned repository Holds bucket identity

theorem examineBucket_served {bucket : S3Bucket}
    (hscans : AnswersScans repository Holds bucket)
    (hexecutions : AnswersExecutions repository Holds bucket) (now : Time)
    (newVersionId : Nat → ObjectVersionId) {batch : BatchState σ} (hs : Holds batch.repository) :
    Served Holds repository bucket batch
      (examineBucket repository now newVersionId bucket batch).2 ∧
    (UnitInRange now bucket batch.nextCursor.actionRound →
      (examineBucket repository now newVersionId bucket batch).1 = .ok ()) ∧
    (¬ UnitInRange now bucket batch.nextCursor.actionRound →
      ∃ error, (examineBucket repository now newVersionId bucket batch).1 = .error error) := by
  unfold examineBucket UnitInRange
  dsimp only
  cases hselected : selectedOf bucket batch.nextCursor.actionRound with
  | none =>
      refine ⟨⟨hs, fun identity h => Or.inl h⟩, fun _ => rfl, fun h => ?_⟩
      exact absurd (fun selected hmem => by cases hmem) h
  | some selected =>
      obtain ⟨rule, action⟩ := selected
      have henabled := status_of_mem_bucketActions (mem_bucketActions_of_selectedOf hselected)
      have hdecided := decided_scanAction hscans henabled action now hs
      have hscanned : ∀ target, (scanAction repository bucket rule action now
          batch.repository).1 = .ok (some target) →
          Scanned repository Holds bucket (targetIdentity target) := by
        intro target htarget
        exact ⟨_, rule, action, now, target, hs, htarget, rfl⟩
      have hrange : (∀ selected ∈ some (rule, action), actionInRange now selected = true) ↔
          actionInRange now (rule, action) = true := by
        simp
      rw [hrange]
      dsimp only
      have hrepository : (batch.visit bucket (some (rule, action))).repository =
        batch.repository := rfl
      rw [hrepository]
      unfold Decided Answers Fails at hdecided
      generalize scanAction repository bucket rule action now batch.repository = answer at *
      obtain ⟨result, s⟩ := answer
      cases hin : actionInRange now (rule, action) with
      | false =>
          rw [hin] at hdecided
          obtain ⟨⟨error, herror⟩, hs'⟩ := hdecided
          dsimp only at herror hs'
          subst herror
          exact ⟨⟨hs', fun identity h => Or.inl h⟩, (fun h => nomatch h), fun _ => ⟨error, rfl⟩⟩
      | true =>
          rw [hin] at hdecided
          obtain ⟨⟨found, hfound⟩, hs'⟩ := hdecided
          dsimp only at hfound hs'
          subst hfound
          cases found with
          | none => exact ⟨⟨hs', fun identity h => Or.inl h⟩, fun _ => rfl, fun h => absurd rfl h⟩
          | some target =>
              dsimp only
              split
              · exact ⟨⟨hs', fun identity h => Or.inl h⟩, fun _ => rfl, fun h => absurd rfl h⟩
              · obtain ⟨hok, hs'', hseen⟩ := executeTarget_served hexecutions now newVersionId rule
                  target (((batch.visit bucket (some (rule, action))).answered s).see target) hs'
                refine ⟨⟨hs'', ?_⟩, fun _ => hok, fun h => absurd rfl h⟩
                rw [hseen]
                intro identity hidentity
                rcases List.mem_cons.1 hidentity with rfl | hmem
                · exact Or.inr (hscanned target rfl)
                · exact Or.inl hmem

end MediaHub.Service
