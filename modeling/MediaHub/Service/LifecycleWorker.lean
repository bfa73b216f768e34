import MediaHub.Service.LifecycleFairness

namespace MediaHub.Service

open Relational
open MediaHub.Core
open MediaHub.Store
open Rotation

def defaultS3LifecycleBatchSize : Nat := 100

/-- One turn of the worker. Before it others may have changed the repository. -/
structure WorkerTick (σ : Type) where
  now : Time
  newVersionId : Nat → ObjectVersionId
  meanwhile : σ → σ

/-- The worker's variables, and the log of its work units. -/
structure WorkerState (σ : Type) where
  cursor : S3LifecycleBatchCursor
  repository : σ
  visits : List Visit

section Worker

variable {σ : Type} (repository : S3LifecycleRepository σ)

/-- A batch that fails leaves the cursor where it is. -/
def workerStep (tick : WorkerTick σ) (worker : WorkerState σ) : WorkerState σ :=
  match runBatch repository tick.now tick.newVersionId worker.cursor defaultS3LifecycleBatchSize
      (tick.meanwhile worker.repository) with
  | some ⟨.ok receipt, s, visits⟩ => ⟨receipt.nextCursor, s, worker.visits ++ visits⟩
  | some ⟨.error _, s, visits⟩ => ⟨worker.cursor, s, worker.visits ++ visits⟩
  | none => worker

def runLifecycleWorker (ticks : Nat → WorkerTick σ) (s : σ) : Nat → WorkerState σ
  | 0 => ⟨default, s, []⟩
  | n + 1 => workerStep repository (ticks n) (runLifecycleWorker ticks s n)

/-- The scan of the bucket fails, or it finds a target of this bucket only and the execution
fails. -/
def FailsAt (Holds : σ → Prop) (items : List S3Bucket) (bucket : S3Bucket) (now : Time) :
    Prop :=
  ∀ {s} newVersionId rule action, Holds s → (rule, action) ∈ bucketActions bucket →
    let scanned := scanAction repository bucket rule action now s
    Holds scanned.2 ∧
    ((∃ error, error ≠ .conflict ∧ scanned.1 = .error error) ∨
    ∃ target, scanned.1 = .ok (some target) ∧
      (∀ other ∈ items, other ≠ bucket →
        ¬ Scanned repository Holds other (targetIdentity target)) ∧
      let executed := repository.executeS3Lifecycle
        (executeCommand now bucket rule target newVersionId) scanned.2
      Holds executed.2 ∧ ∃ error, error ≠ .conflict ∧ executed.1 = .error error)

/-- One bucket fails at every turn, and all the others are served at every turn. -/
structure OneFails (Holds : σ → Prop) (items : List S3Bucket) (failing : S3Bucket)
    (ticks : Nat → WorkerTick σ) : Prop where
  lists : ListsBuckets repository Holds items
  scans : ∀ bucket ∈ items, bucket ≠ failing → AnswersScans repository Holds bucket
  executions : ∀ bucket ∈ items, bucket ≠ failing → AnswersExecutions repository Holds bucket
  inRange : ∀ bucket ∈ items, bucket ≠ failing → ∀ action ∈ bucketActions bucket, ∀ n,
    actionInRange (ticks n).now action
  mem : failing ∈ items
  acts : bucketActions failing ≠ []
  fails : ∀ n, FailsAt repository Holds items failing (ticks n).now
  meanwhile : ∀ n s, Holds s → Holds ((ticks n).meanwhile s)

end Worker

variable {σ : Type} {repository : S3LifecycleRepository σ} {Holds : σ → Prop}
  {items : List S3Bucket} {failing : S3Bucket} {ticks : Nat → WorkerTick σ}

/-- The targets seen in a batch are those of the buckets that are served. -/
def SeenOfOthers (repository : S3LifecycleRepository σ) (Holds : σ → Prop)
    (items : List S3Bucket) (failing : S3Bucket) (seen : List S3LifecycleTargetIdentity)
    (s : σ) : Prop :=
  Holds s ∧ ∀ identity ∈ seen, ∃ other ∈ items, other ≠ failing ∧
    Scanned repository Holds other identity

theorem selectedOf_isSome {bucket : S3Bucket} (h : bucketActions bucket ≠ [])
    (actionRound : Nat) : ∃ selected, selectedOf bucket actionRound = some selected := by
  rw [selectedOf_eq]
  have hpos : 0 < (bucketActions bucket).length := List.length_pos_iff.2 h
  exact ⟨_, List.getElem?_eq_getElem (Nat.mod_lt _ hpos)⟩

/-- A work unit on the failing bucket ends the batch. -/
theorem examineBucket_fails {now : Time} (hacts : bucketActions failing ≠ [])
    (hfails : FailsAt repository Holds items failing now)
    (newVersionId : Nat → ObjectVersionId) {batch : BatchState σ}
    (hinv : SeenOfOthers repository Holds items failing batch.seen batch.repository) :
    (∃ error, (examineBucket repository now newVersionId failing batch).1 = .error error) ∧
    Holds (examineBucket repository now newVersionId failing batch).2.repository := by
  obtain ⟨⟨rule, action⟩, hselected⟩ := selectedOf_isSome hacts batch.nextCursor.actionRound
  have hfails := hfails
    (newVersionId (batch.visit failing (some (rule, action))).receipt.examined) rule action
    hinv.1 (mem_bucketActions_of_selectedOf hselected)
  unfold examineBucket
  dsimp only
  rw [hselected]
  dsimp only
  have hrepository : (batch.visit failing (some (rule, action))).repository =
    batch.repository := rfl
  rw [hrepository]
  dsimp only at hfails
  generalize scanAction repository failing rule action now batch.repository = answer at *
  obtain ⟨result, s⟩ := answer
  obtain ⟨hs, ⟨error, _, herror⟩ | ⟨target, htarget, hown, hs', error, hconflict, herror⟩⟩ :=
    hfails
  · dsimp only at herror
    subst herror
    exact ⟨⟨error, rfl⟩, hs⟩
  · dsimp only at htarget
    subst htarget
    have hunseen : targetIdentity target ∉ (batch.visit failing (some (rule, action))).seen := by
      intro hseen
      obtain ⟨other, hother, hne, hscanned⟩ := hinv.2 _ hseen
      exact hown other hother hne hscanned
    dsimp only
    rw [if_neg hunseen]
    unfold executeTarget
    dsimp only at hs' herror ⊢
    have hbatch : (((batch.visit failing (some (rule, action))).answered s).see
      target).repository = s := rfl
    have hcount : (((batch.visit failing (some (rule, action))).answered s).see
      target).receipt.examined =
        (batch.visit failing (some (rule, action))).receipt.examined := rfl
    rw [hbatch, hcount]
    generalize repository.executeS3Lifecycle (executeCommand now failing rule target
      (newVersionId (batch.visit failing (some (rule, action))).receipt.examined)) s =
        executed at *
    obtain ⟨outcome, s'⟩ := executed
    dsimp only at herror hs'
    subst herror
    cases error with
    | conflict => exact absurd rfl hconflict
    | notFound => exact ⟨⟨_, rfl⟩, hs'⟩
    | quotaExceeded => exact ⟨⟨_, rfl⟩, hs'⟩
    | invariant message => exact ⟨⟨_, rfl⟩, hs'⟩
    | unavailable message => exact ⟨⟨_, rfl⟩, hs'⟩

theorem OneFails.contract (h : OneFails repository Holds items failing ticks) (n : Nat) :
    Contract repository (ticks n).now (ticks n).newVersionId items
      (SeenOfOthers repository Holds items failing) (fun bucket _ => bucket ≠ failing) where
  sorted := h.lists.sorted
  page := fun after _ hinv hpos hlimit =>
    have hpage := h.lists.page after hinv.1 hpos hlimit
    ⟨hpage.1, hpage.2, hinv.2⟩
  pass := by
    intro batch bucket hinv hmem hne
    obtain ⟨hserved, hok, _⟩ := examineBucket_served (h.scans bucket hmem hne)
      (h.executions bucket hmem hne) (ticks n).now (ticks n).newVersionId hinv.1
    refine ⟨hok fun selected hselected => ?_, hserved.holds, ?_⟩
    · exact h.inRange bucket hmem hne selected (mem_bucketActions_of_selectedOf hselected) n
    · intro identity hidentity
      rcases hserved.seen identity hidentity with hold | hscanned
      · exact hinv.2 identity hold
      · exact ⟨bucket, hmem, hne, hscanned⟩
  stop := by
    intro batch bucket hinv hmem hstop
    obtain rfl := not_not.1 hstop
    obtain ⟨herror, hholds⟩ := examineBucket_fails h.acts (h.fails n)
      (ticks n).newVersionId hinv
    exact ⟨herror, hholds, fun identity hidentity => by cases hidentity⟩
  forget := fun hinv => ⟨hinv.1, fun identity hidentity => by cases hidentity⟩

/-- The worker is still in its first round and has not got past the failing bucket. -/
structure BeforeFailing (Holds : σ → Prop) (failing : S3Bucket) (worker : WorkerState σ) :
    Prop where
  holds : Holds worker.repository
  round : worker.cursor.actionRound = 0
  after : ∀ key ∈ worker.cursor.afterBucketId, key < failing.id
  visits : ∀ visit ∈ worker.visits, visit.bucket.id ≤ failing.id ∧
    visit.selected = selectedOf visit.bucket 0

/-- What the worker has still to visit in its first round. -/
def WorkerState.ahead (worker : WorkerState σ) (items : List S3Bucket) : List S3Bucket :=
  pending S3Bucket.id items worker.cursor.afterBucketId

/-- The log of a first round. -/
def firstVisits (buckets : List S3Bucket) : List Visit :=
  buckets.map fun bucket => visitOf (bucket, 0)

/-- A turn of the worker either passes some buckets that stand before the failing one, or visits
all of these and stays where it is. -/
theorem workerStep_cases (h : OneFails repository Holds items failing ticks) (n : Nat)
    {worker : WorkerState σ} (hbefore : BeforeFailing Holds failing worker) :
    ∃ s passed, Holds s ∧
      ((∃ after, workerStep repository (ticks n) worker =
          ⟨⟨after, 0⟩, s, worker.visits ++ firstVisits passed⟩ ∧ passed ≠ [] ∧
        worker.ahead items = passed ++ pending S3Bucket.id items after ∧
        failing ∈ pending S3Bucket.id items after) ∨
      (∃ rest, workerStep repository (ticks n) worker =
          ⟨worker.cursor, s, worker.visits ++ firstVisits (passed ++ [failing])⟩ ∧
        worker.ahead items = passed ++ failing :: rest)) := by
  have hsorted := h.lists.sorted
  have hinv : SeenOfOthers repository Holds items failing []
      ((ticks n).meanwhile worker.repository) :=
    ⟨h.meanwhile n _ hbefore.holds, fun identity hidentity => by cases hidentity⟩
  have hmem : failing ∈ worker.ahead items := mem_pending.2 ⟨h.mem, hbefore.after⟩
  have hround : worker.cursor.position.round = 0 := hbefore.round
  obtain ⟨run, visits, hrun, hruns⟩ := runBatch_spec (h.contract n)
    (show 1 ≤ defaultS3LifecycleBatchSize by decide) (by decide) worker.cursor hinv
  obtain ⟨result, s, logged⟩ := run
  have hlogged : logged = visits.map visitOf := hruns.logged
  subst hlogged
  unfold workerStep
  rw [hrun]
  rcases hruns.outcome with ⟨receipt, hok, hexamined, hwalk, hall, hend⟩ |
    ⟨error, p, herror, hwalk, before, ⟨last, round⟩, rfl, hpass, hlast⟩
  · obtain rfl : result = .ok receipt := hok
    obtain ⟨hround', hmem', passed, rfl, hahead⟩ := hwalk.avoid hsorted hmem hall
    refine ⟨s, passed, hruns.holds.1,
      Or.inl ⟨receipt.nextCursor.afterBucketId, ?_, ?_, hahead, hmem'⟩⟩
    · have hcursor : receipt.nextCursor = ⟨receipt.nextCursor.afterBucketId, 0⟩ := by
        rw [← hround'.trans hround]
        rfl
      rw [List.map_map]
      simp only [hround]
      rw [← hcursor]
      rfl
    · rintro rfl
      have hfull := hend.resolve_right fun hnil => List.not_mem_nil (hnil ▸ h.mem)
      rw [hfull] at hexamined
      cases hexamined
  · obtain rfl : result = .error error := herror
    obtain rfl : last = failing := not_not.1 hlast
    obtain ⟨hround', passed, rest, rfl, hahead⟩ := hwalk.reach hsorted hmem hpass
    refine ⟨s, passed, hruns.holds.1, Or.inr ⟨rest, ?_, hahead⟩⟩
    simp only [hround', hround, List.map_append, List.map_map, firstVisits]
    rfl

theorem mem_firstVisits {buckets : List S3Bucket} {visit : Visit} :
    visit ∈ firstVisits buckets ↔ ∃ bucket ∈ buckets, visitOf (bucket, 0) = visit :=
  List.mem_map

theorem workerStep_beforeFailing (h : OneFails repository Holds items failing ticks) (n : Nat)
    {worker : WorkerState σ} (hbefore : BeforeFailing Holds failing worker) :
    BeforeFailing Holds failing (workerStep repository (ticks n) worker) := by
  have hordered : (worker.ahead items).Pairwise (·.id < ·.id) := h.lists.sorted.filter _
  obtain ⟨s, passed, hs, ⟨after, hstep, _, hahead, hmem⟩ | ⟨rest, hstep, hahead⟩⟩ :=
    workerStep_cases h n hbefore
  · rw [hahead] at hordered
    rw [hstep]
    refine ⟨hs, rfl, (mem_pending.1 hmem).2, fun visit hvisit => ?_⟩
    rcases List.mem_append.1 hvisit with hold | hnew
    · exact hbefore.visits visit hold
    · obtain ⟨bucket, hbucket, rfl⟩ := mem_firstVisits.1 hnew
      exact ⟨le_of_lt ((List.pairwise_append.1 hordered).2.2 bucket hbucket failing hmem), rfl⟩
  · rw [hahead] at hordered
    rw [hstep]
    refine ⟨hs, hbefore.round, hbefore.after, fun visit hvisit => ?_⟩
    rcases List.mem_append.1 hvisit with hold | hnew
    · exact hbefore.visits visit hold
    · obtain ⟨bucket, hbucket, rfl⟩ := mem_firstVisits.1 hnew
      refine ⟨?_, rfl⟩
      rcases List.mem_append.1 hbucket with hpassed | hlast
      · exact le_of_lt ((List.pairwise_append.1 hordered).2.2 bucket hpassed failing
          List.mem_cons_self)
      · rw [List.mem_singleton.1 hlast]
        exact le_refl failing.id

theorem runLifecycleWorker_beforeFailing (h : OneFails repository Holds items failing ticks)
    {s : σ} (hs : Holds s) (n : Nat) :
    BeforeFailing Holds failing (runLifecycleWorker repository ticks s n) := by
  induction n with
  | zero =>
      refine ⟨hs, rfl, ?_, ?_⟩
      · intro key hkey
        cases hkey
      · intro visit hvisit
        cases hvisit
  | succ n ih => exact workerStep_beforeFailing h n ih

/-- A bucket ahead of the failing one is visited in one of the next turns. -/
theorem exists_turn_visiting (h : OneFails repository Holds items failing ticks) {s : σ}
    (hs : Holds s) {bucket : S3Bucket} (hid : bucket.id < failing.id) (k n : Nat)
    (hcount : ((runLifecycleWorker repository ticks s n).ahead items).length ≤ k)
    (hahead : bucket ∈ (runLifecycleWorker repository ticks s n).ahead items) :
    ∃ m, visitOf (bucket, 0) ∈ (runLifecycleWorker repository ticks s m).visits := by
  induction k generalizing n with
  | zero =>
      rw [List.length_eq_zero_iff.1 (Nat.le_zero.1 hcount)] at hahead
      cases hahead
  | succ k ih =>
      have hbefore := runLifecycleWorker_beforeFailing h hs n
      have hordered : ((runLifecycleWorker repository ticks s n).ahead items).Pairwise
          (·.id < ·.id) := h.lists.sorted.filter _
      have hvisited : ∀ {buckets : List S3Bucket} {s' : σ} {cursor},
          bucket ∈ buckets → runLifecycleWorker repository ticks s (n + 1) =
            ⟨cursor, s', (runLifecycleWorker repository ticks s n).visits ++
              firstVisits buckets⟩ →
          ∃ m, visitOf (bucket, 0) ∈ (runLifecycleWorker repository ticks s m).visits := by
        intro buckets s' cursor hbucket hrun
        refine ⟨n + 1, ?_⟩
        rw [hrun]
        exact List.mem_append_right _ (mem_firstVisits.2 ⟨bucket, hbucket, rfl⟩)
      obtain ⟨s', passed, _, ⟨after, hstep, hpassed, hsplit, hmem⟩ | ⟨rest, hstep, hsplit⟩⟩ :=
        workerStep_cases h n hbefore
      · rcases List.mem_append.1 (hsplit ▸ hahead) with hbucket | hlater
        · exact hvisited hbucket hstep
        · apply ih (n + 1)
          · have hpos := List.length_pos_iff.2 hpassed
            rw [hsplit, List.length_append] at hcount
            rw [runLifecycleWorker, hstep]
            change (pending S3Bucket.id items after).length ≤ k
            omega
          · rw [runLifecycleWorker, hstep]
            exact hlater
      · refine hvisited (List.mem_append_left _ ?_) hstep
        rw [hsplit] at hahead hordered
        rcases List.mem_append.1 hahead with hbucket | hrest
        · exact hbucket
        · rcases List.mem_cons.1 hrest with rfl | hrest
          · exact absurd hid (lt_irrefl _)
          · have hlt := (List.pairwise_cons.1 (List.pairwise_append.1 hordered).2.1).1 bucket hrest
            exact absurd hid (lt_asymm hlt)

/-- The failing bucket leaves the actions of another bucket alone just when they are at most one
and that bucket stands before it. -/
def SparesActions (failing bucket : S3Bucket) : Prop :=
  ∀ action ∈ bucketActions bucket,
    bucket.id < failing.id ∧ (bucketActions bucket).head? = some action

theorem selectedOf_zero (bucket : S3Bucket) :
    selectedOf bucket 0 = (bucketActions bucket).head? := by
  rw [selectedOf_eq, Nat.zero_mod, List.head?_eq_getElem?]

theorem id_injective (hsorted : items.Pairwise (·.id < ·.id)) {a b : S3Bucket} (ha : a ∈ items)
    (hb : b ∈ items) (h : a.id = b.id) : a = b := by
  have hnodup : (items.map S3Bucket.id).Nodup :=
    List.pairwise_map.2 (hsorted.imp fun h => ne_of_lt h)
  exact List.inj_on_of_nodup_map hnodup ha hb h

instance (failing bucket : S3Bucket) : Decidable (SparesActions failing bucket) := by
  unfold SparesActions
  infer_instance

/-- The worker examines every action of every other bucket just when all of them are spared. -/
theorem failureIsolated_iff (h : OneFails repository Holds items failing ticks) {s : σ}
    (hs : Holds s) :
    (∀ bucket ∈ items, bucket ≠ failing → ∀ action ∈ bucketActions bucket, ∃ n,
      ∃ visit ∈ (runLifecycleWorker repository ticks s n).visits,
        visit.bucket = bucket ∧ visit.selected = some action) ↔
    ∀ bucket ∈ items, bucket ≠ failing → SparesActions failing bucket := by
  constructor
  · intro hexamined bucket hmem hne action haction
    obtain ⟨n, visit, hvisit, rfl, hselected⟩ := hexamined bucket hmem hne action haction
    obtain ⟨hle, hfirst⟩ := (runLifecycleWorker_beforeFailing h hs n).visits visit hvisit
    have hid : visit.bucket.id ≠ failing.id := fun heq =>
      hne (id_injective h.lists.sorted hmem h.mem heq)
    exact ⟨lt_of_le_of_ne hle hid, by rw [← selectedOf_zero, ← hfirst, hselected]⟩
  · intro hspared bucket hmem hne action haction
    obtain ⟨hid, hhead⟩ := hspared bucket hmem hne action haction
    have hahead : bucket ∈ (runLifecycleWorker repository ticks s 0).ahead items :=
      mem_pending.2 ⟨hmem, fun key hkey => by cases hkey⟩
    obtain ⟨n, hvisit⟩ := exists_turn_visiting h hs hid _ 0 le_rfl hahead
    exact ⟨n, _, hvisit, rfl, by rw [← hhead, ← selectedOf_zero]; rfl⟩

def sampleTicks (_ : Nat) : WorkerTick Database where
  now := sampleCall.now
  newVersionId := sampleCall.newVersionId
  meanwhile := id

theorem farAndNear_oneFails (far near : BucketId) (h : far ≠ near) :
    OneFails postgres (· = bareDatabase (farAndNear far near h))
      (lifecycleBuckets (bareDatabase (farAndNear far near h)))
      (farBucket far) sampleTicks where
  lists := bare_listsBuckets _
  scans := fun bucket _ _ => postgres_answersScans bucket
  executions := fun bucket _ _ => bare_answersExecutions _ bucket
  inRange := by
    intro bucket hmem hne action haction n
    obtain ⟨hbucket, -⟩ := mem_lifecycleBuckets.1 hmem
    rcases List.mem_cons.1 hbucket with rfl | hnear
    · exact absurd rfl hne
    · obtain rfl := List.mem_singleton.1 hnear
      obtain rfl := List.mem_singleton.1 haction
      show actionInRange sampleCall.now (abortRule 7, .multipartAbort) = true
      decide
  mem := mem_lifecycleBuckets.2 ⟨List.mem_cons_self, rfl⟩
  acts := List.cons_ne_nil _ _
  fails := by
    rintro n db newVersionId rule action rfl haction
    obtain ⟨rfl, rfl⟩ := Prod.mk.inj (List.mem_singleton.1 haction)
    exact ⟨rfl, Or.inl ⟨.invariant "S3 lifecycle cutoff overflow", by decide, rfl⟩⟩
  meanwhile := fun _ _ hdb => hdb

/-- A bucket that stands before the failing one and has one action is examined. -/
theorem failureIsolated_iff_nearFirst :
    ∃ n, ∃ visit ∈ (runLifecycleWorker postgres sampleTicks
        (bareDatabase (farAndNear 2 1 (by decide))) n).visits,
      visit.bucket = nearBucket 1 ∧ visit.selected = some (abortRule 7, .multipartAbort) :=
  (failureIsolated_iff (farAndNear_oneFails 2 1 (by decide)) rfl).2 (by decide +kernel)
    (nearBucket 1) (by decide +kernel) (by decide) _ List.mem_cons_self

/-- A bucket that stands after the failing one is never examined. -/
theorem not_failureIsolated_farFirst :
    nearBucket 2 ∈ lifecycleBuckets (bareDatabase (farAndNear 1 2 (by decide))) ∧
      nearBucket 2 ≠ farBucket 1 ∧ bucketActions (nearBucket 2) ≠ [] ∧
      ∀ n, ∀ visit ∈ (runLifecycleWorker postgres sampleTicks
          (bareDatabase (farAndNear 1 2 (by decide))) n).visits, visit.bucket ≠ nearBucket 2 := by
  refine ⟨by decide +kernel, by decide, by decide, ?_⟩
  intro n visit hvisit heq
  have hfirst := runLifecycleWorker_beforeFailing (farAndNear_oneFails 1 2 (by decide)) rfl n
  have hle := (hfirst.visits visit hvisit).1
  rw [heq] at hle
  exact absurd hle (by decide)

end MediaHub.Service
