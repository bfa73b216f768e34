import MediaHub.Service.LifecycleBatch
import MediaHub.Transition.Rotation

namespace MediaHub.Service

open MediaHub.Core
open MediaHub.Store
open Rotation

/-- The cursor as a position of the walk. -/
def S3LifecycleBatchCursor.position (cursor : S3LifecycleBatchCursor) :
    Position BucketId Nat :=
  ⟨cursor.afterBucketId, cursor.actionRound⟩

/-- The log entry of a visit. -/
def visitOf (visit : S3Bucket × Nat) : Visit := ⟨visit.1, visit.2, selectedOf visit.1 visit.2⟩

abbrev BucketWalk (items : List S3Bucket) :
    Position BucketId Nat → List (S3Bucket × Nat) → Position BucketId Nat → Prop :=
  Walk S3Bucket.id nextRound items

variable {σ : Type} {repository : S3LifecycleRepository σ} {now : Time}
  {newVersionId : Nat → ObjectVersionId}

section Unit

variable (bucket : S3Bucket) (rule : S3LifecycleRule) (target : S3LifecycleTarget)
  (batch : BatchState σ)

/-- The part of the loop's variables that a count or an answer leaves alone. -/
def BatchState.track (batch : BatchState σ) : Nat × S3LifecycleBatchCursor × List Visit :=
  (batch.receipt.examined, batch.nextCursor, batch.visits)

@[simp] theorem track_skip : batch.skip.track = batch.track := rfl

@[simp] theorem track_retry : batch.retry.track = batch.track := rfl

@[simp] theorem track_answered (s : σ) : (batch.answered s).track = batch.track := rfl

@[simp] theorem track_see : (batch.see target).track = batch.track := rfl

@[simp] theorem track_count (outcome : S3LifecycleExecutionOutcome) :
    (batch.count outcome).track = batch.track := by
  cases outcome <;> rfl

@[simp] theorem seen_count (outcome : S3LifecycleExecutionOutcome) :
    (batch.count outcome).seen = batch.seen := by
  cases outcome <;> rfl

@[simp] theorem repository_count (outcome : S3LifecycleExecutionOutcome) :
    (batch.count outcome).repository = batch.repository := by
  cases outcome <;> rfl

theorem track_executeTarget :
    (executeTarget repository now newVersionId bucket rule target batch).2.track =
      batch.track := by
  unfold executeTarget
  dsimp only
  split
  · rw [track_count, track_answered]
  · rw [track_retry, track_answered]
  · rw [track_answered]

variable (repository now newVersionId) in
theorem track_examineBucket :
    (examineBucket repository now newVersionId bucket batch).2.track =
      (batch.receipt.examined + 1, { batch.nextCursor with afterBucketId := some bucket.id },
        batch.visits ++ [visitOf (bucket, batch.nextCursor.actionRound)]) := by
  unfold examineBucket
  dsimp only
  split
  · next hselected =>
      rw [track_skip]
      simp [BatchState.track, BatchState.visit, visitOf, hselected]
  · next hselected =>
      have htrack : (batch.visit bucket (selectedOf bucket batch.nextCursor.actionRound)).track =
          (batch.receipt.examined + 1,
            { batch.nextCursor with afterBucketId := some bucket.id },
            batch.visits ++ [visitOf (bucket, batch.nextCursor.actionRound)]) := rfl
      rw [← htrack]
      split
      · rw [track_answered]
      · rw [track_answered]
      · split
        · rw [track_skip, track_answered]
        · rw [track_executeTarget, track_see, track_answered]

end Unit

/-- What a batch relies on. `Inv` holds of the targets seen and of the repository's state, and
`Passes` tells the work units that end well from those that end the batch. -/
structure Contract (repository : S3LifecycleRepository σ) (now : Time)
    (newVersionId : Nat → ObjectVersionId) (items : List S3Bucket)
    (Inv : List S3LifecycleTargetIdentity → σ → Prop) (Passes : S3Bucket → Nat → Prop) :
    Prop where
  sorted : items.Pairwise (S3Bucket.id · < S3Bucket.id ·)
  page : ∀ {seen s} after {limit}, Inv seen s → 1 ≤ limit → limit ≤ maxS3LifecycleBatchSize →
    (repository.listS3LifecycleBuckets after limit s).1 =
      .ok ((pending S3Bucket.id items after).take limit) ∧
    Inv seen (repository.listS3LifecycleBuckets after limit s).2
  pass : ∀ {batch bucket}, Inv batch.seen batch.repository → bucket ∈ items →
    Passes bucket batch.nextCursor.actionRound →
    (examineBucket repository now newVersionId bucket batch).1 = .ok () ∧
    Inv (examineBucket repository now newVersionId bucket batch).2.seen
      (examineBucket repository now newVersionId bucket batch).2.repository
  stop : ∀ {batch bucket}, Inv batch.seen batch.repository → bucket ∈ items →
    ¬ Passes bucket batch.nextCursor.actionRound →
    (∃ error, (examineBucket repository now newVersionId bucket batch).1 = .error error) ∧
    Inv [] (examineBucket repository now newVersionId bucket batch).2.repository
  forget : ∀ {seen s}, Inv seen s → Inv [] s

/-- Every visit ends well, but for the last one of a batch that fails. -/
def AllPass (Passes : S3Bucket → Nat → Prop) (visits : List (S3Bucket × Nat)) : Prop :=
  ∀ visit ∈ visits, Passes visit.1 visit.2

def StoppedAtLast (Passes : S3Bucket → Nat → Prop) (visits : List (S3Bucket × Nat)) : Prop :=
  ∃ before last, visits = before ++ [last] ∧ AllPass Passes before ∧ ¬ Passes last.1 last.2

variable {items : List S3Bucket} {Inv : List S3LifecycleTargetIdentity → σ → Prop}
  {Passes : S3Bucket → Nat → Prop}

theorem StoppedAtLast.append {first second : List (S3Bucket × Nat)}
    (h : AllPass Passes first) (h' : StoppedAtLast Passes second) :
    StoppedAtLast Passes (first ++ second) := by
  obtain ⟨before, last, rfl, hbefore, hlast⟩ := h'
  refine ⟨first ++ before, last, by simp, ?_, hlast⟩
  intro visit hvisit
  exact (List.mem_append.1 hvisit).elim (h visit) (hbefore visit)

/-- What the variables say after the visits. -/
structure Tracks (items : List S3Bucket) (batch batch' : BatchState σ)
    (visits : List (S3Bucket × Nat)) : Prop where
  walk : BucketWalk items batch.nextCursor.position visits batch'.nextCursor.position
  examined : batch'.receipt.examined = batch.receipt.examined + visits.length
  logged : batch'.visits = batch.visits ++ visits.map visitOf

theorem Tracks.trans {first second third : BatchState σ}
    {visits visits' : List (S3Bucket × Nat)} (h : Tracks items first second visits)
    (h' : Tracks items second third visits') : Tracks items first third (visits ++ visits') where
  walk := h.walk.trans h'.walk
  examined := by
    rw [h'.examined, h.examined, List.length_append]
    omega
  logged := by rw [h'.logged, h.logged, List.map_append, List.append_assoc]

variable (repository now newVersionId) in
theorem tracks_examineBucket {batch : BatchState σ} {bucket : S3Bucket} {rest : List S3Bucket}
    (h : pending S3Bucket.id items batch.nextCursor.afterBucketId = bucket :: rest) :
    Tracks items batch (examineBucket repository now newVersionId bucket batch).2
      [(bucket, batch.nextCursor.actionRound)] := by
  have htrack := track_examineBucket repository now newVersionId bucket batch
  obtain ⟨hexamined, hcursor, hvisits⟩ := Prod.mk.inj htrack |>.imp id Prod.mk.inj
  refine ⟨?_, by simpa using hexamined, by simpa using hvisits⟩
  rw [hcursor]
  exact Walk.single h

theorem Tracks.wrap {batch batch' : BatchState σ} {visits : List (S3Bucket × Nat)}
    (h : Tracks items batch batch' visits)
    (hpending : pending S3Bucket.id items batch'.nextCursor.afterBucketId = []) :
    Tracks items batch batch'.wrap visits where
  walk := by
    have hwalk := h.walk.trans (Walk.wrap hpending (.stay _))
    rwa [List.append_nil] at hwalk
  examined := h.examined
  logged := h.logged

/-- How the page ends after the visits. -/
def PageEnds (Inv : List S3LifecycleTargetIdentity → σ → Prop)
    (Passes : S3Bucket → Nat → Prop) (limit : Nat) (buckets : List S3Bucket)
    (visits : List (S3Bucket × Nat)) (batch' : BatchState σ) : PageEnd → Prop
  | .through => AllPass Passes visits ∧ visits.length = buckets.length ∧
      Inv batch'.seen batch'.repository
  | .limitReached => AllPass Passes visits ∧ batch'.receipt.examined = limit ∧
      Inv batch'.seen batch'.repository
  | .failed _ => StoppedAtLast Passes visits ∧ visits.length ≤ buckets.length ∧
      Inv [] batch'.repository

theorem allPass_nil : AllPass Passes [] := fun _ h => absurd h List.not_mem_nil

theorem allPass_cons {visit : S3Bucket × Nat} {visits : List (S3Bucket × Nat)}
    (h : Passes visit.1 visit.2) (h' : AllPass Passes visits) :
    AllPass Passes (visit :: visits) := by
  intro v hv
  rcases List.mem_cons.1 hv with rfl | hv
  · exact h
  · exact h' v hv

theorem examinePage_spec (hcontract : Contract repository now newVersionId items Inv Passes)
    (limit : Nat) {buckets rest : List S3Bucket} {batch : BatchState σ}
    (hinv : Inv batch.seen batch.repository)
    (hpending : pending S3Bucket.id items batch.nextCursor.afterBucketId = buckets ++ rest) :
    ∃ visits,
      Tracks items batch (examinePage repository now newVersionId limit buckets batch).2 visits ∧
      pending S3Bucket.id items (examinePage repository now newVersionId limit buckets
        batch).2.nextCursor.afterBucketId =
          (buckets.drop visits.length) ++ rest ∧
      PageEnds Inv Passes limit buckets visits
        (examinePage repository now newVersionId limit buckets batch).2
        (examinePage repository now newVersionId limit buckets batch).1 := by
  induction buckets generalizing batch with
  | nil =>
      exact ⟨[], ⟨.stay _, rfl, (List.append_nil _).symm⟩, hpending, allPass_nil, rfl, hinv⟩
  | cons bucket buckets ih =>
      have hmem : bucket ∈ items := by
        have hhead : bucket ∈ pending S3Bucket.id items batch.nextCursor.afterBucketId := by
          rw [hpending]
          exact List.mem_cons_self
        exact (mem_pending.1 hhead).1
      have htracks := tracks_examineBucket repository now newVersionId hpending
      have hrest : pending S3Bucket.id items (some bucket.id) = buckets ++ rest :=
        pending_eq_of_cons hcontract.sorted hpending
      have hafter : (examineBucket repository now newVersionId bucket
          batch).2.nextCursor.afterBucketId = some bucket.id := by
        have htrack := track_examineBucket repository now newVersionId bucket batch
        exact congrArg (fun t => t.2.1.afterBucketId) htrack
      rw [examinePage]
      by_cases hpasses : Passes bucket batch.nextCursor.actionRound
      · obtain ⟨hok, hinv'⟩ := hcontract.pass hinv hmem hpasses
        generalize examineBucket repository now newVersionId bucket batch = unit at *
        obtain ⟨result, batch'⟩ := unit
        subst hok
        have hone : AllPass Passes [(bucket, batch.nextCursor.actionRound)] :=
          allPass_cons hpasses allPass_nil
        dsimp only
        split
        · next hlimit =>
            exact ⟨_, htracks, by rw [hafter, hrest]; rfl, hone, hlimit, hinv'⟩
        · obtain ⟨visits, htracks', hleft, hends⟩ := ih hinv' (by rw [hafter, hrest])
          refine ⟨_, htracks.trans htracks', by simpa using hleft, ?_⟩
          revert hends
          cases (examinePage repository now newVersionId limit buckets batch').1 with
          | through =>
              rintro ⟨hall, hlength, hinv''⟩
              exact ⟨allPass_cons hpasses hall, by simp [hlength], hinv''⟩
          | limitReached =>
              rintro ⟨hall, hlimit, hinv''⟩
              exact ⟨allPass_cons hpasses hall, hlimit, hinv''⟩
          | failed error =>
              rintro ⟨hstopped, hlength, hinv''⟩
              exact ⟨hstopped.append hone, by simpa using hlength, hinv''⟩
      · obtain ⟨⟨error, herror⟩, hinv'⟩ := hcontract.stop hinv hmem hpasses
        generalize examineBucket repository now newVersionId bucket batch = unit at *
        obtain ⟨result, batch'⟩ := unit
        subst herror
        refine ⟨_, htracks, by rw [hafter, hrest]; rfl, ?_, by simp, hinv'⟩
        exact ⟨[], (bucket, batch.nextCursor.actionRound), rfl, allPass_nil, hpasses⟩

/-- What a batch with room for so many work units does. -/
structure BatchRuns (items : List S3Bucket) (Inv : List S3LifecycleTargetIdentity → σ → Prop)
    (Passes : S3Bucket → Nat → Prop) (batch : BatchState σ) (limit : Nat) (run : BatchRun σ)
    (visits : List (S3Bucket × Nat)) : Prop where
  logged : run.visits = batch.visits ++ visits.map visitOf
  room : batch.receipt.examined + visits.length ≤ limit
  holds : Inv [] run.repository
  outcome : (∃ receipt, run.result = .ok receipt ∧
      receipt.examined = batch.receipt.examined + visits.length ∧
      BucketWalk items batch.nextCursor.position visits receipt.nextCursor.position ∧
      AllPass Passes visits ∧ (receipt.examined = limit ∨ items = [])) ∨
    (∃ error p, run.result = .error error ∧
      BucketWalk items batch.nextCursor.position visits p ∧ StoppedAtLast Passes visits)

theorem BatchRuns.after {first second : BatchState σ} {limit : Nat} {run : BatchRun σ}
    {visits visits' : List (S3Bucket × Nat)} (h : Tracks items first second visits)
    (hall : AllPass Passes visits) (h' : BatchRuns items Inv Passes second limit run visits') :
    BatchRuns items Inv Passes first limit run (visits ++ visits') where
  logged := by rw [h'.logged, h.logged, List.map_append, List.append_assoc]
  room := by
    have hroom := h'.room
    rw [h.examined] at hroom
    rw [List.length_append]
    omega
  holds := h'.holds
  outcome := by
    rcases h'.outcome with ⟨receipt, hok, hexamined, hwalk, hpass, hend⟩ |
      ⟨error, p, herror, hwalk, hstopped⟩
    · refine Or.inl ⟨receipt, hok, ?_, h.walk.trans hwalk, ?_, hend⟩
      · rw [hexamined, h.examined, List.length_append]
        omega
      · intro visit hvisit
        exact (List.mem_append.1 hvisit).elim (hall visit) (hpass visit)
    · exact Or.inr ⟨error, p, herror, h.walk.trans hwalk, hstopped.append hall⟩

/-- A batch that ends without an error has used all its room, or there are no buckets. -/
theorem BatchRuns.finish {first batch : BatchState σ} {limit : Nat}
    {visits : List (S3Bucket × Nat)} (h : Tracks items first batch visits)
    (hall : AllPass Passes visits) (hinv : Inv [] batch.repository)
    (hroom : batch.receipt.examined ≤ limit)
    (hend : batch.receipt.examined = limit ∨ items = []) :
    BatchRuns items Inv Passes first limit batch.finish visits where
  logged := h.logged
  room := h.examined ▸ hroom
  holds := hinv
  outcome := Or.inl ⟨_, rfl, h.examined, h.walk, hall, hend⟩

/-- How often the loop can still turn: a page of buckets uses room, and an empty page is followed
by another kind of page. -/
def turnsLeft (limit : Nat) (batch : BatchState σ) : Nat :=
  2 * (limit - batch.receipt.examined) + if batch.nextCursor.afterBucketId.isSome then 1 else 0

theorem tracks_refl (batch : BatchState σ) : Tracks items batch batch [] :=
  ⟨.stay _, rfl, (List.append_nil _).symm⟩

theorem batchLoop_spec (hcontract : Contract repository now newVersionId items Inv Passes)
    {limit : Nat} (hlimit : limit ≤ maxS3LifecycleBatchSize) {fuel : Nat} {batch : BatchState σ}
    (hinv : Inv batch.seen batch.repository) (hroom : batch.receipt.examined ≤ limit)
    (hfuel : turnsLeft limit batch < fuel) :
    ∃ run visits,
      batchLoop repository now newVersionId limit fuel batch = some run ∧
      BatchRuns items Inv Passes batch limit run visits := by
  induction fuel generalizing batch with
  | zero => omega
  | succ fuel ih =>
      rw [batchLoop]
      split
      · next hfull =>
          have hexamined : batch.receipt.examined = limit := by omega
          exact ⟨_, _, rfl, .finish (tracks_refl batch) allPass_nil (hcontract.forget hinv)
            hroom (Or.inl hexamined)⟩
      next hfull =>
      dsimp only
      have hone : 1 ≤ min (limit - batch.receipt.examined) maxS3LifecycleBucketPageSize := by
        have hpos : 1 ≤ maxS3LifecycleBucketPageSize := by decide
        omega
      have hsmall : min (limit - batch.receipt.examined) maxS3LifecycleBucketPageSize ≤
          limit - batch.receipt.examined := Nat.min_le_left _ _
      generalize min (limit - batch.receipt.examined) maxS3LifecycleBucketPageSize =
        pageLimit at *
      obtain ⟨hpage, hinv'⟩ := hcontract.page batch.nextCursor.afterBucketId hinv hone
        (by omega)
      generalize repository.listS3LifecycleBuckets batch.nextCursor.afterBucketId pageLimit
        batch.repository = answer at *
      obtain ⟨result, s⟩ := answer
      subst hpage
      have hsplit := List.take_append_drop pageLimit
        (pending S3Bucket.id items batch.nextCursor.afterBucketId)
      generalize hbuckets : (pending S3Bucket.id items batch.nextCursor.afterBucketId).take
        pageLimit = buckets at *
      have hlength : buckets.length ≤ pageLimit := by
        rw [← hbuckets]
        exact List.length_take_le _ _
      have hanswered : Tracks items batch (batch.answered s) [] :=
        ⟨.stay _, rfl, (List.append_nil _).symm⟩
      cases buckets with
      | nil =>
          have hempty : pending S3Bucket.id items batch.nextCursor.afterBucketId = [] :=
            (List.take_eq_nil_iff.1 hbuckets).resolve_left (by omega)
          dsimp only
          split
          · next hnone =>
              have hitems : items = [] := by
                rw [Option.isNone_iff_eq_none.1 hnone, pending_none] at hempty
                exact hempty
              exact ⟨_, _, rfl, .finish hanswered allPass_nil (hcontract.forget hinv') hroom
                (Or.inr hitems)⟩
          · next hsome =>
              have hturns : turnsLeft limit (batch.answered s).wrap < fuel := by
                have hafter : batch.nextCursor.afterBucketId.isSome = true := by
                  simpa [← Option.isSome_iff_ne_none, Option.isNone_iff_eq_none] using hsome
                simp only [turnsLeft, hafter, if_true] at hfuel
                simp only [turnsLeft, BatchState.wrap, BatchState.answered,
                  S3LifecycleBatchCursor.wrap, Option.isSome_none, Bool.false_eq_true, if_false]
                omega
              obtain ⟨run, visits, hrun, hruns⟩ :=
                @ih (batch.answered s).wrap hinv' hroom hturns
              exact ⟨run, _, hrun, hruns.after (hanswered.wrap hempty) allPass_nil⟩
      | cons bucket buckets =>
          dsimp only
          obtain ⟨visits, htracks, hleft, hends⟩ :=
            @examinePage_spec _ _ _ _ _ _ _ hcontract limit _ _
            (batch.answered s) hinv' hsplit.symm
          have htracks' := hanswered.trans htracks
          generalize examinePage repository now newVersionId limit (bucket :: buckets)
            (batch.answered s) = page at *
          obtain ⟨pageEnd, batch'⟩ := page
          have hexamined := htracks'.examined
          cases pageEnd with
          | failed error =>
              obtain ⟨hstopped, hvisits, hinv''⟩ := hends
              refine ⟨_, visits, rfl, htracks'.logged, ?_, hinv'', Or.inr ?_⟩
              · omega
              · exact ⟨error, _, rfl, htracks'.walk, hstopped⟩
          | limitReached =>
              obtain ⟨hall, hfull', hinv''⟩ := hends
              exact ⟨_, visits, rfl, .finish htracks' hall (hcontract.forget hinv'')
                (le_of_eq hfull') (Or.inl hfull')⟩
          | through =>
              obtain ⟨hall, hvisits, hinv''⟩ := hends
              simp only [List.nil_append] at hexamined htracks'
              dsimp only
              have hroom' : batch'.receipt.examined ≤ limit := by omega
              have hpos : 0 < visits.length := by
                rw [hvisits]
                exact Nat.succ_pos _
              have hless : turnsLeft limit batch'.wrap < fuel ∧ turnsLeft limit batch' < fuel := by
                simp only [turnsLeft] at hfuel ⊢
                simp only [BatchState.wrap, S3LifecycleBatchCursor.wrap]
                constructor
                · simp only [Option.isSome_none, Bool.false_eq_true, if_false]
                  omega
                · split <;> omega
              split
              · next hshort =>
                  have hrest : (pending S3Bucket.id items
                      batch.nextCursor.afterBucketId).drop pageLimit = [] := by
                    apply List.drop_eq_nil_of_le
                    rw [← hbuckets, List.length_take] at hshort
                    omega
                  have hwrapped := htracks'.wrap (by
                    rw [hleft, hvisits, List.drop_length, hrest]
                    rfl)
                  obtain ⟨run, visits', hrun, hruns⟩ := @ih batch'.wrap hinv'' hroom' hless.1
                  exact ⟨run, _, hrun, hruns.after hwrapped hall⟩
              · obtain ⟨run, visits', hrun, hruns⟩ := ih hinv'' hroom' hless.2
                exact ⟨run, _, hrun, hruns.after htracks' hall⟩

/-- A batch with a limit in range never runs out of fuel. -/
theorem runBatch_spec (hcontract : Contract repository now newVersionId items Inv Passes)
    {limit : Nat} (hpos : 1 ≤ limit) (hlimit : limit ≤ maxS3LifecycleBatchSize)
    (cursor : S3LifecycleBatchCursor) {s : σ} (hinv : Inv [] s) :
    ∃ run visits,
      runBatch repository now newVersionId cursor limit s = some run ∧
      BatchRuns items Inv Passes ⟨{}, [], cursor, s, []⟩ limit run visits := by
  rw [runBatch, if_pos ⟨hpos, hlimit⟩]
  apply batchLoop_spec hcontract hlimit hinv (Nat.zero_le _)
  simp only [turnsLeft, batchFuel]
  split <;> omega

end MediaHub.Service
