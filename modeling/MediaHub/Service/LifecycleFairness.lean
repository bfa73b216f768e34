import MediaHub.Service.LifecycleRepository

namespace MediaHub.Service

open Relational
open MediaHub.Core
open MediaHub.Store
open Rotation

/-- The arguments of a batch, but for the cursor. -/
structure BatchCall where
  now : Time
  limit : Nat
  newVersionId : Nat → ObjectVersionId

def BatchCall.Valid (call : BatchCall) : Prop :=
  1 ≤ call.limit ∧ call.limit ≤ maxS3LifecycleBatchSize

section Chain

variable {σ : Type} (repository : S3LifecycleRepository σ)

def runCall (call : BatchCall) (cursor : S3LifecycleBatchCursor) (s : σ) :
    Option (BatchRun σ) :=
  runBatch repository call.now call.newVersionId cursor call.limit s

/-- What batches in a row return and examine, each from the cursor that the one before it
returned; `none` if one of them fails. -/
def chainBatches : List BatchCall → S3LifecycleBatchCursor → σ →
    Option (List S3LifecycleBatchReceipt × List Visit)
  | [], _, _ => some ([], [])
  | call :: calls, cursor, s =>
      match runCall repository call cursor s with
      | some ⟨.ok receipt, s', visits⟩ =>
          (chainBatches calls receipt.nextCursor s').map fun (receipts, later) =>
            (receipt :: receipts, visits ++ later)
      | _ => none

end Chain

/-- The clock of each work unit that the batches have room for. -/
def dueTimes (calls : List BatchCall) : List Time :=
  calls.flatMap fun call => List.replicate call.limit call.now

/-- No work unit of the walk needs a cutoff out of range. -/
def CutoffsInRange (items : List S3Bucket) (cursor : S3LifecycleBatchCursor)
    (calls : List BatchCall) : Prop :=
  ∀ visits p, BucketWalk items cursor.position visits p →
    ∀ unit ∈ (dueTimes calls).zip visits, UnitInRange unit.1 unit.2.1 unit.2.2

/-- The scan is fair: no batch goes past its limit, the buckets are visited round after round in
the order of their ids, and as many rounds as a bucket has actions select each of them. -/
structure FairScan (items : List S3Bucket) (cursor : S3LifecycleBatchCursor)
    (calls : List BatchCall) (receipts : List S3LifecycleBatchReceipt)
    (visits : List Visit) : Prop where
  bounded : List.Forall₂ (fun receipt call => receipt.examined ≤ call.limit) receipts calls
  examined : visits.length = (receipts.map (·.examined)).sum
  inOrder : ∃ rounds, visits.map (fun visit => (visit.bucket, visit.actionRound)) <+:
    tour S3Bucket.id nextRound items cursor.position rounds
  progress : items ≠ [] → visits.length = (calls.map (·.limit)).sum
  selects : ∀ bucket ∈ items, ∀ skipped, 0 < skipped ∨ cursor.afterBucketId = none →
    cursor.actionRound + skipped + (bucketActions bucket).length ≤ 2 ^ 64 →
    (skipped + (bucketActions bucket).length) * items.length ≤ visits.length →
    ∀ action ∈ bucketActions bucket, ∃ visit ∈ visits,
      visit.bucket = bucket ∧ visit.selected = some action ∧
      cursor.actionRound + skipped ≤ visit.actionRound ∧
      visit.actionRound < cursor.actionRound + skipped + (bucketActions bucket).length

theorem iterate_nextRound {first n : Nat} (h : first + n < 2 ^ 64) :
    nextRound^[n] first = first + n := by
  induction n with
  | zero => rfl
  | succ n ih =>
      rw [Function.iterate_succ_apply', ih (by omega), nextRound, Nat.mod_eq_of_lt (by omega)]
      rfl

theorem length_tour (items : List S3Bucket) (p : Position BucketId Nat) (n : Nat) :
    (tour S3Bucket.id nextRound items p n).length =
      (pending S3Bucket.id items p.after).length + n * items.length := by
  simp [tour, List.length_flatMap]

/-- A round that the walk is through has visited every bucket. -/
theorem mem_visits_of_round {items : List S3Bucket} (hsorted : items.Pairwise (·.id < ·.id))
    {p q : Position BucketId Nat} {visits : List (S3Bucket × Nat)}
    (hwalk : BucketWalk items p visits q) {bucket : S3Bucket} (hmem : bucket ∈ items) {n : Nat}
    (hfirst : 0 < n ∨ p.after = none) (hlength : (n + 1) * items.length ≤ visits.length) :
    (bucket, nextRound^[n] p.round) ∈ visits := by
  obtain ⟨m, hm⟩ := hwalk.initial_tour hsorted
  have hpending : (pending S3Bucket.id items p.after).length ≤ items.length :=
    List.length_filter_le _ _
  have hinitial : tour S3Bucket.id nextRound items p n <+: visits := by
    apply List.prefix_of_prefix_length_le (tour_initial (Nat.le_max_left n m))
      (hm.trans (tour_initial (Nat.le_max_right n m)))
    rw [length_tour]
    rw [Nat.succ_mul] at hlength
    omega
  apply hinitial.subset
  unfold tour
  cases n with
  | zero =>
      have hnone := hfirst.resolve_left (Nat.lt_irrefl 0)
      apply List.mem_append_left
      rw [hnone, pending_none]
      exact List.mem_map_of_mem hmem
  | succ n =>
      apply List.mem_append_right
      exact List.mem_flatMap.2 ⟨n, by simp, List.mem_map_of_mem hmem⟩

/-- Batches that walk on without an error scan fairly. -/
theorem fairScan_of_walk {items : List S3Bucket} (hsorted : items.Pairwise (·.id < ·.id))
    {cursor : S3LifecycleBatchCursor} {calls : List BatchCall}
    {receipts : List S3LifecycleBatchReceipt} {visits : List (S3Bucket × Nat)}
    {q : Position BucketId Nat} (hwalk : BucketWalk items cursor.position visits q)
    (hbounded : List.Forall₂ (fun receipt call => receipt.examined ≤ call.limit) receipts calls)
    (hexamined : visits.length = (receipts.map (·.examined)).sum)
    (hprogress : items ≠ [] → visits.length = (calls.map (·.limit)).sum) :
    FairScan items cursor calls receipts (visits.map visitOf) where
  bounded := hbounded
  examined := by rw [List.length_map, hexamined]
  inOrder := by
    have hmap : (visits.map visitOf).map (fun visit => (visit.bucket, visit.actionRound)) =
        visits := by
      rw [List.map_map]
      exact List.map_id _
    rw [hmap]
    exact hwalk.initial_tour hsorted
  progress h := by rw [List.length_map, hprogress h]
  selects := by
    intro bucket hmem skipped hfirst hlast hlength action haction
    obtain ⟨i, hi, hselected⟩ :=
      exists_round_selecting haction (cursor.actionRound + skipped)
    rw [List.length_map] at hlength
    have hvisited : (bucket, nextRound^[skipped + i] cursor.actionRound) ∈ visits := by
      apply mem_visits_of_round hsorted hwalk hmem
      · exact hfirst.imp_left fun h => by omega
      · exact (Nat.mul_le_mul_right _ (by omega)).trans hlength
    rw [iterate_nextRound (by omega), ← Nat.add_assoc] at hvisited
    exact ⟨_, List.mem_map_of_mem hvisited, rfl, hselected, by simp [visitOf], by
      simp only [visitOf]
      omega⟩

/-- The repository lists the buckets and serves each of them. -/
structure Serves {σ : Type} (repository : S3LifecycleRepository σ) (Holds : σ → Prop)
    (items : List S3Bucket) : Prop where
  lists : ListsBuckets repository Holds items
  scans : ∀ bucket ∈ items, AnswersScans repository Holds bucket
  executions : ∀ bucket ∈ items, AnswersExecutions repository Holds bucket

variable {σ : Type} {repository : S3LifecycleRepository σ} {Holds : σ → Prop}
  {items : List S3Bucket}

theorem Serves.contract (h : Serves repository Holds items) (now : Time)
    (newVersionId : Nat → ObjectVersionId) :
    Contract repository now newVersionId items (fun _ => Holds) (UnitInRange now) where
  sorted := h.lists.sorted
  page := h.lists.page
  pass := fun hs hmem hrange =>
    have hserved := examineBucket_served (h.scans _ hmem) (h.executions _ hmem) now newVersionId hs
    ⟨hserved.2.1 hrange, hserved.1.holds⟩
  stop := fun hs hmem hrange =>
    have hserved := examineBucket_served (h.scans _ hmem) (h.executions _ hmem) now newVersionId hs
    ⟨hserved.2.2 hrange, hserved.1.holds⟩
  forget := id

/-- A valid batch either uses its room or stops at a work unit with a cutoff out of range. -/
theorem runCall_cases (h : Serves repository Holds items) {call : BatchCall}
    (hvalid : call.Valid) (cursor : S3LifecycleBatchCursor) {s : σ} (hs : Holds s) :
    ∃ run visits, runCall repository call cursor s = some run ∧
      run.visits = visits.map visitOf ∧ visits.length ≤ call.limit ∧ Holds run.repository ∧
      ((∃ receipt, run.result = .ok receipt ∧ receipt.examined = visits.length ∧
        BucketWalk items cursor.position visits receipt.nextCursor.position ∧
        AllPass (UnitInRange call.now) visits ∧ (items ≠ [] → visits.length = call.limit)) ∨
      (∃ error p, run.result = .error error ∧ BucketWalk items cursor.position visits p ∧
        StoppedAtLast (UnitInRange call.now) visits)) := by
  obtain ⟨run, visits, hrun, hruns⟩ :=
    runBatch_spec (h.contract call.now call.newVersionId) hvalid.1 hvalid.2 cursor hs
  refine ⟨run, visits, hrun, hruns.logged, by simpa using hruns.room, hruns.holds, ?_⟩
  refine hruns.outcome.imp_left ?_
  rintro ⟨receipt, hok, hexamined, hwalk, hall, hend⟩
  have hcount : receipt.examined = visits.length := by simpa using hexamined
  exact ⟨receipt, hok, hcount, hwalk, hall, fun hitems =>
    hcount ▸ hend.resolve_right hitems⟩

theorem dueTimes_cons (call : BatchCall) (calls : List BatchCall) :
    dueTimes (call :: calls) = List.replicate call.limit call.now ++ dueTimes calls := rfl

theorem length_dueTimes (calls : List BatchCall) :
    (dueTimes calls).length = (calls.map (·.limit)).sum := by
  simp [dueTimes, List.length_flatMap]

theorem zip_replicate (now : Time) (visits : List (S3Bucket × Nat)) :
    (List.replicate visits.length now).zip visits = visits.map (now, ·) := by
  induction visits with
  | nil => rfl
  | cons visit rest ih => simp [List.replicate_succ, ih]

theorem zip_dueTimes_cons {call : BatchCall} (calls : List BatchCall)
    {first : List (S3Bucket × Nat)} (hlength : first.length = call.limit)
    (second : List (S3Bucket × Nat)) :
    (dueTimes (call :: calls)).zip (first ++ second) =
      first.map (call.now, ·) ++ (dueTimes calls).zip second := by
  rw [dueTimes_cons, List.zip_append (by simp [hlength]), ← hlength, zip_replicate]

/-- Batches that all end well have walked on from the cursor. -/
theorem chainBatches_walk (h : Serves repository Holds items) {calls : List BatchCall}
    (hvalid : ∀ call ∈ calls, call.Valid) {cursor : S3LifecycleBatchCursor} {s : σ}
    (hs : Holds s) {receipts : List S3LifecycleBatchReceipt} {logged : List Visit}
    (hchain : chainBatches repository calls cursor s = some (receipts, logged)) :
    ∃ visits q, logged = visits.map visitOf ∧ BucketWalk items cursor.position visits q ∧
      List.Forall₂ (fun receipt call => receipt.examined ≤ call.limit) receipts calls ∧
      visits.length = (receipts.map (·.examined)).sum ∧
      (items ≠ [] → visits.length = (calls.map (·.limit)).sum) ∧
      ∀ unit ∈ (dueTimes calls).zip visits, UnitInRange unit.1 unit.2.1 unit.2.2 := by
  induction calls generalizing cursor s receipts logged with
  | nil =>
      cases hchain
      exact ⟨[], _, rfl, .stay _, .nil, rfl, fun _ => rfl, fun unit hunit => by simp at hunit⟩
  | cons call calls ih =>
      obtain ⟨run, first, hrun, hlogged, hroom, hs', hcases⟩ :=
        runCall_cases h (hvalid call List.mem_cons_self) cursor hs
      obtain ⟨result, s', firstLogged⟩ := run
      rw [chainBatches, hrun] at hchain
      rcases hcases with ⟨receipt, hok, hexamined, hwalk, hall, hfull⟩ | ⟨error, p, herror, _⟩
      · subst hok
        dsimp only at hchain hlogged hs'
        cases hlater : chainBatches repository calls receipt.nextCursor s' with
        | none => simp [hlater] at hchain
        | some later =>
            obtain ⟨later, laterLogged⟩ := later
            simp only [hlater, Option.map_some, Option.some.injEq, Prod.mk.injEq] at hchain
            obtain ⟨rfl, rfl⟩ := hchain
            obtain ⟨second, q, rfl, hwalk', hbounded, hsum, hprogress, hrange⟩ :=
              ih (fun c hc => hvalid c (List.mem_cons_of_mem _ hc)) hs' hlater
            refine ⟨first ++ second, q, by rw [hlogged, List.map_append], hwalk.trans hwalk',
              .cons (hexamined ▸ hroom) hbounded, ?_, ?_, ?_⟩
            · simp [hexamined, hsum]
            · intro hitems
              simp [hfull hitems, hprogress hitems]
            · by_cases hitems : items = []
              · subst hitems
                intro unit hunit
                rw [hwalk.eq_nil, hwalk'.eq_nil] at hunit
                simp at hunit
              · rw [zip_dueTimes_cons calls (hfull hitems)]
                intro unit hunit
                rcases List.mem_append.1 hunit with hunit | hunit
                · obtain ⟨visit, hvisit, rfl⟩ := List.mem_map.1 hunit
                  exact hall visit hvisit
                · exact hrange unit hunit
      · subst herror
        cases hchain

/-- Batches whose work units need no cutoff out of range all end well. -/
theorem exists_chainBatches (h : Serves repository Holds items) {calls : List BatchCall}
    (hvalid : ∀ call ∈ calls, call.Valid) {cursor : S3LifecycleBatchCursor} {s : σ}
    (hs : Holds s) (hrange : CutoffsInRange items cursor calls) :
    ∃ receipts logged, chainBatches repository calls cursor s = some (receipts, logged) := by
  induction calls generalizing cursor s with
  | nil => exact ⟨[], [], rfl⟩
  | cons call calls ih =>
      obtain ⟨run, first, hrun, hlogged, hroom, hs', hcases⟩ :=
        runCall_cases h (hvalid call List.mem_cons_self) cursor hs
      obtain ⟨result, s', firstLogged⟩ := run
      rcases hcases with ⟨receipt, hok, hexamined, hwalk, hall, hfull⟩ |
        ⟨error, p, herror, hwalk, before, last, rfl, _, hlast⟩
      · dsimp only at hok hs'
        subst hok
        have hrange' : CutoffsInRange items receipt.nextCursor calls := by
          intro visits p hwalk' unit hunit
          by_cases hitems : items = []
          · subst hitems
            rw [hwalk'.eq_nil] at hunit
            simp at hunit
          · apply hrange _ _ (hwalk.trans hwalk')
            rw [zip_dueTimes_cons calls (hfull hitems)]
            exact List.mem_append_right _ hunit
        obtain ⟨receipts, logged, hchain⟩ :=
          ih (fun c hc => hvalid c (List.mem_cons_of_mem _ hc)) hs' hrange'
        exact ⟨_, _, by rw [chainBatches, hrun]; dsimp only; rw [hchain]; rfl⟩
      · refine absurd (hrange _ _ hwalk (call.now, last) ?_) hlast
        rw [List.length_append, List.length_singleton] at hroom
        rw [dueTimes_cons]
        refine List.mem_iff_getElem.2 ⟨before.length, ?_, ?_⟩
        · simp
          omega
        · rw [List.getElem_zip]
          simp [List.getElem_append_left, show before.length < call.limit by omega]

theorem inRange_of_initial {calls : List BatchCall} {first second : List (S3Bucket × Nat)}
    (hinitial : first <+: second)
    (h : ∀ unit ∈ (dueTimes calls).zip second, UnitInRange unit.1 unit.2.1 unit.2.2) :
    ∀ unit ∈ (dueTimes calls).zip first, UnitInRange unit.1 unit.2.1 unit.2.2 := by
  intro unit hunit
  apply h
  obtain ⟨rest, rfl⟩ := hinitial
  obtain ⟨i, hi, rfl⟩ := List.mem_iff_getElem.1 hunit
  rw [List.length_zip] at hi
  refine List.mem_iff_getElem.2 ⟨i, by simp; omega, ?_⟩
  rw [List.getElem_zip, List.getElem_zip, List.getElem_append_left (by omega)]

/-- Batches in a row scan fairly just when no work unit needs a cutoff out of range. -/
theorem fairScan_iff (h : Serves repository Holds items) {calls : List BatchCall}
    (hvalid : ∀ call ∈ calls, call.Valid) (cursor : S3LifecycleBatchCursor) {s : σ}
    (hs : Holds s) :
    (∃ receipts visits, chainBatches repository calls cursor s = some (receipts, visits) ∧
      FairScan items cursor calls receipts visits) ↔ CutoffsInRange items cursor calls := by
  constructor
  · rintro ⟨receipts, logged, hchain, -⟩ visits' q' hwalk'
    obtain ⟨visits, q, -, hwalk, -, -, hprogress, hrange⟩ :=
      chainBatches_walk h hvalid hs hchain
    by_cases hitems : items = []
    · subst hitems
      rw [hwalk'.eq_nil]
      simp
    · rcases hwalk'.prefix_or h.lists.sorted hwalk with hinitial | ⟨rest, rfl⟩
      · exact inRange_of_initial hinitial hrange
      · intro unit hunit
        apply hrange
        have hlength : (dueTimes calls).length = visits.length := by
          rw [length_dueTimes, hprogress hitems]
        rwa [← List.append_nil (dueTimes calls), List.zip_append hlength, List.zip_nil_left,
          List.append_nil] at hunit
  · intro hrange
    obtain ⟨receipts, logged, hchain⟩ := exists_chainBatches h hvalid hs hrange
    obtain ⟨visits, q, rfl, hwalk, hbounded, hexamined, hprogress, -⟩ :=
      chainBatches_walk h hvalid hs hchain
    exact ⟨receipts, _, hchain,
      fairScan_of_walk h.lists.sorted hwalk hbounded hexamined hprogress⟩

theorem bare_serves (buckets : Table S3Bucket) :
    Serves postgres (· = bareDatabase buckets) (lifecycleBuckets (bareDatabase buckets)) where
  lists := bare_listsBuckets buckets
  scans := fun bucket _ => postgres_answersScans bucket
  executions := fun bucket _ => bare_answersExecutions buckets bucket

/-- It is enough that every action of every bucket has its cutoff in range at every batch. -/
theorem cutoffsInRange_of_actions {items : List S3Bucket} {calls : List BatchCall}
    (h : ∀ call ∈ calls, ∀ bucket ∈ items, ∀ action ∈ bucketActions bucket,
      actionInRange call.now action) (cursor : S3LifecycleBatchCursor) :
    CutoffsInRange items cursor calls := by
  rintro visits q hwalk ⟨now, bucket, actionRound⟩ hunit selected hselected
  obtain ⟨htime, hvisit⟩ := List.of_mem_zip hunit
  obtain ⟨call, hcall, hnow⟩ := List.mem_flatMap.1 htime
  obtain rfl := List.eq_of_mem_replicate hnow
  exact h call hcall bucket (hwalk.round_of_mem hvisit).1 selected
    (mem_bucketActions_of_selectedOf hselected)

/-- A batch on a day of 2023. -/
def sampleCall : BatchCall where
  now := Time.seconds 1700000000
  limit := 100
  newVersionId := fun n => 40 + n

def shortCall : BatchCall := { sampleCall with limit := 3 }

/-- A rule with two actions. -/
def busyRule : S3LifecycleRule := { abortRule 7 with noncurrentDays := some 7 }

theorem validLifecycleRules_busy : validLifecycleRules [busyRule] := by decide

def busyBuckets : Table S3Bucket where
  rows := [bucketWithRules 1 "first" [busyRule] validLifecycleRules_busy,
    bucketWithRules 2 "second" [busyRule] validLifecycleRules_busy]
  nodup := by decide

/-- The second batch goes on where the first one stopped, in the second of three rounds. -/
theorem fairScan_iff_busyBuckets :
    ∃ receipts visits,
      chainBatches postgres [shortCall, shortCall] default (bareDatabase busyBuckets) =
        some (receipts, visits) ∧
      FairScan (lifecycleBuckets (bareDatabase busyBuckets)) default [shortCall, shortCall]
        receipts visits ∧
      receipts.map (·.examined) = [3, 3] ∧
      visits.map (fun visit => (visit.bucket.id, visit.actionRound)) =
        [(1, 0), (2, 0), (1, 1), (2, 1), (1, 2), (2, 2)] := by
  have hcall : ∀ call ∈ [shortCall, shortCall], call = shortCall := by simp
  have hvalid : ∀ call ∈ [shortCall, shortCall], call.Valid := by
    intro call hmem
    rw [hcall call hmem]
    exact ⟨by decide, by decide⟩
  have hrange : ∀ call ∈ [shortCall, shortCall],
      ∀ bucket ∈ lifecycleBuckets (bareDatabase busyBuckets), ∀ action ∈ bucketActions bucket,
        actionInRange call.now action := by
    intro call hmem
    rw [hcall call hmem]
    decide +kernel
  obtain ⟨receipts, visits, hchain, hfair⟩ := (fairScan_iff (bare_serves busyBuckets) hvalid
    default rfl).2 (cutoffsInRange_of_actions hrange _)
  have hrun : (chainBatches postgres [shortCall, shortCall] default
      (bareDatabase busyBuckets)).map (fun run => (run.1.map (·.examined),
        run.2.map fun visit => (visit.bucket.id, visit.actionRound))) =
      some ([3, 3], [(1, 0), (2, 0), (1, 1), (2, 1), (1, 2), (2, 2)]) := by decide +kernel
  rw [hchain, Option.map_some, Option.some_inj, Prod.mk.injEq] at hrun
  exact ⟨receipts, visits, hchain, hfair, hrun⟩

/-- A bucket whose rule counts five million days ends the batch, although no execution fails. -/
theorem not_fairScan_far :
    Serves postgres (· = bareDatabase (farAndNear 1 2 (by decide)))
      (lifecycleBuckets (bareDatabase (farAndNear 1 2 (by decide)))) ∧
    sampleCall.Valid ∧
    (runCall postgres sampleCall default (bareDatabase (farAndNear 1 2 (by decide)))).map
      (·.result) = some (.error (.invariant "S3 lifecycle cutoff overflow")) := by
  refine ⟨bare_serves _, ⟨by decide, by decide⟩, ?_⟩
  decide +kernel

end MediaHub.Service
