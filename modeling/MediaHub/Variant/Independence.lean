import MediaHub.Variant.Generators

namespace MediaHub.Variant

open Relational Relational.Transaction
open Transition Transition.Method
open MediaHub.Core

section

variable [Sha256] [ImageProcessor]

/-- At this time the token no longer holds the lease on the variant. -/
def Obsolete (s : State) (variantId : VariantId) (leaseToken : Uuid) (now : Time) : Prop :=
  ∀ leasedUntil, currentLease variantId s.leases = some (leaseToken, leasedUntil) →
    leasedUntil ≤ postgresTime now

/-- The token neither completes nor fails the variant. -/
def Refused (variants : Variants) (variantId : VariantId) (leaseToken : Uuid) (now : Time) : Prop :=
  (∀ width height size found variants',
    (completeVariant variantId leaseToken width height size now).run variants =
      .ok (found, variants') → found = none ∧ variants' = variants) ∧
  ∀ summary result, (failVariant variantId leaseToken summary now).run variants ≠ .ok result

omit [Sha256] [ImageProcessor] in
theorem refused_of_leasedRow {variants : Variants} (h : Constrained variants)
    {variantId : VariantId} {leaseToken : Uuid} {now : Time}
    (hleased : leasedRow variants variantId leaseToken now = none) :
    Refused variants variantId leaseToken now := by
  constructor
  · intro width height size found variants' hrun
    obtain ⟨-, ⟨-, hfound, hsame⟩ | ⟨row, hrow, -⟩⟩ := run_completeVariant_ok.1 hrun
    · exact ⟨hfound, hsame⟩
    · rw [hleased] at hrow
      exact nomatch hrow
  · rintro summary ⟨u, variants'⟩ hrun
    obtain ⟨-, hsome, -⟩ := (run_failVariant_ok h).1 hrun
    rw [hleased] at hsome
    exact nomatch hsome

theorem Sound.refused {s : State} (h : Sound s) {variantId : VariantId} {leaseToken : Uuid}
    {now : Time} (hobsolete : Obsolete s variantId leaseToken now) :
    Refused s.world.variants variantId leaseToken now := by
  refine refused_of_leasedRow h.constrained ?_
  rw [leasedRow, Option.filter_eq_none_iff]
  intro row hfind howns
  obtain ⟨hrow, rfl⟩ := Table.find?_eq_some_iff.1 hfind
  simp only [ownsLease, Bool.and_eq_true, decide_eq_true_eq, Option.any_eq_true] at howns
  obtain ⟨⟨-, htoken⟩, leasedUntil, huntil, hlt⟩ := howns
  have hlease : currentLease row.id s.leases = some (leaseToken, leasedUntil) := by
    rw [h.leases row hrow, rowLease, htoken, huntil]
  have hle : leasedUntil ≤ postgresTime now := hobsolete leasedUntil hlease
  exact absurd hlt (not_lt_of_ge hle)

omit [Sha256] [ImageProcessor] in
theorem advance_leases (s : State) (leaseToken : Uuid)
    (step : Generator → World → Progress × World) :
    (advance s leaseToken step).leases = s.leases ∧
      (advance s leaseToken step).issued = s.issued := by
  unfold advance
  cases s.generators.find? leaseToken <;> exact ⟨rfl, rfl⟩

omit [Sha256] [ImageProcessor] in
theorem conclude_leases (s : State) (generator : Generator) (w : World) (found : Bool) :
    (conclude s generator w found).leases = s.leases ∨
      ∃ variantId, (conclude s generator w found).leases = .ended variantId :: s.leases := by
  cases found with
  | false => exact Or.inl rfl
  | true => exact Or.inr ⟨_, rfl⟩

/-- A step grants a fresh token, ends a lease, or leaves the leases as they are. -/
theorem leases_step {s : State} (h : Sound s) (event : Event) :
    (∀ id ∈ s.issued, id ∈ (step s event).issued) ∧
      ((step s event).leases = s.leases ∨
        (∃ variantId, (step s event).leases = .ended variantId :: s.leases) ∨
        ∃ variantId leaseToken leasedUntil, leaseToken ∉ s.issued ∧
          (step s event).leases = .granted variantId leaseToken leasedUntil :: s.leases) := by
  cases event with
  | claim job variantId leaseToken now currentTimestamp =>
      by_cases hfresh : s.Fresh variantId leaseToken
      · rw [step, if_pos hfresh]
        have hissued : ∀ id ∈ s.issued, id ∈ variantId :: leaseToken :: s.issued := fun _ hid =>
          List.mem_cons_of_mem _ (List.mem_cons_of_mem _ hid)
        unfold claimStep
        cases hrun : (claimVariant (newVariant job variantId now) leaseToken
            (now + Time.seconds defaultVariantLeaseSeconds) currentTimestamp).run
            s.world.variants with
        | error error =>
            simp only [claim, transact, hrun]
            exact ⟨hissued, Or.inl trivial⟩
        | ok result =>
            obtain ⟨granted, variants⟩ := result
            simp only [claim, transact, hrun]
            obtain ⟨-, ⟨-, -, -, -, rfl⟩ |
                ⟨row, -, ⟨-, -, rfl⟩ | ⟨-, -, -, rfl⟩ | ⟨-, -, -, rfl⟩⟩⟩ :=
              (run_claimVariant_ok h.constrained).1 hrun
            · exact ⟨hissued, Or.inr (Or.inr ⟨_, _, _, hfresh.2.1, rfl⟩)⟩
            · exact ⟨hissued, Or.inl rfl⟩
            · exact ⟨hissued, Or.inr (Or.inr ⟨_, _, _, hfresh.2.1, rfl⟩)⟩
            · exact ⟨hissued, Or.inl rfl⟩
      · rw [step, if_neg hfresh]
        exact ⟨fun _ => id, Or.inl rfl⟩
  | process leaseToken =>
      obtain ⟨hleases, hissued⟩ := advance_leases s leaseToken processStep
      exact ⟨fun _ hid => hissued.symm ▸ hid, Or.inl hleases⟩
  | putTemporary leaseToken delivery =>
      obtain ⟨hleases, hissued⟩ := advance_leases s leaseToken (putStep delivery)
      exact ⟨fun _ hid => hissued.symm ▸ hid, Or.inl hleases⟩
  | commitTemporary leaseToken delivery =>
      obtain ⟨hleases, hissued⟩ := advance_leases s leaseToken (commitStep delivery)
      exact ⟨fun _ hid => hissued.symm ▸ hid, Or.inl hleases⟩
  | complete leaseToken completedAt =>
      rw [step, completeStep]
      cases s.generators.find? leaseToken with
      | none => exact ⟨fun _ => id, Or.inl rfl⟩
      | some generator =>
          cases hprogress : generator.progress with
          | published image =>
              simp only [hprogress]
              refine ⟨fun _ => id, ?_⟩
              rcases conclude_leases s generator _ _ with hsame | hended
              · exact Or.inl hsame
              · exact Or.inr (Or.inl hended)
          | claimed | processed | staged | failing | finished =>
              simp only [hprogress]
              exact ⟨fun _ => id, Or.inl trivial⟩
  | recordFailure leaseToken failedAt =>
      rw [step, failStep]
      cases s.generators.find? leaseToken with
      | none => exact ⟨fun _ => id, Or.inl rfl⟩
      | some generator =>
          cases hprogress : generator.progress with
          | failing summary =>
              simp only [hprogress]
              refine ⟨fun _ => id, ?_⟩
              rcases conclude_leases s generator _ _ with hsame | hended
              · exact Or.inl hsame
              · exact Or.inr (Or.inl hended)
          | claimed | processed | staged | published | finished =>
              simp only [hprogress]
              exact ⟨fun _ => id, Or.inl trivial⟩
  | removeObject | deleteVariants => exact ⟨fun _ => id, Or.inl rfl⟩

theorem Obsolete.step {s : State} {variantId : VariantId} {leaseToken : Uuid} {now : Time}
    (h : Obsolete s variantId leaseToken now) (hs : Sound s) (hissued : leaseToken ∈ s.issued)
    (event : Event) : Obsolete (step s event) variantId leaseToken now := by
  intro leasedUntil hlease
  refine h leasedUntil ?_
  obtain ⟨-, hsame | ⟨ended, hended⟩ | ⟨granted, token, until', hfresh, hgranted⟩⟩ :=
    leases_step hs event
  · rwa [hsame] at hlease
  · rw [hended, currentLease] at hlease
    split at hlease
    · simp at hlease
    · exact hlease
  · rw [hgranted, currentLease] at hlease
    split at hlease
    · obtain ⟨rfl, rfl⟩ := Prod.mk.inj (Option.some.inj hlease)
      exact absurd hissued hfresh
    · exact hlease

/-- A token that no longer holds its lease never holds it again. -/
theorem Obsolete.run {s : State} {variantId : VariantId} {leaseToken : Uuid} {now : Time}
    (h : Obsolete s variantId leaseToken now) (hs : Sound s) (hissued : leaseToken ∈ s.issued)
    (events : List Event) : Obsolete (generations.run s events) variantId leaseToken now := by
  induction events generalizing s with
  | nil => exact h
  | cons event events ih =>
      exact ih (h.step hs hissued event) (hs.step event) ((leases_step hs event).1 _ hissued)

/-- No two of the requests are told apart by their contents or keys, but not by a SHA-256. -/
def CollisionFree (s : State) (job : Job) : Prop :=
  ∀ other ∈ s.requested,
    (other.variantCacheKey = job.variantCacheKey → other.cacheSource = job.cacheSource) ∧
    (VariantTransform.toAsciiLowercase other.request.mediaSha256.text =
        VariantTransform.toAsciiLowercase job.request.mediaSha256.text →
      other.request.sourceContent = job.request.sourceContent)

/-- No other generation holds a lease on this variant that is still running. -/
def Unopposed (s : State) (job : Job) (currentTimestamp : Time) : Prop :=
  ∀ row ∈ s.world.variants, row.mediaId = job.request.mediaId →
    row.transformKey = job.variantCacheKey → row.status = .generating →
    ∀ leasedUntil ∈ row.generationLeaseUntil, leasedUntil ≤ currentTimestamp

/-- The store answers when the ready variant is read. -/
def Readable (s : State) (job : Job) : Prop :=
  ∀ row ∈ s.world.variants, row.mediaId = job.request.mediaId →
    row.transformKey = job.variantCacheKey → row.status = .ready →
    s.world.objects (.stored row.storageKey) ≠ none

/-- The image is returned, and the one row of the variant is ready and has it stored. -/
def Generated (s : State) (job : Job) (image : ProcessedVariant) (variantId : VariantId)
    (leaseToken : Uuid) (clock : Readings) : Prop :=
  ∃ receipt w, (generate job variantId leaseToken clock).run s.world = (.ok receipt, w) ∧
    receipt.content = image.content ∧ receipt.variant.status = .ready ∧
    w.objects (.stored receipt.variant.storageKey) = some image.content ∧
    ∀ row, row ∈ w.variants ∧ row.mediaId = job.request.mediaId ∧
      row.transformKey = job.variantCacheKey ↔ row = receipt.variant

/-- Whatever happens, a token that is stale or expired completes and fails nothing. -/
def LeasesRespected (s : State) : Prop :=
  ∀ events variantId leaseToken now, leaseToken ∈ s.issued →
    Obsolete s variantId leaseToken now →
    Refused (generations.run s events).world.variants variantId leaseToken now

/-- The variants stored under the job's key are its own media's. -/
def OwnImage (s : State) (job : Job) : Prop :=
  ∀ row ∈ s.world.variants, row.storageKey = job.storageKey → row.mediaId = job.request.mediaId

theorem Sound.leasesRespected {s : State} (h : Sound s) : LeasesRespected s := by
  intro events variantId leaseToken now hissued hobsolete
  have hrun : Sound (generations.run s events) :=
    System.run_invariant (fun _ event hs => hs.step event) h events
  exact hrun.refused (hobsolete.run h hissued events)

/-- Jobs that share a key make the same image. -/
theorem CollisionFree.process_eq {s : State} {job other : Job} (h : CollisionFree s job)
    (hother : other ∈ s.requested) (hkey : other.variantCacheKey = job.variantCacheKey) :
    other.process = job.process ∧ other.storageKey = job.storageKey := by
  obtain ⟨hsource, hcontent⟩ := h other hother
  obtain ⟨hsha256, htransform, hversion⟩ := Job.cacheSource_inj (hsource hkey)
  refine ⟨?_, ?_⟩
  · rw [Job.process, Job.process, hversion, hcontent hsha256, htransform]
  · rw [Job.storageKey, Job.storageKey, hkey, htransform]

section Attempt

variable {s : State} {job : Job} {image : ProcessedVariant} {variantId leaseToken : Uuid}
  {clock : Readings}

omit [Sha256] [ImageProcessor] in
theorem claim_ends (now : Time) : now < now + Time.seconds defaultVariantLeaseSeconds :=
  Int.lt_add_of_pos_right now (by decide)

/-- A stored object under the job's key is the job's image. -/
theorem Sound.stored_image (h : Sound s) (hcollision : CollisionFree s job)
    (hprocess : job.process = .ok image) {format : VariantFormat} {content : Content}
    (hobject : s.world.objects (.stored (imagePath job.variantCacheKey format)) = some content) :
    content = image.content := by
  obtain ⟨other, hother, format', image', hkey, hprocess', rfl⟩ := h.stored _ content hobject
  rw [(hcollision.process_eq hother (imagePath_inj hkey).symm).1, hprocess] at hprocess'
  rw [Except.ok.inj hprocess']

theorem generated_of_lease (h : Sound s) (hcollision : CollisionFree s job)
    (hprocess : job.process = .ok image)
    (htime : postgresTime clock.completedAt <
      postgresTime (clock.now + Time.seconds defaultVariantLeaseSeconds))
    {variants : Variants} {variant : VariantRow}
    (hclaim : (claim job variantId leaseToken clock.now clock.currentTimestamp).run s.world =
      (.ok (.generate variant leaseToken), ⟨variants, s.world.objects⟩))
    (hvariant : variant ∈ variants) (hconstrained : Constrained variants)
    (hmedia : variant.mediaId = job.request.mediaId)
    (hkey : variant.transformKey = job.variantCacheKey)
    (hpath : ∃ format, variant.storageKey = imagePath job.variantCacheKey format)
    (hstatus : variant.status = .generating) (htoken : variant.generationToken = some leaseToken)
    (hlease : variant.generationLeaseUntil =
      some (postgresTime (clock.now + Time.seconds defaultVariantLeaseSeconds))) :
    Generated s job image variantId leaseToken clock := by
  obtain ⟨format, hpath⟩ := hpath
  have hleased : leasedRow variants variant.id leaseToken clock.completedAt = some variant := by
    rw [leasedRow, Option.filter_eq_some_iff]
    refine ⟨Table.find?_of_mem hvariant, ?_⟩
    simp only [ownsLease, hstatus, htoken, hlease, decide_true, Bool.true_and, Option.any_some,
      decide_eq_true_eq]
    exact htime
  obtain ⟨w, hrun, hvariants, hstored⟩ := @run_produce _ job image hprocess variant leaseToken clock
    ⟨variants, s.world.objects⟩ hleased fun content hobject => by
      have himage : s.world.objects (.stored (imagePath job.variantCacheKey format)) =
          some content := by
        rw [← hpath]
        exact hobject
      exact h.stored_image hcollision hprocess himage
  refine ⟨⟨complete image.width image.height image.content.length clock.completedAt variant,
    image.content, false⟩, w, ?_, rfl, rfl, hstored, ?_⟩
  · rw [generate, run_bind_of_ok hclaim]
    exact hrun
  · intro row
    have hmem : row ∈ w.variants ↔ (row ∈ variants ∧ row ≠ variant) ∨
        row = complete image.width image.height image.content.length clock.completedAt variant := by
      rw [hvariants]
      exact Table.mem_update_of_mem hvariant rfl
    rw [hmem]
    constructor
    · rintro ⟨⟨hold, hne⟩ | rfl, hmedia', hkey'⟩
      · exact absurd (hconstrained.variant row hold variant hvariant (hmedia'.trans hmedia.symm)
          (hkey'.trans hkey.symm)) hne
      · rfl
    · rintro rfl
      exact ⟨Or.inr rfl, hmedia, hkey⟩

/-- What the claim of a job without a rival answers, and what follows. -/
theorem generated_of_ownImage (h : Sound s) (hfresh : s.Fresh variantId leaseToken)
    (hcollision : CollisionFree s job) (hunopposed : Unopposed s job clock.currentTimestamp)
    (hreadable : Readable s job) (hprocess : job.process = .ok image)
    (htime : postgresTime clock.completedAt <
      postgresTime (clock.now + Time.seconds defaultVariantLeaseSeconds))
    (hown : OwnImage s job) : Generated s job image variantId leaseToken clock := by
  have hgranted : ∀ {granted variants},
      (claimVariant (newVariant job variantId clock.now) leaseToken
        (clock.now + Time.seconds defaultVariantLeaseSeconds) clock.currentTimestamp).run
        s.world.variants = .ok (granted, variants) →
      (claim job variantId leaseToken clock.now clock.currentTimestamp).run s.world =
        (.ok granted, ⟨variants, s.world.objects⟩) := by
    intro granted variants hrun
    simp only [claim, transact, hrun]
  have hclaim : ∀ granted variants, (claimVariant (newVariant job variantId clock.now) leaseToken
        (clock.now + Time.seconds defaultVariantLeaseSeconds) clock.currentTimestamp).run
        s.world.variants = .ok (granted, variants) ↔ _ :=
    fun granted variants => run_claimVariant_ok h.constrained
  have hpath : ∀ row ∈ s.world.variants,
      ∃ format, row.storageKey = imagePath row.transformKey format := by
    intro row hrow
    obtain ⟨other, -, hkey, hstorage⟩ := (h.rows row hrow).keys
    exact ⟨other.request.transform.format, by rw [hstorage, Job.storageKey, hkey]⟩
  cases hfind : s.world.variants.rows.find? (sameVariant (newVariant job variantId clock.now)) with
  | none =>
      have hnone : s.world.variants.find? variantId = none :=
        Table.find?_eq_none_iff.2 fun row hrow heq => hfresh.1 (heq ▸ h.ids row hrow)
      have hclash : ∀ row ∈ s.world.variants, row.storageKey ≠ job.storageKey := by
        intro row hrow heq
        obtain ⟨format, hformat⟩ := hpath row hrow
        have hkey : row.transformKey = job.variantCacheKey := imagePath_inj (hformat.symm.trans heq)
        exact List.find?_eq_none.1 hfind row hrow (sameVariant_iff.2 ⟨hown row hrow heq, hkey⟩)
      have hrun := (hclaim _ _).2 ⟨claim_ends clock.now,
        Or.inl ⟨hfind, hnone, hclash, rfl, rfl⟩⟩
      exact generated_of_lease h hcollision hprocess htime (hgranted hrun)
        ((Table.mem_insert hnone).2 (Or.inl rfl)) (h.constrained.claimVariant hrun) rfl rfl
        ⟨_, rfl⟩ rfl rfl rfl
  | some row =>
      have hrow : row ∈ s.world.variants := List.mem_of_find?_eq_some hfind
      obtain ⟨hmedia, hkey⟩ := sameVariant_iff.1 (List.find?_some hfind)
      obtain ⟨format, hformat⟩ := hpath row hrow
      rw [hkey] at hformat
      by_cases hready : row.status = .ready
      · have hrun := (hclaim _ _).2 ⟨claim_ends clock.now,
          Or.inr ⟨row, hfind, Or.inl ⟨hready, rfl, rfl⟩⟩⟩
        obtain ⟨content, hobject⟩ := Option.ne_none_iff_exists'.1
          (hreadable row hrow hmedia hkey hready)
        have hcontent : content = image.content := by
          rw [hformat] at hobject
          exact h.stored_image hcollision hprocess hobject
        subst hcontent
        refine ⟨⟨row, image.content, true⟩, s.world, ?_, rfl, hready, hobject, ?_⟩
        · rw [generate, run_bind_of_ok (hgranted hrun)]
          simp only [readImage, hobject]
        · intro other
          constructor
          · rintro ⟨hother, hmedia', hkey'⟩
            exact h.constrained.variant other hother row hrow (hmedia'.trans hmedia.symm)
              (hkey'.trans hkey.symm)
          · rintro rfl
            exact ⟨hrow, hmedia, hkey⟩
      · have hreclaimable : reclaimable clock.currentTimestamp row = true := by
          have hvalid := h.constrained.valid row hrow
          simp only [rowIsValid, Bool.and_eq_true, decide_eq_true_eq] at hvalid
          cases hstatus : row.status with
          | ready => exact absurd hstatus hready
          | failed => simp [reclaimable, hstatus]
          | deletePending => exact absurd hstatus (h.rows row hrow).status
          | generating =>
              have htoken : row.generationToken.isSome = true := by
                simpa [hstatus] using hvalid.1.2
              have hlease : row.generationLeaseUntil.isSome = true := by
                have hboth := hvalid.1.1.2
                rw [Option.isNone_eq_false_iff.2 htoken] at hboth
                exact Option.isNone_eq_false_iff.1 hboth.symm
              obtain ⟨leasedUntil, huntil⟩ := Option.isSome_iff_exists.1 hlease
              have hended := hunopposed row hrow hmedia hkey hstatus leasedUntil huntil
              simp only [reclaimable, hstatus, huntil, Option.any_some]
              simpa using hended
        have hrun := (hclaim _ _).2 ⟨claim_ends clock.now,
          Or.inr ⟨row, hfind, Or.inr (Or.inl ⟨hready, hreclaimable, rfl, rfl⟩)⟩⟩
        exact generated_of_lease h hcollision hprocess htime (hgranted hrun)
          ((Table.mem_update_of_mem hrow rfl).2 (Or.inr rfl)) (h.constrained.claimVariant hrun)
          hmedia hkey ⟨format, hformat⟩ rfl rfl rfl

/-- A generation is independent of other media exactly while none of them stores the same
image under the same key. -/
theorem reachable_generated_iff (hs : generations.Reachable s)
    (hfresh : s.Fresh variantId leaseToken)
    (hcollision : CollisionFree s job) (hunopposed : Unopposed s job clock.currentTimestamp)
    (hreadable : Readable s job) (hprocess : job.process = .ok image)
    (htime : postgresTime clock.completedAt <
      postgresTime (clock.now + Time.seconds defaultVariantLeaseSeconds)) :
    Generated s job image variantId leaseToken clock ∧ LeasesRespected s ↔ OwnImage s job := by
  have h := reachable_sound hs
  constructor
  · rintro ⟨⟨receipt, w, hrun, -⟩, -⟩ row hrow hstorage
    obtain ⟨other, hother, hkey, hpath⟩ := (h.rows row hrow).keys
    have hrowKey : row.transformKey = job.variantCacheKey := by
      rw [hkey]
      exact imagePath_inj (hpath.symm.trans hstorage)
    rw [generate, Method.run_bind_ok] at hrun
    obtain ⟨granted, w', hclaim, -⟩ := hrun
    have hclaimed : ∃ variants, (claimVariant (newVariant job variantId clock.now) leaseToken
        (clock.now + Time.seconds defaultVariantLeaseSeconds) clock.currentTimestamp).run
        s.world.variants = .ok (granted, variants) := by
      simp only [claim, transact] at hclaim
      split at hclaim
      · next granted' variants heq =>
          obtain ⟨hgranted, -⟩ := Prod.mk.inj hclaim
          rw [← Except.ok.inj hgranted]
          exact ⟨variants, heq⟩
      · cases (Prod.mk.inj hclaim).1
    obtain ⟨variants, hclaimed⟩ := hclaimed
    obtain ⟨-, ⟨-, -, hclash, -⟩ | ⟨held, hfind, -⟩⟩ :=
      (run_claimVariant_ok h.constrained).1 hclaimed
    · exact absurd hstorage (hclash row hrow)
    · have hheld : held ∈ s.world.variants := List.mem_of_find?_eq_some hfind
      obtain ⟨hmedia, hheldKey⟩ := sameVariant_iff.1 (List.find?_some hfind)
      obtain ⟨maker, hmaker, hmakerKey, hmakerPath⟩ := (h.rows held hheld).keys
      have hsame : maker.storageKey = job.storageKey :=
        (hcollision.process_eq hmaker (hmakerKey.symm.trans hheldKey)).2
      rw [h.constrained.storage row hrow held hheld
        (hstorage.trans (hsame.symm.trans hmakerPath.symm))]
      exact hmedia
  · intro hown
    exact ⟨generated_of_ownImage h hfresh hcollision hunopposed hreadable hprocess htime hown,
      h.leasesRespected⟩

end Attempt

end

/-- A digest that tells all texts apart. -/
@[reducible] def plainDigest : Sha256 := ⟨id⟩

/-- One pixel for every image. -/
def pixel : ProcessedVariant where
  content := [255]
  mime := "image/webp"
  format := .webp
  width := 1
  height := 1
  content_length := by decide

@[reducible] def pixels : ImageProcessor where
  process _ _ _ := .ok pixel
  process_sides h := by
    obtain rfl := Except.ok.inj h
    decide

/-- A media with the content of every other one. -/
def twinJob (mediaId : MediaId) : Job where
  request :=
    { mediaId
      mediaSha256 := ⟨List.replicate 64 '0', by simp [isAsciiHexdigit]⟩
      sourceContent := [0]
      transform := webpTransform }
  processorVersion := "image-v1".toList

def firstTwin : List Event :=
  [.claim (twinJob 1) 10 11 0 0, .process 11, .putTemporary 11 .done, .commitTemporary 11 .done,
    .complete 11 1000]

def twinState : State :=
  @System.run _ _ (@generations plainDigest pixels) ⟨⟨∅, fun _ => none⟩, ∅, [], [], []⟩ firstTwin

theorem reachable_twinState : (@generations plainDigest pixels).Reachable twinState :=
  ⟨_, firstTwin, rfl, rfl⟩

def laterReadings : Readings := ⟨2000, 2000, 2000, 3000⟩

theorem mediaId_of_mem_twinState : ∀ row ∈ twinState.world.variants, row.mediaId = 1 := by
  decide +kernel

theorem fresh_twinState : twinState.Fresh 20 21 := by decide +kernel

theorem requested_twinState : twinState.requested = [twinJob 1] := by decide +kernel

theorem collisionFree_twinState : @CollisionFree plainDigest twinState (twinJob 2) := by
  intro other hother
  rw [requested_twinState] at hother
  obtain rfl := List.mem_singleton.1 hother
  exact ⟨fun _ => rfl, fun _ => rfl⟩

theorem unopposed_twinState {job : Job} (h : job.request.mediaId = 2) :
    @Unopposed plainDigest twinState job 2000 := by
  intro row hrow hmedia
  rw [mediaId_of_mem_twinState row hrow, h] at hmedia
  exact absurd hmedia (by decide)

theorem readable_twinState {job : Job} (h : job.request.mediaId = 2) :
    @Readable plainDigest twinState job := by
  intro row hrow hmedia
  rw [mediaId_of_mem_twinState row hrow, h] at hmedia
  exact absurd hmedia (by decide)

/-- The same transform of another content. -/
def otherJob : Job where
  request :=
    { mediaId := 2
      mediaSha256 := ⟨List.replicate 64 '1', by simp [isAsciiHexdigit]⟩
      sourceContent := [1]
      transform := webpTransform }
  processorVersion := "image-v1".toList

theorem collisionFree_otherJob : @CollisionFree plainDigest twinState otherJob := by
  intro other hother
  rw [requested_twinState] at hother
  obtain rfl := List.mem_singleton.1 hother
  exact ⟨fun hkey => absurd hkey (by decide +kernel), fun hsha => absurd hsha (by decide +kernel)⟩

/-- A media with a content of its own gets its image, whatever was made for another one. -/
theorem reachable_generated_iff_otherJob :
    @Generated plainDigest pixels twinState otherJob pixel 20 21 laterReadings ∧
      @LeasesRespected plainDigest pixels twinState := by
  have hown : @OwnImage plainDigest twinState otherJob := by
    unfold OwnImage
    decide +kernel
  exact (@reachable_generated_iff plainDigest pixels twinState otherJob pixel 20 21 laterReadings
    reachable_twinState fresh_twinState collisionFree_otherJob (unopposed_twinState rfl)
    (readable_twinState rfl) rfl (by decide)).2 hown

/-- Another media's image under the same key keeps this one from ever having its own. -/
theorem not_generated_twinState :
    (@generations plainDigest pixels).Reachable twinState ∧ twinState.Fresh 20 21 ∧
      @CollisionFree plainDigest twinState (twinJob 2) ∧
      @Unopposed plainDigest twinState (twinJob 2) laterReadings.currentTimestamp ∧
      @Readable plainDigest twinState (twinJob 2) ∧
      @Job.process pixels (twinJob 2) = .ok pixel ∧
      postgresTime laterReadings.completedAt <
        postgresTime (laterReadings.now + Time.seconds defaultVariantLeaseSeconds) ∧
      ¬ @Generated plainDigest pixels twinState (twinJob 2) pixel 20 21 laterReadings := by
  refine ⟨reachable_twinState, fresh_twinState, collisionFree_twinState,
    unopposed_twinState rfl, readable_twinState rfl, rfl, by decide, ?_⟩
  rintro ⟨receipt, w, hrun, -⟩
  have hconflict : ((@generate plainDigest pixels (twinJob 2) 20 21 laterReadings).run
      twinState.world).1 = .error (.repository .conflict) := by
    decide +kernel
  rw [hrun] at hconflict
  exact nomatch hconflict

end MediaHub.Variant
