import MediaHub.Store.WebhookGrants

namespace MediaHub.Store.Webhook

open Relational Relational.Transaction
open MediaHub.Core Transition
open AsyncJobs (UuidText plainUuids)

structure RowsSound (db : Database) : Prop where
  drawn : ∀ row ∈ db.deliveries, row.historyId < db.nextHistoryId
  oneId : ∀ row ∈ db.deliveries, ∀ row' ∈ db.deliveries, row.historyId = row'.historyId → row = row'
  exclusive : ∀ row ∈ db.deliveries, row.deliveredAt = none ∨ row.deadLetteredAt = none

/-- A row is leased as the last grant on it says, until that grant is acknowledged. -/
inductive LeaseMatches (grants : List Grant) (row : WebhookDelivery) : Prop
  | unleased (token : row.leaseToken = none) (leasedUntil : row.leasedUntil = none)
      (acknowledged : ∀ grant ∈ latestGrant row.historyId grants, grant.acknowledged = true)
  | leased {grant : Grant} (latest : latestGrant row.historyId grants = some grant)
      (token : row.leaseToken = some grant.leaseToken)
      (leasedUntil : row.leasedUntil = some grant.leasedUntil)
      (standing : grant.acknowledged = false) (unfinished : isFinished row = false)

structure GrantsSound (history : History) : Prop where
  drawn : ∀ grant ∈ history.grants, grant.historyId < history.db.nextHistoryId
  issued : ∀ grant ∈ history.grants, grant.leaseToken ∈ history.issued
  oneToken : ∀ grant ∈ history.grants, ∀ grant' ∈ history.grants,
    grant.historyId = grant'.historyId → grant.leaseToken = grant'.leaseToken → grant = grant'
  superseded : ∀ grant ∈ history.grants, grant.acknowledged = true ∨
    grant.leasedUntil ≤ history.clock ∨
      latestGrant grant.historyId history.grants = some grant

structure Invariant (history : History) : Prop where
  rows : RowsSound history.db
  leases : ∀ row ∈ history.db.deliveries, LeaseMatches history.grants row
  grants : GrantsSound history

theorem Invariant.of_rows {history : History} (h : Invariant history) {db : Database}
    (hrows : ∀ row ∈ db.deliveries, row ∈ history.db.deliveries)
    (hnext : db.nextHistoryId = history.db.nextHistoryId) : Invariant { history with db } where
  rows :=
    { drawn := fun row hrow => hnext ▸ h.rows.drawn row (hrows row hrow)
      oneId := fun row hrow row' hrow' => h.rows.oneId row (hrows row hrow) row' (hrows row' hrow')
      exclusive := fun row hrow => h.rows.exclusive row (hrows row hrow) }
  leases row hrow := h.leases row (hrows row hrow)
  grants :=
    { h.grants with drawn := fun grant hgrant => hnext ▸ h.grants.drawn grant hgrant }

theorem Invariant.tick {history : History} (h : Invariant history) (now : Time) :
    Invariant { history with clock := Webhook.tick history.clock now } where
  rows := h.rows
  leases := h.leases
  grants :=
    { h.grants with
      superseded := by
        intro grant hgrant
        rcases h.grants.superseded grant hgrant with hdone | hexpired | hlatest
        · exact Or.inl hdone
        · exact Or.inr (Or.inl (Int.le_trans hexpired (Int.le_max_left _ _)))
        · exact Or.inr (Or.inr hlatest) }

theorem Invariant.insertDelivery {history : History} (h : Invariant history) (event : OutboxEvent)
    (endpoint : WebhookEndpoint) :
    Invariant { history with
      db := { history.db with
        deliveries := history.db.deliveries.insert
          (newDelivery event endpoint history.db.nextHistoryId)
        nextHistoryId := history.db.nextHistoryId + 1 } } where
  rows := by
    have hfresh : ∀ row ∈ history.db.deliveries, row.historyId ≠ history.db.nextHistoryId :=
      fun row hrow => Nat.ne_of_lt (h.rows.drawn row hrow)
    refine ⟨?_, ?_, ?_⟩
    · intro row hrow
      rcases Table.mem_or_eq_of_mem_insert hrow with rfl | hrow
      · exact Nat.lt_succ_self _
      · exact Nat.lt_succ_of_lt (h.rows.drawn row hrow)
    · intro row hrow row' hrow' hid
      rcases Table.mem_or_eq_of_mem_insert hrow with rfl | hrow <;>
        rcases Table.mem_or_eq_of_mem_insert hrow' with rfl | hrow'
      · rfl
      · exact absurd hid.symm (hfresh row' hrow')
      · exact absurd hid (hfresh row hrow)
      · exact h.rows.oneId row hrow row' hrow' hid
    · intro row hrow
      rcases Table.mem_or_eq_of_mem_insert hrow with rfl | hrow
      · exact Or.inl rfl
      · exact h.rows.exclusive row hrow
  leases := by
    intro row hrow
    rcases Table.mem_or_eq_of_mem_insert hrow with rfl | hrow
    · refine .unleased rfl rfl ?_
      intro grant hgrant
      have hid := historyId_of_latestGrant hgrant
      exact absurd hid (Nat.ne_of_lt (h.grants.drawn grant (mem_of_latestGrant hgrant)))
    · exact h.leases row hrow
  grants :=
    { h.grants with
      drawn := fun grant hgrant => Nat.lt_succ_of_lt (h.grants.drawn grant hgrant) }

theorem Invariant.materializeDeliveries {history : History} (h : Invariant history)
    {eventId : String} {db : Database} {u : Unit}
    (hrun : (materializeDeliveries eventId).run history.db = .ok (u, db)) :
    Invariant { history with db } := by
  simp only [Webhook.materializeDeliveries, run_bind_ok, run_query_ok] at hrun
  obtain ⟨event, _, ⟨_, rfl⟩, hrest⟩ := hrun
  cases event with
  | none =>
      simp only [run_pure_ok] at hrest
      exact hrest.2 ▸ h
  | some event =>
      simp only [run_bind_ok, run_query_ok] at hrest
      obtain ⟨endpoints, _, ⟨_, rfl⟩, hinserted⟩ := hrest
      let P : Database → Prop := fun db => Invariant { history with db }
      refine forEach_invariant (P := P) ?_ h hinserted
      intro endpoint _ db₁ db₂ hinv hinsert
      simp only [Webhook.insertDelivery, run_write_ok] at hinsert
      subst hinsert
      exact Invariant.insertDelivery hinv event endpoint

theorem Invariant.insertOutbox {history : History} (h : Invariant history) {event : OutboxEvent}
    {db : Database} {u : Unit} (hrun : (insertOutbox event).run history.db = .ok (u, db)) :
    Invariant { history with db } := by
  simp only [Webhook.insertOutbox, run_bind_ok, run_require_ok, run_write_ok] at hrun
  obtain ⟨_, _, ⟨_, rfl⟩, _, _, rfl, hmaterialized⟩ := hrun
  have hinv : Invariant { history with db := (eventRows.map (·.insert event)) history.db } :=
    h.of_rows (fun _ hrow => hrow) rfl
  exact hinv.materializeDeliveries hmaterialized

theorem RowsSound.updateWhere {db : Database} (h : RowsSound db) {p : WebhookDelivery → Bool}
    {f : Update WebhookDelivery} (hid : ∀ row, (f row).historyId = row.historyId)
    (hexclusive : ∀ row ∈ db.deliveries, p row = true →
      (f row).deliveredAt = none ∨ (f row).deadLetteredAt = none) :
    RowsSound (deliveryRows.map (·.updateWhere p f) db) := by
  have hsame : ∀ row, (if p row then f row else row).historyId = row.historyId := by
    intro row
    split
    · exact hid row
    · rfl
  refine ⟨?_, ?_, ?_⟩
  · intro row' hrow'
    obtain ⟨row, hrow, rfl⟩ := Table.mem_updateWhere.1 hrow'
    rw [hsame]
    exact h.drawn row hrow
  · intro row₁ hrow₁ row₂ hrow₂ hids
    obtain ⟨row, hrow, rfl⟩ := Table.mem_updateWhere.1 hrow₁
    obtain ⟨row', hrow', rfl⟩ := Table.mem_updateWhere.1 hrow₂
    rw [hsame, hsame] at hids
    rw [h.oneId row hrow row' hrow' hids]
  · intro row' hrow'
    obtain ⟨row, hrow, rfl⟩ := Table.mem_updateWhere.1 hrow'
    split
    · rename_i hp
      exact hexclusive row hrow hp
    · exact h.exclusive row hrow

/-- The last grant on a claimable delivery is acknowledged or has expired. -/
theorem LeaseMatches.over_of_claimable {grants : List Grant} {row : WebhookDelivery} {now : Time}
    (h : LeaseMatches grants row) (hclaimable : isClaimable now row = true) {grant : Grant}
    (hlatest : latestGrant row.historyId grants = some grant) :
    grant.acknowledged = true ∨ grant.leasedUntil ≤ now := by
  cases h with
  | unleased _ _ hdone => exact Or.inl (hdone grant hlatest)
  | leased hlatest' _ huntil _ _ =>
      cases hlatest.symm.trans hlatest'
      simp only [isClaimable, Bool.and_eq_true, huntil, Option.all_some, decide_eq_true_eq]
        at hclaimable
      exact Or.inr hclaimable.2

theorem Invariant.claim {history : History} (h : Invariant history) {now leaseUntil : Time}
    {limit : Nat} {leaseToken : String} (hfresh : leaseToken ∉ history.issued) :
    Invariant
      { db := deliveryRows.map (·.updateWhere
          (fun row => decide (row ∈ claimable (postgresTime now) limit history.db))
          (lease leaseToken (postgresTime leaseUntil) (postgresTime now))) history.db
        grants := (claimable (postgresTime now) limit history.db).map
          (⟨·.historyId, leaseToken, postgresTime leaseUntil, false⟩) ++ history.grants
        issued := leaseToken :: history.issued
        clock := Webhook.tick history.clock now } where
  rows := h.rows.updateWhere (fun _ => rfl) fun row hrow _ => h.rows.exclusive row hrow
  leases := by
    intro row' hrow'
    obtain ⟨row, hrow, rfl⟩ := Table.mem_updateWhere.1 hrow'
    by_cases hclaimed : row ∈ claimable (postgresTime now) limit history.db
    · have hunfinished := isFinished_of_isClaimable (of_mem_claimable hclaimed).2
      simp only [hclaimed, decide_true, if_true]
      have hlatest : latestGrant row.historyId
          ((claimable (postgresTime now) limit history.db).map
            (⟨·.historyId, leaseToken, postgresTime leaseUntil, false⟩) ++ history.grants) =
          some ⟨row.historyId, leaseToken, postgresTime leaseUntil, false⟩ := by
        rw [latestGrant_claimed]
        exact if_pos ⟨row, hclaimed, rfl⟩
      exact .leased hlatest rfl rfl rfl hunfinished
    · have hlatest : latestGrant row.historyId
          ((claimable (postgresTime now) limit history.db).map
            (⟨·.historyId, leaseToken, postgresTime leaseUntil, false⟩) ++ history.grants) =
          latestGrant row.historyId history.grants := by
        rw [latestGrant_claimed, if_neg]
        rintro ⟨other, hother, hid⟩
        have hsame := h.rows.oneId other (of_mem_claimable hother).1 row hrow hid
        exact hclaimed (hsame ▸ hother)
      simp only [hclaimed, decide_false, Bool.false_eq_true, if_false]
      cases h.leases row hrow with
      | unleased token leasedUntil hdone => exact .unleased token leasedUntil (hlatest ▸ hdone)
      | leased latest token leasedUntil standing unfinished =>
          exact .leased (hlatest.trans latest) token leasedUntil standing unfinished
  grants := by
    have hgrant : ∀ {grant : Grant}, grant ∈ (claimable (postgresTime now) limit history.db).map
        (⟨·.historyId, leaseToken, postgresTime leaseUntil, false⟩) ++ history.grants →
        (∃ row ∈ claimable (postgresTime now) limit history.db,
          grant = ⟨row.historyId, leaseToken, postgresTime leaseUntil, false⟩) ∨
        grant ∈ history.grants := by
      intro grant hgrant
      rcases List.mem_append.1 hgrant with hnew | hold
      · obtain ⟨row, hrow, rfl⟩ := List.mem_map.1 hnew
        exact Or.inl ⟨row, hrow, rfl⟩
      · exact Or.inr hold
    have hother : ∀ grant ∈ history.grants, grant.leaseToken ≠ leaseToken := by
      rintro grant hold rfl
      exact hfresh (h.grants.issued grant hold)
    refine ⟨?_, ?_, ?_, ?_⟩
    · intro grant hmem
      rcases hgrant hmem with ⟨row, hrow, rfl⟩ | hold
      · exact h.rows.drawn row (of_mem_claimable hrow).1
      · exact h.grants.drawn grant hold
    · intro grant hmem
      rcases hgrant hmem with ⟨row, _, rfl⟩ | hold
      · exact List.mem_cons_self
      · exact List.mem_cons_of_mem _ (h.grants.issued grant hold)
    · intro grant hmem grant' hmem' hid htoken
      rcases hgrant hmem with ⟨row, _, rfl⟩ | hold <;>
        rcases hgrant hmem' with ⟨row', _, rfl⟩ | hold'
      · exact congrArg (Grant.mk · leaseToken (postgresTime leaseUntil) false) hid
      · exact absurd htoken.symm (hother grant' hold')
      · exact absurd htoken (hother grant hold)
      · exact h.grants.oneToken grant hold grant' hold' hid htoken
    · intro grant hmem
      show _ ∨ _ ∨ latestGrant grant.historyId (_ ++ history.grants) = some grant
      rw [latestGrant_claimed]
      rcases hgrant hmem with ⟨row, hrow, rfl⟩ | hold
      · exact Or.inr (Or.inr (if_pos ⟨row, hrow, rfl⟩))
      · rcases h.grants.superseded grant hold with hdone | hexpired | hlatest
        · exact Or.inl hdone
        · exact Or.inr (Or.inl (Int.le_trans hexpired (Int.le_max_left _ _)))
        · split
          · rename_i hclaimed
            obtain ⟨row, hrow, hid⟩ := hclaimed
            obtain ⟨hmem, hclaimable⟩ := of_mem_claimable hrow
            rw [← hid] at hlatest
            rcases (h.leases row hmem).over_of_claimable hclaimable hlatest with hdone | hexpired
            · exact Or.inl hdone
            · exact Or.inr (Or.inl (Int.le_trans hexpired (Int.le_max_right _ _)))
          · exact Or.inr (Or.inr hlatest)

/-- The grants once the lease under a token has been given back. -/
theorem GrantsSound.acknowledge {history : History} (h : GrantsSound history) (historyId : Nat)
    (leaseToken : String) :
    GrantsSound { history with
      grants := Webhook.acknowledge historyId leaseToken history.grants } := by
  have hgrant : ∀ {grant : Grant},
      grant ∈ Webhook.acknowledge historyId leaseToken history.grants →
      ∃ old ∈ history.grants, grant.historyId = old.historyId ∧ grant.leaseToken = old.leaseToken ∧
        (if old.historyId = historyId ∧ old.leaseToken = leaseToken then
          { old with acknowledged := true } else old) = grant := by
    intro grant hmem
    obtain ⟨old, hold, rfl⟩ := List.mem_map.1 hmem
    refine ⟨old, hold, ?_, ?_, rfl⟩ <;> split <;> rfl
  refine ⟨?_, ?_, ?_, ?_⟩
  · intro grant hmem
    obtain ⟨old, hold, hid, _⟩ := hgrant hmem
    exact hid ▸ h.drawn old hold
  · intro grant hmem
    obtain ⟨old, hold, _, htoken, _⟩ := hgrant hmem
    exact htoken ▸ h.issued old hold
  · intro grant hmem grant' hmem' hids htokens
    obtain ⟨old, hold, hid, htoken, rfl⟩ := hgrant hmem
    obtain ⟨old', hold', hid', htoken', rfl⟩ := hgrant hmem'
    have hsame := h.oneToken old hold old' hold' ((hid.symm.trans hids).trans hid')
      ((htoken.symm.trans htokens).trans htoken')
    rw [hsame]
  · intro grant hmem
    obtain ⟨old, hold, hid, _, hnew⟩ := hgrant hmem
    show _ ∨ _ ∨ latestGrant grant.historyId (Webhook.acknowledge _ _ _) = some grant
    rw [hid, latestGrant_acknowledge]
    rcases h.superseded old hold with hdone | hexpired | hlatest
    · refine Or.inl ?_
      rw [← hnew]
      split
      · rfl
      · exact hdone
    · refine Or.inr (Or.inl ?_)
      rw [← hnew]
      split <;> exact hexpired
    · rw [hlatest]
      exact Or.inr (Or.inr (congrArg some hnew))

/-- The leases once the lease of one delivery is gone and its last grant acknowledged. -/
theorem leases_update {db : Database} {grants grants' : List Grant} {id : String × String}
    {row : WebhookDelivery} {f : Update WebhookDelivery}
    (h : ∀ row ∈ db.deliveries, LeaseMatches grants row) (hrows : RowsSound db)
    (hfind : db.deliveries.find? id = some row)
    (hid : (f row).historyId = row.historyId) (htoken : (f row).leaseToken = none)
    (huntil : (f row).leasedUntil = none)
    (hlatest : ∀ historyId, historyId ≠ row.historyId →
      latestGrant historyId grants' = latestGrant historyId grants)
    (hdone : ∀ grant ∈ latestGrant row.historyId grants', grant.acknowledged = true) :
    ∀ row' ∈ db.deliveries.update id f, LeaseMatches grants' row' := by
  intro row' hrow'
  have hrow := Table.mem_of_find? hfind
  rcases (Table.mem_update_of_mem hrow (Table.key_of_find? hfind)).1 hrow' with
    ⟨hkept, hne⟩ | rfl
  · have hsame := hlatest row'.historyId fun heq => hne (hrows.oneId row' hkept row hrow heq)
    cases h row' hkept with
    | unleased token leasedUntil hdone => exact .unleased token leasedUntil (hsame ▸ hdone)
    | leased latest token leasedUntil standing unfinished =>
        exact .leased (hsame.trans latest) token leasedUntil standing unfinished
  · exact .unleased htoken huntil (hid ▸ hdone)

/-- The row of a lease belongs to the last grant on its delivery, which is not acknowledged. -/
theorem LeaseMatches.of_holdsLease {grants : List Grant} {row : WebhookDelivery}
    {leaseToken : String} {now : Time} (h : LeaseMatches grants row)
    (hholds : holdsLease leaseToken now row = true) :
    ∃ grant, latestGrant row.historyId grants = some grant ∧ grant.leaseToken = leaseToken ∧
      grant.acknowledged = false ∧ now < grant.leasedUntil := by
  obtain ⟨htoken, leasedUntil, huntil, hlater⟩ := leaseToken_of_holdsLease hholds
  cases h with
  | unleased token => exact absurd (token.symm.trans htoken) (by simp)
  | leased latest token huntil' standing _ =>
      cases token.symm.trans htoken
      cases huntil'.symm.trans huntil
      exact ⟨_, latest, rfl, standing, hlater⟩

theorem Invariant.acknowledge {history : History} (h : Invariant history) {id : String × String}
    {row : WebhookDelivery} {leaseToken : String} {now : Time} {f : Update WebhookDelivery}
    {db : Database} (hfind : history.db.deliveries.find? id = some row)
    (hholds : holdsLease leaseToken now row = true)
    (hdb : db.deliveries = history.db.deliveries.update id f)
    (hnext : db.nextHistoryId = history.db.nextHistoryId)
    (hid : ∀ row, (f row).historyId = row.historyId)
    (hreleased : ∀ row, (f row).leaseToken = none ∧ (f row).leasedUntil = none)
    (hexclusive : ∀ row, isFinished row = false →
      (f row).deliveredAt = none ∨ (f row).deadLetteredAt = none) :
    Invariant { history with
      db
      grants := Webhook.acknowledge row.historyId leaseToken history.grants } where
  rows := by
    have hrow := Table.mem_of_find? hfind
    have hupdated : RowsSound (deliveryRows.map (·.updateWhere (fun row => Keyed.key row = id) f)
        history.db) := by
      refine h.rows.updateWhere hid fun other hother hkey => hexclusive other ?_
      have hsame : other = row := Table.eq_of_key hother hrow
        ((of_decide_eq_true hkey).trans (Table.key_of_find? hfind).symm)
      exact hsame ▸ isFinished_of_holdsLease hholds
    refine ⟨?_, ?_, ?_⟩
    · rw [hdb, hnext]
      exact hupdated.drawn
    · rw [hdb]
      exact hupdated.oneId
    · rw [hdb]
      exact hupdated.exclusive
  leases := by
    rw [hdb]
    obtain ⟨grant, hlatest, rfl, _, _⟩ :=
      (h.leases row (Table.mem_of_find? hfind)).of_holdsLease hholds
    refine leases_update h.leases h.rows hfind (hid row) (hreleased row).1 (hreleased row).2
      (fun historyId hne => latestGrant_acknowledge_ne hne) ?_
    rw [latestGrant_acknowledge, hlatest]
    simp [historyId_of_latestGrant hlatest]
  grants :=
    { h.grants.acknowledge row.historyId leaseToken with
      drawn := by
        rw [hnext]
        exact (h.grants.acknowledge row.historyId leaseToken).drawn }

/-- A finished delivery has no lease. -/
theorem LeaseMatches.unleased_of_isFinished {grants : List Grant} {row : WebhookDelivery}
    (h : LeaseMatches grants row) (hfinished : isFinished row = true) :
    ∀ grant ∈ latestGrant row.historyId grants, grant.acknowledged = true := by
  cases h with
  | unleased _ _ hdone => exact hdone
  | leased _ _ _ _ hunfinished => exact absurd (hfinished.symm.trans hunfinished) (by decide)

theorem Invariant.replay {history : History} (h : Invariant history) {id : String × String}
    {row : WebhookDelivery} (hfind : history.db.deliveries.find? id = some row)
    (hfinished : isFinished row = true) (replayedAt : Time) :
    Invariant { history with
      db := deliveryRows.map (·.update id (Webhook.replay replayedAt)) history.db } where
  rows := h.rows.updateWhere (fun _ => rfl) fun _ _ _ => Or.inl rfl
  leases := leases_update h.leases h.rows hfind rfl rfl rfl (fun _ _ => rfl)
    ((h.leases row (Table.mem_of_find? hfind)).unleased_of_isFinished hfinished)
  grants := { h.grants with }

section Run

variable [UuidText]

omit [UuidText] in
theorem Invariant.commit {α : Type} {history : History} (h : Invariant history)
    {tx : Transaction α}
    (hrun : ∀ a db, tx.run history.db = .ok (a, db) → Invariant { history with db }) :
    Invariant { history with db := tx.commit history.db } := by
  rcases tx.commit_cases history.db with ⟨a, hok⟩ | hsame
  · exact hrun a _ hok
  · rw [hsame]
    exact h

theorem Invariant.deliver {history : History} (h : Invariant history)
    {eventId endpointId leaseToken : String} {deliveredAt : Time} {responseStatus : Option Nat}
    {db : Database} (hrun : (markWebhookDeliveryDeliveredWithStatus eventId endpointId leaseToken
      deliveredAt responseStatus).run history.db = .ok (true, db)) :
    Invariant { history with
      db
      grants := acknowledged history.db eventId endpointId leaseToken history.grants } := by
  rcases run_markDelivered_ok hrun with ⟨hfalse, _⟩ |
    ⟨_, row, token, hfind, htoken, hholds, hdb, hnext⟩
  · cases hfalse
  · have hgrants : acknowledged history.db eventId endpointId leaseToken history.grants =
        Webhook.acknowledge row.historyId token history.grants := by
      simp [acknowledged, hfind, htoken]
    rw [hgrants]
    refine h.acknowledge hfind hholds hdb hnext (fun _ => rfl) (fun _ => ⟨rfl, rfl⟩) ?_
    intro row hunfinished
    simp only [isFinished, Bool.or_eq_false_iff, Option.isSome_eq_false_iff,
      Option.isNone_iff_eq_none] at hunfinished
    exact Or.inr hunfinished.2

theorem Invariant.fail {history : History} (h : Invariant history)
    {eventId endpointId leaseToken lastError : String} {failedAt retryAt : Time} {maxAttempts : Nat}
    {responseStatus : Option Nat} {done : WebhookDeliveryFailureDisposition} {db : Database}
    (hrun : (recordWebhookDeliveryFailureWithStatus eventId endpointId leaseToken failedAt retryAt
      maxAttempts responseStatus lastError).run history.db = .ok (some done, db)) :
    Invariant { history with
      db
      grants := acknowledged history.db eventId endpointId leaseToken history.grants } := by
  rcases run_recordFailure_ok hrun with ⟨hnone, _⟩ |
    ⟨_, _, row, token, hfind, htoken, hholds, rfl⟩
  · cases hnone
  · have hgrants : acknowledged history.db eventId endpointId leaseToken history.grants =
        Webhook.acknowledge row.historyId token history.grants := by
      simp [acknowledged, hfind, htoken]
    rw [hgrants]
    refine h.acknowledge hfind hholds rfl rfl (fun _ => rfl) (fun _ => ⟨rfl, rfl⟩) ?_
    intro row hunfinished
    simp only [isFinished, Bool.or_eq_false_iff, Option.isSome_eq_false_iff,
      Option.isNone_iff_eq_none] at hunfinished
    exact Or.inl hunfinished.1

theorem Invariant.step {history : History} (h : Invariant history) (event : Event) :
    Invariant (step history event) := by
  cases event with
  | materialize eventId => exact h.commit fun _ _ hrun => h.materializeDeliveries hrun
  | insertOutbox event => exact h.commit fun _ _ hrun => h.insertOutbox hrun
  | claim now leaseUntil limit leaseToken =>
      simp only [Webhook.step, Webhook.claim]
      split
      · exact h
      · rename_i hfresh
        split
        · rename_i hrun
          obtain ⟨_, rfl⟩ := run_claimWebhookDeliveries_ok hrun
          exact h.claim hfresh
        · exact h.tick now
  | deliver eventId endpointId leaseToken deliveredAt responseStatus =>
      simp only [Webhook.step]
      split
      · rename_i hrun
        exact (h.deliver hrun).tick deliveredAt
      · rename_i hrun
        rcases run_markDelivered_ok hrun with ⟨_, rfl⟩ | ⟨hfalse, _⟩
        · exact h.tick deliveredAt
        · cases hfalse
      · exact h.tick deliveredAt
  | fail eventId endpointId leaseToken failedAt retryAt maxAttempts responseStatus lastError =>
      simp only [Webhook.step]
      split
      · rename_i hrun
        exact (h.fail hrun).tick failedAt
      · rename_i hrun
        rcases run_recordFailure_ok hrun with ⟨_, rfl⟩ | ⟨hsome, _⟩
        · exact h.tick failedAt
        · cases hsome
      · exact h.tick failedAt
  | replay applicationId endpointId eventId replayedAt =>
      refine h.commit fun _ _ hrun => ?_
      rcases run_replay_ok hrun with ⟨_, rfl⟩ | ⟨_, row, hfind, hfinished, rfl⟩
      · exact h
      · exact h.replay hfind hfinished _
  | remove rows => exact h.of_rows (fun _ hrow => (Table.mem_deleteWhere.1 hrow).1) rfl
  | world events endpoints => exact h.of_rows (fun _ hrow => hrow) rfl

theorem invariant_of_reachable {history : History} (h : deliveries.Reachable history) :
    Invariant history := by
  refine h.invariant ?_ fun _ event hs => hs.step event
  rintro ⟨⟨events, endpoints, _, nextHistoryId⟩, _, _, clock⟩ ⟨rfl, rfl, rfl⟩
  have hnone : ∀ row : WebhookDelivery, ¬ row ∈ (∅ : Table WebhookDelivery) :=
    fun row => Table.not_mem_empty row
  exact ⟨⟨fun row hrow => absurd hrow (hnone row), fun row hrow => absurd hrow (hnone row),
    fun row hrow => absurd hrow (hnone row)⟩, fun row hrow => absurd hrow (hnone row),
    ⟨by simp, by simp, by simp, by simp⟩⟩

/-- The attempts of a delivery under a limit; one that may still fail is below it. -/
def WithinAttempts (limit : Nat) (row : WebhookDelivery) : Prop :=
  row.attempts = 0 ∨ (row.attempts ≤ limit ∧ (isFinished row = false → row.attempts < limit))

omit [UuidText] in
theorem RowStep.withinAttempts {id : String × String} {event : Event} {limit : Nat}
    {before after : Option WebhookDelivery} (h : RowStep id event before after)
    (hlimit : ∀ maxAttempts ∈ event.maxAttempts, maxAttempts ≤ limit)
    (hbefore : ∀ row ∈ before, WithinAttempts limit row) :
    ∀ row ∈ after, WithinAttempts limit row := by
  cases h with
  | kept => exact hbefore
  | created =>
      rintro _ ⟨⟩
      exact Or.inl rfl
  | removed => exact fun _ hrow => nomatch hrow
  | leased claimable =>
      rintro _ ⟨⟩
      rcases hbefore _ rfl with hzero | ⟨hle, hlt⟩
      · exact Or.inl hzero
      · exact Or.inr ⟨hle, hlt⟩
  | delivered holds =>
      rintro _ ⟨⟩
      rcases hbefore _ rfl with hzero | ⟨hle, _⟩
      · exact Or.inl hzero
      · exact Or.inr ⟨hle, fun hunfinished => absurd hunfinished (by simp [isFinished, deliver])⟩
  | @failed _ _ _ _ _ maxAttempts _ row hattempts holds =>
      rintro _ ⟨⟩
      have hmax : maxAttempts ≤ limit := hlimit maxAttempts rfl
      have hunfinished := isFinished_of_holdsLease holds
      have hroom : row.attempts + 1 ≤ limit := by
        rcases hbefore _ rfl with hzero | ⟨_, hlt⟩
        · omega
        · exact hlt hunfinished
      refine Or.inr ⟨hroom, fun hopen => ?_⟩
      show row.attempts + 1 < limit
      by_cases hdead : maxAttempts ≤ row.attempts + 1
      · simp [isFinished, recordFailure, hdead] at hopen
      · omega
  | replayed finished =>
      rintro _ ⟨⟩
      exact Or.inl rfl

theorem withinAttempts_run {limit : Nat} {history : History} {events : List Event}
    (h : ∀ row ∈ history.db.deliveries, WithinAttempts limit row)
    (hlimit : ∀ event ∈ events, ∀ maxAttempts ∈ event.maxAttempts, maxAttempts ≤ limit) :
    ∀ row ∈ (deliveries.run history events).db.deliveries, WithinAttempts limit row := by
  induction events generalizing history with
  | nil => exact h
  | cons event events ih =>
      refine ih ?_ fun later hlater => hlimit later (List.mem_cons_of_mem _ hlater)
      intro row hrow
      have hstep := rowStep_step history event (Keyed.key row)
      refine hstep.withinAttempts (hlimit event List.mem_cons_self) ?_ row (Table.find?_of_mem hrow)
      exact fun old hold => h old (Table.mem_of_find? hold)

omit [UuidText] in
theorem RowStep.of_isFinished {id : String × String} {event : Event} {row : WebhookDelivery}
    {after : Option WebhookDelivery} (h : RowStep id event (some row) after)
    (hfinished : isFinished row = true) :
    after = some row ∨ (after = none ∧ ∃ rows, event = .remove rows) ∨
      ∃ applicationId replayedAt, event = .replay applicationId id.2 id.1 replayedAt ∧
        ∃ row', after = some row' ∧ isFinished row' = false ∧ row'.attempts = 0 := by
  cases h with
  | kept => exact Or.inl rfl
  | removed => exact Or.inr (Or.inl ⟨rfl, _, rfl⟩)
  | leased claimable =>
      exact absurd (hfinished.symm.trans (isFinished_of_isClaimable claimable)) (by decide)
  | delivered holds | failed _ holds =>
      exact absurd (hfinished.symm.trans (isFinished_of_holdsLease holds)) (by decide)
  | replayed => exact Or.inr (Or.inr ⟨_, _, rfl, _, rfl, rfl, rfl⟩)

/-- A replay for the application of the endpoint starts a finished delivery anew. -/
theorem find?_step_replay {history : History} {id : String × String} {row : WebhookDelivery}
    (hfind : history.db.deliveries.find? id = some row) (hfinished : isFinished row = true)
    {applicationId : ApplicationId}
    (howner : (history.db.endpoints.find? id.2).any (·.applicationId = applicationId) = true)
    (replayedAt : Time) :
    (step history (.replay applicationId id.2 id.1 replayedAt)).db.deliveries.find? id =
      some (replay (postgresTime replayedAt) row) := by
  have hrun : (replayWebhookDelivery applicationId id.2 id.1 replayedAt).run history.db =
      .ok (true, deliveryRows.map (·.update id (replay (postgresTime replayedAt)))
        history.db) := by
    simp only [replayWebhookDelivery, run_bind_ok, run_query_ok, run_ite_ok, run_write_ok,
      run_pure_ok]
    refine ⟨some row, _, ⟨?_, rfl⟩, Or.inl ⟨rfl, (), _, rfl, trivial, rfl⟩⟩
    rw [if_pos howner]
    exact Option.filter_eq_some_iff.2 ⟨hfind, hfinished⟩
  have hafter : (step history (.replay applicationId id.2 id.1 replayedAt)).db =
      deliveryRows.map (·.update id (replay (postgresTime replayedAt))) history.db :=
    commit_of_ok hrun
  rw [hafter]
  change (history.db.deliveries.update id _).find? id = _
  rw [Table.find?_update_self, hfind]
  rfl

/-- The worker of this grant has not acknowledged the delivery, and its lease has not expired. -/
def Grant.StandsAt (grant : Grant) (now : Time) : Prop :=
  grant.acknowledged = false ∧ now < grant.leasedUntil

omit [UuidText] in
theorem Invariant.oneStanding {history : History} (h : Invariant history) {grant grant' : Grant}
    (hgrant : grant ∈ history.grants) (hgrant' : grant' ∈ history.grants)
    (hid : grant.historyId = grant'.historyId) (hstands : grant.StandsAt history.clock)
    (hstands' : grant'.StandsAt history.clock) : grant = grant' := by
  have hlatest : ∀ {grant : Grant}, grant ∈ history.grants → grant.StandsAt history.clock →
      latestGrant grant.historyId history.grants = some grant := by
    rintro grant hmem ⟨hopen, hlater⟩
    rcases h.grants.superseded grant hmem with hdone | hexpired | hlatest
    · exact absurd (hopen.symm.trans hdone) (by decide)
    · exact absurd hexpired (Int.not_le.2 hlater)
    · exact hlatest
  have hsame := hlatest hgrant hstands
  rw [hid, hlatest hgrant' hstands'] at hsame
  exact (Option.some.inj hsame).symm

/-- No lease on the delivery under this token is the last one, unacknowledged and unexpired. -/
def StaleAt (history : History) (id : String × String) (leaseToken : String) (now : Time) : Prop :=
  ∀ row ∈ history.db.deliveries.find? id, ∀ grant ∈ history.grants,
    grant.historyId = row.historyId → UuidText.canonical leaseToken = some grant.leaseToken →
      ¬ grant.StandsAt now ∨ latestGrant row.historyId history.grants ≠ some grant

theorem Invariant.not_staleAt {history : History} (h : Invariant history) {id : String × String}
    {row : WebhookDelivery} {leaseToken token : String} {now : Time}
    (hfind : history.db.deliveries.find? id = some row)
    (htoken : UuidText.canonical leaseToken = some token)
    (hholds : holdsLease token now row = true) : ¬ StaleAt history id leaseToken now := by
  obtain ⟨grant, hlatest, rfl, hopen, hlater⟩ :=
    (h.leases row (Table.mem_of_find? hfind)).of_holdsLease hholds
  intro hstale
  rcases hstale row hfind grant (mem_of_latestGrant hlatest) (historyId_of_latestGrant hlatest)
    htoken with hnot | hnot
  · exact hnot ⟨hopen, hlater⟩
  · exact hnot hlatest

theorem Invariant.deliver_of_stale {history : History} (h : Invariant history)
    {eventId endpointId leaseToken : String} {deliveredAt : Time}
    (hstale : StaleAt history (eventId, endpointId) leaseToken (postgresTime deliveredAt))
    (responseStatus : Option Nat) :
    (markWebhookDeliveryDeliveredWithStatus eventId endpointId leaseToken deliveredAt
      responseStatus).commit history.db = history.db := by
  rcases (markWebhookDeliveryDeliveredWithStatus eventId endpointId leaseToken deliveredAt
    responseStatus).commit_cases history.db with ⟨_, hrun⟩ | hsame
  · rcases run_markDelivered_ok hrun with ⟨_, hdb⟩ | ⟨_, row, token, hfind, htoken, hholds, _⟩
    · exact hdb
    · exact absurd hstale (h.not_staleAt hfind htoken hholds)
  · exact hsame

theorem Invariant.fail_of_stale {history : History} (h : Invariant history)
    {eventId endpointId leaseToken : String} {failedAt : Time}
    (hstale : StaleAt history (eventId, endpointId) leaseToken (postgresTime failedAt))
    (retryAt : Time) (maxAttempts : Nat) (responseStatus : Option Nat) (lastError : String) :
    (recordWebhookDeliveryFailureWithStatus eventId endpointId leaseToken failedAt retryAt
      maxAttempts responseStatus lastError).commit history.db = history.db := by
  rcases (recordWebhookDeliveryFailureWithStatus eventId endpointId leaseToken failedAt retryAt
    maxAttempts responseStatus lastError).commit_cases history.db with ⟨_, hrun⟩ | hsame
  · rcases run_recordFailure_ok hrun with ⟨_, hdb⟩ |
      ⟨_, _, row, token, hfind, htoken, hholds, _⟩
    · exact hdb
    · exact absurd hstale (h.not_staleAt hfind htoken hholds)
  · exact hsame

/-- Webhook deliveries, for any number of workers and any order of their calls. At the latest time
a worker has called at, one unacknowledged lease on a delivery is unexpired at most, and leases on
one delivery differ in their tokens; an acknowledgement under a stale or expired token changes
nothing; no delivery is both delivered and dead-lettered; a finished one stays as it is until it is
removed or replayed, with its attempts reset; and the attempts keep the limit of the workers. -/
theorem webhook_deliveries {history₀ : History} (hinit : deliveries.init history₀)
    (events : List Event) :
    let history := deliveries.run history₀ events
    (∀ grant ∈ history.grants, ∀ grant' ∈ history.grants, grant.historyId = grant'.historyId →
      (grant.StandsAt history.clock → grant'.StandsAt history.clock → grant = grant') ∧
      (grant.leaseToken = grant'.leaseToken → grant = grant')) ∧
    (∀ eventId endpointId leaseToken now,
      StaleAt history (eventId, endpointId) leaseToken (postgresTime now) →
      (∀ responseStatus, (markWebhookDeliveryDeliveredWithStatus eventId endpointId leaseToken now
        responseStatus).commit history.db = history.db) ∧
      ∀ retryAt maxAttempts responseStatus lastError, (recordWebhookDeliveryFailureWithStatus
        eventId endpointId leaseToken now retryAt maxAttempts responseStatus lastError).commit
          history.db = history.db) ∧
    (∀ row ∈ history.db.deliveries, row.deliveredAt = none ∨ row.deadLetteredAt = none) ∧
    (∀ id row, history.db.deliveries.find? id = some row → isFinished row = true →
      (∀ event,
        let after := (step history event).db.deliveries.find? id
        after = some row ∨ (after = none ∧ ∃ rows, event = .remove rows) ∨
          ∃ applicationId replayedAt, event = .replay applicationId id.2 id.1 replayedAt ∧
            ∃ row', after = some row' ∧ isFinished row' = false ∧ row'.attempts = 0) ∧
      ∀ applicationId replayedAt,
        (history.db.endpoints.find? id.2).any (·.applicationId = applicationId) = true →
        (step history (.replay applicationId id.2 id.1 replayedAt)).db.deliveries.find? id =
          some (replay (postgresTime replayedAt) row)) ∧
    ∀ limit, (∀ event ∈ events, ∀ maxAttempts ∈ event.maxAttempts, maxAttempts ≤ limit) →
      ∀ row ∈ history.db.deliveries, row.attempts ≤ limit := by
  intro history
  have hinv : Invariant history := invariant_of_reachable ⟨history₀, events, hinit, rfl⟩
  refine ⟨?_, ?_, hinv.rows.exclusive, ?_, ?_⟩
  · intro grant hgrant grant' hgrant' hid
    exact ⟨hinv.oneStanding hgrant hgrant' hid,
      hinv.grants.oneToken grant hgrant grant' hgrant' hid⟩
  · intro eventId endpointId leaseToken now hstale
    exact ⟨hinv.deliver_of_stale hstale, hinv.fail_of_stale hstale⟩
  · intro id row hfind hfinished
    constructor
    · intro event
      have hstep := rowStep_step history event id
      rw [hfind] at hstep
      exact hstep.of_isFinished hfinished
    · intro applicationId replayedAt howner
      exact find?_step_replay hfind hfinished howner replayedAt
  · intro limit hlimit row hrow
    have hnone : ∀ row ∈ history₀.db.deliveries, WithinAttempts limit row := by
      intro row hrow
      rw [hinit.1] at hrow
      exact absurd hrow (Table.not_mem_empty row)
    rcases withinAttempts_run hnone hlimit row hrow with hzero | ⟨hle, _⟩
    · exact hzero ▸ Nat.zero_le limit
    · exact hle

end Run

def sampleEvent : OutboxEvent where
  id := "event"
  applicationId := 1
  eventType := "media.uploaded"
  aggregateId := "media"
  payload := ""
  attempts := 0
  availableAt := 0
  leasedUntil := none
  leaseToken := none
  deliveredAt := none
  createdAt := 0

def sampleEndpoint : WebhookEndpoint where
  id := "endpoint"
  applicationId := 1
  url := ""
  secretCiphertext := ""
  secretKeyVersion := 1
  subscribedEvents := ["media.uploaded"]
  enabled := true

/-- The first lease lapses, the second worker fails for the last time, and the first one is late. -/
def lapsedRun : List Event :=
  [.world (Table.insert ∅ sampleEvent) (Table.insert ∅ sampleEndpoint), .materialize "event",
    .claim 0 5000 1 "first", .claim 5000 9000 1 "second",
    .fail "event" "endpoint" "second" 6000 7000 1 none "refused",
    .deliver "event" "endpoint" "first" 7000 none]

/-- The delivery was given up by the second worker, and a replay starts it anew. -/
theorem webhook_deliveries_lapsed :
    let history := (@deliveries plainUuids).run ⟨⟨∅, ∅, ∅, 0⟩, [], [], 0⟩ lapsedRun
    history.grants.length = 2 ∧
      (∀ row ∈ history.db.deliveries, row.deliveredAt = none ∨ row.deadLetteredAt = none) ∧
      ∃ row, history.db.deliveries.find? ("event", "endpoint") = some row ∧
        row.deadLetteredAt = some 6000 ∧ row.attempts = 1 ∧
        (@step plainUuids history (.replay 1 "endpoint" "event" 8000)).db.deliveries.find?
          ("event", "endpoint") = some (replay 8000 row) := by
  have hinit : (@deliveries plainUuids).init ⟨⟨∅, ∅, ∅, 0⟩, [], [], 0⟩ := ⟨rfl, rfl, rfl⟩
  obtain ⟨-, -, hexclusive, hfinished, -⟩ := @webhook_deliveries plainUuids _ hinit lapsedRun
  have hrow : ∃ row, ((@deliveries plainUuids).run ⟨⟨∅, ∅, ∅, 0⟩, [], [], 0⟩
      lapsedRun).db.deliveries.find? ("event", "endpoint") = some row ∧
      row.deadLetteredAt = some 6000 ∧ row.attempts = 1 ∧ isFinished row = true := by
    refine ⟨_, rfl, ?_⟩
    decide +kernel
  obtain ⟨row, hfind, hdead, hattempts, hdone⟩ := hrow
  exact ⟨by decide +kernel, hexclusive, row, hfind, hdead, hattempts,
    (hfinished _ row hfind hdone).2 1 8000 (by decide +kernel)⟩

end MediaHub.Store.Webhook
