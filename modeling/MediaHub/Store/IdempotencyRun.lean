import MediaHub.Store.Idempotency

namespace MediaHub.Store.Idempotency

open Relational Relational.Transaction
open MediaHub.Core Transition

variable {W : Type}

/-- A key is claimed by an answer that says so, and by nothing else. -/
theorem KeyLife.next_eq_claimed {key : KeyId} {keyLife : KeyLife} {entry : Event W × Answer}
    {requestHash claimToken : String} {expiresAt : Time}
    (h : keyLife.next key entry = .claimed requestHash claimToken expiresAt) :
    keyLife = .claimed requestHash claimToken expiresAt ∨
      ∃ expiresAt' now drawn, entry =
        (.claim key requestHash expiresAt' now drawn, .claim (.claimed claimToken)) := by
  have hpurge : ∀ now, keyLife.purge now = .claimed requestHash claimToken expiresAt →
      keyLife = .claimed requestHash claimToken expiresAt := by
    intro now hpurged
    unfold KeyLife.purge at hpurged
    split at hpurged
    · cases hpurged
    · exact hpurged
  unfold KeyLife.next at h
  split at h
  · split at h
    · rename_i hkey
      cases hkey
      cases h
      exact Or.inr ⟨_, _, _, rfl⟩
    · exact Or.inl (hpurge _ h)
  · exact Or.inl (hpurge _ h)
  · split at h
    · cases keyLife <;> cases h
    · exact Or.inl h
  · split at h
    · cases h
    · exact Or.inl h
  · split at h
    · cases h
    · exact Or.inl h
  · exact Or.inl h

/-- The hash of a key comes from the claim that made it. -/
theorem KeyLife.requestHash_next {key : KeyId} {keyLife : KeyLife} {entry : Event W × Answer}
    {requestHash : String} (h : (keyLife.next key entry).requestHash = some requestHash) :
    keyLife.requestHash = some requestHash ∨ ∃ expiresAt now drawn claimToken,
      entry = (.claim key requestHash expiresAt now drawn, .claim (.claimed claimToken)) := by
  have hpurge : ∀ now, (keyLife.purge now).requestHash = some requestHash →
      keyLife.requestHash = some requestHash := by
    intro now hpurged
    unfold KeyLife.purge at hpurged
    split at hpurged
    · cases hpurged
    · exact hpurged
  unfold KeyLife.next at h
  split at h
  · split at h
    · rename_i hkey
      cases hkey
      cases h
      exact Or.inr ⟨_, _, _, _, rfl⟩
    · exact Or.inl (hpurge _ h)
  · exact Or.inl (hpurge _ h)
  · split at h
    · cases keyLife <;> exact Or.inl h
    · exact Or.inl h
  · split at h
    · cases h
    · exact Or.inl h
  · split at h
    · cases h
    · exact Or.inl h
  · exact Or.inl h

/-- An event counts as a commit of the key, begins a lifetime, or leaves the count alone. -/
theorem commitsInLifetime_cons (key : KeyId) (entry : Event W × Answer)
    (log : List (Event W × Answer)) :
    commitsInLifetime key (entry :: log) = 0 ∨
    ((∃ applicationId mismatch effect context response completedAt, context.key = key ∧
        entry = (.commit applicationId mismatch effect context response completedAt, .done)) ∧
      commitsInLifetime key (entry :: log) = commitsInLifetime key log + 1) ∨
    ((∀ requestHash expiresAt now drawn claimToken,
        entry ≠ (.claim key requestHash expiresAt now drawn, .claim (.claimed claimToken))) ∧
      commitsInLifetime key (entry :: log) = commitsInLifetime key log) := by
  rcases entry with ⟨event, answer⟩
  cases event with
  | claim key' requestHash expiresAt now drawn =>
      rcases answer with claim | _ | _
      · cases claim with
        | claimed claimToken =>
            by_cases hkey : key' = key
            · exact Or.inl (by simp [commitsInLifetime, hkey])
            · exact Or.inr (Or.inr ⟨by simp [hkey], by simp [commitsInLifetime, hkey]⟩)
        | inProgress | completed | conflict => exact Or.inr (Or.inr ⟨by simp, rfl⟩)
      · exact Or.inr (Or.inr ⟨by simp, rfl⟩)
      · exact Or.inr (Or.inr ⟨by simp, rfl⟩)
  | commit applicationId mismatch effect context response completedAt =>
      rcases answer with claim | _ | _
      · exact Or.inr (Or.inr ⟨by simp, rfl⟩)
      · by_cases hkey : context.key = key
        · exact Or.inr (Or.inl ⟨⟨_, _, _, _, _, _, hkey, rfl⟩, by simp [commitsInLifetime, hkey]⟩)
        · exact Or.inr (Or.inr ⟨by simp, by simp [commitsInLifetime, hkey]⟩)
      · exact Or.inr (Or.inr ⟨by simp, rfl⟩)
  | release | deleteApplication | world => exact Or.inr (Or.inr ⟨by simp, rfl⟩)

/-- An event that ends a claim leaves it standing only if it makes it anew. -/
theorem KeyLife.next_of_endsClaim {key : KeyId} {requestHash claimToken : String} {expiresAt : Time}
    {entry : Event W × Answer}
    (hends : EndsClaim ⟨key, requestHash, claimToken⟩ expiresAt entry)
    (hnext : (KeyLife.claimed requestHash claimToken expiresAt).next key entry =
      .claimed requestHash claimToken expiresAt) :
    ∃ expiresAt' now drawn, entry =
      (.claim key requestHash expiresAt' now drawn, .claim (.claimed claimToken)) := by
  have hpurge : ∀ now, expiresAt ≤ now →
      (KeyLife.claimed requestHash claimToken expiresAt).purge now = .absent := by
    intro now hle
    simp [KeyLife.purge, KeyLife.expiresAt, hle]
  unfold EndsClaim at hends
  split at hends
  · subst hends
    simp [KeyLife.next, KeyLife.heldBy] at hnext
  · simp only [KeyLife.next, if_pos hends] at hnext
    cases hnext
  · rename_i key' requestHash' expiresAt' now drawn answer
    cases answer with
    | claimed claimToken' =>
        by_cases hkey : key' = key
        · simp only [KeyLife.next, if_pos hkey] at hnext
          cases hnext
          exact ⟨expiresAt', now, drawn, by rw [hkey]⟩
        · simp only [KeyLife.next, if_neg hkey] at hnext
          rcases hends with hle | ⟨heq, _⟩
          · rw [hpurge _ hle] at hnext
            cases hnext
          · exact absurd heq hkey
    | inProgress | completed | conflict =>
        simp only [KeyLife.next] at hnext
        rcases hends with hle | ⟨_, _, heq⟩
        · rw [hpurge _ hle] at hnext
          cases hnext
        · cases heq
  · exact hends.elim

/-- What the answers keep true. -/
structure Invariant (history : History W) : Prop where
  rows : ∀ key, Represents (history.store.keys.find? key) (life key history.log)
  hashes : ∀ key, ∀ requestHash ∈ (life key history.log).requestHash, requestHash.length = 64
  issued : ∀ key requestHash claimToken expiresAt,
    life key history.log = .claimed requestHash claimToken expiresAt →
      claimToken ∈ history.issued
  oneKey : ∀ key key' requestHash requestHash' claimToken expiresAt expiresAt',
    life key history.log = .claimed requestHash claimToken expiresAt →
      life key' history.log = .claimed requestHash' claimToken expiresAt' → key = key'
  ended : ∀ claimToken, TokenEnded claimToken history.log → claimToken ∈ history.issued ∧
    ∀ key requestHash expiresAt, life key history.log ≠ .claimed requestHash claimToken expiresAt
  commits : ∀ key, commitsInLifetime key history.log ≤ 1 ∧
    ∀ requestHash claimToken expiresAt,
      life key history.log = .claimed requestHash claimToken expiresAt →
        commitsInLifetime key history.log = 0

/-- What is known of an event and its answer before they are logged. -/
structure Answered (history : History W) (event : Event W) (issued : List String) : Prop where
  grows : ∀ claimToken ∈ history.issued, claimToken ∈ issued
  fresh : ∀ key requestHash expiresAt now drawn claimToken,
    event = .claim key requestHash expiresAt now drawn →
      (respond history.store event).1 = .claim (.claimed claimToken) →
        claimToken ∈ issued ∧ claimToken ∉ history.issued ∧ requestHash.length = 64

theorem answered_of_claim {history : History W} {key : KeyId} {requestHash : String}
    {expiresAt now : Time} {drawn : String} (hdrawn : drawn ∉ history.issued) :
    Answered history (.claim key requestHash expiresAt now drawn) (drawn :: history.issued) := by
  refine ⟨fun _ h => List.mem_cons_of_mem _ h, ?_⟩
  rintro _ _ _ _ _ claimToken ⟨⟩ hanswer
  rcases respond_claim_cases history.store key requestHash expiresAt now drawn with
    h | ⟨hlength, _, h⟩ | ⟨claim, hclaim, h⟩ <;> rw [h] at hanswer
  · cases hanswer
  · cases hanswer
    exact ⟨List.mem_cons_self, hdrawn, hlength⟩
  · cases hanswer
    exact absurd rfl (hclaim _)

theorem answered_of_other {history : History W} {event : Event W}
    (h : ∀ key requestHash expiresAt now drawn,
      event ≠ .claim key requestHash expiresAt now drawn) :
    Answered history event history.issued :=
  ⟨fun _ h => h, fun _ _ _ _ _ _ heq => absurd heq (h _ _ _ _ _)⟩

section Record

variable {history : History W} {event : Event W} {issued : List String}

/-- A claim that stands after an event stood before it, or is fresh. -/
theorem claimed_of_record (h : Answered history event issued) {key : KeyId}
    {requestHash claimToken : String} {expiresAt : Time}
    (hlife : life key (record history event issued).log =
      .claimed requestHash claimToken expiresAt) :
    life key history.log = .claimed requestHash claimToken expiresAt ∨
      (claimToken ∈ issued ∧ claimToken ∉ history.issued ∧ requestHash.length = 64 ∧
        ∃ expiresAt' now drawn, event = .claim key requestHash expiresAt' now drawn ∧
          (respond history.store event).1 = .claim (.claimed claimToken)) := by
  rcases KeyLife.next_eq_claimed hlife with hold | ⟨expiresAt', now, drawn, hentry⟩
  · exact Or.inl hold
  · obtain ⟨hevent, hanswer⟩ := Prod.mk.inj hentry
    obtain ⟨hissued, hfresh, hlength⟩ := h.fresh _ _ _ _ _ _ hevent hanswer
    exact Or.inr ⟨hissued, hfresh, hlength, expiresAt', now, drawn, hevent, hanswer⟩

/-- An event that ends a claim leaves no claim under its token. -/
theorem not_claimed_of_endsClaim (h : Answered history event issued) {key : KeyId}
    {requestHash claimToken : String} {expiresAt : Time} (hissued : claimToken ∈ history.issued)
    (hlife : life key history.log = .claimed requestHash claimToken expiresAt)
    (hends : EndsClaim ⟨key, requestHash, claimToken⟩ expiresAt
      (event, (respond history.store event).1)) (requestHash' : String) (expiresAt' : Time) :
    life key (record history event issued).log ≠ .claimed requestHash' claimToken expiresAt' := by
  have hnext : life key (record history event issued).log =
      (KeyLife.claimed requestHash claimToken expiresAt).next key
        (event, (respond history.store event).1) := by
    rw [← hlife]
    rfl
  rw [hnext]
  intro hclaimed
  have hentry : ∃ requestHash'' expiresAt'' now drawn,
      (event, (respond history.store event).1) =
        (.claim key requestHash'' expiresAt'' now drawn, .claim (.claimed claimToken)) := by
    rcases KeyLife.next_eq_claimed hclaimed with hsame | ⟨expiresAt'', now, drawn, hentry⟩
    · cases hsame
      exact ⟨_, KeyLife.next_of_endsClaim hends hclaimed⟩
    · exact ⟨_, _, _, _, hentry⟩
  obtain ⟨_, _, _, _, hentry⟩ := hentry
  obtain ⟨hevent, hanswer⟩ := Prod.mk.inj hentry
  exact (h.fresh _ _ _ _ _ _ hevent hanswer).2.1 hissued

/-- The holder of the claim on a key is the one whose effect is committed. -/
theorem claimed_of_committed (hinv : Invariant history) {applicationId : ApplicationId}
    {mismatch : String} {effect : Relational.Transaction W RepositoryError Unit}
    {context : IdempotencyContext} {response : CompletedIdempotencyResponse} {completedAt : Time}
    (h : (respond history.store
      (.commit applicationId mismatch effect context response completedAt)).1 = .done) :
    ∃ expiresAt, life context.key history.log =
      .claimed context.requestHash context.claimToken expiresAt := by
  rcases respond_commit_cases history.store applicationId mismatch effect context response
    completedAt with hanswer | ⟨row, world, hfind, hholds, _, _⟩
  · rw [hanswer] at h
    cases h
  · have hlife := hinv.rows context.key
    rw [hfind] at hlife
    have hheld := hlife.heldBy_iff context ▸ hholds
    cases hkey : life context.key history.log with
    | absent | committed => simp [hkey, KeyLife.heldBy] at hheld
    | claimed requestHash claimToken expiresAt =>
        simp only [hkey, KeyLife.heldBy, decide_eq_true_eq] at hheld
        exact ⟨expiresAt, by rw [hheld.1, hheld.2]⟩

theorem Invariant.record (hinv : Invariant history) (h : Answered history event issued) :
    Invariant (record history event issued) where
  rows key := represents_respond hinv.rows event key
  hashes key requestHash hhash := by
    rcases KeyLife.requestHash_next hhash with hold | ⟨_, _, _, claimToken, hentry⟩
    · exact hinv.hashes key requestHash hold
    · obtain ⟨hevent, hanswer⟩ := Prod.mk.inj hentry
      exact (h.fresh _ _ _ _ _ _ hevent hanswer).2.2
  issued key requestHash claimToken expiresAt hlife := by
    rcases claimed_of_record h hlife with hold | ⟨hissued, _⟩
    · exact h.grows _ (hinv.issued _ _ _ _ hold)
    · exact hissued
  oneKey key key' requestHash requestHash' claimToken expiresAt expiresAt' hlife hlife' := by
    rcases claimed_of_record h hlife with hold | ⟨_, hfresh, _, _, _, _, hevent, _⟩ <;>
      rcases claimed_of_record h hlife' with hold' | ⟨_, hfresh', _, _, _, _, hevent', _⟩
    · exact hinv.oneKey _ _ _ _ _ _ _ hold hold'
    · exact absurd (hinv.issued _ _ _ _ hold) hfresh'
    · exact absurd (hinv.issued _ _ _ _ hold') hfresh
    · cases hevent.symm.trans hevent'
      rfl
  ended claimToken hended := by
    have hgone : claimToken ∈ history.issued ∧ ∀ key requestHash expiresAt,
        life key history.log = .claimed requestHash claimToken expiresAt →
          life key (Idempotency.record history event issued).log ≠
            .claimed requestHash claimToken expiresAt := by
      rcases hended with hended | ⟨key, requestHash, expiresAt, hlife, hends⟩
      · obtain ⟨hissued, hnone⟩ := hinv.ended claimToken hended
        exact ⟨hissued, fun key requestHash expiresAt hlife => absurd hlife (hnone _ _ _)⟩
      · have hissued := hinv.issued _ _ _ _ hlife
        refine ⟨hissued, fun key' requestHash' expiresAt' hlife' => ?_⟩
        cases hinv.oneKey _ _ _ _ _ _ _ hlife hlife'
        exact not_claimed_of_endsClaim h hissued hlife hends _ _
    refine ⟨h.grows _ hgone.1, fun key requestHash expiresAt hlife => ?_⟩
    rcases claimed_of_record h hlife with hold | ⟨_, hfresh, _⟩
    · exact hgone.2 key requestHash expiresAt hold hlife
    · exact hfresh hgone.1
  commits key := by
    obtain ⟨hcount, hnone⟩ := hinv.commits key
    rcases commitsInLifetime_cons key (event, (respond history.store event).1) history.log with
      hzero | ⟨⟨_, _, _, context, response, _, hkey, hentry⟩, hone⟩ | ⟨hother, hsame⟩
    · exact ⟨Nat.le_trans (Nat.le_of_eq hzero) (Nat.zero_le _), fun _ _ _ _ => hzero⟩
    · obtain ⟨hevent, hanswer⟩ := Prod.mk.inj hentry
      subst hevent
      obtain ⟨expiresAt, hlife⟩ := claimed_of_committed hinv hanswer
      rw [hkey] at hlife
      rw [hnone _ _ _ hlife] at hone
      refine ⟨Nat.le_of_eq hone, fun requestHash claimToken expiresAt' hclaimed => ?_⟩
      have hcommitted : (life key history.log).next key
          (.commit _ _ _ context response _, (respond history.store _).1) =
            .claimed requestHash claimToken expiresAt' := hclaimed
      rw [hanswer, hlife] at hcommitted
      simp [KeyLife.next, KeyLife.commit, hkey] at hcommitted
    · refine ⟨Nat.le_trans (Nat.le_of_eq hsame) hcount,
        fun requestHash claimToken expiresAt hclaimed => ?_⟩
      rcases KeyLife.next_eq_claimed hclaimed with hold | ⟨_, _, _, hentry⟩
      · exact hsame.trans (hnone _ _ _ hold)
      · exact absurd hentry (hother _ _ _ _ _)

end Record

theorem Invariant.init (world : W) : Invariant ⟨⟨∅, world⟩, [], []⟩ where
  rows _ := .absent
  hashes _ _ h := nomatch h
  issued _ _ _ _ h := nomatch h
  oneKey _ _ _ _ _ _ _ h := nomatch h
  ended _ h := h.elim
  commits _ := ⟨Nat.zero_le _, fun _ _ _ h => nomatch h⟩

theorem Invariant.step {history : History W} (h : Invariant history) (event : Event W) :
    Invariant (step history event) := by
  cases event with
  | claim key requestHash expiresAt now drawn =>
      unfold Idempotency.step
      dsimp only
      split
      · exact h
      · rename_i hdrawn
        exact h.record (answered_of_claim hdrawn)
  | commit | release | deleteApplication | world =>
      exact h.record (answered_of_other (by simp))

theorem invariant_of_reachable {history : History W} (h : (requests W).Reachable history) :
    Invariant history := by
  refine h.invariant ?_ fun _ event hs => hs.step event
  rintro _ ⟨world, rfl⟩
  exact .init world

theorem find?_purged {store : KeyStore W} {key : KeyId} {row : IdempotencyKey} {now : Time}
    (hfind : store.keys.find? key = some row) (hlive : postgresTime now < row.expiresAt) :
    (purged store now).find? key = some row := by
  rw [purged, Table.find?_deleteWhere, hfind]
  simp [Option.filter, Int.not_le.2 hlive]

/-- The key answers from its row, which has not expired. -/
theorem respond_claim_of_live {store : KeyStore W} {key : KeyId} {row : IdempotencyKey} {now : Time}
    (hfind : store.keys.find? key = some row) (hlive : postgresTime now < row.expiresAt)
    {requestHash : String} (hlength : requestHash.length = 64) {claim : IdempotencyClaim}
    (hanswer : ∀ store' : KeyStore W,
      (answerFor row requestHash).run store' = .ok (claim, store'))
    (expiresAt : Time) (drawn : String) :
    respond store (.claim key requestHash expiresAt now drawn) =
      (.claim claim, { store with keys := purged store now }) := by
  have hrow := find?_purged hfind hlive
  have hrun : (claimIdempotencyKey key requestHash expiresAt now drawn).run store =
      .ok (claim, { store with keys := purged store now }) := by
    simp only [claimIdempotencyKey, run_bind_ok, run_write_ok, run_require_ok, run_query_ok]
    exact ⟨(), _, rfl, (), _, ⟨hlength, rfl⟩, some row, _, ⟨hrow, rfl⟩, hanswer _⟩
  simp [respond, settle, hrun]

/-- A hash that is no digest is refused before the key is looked at. -/
theorem respond_claim_of_length {store : KeyStore W} {key : KeyId} {requestHash : String}
    (hlength : requestHash.length ≠ 64) (expiresAt now : Time) (drawn : String) :
    respond store (.claim key requestHash expiresAt now drawn) = (.refused, store) := by
  rcases settle_cases (claimIdempotencyKey key requestHash expiresAt now drawn) .claim store
    with h | ⟨claim, store', hrun, h⟩
  · exact h
  · simp only [claimIdempotencyKey, run_bind_ok, run_write_ok, run_require_ok, run_query_ok] at hrun
    obtain ⟨_, _, _, _, _, ⟨hlength', _⟩, _⟩ := hrun
    exact absurd hlength' hlength

theorem Represents.of_committed {row : Option IdempotencyKey} {requestHash : String}
    {expiresAt : Time} {response : CompletedIdempotencyResponse}
    (h : Represents row (.committed requestHash expiresAt response)) :
    ∃ stored, row = some stored ∧ expiresAt = stored.expiresAt ∧
      requestHash = stored.requestHash ∧ stored.status = .completed ∧
      stored.responseStatus = some response.status ∧ response.status ≤ 65535 ∧
      stored.responsePayload = some response.payload ∧ stored.resourceId = response.resourceId := by
  cases h with
  | committed status responseStatus small payload resource =>
      exact ⟨_, rfl, rfl, rfl, status, responseStatus, small, payload, resource⟩

theorem run_answerFor_committed {row : IdempotencyKey} {requestHash : String}
    {response : CompletedIdempotencyResponse} {store : KeyStore W}
    (h : requestHash = row.requestHash ∧ row.status = .completed ∧
      row.responseStatus = some response.status ∧ response.status ≤ 65535 ∧
      row.responsePayload = some response.payload ∧ row.resourceId = response.resourceId) :
    (answerFor row requestHash).run store = .ok (.completed response, store) := by
  obtain ⟨rfl, hstatus, hresponse, hsmall, hpayload, hresource⟩ := h
  simp only [answerFor, ne_eq, not_true_eq_false, if_false, hstatus, run_bind_ok, run_pure_ok,
    completedResponse, run_orThrow_ok, run_require_ok]
  exact ⟨response, store, ⟨response.status, store, ⟨hresponse, rfl⟩, (), store, ⟨hsmall, rfl⟩,
    response.payload, store, ⟨hpayload, rfl⟩, by rw [hresource], rfl⟩, rfl, rfl⟩

/-- Idempotency keys, whatever the order of the requests: in one lifetime of a key one effect is
committed at most, and only by the holder of its claim; a claim that was released, removed after
its expiry or replaced commits nothing; and while the row of a key lives, claims under its hash
are told what was stored, and claims under another hash are told of the conflict and leave every
row that has not expired. -/
theorem idempotency_keys {history : History W} (h : (requests W).Reachable history) :
    (∀ key, commitsInLifetime key history.log ≤ 1) ∧
    (∀ applicationId mismatch effect (context : IdempotencyContext) response completedAt,
      let commit := respond history.store
        (.commit applicationId mismatch effect context response completedAt)
      (commit.1 = .done → ∃ expiresAt, life context.key history.log =
        .claimed context.requestHash context.claimToken expiresAt) ∧
      (TokenEnded context.claimToken history.log → commit = (.refused, history.store))) ∧
    ∀ key requestHash expiresAt now drawn,
      let claim := respond history.store (.claim key requestHash expiresAt now drawn)
      (∀ expires response, life key history.log = .committed requestHash expires response →
        postgresTime now < expires → claim =
          (.claim (.completed response), { history.store with keys := purged history.store now })) ∧
      (∀ stored ∈ (life key history.log).requestHash, stored ≠ requestHash →
        (∀ expires ∈ (life key history.log).expiresAt, postgresTime now < expires) → claim =
          if requestHash.length = 64 then
            (.claim .conflict, { history.store with keys := purged history.store now })
          else (.refused, history.store)) := by
  have hinv : Invariant history := invariant_of_reachable h
  refine ⟨fun key => (hinv.commits key).1, ?_, ?_⟩
  · intro applicationId mismatch effect context response completedAt commit
    refine ⟨fun hdone => claimed_of_committed hinv hdone, fun hended => ?_⟩
    rcases respond_commit_cases history.store applicationId mismatch effect context response
      completedAt with hrefused | ⟨_, _, _, _, _, hdone⟩
    · exact hrefused
    · obtain ⟨expiresAt, hlife⟩ := claimed_of_committed hinv (congrArg Prod.fst hdone)
      exact absurd hlife ((hinv.ended _ hended).2 _ _ _)
  · intro key requestHash expiresAt now drawn claim
    constructor
    · intro expires response hlife hlive
      have hrow := hinv.rows key
      have hlength := hinv.hashes key requestHash (by rw [hlife]; rfl)
      rw [hlife] at hrow
      obtain ⟨row, hfind, hstored⟩ := hrow.of_committed
      refine respond_claim_of_live hfind (hstored.1 ▸ hlive) hlength (fun store' => ?_)
        expiresAt drawn
      exact run_answerFor_committed hstored.2
    · intro stored hstored hother hlive
      split
      · rename_i hlength
        have hrow := hinv.rows key
        rw [hrow.requestHash_eq] at hstored
        rw [hrow.expiresAt_eq] at hlive
        obtain ⟨row, hfind, rfl⟩ := Option.map_eq_some_iff.1 hstored
        rw [hfind] at hlive
        refine respond_claim_of_live hfind (hlive _ rfl) hlength (fun store' => ?_) expiresAt drawn
        simp only [answerFor, if_pos hother]
        rfl
      · rename_i hlength
        exact respond_claim_of_length hlength _ _ _

def uploadKey : KeyId := ⟨1, "upload", "key"⟩

def uploadContext : IdempotencyContext :=
  ⟨uploadKey, String.ofList (List.replicate 64 'a'), "token"⟩

/-- A claim of ten microseconds. -/
def claimedUpload : History (List Nat) :=
  (requests (List Nat)).run ⟨⟨∅, []⟩, [], []⟩
    [.claim uploadKey uploadContext.requestHash 10000 0 "token"]

theorem reachable_claimedUpload : (requests (List Nat)).Reachable claimedUpload :=
  ⟨_, _, ⟨[], rfl⟩, rfl⟩

/-- A claim whose time is over commits its effect as long as no other claim has removed it. -/
theorem expired_claim_commits :
    (requests (List Nat)).Reachable claimedUpload ∧
    ∃ expiresAt completedAt, life uploadKey claimedUpload.log =
        .claimed uploadContext.requestHash uploadContext.claimToken expiresAt ∧
      expiresAt ≤ postgresTime completedAt ∧
      (respond claimedUpload.store
        (.commit 1 "" (write (5 :: ·)) uploadContext ⟨201, "created", none⟩ completedAt)).1 =
          .done := by
  refine ⟨reachable_claimedUpload, 10000, 20000, ?_, ?_, ?_⟩ <;> decide +kernel

/-- The same claim, committed in time. -/
def committedUpload : History (List Nat) :=
  (requests (List Nat)).step claimedUpload
    (.commit 1 "" (write (5 :: ·)) uploadContext ⟨201, "created", none⟩ 5000)

/-- Its effect is committed once, and who asks again is told what was stored. -/
theorem idempotency_keys_upload :
    commitsInLifetime uploadKey committedUpload.log = 1 ∧ committedUpload.store.world = [5] ∧
      (respond committedUpload.store
        (.claim uploadKey uploadContext.requestHash 20000 6000 "other")).1 =
          .claim (.completed ⟨201, "created", none⟩) ∧
      (respond committedUpload.store
        (.claim uploadKey (String.ofList (List.replicate 64 'b')) 20000 6000 "other")).1 =
          .claim .conflict := by
  have hreachable : (requests (List Nat)).Reachable committedUpload :=
    reachable_claimedUpload.step _
  obtain ⟨hcommits, -, hclaims⟩ := idempotency_keys hreachable
  have hlife : life uploadKey committedUpload.log =
      .committed uploadContext.requestHash 10000 ⟨201, "created", none⟩ := by decide +kernel
  have hstored : uploadContext.requestHash ∈ (life uploadKey committedUpload.log).requestHash := by
    rw [hlife]
    rfl
  have hlive : ∀ expires ∈ (life uploadKey committedUpload.log).expiresAt,
      postgresTime 6000 < expires := by
    rw [hlife]
    decide +kernel
  have hsame := (hclaims uploadKey uploadContext.requestHash 20000 6000 "other").1 10000 _ hlife
    (by decide)
  have hother := (hclaims uploadKey (String.ofList (List.replicate 64 'b')) 20000 6000 "other").2
    _ hstored (by decide +kernel) hlive
  rw [if_pos (by decide +kernel)] at hother
  have hcount : 1 ≤ commitsInLifetime uploadKey committedUpload.log := by decide +kernel
  exact ⟨Nat.le_antisymm (hcommits uploadKey) hcount, by decide +kernel, congrArg Prod.fst hsame,
    congrArg Prod.fst hother⟩

end MediaHub.Store.Idempotency
