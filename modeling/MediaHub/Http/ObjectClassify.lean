import MediaHub.Http.ObjectDispatch

namespace MediaHub.Http

open Result

theorem taggingStep_taggingSeen {scan scan' : TaggingScan} {parameter : String × Text}
    (h : taggingStep scan parameter = .ok scan') :
    scan'.taggingSeen = (scan.taggingSeen || decide (parameter.1 = "tagging")) := by
  unfold taggingStep at h
  split at h
  · next htagging =>
      obtain ⟨_, h⟩ := ite_else_throw_eq_ok_iff.1 h
      rw [← pure_eq_ok_iff.1 h]
      simp [htagging]
  · next hne =>
      have hscan : scan'.taggingSeen = scan.taggingSeen := by
        split at h
        · obtain ⟨_, h⟩ := ite_else_throw_eq_ok_iff.1 h
          rw [← pure_eq_ok_iff.1 h]
        · split at h
          · rw [pure_eq_ok_iff.1 h]
          · rw [pure_eq_ok_iff.1 (ite_else_throw_eq_ok_iff.1 h).2]
      rw [hscan]
      simp [hne]

theorem foldlM_taggingSeen {parameters : List (String × Text)} {scan scan' : TaggingScan}
    (h : parameters.foldlM taggingStep scan = .ok scan') :
    scan'.taggingSeen = (scan.taggingSeen || (parameters.map Prod.fst).contains "tagging") := by
  induction parameters generalizing scan with
  | nil =>
      rw [List.foldlM_nil, pure_eq_ok_iff] at h
      simp [h]
  | cons parameter parameters ih =>
      rw [List.foldlM_cons] at h
      obtain ⟨next, hnext, h⟩ := bind_eq_ok_iff.1 h
      rw [ih h, taggingStep_taggingSeen hnext, Bool.or_assoc, List.map_cons, List.contains_cons]
      congr 2
      rw [Bool.eq_iff_iff, decide_eq_true_iff, beq_iff_eq, eq_comm]

theorem taggingStep_of_ne {scan scan' : TaggingScan} {parameter : String × Text}
    (hscan : scan.taggingSeen = false) (hne : parameter.1 ≠ "tagging") :
    taggingStep scan parameter = .ok scan' ↔
      (parameter.1 = "versionId" → scan.versionSeen = false) ∧
        scan' = { scan with
          versionSeen := scan.versionSeen || decide (parameter.1 = "versionId") } := by
  unfold taggingStep
  rw [if_neg hne]
  split
  · next hversion =>
      rw [ite_else_throw_eq_ok_iff, pure_eq_ok_iff]
      simp only [hversion, forall_const, decide_true, Bool.or_true, Bool.not_eq_true']
      exact and_congr Iff.rfl eq_comm
  · next hversion =>
      have hpure : (if isTransportName parameter.1 = true then pure scan
          else if (!scan.taggingSeen) = true then pure scan else throw taggingCombined :
          Except S3ApiError TaggingScan) = pure scan := by
        rw [hscan]
        split <;> rfl
      rw [hpure, pure_eq_ok_iff]
      simp only [hversion, false_implies, decide_false, Bool.or_false, true_and]
      exact eq_comm

/-- Without `tagging`, the scan only looks for a second version id. -/
theorem foldlM_taggingStep_iff {parameters : List (String × Text)} {scan : TaggingScan}
    (hscan : scan.taggingSeen = false) (htagging : "tagging" ∉ parameters.map Prod.fst) :
    (∃ scan', parameters.foldlM taggingStep scan = .ok scan' ∧ scan'.taggingSeen = false) ↔
      scan.versionSeen.toNat + (parameters.filterMap fun parameter =>
        if parameter.1 = "versionId" then some parameter.2 else none).length ≤ 1 := by
  induction parameters generalizing scan with
  | nil =>
      refine iff_of_true ⟨scan, rfl, hscan⟩ ?_
      simpa using Bool.toNat_le scan.versionSeen
  | cons parameter parameters ih =>
      rw [List.map_cons, List.mem_cons, not_or] at htagging
      have hne : parameter.1 ≠ "tagging" := Ne.symm htagging.1
      rw [List.foldlM_cons, List.filterMap_cons]
      have hstep : (∃ scan', (taggingStep scan parameter >>= fun next =>
            parameters.foldlM taggingStep next) = .ok scan' ∧ scan'.taggingSeen = false) ↔
          (parameter.1 = "versionId" → scan.versionSeen = false) ∧
            ∃ scan', parameters.foldlM taggingStep { scan with
              versionSeen := scan.versionSeen || decide (parameter.1 = "versionId") } =
              .ok scan' ∧ scan'.taggingSeen = false := by
        simp only [bind_eq_ok_iff, taggingStep_of_ne hscan hne]
        constructor
        · rintro ⟨scan', ⟨_, ⟨hversion, rfl⟩, h⟩, hseen⟩
          exact ⟨hversion, scan', h, hseen⟩
        · rintro ⟨hversion, scan', h, hseen⟩
          exact ⟨scan', ⟨_, ⟨hversion, rfl⟩, h⟩, hseen⟩
      rw [hstep, ih (by simpa using hscan) htagging.2]
      by_cases hversion : parameter.1 = "versionId"
      · cases hseen : scan.versionSeen with
        | false =>
            simp [hversion, Nat.add_comm]
        | true =>
            simp [hversion]
      · simp [hversion]

variable [FormDecoding]

theorem classifyS3ObjectTagging_eq_ok {uri : Uri} {tagging : Bool}
    (h : classifyS3ObjectTagging uri = .ok tagging) :
    tagging = uri.names.contains "tagging" := by
  unfold classifyS3ObjectTagging at h
  obtain ⟨scan, hscan, h⟩ := bind_eq_ok_iff.1 h
  obtain ⟨_, h⟩ := ite_throw_eq_ok_iff.1 h
  rw [← pure_eq_ok_iff.1 h, foldlM_taggingSeen hscan]
  rfl

/-- A tagging request names nothing else. -/
theorem classifyS3ObjectTagging_eq_true {uri : Uri}
    (h : classifyS3ObjectTagging uri = .ok true) :
    "tagging" ∈ uri.names ∧
      ∀ name ∈ uri.names, name = "tagging" ∨ name = "versionId" ∨ isTransportName name := by
  refine ⟨by simpa using classifyS3ObjectTagging_eq_ok h, ?_⟩
  unfold classifyS3ObjectTagging at h
  obtain ⟨scan, _, h⟩ := bind_eq_ok_iff.1 h
  obtain ⟨hother, h⟩ := ite_throw_eq_ok_iff.1 h
  intro name hname
  rw [pure_eq_ok_iff.1 h, Bool.true_and, List.any_eq_true] at hother
  by_contra hnone
  refine hother ⟨name, hname, ?_⟩
  rw [not_or, not_or] at hnone
  simp [hnone]

theorem classifyS3ObjectTagging_eq_false_iff {uri : Uri} :
    classifyS3ObjectTagging uri = .ok false ↔
      "tagging" ∉ uri.names ∧ (uri.values "versionId").length ≤ 1 := by
  have hscan : "tagging" ∉ uri.names →
      ((∃ scan, uri.parameters.foldlM taggingStep { taggingSeen := false, versionSeen := false } =
        .ok scan ∧ scan.taggingSeen = false) ↔ (uri.values "versionId").length ≤ 1) := by
    intro h
    have hfold :=
      @foldlM_taggingStep_iff uri.parameters { taggingSeen := false, versionSeen := false } rfl h
    rw [hfold, Bool.toNat_false, Nat.zero_add]
    rfl
  constructor
  · intro h
    have hnot : "tagging" ∉ uri.names := by simpa using classifyS3ObjectTagging_eq_ok h
    refine ⟨hnot, (hscan hnot).1 ?_⟩
    unfold classifyS3ObjectTagging at h
    obtain ⟨scan, hfold, h⟩ := bind_eq_ok_iff.1 h
    exact ⟨scan, hfold, pure_eq_ok_iff.1 (ite_throw_eq_ok_iff.1 h).2⟩
  · rintro ⟨hnot, hversion⟩
    obtain ⟨scan, hfold, hseen⟩ := (hscan hnot).2 hversion
    unfold classifyS3ObjectTagging
    refine bind_eq_ok_iff.2 ⟨scan, hfold, ite_throw_eq_ok_iff.2 ⟨?_, ?_⟩⟩
    · simp [hseen]
    · rw [hseen]
      rfl

theorem rejectParameters_eq_ok_iff {uri : Uri} {error : String → S3ApiError}
    {names : List String} :
    rejectParameters uri error names = .ok () ↔ ∀ name ∈ names, name ∉ uri.names := by
  unfold rejectParameters
  induction names with
  | nil => exact iff_of_true rfl (by simp)
  | cons name names ih =>
      have hname : (do
            let value ← s3QueryValue uri name
            if value.isSome then throw (error name) else pure () : Except S3ApiError Unit) =
          .ok () ↔ name ∉ uri.names := by
        rw [← s3QueryValue_eq_none_iff, bind_eq_ok_iff]
        constructor
        · rintro ⟨value, hvalue, h⟩
          have hnone := (ite_throw_eq_ok_iff.1 h).1
          rw [Bool.not_eq_true, Option.isSome_eq_false_iff, Option.isNone_iff_eq_none] at hnone
          rwa [hnone] at hvalue
        · intro h
          exact ⟨none, h, rfl⟩
      rw [List.forall_mem_cons, ← hname, ← ih]
      exact andThen_eq_ok_iff

/-- The parameter of one lock occurs once and empty, and that of the other does not occur. -/
def SoleLock (uri : Uri) (lock : S3ObjectVersionLockOperation) : Prop :=
  uri.values lock.parameter = [[]] ∧
    ∀ other : S3ObjectVersionLockOperation, other ≠ lock → other.parameter ∉ uri.names

/-- What a request on a lock must not name besides it. -/
def lockForbidden : List String := ["acl", "uploadId", "partNumber", "uploads"]

omit [FormDecoding] in
theorem requireEmptyValue_eq_ok_iff {name : String} {value : Option Text} :
    requireEmptyValue name value = .ok () ↔ value = none ∨ value = some [] := by
  unfold requireEmptyValue
  rw [ite_throw_eq_ok_iff]
  cases value with
  | none => simp
  | some value => simp

theorem classifyS3ObjectVersionLock_eq_none_iff {uri : Uri} :
    classifyS3ObjectVersionLock uri = .ok none ↔
      "retention" ∉ uri.names ∧ "legal-hold" ∉ uri.names := by
  unfold classifyS3ObjectVersionLock
  rw [← s3QueryValue_eq_none_iff, ← s3QueryValue_eq_none_iff]
  constructor
  · intro h
    obtain ⟨retention, hretention, h⟩ := bind_eq_ok_iff.1 h
    obtain ⟨legalHold, hlegalHold, h⟩ := bind_eq_ok_iff.1 h
    obtain ⟨_, h⟩ := andThen_eq_ok_iff.1 h
    obtain ⟨_, h⟩ := andThen_eq_ok_iff.1 h
    obtain ⟨_, h⟩ := ite_throw_eq_ok_iff.1 h
    have hoperation := pure_eq_ok_iff.1 (andThen_eq_ok_iff.1 h).2
    cases retention with
    | some _ => simp at hoperation
    | none =>
        cases legalHold with
        | some _ => simp at hoperation
        | none => exact ⟨hretention, hlegalHold⟩
  · rintro ⟨hretention, hlegalHold⟩
    rw [hretention, hlegalHold]
    rfl

theorem classifyS3ObjectVersionLock_eq_some_iff {uri : Uri}
    {lock : S3ObjectVersionLockOperation} :
    classifyS3ObjectVersionLock uri = .ok (some lock) ↔
      SoleLock uri lock ∧ ∀ name ∈ lockForbidden, name ∉ uri.names := by
  unfold classifyS3ObjectVersionLock SoleLock
  constructor
  · intro h
    obtain ⟨retention, hretention, h⟩ := bind_eq_ok_iff.1 h
    obtain ⟨legalHold, hlegalHold, h⟩ := bind_eq_ok_iff.1 h
    obtain ⟨hempty, h⟩ := andThen_eq_ok_iff.1 h
    obtain ⟨hempty', h⟩ := andThen_eq_ok_iff.1 h
    obtain ⟨hboth, h⟩ := ite_throw_eq_ok_iff.1 h
    obtain ⟨hreject, hoperation⟩ := andThen_eq_ok_iff.1 h
    have hoperation := pure_eq_ok_iff.1 hoperation
    rw [requireEmptyValue_eq_ok_iff] at hempty hempty'
    have hforbidden : ∀ name ∈ lockForbidden, name ∉ uri.names := by
      rw [hoperation] at hreject
      exact rejectParameters_eq_ok_iff.1 hreject
    refine ⟨?_, hforbidden⟩
    rcases hempty with rfl | rfl <;> rcases hempty' with rfl | rfl
    · simp at hoperation
    · obtain rfl : S3ObjectVersionLockOperation.legalHold = lock := by simpa using hoperation
      refine ⟨s3QueryValue_eq_some_iff.1 hlegalHold, ?_⟩
      intro other hother
      cases other with
      | retention => exact s3QueryValue_eq_none_iff.1 hretention
      | legalHold => exact absurd rfl hother
    · obtain rfl : S3ObjectVersionLockOperation.retention = lock := by simpa using hoperation
      refine ⟨s3QueryValue_eq_some_iff.1 hretention, ?_⟩
      intro other hother
      cases other with
      | retention => exact absurd rfl hother
      | legalHold => exact s3QueryValue_eq_none_iff.1 hlegalHold
    · simp at hboth
  · rintro ⟨⟨hvalue, hother⟩, hforbidden⟩
    have hreject : rejectLockCombination uri (some lock) = .ok () :=
      rejectParameters_eq_ok_iff.2 hforbidden
    cases lock with
    | retention =>
        have hretention := s3QueryValue_eq_some_iff.2 hvalue
        have hlegalHold := s3QueryValue_eq_none_iff.2 (hother .legalHold (by decide))
        rw [show S3ObjectVersionLockOperation.retention.parameter = "retention" from rfl]
          at hretention
        rw [show S3ObjectVersionLockOperation.legalHold.parameter = "legal-hold" from rfl]
          at hlegalHold
        rw [hretention, hlegalHold]
        exact andThen_eq_ok_iff.2 ⟨hreject, rfl⟩
    | legalHold =>
        have hlegalHold := s3QueryValue_eq_some_iff.2 hvalue
        have hretention := s3QueryValue_eq_none_iff.2 (hother .retention (by decide))
        rw [show S3ObjectVersionLockOperation.retention.parameter = "retention" from rfl]
          at hretention
        rw [show S3ObjectVersionLockOperation.legalHold.parameter = "legal-hold" from rfl]
          at hlegalHold
        rw [hretention, hlegalHold]
        exact andThen_eq_ok_iff.2 ⟨hreject, rfl⟩

theorem foldlM_unsupportedStep {uri : Uri} {names : List String} (hnodup : names.Nodup)
    {start unsupported : Option String} (hstart : ∀ name ∈ start, name ∉ names)
    (h : names.foldlM (unsupportedStep uri) start = .ok unsupported) :
    (∀ name ∈ names, name ∈ uri.names ↔ unsupported = some name) ∧
      (∀ name, start = some name → unsupported = some name) ∧
      ∀ name, unsupported = some name → start = some name ∨ name ∈ names := by
  induction names generalizing start with
  | nil =>
      rw [List.foldlM_nil, pure_eq_ok_iff] at h
      subst h
      simp
  | cons name names ih =>
      rw [List.foldlM_cons] at h
      obtain ⟨next, hnext, h⟩ := bind_eq_ok_iff.1 h
      obtain ⟨hnot, hnodup⟩ := List.nodup_cons.1 hnodup
      unfold unsupportedStep at hnext
      obtain ⟨value, hvalue, hnext⟩ := bind_eq_ok_iff.1 hnext
      cases value with
      | none =>
          have hname := s3QueryValue_eq_none_iff.1 hvalue
          obtain rfl : start = next := by simpa using hnext
          obtain ⟨hmem, hkept, horigin⟩ := ih hnodup
            (fun other hother hin => hstart other hother (List.mem_cons_of_mem _ hin)) h
          refine ⟨?_, hkept, ?_⟩
          · intro other hother
            rcases List.mem_cons.1 hother with rfl | hother
            · refine iff_of_false hname ?_
              intro hsome
              rcases horigin other hsome with hfirst | hin
              · exact hstart other hfirst List.mem_cons_self
              · exact hnot hin
            · exact hmem other hother
          · intro other hsome
            rcases horigin other hsome with hfirst | hin
            · exact .inl hfirst
            · exact .inr (List.mem_cons_of_mem _ hin)
      | some value =>
          have hname : name ∈ uri.names :=
            Uri.mem_names_iff.2 (by simp [s3QueryValue_eq_some_iff.1 hvalue])
          rw [Option.isSome_some, if_pos rfl, ite_throw_eq_ok_iff, pure_eq_ok_iff] at hnext
          obtain ⟨hnone, rfl⟩ := hnext
          rw [Bool.not_eq_true, Option.isSome_eq_false_iff, Option.isNone_iff_eq_none] at hnone
          obtain ⟨hmem, hkept, horigin⟩ := ih hnodup
            (by
              intro other hother hin
              rw [← Option.mem_some_iff.1 hother] at hin
              exact hnot hin) h
          have hunsupported := hkept name rfl
          refine ⟨?_, ?_, ?_⟩
          · intro other hother
            rcases List.mem_cons.1 hother with rfl | hother
            · exact iff_of_true hname hunsupported
            · exact hmem other hother
          · intro other hother
            rw [hnone] at hother
            exact nomatch hother
          · intro other hsome
            rw [hunsupported] at hsome
            rw [← Option.some.inj hsome]
            exact .inr List.mem_cons_self

end MediaHub.Http
