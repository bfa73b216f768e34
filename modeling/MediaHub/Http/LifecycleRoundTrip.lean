import Mathlib.Algebra.Order.Group.Nat
import Mathlib.Algebra.Order.BigOperators.Group.List
import MediaHub.Http.LifecycleWriting

namespace MediaHub.Http.Lifecycle

open Result
open MediaHub.Core (S3LifecycleRuleStatus S3LifecycleRule S3LifecycleConfiguration Time)
open Xml (Forest Tag Token normalizeEol)

/-- A number of days that the parser accepts. -/
def IsCount (days : Nat) : Prop := 0 < days ∧ days ≤ 4294967295

/-- An element without attributes, as it is read. -/
def element (name : Xml.Name) (text : Text) (children : List XmlNode) :
    S3ConfigurationXmlElement :=
  ⟨name.text, [], text, children⟩

theorem nodes_leaf (name : Xml.Name) (text : Text) (next : Forest) :
    nodes normalizeEol (leaf name text next) =
      element name (normalizeEol text) [] :: nodes normalizeEol next :=
  rfl

theorem nodes_branch (name : Xml.Name) (children next : Forest) :
    nodes normalizeEol (branch name children next) =
      element name [] (nodes normalizeEol children) :: nodes normalizeEol next :=
  rfl

theorem validateS3Container_element (name : Xml.Name) (children : List XmlNode) :
    validateS3Container (element name [] children) = .ok () := by
  rw [validateS3Container, rejectIf_eq_ok_iff, not_or, not_not, not_not]
  exact ⟨rfl, rfl⟩

theorem s3LeafText_element (name : Xml.Name) (text : Text) :
    s3LeafText (element name text []) = .ok (trim text) := rfl

theorem requiredS3LeafText_element (name : Xml.Name) {text : Text} (hreturn : '\r' ∉ text)
    (htrim : trim text = text) (hne : text ≠ []) :
    requiredS3LeafText (element name (normalizeEol text) []) = .ok text := by
  rw [Xml.normalizeEol_eq_self_iff.2 hreturn, requiredS3LeafText, s3LeafText_element, ok_bind,
    htrim, rejectIf, if_neg hne, ok_bind]
  rfl

theorem parseS3PositiveU32_element (name : Xml.Name) {days : Nat} (h : IsCount days)
    (field : String) :
    parseS3PositiveU32 (element name (normalizeEol (Nat.toDigits 10 days)) []) field =
      .ok days := by
  have hcharacters : ∀ c ∈ Nat.toDigits 10 days, c ∈ dateCharacters := fun _ =>
    mem_dateCharacters_of_toDigits
  have htext := requiredS3LeafText_element name
    (Xml.normalizeEol_eq_self_iff.1 (normalizeEol_dateCharacters hcharacters))
    (trim_dateCharacters hcharacters) (toDigits_ne_nil days)
  rw [parseS3PositiveU32, htext, ok_bind, parseU32_toDigits h.2, Option.filter_some,
    if_pos (decide_eq_true h.1)]
  rfl

section

variable (crates : DateCrates)

/-- An expiration that the parser accepts. -/
def ExpirationFromXml : Core.S3Expiration → Prop
  | .days days => IsCount days
  | .date date => ∃ text read, crates.parseFromRfc3339 text = some read ∧
      read.isMidnightUtc = true ∧ date = Time.days read.day
  | .expiredObjectDeleteMarker => True

variable {crates} in
theorem expiration_readBack {expiration : Core.S3Expiration}
    (h : ExpirationFromXml crates expiration) :
    ∃ document, expirationFromCore crates expiration = .ok document ∧
      Utf8.byteLength (expirationForest document).write = expirationBytes expiration ∧
      ∃ again, parseS3LifecycleExpiration crates
          (element expirationName [] (nodes normalizeEol (expirationForest document))) =
            .ok again ∧ expirationToCore crates again = .ok expiration := by
  cases expiration with
  | days days =>
      refine ⟨.days days, rfl, (takes_leaf daysName (escapedBytes_toDigits days)).alone,
        .days days, ?_, rfl⟩
      have hdays := parseS3PositiveU32_element daysName h "Expiration Days"
      rw [expirationForest, nodes_leaf, parseS3LifecycleExpiration, validateS3Container_element,
        ok_bind]
      refine (if_pos rfl).trans ?_
      rw [hdays]
      rfl
  | date date =>
      obtain ⟨text, read, hread, hmidnight, rfl⟩ := h
      obtain ⟨written, hwritten, hlength, hcharacters, hagain⟩ :=
        crates.format_read text read hread hmidnight
      refine ⟨.date written, by rw [expirationFromCore, hwritten]; rfl, ?_,
        .date (crates.toRfc3339 read), ?_, ?_⟩
      · rw [expirationBytes, ← hlength]
        exact (takes_leaf dateName (escapedBytes_dateCharacters hcharacters)).alone
      · have hne : written ≠ [] := List.ne_nil_of_length_pos (by omega)
        have htext := requiredS3LeafText_element dateName
          (Xml.normalizeEol_eq_self_iff.1 (normalizeEol_dateCharacters hcharacters))
          (trim_dateCharacters hcharacters) hne
        have hname : dateName.text ≠ "Days".toList := by decide
        rw [expirationForest, nodes_leaf, parseS3LifecycleExpiration,
          validateS3Container_element, ok_bind]
        refine (if_neg hname).trans ((if_pos rfl).trans ?_)
        rw [parseS3LifecycleDate, htext, ok_bind, hagain]
        simp only [hmidnight]
        rfl
      · rw [expirationToCore, crates.parse_toRfc3339 text read hread hmidnight]
  | expiredObjectDeleteMarker =>
      refine ⟨.expiredObjectDeleteMarker, rfl, by decide, .expiredObjectDeleteMarker, ?_, rfl⟩
      have htext := @requiredS3LeafText_element markerName "true".toList (by decide)
        (by decide) (by decide)
      have hdays : markerName.text ≠ "Days".toList := by decide
      have hdate : markerName.text ≠ "Date".toList := by decide
      rw [expirationForest, nodes_leaf, parseS3LifecycleExpiration, validateS3Container_element,
        ok_bind]
      refine (if_neg hdays).trans ((if_neg hdate).trans ((if_pos rfl).trans ?_))
      rw [htext, ok_bind]
      rfl

end

theorem byteLength_le_of_sublist {s t : Text} (h : s.Sublist t) :
    Utf8.byteLength s ≤ Utf8.byteLength t :=
  (h.map Char.utf8Size).sum_le_sum fun _ _ => Nat.zero_le _

theorem trim_sublist (text : Text) : (trim text).Sublist text :=
  (List.dropWhile_sublist _).trans (List.rdropWhile_prefix isWhitespace text).sublist

theorem byteLength_normalizeEol_le (text : Text) :
    Utf8.byteLength (normalizeEol text) ≤ Utf8.byteLength text := by
  have hline : '\n'.utf8Size = 1 := by decide
  induction text with
  | nil => exact Nat.le_refl _
  | cons c text ih =>
      have hpositive := c.utf8Size_pos
      have heol : Utf8.byteLength (Xml.eol c text.head?) ≤ c.utf8Size := by
        unfold Xml.eol
        split_ifs
        · simp
        · simp
        · rw [Utf8.byteLength_cons, Utf8.byteLength_nil, hline]
          exact hpositive
      rw [normalizeEol, Utf8.byteLength_append, Utf8.byteLength_cons]
      omega

theorem mem_of_mem_normalizeEol {text : Text} {c : Char} (hline : c ≠ '\n')
    (h : c ∈ normalizeEol text) : c ∈ text := by
  induction text with
  | nil => exact h
  | cons d text ih =>
      rw [normalizeEol, List.mem_append] at h
      rcases h with hfirst | hrest
      · unfold Xml.eol at hfirst
        split_ifs at hfirst
        · obtain rfl := List.mem_singleton.1 hfirst
          exact List.mem_cons_self
        · simp at hfirst
        · exact absurd (List.mem_singleton.1 hfirst) hline
      · exact List.mem_cons_of_mem _ (ih hrest)

/-- What is read of a prefix that was written. -/
def rereadFilter : Core.S3LifecycleFilter → Core.S3LifecycleFilter
  | .empty => .empty
  | .prefixed pre => .prefixed (String.ofList (trim (normalizeEol pre.toList)))

def rereadRule (rule : S3LifecycleRule) : S3LifecycleRule :=
  { rule with filter := rereadFilter rule.filter }

/-- The bounds of a prefix. -/
def validFilter (filter : Core.S3LifecycleFilter) : Prop :=
  ∀ pre, filter = .prefixed pre → Utf8.byteLength pre.toList ≤ 1024 ∧ '\x00' ∉ pre.toList

theorem filter_readBack {filter : Core.S3LifecycleFilter} (h : validFilter filter) (next : Forest) :
    ∃ children, nodes normalizeEol (filterForest (.fromCore filter) next) =
        element filterName [] children :: nodes normalizeEol next ∧
      parseS3LifecycleFilter (element filterName [] children) =
        .ok (.fromCore (rereadFilter filter)) := by
  cases filter with
  | empty => exact ⟨[], rfl, rfl⟩
  | prefixed pre =>
      refine ⟨[element prefixName (normalizeEol pre.toList) []], rfl, ?_⟩
      obtain ⟨hbytes, hzero⟩ := h pre rfl
      have hshorter : Utf8.byteLength (trim (normalizeEol pre.toList)) ≤ 1024 :=
        (byteLength_le_of_sublist (trim_sublist _)).trans
          ((byteLength_normalizeEol_le _).trans hbytes)
      have hnozero : '\x00' ∉ trim (normalizeEol pre.toList) := fun hmem =>
        hzero (mem_of_mem_normalizeEol (by decide) (Text.mem_of_mem_trim hmem))
      have hvalid : ¬ (1024 < Utf8.byteLength (trim (normalizeEol pre.toList)) ∨
          '\x00' ∈ trim (normalizeEol pre.toList)) := by
        rw [not_or]
        exact ⟨hshorter.not_gt, hnozero⟩
      rw [parseS3LifecycleFilter, validateS3Container_element, ok_bind]
      refine (if_pos rfl).trans ?_
      rw [s3LeafText_element, ok_bind, rejectIf, if_neg hvalid, ok_bind, rereadFilter,
        S3LifecycleFilter.fromCore, String.toList_ofList]
      rfl

theorem parseS3LifecycleNoncurrentExpiration_element {days : Nat} (h : IsCount days) :
    parseS3LifecycleNoncurrentExpiration (element noncurrentName []
      (nodes normalizeEol (leaf noncurrentDaysName (Nat.toDigits 10 days) .nil))) = .ok days := by
  have hdays := parseS3PositiveU32_element noncurrentDaysName h "NoncurrentDays"
  have hnewer : decide (noncurrentDaysName.text = "NewerNoncurrentVersions".toList) = false := by
    decide
  have hnone : ¬ ([element noncurrentDaysName (normalizeEol (Nat.toDigits 10 days)) []].any
      fun child => child.name = "NewerNoncurrentVersions".toList) = true := by
    rw [List.any_cons, List.any_nil, Bool.or_false, element, hnewer]
    exact Bool.false_ne_true
  rw [nodes_leaf, parseS3LifecycleNoncurrentExpiration, validateS3Container_element, ok_bind,
    rejectIf]
  refine ((congrArg (· >>= _) (if_neg hnone)).trans (ok_bind _ _)).trans ?_
  exact (if_pos rfl).trans hdays

theorem parseS3LifecycleAbortMultipart_element {days : Nat} (h : IsCount days) :
    parseS3LifecycleAbortMultipart (element abortName []
      (nodes normalizeEol (leaf daysAfterName (Nat.toDigits 10 days) .nil))) = .ok days := by
  have hdays := parseS3PositiveU32_element daysAfterName h "DaysAfterInitiation"
  rw [nodes_leaf, parseS3LifecycleAbortMultipart, validateS3Container_element, ok_bind]
  exact (if_pos rfl).trans hdays

theorem parseStatus_element (status : S3LifecycleRuleStatus) :
    parseStatus (element statusName (normalizeEol (statusText status)) []) = .ok status := by
  cases status
  · decide
  · decide

theorem parseId_element {id : Text} (hreturn : '\r' ∉ id) (htrim : trim id = id) (hne : id ≠ [])
    (hbytes : Utf8.byteLength id ≤ 255) :
    parseId (element idName (normalizeEol id) []) = .ok id := by
  rw [parseId, requiredS3LeafText_element idName hreturn htrim hne, ok_bind, rejectIf,
    if_neg (show ¬ maxS3LifecycleIdBytes < Utf8.byteLength id from hbytes.not_gt), ok_bind]
  rfl

section

variable {crates : DateCrates}

theorem not_named {child : S3ConfigurationXmlElement} {name other : String}
    (h : child.name = name.toList) (hne : name ≠ other) (p : Prop) :
    ¬ (child.name = other.toList ∧ p) := fun hother =>
  hne (String.toList_inj.1 (h.symm.trans hother.1))

section

variable {state : RuleState} {child : S3ConfigurationXmlElement}

theorem readChild_id {id : Text} (hname : child.name = "ID".toList) (hnone : state.id = none)
    (h : parseId child = .ok id) :
    state.readChild crates child = .ok { state with id := some id } := by
  rw [RuleState.readChild, if_pos ⟨hname, hnone⟩, h]
  rfl

theorem readChild_status {status : S3LifecycleRuleStatus} (hname : child.name = "Status".toList)
    (hnone : state.status = none) (h : parseStatus child = .ok status) :
    state.readChild crates child = .ok { state with status := some status } := by
  rw [RuleState.readChild, if_neg (not_named hname (by decide) _), if_pos ⟨hname, hnone⟩, h]
  rfl

theorem readChild_filter {filter : S3LifecycleFilter} (hname : child.name = "Filter".toList)
    (hnone : state.filter = none) (h : parseS3LifecycleFilter child = .ok filter) :
    state.readChild crates child = .ok { state with filter := some filter } := by
  rw [RuleState.readChild, if_neg (not_named hname (by decide) _),
    if_neg (not_named hname (by decide) _), if_pos ⟨hname, hnone⟩, h]
  rfl

theorem readChild_expiration {expiration : S3LifecycleExpiration}
    (hname : child.name = "Expiration".toList) (hnone : state.expiration = none)
    (h : parseS3LifecycleExpiration crates child = .ok expiration) :
    state.readChild crates child = .ok { state with expiration := some expiration } := by
  rw [RuleState.readChild, if_neg (not_named hname (by decide) _),
    if_neg (not_named hname (by decide) _), if_neg (not_named hname (by decide) _),
    if_pos ⟨hname, hnone⟩, h]
  rfl

theorem readChild_noncurrent {days : Nat}
    (hname : child.name = "NoncurrentVersionExpiration".toList)
    (hnone : state.noncurrentDays = none)
    (h : parseS3LifecycleNoncurrentExpiration child = .ok days) :
    state.readChild crates child = .ok { state with noncurrentDays := some days } := by
  rw [RuleState.readChild, if_neg (not_named hname (by decide) _),
    if_neg (not_named hname (by decide) _), if_neg (not_named hname (by decide) _),
    if_neg (not_named hname (by decide) _), if_pos ⟨hname, hnone⟩, h]
  rfl

theorem readChild_abort {days : Nat}
    (hname : child.name = "AbortIncompleteMultipartUpload".toList)
    (hnone : state.daysAfterInitiation = none)
    (h : parseS3LifecycleAbortMultipart child = .ok days) :
    state.readChild crates child = .ok { state with daysAfterInitiation := some days } := by
  rw [RuleState.readChild, if_neg (not_named hname (by decide) _),
    if_neg (not_named hname (by decide) _), if_neg (not_named hname (by decide) _),
    if_neg (not_named hname (by decide) _), if_neg (not_named hname (by decide) _),
    if_pos ⟨hname, hnone⟩, h]
  rfl

end

variable (crates) in
/-- Elements that lead from a state to another, before others. -/
def Reads (item : Forest → Forest) (state next : RuleState) : Prop :=
  ∀ rest, (nodes normalizeEol (item rest)).foldlM (RuleState.readChild crates) state =
    (nodes normalizeEol rest).foldlM (RuleState.readChild crates) next

theorem reads_cons {item : Forest → Forest} {state next : RuleState}
    {child : S3ConfigurationXmlElement}
    (hnodes : ∀ rest, nodes normalizeEol (item rest) = child :: nodes normalizeEol rest)
    (hread : state.readChild crates child = .ok next) : Reads crates item state next := by
  intro rest
  rw [hnodes, List.foldlM_cons, hread, ok_bind]

theorem reads_id {ident : Option String}
    (status filter expiration noncurrentDays daysAfterInitiation)
    (h : ∀ id ∈ ident, id.toList ≠ [] ∧ '\r' ∉ id.toList ∧ trim id.toList = id.toList ∧
      Utf8.byteLength id.toList ≤ 255) :
    Reads crates (optional (ident.map String.toList) (leaf idName))
      ⟨none, status, filter, expiration, noncurrentDays, daysAfterInitiation⟩
      ⟨ident.map String.toList, status, filter, expiration, noncurrentDays,
        daysAfterInitiation⟩ := by
  cases ident with
  | none => exact fun _ => rfl
  | some id =>
      obtain ⟨hne, hreturn, htrim, hbytes⟩ := h id rfl
      exact reads_cons (nodes_leaf idName id.toList)
        (readChild_id rfl rfl (parseId_element hreturn htrim hne hbytes))

theorem reads_filter {filter : Core.S3LifecycleFilter} (h : validFilter filter)
    {state : RuleState} (hnone : state.filter = none) :
    Reads crates (filterForest (.fromCore filter)) state
      { state with filter := some (.fromCore (rereadFilter filter)) } := by
  intro rest
  obtain ⟨children, hnodes, hparse⟩ := filter_readBack h rest
  rw [hnodes, List.foldlM_cons, readChild_filter rfl hnone hparse, ok_bind]

theorem reads_status (status : S3LifecycleRuleStatus) {state : RuleState}
    (hnone : state.status = none) :
    Reads crates (leaf statusName (statusText status)) state
      { state with status := some status } :=
  reads_cons (nodes_leaf statusName _) (readChild_status rfl hnone (parseStatus_element status))

theorem reads_noncurrent {count : Option Nat} (id status filter expiration daysAfterInitiation)
    (h : ∀ days ∈ count, IsCount days) :
    Reads crates
      (optional count fun days =>
        branch noncurrentName (leaf noncurrentDaysName (Nat.toDigits 10 days) .nil))
      ⟨id, status, filter, expiration, none, daysAfterInitiation⟩
      ⟨id, status, filter, expiration, count, daysAfterInitiation⟩ := by
  cases count with
  | none => exact fun _ => rfl
  | some days =>
      exact reads_cons (nodes_branch noncurrentName _)
        (readChild_noncurrent rfl rfl (parseS3LifecycleNoncurrentExpiration_element (h days rfl)))

theorem reads_abort {count : Option Nat} (id status filter expiration noncurrentDays)
    (h : ∀ days ∈ count, IsCount days) :
    Reads crates
      (optional count fun days =>
        branch abortName (leaf daysAfterName (Nat.toDigits 10 days) .nil))
      ⟨id, status, filter, expiration, noncurrentDays, none⟩
      ⟨id, status, filter, expiration, noncurrentDays, count⟩ := by
  cases count with
  | none => exact fun _ => rfl
  | some days =>
      exact reads_cons (nodes_branch abortName _)
        (readChild_abort rfl rfl (parseS3LifecycleAbortMultipart_element (h days rfl)))

theorem expiration_mapM_readBack {action : Option Core.S3Expiration}
    (h : ∀ expiration ∈ action, ExpirationFromXml crates expiration) :
    ∃ document, action.mapM (expirationFromCore crates) = .ok document ∧
      Takes (optional document fun expiration =>
          branch expirationName (expirationForest expiration))
        (action.elim 0 fun expiration =>
          elementBytes expirationName (expirationBytes expiration)) ∧
      ∃ again : Option S3LifecycleExpiration, again.mapM (expirationToCore crates) = .ok action ∧
        (again = none ↔ action = none) ∧
        ∀ id status filter noncurrentDays daysAfterInitiation,
          Reads crates
            (optional document fun expiration =>
              branch expirationName (expirationForest expiration))
            ⟨id, status, filter, none, noncurrentDays, daysAfterInitiation⟩
            ⟨id, status, filter, again, noncurrentDays, daysAfterInitiation⟩ := by
  cases action with
  | none =>
      exact ⟨none, rfl, fun _ => (Nat.zero_add _).symm, none, rfl, by simp,
        fun _ _ _ _ _ _ => rfl⟩
  | some expiration =>
      obtain ⟨document, hfrom, hbytes, again, hparse, hto⟩ :=
        expiration_readBack (h expiration rfl)
      refine ⟨some document, by rw [Option.mapM_some, hfrom]; rfl,
        takes_branch expirationName hbytes, some again, by rw [Option.mapM_some, hto]; rfl,
        by simp, fun _ _ _ _ _ => ?_⟩
      exact reads_cons (nodes_branch expirationName _) (readChild_expiration rfl rfl hparse)

variable (crates) in
/-- A rule as XML says it. -/
structure FromXml (rule : S3LifecycleRule) : Prop where
  id : ∀ id ∈ rule.id, id.toList ≠ [] ∧ '\r' ∉ id.toList ∧ trim id.toList = id.toList ∧
    Utf8.byteLength id.toList ≤ 255
  filter : validFilter rule.filter
  trimmed : ∀ pre, rule.filter = .prefixed pre → trim pre.toList = pre.toList
  expiration : ∀ expiration ∈ rule.expiration, ExpirationFromXml crates expiration
  noncurrentDays : ∀ days ∈ rule.noncurrentDays, IsCount days
  daysAfterInitiation : ∀ days ∈ rule.daysAfterInitiation, IsCount days
  acts : ¬ (rule.expiration = none ∧ rule.noncurrentDays = none ∧ rule.daysAfterInitiation = none)

/-- A rule that was written is read with what its prefix became. -/
theorem rule_readBack {rule : S3LifecycleRule} (h : FromXml crates rule) :
    ∃ document, ruleFromCore crates rule = .ok document ∧
      Takes (branch ruleName (ruleForest document)) (ruleBytes rule) ∧
      ∃ again, parseS3LifecycleRule crates
          (element ruleName [] (nodes normalizeEol (ruleForest document))) = .ok again ∧
        again.id = rule.id.map String.toList ∧
        ruleToCore crates again = .ok (rereadRule rule) := by
  obtain ⟨id, status, filter, action, noncurrentDays, daysAfterInitiation⟩ := rule
  obtain ⟨expiration, hfrom, hsize, again, hto, hnone, hread⟩ :=
    expiration_mapM_readBack h.expiration
  have hacts : ¬ (again = none ∧ noncurrentDays = none ∧ daysAfterInitiation = none) := by
    rw [hnone]
    exact h.acts
  refine ⟨⟨id.map String.toList, status, .fromCore filter, expiration, noncurrentDays,
    daysAfterInitiation⟩, by rw [ruleFromCore, hfrom]; rfl, ?_,
    ⟨id.map String.toList, status, .fromCore (rereadFilter filter), again, noncurrentDays,
      daysAfterInitiation⟩, ?_, rfl, ?_⟩
  · apply takes_branch
    rw [ruleForest, takes_id, takes_filterForest, takes_status, actionsForest, hsize,
      takes_optional (takes_count noncurrentName noncurrentDaysName),
      takes_optional (takes_count abortName daysAfterName)]
    rfl
  · have hchildren : (nodes normalizeEol (ruleForest ⟨id.map String.toList, status,
        .fromCore filter, expiration, noncurrentDays, daysAfterInitiation⟩)).foldlM
          (RuleState.readChild crates) ⟨none, none, none, none, none, none⟩ =
        .ok ⟨id.map String.toList, some status, some (.fromCore (rereadFilter filter)), again,
          noncurrentDays, daysAfterInitiation⟩ := by
      rw [ruleForest, reads_id _ _ _ _ _ h.id, reads_filter h.filter rfl, reads_status status rfl,
        actionsForest, hread, reads_noncurrent _ _ _ _ _ h.noncurrentDays,
        reads_abort _ _ _ _ _ h.daysAfterInitiation]
      rfl
    rw [parseS3LifecycleRule, validateS3Container_element, ok_bind]
    refine (congrArg (· >>= RuleState.finish) hchildren).trans ?_
    rw [ok_bind, RuleState.finish, rejectIf, if_neg hacts]
    rfl
  · have hid : (id.map String.toList).map String.ofList = id := by
      cases id with
      | none => rfl
      | some id => exact congrArg some (String.ofList_toList)
    have hfilter : (S3LifecycleFilter.fromCore (rereadFilter filter)).toCore =
        rereadFilter filter := by
      cases filter with
      | empty => rfl
      | prefixed pre => exact congrArg Core.S3LifecycleFilter.prefixed (String.ofList_toList)
    rw [ruleToCore, hto, ok_bind, hid, hfilter]
    rfl

end

theorem requiredS3LeafText_eq_ok {child : S3ConfigurationXmlElement} {value : Text}
    (h : requiredS3LeafText child = .ok value) : value ≠ [] ∧ trim value = value := by
  rw [requiredS3LeafText, bind_eq_ok_iff] at h
  obtain ⟨text, htext, h⟩ := h
  rw [andThen_eq_ok_iff, rejectIf_eq_ok_iff, pure_eq_ok_iff] at h
  obtain ⟨hne, rfl⟩ := h
  unfold s3LeafText at htext
  split at htext
  · obtain rfl := Except.ok.inj htext
    exact ⟨hne, Text.trim_trim child.text⟩
  · cases htext

theorem parseS3PositiveU32_eq_ok {child : S3ConfigurationXmlElement} {field : String} {days : Nat}
    (h : parseS3PositiveU32 child field = .ok days) : IsCount days := by
  rw [parseS3PositiveU32, bind_eq_ok_iff] at h
  obtain ⟨value, -, h⟩ := h
  split at h
  · next count hcount =>
      obtain rfl := pure_eq_ok_iff.1 h
      obtain ⟨hparse, hpositive⟩ := Option.filter_eq_some_iff.1 hcount
      obtain ⟨-, hmax⟩ := Option.filter_eq_some_iff.1 hparse
      exact ⟨of_decide_eq_true hpositive, of_decide_eq_true hmax⟩
  · cases h

section

variable (crates : DateCrates)

/-- An expiration as it is parsed. -/
def ExpirationParsed : S3LifecycleExpiration → Prop
  | .days days => IsCount days
  | .date date => ∃ text read, crates.parseFromRfc3339 text = some read ∧
      read.isMidnightUtc = true ∧ date = crates.toRfc3339 read
  | .expiredObjectDeleteMarker => True

/-- What has been parsed of a rule. -/
structure RuleState.Parsed (state : RuleState) : Prop where
  id : ∀ id ∈ state.id, id ≠ [] ∧ trim id = id ∧ Utf8.byteLength id ≤ 255
  filter : ∀ value, state.filter = some (.prefixed value) →
    trim value = value ∧ Utf8.byteLength value ≤ 1024 ∧ '\x00' ∉ value
  expiration : ∀ expiration ∈ state.expiration, ExpirationParsed crates expiration
  noncurrentDays : ∀ days ∈ state.noncurrentDays, IsCount days
  daysAfterInitiation : ∀ days ∈ state.daysAfterInitiation, IsCount days

variable {crates} {child : S3ConfigurationXmlElement}

theorem parseS3LifecycleExpiration_eq_ok {expiration : S3LifecycleExpiration}
    (h : parseS3LifecycleExpiration crates child = .ok expiration) :
    ExpirationParsed crates expiration := by
  rw [parseS3LifecycleExpiration, andThen_eq_ok_iff] at h
  obtain ⟨-, h⟩ := h
  split at h
  · split at h
    · obtain ⟨days, hdays, h⟩ := bind_eq_ok_iff.1 h
      obtain rfl := pure_eq_ok_iff.1 h
      exact parseS3PositiveU32_eq_ok hdays
    · split at h
      · obtain ⟨date, hdate, h⟩ := bind_eq_ok_iff.1 h
        obtain rfl := pure_eq_ok_iff.1 h
        obtain ⟨value, -, hread⟩ := bind_eq_ok_iff.1 hdate
        split at hread
        · cases hread
        · next read hparse =>
            rw [andThen_eq_ok_iff, rejectIf_eq_ok_iff, Bool.not_eq_false, pure_eq_ok_iff] at hread
            exact ⟨value, read, hparse, hread.1, hread.2.symm⟩
      · split at h
        · obtain ⟨value, -, h⟩ := bind_eq_ok_iff.1 h
          rw [andThen_eq_ok_iff, pure_eq_ok_iff] at h
          obtain ⟨-, rfl⟩ := h
          trivial
        · cases h
  · cases h

theorem parseS3LifecycleFilter_eq_ok {value : Text}
    (h : parseS3LifecycleFilter child = .ok (.prefixed value)) :
    trim value = value ∧ Utf8.byteLength value ≤ 1024 ∧ '\x00' ∉ value := by
  rw [parseS3LifecycleFilter, andThen_eq_ok_iff] at h
  obtain ⟨-, h⟩ := h
  split at h
  · cases h
  · split at h
    · obtain ⟨text, htext, h⟩ := bind_eq_ok_iff.1 h
      rw [andThen_eq_ok_iff, rejectIf_eq_ok_iff, not_or, not_lt, pure_eq_ok_iff] at h
      obtain ⟨⟨hbytes, hzero⟩, heq⟩ := h
      obtain rfl := S3LifecycleFilter.prefixed.inj heq
      unfold s3LeafText at htext
      split at htext
      · obtain rfl := Except.ok.inj htext
        exact ⟨Text.trim_trim _, hbytes, hzero⟩
      · cases htext
    · cases h
  · cases h

theorem parseId_eq_ok {id : Text} (h : parseId child = .ok id) :
    id ≠ [] ∧ trim id = id ∧ Utf8.byteLength id ≤ 255 := by
  rw [parseId, bind_eq_ok_iff] at h
  obtain ⟨value, hvalue, h⟩ := h
  rw [andThen_eq_ok_iff, rejectIf_eq_ok_iff, not_lt, pure_eq_ok_iff] at h
  obtain ⟨hbytes, rfl⟩ := h
  obtain ⟨hne, htrim⟩ := requiredS3LeafText_eq_ok hvalue
  exact ⟨hne, htrim, hbytes⟩

theorem parseS3LifecycleNoncurrentExpiration_eq_ok {days : Nat}
    (h : parseS3LifecycleNoncurrentExpiration child = .ok days) : IsCount days := by
  rw [parseS3LifecycleNoncurrentExpiration, andThen_eq_ok_iff, andThen_eq_ok_iff] at h
  obtain ⟨-, -, h⟩ := h
  split at h
  · split at h
    · exact parseS3PositiveU32_eq_ok h
    · cases h
  · cases h

theorem parseS3LifecycleAbortMultipart_eq_ok {days : Nat}
    (h : parseS3LifecycleAbortMultipart child = .ok days) : IsCount days := by
  rw [parseS3LifecycleAbortMultipart, andThen_eq_ok_iff] at h
  obtain ⟨-, h⟩ := h
  split at h
  · split at h
    · exact parseS3PositiveU32_eq_ok h
    · cases h
  · cases h

theorem RuleState.Parsed.readChild {state next : RuleState} (h : state.Parsed crates)
    (hread : state.readChild crates child = .ok next) : next.Parsed crates := by
  unfold RuleState.readChild at hread
  split at hread
  · obtain ⟨id, hid, hread⟩ := bind_eq_ok_iff.1 hread
    obtain rfl := pure_eq_ok_iff.1 hread
    exact { h with id := fun _ heq => Option.some.inj heq ▸ parseId_eq_ok hid }
  split at hread
  · obtain ⟨status, -, hread⟩ := bind_eq_ok_iff.1 hread
    obtain rfl := pure_eq_ok_iff.1 hread
    exact { h with }
  split at hread
  · obtain ⟨filter, hfilter, hread⟩ := bind_eq_ok_iff.1 hread
    obtain rfl := pure_eq_ok_iff.1 hread
    refine { h with filter := fun value heq => ?_ }
    obtain rfl := Option.some.inj heq
    exact parseS3LifecycleFilter_eq_ok hfilter
  split at hread
  · obtain ⟨expiration, hexpiration, hread⟩ := bind_eq_ok_iff.1 hread
    obtain rfl := pure_eq_ok_iff.1 hread
    exact { h with expiration := fun _ heq =>
      Option.some.inj heq ▸ parseS3LifecycleExpiration_eq_ok hexpiration }
  split at hread
  · obtain ⟨days, hdays, hread⟩ := bind_eq_ok_iff.1 hread
    obtain rfl := pure_eq_ok_iff.1 hread
    exact { h with noncurrentDays := fun _ heq =>
      Option.some.inj heq ▸ parseS3LifecycleNoncurrentExpiration_eq_ok hdays }
  split at hread
  · obtain ⟨days, hdays, hread⟩ := bind_eq_ok_iff.1 hread
    obtain rfl := pure_eq_ok_iff.1 hread
    exact { h with daysAfterInitiation := fun _ heq =>
      Option.some.inj heq ▸ parseS3LifecycleAbortMultipart_eq_ok hdays }
  split at hread
  · cases hread
  split at hread
  · cases hread
  · cases hread

theorem parseS3LifecycleRule_eq_ok {document : S3LifecycleRuleDocument}
    (h : parseS3LifecycleRule crates child = .ok document) :
    ∃ state : RuleState, state.Parsed crates ∧ state.finish = .ok document := by
  rw [parseS3LifecycleRule, andThen_eq_ok_iff] at h
  obtain ⟨-, h⟩ := h
  obtain ⟨state, hstate, hfinish⟩ := bind_eq_ok_iff.1 h
  have hinitial : RuleState.Parsed crates ⟨none, none, none, none, none, none⟩ := by
    constructor
    all_goals simp
  refine ⟨state, ?_, hfinish⟩
  exact foldlM_invariant (fun child _ state next hparsed hread => hparsed.readChild hread)
    hinitial hstate

theorem ExpirationParsed.toCore {document : S3LifecycleExpiration} {expiration : Core.S3Expiration}
    (h : ExpirationParsed crates document)
    (hcore : expirationToCore crates document = .ok expiration) :
    ExpirationFromXml crates expiration := by
  cases document with
  | days days =>
      obtain rfl := Except.ok.inj hcore
      exact h
  | date date =>
      obtain ⟨text, read, hread, hmidnight, rfl⟩ := h
      rw [expirationToCore, crates.parse_toRfc3339 text read hread hmidnight] at hcore
      obtain rfl := Except.ok.inj hcore
      exact ⟨text, read, hread, hmidnight, rfl⟩
  | expiredObjectDeleteMarker =>
      obtain rfl := Except.ok.inj hcore
      trivial

/-- Either both of the expirations are there, or neither is. -/
theorem expiration_mapM_toCore {document : Option S3LifecycleExpiration}
    {action : Option Core.S3Expiration}
    (h : ∀ expiration ∈ document, ExpirationParsed crates expiration)
    (hcore : document.mapM (expirationToCore crates) = .ok action) :
    (document = none ↔ action = none) ∧
      ∀ expiration ∈ action, ExpirationFromXml crates expiration := by
  cases document with
  | none =>
      obtain rfl := Except.ok.inj hcore
      simp
  | some document =>
      rw [Option.mapM_some] at hcore
      obtain ⟨expiration, hexpiration, hsome⟩ := bind_eq_ok_iff.1 hcore
      obtain rfl := pure_eq_ok_iff.1 hsome
      refine ⟨by simp, ?_⟩
      rintro _ ⟨⟩
      exact (h document rfl).toCore hexpiration

theorem not_mem_of_valid {rule : S3LifecycleRule} (h : rule.isValid = true) :
    ∀ id ∈ rule.id, '\r' ∉ id.toList := by
  intro id hid hreturn
  have hcontrol : Core.hasAsciiControl id = true := List.any_eq_true.2 ⟨'\r', hreturn, by decide⟩
  simp only [S3LifecycleRule.isValid, Option.mem_def.1 hid, hcontrol] at h
  simp at h

theorem RuleState.Parsed.fromXml {state : RuleState} {document : S3LifecycleRuleDocument}
    {rule : S3LifecycleRule} (h : state.Parsed crates) (hfinish : state.finish = .ok document)
    (hcore : ruleToCore crates document = .ok rule) (hvalid : rule.isValid = true) :
    FromXml crates rule := by
  unfold RuleState.finish at hfinish
  split at hfinish
  · cases hfinish
  · cases hfinish
  · next filter status hfilter hstatus =>
      rw [andThen_eq_ok_iff, rejectIf_eq_ok_iff, pure_eq_ok_iff] at hfinish
      obtain ⟨hacts, rfl⟩ := hfinish
      obtain ⟨action, haction, hrule⟩ := bind_eq_ok_iff.1 hcore
      obtain rfl := pure_eq_ok_iff.1 hrule
      obtain ⟨hnone, hexpiration⟩ := expiration_mapM_toCore h.expiration haction
      have hpre : ∀ pre, filter.toCore = .prefixed pre →
          trim pre.toList = pre.toList ∧ Utf8.byteLength pre.toList ≤ 1024 ∧
            '\x00' ∉ pre.toList := by
        intro pre heq
        cases filter with
        | empty => cases heq
        | prefixed value =>
            obtain rfl := Core.S3LifecycleFilter.prefixed.inj heq
            rw [String.toList_ofList]
            exact h.filter value hfilter
      refine ⟨?_, fun pre heq => (hpre pre heq).2, fun pre heq => (hpre pre heq).1,
        hexpiration, h.noncurrentDays, h.daysAfterInitiation, ?_⟩
      · intro id hid
        have hreturn := not_mem_of_valid hvalid id hid
        obtain ⟨text, htext, rfl⟩ := Option.map_eq_some_iff.1 hid
        rw [String.toList_ofList] at hreturn ⊢
        obtain ⟨hne, htrim, hbytes⟩ := h.id text htext
        exact ⟨hne, hreturn, htrim, hbytes⟩
      · rw [← hnone]
        exact hacts

theorem parseRules_eq_ok {ids : List Text} {children : List S3ConfigurationXmlElement}
    {documents : List S3LifecycleRuleDocument}
    (h : parseRules crates ids children = .ok documents) :
    ∀ document ∈ documents, ∃ state : RuleState, state.Parsed crates ∧
      state.finish = .ok document := by
  induction children generalizing ids documents with
  | nil =>
      obtain rfl := pure_eq_ok_iff.1 h
      simp
  | cons child children ih =>
      rw [parseRules, andThen_eq_ok_iff] at h
      obtain ⟨-, h⟩ := h
      obtain ⟨rule, hrule, h⟩ := bind_eq_ok_iff.1 h
      rw [andThen_eq_ok_iff] at h
      obtain ⟨-, h⟩ := h
      obtain ⟨rules, hrules, h⟩ := bind_eq_ok_iff.1 h
      obtain rfl := pure_eq_ok_iff.1 h
      rw [List.forall_mem_cons]
      exact ⟨parseS3LifecycleRule_eq_ok hrule, ih hrules⟩

theorem newConfiguration_eq_ok_iff {rules : List S3LifecycleRule}
    {configuration : S3LifecycleConfiguration} :
    newConfiguration rules = .ok configuration ↔ rules = configuration.rules := by
  constructor
  · intro h
    unfold newConfiguration at h
    split at h
    · obtain rfl := Except.ok.inj h
      rfl
    · cases h
  · rintro rfl
    exact dif_pos configuration.valid

theorem s3LifecycleDocumentToCore_eq_ok_iff {document : S3LifecycleDocument}
    {configuration : S3LifecycleConfiguration} :
    s3LifecycleDocumentToCore crates document = .ok configuration ↔
      document.schemaVersion = 1 ∧
        document.rules.mapM (ruleToCore crates) = .ok configuration.rules := by
  rw [s3LifecycleDocumentToCore, andThen_eq_ok_iff, rejectIf_eq_ok_iff, not_not, bind_eq_ok_iff]
  simp only [newConfiguration_eq_ok_iff, exists_eq_right]

/-- The rules of a configuration from XML. -/
theorem fromXml_of_accepted {reader : Xml.Reader} {input : List UInt8}
    {document : S3LifecycleDocument} {configuration : S3LifecycleConfiguration}
    (hparse : parseS3BucketLifecycleXml reader crates input = .ok document)
    (hcore : s3LifecycleDocumentToCore crates document = .ok configuration) :
    ∀ rule ∈ configuration.rules, FromXml crates rule := by
  intro rule hrule
  obtain ⟨root, -, hparse⟩ := bind_eq_ok_iff.1 hparse
  rw [andThen_eq_ok_iff, andThen_eq_ok_iff] at hparse
  obtain ⟨-, -, hparse⟩ := hparse
  obtain ⟨rules, hrules, hdocument⟩ := bind_eq_ok_iff.1 hparse
  obtain rfl := pure_eq_ok_iff.1 hdocument
  obtain ⟨-, hmap⟩ := s3LifecycleDocumentToCore_eq_ok_iff.1 hcore
  obtain ⟨ruleDocument, hmem, htoCore⟩ := exists_of_mem_mapM hmap hrule
  obtain ⟨state, hparsed, hfinish⟩ := parseRules_eq_ok hrules ruleDocument hmem
  have hvalid := configuration.valid
  simp only [Core.validLifecycleRules, Bool.and_eq_true, List.all_eq_true] at hvalid
  exact hparsed.fromXml hfinish htoCore (hvalid.1.2 rule hrule)

/-- The ids of the other rules are new after the first one. -/
theorem fresh_ids {rule : S3LifecycleRule} {rules : List S3LifecycleRule} {ids : List Text}
    (hnodup : ((rule :: rules).filterMap S3LifecycleRule.id).Nodup)
    (hids : ∀ id ∈ (rule :: rules).filterMap S3LifecycleRule.id, id.toList ∉ ids) :
    ¬ (rule.id.map String.toList).any (· ∈ ids) = true ∧
      (rules.filterMap S3LifecycleRule.id).Nodup ∧
      ∀ id ∈ rules.filterMap S3LifecycleRule.id,
        id.toList ∉ (rule.id.map String.toList).elim ids (· :: ids) := by
  cases hid : rule.id with
  | none =>
      rw [List.filterMap_cons_none hid] at hnodup hids
      exact ⟨by simp, hnodup, hids⟩
  | some id =>
      rw [List.filterMap_cons_some hid] at hnodup hids
      rw [List.nodup_cons] at hnodup
      rw [List.forall_mem_cons] at hids
      refine ⟨by simpa using hids.1, hnodup.2, fun other hother hmem => ?_⟩
      rcases List.mem_cons.1 hmem with heq | hmem
      · exact hnodup.1 (String.toList_inj.1 heq ▸ hother)
      · exact hids.2 other hother hmem

theorem rules_readBack {rules : List S3LifecycleRule} (h : ∀ rule ∈ rules, FromXml crates rule)
    (hnodup : (rules.filterMap S3LifecycleRule.id).Nodup) {ids : List Text}
    (hids : ∀ id ∈ rules.filterMap S3LifecycleRule.id, id.toList ∉ ids) :
    ∃ documents, rules.mapM (ruleFromCore crates) = .ok documents ∧
      Utf8.byteLength (rulesForest documents).write = (rules.map ruleBytes).sum ∧
      (nodes normalizeEol (rulesForest documents)).length = rules.length ∧
      ∃ again, parseRules crates ids (nodes normalizeEol (rulesForest documents)) = .ok again ∧
        again.mapM (ruleToCore crates) = .ok (rules.map rereadRule) := by
  induction rules generalizing ids with
  | nil => exact ⟨[], rfl, rfl, rfl, [], rfl, rfl⟩
  | cons rule rules ih =>
      rw [List.forall_mem_cons] at h
      obtain ⟨document, hfrom, hsize, read, hparse, hid, hto⟩ := rule_readBack h.1
      obtain ⟨hfresh, hrest, hothers⟩ := fresh_ids hnodup hids
      rw [← hid] at hfresh hothers
      obtain ⟨documents, hfroms, hsizes, hlength, again, hrules, htos⟩ := ih h.2 hrest hothers
      refine ⟨document :: documents, mapM_cons_eq_ok_iff.2 ⟨_, _, hfrom, hfroms, rfl⟩, ?_, ?_,
        read :: again, ?_, mapM_cons_eq_ok_iff.2 ⟨_, _, hto, htos, rfl⟩⟩
      · rw [rulesForest, hsize, hsizes, List.map_cons, List.sum_cons]
      · rw [rulesForest, nodes_branch, List.length_cons, List.length_cons, hlength]
      · have hname : ¬ (ruleName.text ≠ "Rule".toList) := by decide
        rw [rulesForest, nodes_branch, parseRules, rejectIf]
        refine ((congrArg (· >>= _) (if_neg hname)).trans (ok_bind _ _)).trans ?_
        rw [hparse, ok_bind, rejectIf, if_neg hfresh, ok_bind, hrules, ok_bind]
        rfl

/-- Rules of a configuration that is converted, written, parsed and converted again. -/
theorem configuration_readBack (reader : Xml.Reader) {configuration : S3LifecycleConfiguration}
    (h : ∀ rule ∈ configuration.rules, FromXml crates rule) :
    ∃ document, s3LifecycleDocumentFromCore crates configuration = .ok document ∧
      ∃ again : S3LifecycleDocument,
        parseS3BucketLifecycleXml reader crates (Utf8.bytes (s3BucketLifecycleXml document)) =
          (if maxS3BucketConfigurationBytes < configurationBytes configuration then
            .error .malformedXml else .ok again) ∧
        again.schemaVersion = 1 ∧
        again.rules.mapM (ruleToCore crates) = .ok (configuration.rules.map rereadRule) := by
  have hvalid := configuration.valid
  simp only [Core.validLifecycleRules, Bool.and_eq_true, decide_eq_true_eq] at hvalid
  obtain ⟨⟨⟨hne, hlength⟩, -⟩, hnodup⟩ := hvalid
  obtain ⟨documents, hfrom, hsize, hcount, again, hparse, hto⟩ :=
    @rules_readBack crates _ h hnodup [] fun _ _ => List.not_mem_nil
  refine ⟨⟨1, documents⟩, ?_, ⟨1, again⟩, ?_, rfl, hto⟩
  · rw [s3LifecycleDocumentFromCore, hfrom]
    rfl
  · have hbytes : Utf8.byteLength (xmlDocument ⟨1, documents⟩).write =
        configurationBytes configuration := by
      rw [byteLength_xmlDocument, hsize]
      rfl
    have hroot : validateS3ConfigurationRoot
        (documentNode normalizeEol (xmlDocument ⟨1, documents⟩)) "LifecycleConfiguration" =
          .ok () := by
      rw [validateS3ConfigurationRoot, andThen_eq_ok_iff, rejectIf_eq_ok_iff, rejectIf_eq_ok_iff,
        not_or, not_not, not_not]
      exact ⟨⟨rfl, rfl⟩, fun hattributes => hattributes.2 rfl⟩
    have hchildren : ¬ ((documentNode normalizeEol (xmlDocument ⟨1, documents⟩)).children = [] ∨
        maxS3LifecycleRules <
          (documentNode normalizeEol (xmlDocument ⟨1, documents⟩)).children.length) := by
      have hnodes : (documentNode normalizeEol (xmlDocument ⟨1, documents⟩)).children.length =
          configuration.rules.length := hcount
      rw [not_or, hnodes]
      exact ⟨List.ne_nil_of_length_pos (hnodes ▸ List.length_pos_iff.2 hne), hlength.not_gt⟩
    rw [s3BucketLifecycleXml_eq, parseS3BucketLifecycleXml,
      parseS3ConfigurationXml_write reader (allTags_xmlDocument _), hbytes]
    split
    · rfl
    · rw [ok_bind, hroot, ok_bind, rejectIf, if_neg hchildren, ok_bind]
      refine (congrArg (· >>= _) hparse).trans ?_
      rfl

/-- A rule is read as it was where its prefix has no carriage return. -/
theorem rereadRule_eq_self_iff {rule : S3LifecycleRule} (h : FromXml crates rule) :
    rereadRule rule = rule ↔ ∀ pre, rule.filter = .prefixed pre → '\r' ∉ pre.toList := by
  obtain ⟨id, status, filter, action, noncurrentDays, daysAfterInitiation⟩ := rule
  have hfilter : rereadRule ⟨id, status, filter, action, noncurrentDays, daysAfterInitiation⟩ =
      ⟨id, status, filter, action, noncurrentDays, daysAfterInitiation⟩ ↔
        rereadFilter filter = filter := by
    simp [rereadRule]
  rw [hfilter]
  cases filter with
  | empty => simp [rereadFilter]
  | prefixed pre =>
      have htrim : trim pre.toList = pre.toList := h.trimmed pre rfl
      have hsame : rereadFilter (.prefixed pre) = .prefixed pre ↔
          trim (normalizeEol pre.toList) = pre.toList := by
        rw [rereadFilter, Core.S3LifecycleFilter.prefixed.injEq, ← String.toList_inj,
          String.toList_ofList]
      rw [hsame]
      constructor
      · rintro heq _ ⟨⟩ hreturn
        rw [← heq] at hreturn
        exact Xml.not_mem_normalizeEol _ (Text.mem_of_mem_trim hreturn)
      · intro hreturn
        rw [Xml.normalizeEol_eq_self_iff.2 (hreturn pre rfl), htrim]

variable (crates) in
/-- Converted back, written, parsed and converted again, a configuration is the same. -/
def RoundTrips (reader : Xml.Reader) (configuration : S3LifecycleConfiguration) : Prop :=
  ∃ document, s3LifecycleDocumentFromCore crates configuration = .ok document ∧
    ∃ again, parseS3BucketLifecycleXml reader crates (Utf8.bytes (s3BucketLifecycleXml document)) =
        .ok again ∧
      s3LifecycleDocumentToCore crates again = .ok configuration

/-- Rules that XML says come back the same where they fit and no prefix has a carriage return. -/
theorem roundTrips_iff_of_fromXml (reader : Xml.Reader) {configuration : S3LifecycleConfiguration}
    (hrules : ∀ rule ∈ configuration.rules, FromXml crates rule) :
    RoundTrips crates reader configuration ↔
      (∀ rule ∈ configuration.rules, ∀ pre, rule.filter = .prefixed pre → '\r' ∉ pre.toList) ∧
        configurationBytes configuration ≤ maxS3BucketConfigurationBytes := by
  obtain ⟨written, hfrom, again, hagain, hversion, hmap⟩ := configuration_readBack reader hrules
  have hsame : configuration.rules.map rereadRule = configuration.rules ↔
      ∀ rule ∈ configuration.rules, ∀ pre, rule.filter = .prefixed pre → '\r' ∉ pre.toList := by
    have hmap : configuration.rules.map rereadRule = configuration.rules.map id ↔
        ∀ rule ∈ configuration.rules, rereadRule rule = id rule :=
      List.map_inj_left
    rw [List.map_id] at hmap
    exact hmap.trans (forall₂_congr fun rule hrule => rereadRule_eq_self_iff (hrules rule hrule))
  rw [← hsame]
  constructor
  · rintro ⟨written', hfrom', again', hagain', hto⟩
    obtain rfl := Except.ok.inj (hfrom.symm.trans hfrom')
    rw [hagain] at hagain'
    split at hagain'
    · cases hagain'
    · next hsize =>
        obtain rfl := Except.ok.inj hagain'
        obtain ⟨-, hconverted⟩ := s3LifecycleDocumentToCore_eq_ok_iff.1 hto
        exact ⟨Except.ok.inj (hmap.symm.trans hconverted), not_lt.1 hsize⟩
  · rintro ⟨heq, hsize⟩
    refine ⟨written, hfrom, again, ?_, ?_⟩
    · rw [hagain, if_neg hsize.not_gt]
    · rw [s3LifecycleDocumentToCore_eq_ok_iff, hmap, heq]
      exact ⟨hversion, rfl⟩

theorem lifecycle_roundTrips_iff (reader : Xml.Reader) {input : List UInt8}
    {document : S3LifecycleDocument} {configuration : S3LifecycleConfiguration}
    (hparse : parseS3BucketLifecycleXml reader crates input = .ok document)
    (hcore : s3LifecycleDocumentToCore crates document = .ok configuration) :
    RoundTrips crates reader configuration ↔
      (∀ rule ∈ configuration.rules, ∀ pre, rule.filter = .prefixed pre → '\r' ∉ pre.toList) ∧
        configurationBytes configuration ≤ maxS3BucketConfigurationBytes :=
  roundTrips_iff_of_fromXml reader (fromXml_of_accepted hparse hcore)

end

/-- The first of January 2030 as the crates know it. -/
def exampleCrates : DateCrates where
  parseFromRfc3339 text :=
    if text = "2030-01-01T00:00:00Z".toList ∨ text = "2030-01-01T00:00:00.000Z".toList then
      some ⟨21915, 0, 0⟩
    else none
  toRfc3339 _ := "2030-01-01T00:00:00.000Z".toList
  parse text :=
    if text = "2030-01-01T00:00:00.000Z".toList then some (Time.days 21915) else none
  format _ := .ok "2030-01-01T00:00:00Z".toList
  parse_toRfc3339 text date h _ := by
    obtain ⟨-, hdate⟩ := Option.ite_none_right_eq_some.1 h
    obtain rfl := Option.some.inj hdate
    rfl
  format_read text date h _ := by
    obtain ⟨-, hdate⟩ := Option.ite_none_right_eq_some.1 h
    obtain rfl := Option.some.inj hdate
    refine ⟨_, rfl, by decide, ?_, by decide⟩
    have hall : "2030-01-01T00:00:00Z".toList.all (fun c => dateCharacters.contains c) = true := by
      decide
    exact fun c hc => List.contains_iff_mem.1 (List.all_eq_true.1 hall c hc)

/-- Decimal references are to characters. -/
def resolveCharacter : Xml.Event → Xml.Event
  | .generalRef (some none) (some ('#' :: digits)) =>
      .generalRef ((parseU32 digits).map fun n => some (Char.ofNat n)) (some ('#' :: digits))
  | event => event

theorem resolveCharacter_report (token : Token) :
    resolveCharacter token.report = token.report := by
  cases token with
  | reference name =>
      have hname : ∀ digits, name.text ≠ '#' :: digits := by
        intro digits heq
        have hletter := name.letter_first
        rw [heq] at hletter
        exact absurd hletter (show ¬ Char.isAlpha '#' = true by decide)
      unfold resolveCharacter
      split
      · next digits heq =>
          exact absurd (Option.some.inj (Xml.Event.generalRef.inj heq).2) (hname digits)
      · rfl
  | declaration => rfl
  | start tag => rfl
  | finish name => rfl
  | text run => rfl

/-- A reader that knows references to characters. -/
def characterReader : Xml.Reader where
  events input := (Xml.plainReader.events input).map fun event => event.map resolveCharacter
  reads tokens h := by
    rw [Xml.plainReader.reads tokens h, List.map_map]
    exact List.map_congr_left fun token _ => congrArg some (resolveCharacter_report token)

theorem events_bytes (text : Text) : characterReader.events (Utf8.bytes text) =
    (Xml.PlainReader.readEvents text.length text).map fun event => event.map resolveCharacter := by
  have hevents : Xml.PlainReader.events (Utf8.bytes text) =
      Xml.PlainReader.readEvents text.length text := by
    unfold Xml.PlainReader.events
    rw [Utf8.ofBytes_bytes]
  exact congrArg (List.map _) hevents

def exampleRules : List S3LifecycleRule :=
  [⟨some "a", .enabled, .prefixed "logs/&", some (.date (Time.days 21915)), none, none⟩,
    ⟨none, .disabled, .empty, none, some 30, some 7⟩]

def exampleText : Text :=
  "<LifecycleConfiguration><Rule><ID>a</ID><Status>Enabled</Status><Filter><Prefix>".toList ++
    "logs/&amp;</Prefix></Filter><Expiration><Date>2030-01-01T00:00:00Z</Date>".toList ++
    "</Expiration></Rule><Rule><Filter></Filter><AbortIncompleteMultipartUpload>".toList ++
    "<DaysAfterInitiation>7</DaysAfterInitiation></AbortIncompleteMultipartUpload>".toList ++
    "<NoncurrentVersionExpiration><NoncurrentDays>30</NoncurrentDays>".toList ++
    "</NoncurrentVersionExpiration><Status>Disabled</Status></Rule>".toList ++
    "</LifecycleConfiguration>".toList

def exampleDocument : S3LifecycleDocument where
  schemaVersion := 1
  rules := [
    ⟨some "a".toList, .enabled, .prefixed "logs/&".toList,
      some (.date "2030-01-01T00:00:00.000Z".toList), none, none⟩,
    ⟨none, .disabled, .empty, none, some 30, some 7⟩]

theorem lifecycle_roundTrips_iff_example :
    ∃ (document : S3LifecycleDocument) (configuration : S3LifecycleConfiguration),
      parseS3BucketLifecycleXml characterReader exampleCrates (Utf8.bytes exampleText) =
        .ok document ∧
      s3LifecycleDocumentToCore exampleCrates document = .ok configuration ∧
      configuration.rules = exampleRules ∧
      RoundTrips exampleCrates characterReader configuration := by
  have hparse : parseS3BucketLifecycleXml characterReader exampleCrates
      (Utf8.bytes exampleText) = .ok exampleDocument := by
    rw [parseS3BucketLifecycleXml, parseS3ConfigurationXml, events_bytes]
    decide +kernel
  let configuration : S3LifecycleConfiguration := ⟨exampleRules, by decide⟩
  have hcore : s3LifecycleDocumentToCore exampleCrates exampleDocument = .ok configuration :=
    s3LifecycleDocumentToCore_eq_ok_iff.2 ⟨rfl, by decide +kernel⟩
  have hreturn : ∀ rule ∈ configuration.rules, ∀ pre, rule.filter = .prefixed pre →
      '\r' ∉ pre.toList := by
    intro rule hrule pre hpre
    rcases List.mem_pair.1 hrule with rfl | rfl
    · obtain rfl := Core.S3LifecycleFilter.prefixed.inj hpre
      decide
    · cases hpre
  exact ⟨_, configuration, hparse, hcore, rfl,
    (lifecycle_roundTrips_iff characterReader hparse hcore).2 ⟨hreturn, by decide +kernel⟩⟩

/-- A carriage return in a prefix comes back as a line feed. -/
def returnText : Text :=
  "<LifecycleConfiguration><Rule><Status>Enabled</Status><Filter><Prefix>a&#13;b".toList ++
    "</Prefix></Filter><Expiration><Days>30</Days></Expiration></Rule>".toList ++
    "</LifecycleConfiguration>".toList

def returnDocument : S3LifecycleDocument :=
  ⟨1, [⟨none, .enabled, .prefixed "a\rb".toList, some (.days 30), none, none⟩]⟩

theorem lifecycle_carriageReturn :
    ∃ (document : S3LifecycleDocument) (configuration : S3LifecycleConfiguration),
      parseS3BucketLifecycleXml characterReader exampleCrates (Utf8.bytes returnText) =
        .ok document ∧
      s3LifecycleDocumentToCore exampleCrates document = .ok configuration ∧
      configuration.rules =
        [⟨none, .enabled, .prefixed "a\rb", some (.days 30), none, none⟩] ∧
      ¬ RoundTrips exampleCrates characterReader configuration := by
  have hparse : parseS3BucketLifecycleXml characterReader exampleCrates
      (Utf8.bytes returnText) = .ok returnDocument := by
    rw [parseS3BucketLifecycleXml, parseS3ConfigurationXml, events_bytes]
    decide +kernel
  let configuration : S3LifecycleConfiguration :=
    ⟨[⟨none, .enabled, .prefixed "a\rb", some (.days 30), none, none⟩], by decide⟩
  have hcore : s3LifecycleDocumentToCore exampleCrates returnDocument = .ok configuration :=
    s3LifecycleDocumentToCore_eq_ok_iff.2 ⟨rfl, by decide +kernel⟩
  refine ⟨_, configuration, hparse, hcore, rfl, fun hround => ?_⟩
  obtain ⟨hreturn, -⟩ := (roundTrips_iff_of_fromXml characterReader
    (fromXml_of_accepted hparse hcore)).1 hround
  exact hreturn _ List.mem_cons_self "a\rb" rfl (by decide)

end MediaHub.Http.Lifecycle
