import Mathlib.Data.List.Infix
import MediaHub.Core.Cors
import MediaHub.Pattern.Wildcard

namespace MediaHub.Http

open Result
open MediaHub.Core (S3CorsConfiguration S3CorsMethod S3CorsRule isAscii)

structure S3CorsDecision where
  allowOrigin : Text
  allowMethods : List S3CorsMethod
  allowHeaders : List Text
  exposeHeaders : List Text
  maxAgeSeconds : Option Nat

def wildcardMatches (pattern value : Text) : Bool :=
  match Text.splitOnce '*' pattern with
  | none => pattern = value
  | some (before, after) =>
      Utf8.byteLength before + Utf8.byteLength after ≤ Utf8.byteLength value &&
        before.isPrefixOf value && after.isSuffixOf value

def wildcardMatchesAsciiCaseInsensitive (pattern value : Text) : Bool :=
  wildcardMatches (toAsciiLowercase pattern) (toAsciiLowercase value)

def findMatchingRule (configuration : S3CorsConfiguration) (origin : Text) (method : S3CorsMethod)
    (requestedHeaders : List Text) : Option S3CorsRule :=
  configuration.rules.find? fun rule =>
    (rule.allowedOrigins.any fun pattern => wildcardMatches pattern origin) &&
      rule.allowedMethods.contains method &&
      requestedHeaders.all fun requestedHeader =>
        requestedHeader ≠ [] && isAscii requestedHeader &&
          rule.allowedHeaders.any fun pattern =>
            wildcardMatchesAsciiCaseInsensitive pattern requestedHeader

/-- The origin of the request is echoed. -/
def decisionFor (rule : S3CorsRule) (origin : Text) (allowMethods : List S3CorsMethod)
    (allowHeaders : List Text) : S3CorsDecision where
  allowOrigin := origin
  allowMethods
  allowHeaders
  exposeHeaders := rule.exposeHeaders
  maxAgeSeconds := rule.maxAgeSeconds

def evaluateS3CorsActualRequest (configuration : S3CorsConfiguration) (origin : Text)
    (method : S3CorsMethod) : Option S3CorsDecision :=
  (findMatchingRule configuration origin method []).map fun rule =>
    decisionFor rule origin rule.allowedMethods []

def evaluateS3CorsPreflight (configuration : S3CorsConfiguration) (origin : Text)
    (requestedMethod : S3CorsMethod) (requestedHeaders : List Text) : Option S3CorsDecision :=
  (findMatchingRule configuration origin requestedMethod requestedHeaders).map fun rule =>
    decisionFor rule origin [requestedMethod] requestedHeaders

/-- Why a preflight is refused before and after its bucket is read. -/
inductive S3CorsRefusal where
  | header (name : String)
  | method
  | requestedHeaders
  | requestedHeaderName
  | notEnabled
  | notAllowed

def parseS3CorsMethod (value : Text) : Option S3CorsMethod :=
  S3CorsMethod.all.find? fun method => method.asStr.toList = value

def singleS3CorsHeader (headers : HeaderMap) (name : String) : Option Text :=
  match headers.getAll name.toList with
  | [value] => value.toStr.filter fun value => value ≠ []
  | _ => none

def requiredSingleS3CorsHeader (headers : HeaderMap) (name : String) :
    Except S3CorsRefusal Text :=
  match singleS3CorsHeader headers name with
  | some value => .ok value
  | none => .error (.header name)

/-- `HeaderName::from_bytes` succeeds: a token of at most 65535 bytes. -/
def isHeaderName (name : Text) : Bool :=
  name ≠ [] && name.length ≤ 65535 && name.all Core.isHttpTokenByte

def requestedHeaderName (name : Text) : Except S3CorsRefusal Text := do
  rejectIf (name = [] ∨ isHeaderName name = false) .requestedHeaderName
  return name

def requestedHeaderNames (value : HeaderValue) : Except S3CorsRefusal (List Text) :=
  match value.toStr with
  | none => .error .requestedHeaders
  | some value => ((value.splitOn ',').map trim).mapM requestedHeaderName

def parseS3CorsRequestedHeaders (headers : HeaderMap) : Except S3CorsRefusal (List Text) := do
  let requested ← (headers.getAll "access-control-request-headers".toList).mapM
    requestedHeaderNames
  return requested.flatten

/-- `s3_options_for_bucket`, from the headers and the configuration of the bucket to the
decision. -/
def s3OptionsForBucket (configuration : Option S3CorsConfiguration) (headers : HeaderMap) :
    Except S3CorsRefusal S3CorsDecision := do
  let origin ← requiredSingleS3CorsHeader headers "origin"
  let requestedMethod ← requiredSingleS3CorsHeader headers "access-control-request-method"
  match parseS3CorsMethod requestedMethod with
  | none => throw .method
  | some requestedMethod => do
      let requestedHeaders ← parseS3CorsRequestedHeaders headers
      match configuration with
      | none => throw .notEnabled
      | some configuration =>
          match evaluateS3CorsPreflight configuration origin requestedMethod requestedHeaders with
          | none => throw .notAllowed
          | some decision => return decision

/-- `s3_cors_response_middleware`: what is added to the response of a request that is not `OPTIONS`
and names a bucket with the configuration. -/
def s3CorsResponseDecision (configuration : Option S3CorsConfiguration) (method : Text)
    (headers : HeaderMap) : Option S3CorsDecision := do
  let origin ← singleS3CorsHeader headers "origin"
  let method ← parseS3CorsMethod method
  let configuration ← configuration
  evaluateS3CorsActualRequest configuration origin method

/-- A star stands for anything, any other character for itself. -/
def star (c : Char) : Wildcard.Symbol Char := if c = '*' then .any else .lit c

/-- The values of a pattern. -/
def Globs (pattern value : Text) : Prop := Wildcard.Matches (· = ·) (pattern.map star) value

/-- The values of a pattern, whatever the case of their ASCII letters. -/
def GlobsIgnoringCase (pattern value : Text) : Prop :=
  Wildcard.Matches (fun a c => a.toLower = c.toLower) (pattern.map star) value

theorem map_star_of_not_mem {s : Text} (h : '*' ∉ s) : s.map star = s.map .lit := by
  apply List.map_congr_left
  intro c hc
  rw [star, if_neg]
  rintro rfl
  exact h hc

theorem toLower_star (c : Char) : c.toLower = '*' ↔ c = '*' := by
  by_cases hascii : c.toNat < 128
  · exact Text.of_ascii (P := fun c => c.toLower = '*' ↔ c = '*') (by decide +kernel) hascii
  · rw [Text.toLower_of_not_ascii hascii]

theorem map_star_toAsciiLowercase (s : Text) :
    (toAsciiLowercase s).map star = (s.map star).map (Wildcard.Symbol.map Char.toLower) := by
  rw [toAsciiLowercase, List.map_map, List.map_map]
  apply List.map_congr_left
  intro c _
  simp only [Function.comp_apply, star, toLower_star]
  split
  · rfl
  · rfl

theorem eq_nil_of_byteLength {s : Text} (h : Utf8.byteLength s = 0) : s = [] := by
  have hlength := Utf8.length_le_byteLength s
  exact List.length_eq_zero_iff.1 (by omega)

/-- What begins with one text and ends with another, and is as long as both, has them side by
side. -/
theorem exists_between_iff {before after value : Text} :
    (∃ middle, value = before ++ middle ++ after) ↔
      Utf8.byteLength before + Utf8.byteLength after ≤ Utf8.byteLength value ∧
        before <+: value ∧ after <:+ value := by
  constructor
  · rintro ⟨middle, rfl⟩
    refine ⟨?_, ?_, List.suffix_append _ _⟩
    · simp only [Utf8.byteLength_append]
      omega
    · rw [List.append_assoc]
      exact List.prefix_append _ _
  · rintro ⟨hlength, ⟨rest, rfl⟩, hsuffix⟩
    rw [Utf8.byteLength_append] at hlength
    have hrest : after <:+ rest := by
      rcases List.suffix_or_suffix_of_suffix hsuffix (List.suffix_append before rest) with h | h
      · exact h
      · obtain ⟨extra, rfl⟩ := h
        rw [Utf8.byteLength_append] at hlength
        rw [eq_nil_of_byteLength (s := extra) (by omega), List.nil_append]
    obtain ⟨middle, rfl⟩ := hrest
    exact ⟨middle, by rw [List.append_assoc]⟩

/-- A pattern with one star at most matches the values that it stands for. -/
theorem wildcardMatches_iff {pattern : Text} (h : pattern.count '*' ≤ 1) (value : Text) :
    wildcardMatches pattern value = true ↔ Globs pattern value := by
  rw [wildcardMatches, Globs]
  cases hsplit : Text.splitOnce '*' pattern with
  | none =>
      rw [map_star_of_not_mem (Text.splitOnce_eq_none_iff.1 hsplit), Wildcard.matches_map_lit_iff,
        List.forall₂_eq_eq_eq, decide_eq_true_eq]
  | some parts =>
      obtain ⟨hbefore, rfl⟩ := Text.splitOnce_eq_some_iff.1 hsplit
      have hafter : '*' ∉ parts.2 := by
        intro hmem
        have hpos := List.count_pos_iff.2 hmem
        rw [List.count_append, List.count_cons_self] at h
        omega
      rw [List.map_append, List.map_cons, map_star_of_not_mem hbefore, map_star_of_not_mem hafter]
      change _ ↔ Wildcard.Matches _ (_ ++ .any :: _) _
      rw [Wildcard.matches_around_any_iff, exists_between_iff]
      simp only [Bool.and_eq_true, decide_eq_true_eq, List.isPrefixOf_iff_prefix,
        List.isSuffixOf_iff_suffix, and_assoc]

/-- The two ends of a pattern may not overlap in the value. -/
example : wildcardMatches "ab*ba".toList "abba".toList = true ∧
    wildcardMatches "ab*ba".toList "aba".toList = false := by decide

theorem count_star_toAsciiLowercase (s : Text) :
    (toAsciiLowercase s).count '*' = s.count '*' := by
  rw [toAsciiLowercase, List.count_eq_countP, List.countP_map, List.count_eq_countP]
  apply List.countP_congr
  intro c _
  simp only [Function.comp_apply, beq_iff_eq]
  exact toLower_star c

theorem wildcardMatchesAsciiCaseInsensitive_iff {pattern : Text} (h : pattern.count '*' ≤ 1)
    (value : Text) :
    wildcardMatchesAsciiCaseInsensitive pattern value = true ↔ GlobsIgnoringCase pattern value := by
  rw [wildcardMatchesAsciiCaseInsensitive,
    wildcardMatches_iff (by rwa [count_star_toAsciiLowercase]), Globs, map_star_toAsciiLowercase]
  exact Wildcard.matches_map_iff

/-- A name of a header, which is not empty and has ASCII characters only. -/
def IsName (header : Text) : Prop := header ≠ [] ∧ isAscii header = true

/-- The rule allows the origin, the method and each of the headers. -/
structure Allows (rule : S3CorsRule) (origin : Text) (method : S3CorsMethod)
    (requestedHeaders : List Text) : Prop where
  origin : ∃ pattern ∈ rule.allowedOrigins, Globs pattern origin
  method : method ∈ rule.allowedMethods
  headers : ∀ header ∈ requestedHeaders,
    IsName header ∧ ∃ pattern ∈ rule.allowedHeaders, GlobsIgnoringCase pattern header

theorem Allows.nil {rule : S3CorsRule} {origin : Text} {method : S3CorsMethod}
    {requestedHeaders : List Text} (h : Allows rule origin method requestedHeaders) :
    Allows rule origin method [] where
  origin := h.origin
  method := h.method
  headers := by simp

/-- The first of the rules that has the property. -/
def IsFirst (p : S3CorsRule → Prop) (rules : List S3CorsRule) (rule : S3CorsRule) : Prop :=
  ∃ earlier later, rules = earlier ++ rule :: later ∧ (∀ other ∈ earlier, ¬ p other) ∧ p rule

theorem findMatchingRule_test_iff {rule : S3CorsRule} {origin : Text} {method : S3CorsMethod}
    {requestedHeaders : List Text} :
    ((rule.allowedOrigins.any fun pattern => wildcardMatches pattern origin) &&
      rule.allowedMethods.contains method &&
      requestedHeaders.all fun requestedHeader =>
        requestedHeader ≠ [] && isAscii requestedHeader &&
          rule.allowedHeaders.any fun pattern =>
            wildcardMatchesAsciiCaseInsensitive pattern requestedHeader) = true ↔
      Allows rule origin method requestedHeaders := by
  have horigin : (∃ pattern ∈ rule.allowedOrigins, wildcardMatches pattern origin = true) ↔
      ∃ pattern ∈ rule.allowedOrigins, Globs pattern origin := by
    apply exists_congr
    intro pattern
    apply and_congr_right
    intro hpattern
    exact wildcardMatches_iff (rule.count_star_allowedOrigins hpattern) origin
  have hheader (header : Text) :
      (∃ pattern ∈ rule.allowedHeaders,
        wildcardMatchesAsciiCaseInsensitive pattern header = true) ↔
      ∃ pattern ∈ rule.allowedHeaders, GlobsIgnoringCase pattern header := by
    apply exists_congr
    intro pattern
    apply and_congr_right
    intro hpattern
    exact wildcardMatchesAsciiCaseInsensitive_iff (rule.count_star_allowedHeaders hpattern) header
  simp only [Bool.and_eq_true, List.any_eq_true, List.all_eq_true, List.contains_iff_mem,
    decide_eq_true_eq, horigin, hheader]
  constructor
  · rintro ⟨⟨horigin, hmethod⟩, hheaders⟩
    exact ⟨horigin, hmethod, hheaders⟩
  · intro h
    exact ⟨⟨h.origin, h.method⟩, h.headers⟩

theorem findMatchingRule_eq_some_iff {configuration : S3CorsConfiguration} {origin : Text}
    {method : S3CorsMethod} {requestedHeaders : List Text} {rule : S3CorsRule} :
    findMatchingRule configuration origin method requestedHeaders = some rule ↔
      IsFirst (Allows · origin method requestedHeaders) configuration.rules rule := by
  rw [findMatchingRule, List.find?_eq_some_iff_append, IsFirst]
  simp only [findMatchingRule_test_iff, Bool.not_eq_true', ← Bool.not_eq_true]
  constructor
  · rintro ⟨hallows, earlier, later, heq, hearlier⟩
    exact ⟨earlier, later, heq, hearlier, hallows⟩
  · rintro ⟨earlier, later, heq, hearlier, hallows⟩
    exact ⟨hallows, earlier, later, heq, hearlier⟩

/-- Where a rule has the property, one of the rules is the first. -/
theorem exists_isFirst {p : S3CorsRule → Prop} {rules : List S3CorsRule} {rule : S3CorsRule}
    (hmem : rule ∈ rules) (hrule : p rule) : ∃ first, IsFirst p rules first := by
  induction rules with
  | nil => simp at hmem
  | cons head rules ih =>
      by_cases hhead : p head
      · exact ⟨head, [], rules, rfl, by simp, hhead⟩
      · have hrest : rule ∈ rules := by
          rcases List.mem_cons.1 hmem with rfl | hrest
          · exact absurd hrule hhead
          · exact hrest
        obtain ⟨first, earlier, later, heq, hearlier, hfirst⟩ := ih hrest
        refine ⟨first, head :: earlier, later, by rw [heq, List.cons_append], ?_, hfirst⟩
        exact List.forall_mem_cons.2 ⟨hhead, hearlier⟩

theorem evaluateS3CorsPreflight_eq_some_iff {configuration : S3CorsConfiguration} {origin : Text}
    {method : S3CorsMethod} {requestedHeaders : List Text} {decision : S3CorsDecision} :
    evaluateS3CorsPreflight configuration origin method requestedHeaders = some decision ↔
      ∃ rule, IsFirst (Allows · origin method requestedHeaders) configuration.rules rule ∧
        decisionFor rule origin [method] requestedHeaders = decision := by
  rw [evaluateS3CorsPreflight, Option.map_eq_some_iff]
  simp only [findMatchingRule_eq_some_iff]

theorem evaluateS3CorsActualRequest_eq_some_iff {configuration : S3CorsConfiguration}
    {origin : Text} {method : S3CorsMethod} {decision : S3CorsDecision} :
    evaluateS3CorsActualRequest configuration origin method = some decision ↔
      ∃ rule, IsFirst (Allows · origin method []) configuration.rules rule ∧
        decisionFor rule origin rule.allowedMethods [] = decision := by
  rw [evaluateS3CorsActualRequest, Option.map_eq_some_iff]
  simp only [findMatchingRule_eq_some_iff]

/-- The rule of a preflight would answer the request, so a rule does. -/
theorem actualRequest_of_preflight {configuration : S3CorsConfiguration} {origin : Text}
    {method : S3CorsMethod} {requestedHeaders : List Text} {decision : S3CorsDecision}
    (h : evaluateS3CorsPreflight configuration origin method requestedHeaders = some decision) :
    ∃ rule, IsFirst (Allows · origin method []) configuration.rules rule ∧
      evaluateS3CorsActualRequest configuration origin method =
        some (decisionFor rule origin rule.allowedMethods []) ∧
      decision.allowOrigin = origin := by
  obtain ⟨rule, ⟨earlier, later, heq, _, hallows⟩, rfl⟩ := evaluateS3CorsPreflight_eq_some_iff.1 h
  have hmem : rule ∈ configuration.rules := by simp [heq]
  obtain ⟨first, hfirst⟩ : ∃ first, IsFirst (Allows · origin method []) configuration.rules first :=
    exists_isFirst hmem hallows.nil
  exact ⟨first, hfirst, evaluateS3CorsActualRequest_eq_some_iff.2 ⟨first, hfirst, rfl⟩, rfl⟩

theorem toNat_lt_of_isHttpTokenByte {c : Char} (h : Core.isHttpTokenByte c = true) :
    c.toNat < 128 := by
  have hrange {low high : Char} (hhigh : high.toNat < 128)
      (hc : (decide (low ≤ c) && decide (c ≤ high)) = true) : c.toNat < 128 := by
    simp only [Bool.and_eq_true, decide_eq_true_eq] at hc
    exact Nat.lt_of_le_of_lt (UInt32.le_iff_toNat_le.1 hc.2) hhigh
  rw [Core.isHttpTokenByte, Bool.or_eq_true, Policy.isAsciiAlphanumeric, Bool.or_eq_true,
    Bool.or_eq_true] at h
  rcases h with ((hdigit | hlower) | hupper) | hpunctuation
  · exact hrange (by decide) hdigit
  · exact hrange (by decide) hlower
  · exact hrange (by decide) hupper
  · have hall : "!#$%&'*+-.^_\x60|~".toList.all (fun c => c.toNat < 128) = true := by decide
    exact of_decide_eq_true (List.all_eq_true.1 hall c (List.contains_iff_mem.1 hpunctuation))

theorem isAscii_of_isHeaderName {name : Text} (h : isHeaderName name = true) :
    isAscii name = true := by
  simp only [isHeaderName, Bool.and_eq_true, List.all_eq_true] at h
  rw [isAscii, List.all_eq_true]
  intro c hc
  exact decide_eq_true (toNat_lt_of_isHttpTokenByte (h.2 c hc))

/-- The names that a preflight asks for are names. -/
theorem isName_of_parseS3CorsRequestedHeaders {headers : HeaderMap} {names : List Text}
    (h : parseS3CorsRequestedHeaders headers = .ok names) : ∀ name ∈ names, IsName name := by
  intro name hname
  rw [parseS3CorsRequestedHeaders, bind_eq_ok_iff] at h
  obtain ⟨lists, hlists, hnames⟩ := h
  obtain rfl := pure_eq_ok_iff.1 hnames
  obtain ⟨list, hlist, hmem⟩ := List.mem_flatten.1 hname
  obtain ⟨value, _, hvalue⟩ := exists_of_mem_mapM hlists hlist
  rw [requestedHeaderNames] at hvalue
  split at hvalue
  · simp at hvalue
  · obtain ⟨piece, _, hpiece⟩ := exists_of_mem_mapM hvalue hmem
    simp only [requestedHeaderName, andThen_eq_ok_iff, rejectIf_eq_ok_iff, not_or,
      Bool.not_eq_false, pure_eq_ok_iff] at hpiece
    obtain ⟨⟨hne, hheader⟩, rfl⟩ := hpiece
    exact ⟨hne, isAscii_of_isHeaderName hheader⟩

theorem requiredSingleS3CorsHeader_eq_ok_iff {headers : HeaderMap} {name : String} {value : Text} :
    requiredSingleS3CorsHeader headers name = .ok value ↔
      singleS3CorsHeader headers name = some value := by
  rw [requiredSingleS3CorsHeader]
  split
  · next heq => simp [heq]
  · next heq => simp [heq]

/-- A preflight that is allowed was decided by its headers. -/
theorem exists_of_s3OptionsForBucket {configuration : S3CorsConfiguration} {headers : HeaderMap}
    {decision : S3CorsDecision}
    (h : s3OptionsForBucket (some configuration) headers = .ok decision) :
    ∃ origin value method names, singleS3CorsHeader headers "origin" = some origin ∧
      singleS3CorsHeader headers "access-control-request-method" = some value ∧
      parseS3CorsMethod value = some method ∧
      evaluateS3CorsPreflight configuration origin method names = some decision := by
  simp only [s3OptionsForBucket, bind_eq_ok_iff, requiredSingleS3CorsHeader_eq_ok_iff] at h
  obtain ⟨origin, horigin, value, hvalue, h⟩ := h
  split at h
  · simp at h
  · next method hmethod =>
      obtain ⟨names, _, h⟩ := bind_eq_ok_iff.1 h
      split at h
      · simp at h
      · next decision' hpreflight =>
          obtain rfl := pure_eq_ok_iff.1 h
          exact ⟨origin, value, method, names, horigin, hvalue, hmethod, hpreflight⟩

/-- In an accepted configuration a pattern matches exactly the values that it stands for, ignoring
case for headers; a preflight and a request are decided by the first rule that allows them; and
where a preflight is allowed, the request that it announces is answered by a rule that allows it,
with the same origin. -/
theorem cors_decisions (configuration : S3CorsConfiguration) :
    (∀ rule ∈ configuration.rules,
      (∀ pattern ∈ rule.allowedOrigins, ∀ value,
        wildcardMatches pattern value = true ↔ Globs pattern value) ∧
      ∀ pattern ∈ rule.allowedHeaders, ∀ value,
        wildcardMatchesAsciiCaseInsensitive pattern value = true ↔
          GlobsIgnoringCase pattern value) ∧
    (∀ origin method requestedHeaders decision,
      evaluateS3CorsPreflight configuration origin method requestedHeaders = some decision ↔
        ∃ rule, IsFirst (Allows · origin method requestedHeaders) configuration.rules rule ∧
          decisionFor rule origin [method] requestedHeaders = decision) ∧
    (∀ origin method decision,
      evaluateS3CorsActualRequest configuration origin method = some decision ↔
        ∃ rule, IsFirst (Allows · origin method []) configuration.rules rule ∧
          decisionFor rule origin rule.allowedMethods [] = decision) ∧
    (∀ headers names, parseS3CorsRequestedHeaders headers = .ok names →
      ∀ name ∈ names, IsName name) ∧
    (∀ origin method requestedHeaders decision,
      evaluateS3CorsPreflight configuration origin method requestedHeaders = some decision →
        ∃ rule, IsFirst (Allows · origin method []) configuration.rules rule ∧
          evaluateS3CorsActualRequest configuration origin method =
            some (decisionFor rule origin rule.allowedMethods []) ∧
          decision.allowOrigin = origin) ∧
    ∀ headers announced value decision,
      s3OptionsForBucket (some configuration) headers = .ok decision →
      singleS3CorsHeader announced "origin" = singleS3CorsHeader headers "origin" →
      singleS3CorsHeader headers "access-control-request-method" = some value →
      ∃ answer, s3CorsResponseDecision (some configuration) value announced = some answer ∧
        answer.allowOrigin = decision.allowOrigin := by
  refine ⟨?_, ?_, ?_, ?_, ?_, ?_⟩
  · intro rule _
    constructor
    · intro pattern hpattern value
      exact wildcardMatches_iff (rule.count_star_allowedOrigins hpattern) value
    · intro pattern hpattern value
      exact wildcardMatchesAsciiCaseInsensitive_iff (rule.count_star_allowedHeaders hpattern) value
  · intro origin method requestedHeaders decision
    exact evaluateS3CorsPreflight_eq_some_iff
  · intro origin method decision
    exact evaluateS3CorsActualRequest_eq_some_iff
  · intro headers names h
    exact isName_of_parseS3CorsRequestedHeaders h
  · intro origin method requestedHeaders decision h
    exact actualRequest_of_preflight h
  · intro headers announced value decision h horigin hvalue
    obtain ⟨origin, value', method, names, horigin', hvalue', hmethod, hpreflight⟩ :=
      exists_of_s3OptionsForBucket h
    obtain rfl := Option.some.inj (hvalue'.symm.trans hvalue)
    obtain ⟨rule, _, hactual, hallow⟩ := actualRequest_of_preflight hpreflight
    refine ⟨decisionFor rule origin rule.allowedMethods [], ?_, hallow.symm⟩
    rw [s3CorsResponseDecision, horigin, horigin', hmethod]
    exact hactual

/-- Everybody may read. -/
def publicReads : S3CorsRule where
  id := none
  allowedMethods := [.get]
  allowedOrigins := ["*".toList]
  allowedHeaders := []
  exposeHeaders := []
  maxAgeSeconds := none
  valid := by decide +kernel

/-- The pages of one site may write, with headers of this name. -/
def siteWrites : S3CorsRule where
  id := some "site".toList
  allowedMethods := [.put, .delete]
  allowedOrigins := ["https://*.example.com".toList]
  allowedHeaders := ["x-amz-*".toList]
  exposeHeaders := ["etag".toList]
  maxAgeSeconds := some 600
  valid := by decide +kernel

def siteConfiguration : S3CorsConfiguration := ⟨[publicReads, siteWrites], by decide +kernel⟩

def sitePreflight : HeaderMap :=
  [("origin".toList, "https://app.example.com"), ("access-control-request-method".toList, "PUT"),
    ("access-control-request-headers".toList, "X-Amz-Date, x-amz-acl")].map fun header =>
      (header.1, HeaderValue.ofText header.2.toList)

def siteRequest : HeaderMap :=
  [("origin".toList, HeaderValue.ofText "https://app.example.com".toList)]

/-- The second rule allows what the preflight asks for, and answers the request that follows. -/
theorem cors_decisions_site :
    ∃ decision answer, s3OptionsForBucket (some siteConfiguration) sitePreflight = .ok decision ∧
      decision.allowHeaders = ["X-Amz-Date".toList, "x-amz-acl".toList] ∧
      s3CorsResponseDecision (some siteConfiguration) "PUT".toList siteRequest = some answer ∧
      answer.allowOrigin = decision.allowOrigin := by
  have hpreflight : s3OptionsForBucket (some siteConfiguration) sitePreflight =
      .ok (decisionFor siteWrites "https://app.example.com".toList [.put]
        ["X-Amz-Date".toList, "x-amz-acl".toList]) := by rfl
  obtain ⟨answer, hanswer, horigin⟩ := (cors_decisions siteConfiguration).2.2.2.2.2 _ siteRequest
    "PUT".toList _ hpreflight (by decide +kernel) (by decide +kernel)
  exact ⟨_, answer, hpreflight, rfl, hanswer, horigin⟩

end MediaHub.Http
