import MediaHub.Http.Request
import MediaHub.Policy.Names
import MediaHub.Text.Result
import MediaHub.Text.Utf8

namespace MediaHub.Core

open Result
open MediaHub.Http (Text toAsciiLowercase)
open MediaHub.Policy (containsText isAsciiAlphanumeric parseUnsigned readIpv6Addr)
open Text (isControl isAsciiDigit)

def maxS3CorsRules : Nat := 100
def maxS3CorsIdCharacters : Nat := 255
def maxS3CorsOriginsPerRule : Nat := 100
def maxS3CorsHeadersPerRule : Nat := 100
def maxS3CorsOriginBytes : Nat := 2048
def maxS3CorsHeaderBytes : Nat := 1024

inductive S3CorsError where
  | emptyConfiguration
  | tooManyRules
  | duplicateRule
  | invalidRuleId
  | duplicateRuleId
  | missingAllowedMethod
  | duplicateAllowedMethod
  | invalidAllowedMethod
  | missingAllowedOrigin
  | tooManyAllowedOrigins
  | invalidAllowedOrigin
  | duplicateAllowedOrigin
  | tooManyAllowedHeaders
  | invalidAllowedHeader
  | duplicateAllowedHeader
  | tooManyExposeHeaders
  | invalidExposeHeader
  | duplicateExposeHeader
deriving DecidableEq

inductive S3CorsMethod where
  | get
  | put
  | head
  | post
  | delete
deriving DecidableEq

def S3CorsMethod.asStr : S3CorsMethod → String
  | .get => "GET"
  | .put => "PUT"
  | .head => "HEAD"
  | .post => "POST"
  | .delete => "DELETE"

def S3CorsMethod.all : List S3CorsMethod := [.get, .put, .head, .post, .delete]

def S3CorsMethod.fromStr (value : Text) : Except S3CorsError S3CorsMethod :=
  match S3CorsMethod.all.find? fun method => method.asStr.toList = value with
  | some method => .ok method
  | none => .error .invalidAllowedMethod

def isAscii (s : Text) : Bool := s.all fun c => c.toNat < 128

def isAsciiWhitespace (c : Char) : Bool :=
  c.toNat = 9 || c.toNat = 10 || c.toNat = 12 || c.toNat = 13 || c.toNat = 32

def isXml10Character (c : Char) : Bool :=
  c.toNat = 9 || c.toNat = 0xA || c.toNat = 0xD || (0x20 ≤ c.toNat && c.toNat ≤ 0xD7FF) ||
    (0xE000 ≤ c.toNat && c.toNat ≤ 0xFFFD) || (0x10000 ≤ c.toNat && c.toNat ≤ 0x10FFFF)

def isHttpTokenByte (c : Char) : Bool :=
  isAsciiAlphanumeric c || "!#$%&'*+-.^_\x60|~".toList.contains c

/-- `str::parse::<Ipv6Addr>` succeeds. -/
def isIpv6Addr (s : Text) : Bool := (readIpv6Addr s).any fun address => address.2 = []

def isPort (s : Text) : Bool := (parseUnsigned 65536 s).isSome

def validOptionalPort (suffix : Text) : Bool :=
  match suffix with
  | [] => true
  | ':' :: port => port ≠ [] && isPort port
  | _ => false

def validHostLabel (label : Text) : Bool :=
  label ≠ [] && label.head? ≠ some '-' && label.getLast? ≠ some '-' && label.length ≤ 63

def validHost (host : Text) : Bool :=
  host ≠ [] && !(host.head? = some '.' || host.head? = some '-') &&
    !(host.getLast? = some '.' || host.getLast? = some '-') && !containsText host "..".toList &&
    (host.all fun c => isAsciiAlphanumeric c || c = '.' || c = '-' || c = '*') &&
    (host.splitOn '.').all validHostLabel

/-- `authority.rsplit_once(':')`. -/
def rsplitOnceColon (authority : Text) : Option (Text × Text) :=
  (Text.splitOnce ':' authority.reverse).map fun parts => (parts.2.reverse, parts.1.reverse)

def validAuthority (authority : Text) : Bool :=
  if authority = [] || authority.any (fun c =>
      c = '/' || c = '?' || c = '#' || c = '@' || isAsciiWhitespace c) then false
  else
    match authority with
    | '[' :: ipv6 =>
        match Text.splitOnce ']' ipv6 with
        | none => false
        | some (address, suffix) =>
            !address.contains '*' && isIpv6Addr address && validOptionalPort suffix
    | _ =>
        match rsplitOnceColon authority with
        | some (host, port) =>
            port ≠ [] && port.all isAsciiDigit && isPort port && validHost host
        | none => validHost authority

/-- What comes after the scheme, which is `http` or `https` in any case. -/
def authorityOf (origin : Text) : Option Text :=
  if "http://".toList.isPrefixOf (toAsciiLowercase origin) then some (origin.drop 7)
  else if "https://".toList.isPrefixOf (toAsciiLowercase origin) then some (origin.drop 8)
  else none

def isValidOrigin (origin : Text) : Bool :=
  if origin = ['*'] then true
  else if origin = [] || maxS3CorsOriginBytes < Utf8.byteLength origin || !isAscii origin ||
      1 < origin.count '*' then false
  else (authorityOf origin).any validAuthority

/-- A loop over values that are checked one by one, and may not have the key of one before. -/
def validateEach {α κ : Type} [DecidableEq κ] (valid : α → Bool) (key : α → κ)
    (invalid duplicate : S3CorsError) (unique : List κ) : List α → Except S3CorsError Unit
  | [] => return ()
  | value :: values => do
      rejectIf (valid value = false) invalid
      rejectIf (key value ∈ unique) duplicate
      validateEach valid key invalid duplicate (key value :: unique) values

def validateMethods (methods : List S3CorsMethod) : Except S3CorsError Unit := do
  rejectIf (methods = []) .missingAllowedMethod
  validateEach (fun _ => true) id .invalidAllowedMethod .duplicateAllowedMethod [] methods

def validateOrigins (origins : List Text) : Except S3CorsError Unit := do
  rejectIf (origins = []) .missingAllowedOrigin
  rejectIf (maxS3CorsOriginsPerRule < origins.length) .tooManyAllowedOrigins
  validateEach isValidOrigin toAsciiLowercase .invalidAllowedOrigin .duplicateAllowedOrigin []
    origins

def isValidHeader (wildcardAllowed : Bool) (header : Text) : Bool :=
  header ≠ [] && Utf8.byteLength header ≤ maxS3CorsHeaderBytes && isAscii header &&
    header.all isHttpTokenByte &&
    if wildcardAllowed then header.count '*' ≤ 1 else !header.contains '*'

def validateHeaders (headers : List Text) (wildcardAllowed : Bool) :
    Except S3CorsError Unit := do
  rejectIf (maxS3CorsHeadersPerRule < headers.length)
    (if wildcardAllowed then .tooManyAllowedHeaders else .tooManyExposeHeaders)
  validateEach (isValidHeader wildcardAllowed) toAsciiLowercase
    (if wildcardAllowed then .invalidAllowedHeader else .invalidExposeHeader)
    (if wildcardAllowed then .duplicateAllowedHeader else .duplicateExposeHeader) [] headers

def validRuleId (id : Text) : Bool :=
  id ≠ [] && id.length ≤ maxS3CorsIdCharacters &&
    id.all fun c => !isControl c && isXml10Character c

def validateRule (id : Option Text) (allowedMethods : List S3CorsMethod)
    (allowedOrigins allowedHeaders exposeHeaders : List Text) : Except S3CorsError Unit := do
  rejectIf (id.all validRuleId = false) .invalidRuleId
  validateMethods allowedMethods
  validateOrigins allowedOrigins
  validateHeaders allowedHeaders true
  validateHeaders exposeHeaders false

structure S3CorsRule where
  id : Option Text
  allowedMethods : List S3CorsMethod
  allowedOrigins : List Text
  allowedHeaders : List Text
  exposeHeaders : List Text
  maxAgeSeconds : Option Nat
  valid : validateRule id allowedMethods allowedOrigins allowedHeaders exposeHeaders = .ok ()
deriving DecidableEq

namespace S3CorsRule

def new (id : Option Text) (allowedMethods : List S3CorsMethod)
    (allowedOrigins allowedHeaders exposeHeaders : List Text) (maxAgeSeconds : Option Nat) :
    Except S3CorsError S3CorsRule :=
  match h : validateRule id allowedMethods allowedOrigins allowedHeaders exposeHeaders with
  | .ok () => .ok
      ⟨id, allowedMethods, allowedOrigins, allowedHeaders, exposeHeaders, maxAgeSeconds, h⟩
  | .error e => .error e

def validate (rule : S3CorsRule) : Except S3CorsError Unit :=
  validateRule rule.id rule.allowedMethods rule.allowedOrigins rule.allowedHeaders
    rule.exposeHeaders

end S3CorsRule

section Rules

local instance : LawfulBEq Text := inferInstance

/-- The loop of `S3CorsConfiguration::validate`. -/
def validateRules (ids : List Text) (uniqueRules : List S3CorsRule) :
    List S3CorsRule → Except S3CorsError Unit
  | [] => return ()
  | rule :: rules => do
      rule.validate
      rejectIf (rule ∈ uniqueRules) .duplicateRule
      rejectIf (∃ id ∈ rule.id, id ∈ ids) .duplicateRuleId
      validateRules (rule.id.toList ++ ids) (rule :: uniqueRules) rules

end Rules

def validateConfiguration (rules : List S3CorsRule) : Except S3CorsError Unit := do
  rejectIf (rules = []) .emptyConfiguration
  rejectIf (maxS3CorsRules < rules.length) .tooManyRules
  validateRules [] [] rules

structure S3CorsConfiguration where
  rules : List S3CorsRule
  valid : validateConfiguration rules = .ok ()

def S3CorsConfiguration.new (rules : List S3CorsRule) : Except S3CorsError S3CorsConfiguration :=
  match h : validateConfiguration rules with
  | .ok () => .ok ⟨rules, h⟩
  | .error e => .error e

example : ((S3CorsRule.new none [.get] ["https://*.example.com:8443".toList] ["x-amz-*".toList]
    ["etag".toList] (some 3600)).bind fun rule =>
      S3CorsConfiguration.new [rule]).toBool = true := by
  decide +kernel

theorem valid_of_validateEach {α κ : Type} [DecidableEq κ] {valid : α → Bool} {key : α → κ}
    {invalid duplicate : S3CorsError} {unique : List κ} {values : List α}
    (h : validateEach valid key invalid duplicate unique values = .ok ()) :
    ∀ value ∈ values, valid value = true := by
  induction values generalizing unique with
  | nil => simp
  | cons value values ih =>
      simp only [validateEach, andThen_eq_ok_iff, rejectIf_eq_ok_iff, Bool.not_eq_false] at h
      obtain ⟨hvalue, _, hvalues⟩ := h
      exact List.forall_mem_cons.2 ⟨hvalue, ih hvalues⟩

/-- An origin that is accepted has at most one star. -/
theorem count_star_le_of_isValidOrigin {origin : Text} (h : isValidOrigin origin = true) :
    origin.count '*' ≤ 1 := by
  rw [isValidOrigin] at h
  split at h
  · next hstar =>
      subst hstar
      decide
  · split at h
    · exact nomatch h
    · next hbounds =>
        simp only [Bool.or_eq_true, decide_eq_true_eq, not_or] at hbounds
        omega

theorem count_star_le_of_isValidHeader {header : Text} (h : isValidHeader true header = true) :
    header.count '*' ≤ 1 := by
  simp only [isValidHeader, if_true, Bool.and_eq_true, decide_eq_true_eq] at h
  exact h.2

namespace S3CorsRule

theorem validateRule_eq_ok (rule : S3CorsRule) :
    validateOrigins rule.allowedOrigins = .ok () ∧
      validateHeaders rule.allowedHeaders true = .ok () := by
  have h := rule.valid
  simp only [validateRule, andThen_eq_ok_iff] at h
  obtain ⟨_, _, horigins, hheaders, _⟩ := h
  exact ⟨horigins, hheaders⟩

theorem count_star_allowedOrigins (rule : S3CorsRule) {origin : Text}
    (h : origin ∈ rule.allowedOrigins) : origin.count '*' ≤ 1 := by
  have horigins := rule.validateRule_eq_ok.1
  simp only [validateOrigins, andThen_eq_ok_iff] at horigins
  apply count_star_le_of_isValidOrigin
  exact valid_of_validateEach horigins.2.2 origin h

theorem count_star_allowedHeaders (rule : S3CorsRule) {header : Text}
    (h : header ∈ rule.allowedHeaders) : header.count '*' ≤ 1 := by
  have hheaders := rule.validateRule_eq_ok.2
  simp only [validateHeaders, andThen_eq_ok_iff, if_true] at hheaders
  apply count_star_le_of_isValidHeader
  exact valid_of_validateEach hheaders.2 header h

end S3CorsRule

end MediaHub.Core
