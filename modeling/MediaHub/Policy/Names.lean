import MediaHub.Policy.Statement
import MediaHub.Text.Character
import MediaHub.Text.Utf8

namespace MediaHub.Policy

open Text (isControl isAsciiDigit isAsciiLowercase)

def maxS3PolicyStringBytes : Nat := 2048

def maxS3PolicySidBytes : Nat := 128

def maxS3PolicyRuntimeKeyBytes : Nat := 1024

def isAsciiAlphanumeric (c : Char) : Bool :=
  isAsciiDigit c || isAsciiLowercase c || ('A' ≤ c && c ≤ 'Z')

/-- `str::contains` of a text. -/
def containsText (s needle : Text) : Bool := s.tails.any fun rest => needle.isPrefixOf rest

def validAccountId (value : Text) : Bool := Utf8.byteLength value == 12 && value.all isAsciiDigit

def validPrincipalPath (value start : Text) : Bool :=
  (value.dropPrefix? start).any fun suffix =>
    !suffix.isEmpty && suffix.head? != some '/' && suffix.getLast? != some '/' &&
      suffix.all fun c =>
        isAsciiAlphanumeric c || "/+=,.@_-".toList.contains c

/-- The parts of an ARN of a principal, as the rules for them say. -/
def validPrincipalParts : List Text → Bool
  | [arn, partition, service, region, account, name] =>
      arn == "arn".toList && partition == "aws".toList &&
        (service == "iam".toList || service == "sts".toList) && region.isEmpty &&
        validAccountId account &&
        if service == "iam".toList then
          name == "root".toList ||
            ["user/".toList, "role/".toList].any fun start => validPrincipalPath name start
        else validPrincipalPath name "assumed-role/".toList
  | _ => false

def parseAwsPrincipal (value : Text) : Except S3PolicyError S3AwsPrincipal :=
  if value = "*".toList then .ok .any
  else if validAccountId value then .ok (.account value)
  else
    let parts := Text.splitN ':' 6 value
    if !validPrincipalParts parts || maxS3PolicyStringBytes < Utf8.byteLength value then
      .error (.validation .invalidPrincipal)
    else .ok (.arn value)

def validRuntimePrincipalArn (value : Text) : Bool :=
  match parseAwsPrincipal value with
  | .ok (.arn _) => true
  | _ => false

/-- What two neighbours in the name of a bucket must not be. -/
def hasBadNeighbours (value : Text) : Bool :=
  containsText value "..".toList || containsText value ".-".toList ||
    containsText value "-.".toList

def isBucketCharacter (c : Char) : Bool :=
  isAsciiLowercase c || isAsciiDigit c || c == '.' || c == '-'

def validBucketName (value : Text) : Bool :=
  (3 ≤ Utf8.byteLength value && Utf8.byteLength value ≤ 63) && value.all isBucketCharacter &&
    value.head?.any isAsciiAlphanumeric && value.getLast?.any isAsciiAlphanumeric &&
    !hasBadNeighbours value && (parseIpv4Addr value).isNone

def isWildcard (c : Char) : Bool := c == '*' || c == '?'

def validBucketPattern (pattern : Text) : Bool :=
  if !pattern.any isWildcard then validBucketName pattern
  else
    (1 ≤ Utf8.byteLength pattern && Utf8.byteLength pattern ≤ 63) &&
      pattern.all (fun c => isBucketCharacter c || isWildcard c) &&
      pattern.head?.any (fun c => isAsciiAlphanumeric c || isWildcard c) &&
      pattern.getLast?.any (fun c => isAsciiAlphanumeric c || isWildcard c) &&
      !hasBadNeighbours pattern

/-- What the ARN of every resource starts with. -/
def resourceStart : Text := "arn:aws:s3:::".toList

def validIdentityResource (pattern : Text) : Bool :=
  if pattern = "*".toList then true
  else
    match pattern.dropPrefix? resourceStart with
    | none => false
    | some resource =>
        match Text.splitOnce '/' resource with
        | none => validBucketPattern resource
        | some (bucket, object) =>
            validBucketPattern bucket && !object.isEmpty &&
              Utf8.byteLength object ≤ maxS3PolicyRuntimeKeyBytes && !object.any isControl

theorem wildcard_of_not_isWildcard {c : Char} (h : isWildcard c = false) :
    wildcard c = .lit c := by
  simp only [isWildcard, Bool.or_eq_false_iff, beq_eq_false_iff_ne] at h
  rw [wildcard, if_neg h.1, if_neg h.2]

theorem globs_iff_of_not_isWildcard {pattern value : Text}
    (h : ∀ c ∈ pattern, isWildcard c = false) : Globs pattern value false ↔ value = pattern := by
  have hmap : wildcards pattern = pattern.map .lit :=
    List.map_congr_left fun c hc => wildcard_of_not_isWildcard (h c hc)
  rw [Globs, hmap, Wildcard.matches_map_lit_iff]
  simp only [charactersEqual, Bool.false_eq_true, if_false, beq_iff_eq]
  rw [List.forall₂_eq_eq_eq]
  exact eq_comm

theorem mem_of_globs {pattern value : Text} {c : Char} (h : Globs pattern value false)
    (hc : c ∈ pattern) (hwildcard : isWildcard c = false) : c ∈ value := by
  have hmem : Wildcard.Symbol.lit c ∈ wildcards pattern :=
    List.mem_map.2 ⟨c, hc, wildcard_of_not_isWildcard hwildcard⟩
  obtain ⟨d, hd, hsame⟩ := h.exists_mem hmem
  simp only [charactersEqual, Bool.false_eq_true, if_false, beq_iff_eq] at hsame
  exact hsame ▸ hd

theorem validBucketName_all {value : Text} (h : validBucketName value = true) :
    ∀ c ∈ value, isBucketCharacter c = true := by
  simp only [validBucketName, Bool.and_eq_true] at h
  exact List.all_eq_true.1 h.1.1.1.1.2

/-- The name of a bucket has no slash and no wildcard. -/
theorem notMem_of_validBucketName {value : Text} (h : validBucketName value = true) {c : Char}
    (hc : isBucketCharacter c = false) : c ∉ value := by
  intro hmem
  rw [validBucketName_all h c hmem] at hc
  exact absurd hc (by simp)

end MediaHub.Policy
