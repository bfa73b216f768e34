import MediaHub.Core.Basic
import MediaHub.Text.Split
import MediaHub.Text.Utf8

namespace MediaHub.Http

open MediaHub.Core
open Text (isAsciiDigit)

abbrev Text := List Char

/-- Unicode `White_Space`. -/
def isWhitespace (c : Char) : Bool :=
  (9 ≤ c.toNat && c.toNat ≤ 13) || c.toNat = 0x20 || c.toNat = 0x85 || c.toNat = 0xA0 ||
    c.toNat = 0x1680 || (0x2000 ≤ c.toNat && c.toNat ≤ 0x200A) || c.toNat = 0x2028 ||
    c.toNat = 0x2029 || c.toNat = 0x202F || c.toNat = 0x205F || c.toNat = 0x3000

def trim (s : Text) : Text := Text.trim isWhitespace s

def isAsciiHexdigit (c : Char) : Bool :=
  isAsciiDigit c || ('a' ≤ c && c ≤ 'f') || ('A' ≤ c && c ≤ 'F')

def toAsciiLowercase (s : Text) : Text := s.map Char.toLower

def digits (s : Text) : Nat := s.foldl (fun n c => n * 10 + (c.toNat - '0'.toNat)) 0

/-- `str::parse::<u64>`: a leading plus sign is allowed. -/
def parseU64 (s : Text) : Option Nat :=
  let unsigned := match s with
    | '+' :: rest => rest
    | _ => s
  if !unsigned.isEmpty && unsigned.all isAsciiDigit && digits unsigned ≤ maxU64 then
    some (digits unsigned)
  else none

/-- The limit for the XML bodies of requests. -/
def maxS3XmlBodyBytes : Nat := 2 * 1024 * 1024

/-- The limit for the configurations of buckets. -/
def maxS3BucketConfigurationBytes : Nat := 1024 * 1024

/-- Percent-decoding of form data, which is lossy where the bytes are no UTF-8. -/
class FormDecoding where
  decode : Text → Text

export FormDecoding (decode)

section Form

variable [FormDecoding]

def formPair (pair : Text) : Text × Text :=
  match Text.splitOnce '=' pair with
  | some (name, value) => (decode name, decode value)
  | none => (decode pair, decode [])

/-- `url::form_urlencoded::parse`. -/
def formUrlencodedParse (query : Text) : List (Text × Text) :=
  ((query.splitOn '&').filter fun pair => !pair.isEmpty).map formPair

end Form

/-- A request target. -/
structure Uri where
  scheme : Option Text
  authority : Option Text
  path : Text
  query : Option Text
  path_no_question_mark : '?' ∉ path

namespace Uri

def toText (uri : Uri) : Text :=
  (uri.scheme.elim [] fun scheme => scheme ++ "://".toList) ++ uri.authority.getD [] ++ uri.path ++
    uri.query.elim [] fun query => '?' :: query

/-- The pairs that the handlers read. -/
def queryPairs [FormDecoding] (uri : Uri) : List (Text × Text) :=
  formUrlencodedParse (uri.query.getD [])

end Uri

abbrev HeaderValue := List UInt8

/-- `HeaderValue::to_str`: visible ASCII and tabs only. -/
def HeaderValue.toStr (value : HeaderValue) : Option Text :=
  if value.all fun byte => (32 ≤ byte && byte < 127) || byte = 9 then
    some (value.map fun byte => Char.ofNat byte.toNat)
  else none

def HeaderValue.ofText (s : Text) : HeaderValue := s.map fun c => UInt8.ofNat c.toNat

/-- The headers under their lower-case names, in the order of arrival. -/
abbrev HeaderMap := List (Text × HeaderValue)

namespace HeaderMap

def getAll (headers : HeaderMap) (name : Text) : List HeaderValue :=
  headers.filterMap fun header => if header.1 = name then some header.2 else none

def get (headers : HeaderMap) (name : Text) : Option HeaderValue :=
  (headers.getAll name).head?

def containsKey (headers : HeaderMap) (name : Text) : Bool :=
  !(headers.getAll name).isEmpty

end HeaderMap

end MediaHub.Http
