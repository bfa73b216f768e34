import MediaHub.Http.SigV4
import MediaHub.Text.Result
import Mathlib.Data.List.Nodup

/-!
A presigned target is signed without its authentication parameters. What is left of its query reads
as the other parameters of the whole query.
-/

namespace MediaHub.Http

open MediaHub.Core
open ParsedSigV4
open Result

variable [FormDecoding]

/-- The parameters of a target that do not belong to its authentication. -/
def Uri.otherPairs (uri : Uri) : List (Text × Text) :=
  uri.queryPairs.filter fun pair => !authParameters.contains pair.1

theorem formPair_name {pair name value : Text} (h : Text.splitOnce '=' pair = some (name, value)) :
    (formPair pair).1 = decode name := by
  unfold formPair
  rw [h]

theorem formPair_name_of_none {pair : Text} (h : Text.splitOnce '=' pair = none) :
    (formPair pair).1 = decode pair := by
  unfold formPair
  rw [h]

/-- A raw name is decoded as the only name of a query. -/
theorem formUrlencodedParse_rawName {rawName : Text} (hequals : '=' ∉ rawName)
    (hampersand : '&' ∉ rawName) :
    formUrlencodedParse (rawName ++ ['=']) = [(decode rawName, decode [])] := by
  have hpieces : (rawName ++ ['=']).splitOn '&' = [rawName ++ ['=']] := by
    rw [Text.splitOn_append_of_notMem hampersand, Text.splitOn_cons_of_ne (by decide),
      List.splitOn_nil]
    rfl
  have hsplit : Text.splitOnce '=' (rawName ++ ['=']) = some (rawName, []) :=
    Text.splitOnce_eq_some_iff.2 ⟨hequals, rfl⟩
  unfold formUrlencodedParse
  rw [hpieces]
  simp [formPair, hsplit]

theorem retained_iff {pair : Text} (h : '&' ∉ pair) :
    retained pair = !authParameters.contains (formPair pair).1 := by
  unfold retained
  cases hsplit : Text.splitOnce '=' pair with
  | none =>
      have hequals := Text.splitOnce_eq_none_iff.1 hsplit
      rw [formPair_name_of_none hsplit]
      simp only [Option.map_none, Option.getD_none, formUrlencodedParse_rawName hequals h,
        List.head?_cons, Option.map_some, Option.getD_some]
  | some parts =>
      obtain ⟨name, value⟩ := parts
      obtain ⟨hequals, hpair⟩ := Text.splitOnce_eq_some_iff.1 hsplit
      have hname : '&' ∉ name := by
        intro hmem
        exact h (hpair ▸ List.mem_append_left _ hmem)
      rw [formPair_name hsplit]
      simp only [Option.map_some, Option.getD_some, formUrlencodedParse_rawName hequals hname,
        List.head?_cons]

/-- The raw pairs of a query that stay in the target that is signed. -/
def retainedPairs (uri : Uri) : List Text :=
  (((uri.query.getD []).splitOn '&').filter fun pair => !pair.isEmpty).filter retained

theorem retainedPairs_spec {uri : Uri} {pair : Text} (h : pair ∈ retainedPairs uri) :
    '&' ∉ pair ∧ pair ≠ [] := by
  unfold retainedPairs at h
  rw [List.mem_filter, List.mem_filter] at h
  obtain ⟨⟨hpiece, hne⟩, _⟩ := h
  exact ⟨Text.notMem_of_mem_splitOn hpiece, by simpa using hne⟩

theorem otherPairs_eq (uri : Uri) : uri.otherPairs = (retainedPairs uri).map formPair := by
  unfold Uri.otherPairs Uri.queryPairs formUrlencodedParse retainedPairs
  rw [List.filter_map]
  congr 1
  refine List.filter_congr ?_
  intro pair hpair
  rw [List.mem_filter] at hpair
  exact (retained_iff (Text.notMem_of_mem_splitOn hpair.1)).symm

theorem formUrlencodedParse_retainedQuery (uri : Uri) :
    formUrlencodedParse (retainedQuery uri) = (retainedPairs uri).map formPair := by
  have hquery : retainedQuery uri = ['&'].intercalate (retainedPairs uri) := rfl
  rw [hquery]
  by_cases hnil : retainedPairs uri = []
  · rw [hnil]
    rfl
  · unfold formUrlencodedParse
    rw [List.splitOn_intercalate '&' (fun pair hpair => (retainedPairs_spec hpair).1) hnil]
    congr 1
    refine List.filter_eq_self.2 ?_
    intro pair hpair
    simpa using (retainedPairs_spec hpair).2

/-- The canonical query of a presigned target is made of its other parameters. -/
theorem canonicalPairs_unsignedQueryUri (uri : Uri) :
    canonicalPairs (unsignedQueryUri uri) = uri.otherPairs := by
  rw [otherPairs_eq, ← formUrlencodedParse_retainedQuery]
  by_cases hempty : retainedQuery uri = []
  · have htarget : unsignedQueryUri uri = uri.path := by
      rw [unsignedQueryUri, if_pos (List.isEmpty_iff.2 hempty)]
    rw [htarget, canonicalPairs, Text.splitOnce_eq_none_iff.2 uri.path_no_question_mark, hempty]
    rfl
  · have htarget : unsignedQueryUri uri = uri.path ++ '?' :: retainedQuery uri := by
      rw [unsignedQueryUri, if_neg (by simpa using hempty)]
    rw [htarget, canonicalPairs, Text.splitOnce_eq_some_iff.2 ⟨uri.path_no_question_mark, rfl⟩]

omit [FormDecoding] in
theorem requiredQuery_eq_ok_iff {values : List (Text × Text)} {name value : Text} :
    requiredQuery values name = .ok value ↔ values.lookup name = some value ∧ value ≠ [] := by
  unfold requiredQuery
  split
  · next found heq =>
      rw [ite_throw_eq_ok_iff, pure_eq_ok_iff, heq]
      constructor
      · rintro ⟨hne, rfl⟩
        exact ⟨rfl, by simpa using hne⟩
      · rintro ⟨hvalue, hne⟩
        obtain rfl := Option.some.inj hvalue
        exact ⟨by simpa using hne, rfl⟩
  · next heq => simp [heq]

/-- What the query of an accepted presigned request says. -/
structure Presigned (uri : Uri) (headers : HeaderMap) (parsed : ParsedSigV4) : Prop where
  nodup : (uri.queryPairs.map Prod.fst).Nodup
  algorithm : uri.queryPairs.lookup "X-Amz-Algorithm".toList = some Http.algorithm
  required : ∀ name ∈ authParameters, ∃ value, uri.queryPairs.lookup name = some value
  token : "X-Amz-Security-Token".toList ∉ uri.queryPairs.map Prod.fst
  signedHeaders : ∃ declared, uri.queryPairs.lookup "X-Amz-SignedHeaders".toList = some declared ∧
    collectSignedHeaders headers uri declared = .ok parsed.signedHeaders
  signingUri : parsed.signingUri = unsignedQueryUri uri

theorem presigned_of_parseQuery [Calendar] {method : Text} {uri : Uri} {headers : HeaderMap}
    {parsed : ParsedSigV4} (h : parseQuery method uri headers = .ok parsed) :
    Presigned uri headers parsed := by
  unfold parseQuery at h
  obtain ⟨values, hvalues, h⟩ := bind_eq_ok_iff.1 h
  obtain ⟨_, halgorithm, h⟩ := bind_eq_ok_iff.1 h
  obtain ⟨_, htoken, h⟩ := bind_eq_ok_iff.1 h
  obtain ⟨credential, hcredential, h⟩ := bind_eq_ok_iff.1 h
  obtain ⟨scope, _, h⟩ := bind_eq_ok_iff.1 h
  obtain ⟨date, hdate, h⟩ := bind_eq_ok_iff.1 h
  obtain ⟨signingTime, _, h⟩ := bind_eq_ok_iff.1 h
  obtain ⟨_, _, h⟩ := bind_eq_ok_iff.1 h
  obtain ⟨expires, hexpires, h⟩ := bind_eq_ok_iff.1 h
  obtain ⟨expiresIn, _, h⟩ := bind_eq_ok_iff.1 h
  obtain ⟨declared, hdeclared, h⟩ := bind_eq_ok_iff.1 h
  obtain ⟨signature, hsignature, h⟩ := bind_eq_ok_iff.1 h
  obtain ⟨_, _, h⟩ := bind_eq_ok_iff.1 h
  obtain ⟨signed, hsigned, h⟩ := bind_eq_ok_iff.1 h
  obtain rfl := pure_eq_ok_iff.1 h
  obtain ⟨hnodup, hpairs⟩ := ite_else_throw_eq_ok_iff.1 hvalues
  obtain rfl := pure_eq_ok_iff.1 hpairs
  obtain ⟨supplied, hsupplied, halgorithm⟩ := bind_eq_ok_iff.1 halgorithm
  obtain ⟨rfl, _⟩ := ite_else_throw_eq_ok_iff.1 halgorithm
  rw [requiredQuery_eq_ok_iff] at hsupplied hcredential hdate hexpires hdeclared hsignature
  refine ⟨hnodup, hsupplied.1, ?_, ?_, ⟨declared, hdeclared.1, hsigned⟩, rfl⟩
  · intro name hname
    simp only [authParameters, List.mem_cons, List.not_mem_nil, or_false] at hname
    rcases hname with rfl | rfl | rfl | rfl | rfl | rfl
    · exact ⟨_, hsupplied.1⟩
    · exact ⟨_, hcredential.1⟩
    · exact ⟨_, hdate.1⟩
    · exact ⟨_, hexpires.1⟩
    · exact ⟨_, hdeclared.1⟩
    · exact ⟨_, hsignature.1⟩
  · intro hmem
    have hcontains := (ite_throw_eq_ok_iff.1 htoken).1
    exact hcontains (List.contains_iff_mem.2 hmem)

/-- Accepted targets of one path that are signed alike
have the same other parameters in the same order. Those of an accepted target are the pairs of the
canonical query, and each authentication parameter occurs once. -/
theorem presignedQuery_tamperEvident [Calendar] :
    (∀ (method method' : Text) (uri uri' : Uri) (headers headers' : HeaderMap)
      (parsed parsed' : ParsedSigV4),
      parseQuery method uri headers = .ok parsed →
      parseQuery method' uri' headers' = .ok parsed' →
      uri.path = uri'.path → parsed.signingUri = parsed'.signingUri →
      uri.otherPairs = uri'.otherPairs) ∧
    ∀ (method : Text) (uri : Uri) (headers : HeaderMap) (parsed : ParsedSigV4),
      parseQuery method uri headers = .ok parsed →
      uri.otherPairs = canonicalPairs parsed.signingUri ∧
      ∀ name ∈ authParameters, (uri.queryPairs.map Prod.fst).count name = 1 := by
  refine ⟨?_, ?_⟩
  · intro _ _ uri uri' _ _ parsed parsed' hparse hparse' _ hsigning
    rw [← canonicalPairs_unsignedQueryUri uri, ← canonicalPairs_unsignedQueryUri uri',
      ← (presigned_of_parseQuery hparse).signingUri, hsigning,
      (presigned_of_parseQuery hparse').signingUri]
  · intro _ uri _ parsed hparse
    have hpresigned := presigned_of_parseQuery hparse
    refine ⟨?_, ?_⟩
    · rw [hpresigned.signingUri, canonicalPairs_unsignedQueryUri]
    · intro name hname
      obtain ⟨value, hvalue⟩ := hpresigned.required name hname
      refine List.count_eq_one_of_mem hpresigned.nodup ?_
      obtain ⟨before, after, heq, _⟩ := List.lookup_eq_some_iff.1 hvalue
      simp [heq]

omit [FormDecoding]

/-- The decoding of texts without percent and plus signs. -/
abbrev plainDecoding : FormDecoding := ⟨id⟩

def decimal (width n : Nat) : Text :=
  (List.range width).reverse.map fun i => Char.ofNat ('0'.toNat + n / Nat.pow 10 i % 10)

def compactDate (t : Time) : Text :=
  let date := Time.date t
  decimal 4 date.year.toNat ++ decimal 2 date.month.toNat ++ decimal 2 date.day.toNat

def compactTime (t : Time) : Text :=
  let n := (t % Time.nanosPerDay / Time.nanosPerSecond).toNat
  compactDate t ++ 'T' :: (decimal 2 (n / 3600) ++ decimal 2 (n / 60 % 60) ++
    decimal 2 (n % 60) ++ ['Z'])

/-- The calendar of the texts that a time is written as. -/
abbrev compactCalendar : Calendar where
  parseFromStr s :=
    let part := fun start width => digits ((s.drop start).take width)
    let date : Time.Date := { year := part 0 4, month := part 4 2, day := part 6 2 }
    let time := Time.seconds (date.toDays * 86400 + part 9 2 * 3600 + part 11 2 * 60 + part 13 2)
    if compactTime time = s then some time else none
  formatDate := compactDate

theorem photos_no_question_mark : '?' ∉ "/photos".toList := by
  decide

def sampleCredential : Text :=
  ['/'].intercalate
    ["key".toList, "20260102".toList, "eu-west-1".toList, "s3".toList, "aws4_request".toList]

def sampleDate : Text := "20260102T030405Z".toList

def presignedUri (pairs : List Text) : Uri where
  scheme := none
  authority := none
  path := "/photos".toList
  query := some (['&'].intercalate pairs)
  path_no_question_mark := photos_no_question_mark

/-- A listing with a delimiter, presigned for one hour. -/
def presignedListing : Uri :=
  presignedUri
    ["delimiter=a".toList, "X-Amz-Algorithm=".toList ++ algorithm,
      "X-Amz-Credential=".toList ++ sampleCredential, "X-Amz-Date=".toList ++ sampleDate,
      "X-Amz-Expires=3600".toList, "X-Amz-SignedHeaders=host".toList,
      "X-Amz-Signature=".toList ++ List.replicate 64 'a']

/-- The same listing with its parameters in another order. -/
def reorderedListing : Uri :=
  presignedUri
    ["X-Amz-Algorithm=".toList ++ algorithm, "X-Amz-Date=".toList ++ sampleDate,
      "X-Amz-Credential=".toList ++ sampleCredential, [], "delimiter=a".toList,
      "X-Amz-SignedHeaders=host".toList, "X-Amz-Expires=3600".toList,
      "X-Amz-Signature=".toList ++ List.replicate 64 'a']

def hostHeaders : HeaderMap := [("host".toList, HeaderValue.ofText "localhost".toList)]

theorem presignedQuery_tamperEvident_listing :
    ∃ parsed parsed',
      @parseQuery plainDecoding compactCalendar "GET".toList presignedListing hostHeaders =
        .ok parsed ∧
      @parseQuery plainDecoding compactCalendar "GET".toList reorderedListing hostHeaders =
        .ok parsed' ∧
      @Uri.otherPairs plainDecoding presignedListing =
        @Uri.otherPairs plainDecoding reorderedListing := by
  obtain ⟨parsed, hparsed⟩ := exists_of_toBool (show (@parseQuery plainDecoding compactCalendar
    "GET".toList presignedListing hostHeaders).toBool = true by decide +kernel)
  obtain ⟨parsed', hparsed'⟩ := exists_of_toBool (show (@parseQuery plainDecoding compactCalendar
    "GET".toList reorderedListing hostHeaders).toBool = true by decide +kernel)
  refine ⟨parsed, parsed', hparsed, hparsed', ?_⟩
  refine (@presignedQuery_tamperEvident plainDecoding compactCalendar).1 _ _ _ _ _ _ _ _ hparsed
    hparsed' rfl ?_
  have hsigning := @Presigned.signingUri plainDecoding _ _ _
    (@presigned_of_parseQuery plainDecoding compactCalendar _ _ _ _ hparsed)
  have hsigning' := @Presigned.signingUri plainDecoding _ _ _
    (@presigned_of_parseQuery plainDecoding compactCalendar _ _ _ _ hparsed')
  rw [hsigning, hsigning']
  decide +kernel

end MediaHub.Http
