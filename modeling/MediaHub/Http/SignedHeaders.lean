import MediaHub.Http.PresignedQuery

/-!
A header that gates a privileged action has to be among the signed ones. The gate reads the list of
signed headers with a parser of its own, from the first field of that name, where the gateway keeps
the last one.
-/

namespace MediaHub.Http

open MediaHub.Core
open Result

def bypassHeader : Text := "x-amz-bypass-".toList ++ "governance-retention".toList

/-- The list of signed headers as the gate reads it. -/
def declaredSignedHeaders [FormDecoding] (headers : HeaderMap) (uri : Uri) : Option Text :=
  match headers.get "authorization".toList with
  | some authorization =>
      authorization.toStr.bind fun text =>
        (text.splitOn ',').findSome? fun field => (trim field).dropPrefix? "SignedHeaders=".toList
  | none =>
      uri.queryPairs.findSome? fun pair =>
        if pair.1 = "X-Amz-SignedHeaders".toList then some pair.2 else none

def s3Sigv4DeclaresSignedHeader [FormDecoding] (headers : HeaderMap) (uri : Uri)
    (expected : Text) : Bool :=
  (declaredSignedHeaders headers uri).any fun declared => (headerNames declared).contains expected

theorem signedValues_names {headers : HeaderMap} {uri : Uri} {name : Text}
    {signed : List (Text × Text)} (h : signedValues headers uri name = .ok signed) :
    signed ≠ [] ∧ ∀ header ∈ signed, header.1 = name := by
  unfold signedValues at h
  split at h
  · split at h
    · simp only [ite_else_throw_eq_ok_iff, pure_eq_ok_iff] at h
      obtain ⟨_, rfl⟩ := h
      simp
    · simp at h
  · next hne =>
      constructor
      · rintro rfl
        exact hne (List.forall₂_nil_right_iff.1 (mapM_eq_ok_iff.1 h))
      · intro header hheader
        obtain ⟨value, _, hvalue⟩ := exists_of_mem_mapM h hheader
        revert hvalue
        cases value.toStr with
        | none => simp
        | some text =>
            intro hvalue
            simp only [pure_eq_ok_iff] at hvalue
            rw [← hvalue]

theorem collectSignedHeaders_names {headers : HeaderMap} {uri : Uri} {declared : Text}
    {signed : List (Text × Text)} (h : collectSignedHeaders headers uri declared = .ok signed)
    (name : Text) : name ∈ signed.map Prod.fst ↔ name ∈ headerNames declared := by
  unfold collectSignedHeaders at h
  simp only [ite_throw_eq_ok_iff, bind_eq_ok_iff, pure_eq_ok_iff] at h
  obtain ⟨_, values, hvalues, rfl⟩ := h
  rw [List.mem_map]
  constructor
  · rintro ⟨header, hheader, rfl⟩
    obtain ⟨group, hgroup, hheader⟩ := List.mem_flatten.1 hheader
    obtain ⟨declaredName, hname, hsigned⟩ := exists_of_mem_mapM hvalues hgroup
    rw [(signedValues_names hsigned).2 header hheader]
    exact hname
  · intro hname
    obtain ⟨group, hgroup, hsigned⟩ := exists_mem_of_mapM hvalues hname
    obtain ⟨hne, hnames⟩ := signedValues_names hsigned
    obtain ⟨header, hheader⟩ := List.exists_mem_of_ne_nil group hne
    exact ⟨header, List.mem_flatten.2 ⟨group, hgroup, hheader⟩, hnames header hheader⟩

namespace ParsedSigV4

/-- The lists of headers over which `verify_signature` has a request signed. -/
def verifiedHeaders (parsed : ParsedSigV4) : List (List (Text × Text)) :=
  parsed.signedHeaders ::
    if parsed.cloudflareAcceptEncodingRewrite then [originalHeaders parsed.signedHeaders] else []

theorem originalHeaders_names (signed : List (Text × Text)) :
    (originalHeaders signed).map Prod.fst = signed.map Prod.fst := by
  unfold originalHeaders
  rw [List.map_map]
  refine List.map_congr_left ?_
  intro header _
  show (if _ then _ else _ : Text × Text).1 = header.1
  split <;> rfl

theorem verifiedHeaders_names {parsed : ParsedSigV4} {signed : List (Text × Text)}
    (h : signed ∈ parsed.verifiedHeaders) :
    signed.map Prod.fst = parsed.signedHeaders.map Prod.fst := by
  rcases List.mem_cons.1 h with rfl | h
  · rfl
  · split at h
    · rw [List.mem_singleton.1 h, originalHeaders_names]
    · simp at h

end ParsedSigV4

/-- The values of the fields `SignedHeaders` among the pieces of a credential text. -/
def signedHeadersIn (pieces : List Text) : List Text :=
  pieces.filterMap fun piece => (trim piece).dropPrefix? "SignedHeaders=".toList

/-- Every name of the first field after a comma is one of the last field. -/
def FieldsAgree (credentials : Text) : Prop :=
  ∀ first ∈ (signedHeadersIn (credentials.splitOn ',').tail).head?,
    ∀ last ∈ (signedHeadersIn (credentials.splitOn ',')).getLast?,
      headerNames first ⊆ headerNames last

instance (credentials : Text) : Decidable (FieldsAgree credentials) := by
  unfold FieldsAgree
  infer_instance

/-- The fields agree where there is a header with credentials at all. -/
def SignedHeadersAgree (headers : HeaderMap) : Prop :=
  ∀ authorization ∈ headers.get "authorization".toList, ∀ text ∈ authorization.toStr,
    ∀ credentials ∈ text.dropPrefix? algorithm, FieldsAgree credentials

instance (headers : HeaderMap) : Decidable (SignedHeadersAgree headers) := by
  unfold SignedHeadersAgree
  infer_instance

/-- The piece with the name of the algorithm is no field. -/
theorem signedHeadersIn_algorithm (credentials : Text) :
    signedHeadersIn ((algorithm ++ credentials).splitOn ',') =
      signedHeadersIn (credentials.splitOn ',').tail := by
  obtain ⟨head, pieces, heq⟩ := List.exists_cons_of_ne_nil (List.splitOn_ne_nil ',' credentials)
  rw [Text.splitOn_append_of_notMem (by decide), heq, List.modifyHead_cons, List.tail_cons]
  obtain ⟨rest, hrest⟩ := Text.trim_cons_of_not (show isWhitespace 'A' = false by decide)
    ("WS4-HMAC-SHA256".toList ++ head)
  unfold signedHeadersIn
  rw [List.filterMap_cons_none]
  have htrim : trim (algorithm ++ head) = 'A' :: rest := hrest
  rw [htrim]
  rfl

theorem lookup_eq_head? {α β : Type} [DecidableEq α] [BEq α] [LawfulBEq α] (key : α)
    (pairs : List (α × β)) :
    pairs.lookup key =
      (pairs.filterMap fun pair => if pair.1 = key then some pair.2 else none).head? := by
  induction pairs with
  | nil => rfl
  | cons pair pairs ih =>
      rw [List.lookup_cons, List.filterMap_cons]
      by_cases h : key = pair.1
      · simp [h]
      · rw [if_neg (Ne.symm h), ← ih, beq_eq_false_iff_ne.2 h]

/-- The value that the map of the fields keeps is that of the last piece of its name. -/
theorem authorizationFields_lastValue {credentials name : Text} (hname : '=' ∉ name)
    {fields : List (Text × Text)} (h : authorizationFields credentials = .ok fields) :
    lastValue fields name = ((credentials.splitOn ',').filterMap fun piece =>
      (trim piece).dropPrefix? (name ++ ['='])).getLast? := by
  have hfields := mapM_eq_ok_iff.1 h
  rw [show ((trim credentials).splitOn ',').map trim = (credentials.splitOn ',').map trim from
    Text.map_trim_splitOn_trim (by decide) credentials] at hfields
  have hvalues : ∀ (pieces : List Text) (fields : List (Text × Text)),
      List.Forall₂ (fun field pair => fieldPair field = .ok pair) (pieces.map trim) fields →
      (pieces.filterMap fun piece => (trim piece).dropPrefix? (name ++ ['='])) =
        fields.filterMap fun pair => if pair.1 = name then some pair.2 else none := by
    intro pieces
    induction pieces with
    | nil =>
        intro fields hnil
        rw [List.forall₂_nil_left_iff.1 hnil]
        rfl
    | cons piece pieces ih =>
        intro fields hcons
        obtain ⟨pair, rest, hpair, hrest, rfl⟩ := List.forall₂_cons_left_iff.1 hcons
        have hdrop : (trim piece).dropPrefix? (name ++ ['=']) =
            if pair.1 = name then some pair.2 else none := by
          unfold fieldPair at hpair
          split at hpair
          · next found hfound =>
              obtain rfl := pure_eq_ok_iff.1 hpair
              exact Text.dropPrefix?_of_splitOnce hname hfound
          · exact absurd hpair (by simp)
        rw [List.filterMap_cons, List.filterMap_cons, hdrop, ih rest hrest]
  rw [hvalues _ _ hfields]
  unfold lastValue
  rw [lookup_eq_head?, List.filterMap_reverse, List.head?_reverse]

/-- Every header that the gate takes for a signed one is signed. -/
def SignedHeadersHonoured [FormDecoding] (headers : HeaderMap) (uri : Uri)
    (parsed : ParsedSigV4) : Prop :=
  ∀ name, s3Sigv4DeclaresSignedHeader headers uri name →
    ∀ signed ∈ parsed.verifiedHeaders, name ∈ signed.map Prod.fst

theorem parseHeader_names [Calendar] {method : Text} {uri : Uri} {headers : HeaderMap} {text : Text}
    {parsed : ParsedSigV4} (h : ParsedSigV4.parseHeader method uri headers text = .ok parsed) :
    ∃ credentials last, text = algorithm ++ credentials ∧
      (signedHeadersIn (credentials.splitOn ',')).getLast? = some last ∧
      ∀ name, name ∈ parsed.signedHeaders.map Prod.fst ↔ name ∈ headerNames last := by
  unfold ParsedSigV4.parseHeader at h
  obtain ⟨credentials, hcredentials, h⟩ := bind_eq_ok_iff.1 h
  obtain ⟨fields, hfields, h⟩ := bind_eq_ok_iff.1 h
  obtain ⟨_, _, h⟩ := bind_eq_ok_iff.1 h
  obtain ⟨last, hlast, h⟩ := bind_eq_ok_iff.1 h
  obtain ⟨_, _, h⟩ := bind_eq_ok_iff.1 h
  obtain ⟨_, _, h⟩ := bind_eq_ok_iff.1 h
  obtain ⟨_, _, h⟩ := bind_eq_ok_iff.1 h
  obtain ⟨_, _, h⟩ := bind_eq_ok_iff.1 h
  obtain ⟨_, _, h⟩ := bind_eq_ok_iff.1 h
  obtain ⟨_, _, h⟩ := bind_eq_ok_iff.1 h
  obtain ⟨signed, hsigned, h⟩ := bind_eq_ok_iff.1 h
  obtain ⟨_, _, h⟩ := bind_eq_ok_iff.1 h
  obtain rfl := pure_eq_ok_iff.1 h
  refine ⟨credentials, last, ?_, ?_, collectSignedHeaders_names hsigned⟩
  · unfold stripAlgorithm at hcredentials
    split at hcredentials
    · next rest hrest =>
        obtain rfl := pure_eq_ok_iff.1 hcredentials
        obtain ⟨front, htext, hfront⟩ := List.dropPrefix?_eq_some_iff.1 hrest
        rw [htext, eq_of_beq hfront]
    · exact absurd hcredentials (by simp)
  · have hvalue := authorizationFields_lastValue (show '=' ∉ "SignedHeaders".toList by decide)
      hfields
    unfold requiredField at hlast
    split at hlast
    · next value hsome =>
        obtain rfl := pure_eq_ok_iff.1 hlast
        exact hvalue.symm.trans hsome
    · exact absurd hlast (by simp)

variable [FormDecoding]

theorem declaredSignedHeaders_presigned {headers : HeaderMap} {uri : Uri}
    (h : headers.get "authorization".toList = none) :
    declaredSignedHeaders headers uri = uri.queryPairs.lookup "X-Amz-SignedHeaders".toList := by
  unfold declaredSignedHeaders
  rw [h, lookup_eq_head?, List.head?_filterMap]

theorem declaredSignedHeaders_header {headers : HeaderMap} {uri : Uri}
    {authorization : HeaderValue} {credentials : Text}
    (h : headers.get "authorization".toList = some authorization)
    (htext : authorization.toStr = some (algorithm ++ credentials)) :
    declaredSignedHeaders headers uri =
      (signedHeadersIn (credentials.splitOn ',').tail).head? := by
  unfold declaredSignedHeaders
  rw [h, ← signedHeadersIn_algorithm, signedHeadersIn, List.head?_filterMap]
  simp only [htext, Option.bind_some]

omit [FormDecoding] in
theorem signedHeadersAgree_iff {headers : HeaderMap} {authorization : HeaderValue}
    {credentials : Text} (h : headers.get "authorization".toList = some authorization)
    (htext : authorization.toStr = some (algorithm ++ credentials)) :
    SignedHeadersAgree headers ↔ FieldsAgree credentials := by
  have hdrop : (algorithm ++ credentials).dropPrefix? algorithm = some credentials :=
    List.dropPrefix?_eq_some_iff.2 ⟨algorithm, rfl, BEq.rfl⟩
  unfold SignedHeadersAgree
  simp only [h, htext, hdrop, Option.mem_some_iff, forall_eq']

theorem signedHeadersHonoured_iff_subset {headers : HeaderMap} {uri : Uri}
    {parsed : ParsedSigV4} {last : Text}
    (hnames : ∀ name, name ∈ parsed.signedHeaders.map Prod.fst ↔ name ∈ headerNames last) :
    SignedHeadersHonoured headers uri parsed ↔
      ∀ first ∈ declaredSignedHeaders headers uri, headerNames first ⊆ headerNames last := by
  unfold SignedHeadersHonoured s3Sigv4DeclaresSignedHeader
  constructor
  · intro hhonoured first hfirst name hname
    rw [← hnames]
    refine hhonoured name ?_ parsed.signedHeaders List.mem_cons_self
    rw [Option.mem_def.1 hfirst, Option.any_some]
    exact List.contains_iff_mem.2 hname
  · intro hsubset name hname signed hsigned
    rw [ParsedSigV4.verifiedHeaders_names hsigned, hnames]
    obtain ⟨first, hfirst, hcontains⟩ := (Option.any_eq_true _ _).1 hname
    exact hsubset first hfirst (List.contains_iff_mem.1 hcontains)

/-- What the gate takes for signed is in the verified signature exactly where the two fields that
they read agree. -/
theorem signedHeadersHonoured_iff [Calendar] {method : Text} {uri : Uri} {headers : HeaderMap}
    {now : Time} {parsed : ParsedSigV4}
    (h : ParsedSigV4.parse method uri headers now = .ok parsed) :
    SignedHeadersHonoured headers uri parsed ↔ SignedHeadersAgree headers := by
  unfold ParsedSigV4.parse at h
  obtain ⟨untimed, huntimed, h⟩ := bind_eq_ok_iff.1 h
  obtain ⟨_, _, h⟩ := bind_eq_ok_iff.1 h
  obtain rfl := pure_eq_ok_iff.1 h
  unfold ParsedSigV4.parseUntimed at huntimed
  split at huntimed
  · next authorization hget =>
      split at huntimed
      · next text htext =>
          obtain ⟨credentials, last, rfl, hlast, hnames⟩ := parseHeader_names huntimed
          rw [signedHeadersHonoured_iff_subset hnames, signedHeadersAgree_iff hget htext,
            declaredSignedHeaders_header hget htext]
          unfold FieldsAgree
          rw [hlast]
          simp only [Option.mem_some_iff, forall_eq']
      · exact absurd huntimed (by simp)
  · next hget =>
      obtain ⟨declared, hdeclared, hsigned⟩ := (presigned_of_parseQuery huntimed).signedHeaders
      rw [signedHeadersHonoured_iff_subset (collectSignedHeaders_names hsigned),
        declaredSignedHeaders_presigned hget, hdeclared]
      have hagree : SignedHeadersAgree headers := by
        intro authorization hauthorization
        rw [hget] at hauthorization
        exact nomatch hauthorization
      refine iff_of_true ?_ hagree
      intro first hfirst
      rw [Option.mem_some_iff.1 hfirst]
      exact List.Subset.refl _

omit [FormDecoding]

def objectUri : Uri where
  scheme := none
  authority := none
  path := "/photos".toList
  query := none
  path_no_question_mark := photos_no_question_mark

/-- A request to bypass governance with the given lists of signed headers, one a field. -/
def bypassHeaders (lists : List Text) : HeaderMap :=
  [("authorization".toList, HeaderValue.ofText
      (algorithm ++ " Credential=".toList ++ sampleCredential ++
        lists.flatMap (", SignedHeaders=".toList ++ ·) ++ ", Signature=".toList ++
        List.replicate 64 'a')),
    ("host".toList, HeaderValue.ofText "localhost".toList),
    (bypassHeader, HeaderValue.ofText "true".toList),
    ("x-amz-date".toList, HeaderValue.ofText sampleDate)]

/-- The bypass is signed by the last field. -/
def signedBypass : HeaderMap :=
  bypassHeaders ["host".toList, "host;".toList ++ bypassHeader]

/-- The bypass is signed by the first field only. -/
def unsignedBypass : HeaderMap :=
  bypassHeaders ["host;".toList ++ bypassHeader, "host".toList]

theorem signedHeadersHonoured_iff_signedBypass :
    ∃ parsed, @ParsedSigV4.parse plainDecoding compactCalendar "DELETE".toList objectUri
        signedBypass (Time.seconds 1767323045) = .ok parsed ∧
      @SignedHeadersHonoured plainDecoding signedBypass objectUri parsed := by
  obtain ⟨parsed, hparsed⟩ := exists_of_toBool (show (@ParsedSigV4.parse plainDecoding
    compactCalendar "DELETE".toList objectUri signedBypass (Time.seconds 1767323045)).toBool =
      true by decide +kernel)
  refine ⟨parsed, hparsed, ?_⟩
  refine (@signedHeadersHonoured_iff plainDecoding compactCalendar _ _ _ _ _ hparsed).2 ?_
  decide +kernel

/-- The gate takes the bypass for signed, and no signature covers it. -/
theorem not_signedHeadersHonoured_unsignedBypass :
    ∃ parsed, @ParsedSigV4.parse plainDecoding compactCalendar "DELETE".toList objectUri
        unsignedBypass (Time.seconds 1767323045) = .ok parsed ∧
      ¬ @SignedHeadersHonoured plainDecoding unsignedBypass objectUri parsed := by
  have hnames : (@ParsedSigV4.parse plainDecoding compactCalendar "DELETE".toList objectUri
      unsignedBypass (Time.seconds 1767323045)).map
        (fun parsed => parsed.signedHeaders.map Prod.fst)
        = .ok ["host".toList] := by
    decide +kernel
  obtain ⟨parsed, hparsed⟩ := exists_of_toBool (show (@ParsedSigV4.parse plainDecoding
    compactCalendar "DELETE".toList objectUri unsignedBypass (Time.seconds 1767323045)).toBool =
      true by decide +kernel)
  refine ⟨parsed, hparsed, ?_⟩
  intro hhonoured
  rw [hparsed] at hnames
  have hmem := hhonoured bypassHeader (by decide +kernel) parsed.signedHeaders List.mem_cons_self
  have hsigned : parsed.signedHeaders.map Prod.fst = ["host".toList] := Except.ok.inj hnames
  rw [hsigned] at hmem
  exact absurd hmem (by decide)

end MediaHub.Http
