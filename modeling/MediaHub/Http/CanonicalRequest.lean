import MediaHub.Http.Hmac
import MediaHub.Http.ObjectTagging

namespace MediaHub.Http.Hmac

open MediaHub.Core
open Result
open Text (isAsciiDigit isAsciiLowercase)

theorem encode_injective : Function.Injective FormUrlencoded.encode := by
  intro s t h
  have hread := congrArg strictFormComponentDecode h
  rw [strictFormComponentDecode_encode, strictFormComponentDecode_encode] at hread
  exact Except.ok.inj hread

theorem encodePair_injective : Function.Injective FormUrlencoded.encodePair := by
  intro p q h
  have hsplit := congrArg (Text.splitOnce '=') h
  rw [FormUrlencoded.splitOnce_encodePair, FormUrlencoded.splitOnce_encodePair,
    Option.some.injEq, Prod.mk.injEq] at hsplit
  exact Prod.ext (encode_injective hsplit.1) (encode_injective hsplit.2)

theorem serialize_injective : Function.Injective FormUrlencoded.serialize := by
  have hnil : ∀ {pairs}, FormUrlencoded.serialize pairs = [] → pairs = [] := fun h =>
    by_contra fun hne => formUrlencoded_ne_nil hne h
  intro p q h
  by_cases hp : p = []
  · subst hp
    exact (hnil h.symm).symm
  · have hq : q ≠ [] := fun hq => hp (hnil (h.trans (congrArg _ hq)))
    have hsplit := congrArg (List.splitOn '&') h
    rw [FormUrlencoded.splitOn_serialize hp, FormUrlencoded.splitOn_serialize hq] at hsplit
    exact List.map_injective_iff.2 encodePair_injective hsplit

/-- The pairs that are kept under the keys. -/
def storedPairs (query : List (Text × List Text)) : List (Text × Text) :=
  query.flatMap fun entry => entry.2.map fun value => (entry.1, value)

theorem storedPairs_cons (entry : Text × List Text) (query : List (Text × List Text)) :
    storedPairs (entry :: query) =
      entry.2.map (fun value => (entry.1, value)) ++ storedPairs query := List.flatMap_cons

theorem storedPairs_pushValue (key value : Text) (query : List (Text × List Text)) :
    (storedPairs (pushValue key value query)).Perm ((key, value) :: storedPairs query) := by
  induction query with
  | nil => exact List.Perm.refl _
  | cons entry query ih =>
      rw [pushValue]
      split
      · next heq =>
          rw [storedPairs_cons, storedPairs_cons, ← heq, List.map_append, List.append_assoc]
          exact List.perm_middle
      · split
        · exact List.Perm.refl _
        · rw [storedPairs_cons, storedPairs_cons]
          exact (ih.append_left _).trans List.perm_middle

theorem storedPairs_canonicalQuery [FormDecoding] (query : Option Text) :
    (storedPairs (canonicalQuery query)).Perm (formUrlencodedParse (query.getD [])) := by
  have hfold : ∀ (pairs : List (Text × Text)) (result : List (Text × List Text)),
      (storedPairs (pairs.foldl (fun result pair => pushValue pair.1 pair.2 result) result)).Perm
        (storedPairs result ++ pairs) := by
    intro pairs
    induction pairs with
    | nil =>
        intro result
        rw [List.append_nil]
        exact List.Perm.refl _
    | cons pair pairs ih =>
        intro result
        rw [List.foldl_cons]
        refine (ih _).trans (((storedPairs_pushValue _ _ _).append_right _).trans ?_)
        exact List.perm_middle.symm
  exact hfold _ []

theorem sortedPairs_perm (query : List (Text × List Text)) :
    (sortedPairs query).Perm (storedPairs query) := by
  induction query with
  | nil => exact List.Perm.refl _
  | cons entry query ih =>
      rw [sortedPairs, List.flatMap_cons, storedPairs_cons]
      exact ((List.perm_insertionSort _ _).map _).append ih

/-- The order of the pairs in a canonical query. -/
def PairLe (p q : Text × Text) : Prop := p.1 < q.1 ∨ p.1 = q.1 ∧ p.2 ≤ q.2

theorem PairLe.antisymm {p q : Text × Text} (h : PairLe p q) (h' : PairLe q p) : p = q := by
  rcases h with hlt | ⟨heq, hle⟩
  · rcases h' with hgt | ⟨heq, _⟩
    · exact absurd hgt (lt_asymm hlt)
    · exact absurd hlt (heq ▸ lt_irrefl _)
  · rcases h' with hgt | ⟨_, hge⟩
    · exact absurd hgt (heq ▸ lt_irrefl _)
    · exact Prod.ext heq (le_antisymm hle hge)

/-- The keys of a canonical query grow. -/
def Ordered (query : List (Text × List Text)) : Prop := query.Pairwise fun a b => a.1 < b.1

theorem mem_pushValue {key value : Text} {query : List (Text × List Text)}
    {entry : Text × List Text} (h : entry ∈ pushValue key value query) :
    entry.1 = key ∨ ∃ other ∈ query, other.1 = entry.1 := by
  induction query with
  | nil => exact Or.inl (congrArg Prod.fst (List.mem_singleton.1 h))
  | cons first query ih =>
      rw [pushValue] at h
      split at h
      · rcases List.mem_cons.1 h with rfl | h
        · exact Or.inl rfl
        · exact Or.inr ⟨entry, List.mem_cons_of_mem _ h, rfl⟩
      · split at h
        · rcases List.mem_cons.1 h with rfl | h
          · exact Or.inl rfl
          · exact Or.inr ⟨entry, h, rfl⟩
        · rcases List.mem_cons.1 h with rfl | h
          · exact Or.inr ⟨_, List.mem_cons_self, rfl⟩
          · rcases ih h with heq | ⟨other, hother, heq⟩
            · exact Or.inl heq
            · exact Or.inr ⟨other, List.mem_cons_of_mem _ hother, heq⟩

theorem ordered_pushValue (key value : Text) {query : List (Text × List Text)}
    (h : Ordered query) : Ordered (pushValue key value query) := by
  induction query with
  | nil => exact List.pairwise_singleton _ _
  | cons first query ih =>
      obtain ⟨hfirst, hrest⟩ := List.pairwise_cons.1 h
      rw [pushValue]
      split
      · next heq =>
          exact List.pairwise_cons.2 ⟨fun entry hentry => heq ▸ hfirst entry hentry, hrest⟩
      · next hne =>
          split
          · next hlt =>
              refine List.pairwise_cons.2 ⟨fun entry hentry => ?_, h⟩
              rcases List.mem_cons.1 hentry with rfl | hentry
              · exact hlt
              · exact hlt.trans (hfirst entry hentry)
          · next hnlt =>
              refine List.pairwise_cons.2 ⟨fun entry hentry => ?_, ih hrest⟩
              rcases mem_pushValue hentry with heq | ⟨other, hother, heq⟩
              · rw [heq]
                exact lt_of_le_of_ne (not_lt.1 hnlt) hne
              · exact heq ▸ hfirst other hother

theorem ordered_canonicalQuery [FormDecoding] (query : Option Text) :
    Ordered (canonicalQuery query) := by
  have hfold : ∀ (pairs : List (Text × Text)) (result : List (Text × List Text)), Ordered result →
      Ordered (pairs.foldl (fun result pair => pushValue pair.1 pair.2 result) result) := by
    intro pairs
    induction pairs with
    | nil => exact fun _ h => h
    | cons pair pairs ih => exact fun result h => ih _ (ordered_pushValue _ _ h)
  exact hfold _ [] List.Pairwise.nil

theorem pairwise_sortedPairs {query : List (Text × List Text)} (h : Ordered query) :
    (sortedPairs query).Pairwise PairLe := by
  rw [sortedPairs, List.pairwise_flatMap]
  constructor
  · intro entry _
    rw [List.pairwise_map]
    exact (List.pairwise_insertionSort _ _).imp fun hle => Or.inr ⟨rfl, hle⟩
  · refine h.imp fun {a b} hlt p hp q hq => ?_
    obtain ⟨_, _, rfl⟩ := List.mem_map.1 hp
    obtain ⟨_, _, rfl⟩ := List.mem_map.1 hq
    exact Or.inl hlt

/-- The canonical query knows the pairs and not their order. -/
theorem sortedPairs_eq_iff [FormDecoding] (first second : Option Text) :
    sortedPairs (canonicalQuery first) = sortedPairs (canonicalQuery second) ↔
      (formUrlencodedParse (first.getD [])).Perm (formUrlencodedParse (second.getD [])) := by
  have hperm : ∀ query : Option Text, (sortedPairs (canonicalQuery query)).Perm
      (formUrlencodedParse (query.getD [])) := fun query =>
    (sortedPairs_perm _).trans (storedPairs_canonicalQuery query)
  constructor
  · intro h
    exact (hperm first).symm.trans (h ▸ hperm second)
  · intro h
    refine List.Perm.eq_of_pairwise (fun _ _ _ _ => PairLe.antisymm)
      (pairwise_sortedPairs (ordered_canonicalQuery first))
      (pairwise_sortedPairs (ordered_canonicalQuery second)) ?_
    exact (hperm first).trans (h.trans (hperm second).symm)

theorem toUpper_newline (c : Char) : c.toUpper = '\n' ↔ c = '\n' := by
  by_cases hascii : c.toNat < 128
  · exact Text.of_ascii (P := fun c => c.toUpper = '\n' ↔ c = '\n') (by decide +kernel) hascii
  · rw [Text.toUpper_of_not_ascii hascii]

theorem newline_not_mem_toAsciiUppercase {s : Text} (h : '\n' ∉ s) :
    '\n' ∉ toAsciiUppercase s := by
  intro hmem
  obtain ⟨c, hc, heq⟩ := List.mem_map.1 hmem
  exact h ((toUpper_newline c).1 heq ▸ hc)

theorem newline_not_mem_trim {s : Text} (h : '\n' ∉ s) : '\n' ∉ trim s := fun hmem =>
  h ((List.rdropWhile_prefix _ _).subset ((List.dropWhile_suffix _).subset hmem))

theorem newline_not_mem_hexEncode (bytes : List UInt8) : '\n' ∉ hexEncode bytes := by
  have hdigit : ∀ n < 16, '\n' ≠ Nat.digitChar n := by decide
  intro hmem
  obtain ⟨byte, _, hc⟩ := List.mem_flatMap.1 hmem
  have hbyte := byte.toNat_lt
  rcases List.mem_cons.1 hc with heq | hc
  · exact hdigit _ (by omega) heq
  · exact hdigit _ (by omega) (List.mem_singleton.1 hc)

theorem newline_not_mem_toStr {value : HeaderValue} {text : Text} (h : value.toStr = some text) :
    '\n' ∉ text := by
  rw [HeaderValue.toStr, Option.ite_none_right_eq_some] at h
  obtain ⟨hvisible, heq⟩ := h
  obtain rfl := Option.some.inj heq
  intro hmem
  obtain ⟨byte, hbyte, hc⟩ := List.mem_map.1 hmem
  have hall : ∀ n < 256, ((32 ≤ UInt8.ofNat n && UInt8.ofNat n < 127) || UInt8.ofNat n = 9) = true →
      Char.ofNat (UInt8.ofNat n).toNat ≠ '\n' := by decide +kernel
  have hne := hall byte.toNat byte.toNat_lt
  rw [UInt8.ofNat_toNat] at hne
  exact hne (List.all_eq_true.1 hvisible byte hbyte) hc

/-- The whole second of a date. -/
def second (t : Time) : Int := t / Time.nanosPerSecond

/-- What the formats are documented to be: a date in whole seconds on one line, and the form of
the `url` crate. -/
structure StandardText [ControlText] : Prop where
  serializeForm_eq : ∀ pairs, ControlText.serializeForm pairs = FormUrlencoded.serialize pairs
  second_eq : ∀ t t', ControlText.toRfc3339Secs t = ControlText.toRfc3339Secs t' →
    second t = second t'
  newline_not_mem : ∀ t, '\n' ∉ ControlText.toRfc3339Secs t

/-- The name and the value of a signed header, as they are signed. -/
def normalized (header : Text × Text) : Text × Text :=
  (toAsciiLowercase header.1, trim header.2)

def headerLine (header : Text × Text) : Text :=
  (normalized header).1 ++ ':' :: (normalized header).2

namespace CanonicalRequest

def headerLines (request : CanonicalRequest) : List Text :=
  if request.headers = [] then [[]] else request.headers.map headerLine

def lines [ControlText] (request : CanonicalRequest) : List Text :=
  [toAsciiUppercase request.method, request.path,
    ControlText.serializeForm (sortedPairs request.query)] ++
  (request.headerLines ++
    [request.bodySha256, ControlText.toRfc3339Secs request.timestamp, request.nonce,
      request.idempotencyKey.getD []])

/-- No part of a request reaches over a line or over the colon of a header. -/
structure Separated (request : CanonicalRequest) : Prop where
  method : '\n' ∉ request.method
  path : '\n' ∉ request.path
  names : ∀ header ∈ request.headers,
    '\n' ∉ toAsciiLowercase header.1 ∧ ':' ∉ toAsciiLowercase header.1
  values : ∀ header ∈ request.headers, '\n' ∉ header.2
  bodySha256 : '\n' ∉ request.bodySha256
  nonce : '\n' ∉ request.nonce
  idempotencyKey : '\n' ∉ request.idempotencyKey.getD []

theorem headerLines_ne_nil (request : CanonicalRequest) : request.headerLines ≠ [] := by
  rw [headerLines]
  split
  · exact List.cons_ne_nil _ _
  · next hne => simpa using hne

theorem intercalate_headerLines (request : CanonicalRequest) :
    ['\n'].intercalate request.headerLines =
      ['\n'].intercalate (request.headers.map headerLine) := by
  rw [headerLines]
  split
  · next hnil => rw [hnil]; rfl
  · rfl

theorem render_eq [ControlText] (request : CanonicalRequest) :
    request.render = ['\n'].intercalate request.lines := by
  have hjoin : ['\n'].intercalate
      ([toAsciiUppercase request.method, request.path,
        ControlText.serializeForm (sortedPairs request.query)] ++
        ['\n'].intercalate request.headerLines ::
        [request.bodySha256, ControlText.toRfc3339Secs request.timestamp, request.nonce,
          request.idempotencyKey.getD []]) = ['\n'].intercalate request.lines :=
    Text.intercalate_intercalate request.headerLines_ne_nil (List.cons_ne_nil _ _)
  rw [← hjoin, intercalate_headerLines]
  rfl

theorem newline_not_mem_headerLines {request : CanonicalRequest} (h : request.Separated) :
    ∀ line ∈ request.headerLines, '\n' ∉ line := by
  intro line hline
  rw [headerLines] at hline
  split at hline
  · rw [List.mem_singleton.1 hline]
    exact List.not_mem_nil
  · obtain ⟨header, hheader, rfl⟩ := List.mem_map.1 hline
    rw [headerLine, List.mem_append, List.mem_cons, not_or, not_or]
    exact ⟨(h.names header hheader).1, by decide, newline_not_mem_trim (h.values header hheader)⟩

theorem newline_not_mem_lines [ControlText] (htext : StandardText) {request : CanonicalRequest}
    (h : request.Separated) : ∀ line ∈ request.lines, '\n' ∉ line := by
  have hform : '\n' ∉ ControlText.serializeForm (sortedPairs request.query) := by
    rw [htext.serializeForm_eq]
    intro hmem
    exact absurd (FormUrlencoded.visible_of_mem hmem).1 (by decide)
  intro line hline
  rw [lines, List.mem_append, List.mem_append] at hline
  simp only [List.mem_cons, List.not_mem_nil, or_false] at hline
  rcases hline with (rfl | rfl | rfl) | hline | rfl | rfl | rfl | rfl
  · exact newline_not_mem_toAsciiUppercase h.method
  · exact h.path
  · exact hform
  · exact newline_not_mem_headerLines h line hline
  · exact h.bodySha256
  · exact htext.newline_not_mem _
  · exact h.nonce
  · exact h.idempotencyKey

/-- The lines of the headers tell their names and values. -/
theorem filterMap_headerLines {request : CanonicalRequest} (h : request.Separated) :
    request.headerLines.filterMap (Text.splitOnce ':') = request.headers.map normalized := by
  rw [headerLines]
  split
  · next hnil => rw [hnil]; rfl
  · have hcut : ∀ header ∈ request.headers,
        (Text.splitOnce ':' ∘ headerLine) header = some (normalized header) := fun header hheader =>
      Text.splitOnce_eq_some_iff.2 ⟨(h.names header hheader).2, rfl⟩
    rw [List.filterMap_map, List.filterMap_congr hcut, List.filterMap_eq_map']

/-- What the text of a request determines. -/
structure SameParts (first second : CanonicalRequest) : Prop where
  method : toAsciiUppercase first.method = toAsciiUppercase second.method
  path : first.path = second.path
  query : sortedPairs first.query = sortedPairs second.query
  headers : first.headers.map normalized = second.headers.map normalized
  bodySha256 : first.bodySha256 = second.bodySha256
  timestamp : Hmac.second first.timestamp = Hmac.second second.timestamp
  nonce : first.nonce = second.nonce
  idempotencyKey : first.idempotencyKey.getD [] = second.idempotencyKey.getD []

theorem sameParts_of_render_eq [ControlText] (htext : StandardText)
    {first second : CanonicalRequest} (h : first.Separated) (h' : second.Separated)
    (heq : first.render = second.render) : SameParts first second := by
  rw [render_eq, render_eq] at heq
  have hlines : first.lines = second.lines :=
    Text.intercalate_inj (List.cons_ne_nil _ _) (List.cons_ne_nil _ _)
      (newline_not_mem_lines htext h) (newline_not_mem_lines htext h') heq
  obtain ⟨hstart, hrest⟩ := List.append_inj hlines rfl
  obtain ⟨hheaders, hend⟩ := List.append_inj' hrest rfl
  simp only [List.cons.injEq, and_true] at hstart hend
  obtain ⟨hmethod, hpath, hquery⟩ := hstart
  obtain ⟨hbody, htime, hnonce, hkey⟩ := hend
  rw [htext.serializeForm_eq, htext.serializeForm_eq] at hquery
  exact {
    method := hmethod
    path := hpath
    query := serialize_injective hquery
    headers := by
      rw [← filterMap_headerLines h, ← filterMap_headerLines h', hheaders]
    bodySha256 := hbody
    timestamp := htext.second_eq _ _ htime
    nonce := hnonce
    idempotencyKey := hkey }

end CanonicalRequest

/-- What `http` promises of a method and of a path. -/
structure HmacRequest.OneLine (request : HmacRequest) : Prop where
  method : '\n' ∉ request.method
  path : '\n' ∉ request.uri.path

/-- The names that may be signed. -/
theorem validHeaderName_separated {name : Text} (h : validHeaderName name = true) :
    '\n' ∉ toAsciiLowercase name ∧ ':' ∉ toAsciiLowercase name := by
  have hall : ∀ n < 128, (isAsciiLowercase (Char.ofNat n) || isAsciiDigit (Char.ofNat n) ||
      Char.ofNat n = '-') = true → (Char.ofNat n).toLower ≠ '\n' ∧
        (Char.ofNat n).toLower ≠ ':' := by
    decide +kernel
  have hchar : ∀ c ∈ name, c.toLower ≠ '\n' ∧ c.toLower ≠ ':' := by
    intro c hc
    have hvalid := List.all_eq_true.1 (Bool.and_eq_true_iff.1 h).2 c hc
    have hascii : c.toNat < 128 := by
      simp only [isAsciiLowercase, isAsciiDigit, Bool.or_eq_true, Bool.and_eq_true,
        decide_eq_true_eq, Char.le_def, UInt32.le_iff_toNat_le] at hvalid
      rcases hvalid with (⟨_, hle⟩ | ⟨_, hle⟩) | rfl
      · exact Nat.lt_of_le_of_lt hle (by decide)
      · exact Nat.lt_of_le_of_lt hle (by decide)
      · decide
    have hc := hall c.toNat hascii
    rw [Char.ofNat_toNat] at hc
    exact hc hvalid
  constructor
  · intro hmem
    obtain ⟨c, hc, heq⟩ := List.mem_map.1 hmem
    exact (hchar c hc).1 heq
  · intro hmem
    obtain ⟨c, hc, heq⟩ := List.mem_map.1 hmem
    exact (hchar c hc).2 heq

theorem validHeaderName_of_parseAuthorization {value : Text} {parsed : List Text × Text}
    (h : parseAuthorization value = .ok parsed) :
    ∀ name ∈ parsed.1, validHeaderName name = true := by
  rw [parseAuthorization] at h
  split at h
  · simp at h
  · next rest _ =>
      dsimp only at h
      split at h
      · simp at h
      · next declared _ =>
          split at h
          · simp at h
          · next hvalid =>
              split at h
              · simp at h
              · obtain rfl := Except.ok.inj h
                simp only [Bool.or_eq_true, not_or, List.any_eq_true, Bool.not_eq_true',
                  not_exists, not_and, Bool.not_eq_false] at hvalid
                exact hvalid.2

theorem mem_insertHeader {name value : Text} {headers : List (Text × Text)} {entry : Text × Text}
    (h : entry ∈ insertHeader name value headers) : entry = (name, value) ∨ entry ∈ headers := by
  induction headers with
  | nil => exact Or.inl (List.mem_singleton.1 h)
  | cons first headers ih =>
      rw [insertHeader] at h
      split at h
      · exact List.mem_cons.1 h
      · rcases List.mem_cons.1 h with rfl | h
        · exact Or.inr List.mem_cons_self
        · exact (ih h).imp id (List.mem_cons_of_mem _)

/-- A signed header has a name that is signed and a value that was sent as text. -/
theorem mem_canonicalHeaders {headers : HeaderMap} {signedHeaders : List Text}
    {signed : List (Text × Text)} (h : canonicalHeaders headers signedHeaders = .ok signed) :
    ∀ entry ∈ signed, entry.1 ∈ signedHeaders ∧ '\n' ∉ entry.2 := by
  refine foldlM_invariant (P := fun result : List (Text × Text) =>
    ∀ entry ∈ result, entry.1 ∈ signedHeaders ∧ '\n' ∉ entry.2) ?_ (by simp) h
  intro name hname result next hresult hnext
  split at hnext
  · simp at hnext
  · split at hnext
    · simp at hnext
    · next text htext =>
        split at hnext
        · simp at hnext
        · obtain rfl := Except.ok.inj hnext
          intro entry hentry
          rcases mem_insertHeader hentry with rfl | hold
          · exact ⟨hname, newline_not_mem_trim (newline_not_mem_toStr htext)⟩
          · exact hresult entry hold

theorem newline_not_mem_optionalHeader (headers : HeaderMap) (name : String) :
    '\n' ∉ (optionalHeader headers name).getD [] := by
  cases hvalue : optionalHeader headers name with
  | none => exact List.not_mem_nil
  | some text =>
      obtain ⟨value, _, htext⟩ := Option.bind_eq_some_iff.1 hvalue
      exact newline_not_mem_toStr htext

section

variable [FormDecoding] [Calendar] [ControlText] [ControlCrypto]
  {request : HmacRequest} {prepared : PreparedRequest}

theorem separated_of_prepared (hrequest : request.OneLine)
    (h : prepareHmacRequest request = .ok prepared) : prepared.canonical.Separated := by
  simp only [prepareHmacRequest, bind_eq_ok_iff, rejectIf_eq_ok_iff, pure_eq_ok_iff,
    exists_const] at h
  obtain ⟨_, _, _, _, _, _, _, _, _, _, _, _, _, _, parsed, hparsed, headers, hheaders, _, _, _, _,
    rfl⟩ := h
  have hmem := mem_canonicalHeaders hheaders
  exact {
    method := hrequest.method
    path := hrequest.path
    names := fun header hheader => validHeaderName_separated
      (validHeaderName_of_parseAuthorization hparsed _ (hmem header hheader).1)
    values := fun header hheader => (hmem header hheader).2
    bodySha256 := newline_not_mem_hexEncode _
    nonce := newline_not_mem_optionalHeader _ _
    idempotencyKey := newline_not_mem_optionalHeader _ _ }

theorem canonical_query (h : prepareHmacRequest request = .ok prepared) :
    prepared.canonical.query = canonicalQuery request.uri.query := by
  simp only [prepareHmacRequest, bind_eq_ok_iff, rejectIf_eq_ok_iff, pure_eq_ok_iff,
    exists_const] at h
  obtain ⟨_, _, _, _, _, _, _, _, _, _, _, _, _, _, _, _, _, _, _, _, _, _, rfl⟩ := h
  rfl

/-- A request with another query is prepared in the same way. -/
theorem prepareHmacRequest_query (h : prepareHmacRequest request = .ok prepared) {uri : Uri}
    (hpath : uri.path = request.uri.path) :
    prepareHmacRequest { request with uri } = .ok { prepared with
      canonical := { prepared.canonical with query := canonicalQuery uri.query }
      requestHash := requestHash request.method request.uri.path (canonicalQuery uri.query)
        prepared.canonical.bodySha256 } := by
  simp only [prepareHmacRequest, bind_eq_ok_iff, rejectIf_eq_ok_iff, pure_eq_ok_iff,
    exists_const] at h ⊢
  obtain ⟨hbody, supplied, hsupplied, hhash, key, hkey, dateText, hdateText, date, hdate, u, hnonce,
    authorization, hauthorization, parsed, hparsed, headers, hheaders, v, hsigned, w, hidempotency,
    rfl⟩ := h
  refine ⟨hbody, supplied, hsupplied, hhash, key, hkey, dateText, hdateText, date, hdate, u,
    hnonce, authorization, hauthorization, parsed, hparsed, headers, hheaders, v, hsigned, w,
    hidempotency, ?_⟩
  rw [hpath]

/-- The text of a canonical request determines the request up to the order of its query. -/
theorem canonicalRequest_injective (htext : StandardText) {first second : HmacRequest}
    {prepared prepared' : PreparedRequest} (hfirst : first.OneLine) (hsecond : second.OneLine)
    (hprepared : prepareHmacRequest first = .ok prepared)
    (hprepared' : prepareHmacRequest second = .ok prepared') :
    (prepared.canonical.render = prepared'.canonical.render →
      CanonicalRequest.SameParts prepared.canonical prepared'.canonical ∧
      (formUrlencodedParse (first.uri.query.getD [])).Perm
        (formUrlencodedParse (second.uri.query.getD []))) ∧
    ∀ uri : Uri, uri.path = first.uri.path →
      (formUrlencodedParse (uri.query.getD [])).Perm
        (formUrlencodedParse (first.uri.query.getD [])) →
      ∃ reordered, prepareHmacRequest { first with uri } = .ok reordered ∧
        reordered.canonical.render = prepared.canonical.render := by
  have hquery := canonical_query hprepared
  constructor
  · intro heq
    have hsame := CanonicalRequest.sameParts_of_render_eq htext
      (separated_of_prepared hfirst hprepared) (separated_of_prepared hsecond hprepared') heq
    refine ⟨hsame, (sortedPairs_eq_iff _ _).1 ?_⟩
    rw [← hquery, ← canonical_query hprepared']
    exact hsame.query
  · intro uri hpath hperm
    refine ⟨_, prepareHmacRequest_query hprepared hpath, ?_⟩
    rw [CanonicalRequest.render, CanonicalRequest.render, (sortedPairs_eq_iff _ _).2 hperm, hquery]

end

namespace TwoOrders

def dateText : Text := "2026-07-14T12:00:00Z".toList

def date : Time := Time.seconds 1784030400

/-- Dates are written with their number of seconds, but for the one that is sent. -/
def secondsText (t : Time) : Text :=
  if second t = second date then dateText
  else (if 0 ≤ second t then '+' else '-') :: List.replicate (second t).natAbs '0'

theorem second_eq_of_secondsText {t t' : Time} (h : secondsText t = secondsText t') :
    second t = second t' := by
  have hdate : ∀ c n, dateText ≠ c :: List.replicate n '0' := by
    intro c n heq
    have hmem : '6' ∈ List.replicate n '0' := (List.cons.inj heq).2 ▸ by decide
    exact absurd (List.eq_of_mem_replicate hmem) (by decide)
  rw [secondsText, secondsText] at h
  by_cases hsame : second t = second date
  · by_cases hsame' : second t' = second date
    · exact hsame.trans hsame'.symm
    · rw [if_pos hsame, if_neg hsame'] at h
      exact absurd h (hdate _ _)
  · by_cases hsame' : second t' = second date
    · rw [if_neg hsame, if_pos hsame'] at h
      exact absurd h.symm (hdate _ _)
    · rw [if_neg hsame, if_neg hsame'] at h
      obtain ⟨hsign, hlength⟩ := List.cons.inj h
      have habs := congrArg List.length hlength
      rw [List.length_replicate, List.length_replicate] at habs
      split at hsign <;> split at hsign
      · omega
      · exact absurd hsign (by decide)
      · exact absurd hsign (by decide)
      · omega

theorem newline_not_mem_secondsText (t : Time) : '\n' ∉ secondsText t := by
  rw [secondsText]
  split
  · decide
  · intro hmem
    rcases List.mem_cons.1 hmem with heq | hmem
    · split at heq <;> exact absurd heq (by decide)
    · exact absurd (List.eq_of_mem_replicate hmem) (by decide)

abbrev texts : ControlText where
  parseFromRfc3339 text := if text = dateText then some date else none
  toRfc3339Secs := secondsText
  serializeForm := FormUrlencoded.serialize

theorem standardText : @StandardText texts :=
  @StandardText.mk texts (fun _ => rfl) (fun _ _ => second_eq_of_secondsText)
    newline_not_mem_secondsText

/-- SHA-256 of the empty body. -/
def emptyDigest : List UInt8 :=
  [227, 176, 196, 66, 152, 252, 28, 20, 154, 251, 244, 200, 153, 111, 185, 36, 39, 174, 65, 228,
    100, 155, 147, 76, 164, 149, 153, 27, 120, 82, 184, 85]

abbrev crypto : ControlCrypto := ⟨fun _ => emptyDigest, fun _ _ => [1], fun _ _ => none⟩

abbrev form : FormDecoding := ⟨id⟩

abbrev calendar : Calendar := ⟨fun _ => none, fun _ => []⟩

def authorization : Text :=
  "MH-HMAC-SHA256 SignedHeaders=x-mediahub-access-key,x-mediahub-date,".toList ++
    "x-mediahub-content-sha256; Signature=01".toList

def path : Text := "/api/v1/media".toList

theorem no_question_mark_path : '?' ∉ path := by decide

def request (query : String) : HmacRequest where
  method := "GET".toList
  uri := ⟨none, none, path, some query.toList, no_question_mark_path⟩
  headers := [("authorization".toList, authorization),
    ("x-mediahub-access-key".toList, "MH1".toList), ("x-mediahub-date".toList, dateText),
    ("x-mediahub-content-sha256".toList,
      "e3b0c44298fc1c149afbf4c8996fb92427ae41e4649b934ca495991b7852b855".toList)].map fun header =>
        (header.1, HeaderValue.ofText header.2)
  body := []

end TwoOrders

/-- A query in another order, with the values of one name in another order too. -/
theorem canonicalRequest_injective_reordered :
    ∃ prepared prepared' : PreparedRequest,
      @prepareHmacRequest TwoOrders.form TwoOrders.calendar TwoOrders.texts TwoOrders.crypto
          (TwoOrders.request "a=1&b=2&a=0") = .ok prepared ∧
      @prepareHmacRequest TwoOrders.form TwoOrders.calendar TwoOrders.texts TwoOrders.crypto
          (TwoOrders.request "a=0&a=1&b=2") = .ok prepared' ∧
      @CanonicalRequest.render TwoOrders.texts prepared'.canonical =
        @CanonicalRequest.render TwoOrders.texts prepared.canonical ∧
      prepared'.canonical.SameParts prepared.canonical := by
  obtain ⟨prepared, hprepared⟩ := exists_of_toBool (x := @prepareHmacRequest TwoOrders.form
    TwoOrders.calendar TwoOrders.texts TwoOrders.crypto (TwoOrders.request "a=1&b=2&a=0"))
    (by decide +kernel)
  have hmethod : '\n' ∉ "GET".toList := by decide
  have hpath : '\n' ∉ TwoOrders.path := by decide
  have hline : ∀ query, (TwoOrders.request query).OneLine := fun _ => ⟨hmethod, hpath⟩
  have hperm : (@formUrlencodedParse TwoOrders.form "a=0&a=1&b=2".toList).Perm
      (@formUrlencodedParse TwoOrders.form "a=1&b=2&a=0".toList) := by decide +kernel
  obtain ⟨prepared', hprepared', hrender⟩ :=
    (@canonicalRequest_injective TwoOrders.form TwoOrders.calendar TwoOrders.texts TwoOrders.crypto
      TwoOrders.standardText _ _ _ _ (hline _) (hline _) hprepared hprepared).2
      (TwoOrders.request "a=0&a=1&b=2").uri (Eq.refl TwoOrders.path) hperm
  have hsame := ((@canonicalRequest_injective TwoOrders.form TwoOrders.calendar TwoOrders.texts
    TwoOrders.crypto TwoOrders.standardText _ _ _ _ (hline _) (hline _) hprepared' hprepared).1
      hrender).1
  exact ⟨prepared, prepared', hprepared, hprepared', hrender, hsame⟩

end MediaHub.Http.Hmac
