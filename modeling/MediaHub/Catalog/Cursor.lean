import MediaHub.Core.Basic
import MediaHub.Json.Parser
import MediaHub.Store.Listing
import MediaHub.Text.Base64
import MediaHub.Text.Digits
import MediaHub.Text.Utf8

namespace MediaHub.Catalog

open MediaHub.Core
open Json (Text Value Number)
open Text (takeDigits ofDigits exists_digits takeDigits_append noDigit_nil)

inductive ApiError where
  | badRequest (message : String)
  | notFound (message : String)
  | repository (error : Store.RepositoryError)

def badCursor : ApiError := .badRequest "cursor is invalid"

/-- UUIDs as texts: 36 lower-case digits and hyphens, and what is read back. -/
class MediaIdText where
  toText : MediaId → Text
  fromStr : Text → Option MediaId
  fromStr_toText : ∀ id < 2 ^ 128, fromStr (toText id) = some id
  length_toText : ∀ id < 2 ^ 128, (toText id).length = 36
  digits_toText : ∀ id < 2 ^ 128, ∀ c ∈ toText id, c ∈ "0123456789abcdef-".toList

/-- `unix_timestamp`: whole seconds, rounded towards the past. -/
def unixTimestamp (t : Time) : Int := t / Time.nanosPerSecond

def fromUnixTimestamp (seconds : Int) : Option Time :=
  if Time.inRange (Time.seconds seconds) then some (Time.seconds seconds) else none

/-- The fields of a struct of two, by name or in their order; other fields are refused. -/
def pairOf (first second : Text) : Value → Option (Value × Value)
  | .object [(name, value), (name', value')] =>
      if name = first ∧ name' = second then some (value, value')
      else if name = second ∧ name' = first then some (value', value)
      else none
  | .array [value, value'] => some (value, value')
  | _ => none

def ofI64 (n : Int) : Number := if 0 ≤ n then .unsigned n.toNat else .negative (-n).toNat

def asI64 : Value → Option Int
  | .number (.unsigned n) => if n < 2 ^ 63 then some n else none
  | .number (.negative n) => some (-n)
  | _ => none

def asBool : Value → Option Bool
  | .bool value => some value
  | _ => none

section Tokens

variable [Base64Engine] [Json.Parser]

/-- `URL_SAFE_NO_PAD.encode(serde_json::to_vec(..))` -/
def encodeToken (token : Value) : Text :=
  Base64Engine.encode (Utf8.bytes (Json.render token))

/-- `serde_json::from_slice(URL_SAFE_NO_PAD.decode(..))`, for a text of limited length. -/
def decodeToken (maxLen : Nat) (value : Text) : Option Value :=
  if value.isEmpty || maxLen < Utf8.byteLength value then none
  else do
    let bytes ← Base64Engine.decode value
    let text ← Utf8.ofBytes bytes
    Json.Parser.parse 128 text

omit [Json.Parser] in
theorem length_encodeToken (token : Value) :
    3 * (encodeToken token).length ≤ 4 * Utf8.byteLength (Json.render token) + 2 := by
  have h := Base64Engine.three_mul_length_encode_le (Utf8.bytes (Json.render token))
  rwa [Utf8.length_bytes] at h

/-- A token that was encoded is read back, unless its text is too long. -/
theorem decodeToken_cases (maxLen : Nat) {token : Value} (hplain : token.Plain)
    (hnesting : token.nesting < 128) :
    decodeToken maxLen (encodeToken token) = some token ∨
      decodeToken maxLen (encodeToken token) = none := by
  rw [decodeToken]
  split
  · exact Or.inr rfl
  · simp only [encodeToken, Base64Engine.decode_encode, Utf8.ofBytes_bytes, Option.bind_eq_bind,
      Option.bind_some, Json.Parser.parse_render hplain hnesting, true_or]

theorem decodeToken_encodeToken {maxLen : Nat} {token : Value} (hplain : token.Plain)
    (hnesting : token.nesting < 128) (hne : Json.render token ≠ [])
    (hlength : 4 * Utf8.byteLength (Json.render token) + 2 < 3 * (maxLen + 1)) :
    decodeToken maxLen (encodeToken token) = some token := by
  have hencoded : encodeToken token ≠ [] := by
    refine Base64Engine.encode_ne_nil fun hnil => hne ?_
    have hbytes := Utf8.ofBytes_bytes (Json.render token)
    rw [hnil] at hbytes
    exact (Option.some.inj (hbytes.symm.trans (Utf8.ofBytes_bytes [])))
  have hsize : Utf8.byteLength (encodeToken token) = (encodeToken token).length :=
    Utf8.byteLength_eq_length fun c hc => Base64.utf8Size_encode hc
  have hbound := length_encodeToken token
  rw [decodeToken, if_neg]
  · simp only [encodeToken, Base64Engine.decode_encode, Utf8.ofBytes_bytes, Option.bind_eq_bind,
      Option.bind_some, Json.Parser.parse_render hplain hnesting]
  · simp only [List.isEmpty_iff, hencoded, decide_eq_true_eq, Bool.or_eq_true, false_or, hsize]
    omega

end Tokens

structure MediaListCursor where
  createdAt : Time
  id : MediaId

structure MediaDirectoryListCursor where
  entryKey : String
  isPrefix : Bool

def mediaCursorToken [MediaIdText] (cursor : MediaListCursor) : Value :=
  .object [("created_at".toList, .number (ofI64 (unixTimestamp cursor.createdAt))),
    ("id".toList, .string (MediaIdText.toText cursor.id))]

def encodeMediaCursor [Base64Engine] [MediaIdText] (cursor : MediaListCursor) : Text :=
  encodeToken (mediaCursorToken cursor)

def decodeMediaCursor [Base64Engine] [Json.Parser] [MediaIdText] (value : Text) :
    Except ApiError MediaListCursor :=
  let cursor := do
    let token ← decodeToken 1024 value
    let (createdAt, id) ← pairOf "created_at".toList "id".toList token
    let seconds ← asI64 createdAt
    let id ← id.asStr
    let createdAt ← fromUnixTimestamp seconds
    let id ← MediaIdText.fromStr id
    some (⟨createdAt, id⟩ : MediaListCursor)
  match cursor with
  | some cursor => .ok cursor
  | none => .error badCursor

def mediaDirectoryCursorToken (cursor : MediaDirectoryListCursor) : Value :=
  .object [("entry_key".toList, .string cursor.entryKey.toList),
    ("is_prefix".toList, .bool cursor.isPrefix)]

def encodeMediaDirectoryCursor [Base64Engine] (cursor : MediaDirectoryListCursor) : Text :=
  encodeToken (mediaDirectoryCursorToken cursor)

def decodeMediaDirectoryCursor [Base64Engine] [Json.Parser] (value : Text) :
    Except ApiError MediaDirectoryListCursor :=
  let cursor := do
    let token ← decodeToken 4096 value
    let (entryKey, isPrefix) ← pairOf "entry_key".toList "is_prefix".toList token
    let entryKey ← entryKey.asStr
    let isPrefix ← asBool isPrefix
    some (⟨String.ofList entryKey, isPrefix⟩ : MediaDirectoryListCursor)
  match cursor with
  | some cursor =>
      if cursor.entryKey = "" ∨ 1024 < Utf8.byteLength cursor.entryKey.toList ∨
          hasAsciiControl cursor.entryKey then .error badCursor
      else .ok cursor
  | none => .error badCursor

theorem utf8Size_of_isDigit {c : Char} (h : c.isDigit) : c.utf8Size = 1 := by
  rw [Char.utf8Size_eq_one_iff]
  rw [Char.isDigit, Bool.and_eq_true, decide_eq_true_eq, decide_eq_true_eq] at h
  exact UInt32.le_trans h.2 (by decide)

theorem byteLength_renderNumber_ofI64 {n : Int} {k : Nat} (hk : 0 < k) (hlow : -(10 ^ k : Nat) < n)
    (hhigh : n < (10 ^ k : Nat)) : Utf8.byteLength (Json.renderNumber (ofI64 n)) ≤ k + 1 := by
  have hdigits : ∀ m : Nat, m < 10 ^ k → Utf8.byteLength (Nat.toDigits 10 m) ≤ k := by
    intro m hm
    rw [Utf8.byteLength_eq_length fun c hc => utf8Size_of_isDigit
      (Nat.isDigit_of_mem_toDigits (by decide) (by decide) hc)]
    exact (Nat.length_toDigits_le_iff (by decide) hk).2 hm
  rw [ofI64]
  split
  · exact Nat.le_succ_of_le (hdigits n.toNat (by omega))
  · have hminus := hdigits (-n).toNat (by omega)
    rw [Json.renderNumber, Utf8.byteLength_cons]
    have hone : ('-' : Char).utf8Size = 1 := by decide
    omega

theorem asI64_ofI64 {n : Int} (hlow : -(2 ^ 63 : Nat) ≤ n) (hhigh : n < (2 ^ 63 : Nat)) :
    asI64 (.number (ofI64 n)) = some n := by
  rw [ofI64]
  split
  · next hpos =>
      show (if n.toNat < 2 ^ 63 then some (n.toNat : Int) else none) = some n
      rw [if_pos (by omega), Int.toNat_of_nonneg hpos]
  · next hneg =>
      show some (-((-n).toNat : Int)) = some n
      rw [Int.toNat_of_nonneg (by omega), Int.neg_neg]

theorem plain_ofI64 {n : Int} (hlow : -(2 ^ 63 : Nat) ≤ n) (hhigh : n < (2 ^ 63 : Nat)) :
    (ofI64 n).Plain := by
  rw [ofI64]
  split
  · show n.toNat < 2 ^ 64
    omega
  · show 0 < (-n).toNat ∧ (-n).toNat ≤ 2 ^ 63
    omega

/-- Only quotes and backslashes grow, and to no more than twice their size. -/
theorem byteLength_flatMap_escape {s : Text} (h : ∀ c ∈ s, 32 ≤ c.toNat) :
    Utf8.byteLength (s.flatMap Json.escape) ≤ 2 * Utf8.byteLength s := by
  induction s with
  | nil => simp
  | cons c s ih =>
      have htail := ih fun d hd => h d (List.mem_cons_of_mem _ hd)
      have hhead : Utf8.byteLength (Json.escape c) ≤ 2 * c.utf8Size := by
        have hc := h c List.mem_cons_self
        have hpos := c.utf8Size_pos
        have hlow : ∀ d : Char, d.toNat < 32 → c ≠ d := by
          rintro d hd rfl
          omega
        rw [Json.escape]
        split
        · next hquote => subst hquote; decide
        · split
          · next hbackslash => subst hbackslash; decide
          · rw [if_neg (hlow _ (by decide)), if_neg (hlow _ (by decide)),
              if_neg (hlow _ (by decide)), if_neg (hlow _ (by decide)),
              if_neg (hlow _ (by decide)), if_neg (by omega)]
            rw [Utf8.byteLength_cons, Utf8.byteLength_nil]
            omega
      rw [List.flatMap_cons, Utf8.byteLength_append, Utf8.byteLength_cons]
      omega

theorem utf8Size_punctuation :
    '\x7b'.utf8Size = 1 ∧ '\x7d'.utf8Size = 1 ∧ ','.utf8Size = 1 ∧ ':'.utf8Size = 1 := by
  decide

theorem byteLength_renderString (s : Text) :
    Utf8.byteLength (Json.renderString s) = Utf8.byteLength (s.flatMap Json.escape) + 2 := by
  have hquote : ('"' : Char).utf8Size = 1 := by decide
  simp only [Json.renderString, Utf8.byteLength_cons, Utf8.byteLength_append, Utf8.byteLength_nil,
    hquote]
  omega

theorem unixTimestamp_bounds {t : Time} (h : Time.inRange t = true) :
    -377705116800 ≤ unixTimestamp t ∧ unixTimestamp t < 253402300800 := by
  rw [Time.inRange, Bool.and_eq_true, decide_eq_true_eq, decide_eq_true_eq] at h
  have hlow : (-377705116800 * 1000000000 : Int) ≤ t := h.1
  have hhigh : @LT.lt Int _ t (253402300800 * 1000000000) := h.2
  rw [unixTimestamp, Time.nanosPerSecond]
  omega

theorem fromUnixTimestamp_unixTimestamp {t : Time} (h : Time.inRange t = true) :
    fromUnixTimestamp (unixTimestamp t) = some (Time.seconds (unixTimestamp t)) := by
  have hbounds := unixTimestamp_bounds h
  rw [fromUnixTimestamp, if_pos]
  rw [Time.inRange, Bool.and_eq_true, decide_eq_true_eq, decide_eq_true_eq]
  have hlow : (-377705116800 * 1000000000 : Int) ≤ unixTimestamp t * 1000000000 := by omega
  have hhigh : unixTimestamp t * 1000000000 < (253402300800 * 1000000000 : Int) := by omega
  exact ⟨hlow, hhigh⟩

section Media

variable [MediaIdText]

theorem byteLength_render_mediaCursorToken {cursor : MediaListCursor}
    (hid : cursor.id < 2 ^ 128) (hrange : Time.inRange cursor.createdAt = true) :
    Utf8.byteLength (Json.render (mediaCursorToken cursor)) ≤ 700 := by
  have hbounds := unixTimestamp_bounds hrange
  have hnumber : Utf8.byteLength (Json.renderNumber (ofI64 (unixTimestamp cursor.createdAt))) ≤
      13 := byteLength_renderNumber_ofI64 (by decide) (by omega) (by omega)
  have hdigits := MediaIdText.digits_toText cursor.id hid
  have hone : ∀ c ∈ "0123456789abcdef-".toList, c.utf8Size = 1 ∧ 32 ≤ c.toNat := by
    have hall : "0123456789abcdef-".toList.all
        (fun c => c.utf8Size = 1 && 32 ≤ c.toNat) = true := by
      decide +kernel
    intro c hc
    simpa using List.all_eq_true.1 hall c hc
  have hlength : Utf8.byteLength (MediaIdText.toText cursor.id) = 36 := by
    rw [Utf8.byteLength_eq_length fun c hc => (hone c (hdigits c hc)).1]
    exact MediaIdText.length_toText cursor.id hid
  have hescape := byteLength_flatMap_escape fun c hc => (hone c (hdigits c hc)).2
  have hname : Utf8.byteLength (Json.renderString "created_at".toList) = 12 := by decide +kernel
  have hname' : Utf8.byteLength (Json.renderString "id".toList) = 4 := by decide +kernel
  simp only [mediaCursorToken, Json.render, Json.renderFields, Json.renderMembers,
    Utf8.byteLength_cons, Utf8.byteLength_append, Utf8.byteLength_nil, hname, hname',
    utf8Size_punctuation, byteLength_renderString]
  omega

/-- The cursor of a media comes back with its time cut off to the second. -/
theorem decodeMediaCursor_encodeMediaCursor [Base64Engine] [Json.Parser] {cursor : MediaListCursor}
    (hid : cursor.id < 2 ^ 128) (hrange : Time.inRange cursor.createdAt = true) :
    decodeMediaCursor (encodeMediaCursor cursor) =
      .ok ⟨Time.seconds (unixTimestamp cursor.createdAt), cursor.id⟩ := by
  have hbounds := unixTimestamp_bounds hrange
  have hlength := byteLength_render_mediaCursorToken hid hrange
  have hplain : (mediaCursorToken cursor).Plain := by
    refine .object fun field hfield => ?_
    rcases List.mem_cons.1 hfield with rfl | hfield
    · exact .number (plain_ofI64 (by omega) (by omega))
    · rw [List.mem_singleton.1 hfield]
      exact .string _
  have hnesting : (mediaCursorToken cursor).nesting < 128 := by
    simp [mediaCursorToken, Value.nesting, Value.fieldsNesting]
  have htoken : decodeToken 1024 (encodeMediaCursor cursor) = some (mediaCursorToken cursor) :=
    decodeToken_encodeToken hplain hnesting (by simp [mediaCursorToken, Json.render]) (by omega)
  have hpair : pairOf "created_at".toList "id".toList (mediaCursorToken cursor) =
      some (.number (ofI64 (unixTimestamp cursor.createdAt)),
        .string (MediaIdText.toText cursor.id)) := by
    rw [mediaCursorToken, pairOf, if_pos ⟨rfl, rfl⟩]
  simp only [decodeMediaCursor, htoken, hpair, Option.bind_eq_bind, Option.bind_some,
    asI64_ofI64 (n := unixTimestamp cursor.createdAt) (by omega) (by omega), Value.asStr,
    fromUnixTimestamp_unixTimestamp hrange, MediaIdText.fromStr_toText cursor.id hid]

end Media

theorem byteLength_render_mediaDirectoryCursorToken {cursor : MediaDirectoryListCursor}
    (hclean : hasAsciiControl cursor.entryKey = false) :
    Utf8.byteLength (Json.render (mediaDirectoryCursorToken cursor)) ≤
      2 * Utf8.byteLength cursor.entryKey.toList + 40 := by
  have hescape : Utf8.byteLength (cursor.entryKey.toList.flatMap Json.escape) ≤
      2 * Utf8.byteLength cursor.entryKey.toList := by
    refine byteLength_flatMap_escape fun c hc => ?_
    have hcontrol := List.any_eq_false.1 hclean c hc
    simp only [Text.isAsciiControl, Bool.or_eq_true, decide_eq_true_eq, not_or] at hcontrol
    omega
  have hname : Utf8.byteLength (Json.renderString "entry_key".toList) = 11 := by decide +kernel
  have hname' : Utf8.byteLength (Json.renderString "is_prefix".toList) = 11 := by decide +kernel
  have htrue : Utf8.byteLength "true".toList = 4 := by decide +kernel
  have hfalse : Utf8.byteLength "false".toList = 5 := by decide +kernel
  obtain ⟨entryKey, isPrefix⟩ := cursor
  cases isPrefix with
  | true =>
      simp only [mediaDirectoryCursorToken, Json.render, Json.renderFields, Json.renderMembers,
        Utf8.byteLength_cons, Utf8.byteLength_append, Utf8.byteLength_nil, hname, hname', htrue,
        utf8Size_punctuation, byteLength_renderString] at hescape ⊢
      omega
  | false =>
      simp only [mediaDirectoryCursorToken, Json.render, Json.renderFields, Json.renderMembers,
        Utf8.byteLength_cons, Utf8.byteLength_append, Utf8.byteLength_nil, hname, hname', hfalse,
        utf8Size_punctuation, byteLength_renderString] at hescape ⊢
      omega

theorem plain_mediaDirectoryCursorToken (cursor : MediaDirectoryListCursor) :
    (mediaDirectoryCursorToken cursor).Plain := by
  refine .object fun field hfield => ?_
  rcases List.mem_cons.1 hfield with rfl | hfield
  · exact .string _
  · rw [List.mem_singleton.1 hfield]
    exact .bool _

theorem pairOf_mediaDirectoryCursorToken (cursor : MediaDirectoryListCursor) :
    pairOf "entry_key".toList "is_prefix".toList (mediaDirectoryCursorToken cursor) =
      some (.string cursor.entryKey.toList, .bool cursor.isPrefix) := by
  rw [mediaDirectoryCursorToken, pairOf, if_pos ⟨rfl, rfl⟩]

/-- The cursor of a directory comes back as it was, if its key has no control character. -/
theorem decodeMediaDirectoryCursor_encode [Base64Engine] [Json.Parser]
    {cursor : MediaDirectoryListCursor} (hne : cursor.entryKey ≠ "")
    (hlength : Utf8.byteLength cursor.entryKey.toList ≤ 1024)
    (hclean : hasAsciiControl cursor.entryKey = false) :
    decodeMediaDirectoryCursor (encodeMediaDirectoryCursor cursor) = .ok cursor := by
  have hbound := byteLength_render_mediaDirectoryCursorToken hclean
  have hnesting : (mediaDirectoryCursorToken cursor).nesting < 128 := by
    simp [mediaDirectoryCursorToken, Value.nesting, Value.fieldsNesting]
  have htoken : decodeToken 4096 (encodeMediaDirectoryCursor cursor) =
      some (mediaDirectoryCursorToken cursor) :=
    decodeToken_encodeToken (plain_mediaDirectoryCursorToken cursor) hnesting
      (by simp [mediaDirectoryCursorToken, Json.render]) (by omega)
  simp only [decodeMediaDirectoryCursor, htoken, pairOf_mediaDirectoryCursorToken,
    Option.bind_eq_bind, Option.bind_some, Value.asStr, asBool, String.ofList_toList]
  rw [if_neg]
  simp [hne, hclean, Nat.not_lt.2 hlength]

theorem decodeMediaDirectoryCursor_refused [Base64Engine] [Json.Parser]
    {cursor : MediaDirectoryListCursor} (hcontrol : hasAsciiControl cursor.entryKey = true) :
    decodeMediaDirectoryCursor (encodeMediaDirectoryCursor cursor) = .error badCursor := by
  have hnesting : (mediaDirectoryCursorToken cursor).nesting < 128 := by
    simp [mediaDirectoryCursorToken, Value.nesting, Value.fieldsNesting]
  have htoken : decodeToken 4096 (encodeMediaDirectoryCursor cursor) =
      some (mediaDirectoryCursorToken cursor) ∨
        decodeToken 4096 (encodeMediaDirectoryCursor cursor) = none :=
    decodeToken_cases 4096 (plain_mediaDirectoryCursorToken cursor) hnesting
  rw [decodeMediaDirectoryCursor]
  rcases htoken with htoken | htoken
  · simp only [htoken, pairOf_mediaDirectoryCursorToken, Option.bind_eq_bind, Option.bind_some,
      Value.asStr, asBool, String.ofList_toList]
    rw [if_pos (Or.inr (Or.inr hcontrol))]
  · simp only [htoken, Option.bind_eq_bind, Option.bind_none]

/-- The 32 digits of a UUID. -/
def simpleText (id : MediaId) : List Char :=
  List.replicate (32 - (Nat.toDigits 16 id).length) '0' ++ Nat.toDigits 16 id

/-- Hyphens after 8, 12, 16 and 20 digits. -/
def hyphenate (digits : List Char) : List Char :=
  digits.take 8 ++ '-' :: ((digits.drop 8).take 4 ++ '-' :: ((digits.drop 12).take 4 ++
    '-' :: ((digits.drop 16).take 4 ++ '-' :: digits.drop 20)))

def readSimple (digits : List Char) : Option MediaId :=
  match takeDigits 16 digits with
  | (found, []) => some (ofDigits 16 found)
  | _ => none

/-- Only the form that is written is read. -/
def readHyphenated (value : List Char) : Option MediaId :=
  let digits := value.filter (· ≠ '-')
  if hyphenate digits = value then readSimple digits else none

/-- The digits of a UUID, as numbers. -/
theorem exists_simpleText (id : MediaId) :
    ∃ digits : List Nat, simpleText id = digits.map Nat.digitChar ∧
      (∀ digit ∈ digits, digit < 16) ∧ ofDigits 16 digits = id := by
  obtain ⟨digits, hdigits, hbound, hvalue⟩ := exists_digits (by decide : 1 < 16) id
  refine ⟨List.replicate (32 - (Nat.toDigits 16 id).length) 0 ++ digits, ?_, ?_, ?_⟩
  · rw [simpleText, hdigits, List.map_append, List.map_replicate]
    rfl
  · intro digit hdigit
    rcases List.mem_append.1 hdigit with hzero | hmem
    · rw [List.eq_of_mem_replicate hzero]
      decide
    · exact hbound digit hmem
  · rw [← hvalue]
    generalize 32 - (Nat.toDigits 16 (ofDigits 16 digits)).length = zeros
    induction zeros with
    | zero => rfl
    | succ zeros ih => exact ih

theorem readSimple_simpleText (id : MediaId) : readSimple (simpleText id) = some id := by
  obtain ⟨digits, hdigits, hbound, hvalue⟩ := exists_simpleText id
  have htake := takeDigits_append (Nat.le_refl 16) hbound (noDigit_nil 16)
  rw [List.append_nil] at htake
  rw [readSimple, hdigits, htake]
  exact congrArg some hvalue

theorem length_simpleText {id : MediaId} (h : id < 2 ^ 128) : (simpleText id).length = 32 := by
  have hlength : (Nat.toDigits 16 id).length ≤ 32 :=
    (Nat.length_toDigits_le_iff (by decide) (by decide)).2 (lt_of_lt_of_eq h (by decide))
  rw [simpleText, List.length_append, List.length_replicate]
  omega

theorem mem_simpleText {id : MediaId} {c : Char} (h : c ∈ simpleText id) :
    c ∈ "0123456789abcdef".toList := by
  obtain ⟨digits, hdigits, hbound, -⟩ := exists_simpleText id
  rw [hdigits] at h
  obtain ⟨digit, hdigit, rfl⟩ := List.mem_map.1 h
  have hall : ∀ digit < 16, digit.digitChar ∈ "0123456789abcdef".toList := by decide
  exact hall digit (hbound digit hdigit)

theorem hyphenate_parts (digits : List Char) : digits.take 8 ++ ((digits.drop 8).take 4 ++
    ((digits.drop 12).take 4 ++ ((digits.drop 16).take 4 ++ digits.drop 20))) = digits := by
  have hlast : (digits.drop 16).take 4 ++ digits.drop 20 = digits.drop 16 := by
    rw [← List.drop_drop (i := 4) (j := 16), List.take_append_drop]
  have hthird : (digits.drop 12).take 4 ++ digits.drop 16 = digits.drop 12 := by
    rw [← List.drop_drop (i := 4) (j := 12), List.take_append_drop]
  have hsecond : (digits.drop 8).take 4 ++ digits.drop 12 = digits.drop 8 := by
    rw [← List.drop_drop (i := 4) (j := 8), List.take_append_drop]
  rw [hlast, hthird, hsecond, List.take_append_drop]

theorem filter_hyphenate {digits : List Char} (h : ∀ c ∈ digits, c ≠ '-') :
    (hyphenate digits).filter (· ≠ '-') = digits := by
  have hkeep : ∀ part : List Char, (∀ c ∈ part, c ∈ digits) → part.filter (· ≠ '-') = part := by
    intro part hpart
    rw [List.filter_eq_self]
    intro c hc
    exact decide_eq_true (h c (hpart c hc))
  rw [hyphenate]
  simp only [List.filter_append, List.filter_cons, ne_eq, not_true_eq_false, decide_false,
    Bool.false_eq_true, if_false]
  rw [hkeep _ fun c => List.mem_of_mem_take,
    hkeep _ fun c hc => List.mem_of_mem_drop (List.mem_of_mem_take hc),
    hkeep _ fun c hc => List.mem_of_mem_drop (List.mem_of_mem_take hc),
    hkeep _ fun c hc => List.mem_of_mem_drop (List.mem_of_mem_take hc),
    hkeep _ fun c => List.mem_of_mem_drop, hyphenate_parts]

/-- `hyphenated()` and what `parse_str` makes of it. -/
@[reducible] def hyphenatedIds : MediaIdText where
  toText id := hyphenate (simpleText id)
  fromStr := readHyphenated
  fromStr_toText id _ := by
    have hplain : ∀ c ∈ simpleText id, c ≠ '-' := by
      rintro c hc rfl
      exact absurd (mem_simpleText hc) (by decide)
    rw [readHyphenated, filter_hyphenate hplain, if_pos rfl, readSimple_simpleText]
  length_toText id h := by
    simp only [hyphenate, List.length_append, List.length_cons, List.length_take,
      List.length_drop, length_simpleText h]
    decide
  digits_toText id _ c hc := by
    have hdigit : c ∈ simpleText id → c ∈ "0123456789abcdef-".toList := by
      intro hmem
      have hall : "0123456789abcdef".toList ⊆ "0123456789abcdef-".toList := by decide
      exact hall (mem_simpleText hmem)
    simp only [hyphenate, List.mem_append, List.mem_cons] at hc
    rcases hc with hc | rfl | hc | rfl | hc | rfl | hc | rfl | hc
    · exact hdigit (List.mem_of_mem_take hc)
    · decide
    · exact hdigit (List.mem_of_mem_drop (List.mem_of_mem_take hc))
    · decide
    · exact hdigit (List.mem_of_mem_drop (List.mem_of_mem_take hc))
    · decide
    · exact hdigit (List.mem_of_mem_drop (List.mem_of_mem_take hc))
    · decide
    · exact hdigit (List.mem_of_mem_drop hc)

end MediaHub.Catalog
