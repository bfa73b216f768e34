import MediaHub.Catalog.Cursor
import MediaHub.Domain.Metadata
import MediaHub.Text.PercentEncoding

namespace MediaHub.Http

open Result
open MediaHub.Core
open MediaHub.Domain
open Text (isAsciiControl)

/-- An object as content URLs name it, with what the validators accept. -/
@[ext]
structure ContentObject where
  application : Nat
  bucket : Text
  key : Text
  bucket_valid : validateBucketName bucket = .ok ()
  key_valid : validateObjectKey key = .ok ()

/-- `app_` and the digits of the application's identifier. -/
def appId (application : Nat) : Text := "app_".toList ++ Catalog.simpleText application

/-- Characters that a URL drops from its input. -/
def isTabOrNewline (c : Char) : Bool := c = '\t' || c = '\n' || c = '\r'

def isDotSegment (segment : Text) : Bool := segment = ['.'] || segment = ['.', '.']

section

variable (push : Text → Text → Text) (decode : Text → Option Text)

/-- `path_segments_mut`, cleared and extended. -/
def objectContentPath (appId bucket key : Text) : Text :=
  (key.splitOn '/').foldl push (push (push ['/'] appId) bucket)

def decodedPathSegments (path : Text) : Option (List Text) :=
  ((path.drop 1).splitOn '/').mapM decode

/-- The application, the bucket and the key that a path names. -/
def readContentPath (path : Text) : Option (Text × Text × Text) := do
  match ← decodedPathSegments decode path with
  | appId :: bucket :: segment :: segments =>
      return (appId, bucket, ['/'].intercalate (segment :: segments))
  | _ => none

def ContentObject.path (self : ContentObject) : Text :=
  objectContentPath push (appId self.application) self.bucket self.key

/-- The path leads back to the object. -/
def ContentObject.Identified (self : ContentObject) : Prop :=
  readContentPath decode (self.path push) =
    some (appId self.application, self.bucket, self.key)

def NoTabOrNewline (path : Text) : Prop :=
  ∀ segments, decodedPathSegments decode path = some segments →
    ∀ segment ∈ segments, segment.any isTabOrNewline = false

/-- What the crates say about pushing segments and decoding them. -/
structure PathSegments : Prop where
  decode_nil : decode [] = some []
  push_dot : ∀ path segment, isDotSegment segment = true → push path segment = path
  push_plain : ∀ path segment, segment.any isTabOrNewline = false → isDotSegment segment = false →
    ∃ encoded, '/' ∉ encoded ∧ decode encoded = some segment ∧
      push path segment = (if path = ['/'] then path else path ++ ['/']) ++ encoded
  push_drops : ∀ path segment, NoTabOrNewline decode path →
    NoTabOrNewline decode (push path segment)

end

/-- The segments that a URL keeps. -/
def keptSegments (segments : List Text) : List Text :=
  segments.filter fun segment => !isDotSegment segment

/-- No segment is skipped and no character is dropped. -/
def ContentObject.Kept (self : ContentObject) : Prop :=
  isDotSegment self.bucket = false ∧ (∀ segment ∈ self.key.splitOn '/',
    isDotSegment segment = false) ∧ self.key.any isTabOrNewline = false

instance (self : ContentObject) : Decidable self.Kept :=
  inferInstanceAs (Decidable (_ ∧ _ ∧ _))

section Push

variable {push : Text → Text → Text} {decode : Text → Option Text}
variable (laws : PathSegments push decode)

include laws

/-- A path that says so many segments. -/
structure Says (decode : Text → Option Text) (path : Text) (segments : List Text) : Prop where
  absolute : ∃ c rest, path = '/' :: c :: rest
  decoded : decodedPathSegments decode path = some segments

theorem says_push_root {segment : Text} (hne : segment ≠ [])
    (hplain : segment.any isTabOrNewline = false) (hdot : isDotSegment segment = false) :
    Says decode (push ['/'] segment) [segment] := by
  obtain ⟨encoded, hslash, hdecode, hpush⟩ := laws.push_plain ['/'] segment hplain hdot
  rw [if_pos rfl, List.singleton_append] at hpush
  cases encoded with
  | nil =>
      rw [laws.decode_nil, Option.some.injEq] at hdecode
      exact absurd hdecode.symm hne
  | cons c encoded =>
      refine ⟨⟨c, encoded, hpush⟩, ?_⟩
      rw [hpush, decodedPathSegments, List.drop_one, List.tail_cons,
        List.splitOn_eq_singleton hslash]
      simp [hdecode]

theorem says_push {path segment : Text} {segments : List Text} (h : Says decode path segments)
    (hplain : segment.any isTabOrNewline = false) :
    Says decode (push path segment) (segments ++ keptSegments [segment]) := by
  by_cases hdot : isDotSegment segment = true
  · rw [laws.push_dot path segment hdot, keptSegments, List.filter_singleton, hdot]
    simpa using h
  · rw [Bool.not_eq_true] at hdot
    obtain ⟨⟨c, rest, rfl⟩, hdecoded⟩ := h
    obtain ⟨encoded, hslash, hdecode, hpush⟩ :=
      laws.push_plain ('/' :: c :: rest) segment hplain hdot
    rw [if_neg (by simp), List.append_assoc, List.singleton_append] at hpush
    refine ⟨⟨c, rest ++ '/' :: encoded, hpush⟩, ?_⟩
    rw [decodedPathSegments, List.drop_one, List.tail_cons] at hdecoded
    rw [hpush, decodedPathSegments, List.drop_one, List.cons_append, List.tail_cons,
      List.splitOn_append_cons_self, List.splitOn_eq_singleton hslash, List.mapM_append, hdecoded]
    simp [hdecode, keptSegments, hdot]

theorem says_foldl {path : Text} {segments pushed : List Text} (h : Says decode path segments)
    (hplain : ∀ segment ∈ pushed, segment.any isTabOrNewline = false) :
    Says decode (pushed.foldl push path) (segments ++ keptSegments pushed) := by
  induction pushed generalizing path segments with
  | nil => simpa [keptSegments] using h
  | cons segment pushed ih =>
      obtain ⟨hsegment, hpushed⟩ := List.forall_mem_cons.1 hplain
      have hstep := ih (says_push laws h hsegment) hpushed
      have hkept : keptSegments (segment :: pushed) =
          keptSegments [segment] ++ keptSegments pushed := by
        rw [keptSegments, keptSegments, keptSegments, ← List.filter_append]
        rfl
      rw [List.foldl_cons, hkept, ← List.append_assoc]
      exact hstep

theorem noTabOrNewline_foldl {path : Text} (h : NoTabOrNewline decode path) (pushed : List Text) :
    NoTabOrNewline decode (pushed.foldl push path) := by
  induction pushed generalizing path with
  | nil => exact h
  | cons segment pushed ih => exact ih (laws.push_drops path segment h)

end Push

theorem isAsciiControl_of_isTabOrNewline {c : Char} (h : isTabOrNewline c = true) :
    isAsciiControl c = true := by
  simp only [isTabOrNewline, Bool.or_eq_true, decide_eq_true_eq] at h
  rcases h with (rfl | rfl) | rfl <;> decide

theorem not_mem_of_isTabOrNewline {c : Char} (h : isTabOrNewline c = true) :
    c ∉ "app_".toList ++ "0123456789abcdef".toList := by
  simp only [isTabOrNewline, Bool.or_eq_true, decide_eq_true_eq] at h
  rcases h with (rfl | rfl) | rfl <;> decide

theorem appId_plain (application : Nat) : (appId application).any isTabOrNewline = false := by
  rw [List.any_eq_false]
  intro c hmem hc
  refine not_mem_of_isTabOrNewline hc ?_
  rcases List.mem_append.1 hmem with hname | hdigit
  · exact List.mem_append_left _ hname
  · exact List.mem_append_right _ (Catalog.mem_simpleText hdigit)

theorem isDotSegment_appId (application : Nat) : isDotSegment (appId application) = false := by
  simp [isDotSegment, appId]

theorem appId_inj {application application' : Nat} (h : appId application = appId application') :
    application = application' := by
  have hread := Catalog.readSimple_simpleText application
  rw [List.append_cancel_left h, Catalog.readSimple_simpleText] at hread
  exact (Option.some.inj hread).symm

namespace ContentObject

variable (self : ContentObject)

theorem bucket_plain : self.bucket.any isTabOrNewline = false := by
  have hvalid := self.bucket_valid
  simp only [validateBucketName, rejectIf_eq_ok_iff, not_or, Bool.not_eq_true] at hvalid
  rw [List.any_eq_false]
  intro c hmem hc
  exact List.any_eq_false.1 hvalid.2.2 c hmem (isAsciiControl_of_isTabOrNewline hc)

/-- A segment of the key has no characters of its own. -/
theorem segments_plain (h : self.key.any isTabOrNewline = false) :
    ∀ segment ∈ self.key.splitOn '/', segment.any isTabOrNewline = false := by
  intro segment hsegment
  rw [List.any_eq_false] at h ⊢
  intro c hc
  refine h c ?_
  rw [← @List.intercalate_splitOn _ self.key _ _ '/']
  exact Text.mem_intercalate_of_mem hsegment hc

section

variable {push : Text → Text → Text} {decode : Text → Option Text}
variable (laws : PathSegments push decode)

include laws

theorem says_bucket : Says decode (push (push ['/'] (appId self.application)) self.bucket)
    ([appId self.application] ++ keptSegments [self.bucket]) := by
  refine says_push laws (says_push_root laws ?_ (appId_plain _) (isDotSegment_appId _))
    self.bucket_plain
  simp [appId]

/-- Without characters that are dropped, a path says the segments that are not dots. -/
theorem says_path (h : self.key.any isTabOrNewline = false) :
    decodedPathSegments decode (self.path push) = some
      (appId self.application :: keptSegments (self.bucket :: self.key.splitOn '/')) := by
  have hsays := (says_foldl laws (self.says_bucket laws) (self.segments_plain h)).decoded
  rw [List.append_assoc, List.singleton_append, keptSegments, keptSegments,
    ← List.filter_append] at hsays
  exact hsays

theorem identified_of_kept (h : self.Kept) : self.Identified push decode := by
  obtain ⟨hbucket, hsegments, hplain⟩ := h
  have hkept : keptSegments (self.bucket :: self.key.splitOn '/') =
      self.bucket :: self.key.splitOn '/' := by
    rw [keptSegments, List.filter_eq_self]
    intro segment hsegment
    rcases List.mem_cons.1 hsegment with rfl | hmem
    · rw [hbucket, Bool.not_false]
    · rw [hsegments segment hmem, Bool.not_false]
  obtain ⟨segment, segments, heq⟩ :=
    List.exists_cons_of_ne_nil (List.splitOn_ne_nil '/' self.key)
  have hjoin := @List.intercalate_splitOn _ self.key _ _ '/'
  rw [heq] at hjoin
  rw [Identified, readContentPath, self.says_path laws hplain, hkept, heq, ← hjoin]
  rfl

omit laws in
/-- What an identified object is read from. -/
theorem segments_of_identified (h : self.Identified push decode) :
    ∃ segment segments, decodedPathSegments decode (self.path push) =
        some (appId self.application :: self.bucket :: segment :: segments) ∧
      ['/'].intercalate (segment :: segments) = self.key := by
  rw [Identified, readContentPath, Option.bind_eq_bind, Option.bind_eq_some_iff] at h
  obtain ⟨decoded, hdecoded, hread⟩ := h
  split at hread
  · next app bucket segment segments =>
      simp only [Option.pure_def, Option.some.injEq, Prod.mk.injEq] at hread
      obtain ⟨rfl, rfl, hkey⟩ := hread
      exact ⟨segment, segments, hdecoded, hkey⟩
  · exact absurd hread (by simp)

theorem key_plain_of_identified (h : self.Identified push decode) :
    self.key.any isTabOrNewline = false := by
  obtain ⟨segment, segments, hdecoded, hkey⟩ := self.segments_of_identified h
  have hbucket : NoTabOrNewline decode
      (push (push ['/'] (appId self.application)) self.bucket) := by
    intro said hsaid s hs
    rw [(self.says_bucket laws).decoded, Option.some.injEq] at hsaid
    subst hsaid
    rcases List.mem_append.1 hs with happ | hkept
    · rw [List.mem_singleton.1 happ]
      exact appId_plain _
    · rw [List.mem_singleton.1 (List.mem_filter.1 hkept).1]
      exact self.bucket_plain
  have hplain := noTabOrNewline_foldl laws hbucket (self.key.splitOn '/') _ hdecoded
  rw [← hkey, List.any_eq_false]
  intro c hmem hc
  rcases Text.mem_intercalate hmem with rfl | ⟨piece, hpiece, hc'⟩
  · exact absurd hc (by decide)
  · have hnone := hplain piece (List.mem_cons_of_mem _ (List.mem_cons_of_mem _ hpiece))
    exact List.any_eq_false.1 hnone c hc' hc

theorem kept_of_identified (h : self.Identified push decode) : self.Kept := by
  obtain ⟨segment, segments, hdecoded, hkey⟩ := self.segments_of_identified h
  have hplain := self.key_plain_of_identified laws h
  rw [self.says_path laws hplain, Option.some.injEq, List.cons.injEq] at hdecoded
  have hdot : ∀ s ∈ self.bucket :: segment :: segments, isDotSegment s = false := by
    intro s hs
    rw [← hdecoded.2] at hs
    simpa using (List.mem_filter.1 hs).2
  obtain ⟨hbucket, hsegments⟩ := List.forall_mem_cons.1 hdot
  have hfilter : keptSegments (self.key.splitOn '/') = segment :: segments := by
    have heq := hdecoded.2
    rw [keptSegments, List.filter_cons_of_pos (by simp [hbucket]), List.cons.injEq] at heq
    exact heq.2
  have hslash : ∀ s ∈ segment :: segments, '/' ∉ s := by
    intro s hs
    rw [← hfilter] at hs
    exact Text.notMem_of_mem_splitOn (List.mem_filter.1 hs).1
  -- The kept segments join to the key, so they are all of its segments.
  have hsplit : self.key.splitOn '/' = segment :: segments := by
    rw [← hkey, List.splitOn_intercalate '/' hslash (List.cons_ne_nil _ _)]
  exact ⟨hbucket, hsplit ▸ hsegments, hplain⟩

theorem identified_iff_kept : self.Identified push decode ↔ self.Kept :=
  ⟨self.kept_of_identified laws, self.identified_of_kept laws⟩

end

/-- Objects that are identified are told apart. -/
theorem eq_of_path_eq {push : Text → Text → Text} {decode : Text → Option Text}
    {object object' : ContentObject} (h : object.Identified push decode)
    (h' : object'.Identified push decode) (hpath : object.path push = object'.path push) :
    object = object' := by
  rw [Identified, hpath, h'] at h
  simp only [Option.some.injEq, Prod.mk.injEq] at h
  exact ContentObject.ext (appId_inj h.1.symm) h.2.1.symm h.2.2.symm

end ContentObject

/-- The bytes that a segment of an HTTP URL keeps. -/
def isPathSegmentByte (byte : UInt8) : Bool :=
  32 < byte && byte < 127 && !" \"#<>`?\x7b\x7d/%\\".toList.contains (Char.ofNat byte.toNat)

def pushSegment (path segment : Text) : Text :=
  if isDotSegment segment then path
  else (if path = ['/'] then path else path ++ ['/']) ++
    PercentEncoding.encode isPathSegmentByte (segment.filter fun c => !isTabOrNewline c)

theorem isPathSegmentByte_readable (byte : UInt8) (h : isPathSegmentByte byte = true) :
    byte < 128 ∧ byte ≠ 37 ∧ Char.ofNat byte.toNat ≠ '/' := by
  revert byte
  apply FormUrlencoded.forall_byte
  decide +kernel

theorem decode_encode_segment (s : Text) :
    PercentEncoding.decode (PercentEncoding.encode isPathSegmentByte s) = some s :=
  PercentEncoding.decode_encode (fun byte h =>
    ⟨(isPathSegmentByte_readable byte h).1, (isPathSegmentByte_readable byte h).2.1⟩) s

theorem slash_not_mem_encode (s : Text) : '/' ∉ PercentEncoding.encode isPathSegmentByte s :=
  PercentEncoding.not_mem_encode (fun byte h => (isPathSegmentByte_readable byte h).2.2)
    (by decide) (by decide) s

/-- What is said after a segment was appended. -/
theorem decodedPathSegments_append {decode : Text → Option Text} {path encoded s : Text}
    (hslash : '/' ∉ encoded) (hdecode : decode encoded = some s) :
    decodedPathSegments decode
        ((if path = ['/'] then path else path ++ ['/']) ++ encoded) =
      if path = ['/'] ∨ path = [] then some [s]
      else (decodedPathSegments decode path).map (· ++ [s]) := by
  split
  · next hroot =>
      subst hroot
      simp [decodedPathSegments, List.splitOn_eq_singleton hslash, hdecode]
  · next hroot =>
      cases path with
      | nil => simp [decodedPathSegments, List.splitOn_eq_singleton hslash, hdecode]
      | cons c rest =>
          rw [if_neg (by simp [hroot]), List.append_assoc, List.singleton_append,
            decodedPathSegments, decodedPathSegments, List.drop_one, List.drop_one,
            List.cons_append, List.tail_cons, List.tail_cons, List.splitOn_append_cons_self,
            List.splitOn_eq_singleton hslash, List.mapM_append]
          cases (rest.splitOn '/').mapM decode <;> simp [hdecode]

theorem pathSegments_pushSegment : PathSegments pushSegment PercentEncoding.decode where
  decode_nil := by decide +kernel
  push_dot := by
    intro path segment hdot
    rw [pushSegment, if_pos hdot]
  push_plain := by
    intro path segment hplain hdot
    have hfilter : segment.filter (fun c => !isTabOrNewline c) = segment := by
      rw [List.filter_eq_self]
      intro c hc
      simpa using List.any_eq_false.1 hplain c hc
    refine ⟨PercentEncoding.encode isPathSegmentByte segment, slash_not_mem_encode segment,
      decode_encode_segment segment, ?_⟩
    rw [pushSegment, if_neg (by simp [hdot]), hfilter]
  push_drops := by
    intro path segment h said hsaid s hs
    rw [pushSegment] at hsaid
    split at hsaid
    · exact h said hsaid s hs
    · have hlast : (segment.filter fun c => !isTabOrNewline c).any isTabOrNewline = false := by
        simp [List.any_filter]
      rw [decodedPathSegments_append (slash_not_mem_encode _) (decode_encode_segment _)] at hsaid
      split at hsaid
      · obtain rfl := Option.some.inj hsaid
        rw [List.mem_singleton.1 hs]
        exact hlast
      · obtain ⟨initial, hinitial, rfl⟩ := Option.map_eq_some_iff.1 hsaid
        rcases List.mem_append.1 hs with hmem | hmem
        · exact h initial hinitial s hmem
        · rw [List.mem_singleton.1 hmem]
          exact hlast

/-- A content URL leads back to its object, and to no other such object, exactly if the URL keeps
all of the object's segments and characters. -/
theorem contentPath_iff {push : Text → Text → Text} {decode : Text → Option Text}
    (laws : PathSegments push decode) :
    (∀ object : ContentObject, object.Identified push decode ↔ object.Kept) ∧
      ∀ object object' : ContentObject, object.Kept → object'.Kept →
        object.path push = object'.path push → object = object' := by
  refine ⟨fun object => object.identified_iff_kept laws, ?_⟩
  intro object object' hkept hkept' hpath
  exact ContentObject.eq_of_path_eq (object.identified_of_kept laws hkept)
    (object'.identified_of_kept laws hkept') hpath

def nestedObject (key : String) (h : validateObjectKey key.toList = .ok ()) : ContentObject :=
  ⟨7, "media assets".toList, key.toList, by decide, h⟩

theorem contentPath_iff_nested :
    PathSegments pushSegment PercentEncoding.decode ∧
      (nestedObject "nested/图片 1.png" (by decide)).Identified pushSegment
        PercentEncoding.decode := by
  refine ⟨pathSegments_pushSegment, ?_⟩
  exact ((contentPath_iff pathSegments_pushSegment).1 _).2 (by decide)

/-- Two objects share a URL, which leads to one of them. -/
theorem not_identified :
    PathSegments pushSegment PercentEncoding.decode ∧
      ¬ (nestedObject "a/./b" (by decide)).Identified pushSegment PercentEncoding.decode ∧
      (nestedObject "a/./b" (by decide)).path pushSegment =
        (nestedObject "a/b" (by decide)).path pushSegment := by
  refine ⟨pathSegments_pushSegment, ?_, by decide +kernel⟩
  rw [ContentObject.identified_iff_kept _ pathSegments_pushSegment]
  decide

end MediaHub.Http
