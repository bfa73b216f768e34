import MediaHub.Http.ObjectSubresources

namespace MediaHub.Http

open Result

variable [FormDecoding]

def S3ObjectGetOperation.subresource : S3ObjectGetOperation → Option String
  | .plainRead => none
  | .tagging => some "tagging"
  | .versionLock lock => some lock.parameter
  | .acl => some "acl"
  | .listParts _ => some "uploadId"
  | .unsupportedSubresource name => some name

omit [FormDecoding] in
theorem mem_objectSubresources_iff {name : String} :
    name ∈ objectSubresources ↔ name = "tagging" ∨ name = "retention" ∨ name = "legal-hold" ∨
      name = "acl" ∨ name = "uploadId" ∨ name ∈ unsupportedNames := by
  simp only [objectSubresources, unsupportedNames, List.mem_cons, List.not_mem_nil, or_false]
  tauto

/-- What the parts of a classification say about the names in the query. -/
structure GetFlags (uri : Uri) (tagging : Bool)
    (versionLock : Option S3ObjectVersionLockOperation) (acl : Bool) (uploadId : Option Text)
    (unsupported : Option String) : Prop where
  tagging_iff : "tagging" ∈ uri.names ↔ tagging = true
  lock_iff : ∀ lock : S3ObjectVersionLockOperation,
    lock.parameter ∈ uri.names ↔ versionLock = some lock
  acl_iff : "acl" ∈ uri.names ↔ acl = true
  uploadId_iff : "uploadId" ∈ uri.names ↔ uploadId.isSome = true
  unsupported_iff : ∀ name ∈ unsupportedNames, name ∈ uri.names ↔ unsupported = some name

theorem classifyS3ObjectVersionLock_names {uri : Uri}
    {versionLock : Option S3ObjectVersionLockOperation}
    (h : classifyS3ObjectVersionLock uri = .ok versionLock)
    (lock : S3ObjectVersionLockOperation) :
    lock.parameter ∈ uri.names ↔ versionLock = some lock := by
  cases versionLock with
  | none =>
      obtain ⟨hretention, hlegalHold⟩ := classifyS3ObjectVersionLock_eq_none_iff.1 h
      refine iff_of_false ?_ (by simp)
      cases lock with
      | retention => exact hretention
      | legalHold => exact hlegalHold
  | some found =>
      obtain ⟨⟨hvalue, hother⟩, _⟩ := classifyS3ObjectVersionLock_eq_some_iff.1 h
      rw [Option.some.injEq]
      constructor
      · intro hname
        by_contra hne
        exact hother lock (Ne.symm hne) hname
      · rintro rfl
        exact Uri.mem_names_iff.2 (by simp [hvalue])

theorem s3QueryValue_names {uri : Uri} {name : String} {value : Option Text}
    (h : s3QueryValue uri name = .ok value) : name ∈ uri.names ↔ value.isSome = true := by
  cases value with
  | none => exact iff_of_false (s3QueryValue_eq_none_iff.1 h) (by simp)
  | some value =>
      refine iff_of_true ?_ rfl
      exact Uri.mem_names_iff.2 (by simp [s3QueryValue_eq_some_iff.1 h])

theorem GetFlags.namesOnly {uri : Uri} {tagging acl : Bool}
    {versionLock : Option S3ObjectVersionLockOperation} {uploadId : Option Text}
    {unsupported asked : Option String}
    (flags : GetFlags uri tagging versionLock acl uploadId unsupported)
    (htagging : tagging = true ↔ asked = some "tagging")
    (hlock : ∀ lock : S3ObjectVersionLockOperation,
      versionLock = some lock ↔ asked = some lock.parameter)
    (hacl : acl = true ↔ asked = some "acl")
    (huploadId : uploadId.isSome = true ↔ asked = some "uploadId")
    (hunsupported : ∀ name ∈ unsupportedNames, unsupported = some name ↔ asked = some name) :
    NamesOnly uri objectSubresources asked := by
  intro name hname
  rcases mem_objectSubresources_iff.1 hname with rfl | rfl | rfl | rfl | rfl | hother
  · exact flags.tagging_iff.trans htagging
  · exact (flags.lock_iff .retention).trans (hlock .retention)
  · exact (flags.lock_iff .legalHold).trans (hlock .legalHold)
  · exact flags.acl_iff.trans hacl
  · exact flags.uploadId_iff.trans huploadId
  · exact (flags.unsupported_iff name hother).trans (hunsupported name hother)

omit [FormDecoding] in
theorem parameter_inj {lock other : S3ObjectVersionLockOperation} :
    lock.parameter = other.parameter ↔ lock = other := by
  cases lock <;> cases other <;> decide

omit [FormDecoding] in
theorem ne_parameter {asked : String} (h : asked ≠ "retention" ∧ asked ≠ "legal-hold")
    (lock : S3ObjectVersionLockOperation) :
    (none : Option S3ObjectVersionLockOperation) = some lock ↔
      some asked = some lock.parameter := by
  refine iff_of_false (by simp) ?_
  cases lock with
  | retention => exact fun heq => h.1 (Option.some.inj heq)
  | legalHold => exact fun heq => h.2 (Option.some.inj heq)

omit [FormDecoding] in
theorem ne_unsupported {asked : String} (h : asked ∉ unsupportedNames) (name : String)
    (hname : name ∈ unsupportedNames) :
    (none : Option String) = some name ↔ some asked = some name := by
  refine iff_of_false (by simp) ?_
  intro heq
  rw [Option.some.inj heq] at h
  exact h hname

theorem classifyS3ObjectGet_namesOnly {uri : Uri} {operation : S3ObjectGetOperation}
    (h : classifyS3ObjectGet uri = .ok operation) :
    NamesOnly uri objectSubresources operation.subresource := by
  unfold classifyS3ObjectGet at h
  obtain ⟨tagging, htagging, h⟩ := bind_eq_ok_iff.1 h
  obtain ⟨versionLock, hlock, h⟩ := bind_eq_ok_iff.1 h
  obtain ⟨acl, hacl, h⟩ := bind_eq_ok_iff.1 h
  obtain ⟨uploadId, huploadId, h⟩ := bind_eq_ok_iff.1 h
  obtain ⟨unsupported, hunsupported, h⟩ := bind_eq_ok_iff.1 h
  obtain ⟨hcount, h⟩ := ite_throw_eq_ok_iff.1 h
  obtain ⟨hnames, _, horigin⟩ := foldlM_unsupportedStep (by decide) (by simp) hunsupported
  have flags : GetFlags uri tagging versionLock acl uploadId unsupported :=
    { tagging_iff := by simp [classifyS3ObjectTagging_eq_ok htagging]
      lock_iff := classifyS3ObjectVersionLock_names hlock
      acl_iff := by simp [s3QueryFlag_eq_ok hacl]
      uploadId_iff := s3QueryValue_names huploadId
      unsupported_iff := hnames }
  clear htagging hlock hacl huploadId hunsupported hnames
  -- at most one of the five flags is set
  rcases tagging <;> rcases versionLock with _ | lock <;> rcases acl <;>
    rcases uploadId with _ | uploadId <;> rcases unsupported with _ | other <;>
    first
    | (simp at hcount; done)
    | obtain rfl := pure_eq_ok_iff.1 h
  · refine flags.namesOnly ?_ ?_ ?_ ?_ ?_ <;> simp [S3ObjectGetOperation.subresource]
  · have hother : other ∈ unsupportedNames := by simpa using horigin other rfl
    have hne : ∀ asked ∉ unsupportedNames, some other ≠ some asked := by
      rintro asked hasked heq
      rw [Option.some.inj heq] at hother
      exact hasked hother
    refine flags.namesOnly ?_ ?_ ?_ ?_ ?_
    · exact iff_of_false (by simp) (hne _ (by decide))
    · intro lock
      refine iff_of_false (by simp) (hne _ ?_)
      cases lock <;> decide
    · exact iff_of_false (by simp) (hne _ (by decide))
    · exact iff_of_false (by simp) (hne _ (by decide))
    · intro name _
      exact Iff.rfl
  · exact flags.namesOnly (by simp [S3ObjectGetOperation.subresource]) (ne_parameter (by decide))
      (by simp [S3ObjectGetOperation.subresource]) (iff_of_true rfl rfl)
      (ne_unsupported (by decide))
  · exact flags.namesOnly (by decide) (ne_parameter (by decide))
      (iff_of_true rfl rfl) (by decide) (ne_unsupported (by decide))
  · refine flags.namesOnly ?_ ?_ ?_ ?_ ?_
    · cases lock <;> decide
    · intro other
      rw [Option.some.injEq, S3ObjectGetOperation.subresource, Option.some.injEq, parameter_inj]
    · cases lock <;> decide
    · cases lock <;> decide
    · refine ne_unsupported ?_
      cases lock <;> decide
  · exact flags.namesOnly (iff_of_true rfl rfl) (ne_parameter (by decide))
      (by decide) (by decide) (ne_unsupported (by decide))

/-- What a read runs is what its query names. -/
theorem s3GetObject_faithful {around : Surroundings} {method : ObjectMethod} {uri : Uri}
    {operation : ObjectOperation} (h : around.s3GetObject method uri = .ok operation) :
    operation.answers.1 = method ∧ NamesOnly uri objectSubresources operation.answers.2 := by
  unfold Surroundings.s3GetObject at h
  obtain ⟨read, hread, h⟩ := bind_eq_ok_iff.1 h
  have honly := classifyS3ObjectGet_namesOnly hread
  have hget : ∀ {error : S3ApiError} {asked : ObjectOperation},
      getOnly method error (around.versionHandler uri asked) = .ok operation →
        method = .get ∧ operation = asked := by
    intro error asked h
    obtain ⟨hmethod, h⟩ := ite_throw_eq_ok_iff.1 h
    obtain ⟨-, -, -, heq⟩ := Surroundings.versionHandler_eq_ok_iff.1 h
    exact ⟨not_not.1 hmethod, heq⟩
  cases read with
  | plainRead =>
      obtain ⟨versionId, _, h⟩ := bind_eq_ok_iff.1 h
      obtain ⟨_, h⟩ := andThen_eq_ok_iff.1 h
      obtain ⟨_, h⟩ := andThen_eq_ok_iff.1 h
      obtain ⟨_, h⟩ := andThen_eq_ok_iff.1 h
      obtain rfl := pure_eq_ok_iff.1 h
      exact ⟨rfl, honly⟩
  | tagging =>
      obtain ⟨_, h⟩ := andThen_eq_ok_iff.1 h
      obtain ⟨rfl, rfl⟩ := hget (andThen_eq_ok_iff.1 h).2
      exact ⟨rfl, honly⟩
  | versionLock lock =>
      obtain ⟨_, h⟩ := andThen_eq_ok_iff.1 h
      obtain ⟨rfl, rfl⟩ := hget (andThen_eq_ok_iff.1 h).2
      exact ⟨rfl, honly⟩
  | acl =>
      obtain ⟨_, h⟩ := andThen_eq_ok_iff.1 h
      obtain ⟨rfl, rfl⟩ := hget (andThen_eq_ok_iff.1 h).2
      exact ⟨rfl, honly⟩
  | listParts uploadId =>
      obtain ⟨_, h⟩ := andThen_eq_ok_iff.1 h
      obtain ⟨_, h⟩ := andThen_eq_ok_iff.1 h
      obtain ⟨_, h⟩ := andThen_eq_ok_iff.1 h
      obtain ⟨hmethod, h⟩ := ite_throw_eq_ok_iff.1 h
      obtain ⟨_, h⟩ := andThen_eq_ok_iff.1 h
      obtain ⟨_, h⟩ := andThen_eq_ok_iff.1 h
      obtain rfl := pure_eq_ok_iff.1 h
      exact ⟨(not_not.1 hmethod).symm, honly⟩
  | unsupportedSubresource name =>
      obtain ⟨_, h⟩ := andThen_eq_ok_iff.1 h
      obtain ⟨_, h⟩ := andThen_eq_ok_iff.1 h
      exact absurd h (by simp)

section Overlooks

variable (around : Surroundings) (uri : Uri)

/-- A DELETE whose query names a subresource that the handler does not look for. -/
def OverlooksDelete : Prop :=
  "tagging" ∉ uri.names ∧
    ((∃ uploadId, uri.values "uploadId" = [uploadId] ∧ around.uploads uploadId ∧
          around.Passes (.abortMultipartUpload uploadId)) ∧
        "versionId" ∉ uri.names ∧ NamesOther uri (some "uploadId") ∨
      "uploadId" ∉ uri.names ∧ (∃ versionId, parseS3VersionId uri = .ok versionId ∧
          around.Passes (.deleteObject versionId)) ∧ NamesOther uri none)

/-- A POST whose query names a subresource that the handler does not look for. -/
def OverlooksPost : Prop :=
  "versionId" ∉ uri.names ∧
    ((∃ value, uri.values "uploads" = [value]) ∧ around.Passes .createMultipartUpload ∧
        NamesOther uri (some "uploads") ∨
      "uploads" ∉ uri.names ∧ (∃ uploadId, uri.values "uploadId" = [uploadId] ∧
          around.uploads uploadId ∧ around.Passes (.completeMultipartUpload uploadId)) ∧
        NamesOther uri (some "uploadId"))

/-- A PUT whose query names a subresource that the handler does not look for. -/
def OverlooksPut (isCopy : Bool) : Prop :=
  "tagging" ∉ uri.names ∧
    ((∃ lock, SoleLock uri lock ∧ (∀ name ∈ lockForbidden, name ∉ uri.names) ∧
        ValidVersion uri ∧ around.Passes (.putVersionLock lock) ∧
        NamesOther uri (some lock.parameter)) ∨
      "retention" ∉ uri.names ∧ "legal-hold" ∉ uri.names ∧
        ((∃ value, uri.values "acl" = [value]) ∧ ValidVersion uri ∧ around.Passes .putAcl ∧
            NamesOther uri (some "acl") ∨
          "acl" ∉ uri.names ∧ "versionId" ∉ uri.names ∧
            ((∃ uploadId partNumber, uri.values "uploadId" = [uploadId] ∧
                around.uploads uploadId ∧
                (isCopy = false → Surroundings.validateS3MultipartUploadId uploadId = .ok ()) ∧
                Surroundings.ValidPartNumber uri partNumber ∧
                around.Passes (Surroundings.putPart isCopy uploadId partNumber)) ∧
                NamesOther uri (some "uploadId") ∨
              "uploadId" ∉ uri.names ∧ "partNumber" ∉ uri.names ∧
                around.Passes (Surroundings.putWhole isCopy) ∧ NamesOther uri none)))

def OverlooksObject (method : ObjectMethod) (headers : HeaderMap) : Prop :=
  match method with
  | .get | .head => False
  | .put => OverlooksPut around uri (headers.containsKey "x-amz-copy-source".toList)
  | .post => OverlooksPost around uri
  | .delete => OverlooksDelete around uri

/-- The request runs exactly what it names, or fails. -/
def ObjectFaithful (method : ObjectMethod) (headers : HeaderMap) : Prop :=
  ∀ operation, around.dispatchObject method uri headers = .ok operation →
    operation.answers.1 = method ∧ NamesOnly uri objectSubresources operation.answers.2

end Overlooks

theorem names_of_values {uri : Uri} {name : String} {value : Text}
    (h : uri.values name = [value]) : name ∈ uri.names :=
  Uri.mem_names_iff.2 (by simp [h])

/-- A tagging request names nothing else. -/
theorem namesOnly_tagging {uri : Uri} (h : classifyS3ObjectTagging uri = .ok true) :
    NamesOnly uri objectSubresources (some "tagging") := by
  obtain ⟨htagging, hall⟩ := classifyS3ObjectTagging_eq_true h
  rw [namesOnly_iff (by rintro name ⟨rfl⟩; exact htagging)]
  rintro ⟨name, hmem, hname, hne⟩
  obtain ⟨htransport, hversion⟩ := not_isTransportName hmem
  rcases hall name hname with rfl | rfl | h
  · exact hne rfl
  · exact hversion rfl
  · rw [htransport] at h
    exact nomatch h

theorem validVersion_length {uri : Uri} (h : ValidVersion uri) :
    (uri.values "versionId").length ≤ 1 := by
  rcases h with h | ⟨value, hvalue, _⟩
  · simp [Uri.notMem_names_iff.1 h]
  · simp [hvalue]

theorem classifyS3ObjectTagging_false {uri : Uri} (h : "tagging" ∉ uri.names)
    (hversion : ValidVersion uri) : classifyS3ObjectTagging uri = .ok false :=
  classifyS3ObjectTagging_eq_false_iff.2 ⟨h, validVersion_length hversion⟩

theorem deleteFaithful_iff {around : Surroundings} {uri : Uri} :
    (∀ operation, Surroundings.DeleteRuns around uri operation →
      operation.answers.1 = .delete ∧ NamesOnly uri objectSubresources operation.answers.2) ↔
      ¬ OverlooksDelete around uri := by
  constructor
  · rintro hfaithful ⟨htagging, ⟨⟨uploadId, hid, hfound, hpasses⟩, hversion, hother⟩ |
      ⟨hid, ⟨versionId, hparse, hpasses⟩, hother⟩⟩
    · have hruns := Surroundings.DeleteRuns.upload uploadId
        (classifyS3ObjectTagging_false htagging (.inl hversion)) hid hversion hfound hpasses
      refine (namesOnly_iff ?_).1 (hfaithful _ hruns).2 hother
      rintro name ⟨rfl⟩
      exact names_of_values hid
    · have hversion := parseS3VersionId_ok_iff.1 ⟨versionId, hparse⟩
      have hruns : Surroundings.DeleteRuns around uri (.deleteObject versionId) :=
        .object versionId (classifyS3ObjectTagging_false htagging hversion) hid hparse hpasses
      have honly : NamesOnly uri objectSubresources none := (hfaithful _ hruns).2
      exact (namesOnly_iff (by simp)).1 honly hother
  · intro hnot operation hruns
    cases hruns with
    | tagging htagging _ _ => exact ⟨rfl, namesOnly_tagging htagging⟩
    | upload uploadId htagging hid hversion hfound hpasses =>
        refine ⟨rfl, (namesOnly_iff ?_).2 ?_⟩
        · rintro name ⟨rfl⟩
          exact names_of_values hid
        · intro hother
          exact hnot ⟨(classifyS3ObjectTagging_eq_false_iff.1 htagging).1,
            .inl ⟨⟨uploadId, hid, hfound, hpasses⟩, hversion, hother⟩⟩
    | object versionId htagging hid hversion hpasses =>
        refine ⟨rfl, (namesOnly_iff (by rintro name ⟨⟩)).2 ?_⟩
        intro hother
        exact hnot ⟨(classifyS3ObjectTagging_eq_false_iff.1 htagging).1,
          .inr ⟨hid, ⟨versionId, hversion, hpasses⟩, hother⟩⟩

theorem postFaithful_iff {around : Surroundings} {uri : Uri} :
    (∀ operation, Surroundings.PostRuns around uri operation →
      operation.answers.1 = .post ∧ NamesOnly uri objectSubresources operation.answers.2) ↔
      ¬ OverlooksPost around uri := by
  constructor
  · rintro hfaithful ⟨hversion, ⟨huploads, hpasses, hother⟩ |
      ⟨huploads, ⟨uploadId, hid, hfound, hpasses⟩, hother⟩⟩
    · refine (namesOnly_iff ?_).1
        (hfaithful _ (Surroundings.PostRuns.create hversion huploads hpasses)).2 hother
      rintro name ⟨rfl⟩
      obtain ⟨value, hvalue⟩ := huploads
      exact names_of_values hvalue
    · have hruns := Surroundings.PostRuns.complete uploadId hversion huploads hid hfound hpasses
      refine (namesOnly_iff ?_).1 (hfaithful _ hruns).2 hother
      rintro name ⟨rfl⟩
      exact names_of_values hid
  · intro hnot operation hruns
    cases hruns with
    | create hversion huploads hpasses =>
        refine ⟨rfl, (namesOnly_iff ?_).2 ?_⟩
        · rintro name ⟨rfl⟩
          obtain ⟨value, hvalue⟩ := huploads
          exact names_of_values hvalue
        · intro hother
          exact hnot ⟨hversion, .inl ⟨huploads, hpasses, hother⟩⟩
    | complete uploadId hversion huploads hid hfound hpasses =>
        refine ⟨rfl, (namesOnly_iff ?_).2 ?_⟩
        · rintro name ⟨rfl⟩
          exact names_of_values hid
        · intro hother
          exact hnot ⟨hversion, .inr ⟨huploads, ⟨uploadId, hid, hfound, hpasses⟩, hother⟩⟩

omit [FormDecoding] in
theorem putPart_answers (isCopy : Bool) (uploadId : Text) (partNumber : Nat) :
    (Surroundings.putPart isCopy uploadId partNumber).answers = (.put, some "uploadId") := by
  cases isCopy <;> rfl

omit [FormDecoding] in
theorem putWhole_answers (isCopy : Bool) :
    (Surroundings.putWhole isCopy).answers = (.put, none) := by
  cases isCopy <;> rfl

theorem putFaithful_iff {around : Surroundings} {uri : Uri} {isCopy : Bool} :
    (∀ operation, Surroundings.PutRuns around uri isCopy operation →
      operation.answers.1 = .put ∧ NamesOnly uri objectSubresources operation.answers.2) ↔
      ¬ OverlooksPut around uri isCopy := by
  constructor
  · rintro hfaithful ⟨htagging, ⟨lock, hsole, hforbidden, hversion, hpasses, hother⟩ |
      ⟨hretention, hlegalHold, ⟨hacl, hversion, hpasses, hother⟩ | ⟨hacl, hversion,
        ⟨⟨uploadId, partNumber, hid, hfound, hvalid, hpart, hpasses⟩, hother⟩ |
        ⟨hid, hpart, hpasses, hother⟩⟩⟩⟩
    · have hruns : Surroundings.PutRuns around uri isCopy (.putVersionLock lock) := .lock lock
        (classifyS3ObjectTagging_false htagging hversion)
        (classifyS3ObjectVersionLock_eq_some_iff.2 ⟨hsole, hforbidden⟩) hversion hpasses
      refine (namesOnly_iff ?_).1 (hfaithful _ hruns).2 hother
      rintro name ⟨rfl⟩
      exact names_of_values hsole.1
    · have hruns : Surroundings.PutRuns around uri isCopy .putAcl := .acl
        (classifyS3ObjectTagging_false htagging hversion)
        (classifyS3ObjectVersionLock_eq_none_iff.2 ⟨hretention, hlegalHold⟩) hacl hversion hpasses
      refine (namesOnly_iff ?_).1 (hfaithful _ hruns).2 hother
      rintro name ⟨rfl⟩
      obtain ⟨value, hvalue⟩ := hacl
      exact names_of_values hvalue
    · have hruns := Surroundings.PutRuns.part uploadId partNumber
        (classifyS3ObjectTagging_false htagging (.inl hversion))
        (classifyS3ObjectVersionLock_eq_none_iff.2 ⟨hretention, hlegalHold⟩) hacl hid hpart hversion
        hfound hvalid hpasses
      have honly := (hfaithful _ hruns).2
      rw [putPart_answers] at honly
      refine (namesOnly_iff ?_).1 honly hother
      rintro name ⟨rfl⟩
      exact names_of_values hid
    · have hruns := Surroundings.PutRuns.object
        (classifyS3ObjectTagging_false htagging (.inl hversion))
        (classifyS3ObjectVersionLock_eq_none_iff.2 ⟨hretention, hlegalHold⟩) hacl hid hpart hversion
        hpasses
      have honly := (hfaithful _ hruns).2
      rw [putWhole_answers] at honly
      exact (namesOnly_iff (by simp)).1 honly hother
  · intro hnot operation hruns
    cases hruns with
    | tagging htagging _ _ => exact ⟨rfl, namesOnly_tagging htagging⟩
    | lock lock htagging hlock hversion hpasses =>
        obtain ⟨hsole, hforbidden⟩ := classifyS3ObjectVersionLock_eq_some_iff.1 hlock
        refine ⟨rfl, (namesOnly_iff ?_).2 ?_⟩
        · rintro name ⟨rfl⟩
          exact names_of_values hsole.1
        · intro hother
          exact hnot ⟨(classifyS3ObjectTagging_eq_false_iff.1 htagging).1,
            .inl ⟨lock, hsole, hforbidden, hversion, hpasses, hother⟩⟩
    | acl htagging hlock hacl hversion hpasses =>
        obtain ⟨hretention, hlegalHold⟩ := classifyS3ObjectVersionLock_eq_none_iff.1 hlock
        refine ⟨rfl, (namesOnly_iff ?_).2 ?_⟩
        · rintro name ⟨rfl⟩
          obtain ⟨value, hvalue⟩ := hacl
          exact names_of_values hvalue
        · intro hother
          exact hnot ⟨(classifyS3ObjectTagging_eq_false_iff.1 htagging).1,
            .inr ⟨hretention, hlegalHold, .inl ⟨hacl, hversion, hpasses, hother⟩⟩⟩
    | part uploadId partNumber htagging hlock hacl hid hpart hversion hfound hvalid hpasses =>
        obtain ⟨hretention, hlegalHold⟩ := classifyS3ObjectVersionLock_eq_none_iff.1 hlock
        rw [putPart_answers]
        refine ⟨rfl, (namesOnly_iff ?_).2 ?_⟩
        · rintro name ⟨rfl⟩
          exact names_of_values hid
        · intro hother
          exact hnot ⟨(classifyS3ObjectTagging_eq_false_iff.1 htagging).1, .inr ⟨hretention,
            hlegalHold, .inr ⟨hacl, hversion, .inl
              ⟨⟨uploadId, partNumber, hid, hfound, hvalid, hpart, hpasses⟩, hother⟩⟩⟩⟩
    | object htagging hlock hacl hid hpart hversion hpasses =>
        obtain ⟨hretention, hlegalHold⟩ := classifyS3ObjectVersionLock_eq_none_iff.1 hlock
        rw [putWhole_answers]
        refine ⟨rfl, (namesOnly_iff (by simp)).2 ?_⟩
        intro hother
        exact hnot ⟨(classifyS3ObjectTagging_eq_false_iff.1 htagging).1, .inr ⟨hretention,
          hlegalHold, .inr ⟨hacl, hversion, .inr ⟨hid, hpart, hpasses, hother⟩⟩⟩⟩

/-- A request on an object runs what it names, or fails, exactly where nothing is overlooked. -/
theorem objectFaithful_iff_not_overlooks (around : Surroundings) (method : ObjectMethod)
    (uri : Uri) (headers : HeaderMap) :
    ObjectFaithful around uri method headers ↔ ¬ OverlooksObject around uri method headers := by
  unfold ObjectFaithful
  cases method with
  | get | head => exact iff_of_true (fun _ h => s3GetObject_faithful h) id
  | put =>
      rw [OverlooksObject, ← putFaithful_iff]
      exact forall_congr' fun _ =>
        imp_congr_left ⟨Surroundings.putRuns_of_eq_ok, Surroundings.PutRuns.eq_ok⟩
  | post =>
      rw [OverlooksObject, ← postFaithful_iff]
      exact forall_congr' fun _ =>
        imp_congr_left ⟨Surroundings.postRuns_of_eq_ok, Surroundings.PostRuns.eq_ok⟩
  | delete =>
      rw [OverlooksObject, ← deleteFaithful_iff]
      exact forall_congr' fun _ =>
        imp_congr_left ⟨Surroundings.deleteRuns_of_eq_ok, Surroundings.DeleteRuns.eq_ok⟩

end MediaHub.Http
