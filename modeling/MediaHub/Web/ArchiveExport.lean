import Mathlib.Data.List.Nodup
import MediaHub.Web.ArchivePath

/-!
The paths that `normalizeArchiveEntryPath` yields, and what becomes of them in a scan and in an
export. A drive that hides behind a `.` segment passes the first check and fails the second.
-/

namespace MediaHub.Web.Archive

open Result

def segments (path : JsString) : List JsString := if path = [] then [] else path.splitOn slash

def IsGoodSegment (segment : JsString) : Prop :=
  segment ≠ [] ∧ segment ≠ [dot] ∧ segment ≠ [dot, dot]

def isDrive : JsString → Bool
  | [letter, second] => isLetter letter && second = colon
  | _ => false

theorem isLetter_slash : isLetter slash = false := by
  decide

theorem slash_ne_colon : slash ≠ colon := by
  decide

theorem intercalate_segments (path : JsString) : [slash].intercalate (segments path) = path := by
  unfold segments
  split
  · next hnil =>
      rw [hnil]
      rfl
  · exact List.intercalate_splitOn slash

theorem segments_intercalate {pieces : List JsString} (hslash : ∀ piece ∈ pieces, slash ∉ piece)
    (hgood : ∀ piece ∈ pieces, piece ≠ []) : segments ([slash].intercalate pieces) = pieces := by
  unfold segments
  split
  · next hnil =>
      cases pieces with
      | nil => rfl
      | cons piece pieces =>
          have hpiece : piece ≠ [] := hgood piece List.mem_cons_self
          obtain ⟨c, rest, rfl⟩ := List.exists_cons_of_ne_nil hpiece
          have hmem : c ∈ [slash].intercalate ((c :: rest) :: pieces) :=
            Text.mem_intercalate_of_mem List.mem_cons_self List.mem_cons_self
          rw [hnil] at hmem
          exact absurd hmem List.not_mem_nil
  · next hne =>
      have hpieces : pieces ≠ [] := by
        rintro rfl
        exact hne rfl
      exact List.splitOn_intercalate slash hslash hpieces

/-- The pattern of an absolute Windows path looks at the first segment only. -/
theorem startsWithDrive_eq (path : JsString) :
    startsWithDrive path = (path.splitOn slash).head?.any isDrive := by
  cases path with
  | nil => rfl
  | cons a path =>
      by_cases ha : a = slash
      · subst ha
        rw [Text.splitOn_cons_self]
        cases path with
        | nil => rfl
        | cons b path => simp [startsWithDrive, isLetter_slash, isDrive]
      · rw [Text.splitOn_cons_of_ne ha]
        cases path with
        | nil => rfl
        | cons b path =>
            by_cases hb : b = slash
            · subst hb
              rw [Text.splitOn_cons_self]
              simp [startsWithDrive, slash_ne_colon, isDrive]
            · rw [Text.splitOn_cons_of_ne hb]
              cases path with
              | nil => simp [startsWithDrive, isDrive]
              | cons c path =>
                  by_cases hc : c = slash
                  · subst hc
                    rw [Text.splitOn_cons_self]
                    simp [startsWithDrive, isDrive]
                  · rw [Text.splitOn_cons_of_ne hc]
                    obtain ⟨head, pieces, heq⟩ :=
                      List.exists_cons_of_ne_nil (List.splitOn_ne_nil slash path)
                    rw [heq]
                    simp [startsWithDrive, isDrive, hc]

theorem startsWithDrive_eq_segments (path : JsString) :
    startsWithDrive path = (segments path).head?.any isDrive := by
  unfold segments
  split
  · next hnil =>
      rw [hnil]
      rfl
  · exact startsWithDrive_eq path

theorem head?_ne_slash {path : JsString} (h : ∀ segment ∈ segments path, segment ≠ []) :
    path.head? ≠ some slash := by
  intro hhead
  obtain ⟨rest, rfl⟩ : ∃ rest, path = slash :: rest := by
    cases path with
    | nil => exact nomatch hhead
    | cons c rest => exact ⟨rest, by rw [Option.some.inj hhead]⟩
  apply h []
  · rw [segments, if_neg (List.cons_ne_nil _ _), Text.splitOn_cons_self]
    exact List.mem_cons_self
  · rfl

/-- A path as `normalizeArchiveEntryPath` joins it; its first segment may be a drive. -/
structure IsNormal (path : JsString) : Prop where
  noBackslash : backslash ∉ path
  noControl : path.any isControl = false
  good : ∀ segment ∈ segments path, IsGoodSegment segment
  length_le : path.length ≤ previewMaxPathLength

/-- A path that stays below the directory it is extracted to; its control characters are C0 and DEL,
as the scan tests for them. -/
structure IsSafe (path : JsString) : Prop where
  noBackslash : backslash ∉ path
  noControl : path.any isControl = false
  good : ∀ segment ∈ segments path, IsGoodSegment segment
  notRooted : path.head? ≠ some slash
  noDrive : startsWithDrive path = false

theorem isSafe_iff {path : JsString} (h : IsNormal path) :
    IsSafe path ↔ startsWithDrive path = false := by
  constructor
  · intro hsafe
    exact hsafe.noDrive
  · intro hdrive
    have hroot := head?_ne_slash fun segment hmem => (h.good segment hmem).1
    exact ⟨h.noBackslash, h.noControl, h.good, hroot, hdrive⟩

theorem mem_keptSegments {path segment : JsString} :
    segment ∈ keptSegments path ↔
      segment ∈ path.splitOn slash ∧ segment ≠ [] ∧ segment ≠ [dot] := by
  simp [keptSegments]

theorem normalize_eq_ok_iff {path result : JsString} :
    normalizeArchiveEntryPath path = .ok result ↔
      path.length ≤ previewMaxPathLength ∧ path.any isControl = false ∧
      (replaceBackslashes path).head? ≠ some slash ∧
      startsWithDrive (replaceBackslashes path) = false ∧
      (∀ segment ∈ keptSegments (replaceBackslashes path), segment ≠ [dot, dot]) ∧
      ([slash].intercalate (keptSegments (replaceBackslashes path))).length ≤ previewMaxPathLength ∧
      [slash].intercalate (keptSegments (replaceBackslashes path)) = result := by
  unfold normalizeArchiveEntryPath
  simp only [andThen_eq_ok_iff, rejectIf_eq_ok_iff, pure_eq_ok_iff, not_lt, not_or,
    Bool.not_eq_true, List.any_eq_false, decide_eq_true_eq, and_assoc, ne_eq]

theorem replaceBackslashes_eq_self {path : JsString} (h : backslash ∉ path) :
    replaceBackslashes path = path := by
  unfold replaceBackslashes
  have hid : path.map (fun c => if c = backslash then slash else c) = path.map id := by
    apply List.map_congr_left
    intro c hc
    have hne : c ≠ backslash := by
      rintro rfl
      exact h hc
    exact if_neg hne
  rw [hid, List.map_id]

theorem backslash_notMem_replaceBackslashes (path : JsString) :
    backslash ∉ replaceBackslashes path := by
  unfold replaceBackslashes
  intro h
  obtain ⟨c, _, hc⟩ := List.mem_map.1 h
  split at hc
  · exact absurd hc (by decide)
  · next hne => exact hne hc

theorem replaceBackslashes_any_isControl {path : JsString} (h : path.any isControl = false) :
    (replaceBackslashes path).any isControl = false := by
  rw [List.any_eq_false] at h ⊢
  intro c hc
  obtain ⟨d, hd, rfl⟩ := List.mem_map.1 hc
  split
  · decide
  · exact h d hd

theorem mem_of_mem_splitOn {path piece : JsString} (h : piece ∈ path.splitOn slash) {c : UInt16}
    (hc : c ∈ piece) : c ∈ path := by
  have hmem : c ∈ [slash].intercalate (path.splitOn slash) := Text.mem_intercalate_of_mem h hc
  rwa [List.intercalate_splitOn slash] at hmem

theorem segments_of_normalize {path result : JsString}
    (h : normalizeArchiveEntryPath path = .ok result) :
    segments result = keptSegments (replaceBackslashes path) := by
  obtain ⟨_, _, _, _, _, _, rfl⟩ := normalize_eq_ok_iff.1 h
  apply segments_intercalate
  · intro piece hpiece
    exact Text.notMem_of_mem_splitOn (mem_keptSegments.1 hpiece).1
  · intro piece hpiece
    exact (mem_keptSegments.1 hpiece).2.1

theorem isNormal_of_normalize {path result : JsString}
    (h : normalizeArchiveEntryPath path = .ok result) : IsNormal result := by
  have hsegments := segments_of_normalize h
  obtain ⟨_, hcontrol, _, _, hdots, hlength, rfl⟩ := normalize_eq_ok_iff.1 h
  have hmem : ∀ c ∈ [slash].intercalate (keptSegments (replaceBackslashes path)),
      c = slash ∨ c ∈ replaceBackslashes path := by
    intro c hc
    rcases Text.mem_intercalate hc with hslash | ⟨piece, hpiece, hc⟩
    · exact Or.inl hslash
    · exact Or.inr (mem_of_mem_splitOn (mem_keptSegments.1 hpiece).1 hc)
  constructor
  · intro hback
    rcases hmem backslash hback with hslash | hback
    · exact absurd hslash (by decide)
    · exact backslash_notMem_replaceBackslashes path hback
  · rw [List.any_eq_false]
    intro c hc
    rcases hmem c hc with rfl | hc
    · decide
    · exact List.any_eq_false.1 (replaceBackslashes_any_isControl hcontrol) c hc
  · intro segment hsegment
    rw [hsegments] at hsegment
    obtain ⟨_, hne, hdot⟩ := mem_keptSegments.1 hsegment
    exact ⟨hne, hdot, hdots segment hsegment⟩
  · exact hlength

theorem keptSegments_of_isNormal {path : JsString} (h : IsNormal path) :
    keptSegments path = segments path := by
  unfold keptSegments segments
  split
  · next hnil =>
      rw [hnil]
      rfl
  · next hne =>
      rw [List.filter_eq_self]
      intro segment hsegment
      have hgood := h.good segment (by rwa [segments, if_neg hne])
      simp [hgood.1, hgood.2.1]

theorem normalize_of_isNormal {path : JsString} (h : IsNormal path)
    (hdrive : startsWithDrive path = false) : normalizeArchiveEntryPath path = .ok path := by
  have hjoin : [slash].intercalate (keptSegments path) = path := by
    rw [keptSegments_of_isNormal h, intercalate_segments]
  rw [normalize_eq_ok_iff, replaceBackslashes_eq_self h.noBackslash, hjoin]
  refine ⟨h.length_le, h.noControl, ?_, hdrive, ?_, h.length_le, rfl⟩
  · exact head?_ne_slash fun segment hmem => (h.good segment hmem).1
  · intro segment hsegment
    rw [keptSegments_of_isNormal h] at hsegment
    exact (h.good segment hsegment).2.2

/-- What begins with a drive is no path that can be exported. -/
theorem normalize_of_drive {path : JsString} (h : IsNormal path)
    (hdrive : startsWithDrive path = true) :
    normalizeArchiveEntryPath path = .error .unsafePath := by
  unfold normalizeArchiveEntryPath
  rw [replaceBackslashes_eq_self h.noBackslash]
  have hlength : rejectIf (previewMaxPathLength < path.length) PolicyErrorCode.pathLengthLimit =
      .ok () := rejectIf_eq_ok_iff.2 (not_lt.2 h.length_le)
  have hcontrol : rejectIf (path.any isControl = true) PolicyErrorCode.unsafePath = .ok () := by
    rw [rejectIf_eq_ok_iff, h.noControl]
    exact Bool.false_ne_true
  have hreject : rejectIf (path.head? = some slash ∨ startsWithDrive path = true)
      PolicyErrorCode.unsafePath = .error .unsafePath := if_pos (Or.inr hdrive)
  rw [hlength, hcontrol, ok_bind, ok_bind]
  exact (congrArg (· >>= _) hreject).trans (error_bind _ _)

/-- The first segment that is kept of a path is a drive. -/
def hidesDrive (path : JsString) : Bool :=
  (keptSegments (replaceBackslashes path)).head?.any isDrive

theorem startsWithDrive_of_normalize {path result : JsString}
    (h : normalizeArchiveEntryPath path = .ok result) :
    startsWithDrive result = hidesDrive path := by
  rw [startsWithDrive_eq_segments, segments_of_normalize h, hidesDrive]

theorem normalize_stable_iff {path : JsString} (h : IsNormal path) :
    normalizeArchiveEntryPath path = .ok path ↔ startsWithDrive path = false := by
  constructor
  · intro hok
    by_contra hdrive
    rw [normalize_of_drive h (Bool.not_eq_false _ ▸ hdrive)] at hok
    exact nomatch hok
  · exact normalize_of_isNormal h

theorem safe_and_stable_iff {path result : JsString}
    (h : normalizeArchiveEntryPath path = .ok result) :
    (IsSafe result ∧ normalizeArchiveEntryPath result = .ok result) ↔ hidesDrive path = false := by
  have hnormal := isNormal_of_normalize h
  rw [isSafe_iff hnormal, normalize_stable_iff hnormal, and_self, startsWithDrive_of_normalize h]

/-- What holds of the entries that a scan has accepted. -/
structure IsListing (entries : List ArchiveEntrySummary) : Prop where
  nodup : (entries.map ArchiveEntrySummary.path).Nodup
  normal : ∀ entry ∈ entries, IsNormal entry.path
  ne_nil : ∀ entry ∈ entries, entry.path ≠ []
  size_le : ∀ entry ∈ entries, entry.size ≤ previewMaxEntryBytes

theorem isListing_nil : IsListing [] := by
  constructor
  · exact List.nodup_nil
  · exact fun _ h => absurd h List.not_mem_nil
  · exact fun _ h => absurd h List.not_mem_nil
  · exact fun _ h => absurd h List.not_mem_nil

theorem isListing_append_singleton {entries : List ArchiveEntrySummary}
    {entry : ArchiveEntrySummary} (h : IsListing entries)
    (hnew : entry.path ∉ entries.map ArchiveEntrySummary.path) (hnormal : IsNormal entry.path)
    (hne : entry.path ≠ []) (hsize : entry.size ≤ previewMaxEntryBytes) :
    IsListing (entries ++ [entry]) := by
  constructor
  · rw [List.map_append, List.map_singleton, List.nodup_append]
    refine ⟨h.nodup, List.pairwise_singleton _ _, ?_⟩
    intro path hpath other hother heq
    rw [List.mem_singleton.1 hother] at heq
    exact hnew (heq ▸ hpath)
  · intro other hother
    rcases List.mem_append.1 hother with hother | hother
    · exact h.normal other hother
    · rwa [List.mem_singleton.1 hother]
  · intro other hother
    rcases List.mem_append.1 hother with hother | hother
    · exact h.ne_nil other hother
    · rwa [List.mem_singleton.1 hother]
  · intro other hother
    rcases List.mem_append.1 hother with hother | hother
    · exact h.size_le other hother
    · rwa [List.mem_singleton.1 hother]

theorem normalize_of_normalizeEntry {rawEntry : LibArchiveEntry} {entry : DeclaredEntry}
    (h : normalizeEntry rawEntry = .ok (some entry)) :
    normalizeArchiveEntryPath (rawEntry.path.getD []) = .ok entry.path := by
  unfold normalizeEntry at h
  split at h
  · cases h
  · obtain ⟨path, hpath, h⟩ := bind_eq_ok_iff.1 h
    rw [← Option.some.inj (pure_eq_ok_iff.1 h)]
    exact hpath

/-- An accepted entry keeps its path, and its size is within the bound of a single entry. -/
theorem accept_of_evaluate {policy state : ScanPolicyState} {entry : DeclaredEntry}
    {accepted : ArchiveEntrySummary}
    (h : evaluateArchiveEntry policy entry = .ok (.accept state accepted)) :
    accepted.path = entry.path ∧ accepted.size ≤ previewMaxEntryBytes := by
  unfold evaluateArchiveEntry at h
  split at h
  · cases h
  · obtain ⟨_, h⟩ := andThen_eq_ok_iff.1 h
    obtain ⟨size, _, h⟩ := bind_eq_ok_iff.1 h
    obtain ⟨hsize, h⟩ := andThen_eq_ok_iff.1 h
    obtain ⟨_, h⟩ := andThen_eq_ok_iff.1 h
    obtain ⟨_, h⟩ := andThen_eq_ok_iff.1 h
    obtain ⟨_, rfl⟩ := EntryPolicyDecision.accept.inj (pure_eq_ok_iff.1 h)
    have hsize := not_lt.1 (rejectIf_eq_ok_iff.1 hsize)
    exact ⟨rfl, hsize⟩

theorem isListing_of_inspectEntries {policy : ScanPolicyState} {seenPaths : List JsString}
    {entries : List ArchiveEntrySummary} {rawEntries : List LibArchiveEntry}
    {scan : ArchiveScanResult} (hlisting : IsListing entries)
    (hseen : ∀ path, path ∈ seenPaths ↔ path ∈ entries.map ArchiveEntrySummary.path)
    (h : inspectEntries policy seenPaths entries rawEntries = .ok scan) :
    IsListing scan.entries := by
  induction rawEntries generalizing policy seenPaths entries with
  | nil =>
      rw [← Except.ok.inj h]
      exact hlisting
  | cons rawEntry rest ih =>
      rw [inspectEntries] at h
      obtain ⟨normalized, hentry, h⟩ := bind_eq_ok_iff.1 h
      cases normalized with
      | none => exact ih hlisting hseen h
      | some entry =>
          dsimp only at h
          split at h
          · exact ih hlisting hseen h
          · next hne =>
              obtain ⟨hfresh, h⟩ := andThen_eq_ok_iff.1 h
              obtain ⟨decision, hdecision, h⟩ := bind_eq_ok_iff.1 h
              cases decision with
              | truncate =>
                  rw [← pure_eq_ok_iff.1 h]
                  exact hlisting
              | accept state accepted =>
                  obtain ⟨hpath, hsize⟩ := accept_of_evaluate hdecision
                  have hnew : accepted.path ∉ entries.map ArchiveEntrySummary.path := by
                    rw [hpath, ← hseen]
                    exact rejectIf_eq_ok_iff.1 hfresh
                  have hnormal : IsNormal accepted.path := by
                    rw [hpath]
                    exact isNormal_of_normalize (normalize_of_normalizeEntry hentry)
                  have hnext := isListing_append_singleton hlisting hnew hnormal (hpath ▸ hne) hsize
                  apply ih hnext _ h
                  intro path
                  rw [List.mem_cons, hseen, List.map_append, List.mem_append, List.map_singleton,
                    List.mem_singleton, or_comm]

theorem isListing_of_inspectArchive {sourceSize : Option Int} {rawEntries : List LibArchiveEntry}
    {scan : ArchiveScanResult} (h : inspectArchive sourceSize rawEntries = .ok scan) :
    IsListing scan.entries := by
  obtain ⟨policy, _, h⟩ := bind_eq_ok_iff.1 h
  exact isListing_of_inspectEntries isListing_nil (fun _ => Iff.rfl) h

/-- The path is in the folder or in a folder of it. -/
def liesBelow (folder path : JsString) : Bool :=
  (segments folder).isPrefixOf (segments path) && (segments folder).length < (segments path).length

def filesBelow (scan : ArchiveScanResult) (folder : JsString) : List ArchiveEntrySummary :=
  scan.entries.filter fun entry => !entry.directory && liesBelow folder entry.path

/-- A listed directory, or one that a listed path goes through. -/
def IsFolderOf (scan : ArchiveScanResult) (folder : JsString) : Prop :=
  folder ≠ [] ∧ ∃ entry ∈ scan.entries,
    (entry.directory = true ∧ entry.path = folder) ∨ liesBelow folder entry.path = true

def IsWithinLimits (selected : List ArchiveEntrySummary) : Prop :=
  selected.length ≤ exportMaxEntries ∧
    (selected.map ArchiveEntrySummary.size).sum ≤ exportMaxTotalBytes

instance (selected : List ArchiveEntrySummary) : Decidable (IsWithinLimits selected) :=
  inferInstanceAs (Decidable (_ ∧ _))

theorem splitOn_append_slash (folder path : JsString) :
    (folder ++ slash :: path).splitOn slash = folder.splitOn slash ++ path.splitOn slash := by
  induction folder with
  | nil => rw [List.nil_append, Text.splitOn_cons_self, List.splitOn_nil, List.singleton_append]
  | cons c folder ih =>
      by_cases hc : c = slash
      · subst hc
        rw [List.cons_append, Text.splitOn_cons_self, Text.splitOn_cons_self, ih, List.cons_append]
      · rw [List.cons_append, Text.splitOn_cons_of_ne hc, Text.splitOn_cons_of_ne hc, ih]
        obtain ⟨head, pieces, heq⟩ :=
          List.exists_cons_of_ne_nil (List.splitOn_ne_nil slash folder)
        rw [heq, List.cons_append, List.modifyHead_cons, List.modifyHead_cons, List.cons_append]

/-- The prefix that the code looks for is one of segments. -/
theorem isPrefixOf_eq_liesBelow {folder path : JsString} (hfolder : folder ≠ []) :
    (folder ++ [slash]).isPrefixOf path = liesBelow folder path := by
  rw [Bool.eq_iff_iff, List.isPrefixOf_iff_prefix, liesBelow, Bool.and_eq_true,
    List.isPrefixOf_iff_prefix, decide_eq_true_eq]
  constructor
  · rintro ⟨rest, rfl⟩
    rw [List.append_assoc, List.singleton_append, segments, if_neg hfolder, segments,
      if_neg (by simp), splitOn_append_slash]
    refine ⟨List.prefix_append _ _, ?_⟩
    have hpos : 0 < (rest.splitOn slash).length :=
      List.length_pos_of_ne_nil (List.splitOn_ne_nil slash rest)
    rw [List.length_append]
    omega
  · rintro ⟨⟨rest, hrest⟩, hlt⟩
    have hne : rest ≠ [] := by
      rintro rfl
      rw [← hrest, List.append_nil] at hlt
      exact lt_irrefl _ hlt
    have hsegments : segments folder ≠ [] := by
      rw [segments, if_neg hfolder]
      exact List.splitOn_ne_nil slash folder
    rw [← intercalate_segments path, ← hrest, Text.intercalate_append hsegments hne,
      intercalate_segments]
    exact ⟨[slash].intercalate rest, by simp⟩

theorem isNormal_of_liesBelow {folder path : JsString} (h : liesBelow folder path = true)
    (hfolder : folder ≠ []) (hpath : IsNormal path) : IsNormal folder := by
  have hinitial : segments folder <+: segments path := by
    rw [liesBelow, Bool.and_eq_true] at h
    exact List.isPrefixOf_iff_prefix.1 h.1
  rw [← isPrefixOf_eq_liesBelow hfolder, List.isPrefixOf_iff_prefix] at h
  have hpre : folder <+: path := (List.prefix_append _ _).trans h
  constructor
  · intro hback
    exact hpath.noBackslash (hpre.subset hback)
  · rw [List.any_eq_false]
    intro c hc
    exact List.any_eq_false.1 hpath.noControl c (hpre.subset hc)
  · intro segment hsegment
    exact hpath.good segment (hinitial.subset hsegment)
  · exact hpre.length_le.trans hpath.length_le

theorem isNormal_of_isFolderOf {scan : ArchiveScanResult} {folder : JsString}
    (hscan : IsListing scan.entries) (h : IsFolderOf scan folder) : IsNormal folder := by
  obtain ⟨hne, entry, hmem, ⟨_, rfl⟩ | hbelow⟩ := h
  · exact hscan.normal entry hmem
  · exact isNormal_of_liesBelow hbelow hne (hscan.normal entry hmem)

theorem exportSelection_of_drive {scan : ArchiveScanResult} {path : JsString}
    (h : IsNormal path) (hdrive : startsWithDrive path = true) (target : ExportTarget) :
    exportSelection scan path target = .error .unsafePath := by
  rw [exportSelection, normalize_of_drive h hdrive, error_bind]

theorem exportSelection_of_normal {scan : ArchiveScanResult} {path : JsString}
    (h : IsNormal path) (hdrive : startsWithDrive path = false) (target : ExportTarget) :
    exportSelection scan path target =
      selectArchiveExportEntries scan.entries path target scan.truncated := by
  rw [exportSelection, normalize_of_isNormal h hdrive, ok_bind]

theorem find?_listed {entries : List ArchiveEntrySummary} (hlisting : IsListing entries)
    {entry : ArchiveEntrySummary} (hmem : entry ∈ entries) (hfile : entry.directory = false) :
    (entries.find? fun candidate => !candidate.directory && candidate.path = entry.path) =
      some entry := by
  have hself : (!entry.directory && decide (entry.path = entry.path)) = true := by
    simp [hfile]
  cases hfind : entries.find? fun candidate =>
      !candidate.directory && candidate.path = entry.path with
  | none => exact absurd hself (List.find?_eq_none.1 hfind entry hmem)
  | some found =>
      have hfound := List.find?_some hfind
      rw [Bool.and_eq_true, decide_eq_true_eq] at hfound
      rw [List.inj_on_of_nodup_map hlisting.nodup (List.mem_of_find?_eq_some hfind) hmem hfound.2]

theorem exportMaxTotalBytes_le_maxSafeInteger : exportMaxTotalBytes ≤ maxSafeInteger := by
  decide

theorem not_exceeds_iff {selected : List ArchiveEntrySummary} :
    ¬ (maxSafeInteger < (selected.map ArchiveEntrySummary.size).sum ∨
        exportMaxTotalBytes < (selected.map ArchiveEntrySummary.size).sum) ↔
      (selected.map ArchiveEntrySummary.size).sum ≤ exportMaxTotalBytes := by
  have hle := exportMaxTotalBytes_le_maxSafeInteger
  omega

theorem select_file_eq_ok {entries : List ArchiveEntrySummary} (hlisting : IsListing entries)
    {entry : ArchiveEntrySummary} (hmem : entry ∈ entries) (hfile : entry.directory = false)
    (hdrive : startsWithDrive entry.path = false) (truncated : Bool) :
    selectArchiveExportEntries entries entry.path .file truncated = .ok [entry] := by
  have hnormalize := normalize_of_isNormal (hlisting.normal entry hmem) hdrive
  have hsize : entry.size ≤ exportMaxTotalBytes := hlisting.size_le entry hmem
  have hlimit : rejectIf (exportMaxEntries < [entry].length) PolicyErrorCode.exportEntryLimit =
      .ok () := rfl
  have htotal : rejectIf (maxSafeInteger < ([entry].map ArchiveEntrySummary.size).sum ∨
      exportMaxTotalBytes < ([entry].map ArchiveEntrySummary.size).sum)
      PolicyErrorCode.exportSizeLimit = .ok () := by
    rw [rejectIf_eq_ok_iff, not_exceeds_iff]
    simpa using hsize
  unfold selectArchiveExportEntries
  rw [hnormalize, ok_bind, (rejectIf_eq_ok_iff (u := ())).2 (hlisting.ne_nil entry hmem), ok_bind]
  dsimp only
  rw [find?_listed hlisting hmem hfile]
  dsimp only
  rw [ok_bind, hlimit, ok_bind, htotal, ok_bind]
  rfl

theorem select_folder_eq_ok_iff {entries selected : List ArchiveEntrySummary} {folder : JsString}
    (hnormal : IsNormal folder) (hne : folder ≠ []) (hdrive : startsWithDrive folder = false) :
    selectArchiveExportEntries entries folder .folder false = .ok selected ↔
      selected = (entries.filter fun entry => !entry.directory && liesBelow folder entry.path) ∧
        selected ≠ [] ∧ IsWithinLimits selected := by
  have hfilter : (entries.filter fun candidate =>
      !candidate.directory && (folder ++ [slash]).isPrefixOf candidate.path) =
      entries.filter fun entry => !entry.directory && liesBelow folder entry.path := by
    apply List.filter_congr
    intro entry _
    rw [isPrefixOf_eq_liesBelow hne]
  unfold selectArchiveExportEntries
  rw [normalize_of_isNormal hnormal hdrive, ok_bind, (rejectIf_eq_ok_iff (u := ())).2 hne, ok_bind]
  dsimp only
  rw [hfilter, (rejectIf_eq_ok_iff (u := ())).2 Bool.false_ne_true, ok_bind]
  constructor
  · intro h
    obtain ⟨hsome, h⟩ := andThen_eq_ok_iff.1 h
    obtain ⟨hlength, h⟩ := andThen_eq_ok_iff.1 h
    obtain ⟨htotal, h⟩ := andThen_eq_ok_iff.1 h
    obtain rfl := pure_eq_ok_iff.1 h
    exact ⟨rfl, rejectIf_eq_ok_iff.1 hsome, not_lt.1 (rejectIf_eq_ok_iff.1 hlength),
      not_exceeds_iff.1 (rejectIf_eq_ok_iff.1 htotal)⟩
  · rintro ⟨rfl, hsome, hlength, htotal⟩
    refine andThen_eq_ok_iff.2 ⟨rejectIf_eq_ok_iff.2 hsome, ?_⟩
    refine andThen_eq_ok_iff.2 ⟨rejectIf_eq_ok_iff.2 (not_lt.2 hlength), ?_⟩
    exact andThen_eq_ok_iff.2 ⟨rejectIf_eq_ok_iff.2 (not_exceeds_iff.2 htotal), rfl⟩

theorem exportSelection_file_iff {scan : ArchiveScanResult} (hscan : IsListing scan.entries)
    {entry : ArchiveEntrySummary} (hmem : entry ∈ scan.entries) (hfile : entry.directory = false) :
    exportSelection scan entry.path .file = .ok [entry] ↔ startsWithDrive entry.path = false := by
  have hnormal := hscan.normal entry hmem
  cases hdrive : startsWithDrive entry.path with
  | true =>
      rw [exportSelection_of_drive hnormal hdrive]
      simp
  | false =>
      rw [exportSelection_of_normal hnormal hdrive, select_file_eq_ok hscan hmem hfile hdrive]
      simp

/-- A folder that begins with a drive is exported as it should be only when nothing may be
exported of it. -/
theorem exportSelection_folder_iff {scan : ArchiveScanResult} (hscan : IsListing scan.entries)
    (htruncated : scan.truncated = false) {folder : JsString} (hfolder : IsFolderOf scan folder) :
    (∀ selected, exportSelection scan folder .folder = .ok selected ↔
        selected = filesBelow scan folder ∧ selected ≠ [] ∧ IsWithinLimits selected) ↔
      startsWithDrive folder = false ∨ filesBelow scan folder = [] ∨
        ¬ IsWithinLimits (filesBelow scan folder) := by
  have hnormal := isNormal_of_isFolderOf hscan hfolder
  cases hdrive : startsWithDrive folder with
  | true =>
      rw [exportSelection_of_drive hnormal hdrive]
      constructor
      · intro h
        have hnone := (h (filesBelow scan folder)).2.mt (fun hok => nomatch hok)
        rw [not_and_or, not_and_or] at hnone
        rcases hnone with hself | hempty | hlimits
        · exact absurd rfl hself
        · exact Or.inr (Or.inl (not_not.1 hempty))
        · exact Or.inr (Or.inr hlimits)
      · intro h selected
        constructor
        · intro hok
          cases hok
        · rintro ⟨rfl, hne, hlimits⟩
          rcases h with hfalse | hempty | hlarge
          · cases hfalse
          · exact absurd hempty hne
          · exact absurd hlimits hlarge
  | false =>
      rw [exportSelection_of_normal hnormal hdrive, htruncated]
      constructor
      · intro _
        exact Or.inl rfl
      · intro _ selected
        exact select_folder_eq_ok_iff hnormal hfolder.1 hdrive

/-- A path is safe and stable, and what is listed under it is exported, exactly when the first
segment that is kept of it is no drive. -/
theorem archive_paths_iff (path : JsString) (sourceSize : Option Int)
    (rawEntries : List LibArchiveEntry) :
    (∀ result, normalizeArchiveEntryPath path = .ok result →
      ((IsSafe result ∧ normalizeArchiveEntryPath result = .ok result) ↔
        hidesDrive path = false)) ∧
    ∀ scan, inspectArchive sourceSize rawEntries = .ok scan →
      (∀ entry ∈ scan.entries, entry.directory = false →
        (exportSelection scan entry.path .file = .ok [entry] ↔
          startsWithDrive entry.path = false)) ∧
      (scan.truncated = false → ∀ folder, IsFolderOf scan folder →
        ((∀ selected, exportSelection scan folder .folder = .ok selected ↔
            selected = filesBelow scan folder ∧ selected ≠ [] ∧ IsWithinLimits selected) ↔
          startsWithDrive folder = false ∨ filesBelow scan folder = [] ∨
            ¬ IsWithinLimits (filesBelow scan folder))) := by
  constructor
  · intro result h
    exact safe_and_stable_iff h
  · intro scan h
    have hscan := isListing_of_inspectArchive h
    constructor
    · intro entry hmem hfile
      exact exportSelection_file_iff hscan hmem hfile
    · intro htruncated folder hfolder
      exact exportSelection_folder_iff hscan htruncated hfolder

/-- An archive with a folder of two files and a file beside it. -/
def folderArchive : List LibArchiveEntry :=
  [⟨some (jsString "./a"), none, .dir⟩, ⟨some (jsString "./a/b"), some 1, .file⟩,
    ⟨some (jsString "a//c"), some 2, .file⟩, ⟨some (jsString "e"), some 4, .file⟩]

def folderScan : ArchiveScanResult where
  entries := [⟨jsString "a", 0, true⟩, ⟨jsString "a/b", 1, false⟩, ⟨jsString "a/c", 2, false⟩,
    ⟨jsString "e", 4, false⟩]
  entryCount := 4
  totalDeclaredSize := 7
  truncated := false

theorem folderArchive_exported :
    (IsSafe (jsString "a/c") ∧ normalizeArchiveEntryPath (jsString "a/c") = .ok (jsString "a/c")) ∧
      inspectArchive (some 10) folderArchive = .ok folderScan ∧
      exportSelection folderScan (jsString "a/c") .file = .ok [⟨jsString "a/c", 2, false⟩] ∧
      exportSelection folderScan (jsString "a") .folder =
        .ok [⟨jsString "a/b", 1, false⟩, ⟨jsString "a/c", 2, false⟩] := by
  have hscan : inspectArchive (some 10) folderArchive = .ok folderScan := rfl
  obtain ⟨hpath, hscanned⟩ := archive_paths_iff (jsString "a//c") (some 10) folderArchive
  obtain ⟨hfile, hfolder⟩ := hscanned folderScan hscan
  refine ⟨(hpath (jsString "a/c") rfl).2 rfl, hscan, ?_, ?_⟩
  · exact (hfile ⟨jsString "a/c", 2, false⟩ (by simp [folderScan]) rfl).2 rfl
  · have hbelow : IsFolderOf folderScan (jsString "a") :=
      ⟨by decide, ⟨jsString "a", 0, true⟩, List.mem_cons_self, Or.inl ⟨rfl, rfl⟩⟩
    have hlimits : IsWithinLimits [⟨jsString "a/b", 1, false⟩, ⟨jsString "a/c", 2, false⟩] := by
      decide
    exact ((hfolder rfl (jsString "a") hbelow).2 (Or.inl rfl) _).2
      ⟨rfl, List.cons_ne_nil _ _, hlimits⟩

/-- An archive with the single file `./C:/x`. -/
def hiddenDriveArchive : List LibArchiveEntry :=
  [⟨some (jsString "./C:/x"), some 1, .file⟩]

def hiddenDriveScan : ArchiveScanResult :=
  ⟨[⟨jsString "C:/x", 1, false⟩], 1, 1, false⟩

/-- The path is accepted as `C:/x`, which is absolute and is rejected when it is to be exported. -/
theorem hiddenDrive_not_safe :
    normalizeArchiveEntryPath (jsString "./C:/x") = .ok (jsString "C:/x") ∧
      startsWithDrive (jsString "C:/x") = true ∧
      normalizeArchiveEntryPath (jsString "C:/x") = .error .unsafePath ∧
      inspectArchive (some 1) hiddenDriveArchive = .ok hiddenDriveScan ∧
      exportSelection hiddenDriveScan (jsString "C:/x") .file = .error .unsafePath ∧
      exportSelection hiddenDriveScan (jsString "C:") .folder = .error .unsafePath :=
  ⟨rfl, rfl, rfl, rfl, rfl, rfl⟩

end MediaHub.Web.Archive
