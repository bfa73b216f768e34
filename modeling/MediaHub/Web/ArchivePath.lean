import Mathlib.Algebra.GroupWithZero.Nat
import Mathlib.Tactic.Common
import MediaHub.Text.Result
import MediaHub.Text.Split

namespace MediaHub.Web

open Result

/-- A string of the browser: UTF-16 code units. -/
abbrev JsString := List UInt16

def jsString (s : String) : JsString := s.toList.map fun c => UInt16.ofNat c.toNat

namespace Archive

def mebibyte : Nat := 1024 * 1024
def previewMaxSourceBytes : Nat := 100 * mebibyte
def previewMaxEntries : Nat := 2000
def previewMaxEntryBytes : Nat := 128 * mebibyte
def previewMaxTotalBytes : Nat := 512 * mebibyte
def previewMaxPathLength : Nat := 1024
def previewRatioThresholdBytes : Nat := 16 * mebibyte
def previewMaxCompressionRatio : Nat := 250
def exportMaxEntries : Nat := 1000
def exportMaxTotalBytes : Nat := 128 * mebibyte
def maxSafeInteger : Nat := 2 ^ 53 - 1

inductive PolicyErrorCode
  | invalidSourceSize
  | sourceSizeLimit
  | invalidEntrySize
  | entrySizeLimit
  | totalSizeLimit
  | pathLengthLimit
  | compressionRatioLimit
  | unsafePath
  | exportNotFound
  | exportTruncated
  | exportEntryLimit
  | exportSizeLimit
  deriving DecidableEq

abbrev PolicyResult := Except PolicyErrorCode

def slash : UInt16 := 47
def backslash : UInt16 := 92
def dot : UInt16 := 46
def colon : UInt16 := 58

/-- `/[\x00-\x1f\x7f]/` -/
def isControl (c : UInt16) : Bool := c ≤ 31 || c = 127

/-- `/[A-Za-z]/` -/
def isLetter (c : UInt16) : Bool := (65 ≤ c && c ≤ 90) || (97 ≤ c && c ≤ 122)

/-- `/^[A-Za-z]:($|\/)/` -/
def startsWithDrive : JsString → Bool
  | letter :: second :: rest =>
      isLetter letter && second = colon && (rest = [] || rest.head? = some slash)
  | _ => false

def replaceBackslashes (path : JsString) : JsString :=
  path.map fun c => if c = backslash then slash else c

/-- The segments that are kept of a path whose separators are slashes. -/
def keptSegments (path : JsString) : List JsString :=
  (path.splitOn slash).filter fun segment => segment ≠ [] && segment ≠ [dot]

def normalizeArchiveEntryPath (path : JsString) : PolicyResult JsString := do
  rejectIf (previewMaxPathLength < path.length) .pathLengthLimit
  rejectIf (path.any isControl = true) .unsafePath
  let separatorsNormalized := replaceBackslashes path
  rejectIf (separatorsNormalized.head? = some slash ∨ startsWithDrive separatorsNormalized = true)
    .unsafePath
  let segments := keptSegments separatorsNormalized
  rejectIf (segments.any (· = [dot, dot]) = true) .unsafePath
  let normalized := [slash].intercalate segments
  rejectIf (previewMaxPathLength < normalized.length) .pathLengthLimit
  return normalized

/-- `size` is `none` for a number that is no safe integer. -/
structure DeclaredEntry where
  path : JsString
  size : Option Int
  directory : Bool

/-- An entry whose size has been checked. -/
structure ArchiveEntrySummary where
  path : JsString
  size : Nat
  directory : Bool

structure ScanPolicyState where
  sourceSize : Nat
  entryCount : Nat
  totalDeclaredSize : Nat

inductive EntryPolicyDecision
  | accept (state : ScanPolicyState) (entry : ArchiveEntrySummary)
  | truncate

def assertArchiveSourceSize : Option Int → PolicyResult Nat
  | none => .error .invalidSourceSize
  | some sourceSize => do
      rejectIf (sourceSize < 0) .invalidSourceSize
      rejectIf (previewMaxSourceBytes < sourceSize.toNat) .sourceSizeLimit
      return sourceSize.toNat

def createArchiveScanPolicy (sourceSize : Option Int) : PolicyResult ScanPolicyState := do
  let sourceSize ← assertArchiveSourceSize sourceSize
  return ⟨sourceSize, 0, 0⟩

/-- `compressionRatio(..) > ARCHIVE_PREVIEW_MAX_COMPRESSION_RATIO`; the sizes are below `2 ^ 30`, so
the quotient of the code is beyond the bound when the exact one is. -/
def exceedsCompressionRatio (totalDeclaredSize sourceSize : Nat) : Bool :=
  sourceSize = 0 || previewMaxCompressionRatio * sourceSize < totalDeclaredSize

def declaredSize (entry : DeclaredEntry) : PolicyResult Nat :=
  if entry.directory then .ok 0
  else
    match entry.size with
    | none => .error .invalidEntrySize
    | some size => if size < 0 then .error .invalidEntrySize else .ok size.toNat

def evaluateArchiveEntry (state : ScanPolicyState) (entry : DeclaredEntry) :
    PolicyResult EntryPolicyDecision :=
  if previewMaxEntries ≤ state.entryCount then .ok .truncate
  else do
    rejectIf (previewMaxPathLength < entry.path.length) .pathLengthLimit
    let declaredSize ← declaredSize entry
    rejectIf (previewMaxEntryBytes < declaredSize) .entrySizeLimit
    let totalDeclaredSize := state.totalDeclaredSize + declaredSize
    rejectIf (previewMaxTotalBytes < totalDeclaredSize) .totalSizeLimit
    rejectIf (previewRatioThresholdBytes < totalDeclaredSize ∧
      exceedsCompressionRatio totalDeclaredSize state.sourceSize = true) .compressionRatioLimit
    return .accept ⟨state.sourceSize, state.entryCount + 1, totalDeclaredSize⟩
      ⟨entry.path, declaredSize, entry.directory⟩

inductive EntryType
  | file | dir | other
  deriving DecidableEq

/-- What the archive reader yields; a path that is no string is `none`. -/
structure LibArchiveEntry where
  path : Option JsString
  size : Option Int
  type : EntryType

/-- `none` is an entry that is neither a file nor a directory. -/
def normalizeEntry (entry : LibArchiveEntry) : PolicyResult (Option DeclaredEntry) :=
  if entry.type = .other then .ok none
  else do
    let path ← normalizeArchiveEntryPath (entry.path.getD [])
    return some ⟨path, entry.size, entry.type = .dir⟩

structure ArchiveScanResult where
  entries : List ArchiveEntrySummary
  entryCount : Nat
  totalDeclaredSize : Nat
  truncated : Bool

/-- The loop of `inspectArchive` over what the reader yields. -/
def inspectEntries (policy : ScanPolicyState) (seenPaths : List JsString)
    (entries : List ArchiveEntrySummary) :
    List LibArchiveEntry → PolicyResult ArchiveScanResult
  | [] => .ok ⟨entries, policy.entryCount, policy.totalDeclaredSize, false⟩
  | rawEntry :: rest => do
      match ← normalizeEntry rawEntry with
      | none => inspectEntries policy seenPaths entries rest
      | some entry =>
          if entry.path = [] then inspectEntries policy seenPaths entries rest
          else do
            rejectIf (entry.path ∈ seenPaths) .unsafePath
            match ← evaluateArchiveEntry policy entry with
            | .truncate => return ⟨entries, policy.entryCount, policy.totalDeclaredSize, true⟩
            | .accept state entry =>
                inspectEntries state (entry.path :: seenPaths) (entries ++ [entry]) rest

def inspectArchive (sourceSize : Option Int) (rawEntries : List LibArchiveEntry) :
    PolicyResult ArchiveScanResult := do
  let policy ← createArchiveScanPolicy sourceSize
  inspectEntries policy [] [] rawEntries

inductive ExportTarget
  | file | folder

def selectArchiveExportEntries (entries : List ArchiveEntrySummary) (targetPath : JsString)
    (target : ExportTarget) (truncated : Bool) : PolicyResult (List ArchiveEntrySummary) := do
  let normalizedTarget ← normalizeArchiveEntryPath targetPath
  rejectIf (normalizedTarget = []) .exportNotFound
  let selected ← match target with
    | .file =>
        match entries.find? fun candidate =>
          !candidate.directory && candidate.path = normalizedTarget with
        | none => Except.error PolicyErrorCode.exportNotFound
        | some entry => Except.ok [entry]
    | .folder => do
        rejectIf (truncated = true) .exportTruncated
        let selected := entries.filter fun candidate =>
          !candidate.directory && (normalizedTarget ++ [slash]).isPrefixOf candidate.path
        rejectIf (selected = []) .exportNotFound
        Except.ok selected
  rejectIf (exportMaxEntries < selected.length) .exportEntryLimit
  let totalBytes := (selected.map ArchiveEntrySummary.size).sum
  rejectIf (maxSafeInteger < totalBytes ∨ exportMaxTotalBytes < totalBytes) .exportSizeLimit
  return selected

/-- What `exportArchiveEntry` selects of a scan. -/
def exportSelection (scan : ArchiveScanResult) (path : JsString) (target : ExportTarget) :
    PolicyResult (List ArchiveEntrySummary) := do
  let normalizedTarget ← normalizeArchiveEntryPath path
  selectArchiveExportEntries scan.entries normalizedTarget target scan.truncated

end Archive

end MediaHub.Web
