import MediaHub.Server.WebDav
import MediaHub.Text.Overlay

namespace MediaHub.Server.Dav

open MediaHub.Core
open MediaHub.Overlay (Writes contents)

/-- `MAX_REQUEST_BYTES` -/
def maxRequestBytes : Nat := 20 * 1024 * 1024

def checkedAdd (a b : UInt64) : Option UInt64 :=
  if a.toNat + b.toNat < 2 ^ 64 then some (a + b) else none

def checkedSub (a b : UInt64) : Option UInt64 := if b ≤ a then some (a - b) else none

def unsignedAbs (offset : Int64) : UInt64 := UInt64.ofNat offset.toInt.natAbs

def checkedSeek (base : UInt64) (offset : Int64) : FsResult UInt64 :=
  if offset < 0 then
    match checkedSub base (unsignedAbs offset) with
    | none => .error .forbidden
    | some next => .ok next
  else
    match checkedAdd base offset.toUInt64 with
    | none => .error .tooLarge
    | some next => .ok next

inductive SeekFrom where
  | start (position : UInt64)
  | current (offset : Int64)
  | fromEnd (offset : Int64)

/-- The receipt of an object that was put with this content. -/
structure Receipt (content : List UInt8) where
  version : ObjectVersion
  stored : ∃ payload, version.payload = .object payload ∧ payload.sizeBytes = content.length

structure DavWriteFile where
  expectedSize : Option UInt64
  content : List UInt8
  committed : Option ObjectVersion

structure MediaHubDavFile where
  file : DavWriteFile
  position : UInt64

/-- A handle, and the contents that it has put into the store. -/
structure Session where
  handle : MediaHubDavFile
  versions : List (List UInt8)

abbrev FileM := ExceptT FsError (StateM Session)

namespace MediaHubDavFile

def write (expectedSize : Option UInt64) : MediaHubDavFile := ⟨⟨expectedSize, [], none⟩, 0⟩

def storedSize (version : ObjectVersion) : FsResult UInt64 :=
  match version.payload with
  | .object payload => .ok (UInt64.ofNat payload.sizeBytes)
  | .deleteMarker => .error .notFound

def len (handle : MediaHubDavFile) : FsResult UInt64 :=
  match handle.file.committed with
  | none => .ok (UInt64.ofNat handle.file.content.length)
  | some version => storedSize version

end MediaHubDavFile

def writeBytes (buffer : List UInt8) : FileM Unit := do
  let session ← get
  let file := session.handle.file
  if file.committed.isSome then throw .forbidden
  -- a `usize` has 64 bits
  let start := session.handle.position.toNat
  let stop := start + buffer.length
  if 2 ^ 64 ≤ stop then throw .tooLarge
  if maxRequestBytes < stop ∨ file.expectedSize.any (· < UInt64.ofNat stop) then throw .tooLarge
  let content :=
    if file.content.length < stop then Overlay.grow 0 file.content stop else file.content
  set { session with
    handle := ⟨{ file with content := Overlay.copyInto content start buffer }, UInt64.ofNat stop⟩ }

/-- The chunks of the buffer one after another. -/
def drain : List (List UInt8) → List UInt8 → List UInt8
  | [], bytes => bytes
  | chunk :: chunks, bytes => drain chunks (bytes ++ chunk)

def writeBuf (chunks : List (List UInt8)) : FileM Unit := writeBytes (drain chunks [])

def seekNext (handle : MediaHubDavFile) : SeekFrom → FsResult UInt64
  | .start position => .ok position
  | .current offset => checkedSeek handle.position offset
  | .fromEnd offset => do checkedSeek (← handle.len) offset

def seek (position : SeekFrom) : FileM UInt64 := do
  let session ← get
  let next ← ExceptT.mk (pure (seekNext session.handle position))
  set { session with handle.position := next }
  return next

/-- What `put_object` answers for the content it is given. -/
abbrev PutObject := (content : List UInt8) → FsResult (Receipt content)

def flush (putObject : PutObject) : FileM Unit := do
  let session ← get
  let file := session.handle.file
  if file.committed.isSome then return
  if file.expectedSize.any (· ≠ UInt64.ofNat file.content.length) then throw .generalFailure
  -- `std::mem::take`
  set { session with handle.file.content := [] }
  match putObject file.content with
  | .error e => throw e
  | .ok receipt =>
      modify fun session =>
        { handle := { session.handle with file.committed := some receipt.version },
          versions := session.versions ++ [file.content] }

inductive Call where
  | writeBytes (buffer : List UInt8)
  | writeBuf (chunks : List (List UInt8))
  | seek (position : SeekFrom)
  | flush (putObject : PutObject)

def Call.action : Call → FileM Unit
  | .writeBytes buffer => Dav.writeBytes buffer
  | .writeBuf chunks => Dav.writeBuf chunks
  | .seek position => discard (Dav.seek position)
  | .flush putObject => Dav.flush putObject

/-- The answer to a call, and what it leaves. -/
def Session.call (session : Session) (call : Call) : FsResult Unit × Session :=
  call.action.run.run session

def Session.start (expectedSize : Option UInt64) : Session := ⟨.write expectedSize, []⟩

def Session.run (session : Session) (calls : List Call) : Session :=
  calls.foldl (fun session call => (session.call call).2) session

/-- The writes that were taken, the offset of the next one, and the bytes that were committed. -/
structure Reference where
  writes : Writes UInt8
  position : Nat
  version : Option (List UInt8)

namespace Reference

def start : Reference := ⟨[], 0, none⟩

section

variable (reference : Reference)

def bytes : List UInt8 := contents 0 reference.writes

variable (expectedSize : Option UInt64)

/-- A write is taken until there is a version, and within the limits. -/
def write (buffer : List UInt8) : Option Reference :=
  let stop := reference.position + buffer.length
  if reference.version = none ∧ stop ≤ maxRequestBytes ∧ expectedSize.all (stop ≤ ·.toNat) then
    some { reference with
    writes := reference.writes ++ [(reference.position, buffer)]
    position := stop }
  else none

def target : SeekFrom → Int
  | .start position => position.toNat
  | .current offset => reference.position + offset.toInt
  | .fromEnd offset => reference.bytes.length + offset.toInt

def seek (position : SeekFrom) : Option Reference :=
  if 0 ≤ reference.target position ∧ reference.target position < 2 ^ 64 then
    some { reference with position := (reference.target position).toNat }
  else none

/-- The bytes are all that was announced. -/
def Filled : Bool := expectedSize.all (·.toNat = reference.bytes.length)

def flush (putObject : PutObject) : Option Reference :=
  if reference.version.isSome then some reference
  else if reference.Filled expectedSize then
    match putObject reference.bytes with
    | .error _ => none
    | .ok _ => some { reference with version := some reference.bytes }
  else none

def call : Call → Option Reference
  | .writeBytes buffer => reference.write expectedSize buffer
  | .writeBuf chunks => reference.write expectedSize chunks.flatten
  | .seek position => reference.seek position
  | .flush putObject => reference.flush expectedSize putObject

/-- A call that is refused changes nothing. -/
def next (call : Call) : Reference := (reference.call expectedSize call).getD reference

end

def run (expectedSize : Option UInt64) (calls : List Call) : Reference :=
  calls.foldl (fun reference call => reference.next expectedSize call) start

end Reference

/-- A flush that the store refuses while there are bytes to be stored. -/
def Loses (expectedSize : Option UInt64) (reference : Reference) (call : Call) : Prop :=
  reference.version = none ∧ reference.Filled expectedSize = true ∧ reference.bytes ≠ [] ∧
    ∃ putObject e, call = .flush putObject ∧ putObject reference.bytes = .error e

theorem drain_eq (chunks : List (List UInt8)) (bytes : List UInt8) :
    drain chunks bytes = bytes ++ chunks.flatten := by
  induction chunks generalizing bytes with
  | nil => exact (List.append_nil bytes).symm
  | cons chunk chunks ih => rw [drain, ih, List.flatten_cons, List.append_assoc]

theorem call_writeBuf (session : Session) (chunks : List (List UInt8)) :
    session.call (.writeBuf chunks) = session.call (.writeBytes chunks.flatten) := by
  rw [Session.call, Call.action, writeBuf, drain_eq, List.nil_append]
  rfl

theorem checkedAdd_eq_some_iff {a b next : UInt64} :
    checkedAdd a b = some next ↔ next.toNat = a.toNat + b.toNat := by
  rw [checkedAdd]
  split
  · next h =>
      rw [Option.some_inj, ← UInt64.toNat_inj, UInt64.toNat_add, Nat.mod_eq_of_lt h, eq_comm]
  · next h =>
      have hnext := next.toNat_lt
      exact iff_of_false nofun (by omega)

theorem checkedSub_eq_some_iff {a b next : UInt64} :
    checkedSub a b = some next ↔ next.toNat + b.toNat = a.toNat := by
  rw [checkedSub]
  split
  · next h =>
      have hle := UInt64.le_iff_toNat_le.1 h
      rw [Option.some_inj, ← UInt64.toNat_inj, UInt64.toNat_sub_of_le _ _ h]
      omega
  · next h =>
      rw [UInt64.le_iff_toNat_le] at h
      exact iff_of_false nofun (by omega)

/-- A seek is refused exactly where no position of 64 bits is meant. -/
theorem checkedSeek_eq_ok_iff {base : UInt64} {offset : Int64} {next : UInt64} :
    checkedSeek base offset = .ok next ↔ (next.toNat : Int) = base.toNat + offset.toInt := by
  rw [checkedSeek]
  split
  · next h =>
      have hneg : offset.toInt < 0 := Int64.lt_iff_toInt_lt.1 h
      have habs : (unsignedAbs offset).toNat = offset.toInt.natAbs := by
        have hleast := offset.le_toInt
        rw [unsignedAbs, UInt64.toNat_ofNat']
        omega
      have hsub := @checkedSub_eq_some_iff base (unsignedAbs offset) next
      rw [habs] at hsub
      cases hcase : checkedSub base (unsignedAbs offset) with
      | none =>
          rw [hcase] at hsub
          exact iff_of_false nofun fun heq => nomatch hsub.2 (by omega)
      | some found =>
          rw [hcase, Option.some_inj] at hsub
          rw [Except.ok.injEq, hsub]
          omega
  · next h =>
      have hpos : 0 ≤ offset.toInt := Int.not_lt.1 fun hlt => h (Int64.lt_iff_toInt_lt.2 hlt)
      have hcast : offset.toUInt64.toNat = offset.toInt.toNat :=
        Int64.toNat_toUInt64_of_le (Int64.le_iff_toInt_le.2 hpos)
      have hadd := @checkedAdd_eq_some_iff base offset.toUInt64 next
      rw [hcast] at hadd
      cases hcase : checkedAdd base offset.toUInt64 with
      | none =>
          rw [hcase] at hadd
          exact iff_of_false nofun fun heq => nomatch hadd.2 (by omega)
      | some found =>
          rw [hcase, Option.some_inj] at hadd
          rw [Except.ok.injEq, hadd]
          omega

theorem run_get_bind {α : Type} (f : Session → FileM α) (session : Session) :
    (get >>= f : FileM α).run.run session = (f session).run.run session := rfl

theorem call_writeBytes (session : Session) (buffer : List UInt8) :
    session.call (.writeBytes buffer) =
      (let file := session.handle.file
      let stop := session.handle.position.toNat + buffer.length
      if file.committed.isSome then (.error .forbidden, session)
      else if 2 ^ 64 ≤ stop then (.error .tooLarge, session)
      else if maxRequestBytes < stop ∨ file.expectedSize.any (· < UInt64.ofNat stop) then
        (.error .tooLarge, session)
      else (.ok (), { session with handle := ⟨{ file with
        content := Overlay.copyInto (Overlay.grow 0 file.content stop)
          session.handle.position.toNat buffer }, UInt64.ofNat stop⟩ })) := by
  have hgrow : ∀ (content : List UInt8) (stop : Nat), (if content.length < stop then
      Overlay.grow 0 content stop else content) = Overlay.grow 0 content stop := by
    intro content stop
    split
    · rfl
    · next h =>
        rw [Overlay.grow, Nat.sub_eq_zero_of_le (Nat.le_of_not_lt h)]
        exact (List.append_nil _).symm
  rw [Session.call, Call.action, writeBytes, run_get_bind]
  by_cases hcommitted : session.handle.file.committed.isSome = true
  · simp only [if_pos hcommitted]
    rfl
  by_cases hstop : 2 ^ 64 ≤ session.handle.position.toNat + buffer.length
  · simp only [if_neg hcommitted, if_pos hstop]
    rfl
  by_cases hlimit : maxRequestBytes < session.handle.position.toNat + buffer.length ∨
      session.handle.file.expectedSize.any
        (· < UInt64.ofNat (session.handle.position.toNat + buffer.length)) = true
  · simp only [if_neg hcommitted, if_neg hstop, if_pos hlimit]
    rfl
  · simp only [if_neg hcommitted, if_neg hstop, if_neg hlimit, hgrow]
    rfl

theorem call_seek (session : Session) (position : SeekFrom) :
    session.call (.seek position) =
      match seekNext session.handle position with
      | .error e => (.error e, session)
      | .ok next => (.ok (), { session with handle.position := next }) := by
  have hrun : session.call (.seek position) = (discard do
      let next ← ExceptT.mk (pure (seekNext session.handle position))
      set { session with handle.position := next }
      return next : FileM Unit).run.run session := rfl
  rw [hrun]
  cases seekNext session.handle position with
  | error e => rfl
  | ok next => rfl

/-- The content is taken before the store has answered. -/
theorem call_flush {session : Session} {content : List UInt8}
    (h : session.handle.file.content = content) (putObject : PutObject) :
    session.call (.flush putObject) =
      (let file := session.handle.file
      if file.committed.isSome then (.ok (), session)
      else if file.expectedSize.any (· ≠ UInt64.ofNat content.length) then
        (.error .generalFailure, session)
      else match putObject content with
        | .error e => (.error e, { session with handle.file.content := [] })
        | .ok receipt => (.ok (),
          { handle := { session.handle with
              file := { file with content := [], committed := some receipt.version } },
            versions := session.versions ++ [content] })) := by
  subst h
  rw [Session.call, Call.action, flush, run_get_bind]
  by_cases hcommitted : session.handle.file.committed.isSome = true
  · simp only [if_pos hcommitted]
    rfl
  by_cases hsize : session.handle.file.expectedSize.any
      (· ≠ UInt64.ofNat session.handle.file.content.length) = true
  · simp only [if_neg hcommitted, if_pos hsize]
    rfl
  · simp only [if_neg hcommitted, if_neg hsize]
    cases putObject session.handle.file.content with
    | error e => rfl
    | ok receipt => rfl

/-- What a caller sees of the handle is the array. -/
structure Agrees (session : Session) (reference : Reference) : Prop where
  position : session.handle.position.toNat = reference.position
  content : reference.version = none → session.handle.file.content = reference.bytes
  versions : session.versions = reference.version.toList

/-- What the handle keeps with it. -/
structure Matches (expectedSize : Option UInt64) (session : Session) (reference : Reference) :
    Prop extends Agrees session reference where
  expected : session.handle.file.expectedSize = expectedSize
  uncommitted : reference.version = none → session.handle.file.committed = none
  committed : ∀ bytes ∈ reference.version, bytes = reference.bytes ∧
    ∃ version payload, session.handle.file.committed = some version ∧
      version.payload = .object payload ∧ payload.sizeBytes = bytes.length
  small : reference.bytes.length ≤ maxRequestBytes

theorem Matches.start (expectedSize : Option UInt64) :
    Matches expectedSize (.start expectedSize) .start where
  position := rfl
  content _ := rfl
  versions := rfl
  expected := rfl
  uncommitted _ := rfl
  committed := nofun
  small := Nat.zero_le _

variable {expectedSize : Option UInt64} {session : Session} {reference : Reference}

theorem Matches.isSome_committed (h : Matches expectedSize session reference) :
    session.handle.file.committed.isSome = reference.version.isSome := by
  cases hversion : reference.version with
  | none =>
      rw [h.uncommitted hversion]
      rfl
  | some bytes =>
      obtain ⟨-, version, payload, hcommitted, -⟩ := h.committed bytes hversion
      rw [hcommitted]
      rfl

theorem toNat_ofNat_length {bytes : List UInt8} (h : bytes.length ≤ maxRequestBytes) :
    (UInt64.ofNat bytes.length).toNat = bytes.length := by
  have hsmall : maxRequestBytes < 2 ^ 64 := by decide
  rw [UInt64.toNat_ofNat']
  exact Nat.mod_eq_of_lt (Nat.lt_of_le_of_lt h hsmall)

/-- The length is that of the array, before the commit and after it. -/
theorem Matches.len (h : Matches expectedSize session reference) :
    ∃ len, session.handle.len = .ok len ∧ len.toNat = reference.bytes.length := by
  cases hversion : reference.version with
  | none =>
      refine ⟨UInt64.ofNat reference.bytes.length, ?_, toNat_ofNat_length h.small⟩
      rw [MediaHubDavFile.len, h.uncommitted hversion, h.content hversion]
  | some bytes =>
      obtain ⟨rfl, version, payload, hcommitted, hpayload, hsize⟩ := h.committed bytes hversion
      refine ⟨UInt64.ofNat reference.bytes.length, ?_, toNat_ofNat_length h.small⟩
      simp only [MediaHubDavFile.len, hcommitted, MediaHubDavFile.storedSize, hpayload, hsize]

theorem Matches.seekNext (h : Matches expectedSize session reference) (position : SeekFrom)
    (next : UInt64) :
    Dav.seekNext session.handle position = .ok next ↔
      (next.toNat : Int) = reference.target position := by
  cases position with
  | start position =>
      rw [Dav.seekNext, Except.ok.injEq, Reference.target, Int.natCast_inj, UInt64.toNat_inj,
        eq_comm]
  | current offset => rw [Dav.seekNext, checkedSeek_eq_ok_iff, h.position, Reference.target]
  | fromEnd offset =>
      obtain ⟨len, hlen, hlength⟩ := h.len
      rw [Dav.seekNext, hlen, Result.ok_bind, checkedSeek_eq_ok_iff, hlength, Reference.target]

/-- What one call does to the handle is what it does to the array. -/
structure Follows (expectedSize : Option UInt64) (session : Session) (reference : Reference)
    (call : Call) : Prop where
  answer : (session.call call).1 = .ok () ↔ (reference.call expectedSize call).isSome = true
  next : Matches expectedSize (session.call call).2 (reference.next expectedSize call)
  unchanged : ∀ e, (session.call call).1 = .error e → (session.call call).2 = session

theorem Follows.of_refused {call : Call} {e : FsError}
    (h : Matches expectedSize session reference) (hcall : session.call call = (.error e, session))
    (hreference : reference.call expectedSize call = none) :
    Follows expectedSize session reference call where
  answer := by
    rw [hcall, hreference]
    exact iff_of_false nofun nofun
  next := by rwa [hcall, Reference.next, hreference]
  unchanged _ _ := by rw [hcall]

theorem Follows.of_taken {call : Call} {session' : Session} {reference' : Reference}
    (hcall : session.call call = (.ok (), session'))
    (hreference : reference.call expectedSize call = some reference')
    (h : Matches expectedSize session' reference') :
    Follows expectedSize session reference call where
  answer := by
    rw [hcall, hreference]
    exact iff_of_true rfl rfl
  next := by rwa [hcall, Reference.next, hreference]
  unchanged e he := by
    rw [hcall] at he
    cases he

theorem over_iff {expectedSize : Option UInt64} {stop : Nat} :
    maxRequestBytes < stop ∨ expectedSize.any (· < UInt64.ofNat stop) = true ↔
      ¬ (stop ≤ maxRequestBytes ∧ expectedSize.all (stop ≤ ·.toNat) = true) := by
  have hsmall : maxRequestBytes < 2 ^ 64 := by decide
  by_cases hlimit : stop ≤ maxRequestBytes
  · have hstop : (UInt64.ofNat stop).toNat = stop := by
      rw [UInt64.toNat_ofNat']
      exact Nat.mod_eq_of_lt (Nat.lt_of_le_of_lt hlimit hsmall)
    rw [or_iff_right (Nat.not_lt.2 hlimit), and_iff_right hlimit]
    cases expectedSize with
    | none => simp
    | some size => simp [UInt64.lt_iff_toNat_lt, hstop]
  · exact iff_of_true (Or.inl (Nat.lt_of_not_le hlimit)) fun hall => hlimit hall.1

theorem Matches.write (h : Matches expectedSize session reference) (buffer : List UInt8) :
    Follows expectedSize session reference (.writeBytes buffer) := by
  have hcall := call_writeBytes session buffer
  have hreference : reference.call expectedSize (.writeBytes buffer) =
      reference.write expectedSize buffer := rfl
  dsimp only at hcall
  rw [h.position, h.expected, h.isSome_committed] at hcall
  rw [Reference.write] at hreference
  cases hversion : reference.version with
  | some bytes =>
      rw [hversion] at hcall hreference
      exact .of_refused h hcall (hreference.trans (if_neg fun hall => nomatch hall.1))
  | none =>
      rw [hversion, if_neg nofun] at hcall
      have hover := @over_iff expectedSize (reference.position + buffer.length)
      by_cases hlimits : reference.position + buffer.length ≤ maxRequestBytes ∧
          expectedSize.all (reference.position + buffer.length ≤ ·.toNat) = true
      · have hsmall : reference.position + buffer.length < 2 ^ 64 :=
          Nat.lt_of_le_of_lt hlimits.1 (by decide)
        rw [if_neg (Nat.not_le.2 hsmall), if_neg fun h => hover.1 h hlimits,
          h.content hversion] at hcall
        rw [if_pos ⟨hversion, hlimits⟩] at hreference
        have hbytes : Overlay.copyInto (Overlay.grow 0 reference.bytes
            (reference.position + buffer.length)) reference.position buffer =
            contents 0 (reference.writes ++ [(reference.position, buffer)]) :=
          Overlay.copyInto_grow 0 reference.writes reference.position buffer
        rw [hbytes] at hcall
        refine .of_taken hcall hreference ⟨⟨?_, fun _ => rfl, ?_⟩, rfl, ?_, ?_, ?_⟩
        · rw [UInt64.toNat_ofNat']
          exact Nat.mod_eq_of_lt hsmall
        · exact h.versions
        · exact fun _ => h.uncommitted hversion
        · exact fun bytes hbytes => nomatch hversion.symm.trans hbytes
        · have hsize := h.small
          rw [Reference.bytes, Overlay.length_contents] at hsize ⊢
          rw [Overlay.size_append_singleton]
          exact Nat.max_le.2 ⟨hsize, hlimits.1⟩
      · rw [if_neg fun hall => hlimits hall.2] at hreference
        rw [if_pos (hover.2 hlimits)] at hcall
        split at hcall
        · exact .of_refused h hcall hreference
        · exact .of_refused h hcall hreference

theorem Matches.seek (h : Matches expectedSize session reference) (position : SeekFrom) :
    Follows expectedSize session reference (.seek position) := by
  have hcall := call_seek session position
  have hreference : reference.call expectedSize (.seek position) = reference.seek position := rfl
  have hnext := h.seekNext position
  rw [Reference.seek] at hreference
  cases hseek : Dav.seekNext session.handle position with
  | error e =>
      rw [hseek] at hcall hnext
      refine .of_refused h hcall (hreference.trans (if_neg fun hrange => ?_))
      obtain ⟨target, htarget⟩ := Int.eq_ofNat_of_zero_le hrange.1
      refine nomatch (hnext (UInt64.ofNat target)).2 ?_
      rw [htarget, UInt64.toNat_ofNat', Nat.mod_eq_of_lt (by omega)]
  | ok next =>
      rw [hseek] at hcall
      have htarget := (hnext next).1 hseek
      have hlt := next.toNat_lt
      rw [if_pos (by omega)] at hreference
      refine .of_taken hcall hreference
        ⟨⟨?_, h.content, h.versions⟩, h.expected, h.uncommitted, h.committed, h.small⟩
      change next.toNat = (reference.target position).toNat
      omega

theorem any_ne_iff {expectedSize : Option UInt64} {reference : Reference}
    (h : reference.bytes.length ≤ maxRequestBytes) :
    expectedSize.any (· ≠ UInt64.ofNat reference.bytes.length) = true ↔
      ¬ reference.Filled expectedSize := by
  have hlength := toNat_ofNat_length h
  cases expectedSize with
  | none => simp [Reference.Filled]
  | some size =>
      rw [Option.any_some, decide_eq_true_iff, ne_eq, ← UInt64.toNat_inj, hlength, Reference.Filled,
        Option.all_some, decide_eq_true_iff]

theorem Matches.flush (h : Matches expectedSize session reference) (putObject : PutObject)
    (hkeeps : ¬ Loses expectedSize reference (.flush putObject)) :
    Follows expectedSize session reference (.flush putObject) := by
  have hreference : reference.call expectedSize (.flush putObject) =
      reference.flush expectedSize putObject := rfl
  rw [Reference.flush] at hreference
  cases hversion : reference.version with
  | some bytes =>
      have hcall := @call_flush session session.handle.file.content rfl putObject
      dsimp only at hcall
      rw [h.isSome_committed, hversion, Option.isSome_some, if_pos rfl] at hcall
      rw [hversion] at hreference
      exact .of_taken hcall hreference h
  | none =>
      have hcall := call_flush (h.content hversion) putObject
      dsimp only at hcall
      rw [h.expected, h.isSome_committed, hversion, if_neg nofun] at hcall
      rw [hversion, if_neg nofun] at hreference
      have hsize := @any_ne_iff expectedSize reference h.small
      by_cases hfilled : reference.Filled expectedSize
      · rw [if_neg fun h => hsize.1 h hfilled] at hcall
        rw [if_pos hfilled] at hreference
        cases hput : putObject reference.bytes with
        | error e =>
            rw [hput] at hcall hreference
            have hempty : reference.bytes = [] := by
              by_contra hbytes
              exact hkeeps ⟨hversion, hfilled, hbytes, putObject, e, rfl, hput⟩
            have hsame : session.handle.file.content = [] := (h.content hversion).trans hempty
            have hrefused : session.call (.flush putObject) = (.error e, session) := by
              rw [hcall, ← hsame, ← h.expected]
            exact .of_refused h hrefused hreference
        | ok receipt =>
            rw [hput] at hcall hreference
            obtain ⟨payload, hpayload, hsize⟩ := receipt.stored
            refine .of_taken hcall hreference
              ⟨⟨h.position, nofun, ?_⟩, rfl, nofun, ?_, h.small⟩
            · rw [h.versions, hversion]
              rfl
            · rintro bytes ⟨⟩
              exact ⟨rfl, receipt.version, payload, rfl, hpayload, hsize⟩
      · rw [if_pos (hsize.2 hfilled)] at hcall
        rw [if_neg hfilled] at hreference
        exact .of_refused h hcall hreference

theorem Matches.follows (h : Matches expectedSize session reference) {call : Call}
    (hkeeps : ¬ Loses expectedSize reference call) :
    Follows expectedSize session reference call := by
  cases call with
  | writeBytes buffer => exact h.write buffer
  | writeBuf chunks =>
      have hwrite := h.write chunks.flatten
      constructor
      · rw [call_writeBuf]
        exact hwrite.answer
      · rw [call_writeBuf]
        exact hwrite.next
      · rw [call_writeBuf]
        exact hwrite.unchanged
  | seek position => exact h.seek position
  | flush putObject => exact h.flush putObject hkeeps

/-- After a flush that loses the bytes, the handle holds none and the array still does. -/
theorem Matches.not_agrees (h : Matches expectedSize session reference) {call : Call}
    (hloses : Loses expectedSize reference call) :
    ¬ Agrees (session.call call).2 (reference.next expectedSize call) := by
  intro hagrees
  obtain ⟨hversion, hfilled, hbytes, putObject, e, rfl, hput⟩ := hloses
  have hreference : reference.next expectedSize (.flush putObject) = reference := by
    rw [Reference.next, Reference.call, Reference.flush, hversion, if_neg nofun, if_pos hfilled,
      hput]
    rfl
  have hcall := call_flush (h.content hversion) putObject
  have hsize := @any_ne_iff expectedSize reference h.small
  dsimp only at hcall
  rw [h.expected, h.isSome_committed, hversion, if_neg nofun, if_neg fun h => hsize.1 h hfilled,
    hput] at hcall
  rw [hreference, hcall] at hagrees
  exact hbytes (hagrees.content hversion).symm

/-- A run of the handle is the run of the array: with every call the two agree, and give the same
answer. -/
structure Faithful (expectedSize : Option UInt64) (calls : List Call) : Prop where
  agrees : ∀ front, front <+: calls →
    Agrees ((Session.start expectedSize).run front) (Reference.run expectedSize front)
  answers : ∀ front call, front ++ [call] <+: calls →
    ((((Session.start expectedSize).run front).call call).1 = .ok () ↔
      ((Reference.run expectedSize front).call expectedSize call).isSome = true)
  unchanged : ∀ front call e, front ++ [call] <+: calls →
    (((Session.start expectedSize).run front).call call).1 = .error e →
      (((Session.start expectedSize).run front).call call).2 =
        (Session.start expectedSize).run front
  once : ((Session.start expectedSize).run calls).versions.length ≤ 1
  lasting : ∀ front, front <+: calls →
    ∀ bytes ∈ ((Session.start expectedSize).run front).versions,
      ((Session.start expectedSize).run calls).versions = [bytes] ∧
        bytes = (Reference.run expectedSize calls).bytes

theorem Session.run_append_singleton (session : Session) (front : List Call) (call : Call) :
    session.run (front ++ [call]) = ((session.run front).call call).2 := by
  rw [Session.run, List.foldl_append]
  rfl

theorem Reference.run_append_singleton (expectedSize : Option UInt64) (front : List Call)
    (call : Call) : Reference.run expectedSize (front ++ [call]) =
      (Reference.run expectedSize front).next expectedSize call := by
  rw [Reference.run, List.foldl_append]
  rfl

theorem matches_run {calls : List Call} (hkeeps : ∀ front call, front ++ [call] <+: calls →
    ¬ Loses expectedSize (Reference.run expectedSize front) call) :
    Matches expectedSize ((Session.start expectedSize).run calls)
      (Reference.run expectedSize calls) := by
  induction calls using List.reverseRecOn with
  | nil => exact .start expectedSize
  | append_singleton calls call ih =>
      have hbefore := ih fun front later hfront =>
        hkeeps front later (hfront.trans (List.prefix_append calls [call]))
      rw [Session.run_append_singleton, Reference.run_append_singleton]
      exact (hbefore.follows (hkeeps calls call (List.prefix_refl _))).next

/-- Once there is a version, neither it nor the bytes change. -/
theorem Reference.next_of_version {reference : Reference} {bytes : List UInt8}
    (h : reference.version = some bytes) (call : Call) :
    (reference.next expectedSize call).version = some bytes ∧
      (reference.next expectedSize call).writes = reference.writes := by
  have hwrite : ∀ buffer, reference.write expectedSize buffer = none := by
    refine fun buffer => if_neg fun hall => ?_
    rw [h] at hall
    cases hall.1
  cases call with
  | writeBytes buffer =>
      rw [Reference.next, Reference.call, hwrite]
      exact ⟨h, rfl⟩
  | writeBuf chunks =>
      rw [Reference.next, Reference.call, hwrite]
      exact ⟨h, rfl⟩
  | seek position =>
      rw [Reference.next, Reference.call, Reference.seek]
      split
      · exact ⟨h, rfl⟩
      · exact ⟨h, rfl⟩
  | flush putObject =>
      rw [Reference.next, Reference.call, Reference.flush, h, Option.isSome_some, if_pos rfl]
      exact ⟨h, rfl⟩

theorem Reference.run_of_version {front calls : List Call} {bytes : List UInt8}
    (h : (Reference.run expectedSize front).version = some bytes) (hfront : front <+: calls) :
    (Reference.run expectedSize calls).version = some bytes := by
  obtain ⟨rest, rfl⟩ := hfront
  induction rest using List.reverseRecOn with
  | nil => rwa [List.append_nil]
  | append_singleton rest call ih =>
      rw [← List.append_assoc, Reference.run_append_singleton]
      exact (Reference.next_of_version ih call).1

/-- The first flush that loses the bytes shows. -/
theorem not_loses_of_agrees {calls : List Call} (h : ∀ front, front <+: calls →
    Agrees ((Session.start expectedSize).run front) (Reference.run expectedSize front)) :
    ∀ front call, front ++ [call] <+: calls →
      ¬ Loses expectedSize (Reference.run expectedSize front) call := by
  induction calls using List.reverseRecOn with
  | nil => exact fun front call hfront => by simp at hfront
  | append_singleton calls last ih =>
      have hbefore := ih fun front hfront =>
        h front (hfront.trans (List.prefix_append calls [last]))
      intro front call hfront
      rcases List.prefix_concat_iff.1 hfront with heq | hfront
      · obtain ⟨rfl, hlast⟩ := List.append_inj' heq rfl
        obtain rfl := List.singleton_inj.1 hlast
        intro hloses
        have hagrees := h (front ++ [call]) (List.prefix_refl _)
        rw [Session.run_append_singleton, Reference.run_append_singleton] at hagrees
        exact (matches_run hbefore).not_agrees hloses hagrees
      · exact hbefore front call hfront

/-- An object version of this size. -/
def versionOf (sizeBytes : Nat) : ObjectVersion where
  id := 1
  objectId := 2
  applicationId := 3
  bucketId := 4
  externalVersionId := .null
  generation := 1
  state := .committed
  payload := .object ⟨⟨.localStore, .object 3 4 1⟩, .text "etag", sizeBytes, none, [], none⟩
  retention := none
  legalHold := false
  createdBy := "webdav:key"
  createdAt := 0
  becameNoncurrentAt := none
  supersededAt := none
  generation_ne_zero := Nat.one_ne_zero
  createdBy_valid := by decide
  marker_unlocked := nofun

def stored : PutObject := fun content => .ok ⟨versionOf content.length, ⟨_, rfl, rfl⟩⟩

def unavailable : PutObject := fun _ => .error .generalFailure

end MediaHub.Server.Dav
