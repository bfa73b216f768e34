import MediaHub.Catalog.Cursor
import MediaHub.Local.Paths
import MediaHub.Order.Smallest
import MediaHub.Pagination.Keyset
import MediaHub.Text.Split
import MediaHub.Text.Utf8

namespace MediaHub.Local

open Calls FileSystem

def StagingFile.extension : StagingFile → Text
  | .object => ".object".toList
  | .metadata => ".metadata".toList

/-- A component as text. -/
def Segment.toStr : Segment → Text
  | .name text => text
  | .staged id file => Catalog.hyphenate (Catalog.simpleText id) ++ file.extension

/-- The key that a path stands for. -/
def objectKey (path : Path) : Text := ['/'].intercalate (path.map Segment.toStr)

/-- `Component::Normal`: the name of an entry of a directory. -/
structure IsNormal (name : Text) : Prop where
  ne_nil : name ≠ []
  not_current : name ≠ ['.']
  not_parent : name ≠ ['.', '.']
  no_separator : '/' ∉ name
  no_nul : '\x00' ∉ name

theorem isNormal_of_valid {index : Nat} {segment : Text}
    (h : isInvalidSegment index segment = false) (hseparator : '/' ∉ segment) :
    IsNormal segment := by
  simp only [isInvalidSegment, Bool.or_eq_false_iff, decide_eq_false_iff_not] at h
  obtain ⟨⟨⟨⟨⟨⟨⟨⟨hnil, hdot⟩, hdots⟩, _⟩, _⟩, _⟩, hcontrol⟩, _⟩, _⟩ := h
  refine ⟨hnil, hdot, hdots, hseparator, fun hmem => ?_⟩
  have hbad := List.any_eq_false.1 hcontrol _ hmem
  simp at hbad

theorem relativePathFor_segments {key : Text} {path : Path} (h : relativePathFor key = .ok path) :
    pathSegments (key.splitOn '/') 0 = .ok path := by
  unfold relativePathFor at h
  split at h
  · cases h
  · split at h
    · cases h
    · exact h

theorem not_mem_splitOn {segment key : Text} (h : segment ∈ key.splitOn '/') : '/' ∉ segment :=
  Text.notMem_of_mem_splitOn h

/-- The names on the path of a key. -/
theorem relativePathFor_normal {key : Text} {path : Path} (h : relativePathFor key = .ok path) :
    ∀ segment ∈ path, ∃ name, segment = .name name ∧ IsNormal name := by
  obtain ⟨rfl, hvalid⟩ := pathSegments_ok_iff.1 (relativePathFor_segments h)
  intro segment hsegment
  obtain ⟨name, hname, rfl⟩ := List.mem_map.1 hsegment
  obtain ⟨i, hi⟩ := List.mem_iff_getElem?.1 hname
  exact ⟨name, rfl, isNormal_of_valid (hvalid i name hi) (not_mem_splitOn hname)⟩

theorem objectKey_relativePathFor {key : Text} {path : Path} (h : relativePathFor key = .ok path) :
    objectKey path = key := by
  have hnames : (key.splitOn '/').map (Segment.toStr ∘ Segment.name) = key.splitOn '/' :=
    List.map_id _
  rw [(relativePathFor_ok h).1, objectKey, List.map_map, hnames, List.intercalate_splitOn]

/-- An accepted key stays below the root, away from the directories of the store, and is the only
one with its path. -/
theorem relativePathFor_safe {key : Text} {path : Path} (h : pathFor key = .ok path) :
    (path ≠ [] ∧ ∀ segment ∈ path, ∃ name, segment = .name name ∧ IsNormal name) ∧
      (∀ name, path.head? = some (.name name) →
        eqIgnoreAsciiCase name metadataDirectory = false ∧
          eqIgnoreAsciiCase name stagingDirectory = false) ∧
      (∀ other, pathFor other = .ok path → other = key) ∧
      (∀ other sidecar, metadataPathFor other = .ok sidecar → ¬ sidecar <+: path) ∧
      objectKey path = key := by
  obtain ⟨hpath, hobject⟩ := relativePathFor_ok h
  refine ⟨⟨hobject.ne_nil, relativePathFor_normal h⟩, fun name hname => ?_,
    fun other hother => relativePathFor_injective hother h, fun other sidecar hsidecar hpre => ?_,
    objectKey_relativePathFor h⟩
  · refine (pathSegments_ok (relativePathFor_segments h)).2 name ?_
    rw [hpath, List.head?_map, Option.map_eq_some_iff] at hname
    obtain ⟨first, hfirst, heq⟩ := hname
    obtain rfl := Segment.name.inj heq
    exact hfirst
  · cases hrelative : relativePathFor other with
    | error error =>
        rw [metadataPathFor, hrelative] at hsidecar
        cases hsidecar
    | ok tail =>
        rw [metadataPathFor, hrelative] at hsidecar
        cases hsidecar
        obtain ⟨rest, rfl⟩ := hpre
        exact hobject.2.1 rfl

theorem relativePathFor_safe_photo :
    objectKey [.name "apps".toList, .name "photo.jpg".toList] = "apps/photo.jpg".toList ∧
      ∀ other, pathFor other = .ok [.name "apps".toList, .name "photo.jpg".toList] →
        other = "apps/photo.jpg".toList := by
  have hpath : pathFor "apps/photo.jpg".toList =
      .ok [.name "apps".toList, .name "photo.jpg".toList] := by decide +kernel
  exact ⟨(relativePathFor_safe hpath).2.2.2.2, (relativePathFor_safe hpath).2.2.1⟩

/-- The directories that the walk leaves out. -/
def isReserved (path : Path) : Bool :=
  path = [.name metadataDirectory] || path = [.name stagingDirectory]

/-- What `read_dir` yields, in its order, with what the directories below yield. -/
inductive Entries
  | nil
  | file (name : Segment) (inode : Nat) (rest : Entries)
  | symlink (name : Segment) (rest : Entries)
  | directory (name : Segment) (inside rest : Entries)

namespace Entries

/-- The entries of one directory. -/
def list : Entries → List (Segment × Node)
  | nil => []
  | file name inode rest => (name, .file inode) :: rest.list
  | symlink name rest => (name, .symlink) :: rest.list
  | directory name _ rest => (name, .directory) :: rest.list

/-- The files below a directory, in the order of the walk, without those of the store itself. -/
def objectPaths (parent : Path) : Entries → List Path
  | nil => []
  | file name _ rest =>
      (if isReserved (parent ++ [name]) then [] else [parent ++ [name]]) ++
        rest.objectPaths parent
  | symlink _ rest => rest.objectPaths parent
  | directory name inside rest =>
      (if isReserved (parent ++ [name]) then [] else inside.objectPaths (parent ++ [name])) ++
        rest.objectPaths parent

end Entries

/-- The keys that a page may show. -/
def isListed (pre : Text) (cursor : Option Text) (key : Text) : Bool :=
  pre.isPrefixOf key && cursor.all (· < key)

/-- The heap of the smallest keys so far goes through all the directories. -/
def collectObjectKeys (pre : Text) (cursor : Option Text) (capacity : Nat) (parent : Path) :
    Entries → List Text → List Text
  | .nil, keys => keys
  | .file name _ rest, keys =>
      collectObjectKeys pre cursor capacity parent rest
        (if isReserved (parent ++ [name]) then keys
        else if isListed pre cursor (objectKey (parent ++ [name])) then
          Smallest.keep capacity keys (objectKey (parent ++ [name]))
        else keys)
  | .symlink _ rest, keys => collectObjectKeys pre cursor capacity parent rest keys
  | .directory name inside rest, keys =>
      collectObjectKeys pre cursor capacity parent rest
        (if isReserved (parent ++ [name]) then keys
        else collectObjectKeys pre cursor capacity (parent ++ [name]) inside keys)

structure ObjectMetadata where
  key : Text
  size : Nat
  contentType : Option Text

structure ObjectPage where
  objects : List ObjectMetadata
  nextCursor : Option Text

/-- `fs::metadata(path)` and its `len`. -/
def fileLength (path : Path) (fs : FileSystem) : Except IoError Nat × FileSystem :=
  match fs.entries path with
  | some (.file inode) => (.ok (fs.contents inode).length, fs)
  | some .directory => (.ok 0, fs)
  | _ => (.error .notFound, fs)

def contentTypeFor (key : Text) : Store (Option Text) := do
  let path ← .lift (metadataPathFor key)
  ensureSafePath path false
  Program.ask (read path) >>= fun
    | .ok bytes =>
        match Utf8.ofBytes bytes with
        | some contentType => .ok (some contentType)
        | none => .error (.unavailable "stream did not contain valid UTF-8")
    | .error .notFound => .ok none
    | .error error => .error (ioError error)

def objectMetadata (key : Text) : Store ObjectMetadata := do
  let path ← .lift (pathFor key)
  ensureSafePath path false
  let size ← io (fileLength path) mapReadError
  let contentType ← contentTypeFor key
  .ok { key, size, contentType }

def objectMetadatas : List Text → Store (List ObjectMetadata)
  | [] => .ok []
  | key :: keys => do
      let object ← objectMetadata key
      let objects ← objectMetadatas keys
      .ok (object :: objects)

/-- A prefix is a path, but for a slash at its end. -/
def checkPrefix (pre : Text) : Except ObjectStoreError Unit :=
  if pre = [] then .ok ()
  else
    let pathPrefix := if pre.getLast? = some '/' then pre.dropLast else pre
    if pathPrefix = [] then .error .invalidCursor
    else (relativePathFor pathPrefix).map fun _ => ()

def checkCursor (pre : Text) : Option Text → Except ObjectStoreError Unit
  | none => .ok ()
  | some cursor => (relativePathFor cursor).bind fun _ =>
      if pre.isPrefixOf cursor then .ok () else .error .invalidCursor

/-- The directories are as they are found when the walk reaches them. -/
def listSync (found : Entries) (pre : Text) (cursor : Option Text) (limit : Nat) :
    Store ObjectPage := do
  if limit = 0 ∨ 1000 < limit then .error .invalidLimit else .ok ()
  .lift (checkPrefix pre)
  .lift (checkCursor pre cursor)
  ensureSafePath [] false
  let keys := collectObjectKeys pre cursor (limit + 1) [] found []
  let hasMore : Bool := limit < keys.length
  let objects ← objectMetadatas (keys.take limit)
  .ok { objects, nextCursor := if hasMore then objects.getLast?.map (·.key) else none }

namespace Entries

def names (entries : Entries) : List Segment := entries.list.map (·.1)

/-- The entries of a directory, each once. -/
structure Complete (fs : FileSystem) (parent : Path) (entries : Entries) : Prop where
  nodup : entries.names.Nodup
  all : ∀ name, (fs.entries (parent ++ [name])).isSome → name ∈ entries.names

/-- What is found is there, and is all there is below it. -/
def Below (fs : FileSystem) (parent : Path) : Entries → Prop
  | nil => True
  | file name inode rest =>
      fs.entries (parent ++ [name]) = some (.file inode) ∧ rest.Below fs parent
  | symlink name rest => fs.entries (parent ++ [name]) = some .symlink ∧ rest.Below fs parent
  | directory name inside rest =>
      fs.entries (parent ++ [name]) = some .directory ∧
        inside.Complete fs (parent ++ [name]) ∧ inside.Below fs (parent ++ [name]) ∧
        rest.Below fs parent

end Entries

/-- A tree of objects under accepted keys: where a file is an object, nothing is in the way of its
sidecar, which is a text if it is there. -/
structure Stored (fs : FileSystem) (found : Entries) : Prop where
  complete : found.Complete fs []
  below : found.Below fs []
  keyed : ∀ path inode, fs.entries path = some (.file inode) → IsObjectPath path →
    ∃ key, pathFor key = .ok path
  sidecar : ∀ path inode, fs.entries path = some (.file inode) → IsObjectPath path →
    Clear fs (metadataPath path) ∧ (fs.entries (metadataPath path) = none ∨
      ∃ side contentType, fs.entries (metadataPath path) = some (.file side) ∧
        Utf8.ofBytes (fs.contents side) = some contentType)

def storedKeys (found : Entries) : List Text := (found.objectPaths []).map objectKey

theorem isObjectPath_append {parent : Path} (h : parent ≠ []) (rest : Path) :
    IsObjectPath (parent ++ rest) ↔ IsObjectPath parent := by
  obtain ⟨first, tail, rfl⟩ := List.exists_cons_of_ne_nil h
  exact Iff.rfl

/-- A path is left out where its first name is that of a directory of the store. -/
theorem isReserved_eq_false_iff {parent : Path} (h : parent = [] ∨ IsObjectPath parent)
    (name : Segment) : isReserved (parent ++ [name]) = false ↔ IsObjectPath (parent ++ [name]) := by
  rcases h with rfl | h
  · simp [isReserved, IsObjectPath]
  · refine iff_of_true ?_ ((isObjectPath_append h.ne_nil _).2 h)
    obtain ⟨first, tail, rfl⟩ := List.exists_cons_of_ne_nil h.ne_nil
    simp [isReserved]

section

variable {fs : FileSystem}

/-- The walk finds the files that are objects, below the names of the directory. -/
theorem of_mem_objectPaths {entries : Entries} {parent path : Path}
    (hparent : parent = [] ∨ IsObjectPath parent) (hbelow : entries.Below fs parent)
    (h : path ∈ entries.objectPaths parent) :
    (∃ inode, fs.entries path = some (.file inode)) ∧ IsObjectPath path ∧
      ∃ name ∈ entries.names, parent ++ [name] <+: path := by
  induction entries generalizing parent with
  | nil => simp [Entries.objectPaths] at h
  | file name inode rest ih =>
      obtain ⟨hentry, hrest⟩ := hbelow
      rw [Entries.objectPaths, List.mem_append] at h
      rcases h with h | h
      · split at h
        · simp at h
        · next hreserved =>
            obtain rfl := List.mem_singleton.1 h
            exact ⟨⟨inode, hentry⟩,
              (isReserved_eq_false_iff hparent name).1 (by simpa using hreserved),
              name, List.mem_cons_self, List.prefix_refl _⟩
      · obtain ⟨hfile, hobject, other, hother, hpre⟩ := ih hparent hrest h
        exact ⟨hfile, hobject, other, List.mem_cons_of_mem _ hother, hpre⟩
  | symlink name rest ih =>
      obtain ⟨hfile, hobject, other, hother, hpre⟩ := ih hparent hbelow.2 h
      exact ⟨hfile, hobject, other, List.mem_cons_of_mem _ hother, hpre⟩
  | directory name inside rest ihInside ih =>
      obtain ⟨_, _, hinside, hrest⟩ := hbelow
      rw [Entries.objectPaths, List.mem_append] at h
      rcases h with h | h
      · split at h
        · simp at h
        · next hreserved =>
            have hobject := (isReserved_eq_false_iff hparent name).1 (by simpa using hreserved)
            obtain ⟨hfile, hpath, other, _, hpre⟩ := ihInside (Or.inr hobject) hinside h
            exact ⟨hfile, hpath, name, List.mem_cons_self,
              (List.prefix_append _ _).trans hpre⟩
      · obtain ⟨hfile, hobject, other, hother, hpre⟩ := ih hparent hrest h
        exact ⟨hfile, hobject, other, List.mem_cons_of_mem _ hother, hpre⟩

theorem mem_objectPaths {entries : Entries} {parent rest : Path} {name : Segment} {inode : Nat}
    (hparent : parent = [] ∨ IsObjectPath parent) (hbelow : entries.Below fs parent)
    (hname : name ∈ entries.names)
    (hfile : fs.entries (parent ++ name :: rest) = some (.file inode))
    (hobject : IsObjectPath (parent ++ name :: rest)) :
    parent ++ name :: rest ∈ entries.objectPaths parent := by
  have hsplit : ∀ (parent rest : Path) (name : Segment),
      parent ++ name :: rest = (parent ++ [name]) ++ rest := fun _ _ _ => by
    rw [List.append_assoc, List.singleton_append]
  -- Something stands below the entry unless the path ends here.
  have hend : ∀ {parent rest : Path} {name : Segment},
      fs.entries (parent ++ name :: rest) = some (.file inode) →
        fs.entries (parent ++ [name]) ≠ some .directory → rest = [] := by
    intro parent rest name hfile hnode
    by_contra hne
    rw [hsplit] at hfile
    exact hnode (FileSystem.entries_of_append (by rw [hfile]; rfl) hne)
  have hfirst : ∀ {parent rest : Path} {name : Segment},
      parent = [] ∨ IsObjectPath parent → IsObjectPath (parent ++ name :: rest) →
        isReserved (parent ++ [name]) = false := by
    intro parent rest name hparent hobject
    rw [hsplit, isObjectPath_append (by simp)] at hobject
    exact (isReserved_eq_false_iff hparent name).2 hobject
  induction entries generalizing parent rest name with
  | nil => simp [Entries.names, Entries.list] at hname
  | file other node tail ih =>
      obtain ⟨hentry, htail⟩ := hbelow
      rw [Entries.objectPaths, List.mem_append]
      rcases List.mem_cons.1 hname with rfl | hname
      · obtain rfl := hend hfile (by rw [hentry]; simp)
        rw [if_neg (by simp [hfirst hparent hobject])]
        exact Or.inl List.mem_cons_self
      · exact Or.inr (ih hparent htail hname hfile hobject)
  | symlink other tail ih =>
      obtain ⟨hentry, htail⟩ := hbelow
      rcases List.mem_cons.1 hname with rfl | hname
      · obtain rfl := hend hfile (by rw [hentry]; simp)
        rw [hentry] at hfile
        cases hfile
      · exact ih hparent htail hname hfile hobject
  | directory other inside tail ihInside ih =>
      obtain ⟨hentry, hcomplete, hinside, htail⟩ := hbelow
      rw [Entries.objectPaths, List.mem_append]
      rcases List.mem_cons.1 hname with rfl | hname
      · have hreserved := hfirst hparent hobject
        rw [if_neg (by simp [hreserved])]
        cases rest with
        | nil =>
            rw [hentry] at hfile
            cases hfile
        | cons next rest =>
            have hdeeper := (isReserved_eq_false_iff hparent _).1 hreserved
            rw [hsplit parent (next :: rest) name] at hfile hobject ⊢
            refine Or.inl (ihInside (Or.inr hdeeper) hinside ?_ hfile hobject)
            refine hcomplete.all next ?_
            rw [Option.isSome_iff_ne_none]
            intro hnone
            have hgone := FileSystem.entries_append_of_none hnone rest
            rw [List.append_assoc, List.singleton_append, hfile] at hgone
            cases hgone
      · exact Or.inr (ih hparent htail hname hfile hobject)

theorem nodup_objectPaths {entries : Entries} {parent : Path}
    (hparent : parent = [] ∨ IsObjectPath parent) (hbelow : entries.Below fs parent)
    (hnodup : entries.names.Nodup) : (entries.objectPaths parent).Nodup := by
  -- A path starts with one name of the directory only.
  have hdisjoint : ∀ {parent path : Path} {name other : Segment},
      parent ++ [name] <+: path → parent ++ [other] <+: path → name = other := by
    rintro parent path name other ⟨rest, rfl⟩ ⟨rest', heq⟩
    rw [List.append_assoc, List.append_assoc, List.singleton_append, List.singleton_append] at heq
    exact (List.cons.inj (List.append_cancel_left heq)).1.symm
  induction entries generalizing parent with
  | nil => exact List.nodup_nil
  | file name inode rest ih =>
      obtain ⟨hfirst, hrest⟩ := List.nodup_cons.1 hnodup
      refine List.Nodup.append ?_ (ih hparent hbelow.2 hrest) fun path hpath hother => ?_
      · split
        · exact List.nodup_nil
        · exact List.nodup_singleton _
      · split at hpath
        · simp at hpath
        · obtain rfl := List.mem_singleton.1 hpath
          obtain ⟨_, _, other, hmem, hpre⟩ := of_mem_objectPaths hparent hbelow.2 hother
          exact hfirst (hdisjoint (List.prefix_refl _) hpre ▸ hmem)
  | symlink name rest ih => exact ih hparent hbelow.2 (List.nodup_cons.1 hnodup).2
  | directory name inside rest ihInside ih =>
      obtain ⟨_, hcomplete, hinside, htail⟩ := hbelow
      obtain ⟨hfirst, hrest⟩ := List.nodup_cons.1 hnodup
      refine List.Nodup.append ?_ (ih hparent htail hrest) fun path hpath hother => ?_
      · split
        · exact List.nodup_nil
        · next hreserved =>
            have hobject := (isReserved_eq_false_iff hparent name).1 (by simpa using hreserved)
            exact ihInside (Or.inr hobject) hinside hcomplete.nodup
      · split at hpath
        · simp at hpath
        · next hreserved =>
            have hobject := (isReserved_eq_false_iff hparent name).1 (by simpa using hreserved)
            obtain ⟨_, _, deeper, _, hdeeper⟩ := of_mem_objectPaths (Or.inr hobject) hinside hpath
            obtain ⟨_, _, other, hmem, hpre⟩ := of_mem_objectPaths hparent htail hother
            exact hfirst (hdisjoint ((List.prefix_append _ _).trans hdeeper) hpre ▸ hmem)

end

section

variable {fs : FileSystem} {found : Entries}

theorem Stored.exists_key (h : Stored fs found) {path : Path}
    (hpath : path ∈ found.objectPaths []) :
    pathFor (objectKey path) = .ok path := by
  obtain ⟨⟨inode, hfile⟩, hobject, _⟩ := of_mem_objectPaths (Or.inl rfl) h.below hpath
  obtain ⟨key, hkey⟩ := h.keyed path inode hfile hobject
  have hsame : objectKey path = key := objectKey_relativePathFor hkey
  rw [hsame, hkey]

/-- The keys that the walk finds are those that something is stored under. -/
theorem Stored.mem_storedKeys (h : Stored fs found) {key : Text} :
    key ∈ storedKeys found ↔
      ∃ path inode, pathFor key = .ok path ∧ fs.entries path = some (.file inode) := by
  constructor
  · intro hkey
    obtain ⟨path, hpath, rfl⟩ := List.mem_map.1 hkey
    obtain ⟨⟨inode, hfile⟩, _, _⟩ := of_mem_objectPaths (Or.inl rfl) h.below hpath
    exact ⟨path, inode, h.exists_key hpath, hfile⟩
  · rintro ⟨path, inode, hkey, hfile⟩
    have hobject := (relativePathFor_ok hkey).2
    refine List.mem_map.2 ⟨path, ?_, objectKey_relativePathFor hkey⟩
    obtain ⟨name, rest, rfl⟩ := List.exists_cons_of_ne_nil hobject.ne_nil
    refine mem_objectPaths (Or.inl rfl) h.below (h.complete.all name ?_) hfile hobject
    rw [List.nil_append, Option.isSome_iff_ne_none]
    intro hnone
    have hgone := FileSystem.entries_append_of_none hnone rest
    rw [List.singleton_append, hfile] at hgone
    cases hgone

theorem Stored.nodup_storedKeys (h : Stored fs found) : (storedKeys found).Nodup := by
  refine List.Nodup.map_on (fun path hpath other hother heq => ?_)
    (nodup_objectPaths (Or.inl rfl) h.below h.complete.nodup)
  have hsame := (h.exists_key hpath).symm.trans (heq ▸ h.exists_key hother)
  exact Except.ok.inj hsame

/-- The walk offers the keys to the heap one after the other. -/
theorem collectObjectKeys_eq (pre : Text) (cursor : Option Text) (capacity : Nat)
    (entries : Entries) (parent : Path) (keys : List Text) :
    collectObjectKeys pre cursor capacity parent entries keys =
      (((entries.objectPaths parent).map objectKey).filter (isListed pre cursor)).foldl
        (Smallest.keep capacity) keys := by
  induction entries generalizing parent keys with
  | nil => rfl
  | file name inode rest ih =>
      rw [collectObjectKeys, ih, Entries.objectPaths]
      cases isReserved (parent ++ [name]) with
      | true => rfl
      | false =>
          cases hlisted : isListed pre cursor (objectKey (parent ++ [name])) <;>
            simp [hlisted]
  | symlink name rest ih => exact ih parent keys
  | directory name inside rest ihInside ih =>
      rw [collectObjectKeys, ih, Entries.objectPaths]
      cases isReserved (parent ++ [name]) with
      | true => rfl
      | false => simp [ihInside]

/-- What is collected are the smallest keys that are listed. -/
theorem collectObjectKeys_nil (pre : Text) (cursor : Option Text) (capacity : Nat)
    (found : Entries) :
    collectObjectKeys pre cursor capacity [] found [] =
      (((storedKeys found).filter (isListed pre cursor)).insertionSort (· ≤ ·)).take capacity := by
  rw [collectObjectKeys_eq, Smallest.foldl_keep_nil]
  rfl

theorem ensureSafePath_run {path : Path} (hclear : Clear fs path)
    (hsymlink : fs.entries path ≠ some .symlink) (allowMissingFinal : Bool) :
    (ensureSafePath path allowMissingFinal).run fs = (.ok (), fs) :=
  Prod.ext (ensureSafePath_ok_iff.2 ⟨hclear, hsymlink⟩)
    ((readOnly_ensureSafePath _ _).run_snd fs)

theorem Stored.contentTypeFor_run (h : Stored fs found) {key : Text} {path : Path} {inode : Nat}
    (hkey : pathFor key = .ok path) (hfile : fs.entries path = some (.file inode)) :
    ∃ contentType, (contentTypeFor key).run fs = (.ok contentType, fs) := by
  have hpath : metadataPathFor key = .ok (metadataPath path) := by
    rw [metadataPathFor, show relativePathFor key = .ok path from hkey]
    rfl
  obtain ⟨hclear, hside⟩ := h.sidecar path inode hfile (relativePathFor_ok hkey).2
  rw [contentTypeFor, hpath, Program.run_bind_ok (Program.run_lift _ _)]
  rcases hside with hnone | ⟨side, contentType, hside, htext⟩
  · have hread : FileSystem.read (metadataPath path) fs = (.error .notFound, fs) := by
      rw [FileSystem.read, hnone]
    have hsafe := ensureSafePath_run hclear (by simp [hnone]) false
    refine ⟨none, ?_⟩
    rw [Program.run_bind_ok hsafe, Program.run_bind_ok (Program.run_ask _ _), hread]
    rfl
  · have hread : FileSystem.read (metadataPath path) fs = (.ok (fs.contents side), fs) := by
      rw [FileSystem.read, hside]
    have hsafe := ensureSafePath_run hclear (by simp [hside]) false
    refine ⟨some contentType, ?_⟩
    rw [Program.run_bind_ok hsafe, Program.run_bind_ok (Program.run_ask _ _), hread]
    dsimp only
    rw [htext]
    rfl

theorem Stored.objectMetadata_run (h : Stored fs found) {key : Text}
    (hkey : key ∈ storedKeys found) :
    ∃ object : ObjectMetadata, object.key = key ∧
      (objectMetadata key).run fs = (.ok object, fs) := by
  obtain ⟨path, inode, hpath, hfile⟩ := h.mem_storedKeys.1 hkey
  obtain ⟨contentType, hcontentType⟩ := h.contentTypeFor_run hpath hfile
  have hclear : Clear fs path := clear_of_isSome (by rw [hfile]; rfl)
  have hsafe := ensureSafePath_run hclear (by simp [hfile]) false
  have hfound : fileLength path fs = (.ok (fs.contents inode).length, fs) := by
    rw [fileLength, hfile]
  have hlength : (io (fileLength path) mapReadError).run fs =
      (.ok (fs.contents inode).length, fs) := by
    rw [io, Program.run_bind_ok (Program.run_ask _ _), hfound]
    rfl
  refine ⟨⟨key, (fs.contents inode).length, contentType⟩, rfl, ?_⟩
  rw [objectMetadata, hpath, Program.run_bind_ok (Program.run_lift _ _),
    Program.run_bind_ok hsafe, Program.run_bind_ok hlength, Program.run_bind_ok hcontentType]
  rfl

theorem Stored.objectMetadatas_run (h : Stored fs found) {keys : List Text}
    (hkeys : ∀ key ∈ keys, key ∈ storedKeys found) :
    ∃ objects : List ObjectMetadata, objects.map (·.key) = keys ∧
      (objectMetadatas keys).run fs = (.ok objects, fs) := by
  induction keys with
  | nil => exact ⟨[], rfl, rfl⟩
  | cons key keys ih =>
      obtain ⟨object, hobject, hrun⟩ := h.objectMetadata_run (hkeys key List.mem_cons_self)
      obtain ⟨objects, hobjects, hruns⟩ :=
        ih fun other hother => hkeys other (List.mem_cons_of_mem _ hother)
      refine ⟨object :: objects, by rw [List.map_cons, hobject, hobjects], ?_⟩
      rw [objectMetadatas, Program.run_bind_ok hrun, Program.run_bind_ok hruns]
      rfl

/-- The keys with a prefix, in the order of their bytes. -/
def keyListing (found : Entries) (pre : Text) : Keyset.Listing Text Text where
  entries := (storedKeys found).filter pre.isPrefixOf
  position := id

theorem Stored.lawful_keyListing (h : Stored fs found) (pre : Text) :
    (keyListing found pre).Lawful where
  nodup := h.nodup_storedKeys.filter _
  injective _ _ _ _ heq := heq

/-- What a page shows. -/
def ObjectPage.view (page : ObjectPage) : List Text × Option Text :=
  (page.objects.map (·.key), page.nextCursor)

theorem window_keyListing (found : Entries) (pre : Text) (cursor : Option Text) (limit : Nat) :
    (keyListing found pre).window limit (fun key => cursor.all (· < key)) =
      collectObjectKeys pre cursor (limit + 1) [] found [] := by
  have hfilter : ((storedKeys found).filter pre.isPrefixOf).filter
      (fun key => cursor.all (· < key)) = (storedKeys found).filter (isListed pre cursor) := by
    rw [List.filter_filter]
    refine List.filter_congr fun key _ => ?_
    rw [isListed, Bool.and_comm]
  rw [collectObjectKeys_nil, Keyset.Listing.window]
  show (List.insertionSort _ (((storedKeys found).filter pre.isPrefixOf).filter _)).take _ = _
  rw [hfilter]
  rfl

theorem Stored.listSync_run (h : Stored fs found) {pre : Text} {cursor : Option Text} {limit : Nat}
    (hlimit : 0 < limit) (hmost : limit ≤ 1000) (hpre : checkPrefix pre = .ok ())
    (hcursor : checkCursor pre cursor = .ok ()) :
    ∃ page : ObjectPage, (listSync found pre cursor limit).run fs = (.ok page, fs) ∧
      page.view = (keyListing found pre).page limit (fun key => cursor.all (· < key)) := by
  have hwindow := window_keyListing found pre cursor limit
  have hkeys : ∀ key ∈ (collectObjectKeys pre cursor (limit + 1) [] found []).take limit,
      key ∈ storedKeys found := by
    intro key hkey
    rw [collectObjectKeys_nil] at hkey
    have hmem := (List.mem_insertionSort _).1 (List.mem_of_mem_take (List.mem_of_mem_take hkey))
    exact (List.mem_filter.1 hmem).1
  obtain ⟨objects, hobjects, hruns⟩ := h.objectMetadatas_run hkeys
  have hnil : (ensureSafePath [] false).run fs = (.ok (), fs) :=
    ensureSafePath_run (clear_of_isSome (by rw [fs.rooted]; rfl)) (by rw [fs.rooted]; simp) false
  have hbounds : ¬ (limit = 0 ∨ 1000 < limit) := by omega
  refine ⟨⟨objects, if limit < (collectObjectKeys pre cursor (limit + 1) [] found []).length then
    objects.getLast?.map (·.key) else none⟩, ?_, ?_⟩
  · rw [listSync, if_neg hbounds, hpre, hcursor]
    rw [Program.run_bind_ok (rfl : (Program.ok () : Store Unit).run fs = (.ok (), fs)),
      Program.run_bind_ok (Program.run_lift _ _), Program.run_bind_ok (Program.run_lift _ _),
      Program.run_bind_ok hnil, Program.run_bind_ok hruns]
    simp only [decide_eq_true_eq]
    rfl
  · rw [ObjectPage.view, Keyset.Listing.page, hwindow]
    dsimp only
    rw [hobjects, ← List.getLast?_map, hobjects]

/-- The keys that are left to show after a cursor, in order. -/
def remaining (found : Entries) (pre : Text) (cursor : Option Text) : List Text :=
  ((storedKeys found).filter (isListed pre cursor)).insertionSort (· ≤ ·)

theorem page_keyListing (found : Entries) (pre : Text) (cursor : Option Text) (limit : Nat) :
    (keyListing found pre).page limit (fun key => cursor.all (· < key)) =
      ((remaining found pre cursor).take limit,
        if limit < (remaining found pre cursor).length then
          ((remaining found pre cursor).take limit).getLast? else none) := by
  have htake : ((remaining found pre cursor).take (limit + 1)).take limit =
      (remaining found pre cursor).take limit := by
    rw [List.take_take, Nat.min_eq_left (Nat.le_succ limit)]
  have hmore : limit < ((remaining found pre cursor).take (limit + 1)).length ↔
      limit < (remaining found pre cursor).length := by
    rw [List.length_take]
    omega
  have hkeys : collectObjectKeys pre cursor (limit + 1) [] found [] =
      (remaining found pre cursor).take (limit + 1) := collectObjectKeys_nil _ _ _ _
  rw [Keyset.Listing.page, window_keyListing, hkeys]
  simp only [htake, hmore]

theorem Stored.checkCursor_ok (h : Stored fs found) {pre : Text} {cursor : Option Text}
    (hcursor : ∀ last ∈ cursor, last ∈ storedKeys found ∧ pre.isPrefixOf last = true) :
    checkCursor pre cursor = .ok () := by
  cases cursor with
  | none => rfl
  | some last =>
      obtain ⟨hmem, hpre⟩ := hcursor last rfl
      obtain ⟨path, _, hpath, _⟩ := h.mem_storedKeys.1 hmem
      rw [checkCursor, show relativePathFor last = .ok path from hpath]
      exact if_pos hpre

/-- How the keys of the next page are fetched. -/
def fetchKeys (fs : FileSystem) (found : Entries) (pre : Text) (limit : Nat)
    (cursor : Option Text) : Except ObjectStoreError (List Text × Option Text) :=
  ((listSync found pre cursor limit).run fs).1.map ObjectPage.view

theorem Stored.serves (h : Stored fs found) {pre : Text} {limit : Nat} (hlimit : 0 < limit)
    (hmost : limit ≤ 1000) (hpre : checkPrefix pre = .ok ()) :
    Keyset.Serves (keyListing found pre) limit (fetchKeys fs found pre limit) Prod.snd id id where
  next_render _ _ := by simp
  fetch_eq last hlast := by
    refine ⟨fun key => last.all (· < key), fun key _ => by cases last <;> simp [keyListing], ?_⟩
    have hcursor : ∀ key ∈ last, key ∈ storedKeys found ∧ pre.isPrefixOf key = true :=
      fun key hkey => List.mem_filter.1 (hlast key hkey)
    obtain ⟨page, hrun, hview⟩ := h.listSync_run hlimit hmost hpre (h.checkCursor_ok hcursor)
    rw [Option.map_id, fetchKeys, id, hrun]
    exact congrArg Except.ok hview

/-- The pages are complete for the prefixes that are paths. -/
theorem listSync_complete (h : Stored fs found) {limit : Nat} (hlimit : 0 < limit)
    (hmost : limit ≤ 1000) (pre : Text) :
    (∀ key, key ∈ storedKeys found ↔
      ∃ path inode, pathFor key = .ok path ∧ fs.entries path = some (.file inode)) ∧
    (storedKeys found).Nodup ∧
    (checkPrefix pre = .ok () →
      (∀ cursor, (∀ last ∈ cursor, last ∈ storedKeys found ∧ pre.isPrefixOf last = true) →
        ∃ page : ObjectPage, (listSync found pre cursor limit).run fs = (.ok page, fs) ∧
          page.objects.map (·.key) = (remaining found pre cursor).take limit ∧
          page.nextCursor = if limit < (remaining found pre cursor).length then
            ((remaining found pre cursor).take limit).getLast? else none) ∧
      ∃ pages, Keyset.Follows (fetchKeys fs found pre limit) Prod.snd none pages ∧
        (pages.map (·.1)).flatten = remaining found pre none) ∧
    ∀ error, checkPrefix pre = .error error →
      ∀ cursor, (listSync found pre cursor limit).run fs = (.error error, fs) := by
  refine ⟨fun _ => h.mem_storedKeys, h.nodup_storedKeys, fun hpre => ⟨fun cursor hcursor => ?_, ?_⟩,
    fun error herror cursor => ?_⟩
  · obtain ⟨page, hrun, hview⟩ := h.listSync_run hlimit hmost hpre (h.checkCursor_ok hcursor)
    rw [page_keyListing, ObjectPage.view, Prod.mk.injEq] at hview
    exact ⟨page, hrun, hview⟩
  · obtain ⟨pages, hfollows, hflatten⟩ :=
      (h.serves hlimit hmost hpre).follows (h.lawful_keyListing pre) hlimit
    have hall : isListed pre none = pre.isPrefixOf := by
      funext key
      simp [isListed]
    refine ⟨pages, by rwa [List.map_id] at hfollows, ?_⟩
    rw [hflatten, remaining, hall]
    rfl
  · have hbounds : ¬ (limit = 0 ∨ 1000 < limit) := by omega
    rw [listSync, if_neg hbounds, herror,
      Program.run_bind_ok (rfl : (Program.ok () : Store Unit).run fs = (.ok (), fs)),
      Program.run_bind_error (Program.run_lift _ _)]

end

namespace ThreeFiles

def segment (name : String) : Segment := .name name.toList

def files : List Path :=
  [[segment "foo.txt"], [segment "a", segment "d.txt"], [segment "b.txt"]]

def nodes : List (Path × Node) :=
  [([], .directory), ([segment "a"], .directory), ([segment "foo.txt"], .file 0),
    ([segment "a", segment "d.txt"], .file 1), ([segment "b.txt"], .file 2)]

def entries (path : Path) : Option Node := (nodes.find? (·.1 = path)).map (·.2)

theorem mem_nodes {path : Path} {node : Node} (h : entries path = some node) :
    (path, node) ∈ nodes := by
  obtain ⟨entry, hfind, rfl⟩ := Option.map_eq_some_iff.1 h
  have hpath := List.find?_some hfind
  obtain rfl : entry.1 = path := of_decide_eq_true hpath
  exact List.mem_of_find?_eq_some hfind

theorem closed (path : Path) (segment : Segment) (h : (entries (path ++ [segment])).isSome) :
    entries path = some .directory := by
  have hparents : ∀ entry ∈ nodes, entry.1 ≠ [] → entries entry.1.dropLast = some .directory := by
    decide +kernel
  obtain ⟨node, hnode⟩ := Option.isSome_iff_exists.1 h
  simpa using hparents _ (mem_nodes hnode) (by simp)

def fs : FileSystem where
  entries := entries
  contents _ := []
  rooted := by rfl
  closed := closed

def found : Entries :=
  .file (segment "foo.txt") 0 (.directory (segment "a") (.file (segment "d.txt") 1 .nil)
    (.file (segment "b.txt") 2 .nil))

theorem mem_files {path : Path} {inode : Nat} (h : fs.entries path = some (.file inode)) :
    path ∈ files := by
  have hmem := mem_nodes h
  simp only [nodes, List.mem_cons, Prod.mk.injEq, reduceCtorEq, and_false, false_or,
    List.not_mem_nil, or_false] at hmem
  rcases hmem with ⟨rfl, -⟩ | ⟨rfl, -⟩ | ⟨rfl, -⟩ <;> simp [files]

theorem stored : Stored fs found where
  complete := by
    refine ⟨by decide +kernel, fun name hname => ?_⟩
    obtain ⟨node, hnode⟩ := Option.isSome_iff_exists.1 hname
    have hlisted : ∀ entry ∈ nodes, entry.1.length = 1 →
        ∃ name ∈ found.names, entry.1 = [name] := by decide +kernel
    obtain ⟨other, hother, heq⟩ := hlisted _ (mem_nodes hnode) rfl
    rwa [(List.cons.inj heq).1]
  below := by
    refine ⟨rfl, rfl, ⟨by decide +kernel, fun name hname => ?_⟩, ⟨rfl, trivial⟩, rfl, trivial⟩
    obtain ⟨node, hnode⟩ := Option.isSome_iff_exists.1 hname
    have hlisted : ∀ entry ∈ nodes, entry.1.length = 2 →
        entry.1 = [segment "a", segment "d.txt"] := by decide +kernel
    have heq := hlisted _ (mem_nodes hnode) rfl
    obtain rfl := (List.cons.inj (List.cons.inj heq).2).1
    exact List.mem_cons_self
  keyed path inode hfile _ := by
    have hkeys : ∀ path ∈ files, pathFor (objectKey path) = .ok path := by decide +kernel
    exact ⟨_, hkeys path (mem_files hfile)⟩
  sidecar path inode hfile _ := by
    have houtside : ∀ entry ∈ nodes, entry.1.head? ≠ some (.name metadataDirectory) := by
      decide +kernel
    have hnone : ∀ rest : Path, fs.entries (.name metadataDirectory :: rest) = none := by
      intro rest
      by_contra hsome
      obtain ⟨node, hnode⟩ := Option.ne_none_iff_exists'.1 hsome
      have hentries : entries (.name metadataDirectory :: rest) = some node := hnode
      exact houtside _ (mem_nodes hentries) rfl
    refine ⟨fun front back happend _ => ?_, Or.inl (hnone path)⟩
    cases front with
    | nil => exact Or.inr fs.rooted
    | cons first front =>
        obtain rfl : first = .name metadataDirectory := (List.cons.inj happend).1
        exact Or.inl (hnone front)

end ThreeFiles

/-- The prefix of a stored key need not be a path itself. -/
theorem listSync_prefix_refused :
    Stored ThreeFiles.fs ThreeFiles.found ∧ "foo.txt".toList ∈ storedKeys ThreeFiles.found ∧
      "foo.".toList <+: "foo.txt".toList ∧
      ((listSync ThreeFiles.found "foo.".toList none 1000).run ThreeFiles.fs).1 =
        .error (.unavailable "storage key contains an invalid or reserved component") :=
  ⟨ThreeFiles.stored, by decide +kernel, by decide, by rfl⟩

/-- The first file that the walk reaches has the last of the keys. -/
theorem listSync_complete_threeFiles :
    ∃ first second : ObjectPage,
      (listSync ThreeFiles.found [] none 1).run ThreeFiles.fs = (.ok first, ThreeFiles.fs) ∧
        first.objects.map (·.key) = ["a/d.txt".toList] ∧
        first.nextCursor = some "a/d.txt".toList ∧
      (listSync ThreeFiles.found [] (some "a/d.txt".toList) 1).run ThreeFiles.fs =
          (.ok second, ThreeFiles.fs) ∧
        second.objects.map (·.key) = ["b.txt".toList] ∧
        second.nextCursor = some "b.txt".toList := by
  have hpages := ((listSync_complete ThreeFiles.stored Nat.one_pos (by decide) []).2.2.1 rfl).1
  obtain ⟨first, hfirst, hkeys, hcursor⟩ := hpages none (by simp)
  obtain ⟨second, hsecond, hkeys', hcursor'⟩ := hpages (some "a/d.txt".toList) (by decide +kernel)
  have hremaining : remaining ThreeFiles.found [] none =
      ["a/d.txt".toList, "b.txt".toList, "foo.txt".toList] := by decide +kernel
  have hremaining' : remaining ThreeFiles.found [] (some "a/d.txt".toList) =
      ["b.txt".toList, "foo.txt".toList] := by decide +kernel
  rw [hremaining] at hkeys hcursor
  rw [hremaining'] at hkeys' hcursor'
  exact ⟨first, second, hfirst, hkeys, hcursor, hsecond, hkeys', hcursor'⟩

end MediaHub.Local
