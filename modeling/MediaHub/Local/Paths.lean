import MediaHub.Local.ObjectStore

namespace MediaHub.Local

open Calls FileSystem

/-- A path outside the directories of the store itself. -/
def IsObjectPath (path : Path) : Prop :=
  path.head? ≠ none ∧ path.head? ≠ some (.name metadataDirectory) ∧
    path.head? ≠ some (.name stagingDirectory)

theorem IsObjectPath.ne_nil {path : Path} (h : IsObjectPath path) : path ≠ [] := by
  rintro rfl
  exact h.1 rfl

theorem pathSegments_ok_iff {segments : List Text} {index : Nat} {path : Path} :
    pathSegments segments index = .ok path ↔
      path = segments.map .name ∧
        ∀ i segment, segments[i]? = some segment →
          isInvalidSegment (index + i) segment = false := by
  induction segments generalizing index path with
  | nil =>
      rw [pathSegments]
      constructor
      · intro h
        cases h
        exact ⟨rfl, fun i segment hsegment => by simp at hsegment⟩
      · rintro ⟨rfl, _⟩
        rfl
  | cons segment rest ih =>
      rw [pathSegments]
      constructor
      · intro h
        split at h
        · cases h
        · next hvalid =>
            cases hrest : pathSegments rest (index + 1) with
            | error error =>
                rw [hrest] at h
                cases h
            | ok tail =>
                rw [hrest] at h
                cases h
                obtain ⟨rfl, hall⟩ := ih.1 hrest
                refine ⟨rfl, fun i other hother => ?_⟩
                cases i with
                | zero =>
                    obtain rfl := Option.some.inj hother
                    simpa using hvalid
                | succ i =>
                    have hnext := hall i other hother
                    rwa [Nat.add_assoc, Nat.add_comm 1] at hnext
      · rintro ⟨rfl, hall⟩
        have hfirst := hall 0 segment rfl
        have hrest : pathSegments rest (index + 1) = .ok (rest.map .name) := by
          refine ih.2 ⟨rfl, fun i other hother => ?_⟩
          have hnext := hall (i + 1) other hother
          rwa [Nat.add_assoc, Nat.add_comm 1]
        rw [Nat.add_zero] at hfirst
        rw [if_neg (by simp [hfirst]), hrest]
        rfl

/-- The first segment is none of the directories of the store itself. -/
theorem pathSegments_ok {segments : List Text} {path : Path}
    (h : pathSegments segments 0 = .ok path) :
    path = segments.map .name ∧ ∀ first ∈ segments.head?,
      eqIgnoreAsciiCase first metadataDirectory = false ∧
        eqIgnoreAsciiCase first stagingDirectory = false := by
  obtain ⟨rfl, hvalid⟩ := pathSegments_ok_iff.1 h
  refine ⟨rfl, fun first hfirst => ?_⟩
  have hfirst' := hvalid 0 first (by rwa [← List.head?_eq_getElem?])
  simp only [isInvalidSegment, Nat.add_zero, decide_true, Bool.true_and, Bool.or_eq_false_iff]
    at hfirst'
  exact hfirst'.1.2

theorem relativePathFor_ok {key : Text} {path : Path} (h : relativePathFor key = .ok path) :
    path = (key.splitOn '/').map .name ∧ IsObjectPath path := by
  unfold relativePathFor at h
  split at h
  · cases h
  · split at h
    · cases h
    · obtain ⟨hpath, hreserved⟩ := pathSegments_ok h
      refine ⟨hpath, ?_⟩
      cases hsegments : key.splitOn '/' with
      | nil => exact absurd hsegments (List.splitOn_ne_nil _ _)
      | cons first rest =>
          rw [hsegments] at hpath hreserved
          obtain ⟨hmetadata, hstaging⟩ := hreserved first rfl
          rw [hpath]
          refine ⟨by simp, ?_, ?_⟩
          · intro heq
            cases Segment.name.inj (Option.some.inj heq)
            exact absurd hmetadata (by decide)
          · intro heq
            cases Segment.name.inj (Option.some.inj heq)
            exact absurd hstaging (by decide)

theorem relativePathFor_injective {key key' : Text} {path : Path}
    (h : relativePathFor key = .ok path) (h' : relativePathFor key' = .ok path) : key = key' := by
  have hnames : Function.Injective Segment.name := fun _ _ heq => Segment.name.inj heq
  have hsplit := (relativePathFor_ok h).1.symm.trans (relativePathFor_ok h').1
  have hsame := List.map_injective_iff.2 hnames hsplit
  calc key
      = ['/'].intercalate (key.splitOn '/') := (List.intercalate_splitOn '/').symm
    _ = ['/'].intercalate (key'.splitOn '/') := by rw [hsame]
    _ = key' := List.intercalate_splitOn '/'

theorem FileSystem.entries_append_of_none {fs : FileSystem} {path : Path}
    (h : fs.entries path = none) (back : Path) : fs.entries (path ++ back) = none := by
  induction back using List.reverseRecOn with
  | nil => rwa [List.append_nil]
  | append_singleton front segment ih =>
      by_contra hsome
      rw [← List.append_assoc] at hsome
      have hdirectory := fs.closed _ _ (Option.isSome_iff_ne_none.2 hsome)
      rw [ih] at hdirectory
      cases hdirectory

/-- What holds an entry is a directory. -/
theorem FileSystem.entries_of_append {fs : FileSystem} {front back : Path}
    (h : (fs.entries (front ++ back)).isSome) (hback : back ≠ []) :
    fs.entries front = some .directory := by
  obtain ⟨segment, rest, rfl⟩ := List.exists_cons_of_ne_nil hback
  refine fs.closed front segment ?_
  rw [Option.isSome_iff_ne_none] at h ⊢
  intro hnone
  rw [← List.singleton_append, ← List.append_assoc] at h
  exact h (entries_append_of_none hnone rest)

/-- Nothing above the path is in its way. -/
def Clear (fs : FileSystem) (path : Path) : Prop :=
  ∀ front back, front ++ back = path → back ≠ [] →
    fs.entries front = none ∨ fs.entries front = some .directory

theorem clear_of_isSome {fs : FileSystem} {path : Path} (h : (fs.entries path).isSome) :
    Clear fs path := by
  rintro front back rfl hback
  exact Or.inr (entries_of_append h hback)

theorem readOnly_ensureSafeFrom (current : Path) (components : List Segment)
    (allowMissingFinal : Bool) :
    (ensureSafeFrom current components allowMissingFinal).ReadOnly := by
  induction components generalizing current with
  | nil => trivial
  | cons value rest ih =>
      refine (Program.readOnly_ask fun fs => ?_).bind ?_
      · unfold symlinkMetadata
        split <;> rfl
      · intro reply
        split
        · trivial
        · split
          · trivial
          · exact ih _
        · split
          · exact ih _
          · trivial
        · trivial

/-- The components of a safe path, one after the other. -/
theorem ensureSafeFrom_ok_iff {fs : FileSystem} {current : Path} {components : List Segment}
    {allowMissingFinal : Bool} :
    ((ensureSafeFrom current components allowMissingFinal).run fs).1 = .ok () ↔
      (∀ front back, front ++ back = components → front ≠ [] → back ≠ [] →
        fs.entries (current ++ front) = none ∨
          fs.entries (current ++ front) = some .directory) ∧
        (components ≠ [] → fs.entries (current ++ components) ≠ some .symlink) := by
  induction components generalizing current with
  | nil =>
      refine iff_of_true rfl ⟨?_, fun h => absurd rfl h⟩
      intro front back happend hfront
      exact absurd (List.append_eq_nil_iff.1 happend).1 hfront
  | cons value rest ih =>
      have hrun : ((ensureSafeFrom current (value :: rest) allowMissingFinal).run fs).1 = .ok () ↔
          (fs.entries (current ++ [value]) = none ∨
            fs.entries (current ++ [value]) ≠ some .symlink ∧
            (rest ≠ [] → fs.entries (current ++ [value]) = some .directory) ∧
            ((ensureSafeFrom (current ++ [value]) rest allowMissingFinal).run fs).1 = .ok ()) := by
        rw [ensureSafeFrom, Program.run_bind, Program.run_ask]
        cases hentry : fs.entries (current ++ [value]) with
        | none => cases rest <;> cases allowMissingFinal <;> simp [symlinkMetadata, hentry,
            ensureSafeFrom, Program.run]
        | some node =>
            cases node <;> cases rest <;>
              simp [symlinkMetadata, hentry, ensureSafeFrom, Program.run]
      rw [hrun, ih]
      constructor
      · rintro (hnone | ⟨hsymlink, hdirectory, hrest, hlast⟩)
        · have hbelow : ∀ back, fs.entries (current ++ value :: back) = none := by
            intro back
            have hnone' := entries_append_of_none hnone back
            rwa [List.append_assoc, List.singleton_append] at hnone'
          refine ⟨?_, fun _ => by rw [hbelow]; simp⟩
          intro front back happend hfront _
          obtain ⟨first, tail, rfl⟩ := List.exists_cons_of_ne_nil hfront
          cases (List.cons.inj happend).1
          exact Or.inl (hbelow tail)
        · refine ⟨?_, fun _ => ?_⟩
          · intro front back happend hfront hback
            obtain ⟨first, tail, rfl⟩ := List.exists_cons_of_ne_nil hfront
            obtain ⟨rfl, htail⟩ := List.cons.inj happend
            by_cases hnil : tail = []
            · rw [hnil] at htail ⊢
              exact Or.inr (hdirectory (htail ▸ hback))
            · have hentry := hrest tail back htail hnil hback
              rwa [List.append_assoc, List.singleton_append] at hentry
          · by_cases hnil : rest = []
            · rwa [hnil]
            · have hentry := hlast hnil
              rwa [List.append_assoc, List.singleton_append] at hentry
      · rintro ⟨hclear, hlast⟩
        by_cases hnone : fs.entries (current ++ [value]) = none
        · exact Or.inl hnone
        · refine Or.inr ⟨?_, ?_, ?_, ?_⟩
          · by_cases hnil : rest = []
            · have hentry := hlast (by simp)
              rwa [hnil] at hentry
            · rcases hclear [value] rest rfl (by simp) hnil with h | h
              · exact absurd h hnone
              · rw [h]
                simp
          · intro hnil
            exact (hclear [value] rest rfl (by simp) hnil).resolve_left hnone
          · intro front back happend _ hback
            have hentry := hclear (value :: front) back (by rw [← happend]; rfl) (by simp) hback
            rwa [List.append_assoc, List.singleton_append]
          · intro _
            have hentry := hlast (by simp)
            rwa [List.append_assoc, List.singleton_append]

theorem readOnly_ensureSafePath (path : Path) (allowMissingFinal : Bool) :
    (ensureSafePath path allowMissingFinal).ReadOnly :=
  readOnly_ensureSafeFrom [] path allowMissingFinal

theorem ensureSafePath_ok_iff {fs : FileSystem} {path : Path} {allowMissingFinal : Bool} :
    ((ensureSafePath path allowMissingFinal).run fs).1 = .ok () ↔
      Clear fs path ∧ fs.entries path ≠ some .symlink := by
  rw [ensureSafePath, ensureSafeFrom_ok_iff]
  simp only [List.nil_append]
  constructor
  · rintro ⟨hclear, hlast⟩
    refine ⟨fun front back happend hback => ?_, ?_⟩
    · by_cases hnil : front = []
      · exact Or.inr (hnil ▸ fs.rooted)
      · exact hclear front back happend hnil hback
    · by_cases hnil : path = []
      · rw [hnil, fs.rooted]
        simp
      · exact hlast hnil
  · rintro ⟨hclear, hlast⟩
    exact ⟨fun front back happend _ hback => hclear front back happend hback, fun _ => hlast⟩

end MediaHub.Local
