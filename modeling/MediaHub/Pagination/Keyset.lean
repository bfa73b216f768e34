import Mathlib.Data.List.Sort

/-!
Lists that are read a page at a time, each page after the last entry of the one before it.
-/

namespace Keyset

universe u v w x

/-- Entries are read in the order of their positions. -/
structure Listing (α : Type u) (κ : Type v) where
  entries : List α
  position : α → κ

namespace Listing

variable {α : Type u} {κ : Type v} [LinearOrder κ] (L : Listing α κ)

def sorted : List α := L.entries.insertionSort fun a b => L.position a ≤ L.position b

/-- `SELECT ... WHERE admits ORDER BY position LIMIT limit + 1` -/
def window (limit : Nat) (admits : α → Bool) : List α :=
  ((L.entries.filter admits).insertionSort fun a b => L.position a ≤ L.position b).take (limit + 1)

/-- The rows of a page, and the last of them if there are more to come. -/
def page (limit : Nat) (admits : α → Bool) : List α × Option α :=
  let rows := L.window limit admits
  (rows.take limit, if limit < rows.length then (rows.take limit).getLast? else none)

/-- No two entries have one position. -/
structure Lawful : Prop where
  nodup : L.entries.Nodup
  injective : ∀ a ∈ L.entries, ∀ b ∈ L.entries, L.position a = L.position b → a = b

theorem mem_sorted {a : α} : a ∈ L.sorted ↔ a ∈ L.entries := List.mem_insertionSort _

variable {L}

theorem mem_of_mem_page {limit : Nat} {admits : α → Bool} {a : α}
    (h : a ∈ (L.page limit admits).1) : a ∈ L.entries :=
  (List.mem_filter.1 ((List.mem_insertionSort _).1
    (List.mem_of_mem_take (List.mem_of_mem_take h)))).1

theorem pairwise_insertionSort (l : List α) :
    (l.insertionSort fun a b => L.position a ≤ L.position b).Pairwise
      fun a b => L.position a ≤ L.position b := by
  have htotal : Std.Total fun a b => L.position a ≤ L.position b :=
    ⟨fun a b => le_total (L.position a) (L.position b)⟩
  have htrans : IsTrans α fun a b => L.position a ≤ L.position b :=
    ⟨fun _ _ _ hab hbc => le_trans hab hbc⟩
  exact List.pairwise_insertionSort _ l

theorem Lawful.pairwise_sorted (h : L.Lawful) :
    L.sorted.Pairwise fun a b => L.position a < L.position b := by
  have hnodup : L.sorted.Nodup := (List.perm_insertionSort _ _).nodup_iff.2 h.nodup
  have hboth : L.sorted.Pairwise fun a b => a ≠ b ∧ L.position a ≤ L.position b :=
    List.Pairwise.and hnodup (pairwise_insertionSort L.entries)
  refine hboth.imp_of_mem ?_
  intro a b ha hb hab
  refine lt_of_le_of_ne hab.2 fun heq => hab.1 ?_
  exact h.injective a (L.mem_sorted.1 ha) b (L.mem_sorted.1 hb) heq

/-- Sorting what is admitted is admitting what is sorted. -/
theorem Lawful.insertionSort_filter (h : L.Lawful) (admits : α → Bool) :
    (L.entries.filter admits).insertionSort (fun a b => L.position a ≤ L.position b) =
      L.sorted.filter admits := by
  have hperm : ((L.entries.filter admits).insertionSort
      fun a b => L.position a ≤ L.position b).Perm (L.sorted.filter admits) :=
    (List.perm_insertionSort _ _).trans ((List.perm_insertionSort _ _).symm.filter admits)
  refine hperm.eq_of_pairwise ?_ (pairwise_insertionSort _) ?_
  · intro a b ha hb hab hba
    have ha' := (List.mem_filter.1 ((List.mem_insertionSort _).1 ha)).1
    have hb' := L.mem_sorted.1 (List.mem_filter.1 hb).1
    exact h.injective a ha' b hb' (le_antisymm hab hba)
  · exact (pairwise_insertionSort L.entries).filter admits

/-- What lies after an entry is the rest of the list. -/
theorem Lawful.filter_after (h : L.Lawful) {front rest : List α}
    (hsorted : L.sorted = front ++ rest) {admits : α → Bool}
    (hadmits : ∀ b ∈ L.entries,
      admits b = true ↔ ∀ a ∈ front.getLast?, L.position a < L.position b) :
    L.sorted.filter admits = rest := by
  have hpairwise := h.pairwise_sorted
  have hmem : ∀ a ∈ front ++ rest, a ∈ L.entries := fun a ha => L.mem_sorted.1 (hsorted ▸ ha)
  rw [hsorted] at hpairwise ⊢
  obtain ⟨hfront, _, hcross⟩ := List.pairwise_append.1 hpairwise
  have hrest : rest.filter admits = rest := by
    rw [List.filter_eq_self]
    intro b hb
    refine (hadmits b (hmem b (List.mem_append_right _ hb))).2 fun a ha => ?_
    exact hcross a (List.mem_of_getLast? ha) b hb
  have hnone : front.filter admits = [] := by
    rw [List.filter_eq_nil_iff]
    intro b hb hadmitted
    rcases List.eq_nil_or_concat' front with rfl | ⟨init, last, rfl⟩
    · exact absurd hb List.not_mem_nil
    · have hlast := (hadmits b (hmem b (List.mem_append_left _ hb))).1 hadmitted last (by simp)
      rcases List.mem_append.1 hb with hinit | hsingle
      · exact lt_asymm hlast ((List.pairwise_append.1 hfront).2.2 b hinit last (by simp))
      · rw [List.mem_singleton.1 hsingle] at hlast
        exact lt_irrefl _ hlast
  rw [List.filter_append, hnone, hrest, List.nil_append]

theorem Lawful.page_eq (h : L.Lawful) {front rest : List α} (hsorted : L.sorted = front ++ rest)
    {admits : α → Bool} (hadmits : ∀ b ∈ L.entries,
      admits b = true ↔ ∀ a ∈ front.getLast?, L.position a < L.position b) (limit : Nat) :
    L.page limit admits =
      (rest.take limit, if limit < rest.length then (rest.take limit).getLast? else none) := by
  have hwindow : L.window limit admits = rest.take (limit + 1) := by
    rw [window, h.insertionSort_filter, h.filter_after hsorted hadmits]
  have htake : (rest.take (limit + 1)).take limit = rest.take limit := by
    rw [List.take_take, Nat.min_eq_left (Nat.le_succ limit)]
  have hmore : limit < (rest.take (limit + 1)).length ↔ limit < rest.length := by
    rw [List.length_take]
    omega
  simp only [page, hwindow, htake, hmore]

end Listing

section Follow

variable {μ : Type w} {π : Type x} {ε : Type*}

/-- The pages from a marker on, each fetched after the marker of the one before it, to the first
that names no marker. -/
inductive Follows (fetch : Option μ → Except ε π) (next : π → Option μ) :
    Option μ → List π → Prop
  | last {start : Option μ} {page : π} (fetched : fetch start = .ok page)
      (done : next page = none) : Follows fetch next start [page]
  | more {start : Option μ} {page : π} {marker : μ} {rest : List π}
      (fetched : fetch start = .ok page) (marked : next page = some marker)
      (follows : Follows fetch next (some marker) rest) : Follows fetch next start (page :: rest)

theorem Follows.unique {fetch : Option μ → Except ε π} {next : π → Option μ} {start : Option μ}
    {pages pages' : List π} (h : Follows fetch next start pages)
    (h' : Follows fetch next start pages') : pages = pages' := by
  induction h generalizing pages' with
  | last fetched done =>
      cases h' with
      | last fetched' => rw [Except.ok.inj (fetched.symm.trans fetched')]
      | more fetched' marked' =>
          cases Except.ok.inj (fetched.symm.trans fetched')
          cases done.symm.trans marked'
  | more fetched marked _ ih =>
      cases h' with
      | last fetched' done' =>
          cases Except.ok.inj (fetched.symm.trans fetched')
          cases done'.symm.trans marked
      | more fetched' marked' follows' =>
          cases Except.ok.inj (fetched.symm.trans fetched')
          cases marked.symm.trans marked'
          rw [ih follows']

theorem Follows.of_fetch {ε' : Type*} {fetch : Option μ → Except ε π}
    {fetch' : Option μ → Except ε' π} {next : π → Option μ} {start : Option μ} {pages : List π}
    (h : Follows fetch next start pages)
    (hfetch : ∀ start page, fetch start = .ok page → fetch' start = .ok page) :
    Follows fetch' next start pages := by
  induction h with
  | last fetched done => exact .last (hfetch _ _ fetched) done
  | more fetched marked _ ih => exact .more (hfetch _ _ fetched) marked ih

/-- The loop that takes page after page into a state, until one names no marker; `none` where the
fuel does not last. -/
def foldPages {σ : Type*} (fetch : Option μ → Except ε π) (next : π → Option μ)
    (take : σ → π → Except ε σ) : Nat → Option μ → σ → Option (Except ε σ)
  | 0, _, _ => none
  | fuel + 1, start, state =>
      match fetch start with
      | .error e => some (.error e)
      | .ok page =>
          match take state page with
          | .error e => some (.error e)
          | .ok state =>
              match next page with
              | none => some (.ok state)
              | some marker => foldPages fetch next take fuel (some marker) state

/-- Following the markers takes the pages one by one. -/
theorem Follows.foldPages_eq {σ : Type*} {fetch : Option μ → Except ε π} {next : π → Option μ}
    {start : Option μ} {pages : List π} (h : Follows fetch next start pages)
    (take : σ → π → Except ε σ) (state : σ) (more : Nat) :
    foldPages fetch next take (pages.length + more) start state =
      some (pages.foldlM take state) := by
  induction h generalizing state with
  | @last start page fetched done =>
      rw [List.length_singleton, Nat.add_comm, foldPages, fetched, List.foldlM_cons]
      cases htake : take state page with
      | error e => simp only [htake]; rfl
      | ok state => simp only [htake, done]; rfl
  | @more start page marker rest fetched marked follows ih =>
      rw [List.length_cons, Nat.add_right_comm, foldPages, fetched, List.foldlM_cons]
      cases htake : take state page with
      | error e => simp only [htake]; rfl
      | ok state =>
          simp only [htake, marked, ih]
          rfl

variable {α : Type u} {κ : Type v} [LinearOrder κ] {L : Listing α κ}

/-- How a listing is served: a page is fetched under the marker of the last entry of the one before
it, and shows the rows after that entry. -/
structure Serves (L : Listing α κ) (limit : Nat) (fetch : Option μ → Except ε π)
    (next : π → Option μ) (marker : α → μ) (render : List α × Option α → π) : Prop where
  next_render : ∀ rows last, next (render (rows, last)) = last.map marker
  fetch_eq : ∀ last : Option α, (∀ a ∈ last, a ∈ L.entries) → ∃ admits : α → Bool,
    (∀ b ∈ L.entries, admits b = true ↔ ∀ a ∈ last, L.position a < L.position b) ∧
      fetch (last.map marker) = .ok (render (L.page limit admits))

theorem Serves.follows_of_append (h : L.Lawful) {limit : Nat} (hlimit : 0 < limit)
    {fetch : Option μ → Except ε π} {next : π → Option μ} {marker : α → μ}
    {render : List α × Option α → π} (hserves : Serves L limit fetch next marker render)
    {front rest : List α} (hsorted : L.sorted = front ++ rest) :
    ∃ pages : List (List α × Option α),
      Follows fetch next (front.getLast?.map marker) (pages.map render) ∧
        (pages.map (·.1)).flatten = rest := by
  have hentries : ∀ a ∈ front.getLast?, a ∈ L.entries := fun a ha =>
    L.mem_sorted.1 (hsorted ▸ List.mem_append_left _ (List.mem_of_getLast? ha))
  obtain ⟨admits, hadmits, hfetch⟩ := hserves.fetch_eq front.getLast? hentries
  rw [h.page_eq hsorted hadmits] at hfetch
  by_cases hmore : limit < rest.length
  · rw [if_pos hmore] at hfetch
    have hlonger : 0 < (rest.take limit).length := by
      rw [List.length_take]
      omega
    obtain ⟨last, hlast⟩ : ∃ last, (rest.take limit).getLast? = some last :=
      ⟨_, List.getLast?_eq_some_getLast (List.ne_nil_of_length_pos hlonger)⟩
    have hsorted' : L.sorted = (front ++ rest.take limit) ++ rest.drop limit := by
      rw [List.append_assoc, List.take_append_drop, hsorted]
    have hfront : (front ++ rest.take limit).getLast? = some last := by
      rw [List.getLast?_append, hlast]
      rfl
    have hshorter : (rest.drop limit).length < rest.length := by
      rw [List.length_drop]
      omega
    obtain ⟨pages, hfollows, hflatten⟩ := Serves.follows_of_append h hlimit hserves hsorted'
    rw [hfront] at hfollows
    refine ⟨(rest.take limit, some last) :: pages, ?_, ?_⟩
    · rw [hlast] at hfetch
      exact .more hfetch (hserves.next_render _ _) hfollows
    · rw [List.map_cons, List.flatten_cons, hflatten, List.take_append_drop]
  · rw [if_neg hmore] at hfetch
    refine ⟨[(rest.take limit, none)], .last hfetch (hserves.next_render _ _), ?_⟩
    simp [List.take_of_length_le (Nat.not_lt.1 hmore)]
termination_by rest.length

/-- From the start, the pages end, and together they are the entries in their order. -/
theorem Serves.follows (h : L.Lawful) {limit : Nat} (hlimit : 0 < limit)
    {fetch : Option μ → Except ε π} {next : π → Option μ} {marker : α → μ}
    {render : List α × Option α → π} (hserves : Serves L limit fetch next marker render) :
    ∃ pages : List (List α × Option α), Follows fetch next none (pages.map render) ∧
      (pages.map (·.1)).flatten = L.sorted :=
  @Serves.follows_of_append _ _ _ _ _ _ _ h _ hlimit _ _ _ _ hserves [] _ rfl

end Follow

end Keyset
