import MediaHub.Pagination.Keyset

/-!
Listings whose markers may lose the place they stand for: a marker may be refused, and what it
admits may miss entries that come later. The pages are complete exactly where no page ends badly.
-/

namespace Keyset

universe u v w x

/-- How a listing is resumed after an entry: whether its marker is accepted, and what the marker
admits. A marker admits only entries after its own, with every entry after one that it admits. -/
structure Resumption {α : Type u} {κ : Type v} [LinearOrder κ] (L : Listing α κ) where
  accepted : α → Prop
  admits : α → α → Bool
  after : ∀ last ∈ L.entries, ∀ b ∈ L.entries, admits last b = true →
    L.position last < L.position b
  upper : ∀ last ∈ L.entries, ∀ b ∈ L.entries, ∀ c ∈ L.entries, admits last b = true →
    L.position b < L.position c → admits last c = true

namespace Resumption

variable {α : Type u} {κ : Type v} [LinearOrder κ] {L : Listing α κ} (R : Resumption L)

/-- The marker of an entry leads to the entry that comes next. -/
def Leads (last next : α) : Prop := R.accepted last ∧ R.admits last next = true

/-- Wherever a page of this size ends and another entry comes, the marker leads to it. -/
def PagesLead (limit : Nat) : Prop :=
  ∀ i last next, 0 < i → L.sorted[i * limit - 1]? = some last →
    L.sorted[i * limit]? = some next → R.Leads last next

/-- The page from the start, or after an entry. -/
def pageFrom (limit : Nat) (start : Option α) : List α × Option α :=
  L.page limit (start.elim (fun _ => true) R.admits)

/-- The pages from a start on, each under the marker of the last entry of the one before it. -/
inductive Runs (limit : Nat) : Option α → List (List α × Option α) → Prop
  | last {start : Option α} (haccepted : ∀ last ∈ start, R.accepted last)
      (hdone : (R.pageFrom limit start).2 = none) : Runs limit start [R.pageFrom limit start]
  | more {start : Option α} {final : α} {rest : List (List α × Option α)}
      (haccepted : ∀ last ∈ start, R.accepted last)
      (hmore : (R.pageFrom limit start).2 = some final) (hrest : Runs limit (some final) rest) :
      Runs limit start (R.pageFrom limit start :: rest)

variable {R} {limit : Nat}

theorem mem_entries_of_mem_pageFrom {start : Option α} {b : α}
    (h : b ∈ (R.pageFrom limit start).1) : b ∈ L.entries :=
  L.mem_of_mem_page h

theorem mem_page_of_last {start : Option α} {final : α}
    (h : (R.pageFrom limit start).2 = some final) : final ∈ (R.pageFrom limit start).1 := by
  simp only [pageFrom, Listing.page] at h ⊢
  split at h
  · exact List.mem_of_getLast? h
  · cases h

theorem admits_of_mem_page {last b : α} (h : b ∈ (R.pageFrom limit (some last)).1) :
    R.admits last b = true := by
  have hfilter := (List.mem_insertionSort _).1 (List.mem_of_mem_take (List.mem_of_mem_take h))
  exact (List.mem_filter.1 hfilter).2

theorem Runs.mem_entries {start : Option α} {pages : List (List α × Option α)}
    (h : R.Runs limit start pages) {b : α} (hb : b ∈ (pages.map (·.1)).flatten) :
    b ∈ L.entries := by
  induction h with
  | last => exact mem_entries_of_mem_pageFrom (by simpa using hb)
  | more _ _ _ ih =>
      rw [List.map_cons, List.flatten_cons] at hb
      rcases List.mem_append.1 hb with hmem | hlater
      · exact mem_entries_of_mem_pageFrom hmem
      · exact ih hlater

/-- Its marker admits what the pages after an entry show. -/
theorem Runs.admitted {pages : List (List α × Option α)} {last : α} (hlast : last ∈ L.entries)
    (h : R.Runs limit (some last) pages) {b : α} (hb : b ∈ (pages.map (·.1)).flatten) :
    R.admits last b = true := by
  generalize hstart : some last = start at h
  induction h generalizing last with
  | last =>
      subst hstart
      have hmem : b ∈ (R.pageFrom limit (some last)).1 := by simpa using hb
      exact admits_of_mem_page hmem
  | @more start final rest haccepted hmore hrest ih =>
      subst hstart
      rw [List.map_cons, List.flatten_cons] at hb
      rcases List.mem_append.1 hb with hmem | hlater
      · exact admits_of_mem_page hmem
      · have hfinal := mem_page_of_last hmore
        have hfinalEntry := mem_entries_of_mem_pageFrom hfinal
        have hentry := hrest.mem_entries hlater
        refine R.upper last hlast final hfinalEntry b hentry (admits_of_mem_page hfinal) ?_
        exact R.after final hfinalEntry b hentry (ih hfinalEntry hlater rfl)

/-- What a marker that leads on admits is the rest of the list. -/
theorem pageFrom_eq (hlawful : L.Lawful) {front rest : List α} (hsorted : L.sorted = front ++ rest)
    (hleads : ∀ last ∈ front.getLast?, ∀ next ∈ rest.head?, R.admits last next = true)
    (hrest : front = [] ∨ rest ≠ []) :
    R.pageFrom limit front.getLast? = (rest.take limit,
      if limit < rest.length then (rest.take limit).getLast? else none) := by
  have hmem : ∀ a ∈ front ++ rest, a ∈ L.entries := fun a ha => L.mem_sorted.1 (hsorted ▸ ha)
  have hpairwise := hlawful.pairwise_sorted
  rw [hsorted] at hpairwise
  refine hlawful.page_eq hsorted (fun c hc => ?_) limit
  cases hlast : front.getLast? with
  | none => simp
  | some last =>
      have hlastEntry : last ∈ L.entries :=
        hmem last (List.mem_append_left _ (List.mem_of_getLast? hlast))
      simp only [Option.elim, Option.mem_some_iff, forall_eq']
      constructor
      · exact R.after last hlastEntry c hc
      · intro hlt
        have hne : rest ≠ [] := by
          refine hrest.resolve_left fun hnil => ?_
          rw [hnil] at hlast
          cases hlast
        obtain ⟨b, tail, rfl⟩ := List.exists_cons_of_ne_nil hne
        have hnext : R.admits last b = true := hleads last hlast b rfl
        obtain ⟨hfront, htail, hcross⟩ := List.pairwise_append.1 hpairwise
        rcases List.mem_append.1 (hsorted ▸ L.mem_sorted.2 hc) with hinit | hlater
        · -- what comes before the last entry of the pages so far is not after it
          obtain ⟨init, rfl⟩ := List.getLast?_eq_some_iff.1 hlast
          rcases List.mem_append.1 hinit with hold | hsame
          · have hbefore := (List.pairwise_append.1 hfront).2.2 c hold last (by simp)
            exact absurd hbefore (lt_asymm hlt)
          · rw [List.mem_singleton.1 hsame] at hlt
            exact absurd hlt (lt_irrefl _)
        · rcases List.mem_cons.1 hlater with rfl | hrest
          · exact hnext
          · exact R.upper last hlastEntry b (hmem b (by simp)) c hc hnext
              ((List.pairwise_cons.1 htail).1 c hrest)

/-- A page boundary in terms of what is before it and after it. -/
theorem boundary_iff {front rest : List α} (hsorted : L.sorted = front ++ rest) {i : Nat}
    (hlength : front.length = i * limit) (hlimit : 0 < limit) {last next : α} :
    (0 < i ∧ L.sorted[i * limit - 1]? = some last ∧ L.sorted[i * limit]? = some next) ↔
      front.getLast? = some last ∧ rest.head? = some next := by
  have hhead : L.sorted[i * limit]? = rest.head? := by
    rw [hsorted, ← hlength, List.getElem?_append_right (Nat.le_refl _), Nat.sub_self,
      List.head?_eq_getElem?]
  rw [hhead]
  constructor
  · rintro ⟨hi, hlast, hnext⟩
    have hpos : 0 < i * limit := Nat.mul_pos hi hlimit
    rw [hsorted, List.getElem?_append_left (by omega), ← hlength] at hlast
    exact ⟨by rw [List.getLast?_eq_getElem?, hlast], hnext⟩
  · rintro ⟨hlast, hnext⟩
    have hpos : 0 < front.length := List.length_pos_of_mem (List.mem_of_getLast? hlast)
    have hi : 0 < i := by
      rcases Nat.eq_zero_or_pos i with rfl | hi
      · omega
      · exact hi
    refine ⟨hi, ?_, hnext⟩
    rw [hsorted, List.getElem?_append_left (by omega), ← hlength]
    rw [List.getLast?_eq_getElem?] at hlast
    exact hlast

/-- Where every page leads on, the pages show what is left, in its order. -/
theorem Runs.of_leads (hlawful : L.Lawful) (hlimit : 0 < limit) (hleads : R.PagesLead limit)
    {i : Nat} {front rest : List α} (hsorted : L.sorted = front ++ rest)
    (hlength : front.length = i * limit) (hrest : front = [] ∨ rest ≠ []) :
    ∃ pages, R.Runs limit front.getLast? pages ∧ (pages.map (·.1)).flatten = rest := by
  have hboundary : ∀ last ∈ front.getLast?, ∀ next ∈ rest.head?, R.Leads last next := by
    intro last hlast next hnext
    obtain ⟨hi, hlast, hnext⟩ := (boundary_iff hsorted hlength hlimit).2 ⟨hlast, hnext⟩
    exact hleads i last next hi hlast hnext
  have haccepted : ∀ last ∈ front.getLast?, R.accepted last := by
    intro last hlast
    have hne : rest ≠ [] := by
      refine hrest.resolve_left fun hnil => ?_
      rw [hnil] at hlast
      cases hlast
    obtain ⟨b, tail, rfl⟩ := List.exists_cons_of_ne_nil hne
    exact (hboundary last hlast b rfl).1
  have hpage := @pageFrom_eq _ _ _ _ R limit hlawful front rest hsorted
    (fun last hlast next hnext => (hboundary last hlast next hnext).2) hrest
  by_cases hmore : limit < rest.length
  · rw [if_pos hmore] at hpage
    have hlonger : 0 < (rest.take limit).length := by
      rw [List.length_take]
      omega
    obtain ⟨final, hfinal⟩ : ∃ final, (rest.take limit).getLast? = some final :=
      ⟨_, List.getLast?_eq_some_getLast (List.ne_nil_of_length_pos hlonger)⟩
    have hsorted' : L.sorted = (front ++ rest.take limit) ++ rest.drop limit := by
      rw [List.append_assoc, List.take_append_drop, hsorted]
    have hlength' : (front ++ rest.take limit).length = (i + 1) * limit := by
      rw [List.length_append, hlength, List.length_take, Nat.min_eq_left hmore.le, Nat.succ_mul]
    have hfront : (front ++ rest.take limit).getLast? = some final := by
      rw [List.getLast?_append, hfinal]
      rfl
    have hshorter : (rest.drop limit).length < rest.length := by
      rw [List.length_drop]
      omega
    have hne : rest.drop limit ≠ [] := List.ne_nil_of_length_pos (by rw [List.length_drop]; omega)
    obtain ⟨pages, hruns, hflatten⟩ :=
      Runs.of_leads hlawful hlimit hleads hsorted' hlength' (Or.inr hne)
    rw [hfront] at hruns
    refine ⟨R.pageFrom limit front.getLast? :: pages, .more haccepted ?_ hruns, ?_⟩
    · rw [hpage]
      exact hfinal
    · rw [List.map_cons, List.flatten_cons, hflatten, hpage, List.take_append_drop]
  · rw [if_neg hmore] at hpage
    refine ⟨[R.pageFrom limit front.getLast?], .last haccepted (by rw [hpage]), ?_⟩
    rw [hpage]
    simp [List.take_of_length_le (Nat.not_lt.1 hmore)]
termination_by rest.length

/-- Where the pages leave nothing out, each of them leads on. -/
theorem Runs.leads (hlawful : L.Lawful) (hlimit : 0 < limit) {j : Nat} {front rest : List α}
    (hsorted : L.sorted = front ++ rest) (hlength : front.length = j * limit)
    (hrest : front = [] ∨ rest ≠ []) {pages : List (List α × Option α)}
    (h : R.Runs limit front.getLast? pages)
    (hall : ∀ b ∈ rest, b ∈ (pages.map (·.1)).flatten) {i : Nat} (hij : j ≤ i) {last next : α}
    (hi : 0 < i) (hlast : L.sorted[i * limit - 1]? = some last)
    (hnext : L.sorted[i * limit]? = some next) : R.Leads last next := by
  have hboundary : ∀ last ∈ front.getLast?, ∀ next ∈ rest.head?, R.Leads last next := by
    intro last hlast next hnext
    have hentry : last ∈ L.entries := L.mem_sorted.1
      (hsorted ▸ List.mem_append_left _ (List.mem_of_getLast? hlast))
    refine ⟨?_, ?_⟩
    · cases h with
      | last haccepted => exact haccepted last hlast
      | more haccepted => exact haccepted last hlast
    · have hlast' : front.getLast? = some last := hlast
      rw [hlast'] at h
      exact h.admitted hentry (hall next (List.mem_of_mem_head? hnext))
  have hpage := @pageFrom_eq _ _ _ _ R limit hlawful front rest hsorted
    (fun last hlast next hnext => (hboundary last hlast next hnext).2) hrest
  rcases Nat.eq_or_lt_of_le hij with rfl | hlt
  · obtain ⟨hlast, hnext⟩ := (boundary_iff hsorted hlength hlimit).1 ⟨hi, hlast, hnext⟩
    exact hboundary last hlast next hnext
  · have hmore : limit < rest.length := by
      obtain ⟨hbound, -⟩ := List.getElem?_eq_some_iff.1 hnext
      have hle : (j + 1) * limit ≤ i * limit := Nat.mul_le_mul_right limit hlt
      rw [hsorted, List.length_append, hlength] at hbound
      rw [Nat.succ_mul] at hle
      omega
    rw [if_pos hmore] at hpage
    have hlonger : 0 < (rest.take limit).length := by
      rw [List.length_take]
      omega
    obtain ⟨final, hfinal⟩ : ∃ final, (rest.take limit).getLast? = some final :=
      ⟨_, List.getLast?_eq_some_getLast (List.ne_nil_of_length_pos hlonger)⟩
    have hsorted' : L.sorted = (front ++ rest.take limit) ++ rest.drop limit := by
      rw [List.append_assoc, List.take_append_drop, hsorted]
    have hlength' : (front ++ rest.take limit).length = (j + 1) * limit := by
      rw [List.length_append, hlength, List.length_take, Nat.min_eq_left hmore.le, Nat.succ_mul]
    have hfront : (front ++ rest.take limit).getLast? = some final := by
      rw [List.getLast?_append, hfinal]
      rfl
    have hshorter : (rest.drop limit).length < rest.length := by
      rw [List.length_drop]
      omega
    have hne : rest.drop limit ≠ [] := List.ne_nil_of_length_pos (by rw [List.length_drop]; omega)
    cases h with
    | last _ hdone =>
        rw [hpage] at hdone
        exact absurd (hfinal.symm.trans hdone) (by simp)
    | @more _ final' tail _ hmarked hruns =>
        rw [hpage] at hmarked
        have hsame : final = final' := Option.some.inj (hfinal.symm.trans hmarked)
        subst hsame
        rw [← hfront] at hruns
        refine Runs.leads hlawful hlimit hsorted' hlength' (Or.inr hne) hruns (fun b hb => ?_)
          hlt hi hlast hnext
        -- an entry after this page is not on it
        have hshown := hall b (List.mem_of_mem_drop hb)
        rw [List.map_cons, List.flatten_cons, hpage] at hshown
        refine (List.mem_append.1 hshown).resolve_left fun hearlier => ?_
        have hnodup : L.sorted.Nodup :=
          (List.perm_insertionSort _ _).nodup_iff.2 hlawful.nodup
        rw [hsorted, List.nodup_append] at hnodup
        exact List.disjoint_take_drop hnodup.2.1 (Nat.le_refl limit) hearlier hb
termination_by rest.length

/-- The pages from the start show every entry exactly where each of them leads on; then they show
the entries in their order. -/
theorem exists_runs_iff (hlawful : L.Lawful) (hlimit : 0 < limit) :
    (∃ pages, R.Runs limit none pages ∧ ∀ b ∈ L.entries, b ∈ (pages.map (·.1)).flatten) ↔
      R.PagesLead limit := by
  constructor
  · rintro ⟨pages, hruns, hall⟩ i last next hi hlast hnext
    exact @Runs.leads _ _ _ _ R limit hlawful hlimit 0 [] L.sorted rfl (Nat.zero_mul _).symm
      (Or.inl rfl) pages hruns (fun b hb => hall b (L.mem_sorted.1 hb)) i (Nat.zero_le i) last next
      hi hlast hnext
  · intro hleads
    obtain ⟨pages, hruns, hflatten⟩ := @Runs.of_leads _ _ _ _ R limit hlawful hlimit hleads 0 []
      L.sorted rfl (Nat.zero_mul _).symm (Or.inl rfl)
    refine ⟨pages, hruns, fun b hb => ?_⟩
    rw [hflatten]
    exact L.mem_sorted.2 hb

theorem exists_runs_of_leads (hlawful : L.Lawful) (hlimit : 0 < limit)
    (hleads : R.PagesLead limit) :
    ∃ pages, R.Runs limit none pages ∧ (pages.map (·.1)).flatten = L.sorted :=
  @Runs.of_leads _ _ _ _ R limit hlawful hlimit hleads 0 [] L.sorted rfl (Nat.zero_mul _).symm
    (Or.inl rfl)

variable {μ : Type w} {π : Type x} {ε : Type*}

/-- How a listing is served under markers that may be refused. -/
structure Serves (R : Resumption L) (limit : Nat) (fetch : Option μ → Except ε π)
    (next : π → Option μ) (marker : α → μ) (render : List α × Option α → π) : Prop where
  next_render : ∀ rows last, next (render (rows, last)) = last.map marker
  fetch_eq : ∀ start : Option α, (∀ last ∈ start, last ∈ L.entries) →
    (∀ last ∈ start, R.accepted last) →
    fetch (start.map marker) = .ok (render (R.pageFrom limit start))
  refused : ∀ last ∈ L.entries, ¬ R.accepted last → ∀ page, fetch (some (marker last)) ≠ .ok page

variable {fetch : Option μ → Except ε π} {next : π → Option μ} {marker : α → μ}
  {render : List α × Option α → π}

theorem Serves.accepted_of_ok (h : R.Serves limit fetch next marker render) {start : Option α}
    (hstart : ∀ last ∈ start, last ∈ L.entries) {page : π}
    (hfetch : fetch (start.map marker) = .ok page) : ∀ last ∈ start, R.accepted last := by
  intro last hlast
  by_contra hrefused
  cases hlast
  exact h.refused last (hstart last rfl) hrefused page hfetch

/-- Following the markers is running through the pages. -/
theorem Serves.follows_iff (h : R.Serves limit fetch next marker render) {start : Option α}
    (hstart : ∀ last ∈ start, last ∈ L.entries) {shown : List π} :
    Follows fetch next (start.map marker) shown ↔
      ∃ pages, R.Runs limit start pages ∧ shown = pages.map render := by
  constructor
  · intro hfollows
    generalize hmarker : start.map marker = found at hfollows
    induction hfollows generalizing start with
    | last fetched done =>
        subst hmarker
        have haccepted := h.accepted_of_ok hstart fetched
        cases Except.ok.inj (fetched.symm.trans (h.fetch_eq start hstart haccepted))
        refine ⟨_, .last haccepted ?_, rfl⟩
        have hnone := h.next_render (R.pageFrom limit start).1 (R.pageFrom limit start).2
        rw [done] at hnone
        exact Option.map_eq_none_iff.1 hnone.symm
    | more fetched marked _ ih =>
        subst hmarker
        have haccepted := h.accepted_of_ok hstart fetched
        cases Except.ok.inj (fetched.symm.trans (h.fetch_eq start hstart haccepted))
        have hsome := h.next_render (R.pageFrom limit start).1 (R.pageFrom limit start).2
        rw [marked] at hsome
        obtain ⟨final, hfinal, rfl⟩ := Option.map_eq_some_iff.1 hsome.symm
        have hentry : ∀ last ∈ some final, last ∈ L.entries := by
          rintro last ⟨⟩
          exact mem_entries_of_mem_pageFrom (mem_page_of_last hfinal)
        obtain ⟨pages, hruns, rfl⟩ := ih hentry rfl
        exact ⟨_, .more haccepted hfinal hruns, rfl⟩
  · rintro ⟨pages, hruns, rfl⟩
    induction hruns with
    | @last start haccepted hdone =>
        refine .last (h.fetch_eq start hstart haccepted) ?_
        exact (h.next_render _ _).trans (congrArg (Option.map marker) hdone)
    | @more start final rest haccepted hmore _ ih =>
        refine .more (h.fetch_eq start hstart haccepted) ?_ (ih fun last hlast => ?_)
        · exact (h.next_render _ _).trans (congrArg (Option.map marker) hmore)
        · cases hlast
          exact mem_entries_of_mem_pageFrom (mem_page_of_last hmore)

end Resumption

end Keyset
