import MediaHub.Catalog.MediaList
import MediaHub.Pagination.Resume

/-!
The flat list: its cursor keeps only the second of the last media, so a page that ends within a
second skips what is left of that second.
-/

namespace MediaHub.Catalog

open Relational
open MediaHub.Core Result
open MediaHub.Store.Listing
open Keyset (Follows)
open Json (Text)

/-- By age, the newest first, and by id where the times are equal. -/
def Precedes (row later : MediaRow) : Prop :=
  later.createdAt < row.createdAt ∨
    later.createdAt = row.createdAt ∧ later.media.id < row.media.id

theorem newestFirst_lt_iff {row later : MediaRow} :
    newestFirst row < newestFirst later ↔ Precedes row later := by
  rw [newestFirst, newestFirst, OrderDual.toDual_lt_toDual, Prod.Lex.toLex_lt_toLex]
  rfl

/-- What the cursor of a media comes back as. -/
def cutOff (row : MediaRow) : MediaListCursor :=
  ⟨Time.seconds (unixTimestamp row.createdAt), row.media.id⟩

theorem cutOff_le (row : MediaRow) : (cutOff row).createdAt ≤ row.createdAt :=
  Int.ediv_mul_le row.createdAt (by decide)

theorem postgresTime_seconds (n : Int) : postgresTime (Time.seconds n) = Time.seconds n := by
  have h : n * 1000000000 / 1000 * 1000 = n * 1000000000 := by omega
  exact h

theorem isPast_cutOff_iff {row next : MediaRow} :
    MediaListQuery.isPast (cutOff row) next = true ↔
      next.createdAt < (cutOff row).createdAt ∨
        next.createdAt = (cutOff row).createdAt ∧ next.media.id < row.media.id := by
  rw [MediaListQuery.isPast, Bool.or_eq_true, Bool.and_eq_true, decide_eq_true_eq,
    decide_eq_true_eq, decide_eq_true_eq]
  show next.createdAt < postgresTime (Time.seconds _) ∨
    next.createdAt = postgresTime (Time.seconds _) ∧ _ ↔ _
  rw [postgresTime_seconds]
  rfl

/-- What is past the cursor of a media comes after that media. -/
theorem precedes_of_isPast {row next : MediaRow}
    (h : MediaListQuery.isPast (cutOff row) next = true) : Precedes row next := by
  have hle := cutOff_le row
  rcases isPast_cutOff_iff.1 h with hlt | ⟨heq, hid⟩
  · exact Or.inl (lt_of_lt_of_le hlt hle)
  · rcases lt_or_eq_of_le hle with hlt | hsame
    · exact Or.inl (heq ▸ hlt)
    · exact Or.inr ⟨heq.trans hsame, hid⟩

theorem isPast_of_precedes {row next later : MediaRow}
    (h : MediaListQuery.isPast (cutOff row) next = true) (hlater : Precedes next later) :
    MediaListQuery.isPast (cutOff row) later = true := by
  rw [isPast_cutOff_iff] at h ⊢
  rcases h with hlt | ⟨heq, hid⟩
  · rcases hlater with hbefore | ⟨hsame, _⟩
    · exact Or.inl (lt_trans hbefore hlt)
    · exact Or.inl (hsame ▸ hlt)
  · rcases hlater with hbefore | ⟨hsame, hless⟩
    · exact Or.inl (heq ▸ hbefore)
    · exact Or.inr ⟨hsame.trans heq, lt_trans hless hid⟩

section

variable {table : MediaTable} {applicationId : ApplicationId}

theorem mediaListing_lawful (query : MediaListQuery) :
    (mediaListing table applicationId query).Lawful where
  nodup := List.Nodup.filter _ (List.Nodup.of_map _ table.rows.nodup)
  injective := by
    intro row hrow other hother heq
    have hids : row.media.id = other.media.id :=
      (Prod.ext_iff.1 (toLex.injective (OrderDual.toDual.injective heq))).2
    exact Table.eq_of_key (List.mem_filter.1 hrow).1 (List.mem_filter.1 hother).1 hids

/-- The flat list is resumed past the second of the last media. -/
def flatResumption (query : MediaListQuery) :
    Keyset.Resumption (mediaListing table applicationId query) where
  accepted _ := True
  admits last next := MediaListQuery.isPast (cutOff last) next
  after _ _ _ _ h := newestFirst_lt_iff.2 (precedes_of_isPast h)
  upper _ _ _ _ _ _ h hlt := isPast_of_precedes h (newestFirst_lt_iff.1 hlt)

/-- The limit that the checks leave. -/
theorem limit_of_validate {query : ListMediaQuery} {options : ListOptions}
    (h : query.validate = .ok options) : 0 < options.limit ∧ options.limit ≤ 100 := by
  simp only [ListMediaQuery.validate, bind_eq_ok_iff, rejectIf_eq_ok_iff] at h
  obtain ⟨_, hlimit, _, _, _, _, _, _, _, _, _, _, hoptions⟩ := h
  cases hoptions
  dsimp only
  omega

theorem listMediaPage_eq {query : MediaListQuery} (hpos : 0 < query.limit)
    (hle : query.limit ≤ 100) :
    listMediaPage table applicationId query =
      .ok ⟨((mediaListing table applicationId query).page query.limit fun row =>
          query.cursor.all (MediaListQuery.isPast · row)).1,
        decide (query.limit < ((mediaListing table applicationId query).window query.limit
          fun row => query.cursor.all (MediaListQuery.isPast · row)).length)⟩ := by
  rw [listMediaPage, if_neg (by omega)]
  rfl

variable [Base64Engine] [Json.Parser] [MediaIdText] [LinearOrder Collated]

/-- The text of the cursor that a page leaves after its last media. -/
def flatCursor (row : MediaRow) : Text := encodeMediaCursor ⟨row.createdAt, row.media.id⟩

def flatResponse (page : List MediaRow × Option MediaRow) : MediaListResponse :=
  ⟨page.1, [], page.2.map flatCursor⟩

/-- The same query, to be continued at a cursor. -/
def ListMediaQuery.at (query : ListMediaQuery) (cursor : Option Text) : ListMediaQuery :=
  { query with cursor }

omit [LinearOrder Collated] in
theorem decodeCursor_flatCursor (start : Option MediaRow) :
    decodeCursor decodeMediaCursor (start.map flatCursor) = .ok (start.map cutOff) := by
  cases start with
  | none => rfl
  | some row =>
      rw [Option.map_some, decodeCursor, flatCursor,
        decodeMediaCursor_encodeMediaCursor row.id_lt row.createdInRange]
      rfl

theorem listMedia_flat {query : ListMediaQuery} {options : ListOptions}
    (hvalid : query.validate = .ok options) (hflat : options.directory = none)
    (start : Option MediaRow) :
    listMedia table applicationId (query.at (start.map flatCursor)) =
      .ok (flatResponse ((@flatResumption table applicationId (options.flat query)).pageFrom
        options.limit start)) := by
  obtain ⟨hpos, hle⟩ := limit_of_validate hvalid
  have hadmits : (fun row => (start.map cutOff).all (MediaListQuery.isPast · row)) =
      start.elim (fun _ => true) fun last => MediaListQuery.isPast (cutOff last) := by
    cases start <;> rfl
  have hpage := @listMediaPage_eq table applicationId
    { options.flat query with cursor := start.map cutOff } hpos hle
  simp only [hadmits] at hpage
  have hsame : (query.at (start.map flatCursor)).validate = .ok options := hvalid
  rw [listMedia]
  refine bind_eq_ok_iff.2 ⟨options, hsame, ?_⟩
  rw [hflat]
  refine bind_eq_ok_iff.2 ⟨start.map cutOff, decodeCursor_flatCursor start, ?_⟩
  refine bind_eq_ok_iff.2 ⟨_, congrArg (Except.mapError ApiError.repository) hpage, ?_⟩
  simp only [flatResponse, Keyset.Resumption.pageFrom, Keyset.Listing.page, decide_eq_true_eq,
    apply_ite (Option.map flatCursor), Option.map_none]
  rfl

/-- What a complete flat list shows: each media that is selected once, the newest first. -/
structure FlatComplete (table : MediaTable) (applicationId : ApplicationId)
    (query : MediaListQuery) (pages : List MediaListResponse) : Prop where
  items_iff : ∀ row, row ∈ pages.flatMap (·.items) ↔
    row ∈ table.rows ∧ query.selects applicationId row = true
  ordered : (pages.flatMap (·.items)).Pairwise Precedes
  prefixes : pages.flatMap (·.commonPrefixes) = []

/-- Where a page ends and a media is left, that media lies in an earlier second than the last one of
the page, or at the very start of its second with a smaller id. -/
def FlatPagesEndWell (table : MediaTable) (applicationId : ApplicationId)
    (query : MediaListQuery) (limit : Nat) : Prop :=
  ∀ i last next, 0 < i →
    (mediaListing table applicationId query).sorted[i * limit - 1]? = some last →
    (mediaListing table applicationId query).sorted[i * limit]? = some next →
    next.createdAt < Time.seconds (unixTimestamp last.createdAt) ∨
      next.createdAt = Time.seconds (unixTimestamp last.createdAt) ∧
        next.media.id < last.media.id

omit [Base64Engine] [Json.Parser] [MediaIdText] [LinearOrder Collated] in
theorem pagesLead_flat_iff {query : MediaListQuery} {limit : Nat} :
    (@flatResumption table applicationId query).PagesLead limit ↔
      FlatPagesEndWell table applicationId query limit := by
  constructor
  · intro h i last next hi hlast hnext
    exact isPast_cutOff_iff.1 (h i last next hi hlast hnext).2
  · intro h i last next hi hlast hnext
    exact ⟨trivial, isPast_cutOff_iff.2 (h i last next hi hlast hnext)⟩

theorem flat_serves {query : ListMediaQuery} {options : ListOptions}
    (hvalid : query.validate = .ok options) (hflat : options.directory = none) :
    (@flatResumption table applicationId (options.flat query)).Serves options.limit
      (fun cursor => listMedia table applicationId (query.at cursor)) (·.nextCursor) flatCursor
      flatResponse where
  next_render _ _ := rfl
  fetch_eq start _ _ := listMedia_flat hvalid hflat start
  refused _ _ hrefused := absurd trivial hrefused

omit [Json.Parser] [LinearOrder Collated] in
theorem flatMap_items_flatResponse (pages : List (List MediaRow × Option MediaRow)) :
    (pages.map flatResponse).flatMap (·.items) = (pages.map (·.1)).flatten := by
  rw [List.flatMap_map, List.flatten_eq_flatMap, List.flatMap_map]
  rfl

/-- The flat list is complete exactly where no page ends within a second that goes on. -/
theorem flatComplete_iff {query : ListMediaQuery} {options : ListOptions}
    (hvalid : query.validate = .ok options) (hflat : options.directory = none) :
    (∃ pages, Follows (fun cursor => listMedia table applicationId (query.at cursor))
        (·.nextCursor) none pages ∧
        FlatComplete table applicationId (options.flat query) pages) ↔
      FlatPagesEndWell table applicationId (options.flat query) options.limit := by
  have hserves := @flat_serves table applicationId _ _ _ _ query options hvalid hflat
  have hlawful := @mediaListing_lawful table applicationId (options.flat query)
  obtain ⟨hpos, -⟩ := limit_of_validate hvalid
  have hstart : ∀ last ∈ (none : Option MediaRow),
      last ∈ (mediaListing table applicationId (options.flat query)).entries := by simp
  rw [← pagesLead_flat_iff]
  constructor
  · rintro ⟨shown, hfollows, hcomplete⟩
    obtain ⟨pages, hruns, rfl⟩ := (hserves.follows_iff hstart).1 hfollows
    refine (Keyset.Resumption.exists_runs_iff hlawful hpos).1 ⟨pages, hruns, fun row hrow => ?_⟩
    rw [← flatMap_items_flatResponse, hcomplete.items_iff]
    exact List.mem_filter.1 hrow
  · intro hleads
    obtain ⟨pages, hruns, hflatten⟩ := Keyset.Resumption.exists_runs_of_leads hlawful hpos hleads
    refine ⟨pages.map flatResponse, (hserves.follows_iff hstart).2 ⟨pages, hruns, rfl⟩, ?_⟩
    have hitems : (pages.map flatResponse).flatMap (·.items) =
        (mediaListing table applicationId (options.flat query)).sorted :=
      (flatMap_items_flatResponse pages).trans hflatten
    refine ⟨fun row => ?_, ?_, ?_⟩
    · rw [hitems, Keyset.Listing.mem_sorted]
      exact List.mem_filter
    · rw [hitems]
      exact hlawful.pairwise_sorted.imp newestFirst_lt_iff.1
    · rw [List.flatMap_map, List.flatMap_eq_nil_iff]
      intro page _
      rfl

end

end MediaHub.Catalog
