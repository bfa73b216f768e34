import MediaHub.Store.ListingComplete

namespace MediaHub.Store.Listing

open Relational
open MediaHub.Core Result
open Keyset (Follows Serves)

/-- What the unique indexes say of the rows, and that a pointer follows its object's versions. -/
structure Listable (db : Database) : Prop where
  keys : ∀ object ∈ db.objects, ∀ other ∈ db.objects,
    object.bucketId = other.bucketId → object.key = other.key → object = other
  generations : ∀ version ∈ db.objectVersions, ∀ other ∈ db.objectVersions,
    version.objectId = other.objectId → version.isActive → other.isActive →
      version.generation = other.generation → version = other
  labels : ∀ version ∈ db.objectVersions, ∀ other ∈ db.objectVersions,
    version.objectId = other.objectId → version.isActive → other.isActive →
      version.externalVersionId = other.externalVersionId → version = other
  heads : ∀ object ∈ db.objects, ∀ version ∈ db.objectVersions, version.objectId = object.id →
    version.isActive → object.currentVersionId.isSome

theorem committed_of_isActive {version : ObjectVersion} (h : version.isActive = true) :
    version.state = .committed := by
  simp only [ObjectVersion.isActive, Bool.and_eq_true, decide_eq_true_eq] at h
  exact h.1

theorem keyRank_of_lt {β κ : Type} [LinearOrder κ] {rank : β → κ} {row row' : String × β}
    (h : position rank (keyEntry row) < position rank (keyEntry row')) :
    row.1 < row'.1 ∨ row.1 = row'.1 ∧ rank row.2 < rank row'.2 := by
  rw [position, position, Prod.Lex.toLex_lt_toLex] at h
  simp only [Prod.Lex.toLex_lt_toLex, keyEntry, Option.elim_some, WithTop.coe_lt_coe,
    lt_self_iff_false, false_or, true_and] at h
  exact h

theorem keys_le_of_lt {β κ : Type} [LinearOrder κ] {rank : β → κ} {entry other : Entry β}
    (h : position rank entry < position rank other) : entry.entryKey ≤ other.entryKey := by
  rw [position, position, Prod.Lex.toLex_lt_toLex] at h
  rcases h with hlt | ⟨heq, _⟩
  · exact le_of_lt hlt
  · exact le_of_eq heq

variable {db : Database} {applicationId : ApplicationId}

/-- A current version that a key shows. -/
structure CurrentObject (db : Database) (applicationId : ApplicationId) (bucketId : BucketId)
    (key : String) (version : ObjectVersion) : Prop where
  version_mem : version ∈ db.objectVersions
  object : ∃ object ∈ db.objects, object.applicationId = applicationId ∧
    object.bucketId = bucketId ∧ object.key = key ∧ version.objectId = object.id ∧
      object.currentVersionId = some version.id
  active : version.isActive = true
  data : version.isDeleteMarker = false

theorem mem_currentObjects {bucketId : BucketId} {pre : String} {row : String × ObjectVersionId} :
    row ∈ currentObjects db applicationId bucketId pre ↔ hasPrefix pre row.1 = true ∧
      ∃ version, CurrentObject db applicationId bucketId row.1 version ∧ row.2 = version.id := by
  simp only [currentObjects, List.mem_filterMap, Option.bind_eq_bind, Option.bind_eq_some_iff]
  constructor
  · rintro ⟨object, hobject, versionId, hcurrent, version, hfind, hrow⟩
    split at hrow
    · rename_i hconditions
      simp only [Bool.and_eq_true, decide_eq_true_eq, Bool.not_eq_true'] at hconditions
      obtain ⟨⟨⟨⟨⟨hid, happlication⟩, hbucket⟩, hactive⟩, hdata⟩, hpre⟩ := hconditions
      have hkey : version.id = versionId := Table.key_of_find? hfind
      cases Option.some.inj hrow
      refine ⟨hpre, version, ⟨Table.mem_of_find? hfind,
        ⟨object, hobject, happlication, hbucket, rfl, hid, ?_⟩, hactive, hdata⟩, rfl⟩
      rw [hcurrent, hkey]
    · cases hrow
  · rintro ⟨hpre, version, ⟨hversion, ⟨object, hobject, happlication, hbucket, hkey, hid, hcurrent⟩,
      hactive, hdata⟩, hrow⟩
    refine ⟨object, hobject, version.id, hcurrent, version, Table.find?_of_mem hversion, ?_⟩
    rw [if_pos]
    · rw [hkey, ← hrow]
    · simp [hid, happlication, hbucket, hactive, hdata, hkey, hpre]

theorem nodup_currentObjects (bucketId : BucketId) (pre : String) :
    (currentObjects db applicationId bucketId pre).Nodup := by
  have hrows : db.objects.rows.Pairwise fun object other => object.id ≠ other.id :=
    List.pairwise_map.1 db.objects.nodup
  rw [currentObjects, List.Nodup, List.pairwise_filterMap]
  refine hrows.imp fun {object other} hne row hrow row' hrow' heq => hne ?_
  have howner : ∀ {object : S3Object} {row : String × ObjectVersionId}, (do
      let versionId ← object.currentVersionId
      let version ← db.objectVersions.find? versionId
      if version.objectId = object.id && object.applicationId = applicationId &&
          object.bucketId = bucketId && version.isActive && !version.isDeleteMarker &&
          hasPrefix pre object.key then
        some (object.key, version.id)
      else none) = some row →
      ∃ version ∈ db.objectVersions, version.id = row.2 ∧ version.objectId = object.id := by
    intro object row hrow
    simp only [Option.bind_eq_bind, Option.bind_eq_some_iff] at hrow
    obtain ⟨versionId, _, version, hfind, hrow⟩ := hrow
    split at hrow
    · rename_i hconditions
      simp only [Bool.and_eq_true, decide_eq_true_eq] at hconditions
      cases Option.some.inj hrow
      exact ⟨version, Table.mem_of_find? hfind, rfl, hconditions.1.1.1.1.1⟩
    · cases hrow
  obtain ⟨version, hversion, hid, hobject⟩ := howner hrow
  obtain ⟨version', hversion', hid', hobject'⟩ := howner hrow'
  have hsame : version = version' :=
    Table.eq_of_key hversion hversion' (hid.trans ((congrArg Prod.snd heq).trans hid'.symm))
  rw [← hobject, ← hobject', hsame]

/-- One version is shown by a key. -/
theorem CurrentObject.unique (h : Listable db) {bucketId : BucketId} {key : String}
    {version version' : ObjectVersion}
    (hcurrent : CurrentObject db applicationId bucketId key version)
    (hcurrent' : CurrentObject db applicationId bucketId key version') : version = version' := by
  obtain ⟨object, hobject, _, hbucket, hkey, _, hhead⟩ := hcurrent.object
  obtain ⟨object', hobject', _, hbucket', hkey', _, hhead'⟩ := hcurrent'.object
  have hsame := h.keys object hobject object' hobject' (hbucket.trans hbucket'.symm)
    (hkey.trans hkey'.symm)
  rw [hsame, hhead'] at hhead
  exact (Table.eq_of_key hcurrent'.version_mem hcurrent.version_mem (Option.some.inj hhead)).symm

theorem rowToObjectItem_ok {key : String} {versionId : ObjectVersionId}
    {item : S3ObjectListItem} :
    rowToObjectItem db key (some versionId) = .ok item ↔
      ∃ version ∈ db.objectVersions, version.id = versionId ∧ version.state = .committed ∧
        version.isDeleteMarker = false ∧ item = ⟨key, version⟩ := by
  simp only [rowToObjectItem, Option.bind_some]
  constructor
  · intro hitem
    split at hitem
    · cases hitem
    · rename_i version hfind
      split at hitem
      · cases hitem
      · rename_i hcommitted
        simp only [ne_eq, Bool.or_eq_true, decide_eq_true_eq, not_or, not_not,
          Bool.not_eq_true] at hcommitted
        exact ⟨version, Table.mem_of_find? hfind, Table.key_of_find? hfind, hcommitted.1,
          hcommitted.2, (Except.ok.inj hitem).symm⟩
  · rintro ⟨version, hversion, rfl, hcommitted, hdata, rfl⟩
    have hfind : db.objectVersions.find? version.id = some version := Table.find?_of_mem hversion
    simp [hfind, hcommitted, hdata]

theorem rowToObjectItem_iff (h : Listable db) {bucketId : BucketId} {pre : String}
    {row : String × ObjectVersionId}
    (hrow : row ∈ currentObjects db applicationId bucketId pre) {item : S3ObjectListItem} :
    rowToObjectItem db row.1 (some row.2) = .ok item ↔
      item.key = row.1 ∧ CurrentObject db applicationId bucketId item.key item.version := by
  obtain ⟨_, version, hcurrent, hid⟩ := mem_currentObjects.1 hrow
  rw [rowToObjectItem_ok]
  constructor
  · rintro ⟨version', hversion', hid', _, _, rfl⟩
    have hsame : version' = version :=
      Table.eq_of_key hversion' hcurrent.version_mem (hid'.trans hid)
    exact ⟨rfl, hsame ▸ hcurrent⟩
  · rintro ⟨hkey, hitem⟩
    obtain ⟨key, version'⟩ := item
    cases hkey
    have hsame : version = version' := hcurrent.unique h hitem
    exact ⟨version', hitem.version_mem, hsame ▸ hid.symm, committed_of_isActive hitem.active,
      hitem.data, rfl⟩

section Objects

variable {query : S3ObjectListQuery}

theorem objectListing_lawful (h : Listable db) : (objectListing db applicationId query).Lawful where
  nodup := nodup_entries (nodup_currentObjects _ _)
  injective := by
    intro entry hentry other hother heq
    have hkey : entry.entryKey = other.entryKey := heq
    have hpre : entry.isPrefix = other.isPrefix := by
      cases hfirst : entry.isPrefix <;> cases hsecond : other.isPrefix
      · rfl
      · exact absurd hkey (entryKey_ne hentry hother hfirst hsecond)
      · exact absurd hkey.symm (entryKey_ne hother hentry hsecond hfirst)
      · rfl
    have hcolumns : entry.columns = other.columns := by
      rcases columns_of_mem_entries hentry with ⟨_, hnone⟩ | ⟨hfalse, columns, hsome, hrow⟩ <;>
        rcases columns_of_mem_entries hother with ⟨_, hnone'⟩ | ⟨hfalse', columns', hsome', hrow'⟩
      · rw [hnone, hnone']
      · simp_all
      · simp_all
      · obtain ⟨_, version, hcurrent, hid⟩ := mem_currentObjects.1 hrow
        obtain ⟨_, version', hcurrent', hid'⟩ := mem_currentObjects.1 hrow'
        have hsame := hcurrent.unique h (hkey ▸ hcurrent')
        rw [hsome, hsome', show columns = columns' from hid.trans (hsame ▸ hid'.symm)]
    cases entry
    cases other
    simp_all

theorem objectListing_renders (h : Listable db) :
    Renders (objectListing db applicationId query) query.pre query.delimiter
      (currentObjects db applicationId query.bucketId query.pre) (rowToObjectItem db)
      S3ObjectListItem.key (fun a b => a.key < b.key) where
  lawful := objectListing_lawful h
  entries_eq := rfl
  keys_le _ _ hlt := le_of_lt hlt
  key_eq row hrow item hitem := ((rowToObjectItem_iff h hrow).1 hitem).1
  before_of_lt row hrow row' hrow' hlt item item' hitem hitem' := by
    rw [((rowToObjectItem_iff h hrow).1 hitem).1, ((rowToObjectItem_iff h hrow').1 hitem').1]
    exact hlt

theorem objectListing_serves (h : Listable db) (hlimit : 0 < query.limit)
    (hmost : query.limit ≤ maxS3ObjectListLimit) :
    Serves (objectListing db applicationId query) query.limit
      (fun cursor => listCurrentS3Objects db applicationId { query with startAfter := cursor })
      S3ObjectPage.nextCursor Entry.entryKey
      (fun page => ⟨itemsOf (rowToObjectItem db) page.1, prefixesOf page.1,
        page.2.map Entry.entryKey⟩) where
  next_render _ _ := rfl
  fetch_eq last hlast := by
    refine ⟨fun row => (last.map Entry.entryKey).all (· < row.entryKey), ?_, ?_⟩
    · intro row _
      cases last <;> simp [objectListing]
    · have hrows : ∀ row ∈ ((objectListing db applicationId query).page query.limit
          fun row => (last.map Entry.entryKey).all (· < row.entryKey)).1, row.isPrefix = false →
          ∃ item, rowToObjectItem db row.entryKey row.columns = .ok item := by
        intro row hrow hpre
        rcases columns_of_mem_entries (Keyset.Listing.mem_of_mem_page hrow) with
          ⟨htrue, _⟩ | ⟨_, columns, hsome, hmem⟩
        · exact absurd (htrue.symm.trans hpre) (by decide)
        · obtain ⟨_, version, hcurrent, hid⟩ := mem_currentObjects.1 hmem
          rw [hsome]
          exact ⟨⟨row.entryKey, version⟩, (rowToObjectItem_iff h hmem).2 ⟨rfl, hcurrent⟩⟩
      have hvalid : S3ObjectListQuery.validate
          { query with startAfter := last.map Entry.entryKey } = .ok () := by
        rw [S3ObjectListQuery.validate, rejectIf_eq_ok_iff]
        exact Nat.not_lt.2 hmost
      have hpositive : query.limit ≠ 0 := Nat.ne_of_gt hlimit
      have hlisting : objectListing db applicationId
          { query with startAfter := last.map Entry.entryKey } =
            objectListing db applicationId query := rfl
      simp only [listCurrentS3Objects, hvalid, hlisting, if_neg hpositive, collect_eq hrows]
      rfl

end Objects

end MediaHub.Store.Listing
