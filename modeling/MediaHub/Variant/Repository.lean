import Mathlib.Tactic.Simps.Basic
import MediaHub.Relational.Rewrite
import MediaHub.Store.Database
import MediaHub.Variant.Transform

namespace MediaHub.Variant

open Relational Relational.Transaction
open MediaHub.Core
open MediaHub.Store (RepositoryError)

abbrev VariantId := Uuid

abbrev Content := List UInt8

inductive VariantState where
  | generating
  | ready
  | failed
  | deletePending
deriving DecidableEq

structure NewVariant where
  id : VariantId
  mediaId : MediaId
  transformKey : List Char
  transform : VariantTransform
  processorVersion : List Char
  storageKey : List Char
  createdAt : Time

/-- A row of `variants`; `parameters_json` and `format` are the transform's. -/
structure VariantRow where
  id : VariantId
  mediaId : MediaId
  transformKey : List Char
  transform : VariantTransform
  processorVersion : List Char
  width : Option Nat
  height : Option Nat
  sizeBytes : Option Nat
  storageKey : List Char
  status : VariantState
  generationToken : Option Uuid
  generationLeaseUntil : Option Time
  lastError : Option String
  lastAccessedAt : Option Time
  createdAt : Time
  updatedAt : Time
deriving DecidableEq

instance : Keyed VariantRow VariantId := ⟨VariantRow.id⟩

inductive VariantClaim where
  | generate (variant : VariantRow) (leaseToken : Uuid)
  | ready (variant : VariantRow)
  | inProgress

abbrev Variants := Table VariantRow

abbrev Transaction := Relational.Transaction Variants RepositoryError

@[simps] def rows : TableIn Variants VariantRow := ⟨id, fun f table => f table, fun _ _ => rfl⟩

/-- The `CHECK` constraints of `variants`. -/
def rowIsValid (row : VariantRow) : Bool :=
  row.width.all (0 < ·) && row.height.all (0 < ·) &&
  row.generationToken.isNone = row.generationLeaseUntil.isNone &&
  (row.status = .generating) = row.generationToken.isSome &&
  (row.status ≠ .ready || row.width.isSome && row.height.isSome && row.sizeBytes.isSome)

/-- `UNIQUE (media_id, transform_key)` -/
def sameVariant (variant : NewVariant) (row : VariantRow) : Bool :=
  row.mediaId = variant.mediaId && row.transformKey = variant.transformKey

/-- The row that `claim_variant` inserts. -/
def insertedRow (variant : NewVariant) (leaseToken : Uuid) (leasedUntil : Time) : VariantRow where
  id := variant.id
  mediaId := variant.mediaId
  transformKey := variant.transformKey
  transform := variant.transform
  processorVersion := variant.processorVersion
  width := none
  height := none
  sizeBytes := none
  storageKey := variant.storageKey
  status := .generating
  generationToken := some leaseToken
  generationLeaseUntil := some (postgresTime leasedUntil)
  lastError := none
  lastAccessedAt := none
  createdAt := postgresTime variant.createdAt
  updatedAt := postgresTime variant.createdAt

/-- `status = 'failed' OR (status = 'generating' AND generation_lease_until <=
CURRENT_TIMESTAMP)` -/
def reclaimable (currentTimestamp : Time) (row : VariantRow) : Bool :=
  row.status = .failed ||
  row.status = .generating && row.generationLeaseUntil.any (· ≤ currentTimestamp)

def reclaim (leaseToken : Uuid) (leasedUntil currentTimestamp : Time) : Update VariantRow where
  apply row :=
    { row with
      status := .generating
      generationToken := some leaseToken
      generationLeaseUntil := some (postgresTime leasedUntil)
      lastError := none
      updatedAt := currentTimestamp }
  key_apply _ := rfl

/-- `ON CONFLICT (media_id, transform_key) DO NOTHING` passes over that conflict only: a taken
`id` or `storage_key` is an error. -/
def claimVariant (variant : NewVariant) (leaseToken : Uuid) (leasedUntil currentTimestamp : Time) :
    Transaction VariantClaim := do
  require (variant.createdAt < leasedUntil) (.invariant "variant lease must end after creation")
  let existing ← query fun table => table.rows.find? (sameVariant variant)
  match existing with
  | none => do
      insertRow rows (insertedRow variant leaseToken leasedUntil)
        (rowIsValid (insertedRow variant leaseToken leasedUntil))
        (fun row => row.storageKey = variant.storageKey)
        (Store.checkViolation "variants" "variants_check") .conflict
      return .generate (insertedRow variant leaseToken leasedUntil) leaseToken
  | some existing =>
      if existing.status = .ready then return .ready existing
      else if reclaimable currentTimestamp existing then do
        updateRow rows existing.id (fun _ => true) (reclaim leaseToken leasedUntil currentTimestamp)
          rowIsValid .notFound (Store.checkViolation "variants" "variants_check")
        return .generate (reclaim leaseToken leasedUntil currentTimestamp existing) leaseToken
      else return .inProgress

def complete (width height size : Nat) (completedAt : Time) : Update VariantRow where
  apply row :=
    { row with
      status := .ready
      width := some width
      height := some height
      sizeBytes := some size
      generationToken := none
      generationLeaseUntil := none
      lastError := none
      lastAccessedAt := some (postgresTime completedAt)
      updatedAt := postgresTime completedAt }
  key_apply _ := rfl

/-- `status = 'generating' AND generation_token = $token AND generation_lease_until > $now` -/
def ownsLease (leaseToken : Uuid) (now : Time) (row : VariantRow) : Bool :=
  row.status = .generating && row.generationToken = some leaseToken &&
  row.generationLeaseUntil.any (postgresTime now < ·)

def completeVariant (variantId : VariantId) (leaseToken : Uuid) (width height size : Nat)
    (completedAt : Time) : Transaction (Option VariantRow) := do
  require (width ≠ 0 ∧ height ≠ 0) (.invariant "variant dimensions must be positive")
  require (width ≤ maxI32) (.invariant "variant width exceeds PostgreSQL INTEGER")
  require (height ≤ maxI32) (.invariant "variant height exceeds PostgreSQL INTEGER")
  require (size ≤ maxI64) (.invariant "numeric value exceeds PostgreSQL BIGINT")
  let row ← query fun table => (table.find? variantId).filter (ownsLease leaseToken completedAt)
  match row with
  | none => return none
  | some row => do
      updateRow rows variantId (fun _ => true) (complete width height size completedAt) rowIsValid
        .notFound (Store.checkViolation "variants" "variants_check")
      return some (complete width height size completedAt row)

def markFailed (errorSummary : String) (failedAt : Time) : Update VariantRow where
  apply row :=
    { row with
      status := .failed
      generationToken := none
      generationLeaseUntil := none
      lastError := some errorSummary
      updatedAt := postgresTime failedAt }
  key_apply _ := rfl

def failVariant (variantId : VariantId) (leaseToken : Uuid) (errorSummary : String)
    (failedAt : Time) : Transaction Unit := do
  require (errorSummary ≠ "") (.invariant "variant error summary cannot be empty")
  updateRow rows variantId (ownsLease leaseToken failedAt) (markFailed errorSummary failedAt)
    rowIsValid .conflict (Store.checkViolation "variants" "variants_check")

/-- `DELETE FROM variants WHERE media_id = $1`, a part of `finalize_delete`. -/
def deleteVariants (mediaId : MediaId) : Transaction Unit :=
  write fun table => table.deleteWhere fun row => row.mediaId = mediaId

/-- What `CHECK` and `UNIQUE` say of the whole table. -/
structure Constrained (table : Variants) : Prop where
  valid : ∀ row ∈ table, rowIsValid row = true
  variant : ∀ row ∈ table, ∀ other ∈ table, row.mediaId = other.mediaId →
    row.transformKey = other.transformKey → row = other
  storage : ∀ row ∈ table, ∀ other ∈ table, row.storageKey = other.storageKey → row = other

theorem constrained_empty : Constrained ∅ where
  valid row h := absurd h (Table.not_mem_empty row)
  variant row h := absurd h (Table.not_mem_empty row)
  storage row h := absurd h (Table.not_mem_empty row)

theorem sameVariant_iff {variant : NewVariant} {row : VariantRow} :
    sameVariant variant row = true ↔
      row.mediaId = variant.mediaId ∧ row.transformKey = variant.transformKey := by
  simp [sameVariant]

theorem rowIsValid_insertedRow (variant : NewVariant) (leaseToken : Uuid) (leasedUntil : Time) :
    rowIsValid (insertedRow variant leaseToken leasedUntil) = true := by
  simp [rowIsValid, insertedRow]

theorem rowIsValid_reclaim {row : VariantRow} (h : rowIsValid row = true) (leaseToken : Uuid)
    (leasedUntil currentTimestamp : Time) :
    rowIsValid (reclaim leaseToken leasedUntil currentTimestamp row) = true := by
  simp only [rowIsValid, Bool.and_eq_true, decide_eq_true_eq] at h
  simp [rowIsValid, reclaim, h.1.1.1]

theorem rowIsValid_complete {row : VariantRow} {width height size : Nat} (hwidth : width ≠ 0)
    (hheight : height ≠ 0) (completedAt : Time) :
    rowIsValid (complete width height size completedAt row) = true := by
  simp [rowIsValid, complete]
  omega

theorem rowIsValid_markFailed {row : VariantRow} (h : rowIsValid row = true) (errorSummary : String)
    (failedAt : Time) : rowIsValid (markFailed errorSummary failedAt row) = true := by
  simp only [rowIsValid, Bool.and_eq_true, decide_eq_true_eq] at h
  simp [rowIsValid, markFailed, h.1.1.1]

/-- An update that leaves the unique columns alone. -/
theorem Constrained.update {table : Variants} (h : Constrained table) {id : VariantId}
    {change : Update VariantRow} (hmedia : ∀ row, (change row).mediaId = row.mediaId)
    (hkey : ∀ row, (change row).transformKey = row.transformKey)
    (hstorage : ∀ row, (change row).storageKey = row.storageKey)
    (hvalid : ∀ row ∈ table, row.id = id → rowIsValid (change row) = true) :
    Constrained (table.update id change) := by
  have hrow : ∀ row ∈ table.update id change, ∃ old ∈ table,
      (if old.id = id then change old else old) = row ∧ row.mediaId = old.mediaId ∧
        row.transformKey = old.transformKey ∧ row.storageKey = old.storageKey := by
    intro row hmem
    obtain ⟨old, hold, rfl⟩ := Table.mem_update_iff_exists.1 hmem
    refine ⟨old, hold, rfl, ?_⟩
    by_cases hid : Keyed.key old = id
    · rw [if_pos hid]
      exact ⟨hmedia old, hkey old, hstorage old⟩
    · rw [if_neg hid]
      exact ⟨rfl, rfl, rfl⟩
  refine ⟨?_, ?_, ?_⟩
  · intro row hmem
    obtain ⟨old, hold, rfl, -⟩ := hrow row hmem
    split
    · next hid => exact hvalid old hold hid
    · exact h.valid old hold
  · intro row hmem other hother hsame hsameKey
    obtain ⟨old, hold, rfl, hm, hk, -⟩ := hrow row hmem
    obtain ⟨old', hold', rfl, hm', hk', -⟩ := hrow other hother
    rw [h.variant old hold old' hold' (hm.symm.trans (hsame.trans hm'))
      (hk.symm.trans (hsameKey.trans hk'))]
  · intro row hmem other hother hsame
    obtain ⟨old, hold, rfl, -, -, hs⟩ := hrow row hmem
    obtain ⟨old', hold', rfl, -, -, hs'⟩ := hrow other hother
    rw [h.storage old hold old' hold' (hs.symm.trans (hsame.trans hs'))]

theorem Constrained.deleteWhere {table : Variants} (h : Constrained table) (p : VariantRow → Bool) :
    Constrained (table.deleteWhere p) where
  valid row hrow := h.valid row (Table.mem_deleteWhere.1 hrow).1
  variant row hrow other hother :=
    h.variant row (Table.mem_deleteWhere.1 hrow).1 other (Table.mem_deleteWhere.1 hother).1
  storage row hrow other hother :=
    h.storage row (Table.mem_deleteWhere.1 hrow).1 other (Table.mem_deleteWhere.1 hother).1

section Claim

variable {variant : NewVariant} {leaseToken : Uuid} {leasedUntil currentTimestamp : Time}
  {table table' : Variants} {claim : VariantClaim}

/-- A claim inserts a row, finds the ready one, takes over the old one, or is put off. -/
theorem run_claimVariant_ok (h : Constrained table) :
    (claimVariant variant leaseToken leasedUntil currentTimestamp).run table = .ok (claim, table') ↔
      variant.createdAt < leasedUntil ∧
      ((table.rows.find? (sameVariant variant) = none ∧ table.find? variant.id = none ∧
          (∀ row ∈ table, row.storageKey ≠ variant.storageKey) ∧
          table' = table.insert (insertedRow variant leaseToken leasedUntil) ∧
          claim = .generate (insertedRow variant leaseToken leasedUntil) leaseToken) ∨
        ∃ row, table.rows.find? (sameVariant variant) = some row ∧
          ((row.status = .ready ∧ table' = table ∧ claim = .ready row) ∨
            (row.status ≠ .ready ∧ reclaimable currentTimestamp row = true ∧
              table' = table.update row.id (reclaim leaseToken leasedUntil currentTimestamp) ∧
              claim = .generate (reclaim leaseToken leasedUntil currentTimestamp row) leaseToken) ∨
            (row.status ≠ .ready ∧ reclaimable currentTimestamp row = false ∧ table' = table ∧
              claim = .inProgress))) := by
  rw [claimVariant, run_bind_ok]
  simp only [run_require_ok, run_bind_ok, run_query_ok]
  cases hfind : table.rows.find? (sameVariant variant) with
  | none =>
      constructor
      · rintro ⟨_, _, ⟨hlease, rfl⟩, _, _, ⟨rfl, rfl⟩, hrun⟩
        rw [hfind] at hrun
        simp only [run_bind_ok, run_insertRow_ok, run_pure_ok] at hrun
        obtain ⟨_, _, ⟨-, hfresh, hclash, rfl⟩, rfl, rfl⟩ := hrun
        exact ⟨hlease,
          Or.inl ⟨rfl, hfresh, fun row hrow => by simpa using hclash row hrow, rfl, rfl⟩⟩
      · rintro ⟨hlease, ⟨-, hfresh, hclash, rfl, rfl⟩ | ⟨row, hrow, -⟩⟩
        · refine ⟨(), table, ⟨hlease, rfl⟩, _, _, ⟨rfl, rfl⟩, ?_⟩
          rw [hfind]
          simp only [run_bind_ok, run_insertRow_ok, run_pure_ok]
          exact ⟨(), _, ⟨rowIsValid_insertedRow _ _ _, hfresh,
            fun row hrow => by simpa using hclash row hrow, rfl⟩, trivial, rfl⟩
        · simp at hrow
  | some row =>
      have hmem : row ∈ table := List.mem_of_find?_eq_some hfind
      constructor
      · rintro ⟨_, _, ⟨hlease, rfl⟩, _, _, ⟨rfl, rfl⟩, hrun⟩
        rw [hfind] at hrun
        simp only [run_ite_ok, run_bind_ok, run_updateRow_ok, run_pure_ok] at hrun
        refine ⟨hlease, Or.inr ⟨row, rfl, ?_⟩⟩
        rcases hrun with
          ⟨hready, rfl, rfl⟩ | ⟨hready, ⟨hold, _, _, ⟨-, rfl⟩, rfl, rfl⟩ | ⟨hold, rfl, rfl⟩⟩
        · exact Or.inl ⟨hready, rfl, rfl⟩
        · exact Or.inr (Or.inl ⟨hready, hold, rfl, rfl⟩)
        · exact Or.inr (Or.inr ⟨hready, by simpa using hold, rfl, rfl⟩)
      · rintro ⟨hlease, ⟨hnone, -⟩ | ⟨row', hrow', hcase⟩⟩
        · simp at hnone
        obtain rfl : row = row' := Option.some.inj hrow'
        refine ⟨(), table, ⟨hlease, rfl⟩, _, _, ⟨rfl, rfl⟩, ?_⟩
        rw [hfind]
        simp only [run_ite_ok, run_bind_ok, run_updateRow_ok, run_pure_ok]
        rcases hcase with ⟨hready, rfl, rfl⟩ | ⟨hready, hold, rfl, rfl⟩ | ⟨hready, hold, rfl, rfl⟩
        · exact Or.inl ⟨hready, rfl, rfl⟩
        · exact Or.inr ⟨hready, Or.inl ⟨hold, (), _, ⟨⟨row, hmem, rfl, trivial,
            rowIsValid_reclaim (h.valid row hmem) _ _ _⟩, rfl⟩, rfl, rfl⟩⟩
        · exact Or.inr ⟨hready, Or.inr ⟨by simp [hold], rfl, rfl⟩⟩

end Claim

theorem Constrained.claimVariant {variant : NewVariant} {leaseToken : Uuid}
    {leasedUntil currentTimestamp : Time} {table table' : Variants} {claim : VariantClaim}
    (h : Constrained table)
    (hrun : (claimVariant variant leaseToken leasedUntil currentTimestamp).run table =
      .ok (claim, table')) : Constrained table' := by
  obtain ⟨-, ⟨hnone, hfresh, hstorage, rfl, -⟩ | ⟨row, hrow, hcase⟩⟩ :=
    (run_claimVariant_ok h).1 hrun
  · have hnew : ∀ row ∈ table, ¬ (row.mediaId = variant.mediaId ∧
        row.transformKey = variant.transformKey) := by
      intro row hrow hsame
      exact List.find?_eq_none.1 hnone row hrow (sameVariant_iff.2 hsame)
    refine ⟨?_, ?_, ?_⟩
    · intro row hrow
      rcases (Table.mem_insert hfresh).1 hrow with rfl | hrow
      · exact rowIsValid_insertedRow _ _ _
      · exact h.valid row hrow
    · intro row hrow other hother hmedia hkey
      rcases (Table.mem_insert hfresh).1 hrow with rfl | hrow
      · rcases (Table.mem_insert hfresh).1 hother with rfl | hother
        · rfl
        · exact absurd ⟨hmedia.symm, hkey.symm⟩ (hnew other hother)
      · rcases (Table.mem_insert hfresh).1 hother with rfl | hother
        · exact absurd ⟨hmedia, hkey⟩ (hnew row hrow)
        · exact h.variant row hrow other hother hmedia hkey
    · intro row hrow other hother hsame
      rcases (Table.mem_insert hfresh).1 hrow with rfl | hrow
      · rcases (Table.mem_insert hfresh).1 hother with rfl | hother
        · rfl
        · exact absurd hsame.symm (hstorage other hother)
      · rcases (Table.mem_insert hfresh).1 hother with rfl | hother
        · exact absurd hsame (hstorage row hrow)
        · exact h.storage row hrow other hother hsame
  · rcases hcase with ⟨-, rfl, -⟩ | ⟨-, -, rfl, -⟩ | ⟨-, -, rfl, -⟩
    · exact h
    · exact h.update (fun _ => rfl) (fun _ => rfl) (fun _ => rfl)
        fun row hrow _ => rowIsValid_reclaim (h.valid row hrow) _ _ _
    · exact h

section Lease

variable {variantId : VariantId} {leaseToken : Uuid} {table table' : Variants}

/-- The row whose lease a token holds at a time. -/
def leasedRow (table : Variants) (variantId : VariantId) (leaseToken : Uuid) (now : Time) :
    Option VariantRow :=
  (table.find? variantId).filter (ownsLease leaseToken now)

theorem run_completeVariant_ok {width height size : Nat} {completedAt : Time}
    {found : Option VariantRow} :
    (completeVariant variantId leaseToken width height size completedAt).run table =
        .ok (found, table') ↔
      (width ≠ 0 ∧ height ≠ 0 ∧ width ≤ maxI32 ∧ height ≤ maxI32 ∧ size ≤ maxI64) ∧
      ((leasedRow table variantId leaseToken completedAt = none ∧ found = none ∧ table' = table) ∨
        ∃ row, leasedRow table variantId leaseToken completedAt = some row ∧
          found = some (complete width height size completedAt row) ∧
          table' = table.update variantId (complete width height size completedAt)) := by
  simp only [completeVariant, run_bind_ok, run_require_ok, run_query_ok]
  constructor
  · rintro ⟨_, _, ⟨⟨hwidth, hheight⟩, rfl⟩, _, _, ⟨hwidth', rfl⟩, _, _, ⟨hheight', rfl⟩, _, _,
      ⟨hsize, rfl⟩, _, _, ⟨rfl, rfl⟩, hrun⟩
    refine ⟨⟨hwidth, hheight, hwidth', hheight', hsize⟩, ?_⟩
    cases hleased : leasedRow table variantId leaseToken completedAt with
    | none =>
        rw [leasedRow] at hleased
        rw [hleased] at hrun
        simp only [run_pure_ok] at hrun
        exact Or.inl ⟨rfl, hrun.1.symm, hrun.2.symm⟩
    | some row =>
        rw [leasedRow] at hleased
        rw [hleased] at hrun
        simp only [run_bind_ok, run_updateRow_ok, run_pure_ok] at hrun
        obtain ⟨_, _, ⟨-, rfl⟩, rfl, rfl⟩ := hrun
        exact Or.inr ⟨row, rfl, rfl, rfl⟩
  · rintro ⟨⟨hwidth, hheight, hwidth', hheight', hsize⟩, hcase⟩
    refine ⟨(), table, ⟨⟨hwidth, hheight⟩, rfl⟩, (), table, ⟨hwidth', rfl⟩, (), table,
      ⟨hheight', rfl⟩, (), table, ⟨hsize, rfl⟩, _, _, ⟨rfl, rfl⟩, ?_⟩
    rcases hcase with ⟨hleased, rfl, rfl⟩ | ⟨row, hleased, rfl, rfl⟩
    · rw [leasedRow] at hleased
      rw [hleased]
      simp
    · rw [leasedRow] at hleased
      rw [hleased]
      obtain ⟨hfind, -⟩ := Option.filter_eq_some_iff.1 hleased
      obtain ⟨hmem, hid⟩ := Table.find?_eq_some_iff.1 hfind
      simp only [run_bind_ok, run_updateRow_ok, run_pure_ok]
      exact ⟨(), _,
        ⟨⟨row, hmem, hid, trivial, rowIsValid_complete hwidth hheight completedAt⟩, rfl⟩,
        trivial, rfl⟩

theorem run_failVariant_ok {errorSummary : String} {failedAt : Time} {u : Unit}
    (h : Constrained table) :
    (failVariant variantId leaseToken errorSummary failedAt).run table = .ok (u, table') ↔
      errorSummary ≠ "" ∧ (leasedRow table variantId leaseToken failedAt).isSome ∧
        table' = table.update variantId (markFailed errorSummary failedAt) := by
  simp only [failVariant, run_bind_ok, run_require_ok, run_updateRow_ok, Option.isSome_iff_exists,
    leasedRow, Option.filter_eq_some_iff, Table.find?_eq_some_iff]
  constructor
  · rintro ⟨_, _, ⟨hsummary, rfl⟩, ⟨row, hmem, hid, howns, -⟩, rfl⟩
    exact ⟨hsummary, ⟨row, ⟨hmem, hid⟩, howns⟩, rfl⟩
  · rintro ⟨hsummary, ⟨row, ⟨hmem, hid⟩, howns⟩, rfl⟩
    exact ⟨(), table, ⟨hsummary, rfl⟩, ⟨row, hmem, hid, howns,
      rowIsValid_markFailed (h.valid row hmem) _ _⟩, rfl⟩

end Lease

end MediaHub.Variant
