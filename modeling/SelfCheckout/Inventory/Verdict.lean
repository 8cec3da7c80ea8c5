import SelfCheckout.Inventory.Conservation

namespace SelfCheckout.Inventory

open SelfCheckout.Data

/-! # The verdict of a reservation

What the statement `_RESERVE` decides, said of the basket's totals per SKU: the
count against the cardinality, the join and the empty aggregate together refuse
exactly the baskets that name an unknown SKU, ask for too much or are empty.
-/

/-- The SKU is unknown, or its stock does not cover what the basket asks. -/
def Short (stock : Table Sku StockRow) (lines : List (Sku × Nat)) (sku : Sku) : Prop :=
  sku ∈ lines.map Prod.fst ∧
    ∀ row, stock.lookup sku = some row → row.currentStock < ((units lines sku : Nat) : Int)

/-- The key, the SKUs and the totals fit the types they are bound to. -/
structure Fits (attempt : Attempt) (lines : List (Sku × Nat)) : Prop where
  transactionId : attempt.transactionId ≤ int8Max
  epoch : attempt.epoch ≤ int4Max
  skus : ∀ sku ∈ lines.map Prod.fst, isText sku
  totals : ∀ sku, units lines sku ≤ int4Max

theorem bindable_normalize {attempt : Attempt} {lines : List (Sku × Nat)} :
    bindable attempt (normalize lines) = true ↔ Fits attempt lines := by
  simp only [bindable, Bool.and_eq_true, decide_eq_true_eq, List.all_eq_true, and_assoc]
  constructor
  · rintro ⟨transactionId, epoch, each⟩
    refine ⟨transactionId, epoch, fun sku listed => ?_, fun sku => ?_⟩
    · exact (each (sku, units lines sku) (mem_merge.mpr ⟨listed, rfl⟩)).1
    · by_cases listed : sku ∈ lines.map Prod.fst
      · exact (each (sku, units lines sku) (mem_merge.mpr ⟨listed, rfl⟩)).2
      · rw [units_of_not_mem listed]
        exact Nat.zero_le _
  · intro fits
    refine ⟨fits.transactionId, fits.epoch, ?_⟩
    rintro ⟨sku, quantity⟩ member
    obtain ⟨listed, rfl⟩ := mem_merge.mp member
    exact ⟨fits.skus sku listed, fits.totals sku⟩

theorem lookupRows_normalize (lines : List (Sku × Nat)) (sku : Sku) :
    Table.lookupRows (normalize lines) sku =
      if sku ∈ lines.map Prod.fst then some (units lines sku) else none := by
  split
  · rename_i listed
    exact Table.lookupRows_of_mem (nodup_merge_keys lines) (mem_merge.mpr ⟨listed, rfl⟩)
  · rename_i absent
    exact Table.lookupRows_eq_none.mpr (mt mem_merge_keys.mp absent)

theorem lookupRows_lockedRows (stock : Table Sku StockRow) (basket : List (Sku × Nat))
    (sku : Sku) :
    Table.lookupRows (lockedRows stock basket) sku =
      (Table.lookupRows basket sku).bind (fun _ =>
        (stock.lookup sku).map StockRow.currentStock) :=
  Table.lookupRows_join basket stock.lookup (fun row _ => row.currentStock) sku

/-- The current stock of a listed SKU, as `locked` reads it. -/
theorem lookupRows_locked {stock : Table Sku StockRow} {lines : List (Sku × Nat)} {sku : Sku}
    (listed : sku ∈ lines.map Prod.fst) :
    Table.lookupRows (lockedRows stock (normalize lines)) sku =
      (stock.lookup sku).map StockRow.currentStock := by
  simp [lookupRows_lockedRows, lookupRows_normalize, listed]

theorem normalize_eq_nil {lines : List (Sku × Nat)} : normalize lines = [] ↔ lines = [] := by
  constructor
  · intro empty
    cases lines with
    | nil => rfl
    | cons line lines =>
        have listed : line.1 ∈ (normalize (line :: lines)).map Prod.fst :=
          mem_merge_keys.mpr (by simp)
        simp [empty] at listed
  · intro empty
    subst empty
    rfl

/-- `ok` holds of the non-empty baskets in which no SKU is short. -/
theorem ok_locked_iff {stock : Table Sku StockRow} {lines : List (Sku × Nat)} :
    ok (normalize lines) (lockedRows stock (normalize lines)) none = true ↔
      lines ≠ [] ∧ ∀ sku, ¬ Short stock lines sku := by
  rw [ok_iff, Ne, normalize_eq_nil]
  refine and_congr_right fun _ => ?_
  constructor
  · intro both sku short
    obtain ⟨covered, _⟩ := both
    obtain ⟨listed, missing⟩ := short
    obtain ⟨current, read, enough⟩ :=
      covered (sku, units lines sku) (mem_merge.mpr ⟨listed, rfl⟩)
    rw [lookupRows_locked listed] at read
    obtain ⟨row, stocked, rfl⟩ := Option.map_eq_some_iff.mp read
    exact absurd enough (not_le.mpr (missing row stocked))
  · intro noShort
    refine ⟨?_, rfl⟩
    rintro ⟨sku, quantity⟩ member
    obtain ⟨listed, rfl⟩ := mem_merge.mp member
    by_contra missing
    refine noShort sku ⟨listed, fun row stocked => ?_⟩
    by_contra enough
    refine missing ⟨row.currentStock, ?_, not_lt.mp enough⟩
    rw [lookupRows_locked listed, stocked]
    rfl

section ShortSkus

variable {stock : Table Sku StockRow} {lines : List (Sku × Nat)} {collation : Collation}

/-- The aggregate `short` names each short SKU. -/
theorem mem_shortSkus {sku : Sku} :
    sku ∈ shortSkus (normalize lines) (lockedRows stock (normalize lines)) collation ↔
      Short stock lines sku := by
  simp only [shortSkus, List.mem_insertionSort, List.mem_map, List.mem_filter]
  constructor
  · rintro ⟨⟨sku, quantity⟩, ⟨member, missing⟩, rfl⟩
    obtain ⟨listed, rfl⟩ := mem_merge.mp member
    refine ⟨listed, fun row stocked => ?_⟩
    simpa [lookupRows_locked listed, stocked] using missing
  · intro short
    obtain ⟨listed, missing⟩ := short
    refine ⟨(sku, units lines sku), ⟨mem_merge.mpr ⟨listed, rfl⟩, ?_⟩, rfl⟩
    cases stocked : stock.lookup sku with
    | none => simp [lookupRows_locked listed, stocked]
    | some row => simpa [lookupRows_locked listed, stocked] using missing row stocked

theorem shortSkus_sorted :
    (shortSkus (normalize lines) (lockedRows stock (normalize lines)) collation).Pairwise
      (fun first second => collation.le first second) := by
  have total : Std.Total (fun first second : Sku => collation.le first second = true) :=
    ⟨fun first second => by simpa using collation.total first second⟩
  have trans : IsTrans Sku (fun first second => collation.le first second = true) :=
    ⟨collation.trans⟩
  exact List.pairwise_insertionSort _ _

theorem shortSkus_nodup :
    (shortSkus (normalize lines) (lockedRows stock (normalize lines)) collation).Nodup := by
  rw [shortSkus, (List.perm_insertionSort _ _).nodup_iff]
  exact (nodup_merge_keys lines).sublist (List.filter_sublist.map Prod.fst)

end ShortSkus

/-- `dec` takes each SKU's total and touches no other row. -/
theorem lookup_applyReserve {db : Database} {attempt : Attempt} {lines : List (Sku × Nat)}
    (threshold : Int) (sku : Sku) :
    (applyReserve db attempt (normalize lines) threshold).stock.lookup sku =
      (db.stock.lookup sku).map (fun row =>
        { row with currentStock := row.currentStock - ((units lines sku : Nat) : Int) }) := by
  have written := lookupRows_taking (normalize lines) (lockedRows db.stock (normalize lines))
    threshold none sku
  have same : (applyReserve db attempt (normalize lines) threshold).stock =
      writeStock db.stock (taking (normalize lines) (lockedRows db.stock (normalize lines))
        threshold none).stock := rfl
  rw [same, lookup_writeStock, written]
  cases stocked : db.stock.lookup sku with
  | none => rfl
  | some row =>
      by_cases listed : sku ∈ lines.map Prod.fst
      · simp [lookupRows_normalize, listed, lookupRows_locked listed, stocked]
      · simp [lookupRows_normalize, listed, units_of_not_mem listed]

/-- Lines with quantities list exactly the SKUs they give units to. -/
theorem mem_keys_iff_units {lines : List (Sku × Nat)} (positive : ∀ line ∈ lines, 1 ≤ line.2)
    (sku : Sku) : sku ∈ lines.map Prod.fst ↔ 1 ≤ units lines sku := by
  constructor
  · intro listed
    induction lines with
    | nil => simp at listed
    | cons line lines ih =>
        have least := positive line (by simp)
        by_cases here : line.1 = sku
        · rw [units_cons, if_pos here]
          omega
        · have rest : sku ∈ lines.map Prod.fst := by
            simpa [Ne.symm here] using listed
          rw [units_cons, if_neg here, zero_add]
          exact ih (fun line member => positive line (by simp [member])) rest
  · intro some
    by_contra absent
    rw [units_of_not_mem absent] at some
    omega

theorem normalize_congr {left right : List (Sku × Nat)} (leftPositive : ∀ line ∈ left, 1 ≤ line.2)
    (rightPositive : ∀ line ∈ right, 1 ≤ line.2) (same : ∀ sku, units left sku = units right sku) :
    normalize left = normalize right :=
  merge_congr (fun sku => by
    rw [mem_keys_iff_units leftPositive, mem_keys_iff_units rightPositive, same sku]) same

/-- A reservation for a fresh attempt is decided by the totals per SKU. -/
theorem reserve_all_or_nothing (db : Database) (attempt : Attempt) (lines : List (Sku × Nat))
    (threshold : Int) (collation : Collation) (fresh : db.adjustments.lookup attempt = none)
    (positive : ∀ line ∈ lines, 1 ≤ line.2) :
    (∀ other : List (Sku × Nat), (∀ line ∈ other, 1 ≤ line.2) →
      (∀ sku, units other sku = units lines sku) →
      reserve db attempt other threshold collation = reserve db attempt lines threshold collation) ∧
    (¬ Fits attempt lines → reserve db attempt lines threshold collation = none) ∧
    (Fits attempt lines → ∃ result after,
      reserve db attempt lines threshold collation = some (result, after) ∧
      (result = .reserved false ↔ lines ≠ [] ∧ ∀ sku ∈ lines.map Prod.fst,
        ∃ row, db.stock.lookup sku = some row ∧
          ((units lines sku : Nat) : Int) ≤ row.currentStock) ∧
      (result = .reserved false →
        (∀ sku, after.stock.lookup sku = (db.stock.lookup sku).map (fun row =>
          { row with currentStock := row.currentStock - ((units lines sku : Nat) : Int) })) ∧
        after.adjustments = db.adjustments.put attempt (.applied (merge lines))) ∧
      (result ≠ .reserved false → ∃ skus : List Sku, result = .short skus ∧
        skus.Pairwise (fun first second => collation.le first second) ∧ skus.Nodup ∧
        (∀ sku, sku ∈ skus ↔ Short db.stock lines sku) ∧
        after = { db with adjustments := db.adjustments.put attempt (.rejected skus) })) := by
  refine ⟨fun other otherPositive same => ?_, fun unfit => ?_, fun fits => ?_⟩
  · rw [reserve, reserve, normalize_congr otherPositive positive same]
  · have refused : bindable attempt (normalize lines) = false := by
      rw [← Bool.not_eq_true]
      exact mt bindable_normalize.mp unfit
    simp [reserve, refused]
  · have bound := bindable_normalize.mpr fits
    have covered : (∀ sku, ¬ Short db.stock lines sku) ↔ ∀ sku ∈ lines.map Prod.fst,
        ∃ row, db.stock.lookup sku = some row ∧
          ((units lines sku : Nat) : Int) ≤ row.currentStock := by
      simp [Short]
    cases verdict : ok (normalize lines) (lockedRows db.stock (normalize lines)) none with
    | true =>
        refine ⟨.reserved false, applyReserve db attempt (normalize lines) threshold, ?_, ?_,
          fun _ => ⟨lookup_applyReserve threshold, rfl⟩, fun other => absurd rfl other⟩
        · simp [reserve, bound, fresh, verdict]
        · obtain ⟨nonempty, noShort⟩ := ok_locked_iff.mp verdict
          exact iff_of_true rfl ⟨nonempty, covered.mp noShort⟩
    | false =>
        refine ⟨.short (shortSkus (normalize lines) (lockedRows db.stock (normalize lines)) collation),
          _, ?_, ?_, fun same => by contradiction, fun _ => ⟨_, rfl, shortSkus_sorted,
            shortSkus_nodup, fun sku => mem_shortSkus, rfl⟩⟩
        · simp [reserve, bound, fresh, verdict, recordRejected]
        · refine iff_of_false (by simp) fun both => ?_
          have applied := ok_locked_iff.mpr ⟨both.1, covered.mpr both.2⟩
          rw [verdict] at applied
          contradiction

/-- Five units of one SKU and three of another. -/
def shelves : Database :=
  seeded ((Table.empty.put "SKU-000001" 5).put "SKU-000002" 3)

theorem reserve_all_or_nothing_repeatedSku : ∃ after,
    reserve shelves ⟨1, 1⟩ [("SKU-000002", 1), ("SKU-000001", 2), ("SKU-000002", 1)] 2 =
      some (.reserved false, after) ∧
    after.stock.lookup "SKU-000002" = some ⟨1, 3⟩ := by
  obtain ⟨_, _, decided⟩ := reserve_all_or_nothing shelves ⟨1, 1⟩
    [("SKU-000002", 1), ("SKU-000001", 2), ("SKU-000002", 1)] 2 .codePoint rfl (by decide)
  obtain ⟨result, after, returned, applied, taken, _⟩ :=
    decided (bindable_normalize.mp (by decide))
  have reserved := applied.mpr ⟨by decide, by decide⟩
  subst reserved
  exact ⟨after, returned, (taken rfl).1 "SKU-000002"⟩

/-- A total that does not fit the column it is bound to is not refused: the call
raises and records nothing. -/
theorem oversized_total_raises :
    shelves.adjustments.lookup ⟨1, 1⟩ = none ∧
    Short shelves.stock [("SKU-000001", 1073741824), ("SKU-000001", 1073741824)] "SKU-000001" ∧
    reserve shelves ⟨1, 1⟩ [("SKU-000001", 1073741824), ("SKU-000001", 1073741824)] 2 = none := by
  refine ⟨rfl, ⟨by decide, fun row stocked => ?_⟩, by decide⟩
  cases stocked
  decide

end SelfCheckout.Inventory
