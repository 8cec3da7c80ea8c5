import SelfCheckout.Report.Check
import SelfCheckout.Inventory.Conservation
import Mathlib.Data.Multiset.OrderedMonoid
import Mathlib.Algebra.Order.BigOperators.Group.List

namespace SelfCheckout.Report

open SelfCheckout.Data

/-! # What a passing check says of the stores

The check compares per-SKU sums and sets of transaction names.  The sums make the
units all APPLIED adjustments hold the items all COMPLETED transactions sold; an
adjustment within its transaction's items can then be short only if another one of
a COMPLETED transaction makes up for it.
-/

/-- Parts that are each at most as large and have the same sum are equal. -/
theorem eq_of_sum_eq_of_le {Item Amount : Type*} [AddCommMonoid Amount] [PartialOrder Amount]
    [IsOrderedCancelAddMonoid Amount] {items : List Item} {part whole : Item → Amount}
    (below : ∀ item ∈ items, part item ≤ whole item)
    (sums : (items.map part).sum = (items.map whole).sum) :
    ∀ item ∈ items, part item = whole item := by
  induction items with
  | nil =>
      intro item member
      contradiction
  | cons first items ih =>
      have rest : ∀ item ∈ items, part item ≤ whole item :=
        fun item member => below item (List.mem_cons_of_mem _ member)
      simp only [List.map_cons, List.sum_cons] at sums
      have both := (add_eq_add_iff_eq_and_eq (below first List.mem_cons_self)
        (List.sum_le_sum rest)).mp sums
      intro item member
      rcases List.mem_cons.mp member with rfl | later
      · exact both.1
      · exact ih rest both.2 item later

/-- Splitting by a key and adding up again, over distinct keys. -/
theorem sum_filter_key {Item Key : Type*} [DecidableEq Key] (items : Multiset Item)
    (key : Item → Key) {keys : List Key} (nodup : keys.Nodup) :
    (keys.map (fun each => items.filter (fun item => key item = each))).sum =
      items.filter (fun item => key item ∈ keys) := by
  induction keys with
  | nil => simp
  | cons first keys ih =>
      obtain ⟨fresh, nodup⟩ := List.nodup_cons.mp nodup
      have disjoint : items.filter (fun item => key item = first ∧ key item ∈ keys) = 0 := by
        apply Multiset.filter_eq_nil.mpr
        intro item _ both
        exact fresh (both.1 ▸ both.2)
      rw [List.map_cons, List.sum_cons, ih nodup, Multiset.filter_add_filter, disjoint, add_zero]
      simp only [List.mem_cons]

/-- The items of a transaction. -/
def itemsOf (db : Checkout.Database) (tx : TxId) : Multiset Sku :=
  ((db.items : Multiset Checkout.TransactionItem).filter
    (fun item => item.transactionId = tx)).map Checkout.TransactionItem.sku

/-- The units the lines of an adjustment name. -/
def unitsOf (lines : List (Sku × Nat)) : Multiset Sku :=
  (lines.map (fun line => Multiset.replicate line.2 line.1)).sum

/-- The adjustment of this attempt is APPLIED and holds these lines. -/
def Holds (db : Inventory.Database) (attempt : Attempt) (lines : List (Sku × Nat)) : Prop :=
  db.adjustments.lookup attempt = some (.applied lines)

/-- The pairs of stores the check is for.  Both services are quiescent: the two
reports describe these stores. -/
structure Premises (checkout : CheckoutStore) (inventory : InventoryStore) : Prop where
  conserved : ∀ sku row, inventory.database.stock.lookup sku = some row →
    row.initialStock - row.currentStock =
      Inventory.appliedTotal inventory.database.adjustments sku
  positive : ∀ attempt adjustment lines,
    inventory.database.adjustments.lookup attempt = some adjustment →
    adjustment.lines = .taken lines → ∀ line ∈ lines, 0 < line.2
  within : ∀ attempt adjustment lines,
    inventory.database.adjustments.lookup attempt = some adjustment →
    adjustment.lines = .taken lines →
    unitsOf lines ≤ itemsOf checkout.database attempt.transactionId

/-- Each sale took its own items from the stock, once. -/
structure Reconciled (checkout : CheckoutStore) (inventory : InventoryStore) : Prop where
  sold : ∀ tx, isCompleted checkout.database tx = true → ∃ epoch lines,
    Holds inventory.database ⟨tx, epoch⟩ lines ∧ unitsOf lines = itemsOf checkout.database tx ∧
    ∀ other lines, Holds inventory.database ⟨tx, other⟩ lines → other = epoch
  unsold : ∀ attempt lines, Holds inventory.database attempt lines →
    isCompleted checkout.database attempt.transactionId = true

/-- No transaction has APPLIED adjustments at two epochs. -/
def HeldOnce (db : Inventory.Database) : Prop :=
  ∀ tx first second lines others, Holds db ⟨tx, first⟩ lines → Holds db ⟨tx, second⟩ others →
    first = second

/-- All items of COMPLETED transactions. -/
def soldItems (db : Checkout.Database) : Multiset Sku :=
  ((db.items : Multiset Checkout.TransactionItem).filter
    (fun item => isCompleted db item.transactionId = true)).map Checkout.TransactionItem.sku

/-- The APPLIED adjustments with their lines. -/
def heldRows (db : Inventory.Database) : List (Attempt × List (Sku × Nat)) :=
  db.adjustments.rows.filterMap (fun row =>
    match row.2 with
    | .applied lines => some (row.1, lines)
    | .rejected _ => none
    | .released _ => none)

theorem count_unitsOf (lines : List (Sku × Nat)) (sku : Sku) :
    (unitsOf lines).count sku = units lines sku := by
  induction lines with
  | nil => simp [unitsOf]
  | cons line lines ih =>
      simp only [unitsOf] at ih
      simp [unitsOf, Multiset.count_replicate, ih]

theorem mem_heldRows {db : Inventory.Database} {attempt : Attempt} {lines : List (Sku × Nat)} :
    (attempt, lines) ∈ heldRows db ↔ Holds db attempt lines := by
  unfold Holds heldRows
  rw [Table.lookup_eq_some, List.mem_filterMap]
  constructor
  · intro found
    obtain ⟨⟨other, adjustment⟩, member, same⟩ := found
    cases adjustment with
    | applied held =>
        cases same
        exact member
    | rejected short => contradiction
    | released held => contradiction
  · intro member
    exact ⟨_, member, rfl⟩

theorem nodup_heldRows (db : Inventory.Database) : ((heldRows db).map Prod.fst).Nodup := by
  have inside : ((heldRows db).map Prod.fst).Sublist (db.adjustments.rows.map Prod.fst) := by
    unfold heldRows
    induction db.adjustments.rows with
    | nil => exact List.nil_sublist _
    | cons row rows ih =>
        rcases row with ⟨attempt, adjustment⟩
        cases adjustment with
        | applied lines => exact ih.cons_cons attempt
        | rejected short => exact ih.cons attempt
        | released lines => exact ih.cons attempt
  exact db.adjustments.keysNodup.sublist inside

/-- What the APPLIED adjustments hold of a SKU is what the ledger counts. -/
theorem count_held (db : Inventory.Database) (sku : Sku) :
    (((heldRows db).map (fun row => unitsOf row.2)).sum.count sku : Int) =
      Inventory.appliedTotal db.adjustments sku := by
  unfold heldRows Inventory.appliedTotal Table.sum
  induction db.adjustments.rows with
  | nil => simp
  | cons row rows ih =>
      rcases row with ⟨attempt, adjustment⟩
      cases adjustment with
      | applied lines =>
          simp only [List.filterMap_cons, List.map_cons, List.sum_cons, Multiset.count_add,
            Nat.cast_add, count_unitsOf, Inventory.appliedUnits, ih]
      | rejected short => simpa [Inventory.appliedUnits] using ih
      | released lines => simpa [Inventory.appliedUnits] using ih

theorem txName_injective {first second : TxId} (same : txName first = txName second) :
    first = second := by
  have digits : Nat.toDigits 10 first = Nat.toDigits 10 second := by
    have lists := congrArg String.toList same
    simpa [txName, Nat.toString_eq_repr, Nat.toList_repr] using lists
  have values := congrArg (fun list => Nat.ofDigitChars 10 list 0) digits
  simpa using values

theorem mem_completedIds {db : Checkout.Database} {tx : TxId} :
    tx ∈ completedIds db ↔ isCompleted db tx = true := by
  unfold completedIds isCompleted
  rw [(List.perm_insertionSort _ _).mem_iff, Option.any_eq_true_iff_get]
  constructor
  · intro member
    obtain ⟨row, listed, rfl⟩ := List.mem_map.mp member
    obtain ⟨stored, completed⟩ := List.mem_filter.mp listed
    have found := Table.lookup_eq_some.mpr stored
    simpa [found] using completed
  · intro found
    obtain ⟨present, completed⟩ := found
    have stored := Table.lookup_eq_some.mp (Option.some_get present).symm
    exact List.mem_map.mpr ⟨_, List.mem_filter.mpr ⟨stored, completed⟩, rfl⟩

theorem nodup_completedIds (db : Checkout.Database) : (completedIds db).Nodup := by
  unfold completedIds
  rw [(List.perm_insertionSort _ _).nodup_iff]
  exact db.transactions.keysNodup.sublist (List.filter_sublist.map Prod.fst)

theorem sum_itemsOf_completed (db : Checkout.Database) :
    ((completedIds db).map (itemsOf db)).sum = soldItems db := by
  have parts := sum_filter_key (db.items : Multiset Checkout.TransactionItem)
    Checkout.TransactionItem.transactionId (nodup_completedIds db)
  have mapped := congrArg (Multiset.map Checkout.TransactionItem.sku) parts
  simp only [mem_completedIds] at mapped
  unfold soldItems
  rw [← mapped, ← Multiset.coe_mapAddMonoidHom, map_list_sum, List.map_map]
  rfl

theorem mem_adjustmentsIn_applied {db : Inventory.Database} {tx : TxId} :
    txName tx ∈ adjustmentsIn db .applied ↔ ∃ epoch lines, Holds db ⟨tx, epoch⟩ lines := by
  unfold adjustmentsIn adjustments
  constructor
  · intro member
    obtain ⟨entry, listed, named⟩ := List.mem_map.mp member
    obtain ⟨sorted, state⟩ := List.mem_filter.mp listed
    rw [(List.perm_insertionSort _ _).mem_iff] at sorted
    obtain ⟨⟨attempt, adjustment⟩, stored, rfl⟩ := List.mem_map.mp sorted
    cases txName_injective named
    cases adjustment with
    | applied lines => exact ⟨attempt.epoch, lines, Table.lookup_eq_some.mpr stored⟩
    | rejected short => simp [Inventory.Adjustment.state] at state
    | released lines => simp [Inventory.Adjustment.state] at state
  · intro held
    obtain ⟨epoch, lines, holds⟩ := held
    refine List.mem_map.mpr ⟨(tx, .applied), List.mem_filter.mpr ⟨?_, by simp⟩, rfl⟩
    rw [(List.perm_insertionSort _ _).mem_iff]
    exact List.mem_map.mpr ⟨_, Table.lookup_eq_some.mp holds, rfl⟩

theorem soldOf_soldReport (store : CheckoutStore) (sku : Sku) :
    (soldReport store).soldOf sku = (soldItems store.database).count sku := by
  unfold SoldReport.soldOf soldReport
  simp only [soldBySku]
  rw [← units_eq_lookupRows (nodup_merge_keys _), units_merge, soldItems]
  have keyed := units_map_const
    ((store.database.items.filter (fun item =>
      isCompleted store.database item.transactionId)).map Checkout.TransactionItem.sku) 1 sku
  simpa [List.map_map, Function.comp_def] using keyed

theorem mem_stockLines {db : Inventory.Database} {line : StockLine} :
    line ∈ stockLines db ↔
      db.stock.lookup line.sku = some ⟨line.current, line.initial⟩ := by
  unfold stockLines
  rw [(List.perm_insertionSort _ _).mem_iff, Table.lookup_eq_some]
  constructor
  · intro member
    obtain ⟨row, stored, rfl⟩ := List.mem_map.mp member
    exact stored
  · intro stored
    exact List.mem_map.mpr ⟨_, stored, rfl⟩

section Counting

variable {checkout : CheckoutStore} {inventory : InventoryStore}

/-- A transaction has an APPLIED adjustment exactly if it is COMPLETED. -/
theorem Passes.held_iff (passes : Passes (soldReport checkout) (stockReport inventory)) (tx : TxId) :
    (∃ epoch lines, Holds inventory.database ⟨tx, epoch⟩ lines) ↔
      isCompleted checkout.database tx = true := by
  have named := passes.reserved (txName tx)
  simp only [stockReport, soldReport, mem_adjustmentsIn_applied] at named
  rw [named, ← mem_completedIds]
  constructor
  · intro listed
    obtain ⟨other, member, same⟩ := List.mem_map.mp listed
    exact txName_injective same ▸ member
  · exact fun member => List.mem_map_of_mem member

theorem Premises.held_le (premises : Premises checkout inventory) {attempt : Attempt}
    {lines : List (Sku × Nat)} (held : (attempt, lines) ∈ heldRows inventory.database) :
    unitsOf lines ≤ itemsOf checkout.database attempt.transactionId :=
  premises.within attempt (.applied lines) lines (mem_heldRows.mp held) rfl

theorem itemsOf_le_soldItems {db : Checkout.Database} {tx : TxId}
    (completed : isCompleted db tx = true) : itemsOf db tx ≤ soldItems db := by
  unfold itemsOf soldItems
  apply Multiset.map_le_map
  apply Multiset.monotone_filter_right
  intro item same
  exact same ▸ completed

/-- The APPLIED adjustments together hold exactly what was sold. -/
theorem Passes.held_eq_sold (passes : Passes (soldReport checkout) (stockReport inventory))
    (premises : Premises checkout inventory) :
    ((heldRows inventory.database).map (fun row => unitsOf row.2)).sum =
      soldItems checkout.database := by
  apply Multiset.ext.mpr
  intro sku
  cases stocked : inventory.database.stock.lookup sku with
  | some row =>
      have line := passes.balanced ⟨sku, row.initialStock, row.currentStock⟩
        (mem_stockLines.mpr stocked)
      rw [soldOf_soldReport] at line
      have ledger := premises.conserved sku row stocked
      rw [← count_held] at ledger
      exact Int.ofNat_inj.mp (ledger.symm.trans line)
  | none =>
      -- A SKU that Inventory does not stock was never sold, so no adjustment names it.
      have unsold : (soldItems checkout.database).count sku = 0 := by
        by_contra sold
        have listed : sku ∈ (soldBySku checkout.database).map Prod.fst := by
          have item := Multiset.count_ne_zero.mp sold
          unfold soldBySku
          rw [mem_merge_keys, List.map_map]
          simpa [soldItems] using item
        obtain ⟨line, member, rfl⟩ := List.mem_map.mp (passes.known sku listed)
        rw [mem_stockLines.mp member] at stocked
        contradiction
      rw [unsold, ← Multiset.coe_countAddMonoidHom, map_list_sum, List.sum_eq_zero]
      intro amount member
      obtain ⟨units, listed, rfl⟩ := List.mem_map.mp member
      obtain ⟨⟨attempt, lines⟩, held, rfl⟩ := List.mem_map.mp listed
      have completed := (passes.held_iff attempt.transactionId).mp
        ⟨attempt.epoch, lines, mem_heldRows.mp held⟩
      have below := (premises.held_le held).trans (itemsOf_le_soldItems completed)
      exact Nat.le_zero.mp (unsold ▸ Multiset.count_le_of_le sku below)

/-- Held once, the APPLIED adjustments are one for each COMPLETED transaction. -/
theorem Passes.held_perm (passes : Passes (soldReport checkout) (stockReport inventory))
    (once : HeldOnce inventory.database) :
    ((heldRows inventory.database).map (fun row => row.1.transactionId)).Perm
      (completedIds checkout.database) := by
  have nodup : ((heldRows inventory.database).map (fun row => row.1.transactionId)).Nodup := by
    have distinct : (((heldRows inventory.database).map Prod.fst).map
        Attempt.transactionId).Nodup := by
      apply (nodup_heldRows inventory.database).map_on
      intro first firstMember second secondMember same
      obtain ⟨⟨⟨tx, epoch⟩, lines⟩, held, rfl⟩ := List.mem_map.mp firstMember
      obtain ⟨⟨⟨other, later⟩, others⟩, alsoHeld, rfl⟩ := List.mem_map.mp secondMember
      cases same
      rw [once tx epoch later lines others (mem_heldRows.mp held) (mem_heldRows.mp alsoHeld)]
    simpa [List.map_map, Function.comp_def] using distinct
  apply (List.perm_ext_iff_of_nodup nodup (nodup_completedIds _)).mpr
  intro tx
  rw [mem_completedIds, ← passes.held_iff]
  constructor
  · intro member
    obtain ⟨⟨attempt, lines⟩, held, rfl⟩ := List.mem_map.mp member
    exact ⟨attempt.epoch, lines, mem_heldRows.mp held⟩
  · intro held
    obtain ⟨epoch, lines, holds⟩ := held
    exact List.mem_map.mpr ⟨(⟨tx, epoch⟩, lines), mem_heldRows.mpr holds, rfl⟩

/-- Held once, each APPLIED adjustment is its transaction's items. -/
theorem Passes.held_exactly (passes : Passes (soldReport checkout) (stockReport inventory))
    (premises : Premises checkout inventory) (once : HeldOnce inventory.database)
    {attempt : Attempt} {lines : List (Sku × Nat)}
    (holds : Holds inventory.database attempt lines) :
    unitsOf lines = itemsOf checkout.database attempt.transactionId := by
  have sums : ((heldRows inventory.database).map (fun row => unitsOf row.2)).sum =
      ((heldRows inventory.database).map
        (fun row => itemsOf checkout.database row.1.transactionId)).sum := by
    rw [passes.held_eq_sold premises, ← sum_itemsOf_completed]
    have permuted := (passes.held_perm once).map (itemsOf checkout.database)
    rw [List.map_map] at permuted
    exact permuted.symm.sum_eq
  exact eq_of_sum_eq_of_le (fun row member => premises.held_le member) sums _
    (mem_heldRows.mpr holds)

theorem Reconciled.heldOnce (reconciled : Reconciled checkout inventory) :
    HeldOnce inventory.database := by
  intro tx first second lines others firstHeld secondHeld
  obtain ⟨epoch, _, _, _, only⟩ := reconciled.sold tx (reconciled.unsold _ _ firstHeld)
  exact (only first lines firstHeld).trans (only second others secondHeld).symm

end Counting

/-- Soundness of the check: when it passes, exactly the COMPLETED transactions have
an APPLIED adjustment; each has one, for exactly its items, if and only if no
transaction has APPLIED adjustments at two epochs, which the check does not see. -/
theorem check_sound_iff (checkout : CheckoutStore) (inventory : InventoryStore)
    (analytics : CursorReport) (premises : Premises checkout inventory)
    (passed : (check (soldReport checkout) (scanCountReport checkout) (stockReport inventory)
      analytics).1 = true) :
    (∀ tx, (∃ epoch lines, Holds inventory.database ⟨tx, epoch⟩ lines) ↔
      isCompleted checkout.database tx = true) ∧
    (Reconciled checkout inventory ↔ HeldOnce inventory.database) := by
  have passes := passes_of_check passed
  refine ⟨passes.held_iff, Reconciled.heldOnce, fun once => ?_⟩
  constructor
  case sold =>
    intro tx completed
    obtain ⟨epoch, lines, holds⟩ := (passes.held_iff tx).mpr completed
    refine ⟨epoch, lines, holds, passes.held_exactly premises once holds, ?_⟩
    intro other others held
    exact once tx other epoch others lines held holds
  case unsold =>
    intro attempt lines holds
    exact (passes.held_iff attempt.transactionId).mp ⟨attempt.epoch, lines, holds⟩

/-! Transaction 1 sold two units of one SKU.  Its attempts hold both, or one each. -/

def soldTwo : CheckoutStore :=
  { database :=
      { transactions := Table.empty.put 1
          { status := .completed, itemCount := 2, runningTotalCents := 200,
            totalAmountCents := some 200, startedAt := 0, completedAt := some 5 }
        items := [⟨1, "SKU-000001", 100⟩, ⟨1, "SKU-000001", 100⟩]
        completions := Table.empty.put 1
          { epoch := 2, state := .completed, totalCents := 200, attempts := 0, updatedAt := 5,
            lastError := none }
        outbox := [] }
    scanIds := [1, 2]
    relayPosition := 2
    outbox := []
    now := 9 }

def heldBy (adjustments : Table Attempt Inventory.Adjustment) : InventoryStore :=
  { database :=
      { stock := Table.empty.put "SKU-000001" ⟨0, 2⟩
        adjustments
        alerts := []
        outbox := [] }
    outbox := []
    now := 9 }

def heldWhole : InventoryStore :=
  heldBy (Table.empty.put ⟨1, 2⟩ (.applied [("SKU-000001", 2)]))

def heldInHalves : InventoryStore :=
  heldBy ((Table.empty.put ⟨1, 1⟩ (.applied [("SKU-000001", 1)])).put ⟨1, 2⟩
    (.applied [("SKU-000001", 1)]))

theorem heldBy_conserved {adjustments : Table Attempt Inventory.Adjustment}
    (total : Inventory.appliedTotal adjustments "SKU-000001" = 2) (sku : Sku)
    (row : Inventory.StockRow)
    (found : (heldBy adjustments).database.stock.lookup sku = some row) :
    row.initialStock - row.currentStock = Inventory.appliedTotal adjustments sku := by
  by_cases known : sku = "SKU-000001"
  · subst known
    cases found
    exact total.symm
  · simp [heldBy, known] at found

theorem heldWhole_premises : Premises soldTwo heldWhole := by
  have only : ∀ attempt adjustment,
      heldWhole.database.adjustments.lookup attempt = some adjustment →
      attempt = ⟨1, 2⟩ ∧ adjustment = .applied [("SKU-000001", 2)] := by
    intro attempt adjustment found
    simpa [heldWhole, heldBy, eq_comm] using found
  constructor
  case conserved => exact heldBy_conserved (by decide)
  case positive =>
    intro attempt adjustment lines found taken
    obtain ⟨rfl, rfl⟩ := only attempt adjustment found
    cases taken
    decide
  case within =>
    intro attempt adjustment lines found taken
    obtain ⟨rfl, rfl⟩ := only attempt adjustment found
    cases taken
    decide

theorem heldInHalves_premises : Premises soldTwo heldInHalves := by
  have both : ∀ attempt adjustment,
      heldInHalves.database.adjustments.lookup attempt = some adjustment →
      attempt.transactionId = 1 ∧ adjustment = .applied [("SKU-000001", 1)] := by
    intro attempt adjustment found
    simp only [heldInHalves, heldBy, Table.lookup_put] at found
    split at found
    · rename_i second
      cases found
      exact ⟨second ▸ rfl, rfl⟩
    · split at found
      · rename_i first
        cases found
        exact ⟨first ▸ rfl, rfl⟩
      · contradiction
  constructor
  case conserved => exact heldBy_conserved (by decide)
  case positive =>
    intro attempt adjustment lines found taken
    obtain ⟨_, rfl⟩ := both attempt adjustment found
    cases taken
    decide
  case within =>
    intro attempt adjustment lines found taken
    obtain ⟨same, rfl⟩ := both attempt adjustment found
    cases taken
    rw [same]
    decide

theorem check_sound_iff_heldWhole :
    (∀ tx, (∃ epoch lines, Holds heldWhole.database ⟨tx, epoch⟩ lines) ↔
      isCompleted soldTwo.database tx = true) ∧
    (Reconciled soldTwo heldWhole ↔ HeldOnce heldWhole.database) :=
  check_sound_iff soldTwo heldWhole ⟨2⟩ heldWhole_premises (by decide +kernel)

/-- The check passes although two attempts of one sale hold a part of it each. -/
theorem check_misses_second_reservation :
    ¬ ∀ (checkout : CheckoutStore) (inventory : InventoryStore) (analytics : CursorReport),
      Premises checkout inventory →
      (check (soldReport checkout) (scanCountReport checkout) (stockReport inventory)
        analytics).1 = true →
      Reconciled checkout inventory := by
  intro sound
  have reconciled := sound soldTwo heldInHalves ⟨2⟩ heldInHalves_premises (by decide +kernel)
  have once := reconciled.heldOnce 1 1 2 _ _ rfl rfl
  contradiction

end SelfCheckout.Report
