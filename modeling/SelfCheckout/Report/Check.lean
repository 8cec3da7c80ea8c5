import SelfCheckout.Checkout.Tables
import SelfCheckout.Inventory.Reserve

namespace SelfCheckout.Report

open SelfCheckout.Data

/-! # The cross-store check

The reports Checkout, Inventory and Analytics give of their own data, and
`check` of `verify_invariant.py` over them.  A report is what the endpoint's JSON
holds; `check` returns its verdict and the lines it prints.
-/

/-- The columns of an outbox row that its report reads. -/
structure OutboxRow where
  createdAt : Time
  publishedAt : Option Time
deriving DecidableEq, Repr

/-- Checkout's store at the time of its report: its tables, the ids of `transaction_item`,
the relay's saved position and the rows of the outbox. -/
structure CheckoutStore where
  database : Checkout.Database
  scanIds : List Nat
  relayPosition : Nat
  outbox : List OutboxRow
  now : Time

structure InventoryStore where
  database : Inventory.Database
  outbox : List OutboxRow
  now : Time

/-- `/internal/reports/sold-by-sku` -/
structure SoldReport where
  sold : List (Sku × Nat)
  completing : Nat
  openCompletions : Nat
  completedTransactions : List String
deriving DecidableEq, Repr

/-- `/internal/reports/scan-count`; the last two keys are read with a default. -/
structure ScanCountReport where
  scans : Nat
  maxScanId : Nat
  relayPosition : Option Nat
  unpublishedOutbox : Option Nat
deriving DecidableEq, Repr

structure StockLine where
  sku : Sku
  initial : Int
  current : Int
deriving DecidableEq, Repr

/-- `/internal/reports/stock` of Inventory. -/
structure StockReport where
  unpublishedOutbox : Option Nat
  stock : List StockLine
  applied : List String
  released : List String
deriving DecidableEq, Repr

/-- `/internal/reports/cursor` of Analytics. -/
structure CursorReport where
  lastScanId : Nat
deriving DecidableEq, Repr

/-- `tx-<id>` -/
def txName (tx : TxId) : String := "tx-" ++ toString tx

def isCompleted (db : Checkout.Database) (tx : TxId) : Bool :=
  (db.transactions.lookup tx).any (fun row => decide (row.status = .completed))

/-- `_SOLD_BY_SKU` -/
def soldBySku (db : Checkout.Database) : List (Sku × Nat) :=
  merge ((db.items.filter (fun item => isCompleted db item.transactionId)).map
    (fun item => (item.sku, 1)))

/-- `_COMPLETED_IDS` -/
def completedIds (db : Checkout.Database) : List TxId :=
  ((db.transactions.rows.filter (fun row => decide (row.2.status = .completed))).map
    Prod.fst).insertionSort (· ≤ ·)

/-- `_COMPLETING_COUNT` -/
def completingCount (db : Checkout.Database) : Nat :=
  (db.transactions.rows.filter (fun row => decide (row.2.status = .completing))).length

/-- `_OPEN_COMPLETIONS` -/
def openCompletions (db : Checkout.Database) : Nat :=
  (db.completions.rows.filter (fun row => !row.2.state.terminal)).length

/-- The row is one that `_UNPUBLISHED_COUNT` counts. -/
def OutboxRow.Waits (row : OutboxRow) (age now : Time) : Prop :=
  row.publishedAt = none ∧ row.createdAt + age < now

instance (row : OutboxRow) (age now : Time) : Decidable (row.Waits age now) :=
  inferInstanceAs (Decidable (_ ∧ _))

/-- The `age_s` of `unpublished_count`. -/
def unpublishedAge : Time := 2

/-- `unpublished_count` -/
def unpublishedCount (rows : List OutboxRow) (now : Time) : Nat :=
  (rows.filter (fun row => decide (row.Waits unpublishedAge now))).length

/-- The endpoint `sold_by_sku`. -/
def soldReport (store : CheckoutStore) : SoldReport :=
  { sold := soldBySku store.database
    completing := completingCount store.database
    openCompletions := openCompletions store.database
    completedTransactions := (completedIds store.database).map txName }

/-- The endpoint `scan_count`. -/
def scanCountReport (store : CheckoutStore) : ScanCountReport :=
  { scans := store.scanIds.length
    maxScanId := store.scanIds.foldl max 0
    relayPosition := some store.relayPosition
    unpublishedOutbox := some (unpublishedCount store.outbox store.now) }

/-- `_STOCK_REPORT` -/
def stockLines (db : Inventory.Database) : List StockLine :=
  (db.stock.rows.map (fun row =>
    { sku := row.1, initial := row.2.initialStock, current := row.2.currentStock })).insertionSort
      (fun left right => left.sku ≤ right.sku)

/-- `_ADJUSTMENTS`: the epoch and the lines are not selected. -/
def adjustments (db : Inventory.Database) : List (TxId × Inventory.AdjustmentState) :=
  (db.adjustments.rows.map (fun row => (row.1.transactionId, row.2.state))).insertionSort
    (fun left right => left.1 ≤ right.1)

/-- The names of the adjustments in one state, an adjustment each. -/
def adjustmentsIn (db : Inventory.Database) (state : Inventory.AdjustmentState) : List String :=
  ((adjustments db).filter (fun row => decide (row.2 = state))).map (fun row => txName row.1)

/-- The endpoint `stock`. -/
def stockReport (store : InventoryStore) : StockReport :=
  { unpublishedOutbox := some (unpublishedCount store.outbox store.now)
    stock := stockLines store.database
    applied := adjustmentsIn store.database .applied
    released := adjustmentsIn store.database .released }

/-! Each block of `check` is one definition: whether it leaves `ok` as it was, and
the lines it appends.
-/

structure Finding where
  passed : Bool
  lines : List String
deriving DecidableEq, Repr

/-- `sorted(set(..) - set(..))` -/
def sortedDifference (names others : List String) : List String :=
  ((names.filter (fun name => decide (name ∉ others))).dedup).insertionSort (· ≤ ·)

def singleQuote : Char := Char.ofNat 39
def doubleQuote : Char := Char.ofNat 34
def backslash : Char := Char.ofNat 92

/-- `repr` of a string of printable characters. -/
def quoted (text : String) : String :=
  let quote :=
    if singleQuote ∈ text.toList ∧ doubleQuote ∉ text.toList then doubleQuote else singleQuote
  String.ofList ([quote] ++ text.toList.flatMap (fun c =>
    if c = quote ∨ c = backslash then [backslash, c] else [c]) ++ [quote])

/-- `repr` of a list of strings. -/
def quotedList (names : List String) : String :=
  "[" ++ ", ".intercalate (names.map quoted) ++ "]"

/-- The format `:+d`. -/
def signed (amount : Int) : String :=
  if 0 ≤ amount then "+" ++ toString amount else toString amount

def SoldReport.soldOf (checkout : SoldReport) (sku : Sku) : Nat :=
  (Table.lookupRows checkout.sold sku).getD 0

def StockLine.drift (line : StockLine) (checkout : SoldReport) : Int :=
  line.initial - line.current - (checkout.soldOf line.sku : Int)

def mismatched (checkout : SoldReport) (inventory : StockReport) : List StockLine :=
  inventory.stock.filter (fun line =>
    decide (line.initial - line.current ≠ (checkout.soldOf line.sku : Int)))

def negative (inventory : StockReport) : List StockLine :=
  inventory.stock.filter (fun line => decide (line.current < 0))

def unknown (checkout : SoldReport) (inventory : StockReport) : List Sku :=
  sortedDifference (checkout.sold.map Prod.fst) (inventory.stock.map StockLine.sku)

def counts (checkout : SoldReport) (inventory : StockReport) : Finding :=
  let decremented := (inventory.stock.map (fun line => line.initial - line.current)).sum
  { passed := true
    lines := [
      "SKUs checked:          " ++ toString inventory.stock.length,
      "Units decremented:     " ++ toString decremented,
      "Completed line items:  " ++ toString (checkout.sold.map Prod.snd).sum,
      "Negative stock SKUs:   " ++ toString (negative inventory).length,
      "Mismatched SKUs:       " ++ toString (mismatched checkout inventory).length] }

def noStock (inventory : StockReport) : Finding :=
  if inventory.stock.isEmpty then
    ⟨false, ["FAIL: Inventory reports no stock (was it seeded?)"]⟩
  else ⟨true, []⟩

def StockLine.mismatch (line : StockLine) (checkout : SoldReport) : String :=
  "  " ++ line.sku ++ ": initial=" ++ toString line.initial ++ " current=" ++
    toString line.current ++ " sold=" ++ toString (checkout.soldOf line.sku) ++ " drift=" ++
    signed (line.drift checkout)

/-- Per SKU, what is missing is what was sold.  The ten largest drifts are printed,
equal ones in the report's order. -/
def stockAgrees (checkout : SoldReport) (inventory : StockReport) : Finding :=
  let off := mismatched checkout inventory
  let below := negative inventory
  let missing := unknown checkout inventory
  { passed := off.isEmpty && below.isEmpty && missing.isEmpty
    lines :=
      ((off.insertionSort (fun left right =>
          (right.drift checkout).natAbs ≤ (left.drift checkout).natAbs)).take 10).map
        (fun line => line.mismatch checkout) ++
      (below.take 10).map (fun line =>
        "  " ++ line.sku ++ ": NEGATIVE STOCK " ++ toString line.current) ++
      (if missing.isEmpty then [] else
        ["  sold SKUs unknown to Inventory: " ++ quotedList (missing.take 10)]) }

def nothingUnfinished (checkout : SoldReport) : Finding :=
  if checkout.completing ≠ 0 ∨ checkout.openCompletions ≠ 0 then
    ⟨false, ["FAIL: " ++ toString checkout.completing ++ " transaction(s) COMPLETING, " ++
      toString checkout.openCompletions ++ " completion(s) not finished"]⟩
  else ⟨true, []⟩

/-- `set(applied) != set(completed)` -/
def reservationsAgree (checkout : SoldReport) (inventory : StockReport) : Finding :=
  let applied := inventory.applied
  let completed := checkout.completedTransactions
  if applied ⊆ completed ∧ completed ⊆ applied then ⟨true, []⟩
  else
    ⟨false, ["FAIL: APPLIED reservations without a COMPLETED transaction: " ++
      quotedList ((sortedDifference applied completed).take 10) ++
      "; COMPLETED transactions without a reservation: " ++
      quotedList ((sortedDifference completed applied).take 10)]⟩

def analyticsCaughtUp (scanCount : ScanCountReport) (analytics : CursorReport) : Finding :=
  if analytics.lastScanId ≠ scanCount.maxScanId then
    ⟨false, ["FAIL: Analytics has read to scan " ++ toString analytics.lastScanId ++
      ", Checkout holds " ++ toString scanCount.maxScanId]⟩
  else ⟨true, []⟩

def outboxEmpty (name : String) (unpublished : Nat) : Finding :=
  if unpublished ≠ 0 then
    ⟨false, ["FAIL: " ++ name ++ " has " ++ toString unpublished ++
      " outbox row(s) not yet published"]⟩
  else ⟨true, []⟩

def relayCaughtUp (scanCount : ScanCountReport) : Finding :=
  let relay := scanCount.relayPosition.getD scanCount.maxScanId
  if relay ≠ scanCount.maxScanId then
    ⟨false, ["FAIL: Checkout's scan relay has published to scan " ++ toString relay ++
      ", Checkout holds " ++ toString scanCount.maxScanId]⟩
  else ⟨true, []⟩

def pending (scanCount : ScanCountReport) (inventory : StockReport) : Finding :=
  let relay := scanCount.relayPosition.getD scanCount.maxScanId
  { passed := true
    lines := [
      "Outbox rows pending:   " ++
        toString (scanCount.unpublishedOutbox.getD 0 + inventory.unpublishedOutbox.getD 0),
      "Scans relayed / held:  " ++ toString relay ++ " / " ++ toString scanCount.maxScanId] }

def findings (checkout : SoldReport) (scanCount : ScanCountReport) (inventory : StockReport)
    (analytics : CursorReport) : List Finding :=
  [counts checkout inventory,
   noStock inventory,
   stockAgrees checkout inventory,
   nothingUnfinished checkout,
   reservationsAgree checkout inventory,
   analyticsCaughtUp scanCount analytics,
   outboxEmpty "Checkout" (scanCount.unpublishedOutbox.getD 0),
   outboxEmpty "Inventory" (inventory.unpublishedOutbox.getD 0),
   relayCaughtUp scanCount,
   pending scanCount inventory]

/-- `check` -/
def check (checkout : SoldReport) (scanCount : ScanCountReport) (inventory : StockReport)
    (analytics : CursorReport) : Bool × List String :=
  let found := findings checkout scanCount inventory analytics
  let ok := found.all Finding.passed
  (ok, found.flatMap Finding.lines ++
    [if ok then
      "\nPASS — initial_stock - current_stock == completed line items, per SKU, and every store agrees"
    else "\nFAIL — see above"])

/-- What a passing check says of the reports. -/
structure Passes (checkout : SoldReport) (inventory : StockReport) : Prop where
  stocked : inventory.stock ≠ []
  balanced : ∀ line ∈ inventory.stock,
    line.initial - line.current = (checkout.soldOf line.sku : Int)
  nonneg : ∀ line ∈ inventory.stock, 0 ≤ line.current
  known : ∀ sku ∈ checkout.sold.map Prod.fst, sku ∈ inventory.stock.map StockLine.sku
  finished : checkout.completing = 0 ∧ checkout.openCompletions = 0
  reserved : ∀ name, name ∈ inventory.applied ↔ name ∈ checkout.completedTransactions

theorem sortedDifference_eq_nil {names others : List String} :
    sortedDifference names others = [] ↔ ∀ name ∈ names, name ∈ others := by
  have permuted := List.perm_insertionSort (· ≤ ·)
    ((names.filter (fun name => decide (name ∉ others))).dedup)
  unfold sortedDifference
  constructor
  · intro empty
    rw [empty] at permuted
    have none := permuted.symm.eq_nil
    simpa [List.dedup_eq_nil, List.filter_eq_nil_iff] using none
  · intro covered
    have none : (names.filter (fun name => decide (name ∉ others))).dedup = [] := by
      simpa [List.dedup_eq_nil, List.filter_eq_nil_iff] using covered
    rw [none]
    rfl

theorem passes_of_check {checkout : SoldReport} {scanCount : ScanCountReport}
    {inventory : StockReport} {analytics : CursorReport}
    (passed : (check checkout scanCount inventory analytics).1 = true) :
    Passes checkout inventory := by
  simp only [check, findings, List.all_cons, List.all_nil, Bool.and_true, Bool.and_eq_true]
    at passed
  obtain ⟨_, hasStock, agrees, finished, reserved, _⟩ := passed
  simp only [stockAgrees, Bool.and_eq_true, List.isEmpty_iff] at agrees
  obtain ⟨⟨balanced, nonneg⟩, known⟩ := agrees
  constructor
  case stocked =>
    intro empty
    simp [noStock, empty] at hasStock
  case balanced =>
    intro line member
    simpa using List.filter_eq_nil_iff.mp balanced line member
  case nonneg =>
    intro line member
    simpa using List.filter_eq_nil_iff.mp nonneg line member
  case known => exact sortedDifference_eq_nil.mp known
  case finished =>
    unfold nothingUnfinished at finished
    split at finished
    · contradiction
    · rename_i idle
      omega
  case reserved =>
    simp only [reservationsAgree] at reserved
    split at reserved
    · rename_i same
      intro name
      exact ⟨fun member => same.1 member, fun member => same.2 member⟩
    · contradiction

end SelfCheckout.Report
