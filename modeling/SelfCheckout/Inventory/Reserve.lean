import SelfCheckout.Data.Tally
import SelfCheckout.Events
import Mathlib.Data.Int.Order.Basic
import Mathlib.Data.List.Sort

namespace SelfCheckout.Inventory

open SelfCheckout.Data

/-! # Reservation and its compensation

Inventory's tables, the statements of `reserve.py` and the two handlers that run
them.  A function here is one local transaction run alone: it returns what the
source returns together with the committed database, and `none` where the source
raises and its transaction rolls back.
-/

structure StockRow where
  currentStock : Int
  initialStock : Int
deriving DecidableEq, Repr

inductive AdjustmentState where
  | applied
  | released
  | rejected
deriving DecidableEq, Repr

/-- The JSON of a `lines` column: units taken, or the SKUs a refusal names. -/
inductive AdjustmentLines where
  | taken (lines : List (Sku × Nat))
  | short (skus : List Sku)
deriving DecidableEq, Repr

/-- A row of `stock_adjustment`.  Which lines a state can carry is part of the
type; `MARK_RELEASED` leaves the lines it found. -/
inductive Adjustment where
  | applied (lines : List (Sku × Nat))
  | rejected (short : List Sku)
  | released (lines : AdjustmentLines)
deriving DecidableEq, Repr

def Adjustment.state : Adjustment → AdjustmentState
  | .applied _ => .applied
  | .rejected _ => .rejected
  | .released _ => .released

def Adjustment.lines : Adjustment → AdjustmentLines
  | .applied lines => .taken lines
  | .rejected short => .short short
  | .released lines => lines

structure LowStockAlert where
  sku : Sku
  currentStock : Int
  threshold : Int
deriving DecidableEq, Repr

structure Database where
  stock : Table Sku StockRow
  adjustments : Table Attempt Adjustment
  alerts : List LowStockAlert
  outbox : List Outcome

/-- The database the seed leaves: every SKU at its initial level, nothing reserved. -/
def seeded (levels : Table Sku Nat) : Database :=
  { stock := levels.mapValues (fun _ level => ⟨level, level⟩)
    adjustments := Table.empty
    alerts := []
    outbox := [] }

/-- `_normalize`: the quantities merged per SKU, in SKU order. -/
def normalize (lines : List (Sku × Nat)) : List (Sku × Nat) := merge lines

/-- The CTE `locked`: the basket's stock rows, in SKU order. -/
def lockedRows (stock : Table Sku StockRow) (basket : List (Sku × Nat)) : List (Sku × Int) :=
  basket.filterMap (fun line =>
    (stock.lookup line.1).map (fun row => (line.1, row.currentStock)))

/-- `v JOIN locked USING (sku)`, as pairs of the stock and the quantity. -/
def joined (basket : List (Sku × Nat)) (locked : List (Sku × Int)) : List (Int × Nat) :=
  basket.filterMap (fun line =>
    (Table.lookupRows locked line.1).map (fun current => (current, line.2)))

/-- The CTE `ok`.  `bool_and` over no row is null, which `coalesce` makes false. -/
def ok (basket : List (Sku × Nat)) (locked : List (Sku × Int))
    (prior : Option AdjustmentState) : Bool :=
  let pairs := joined basket locked
  decide (pairs.length = basket.length) &&
    (!pairs.isEmpty && pairs.all (fun pair => decide ((pair.2 : Int) ≤ pair.1))) &&
    prior.isNone

/-- The CTE `dec`: SKU, stock after the decrement, quantity. -/
def dec (basket : List (Sku × Nat)) (locked : List (Sku × Int)) : List (Sku × Int × Nat) :=
  basket.filterMap (fun line =>
    (Table.lookupRows locked line.1).map (fun current => (line.1, current - line.2, line.2)))

/-- The CTE `alerts`: the rows of `dec` that crossed the threshold downwards. -/
def crossings (threshold : Int) (decremented : List (Sku × Int × Nat)) : List LowStockAlert :=
  (decremented.filter (fun row =>
    decide (row.2.1 < threshold) && decide (threshold ≤ row.2.1 + row.2.2))).map
      (fun row => { sku := row.1, currentStock := row.2.1, threshold })

/-- How the database orders texts. -/
structure Collation where
  le : Sku → Sku → Bool
  trans : ∀ first second third, le first second → le second third → le first third
  total : ∀ first second, le first second || le second first

/-- The collation `C`. -/
def Collation.codePoint : Collation where
  le first second := decide (first ≤ second)
  trans first second third := by simpa using le_trans
  total first second := by simpa using le_total first second

/-- `array_agg(v.sku ORDER BY v.sku)` of the SKUs that are missing or short, in the database's
order. -/
def shortSkus (basket : List (Sku × Nat)) (locked : List (Sku × Int))
    (collation : Collation := .codePoint) : List Sku :=
  ((basket.filter (fun line =>
    match Table.lookupRows locked line.1 with
    | none => true
    | some current => decide (current < (line.2 : Int)))).map Prod.fst).insertionSort
      (fun first second => collation.le first second)

/-- `_RESTORE`: SKU and stock after the units went back. -/
def restored (lines : List (Sku × Nat)) (locked : List (Sku × Int)) : List (Sku × Int) :=
  lines.filterMap (fun line =>
    (Table.lookupRows locked line.1).map (fun current => (line.1, current + line.2)))

/-- An UPDATE of `inventory_stock` that sets these rows. -/
def writeStock (stock : Table Sku StockRow) (writes : List (Sku × Int)) : Table Sku StockRow :=
  stock.mapValues (fun sku row =>
    match Table.lookupRows writes sku with
    | none => row
    | some current => { row with currentStock := current })

def int4Max : Nat := 2147483647
def int8Max : Nat := 9223372036854775807

/-- The parameters fit the types the statements bind them to; the database driver
or the server raises otherwise. -/
def bindable (attempt : Attempt) (basket : List (Sku × Nat)) : Bool :=
  decide (attempt.transactionId ≤ int8Max) && decide (attempt.epoch ≤ int4Max) &&
    basket.all (fun line => isText line.1 && decide (line.2 ≤ int4Max))

inductive ReserveResult where
  | reserved (replayed : Bool)
  | short (skus : List Sku)
  | alreadyReleased
deriving DecidableEq, Repr

structure Released where
  unitsRestored : Nat
  alreadyReleased : Bool
deriving DecidableEq, Repr

/-- `_recorded`: what the adjustment record answers. -/
def recorded (adjustments : Table Attempt Adjustment) (attempt : Attempt) : Option ReserveResult :=
  (adjustments.lookup attempt).map (fun row =>
    match row with
    | .applied _ => .reserved true
    | .rejected short => .short short
    | .released _ => .alreadyReleased)

/-- `_RESERVE` with its `dec`, `alerts` and `adj`, when `ok` holds. -/
def applyReserve (db : Database) (attempt : Attempt) (basket : List (Sku × Nat))
    (threshold : Int) : Database :=
  let decremented := dec basket (lockedRows db.stock basket)
  { db with
    stock := writeStock db.stock (decremented.map (fun row => (row.1, row.2.1)))
    alerts := db.alerts ++ crossings threshold decremented
    adjustments := db.adjustments.put attempt (.applied basket) }

/-- `_RECORD_REJECTED` when the attempt has no record. -/
def recordRejected (db : Database) (attempt : Attempt) (short : List Sku) : Database :=
  { db with adjustments := db.adjustments.put attempt (.rejected short) }

def reserve (db : Database) (attempt : Attempt) (lines : List (Sku × Nat)) (threshold : Int)
    (collation : Collation := .codePoint) : Option (ReserveResult × Database) :=
  let basket := normalize lines
  if bindable attempt basket then
    let prior := (db.adjustments.lookup attempt).map Adjustment.state
    let locked := lockedRows db.stock basket
    match prior with
    | some .applied => some (.reserved true, db)
    | some .rejected => (recorded db.adjustments attempt).map (fun result => (result, db))
    | some .released => some (.alreadyReleased, db)
    | none =>
        if ok basket locked prior then
          some (.reserved false, applyReserve db attempt basket threshold)
        else
          some (.short (shortSkus basket locked collation),
            recordRejected db attempt (shortSkus basket locked collation))
  else none

/-- The rows `_RESTORE` and `_MARK_RELEASED` leave for an applied attempt. -/
def applyRelease (db : Database) (attempt : Attempt) (lines : List (Sku × Nat)) : Database :=
  let basket := normalize lines
  { db with
    stock := writeStock db.stock (restored basket (lockedRows db.stock basket))
    adjustments := db.adjustments.put attempt (.released (.taken lines)) }

def release (db : Database) (attempt : Attempt) : Option (Released × Database) :=
  if bindable attempt [] then
    match db.adjustments.lookup attempt with
    | none =>
        some (⟨0, false⟩,
          { db with adjustments := db.adjustments.put attempt (.released (.taken [])) })
    | some (.released _) => some (⟨0, true⟩, db)
    | some (.rejected short) =>
        some (⟨0, false⟩,
          { db with adjustments := db.adjustments.put attempt (.released (.short short)) })
    | some (.applied lines) =>
        some (⟨((normalize lines).map Prod.snd).sum, false⟩, applyRelease db attempt lines)
  else none

/-- The outcome event of a reservation request. -/
def ReserveResult.outcome (attempt : Attempt) : ReserveResult → Outcome
  | .reserved replayed => .stockReserved attempt replayed
  | .short skus => .stockRejected attempt skus
  | .alreadyReleased => .reservationRefused attempt

def Released.outcome (attempt : Attempt) (released : Released) : Outcome :=
  .stockReleased attempt released.unitsRestored released.alreadyReleased

def insertOutbox (db : Database) (outcome : Outcome) : Database :=
  { db with outbox := db.outbox ++ [outcome] }

def handleReservation (db : Database) (attempt : Attempt) (lines : List (Sku × Nat))
    (threshold : Int) : Option (Outcome × Database) :=
  (reserve db attempt lines threshold).map (fun done =>
    (done.1.outcome attempt, insertOutbox done.2 (done.1.outcome attempt)))

def handleRelease (db : Database) (attempt : Attempt) : Option (Outcome × Database) :=
  (release db attempt).map (fun done =>
    (done.1.outcome attempt, insertOutbox done.2 (done.1.outcome attempt)))

/-- One request event: `none` where the handler raises. -/
def handle (db : Database) (threshold : Int) : Request → Option (Outcome × Database)
  | .stockReservationRequested attempt lines => handleReservation db attempt lines threshold
  | .stockReleaseRequested attempt => handleRelease db attempt

/-- The database after one delivery: a handler that raises leaves it alone. -/
def deliver (threshold : Int) (db : Database) (request : Request) : Database :=
  ((handle db threshold request).map Prod.snd).getD db

end SelfCheckout.Inventory
