import SelfCheckout.Data.Tally
import SelfCheckout.Events
import Mathlib.Data.Prod.Lex

namespace SelfCheckout.Checkout

open SelfCheckout.Data

/-! # Checkout's tables and statements

One definition for each statement of `repo.py` that the completion saga runs.  A
statement is given the clock where it calls `now()`; times are in seconds.
-/

inductive TxStatus where
  | opened
  | completing
  | completed
  | cancelled
deriving DecidableEq, Repr

/-- The states the check constraint of `completion` allows. -/
inductive CompletionState where
  | reserving
  | reserved
  | completed
  | compensating
  | aborted
deriving DecidableEq, Repr

/-- `state IN ('COMPLETED', 'ABORTED')` -/
def CompletionState.terminal : CompletionState → Bool
  | .completed => true
  | .aborted => true
  | .reserving => false
  | .reserved => false
  | .compensating => false

structure Transaction where
  status : TxStatus
  itemCount : Nat
  runningTotalCents : Nat
  totalAmountCents : Option Nat
  startedAt : Time
  completedAt : Option Time
deriving DecidableEq, Repr

structure TransactionItem where
  transactionId : TxId
  sku : Sku
  unitPriceCents : Nat
deriving DecidableEq, Repr

structure Completion where
  epoch : Nat
  state : CompletionState
  totalCents : Nat
  attempts : Nat
  updatedAt : Time
  lastError : Option String
deriving DecidableEq, Repr

/-- Checkout's database.  `items` is in id order, `outbox` holds every request
ever queued. -/
structure Database where
  transactions : Table TxId Transaction
  items : List TransactionItem
  completions : Table TxId Completion
  outbox : List Request

def emptyDatabase : Database :=
  { transactions := Table.empty, items := [], completions := Table.empty, outbox := [] }

/-- `_INSERT_TX`, with the id the identity column gives. -/
def insertTransaction (db : Database) (id : TxId) (now : Time) : Database :=
  { db with
    transactions := db.transactions.put id
      { status := .opened, itemCount := 0, runningTotalCents := 0, totalAmountCents := none,
        startedAt := now, completedAt := none } }

/-- `_SCAN`: nothing happens when the transaction is missing or not OPEN. -/
def scanItem (db : Database) (tx : TxId) (sku : Sku) (priceCents : Nat) : Database :=
  match db.transactions.lookup tx with
  | none => db
  | some row =>
      if row.status = .opened then
        { db with
          transactions := db.transactions.put tx
            { row with
              itemCount := row.itemCount + 1
              runningTotalCents := row.runningTotalCents + priceCents }
          items := db.items ++ [⟨tx, sku, priceCents⟩] }
      else db

/-- `_SWEEP_ABANDONED` -/
def sweepAbandoned (db : Database) (minutes : Nat) (now : Time) : Database :=
  { db with
    transactions := db.transactions.mapValues (fun _ row =>
      if row.status = .opened ∧ row.startedAt + 60 * minutes < now then
        { row with status := .cancelled }
      else row) }

structure BasketLine where
  sku : Sku
  unitPriceCents : Nat
  qty : Nat
deriving DecidableEq, Repr

/-- `_BASKET`: the items grouped by SKU and price, in that order. -/
def getBasket (db : Database) (tx : TxId) : List BasketLine :=
  (merge ((db.items.filter (fun item => decide (item.transactionId = tx))).map (fun item =>
    (toLex (item.sku, item.unitPriceCents), 1)))).map (fun line =>
      ⟨(ofLex line.1).1, (ofLex line.1).2, line.2⟩)

/-- `_lines`: the quantities merged per SKU, in SKU order. -/
def linesOf (basket : List BasketLine) : List (Sku × Nat) :=
  merge (basket.map (fun line => (line.sku, line.qty)))

def totalOf (basket : List BasketLine) : Nat :=
  (basket.map (fun line => line.unitPriceCents * line.qty)).sum

/-- `_MARK_COMPLETING` and `_UPSERT_COMPLETION`, with the epoch they return. -/
def markCompleting (db : Database) (tx : TxId) (totalCents : Nat) (now : Time) : Nat × Database :=
  let epoch :=
    match db.completions.lookup tx with
    | none => 1
    | some row => row.epoch + 1
  (epoch,
    { db with
      transactions := db.transactions.alter tx (fun row => { row with status := .completing })
      completions := db.completions.put tx
        { epoch, state := .reserving, totalCents, attempts := 0, updatedAt := now,
          lastError := none } })

/-- The `fresh` column of `_GET_COMPLETION`. -/
def Completion.fresh (row : Completion) (lease : Nat) (now : Time) : Bool :=
  decide (now < row.updatedAt + lease)

/-- `_SET_COMPLETION_STATE` -/
def setCompletionState (db : Database) (tx : TxId) (state : CompletionState)
    (error : Option String) (now : Time) : Database :=
  { db with
    completions := db.completions.alter tx (fun row =>
      if row.state.terminal then row
      else { row with state, updatedAt := now, lastError := error.or row.lastError }) }

/-- `_FINALIZE`, with the `completed_at` it returns. -/
def finalize (db : Database) (tx : TxId) (totalCents : Nat) (now : Time) :
    Option Time × Database :=
  match db.transactions.lookup tx with
  | none => (none, db)
  | some row =>
      if row.status = .completing then
        (some now,
          { db with
            transactions := db.transactions.put tx
              { row with
                status := .completed
                completedAt := some now
                totalAmountCents := some totalCents }
            completions := db.completions.alter tx (fun row =>
              { row with state := .completed, updatedAt := now }) })
      else (none, db)

/-- `_REOPEN` -/
def reopen (db : Database) (tx : TxId) (now : Time) : Database :=
  match db.transactions.lookup tx with
  | none => db
  | some row =>
      if row.status = .completing then
        { db with
          transactions := db.transactions.put tx { row with status := .opened }
          completions := db.completions.alter tx (fun row =>
            if row.state.terminal then row
            else { row with state := .aborted, updatedAt := now }) }
      else db

/-- What `_CLAIM_STUCK` may claim. -/
def Completion.stuck (row : Completion) (lease : Nat) (now : Time) : Bool :=
  !row.state.terminal && decide (row.updatedAt + lease < now)

/-- A row `_CLAIM_STUCK` returns. -/
structure StuckRow where
  transactionId : TxId
  epoch : Nat
  state : CompletionState
  totalCents : Nat
deriving DecidableEq, Repr

def claim (db : Database) (tx : TxId) (now : Time) : Database :=
  { db with
    completions := db.completions.alter tx (fun row =>
      { row with attempts := row.attempts + 1, updatedAt := now }) }

/-- `_CLAIM_STUCK`: at most `limit` stuck rows.  Which ones is up to the order of
`updated_at` and to what SKIP LOCKED skips, so they are given. -/
def claimStuck (db : Database) (claimed : List TxId) (lease limit : Nat) (now : Time) :
    Option (List StuckRow × Database) :=
  if claimed.Nodup ∧ claimed.length ≤ limit ∧
      ∀ tx ∈ claimed, (db.completions.lookup tx).any (fun row => row.stuck lease now) = true then
    some (claimed.filterMap (fun tx => (db.completions.lookup tx).map (fun row =>
        ⟨tx, row.epoch, row.state, row.totalCents⟩)),
      claimed.foldl (fun db tx => claim db tx now) db)
  else none

def insertOutbox (db : Database) (request : Request) : Database :=
  { db with outbox := db.outbox ++ [request] }

end SelfCheckout.Checkout
