import SelfCheckout.Checkout.Ledger
import SelfCheckout.Data.Exclusive
import SelfCheckout.Data.Run
import Mathlib.Data.List.Sort
import Mathlib.Data.Prod.Lex

namespace SelfCheckout.Checkout.Sessions

open SelfCheckout.Data

/-! # Checkout's statements at READ COMMITTED

Every statement of `repo.py` that writes a transaction, its items or its completion
record, and the two of `fastdb.py`, taken apart where they may wait.  A statement
finds its rows in the state committed when it starts.  Before it writes one it waits
for the row's lock, and checks its WHERE clause again on the version it then finds.
Locks are held to the end of the transaction, and what a transaction writes is seen
by others when it commits.
-/

abbrev SessionId := Nat

/-- A transaction row that was locked and then found in `status`. -/
structure Guarded (status : TxStatus) where
  row : Transaction
  checked : row.status = status

/-- `WHERE id = :tx_id AND status = ...` -/
def guarded (status : TxStatus) : Option Transaction → Option (Guarded status)
  | none => none
  | some row => if checked : row.status = status then some ⟨row, checked⟩ else none

/-- `WHERE transaction_id = :tx_id AND state NOT IN ('COMPLETED', 'ABORTED')` -/
def live (record : Option Completion) : Option Completion :=
  record.filter (fun record => !record.state.terminal)

/-- The WHERE clause of `_SWEEP_ABANDONED`. -/
def Abandoned (row : Transaction) (minutes : Nat) (now : Time) : Prop :=
  row.status = .opened ∧ row.startedAt + 60 * minutes < now

instance (row : Transaction) (minutes : Nat) (now : Time) :
    Decidable (Abandoned row minutes now) :=
  inferInstanceAs (Decidable (row.status = .opened ∧ row.startedAt + 60 * minutes < now))

/-- Where a scan that visits these rows first, in this order, comes to a row. -/
def visitRank (visits : List TxId) (tx : TxId) : Nat ×ₗ Nat := toLex (visits.idxOf tx, tx)

/-- The rows it finds, in the order its scan visits them: the statement has no ORDER BY. -/
def abandoned (db : Database) (minutes : Nat) (now : Time) (visits : List TxId) : List TxId :=
  ((db.transactions.rows.filter (fun row => decide (Abandoned row.2 minutes now))).map
    Prod.fst).insertionSort (fun one other => visitRank visits one ≤ visitRank visits other)

/-- The rows `_CLAIM_STUCK` finds, those longest untouched first. -/
def stuck (db : Database) (lease : Nat) (now : Time) : List TxId :=
  ((db.completions.rows.filter (fun row => row.2.stuck lease now)).insertionSort
    (fun one other => one.2.updatedAt ≤ other.2.updatedAt)).map Prod.fst

/-- What `_begin` returns when a driver is to go on. -/
structure Begun where
  transactionId : TxId
  basket : List BasketLine
  totalCents : Nat
  epoch : Nat
  tookOver : Bool
deriving DecidableEq, Repr

/-- The reservation request of a driver, queued by `_begin` or built anew by `reserve`. -/
def Begun.request (begun : Begun) : Request :=
  .stockReservationRequested ⟨begun.transactionId, begun.epoch⟩ (linesOf begun.basket)

inductive Work where
  | nothing
  | insert (tx : TxId)
  | scan (tx : TxId) (row : Guarded .opened) (sku : Sku) (priceCents : Nat)
  /-- `_MARK_COMPLETING` and `_UPSERT_COMPLETION`, over the record it found. -/
  | markCompleting (tx : TxId) (row : Guarded .opened) (basket : List BasketLine)
      (record : Option Completion)
  /-- A take-over: the record it read, and the one it writes if that is still live. -/
  | takeOver (tx : TxId) (row : Guarded .completing) (basket : List BasketLine)
      (read : Completion) (record : Option Completion)
  | setState (tx : TxId) (state : CompletionState) (error : Option String)
      (release : Option Nat) (record : Option Completion)
  | finalize (tx : TxId) (row : Guarded .completing) (totalCents : Nat)
      (record : Option Completion)
  | reopen (tx : TxId) (row : Guarded .completing) (record : Option Completion)
  | sweep (rows : List (TxId × Guarded .opened))
  | claim (records : List (TxId × Completion))

/-- What COMMIT makes visible, and what the caller is given. -/
structure Writes where
  rows : List (TxId × Transaction) := []
  items : List TransactionItem := []
  records : List (TxId × Completion) := []
  requests : List Request := []
  begun : Option Begun := none

def withState (record : Completion) (state : CompletionState) (error : Option String)
    (now : Time) : Completion :=
  { record with state, updatedAt := now, lastError := error.or record.lastError }

/-- The record of the attempt that follows `record`. -/
def reserving (record : Option Completion) (totalCents : Nat) (now : Time) : Completion :=
  { epoch := nextEpoch record, state := .reserving, totalCents, attempts := 0, updatedAt := now,
    lastError := none }

/-- The one record a statement writes, if it found it. -/
def written (tx : TxId) (record : Option Completion) (change : Completion → Completion) :
    List (TxId × Completion) :=
  record.toList.map (fun record => (tx, change record))

def Work.writes (now : Time) : Work → Writes
  | .nothing => {}
  | .insert tx =>
      { rows := [(tx,
          { status := .opened, itemCount := 0, runningTotalCents := 0, totalAmountCents := none,
            startedAt := now, completedAt := none })] }
  | .scan tx row sku priceCents =>
      { rows := [(tx, row.row.scanned ⟨tx, sku, priceCents⟩)]
        items := [⟨tx, sku, priceCents⟩] }
  | .markCompleting tx row basket record =>
      let begun := ⟨tx, basket, totalOf basket, nextEpoch record, false⟩
      { rows := [(tx, { row.row with status := .completing })]
        records := [(tx, reserving record (totalOf basket) now)]
        requests := [Begun.request begun]
        begun := some begun }
  | .takeOver tx _ basket read record =>
      { records := written tx record (fun record => withState record read.state none now)
        begun := some ⟨tx, basket, read.totalCents, read.epoch, true⟩ }
  | .setState tx state error release record =>
      { records := written tx record (fun record => withState record state error now)
        requests := release.toList.map (fun epoch => .stockReleaseRequested ⟨tx, epoch⟩) }
  | .finalize tx row totalCents record =>
      { rows := [(tx, row.row.charged totalCents now)]
        records := written tx record (fun record =>
          { record with state := .completed, updatedAt := now }) }
  | .reopen tx row record =>
      { rows := [(tx, { row.row with status := .opened })]
        records := written tx record (fun record =>
          { record with state := .aborted, updatedAt := now }) }
  | .sweep rows =>
      { rows := rows.map (fun row => (row.1, { row.2.row with status := .cancelled })) }
  | .claim records =>
      { records := records.map (fun record =>
          (record.1, { record.2 with attempts := record.2.attempts + 1, updatedAt := now })) }

inductive Phase where
  /-- `_INSERT_TX` or `START`; the id comes from the identity column. -/
  | insert (tx : TxId)
  /-- `_SCAN` or `SCAN` is to be sent; then it waits for the row. -/
  | scan (tx : TxId) (sku : Sku) (priceCents : Nat)
  | scanLocking (tx : TxId) (sku : Sku) (priceCents : Nat)
  /-- `_begin` sends `_LOCK_TX`, waits, and reads the basket in a later statement. -/
  | lockTransaction (tx : TxId) (lease : Nat)
  | locking (tx : TxId) (lease : Nat)
  | getBasket (tx : TxId) (lease : Nat) (row : Transaction)
  | markCompleting (tx : TxId) (row : Guarded .opened) (basket : List BasketLine)
  | getCompletion (tx : TxId) (lease : Nat) (row : Guarded .completing) (basket : List BasketLine)
  | takeOver (tx : TxId) (row : Guarded .completing) (basket : List BasketLine)
      (read : Completion)
  | takeOverLocking (tx : TxId) (row : Guarded .completing) (basket : List BasketLine)
      (read : Completion)
  /-- `_SET_COMPLETION_STATE`, with the release request of `_mark_compensating` if there is one. -/
  | setState (tx : TxId) (state : CompletionState) (error : Option String) (release : Option Nat)
  | setStateLocking (tx : TxId) (state : CompletionState) (error : Option String)
      (release : Option Nat)
  /-- `_FINALIZE`: the row is locked first, then the record if the snapshot has one. -/
  | finalize (tx : TxId) (totalCents : Nat)
  | finalizeLocking (tx : TxId) (totalCents : Nat) (found : Bool)
  | finalizeRecord (tx : TxId) (totalCents : Nat) (row : Guarded .completing)
  /-- `_REOPEN`, in the same order. -/
  | reopen (tx : TxId)
  | reopenLocking (tx : TxId) (found : Bool)
  | reopenRecord (tx : TxId) (row : Guarded .completing)
  | sweep (minutes : Nat) (visits : List TxId)
  /-- Inside `_SWEEP_ABANDONED`: the rows still to lock and those it will cancel. -/
  | sweeping (minutes : Nat) (waiting : List TxId) (swept : List (TxId × Guarded .opened))
  | claim (lease limit : Nat)
  /-- Inside `_CLAIM_STUCK`. -/
  | claiming (lease limit : Nat) (waiting : List TxId) (claimed : List (TxId × Completion))
  | committing (work : Work)
  /-- An exception leaves the `begin()` block. -/
  | raising

structure Session where
  /-- What `now()` returns: the start of the transaction. -/
  now : Time
  phase : Phase

structure Server where
  db : Database
  rowOwner : TxId → Option SessionId
  recordOwner : TxId → Option SessionId
  sessions : SessionId → Option Session
  /-- What the committed `_begin` calls returned. -/
  begun : List Begun

def idle (db : Database) : Server :=
  { db, rowOwner := fun _ => none, recordOwner := fun _ => none, sessions := fun _ => none,
    begun := [] }

/-- The effect of a session's next statement, given the committed database. -/
inductive Effect where
  /-- Carry on. -/
  | goto (phase : Phase)
  /-- Lock a transaction's row, reading it when the lock is granted. -/
  | lockRow (tx : TxId) (phase : Option Transaction → Phase)
  | lockRecord (tx : TxId) (phase : Option Completion → Phase)
  /-- SKIP LOCKED: go on with `skipped` instead of waiting. -/
  | tryLockRecord (tx : TxId) (skipped : Phase) (phase : Option Completion → Phase)
  | rollback
  | commit (work : Work)

def effect (db : Database) (now : Time) : Phase → Effect
  | .insert tx =>
      .lockRow tx (fun
        | none => .committing (.insert tx)
        | some _ => .raising)
  | .scan tx sku priceCents =>
      match guarded .opened (db.transactions.lookup tx) with
      | none => .goto (.committing .nothing)
      | some _ => .goto (.scanLocking tx sku priceCents)
  | .scanLocking tx sku priceCents =>
      .lockRow tx (fun latest =>
        match guarded .opened latest with
        | none => .committing .nothing
        | some row => .committing (.scan tx row sku priceCents))
  | .lockTransaction tx lease =>
      match db.transactions.lookup tx with
      | none => .rollback
      | some _ => .goto (.locking tx lease)
  | .locking tx lease =>
      .lockRow tx (fun
        | none => .raising
        | some row => .getBasket tx lease row)
  | .getBasket tx lease row =>
      match status : row.status with
      | .completed => .rollback
      | .cancelled => .rollback
      | .opened =>
          if (getBasket db tx).isEmpty then .rollback
          else .goto (.markCompleting tx ⟨row, status⟩ (getBasket db tx))
      | .completing => .goto (.getCompletion tx lease ⟨row, status⟩ (getBasket db tx))
  | .markCompleting tx row basket =>
      .lockRecord tx (fun record => .committing (.markCompleting tx row basket record))
  | .getCompletion tx lease row basket =>
      match db.completions.lookup tx with
      | none => .rollback
      | some record =>
          if record.state = .compensating then .goto (.committing .nothing)
          else if record.fresh lease now then .rollback
          else .goto (.takeOver tx row basket record)
  | .takeOver tx row basket read =>
      match live (db.completions.lookup tx) with
      | none => .goto (.committing (.takeOver tx row basket read none))
      | some _ => .goto (.takeOverLocking tx row basket read)
  | .takeOverLocking tx row basket read =>
      .lockRecord tx (fun latest => .committing (.takeOver tx row basket read (live latest)))
  | .setState tx state error release =>
      match live (db.completions.lookup tx) with
      | none => .goto (.committing (.setState tx state error release none))
      | some _ => .goto (.setStateLocking tx state error release)
  | .setStateLocking tx state error release =>
      .lockRecord tx (fun latest => .committing (.setState tx state error release (live latest)))
  | .finalize tx totalCents =>
      match guarded .completing (db.transactions.lookup tx) with
      | none => .goto (.committing .nothing)
      | some _ => .goto (.finalizeLocking tx totalCents (db.completions.lookup tx).isSome)
  | .finalizeLocking tx totalCents found =>
      .lockRow tx (fun latest =>
        match guarded .completing latest with
        | none => .committing .nothing
        | some row =>
            if found then .finalizeRecord tx totalCents row
            else .committing (.finalize tx row totalCents none))
  | .finalizeRecord tx totalCents row =>
      .lockRecord tx (fun latest => .committing (.finalize tx row totalCents latest))
  | .reopen tx =>
      match guarded .completing (db.transactions.lookup tx) with
      | none => .goto (.committing .nothing)
      | some _ => .goto (.reopenLocking tx (live (db.completions.lookup tx)).isSome)
  | .reopenLocking tx found =>
      .lockRow tx (fun latest =>
        match guarded .completing latest with
        | none => .committing .nothing
        | some row =>
            if found then .reopenRecord tx row else .committing (.reopen tx row none))
  | .reopenRecord tx row =>
      .lockRecord tx (fun latest => .committing (.reopen tx row (live latest)))
  | .sweep minutes visits => .goto (.sweeping minutes (abandoned db minutes now visits) [])
  | .sweeping minutes (tx :: waiting) swept =>
      .lockRow tx (fun latest =>
        match guarded .opened latest with
        | none => .sweeping minutes waiting swept
        | some row =>
            if Abandoned row.row minutes now then
              .sweeping minutes waiting (swept ++ [(tx, row)])
            else .sweeping minutes waiting swept)
  | .sweeping _ [] swept => .goto (.committing (.sweep swept))
  | .claim lease limit => .goto (.claiming lease limit (stuck db lease now) [])
  | .claiming lease limit (tx :: waiting) claimed =>
      if claimed.length < limit then
        .tryLockRecord tx (.claiming lease limit waiting claimed) (fun latest =>
          match latest.filter (fun record => record.stuck lease now) with
          | none => .claiming lease limit waiting claimed
          | some record => .claiming lease limit waiting (claimed ++ [(tx, record)]))
      else .goto (.committing (.claim claimed))
  | .claiming _ _ [] claimed => .goto (.committing (.claim claimed))
  | .committing work => .commit work
  | .raising => .rollback

def Server.setPhase (server : Server) (id : SessionId) (session : Session) (phase : Phase) :
    Server :=
  { server with sessions := Function.update server.sessions id (some { session with phase }) }

/-- The session's transaction ends, and its locks with it. -/
def Server.finish (server : Server) (id : SessionId) : Server :=
  { server with
    rowOwner := fun tx => if server.rowOwner tx = some id then none else server.rowOwner tx
    recordOwner := fun tx =>
      if server.recordOwner tx = some id then none else server.recordOwner tx
    sessions := Function.update server.sessions id none }

def putAll {Value : Type} (table : Table TxId Value) (rows : List (TxId × Value)) :
    Table TxId Value :=
  rows.foldl (fun table row => table.put row.1 row.2) table

def applyWrites (db : Database) (writes : Writes) : Database :=
  { transactions := putAll db.transactions writes.rows
    items := db.items ++ writes.items
    completions := putAll db.completions writes.records
    outbox := db.outbox ++ writes.requests }

/-- Carry out an effect, or wait for the lock it needs. -/
def Server.perform (server : Server) (id : SessionId) (session : Session) :
    Effect → Option Server
  | .goto phase => some (server.setPhase id session phase)
  | .lockRow tx phase =>
      match server.rowOwner tx with
      | some _ => none
      | none => some
          { server.setPhase id session (phase (server.db.transactions.lookup tx)) with
            rowOwner := Function.update server.rowOwner tx (some id) }
  | .lockRecord tx phase =>
      match server.recordOwner tx with
      | some _ => none
      | none => some
          { server.setPhase id session (phase (server.db.completions.lookup tx)) with
            recordOwner := Function.update server.recordOwner tx (some id) }
  | .tryLockRecord tx skipped phase =>
      match server.recordOwner tx with
      | some _ => some (server.setPhase id session skipped)
      | none => some
          { server.setPhase id session (phase (server.db.completions.lookup tx)) with
            recordOwner := Function.update server.recordOwner tx (some id) }
  | .rollback => some (server.finish id)
  | .commit work => some
      { server.finish id with
        db := applyWrites server.db (work.writes session.now)
        begun := server.begun ++ (work.writes session.now).begun.toList }

/-- Where a scan runs: through an autocommit session or through asyncpg. -/
inductive ScanPath where
  | session
  | fast
deriving DecidableEq, Repr

inductive Call where
  | start (path : ScanPath) (tx : TxId)
  | scan (path : ScanPath) (tx : TxId) (sku : Sku) (priceCents : Nat)
  | begin (tx : TxId) (lease : Nat)
  | setState (tx : TxId) (state : CompletionState) (error : Option String)
  | markCompensating (tx : TxId) (epoch : Nat) (reason : Option String)
  | finalize (tx : TxId) (totalCents : Nat)
  | reopen (tx : TxId)
  | sweepAbandoned (minutes : Nat) (visits : List TxId)
  | claimStuck (lease limit : Nat)
deriving DecidableEq, Repr

/-- The first statement of a call.  Both paths send the same one. -/
def Call.phase : Call → Phase
  | .start .session tx => .insert tx
  | .start .fast tx => .insert tx
  | .scan .session tx sku priceCents => .scan tx sku priceCents
  | .scan .fast tx sku priceCents => .scan tx sku priceCents
  | .begin tx lease => .lockTransaction tx lease
  | .setState tx state error => .setState tx state error none
  | .markCompensating tx epoch reason => .setState tx .compensating reason (some epoch)
  | .finalize tx totalCents => .finalize tx totalCents
  | .reopen tx => .reopen tx
  | .sweepAbandoned minutes visits => .sweep minutes visits
  | .claimStuck lease limit => .claim lease limit

inductive Action where
  /-- A transaction starts, at `now`. -/
  | begin (id : SessionId) (now : Time) (call : Call)
  | proceed (id : SessionId)
  /-- A deadlock, a crash or a lost connection: the transaction rolls back. -/
  | abort (id : SessionId)
deriving DecidableEq, Repr

def step (server : Server) : Action → Option Server
  | .begin id now call =>
      match server.sessions id with
      | none => some { server with
          sessions := Function.update server.sessions id (some ⟨now, call.phase⟩) }
      | some _ => none
  | .proceed id =>
      match server.sessions id with
      | none => none
      | some session => server.perform id session (effect server.db session.now session.phase)
  | .abort id =>
      match server.sessions id with
      | none => none
      | some _ => some (server.finish id)

/-- Inversion of `step`. -/
inductive Takes (server : Server) : Action → Server → Prop where
  | begins {id : SessionId} {now : Time} {call : Call} (free : server.sessions id = none) :
      Takes server (.begin id now call)
        { server with sessions := Function.update server.sessions id (some ⟨now, call.phase⟩) }
  | proceeds {id : SessionId} {session : Session} {after : Server}
      (running : server.sessions id = some session)
      (done : server.perform id session (effect server.db session.now session.phase) = some after) :
      Takes server (.proceed id) after
  | aborts {id : SessionId} {session : Session} (running : server.sessions id = some session) :
      Takes server (.abort id) (server.finish id)

theorem step_takes {server after : Server} {action : Action}
    (taken : step server action = some after) : Takes server action after := by
  cases action with
  | begin id now call =>
      simp only [step] at taken
      split at taken
      · rename_i free
        cases taken
        exact .begins free
      · contradiction
  | proceed id =>
      simp only [step] at taken
      split at taken
      · contradiction
      · rename_i running
        exact .proceeds running taken
  | abort id =>
      simp only [step] at taken
      split at taken
      · contradiction
      · rename_i running
        cases taken
        exact .aborts running

/-- Nothing is seen before COMMIT. -/
theorem perform_db {server after : Server} {id : SessionId} {session : Session} {effect : Effect}
    (done : server.perform id session effect = some after) :
    after.db = server.db ∧ after.begun = server.begun ∨
    ∃ work, effect = .commit work ∧
      after.db = applyWrites server.db (work.writes session.now) ∧
      after.begun = server.begun ++ (work.writes session.now).begun.toList := by
  cases effect with
  | goto phase =>
      cases done
      exact .inl ⟨rfl, rfl⟩
  | lockRow tx phase =>
      simp only [Server.perform] at done
      split at done
      · contradiction
      · cases done
        exact .inl ⟨rfl, rfl⟩
  | lockRecord tx phase =>
      simp only [Server.perform] at done
      split at done
      · contradiction
      · cases done
        exact .inl ⟨rfl, rfl⟩
  | tryLockRecord tx skipped phase =>
      simp only [Server.perform] at done
      split at done
      · cases done
        exact .inl ⟨rfl, rfl⟩
      · cases done
        exact .inl ⟨rfl, rfl⟩
  | rollback =>
      cases done
      exact .inl ⟨rfl, rfl⟩
  | commit work =>
      cases done
      exact .inr ⟨work, rfl, rfl, rfl⟩

end SelfCheckout.Checkout.Sessions
