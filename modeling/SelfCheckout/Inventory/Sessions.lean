import SelfCheckout.Data.Exclusive
import SelfCheckout.Data.Run
import SelfCheckout.Inventory.Reserve

namespace SelfCheckout.Inventory

open SelfCheckout.Data

/-! # Concurrent handlers at READ COMMITTED

Any number of sessions run the statements of `reserve.py` against one database.
A session advances one statement, or one row lock of a statement, at a time:
reads see the committed database of that moment, writes stay private until the
commit, and row locks are exclusive and held to the end of the transaction.

`prior` is read when `_RESERVE` starts; the stock rows are read as their locks
are granted, which is after every transaction that held them has ended.
-/

abbrev SessionId := Nat

/-- Who called `reserve`: the event handler on its first or second try, or
`reserve_once`. -/
inductive Caller where
  | handleReservation (secondTry : Bool)
  | reserveOnce
deriving DecidableEq, Repr

/-- What a transaction has written and not committed. -/
structure Writes where
  stock : List (Sku × Int)
  alerts : List LowStockAlert
  adjustment : Option Adjustment
  outcome : Option Outcome

/-- The next thing a session's transaction does. -/
inductive Phase where
  /-- `_RESERVE` is to be sent. -/
  | reserve (caller : Caller)
  /-- Inside `_RESERVE`: the stock rows still to lock and those read under lock. -/
  | locking (caller : Caller) (prior : Option AdjustmentState) (waiting : List Sku)
      (locked : List (Sku × Int))
  /-- `_recorded` is to replay a refusal. -/
  | replaying (caller : Caller)
  | recordRejected (caller : Caller) (short : List Sku)
  /-- `reserve_once` reads the record in a second transaction. -/
  | rereading
  | tombstone
  | lockAdjustment
  /-- Inside `_RESTORE`. -/
  | restoring (lines : List (Sku × Nat)) (waiting : List Sku) (locked : List (Sku × Int))
  /-- The outbox insert and COMMIT remain. -/
  | committing (writes : Writes)

structure Session where
  attempt : Attempt
  basket : List (Sku × Nat)
  phase : Phase

structure Server where
  db : Database
  stockOwner : Sku → Option SessionId
  attemptOwner : Attempt → Option SessionId
  sessions : SessionId → Option Session

def idle (db : Database) : Server :=
  { db, stockOwner := fun _ => none, attemptOwner := fun _ => none, sessions := fun _ => none }

/-- The effect of a session's next statement, given the committed database. -/
inductive Effect where
  /-- Carry on. -/
  | goto (phase : Phase)
  /-- Lock a stock row, reading it when the lock is granted. -/
  | lockStock (sku : Sku) (phase : Int → Phase)
  /-- Insert or lock the adjustment row. -/
  | lockAttempt (phase : Phase)
  /-- Roll back; the session goes on in a new transaction or ends. -/
  | rollback (rest : Option Phase)
  | commit (writes : Writes)

/-- The outcome a handler queues; `reserve_once` has no outbox. -/
def Caller.outcome (caller : Caller) (attempt : Attempt) (result : ReserveResult) :
    Option Outcome :=
  match caller with
  | .handleReservation _ => some (result.outcome attempt)
  | .reserveOnce => none

def answering (outcome : Option Outcome) : Writes :=
  { stock := [], alerts := [], adjustment := none, outcome }

/-- A transaction that records the adjustment and touches no stock. -/
def recording (row : Adjustment) (outcome : Option Outcome) : Writes :=
  { stock := [], alerts := [], adjustment := some row, outcome }

/-- The writes of `_RESERVE` when `ok` holds. -/
def taking (basket : List (Sku × Nat)) (locked : List (Sku × Int)) (threshold : Int)
    (outcome : Option Outcome) : Writes :=
  { stock := (dec basket locked).map (fun row => (row.1, row.2.1))
    alerts := crossings threshold (dec basket locked)
    adjustment := some (.applied basket)
    outcome }

/-- The writes of `_RESTORE` and `_MARK_RELEASED`. -/
def givingBack (lines : List (Sku × Nat)) (locked : List (Sku × Int)) (outcome : Option Outcome) :
    Writes :=
  { stock := restored (normalize lines) locked
    alerts := []
    adjustment := some (.released (.taken lines))
    outcome }

/-- What follows an IntegrityError on the adjustment's key. -/
def Caller.afterConflict : Caller → Option Phase
  | .handleReservation false => some (.reserve (.handleReservation true))
  | .handleReservation true => none
  | .reserveOnce => some .rereading

def stocked (db : Database) (basket : List (Sku × Nat)) : List Sku :=
  (basket.map Prod.fst).filter (fun sku => (db.stock.lookup sku).isSome)

def effect (threshold : Int) (db : Database) (session : Session) : Effect :=
  let attempt := session.attempt
  let basket := session.basket
  let record := db.adjustments.lookup attempt
  match session.phase with
  | .reserve caller =>
      if bindable attempt basket then
        .goto (.locking caller (record.map Adjustment.state) (stocked db basket) [])
      else .rollback none
  | .locking caller prior (sku :: waiting) locked =>
      .lockStock sku (fun current => .locking caller prior waiting (locked ++ [(sku, current)]))
  | .locking caller (some .applied) [] _ =>
      .goto (.committing (answering (caller.outcome attempt (.reserved true))))
  | .locking caller (some .rejected) [] _ => .goto (.replaying caller)
  | .locking caller (some .released) [] _ =>
      .goto (.committing (answering (caller.outcome attempt .alreadyReleased)))
  | .locking caller none [] locked =>
      if ok basket locked none then
        match record with
        | some _ => .rollback caller.afterConflict
        | none => .lockAttempt (.committing
            (taking basket locked threshold (caller.outcome attempt (.reserved false))))
      else .goto (.recordRejected caller (shortSkus basket locked))
  | .replaying caller =>
      .goto (.committing (answering (caller.outcome attempt
        ((recorded db.adjustments attempt).getD .alreadyReleased))))
  | .recordRejected caller short =>
      match record with
      | some _ => .goto (.committing (answering (caller.outcome attempt (.short short))))
      | none => .lockAttempt (.committing
          (recording (.rejected short) (caller.outcome attempt (.short short))))
  | .rereading => .commit (answering none)
  | .tombstone =>
      if bindable attempt [] then
        match record with
        | some _ => .goto .lockAdjustment
        | none => .lockAttempt (.committing
            (recording (.released (.taken [])) (some (.stockReleased attempt 0 false))))
      else .rollback none
  | .lockAdjustment =>
      match record with
      | none => .rollback none
      | some (.released _) =>
          .lockAttempt (.committing (answering (some (.stockReleased attempt 0 true))))
      | some (.rejected short) =>
          .lockAttempt (.committing
            (recording (.released (.short short)) (some (.stockReleased attempt 0 false))))
      | some (.applied lines) =>
          .lockAttempt (.restoring lines (stocked db (normalize lines)) [])
  | .restoring lines (sku :: waiting) locked =>
      .lockStock sku (fun current => .restoring lines waiting (locked ++ [(sku, current)]))
  | .restoring lines [] locked =>
      .goto (.committing (givingBack lines locked
        (some (.stockReleased attempt ((normalize lines).map Prod.snd).sum false))))
  | .committing writes => .commit writes

def Server.setPhase (server : Server) (id : SessionId) (session : Session) (phase : Phase) :
    Server :=
  { server with sessions := Function.update server.sessions id (some { session with phase }) }

def Server.unlock (server : Server) (id : SessionId) : Server :=
  { server with
    stockOwner := fun sku =>
      if server.stockOwner sku = some id then none else server.stockOwner sku
    attemptOwner := fun attempt =>
      if server.attemptOwner attempt = some id then none else server.attemptOwner attempt }

def Server.finish (server : Server) (id : SessionId) : Server :=
  { server.unlock id with sessions := Function.update server.sessions id none }

def applyWrites (db : Database) (attempt : Attempt) (writes : Writes) : Database :=
  { stock := writeStock db.stock writes.stock
    alerts := db.alerts ++ writes.alerts
    adjustments :=
      match writes.adjustment with
      | none => db.adjustments
      | some row => db.adjustments.put attempt row
    outbox := db.outbox ++ writes.outcome.toList }

/-- Carry out an effect, or wait for the lock it needs. -/
def Server.perform (server : Server) (id : SessionId) (session : Session) :
    Effect → Option Server
  | .goto phase => some (server.setPhase id session phase)
  | .lockStock sku phase =>
      match server.stockOwner sku, server.db.stock.lookup sku with
      | none, some row => some
          { server.setPhase id session (phase row.currentStock) with
            stockOwner := Function.update server.stockOwner sku (some id) }
      | _, _ => none
  | .lockAttempt phase =>
      match server.attemptOwner session.attempt with
      | none => some
          { server.setPhase id session phase with
            attemptOwner := Function.update server.attemptOwner session.attempt (some id) }
      | some _ => none
  | .rollback none => some (server.finish id)
  | .rollback (some phase) => some ((server.unlock id).setPhase id session phase)
  | .commit writes => some
      { server.finish id with db := applyWrites server.db session.attempt writes }

inductive Call where
  | handle (request : Request)
  | reserveOnce (attempt : Attempt) (lines : List (Sku × Nat))
deriving DecidableEq, Repr

def Call.session : Call → Session
  | .handle (.stockReservationRequested attempt lines) =>
      ⟨attempt, normalize lines, .reserve (.handleReservation false)⟩
  | .handle (.stockReleaseRequested attempt) => ⟨attempt, [], .tombstone⟩
  | .reserveOnce attempt lines => ⟨attempt, normalize lines, .reserve .reserveOnce⟩

inductive Action where
  /-- A handler or `reserve_once` starts. -/
  | begin (id : SessionId) (call : Call)
  | proceed (id : SessionId)
  /-- A crash or a lost connection: the transaction rolls back. -/
  | abort (id : SessionId)
deriving DecidableEq, Repr

def step (threshold : Int) (server : Server) : Action → Option Server
  | .begin id call =>
      match server.sessions id with
      | none => some { server with
          sessions := Function.update server.sessions id (some call.session) }
      | some _ => none
  | .proceed id =>
      match server.sessions id with
      | none => none
      | some session => server.perform id session (effect threshold server.db session)
  | .abort id =>
      match server.sessions id with
      | none => none
      | some _ => some (server.finish id)

/-- Inversion of `step`: a session starts, is dropped, or carries out the effect
of its next statement. -/
theorem step_cases {threshold : Int} {server after : Server} {action : Action}
    (taken : step threshold server action = some after) :
    (∃ id call, action = .begin id call ∧ server.sessions id = none ∧
      after = { server with
        sessions := Function.update server.sessions id (some call.session) }) ∨
    (∃ id session, action = .proceed id ∧ server.sessions id = some session ∧
      server.perform id session (effect threshold server.db session) = some after) ∨
    (∃ id session, action = .abort id ∧ server.sessions id = some session ∧
      after = server.finish id) := by
  cases action with
  | begin id call =>
      cases found : server.sessions id with
      | none => exact .inl ⟨id, call, rfl, found, by simpa [step, found] using taken.symm⟩
      | some session => simp [step, found] at taken
  | proceed id =>
      cases found : server.sessions id with
      | none => simp [step, found] at taken
      | some session =>
          exact .inr (.inl ⟨id, session, rfl, found, by simpa [step, found] using taken⟩)
  | abort id =>
      cases found : server.sessions id with
      | none => simp [step, found] at taken
      | some session =>
          exact .inr (.inr ⟨id, session, rfl, found, by simpa [step, found] using taken.symm⟩)

/-- The phases an effect can leave its session in. -/
def Effect.LeadsTo : Effect → Phase → Prop
  | .goto next, phase => phase = next
  | .lockStock _ next, phase => ∃ current, phase = next current
  | .lockAttempt next, phase => phase = next
  | .rollback rest, phase => rest = some phase
  | .commit _, _ => False

/-- Only the end of a transaction commits; `reserve_once` commits a read. -/
theorem effect_commits {threshold : Int} {db : Database} {session : Session} {writes : Writes}
    (commits : effect threshold db session = .commit writes) :
    session.phase = .committing writes ∨ writes = answering none := by
  obtain ⟨attempt, basket, phase⟩ := session
  cases phase with
  | committing before =>
      cases commits
      exact .inl rfl
  | rereading =>
      cases commits
      exact .inr rfl
  | reserve caller =>
      simp only [effect] at commits
      split at commits <;> contradiction
  | locking caller prior waiting locked =>
      cases waiting with
      | cons sku waiting => contradiction
      | nil =>
          cases prior with
          | some state => cases state <;> contradiction
          | none =>
              simp only [effect] at commits
              split at commits
              · split at commits <;> contradiction
              · contradiction
  | replaying caller => contradiction
  | recordRejected caller short =>
      simp only [effect] at commits
      split at commits <;> contradiction
  | tombstone =>
      simp only [effect] at commits
      split at commits
      · split at commits <;> contradiction
      · contradiction
  | lockAdjustment =>
      simp only [effect] at commits
      split at commits <;> contradiction
  | restoring lines waiting locked => cases waiting <;> contradiction

theorem perform_sessions {server after : Server} {id : SessionId} {session : Session}
    {effect : Effect} (done : server.perform id session effect = some after) :
    (∀ other, other ≠ id → after.sessions other = server.sessions other) ∧
      ∀ next, after.sessions id = some next →
        ∃ phase, effect.LeadsTo phase ∧ next = { session with phase } := by
  have elsewhere : ∀ (value : Option Session) other, other ≠ id →
      Function.update server.sessions id value other = server.sessions other :=
    fun value other different => Function.update_of_ne different _ _
  cases effect with
  | goto phase =>
      simp only [Server.perform, Option.some.injEq] at done
      subst done
      refine ⟨elsewhere _, fun next found => ⟨phase, rfl, ?_⟩⟩
      simpa [Server.setPhase] using found.symm
  | lockStock sku phase =>
      simp only [Server.perform] at done
      split at done
      · rename_i row _ _
        simp only [Option.some.injEq] at done
        subst done
        refine ⟨elsewhere _, fun next found => ⟨phase row.currentStock, ⟨_, rfl⟩, ?_⟩⟩
        simpa [Server.setPhase] using found.symm
      · contradiction
  | lockAttempt phase =>
      simp only [Server.perform] at done
      split at done
      · simp only [Option.some.injEq] at done
        subst done
        refine ⟨elsewhere _, fun next found => ⟨phase, rfl, ?_⟩⟩
        simpa [Server.setPhase] using found.symm
      · contradiction
  | rollback rest =>
      cases rest with
      | none =>
          simp only [Server.perform, Option.some.injEq] at done
          subst done
          refine ⟨elsewhere _, fun next found => ?_⟩
          simp [Server.finish] at found
      | some phase =>
          simp only [Server.perform, Option.some.injEq] at done
          subst done
          refine ⟨elsewhere _, fun next found => ⟨phase, rfl, ?_⟩⟩
          simpa [Server.setPhase] using found.symm
  | commit writes =>
      simp only [Server.perform, Option.some.injEq] at done
      subst done
      refine ⟨elsewhere _, fun next found => ?_⟩
      simp [Server.finish] at found

theorem perform_db {server after : Server} {id : SessionId} {session : Session} {effect : Effect}
    (done : server.perform id session effect = some after) :
    after.db = server.db ∨
      ∃ writes, effect = .commit writes ∧ after.db = applyWrites server.db session.attempt writes := by
  cases effect with
  | goto phase =>
      simp only [Server.perform, Option.some.injEq] at done
      exact .inl (by rw [← done]; rfl)
  | lockStock sku phase =>
      simp only [Server.perform] at done
      split at done
      · simp only [Option.some.injEq] at done
        exact .inl (by rw [← done]; rfl)
      · contradiction
  | lockAttempt phase =>
      simp only [Server.perform] at done
      split at done
      · simp only [Option.some.injEq] at done
        exact .inl (by rw [← done]; rfl)
      · contradiction
  | rollback rest =>
      cases rest <;>
        simp only [Server.perform, Option.some.injEq] at done <;>
        exact .inl (by rw [← done]; rfl)
  | commit writes =>
      simp only [Server.perform, Option.some.injEq] at done
      exact .inr ⟨writes, rfl, by rw [← done]⟩

end SelfCheckout.Inventory
