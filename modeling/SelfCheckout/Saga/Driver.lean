import SelfCheckout.Checkout.Saga

namespace SelfCheckout.Saga

open SelfCheckout.Data SelfCheckout.Checkout

/-! # Drivers

A driver is a `complete` call or a recovery pass.  Its phase is the next local
transaction it runs, or the reply it waits for; what it read earlier is carried
in the phase and may be out of date.
-/

/-- `_Begun`, without the transaction row. -/
structure Begun where
  basket : List BasketLine
  totalCents : Nat
  epoch : Nat
deriving DecidableEq, Repr

/-- The receipt `complete` returns. -/
structure Receipt where
  transactionId : TxId
  itemCount : Nat
  totalCents : Nat
  completedAt : Time
  lines : List BasketLine
deriving DecidableEq, Repr

/-- How a call ends, or how a recovery pass is done with a row. -/
inductive Exit where
  | receipt (receipt : Receipt)
  | refused (refusal : Refusal)
  | raised
  | settled
deriving DecidableEq, Repr

/-- What follows once an attempt is rolled back and its transaction open again. -/
inductive Next where
  | beginAgain
  | leave (exit : Exit)
deriving DecidableEq, Repr

inductive Phase where
  | begin (again : Bool)
  | awaitReserve (begun : Begun)
  | setReserved (begun : Begun)
  | finalize (begun : Begun)
  /-- `finalize_step` returned None. -/
  | readStatus (begun : Begun)
  /-- `finalize_step` for a claimed row that was RESERVED. -/
  | rollForward (epoch totalCents : Nat)
  | markCompensating (epoch : Nat) (reason : String) (next : Next)
  | awaitRelease (epoch : Nat) (next : Next)
  | reopen (epoch : Nat) (next : Next)
  | left (exit : Exit)
deriving DecidableEq, Repr

/-- A `complete` call, or a pass of `run_once` with the claimed rows it has not
come to and the number it has driven to the end. -/
inductive Origin where
  | complete
  | recovery (remaining : List StuckRow) (done : Nat)
deriving DecidableEq, Repr

structure Driver where
  tx : TxId
  origin : Origin
  phase : Phase
deriving DecidableEq, Repr

def insufficientStock (short : List Sku) : Refusal :=
  .apiError ⟨"INSUFFICIENT_STOCK", 409, "Insufficient stock for " ++ ", ".intercalate short ++ "."⟩

def rolledBack (message : String) : Refusal := .apiError ⟨"INTERNAL_ERROR", 503, message⟩

def noReply (request : String) : Refusal :=
  .upstreamUnavailable "inventory" ("no reply to the " ++ request ++ " request in time")

def stillRolledBack : Refusal :=
  .upstreamUnavailable "checkout" "the completion is still being rolled back"

def Refusal.text : Refusal → String
  | .apiError error => error.message
  | .upstreamUnavailable peer detail => peer ++ " service is unavailable. " ++ detail

def stateName : CompletionState → String
  | .reserving => "RESERVING"
  | .reserved => "RESERVED"
  | .completed => "COMPLETED"
  | .compensating => "COMPENSATING"
  | .aborted => "ABORTED"

def Begun.receipt (begun : Begun) (tx : TxId) (completedAt : Time) : Receipt :=
  { transactionId := tx
    itemCount := (begun.basket.map BasketLine.qty).sum
    totalCents := begun.totalCents
    completedAt
    lines := begun.basket }

def Driver.goto (driver : Driver) (phase : Phase) : Driver := { driver with phase }

/-- How `run_once` starts on a claimed row. -/
def recover (row : StuckRow) : Phase :=
  if row.state = .reserved then .rollForward row.epoch row.totalCents
  else .markCompensating row.epoch ("recovered from " ++ stateName row.state) (.leave .settled)

/-- Rows driven to the end are counted. -/
def Exit.counted : Exit → Nat
  | .settled => 1
  | .receipt _ => 0
  | .refused _ => 0
  | .raised => 0

/-- A call returns or raises; a recovery pass goes on to its next row. -/
def Driver.leave (driver : Driver) (exit : Exit) : Driver :=
  match driver.origin with
  | .complete => driver.goto (.left exit)
  | .recovery [] done =>
      { driver with origin := .recovery [] (done + exit.counted), phase := .left exit }
  | .recovery (row :: remaining) done =>
      { tx := row.transactionId
        origin := .recovery remaining (done + exit.counted)
        phase := recover row }

def Driver.proceed (driver : Driver) : Next → Driver
  | .beginAgain => driver.goto (.begin true)
  | .leave exit => driver.leave exit

/-- The write of a take-over, in the transaction that read the record. -/
def takeOver (db : Database) (tx : TxId) (record : Completion) (now : Time) : Database :=
  setCompletionState db tx record.state none now

/-- The request of an attempt with the transaction's basket. -/
def requestOf (db : Database) (tx : TxId) (epoch : Nat) : Request :=
  .stockReservationRequested ⟨tx, epoch⟩ (linesOf (getBasket db tx))

/-- What a call that finds its transaction no longer COMPLETING answers. -/
def statusExit (db : Database) (tx : TxId) (begun : Begun) : Exit :=
  match db.transactions.lookup tx with
  | none => .refused (rolledBack "The completion was rolled back; retry.")
  | some row =>
      if row.status = .completed then
        match row.completedAt with
        | some completedAt => .receipt (begun.receipt tx completedAt)
        | none => .raised
      else .refused (rolledBack "The completion was rolled back; retry.")

/-- The driver's next local transaction: the database it commits, where the driver
goes, and the requests it then publishes that are in no outbox row. -/
def Driver.transact (driver : Driver) (db : Database) (lease : Nat) (now : Time) :
    Option (Database × Driver × List Request) :=
  match driver.phase with
  | .begin again =>
      match beginCompletion db driver.tx lease now with
      | .refused refusal => some (db, driver.leave (.refused refusal), [])
      | .compensating epoch =>
          if again then some (db, driver.leave (.refused stillRolledBack), [])
          else some (db, driver.goto (.markCompensating epoch "finishing an undelivered rollback"
            .beginAgain), [])
      | .started epoch totalCents _ after =>
          some (after,
            driver.goto (.awaitReserve ⟨getBasket db driver.tx, totalCents, epoch⟩), [])
      | .takingOver record =>
          some (takeOver db driver.tx record now,
            driver.goto (.awaitReserve ⟨getBasket db driver.tx, record.totalCents, record.epoch⟩),
            [requestOf db driver.tx record.epoch])
  | .setReserved begun =>
      some (setCompletionState db driver.tx .reserved none now, driver.goto (.finalize begun), [])
  | .finalize begun =>
      let (completedAt, after) := Checkout.finalize db driver.tx begun.totalCents now
      match completedAt with
      | some completedAt =>
          some (after, driver.leave (.receipt (begun.receipt driver.tx completedAt)), [])
      | none => some (after, driver.goto (.readStatus begun), [])
  | .readStatus begun => some (db, driver.leave (statusExit db driver.tx begun), [])
  | .rollForward _ totalCents =>
      some ((Checkout.finalize db driver.tx totalCents now).2, driver.leave .settled, [])
  | .markCompensating epoch reason next =>
      some (Checkout.markCompensating db driver.tx epoch (some reason) now,
        driver.goto (.awaitRelease epoch next), [])
  | .reopen _ next => some (Checkout.reopen db driver.tx now, driver.proceed next, [])
  | .awaitReserve _ => none
  | .awaitRelease _ _ => none
  | .left _ => none

/-- Where a driver goes when its local transaction raises. -/
def Driver.raised (driver : Driver) (error : String) : Option Driver :=
  match driver.phase with
  | .finalize begun =>
      some (driver.goto (.markCompensating begun.epoch ("finalize failed: " ++ error)
        (.leave (.refused (rolledBack "Completion failed and was rolled back; retry.")))))
  | .begin _ => some (driver.leave .raised)
  | .setReserved _ => some (driver.leave .raised)
  | .readStatus _ => some (driver.leave .raised)
  | .rollForward _ _ => some (driver.leave .raised)
  | .markCompensating _ _ _ => some (driver.leave .raised)
  | .reopen _ _ => some (driver.leave .raised)
  | .awaitReserve _ => none
  | .awaitRelease _ _ => none
  | .left _ => none

/-- A reply reaches the waiter of its transaction and epoch, if it accepts it. -/
def Driver.receive (driver : Driver) (outcome : Outcome) : Option Driver :=
  match driver.phase with
  | .awaitReserve begun =>
      if outcome.attempt = ⟨driver.tx, begun.epoch⟩ then
        match outcome with
        | .stockReserved _ _ => some (driver.goto (.setReserved begun))
        | .stockRejected _ short =>
            some (driver.goto (.reopen begun.epoch (.leave (.refused (insufficientStock short)))))
        | .reservationRefused _ =>
            some (driver.goto (.reopen begun.epoch
              (.leave (.refused (rolledBack "The completion was rolled back; retry.")))))
        | .stockReleased _ _ _ => none
      else none
  | .awaitRelease epoch next =>
      if outcome.attempt = ⟨driver.tx, epoch⟩ then
        match outcome with
        | .stockReleased _ _ _ => some (driver.goto (.reopen epoch next))
        | .stockReserved _ _ => none
        | .stockRejected _ _ => none
        | .reservationRefused _ => none
      else none
  | _ => none

/-- No reply arrived in time. -/
def Driver.timeOut (driver : Driver) : Option Driver :=
  match driver.phase with
  | .awaitReserve begun =>
      some (driver.goto (.markCompensating begun.epoch (Refusal.text (noReply "reserve"))
        (.leave (.refused (noReply "reserve")))))
  | .awaitRelease _ _ => some (driver.leave (.refused (noReply "release")))
  | _ => none

def Driver.remaining (driver : Driver) : List StuckRow :=
  match driver.origin with
  | .complete => []
  | .recovery remaining _ => remaining

/-- A driver whose phase satisfies `OnPhase` and whose remaining rows satisfy `OnRow`. -/
structure Driver.Obeys (OnPhase : TxId → Phase → Prop) (OnRow : StuckRow → Prop)
    (driver : Driver) : Prop where
  phase : OnPhase driver.tx driver.phase
  rows : ∀ row ∈ driver.remaining, OnRow row

section Obeys

variable {OnPhase OnPhase' : TxId → Phase → Prop} {OnRow OnRow' : StuckRow → Prop} {driver : Driver}

theorem Driver.Obeys.imp (obeys : driver.Obeys OnPhase OnRow)
    (phases : OnPhase driver.tx driver.phase → OnPhase' driver.tx driver.phase)
    (rows : ∀ row ∈ driver.remaining, OnRow row → OnRow' row) : driver.Obeys OnPhase' OnRow' :=
  ⟨phases obeys.phase, fun row member => rows row member (obeys.rows row member)⟩

theorem Driver.Obeys.goto (obeys : driver.Obeys OnPhase OnRow) {phase : Phase}
    (holds : OnPhase driver.tx phase) : (driver.goto phase).Obeys OnPhase OnRow :=
  ⟨holds, obeys.rows⟩

theorem leave_obeys (rows : ∀ row ∈ driver.remaining, OnRow row) (exit : Exit)
    (left : OnPhase driver.tx (.left exit))
    (taken : ∀ row ∈ driver.remaining, OnRow row → OnPhase row.transactionId (recover row)) :
    (driver.leave exit).Obeys OnPhase OnRow := by
  obtain ⟨tx, origin, phase⟩ := driver
  cases origin with
  | complete => exact ⟨left, rows⟩
  | recovery remaining done =>
      cases remaining with
      | nil => exact ⟨left, rows⟩
      | cons row remaining =>
          refine ⟨taken row (by simp [Driver.remaining]) (rows row (by simp [Driver.remaining])), ?_⟩
          intro other member
          exact rows other (List.mem_cons_of_mem row member)

end Obeys

end SelfCheckout.Saga
