import SelfCheckout.Inventory.Redelivery
import SelfCheckout.Saga.Effects

namespace SelfCheckout.Saga

open SelfCheckout.Data SelfCheckout.Checkout

/-! # Checkout, Inventory and the two topics

A topic holds every copy the broker has stored.  A copy that was stored once can
be delivered at any later time, any number of times, or never.

Here Inventory handles a request in one step.  `Inventory.Sessions` shows that it
does not: a handler that loses a race against a duplicate may refuse an attempt that
has been reserved.  `answerLate` is that answer, which `Contest` adds to the steps.
-/

abbrev DriverId := Nat

/-- `asked` holds the requests that drivers handed to the broker without an
outbox row. -/
structure System where
  checkout : Checkout.Database
  inventory : Inventory.Database
  completions : List Request
  stock : List Outcome
  asked : List Request
  drivers : Table DriverId Driver

/-- Nothing sold yet, and the seeded stock. -/
def opening (levels : Table Sku Nat) : System :=
  { checkout := emptyDatabase, inventory := Inventory.seeded levels, completions := [], stock := [],
    asked := [], drivers := Table.empty }

inductive Label where
  | insertTransaction (tx : TxId) (now : Time)
  | scanItem (tx : TxId) (sku : Sku) (priceCents : Nat)
  | sweepAbandoned (minutes : Nat) (now : Time)
  | complete (id : DriverId) (tx : TxId)
  | runOnce (id : DriverId) (claimed : List TxId) (lease limit : Nat) (now : Time)
  /-- A driver's next local transaction commits. -/
  | commit (id : DriverId) (lease : Nat) (now : Time)
  /-- A driver's next local transaction raises, perhaps after its commit took effect. -/
  | raise (id : DriverId) (committed : Bool) (error : String) (lease : Nat) (now : Time)
  | reply (id : DriverId) (outcome : Outcome)
  | timeOut (id : DriverId)
  | crash (id : DriverId)
  /-- The broker stores a copy of a request: fast path, republish or sweeper. -/
  | publish (request : Request)
  /-- Inventory handles a copy of a request. -/
  | handle (request : Request)
  | publishOutcome (outcome : Outcome)
deriving DecidableEq, Repr

def assign (drivers : Table DriverId Driver) (id : DriverId) (driver : Option Driver) :
    Table DriverId Driver :=
  match driver with
  | none => drivers.erase id
  | some driver => drivers.put id driver

def System.setDriver (system : System) (id : DriverId) (driver : Option Driver) : System :=
  { system with drivers := assign system.drivers id driver }

theorem setDriver_table (system : System) (id : DriverId) (driver : Option Driver) :
    (system.setDriver id driver).drivers = assign system.drivers id driver := rfl

theorem lookup_assign (drivers : Table DriverId Driver) (id other : DriverId)
    (driver : Option Driver) :
    (assign drivers id driver).lookup other = if other = id then driver else drivers.lookup other := by
  cases driver with
  | none => simp [assign]
  | some driver => simp [assign]

theorem setDriver_drivers (system : System) (id other : DriverId) (driver : Option Driver) :
    (system.setDriver id driver).drivers.lookup other =
      if other = id then driver else system.drivers.lookup other :=
  lookup_assign system.drivers id other driver

theorem setDriver_self (system : System) (id : DriverId) (driver : Driver) :
    (system.setDriver id (some driver)).drivers.lookup id = some driver := by
  rw [setDriver_drivers, if_pos rfl]

/-- A driver found after `setDriver` is the one that was set, or was there before. -/
theorem setDriver_found {system : System} {id other : DriverId} {driver : Option Driver}
    {running : Driver} (found : (system.setDriver id driver).drivers.lookup other = some running) :
    other = id ∧ driver = some running ∨ system.drivers.lookup other = some running := by
  rw [setDriver_drivers] at found
  split at found
  · rename_i same
    exact .inl ⟨same, found⟩
  · exact .inr found

/-- A recovery pass on its first claimed row; with nothing claimed it is over. -/
def firstRow : List StuckRow → Option Driver
  | [] => none
  | row :: remaining =>
      some { tx := row.transactionId, origin := .recovery remaining 0, phase := recover row }

def step (threshold : Int) (system : System) : Label → Option System
  | .insertTransaction tx now =>
      match system.checkout.transactions.lookup tx with
      | some _ => none
      | none => some { system with checkout := insertTransaction system.checkout tx now }
  | .scanItem tx sku priceCents =>
      some { system with checkout := scanItem system.checkout tx sku priceCents }
  | .sweepAbandoned minutes now =>
      some { system with checkout := sweepAbandoned system.checkout minutes now }
  | .complete id tx =>
      match system.drivers.lookup id with
      | some _ => none
      | none => some (system.setDriver id (some ⟨tx, .complete, .begin false⟩))
  | .runOnce id claimed lease limit now =>
      match system.drivers.lookup id with
      | some _ => none
      | none => (claimStuck system.checkout claimed lease limit now).map (fun done =>
          { system with checkout := done.2 }.setDriver id (firstRow done.1))
  | .commit id lease now =>
      match system.drivers.lookup id with
      | none => none
      | some driver => (driver.transact system.checkout lease now).map (fun done =>
          { system with checkout := done.1, asked := system.asked ++ done.2.2 }.setDriver id
            (some done.2.1))
  | .raise id committed error lease now =>
      match system.drivers.lookup id with
      | none => none
      | some driver =>
          match driver.raised error with
          | none => none
          | some next =>
              if committed then
                (driver.transact system.checkout lease now).map (fun done =>
                  { system with checkout := done.1 }.setDriver id (some next))
              else some (system.setDriver id (some next))
  | .reply id outcome =>
      match system.drivers.lookup id with
      | none => none
      | some driver =>
          if outcome ∈ system.stock then
            (driver.receive outcome).map (fun next => system.setDriver id (some next))
          else none
  | .timeOut id =>
      match system.drivers.lookup id with
      | none => none
      | some driver => driver.timeOut.map (fun next => system.setDriver id (some next))
  | .crash id => some (system.setDriver id none)
  | .publish request =>
      if request ∈ system.checkout.outbox ∨ request ∈ system.asked then
        some { system with completions := system.completions ++ [request] }
      else none
  | .handle request =>
      if request ∈ system.completions then
        (Inventory.handle system.inventory threshold request).map (fun done =>
          { system with inventory := done.2 })
      else none
  | .publishOutcome outcome =>
      if outcome ∈ system.inventory.outbox then
        some { system with stock := system.stock ++ [outcome] }
      else none

/-- A reservation of the attempt has been published, and Inventory has its record. -/
def System.recorded (system : System) (attempt : Attempt) : Bool :=
  (system.inventory.adjustments.lookup attempt).isSome &&
    system.completions.any (fun request =>
      match request with
      | .stockReservationRequested other _ => other = attempt
      | .stockReleaseRequested _ => false)

/-- A duplicate's handler, which found no record and then too little stock, commits
its refusal: `_RECORD_REJECTED` leaves the record as it is. -/
def System.answerLate (system : System) (attempt : Attempt) (short : List Sku) : System :=
  { system with
    inventory := Inventory.insertOutbox system.inventory (.stockRejected attempt short) }

/-- What a step does, label by label. -/
inductive Does (threshold : Int) (system : System) : Label → System → Prop where
  | inserts {tx : TxId} {now : Time} (absent : system.checkout.transactions.lookup tx = none) :
      Does threshold system (.insertTransaction tx now)
        { system with checkout := insertTransaction system.checkout tx now }
  | scans {tx : TxId} {sku : Sku} {priceCents : Nat} :
      Does threshold system (.scanItem tx sku priceCents)
        { system with checkout := scanItem system.checkout tx sku priceCents }
  | sweeps {minutes : Nat} {now : Time} :
      Does threshold system (.sweepAbandoned minutes now)
        { system with checkout := sweepAbandoned system.checkout minutes now }
  | calls {id : DriverId} {tx : TxId} (free : system.drivers.lookup id = none) :
      Does threshold system (.complete id tx)
        (system.setDriver id (some ⟨tx, .complete, .begin false⟩))
  | claims {id : DriverId} {claimed : List TxId} {lease limit : Nat} {now : Time}
      {rows : List StuckRow} {after : Checkout.Database} (free : system.drivers.lookup id = none)
      (done : claimStuck system.checkout claimed lease limit now = some (rows, after)) :
      Does threshold system (.runOnce id claimed lease limit now)
        ({ system with checkout := after }.setDriver id (firstRow rows))
  | commits {id : DriverId} {lease : Nat} {now : Time} {driver next : Driver}
      {after : Checkout.Database} {asked : List Request} (running : system.drivers.lookup id = some driver)
      (writes : Writes driver system.checkout lease now after)
      (goes : Goes driver system.checkout lease now after next asked) :
      Does threshold system (.commit id lease now)
        ({ system with checkout := after, asked := system.asked ++ asked }.setDriver id (some next))
  | raisesAfterCommit {id : DriverId} {error : String} {lease : Nat} {now : Time}
      {driver next : Driver} {after : Checkout.Database} (running : system.drivers.lookup id = some driver)
      (raised : driver.raised error = some next)
      (writes : Writes driver system.checkout lease now after) :
      Does threshold system (.raise id true error lease now)
        ({ system with checkout := after }.setDriver id (some next))
  | raises {id : DriverId} {error : String} {lease : Nat} {now : Time} {driver next : Driver}
      (running : system.drivers.lookup id = some driver) (raised : driver.raised error = some next) :
      Does threshold system (.raise id false error lease now) (system.setDriver id (some next))
  | receives {id : DriverId} {outcome : Outcome} {driver next : Driver}
      (running : system.drivers.lookup id = some driver) (onTopic : outcome ∈ system.stock)
      (received : driver.receive outcome = some next) :
      Does threshold system (.reply id outcome) (system.setDriver id (some next))
  | timesOut {id : DriverId} {driver next : Driver} (running : system.drivers.lookup id = some driver)
      (timedOut : driver.timeOut = some next) :
      Does threshold system (.timeOut id) (system.setDriver id (some next))
  | crashes {id : DriverId} : Does threshold system (.crash id) (system.setDriver id none)
  | publishes {request : Request}
      (known : request ∈ system.checkout.outbox ∨ request ∈ system.asked) :
      Does threshold system (.publish request)
        { system with completions := system.completions ++ [request] }
  | handles {request : Request} {outcome : Outcome} {after : Inventory.Database}
      (onTopic : request ∈ system.completions)
      (done : Inventory.handle system.inventory threshold request = some (outcome, after)) :
      Does threshold system (.handle request) { system with inventory := after }
  | publishesOutcome {outcome : Outcome} (queued : outcome ∈ system.inventory.outbox) :
      Does threshold system (.publishOutcome outcome)
        { system with stock := system.stock ++ [outcome] }

/-- Inversion of `step`. -/
theorem step_does {threshold : Int} {system after : System} {label : Label}
    (taken : step threshold system label = some after) : Does threshold system label after := by
  cases label with
  | insertTransaction tx now =>
      simp only [step] at taken
      split at taken
      · contradiction
      · cases taken
        exact .inserts ‹_›
  | scanItem tx sku priceCents =>
      cases taken
      exact .scans
  | sweepAbandoned minutes now =>
      cases taken
      exact .sweeps
  | complete id tx =>
      simp only [step] at taken
      split at taken
      · contradiction
      · cases taken
        exact .calls ‹_›
  | runOnce id claimed lease limit now =>
      simp only [step] at taken
      split at taken
      · contradiction
      · simp only [Option.map_eq_some_iff] at taken
        obtain ⟨⟨rows, checkout⟩, done, rfl⟩ := taken
        exact .claims ‹_› done
  | commit id lease now =>
      simp only [step] at taken
      split at taken
      · contradiction
      · simp only [Option.map_eq_some_iff] at taken
        obtain ⟨⟨checkout, next, asked⟩, done, rfl⟩ := taken
        exact .commits ‹_› (transact_cases done).1 (transact_cases done).2
  | raise id committed error lease now =>
      simp only [step] at taken
      split at taken
      · contradiction
      · split at taken
        · contradiction
        · cases committed with
          | true =>
              simp only [↓reduceIte, Option.map_eq_some_iff] at taken
              obtain ⟨⟨checkout, next, asked⟩, done, rfl⟩ := taken
              exact .raisesAfterCommit ‹_› ‹_› (transact_cases done).1
          | false =>
              cases taken
              exact .raises ‹_› ‹_›
  | reply id outcome =>
      simp only [step] at taken
      split at taken
      · contradiction
      · split at taken
        · simp only [Option.map_eq_some_iff] at taken
          obtain ⟨next, received, rfl⟩ := taken
          exact .receives ‹_› ‹_› received
        · contradiction
  | timeOut id =>
      simp only [step] at taken
      split at taken
      · contradiction
      · simp only [Option.map_eq_some_iff] at taken
        obtain ⟨next, timedOut, rfl⟩ := taken
        exact .timesOut ‹_› timedOut
  | crash id =>
      cases taken
      exact .crashes
  | publish request =>
      simp only [step] at taken
      split at taken
      · cases taken
        exact .publishes ‹_›
      · contradiction
  | handle request =>
      simp only [step] at taken
      split at taken
      · simp only [Option.map_eq_some_iff] at taken
        obtain ⟨⟨outcome, inventory⟩, done, rfl⟩ := taken
        exact .handles ‹_› done
      · contradiction
  | publishOutcome outcome =>
      simp only [step] at taken
      split at taken
      · cases taken
        exact .publishesOutcome ‹_›
      · contradiction

end SelfCheckout.Saga
