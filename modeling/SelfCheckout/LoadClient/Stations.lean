import SelfCheckout.Mock.Sales

namespace SelfCheckout.LoadClient.Stations

open SelfCheckout.Data SelfCheckout.Data.Rfc8259 SelfCheckout.Mock

/-! # The load client's stations

Each station is a `StationWorker` on a thread of its own, which starts a transaction, scans and
completes it, one call after the other.  A call may end without an answer, when it times out or
its connection is lost.  Then the station counts an error and goes on to the next customer,
while the request may have been lost or may still be handled.
-/

abbrev StationId := Nat

/-- `Metrics.Operation` -/
inductive Operation where
  | startTransaction
  | scanItem
  | completeTransaction
deriving DecidableEq, Repr

/-- Of a `Config` what the stations use; `parse` accepts no other basket sizes. -/
structure Config where
  stations : Nat
  minItems : Nat
  maxItems : Nat
  sizes : 1 ≤ minItems ∧ minItems ≤ maxItems

/-- Where a station's thread is. -/
inductive Thread where
  /-- At the head of the loop of `run`. -/
  | idle
  | starting (handler : HandlerId)
  /-- Between calls, with so many items still to scan. -/
  | shopping (tx : Mock.TxId) (left : Nat)
  | scanning (tx : Mock.TxId) (left : Nat) (handler : HandlerId)
  | completing (tx : Mock.TxId) (handler : HandlerId)
  | returned
deriving DecidableEq, Repr

structure Worker where
  thread : Thread
  transactionsCompleted : Nat
  itemsScanned : Nat
deriving DecidableEq, Repr

/-- What has become of the calls. -/
structure History where
  /-- The transactions of the receipts and of the scans that were counted. -/
  receipts : List Mock.TxId := []
  scans : List Mock.TxId := []
  /-- Those of the calls that ended without an answer. -/
  unansweredScans : List Mock.TxId := []
  unansweredCompletions : List Mock.TxId := []

structure System where
  server : MockServer
  workers : StationId → Worker
  /-- The station that waits for a handler's answer. -/
  owner : HandlerId → Option StationId
  stopRequested : Bool
  /-- `Metrics`: the samples taken and the errors recorded. -/
  successes : Operation → Nat
  errors : Operation → Nat
  history : History

def start (server : MockServer) : System :=
  { server
    workers := fun _ => ⟨.idle, 0, 0⟩
    owner := fun _ => none
    stopRequested := false
    successes := fun _ => 0
    errors := fun _ => 0
    history := {} }

/-- `"station-" + String.format("%03d", i + 1)` -/
def stationId (station : StationId) : Text :=
  units "station-" ++ (Catalog.zeroPadded 3 (station + 1)).map unit

namespace System

def thread (system : System) (station : StationId) : Thread := (system.workers station).thread

def setThread (system : System) (station : StationId) (thread : Thread) : System :=
  { system with
    workers := Function.update system.workers station { system.workers station with thread } }

def recordSuccess (system : System) (operation : Operation) : System :=
  { system with
    successes := Function.update system.successes operation (system.successes operation + 1) }

def recordError (system : System) (operation : Operation) : System :=
  { system with errors := Function.update system.errors operation (system.errors operation + 1) }

def send (system : System) (station : StationId) (handler : HandlerId) (request : Mock.Request)
    (thread : Thread) : Option System :=
  (Mock.step system.server (.receive handler request)).map (fun server =>
    { system.setThread station thread with
      server
      owner := Function.update system.owner handler (some station) })

/-- The next call of a station. -/
def call (system : System) (station : StationId) (handler : HandlerId) (sku : Mock.Sku) :
    Thread → Option System
  | .idle =>
      if system.stopRequested then none
      else system.send station handler (.startTransaction (.value (stationId station)))
        (.starting handler)
  | .shopping tx 0 =>
      system.send station handler (.completeTransaction tx) (.completing tx handler)
  | .shopping tx (left + 1) =>
      if system.server.lists sku then
        system.send station handler (.scanItem tx (.value sku)) (.scanning tx left handler)
      else none
  | _ => none

/-- The answer of a handler is delivered or lost. -/
def hangUp (system : System) (handler : HandlerId) : System :=
  { system with
    server := { system.server with
      handlers := Function.update system.server.handlers handler none }
    owner := Function.update system.owner handler none }

/-- Receive the answer to a call; one that is not what the call expects is an error. -/
def receive (config : Config) (system : System) (station : StationId) (basketSize : Nat) :
    Thread → Response → Option System
  | .starting handler, .started tx _ =>
      if config.minItems ≤ basketSize ∧ basketSize ≤ config.maxItems then
        some (((system.hangUp handler).setThread station (.shopping tx basketSize)).recordSuccess
          .startTransaction)
      else none
  | .scanning tx left handler, .scanned _ _ _ =>
      let worker := system.workers station
      some ({ system.hangUp handler with
        workers := Function.update system.workers station
          { worker with thread := .shopping tx left, itemsScanned := worker.itemsScanned + 1 }
        history := { system.history with scans := system.history.scans ++ [tx] } }.recordSuccess
          .scanItem)
  | .completing tx handler, .receipt _ _ =>
      let worker := system.workers station
      some ({ system.hangUp handler with
        workers := Function.update system.workers station
          { worker with thread := .idle, transactionsCompleted := worker.transactionsCompleted + 1 }
        history := { system.history with receipts := system.history.receipts ++ [tx] } }.recordSuccess
          .completeTransaction)
  | .starting handler, _ =>
      some (((system.hangUp handler).setThread station .idle).recordError .startTransaction)
  | .scanning _ _ handler, _ =>
      some (((system.hangUp handler).setThread station .idle).recordError .scanItem)
  | .completing _ handler, _ =>
      some (((system.hangUp handler).setThread station .idle).recordError .completeTransaction)
  | _, _ => none

/-- A call fails: it cannot be sent, or its station waits no longer. -/
def fail (system : System) (station : StationId) : Thread → Option System
  | .idle => if system.stopRequested then none else some (system.recordError .startTransaction)
  | .starting handler => some
      { (system.setThread station .idle).recordError .startTransaction with
        owner := Function.update system.owner handler none }
  | .shopping _ left => some ((system.setThread station .idle).recordError
      (if left = 0 then .completeTransaction else .scanItem))
  | .scanning tx _ handler => some
      { (system.setThread station .idle).recordError .scanItem with
        owner := Function.update system.owner handler none
        history := { system.history with
          unansweredScans := system.history.unansweredScans ++ [tx] } }
  | .completing tx handler => some
      { (system.setThread station .idle).recordError .completeTransaction with
        owner := Function.update system.owner handler none
        history := { system.history with
          unansweredCompletions := system.history.unansweredCompletions ++ [tx] } }
  | .returned => none

end System

/-- The handler that a thread waits for. -/
def Thread.waits : Thread → Option HandlerId
  | .starting handler | .scanning _ _ handler | .completing _ handler => some handler
  | _ => none

inductive Action where
  | call (station : StationId) (handler : HandlerId) (sku : Mock.Sku)
  | receive (station : StationId) (basketSize : Nat)
  | fail (station : StationId)
  /-- The station's loop ends. -/
  | leave (station : StationId)
  | serve (handler : HandlerId)
  | restart (handler : HandlerId)
  /-- A request that nobody waits for any more never reached the server, or its answer is lost. -/
  | drop (handler : HandlerId)
  | requestStop
deriving DecidableEq, Repr

def step (config : Config) (system : System) : Action → Option System
  | .call station handler sku =>
      if station < config.stations then
        system.call station handler sku (system.thread station)
      else none
  | .receive station basketSize =>
      if station < config.stations then
        match (system.thread station).waits.bind system.server.handlers with
        | some (.answered response) =>
            system.receive config station basketSize (system.thread station) response
        | _ => none
      else none
  | .fail station =>
      if station < config.stations then system.fail station (system.thread station) else none
  | .leave station =>
      if system.thread station = .idle ∧ system.stopRequested = true then
        some (system.setThread station .returned)
      else none
  | .serve handler =>
      (Mock.step system.server (.proceed handler)).map (fun server => { system with server })
  | .restart handler =>
      (Mock.step system.server (.restart handler)).map (fun server => { system with server })
  | .drop handler =>
      match system.owner handler, system.server.handlers handler with
      | none, some (.received _) => some (system.hangUp handler)
      | none, some (.answered _) => some (system.hangUp handler)
      | _, _ => none
  | .requestStop => some { system with stopRequested := true }

end SelfCheckout.LoadClient.Stations
