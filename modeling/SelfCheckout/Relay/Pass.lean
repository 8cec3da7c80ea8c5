import SelfCheckout.Data.Run
import SelfCheckout.Data.Table
import SelfCheckout.Events
import Mathlib.Data.List.Sort

namespace SelfCheckout.Relay

open SelfCheckout.Data

/-! # The scan relay

`ScanRelay.run_pass` over Checkout's database and `checkout.scans.v1`, a statement
or a broker call a step.  The advisory lock is left out: any number of instances run
passes at once, as a leader does that has lost its lock.  Each statement of a pass
sees what is committed when it runs.
-/

/-- A row of `transaction_item`. -/
structure Scan where
  id : Nat
  transactionId : TxId
  sku : Sku
deriving DecidableEq, Repr

/-- The tokens of `scan_log` never repeat: they are numbered in the order they are
written. -/
abbrev Token := Nat
abbrev RelayId := Nat

inductive Event where
  | scanRecorded (scanId : Nat) (transactionId : String) (sku : Sku)
  | scanLogReset (logId : Token)
deriving DecidableEq, Repr

def Scan.event (scan : Scan) : Event :=
  .scanRecorded scan.id ("tx-" ++ toString scan.transactionId) scan.sku

/-- `BATCH` -/
def batchSize : Nat := 500

/-- `_RELAY_BATCH` -/
def relayBatch (scans : List Scan) (after limit : Nat) : List Scan :=
  ((scans.filter (fun scan => decide (after < scan.id))).insertionSort
    (fun left right => left.id ≤ right.id)).take limit

/-- What the loop over a batch leaves: the scans to publish, the gap it waits for,
and the ids it declared permanent gaps. -/
structure Examined where
  ready : List Scan
  gap : Option (Nat × Time)
  skipped : List Nat
deriving DecidableEq, Repr

/-- The gap being waited for, when the row after it is met. -/
def waiting (gap : Option (Nat × Time)) (expected : Nat) (now : Time) : Nat × Time :=
  match gap with
  | none => (expected, now)
  | some (id, since) => if id ≠ expected then (expected, now) else (id, since)

/-- The loop of `run_pass`; `clock` is `time.monotonic()` when it reaches a row. -/
def examine (grace : Time) (clock : Nat → Time) :
    List Scan → Nat → Option (Nat × Time) → Examined
  | [], _, gap => { ready := [], gap, skipped := [] }
  | row :: rows, expected, gap =>
      let rest := examine grace clock rows (row.id + 1) none
      if row.id ≠ expected then
        let now := clock row.id
        let gap := waiting gap expected now
        if now < gap.2 + grace then { ready := [], gap := some gap, skipped := [] }
        else
          { rest with
            ready := row :: rest.ready
            skipped := List.range' expected (row.id - expected) ++ rest.skipped }
      else { rest with ready := row :: rest.ready }

/-- Where a pass is.  `log` is the token of the log the rows were read from; `lost`
says that a record of the batch was not stored. -/
inductive Phase where
  | idle
  | gotState (saved : Option (Nat × Token))
  | gotToken (saved : Option (Nat × Token)) (token : Token)
  | initialising (token : Token)
  | announcing (token : Token) (stored : Bool)
  | publishing (token log : Token) (ready remaining : List Scan) (lost : Bool)
  | saving (position : Nat) (token : Token) (announced : Bool)
deriving DecidableEq, Repr

/-- A `ScanRelay` with the pass it runs. -/
structure ScanRelay where
  gap : Option (Nat × Time)
  phase : Phase
deriving DecidableEq, Repr

/-- What a pass that read a batch did with it. -/
structure Pass where
  position : Nat
  rows : List Scan
  published : List Scan
  skipped : List Nat
deriving DecidableEq, Repr

/-- Checkout's database, the topic with the log each record speaks of, and the relay
instances.  `acknowledged` and `passes` record what happened. -/
structure System where
  scans : List Scan
  token : Token
  relayState : Option (Nat × Token)
  relays : Table RelayId ScanRelay
  topic : List (Token × Event)
  acknowledged : List Event
  passes : List Pass

/-- A fresh database: no scan, no saved position. -/
def initial (token : Token) : System :=
  { scans := [], token, relayState := none, relays := Table.empty, topic := [],
    acknowledged := [], passes := [] }

inductive Label where
  | commit (scan : Scan)
  | replace (keepsState : Bool)
  | start (id : RelayId)
  | crash (id : RelayId)
  | fail (id : RelayId)
  | readState (id : RelayId)
  | readToken (id : RelayId)
  | branch (id : RelayId) (clock : Nat → Time)
  | store (id : RelayId)
  | lose (id : RelayId)
  | acknowledge (id : RelayId)
  | save (id : RelayId)

def System.setRelay (system : System) (id : RelayId) (relay : ScanRelay) : System :=
  { system with relays := system.relays.put id relay }

def System.dropRelay (system : System) (id : RelayId) : System :=
  { system with relays := system.relays.erase id }

/-- The batch read of a pass whose token is unchanged, and the loop over it. -/
def readBatch (grace : Time) (clock : Nat → Time) (system : System) (id : RelayId) (relay : ScanRelay)
    (position : Nat) (token : Token) : System :=
  let rows := relayBatch system.scans position batchSize
  let examined := examine grace clock rows (position + 1) relay.gap
  let pass :=
    { position, rows, published := examined.ready, skipped := examined.skipped : Pass }
  let phase :=
    if examined.ready.isEmpty then .idle
    else .publishing token system.token examined.ready examined.ready false
  { system with passes := system.passes ++ [pass] }.setRelay id
    { gap := examined.gap, phase }

/-- What a pass does once it has read the saved position and the token. -/
def branch (grace : Time) (clock : Nat → Time) (system : System) (id : RelayId) (relay : ScanRelay)
    (saved : Option (Nat × Token)) (token : Token) : System :=
  match saved with
  | none => system.setRelay id { relay with phase := .initialising token }
  | some (position, savedToken) =>
      if token = savedToken then readBatch grace clock system id relay position token
      else system.setRelay id { relay with phase := .announcing token false }

/-- The broker stores the next record of what a pass publishes. -/
def store (system : System) (id : RelayId) (relay : ScanRelay) : Option System :=
  match relay.phase with
  | .announcing token false =>
      some ({ system with topic := system.topic ++ [(token, Event.scanLogReset token)] }.setRelay id
        { relay with phase := .announcing token true })
  | .publishing token log ready (row :: remaining) lost =>
      some ({ system with topic := system.topic ++ [(log, row.event)] }.setRelay id
        { relay with phase := .publishing token log ready remaining lost })
  | _ => none

/-- The broker does not store the next record: the publish will fail. -/
def lose (system : System) (id : RelayId) (relay : ScanRelay) : Option System :=
  match relay.phase with
  | .publishing token log ready (_ :: remaining) _ =>
      some (system.setRelay id
        { relay with phase := .publishing token log ready remaining true })
  | _ => none

/-- The broker has acknowledged what the pass published. -/
def acknowledge (system : System) (id : RelayId) (relay : ScanRelay) : Option System :=
  match relay.phase with
  | .announcing token true =>
      some (system.setRelay id { relay with phase := .saving 0 token true })
  | .publishing token _ ready [] false =>
      ready.getLast?.map (fun last =>
        { system with acknowledged := system.acknowledged ++ ready.map Scan.event }.setRelay id
          { relay with phase := .saving last.id token false })
  | _ => none

/-- `relay_save`, committed: the end of a pass. -/
def save (system : System) (id : RelayId) (relay : ScanRelay) : Option System :=
  match relay.phase with
  | .initialising token =>
      some ({ system with relayState := some (0, token) }.setRelay id
        { relay with phase := .idle })
  | .saving position token announced =>
      some ({ system with relayState := some (position, token) }.setRelay id
        { gap := if announced then none else relay.gap, phase := .idle })
  | _ => none

def step (grace : Time) (system : System) : Label → Option System
  | .commit scan =>
      if 0 < scan.id ∧ scan.id ∉ system.scans.map Scan.id then
        some { system with scans := system.scans ++ [scan] }
      else none
  | .replace keepsState =>
      some { system with
        scans := []
        token := system.token + 1
        relayState := if keepsState then system.relayState else none }
  | .start id =>
      match system.relays.lookup id with
      | none => some (system.setRelay id { gap := none, phase := .idle })
      | some _ => none
  | .crash id =>
      match system.relays.lookup id with
      | none => none
      | some _ => some (system.dropRelay id)
  | .fail id =>
      match system.relays.lookup id with
      | none => none
      | some relay => some (system.setRelay id { relay with phase := .idle })
  | .readState id =>
      match system.relays.lookup id with
      | some ⟨gap, .idle⟩ =>
          some (system.setRelay id { gap, phase := .gotState system.relayState })
      | _ => none
  | .readToken id =>
      match system.relays.lookup id with
      | some ⟨gap, .gotState saved⟩ =>
          some (system.setRelay id { gap, phase := .gotToken saved system.token })
      | _ => none
  | .branch id clock =>
      match system.relays.lookup id with
      | some ⟨gap, .gotToken saved token⟩ =>
          some (Relay.branch grace clock system id ⟨gap, .gotToken saved token⟩ saved token)
      | _ => none
  | .store id => (system.relays.lookup id).bind (Relay.store system id)
  | .lose id => (system.relays.lookup id).bind (Relay.lose system id)
  | .acknowledge id => (system.relays.lookup id).bind (Relay.acknowledge system id)
  | .save id => (system.relays.lookup id).bind (Relay.save system id)

end SelfCheckout.Relay
