import SelfCheckout.Data.Run
import SelfCheckout.Events
import Mathlib.Data.List.Nodup
import Mathlib.Logic.Function.Basic

namespace SelfCheckout.Outbox

open SelfCheckout.Data

/-! # The transactional outbox

The outbox of a service, over any database, local transactions and payloads.  A
local transaction commits its rows with its own changes.  Fast-path calls and
sweepers then publish and mark rows concurrently: publishing touches the broker
only, a mark is visible when its transaction commits, and a worker can fail or
crash between any two of these.
-/

abbrev WorkerId := Nat

/-- A service: what a local transaction does to its database, the payloads the
database's outbox has been given so far, and whether the service also publishes
events that have no row. -/
structure Service (Db Work Payload : Type) where
  topic : String
  asks : Bool
  key : Payload → String
  transact : Db → Work → Option Db
  queued : Db → List Payload
  appends : ∀ {before work after}, transact before work = some after →
    queued before <+: queued after

/-- An event with the topic and the key it is published under. -/
structure Envelope (Payload : Type) where
  topic : String
  key : String
  eventId : Nat
  payload : Payload
deriving DecidableEq, Repr

/-- A row of the outbox table. -/
structure Row (Payload : Type) where
  envelope : Envelope Payload
  createdAt : Time
  publishedAt : Option Time
deriving DecidableEq, Repr

/-- A `publish_now` call: about to publish, or acknowledged and about to mark. -/
inductive FastPath (Payload : Type) where
  | publishing (envelope : Envelope Payload)
  | marking (envelope : Envelope Payload)
deriving DecidableEq, Repr

def FastPath.envelope {Payload : Type} : FastPath Payload → Envelope Payload
  | .publishing envelope => envelope
  | .marking envelope => envelope

/-- A `sweep_once` transaction: the claimed rows still to publish, and the marks
it has made and not committed. -/
structure Sweep (Payload : Type) where
  remaining : List (Envelope Payload)
  marked : List (Envelope Payload)
deriving DecidableEq, Repr

/-- A committed local transaction and the rows it inserted. -/
structure Commit (Db Work Payload : Type) where
  before : Db
  work : Work
  after : Db
  envelopes : List (Envelope Payload)

/-- The service's database and its outbox table, the topic as the broker stores
it, and the workers.  `history` and `asked` only record: the local transactions
committed, and the events published without a row. -/
structure State (Db Work Payload : Type) where
  db : Db
  nextEventId : Nat
  rows : List (Row Payload)
  stored : List (Envelope Payload)
  lockedBy : Nat → Option WorkerId
  fast : WorkerId → Option (FastPath Payload)
  sweeps : WorkerId → Option (Sweep Payload)
  history : List (Commit Db Work Payload)
  asked : List (Envelope Payload)

variable {Db Work Payload : Type}

def initial (db : Db) : State Db Work Payload :=
  { db, nextEventId := 0, rows := [], stored := [], lockedBy := fun _ => none,
    fast := fun _ => none, sweeps := fun _ => none, history := [], asked := [] }

def State.committed (state : State Db Work Payload) : List (Envelope Payload) :=
  state.history.flatMap Commit.envelopes

inductive Publish where
  | acknowledged
  /-- The broker stored the event but the acknowledgement did not arrive. -/
  | storedUnacknowledged
  | failed
deriving DecidableEq, Repr

def Publish.stores : Publish → Bool
  | .acknowledged => true
  | .storedUnacknowledged => true
  | .failed => false

inductive Action (Work Payload : Type) where
  | transact (work : Work) (now : Time)
  | publishNow (worker : WorkerId) (envelope : Envelope Payload)
  /-- `publish_now` for an event that has no row. -/
  | publishFresh (worker : WorkerId) (payload : Payload)
  | publish (worker : WorkerId) (outcome : Publish)
  | mark (worker : WorkerId) (now : Time)
  /-- The mark raises; the call still returns. -/
  | markFails (worker : WorkerId)
  | sweep (worker : WorkerId) (age limit : Nat) (now : Time)
  | sweepPublish (worker : WorkerId) (outcome : Publish)
  | sweepCommit (worker : WorkerId) (now : Time)
  | sweepRollback (worker : WorkerId)
  | purge (hours : Nat) (now : Time)
  | crash (worker : WorkerId)
deriving DecidableEq, Repr

section Statements

/-- The envelopes of newly inserted rows. -/
def envelopesOf (service : Service Db Work Payload) (next : Nat) (payloads : List Payload) :
    List (Envelope Payload) :=
  (payloads.zipIdx next).map (fun numbered =>
    ⟨service.topic, service.key numbered.1, numbered.2, numbered.1⟩)

/-- `_MARK_PUBLISHED` -/
def markPublished (rows : List (Row Payload)) (id : Nat) (now : Time) : List (Row Payload) :=
  rows.map (fun row =>
    if row.envelope.eventId = id ∧ row.publishedAt = none then
      { row with publishedAt := some now }
    else row)

/-- `_CLAIM_UNPUBLISHED`; the rows are in id order. -/
def claimUnpublished (rows : List (Row Payload)) (lockedBy : Nat → Option WorkerId)
    (age limit : Nat) (now : Time) : List (Envelope Payload) :=
  ((rows.filter (fun row =>
    row.publishedAt.isNone && decide (row.createdAt + age < now) &&
      (lockedBy row.envelope.eventId).isNone)).take limit).map Row.envelope

/-- `_DELETE_PUBLISHED` -/
def deletePublished (rows : List (Row Payload)) (hours : Nat) (now : Time) :
    List (Row Payload) :=
  rows.filter (fun row =>
    match row.publishedAt with
    | none => true
    | some published => ! decide (published + 3600 * hours < now))

def unlock (lockedBy : Nat → Option WorkerId) (worker : WorkerId) :
    Nat → Option WorkerId :=
  fun id => if lockedBy id = some worker then none else lockedBy id

end Statements

def step [DecidableEq Payload] (service : Service Db Work Payload) (state : State Db Work Payload) :
    Action Work Payload → Option (State Db Work Payload)
  | .transact work now =>
      (service.transact state.db work).map (fun after =>
        let payloads := (service.queued after).drop (service.queued state.db).length
        let envelopes := envelopesOf service state.nextEventId payloads
        { state with
          db := after
          nextEventId := state.nextEventId + payloads.length
          rows := state.rows ++ envelopes.map (fun envelope => ⟨envelope, now, none⟩)
          history := state.history ++ [⟨state.db, work, after, envelopes⟩] })
  | .publishNow worker envelope =>
      match state.fast worker with
      | some _ => none
      | none =>
          if envelope ∈ state.committed then
            some { state with
              fast := Function.update state.fast worker (some (.publishing envelope)) }
          else none
  | .publishFresh worker payload =>
      match state.fast worker with
      | some _ => none
      | none =>
          if service.asks then
            let envelope := ⟨service.topic, service.key payload, state.nextEventId, payload⟩
            some { state with
              nextEventId := state.nextEventId + 1
              fast := Function.update state.fast worker (some (.publishing envelope))
              asked := state.asked ++ [envelope] }
          else none
  | .publish worker outcome =>
      match state.fast worker with
      | some (.publishing envelope) =>
          some { state with
            stored := if outcome.stores then state.stored ++ [envelope] else state.stored
            fast := Function.update state.fast worker
              (if outcome = .acknowledged then some (.marking envelope) else none) }
      | _ => none
  | .mark worker now =>
      match state.fast worker with
      | some (.marking envelope) =>
          match state.lockedBy envelope.eventId with
          | some _ => none
          | none => some { state with
              rows := markPublished state.rows envelope.eventId now
              fast := Function.update state.fast worker none }
      | _ => none
  | .markFails worker =>
      match state.fast worker with
      | some (.marking _) => some { state with fast := Function.update state.fast worker none }
      | _ => none
  | .sweep worker age limit now =>
      match state.sweeps worker with
      | some _ => none
      | none =>
          let claimed := claimUnpublished state.rows state.lockedBy age limit now
          some { state with
            lockedBy := fun id =>
              if id ∈ claimed.map Envelope.eventId then some worker else state.lockedBy id
            sweeps := Function.update state.sweeps worker (some ⟨claimed, []⟩) }
  | .sweepPublish worker outcome =>
      match state.sweeps worker with
      | some ⟨envelope :: remaining, marked⟩ =>
          some { state with
            stored := if outcome.stores then state.stored ++ [envelope] else state.stored
            sweeps := Function.update state.sweeps worker
              (if outcome = .acknowledged then some ⟨remaining, marked ++ [envelope]⟩
                else some ⟨[], marked⟩) }
      | _ => none
  | .sweepCommit worker now =>
      match state.sweeps worker with
      | some ⟨[], marked⟩ =>
          some { state with
            rows := marked.foldl (fun rows envelope =>
              markPublished rows envelope.eventId now) state.rows
            lockedBy := unlock state.lockedBy worker
            sweeps := Function.update state.sweeps worker none }
      | _ => none
  | .sweepRollback worker =>
      match state.sweeps worker with
      | none => none
      | some _ => some { state with
          lockedBy := unlock state.lockedBy worker
          sweeps := Function.update state.sweeps worker none }
  | .purge hours now => some { state with rows := deletePublished state.rows hours now }
  | .crash worker => some { state with
      lockedBy := unlock state.lockedBy worker
      fast := Function.update state.fast worker none
      sweeps := Function.update state.sweeps worker none }

end SelfCheckout.Outbox
