import SelfCheckout.Data.Groups
import SelfCheckout.Data.Run
import SelfCheckout.Events
import Mathlib.Logic.Function.Basic

namespace SelfCheckout.Catalog

open SelfCheckout.Data

/-! # The catalog topic and its snapshots

Catalog's workers publish the whole list at each start, the topic
`catalog.items.v1` has one partition and keeps the last record of each key, and
every service builds a `TopicSnapshot` of it from the beginning.  One machine runs
any number of publications and of readers over one topic.
-/

/-- A row of the catalog file. -/
structure Item where
  sku : Sku
  name : String
  priceCents : Nat
deriving DecidableEq, Repr

/-- The loaded catalog: `load` refuses a file that lists a SKU twice. -/
structure Store where
  rows : List Item
  distinct : (rows.map Item.sku).Nodup

def Store.lookup (store : Store) (sku : Sku) : Option Item :=
  store.rows.find? (fun item => decide (item.sku = sku))

abbrev PublishId := Nat
abbrev WorkerId := Nat
abbrev ReaderId := Nat

inductive Event where
  | itemPublished (item : Item) (correlationId : PublishId)
  | catalogPublished (publishId : PublishId) (itemCount : Nat)
  | other (type : String)
deriving DecidableEq, Repr

structure Record where
  key : String
  event : Event
deriving DecidableEq, Repr

/-- `MARKER_KEY` -/
def markerKey : String := "__marker__"

/-- A `TopicSnapshot` of entries `Entry`. -/
structure TopicSnapshot (Entry : Type) where
  items : Table Sku Entry
  expected : Option Nat
  ready : Bool

namespace TopicSnapshot

variable {Entry : Type}

def empty : TopicSnapshot Entry := { items := Table.empty, expected := none, ready := false }

def get (snapshot : TopicSnapshot Entry) (sku : Sku) : Option Entry := snapshot.items.lookup sku

/-- The test at the end of `_apply`. -/
def judge (snapshot : TopicSnapshot Entry) : TopicSnapshot Entry :=
  match snapshot.expected with
  | none => snapshot
  | some count =>
      if count ≤ snapshot.items.rows.length then { snapshot with ready := true } else snapshot

/-- `_apply` -/
def apply (parse : Item → Entry) (snapshot : TopicSnapshot Entry) (record : Record) :
    TopicSnapshot Entry :=
  match record.event with
  | .itemPublished item _ =>
      { snapshot with items := snapshot.items.put item.sku (parse item) }.judge
  | .catalogPublished _ itemCount => { snapshot with expected := some itemCount }.judge
  | .other _ => snapshot

end TopicSnapshot

/-- `_CHUNK` -/
def chunk : Nat := 250

/-- Where `publish_catalog` is: at the chunk from this row, at the marker, done with
the count it returned, or dead with its process. -/
inductive Phase where
  | items (first : Nat)
  | marker
  | returned (itemCount : Nat)
  | crashed
deriving DecidableEq, Repr

def itemRecord (publishId : PublishId) (item : Item) : Record :=
  ⟨item.sku, .itemPublished item publishId⟩

def markerRecord (store : Store) (publishId : PublishId) : Record :=
  ⟨markerKey, .catalogPublished publishId store.rows.length⟩

/-- What a publication sends in this phase. -/
def batch (store : Store) (publishId : PublishId) : Phase → List Record
  | .items first => ((store.rows.drop first).take chunk).map (itemRecord publishId)
  | .marker => [markerRecord store publishId]
  | .returned _ => []
  | .crashed => []

/-- `range(0, len(rows), _CHUNK)` from here on. -/
def phaseAt (store : Store) (first : Nat) : Phase :=
  if first < store.rows.length then .items first else .marker

/-- A run of `publish_catalog`.  What it has ever sent can still reach the topic;
`stored` is what has reached it since the current batch was sent. -/
structure Publication where
  publishId : PublishId
  phase : Phase
  sent : List Record
  stored : List Record

def Publication.enter (publication : Publication) (store : Store) (phase : Phase) : Publication :=
  { publication with
    phase
    sent := publication.sent ++ batch store publication.publishId phase
    stored := [] }

/-- The start of `publish_catalog`. -/
def Publication.begin (store : Store) (publishId : PublishId) : Publication :=
  { publishId
    phase := phaseAt store 0
    sent := batch store publishId (phaseAt store 0)
    stored := [] }

/-- The step after a batch the broker has acknowledged. -/
def Publication.afterAck (publication : Publication) (store : Store) : Option Publication :=
  match publication.phase with
  | .items first => some (publication.enter store (phaseAt store (first + chunk)))
  | .marker => some (publication.enter store (.returned store.rows.length))
  | .returned _ => none
  | .crashed => none

/-- `except Transient`: start over. -/
def Publication.retry (publication : Publication) (store : Store) : Option Publication :=
  match publication.phase with
  | .items _ => some (publication.enter store (phaseAt store 0))
  | .marker => some (publication.enter store (phaseAt store 0))
  | .returned _ => none
  | .crashed => none

/-- A reader from the beginning: the next offset, the polled records it has still to
apply, and the snapshot. -/
structure Reader (Entry : Type) where
  position : Nat
  pending : List Record
  snapshot : TopicSnapshot Entry

/-- The limit of `poll`. -/
def maxRecords : Nat := 500

/-- One batch of `run_consumer` with concurrency 1: group after group. -/
def inGroups (records : List Record) : List Record :=
  (groupBy Record.key records).rows.flatMap Prod.snd

/-- The topic, where compaction leaves holes, and the processes around it. -/
structure System (Entry : Type) where
  log : List (Option Record)
  publications : WorkerId → Option Publication
  readers : ReaderId → Option (Reader Entry)

def initial (Entry : Type) : System Entry :=
  { log := [], publications := fun _ => none, readers := fun _ => none }

inductive Label where
  | publish (worker : WorkerId) (publishId : PublishId)
  | store (worker : WorkerId) (record : Record)
  | acknowledge (worker : WorkerId)
  | fail (worker : WorkerId)
  | crash (worker : WorkerId)
  | compact (offset : Nat)
  | subscribe (reader : ReaderId)
  | poll (reader : ReaderId) (count : Nat)
  | handle (reader : ReaderId)
deriving DecidableEq, Repr

variable {Entry : Type}

def System.setPublication (system : System Entry) (worker : WorkerId) (publication : Publication) :
    System Entry :=
  { system with publications := Function.update system.publications worker (some publication) }

def System.setReader (system : System Entry) (id : ReaderId) (reader : Reader Entry) :
    System Entry :=
  { system with readers := Function.update system.readers id (some reader) }

/-- Compaction may drop a record that is not the last of its key. -/
def compactible (log : List (Option Record)) (offset : Nat) : Bool :=
  match log[offset]? with
  | some (some record) =>
      (log.drop (offset + 1)).any (fun slot => slot.any (fun later => decide (later.key = record.key)))
  | some none => false
  | none => false

def step (store : Store) (parse : Item → Entry) (system : System Entry) :
    Label → Option (System Entry)
  | .publish worker publishId =>
      match system.publications worker with
      | none => some (system.setPublication worker (.begin store publishId))
      | some _ => none
  | .store worker record =>
      match system.publications worker with
      | none => none
      | some publication =>
          if record ∈ publication.sent then
            some ({ system with log := system.log ++ [some record] }.setPublication worker
              { publication with stored := publication.stored ++ [record] })
          else none
  | .acknowledge worker =>
      match system.publications worker with
      | none => none
      | some publication =>
          if batch store publication.publishId publication.phase ⊆ publication.stored then
            (publication.afterAck store).map (system.setPublication worker)
          else none
  | .fail worker =>
      match system.publications worker with
      | none => none
      | some publication => (publication.retry store).map (system.setPublication worker)
  | .crash worker =>
      match system.publications worker with
      | none => none
      | some publication =>
          some (system.setPublication worker { publication with phase := .crashed })
  | .compact offset =>
      if compactible system.log offset then some { system with log := system.log.set offset none }
      else none
  | .subscribe id =>
      match system.readers id with
      | none => some (system.setReader id { position := 0, pending := [], snapshot := .empty })
      | some _ => none
  | .poll id count =>
      match system.readers id with
      | none => none
      | some reader =>
          let records := ((system.log.drop reader.position).take count).filterMap (fun slot => slot)
          if reader.pending = [] ∧ reader.position + count ≤ system.log.length ∧
              records.length ≤ maxRecords then
            some (system.setReader id
              { reader with
                position := reader.position + count
                pending := inGroups records })
          else none
  | .handle id =>
      match system.readers id with
      | none => none
      | some reader =>
          match reader.pending with
          | [] => none
          | record :: pending =>
              some (system.setReader id
                { reader with pending, snapshot := reader.snapshot.apply parse record })

/-- What a step does. -/
inductive Does (store : Store) (parse : Item → Entry) (system : System Entry) :
    System Entry → Prop where
  | begins (worker : WorkerId) (publishId : PublishId) :
      Does store parse system (system.setPublication worker (.begin store publishId))
  | stores {worker : WorkerId} {publication : Publication} {record : Record}
      (present : system.publications worker = some publication)
      (sent : record ∈ publication.sent) :
      Does store parse system
        ({ system with log := system.log ++ [some record] }.setPublication worker
          { publication with stored := publication.stored ++ [record] })
  | goesOn {worker : WorkerId} {publication next : Publication}
      (present : system.publications worker = some publication)
      (stored : batch store publication.publishId publication.phase ⊆ publication.stored)
      (acked : publication.afterAck store = some next) :
      Does store parse system (system.setPublication worker next)
  | startsOver {worker : WorkerId} {publication next : Publication}
      (present : system.publications worker = some publication)
      (failed : publication.retry store = some next) :
      Does store parse system (system.setPublication worker next)
  | crashes {worker : WorkerId} {publication : Publication}
      (present : system.publications worker = some publication) :
      Does store parse system (system.setPublication worker { publication with phase := .crashed })
  | compacts {offset : Nat} (allowed : compactible system.log offset = true) :
      Does store parse system { system with log := system.log.set offset none }
  | subscribes {id : ReaderId} (absent : system.readers id = none) :
      Does store parse system
        (system.setReader id { position := 0, pending := [], snapshot := .empty })
  | polls {id : ReaderId} {reader : Reader Entry} {count : Nat}
      (present : system.readers id = some reader) (idle : reader.pending = [])
      (within : reader.position + count ≤ system.log.length) :
      Does store parse system
        (system.setReader id
          { reader with
            position := reader.position + count
            pending := inGroups (((system.log.drop reader.position).take count).filterMap
              (fun slot => slot)) })
  | handles {id : ReaderId} {reader : Reader Entry} {record : Record} {pending : List Record}
      (present : system.readers id = some reader) (next : reader.pending = record :: pending) :
      Does store parse system
        (system.setReader id
          { reader with pending, snapshot := reader.snapshot.apply parse record })

/-- The inversion of `step`. -/
theorem step_does {store : Store} {parse : Item → Entry} {system after : System Entry}
    {label : Label} (taken : step store parse system label = some after) :
    Does store parse system after := by
  cases label with
  | publish worker publishId =>
      simp only [step] at taken
      split at taken <;> cases taken
      exact .begins worker publishId
  | store worker record =>
      simp only [step] at taken
      split at taken
      · contradiction
      · rename_i publication present
        split at taken <;> cases taken
        rename_i sent
        exact .stores present sent
  | acknowledge worker =>
      simp only [step] at taken
      split at taken
      · contradiction
      · rename_i publication present
        split at taken
        · rename_i stored
          obtain ⟨next, acked, rfl⟩ := Option.map_eq_some_iff.mp taken
          exact .goesOn present stored acked
        · contradiction
  | fail worker =>
      simp only [step] at taken
      split at taken
      · contradiction
      · rename_i publication present
        obtain ⟨next, failed, rfl⟩ := Option.map_eq_some_iff.mp taken
        exact .startsOver present failed
  | crash worker =>
      simp only [step] at taken
      split at taken <;> cases taken
      rename_i publication present
      exact .crashes present
  | compact offset =>
      simp only [step] at taken
      split at taken <;> cases taken
      rename_i allowed
      exact .compacts allowed
  | subscribe id =>
      simp only [step] at taken
      split at taken <;> cases taken
      rename_i absent
      exact .subscribes absent
  | poll id count =>
      simp only [step] at taken
      split at taken
      · contradiction
      · rename_i reader present
        split at taken <;> cases taken
        rename_i polls
        exact .polls present polls.1 polls.2.1
  | handle id =>
      simp only [step] at taken
      split at taken
      · contradiction
      · rename_i reader present
        split at taken <;> cases taken
        rename_i record pending next
        exact .handles present next

end SelfCheckout.Catalog
