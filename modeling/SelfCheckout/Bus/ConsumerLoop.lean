import SelfCheckout.Bus.Memory
import SelfCheckout.Data.Run

namespace SelfCheckout.Bus

open SelfCheckout.Data

/-! # run_consumer

The consumer loop polls a batch, handles its groups concurrently under a semaphore,
each group in order, and commits once all of them are done.  A handler call, a publish
to the dead-letter topic, a poll and a commit are one step each.
-/

/-- What a call of the handler ends in. -/
inductive Outcome where
  | returned
  | transient
  | decodeError
  | raised
deriving DecidableEq, Repr

/-- Where `_handle_one` is: before its next attempt, or publishing the dead letter. -/
inductive Handling where
  | trying (attempt : Nat)
  | deadLettering (made : Nat)
deriving DecidableEq, Repr

/-- `while attempt < max_attempts` -/
def Handling.loop (maxAttempts attempt made : Nat) : Handling :=
  if attempt < maxAttempts then .trying attempt else .deadLettering made

/-- An attempt: `none` where `_handle_one` returns. -/
def Handling.attempt (maxAttempts attempt : Nat) : Outcome → Option Handling
  | .returned => none
  | .transient => some (.trying attempt)
  | .decodeError => some (.deadLettering 1)
  | .raised => some (.loop maxAttempts (attempt + 1) (attempt + 1))

abbrev GroupKey := Partition × Option String

def Record.groupKey (record : Record) : GroupKey := (record.partition, record.key)

inductive Turn where
  | waiting
  | between
  | handling (record : Record) (handling : Handling)
  | released
deriving DecidableEq, Repr

/-- A `run_group`: what it is doing, and the records it has not come to. -/
structure Group where
  turn : Turn
  records : List Record
deriving DecidableEq, Repr

/-- The record a group is handling. -/
def Group.current (group : Group) : List Record :=
  match group.turn with
  | .handling record _ => [record]
  | _ => []

def Group.holdsSemaphore (group : Group) : Bool :=
  match group.turn with
  | .waiting | .released => false
  | .between | .handling _ _ => true

structure Settings where
  concurrency : Nat
  maxAttempts : Nat

/-- What happened, for the properties: the loop does not read it. -/
inductive Event where
  | restarted
  | commitLost
  | delivered (record : Record)
  | started (record : Record)
  | handled (record : Record)
  | deadLettered (record : Record)
deriving DecidableEq, Repr

/-- The bus and the running consumer.  `origin` records where the latest consumer that
found no committed offset started, `resumed` where the positions were last set back to. -/
structure System where
  bus : MemoryBus
  positions : Partition → Nat
  batch : Option (Table GroupKey Group)
  deadLetters : List (Record × Nat)
  origin : Partition → Nat
  resumed : Partition → Nat
  history : List Event

/-- A first consumer on an empty topic. -/
def initial (partitions : Nat) : System :=
  { bus := .empty partitions, positions := fun _ => 0, batch := none, deadLetters := [],
    origin := fun _ => 0, resumed := fun _ => 0, history := [] }

inductive Label where
  | publish (partition : Partition) (key : Option String) (value : String)
  | crashBeforeCommit (times : Nat)
  | restart (start : Start)
  | poll (maxRecords : Nat)
  | acquire (key : GroupKey)
  | next (key : GroupKey)
  | attempt (key : GroupKey) (outcome : Outcome)
  | publishDeadLetter (key : GroupKey) (acknowledged : Bool)
  | commit
deriving DecidableEq, Repr

def System.setGroup (system : System) (batch : Table GroupKey Group) (key : GroupKey)
    (group : Group) (events : List Event) : System :=
  { system with batch := some (batch.put key group), history := system.history ++ events }

/-- A new process: a new consumer with the positions of its group. -/
def restart (system : System) (start : Start) : System :=
  { system with
    positions := system.bus.consumer start
    batch := none
    origin :=
      match system.bus.committed with
      | some _ => system.origin
      | none => system.bus.consumer start
    resumed := system.bus.consumer start
    history := system.history ++ [.restarted] }

/-- A poll, and the groups of what it returned. -/
def poll (system : System) (maxRecords : Nat) : System :=
  let taken := system.bus.take system.positions maxRecords
  if taken.1.isEmpty then system
  else
    { system with
      positions := taken.2
      batch := some ((groupBy Record.groupKey taken.1).mapValues
        (fun _ records => ⟨.waiting, records⟩))
      history := system.history ++ taken.1.map .delivered }

def acquire (settings : Settings) (system : System) (batch : Table GroupKey Group) (key : GroupKey)
    (group : Group) : Option System :=
  match group.turn with
  | .waiting =>
      if (batch.rows.filter (fun row => row.2.holdsSemaphore)).length < max 1 settings.concurrency then
        some (system.setGroup batch key { group with turn := .between } [])
      else none
  | _ => none

/-- `for rec in group`: the next record, or the end of the group. -/
def next (settings : Settings) (system : System) (batch : Table GroupKey Group) (key : GroupKey)
    (group : Group) : Option System :=
  match group.turn, group.records with
  | .between, [] => some (system.setGroup batch key { group with turn := .released } [])
  | .between, record :: records =>
      some (system.setGroup batch key
        ⟨.handling record (.loop settings.maxAttempts 0 0), records⟩ [.started record])
  | _, _ => none

def attempt (settings : Settings) (system : System) (batch : Table GroupKey Group) (key : GroupKey)
    (group : Group) (outcome : Outcome) : Option System :=
  match group.turn with
  | .handling record (.trying attempt) =>
      match Handling.attempt settings.maxAttempts attempt outcome with
      | none => some (system.setGroup batch key { group with turn := .between } [.handled record])
      | some handling =>
          some (system.setGroup batch key { group with turn := .handling record handling } [])
  | _ => none

/-- `_dead_letter`: the publish is repeated until it is acknowledged. -/
def publishDeadLetter (system : System) (batch : Table GroupKey Group) (key : GroupKey)
    (group : Group) (acknowledged : Bool) : Option System :=
  match group.turn with
  | .handling record (.deadLettering made) =>
      if acknowledged then
        some ({ system with deadLetters := system.deadLetters ++ [(record, max 1 made)] }.setGroup
          batch key { group with turn := .between } [.deadLettered record])
      else some system
  | _ => none

/-- `gather` has returned and the positions are committed. -/
def commit (system : System) (batch : Table GroupKey Group) : Option System :=
  if ∀ row ∈ batch.rows, row.2.turn = .released then
    let done := system.bus.commit system.positions
    some { system with
      bus := done.1
      positions := done.2.1
      batch := none
      resumed := if done.2.2 then done.2.1 else system.resumed
      history := system.history ++ (if done.2.2 then [.commitLost] else []) }
  else none

/-- A step of one group of the batch. -/
def ofGroup (system : System) (key : GroupKey)
    (act : Table GroupKey Group → Group → Option System) : Option System :=
  system.batch.bind (fun batch => (batch.lookup key).bind (act batch))

def step (settings : Settings) (system : System) : Label → Option System
  | .publish partition key value =>
      if partition < system.bus.partitions then
        some { system with bus := system.bus.append partition key value }
      else none
  | .crashBeforeCommit times =>
      some { system with
        bus := { system.bus with crashBeforeCommit := system.bus.crashBeforeCommit + times } }
  | .restart start => some (restart system start)
  | .poll maxRecords =>
      match system.batch with
      | none => some (poll system maxRecords)
      | some _ => none
  | .acquire key => ofGroup system key (fun batch => acquire settings system batch key)
  | .next key => ofGroup system key (fun batch => next settings system batch key)
  | .attempt key outcome =>
      ofGroup system key (fun batch group => attempt settings system batch key group outcome)
  | .publishDeadLetter key acknowledged =>
      ofGroup system key (fun batch group =>
        publishDeadLetter system batch key group acknowledged)
  | .commit => system.batch.bind (commit system)

/-- A step of a group starts its next record, finishes the one it handles, or does neither. -/
inductive Group.Step (before after : Group) : List Event → Prop where
  | quiet (current : after.current = before.current) (records : after.records = before.records) :
      Group.Step before after []
  | start (record : Record) (idle : before.current = [])
      (first : before.records = record :: after.records) (current : after.current = [record]) :
      Group.Step before after [.started record]
  | finish (record : Record) (event : Event)
      (done : event = .handled record ∨ event = .deadLettered record)
      (current : before.current = [record]) (idle : after.current = [])
      (records : after.records = before.records) : Group.Step before after [event]

/-- A group of the batch took a step; a group is released at its end. -/
structure GroupTook (before after : System) (events : List Event) : Prop where
  took : ∃ batch key group next, before.batch = some batch ∧ batch.lookup key = some group ∧
    Group.Step group next events ∧ (next.turn = .released → next.records = []) ∧
    after.batch = some (batch.put key next)
  bus : after.bus = before.bus
  positions : after.positions = before.positions
  origin : after.origin = before.origin
  resumed : after.resumed = before.resumed
  history : after.history = before.history ++ events

section Steps

variable {settings : Settings} {before after : System}

theorem setGroup_took {batch : Table GroupKey Group} {key : GroupKey} {group next : Group}
    {events : List Event} (present : before.batch = some batch)
    (found : batch.lookup key = some group) (stepped : Group.Step group next events)
    (released : next.turn = .released → next.records = []) :
    GroupTook before (before.setGroup batch key next events) events :=
  ⟨⟨batch, key, group, next, present, found, stepped, released, rfl⟩, rfl, rfl, rfl, rfl, rfl⟩

theorem ofGroup_took {key : GroupKey} {act : Table GroupKey Group → Group → Option System}
    (acts : ∀ batch group, before.batch = some batch → batch.lookup key = some group →
      act batch group = some after → after = before ∨ ∃ events, GroupTook before after events)
    (taken : ofGroup before key act = some after) :
    after = before ∨ ∃ events, GroupTook before after events := by
  obtain ⟨batch, present, rest⟩ := Option.bind_eq_some_iff.mp taken
  obtain ⟨group, found, acted⟩ := Option.bind_eq_some_iff.mp rest
  exact acts batch group present found acted

theorem acquire_took {batch : Table GroupKey Group} {key : GroupKey} {group : Group}
    (present : before.batch = some batch) (found : batch.lookup key = some group)
    (acted : acquire settings before batch key group = some after) :
    after = before ∨ ∃ events, GroupTook before after events := by
  unfold acquire at acted
  split at acted
  · rename_i waiting
    split at acted
    · cases acted
      refine .inr ⟨_, setGroup_took present found (.quiet ?_ rfl) (fun released => ?_)⟩
      · simp only [Group.current, waiting]
      · contradiction
    · contradiction
  · contradiction

theorem next_took {batch : Table GroupKey Group} {key : GroupKey} {group : Group}
    (present : before.batch = some batch) (found : batch.lookup key = some group)
    (acted : next settings before batch key group = some after) :
    after = before ∨ ∃ events, GroupTook before after events := by
  unfold next at acted
  split at acted
  · rename_i between empty
    cases acted
    refine .inr ⟨_, setGroup_took present found (.quiet ?_ rfl) (fun _ => empty)⟩
    simp only [Group.current, between]
  · rename_i record records between first
    cases acted
    refine .inr ⟨_, setGroup_took present found (.start record ?_ first rfl) (fun released => ?_)⟩
    · simp only [Group.current, between]
    · contradiction
  · contradiction

theorem attempt_took {batch : Table GroupKey Group} {key : GroupKey} {group : Group}
    {outcome : Outcome} (present : before.batch = some batch)
    (found : batch.lookup key = some group)
    (acted : attempt settings before batch key group outcome = some after) :
    after = before ∨ ∃ events, GroupTook before after events := by
  unfold attempt at acted
  split at acted
  · rename_i record attempt trying
    split at acted
    · cases acted
      refine .inr ⟨_, setGroup_took present found
        (.finish record _ (.inl rfl) ?_ rfl rfl) (fun released => ?_)⟩
      · simp only [Group.current, trying]
      · contradiction
    · cases acted
      refine .inr ⟨_, setGroup_took present found (.quiet ?_ rfl) (fun released => ?_)⟩
      · simp only [Group.current, trying]
      · contradiction
  · contradiction

theorem publishDeadLetter_took {batch : Table GroupKey Group} {key : GroupKey} {group : Group}
    {acknowledged : Bool} (present : before.batch = some batch)
    (found : batch.lookup key = some group)
    (acted : publishDeadLetter before batch key group acknowledged = some after) :
    after = before ∨ ∃ events, GroupTook before after events := by
  unfold publishDeadLetter at acted
  split at acted
  · rename_i record made deadLettering
    split at acted
    · cases acted
      refine .inr ⟨_, ⟨batch, key, group, { group with turn := .between }, present, found,
        .finish record _ (.inr rfl) ?_ rfl rfl, ?_, rfl⟩, rfl, rfl, rfl, rfl, rfl⟩
      · simp only [Group.current, deadLettering]
      · intro released
        contradiction
    · cases acted
      exact .inl rfl
  · contradiction

end Steps

end SelfCheckout.Bus
