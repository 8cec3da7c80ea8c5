import SelfCheckout.Bus.Order

namespace SelfCheckout.Bus

open SelfCheckout.Data

/-! # A handler with a database

The consumer loop over any handler that does its work in one local transaction.  The
transaction of an attempt commits at some point of the attempt, or of no attempt any more:
a COMMIT that was on its way when the attempt failed or the process died can still land.
-/

/-- What a record says to the handler. -/
inductive Said (Work : Type) where
  | malformed
  | ignored
  | unusable
  | work (work : Work)

/-- A handler: what it reads out of a record, and its local transaction, `none` where it raises. -/
structure Handler (Db Work : Type) where
  said : Record → Said Work
  transact : Db → Work → Option Db

/-- The consumer and its database.  `ran` marks the groups whose attempt has committed,
`orphans` are the records of transactions nobody waits for, `applied` the records whose
transactions committed, in that order. -/
structure Consuming (Db : Type) where
  loop : System
  db : Db
  ran : GroupKey → Bool
  orphans : List Record
  applied : List Record

namespace Consuming

inductive Label where
  | loop (label : Bus.Label)
  | restart
  | transact (key : GroupKey)
  | lateCommit (record : Record)
  | ends (key : GroupKey) (outcome : Outcome)
deriving DecidableEq, Repr

end Consuming

/-- The record a group's handler is called with. -/
def Group.attempting (group : Group) : Option Record :=
  match group.turn with
  | .handling record (.trying _) => some record
  | _ => none

def System.attempting (system : System) (key : GroupKey) : Option Record :=
  system.batch.bind (fun batch => (batch.lookup key).bind Group.attempting)

/-- How a handler call can end: `ran` says that its transaction committed. -/
def Said.ends {Work : Type} (said : Said Work) (ran : Bool) : Outcome → Bool
  | .returned => match said with
      | .ignored => true
      | .work _ => ran
      | _ => false
  | .decodeError => match said with
      | .malformed => true
      | _ => false
  | .transient => match said with
      | .work _ => true
      | _ => false
  | .raised => match said with
      | .unusable | .work _ => true
      | _ => false

namespace Consuming

variable {Db Work : Type}

def initial (partitions : Nat) (db : Db) : Consuming Db :=
  { loop := Bus.initial partitions, db, ran := fun _ => false, orphans := [], applied := [] }

/-- The calls whose transaction has not committed. -/
def uncommitted (consuming : Consuming Db) : List Record :=
  match consuming.loop.batch with
  | none => []
  | some batch => batch.rows.filterMap (fun row =>
      if consuming.ran row.1 then none else row.2.attempting)

/-- The local transaction of a record. -/
def perform (handler : Handler Db Work) (db : Db) (record : Record) : Option Db :=
  match handler.said record with
  | .work work => handler.transact db work
  | _ => none

/-- The local transaction of a record commits. -/
def commits (handler : Handler Db Work) (consuming : Consuming Db) (record : Record) :
    Option (Consuming Db) :=
  (perform handler consuming.db record).map (fun db =>
    { consuming with db, applied := consuming.applied ++ [record] })

/-- A new process, which starts where its group has committed, else at the beginning. -/
def restart (consuming : Consuming Db) : Consuming Db :=
  { consuming with
    loop := Bus.restart consuming.loop .beginning
    ran := fun _ => false
    orphans := consuming.orphans ++ consuming.uncommitted }

def transact (handler : Handler Db Work) (consuming : Consuming Db) (key : GroupKey) :
    Option (Consuming Db) :=
  (consuming.loop.attempting key).bind (fun record =>
    if consuming.ran key then none
    else (consuming.commits handler record).map (fun after =>
      { after with ran := Function.update consuming.ran key true }))

def lateCommit (handler : Handler Db Work) (consuming : Consuming Db) (record : Record) :
    Option (Consuming Db) :=
  if record ∈ consuming.orphans then
    (consuming.commits handler record).map (fun after =>
      { after with orphans := consuming.orphans.erase record })
  else none

def ends (handler : Handler Db Work) (settings : Settings) (consuming : Consuming Db)
    (key : GroupKey) (outcome : Outcome) : Option (Consuming Db) :=
  (consuming.loop.attempting key).bind (fun record =>
    if (handler.said record).ends (consuming.ran key) outcome then
      (Bus.step settings consuming.loop (.attempt key outcome)).map (fun loop =>
        { consuming with
          loop
          ran := Function.update consuming.ran key false
          orphans := consuming.orphans ++ (if consuming.ran key then [] else [record]) })
    else none)

/-- A step of the loop that neither ends a call nor starts a process. -/
def plain : Bus.Label → Bool
  | .attempt _ _ | .restart _ => false
  | _ => true

def step (handler : Handler Db Work) (settings : Settings) (consuming : Consuming Db) :
    Label → Option (Consuming Db)
  | .loop label =>
      if plain label then
        (Bus.step settings consuming.loop label).map (fun loop => { consuming with loop })
      else none
  | .restart => some consuming.restart
  | .transact key => consuming.transact handler key
  | .lateCommit record => consuming.lateCommit handler record
  | .ends key outcome => consuming.ends handler settings key outcome

end Consuming

section Loop

variable {settings : Settings} {before after : System} {label : Bus.Label} {key : GroupKey}
  {record : Record}

theorem current_of_attempting (calling : before.attempting key = some record) :
    before.current key = [record] := by
  obtain ⟨batch, present, rest⟩ := Option.bind_eq_some_iff.mp calling
  obtain ⟨group, found, attempting⟩ := Option.bind_eq_some_iff.mp rest
  rw [current_of_batch present found]
  unfold Group.attempting at attempting
  split at attempting
  · rename_i turn
    cases attempting
    simp only [Group.current, turn]
  · contradiction

theorem attempting_of_batch {batch : Table GroupKey Group} {group : Group}
    (present : before.batch = some batch) (found : batch.lookup key = some group) :
    before.attempting key = group.attempting := by
  simp only [System.attempting, present, Option.bind_some, found]

/-- A step of one group leaves the calls of the others alone. -/
theorem attempting_setGroup {batch : Table GroupKey Group} {own : GroupKey} {group next : Group}
    {events : List Event} (present : before.batch = some batch) (found : batch.lookup own = some group)
    (idle : key = own → group.attempting = none) (calling : before.attempting key = some record) :
    (before.setGroup batch own next events).attempting key = some record := by
  by_cases same : key = own
  · subst same
    rw [attempting_of_batch present found, idle rfl] at calling
    contradiction
  · have there : (before.setGroup batch own next events).attempting key = before.attempting key := by
      simp only [System.attempting, System.setGroup, present, Option.bind_some,
        Table.lookup_put_of_ne batch next same]
    rw [there]
    exact calling

/-- Only its own end and a restart end a call. -/
theorem attempting_kept (taken : Bus.step settings before label = some after)
    (noEnd : ∀ outcome, label ≠ .attempt key outcome) (noRestart : ∀ start, label ≠ .restart start)
    (calling : before.attempting key = some record) : after.attempting key = some record := by
  cases label with
  | publish partition key value =>
      simp only [Bus.step] at taken
      split at taken
      · cases taken
        exact calling
      · contradiction
  | crashBeforeCommit times =>
      cases taken
      exact calling
  | restart start => exact absurd rfl (noRestart start)
  | poll maxRecords =>
      obtain ⟨batch, present, -⟩ := Option.bind_eq_some_iff.mp calling
      simp only [Bus.step, present] at taken
      contradiction
  | acquire own =>
      obtain ⟨batch, present, rest⟩ := Option.bind_eq_some_iff.mp taken
      obtain ⟨group, found, acted⟩ := Option.bind_eq_some_iff.mp rest
      simp only [acquire] at acted
      split at acted
      · rename_i waiting
        split at acted
        · cases acted
          exact attempting_setGroup present found
            (fun _ => by simp only [Group.attempting, waiting]) calling
        · contradiction
      · contradiction
  | next own =>
      obtain ⟨batch, present, rest⟩ := Option.bind_eq_some_iff.mp taken
      obtain ⟨group, found, acted⟩ := Option.bind_eq_some_iff.mp rest
      simp only [next] at acted
      split at acted
      · rename_i between _
        cases acted
        exact attempting_setGroup present found
          (fun _ => by simp only [Group.attempting, between]) calling
      · rename_i between _
        cases acted
        exact attempting_setGroup present found
          (fun _ => by simp only [Group.attempting, between]) calling
      · contradiction
  | attempt own outcome =>
      obtain ⟨batch, present, rest⟩ := Option.bind_eq_some_iff.mp taken
      obtain ⟨group, found, acted⟩ := Option.bind_eq_some_iff.mp rest
      have other : key ≠ own := by
        rintro rfl
        exact noEnd outcome rfl
      simp only [attempt] at acted
      split at acted
      · split at acted
        · cases acted
          exact attempting_setGroup present found (fun same => absurd same other) calling
        · cases acted
          exact attempting_setGroup present found (fun same => absurd same other) calling
      · contradiction
  | publishDeadLetter own acknowledged =>
      obtain ⟨batch, present, rest⟩ := Option.bind_eq_some_iff.mp taken
      obtain ⟨group, found, acted⟩ := Option.bind_eq_some_iff.mp rest
      simp only [publishDeadLetter] at acted
      split at acted
      · rename_i turn
        split at acted
        · cases acted
          exact attempting_setGroup present found
            (fun _ => by simp only [Group.attempting, turn]) calling
        · cases acted
          exact calling
      · contradiction
  | commit =>
      obtain ⟨batch, present, acted⟩ := Option.bind_eq_some_iff.mp taken
      obtain ⟨_, alsoPresent, rest⟩ := Option.bind_eq_some_iff.mp calling
      rw [present, Option.some.injEq] at alsoPresent
      subst alsoPresent
      obtain ⟨group, found, attempting⟩ := Option.bind_eq_some_iff.mp rest
      simp only [commit] at acted
      split at acted
      · rename_i all
        have released : group.turn = .released := all (key, group) (Table.lookup_eq_some.mp found)
        simp only [Group.attempting, released] at attempting
        contradiction
      · contradiction

theorem log_of_step (taken : Bus.step settings before label = some after) (partition : Partition) :
    before.bus.log partition <+: after.bus.log partition := by
  have ofTook : after = before ∨ (∃ events, GroupTook before after events) →
      before.bus.log partition <+: after.bus.log partition := by
    intro outcome
    rcases outcome with rfl | ⟨events, took⟩
    · exact List.prefix_rfl
    · exact took.bus ▸ List.prefix_rfl
  cases label with
  | publish own key value =>
      simp only [Bus.step] at taken
      split at taken
      · cases taken
        by_cases here : partition = own
        · subst here
          simp [MemoryBus.append]
        · simp [MemoryBus.append, here]
      · contradiction
  | crashBeforeCommit times =>
      cases taken
      exact List.prefix_rfl
  | restart start =>
      cases taken
      exact List.prefix_rfl
  | poll maxRecords =>
      simp only [Bus.step] at taken
      split at taken
      · cases taken
        unfold Bus.poll
        simp only
        split <;> exact List.prefix_rfl
      · contradiction
  | acquire key => exact ofTook (ofGroup_took (fun _ _ => acquire_took) taken)
  | next key => exact ofTook (ofGroup_took (fun _ _ => next_took) taken)
  | attempt key outcome => exact ofTook (ofGroup_took (fun _ _ => attempt_took) taken)
  | publishDeadLetter key acknowledged =>
      exact ofTook (ofGroup_took (fun _ _ => publishDeadLetter_took) taken)
  | commit =>
      obtain ⟨batch, _, committed⟩ := Option.bind_eq_some_iff.mp taken
      simp only [commit] at committed
      split at committed
      · cases committed
        simp only [MemoryBus.commit]
        split <;> exact List.prefix_rfl
      · contradiction

/-- What happened stays, and a record becomes handled only where its call returns. -/
theorem history_of_step (taken : Bus.step settings before label = some after) :
    ∃ events, after.history = before.history ++ events ∧ ∀ record, .handled record ∈ events →
      ∃ key, label = .attempt key .returned ∧ before.attempting key = some record := by
  cases label with
  | publish own key value =>
      simp only [Bus.step] at taken
      split at taken
      · cases taken
        exact ⟨[], by simp⟩
      · contradiction
  | crashBeforeCommit times =>
      cases taken
      exact ⟨[], by simp⟩
  | restart start =>
      cases taken
      exact ⟨[.restarted], rfl, by simp⟩
  | poll maxRecords =>
      simp only [Bus.step] at taken
      split at taken
      · cases taken
        unfold Bus.poll
        simp only
        split
        · exact ⟨[], by simp⟩
        · exact ⟨_, rfl, by simp⟩
      · contradiction
  | acquire key =>
      obtain ⟨batch, present, rest⟩ := Option.bind_eq_some_iff.mp taken
      obtain ⟨group, found, acted⟩ := Option.bind_eq_some_iff.mp rest
      simp only [acquire] at acted
      split at acted
      · split at acted
        · cases acted
          exact ⟨[], rfl, by simp⟩
        · contradiction
      · contradiction
  | next key =>
      obtain ⟨batch, present, rest⟩ := Option.bind_eq_some_iff.mp taken
      obtain ⟨group, found, acted⟩ := Option.bind_eq_some_iff.mp rest
      simp only [next] at acted
      split at acted
      · cases acted
        exact ⟨[], rfl, by simp⟩
      · cases acted
        exact ⟨_, rfl, by simp⟩
      · contradiction
  | attempt key outcome =>
      obtain ⟨batch, present, rest⟩ := Option.bind_eq_some_iff.mp taken
      obtain ⟨group, found, acted⟩ := Option.bind_eq_some_iff.mp rest
      simp only [attempt] at acted
      split at acted
      · rename_i record number turn
        split at acted
        · rename_i ended
          cases acted
          refine ⟨[.handled record], rfl, ?_⟩
          intro other member
          simp only [List.mem_singleton, Event.handled.injEq] at member
          subst member
          refine ⟨key, ?_, ?_⟩
          · cases outcome with
            | returned => rfl
            | transient | decodeError | raised => contradiction
          · rw [attempting_of_batch present found]
            simp only [Group.attempting, turn]
        · cases acted
          exact ⟨[], rfl, by simp⟩
      · contradiction
  | publishDeadLetter key acknowledged =>
      obtain ⟨batch, present, rest⟩ := Option.bind_eq_some_iff.mp taken
      obtain ⟨group, found, acted⟩ := Option.bind_eq_some_iff.mp rest
      simp only [publishDeadLetter] at acted
      split at acted
      · split at acted
        · cases acted
          exact ⟨_, rfl, by simp⟩
        · cases acted
          exact ⟨[], by simp⟩
      · contradiction
  | commit =>
      obtain ⟨batch, _, committed⟩ := Option.bind_eq_some_iff.mp taken
      simp only [commit] at committed
      split at committed
      · cases committed
        refine ⟨_, rfl, fun record member => ?_⟩
        split at member <;> simp at member
      · contradiction

end Loop

section Earlier

variable {system : System} {key : GroupKey} {record : Record}

theorem Sound.ofKey_ascending (sound : Sound system) (key : GroupKey) (start stop : Nat) :
    (system.bus.ofKey key start stop).Pairwise (fun left right => left.offset < right.offset) := by
  have whole : (system.bus.log key.1).Pairwise (fun left right => left.offset < right.offset) := by
    rw [List.pairwise_iff_getElem]
    intro left right leftInside rightInside less
    rw [(sound.placed key.1 left _ (List.getElem?_eq_getElem leftInside)).2,
      (sound.placed key.1 right _ (List.getElem?_eq_getElem rightInside)).2]
    exact less
  exact ((whole.sublist (List.drop_sublist _ _)).sublist (List.take_sublist _ _)).sublist
    List.filter_sublist

/-- A record of the log stands at its offset. -/
theorem Sound.at_offset (sound : Sound system) {partition : Partition}
    (member : record ∈ system.bus.log partition) :
    record.partition = partition ∧ (system.bus.log partition)[record.offset]? = some record := by
  obtain ⟨index, here⟩ := List.mem_iff_getElem?.mp member
  obtain ⟨own, offset⟩ := sound.placed partition index record here
  exact ⟨own, by rw [offset]; exact here⟩

/-- While a record is handled, the earlier ones of its key are done, from where the group
first started. -/
theorem Sound.earlier_done (sound : Sound system) (current : system.current key = [record]) :
    record.groupKey = key ∧ record ∈ system.bus.log record.partition ∧
      ∀ earlier ∈ system.bus.log record.partition, earlier.groupKey = record.groupKey →
        earlier.offset < record.offset → system.origin record.partition ≤ earlier.offset →
        Done system.history earlier := by
  have own : record.groupKey = key := sound.ofKey (by rw [current]; simp)
  have started := sound.started key
  have finished := sound.finished key
  rw [← finished, current] at started
  have handling : record ∈ system.bus.ofKey key (system.resumed key.1) (system.positions key.1) := by
    rw [← started]
    simp
  have partition : key.1 = record.partition := by
    rw [← own]
    rfl
  obtain ⟨index, from_, upTo, here⟩ := mem_slice.mp (List.mem_filter.mp handling).1
  have inLog : record ∈ system.bus.log record.partition := by
    rw [← partition]
    exact List.mem_of_getElem? here
  refine ⟨own, inLog, fun earlier member sameKey less first => ?_⟩
  have stands := (sound.at_offset member).2
  have offset := (sound.placed key.1 index record here).2
  by_cases rewound : earlier.offset < system.resumed record.partition
  · exact sound.before record.partition earlier
      (mem_slice.mpr ⟨earlier.offset, first, rewound, stands⟩)
  · have handed : earlier ∈ system.bus.ofKey key (system.resumed key.1) (system.positions key.1) := by
      refine List.mem_filter.mpr ⟨mem_slice.mpr ⟨earlier.offset, ?_, ?_, ?_⟩, ?_⟩
      · rw [partition]
        omega
      · omega
      · rw [partition]
        exact stands
      · simp [sameKey, own]
    have ascending := sound.ofKey_ascending key (system.resumed key.1) (system.positions key.1)
    rw [← started] at handed ascending
    rcases List.mem_append.mp handed with past | remaining
    · rcases List.mem_append.mp past with done | now
      · exact (mem_finishedOf.mp done).1.of_since
      · simp only [List.mem_singleton] at now
        subst now
        omega
    · have later := (List.pairwise_append.mp ascending).2.2 record (by simp) earlier remaining
      omega

end Earlier

namespace Consuming

variable {Db Work : Type} {handler : Handler Db Work} {settings : Settings}

/-- The record was ignored or dead-lettered, or its transaction committed. -/
def Passed (handler : Handler Db Work) (consuming : Consuming Db) (record : Record) : Prop :=
  handler.said record = .ignored ∨ .deadLettered record ∈ consuming.loop.history ∨
    record ∈ consuming.applied

/-- The record is in the log, and the earlier ones of its key are passed. -/
def Ready (handler : Handler Db Work) (consuming : Consuming Db) (record : Record) : Prop :=
  record ∈ consuming.loop.bus.log record.partition ∧
    ∀ earlier ∈ consuming.loop.bus.log record.partition, earlier.groupKey = record.groupKey →
      earlier.offset < record.offset → consuming.Passed handler earlier

/-- What the loop says of its records is so of their transactions, and the database is
what the committed ones made of it. -/
structure Accounts (handler : Handler Db Work) (start : Db) (consuming : Consuming Db) : Prop where
  loop : Sound consuming.loop
  origin : ∀ partition, consuming.loop.origin partition = 0
  handled : ∀ record, .handled record ∈ consuming.loop.history →
    handler.said record = .ignored ∨ record ∈ consuming.applied
  ran : ∀ key, consuming.ran key = true →
    ∃ record ∈ consuming.applied, consuming.loop.attempting key = some record
  orphans : ∀ record ∈ consuming.orphans, consuming.Ready handler record
  effects : consuming.applied.foldlM (perform handler) start = some consuming.db

/-- From one state of the consumer to another nothing that happened is lost. -/
structure Grown (before after : Consuming Db) : Prop where
  log : ∀ partition, before.loop.bus.log partition <+: after.loop.bus.log partition
  history : ∀ event ∈ before.loop.history, event ∈ after.loop.history
  applied : ∀ record ∈ before.applied, record ∈ after.applied

section Accounts

variable {start : Db} {before after consuming : Consuming Db} {record : Record} {key : GroupKey}

theorem Passed.grown (passed : before.Passed handler record) (grown : Grown before after) :
    after.Passed handler record := by
  rcases passed with ignored | deadLettered | applied
  · exact .inl ignored
  · exact .inr (.inl (grown.history _ deadLettered))
  · exact .inr (.inr (grown.applied _ applied))

/-- A new record is no earlier one. -/
theorem Ready.grown (ready : before.Ready handler record) (sound : Sound before.loop)
    (soundAfter : Sound after.loop) (grown : Grown before after) : after.Ready handler record := by
  obtain ⟨inLog, passed⟩ := ready
  obtain ⟨more, log⟩ := grown.log record.partition
  refine ⟨?_, fun earlier member sameKey less => ?_⟩
  · rw [← log]
    exact List.mem_append_left more inLog
  · have stands := (sound.at_offset inLog).2
    have inside : record.offset < (before.loop.bus.log record.partition).length :=
      (List.getElem?_eq_some_iff.mp stands).1
    have earlierStands := (soundAfter.at_offset member).2
    rw [← log, List.getElem?_append_left (by omega)] at earlierStands
    exact (passed earlier (List.mem_of_getElem? earlierStands) sameKey less).grown grown

theorem Accounts.done (accounts : Accounts handler start consuming)
    (done : Done consuming.loop.history record) : consuming.Passed handler record := by
  rcases done with handled | deadLettered
  · rcases accounts.handled record handled with ignored | applied
    · exact .inl ignored
    · exact .inr (.inr applied)
  · exact .inr (.inl deadLettered)

/-- A handler is called with a record when the earlier ones of its key are passed. -/
theorem Accounts.ready (accounts : Accounts handler start consuming)
    (calling : consuming.loop.attempting key = some record) : consuming.Ready handler record := by
  obtain ⟨-, inLog, earlier⟩ := accounts.loop.earlier_done (current_of_attempting calling)
  refine ⟨inLog, fun other member sameKey less => accounts.done (earlier other member sameKey less ?_)⟩
  rw [accounts.origin]
  exact Nat.zero_le _

/-- A transaction commits: at the call of its group, or when nobody waits for it. -/
theorem Accounts.commits (accounts : Accounts handler start before)
    (taken : before.commits handler record = some after) : Accounts handler start after ∧
      Grown before after ∧ after.loop = before.loop ∧ after.applied = before.applied ++ [record] := by
  obtain ⟨db, performed, rfl⟩ := Option.map_eq_some_iff.mp taken
  have grown : Grown before { before with db, applied := before.applied ++ [record] } :=
    ⟨fun _ => List.prefix_rfl, fun _ member => member, fun _ member => List.mem_append_left _ member⟩
  refine ⟨⟨accounts.loop, accounts.origin, fun other handled => ?_, fun key isRun => ?_,
    fun other orphan => ?_, ?_⟩, grown, rfl, rfl⟩
  · rcases accounts.handled other handled with ignored | applied
    · exact .inl ignored
    · exact .inr (List.mem_append_left _ applied)
  · obtain ⟨other, applied, calling⟩ := accounts.ran key isRun
    exact ⟨other, List.mem_append_left _ applied, calling⟩
  · exact (accounts.orphans other orphan).grown accounts.loop accounts.loop grown
  · rw [List.foldlM_append, accounts.effects]
    simpa using performed

/-- The consumer goes on with its loop, and no call returns that has not done its work. -/
theorem Accounts.looped (accounts : Accounts handler start before) {label : Bus.Label}
    (looped : Bus.step settings before.loop label = some after.loop)
    (beginning : ∀ start, label = .restart start → start = .beginning)
    (returns : ∀ key record, label = .attempt key .returned →
      before.loop.attempting key = some record →
      handler.said record = .ignored ∨ record ∈ before.applied)
    (db : after.db = before.db) (applied : after.applied = before.applied)
    (ran : ∀ key, after.ran key = true → before.ran key = true ∧
      (∀ outcome, label ≠ .attempt key outcome) ∧ ∀ start, label ≠ .restart start)
    (orphans : ∀ record ∈ after.orphans, record ∈ before.orphans ∨
      ∃ key, before.loop.attempting key = some record) :
    Accounts handler start after := by
  obtain ⟨events, history, handles⟩ := history_of_step looped
  have sound := accounts.loop.step looped
  have grown : Grown before after := by
    refine ⟨log_of_step looped, fun event member => ?_, fun record member => ?_⟩
    · rw [history]
      exact List.mem_append_left _ member
    · rw [applied]
      exact member
  refine ⟨sound, fun partition => ?_, fun record handled => ?_, fun key isRun => ?_,
    fun record orphan => ?_, ?_⟩
  · rcases origin_of_step looped with same | ⟨start, restarts, moved⟩
    · rw [same]
      exact accounts.origin partition
    · rw [moved, beginning start restarts]
      rfl
  · rw [applied]
    rw [history] at handled
    rcases List.mem_append.mp handled with past | now
    · exact accounts.handled record past
    · obtain ⟨key, returned, calling⟩ := handles record now
      exact returns key record returned calling
  · obtain ⟨wasRun, noEnd, noRestart⟩ := ran key isRun
    obtain ⟨record, member, calling⟩ := accounts.ran key wasRun
    exact ⟨record, grown.applied record member, attempting_kept looped noEnd noRestart calling⟩
  · have ready : before.Ready handler record := by
      rcases orphans record orphan with old | ⟨key, calling⟩
      · exact accounts.orphans record old
      · exact accounts.ready calling
    exact ready.grown accounts.loop sound grown
  · rw [db, applied]
    exact accounts.effects

theorem attempting_of_uncommitted (uncommitted : record ∈ consuming.uncommitted) :
    ∃ key, consuming.loop.attempting key = some record := by
  unfold Consuming.uncommitted at uncommitted
  split at uncommitted
  · contradiction
  · rename_i batch present
    obtain ⟨⟨key, group⟩, row, calling⟩ := List.mem_filterMap.mp uncommitted
    simp only [Option.ite_none_left_eq_some] at calling
    refine ⟨key, ?_⟩
    rw [attempting_of_batch present (Table.lookup_eq_some.mpr row)]
    exact calling.2

theorem Accounts.restart (accounts : Accounts handler start before) :
    Accounts handler start before.restart := by
  have looped : Bus.step ⟨0, 0⟩ before.loop (.restart .beginning) = some before.restart.loop := rfl
  refine accounts.looped looped ?_ ?_ rfl rfl ?_ ?_
  · intro start same
    cases same
    rfl
  · intro _ _ same
    contradiction
  · intro _ isRun
    contradiction
  · intro record orphan
    rcases List.mem_append.mp orphan with old | uncommitted
    · exact .inl old
    · exact .inr (attempting_of_uncommitted uncommitted)

/-- The end of a call. -/
theorem Accounts.ends (accounts : Accounts handler start before) {outcome : Outcome}
    (taken : before.ends handler settings key outcome = some after) : Accounts handler start after := by
  obtain ⟨record, calling, rest⟩ := Option.bind_eq_some_iff.mp taken
  split at rest
  · rename_i allowed
    obtain ⟨loop, looped, rfl⟩ := Option.map_eq_some_iff.mp rest
    refine accounts.looped looped ?_ ?_ rfl rfl ?_ ?_
    · intro _ same
      contradiction
    · intro own other same callingOther
      cases same
      rw [calling, Option.some.injEq] at callingOther
      subst callingOther
      cases said : handler.said record with
      | ignored => exact .inl rfl
      | malformed | unusable => simp [Said.ends, said] at allowed
      | work work =>
          right
          simp only [Said.ends, said] at allowed
          obtain ⟨applied, member, callingApplied⟩ := accounts.ran key allowed
          rw [calling, Option.some.injEq] at callingApplied
          subst callingApplied
          exact member
    · intro own isRun
      by_cases same : own = key
      · subst same
        simp at isRun
      · simp only [Function.update_of_ne same] at isRun
        refine ⟨isRun, fun other ended => ?_, fun _ restarted => ?_⟩
        · cases ended
          exact same rfl
        · contradiction
    · intro other orphan
      rcases List.mem_append.mp orphan with old | now
      · exact .inl old
      · split at now
        · contradiction
        · simp only [List.mem_singleton] at now
          subst now
          exact .inr ⟨key, calling⟩
  · contradiction

/-- Step lemma. -/
theorem Accounts.step (accounts : Accounts handler start before) {label : Label}
    (taken : Consuming.step handler settings before label = some after) :
    Accounts handler start after := by
  cases label with
  | loop label =>
      simp only [Consuming.step] at taken
      split at taken
      · rename_i isPlain
        obtain ⟨loop, looped, rfl⟩ := Option.map_eq_some_iff.mp taken
        refine accounts.looped looped ?_ ?_ rfl rfl ?_ (fun record old => .inl old)
        · rintro start rfl
          contradiction
        · rintro key record rfl
          contradiction
        · intro key isRun
          refine ⟨isRun, ?_, ?_⟩
          · rintro outcome rfl
            contradiction
          · rintro start rfl
            contradiction
      · contradiction
  | restart =>
      cases taken
      exact accounts.restart
  | transact key =>
      obtain ⟨record, calling, rest⟩ := Option.bind_eq_some_iff.mp taken
      split at rest
      · contradiction
      · obtain ⟨committed, commits, rfl⟩ := Option.map_eq_some_iff.mp rest
        obtain ⟨kept, -, loop, applied⟩ := accounts.commits commits
        refine ⟨kept.loop, kept.origin, kept.handled, fun own isRun => ?_, kept.orphans,
          kept.effects⟩
        by_cases same : own = key
        · subst same
          exact ⟨record, by rw [applied]; simp, by rw [loop]; exact calling⟩
        · simp only [Function.update_of_ne same] at isRun
          obtain ⟨other, member, callingOther⟩ := accounts.ran own isRun
          exact ⟨other, by rw [applied]; exact List.mem_append_left _ member,
            by rw [loop]; exact callingOther⟩
  | lateCommit record =>
      simp only [Consuming.step, Consuming.lateCommit] at taken
      split at taken
      · obtain ⟨committed, commits, rfl⟩ := Option.map_eq_some_iff.mp taken
        obtain ⟨kept, grown, -, -⟩ := accounts.commits commits
        refine ⟨kept.loop, kept.origin, kept.handled, kept.ran, fun other orphan => ?_, kept.effects⟩
        exact (accounts.orphans other (List.mem_of_mem_erase orphan)).grown accounts.loop kept.loop
          ⟨grown.log, grown.history, grown.applied⟩
      · contradiction
  | ends key outcome => exact accounts.ends taken

theorem Accounts.initial (partitions : Nat) (db : Db) :
    Accounts handler db (Consuming.initial partitions db) where
  loop := .initial partitions
  origin _ := rfl
  handled _ member := by contradiction
  ran _ isRun := by contradiction
  orphans _ member := by contradiction
  effects := rfl

/-- Run lemma. -/
theorem Accounts.of_run {partitions : Nat} {labels : List Label}
    (run : Run (Consuming.step handler settings) Any (Consuming.initial partitions start) labels
      consuming) : Accounts handler start consuming := by
  induction run with
  | start => exact .initial partitions start
  | snoc _ _ taken accounts => exact accounts.step taken

/-- A transaction commits only when the earlier records of its key are passed. -/
theorem Accounts.in_order (accounts : Accounts handler start before) {label : Label}
    (taken : Consuming.step handler settings before label = some after)
    (applied : after.applied = before.applied ++ [record]) : before.Ready handler record := by
  have unchanged : after.applied ≠ before.applied := by
    rw [applied]
    exact fun same => by simpa using congrArg List.length same
  cases label with
  | loop label =>
      simp only [Consuming.step] at taken
      split at taken
      · obtain ⟨loop, looped, rfl⟩ := Option.map_eq_some_iff.mp taken
        exact absurd rfl unchanged
      · contradiction
  | restart =>
      cases taken
      exact absurd rfl unchanged
  | transact key =>
      obtain ⟨other, calling, rest⟩ := Option.bind_eq_some_iff.mp taken
      split at rest
      · contradiction
      · obtain ⟨committed, commits, rfl⟩ := Option.map_eq_some_iff.mp rest
        obtain ⟨-, -, -, appliedNow⟩ := accounts.commits commits
        simp only [appliedNow, List.append_cancel_left_eq, List.cons.injEq, and_true] at applied
        subst applied
        exact accounts.ready calling
  | lateCommit other =>
      simp only [Consuming.step, Consuming.lateCommit] at taken
      split at taken
      · rename_i orphan
        obtain ⟨committed, commits, rfl⟩ := Option.map_eq_some_iff.mp taken
        obtain ⟨-, -, -, appliedNow⟩ := accounts.commits commits
        simp only [appliedNow, List.append_cancel_left_eq, List.cons.injEq, and_true] at applied
        subst applied
        exact accounts.orphans other orphan
      · contradiction
  | ends key outcome =>
      obtain ⟨_, _, rest⟩ := Option.bind_eq_some_iff.mp taken
      split at rest
      · obtain ⟨loop, looped, rfl⟩ := Option.map_eq_some_iff.mp rest
        exact absurd rfl unchanged
      · contradiction

/-- A committed offset is above passed records only. -/
theorem Accounts.committed (accounts : Accounts handler start consuming) {offsets : Partition → Nat}
    (found : consuming.loop.bus.committed = some offsets) {partition : Partition}
    (below : record ∈ (consuming.loop.bus.log partition).take (offsets partition)) :
    consuming.Passed handler record := by
  apply accounts.done
  apply (accounts.loop.committed offsets found partition).2 record
  rw [accounts.origin, slice]
  simpa using below

end Accounts

end Consuming

end SelfCheckout.Bus
