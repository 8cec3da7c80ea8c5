import SelfCheckout.Bus.ConsumerLoop

namespace SelfCheckout.Bus

open SelfCheckout.Data

/-! # At least once and in key order

Since the last rewind, what was started of a key and what its group has not come to are
together the key's records between the rewind and the positions.  A commit finds nothing
left, so it covers only what was handled or dead-lettered.
-/

def Event.isRestart : Event → Bool
  | .restarted => true
  | _ => false

/-- A restart or a lost commit. -/
def Event.isRewind : Event → Bool
  | .restarted | .commitLost => true
  | _ => false

def Event.startedOf (key : GroupKey) : Event → Option Record
  | .started record => if record.groupKey = key then some record else none
  | _ => none

def Event.finishedOf (key : GroupKey) : Event → Option Record
  | .handled record | .deadLettered record => if record.groupKey = key then some record else none
  | _ => none

/-- The records of a key whose handling started, in the order it did. -/
def startedOf (key : GroupKey) (events : List Event) : List Record :=
  events.filterMap (Event.startedOf key)

/-- The records of a key that were handled or dead-lettered, in that order. -/
def finishedOf (key : GroupKey) (events : List Event) : List Record :=
  events.filterMap (Event.finishedOf key)

/-- The record was handled or dead-lettered. -/
def Done (events : List Event) (record : Record) : Prop :=
  .handled record ∈ events ∨ .deadLettered record ∈ events

/-- The records of a key between two offsets of its partition. -/
def MemoryBus.ofKey (bus : MemoryBus) (key : GroupKey) (start stop : Nat) : List Record :=
  (slice (bus.log key.1) start stop).filter (fun record => decide (record.groupKey = key))

def System.current (system : System) (key : GroupKey) : List Record :=
  match system.batch.bind (fun batch => batch.lookup key) with
  | some group => group.current
  | none => []

def System.remaining (system : System) (key : GroupKey) : List Record :=
  match system.batch.bind (fun batch => batch.lookup key) with
  | some group => group.records
  | none => []

/-- The record is in the batch and not done. -/
def System.Unfinished (system : System) (record : Record) : Prop :=
  record ∈ system.current record.groupKey ++ system.remaining record.groupKey

/-- Every earlier record of the key that this process was handed is done by now. -/
def InOrder (events : List Event) (record : Record) : Prop :=
  ∀ before earlier after, since Event.isRestart events = before ++ .delivered earlier :: after →
    earlier.groupKey = record.groupKey → earlier.offset < record.offset → Done after earlier

structure Sound (system : System) : Prop where
  placed : ∀ (partition index : Nat) (record : Record), (system.bus.log partition)[index]? = some record →
    record.partition = partition ∧ record.offset = index
  committed : ∀ offsets, system.bus.committed = some offsets → ∀ partition,
    offsets partition ≤ (system.bus.log partition).length ∧
      ∀ record ∈ slice (system.bus.log partition) (system.origin partition) (offsets partition),
        Done system.history record
  within : ∀ partition, system.resumed partition ≤ system.positions partition ∧
    system.positions partition ≤ (system.bus.log partition).length
  before : ∀ partition, ∀ record ∈ slice (system.bus.log partition) (system.origin partition)
    (system.resumed partition), Done system.history record
  released : ∀ batch key group, system.batch = some batch → batch.lookup key = some group →
    group.turn = .released → group.records = []
  started : ∀ key, startedOf key (since Event.isRewind system.history) ++ system.remaining key =
    system.bus.ofKey key (system.resumed key.1) (system.positions key.1)
  finished : ∀ key, finishedOf key (since Event.isRewind system.history) ++ system.current key =
    startedOf key (since Event.isRewind system.history)
  delivered : ∀ earlier record later,
    since Event.isRestart system.history = earlier ++ .delivered record :: later →
    system.Unfinished record ∨ Done later record
  ordered : ∀ earlier record later, system.history = earlier ++ .started record :: later →
    InOrder earlier record

section Events

variable {key : GroupKey} {events more : List Event} {record : Record}

theorem Event.startedOf_eq_some {event : Event} :
    event.startedOf key = some record ↔ event = .started record ∧ record.groupKey = key := by
  cases event with
  | started other =>
      simp only [Event.startedOf, Option.ite_none_right_eq_some, Option.some.injEq,
        Event.started.injEq]
      constructor
      · intro both
        obtain ⟨ofKey, rfl⟩ := both
        exact ⟨rfl, ofKey⟩
      · intro both
        obtain ⟨rfl, ofKey⟩ := both
        exact ⟨ofKey, rfl⟩
  | restarted | commitLost | delivered _ | handled _ | deadLettered _ => simp [Event.startedOf]

theorem Event.finishedOf_eq_some {event : Event} :
    event.finishedOf key = some record ↔
      (event = .handled record ∨ event = .deadLettered record) ∧ record.groupKey = key := by
  cases event with
  | handled other | deadLettered other =>
      simp only [Event.finishedOf, Option.ite_none_right_eq_some, Option.some.injEq,
        Event.handled.injEq, Event.deadLettered.injEq, reduceCtorEq, or_false, false_or]
      constructor
      · intro both
        obtain ⟨ofKey, rfl⟩ := both
        exact ⟨rfl, ofKey⟩
      · intro both
        obtain ⟨rfl, ofKey⟩ := both
        exact ⟨ofKey, rfl⟩
  | restarted | commitLost | delivered _ | started _ => simp [Event.finishedOf]

theorem mem_finishedOf :
    record ∈ finishedOf key events ↔ Done events record ∧ record.groupKey = key := by
  simp only [finishedOf, List.mem_filterMap, Event.finishedOf_eq_some, Done]
  constructor
  · intro found
    obtain ⟨event, member, same | same, ofKey⟩ := found
    · exact ⟨.inl (same ▸ member), ofKey⟩
    · exact ⟨.inr (same ▸ member), ofKey⟩
  · intro both
    obtain ⟨handled | deadLettered, ofKey⟩ := both
    · exact ⟨_, handled, .inl rfl, ofKey⟩
    · exact ⟨_, deadLettered, .inr rfl, ofKey⟩

theorem mem_startedOf :
    record ∈ startedOf key events ↔ .started record ∈ events ∧ record.groupKey = key := by
  simp only [startedOf, List.mem_filterMap, Event.startedOf_eq_some]
  constructor
  · intro found
    obtain ⟨event, member, same, ofKey⟩ := found
    exact ⟨same ▸ member, ofKey⟩
  · intro both
    exact ⟨_, both.1, rfl, both.2⟩

theorem startedOf_append : startedOf key (events ++ more) = startedOf key events ++ startedOf key more :=
  List.filterMap_append

theorem finishedOf_append :
    finishedOf key (events ++ more) = finishedOf key events ++ finishedOf key more :=
  List.filterMap_append

theorem Done.append_right (done : Done events record) (more : List Event) :
    Done (events ++ more) record :=
  done.imp (List.mem_append_left _) (List.mem_append_left _)

theorem Done.append_left (events : List Event) (done : Done more record) :
    Done (events ++ more) record :=
  done.imp (List.mem_append_right _) (List.mem_append_right _)

theorem Done.of_since {mark : Event → Bool} (done : Done (since mark events) record) :
    Done events record :=
  done.imp (fun member => (since_suffix mark events).subset member)
    (fun member => (since_suffix mark events).subset member)

end Events

section Batch

variable {system : System} {batch : Table GroupKey Group} {key : GroupKey} {group : Group}

theorem current_of_batch (present : system.batch = some batch) (found : batch.lookup key = some group) :
    system.current key = group.current := by
  simp only [System.current, present, Option.bind_some, found]

theorem remaining_of_batch (present : system.batch = some batch)
    (found : batch.lookup key = some group) : system.remaining key = group.records := by
  simp only [System.remaining, present, Option.bind_some, found]

theorem Sound.ofKey (sound : Sound system) {record : Record}
    (member : record ∈ system.current key ++ system.remaining key) : record.groupKey = key := by
  rcases List.mem_append.mp member with current | remaining
  · have started : record ∈ startedOf key (since Event.isRewind system.history) := by
      rw [← sound.finished key]
      exact List.mem_append_right _ current
    exact (mem_startedOf.mp started).2
  · have taken : record ∈ system.bus.ofKey key (system.resumed key.1) (system.positions key.1) := by
      rw [← sound.started key]
      exact List.mem_append_right _ remaining
    exact of_decide_eq_true (List.mem_filter.mp taken).2

end Batch

section Took

variable {before after : System} {events : List Event}

/-- The batch of the record's own key after a step of one group. -/
theorem took_lookup {batch : Table GroupKey Group} {key : GroupKey} {next : Group}
    (present : after.batch = some (batch.put key next)) :
    after.current key = next.current ∧ after.remaining key = next.records := by
  constructor
  · exact current_of_batch present (Table.lookup_put_self batch key next)
  · exact remaining_of_batch present (Table.lookup_put_self batch key next)

theorem took_lookup_other {batch : Table GroupKey Group} {key other : GroupKey} {next : Group}
    (present : before.batch = some batch) (presentAfter : after.batch = some (batch.put key next))
    (different : other ≠ key) :
    after.current other = before.current other ∧ after.remaining other = before.remaining other := by
  simp only [System.current, System.remaining, present, presentAfter, Option.bind_some,
    Table.lookup_put_of_ne batch next different, and_self]

/-- What a step does to a key: the records it starts are the next of the key, and those it
finishes are what the key was handling. -/
theorem GroupTook.accounts (took : GroupTook before after events)
    (ofKey : ∀ key record, record ∈ before.current key ++ before.remaining key →
      record.groupKey = key) (key : GroupKey) :
    startedOf key events ++ after.remaining key = before.remaining key ∧
      finishedOf key events ++ after.current key = before.current key ++ startedOf key events := by
  obtain ⟨batch, own, group, next, present, found, stepped, _, presentAfter⟩ := took.took
  have current := current_of_batch present found
  have remaining := remaining_of_batch present found
  obtain ⟨currentAfter, remainingAfter⟩ := took_lookup presentAfter
  by_cases here : key = own
  · subst here
    rw [currentAfter, remainingAfter, current, remaining]
    cases stepped with
    | quiet sameCurrent sameRecords =>
        rw [sameCurrent, sameRecords]
        simp [startedOf, finishedOf]
    | start record idle first handling =>
        have named : record.groupKey = key := by
          apply ofKey
          rw [current, remaining, first]
          simp
        rw [idle, first, handling]
        simp [startedOf, finishedOf, Event.startedOf, Event.finishedOf, named]
    | finish record event done handling idle sameRecords =>
        have named : record.groupKey = key := by
          apply ofKey
          rw [current, handling]
          simp
        rw [idle, handling, sameRecords]
        rcases done with rfl | rfl
        · simp [startedOf, finishedOf, Event.startedOf, Event.finishedOf, named]
        · simp [startedOf, finishedOf, Event.startedOf, Event.finishedOf, named]
  · obtain ⟨sameCurrent, sameRemaining⟩ := took_lookup_other present presentAfter here
    rw [sameCurrent, sameRemaining]
    cases stepped with
    | quiet _ _ => simp [startedOf, finishedOf]
    | start record idle first handling =>
        have named : record.groupKey ≠ key := by
          intro same
          apply here
          rw [← same]
          apply ofKey
          rw [current, remaining, first]
          simp
        simp [startedOf, finishedOf, Event.startedOf, Event.finishedOf, named]
    | finish record event done handling idle sameRecords =>
        have named : record.groupKey ≠ key := by
          intro same
          apply here
          rw [← same]
          apply ofKey
          rw [current, handling]
          simp
        rcases done with rfl | rfl
        · simp [startedOf, finishedOf, Event.startedOf, Event.finishedOf, named]
        · simp [startedOf, finishedOf, Event.startedOf, Event.finishedOf, named]

/-- A step of a group neither rewinds nor delivers, and a record it starts is the first
one left of a key that is handling none. -/
theorem GroupTook.only (took : GroupTook before after events) :
    (∀ event ∈ events, event.isRewind = false ∧ event.isRestart = false ∧
      ∀ record, event ≠ .delivered record) ∧
    ∀ record, .started record ∈ events → events = [.started record] ∧
      ∃ key records, before.current key = [] ∧ before.remaining key = record :: records := by
  obtain ⟨batch, key, group, next, present, found, stepped, _, _⟩ := took.took
  cases stepped with
  | quiet _ _ => simp
  | start record idle first handling =>
      refine ⟨by simp [Event.isRewind, Event.isRestart], ?_⟩
      intro other member
      simp only [List.mem_singleton, Event.started.injEq] at member
      subst member
      exact ⟨rfl, key, next.records, (current_of_batch present found).trans idle,
        (remaining_of_batch present found).trans first⟩
  | finish record event done _ _ _ =>
      rcases done with rfl | rfl
      · simp [Event.isRewind, Event.isRestart]
      · simp [Event.isRewind, Event.isRestart]

theorem GroupTook.unfinished (took : GroupTook before after events)
    (ofKey : ∀ key record, record ∈ before.current key ++ before.remaining key →
      record.groupKey = key) {record : Record} (unfinished : before.Unfinished record) :
    after.Unfinished record ∨ Done events record := by
  obtain ⟨starts, finishes⟩ := took.accounts ofKey record.groupKey
  have handling : record ∈ before.current record.groupKey ++ startedOf record.groupKey events →
      after.Unfinished record ∨ Done events record := by
    intro member
    rw [← finishes] at member
    rcases List.mem_append.mp member with done | current
    · exact .inr (mem_finishedOf.mp done).1
    · exact .inl (List.mem_append_left _ current)
  rcases List.mem_append.mp unfinished with current | remaining
  · exact handling (List.mem_append_left _ current)
  · rw [← starts] at remaining
    rcases List.mem_append.mp remaining with started | later
    · exact handling (List.mem_append_right _ started)
    · exact .inl (List.mem_append_right _ later)

/-- The records left of a key have ascending offsets. -/
theorem Sound.ascending (sound : Sound before) (key : GroupKey) :
    (before.remaining key).Pairwise (fun left right => left.offset < right.offset) := by
  have sorted : (slice (before.bus.log key.1) (before.resumed key.1) (before.positions key.1)).Pairwise
      (fun left right => left.offset < right.offset) := by
    have whole : (before.bus.log key.1).Pairwise (fun left right => left.offset < right.offset) := by
      rw [List.pairwise_iff_getElem]
      intro left right leftInside rightInside less
      have placedLeft := sound.placed key.1 left _ (List.getElem?_eq_getElem leftInside)
      have placedRight := sound.placed key.1 right _ (List.getElem?_eq_getElem rightInside)
      rw [placedLeft.2, placedRight.2]
      exact less
    exact (whole.sublist (List.drop_sublist _ _)).sublist (List.take_sublist _ _)
  have all := sorted.sublist (List.filter_sublist (p := fun record => decide (record.groupKey = key)))
  have started := sound.started key
  unfold MemoryBus.ofKey at started
  rw [← started, List.pairwise_append] at all
  exact all.2.1

/-- When a key starts its next record, the earlier ones it was handed are done. -/
theorem Sound.inOrder (sound : Sound before) {key : GroupKey} {record : Record}
    {records : List Record} (idle : before.current key = [])
    (first : before.remaining key = record :: records) : InOrder before.history record := by
  intro past earlier later split sameKey less
  have ofKey : record.groupKey = key := sound.ofKey (by rw [first]; simp)
  rcases sound.delivered past earlier later split with unfinished | done
  · have ascending := sound.ascending key
    rw [first, List.pairwise_cons] at ascending
    unfold System.Unfinished at unfinished
    rw [sameKey, ofKey, idle, first, List.nil_append, List.mem_cons] at unfinished
    rcases unfinished with rfl | member
    · omega
    · have greater := ascending.1 earlier member
      omega
  · exact done

theorem Sound.took (sound : Sound before) (took : GroupTook before after events) : Sound after := by
  obtain ⟨unmarked, starts⟩ := took.only
  have ofKey : ∀ key record, record ∈ before.current key ++ before.remaining key →
      record.groupKey = key := fun _ _ member => sound.ofKey member
  have rewinds : since Event.isRewind after.history = since Event.isRewind before.history ++ events := by
    rw [took.history]
    exact since_append _ _ (fun event member => (unmarked event member).1)
  have restarts : since Event.isRestart after.history =
      since Event.isRestart before.history ++ events := by
    rw [took.history]
    exact since_append _ _ (fun event member => (unmarked event member).2.1)
  constructor
  · rw [took.bus]
    exact sound.placed
  · rw [took.bus, took.origin, took.history]
    intro offsets found partition
    obtain ⟨bound, done⟩ := sound.committed offsets found partition
    exact ⟨bound, fun record member => (done record member).append_right events⟩
  · rw [took.bus, took.resumed, took.positions]
    exact sound.within
  · rw [took.bus, took.origin, took.resumed, took.history]
    exact fun partition record member => (sound.before partition record member).append_right events
  · obtain ⟨batch, key, group, next, present, found, _, released, presentAfter⟩ := took.took
    intro other wanted row presentOther rowFound isReleased
    rw [presentAfter, Option.some.injEq] at presentOther
    rw [← presentOther, Table.lookup_put] at rowFound
    split at rowFound
    · cases rowFound
      exact released isReleased
    · exact sound.released batch wanted row present rowFound isReleased
  · intro key
    rw [rewinds, took.bus, took.resumed, took.positions, startedOf_append, List.append_assoc,
      (took.accounts ofKey key).1]
    exact sound.started key
  · intro key
    rw [rewinds, finishedOf_append, List.append_assoc, (took.accounts ofKey key).2,
      ← List.append_assoc, sound.finished key, startedOf_append]
  · intro earlier record later split
    rw [restarts] at split
    obtain ⟨rest, rfl, past⟩ := append_eq_append_cons split
      (fun member => (unmarked _ member).2.2 record rfl)
    rcases sound.delivered earlier record rest past with unfinished | done
    · rcases took.unfinished ofKey unfinished with still | done
      · exact .inl still
      · exact .inr (done.append_left rest)
    · exact .inr (done.append_right events)
  · intro earlier record later split
    rw [took.history] at split
    by_cases now : Event.started record ∈ events
    · obtain ⟨rfl, key, records, idle, first⟩ := starts record now
      rcases append_singleton_eq_append_cons split with ⟨_, rfl, _⟩ | ⟨rest, _, past⟩
      · exact sound.inOrder idle first
      · exact sound.ordered earlier record rest past
    · obtain ⟨rest, rfl, past⟩ := append_eq_append_cons split now
      exact sound.ordered earlier record rest past

end Took

namespace Sound

variable {system : System}

theorem initial (partitions : Nat) : Sound (Bus.initial partitions) where
  placed _ _ _ found := by simp [Bus.initial, MemoryBus.empty] at found
  committed _ found := by contradiction
  within _ := ⟨Nat.le_refl _, Nat.le_refl _⟩
  before _ record member := by simp [Bus.initial, MemoryBus.empty, slice] at member
  released _ _ _ present := by contradiction
  started _ := rfl
  finished _ := rfl
  delivered earlier record later split := by simp [Bus.initial, since] at split
  ordered earlier record later split := by simp [Bus.initial] at split

/-- Logs only grow, and every position is within what was there. -/
theorem publish (sound : Sound system) (partition : Partition) (key : Option String)
    (value : String) : Sound { system with bus := system.bus.append partition key value } := by
  have log : ∀ other, (system.bus.append partition key value).log other =
      system.bus.log other ++ (if other = partition then
        [⟨partition, (system.bus.log partition).length, key, value⟩] else []) := by
    intro other
    by_cases here : other = partition
    · subst here
      simp [MemoryBus.append]
    · simp [MemoryBus.append, here]
  have unchanged : ∀ other start stop, stop ≤ (system.bus.log other).length →
      slice ((system.bus.append partition key value).log other) start stop =
        slice (system.bus.log other) start stop := by
    intro other start stop inside
    rw [log other]
    exact slice_append inside _
  have longer : ∀ other, (system.bus.log other).length ≤
      ((system.bus.append partition key value).log other).length := by
    intro other
    rw [log other, List.length_append]
    exact Nat.le_add_right _ _
  constructor
  · intro other index record found
    simp only [log other, List.getElem?_append] at found
    split at found
    · exact sound.placed other index record found
    · split at found
      · rename_i beyond here
        subst here
        rw [List.getElem?_singleton] at found
        split at found
        · cases found
          exact ⟨rfl, by simp only; omega⟩
        · contradiction
      · contradiction
  · intro offsets found other
    obtain ⟨bound, done⟩ := sound.committed offsets found other
    simp only [unchanged other _ _ bound]
    exact ⟨bound.trans (longer other), done⟩
  · intro other
    obtain ⟨above, inside⟩ := sound.within other
    exact ⟨above, inside.trans (longer other)⟩
  · intro other
    obtain ⟨above, inside⟩ := sound.within other
    simp only [unchanged other _ _ (above.trans inside)]
    exact sound.before other
  · exact sound.released
  · intro own
    simp only [MemoryBus.ofKey, unchanged own.1 _ _ (sound.within own.1).2]
    exact sound.started own
  · exact sound.finished
  · exact sound.delivered
  · exact sound.ordered

/-- The positions are set back: nothing is in flight, and what is below was done before. -/
theorem rewind (sound : Sound system) {positions origin : Partition → Nat} {bus : MemoryBus}
    {event : Event} (log : bus.log = system.bus.log) (committed : bus.committed = system.bus.committed)
    (marked : event.isRewind = true)
    (handed : event.isRestart = true ∨
      event.isRestart = false ∧ ∀ record, ¬ system.Unfinished record)
    (inside : ∀ partition, positions partition ≤ (system.bus.log partition).length)
    (done : ∀ partition, ∀ record ∈ slice (system.bus.log partition) (origin partition)
      (positions partition), Done system.history record)
    (kept : ∀ offsets, system.bus.committed = some offsets → origin = system.origin) :
    Sound { system with
      bus, positions, batch := none, origin, resumed := positions
      history := system.history ++ [event] } := by
  have rewound : since Event.isRewind (system.history ++ [event]) = [] := by
    rw [since_snoc, if_pos marked]
  constructor
  · simp only [log]
    exact sound.placed
  · intro offsets found partition
    simp only [committed] at found
    obtain ⟨bound, earlier⟩ := sound.committed offsets found partition
    simp only [log, kept offsets found]
    exact ⟨bound, fun record member => (earlier record member).append_right _⟩
  · intro partition
    simp only [log]
    exact ⟨Nat.le_refl _, inside partition⟩
  · intro partition record member
    simp only [log] at member
    exact (done partition record member).append_right _
  · intro batch key group present
    contradiction
  · intro key
    simp only [rewound, MemoryBus.ofKey, slice_self]
    rfl
  · intro key
    simp only [rewound]
    rfl
  · intro earlier record later split
    simp only at split
    rcases handed with isRestart | ⟨notRestart, finished⟩
    · rw [since_snoc, if_pos isRestart] at split
      simp at split
    · rw [since_snoc, if_neg (by simp [notRestart])] at split
      rcases append_singleton_eq_append_cons split with ⟨_, _, rfl⟩ | ⟨rest, rfl, past⟩
      · contradiction
      · rcases sound.delivered earlier record rest past with unfinished | done
        · exact absurd unfinished (finished record)
        · exact .inr (done.append_right _)
  · intro earlier record later split
    rcases append_singleton_eq_append_cons split with ⟨_, _, rfl⟩ | ⟨rest, _, past⟩
    · contradiction
    · exact sound.ordered earlier record rest past

theorem restart (sound : Sound system) (start : Start) : Sound (Bus.restart system start) := by
  apply sound.rewind rfl rfl rfl (.inl rfl)
  · intro partition
    unfold MemoryBus.consumer
    cases found : system.bus.committed with
    | some offsets => exact (sound.committed offsets found partition).1
    | none =>
        cases start with
        | beginning => exact Nat.zero_le _
        | fromEnd => exact Nat.le_refl _
        | last count => exact Nat.sub_le _ _
  · intro partition record member
    unfold MemoryBus.consumer at member
    cases found : system.bus.committed with
    | some offsets =>
        rw [found] at member
        exact (sound.committed offsets found partition).2 record member
    | none =>
        rw [found] at member
        simp at member
  · intro offsets found
    simp only [found]

/-- With every group released, no record of the batch is left. -/
theorem nothing_left (sound : Sound system) {batch : Table GroupKey Group}
    (present : system.batch = some batch) (all : ∀ row ∈ batch.rows, row.2.turn = .released)
    (key : GroupKey) : system.current key = [] ∧ system.remaining key = [] := by
  cases found : batch.lookup key with
  | none => simp [System.current, System.remaining, present, found]
  | some group =>
      have released := all (key, group) (Table.lookup_eq_some.mp found)
      rw [current_of_batch present found, remaining_of_batch present found]
      refine ⟨?_, sound.released batch key group present found released⟩
      simp only at released
      simp only [Group.current, released]

/-- The records up to the positions are done when nothing of the batch is left. -/
theorem done_of_nothing_left (sound : Sound system)
    (nothing : ∀ key, system.current key = [] ∧ system.remaining key = []) (partition : Partition) :
    ∀ record ∈ slice (system.bus.log partition) (system.origin partition)
      (system.positions partition), Done system.history record := by
  intro record member
  rcases mem_slice_split (system.resumed partition) member with early | late
  · exact sound.before partition record early
  · obtain ⟨index, _, _, here⟩ := mem_slice.mp late
    have placed := (sound.placed partition index record here).1
    have started := sound.started record.groupKey
    have finished := sound.finished record.groupKey
    obtain ⟨idle, none⟩ := nothing record.groupKey
    rw [none, List.append_nil] at started
    rw [idle, List.append_nil, started] at finished
    have own : record.groupKey.1 = partition := placed
    have taken : record ∈ finishedOf record.groupKey (since Event.isRewind system.history) := by
      rw [finished, MemoryBus.ofKey, own]
      exact List.mem_filter.mpr ⟨late, by simp⟩
    exact (mem_finishedOf.mp taken).1.of_since

theorem commit (sound : Sound system) {after : System} {batch : Table GroupKey Group}
    (present : system.batch = some batch) (taken : Bus.commit system batch = some after) :
    Sound after := by
  unfold Bus.commit at taken
  split at taken
  · rename_i all
    have nothing := sound.nothing_left present all
    cases taken
    unfold MemoryBus.commit
    by_cases lost : 0 < system.bus.crashBeforeCommit
    · simp only [lost, ↓reduceIte]
      refine sound.rewind ?_ ?_ ?_ (.inr ⟨?_, ?_⟩) ?_ ?_ ?_
      · rfl
      · rfl
      · rfl
      · rfl
      · intro record unfinished
        obtain ⟨idle, none⟩ := nothing record.groupKey
        unfold System.Unfinished at unfinished
        rw [idle, none] at unfinished
        contradiction
      · intro partition
        cases found : system.bus.committed with
        | some offsets => exact (sound.committed offsets found partition).1
        | none => exact Nat.zero_le _
      · intro partition record member
        cases found : system.bus.committed with
        | some offsets =>
            rw [found] at member
            exact (sound.committed offsets found partition).2 record member
        | none =>
            rw [found] at member
            simp [slice] at member
      · intro _ _
        rfl
    · simp only [lost, ↓reduceIte, Bool.false_eq_true, List.append_nil]
      constructor
      · exact sound.placed
      · intro offsets found partition
        cases found
        exact ⟨(sound.within partition).2, sound.done_of_nothing_left nothing partition⟩
      · exact sound.within
      · exact sound.before
      · intro batch key group present
        contradiction
      · intro key
        have started := sound.started key
        rw [(nothing key).2] at started
        exact started
      · intro key
        have finished := sound.finished key
        rw [(nothing key).1] at finished
        exact finished
      · intro earlier record later split
        rcases sound.delivered earlier record later split with unfinished | done
        · obtain ⟨idle, none⟩ := nothing record.groupKey
          unfold System.Unfinished at unfinished
          rw [idle, none] at unfinished
          contradiction
        · exact .inr done
      · exact sound.ordered
  · contradiction

/-- The batch of a poll: every record waits in the group of its key. -/
theorem groups_waiting {records : List Record}
    (present : system.batch = some ((groupBy Record.groupKey records).mapValues
      (fun _ records => ⟨.waiting, records⟩))) (key : GroupKey) :
    system.current key = [] ∧
      system.remaining key = records.filter (fun record => decide (record.groupKey = key)) := by
  simp only [System.current, System.remaining, present, Option.bind_some, Table.lookup_mapValues,
    lookup_groupBy]
  by_cases listed : key ∈ records.map Record.groupKey
  · simp [listed, Group.current]
  · have none : records.filter (fun record => decide (record.groupKey = key)) = [] := by
      rw [List.filter_eq_nil_iff]
      intro record member same
      exact listed (List.mem_map.mpr ⟨record, member, of_decide_eq_true same⟩)
    simp [listed, none]

theorem poll (sound : Sound system) (idle : system.batch = none) (maxRecords : Nat) :
    Sound (Bus.poll system maxRecords) := by
  have placed : ∀ partition, ∀ record ∈ system.bus.log partition, record.partition = partition := by
    intro partition record member
    obtain ⟨index, here⟩ := List.mem_iff_getElem?.mp member
    exact (sound.placed partition index record here).1
  have taken := MemoryBus.take_slice placed (fun partition => (sound.within partition).2) maxRecords
  unfold Bus.poll
  simp only
  split
  · exact sound
  generalize system.bus.take system.positions maxRecords = polled at taken
  have unmarked : ∀ event ∈ polled.1.map Event.delivered, event.isRewind = false ∧
      event.isRestart = false ∧ ∀ key, event.startedOf key = none ∧ event.finishedOf key = none := by
    intro event member
    obtain ⟨record, _, rfl⟩ := List.mem_map.mp member
    simp [Event.isRewind, Event.isRestart, Event.startedOf, Event.finishedOf]
  have rewinds := since_append Event.isRewind system.history
    (fun event member => (unmarked event member).1)
  have restarts := since_append Event.isRestart system.history
    (fun event member => (unmarked event member).2.1)
  have nothing : ∀ key, startedOf key (polled.1.map Event.delivered) = [] ∧
      finishedOf key (polled.1.map Event.delivered) = [] := by
    intro key
    constructor
    · exact List.filterMap_eq_nil_iff.mpr (fun event member => ((unmarked event member).2.2 key).1)
    · exact List.filterMap_eq_nil_iff.mpr (fun event member => ((unmarked event member).2.2 key).2)
  constructor
  · exact sound.placed
  · intro offsets found partition
    obtain ⟨bound, done⟩ := sound.committed offsets found partition
    exact ⟨bound, fun record member => (done record member).append_right _⟩
  · intro partition
    exact ⟨(sound.within partition).1.trans (taken partition).1, (taken partition).2.1⟩
  · exact fun partition record member => (sound.before partition record member).append_right _
  · intro batch key group present found released
    cases present
    rw [Table.lookup_mapValues, Option.map_eq_some_iff] at found
    obtain ⟨records, _, rfl⟩ := found
    contradiction
  · intro key
    have started := sound.started key
    simp only [System.remaining, idle, Option.bind_none, List.append_nil] at started
    have ofKey : polled.1.filter (fun record => decide (record.groupKey = key)) =
        system.bus.ofKey key (system.positions key.1) (polled.2 key.1) := by
      rw [MemoryBus.ofKey, ← (taken key.1).2.2, List.filter_filter]
      apply List.filter_congr
      intro record _
      by_cases own : record.groupKey = key
      · have partition : record.partition = key.1 := congrArg Prod.fst own
        simp [own, partition]
      · simp [own]
    rw [rewinds, startedOf_append, (nothing key).1, List.append_nil, (groups_waiting rfl key).2,
      started, ofKey]
    unfold MemoryBus.ofKey
    rw [← List.filter_append, slice_append_slice (sound.within key.1).1 (taken key.1).1]
  · intro key
    have finished := sound.finished key
    simp only [System.current, idle, Option.bind_none, List.append_nil] at finished
    rw [rewinds, startedOf_append, finishedOf_append, (nothing key).1, (nothing key).2,
      (groups_waiting rfl key).1, List.append_nil, List.append_nil, List.append_nil]
    exact finished
  · intro earlier record later split
    simp only at split
    rw [restarts] at split
    by_cases now : record ∈ polled.1
    · left
      unfold System.Unfinished
      rw [(groups_waiting rfl record.groupKey).1, (groups_waiting rfl record.groupKey).2]
      simp [now]
    · have absent : Event.delivered record ∉ polled.1.map Event.delivered := by
        simp [now]
      obtain ⟨rest, rfl, past⟩ := append_eq_append_cons split absent
      rcases sound.delivered earlier record rest past with unfinished | done
      · simp [System.Unfinished, System.current, System.remaining, idle] at unfinished
      · exact .inr (done.append_right _)
  · intro earlier record later split
    have absent : Event.started record ∉ polled.1.map Event.delivered := by
      simp
    obtain ⟨rest, _, past⟩ := append_eq_append_cons split absent
    exact sound.ordered earlier record rest past

end Sound

section Runs

variable {settings : Settings} {system after : System} {label : Label}

/-- Step lemma. -/
theorem Sound.step (sound : Sound system) (taken : Bus.step settings system label = some after) :
    Sound after := by
  have ofTook : after = system ∨ (∃ events, GroupTook system after events) → Sound after := by
    intro outcome
    rcases outcome with rfl | ⟨events, took⟩
    · exact sound
    · exact sound.took took
  cases label with
  | publish partition key value =>
      simp only [Bus.step] at taken
      split at taken
      · cases taken
        exact sound.publish partition key value
      · contradiction
  | crashBeforeCommit times =>
      cases taken
      obtain ⟨placed, committed, within, before, released, started, finished, delivered, ordered⟩ := sound
      exact ⟨placed, committed, within, before, released, started, finished, delivered, ordered⟩
  | restart start =>
      cases taken
      exact sound.restart start
  | poll maxRecords =>
      simp only [Bus.step] at taken
      split at taken
      · rename_i idle
        cases taken
        exact sound.poll idle maxRecords
      · contradiction
  | acquire key => exact ofTook (ofGroup_took (fun _ _ => acquire_took) taken)
  | next key => exact ofTook (ofGroup_took (fun _ _ => next_took) taken)
  | attempt key outcome => exact ofTook (ofGroup_took (fun _ _ => attempt_took) taken)
  | publishDeadLetter key acknowledged =>
      exact ofTook (ofGroup_took (fun _ _ => publishDeadLetter_took) taken)
  | commit =>
      obtain ⟨batch, present, committed⟩ := Option.bind_eq_some_iff.mp taken
      exact sound.commit present committed

/-- Only a restart of a group that has committed nothing moves the origin. -/
theorem origin_of_step (taken : Bus.step settings system label = some after) :
    after.origin = system.origin ∨
      ∃ start, label = .restart start ∧
        after.origin = fun partition => start.position (system.bus.log partition).length := by
  have ofTook : after = system ∨ (∃ events, GroupTook system after events) →
      after.origin = system.origin := by
    intro outcome
    rcases outcome with rfl | ⟨events, took⟩
    · rfl
    · exact took.origin
  cases label with
  | publish partition key value =>
      simp only [Bus.step] at taken
      split at taken
      · cases taken
        exact .inl rfl
      · contradiction
  | crashBeforeCommit times =>
      cases taken
      exact .inl rfl
  | restart start =>
      cases taken
      cases found : system.bus.committed with
      | some offsets => exact .inl (by simp [Bus.restart, found])
      | none => exact .inr ⟨start, rfl, by simp [Bus.restart, MemoryBus.consumer, found]⟩
  | poll maxRecords =>
      simp only [Bus.step] at taken
      split at taken
      · cases taken
        unfold Bus.poll
        simp only
        split
        · exact .inl rfl
        · exact .inl rfl
      · contradiction
  | acquire key => exact .inl (ofTook (ofGroup_took (fun _ _ => acquire_took) taken))
  | next key => exact .inl (ofTook (ofGroup_took (fun _ _ => next_took) taken))
  | attempt key outcome => exact .inl (ofTook (ofGroup_took (fun _ _ => attempt_took) taken))
  | publishDeadLetter key acknowledged =>
      exact .inl (ofTook (ofGroup_took (fun _ _ => publishDeadLetter_took) taken))
  | commit =>
      obtain ⟨batch, _, committed⟩ := Option.bind_eq_some_iff.mp taken
      unfold Bus.commit at committed
      split at committed
      · cases committed
        exact .inl rfl
      · contradiction

theorem origin_of_run {partitions : Nat} {labels : List Label}
    (run : Run (step settings) Any (initial partitions) labels system)
    (restarts : ∀ start, .restart start ∈ labels → start = .beginning) (partition : Partition) :
    system.origin partition = 0 := by
  induction run with
  | start => rfl
  | snoc _ _ taken ih =>
      have before := ih (fun start member => restarts start (List.mem_append_left _ member))
      rcases origin_of_step taken with same | ⟨start, rfl, moved⟩
      · rw [same]
        exact before
      · rw [moved, restarts start (List.mem_append_right _ List.mem_cons_self)]
        rfl

/-- The consumer loop delivers at least once and in key order.  A committed offset covers
only records that were handled or dead-lettered, from where the group first started, which
is the first record if every consumer starts at the beginning; handling a record starts
after the earlier ones of its key handed to the same process are done; and since the last
rewind the records of a key are handled in the order of the topic, none left out. -/
theorem consumer_loop_delivers (settings : Settings) (partitions : Nat) (labels : List Label)
    (system : System) (run : Run (step settings) Any (initial partitions) labels system) :
    (∀ offsets, system.bus.committed = some offsets → ∀ partition,
      ∀ record ∈ slice (system.bus.log partition) (system.origin partition) (offsets partition),
        Done system.history record) ∧
    ((∀ start, .restart start ∈ labels → start = .beginning) →
      ∀ partition, system.origin partition = 0) ∧
    (∀ before record after, system.history = before ++ .started record :: after →
      InOrder before record) ∧
    ∀ key, startedOf key (since Event.isRewind system.history) <+:
        ((system.bus.log key.1).drop (system.resumed key.1)).filter
          (fun record => decide (record.groupKey = key)) ∧
      finishedOf key (since Event.isRewind system.history) <+:
        startedOf key (since Event.isRewind system.history) := by
  have sound : Sound system :=
    run.invariant (Sound.initial partitions) (fun _ _ _ sound _ taken => sound.step taken)
  refine ⟨fun offsets found partition => (sound.committed offsets found partition).2, ?_,
    sound.ordered, fun key => ⟨?_, ?_⟩⟩
  · exact origin_of_run run
  · have taken : startedOf key (since Event.isRewind system.history) <+:
        system.bus.ofKey key (system.resumed key.1) (system.positions key.1) :=
      ⟨_, sound.started key⟩
    exact taken.trans ((slice_prefix_drop _ _ _).filter _)
  · exact ⟨_, sound.finished key⟩

end Runs

/-! A group of two keys whose second batch is lost at the commit; and a group that starts
at the end of its topic. -/

def handleNext (key : GroupKey) (outcomes : List Outcome) : List Label :=
  .next key :: outcomes.map (fun outcome => .attempt key outcome)

/-- One record is handled after a failure, one is dead-lettered, and the commit is lost once. -/
def lostCommit : List Label :=
  [.restart .beginning, .publish 0 (some "tx-1") "a", .publish 0 (some "tx-2") "b",
    .publish 0 (some "tx-1") "c", .poll 2, .crashBeforeCommit 1, .acquire (0, some "tx-1"),
    .acquire (0, some "tx-2")] ++
    handleNext (0, some "tx-2") [.transient, .decodeError] ++
    handleNext (0, some "tx-1") [.raised, .returned] ++
    [.publishDeadLetter (0, some "tx-2") false, .publishDeadLetter (0, some "tx-2") true,
      .next (0, some "tx-1"), .next (0, some "tx-2"), .commit, .poll 500,
      .acquire (0, some "tx-1")] ++
    handleNext (0, some "tx-1") [.returned] ++ handleNext (0, some "tx-1") [.returned] ++
    [.next (0, some "tx-1"), .acquire (0, some "tx-2")] ++
    handleNext (0, some "tx-2") [.returned] ++ [.next (0, some "tx-2"), .commit]

theorem lostCommit_runs :
    (lostCommit.foldlM (step ⟨2, 5⟩) (initial 1)).isSome = true := by
  decide +kernel

theorem consumer_loop_delivers_lostCommit :
    let system := (lostCommit.foldlM (step ⟨2, 5⟩) (initial 1)).get lostCommit_runs
    ∀ offsets, system.bus.committed = some offsets → ∀ partition,
      ∀ record ∈ slice (system.bus.log partition) (system.origin partition) (offsets partition),
        Done system.history record :=
  (consumer_loop_delivers ⟨2, 5⟩ 1 lostCommit _
    (.of_foldlM (Option.some_get lostCommit_runs).symm)).1

/-- A record, a consumer that starts behind it, and a second record. -/
def startedAtEnd : List Label :=
  [.publish 0 none "a", .restart .fromEnd, .publish 0 none "b", .poll 500, .acquire (0, none)] ++
    handleNext (0, none) [.returned] ++ [.next (0, none), .commit]

theorem startedAtEnd_runs :
    (startedAtEnd.foldlM (step ⟨8, 5⟩) (initial 1)).isSome = true := by
  decide +kernel

instance (events : List Event) (record : Record) : Decidable (Done events record) :=
  inferInstanceAs (Decidable (_ ∨ _))

/-- A group that starts at the end commits offsets above records nobody handled. -/
theorem commit_passes_records_below_the_start :
    ¬ ∀ (settings : Settings) (partitions : Nat) (labels : List Label) (system : System),
      Run (step settings) Any (initial partitions) labels system →
      ∀ offsets, system.bus.committed = some offsets → ∀ partition,
        ∀ record ∈ (system.bus.log partition).take (offsets partition),
          Done system.history record := by
  intro delivered
  have done := delivered ⟨8, 5⟩ 1 startedAtEnd _
    (.of_foldlM (Option.some_get startedAtEnd_runs).symm)
  have committed : (((startedAtEnd.foldlM (step ⟨8, 5⟩) (initial 1)).get
      startedAtEnd_runs).bus.committed.map (fun offsets => offsets 0)) = some 2 := by
    decide +kernel
  obtain ⟨offsets, found, two⟩ := Option.map_eq_some_iff.mp committed
  have first := done offsets found 0 ⟨0, 0, none, "a"⟩ (by rw [two]; decide +kernel)
  revert first
  decide +kernel

end SelfCheckout.Bus
