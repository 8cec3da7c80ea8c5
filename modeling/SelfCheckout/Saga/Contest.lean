import SelfCheckout.Saga.Agreement

namespace SelfCheckout.Saga

open SelfCheckout.Data SelfCheckout.Checkout

/-! # Drivers in each other's way

In `System` a take-over is one step.  Here it is two: `_begin` reads the completion
record with the transaction's row locked and the record's not, and later writes back
the state it read.  `holder` notes which driver was let in last; no step looks at it.
A duplicate of a reservation request may also be answered late.
-/

/-- A take-over in progress, in a database transaction that began at `now`. -/
structure Reading where
  id : DriverId
  lease : Nat
  now : Time
  record : Completion
deriving DecidableEq, Repr

structure Contest where
  system : System
  reading : TxId → Option Reading
  holder : TxId → Option DriverId

/-- A step of the system, a step of a take-over, or a late refusal. -/
inductive Move where
  | act (label : Label)
  | read (id : DriverId) (lease : Nat) (now : Time)
  | writeBack (tx : TxId)
  /-- The write raises although its commit took effect. -/
  | writeBackRaises (tx : TxId) (error : String)
  | drop (tx : TxId) (error : String)
  | answerLate (attempt : Attempt) (short : List Sku)
deriving DecidableEq, Repr

def contestOpening (levels : Table Sku Nat) : Contest :=
  { system := opening levels, reading := fun _ => none, holder := fun _ => none }

/-- The epoch a driver acts for. -/
def Phase.epoch : Phase → Option Nat
  | .awaitReserve begun => some begun.epoch
  | .setReserved begun => some begun.epoch
  | .finalize begun => some begun.epoch
  | .readStatus begun => some begun.epoch
  | .rollForward epoch _ => some epoch
  | .markCompensating epoch _ _ => some epoch
  | .awaitRelease epoch _ => some epoch
  | .reopen epoch _ => some epoch
  | .begin _ => none
  | .left _ => none

/-- The driver's next local transaction locks its transaction's row. -/
def Phase.locks : Phase → Bool
  | .begin _ => true
  | .finalize _ => true
  | .rollForward _ _ => true
  | .reopen _ _ => true
  | .awaitReserve _ => false
  | .setReserved _ => false
  | .readStatus _ => false
  | .markCompensating _ _ _ => false
  | .awaitRelease _ _ => false
  | .left _ => false

def Driver.begins (driver : Driver) (db : Checkout.Database) (lease : Nat) (now : Time) :
    Option Begin :=
  match driver.phase with
  | .begin _ => some (beginCompletion db driver.tx lease now)
  | _ => none

def Driver.takesOver (driver : Driver) (db : Checkout.Database) (lease : Nat) (now : Time) : Bool :=
  match driver.begins db lease now with
  | some (.takingOver _) => true
  | _ => false

def Driver.starts (driver : Driver) (db : Checkout.Database) (lease : Nat) (now : Time) : Bool :=
  match driver.begins db lease now with
  | some (.started _ _ _ _) => true
  | _ => false

/-- `_begin` lets the driver in. -/
def Driver.admitted (driver : Driver) (db : Checkout.Database) (lease : Nat) (now : Time) : Bool :=
  match driver.begins db lease now with
  | some (.started _ _ _ _) => true
  | some (.takingOver _) => true
  | some (.compensating _) => driver.phase = .begin false
  | _ => false

/-- Who was let in last, after a step of the system. -/
def Label.grant (system : System) (holder : TxId → Option DriverId) :
    Label → TxId → Option DriverId
  | .commit id lease now =>
      match system.drivers.lookup id with
      | none => holder
      | some driver =>
          if driver.admitted system.checkout lease now then
            Function.update holder driver.tx (some id)
          else holder
  | .raise id true _ lease now =>
      match system.drivers.lookup id with
      | none => holder
      | some driver =>
          if driver.starts system.checkout lease now then Function.update holder driver.tx none
          else holder
  | .runOnce id claimed _ _ _ => fun tx => if tx ∈ claimed then some id else holder tx
  | _ => holder

/-- The driver does not wait for a take-over's lock, and takes nothing over itself. -/
def Contest.commits (contest : Contest) (id : DriverId) (lease : Nat) (now : Time) : Bool :=
  (contest.system.drivers.lookup id).all (fun driver =>
    !(driver.phase.locks && (contest.reading driver.tx).isSome) &&
      !driver.takesOver contest.system.checkout lease now)

def Contest.enabled (contest : Contest) : Label → Bool
  | .commit id lease now => contest.commits id lease now
  | .raise id true _ lease now => contest.commits id lease now
  | .raise id false _ _ _ => (contest.system.drivers.lookup id).all (fun driver =>
      (contest.reading driver.tx).all (fun reading => reading.id ≠ id))
  | _ => true

/-- A crash ends the driver's take-over. -/
def Contest.readingAfter (contest : Contest) : Label → TxId → Option Reading
  | .crash id => fun tx => (contest.reading tx).filter (fun reading => reading.id ≠ id)
  | _ => contest.reading

/-- The driver of a take-over, once it is over. -/
def Contest.ends (contest : Contest) (tx : TxId) (system : System) (id : DriverId)
    (driver : Driver) : Contest :=
  { contest with
    system := system.setDriver id (some driver)
    reading := Function.update contest.reading tx none }

/-- What a take-over's write and commit make of the system. -/
def writtenBack (system : System) (tx : TxId) (reading : Reading) : System :=
  { system with
    checkout := takeOver system.checkout tx reading.record reading.now
    asked := system.asked ++ [requestOf system.checkout tx reading.record.epoch] }

/-- The same, if the write raises. -/
def writtenOver (system : System) (tx : TxId) (reading : Reading) : System :=
  { system with checkout := takeOver system.checkout tx reading.record reading.now }

/-- Where a take-over's driver goes. -/
def Driver.takeOverFrom (driver : Driver) (db : Checkout.Database) (tx : TxId) (reading : Reading) :
    Driver :=
  driver.goto (.awaitReserve ⟨getBasket db tx, reading.record.totalCents, reading.record.epoch⟩)

def Contest.step (threshold : Int) (contest : Contest) : Move → Option Contest
  | .act label =>
      if contest.enabled label then
        (Saga.step threshold contest.system label).map (fun after =>
          { system := after
            reading := contest.readingAfter label
            holder := label.grant contest.system contest.holder })
      else none
  | .read id lease now =>
      match contest.system.drivers.lookup id with
      | none => none
      | some driver =>
          match contest.reading driver.tx, driver.begins contest.system.checkout lease now with
          | none, some (.takingOver record) => some
              { contest with
                reading :=
                  Function.update contest.reading driver.tx (some ⟨id, lease, now, record⟩) }
          | _, _ => none
  | .writeBack tx =>
      match contest.reading tx with
      | none => none
      | some reading =>
          match contest.system.drivers.lookup reading.id with
          | none => none
          | some driver => some
              { contest.ends tx (writtenBack contest.system tx reading) reading.id
                  (driver.takeOverFrom contest.system.checkout tx reading) with
                holder := Function.update contest.holder tx (some reading.id) }
  | .writeBackRaises tx _ =>
      match contest.reading tx with
      | none => none
      | some reading =>
          match contest.system.drivers.lookup reading.id with
          | none => none
          | some driver => some
              (contest.ends tx (writtenOver contest.system tx reading) reading.id
                (driver.leave .raised))
  | .drop tx _ =>
      match contest.reading tx with
      | none => none
      | some reading =>
          match contest.system.drivers.lookup reading.id with
          | none => none
          | some driver => some (contest.ends tx contest.system reading.id (driver.leave .raised))
  | .answerLate attempt short =>
      if contest.system.recorded attempt then
        some { contest with system := contest.system.answerLate attempt short }
      else none

/-- What a move does. -/
inductive Moved (threshold : Int) (contest : Contest) : Move → Contest → Prop where
  | acts {label : Label} {after : System} (enabled : contest.enabled label = true)
      (stepped : Saga.step threshold contest.system label = some after) :
      Moved threshold contest (.act label)
        { system := after
          reading := contest.readingAfter label
          holder := label.grant contest.system contest.holder }
  | reads {id : DriverId} {lease : Nat} {now : Time} {driver : Driver} {record : Completion}
      (running : contest.system.drivers.lookup id = some driver)
      (free : contest.reading driver.tx = none)
      (began : driver.begins contest.system.checkout lease now = some (.takingOver record)) :
      Moved threshold contest (.read id lease now)
        { contest with
          reading := Function.update contest.reading driver.tx (some ⟨id, lease, now, record⟩) }
  | writesBack {tx : TxId} {reading : Reading} {driver : Driver}
      (found : contest.reading tx = some reading)
      (running : contest.system.drivers.lookup reading.id = some driver) :
      Moved threshold contest (.writeBack tx)
        { contest.ends tx (writtenBack contest.system tx reading) reading.id
            (driver.takeOverFrom contest.system.checkout tx reading) with
          holder := Function.update contest.holder tx (some reading.id) }
  | raises {tx : TxId} {error : String} {reading : Reading} {driver : Driver}
      (found : contest.reading tx = some reading)
      (running : contest.system.drivers.lookup reading.id = some driver) :
      Moved threshold contest (.writeBackRaises tx error)
        (contest.ends tx (writtenOver contest.system tx reading) reading.id (driver.leave .raised))
  | drops {tx : TxId} {error : String} {reading : Reading} {driver : Driver}
      (found : contest.reading tx = some reading)
      (running : contest.system.drivers.lookup reading.id = some driver) :
      Moved threshold contest (.drop tx error)
        (contest.ends tx contest.system reading.id (driver.leave .raised))
  | answersLate {attempt : Attempt} {short : List Sku}
      (recorded : contest.system.recorded attempt = true) :
      Moved threshold contest (.answerLate attempt short)
        { contest with system := contest.system.answerLate attempt short }

/-- Inversion of `Contest.step`. -/
theorem step_moved {threshold : Int} {contest next : Contest} {move : Move}
    (taken : contest.step threshold move = some next) : Moved threshold contest move next := by
  cases move with
  | act label =>
      simp only [Contest.step] at taken
      split at taken
      · rename_i enabled
        obtain ⟨after, stepped, rfl⟩ := Option.map_eq_some_iff.mp taken
        exact .acts enabled stepped
      · contradiction
  | read id lease now =>
      simp only [Contest.step] at taken
      split at taken
      · contradiction
      · rename_i running
        split at taken
        · rename_i free began
          cases taken
          exact .reads running free began
        · contradiction
  | writeBack tx =>
      simp only [Contest.step] at taken
      split at taken
      · contradiction
      · rename_i found
        split at taken
        · contradiction
        · rename_i running
          cases taken
          exact .writesBack found running
  | writeBackRaises tx error =>
      simp only [Contest.step] at taken
      split at taken
      · contradiction
      · rename_i found
        split at taken
        · contradiction
        · rename_i running
          cases taken
          exact .raises found running
  | drop tx error =>
      simp only [Contest.step] at taken
      split at taken
      · contradiction
      · rename_i found
        split at taken
        · contradiction
        · rename_i running
          cases taken
          exact .drops found running
  | answerLate attempt short =>
      simp only [Contest.step] at taken
      split at taken
      · rename_i recorded
        cases taken
        exact .answersLate recorded
      · contradiction

/-- A late refusal is of an attempt that holds no stock. -/
def RefusesUndone (contest : Contest) : Move → Prop
  | .answerLate attempt _ => Undone contest.system.inventory attempt
  | _ => True

instance (contest : Contest) (move : Move) : Decidable (RefusesUndone contest move) := by
  cases move with
  | answerLate attempt short => exact inferInstanceAs (Decidable (_ ∨ _))
  | _ => exact inferInstanceAs (Decidable True)

/-- A take-over writes back over the record it read. -/
def WritesBack (contest : Contest) : Move → Prop
  | .writeBack tx => ∀ reading ∈ contest.reading tx,
      contest.system.checkout.completions.lookup tx = some reading.record
  | .writeBackRaises tx _ => ∀ reading ∈ contest.reading tx,
      contest.system.checkout.completions.lookup tx = some reading.record
  | _ => True

instance (contest : Contest) (move : Move) : Decidable (WritesBack contest move) := by
  cases move with
  | writeBack tx => exact inferInstanceAs (Decidable (∀ _ ∈ _, _ = _))
  | writeBackRaises tx error => exact inferInstanceAs (Decidable (∀ _ ∈ _, _ = _))
  | _ => exact inferInstanceAs (Decidable True)

/-- The step of the system that a move comes to. -/
def Move.label (contest : Contest) : Move → Option Label
  | .act label => some label
  | .read _ _ _ => none
  | .writeBack tx => (contest.reading tx).map (fun reading =>
      .commit reading.id reading.lease reading.now)
  | .writeBackRaises tx error => (contest.reading tx).map (fun reading =>
      .raise reading.id true error reading.lease reading.now)
  | .drop tx error => (contest.reading tx).map (fun reading =>
      .raise reading.id false error reading.lease reading.now)
  | .answerLate _ _ => none

/-- The driver of a take-over waits in `_begin`, with a record that can be taken over. -/
structure Reads (system : System) (tx : TxId) (reading : Reading) : Prop where
  running : ∃ driver again, system.drivers.lookup reading.id = some driver ∧ driver.tx = tx ∧
    driver.phase = .begin again
  live : reading.record.state.terminal = false
  notOwing : reading.record.state ≠ .compensating
  expired : reading.record.fresh reading.lease reading.now = false

/-- The driver waits in `_begin` of the transaction. -/
def InBegin (system : System) (tx : TxId) (id : DriverId) : Prop :=
  ∃ driver again, system.drivers.lookup id = some driver ∧ driver.tx = tx ∧
    driver.phase = .begin again

def Label.driver : Label → Option DriverId
  | .complete id _ => some id
  | .runOnce id _ _ _ _ => some id
  | .commit id _ _ => some id
  | .raise id _ _ _ _ => some id
  | .reply id _ => some id
  | .timeOut id => some id
  | .crash id => some id
  | _ => none

section Contest

variable {threshold : Int} {system after : System} {contest next : Contest} {label : Label}
  {move : Move}

theorem other_driver (does : Does threshold system label after) {id : DriverId}
    (other : label.driver ≠ some id) : after.drivers.lookup id = system.drivers.lookup id := by
  have apart : ∀ {acting : DriverId} {checkout : System} {driver : Option Driver},
      (some acting : Option DriverId) ≠ some id →
      (checkout.setDriver acting driver).drivers.lookup id = checkout.drivers.lookup id := by
    intro acting checkout driver different
    rw [setDriver_drivers]
    split
    · rename_i same
      exact absurd (congrArg some same.symm) different
    · rfl
  cases does with
  | calls free => exact apart other
  | claims free done => exact apart other
  | commits running writes goes => exact apart other
  | raisesAfterCommit running raised writes => exact apart other
  | raises running raised => exact apart other
  | receives running onTopic received => exact apart other
  | timesOut running timedOut => exact apart other
  | crashes => exact apart other
  | _ => rfl

theorem Reads.takingOver {tx : TxId} {reading : Reading} (reads : Reads system tx reading)
    (sound : Sound system)
    (current : system.checkout.completions.lookup tx = some reading.record) :
    beginCompletion system.checkout tx reading.lease reading.now = .takingOver reading.record := by
  have coupled := sound.coupled tx
  rw [current] at coupled
  obtain ⟨row, found, isCompleting, _⟩ := coupled.of_live reads.live
  simp [beginCompletion, beginAgain, found, isCompleting, current, reads.notOwing, reads.expired]

theorem begins_of_phase {driver : Driver} {again : Bool} (phase : driver.phase = .begin again)
    (db : Checkout.Database) (lease : Nat) (now : Time) :
    driver.begins db lease now = some (beginCompletion db driver.tx lease now) := by
  simp only [Driver.begins, phase]

/-- A move that writes back what is still there is a step of the system or none, or a
late refusal. -/
theorem move_follows (sound : Sound contest.system)
    (reads : ∀ tx reading, contest.reading tx = some reading → Reads contest.system tx reading)
    (writesBack : WritesBack contest move) (taken : contest.step threshold move = some next) :
    (next.system = contest.system ∧ next.holder = contest.holder) ∨
    (∃ attempt short, move = .answerLate attempt short ∧
      next.system = contest.system.answerLate attempt short ∧ next.holder = contest.holder) ∨
    ∃ label, move.label contest = some label ∧
      Saga.step threshold contest.system label = some next.system ∧
      next.holder = label.grant contest.system contest.holder := by
  cases step_moved taken with
  | acts enabled stepped => exact .inr (.inr ⟨_, rfl, stepped, rfl⟩)
  | reads running free began => exact .inl ⟨rfl, rfl⟩
  | answersLate recorded => exact .inr (.inl ⟨_, _, rfl, rfl, rfl⟩)
  | @writesBack tx reading driver found running =>
      obtain ⟨again, _, same, rfl, phase⟩ := (reads tx reading found).running
      cases running.symm.trans same
      have began := (reads driver.tx reading found).takingOver sound (writesBack reading found)
      refine .inr (.inr ⟨.commit reading.id reading.lease reading.now, ?_, ?_, ?_⟩)
      · simp [Move.label, found]
      · simp [Saga.step, running, Driver.transact, phase, began, Contest.ends, writtenBack,
          Driver.takeOverFrom]
      · simp [Label.grant, running, Driver.admitted, begins_of_phase phase, began]
  | @raises tx error reading driver found running =>
      obtain ⟨again, _, same, rfl, phase⟩ := (reads tx reading found).running
      cases running.symm.trans same
      have began := (reads driver.tx reading found).takingOver sound (writesBack reading found)
      refine .inr (.inr ⟨.raise reading.id true error reading.lease reading.now, ?_, ?_, ?_⟩)
      · simp [Move.label, found]
      · simp [Saga.step, running, Driver.raised, Driver.transact, phase, began, Contest.ends,
          writtenOver]
      · simp [Label.grant, running, Driver.starts, begins_of_phase phase, began, Contest.ends]
  | @drops tx error reading driver found running =>
      obtain ⟨again, _, same, rfl, phase⟩ := (reads tx reading found).running
      cases running.symm.trans same
      refine .inr (.inr ⟨.raise reading.id false error reading.lease reading.now, ?_, ?_, ?_⟩)
      · simp [Move.label, found]
      · simp [Saga.step, running, Driver.raised, phase, Contest.ends]
      · simp [Label.grant, Contest.ends]

theorem Reads.later {tx : TxId} {reading : Reading} (reads : Reads system tx reading)
    (same : after.drivers.lookup reading.id = system.drivers.lookup reading.id) :
    Reads after tx reading := by
  refine { reads with running := ?_ }
  rw [same]
  exact reads.running

/-- A driver that waits in `_begin` moves only by its own take-over, or crashes. -/
theorem inBegin_elsewhere {tx : TxId} {reading : Reading}
    (waiting : InBegin contest.system tx reading.id)
    (found : contest.reading tx = some reading) (enabled : contest.enabled label = true)
    (does : Does threshold contest.system label after) :
    label.driver ≠ some reading.id ∨ label = .crash reading.id := by
  obtain ⟨driver, again, running, rfl, phase⟩ := waiting
  by_cases own : label.driver = some reading.id
  · cases label <;> simp only [Label.driver, Option.some.injEq, reduceCtorEq] at own
    all_goals
      subst own
    · cases does with
      | calls free => simp [running] at free
    · cases does with
      | claims free done => simp [running] at free
    · simp [Contest.enabled, Contest.commits, running, found, phase, Phase.locks] at enabled
    · rename_i committed _ _ _
      cases committed
      · simp [Contest.enabled, running, found] at enabled
      · simp [Contest.enabled, Contest.commits, running, found, phase, Phase.locks] at enabled
    · cases does with
      | receives again onTopic received =>
          cases running.symm.trans again
          simp [Driver.receive, phase] at received
    · cases does with
      | timesOut again timedOut =>
          cases running.symm.trans again
          simp [Driver.timeOut, phase] at timedOut
    · exact .inr rfl
  · exact .inl own

theorem enabled_elsewhere {tx : TxId} {reading : Reading} (reads : Reads contest.system tx reading)
    (found : contest.reading tx = some reading) (enabled : contest.enabled label = true)
    (does : Does threshold contest.system label after) :
    label.driver ≠ some reading.id ∨ label = .crash reading.id :=
  inBegin_elsewhere reads.running found enabled does

theorem begins_takingOver {driver : Driver} {db : Checkout.Database} {lease : Nat} {now : Time}
    {record : Completion} (began : driver.begins db lease now = some (.takingOver record)) :
    (∃ again, driver.phase = .begin again) ∧
      beginCompletion db driver.tx lease now = .takingOver record := by
  unfold Driver.begins at began
  split at began
  · rename_i again phase
    exact ⟨⟨again, phase⟩, Option.some.inj began⟩
  · contradiction

theorem reads_rest {readings : TxId → Option Reading} {own tx : TxId} {reading : Reading}
    (remains : Function.update readings own none tx = some reading) :
    tx ≠ own ∧ readings tx = some reading := by
  rw [Function.update_apply] at remains
  split at remains
  · contradiction
  · rename_i different
    exact ⟨different, remains⟩

/-- When a take-over ends, the drivers of the others stay where they are. -/
theorem lookup_ends
    (waiting : ∀ tx reading, contest.reading tx = some reading →
      InBegin contest.system tx reading.id)
    {tx : TxId} {reading : Reading} (found : contest.reading tx = some reading)
    (drivers : ∃ driver, after.drivers = assign contest.system.drivers reading.id driver)
    {other : TxId} {otherReading : Reading} (before : contest.reading other = some otherReading)
    (different : other ≠ tx) :
    after.drivers.lookup otherReading.id = contest.system.drivers.lookup otherReading.id := by
  obtain ⟨driver, drivers⟩ := drivers
  rw [drivers, lookup_assign]
  split
  · rename_i same
    obtain ⟨mine, _, running, rfl, _⟩ := waiting tx reading found
    obtain ⟨theirs, _, again, rfl, _⟩ := waiting other otherReading before
    rw [same, running] at again
    cases again
    exact absurd rfl different
  · rfl

/-- When a take-over ends, the others are still waiting. -/
theorem reads_ends
    (reads : ∀ tx reading, contest.reading tx = some reading → Reads contest.system tx reading)
    {tx : TxId} {reading : Reading} (found : contest.reading tx = some reading)
    (drivers : ∃ driver, after.drivers = assign contest.system.drivers reading.id driver)
    {other : TxId} {otherReading : Reading}
    (remains : Function.update contest.reading tx none other = some otherReading) :
    Reads after other otherReading := by
  obtain ⟨different, before⟩ := reads_rest remains
  exact (reads other otherReading before).later
    (lookup_ends (fun tx reading found => (reads tx reading found).running) found drivers before
      different)

theorem reads_another {readings : TxId → Option Reading} {own tx : TxId} {new reading : Reading}
    (remains : Function.update readings own (some new) tx = some reading) :
    tx = own ∧ reading = new ∨ readings tx = some reading := by
  rw [Function.update_apply] at remains
  split at remains
  · rename_i here
    exact .inl ⟨here, (Option.some.inj remains).symm⟩
  · exact .inr remains

theorem readingAfter_some {tx : TxId} {reading : Reading}
    (remains : contest.readingAfter label tx = some reading) :
    contest.reading tx = some reading := by
  cases label with
  | crash id => exact (Option.filter_eq_some_iff.mp remains).1
  | _ => exact remains

theorem reads_step (sound : Sound contest.system)
    (reads : ∀ tx reading, contest.reading tx = some reading → Reads contest.system tx reading)
    (taken : contest.step threshold move = some next) (tx : TxId) (reading : Reading)
    (remains : next.reading tx = some reading) : Reads next.system tx reading := by
  cases step_moved taken with
  | @acts label after enabled stepped =>
      have does := step_does stepped
      have found := readingAfter_some remains
      rcases enabled_elsewhere (reads tx reading found) found enabled does with other | rfl
      · exact (reads tx reading found).later (other_driver does other)
      · simp [Contest.readingAfter, found] at remains
  | @reads id lease now driver record running free began =>
      rcases reads_another remains with ⟨rfl, rfl⟩ | before
      · obtain ⟨⟨again, phase⟩, began⟩ := begins_takingOver began
        have live := (reads_takingOver (sound.coupled driver.tx) began record rfl).1
        cases begins began with
        | takingOver _ _ _ notOwing expired =>
            exact ⟨⟨driver, again, running, rfl, phase⟩, live, notOwing, expired⟩
      · exact reads tx reading before
  | @writesBack other _ driver found running =>
      refine reads_ends reads found ?_ remains
      exact ⟨some (driver.takeOverFrom contest.system.checkout other _), rfl⟩
  | @raises _ _ _ driver found running =>
      refine reads_ends reads found ?_ remains
      exact ⟨some (driver.leave .raised), rfl⟩
  | @drops _ _ _ driver found running =>
      refine reads_ends reads found ?_ remains
      exact ⟨some (driver.leave .raised), rfl⟩
  | answersLate recorded => exact (reads tx reading remains).later rfl

/-- Refinement: a run without late refusals, whose take-overs write back what is still
there, is a run of the system. -/
theorem contest_of_run {levels : Table Sku Nat} {allowed : Contest → Move → Prop}
    {permitted : System → Label → Prop} {moves : List Move}
    (run : Run (Contest.step threshold) allowed (contestOpening levels) moves contest)
    (writesBack : ∀ contest move, allowed contest move → WritesBack contest move)
    (neverLate : ∀ contest attempt short, ¬ allowed contest (.answerLate attempt short))
    (permits : ∀ contest move label, allowed contest move → move.label contest = some label →
      permitted contest.system label) :
    (∃ labels, Run (Saga.step threshold) permitted (opening levels) labels contest.system) ∧
      ∀ tx reading, contest.reading tx = some reading → Reads contest.system tx reading := by
  induction run with
  | start => exact ⟨⟨[], .start⟩, fun _ _ found => by contradiction⟩
  | snoc past allows taken ih =>
      obtain ⟨⟨labels, reached⟩, reads⟩ := ih
      have sound := sound_of_run reached
      refine ⟨?_, reads_step sound reads taken⟩
      rcases move_follows sound reads (writesBack _ _ allows) taken with
        ⟨same, _⟩ | ⟨attempt, short, rfl, _⟩ | ⟨label, comes, stepped, _⟩
      · exact ⟨labels, same ▸ reached⟩
      · exact absurd allows (neverLate _ _ _)
      · exact ⟨labels ++ [label], reached.snoc (permits _ _ _ allows comes) stepped⟩

end Contest

end SelfCheckout.Saga
