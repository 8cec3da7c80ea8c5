import SelfCheckout.Saga.Contest

namespace SelfCheckout.Saga

open SelfCheckout.Data SelfCheckout.Checkout

/-! # Fencing by epoch and by the state diagram

The statements that move an attempt look neither at its epoch nor at the state it is
in.  While a live attempt is written only by the driver that was let in to it last, that
driver knows both.
-/

/-- The arrows of a completion's state diagram, the start of an attempt aside. -/
inductive Arrow : CompletionState → CompletionState → Prop where
  | stockReserved : Arrow .reserving .reserved
  | rejected : Arrow .reserving .aborted
  | noOutcome : Arrow .reserving .compensating
  | finalized : Arrow .reserved .completed
  | finalizeFails : Arrow .reserved .compensating
  | rolledBack : Arrow .compensating .aborted

/-- What a write for `epoch` may do to a transaction's two rows. -/
structure FencedWrite (before after : Checkout.Database) (tx : TxId) (epoch : Nat) : Prop where
  current : after.transactions.lookup tx ≠ before.transactions.lookup tx ∨
      after.completions.lookup tx ≠ before.completions.lookup tx →
    (before.completions.lookup tx).map Completion.epoch = some epoch
  arrow : ∀ old new, before.completions.lookup tx = some old →
    after.completions.lookup tx = some new → old.state ≠ new.state → Arrow old.state new.state

/-- The transaction and the epoch that a move writes for. -/
def Move.writesFor (contest : Contest) : Move → Option (TxId × Nat)
  | .act label =>
      label.writer.bind (fun id => (contest.system.drivers.lookup id).bind (fun driver =>
        driver.phase.epoch.map (fun epoch => (driver.tx, epoch))))
  | .writeBack tx => (contest.reading tx).map (fun reading => (tx, reading.record.epoch))
  | .writeBackRaises tx _ => (contest.reading tx).map (fun reading => (tx, reading.record.epoch))
  | .read _ _ _ => none
  | .drop _ _ => none
  | .answerLate _ _ => none

/-- All writes of a run are fenced, and what is being rolled back is only rolled back. -/
structure DriversFenced (threshold : Int) (levels : Table Sku Nat) (moves : List Move) : Prop where
  writes : ∀ past move before after tx epoch, past ++ [move] <+: moves →
    past.foldlM (Contest.step threshold) (contestOpening levels) = some before →
    before.step threshold move = some after → move.writesFor before = some (tx, epoch) →
    FencedWrite before.system.checkout after.system.checkout tx epoch
  givenUp : ∀ past more before after tx old new, past ++ more <+: moves →
    past.foldlM (Contest.step threshold) (contestOpening levels) = some before →
    more.foldlM (Contest.step threshold) before = some after →
    before.system.checkout.completions.lookup tx = some old → old.state = .compensating →
    after.system.checkout.completions.lookup tx = some new → new.epoch = old.epoch →
    new.state = .compensating ∨ new.state = .aborted

/-- The driver's next local transaction writes to an attempt it was let in to earlier. -/
def Phase.writes : Phase → Bool
  | .setReserved _ => true
  | .finalize _ => true
  | .rollForward _ _ => true
  | .markCompensating _ _ _ => true
  | .reopen _ _ => true
  | .begin _ => false
  | .awaitReserve _ => false
  | .readStatus _ => false
  | .awaitRelease _ _ => false
  | .left _ => false

/-- A live attempt is written by the driver that was let in last. -/
def HeldBy (system : System) (holder : TxId → Option DriverId) (id : DriverId) (driver : Driver) :
    Prop :=
  driver.phase.writes = true →
    ∀ record ∈ system.checkout.completions.lookup driver.tx, record.state.terminal = false →
      holder driver.tx = some id

instance (system : System) (holder : TxId → Option DriverId) (id : DriverId) (driver : Driver) :
    Decidable (HeldBy system holder id driver) :=
  inferInstanceAs (Decidable (_ → ∀ _ ∈ _, _ → _))

def WriterHolds (system : System) (holder : TxId → Option DriverId) (label : Label) : Prop :=
  ∀ id ∈ label.writer, ∀ driver ∈ system.drivers.lookup id, HeldBy system holder id driver

instance (system : System) (holder : TxId → Option DriverId) (label : Label) :
    Decidable (WriterHolds system holder label) :=
  inferInstanceAs (Decidable (∀ _ ∈ _, ∀ _ ∈ _, _))

def Held (contest : Contest) (move : Move) : Prop :=
  WritesBack contest move ∧ RefusesUndone contest move ∧
    ∀ label ∈ move.label contest, WriterHolds contest.system contest.holder label

instance (contest : Contest) (move : Move) : Decidable (Held contest move) :=
  inferInstanceAs (Decidable (_ ∧ _ ∧ ∀ _ ∈ _, _))

/-- The states in which a driver that holds the attempt may find it. -/
def Phase.expects : Phase → CompletionState → Prop
  | .awaitReserve _ => Reserving
  | .setReserved _ => Reserving
  | .finalize _ => Reserved
  | .rollForward _ _ => Reserved
  | .markCompensating _ _ _ => fun state => state ≠ .aborted
  | .awaitRelease _ _ => fun state => state = .compensating ∨ state = .completed
  | .reopen _ _ => fun state => state ≠ .reserved ∧ state ≠ .aborted
  | .begin _ => fun _ => True
  | .readStatus _ => fun _ => True
  | .left _ => fun _ => True

def Knows (db : Checkout.Database) (tx : TxId) (phase : Phase) : Prop :=
  ∀ epoch, phase.epoch = some epoch → LiveAt db tx epoch phase.expects

def HolderKnows (db : Checkout.Database) (holder : TxId → Option DriverId) (id : DriverId)
    (tx : TxId) (phase : Phase) : Prop :=
  holder tx = some id → Knows db tx phase

def HolderRow (db : Checkout.Database) (holder : TxId → Option DriverId) (id : DriverId)
    (row : StuckRow) : Prop :=
  holder row.transactionId = some id → RowCurrent db row

structure Tenure (system : System) (holder : TxId → Option DriverId) : Prop extends
    Sound system where
  taken : ∀ tx record, system.checkout.completions.lookup tx = some record →
    record.state = .reserved → Taken system.inventory ⟨tx, record.epoch⟩
  unreleased : ∀ tx record, system.checkout.completions.lookup tx = some record →
    Reserving record.state → ¬ ReleaseQueued system.checkout ⟨tx, record.epoch⟩
  holds : ∀ id driver, system.drivers.lookup id = some driver →
    driver.Obeys (HolderKnows system.checkout holder id) (HolderRow system.checkout holder id)
  distinct : ∀ id driver, system.drivers.lookup id = some driver → driver.covered.Nodup
  calls : ∀ id driver, system.drivers.lookup id = some driver → driver.phase = .begin false →
    driver.remaining = []

section Knows

variable {db after : Checkout.Database} {tx : TxId} {phase : Phase}

theorem Knows.same (same : SameState (db.completions.lookup tx) (after.completions.lookup tx))
    (knows : Knows db tx phase) : Knows after tx phase :=
  fun epoch acts => (knows epoch acts).same same

theorem RowCurrent.same {row : StuckRow}
    (same : SameState (db.completions.lookup row.transactionId)
      (after.completions.lookup row.transactionId))
    (current : RowCurrent db row) : RowCurrent after row :=
  ⟨current.1.same same, current.2⟩

theorem knows_of_epoch {epoch : Nat} (acts : phase.epoch = some epoch)
    (live : LiveAt db tx epoch phase.expects) : Knows db tx phase := by
  intro other same
  cases acts.symm.trans same
  exact live

theorem recover_knows {row : StuckRow} (current : RowCurrent db row) :
    Knows db row.transactionId (recover row) := by
  obtain ⟨live, unfinished⟩ := current
  unfold recover
  split
  · rename_i reserved
    refine knows_of_epoch rfl (live.imp ?_)
    exact fun state same => same.trans reserved
  · refine knows_of_epoch rfl (live.imp ?_)
    intro state same aborted
    rw [Unfinished, ← same, aborted] at unfinished
    contradiction

theorem knows_of_none (acts : phase.epoch = none) : Knows db tx phase := by
  intro epoch same
  rw [acts] at same
  contradiction

end Knows

section Step

variable {threshold : Int} {system after : System} {holder : TxId → Option DriverId}
  {label : Label} {tx : TxId} {other : DriverId}

theorem writes_quiet {driver : Driver} {db after : Checkout.Database} {lease : Nat} {now : Time}
    (writes : Writes driver db lease now after) :
    (∀ tx, SameState (db.completions.lookup tx) (after.completions.lookup tx)) ∨
      driver.starts db lease now = true ∨ driver.phase.writes = true := by
  cases writes with
  | nothing quiet => exact .inl (fun _ => rfl)
  | started phase began =>
      exact .inr (.inl (by simp [Driver.starts, begins_of_phase phase, began]))
  | tookOver phase began => exact .inl (takeOver_same began)
  | reserved phase => exact .inr (.inr (by rw [phase]; rfl))
  | finalized phase => exact .inr (.inr (by rw [phase]; rfl))
  | rolledForward phase => exact .inr (.inr (by rw [phase]; rfl))
  | compensated phase => exact .inr (.inr (by rw [phase]; rfl))
  | reopened phase => exact .inr (.inr (by rw [phase]; rfl))

theorem admitted_of_starts {driver : Driver} {db : Checkout.Database} {lease : Nat} {now : Time}
    (starts : driver.starts db lease now = true) : driver.admitted db lease now = true := by
  unfold Driver.starts at starts
  unfold Driver.admitted
  split at starts
  · rename_i began
    rw [began]
  · contradiction

/-- Whoever starts an attempt ends the tenure of the others. -/
theorem grant_starts {id : DriverId} {driver : Driver} {lease : Nat} {now : Time}
    (writer : Writer label id lease now) (running : system.drivers.lookup id = some driver)
    (starts : driver.starts system.checkout lease now = true)
    (granted : label.grant system holder driver.tx = some other) : id = other := by
  cases writer with
  | commit =>
      simpa [Label.grant, running, admitted_of_starts starts] using granted
  | raise => simp [Label.grant, running, starts] at granted

/-- Only the driver that takes the step can come to hold a transaction. -/
theorem grant_other (granted : label.grant system holder tx = some other)
    (notOwn : label.driver ≠ some other) : holder tx = some other := by
  have updated : ∀ {own : TxId} {new : Option DriverId}, new ≠ some other →
      Function.update holder own new tx = some other → holder tx = some other := by
    intro own new different same
    rw [Function.update_apply] at same
    split at same
    · exact absurd same different
    · exact same
  cases label with
  | commit id lease now =>
      cases running : system.drivers.lookup id with
      | none => simpa only [Label.grant, running] using granted
      | some driver =>
          simp only [Label.grant, running] at granted
          by_cases admitted : driver.admitted system.checkout lease now = true
          · rw [if_pos admitted] at granted
            exact updated notOwn granted
          · rwa [if_neg admitted] at granted
  | raise id committed error lease now =>
      cases committed with
      | false => exact granted
      | true =>
          cases running : system.drivers.lookup id with
          | none => simpa only [Label.grant, running] using granted
          | some driver =>
              simp only [Label.grant, running] at granted
              by_cases starts : driver.starts system.checkout lease now = true
              · rw [if_pos starts] at granted
                exact updated (by simp) granted
              · rwa [if_neg starts] at granted
  | runOnce id claimed lease limit now =>
      simp only [Label.grant] at granted
      split at granted
      · exact absurd granted notOwn
      · exact granted
  | _ => exact granted

theorem Turns.closed {driver : Driver} {before after : Option Completion}
    (turns : Turns driver tx before after) (acts : driver.phase.writes = true)
    (closed : ∀ old, before = some old → old.state.terminal = true) : SameState before after := by
  cases turns with
  | keeps same spared => exact same
  | starts phase aborted epoch state => simp [phase, Phase.writes] at acts
  | reserves phase live epoch state => simp [closed _ rfl] at live
  | finalizes phase live epoch state => simp [closed _ rfl] at live
  | compensates phase live epoch state => simp [closed _ rfl] at live
  | reopens phase live epoch state => simp [closed _ rfl] at live

/-- A step of one driver leaves alone what another holds. -/
theorem Tenure.undisturbed (tenure : Tenure system holder)
    (held : WriterHolds system holder label) (does : Does threshold system label after)
    (granted : label.grant system holder tx = some other) (notOwn : label.driver ≠ some other) :
    SameState (system.checkout.completions.lookup tx) (after.checkout.completions.lookup tx) := by
  have holds := grant_other granted notOwn
  rcases step_written does with rests | ⟨id, driver, lease, now, writer, running, writes⟩
  · exact rests.same tx
  · have different : id ≠ other := by
      intro same
      subst same
      cases writer <;> exact notOwn rfl
    by_cases own : tx = driver.tx
    · subst own
      rcases writes_quiet writes with same | starts | acts
      · exact same driver.tx
      · exact absurd (grant_starts writer running starts granted) different
      · have notLive : ∀ record,
            system.checkout.completions.lookup driver.tx = some record →
            record.state.terminal = true := by
          intro record found
          cases live : record.state.terminal with
          | true => rfl
          | false =>
              have mine : holder driver.tx = some id := by
                cases writer <;> exact held id rfl driver running acts record found live
              exact absurd (Option.some.inj (mine.symm.trans holds)) different
        exact (turns_writes tenure.coupled writes driver.tx).closed acts notLive
    · exact .of_eq (writes_other writes own)

variable {id : DriverId} {driver : Driver} {lease : Nat} {now : Time}
  {db : Checkout.Database}

theorem epoch_of_writes {phase : Phase} (acts : phase.writes = true) :
    ∃ epoch, phase.epoch = some epoch := by
  cases phase with
  | setReserved begun => exact ⟨_, rfl⟩
  | finalize begun => exact ⟨_, rfl⟩
  | rollForward epoch totalCents => exact ⟨_, rfl⟩
  | markCompensating epoch reason next => exact ⟨_, rfl⟩
  | reopen epoch next => exact ⟨_, rfl⟩
  | _ => contradiction

/-- The writer of a live attempt knows its epoch and what state to expect. -/
theorem Tenure.knows (tenure : Tenure system holder) (held : WriterHolds system holder label)
    (writer : Writer label id lease now) (running : system.drivers.lookup id = some driver)
    (acts : driver.phase.writes = true) {old : Completion}
    (found : system.checkout.completions.lookup driver.tx = some old)
    (live : old.state.terminal = false) :
    driver.phase.epoch = some old.epoch ∧ driver.phase.expects old.state := by
  have mine : holder driver.tx = some id := by
    cases writer <;> exact held id rfl driver running acts old found live
  obtain ⟨epoch, isEpoch⟩ := epoch_of_writes acts
  obtain ⟨record, again, rfl, expects⟩ := (tenure.holds id driver running).phase mine epoch isEpoch
  cases found.symm.trans again
  exact ⟨isEpoch, expects⟩

/-- What a writer does to the attempt: nothing, or an arrow of the diagram. -/
inductive Shift (before after : Option Completion) : Prop where
  | keeps (same : SameState before after)
  | shifts {old new : Completion} (found : before = some old) (written : after = some new)
      (epoch : new.epoch = old.epoch) (arrow : Arrow old.state new.state)

theorem Tenure.shift (tenure : Tenure system holder) (held : WriterHolds system holder label)
    (writer : Writer label id lease now) (running : system.drivers.lookup id = some driver)
    (acts : driver.phase.writes = true)
    (turns : Turns driver driver.tx (system.checkout.completions.lookup driver.tx)
      (db.completions.lookup driver.tx)) :
    Shift (system.checkout.completions.lookup driver.tx) (db.completions.lookup driver.tx) := by
  generalize found : system.checkout.completions.lookup driver.tx = before at turns
  generalize written : db.completions.lookup driver.tx = new at turns
  cases turns with
  | keeps same spared => exact .keeps same
  | starts phase closed epoch state => simp [phase, Phase.writes] at acts
  | @reserves begun old new phase live epoch state =>
      have expects := (tenure.knows held writer running acts found live).2
      rw [phase] at expects
      rcases expects with reserving | reserved
      · refine .shifts rfl rfl epoch ?_
        rw [reserving, state]
        exact .stockReserved
      · refine .keeps ?_
        rw [SameState, Option.map_some, Option.map_some, epoch, state, reserved]
  | @finalizes acting old new phase live epoch state =>
      have expects := (tenure.knows held writer running acts found live).2
      have reserved : old.state = .reserved := by
        cases isPhase : driver.phase <;> rw [isPhase] at phase expects <;>
          simp only [Phase.finalizing] at phase <;> first | contradiction | exact expects
      refine .shifts rfl rfl epoch ?_
      rw [reserved, state]
      exact .finalized
  | @compensates acting reason next old new phase live epoch state =>
      cases isState : old.state with
      | reserving =>
          refine .shifts rfl rfl epoch ?_
          rw [isState, state]
          exact .noOutcome
      | reserved =>
          refine .shifts rfl rfl epoch ?_
          rw [isState, state]
          exact .finalizeFails
      | compensating =>
          refine .keeps ?_
          rw [SameState, Option.map_some, Option.map_some, epoch, state, isState]
      | completed => simp [isState, CompletionState.terminal] at live
      | aborted => simp [isState, CompletionState.terminal] at live
  | @reopens acting next old new phase live epoch state =>
      have expects := (tenure.knows held writer running acts found live).2
      rw [phase] at expects
      refine .shifts rfl rfl epoch ?_
      cases isState : old.state with
      | reserving =>
          rw [state]
          exact .rejected
      | compensating =>
          rw [state]
          exact .rolledBack
      | reserved => exact absurd isState expects.1
      | completed => simp [isState, CompletionState.terminal] at live
      | aborted => simp [isState, CompletionState.terminal] at live

/-- A driver's statement on an attempt that is over changes neither row. -/
theorem rows_closed (coupled : ∀ tx, Coupled (db.transactions.lookup tx) (db.completions.lookup tx))
    (closed : ∀ record, db.completions.lookup driver.tx = some record →
      record.state.terminal = true)
    {written : Checkout.Database} (writes : Writes driver db lease now written)
    (acts : driver.phase.writes = true) :
    written.transactions.lookup driver.tx = db.transactions.lookup driver.tx ∧
      written.completions.lookup driver.tx = db.completions.lookup driver.tx := by
  have spared (state : CompletionState) (error : Option String) :
      (setCompletionState db driver.tx state error now).completions.lookup driver.tx =
        db.completions.lookup driver.tx := by
    rcases setCompletionState_cases db driver.tx state error now with
      ⟨same, _⟩ | ⟨old, _, found, live, _⟩
    · exact same
    · rw [closed old found] at live
      contradiction
  have idle := (coupled driver.tx).idle closed
  cases writes with
  | nothing quiet => exact ⟨rfl, rfl⟩
  | started phase began => simp [phase, Phase.writes] at acts
  | tookOver phase began => simp [phase, Phase.writes] at acts
  | reserved phase => exact ⟨rfl, spared .reserved none⟩
  | finalized phase =>
      rw [finalize_idle db driver.tx _ now idle]
      exact ⟨rfl, rfl⟩
  | rolledForward phase =>
      rw [finalize_idle db driver.tx _ now idle]
      exact ⟨rfl, rfl⟩
  | @compensated epoch reason next phase => exact ⟨rfl, spared .compensating (some reason)⟩
  | reopened phase =>
      rw [reopen_idle db driver.tx now idle]
      exact ⟨rfl, rfl⟩

/-- RESERVED is written on a reservation, and it is the attempt's own. -/
theorem Tenure.takenStep (tenure : Tenure system holder)
    (held : WriterHolds system holder label) (does : Does threshold system label after) (tx : TxId)
    (new : Completion) (found : after.checkout.completions.lookup tx = some new)
    (reserved : new.state = .reserved) : Taken after.inventory ⟨tx, new.epoch⟩ := by
  have follows := (step_grows tenure.toSound does).follows
  have kept : ∀ old, system.checkout.completions.lookup tx = some old → new.epoch = old.epoch →
      old.state = .reserved → Taken after.inventory ⟨tx, new.epoch⟩ := by
    intro old known epoch state
    rw [epoch]
    exact taken_follows (follows _) (tenure.taken tx old known state)
  rcases step_written does with rests | ⟨id, driver, lease, now, writer, running, writes⟩
  · obtain ⟨old, known, epoch, state⟩ := sameState_some (rests.same tx) found
    exact kept old known epoch (state.symm.trans reserved)
  · have turns := turns_writes tenure.coupled writes tx
    rw [found] at turns
    generalize known : system.checkout.completions.lookup tx = before at turns kept
    cases turns with
    | keeps same spared =>
        obtain ⟨old, rfl, epoch, state⟩ := sameState_some same rfl
        exact kept old rfl epoch (state.symm.trans reserved)
    | starts phase closed epoch state => simp [state] at reserved
    | @reserves begun old new phase live epoch state =>
        have own := (tenure.knows held writer running (by rw [phase]; rfl) known live).1
        have carries := (tenure.drivers id driver running).phase
        rw [phase] at carries own
        rw [epoch, ← Option.some.inj own]
        exact taken_follows (follows _) carries.2
    | finalizes phase live epoch state => simp [state] at reserved
    | compensates phase live epoch state => simp [state] at reserved
    | reopens phase live epoch state => simp [state] at reserved

/-- An attempt that is still being reserved has not been given up. -/
theorem Tenure.unreleasedStep (tenure : Tenure system holder)
    (held : WriterHolds system holder label) (does : Does threshold system label after) (tx : TxId)
    (new : Completion) (found : after.checkout.completions.lookup tx = some new)
    (reserving : Reserving new.state) : ¬ ReleaseQueued after.checkout ⟨tx, new.epoch⟩ := by
  intro queued
  rcases step_written does with rests | ⟨id, driver, lease, now, writer, running, writes⟩
  · obtain ⟨old, known, epoch, state⟩ := sameState_some (rests.same tx) found
    rw [epoch] at queued
    exact tenure.unreleased tx old known (state ▸ reserving) (rests.releases _ queued)
  · have turns := turns_writes tenure.coupled writes tx
    rw [found] at turns
    generalize known : system.checkout.completions.lookup tx = before at turns
    rcases writes_release writes queued with already | ⟨own, reason, next, marks⟩
    · cases turns with
      | keeps same spared =>
          obtain ⟨old, rfl, epoch, state⟩ := sameState_some same rfl
          rw [epoch] at already
          exact tenure.unreleased tx old known (state ▸ reserving) already
      | starts phase closed epoch state =>
          obtain ⟨_, old, foundOld, below⟩ := tenure.queued _ already
          cases known.symm.trans foundOld
          simp only [Request.attempt, epoch, nextEpoch] at below
          omega
      | reserves phase live epoch state =>
          have expects := (tenure.knows held writer running (by rw [phase]; rfl) known live).2
          rw [phase] at expects
          rw [epoch] at already
          exact tenure.unreleased _ _ known expects already
      | finalizes phase live epoch state => simp [Reserving, state] at reserving
      | compensates phase live epoch state => simp [Reserving, state] at reserving
      | reopens phase live epoch state => simp [Reserving, state] at reserving
    · simp only at own
      cases turns with
      | keeps same spared =>
          obtain ⟨old, rfl, epoch, state⟩ := sameState_some same rfl
          have terminal := spared own.symm _ reason next marks old rfl
          rw [reserving_unfinished _ (state ▸ reserving)] at terminal
          contradiction
      | starts phase closed epoch state => simp [phase] at marks
      | reserves phase live epoch state => simp [phase] at marks
      | finalizes phase live epoch state => simp [Reserving, state] at reserving
      | compensates phase live epoch state => simp [Reserving, state] at reserving
      | reopens phase live epoch state => simp [Reserving, state] at reserving

theorem begins_of_epoch {epoch : Nat} (acts : driver.phase.epoch = some epoch) :
    driver.begins db lease now = none := by
  unfold Driver.begins
  split
  · rename_i phase
    rw [phase] at acts
    contradiction
  · rfl

/-- A driver past `_begin` does not change who holds its transaction. -/
theorem grant_keeps (writer : Writer label id lease now)
    (running : system.drivers.lookup id = some driver)
    (begins : driver.begins system.checkout lease now = none) :
    label.grant system holder = holder := by
  cases writer with
  | commit => simp [Label.grant, running, Driver.admitted, begins]
  | raise => simp [Label.grant, running, Driver.starts, begins]

theorem grant_elsewhere (writer : Writer label id lease now)
    (running : system.drivers.lookup id = some driver) (elsewhere : tx ≠ driver.tx) :
    label.grant system holder tx = holder tx := by
  cases writer with
  | commit =>
      simp only [Label.grant, running]
      split
      · exact Function.update_of_ne elsewhere _ _
      · rfl
  | raise =>
      simp only [Label.grant, running]
      split
      · exact Function.update_of_ne elsewhere _ _
      · rfl

theorem begins_idle (acting : driver.phase.acting = false) (idle : driver.phase ≠ .begin false) :
    driver.begins db lease now = none := by
  unfold Driver.begins
  split
  · rename_i again phase
    cases again with
    | false => exact absurd phase idle
    | true =>
        rw [phase] at acting
        contradiction
  · rfl

/-- The claimed rows that a driver has yet to come to are not its transaction's. -/
theorem Tenure.rowsStep (tenure : Tenure system holder) (writer : Writer label id lease now)
    (running : system.drivers.lookup id = some driver)
    (writes : Writes driver system.checkout lease now db) (row : StuckRow)
    (member : row ∈ driver.remaining) : HolderRow db (label.grant system holder) id row := by
  have current := (tenure.holds id driver running).rows row member
  intro granted
  by_cases own : row.transactionId = driver.tx
  · cases acting : driver.phase.acting with
    | true =>
        have distinct := tenure.distinct id driver running
        rw [covered_of_acting acting, List.nodup_cons] at distinct
        exact absurd (List.mem_map.mpr ⟨row, member, own⟩) distinct.1
    | false =>
        by_cases begins : driver.phase = .begin false
        · rw [tenure.calls id driver running begins] at member
          contradiction
        · rw [grant_keeps writer running (begins_idle acting begins)] at granted
          rcases writes_admits writes with rfl | acts | ⟨again, _⟩
          · exact current granted
          · simp [acting] at acts
          · exact absurd again begins
  · rw [grant_elsewhere writer running own] at granted
    exact (current granted).same (.of_eq (writes_other writes own))

/-- After its own step too, a driver that holds its transaction knows the attempt. -/
theorem Tenure.live (tenure : Tenure system holder) (writer : Writer label id lease now)
    (running : system.drivers.lookup id = some driver) {phase : Phase} {epoch : Nat}
    (isPhase : driver.phase = phase) (acts : phase.epoch = some epoch)
    (granted : label.grant system holder driver.tx = some id) :
    LiveAt system.checkout driver.tx epoch phase.expects := by
  subst isPhase
  rw [grant_keeps writer running (begins_of_epoch acts)] at granted
  exact (tenure.holds id driver running).phase granted epoch acts

theorem markCompensating_live {epoch : Nat} {reason : Option String}
    (live : LiveAt db tx epoch (· ≠ .aborted)) :
    LiveAt (Checkout.markCompensating db tx epoch reason now) tx epoch
      (fun state => state = .compensating ∨ state = .completed) := by
  obtain ⟨record, found, current, notAborted⟩ := live
  rcases setCompletionState_cases db tx .compensating reason now with
    ⟨same, closed⟩ | ⟨old, new, foundOld, _, foundNew, sameEpoch, state⟩
  · refine ⟨record, same.trans found, current, ?_⟩
    have terminal := closed record found
    cases isState : record.state <;> simp_all [CompletionState.terminal]
  · cases found.symm.trans foundOld
    exact ⟨new, foundNew, sameEpoch.trans current, .inl state⟩

theorem Tenure.goesStep (tenure : Tenure system holder)
    (writer : Writer label id lease now) (running : system.drivers.lookup id = some driver)
    (writes : Writes driver system.checkout lease now db) {next : Driver} {asked : List Request}
    (goes : Goes driver system.checkout lease now db next asked) :
    next.Obeys (HolderKnows db (label.grant system holder) id)
      (HolderRow db (label.grant system holder) id) := by
  have rows := tenure.rowsStep writer running writes
  cases goes with
  | leaves exit =>
      refine leave_obeys rows exit (fun _ => knows_of_none rfl) ?_
      exact fun row _ current granted => recover_knows (current granted)
  | owesRollback phase began =>
      obtain ⟨record, found, epoch, compensating⟩ := compensating_lookup began
      refine ⟨fun _ => knows_of_epoch rfl ⟨record, found, epoch, ?_⟩, rows⟩
      show record.state ≠ .aborted
      rw [compensating]
      decide
  | started phase began =>
      obtain ⟨_, ⟨record, found, epoch, reserving⟩, _⟩ := started_lookup began
      exact ⟨fun _ => knows_of_epoch rfl ⟨record, found, epoch, .inl reserving⟩, rows⟩
  | @tookOver again record phase began =>
      have live := takeOver_live (tenure.coupled driver.tx) began
      exact ⟨fun _ => knows_of_epoch rfl live, rows⟩
  | @reserved begun phase =>
      refine ⟨fun granted => knows_of_epoch rfl ?_, rows⟩
      have live : LiveAt system.checkout driver.tx begun.epoch Reserving :=
        tenure.live writer running phase rfl granted
      exact setCompletionState_live (live.imp reserving_unfinished)
  | @foundClosed begun closed phase found =>
      refine ⟨fun granted => ?_, rows⟩
      have live : LiveAt system.checkout driver.tx begun.epoch Reserved :=
        tenure.live writer running phase rfl granted
      exact absurd found (finalize_live (tenure.coupled driver.tx) (live.imp reserved_unfinished))
  | @compensated acting reason next phase =>
      refine ⟨fun granted => knows_of_epoch rfl ?_, rows⟩
      have live : LiveAt system.checkout driver.tx acting (· ≠ .aborted) :=
        tenure.live writer running phase rfl granted
      exact markCompensating_live live
  | beginsAgain phase => exact ⟨fun _ => knows_of_none rfl, rows⟩

/-- A call back from a raising `finalize` finds its attempt where it left it, or COMPLETED. -/
theorem raised_live {begun : Begun} (coupled : ∀ tx, Coupled (system.checkout.transactions.lookup tx)
      (system.checkout.completions.lookup tx))
    (phase : driver.phase = .finalize begun)
    (writes : Writes driver system.checkout lease now db)
    (live : LiveAt system.checkout driver.tx begun.epoch Reserved) :
    LiveAt db driver.tx begun.epoch (· ≠ .aborted) := by
  obtain ⟨record, found, current, reserved⟩ := live
  have turns := turns_writes coupled writes driver.tx
  rw [found] at turns
  generalize written : db.completions.lookup driver.tx = new at turns
  cases turns with
  | keeps same spared =>
      have notAborted : LiveAt system.checkout driver.tx begun.epoch (· ≠ .aborted) := by
        refine ⟨record, found, current, ?_⟩
        rw [reserved]
        decide
      apply notAborted.same
      rw [found, written]
      exact same
  | finalizes acts unfinished epoch state =>
      refine ⟨_, written, epoch.trans current, ?_⟩
      rw [state]
      decide
  | starts again _ _ _ => simp [phase] at again
  | reserves again _ _ _ => simp [phase] at again
  | compensates again _ _ _ => simp [phase] at again
  | reopens again _ _ _ => simp [phase] at again

theorem Tenure.raisedStep (tenure : Tenure system holder) (writer : Writer label id lease now)
    (running : system.drivers.lookup id = some driver)
    (writes : Writes driver system.checkout lease now db) {next : Driver} {error : String}
    (raised : driver.raised error = some next) :
    next.Obeys (HolderKnows db (label.grant system holder) id)
      (HolderRow db (label.grant system holder) id) := by
  have rows := tenure.rowsStep writer running writes
  rcases raised_cases raised with rfl | ⟨begun, reason, exit, phase, rfl⟩
  · refine leave_obeys rows .raised (fun _ => knows_of_none rfl) ?_
    exact fun row _ current granted => recover_knows (current granted)
  · refine ⟨fun granted => knows_of_epoch rfl ?_, rows⟩
    have live : LiveAt system.checkout driver.tx begun.epoch Reserved :=
      tenure.live writer running phase rfl granted
    have kept : LiveAt db driver.tx begun.epoch (· ≠ .aborted) :=
      raised_live tenure.coupled phase writes live
    exact kept

theorem not_aborted_of_reserving (state : CompletionState) (reserving : Reserving state) :
    state ≠ .aborted := by
  rcases reserving with rfl | rfl
  · decide
  · decide

/-! Steps that leave Checkout's database as it is: -/

theorem raised_knows {next : Driver} {error : String}
    (holds : driver.Obeys (HolderKnows db holder id) (HolderRow db holder id))
    (raised : driver.raised error = some next) :
    next.Obeys (HolderKnows db holder id) (HolderRow db holder id) := by
  rcases raised_cases raised with rfl | ⟨begun, reason, exit, phase, rfl⟩
  · refine leave_obeys holds.rows .raised (fun _ => knows_of_none rfl) ?_
    exact fun row _ current granted => recover_knows (current granted)
  · refine holds.goto (fun granted => knows_of_epoch rfl ?_)
    have live : LiveAt db driver.tx begun.epoch driver.phase.expects :=
      holds.phase granted _ (by rw [phase]; rfl)
    rw [phase] at live
    exact live.imp (fun state reserved => not_aborted_of_reserving state (.inr reserved))

/-- An attempt whose reservation was turned down was never RESERVED. -/
theorem Tenure.not_reserved (tenure : Tenure system holder) {epoch : Nat}
    (live : LiveAt system.checkout tx epoch Reserving)
    (undone : Undone system.inventory ⟨tx, epoch⟩) :
    LiveAt system.checkout tx epoch (fun state => state ≠ .reserved ∧ state ≠ .aborted) := by
  obtain ⟨record, found, rfl, reserving⟩ := live
  refine ⟨record, found, rfl, ?_, ?_⟩
  · intro reserved
    have unasked : .stockReleaseRequested ⟨tx, record.epoch⟩ ∉ system.completions := by
      intro onTopic
      rcases tenure.topic _ onTopic with queued | asked
      · exact tenure.unreleased tx record found reserving queued
      · obtain ⟨_, _, _, reservation⟩ := tenure.asked _ asked
        cases reservation
    obtain ⟨lines, applied⟩ :=
      applied_of_taken (tenure.taken tx record found reserved) (tenure.records _) unasked
    exact not_undone_of_applied applied undone
  · exact not_aborted_of_reserving record.state reserving

theorem Tenure.received (tenure : Tenure system holder)
    (running : system.drivers.lookup id = some driver) {next : Driver} {outcome : Outcome}
    (onTopic : outcome ∈ system.stock) (received : driver.receive outcome = some next) :
    next.Obeys (HolderKnows system.checkout holder id) (HolderRow system.checkout holder id) := by
  have holds := tenure.holds id driver running
  have honours := tenure.outcomes outcome (tenure.stock outcome onTopic)
  rcases receive_cases received with
    ⟨begun, replayed, phase, _, rfl⟩ | ⟨begun, exit, phase, refusal, rfl⟩ |
    ⟨epoch, exit, units, already, phase, _, rfl⟩
  · refine holds.goto (fun granted => knows_of_epoch rfl ?_)
    have live := holds.phase granted begun.epoch (by rw [phase]; rfl)
    rwa [phase] at live
  · refine holds.goto (fun granted => knows_of_epoch rfl ?_)
    have live := holds.phase granted begun.epoch (by rw [phase]; rfl)
    rw [phase] at live
    apply tenure.not_reserved live
    rcases refusal with ⟨short, rfl⟩ | rfl
    · exact honours
    · exact .inr honours
  · refine holds.goto (fun granted => knows_of_epoch rfl ?_)
    have live := holds.phase granted epoch (by rw [phase]; rfl)
    rw [phase] at live
    apply live.imp
    intro state expects
    rcases expects with rfl | rfl
    · exact ⟨by decide, by decide⟩
    · exact ⟨by decide, by decide⟩

theorem timedOut_knows {next : Driver}
    (holds : driver.Obeys (HolderKnows db holder id) (HolderRow db holder id))
    (timedOut : driver.timeOut = some next) :
    next.Obeys (HolderKnows db holder id) (HolderRow db holder id) := by
  rcases timeOut_cases timedOut with ⟨begun, reason, exit, phase, rfl⟩ | ⟨exit, rfl⟩
  · refine holds.goto (fun granted => knows_of_epoch rfl ?_)
    have live := holds.phase granted begun.epoch (by rw [phase]; rfl)
    rw [phase] at live
    exact live.imp not_aborted_of_reserving
  · refine leave_obeys holds.rows exit (fun _ => knows_of_none rfl) ?_
    exact fun row _ current granted => recover_knows (current granted)

/-- No driver comes to cover a transaction twice, and a new call covers no rows. -/
theorem Tenure.coversStep (tenure : Tenure system holder)
    (does : Does threshold system label after) (id : DriverId) (driver : Driver)
    (found : after.drivers.lookup id = some driver) :
    driver.covered.Nodup ∧ (driver.phase = .begin false → driver.remaining = []) := by
  have covers := fun old running =>
    And.intro (tenure.distinct id old running) (tenure.calls id old running)
  have shrinks : ∀ {old next : Driver}, system.drivers.lookup id = some old →
      next.covered.Sublist old.covered ∧ next.phase ≠ .begin false →
      next.covered.Nodup ∧ (next.phase = .begin false → next.remaining = []) := by
    intro old next running narrower
    exact ⟨(covers old running).1.sublist narrower.1, fun begins => absurd begins narrower.2⟩
  cases does with
  | calls free =>
      rcases setDriver_found found with ⟨rfl, same⟩ | before
      · cases same
        exact ⟨List.nodup_nil, fun _ => rfl⟩
      · exact covers driver before
  | claims free done =>
      rw [setDriver_drivers] at found
      split at found
      · obtain ⟨sublist, notCall⟩ := firstRow_covers done found
        have nodup := (claimStuck_eq system.checkout _ done).1
        exact ⟨nodup.sublist sublist, fun begins => absurd begins notCall⟩
      · exact covers driver found
  | commits running writes goes =>
      rcases setDriver_found found with ⟨rfl, same⟩ | before
      · cases same
        obtain ⟨acts, sublist | ⟨begins, _, grows⟩⟩ := goes_covers goes
        · exact shrinks running ⟨sublist, acts⟩
        · rw [tenure.calls _ _ running begins, List.map_nil] at grows
          exact ⟨(List.nodup_singleton _).sublist grows, fun again => absurd again acts⟩
      · exact covers driver before
  | raisesAfterCommit running raised writes =>
      rcases setDriver_found found with ⟨rfl, same⟩ | before
      · cases same
        exact shrinks running (raised_covers raised)
      · exact covers driver before
  | raises running raised =>
      rcases setDriver_found found with ⟨rfl, same⟩ | before
      · cases same
        exact shrinks running (raised_covers raised)
      · exact covers driver before
  | receives running onTopic received =>
      rcases setDriver_found found with ⟨rfl, same⟩ | before
      · cases same
        exact shrinks running (received_covers received)
      · exact covers driver before
  | timesOut running timedOut =>
      rcases setDriver_found found with ⟨rfl, same⟩ | before
      · cases same
        exact shrinks running (timedOut_covers timedOut)
      · exact covers driver before
  | crashes =>
      rw [setDriver_drivers] at found
      split at found
      · contradiction
      · exact covers driver found
  | _ => exact covers driver found

/-- The driver that takes the step knows what it holds. -/
theorem Tenure.ownStep (tenure : Tenure system holder) (does : Does threshold system label after)
    (own : label.driver = some id) (found : after.drivers.lookup id = some driver) :
    driver.Obeys (HolderKnows after.checkout (label.grant system holder) id)
      (HolderRow after.checkout (label.grant system holder) id) := by
  cases does with
  | calls free =>
      cases own
      cases found.symm.trans (setDriver_self _ _ _)
      exact ⟨fun _ => knows_of_none rfl, fun _ member => by contradiction⟩
  | claims free done =>
      cases own
      rw [setDriver_drivers, if_pos rfl] at found
      refine firstRow_obeys found (fun row member _ => ?_)
        (fun row _ current granted => recover_knows (current granted))
      obtain ⟨_, record, foundRecord, epoch, state, live⟩ := claimed_lookup done member
      have before : LiveAt system.checkout row.transactionId row.epoch (· = row.state) :=
        ⟨record, foundRecord, epoch, state⟩
      exact ⟨before.same ((rests_claimStuck done).same _), state ▸ live⟩
  | commits running writes goes =>
      cases own
      cases found.symm.trans (setDriver_self _ _ _)
      exact tenure.goesStep (.commit _ _ _) running writes goes
  | raisesAfterCommit running raised writes =>
      cases own
      cases found.symm.trans (setDriver_self _ _ _)
      exact tenure.raisedStep (.raise _ _ _ _) running writes raised
  | raises running raised =>
      cases own
      cases found.symm.trans (setDriver_self _ _ _)
      exact raised_knows (tenure.holds _ _ running) raised
  | receives running onTopic received =>
      cases own
      cases found.symm.trans (setDriver_self _ _ _)
      exact tenure.received running onTopic received
  | timesOut running timedOut =>
      cases own
      cases found.symm.trans (setDriver_self _ _ _)
      exact timedOut_knows (tenure.holds _ _ running) timedOut
  | crashes =>
      cases own
      rw [setDriver_drivers, if_pos rfl] at found
      contradiction
  | _ => contradiction

/-- Step lemma: where the holder alone writes, the holder knows the attempt. -/
theorem Tenure.step (tenure : Tenure system holder) (held : WriterHolds system holder label)
    (does : Does threshold system label after) :
    Tenure after (label.grant system holder) where
  toSound := tenure.toSound.step does
  taken := tenure.takenStep held does
  unreleased := tenure.unreleasedStep held does
  holds := by
    intro id driver found
    by_cases own : label.driver = some id
    · exact tenure.ownStep does own found
    · rw [other_driver does own] at found
      refine (tenure.holds id driver found).imp (fun knows granted => ?_)
        (fun row _ current granted => ?_)
      · exact (knows (grant_other granted own)).same (tenure.undisturbed held does granted own)
      · exact (current (grant_other granted own)).same (tenure.undisturbed held does granted own)
  distinct id driver found := (tenure.coversStep does id driver found).1
  calls id driver found := (tenure.coversStep does id driver found).2

theorem Tenure.answerLate (tenure : Tenure system holder) {attempt : Attempt}
    (undone : Undone system.inventory attempt) (short : List Sku) :
    Tenure (system.answerLate attempt short) holder where
  toSound := tenure.toSound.answerLate undone short
  taken := tenure.taken
  unreleased := tenure.unreleased
  holds := tenure.holds
  distinct := tenure.distinct
  calls := tenure.calls

theorem Tenure.opening (levels : Table Sku Nat) :
    Tenure (Saga.opening levels) (fun _ => none) where
  toSound := .opening levels
  taken _ _ found := by contradiction
  unreleased _ _ found := by contradiction
  holds _ _ found := by contradiction
  distinct _ _ found := by contradiction
  calls _ _ found := by contradiction

theorem FencedWrite.refl (db : Checkout.Database) (tx : TxId) (epoch : Nat) :
    FencedWrite db db tx epoch where
  current changed := by
    rcases changed with different | different
    · exact absurd rfl different
    · exact absurd rfl different
  arrow old new found again different := by
    cases found.symm.trans again
    exact absurd rfl different

/-- A driver that only waits or reads changes nothing. -/
theorem writes_nothing {before : Checkout.Database} {epoch : Nat}
    (acts : driver.phase.epoch = some epoch) (reads : driver.phase.writes = false)
    (writes : Writes driver before lease now db) : db = before := by
  cases writes with
  | nothing quiet => rfl
  | started phase began => simp [phase, Phase.epoch] at acts
  | tookOver phase began => simp [phase, Phase.epoch] at acts
  | reserved phase => simp [phase, Phase.writes] at reads
  | finalized phase => simp [phase, Phase.writes] at reads
  | rolledForward phase => simp [phase, Phase.writes] at reads
  | compensated phase => simp [phase, Phase.writes] at reads
  | reopened phase => simp [phase, Phase.writes] at reads

theorem Tenure.fenced (tenure : Tenure system holder) (held : WriterHolds system holder label)
    (writer : Writer label id lease now) (running : system.drivers.lookup id = some driver)
    (writes : Writes driver system.checkout lease now db) {epoch : Nat}
    (acts : driver.phase.epoch = some epoch) :
    FencedWrite system.checkout db driver.tx epoch := by
  cases isWrite : driver.phase.writes with
  | false =>
      rw [writes_nothing acts isWrite writes]
      exact .refl _ _ _
  | true =>
      refine ⟨fun changed => ?_, fun old new found written different => ?_⟩
      · by_cases closed : ∀ record, system.checkout.completions.lookup driver.tx = some record →
            record.state.terminal = true
        · obtain ⟨sameRow, sameRecord⟩ := rows_closed tenure.coupled closed writes isWrite
          rcases changed with different | different
          · exact absurd sameRow different
          · exact absurd sameRecord different
        · push Not at closed
          obtain ⟨record, found, live⟩ := closed
          have knows := tenure.knows held writer running isWrite found (by simpa using live)
          rw [found, Option.map_some, ← knows.1, acts]
      · cases tenure.shift held writer running isWrite
          (turns_writes tenure.coupled writes driver.tx) with
        | keeps same =>
            obtain ⟨again, foundAgain, _, state⟩ := sameState_some same written
            cases found.symm.trans foundAgain
            exact absurd state.symm different
        | shifts foundOld foundNew epoch arrow =>
            cases found.symm.trans foundOld
            cases written.symm.trans foundNew
            exact arrow

theorem does_writes (writer : Writer label id lease now)
    (does : Does threshold system label after) :
    ∃ driver, system.drivers.lookup id = some driver ∧
      Writes driver system.checkout lease now after.checkout := by
  cases writer with
  | commit =>
      cases does with
      | commits running writes goes => exact ⟨_, running, writes⟩
  | raise =>
      cases does with
      | raisesAfterCommit running raised writes => exact ⟨_, running, writes⟩

theorem writer_of_label (isWriter : label.writer = some id) :
    ∃ lease now, Writer label id lease now := by
  unfold Label.writer at isWriter
  split at isWriter
  · cases isWriter
    exact ⟨_, _, .commit _ _ _⟩
  · cases isWriter
    exact ⟨_, _, .raise _ _ _ _⟩
  · contradiction

/-- The attempt is being rolled back, has been, or is past. -/
def GivenUp (db : Checkout.Database) (tx : TxId) (epoch : Nat) : Prop :=
  ∃ record, db.completions.lookup tx = some record ∧ epoch ≤ record.epoch ∧
    (record.epoch = epoch → record.state = .compensating ∨ record.state = .aborted)

theorem GivenUp.same {before : Checkout.Database} {epoch : Nat}
    (same : SameState (before.completions.lookup tx) (db.completions.lookup tx))
    (givenUp : GivenUp before tx epoch) : GivenUp db tx epoch := by
  obtain ⟨record, found, reached, state⟩ := givenUp
  rw [SameState, found, Option.map_some] at same
  obtain ⟨new, foundNew, both⟩ := Option.map_eq_some_iff.mp same
  rw [Prod.mk.injEq] at both
  exact ⟨new, foundNew, by rwa [both.1], by rwa [both.1, both.2]⟩

/-- No arrow leads out of a rollback. -/
theorem Arrow.aborts {old new : CompletionState} (arrow : Arrow old new)
    (givenUp : old = .compensating ∨ old = .aborted) : new = .aborted := by
  cases arrow <;> simp at givenUp ⊢

theorem Turns.idle {before after : Option Completion} (turns : Turns driver tx before after)
    (idle : driver.phase.writes = false) :
    SameState before after ∨ ∃ new, after = some new ∧ new.epoch = nextEpoch before := by
  cases turns with
  | keeps same spared => exact .inl same
  | starts phase closed epoch state => exact .inr ⟨_, rfl, epoch⟩
  | reserves phase live epoch state => simp [phase, Phase.writes] at idle
  | @finalizes acting old new phase live epoch state =>
      cases isPhase : driver.phase <;> simp [isPhase, Phase.finalizing, Phase.writes] at phase idle
  | compensates phase live epoch state => simp [phase, Phase.writes] at idle
  | reopens phase live epoch state => simp [phase, Phase.writes] at idle

theorem GivenUp.step {epoch : Nat} (givenUp : GivenUp system.checkout tx epoch)
    (tenure : Tenure system holder) (held : WriterHolds system holder label)
    (does : Does threshold system label after) : GivenUp after.checkout tx epoch := by
  rcases step_written does with rests | ⟨id, driver, lease, now, writer, running, writes⟩
  · exact givenUp.same (rests.same tx)
  · by_cases own : tx = driver.tx
    · subst own
      have turns := turns_writes tenure.coupled writes driver.tx
      cases acts : driver.phase.writes with
      | false =>
          rcases turns.idle acts with same | ⟨new, started, next⟩
          · exact givenUp.same same
          · obtain ⟨record, found, reached, _⟩ := givenUp
            rw [found, nextEpoch] at next
            refine ⟨new, started, by omega, fun current => ?_⟩
            omega
      | true =>
          cases tenure.shift held writer running acts turns with
          | keeps same => exact givenUp.same same
          | shifts foundOld foundNew sameEpoch arrow =>
              obtain ⟨record, found, reached, state⟩ := givenUp
              cases found.symm.trans foundOld
              refine ⟨_, foundNew, by rwa [sameEpoch], fun current => ?_⟩
              exact .inr (arrow.aborts (state (sameEpoch.symm.trans current)))
    · exact givenUp.same (.of_eq (writes_other writes own))

end Step

section Run

variable {threshold : Int} {contest next : Contest} {move : Move}

structure Contested (contest : Contest) : Prop where
  tenure : Tenure contest.system contest.holder
  reads : ∀ tx reading, contest.reading tx = some reading → Reads contest.system tx reading

/-- A permitted move leaves the rows alone, or is a permitted step of the system. -/
theorem Contested.follows (contested : Contested contest) (held : Held contest move)
    (taken : contest.step threshold move = some next) :
    (Tenure next.system next.holder ∧ next.system.checkout = contest.system.checkout) ∨
    ∃ label, WriterHolds contest.system contest.holder label ∧
      Does threshold contest.system label next.system ∧
      next.holder = label.grant contest.system contest.holder := by
  obtain ⟨writesBack, undone, holds⟩ := held
  rcases move_follows contested.tenure.toSound contested.reads writesBack taken with
    ⟨sameSystem, sameHolder⟩ | ⟨attempt, short, rfl, late, sameHolder⟩ |
      ⟨label, comes, stepped, granted⟩
  · rw [sameSystem, sameHolder]
    exact .inl ⟨contested.tenure, rfl⟩
  · rw [late, sameHolder]
    exact .inl ⟨contested.tenure.answerLate undone short, rfl⟩
  · exact .inr ⟨label, holds label comes, step_does stepped, granted⟩

theorem Contested.step (contested : Contested contest) (held : Held contest move)
    (taken : contest.step threshold move = some next) : Contested next where
  tenure := by
    rcases contested.follows held taken with ⟨tenure, _⟩ | ⟨label, holds, does, granted⟩
    · exact tenure
    · rw [granted]
      exact contested.tenure.step holds does
  reads := reads_step contested.tenure.toSound contested.reads taken

theorem contested_of_run {levels : Table Sku Nat} {moves : List Move}
    (run : Run (Contest.step threshold) Held (contestOpening levels) moves contest) :
    Contested contest :=
  run.invariant ⟨.opening levels, fun _ _ found => by contradiction⟩
    (fun _ _ _ contested held taken => contested.step held taken)

/-- A take-over that writes back what is still there changes no state. -/
theorem takeOver_fenced (contested : Contested contest) {tx : TxId} {reading : Reading}
    (found : contest.reading tx = some reading)
    (current : contest.system.checkout.completions.lookup tx = some reading.record) :
    FencedWrite contest.system.checkout
      (takeOver contest.system.checkout tx reading.record reading.now) tx
      reading.record.epoch where
  current _ := by rw [current, Option.map_some]
  arrow old new foundOld foundNew different := by
    have reads := contested.reads tx reading found
    obtain ⟨driver, _, _, rfl, _⟩ := reads.running
    have same := takeOver_same (reads.takingOver contested.tenure.toSound current) driver.tx
    obtain ⟨again, foundAgain, _, state⟩ := sameState_some same foundNew
    cases foundOld.symm.trans foundAgain
    exact absurd state.symm different

theorem Contested.fenced (contested : Contested contest) (held : Held contest move)
    (taken : contest.step threshold move = some next) {tx : TxId} {epoch : Nat}
    (writesFor : move.writesFor contest = some (tx, epoch)) :
    FencedWrite contest.system.checkout next.system.checkout tx epoch := by
  cases step_moved taken with
  | @acts label after enabled stepped =>
      simp only [Move.writesFor, Option.bind_eq_some_iff, Option.map_eq_some_iff] at writesFor
      obtain ⟨id, isWriter, driver, running, epoch, acts, same⟩ := writesFor
      cases same
      obtain ⟨lease, now, writer⟩ := writer_of_label isWriter
      obtain ⟨again, runningAgain, writes⟩ := does_writes writer (step_does stepped)
      cases running.symm.trans runningAgain
      exact contested.tenure.fenced (held.2.2 label rfl) writer running writes acts
  | @writesBack other reading driver found running =>
      simp only [Move.writesFor, found, Option.map_some] at writesFor
      cases writesFor
      exact takeOver_fenced contested found (held.1 reading found)
  | @raises other error reading driver found running =>
      simp only [Move.writesFor, found, Option.map_some] at writesFor
      cases writesFor
      exact takeOver_fenced contested found (held.1 reading found)
  | reads running free began => contradiction
  | drops found running => contradiction
  | answersLate recorded => contradiction

/-- A contest in which an attempt was given up. -/
structure RollsBack (tx : TxId) (epoch : Nat) (contest : Contest) : Prop extends
    Contested contest where
  givenUp : GivenUp contest.system.checkout tx epoch

theorem RollsBack.step {tx : TxId} {epoch : Nat} (rolls : RollsBack tx epoch contest)
    (held : Held contest move) (taken : contest.step threshold move = some next) :
    RollsBack tx epoch next where
  toContested := rolls.toContested.step held taken
  givenUp := by
    rcases rolls.follows held taken with ⟨_, same⟩ | ⟨label, permitted, does, _⟩
    · rw [same]
      exact rolls.givenUp
    · exact rolls.givenUp.step rolls.tenure permitted does

/-- In every run in which a live attempt is written only by the driver that was let in
to it last, a take-over writes back over the record it read, and no attempt that holds
stock is refused late: every write hits the epoch it acts for, follows the diagram, and
takes no attempt out of its rollback. -/
theorem drivers_fenced (threshold : Int) (levels : Table Sku Nat) (moves : List Move)
    (contest : Contest)
    (run : Run (Contest.step threshold) Held (contestOpening levels) moves contest) :
    DriversFenced threshold levels moves where
  writes past move before after tx epoch isPrefix reached taken writesFor := by
    obtain ⟨ran, held, _⟩ := run.through isPrefix reached taken rfl
    exact (contested_of_run ran).fenced held taken writesFor
  givenUp past more before after tx old new isPrefix reached later found compensating foundNew
      sameEpoch := by
    obtain ⟨ran, further⟩ := run.between isPrefix reached later
    have begun : RollsBack tx old.epoch before :=
      ⟨contested_of_run ran, old, found, le_refl _, fun _ => .inl compensating⟩
    have rolls : RollsBack tx old.epoch after :=
      further.invariant begun (fun _ _ _ rolls held taken => rolls.step held taken)
    obtain ⟨record, foundRecord, _, state⟩ := rolls.givenUp
    cases foundNew.symm.trans foundRecord
    exact state sameEpoch

end Run

/-- A call starts an attempt and dies; another takes it over and completes it. -/
def takenOver : List Move :=
  let request := Request.stockReservationRequested ⟨1, 1⟩ [("SKU-000001", 1)]
  let reserved := Outcome.stockReserved ⟨1, 1⟩ false
  [.act (.insertTransaction 1 0), .act (.scanItem 1 "SKU-000001" 250), .act (.complete 0 1),
    .act (.commit 0 60 10), .act (.crash 0), .act (.complete 1 1), .read 1 60 100, .writeBack 1,
    .act (.publish request), .act (.handle request), .act (.publishOutcome reserved),
    .act (.reply 1 reserved), .act (.commit 1 60 101), .act (.commit 1 60 102)]

theorem takenOver_runs : (takenOver.foldlM (guarded (Contest.step 5) Held)
    (contestOpening (Table.empty.put "SKU-000001" 5))).isSome = true := by
  decide +kernel

theorem drivers_fenced_takenOver :
    DriversFenced 5 (Table.empty.put "SKU-000001" 5) takenOver :=
  drivers_fenced 5 _ takenOver _ (.of_guarded (Option.some_get takenOver_runs).symm)

/-- What happens up to the call's `_set_state` in `overtaken`. -/
def rolledBackMeanwhile : List Move := (overtaken.take 10).map .act

theorem rolledBackMeanwhile_runs : (rolledBackMeanwhile.foldlM (Contest.step 5)
    (contestOpening (Table.empty.put "SKU-000001" 5))).isSome = true := by
  decide +kernel

theorem stale_call_commits : (((rolledBackMeanwhile.foldlM (Contest.step 5)
    (contestOpening (Table.empty.put "SKU-000001" 5))).get rolledBackMeanwhile_runs).step 5
      (.act (.commit 0 60 102))).isSome = true := by
  decide +kernel

/-- A call whose attempt is being rolled back makes it RESERVED again. -/
theorem stale_call_leaves_the_diagram :
    ¬ DriversFenced 5 (Table.empty.put "SKU-000001" 5)
      (rolledBackMeanwhile ++ [.act (.commit 0 60 102)]) := by
  intro fenced
  have before : ((rolledBackMeanwhile.foldlM (Contest.step 5) (contestOpening (Table.empty.put
      "SKU-000001" 5))).get rolledBackMeanwhile_runs).system.checkout.completions.lookup 1 =
        some ⟨1, .compensating, 250, 1, 101, some "recovered from RESERVING"⟩ := by
    decide +kernel
  have after : ((((rolledBackMeanwhile.foldlM (Contest.step 5) (contestOpening (Table.empty.put
      "SKU-000001" 5))).get rolledBackMeanwhile_runs).step 5 (.act (.commit 0 60 102))).get
        stale_call_commits).system.checkout.completions.lookup 1 =
          some ⟨1, .reserved, 250, 1, 102, some "recovered from RESERVING"⟩ := by
    decide +kernel
  have written := fenced.writes rolledBackMeanwhile (.act (.commit 0 60 102)) _ _ 1 1
    List.prefix_rfl (Option.some_get rolledBackMeanwhile_runs).symm
    (Option.some_get stale_call_commits).symm (by decide +kernel)
  have arrow := written.arrow _ _ before after (by decide)
  cases arrow

end SelfCheckout.Saga
