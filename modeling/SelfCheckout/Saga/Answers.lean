import SelfCheckout.Saga.Overlap

namespace SelfCheckout.Saga

open SelfCheckout.Data SelfCheckout.Checkout

/-! # What a call answers

A receipt says that the transaction is COMPLETED.  A refusal of an attempt says that
this attempt never will be, and a refusal before the saga says that nothing happened.
-/

/-- A call's 409 TRANSACTION_NOT_OPEN or EMPTY_BASKET. -/
def Exit.preSaga : Exit → Bool
  | .refused (.apiError error) =>
      error.httpStatus = 409 && (error.code = "TRANSACTION_NOT_OPEN" || error.code = "EMPTY_BASKET")
  | .refused (.upstreamUnavailable _ _) => false
  | .receipt _ => false
  | .raised => false
  | .settled => false

/-- The driver that makes a move. -/
def Move.driver (contest : Contest) : Move → Option DriverId
  | .act label => label.driver
  | .read id _ _ => some id
  | .writeBack tx => (contest.reading tx).map Reading.id
  | .writeBackRaises tx _ => (contest.reading tx).map Reading.id
  | .drop tx _ => (contest.reading tx).map Reading.id
  | .answerLate _ _ => none

/-- None of the driver's moves changed anything but where the driver is. -/
def Quiet (threshold : Int) (id : DriverId) (start : Contest) (moves : List Move) : Prop :=
  ∀ earlier move later before after, moves = earlier ++ move :: later →
    earlier.foldlM (Contest.step threshold) start = some before →
    before.step threshold move = some after → move.driver before = some id →
    after.system = { before.system with drivers := after.system.drivers }

structure AnswersTruthfully (threshold : Int) (levels : Table Sku Nat) (moves : List Move) :
    Prop where
  receipt : ∀ past more before after id driver receipt, past ++ more <+: moves →
    past.foldlM (Contest.step threshold) (contestOpening levels) = some before →
    more.foldlM (Contest.step threshold) before = some after →
    before.system.drivers.lookup id = some driver → driver.phase = .left (.receipt receipt) →
    statusOf after.system.checkout driver.tx = some .completed
  refusal : ∀ past move more before middle after id driver epoch next refusal,
    past ++ move :: more <+: moves →
    past.foldlM (Contest.step threshold) (contestOpening levels) = some before →
    before.step threshold move = some middle →
    more.foldlM (Contest.step threshold) middle = some after →
    before.system.drivers.lookup id = some driver → driver.phase.epoch = some epoch →
    middle.system.drivers.lookup id = some next → next.phase = .left (.refused refusal) →
    ¬ CompletedAt after.system.checkout driver.tx epoch
  unchanged : ∀ past id tx more before started after driver exit,
    past ++ .act (.complete id tx) :: more <+: moves →
    past.foldlM (Contest.step threshold) (contestOpening levels) = some before →
    before.step threshold (.act (.complete id tx)) = some started →
    more.foldlM (Contest.step threshold) started = some after → .act (.crash id) ∉ more →
    after.system.drivers.lookup id = some driver → driver.phase = .left exit →
    exit.preSaga = true → Quiet threshold id started more

/-- A call that comes back to `_begin` from a rollback can start, take over or go on. -/
def ComesBack (db : Checkout.Database) (tx : TxId) (lease : Nat) (now : Time) : Prop :=
  statusOf db tx = some .opened ∨ statusOf db tx = some .completing ∧
    ∀ record ∈ db.completions.lookup tx, record.state ≠ .compensating →
      record.fresh lease now = false

instance (db : Checkout.Database) (tx : TxId) (lease : Nat) (now : Time) :
    Decidable (ComesBack db tx lease now) :=
  inferInstanceAs (Decidable (_ ∨ _ ∧ ∀ _ ∈ _, _ → _))

/-- The driver of a commit, the lease it reads and its `now()`. -/
def Label.committed : Label → Option (DriverId × Nat × Time)
  | .commit id lease now => some (id, lease, now)
  | _ => none

/-- What a call finds that comes back to `_begin`. -/
def ReturnsToBegin (contest : Contest) (move : Move) : Prop :=
  ∀ label ∈ move.acted, ∀ commit ∈ label.committed,
    ∀ driver ∈ contest.system.drivers.lookup commit.1, driver.phase = .begin true →
      ComesBack contest.system.checkout driver.tx commit.2.1 commit.2.2

instance (contest : Contest) (move : Move) : Decidable (ReturnsToBegin contest move) :=
  inferInstanceAs (Decidable (∀ _ ∈ _, ∀ _ ∈ _, ∀ _ ∈ _, _ → _))

def Undisputed (contest : Contest) (move : Move) : Prop :=
  KeepsSales contest move ∧ ReturnsToBegin contest move

instance (contest : Contest) (move : Move) : Decidable (Undisputed contest move) :=
  inferInstanceAs (Decidable (_ ∧ _))

/-- The attempt was given up, or a later one has started. -/
def Ended (db : Checkout.Database) (tx : TxId) (epoch : Nat) : Prop :=
  ∃ record, db.completions.lookup tx = some record ∧ epoch ≤ record.epoch ∧
    (record.epoch = epoch → record.state = .aborted)

/-- The attempt will not be completed. -/
def Lost (system : System) (tx : TxId) (epoch : Nat) : Prop :=
  Ended system.checkout tx epoch ∨ Accounted system ⟨tx, epoch⟩

section Ended

variable {db : Checkout.Database} {before after : System} {tx : TxId} {epoch : Nat}

/-- An aborted attempt is left alone until the next one starts. -/
theorem moves_aborted {row row' : Option Transaction} {old : Completion} {record' : Option Completion}
    (coupled : Coupled row (some old)) (aborted : old.state = .aborted)
    (moves : Moves true row (some old) row' record') :
    record' = some old ∨ ∃ new, record' = some new ∧ new.epoch = old.epoch + 1 := by
  have idle := coupled.idle (by
    intro record same
    cases same
    rw [aborted]
    rfl)
  cases moves with
  | same => exact .inl rfl
  | inserted => exact .inl rfl
  | scanned => exact .inl rfl
  | cancelled => exact .inl rfl
  | started transaction _ after wasOpen epoch state => exact .inr ⟨after, rfl, epoch⟩
  | driven _ live after wasLive stillLive epoch total =>
      rw [aborted] at wasLive
      contradiction
  | finalized transaction _ totalCents now wasCompleting =>
      exact absurd wasCompleting (idle transaction rfl)
  | reopened transaction _ now wasCompleting =>
      exact absurd wasCompleting (idle transaction rfl)

theorem Ended.advances {later : Checkout.Database}
    (coupled : Coupled (db.transactions.lookup tx) (db.completions.lookup tx))
    (advances : Advances db later) (ended : Ended db tx epoch) : Ended later tx epoch := by
  obtain ⟨old, found, reached, aborted⟩ := ended
  obtain ⟨new, foundNew, grows⟩ := epoch_le_of_moves (advances.moves tx) found
  refine ⟨new, foundNew, le_trans reached grows, fun current => ?_⟩
  have same : old.epoch = epoch := le_antisymm (current ▸ grows) reached
  have moves := advances.moves tx
  rw [found] at moves coupled
  rcases moves_aborted coupled (aborted same) moves with kept | ⟨next, started, later⟩
  · cases foundNew.symm.trans kept
    exact aborted same
  · cases foundNew.symm.trans started
    omega

theorem Lost.grows (sound : Sound before) (grows : Grows before after)
    (lost : Lost before tx epoch) : Lost after tx epoch := by
  rcases lost with ended | queued | undone
  · exact .inl (ended.advances (sound.coupled tx) grows.advances)
  · exact .inr (.inl (grows.releaseQueued queued))
  · exact .inr (.inr (undone_follows (grows.follows _) undone))

/-- While sales are kept, a lost attempt is not the one that was completed. -/
theorem Lost.not_completed (lost : Lost before tx epoch) (kept : SaleKept before) :
    ¬ CompletedAt before.checkout tx epoch := by
  intro completed
  obtain ⟨record, found, rfl, state⟩ := completed.record (kept.coupled tx)
  rcases lost with ⟨again, foundAgain, _, aborted⟩ | queued | undone
  · cases found.symm.trans foundAgain
    rw [aborted rfl] at state
    contradiction
  · exact kept.unreleased tx record found state queued
  · obtain ⟨lines, applied⟩ := kept.applied completed
    exact not_undone_of_applied applied undone

end Ended

/-- How a driver's local transaction ends its call, or its work on a claimed row. -/
inductive Leaves (driver : Driver) (db : Checkout.Database) (lease : Nat) (now : Time) :
    Checkout.Database → Exit → Prop where
  | refused {again : Bool} {refusal : Refusal} (phase : driver.phase = .begin again)
      (began : beginCompletion db driver.tx lease now = .refused refusal) :
      Leaves driver db lease now db (.refused refusal)
  | stillOwed (phase : driver.phase = .begin true) :
      Leaves driver db lease now db (.refused stillRolledBack)
  | completed {begun : Begun} {completedAt : Time} {after : Checkout.Database}
      (phase : driver.phase = .finalize begun)
      (done : Checkout.finalize db driver.tx begun.totalCents now = (some completedAt, after)) :
      Leaves driver db lease now after (.receipt (begun.receipt driver.tx completedAt))
  | readStatus {begun : Begun} (phase : driver.phase = .readStatus begun) :
      Leaves driver db lease now db (statusExit db driver.tx begun)
  | rolledForward {epoch totalCents : Nat} (phase : driver.phase = .rollForward epoch totalCents) :
      Leaves driver db lease now (Checkout.finalize db driver.tx totalCents now).2 .settled
  | reopened {epoch : Nat} {exit : Exit} (phase : driver.phase = .reopen epoch (.leave exit)) :
      Leaves driver db lease now (Checkout.reopen db driver.tx now) exit

/-- Where it goes otherwise. -/
inductive Leads (driver : Driver) (db : Checkout.Database) (lease : Nat) (now : Time) :
    Checkout.Database → Phase → Prop where
  | owes {epoch : Nat} {reason : String} (phase : driver.phase = .begin false) :
      Leads driver db lease now db (.markCompensating epoch reason .beginAgain)
  | begins {again : Bool} {begun : Begun} {after : Checkout.Database}
      (phase : driver.phase = .begin again) : Leads driver db lease now after (.awaitReserve begun)
  | reserves {begun : Begun} {after : Checkout.Database}
      (phase : driver.phase = .setReserved begun) : Leads driver db lease now after (.finalize begun)
  | misses {begun : Begun} {after : Checkout.Database} (phase : driver.phase = .finalize begun)
      (found : Checkout.finalize db driver.tx begun.totalCents now = (none, after)) :
      Leads driver db lease now after (.readStatus begun)
  | compensates {epoch : Nat} {reason : String} {next : Next} {after : Checkout.Database}
      (phase : driver.phase = .markCompensating epoch reason next) :
      Leads driver db lease now after (.awaitRelease epoch next)
  | reopens {epoch : Nat} {after : Checkout.Database}
      (phase : driver.phase = .reopen epoch .beginAgain) :
      Leads driver db lease now after (.begin true)

section Transact

variable {driver next : Driver} {db after : Checkout.Database} {lease : Nat} {now : Time}
  {asked : List Request}

theorem transact_leaves (done : driver.transact db lease now = some (after, next, asked)) :
    (∃ exit, next = driver.leave exit ∧ Leaves driver db lease now after exit) ∨
      ∃ phase, next = driver.goto phase ∧ Leads driver db lease now after phase := by
  unfold Driver.transact at done
  split at done
  · rename_i again phase
    split at done
    · rename_i began
      cases done
      exact .inl ⟨_, rfl, .refused phase began⟩
    · cases again with
      | true =>
          cases done
          exact .inl ⟨_, rfl, .stillOwed phase⟩
      | false =>
          cases done
          exact .inr ⟨_, rfl, .owes phase⟩
    · cases done
      exact .inr ⟨_, rfl, .begins phase⟩
    · cases done
      exact .inr ⟨_, rfl, .begins phase⟩
  · rename_i phase
    cases done
    exact .inr ⟨_, rfl, .reserves phase⟩
  · rename_i begun phase
    generalize found : Checkout.finalize db driver.tx begun.totalCents now = result at done
    obtain ⟨completedAt, closed⟩ := result
    cases completedAt with
    | some completedAt =>
        cases done
        exact .inl ⟨_, rfl, .completed phase found⟩
    | none =>
        cases done
        exact .inr ⟨_, rfl, .misses phase found⟩
  · rename_i phase
    cases done
    exact .inl ⟨_, rfl, .readStatus phase⟩
  · rename_i phase
    cases done
    exact .inl ⟨_, rfl, .rolledForward phase⟩
  · rename_i phase
    cases done
    exact .inr ⟨_, rfl, .compensates phase⟩
  · rename_i epoch more phase
    cases done
    cases more with
    | beginAgain => exact .inr ⟨_, rfl, .reopens phase⟩
    | leave exit => exact .inl ⟨exit, rfl, .reopened phase⟩
  · contradiction
  · contradiction
  · contradiction

theorem Leads.onward {phase : Phase} (leads : Leads driver db lease now after phase) :
    phase ≠ .begin false ∧ ∀ exit, phase ≠ .left exit := by
  cases leads <;> simp

end Transact

/-- What a rollback leads to is no receipt and no refusal from before the saga. -/
def Next.afterRollback : Next → Prop
  | .beginAgain => True
  | .leave exit => exit.preSaga = false ∧ ∀ receipt, exit ≠ .receipt receipt

def PhaseEnds (db : Checkout.Database) (tx : TxId) : Phase → Prop
  | .begin true => ∃ record, db.completions.lookup tx = some record
  | .readStatus begun => statusOf db tx = some .completed ∨ Ended db tx begun.epoch
  | .markCompensating _ _ next => next.afterRollback
  | .awaitRelease _ next => next.afterRollback
  | .reopen _ next => next.afterRollback
  | .left (.receipt _) => statusOf db tx = some .completed
  | _ => True

def RowAny (_ : StuckRow) : Prop := True

section Ends

variable {threshold : Int} {system after : System} {driver next : Driver} {tx : TxId}

theorem statusOf_completed {db later : Checkout.Database}
    (coupled : Coupled (db.transactions.lookup tx) (db.completions.lookup tx))
    (advances : Advances db later) (completed : statusOf db tx = some .completed) :
    statusOf later tx = some .completed :=
  (Moves.advance coupled (advances.moves tx)).completed completed

theorem PhaseEnds.advances {db later : Checkout.Database}
    (coupled : Coupled (db.transactions.lookup tx) (db.completions.lookup tx))
    (advances : Advances db later) {phase : Phase} (ends : PhaseEnds db tx phase) :
    PhaseEnds later tx phase := by
  cases phase with
  | begin again =>
      cases again with
      | false => trivial
      | true =>
          obtain ⟨record, found⟩ := ends
          obtain ⟨new, foundNew, _⟩ := epoch_le_of_moves (advances.moves tx) found
          exact ⟨new, foundNew⟩
  | readStatus begun =>
      rcases ends with completed | ended
      · exact .inl (statusOf_completed coupled advances completed)
      · exact .inr (ended.advances coupled advances)
  | left exit =>
      cases exit with
      | receipt receipt => exact statusOf_completed coupled advances ends
      | _ => trivial
  | markCompensating epoch reason next => exact ends
  | awaitRelease epoch next => exact ends
  | reopen epoch next => exact ends
  | _ => trivial

theorem recover_ends (db : Checkout.Database) (row : StuckRow) :
    PhaseEnds db row.transactionId (recover row) := by
  unfold recover
  split
  · trivial
  · exact ⟨rfl, fun _ same => by cases same⟩

theorem leave_ends {db : Checkout.Database} {exit : Exit}
    (ends : PhaseEnds db driver.tx (.left exit)) :
    (driver.leave exit).Obeys (PhaseEnds db) RowAny :=
  leave_obeys (fun _ _ => trivial) exit ends (fun row _ _ => recover_ends db row)

theorem goto_ends {db : Checkout.Database} {phase : Phase} (ends : PhaseEnds db driver.tx phase) :
    (driver.goto phase).Obeys (PhaseEnds db) RowAny :=
  ⟨ends, fun _ _ => trivial⟩

theorem statusExit_ends (db : Checkout.Database) (tx : TxId) (begun : Begun) :
    PhaseEnds db tx (.left (statusExit db tx begun)) := by
  unfold statusExit
  split
  · trivial
  · rename_i row found
    split
    · rename_i completed
      split
      · show statusOf db tx = some .completed
        rw [statusOf, found, Option.map_some, completed]
      · trivial
    · trivial

/-- A finalize that finds nothing to do finds the transaction COMPLETED or the attempt over. -/
theorem finalize_missed {epoch totalCents : Nat} {now : Time} {db : Checkout.Database}
    (coupled : Coupled (db.transactions.lookup tx) (db.completions.lookup tx))
    (reached : Reached db ⟨tx, epoch⟩)
    (missed : (Checkout.finalize db tx totalCents now).1 = none) :
    statusOf db tx = some .completed ∨ Ended db tx epoch := by
  obtain ⟨_, record, found, below⟩ := reached
  simp only at found
  rw [found] at coupled
  cases live : record.state.terminal with
  | false =>
      obtain ⟨row, foundRow, isCompleting, _⟩ := coupled.of_live live
      simp [Checkout.finalize, foundRow, isCompleting] at missed
  | true =>
      cases state : record.state with
      | completed =>
          have rows := Coupled.rows (show Coupled (db.transactions.lookup tx)
            (db.completions.lookup tx) by rw [found]; exact coupled)
          exact .inl (rows.completed.mpr (by rw [stateOf, found, Option.map_some, state]))
      | aborted => exact .inr ⟨record, found, below, fun _ => state⟩
      | reserving => simp [state, CompletionState.terminal] at live
      | reserved => simp [state, CompletionState.terminal] at live
      | compensating => simp [state, CompletionState.terminal] at live

theorem finalize_completes {totalCents : Nat} {now completedAt : Time}
    {db closed : Checkout.Database}
    (done : Checkout.finalize db tx totalCents now = (some completedAt, closed)) :
    statusOf closed tx = some .completed := by
  rcases finalize_cases db tx totalCents now with missed | ⟨row, found, isCompleting, written⟩
  · rw [missed] at done
    cases done
  · rw [written] at done
    cases done
    simp [statusOf]

/-- A driver's own transaction makes good what its next phase promises. -/
theorem transact_ends (sound : Sound system) {id : DriverId}
    (running : system.drivers.lookup id = some driver)
    (ends : PhaseEnds system.checkout driver.tx driver.phase) {lease : Nat} {now : Time}
    {db : Checkout.Database} {asked : List Request}
    (done : driver.transact system.checkout lease now = some (db, next, asked)) :
    next.Obeys (PhaseEnds db) RowAny := by
  have carries := (sound.drivers id driver running).phase
  have advances := sound.advances_writes running (transact_cases done).1
  have coupled := sound.coupled driver.tx
  rcases transact_leaves done with ⟨exit, rfl, leaves⟩ | ⟨phase, rfl, leads⟩
  · refine leave_ends ?_
    cases leaves with
    | refused phase began => trivial
    | stillOwed phase => trivial
    | completed phase finalized => exact finalize_completes finalized
    | readStatus phase => exact statusExit_ends _ _ _
    | rolledForward phase => trivial
    | reopened phase =>
        rw [phase] at ends
        cases exit with
        | receipt receipt => exact absurd rfl (ends.2 receipt)
        | _ => trivial
  · refine goto_ends ?_
    cases leads with
    | owes phase => trivial
    | begins phase => trivial
    | reserves phase => trivial
    | misses phase found =>
        rw [phase] at carries
        rcases finalize_missed coupled carries.1 (congrArg Prod.fst found) with completed | ended
        · exact .inl (statusOf_completed coupled advances completed)
        · exact .inr (ended.advances coupled advances)
    | compensates phase =>
        rw [phase] at ends
        exact ends
    | reopens phase =>
        rw [phase] at carries
        obtain ⟨_, record, found, _⟩ := advances.reached carries.1
        exact ⟨record, found⟩

theorem raised_ends {db : Checkout.Database} {error : String}
    (raised : driver.raised error = some next) : next.Obeys (PhaseEnds db) RowAny := by
  unfold Driver.raised at raised
  split at raised
  · cases raised
    exact goto_ends ⟨rfl, fun _ same => by cases same⟩
  all_goals
    cases raised
    try exact leave_ends trivial

theorem received_ends {db : Checkout.Database} {outcome : Outcome}
    (ends : PhaseEnds db driver.tx driver.phase) (received : driver.receive outcome = some next) :
    next.Obeys (PhaseEnds db) RowAny := by
  unfold Driver.receive at received
  split at received
  · split at received
    · cases outcome with
      | stockReserved attempt replayed =>
          cases received
          exact goto_ends trivial
      | stockRejected attempt short =>
          cases received
          exact goto_ends ⟨rfl, fun _ same => by cases same⟩
      | reservationRefused attempt =>
          cases received
          exact goto_ends ⟨rfl, fun _ same => by cases same⟩
      | stockReleased attempt units already => contradiction
    · contradiction
  · rename_i epoch more phase
    rw [phase] at ends
    split at received
    · cases outcome with
      | stockReleased attempt units already =>
          cases received
          exact goto_ends ends
      | stockReserved attempt replayed => contradiction
      | stockRejected attempt short => contradiction
      | reservationRefused attempt => contradiction
    · contradiction
  · contradiction

theorem timedOut_ends {db : Checkout.Database} (timedOut : driver.timeOut = some next) :
    next.Obeys (PhaseEnds db) RowAny := by
  unfold Driver.timeOut at timedOut
  split at timedOut
  · cases timedOut
    exact goto_ends ⟨rfl, fun _ same => by cases same⟩
  · cases timedOut
    exact leave_ends trivial
  · contradiction

end Ends

/-- The driver of a label, Checkout's database after the step, and where the driver is then. -/
inductive Acts (system : System) (driver : Driver) : Label → Checkout.Database → Driver → Prop where
  | commits {id : DriverId} {lease : Nat} {now : Time} {db : Checkout.Database} {next : Driver}
      {asked : List Request}
      (done : driver.transact system.checkout lease now = some (db, next, asked)) :
      Acts system driver (.commit id lease now) db next
  | raisesAfterCommit {id : DriverId} {error : String} {lease : Nat} {now : Time}
      {db : Checkout.Database} {next instead : Driver} {asked : List Request}
      (raised : driver.raised error = some next)
      (done : driver.transact system.checkout lease now = some (db, instead, asked)) :
      Acts system driver (.raise id true error lease now) db next
  | raises {id : DriverId} {error : String} {lease : Nat} {now : Time} {next : Driver}
      (raised : driver.raised error = some next) :
      Acts system driver (.raise id false error lease now) system.checkout next
  | receives {id : DriverId} {outcome : Outcome} {next : Driver}
      (onTopic : outcome ∈ system.stock) (received : driver.receive outcome = some next) :
      Acts system driver (.reply id outcome) system.checkout next
  | timesOut {id : DriverId} {next : Driver} (timedOut : driver.timeOut = some next) :
      Acts system driver (.timeOut id) system.checkout next

section Step

variable {threshold : Int} {system after : System} {label : Label} {id : DriverId}
  {driver next : Driver} {db : Checkout.Database}

theorem step_acts (stepped : Saga.step threshold system label = some after)
    (own : label.driver = some id) (running : system.drivers.lookup id = some driver) :
    label = .crash id ∨
      ∃ next, after.drivers.lookup id = some next ∧ Acts system driver label after.checkout next := by
  cases label <;> simp only [Label.driver, Option.some.injEq, reduceCtorEq] at own
  all_goals
    subst own
    simp only [Saga.step, running] at stepped
  · contradiction
  · contradiction
  · obtain ⟨⟨db, next, asked⟩, done, rfl⟩ := Option.map_eq_some_iff.mp stepped
    refine .inr ⟨next, ?_, .commits done⟩
    rw [setDriver_drivers, if_pos rfl]
  · rename_i committed error lease now
    split at stepped
    · contradiction
    · rename_i next raised
      cases committed with
      | true =>
          rw [if_pos rfl] at stepped
          obtain ⟨⟨db, instead, asked⟩, done, rfl⟩ := Option.map_eq_some_iff.mp stepped
          refine .inr ⟨next, ?_, .raisesAfterCommit raised done⟩
          rw [setDriver_drivers, if_pos rfl]
      | false =>
          cases stepped
          refine .inr ⟨next, ?_, .raises raised⟩
          rw [setDriver_drivers, if_pos rfl]
  · split at stepped
    · rename_i onTopic
      obtain ⟨next, received, rfl⟩ := Option.map_eq_some_iff.mp stepped
      refine .inr ⟨next, ?_, .receives onTopic received⟩
      rw [setDriver_drivers, if_pos rfl]
    · contradiction
  · obtain ⟨next, timedOut, rfl⟩ := Option.map_eq_some_iff.mp stepped
    refine .inr ⟨next, ?_, .timesOut timedOut⟩
    rw [setDriver_drivers, if_pos rfl]
  · exact .inl rfl

theorem leave_left {exit other : Exit} (left : (driver.leave exit).phase = .left other) :
    other = exit := by
  unfold Driver.leave at left
  split at left
  · cases left
    rfl
  · cases left
    rfl
  · simp only [recover] at left
    split at left <;> contradiction

/-- A refusal rests on an attempt that is lost. -/
theorem Acts.refused (acts : Acts system driver label db next) (sound : Sound system)
    (running : system.drivers.lookup id = some driver)
    (ends : PhaseEnds system.checkout driver.tx driver.phase) {epoch : Nat} {refusal : Refusal}
    (isEpoch : driver.phase.epoch = some epoch) (left : next.phase = .left (.refused refusal)) :
    Lost system driver.tx epoch := by
  have carries := (sound.drivers id driver running).phase
  cases acts with
  | commits done =>
      rcases transact_leaves done with ⟨exit, rfl, leaves⟩ | ⟨phase, rfl, leads⟩
      · have exits := leave_left left
        cases leaves with
        | refused phase began =>
            rw [phase] at isEpoch
            contradiction
        | stillOwed phase =>
            rw [phase] at isEpoch
            contradiction
        | completed phase finalized => contradiction
        | readStatus phase =>
            rw [phase] at isEpoch ends
            cases isEpoch
            rcases ends with completed | ended
            · obtain ⟨row, found, isCompleted⟩ := Option.map_eq_some_iff.mp completed
              simp only [statusExit, found, isCompleted, ↓reduceIte] at exits
              split at exits <;> contradiction
            · exact .inl ended
        | rolledForward phase => contradiction
        | reopened phase =>
            rw [phase] at isEpoch carries
            cases isEpoch
            exact .inr (.inr carries.2)
      · exact absurd left (leads.onward.2 _)
  | raisesAfterCommit raised done =>
      rcases raised_cases raised with rfl | ⟨_, _, _, _, rfl⟩
      · cases leave_left left
      · contradiction
  | raises raised =>
      rcases raised_cases raised with rfl | ⟨_, _, _, _, rfl⟩
      · cases leave_left left
      · contradiction
  | receives onTopic received =>
      rcases receive_cases received with
        ⟨_, _, _, _, rfl⟩ | ⟨_, _, _, _, rfl⟩ | ⟨_, _, _, _, _, _, rfl⟩
      · contradiction
      · contradiction
      · contradiction
  | timesOut timedOut =>
      unfold Driver.timeOut at timedOut
      split at timedOut
      · cases timedOut
        contradiction
      · rename_i acting more phase
        rw [phase] at isEpoch carries
        cases isEpoch
        exact .inr (.inl carries.2)
      · contradiction

/-- A completion record is first written for a transaction with items. -/
theorem writes_scanned {lease : Nat} {now : Time} {later : Checkout.Database} {tx : TxId}
    {new : Completion}
    (coupled : ∀ tx, Coupled (db.transactions.lookup tx) (db.completions.lookup tx))
    (writes : Writes driver db lease now later) (found : later.completions.lookup tx = some new) :
    (∃ old, db.completions.lookup tx = some old) ∨ getBasket db tx ≠ [] := by
  have turns := turns_writes coupled writes tx
  rw [found] at turns
  generalize known : db.completions.lookup tx = before at turns
  cases turns with
  | keeps same spared =>
      obtain ⟨old, rfl, _⟩ := sameState_some same rfl
      exact .inl ⟨old, rfl⟩
  | starts phase closed epoch state =>
      cases writes with
      | nothing quiet => exact .inl ⟨new, known.symm.trans found⟩
      | started _ began =>
          cases begins began with
          | started _ _ scanned _ _ => exact .inr scanned
      | tookOver _ began => exact .inl ⟨_, known.symm.trans (takingOver_lookup began).1⟩
      | reserved again => simp [again] at phase
      | finalized again => simp [again] at phase
      | rolledForward again => simp [again] at phase
      | compensated again => simp [again] at phase
      | reopened again => simp [again] at phase
  | reserves phase live epoch state => exact .inl ⟨_, rfl⟩
  | finalizes phase live epoch state => exact .inl ⟨_, rfl⟩
  | compensates phase live epoch state => exact .inl ⟨_, rfl⟩
  | reopens phase live epoch state => exact .inl ⟨_, rfl⟩

/-- Every transaction with a completion record has items. -/
def Scanned (db : Checkout.Database) : Prop :=
  ∀ tx record, db.completions.lookup tx = some record → getBasket db tx ≠ []

theorem Scanned.step (scanned : Scanned system.checkout) (sound : Sound system)
    (does : Does threshold system label after) : Scanned after.checkout := by
  intro tx new found
  have nonempty : getBasket system.checkout tx ≠ [] := by
    rcases step_written does with rests | ⟨id, driver, lease, now, writer, running, writes⟩
    · obtain ⟨old, known, _⟩ := sameState_some (rests.same tx) found
      exact scanned tx old known
    · rcases writes_scanned sound.coupled writes found with ⟨old, known⟩ | basket
      · exact scanned tx old known
      · exact basket
  obtain ⟨item, member, own⟩ := item_of_basket nonempty
  exact basket_of_item (step_items does item member) own

theorem Scanned.takeOver (scanned : Scanned db) {tx : TxId} {record : Completion} {now : Time} :
    Scanned (takeOver db tx record now) := by
  intro other new found
  have known : ∃ old, db.completions.lookup other = some old := by
    simp only [Saga.takeOver, setCompletionState, Table.lookup_alter] at found
    split at found
    · rename_i own
      obtain ⟨old, known, _⟩ := Option.map_eq_some_iff.mp found
      exact ⟨old, own ▸ known⟩
    · exact ⟨new, found⟩
  obtain ⟨old, known⟩ := known
  exact scanned other old known

end Step

structure Answering (contest : Contest) : Prop extends Keeping contest where
  ends : ∀ id driver, contest.system.drivers.lookup id = some driver →
    driver.Obeys (PhaseEnds contest.system.checkout) RowAny
  scanned : Scanned contest.system.checkout

section Move

variable {threshold : Int} {contest next : Contest} {move : Move} {id : DriverId} {driver : Driver}

theorem Acts.ends {label : Label} {db : Checkout.Database} {system : System} {after : Driver}
    (acts : Acts system driver label db after) (sound : Sound system)
    (running : system.drivers.lookup id = some driver)
    (ends : PhaseEnds system.checkout driver.tx driver.phase) :
    after.Obeys (PhaseEnds db) RowAny := by
  cases acts with
  | commits done => exact transact_ends sound running ends done
  | raisesAfterCommit raised done => exact raised_ends raised
  | raises raised => exact raised_ends raised
  | receives onTopic received => exact received_ends ends received
  | timesOut timedOut => exact timedOut_ends timedOut

theorem Answering.later (answering : Answering contest)
    (taken : contest.step threshold move = some next)
    (running : contest.system.drivers.lookup id = some driver) :
    driver.Obeys (PhaseEnds next.system.checkout) RowAny :=
  (answering.ends id driver running).imp
    (PhaseEnds.advances (answering.coupled driver.tx) (answering.grows taken).advances)
    (fun _ _ any => any)

theorem Answering.endsStep (answering : Answering contest)
    (taken : contest.step threshold move = some next)
    (running : next.system.drivers.lookup id = some driver) :
    driver.Obeys (PhaseEnds next.system.checkout) RowAny := by
  have later : ∀ driver, contest.system.drivers.lookup id = some driver →
      driver.Obeys (PhaseEnds next.system.checkout) RowAny := fun _ found =>
    answering.later taken found
  cases step_moved taken with
  | @acts label after enabled stepped =>
      have does := step_does stepped
      by_cases own : label.driver = some id
      · cases before : contest.system.drivers.lookup id with
        | some old =>
            rcases step_acts stepped own before with rfl | ⟨new, found, acts⟩
            · cases does with
              | crashes =>
                  rw [setDriver_drivers, if_pos rfl] at running
                  contradiction
            · cases running.symm.trans found
              exact acts.ends answering.toSound before (answering.ends id old before).phase
        | none =>
            rcases step_drivers does running with
              same | ⟨tx, rfl⟩ | ⟨_, _, _, _, rows, _, _, first⟩ | ⟨old, found, _⟩
            · rw [before] at same
              contradiction
            · exact ⟨trivial, fun _ _ => trivial⟩
            · exact firstRow_obeys first (fun _ _ => trivial) (fun row _ _ => recover_ends _ row)
            · rw [before] at found
              contradiction
      · rw [other_driver does own] at running
        exact later driver running
  | reads _ free began => exact later driver running
  | writesBack found _ =>
      simp only [Contest.ends, setDriver_drivers] at running
      split at running
      · cases running
        exact goto_ends trivial
      · exact later driver running
  | raises found _ =>
      simp only [Contest.ends, setDriver_drivers] at running
      split at running
      · cases running
        exact leave_ends trivial
      · exact later driver running
  | drops found _ =>
      simp only [Contest.ends, setDriver_drivers] at running
      split at running
      · cases running
        exact leave_ends trivial
      · exact later driver running
  | answersLate recorded => exact later driver running

theorem Answering.step (answering : Answering contest) (allowed : KeepsSales contest move)
    (taken : contest.step threshold move = some next) : Answering next where
  toKeeping := answering.toKeeping.step allowed taken
  ends _ _ running := answering.endsStep taken running
  scanned := by
    cases step_moved taken with
    | acts enabled stepped => exact answering.scanned.step answering.toSound (step_does stepped)
    | reads running free began => exact answering.scanned
    | writesBack found running => exact answering.scanned.takeOver
    | raises found running => exact answering.scanned.takeOver
    | drops found running => exact answering.scanned
    | answersLate recorded => exact answering.scanned

theorem Answering.opening (levels : Table Sku Nat) : Answering (contestOpening levels) where
  toKeeping := .opening levels
  ends _ _ running := by contradiction
  scanned _ _ found := by contradiction

theorem answering_of_run {levels : Table Sku Nat} {moves : List Move}
    (run : Run (Contest.step threshold) Undisputed (contestOpening levels) moves contest) :
    Answering contest :=
  run.invariant (.opening levels) (fun _ _ _ answering allowed taken =>
    answering.step allowed.1 taken)

theorem Quiet.snoc {start : Contest} {moves : List Move} (quiet : Quiet threshold id start moves)
    (reached : moves.foldlM (Contest.step threshold) start = some contest)
    (taken : contest.step threshold move = some next)
    (still : move.driver contest = some id →
      next.system = { contest.system with drivers := next.system.drivers }) :
    Quiet threshold id start (moves ++ [move]) := by
  intro earlier other later before after split passed stepped own
  rcases List.eq_nil_or_concat later with rfl | ⟨rest, last, rfl⟩
  · obtain ⟨rfl, same⟩ := List.append_inj' split rfl
    cases same
    cases passed.symm.trans reached
    cases stepped.symm.trans taken
    exact still own
  · rw [List.concat_eq_append, ← List.cons_append, ← List.append_assoc] at split
    obtain ⟨same, _⟩ := List.append_inj' split rfl
    exact quiet earlier other rest before after same passed stepped own

/-- A call past its first `_begin` that will not answer as if nothing had happened. -/
structure Later (driver : Driver) : Prop where
  call : driver.origin = .complete
  notFirst : driver.phase ≠ .begin false
  notEarly : ∀ exit, driver.phase = .left exit → exit.preSaga = false

theorem later_leave (call : driver.origin = .complete) {exit : Exit}
    (notEarly : exit.preSaga = false) : Later (driver.leave exit) where
  call := by
    simp only [Driver.leave, call]
    exact call
  notFirst := leave_not_begins driver exit
  notEarly other left := by
    rw [leave_left left]
    exact notEarly

theorem later_goto (call : driver.origin = .complete) {phase : Phase}
    (notFirst : phase ≠ .begin false) (stays : ∀ exit, phase ≠ .left exit) :
    Later (driver.goto phase) where
  call := call
  notFirst := notFirst
  notEarly exit left := absurd left (stays exit)

/-- A call that comes back and finds its transaction OPEN is not refused for it. -/
theorem comesBack_begins {db : Checkout.Database} {tx : TxId} {lease : Nat} {now : Time}
    {refusal : Refusal} (comesBack : ComesBack db tx lease now) (scanned : getBasket db tx ≠ [])
    (began : beginCompletion db tx lease now = .refused refusal) :
    (Exit.refused refusal).preSaga = false := by
  unfold beginCompletion at began
  rcases comesBack with opened | ⟨completing, stale⟩
  · obtain ⟨row, found, isOpen⟩ := Option.map_eq_some_iff.mp opened
    simp [found, isOpen, beginAttempt, scanned] at began
  · obtain ⟨row, found, isCompleting⟩ := Option.map_eq_some_iff.mp completing
    simp only [found, isCompleting, beginAgain] at began
    split at began
    · cases began
      rfl
    · rename_i record read
      split at began
      · contradiction
      · rename_i notOwing
        rw [stale record read notOwing] at began
        contradiction

theorem statusExit_late (db : Checkout.Database) (tx : TxId) (begun : Begun) :
    (statusExit db tx begun).preSaga = false := by
  unfold statusExit
  split
  · rfl
  · split
    · split <;> rfl
    · rfl

theorem raised_later {error : String} {after : Driver} (call : driver.origin = .complete)
    (raised : driver.raised error = some after) : Later after := by
  rcases raised_cases raised with rfl | ⟨_, _, _, _, rfl⟩
  · exact later_leave call rfl
  · exact later_goto call (by simp) (by simp)

theorem Acts.first {system : System} {label : Label} {db : Checkout.Database} {after : Driver}
    (acts : Acts system driver label db after) (call : driver.origin = .complete)
    (phase : driver.phase = .begin false) :
    (∃ id lease now refusal, label = .commit id lease now ∧
      beginCompletion system.checkout driver.tx lease now = .refused refusal) ∨ Later after := by
  cases acts with
  | commits done =>
      rcases transact_leaves done with ⟨exit, rfl, leaves⟩ | ⟨onward, rfl, leads⟩
      · cases leaves with
        | refused _ began => exact .inl ⟨_, _, _, _, rfl, began⟩
        | stillOwed again => cases phase.symm.trans again
        | completed again finalized => cases phase.symm.trans again
        | readStatus again => cases phase.symm.trans again
        | rolledForward again => cases phase.symm.trans again
        | reopened again => cases phase.symm.trans again
      · exact .inr (later_goto call leads.onward.1 leads.onward.2)
  | raisesAfterCommit raised done => exact .inr (raised_later call raised)
  | raises raised => exact .inr (raised_later call raised)
  | receives onTopic received => simp [Driver.receive, phase] at received
  | timesOut timedOut => simp [Driver.timeOut, phase] at timedOut

theorem Later.acts {system : System} {label : Label} {db : Checkout.Database} {after : Driver}
    (later : Later driver) (acts : Acts system driver label db after)
    (ends : PhaseEnds system.checkout driver.tx driver.phase) (scanned : Scanned system.checkout)
    (comesBack : ∀ id lease now, label = .commit id lease now → driver.phase = .begin true →
      ComesBack system.checkout driver.tx lease now) : Later after := by
  have call := later.call
  cases acts with
  | commits done =>
      rcases transact_leaves done with ⟨exit, rfl, leaves⟩ | ⟨phase, rfl, leads⟩
      · refine later_leave call ?_
        cases leaves with
        | @refused again refusal phase began =>
            cases again with
            | false => exact absurd phase later.notFirst
            | true =>
                rw [phase] at ends
                obtain ⟨record, found⟩ := ends
                exact comesBack_begins (comesBack _ _ _ rfl phase) (scanned _ record found) began
        | stillOwed phase => rfl
        | completed phase finalized => rfl
        | readStatus phase => exact statusExit_late _ _ _
        | rolledForward phase => rfl
        | reopened phase =>
            rw [phase] at ends
            exact ends.1
      · exact later_goto call leads.onward.1 leads.onward.2
  | raisesAfterCommit raised done => exact raised_later call raised
  | raises raised => exact raised_later call raised
  | receives onTopic received =>
      rcases receive_cases received with
        ⟨_, _, _, _, rfl⟩ | ⟨_, _, _, _, rfl⟩ | ⟨_, _, _, _, _, _, rfl⟩
      · exact later_goto call (by simp) (by simp)
      · exact later_goto call (by simp) (by simp)
      · exact later_goto call (by simp) (by simp)
  | timesOut timedOut =>
      unfold Driver.timeOut at timedOut
      split at timedOut
      · cases timedOut
        exact later_goto call (by simp) (by simp)
      · cases timedOut
        exact later_leave call rfl
      · contradiction

/-- A call that has changed nothing yet, or that will not answer as if it had not. -/
inductive Course (quiet : Prop) (driver : Driver) : Prop where
  | notBegun (call : driver.origin = .complete) (phase : driver.phase = .begin false) (still : quiet)
  | gone {exit : Exit} (phase : driver.phase = .left exit) (still : quiet)
  | begun (later : Later driver)

theorem Course.imp {quiet more : Prop} (course : Course quiet driver) (covers : quiet → more) :
    Course more driver := by
  cases course with
  | notBegun call phase still => exact .notBegun call phase (covers still)
  | gone phase still => exact .gone phase (covers still)
  | begun later => exact .begun later

/-- A call that waits in `_begin` has not left. -/
theorem Course.waiting {quiet : Prop} {reading : Reading} {tx : TxId} {system : System}
    (course : Course quiet driver) (reads : Reads system tx reading)
    (running : system.drivers.lookup reading.id = some driver) : driver.origin = .complete := by
  cases course with
  | notBegun call phase still => exact call
  | gone phase still =>
      obtain ⟨_, again, same, _, begins⟩ := reads.running
      cases running.symm.trans same
      cases phase.symm.trans begins
  | begun later => exact later.call

theorem leave_phase (call : driver.origin = .complete) (exit : Exit) :
    (driver.leave exit).phase = .left exit := by
  simp [Driver.leave, call, Driver.goto]

theorem left_idle {exit : Exit} (phase : driver.phase = .left exit) {system : System}
    {label : Label} {db : Checkout.Database} {after : Driver} :
    ¬ Acts system driver label db after := by
  intro acts
  cases acts with
  | commits done => simp [Driver.transact, phase] at done
  | raisesAfterCommit raised done => simp [Driver.raised, phase] at raised
  | raises raised => simp [Driver.raised, phase] at raised
  | receives onTopic received => simp [Driver.receive, phase] at received
  | timesOut timedOut => simp [Driver.timeOut, phase] at timedOut

/-- A driver that makes no move stays where it is. -/
theorem other_move (moved : Moved threshold contest move next)
    (other : move.driver contest ≠ some id) :
    next.system.drivers.lookup id = contest.system.drivers.lookup id := by
  have apart : ∀ {tx : TxId} {reading : Reading} {system : System} {driver : Driver},
      contest.reading tx = some reading → (contest.reading tx).map Reading.id ≠ some id →
      (system.setDriver reading.id (some driver)).drivers.lookup id = system.drivers.lookup id := by
    intro tx reading system driver found different
    rw [setDriver_drivers]
    split
    · rename_i same
      rw [found, same] at different
      exact absurd rfl different
    · rfl
  cases moved with
  | acts enabled stepped => exact other_driver (step_does stepped) other
  | reads running free began => rfl
  | writesBack found running => exact apart found other
  | raises found running => exact apart found other
  | drops found running => exact apart found other
  | answersLate recorded => rfl

/-- A refusal in `_begin` changes nothing but where the call is. -/
theorem refused_still {system after : System} {lease : Nat} {now : Time}
    {refusal : Refusal} {again : Bool}
    (stepped : Saga.step threshold system (.commit id lease now) = some after)
    (running : system.drivers.lookup id = some driver) (phase : driver.phase = .begin again)
    (began : beginCompletion system.checkout driver.tx lease now = .refused refusal) :
    after = system.setDriver id (some (driver.leave (.refused refusal))) := by
  simp [Saga.step, running, Driver.transact, phase, began] at stepped
  exact stepped.symm

theorem Answering.courseStep (answering : Answering contest) (allowed : Undisputed contest move)
    (taken : contest.step threshold move = some next) {start : Contest} {moves : List Move}
    (reached : moves.foldlM (Contest.step threshold) start = some contest)
    (notCrash : move ≠ .act (.crash id))
    (running : contest.system.drivers.lookup id = some driver)
    (course : Course (Quiet threshold id start moves) driver) :
    ∃ after, next.system.drivers.lookup id = some after ∧
      Course (Quiet threshold id start (moves ++ [move])) after := by
  by_cases own : move.driver contest = some id
  · cases step_moved taken with
    | @acts label after enabled stepped =>
        rcases step_acts stepped own running with rfl | ⟨new, found, acts⟩
        · exact absurd rfl notCrash
        · refine ⟨new, found, ?_⟩
          cases course with
          | notBegun call phase still =>
              rcases acts.first call phase with ⟨_, lease, now, refusal, rfl, began⟩ | later
              · cases own
                have same := refused_still stepped running phase began
                subst same
                rw [setDriver_drivers, if_pos rfl] at found
                cases found
                refine .gone (leave_phase call _) (still.snoc reached taken (fun _ => rfl))
              · exact .begun later
          | gone phase still => exact absurd acts (left_idle phase)
          | begun later =>
              refine .begun (later.acts acts (answering.ends id driver running).phase
                answering.scanned ?_)
              intro _ lease now same phase
              subst same
              cases own
              exact allowed.2 _ rfl _ rfl driver running phase
    | @reads _ lease now other record again free began =>
        cases own
        cases running.symm.trans again
        refine ⟨driver, running, course.imp (fun still => ?_)⟩
        exact still.snoc reached taken (fun _ => rfl)
    | @writesBack tx reading other found again =>
        simp only [Move.driver, found, Option.map_some, Option.some.injEq] at own
        subst own
        cases running.symm.trans again
        refine ⟨_, setDriver_self _ _ _, .begun ?_⟩
        exact later_goto (course.waiting (answering.overlaps tx reading found).toReads running)
          (by simp) (by simp)
    | @raises tx error reading other found again =>
        simp only [Move.driver, found, Option.map_some, Option.some.injEq] at own
        subst own
        cases running.symm.trans again
        refine ⟨_, setDriver_self _ _ _, .begun ?_⟩
        exact later_leave (course.waiting (answering.overlaps tx reading found).toReads running) rfl
    | @drops tx error reading other found again =>
        simp only [Move.driver, found, Option.map_some, Option.some.injEq] at own
        subst own
        cases running.symm.trans again
        refine ⟨_, setDriver_self _ _ _, .begun ?_⟩
        exact later_leave (course.waiting (answering.overlaps tx reading found).toReads running) rfl
    | answersLate recorded => contradiction
  · refine ⟨driver, ?_, course.imp (fun still => still.snoc reached taken (fun same => ?_))⟩
    · rw [other_move (step_moved taken) own]
      exact running
    · exact absurd same own

theorem Answering.refused (answering : Answering contest)
    (taken : contest.step threshold move = some next)
    (running : contest.system.drivers.lookup id = some driver) {epoch : Nat}
    (isEpoch : driver.phase.epoch = some epoch) {after : Driver} {refusal : Refusal}
    (found : next.system.drivers.lookup id = some after)
    (left : after.phase = .left (.refused refusal)) : Lost contest.system driver.tx epoch := by
  have notBegin : ∀ again, driver.phase ≠ .begin again := by
    intro again phase
    rw [phase] at isEpoch
    contradiction
  have notReading : ∀ {tx : TxId} {reading : Reading}, contest.reading tx = some reading →
      (contest.reading tx).map Reading.id ≠ some id := by
    intro tx reading present same
    rw [present] at same
    cases same
    obtain ⟨_, again, waits, _, phase⟩ := (answering.overlaps tx reading present).running
    cases running.symm.trans waits
    exact notBegin again phase
  by_cases own : move.driver contest = some id
  · cases step_moved taken with
    | acts enabled stepped =>
        rcases step_acts stepped own running with rfl | ⟨new, same, acts⟩
        · cases step_does stepped with
          | crashes =>
              rw [setDriver_drivers, if_pos rfl] at found
              contradiction
        · cases found.symm.trans same
          exact acts.refused answering.toSound running (answering.ends id driver running).phase
            isEpoch left
    | reads again free began =>
        cases own
        cases running.symm.trans again
        obtain ⟨⟨again, phase⟩, _⟩ := begins_takingOver began
        exact absurd phase (notBegin again)
    | writesBack present _ => exact absurd own (notReading present)
    | raises present _ => exact absurd own (notReading present)
    | drops present _ => exact absurd own (notReading present)
    | answersLate recorded => contradiction
  · rw [other_move (step_moved taken) own, running] at found
    cases found
    rw [left] at isEpoch
    contradiction

end Move

section Run

variable {threshold : Int} {contest next : Contest} {move : Move} {tx : TxId} {epoch : Nat}

structure StaysCompleted (tx : TxId) (contest : Contest) : Prop extends Answering contest where
  completed : statusOf contest.system.checkout tx = some .completed

structure StaysLost (tx : TxId) (epoch : Nat) (contest : Contest) : Prop extends
    Answering contest where
  lost : Lost contest.system tx epoch

theorem StaysCompleted.step (stays : StaysCompleted tx contest) (allowed : Undisputed contest move)
    (taken : contest.step threshold move = some next) : StaysCompleted tx next where
  toAnswering := stays.toAnswering.step allowed.1 taken
  completed := statusOf_completed (stays.coupled tx) (stays.grows taken).advances stays.completed

theorem StaysLost.step (stays : StaysLost tx epoch contest) (allowed : Undisputed contest move)
    (taken : contest.step threshold move = some next) : StaysLost tx epoch next where
  toAnswering := stays.toAnswering.step allowed.1 taken
  lost := stays.lost.grows stays.toSound (stays.grows taken)

theorem call_begins {id : DriverId}
    (taken : contest.step threshold (.act (.complete id tx)) = some next) :
    next.system.drivers.lookup id = some ⟨tx, .complete, .begin false⟩ := by
  cases step_moved taken with
  | acts enabled stepped =>
      cases step_does stepped with
      | calls free => exact setDriver_self _ _ _

/-- What a call does from the start to wherever it is. -/
theorem course_of_run {start : Contest} {moves : List Move} {id : DriverId}
    (run : Run (Contest.step threshold) Undisputed start moves contest)
    (answering : Answering start)
    (calls : start.system.drivers.lookup id = some ⟨tx, .complete, .begin false⟩) :
    Answering contest ∧ (.act (.crash id) ∉ moves →
      ∃ driver, contest.system.drivers.lookup id = some driver ∧
        Course (Quiet threshold id start moves) driver) := by
  induction run with
  | start =>
      refine ⟨answering, fun _ => ⟨_, calls, .notBegun rfl rfl ?_⟩⟩
      intro earlier move later before after split
      simp at split
  | snoc past allowed taken ih =>
      obtain ⟨answers, course⟩ := ih
      refine ⟨answers.step allowed.1 taken, fun notCrash => ?_⟩
      rw [List.mem_append, not_or] at notCrash
      obtain ⟨driver, running, course⟩ := course notCrash.1
      refine answers.courseStep allowed taken past.foldlM_eq ?_ running course
      intro same
      exact notCrash.2 (List.mem_singleton.mpr same.symm)

/-- In every run whose writes keep the sale, in which no attempt that holds stock is
refused late, and in which a call that comes back to `_begin` from a rollback is not
refused there as late: the answers are true. -/
theorem answers_truthfully (threshold : Int) (levels : Table Sku Nat) (moves : List Move)
    (contest : Contest)
    (run : Run (Contest.step threshold) Undisputed (contestOpening levels) moves contest) :
    AnswersTruthfully threshold levels moves where
  receipt past more before after id driver receipt isPrefix reached later running left := by
    obtain ⟨ran, further⟩ := run.between isPrefix reached later
    have answering := answering_of_run ran
    have ends := (answering.ends id driver running).phase
    rw [left] at ends
    have stays : StaysCompleted driver.tx after :=
      further.invariant ⟨answering, ends⟩ (fun _ _ _ stays allowed taken =>
        stays.step allowed taken)
    exact stays.completed
  refusal past move more before middle after id driver epoch next refusal isPrefix reached taken
      later running isEpoch found left := by
    obtain ⟨ran, allowed, future⟩ := run.through isPrefix reached taken later
    have answering := answering_of_run ran
    have lost := answering.refused taken running isEpoch found left
    have begun : StaysLost driver.tx epoch before := ⟨answering, lost⟩
    have stays : StaysLost driver.tx epoch after :=
      future.invariant (begun.step allowed taken) (fun _ _ _ stays allowed taken =>
        stays.step allowed taken)
    exact stays.lost.not_completed stays.toSaleKept
  unchanged past id tx more before started after driver exit isPrefix reached taken later notCrash
      running left early := by
    obtain ⟨ran, allowed, future⟩ := run.through isPrefix reached taken later
    have answering := (answering_of_run ran).step allowed.1 taken
    have course := (course_of_run future answering (call_begins taken)).2 notCrash
    obtain ⟨_, again, course⟩ := course
    cases running.symm.trans again
    cases course with
    | notBegun call phase still => cases left.symm.trans phase
    | gone phase still => exact still
    | begun later =>
        rw [later.notEarly exit left] at early
        contradiction

end Run

/-- One call is turned away with an empty basket, another is served. -/
def servedAndTurnedAway : List Move :=
  let request := Request.stockReservationRequested ⟨1, 1⟩ [("SKU-000001", 1)]
  let reserved := Outcome.stockReserved ⟨1, 1⟩ false
  [.act (.insertTransaction 1 0), .act (.scanItem 1 "SKU-000001" 250),
    .act (.insertTransaction 2 0), .act (.complete 0 1), .act (.commit 0 60 10),
    .act (.complete 1 2), .act (.commit 1 60 11), .act (.publish request), .act (.handle request),
    .act (.publishOutcome reserved), .act (.reply 0 reserved), .act (.commit 0 60 12),
    .act (.commit 0 60 13)]

theorem servedAndTurnedAway_runs : (servedAndTurnedAway.foldlM
    (guarded (Contest.step 5) Undisputed)
    (contestOpening (Table.empty.put "SKU-000001" 5))).isSome = true := by
  decide +kernel

theorem answers_truthfully_servedAndTurnedAway :
    AnswersTruthfully 5 (Table.empty.put "SKU-000001" 5) servedAndTurnedAway :=
  answers_truthfully 5 _ servedAndTurnedAway _
    (.of_guarded (Option.some_get servedAndTurnedAway_runs).symm)

/-- The commit of a call's finalize takes effect, but the call sees an error and rolls back. -/
def finalizedUnawares : List Move :=
  let request := Request.stockReservationRequested ⟨1, 1⟩ [("SKU-000001", 1)]
  let reserved := Outcome.stockReserved ⟨1, 1⟩ false
  let release := Request.stockReleaseRequested ⟨1, 1⟩
  let released := Outcome.stockReleased ⟨1, 1⟩ 1 false
  [.act (.insertTransaction 1 0), .act (.scanItem 1 "SKU-000001" 250), .act (.complete 0 1),
    .act (.commit 0 60 10), .act (.publish request), .act (.handle request),
    .act (.publishOutcome reserved), .act (.reply 0 reserved), .act (.commit 0 60 12),
    .act (.raise 0 true "OperationalError" 60 13), .act (.commit 0 60 14), .act (.publish release),
    .act (.handle release), .act (.publishOutcome released), .act (.reply 0 released)]

theorem finalizedUnawares_runs : (finalizedUnawares.foldlM (Contest.step 5)
    (contestOpening (Table.empty.put "SKU-000001" 5))).isSome = true := by
  decide +kernel

theorem finalizedUnawares_ends : (((finalizedUnawares.foldlM (Contest.step 5)
    (contestOpening (Table.empty.put "SKU-000001" 5))).get finalizedUnawares_runs).step 5
      (.act (.commit 0 60 15))).isSome = true := by
  decide +kernel

/-- The call answers that it was rolled back, and the transaction is COMPLETED. -/
theorem completed_call_answers_rolled_back :
    ¬ AnswersTruthfully 5 (Table.empty.put "SKU-000001" 5)
      (finalizedUnawares ++ [.act (.commit 0 60 15)]) := by
  intro truthful
  let failed := Exit.refused (rolledBack "Completion failed and was rolled back; retry.")
  have running : ((finalizedUnawares.foldlM (Contest.step 5) (contestOpening (Table.empty.put
      "SKU-000001" 5))).get finalizedUnawares_runs).system.drivers.lookup 0 =
        some ⟨1, .complete, .reopen 1 (.leave failed)⟩ := by
    decide +kernel
  have answers : ((((finalizedUnawares.foldlM (Contest.step 5) (contestOpening (Table.empty.put
      "SKU-000001" 5))).get finalizedUnawares_runs).step 5 (.act (.commit 0 60 15))).get
        finalizedUnawares_ends).system.drivers.lookup 0 =
          some ⟨1, .complete, .left failed⟩ := by
    decide +kernel
  have completed : CompletedAt ((((finalizedUnawares.foldlM (Contest.step 5) (contestOpening
      (Table.empty.put "SKU-000001" 5))).get finalizedUnawares_runs).step 5
        (.act (.commit 0 60 15))).get finalizedUnawares_ends).system.checkout 1 1 := by
    decide +kernel
  exact truthful.refusal finalizedUnawares (.act (.commit 0 60 15)) [] _ _ _ 0 _ 1 _ _
    List.prefix_rfl (Option.some_get finalizedUnawares_runs).symm
    (Option.some_get finalizedUnawares_ends).symm rfl running rfl answers rfl completed

/-- A rollback was not delivered, and the shopper is about to try again. -/
def undelivered : List Move :=
  [.act (.insertTransaction 1 0), .act (.scanItem 1 "SKU-000001" 250), .act (.complete 0 1),
    .act (.commit 0 60 10), .act (.timeOut 0), .act (.commit 0 60 20), .act (.timeOut 0)]

/-- The retry finishes the rollback; before it begins again, a third call has begun. -/
def overtakenRetry : List Move :=
  let release := Request.stockReleaseRequested ⟨1, 1⟩
  let released := Outcome.stockReleased ⟨1, 1⟩ 0 false
  [.act (.publish release), .act (.handle release), .act (.publishOutcome released),
    .act (.reply 1 released), .act (.commit 1 60 33), .act (.complete 2 1), .act (.commit 2 60 34),
    .act (.commit 1 60 35)]

theorem undelivered_runs : (undelivered.foldlM (Contest.step 5)
    (contestOpening (Table.empty.put "SKU-000001" 5))).isSome = true := by
  decide +kernel

theorem retry_calls : (((undelivered.foldlM (Contest.step 5)
    (contestOpening (Table.empty.put "SKU-000001" 5))).get undelivered_runs).step 5
      (.act (.complete 1 1))).isSome = true := by
  decide +kernel

def retryStart : Contest :=
  ((((undelivered.foldlM (Contest.step 5) (contestOpening (Table.empty.put "SKU-000001" 5))).get
    undelivered_runs).step 5 (.act (.complete 1 1))).get retry_calls)

theorem retry_found : ([Move.act (.commit 1 60 30)].foldlM (Contest.step 5) retryStart).isSome =
    true := by
  decide +kernel

theorem retry_marks : ((([Move.act (.commit 1 60 30)].foldlM (Contest.step 5) retryStart).get
    retry_found).step 5 (.act (.commit 1 60 31))).isSome = true := by
  decide +kernel

theorem retry_runs : (([Move.act (.commit 1 60 30)] ++ .act (.commit 1 60 31) ::
    overtakenRetry).foldlM (Contest.step 5) retryStart).isSome = true := by
  decide +kernel

/-- The retry has queued a release, and answers 409 TRANSACTION_NOT_OPEN. -/
theorem retry_refused_after_rollback :
    ¬ AnswersTruthfully 5 (Table.empty.put "SKU-000001" 5) (undelivered ++
      .act (.complete 1 1) :: ([.act (.commit 1 60 30)] ++ .act (.commit 1 60 31) ::
        overtakenRetry)) := by
  intro truthful
  have running : ((([Move.act (.commit 1 60 30)] ++ .act (.commit 1 60 31) ::
      overtakenRetry).foldlM (Contest.step 5) retryStart).get retry_runs).system.drivers.lookup 1 =
        some ⟨1, .complete, .left (.refused (transactionNotOpen 1 "completing"))⟩ := by
    decide +kernel
  have quiet := truthful.unchanged undelivered 1 1 _ _ _ _ _ _ List.prefix_rfl
    (Option.some_get undelivered_runs).symm (Option.some_get retry_calls).symm
    (Option.some_get retry_runs).symm (by decide) running rfl (by decide)
  have unchanged := quiet [.act (.commit 1 60 30)] (.act (.commit 1 60 31)) overtakenRetry _ _ rfl
    (Option.some_get retry_found).symm (Option.some_get retry_marks).symm rfl
  have queued := congrArg (fun system => system.checkout.outbox.length) unchanged
  revert queued
  decide +kernel

end SelfCheckout.Saga
