import SelfCheckout.Checkout.Coupling
import SelfCheckout.Saga.Driver

namespace SelfCheckout.Saga

open SelfCheckout.Data SelfCheckout.Checkout

/-! # What a driver's step can do

Inversions of a driver's transitions.  `Writes` and `Goes` say what its local
transaction does to Checkout's database and where the driver goes; `Turns` says
what it does to one completion record.
-/

/-- What a driver's next local transaction does to Checkout's database. -/
inductive Writes (driver : Driver) (db : Database) (lease : Nat) (now : Time) : Database → Prop
    where
  | nothing (quiet : ∀ epoch reason next, driver.phase ≠ .markCompensating epoch reason next) :
      Writes driver db lease now db
  | started {again : Bool} {epoch totalCents : Nat} {request : Request} {after : Database}
      (phase : driver.phase = .begin again)
      (began : beginCompletion db driver.tx lease now = .started epoch totalCents request after) :
      Writes driver db lease now after
  | tookOver {again : Bool} {record : Completion} (phase : driver.phase = .begin again)
      (began : beginCompletion db driver.tx lease now = .takingOver record) :
      Writes driver db lease now (takeOver db driver.tx record now)
  | reserved {begun : Begun} (phase : driver.phase = .setReserved begun) :
      Writes driver db lease now (setCompletionState db driver.tx .reserved none now)
  | finalized {begun : Begun} (phase : driver.phase = .finalize begun) :
      Writes driver db lease now (Checkout.finalize db driver.tx begun.totalCents now).2
  | rolledForward {epoch totalCents : Nat} (phase : driver.phase = .rollForward epoch totalCents) :
      Writes driver db lease now (Checkout.finalize db driver.tx totalCents now).2
  | compensated {epoch : Nat} {reason : String} {next : Next}
      (phase : driver.phase = .markCompensating epoch reason next) :
      Writes driver db lease now
        (Checkout.markCompensating db driver.tx epoch (some reason) now)
  | reopened {epoch : Nat} {next : Next} (phase : driver.phase = .reopen epoch next) :
      Writes driver db lease now (Checkout.reopen db driver.tx now)

/-- Where a driver goes from its local transaction, and what it then publishes
without a row. -/
inductive Goes (driver : Driver) (db : Database) (lease : Nat) (now : Time) :
    Database → Driver → List Request → Prop where
  | leaves {after : Database} (exit : Exit) : Goes driver db lease now after (driver.leave exit) []
  | owesRollback {epoch : Nat} {reason : String} {next : Next}
      (phase : driver.phase = .begin false)
      (began : beginCompletion db driver.tx lease now = .compensating epoch) :
      Goes driver db lease now db (driver.goto (.markCompensating epoch reason next)) []
  | started {again : Bool} {epoch totalCents : Nat} {request : Request} {after : Database}
      (phase : driver.phase = .begin again)
      (began : beginCompletion db driver.tx lease now = .started epoch totalCents request after) :
      Goes driver db lease now after
        (driver.goto (.awaitReserve ⟨getBasket db driver.tx, totalCents, epoch⟩)) []
  | tookOver {again : Bool} {record : Completion} (phase : driver.phase = .begin again)
      (began : beginCompletion db driver.tx lease now = .takingOver record) :
      Goes driver db lease now (takeOver db driver.tx record now)
        (driver.goto (.awaitReserve ⟨getBasket db driver.tx, record.totalCents, record.epoch⟩))
        [requestOf db driver.tx record.epoch]
  | reserved {begun : Begun} (phase : driver.phase = .setReserved begun) :
      Goes driver db lease now (setCompletionState db driver.tx .reserved none now)
        (driver.goto (.finalize begun)) []
  | foundClosed {begun : Begun} {after : Database} (phase : driver.phase = .finalize begun)
      (found : Checkout.finalize db driver.tx begun.totalCents now = (none, after)) :
      Goes driver db lease now after (driver.goto (.readStatus begun)) []
  | compensated {epoch : Nat} {reason : String} {next : Next}
      (phase : driver.phase = .markCompensating epoch reason next) :
      Goes driver db lease now (Checkout.markCompensating db driver.tx epoch (some reason) now)
        (driver.goto (.awaitRelease epoch next)) []
  | beginsAgain {epoch : Nat} (phase : driver.phase = .reopen epoch .beginAgain) :
      Goes driver db lease now (Checkout.reopen db driver.tx now) (driver.goto (.begin true)) []

theorem transact_cases {driver next : Driver} {db after : Database} {lease : Nat} {now : Time}
    {asked : List Request} (done : driver.transact db lease now = some (after, next, asked)) :
    Writes driver db lease now after ∧ Goes driver db lease now after next asked := by
  unfold Driver.transact at done
  split at done
  · rename_i again phase
    split at done
    · cases done
      exact ⟨.nothing (by simp [phase]), .leaves _⟩
    · rename_i began
      split at done
      · cases done
        exact ⟨.nothing (by simp [phase]), .leaves _⟩
      · rename_i first
        cases done
        exact ⟨.nothing (by simp [phase]), .owesRollback (by simpa [first] using phase) began⟩
    · rename_i began
      cases done
      exact ⟨.started phase began, .started phase began⟩
    · rename_i began
      cases done
      exact ⟨.tookOver phase began, .tookOver phase began⟩
  · rename_i phase
    cases done
    exact ⟨.reserved phase, .reserved phase⟩
  · rename_i begun phase
    generalize found : Checkout.finalize db driver.tx begun.totalCents now = result at done
    obtain ⟨completedAt, closed⟩ := result
    have writes : Writes driver db lease now
        (Checkout.finalize db driver.tx begun.totalCents now).2 := .finalized phase
    rw [found] at writes
    cases completedAt with
    | some completedAt =>
        cases done
        exact ⟨writes, .leaves _⟩
    | none =>
        cases done
        exact ⟨writes, .foundClosed phase found⟩
  · rename_i phase
    cases done
    exact ⟨.nothing (by simp [phase]), .leaves _⟩
  · rename_i phase
    cases done
    exact ⟨.rolledForward phase, .leaves _⟩
  · rename_i phase
    cases done
    exact ⟨.compensated phase, .compensated phase⟩
  · rename_i epoch next phase
    cases done
    refine ⟨.reopened phase, ?_⟩
    cases next with
    | beginAgain => exact .beginsAgain phase
    | leave exit => exact .leaves exit
  · contradiction
  · contradiction
  · contradiction

theorem compensating_lookup {db : Database} {tx : TxId} {lease epoch : Nat} {now : Time}
    (began : beginCompletion db tx lease now = .compensating epoch) :
    ∃ record, db.completions.lookup tx = some record ∧ record.epoch = epoch ∧
      record.state = .compensating := by
  cases begins began with
  | compensating found isCompleting read owes => exact ⟨_, read, rfl, owes⟩

theorem takingOver_lookup {db : Database} {tx : TxId} {lease : Nat} {now : Time}
    {record : Completion} (began : beginCompletion db tx lease now = .takingOver record) :
    db.completions.lookup tx = some record ∧ record.state ≠ .compensating := by
  cases begins began with
  | takingOver found isCompleting read notOwing expired => exact ⟨read, notOwing⟩

theorem started_lookup {db after : Database} {tx : TxId} {lease epoch totalCents : Nat}
    {now : Time} {request : Request}
    (began : beginCompletion db tx lease now = .started epoch totalCents request after) :
    epoch = nextEpoch (db.completions.lookup tx) ∧
      (∃ record, after.completions.lookup tx = some record ∧ record.epoch = epoch ∧
        record.state = .reserving) ∧
      request = requestOf db tx epoch ∧ after.outbox = db.outbox ++ [request] ∧
      after.items = db.items ∧
      ∀ other ≠ tx, after.completions.lookup other = db.completions.lookup other := by
  obtain ⟨_, _, marked, rfl, rfl⟩ := started_eq began
  have next : (markCompleting db tx totalCents now).1 = nextEpoch (db.completions.lookup tx) := by
    rw [markCompleting]
    cases db.completions.lookup tx <;> rfl
  refine ⟨marked.trans next, ⟨_, Table.lookup_put_self _ _ _, marked.symm, rfl⟩, rfl, rfl, rfl, ?_⟩
  intro other different
  exact Table.lookup_put_of_ne _ _ different

/-- The epoch of the attempt a driver is about to finalize. -/
def Phase.finalizing : Phase → Option Nat
  | .finalize begun => some begun.epoch
  | .rollForward epoch _ => some epoch
  | _ => none

def SameState (before after : Option Completion) : Prop :=
  after.map (fun record => (record.epoch, record.state)) =
    before.map (fun record => (record.epoch, record.state))

/-- What a driver's local transaction does to a completion record. -/
inductive Turns (driver : Driver) : TxId → Option Completion → Option Completion → Prop where
  | keeps {tx : TxId} {before after : Option Completion} (same : SameState before after)
      (spared : tx = driver.tx → ∀ epoch reason next,
        driver.phase = .markCompensating epoch reason next →
        ∀ old, before = some old → old.state.terminal = true) :
      Turns driver tx before after
  | starts {again : Bool} {before : Option Completion} {new : Completion}
      (phase : driver.phase = .begin again)
      (closed : ∀ old, before = some old → old.state = .aborted)
      (epoch : new.epoch = nextEpoch before) (state : new.state = .reserving) :
      Turns driver driver.tx before (some new)
  | reserves {begun : Begun} {old new : Completion} (phase : driver.phase = .setReserved begun)
      (live : old.state.terminal = false) (epoch : new.epoch = old.epoch)
      (state : new.state = .reserved) : Turns driver driver.tx (some old) (some new)
  | finalizes {acting : Nat} {old new : Completion}
      (phase : driver.phase.finalizing = some acting) (live : old.state.terminal = false)
      (epoch : new.epoch = old.epoch) (state : new.state = .completed) :
      Turns driver driver.tx (some old) (some new)
  | compensates {acting : Nat} {reason : String} {next : Next} {old new : Completion}
      (phase : driver.phase = .markCompensating acting reason next)
      (live : old.state.terminal = false) (epoch : new.epoch = old.epoch)
      (state : new.state = .compensating) : Turns driver driver.tx (some old) (some new)
  | reopens {acting : Nat} {next : Next} {old new : Completion}
      (phase : driver.phase = .reopen acting next) (live : old.state.terminal = false)
      (epoch : new.epoch = old.epoch) (state : new.state = .aborted) :
      Turns driver driver.tx (some old) (some new)

theorem Turns.unchanged {driver : Driver} {tx : TxId} {before after : Option Completion}
    (same : SameState before after)
    (quiet : ∀ epoch reason next, driver.phase ≠ .markCompensating epoch reason next) :
    Turns driver tx before after :=
  .keeps same (fun _ epoch reason next marks => absurd marks (quiet epoch reason next))

section Turns

variable {db after : Database} {driver : Driver} {tx : TxId} {lease : Nat} {now : Time}

/-- A guarded write of the state: nothing happens to a missing or a closed record. -/
theorem setCompletionState_cases (db : Database) (tx : TxId) (state : CompletionState)
    (error : Option String) (now : Time) :
    ((setCompletionState db tx state error now).completions.lookup tx =
        db.completions.lookup tx ∧
      ∀ old, db.completions.lookup tx = some old → old.state.terminal = true) ∨
    ∃ old new, db.completions.lookup tx = some old ∧ old.state.terminal = false ∧
      (setCompletionState db tx state error now).completions.lookup tx = some new ∧
      new.epoch = old.epoch ∧ new.state = state := by
  simp only [setCompletionState, Table.lookup_alter, ↓reduceIte]
  cases found : db.completions.lookup tx with
  | none => exact .inl ⟨rfl, fun _ found => by contradiction⟩
  | some record =>
      rw [Option.map_some]
      split
      · rename_i terminal
        refine .inl ⟨rfl, ?_⟩
        intro old same
        cases same
        exact terminal
      · rename_i live
        exact .inr ⟨record, _, rfl, by simpa using live, rfl, rfl, rfl⟩

theorem finalize_turns (totalCents : Nat)
    (coupled : Coupled (db.transactions.lookup tx) (db.completions.lookup tx)) :
    (Checkout.finalize db tx totalCents now).2.completions.lookup tx = db.completions.lookup tx ∨
    ∃ old new, db.completions.lookup tx = some old ∧ old.state.terminal = false ∧
      (Checkout.finalize db tx totalCents now).2.completions.lookup tx = some new ∧
      new.epoch = old.epoch ∧ new.state = .completed := by
  rcases finalize_cases db tx totalCents now with missed | ⟨row, found, isCompleting, done⟩
  · exact .inl (by rw [missed])
  · rw [found] at coupled
    obtain ⟨_, old, foundOld, live⟩ := coupled.of_completing isCompleting
    exact .inr ⟨old, { old with state := .completed, updatedAt := now }, foundOld, live,
      by simp [done, foundOld], rfl, rfl⟩

theorem reopen_turns
    (coupled : Coupled (db.transactions.lookup tx) (db.completions.lookup tx)) :
    (Checkout.reopen db tx now).completions.lookup tx = db.completions.lookup tx ∨
    ∃ old new, db.completions.lookup tx = some old ∧ old.state.terminal = false ∧
      (Checkout.reopen db tx now).completions.lookup tx = some new ∧
      new.epoch = old.epoch ∧ new.state = .aborted := by
  rcases reopen_cases db tx now with missed | ⟨row, found, isCompleting, done⟩
  · exact .inl (by rw [missed])
  · rw [found] at coupled
    obtain ⟨_, old, foundOld, live⟩ := coupled.of_completing isCompleting
    exact .inr ⟨old, { old with state := .aborted, updatedAt := now }, foundOld, live,
      by simp [done, foundOld, live], rfl, rfl⟩

theorem writes_other (writes : Writes driver db lease now after) (other : tx ≠ driver.tx) :
    after.completions.lookup tx = db.completions.lookup tx := by
  cases writes with
  | nothing quiet => rfl
  | started phase began =>
      obtain ⟨_, _, _, _, rfl⟩ := started_eq began
      exact Table.lookup_put_of_ne _ _ other
  | tookOver phase began => simp [takeOver, setCompletionState, other]
  | reserved phase => simp [setCompletionState, other]
  | finalized phase => exact finalize_other _ _ _ _ other
  | rolledForward phase => exact finalize_other _ _ _ _ other
  | compensated phase => simp [Checkout.markCompensating, insertOutbox, setCompletionState, other]
  | reopened phase => exact reopen_other _ _ _ other

theorem SameState.of_eq {before after : Option Completion} (same : after = before) :
    SameState before after := by
  rw [same]
  rfl

theorem sameState_some {before after : Option Completion} (same : SameState before after)
    {new : Completion} (found : after = some new) :
    ∃ old, before = some old ∧ new.epoch = old.epoch ∧ new.state = old.state := by
  subst found
  cases before with
  | none => contradiction
  | some old =>
      simp only [SameState, Option.map_some, Option.some.injEq, Prod.mk.injEq] at same
      exact ⟨old, rfl, same⟩

/-- A take-over writes the state that is there. -/
theorem takeOver_same {record : Completion}
    (began : beginCompletion db driver.tx lease now = .takingOver record) (tx : TxId) :
    SameState (db.completions.lookup tx)
      ((takeOver db driver.tx record now).completions.lookup tx) := by
  by_cases own : tx = driver.tx
  · subst own
    have found := (takingOver_lookup began).1
    rcases setCompletionState_cases db driver.tx record.state none now with
      ⟨same, _⟩ | ⟨old, new, foundOld, _, foundNew, epoch, state⟩
    · exact .of_eq same
    · cases found.symm.trans foundOld
      simp only [takeOver]
      rw [foundNew, found, SameState, Option.map_some, Option.map_some, epoch, state]
  · exact .of_eq (by simp [takeOver, setCompletionState, own])

/-- Inversion of `Writes` for one completion record. -/
theorem turns_writes
    (coupled : ∀ tx, Coupled (db.transactions.lookup tx) (db.completions.lookup tx))
    (writes : Writes driver db lease now after) (tx : TxId) :
    Turns driver tx (db.completions.lookup tx) (after.completions.lookup tx) := by
  by_cases own : tx = driver.tx
  · subst own
    cases writes with
    | nothing quiet => exact .unchanged rfl quiet
    | started phase began =>
        obtain ⟨epoch, ⟨new, found, same, state⟩, _⟩ := started_lookup began
        rw [found]
        refine .starts phase ?_ (same.trans epoch) state
        obtain ⟨isOpen, _⟩ := started_eq began
        obtain ⟨row, foundRow, isOpen⟩ := Option.map_eq_some_iff.mp isOpen
        have together := coupled driver.tx
        rw [foundRow] at together
        exact (together.of_opened isOpen).2
    | tookOver phase began => exact .unchanged (takeOver_same began driver.tx) (by simp [phase])
    | reserved phase =>
        rcases setCompletionState_cases db driver.tx .reserved none now with
          ⟨same, _⟩ | ⟨old, new, foundOld, live, foundNew, epoch, state⟩
        · exact .unchanged (.of_eq same) (by simp [phase])
        · rw [foundOld, foundNew]
          exact .reserves phase live epoch state
    | @finalized begun phase =>
        rcases finalize_turns begun.totalCents (coupled driver.tx) with
          same | ⟨old, new, foundOld, live, foundNew, epoch, state⟩
        · exact .unchanged (.of_eq same) (by simp [phase])
        · rw [foundOld, foundNew]
          have acting : driver.phase.finalizing = some begun.epoch := by
            rw [phase]
            rfl
          exact .finalizes acting live epoch state
    | @rolledForward acting totalCents phase =>
        rcases finalize_turns totalCents (coupled driver.tx) with
          same | ⟨old, new, foundOld, live, foundNew, epoch, state⟩
        · exact .unchanged (.of_eq same) (by simp [phase])
        · rw [foundOld, foundNew]
          have own : driver.phase.finalizing = some acting := by
            rw [phase]
            rfl
          exact .finalizes own live epoch state
    | @compensated acting reason next phase =>
        rcases setCompletionState_cases db driver.tx .compensating (some reason) now with
          ⟨same, closed⟩ | ⟨old, new, foundOld, live, foundNew, epoch, state⟩
        · exact .keeps (.of_eq same) (fun _ _ _ _ _ => closed)
        · have found : (Checkout.markCompensating db driver.tx acting (some reason) now).completions.lookup
              driver.tx = some new := foundNew
          rw [foundOld, found]
          exact .compensates phase live epoch state
    | reopened phase =>
        rcases reopen_turns (coupled driver.tx) with
          same | ⟨old, new, foundOld, live, foundNew, epoch, state⟩
        · exact .unchanged (.of_eq same) (by simp [phase])
        · rw [foundOld, foundNew]
          exact .reopens phase live epoch state
  · exact .keeps (.of_eq (writes_other writes own)) (fun here => absurd here own)

end Turns

theorem raised_cases {driver next : Driver} {error : String}
    (done : driver.raised error = some next) :
    next = driver.leave .raised ∨
      ∃ begun reason after, driver.phase = .finalize begun ∧
        next = driver.goto (.markCompensating begun.epoch reason after) := by
  unfold Driver.raised at done
  split at done
  · rename_i begun phase
    cases done
    exact .inr ⟨begun, _, _, phase, rfl⟩
  all_goals
    cases done
    try exact .inl rfl

theorem receive_cases {driver next : Driver} {outcome : Outcome}
    (done : driver.receive outcome = some next) :
    (∃ begun replayed, driver.phase = .awaitReserve begun ∧
      outcome = .stockReserved ⟨driver.tx, begun.epoch⟩ replayed ∧
      next = driver.goto (.setReserved begun)) ∨
    (∃ begun after, driver.phase = .awaitReserve begun ∧
      ((∃ short, outcome = .stockRejected ⟨driver.tx, begun.epoch⟩ short) ∨
        outcome = .reservationRefused ⟨driver.tx, begun.epoch⟩) ∧
      next = driver.goto (.reopen begun.epoch after)) ∨
    (∃ epoch after units already, driver.phase = .awaitRelease epoch after ∧
      outcome = .stockReleased ⟨driver.tx, epoch⟩ units already ∧
      next = driver.goto (.reopen epoch after)) := by
  unfold Driver.receive at done
  split at done
  · rename_i begun phase
    split at done
    · rename_i addressed
      cases outcome with
      | stockReserved attempt replayed =>
          cases done
          cases addressed
          exact .inl ⟨begun, replayed, phase, rfl, rfl⟩
      | stockRejected attempt short =>
          cases done
          cases addressed
          exact .inr (.inl ⟨begun, _, phase, .inl ⟨short, rfl⟩, rfl⟩)
      | reservationRefused attempt =>
          cases done
          cases addressed
          exact .inr (.inl ⟨begun, _, phase, .inr rfl, rfl⟩)
      | stockReleased attempt units already => contradiction
    · contradiction
  · rename_i epoch after phase
    split at done
    · rename_i addressed
      cases outcome with
      | stockReleased attempt units already =>
          cases done
          cases addressed
          exact .inr (.inr ⟨epoch, after, units, already, phase, rfl, rfl⟩)
      | stockReserved attempt replayed => contradiction
      | stockRejected attempt short => contradiction
      | reservationRefused attempt => contradiction
    · contradiction
  · contradiction

theorem timeOut_cases {driver next : Driver} (done : driver.timeOut = some next) :
    (∃ begun reason after, driver.phase = .awaitReserve begun ∧
      next = driver.goto (.markCompensating begun.epoch reason after)) ∨
    ∃ exit, next = driver.leave exit := by
  unfold Driver.timeOut at done
  split at done
  · rename_i begun phase
    cases done
    exact .inl ⟨begun, _, _, phase, rfl⟩
  · cases done
    exact .inr ⟨_, rfl⟩
  · contradiction

end SelfCheckout.Saga
