import SelfCheckout.Saga.Basket
import SelfCheckout.Saga.Orphans

namespace SelfCheckout.Saga

open SelfCheckout.Data SelfCheckout.Checkout

/-! # One driver at a time

A call acts on its transaction from the `_begin` that lets it in until it
returns; a recovery pass acts on every row it claimed until it is done with it.
While at most one driver acts on a transaction, the driver's attempt is the
current one, and the two services agree on it.
-/

/-- The driver is past the `_begin` that decides whether it may act. -/
def Phase.acting : Phase → Bool
  | .begin false => false
  | .left _ => false
  | _ => true

def Driver.covered (driver : Driver) : List TxId :=
  (if driver.phase.acting then [driver.tx] else []) ++ driver.remaining.map StuckRow.transactionId

/-- No driver but `id` acts on the transaction. -/
def Unattended (system : System) (id : DriverId) (tx : TxId) : Prop :=
  ∀ running ∈ system.drivers.rows, running.1 ≠ id → tx ∉ running.2.covered

instance (system : System) (id : DriverId) (tx : TxId) : Decidable (Unattended system id tx) :=
  inferInstanceAs (Decidable (∀ _ ∈ _, _))

def Begin.admits : Begin → Bool
  | .refused _ => false
  | .started _ _ _ _ => true
  | .takingOver _ => true
  | .compensating _ => true

/-- At most one driver acts on a transaction, and a local transaction that raises
has not committed. -/
def OneDriver (system : System) : Label → Prop
  | .commit id lease now =>
      ∀ driver ∈ system.drivers.lookup id, driver.phase = .begin false →
        Begin.admits (beginCompletion system.checkout driver.tx lease now) = true →
        Unattended system id driver.tx
  | .raise _ committed _ _ _ => committed = false
  | .runOnce id claimed _ _ _ => ∀ tx ∈ claimed, Unattended system id tx
  | _ => True

instance (system : System) (label : Label) : Decidable (OneDriver system label) := by
  cases label with
  | commit id lease now => exact inferInstanceAs (Decidable (∀ _ ∈ _, _ → _ → _))
  | raise id committed error lease now => exact inferInstanceAs (Decidable (_ = _))
  | runOnce id claimed lease limit now => exact inferInstanceAs (Decidable (∀ _ ∈ _, _))
  | _ => exact inferInstanceAs (Decidable True)

/-- The transaction's completion is at this epoch, in one of these states. -/
def LiveAt (db : Checkout.Database) (tx : TxId) (epoch : Nat) (states : CompletionState → Prop) :
    Prop :=
  ∃ record, db.completions.lookup tx = some record ∧ record.epoch = epoch ∧ states record.state

def Reserving (state : CompletionState) : Prop := state = .reserving ∨ state = .reserved

def Reserved (state : CompletionState) : Prop := state = .reserved

def Compensating (state : CompletionState) : Prop := state = .compensating

def Unfinished (state : CompletionState) : Prop := state.terminal = false

def PhaseCurrent (db : Checkout.Database) (tx : TxId) : Phase → Prop
  | .awaitReserve begun => LiveAt db tx begun.epoch Reserving
  | .setReserved begun => LiveAt db tx begun.epoch Reserving
  | .finalize begun => LiveAt db tx begun.epoch Reserved
  | .readStatus _ => False
  | .rollForward epoch _ => LiveAt db tx epoch Reserved
  | .markCompensating epoch _ _ => LiveAt db tx epoch Unfinished
  | .awaitRelease epoch _ => LiveAt db tx epoch Compensating
  | .reopen epoch _ => LiveAt db tx epoch Unfinished
  | .begin _ => True
  | .left _ => True

def RowCurrent (db : Checkout.Database) (row : StuckRow) : Prop :=
  LiveAt db row.transactionId row.epoch (· = row.state) ∧ Unfinished row.state

/-- The states that promise that no release of the attempt is queued. -/
def Promised (state : CompletionState) : Prop :=
  state = .reserving ∨ state = .reserved ∨ state = .completed

structure Apart (drivers : Table DriverId Driver) : Prop where
  disjoint : ∀ id other driver driver', drivers.lookup id = some driver →
    drivers.lookup other = some driver' → id ≠ other →
    ∀ tx ∈ driver.covered, tx ∉ driver'.covered
  distinct : ∀ id driver, drivers.lookup id = some driver → driver.covered.Nodup
  calls : ∀ id driver, drivers.lookup id = some driver → driver.phase = .begin false →
    driver.remaining = []

structure Exclusive (system : System) : Prop extends BasketsAsked system where
  apart : Apart system.drivers
  current : ∀ id driver, system.drivers.lookup id = some driver →
    driver.Obeys (PhaseCurrent system.checkout) (RowCurrent system.checkout)
  unreleased : ∀ tx record, system.checkout.completions.lookup tx = some record →
    Promised record.state → ¬ ReleaseQueued system.checkout ⟨tx, record.epoch⟩

section Current

variable {db after : Checkout.Database} {driver : Driver} {tx : TxId}

theorem LiveAt.imp {epoch : Nat} {states more : CompletionState → Prop}
    (live : LiveAt db tx epoch states) (covers : ∀ state, states state → more state) :
    LiveAt db tx epoch more := by
  obtain ⟨record, found, current, holds⟩ := live
  exact ⟨record, found, current, covers _ holds⟩

theorem LiveAt.same {epoch : Nat} {states : CompletionState → Prop}
    (same : SameState (db.completions.lookup tx) (after.completions.lookup tx))
    (live : LiveAt db tx epoch states) : LiveAt after tx epoch states := by
  obtain ⟨record, found, current, holds⟩ := live
  rw [SameState, found, Option.map_some] at same
  obtain ⟨new, foundNew, both⟩ := Option.map_eq_some_iff.mp same
  rw [Prod.mk.injEq] at both
  exact ⟨new, foundNew, both.1.trans current, by rwa [both.2]⟩

theorem reserving_unfinished (state : CompletionState) (reserving : Reserving state) :
    Unfinished state := by
  rcases reserving with rfl | rfl <;> rfl

theorem reserved_unfinished (state : CompletionState) (reserved : Reserved state) :
    Unfinished state := by
  cases reserved
  rfl

theorem compensating_unfinished (state : CompletionState) (compensating : Compensating state) :
    Unfinished state := by
  cases compensating
  rfl

theorem current_same
    (same : ∀ tx ∈ driver.covered, SameState (db.completions.lookup tx) (after.completions.lookup tx))
    (current : driver.Obeys (PhaseCurrent db) (RowCurrent db)) :
    driver.Obeys (PhaseCurrent after) (RowCurrent after) := by
  refine current.imp (fun holds => ?_) (fun row member holds => ?_)
  · have own : driver.phase.acting = true →
        SameState (db.completions.lookup driver.tx) (after.completions.lookup driver.tx) :=
      fun acting => same driver.tx (by simp [Driver.covered, acting])
    cases phase : driver.phase with
    | begin again => trivial
    | left exit => trivial
    | readStatus begun => exact (phase ▸ holds : PhaseCurrent db driver.tx (.readStatus begun))
    | awaitReserve begun =>
        rw [phase] at holds own
        exact LiveAt.same (own rfl) holds
    | setReserved begun =>
        rw [phase] at holds own
        exact LiveAt.same (own rfl) holds
    | finalize begun =>
        rw [phase] at holds own
        exact LiveAt.same (own rfl) holds
    | rollForward epoch totalCents =>
        rw [phase] at holds own
        exact LiveAt.same (own rfl) holds
    | markCompensating epoch reason next =>
        rw [phase] at holds own
        exact LiveAt.same (own rfl) holds
    | awaitRelease epoch next =>
        rw [phase] at holds own
        exact LiveAt.same (own rfl) holds
    | reopen epoch next =>
        rw [phase] at holds own
        exact LiveAt.same (own rfl) holds
  · refine ⟨holds.1.same (same _ ?_), holds.2⟩
    exact List.mem_append_right _ (List.mem_map.mpr ⟨row, member, rfl⟩)

theorem recover_current {row : StuckRow} (current : RowCurrent db row) :
    PhaseCurrent db row.transactionId (recover row) := by
  unfold recover
  split
  · rename_i reserved
    exact current.1.imp (fun state same => same.trans reserved)
  · exact current.1.imp (fun state same => by rw [same]; exact current.2)

end Current

section Covered

variable {driver next : Driver} {drivers : Table DriverId Driver} {id : DriverId}

theorem leave_covered (driver : Driver) (exit : Exit) :
    (driver.leave exit).covered.Sublist driver.covered := by
  obtain ⟨tx, origin, phase⟩ := driver
  cases origin with
  | complete => exact List.nil_sublist _
  | recovery remaining done =>
      cases remaining with
      | nil => exact List.nil_sublist _
      | cons row remaining =>
          have acting : (recover row).acting = true := by
            unfold recover
            split <;> rfl
          simp only [Driver.leave, Driver.covered, acting, ↓reduceIte, Driver.remaining]
          exact List.sublist_append_right _ _

theorem goto_covered (driver : Driver) (phase : Phase) :
    (driver.goto phase).covered.Sublist
      (driver.tx :: driver.remaining.map StuckRow.transactionId) := by
  unfold Driver.covered
  split
  · exact List.Sublist.refl _
  · exact List.sublist_cons_self _ _

theorem covered_of_acting (acting : driver.phase.acting = true) :
    driver.covered = driver.tx :: driver.remaining.map StuckRow.transactionId := by
  simp [Driver.covered, acting]

theorem goto_covered_of_acting (acting : driver.phase.acting = true) (phase : Phase) :
    (driver.goto phase).covered.Sublist driver.covered := by
  rw [covered_of_acting acting]
  exact goto_covered driver phase

theorem leave_not_begins (driver : Driver) (exit : Exit) :
    (driver.leave exit).phase ≠ .begin false := by
  obtain ⟨tx, origin, phase⟩ := driver
  cases origin with
  | complete => simp [Driver.leave, Driver.goto]
  | recovery remaining done =>
      cases remaining with
      | nil => simp [Driver.leave]
      | cons row remaining =>
          simp only [Driver.leave, recover]
          split <;> simp

theorem Apart.assign (apart : Apart drivers) {driver : Option Driver}
    (separate : ∀ running, driver = some running → ∀ other driver', other ≠ id →
      drivers.lookup other = some driver' → ∀ tx ∈ running.covered, tx ∉ driver'.covered)
    (distinct : ∀ running, driver = some running → running.covered.Nodup)
    (calls : ∀ running, driver = some running → running.phase = .begin false →
      running.remaining = []) : Apart (assign drivers id driver) where
  disjoint one other left right isLeft isRight different tx := by
    rw [lookup_assign] at isLeft isRight
    split at isLeft
    · rename_i here
      split at isRight
      · rename_i there
        exact absurd (here.trans there.symm) different
      · rename_i there
        exact separate left isLeft other right there isRight tx
    · rename_i here
      split at isRight
      · exact fun covered again => separate right isRight one left here isLeft tx again covered
      · exact apart.disjoint one other left right isLeft isRight different tx
  distinct other running found := by
    rw [lookup_assign] at found
    split at found
    · exact distinct running found
    · exact apart.distinct other running found
  calls other running found := by
    rw [lookup_assign] at found
    split at found
    · exact calls running found
    · exact apart.calls other running found

theorem Apart.goes (apart : Apart drivers)
    (separate : ∀ other driver', other ≠ id → drivers.lookup other = some driver' →
      ∀ tx ∈ next.covered, tx ∉ driver'.covered)
    (distinct : next.covered.Nodup) (calls : next.phase = .begin false → next.remaining = []) :
    Apart (Saga.assign drivers id (some next)) := by
  apply apart.assign
  · intro running same
    cases same
    exact separate
  · intro running same
    cases same
    exact distinct
  · intro running same
    cases same
    exact calls

theorem Apart.stops (apart : Apart drivers) : Apart (Saga.assign drivers id none) := by
  apply apart.assign
  · intro running same
    contradiction
  · intro running same
    contradiction
  · intro running same
    contradiction

theorem Apart.shrinks (apart : Apart drivers) (running : drivers.lookup id = some driver)
    (shrinks : next.covered.Sublist driver.covered) (acts : next.phase ≠ .begin false) :
    Apart (Saga.assign drivers id (some next)) := by
  apply apart.goes
  · intro other driver' different found tx member
    exact apart.disjoint id other driver driver' running found different.symm tx
      (shrinks.subset member)
  · exact (apart.distinct id driver running).sublist shrinks
  · intro begins
    exact absurd begins acts

end Covered

section Commit

variable {db after : Checkout.Database} {driver next : Driver} {lease : Nat} {now : Time}
  {asked : List Request}

/-- Checkout's database changes only for a driver that acts, or that `_begin` lets in. -/
theorem writes_admits (writes : Writes driver db lease now after) :
    after = db ∨ driver.phase.acting = true ∨ driver.phase = .begin false ∧
      Begin.admits (beginCompletion db driver.tx lease now) = true := by
  cases writes with
  | nothing quiet => exact .inl rfl
  | @started again _ _ _ _ phase began =>
      cases again with
      | true => exact .inr (.inl (by rw [phase]; rfl))
      | false => exact .inr (.inr ⟨phase, by rw [began]; rfl⟩)
  | @tookOver again _ phase began =>
      cases again with
      | true => exact .inr (.inl (by rw [phase]; rfl))
      | false => exact .inr (.inr ⟨phase, by rw [began]; rfl⟩)
  | reserved phase => exact .inr (.inl (by rw [phase]; rfl))
  | finalized phase => exact .inr (.inl (by rw [phase]; rfl))
  | rolledForward phase => exact .inr (.inl (by rw [phase]; rfl))
  | compensated phase => exact .inr (.inl (by rw [phase]; rfl))
  | reopened phase => exact .inr (.inl (by rw [phase]; rfl))

/-- After its transaction a driver covers no more than before, unless `_begin` let it in. -/
theorem goes_covers (goes : Goes driver db lease now after next asked) :
    next.phase ≠ .begin false ∧
      (next.covered.Sublist driver.covered ∨
        driver.phase = .begin false ∧
          Begin.admits (beginCompletion db driver.tx lease now) = true ∧
          next.covered.Sublist (driver.tx :: driver.remaining.map StuckRow.transactionId)) := by
  cases goes with
  | leaves exit => exact ⟨leave_not_begins driver exit, .inl (leave_covered driver exit)⟩
  | owesRollback phase began =>
      exact ⟨by simp [Driver.goto], .inr ⟨phase, by rw [began]; rfl, goto_covered _ _⟩⟩
  | @started again _ _ _ _ phase began =>
      refine ⟨by simp [Driver.goto], ?_⟩
      cases again with
      | true => exact .inl (goto_covered_of_acting (by rw [phase]; rfl) _)
      | false => exact .inr ⟨phase, by rw [began]; rfl, goto_covered _ _⟩
  | @tookOver again _ phase began =>
      refine ⟨by simp [Driver.goto], ?_⟩
      cases again with
      | true => exact .inl (goto_covered_of_acting (by rw [phase]; rfl) _)
      | false => exact .inr ⟨phase, by rw [began]; rfl, goto_covered _ _⟩
  | reserved phase =>
      exact ⟨by simp [Driver.goto], .inl (goto_covered_of_acting (by rw [phase]; rfl) _)⟩
  | foundClosed phase found =>
      exact ⟨by simp [Driver.goto], .inl (goto_covered_of_acting (by rw [phase]; rfl) _)⟩
  | compensated phase =>
      exact ⟨by simp [Driver.goto], .inl (goto_covered_of_acting (by rw [phase]; rfl) _)⟩
  | beginsAgain phase =>
      exact ⟨by simp [Driver.goto], .inl (goto_covered_of_acting (by rw [phase]; rfl) _)⟩

theorem setCompletionState_live {tx : TxId} {epoch : Nat} {state : CompletionState}
    {error : Option String} (live : LiveAt db tx epoch Unfinished) :
    LiveAt (setCompletionState db tx state error now) tx epoch (· = state) := by
  obtain ⟨record, found, current, unfinished⟩ := live
  rcases setCompletionState_cases db tx state error now with
    ⟨_, closed⟩ | ⟨old, new, foundOld, _, foundNew, same, state⟩
  · have closed := closed record found
    rw [Unfinished, closed] at unfinished
    contradiction
  · cases found.symm.trans foundOld
    exact ⟨new, foundNew, same.trans current, state⟩

theorem finalize_live {tx : TxId} {epoch totalCents : Nat} {closed : Checkout.Database}
    (coupled : Coupled (db.transactions.lookup tx) (db.completions.lookup tx))
    (live : LiveAt db tx epoch Unfinished) :
    Checkout.finalize db tx totalCents now ≠ (none, closed) := by
  obtain ⟨record, found, _, unfinished⟩ := live
  rw [found] at coupled
  obtain ⟨row, foundRow, isCompleting, _⟩ := coupled.of_live unfinished
  simp [Checkout.finalize, foundRow, isCompleting]

/-- A take-over leaves a live attempt that nobody rolls back. -/
theorem takeOver_live {record : Completion}
    (coupled : Coupled (db.transactions.lookup driver.tx) (db.completions.lookup driver.tx))
    (began : beginCompletion db driver.tx lease now = .takingOver record) :
    LiveAt (takeOver db driver.tx record now) driver.tx record.epoch Reserving := by
  obtain ⟨found, notCompensating⟩ := takingOver_lookup began
  have unfinished : record.state.terminal = false :=
    (reads_takingOver coupled began record rfl).1
  have live : LiveAt (takeOver db driver.tx record now) driver.tx record.epoch
      (· = record.state) := setCompletionState_live ⟨record, found, rfl, unfinished⟩
  have reserving : Reserving record.state := by
    cases state : record.state with
    | reserving => exact .inl rfl
    | reserved => exact .inr rfl
    | compensating => exact absurd state notCompensating
    | completed => simp [state, CompletionState.terminal] at unfinished
    | aborted => simp [state, CompletionState.terminal] at unfinished
  exact live.imp (fun _ same => same ▸ reserving)

/-- The claimed rows a driver has not come to are not touched by its transaction. -/
theorem rows_current (current : ∀ row ∈ driver.remaining, RowCurrent db row)
    (distinct : driver.covered.Nodup)
    (calls : driver.phase = .begin false → driver.remaining = [])
    (writes : Writes driver db lease now after) :
    ∀ row ∈ driver.remaining, RowCurrent after row := by
  intro row member
  obtain ⟨live, unfinished⟩ := current row member
  refine ⟨live.same ?_, unfinished⟩
  rcases writes_admits writes with rfl | acting | ⟨begins, _⟩
  · rfl
  · refine .of_eq (writes_other writes ?_)
    rw [covered_of_acting acting, List.nodup_cons] at distinct
    intro same
    exact distinct.1 (List.mem_map.mpr ⟨row, member, same⟩)
  · rw [calls begins] at member
    contradiction

theorem goes_current
    (coupled : ∀ tx, Coupled (db.transactions.lookup tx) (db.completions.lookup tx))
    (current : driver.Obeys (PhaseCurrent db) (RowCurrent db)) (distinct : driver.covered.Nodup)
    (calls : driver.phase = .begin false → driver.remaining = [])
    (writes : Writes driver db lease now after) (goes : Goes driver db lease now after next asked) :
    next.Obeys (PhaseCurrent after) (RowCurrent after) := by
  have rows := rows_current current.rows distinct calls writes
  have knows := current.phase
  cases goes with
  | leaves exit => exact leave_obeys rows exit trivial (fun _ _ => recover_current)
  | owesRollback phase began =>
      obtain ⟨record, found, epoch, compensating⟩ := compensating_lookup began
      exact ⟨⟨record, found, epoch, by rw [compensating]; rfl⟩, rows⟩
  | started phase began =>
      obtain ⟨_, ⟨record, found, epoch, reserving⟩, _⟩ := started_lookup began
      exact ⟨⟨record, found, epoch, .inl reserving⟩, rows⟩
  | @tookOver again record phase began =>
      exact ⟨takeOver_live (coupled driver.tx) began, rows⟩
  | @reserved begun phase =>
      rw [phase] at knows
      have live : LiveAt db driver.tx begun.epoch Reserving := knows
      exact ⟨setCompletionState_live (live.imp reserving_unfinished), rows⟩
  | @foundClosed begun closed phase found =>
      rw [phase] at knows
      have live : LiveAt db driver.tx begun.epoch Reserved := knows
      exact absurd found (finalize_live (coupled driver.tx) (live.imp reserved_unfinished))
  | compensated phase =>
      rw [phase] at knows
      exact ⟨setCompletionState_live knows, rows⟩
  | beginsAgain phase => exact ⟨trivial, rows⟩

end Commit

section Step

variable {threshold : Int} {system after : System} {label : Label}

theorem raised_current {db : Checkout.Database} {driver next : Driver} {error : String}
    (current : driver.Obeys (PhaseCurrent db) (RowCurrent db))
    (raised : driver.raised error = some next) :
    next.Obeys (PhaseCurrent db) (RowCurrent db) := by
  rcases raised_cases raised with rfl | ⟨begun, reason, exit, phase, rfl⟩
  · exact leave_obeys current.rows .raised trivial (fun _ _ => recover_current)
  · have knows := current.phase
    rw [phase] at knows
    have live : LiveAt db driver.tx begun.epoch Reserved := knows
    exact current.goto (live.imp reserved_unfinished)

theorem received_current {db : Checkout.Database} {driver next : Driver} {outcome : Outcome}
    (current : driver.Obeys (PhaseCurrent db) (RowCurrent db))
    (received : driver.receive outcome = some next) :
    next.Obeys (PhaseCurrent db) (RowCurrent db) := by
  have knows := current.phase
  rcases receive_cases received with
    ⟨begun, _, phase, _, rfl⟩ | ⟨begun, _, phase, _, rfl⟩ | ⟨epoch, _, _, _, phase, _, rfl⟩
  · rw [phase] at knows
    exact current.goto knows
  · rw [phase] at knows
    have live : LiveAt db driver.tx begun.epoch Reserving := knows
    exact current.goto (live.imp reserving_unfinished)
  · rw [phase] at knows
    have live : LiveAt db driver.tx epoch Compensating := knows
    exact current.goto (live.imp compensating_unfinished)

theorem timedOut_current {db : Checkout.Database} {driver next : Driver}
    (current : driver.Obeys (PhaseCurrent db) (RowCurrent db))
    (timedOut : driver.timeOut = some next) :
    next.Obeys (PhaseCurrent db) (RowCurrent db) := by
  rcases timeOut_cases timedOut with ⟨begun, reason, exit, phase, rfl⟩ | ⟨exit, rfl⟩
  · have knows := current.phase
    rw [phase] at knows
    have live : LiveAt db driver.tx begun.epoch Reserving := knows
    exact current.goto (live.imp reserving_unfinished)
  · exact leave_obeys current.rows exit trivial (fun _ _ => recover_current)

theorem raised_covers {driver next : Driver} {error : String}
    (raised : driver.raised error = some next) :
    next.covered.Sublist driver.covered ∧ next.phase ≠ .begin false := by
  rcases raised_cases raised with rfl | ⟨_, _, _, phase, rfl⟩
  · exact ⟨leave_covered driver _, leave_not_begins driver _⟩
  · exact ⟨goto_covered_of_acting (by rw [phase]; rfl) _, by simp [Driver.goto]⟩

theorem received_covers {driver next : Driver} {outcome : Outcome}
    (received : driver.receive outcome = some next) :
    next.covered.Sublist driver.covered ∧ next.phase ≠ .begin false := by
  rcases receive_cases received with
    ⟨_, _, phase, _, rfl⟩ | ⟨_, _, phase, _, rfl⟩ | ⟨_, _, _, _, phase, _, rfl⟩
  all_goals exact ⟨goto_covered_of_acting (by rw [phase]; rfl) _, by simp [Driver.goto]⟩

theorem timedOut_covers {driver next : Driver} (timedOut : driver.timeOut = some next) :
    next.covered.Sublist driver.covered ∧ next.phase ≠ .begin false := by
  rcases timeOut_cases timedOut with ⟨_, _, _, phase, rfl⟩ | ⟨exit, rfl⟩
  · exact ⟨goto_covered_of_acting (by rw [phase]; rfl) _, by simp [Driver.goto]⟩
  · exact ⟨leave_covered driver _, leave_not_begins driver _⟩

theorem stuckRows_sublist (db : Checkout.Database) (claimed : List TxId) :
    ((claimed.filterMap (fun tx => (db.completions.lookup tx).map (fun row =>
      (⟨tx, row.epoch, row.state, row.totalCents⟩ : StuckRow)))).map
        StuckRow.transactionId).Sublist claimed := by
  induction claimed with
  | nil => exact List.Sublist.refl _
  | cons tx claimed ih =>
      cases found : db.completions.lookup tx with
      | none => simpa [found] using ih.cons tx
      | some record => simpa [found] using ih

theorem firstRow_covers {db checkout : Checkout.Database} {claimed : List TxId} {lease limit : Nat}
    {now : Time} {rows : List StuckRow} {driver : Driver}
    (done : claimStuck db claimed lease limit now = some (rows, checkout))
    (first : firstRow rows = some driver) :
    driver.covered.Sublist claimed ∧ driver.phase ≠ .begin false := by
  have sublist : (rows.map StuckRow.transactionId).Sublist claimed := by
    obtain ⟨_, _, rfl, _⟩ := claimStuck_eq db now done
    exact stuckRows_sublist db claimed
  cases rows with
  | nil => contradiction
  | cons row remaining =>
      cases first
      refine ⟨?_, ?_⟩
      · refine List.Sublist.trans ?_ sublist
        exact goto_covered ⟨row.transactionId, .recovery remaining 0, recover row⟩ (recover row)
      · simp only [recover]
        split <;> simp

theorem Unattended.not_covered {id other : DriverId} {tx : TxId} {driver : Driver}
    (unattended : Unattended system id tx) (running : system.drivers.lookup other = some driver)
    (different : other ≠ id) : tx ∉ driver.covered :=
  unattended (other, driver) (Table.lookup_eq_some.mp running) different

/-- Step lemma: no transaction comes to be covered twice. -/
theorem Apart.step (apart : Apart system.drivers) (one : OneDriver system label)
    (does : Does threshold system label after) : Apart after.drivers := by
  cases does with
  | inserts absent => exact apart
  | scans => exact apart
  | sweeps => exact apart
  | calls free =>
      rw [setDriver_table]
      apply apart.goes
      · intro _ _ _ _ _ member
        contradiction
      · exact List.nodup_nil
      · intro _
        rfl
  | claims free done =>
      have nodup := (claimStuck_eq system.checkout _ done).1
      rw [setDriver_table]
      apply apart.assign
      · intro running first other driver' different found tx member
        obtain ⟨sublist, _⟩ := firstRow_covers done first
        exact (one tx (sublist.subset member)).not_covered found different
      · intro running first
        exact nodup.sublist (firstRow_covers done first).1
      · intro running first begins
        exact absurd begins (firstRow_covers done first).2
  | @commits id lease now driver next checkout asked running writes goes =>
      obtain ⟨acts, shrinks | ⟨begins, admits, grows⟩⟩ := goes_covers goes
      · exact apart.shrinks running shrinks acts
      · have unattended := one driver running begins admits
        rw [apart.calls id driver running begins, List.map_nil] at grows
        rw [setDriver_table]
        apply apart.goes
        · intro other driver' different found tx member
          cases List.mem_singleton.mp (grows.subset member)
          exact unattended.not_covered found different
        · exact (List.nodup_singleton _).sublist grows
        · intro begins
          exact absurd begins acts
  | raisesAfterCommit running raised writes => contradiction
  | raises running raised =>
      exact apart.shrinks running (raised_covers raised).1 (raised_covers raised).2
  | receives running onTopic received =>
      exact apart.shrinks running (received_covers received).1 (received_covers received).2
  | timesOut running timedOut =>
      exact apart.shrinks running (timedOut_covers timedOut).1 (timedOut_covers timedOut).2
  | crashes =>
      rw [setDriver_table]
      exact apart.stops
  | publishes known => exact apart
  | handles onTopic done => exact apart
  | publishesOutcome queued => exact apart

theorem Exclusive.currentCommit (exclusive : Exclusive system) {id : DriverId} {lease : Nat}
    {now : Time} {driver next : Driver} {checkout : Checkout.Database} {asked : List Request}
    (one : OneDriver system (.commit id lease now))
    (running : system.drivers.lookup id = some driver)
    (writes : Writes driver system.checkout lease now checkout)
    (goes : Goes driver system.checkout lease now checkout next asked) (other : DriverId)
    (driver' : Driver)
    (found : (assign system.drivers id (some next)).lookup other = some driver') :
    driver'.Obeys (PhaseCurrent checkout) (RowCurrent checkout) := by
  rw [lookup_assign] at found
  split at found
  · cases found
    exact goes_current exclusive.coupled (exclusive.current id driver running)
      (exclusive.apart.distinct id driver running) (exclusive.apart.calls id driver running)
      writes goes
  · rename_i different
    refine current_same (fun tx member => ?_) (exclusive.current other driver' found)
    rcases writes_admits writes with rfl | acting | ⟨begins, admits⟩
    · rfl
    · refine .of_eq (writes_other writes ?_)
      intro same
      subst same
      exact exclusive.apart.disjoint id other driver driver' running found (Ne.symm different)
        driver.tx (by simp [covered_of_acting acting]) member
    · refine .of_eq (writes_other writes ?_)
      intro same
      subst same
      exact (one driver running begins admits).not_covered found different member

theorem Exclusive.currentStep (exclusive : Exclusive system) (one : OneDriver system label)
    (does : Does threshold system label after) (id : DriverId) (driver : Driver)
    (found : after.drivers.lookup id = some driver) :
    driver.Obeys (PhaseCurrent after.checkout) (RowCurrent after.checkout) := by
  cases does with
  | inserts absent => exact current_same (fun _ _ => rfl) (exclusive.current id driver found)
  | scans =>
      exact current_same (fun tx _ => .of_eq (by simp only [scanItem_completions]))
        (exclusive.current id driver found)
  | sweeps => exact current_same (fun _ _ => rfl) (exclusive.current id driver found)
  | calls free =>
      rcases setDriver_found found with ⟨rfl, same⟩ | before
      · cases same
        exact ⟨trivial, fun _ member => by contradiction⟩
      · exact exclusive.current id driver before
  | claims free done =>
      rw [setDriver_drivers] at found
      split at found
      · refine firstRow_obeys found (fun row member => ?_) (fun row _ => recover_current)
        obtain ⟨_, record, foundRecord, epoch, state, live⟩ := claimed_lookup done member
        have before : LiveAt system.checkout row.transactionId row.epoch (· = row.state) :=
          ⟨record, foundRecord, epoch, state⟩
        exact ⟨before.same ((rests_claimStuck done).same _), state ▸ live⟩
      · exact current_same (fun tx _ => (rests_claimStuck done).same tx)
          (exclusive.current id driver found)
  | commits running writes goes =>
      exact exclusive.currentCommit one running writes goes id driver found
  | raisesAfterCommit running raised writes => contradiction
  | raises running raised =>
      rcases setDriver_found found with ⟨rfl, same⟩ | before
      · cases same
        exact raised_current (exclusive.current _ _ running) raised
      · exact exclusive.current id driver before
  | receives running onTopic received =>
      rcases setDriver_found found with ⟨rfl, same⟩ | before
      · cases same
        exact received_current (exclusive.current _ _ running) received
      · exact exclusive.current id driver before
  | timesOut running timedOut =>
      rcases setDriver_found found with ⟨rfl, same⟩ | before
      · cases same
        exact timedOut_current (exclusive.current _ _ running) timedOut
      · exact exclusive.current id driver before
  | crashes =>
      rw [setDriver_drivers] at found
      split at found
      · contradiction
      · exact exclusive.current id driver found
  | publishes known => exact exclusive.current id driver found
  | handles onTopic done => exact exclusive.current id driver found
  | publishesOutcome queued => exact exclusive.current id driver found

theorem committing_any (system : System) (label : Label) :
    Committing (fun _ _ => True) system label := by
  unfold Committing
  split
  · trivial
  · split <;> trivial

/-- A promised attempt's driver is not one that rolls it back. -/
theorem Exclusive.unreleasedStep (exclusive : Exclusive system)
    (does : Does threshold system label after) (tx : TxId) (new : Completion)
    (found : after.checkout.completions.lookup tx = some new) (promised : Promised new.state) :
    ¬ ReleaseQueued after.checkout ⟨tx, new.epoch⟩ := by
  intro queued
  rcases step_writes exclusive.toSound (committing_any system label) does with
    rests | ⟨id, driver, running, _, drives⟩
  · obtain ⟨old, known, epoch, state⟩ := sameState_some (rests.same tx) found
    rw [epoch] at queued
    exact exclusive.unreleased tx old known (state ▸ promised) (rests.releases _ queued)
  · have knows := (exclusive.current id driver running).phase
    have turns := drives.turns tx
    rw [found] at turns
    generalize known : system.checkout.completions.lookup tx = before at turns
    have kept : ∀ old, before = some old → new.epoch = old.epoch → Promised old.state →
        (∀ epoch reason next, driver.phase ≠ .markCompensating epoch reason next) → False := by
      intro old same epoch promised quiet
      subst same
      rw [epoch] at queued
      rcases drives.releases _ queued with already | ⟨_, reason, next, marks⟩
      · exact exclusive.unreleased tx old known promised already
      · exact quiet _ reason next marks
    cases turns with
    | keeps same spared =>
        obtain ⟨old, rfl, epoch, state⟩ := sameState_some same rfl
        rw [epoch] at queued
        rcases drives.releases _ queued with already | ⟨own, reason, next, marks⟩
        · exact exclusive.unreleased tx old known (state ▸ promised) already
        · simp only at own
          subst own
          rw [marks] at knows
          obtain ⟨record, foundRecord, _, unfinished⟩ := knows
          cases known.symm.trans foundRecord
          rw [Unfinished, spared rfl _ reason next marks old rfl] at unfinished
          contradiction
    | starts phase closed epoch state =>
        rcases drives.releases _ queued with already | ⟨_, reason, next, marks⟩
        · obtain ⟨_, old, foundOld, below⟩ := exclusive.queued _ already
          cases known.symm.trans foundOld
          simp only [Request.attempt, epoch, nextEpoch] at below
          omega
        · simp [phase] at marks
    | reserves phase live epoch state =>
        rw [phase] at knows
        obtain ⟨record, foundRecord, _, reserving⟩ := knows
        cases known.symm.trans foundRecord
        refine kept _ rfl epoch ?_ (by simp [phase])
        exact reserving.imp_right .inl
    | @finalizes acting old new phase live epoch state =>
        have reserved : Reserved old.state := by
          cases isPhase : driver.phase <;> rw [isPhase] at phase knows <;>
            simp only [Phase.finalizing] at phase <;> try contradiction
          all_goals
            obtain ⟨record, foundRecord, _, reserved⟩ := knows
            cases known.symm.trans foundRecord
            exact reserved
        apply kept _ rfl epoch (.inr (.inl reserved))
        intro epoch reason next marks
        simp [marks, Phase.finalizing] at phase
    | compensates phase live epoch state => simp [Promised, state] at promised
    | reopens phase live epoch state => simp [Promised, state] at promised

/-- Step lemma: with one driver at a time, every driver's attempt stays current. -/
theorem Exclusive.step (exclusive : Exclusive system) (one : OneDriver system label)
    (does : Does threshold system label after) : Exclusive after where
  toBasketsAsked := exclusive.toBasketsAsked.step does
  apart := exclusive.apart.step one does
  current := exclusive.currentStep one does
  unreleased := exclusive.unreleasedStep does

end Step

section Agreement

variable {threshold : Int} {system after : System} {label : Label}

/-- A driver of the current attempt finalizes nothing that is being rolled back,
and rolls back nothing that is COMPLETED. -/
theorem Exclusive.keepsSale (exclusive : Exclusive system) {id : DriverId} {driver : Driver}
    (running : system.drivers.lookup id = some driver) : KeepsSale system driver := by
  have knows := (exclusive.current id driver running).phase
  have finalizes : ∀ record epoch, system.checkout.completions.lookup driver.tx = some record →
      LiveAt system.checkout driver.tx epoch Reserved →
      MayFinalize system driver.tx record epoch := by
    rintro record epoch known ⟨again, foundAgain, current, reserved⟩ _
    cases known.symm.trans foundAgain
    exact ⟨exclusive.unreleased driver.tx record known (.inr (.inl reserved)), .inl current.symm⟩
  unfold KeepsSale
  cases known : system.checkout.completions.lookup driver.tx with
  | none => trivial
  | some record =>
      cases phase : driver.phase with
      | setReserved begun =>
          rw [phase] at knows
          obtain ⟨again, foundAgain, current, _⟩ := knows
          cases known.symm.trans foundAgain
          exact fun _ => .inl current.symm
      | finalize begun =>
          rw [phase] at knows
          exact finalizes record begun.epoch known knows
      | rollForward epoch totalCents =>
          rw [phase] at knows
          exact finalizes record epoch known knows
      | markCompensating epoch reason next =>
          rw [phase] at knows
          obtain ⟨again, foundAgain, current, unfinished⟩ := knows
          cases known.symm.trans foundAgain
          intro completed
          rw [Unfinished, completed] at unfinished
          contradiction
      | begin again => trivial
      | awaitReserve begun => trivial
      | readStatus begun => trivial
      | awaitRelease epoch next => trivial
      | reopen epoch next => trivial
      | left exit => trivial

theorem committing_of_running {permits : System → Driver → Prop}
    (permitted : ∀ id driver, system.drivers.lookup id = some driver → permits system driver) :
    Committing permits system label := by
  unfold Committing
  split
  · trivial
  · split
    · trivial
    · rename_i driver running
      exact permitted _ driver running

/-- The two services agree on every attempt. -/
structure Agreed (system : System) : Prop extends Exclusive system where
  kept : SaleKept system
  old : OldClosed (fun system attempt => Undone system.inventory attempt) system

theorem Agreed.step (agreed : Agreed system) (one : OneDriver system label)
    (does : Does threshold system label after) : Agreed after where
  toExclusive := agreed.toExclusive.step one does
  kept := agreed.kept.step
    (committing_of_running (fun _ _ running => agreed.toExclusive.keepsSale running)) does
  old := by
    have grows := step_grows agreed.toSound does
    refine agreed.old.step agreed.toSound ?_ ?_ (committing_any system label) does
    · exact fun attempt undone => undone_follows (grows.follows attempt) undone
    · intro id driver acting next record running _ phase found live
      have carries := (agreed.drivers id driver running).phase
      have knows := (agreed.current id driver running).phase
      rw [phase] at carries knows
      obtain ⟨again, foundAgain, current, _⟩ := knows
      cases found.symm.trans foundAgain
      rw [current]
      exact carries.2

theorem Agreed.opening (levels : Table Sku Nat) : Agreed (opening levels) where
  toSound := .opening levels
  asks _ _ _ found := by contradiction
  apart := ⟨fun _ _ _ _ found => by contradiction, fun _ _ found => by contradiction,
    fun _ _ found => by contradiction⟩
  current _ _ found := by contradiction
  unreleased _ _ found := by contradiction
  kept := .opening levels
  old := .opening _ levels

theorem agreed_of_run {levels : Table Sku Nat} {labels : List Label}
    (run : Run (Saga.step threshold) OneDriver (opening levels) labels system) : Agreed system :=
  run.invariant (.opening levels) (fun _ _ _ agreed one taken => agreed.step one (step_does taken))

theorem Agreed.applied (agreed : Agreed system) {tx : TxId} {epoch : Nat}
    (completed : CompletedAt system.checkout tx epoch) :
    system.inventory.adjustments.lookup ⟨tx, epoch⟩ =
      some (.applied (itemLines system.checkout tx)) := by
  obtain ⟨taken, applied⟩ := agreed.kept.applied completed
  obtain ⟨record, found, rfl, state⟩ := completed.record (agreed.coupled tx)
  obtain ⟨lines, onTopic, rfl⟩ := agreed.records _ _ applied
  have basket := agreed.asks tx record lines found (by simp [state]) (agreed.topic _ onTopic)
  rw [applied, basket, Inventory.normalize, itemLines, merge_merge]

theorem Agreed.others (agreed : Agreed system) {tx : TxId} {epoch other : Nat}
    (completed : CompletedAt system.checkout tx epoch) (different : other ≠ epoch)
    (lines : List (Sku × Nat)) :
    system.inventory.adjustments.lookup ⟨tx, other⟩ ≠ some (.applied lines) := by
  intro applied
  obtain ⟨record, found, rfl, _⟩ := completed.record (agreed.coupled tx)
  obtain ⟨positive, again, foundAgain, below⟩ := agreed.toSound.reached applied
  cases found.symm.trans foundAgain
  have earlier := Nat.lt_of_le_of_ne below different
  exact not_undone_of_applied applied ((agreed.old tx record found).1 other positive earlier)

/-- In every run with at most one driver at a time on a transaction: a COMPLETED
transaction has taken exactly its items, at its completion's epoch only, and no
release of them was ever queued; an ABORTED attempt holds no stock, now or later. -/
theorem saga_agreement (threshold : Int) (levels : Table Sku Nat) (labels : List Label)
    (system : System)
    (run : Run (Saga.step threshold) OneDriver (opening levels) labels system) (tx : TxId) :
    (∀ epoch, CompletedAt system.checkout tx epoch →
      system.inventory.adjustments.lookup ⟨tx, epoch⟩ =
        some (.applied (itemLines system.checkout tx)) ∧
      ¬ ReleaseQueued system.checkout ⟨tx, epoch⟩ ∧
      ∀ other ≠ epoch, ∀ lines,
        system.inventory.adjustments.lookup ⟨tx, other⟩ ≠ some (.applied lines)) ∧
    (∀ record, system.checkout.completions.lookup tx = some record → record.state = .aborted →
      Undone system.inventory ⟨tx, record.epoch⟩) := by
  have agreed := agreed_of_run run
  refine ⟨fun epoch completed => ⟨agreed.applied completed, ?_, ?_⟩, ?_⟩
  · obtain ⟨record, found, rfl, state⟩ := completed.record (agreed.coupled tx)
    exact agreed.kept.unreleased tx record found state
  · exact fun other different lines => agreed.others completed different lines
  · exact fun record found aborted => (agreed.old tx record found).2 aborted

end Agreement

/-- A call reserves two items and dies; recovery rolls its attempt back, and a
second call completes the transaction. -/
def completedSecond : List Label :=
  let first := Request.stockReservationRequested ⟨1, 1⟩ [("SKU-000001", 2)]
  let release := Request.stockReleaseRequested ⟨1, 1⟩
  let released := Outcome.stockReleased ⟨1, 1⟩ 2 false
  let second := Request.stockReservationRequested ⟨1, 2⟩ [("SKU-000001", 2)]
  let reserved := Outcome.stockReserved ⟨1, 2⟩ false
  [.insertTransaction 1 0, .scanItem 1 "SKU-000001" 250, .scanItem 1 "SKU-000001" 250,
    .complete 0 1, .commit 0 60 10, .publish first, .handle first, .crash 0,
    .runOnce 1 [1] 60 20 100, .commit 1 60 101, .publish release, .handle release,
    .publishOutcome released, .reply 1 released, .commit 1 60 102,
    .complete 2 1, .commit 2 60 110, .publish second, .handle second, .handle first,
    .publishOutcome reserved, .reply 2 reserved, .commit 2 60 112, .commit 2 60 113]

theorem completedSecond_runs : (completedSecond.foldlM (guarded (step 5) OneDriver)
    (opening (Table.empty.put "SKU-000001" 5))).isSome = true := by
  decide +kernel

theorem saga_agreement_completedSecond :
    ∃ system, system ∈ completedSecond.foldlM (step 5)
        (opening (Table.empty.put "SKU-000001" 5)) ∧
      system.inventory.adjustments.lookup ⟨1, 2⟩ =
        some (.applied (itemLines system.checkout 1)) := by
  have run : Run (step 5) OneDriver _ completedSecond _ :=
    .of_guarded (Option.some_get completedSecond_runs).symm
  exact ⟨_, run.foldlM_eq, ((saga_agreement 5 (Table.empty.put "SKU-000001" 5) completedSecond _
    run 1).1 2 (by decide +kernel)).1⟩

end SelfCheckout.Saga
