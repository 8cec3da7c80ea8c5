import SelfCheckout.Saga.Sound

namespace SelfCheckout.Saga

open SelfCheckout.Data SelfCheckout.Checkout

/-! # A completed sale and its stock

A driver writes RESERVED, finalizes and rolls back by transaction id, on what it
learnt earlier.  As long as none of these writes hits an attempt that is not the
driver's own, or that is being rolled back, a COMPLETED transaction keeps the
stock of its epoch.
-/

def CompletedAt (db : Checkout.Database) (tx : TxId) (epoch : Nat) : Prop :=
  statusOf db tx = some .completed ∧ (db.completions.lookup tx).map Completion.epoch = some epoch

instance (db : Checkout.Database) (tx : TxId) (epoch : Nat) : Decidable (CompletedAt db tx epoch) :=
  inferInstanceAs (Decidable (_ ∧ _))

instance (db : Checkout.Database) (attempt : Attempt) : Decidable (ReleaseQueued db attempt) :=
  inferInstanceAs (Decidable (_ ∈ _))

instance (db : Inventory.Database) (attempt : Attempt) : Decidable (Taken db attempt) :=
  inferInstanceAs (Decidable (_ ∨ _))

instance (db : Inventory.Database) (attempt : Attempt) : Decidable (Undone db attempt) :=
  inferInstanceAs (Decidable (_ ∨ _))

/-- RESERVED may be written over this live record by a driver of `epoch`. -/
def MayReserve (system : System) (tx : TxId) (record : Completion) (epoch : Nat) : Prop :=
  record.state.terminal = false →
    epoch = record.epoch ∨ Taken system.inventory ⟨tx, record.epoch⟩

/-- This live record may be finalized by a driver of `epoch`. -/
def MayFinalize (system : System) (tx : TxId) (record : Completion) (epoch : Nat) : Prop :=
  record.state.terminal = false →
    ¬ ReleaseQueued system.checkout ⟨tx, record.epoch⟩ ∧
      (epoch = record.epoch ∨
        adjustmentState system.inventory ⟨tx, record.epoch⟩ = some .applied)

/-- The driver's next write hits its own attempt, which nobody rolls back. -/
def KeepsSale (system : System) (driver : Driver) : Prop :=
  match system.checkout.completions.lookup driver.tx with
  | none => True
  | some record =>
      match driver.phase with
      | .setReserved begun => MayReserve system driver.tx record begun.epoch
      | .finalize begun => MayFinalize system driver.tx record begun.epoch
      | .rollForward epoch _ => MayFinalize system driver.tx record epoch
      | .markCompensating epoch _ _ => record.state = .completed → record.epoch ≠ epoch
      | _ => True

instance (system : System) (driver : Driver) : Decidable (KeepsSale system driver) := by
  unfold KeepsSale MayReserve MayFinalize
  cases system.checkout.completions.lookup driver.tx with
  | none => exact .isTrue trivial
  | some record =>
      dsimp only
      cases driver.phase <;> dsimp only <;> infer_instance

/-- A driver that rolls a claimed row forward knows its stock was taken. -/
def PhaseForward (system : System) (tx : TxId) : Phase → Prop
  | .rollForward epoch _ => Taken system.inventory ⟨tx, epoch⟩
  | _ => True

def RowForward (system : System) (row : StuckRow) : Prop :=
  row.state = .reserved → Taken system.inventory ⟨row.transactionId, row.epoch⟩

structure SaleKept (system : System) : Prop extends Sound system where
  taken : ∀ tx record, system.checkout.completions.lookup tx = some record →
    record.state = .reserved ∨ record.state = .completed →
      Taken system.inventory ⟨tx, record.epoch⟩
  unreleased : ∀ tx record, system.checkout.completions.lookup tx = some record →
    record.state = .completed → ¬ ReleaseQueued system.checkout ⟨tx, record.epoch⟩
  forward : ∀ id driver, system.drivers.lookup id = some driver →
    driver.Obeys (PhaseForward system) (RowForward system)

section Sale

variable {threshold : Int} {system after : System} {label : Label}

theorem SaleKept.attempts (kept : SaleKept system)
    (allowed : Committing KeepsSale system label) (does : Does threshold system label after)
    (tx : TxId) (new : Completion) (found : after.checkout.completions.lookup tx = some new) :
    (new.state = .reserved ∨ new.state = .completed → Taken after.inventory ⟨tx, new.epoch⟩) ∧
      (new.state = .completed → ¬ ReleaseQueued after.checkout ⟨tx, new.epoch⟩) := by
  have follows := (step_grows kept.toSound does).follows
  rcases step_writes kept.toSound allowed does with rests | ⟨id, driver, running, permits, drives⟩
  · obtain ⟨old, foundOld, epoch, state⟩ := sameState_some (rests.same tx) found
    rw [epoch, state]
    exact ⟨fun holds => taken_follows (follows _) (kept.taken tx old foundOld holds),
      fun completed queued => kept.unreleased tx old foundOld completed (rests.releases _ queued)⟩
  · have turns := drives.turns tx
    rw [found] at turns
    generalize known : system.checkout.completions.lookup tx = before at turns
    cases turns with
    | keeps same spared =>
        obtain ⟨old, rfl, epoch, state⟩ := sameState_some same rfl
        rw [epoch, state]
        refine ⟨fun holds => taken_follows (follows _) (kept.taken tx old known holds), ?_⟩
        intro completed queued
        rcases drives.releases _ queued with already | ⟨own, reason, next, phase⟩
        · exact kept.unreleased tx old known completed already
        · simp only [KeepsSale, own, known, phase] at permits
          exact permits completed rfl
    | starts phase closed epoch state => simp [state]
    | reserves phase live epoch state =>
        simp only [KeepsSale, known, phase, MayReserve] at permits
        rw [epoch]
        refine ⟨fun _ => ?_, fun completed => by simp [state] at completed⟩
        rcases permits live with own | taken
        · rw [← own]
          have carries := (kept.drivers id driver running).phase
          rw [phase] at carries
          exact taken_follows (follows _) carries.2
        · exact taken_follows (follows _) taken
    | @finalizes acting old new phase live epoch state =>
        have may : MayFinalize system driver.tx old acting ∧
            Taken system.inventory ⟨driver.tx, acting⟩ := by
          have carries := (kept.drivers id driver running).phase
          have forward := (kept.forward id driver running).phase
          simp only [KeepsSale, known] at permits
          cases running : driver.phase <;> simp only [running, Phase.finalizing] at phase <;>
            simp only [running] at permits carries forward <;> cases phase
          · exact ⟨permits, carries.2⟩
          · exact ⟨permits, forward⟩
        obtain ⟨unreleased, current⟩ := may.1 live
        have taken : Taken system.inventory ⟨driver.tx, old.epoch⟩ := by
          rcases current with own | applied
          · rw [← own]
            exact may.2
          · exact .inl applied
        rw [epoch]
        refine ⟨fun _ => taken_follows (follows _) taken, fun _ queued => ?_⟩
        rcases drives.releases _ queued with already | ⟨_, reason, next, compensates⟩
        · exact unreleased already
        · simp [compensates, Phase.finalizing] at phase
    | compensates phase live epoch state => simp [state]
    | reopens phase live epoch state => simp [state]

theorem forward_follows {tx : TxId} {phase : Phase} {before : System}
    (follows : ∀ attempt, Inventory.Adjustment.Follows
      (before.inventory.adjustments.lookup attempt) (after.inventory.adjustments.lookup attempt))
    (forward : PhaseForward before tx phase) : PhaseForward after tx phase := by
  cases phase with
  | rollForward epoch totalCents => exact taken_follows (follows _) forward
  | begin again => trivial
  | awaitReserve begun => trivial
  | setReserved begun => trivial
  | finalize begun => trivial
  | readStatus begun => trivial
  | markCompensating epoch reason next => trivial
  | awaitRelease epoch next => trivial
  | reopen epoch next => trivial
  | left exit => trivial

theorem recover_forward {row : StuckRow} (forward : RowForward system row) :
    PhaseForward system row.transactionId (recover row) := by
  unfold recover
  split
  · rename_i reserved
    exact forward reserved
  · trivial

/-- Only a claimed row is rolled forward, and it was RESERVED when it was claimed. -/
theorem SaleKept.forwardStep (kept : SaleKept system) (does : Does threshold system label after)
    (id : DriverId) (driver : Driver) (running : after.drivers.lookup id = some driver) :
    driver.Obeys (PhaseForward after) (RowForward after) := by
  have follows := (step_grows kept.toSound does).follows
  have later : ∀ old, system.drivers.lookup id = some old →
      old.Obeys (PhaseForward after) (RowForward after) := by
    intro old found
    exact (kept.forward id old found).imp (forward_follows follows)
      (fun row _ forward reserved => taken_follows (follows _) (forward reserved))
  rcases step_drivers does running with
    same | ⟨tx, rfl⟩ | ⟨claimed, lease, limit, now, rows, checkout, done, first⟩ |
    ⟨old, found, continues⟩
  · exact later driver same
  · exact ⟨trivial, fun _ member => by contradiction⟩
  · refine firstRow_obeys first (fun row member reserved => ?_) (fun row _ => recover_forward)
    obtain ⟨_, record, foundRecord, epoch, state, _⟩ := claimed_lookup done member
    rw [← epoch]
    exact taken_follows (follows _)
      (kept.taken _ record foundRecord (.inl (state.trans reserved)))
  · cases continues with
    | leaves exit => 
        exact leave_obeys (later old found).rows exit trivial (fun _ _ => recover_forward)
    | goes phase notForward =>
        apply (later old found).goto
        cases phase <;> first | trivial | exact absurd rfl (notForward _ _)

/-- Step lemma: a permitted step keeps the stock of completed sales. -/
theorem SaleKept.step (kept : SaleKept system) (allowed : Committing KeepsSale system label)
    (does : Does threshold system label after) : SaleKept after where
  toSound := kept.toSound.step does
  taken tx new found := (kept.attempts allowed does tx new found).1
  unreleased tx new found := (kept.attempts allowed does tx new found).2
  forward := kept.forwardStep does

theorem SaleKept.opening (levels : Table Sku Nat) : SaleKept (opening levels) where
  toSound := .opening levels
  taken _ _ found := by contradiction
  unreleased _ _ found := by contradiction
  forward _ _ running := by contradiction

theorem saleKept_of_run {levels : Table Sku Nat} {labels : List Label}
    (run : Run (Saga.step threshold) (Committing KeepsSale) (Saga.opening levels) labels system) :
    SaleKept system :=
  run.invariant (.opening levels) (fun _ _ _ kept allowed taken =>
    kept.step allowed (step_does taken))

theorem CompletedAt.record {tx : TxId} {epoch : Nat}
    (coupled : Coupled (system.checkout.transactions.lookup tx)
      (system.checkout.completions.lookup tx))
    (completed : CompletedAt system.checkout tx epoch) :
    ∃ record, system.checkout.completions.lookup tx = some record ∧ record.epoch = epoch ∧
      record.state = .completed := by
  obtain ⟨record, found, same⟩ := Option.map_eq_some_iff.mp completed.2
  have state := coupled.rows.completed.mp completed.1
  simp only [stateOf, found, Option.map_some, Option.some.injEq] at state
  exact ⟨record, found, same, state⟩

/-- COMPLETED is never left, and its epoch never changes. -/
theorem CompletedAt.advances (sound : Sound system)
    (advances : Advances system.checkout after.checkout) {tx : TxId} {epoch : Nat}
    (completed : CompletedAt system.checkout tx epoch) : CompletedAt after.checkout tx epoch := by
  have advance := Moves.advance (sound.coupled tx) (advances.moves tx)
  obtain ⟨record, found, rfl, _⟩ := completed.record (sound.coupled tx)
  obtain ⟨new, foundNew, _⟩ := epoch_le_of_moves (advances.moves tx) found
  have same := advance.otherwise (fun opened => by simp [completed.1] at opened)
  simp only [epochOf, found, foundNew, Option.map_some, Option.getD_some] at same
  exact ⟨advance.completed completed.1, by rw [foundNew, Option.map_some, same]⟩

theorem CompletedAt.step (sound : Sound system) (does : Does threshold system label after)
    {tx : TxId} {epoch : Nat} (completed : CompletedAt system.checkout tx epoch) :
    CompletedAt after.checkout tx epoch :=
  completed.advances sound (step_grows sound does).advances

theorem SaleKept.applied (kept : SaleKept system) {tx : TxId} {epoch : Nat}
    (completed : CompletedAt system.checkout tx epoch) :
    ∃ lines, system.inventory.adjustments.lookup ⟨tx, epoch⟩ = some (.applied lines) := by
  obtain ⟨record, found, rfl, state⟩ := completed.record (kept.coupled tx)
  apply applied_of_taken (kept.taken tx record found (.inr state)) (kept.records _)
  intro onTopic
  rcases kept.topic _ onTopic with queued | asked
  · exact kept.unreleased tx record found state queued
  · obtain ⟨_, _, _, reservation⟩ := kept.asked _ asked
    cases reservation

/-- The sale of `lines` at this epoch is done, in a system that keeps it. -/
structure StillHeld (tx : TxId) (epoch : Nat) (lines : List (Sku × Nat)) (system : System) :
    Prop where
  kept : SaleKept system
  completed : CompletedAt system.checkout tx epoch
  applied : system.inventory.adjustments.lookup ⟨tx, epoch⟩ = some (.applied lines)

theorem StillHeld.step {tx : TxId} {epoch : Nat} {lines : List (Sku × Nat)}
    (held : StillHeld tx epoch lines system) (allowed : Committing KeepsSale system label)
    (does : Does threshold system label after) : StillHeld tx epoch lines after := by
  have kept := held.kept.step allowed does
  have completed := held.completed.step held.kept.toSound does
  refine ⟨kept, completed, ?_⟩
  obtain ⟨again, applied⟩ := kept.applied completed
  rcases (step_grows held.kept.toSound does).follows ⟨tx, epoch⟩ with same | arrow
  · rw [same, held.applied]
  · rw [held.applied, applied] at arrow
    cases arrow

/-- In every run whose writes hit the driver's own attempt, unless it is being
rolled back: a transaction COMPLETED at an epoch has that epoch's record APPLIED,
and so it stays. -/
theorem completed_sale_keeps_its_stock (threshold : Int) (levels : Table Sku Nat)
    (labels : List Label) (system : System)
    (run : Run (Saga.step threshold) (Committing KeepsSale) (Saga.opening levels) labels system)
    (tx : TxId) (epoch : Nat) (completed : CompletedAt system.checkout tx epoch) :
    ∃ lines, system.inventory.adjustments.lookup ⟨tx, epoch⟩ = some (.applied lines) ∧
      ∀ more later, Run (Saga.step threshold) (Committing KeepsSale) system more later →
        CompletedAt later.checkout tx epoch ∧
          later.inventory.adjustments.lookup ⟨tx, epoch⟩ = some (.applied lines) := by
  have kept := saleKept_of_run run
  obtain ⟨lines, applied⟩ := kept.applied completed
  refine ⟨lines, applied, fun more later future => ?_⟩
  have holds := future.invariant
    (show StillHeld tx epoch lines system from ⟨kept, completed, applied⟩)
    (fun _ _ _ held allowed taken => held.step allowed (step_does taken))
  exact ⟨holds.completed, holds.applied⟩

end Sale

def undisturbed : List Label :=
  let request := Request.stockReservationRequested ⟨1, 1⟩ [("SKU-000001", 1)]
  let reserved := Outcome.stockReserved ⟨1, 1⟩ false
  [.insertTransaction 1 0, .scanItem 1 "SKU-000001" 250, .complete 0 1, .commit 0 60 10,
    .publish request, .handle request, .publishOutcome reserved, .reply 0 reserved,
    .commit 0 60 12, .commit 0 60 13]

theorem undisturbed_runs : (undisturbed.foldlM (guarded (step 5) (Committing KeepsSale))
    (opening (Table.empty.put "SKU-000001" 5))).isSome = true := by
  decide +kernel

theorem completed_sale_keeps_its_stock_undisturbed :
    ∃ lines, ((undisturbed.foldlM (guarded (step 5) (Committing KeepsSale))
      (opening (Table.empty.put "SKU-000001" 5))).get undisturbed_runs).inventory.adjustments.lookup
        ⟨1, 1⟩ = some (.applied lines) := by
  obtain ⟨lines, applied, _⟩ := completed_sale_keeps_its_stock 5
    (Table.empty.put "SKU-000001" 5) undisturbed _
    (.of_guarded (Option.some_get undisturbed_runs).symm) 1 1 (by decide +kernel)
  exact ⟨lines, applied⟩

/-- A call is suspended past its lease with a reservation in hand.  A recovery
pass rolls the attempt back; the call then finalizes it. -/
def overtaken : List Label :=
  let request := Request.stockReservationRequested ⟨1, 1⟩ [("SKU-000001", 1)]
  let reserved := Outcome.stockReserved ⟨1, 1⟩ false
  let release := Request.stockReleaseRequested ⟨1, 1⟩
  [.insertTransaction 1 0, .scanItem 1 "SKU-000001" 250, .complete 0 1, .commit 0 60 10,
    .publish request, .handle request, .publishOutcome reserved, .reply 0 reserved,
    .runOnce 1 [1] 60 20 100, .commit 1 60 101, .commit 0 60 102, .commit 0 60 103,
    .publish release, .handle release]

theorem overtaken_runs : (overtaken.foldlM (step 5)
    (opening (Table.empty.put "SKU-000001" 5))).isSome = true := by
  decide +kernel

/-- The transaction is COMPLETED and its stock is back on the shelf. -/
theorem completed_sale_loses_its_stock :
    ∃ system, Run (step 5) Any (opening (Table.empty.put "SKU-000001" 5)) overtaken system ∧
      CompletedAt system.checkout 1 1 ∧
      system.inventory.adjustments.lookup ⟨1, 1⟩ =
        some (.released (.taken [("SKU-000001", 1)])) :=
  ⟨_, Run.of_foldlM (Option.some_get overtaken_runs).symm, by decide +kernel, by decide +kernel⟩

end SelfCheckout.Saga
