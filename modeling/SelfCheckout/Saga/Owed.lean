import SelfCheckout.Saga.Overlap

namespace SelfCheckout.Saga

open SelfCheckout.Data SelfCheckout.Checkout

/-! # Whom stock is held for

Stock that is held for an attempt has been sold, or a driver, the recovery loop or a
queued release still owes the attempt its outcome.
-/

/-- Someone still owes the attempt its outcome, or its release is queued. -/
inductive Owed (system : System) (tx : TxId) (epoch : Nat) : Prop where
  | unfinished {record : Completion}
      (found : system.checkout.completions.lookup tx = some record) (current : record.epoch = epoch)
      (live : record.state.terminal = false) : Owed system tx epoch
  | releaseQueued (queued : ReleaseQueued system.checkout ⟨tx, epoch⟩) : Owed system tx epoch

/-- A reopen hits the driver's own attempt or one that is accounted for, and no attempt
that holds stock is refused late. -/
def ReopensAccounted (contest : Contest) (move : Move) : Prop :=
  RefusesUndone contest move ∧ ∀ label ∈ move.acted, Committing ReopensOwn contest.system label

instance (contest : Contest) (move : Move) : Decidable (ReopensAccounted contest move) :=
  inferInstanceAs (Decidable (_ ∧ ∀ _ ∈ _, _))

structure Owing (contest : Contest) : Prop extends Contended contest where
  old : OldClosed Accounted contest.system

section Owing

variable {threshold : Int} {system after : System} {contest next : Contest} {move : Move}
  {tx : TxId} {reading : Reading}

/-- A take-over leaves its attempt live, whatever it writes back. -/
theorem OldClosed.takesOver (old : OldClosed Accounted system)
    (overlaps : Overlapping system tx reading)
    (checkout : after.checkout = takeOver system.checkout tx reading.record reading.now)
    (inventory : after.inventory = system.inventory) : OldClosed Accounted after := by
  have stable : ∀ attempt, Accounted system attempt → Accounted after attempt := by
    intro attempt accounted
    rw [Accounted, ReleaseQueued, checkout, inventory]
    exact accounted
  intro other record found
  rw [checkout] at found
  by_cases own : other = tx
  · subst own
    obtain ⟨again, foundAgain, epoch, state⟩ := overlaps.writesOver
    cases found.symm.trans foundAgain
    obtain ⟨before, known, current, _⟩ := overlaps.attempt
    refine ⟨fun earlier positive below => ?_, fun aborted => ?_⟩
    · rw [epoch, ← current] at below
      exact stable _ ((old other before known).1 earlier positive below)
    · have live := overlaps.live
      rw [← state, aborted] at live
      contradiction
  · rw [takeOver_other own] at found
    exact ⟨fun earlier positive below => stable _ ((old other record found).1 earlier positive below),
      fun aborted => stable _ ((old other record found).2 aborted)⟩

theorem Owing.step (owing : Owing contest) (allowed : ReopensAccounted contest move)
    (taken : contest.step threshold move = some next) : Owing next where
  toContended := owing.toContended.step allowed.1 taken
  old := by
    cases step_moved taken with
    | acts enabled stepped =>
        exact owing.old.reopensOwn owing.sound (allowed.2 _ rfl) (step_does stepped)
    | reads running free began => exact owing.old
    | writesBack found running => exact owing.old.takesOver (owing.overlapping _ _ found) rfl rfl
    | raises found running => exact owing.old.takesOver (owing.overlapping _ _ found) rfl rfl
    | drops found running => exact owing.old
    | answersLate recorded => exact owing.old

theorem owing_of_run {levels : Table Sku Nat} {moves : List Move}
    (run : Run (Contest.step threshold) ReopensAccounted (contestOpening levels) moves contest) :
    Owing contest :=
  run.invariant ⟨.opening levels, .opening Accounted levels⟩
    (fun _ _ _ owing allowed taken => owing.step allowed taken)

/-- In every run whose reopens hit the driver's own attempt, or one accounted for, and
in which no attempt that holds stock is refused late: stock held for an attempt is sold,
or somebody still owes its outcome. -/
theorem no_orphaned_reservation (threshold : Int) (levels : Table Sku Nat) (moves : List Move)
    (contest : Contest)
    (run : Run (Contest.step threshold) ReopensAccounted (contestOpening levels) moves contest)
    (tx : TxId) (epoch : Nat) (lines : List (Sku × Nat))
    (applied : contest.system.inventory.adjustments.lookup ⟨tx, epoch⟩ = some (.applied lines)) :
    CompletedAt contest.system.checkout tx epoch ∨ Owed contest.system tx epoch := by
  have owing := owing_of_run run
  have owed : Accounted contest.system ⟨tx, epoch⟩ → Owed contest.system tx epoch :=
    fun accounted => .releaseQueued (accounted.resolve_right (not_undone_of_applied applied))
  obtain ⟨positive, record, found, below⟩ := owing.sound.reached applied
  rcases Nat.lt_or_eq_of_le below with earlier | current
  · exact .inr (owed ((owing.old tx record found).1 epoch positive earlier))
  · simp only at current
    cases state : record.state with
    | reserving => exact .inr (.unfinished found current.symm (by rw [state]; rfl))
    | reserved => exact .inr (.unfinished found current.symm (by rw [state]; rfl))
    | compensating => exact .inr (.unfinished found current.symm (by rw [state]; rfl))
    | completed =>
        have status := (owing.sound.coupled tx).rows.completed.mpr
          (by simp [stateOf, found, state])
        exact .inl ⟨status, by rw [found, Option.map_some, current]⟩
    | aborted =>
        rw [current]
        rw [current] at owed
        exact .inr (owed ((owing.old tx record found).2 state))

end Owing

/-- A call reserves and dies, and a recovery pass begins to roll it back. -/
def abandoned : List Move :=
  let request := Request.stockReservationRequested ⟨1, 1⟩ [("SKU-000001", 1)]
  [.act (.insertTransaction 1 0), .act (.scanItem 1 "SKU-000001" 250), .act (.complete 0 1),
    .act (.commit 0 60 10), .act (.publish request), .act (.handle request), .act (.crash 0),
    .act (.runOnce 1 [1] 60 20 100), .act (.commit 1 60 101)]

theorem abandoned_runs : (abandoned.foldlM (guarded (Contest.step 5) ReopensAccounted)
    (contestOpening (Table.empty.put "SKU-000001" 5))).isSome = true := by
  decide +kernel

theorem no_orphaned_reservation_abandoned :
    ∃ contest, contest ∈ abandoned.foldlM (Contest.step 5)
        (contestOpening (Table.empty.put "SKU-000001" 5)) ∧
      (CompletedAt contest.system.checkout 1 1 ∨ Owed contest.system 1 1) := by
  have run : Run (Contest.step 5) ReopensAccounted _ abandoned _ :=
    .of_guarded (Option.some_get abandoned_runs).symm
  exact ⟨_, run.foldlM_eq, no_orphaned_reservation 5 (Table.empty.put "SKU-000001" 5) abandoned _
    run 1 1 [("SKU-000001", 1)] (by decide +kernel)⟩

/-- A call waits for its release; the shopper's retry finishes the rollback first
and starts a second attempt.  The first call then reopens the transaction. -/
def reopenedLate : List Move :=
  let release := Request.stockReleaseRequested ⟨1, 1⟩
  let released := Outcome.stockReleased ⟨1, 1⟩ 0 false
  let request := Request.stockReservationRequested ⟨1, 2⟩ [("SKU-000001", 1)]
  [.act (.insertTransaction 1 0), .act (.scanItem 1 "SKU-000001" 250), .act (.complete 0 1),
    .act (.commit 0 60 10), .act (.timeOut 0), .act (.commit 0 60 13), .act (.complete 1 1),
    .act (.commit 1 60 14), .act (.commit 1 60 15), .act (.publish release),
    .act (.handle release), .act (.publishOutcome released), .act (.reply 0 released),
    .act (.reply 1 released), .act (.commit 1 60 16), .act (.commit 1 60 17),
    .act (.publish request), .act (.handle request), .act (.commit 0 60 18)]

theorem reopenedLate_runs : (reopenedLate.foldlM (Contest.step 5)
    (contestOpening (Table.empty.put "SKU-000001" 5))).isSome = true := by
  decide +kernel

/-- The second attempt's stock is held, its completion is ABORTED, and no release
of it was ever queued. -/
theorem reservation_is_orphaned :
    ∃ contest, Run (Contest.step 5) Any (contestOpening (Table.empty.put "SKU-000001" 5))
        reopenedLate contest ∧
      contest.system.inventory.adjustments.lookup ⟨1, 2⟩ = some (.applied [("SKU-000001", 1)]) ∧
      ¬ CompletedAt contest.system.checkout 1 2 ∧
      stateOf contest.system.checkout 1 = some .aborted ∧
      ¬ ReleaseQueued contest.system.checkout ⟨1, 2⟩ :=
  ⟨_, Run.of_foldlM (Option.some_get reopenedLate_runs).symm, by decide +kernel,
    by decide +kernel, by decide +kernel, by decide +kernel⟩

/-- The last unit is reserved, and a duplicate that lost the race refuses it. -/
def refusedLate : List Move :=
  let request := Request.stockReservationRequested ⟨1, 1⟩ [("SKU-000001", 1)]
  let rejected := Outcome.stockRejected ⟨1, 1⟩ ["SKU-000001"]
  [.act (.insertTransaction 1 0), .act (.scanItem 1 "SKU-000001" 250), .act (.complete 0 1),
    .act (.commit 0 60 10), .act (.publish request), .act (.handle request),
    .answerLate ⟨1, 1⟩ ["SKU-000001"], .act (.publishOutcome rejected), .act (.reply 0 rejected),
    .act (.commit 0 60 11)]

theorem refusedLate_runs : (refusedLate.foldlM (Contest.step 5)
    (contestOpening (Table.empty.put "SKU-000001" 1))).isSome = true := by
  decide +kernel

/-- The reopen is by the driver of the current epoch, and orphans the reservation. -/
theorem late_refusal_orphans :
    ∃ contest, Run (Contest.step 5) Any (contestOpening (Table.empty.put "SKU-000001" 1))
        refusedLate contest ∧
      contest.system.inventory.adjustments.lookup ⟨1, 1⟩ = some (.applied [("SKU-000001", 1)]) ∧
      ¬ CompletedAt contest.system.checkout 1 1 ∧
      stateOf contest.system.checkout 1 = some .aborted ∧
      ¬ ReleaseQueued contest.system.checkout ⟨1, 1⟩ :=
  ⟨_, Run.of_foldlM (Option.some_get refusedLate_runs).symm, by decide +kernel,
    by decide +kernel, by decide +kernel, by decide +kernel⟩

end SelfCheckout.Saga
