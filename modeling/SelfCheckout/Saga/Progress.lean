import SelfCheckout.Saga.System

namespace SelfCheckout.Saga

open SelfCheckout.Data SelfCheckout.Checkout

/-! # Every call ends

A driver's budget is more than the steps it can still take.  Requests and replies may be
lost, repeated or late, local transactions may raise, and the other drivers may do what they
like: each step of its own costs a driver at least one, and before it has left there is always
one it can take.
-/

def Next.budget : Next → Nat
  | .beginAgain => 7
  | .leave _ => 0

def Phase.budget : Phase → Nat
  | .begin again => if again then 7 else 11
  | .awaitReserve _ => 6
  | .setReserved _ => 5
  | .finalize _ => 4
  | .readStatus _ => 1
  | .rollForward _ _ => 1
  | .markCompensating _ _ next => next.budget + 3
  | .awaitRelease _ next => next.budget + 2
  | .reopen _ next => next.budget + 1
  | .left _ => 0

/-- The phase and, for a recovery pass, the rows it has not come to. -/
def Driver.budget (driver : Driver) : Nat :=
  driver.phase.budget + (driver.remaining.map (fun row => (recover row).budget)).sum

theorem recover_budget (row : StuckRow) : (recover row).budget ≤ 3 := by
  unfold recover
  split <;> simp [Phase.budget, Next.budget]

section Budgets

variable {driver next : Driver}

theorem goto_budget (driver : Driver) {phase : Phase} (less : phase.budget < driver.phase.budget) :
    (driver.goto phase).budget < driver.budget :=
  Nat.add_lt_add_right less _

/-- A recovery pass that leaves a row has paid for the next. -/
theorem leave_budget (driver : Driver) (exit : Exit) :
    (driver.leave exit).budget + driver.phase.budget = driver.budget := by
  obtain ⟨tx, origin, phase⟩ := driver
  cases origin with
  | complete => simp [Driver.leave, Driver.goto, Driver.budget, Driver.remaining, Phase.budget]
  | recovery remaining done =>
      cases remaining with
      | nil => simp [Driver.leave, Driver.budget, Driver.remaining, Phase.budget]
      | cons row remaining =>
          simp only [Driver.leave, Driver.budget, Driver.remaining, List.map_cons, List.sum_cons]
          omega

theorem leave_budget_lt (exit : Exit) (positive : 0 < driver.phase.budget) :
    (driver.leave exit).budget < driver.budget := by
  have whole := leave_budget driver exit
  omega

theorem transact_budget {db after : Database} {lease : Nat} {now : Time} {asked : List Request}
    (done : driver.transact db lease now = some (after, next, asked)) :
    next.budget < driver.budget := by
  have running : 0 < driver.phase.budget := by
    cases phase : driver.phase with
    | begin again => cases again <;> simp [Phase.budget]
    | left exit => simp [Driver.transact, phase] at done
    | _ => simp [Phase.budget]
  cases (transact_cases done).2 with
  | leaves exit => exact leave_budget_lt exit running
  | owesRollback phase began =>
      rename_i epoch reason next
      refine goto_budget driver ?_
      cases next <;> simp [phase, Phase.budget, Next.budget]
  | @started again _ _ _ _ phase began =>
      refine goto_budget driver ?_
      cases again <;> simp [phase, Phase.budget]
  | @tookOver again _ phase began =>
      refine goto_budget driver ?_
      cases again <;> simp [phase, Phase.budget]
  | reserved phase => exact goto_budget driver (by simp [phase, Phase.budget])
  | foundClosed phase found => exact goto_budget driver (by simp [phase, Phase.budget])
  | compensated phase => exact goto_budget driver (by simp [phase, Phase.budget])
  | beginsAgain phase => exact goto_budget driver (by simp [phase, Phase.budget, Next.budget])

theorem raised_budget {error : String} (done : driver.raised error = some next) :
    next.budget < driver.budget := by
  cases phase : driver.phase with
  | finalize begun =>
      simp only [Driver.raised, phase, Option.some.injEq] at done
      subst done
      exact goto_budget driver (by simp [phase, Phase.budget, Next.budget])
  | begin again =>
      simp only [Driver.raised, phase, Option.some.injEq] at done
      subst done
      refine leave_budget_lt .raised ?_
      cases again <;> simp [phase, Phase.budget]
  | awaitReserve begun => simp [Driver.raised, phase] at done
  | awaitRelease epoch next => simp [Driver.raised, phase] at done
  | left exit => simp [Driver.raised, phase] at done
  | _ =>
      simp only [Driver.raised, phase, Option.some.injEq] at done
      subst done
      exact leave_budget_lt .raised (by simp [phase, Phase.budget])

theorem receive_budget {outcome : Outcome} (done : driver.receive outcome = some next) :
    next.budget < driver.budget := by
  cases phase : driver.phase with
  | awaitReserve begun =>
      simp only [Driver.receive, phase] at done
      split at done
      · cases outcome with
        | stockReleased attempt units already => contradiction
        | _ =>
            cases done
            exact goto_budget driver (by simp [phase, Phase.budget, Next.budget])
      · contradiction
  | awaitRelease epoch next =>
      simp only [Driver.receive, phase] at done
      split at done
      · cases outcome with
        | stockReleased attempt units already =>
            cases done
            exact goto_budget driver (by simp [phase, Phase.budget])
        | _ => contradiction
      · contradiction
  | _ => simp [Driver.receive, phase] at done

theorem timeOut_budget (done : driver.timeOut = some next) : next.budget < driver.budget := by
  cases phase : driver.phase with
  | awaitReserve begun =>
      simp only [Driver.timeOut, phase, Option.some.injEq] at done
      subst done
      exact goto_budget driver (by simp [phase, Phase.budget, Next.budget])
  | awaitRelease epoch next =>
      simp only [Driver.timeOut, phase, Option.some.injEq] at done
      subst done
      exact leave_budget_lt _ (by simp [phase, Phase.budget])
  | _ => simp [Driver.timeOut, phase] at done

end Budgets

/-- The driver whose own step this is. -/
def Label.acting : Label → Option DriverId
  | .commit id _ _ => some id
  | .raise id _ _ _ _ => some id
  | .reply id _ => some id
  | .timeOut id => some id
  | _ => none

/-- What a new call or recovery pass of this driver may come to. -/
def Label.allowance (id : DriverId) : Label → Nat
  | .complete other _ => if other = id then 11 else 0
  | .runOnce other claimed _ _ _ => if other = id then 3 * claimed.length else 0
  | _ => 0

/-- What the driver can still take; none where it is not running. -/
def System.budget (system : System) (id : DriverId) : Nat :=
  ((system.drivers.lookup id).map Driver.budget).getD 0

section Runs

variable {threshold : Int} {system after : System} {label : Label} {id : DriverId}

theorem budget_setDriver (system : System) (other : DriverId) (driver : Option Driver) :
    (system.setDriver other driver).budget id =
      if id = other then (driver.map Driver.budget).getD 0 else system.budget id := by
  simp only [System.budget, setDriver_drivers]
  split <;> rfl

theorem firstRow_budget (rows : List StuckRow) :
    ((firstRow rows).map Driver.budget).getD 0 ≤ 3 * rows.length := by
  have each : ∀ rows : List StuckRow,
      (rows.map (fun row => (recover row).budget)).sum ≤ 3 * rows.length := by
    intro rows
    induction rows with
    | nil => simp
    | cons row rows ih =>
        have first := recover_budget row
        simp only [List.map_cons, List.sum_cons, List.length_cons]
        omega
  cases rows with
  | nil => simp [firstRow]
  | cons row rows =>
      have whole := each (row :: rows)
      simpa [firstRow, Driver.budget, Driver.remaining] using whole

theorem claimed_length {db done : Checkout.Database} {claimed : List TxId} {lease limit : Nat}
    {now : Time} {rows : List StuckRow}
    (claims : claimStuck db claimed lease limit now = some (rows, done)) :
    rows.length ≤ claimed.length := by
  unfold claimStuck at claims
  split at claims
  · cases claims
    exact List.length_filterMap_le _ _
  · contradiction

/-- A local transaction that commits is one the driver could run. -/
theorem commit_transacts {lease : Nat} {now : Time}
    (taken : step threshold system (.commit id lease now) = some after) :
    ∃ driver next db asked, system.drivers.lookup id = some driver ∧
      driver.transact system.checkout lease now = some (db, next, asked) ∧
      after = { system with checkout := db, asked := system.asked ++ asked }.setDriver id
        (some next) := by
  simp only [step] at taken
  split at taken
  · contradiction
  · rename_i driver running
    obtain ⟨⟨db, next, asked⟩, done, rfl⟩ := Option.map_eq_some_iff.mp taken
    exact ⟨driver, next, db, asked, running, done, rfl⟩

/-- A step of its own costs a driver one, and only a new call gives it more. -/
theorem step_budget (id : DriverId) (taken : step threshold system label = some after) :
    (if label.acting = some id then 1 else 0) + after.budget id ≤
      system.budget id + label.allowance id := by
  have moves : ∀ {other : DriverId} {driver next : Driver} {base : System},
      base.budget id = system.budget id → system.drivers.lookup other = some driver →
      next.budget < driver.budget →
      (if some other = some id then 1 else 0) + (base.setDriver other (some next)).budget id ≤
        system.budget id := by
    intro other driver next base same running less
    rw [budget_setDriver]
    by_cases own : id = other
    · subst own
      have isOwn : system.budget id = driver.budget := by simp [System.budget, running]
      simp only [↓reduceIte, Option.map_some, Option.getD_some]
      omega
    · simp only [Option.some.injEq, Ne.symm own, own, ↓reduceIte]
      omega
  cases step_does taken with
  | @calls other tx free =>
      rw [budget_setDriver]
      by_cases own : id = other
      · subst own
        simp [Label.acting, Label.allowance, Driver.budget, Driver.remaining, Phase.budget]
      · simp [Label.acting, own]
  | @claims other claimed lease limit now rows db free done =>
      rw [budget_setDriver]
      by_cases own : id = other
      · subst own
        have first := firstRow_budget rows
        have length := claimed_length done
        simp only [Label.acting, Label.allowance, reduceCtorEq, ↓reduceIte]
        omega
      · simp [Label.acting, own, System.budget]
  | commits running writes goes =>
      obtain ⟨_, _, _, _, running, done, same⟩ := commit_transacts taken
      rw [same]
      exact moves rfl running (transact_budget done)
  | raisesAfterCommit running raised writes =>
      exact moves rfl running (raised_budget raised)
  | raises running raised => exact moves rfl running (raised_budget raised)
  | receives running onTopic received => exact moves rfl running (receive_budget received)
  | timesOut running timedOut => exact moves rfl running (timeOut_budget timedOut)
  | @crashes other =>
      rw [budget_setDriver]
      by_cases own : id = other
      · simp [Label.acting, own]
      · simp [Label.acting, own]
  | inserts absent => simp [Label.acting, System.budget]
  | scans => simp [Label.acting, System.budget]
  | sweeps => simp [Label.acting, System.budget]
  | publishes known => simp [Label.acting, System.budget]
  | handles onTopic done => simp [Label.acting, System.budget]
  | publishesOutcome queued => simp [Label.acting, System.budget]

/-- Run lemma: the steps a driver has taken, and those it still can, are paid for by its
calls. -/
theorem budget_of_run {allowed : System → Label → Prop} {levels : Table Sku Nat}
    {labels : List Label}
    (run : Run (Saga.step threshold) allowed (opening levels) labels system) :
    labels.countP (fun label => label.acting = some id) + system.budget id ≤
      (labels.map (Label.allowance id)).sum := by
  induction run with
  | start => simp [System.budget, opening, Table.lookup_empty]
  | snoc past permitted taken ih =>
      have next := step_budget id taken
      simp only [List.countP_append, List.countP_cons, List.countP_nil, decide_eq_true_eq,
        List.map_append, List.map_cons, List.map_nil, List.sum_append, List.sum_cons,
        List.sum_nil, add_zero]
      omega

/-- Before it has left, a driver has a step that waits for nobody: its local transaction, or
the end of its patience. -/
theorem never_stuck {driver : Driver} (running : system.drivers.lookup id = some driver)
    (stays : ∀ exit, driver.phase ≠ .left exit) (lease : Nat) (now : Time) :
    (step threshold system (.commit id lease now)).isSome = true ∨
      (step threshold system (.timeOut id)).isSome = true := by
  cases phase : driver.phase with
  | awaitReserve begun => exact .inr (by simp [step, running, Driver.timeOut, phase])
  | awaitRelease epoch next => exact .inr (by simp [step, running, Driver.timeOut, phase])
  | left exit => exact absurd phase (stays exit)
  | begin again =>
      refine .inl ?_
      simp only [step, running, Option.isSome_map, Driver.transact, phase]
      split
      · rfl
      · split <;> rfl
      · rfl
      · rfl
  | finalize begun =>
      refine .inl ?_
      simp only [step, running, Option.isSome_map, Driver.transact, phase]
      split <;> rfl
  | _ => exact .inl (by simp [step, running, Driver.transact, phase])

/-- Every call returns.  In every run of the system, whatever the other drivers, the broker
and Inventory do, a driver takes at most eleven steps for each `complete` call and three for
each row a recovery pass has claimed; and as long as it has not left it has a step to take
that needs no one else. -/
theorem every_call_returns {allowed : System → Label → Prop} {levels : Table Sku Nat}
    {labels : List Label} (id : DriverId)
    (run : Run (Saga.step threshold) allowed (opening levels) labels system) :
    labels.countP (fun label => label.acting = some id) + system.budget id ≤
        (labels.map (Label.allowance id)).sum ∧
      ∀ driver, system.drivers.lookup id = some driver →
        (∀ exit, driver.phase ≠ .left exit) → ∃ label after,
          label.acting = some id ∧ step threshold system label = some after ∧
          after.budget id < system.budget id := by
  refine ⟨budget_of_run run, fun driver running stays => ?_⟩
  have less : ∀ label after, label.acting = some id → label.allowance id = 0 →
      step threshold system label = some after → after.budget id < system.budget id := by
    intro label after acts given taken
    have next := step_budget id taken
    rw [if_pos acts, given] at next
    omega
  rcases never_stuck running stays 0 0 with goes | goes
  · obtain ⟨after, taken⟩ := Option.isSome_iff_exists.mp goes
    exact ⟨_, after, rfl, taken, less _ after rfl rfl taken⟩
  · obtain ⟨after, taken⟩ := Option.isSome_iff_exists.mp goes
    exact ⟨_, after, rfl, taken, less _ after rfl rfl taken⟩

end Runs

/-- No reply comes, neither to the reservation nor to the release. -/
def nobodyAnswers : List Label :=
  [.insertTransaction 1 0, .scanItem 1 "SKU-000001" 250, .complete 0 1, .commit 0 60 10,
    .timeOut 0, .commit 0 60 13, .timeOut 0]

theorem nobodyAnswers_runs : (nobodyAnswers.foldlM (step 5)
    (opening (Table.empty.put "SKU-000001" 5))).isSome = true := by
  decide +kernel

theorem every_call_returns_unanswered :
    nobodyAnswers.countP (fun label => label.acting = some 0) +
      (Option.get _ nobodyAnswers_runs).budget 0 ≤ 11 := by
  have run : Run (step 5) Any (opening (Table.empty.put "SKU-000001" 5)) nobodyAnswers _ :=
    .of_foldlM (Option.some_get nobodyAnswers_runs).symm
  exact (every_call_returns 0 run).1

end SelfCheckout.Saga
