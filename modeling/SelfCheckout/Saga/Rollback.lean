import SelfCheckout.Saga.Agreement

namespace SelfCheckout.Saga

open SelfCheckout.Data SelfCheckout.Checkout

/-! # A release and its state

`_mark_compensating` writes COMPENSATING and queues the release in one local
transaction.  The write is guarded and the insert beside it is not, and `rollback` is
called on what its caller believes of the attempt: after a timeout, after a finalize
that raised, on a record found COMPENSATING, on a row claimed earlier.
-/

/-- The phases of a call of `rollback`, with the epoch it was called with. -/
def Phase.rollingBack : Phase → Option Nat
  | .markCompensating epoch _ _ => some epoch
  | .awaitRelease epoch _ => some epoch
  | .reopen epoch _ => some epoch
  | _ => none

/-- The steps a driver takes itself. -/
inductive Own (id : DriverId) : Label → Prop where
  | commit (lease : Nat) (now : Time) : Own id (.commit id lease now)
  | raise (committed : Bool) (error : String) (lease : Nat) (now : Time) :
      Own id (.raise id committed error lease now)
  | reply (outcome : Outcome) : Own id (.reply id outcome)
  | timeOut : Own id (.timeOut id)
  | crash : Own id (.crash id)

/-- The requests a step commits to Checkout's outbox. -/
def queuedBy (before after : System) : List Request :=
  after.checkout.outbox.drop before.checkout.outbox.length

/-- The attempt is COMPLETED or ABORTED, or a later attempt has replaced it. -/
def Closed (db : Checkout.Database) (attempt : Attempt) : Prop :=
  ∃ record, db.completions.lookup attempt.transactionId = some record ∧
    (record.epoch = attempt.epoch ∧ record.state.terminal = true ∨ attempt.epoch < record.epoch)

/-- A step announces the release of an attempt with its state, or not at all; the attempt
that is over gets no release, and what is announced leaves its stock. -/
structure AnnouncesWithState (threshold : Int) (attempt : Attempt) (before after : System) : Prop
    where
  state : .stockReleaseRequested attempt ∈ queuedBy before after →
    LiveAt after.checkout attempt.transactionId attempt.epoch Compensating
  closed : Closed before.checkout attempt →
    .stockReleaseRequested attempt ∉ queuedBy before after ∧
      ∀ request ∈ queuedBy before after,
        (Inventory.deliver threshold before.inventory request).stock = before.inventory.stock

section Steps

variable {threshold : Int} {system after : System} {id : DriverId} {driver : Driver} {epoch : Nat}

theorem LiveAt.not_closed {db : Checkout.Database} {attempt : Attempt}
    (live : LiveAt db attempt.transactionId attempt.epoch Unfinished) : ¬ Closed db attempt := by
  rintro ⟨record, found, closed⟩
  obtain ⟨other, foundOther, same, unfinished⟩ := live
  cases found.symm.trans foundOther
  rcases closed with ⟨_, terminal⟩ | later
  · exact Bool.noConfusion (terminal.symm.trans unfinished)
  · exact absurd same (Nat.ne_of_gt later)

/-- The local transaction leaves COMPENSATING at its epoch where it finds a live record of
that epoch, and nowhere else. -/
theorem compensating_iff (db : Checkout.Database) (tx : TxId) (epoch : Nat) (reason : Option String)
    (now : Time) :
    LiveAt (Checkout.markCompensating db tx epoch reason now) tx epoch Compensating ↔
      LiveAt db tx epoch Unfinished := by
  have marked : (Checkout.markCompensating db tx epoch reason now).completions =
      (setCompletionState db tx .compensating reason now).completions := rfl
  rcases setCompletionState_cases db tx .compensating reason now with
    ⟨same, closed⟩ | ⟨old, new, foundOld, live, foundNew, sameEpoch, state⟩
  · constructor
    · rintro ⟨record, found, _, compensating⟩
      rw [marked, same] at found
      have terminal := closed record found
      rw [compensating] at terminal
      contradiction
    · rintro ⟨record, found, _, unfinished⟩
      exact Bool.noConfusion ((closed record found).symm.trans unfinished)
  · constructor
    · rintro ⟨record, found, current, _⟩
      rw [marked, foundNew, Option.some.injEq] at found
      subst found
      exact ⟨old, foundOld, sameEpoch.symm.trans current, live⟩
    · rintro ⟨record, found, current, _⟩
      cases foundOld.symm.trans found
      exact ⟨new, foundNew, sameEpoch.trans current, state⟩

/-- Of a call's steps only the marking one writes to the outbox: the release of its epoch. -/
theorem rollback_writes {label : Label} (running : system.drivers.lookup id = some driver)
    (rolling : driver.phase.rollingBack = some epoch) (own : Own id label)
    (does : Does threshold system label after) :
    after.checkout.outbox = system.checkout.outbox ∨
      ∃ reason next now, driver.phase = .markCompensating epoch reason next ∧
        after.checkout = Checkout.markCompensating system.checkout driver.tx epoch (some reason) now := by
  have writes : ∀ {lease now db}, Writes driver system.checkout lease now db →
      db.outbox = system.checkout.outbox ∨
        ∃ reason next now, driver.phase = .markCompensating epoch reason next ∧
          db = Checkout.markCompensating system.checkout driver.tx epoch (some reason) now := by
    intro lease now db writes
    cases writes with
    | nothing quiet => exact .inl rfl
    | started phase began =>
        rw [phase] at rolling
        contradiction
    | tookOver phase began =>
        rw [phase] at rolling
        contradiction
    | reserved phase =>
        rw [phase] at rolling
        contradiction
    | finalized phase =>
        rw [phase] at rolling
        contradiction
    | rolledForward phase =>
        rw [phase] at rolling
        contradiction
    | @compensated acting reason next phase =>
        rw [phase] at rolling
        cases rolling
        exact .inr ⟨reason, next, now, phase, rfl⟩
    | @reopened acting next phase =>
        rcases reopen_cases system.checkout driver.tx now with same | ⟨_, _, _, done⟩
        · exact .inl (by rw [same])
        · exact .inl (by rw [done])
  cases own with
  | commit lease now =>
      cases does with
      | commits found wrote goes =>
          cases running.symm.trans found
          exact writes wrote
  | raise committed error lease now =>
      cases does with
      | raisesAfterCommit found raised wrote =>
          cases running.symm.trans found
          exact writes wrote
      | raises found raised => exact .inl rfl
  | reply outcome =>
      cases does
      exact .inl rfl
  | timeOut =>
      cases does
      exact .inl rfl
  | crash =>
      cases does
      exact .inl rfl

theorem queuedBy_eq {requests : List Request}
    (outbox : after.checkout.outbox = system.checkout.outbox ++ requests) :
    queuedBy system after = requests := by
  rw [queuedBy, outbox, List.drop_left]

end Steps

/-- From any state, whatever led to the call and whatever happened since: its steps announce
the release with its state exactly when the marking one finds a record that is live and at
the epoch of the call. -/
theorem announced_with_state_iff (threshold : Int) (system : System) (id : DriverId)
    (driver : Driver) (epoch : Nat) (running : system.drivers.lookup id = some driver)
    (rolling : driver.phase.rollingBack = some epoch) :
    (∀ label after, Own id label → step threshold system label = some after →
      AnnouncesWithState threshold ⟨driver.tx, epoch⟩ system after) ↔
    ((∃ reason next, driver.phase = .markCompensating epoch reason next) →
      LiveAt system.checkout driver.tx epoch Unfinished) := by
  constructor
  · rintro announces ⟨reason, next, phase⟩
    have taken : step threshold system (.commit id 0 0) = some
        ({ system with
            checkout := Checkout.markCompensating system.checkout driver.tx epoch (some reason) 0
            asked := system.asked ++ [] }.setDriver id
          (some (driver.goto (.awaitRelease epoch next)))) := by
      simp only [step, running, Driver.transact, phase, Option.map_some]
    have announced := announces _ _ (.commit 0 0) taken
    apply (compensating_iff system.checkout driver.tx epoch (some reason) 0).mp
    apply announced.state
    rw [queuedBy_eq rfl]
    exact List.mem_singleton_self _
  · intro live label after own taken
    rcases rollback_writes running rolling own (step_does taken) with
      same | ⟨reason, next, now, phase, marked⟩
    · have nothing : queuedBy system after = [] := queuedBy_eq (by rw [same, List.append_nil])
      refine ⟨fun queued => ?_, fun _ => ⟨fun queued => ?_, fun request queued => ?_⟩⟩ <;>
        · rw [nothing] at queued
          contradiction
    · have live := live ⟨reason, next, phase⟩
      refine ⟨fun _ => ?_, fun closed => absurd closed live.not_closed⟩
      rw [marked]
      exact (compensating_iff _ _ _ _ _).mpr live

/-- A call gives up waiting for its reservation, and rolls back. -/
def abandonedWait : List Label :=
  [.insertTransaction 1 0, .scanItem 1 "SKU-000001" 250, .complete 0 1, .commit 0 60 10, .timeOut 0]

theorem abandonedWait_runs : (abandonedWait.foldlM (step 5)
    (opening (Table.empty.put "SKU-000001" 5))).isSome = true := by
  decide

theorem announced_with_state_iff_abandonedWait :
    let system := (abandonedWait.foldlM (step 5) (opening (Table.empty.put "SKU-000001" 5))).get
      abandonedWait_runs
    ∀ label after, Own 0 label → step 5 system label = some after →
      AnnouncesWithState 5 ⟨1, 1⟩ system after :=
  (announced_with_state_iff 5 _ 0 ⟨1, .complete, .markCompensating 1
    (Refusal.text (noReply "reserve")) (.leave (.refused (noReply "reserve")))⟩ 1 rfl rfl).mpr
      (fun _ => ⟨⟨1, .reserving, 250, 0, 10, none⟩, rfl, rfl, rfl⟩)

/-- The commit of a call's finalize takes effect and the call sees an error. -/
def unseenCommit : List Label :=
  let request := Request.stockReservationRequested ⟨1, 1⟩ [("SKU-000001", 1)]
  let reserved := Outcome.stockReserved ⟨1, 1⟩ false
  [.insertTransaction 1 0, .scanItem 1 "SKU-000001" 250, .complete 0 1, .commit 0 60 10,
    .publish request, .handle request, .publishOutcome reserved, .reply 0 reserved, .commit 0 60 12,
    .raise 0 true "OperationalError" 60 13]

theorem unseenCommit_runs : (unseenCommit.foldlM (step 5)
    (opening (Table.empty.put "SKU-000001" 5))).isSome = true := by
  decide +kernel

/-- A COMPLETED sale gets a release. -/
theorem completed_sale_gets_release :
    ¬ ∀ (threshold : Int) (levels : Table Sku Nat) (labels : List Label) (system : System)
        (id : DriverId) (driver : Driver) (epoch : Nat) (label : Label) (after : System),
      Run (step threshold) Any (opening levels) labels system →
        system.drivers.lookup id = some driver → driver.phase.rollingBack = some epoch →
        Own id label → step threshold system label = some after →
          AnnouncesWithState threshold ⟨driver.tx, epoch⟩ system after := by
  intro announces
  have announced := announces 5 (Table.empty.put "SKU-000001" 5) unseenCommit _ 0
    ⟨1, .complete, .markCompensating 1 "finalize failed: OperationalError" (.leave (.refused
      (rolledBack "Completion failed and was rolled back; retry.")))⟩ 1 (.commit 0 60 14) _
    (.of_foldlM (Option.some_get unseenCommit_runs).symm) (by decide +kernel) rfl (.commit 60 14) rfl
  refine (announced.closed ⟨⟨1, .completed, 250, 0, 13, none⟩, by decide +kernel, .inl ⟨rfl, rfl⟩⟩).1 ?_
  decide +kernel

/-- Inventory gives the stock of the sale back. -/
example :
    let sold := (unseenCommit.foldlM (step 5) (opening (Table.empty.put "SKU-000001" 5))).get
      unseenCommit_runs
    let released := Inventory.deliver 5 sold.inventory (.stockReleaseRequested ⟨1, 1⟩)
    (sold.inventory.stock.lookup "SKU-000001").map Inventory.StockRow.currentStock = some 4 ∧
      (released.stock.lookup "SKU-000001").map Inventory.StockRow.currentStock = some 5 := by
  decide +kernel

end SelfCheckout.Saga
