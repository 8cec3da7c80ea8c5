import SelfCheckout.Saga.Sale

namespace SelfCheckout.Saga

open SelfCheckout.Data SelfCheckout.Checkout

/-! # Stock of an attempt that was given up

An attempt ends in ABORTED only through a reopen, which goes by the transaction
id.  As long as a reopen hits an attempt whose stock is accounted for, so are all
attempts before the current one.
-/

/-- Every attempt that is over and was not completed is `Closed`. -/
def OldClosed (Closed : System → Attempt → Prop) (system : System) : Prop :=
  ∀ tx record, system.checkout.completions.lookup tx = some record →
    (∀ epoch, 1 ≤ epoch → epoch < record.epoch → Closed system ⟨tx, epoch⟩) ∧
      (record.state = .aborted → Closed system ⟨tx, record.epoch⟩)

section Closed

variable {Closed : System → Attempt → Prop} {permits : System → Driver → Prop} {threshold : Int}
  {system after : System} {label : Label}

/-- Step lemma: what is closed stays closed, and a reopen closes the attempt it hits. -/
theorem OldClosed.step (old : OldClosed Closed system) (sound : Sound system)
    (stable : ∀ attempt, Closed system attempt → Closed after attempt)
    (closes : ∀ id driver acting next record, system.drivers.lookup id = some driver →
      permits system driver → driver.phase = .reopen acting next →
      system.checkout.completions.lookup driver.tx = some record →
      record.state.terminal = false → Closed system ⟨driver.tx, record.epoch⟩)
    (allowed : Committing permits system label) (does : Does threshold system label after) :
    OldClosed Closed after := by
  intro tx new found
  have keeps : ∀ before, system.checkout.completions.lookup tx = some before →
      new.epoch = before.epoch →
      ∀ epoch, 1 ≤ epoch → epoch < new.epoch → Closed after ⟨tx, epoch⟩ := by
    intro before known same epoch positive below
    rw [same] at below
    exact stable _ ((old tx before known).1 epoch positive below)
  rcases step_writes sound allowed does with rests | ⟨id, driver, running, permitted, drives⟩
  · obtain ⟨before, known, epoch, state⟩ := sameState_some (rests.same tx) found
    refine ⟨keeps before known epoch, fun aborted => ?_⟩
    rw [epoch]
    exact stable _ ((old tx before known).2 (state.symm.trans aborted))
  · have turns := drives.turns tx
    rw [found] at turns
    generalize known : system.checkout.completions.lookup tx = before at turns keeps
    cases turns with
    | keeps same spared =>
        obtain ⟨before, rfl, epoch, state⟩ := sameState_some same rfl
        refine ⟨keeps before rfl epoch, fun aborted => ?_⟩
        rw [epoch]
        exact stable _ ((old tx before known).2 (state.symm.trans aborted))
    | starts phase closed epoch state =>
        refine ⟨fun earlier positive below => ?_, fun aborted => by simp [state] at aborted⟩
        rw [epoch] at below
        cases before with
        | none =>
            have first : earlier < 1 := below
            omega
        | some before =>
            have started : earlier < before.epoch + 1 := below
            rcases Nat.lt_succ_iff_lt_or_eq.mp started with earlier | rfl
            · exact stable _ ((old driver.tx before known).1 _ positive earlier)
            · exact stable _ ((old driver.tx before known).2 (closed before rfl))
    | reserves phase live epoch state =>
        exact ⟨keeps _ rfl epoch, fun aborted => by simp [state] at aborted⟩
    | finalizes phase live epoch state =>
        exact ⟨keeps _ rfl epoch, fun aborted => by simp [state] at aborted⟩
    | compensates phase live epoch state =>
        exact ⟨keeps _ rfl epoch, fun aborted => by simp [state] at aborted⟩
    | reopens phase live epoch state =>
        refine ⟨keeps _ rfl epoch, fun _ => ?_⟩
        rw [epoch]
        exact stable _ (closes id driver _ _ _ running permitted phase known live)

theorem OldClosed.opening (Closed : System → Attempt → Prop) (levels : Table Sku Nat) :
    OldClosed Closed (opening levels) := by
  intro tx record found
  contradiction

end Closed

/-- The attempt's release is queued, or Inventory holds nothing for it. -/
def Accounted (system : System) (attempt : Attempt) : Prop :=
  ReleaseQueued system.checkout attempt ∨ Undone system.inventory attempt

instance (system : System) (attempt : Attempt) : Decidable (Accounted system attempt) :=
  inferInstanceAs (Decidable (_ ∨ _))

/-- The epoch of the attempt a driver is about to reopen the transaction for. -/
def Phase.reopening : Phase → Option Nat
  | .reopen epoch _ => some epoch
  | _ => none

/-- A reopen hits the driver's own attempt, or one that is accounted for. -/
def ReopensOwn (system : System) (driver : Driver) : Prop :=
  ∀ epoch ∈ driver.phase.reopening,
    ∀ record ∈ system.checkout.completions.lookup driver.tx, record.state.terminal = false →
      epoch = record.epoch ∨ Accounted system ⟨driver.tx, record.epoch⟩

instance (system : System) (driver : Driver) : Decidable (ReopensOwn system driver) :=
  inferInstanceAs (Decidable (∀ _ ∈ _, ∀ _ ∈ _, _ → _))

section Orphans

variable {threshold : Int} {system after : System} {label : Label}

/-- Step lemma: reopens of a driver's own attempt leave every attempt accounted for. -/
theorem OldClosed.reopensOwn (old : OldClosed Accounted system) (sound : Sound system)
    (allowed : Committing ReopensOwn system label) (does : Does threshold system label after) :
    OldClosed Accounted after := by
  have grows := step_grows sound does
  refine old.step sound ?_ ?_ allowed does
  · intro attempt accounted
    exact accounted.imp grows.releaseQueued (undone_follows (grows.follows attempt))
  · intro id driver acting next record running permitted phase found live
    have reopens : acting ∈ driver.phase.reopening := by
      rw [phase]
      rfl
    rcases permitted acting reopens record found live with own | accounted
    · have carries := (sound.drivers id driver running).phase
      rw [phase] at carries
      rw [← own]
      exact .inr carries.2
    · exact accounted

theorem Sound.reached (sound : Sound system) {attempt : Attempt} {lines : List (Sku × Nat)}
    (applied : system.inventory.adjustments.lookup attempt = some (.applied lines)) :
    Reached system.checkout attempt := by
  obtain ⟨asked, onTopic, _⟩ := sound.records attempt _ applied
  rcases sound.topic _ onTopic with queued | asked
  · exact sound.queued _ queued
  · exact (sound.asked _ asked).1

end Orphans

end SelfCheckout.Saga
