import SelfCheckout.Saga.Contest

namespace SelfCheckout.Saga

open SelfCheckout.Data SelfCheckout.Checkout

/-! # A take-over and what overlaps it

The statements that only move an attempt wait for no row lock, so a take-over may write
back a state that others have left.  The attempt is still the one it read: what ends an
attempt, or starts one, waits for the lock.
-/

structure Overlapping (system : System) (tx : TxId) (reading : Reading) : Prop extends
    Reads system tx reading where
  attempt : LiveAt system.checkout tx reading.record.epoch Unfinished

/-- Every take-over has its attempt before it, in a system that is sound. -/
structure Contended (contest : Contest) : Prop where
  sound : Sound contest.system
  overlapping : ∀ tx reading, contest.reading tx = some reading →
    Overlapping contest.system tx reading

section Overlap

variable {threshold : Int} {system after : System} {contest next : Contest} {move : Move}
  {label : Label} {tx : TxId} {reading : Reading}

/-- A statement that waits for no lock leaves a live attempt live. -/
theorem live_writes {db after : Checkout.Database} {driver : Driver} {lease epoch : Nat} {now : Time}
    (coupled : ∀ tx, Coupled (db.transactions.lookup tx) (db.completions.lookup tx))
    (writes : Writes driver db lease now after) (unlocked : driver.phase.locks = false)
    (live : LiveAt db tx epoch Unfinished) : LiveAt after tx epoch Unfinished := by
  have turns := turns_writes coupled writes tx
  obtain ⟨record, found, current, unfinished⟩ := live
  rw [found] at turns
  generalize written : after.completions.lookup tx = new at turns
  cases turns with
  | keeps same spared =>
      have live : LiveAt db tx epoch Unfinished := ⟨record, found, current, unfinished⟩
      apply live.same
      rw [found, written]
      exact same
  | starts phase closed epoch state => simp [phase, Phase.locks] at unlocked
  | reserves phase live epoch state =>
      refine ⟨_, written, epoch.trans current, ?_⟩
      rw [state]
      rfl
  | @finalizes acting old new phase live epoch state =>
      cases isPhase : driver.phase <;>
        simp [isPhase, Phase.finalizing, Phase.locks] at phase unlocked
  | compensates phase live epoch state =>
      refine ⟨_, written, epoch.trans current, ?_⟩
      rw [state]
      rfl
  | reopens phase live epoch state => simp [phase, Phase.locks] at unlocked

theorem enabled_unlocked {id : DriverId} {driver : Driver} {lease : Nat} {now : Time}
    (enabled : contest.enabled label = true) (writer : Writer label id lease now)
    (running : contest.system.drivers.lookup id = some driver)
    (found : contest.reading driver.tx = some reading) : driver.phase.locks = false := by
  cases writer <;> simp [Contest.enabled, Contest.commits, running, found] at enabled <;>
    exact enabled.1

theorem Overlapping.acts (overlaps : Overlapping contest.system tx reading)
    (sound : Sound contest.system)
    (found : contest.reading tx = some reading) (enabled : contest.enabled label = true)
    (does : Does threshold contest.system label after) :
    LiveAt after.checkout tx reading.record.epoch Unfinished := by
  rcases step_written does with rests | ⟨id, driver, lease, now, writer, running, writes⟩
  · exact overlaps.attempt.same (rests.same tx)
  · by_cases own : tx = driver.tx
    · subst own
      exact live_writes sound.coupled writes (enabled_unlocked enabled writer running found)
        overlaps.attempt
    · exact overlaps.attempt.same (.of_eq (writes_other writes own))

theorem takeOver_other {db : Checkout.Database} {record : Completion} {now : Time} {other : TxId}
    (different : other ≠ tx) :
    (takeOver db tx record now).completions.lookup other = db.completions.lookup other := by
  simp [takeOver, setCompletionState, different]

/-- What a take-over makes of its attempt, whatever has happened to it meanwhile. -/
theorem Overlapping.writesOver (overlaps : Overlapping system tx reading) :
    LiveAt (takeOver system.checkout tx reading.record reading.now) tx reading.record.epoch
      (· = reading.record.state) :=
  setCompletionState_live overlaps.attempt

/-- A take-over that writes, whatever it writes back, keeps the system sound. -/
theorem Sound.writesOver (sound : Sound system) (overlaps : Overlapping system tx reading)
    {asked : List Request}
    (asks : ∀ request ∈ asked, request = requestOf system.checkout tx reading.record.epoch) :
    Sound
      { system with
        checkout := takeOver system.checkout tx reading.record reading.now
        asked := system.asked ++ asked } := by
  have advances : Advances system.checkout
      (takeOver system.checkout tx reading.record reading.now) :=
    advances_takeOver overlaps.live
  refine sound.checkout advances ?_
  intro request member
  rw [asks request member]
  obtain ⟨record, found, same, _⟩ := overlaps.attempt
  have reached := advances.reached (reached_of_lookup found (sound.epochs tx record found))
  rw [same] at reached
  exact ⟨reached, _, _, rfl⟩

/-- The driver of a take-over goes on with an attempt that has started. -/
theorem Sound.takesOver (sound : Sound (writtenBack system tx reading))
    (overlaps : Overlapping system tx reading) {driver : Driver}
    (running : system.drivers.lookup reading.id = some driver) :
    (driver.takeOverFrom system.checkout tx reading).Obeys
      (PhaseSound (writtenBack system tx reading)) (RowSound (writtenBack system tx reading)) := by
  obtain ⟨record, known, same, _⟩ := overlaps.writesOver
  have reached : Reached (writtenBack system tx reading).checkout ⟨tx, record.epoch⟩ :=
    reached_of_lookup known (sound.epochs tx record known)
  obtain ⟨_, _, again, rfl, _⟩ := overlaps.running
  cases running.symm.trans again
  rw [same] at reached
  exact (sound.drivers reading.id driver running).goto reached

theorem Sound.writesOnly (sound : Sound system) (overlaps : Overlapping system tx reading) :
    Sound (writtenOver system tx reading) :=
  sound.checkoutOnly (advances_takeOver overlaps.live)

/-- A take-over that ends leaves the attempts of the others as they were. -/
theorem Contended.attempt_ends (contended : Contended contest) {other : TxId} {record : Completion}
    {now : Time} (remains : Function.update contest.reading other none tx = some reading) :
    LiveAt (takeOver contest.system.checkout other record now) tx reading.record.epoch
      Unfinished := by
  obtain ⟨different, before⟩ := reads_rest remains
  exact (contended.overlapping tx reading before).attempt.same (.of_eq (takeOver_other different))

theorem Contended.overlapsStep (contended : Contended contest)
    (taken : contest.step threshold move = some next) (tx : TxId) (reading : Reading)
    (remains : next.reading tx = some reading) : Overlapping next.system tx reading where
  toReads := reads_step contended.sound (fun tx reading found =>
    (contended.overlapping tx reading found).toReads) taken tx reading remains
  attempt := by
    cases step_moved taken with
    | acts enabled stepped =>
        have found := readingAfter_some remains
        exact (contended.overlapping tx reading found).acts contended.sound found enabled
          (step_does stepped)
    | @reads id lease now driver record running free began =>
        rcases reads_another remains with ⟨rfl, rfl⟩ | before
        · obtain ⟨_, began⟩ := begins_takingOver began
          have live := (reads_takingOver (contended.sound.coupled driver.tx) began record rfl).1
          exact ⟨record, (takingOver_lookup began).1, rfl, live⟩
        · exact (contended.overlapping tx reading before).attempt
    | writesBack found running => exact contended.attempt_ends remains
    | raises found running => exact contended.attempt_ends remains
    | drops found running =>
        have live := (contended.overlapping tx reading (reads_rest remains).2).attempt
        exact live
    | answersLate recorded => exact (contended.overlapping tx reading remains).attempt

/-- Step lemma: whatever drivers do to each other, the system stays sound. -/
theorem Contended.step (contended : Contended contest) (undone : RefusesUndone contest move)
    (taken : contest.step threshold move = some next) : Contended next where
  sound := by
    cases step_moved taken with
    | acts enabled stepped => exact contended.sound.step (step_does stepped)
    | reads running free began => exact contended.sound
    | @writesBack tx reading driver found running =>
        have overlaps := contended.overlapping tx reading found
        have written : Sound (writtenBack contest.system tx reading) :=
          contended.sound.writesOver overlaps (fun _ member => List.mem_singleton.mp member)
        exact written.goes reading.id (written.takesOver overlaps running)
    | @raises tx error reading driver found running =>
        have written := contended.sound.writesOnly (contended.overlapping tx reading found)
        exact written.goes reading.id (leave_sound (written.drivers _ driver running) .raised)
    | @drops tx error reading driver found running =>
        exact contended.sound.goes reading.id
          (leave_sound (contended.sound.drivers _ driver running) .raised)
    | answersLate recorded => exact contended.sound.answerLate undone _
  overlapping := contended.overlapsStep taken

theorem Contended.opening (levels : Table Sku Nat) : Contended (contestOpening levels) where
  sound := .opening levels
  overlapping _ _ found := by contradiction

theorem Contended.grows (contended : Contended contest)
    (taken : contest.step threshold move = some next) : Grows contest.system next.system := by
  cases step_moved taken with
  | acts enabled stepped => exact step_grows contended.sound (step_does stepped)
  | reads running free began => exact ⟨.refl _, fun _ => .inl rfl⟩
  | writesBack found running =>
      exact ⟨advances_takeOver (contended.overlapping _ _ found).live, fun _ => .inl rfl⟩
  | raises found running =>
      exact ⟨advances_takeOver (contended.overlapping _ _ found).live, fun _ => .inl rfl⟩
  | drops found running => exact ⟨.refl _, fun _ => .inl rfl⟩
  | answersLate recorded => exact ⟨.refl _, fun _ => .inl rfl⟩

end Overlap

structure Overlaps (system : System) (tx : TxId) (reading : Reading) : Prop extends
    Overlapping system tx reading where
  taken : reading.record.state = .reserved → Taken system.inventory ⟨tx, reading.record.epoch⟩

section Sale

variable {threshold : Int} {system : System} {contest next : Contest} {move : Move}
  {tx : TxId} {reading : Reading}

theorem SaleKept.goes (kept : SaleKept system) (id : DriverId) {driver : Driver}
    (obeys : driver.Obeys (PhaseSound system) (RowSound system))
    (forward : driver.Obeys (PhaseForward system) (RowForward system)) :
    SaleKept (system.setDriver id (some driver)) where
  toSound := kept.toSound.goes id obeys
  taken := kept.taken
  unreleased := kept.unreleased
  forward := by
    intro other running found
    rcases setDriver_found found with ⟨rfl, same⟩ | before
    · cases same
      exact forward
    · exact kept.forward other running before

theorem SaleKept.leaves (kept : SaleKept system) {id : DriverId} {driver : Driver} (exit : Exit)
    (obeys : driver.Obeys (PhaseSound system) (RowSound system))
    (forward : driver.Obeys (PhaseForward system) (RowForward system)) :
    SaleKept (system.setDriver id (some (driver.leave exit))) :=
  kept.goes id (leave_sound obeys exit)
    (leave_obeys forward.rows exit trivial (fun _ _ => recover_forward))

theorem SaleKept.writesOver (kept : SaleKept system) (overlaps : Overlaps system tx reading)
    {asked : List Request}
    (asks : ∀ request ∈ asked, request = requestOf system.checkout tx reading.record.epoch) :
    SaleKept
      { system with
        checkout := takeOver system.checkout tx reading.record reading.now
        asked := system.asked ++ asked } where
  toSound := kept.toSound.writesOver overlaps.toOverlapping asks
  taken := by
    intro other record found state
    by_cases own : other = tx
    · subst own
      obtain ⟨again, foundAgain, epoch, isState⟩ := overlaps.writesOver
      cases found.symm.trans foundAgain
      rw [epoch]
      rcases state with reserved | completed
      · exact overlaps.taken (isState.symm.trans reserved)
      · have live := overlaps.live
        rw [← isState, completed] at live
        contradiction
    · simp only [takeOver_other own] at found
      exact kept.taken other record found state
  unreleased := by
    intro other record found completed
    by_cases own : other = tx
    · subst own
      obtain ⟨again, foundAgain, _, isState⟩ := overlaps.writesOver
      cases found.symm.trans foundAgain
      have live := overlaps.live
      rw [← isState, completed] at live
      contradiction
    · simp only [takeOver_other own] at found
      exact kept.unreleased other record found completed
  forward := by
    intro id driver running
    exact (kept.forward id driver running).imp (forward_follows (fun _ => .inl rfl))
      (fun _ _ forward => forward)

structure Keeping (contest : Contest) : Prop extends SaleKept contest.system where
  overlaps : ∀ tx reading, contest.reading tx = some reading →
    Overlaps contest.system tx reading

def Move.acted : Move → Option Label
  | .act label => some label
  | _ => none

/-- A driver's local transaction keeps the sale, and no attempt that holds stock is
refused late; a take-over may write back what it likes. -/
def KeepsSales (contest : Contest) (move : Move) : Prop :=
  RefusesUndone contest move ∧ ∀ label ∈ move.acted, Committing KeepsSale contest.system label

instance (contest : Contest) (move : Move) : Decidable (KeepsSales contest move) :=
  inferInstanceAs (Decidable (_ ∧ ∀ _ ∈ _, _))

theorem Keeping.contended (keeping : Keeping contest) : Contended contest where
  sound := keeping.toSound
  overlapping tx reading found := (keeping.overlaps tx reading found).toOverlapping

theorem Keeping.grows (keeping : Keeping contest)
    (taken : contest.step threshold move = some next) : Grows contest.system next.system :=
  keeping.contended.grows taken

theorem Keeping.overlapsStep (keeping : Keeping contest)
    (taken : contest.step threshold move = some next) (tx : TxId) (reading : Reading)
    (remains : next.reading tx = some reading) : Overlaps next.system tx reading where
  toOverlapping := keeping.contended.overlapsStep taken tx reading remains
  taken := by
    have later : contest.reading tx = some reading → reading.record.state = .reserved →
        Taken next.system.inventory ⟨tx, reading.record.epoch⟩ := by
      intro found reserved
      exact taken_follows ((keeping.grows taken).follows _)
        ((keeping.overlaps tx reading found).taken reserved)
    cases step_moved taken with
    | acts enabled stepped => exact later (readingAfter_some remains)
    | @reads id lease now driver record running free began =>
        rcases reads_another remains with ⟨rfl, rfl⟩ | before
        · obtain ⟨_, began⟩ := begins_takingOver began
          intro reserved
          exact keeping.taken driver.tx record (takingOver_lookup began).1 (.inl reserved)
        · exact later before
    | writesBack found running => exact later (reads_rest remains).2
    | raises found running => exact later (reads_rest remains).2
    | drops found running => exact later (reads_rest remains).2
    | answersLate recorded => exact later remains

theorem SaleKept.answerLate (kept : SaleKept system) {attempt : Attempt}
    (undone : Undone system.inventory attempt) (short : List Sku) :
    SaleKept (system.answerLate attempt short) where
  toSound := kept.toSound.answerLate undone short
  taken := kept.taken
  unreleased := kept.unreleased
  forward := kept.forward

theorem Keeping.saleStep (keeping : Keeping contest) (allowed : KeepsSales contest move)
    (taken : contest.step threshold move = some next) : SaleKept next.system := by
  cases step_moved taken with
  | acts enabled stepped => exact keeping.toSaleKept.step (allowed.2 _ rfl) (step_does stepped)
  | reads running free began => exact keeping.toSaleKept
  | @writesBack tx reading driver found running =>
      have overlaps := keeping.overlaps tx reading found
      have written : SaleKept (writtenBack contest.system tx reading) :=
        keeping.toSaleKept.writesOver overlaps (fun _ member => List.mem_singleton.mp member)
      exact written.goes reading.id
        (written.toSound.takesOver overlaps.toOverlapping running)
        ((written.forward reading.id driver running).goto trivial)
  | @raises tx error reading driver found running =>
      have written : SaleKept { contest.system with
          checkout := (writtenOver contest.system tx reading).checkout
          asked := contest.system.asked ++ [] } :=
        keeping.toSaleKept.writesOver (keeping.overlaps tx reading found)
          (fun _ member => by contradiction)
      rw [List.append_nil] at written
      exact written.leaves .raised (written.drivers _ driver running)
        (written.forward _ driver running)
  | @drops tx error reading driver found running =>
      exact keeping.toSaleKept.leaves .raised (keeping.drivers _ driver running)
        (keeping.forward _ driver running)
  | answersLate recorded => exact keeping.toSaleKept.answerLate allowed.1 _

/-- Step lemma: a permitted move keeps the stock of completed sales. -/
theorem Keeping.step (keeping : Keeping contest) (allowed : KeepsSales contest move)
    (taken : contest.step threshold move = some next) : Keeping next where
  toSaleKept := keeping.saleStep allowed taken
  overlaps := keeping.overlapsStep taken

theorem Keeping.opening (levels : Table Sku Nat) : Keeping (contestOpening levels) where
  toSaleKept := .opening levels
  overlaps _ _ found := by contradiction

end Sale

end SelfCheckout.Saga
