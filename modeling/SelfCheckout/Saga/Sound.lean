import SelfCheckout.Saga.System
import SelfCheckout.Data.Run

namespace SelfCheckout.Saga

open SelfCheckout.Data SelfCheckout.Checkout

/-! # What holds in every run

However many drivers act on a transaction, and whatever happens to the copies of
their events: Inventory keeps records only of attempts that Checkout started, a
reply says how its record stands, and a driver that acts on a reply carries what
the reply said.
-/

def Reached (db : Checkout.Database) (attempt : Attempt) : Prop :=
  1 ≤ attempt.epoch ∧ ∃ record, db.completions.lookup attempt.transactionId = some record ∧
    attempt.epoch ≤ record.epoch

def ReleaseQueued (db : Checkout.Database) (attempt : Attempt) : Prop :=
  .stockReleaseRequested attempt ∈ db.outbox

def adjustmentState (db : Inventory.Database) (attempt : Attempt) :
    Option Inventory.AdjustmentState :=
  (db.adjustments.lookup attempt).map Inventory.Adjustment.state

/-- Inventory took the attempt's stock, and may have given it back. -/
def Taken (db : Inventory.Database) (attempt : Attempt) : Prop :=
  adjustmentState db attempt = some .applied ∨ adjustmentState db attempt = some .released

/-- Inventory holds no stock for the attempt and never will. -/
def Undone (db : Inventory.Database) (attempt : Attempt) : Prop :=
  adjustmentState db attempt = some .rejected ∨ adjustmentState db attempt = some .released

/-- What an outcome says of its record. -/
def Honours (db : Inventory.Database) : Outcome → Prop
  | .stockReserved attempt _ => Taken db attempt
  | .stockRejected attempt _ => Undone db attempt
  | .reservationRefused attempt => adjustmentState db attempt = some .released
  | .stockReleased attempt _ _ => adjustmentState db attempt = some .released

/-- The requests that explain a record. -/
def Explains (topic : List Request) (attempt : Attempt) : Inventory.Adjustment → Prop
  | .applied taken => ∃ lines, .stockReservationRequested attempt lines ∈ topic ∧
      taken = Inventory.normalize lines
  | .rejected _ => ∃ lines, .stockReservationRequested attempt lines ∈ topic
  | .released _ => .stockReleaseRequested attempt ∈ topic

/-- What a driver in this phase relies on. -/
def PhaseSound (system : System) (tx : TxId) : Phase → Prop
  | .awaitReserve begun => Reached system.checkout ⟨tx, begun.epoch⟩
  | .setReserved begun =>
      Reached system.checkout ⟨tx, begun.epoch⟩ ∧ Taken system.inventory ⟨tx, begun.epoch⟩
  | .finalize begun =>
      Reached system.checkout ⟨tx, begun.epoch⟩ ∧ Taken system.inventory ⟨tx, begun.epoch⟩
  | .rollForward epoch _ => Reached system.checkout ⟨tx, epoch⟩
  | .markCompensating epoch _ _ => Reached system.checkout ⟨tx, epoch⟩
  | .awaitRelease epoch _ =>
      Reached system.checkout ⟨tx, epoch⟩ ∧ ReleaseQueued system.checkout ⟨tx, epoch⟩
  | .reopen epoch _ => Reached system.checkout ⟨tx, epoch⟩ ∧ Undone system.inventory ⟨tx, epoch⟩
  | .begin _ => True
  | .readStatus _ => True
  | .left _ => True

def RowSound (system : System) (row : StuckRow) : Prop :=
  Reached system.checkout ⟨row.transactionId, row.epoch⟩

structure Sound (system : System) : Prop where
  coupled : ∀ tx, Coupled (system.checkout.transactions.lookup tx)
    (system.checkout.completions.lookup tx)
  epochs : ∀ tx record, system.checkout.completions.lookup tx = some record → 1 ≤ record.epoch
  queued : ∀ request ∈ system.checkout.outbox, Reached system.checkout request.attempt
  asked : ∀ request ∈ system.asked, Reached system.checkout request.attempt ∧
    ∃ attempt lines, request = .stockReservationRequested attempt lines
  topic : ∀ request ∈ system.completions,
    request ∈ system.checkout.outbox ∨ request ∈ system.asked
  stock : ∀ outcome ∈ system.stock, outcome ∈ system.inventory.outbox
  outcomes : ∀ outcome ∈ system.inventory.outbox, Honours system.inventory outcome
  records : ∀ attempt row, system.inventory.adjustments.lookup attempt = some row →
    Explains system.completions attempt row
  drivers : ∀ id driver, system.drivers.lookup id = some driver →
    driver.Obeys (PhaseSound system) (RowSound system)

section Records

variable {before after : Inventory.Database} {attempt : Attempt}

theorem released_follows
    (follows : Inventory.Adjustment.Follows (before.adjustments.lookup attempt)
      (after.adjustments.lookup attempt))
    (released : adjustmentState before attempt = some .released) :
    adjustmentState after attempt = some .released := by
  unfold adjustmentState at *
  rcases follows with same | arrow
  · rw [same]
    exact released
  · generalize before.adjustments.lookup attempt = old at arrow released
    generalize after.adjustments.lookup attempt = new at arrow
    cases arrow <;> simp [Inventory.Adjustment.state] at released

theorem taken_follows
    (follows : Inventory.Adjustment.Follows (before.adjustments.lookup attempt)
      (after.adjustments.lookup attempt))
    (taken : Taken before attempt) : Taken after attempt := by
  rcases taken with applied | released
  · unfold Taken adjustmentState at *
    rcases follows with same | arrow
    · rw [same]
      exact .inl applied
    · generalize before.adjustments.lookup attempt = old at arrow applied
      generalize after.adjustments.lookup attempt = new at arrow
      cases arrow <;> simp [Inventory.Adjustment.state] at *
  · exact .inr (released_follows follows released)

theorem undone_follows
    (follows : Inventory.Adjustment.Follows (before.adjustments.lookup attempt)
      (after.adjustments.lookup attempt))
    (undone : Undone before attempt) : Undone after attempt := by
  rcases undone with rejected | released
  · unfold Undone adjustmentState at *
    rcases follows with same | arrow
    · rw [same]
      exact .inl rejected
    · generalize before.adjustments.lookup attempt = old at arrow rejected
      generalize after.adjustments.lookup attempt = new at arrow
      cases arrow <;> simp [Inventory.Adjustment.state] at *
  · exact .inr (released_follows follows released)

theorem honours_follows
    (follows : ∀ attempt, Inventory.Adjustment.Follows (before.adjustments.lookup attempt)
      (after.adjustments.lookup attempt))
    {outcome : Outcome} (honours : Honours before outcome) : Honours after outcome := by
  cases outcome with
  | stockReserved attempt replayed => exact taken_follows (follows attempt) honours
  | stockRejected attempt short => exact undone_follows (follows attempt) honours
  | reservationRefused attempt => exact released_follows (follows attempt) honours
  | stockReleased attempt units already => exact released_follows (follows attempt) honours

theorem applied_of_taken {topic : List Request} (taken : Taken before attempt)
    (explains : ∀ row, before.adjustments.lookup attempt = some row → Explains topic attempt row)
    (unreleased : .stockReleaseRequested attempt ∉ topic) :
    ∃ lines, before.adjustments.lookup attempt = some (.applied lines) := by
  unfold Taken adjustmentState at taken
  cases found : before.adjustments.lookup attempt with
  | none => simp [found] at taken
  | some row =>
      cases row with
      | applied lines => exact ⟨lines, rfl⟩
      | rejected short => simp [found, Inventory.Adjustment.state] at taken
      | released lines => exact absurd (explains _ found) unreleased

theorem not_undone_of_applied {lines : List (Sku × Nat)}
    (applied : before.adjustments.lookup attempt = some (.applied lines)) :
    ¬ Undone before attempt := by
  simp [Undone, adjustmentState, applied, Inventory.Adjustment.state]

end Records

theorem handle_honours {db after : Inventory.Database} {threshold : Int} {request : Request}
    {outcome : Outcome} (done : Inventory.handle db threshold request = some (outcome, after)) :
    Honours after outcome := by
  rcases Inventory.handle_cases done with
    ⟨attempt, lines, result, inner, rfl, ran, rfl, rfl⟩ | ⟨attempt, result, inner, rfl, ran, rfl, rfl⟩
  · rcases Inventory.reserve_cases ran with
      ⟨row, found, rfl, rfl⟩ | ⟨_, _, rfl, rfl⟩ | ⟨_, _, rfl, rfl⟩
    · cases row with
      | applied taken => exact .inl (by simp [adjustmentState, Inventory.insertOutbox, found,
          Inventory.Adjustment.state])
      | rejected short => exact .inl (by simp [adjustmentState, Inventory.insertOutbox, found,
          Inventory.Adjustment.state])
      | released left =>
          simp [Inventory.Adjustment.answer, Inventory.ReserveResult.outcome, Honours,
            adjustmentState, Inventory.insertOutbox, found, Inventory.Adjustment.state]
    · exact .inl (by simp [adjustmentState, Inventory.insertOutbox, Inventory.applyReserve,
        Inventory.Adjustment.state])
    · exact .inl (by simp [adjustmentState, Inventory.insertOutbox, Inventory.recordRejected,
        Inventory.Adjustment.state])
  · rcases Inventory.release_cases ran with
      ⟨_, rfl, rfl⟩ | ⟨left, found, rfl, rfl⟩ | ⟨short, _, rfl, rfl⟩ | ⟨taken, _, rfl, rfl⟩
    · simp [Honours, Inventory.Released.outcome, adjustmentState, Inventory.insertOutbox,
        Inventory.Adjustment.state]
    · simp [Honours, Inventory.Released.outcome, adjustmentState, Inventory.insertOutbox, found,
        Inventory.Adjustment.state]
    · simp [Honours, Inventory.Released.outcome, adjustmentState, Inventory.insertOutbox,
        Inventory.Adjustment.state]
    · simp [Honours, Inventory.Released.outcome, adjustmentState, Inventory.insertOutbox,
        Inventory.applyRelease, Inventory.Adjustment.state]

theorem handle_explains {db after : Inventory.Database} {threshold : Int} {request : Request}
    {outcome : Outcome} {topic : List Request}
    (done : Inventory.handle db threshold request = some (outcome, after))
    (onTopic : request ∈ topic)
    (explains : ∀ attempt row, db.adjustments.lookup attempt = some row →
      Explains topic attempt row)
    (attempt : Attempt) (row : Inventory.Adjustment)
    (found : after.adjustments.lookup attempt = some row) : Explains topic attempt row := by
  by_cases own : attempt = request.attempt
  · subst own
    rcases Inventory.handle_cases done with
      ⟨attempt, lines, result, inner, rfl, ran, rfl, rfl⟩ | ⟨attempt, result, inner, rfl, ran, rfl, rfl⟩
    · rcases Inventory.reserve_cases ran with
        ⟨_, _, _, rfl⟩ | ⟨_, _, _, rfl⟩ | ⟨_, _, _, rfl⟩
      · exact explains _ row found
      · simp only [Request.attempt, Inventory.insertOutbox, Inventory.applyReserve,
          Table.lookup_put_self, Option.some.injEq] at found
        subst found
        exact ⟨lines, onTopic, rfl⟩
      · simp only [Request.attempt, Inventory.insertOutbox, Inventory.recordRejected,
          Table.lookup_put_self, Option.some.injEq] at found
        subst found
        exact ⟨lines, onTopic⟩
    · rcases Inventory.release_cases ran with
        ⟨_, _, rfl⟩ | ⟨_, _, _, rfl⟩ | ⟨_, _, _, rfl⟩ | ⟨_, _, _, rfl⟩
      · simp only [Request.attempt, Inventory.insertOutbox, Table.lookup_put_self,
          Option.some.injEq] at found
        subst found
        exact onTopic
      · exact explains _ row found
      · simp only [Request.attempt, Inventory.insertOutbox, Table.lookup_put_self,
          Option.some.injEq] at found
        subst found
        exact onTopic
      · simp only [Request.attempt, Inventory.insertOutbox, Inventory.applyRelease,
          Table.lookup_put_self, Option.some.injEq] at found
        subst found
        exact onTopic
  · rw [Inventory.handle_other_attempt done own] at found
    exact explains attempt row found

section Rows

variable {free : Bool} {row row' : Option Transaction} {record record' : Option Completion}

/-- A completion record is never deleted and its epoch never decreases. -/
theorem epoch_le_of_moves (moves : Moves free row record row' record') {old : Completion}
    (found : record = some old) : ∃ new, record' = some new ∧ old.epoch ≤ new.epoch := by
  cases moves with
  | same => exact ⟨old, found, le_refl _⟩
  | inserted => exact ⟨old, found, le_refl _⟩
  | scanned => exact ⟨old, found, le_refl _⟩
  | cancelled => exact ⟨old, found, le_refl _⟩
  | started transaction _ after wasOpen epoch state =>
      subst found
      exact ⟨after, rfl, by rw [epoch]; exact Nat.le_succ _⟩
  | driven _ live after wasLive stillLive epoch total =>
      cases found
      exact ⟨after, rfl, le_of_eq epoch.symm⟩
  | finalized transaction _ totalCents now wasCompleting =>
      subst found
      exact ⟨_, rfl, le_refl _⟩
  | reopened transaction _ now wasCompleting =>
      subst found
      refine ⟨_, rfl, ?_⟩
      dsimp only
      split
      · exact le_refl _
      · exact le_refl _

theorem epoch_pos_of_moves (moves : Moves free row record row' record')
    (positive : ∀ old, record = some old → 1 ≤ old.epoch) {new : Completion}
    (found : record' = some new) : 1 ≤ new.epoch := by
  cases known : record with
  | some old =>
      obtain ⟨again, foundAgain, grows⟩ := epoch_le_of_moves moves known
      cases found.symm.trans foundAgain
      exact le_trans (positive old known) grows
  | none =>
      subst known
      cases moves with
      | same => contradiction
      | inserted => contradiction
      | scanned => contradiction
      | cancelled => contradiction
      | started transaction _ after wasOpen epoch state =>
          cases found
          rw [epoch]
          exact le_refl _
      | finalized => contradiction
      | reopened => contradiction

end Rows

/-- What a step of any kind may do to Checkout's database. -/
structure Advances (before after : Checkout.Database) : Prop where
  moves : ∀ tx, Moves true (before.transactions.lookup tx) (before.completions.lookup tx)
    (after.transactions.lookup tx) (after.completions.lookup tx)
  kept : ∀ request ∈ before.outbox, request ∈ after.outbox
  fresh : ∀ request ∈ after.outbox, request ∈ before.outbox ∨ Reached after request.attempt

section Advances

variable {before after : Checkout.Database}

theorem Advances.refl (db : Checkout.Database) : Advances db db :=
  ⟨fun _ => .same _ _, fun _ member => member, fun _ member => .inl member⟩

theorem Advances.of_outbox
    (moves : ∀ tx, Moves true (before.transactions.lookup tx) (before.completions.lookup tx)
      (after.transactions.lookup tx) (after.completions.lookup tx))
    (outbox : after.outbox = before.outbox) : Advances before after :=
  ⟨moves, fun _ member => outbox ▸ member, fun _ member => .inl (outbox ▸ member)⟩

theorem Advances.reached (advances : Advances before after) {attempt : Attempt}
    (reached : Reached before attempt) : Reached after attempt := by
  obtain ⟨positive, record, found, below⟩ := reached
  obtain ⟨new, foundNew, grows⟩ := epoch_le_of_moves (advances.moves attempt.transactionId) found
  exact ⟨positive, new, foundNew, le_trans below grows⟩

theorem advances_claimStuck {claimed : List TxId} {lease limit : Nat} {now : Time}
    {rows : List StuckRow} (done : claimStuck before claimed lease limit now = some (rows, after)) :
    Advances before after := by
  refine .of_outbox (fun tx => moves_claimStuck before tx now done) ?_
  exact (claimStuck_rest before now done).2

end Advances

theorem reached_of_lookup {db : Checkout.Database} {tx : TxId} {record : Completion}
    (found : db.completions.lookup tx = some record) (positive : 1 ≤ record.epoch) :
    Reached db ⟨tx, record.epoch⟩ :=
  ⟨positive, record, found, le_refl _⟩

theorem advances_takeOver {db : Checkout.Database} {tx : TxId} {record : Completion} {now : Time}
    (live : record.state.terminal = false) : Advances db (takeOver db tx record now) :=
  .of_outbox (fun other => moves_setCompletionState db tx other now none live) rfl

theorem advances_writes {db after : Checkout.Database} {driver : Driver} {lease : Nat} {now : Time}
    (coupled : ∀ tx, Coupled (db.transactions.lookup tx) (db.completions.lookup tx))
    (compensates : ∀ epoch reason next, driver.phase = .markCompensating epoch reason next →
      Reached db ⟨driver.tx, epoch⟩)
    (writes : Writes driver db lease now after) : Advances db after := by
  cases writes with
  | nothing quiet => exact .refl db
  | started phase began =>
      obtain ⟨epoch, ⟨record, found, same, _⟩, rfl, outbox, _, _⟩ := started_lookup began
      refine ⟨fun tx => moves_beginCompletion db driver.tx tx now lease began, ?_, ?_⟩
      · intro request member
        rw [outbox]
        exact List.mem_append_left _ member
      · intro request member
        rw [outbox, List.mem_append, List.mem_singleton] at member
        apply member.imp_right
        intro same
        subst same
        refine ⟨?_, record, found, le_of_eq same.symm⟩
        rw [requestOf, Request.attempt, epoch]
        cases db.completions.lookup driver.tx with
        | none => exact le_refl _
        | some old => exact Nat.succ_le_succ (Nat.zero_le _)
  | @tookOver again record phase began =>
      exact advances_takeOver (reads_takingOver (coupled driver.tx) began record rfl).1
  | reserved phase =>
      exact .of_outbox (fun tx => moves_setCompletionState db driver.tx tx now none rfl) rfl
  | @finalized begun phase =>
      exact .of_outbox (fun tx => moves_finalize db driver.tx tx now begun.totalCents
        (fun _ => rfl)) (finalize_rest _ _ _ _).2
  | @rolledForward epoch totalCents phase =>
      exact .of_outbox (fun tx => moves_finalize db driver.tx tx now totalCents (fun _ => rfl))
        (finalize_rest _ _ _ _).2
  | @compensated epoch reason next phase =>
      have advances : Advances db
          (setCompletionState db driver.tx .compensating (some reason) now) :=
        .of_outbox (fun tx => moves_setCompletionState db driver.tx tx now (some reason) rfl) rfl
      refine ⟨advances.moves, fun request member => List.mem_append_left _ member, ?_⟩
      intro request member
      apply (List.mem_append.mp member).imp_right
      intro new
      rw [List.mem_singleton.mp new]
      exact advances.reached (compensates epoch reason next phase)
  | reopened phase =>
      exact .of_outbox (fun tx => moves_reopen db driver.tx tx now (fun _ => rfl))
        (reopen_rest _ _ _).2

structure Grows (before after : System) : Prop where
  advances : Advances before.checkout after.checkout
  follows : ∀ attempt, Inventory.Adjustment.Follows (before.inventory.adjustments.lookup attempt)
    (after.inventory.adjustments.lookup attempt)

section Parts

variable {before after system : System}

theorem Grows.releaseQueued (grows : Grows before after) {attempt : Attempt}
    (queued : ReleaseQueued before.checkout attempt) : ReleaseQueued after.checkout attempt :=
  grows.advances.kept _ queued

theorem PhaseSound.grow (grows : Grows before after) {tx : TxId} {phase : Phase}
    (sound : PhaseSound before tx phase) : PhaseSound after tx phase := by
  cases phase with
  | begin again => trivial
  | awaitReserve begun => exact grows.advances.reached sound
  | setReserved begun =>
      exact ⟨grows.advances.reached sound.1, taken_follows (grows.follows _) sound.2⟩
  | finalize begun =>
      exact ⟨grows.advances.reached sound.1, taken_follows (grows.follows _) sound.2⟩
  | readStatus begun => trivial
  | rollForward epoch totalCents => exact grows.advances.reached sound
  | markCompensating epoch reason next => exact grows.advances.reached sound
  | awaitRelease epoch next =>
      exact ⟨grows.advances.reached sound.1, grows.releaseQueued sound.2⟩
  | reopen epoch next =>
      exact ⟨grows.advances.reached sound.1, undone_follows (grows.follows _) sound.2⟩
  | left exit => trivial

theorem drivers_grow (grows : Grows before after) {driver : Driver}
    (obeys : driver.Obeys (PhaseSound before) (RowSound before)) :
    driver.Obeys (PhaseSound after) (RowSound after) :=
  obeys.imp (PhaseSound.grow grows) (fun _ _ reached => grows.advances.reached reached)

theorem recover_sound {row : StuckRow} (sound : RowSound system row) :
    PhaseSound system row.transactionId (recover row) := by
  unfold recover
  split
  · exact sound
  · exact sound

theorem leave_sound {driver : Driver} (obeys : driver.Obeys (PhaseSound system) (RowSound system))
    (exit : Exit) : (driver.leave exit).Obeys (PhaseSound system) (RowSound system) :=
  leave_obeys obeys.rows exit trivial (fun _ _ sound => recover_sound sound)

theorem Sound.setDriver (sound : Sound system) (id : DriverId) {driver : Option Driver}
    (holds : ∀ running, driver = some running →
      running.Obeys (PhaseSound system) (RowSound system)) :
    Sound (system.setDriver id driver) := by
  refine ⟨sound.coupled, sound.epochs, sound.queued, sound.asked, sound.topic, sound.stock,
    sound.outcomes, sound.records, ?_⟩
  intro other running found
  rw [setDriver_drivers] at found
  split at found
  · exact holds running found
  · exact sound.drivers other running found

theorem Sound.goes (sound : Sound system) (id : DriverId) {next : Driver}
    (obeys : next.Obeys (PhaseSound system) (RowSound system)) :
    Sound (system.setDriver id (some next)) := by
  apply sound.setDriver
  intro running same
  cases same
  exact obeys

theorem Sound.checkout (sound : Sound system) {checkout : Checkout.Database} {asked : List Request}
    (advances : Advances system.checkout checkout)
    (asks : ∀ request ∈ asked, Reached checkout request.attempt ∧
      ∃ attempt lines, request = .stockReservationRequested attempt lines) :
    Sound { system with checkout, asked := system.asked ++ asked } where
  coupled tx := (sound.coupled tx).moves (advances.moves tx)
  epochs tx _ found := epoch_pos_of_moves (advances.moves tx) (sound.epochs tx) found
  queued request member := (advances.fresh request member).elim
    (fun old => advances.reached (sound.queued request old)) id
  asked request member := (List.mem_append.mp member).elim
    (fun old => ⟨advances.reached (sound.asked request old).1, (sound.asked request old).2⟩)
    (asks request)
  topic request member := (sound.topic request member).imp (advances.kept request)
    (List.mem_append_left _)
  stock := sound.stock
  outcomes := sound.outcomes
  records := sound.records
  drivers id driver running := by
    have grows : Grows system { system with checkout, asked := system.asked ++ asked } :=
      ⟨advances, fun _ => .inl rfl⟩
    exact drivers_grow grows (sound.drivers id driver running)

theorem Sound.checkoutOnly (sound : Sound system) {checkout : Checkout.Database}
    (advances : Advances system.checkout checkout) : Sound { system with checkout } := by
  have nothingAsked : Sound { system with checkout, asked := system.asked ++ [] } :=
    sound.checkout advances (fun _ member => by contradiction)
  simpa using nothingAsked

theorem Sound.handles (sound : Sound system) {threshold : Int} {request : Request}
    {outcome : Outcome} {inventory : Inventory.Database} (onTopic : request ∈ system.completions)
    (done : Inventory.handle system.inventory threshold request = some (outcome, inventory)) :
    Sound { system with inventory } where
  coupled := sound.coupled
  epochs := sound.epochs
  queued := sound.queued
  asked := sound.asked
  topic := sound.topic
  stock other member := by
    rw [Inventory.handle_outbox done]
    exact List.mem_append_left _ (sound.stock other member)
  outcomes other member := by
    rw [Inventory.handle_outbox done, List.mem_append, List.mem_singleton] at member
    rcases member with old | rfl
    · exact honours_follows (Inventory.handle_follows done) (sound.outcomes other old)
    · exact handle_honours done
  records := handle_explains done onTopic sound.records
  drivers id driver running := by
    have grows : Grows system { system with inventory } := ⟨.refl _, Inventory.handle_follows done⟩
    exact drivers_grow grows (sound.drivers id driver running)

theorem explains_mono {topic more : List Request} {attempt : Attempt} {row : Inventory.Adjustment}
    (explains : Explains topic attempt row) : Explains (topic ++ more) attempt row := by
  cases row with
  | applied taken =>
      obtain ⟨lines, member, same⟩ := explains
      exact ⟨lines, List.mem_append_left _ member, same⟩
  | rejected short =>
      obtain ⟨lines, member⟩ := explains
      exact ⟨lines, List.mem_append_left _ member⟩
  | released left => exact List.mem_append_left _ explains

theorem Sound.publishes (sound : Sound system) {request : Request}
    (known : request ∈ system.checkout.outbox ∨ request ∈ system.asked) :
    Sound { system with completions := system.completions ++ [request] } where
  coupled := sound.coupled
  epochs := sound.epochs
  queued := sound.queued
  asked := sound.asked
  topic other member := by
    rcases List.mem_append.mp member with old | new
    · exact sound.topic other old
    · rw [List.mem_singleton.mp new]
      exact known
  stock := sound.stock
  outcomes := sound.outcomes
  records attempt row found := explains_mono (sound.records attempt row found)
  drivers id driver running := by
    have grows : Grows system { system with completions := system.completions ++ [request] } :=
      ⟨.refl _, fun _ => .inl rfl⟩
    exact drivers_grow grows (sound.drivers id driver running)

theorem Sound.publishesOutcome (sound : Sound system) {outcome : Outcome}
    (queued : outcome ∈ system.inventory.outbox) :
    Sound { system with stock := system.stock ++ [outcome] } where
  coupled := sound.coupled
  epochs := sound.epochs
  queued := sound.queued
  asked := sound.asked
  topic := sound.topic
  stock other member := by
    rcases List.mem_append.mp member with old | new
    · exact sound.stock other old
    · rw [List.mem_singleton.mp new]
      exact queued
  outcomes := sound.outcomes
  records := sound.records
  drivers id driver running := by
    have grows : Grows system { system with stock := system.stock ++ [outcome] } :=
      ⟨.refl _, fun _ => .inl rfl⟩
    exact drivers_grow grows (sound.drivers id driver running)

/-- A late refusal is honoured where the attempt holds no stock. -/
theorem Sound.answerLate (sound : Sound system) {attempt : Attempt}
    (undone : Undone system.inventory attempt) (short : List Sku) :
    Sound (system.answerLate attempt short) where
  coupled := sound.coupled
  epochs := sound.epochs
  queued := sound.queued
  asked := sound.asked
  topic := sound.topic
  stock other member := List.mem_append_left _ (sound.stock other member)
  outcomes other member := by
    rcases List.mem_append.mp member with old | new
    · exact honours_follows (fun _ => .inl rfl) (sound.outcomes other old)
    · rw [List.mem_singleton.mp new]
      exact undone
  records := sound.records
  drivers id driver running := by
    have grows : Grows system (system.answerLate attempt short) := ⟨.refl _, fun _ => .inl rfl⟩
    exact drivers_grow grows (sound.drivers id driver running)

end Parts

theorem claimed_lookup {db after : Checkout.Database} {claimed : List TxId} {lease limit : Nat}
    {now : Time} {rows : List StuckRow}
    (done : claimStuck db claimed lease limit now = some (rows, after)) {row : StuckRow}
    (member : row ∈ rows) :
    row.transactionId ∈ claimed ∧ ∃ record, db.completions.lookup row.transactionId = some record ∧
      record.epoch = row.epoch ∧ record.state = row.state ∧ record.state.terminal = false := by
  obtain ⟨_, live, rfl, _⟩ := claimStuck_eq db now done
  obtain ⟨tx, listed, mapped⟩ := List.mem_filterMap.mp member
  obtain ⟨record, found, rfl⟩ := Option.map_eq_some_iff.mp mapped
  obtain ⟨again, foundAgain, isLive⟩ := live tx listed
  cases found.symm.trans foundAgain
  exact ⟨listed, record, found, rfl, rfl, isLive⟩

/-- A pass starts with its first row and keeps the others. -/
theorem firstRow_obeys {OnPhase : TxId → Phase → Prop} {OnRow : StuckRow → Prop}
    {rows : List StuckRow} {driver : Driver} (first : firstRow rows = some driver)
    (holds : ∀ row ∈ rows, OnRow row)
    (taken : ∀ row ∈ rows, OnRow row → OnPhase row.transactionId (recover row)) :
    driver.Obeys OnPhase OnRow := by
  cases rows with
  | nil => contradiction
  | cons row remaining =>
      cases first
      exact ⟨taken row (by simp) (holds row (by simp)),
        fun other member => holds other (List.mem_cons_of_mem row member)⟩

section Step

variable {threshold : Int} {system after : System} {label : Label}

theorem Sound.advances_writes (sound : Sound system) {id : DriverId} {driver : Driver}
    (running : system.drivers.lookup id = some driver) {lease : Nat} {now : Time}
    {checkout : Checkout.Database} (writes : Writes driver system.checkout lease now checkout) :
    Advances system.checkout checkout := by
  refine Saga.advances_writes sound.coupled ?_ writes
  intro epoch reason next phase
  have reached := (sound.drivers id driver running).phase
  rwa [phase] at reached

theorem step_grows (sound : Sound system) (does : Does threshold system label after) :
    Grows system after := by
  cases does with
  | inserts absent =>
      exact ⟨.of_outbox (fun tx => moves_insertTransaction _ _ tx _ absent) rfl, fun _ => .inl rfl⟩
  | scans =>
      exact ⟨.of_outbox (fun tx => moves_scanItem _ _ tx _ _) (scanItem_outbox _ _ _ _),
        fun _ => .inl rfl⟩
  | sweeps =>
      exact ⟨.of_outbox (fun tx => moves_sweepAbandoned _ tx _ _) rfl, fun _ => .inl rfl⟩
  | calls free => exact ⟨.refl _, fun _ => .inl rfl⟩
  | claims free done => exact ⟨advances_claimStuck done, fun _ => .inl rfl⟩
  | commits running writes goes => exact ⟨sound.advances_writes running writes, fun _ => .inl rfl⟩
  | raisesAfterCommit running raised writes =>
      exact ⟨sound.advances_writes running writes, fun _ => .inl rfl⟩
  | raises running raised => exact ⟨.refl _, fun _ => .inl rfl⟩
  | receives running onTopic received => exact ⟨.refl _, fun _ => .inl rfl⟩
  | timesOut running timedOut => exact ⟨.refl _, fun _ => .inl rfl⟩
  | crashes => exact ⟨.refl _, fun _ => .inl rfl⟩
  | publishes known => exact ⟨.refl _, fun _ => .inl rfl⟩
  | handles onTopic done => exact ⟨.refl _, Inventory.handle_follows done⟩
  | publishesOutcome queued => exact ⟨.refl _, fun _ => .inl rfl⟩

theorem goes_sound (sound : Sound system) {driver next : Driver}
    (obeys : driver.Obeys (PhaseSound system) (RowSound system)) {lease : Nat} {now : Time}
    {checkout : Checkout.Database} {asked : List Request}
    (advances : Advances system.checkout checkout)
    (goes : Goes driver system.checkout lease now checkout next asked) :
    next.Obeys (PhaseSound { system with checkout }) (RowSound { system with checkout }) ∧
      ∀ request ∈ asked, Reached checkout request.attempt ∧
        ∃ attempt lines, request = .stockReservationRequested attempt lines := by
  have grows : Grows system { system with checkout } := ⟨advances, fun _ => .inl rfl⟩
  have later := drivers_grow grows obeys
  have phase := later.phase
  cases goes with
  | leaves exit => exact ⟨leave_sound later exit, fun _ member => by contradiction⟩
  | owesRollback _ began =>
      obtain ⟨record, found, rfl, _⟩ := compensating_lookup began
      refine ⟨later.goto ?_, fun _ member => by contradiction⟩
      exact reached_of_lookup found (sound.epochs _ record found)
  | started _ began =>
      obtain ⟨epoch, ⟨record, found, rfl, _⟩, _⟩ := started_lookup began
      refine ⟨later.goto ?_, fun _ member => by contradiction⟩
      exact reached_of_lookup found
        (epoch_pos_of_moves (advances.moves driver.tx) (sound.epochs driver.tx) found)
  | tookOver _ began =>
      have found := (takingOver_lookup began).1
      have reached := advances.reached
        (reached_of_lookup found (sound.epochs driver.tx _ found))
      refine ⟨later.goto reached, ?_⟩
      intro request member
      rw [List.mem_singleton.mp member]
      exact ⟨reached, _, _, rfl⟩
  | reserved running =>
      rw [running] at phase
      exact ⟨later.goto phase, fun _ member => by contradiction⟩
  | foundClosed => exact ⟨later.goto trivial, fun _ member => by contradiction⟩
  | compensated running =>
      rw [running] at phase
      exact ⟨later.goto ⟨phase, List.mem_append_right _ (List.mem_singleton.mpr rfl)⟩,
        fun _ member => by contradiction⟩
  | beginsAgain => exact ⟨later.goto trivial, fun _ member => by contradiction⟩

theorem raised_sound {driver next : Driver} {error : String}
    (obeys : driver.Obeys (PhaseSound system) (RowSound system))
    (raised : driver.raised error = some next) :
    next.Obeys (PhaseSound system) (RowSound system) := by
  rcases raised_cases raised with rfl | ⟨begun, reason, exit, running, rfl⟩
  · exact leave_sound obeys .raised
  · have phase := obeys.phase
    rw [running] at phase
    exact obeys.goto phase.1

theorem received_sound (sound : Sound system) {driver next : Driver} {outcome : Outcome}
    (obeys : driver.Obeys (PhaseSound system) (RowSound system)) (onTopic : outcome ∈ system.stock)
    (received : driver.receive outcome = some next) :
    next.Obeys (PhaseSound system) (RowSound system) := by
  have honours := sound.outcomes outcome (sound.stock outcome onTopic)
  have phase := obeys.phase
  rcases receive_cases received with
    ⟨begun, replayed, running, rfl, rfl⟩ | ⟨begun, exit, running, refusal, rfl⟩ |
    ⟨epoch, exit, units, already, running, rfl, rfl⟩
  · rw [running] at phase
    exact obeys.goto ⟨phase, honours⟩
  · rw [running] at phase
    refine obeys.goto ⟨phase, ?_⟩
    rcases refusal with ⟨short, rfl⟩ | rfl
    · exact honours
    · exact .inr honours
  · rw [running] at phase
    exact obeys.goto ⟨phase.1, .inr honours⟩

theorem timedOut_sound {driver next : Driver}
    (obeys : driver.Obeys (PhaseSound system) (RowSound system))
    (timedOut : driver.timeOut = some next) :
    next.Obeys (PhaseSound system) (RowSound system) := by
  rcases timeOut_cases timedOut with ⟨begun, reason, exit, running, rfl⟩ | ⟨exit, rfl⟩
  · have phase := obeys.phase
    rw [running] at phase
    exact obeys.goto phase
  · exact leave_sound obeys exit

/-- Step lemma: every step keeps the system sound. -/
theorem Sound.step (sound : Sound system) (does : Does threshold system label after) :
    Sound after := by
  have grows := step_grows sound does
  cases does with
  | inserts absent => exact sound.checkoutOnly grows.advances
  | scans => exact sound.checkoutOnly grows.advances
  | sweeps => exact sound.checkoutOnly grows.advances
  | calls free => exact sound.goes _ ⟨trivial, fun _ member => by contradiction⟩
  | claims free done =>
      have advances := advances_claimStuck done
      apply (sound.checkoutOnly advances).setDriver
      intro running first
      refine firstRow_obeys first (fun row member => ?_) (fun row _ => recover_sound)
      obtain ⟨_, record, found, same, _, _⟩ := claimed_lookup done member
      have reached := reached_of_lookup found (sound.epochs _ record found)
      rw [same] at reached
      exact advances.reached reached
  | commits running writes goes =>
      have advances := sound.advances_writes running writes
      obtain ⟨obeys, asks⟩ := goes_sound sound (sound.drivers _ _ running) advances goes
      exact (sound.checkout advances asks).goes _ ⟨obeys.phase, obeys.rows⟩
  | raisesAfterCommit running raised writes =>
      have advances := sound.advances_writes running writes
      have grows : Grows system { system with checkout := _ } := ⟨advances, fun _ => .inl rfl⟩
      have obeys := drivers_grow grows (sound.drivers _ _ running)
      exact (sound.checkoutOnly advances).goes _ (raised_sound obeys raised)
  | raises running raised => exact sound.goes _ (raised_sound (sound.drivers _ _ running) raised)
  | receives running onTopic received =>
      exact sound.goes _ (received_sound sound (sound.drivers _ _ running) onTopic received)
  | timesOut running timedOut =>
      exact sound.goes _ (timedOut_sound (sound.drivers _ _ running) timedOut)
  | crashes =>
      apply sound.setDriver
      intro next same
      contradiction
  | publishes known => exact sound.publishes known
  | handles onTopic done => exact sound.handles onTopic done
  | publishesOutcome queued => exact sound.publishesOutcome queued

theorem Sound.opening (levels : Table Sku Nat) : Sound (opening levels) where
  coupled _ := trivial
  epochs _ _ found := by contradiction
  queued _ member := by contradiction
  asked _ member := by contradiction
  topic _ member := by contradiction
  stock _ member := by contradiction
  outcomes _ member := by contradiction
  records _ _ found := by contradiction
  drivers _ _ running := by contradiction

theorem sound_of_run {allowed : System → Label → Prop} {levels : Table Sku Nat}
    {labels : List Label} (run : Run (Saga.step threshold) allowed (Saga.opening levels) labels system) :
    Sound system :=
  run.invariant (Sound.opening levels) (fun _ _ _ sound _ taken => sound.step (step_does taken))

end Step

/-- From one step of its own to the next a driver leaves, or goes to a phase in
which it rolls no claimed row forward. -/
inductive Driver.Continues (driver : Driver) : Driver → Prop where
  | leaves (exit : Exit) : driver.Continues (driver.leave exit)
  | goes (phase : Phase) (notForward : ∀ epoch totalCents, phase ≠ .rollForward epoch totalCents) :
      driver.Continues (driver.goto phase)

theorem raised_continues {driver next : Driver} {error : String}
    (raised : driver.raised error = some next) : driver.Continues next := by
  rcases raised_cases raised with rfl | ⟨_, _, _, _, rfl⟩
  · exact .leaves .raised
  · exact .goes _ (fun _ _ same => by cases same)

/-- The drivers after a step: those before it, a new call, a new pass, or the
driver that took the step. -/
theorem step_drivers {threshold : Int} {system after : System} {label : Label}
    (does : Does threshold system label after) {id : DriverId} {driver : Driver}
    (running : after.drivers.lookup id = some driver) :
    system.drivers.lookup id = some driver ∨
    (∃ tx, driver = ⟨tx, .complete, .begin false⟩) ∨
    (∃ claimed lease limit now rows checkout,
      claimStuck system.checkout claimed lease limit now = some (rows, checkout) ∧
        firstRow rows = some driver) ∨
    ∃ old, system.drivers.lookup id = some old ∧ old.Continues driver := by
  cases does with
  | inserts absent => exact .inl running
  | scans => exact .inl running
  | sweeps => exact .inl running
  | @calls acting tx free =>
      rcases setDriver_found running with ⟨rfl, same⟩ | before
      · cases same
        exact .inr (.inl ⟨tx, rfl⟩)
      · exact .inl before
  | claims free done =>
      rw [setDriver_drivers] at running
      split at running
      · exact .inr (.inr (.inl ⟨_, _, _, _, _, _, done, running⟩))
      · exact .inl running
  | commits found writes goes =>
      rcases setDriver_found running with ⟨rfl, same⟩ | before
      · cases same
        refine .inr (.inr (.inr ⟨_, found, ?_⟩))
        cases goes with
        | leaves exit => exact .leaves exit
        | owesRollback => exact .goes _ (fun _ _ same => by cases same)
        | started => exact .goes _ (fun _ _ same => by cases same)
        | tookOver => exact .goes _ (fun _ _ same => by cases same)
        | reserved => exact .goes _ (fun _ _ same => by cases same)
        | foundClosed => exact .goes _ (fun _ _ same => by cases same)
        | compensated => exact .goes _ (fun _ _ same => by cases same)
        | beginsAgain => exact .goes _ (fun _ _ same => by cases same)
      · exact .inl before
  | raisesAfterCommit found raised writes =>
      rcases setDriver_found running with ⟨rfl, same⟩ | before
      · cases same
        exact .inr (.inr (.inr ⟨_, found, raised_continues raised⟩))
      · exact .inl before
  | raises found raised =>
      rcases setDriver_found running with ⟨rfl, same⟩ | before
      · cases same
        exact .inr (.inr (.inr ⟨_, found, raised_continues raised⟩))
      · exact .inl before
  | receives found onTopic received =>
      rcases setDriver_found running with ⟨rfl, same⟩ | before
      · cases same
        refine .inr (.inr (.inr ⟨_, found, ?_⟩))
        rcases receive_cases received with
          ⟨_, _, _, _, rfl⟩ | ⟨_, _, _, _, rfl⟩ | ⟨_, _, _, _, _, _, rfl⟩
        · exact .goes _ (fun _ _ same => by cases same)
        · exact .goes _ (fun _ _ same => by cases same)
        · exact .goes _ (fun _ _ same => by cases same)
      · exact .inl before
  | timesOut found timedOut =>
      rcases setDriver_found running with ⟨rfl, same⟩ | before
      · cases same
        refine .inr (.inr (.inr ⟨_, found, ?_⟩))
        rcases timeOut_cases timedOut with ⟨_, _, _, _, rfl⟩ | ⟨exit, rfl⟩
        · exact .goes _ (fun _ _ same => by cases same)
        · exact .leaves exit
      · exact .inl before
  | crashes =>
      rw [setDriver_drivers] at running
      split at running
      · contradiction
      · exact .inl running
  | publishes known => exact .inl running
  | handles onTopic done => exact .inl running
  | publishesOutcome queued => exact .inl running

/-- The driver whose local transaction takes effect in this step. -/
def Label.writer : Label → Option DriverId
  | .commit id _ _ => some id
  | .raise id true _ _ _ => some id
  | _ => none

/-- A driver's local transaction takes effect only where `permits` holds. -/
def Committing (permits : System → Driver → Prop) (system : System) (label : Label) : Prop :=
  match label.writer with
  | none => True
  | some id =>
      match system.drivers.lookup id with
      | none => True
      | some driver => permits system driver

instance {permits : System → Driver → Prop} [∀ system driver, Decidable (permits system driver)]
    (system : System) (label : Label) : Decidable (Committing permits system label) := by
  unfold Committing
  cases label.writer with
  | none => exact .isTrue trivial
  | some id =>
      dsimp only
      cases system.drivers.lookup id with
      | none => exact .isTrue trivial
      | some driver => exact inferInstanceAs (Decidable (permits system driver))

/-- Only `_mark_compensating` queues a release. -/
theorem writes_release {driver : Driver} {db after : Checkout.Database} {lease : Nat} {now : Time}
    {attempt : Attempt} (writes : Writes driver db lease now after)
    (queued : ReleaseQueued after attempt) :
    ReleaseQueued db attempt ∨
      driver.tx = attempt.transactionId ∧
        ∃ reason next, driver.phase = .markCompensating attempt.epoch reason next := by
  unfold ReleaseQueued at *
  cases writes with
  | nothing quiet => exact .inl queued
  | started phase began =>
      obtain ⟨_, _, rfl, outbox, _⟩ := started_lookup began
      rw [outbox, List.mem_append, List.mem_singleton] at queued
      exact .inl (queued.resolve_right (fun same => by cases same))
  | tookOver phase began => exact .inl queued
  | reserved phase => exact .inl queued
  | finalized phase =>
      rw [(finalize_rest _ _ _ _).2] at queued
      exact .inl queued
  | rolledForward phase =>
      rw [(finalize_rest _ _ _ _).2] at queued
      exact .inl queued
  | @compensated epoch reason next phase =>
      rcases List.mem_append.mp queued with old | new
      · exact .inl old
      · cases List.mem_singleton.mp new
        exact .inr ⟨rfl, reason, next, phase⟩
  | reopened phase =>
      rw [(reopen_rest _ _ _).2] at queued
      exact .inl queued

/-- What one driver's local transaction does to the completion records and to the
releases queued. -/
structure Drives (before after : Checkout.Database) (driver : Driver) : Prop where
  turns : ∀ tx, Turns driver tx (before.completions.lookup tx) (after.completions.lookup tx)
  releases : ∀ attempt, ReleaseQueued after attempt → ReleaseQueued before attempt ∨
    driver.tx = attempt.transactionId ∧
      ∃ reason next, driver.phase = .markCompensating attempt.epoch reason next

/-- A step that is no driver's local transaction leaves every attempt as it is. -/
structure Rests (before after : Checkout.Database) : Prop where
  same : ∀ tx, SameState (before.completions.lookup tx) (after.completions.lookup tx)
  releases : ∀ attempt, ReleaseQueued after attempt → ReleaseQueued before attempt

theorem rests_claimStuck {before after : Checkout.Database} {claimed : List TxId} {lease limit : Nat}
    {now : Time} {rows : List StuckRow}
    (done : claimStuck before claimed lease limit now = some (rows, after)) :
    Rests before after := by
  have outbox := (claimStuck_rest before now done).2
  obtain ⟨nodup, _, _, rfl⟩ := claimStuck_eq before now done
  refine ⟨fun tx => ?_, fun attempt queued => ?_⟩
  · rw [lookup_claims before tx now nodup]
    split
    · unfold SameState
      cases before.completions.lookup tx <;> rfl
    · rfl
  · rwa [ReleaseQueued, outbox] at queued

/-- The step that a driver's local transaction takes, whether or not it then raises. -/
inductive Writer : Label → DriverId → Nat → Time → Prop where
  | commit (id : DriverId) (lease : Nat) (now : Time) : Writer (.commit id lease now) id lease now
  | raise (id : DriverId) (error : String) (lease : Nat) (now : Time) :
      Writer (.raise id true error lease now) id lease now

theorem step_written {threshold : Int} {system after : System} {label : Label}
    (does : Does threshold system label after) :
    Rests system.checkout after.checkout ∨
      ∃ id driver lease now, Writer label id lease now ∧ system.drivers.lookup id = some driver ∧
        Writes driver system.checkout lease now after.checkout := by
  have idle : Rests system.checkout system.checkout := ⟨fun _ => rfl, fun _ => id⟩
  cases does with
  | inserts absent => exact .inl ⟨fun _ => rfl, fun _ => id⟩
  | scans =>
      refine .inl ⟨fun tx => .of_eq (by simp only [scanItem_completions]), fun attempt queued => ?_⟩
      rwa [ReleaseQueued, scanItem_outbox] at queued
  | sweeps => exact .inl ⟨fun _ => rfl, fun _ => id⟩
  | calls free => exact .inl idle
  | claims free done => exact .inl (rests_claimStuck done)
  | commits running writes goes => exact .inr ⟨_, _, _, _, .commit _ _ _, running, writes⟩
  | raisesAfterCommit running raised writes =>
      exact .inr ⟨_, _, _, _, .raise _ _ _ _, running, writes⟩
  | raises running raised => exact .inl idle
  | receives running onTopic received => exact .inl idle
  | timesOut running timedOut => exact .inl idle
  | crashes => exact .inl idle
  | publishes known => exact .inl idle
  | handles onTopic done => exact .inl idle
  | publishesOutcome queued => exact .inl idle

theorem Committing.permitted {permits : System → Driver → Prop} {system : System} {label : Label}
    {id : DriverId} {driver : Driver} {lease : Nat} {now : Time}
    (allowed : Committing permits system label) (writer : Writer label id lease now)
    (running : system.drivers.lookup id = some driver) : permits system driver := by
  cases writer <;> simpa only [Committing, Label.writer, running] using allowed

theorem step_writes {permits : System → Driver → Prop} {threshold : Int} {system after : System}
    {label : Label} (sound : Sound system) (allowed : Committing permits system label)
    (does : Does threshold system label after) :
    Rests system.checkout after.checkout ∨
      ∃ id driver, system.drivers.lookup id = some driver ∧ permits system driver ∧
        Drives system.checkout after.checkout driver := by
  rcases step_written does with rests | ⟨id, driver, lease, now, writer, running, writes⟩
  · exact .inl rests
  · exact .inr ⟨id, driver, running, allowed.permitted writer running,
      turns_writes sound.coupled writes, fun attempt => writes_release writes⟩

end SelfCheckout.Saga
