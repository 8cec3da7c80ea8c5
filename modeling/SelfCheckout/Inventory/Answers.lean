import SelfCheckout.Inventory.Conservation

namespace SelfCheckout.Inventory

open SelfCheckout.Data

/-! # Answers and records

Every outcome reports a state of its attempt's record.  A handler that decides
from the record it read reports a state the record had.  The one answer that is
not read off a record is `Short`: `_RECORD_REJECTED` does nothing when a racing
duplicate's record is there already.
-/

/-- The state of the record an outcome reports. -/
def Outcome.reports : Outcome → AdjustmentState
  | .stockReserved _ _ => .applied
  | .stockRejected _ _ => .rejected
  | .reservationRefused _ => .released
  | .stockReleased _ _ _ => .released

def InState (attempt : Attempt) (state : AdjustmentState) (server : Server) : Prop :=
  (server.db.adjustments.lookup attempt).map Adjustment.state = some state

/-- The attempt's record is or was in this state. -/
def WasInState (threshold : Int) (start : Server) (labels : List Action) (attempt : Attempt)
    (state : AdjustmentState) : Prop :=
  Once (step threshold) start labels (InState attempt state)

/-- The record of a refusal: REJECTED, or RELEASED from REJECTED. -/
def Adjustment.refused : Adjustment → Bool
  | .applied _ => false
  | .rejected _ => true
  | .released (.taken _) => false
  | .released (.short _) => true

/-- `_RECORD_REJECTED` would record the refusal, or finds one. -/
def refusalStands (db : Database) (attempt : Attempt) : Bool :=
  (db.adjustments.lookup attempt).all Adjustment.refused

/-- Whenever a step runs `_RECORD_REJECTED`, the refusal stands. -/
def refusalsStand (server : Server) : Action → Bool
  | .begin _ _ => true
  | .abort _ => true
  | .proceed id =>
      (server.sessions id).all (fun session =>
        match session.phase with
        | .recordRejected _ _ => refusalStands server.db session.attempt
        | _ => true)

section Knowledge

/-- The outcome names its attempt, and the state it reports is one the record
had or is about to be given by the same transaction. -/
def Justified (was : AdjustmentState → Prop) (attempt : Attempt) (row : Option Adjustment)
    (outcome : Outcome) : Prop :=
  outcome.attempt = attempt ∧
    (was (Outcome.reports outcome) ∨ row.map Adjustment.state = some (Outcome.reports outcome))

/-- A RELEASED row that keeps a refusal's lines was REJECTED. -/
def RefusalKept (was : AdjustmentState → Prop) (row : Option Adjustment) : Prop :=
  ∀ short, row = some (.released (.short short)) → was .rejected

/-- What a session goes on with: `was` tells the states its record has had. -/
def SessionKnows (was : AdjustmentState → Prop) (db : Database) (session : Session) : Prop :=
  match session.phase with
  | .locking _ (some state) _ _ => was state ∧ (db.adjustments.lookup session.attempt).isSome
  | .replaying _ => (db.adjustments.lookup session.attempt).isSome
  | .committing writes =>
      (∀ outcome, writes.outcome = some outcome →
        Justified was session.attempt writes.adjustment outcome) ∧
      RefusalKept was writes.adjustment
  | _ => True

/-- The statements that look at the adjustment record. -/
def Phase.looksUp : Phase → Bool
  | .reserve _ => true
  | .locking _ none [] _ => true
  | .replaying _ => true
  | .recordRejected _ _ => true
  | .tombstone => true
  | .lockAdjustment => true
  | _ => false

variable {was : AdjustmentState → Prop} {db : Database} {attempt : Attempt}

theorem RefusalKept.imp {wider : AdjustmentState → Prop} {row : Option Adjustment}
    (kept : RefusalKept was row) (covers : ∀ state, was state → wider state) :
    RefusalKept wider row :=
  fun short found => covers _ (kept short found)

theorem Adjustment.Follows.isSome {before after : Option Adjustment}
    (follows : Adjustment.Follows before after) (present : before.isSome) : after.isSome := by
  rcases follows with rfl | arrow
  · exact present
  · cases arrow <;> rfl

theorem SessionKnows.imp {session : Session} {dbAfter : Database}
    {wider : AdjustmentState → Prop} (knows : SessionKnows was db session)
    (covers : ∀ state, was state → wider state)
    (follows : ∀ attempt, Adjustment.Follows (db.adjustments.lookup attempt)
      (dbAfter.adjustments.lookup attempt)) : SessionKnows wider dbAfter session := by
  obtain ⟨attempt, basket, phase⟩ := session
  cases phase with
  | locking caller prior waiting locked =>
      cases prior with
      | none => trivial
      | some state => exact ⟨covers _ knows.1, (follows attempt).isSome knows.2⟩
  | replaying caller => exact (follows attempt).isSome knows
  | committing writes =>
      refine ⟨fun outcome found => ?_, knows.2.imp covers⟩
      obtain ⟨same, reported⟩ := knows.1 outcome found
      exact ⟨same, reported.imp_left (covers _)⟩
  | reserve caller => trivial
  | recordRejected caller short => trivial
  | rereading => trivial
  | tombstone => trivial
  | lockAdjustment => trivial
  | restoring lines waiting locked => trivial

def EffectKnows (was : AdjustmentState → Prop) (db : Database) (session : Session) :
    Effect → Prop
  | .goto phase => SessionKnows was db { session with phase }
  | .lockStock _ phase => ∀ current, SessionKnows was db { session with phase := phase current }
  | .lockAttempt phase => SessionKnows was db { session with phase }
  | .rollback none => True
  | .rollback (some phase) => ∀ any, SessionKnows any db { session with phase }
  | .commit writes => SessionKnows was db { session with phase := .committing writes }

theorem EffectKnows.next {session : Session} {effect : Effect} {phase : Phase}
    (knows : EffectKnows was db session effect) (leads : effect.LeadsTo phase) :
    SessionKnows was db { session with phase } := by
  cases effect with
  | goto next =>
      cases leads
      exact knows
  | lockStock sku next =>
      obtain ⟨current, rfl⟩ := leads
      exact knows current
  | lockAttempt next =>
      cases leads
      exact knows
  | rollback rest =>
      cases leads
      exact knows was
  | commit writes => exact leads.elim

def ReserveResult.reports : ReserveResult → AdjustmentState
  | .reserved _ => .applied
  | .short _ => .rejected
  | .alreadyReleased => .released

theorem ReserveResult.reports_outcome (result : ReserveResult) (attempt : Attempt) :
    (result.outcome attempt).attempt = attempt ∧
      Outcome.reports (result.outcome attempt) = result.reports := by
  cases result <;> exact ⟨rfl, rfl⟩

theorem justified_outcome {caller : Caller} {result : ReserveResult} {row : Option Adjustment}
    (reported : was result.reports ∨ row.map Adjustment.state = some result.reports) :
    ∀ outcome, caller.outcome attempt result = some outcome →
      Justified was attempt row outcome := by
  intro outcome found
  cases caller with
  | reserveOnce => contradiction
  | handleReservation secondTry =>
      obtain ⟨same, reports⟩ := result.reports_outcome attempt
      cases found
      exact ⟨same, by rw [reports]; exact reported⟩

theorem recorded_reports {adjustments : Table Attempt Adjustment} {row : Adjustment}
    (found : adjustments.lookup attempt = some row) :
    ∃ result, recorded adjustments attempt = some result ∧ result.reports = row.state := by
  cases row <;> simp [recorded, found, ReserveResult.reports, Adjustment.state]

theorem RefusalKept.none : RefusalKept was none := by
  intro short found
  contradiction

/-- One statement: what a session goes on with is what a record was, or what its
own transaction is about to make it. -/
theorem effect_knows (threshold : Int) {session : Session}
    (now : session.phase.looksUp = true → ∀ row,
      db.adjustments.lookup session.attempt = some row →
        was row.state ∧ RefusalKept was (some row))
    (stands : ∀ caller short, session.phase = .recordRejected caller short →
      refusalStands db session.attempt = true)
    (knows : SessionKnows was db session) :
    EffectKnows was db session (effect threshold db session) := by
  obtain ⟨attempt, basket, phase⟩ := session
  cases phase with
  | reserve caller =>
      simp only [effect]
      split
      · cases record : db.adjustments.lookup attempt with
        | none => trivial
        | some row => exact ⟨(now rfl row record).1, by simp [record]⟩
      · trivial
  | locking caller prior waiting locked =>
      cases waiting with
      | cons sku waiting =>
          intro current
          cases prior <;> exact knows
      | nil =>
          cases prior with
          | some state =>
              obtain ⟨was, present⟩ := knows
              cases state with
              | applied => exact ⟨justified_outcome (.inl was), .none⟩
              | released => exact ⟨justified_outcome (.inl was), .none⟩
              | rejected => exact present
          | none =>
              cases verdict : ok basket locked none with
              | false =>
                  simp only [effect, verdict, Bool.false_eq_true, ↓reduceIte]
                  trivial
              | true =>
                  cases record : db.adjustments.lookup attempt with
                  | none =>
                      simp only [effect, verdict, record, ↓reduceIte]
                      refine ⟨justified_outcome (.inr rfl), ?_⟩
                      intro short same
                      cases same
                  | some row =>
                      simp only [effect, verdict, record, ↓reduceIte]
                      rcases caller with ⟨_ | _⟩ | _
                      · exact fun _ => trivial
                      · trivial
                      · exact fun _ => trivial
  | replaying caller =>
      obtain ⟨row, record⟩ := Option.isSome_iff_exists.mp knows
      obtain ⟨result, found, reports⟩ := recorded_reports record
      simp only [effect, found, Option.getD_some]
      refine ⟨justified_outcome (.inl ?_), .none⟩
      rw [reports]
      exact (now rfl row record).1
  | recordRejected caller short =>
      have stands := stands caller short rfl
      cases record : db.adjustments.lookup attempt with
      | none =>
          simp only [effect, record]
          refine ⟨justified_outcome (.inr rfl), ?_⟩
          intro _ same
          cases same
      | some row =>
          simp only [effect, record]
          refine ⟨justified_outcome (.inl ?_), .none⟩
          have refusal : row.refused = true := by simpa [refusalStands, record] using stands
          cases row with
          | applied lines => contradiction
          | rejected found => exact (now rfl _ record).1
          | released lines =>
              cases lines with
              | taken lines => contradiction
              | short found => exact (now rfl _ record).2 found rfl
  | rereading => exact ⟨fun _ found => by contradiction, .none⟩
  | tombstone =>
      simp only [effect]
      split
      · cases record : db.adjustments.lookup attempt with
        | some row => trivial
        | none =>
            refine ⟨?_, ?_⟩
            · intro _ same
              cases same
              exact ⟨rfl, .inr rfl⟩
            · intro _ same
              cases same
      · trivial
  | lockAdjustment =>
      cases record : db.adjustments.lookup attempt with
      | none =>
          simp only [effect, record]
          trivial
      | some row =>
          have was := (now rfl row record).1
          cases row with
          | released lines =>
              simp only [effect, record]
              refine ⟨?_, .none⟩
              intro _ same
              cases same
              exact ⟨rfl, .inl was⟩
          | rejected short =>
              simp only [effect, record]
              refine ⟨?_, ?_⟩
              · intro _ same
                cases same
                exact ⟨rfl, .inr rfl⟩
              · intro _ _
                exact was
          | applied lines =>
              simp only [effect, record]
              trivial
  | restoring lines waiting locked =>
      cases waiting with
      | cons sku waiting => exact fun current => trivial
      | nil =>
          refine ⟨?_, ?_⟩
          · intro _ same
            cases same
            exact ⟨rfl, .inr rfl⟩
          · intro _ same
            cases same
  | committing writes => exact knows

/-- A call that starts goes on with nothing it has read. -/
theorem Call.knows (call : Call) : SessionKnows was db call.session := by
  rcases call with ⟨_ | _⟩ | _ <;> trivial

end Knowledge

/-- What holds after the run that took `labels`. -/
structure Honest (threshold : Int) (start : Server) (labels : List Action) (server : Server) :
    Prop where
  sound : Sound server
  refused : ∀ attempt, RefusalKept (WasInState threshold start labels attempt)
    (server.db.adjustments.lookup attempt)
  knows : ∀ id session, server.sessions id = some session →
    SessionKnows (WasInState threshold start labels session.attempt) server.db session
  answered : ∀ outcome ∈ server.db.outbox,
    WasInState threshold start labels outcome.attempt (Outcome.reports outcome)

section Step

variable {threshold : Int} {start server after : Server} {labels : List Action}

theorem WasInState.later {attempt : Attempt} {state : AdjustmentState}
    (was : WasInState threshold start labels attempt state) (action : Action) :
    WasInState threshold start (labels ++ [action]) attempt state :=
  Once.later was

/-- A commit that knows its record's past keeps the run honest. -/
theorem Honest.commit {action : Action} {attempt : Attempt} {writes : Writes}
    (honest : Honest threshold start labels server)
    (run : Run (step threshold) Any start (labels ++ [action]) after)
    (same : after.db = applyWrites server.db attempt writes)
    (justified : ∀ outcome, writes.outcome = some outcome →
      Justified (WasInState threshold start labels attempt) attempt writes.adjustment outcome)
    (kept : RefusalKept (WasInState threshold start labels attempt) writes.adjustment) :
    (∀ other, RefusalKept (WasInState threshold start (labels ++ [action]) other)
      (after.db.adjustments.lookup other)) ∧
    ∀ outcome ∈ after.db.outbox,
      WasInState threshold start (labels ++ [action]) outcome.attempt
        (Outcome.reports outcome) := by
  refine ⟨?_, ?_⟩
  · intro other
    have old := (honest.refused other).imp (fun _ was => was.later action)
    cases adjustment : writes.adjustment with
    | none =>
        rw [same]
        simpa only [applyWrites, adjustment] using old
    | some row =>
        rw [same]
        simp only [applyWrites, adjustment, Table.lookup_put]
        split
        · rename_i here
          subst here
          rw [adjustment] at kept
          exact kept.imp (fun _ was => was.later action)
        · exact old
  · intro outcome member
    rw [same] at member
    rcases List.mem_append.mp member with old | new
    · exact (honest.answered outcome old).later action
    · obtain ⟨rfl, was | made⟩ := justified outcome (by simpa using new)
      · exact was.later action
      · obtain ⟨row, adjustment, state⟩ := Option.map_eq_some_iff.mp made
        apply Once.now run
        simp [InState, same, applyWrites, adjustment, state]

theorem Honest.step {action : Action} (honest : Honest threshold start labels server)
    (run : Run (step threshold) Any start labels server) (permitted : refusalsStand server action = true)
    (taken : Inventory.step threshold server action = some after) :
    Honest threshold start (labels ++ [action]) after := by
  have sound := honest.sound.step taken
  have follows := honest.sound.step_follows taken
  have now := run.snoc trivial taken
  have others : ∀ id session, server.sessions id = some session →
      SessionKnows (WasInState threshold start (labels ++ [action]) session.attempt) after.db
        session :=
    fun id session found =>
      (honest.knows id session found).imp (fun _ was => was.later action) follows
  rcases step_cases taken with ⟨id, call, rfl, absent, rfl⟩ | ⟨id, session, rfl, found, done⟩ |
    ⟨id, session, rfl, found, rfl⟩
  · refine ⟨sound, fun attempt => (honest.refused attempt).imp (fun _ was => was.later _), ?_,
      fun outcome member => (honest.answered outcome member).later _⟩
    intro other session found
    by_cases same : other = id
    · subst same
      simp only [Function.update_self, Option.some.injEq] at found
      subst found
      exact call.knows
    · simp only [Function.update_of_ne same] at found
      exact others other session found
  · have learned := effect_knows threshold
      (fun _ row record => ⟨Once.now run (by simp [InState, record]), by
        rw [← record]
        exact honest.refused session.attempt⟩)
      (fun caller short phase => by simpa [refusalsStand, found, phase] using permitted)
      (honest.knows id session found)
    obtain ⟨elsewhere, next⟩ := perform_sessions done
    have knows : ∀ other session, after.sessions other = some session →
        SessionKnows (WasInState threshold start (labels ++ [.proceed id]) session.attempt)
          after.db session := by
      intro other session' found'
      by_cases same : other = id
      · subst same
        obtain ⟨phase, leads, rfl⟩ := next session' found'
        exact (learned.next leads).imp (fun _ was => was.later _) follows
      · rw [elsewhere other same] at found'
        exact others other session' found'
    rcases perform_db done with same | ⟨writes, isCommit, same⟩
    · refine ⟨sound, fun attempt => ?_, knows, fun outcome member => ?_⟩
      · rw [same]
        exact (honest.refused attempt).imp (fun _ was => was.later _)
      · rw [same] at member
        exact (honest.answered outcome member).later _
    · rw [isCommit] at learned
      obtain ⟨refused, answered⟩ := honest.commit now same learned.1 learned.2
      exact ⟨sound, refused, knows, answered⟩
  · refine ⟨sound, fun attempt => (honest.refused attempt).imp (fun _ was => was.later _), ?_,
      fun outcome member => (honest.answered outcome member).later _⟩
    intro other session found
    by_cases same : other = id
    · subst same
      simp [Server.finish] at found
    · simp only [Server.finish, Function.update_of_ne same] at found
      exact others other session found

end Step

theorem Honest.start (threshold : Int) (levels : Table Sku Nat) :
    Honest threshold (idle (seeded levels)) [] (idle (seeded levels)) where
  sound := Sound.idle levels
  refused _ _ found := by contradiction
  knows _ _ found := by contradiction
  answered _ member := by contradiction

theorem Adjustment.Follows.refused {before : Adjustment} {after : Option Adjustment}
    (follows : Adjustment.Follows (some before) after) :
    ∃ row, after = some row ∧ row.refused = before.refused := by
  rcases follows with rfl | arrow
  · exact ⟨before, rfl, rfl⟩
  · cases arrow with
    | releaseApplied lines => exact ⟨_, rfl, rfl⟩
    | releaseRejected short => exact ⟨_, rfl, rfl⟩

theorem refused_persists {threshold : Int} {start server after : Server}
    {past labels : List Action} {attempt : Attempt} {row : Adjustment} (sound : Sound start)
    (reached : Run (step threshold) Any start past server)
    (run : Run (step threshold) Any server labels after)
    (found : server.db.adjustments.lookup attempt = some row) :
    ∃ later, after.db.adjustments.lookup attempt = some later ∧ later.refused = row.refused := by
  have soundHere : Sound server :=
    reached.invariant sound (fun _ _ _ holds _ taken => holds.step taken)
  have recorded : ∃ later, after.db.adjustments.lookup attempt = some later ∧
      later.refused = row.refused ∧ Sound after := by
    induction run with
    | start => exact ⟨row, found, rfl, soundHere⟩
    | snoc past permitted taken ih =>
        obtain ⟨later, foundLater, same, soundLater⟩ := ih
        have follows := soundLater.step_follows taken attempt
        rw [foundLater] at follows
        obtain ⟨next, foundNext, sameNext⟩ := follows.refused
        exact ⟨next, foundNext, sameNext.trans same, soundLater.step taken⟩
  obtain ⟨later, foundLater, same, _⟩ := recorded
  exact ⟨later, foundLater, same⟩

theorem InState.found {attempt : Attempt} {state : AdjustmentState} {server : Server}
    (inState : InState attempt state server) :
    ∃ row, server.db.adjustments.lookup attempt = some row ∧ row.state = state :=
  Option.map_eq_some_iff.mp inState

/-- The record of an attempt keeps on which side of a refusal it is. -/
theorem InState.keepsRefusal {threshold : Int} {start server after : Server}
    {past labels : List Action} {attempt : Attempt} {state later : AdjustmentState}
    (sound : Sound start) (reached : Run (step threshold) Any start past server)
    (run : Run (step threshold) Any server labels after)
    (first : InState attempt state server) (second : InState attempt later after) :
    (state = .applied → later ≠ .rejected) ∧ (state = .rejected → later ≠ .applied) := by
  obtain ⟨row, found, rfl⟩ := first.found
  obtain ⟨next, foundNext, rfl⟩ := second.found
  obtain ⟨again, foundAgain, same⟩ := refused_persists sound reached run found
  rw [foundNext, Option.some.injEq] at foundAgain
  subst foundAgain
  cases row <;> cases next <;> simp [Adjustment.state, Adjustment.refused] at same ⊢

theorem not_applied_and_rejected {threshold : Int} {start : Server} {labels : List Action}
    {attempt : Attempt} (sound : Sound start)
    (applied : WasInState threshold start labels attempt .applied)
    (rejected : WasInState threshold start labels attempt .rejected) : False := by
  rcases Once.ordered applied rejected with
    ⟨_, _, _, _, past, first, future, second⟩ | ⟨_, _, _, _, past, first, future, second⟩
  · exact (InState.keepsRefusal sound past future first second).1 rfl rfl
  · exact (InState.keepsRefusal sound past future first second).2 rfl rfl

/-- Where every refusal that is recorded stands, Inventory's answers match its
records: an outcome is committed only if the record is or was in the state it
reports, and no attempt is answered both reserved and rejected. -/
theorem answers_match_records (threshold : Int) (levels : Table Sku Nat) (labels : List Action)
    (server : Server)
    (run : Run (step threshold) (fun server action => refusalsStand server action = true)
      (idle (seeded levels)) labels server) :
    (∀ outcome ∈ server.db.outbox,
      WasInState threshold (idle (seeded levels)) labels outcome.attempt
        (Outcome.reports outcome)) ∧
    ∀ attempt replayed short, .stockReserved attempt replayed ∈ server.db.outbox →
      .stockRejected attempt short ∉ server.db.outbox := by
  have honest : Honest threshold (idle (seeded levels)) labels server :=
    run.invariant_labels (Honest.start threshold levels)
      (fun _ _ _ _ past holds permitted taken => holds.step past.unrestricted permitted taken)
  refine ⟨honest.answered, ?_⟩
  intro attempt replayed short reserved rejected
  exact not_applied_and_rejected (Sound.idle levels) (honest.answered _ reserved)
    (honest.answered _ rejected)

def refusing : List Action :=
  let request := Call.handle (.stockReservationRequested ⟨1, 1⟩ [("SKU-000001", 6)])
  .begin 0 request :: List.replicate 5 (.proceed 0) ++
    .begin 1 request :: List.replicate 5 (.proceed 1)

theorem refusing_runs : (refusing.foldlM
    (guarded (step 10) (fun server action => refusalsStand server action = true))
    (idle (seeded (Table.empty.put "SKU-000001" 5)))).isSome = true := by
  decide

theorem answers_match_records_refusing :
    WasInState 10 (idle (seeded (Table.empty.put "SKU-000001" 5))) refusing ⟨1, 1⟩ .rejected :=
  (answers_match_records 10 (Table.empty.put "SKU-000001" 5) refusing _
    (.of_guarded (Option.some_get refusing_runs).symm)).1
    (.stockRejected ⟨1, 1⟩ ["SKU-000001"]) (by decide)

/-- Two copies of one request for the last unit.  Both read that there is no
record; the second one locks the row after the first has taken the unit. -/
def racing : List Action :=
  let request := Call.handle (.stockReservationRequested ⟨1, 1⟩ [("SKU-000001", 1)])
  [.begin 0 request, .begin 1 request, .proceed 0, .proceed 1, .proceed 0, .proceed 0,
    .proceed 0, .proceed 1, .proceed 1, .proceed 1, .proceed 1]

theorem racing_runs : (racing.foldlM (step 10)
    (idle (seeded (Table.empty.put "SKU-000001" 1)))).isSome = true := by
  decide

/-- The loser of the race answers `Short` over a record that is APPLIED. -/
theorem answered_both_reserved_and_rejected :
    ∃ server, Run (step 10) Any (idle (seeded (Table.empty.put "SKU-000001" 1))) racing server ∧
      .stockReserved ⟨1, 1⟩ false ∈ server.db.outbox ∧
      .stockRejected ⟨1, 1⟩ ["SKU-000001"] ∈ server.db.outbox ∧
      ¬ WasInState 10 (idle (seeded (Table.empty.put "SKU-000001" 1))) racing ⟨1, 1⟩
        .rejected := by
  have run := Run.of_foldlM (Option.some_get racing_runs).symm
  refine ⟨_, run, by decide, by decide, fun rejected => ?_⟩
  have applied : InState ⟨1, 1⟩ .applied ((racing.foldlM (step 10)
      (idle (seeded (Table.empty.put "SKU-000001" 1)))).get racing_runs) := by
    unfold InState
    decide
  exact not_applied_and_rejected (Sound.idle _) (Once.now run applied) rejected

end SelfCheckout.Inventory
