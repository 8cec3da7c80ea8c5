import SelfCheckout.Inventory.Answers

namespace SelfCheckout.Inventory

open SelfCheckout.Data

/-! # What a local transaction has found

The sessions again, with the adjustment rows that the statements of each running
transaction have found.  The rows only record: a transaction that commits an
answer is judged by whether it made the record the answer reports, or found it.
-/

structure Watched where
  server : Server
  found : SessionId → List Adjustment

def watch (server : Server) : Watched :=
  { server, found := fun _ => [] }

/-- The row a statement finds, if it looks at the record at all. -/
def looked (db : Database) (session : Session) : List Adjustment :=
  if session.phase.looksUp then (db.adjustments.lookup session.attempt).toList else []

/-- The rows a transaction has found after its next statement.  One that commits
or rolls back is over. -/
def Watched.foundNext (watched : Watched) (threshold : Int) (id : SessionId) : List Adjustment :=
  match watched.server.sessions id with
  | none => []
  | some session =>
      match effect threshold watched.server.db session with
      | .rollback _ => []
      | .commit _ => []
      | _ => watched.found id ++ looked watched.server.db session

def watchedStep (threshold : Int) (watched : Watched) (action : Action) : Option Watched :=
  (step threshold watched.server action).map (fun server =>
    match action with
    | .begin id _ => { server, found := Function.update watched.found id [] }
    | .proceed id =>
        { server, found := Function.update watched.found id (watched.foundNext threshold id) }
    | .abort id => { server, found := Function.update watched.found id [] })

/-- The row is in this state, or keeps the lines of a refusal it was in. -/
def Adjustment.had (row : Adjustment) (state : AdjustmentState) : Bool :=
  row.state == state || (state == .rejected && row.refused)

/-- One of the rows found is or was in this state. -/
def FoundAs (found : List Adjustment) (state : AdjustmentState) : Prop :=
  ∃ row ∈ found, row.had state = true

instance (found : List Adjustment) (state : AdjustmentState) : Decidable (FoundAs found state) :=
  inferInstanceAs (Decidable (∃ row ∈ found, row.had state = true))

theorem FoundAs.append {found : List Adjustment} {state : AdjustmentState}
    (was : FoundAs found state) (more : List Adjustment) : FoundAs (found ++ more) state := by
  obtain ⟨row, member, had⟩ := was
  exact ⟨row, List.mem_append_left _ member, had⟩

theorem foundAs_last (found : List Adjustment) (row : Adjustment) :
    FoundAs (found ++ [row]) row.state ∧ RefusalKept (FoundAs (found ++ [row])) (some row) := by
  refine ⟨⟨row, by simp, by simp [Adjustment.had]⟩, ?_⟩
  rintro short same
  cases same
  exact ⟨.released (.short short), by simp, rfl⟩

/-- The session whose transaction a step commits, and what it writes. -/
def Watched.committed (watched : Watched) (threshold : Int) :
    Action → Option (SessionId × Session × Writes)
  | .begin _ _ => none
  | .abort _ => none
  | .proceed id =>
      (watched.server.sessions id).bind (fun session =>
        match effect threshold watched.server.db session with
        | .commit writes => some (id, session, writes)
        | _ => none)

/-- The step commits a transaction that answers with this outcome, which reports
the record it made or one it found. -/
def AnswersRecord (threshold : Int) (before : Watched) (outcome : Outcome) (action : Action) :
    Prop :=
  ∃ ended, ended ∈ before.committed threshold action ∧
    ended.2.2.outcome = some outcome ∧
      Justified (FoundAs (before.found ended.1)) ended.2.1.attempt ended.2.2.adjustment outcome

instance (threshold : Int) (before : Watched) (outcome : Outcome) (action : Action) :
    Decidable (AnswersRecord threshold before outcome action) := by
  unfold AnswersRecord Justified
  infer_instance

/-- Every running transaction goes on with what it has found. -/
structure Watching (watched : Watched) : Prop where
  sound : Sound watched.server
  knows : ∀ id session, watched.server.sessions id = some session →
    SessionKnows (FoundAs (watched.found id)) watched.server.db session

theorem Watching.start (levels : Table Sku Nat) : Watching (watch (idle (seeded levels))) where
  sound := Sound.idle levels
  knows _ _ found := by contradiction

section Step

variable {threshold : Int} {watched after : Watched} {action : Action}

/-- What a session knows after looking at its record. -/
theorem Watching.learns (watching : Watching watched) {id : SessionId} {session : Session}
    (running : watched.server.sessions id = some session)
    (permitted : refusalsStand watched.server (.proceed id) = true) :
    EffectKnows (FoundAs (watched.found id ++ looked watched.server.db session)) watched.server.db
      session (effect threshold watched.server.db session) := by
  apply effect_knows threshold
  · intro looks row record
    have last : looked watched.server.db session = [row] := by simp [looked, looks, record]
    rw [last]
    exact foundAs_last _ row
  · intro caller short phase
    simpa [refusalsStand, running, phase] using permitted
  · exact (watching.knows id session running).imp (fun _ was => was.append _)
      (fun _ => .inl rfl)

theorem watchedStep_server (taken : watchedStep threshold watched action = some after) :
    step threshold watched.server action = some after.server := by
  obtain ⟨server, stepped, rfl⟩ := Option.map_eq_some_iff.mp taken
  cases action <;> exact stepped

theorem watchedStep_outbox (taken : watchedStep threshold watched action = some after) :
    watched.server.db.outbox <+: after.server.db.outbox := by
  rcases step_cases (watchedStep_server taken) with ⟨id, call, rfl, absent, same⟩ |
    ⟨id, session, rfl, running, done⟩ | ⟨id, session, rfl, running, same⟩
  · rw [same]
  · rcases perform_db done with same | ⟨writes, _, same⟩
    · rw [same]
    · rw [same]
      exact List.prefix_append _ _
  · rw [same]
    exact List.prefix_rfl

theorem Effect.LeadsTo.foundNext {id : SessionId} {session : Session} {phase : Phase}
    (leads : (effect threshold watched.server.db session).LeadsTo phase)
    (running : watched.server.sessions id = some session) :
    (∃ rest, effect threshold watched.server.db session = .rollback rest) ∨
      watched.foundNext threshold id =
        watched.found id ++ looked watched.server.db session := by
  cases does : effect threshold watched.server.db session with
  | goto next => exact .inr (by simp [Watched.foundNext, running, does])
  | lockStock sku next => exact .inr (by simp [Watched.foundNext, running, does])
  | lockAttempt next => exact .inr (by simp [Watched.foundNext, running, does])
  | rollback rest => exact .inl ⟨rest, rfl⟩
  | commit writes =>
      rw [does] at leads
      exact leads.elim

/-- A session that goes on knows what its transaction has found. -/
theorem Watching.proceeds (watching : Watching watched) {id : SessionId} {session : Session}
    {phase : Phase} (running : watched.server.sessions id = some session)
    (permitted : refusalsStand watched.server (.proceed id) = true)
    (leads : (effect threshold watched.server.db session).LeadsTo phase) :
    SessionKnows (FoundAs (watched.foundNext threshold id)) watched.server.db
      { session with phase } := by
  have learned := @Watching.learns threshold watched watching id session running permitted
  rcases leads.foundNext running with ⟨rest, does⟩ | next
  · rw [does] at leads learned
    cases leads
    exact learned _
  · rw [next]
    exact learned.next leads

theorem Watching.step (watching : Watching watched)
    (permitted : refusalsStand watched.server action = true)
    (taken : watchedStep threshold watched action = some after) : Watching after := by
  obtain ⟨server, stepped, rfl⟩ := Option.map_eq_some_iff.mp taken
  have sound := watching.sound.step stepped
  have follows := watching.sound.step_follows stepped
  have others : ∀ id session, watched.server.sessions id = some session →
      SessionKnows (FoundAs (watched.found id)) server.db session :=
    fun id session running => (watching.knows id session running).imp (fun _ was => was) follows
  rcases step_cases stepped with ⟨id, call, rfl, absent, rfl⟩ |
    ⟨id, session, rfl, running, done⟩ | ⟨id, session, rfl, running, rfl⟩
  · refine ⟨sound, fun other session running => ?_⟩
    by_cases same : other = id
    · subst same
      simp only [Function.update_self, Option.some.injEq] at running
      subst running
      exact call.knows
    · simp only [Function.update_of_ne same] at running ⊢
      exact others other session running
  · obtain ⟨elsewhere, next⟩ := perform_sessions done
    refine ⟨sound, fun other session' running' => ?_⟩
    by_cases same : other = id
    · subst same
      obtain ⟨phase, leads, rfl⟩ := next session' running'
      simp only [Function.update_self]
      exact (watching.proceeds running permitted leads).imp (fun _ was => was) follows
    · rw [elsewhere other same] at running'
      simp only [Function.update_of_ne same]
      exact others other session' running'
  · refine ⟨sound, fun other session running => ?_⟩
    by_cases same : other = id
    · subst same
      simp [Server.finish] at running
    · simp only [Server.finish, Function.update_of_ne same] at running ⊢
      exact others other session running

/-- A step that queues an outcome ends a transaction that made or found the
record it reports. -/
theorem Watching.answers (watching : Watching watched)
    (taken : watchedStep threshold watched action = some after) :
    after.server.db.outbox = watched.server.db.outbox ∨
      ∃ outcome, after.server.db.outbox = watched.server.db.outbox ++ [outcome] ∧
        AnswersRecord threshold watched outcome action := by
  obtain ⟨server, stepped, rfl⟩ := Option.map_eq_some_iff.mp taken
  rcases step_cases stepped with ⟨id, call, rfl, absent, rfl⟩ |
    ⟨id, session, rfl, running, done⟩ | ⟨id, session, rfl, running, rfl⟩
  · exact .inl rfl
  · rcases perform_db done with same | ⟨writes, commits, same⟩
    · exact .inl (by rw [same])
    · cases queued : writes.outcome with
      | none => exact .inl (by simp [same, applyWrites, queued])
      | some outcome =>
          refine .inr ⟨outcome, by simp [same, applyWrites, queued], ?_⟩
          rcases effect_commits commits with phase | rfl
          · have knows := watching.knows id session running
            simp only [SessionKnows, phase] at knows
            exact ⟨(id, session, writes), by simp [Watched.committed, running, commits], queued,
              knows.1 outcome queued⟩
          · contradiction
  · exact .inl rfl

end Step

end SelfCheckout.Inventory
