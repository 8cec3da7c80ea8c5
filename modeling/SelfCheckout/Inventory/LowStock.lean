import SelfCheckout.Inventory.Conservation

namespace SelfCheckout.Inventory

open SelfCheckout.Data

/-! # Low-stock alerts

An alert is raised in the statement that takes a SKU from the threshold or above
to below it, with the stock that statement leaves.  The rows it compares are
locked, so what it saw is what its commit changes.
-/

/-- The stock of `sku` after a step that took it below the threshold. -/
def descent (threshold : Int) (before after : Table Sku StockRow) (sku : Sku) : Option Int :=
  match before.lookup sku, after.lookup sku with
  | some old, some new =>
      if threshold ≤ old.currentStock ∧ new.currentStock < threshold then some new.currentStock
      else none
  | _, _ => none

/-- The descents of `sku` in a run, oldest first. -/
def descents (threshold : Int) (sku : Sku) (server : Server) : List Action → List Int
  | [] => []
  | action :: rest =>
      match step threshold server action with
      | none => []
      | some after =>
          (descent threshold server.db.stock after.db.stock sku).toList ++
            descents threshold sku after rest

def alertsOf (sku : Sku) (alerts : List LowStockAlert) : List LowStockAlert :=
  alerts.filter (fun alert => decide (alert.sku = sku))

@[simp] theorem alertsOf_append (sku : Sku) (first second : List LowStockAlert) :
    alertsOf sku (first ++ second) = alertsOf sku first ++ alertsOf sku second :=
  List.filter_append first second

theorem descent_self (threshold : Int) (stock : Table Sku StockRow) (sku : Sku) :
    descent threshold stock stock sku = none := by
  simp only [descent]
  cases stock.lookup sku with
  | none => rfl
  | some row =>
      refine if_neg fun both => ?_
      exact absurd both.1 (not_le.mpr both.2)

/-- Only a row an update writes can descend. -/
theorem descent_writeStock (threshold : Int) (stock : Table Sku StockRow)
    (writes : List (Sku × Int)) (sku : Sku) :
    descent threshold stock (writeStock stock writes) sku =
      (stock.lookup sku).bind (fun row => (Table.lookupRows writes sku).bind (fun current =>
        if threshold ≤ row.currentStock ∧ current < threshold then some current else none)) := by
  simp only [descent, lookup_writeStock]
  cases stock.lookup sku with
  | none => rfl
  | some row =>
      cases Table.lookupRows writes sku with
      | some current => rfl
      | none =>
          simp only [Option.map_some, Option.bind_some, Option.bind_none]
          exact if_neg fun both => absurd both.1 (not_le.mpr both.2)

theorem alertsOf_crossings (threshold : Int) (rows : List (Sku × Int × Nat)) (sku : Sku) :
    alertsOf sku (crossings threshold rows) =
      crossings threshold (rows.filter (fun row => decide (row.1 = sku))) := by
  simp only [alertsOf, crossings, List.filter_map, List.filter_filter]
  congr 1
  refine List.filter_congr fun row _ => ?_
  simp [Bool.and_comm]

/-- A transaction's alerts are the descents its commit makes. -/
def AlertsMatch (threshold : Int) (db : Database) (writes : Writes) : Prop :=
  ∀ sku, alertsOf sku writes.alerts =
    ((descent threshold db.stock (writeStock db.stock writes.stock) sku).map
      (fun current => { sku, currentStock := current, threshold })).toList

section Writes

variable {threshold : Int} {server after : Server} {id : SessionId} {attempt : Attempt}

theorem AlertsMatch.answering (db : Database) (outcome : Option Outcome) :
    AlertsMatch threshold db (Inventory.answering outcome) := by
  intro sku
  rw [descent_writeStock]
  cases db.stock.lookup sku <;> rfl

theorem AlertsMatch.recording (db : Database) (row : Adjustment) (outcome : Option Outcome) :
    AlertsMatch threshold db (Inventory.recording row outcome) := by
  intro sku
  rw [descent_writeStock]
  cases db.stock.lookup sku <;> rfl

theorem AlertsMatch.taking {basket : List (Sku × Nat)} {locked : List (Sku × Int)}
    {outcome : Option Outcome} (nodup : (basket.map Prod.fst).Nodup)
    (reads : ReadsHeld server id locked) :
    AlertsMatch threshold server.db (Inventory.taking basket locked threshold outcome) := by
  intro sku
  have keys : ((dec basket locked).map Prod.fst).Nodup :=
    (Table.keys_join_sublist basket (Table.lookupRows locked)
      (fun current quantity => (current - (quantity : Int), quantity))).nodup nodup
  have row := Table.lookupRows_join basket (Table.lookupRows locked)
    (fun current quantity => (current - (quantity : Int), quantity)) sku
  have alerts : (Inventory.taking basket locked threshold outcome).alerts =
      crossings threshold (dec basket locked) := rfl
  rw [alerts, alertsOf_crossings, Table.filter_key keys, descent_writeStock, lookupRows_taking]
  simp only [dec] at row ⊢
  rw [row]
  cases Table.lookupRows basket sku with
  | none => cases server.db.stock.lookup sku <;> rfl
  | some quantity =>
      cases read : Table.lookupRows locked sku with
      | none => cases server.db.stock.lookup sku <;> rfl
      | some current =>
          obtain ⟨_, stored, stocked, rfl⟩ := reads sku current read
          by_cases crossed : threshold ≤ stored.currentStock ∧
              stored.currentStock - (quantity : Int) < threshold
          · simp [crossings, stocked, crossed]
          · simp [crossings, stocked, crossed, and_comm]

/-- What a release gives back lifts the stock. -/
theorem AlertsMatch.givingBack {lines : List (Sku × Nat)} {locked : List (Sku × Int)}
    {outcome : Option Outcome} (reads : ReadsHeld server id locked) :
    AlertsMatch threshold server.db (Inventory.givingBack lines locked outcome) := by
  intro sku
  have written : Table.lookupRows (Inventory.givingBack lines locked outcome).stock sku = _ :=
    lookupRows_restored (normalize lines) locked sku
  rw [descent_writeStock, written]
  cases Table.lookupRows (normalize lines) sku with
  | none => cases server.db.stock.lookup sku <;> rfl
  | some quantity =>
      cases read : Table.lookupRows locked sku with
      | none => cases server.db.stock.lookup sku <;> rfl
      | some current =>
          obtain ⟨_, stored, stocked, rfl⟩ := reads sku current read
          have lifted : ¬ (threshold ≤ stored.currentStock ∧
              stored.currentStock + (quantity : Int) < threshold) := by omega
          simp [Inventory.givingBack, alertsOf, stocked, lifted]

/-- The rows a transaction writes are its own until it commits. -/
theorem AlertsMatch.frame {writes : Writes} {change : Sku → Int}
    (alerts : AlertsMatch threshold server.db writes)
    (held : WritesHeld server id attempt writes change) (keeps : Keeps id server after) :
    AlertsMatch threshold after.db writes := by
  intro sku
  rw [alerts sku, descent_writeStock, descent_writeStock]
  cases write : Table.lookupRows writes.stock sku with
  | none =>
      cases server.db.stock.lookup sku <;> cases after.db.stock.lookup sku <;> rfl
  | some current =>
      obtain ⟨owned, _⟩ := held.written sku current write
      rw [(keeps.stock sku owned).2]

end Writes

section Steps

variable {threshold : Int} {server after : Server}

/-- What a session is about to commit alerts exactly its descents. -/
def AlertsHeld (threshold : Int) (server : Server) : Prop :=
  ∀ id session writes, server.sessions id = some session →
    session.phase = .committing writes → AlertsMatch threshold server.db writes

/-- One statement: the writes it leaves to commit carry their alerts. -/
theorem effect_alerts {id : SessionId} {session : Session} {writes : Writes}
    (nodup : (session.basket.map Prod.fst).Nodup) (held : SessionHeld server id session)
    (leads : (effect threshold server.db session).LeadsTo (.committing writes)) :
    AlertsMatch threshold server.db writes := by
  obtain ⟨attempt, basket, phase⟩ := session
  cases phase with
  | reserve caller =>
      simp only [effect] at leads
      split at leads <;> simp [Effect.LeadsTo] at leads
  | locking caller prior waiting locked =>
      cases waiting with
      | cons sku waiting =>
          obtain ⟨_, wrong⟩ := leads
          contradiction
      | nil =>
          cases prior with
          | some state =>
              cases state with
              | applied => cases leads; exact .answering _ _
              | rejected => contradiction
              | released => cases leads; exact .answering _ _
          | none =>
              cases verdict : ok basket locked none with
              | false => simp [effect, verdict, Effect.LeadsTo] at leads
              | true =>
                  cases record : server.db.adjustments.lookup attempt with
                  | none =>
                      simp only [effect, verdict, record, ↓reduceIte, Effect.LeadsTo] at leads
                      cases leads
                      exact .taking nodup held
                  | some row =>
                      rcases caller with ⟨_ | _⟩ | _ <;>
                        simp [effect, verdict, record, Caller.afterConflict, Effect.LeadsTo] at leads
  | replaying caller => cases leads; exact .answering _ _
  | recordRejected caller short =>
      cases record : server.db.adjustments.lookup attempt with
      | some row =>
          simp only [effect, record, Effect.LeadsTo] at leads
          cases leads
          exact .answering _ _
      | none =>
          simp only [effect, record, Effect.LeadsTo] at leads
          cases leads
          exact .recording _ _ _
  | rereading => contradiction
  | tombstone =>
      cases bound : bindable attempt [] with
      | false => simp [effect, bound, Effect.LeadsTo] at leads
      | true =>
          cases record : server.db.adjustments.lookup attempt with
          | some row => simp [effect, bound, record, Effect.LeadsTo] at leads
          | none =>
              simp only [effect, bound, record, ↓reduceIte, Effect.LeadsTo] at leads
              cases leads
              exact .recording _ _ _
  | lockAdjustment =>
      cases record : server.db.adjustments.lookup attempt with
      | none => simp [effect, record, Effect.LeadsTo] at leads
      | some row =>
          cases row with
          | released lines =>
              simp only [effect, record, Effect.LeadsTo] at leads
              cases leads
              exact .answering _ _
          | rejected short =>
              simp only [effect, record, Effect.LeadsTo] at leads
              cases leads
              exact .recording _ _ _
          | applied lines => simp [effect, record, Effect.LeadsTo] at leads
  | restoring lines waiting locked =>
      cases waiting with
      | cons sku waiting =>
          obtain ⟨_, wrong⟩ := leads
          contradiction
      | nil => cases leads; exact .givingBack held.1
  | committing writes => contradiction

/-- What is committed was about to be, or changes nothing. -/
theorem commit_alerts {id : SessionId} {session : Session} {writes : Writes}
    (alerts : AlertsHeld threshold server) (found : server.sessions id = some session)
    (commits : effect threshold server.db session = .commit writes) :
    AlertsMatch threshold server.db writes := by
  rcases effect_commits commits with phase | rfl
  · exact alerts id session writes found phase
  · exact .answering _ _

/-- The rows of one SKU after a step: those before it, and one for a descent. -/
def AlertsFollow (threshold : Int) (before after : Database) : Prop :=
  ∀ sku, alertsOf sku after.alerts = alertsOf sku before.alerts ++
    ((descent threshold before.stock after.stock sku).map
      (fun current => { sku, currentStock := current, threshold })).toList

theorem AlertsFollow.same (threshold : Int) (db : Database) : AlertsFollow threshold db db := by
  intro sku
  simp [descent_self]

theorem AlertsMatch.follow {db : Database} {attempt : Attempt} {writes : Writes}
    (alerts : AlertsMatch threshold db writes) :
    AlertsFollow threshold db (applyWrites db attempt writes) := by
  intro sku
  simp only [applyWrites, alertsOf_append, alerts sku]

theorem AlertsHeld.step {action : Action} (sound : Sound server)
    (alerts : AlertsHeld threshold server) (taken : step threshold server action = some after) :
    AlertsHeld threshold after ∧ AlertsFollow threshold server.db after.db := by
  rcases step_cases taken with ⟨id, call, rfl, absent, rfl⟩ | ⟨id, session, rfl, found, done⟩ |
    ⟨id, session, rfl, found, rfl⟩
  · refine ⟨?_, .same threshold server.db⟩
    intro other session writes here committing
    by_cases same : other = id
    · subst same
      simp only [Function.update_self, Option.some.injEq] at here
      subst here
      rcases call with (_ | _) | _ <;> contradiction
    · simp only [Function.update_of_ne same] at here
      exact alerts other session writes here committing
  · have nodup := sound.nodup id session found
    have held := sound.held id session found
    obtain ⟨_, keeps, unchanged, _⟩ := perform_sound sound.conserved
      (effect_sound threshold sound.conserved nodup held) done
    refine ⟨?_, ?_⟩
    · intro other next writes here committing
      by_cases same : other = id
      · subst same
        obtain ⟨phase, leads, rfl⟩ := (perform_sessions done).2 next here
        cases committing
        have ready := effect_alerts nodup held leads
        rcases perform_db done with same | ⟨committed, commits, _⟩
        · rwa [same]
        · rw [commits] at leads
          contradiction
      · rw [unchanged other same] at here
        have mine := sound.held other next here
        obtain ⟨change, writesHeld⟩ : ∃ change,
            WritesHeld server other next.attempt writes change := by
          simpa [SessionHeld, committing] using mine
        exact (alerts other next writes here committing).frame writesHeld (keeps other same)
    · rcases perform_db done with same | ⟨writes, commits, same⟩
      · rw [same]
        exact .same threshold server.db
      · rw [same]
        exact (commit_alerts alerts found commits).follow
  · refine ⟨?_, .same threshold server.db⟩
    intro other next writes here committing
    by_cases same : other = id
    · subst same
      simp [Server.finish] at here
    · simp only [Server.finish, Function.update_of_ne same] at here
      exact alerts other next writes here committing

theorem descents_append (threshold : Int) (sku : Sku) {start : Server} {labels later : List Action}
    (run : Run (step threshold) Any start labels server) :
    descents threshold sku start (labels ++ later) =
      descents threshold sku start labels ++ descents threshold sku server later := by
  induction labels generalizing start with
  | nil =>
      have here : Run (step threshold) Any start [] start := .start
      rw [here.deterministic run]
      rfl
  | cons action labels ih =>
      obtain ⟨next, _, taken, rest⟩ := run.uncons
      simp [descents, taken, ih rest]

def Below (threshold : Int) (stock : Table Sku StockRow) (sku : Sku) : Prop :=
  ∃ row, stock.lookup sku = some row ∧ row.currentStock < threshold

/-- The last step of the run that took `sku` below the threshold left `current`,
and the SKU has been below it ever since. -/
def LastDescent (threshold : Int) (start : Server) (labels : List Action) (sku : Sku)
    (current : Int) : Prop :=
  ∃ earlier action later before after, labels = earlier ++ action :: later ∧
    Run (step threshold) Any start earlier before ∧
    step threshold before action = some after ∧
    descent threshold before.db.stock after.db.stock sku = some current ∧
    ∀ more state, more <+: later → Run (step threshold) Any after more state →
      Below threshold state.db.stock sku

theorem LastDescent.later {start : Server} {labels : List Action} {action : Action} {sku : Sku}
    {current : Int} (last : LastDescent threshold start labels sku current)
    (run : Run (step threshold) Any start labels server)
    (taken : step threshold server action = some after)
    (below : Below threshold after.db.stock sku) :
    LastDescent threshold start (labels ++ [action]) sku current := by
  obtain ⟨earlier, fell, later, before, next, rfl, past, step, drop, since⟩ := last
  refine ⟨earlier, fell, later ++ [action], before, next, by simp, past, step, drop, ?_⟩
  intro more state part reached
  rcases List.prefix_concat_iff.mp part with rfl | within
  · have whole : Run (Inventory.step threshold) Any start
        (earlier ++ fell :: later ++ [action]) state := by
      have parts := (past.snoc trivial step).append reached
      simpa using parts
    have extended : Run (Inventory.step threshold) Any start
        (earlier ++ fell :: later ++ [action]) after := run.snoc trivial taken
    rwa [← extended.deterministic whole]
  · exact since more state within reached

theorem descent_of_below {sku : Sku} {row : StockRow} (before after : Table Sku StockRow)
    (stocked : before.lookup sku = some row) (high : threshold ≤ row.currentStock)
    (below : Below threshold after sku) : ∃ current, descent threshold before after sku = some current := by
  obtain ⟨new, found, low⟩ := below
  exact ⟨new.currentStock, by simp [descent, stocked, found, high, low]⟩

end Steps

section Runs

variable {threshold : Int} {levels : Table Sku Nat} {labels : List Action} {server : Server}

theorem alerts_of_run (run : Run (step threshold) Any (idle (seeded levels)) labels server) :
    Sound server ∧ AlertsHeld threshold server := by
  induction run with
  | start =>
      refine ⟨Sound.idle levels, ?_⟩
      intro id session writes found
      contradiction
  | snoc past permitted taken ih =>
      obtain ⟨sound, alerts⟩ := ih
      exact ⟨sound.step taken, (alerts.step sound taken).1⟩

theorem alertsOf_run (run : Run (step threshold) Any (idle (seeded levels)) labels server)
    (sku : Sku) :
    alertsOf sku server.db.alerts =
      (descents threshold sku (idle (seeded levels)) labels).map
        (fun current => { sku, currentStock := current, threshold }) := by
  induction run with
  | start => rfl
  | @snoc labels before after action past permitted taken ih =>
      obtain ⟨sound, alerts⟩ := alerts_of_run past
      rw [(alerts.step sound taken).2 sku, ih, descents_append threshold sku past]
      cases drop : descent threshold before.db.stock after.db.stock sku <;>
        simp [descents, taken, drop]

theorem lastDescent_run (run : Run (step threshold) Any (idle (seeded levels)) labels server)
    {sku : Sku} {level : Nat} (stocked : levels.lookup sku = some level)
    (high : threshold ≤ ((level : Nat) : Int)) (below : Below threshold server.db.stock sku) :
    ∃ current, LastDescent threshold (idle (seeded levels)) labels sku current ∧
      { sku, currentStock := current, threshold } ∈ server.db.alerts := by
  induction run with
  | start =>
      obtain ⟨row, found, low⟩ := below
      simp only [idle, seeded, Table.lookup_mapValues, stocked, Option.map_some,
        Option.some.injEq] at found
      subst found
      exact absurd high (not_le.mpr low)
  | @snoc labels before after action past permitted taken ih =>
      obtain ⟨sound, alerts⟩ := alerts_of_run past
      have follow := (alerts.step sound taken).2 sku
      have member : ∀ alert : LowStockAlert, alert.sku = sku → alert ∈ alertsOf sku after.db.alerts →
          alert ∈ after.db.alerts := fun alert _ listed => (List.mem_filter.mp listed).1
      cases row : before.db.stock.lookup sku with
      | none =>
          obtain ⟨new, found, _⟩ := below
          have gone := step_initialStock taken sku
          simp [found, row] at gone
      | some row' =>
          by_cases low : row'.currentStock < threshold
          · obtain ⟨current, last, listed⟩ := ih ⟨row', row, low⟩
            refine ⟨current, last.later past taken below, member _ rfl ?_⟩
            rw [follow, List.mem_append]
            exact .inl (List.mem_filter.mpr ⟨listed, by simp⟩)
          · obtain ⟨current, drop⟩ := descent_of_below before.db.stock after.db.stock row
              (not_lt.mp low) below
            refine ⟨current, ⟨labels, action, [], before, after, rfl, past, taken, drop, ?_⟩,
              member _ rfl ?_⟩
            · intro more state part reached
              cases List.prefix_nil.mp part
              have here : Run (step threshold) Any after [] after := .start
              rwa [← here.deterministic reached]
            · rw [follow, drop]
              simp

end Runs

/-- Each committed descent of a SKU below the threshold has its alert row, and
there are no others. -/
theorem one_alert_per_descent (threshold : Int) (levels : Table Sku Nat) (labels : List Action)
    (server : Server)
    (run : Run (step threshold) Any (idle (seeded levels)) labels server) (sku : Sku) :
    alertsOf sku server.db.alerts =
      (descents threshold sku (idle (seeded levels)) labels).map
        (fun current => { sku, currentStock := current, threshold }) ∧
    (∀ level, levels.lookup sku = some level → threshold ≤ ((level : Nat) : Int) →
      Below threshold server.db.stock sku →
      ∃ current, LastDescent threshold (idle (seeded levels)) labels sku current ∧
        { sku, currentStock := current, threshold } ∈ server.db.alerts) :=
  ⟨alertsOf_run run sku, fun _ stocked high below => lastDescent_run run stocked high below⟩

/-- Two units are reserved and given back, and reserved again by the next sale. -/
def twiceBelow : List Action :=
  let reserve (attempt : Attempt) :=
    Call.handle (.stockReservationRequested attempt [("SKU-000001", 2)])
  .begin 0 (reserve ⟨1, 1⟩) :: List.replicate 4 (.proceed 0) ++
    .begin 1 (.handle (.stockReleaseRequested ⟨1, 1⟩)) :: List.replicate 5 (.proceed 1) ++
    .begin 2 (reserve ⟨2, 1⟩) :: List.replicate 4 (.proceed 2)

theorem twiceBelow_runs : (twiceBelow.foldlM (step 5)
    (idle (seeded (Table.empty.put "SKU-000001" 6)))).isSome = true := by
  decide

theorem one_alert_per_descent_twice :
    descents 5 "SKU-000001" (idle (seeded (Table.empty.put "SKU-000001" 6))) twiceBelow = [4, 4] ∧
    ∃ server, Run (step 5) Any (idle (seeded (Table.empty.put "SKU-000001" 6))) twiceBelow server ∧
      alertsOf "SKU-000001" server.db.alerts =
        [⟨"SKU-000001", 4, 5⟩, ⟨"SKU-000001", 4, 5⟩] := by
  have run := Run.of_foldlM (Option.some_get twiceBelow_runs).symm
  have falls : descents 5 "SKU-000001" (idle (seeded (Table.empty.put "SKU-000001" 6)))
      twiceBelow = [4, 4] := by decide
  refine ⟨falls, _, run, ?_⟩
  rw [(one_alert_per_descent 5 (Table.empty.put "SKU-000001" 6) twiceBelow _ run "SKU-000001").1,
    falls]
  rfl

end SelfCheckout.Inventory
