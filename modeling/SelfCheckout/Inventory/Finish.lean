import SelfCheckout.Data.Waiting
import SelfCheckout.Inventory.Deadlock

namespace SelfCheckout.Inventory

open SelfCheckout.Data

/-! # Handlers finish

No transaction runs for ever and none waits for ever: with baskets of at most `bound` SKUs a
session takes at most `2 * bound + 8` statements and locks, and as long as there is a session,
one of them can go on.
-/

/-- What follows the rollback of an insert that met an existing record. -/
def Caller.retryCost (bound : Nat) : Caller → Nat
  | .handleReservation false => bound + 4
  | .handleReservation true => 0
  | .reserveOnce => 1

/-- At least the statements and locks a session in this phase still takes. -/
def Phase.cost (bound : Nat) : Phase → Nat
  | .reserve caller => bound + 4 + caller.retryCost bound
  | .locking caller _ waiting _ => waiting.length + 3 + caller.retryCost bound
  | .replaying _ => 2
  | .recordRejected _ _ => 2
  | .rereading => 1
  | .tombstone => bound + 4
  | .lockAdjustment => bound + 3
  | .restoring _ waiting _ => waiting.length + 2
  | .committing _ => 1

/-- What Inventory holds names at most `bound` SKUs. -/
def ShortRecords (bound : Nat) (db : Database) : Prop :=
  ∀ attempt lines, db.adjustments.lookup attempt = some (.applied lines) →
    (normalize lines).length ≤ bound

theorem cost_pos (bound : Nat) (phase : Phase) : 0 < phase.cost bound := by
  cases phase <;> simp [Phase.cost]

theorem cost_call (bound : Nat) (call : Call) : call.session.phase.cost bound ≤ 2 * bound + 8 := by
  cases call with
  | handle request =>
      cases request with
      | stockReservationRequested attempt lines =>
          simp only [Call.session, Phase.cost, Caller.retryCost]
          omega
      | stockReleaseRequested attempt =>
          simp only [Call.session, Phase.cost]
          omega
  | reserveOnce attempt lines =>
      simp only [Call.session, Phase.cost, Caller.retryCost]
      omega

theorem stocked_length (db : Database) (basket : List (Sku × Nat)) :
    (stocked db basket).length ≤ basket.length := by
  unfold stocked
  exact (List.length_filter_le _ _).trans (by simp)

/-- Each statement or lock costs its session at least one. -/
theorem effect_cost {threshold : Int} {bound : Nat} {db : Database} {session : Session}
    {phase : Phase} (records : ShortRecords bound db) (short : session.basket.length ≤ bound)
    (leads : (effect threshold db session).LeadsTo phase) :
    phase.cost bound < session.phase.cost bound := by
  obtain ⟨attempt, basket, before⟩ := session
  have first := stocked_length db basket
  cases before with
  | reserve caller =>
      simp only [effect] at leads
      split at leads
      · cases leads
        simp only [Phase.cost] at *
        omega
      · contradiction
  | locking caller prior waiting locked =>
      cases waiting with
      | cons sku waiting =>
          obtain ⟨current, rfl⟩ := leads
          simp [Phase.cost]
      | nil =>
          cases prior with
          | some state =>
              cases state <;> cases leads <;> simp only [Phase.cost, List.length_nil] <;> omega
          | none =>
              simp only [effect] at leads
              split at leads
              · split at leads
                · rcases caller with ⟨_ | _⟩ | _ <;> cases leads <;>
                    simp only [Phase.cost, Caller.retryCost, List.length_nil] <;> omega
                · cases leads
                  simp only [Phase.cost, List.length_nil]
                  omega
              · cases leads
                simp only [Phase.cost, List.length_nil]
                omega
  | replaying caller =>
      cases leads
      simp [Phase.cost]
  | recordRejected caller short =>
      simp only [effect] at leads
      split at leads <;> cases leads <;> simp [Phase.cost]
  | rereading => contradiction
  | tombstone =>
      simp only [effect] at leads
      split at leads
      · split at leads <;> cases leads <;> simp [Phase.cost]
      · contradiction
  | lockAdjustment =>
      cases record : db.adjustments.lookup attempt with
      | none =>
          simp only [effect, record] at leads
          contradiction
      | some row =>
          cases row with
          | released lines =>
              simp only [effect, record] at leads
              cases leads
              simp [Phase.cost]
          | rejected short =>
              simp only [effect, record] at leads
              cases leads
              simp [Phase.cost]
          | applied lines =>
              simp only [effect, record] at leads
              cases leads
              have listed := stocked_length db (normalize lines)
              have held := records attempt lines record
              simp only [Phase.cost]
              omega
  | restoring lines waiting locked =>
      cases waiting with
      | cons sku waiting =>
          obtain ⟨current, rfl⟩ := leads
          simp [Phase.cost]
      | nil =>
          cases leads
          simp [Phase.cost]
  | committing writes => contradiction

/-- The sessions' baskets and the records name at most `bound` SKUs. -/
structure ShortCosts (bound : Nat) (server : Server) : Prop where
  records : ShortRecords bound server.db
  baskets : ∀ id session, server.sessions id = some session → session.basket.length ≤ bound
  writes : ∀ id session writes lines, server.sessions id = some session →
    session.phase = .committing writes → writes.adjustment = some (.applied lines) →
    (normalize lines).length ≤ bound

/-- The calls name at most `bound` SKUs. -/
def ShortCalls (bound : Nat) (_ : Server) : Action → Prop
  | .begin _ call => call.session.basket.length ≤ bound
  | .proceed _ => True
  | .abort _ => True

instance (bound : Nat) (server : Server) (action : Action) :
    Decidable (ShortCalls bound server action) :=
  match action with
  | .begin _ _ => inferInstanceAs (Decidable (_ ≤ _))
  | .proceed _ => .isTrue trivial
  | .abort _ => .isTrue trivial

theorem length_normalize_le (lines : List (Sku × Nat)) : (normalize lines).length ≤ lines.length := by
  have keys : (normalize lines).map Prod.fst ⊆ lines.map Prod.fst :=
    fun sku member => mem_merge_keys.mp member
  have fewer := (List.subperm_of_subset (nodup_merge_keys lines) keys).length_le
  simpa [normalize] using fewer

/-- What a commit makes APPLIED is its session's basket. -/
theorem effect_takes {threshold : Int} {db : Database} {session : Session} {writes : Writes}
    {lines : List (Sku × Nat)} (leads : (effect threshold db session).LeadsTo (.committing writes))
    (takes : writes.adjustment = some (.applied lines)) : lines = session.basket := by
  obtain ⟨attempt, basket, phase⟩ := session
  cases phase with
  | reserve caller =>
      simp only [effect] at leads
      split at leads <;> contradiction
  | locking caller prior waiting locked =>
      cases waiting with
      | cons sku waiting =>
          obtain ⟨current, same⟩ := leads
          contradiction
      | nil =>
          cases prior with
          | some state =>
              cases state <;> cases leads <;> simp [answering] at takes
          | none =>
              simp only [effect] at leads
              split at leads
              · split at leads
                · rcases caller with ⟨_ | _⟩ | _ <;>
                    simp [Caller.afterConflict, Effect.LeadsTo] at leads
                · cases leads
                  simpa [taking] using takes.symm
              · contradiction
  | replaying caller =>
      cases leads
      simp [answering] at takes
  | recordRejected caller short =>
      simp only [effect] at leads
      split at leads <;> cases leads <;> simp [answering, recording] at takes
  | rereading => contradiction
  | tombstone =>
      simp only [effect] at leads
      split at leads
      · split at leads
        · contradiction
        · cases leads
          simp [recording] at takes
      · contradiction
  | lockAdjustment =>
      simp only [effect] at leads
      split at leads
      · contradiction
      · cases leads
        simp [answering] at takes
      · cases leads
        simp [recording] at takes
      · contradiction
  | restoring lines waiting locked =>
      cases waiting with
      | cons sku waiting =>
          obtain ⟨current, same⟩ := leads
          contradiction
      | nil =>
          cases leads
          simp [givingBack] at takes
  | committing before => contradiction

section Steps

variable {threshold : Int} {bound : Nat} {server after : Server} {action : Action}

theorem ShortCosts.idle {db : Database} (records : ShortRecords bound db) : ShortCosts bound (idle db) where
  records := records
  baskets _ _ found := by contradiction
  writes _ _ _ _ found := by contradiction

theorem ShortRecords.applyWrites {db : Database} {attempt : Attempt} {writes : Writes}
    (records : ShortRecords bound db)
    (short : ∀ lines, writes.adjustment = some (.applied lines) → (normalize lines).length ≤ bound) :
    ShortRecords bound (applyWrites db attempt writes) := by
  intro other lines found
  cases adjustment : writes.adjustment with
  | none =>
      simp only [Inventory.applyWrites, adjustment] at found
      exact records other lines found
  | some row =>
      simp only [Inventory.applyWrites, adjustment, Table.lookup_put] at found
      split at found
      · cases found
        exact short lines adjustment
      · exact records other lines found

theorem ShortCosts.step (short : ShortCosts bound server) (allowed : ShortCalls bound server action)
    (taken : step threshold server action = some after) : ShortCosts bound after := by
  rcases step_cases taken with ⟨id, call, rfl, gone, rfl⟩ | ⟨id, session, rfl, found, done⟩ |
    ⟨id, session, rfl, found, rfl⟩
  · refine ⟨short.records, fun other next here => ?_, fun other next writes lines here phase => ?_⟩
    · by_cases own : other = id
      · subst own
        simp only [Function.update_self, Option.some.injEq] at here
        subst here
        exact allowed
      · exact short.baskets other next (by simpa [own] using here)
    · by_cases own : other = id
      · subst own
        simp only [Function.update_self, Option.some.injEq] at here
        subst here
        have bare := call.bare
        rw [phase] at bare
        contradiction
      · exact short.writes other next writes lines (by simpa [own] using here) phase
  · obtain ⟨others, own⟩ := perform_sessions done
    have basket := short.baskets id session found
    refine ⟨?_, fun other next here => ?_, fun other next writes lines here phase takes => ?_⟩
    · rcases perform_db done with same | ⟨writes, commits, same⟩
      · rw [same]
        exact short.records
      · rw [same]
        refine short.records.applyWrites fun lines takes => ?_
        rcases effect_commits commits with phase | nothing
        · exact short.writes id session writes lines found phase takes
        · simp [nothing, answering] at takes
    · by_cases isOwn : other = id
      · subst isOwn
        obtain ⟨phase, _, rfl⟩ := own next here
        exact basket
      · exact short.baskets other next ((others other isOwn).symm.trans here)
    · by_cases isOwn : other = id
      · subst isOwn
        obtain ⟨next, leads, rfl⟩ := own next here
        cases phase
        rw [effect_takes leads takes]
        exact (length_normalize_le _).trans basket
      · exact short.writes other next writes lines ((others other isOwn).symm.trans here) phase takes
  · have before : ∀ other next, (server.finish id).sessions other = some next →
        server.sessions other = some next := by
      intro other next here
      by_cases own : other = id
      · simp [Server.finish, own] at here
      · simpa [Server.finish, own] using here
    exact ⟨short.records, fun other next here => short.baskets other next (before other next here),
      fun other next writes lines here => short.writes other next writes lines (before other next here)⟩

/-- What a session may still take; none where it is over. -/
def Server.cost (server : Server) (bound : Nat) (id : SessionId) : Nat :=
  (server.sessions id).elim 0 (fun session => session.phase.cost bound)

/-- What a new call of this session may come to. -/
def Action.allowance (bound : Nat) (id : SessionId) : Action → Nat
  | .begin other _ => if other = id then 2 * bound + 8 else 0
  | .proceed _ => 0
  | .abort _ => 0

/-- A statement costs its session one, and only a new call gives it more. -/
theorem step_cost (id : SessionId) (short : ShortCosts bound server)
    (taken : step threshold server action = some after) :
    (if action = .proceed id then 1 else 0) + after.cost bound id ≤
      server.cost bound id + action.allowance bound id := by
  rcases step_cases taken with ⟨other, call, rfl, gone, rfl⟩ | ⟨other, session, rfl, found, done⟩ |
    ⟨other, session, rfl, found, rfl⟩
  · by_cases own : id = other
    · subst own
      have most := cost_call bound call
      simp only [reduceCtorEq, ↓reduceIte, Server.cost, Function.update_self, Option.elim_some,
        Action.allowance]
      omega
    · simp [Server.cost, own]
  · obtain ⟨others, mine⟩ := perform_sessions done
    by_cases own : id = other
    · subst own
      have before : server.cost bound id = session.phase.cost bound := by
        simp [Server.cost, found]
      have less : after.cost bound id < session.phase.cost bound := by
        cases still : after.sessions id with
        | none => simpa [Server.cost, still] using cost_pos bound session.phase
        | some next =>
            obtain ⟨phase, leads, rfl⟩ := mine next still
            simpa [Server.cost, still] using
              effect_cost short.records (short.baskets id session found) leads
      simp only [↓reduceIte, Action.allowance]
      omega
    · have same : after.cost bound id = server.cost bound id := by
        simp only [Server.cost, others id own]
      simp [same, Ne.symm own]
  · by_cases own : id = other
    · simp [Server.cost, Server.finish, own]
    · simp [Server.cost, Server.finish, own]

end Steps

section Runs

variable {threshold : Int} {bound : Nat} {server : Server}

/-- The sessions that are running are among these. -/
def Among (server : Server) (ids : Finset SessionId) : Prop :=
  ∀ id session, server.sessions id = some session → id ∈ ids

theorem Among.step {ids : Finset SessionId} {action : Action} {after : Server}
    (among : Among server ids) (taken : step threshold server action = some after) :
    ∃ more, Among after more := by
  rcases step_cases taken with ⟨id, call, rfl, gone, rfl⟩ | ⟨id, session, rfl, found, done⟩ |
    ⟨id, session, rfl, found, rfl⟩
  · refine ⟨insert id ids, fun other next here => ?_⟩
    by_cases own : other = id
    · simp [own]
    · exact Finset.mem_insert_of_mem (among other next (by simpa [own] using here))
  · obtain ⟨others, _⟩ := perform_sessions done
    refine ⟨ids, fun other next here => ?_⟩
    by_cases own : other = id
    · exact own ▸ among id session found
    · exact among other next ((others other own).symm.trans here)
  · refine ⟨ids, fun other next here => ?_⟩
    by_cases own : other = id
    · exact own ▸ among id session found
    · exact among other next (by simpa [Server.finish, own] using here)

/-- Whoever is waited for is a running session: the others hold nothing. -/
theorem Ranked.holder (ranked : Ranked server) {other : SessionId} {session : Session}
    (waits : WaitsFor server session other) : ∃ holder, server.sessions other = some holder := by
  cases running : server.sessions other with
  | some holder => exact ⟨holder, rfl⟩
  | none =>
      obtain ⟨noStock, noAttempt⟩ := ranked.absent other running
      obtain ⟨attempt, basket, phase⟩ := session
      cases phase with
      | locking caller prior waiting locked =>
          cases waiting with
          | cons sku waiting => exact absurd waits (noStock sku)
          | nil =>
              cases prior with
              | some state => contradiction
              | none => exact absurd waits.2.1 (noAttempt attempt)
      | restoring lines waiting locked =>
          cases waiting with
          | cons sku waiting => exact absurd waits (noStock sku)
          | nil => contradiction
      | recordRejected caller short => exact absurd waits.1 (noAttempt attempt)
      | tombstone => exact absurd waits.2.1 (noAttempt attempt)
      | lockAdjustment => exact absurd waits.2 (noAttempt attempt)
      | reserve caller => contradiction
      | replaying caller => contradiction
      | rereading => contradiction
      | committing writes => contradiction

theorem Ranked.someone (ranked : Ranked server) {ids : Finset SessionId} (among : Among server ids)
    {id : SessionId} {session : Session} (found : server.sessions id = some session) :
    ∃ other, (Inventory.step threshold server (.proceed other)).isSome = true := by
  have running : (ids.filter fun id => (server.sessions id).isSome).Nonempty :=
    ⟨id, Finset.mem_filter.mpr ⟨among id session found, by simp [found]⟩⟩
  obtain ⟨free, isFree, nobody⟩ := exists_not_waiting ranked.ascends running
  obtain ⟨last, isLast⟩ := Option.isSome_iff_exists.mp (Finset.mem_filter.mp isFree).2
  refine ⟨free, ?_⟩
  by_contra stuck
  have stuck : Inventory.step threshold server (.proceed free) = none := by simpa using stuck
  simp only [Inventory.step, isLast] at stuck
  obtain ⟨other, waits⟩ := (ranked.ranked free last isLast).stuck_waits ranked.claimed stuck
  obtain ⟨holder, isHolder⟩ := ranked.holder waits
  exact nobody other (Finset.mem_filter.mpr ⟨among other holder isHolder, by simp [isHolder]⟩)
    ⟨last, isLast, waits⟩

/-- Handlers finish.  In every run of concurrent handlers whose baskets name at most `bound`
SKUs, with crashes anywhere: a session takes at most `2 * bound + 8` statements and locks for
each call; while any session is running one of them can go on; and when none is, no row is
locked. -/
theorem handlers_finish {db : Database} {labels : List Action} (records : ShortRecords bound db)
    (run : Run (step threshold) (ShortCalls bound) (idle db) labels server) :
    (∀ id, labels.countP (fun action => action = .proceed id) + server.cost bound id ≤
      (labels.map (Action.allowance bound id)).sum) ∧
    ((∃ id session, server.sessions id = some session) →
      ∃ id, (step threshold server (.proceed id)).isSome = true) ∧
    ((∀ id, server.sessions id = none) →
      (∀ sku, server.stockOwner sku = none) ∧ ∀ attempt, server.attemptOwner attempt = none) := by
  have both : ShortCosts bound server ∧ Ranked server ∧ (∃ ids, Among server ids) ∧
      ∀ id, labels.countP (fun action => action = .proceed id) + server.cost bound id ≤
        (labels.map (Action.allowance bound id)).sum := by
    induction run with
    | start =>
        exact ⟨.idle records, .idle db, ⟨∅, fun _ _ found => by contradiction⟩,
          fun id => by simp [Server.cost, idle]⟩
    | snoc past permitted taken ih =>
        obtain ⟨short, ranked, ⟨ids, among⟩, cost⟩ := ih
        refine ⟨short.step permitted taken, ranked.step taken, among.step taken, fun id => ?_⟩
        have before := cost id
        have next := step_cost id short taken
        simp only [List.countP_append, List.countP_cons, List.countP_nil, decide_eq_true_eq,
          List.map_append, List.map_cons, List.map_nil, List.sum_append, List.sum_cons,
          List.sum_nil, add_zero, zero_add]
        omega
  obtain ⟨_, ranked, ⟨ids, among⟩, cost⟩ := both
  refine ⟨cost, ?_, fun gone => ⟨fun sku => ?_, fun attempt => ?_⟩⟩
  · rintro ⟨id, session, found⟩
    exact ranked.someone among found
  · cases owner : server.stockOwner sku with
    | none => rfl
    | some id => exact absurd owner ((ranked.absent id (gone id)).1 sku)
  · cases owner : server.attemptOwner attempt with
    | none => rfl
    | some id => exact absurd owner ((ranked.absent id (gone id)).2 attempt)

end Runs

theorem crossing_short : (crossing.foldlM (guarded (step 10) (ShortCalls 2))
    (idle (seeded ((Table.empty.put "SKU-000001" 5).put "SKU-000002" 5)))).isSome = true := by
  decide +kernel

/-- Two reservations and a release stand in each other's way, and one can go on. -/
theorem handlers_finish_crossing :
    ∃ id, (step 10 (Option.get _ crossing_short) (.proceed id)).isSome = true := by
  have finish := handlers_finish (fun _ _ found => by simp [seeded] at found)
    (.of_guarded (Option.some_get crossing_short).symm)
  exact finish.2.1 ⟨0, Option.get _ (show ((Option.get _ crossing_short).sessions 0).isSome = true by
    decide +kernel), (Option.some_get _).symm⟩

end SelfCheckout.Inventory
