import SelfCheckout.Inventory.Sessions

namespace SelfCheckout.Inventory

open SelfCheckout.Data

/-! # A session that runs alone

With no other session around, the statements of a handler come to what the
handler's function computes: the functions of `reserve.py`, read as one local
transaction each, are the serial case of the sessions.
-/

/-- The server while one session runs, with the rows it has locked. -/
def alone (db : Database) (id : SessionId) (session : Session) (owned : List Sku)
    (record : Option Attempt) : Server :=
  { db
    stockOwner := fun sku => if sku ∈ owned then some id else none
    attemptOwner := fun attempt => if some attempt = record then some id else none
    sessions := Function.update (fun _ => none) id (some session) }

def Session.at (session : Session) (phase : Phase) : Session := { session with phase }

@[simp] theorem Session.at_at (session : Session) (phase next : Phase) :
    (session.at phase).at next = session.at next := rfl

section Effects

variable {threshold : Int} {db : Database} {id : SessionId} {session : Session}
  {owned : List Sku} {record : Option Attempt}

theorem alone_begins (threshold : Int) (db : Database) (id : SessionId) (call : Call) :
    Reaches (step threshold) (idle db) (alone db id call.session [] none) := by
  have taken : step threshold (idle db) (.begin id call) =
      some (alone db id call.session [] none) := by
    simp [step, idle, alone]
  exact .single taken

theorem alone_goes {phase : Phase} (does : effect threshold db session = .goto phase) :
    Reaches (step threshold) (alone db id session owned record)
      (alone db id (session.at phase) owned record) := by
  have taken : step threshold (alone db id session owned record) (.proceed id) =
      some (alone db id (session.at phase) owned record) := by
    simp [step, alone, does, Server.perform, Server.setPhase, Session.at]
  exact .single taken

theorem alone_locks {sku : Sku} {phase : Int → Phase} {row : StockRow}
    (does : effect threshold db session = .lockStock sku phase) (free : sku ∉ owned)
    (found : db.stock.lookup sku = some row) :
    Reaches (step threshold) (alone db id session owned record)
      (alone db id (session.at (phase row.currentStock)) (sku :: owned) record) := by
  have owners : Function.update (fun other => if other ∈ owned then some id else none) sku
      (some id) = fun other => if other ∈ sku :: owned then some id else none := by
    funext other
    by_cases here : other = sku
    · simp [here]
    · simp [here]
  have taken : step threshold (alone db id session owned record) (.proceed id) =
      some (alone db id (session.at (phase row.currentStock)) (sku :: owned) record) := by
    simp [step, alone, does, Server.perform, Server.setPhase, Session.at, free, found, owners]
  exact .single taken

theorem alone_claims {phase : Phase} (does : effect threshold db session = .lockAttempt phase) :
    Reaches (step threshold) (alone db id session owned none)
      (alone db id (session.at phase) owned (some session.attempt)) := by
  have owners : Function.update (fun _ => none) session.attempt (some id) =
      fun attempt => if some attempt = some session.attempt then some id else none := by
    funext attempt
    by_cases here : attempt = session.attempt
    · simp [here]
    · simp [here]
  have taken : step threshold (alone db id session owned none) (.proceed id) =
      some (alone db id (session.at phase) owned (some session.attempt)) := by
    simp [step, alone, does, Server.perform, Server.setPhase, Session.at, owners]
  exact .single taken

theorem alone_commits {writes : Writes} (does : effect threshold db session = .commit writes) :
    Reaches (step threshold) (alone db id session owned record)
      (idle (applyWrites db session.attempt writes)) := by
  have stockFree : (fun sku => if sku ∈ owned then none
      else if sku ∈ owned then some id else none) = fun _ : Sku => none := by
    funext sku
    by_cases held : sku ∈ owned
    · simp [held]
    · simp [held]
  have attemptFree : (fun attempt => if some attempt = record then none
      else if some attempt = record then some id else none) = fun _ : Attempt => none := by
    funext attempt
    by_cases held : some attempt = record
    · simp [held]
    · simp [held]
  have taken : step threshold (alone db id session owned record) (.proceed id) =
      some (idle (applyWrites db session.attempt writes)) := by
    simp [step, alone, does, Server.perform, Server.finish, Server.unlock, idle, stockFree,
      attemptFree]
  exact .single taken

/-- What the rows of `skus` read. -/
def readRows (db : Database) (skus : List Sku) : List (Sku × Int) :=
  skus.filterMap (fun sku => (db.stock.lookup sku).map (fun row => (sku, row.currentStock)))

theorem readRows_stocked (db : Database) (basket : List (Sku × Nat)) :
    readRows db (stocked db basket) = lockedRows db.stock basket := by
  induction basket with
  | nil => rfl
  | cons line basket ih =>
      simp only [readRows, stocked, lockedRows] at ih ⊢
      cases found : db.stock.lookup line.1 with
      | none => simp [found, ih]
      | some row => simp [found, ih]

/-- A statement that takes row locks one after another ends up with all of them. -/
theorem alone_locks_all {locking : List Sku → List (Sku × Int) → Phase}
    (does : ∀ sku waiting locked,
      effect threshold db (session.at (locking (sku :: waiting) locked)) =
        .lockStock sku (fun current => locking waiting (locked ++ [(sku, current)])))
    (waiting : List Sku) (locked : List (Sku × Int)) (distinct : waiting.Nodup)
    (free : ∀ sku ∈ waiting, sku ∉ owned)
    (present : ∀ sku ∈ waiting, (db.stock.lookup sku).isSome = true) :
    ∃ all, Reaches (step threshold)
      (alone db id (session.at (locking waiting locked)) owned record)
      (alone db id (session.at (locking [] (locked ++ readRows db waiting))) all record) := by
  induction waiting generalizing locked owned with
  | nil =>
      refine ⟨owned, ?_⟩
      simpa [readRows] using Reaches.refl _
  | cons sku waiting ih =>
      obtain ⟨row, found⟩ := Option.isSome_iff_exists.mp (present sku List.mem_cons_self)
      rw [List.nodup_cons] at distinct
      have first := @alone_locks _ _ id _ owned record _ _ row (does sku waiting locked)
        (free sku List.mem_cons_self) found
      obtain ⟨all, rest⟩ := @ih (sku :: owned) (locked ++ [(sku, row.currentStock)]) distinct.2
        (fun other member => by
          have fresh := free other (List.mem_cons_of_mem _ member)
          have different : other ≠ sku := by
            intro same
            subst same
            exact distinct.1 member
          simp [fresh, different])
        (fun other member => present other (List.mem_cons_of_mem _ member))
      refine ⟨all, first.trans ?_⟩
      simpa [readRows, found] using rest

theorem alone_answers {writes : Writes}
    (does : effect threshold db session = .goto (.committing writes)) :
    Reaches (step threshold) (alone db id session owned record)
      (idle (applyWrites db session.attempt writes)) :=
  (alone_goes does).trans (alone_commits rfl)

theorem alone_records {writes : Writes}
    (does : effect threshold db session = .lockAttempt (.committing writes)) :
    Reaches (step threshold) (alone db id session owned none)
      (idle (applyWrites db session.attempt writes)) :=
  (alone_claims does).trans (alone_commits rfl)

end Effects

section Handlers

variable {threshold : Int} {db after : Database} {attempt : Attempt} {outcome : Outcome}

theorem writeStock_nil (stock : Table Sku StockRow) : writeStock stock [] = stock := by
  cases stock
  simp [writeStock, Table.mapValues, Table.lookupRows]

theorem applyWrites_answering (db : Database) (attempt : Attempt) (outcome : Outcome) :
    applyWrites db attempt (answering (some outcome)) = insertOutbox db outcome := by
  simp [applyWrites, answering, insertOutbox, writeStock_nil]

theorem applyWrites_recording (db : Database) (attempt : Attempt) (row : Adjustment)
    (outcome : Outcome) :
    applyWrites db attempt (recording row (some outcome)) =
      insertOutbox { db with adjustments := db.adjustments.put attempt row } outcome := by
  simp [applyWrites, recording, insertOutbox, writeStock_nil]

theorem applyWrites_taking (db : Database) (attempt : Attempt) (basket : List (Sku × Nat))
    (threshold : Int) (outcome : Outcome) :
    applyWrites db attempt (taking basket (lockedRows db.stock basket) threshold (some outcome)) =
      insertOutbox (applyReserve db attempt basket threshold) outcome := rfl

theorem applyWrites_givingBack (db : Database) (attempt : Attempt) (lines : List (Sku × Nat))
    (outcome : Outcome) :
    applyWrites db attempt
        (givingBack lines (lockedRows db.stock (normalize lines)) (some outcome)) =
      insertOutbox (applyRelease db attempt lines) outcome := by
  simp [applyWrites, givingBack, insertOutbox, applyRelease]

/-- A reservation that has locked its rows answers as `reserve` does. -/
theorem locked_alone {lines : List (Sku × Nat)} {result : ReserveResult} {all : List Sku}
    {session : Session} (ofAttempt : session.attempt = attempt)
    (ofBasket : session.basket = normalize lines)
    (ran : reserve db attempt lines threshold = some (result, after)) :
    Reaches (step threshold)
      (alone db 0 (session.at (.locking (.handleReservation false)
        ((db.adjustments.lookup attempt).map Adjustment.state) []
        (lockedRows db.stock (normalize lines)))) all none)
      (idle (insertOutbox after (result.outcome attempt))) := by
  subst ofAttempt
  simp only [reserve] at ran
  split at ran
  · cases found : db.adjustments.lookup session.attempt with
    | some row =>
        cases row with
        | applied taken =>
            simp only [found, Option.map_some, Adjustment.state, Option.some.injEq,
              Prod.mk.injEq] at ran
            obtain ⟨rfl, rfl⟩ := ran
            rw [← applyWrites_answering]
            exact alone_answers rfl
        | rejected short =>
            simp only [found, recorded, Option.map_some, Adjustment.state, Option.some.injEq,
              Prod.mk.injEq] at ran
            obtain ⟨rfl, rfl⟩ := ran
            have replays := @alone_goes threshold db 0 _ all none _
              (rfl : effect threshold db (session.at (.locking (.handleReservation false)
                (some .rejected) [] (lockedRows db.stock (normalize lines)))) =
                  .goto (.replaying (.handleReservation false)))
            refine replays.trans ?_
            rw [← applyWrites_answering]
            apply alone_answers
            simp [effect, Session.at, recorded, found, Caller.outcome]
        | released left =>
            simp only [found, Option.map_some, Adjustment.state, Option.some.injEq,
              Prod.mk.injEq] at ran
            obtain ⟨rfl, rfl⟩ := ran
            rw [← applyWrites_answering]
            exact alone_answers rfl
    | none =>
        simp only [found, Option.map_none] at ran ⊢
        split at ran
        · rename_i enough
          simp only [Option.some.injEq, Prod.mk.injEq] at ran
          obtain ⟨rfl, rfl⟩ := ran
          have takes : effect threshold db (session.at (.locking (.handleReservation false) none []
              (lockedRows db.stock (normalize lines)))) =
              .lockAttempt (.committing (taking (normalize lines)
                (lockedRows db.stock (normalize lines)) threshold
                (some ((ReserveResult.reserved false).outcome session.attempt)))) := by
            simp [effect, Session.at, ofBasket, enough, found, Caller.outcome]
          rw [← applyWrites_taking]
          exact alone_records takes
        · rename_i short
          simp only [Option.some.injEq, Prod.mk.injEq] at ran
          obtain ⟨rfl, rfl⟩ := ran
          have refuses : effect threshold db (session.at (.locking (.handleReservation false) none
              [] (lockedRows db.stock (normalize lines)))) =
              .goto (.recordRejected (.handleReservation false)
                (shortSkus (normalize lines) (lockedRows db.stock (normalize lines)))) := by
            simp [effect, Session.at, ofBasket, short]
          refine (alone_goes refuses).trans ?_
          rw [recordRejected, ← applyWrites_recording]
          apply alone_records
          simp [effect, Session.at, found, Caller.outcome]
  · contradiction

theorem reservation_alone {lines : List (Sku × Nat)}
    (done : handleReservation db attempt lines threshold = some (outcome, after)) :
    Reaches (step threshold) (idle db) (idle after) := by
  obtain ⟨⟨result, db'⟩, ran, same⟩ := Option.map_eq_some_iff.mp done
  cases same
  have bound : bindable attempt (normalize lines) = true := by
    simp only [reserve] at ran
    split at ran
    · assumption
    · contradiction
  let session := Call.session (.handle (.stockReservationRequested attempt lines))
  let prior := (db.adjustments.lookup attempt).map Adjustment.state
  have begins := alone_begins threshold db 0 (.handle (.stockReservationRequested attempt lines))
  have sent : effect threshold db session =
      .goto (.locking (.handleReservation false) prior (stocked db (normalize lines)) []) := by
    simp [effect, session, Call.session, bound, prior]
  have distinct : (stocked db (normalize lines)).Nodup :=
    (nodup_merge_keys lines).sublist List.filter_sublist
  obtain ⟨all, locks⟩ := @alone_locks_all threshold db 0 session [] none
    (fun waiting locked => .locking (.handleReservation false) prior waiting locked)
    (fun _ _ _ => rfl) (stocked db (normalize lines)) [] distinct (fun _ _ => List.not_mem_nil)
    (fun sku member => by simpa using (List.mem_filter.mp member).2)
  rw [List.nil_append, readRows_stocked] at locks
  exact ((begins.trans (alone_goes sent)).trans locks).trans (locked_alone rfl rfl ran)

/-- A release that found a record answers as `release` does. -/
theorem lockAdjustment_alone {row : Adjustment} {released : Released} {session : Session}
    (ofAttempt : session.attempt = attempt) (found : db.adjustments.lookup attempt = some row)
    (ran : release db attempt = some (released, after)) :
    Reaches (step threshold) (alone db 0 (session.at .lockAdjustment) [] none)
      (idle (insertOutbox after (released.outcome attempt))) := by
  subst ofAttempt
  simp only [release, found] at ran
  split at ran
  · cases row with
    | released left =>
        simp only [Option.some.injEq, Prod.mk.injEq] at ran
        obtain ⟨rfl, rfl⟩ := ran
        rw [← applyWrites_answering]
        apply alone_records
        simp [effect, Session.at, found, Released.outcome]
    | rejected short =>
        simp only [Option.some.injEq, Prod.mk.injEq] at ran
        obtain ⟨rfl, rfl⟩ := ran
        rw [← applyWrites_recording]
        apply alone_records
        simp [effect, Session.at, found, Released.outcome]
    | applied lines =>
        simp only [Option.some.injEq, Prod.mk.injEq] at ran
        obtain ⟨rfl, rfl⟩ := ran
        have claims : effect threshold db (session.at .lockAdjustment) =
            .lockAttempt (.restoring lines (stocked db (normalize lines)) []) := by
          simp [effect, Session.at, found]
        have distinct : (stocked db (normalize lines)).Nodup :=
          (nodup_merge_keys lines).sublist List.filter_sublist
        obtain ⟨all, locks⟩ := @alone_locks_all threshold db 0 session [] (some session.attempt)
          (fun waiting locked => .restoring lines waiting locked) (fun _ _ _ => rfl)
          (stocked db (normalize lines)) [] distinct (fun _ _ => List.not_mem_nil)
          (fun sku member => by simpa using (List.mem_filter.mp member).2)
        rw [List.nil_append, readRows_stocked] at locks
        refine ((alone_claims claims).trans locks).trans ?_
        rw [← applyWrites_givingBack]
        exact alone_answers rfl
  · contradiction

theorem release_alone (done : handleRelease db attempt = some (outcome, after)) :
    Reaches (step threshold) (idle db) (idle after) := by
  obtain ⟨⟨released, db'⟩, ran, same⟩ := Option.map_eq_some_iff.mp done
  cases same
  have bound : bindable attempt [] = true := by
    simp only [release] at ran
    split at ran
    · assumption
    · contradiction
  let session := Call.session (.handle (.stockReleaseRequested attempt))
  have begins := alone_begins threshold db 0 (.handle (.stockReleaseRequested attempt))
  refine begins.trans ?_
  cases found : db.adjustments.lookup attempt with
  | none =>
      simp only [release, bound, found, ↓reduceIte, Option.some.injEq, Prod.mk.injEq] at ran
      obtain ⟨rfl, rfl⟩ := ran
      rw [← applyWrites_recording]
      apply alone_records
      simp [effect, Call.session, bound, found, Released.outcome]
  | some row =>
      have looks : effect threshold db session = .goto .lockAdjustment := by
        simp [effect, session, Call.session, bound, found]
      exact (alone_goes looks).trans (lockAdjustment_alone rfl found ran)

end Handlers

/-- A handled request is a run of one session: it starts, runs its statements with
nobody else around, and commits what the handler's function returns. -/
theorem handle_alone {threshold : Int} {db after : Database} {request : Request}
    {outcome : Outcome} (done : handle db threshold request = some (outcome, after)) :
    Reaches (step threshold) (idle db) (idle after) := by
  cases request with
  | stockReservationRequested attempt lines => exact reservation_alone done
  | stockReleaseRequested attempt => exact release_alone done

end SelfCheckout.Inventory
