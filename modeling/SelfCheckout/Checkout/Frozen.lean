import SelfCheckout.Checkout.Sessions

namespace SelfCheckout.Checkout.Sessions

open SelfCheckout.Data

/-! # The basket while its transaction is completing

What a session has read under a lock stays true for as long as it holds the lock, so a
commit finds the rows its statements found.  Each commit does to every bill what one of
`Bills` does, and the rest follows from what `Bills` keeps.
-/

inductive Fact where
  | found (tx : TxId) (row : Option Transaction)
  | scanned (tx : TxId) (basket : List BasketLine)
  /-- A record read under the row's lock: its attempt and its total stand. -/
  | terms (tx : TxId) (read : Completion)
  | recorded (tx : TxId) (record : Option Completion)

def Fact.Holds (server : Server) (id : SessionId) : Fact → Prop
  | .found tx row => server.rowOwner tx = some id ∧ server.db.transactions.lookup tx = row
  | .scanned tx basket => server.rowOwner tx = some id ∧ getBasket server.db tx = basket
  | .terms tx read =>
      server.rowOwner tx = some id ∧ SameTerms (some read) (server.db.completions.lookup tx)
  | .recorded tx record =>
      server.recordOwner tx = some id ∧ server.db.completions.lookup tx = record

def recordFacts (tx : TxId) (record : Option Completion) : List Fact :=
  record.toList.map (fun record => .recorded tx (some record))

def Work.facts : Work → List Fact
  | .nothing => []
  | .insert tx => [.found tx none]
  | .scan tx row _ _ => [.found tx (some row.row)]
  | .markCompleting tx row basket record =>
      [.found tx (some row.row), .scanned tx basket] ++ [.recorded tx record]
  | .takeOver tx row basket read record =>
      [.found tx (some row.row), .scanned tx basket, .terms tx read] ++ recordFacts tx record
  | .setState tx _ _ _ record => recordFacts tx record
  | .finalize tx row _ record => [.found tx (some row.row)] ++ recordFacts tx record
  | .reopen tx row record => [.found tx (some row.row)] ++ recordFacts tx record
  | .sweep rows => rows.map (fun row => .found row.1 (some row.2.row))
  | .claim records => records.map (fun record => .recorded record.1 (some record.2))

def Phase.facts : Phase → List Fact
  | .getBasket tx _ row => [.found tx (some row)]
  | .markCompleting tx row basket => [.found tx (some row.row), .scanned tx basket]
  | .getCompletion tx _ row basket => [.found tx (some row.row), .scanned tx basket]
  | .takeOver tx row basket read =>
      [.found tx (some row.row), .scanned tx basket, .terms tx read]
  | .takeOverLocking tx row basket read =>
      [.found tx (some row.row), .scanned tx basket, .terms tx read]
  | .finalizeRecord tx _ row => [.found tx (some row.row)]
  | .reopenRecord tx row => [.found tx (some row.row)]
  | .sweeping _ _ swept => (Work.sweep swept).facts
  | .claiming _ _ _ claimed => (Work.claim claimed).facts
  | .committing work => work.facts
  | _ => []

/-- Every session's facts hold. -/
def Locked (server : Server) : Prop :=
  ∀ id session, server.sessions id = some session →
    ∀ fact ∈ session.phase.facts, fact.Holds server id

/-- A step leaves alone what a session has locked. -/
structure Spares (before after : Server) (id : SessionId) : Prop where
  rowOwner : ∀ tx, before.rowOwner tx = some id → after.rowOwner tx = some id
  row : ∀ tx, before.rowOwner tx = some id →
    after.db.transactions.lookup tx = before.db.transactions.lookup tx
  items : ∀ tx, before.rowOwner tx = some id → itemsOf after.db tx = itemsOf before.db tx
  terms : ∀ tx, before.rowOwner tx = some id →
    SameTerms (before.db.completions.lookup tx) (after.db.completions.lookup tx)
  recordOwner : ∀ tx, before.recordOwner tx = some id → after.recordOwner tx = some id
  record : ∀ tx, before.recordOwner tx = some id →
    after.db.completions.lookup tx = before.db.completions.lookup tx

theorem Fact.Holds.spared {before after : Server} {id : SessionId} {fact : Fact}
    (holds : fact.Holds before id) (spares : Spares before after id) : fact.Holds after id := by
  cases fact with
  | found tx row =>
      obtain ⟨owned, found⟩ := holds
      exact ⟨spares.rowOwner tx owned, (spares.row tx owned).trans found⟩
  | scanned tx basket =>
      obtain ⟨owned, read⟩ := holds
      refine ⟨spares.rowOwner tx owned, ?_⟩
      rw [getBasket_eq, spares.items tx owned, ← getBasket_eq]
      exact read
  | terms tx read =>
      obtain ⟨owned, same⟩ := holds
      exact ⟨spares.rowOwner tx owned, (spares.terms tx owned).trans same⟩
  | recorded tx record =>
      obtain ⟨owned, found⟩ := holds
      exact ⟨spares.recordOwner tx owned, (spares.record tx owned).trans found⟩

/-- Same database, and the session's locks are kept. -/
theorem Spares.of_db {before after : Server} {id : SessionId} (same : after.db = before.db)
    (rowOwner : ∀ tx, before.rowOwner tx = some id → after.rowOwner tx = some id)
    (recordOwner : ∀ tx, before.recordOwner tx = some id → after.recordOwner tx = some id) :
    Spares before after id where
  rowOwner := rowOwner
  row tx owned := by rw [same]
  items tx owned := by rw [same]
  terms tx owned := by
    rw [same]
    rfl
  recordOwner := recordOwner
  record tx owned := by rw [same]

section Statements

variable {server : Server} {id : SessionId} {now : Time}

/-- Where an effect leaves its session, the facts of the next phase hold. -/
def Effect.Keeps (server : Server) (id : SessionId) : Effect → Prop
  | .goto phase => ∀ fact ∈ phase.facts, fact.Holds server id
  | .lockRow tx phase => ∀ after, Spares server after id → after.rowOwner tx = some id →
      after.db = server.db →
      ∀ fact ∈ (phase (server.db.transactions.lookup tx)).facts, fact.Holds after id
  | .lockRecord tx phase => ∀ after, Spares server after id → after.recordOwner tx = some id →
      after.db = server.db →
      ∀ fact ∈ (phase (server.db.completions.lookup tx)).facts, fact.Holds after id
  | .tryLockRecord tx skipped phase =>
      (∀ fact ∈ skipped.facts, fact.Holds server id) ∧
      ∀ after, Spares server after id → after.recordOwner tx = some id → after.db = server.db →
        ∀ fact ∈ (phase (server.db.completions.lookup tx)).facts, fact.Holds after id
  | .rollback => True
  | .commit work => ∀ fact ∈ work.facts, fact.Holds server id

theorem row_of_guarded {status : TxStatus} {found : Option Transaction} {row : Guarded status}
    (passed : guarded status found = some row) : found = some row.row := by
  cases found with
  | none => contradiction
  | some latest =>
      simp only [guarded] at passed
      split at passed
      · cases passed
        rfl
      · contradiction

theorem record_of_live {found : Option Completion} {record : Completion}
    (passed : live found = some record) : found = some record :=
  (Option.filter_eq_some_iff.mp passed).1

section Granted

variable {after : Server} {tx : TxId} {status : TxStatus}

theorem found_of_granted {row : Guarded status} (owned : after.rowOwner tx = some id)
    (same : after.db = server.db)
    (passed : guarded status (server.db.transactions.lookup tx) = some row) :
    Fact.Holds after id (.found tx (some row.row)) :=
  ⟨owned, same ▸ row_of_guarded passed⟩

theorem recordFacts_of_granted {record : Option Completion}
    (owned : after.recordOwner tx = some id) (same : after.db = server.db)
    (latest : ∀ found, record = some found → server.db.completions.lookup tx = some found) :
    ∀ fact ∈ recordFacts tx record, fact.Holds after id := by
  intro fact member
  obtain ⟨found, listed, rfl⟩ := List.mem_map.mp member
  exact ⟨owned, same ▸ latest found (by simpa using listed)⟩

end Granted

/-- A statement finds the facts it goes on with: what it reads under a lock it has, and
what it finds when the lock it waited for is granted. -/
theorem effect_keeps {phase : Phase} (holds : ∀ fact ∈ phase.facts, fact.Holds server id) :
    (effect server.db now phase).Keeps server id := by
  have keeps : ∀ {after}, Spares server after id → ∀ fact ∈ phase.facts, fact.Holds after id :=
    fun spares fact member => (holds fact member).spared spares
  cases phase with
  | insert tx =>
      intro after spares owned same
      cases found : server.db.transactions.lookup tx with
      | none => simpa [Phase.facts, Work.facts, Fact.Holds, owned, same] using found
      | some row => simp [Phase.facts]
  | scan tx sku priceCents =>
      simp only [effect]
      split <;> simp [Effect.Keeps, Phase.facts, Work.facts]
  | scanLocking tx sku priceCents =>
      intro after spares owned same
      dsimp only
      split
      · simp [Phase.facts, Work.facts]
      · rename_i row passed
        exact List.forall_mem_singleton.mpr (found_of_granted owned same passed)
  | lockTransaction tx lease =>
      simp only [effect]
      split <;> simp [Effect.Keeps, Phase.facts]
  | locking tx lease =>
      intro after spares owned same
      cases found : server.db.transactions.lookup tx with
      | none => simp [Phase.facts]
      | some row => simpa [Phase.facts, Fact.Holds, owned, same] using found
  | getBasket tx lease row =>
      have read := holds _ List.mem_cons_self
      simp only [effect]
      split
      · trivial
      · trivial
      · split
        · trivial
        · simpa [Effect.Keeps, Phase.facts, Fact.Holds] using ⟨read, read.1⟩
      · simpa [Effect.Keeps, Phase.facts, Fact.Holds] using ⟨read, read.1⟩
  | markCompleting tx row basket =>
      intro after spares owned same
      refine List.forall_mem_append.mpr ⟨keeps spares, List.forall_mem_singleton.mpr ?_⟩
      exact ⟨owned, by rw [same]⟩
  | getCompletion tx lease row basket =>
      have read := holds _ List.mem_cons_self
      simp only [effect]
      split
      · trivial
      · rename_i record found
        split
        · simp [Effect.Keeps, Phase.facts, Work.facts]
        · split
          · trivial
          · simp only [Phase.facts, List.forall_mem_cons] at holds
            simpa [Effect.Keeps, Phase.facts, Fact.Holds, found, SameTerms, read.1] using
              holds
  | takeOver tx row basket read =>
      simp only [effect]
      split
      · simpa [Effect.Keeps, Phase.facts, Work.facts, recordFacts] using holds
      · exact holds
  | takeOverLocking tx row basket read =>
      intro after spares owned same
      exact List.forall_mem_append.mpr ⟨keeps spares,
        recordFacts_of_granted owned same (fun _ passed => record_of_live passed)⟩
  | setState tx state error release =>
      simp only [effect]
      split <;> simp [Effect.Keeps, Phase.facts, Work.facts, recordFacts]
  | setStateLocking tx state error release =>
      intro after spares owned same
      exact recordFacts_of_granted owned same (fun _ passed => record_of_live passed)
  | finalize tx totalCents =>
      simp only [effect]
      split <;> simp [Effect.Keeps, Phase.facts, Work.facts]
  | finalizeLocking tx totalCents found =>
      intro after spares owned same
      dsimp only
      split
      · simp [Phase.facts, Work.facts]
      · rename_i row passed
        have read := List.forall_mem_singleton.mpr (found_of_granted owned same passed)
        split
        · exact read
        · exact read
  | finalizeRecord tx totalCents row =>
      intro after spares owned same
      exact List.forall_mem_append.mpr ⟨keeps spares,
        recordFacts_of_granted owned same (fun _ found => found)⟩
  | reopen tx =>
      simp only [effect]
      split <;> simp [Effect.Keeps, Phase.facts, Work.facts]
  | reopenLocking tx found =>
      intro after spares owned same
      dsimp only
      split
      · simp [Phase.facts, Work.facts]
      · rename_i row passed
        have read := List.forall_mem_singleton.mpr (found_of_granted owned same passed)
        split
        · exact read
        · exact read
  | reopenRecord tx row =>
      intro after spares owned same
      exact List.forall_mem_append.mpr ⟨keeps spares,
        recordFacts_of_granted owned same (fun _ passed => record_of_live passed)⟩
  | sweep minutes => simp [effect, Effect.Keeps, Phase.facts, Work.facts]
  | sweeping minutes waiting swept =>
      cases waiting with
      | nil => exact holds
      | cons tx waiting =>
          intro after spares owned same
          have kept := keeps spares
          dsimp only
          split
          · exact kept
          · rename_i row passed
            split
            · simp only [Phase.facts, Work.facts, List.map_append, List.forall_mem_append]
              exact ⟨kept, List.forall_mem_singleton.mpr (found_of_granted owned same passed)⟩
            · exact kept
  | claim lease limit => simp [effect, Effect.Keeps, Phase.facts, Work.facts]
  | claiming lease limit waiting claimed =>
      cases waiting with
      | nil => exact holds
      | cons tx waiting =>
          simp only [effect]
          split
          · refine ⟨holds, fun after spares owned same => ?_⟩
            have kept := keeps spares
            dsimp only
            split
            · exact kept
            · rename_i record passed
              simp only [Phase.facts, Work.facts, List.map_append, List.forall_mem_append]
              refine ⟨kept, ?_⟩
              simpa [Fact.Holds, owned, same] using (Option.filter_eq_some_iff.mp passed).1
          · exact holds
  | committing work => exact holds
  | raising => trivial

end Statements

theorem lookup_putAll {Value : Type} (table : Table TxId Value) (rows : List (TxId × Value))
    (tx : TxId) :
    (putAll table rows).lookup tx = table.lookup tx ∨
      ∃ value, (tx, value) ∈ rows ∧ (putAll table rows).lookup tx = some value := by
  induction rows generalizing table with
  | nil => exact .inl rfl
  | cons row rows ih =>
      rcases ih (table.put row.1 row.2) with same | ⟨value, member, found⟩
      · by_cases here : tx = row.1
        · subst here
          refine .inr ⟨row.2, List.mem_cons_self, ?_⟩
          exact same.trans (Table.lookup_put_self _ _ _)
        · exact .inl (same.trans (Table.lookup_put_of_ne _ _ here))
      · exact .inr ⟨value, List.mem_cons_of_mem _ member, found⟩

@[simp] theorem putAll_nil {Value : Type} (table : Table TxId Value) : putAll table [] = table := rfl

@[simp] theorem putAll_single {Value : Type} (table : Table TxId Value) (tx : TxId)
    (value : Value) : putAll table [(tx, value)] = table.put tx value := rfl

theorem itemsOf_applyWrites (db : Database) (writes : Writes) (tx : TxId) :
    itemsOf (applyWrites db writes) tx =
      itemsOf db tx ++ writes.items.filter (fun item => decide (item.transactionId = tx)) :=
  List.filter_append _ _

section Writes

variable {work : Work} {now : Time} {tx : TxId}

theorem mem_written {record : Option Completion} {change : Completion → Completion}
    {other : TxId} {new : Completion} (member : (other, new) ∈ written tx record change) :
    other = tx ∧ ∃ old, record = some old ∧ new = change old := by
  obtain ⟨old, found, same⟩ := List.mem_map.mp member
  cases same
  exact ⟨rfl, old, by simpa using found, rfl⟩

theorem mem_recordFacts {record : Option Completion} {old : Completion}
    (found : record = some old) : .recorded tx (some old) ∈ recordFacts tx record := by
  subst found
  exact List.mem_singleton.mpr rfl

/-- A transaction writes rows it has locked and read, ... -/
theorem found_of_row {row : Transaction} (member : (tx, row) ∈ (work.writes now).rows) :
    ∃ found, .found tx found ∈ work.facts := by
  cases work with
  | insert tx =>
      cases List.mem_singleton.mp member
      exact ⟨_, List.mem_cons_self⟩
  | scan tx row sku priceCents =>
      cases List.mem_singleton.mp member
      exact ⟨_, List.mem_cons_self⟩
  | markCompleting tx row basket record =>
      cases List.mem_singleton.mp member
      exact ⟨_, List.mem_cons_self⟩
  | finalize tx row totalCents record =>
      cases List.mem_singleton.mp member
      exact ⟨_, List.mem_cons_self⟩
  | reopen tx row record =>
      cases List.mem_singleton.mp member
      exact ⟨_, List.mem_cons_self⟩
  | sweep rows =>
      obtain ⟨swept, listed, same⟩ := List.mem_map.mp member
      cases same
      exact ⟨_, List.mem_map.mpr ⟨swept, listed, rfl⟩⟩
  | nothing => contradiction
  | takeOver tx row basket read record => contradiction
  | setState tx state error release record => contradiction
  | claim records => contradiction

/-- ... items of such a row, ... -/
theorem found_of_item {item : TransactionItem} (member : item ∈ (work.writes now).items) :
    ∃ found, .found item.transactionId found ∈ work.facts := by
  cases work with
  | scan tx row sku priceCents =>
      cases List.mem_singleton.mp member
      exact ⟨_, List.mem_cons_self⟩
  | _ => contradiction

/-- ... and records it has locked, which stay of their attempt unless the row is its own. -/
theorem recorded_of_record {new : Completion} (member : (tx, new) ∈ (work.writes now).records) :
    ∃ record, .recorded tx record ∈ work.facts ∧
      (SameTerms record (some new) ∨ ∃ found, .found tx found ∈ work.facts) := by
  cases work with
  | markCompleting tx row basket record =>
      cases List.mem_singleton.mp member
      exact ⟨record, by simp [Work.facts], .inr ⟨_, List.mem_cons_self⟩⟩
  | takeOver tx row basket read record =>
      obtain ⟨rfl, old, found, rfl⟩ := mem_written member
      exact ⟨some old, by simp [Work.facts, mem_recordFacts found], .inl rfl⟩
  | setState tx state error release record =>
      obtain ⟨rfl, old, found, rfl⟩ := mem_written member
      exact ⟨some old, mem_recordFacts found, .inl rfl⟩
  | finalize tx row totalCents record =>
      obtain ⟨rfl, old, found, rfl⟩ := mem_written member
      exact ⟨some old, by simp [Work.facts, mem_recordFacts found], .inl rfl⟩
  | reopen tx row record =>
      obtain ⟨rfl, old, found, rfl⟩ := mem_written member
      exact ⟨some old, by simp [Work.facts, mem_recordFacts found], .inl rfl⟩
  | claim records =>
      obtain ⟨claimed, listed, same⟩ := List.mem_map.mp member
      cases same
      exact ⟨some claimed.2, List.mem_map.mpr ⟨claimed, listed, rfl⟩, .inl rfl⟩
  | nothing => contradiction
  | insert tx => contradiction
  | scan tx row sku priceCents => contradiction
  | sweep rows => contradiction

end Writes

section Steps

variable {server after : Server} {id other : SessionId}

/-- A commit leaves alone what other sessions have locked. -/
theorem spares_commit {work : Work} (now : Time) (begun : List Begun)
    (holds : ∀ fact ∈ work.facts, fact.Holds server id) (different : other ≠ id) :
    Spares server
      { server.finish id with db := applyWrites server.db (work.writes now), begun } other := by
  have notOwn : ∀ {tx found}, server.rowOwner tx = some other → .found tx found ∉ work.facts := by
    intro tx found owned member
    have own := (holds _ member).1
    rw [owned] at own
    exact different (Option.some.inj own)
  refine
    { rowOwner := fun tx owned => held_released.mpr ⟨owned, different⟩
      row := fun tx owned => ?_
      items := fun tx owned => ?_
      terms := fun tx owned => ?_
      recordOwner := fun tx owned => held_released.mpr ⟨owned, different⟩
      record := fun tx owned => ?_ }
  · rcases lookup_putAll server.db.transactions (work.writes now).rows tx with
      same | ⟨row, member, _⟩
    · exact same
    · obtain ⟨found, listed⟩ := found_of_row member
      exact absurd listed (notOwn owned)
  · rw [itemsOf_applyWrites, List.append_right_eq_self, List.filter_eq_nil_iff]
    intro item member own
    obtain ⟨found, listed⟩ := found_of_item member
    rw [of_decide_eq_true own] at listed
    exact notOwn owned listed
  · rcases lookup_putAll server.db.completions (work.writes now).records tx with
      same | ⟨new, member, found⟩
    · exact congrArg _ same
    · obtain ⟨record, listed, kept | ⟨row, own⟩⟩ := recorded_of_record member
      · rw [(holds _ listed).2]
        exact (congrArg _ found).trans kept
      · exact absurd own (notOwn owned)
  · rcases lookup_putAll server.db.completions (work.writes now).records tx with
      same | ⟨new, member, _⟩
    · exact same
    · obtain ⟨record, listed, _⟩ := recorded_of_record member
      have own := (holds _ listed).1
      rw [owned] at own
      exact absurd (Option.some.inj own) different

theorem spares_finish (different : other ≠ id) : Spares server (server.finish id) other :=
  .of_db rfl (fun _ owned => held_released.mpr ⟨owned, different⟩)
    (fun _ owned => held_released.mpr ⟨owned, different⟩)

theorem spares_setPhase (session : Session) (phase : Phase) (any : SessionId) :
    Spares server (server.setPhase id session phase) any :=
  .of_db rfl (fun _ owned => owned) (fun _ owned => owned)

/-- A lock is granted where nobody holds it. -/
theorem spares_rowOwner {sessions : SessionId → Option Session} {tx : TxId}
    (free : server.rowOwner tx = none) (any : SessionId) :
    Spares server
      { server with sessions, rowOwner := Function.update server.rowOwner tx (some id) } any :=
  .of_db rfl (fun _ owned => held_after_grant free owned) (fun _ owned => owned)

theorem spares_recordOwner {sessions : SessionId → Option Session} {tx : TxId}
    (free : server.recordOwner tx = none) (any : SessionId) :
    Spares server
      { server with sessions, recordOwner := Function.update server.recordOwner tx (some id) }
      any :=
  .of_db rfl (fun _ owned => owned) (fun _ owned => held_after_grant free owned)

/-- A step of one session keeps the facts of all: the others' are spared. -/
theorem Locked.next (locked : Locked server) {next : Option Session}
    (sessions : after.sessions = Function.update server.sessions id next)
    (spares : ∀ other, other ≠ id → Spares server after other)
    (own : ∀ session, next = some session → ∀ fact ∈ session.phase.facts, fact.Holds after id) :
    Locked after := by
  intro other session found
  rw [sessions] at found
  by_cases here : other = id
  · subst here
    rw [Function.update_self] at found
    exact own session found
  · rw [Function.update_of_ne here] at found
    exact fun fact member => (locked other session found fact member).spared (spares other here)

theorem Locked.performs (locked : Locked server) {session : Session}
    (running : server.sessions id = some session)
    (done : server.perform id session (effect server.db session.now session.phase) = some after) :
    Locked after := by
  have keeps : (effect server.db session.now session.phase).Keeps server id :=
    effect_keeps (locked id session running)
  generalize effect server.db session.now session.phase = next at done keeps
  cases next with
  | goto phase =>
      cases done
      refine locked.next rfl (fun other _ => spares_setPhase session phase other) ?_
      rintro _ ⟨⟩ fact member
      exact (keeps fact member).spared (spares_setPhase _ _ _)
  | lockRow tx phase =>
      simp only [Server.perform] at done
      split at done
      · contradiction
      · rename_i free
        cases done
        refine locked.next rfl (fun other _ => spares_rowOwner free other) ?_
        rintro _ ⟨⟩
        exact keeps _ (spares_rowOwner free _) (Function.update_self ..) rfl
  | lockRecord tx phase =>
      simp only [Server.perform] at done
      split at done
      · contradiction
      · rename_i free
        cases done
        refine locked.next rfl (fun other _ => spares_recordOwner free other) ?_
        rintro _ ⟨⟩
        exact keeps _ (spares_recordOwner free _) (Function.update_self ..) rfl
  | tryLockRecord tx skipped phase =>
      simp only [Server.perform] at done
      split at done
      · cases done
        refine locked.next rfl (fun other _ => spares_setPhase session skipped other) ?_
        rintro _ ⟨⟩ fact member
        exact (keeps.1 fact member).spared (spares_setPhase _ _ _)
      · rename_i free
        cases done
        refine locked.next rfl (fun other _ => spares_recordOwner free other) ?_
        rintro _ ⟨⟩
        exact keeps.2 _ (spares_recordOwner free _) (Function.update_self ..) rfl
  | rollback =>
      cases done
      refine locked.next rfl (fun other different => spares_finish different) ?_
      intro session ended
      contradiction
  | commit work =>
      cases done
      refine locked.next rfl (fun other different => spares_commit _ _ keeps different) ?_
      intro session ended
      contradiction

theorem facts_call (call : Call) : call.phase.facts = [] := by
  cases call with
  | start path tx => cases path <;> rfl
  | scan path tx sku priceCents => cases path <;> rfl
  | _ => rfl

/-- Step lemma: what the sessions know of their locked rows stays true. -/
theorem Locked.step {action : Action} (locked : Locked server)
    (taken : Sessions.step server action = some after) : Locked after := by
  cases step_takes taken with
  | begins free =>
      refine locked.next rfl (fun other _ => ?_) ?_
      · exact .of_db rfl (fun _ owned => owned) (fun _ owned => owned)
      · rintro _ ⟨⟩ fact member
        rw [facts_call] at member
        contradiction
  | proceeds running done => exact locked.performs running done
  | aborts running =>
      refine locked.next rfl (fun other different => spares_finish different) ?_
      intro session ended
      contradiction

end Steps

section Commits

variable {server : Server} {id : SessionId} {work : Work}

theorem billOf_applyWrites (db : Database) (writes : Writes) (tx : TxId) :
    billOf (applyWrites db writes) tx =
      ⟨(putAll db.transactions writes.rows).lookup tx,
        itemsOf db tx ++ writes.items.filter (fun item => decide (item.transactionId = tx)),
        (putAll db.completions writes.records).lookup tx⟩ := by
  rw [billOf, itemsOf_applyWrites]
  rfl

/-- A statement that changes its record's state leaves its terms. -/
theorem terms_written {own : TxId} {record : Option Completion} {change : Completion → Completion}
    (holds : ∀ fact ∈ recordFacts own record, fact.Holds server id)
    (keeps : ∀ old, SameTerms (some old) (some (change old))) (tx : TxId) :
    SameTerms (server.db.completions.lookup tx)
      ((putAll server.db.completions (written own record change)).lookup tx) := by
  rcases lookup_putAll server.db.completions (written own record change) tx with
    same | ⟨new, member, found⟩
  · exact congrArg _ same
  · obtain ⟨rfl, old, rfl, rfl⟩ := mem_written member
    rw [(holds _ (mem_recordFacts rfl)).2, found]
    exact keeps old

/-- Each commit does to every bill what one of `Bills` does. -/
theorem bills_commit (now : Time) (holds : ∀ fact ∈ work.facts, fact.Holds server id)
    (tx : TxId) :
    Bills (fun _ => True) (billOf server.db tx)
      (billOf (applyWrites server.db (work.writes now)) tx) := by
  rw [billOf_applyWrites]
  cases work with
  | nothing =>
      simp only [Work.writes, putAll_nil, List.filter_nil, List.append_nil]
      exact .same _
  | insert own =>
      have absent := (holds _ List.mem_cons_self).2
      simp only [Work.writes, putAll_nil, putAll_single, List.filter_nil, List.append_nil,
        Table.lookup_put]
      split
      · rename_i here
        subst here
        rw [billOf, absent]
        exact .inserted rfl rfl rfl
      · exact .same _
  | scan own row sku priceCents =>
      have found := (holds _ List.mem_cons_self).2
      simp only [Work.writes, putAll_nil, putAll_single, Table.lookup_put]
      split
      · rename_i here
        subst here
        rw [billOf, found, List.filter_cons_of_pos (by simp)]
        exact .scanned row.checked
      · rename_i elsewhere
        rw [List.filter_cons_of_neg (by simpa using Ne.symm elsewhere)]
        simp only [List.filter_nil, List.append_nil]
        exact .same _
  | markCompleting own row basket record =>
      simp only [Work.facts, List.cons_append, List.nil_append, List.forall_mem_cons] at holds
      obtain ⟨⟨_, found⟩, ⟨_, scanned⟩, ⟨_, recorded⟩, _⟩ := holds
      simp only [Work.writes, putAll_single, List.filter_nil, List.append_nil, Table.lookup_put]
      split
      · rename_i here
        subst here
        rw [billOf, found, recorded]
        refine .started row.checked rfl ?_
        rw [reserving, ← scanned, getBasket_eq, totalOf_basketOf]
      · exact .same _
  | takeOver own row basket read record =>
      simp only [Work.facts, List.cons_append, List.nil_append, List.forall_mem_cons] at holds
      simp only [Work.writes, putAll_nil, List.filter_nil, List.append_nil]
      exact .stays (terms_written holds.2.2.2 (fun _ => by rfl) tx)
  | setState own state error release record =>
      simp only [Work.writes, putAll_nil, List.filter_nil, List.append_nil]
      exact .stays (terms_written holds (fun _ => by rfl) tx)
  | finalize own row totalCents record =>
      simp only [Work.facts, List.cons_append, List.nil_append, List.forall_mem_cons] at holds
      simp only [Work.writes, putAll_single, List.filter_nil, List.append_nil, Table.lookup_put]
      split
      · rename_i here
        subst here
        rw [billOf, holds.1.2]
        exact .finalized row.checked trivial (terms_written holds.2 (fun _ => by rfl) tx)
      · exact .stays (terms_written holds.2 (fun _ => by rfl) tx)
  | reopen own row record =>
      simp only [Work.facts, List.cons_append, List.nil_append, List.forall_mem_cons] at holds
      simp only [Work.writes, putAll_single, List.filter_nil, List.append_nil, Table.lookup_put]
      split
      · rename_i here
        subst here
        rw [billOf, holds.1.2]
        exact .lapsed (.inr ⟨row.checked, rfl⟩) (terms_written holds.2 (fun _ => by rfl) tx)
      · exact .stays (terms_written holds.2 (fun _ => by rfl) tx)
  | sweep rows =>
      simp only [Work.writes, putAll_nil, List.filter_nil, List.append_nil]
      rcases lookup_putAll server.db.transactions _ tx with same | ⟨_, member, written⟩
      · rw [same]
        exact .same _
      · obtain ⟨swept, listed, same⟩ := List.mem_map.mp member
        cases same
        have found := (holds _ (List.mem_map.mpr ⟨swept, listed, rfl⟩)).2
        rw [written, billOf, found]
        exact .lapsed (.inl ⟨swept.2.checked, rfl⟩) rfl
  | claim records =>
      simp only [Work.writes, putAll_nil, List.filter_nil, List.append_nil]
      refine .stays ?_
      rcases lookup_putAll server.db.completions _ tx with same | ⟨_, member, written⟩
      · exact congrArg _ same
      · obtain ⟨claimed, listed, same⟩ := List.mem_map.mp member
        cases same
        have found := (holds _ (List.mem_map.mpr ⟨claimed, listed, rfl⟩)).2
        rw [written, found]
        rfl

/-- The transaction is in the attempt that `begun` is of, with the basket it read. -/
structure Begun.Stands (begun : Begun) (bill : Bill) : Prop where
  fixed : bill.Fixed
  basket : basketOf bill.items = begun.basket
  attempt : ∃ record, bill.record = some record ∧ record.epoch = begun.epoch

theorem stands_commit {now : Time} {begun : Begun}
    (holds : ∀ fact ∈ work.facts, fact.Holds server id)
    (began : (work.writes now).begun = some begun) :
    begun.Stands (billOf (applyWrites server.db (work.writes now)) begun.transactionId) := by
  rw [billOf_applyWrites]
  cases work with
  | markCompleting tx row basket record =>
      cases began
      simp only [Work.facts, List.cons_append, List.nil_append, List.forall_mem_cons] at holds
      obtain ⟨⟨_, found⟩, ⟨_, scanned⟩, ⟨_, recorded⟩, _⟩ := holds
      simp only [Work.writes, putAll_single, List.filter_nil, List.append_nil,
        Table.lookup_put_self]
      exact
        { fixed := ⟨_, rfl, .inl rfl⟩
          basket := by rw [← getBasket_eq, scanned]
          attempt := ⟨_, rfl, rfl⟩ }
  | takeOver tx row basket read record =>
      cases began
      simp only [Work.facts, List.cons_append, List.nil_append, List.forall_mem_cons] at holds
      obtain ⟨⟨_, found⟩, ⟨_, scanned⟩, ⟨_, terms⟩, recorded⟩ := holds
      simp only [Work.writes, putAll_nil, List.filter_nil, List.append_nil]
      have kept : SameTerms (some read) ((putAll server.db.completions
          (written tx record (fun record => withState record read.state none now))).lookup tx) :=
        (terms_written recorded (fun _ => by rfl) tx).trans terms
      obtain ⟨new, foundNew, epoch, _⟩ := kept.found rfl
      exact
        { fixed := ⟨row.row, found, .inl row.checked⟩
          basket := by rw [← getBasket_eq, scanned]
          attempt := ⟨new, foundNew, epoch⟩ }
  | _ => contradiction

/-- It stands until the transaction is reopened. -/
theorem Begun.Stands.kept {Charges : Nat → Prop} {before after : Bill} {begun : Begun}
    (stands : begun.Stands before) (bills : Bills Charges before after) :
    begun.Stands after ∨ ∃ row, after.row = some row ∧ row.status = .opened := by
  obtain ⟨fixed, basket, record, found, epoch⟩ := stands
  cases bills with
  | stays same =>
      obtain ⟨new, foundNew, sameEpoch, _⟩ := same.found found
      exact .inl ⟨fixed, basket, new, foundNew, sameEpoch.trans epoch⟩
  | inserted isOpen count total =>
      obtain ⟨row, none, _⟩ := fixed
      contradiction
  | scanned isOpen => exact absurd fixed (Bill.not_fixed_of_opened isOpen rfl)
  | started isOpen next total => exact absurd fixed (Bill.not_fixed_of_opened isOpen rfl)
  | lapsed lapses same =>
      rcases lapses with ⟨isOpen, _⟩ | ⟨_, rfl⟩
      · exact absurd fixed (Bill.not_fixed_of_opened isOpen rfl)
      · exact .inr ⟨_, rfl, rfl⟩
  | finalized wasCompleting charges same =>
      obtain ⟨new, foundNew, sameEpoch, _⟩ := same.found found
      exact .inl ⟨⟨_, rfl, .inr rfl⟩, basket, new, foundNew, sameEpoch.trans epoch⟩

theorem Begun.Stands.knows {begun : Begun} {bill : Bill} (stands : begun.Stands bill) :
    bill.Knows begun.epoch (fun items => linesOf (basketOf items) = linesOf begun.basket) := by
  obtain ⟨record, found, epoch⟩ := stands.attempt
  exact ⟨record, found, epoch.ge, fun _ _ => congrArg linesOf stands.basket⟩

theorem Begun.Stands.holds {begun : Begun} {bill : Bill} {holds : List TransactionItem → Prop}
    (stands : begun.Stands bill) (known : bill.Knows begun.epoch holds) : holds bill.items := by
  obtain ⟨record, found, epoch⟩ := stands.attempt
  obtain ⟨other, foundOther, _, facts⟩ := known
  cases found.symm.trans foundOther
  exact facts epoch.symm stands.fixed

/-- A reservation request is queued by the `_begin` that returns it. -/
theorem request_of_queued {now : Time} {attempt : Attempt} {lines : List (Sku × Nat)}
    (queued : .stockReservationRequested attempt lines ∈ (work.writes now).requests) :
    ∃ begun, (work.writes now).begun = some begun ∧
      begun.request = .stockReservationRequested attempt lines := by
  cases work with
  | markCompleting tx row basket record =>
      exact ⟨_, rfl, (List.mem_singleton.mp queued).symm⟩
  | setState tx state error release record =>
      obtain ⟨epoch, _, same⟩ := List.mem_map.mp queued
      contradiction
  | _ => contradiction

end Commits

/-- The requests queued or asked for by drivers, a take-over's among them. -/
def Server.requests (server : Server) : List Request :=
  server.db.outbox ++ server.begun.map Begun.request

structure Sound (server : Server) : Prop where
  locked : Locked server
  exact : ∀ tx, (billOf server.db tx).Exact
  known : ∀ attempt lines, .stockReservationRequested attempt lines ∈ server.requests →
    (billOf server.db attempt.transactionId).Knows attempt.epoch
      (fun items => linesOf (basketOf items) = lines)
  agreed : ∀ attempt lines others, .stockReservationRequested attempt lines ∈ server.requests →
    .stockReservationRequested attempt others ∈ server.requests → lines = others

theorem sound_idle : Sound (idle emptyDatabase) where
  locked id session running := by contradiction
  exact tx := ⟨fun _ => rfl, fun _ found => by contradiction, fun _ found => by contradiction⟩
  known attempt lines member := by contradiction
  agreed attempt lines others member _ := by contradiction

section Runs

variable {server after : Server} {action : Action}

/-- A step leaves the database alone or commits what its session holds the locks for. -/
theorem Locked.commits (locked : Locked server) (taken : Sessions.step server action = some after) :
    after.db = server.db ∧ after.begun = server.begun ∨
    ∃ id now work, (∀ fact ∈ Work.facts work, fact.Holds server id) ∧
      after.db = applyWrites server.db (work.writes now) ∧
      after.begun = server.begun ++ (work.writes now).begun.toList := by
  cases step_takes taken with
  | begins free => exact .inl ⟨rfl, rfl⟩
  | aborts running => exact .inl ⟨rfl, rfl⟩
  | @proceeds id session _ running done =>
      have keeps : (effect server.db session.now session.phase).Keeps server id :=
        effect_keeps (locked id session running)
      rcases perform_db done with quiet | ⟨work, commits, writes⟩
      · exact .inl quiet
      · rw [commits] at keeps
        exact .inr ⟨id, session.now, work, keeps, writes⟩

theorem Locked.bills (locked : Locked server) (taken : Sessions.step server action = some after)
    (tx : TxId) : Bills (fun _ => True) (billOf server.db tx) (billOf after.db tx) := by
  rcases locked.commits taken with ⟨same, _⟩ | ⟨id, now, work, holds, same, _⟩
  · rw [same]
    exact .same _
  · rw [same]
    exact bills_commit now holds tx

/-- What a committed `_begin` returns stands. -/
theorem Locked.begins (locked : Locked server) (taken : Sessions.step server action = some after)
    {begun : Begun} (returned : after.begun = server.begun ++ [begun]) :
    begun.Stands (billOf after.db begun.transactionId) := by
  rcases locked.commits taken with ⟨_, same⟩ | ⟨id, now, work, holds, same, also⟩
  · rw [same] at returned
    simp at returned
  · rw [also, List.append_cancel_left_eq] at returned
    rw [same]
    exact stands_commit holds (by simpa using returned)

/-- A new reservation request is of a `_begin` that stands. -/
theorem Locked.requests (locked : Locked server) (taken : Sessions.step server action = some after)
    {attempt : Attempt} {lines : List (Sku × Nat)}
    (member : .stockReservationRequested attempt lines ∈ after.requests) :
    .stockReservationRequested attempt lines ∈ server.requests ∨
      ∃ begun : Begun, begun.Stands (billOf after.db attempt.transactionId) ∧
        begun.epoch = attempt.epoch ∧ linesOf begun.basket = lines := by
  rcases locked.commits taken with ⟨same, also⟩ | ⟨id, now, work, holds, same, also⟩
  · rw [Server.requests, same, also] at member
    exact .inl member
  · have fresh : ∀ begun, (work.writes now).begun = some begun →
        begun.request = .stockReservationRequested attempt lines →
        ∃ begun : Begun, begun.Stands (billOf after.db attempt.transactionId) ∧
          begun.epoch = attempt.epoch ∧ linesOf begun.basket = lines := by
      intro begun began asks
      have stands := stands_commit holds began
      cases asks
      rw [same]
      exact ⟨begun, stands, rfl, rfl⟩
    rw [Server.requests, same, also, List.map_append] at member
    simp only [applyWrites, List.mem_append] at member
    rcases member with (old | queued) | (old | asked)
    · exact .inl (List.mem_append_left _ old)
    · obtain ⟨begun, began, asks⟩ := request_of_queued queued
      exact .inr (fresh begun began asks)
    · exact .inl (List.mem_append_right _ old)
    · obtain ⟨begun, began, asks⟩ := List.mem_map.mp asked
      exact .inr (fresh begun (by simpa using began) asks)

/-- Step lemma. -/
theorem Sound.step (sound : Sound server) (taken : Sessions.step server action = some after) :
    Sound after := by
  have known : ∀ attempt lines, .stockReservationRequested attempt lines ∈ after.requests →
      (billOf after.db attempt.transactionId).Knows attempt.epoch
        (fun items => linesOf (basketOf items) = lines) := by
    intro attempt lines member
    rcases sound.locked.requests taken member with old | ⟨begun, stands, epoch, same⟩
    · exact (sound.locked.bills taken _).knows (sound.known attempt lines old)
    · exact epoch ▸ same ▸ stands.knows
  refine
    { locked := sound.locked.step taken
      exact := fun tx => (sound.locked.bills taken tx).exact (sound.exact tx)
      known := known
      agreed := fun attempt lines others one other => ?_ }
  -- where one of the two is new, both are what the items come to
  have together : ∀ {begun : Begun}, begun.Stands (billOf after.db attempt.transactionId) →
      begun.epoch = attempt.epoch → lines = others := by
    intro begun stands epoch
    have first := stands.holds (epoch ▸ known attempt lines one)
    exact first.symm.trans (stands.holds (epoch ▸ known attempt others other))
  rcases sound.locked.requests taken one with old | ⟨begun, stands, epoch, _⟩
  · rcases sound.locked.requests taken other with oldToo | ⟨begun, stands, epoch, _⟩
    · exact sound.agreed attempt lines others old oldToo
    · exact together stands epoch
  · exact together stands epoch

theorem Sound.of_run {actions : List Action}
    (run : Run Sessions.step Any (idle emptyDatabase) actions server) : Sound server :=
  run.invariant sound_idle (fun _ _ _ sound _ taken => sound.step taken)

/-- The step does not leave the transaction OPEN. -/
def StaysClosed (tx : TxId) (server : Server) (action : Action) : Prop :=
  ∀ after row, step server action = some after →
    after.db.transactions.lookup tx = some row → row.status ≠ .opened

/-- The transaction is in the attempt of `begun`, with the items it then had. -/
structure Frozen (begun : Begun) (items : List TransactionItem) (server : Server) : Prop
    extends Sound server where
  stands : begun.Stands (billOf server.db begun.transactionId)
  same : itemsOf server.db begun.transactionId = items

theorem Frozen.step {begun : Begun} {items : List TransactionItem}
    (frozen : Frozen begun items server) (closed : StaysClosed begun.transactionId server action)
    (taken : Sessions.step server action = some after) : Frozen begun items after := by
  have bills := frozen.locked.bills taken begun.transactionId
  refine
    { toSound := frozen.toSound.step taken
      stands := ?_
      same := ?_ }
  · rcases frozen.stands.kept bills with stands | ⟨row, found, isOpen⟩
    · exact stands
    · exact absurd isOpen (closed after row taken found)
  · refine Eq.trans ?_ frozen.same
    by_contra changed
    obtain ⟨row, _, found, isOpen, _⟩ := bills.opened_of_items changed
    exact Bill.not_fixed_of_opened isOpen found frozen.stands.fixed

/-- In every committed state the running figures are those of the item rows, which change
while their transaction is OPEN only.  From its commit until a reopening, what `_begin` read
is what the item rows are, so the reservation requests of one attempt carry the same lines. -/
theorem ledger_exact_and_frozen {actions : List Action}
    (run : Run Sessions.step Any (idle emptyDatabase) actions server) :
    (∀ tx row, server.db.transactions.lookup tx = some row →
      row.itemCount = (itemsOf server.db tx).length ∧
        row.runningTotalCents =
          ((itemsOf server.db tx).map TransactionItem.unitPriceCents).sum) ∧
    (∀ action after tx, Sessions.step server action = some after →
      itemsOf after.db tx ≠ itemsOf server.db tx →
      ∃ row rowAfter, server.db.transactions.lookup tx = some row ∧ row.status = .opened ∧
        after.db.transactions.lookup tx = some rowAfter ∧ rowAfter.status = .opened) ∧
    (∀ action after begun later final, Sessions.step server action = some after →
      after.begun = server.begun ++ [begun] →
      Run Sessions.step (StaysClosed begun.transactionId) after later final →
      itemsOf final.db begun.transactionId = itemsOf after.db begun.transactionId ∧
        getBasket final.db begun.transactionId = begun.basket ∧
        linesOf begun.basket =
          merge ((itemsOf final.db begun.transactionId).map (fun item => (item.sku, 1)))) ∧
    ∀ attempt lines others, .stockReservationRequested attempt lines ∈ server.requests →
      .stockReservationRequested attempt others ∈ server.requests → lines = others := by
  have sound := Sound.of_run run
  refine ⟨fun tx row found => ?_, fun action after tx taken changed => ?_, ?_, sound.agreed⟩
  · exact ⟨(sound.exact tx).count row found, (sound.exact tx).total row found⟩
  · exact (sound.locked.bills taken tx).opened_of_items changed
  · intro action after begun later final taken returned rest
    have commits : Frozen begun (itemsOf after.db begun.transactionId) after :=
      { toSound := sound.step taken
        stands := sound.locked.begins taken returned
        same := rfl }
    have frozen := rest.invariant commits
      (fun _ _ _ frozen closed taken => frozen.step closed taken)
    have basket : getBasket final.db begun.transactionId = begun.basket := frozen.stands.basket
    refine ⟨frozen.same, basket, ?_⟩
    rw [← basket, getBasket_eq, linesOf_basketOf]

end Runs

/-- A scan by asyncpg finds its transaction OPEN and waits while `_begin` completes it.  A
later `_begin` takes over, and the transaction is finalized. -/
def lateScan : List Action :=
  [.begin 0 0 (.start .fast 1), .proceed 0, .proceed 0,
    .begin 0 1 (.scan .session 1 "SKU-000002" 300), .proceed 0, .proceed 0, .proceed 0,
    .begin 0 2 (.scan .fast 1 "SKU-000001" 250), .proceed 0, .proceed 0, .proceed 0,
    .begin 1 10 (.begin 1 60), .proceed 1, .proceed 1,
    .begin 2 10 (.scan .fast 1 "SKU-000003" 100), .proceed 2,
    .proceed 1, .proceed 1, .proceed 1,
    .proceed 2, .proceed 2,
    .begin 3 80 (.begin 1 60), .proceed 3, .proceed 3, .proceed 3, .proceed 3, .proceed 3,
    .proceed 3, .proceed 3,
    .begin 4 90 (.finalize 1 550), .proceed 4, .proceed 4, .proceed 4, .proceed 4]

theorem lateScan_runs : (lateScan.foldlM step (idle emptyDatabase)).isSome = true := by
  decide +kernel

theorem ledger_exact_and_frozen_lateScan :
    let server := (lateScan.foldlM step (idle emptyDatabase)).get lateScan_runs
    (∀ row, server.db.transactions.lookup 1 = some row →
      row.itemCount = (itemsOf server.db 1).length ∧
        row.runningTotalCents =
          ((itemsOf server.db 1).map TransactionItem.unitPriceCents).sum) ∧
    ∀ lines others, .stockReservationRequested ⟨1, 1⟩ lines ∈ server.requests →
      .stockReservationRequested ⟨1, 1⟩ others ∈ server.requests → lines = others :=
  have ledger := ledger_exact_and_frozen (.of_foldlM (Option.some_get lateScan_runs).symm)
  ⟨fun row => ledger.1 1 row, fun lines others => ledger.2.2.2 ⟨1, 1⟩ lines others⟩

/-- The third scan waits for the lock, and inserts nothing once it has it. -/
example :
    let server := (lateScan.foldlM step (idle emptyDatabase)).get lateScan_runs
    ((lateScan.take 16).foldlM step (idle emptyDatabase)).isSome = true ∧
      ((lateScan.take 16 ++ [Action.proceed 2]).foldlM step (idle emptyDatabase)).isNone = true ∧
      (itemsOf server.db 1).map TransactionItem.sku = ["SKU-000002", "SKU-000001"] ∧
      server.requests = List.replicate 3 (.stockReservationRequested ⟨1, 1⟩
        [("SKU-000001", 1), ("SKU-000002", 1)]) := by
  decide +kernel

end SelfCheckout.Checkout.Sessions
