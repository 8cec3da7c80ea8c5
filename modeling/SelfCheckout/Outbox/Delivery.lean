import SelfCheckout.Outbox.Machine

namespace SelfCheckout.Outbox

open SelfCheckout.Data

/-! # No event is lost and none is invented

A committed row leaves the table only after it was marked, and it is marked only
after its event was stored.
-/

variable {Db Work Payload : Type}

/-- Every row ever committed is in the table and unpublished, or its event is on
the topic. -/
def NothingLost (state : State Db Work Payload) : Prop :=
  ∀ envelope ∈ state.committed,
    (∃ row ∈ state.rows, row.envelope = envelope ∧ row.publishedAt = none) ∨
      envelope ∈ state.stored

/-- The table against the rows ever committed and the events stored. -/
structure RowsKept (committed stored : List (Envelope Payload)) (rows : List (Row Payload)) :
    Prop where
  ofRow : ∀ row ∈ rows, row.envelope ∈ committed
  published : ∀ row ∈ rows, row.publishedAt.isSome → row.envelope ∈ stored
  kept : ∀ envelope ∈ committed, (∃ row ∈ rows, row.envelope = envelope) ∨ envelope ∈ stored

/-- What holds between two steps. -/
structure Safe (service : Service Db Work Payload) (state : State Db Work Payload) : Prop where
  rows : RowsKept state.committed state.stored state.rows
  fresh : ∀ envelope ∈ state.committed, envelope.eventId < state.nextEventId
  distinct : (state.committed.map Envelope.eventId).Nodup
  askedFresh : ∀ envelope ∈ state.asked, envelope.eventId < state.nextEventId ∧
    envelope.eventId ∉ state.committed.map Envelope.eventId
  rowsOnly : service.asks = false → state.asked = []
  storedKnown : ∀ envelope ∈ state.stored,
    envelope ∈ state.committed ∨ envelope ∈ state.asked
  fastKnown : ∀ worker phase, state.fast worker = some phase →
    phase.envelope ∈ state.committed ∨ phase.envelope ∈ state.asked
  fastStored : ∀ worker envelope, state.fast worker = some (.marking envelope) →
    envelope ∈ state.stored
  sweepKnown : ∀ worker sweep, state.sweeps worker = some sweep →
    (∀ envelope ∈ sweep.remaining, envelope ∈ state.committed) ∧
      ∀ envelope ∈ sweep.marked, envelope ∈ state.committed ∧ envelope ∈ state.stored
  history : ∀ commit ∈ state.history,
    service.transact commit.before commit.work = some commit.after ∧
      commit.envelopes.map Envelope.payload =
        (service.queued commit.after).drop (service.queued commit.before).length ∧
      ∀ envelope ∈ commit.envelopes,
        envelope.topic = service.topic ∧ envelope.key = service.key envelope.payload

section Rows

variable {committed stored : List (Envelope Payload)} {rows : List (Row Payload)}

theorem mem_markPublished {id : Nat} {now : Time} {row : Row Payload}
    (member : row ∈ markPublished rows id now) :
    ∃ old ∈ rows, row.envelope = old.envelope ∧
      (row.publishedAt = old.publishedAt ∨ old.envelope.eventId = id) := by
  obtain ⟨old, listed, rfl⟩ := List.mem_map.mp member
  refine ⟨old, listed, ?_⟩
  split
  · rename_i marked
    exact ⟨rfl, .inr marked.1⟩
  · exact ⟨rfl, .inl rfl⟩

theorem markPublished_mem {id : Nat} {now : Time} {row : Row Payload} (member : row ∈ rows) :
    ∃ marked ∈ markPublished rows id now, marked.envelope = row.envelope := by
  refine ⟨_, List.mem_map_of_mem member, ?_⟩
  split <;> rfl

theorem RowsKept.mark (kept : RowsKept committed stored rows) {id : Nat} (now : Time)
    (onTopic : ∀ envelope ∈ committed, envelope.eventId = id → envelope ∈ stored) :
    RowsKept committed stored (markPublished rows id now) where
  ofRow row member := by
    obtain ⟨old, listed, same, _⟩ := mem_markPublished member
    rw [same]
    exact kept.ofRow old listed
  published row member isPublished := by
    obtain ⟨old, listed, same, unmarked | marked⟩ := mem_markPublished member
    · rw [same]
      exact kept.published old listed (by rwa [← unmarked])
    · rw [same]
      exact onTopic _ (kept.ofRow old listed) marked
  kept envelope member := by
    rcases kept.kept envelope member with ⟨row, listed, rfl⟩ | onTopic
    · obtain ⟨marked, markedListed, same⟩ := markPublished_mem listed
      exact .inl ⟨marked, markedListed, same⟩
    · exact .inr onTopic

theorem RowsKept.marks (kept : RowsKept committed stored rows) (now : Time)
    {marked : List (Envelope Payload)}
    (onTopic : ∀ done ∈ marked, ∀ envelope ∈ committed, envelope.eventId = done.eventId →
      envelope ∈ stored) :
    RowsKept committed stored
      (marked.foldl (fun rows envelope => markPublished rows envelope.eventId now) rows) := by
  induction marked generalizing rows with
  | nil => exact kept
  | cons done marked ih =>
      exact ih (kept.mark now (onTopic done (by simp)))
        (fun other member => onTopic other (by simp [member]))

theorem RowsKept.purge (kept : RowsKept committed stored rows) (hours : Nat) (now : Time) :
    RowsKept committed stored (deletePublished rows hours now) where
  ofRow row member := kept.ofRow row (List.mem_of_mem_filter member)
  published row member := kept.published row (List.mem_of_mem_filter member)
  kept envelope member := by
    rcases kept.kept envelope member with ⟨row, listed, rfl⟩ | onTopic
    · cases isPublished : row.publishedAt with
      | none =>
          refine .inl ⟨row, List.mem_filter.mpr ⟨listed, ?_⟩, rfl⟩
          simp [isPublished]
      | some time => exact .inr (kept.published row listed (by simp [isPublished]))
    · exact .inr onTopic

theorem RowsKept.store (kept : RowsKept committed stored rows) (envelope : Envelope Payload) :
    RowsKept committed (stored ++ [envelope]) rows where
  ofRow := kept.ofRow
  published row member isPublished :=
    List.mem_append_left _ (kept.published row member isPublished)
  kept other member := (kept.kept other member).imp_right (List.mem_append_left _)

theorem RowsKept.insert (kept : RowsKept committed stored rows) (envelopes : List (Envelope Payload))
    (now : Time) :
    RowsKept (committed ++ envelopes) stored
      (rows ++ envelopes.map (fun envelope => ⟨envelope, now, none⟩)) where
  ofRow row member := by
    rcases List.mem_append.mp member with old | new
    · exact List.mem_append_left _ (kept.ofRow row old)
    · obtain ⟨envelope, listed, rfl⟩ := List.mem_map.mp new
      exact List.mem_append_right _ listed
  published row member isPublished := by
    rcases List.mem_append.mp member with old | new
    · exact kept.published row old isPublished
    · obtain ⟨envelope, _, rfl⟩ := List.mem_map.mp new
      contradiction
  kept envelope member := by
    rcases List.mem_append.mp member with old | new
    · rcases kept.kept envelope old with ⟨row, listed, same⟩ | onTopic
      · exact .inl ⟨row, List.mem_append_left _ listed, same⟩
      · exact .inr onTopic
    · exact .inl ⟨_, List.mem_append_right _ (List.mem_map_of_mem new), rfl⟩

theorem eq_of_eventId (distinct : (committed.map Envelope.eventId).Nodup)
    {left right : Envelope Payload} (leftMember : left ∈ committed)
    (rightMember : right ∈ committed) (same : left.eventId = right.eventId) : left = right :=
  List.inj_on_of_nodup_map distinct leftMember rightMember same

end Rows

section Seal

variable {service : Service Db Work Payload} {next : Nat} {payloads : List Payload}

theorem payload_envelopesOf :
    (envelopesOf service next payloads).map Envelope.payload = payloads := by
  rw [envelopesOf, List.map_map]
  exact List.zipIdx_map_fst next payloads

theorem mem_envelopesOf {envelope : Envelope Payload}
    (member : envelope ∈ envelopesOf service next payloads) :
    (next ≤ envelope.eventId ∧ envelope.eventId < next + payloads.length) ∧
      envelope.topic = service.topic ∧ envelope.key = service.key envelope.payload := by
  obtain ⟨numbered, listed, rfl⟩ := List.mem_map.mp member
  exact ⟨⟨List.le_snd_of_mem_zipIdx listed, List.snd_lt_add_of_mem_zipIdx listed⟩, rfl, rfl⟩

theorem nodup_envelopesOf :
    ((envelopesOf service next payloads).map Envelope.eventId).Nodup := by
  have ids : (envelopesOf service next payloads).map Envelope.eventId =
      List.range' next payloads.length := by
    rw [envelopesOf, List.map_map, ← List.zipIdx_map_snd next payloads]
    rfl
  rw [ids]
  exact List.nodup_range'

end Seal

section Steps

variable {service : Service Db Work Payload} {state : State Db Work Payload}

/-- What a committed or asked event's id says about the rows that carry it: a
row of this id carries this event. -/
theorem Safe.onTopic (safe : Safe service state) {done : Envelope Payload}
    (known : done ∈ state.committed ∨ done ∈ state.asked) (stored : done ∈ state.stored) :
    ∀ envelope ∈ state.committed, envelope.eventId = done.eventId → envelope ∈ state.stored := by
  intro envelope member same
  rcases known with committed | asked
  · rw [eq_of_eventId safe.distinct member committed same]
    exact stored
  · refine absurd ?_ (safe.askedFresh done asked).2
    rw [← same]
    exact List.mem_map_of_mem member

theorem Safe.transact (safe : Safe service state) {work : Work} {after : Db} {now : Time}
    (transacted : service.transact state.db work = some after) :
    Safe service
      { state with
        db := after
        nextEventId := state.nextEventId +
          ((service.queued after).drop (service.queued state.db).length).length
        rows := state.rows ++ (envelopesOf service state.nextEventId
          ((service.queued after).drop (service.queued state.db).length)).map
            (fun envelope => ⟨envelope, now, none⟩)
        history := state.history ++ [⟨state.db, work, after, envelopesOf service state.nextEventId
          ((service.queued after).drop (service.queued state.db).length)⟩] } := by
  generalize payloads : (service.queued after).drop (service.queued state.db).length = new
  have committed : ∀ fast sweeps stored locked rows next,
      (⟨after, next, rows, stored, locked, fast, sweeps, state.history ++
          [⟨state.db, work, after, envelopesOf service state.nextEventId new⟩],
        state.asked⟩ : State Db Work Payload).committed =
      state.committed ++ envelopesOf service state.nextEventId new := by
    intro fast sweeps stored locked rows next
    simp [State.committed]
  constructor
  · rw [committed]
    exact safe.rows.insert _ now
  · intro envelope member
    rw [committed, List.mem_append] at member
    rcases member with old | new
    · exact lt_of_lt_of_le (safe.fresh envelope old) (Nat.le_add_right _ _)
    · exact (mem_envelopesOf new).1.2
  · rw [committed, List.map_append, List.nodup_append]
    refine ⟨safe.distinct, nodup_envelopesOf, ?_⟩
    intro old oldMember id newMember
    obtain ⟨envelope, member, rfl⟩ := List.mem_map.mp oldMember
    obtain ⟨other, otherMember, rfl⟩ := List.mem_map.mp newMember
    have below := safe.fresh envelope member
    have above := (mem_envelopesOf otherMember).1.1
    omega
  · intro envelope member
    obtain ⟨below, absent⟩ := safe.askedFresh envelope member
    refine ⟨lt_of_lt_of_le below (Nat.le_add_right _ _), ?_⟩
    rw [committed, List.map_append, List.mem_append, not_or]
    refine ⟨absent, ?_⟩
    intro listed
    obtain ⟨other, otherMember, same⟩ := List.mem_map.mp listed
    have above := (mem_envelopesOf otherMember).1.1
    omega
  · exact safe.rowsOnly
  · intro envelope member
    rw [committed]
    exact (safe.storedKnown envelope member).imp_left (List.mem_append_left _)
  · intro worker phase running
    rw [committed]
    exact (safe.fastKnown worker phase running).imp_left (List.mem_append_left _)
  · exact safe.fastStored
  · intro worker sweep running
    rw [committed]
    obtain ⟨remaining, marked⟩ := safe.sweepKnown worker sweep running
    exact ⟨fun envelope member => List.mem_append_left _ (remaining envelope member),
      fun envelope member => ⟨List.mem_append_left _ (marked envelope member).1,
        (marked envelope member).2⟩⟩
  · intro commit member
    rcases List.mem_append.mp member with old | new
    · exact safe.history commit old
    · rw [List.mem_singleton.mp new]
      exact ⟨transacted, by rw [payload_envelopesOf, payloads],
        fun envelope member => (mem_envelopesOf member).2⟩

theorem Safe.store (safe : Safe service state) {envelope : Envelope Payload}
    (known : envelope ∈ state.committed ∨ envelope ∈ state.asked) :
    Safe service { state with stored := state.stored ++ [envelope] } where
  rows := safe.rows.store envelope
  fresh := safe.fresh
  distinct := safe.distinct
  askedFresh := safe.askedFresh
  rowsOnly := safe.rowsOnly
  storedKnown other member := by
    rcases List.mem_append.mp member with old | new
    · exact safe.storedKnown other old
    · rw [List.mem_singleton.mp new]
      exact known
  fastKnown := safe.fastKnown
  fastStored worker other running := List.mem_append_left _ (safe.fastStored worker other running)
  sweepKnown worker sweep running := by
    obtain ⟨remaining, marked⟩ := safe.sweepKnown worker sweep running
    exact ⟨remaining, fun other member => ⟨(marked other member).1,
      List.mem_append_left _ (marked other member).2⟩⟩
  history := safe.history

/-- A fast-path worker moves on; an acknowledged one knows its event is stored. -/
theorem Safe.setFast (safe : Safe service state) {worker : WorkerId}
    {next : Option (FastPath Payload)}
    (known : ∀ phase, next = some phase →
      phase.envelope ∈ state.committed ∨ phase.envelope ∈ state.asked)
    (stored : ∀ envelope, next = some (.marking envelope) → envelope ∈ state.stored) :
    Safe service { state with fast := Function.update state.fast worker next } where
  rows := safe.rows
  fresh := safe.fresh
  distinct := safe.distinct
  askedFresh := safe.askedFresh
  rowsOnly := safe.rowsOnly
  storedKnown := safe.storedKnown
  fastKnown other phase running := by
    by_cases here : other = worker
    · subst here
      simp only [Function.update_self] at running
      exact known phase running
    · simp only [Function.update_of_ne here] at running
      exact safe.fastKnown other phase running
  fastStored other envelope running := by
    by_cases here : other = worker
    · subst here
      simp only [Function.update_self] at running
      exact stored envelope running
    · simp only [Function.update_of_ne here] at running
      exact safe.fastStored other envelope running
  sweepKnown := safe.sweepKnown
  history := safe.history

theorem Safe.publishing (safe : Safe service state) {envelope : Envelope Payload}
    (worker : WorkerId) (known : envelope ∈ state.committed ∨ envelope ∈ state.asked) :
    Safe service
      { state with fast := Function.update state.fast worker (some (.publishing envelope)) } := by
  apply safe.setFast
  · intro phase running
    cases running
    exact known
  · intro other running
    cases running

theorem Safe.marking (safe : Safe service state) {envelope : Envelope Payload}
    (worker : WorkerId) (known : envelope ∈ state.committed ∨ envelope ∈ state.asked)
    (stored : envelope ∈ state.stored) :
    Safe service
      { state with fast := Function.update state.fast worker (some (.marking envelope)) } := by
  apply safe.setFast
  · intro phase running
    cases running
    exact known
  · intro other running
    cases running
    exact stored

theorem Safe.stopFast (safe : Safe service state) (worker : WorkerId) :
    Safe service { state with fast := Function.update state.fast worker none } := by
  apply safe.setFast
  · intro phase running
    contradiction
  · intro other running
    contradiction

theorem Safe.setSweep (safe : Safe service state) {worker : WorkerId}
    {next : Option (Sweep Payload)} (lockedBy : Nat → Option WorkerId)
    (known : ∀ sweep, next = some sweep →
      (∀ envelope ∈ sweep.remaining, envelope ∈ state.committed) ∧
        ∀ envelope ∈ sweep.marked, envelope ∈ state.committed ∧ envelope ∈ state.stored) :
    Safe service { state with lockedBy, sweeps := Function.update state.sweeps worker next } where
  rows := safe.rows
  fresh := safe.fresh
  distinct := safe.distinct
  askedFresh := safe.askedFresh
  rowsOnly := safe.rowsOnly
  storedKnown := safe.storedKnown
  fastKnown := safe.fastKnown
  fastStored := safe.fastStored
  sweepKnown other sweep running := by
    by_cases here : other = worker
    · subst here
      simp only [Function.update_self] at running
      exact known sweep running
    · simp only [Function.update_of_ne here] at running
      exact safe.sweepKnown other sweep running
  history := safe.history

theorem Safe.sweeping (safe : Safe service state) (worker : WorkerId)
    (lockedBy : Nat → Option WorkerId) {remaining marked : List (Envelope Payload)}
    (known : ∀ envelope ∈ remaining, envelope ∈ state.committed)
    (stored : ∀ envelope ∈ marked, envelope ∈ state.committed ∧ envelope ∈ state.stored) :
    Safe service
      { state with
        lockedBy
        sweeps := Function.update state.sweeps worker (some ⟨remaining, marked⟩) } := by
  apply safe.setSweep
  intro sweep running
  cases running
  exact ⟨known, stored⟩

theorem Safe.stopSweep (safe : Safe service state) (worker : WorkerId)
    (lockedBy : Nat → Option WorkerId) :
    Safe service { state with lockedBy, sweeps := Function.update state.sweeps worker none } := by
  apply safe.setSweep
  intro sweep running
  contradiction

theorem Safe.setRows (safe : Safe service state) {rows : List (Row Payload)}
    (kept : RowsKept state.committed state.stored rows) :
    Safe service { state with rows } where
  rows := kept
  fresh := safe.fresh
  distinct := safe.distinct
  askedFresh := safe.askedFresh
  rowsOnly := safe.rowsOnly
  storedKnown := safe.storedKnown
  fastKnown := safe.fastKnown
  fastStored := safe.fastStored
  sweepKnown := safe.sweepKnown
  history := safe.history

theorem Safe.ask (safe : Safe service state) (asks : service.asks = true) (payload : Payload) :
    Safe service
      { state with
        nextEventId := state.nextEventId + 1
        asked := state.asked ++
          [⟨service.topic, service.key payload, state.nextEventId, payload⟩] } where
  rows := safe.rows
  fresh envelope member := Nat.lt_succ_of_lt (safe.fresh envelope member)
  distinct := safe.distinct
  askedFresh envelope member := by
    rcases List.mem_append.mp member with old | new
    · obtain ⟨below, absent⟩ := safe.askedFresh envelope old
      exact ⟨Nat.lt_succ_of_lt below, absent⟩
    · rw [List.mem_singleton.mp new]
      refine ⟨Nat.lt_succ_self _, ?_⟩
      intro listed
      obtain ⟨other, otherMember, same⟩ := List.mem_map.mp listed
      have below := safe.fresh other otherMember
      simp only at same
      omega
  rowsOnly none := by
    rw [asks] at none
    contradiction
  storedKnown envelope member :=
    (safe.storedKnown envelope member).imp_right (List.mem_append_left _)
  fastKnown worker phase running :=
    (safe.fastKnown worker phase running).imp_right (List.mem_append_left _)
  fastStored := safe.fastStored
  sweepKnown := safe.sweepKnown
  history := safe.history

/-- A sweep sends its next row, and marks what was acknowledged. -/
theorem Safe.sweepPublish (safe : Safe service state) {worker : WorkerId} (outcome : Publish)
    {envelope : Envelope Payload} {remaining marked : List (Envelope Payload)}
    (running : state.sweeps worker = some ⟨envelope :: remaining, marked⟩) :
    Safe service
      { state with
        stored := if outcome.stores then state.stored ++ [envelope] else state.stored
        sweeps := Function.update state.sweeps worker
          (if outcome = .acknowledged then some ⟨remaining, marked ++ [envelope]⟩
            else some ⟨[], marked⟩) } := by
  obtain ⟨remainingKnown, markedKnown⟩ := safe.sweepKnown worker _ running
  have known := remainingKnown envelope (by simp)
  have rest : ∀ other ∈ remaining, other ∈ state.committed :=
    fun other member => remainingKnown other (by simp [member])
  have stored : Safe service { state with stored := state.stored ++ [envelope] } :=
    safe.store (.inl known)
  have markedStored : ∀ other ∈ marked,
      other ∈ state.committed ∧ other ∈ state.stored ++ [envelope] :=
    fun other member => ⟨(markedKnown other member).1,
      List.mem_append_left _ (markedKnown other member).2⟩
  have none : ∀ other ∈ ([] : List (Envelope Payload)), other ∈ state.committed :=
    fun other member => by contradiction
  cases outcome with
  | acknowledged =>
      refine stored.sweeping worker state.lockedBy rest ?_
      intro other member
      rcases List.mem_append.mp member with old | new
      · exact markedStored other old
      · rw [List.mem_singleton.mp new]
        exact ⟨known, by simp⟩
  | storedUnacknowledged => exact stored.sweeping worker state.lockedBy none markedStored
  | failed => exact safe.sweeping worker state.lockedBy none markedKnown

variable [DecidableEq Payload]

/-- Step lemma: one step of any worker keeps the outbox safe. -/
theorem Safe.step {after : State Db Work Payload} {action : Action Work Payload}
    (safe : Safe service state) (taken : Outbox.step service state action = some after) :
    Safe service after := by
  cases action with
  | transact work now =>
      simp only [Outbox.step, Option.map_eq_some_iff] at taken
      obtain ⟨db, transacted, rfl⟩ := taken
      exact safe.transact transacted
  | publishNow worker envelope =>
      simp only [Outbox.step] at taken
      split at taken
      · contradiction
      · split at taken
        · rename_i committed
          cases taken
          exact safe.publishing worker (.inl committed)
        · contradiction
  | publishFresh worker payload =>
      simp only [Outbox.step] at taken
      split at taken
      · contradiction
      · split at taken
        · rename_i asks
          cases taken
          exact (safe.ask asks payload).publishing worker (.inr (by simp))
        · contradiction
  | publish worker outcome =>
      simp only [Outbox.step] at taken
      split at taken
      · rename_i envelope running
        cases taken
        have known : envelope ∈ state.committed ∨ envelope ∈ state.asked :=
          safe.fastKnown worker _ running
        cases outcome with
        | acknowledged => exact (safe.store known).marking worker known (by simp)
        | storedUnacknowledged => exact (safe.store known).stopFast worker
        | failed => exact safe.stopFast worker
      · contradiction
  | mark worker now =>
      simp only [Outbox.step] at taken
      split at taken
      · rename_i envelope running
        split at taken
        · contradiction
        · cases taken
          have onTopic := safe.onTopic (safe.fastKnown worker _ running)
            (safe.fastStored worker envelope running)
          have marked := safe.rows.mark now onTopic
          exact (safe.setRows marked).stopFast worker
      · contradiction
  | markFails worker =>
      simp only [Outbox.step] at taken
      split at taken
      · cases taken
        exact safe.stopFast worker
      · contradiction
  | sweep worker age limit now =>
      simp only [Outbox.step] at taken
      split at taken
      · contradiction
      · cases taken
        apply safe.sweeping
        · intro envelope member
          obtain ⟨row, listed, rfl⟩ := List.mem_map.mp member
          have inTable := List.mem_of_mem_filter (List.mem_of_mem_take listed)
          exact safe.rows.ofRow row inTable
        · intro envelope member
          contradiction
  | sweepPublish worker outcome =>
      simp only [Outbox.step] at taken
      split at taken
      · rename_i envelope remaining marked running
        cases taken
        exact safe.sweepPublish outcome running
      · contradiction
  | sweepCommit worker now =>
      simp only [Outbox.step] at taken
      split at taken
      · rename_i marked running
        cases taken
        have markedKnown := (safe.sweepKnown worker _ running).2
        have onTopic : RowsKept state.committed state.stored
            (marked.foldl (fun rows envelope => markPublished rows envelope.eventId now)
              state.rows) :=
          safe.rows.marks now fun done member =>
            safe.onTopic (.inl (markedKnown done member).1) (markedKnown done member).2
        exact (safe.setRows onTopic).stopSweep worker _
      · contradiction
  | sweepRollback worker =>
      simp only [Outbox.step] at taken
      split at taken
      · contradiction
      · cases taken
        exact safe.stopSweep worker _
  | purge hours now =>
      cases taken
      exact safe.setRows (safe.rows.purge hours now)
  | crash worker =>
      cases taken
      exact (safe.stopFast worker).stopSweep worker _

end Steps

section History

variable {service : Service Db Work Payload} {state : State Db Work Payload}

/-- Only a local transaction touches the database, and the history records it. -/
theorem step_db [DecidableEq Payload] {after : State Db Work Payload} {action : Action Work Payload}
    (taken : Outbox.step service state action = some after) :
    (∃ work now, action = .transact work now ∧
      service.transact state.db work = some after.db ∧ ∃ envelopes,
        after.history = state.history ++ [⟨state.db, work, after.db, envelopes⟩]) ∨
    after.db = state.db ∧ after.history = state.history := by
  cases action with
  | transact work now =>
      obtain ⟨db, transacted, rfl⟩ := Option.map_eq_some_iff.mp taken
      exact .inl ⟨work, now, rfl, transacted, _, rfl⟩
  | purge | crash =>
      cases taken
      exact .inr ⟨rfl, rfl⟩
  | publishNow | publishFresh =>
      simp only [Outbox.step] at taken
      split at taken
      · contradiction
      · split at taken
        · cases taken
          exact .inr ⟨rfl, rfl⟩
        · contradiction
  | mark worker now =>
      simp only [Outbox.step] at taken
      split at taken
      · split at taken
        · contradiction
        · cases taken
          exact .inr ⟨rfl, rfl⟩
      · contradiction
  | publish | markFails | sweepPublish | sweepCommit =>
      simp only [Outbox.step] at taken
      split at taken
      · cases taken
        exact .inr ⟨rfl, rfl⟩
      · contradiction
  | sweep | sweepRollback =>
      simp only [Outbox.step] at taken
      split at taken
      · contradiction
      · cases taken
        exact .inr ⟨rfl, rfl⟩

/-- The local transactions of a run meet a condition on the database and the work. -/
def Transacts (permits : Db → Work → Prop) (state : State Db Work Payload) :
    Action Work Payload → Prop
  | .transact work _ => permits state.db work
  | _ => True

/-- What every permitted local transaction keeps held before each one committed. -/
theorem history_of_run [DecidableEq Payload] {permits : Db → Work → Prop} {Holds : Db → Prop}
    {start : Db} {actions : List (Action Work Payload)}
    (run : Run (Outbox.step service) (Transacts permits) (initial start) actions state)
    (initially : Holds start)
    (kept : ∀ before work after, Holds before → permits before work →
      service.transact before work = some after → Holds after) :
    ∀ commit ∈ state.history, Holds commit.before := by
  have both : Holds state.db ∧ ∀ commit ∈ state.history, Holds commit.before := by
    induction run with
    | start => exact ⟨initially, fun _ member => by contradiction⟩
    | snoc past permitted taken ih =>
        obtain ⟨holds, history⟩ := ih
        rcases step_db taken with ⟨work, now, rfl, transacted, envelopes, grown⟩ | ⟨same, unchanged⟩
        · refine ⟨kept _ _ _ holds permitted transacted, fun commit member => ?_⟩
          rw [grown] at member
          rcases List.mem_append.mp member with old | new
          · exact history commit old
          · rw [List.mem_singleton.mp new]
            exact holds
        · rw [same, unchanged]
          exact ⟨holds, history⟩
  exact both.2

end History

section Runs

variable {service : Service Db Work Payload} {state : State Db Work Payload}

theorem Safe.initial (service : Service Db Work Payload) (start : Db) :
    Safe service (initial start) := by
  constructor <;> simp [Outbox.initial, State.committed]
  constructor <;> simp

theorem safe_of_run [DecidableEq Payload] {start : Db} {actions : List (Action Work Payload)}
    (run : Run (step service) Any (initial start) actions state) :
    Safe service state :=
  run.invariant (Safe.initial service start) (fun _ _ _ safe _ taken => safe.step taken)

theorem Safe.nothingLost (safe : Safe service state) : NothingLost state := by
  intro envelope member
  rcases safe.rows.kept envelope member with ⟨row, listed, rfl⟩ | onTopic
  · cases isPublished : row.publishedAt with
    | none => exact .inl ⟨row, listed, rfl, isPublished⟩
    | some time => exact .inr (safe.rows.published row listed (by simp [isPublished]))
  · exact .inr onTopic

def PurgesPublished [DecidableEq Payload] (service : Service Db Work Payload)
    (state : State Db Work Payload) : Prop :=
  ∀ hours now after, step service state (.purge hours now) = some after →
    ∀ row ∈ state.rows, row.publishedAt = none → row ∈ after.rows

theorem purgesPublished [DecidableEq Payload] (service : Service Db Work Payload)
    (state : State Db Work Payload) : PurgesPublished service state := by
  intro hours now after taken row member unpublished
  cases taken
  exact List.mem_filter.mpr ⟨member, by simp [unpublished]⟩

/-- A service that publishes rows only has stored no other event. -/
theorem Safe.committed (safe : Safe service state) (rowsOnly : service.asks = false) :
    ∀ envelope ∈ state.stored, envelope ∈ state.committed := by
  intro envelope member
  have known := safe.storedKnown envelope member
  rw [safe.rowsOnly rowsOnly] at known
  simpa using known

end Runs

end SelfCheckout.Outbox
