import SelfCheckout.Outbox.Services

namespace SelfCheckout.Outbox

open SelfCheckout.Data

/-! # Sweepers drain a backlog

What an outage left unpublished is published by the next sweeps, whichever workers run them
and whatever else goes on: every sweep takes the oldest rows that no other has, so `limit`
of the backlog each, and what was taken is published when it commits.
-/

variable {Db Work Payload : Type}

/-- The rows are in id order, below the next id. -/
structure Ascending (state : State Db Work Payload) : Prop where
  sorted : state.rows.Pairwise (fun left right => left.envelope.eventId < right.envelope.eventId)
  fresh : ∀ row ∈ state.rows, row.envelope.eventId < state.nextEventId

/-- A lock belongs to a sweep that goes on. -/
def Locked (state : State Db Work Payload) : Prop :=
  ∀ id worker, state.lockedBy id = some worker → (state.sweeps worker).isSome

/-- From now on sweeps run to their end: the broker acknowledges, every sweep is `age` old and
takes `limit` rows, and no worker crashes within one. -/
def Healthy (age limit : Nat) (since : Time) (state : State Db Work Payload) :
    Action Work Payload → Prop
  | .sweep _ itsAge itsLimit now => itsAge = age ∧ itsLimit = limit ∧ since ≤ now
  | .sweepPublish _ outcome => outcome = .acknowledged
  | .sweepRollback _ => False
  | .crash worker => state.sweeps worker = none
  | _ => True

def Action.isSweep : Action Work Payload → Bool
  | .sweep _ _ _ _ => true
  | _ => false

/-- A row of the backlog that no sweep has taken. -/
def waiting (floor : Nat) (lockedBy : Nat → Option WorkerId) (row : Row Payload) : Bool :=
  decide (row.envelope.eventId < floor) && row.publishedAt.isNone &&
    (lockedBy row.envelope.eventId).isNone

section Rows

variable {rows : List (Row Payload)} {lockedBy : Nat → Option WorkerId} {floor id : Nat} {now : Time}

/-- The marks of a sweep, all at once. -/
def markAll (rows : List (Row Payload)) (ids : List Nat) (now : Time) : List (Row Payload) :=
  rows.map (fun row =>
    if row.envelope.eventId ∈ ids ∧ row.publishedAt = none then
      { row with publishedAt := some now }
    else row)

theorem foldl_markPublished (marked : List (Envelope Payload)) (rows : List (Row Payload)) (now : Time) :
    marked.foldl (fun rows envelope => markPublished rows envelope.eventId now) rows =
      markAll rows (marked.map Envelope.eventId) now := by
  induction marked generalizing rows with
  | nil => simp [markAll]
  | cons envelope marked ih =>
      rw [List.foldl_cons, ih, markAll, markAll, markPublished, List.map_map]
      refine List.map_congr_left (fun row _ => ?_)
      by_cases here : row.envelope.eventId = envelope.eventId
      · by_cases unpublished : row.publishedAt = none
        · simp [here, unpublished]
        · simp [unpublished]
      · simp [here]

theorem markAll_sorted {ids : List Nat}
    (sorted : rows.Pairwise (fun left right => left.envelope.eventId < right.envelope.eventId)) :
    (markAll rows ids now).Pairwise
      (fun left right => left.envelope.eventId < right.envelope.eventId) := by
  rw [markAll, List.pairwise_map]
  refine sorted.imp (fun less => ?_)
  split <;> split <;> exact less

/-- A row that waits once a sweep has marked what it took was waiting before. -/
theorem markAll_waiting {ids : List Nat} {unlocked : Nat → Option WorkerId}
    (freed : ∀ id, unlocked id = none → lockedBy id = none ∨ id ∈ ids) :
    (markAll rows ids now).countP (waiting floor unlocked) ≤ rows.countP (waiting floor lockedBy) := by
  rw [markAll, List.countP_map]
  refine List.countP_mono_left (fun row _ isWaiting => ?_)
  simp only [Function.comp_apply] at isWaiting
  split at isWaiting
  · simp [waiting] at isWaiting
  · rename_i unmarked
    simp only [waiting, Bool.and_eq_true, decide_eq_true_eq, Option.isNone_iff_eq_none] at isWaiting ⊢
    obtain ⟨⟨old, unpublished⟩, free⟩ := isWaiting
    rcases freed _ free with wasFree | taken
    · exact ⟨⟨old, unpublished⟩, wasFree⟩
    · exact absurd ⟨taken, unpublished⟩ unmarked

/-- The rows below a mark come first. -/
theorem sorted_split
    (sorted : rows.Pairwise (fun left right => left.envelope.eventId < right.envelope.eventId))
    (floor : Nat) :
    rows = rows.filter (fun row => decide (row.envelope.eventId < floor)) ++
      rows.filter (fun row => ! decide (row.envelope.eventId < floor)) := by
  induction rows with
  | nil => rfl
  | cons row rows ih =>
      obtain ⟨first, rest⟩ := List.pairwise_cons.mp sorted
      by_cases below : row.envelope.eventId < floor
      · simpa [below] using ih rest
      · have none : rows.filter (fun row => decide (row.envelope.eventId < floor)) = [] := by
          rw [List.filter_eq_nil_iff]
          intro other member
          have later := first other member
          simp only [decide_eq_true_eq]
          omega
        have all : rows.filter (fun row => ! decide (row.envelope.eventId < floor)) = rows := by
          rw [List.filter_eq_self]
          intro other member
          have later := first other member
          simp only [Bool.not_eq_eq_eq_not, Bool.not_true, decide_eq_false_iff_not]
          omega
        simp [below, none, all]

/-- A sweep takes `limit` of the backlog, or all that waits. -/
theorem claim_waiting {age limit : Nat}
    (sorted : rows.Pairwise (fun left right => left.envelope.eventId < right.envelope.eventId))
    (aged : ∀ row ∈ rows, row.envelope.eventId < floor → row.publishedAt = none →
      row.createdAt + age < now) (worker : WorkerId) :
    rows.countP (waiting floor (fun id =>
        if id ∈ (claimUnpublished rows lockedBy age limit now).map Envelope.eventId then some worker
        else lockedBy id)) ≤
      rows.countP (waiting floor lockedBy) - limit := by
  have oldest : ∃ newer, rows.filter (fun row =>
      row.publishedAt.isNone && decide (row.createdAt + age < now) &&
        (lockedBy row.envelope.eventId).isNone) = rows.filter (waiting floor lockedBy) ++ newer := by
    refine ⟨(rows.filter (fun row => ! decide (row.envelope.eventId < floor))).filter (fun row =>
      row.publishedAt.isNone && decide (row.createdAt + age < now) &&
        (lockedBy row.envelope.eventId).isNone), ?_⟩
    conv_lhs => rw [sorted_split sorted floor, List.filter_append, List.filter_filter]
    congr 1
    refine List.filter_congr (fun row member => ?_)
    by_cases old : row.envelope.eventId < floor
    · by_cases unpublished : row.publishedAt = none
      · simp [waiting, old, unpublished, aged row member old unpublished]
      · have published : row.publishedAt.isNone = false := by
          rw [Option.isNone_eq_false_iff, Option.isSome_iff_ne_none]
          exact unpublished
        simp [waiting, published]
    · simp [waiting, old]
  obtain ⟨newer, eligible⟩ := oldest
  have taken : ∀ row ∈ (rows.filter (waiting floor lockedBy)).take limit,
      row.envelope.eventId ∈
        (claimUnpublished rows lockedBy age limit now).map Envelope.eventId := by
    intro row member
    rw [claimUnpublished, eligible, List.take_append]
    simp only [List.map_append, List.mem_append]
    exact .inl (List.mem_map_of_mem (List.mem_map_of_mem member))
  generalize (claimUnpublished rows lockedBy age limit now).map Envelope.eventId = claimed at taken ⊢
  calc rows.countP (waiting floor (fun id => if id ∈ claimed then some worker else lockedBy id))
      ≤ (rows.filter (waiting floor lockedBy)).countP
          (fun row => decide (row.envelope.eventId ∉ claimed)) := by
        rw [List.countP_filter]
        refine List.countP_mono_left (fun row _ isWaiting => ?_)
        by_cases isClaimed : row.envelope.eventId ∈ claimed
        · simp [waiting, isClaimed] at isWaiting
        · simpa [waiting, isClaimed] using isWaiting
    _ = ((rows.filter (waiting floor lockedBy)).take limit).countP
            (fun row => decide (row.envelope.eventId ∉ claimed)) +
          ((rows.filter (waiting floor lockedBy)).drop limit).countP
            (fun row => decide (row.envelope.eventId ∉ claimed)) := by
        rw [← List.countP_append, List.take_append_drop]
    _ = ((rows.filter (waiting floor lockedBy)).drop limit).countP
            (fun row => decide (row.envelope.eventId ∉ claimed)) := by
        rw [Nat.add_eq_right, List.countP_eq_zero]
        intro row member
        simpa using taken row member
    _ ≤ ((rows.filter (waiting floor lockedBy)).drop limit).length := List.countP_le_length
    _ = rows.countP (waiting floor lockedBy) - limit := by
        rw [List.length_drop, List.countP_eq_length_filter]

end Rows

section Reachable

variable {service : Service Db Work Payload}
  {before after state : State Db Work Payload} {action : Action Work Payload}

/-- The table of a state without the rows of other states. -/
theorem Ascending.setRows {rows : List (Row Payload)} (ascending : Ascending before)
    (sorted : rows.Pairwise (fun left right => left.envelope.eventId < right.envelope.eventId))
    (kept : ∀ row ∈ rows, ∃ old ∈ before.rows, row.envelope = old.envelope)
    (table : after.rows = rows) (next : after.nextEventId = before.nextEventId) : Ascending after where
  sorted := by
    rw [table]
    exact sorted
  fresh row member := by
    rw [table] at member
    obtain ⟨old, listed, same⟩ := kept row member
    rw [same, next]
    exact ascending.fresh old listed

theorem Ascending.unchanged (ascending : Ascending before) (table : after.rows = before.rows)
    (next : before.nextEventId ≤ after.nextEventId) : Ascending after where
  sorted := by
    rw [table]
    exact ascending.sorted
  fresh row member := by
    rw [table] at member
    exact (ascending.fresh row member).trans_le next

theorem Ascending.insert (ascending : Ascending before) (payloads : List Payload) (now : Time)
    (table : after.rows = before.rows ++
      (envelopesOf service before.nextEventId payloads).map (fun envelope => ⟨envelope, now, none⟩))
    (next : after.nextEventId = before.nextEventId + payloads.length) : Ascending after where
  sorted := by
    rw [table, List.pairwise_append]
    refine ⟨ascending.sorted, ?_, ?_⟩
    · rw [List.pairwise_map, envelopesOf, List.pairwise_map]
      have numbered : ((payloads.zipIdx before.nextEventId).map Prod.snd).Pairwise (· < ·) := by
        rw [List.zipIdx_map_snd]
        exact List.pairwise_lt_range'
      exact List.pairwise_map.mp numbered
    · intro old isOld new isNew
      obtain ⟨envelope, isEnvelope, rfl⟩ := List.mem_map.mp isNew
      have less := ascending.fresh old isOld
      have lower := (mem_envelopesOf isEnvelope).1.1
      simp only
      omega
  fresh row member := by
    rw [table] at member
    rw [next]
    rcases List.mem_append.mp member with old | new
    · have less := ascending.fresh row old
      omega
    · obtain ⟨envelope, isEnvelope, rfl⟩ := List.mem_map.mp new
      exact (mem_envelopesOf isEnvelope).1.2

/-- Step lemma. -/
theorem Ascending.step [DecidableEq Payload] (ascending : Ascending before)
    (taken : Outbox.step service before action = some after) : Ascending after := by
  cases action with
  | transact work now =>
      obtain ⟨db, _, rfl⟩ := Option.map_eq_some_iff.mp taken
      exact ascending.insert _ now rfl rfl
  | publishNow worker envelope =>
      simp only [Outbox.step] at taken
      split at taken
      · contradiction
      · split at taken
        · cases taken
          exact ascending.unchanged rfl (Nat.le_refl _)
        · contradiction
  | publishFresh worker payload =>
      simp only [Outbox.step] at taken
      split at taken
      · contradiction
      · split at taken
        · cases taken
          exact ascending.unchanged rfl (Nat.le_succ _)
        · contradiction
  | publish worker outcome =>
      simp only [Outbox.step] at taken
      split at taken
      · cases taken
        exact ascending.unchanged rfl (Nat.le_refl _)
      · contradiction
  | mark worker now =>
      simp only [Outbox.step] at taken
      split at taken
      · split at taken
        · contradiction
        · rename_i envelope _ _ _
          cases taken
          have once := foldl_markPublished [envelope] before.rows now
          simp only [List.foldl_cons, List.foldl_nil] at once
          refine ascending.setRows (markAll_sorted ascending.sorted) ?_ once rfl
          intro row member
          obtain ⟨old, listed, rfl⟩ := List.mem_map.mp member
          exact ⟨old, listed, by split <;> rfl⟩
      · contradiction
  | markFails worker =>
      simp only [Outbox.step] at taken
      split at taken
      · cases taken
        exact ascending.unchanged rfl (Nat.le_refl _)
      · contradiction
  | sweep worker age limit now =>
      simp only [Outbox.step] at taken
      split at taken
      · contradiction
      · cases taken
        exact ascending.unchanged rfl (Nat.le_refl _)
  | sweepPublish worker outcome =>
      simp only [Outbox.step] at taken
      split at taken
      · cases taken
        exact ascending.unchanged rfl (Nat.le_refl _)
      · contradiction
  | sweepCommit worker now =>
      simp only [Outbox.step] at taken
      split at taken
      · cases taken
        refine ascending.setRows (markAll_sorted ascending.sorted) ?_ (foldl_markPublished _ _ _) rfl
        intro row member
        obtain ⟨old, listed, rfl⟩ := List.mem_map.mp member
        exact ⟨old, listed, by split <;> rfl⟩
      · contradiction
  | sweepRollback worker =>
      simp only [Outbox.step] at taken
      split at taken
      · contradiction
      · cases taken
        exact ascending.unchanged rfl (Nat.le_refl _)
  | purge hours now =>
      cases taken
      exact ascending.setRows (ascending.sorted.filter _)
        (fun row member => ⟨row, List.mem_of_mem_filter member, rfl⟩) rfl rfl
  | crash worker =>
      cases taken
      exact ascending.unchanged rfl (Nat.le_refl _)

theorem Locked.setSweep (locked : Locked before) {worker : WorkerId} {next : Option (Sweep Payload)}
    (owned : ∀ id owner, after.lockedBy id = some owner →
      before.lockedBy id = some owner ∧ (owner = worker → next.isSome) ∨
        owner = worker ∧ next.isSome)
    (sweeps : after.sweeps = Function.update before.sweeps worker next) : Locked after := by
  intro id owner isLocked
  rw [sweeps]
  by_cases same : owner = worker
  · subst same
    rw [Function.update_self]
    rcases owned id owner isLocked with ⟨-, goesOn⟩ | ⟨-, goesOn⟩
    · exact goesOn rfl
    · exact goesOn
  · rw [Function.update_of_ne same]
    rcases owned id owner isLocked with ⟨wasLocked, -⟩ | ⟨isWorker, -⟩
    · exact locked id owner wasLocked
    · exact absurd isWorker same

theorem unlock_eq_some {lockedBy : Nat → Option WorkerId} {worker owner : WorkerId} {id : Nat} :
    unlock lockedBy worker id = some owner ↔ lockedBy id = some owner ∧ owner ≠ worker := by
  unfold unlock
  by_cases own : lockedBy id = some worker
  · rw [if_pos own, own]
    simp only [reduceCtorEq, Option.some.injEq, false_iff, not_and, not_not]
    exact fun same => same.symm
  · rw [if_neg own]
    constructor
    · intro isLocked
      refine ⟨isLocked, ?_⟩
      rintro rfl
      exact own isLocked
    · exact And.left

/-- Step lemma. -/
theorem Locked.step [DecidableEq Payload] (locked : Locked before)
    (taken : Outbox.step service before action = some after) : Locked after := by
  have freed : ∀ {worker : WorkerId} {id : Nat} {owner : WorkerId},
      unlock before.lockedBy worker id = some owner →
      before.lockedBy id = some owner ∧ (owner = worker → (none : Option (Sweep Payload)).isSome) ∨
        owner = worker ∧ (none : Option (Sweep Payload)).isSome := by
    intro worker id owner isLocked
    obtain ⟨wasLocked, other⟩ := unlock_eq_some.mp isLocked
    exact .inl ⟨wasLocked, fun same => absurd same other⟩
  cases action with
  | transact work now =>
      obtain ⟨db, _, rfl⟩ := Option.map_eq_some_iff.mp taken
      exact locked
  | publishNow worker envelope =>
      simp only [Outbox.step] at taken
      split at taken
      · contradiction
      · split at taken
        · cases taken
          exact locked
        · contradiction
  | publishFresh worker payload =>
      simp only [Outbox.step] at taken
      split at taken
      · contradiction
      · split at taken
        · cases taken
          exact locked
        · contradiction
  | publish worker outcome =>
      simp only [Outbox.step] at taken
      split at taken
      · cases taken
        exact locked
      · contradiction
  | mark worker now =>
      simp only [Outbox.step] at taken
      split at taken
      · split at taken
        · contradiction
        · cases taken
          exact locked
      · contradiction
  | markFails worker =>
      simp only [Outbox.step] at taken
      split at taken
      · cases taken
        exact locked
      · contradiction
  | sweep worker age limit now =>
      simp only [Outbox.step] at taken
      split at taken
      · contradiction
      · cases taken
        refine locked.setSweep (fun id owner isLocked => ?_) rfl
        simp only at isLocked
        split at isLocked
        · cases isLocked
          exact .inr ⟨rfl, rfl⟩
        · exact .inl ⟨isLocked, fun _ => rfl⟩
  | sweepPublish worker outcome =>
      simp only [Outbox.step] at taken
      split at taken
      · cases taken
        refine locked.setSweep (fun id owner isLocked => .inl ⟨isLocked, fun _ => ?_⟩) rfl
        split <;> rfl
      · contradiction
  | sweepCommit worker now =>
      simp only [Outbox.step] at taken
      split at taken
      · cases taken
        exact locked.setSweep (fun _ _ isLocked => freed isLocked) rfl
      · contradiction
  | sweepRollback worker =>
      simp only [Outbox.step] at taken
      split at taken
      · contradiction
      · cases taken
        exact locked.setSweep (fun _ _ isLocked => freed isLocked) rfl
  | purge hours now =>
      cases taken
      exact locked
  | crash worker =>
      cases taken
      exact locked.setSweep (fun _ _ isLocked => freed isLocked) rfl

end Reachable

/-- The locked rows are those the sweeps are working on. -/
def Held (state : State Db Work Payload) : Prop :=
  ∀ id worker, state.lockedBy id = some worker → ∃ sweep, state.sweeps worker = some sweep ∧
    id ∈ (sweep.remaining ++ sweep.marked).map Envelope.eventId

/-- After `swept` sweeps were started: of a backlog of rows below `floor`, all old enough by
`since`, `limit` each are no longer waiting. -/
structure Draining (age limit : Nat) (since : Time) (floor backlog swept : Nat)
    (state : State Db Work Payload) : Prop where
  ascending : Ascending state
  passed : floor ≤ state.nextEventId
  aged : ∀ row ∈ state.rows, row.envelope.eventId < floor → row.publishedAt = none →
    row.createdAt + age < since
  held : Held state
  left : state.rows.countP (waiting floor state.lockedBy) ≤ backlog - limit * swept

section Draining

variable {service : Service Db Work Payload}
  {before after : State Db Work Payload} {action : Action Work Payload}
  {age limit floor backlog swept : Nat} {since : Time}

theorem aged_markAll {rows : List (Row Payload)} {ids : List Nat} {now : Time}
    (aged : ∀ row ∈ rows, row.envelope.eventId < floor → row.publishedAt = none →
      row.createdAt + age < since) :
    ∀ row ∈ markAll rows ids now, row.envelope.eventId < floor → row.publishedAt = none →
      row.createdAt + age < since := by
  intro row member old unpublished
  obtain ⟨listed, isListed, rfl⟩ := List.mem_map.mp member
  split at unpublished
  · contradiction
  · rename_i unmarked
    rw [if_neg unmarked] at old ⊢
    exact aged listed isListed old unpublished

/-- A worker that sweeps nothing holds no lock. -/
theorem Held.idle {state : State Db Work Payload} {worker : WorkerId} (held : Held state)
    (idle : state.sweeps worker = none) (id : Nat) : state.lockedBy id ≠ some worker := by
  intro isLocked
  obtain ⟨sweep, running, -⟩ := held id worker isLocked
  rw [idle] at running
  contradiction

theorem Held.update {worker : WorkerId} {next : Option (Sweep Payload)} (held : Held before)
    (own : ∀ id, after.lockedBy id = some worker → ∃ sweep, next = some sweep ∧
      id ∈ (sweep.remaining ++ sweep.marked).map Envelope.eventId)
    (others : ∀ id owner, owner ≠ worker → after.lockedBy id = some owner →
      before.lockedBy id = some owner)
    (sweeps : after.sweeps = Function.update before.sweeps worker next) : Held after := by
  intro id owner isLocked
  rw [sweeps]
  by_cases same : owner = worker
  · subst same
    rw [Function.update_self]
    exact own id isLocked
  · rw [Function.update_of_ne same]
    exact held id owner (others id owner same isLocked)

/-- A healthy step that starts no sweep. -/
theorem Draining.keep (draining : Draining age limit since floor backlog swept before)
    (ascending : Ascending after) (passed : before.nextEventId ≤ after.nextEventId)
    (aged : ∀ row ∈ after.rows, row.envelope.eventId < floor → row.publishedAt = none →
      row.createdAt + age < since) (held : Held after)
    (fewer : after.rows.countP (waiting floor after.lockedBy) ≤
      before.rows.countP (waiting floor before.lockedBy)) :
    Draining age limit since floor backlog swept after :=
  ⟨ascending, draining.passed.trans passed, aged, held, fewer.trans draining.left⟩

/-- A sweep starts. -/
theorem Draining.sweep [DecidableEq Payload]
    (draining : Draining age limit since floor backlog swept before)
    {worker : WorkerId} {now : Time} (later : since ≤ now)
    (taken : Outbox.step service before (.sweep worker age limit now) = some after) :
    Draining age limit since floor backlog (swept + 1) after := by
  have ascending := draining.ascending.step taken
  simp only [Outbox.step] at taken
  split at taken
  · contradiction
  · rename_i idle
    cases taken
    refine ⟨ascending, draining.passed, draining.aged, ?_, ?_⟩
    · refine draining.held.update (fun id isLocked => ?_) (fun id owner other isLocked => ?_) rfl
      · simp only at isLocked
        split at isLocked
        · rename_i claimed
          exact ⟨_, rfl, by simpa using claimed⟩
        · exact absurd isLocked (draining.held.idle idle id)
      · simp only at isLocked
        split at isLocked
        · cases isLocked
          exact absurd rfl other
        · exact isLocked
    · refine (claim_waiting draining.ascending.sorted (fun row member old unpublished =>
        (draining.aged row member old unpublished).trans_le later) worker).trans ?_
      have left := draining.left
      rw [Nat.mul_succ]
      omega

/-- Step lemma: a healthy step drains as many rows as the sweeps it starts. -/
theorem Draining.step [DecidableEq Payload]
    (draining : Draining age limit since floor backlog swept before)
    (healthy : Healthy age limit since before action)
    (taken : Outbox.step service before action = some after) :
    Draining age limit since floor backlog (swept + if action.isSweep then 1 else 0) after := by
  have ascending := draining.ascending.step taken
  cases action with
  | transact work now =>
      obtain ⟨db, _, rfl⟩ := Option.map_eq_some_iff.mp taken
      refine draining.keep ascending (Nat.le_add_right _ _) ?_ draining.held ?_
      · intro row member old unpublished
        rcases List.mem_append.mp member with isOld | isNew
        · exact draining.aged row isOld old unpublished
        · obtain ⟨envelope, isEnvelope, rfl⟩ := List.mem_map.mp isNew
          have lower := (mem_envelopesOf isEnvelope).1.1
          have passed := draining.passed
          simp only at old
          omega
      · have newer : ((envelopesOf service before.nextEventId
            ((service.queued db).drop (service.queued before.db).length)).map
              (fun envelope => (⟨envelope, now, none⟩ : Row Payload))).countP
                (waiting floor before.lockedBy) = 0 := by
          rw [List.countP_eq_zero]
          intro row isNew
          obtain ⟨envelope, isEnvelope, rfl⟩ := List.mem_map.mp isNew
          have lower := (mem_envelopesOf isEnvelope).1.1
          have passed := draining.passed
          have young : ¬ envelope.eventId < floor := by omega
          simp [waiting, young]
        rw [List.countP_append, newer, Nat.add_zero]
  | publishNow worker envelope =>
      simp only [Outbox.step] at taken
      split at taken
      · contradiction
      · split at taken
        · cases taken
          exact draining.keep ascending (Nat.le_refl _) draining.aged draining.held (Nat.le_refl _)
        · contradiction
  | publishFresh worker payload =>
      simp only [Outbox.step] at taken
      split at taken
      · contradiction
      · split at taken
        · cases taken
          exact draining.keep ascending (Nat.le_succ _) draining.aged draining.held (Nat.le_refl _)
        · contradiction
  | publish worker outcome =>
      simp only [Outbox.step] at taken
      split at taken
      · cases taken
        exact draining.keep ascending (Nat.le_refl _) draining.aged draining.held (Nat.le_refl _)
      · contradiction
  | mark worker now =>
      simp only [Outbox.step] at taken
      split at taken
      · split at taken
        · contradiction
        · rename_i envelope _ _ _
          cases taken
          have once := foldl_markPublished [envelope] before.rows now
          simp only [List.foldl_cons, List.foldl_nil] at once
          rw [once] at ascending ⊢
          exact draining.keep ascending (Nat.le_refl _) (aged_markAll draining.aged) draining.held
            (markAll_waiting (fun _ free => .inl free))
      · contradiction
  | markFails worker =>
      simp only [Outbox.step] at taken
      split at taken
      · cases taken
        exact draining.keep ascending (Nat.le_refl _) draining.aged draining.held (Nat.le_refl _)
      · contradiction
  | sweep worker itsAge itsLimit now =>
      obtain ⟨rfl, rfl, later⟩ := healthy
      exact draining.sweep later taken
  | sweepPublish worker outcome =>
      obtain rfl := healthy
      simp only [Outbox.step, ↓reduceIte] at taken
      split at taken
      · rename_i envelope remaining marked running
        cases taken
        refine draining.keep ascending (Nat.le_refl _) draining.aged ?_ (Nat.le_refl _)
        refine draining.held.update (fun id isLocked => ?_) (fun _ _ _ isLocked => isLocked) rfl
        obtain ⟨sweep, same, member⟩ := draining.held id worker isLocked
        rw [running, Option.some.injEq] at same
        subst same
        refine ⟨_, rfl, ?_⟩
        simp only [List.map_append, List.map_cons, List.map_nil, List.mem_append, List.mem_cons,
          List.not_mem_nil, or_false] at member ⊢
        tauto
      · contradiction
  | sweepCommit worker now =>
      simp only [Outbox.step] at taken
      split at taken
      · rename_i marked running
        cases taken
        rw [foldl_markPublished] at ascending ⊢
        refine draining.keep ascending (Nat.le_refl _) (aged_markAll draining.aged) ?_ ?_
        · refine draining.held.update (fun id isLocked => ?_) (fun id owner _ isLocked => ?_) rfl
          · exact absurd rfl (unlock_eq_some.mp isLocked).2
          · exact (unlock_eq_some.mp isLocked).1
        · refine markAll_waiting (fun id free => ?_)
          cases isLocked : before.lockedBy id with
          | none => exact .inl rfl
          | some owner =>
              right
              have own : owner = worker := by
                by_contra other
                have still := unlock_eq_some.mpr ⟨isLocked, other⟩
                cases still.symm.trans free
              subst own
              obtain ⟨sweep, same, member⟩ := draining.held id owner isLocked
              rw [running, Option.some.injEq] at same
              subst same
              simpa using member
      · contradiction
  | sweepRollback worker => exact absurd healthy id
  | purge hours now =>
      cases taken
      exact draining.keep ascending (Nat.le_refl _)
        (fun row member => draining.aged row (List.mem_of_mem_filter member)) draining.held
        (List.Sublist.countP_le List.filter_sublist)
  | crash worker =>
      cases taken
      have idle : before.sweeps worker = none := healthy
      have unlocked : unlock before.lockedBy worker = before.lockedBy := by
        funext id
        exact if_neg (draining.held.idle idle id)
      rw [unlocked] at ascending ⊢
      refine draining.keep ascending (Nat.le_refl _) draining.aged ?_ (Nat.le_refl _)
      exact draining.held.update (fun id isLocked => absurd isLocked (draining.held.idle idle id))
        (fun _ _ _ isLocked => isLocked) rfl

/-- Run lemma. -/
theorem Draining.of_run [DecidableEq Payload] {actions : List (Action Work Payload)}
    (draining : Draining age limit since floor backlog 0 before)
    (run : Run (Outbox.step service) (Healthy age limit since) before actions after) :
    Draining age limit since floor backlog (actions.countP Action.isSweep) after := by
  induction run with
  | start => exact draining
  | snoc _ healthy taken drained =>
      rw [List.countP_append, List.countP_singleton]
      exact drained.step healthy taken

theorem history_of_step [DecidableEq Payload] (taken : Outbox.step service before action = some after) :
    before.history <+: after.history := by
  rcases step_db taken with ⟨work, now, rfl, _, envelopes, history⟩ | ⟨_, history⟩
  · rw [history]
    exact List.prefix_append _ _
  · rw [history]

theorem committed_of_run [DecidableEq Payload] {allowed : State Db Work Payload → Action Work Payload → Prop}
    {actions : List (Action Work Payload)} (run : Run (Outbox.step service) allowed before actions after) :
    ∀ envelope ∈ before.committed, envelope ∈ after.committed := by
  have kept : before.history <+: after.history := by
    induction run with
    | start => exact List.prefix_rfl
    | snoc _ _ taken ih => exact ih.trans (history_of_step taken)
  obtain ⟨more, history⟩ := kept
  intro envelope member
  rw [State.committed, ← history, List.flatMap_append]
  exact List.mem_append_left _ member

end Draining

/-- A backlog drains.  From any reachable state without a sweep in progress, whatever else the
service does, as soon as healthy sweeps of any workers were started for as many rows as are
unpublished and have come to their end, every row there was is published, and every event
committed before is on the topic. -/
theorem sweeps_drain_the_backlog [DecidableEq Payload] (service : Service Db Work Payload)
    (start : Db) (past actions : List (Action Work Payload)) (before after : State Db Work Payload)
    (age limit : Nat) (since : Time) (run : Run (step service) Any (initial start) past before)
    (idle : ∀ worker, before.sweeps worker = none)
    (aged : ∀ row ∈ before.rows, row.publishedAt = none → row.createdAt + age < since)
    (healthy : Run (step service) (Healthy age limit since) before actions after)
    (enough : before.rows.countP (fun row => row.publishedAt.isNone) ≤
      limit * actions.countP Action.isSweep)
    (finished : ∀ worker, after.sweeps worker = none) :
    (∀ row ∈ after.rows, row.envelope.eventId < before.nextEventId → row.publishedAt.isSome) ∧
      ∀ envelope ∈ before.committed, envelope ∈ after.stored := by
  have ascending : Ascending before :=
    run.invariant ⟨.nil, by simp [initial]⟩ (fun _ _ _ ascending _ taken => ascending.step taken)
  have locked : Locked before :=
    run.invariant (by simp [Locked, initial]) (fun _ _ _ locked _ taken => locked.step taken)
  have draining : Draining age limit since before.nextEventId
      (before.rows.countP (fun row => row.publishedAt.isNone)) 0 before := by
    refine ⟨ascending, Nat.le_refl _, fun row member _ => aged row member, ?_, ?_⟩
    · intro id worker isLocked
      have running := locked id worker isLocked
      rw [idle] at running
      contradiction
    · refine List.countP_mono_left (fun row _ isWaiting => ?_)
      simp only [waiting, Bool.and_eq_true] at isWaiting
      exact isWaiting.1.2
  have drained := draining.of_run healthy
  have published : ∀ row ∈ after.rows, row.envelope.eventId < before.nextEventId →
      row.publishedAt.isSome := by
    intro row member old
    have left := drained.left
    rw [Nat.sub_eq_zero_of_le enough, Nat.le_zero, List.countP_eq_zero] at left
    have free : after.lockedBy row.envelope.eventId = none := by
      cases isLocked : after.lockedBy row.envelope.eventId with
      | none => rfl
      | some worker => exact absurd isLocked (drained.held.idle (finished worker) _)
    have notWaiting := left row member
    rw [Option.isSome_iff_ne_none]
    intro unpublished
    exact notWaiting (by simp [waiting, old, unpublished, free])
  refine ⟨published, fun envelope member => ?_⟩
  have safe : Safe service after :=
    healthy.invariant (safe_of_run run) (fun _ _ _ safe _ taken => safe.step taken)
  rcases safe.nothingLost envelope (committed_of_run healthy envelope member) with
    ⟨row, listed, rfl, unpublished⟩ | stored
  · have isPublished := published row listed ((safe_of_run run).fresh _ member)
    rw [unpublished] at isPublished
    contradiction
  · exact stored

/-! Three answers of Inventory wait for the broker; two workers sweep one each, one of them
two, while a fourth request is handled. -/

instance [DecidableEq Payload] (age limit : Nat) (since : Time) (state : State Db Work Payload)
    (action : Action Work Payload) : Decidable (Healthy age limit since state action) :=
  match action with
  | .sweep _ _ _ _ => inferInstanceAs (Decidable (_ ∧ _ ∧ _))
  | .sweepPublish _ _ => inferInstanceAs (Decidable (_ = _))
  | .sweepRollback _ => .isFalse id
  | .crash _ => inferInstanceAs (Decidable (_ = none))
  | .transact _ _ | .publishNow _ _ | .publishFresh _ _ | .publish _ _ | .mark _ _
  | .markFails _ | .sweepCommit _ _ | .purge _ _ => .isTrue trivial

def takes (attempt : Attempt) (now : Time) : List (Action Inventory.Action Outcome) :=
  handles (.stockReservationRequested attempt [("SKU-000001", 1)]) 4 now

def outage : List (Action Inventory.Action Outcome) :=
  let reserved := Outcome.stockReserved ⟨1, 1⟩ false
  takes ⟨1, 1⟩ 0 ++
    [.publishNow 7 ⟨"inventory.stock.v1", Checkout.publicId 1, 0, reserved⟩, .publish 7 .failed] ++
    takes ⟨2, 1⟩ 1 ++ takes ⟨3, 1⟩ 2

def threeSweeps : List (Action Inventory.Action Outcome) :=
  .sweep 0 2 1 10 :: takes ⟨4, 1⟩ 10 ++
    [.sweep 1 2 1 11, .sweepPublish 1 .acknowledged, .sweepPublish 0 .acknowledged,
      .sweepCommit 1 12, .sweep 1 2 1 13, .sweepCommit 0 13, .sweepPublish 1 .acknowledged,
      .purge 1 14, .sweepCommit 1 14]

/-- Inventory with nine items of one SKU. -/
def nineItems : State Inventory.Watched Inventory.Action Outcome :=
  initial (Inventory.watch (Inventory.idle (Inventory.seeded (Table.empty.put "SKU-000001" 9))))

theorem outage_runs : (outage.foldlM (step (inventorySessions 5)) nineItems).isSome = true := by
  decide +kernel

theorem threeSweeps_runs : (threeSweeps.foldlM (guarded (step (inventorySessions 5)) (Healthy 2 1 5))
    ((outage.foldlM (step (inventorySessions 5)) nineItems).get outage_runs)).isSome = true := by
  decide +kernel

theorem sweeps_drain_the_backlog_threeSweeps :
    let before := (outage.foldlM (step (inventorySessions 5)) nineItems).get outage_runs
    let after := (threeSweeps.foldlM (guarded (step (inventorySessions 5)) (Healthy 2 1 5)) before).get
      threeSweeps_runs
    ∀ envelope ∈ before.committed, envelope ∈ after.stored :=
  (sweeps_drain_the_backlog (inventorySessions 5) _ outage threeSweeps _ _ 2 1 5
    (.of_foldlM (Option.some_get outage_runs).symm) (fun _ => rfl) (by decide +kernel)
    (.of_guarded (Option.some_get threeSweeps_runs).symm) (by decide +kernel)
    (fun worker => match worker with
      | 0 => rfl
      | 1 => rfl
      | _ + 2 => rfl)).2

end SelfCheckout.Outbox
