import SelfCheckout.Lease.Locks

namespace SelfCheckout.Lease

open SelfCheckout.Data SelfCheckout.Checkout

/-! # One driver within a lease

An attempt is acquired when the database transaction that grants it commits.  Who
starts an attempt, takes it over or claims it leaves its `now()` in the record, and
whoever does so after that found the record untouched for a lease.
-/

variable {tx : TxId} {lease : Nat} {rows after : Rows} {label : Label}

/-- How a driver comes to an attempt. -/
inductive Grant where
  | started
  | tookOver
  | claimed
  /-- It is handed a COMPENSATING record to finish. -/
  | owed
deriving DecidableEq, Repr

/-- An attempt acquired by a database transaction that began at `now`. -/
structure Acquisition where
  grant : Grant
  epoch : Nat
  now : Time
deriving DecidableEq, Repr

def acquisition (rows : Rows) : Label → Option Acquisition
  | .commit =>
      match rows.beginning with
      | some ⟨now, .marked epoch _⟩ => some ⟨.started, epoch, now⟩
      | some ⟨now, .wrote record⟩ => some ⟨.tookOver, record.epoch, now⟩
      | some ⟨now, .owing epoch⟩ => some ⟨.owed, epoch, now⟩
      | _ => none
  | .commitClaim => rows.claiming.map (fun claiming => ⟨.claimed, claiming.row.epoch, claiming.now⟩)
  | _ => none

def Grant.any (_ : Grant) : Bool := true

/-- The grants that write the record; handing over a COMPENSATING record does not. -/
def Grant.takesLease : Grant → Bool
  | .owed => false
  | .started => true
  | .tookOver => true
  | .claimed => true

/-- Two acquisitions of one epoch, of the grants that count, are a lease apart. -/
def LeaseApart (tx : TxId) (lease : Nat) (labels : List Label) (counts : Grant → Bool) : Prop :=
  ∀ past first between second before middle earlier later,
    past ++ first :: (between ++ [second]) <+: labels →
    past.foldlM (step tx lease) opening = some before →
    (past ++ first :: between).foldlM (step tx lease) opening = some middle →
    acquisition before first = some earlier → acquisition middle second = some later →
    counts earlier.grant = true → counts later.grant = true → later.epoch = earlier.epoch →
    earlier.now + lease ≤ later.now

def takesOver : Begin → Bool
  | .takingOver _ => true
  | .refused _ => false
  | .started _ _ _ _ => false
  | .compensating _ => false

/-- The write was begun no earlier than the record was last touched. -/
def Rows.upToDate (tx : TxId) (rows : Rows) (id : SessionId) : Bool :=
  (rows.sessions.lookup id).all (fun now =>
    (rows.db.completions.lookup tx).all (fun record => decide (record.updatedAt ≤ now)))

/-- No claim on the record overlaps a take-over between its read and its write, and no driver
writes the record in a database transaction that began before the record was last touched. -/
def Unraced (tx : TxId) (lease : Nat) (rows : Rows) : Label → Prop
  | .decide =>
      rows.beginning.any (fun beginning =>
        takesOver (beginCompletion rows.db tx lease beginning.now)) = true →
      rows.claiming.isNone = true
  | .claim _ => rows.reading.isNone = true
  | .drive id statement => statement.writesRecord = true → rows.upToDate tx id = true
  | _ => True

instance (tx : TxId) (lease : Nat) (rows : Rows) (label : Label) :
    Decidable (Unraced tx lease rows label) := by
  cases label with
  | decide => exact inferInstanceAs (Decidable (_ = _ → _ = _))
  | claim id => exact inferInstanceAs (Decidable (_ = _))
  | drive id statement => exact inferInstanceAs (Decidable (_ = _ → _ = _))
  | _ => exact inferInstanceAs (Decidable True)

/-- A completion record is left alone, or touched at `now`. -/
def Touches (now : Time) (before after : Option Completion) : Prop :=
  after = before ∨ ∃ old new, before = some old ∧ after = some new ∧ new.epoch = old.epoch ∧
    new.updatedAt = now

section Touches

variable (db : Database) (tx : TxId) (now : Time)

theorem setCompletionState_touches (state : CompletionState) (error : Option String) :
    Touches now (db.completions.lookup tx)
      ((setCompletionState db tx state error now).completions.lookup tx) := by
  simp only [setCompletionState, Table.lookup_alter, ↓reduceIte]
  cases found : db.completions.lookup tx with
  | none => exact .inl rfl
  | some record =>
      rw [Option.map_some]
      split
      · exact .inl rfl
      · exact .inr ⟨record, _, rfl, rfl, rfl, rfl⟩

theorem finalize_touches (totalCents : Nat) :
    Touches now (db.completions.lookup tx)
      ((finalize db tx totalCents now).2.completions.lookup tx) := by
  rcases finalize_cases db tx totalCents now with missed | ⟨_, _, _, done⟩
  · rw [missed]
    exact .inl rfl
  · simp only [done, Table.lookup_alter, ↓reduceIte]
    cases db.completions.lookup tx with
    | none => exact .inl rfl
    | some record => exact .inr ⟨record, _, rfl, rfl, rfl, rfl⟩

theorem reopen_touches :
    Touches now (db.completions.lookup tx) ((reopen db tx now).completions.lookup tx) := by
  rcases reopen_cases db tx now with missed | ⟨_, _, _, done⟩
  · rw [missed]
    exact .inl rfl
  · simp only [done, Table.lookup_alter, ↓reduceIte]
    cases db.completions.lookup tx with
    | none => exact .inl rfl
    | some record =>
        rw [Option.map_some]
        split
        · exact .inl rfl
        · exact .inr ⟨record, _, rfl, rfl, rfl, rfl⟩

theorem claim_touches :
    Touches now (db.completions.lookup tx) ((claim db tx now).completions.lookup tx) := by
  simp only [claim, Table.lookup_alter, ↓reduceIte]
  cases db.completions.lookup tx with
  | none => exact .inl rfl
  | some record => exact .inr ⟨record, _, rfl, rfl, rfl, rfl⟩

variable {db} {tx} {now}

theorem drive_leaves {statement : Statement} {server : Server} (writes : statement.writesRecord = false)
    (done : Checkout.step ⟨db, fun _ => none⟩ (statement.action tx now) = some server) :
    server.db.completions.lookup tx = db.completions.lookup tx := by
  cases statement with
  | insertTransaction =>
      cases step_takes done with
      | inserts absent => rfl
  | scanItem sku priceCents =>
      cases step_takes done with
      | scans => rw [scanItem_completions]
  | _ => contradiction

theorem drive_touches {statement : Statement} {server : Server}
    (done : Checkout.step ⟨db, fun _ => none⟩ (statement.action tx now) = some server) :
    Touches now (db.completions.lookup tx) (server.db.completions.lookup tx) := by
  cases statement with
  | insertTransaction =>
      cases step_takes done with
      | inserts absent => exact .inl rfl
  | scanItem sku priceCents =>
      cases step_takes done with
      | scans => exact .inl (by rw [scanItem_completions])
  | setReserved =>
      cases step_takes done with
      | reserves => exact setCompletionState_touches db tx now .reserved none
  | markCompensating epoch reason =>
      cases step_takes done with
      | compensates => exact setCompletionState_touches db tx now .compensating reason
  | finalize totalCents =>
      cases step_takes done with
      | finalizes free => exact finalize_touches db tx now totalCents
  | reopen =>
      cases step_takes done with
      | reopens free => exact reopen_touches db tx now

end Touches

def PhaseSince (lease epoch touched now : Nat) : Phase → Prop
  | .locked => True
  | .owing _ => True
  | .marked started _ => epoch < started
  | .read record => record.epoch = epoch → touched + lease ≤ now
  | .wrote record => record.epoch = epoch → touched + lease ≤ now

/-- The attempt `epoch` was touched at `touched`: while it is the current one its record
says so, and whoever is about to acquire it read the record a lease later. -/
structure Since (tx : TxId) (lease epoch touched : Nat) (rows : Rows) : Prop where
  clock : touched ≤ rows.clock
  reached : epoch ≤ epochOf rows.db tx
  record : ∀ record, rows.db.completions.lookup tx = some record → record.epoch = epoch →
    touched ≤ record.updatedAt
  beginning : ∀ now phase, rows.beginning = some ⟨now, phase⟩ →
    PhaseSince lease epoch touched now phase
  claiming : ∀ claiming, rows.claiming = some claiming → claiming.row.epoch = epoch →
    touched + lease ≤ claiming.now

section Since

variable {epoch touched : Nat}

theorem epochOf_eq {db : Database} {record : Completion}
    (found : db.completions.lookup tx = some record) : epochOf db tx = record.epoch := by
  simp [epochOf, found]

theorem started_record {db marked : Database} {now : Time} {started totalCents : Nat}
    {request : Request}
    (began : beginCompletion db tx lease now = .started started totalCents request marked) :
    started = epochOf db tx + 1 ∧ ∃ record, marked.completions.lookup tx = some record ∧
      record.epoch = started ∧ record.updatedAt = now := by
  obtain ⟨_, _, epoch, rfl, rfl⟩ := started_eq began
  refine ⟨?_, _, Table.lookup_put_self _ _ _, epoch.symm, rfl⟩
  rw [epoch, markCompleting, epochOf]
  cases db.completions.lookup tx <;> simp

/-- A take-over in progress has read a record of the current epoch. -/
theorem reading_current (coherent : Coherent (view tx rows)) {record : Completion}
    (reading : rows.reading = some record) : record.epoch = epochOf rows.db tx := by
  obtain ⟨_, _, current, found, epoch, _⟩ :=
    coherent.reads tx record (by simpa [view] using reading)
  exact epoch.symm.trans (epochOf_eq found).symm

/-- The record is touched no earlier than the acquisition was. -/
theorem Since.touches (since : Since tx lease epoch touched rows) {db : Database} {now : Time}
    (touches : Touches now (rows.db.completions.lookup tx) (db.completions.lookup tx))
    (later : ∀ record, rows.db.completions.lookup tx = some record → record.epoch = epoch →
      touched ≤ now) :
    epoch ≤ epochOf db tx ∧ ∀ record, db.completions.lookup tx = some record →
      record.epoch = epoch → touched ≤ record.updatedAt := by
  rcases touches with same | ⟨old, new, foundOld, foundNew, sameEpoch, now⟩
  · rw [epochOf, same]
    exact ⟨since.reached, since.record⟩
  · refine ⟨?_, ?_⟩
    · rw [epochOf_eq foundNew, sameEpoch, ← epochOf_eq foundOld]
      exact since.reached
    · intro record found isEpoch
      cases foundNew.symm.trans found
      rw [now]
      exact later old foundOld (sameEpoch.symm.trans isEpoch)

/-- A driver's write is later than the acquisition, if it is later than the record it writes. -/
theorem Since.drives (since : Since tx lease epoch touched rows) {id : SessionId} {now : Time}
    {statement : Statement} {server : Server} (begun : rows.sessions.lookup id = some now)
    (unraced : Unraced tx lease rows (.drive id statement))
    (done : Checkout.step ⟨rows.db, fun _ => none⟩ (statement.action tx now) = some server) :
    epoch ≤ epochOf server.db tx ∧ ∀ record, server.db.completions.lookup tx = some record →
      record.epoch = epoch → touched ≤ record.updatedAt := by
  cases writes : statement.writesRecord with
  | true =>
      have upToDate : rows.upToDate tx id = true := unraced writes
      refine since.touches (drive_touches done) fun record found current => ?_
      simp only [Rows.upToDate, begun, found, Option.all_some, decide_eq_true_eq] at upToDate
      exact (since.record record found current).trans upToDate
  | false =>
      have same := drive_leaves writes done
      rw [epochOf, same]
      exact ⟨since.reached, since.record⟩

theorem Since.step (since : Since tx lease epoch touched rows) (locked : Locked tx lease rows)
    (coherent : Coherent (view tx rows)) (unraced : Unraced tx lease rows label)
    (does : Does tx lease rows label after) : Since tx lease epoch touched after := by
  cases does with
  | ticks later => exact { since with clock := since.clock.trans later }
  | begins => exact { since with }
  | leaves => exact { since with }
  | locks begun free =>
      refine { since with beginning := fun _ _ held => ?_ }
      cases held
      trivial
  | refuses held began => exact { since with beginning := fun _ _ held => by contradiction }
  | marks held free began =>
      refine { since with beginning := fun _ _ held => ?_ }
      cases held
      have reached := since.reached
      rw [PhaseSince, (started_record began).1]
      omega
  | @reads now record held began =>
      refine { since with beginning := fun _ _ held => ?_ }
      cases held
      cases begins began with
      | takingOver found isCompleting read notOwing expired =>
          intro current
          have old := since.record record read current
          simp only [Completion.fresh, decide_eq_false_iff_not, Nat.not_lt] at expired
          omega
  | owes held began =>
      refine { since with beginning := fun _ _ held => ?_ }
      cases held
      trivial
  | writesBack held free =>
      refine { since with beginning := fun _ _ same => ?_ }
      cases same
      have read := since.beginning _ _ held
      exact read
  | @starts now started marked held =>
      have later : epoch < started := since.beginning _ _ held
      obtain ⟨totalCents, request, began⟩ := locked.marked _ _ _ held
      obtain ⟨_, new, found, isNew, _⟩ := started_record began
      refine
        { since with
          reached := ?_
          record := ?_
          beginning := fun _ _ held => by contradiction }
      · rw [epochOf_eq found, isNew]
        exact Nat.le_of_lt later
      · intro record same isEpoch
        cases found.symm.trans same
        omega
  | handsOver held => exact { since with beginning := fun _ _ held => by contradiction }
  | @takesOver now record held =>
      have read := since.beginning _ _ held
      have current := reading_current coherent (reading_of_held held)
      obtain ⟨reached, touched⟩ := since.touches
        (setCompletionState_touches rows.db tx now record.state none) (fun _ found isEpoch => by
          have past := read (current.trans ((epochOf_eq found).trans isEpoch))
          omega)
      exact
        { since with
          reached
          record := touched
          beginning := fun _ _ held => by contradiction }
  | rollsBack held => exact { since with beginning := fun _ _ held => by contradiction }
  | @claims id now record begun free found stuck =>
      refine { since with claiming := fun _ held => ?_ }
      cases held
      intro current
      have old := since.record record found current
      simp only [Completion.stuck, Bool.and_eq_true, decide_eq_true_eq] at stuck
      exact Nat.le_of_lt (Nat.lt_of_le_of_lt (Nat.add_le_add_right old lease) stuck.2)
  | @commitsClaim claiming held =>
      obtain ⟨record, found, _, row⟩ := locked.stuck claiming held
      have current : epochOf rows.db tx = claiming.row.epoch := by
        rw [row]
        exact epochOf_eq found
      obtain ⟨reached, touched⟩ := since.touches (claim_touches rows.db tx claiming.now)
        (fun _ found isEpoch => by
          have past := since.claiming claiming held
            (current.symm.trans ((epochOf_eq found).trans isEpoch))
          omega)
      exact
        { since with
          reached
          record := touched
          claiming := fun _ held => by contradiction }
  | dropsClaim held => exact { since with claiming := fun _ held => by contradiction }
  | drives begun ready done =>
      obtain ⟨reached, touched⟩ := since.drives begun unraced done
      exact { since with reached, record := touched }

/-- No claim holds the record that a take-over has read. -/
def Alone (rows : Rows) : Prop :=
  ∀ now record, rows.beginning = some ⟨now, .read record⟩ → rows.claiming = none

theorem Alone.step (alone : Alone rows) (unraced : Unraced tx lease rows label)
    (does : Does tx lease rows label after) : Alone after := by
  cases does with
  | ticks later => exact alone
  | begins => exact alone
  | leaves => exact alone
  | drives begun ready done => exact alone
  | @reads now record held began =>
      intro _ _ _
      exact Option.isNone_iff_eq_none.mp (unraced (by simp [held, began, takesOver]))
  | claims begun free found stuck =>
      intro now record held
      have idle : rows.reading.isNone = true := unraced
      have held : rows.beginning = some ⟨now, .read record⟩ := held
      rw [reading_of_held held] at idle
      contradiction
  | commitsClaim held =>
      intro _ _ _
      rfl
  | dropsClaim held =>
      intro _ _ _
      rfl
  | _ =>
      -- The `_begin` that holds the transaction's row, if any, has read no record.
      intro _ _ same
      cases same

end Since

theorem alone_of_run {labels : List Label}
    (run : Run (step tx lease) (Unraced tx lease) opening labels rows) : Alone rows :=
  run.invariant (fun _ _ found => by contradiction)
    (fun _ _ _ alone unraced taken => alone.step unraced (step_does taken))

/-- What holds of the rows right after an acquisition that wrote the record. -/
theorem since_of_record {now : Time} {record : Completion} (past : now ≤ rows.clock)
    (found : rows.db.completions.lookup tx = some record) (touched : now ≤ record.updatedAt)
    (beginning : ∀ other phase, rows.beginning = some ⟨other, phase⟩ →
      PhaseSince lease record.epoch now other phase)
    (unclaimed : rows.claiming = none) : Since tx lease record.epoch now rows where
  clock := past
  reached := Nat.le_of_eq (epochOf_eq found).symm
  record other same _ := by
    cases found.symm.trans same
    exact touched
  beginning := beginning
  claiming claiming held := by
    rw [unclaimed] at held
    contradiction

/-- What a take-over writes back. -/
theorem written_record (coherent : Coherent (view tx rows)) {read : Completion} (now : Time)
    (reading : rows.reading = some read) :
    ∃ record, (setCompletionState rows.db tx read.state none now).completions.lookup tx =
      some record ∧ record.epoch = read.epoch ∧ record.updatedAt = now := by
  obtain ⟨_, ⟨row, foundRow, isCompleting⟩, current, found, epoch, _⟩ :=
    coherent.reads tx read (by simpa [view] using reading)
  have coupled := coherent.coupled tx
  rw [foundRow, found] at coupled
  obtain ⟨_, live, same, unfinished⟩ := coupled.of_completing isCompleting
  cases same
  have found : rows.db.completions.lookup tx = some current := found
  exact ⟨{ current with state := read.state, updatedAt := now }, by
    simp [setCompletionState, found, unfinished], epoch, rfl⟩

theorem since_of_acquisition (alone : Alone rows) (locked : Locked tx lease rows)
    (coherent : Coherent (view tx rows)) (does : Does tx lease rows label after)
    {acquired : Acquisition} (acquires : acquisition rows label = some acquired)
    (takes : acquired.grant.takesLease = true) :
    Since tx lease acquired.epoch acquired.now after := by
  cases does with
  | @starts now epoch marked held =>
      simp only [acquisition, held] at acquires
      cases acquires
      obtain ⟨totalCents, request, began⟩ := locked.marked _ _ _ held
      obtain ⟨_, new, found, rfl, touched⟩ := started_record began
      refine since_of_record (locked.began _ held) found (Nat.le_of_eq touched.symm) ?_ ?_
      · intro _ _ none
        contradiction
      · exact Option.eq_none_iff_forall_ne_some.mpr (locked.notClaimed held rfl)
  | handsOver held =>
      simp only [acquisition, held] at acquires
      cases acquires
      contradiction
  | @takesOver now read held =>
      simp only [acquisition, held] at acquires
      cases acquires
      obtain ⟨record, found, epoch, touched⟩ :=
        written_record coherent now (reading_of_held held)
      rw [← epoch]
      refine since_of_record (locked.began _ held) found (Nat.le_of_eq touched.symm) ?_ ?_
      · intro _ _ none
        contradiction
      · exact Option.eq_none_iff_forall_ne_some.mpr (locked.notClaimed held rfl)
  | @commitsClaim claiming held =>
      simp only [acquisition, held, Option.map_some, Option.some.injEq] at acquires
      subst acquires
      obtain ⟨record, found, _, row⟩ := locked.stuck claiming held
      obtain ⟨new, claimed, epoch, touched⟩ : ∃ new,
          (Checkout.claim rows.db tx claiming.now).completions.lookup tx = some new ∧
            new.epoch = claiming.row.epoch ∧ new.updatedAt = claiming.now := by
        rw [row]
        exact ⟨{ record with attempts := record.attempts + 1, updatedAt := claiming.now },
          by simp [Checkout.claim, found], rfl, rfl⟩
      rw [← epoch]
      refine since_of_record (locked.claimed _ held) claimed (Nat.le_of_eq touched.symm) ?_ rfl
      intro other phase began
      have began : rows.beginning = some ⟨other, phase⟩ := began
      have free := locked.apart claiming _ held began
      cases phase with
      | locked => trivial
      | owing epoch => trivial
      | read seen =>
          rw [alone other seen began] at held
          contradiction
      | marked epoch after => contradiction
      | wrote seen => contradiction
  | _ => contradiction

theorem Since.run {epoch touched : Nat} {acquired : Rows} {labels later : List Label}
    (since : Since tx lease epoch touched acquired)
    (past : Run (Lease.step tx lease) (Unraced tx lease) opening labels acquired)
    (run : Run (Lease.step tx lease) (Unraced tx lease) acquired later rows) :
    Since tx lease epoch touched rows := by
  induction run with
  | start => exact since
  | snoc onward permitted taken ih =>
      obtain ⟨locked, coherent⟩ := locked_of_run (past.append onward)
      exact ih.step locked coherent permitted (step_does taken)

theorem Since.apart {epoch touched : Nat} (since : Since tx lease epoch touched rows)
    {acquired : Acquisition} (acquires : acquisition rows label = some acquired)
    (takes : acquired.grant.takesLease = true) (same : acquired.epoch = epoch) :
    touched + lease ≤ acquired.now := by
  unfold acquisition at acquires
  split at acquires
  · split at acquires
    · rename_i held
      cases acquires
      have later := since.beginning _ _ held
      rw [← same] at later
      exact absurd later (Nat.lt_irrefl _)
    · rename_i held
      cases acquires
      exact since.beginning _ _ held same
    · cases acquires
      contradiction
    · contradiction
  · obtain ⟨claiming, held, rfl⟩ := Option.map_eq_some_iff.mp acquires
    exact since.claiming claiming held same
  · contradiction

/-- The lease admits one driver at a time: in every run of `_begin`s, `claim_stuck`s and
drivers' statements in which no claim overlaps a take-over between its read and its
write and no driver's write is older than the record, two acquisitions of one epoch by
starting it, taking it over or claiming it are a lease apart. -/
theorem lease_admits_one_driver (tx : TxId) (lease : Nat) (labels : List Label) (rows : Rows)
    (run : Run (step tx lease) (Unraced tx lease) opening labels rows) :
    LeaseApart tx lease labels Grant.takesLease := by
  intro past first between second before middle earlier later isPrefix reachedFirst reachedSecond
    acquires acquiresAgain takes takesAgain same
  obtain ⟨rest, rfl⟩ := isPrefix
  have whole : past ++ first :: (between ++ [second]) ++ rest =
      (past ++ [first]) ++ (between ++ (second :: rest)) := by simp
  rw [whole] at run
  obtain ⟨acquired, untilFirst, afterFirst⟩ := run.split
  obtain ⟨before', untilBefore, _, taken⟩ := untilFirst.last
  cases untilBefore.foldlM_eq.symm.trans reachedFirst
  obtain ⟨middle', between', _⟩ := afterFirst.split
  have reached := (untilFirst.append between').foldlM_eq
  rw [List.append_assoc, List.singleton_append, reachedSecond] at reached
  cases reached
  obtain ⟨locked, coherent⟩ := locked_of_run untilBefore
  have since : Since tx lease earlier.epoch earlier.now acquired :=
    since_of_acquisition (alone_of_run untilBefore) locked coherent (step_does taken) acquires takes
  exact (since.run untilFirst between').apart acquiresAgain takesAgain same

/-- A transaction with one item. -/
def oneItem : List Label :=
  [.start 0, .drive 0 .insertTransaction, .start 0, .drive 0 (.scanItem "SKU-000001" 250)]

/-- An attempt is started at 0, claimed at 20 and taken over at 40. -/
def threeGrants : List Label :=
  oneItem ++ [.start 0, .lock 0, .decide, .commit, .tick 5, .start 3, .drive 3 .setReserved,
    .tick 20, .start 1, .claim 1, .commitClaim, .tick 40, .start 2, .lock 2, .decide, .writeBack,
    .commit]

theorem threeGrants_runs :
    (threeGrants.foldlM (guarded (step 1 10) (Unraced 1 10)) opening).isSome = true := by
  decide +kernel

theorem lease_admits_one_driver_threeGrants : LeaseApart 1 10 threeGrants Grant.takesLease :=
  lease_admits_one_driver 1 10 threeGrants _ (.of_guarded (Option.some_get threeGrants_runs).symm)

/-- A take-over has read the expired record, and a claim takes it. -/
def claimedMeanwhile : List Label :=
  oneItem ++ [.start 0, .lock 0, .decide, .commit, .tick 20, .start 1, .start 2, .lock 1, .decide, .claim 2]

theorem claimedMeanwhile_runs : (claimedMeanwhile.foldlM (step 1 10) opening).isSome = true := by
  decide +kernel

theorem writtenBack_runs : ((claimedMeanwhile ++ Label.commitClaim :: [Label.writeBack]).foldlM
    (step 1 10) opening).isSome = true := by
  decide +kernel

/-- Nothing keeps a claim from overlapping a take-over, and then both acquire the attempt. -/
theorem overlapping_claim_shares_attempt :
    ¬ LeaseApart 1 10 (claimedMeanwhile ++ Label.commitClaim :: ([Label.writeBack] ++ [.commit]))
      Grant.takesLease := by
  intro apart
  have claimed : acquisition ((claimedMeanwhile.foldlM (step 1 10) opening).get
      claimedMeanwhile_runs) .commitClaim = some ⟨.claimed, 1, 20⟩ := by
    decide +kernel
  have tookOver : acquisition (((claimedMeanwhile ++ Label.commitClaim :: [Label.writeBack]).foldlM
      (step 1 10) opening).get writtenBack_runs) .commit = some ⟨.tookOver, 1, 20⟩ := by
    decide +kernel
  have within := apart _ _ _ _ _ _ _ _ List.prefix_rfl (Option.some_get _).symm
    (Option.some_get _).symm claimed tookOver rfl rfl rfl
  contradiction

/-- A driver's write begins at 3 and stalls, and recovery claims the attempt at 20. -/
def claimedBehindDriver : List Label :=
  oneItem ++ [.start 0, .lock 0, .decide, .commit, .tick 3, .start 3, .tick 20, .start 1, .claim 1]

/-- The write goes through at 21, and a call comes at 22. -/
def writtenLate : List Label :=
  [.tick 21, .drive 3 .setReserved, .tick 22, .start 2, .lock 2, .decide, .writeBack]

theorem claimedBehindDriver_runs : (claimedBehindDriver.foldlM (step 1 10) opening).isSome = true := by
  decide +kernel

theorem writtenLate_runs :
    ((claimedBehindDriver ++ .commitClaim :: writtenLate).foldlM (step 1 10) opening).isSome =
      true := by
  decide +kernel

/-- A write that was begun before a claim sets the record's time back, and the call takes over
what recovery claimed two seconds before. -/
theorem late_write_shares_attempt :
    ¬ LeaseApart 1 10 (claimedBehindDriver ++ .commitClaim :: (writtenLate ++ [.commit]))
      Grant.takesLease := by
  intro apart
  have claimed : acquisition ((claimedBehindDriver.foldlM (step 1 10) opening).get
      claimedBehindDriver_runs) .commitClaim = some ⟨.claimed, 1, 20⟩ := by
    decide +kernel
  have tookOver : acquisition (((claimedBehindDriver ++ .commitClaim :: writtenLate).foldlM
      (step 1 10) opening).get writtenLate_runs) .commit = some ⟨.tookOver, 1, 22⟩ := by
    decide +kernel
  have within := apart _ _ _ _ _ _ _ _ List.prefix_rfl (Option.some_get _).symm
    (Option.some_get _).symm claimed tookOver rfl rfl rfl
  contradiction

/-- A rollback was not delivered, and recovery claims the attempt at 20. -/
def claimedRollback : List Label :=
  oneItem ++ [.start 0, .lock 0, .decide, .commit, .tick 5, .start 3,
    .drive 3 (.markCompensating 1 none), .tick 20, .start 1, .claim 1]

/-- A call comes at 21. -/
def callAfterwards : List Label := [.tick 21, .start 2, .lock 2, .decide]

theorem claimedRollback_runs : (claimedRollback.foldlM (step 1 10) opening).isSome = true := by
  decide +kernel

theorem callAfterwards_runs :
    ((claimedRollback ++ .commitClaim :: callAfterwards).foldlM (step 1 10) opening).isSome =
      true := by
  decide +kernel

/-- A call is handed the COMPENSATING record that recovery has claimed a second ago. -/
theorem compensating_record_is_shared :
    ¬ LeaseApart 1 10 (claimedRollback ++ .commitClaim :: (callAfterwards ++ [.commit]))
      Grant.any := by
  intro apart
  have claimed : acquisition ((claimedRollback.foldlM (step 1 10) opening).get
      claimedRollback_runs) .commitClaim = some ⟨.claimed, 1, 20⟩ := by
    decide +kernel
  have handed : acquisition (((claimedRollback ++ .commitClaim :: callAfterwards).foldlM
      (step 1 10) opening).get callAfterwards_runs) .commit = some ⟨.owed, 1, 21⟩ := by
    decide +kernel
  have within := apart _ _ _ _ _ _ _ _ List.prefix_rfl (Option.some_get _).symm
    (Option.some_get _).symm claimed handed rfl rfl rfl
  contradiction

end SelfCheckout.Lease
