import SelfCheckout.Relay.Delivery

namespace SelfCheckout.Relay

open SelfCheckout.Data

/-! # The grace of a gap

When each statement runs is put beside the relay's machine, with what every batch read
found and which read started the timer of an instance.  The timer carries the id it
waits for and the clock of the loop, which runs after the read: a hole that is filled
between the two is given up, and so is a hole of one log on the timer of another.
-/

variable {grace : Time}

/-- A batch read: when it ran, on which log, above which position, and its rows. -/
structure BatchRead where
  time : Time
  log : Token
  position : Nat
  rows : List Scan
deriving DecidableEq, Repr

/-- The read found the id missing below a committed one. -/
def BatchRead.Misses (read : BatchRead) (id : Nat) : Prop :=
  read.position < id ∧ id ∉ read.rows.map Scan.id ∧ ∃ row ∈ read.rows, id < row.id

instance (read : BatchRead) (id : Nat) : Decidable (read.Misses id) :=
  inferInstanceAs (Decidable (_ ∧ _ ∧ _))

/-- An id declared a permanent gap: by which read, and which reads came before it. -/
structure Skip where
  id : Nat
  read : BatchRead
  earlier : List BatchRead

/-- A scan that was committed. -/
structure Committed where
  log : Token
  id : Nat
  time : Time

/-- Some read before the skipping one had found the id missing, on the same log and no
later than the given time less the grace. -/
def Skip.FoundBefore (grace : Time) (skip : Skip) (time : Time) : Prop :=
  ∃ prior ∈ skip.earlier, prior.log = skip.read.log ∧ prior.Misses skip.id ∧
    prior.time + grace ≤ time

instance (grace : Time) (skip : Skip) (time : Time) : Decidable (skip.FoundBefore grace time) :=
  inferInstanceAs (Decidable (∃ prior ∈ skip.earlier, _))

def Skip.Waited (grace : Time) (skip : Skip) : Prop :=
  skip.read.Misses skip.id ∧ skip.FoundBefore grace skip.read.time

/-- The relay's system with its time.  `noted` holds the read that started the timer of
each instance. -/
structure Timed where
  system : System
  now : Time
  reads : List BatchRead
  noted : Table RelayId BatchRead
  skips : List Skip
  commits : List Committed

def Timed.initial (token : Token) : Timed :=
  { system := Relay.initial token, now := 0, reads := [], noted := Table.empty, skips := [],
    commits := [] }

/-- `self._gap` -/
def System.gapOf (system : System) (id : RelayId) : Option (Nat × Time) :=
  (system.relays.lookup id).bind ScanRelay.gap

/-- The time moves on, and a step has changed the system. -/
def Timed.moved (timed : Timed) (time : Time) (after : System) : Timed :=
  { timed with system := after, now := time }

/-- A pass has read its batch. -/
def Timed.read (timed : Timed) (time : Time) (id : RelayId) (pass : Pass) (after : System) : Timed :=
  let read := { time, log := timed.system.token, position := pass.position, rows := pass.rows }
  { timed.moved time after with
    reads := timed.reads ++ [read]
    noted :=
      if after.gapOf id = timed.system.gapOf id then timed.noted else timed.noted.put id read
    skips := timed.skips ++ pass.skipped.map (fun id => { id, read, earlier := timed.reads }) }

/-- What a step leaves on record. -/
def Timed.record (timed : Timed) (time : Time) (after : System) : Label → Timed
  | .commit scan =>
      { timed.moved time after with
        commits := timed.commits ++ [{ log := timed.system.token, id := scan.id, time }] }
  | .branch id _ =>
      match after.passes[timed.system.passes.length]? with
      | some pass => timed.read time id pass after
      | none => timed.moved time after
  | _ => timed.moved time after

/-- The loop over a batch reads the clock after the batch was read. -/
def ClockAfter (system : System) (time : Time) : Label → Prop
  | .branch _ clock => ∀ scan ∈ system.scans, time ≤ clock scan.id
  | _ => True

instance (system : System) (time : Time) : ∀ label, Decidable (ClockAfter system time label)
  | .branch _ clock => inferInstanceAs (Decidable (∀ scan ∈ system.scans, time ≤ clock scan.id))
  | .commit _ | .replace _ | .start _ | .crash _ | .fail _ | .readState _ | .readToken _
  | .store _ | .lose _ | .acknowledge _ | .save _ => inferInstanceAs (Decidable True)

/-- A step at a time: the time never goes back. -/
def Timed.step (grace : Time) (timed : Timed) (timedLabel : Time × Label) : Option Timed :=
  if timed.now ≤ timedLabel.1 ∧ ClockAfter timed.system timedLabel.1 timedLabel.2 then
    (Relay.step grace timed.system timedLabel.2).map
      (fun after => timed.record timedLabel.1 after timedLabel.2)
  else none

/-- The timer for the next id had run out when the batch was read, and a read of the log
now read had started it. -/
def TimerDue (grace : Time) (timed : Timed) (time : Time) (id : RelayId)
    (gap : Option (Nat × Time)) (position : Nat) : Prop :=
  (∃ timer ∈ gap, timer.1 = position + 1 ∧ timer.2 + grace ≤ time) ∧
    ∃ noted ∈ timed.noted.lookup id, noted.log = timed.system.token

instance (timed : Timed) (time : Time) (id : RelayId) (gap : Option (Nat × Time))
    (position : Nat) : Decidable (TimerDue grace timed time id gap position) :=
  inferInstanceAs (Decidable (_ ∧ _))

/-- Where the loop finds the grace over at the first row, the timer was due; and holes
further on are met only with a grace to wait. -/
def DueBatch (grace : Time) (timed : Timed) (time : Time) (id : RelayId) (clock : Nat → Time)
    (gap : Option (Nat × Time)) (position : Nat) : List Scan → Prop
  | [] => True
  | row :: rows =>
      (row.id = position + 1 ∨
        clock row.id < (waiting gap (position + 1) (clock row.id)).2 + grace ∨
        TimerDue grace timed time id gap position) ∧
      (0 < grace ∨ (row :: rows).IsChain (fun before after => after.id = before.id + 1))

instance (timed : Timed) (time : Time) (id : RelayId) (clock : Nat → Time)
    (gap : Option (Nat × Time)) (position : Nat) :
    ∀ rows, Decidable (DueBatch grace timed time id clock gap position rows)
  | [] => inferInstanceAs (Decidable True)
  | _ :: _ => inferInstanceAs (Decidable (_ ∧ _))

def DuePass (grace : Time) (timed : Timed) (time : Time) (id : RelayId) (clock : Nat → Time) :
    Option ScanRelay → Prop
  | some ⟨gap, .gotToken (some (position, savedToken)) token⟩ =>
      token = savedToken → DueBatch grace timed time id clock gap position
        (relayBatch timed.system.scans position batchSize)
  | _ => True

instance (timed : Timed) (time : Time) (id : RelayId) (clock : Nat → Time) :
    ∀ relay, Decidable (DuePass grace timed time id clock relay)
  | some ⟨_, .gotToken (some _) _⟩ => inferInstanceAs (Decidable (_ → _))
  | none | some ⟨_, .idle⟩ | some ⟨_, .gotState _⟩ | some ⟨_, .gotToken none _⟩
  | some ⟨_, .initialising _⟩ | some ⟨_, .announcing _ _⟩ | some ⟨_, .publishing _ _ _ _ _⟩
  | some ⟨_, .saving _ _ _⟩ => inferInstanceAs (Decidable True)

/-- Every pass that reads a batch reads it with a due timer. -/
def Due (grace : Time) (timed : Timed) (timedLabel : Time × Label) : Prop :=
  match timedLabel.2 with
  | .branch id clock =>
      DuePass grace timed timedLabel.1 id clock (timed.system.relays.lookup id)
  | _ => True

instance (timed : Timed) : ∀ timedLabel, Decidable (Due grace timed timedLabel)
  | (time, .branch id clock) =>
      inferInstanceAs (Decidable
        (DuePass grace timed time id clock (timed.system.relays.lookup id)))
  | (_, .commit _) | (_, .replace _) | (_, .start _) | (_, .crash _) | (_, .fail _)
  | (_, .readState _) | (_, .readToken _) | (_, .store _) | (_, .lose _) | (_, .acknowledge _)
  | (_, .save _) => inferInstanceAs (Decidable True)

/-- The batch leaves out no committed scan between its position and a row. -/
theorem mem_relayBatch_of_below {scans : List Scan} {after limit : Nat} {scan row : Scan}
    (committed : scan ∈ scans) (beyond : after < scan.id) (member : row ∈ relayBatch scans after limit)
    (below : scan.id < row.id) : scan ∈ relayBatch scans after limit := by
  have total : Std.Total (fun left right : Scan => left.id ≤ right.id) :=
    ⟨fun left right => le_total left.id right.id⟩
  have transitive : IsTrans Scan (fun left right => left.id ≤ right.id) :=
    ⟨fun _ _ _ first second => le_trans first second⟩
  have sorted := List.pairwise_insertionSort (fun left right : Scan => left.id ≤ right.id)
    (scans.filter (fun scan => decide (after < scan.id)))
  have listed : scan ∈ (scans.filter (fun scan => decide (after < scan.id))).insertionSort
      (fun left right => left.id ≤ right.id) := by
    rw [(List.perm_insertionSort _ _).mem_iff, List.mem_filter]
    exact ⟨committed, decide_eq_true beyond⟩
  rw [← List.take_append_drop limit (List.insertionSort _ _)] at sorted listed
  rcases List.mem_append.mp listed with taken | left
  · exact taken
  · have := (List.pairwise_append.mp sorted).2.2 row member scan left
    omega

/-- The ids from `first` up to a row are missing from the rows read. -/
structure BatchRead.Hole (read : BatchRead) (first upTo : Nat) : Prop where
  above : read.position < first
  nonempty : first < upTo
  closed : ∃ row ∈ read.rows, row.id = upTo
  missing : ∀ row ∈ read.rows, first ≤ row.id → upTo ≤ row.id

theorem BatchRead.Hole.misses {read : BatchRead} {first upTo id : Nat} (hole : read.Hole first upTo)
    (lower : first ≤ id) (upper : id < upTo) : read.Misses id := by
  refine ⟨Nat.lt_of_lt_of_le hole.above lower, ?_, ?_⟩
  · intro listed
    obtain ⟨row, member, rfl⟩ := List.mem_map.mp listed
    have := hole.missing row member lower
    omega
  · obtain ⟨row, member, rfl⟩ := hole.closed
    exact ⟨row, member, upper⟩

section Examine

variable {clock : Nat → Time}

/-- A timer that a pass leaves is the one it found, or was started for a hole it met. -/
theorem examine_gap {rows : List Scan} {expected : Nat} {gap : Option (Nat × Time)} {first : Nat}
    {since : Time} (ascending : rows.Pairwise (fun left right => left.id < right.id))
    (above : ∀ row ∈ rows, expected ≤ row.id)
    (left : (examine grace clock rows expected gap).gap = some (first, since)) :
    gap = some (first, since) ∨ expected ≤ first ∧ ∃ row ∈ rows, first < row.id ∧
      since = clock row.id ∧ ∀ other ∈ rows, first ≤ other.id → row.id ≤ other.id := by
  induction rows generalizing expected gap with
  | nil => exact .inl left
  | cons row rows ih =>
      obtain ⟨below, ascending⟩ := List.pairwise_cons.mp ascending
      have here := above row List.mem_cons_self
      have later : (examine grace clock rows (row.id + 1) none).gap = some (first, since) →
          expected ≤ first ∧ ∃ found ∈ row :: rows, first < found.id ∧ since = clock found.id ∧
            ∀ other ∈ row :: rows, first ≤ other.id → found.id ≤ other.id := by
        intro left
        rcases ih ascending below left with kept | ⟨beyond, found, member, upper, started, missing⟩
        · contradiction
        · refine ⟨by omega, found, List.mem_cons_of_mem _ member, upper, started, ?_⟩
          intro other listed reached
          rcases List.mem_cons.mp listed with rfl | listed
          · omega
          · exact missing other listed reached
      simp only [examine] at left
      split at left
      · rename_i hole
        split at left
        · cases gap with
          | none =>
              cases left
              refine .inr ⟨Nat.le_refl _, row, List.mem_cons_self, by omega, rfl, ?_⟩
              intro other listed _
              rcases List.mem_cons.mp listed with rfl | listed
              · exact Nat.le_refl _
              · exact Nat.le_of_lt (below other listed)
          | some timer =>
              obtain ⟨id, started⟩ := timer
              simp only [waiting] at left
              split at left
              · cases left
                refine .inr ⟨Nat.le_refl _, row, List.mem_cons_self, by omega, rfl, ?_⟩
                intro other listed _
                rcases List.mem_cons.mp listed with rfl | listed
                · exact Nat.le_refl _
                · exact Nat.le_of_lt (below other listed)
              · exact .inl left
        · exact .inr (later left)
      · exact .inr (later left)

/-- Past the first row no hole is given up, where there is a grace to wait or no hole. -/
theorem skips_nothing_further (rows : List Scan) (row : Scan)
    (further : 0 < grace ∨ (row :: rows).IsChain (fun before after => after.id = before.id + 1)) :
    (examine grace clock rows (row.id + 1) none).skipped = [] := by
  induction rows generalizing row with
  | nil => rfl
  | cons next rows ih =>
      have rest : (examine grace clock rows (next.id + 1) none).skipped = [] :=
        ih next (further.imp_right (fun chain => (List.isChain_cons_cons.mp chain).2))
      simp only [examine]
      split
      · rename_i hole
        have positive : 0 < grace :=
          further.resolve_right (fun chain => hole (List.isChain_cons_cons.mp chain).1)
        rw [if_pos (show clock next.id < (waiting none (row.id + 1) (clock next.id)).2 + grace from
          Nat.lt_add_of_pos_right positive)]
      · exact rest

/-- What the loop gives up lies below its first row, and the grace is over there. -/
theorem mem_skipped {rows : List Scan} {expected : Nat} {gap : Option (Nat × Time)} {row : Scan}
    {id : Nat}
    (further : 0 < grace ∨ (row :: rows).IsChain (fun before after => after.id = before.id + 1))
    (above : expected ≤ row.id)
    (skipped : id ∈ (examine grace clock (row :: rows) expected gap).skipped) :
    expected ≤ id ∧ id < row.id ∧
      (waiting gap expected (clock row.id)).2 + grace ≤ clock row.id := by
  simp only [examine, skips_nothing_further rows row further] at skipped
  split at skipped
  · split at skipped
    · contradiction
    · rename_i elapsed
      rw [List.append_nil, List.mem_range'_1] at skipped
      exact ⟨skipped.1, by omega, Nat.le_of_not_lt elapsed⟩
  · contradiction

end Examine

/-- The log gains rows or is replaced. -/
structure LogGrows (before after : System) : Prop where
  token : before.token ≤ after.token
  scans : after.token = before.token → before.scans ⊆ after.scans
  distinct : (before.scans.map Scan.id).Nodup → (after.scans.map Scan.id).Nodup

/-- No batch is read: every timer that runs afterwards ran before. -/
structure Unread (before after : System) : Prop where
  log : LogGrows before after
  passes : after.passes = before.passes
  gaps : ∀ id timer, after.gapOf id = some timer → before.gapOf id = some timer

section Steps

variable {system after : System} {id : RelayId} {relay : ScanRelay}

theorem LogGrows.of_eq (token : after.token = system.token) (scans : after.scans = system.scans) :
    LogGrows system after where
  token := Nat.le_of_eq token.symm
  scans _ := scans ▸ List.Subset.refl _
  distinct distinct := scans ▸ distinct

theorem gapOf_setRelay (system : System) (id other : RelayId) (relay : ScanRelay) :
    (system.setRelay id relay).gapOf other = if other = id then relay.gap else system.gapOf other := by
  simp only [System.gapOf, System.setRelay, Table.lookup_put]
  split <;> rfl

theorem gapOf_dropRelay (system : System) (id other : RelayId) :
    (system.dropRelay id).gapOf other = if other = id then none else system.gapOf other := by
  simp only [System.gapOf, System.dropRelay, Table.lookup_erase]
  split <;> rfl

theorem gapOf_eq (present : system.relays.lookup id = some relay) : system.gapOf id = relay.gap := by
  simp only [System.gapOf, present, Option.bind_some]

/-- A relay's timer is the one the system has for it. -/
theorem gap_kept (present : system.relays.lookup id = some relay) (timer : Nat × Time)
    (found : relay.gap = some timer) : system.gapOf id = some timer :=
  (gapOf_eq present).trans found

theorem Unread.turn {saved : Option (Nat × Token)} {topic : List (Token × Event)}
    {acknowledged : List Event}
    (kept : ∀ timer, relay.gap = some timer → system.gapOf id = some timer) :
    Unread system
      (System.setRelay { system with relayState := saved, topic, acknowledged } id relay) where
  log := .of_eq rfl rfl
  passes := rfl
  gaps other timer found := by
    rw [gapOf_setRelay] at found
    split at found
    · rename_i same
      exact same ▸ kept timer found
    · exact found

theorem branch_reads (grace : Time) (clock : Nat → Time) {gap : Option (Nat × Time)}
    {saved : Option (Nat × Token)} {token : Token}
    (present : system.relays.lookup id = some ⟨gap, .gotToken saved token⟩) :
    Unread system (Relay.branch grace clock system id ⟨gap, .gotToken saved token⟩ saved token) ∨
      ∃ position, saved = some (position, token) ∧
        Relay.branch grace clock system id ⟨gap, .gotToken saved token⟩ saved token =
          readBatch grace clock system id ⟨gap, .gotToken saved token⟩ position token := by
  have kept := gap_kept present
  unfold Relay.branch
  split
  · exact .inl (.turn kept)
  · rename_i position savedToken
    split
    · rename_i same
      exact .inr ⟨position, by rw [same], rfl⟩
    · exact .inl (.turn kept)

theorem store_unread (present : system.relays.lookup id = some relay)
    (stored : Relay.store system id relay = some after) : Unread system after := by
  have kept := gap_kept present
  unfold Relay.store at stored
  split at stored
  · cases stored
    exact .turn kept
  · cases stored
    exact .turn kept
  · contradiction

theorem lose_unread (present : system.relays.lookup id = some relay)
    (lost : Relay.lose system id relay = some after) : Unread system after := by
  have kept := gap_kept present
  unfold Relay.lose at lost
  split at lost
  · cases lost
    exact .turn kept
  · contradiction

theorem acknowledge_unread (present : system.relays.lookup id = some relay)
    (acked : Relay.acknowledge system id relay = some after) : Unread system after := by
  have kept := gap_kept present
  unfold Relay.acknowledge at acked
  split at acked
  · cases acked
    exact .turn kept
  · obtain ⟨last, _, rfl⟩ := Option.map_eq_some_iff.mp acked
    exact .turn kept
  · contradiction

theorem save_unread (present : system.relays.lookup id = some relay)
    (saved : Relay.save system id relay = some after) : Unread system after := by
  have kept := gap_kept present
  unfold Relay.save at saved
  split at saved
  · cases saved
    exact .turn kept
  · cases saved
    refine .turn (fun timer found => ?_)
    split at found
    · contradiction
    · exact kept timer found
  · contradiction

/-- A step reads no batch, or it is the branch of a pass whose token is unchanged. -/
theorem step_reads {label : Label} (taken : Relay.step grace system label = some after) :
    Unread system after ∨ ∃ id clock gap position token, label = .branch id clock ∧
      system.relays.lookup id = some ⟨gap, .gotToken (some (position, token)) token⟩ ∧
      after = readBatch grace clock system id ⟨gap, .gotToken (some (position, token)) token⟩
        position token := by
  cases label with
  | commit scan =>
      simp only [Relay.step] at taken
      split at taken
      · rename_i new
        cases taken
        refine .inl ⟨⟨Nat.le_refl _, fun _ => List.subset_append_left _ _, ?_⟩, rfl,
          fun _ _ found => found⟩
        intro distinct
        rw [List.map_append, List.map_singleton, ← List.concat_eq_append]
        exact distinct.concat new.2
      · contradiction
  | replace keepsState =>
      cases taken
      exact .inl ⟨⟨Nat.le_succ _, fun same => absurd same (Nat.succ_ne_self _),
        fun _ => List.nodup_nil⟩, rfl, fun _ _ found => found⟩
  | start id =>
      simp only [Relay.step] at taken
      split at taken
      · cases taken
        exact .inl (.turn (fun _ none => by contradiction))
      · contradiction
  | crash id =>
      simp only [Relay.step] at taken
      split at taken
      · contradiction
      · cases taken
        refine .inl ⟨.of_eq rfl rfl, rfl, fun other timer found => ?_⟩
        rw [gapOf_dropRelay] at found
        split at found
        · contradiction
        · exact found
  | fail id =>
      simp only [Relay.step] at taken
      split at taken
      · contradiction
      · rename_i relay present
        have kept := gap_kept present
        cases taken
        exact .inl (.turn kept)
  | readState id =>
      simp only [Relay.step] at taken
      split at taken
      · rename_i gap present
        have kept := gap_kept present
        cases taken
        exact .inl (.turn kept)
      · contradiction
  | readToken id =>
      simp only [Relay.step] at taken
      split at taken
      · rename_i gap saved present
        have kept := gap_kept present
        cases taken
        exact .inl (.turn kept)
      · contradiction
  | branch id clock =>
      simp only [Relay.step] at taken
      split at taken
      · rename_i gap saved token present
        cases taken
        rcases branch_reads grace clock present with unread | ⟨position, rfl, read⟩
        · exact .inl unread
        · exact .inr ⟨id, clock, gap, position, token, rfl, present, read⟩
      · contradiction
  | store id =>
      obtain ⟨relay, present, stored⟩ := Option.bind_eq_some_iff.mp taken
      exact .inl (store_unread present stored)
  | lose id =>
      obtain ⟨relay, present, lost⟩ := Option.bind_eq_some_iff.mp taken
      exact .inl (lose_unread present lost)
  | acknowledge id =>
      obtain ⟨relay, present, acked⟩ := Option.bind_eq_some_iff.mp taken
      exact .inl (acknowledge_unread present acked)
  | save id =>
      obtain ⟨relay, present, saved⟩ := Option.bind_eq_some_iff.mp taken
      exact .inl (save_unread present saved)

end Steps

/-- A running timer was started by a read that found its hole, no later than the timer
says. -/
def Timed.Timers (timed : Timed) : Prop :=
  ∀ id first since, timed.system.gapOf id = some (first, since) →
    ∃ noted, timed.noted.lookup id = some noted ∧ noted ∈ timed.reads ∧ noted.time ≤ since ∧
      ∃ upTo, noted.Hole first upTo

structure Timed.Sound (grace : Time) (timed : Timed) : Prop where
  distinct : (timed.system.scans.map Scan.id).Nodup
  past : ∀ read ∈ timed.reads, read.time ≤ timed.now ∧ read.log ≤ timed.system.token
  held : ∀ read ∈ timed.reads, read.log = timed.system.token → read.rows ⊆ timed.system.scans
  timers : timed.Timers
  committed : ∀ commit ∈ timed.commits, commit.log ≤ timed.system.token ∧
    (commit.log = timed.system.token → commit.id ∈ timed.system.scans.map Scan.id)
  recorded : ∀ skip ∈ timed.skips, skip.read ∈ timed.reads
  waited : ∀ skip ∈ timed.skips, skip.Waited grace
  ordered : ∀ skip ∈ timed.skips, ∀ commit ∈ timed.commits, commit.log = skip.read.log →
    commit.id = skip.id → skip.read.time ≤ commit.time

namespace Timed.Sound

variable {timed : Timed} {time : Time}

theorem initial (token : Token) : Timed.Sound grace (Timed.initial token) where
  distinct := List.nodup_nil
  past _ member := by contradiction
  held _ member := by contradiction
  timers _ _ _ found := by contradiction
  committed _ member := by contradiction
  recorded _ member := by contradiction
  waited _ member := by contradiction
  ordered _ member := by contradiction

theorem moved (sound : Timed.Sound grace timed) {after : System} (later : timed.now ≤ time)
    (unread : Unread timed.system after) : Timed.Sound grace (timed.moved time after) where
  distinct := unread.log.distinct sound.distinct
  past read member :=
    ⟨(sound.past read member).1.trans later, (sound.past read member).2.trans unread.log.token⟩
  held read member current := by
    have same : after.token = timed.system.token :=
      Nat.le_antisymm (current ▸ (sound.past read member).2) unread.log.token
    exact List.Subset.trans (sound.held read member (current.trans same)) (unread.log.scans same)
  timers id first since found := sound.timers id first since (unread.gaps id _ found)
  committed commit member := by
    obtain ⟨bound, stored⟩ := sound.committed commit member
    refine ⟨bound.trans unread.log.token, fun current => ?_⟩
    have same : after.token = timed.system.token :=
      Nat.le_antisymm (current ▸ bound) unread.log.token
    exact List.map_subset _ (unread.log.scans same) (stored (current.trans same))
  recorded := sound.recorded
  waited := sound.waited
  ordered := sound.ordered

/-- A commit comes after every skip so far. -/
theorem commits (sound : Timed.Sound grace timed) {id : Nat}
    (stored : id ∈ timed.system.scans.map Scan.id) :
    Timed.Sound grace { timed with
      commits := timed.commits ++ [{ log := timed.system.token, id, time := timed.now }] } where
  distinct := sound.distinct
  past := sound.past
  held := sound.held
  timers := sound.timers
  committed commit member := by
    rcases List.mem_append.mp member with old | new
    · exact sound.committed commit old
    · cases List.mem_singleton.mp new
      exact ⟨Nat.le_refl _, fun _ => stored⟩
  recorded := sound.recorded
  waited := sound.waited
  ordered skip member commit listed := by
    intro log id
    rcases List.mem_append.mp listed with old | new
    · exact sound.ordered skip member commit old log id
    · cases List.mem_singleton.mp new
      exact (sound.past skip.read (sound.recorded skip member)).1

/-- The first row of a batch is below every row above the position, also those an
earlier read of the same log found. -/
theorem first_le (sound : Timed.Sound grace timed) {position : Nat} {row : Scan} {rows : List Scan}
    (batch : relayBatch timed.system.scans position batchSize = row :: rows) {read : BatchRead}
    (recorded : read ∈ timed.reads) (current : read.log = timed.system.token) {other : Scan}
    (member : other ∈ read.rows) (beyond : position < other.id) : row.id ≤ other.id := by
  have ascending := relayBatch_ascending sound.distinct position batchSize
  rw [batch] at ascending
  by_contra before
  have first : row ∈ relayBatch timed.system.scans position batchSize := batch ▸ List.mem_cons_self
  have listed := mem_relayBatch_of_below (sound.held read recorded current member) beyond first
    (Nat.lt_of_not_le before)
  rw [batch] at listed
  rcases List.mem_cons.mp listed with rfl | further
  · exact before (Nat.le_refl _)
  · exact before (Nat.le_of_lt ((List.pairwise_cons.mp ascending).1 other further))

/-- What a pass gives up with a due timer has been missing for the grace. -/
theorem waited_of_due (sound : Timed.Sound grace timed) {id : RelayId} {clock : Nat → Time}
    {gap : Option (Nat × Time)} {position skipped : Nat}
    (running : timed.system.gapOf id = gap)
    (due : DueBatch grace timed time id clock gap position
      (relayBatch timed.system.scans position batchSize))
    (member : skipped ∈ (examine grace clock (relayBatch timed.system.scans position batchSize)
      (position + 1) gap).skipped) :
    Skip.Waited grace
      { id := skipped
        read := ⟨time, timed.system.token, position,
          relayBatch timed.system.scans position batchSize⟩
        earlier := timed.reads } := by
  have ascending := relayBatch_ascending sound.distinct position batchSize
  have above := fun row (listed : row ∈ relayBatch timed.system.scans position batchSize) =>
    (mem_relayBatch listed).2
  cases batch : relayBatch timed.system.scans position batchSize with
  | nil =>
      rw [batch] at member
      contradiction
  | cons row rows =>
      rw [batch] at due member ascending above
      obtain ⟨front, further⟩ := due
      have first : position + 1 ≤ row.id := above row List.mem_cons_self
      obtain ⟨lower, upper, elapsed⟩ := mem_skipped further first member
      have timer : TimerDue grace timed time id gap position := by
        rcases front with contiguous | early | due
        · omega
        · exact absurd early (Nat.not_lt_of_le elapsed)
        · exact due
      obtain ⟨⟨⟨expected, since⟩, runs, rfl, ranOut⟩, noted, found, current⟩ := timer
      obtain ⟨prior, same, recorded, started, upTo, hole⟩ :=
        sound.timers id (position + 1) since (running.trans runs)
      cases same.symm.trans found
      have reached : row.id ≤ upTo := by
        obtain ⟨other, listed, rfl⟩ := hole.closed
        exact sound.first_le batch recorded current listed hole.nonempty.le
      have here : BatchRead.Hole ⟨time, timed.system.token, position, row :: rows⟩
          (position + 1) row.id :=
        { above := Nat.lt_succ_self _
          nonempty := by omega
          closed := ⟨row, List.mem_cons_self, rfl⟩
          missing := by
            intro other listed _
            rcases List.mem_cons.mp listed with rfl | listed
            · exact Nat.le_refl _
            · exact Nat.le_of_lt ((List.pairwise_cons.mp ascending).1 other listed) }
      exact ⟨here.misses lower upper, noted, recorded, current,
        hole.misses lower (Nat.lt_of_lt_of_le upper reached),
        (Nat.add_le_add_right started grace).trans ranOut⟩

/-- The timers after a pass: one it found, or one that its own read started. -/
theorem timers_read (sound : Timed.Sound grace timed) {id : RelayId} {clock : Nat → Time}
    {relay : ScanRelay} {position : Nat} {token : Token}
    (clockAfter : ∀ scan ∈ timed.system.scans, time ≤ clock scan.id)
    (present : timed.system.relays.lookup id = some relay) (pass : Pass)
    (position_eq : pass.position = position)
    (rows_eq : pass.rows = relayBatch timed.system.scans position batchSize) :
    (timed.read time id pass
      (readBatch grace clock timed.system id relay position token)).Timers := by
  have ascending := relayBatch_ascending sound.distinct position batchSize
  have gaps : ∀ other,
      (readBatch grace clock timed.system id relay position token).gapOf other =
        if other = id then (examine grace clock
          (relayBatch timed.system.scans position batchSize) (position + 1) relay.gap).gap
        else timed.system.gapOf other :=
    fun other => gapOf_setRelay _ id other _
  intro other first since found
  have before : timed.system.gapOf other = some (first, since) → ∃ noted,
      timed.noted.lookup other = some noted ∧ noted ∈ (timed.read time id pass
        (readBatch grace clock timed.system id relay position token)).reads ∧
      noted.time ≤ since ∧ ∃ upTo, noted.Hole first upTo := by
    intro running
    obtain ⟨noted, stored, recorded, started, hole⟩ := sound.timers other first since running
    exact ⟨noted, stored, List.mem_append_left _ recorded, started, hole⟩
  have running := (gaps other).symm.trans found
  simp only [Timed.read, gaps, if_true, gapOf_eq present] at before ⊢
  split at running
  · rename_i own
    subst own
    rw [gapOf_eq present] at before
    split
    · rename_i kept
      exact before (kept ▸ running)
    · rename_i fresh
      rcases examine_gap ascending (fun row member => (mem_relayBatch member).2) running with
        kept | ⟨lower, row, member, upper, rfl, missing⟩
      · exact absurd (running.trans kept.symm) fresh
      · refine ⟨_, Table.lookup_put_self _ _ _, List.mem_append_right _ List.mem_cons_self,
          clockAfter row (mem_relayBatch member).1, row.id, ?_⟩
        rw [position_eq, rows_eq]
        exact ⟨lower, upper, ⟨row, member, rfl⟩, missing⟩
  · rename_i others
    split
    · exact before running
    · rw [Table.lookup_put_of_ne _ _ others]
      exact before running

/-- A pass that reads its batch with a due timer. -/
theorem read (sound : Timed.Sound grace timed) {id : RelayId} {clock : Nat → Time}
    {relay : ScanRelay} {position : Nat} {token : Token} (later : timed.now ≤ time)
    (clockAfter : ∀ scan ∈ timed.system.scans, time ≤ clock scan.id)
    (present : timed.system.relays.lookup id = some relay)
    (due : DueBatch grace timed time id clock relay.gap position
      (relayBatch timed.system.scans position batchSize)) :
    Timed.Sound grace (timed.record time
      (readBatch grace clock timed.system id relay position token) (.branch id clock)) := by
  have passes : (readBatch grace clock timed.system id relay position token).passes =
      timed.system.passes ++ [_] := rfl
  simp only [Timed.record, passes, List.getElem?_concat_length]
  refine
    { distinct := sound.distinct
      past := ?_
      held := ?_
      timers := sound.timers_read clockAfter present _ rfl rfl
      committed := sound.committed
      recorded := ?_
      waited := ?_
      ordered := ?_ }
  · intro read member
    rcases List.mem_append.mp member with old | new
    · exact ⟨(sound.past read old).1.trans later, (sound.past read old).2⟩
    · cases List.mem_singleton.mp new
      exact ⟨Nat.le_refl _, Nat.le_refl _⟩
  · intro read member current
    rcases List.mem_append.mp member with old | new
    · exact sound.held read old current
    · cases List.mem_singleton.mp new
      exact fun row listed => (mem_relayBatch listed).1
  · intro skip member
    rcases List.mem_append.mp member with old | new
    · exact List.mem_append_left _ (sound.recorded skip old)
    · obtain ⟨_, _, rfl⟩ := List.mem_map.mp new
      exact List.mem_append_right _ List.mem_cons_self
  · intro skip member
    rcases List.mem_append.mp member with old | new
    · exact sound.waited skip old
    · obtain ⟨skipped, listed, rfl⟩ := List.mem_map.mp new
      exact sound.waited_of_due (gapOf_eq present) due listed
  · intro skip member commit listed log id
    rcases List.mem_append.mp member with old | new
    · exact sound.ordered skip old commit listed log id
    · -- The batch holds every committed id below its rows, so the id is not committed yet.
      obtain ⟨skipped, given, rfl⟩ := List.mem_map.mp new
      obtain ⟨beyond, absent, row, found, below⟩ :=
        (sound.waited_of_due (gapOf_eq present) due given).1
      obtain ⟨scan, stored, same⟩ := List.mem_map.mp ((sound.committed commit listed).2 log)
      have same : scan.id = skipped := same.trans id
      subst same
      exact absurd (List.mem_map_of_mem (mem_relayBatch_of_below stored beyond found below)) absent

/-- The step lemma. -/
theorem step {after : Timed} {timedLabel : Time × Label} (sound : Timed.Sound grace timed)
    (due : Due grace timed timedLabel) (taken : Timed.step grace timed timedLabel = some after) :
    Timed.Sound grace after := by
  obtain ⟨time, label⟩ := timedLabel
  simp only [Timed.step] at taken
  split at taken
  · rename_i guard
    obtain ⟨later, clockAfter⟩ := guard
    obtain ⟨system, stepped, rfl⟩ := Option.map_eq_some_iff.mp taken
    rcases step_reads stepped with unread | ⟨id, clock, gap, position, token, rfl, present, rfl⟩
    · have moved := sound.moved later unread
      cases label with
      | commit scan =>
          simp only [Relay.step] at stepped
          split at stepped
          · cases stepped
            exact moved.commits (List.mem_map_of_mem (List.mem_append_right _ List.mem_cons_self))
          · contradiction
      | branch id clock =>
          simp only [Timed.record, unread.passes, List.getElem?_length]
          exact moved
      | _ => exact moved
    · have due : DuePass grace timed time id clock (timed.system.relays.lookup id) := due
      rw [present] at due
      exact sound.read later clockAfter present (due rfl)
  · contradiction

end Timed.Sound

/-- While every pass has a due timer, an id is given up only if an earlier read of the same
log, made the grace before, found it missing and the read of the pass still does; and the
scan, if it commits at all, commits no sooner than the grace after that. -/
theorem skipped_after_grace (grace : Time) (token : Token) (labels : List (Time × Label))
    (timed : Timed) (run : Run (Timed.step grace) (Due grace) (Timed.initial token) labels timed) :
    ∀ skip ∈ timed.skips, skip.Waited grace ∧
      ∀ commit ∈ timed.commits, commit.log = skip.read.log → commit.id = skip.id →
        skip.FoundBefore grace commit.time := by
  have sound : Timed.Sound grace timed :=
    run.invariant (Timed.Sound.initial token) (fun _ _ _ sound due taken => sound.step due taken)
  intro skip member
  have waited := sound.waited skip member
  refine ⟨waited, fun commit listed log id => ?_⟩
  obtain ⟨prior, recorded, same, missing, early⟩ := waited.2
  exact ⟨prior, recorded, same, missing,
    early.trans (sound.ordered skip member commit listed log id)⟩

/-- A pass whose batch is read at `time`; the loop reads the clock at `looped`. -/
def timedPass (id : RelayId) (time looped : Time) : List (Time × Label) :=
  [(time, .readState id), (time, .readToken id), (time, .branch id (fun _ => looped))]

/-- A fresh database is initialised, scan 2 commits, and instance 0 meets the hole at 1. -/
def firstHole : List (Time × Label) :=
  (0, .start 0) :: timedPass 0 0 0 ++ [(0, .save 0), (0, .commit ⟨2, 1, "SKU-000002"⟩)] ++
    timedPass 0 0 0

/-- With a grace of 10, the batch read at 11 gives the hole up; its scan commits at 12. -/
def graceOver : List (Time × Label) :=
  firstHole ++ timedPass 0 11 11 ++ [(11, .store 0), (12, .commit ⟨1, 1, "SKU-000001"⟩)]

theorem graceOver_runs :
    (graceOver.foldlM (guarded (Timed.step 10) (Due 10)) (Timed.initial 1)).isSome = true := by
  decide +kernel

theorem skipped_after_grace_graceOver :
    let timed := (graceOver.foldlM (guarded (Timed.step 10) (Due 10)) (Timed.initial 1)).get
      graceOver_runs
    timed.skips.map Skip.id = [1] ∧
      ∀ skip ∈ timed.skips, skip.Waited 10 ∧
        ∀ commit ∈ timed.commits, commit.log = skip.read.log → commit.id = skip.id →
          skip.FoundBefore 10 commit.time :=
  ⟨by decide +kernel, skipped_after_grace 10 1 graceOver _
    (.of_guarded (Option.some_get graceOver_runs).symm)⟩

/-- The batch is read at 5 and the scan commits at 7, before the loop reads 10 on its clock. -/
def lateClock : List (Time × Label) :=
  firstHole ++ timedPass 0 5 10 ++ [(7, .commit ⟨1, 1, "SKU-000001"⟩), (11, .store 0)]

/-- The log is replaced and another instance announces the new one; instance 0 still has
the timer of the old. -/
def oldTimer : List (Time × Label) :=
  firstHole ++ [(1, .replace true), (2, .start 1)] ++ timedPass 1 2 2 ++
    [(2, .store 1), (2, .acknowledge 1), (2, .save 1), (20, .commit ⟨2, 1, "SKU-000004"⟩)] ++
    timedPass 0 20 20 ++ [(21, .store 0), (21, .commit ⟨1, 1, "SKU-000003"⟩)]

theorem lateClock_runs : (lateClock.foldlM (Timed.step 10) (Timed.initial 1)).isSome = true := by
  decide +kernel

theorem oldTimer_runs : (oldTimer.foldlM (Timed.step 10) (Timed.initial 1)).isSome = true := by
  decide +kernel

/-- A hole is given up that no earlier read of its log had found, and a scan that
committed within the grace of its absence is given up. -/
theorem skipped_before_grace :
    (¬ ∀ (grace : Time) (token : Token) (labels : List (Time × Label)) (timed : Timed),
      Run (Timed.step grace) Any (Timed.initial token) labels timed →
        ∀ skip ∈ timed.skips, skip.Waited grace) ∧
    ¬ ∀ (grace : Time) (token : Token) (labels : List (Time × Label)) (timed : Timed),
      Run (Timed.step grace) Any (Timed.initial token) labels timed →
        ∀ skip ∈ timed.skips, ∀ commit ∈ timed.commits, commit.log = skip.read.log →
          commit.id = skip.id → skip.FoundBefore grace commit.time := by
  constructor
  · intro waits
    have waited := waits 10 1 oldTimer _ (.of_foldlM (Option.some_get oldTimer_runs).symm)
    have early : ¬ ∀ skip ∈ ((oldTimer.foldlM (Timed.step 10) (Timed.initial 1)).get
        oldTimer_runs).skips, skip.FoundBefore 10 skip.read.time := by
      decide +kernel
    exact early (fun skip member => (waited skip member).2)
  · intro waits
    have waited := waits 10 1 lateClock _ (.of_foldlM (Option.some_get lateClock_runs).symm)
    have early : ¬ ∀ skip ∈ ((lateClock.foldlM (Timed.step 10) (Timed.initial 1)).get
        lateClock_runs).skips, ∀ commit ∈ ((lateClock.foldlM (Timed.step 10) (Timed.initial 1)).get
        lateClock_runs).commits, commit.log = skip.read.log → commit.id = skip.id →
          skip.FoundBefore 10 commit.time := by
      decide +kernel
    exact early waited

end SelfCheckout.Relay
