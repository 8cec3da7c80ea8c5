import SelfCheckout.Analytics.Gaps
import SelfCheckout.Analytics.Source

namespace SelfCheckout.Analytics

open SelfCheckout.Data

/-! # A tail and the log it follows

The tail trusts its source: what a read does not hand over becomes a hole, and a hole is
passed over once the grace period is over.  As long as every read hands over the lowest
scans that are known and still needed, nothing that is needed is passed over.
-/

variable {Instant : Type}

/-- What is known of a log: its scans, one for each id, and a bound of their ids. -/
structure KnownLog where
  has : ScanData → Prop
  newest : Nat
  single : ∀ data other, has data → has other → data.scanId = other.scanId → data = other
  upTo : ∀ data, has data → data.scanId ≤ newest

namespace KnownLog

/-- More is known of the log: what is new is above what was known. -/
structure Grows (log more : KnownLog) : Prop where
  kept : ∀ data, log.has data → more.has data
  fresh : ∀ data, more.has data → log.has data ∨ log.newest < data.scanId
  newest : log.newest ≤ more.newest

theorem Grows.refl (log : KnownLog) : log.Grows log :=
  ⟨fun _ known => known, fun _ known => .inl known, le_rfl⟩

theorem Grows.trans {log more most : KnownLog} (grows : log.Grows more) (further : more.Grows most) :
    log.Grows most where
  kept data known := further.kept data (grows.kept data known)
  fresh data known := by
    rcases further.fresh data known with before | above
    · exact grows.fresh data before
    · exact .inr (grows.newest.trans_lt above)
  newest := grows.newest.trans further.newest

theorem named (log : KnownLog) :
    ∃ name : Nat → Sku, ∀ data, log.has data → data.sku = name data.scanId := by
  classical
  refine ⟨fun id => if known : ∃ data, log.has data ∧ data.scanId = id then known.choose.sku
    else "", fun data known => ?_⟩
  have found : ∃ other, log.has other ∧ other.scanId = data.scanId := ⟨data, known, rfl⟩
  simp only [dif_pos found]
  exact congrArg ScanData.sku
    (log.single data _ known found.choose_spec.1 found.choose_spec.2.symm)

end KnownLog

/-- The scan is pending. -/
def TailIngest.Awaits (tail : TailIngest Instant) (data : ScanData) : Prop :=
  tail.pending.lookup data.scanId = some data.sku

/-- The scans up to `bound` are needed.  The tail has emitted those of them up to its cursor,
and what is pending is known and goes up from the lowest of them above the cursor. -/
structure Following (log : KnownLog) (bound startAfter : Nat) (tail : TailIngest Instant) : Prop where
  cursor : startAfter ≤ tail.lastId
  upTo : tail.lastId ≤ log.newest
  sound : ∀ data ∈ scans tail.out, log.has data
  complete : ∀ data, log.has data → data.scanId ≤ bound → startAfter < data.scanId →
    data.scanId ≤ tail.lastId → data ∈ scans tail.out
  pending : ∀ data, tail.Awaits data →
    log.has data ∧ (data.scanId ≤ bound → tail.lastId < data.scanId)
  lowest : ∀ data lower, tail.Awaits data → log.has lower → lower.scanId ≤ bound →
    tail.lastId < lower.scanId → lower.scanId < data.scanId → tail.Awaits lower

/-- While the timer runs, nothing that is needed is in the hole it is about. -/
structure Timed (log : KnownLog) (bound : Nat) (tail : TailIngest Instant) : Prop where
  upTo : ∀ since, tail.holeSince = some since → tail.holeUpto ≤ log.newest
  ahead : ∀ since, tail.holeSince = some since → tail.lastId < bound → tail.lastId < tail.holeUpto
  hole : ∀ since, tail.holeSince = some since → ∀ data, log.has data → data.scanId ≤ bound →
    tail.lastId < data.scanId → tail.holeUpto < data.scanId

/-- A read hands over known scans above the cursor, from the lowest one on that is needed and
not pending. -/
structure Fetched (log : KnownLog) (bound : Nat) (tail : TailIngest Instant)
    (rows : List ScanData) : Prop where
  known : ∀ row ∈ rows, log.has row ∧ tail.lastId < row.scanId
  lowest : ∀ row ∈ rows, ∀ lower, log.has lower → lower.scanId ≤ bound →
    tail.lastId < lower.scanId → lower.scanId < row.scanId → lower ∈ rows ∨ tail.Awaits lower

section Steps

variable {settings : TailSettings Instant} {log more : KnownLog} {bound startAfter : Nat}
  {tail : TailIngest Instant} {rows : List ScanData}

/-- A source that has the needed scans in its buffer, or the tail has them already, hands over
the lowest. -/
theorem Fetched.of_read {source : KafkaScanSource} {limit : Nat}
    (stored : ∀ id sku, source.rows.lookup id = some sku → log.has ⟨id, sku⟩)
    (inReach : ∀ data, log.has data → data.scanId ≤ bound → tail.lastId < data.scanId →
      tail.Awaits data ∨ source.rows.lookup data.scanId = some data.sku) :
    Fetched log bound tail ((source.rowsAfter tail.lastId).take limit) where
  known row isRow := by
    obtain ⟨above, found⟩ := KafkaScanSource.mem_rowsAfter.mp (List.mem_of_mem_take isRow)
    exact ⟨stored _ _ found, above⟩
  lowest row isRow lower known needed above below := by
    rcases inReach lower known needed above with awaited | found
    · exact .inr awaited
    · have ahead := KafkaScanSource.mem_rowsAfter.mpr ⟨above, found⟩
      exact .inl (KafkaScanSource.read_lowest isRow ahead below)

/-- After a read a scan is pending if it was, or if it was handed over. -/
theorem awaits_hold (following : Following log bound startAfter tail)
    (fetched : Fetched log bound tail rows) (data : ScanData) :
    (tail.hold rows).Awaits data ↔ data ∈ rows ∨ tail.Awaits data := by
  obtain ⟨name, named⟩ := log.named
  unfold TailIngest.Awaits
  rw [lookup_hold (fun row isRow => named row (fetched.known row isRow).1)
    (fun row isRow => (fetched.known row isRow).2)]
  split
  · rename_i listed
    obtain ⟨row, isRow, same⟩ := List.mem_map.mp listed
    have known := (fetched.known row isRow).1
    constructor
    · intro isNamed
      left
      have sameSku : row.sku = data.sku := by
        rw [named row known, same]
        exact Option.some.inj isNamed
      have equal : row = data := by
        cases row
        cases data
        simp_all
      exact equal ▸ isRow
    · intro either
      have here : log.has data := either.elim (fun isRow => (fetched.known data isRow).1)
        (fun awaited => (following.pending data awaited).1)
      rw [named data here]
  · rename_i unlisted
    exact ⟨.inr, fun either => either.resolve_left
      (fun isRow => unlisted (List.mem_map_of_mem isRow))⟩

theorem Following.hold (following : Following log bound startAfter tail)
    (fetched : Fetched log bound tail rows) :
    Following log bound startAfter (tail.hold rows) where
  cursor := following.cursor
  upTo := following.upTo
  sound := following.sound
  complete := following.complete
  pending data awaited := by
    rcases (awaits_hold following fetched data).mp awaited with isRow | before
    · exact ⟨(fetched.known data isRow).1, fun _ => (fetched.known data isRow).2⟩
    · exact following.pending data before
  lowest data lower awaited known needed above below := by
    rw [awaits_hold following fetched]
    rcases (awaits_hold following fetched data).mp awaited with isRow | before
    · exact fetched.lowest data isRow lower known needed above below
    · exact .inr (following.lowest data lower before known needed above below)

theorem Following.emit {sku : Sku} (following : Following log bound startAfter tail)
    (found : tail.pending.lookup (tail.lastId + 1) = some sku) :
    Following log bound startAfter (tail.emit settings sku) := by
  have known : log.has ⟨tail.lastId + 1, sku⟩ := (following.pending ⟨_, _⟩ found).1
  have awaits : ∀ data, (tail.emit settings sku).Awaits data ↔
      data.scanId ≠ tail.lastId + 1 ∧ tail.Awaits data := by
    intro data
    simp only [TailIngest.Awaits, TailIngest.emit, TailIngest.advance, Table.lookup_erase]
    split <;> simp_all
  constructor
  · exact Nat.le_succ_of_le following.cursor
  · exact log.upTo _ known
  · intro data isEmitted
    rw [scans_emit, List.mem_append, List.mem_singleton] at isEmitted
    rcases isEmitted with before | rfl
    · exact following.sound data before
    · exact known
  · intro data isKnown needed above upTo
    rw [scans_emit, List.mem_append, List.mem_singleton]
    simp only [TailIngest.emit, TailIngest.advance] at upTo
    by_cases here : data.scanId = tail.lastId + 1
    · exact .inr (log.single _ _ isKnown known here)
    · exact .inl (following.complete data isKnown needed above (by omega))
  · intro data awaited
    obtain ⟨different, before⟩ := (awaits data).mp awaited
    obtain ⟨isKnown, above⟩ := following.pending data before
    refine ⟨isKnown, fun needed => ?_⟩
    have := above needed
    simp only [TailIngest.emit, TailIngest.advance]
    omega
  · intro data lower awaited isKnown needed above below
    simp only [TailIngest.emit, TailIngest.advance] at above
    rw [awaits] at awaited ⊢
    exact ⟨by omega, following.lowest data lower awaited.2 isKnown needed (by omega) below⟩

/-- Passing over an id that is not needed. -/
theorem Following.advance (following : Following log bound startAfter tail)
    (ahead : tail.lastId < log.newest)
    (missing : ∀ data, log.has data → data.scanId ≤ bound → data.scanId ≠ tail.lastId + 1) :
    Following log bound startAfter (tail.advance settings (tail.lastId + 1)) where
  cursor := Nat.le_succ_of_le following.cursor
  upTo := ahead
  sound data isEmitted := by
    rw [scans_advance] at isEmitted
    exact following.sound data isEmitted
  complete data known needed above upTo := by
    rw [scans_advance]
    have different := missing data known needed
    simp only [TailIngest.advance] at upTo
    exact following.complete data known needed above (by omega)
  pending data awaited := by
    obtain ⟨known, above⟩ := following.pending data awaited
    refine ⟨known, fun needed => ?_⟩
    have further := above needed
    have different := missing data known needed
    simp only [TailIngest.advance]
    omega
  lowest data lower awaited known needed above below := by
    simp only [TailIngest.advance] at above
    exact following.lowest data lower awaited known needed (by omega) below

theorem Following.of_same {other : TailIngest Instant}
    (following : Following log bound startAfter tail) (sameOut : other.out = tail.out)
    (sameLast : other.lastId = tail.lastId) (samePending : other.pending = tail.pending) :
    Following log bound startAfter other := by
  have awaits : ∀ data, other.Awaits data ↔ tail.Awaits data := by
    intro data
    unfold TailIngest.Awaits
    rw [samePending]
  obtain ⟨cursor, upTo, sound, complete, pending, lowest⟩ := following
  constructor
  · rwa [sameLast]
  · rwa [sameLast]
  · rwa [sameOut]
  · rwa [sameOut, sameLast]
  · intro data awaited
    rw [sameLast]
    exact pending data ((awaits data).mp awaited)
  · intro data lower awaited known needed above below
    rw [sameLast] at above
    exact (awaits lower).mpr
      (lowest data lower ((awaits data).mp awaited) known needed above below)

theorem Following.drain (following : Following log bound startAfter tail) :
    Following log bound startAfter (tail.drain settings).1 :=
  TailIngest.drain_kept settings _ (fun _ _ found follows => follows.emit found) following

/-- More of the log gets known. -/
theorem Following.grow (following : Following log bound startAfter tail) (grows : log.Grows more) :
    Following more bound startAfter tail where
  cursor := following.cursor
  upTo := following.upTo.trans grows.newest
  sound data isEmitted := grows.kept data (following.sound data isEmitted)
  complete data known needed above upTo := by
    have before := following.upTo
    exact following.complete data ((grows.fresh data known).resolve_right (by omega)) needed above
      upTo
  pending data awaited :=
    ⟨grows.kept data (following.pending data awaited).1, (following.pending data awaited).2⟩
  lowest data lower awaited known needed above below := by
    have before := log.upTo data (following.pending data awaited).1
    exact following.lowest data lower awaited
      ((grows.fresh lower known).resolve_right (by omega)) needed above below

theorem Timed.stopped (stopped : tail.holeSince = none) : Timed log bound tail := by
  constructor <;> (intro since running; rw [stopped] at running; contradiction)

theorem Timed.grow (timed : Timed log bound tail) (grows : log.Grows more) :
    Timed more bound tail where
  upTo since running := (timed.upTo since running).trans grows.newest
  ahead := timed.ahead
  hole since running data known needed above := by
    rcases grows.fresh data known with before | fresh
    · exact timed.hole since running data before needed above
    · exact (timed.upTo since running).trans_lt fresh

/-- The timer is started at the hole below the lowest pending row. -/
theorem Following.timer {lowest : Nat} {since : Instant}
    (following : Following log bound startAfter tail)
    (absent : tail.pending.lookup (tail.lastId + 1) = none)
    (least : (tail.pending.rows.map Prod.fst).min? = some lowest) :
    Timed log bound { tail with holeSince := some since, holeUpto := lowest - 1 } := by
  obtain ⟨isPending, below⟩ := List.min?_eq_some_iff.mp least
  obtain ⟨row, isRow, rfl⟩ := List.mem_map.mp isPending
  have awaited : tail.Awaits ⟨row.1, row.2⟩ := Table.lookup_eq_some.mpr isRow
  have known : log.has ⟨row.1, row.2⟩ := (following.pending _ awaited).1
  have above : row.1 ≤ bound → tail.lastId < row.1 := (following.pending _ awaited).2
  have further : row.1 ≠ tail.lastId + 1 := by
    intro here
    unfold TailIngest.Awaits at awaited
    rw [← here, awaited] at absent
    contradiction
  have upTo : row.1 ≤ log.newest := log.upTo _ known
  refine ⟨fun _ _ => ?_, fun _ _ inside => ?_, fun _ _ data isKnown needed beyond => ?_⟩
  · simp only
    omega
  · simp only at inside ⊢
    omega
  · by_contra inHole
    simp only at beyond inHole
    have lower := following.lowest _ data awaited isKnown needed beyond (by simp only; omega)
    have least := below _ (List.mem_map_of_mem (Table.lookup_eq_some.mp lower))
    simp only at least
    omega

/-- Passing over the hole of a running timer. -/
theorem Following.skip {since : Instant} (following : Following log bound startAfter tail)
    (timed : Timed log bound tail) (running : tail.holeSince = some since) :
    Following log bound startAfter
      ((List.range' (tail.lastId + 1) (tail.holeUpto - tail.lastId)).foldl
        (TailIngest.advance settings) tail) := by
  have inLog := timed.upTo since running
  have skipped := TailIngest.skip_kept settings
    (fun other => Following log bound startAfter other ∧ tail.lastId ≤ other.lastId) tail.holeUpto
    (fun other below follows => ⟨follows.1.advance (by omega) (fun data known needed here => by
        have beyond := timed.hole since running data known needed (by omega)
        omega), Nat.le_succ_of_le follows.2⟩)
    ⟨following, Nat.le_refl _⟩
  exact skipped.1

theorem Following.start {settings : TailSettings Instant} {logId : Option String} {first : Nat}
    (upTo : startAfter ≤ log.newest) :
    Following log bound startAfter (TailIngest.start settings logId startAfter (some first)) where
  cursor := Nat.le_refl _
  upTo := upTo
  sound _ isEmitted := by contradiction
  complete data _ _ above upTo := by
    simp only [TailIngest.start] at upTo
    omega
  pending _ awaited := by contradiction
  lowest _ _ awaited := by contradiction

end Steps

theorem drain_done (settings : TailSettings Instant) (tail : TailIngest Instant) :
    (tail.drain settings).1.pending.lookup ((tail.drain settings).1.lastId + 1) = none := by
  fun_induction TailIngest.drain settings tail with
  | case1 tail absent => exact absent
  | case2 tail sku found ih => exact ih

section Turns

variable [Sub Instant] [LE Instant] [DecidableLE Instant] {settings : TailSettings Instant}
  {log : KnownLog} {bound startAfter : Nat} {tail after : TailIngest Instant}
  {rows : List ScanData} {maxScanId : Nat} {logId : Option String} {now : Instant}

/-- A pass over rows of the tail's own log does not raise: afterwards nothing is pending,
or the timer is started, or it goes on running, or the hole is passed over. -/
theorem TailIngest.step_rows (settings : TailSettings Instant) (rows : List ScanData) (now : Instant)
    (named : logId = tail.logId) (upTo : tail.lastId ≤ maxScanId) :
    ∃ after, tail.step settings (.rows rows maxScanId logId, now) = some after ∧
      ((((tail.hold rows).drain settings).1.pending.rows = [] ∧
          after = { ((tail.hold rows).drain settings).1 with holeSince := none }) ∨
        ((((tail.hold rows).drain settings).2 = true ∨ tail.holeSince = none) ∧ ∃ lowest,
          (((tail.hold rows).drain settings).1.pending.rows.map Prod.fst).min? = some lowest ∧
          after = { ((tail.hold rows).drain settings).1 with
            holeSince := some now, holeUpto := lowest - 1 }) ∨
        (((tail.hold rows).drain settings).2 = false ∧ ∃ since, tail.holeSince = some since ∧
          now - since ≤ settings.grace ∧ after = tail.hold rows) ∨
        (((tail.hold rows).drain settings).2 = false ∧ ∃ since, tail.holeSince = some since ∧
          ¬ now - since ≤ settings.grace ∧
          after = (TailIngest.drain settings
            { (List.range' (tail.lastId + 1) (tail.holeUpto - tail.lastId)).foldl
                (TailIngest.advance settings) (tail.hold rows) with holeSince := none }).1)) := by
  subst named
  simp only [step, pass, ne_eq, not_true_eq_false, ↓reduceIte, Nat.not_lt.mpr upTo]
  cases progressed : ((tail.hold rows).drain settings).2 with
  | true =>
      simp only [↓reduceIte, skipExpiredHole]
      cases lowest : (((tail.hold rows).drain settings).1.pending.rows.map Prod.fst).min? with
      | none =>
          rw [List.min?_eq_none_iff, List.map_eq_nil_iff] at lowest
          exact ⟨_, rfl, .inl ⟨lowest, rfl⟩⟩
      | some lowest => exact ⟨_, rfl, .inr (.inl ⟨.inl trivial, _, rfl, rfl⟩)⟩
  | false =>
      have unchanged := (drain_idle progressed).2
      simp only [Bool.false_eq_true, ↓reduceIte, unchanged, skipExpiredHole]
      cases lowest : ((tail.hold rows).pending.rows.map Prod.fst).min? with
      | none =>
          rw [List.min?_eq_none_iff, List.map_eq_nil_iff] at lowest
          exact ⟨_, rfl, .inl ⟨lowest, rfl⟩⟩
      | some lowest =>
          have sameTimer : (tail.hold rows).holeSince = tail.holeSince := rfl
          cases timer : tail.holeSince with
          | none =>
              simp only [sameTimer, timer]
              exact ⟨_, rfl, .inr (.inl ⟨.inr trivial, _, rfl, rfl⟩)⟩
          | some since =>
              simp only [sameTimer, timer]
              by_cases inTime : now - since ≤ settings.grace
              · simp only [inTime, ↓reduceIte]
                exact ⟨_, rfl, .inr (.inr (.inl ⟨trivial, since, rfl, inTime, rfl⟩))⟩
              · simp only [inTime, ↓reduceIte]
                exact ⟨_, rfl, .inr (.inr (.inr ⟨trivial, since, rfl, inTime, rfl⟩))⟩

/-- A pass that does not raise read the tail's own log. -/
theorem TailIngest.step_named
    (taken : tail.step settings (.rows rows maxScanId logId, now) = some after) :
    logId = tail.logId ∧ tail.lastId ≤ maxScanId := by
  simp only [step, pass] at taken
  split at taken
  · rename_i done raised
    split at raised
    · contradiction
    · rename_i same
      split at raised
      · contradiction
      · rename_i upTo
        exact ⟨not_not.mp same, Nat.not_lt.mp upTo⟩
  · contradiction

/-- A pass does not change the log the tail reads. -/
theorem TailIngest.step_logId {given : Read × Instant}
    (taken : tail.step settings given = some after) : after.logId = tail.logId := by
  have drained : ∀ other : TailIngest Instant, other.logId = tail.logId →
      (other.drain settings).1.logId = tail.logId :=
    fun other same => drain_kept settings (fun after => after.logId = tail.logId)
      (fun _ _ _ kept => kept) same
  rcases step_cases taken with
    ⟨_, rfl⟩ | ⟨rows, _, _, _, ⟨⟨since, upto, rfl⟩, _⟩ | ⟨_, _, rfl⟩⟩
  · rfl
  · exact drained _ rfl
  · apply drained
    exact skip_kept settings (fun other => other.logId = tail.logId) tail.holeUpto
      (fun _ _ kept => kept) rfl

/-- Turn lemma: over a read that hands over what is needed, the tail goes on following. -/
theorem Following.turn (following : Following log bound startAfter tail)
    (timed : Timed log bound tail) (fetched : Fetched log bound tail rows)
    (taken : tail.step settings (.rows rows maxScanId logId, now) = some after) :
    Following log bound startAfter after ∧ Timed log bound after := by
  have held : Following log bound startAfter (tail.hold rows) := following.hold fetched
  have timer : Timed log bound (tail.hold rows) := ⟨timed.upTo, timed.ahead, timed.hole⟩
  have drained : Following log bound startAfter ((tail.hold rows).drain settings).1 := held.drain
  obtain ⟨named, upTo⟩ := TailIngest.step_named taken
  obtain ⟨next, same, outcome⟩ := TailIngest.step_rows settings rows now named upTo
  rw [taken, Option.some.injEq] at same
  subst same
  rcases outcome with ⟨_, rfl⟩ | ⟨_, lowest, least, rfl⟩ | ⟨_, _, _, _, rfl⟩ |
    ⟨_, since, running, _, rfl⟩
  · exact ⟨drained.of_same rfl rfl rfl, Timed.stopped rfl⟩
  · exact ⟨drained.of_same rfl rfl rfl, drained.timer (drain_done _ _) least⟩
  · exact ⟨held, timer⟩
  · have skipped : Following log bound startAfter
        ((List.range' (tail.lastId + 1) (tail.holeUpto - tail.lastId)).foldl
          (TailIngest.advance settings) (tail.hold rows)) := held.skip timer running
    have whole : Following log bound startAfter
        { (List.range' (tail.lastId + 1) (tail.holeUpto - tail.lastId)).foldl
            (TailIngest.advance settings) (tail.hold rows) with holeSince := none } :=
      skipped.of_same rfl rfl rfl
    refine ⟨whole.drain, Timed.stopped ?_⟩
    exact TailIngest.drain_kept settings (fun other => other.holeSince = none)
      (fun _ _ _ kept => kept) rfl

end Turns

end SelfCheckout.Analytics
