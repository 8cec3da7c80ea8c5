import SelfCheckout.Data.Run
import SelfCheckout.Data.Table
import SelfCheckout.Events

namespace SelfCheckout.Analytics

open SelfCheckout.Data

/-! # TailIngest

The tail reads Checkout's scan log in passes.  A pass merges what a read
returned into `pending`, emits the rows contiguous with the cursor, and declares
a hole permanent once it stayed open longer than the grace period.
-/

structure ScanData where
  scanId : Nat
  sku : Sku
deriving DecidableEq, Repr

inductive Item where
  | scan (data : ScanData)
  | watermark (boundary : Nat)
deriving DecidableEq, Repr

variable {Instant : Type}

/-- The tail's settings; the slide interval is positive. -/
structure TailSettings (Instant : Type) where
  slide : Nat
  slidePos : 0 < slide
  batch : Nat
  grace : Instant

/-- The tail and everything it has put on its queue. -/
structure TailIngest (Instant : Type) where
  logId : Option String
  lastId : Nat
  nextBoundary : Nat
  pending : Table Nat Sku
  holeSince : Option Instant
  holeUpto : Nat
  out : List Item

/-- `first_boundary_after`: the smallest multiple of `slide` above `startAfter`. -/
def firstBoundaryAfter (startAfter slide : Nat) : Nat :=
  (startAfter / slide + 1) * slide

/-- `__init__`, for a source whose log has this name. -/
def TailIngest.start (settings : TailSettings Instant) (logId : Option String) (startAfter : Nat)
    (firstBoundary : Option Nat) : TailIngest Instant :=
  { logId
    lastId := startAfter
    nextBoundary := firstBoundary.getD (firstBoundaryAfter startAfter settings.slide)
    pending := Table.empty
    holeSince := none
    holeUpto := 0
    out := [] }

/-- The loop of `_advance`: the watermarks up to `lastId`, and the boundary after them. -/
def passBoundaries (settings : TailSettings Instant) (lastId next : Nat) : List Item × Nat :=
  if next ≤ lastId then
    let rest := passBoundaries settings lastId (next + settings.slide)
    (.watermark next :: rest.1, rest.2)
  else ([], next)
termination_by lastId + 1 - next
decreasing_by
  have := settings.slidePos
  omega

/-- `_advance` -/
def TailIngest.advance (settings : TailSettings Instant) (tail : TailIngest Instant)
    (scanId : Nat) : TailIngest Instant :=
  let passed := passBoundaries settings scanId tail.nextBoundary
  { tail with
    lastId := scanId
    nextBoundary := passed.2
    out := tail.out ++ passed.1 }

/-- One turn of `_drain`: the pending row of the next id is emitted. -/
def TailIngest.emit (settings : TailSettings Instant) (tail : TailIngest Instant) (sku : Sku) :
    TailIngest Instant :=
  TailIngest.advance settings
    { tail with
      pending := tail.pending.erase (tail.lastId + 1)
      out := tail.out ++ [.scan ⟨tail.lastId + 1, sku⟩] }
    (tail.lastId + 1)

/-- `_drain`, with whether any row was emitted. -/
def TailIngest.drain (settings : TailSettings Instant) (tail : TailIngest Instant) :
    TailIngest Instant × Bool :=
  match _found : tail.pending.lookup (tail.lastId + 1) with
  | none => (tail, false)
  | some sku => ((tail.emit settings sku).drain settings |>.1, true)
termination_by tail.pending.rows.length
decreasing_by
  exact Table.rows_erase_length_lt _found

inductive Read where
  | upstreamUnavailable
  | rows (rows : List ScanData) (maxScanId : Nat) (logId : Option String)
deriving Repr

/-- `CursorAhead`, by the check that raises it. -/
inductive CursorAhead where
  | logReplaced
  | behindCursor (maxScanId lastId : Nat)
deriving DecidableEq, Repr

inductive Rest where
  | readAgain
  | poll
  | backOff
deriving DecidableEq, Repr

def TailIngest.hold (tail : TailIngest Instant) (rows : List ScanData) : TailIngest Instant :=
  { tail with
    pending := rows.foldl (fun pending row =>
      if tail.lastId < row.scanId then pending.put row.scanId row.sku else pending) tail.pending }

section Clock

variable [Sub Instant] [LE Instant] [DecidableLE Instant]

/-- `_skip_expired_hole`, with whether ids were skipped. -/
def TailIngest.skipExpiredHole (settings : TailSettings Instant) (now : Instant)
    (tail : TailIngest Instant) : TailIngest Instant × Bool :=
  match (tail.pending.rows.map Prod.fst).min? with
  | none => ({ tail with holeSince := none }, false)
  | some lowest =>
      match tail.holeSince with
      | none => ({ tail with holeSince := some now, holeUpto := lowest - 1 }, false)
      | some since =>
          if now - since ≤ settings.grace then (tail, false)
          else
            ({ (List.range' (tail.lastId + 1) (tail.holeUpto - tail.lastId)).foldl
                (TailIngest.advance settings) tail with holeSince := none }, true)

/-- One turn of `run`'s loop: a read, and the clock as `_skip_expired_hole` sees it. -/
def TailIngest.pass (settings : TailSettings Instant) (tail : TailIngest Instant) (read : Read)
    (now : Instant) : Except CursorAhead (TailIngest Instant × Rest) :=
  match read with
  | .upstreamUnavailable => .ok (tail, .backOff)
  | .rows rows maxScanId logId =>
      if logId ≠ tail.logId then .error .logReplaced
      else if maxScanId < tail.lastId then .error (.behindCursor maxScanId tail.lastId)
      else
        let drained := (tail.hold rows).drain settings
        let timed := if drained.2 then { drained.1 with holeSince := none } else drained.1
        let skipped := timed.skipExpiredHole settings now
        if skipped.2 then .ok ((skipped.1.drain settings).1, .readAgain)
        else
          .ok (skipped.1,
            if rows.length < settings.batch ∨ drained.2 = false then .poll else .readAgain)

/-- A pass that does not raise. -/
def TailIngest.step (settings : TailSettings Instant) (tail : TailIngest Instant)
    (given : Read × Instant) : Option (TailIngest Instant) :=
  match tail.pass settings given.1 given.2 with
  | .ok done => some done.1
  | .error _ => none

end Clock

section Loops

variable {settings : TailSettings Instant} {tail : TailIngest Instant}

/-- What emitting one row keeps, `_drain` keeps. -/
theorem TailIngest.drain_kept (settings : TailSettings Instant) (Holds : TailIngest Instant → Prop)
    (emitted : ∀ tail sku, tail.pending.lookup (tail.lastId + 1) = some sku → Holds tail →
      Holds (TailIngest.emit settings tail sku))
    (holds : Holds tail) : Holds (tail.drain settings).1 := by
  fun_induction TailIngest.drain settings tail with
  | case1 tail absent => exact holds
  | case2 tail sku found ih => exact ih (emitted tail sku found holds)

theorem TailIngest.drain_idle (idle : (tail.drain settings).2 = false) :
    tail.pending.lookup (tail.lastId + 1) = none ∧ (tail.drain settings).1 = tail := by
  unfold TailIngest.drain at idle ⊢
  split
  · rename_i absent
    exact ⟨absent, rfl⟩
  · rename_i sku found
    split at idle
    · rename_i absent
      rw [found] at absent
      contradiction
    · contradiction

theorem TailIngest.drain_stuck (absent : tail.pending.lookup (tail.lastId + 1) = none) :
    (tail.drain settings).2 = false := by
  unfold TailIngest.drain
  split
  · rfl
  · rename_i sku found
    rw [absent] at found
    contradiction

/-- What passing over one id keeps, the loop of `_skip_expired_hole` keeps. -/
theorem TailIngest.skip_kept (settings : TailSettings Instant) (Holds : TailIngest Instant → Prop)
    (upto : Nat)
    (skipped : ∀ tail, tail.lastId < upto → Holds tail →
      Holds (TailIngest.advance settings tail (tail.lastId + 1)))
    (holds : Holds tail) :
    Holds ((List.range' (tail.lastId + 1) (upto - tail.lastId)).foldl
      (TailIngest.advance settings) tail) := by
  generalize left : upto - tail.lastId = count
  induction count generalizing tail with
  | zero => exact holds
  | succ count ih =>
      rw [List.range'_succ, List.foldl_cons]
      apply @ih (tail.advance settings (tail.lastId + 1))
      · exact skipped tail (by omega) holds
      · simp only [TailIngest.advance]
        omega

theorem TailIngest.skip_lastId (count : Nat) :
    ((List.range' (tail.lastId + 1) count).foldl (TailIngest.advance settings) tail).lastId =
      tail.lastId + count := by
  induction count generalizing tail with
  | zero => rfl
  | succ count ih =>
      rw [List.range'_succ, List.foldl_cons]
      have rest := @ih (tail.advance settings (tail.lastId + 1))
      simp only [TailIngest.advance] at rest ⊢
      rw [rest]
      omega

theorem passBoundaries_succ {next : Nat} (ahead : tail.lastId < next) :
    passBoundaries settings (tail.lastId + 1) next =
      if next = tail.lastId + 1 then ([.watermark next], next + settings.slide) else ([], next) := by
  have := settings.slidePos
  rw [passBoundaries]
  split
  · have here : next = tail.lastId + 1 := by omega
    rw [passBoundaries]
    simp only [here, ↓reduceIte]
    rw [if_neg (by omega)]
  · rw [if_neg (by omega)]

end Loops

section Passes

variable [Sub Instant] [LE Instant] [DecidableLE Instant] {settings : TailSettings Instant}
  {tail after : TailIngest Instant} {read : Read} {now : Instant}

/-- `_skip_expired_hole` only restarts or keeps its timer, or passes over the
ids up to the end of the hole it remembers. -/
theorem TailIngest.skipExpiredHole_cases (settings : TailSettings Instant) (now : Instant)
    (tail : TailIngest Instant) :
    ((tail.skipExpiredHole settings now).2 = false ∧
      (tail.pending.rows = [] ∨
        ∀ since, tail.holeSince = some since → now - since ≤ settings.grace) ∧
      ∃ since upto, (tail.skipExpiredHole settings now).1 =
        { tail with holeSince := since, holeUpto := upto }) ∨
    ((tail.skipExpiredHole settings now).2 = true ∧
      (∃ since, tail.holeSince = some since ∧ ¬ now - since ≤ settings.grace) ∧
      (tail.skipExpiredHole settings now).1 =
        { (List.range' (tail.lastId + 1) (tail.holeUpto - tail.lastId)).foldl
            (TailIngest.advance settings) tail with holeSince := none }) := by
  unfold TailIngest.skipExpiredHole
  split
  · rename_i empty
    rw [List.min?_eq_none_iff, List.map_eq_nil_iff] at empty
    exact .inl ⟨rfl, .inl empty, none, tail.holeUpto, rfl⟩
  · rename_i lowest _
    split
    · rename_i stopped
      refine .inl ⟨rfl, .inr ?_, some now, lowest - 1, rfl⟩
      intro since timed
      rw [stopped] at timed
      contradiction
    · rename_i since timed
      split
      · rename_i inTime
        refine .inl ⟨rfl, .inr ?_, tail.holeSince, tail.holeUpto, rfl⟩
        intro other timedAt
        rw [timed, Option.some.injEq] at timedAt
        rwa [← timedAt]
      · rename_i expired
        exact .inr ⟨rfl, ⟨since, timed, expired⟩, rfl⟩

/-- Inversion of a pass: the read failed and nothing changed; or its rows were
merged and drained, and then the hole was left to its timer, or was skipped
because nothing had been drained, rows are pending and the grace period is over. -/
theorem TailIngest.step_cases (taken : tail.step settings (read, now) = some after) :
    (read = .upstreamUnavailable ∧ after = tail) ∨
    ∃ rows maxScanId logId, read = .rows rows maxScanId logId ∧
      (((∃ since upto, after =
          { ((tail.hold rows).drain settings).1 with holeSince := since, holeUpto := upto }) ∧
        ((tail.hold rows).pending.lookup ((tail.hold rows).lastId + 1) = none →
          (tail.hold rows).pending.rows = [] ∨
            ∀ since, tail.holeSince = some since → now - since ≤ settings.grace)) ∨
      ((tail.hold rows).pending.lookup ((tail.hold rows).lastId + 1) = none ∧
        (∃ since, tail.holeSince = some since ∧ ¬ now - since ≤ settings.grace) ∧
        after = (TailIngest.drain settings
          { (List.range' ((tail.hold rows).lastId + 1)
              (tail.holeUpto - (tail.hold rows).lastId)).foldl
              (TailIngest.advance settings) (tail.hold rows) with holeSince := none }).1)) := by
  cases read with
  | upstreamUnavailable =>
      simp only [step, pass, Option.some.injEq] at taken
      exact .inl ⟨rfl, taken.symm⟩
  | rows rows maxScanId logId =>
      refine .inr ⟨rows, maxScanId, logId, rfl, ?_⟩
      simp only [step, pass] at taken
      by_cases replaced : logId ≠ tail.logId
      · simp [replaced] at taken
      by_cases behind : maxScanId < tail.lastId
      · simp [replaced, behind] at taken
      simp only [replaced, behind, ↓reduceIte] at taken
      generalize timed : (if ((tail.hold rows).drain settings).2 = true then
        { ((tail.hold rows).drain settings).1 with holeSince := none }
        else ((tail.hold rows).drain settings).1) = merged at taken
      have fields : ∃ since, merged =
          { ((tail.hold rows).drain settings).1 with holeSince := since } := by
        rw [← timed]
        split
        · exact ⟨none, rfl⟩
        · exact ⟨_, rfl⟩
      have idle : ((tail.hold rows).drain settings).2 = false → merged = tail.hold rows := by
        intro idle
        rw [← timed, if_neg (by simp [idle])]
        exact (drain_idle idle).2
      rcases skipExpiredHole_cases settings now merged with
        ⟨still, why, since, upto, same⟩ | ⟨skipped, ⟨since, running, expired⟩, same⟩
      · simp only [still, Bool.false_eq_true, ↓reduceIte, Option.some.injEq] at taken
        refine .inl ⟨?_, ?_⟩
        · obtain ⟨earlier, rfl⟩ := fields
          exact ⟨since, upto, by rw [← taken, same]⟩
        · intro absent
          have merged := idle (drain_stuck absent)
          rwa [merged] at why
      · simp only [skipped, ↓reduceIte, Option.some.injEq] at taken
        rw [same] at taken
        cases progressed : ((tail.hold rows).drain settings).2 with
        | true =>
            simp only [progressed, ↓reduceIte] at timed
            rw [← timed] at running
            contradiction
        | false =>
            obtain ⟨absent, unchanged⟩ := drain_idle progressed
            have merged := idle progressed
            subst merged
            exact .inr ⟨absent, ⟨since, running, expired⟩, taken.symm⟩

end Passes

/-- Where an item belongs: a watermark right after the scan of its boundary. -/
def Item.key : Item → Nat
  | .scan data => 2 * data.scanId
  | .watermark boundary => 2 * boundary + 1

def Item.boundary? : Item → Option Nat
  | .scan _ => none
  | .watermark boundary => some boundary

def Item.scan? : Item → Option ScanData
  | .scan data => some data
  | .watermark _ => none

def scans (items : List Item) : List ScanData := items.filterMap Item.scan?

def marks (items : List Item) : List Nat := items.filterMap Item.boundary?

/-- The queue is in key order, above where the tail started and up to its
cursor, and holds the boundaries from `first` up to the cursor. -/
structure Ordered (settings : TailSettings Instant) (startAfter first : Nat)
    (tail : TailIngest Instant) : Prop where
  sorted : (tail.out.map Item.key).Pairwise (· < ·)
  above : ∀ item ∈ tail.out, 2 * startAfter + 1 < item.key
  upTo : ∀ item ∈ tail.out, item.key ≤ 2 * tail.lastId + 1
  cursor : startAfter ≤ tail.lastId
  marked : ∃ count, marks tail.out =
      (List.range count).map (fun index => first + index * settings.slide) ∧
    tail.nextBoundary = first + count * settings.slide
  ahead : tail.lastId < tail.nextBoundary

section Order

variable {settings : TailSettings Instant} {startAfter first : Nat} {tail : TailIngest Instant}

/-- The scan of the next id comes after all of the queue. -/
theorem Ordered.sorted_scan {scan : List Item} (ordered : Ordered settings startAfter first tail)
    (scanned : scan = [] ∨ ∃ sku, scan = [.scan ⟨tail.lastId + 1, sku⟩]) :
    ((tail.out ++ scan).map Item.key).Pairwise (· < ·) := by
  have keys : scan.map Item.key = [] ∨ scan.map Item.key = [2 * (tail.lastId + 1)] := by
    rcases scanned with rfl | ⟨sku, rfl⟩
    · exact .inl rfl
    · exact .inr rfl
  rw [List.map_append, List.pairwise_append]
  refine ⟨ordered.sorted, ?_, ?_⟩
  · rcases keys with empty | single
    · simp [empty]
    · simp [single]
  · intro early earlyMember late lateMember
    obtain ⟨item, member, rfl⟩ := List.mem_map.mp earlyMember
    have bound := ordered.upTo item member
    rcases keys with empty | single
    · simp [empty] at lateMember
    · simp only [single, List.mem_singleton] at lateMember
      omega

theorem Ordered.bounded_scan {scan : List Item} (ordered : Ordered settings startAfter first tail)
    (scanned : scan = [] ∨ ∃ sku, scan = [.scan ⟨tail.lastId + 1, sku⟩]) :
    ∀ item ∈ tail.out ++ scan,
      2 * startAfter + 1 < item.key ∧ item.key ≤ 2 * (tail.lastId + 1) := by
  have cursor := ordered.cursor
  intro item member
  rcases List.mem_append.mp member with old | new
  · have lower := ordered.above item old
    have upper := ordered.upTo item old
    omega
  · rcases scanned with rfl | ⟨sku, rfl⟩
    · contradiction
    · rw [List.mem_singleton] at new
      subst new
      simp only [Item.key]
      omega

/-- The next id goes on the queue, with or without a scan, and then its
watermark if it is a boundary. -/
theorem Ordered.next {scan : List Item} (pending : Table Nat Sku)
    (ordered : Ordered settings startAfter first tail)
    (scanned : scan = [] ∨ ∃ sku, scan = [.scan ⟨tail.lastId + 1, sku⟩]) :
    Ordered settings startAfter first
      (TailIngest.advance settings { tail with pending, out := tail.out ++ scan }
        (tail.lastId + 1)) := by
  obtain ⟨count, marked, next⟩ := ordered.marked
  have noMarks : marks scan = [] := by
    rcases scanned with rfl | ⟨sku, rfl⟩ <;> rfl
  have cursor := ordered.cursor
  have ahead := ordered.ahead
  have sortedScan := ordered.sorted_scan scanned
  have boundedScan := ordered.bounded_scan scanned
  by_cases here : tail.nextBoundary = tail.lastId + 1
  · have passed : passBoundaries settings (tail.lastId + 1) tail.nextBoundary =
        ([.watermark (tail.lastId + 1)], tail.lastId + 1 + settings.slide) := by
      rw [passBoundaries_succ ahead, if_pos here, here]
    have positive := settings.slidePos
    simp only [TailIngest.advance, passed]
    constructor
    · simp only
      rw [List.map_append, List.pairwise_append]
      refine ⟨sortedScan, by simp, ?_⟩
      intro early earlyMember late lateMember
      obtain ⟨item, member, rfl⟩ := List.mem_map.mp earlyMember
      have bound := (boundedScan item member).2
      simp only [List.map_cons, List.map_nil, List.mem_singleton, Item.key] at lateMember
      omega
    · intro item member
      rcases List.mem_append.mp member with old | new
      · exact (boundedScan item old).1
      · rw [List.mem_singleton] at new
        subst new
        simp only [Item.key]
        omega
    · intro item member
      rcases List.mem_append.mp member with old | new
      · have bound := (boundedScan item old).2
        simp only
        omega
      · rw [List.mem_singleton] at new
        subst new
        simp only [Item.key]
        omega
    · simp only
      omega
    · refine ⟨count + 1, ?_, ?_⟩
      · simp only [marks, List.filterMap_append] at marked noMarks ⊢
        rw [marked, noMarks, List.range_succ, List.map_append]
        simp [Item.boundary?, ← next, here]
      · simp only
        rw [Nat.add_mul, ← here, next]
        omega
    · simp only
      omega
  · have passed : passBoundaries settings (tail.lastId + 1) tail.nextBoundary =
        ([], tail.nextBoundary) := by
      rw [passBoundaries_succ ahead, if_neg here]
    simp only [TailIngest.advance, passed, List.append_nil]
    constructor
    · exact sortedScan
    · exact fun item member => (boundedScan item member).1
    · intro item member
      have bound := (boundedScan item member).2
      simp only
      omega
    · simp only
      omega
    · refine ⟨count, ?_, next⟩
      simp only [marks, List.filterMap_append] at marked noMarks ⊢
      rw [marked, noMarks, List.append_nil]
    · simp only
      omega

theorem Ordered.emit (ordered : Ordered settings startAfter first tail) (sku : Sku) :
    Ordered settings startAfter first (tail.emit settings sku) :=
  ordered.next _ (.inr ⟨sku, rfl⟩)

theorem Ordered.advance (ordered : Ordered settings startAfter first tail) :
    Ordered settings startAfter first (tail.advance settings (tail.lastId + 1)) := by
  have next := ordered.next tail.pending (.inl rfl)
  simpa only [List.append_nil] using next

theorem Ordered.of_same {other : TailIngest Instant}
    (ordered : Ordered settings startAfter first tail) (sameOut : other.out = tail.out)
    (sameLast : other.lastId = tail.lastId) (sameNext : other.nextBoundary = tail.nextBoundary) :
    Ordered settings startAfter first other := by
  obtain ⟨sorted, above, upTo, cursor, marked, ahead⟩ := ordered
  constructor
  · rwa [sameOut]
  · rwa [sameOut]
  · rwa [sameOut, sameLast]
  · rwa [sameLast]
  · rwa [sameOut, sameNext]
  · rwa [sameLast, sameNext]

theorem Ordered.drain (ordered : Ordered settings startAfter first tail) :
    Ordered settings startAfter first (tail.drain settings).1 :=
  TailIngest.drain_kept settings _ (fun _ sku _ ordered => ordered.emit sku) ordered

/-- Step lemma: any pass keeps the order of the queue. -/
theorem Ordered.step [Sub Instant] [LE Instant] [DecidableLE Instant]
    {after : TailIngest Instant} {given : Read × Instant}
    (ordered : Ordered settings startAfter first tail)
    (taken : tail.step settings given = some after) : Ordered settings startAfter first after := by
  rcases TailIngest.step_cases taken with
    ⟨_, rfl⟩ | ⟨rows, _, _, _, ⟨⟨since, upto, rfl⟩, _⟩ | ⟨_, _, rfl⟩⟩
  · exact ordered
  · have held : Ordered settings startAfter first (tail.hold rows) := ordered.of_same rfl rfl rfl
    exact held.drain.of_same rfl rfl rfl
  · have held : Ordered settings startAfter first (tail.hold rows) := ordered.of_same rfl rfl rfl
    have skipped := TailIngest.skip_kept settings (Ordered settings startAfter first)
      tail.holeUpto (fun _ _ ordered => ordered.advance) held
    exact Ordered.drain (skipped.of_same rfl rfl rfl)

theorem Ordered.start (logId : Option String) (ahead : startAfter < first) :
    Ordered settings startAfter first (TailIngest.start settings logId startAfter (some first)) where
  sorted := List.Pairwise.nil
  above _ member := by contradiction
  upTo _ member := by contradiction
  cursor := le_rfl
  marked := ⟨0, rfl, by simp [TailIngest.start]⟩
  ahead := ahead

theorem scans_append (left right : List Item) : scans (left ++ right) = scans left ++ scans right :=
  List.filterMap_append

theorem scans_passBoundaries (settings : TailSettings Instant) (lastId next : Nat) :
    scans (passBoundaries settings lastId next).1 = [] := by
  fun_induction passBoundaries settings lastId next with
  | case1 next _ rest ih => exact ih
  | case2 next _ => rfl

@[simp] theorem scans_advance (tail : TailIngest Instant) (scanId : Nat) :
    scans (tail.advance settings scanId).out = scans tail.out := by
  simp [TailIngest.advance, scans_append, scans_passBoundaries]

@[simp] theorem scans_emit (tail : TailIngest Instant) (sku : Sku) :
    scans (tail.emit settings sku).out = scans tail.out ++ [⟨tail.lastId + 1, sku⟩] := by
  simp only [TailIngest.emit, scans_advance, scans_append]
  rfl

end Order

end SelfCheckout.Analytics
