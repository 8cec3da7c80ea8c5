import SelfCheckout.Analytics.Filters
import SelfCheckout.Analytics.Follow
import SelfCheckout.Relay.Delivery
import SelfCheckout.Relay.Incarnations
import Mathlib.Data.List.Forall2

namespace SelfCheckout.Analytics

open SelfCheckout.Data

/-! # A restarted Analytics

The pipeline bootstraps from a source that has replayed the last records of the topic.
Scans that are missing from the replay are a hole, and the tail passes a hole over once
the grace period is over.
-/

variable {Instant : Type}

/-- What AggregationFilter hands to the ranking, window by window. -/
def windowCounts (settings : PipelineSettings Instant) (startAfter : Nat) (queue : List Item) :
    List WindowCounts :=
  (feed AggregationFilter.receive Table.empty
    (feed (WindowFilter.receive settings.window) ⟨[], startAfter⟩ queue).2).2

/-- The window that ends at `boundary`, with the counts of these scans. -/
structure CountsOf (settings : PipelineSettings Instant) (all : List ScanData) (boundary : Nat)
    (item : WindowCounts) : Prop where
  windowStart : item.windowStart = boundary - settings.window
  windowEnd : item.windowEnd = boundary
  counts : ∀ sku, item.counts.lookup sku =
    if 0 < scanCount (inWindow settings.window boundary all) sku then
      some (scanCount (inWindow settings.window boundary all) sku : Int)
    else none

section Clock

variable [Sub Instant] [LE Instant] [DecidableLE Instant]

/-- The tail of `_run_pipeline` over this source, after `count` turns of its loop. -/
def tailAfter (settings : PipelineSettings Instant) (source : KafkaScanSource)
    (clock : Nat → Instant) : Nat → Option (TailIngest Instant)
  | 0 =>
      some (TailIngest.start settings.toTailSettings source.logId
        (bootstrap settings source.maxId).1 (some (bootstrap settings source.maxId).2))
  | count + 1 =>
      (tailAfter settings source clock count).bind (fun tail =>
        tail.step settings.toTailSettings
          (source.read tail.lastId settings.batch, clock count))

/-- The first window the restarted pipeline has published by then, if any. -/
def firstWindow (settings : PipelineSettings Instant) (source : KafkaScanSource)
    (tail : TailIngest Instant) : Option WindowCounts :=
  (windowCounts settings (bootstrap settings source.maxId).1 tail.out).head?

/-- The last boundary at or below the newest scan of the topic. -/
def lastBoundary (settings : PipelineSettings Instant) (topic : List ScanData) : Nat :=
  newest topic - newest topic % settings.slide

/-- The first window published is the one of the last boundary, with the counts of all
distinct scans on the topic, and it is published if there is such a boundary. -/
structure RebuildsWindow (settings : PipelineSettings Instant) (topic : List ScanData)
    (clock : Nat → Instant) : Prop where
  right : ∀ count tail item,
    tailAfter settings (KafkaScanSource.replayed settings.window topic) clock count = some tail →
    firstWindow settings (KafkaScanSource.replayed settings.window topic) tail = some item →
    0 < lastBoundary settings topic ∧
      CountsOf settings topic.dedup (lastBoundary settings topic) item
  published : 0 < lastBoundary settings topic → ∃ count tail item,
    tailAfter settings (KafkaScanSource.replayed settings.window topic) clock count = some tail ∧
    firstWindow settings (KafkaScanSource.replayed settings.window topic) tail = some item

/-- However long a hole has been open, the grace period ends. -/
def Outlasts (clock : Nat → Instant) (grace : Instant) : Prop :=
  ∀ since count, ∃ later, count ≤ later ∧ ¬ clock later - since ≤ grace

end Clock

/-- The last records of the topic still have a scan of the last boundary or above, and
every scan of its window. -/
def ReplaysWindow (settings : PipelineSettings Instant) (topic : List ScanData) : Prop :=
  0 < lastBoundary settings topic →
    lastBoundary settings topic ≤ newest (topic.drop (topic.length - 2 * settings.window)) ∧
    ∀ data ∈ topic, lastBoundary settings topic < data.scanId + settings.window →
      data.scanId ≤ lastBoundary settings topic →
      data ∈ topic.drop (topic.length - 2 * settings.window)

section Windows

variable {settings : PipelineSettings Instant} {startAfter : Nat}

theorem CountsOf.of_inWindow {all other : List ScanData} {boundary : Nat} {item : WindowCounts}
    (counted : CountsOf settings all boundary item)
    (same : ∀ sku, scanCount (inWindow settings.window boundary all) sku =
      scanCount (inWindow settings.window boundary other) sku) :
    CountsOf settings other boundary item := by
  refine ⟨counted.windowStart, counted.windowEnd, ?_⟩
  intro sku
  rw [← same sku]
  exact counted.counts sku

theorem windowCounts_scan (queue : List Item) (data : ScanData) :
    windowCounts settings startAfter (queue ++ [.scan data]) =
      windowCounts settings startAfter queue := by
  simp [windowCounts, feed_snoc, WindowFilter.receive]

theorem windowCounts_watermark (queue : List Item) (boundary : Nat) :
    windowCounts settings startAfter (queue ++ [.watermark boundary]) =
      windowCounts settings startAfter queue ++
        [⟨boundary - settings.window, boundary,
          (feed AggregationFilter.receive Table.empty
            (feed (WindowFilter.receive settings.window) ⟨[], startAfter⟩
              (queue ++ [.watermark boundary])).2).1⟩] := by
  simp [windowCounts, feed_snoc, WindowFilter.receive, AggregationFilter.receive]

/-- One window for each watermark of a queue in order, with the counts of its bounds. -/
theorem windowCounts_counted {queue : List Item} (ordered : InOrder startAfter queue) :
    List.Forall₂ (CountsOf settings (scans queue)) (marks queue)
      (windowCounts settings startAfter queue) := by
  induction queue using List.reverseRecOn with
  | nil => exact List.Forall₂.nil
  | append_singleton queue item ih =>
      obtain ⟨before, after, _⟩ := ordered.snoc
      have counted := ih before
      cases item with
      | scan data =>
          have same : marks (queue ++ [.scan data]) = marks queue := by
            simp [marks, Item.boundary?]
          rw [windowCounts_scan, same]
          have earlier : ∀ boundary ∈ marks queue, boundary < data.scanId := by
            intro boundary member
            have less := after _ (mem_marks.mp member)
            simp only [Item.key] at less
            omega
          have split : scans (queue ++ [.scan data]) = scans queue ++ [data] := scans_append _ _
          refine List.Forall₂.imp ?_ ((List.forall₂_and_left _ _).mpr ⟨earlier, counted⟩)
          intro boundary window both
          obtain ⟨later, counts⟩ := both
          apply counts.of_inWindow
          intro sku
          rw [split, inWindow_append_later later]
      | watermark boundary =>
          have marked : marks (queue ++ [.watermark boundary]) = marks queue ++ [boundary] := by
            simp [marks, Item.boundary?]
          have same : scans (queue ++ [.watermark boundary]) = scans queue := by
            simp [scans, Item.scan?]
          rw [windowCounts_watermark, marked]
          apply List.rel_append
          · rw [same]
            exact counted
          · apply List.Forall₂.cons _ List.Forall₂.nil
            have now := counted_of_inOrder settings ordered
            have last : (feed (WindowFilter.receive settings.window) ⟨[], startAfter⟩
                (queue ++ [.watermark boundary])).1.lastBoundary = boundary := by
              simp [feed_snoc, WindowFilter.receive]
            refine ⟨rfl, rfl, ?_⟩
            intro sku
            have counts := now.counts sku
            rw [last] at counts
            exact counts

/-- The first window is the one of the first boundary, which the cursor has passed. -/
theorem Ordered.firstWindow {first : Nat} {tail : TailIngest Instant} {item : WindowCounts}
    (ordered : Ordered settings.toTailSettings startAfter first tail)
    (isFirst : (windowCounts settings startAfter tail.out).head? = some item) :
    first ≤ tail.lastId ∧ CountsOf settings (scans tail.out) first item := by
  have counted : List.Forall₂ (CountsOf settings (scans tail.out)) (marks tail.out)
      (windowCounts settings startAfter tail.out) :=
    windowCounts_counted ⟨ordered.sorted, ordered.above⟩
  obtain ⟨boundaries, marked, _⟩ := ordered.marked
  cases windows : windowCounts settings startAfter tail.out with
  | nil =>
      rw [windows] at isFirst
      contradiction
  | cons window others =>
      rw [windows] at isFirst counted
      cases isFirst
      cases boundaries with
      | zero =>
          rw [marked] at counted
          cases counted
      | succ boundaries =>
          have listed : .watermark first ∈ tail.out := by
            rw [← mem_marks, marked, List.range_succ_eq_map]
            simp
          have upTo := ordered.upTo _ listed
          simp only [Item.key] at upTo
          rw [marked, List.range_succ_eq_map, List.map_cons, Nat.zero_mul, Nat.add_zero] at counted
          cases counted with
          | cons here _ => exact ⟨by omega, here⟩

theorem Ordered.nodup_scans {first : Nat} {tail : TailIngest Instant}
    (ordered : Ordered settings.toTailSettings startAfter first tail) : (scans tail.out).Nodup := by
  have increasing := InOrder.increasing ⟨ordered.sorted, ordered.above⟩
  exact List.Nodup.of_map ScanData.scanId (increasing.imp (fun less => ne_of_lt less))

theorem replayed_maxId (settings : PipelineSettings Instant) (logged : Logged log topic) :
    (KafkaScanSource.replayed settings.window topic).maxId =
        newest (topic.drop (topic.length - 2 * settings.window)) ∧
      (KafkaScanSource.replayed settings.window topic).maxId ≤ newest topic := by
  have maxId := (KafkaScanSource.replayed_holds logged settings.window settings.windowPos).maxId
  rw [maxId]
  exact ⟨rfl, newest_mono (List.drop_subset _ _)⟩

theorem boundary_mono (slide : Nat) {low high : Nat} (upTo : low ≤ high) :
    low - low % slide ≤ high - high % slide := by
  rw [← Nat.div_mul_self_eq_mod_sub_self, ← Nat.div_mul_self_eq_mod_sub_self]
  exact Nat.mul_le_mul_right _ (Nat.div_le_div_right upTo)

/-- A lower id that is not below the last boundary has the same last boundary. -/
theorem boundary_of_between {slide low high : Nat} (notBelow : high - high % slide ≤ low)
    (upTo : low ≤ high) : low - low % slide = high - high % slide := by
  apply Nat.le_antisymm (boundary_mono slide upTo)
  have again := boundary_mono slide notBelow
  have multiple : (high - high % slide) % slide = 0 := by
    rw [← Nat.div_mul_self_eq_mod_sub_self]
    exact Nat.mul_mod_left _ _
  rwa [multiple, Nat.sub_zero] at again

/-- Ascending ids above a bound reach at least as far as there are ids. -/
theorem length_le_newest {records : List ScanData} {bound : Nat}
    (ascending : records.Pairwise (fun left right => left.scanId < right.scanId))
    (above : ∀ data ∈ records, bound < data.scanId) (some : records ≠ []) :
    bound + records.length ≤ newest records := by
  induction records generalizing bound with
  | nil => contradiction
  | cons data records ih =>
      rw [List.pairwise_cons] at ascending
      have first := above data List.mem_cons_self
      have here : data.scanId ≤ newest (data :: records) := le_newest List.mem_cons_self
      cases records with
      | nil =>
          simp only [List.length_singleton]
          omega
      | cons other records =>
          have rest := ih ascending.2 ascending.1 (by simp)
          have within := newest_mono (List.subset_cons_self data (other :: records))
          simp only [List.length_cons] at rest ⊢
          omega

/-- Where no scan was published again, the last records hold the window. -/
theorem replaysWindow_of_ascending (narrow : settings.slide ≤ settings.window)
    (ascending : topic.Pairwise (fun left right => left.scanId < right.scanId)) :
    ReplaysWindow settings topic := by
  have slide := Nat.mod_lt (newest topic) settings.slidePos
  have recent : ∀ data ∈ topic, newest topic < data.scanId + 2 * settings.window →
      data ∈ topic.drop (topic.length - 2 * settings.window) := by
    intro data member close
    by_contra missing
    have split := List.mem_append.mp
      ((List.take_append_drop (topic.length - 2 * settings.window) topic).symm ▸ member)
    have early := split.resolve_right missing
    rw [← List.take_append_drop (topic.length - 2 * settings.window) topic,
      List.pairwise_append] at ascending
    have length : (topic.drop (topic.length - 2 * settings.window)).length = 2 * settings.window := by
      have positive := List.length_pos_of_mem early
      rw [List.length_take] at positive
      rw [List.length_drop]
      omega
    have window := settings.windowPos
    have far := length_le_newest ascending.2.1 (ascending.2.2 data early)
      (List.ne_nil_of_length_pos (by omega))
    have within := newest_mono (List.drop_subset (topic.length - 2 * settings.window) topic)
    omega
  intro boundary
  unfold lastBoundary at boundary ⊢
  constructor
  · obtain ⟨data, member, same⟩ := newest_mem (show 0 < newest topic by omega)
    have window := settings.windowPos
    have below := le_newest (recent data member (by omega))
    omega
  · intro data member above below
    exact recent data member (by omega)

end Windows

/-- A source that has read its replay and changes no more. -/
structure KafkaScanSource.Ready (source : KafkaScanSource) : Prop where
  caughtUp : source.caughtUp = true
  newest : ∀ id sku, source.rows.lookup id = some sku → id ≤ source.maxId
  reached : 0 < source.maxId → ∃ sku, source.rows.lookup source.maxId = some sku

/-- The log as such a source has it in its buffer. -/
def KafkaScanSource.Ready.log {source : KafkaScanSource} (ready : source.Ready) : KnownLog where
  has data := source.rows.lookup data.scanId = some data.sku
  newest := source.maxId
  single data other known otherKnown same := by
    rw [same, otherKnown, Option.some.injEq] at known
    cases data
    cases other
    simp_all
  upTo data known := ready.newest _ _ known

section Turns

variable {settings : TailSettings Instant} {source : KafkaScanSource} {startAfter : Nat}
  {tail : TailIngest Instant}

theorem le_drain (settings : TailSettings Instant) (tail : TailIngest Instant) :
    tail.lastId ≤ (tail.drain settings).1.lastId :=
  TailIngest.drain_kept settings (fun after => tail.lastId ≤ after.lastId)
    (fun _ _ _ below => Nat.le_succ_of_le below) (Nat.le_refl _)

theorem lt_drain (progressed : (tail.drain settings).2 = true) :
    tail.lastId < (tail.drain settings).1.lastId := by
  unfold TailIngest.drain at progressed ⊢
  split
  · rename_i absent
    split at progressed
    · contradiction
    · rename_i found
      rw [absent] at found
      contradiction
  · rename_i sku found
    exact Nat.lt_of_succ_le (le_drain settings (tail.emit settings sku))

theorem KafkaScanSource.Ready.fetched (ready : source.Ready) (tail : TailIngest Instant)
    (limit : Nat) :
    Fetched ready.log source.maxId tail ((source.rowsAfter tail.lastId).take limit) :=
  .of_read (fun _ _ stored => stored) (fun _ known _ _ => .inr known)

/-- A row above the cursor is pending after the read. -/
theorem pending_of_behind (ready : source.Ready)
    (following : Following ready.log source.maxId startAfter tail) (positive : 0 < settings.batch)
    (behind : tail.lastId < source.maxId) :
    (tail.hold ((source.rowsAfter tail.lastId).take settings.batch)).pending.rows ≠ [] := by
  obtain ⟨sku, stored⟩ := ready.reached (by omega)
  have listed : (⟨source.maxId, sku⟩ : ScanData) ∈ source.rowsAfter tail.lastId :=
    KafkaScanSource.mem_rowsAfter.mpr ⟨behind, stored⟩
  intro empty
  cases rows : source.rowsAfter tail.lastId with
  | nil =>
      rw [rows] at listed
      contradiction
  | cons row others =>
      have first : row ∈ (source.rowsAfter tail.lastId).take settings.batch := by
        obtain ⟨batch, same⟩ := Nat.exists_eq_succ_of_ne_zero (Nat.ne_of_gt positive)
        simp [rows, same]
      have awaited := (awaits_hold following (ready.fetched tail settings.batch) row).mpr (.inl first)
      have isRow := Table.lookup_eq_some.mp awaited
      rw [empty] at isRow
      contradiction

variable [Sub Instant] [LE Instant] [DecidableLE Instant]

/-- Turn lemma: the tail goes on following the source, and it moves its cursor, or its
timer runs and the grace period is not over. -/
theorem Following.takes_turn (ready : source.Ready)
    (following : Following ready.log source.maxId startAfter tail)
    (timed : Timed ready.log source.maxId tail) (named : tail.logId = source.logId)
    (positive : 0 < settings.batch) (now : Instant) :
    ∃ after, tail.step settings (source.read tail.lastId settings.batch, now) = some after ∧
      Following ready.log source.maxId startAfter after ∧ Timed ready.log source.maxId after ∧
      after.logId = source.logId ∧
      (tail.lastId < after.lastId ∨
        after.lastId = tail.lastId ∧ (tail.lastId < source.maxId →
          (∃ since, after.holeSince = some since) ∧
          ∀ since, tail.holeSince = some since →
            after.holeSince = some since ∧ now - since ≤ settings.grace)) := by
  have fetched := ready.fetched tail settings.batch
  have pending : tail.lastId < source.maxId →
      (tail.hold ((source.rowsAfter tail.lastId).take settings.batch)).pending.rows ≠ [] :=
    pending_of_behind ready following positive
  simp only [KafkaScanSource.read, ready.caughtUp, ↓reduceIte]
  have sameLast : (tail.hold ((source.rowsAfter tail.lastId).take settings.batch)).lastId =
      tail.lastId := rfl
  generalize (source.rowsAfter tail.lastId).take settings.batch = rows at *
  have moved : ((tail.hold rows).drain settings).2 = true →
      tail.lastId < ((tail.hold rows).drain settings).1.lastId := lt_drain
  obtain ⟨after, taken, outcome⟩ :=
    TailIngest.step_rows settings rows now named.symm following.upTo
  obtain ⟨follows, times⟩ := following.turn timed fetched taken
  refine ⟨after, taken, follows, times, (TailIngest.step_logId taken).trans named, ?_⟩
  have upTo : after.lastId ≤ source.maxId := follows.upTo
  rcases outcome with ⟨empty, rfl⟩ | ⟨started, lowest, least, rfl⟩ |
    ⟨idle, since, running, inTime, rfl⟩ | ⟨idle, since, running, expired, rfl⟩
  · cases progressed : ((tail.hold rows).drain settings).2 with
    | true => exact .inl (moved progressed)
    | false =>
        have unchanged := (TailIngest.drain_idle progressed).2
        refine .inr ⟨by simp only [unchanged, sameLast], fun behind => ?_⟩
        rw [unchanged] at empty
        exact absurd empty (pending behind)
  · cases progressed : ((tail.hold rows).drain settings).2 with
    | true => exact .inl (moved progressed)
    | false =>
        have unchanged := (TailIngest.drain_idle progressed).2
        refine .inr ⟨by simp only [unchanged, sameLast], fun _ => ⟨⟨now, rfl⟩, ?_⟩⟩
        intro since running
        simp [progressed, running] at started
  · refine .inr ⟨rfl, fun _ => ⟨⟨since, running⟩, ?_⟩⟩
    intro other running'
    rw [running, Option.some.injEq] at running'
    rw [← running']
    exact ⟨running, inTime⟩
  · have reached : ((List.range' (tail.lastId + 1) (tail.holeUpto - tail.lastId)).foldl
        (TailIngest.advance settings) (tail.hold rows)).lastId =
          tail.lastId + (tail.holeUpto - tail.lastId) := TailIngest.skip_lastId _
    generalize (List.range' (tail.lastId + 1) (tail.holeUpto - tail.lastId)).foldl
      (TailIngest.advance settings) (tail.hold rows) = beyond at upTo reached ⊢
    have further := le_drain settings { beyond with holeSince := none }
    by_cases behind : tail.lastId < source.maxId
    · have ahead := timed.ahead since running behind
      have moved : tail.lastId < beyond.lastId := by omega
      exact .inl (moved.trans_le further)
    · have notBefore : tail.lastId ≤ beyond.lastId := by omega
      exact .inr ⟨(upTo.trans (Nat.not_lt.mp behind)).antisymm (notBefore.trans further),
        fun inside => absurd inside behind⟩

end Turns

section Restart

variable [Sub Instant] [LE Instant] [DecidableLE Instant] {settings : PipelineSettings Instant}
  {source : KafkaScanSource} {clock : Nat → Instant} {count : Nat} {tail : TailIngest Instant}

/-- Run lemma: every turn is taken, and the tail follows the source. -/
theorem tailAfter_follows (ready : source.Ready) (positive : 0 < settings.batch)
    (clock : Nat → Instant) (count : Nat) :
    ∃ tail, tailAfter settings source clock count = some tail ∧
      Ordered settings.toTailSettings (bootstrap settings source.maxId).1
        (bootstrap settings source.maxId).2 tail ∧
      Following ready.log source.maxId (bootstrap settings source.maxId).1 tail ∧
      Timed ready.log source.maxId tail ∧ tail.logId = source.logId := by
  induction count with
  | zero =>
      exact ⟨_, rfl, Ordered.start _ (bootstrap_ahead settings _),
        .start (bootstrap_start_le settings source.maxId), .stopped rfl, rfl⟩
  | succ count ih =>
      obtain ⟨tail, reached, ordered, following, timed, named⟩ := ih
      obtain ⟨after, taken, follows, times, same, _⟩ :=
        following.takes_turn ready timed named positive (clock count)
      refine ⟨after, ?_, ordered.step taken, follows, times, same⟩
      simp only [tailAfter, reached, Option.bind_some, taken]

/-- A turn of the run moves the cursor, or the timer runs and the grace period is not over. -/
theorem tailAfter_turn (ready : source.Ready) (positive : 0 < settings.batch)
    (reached : tailAfter settings source clock count = some tail) :
    ∃ after, tailAfter settings source clock (count + 1) = some after ∧
      (tail.lastId < after.lastId ∨
        after.lastId = tail.lastId ∧ (tail.lastId < source.maxId →
          (∃ since, after.holeSince = some since) ∧
          ∀ since, tail.holeSince = some since →
            after.holeSince = some since ∧ clock count - since ≤ settings.grace)) := by
  obtain ⟨other, same, _, following, timed, named⟩ :=
    tailAfter_follows ready positive clock count
  rw [reached, Option.some.injEq] at same
  subst same
  obtain ⟨after, taken, _, _, _, outcome⟩ :=
    following.takes_turn ready timed named positive (clock count)
  refine ⟨after, ?_, outcome⟩
  simp only [tailAfter, reached, Option.bind_some, taken]

/-- A running timer goes on running until the cursor moves. -/
theorem tailAfter_waits {since : Instant} (ready : source.Ready) (positive : 0 < settings.batch)
    (reached : tailAfter settings source clock count = some tail)
    (behind : tail.lastId < source.maxId) (running : tail.holeSince = some since) (more : Nat) :
    ∃ other, tailAfter settings source clock (count + more) = some other ∧
      (tail.lastId < other.lastId ∨
        other.lastId = tail.lastId ∧ other.holeSince = some since) := by
  induction more with
  | zero => exact ⟨tail, reached, .inr ⟨rfl, running⟩⟩
  | succ more ih =>
      obtain ⟨other, reached', so⟩ := ih
      obtain ⟨after, next, outcome⟩ := tailAfter_turn ready positive reached'
      refine ⟨after, next, ?_⟩
      rcases so with ahead | ⟨same, running'⟩
      · left
        rcases outcome with moved | ⟨stayed, _⟩
        · omega
        · omega
      · rcases outcome with moved | ⟨stayed, timer⟩
        · left
          omega
        · right
          obtain ⟨_, kept⟩ := timer (by omega)
          exact ⟨by omega, (kept since running').1⟩

/-- The cursor moves on while the source has a row above it. -/
theorem tailAfter_moves (ready : source.Ready) (positive : 0 < settings.batch)
    (outlasts : Outlasts clock settings.grace)
    (reached : tailAfter settings source clock count = some tail)
    (behind : tail.lastId < source.maxId) :
    ∃ later after, tailAfter settings source clock later = some after ∧
      tail.lastId < after.lastId := by
  obtain ⟨next, reachedNext, outcome⟩ := tailAfter_turn ready positive reached
  rcases outcome with moved | ⟨stayed, timer⟩
  · exact ⟨count + 1, next, reachedNext, moved⟩
  obtain ⟨since, running⟩ := (timer behind).1
  obtain ⟨late, notBefore, elapsed⟩ := outlasts since (count + 1)
  obtain ⟨more, rfl⟩ := Nat.exists_eq_add_of_le notBefore
  obtain ⟨other, reachedLate, so⟩ :=
    tailAfter_waits ready positive reachedNext (by omega) running more
  rcases so with ahead | ⟨same, stillRunning⟩
  · exact ⟨_, other, reachedLate, by omega⟩
  · obtain ⟨last, reachedLast, outcome⟩ := tailAfter_turn ready positive reachedLate
    rcases outcome with moved | ⟨_, timer⟩
    · exact ⟨_, last, reachedLast, by omega⟩
    · obtain ⟨_, kept⟩ := timer (by omega)
      exact absurd (kept since stillRunning).2 elapsed

/-- The cursor reaches every id up to the newest row. -/
theorem tailAfter_reaches (ready : source.Ready) (positive : 0 < settings.batch)
    (outlasts : Outlasts clock settings.grace) {id : Nat} (upTo : id ≤ source.maxId) :
    ∃ count tail, tailAfter settings source clock count = some tail ∧ id ≤ tail.lastId := by
  induction id with
  | zero => exact ⟨0, _, rfl, Nat.zero_le _⟩
  | succ id ih =>
      obtain ⟨count, tail, reached, below⟩ := ih (by omega)
      by_cases already : id + 1 ≤ tail.lastId
      · exact ⟨count, tail, reached, already⟩
      · obtain ⟨later, after, reachedLater, moved⟩ :=
          tailAfter_moves ready positive outlasts reached (by omega)
        exact ⟨later, after, reachedLater, by omega⟩

/-- The first window published is the one of the source's last boundary, counted from
what the tail has emitted. -/
theorem firstWindow_counts (ready : source.Ready) (positive : 0 < settings.batch)
    (reached : tailAfter settings source clock count = some tail) {item : WindowCounts}
    (first : firstWindow settings source tail = some item) :
    0 < source.maxId - source.maxId % settings.slide ∧
      source.maxId - source.maxId % settings.slide ≤ tail.lastId ∧
      CountsOf settings (scans tail.out) (source.maxId - source.maxId % settings.slide) item := by
  obtain ⟨other, same, ordered, following, _⟩ :=
    tailAfter_follows ready positive clock count
  rw [reached, Option.some.injEq] at same
  subst same
  obtain ⟨upTo, counted⟩ := ordered.firstWindow first
  have bound : tail.lastId ≤ source.maxId := following.upTo
  have below := Nat.mod_lt source.maxId settings.slidePos
  simp only [bootstrap] at upTo counted
  split at upTo
  · rename_i someBoundary
    rw [if_pos someBoundary] at counted
    exact ⟨someBoundary, upTo, counted⟩
  · omega

end Restart

theorem scanCount_cons_self (data : ScanData) (all : List ScanData) :
    scanCount (data :: all) data.sku = scanCount all data.sku + 1 := by
  simp [scanCount]

/-- Of two lists without repetitions, one within the other, equal counts mean equal scans. -/
theorem subset_of_scanCount {few many : List ScanData} (nodup : few.Nodup) (inside : few ⊆ many)
    (same : ∀ sku, scanCount few sku = scanCount many sku) : many ⊆ few := by
  intro data member
  by_contra missing
  have more : (data :: few).Nodup := List.nodup_cons.mpr ⟨missing, nodup⟩
  have within : data :: few ⊆ many := List.cons_subset.mpr ⟨member, inside⟩
  have fewer : scanCount (data :: few) data.sku ≤ scanCount many data.sku := by
    rw [scanCount_eq_countP, scanCount_eq_countP]
    exact (List.subperm_of_subset more within).countP_le _
  rw [scanCount_cons_self, same] at fewer
  omega

section Window

variable {settings : PipelineSettings Instant} {log : Nat → Sku} {topic : List ScanData}

theorem CountsOf.unique {one other : List ScanData} {boundary : Nat} {item : WindowCounts}
    (first : CountsOf settings one boundary item) (second : CountsOf settings other boundary item)
    (sku : Sku) : scanCount (inWindow settings.window boundary one) sku =
      scanCount (inWindow settings.window boundary other) sku := by
  have same := (first.counts sku).symm.trans (second.counts sku)
  split at same
  · split at same
    · rw [Option.some.injEq] at same
      omega
    · contradiction
  · split at same
    · contradiction
    · omega

theorem mem_inWindow {all : List ScanData} {data : ScanData} {boundary : Nat} :
    data ∈ inWindow settings.window boundary all ↔
      data ∈ all ∧ boundary < data.scanId + settings.window ∧ data.scanId ≤ boundary := by
  simp [inWindow]

theorem replayed_ready (logged : Logged log topic) :
    (KafkaScanSource.replayed settings.window topic).Ready := by
  have holds := KafkaScanSource.replayed_holds logged settings.window settings.windowPos
  refine ⟨rfl, ?_, ?_⟩
  · intro id sku stored
    rw [holds.lookup] at stored
    split at stored
    · rename_i listed
      obtain ⟨data, member, rfl⟩ := List.mem_map.mp listed
      rw [holds.maxId]
      exact le_newest member
    · contradiction
  · intro positive
    rw [holds.maxId] at positive ⊢
    obtain ⟨data, member, same⟩ := newest_mem positive
    rw [holds.lookup, if_pos (List.mem_map.mpr ⟨data, member, same⟩)]
    exact ⟨_, rfl⟩

/-- The replay's rows are the scans of the records read. -/
theorem lookup_replayed (logged : Logged log topic) (data : ScanData) :
    (KafkaScanSource.replayed settings.window topic).rows.lookup data.scanId = some data.sku ↔
      data ∈ topic.drop (topic.length - 2 * settings.window) := by
  rw [(KafkaScanSource.replayed_holds logged settings.window settings.windowPos).lookup]
  constructor
  · intro stored
    split at stored
    · rename_i listed
      obtain ⟨other, member, same⟩ := List.mem_map.mp listed
      have named := (logged other (List.mem_of_mem_drop member)).2
      rw [Option.some.injEq] at stored
      have equal : other = data := by
        cases other
        cases data
        simp_all
      rw [← equal]
      exact member
    · contradiction
  · intro member
    rw [if_pos (List.mem_map_of_mem member), (logged data (List.mem_of_mem_drop member)).2]

end Window

section Clock

variable [Sub Instant] [LE Instant] [DecidableLE Instant] {settings : PipelineSettings Instant}
  {log : Nat → Sku} {topic : List ScanData} {clock : Nat → Instant} {count : Nat}
  {tail : TailIngest Instant}

/-- Once the cursor has passed the boundary, the window's scans that were emitted are
those of the records read. -/
theorem mem_emitted (logged : Logged log topic) (positive : 0 < settings.batch)
    (reached : tailAfter settings (KafkaScanSource.replayed settings.window topic) clock count =
      some tail) {boundary : Nat} (upTo : boundary ≤ tail.lastId)
    (start : (bootstrap settings (KafkaScanSource.replayed settings.window topic).maxId).1 =
      boundary - settings.window) (data : ScanData) :
    data ∈ inWindow settings.window boundary (scans tail.out) ↔
      data ∈ inWindow settings.window boundary
        (topic.drop (topic.length - 2 * settings.window)) := by
  obtain ⟨other, same, _, following, _⟩ :=
    tailAfter_follows (replayed_ready logged) positive clock count
  rw [reached, Option.some.injEq] at same
  subst same
  rw [mem_inWindow, mem_inWindow, ← lookup_replayed logged]
  constructor
  · intro inside
    exact ⟨following.sound data inside.1, inside.2⟩
  · intro inside
    obtain ⟨stored, above, below⟩ := inside
    have member := (lookup_replayed logged data).mp stored
    have named := (logged data (List.mem_of_mem_drop member)).1
    exact ⟨following.complete data stored ((replayed_ready logged).newest _ _ stored) (by omega)
      (by omega), above, below⟩

theorem nodup_emitted (ready : (KafkaScanSource.replayed settings.window topic).Ready)
    (positive : 0 < settings.batch)
    (reached : tailAfter settings (KafkaScanSource.replayed settings.window topic) clock count =
      some tail) : (scans tail.out).Nodup := by
  obtain ⟨other, same, ordered, _, _⟩ := tailAfter_follows ready positive clock count
  rw [reached, Option.some.injEq] at same
  subst same
  exact ordered.nodup_scans

theorem emitted_subset (logged : Logged log topic) (positive : 0 < settings.batch)
    (reached : tailAfter settings (KafkaScanSource.replayed settings.window topic) clock count =
      some tail) {boundary : Nat} (upTo : boundary ≤ tail.lastId)
    (start : (bootstrap settings (KafkaScanSource.replayed settings.window topic).maxId).1 =
      boundary - settings.window) :
    inWindow settings.window boundary (scans tail.out) ⊆
      inWindow settings.window boundary topic.dedup := by
  intro data inside
  rw [mem_emitted logged positive reached upTo start, mem_inWindow] at inside
  rw [mem_inWindow, List.mem_dedup]
  exact ⟨List.mem_of_mem_drop inside.1, inside.2⟩

/-- If the replay has every scan of the window, what was emitted is what is on the topic. -/
theorem emitted_perm (logged : Logged log topic) (positive : 0 < settings.batch)
    (reached : tailAfter settings (KafkaScanSource.replayed settings.window topic) clock count =
      some tail) {boundary : Nat} (upTo : boundary ≤ tail.lastId)
    (start : (bootstrap settings (KafkaScanSource.replayed settings.window topic).maxId).1 =
      boundary - settings.window)
    (whole : ∀ data ∈ topic, boundary < data.scanId + settings.window → data.scanId ≤ boundary →
      data ∈ topic.drop (topic.length - 2 * settings.window)) :
    (inWindow settings.window boundary (scans tail.out)).Perm
      (inWindow settings.window boundary topic.dedup) := by
  have nodup := nodup_emitted (replayed_ready logged) positive reached
  apply (List.perm_ext_iff_of_nodup (nodup.filter _) (topic.nodup_dedup.filter _)).mpr
  intro data
  refine ⟨fun inside => emitted_subset logged positive reached upTo start inside, ?_⟩
  intro inside
  obtain ⟨member, above, below⟩ := mem_inWindow.mp inside
  apply (mem_emitted logged positive reached upTo start data).mpr
  exact mem_inWindow.mpr ⟨whole data (List.mem_dedup.mp member) above below, above, below⟩

/-- The first window is published by the time the cursor has passed its boundary. -/
theorem firstWindow_published {source : KafkaScanSource} (ready : source.Ready)
    (positive : 0 < settings.batch)
    (reached : tailAfter settings source clock count = some tail)
    (someBoundary : 0 < source.maxId - source.maxId % settings.slide)
    (upTo : source.maxId - source.maxId % settings.slide ≤ tail.lastId) :
    ∃ item, firstWindow settings source tail = some item := by
  obtain ⟨other, same, ordered, _, _⟩ := tailAfter_follows ready positive clock count
  rw [reached, Option.some.injEq] at same
  subst same
  obtain ⟨boundaries, marked, next⟩ := ordered.marked
  have ahead := ordered.ahead
  have windows : List.Forall₂ (CountsOf settings (scans tail.out)) (marks tail.out)
      (windowCounts settings (bootstrap settings source.maxId).1 tail.out) :=
    windowCounts_counted ⟨ordered.sorted, ordered.above⟩
  have counted := windows.length_eq
  have some : boundaries ≠ 0 := by
    intro none
    subst none
    simp only [Nat.zero_mul, Nat.add_zero, bootstrap, if_pos someBoundary] at next
    omega
  rw [marked, List.length_map, List.length_range] at counted
  unfold firstWindow
  cases published : windowCounts settings (bootstrap settings source.maxId).1 tail.out with
  | nil =>
      rw [published] at counted
      exact absurd counted some
  | cons item others => exact ⟨item, rfl⟩

/-- A window that was rebuilt was in the records read: what is missing there is a hole, and
the counts lack it. -/
theorem RebuildsWindow.replays (rebuilds : RebuildsWindow settings topic clock)
    (logged : Logged log topic) (positive : 0 < settings.batch) :
    ReplaysWindow settings topic := by
  have ready : (KafkaScanSource.replayed settings.window topic).Ready := replayed_ready logged
  obtain ⟨maxId, _⟩ := replayed_maxId settings logged
  intro boundary
  obtain ⟨count, tail, item, reached, first⟩ := rebuilds.published boundary
  obtain ⟨_, counted⟩ := rebuilds.right count tail item reached first
  obtain ⟨_, upTo, emitted⟩ := firstWindow_counts ready positive reached first
  have same : (KafkaScanSource.replayed settings.window topic).maxId -
      (KafkaScanSource.replayed settings.window topic).maxId % settings.slide =
        lastBoundary settings topic := emitted.windowEnd.symm.trans counted.windowEnd
  have start : (bootstrap settings (KafkaScanSource.replayed settings.window topic).maxId).1 =
      lastBoundary settings topic - settings.window := by
    simp only [bootstrap, same]
  rw [same] at upTo emitted
  refine ⟨by omega, ?_⟩
  intro data member above below
  have all := subset_of_scanCount ((nodup_emitted ready positive reached).filter _)
    (emitted_subset logged positive reached upTo start) (emitted.unique counted)
  have listed := all (mem_inWindow.mpr ⟨List.mem_dedup.mpr member, above, below⟩)
  exact (mem_inWindow.mp ((mem_emitted logged positive reached upTo start data).mp listed)).1

/-- A window that is in the records read is rebuilt, once the holes below it are passed. -/
theorem ReplaysWindow.rebuilds (replays : ReplaysWindow settings topic)
    (logged : Logged log topic) (positive : 0 < settings.batch)
    (outlasts : Outlasts clock settings.grace) : RebuildsWindow settings topic clock := by
  have ready : (KafkaScanSource.replayed settings.window topic).Ready := replayed_ready logged
  obtain ⟨maxId, within⟩ := replayed_maxId settings logged
  have boundaryOf : 0 < lastBoundary settings topic →
      (KafkaScanSource.replayed settings.window topic).maxId -
        (KafkaScanSource.replayed settings.window topic).maxId % settings.slide =
          lastBoundary settings topic := by
    intro boundary
    have notBelow := (replays boundary).1
    rw [← maxId] at notBelow
    exact boundary_of_between notBelow within
  constructor
  · intro count tail item reached first
    obtain ⟨someBoundary, upTo, emitted⟩ := firstWindow_counts ready positive reached first
    have boundary : 0 < lastBoundary settings topic :=
      someBoundary.trans_le (boundary_mono settings.slide within)
    have same := boundaryOf boundary
    have start : (bootstrap settings (KafkaScanSource.replayed settings.window topic).maxId).1 =
        lastBoundary settings topic - settings.window := by
      simp only [bootstrap, same]
    rw [same] at upTo emitted
    have perm := emitted_perm logged positive reached upTo start (replays boundary).2
    exact ⟨boundary, emitted.of_inWindow (fun sku => (perm.map ScanData.sku).count_eq sku)⟩
  · intro boundary
    have same := boundaryOf boundary
    have upTo : (KafkaScanSource.replayed settings.window topic).maxId -
        (KafkaScanSource.replayed settings.window topic).maxId % settings.slide ≤
          (KafkaScanSource.replayed settings.window topic).maxId := Nat.sub_le _ _
    obtain ⟨count, tail, reached, below⟩ := tailAfter_reaches ready positive outlasts upTo
    rw [← same] at boundary
    obtain ⟨item, first⟩ := firstWindow_published ready positive reached boundary below
    exact ⟨count, tail, item, reached, first⟩

/-- A restarted Analytics rebuilds the true window if and only if the records it replays
still hold the window. -/
theorem rebuildsWindow_iff (settings : PipelineSettings Instant) (log : Nat → Sku)
    (topic : List ScanData) (clock : Nat → Instant) (logged : Logged log topic)
    (positive : 0 < settings.batch) (outlasts : Outlasts clock settings.grace) :
    RebuildsWindow settings topic clock ↔ ReplaysWindow settings topic :=
  ⟨fun rebuilds => rebuilds.replays logged positive,
    fun replays => replays.rebuilds logged positive outlasts⟩

end Clock

/-- The scans on the topic of a relay. -/
def publishedScans (system : Relay.System) : List ScanData :=
  system.topic.filterMap (fun record =>
    match record.2 with
    | .scanRecorded scanId _ sku => some ⟨scanId, sku⟩
    | .scanLogReset _ => none)

instance (settings : PipelineSettings Instant) (topic : List ScanData) :
    Decidable (ReplaysWindow settings topic) :=
  inferInstanceAs (Decidable (_ → _))

def twoScanWindow : PipelineSettings Nat :=
  { slide := 2, slidePos := Nat.two_pos, batch := 10, grace := 10, window := 2,
    windowPos := Nat.two_pos, depth := 2 }

theorem outlasts_id (grace : Nat) : Outlasts id grace := by
  intro since count
  refine ⟨max count (since + grace + 1), Nat.le_max_left _ _, ?_⟩
  simp only [id_eq]
  omega

/-- The relay stores the scan that is next and crashes before it saves. -/
def publishAndCrash : List Relay.Label :=
  [.readState 0, .readToken 0, .branch 0 id, .store 0, .crash 0, .start 0]

/-- Four scans; the last is published `1 + again` times. -/
def fourthAgain (again : Nat) : List Relay.Label :=
  Relay.firstPass ++ Relay.publishOne ⟨1, 1, "SKU-000001"⟩ ++
    Relay.publishOne ⟨2, 1, "SKU-000002"⟩ ++ Relay.publishOne ⟨3, 1, "SKU-000003"⟩ ++
    [.commit ⟨4, 1, "SKU-000001"⟩] ++ (List.replicate again publishAndCrash).flatten ++
    [.readState 0, .readToken 0, .branch 0 id, .store 0, .acknowledge 0, .save 0]

def fourScanLog (id : Nat) : Sku :=
  if id = 2 then "SKU-000002" else if id = 3 then "SKU-000003" else "SKU-000001"

theorem fourthAgain_runs :
    ((fourthAgain 3).foldlM (guarded (Relay.step 0) Relay.FixedLog) (Relay.initial 1)).isSome =
      true := by
  decide +kernel

theorem fourthOnce_runs :
    ((fourthAgain 1).foldlM (guarded (Relay.step 0) Relay.FixedLog) (Relay.initial 1)).isSome =
      true := by
  decide +kernel

theorem rebuildsWindow_iff_fourthOnce :
    RebuildsWindow twoScanWindow (publishedScans (((fourthAgain 1).foldlM
      (guarded (Relay.step 0) Relay.FixedLog) (Relay.initial 1)).get fourthOnce_runs)) id :=
  (rebuildsWindow_iff twoScanWindow fourScanLog _ id (by decide +kernel) (by decide)
    (outlasts_id 10)).mpr (by decide +kernel)

/-- With the fourth scan on the topic four times, the third has left the records read, and
the window that ends at 4 is published without it. -/
theorem republished_scan_hides_window :
    ¬ ∀ (settings : PipelineSettings Nat) (clock : Nat → Nat) (grace : Time) (token : Relay.Token)
      (labels : List Relay.Label) (system : Relay.System),
      settings.slide ≤ settings.window → 0 < settings.batch → Outlasts clock settings.grace →
      Run (Relay.step grace) Relay.FixedLog (Relay.initial token) labels system →
      RebuildsWindow settings (publishedScans system) clock := by
  intro rebuilds
  have rebuilt := rebuilds twoScanWindow id 0 1 (fourthAgain 3) _ (by decide) (by decide)
    (outlasts_id 10) (.of_guarded (Option.some_get fourthAgain_runs).symm)
  have logged : Logged fourScanLog (publishedScans (((fourthAgain 3).foldlM
      (guarded (Relay.step 0) Relay.FixedLog) (Relay.initial 1)).get fourthAgain_runs)) := by
    decide +kernel
  have replays := rebuilt.replays logged (by decide)
  revert replays
  decide +kernel

end SelfCheckout.Analytics
