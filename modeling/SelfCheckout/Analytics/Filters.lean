import SelfCheckout.Analytics.Tail
import SelfCheckout.Data.Tally

namespace SelfCheckout.Analytics

open SelfCheckout.Data

/-! # The filters behind the tail

Each filter keeps state across windows.  WindowFilter turns the queue into
slides, AggregationFilter keeps one running counter of the slides' SKUs, and
RankingFilter sorts and cuts it.  The ranking of every boundary is the one
counted afresh from the scans in its bounds.
-/

section Streams

variable {State In Out : Type*}

/-- Feed a filter: its final state and everything it put out. -/
def feed (receive : State → In → State × Option Out) (state : State) (items : List In) :
    State × List Out :=
  items.foldl (fun done item =>
    let next := receive done.1 item
    (next.1, done.2 ++ next.2.toList)) (state, [])

theorem feed_snoc (receive : State → In → State × Option Out) (state : State) (items : List In)
    (item : In) :
    feed receive state (items ++ [item]) =
      ((receive (feed receive state items).1 item).1,
        (feed receive state items).2 ++ (receive (feed receive state items).1 item).2.toList) := by
  simp [feed, List.foldl_append]

end Streams

structure Slide where
  windowStart : Nat
  windowEnd : Nat
  added : List Sku
  evicted : List Sku
deriving DecidableEq, Repr

structure WindowCounts where
  windowStart : Nat
  windowEnd : Nat
  counts : Table Sku Int

structure RankedData where
  windowSize : Nat
  slideInterval : Nat
  windowStart : Nat
  windowEnd : Nat
  ranking : List (Sku × Int)
deriving DecidableEq, Repr

/-- The settings of a pipeline.  A window and a slide interval are positive. -/
structure PipelineSettings (Instant : Type) extends TailSettings Instant where
  window : Nat
  windowPos : 0 < window
  depth : Nat

structure WindowFilter where
  buffer : List ScanData
  lastBoundary : Nat

/-- `scan_id <= b - window`, without the subtraction going below zero. -/
def expired (window boundary : Nat) (data : ScanData) : Bool :=
  decide (data.scanId + window ≤ boundary)

def WindowFilter.receive (window : Nat) (filter : WindowFilter) :
    Item → WindowFilter × Option Slide
  | .scan data => ({ filter with buffer := filter.buffer ++ [data] }, none)
  | .watermark boundary =>
      let added := filter.buffer.filter (fun data =>
        decide (filter.lastBoundary < data.scanId ∧ data.scanId ≤ boundary))
      let evicted := filter.buffer.takeWhile (expired window boundary)
      ({ buffer := filter.buffer.dropWhile (expired window boundary), lastBoundary := boundary },
        some
          { windowStart := boundary - window
            windowEnd := boundary
            added := added.map ScanData.sku
            evicted := evicted.map ScanData.sku })

/-- The running counter: `update`, `subtract`, and the deletion of what is not positive. -/
def AggregationFilter.receive (counts : Table Sku Int) (slide : Slide) :
    Table Sku Int × Option WindowCounts :=
  let updated := accumulate counts (slide.added.map (fun sku => (sku, 1)))
  let subtracted := accumulate updated (slide.evicted.map (fun sku => (sku, -1)))
  let counts := subtracted.keep (fun count => decide (0 < count))
  (counts, some ⟨slide.windowStart, slide.windowEnd, counts⟩)

/-- The sort key `(-count, sku)`. -/
def ranksBefore (left right : Sku × Int) : Prop :=
  right.2 < left.2 ∨ left.2 = right.2 ∧ left.1 ≤ right.1

instance (left right : Sku × Int) : Decidable (ranksBefore left right) :=
  inferInstanceAs (Decidable (_ ∨ _))

def top (depth : Nat) (entries : List (Sku × Int)) : List (Sku × Int) :=
  (entries.insertionSort ranksBefore).take depth

section Pipeline

variable {Instant : Type}

def RankingFilter.receive (settings : PipelineSettings Instant) (item : WindowCounts) :
    RankedData :=
  { windowSize := settings.window
    slideInterval := settings.slide
    windowStart := item.windowStart
    windowEnd := item.windowEnd
    ranking := top settings.depth item.counts.rows }

/-- What the three filters make of a queue, in the pipeline that starts after this id. -/
def ranked (settings : PipelineSettings Instant) (startAfter : Nat) (queue : List Item) :
    List RankedData :=
  let slides := (feed (WindowFilter.receive settings.window) ⟨[], startAfter⟩ queue).2
  let counted := (feed AggregationFilter.receive Table.empty slides).2
  counted.map (RankingFilter.receive settings)

/-- `_run_pipeline`: where the tail starts and its first boundary. -/
def bootstrap (settings : PipelineSettings Instant) (maxSeq : Nat) : Nat × Nat :=
  let b0 := maxSeq - maxSeq % settings.slide
  (b0 - settings.window, if 0 < b0 then b0 else settings.slide)

/-- The scans with an id in `(boundary - window, boundary]`. -/
def inWindow (window boundary : Nat) (all : List ScanData) : List ScanData :=
  all.filter (fun data => decide (boundary < data.scanId + window ∧ data.scanId ≤ boundary))

def scanCount (all : List ScanData) (sku : Sku) : Nat :=
  (all.map ScanData.sku).count sku

def freshCounts (all : List ScanData) : List (Sku × Int) :=
  (all.map ScanData.sku).dedup.map (fun sku => (sku, (scanCount all sku : Int)))

def fresh (settings : PipelineSettings Instant) (all : List ScanData) (boundary : Nat) :
    RankedData :=
  { windowSize := settings.window
    slideInterval := settings.slide
    windowStart := boundary - settings.window
    windowEnd := boundary
    ranking := top settings.depth (freshCounts (inWindow settings.window boundary all)) }

end Pipeline

theorem ranksBefore_total (left right : Sku × Int) :
    ranksBefore left right ∨ ranksBefore right left := by
  unfold ranksBefore
  rcases lt_trichotomy left.2 right.2 with less | same | greater
  · exact .inr (.inl less)
  · rcases le_total left.1 right.1 with before | after
    · exact .inl (.inr ⟨same, before⟩)
    · exact .inr (.inr ⟨same.symm, after⟩)
  · exact .inl (.inl greater)

theorem ranksBefore_trans {first second third : Sku × Int} (one : ranksBefore first second)
    (two : ranksBefore second third) : ranksBefore first third := by
  unfold ranksBefore at *
  rcases one with less | ⟨same, before⟩ <;> rcases two with less' | ⟨same', before'⟩
  · exact .inl (lt_trans less' less)
  · exact .inl (same' ▸ less)
  · exact .inl (same ▸ less')
  · exact .inr ⟨same.trans same', le_trans before before'⟩

theorem ranksBefore_antisymm {left right : Sku × Int} (one : ranksBefore left right)
    (two : ranksBefore right left) : left = right := by
  unfold ranksBefore at *
  rcases one with less | ⟨same, before⟩ <;> rcases two with less' | ⟨same', before'⟩
  · omega
  · omega
  · omega
  · exact Prod.ext (le_antisymm before before') same

instance : Std.Total ranksBefore := ⟨ranksBefore_total⟩

instance : IsTrans (Sku × Int) ranksBefore := ⟨fun _ _ _ => ranksBefore_trans⟩

theorem top_perm {left right : List (Sku × Int)} (depth : Nat) (same : left.Perm right) :
    top depth left = top depth right := by
  unfold top
  congr 1
  have sorted : (left.insertionSort ranksBefore).Perm (right.insertionSort ranksBefore) :=
    (left.perm_insertionSort ranksBefore).trans (same.trans (right.perm_insertionSort ranksBefore).symm)
  exact sorted.eq_of_pairwise (fun _ _ _ _ => ranksBefore_antisymm)
    (left.pairwise_insertionSort ranksBefore) (right.pairwise_insertionSort ranksBefore)

theorem mem_freshCounts {all : List ScanData} {sku : Sku} {count : Int} :
    (sku, count) ∈ freshCounts all ↔ 0 < scanCount all sku ∧ count = scanCount all sku := by
  simp only [freshCounts, List.mem_map, List.mem_dedup, Prod.mk.injEq, scanCount,
    List.count_pos_iff]
  constructor
  · intro both
    obtain ⟨other, ⟨data, member, rfl⟩, rfl, rfl⟩ := both
    exact ⟨⟨data, member, rfl⟩, rfl⟩
  · intro both
    obtain ⟨scanned, rfl⟩ := both
    exact ⟨sku, scanned, rfl, rfl⟩

theorem nodup_freshCounts (all : List ScanData) : (freshCounts all).Nodup :=
  (List.nodup_dedup _).map (fun _ _ same => (Prod.mk.inj same).1)

theorem top_counts {counts : Table Sku Int} {all : List ScanData} (depth : Nat)
    (counted : ∀ sku, counts.lookup sku =
      if 0 < scanCount all sku then some (scanCount all sku : Int) else none) :
    top depth counts.rows = top depth (freshCounts all) := by
  refine top_perm depth ((List.perm_ext_iff_of_nodup ?_ (nodup_freshCounts all)).mpr ?_)
  · exact List.Nodup.of_map Prod.fst counts.keysNodup
  · intro entry
    obtain ⟨sku, count⟩ := entry
    rw [← Table.lookup_eq_some, counted, mem_freshCounts]
    split
    · rename_i positive
      simp [positive, eq_comm]
    · rename_i zero
      simp [zero]

theorem scanCount_eq_countP (all : List ScanData) (sku : Sku) :
    scanCount all sku = all.countP (fun data => data.sku == sku) := by
  rw [scanCount, List.count, List.countP_map]
  rfl

/-- On a list where what is expired comes first, the deque gives up exactly that. -/
theorem takeWhile_expired (window boundary : Nat) {buffer : List ScanData}
    (increasing : (buffer.map ScanData.scanId).Pairwise (· < ·)) :
    buffer.takeWhile (expired window boundary) = buffer.filter (expired window boundary) ∧
      buffer.dropWhile (expired window boundary) =
        buffer.filter (fun data => ! expired window boundary data) := by
  induction buffer with
  | nil => exact ⟨rfl, rfl⟩
  | cons data buffer ih =>
      rw [List.map_cons, List.pairwise_cons] at increasing
      by_cases gone : expired window boundary data = true
      · obtain ⟨taken, dropped⟩ := ih increasing.2
        simp [gone, taken, dropped]
      · have kept : ∀ other ∈ buffer, expired window boundary other = false := by
          intro other member
          have later := increasing.1 other.scanId (List.mem_map_of_mem member)
          simp only [expired, decide_eq_true_eq, decide_eq_false_iff_not] at gone ⊢
          omega
        have none : buffer.filter (expired window boundary) = [] := by
          rw [List.filter_eq_nil_iff]
          intro other member
          simp [kept other member]
        have all : buffer.filter (fun data => ! expired window boundary data) = buffer := by
          rw [List.filter_eq_self]
          intro other member
          simp [kept other member]
        simp [gone, none, all]

/-- The scans the window filter still holds: those of the window that ended at
`boundary`, and those above it. -/
def heldScans (window boundary : Nat) (all : List ScanData) : List ScanData :=
  all.filter (fun data => decide (boundary < data.scanId + window))

/-- Sliding from one boundary to a later one: what was in the window and what is
added is what is evicted and what is in the window now. -/
theorem scanCount_slide {window last boundary : Nat} (later : last ≤ boundary)
    (all : List ScanData) (sku : Sku) (positive : 0 < window) :
    scanCount (inWindow window last all) sku +
        scanCount ((heldScans window last all).filter (fun data =>
          decide (last < data.scanId ∧ data.scanId ≤ boundary))) sku =
      scanCount ((heldScans window last all).filter (expired window boundary)) sku +
        scanCount (inWindow window boundary all) sku := by
  simp only [scanCount_eq_countP, inWindow, heldScans, List.countP_filter, expired]
  induction all with
  | nil => rfl
  | cons data all ih =>
      simp only [List.countP_cons, Bool.and_eq_true, decide_eq_true_eq, beq_iff_eq] at ih ⊢
      by_cases here : data.sku = sku
      · simp only [here, true_and]
        split_ifs <;> omega
      · simp only [here, false_and, ↓reduceIte]
        omega

theorem filter_pos_eq (count : Option Int) :
    count.filter (fun count => decide (0 < count)) =
      if 0 < count.getD 0 then some (count.getD 0) else none := by
  cases count with
  | none => rfl
  | some count =>
      by_cases positive : 0 < count
      · simp [positive]
      · simp [positive, not_lt.mp positive]

theorem lookup_receive {counts : Table Sku Int} {slide : Slide} (sku : Sku) :
    (AggregationFilter.receive counts slide).1.lookup sku =
      let count := (counts.lookup sku).getD 0 + slide.added.count sku - slide.evicted.count sku
      if 0 < count then some count else none := by
  simp only [AggregationFilter.receive, Table.lookup_keep, filter_pos_eq, getD_lookup_accumulate,
    units_map_const, nsmul_eq_mul, mul_one, mul_neg, ← sub_eq_add_neg]

section Invariant

variable {Instant : Type} {settings : PipelineSettings Instant} {startAfter : Nat}

/-- What the filters hold after a queue: the scans above the last window's start,
and the positive counts of the last window; what came out is fresh. -/
structure Counted (settings : PipelineSettings Instant) (startAfter : Nat) (queue : List Item)
    (window : WindowFilter) (counts : Table Sku Int) (out : List RankedData) : Prop where
  last : window.lastBoundary = startAfter ∨ .watermark window.lastBoundary ∈ queue
  buffer : window.buffer = heldScans settings.window window.lastBoundary (scans queue)
  counts : ∀ sku, counts.lookup sku =
    if 0 < scanCount (inWindow settings.window window.lastBoundary (scans queue)) sku then
      some (scanCount (inWindow settings.window window.lastBoundary (scans queue)) sku : Int)
    else none
  out : out = (marks queue).map (fresh settings (scans queue))

structure InOrder (startAfter : Nat) (queue : List Item) : Prop where
  sorted : (queue.map Item.key).Pairwise (· < ·)
  above : ∀ item ∈ queue, 2 * startAfter + 1 < item.key

theorem InOrder.snoc {queue : List Item} {item : Item}
    (ordered : InOrder startAfter (queue ++ [item])) :
    InOrder startAfter queue ∧ (∀ earlier ∈ queue, earlier.key < item.key) ∧
      2 * startAfter + 1 < item.key := by
  have sorted := ordered.sorted
  rw [List.map_append, List.pairwise_append] at sorted
  refine ⟨⟨sorted.1, fun earlier member => ordered.above earlier (by simp [member])⟩, ?_,
    ordered.above item (by simp)⟩
  intro earlier member
  exact sorted.2.2 _ (List.mem_map_of_mem member) _ (by simp)

theorem InOrder.increasing {queue : List Item} (ordered : InOrder startAfter queue) :
    ((scans queue).map ScanData.scanId).Pairwise (· < ·) := by
  have sorted := List.pairwise_map.mp ordered.sorted
  rw [List.pairwise_map, scans, List.pairwise_filterMap]
  apply sorted.imp
  rintro (left | boundary) (right | boundary') less
  · rintro _ ⟨⟩ _ ⟨⟩
    simp only [Item.key] at less
    omega
  · rintro _ _ _ ⟨⟩
  · intro _ same
    cases same
  · intro _ same
    cases same

theorem mem_scans {queue : List Item} {data : ScanData} : data ∈ scans queue ↔ .scan data ∈ queue := by
  rw [scans, List.mem_filterMap]
  constructor
  · intro both
    obtain ⟨item, member, found⟩ := both
    cases item <;> cases found
    exact member
  · intro member
    exact ⟨_, member, rfl⟩

theorem mem_marks {queue : List Item} {boundary : Nat} :
    boundary ∈ marks queue ↔ .watermark boundary ∈ queue := by
  rw [marks, List.mem_filterMap]
  constructor
  · intro both
    obtain ⟨item, member, found⟩ := both
    cases item <;> cases found
    exact member
  · intro member
    exact ⟨_, member, rfl⟩

theorem inWindow_append_later {all : List ScanData} {data : ScanData} {boundary : Nat}
    (later : boundary < data.scanId) :
    inWindow settings.window boundary (all ++ [data]) = inWindow settings.window boundary all := by
  have outside : inWindow settings.window boundary [data] = [] := by
    rw [inWindow, List.filter_eq_nil_iff]
    intro other member
    rw [List.mem_singleton.mp member]
    simp only [decide_eq_true_eq]
    omega
  have split : inWindow settings.window boundary (all ++ [data]) =
      inWindow settings.window boundary all ++ inWindow settings.window boundary [data] :=
    List.filter_append _ _
  rw [split, outside, List.append_nil]

theorem Counted.scan {queue : List Item} {window : WindowFilter} {counts : Table Sku Int}
    {out : List RankedData} {data : ScanData}
    (counted : Counted settings startAfter queue window counts out)
    (ordered : InOrder startAfter (queue ++ [.scan data])) :
    Counted settings startAfter (queue ++ [.scan data])
      { window with buffer := window.buffer ++ [data] } counts out := by
  obtain ⟨_, after, above⟩ := ordered.snoc
  have split : scans (queue ++ [.scan data]) = scans queue ++ [data] := scans_append _ _
  have beyond : ∀ boundary, .watermark boundary ∈ queue → boundary < data.scanId := by
    intro boundary member
    have less := after _ member
    simp only [Item.key] at less
    omega
  have recent : window.lastBoundary < data.scanId := by
    rcases counted.last with same | member
    · simp only [Item.key] at above
      omega
    · exact beyond _ member
  constructor
  · exact counted.last.imp_right (fun member => by simp [member])
  · simp only [split, heldScans, List.filter_append, counted.buffer]
    congr 1
    simp only [List.filter_cons, List.filter_nil]
    rw [if_pos (by simp only [decide_eq_true_eq]; omega)]
  · intro sku
    rw [split, inWindow_append_later recent]
    exact counted.counts sku
  · rw [counted.out, split]
    have same : marks (queue ++ [.scan data]) = marks queue := by
      simp [marks, Item.boundary?]
    rw [same]
    apply List.map_congr_left
    intro boundary member
    simp only [fresh, inWindow_append_later (beyond boundary (mem_marks.mp member))]

/-- A watermark slides the window, and the counts are those of its bounds. -/
theorem Counted.watermark {queue : List Item} {window : WindowFilter} {counts : Table Sku Int}
    {out : List RankedData} {boundary : Nat} {slide : Slide}
    (counted : Counted settings startAfter queue window counts out)
    (ordered : InOrder startAfter (queue ++ [.watermark boundary]))
    (slid : (WindowFilter.receive settings.window window (.watermark boundary)).2 = some slide) :
    Counted settings startAfter (queue ++ [.watermark boundary])
      (WindowFilter.receive settings.window window (.watermark boundary)).1
      (AggregationFilter.receive counts slide).1
      (out ++ [RankingFilter.receive settings
        ⟨slide.windowStart, slide.windowEnd, (AggregationFilter.receive counts slide).1⟩]) := by
  obtain ⟨before, after, above⟩ := ordered.snoc
  have same : scans (queue ++ [.watermark boundary]) = scans queue := by
    simp [scans, Item.scan?]
  have later : window.lastBoundary ≤ boundary := by
    rcases counted.last with here | member
    · simp only [Item.key] at above
      omega
    · have less := after _ member
      simp only [Item.key] at less
      omega
  have increasing : (window.buffer.map ScanData.scanId).Pairwise (· < ·) := by
    rw [counted.buffer]
    exact before.increasing.sublist (List.filter_sublist.map _)
  obtain ⟨taken, dropped⟩ := takeWhile_expired settings.window boundary increasing
  simp only [WindowFilter.receive, Option.some.injEq] at slid
  subst slid
  have counts : ∀ sku, (AggregationFilter.receive counts
      { windowStart := boundary - settings.window
        windowEnd := boundary
        added := (window.buffer.filter (fun data =>
          decide (window.lastBoundary < data.scanId ∧ data.scanId ≤ boundary))).map ScanData.sku
        evicted := (window.buffer.takeWhile (expired settings.window boundary)).map
          ScanData.sku }).1.lookup sku =
      if 0 < scanCount (inWindow settings.window boundary (scans queue)) sku then
        some (scanCount (inWindow settings.window boundary (scans queue)) sku : Int)
      else none := by
    intro sku
    have balance := scanCount_slide later (scans queue) sku settings.windowPos
    rw [lookup_receive, taken, counted.buffer]
    have held : ((counts.lookup sku).getD 0) =
        (scanCount (inWindow settings.window window.lastBoundary (scans queue)) sku : Int) := by
      rw [counted.counts sku]
      split
      · rfl
      · simp only [Option.getD_none]
        omega
    have total : (counts.lookup sku).getD 0 +
        (((heldScans settings.window window.lastBoundary (scans queue)).filter (fun data =>
          decide (window.lastBoundary < data.scanId ∧ data.scanId ≤ boundary))).map
            ScanData.sku |>.count sku : Int) -
        (((heldScans settings.window window.lastBoundary (scans queue)).filter
          (expired settings.window boundary)).map ScanData.sku |>.count sku : Int) =
        (scanCount (inWindow settings.window boundary (scans queue)) sku : Int) := by
      rw [held]
      simp only [scanCount] at balance ⊢
      omega
    rw [total]
    by_cases scanned : 0 < scanCount (inWindow settings.window boundary (scans queue)) sku
    · rw [if_pos (by omega), if_pos scanned]
    · rw [if_neg (by omega), if_neg scanned]
  constructor
  · exact .inr (by simp [WindowFilter.receive])
  · simp only [WindowFilter.receive]
    rw [same, dropped, counted.buffer, heldScans, heldScans, List.filter_filter]
    apply List.filter_congr
    intro data _
    simp only [expired, ← decide_not, ← Bool.decide_and, decide_eq_decide]
    omega
  · intro sku
    rw [same]
    exact counts sku
  · have marked : marks (queue ++ [.watermark boundary]) = marks queue ++ [boundary] := by
      simp [marks, Item.boundary?]
    rw [marked, same, List.map_append, ← counted.out]
    congr 1
    simp only [List.map_cons, List.map_nil, RankingFilter.receive, fresh]
    rw [top_counts settings.depth counts]

/-- Run lemma: whatever queue the tail produces, the filters have counted it. -/
theorem counted_of_inOrder (settings : PipelineSettings Instant) {queue : List Item}
    (ordered : InOrder startAfter queue) :
    Counted settings startAfter queue
      (feed (WindowFilter.receive settings.window) ⟨[], startAfter⟩ queue).1
      (feed AggregationFilter.receive Table.empty
        (feed (WindowFilter.receive settings.window) ⟨[], startAfter⟩ queue).2).1
      (ranked settings startAfter queue) := by
  induction queue using List.reverseRecOn with
  | nil =>
      constructor
      · exact .inl rfl
      · rfl
      · intro sku
        rfl
      · rfl
  | append_singleton queue item ih =>
      have counted := ih ordered.snoc.1
      cases item with
      | scan data =>
          have next := counted.scan ordered
          simpa [ranked, feed_snoc, WindowFilter.receive] using next
      | watermark boundary =>
          have next := counted.watermark ordered rfl
          simpa [ranked, feed_snoc, WindowFilter.receive, AggregationFilter.receive] using next

theorem bootstrap_ahead (settings : PipelineSettings Instant) (maxSeq : Nat) :
    (bootstrap settings maxSeq).1 < (bootstrap settings maxSeq).2 := by
  have window := settings.windowPos
  have slide := settings.slidePos
  simp only [bootstrap]
  split
  · omega
  · omega

theorem bootstrap_start_le (settings : PipelineSettings Instant) (maxSeq : Nat) :
    (bootstrap settings maxSeq).1 ≤ maxSeq := by
  simp only [bootstrap]
  omega

/-- The pipeline equals a fresh count.  From whatever highest id it bootstraps,
in every run of the tail: the boundaries up to the cursor have one watermark
each, in order; a watermark follows the scans up to its boundary and precedes
the others; and each boundary's ranking is the one counted afresh, with positive
counts only. -/
theorem pipeline_counts_afresh [Sub Instant] [LE Instant] [DecidableLE Instant]
    (settings : PipelineSettings Instant) (logId : Option String) (maxSeq : Nat)
    (passes : List (Read × Instant)) (tail : TailIngest Instant)
    (run : Run (TailIngest.step settings.toTailSettings) Any
      (TailIngest.start settings.toTailSettings logId (bootstrap settings maxSeq).1
        (some (bootstrap settings maxSeq).2))
      passes tail) :
    (∃ count, marks tail.out =
        (List.range count).map (fun index =>
          (bootstrap settings maxSeq).2 + index * settings.slide) ∧
      ∀ index, index < count ↔
        (bootstrap settings maxSeq).2 + index * settings.slide ≤ tail.lastId) ∧
    (∀ before boundary after, tail.out = before ++ .watermark boundary :: after →
      (∀ data ∈ scans before, data.scanId ≤ boundary) ∧
        ∀ data ∈ scans after, boundary < data.scanId) ∧
    ranked settings (bootstrap settings maxSeq).1 tail.out =
      (marks tail.out).map (fresh settings (scans tail.out)) ∧
    ∀ data ∈ ranked settings (bootstrap settings maxSeq).1 tail.out, ∀ entry ∈ data.ranking,
      0 < entry.2 := by
  have ahead := bootstrap_ahead settings maxSeq
  have ordered : Ordered settings.toTailSettings (bootstrap settings maxSeq).1
      (bootstrap settings maxSeq).2 tail :=
    run.invariant (Ordered.start logId ahead) (fun _ _ _ ordered _ taken => ordered.step taken)
  have inOrder : InOrder (bootstrap settings maxSeq).1 tail.out := ⟨ordered.sorted, ordered.above⟩
  have counted := counted_of_inOrder settings inOrder
  refine ⟨?_, ?_, counted.out, ?_⟩
  · obtain ⟨count, marked, next⟩ := ordered.marked
    refine ⟨count, marked, fun index => ⟨fun less => ?_, fun upTo => ?_⟩⟩
    · have member : (bootstrap settings maxSeq).2 + index * settings.slide ∈ marks tail.out := by
        rw [marked]
        exact List.mem_map.mpr ⟨index, List.mem_range.mpr less, rfl⟩
      have bound := ordered.upTo _ (mem_marks.mp member)
      simp only [Item.key] at bound
      omega
    · by_contra beyond
      have further : count * settings.slide ≤ index * settings.slide :=
        Nat.mul_le_mul_right _ (not_lt.mp beyond)
      have next := ordered.ahead
      omega
  · intro before boundary after split
    have sorted := ordered.sorted
    rw [split, List.map_append, List.map_cons, List.pairwise_append, List.pairwise_cons] at sorted
    refine ⟨?_, ?_⟩
    · intro data member
      have less := sorted.2.2 _ (List.mem_map_of_mem (mem_scans.mp member)) _ List.mem_cons_self
      simp only [Item.key] at less
      omega
    · intro data member
      have less := sorted.2.1.1 _ (List.mem_map_of_mem (mem_scans.mp member))
      simp only [Item.key] at less
      omega
  · intro data member entry ranking
    rw [counted.out] at member
    obtain ⟨boundary, _, rfl⟩ := List.mem_map.mp member
    have listed := (List.perm_insertionSort _ _).mem_iff.mp (List.mem_of_mem_take ranking)
    obtain ⟨positive, count⟩ := mem_freshCounts.mp (show (entry.1, entry.2) ∈ _ from listed)
    omega

end Invariant

def smallWindow : PipelineSettings Nat :=
  { slide := 2, slidePos := by decide, batch := 10, grace := 10, window := 3, windowPos := by decide,
    depth := 2 }

/-- Four scans of two SKUs, read at once. -/
def fourScans : List (Read × Nat) :=
  [(.rows [⟨1, "SKU-000001"⟩, ⟨2, "SKU-000002"⟩, ⟨3, "SKU-000002"⟩, ⟨4, "SKU-000001"⟩] 4 none, 0)]

theorem fourScans_runs : (fourScans.foldlM (TailIngest.step smallWindow.toTailSettings)
    (TailIngest.start smallWindow.toTailSettings none 0 (some 2))).isSome = true := by
  decide +kernel

theorem pipeline_counts_afresh_fourScans :
    ranked smallWindow 0 ((fourScans.foldlM (TailIngest.step smallWindow.toTailSettings)
        (TailIngest.start smallWindow.toTailSettings none 0 (some 2))).get fourScans_runs).out =
      [⟨3, 2, 0, 2, [("SKU-000001", 1), ("SKU-000002", 1)]⟩,
        ⟨3, 2, 1, 4, [("SKU-000002", 2), ("SKU-000001", 1)]⟩] :=
  (pipeline_counts_afresh smallWindow none 0 fourScans _
    (.of_foldlM (Option.some_get fourScans_runs).symm)).2.2.1.trans (by decide +kernel)

end SelfCheckout.Analytics
