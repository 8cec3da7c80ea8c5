import SelfCheckout.Analytics.Filters

namespace SelfCheckout.Analytics

open SelfCheckout.Data

/-! # The ranking on demand

`ScanWindow` holds the scans the tail accepted last.  The read path counts it afresh until a
window is published.
-/

/-- `RANKING_DEPTH` -/
def rankingDepth : Nat := 200

/-- `append` of a `deque` with this `maxlen`: a full one drops its oldest item. -/
def pushBounded {Value : Type*} (maxlen : Nat) (deque : List Value) (value : Value) : List Value :=
  (deque ++ [value]).drop ((deque ++ [value]).length - maxlen)

structure ScanWindow where
  windowSize : Nat
  maxlen : Nat
  scans : List ScanData
  lastScanId : Nat
deriving DecidableEq, Repr

namespace ScanWindow

/-- `__init__` -/
def init (windowSize slideInterval : Nat) : ScanWindow :=
  { windowSize, maxlen := windowSize + slideInterval, scans := [], lastScanId := 0 }

def append (window : ScanWindow) (data : ScanData) : ScanWindow :=
  { window with
    scans := pushBounded window.maxlen window.scans data
    lastScanId := if window.lastScanId < data.scanId then data.scanId else window.lastScanId }

def bounds (window : ScanWindow) : Nat × Nat :=
  (window.lastScanId - window.windowSize, window.lastScanId)

/-- The scans in the bounds, in a `Counter`, sorted and cut. -/
def counts (window : ScanWindow) (depth : Nat) : List (Sku × Int) :=
  let counted := window.scans.filter (fun data =>
    decide (window.bounds.1 < data.scanId ∧ data.scanId ≤ window.bounds.2))
  top depth (tally ((counted.map ScanData.sku).map (fun sku => (sku, (1 : Int))))).rows

def after (windowSize slideInterval : Nat) (all : List ScanData) : ScanWindow :=
  all.foldl append (init windowSize slideInterval)

end ScanWindow

/-- What `read` answers, before it attaches names: the window's bounds and its ranking. -/
def readPopular (latest : Option RankedData) (window : ScanWindow) :
    (Nat × Nat) × List (Sku × Int) :=
  match latest with
  | some data => ((data.windowStart, data.windowEnd), data.ranking)
  | none => (window.bounds, window.counts rankingDepth)

def lastId (all : List ScanData) : Nat := ((all.map ScanData.scanId).getLast?).getD 0

/-- Scans as the tail accepts them: their ids are positive and strictly increasing. -/
structure Accepted (all : List ScanData) : Prop where
  increasing : (all.map ScanData.scanId).Pairwise (· < ·)
  positive : ∀ data ∈ all, 0 < data.scanId

theorem pushBounded_drop {Value : Type*} (maxlen : Nat) (values : List Value) (value : Value) :
    pushBounded maxlen (values.drop (values.length - maxlen)) value =
      (values ++ [value]).drop ((values ++ [value]).length - maxlen) := by
  simp only [pushBounded, List.length_append, List.length_drop, List.length_cons, List.length_nil]
  rw [← List.drop_append_of_le_length (by omega), List.drop_drop]
  congr 1
  omega

variable {window slide : Nat} {all : List ScanData}

theorem lastId_snoc (all : List ScanData) (data : ScanData) :
    lastId (all ++ [data]) = data.scanId := by
  simp [lastId]

theorem Accepted.le_lastId (accepted : Accepted all) : ∀ data ∈ all, data.scanId ≤ lastId all := by
  induction all using List.reverseRecOn with
  | nil => simp
  | append_singleton all last ih =>
      have increasing := accepted.increasing
      rw [List.map_append, List.pairwise_append] at increasing
      intro data isIn
      rw [lastId_snoc]
      rcases List.mem_append.mp isIn with earlier | isLast
      · exact Nat.le_of_lt (increasing.2.2 _ (List.mem_map_of_mem earlier) _ (by simp))
      · rw [List.mem_singleton.mp isLast]

/-- The window after these appends: the last scans, and the last id. -/
theorem after_eq (window slide : Nat) (accepted : Accepted all) :
    ScanWindow.after window slide all =
      { windowSize := window, maxlen := window + slide
        scans := all.drop (all.length - (window + slide)), lastScanId := lastId all } := by
  induction all using List.reverseRecOn with
  | nil => simp [ScanWindow.after, ScanWindow.init, lastId]
  | append_singleton all data ih =>
      have increasing := accepted.increasing
      rw [List.map_append, List.pairwise_append] at increasing
      have earlier : Accepted all :=
        ⟨increasing.1, fun other isIn => accepted.positive other (by simp [isIn])⟩
      have newer : lastId all < data.scanId := by
        have positive := accepted.positive data (by simp)
        rcases List.eq_nil_or_concat all with rfl | ⟨others, last, rfl⟩
        · exact positive
        · rw [List.concat_eq_append, lastId_snoc]
          exact increasing.2.2 _ (by simp) _ (by simp)
      have before := ih earlier
      rw [ScanWindow.after] at before
      rw [ScanWindow.after, List.foldl_append, before]
      simp only [List.foldl_cons, List.foldl_nil, ScanWindow.append, if_pos newer, lastId_snoc,
        pushBounded_drop]

/-- Ids below `count` later ones are at least `count` below the last. -/
theorem Accepted.far {dropped kept : List ScanData} (accepted : Accepted (dropped ++ kept))
    {data : ScanData} (isDropped : data ∈ dropped) :
    data.scanId + kept.length ≤ lastId (dropped ++ kept) := by
  induction kept using List.reverseRecOn with
  | nil => exact accepted.le_lastId data (by simp [isDropped])
  | append_singleton kept last ih =>
      have increasing := accepted.increasing
      rw [← List.append_assoc, List.map_append, List.pairwise_append] at increasing
      have earlier : Accepted (dropped ++ kept) :=
        ⟨increasing.1, fun other isIn =>
          accepted.positive other (by rcases List.mem_append.mp isIn with l | r <;> simp [*])⟩
      have below := ih earlier
      have newer : lastId (dropped ++ kept) < last.scanId := by
        rcases List.eq_nil_or_concat (dropped ++ kept) with isEmpty | ⟨others, before, isWhole⟩
        · simp at isEmpty
          simp [isEmpty.1] at isDropped
        · rw [isWhole, List.concat_eq_append, lastId_snoc]
          exact increasing.2.2 _ (by simp [isWhole]) _ (by simp)
      rw [← List.append_assoc, lastId_snoc, List.length_append, List.length_singleton]
      omega

/-- No scan of the window is ever dropped. -/
theorem inWindow_kept (positive : 0 < window) (accepted : Accepted all) :
    inWindow window (lastId all) (all.drop (all.length - (window + slide))) =
      inWindow window (lastId all) all := by
  have whole := List.take_append_drop (all.length - (window + slide)) all
  have split : inWindow window (lastId all) all =
      inWindow window (lastId all) (all.take (all.length - (window + slide))) ++
        inWindow window (lastId all) (all.drop (all.length - (window + slide))) := by
    rw [inWindow, inWindow, inWindow, ← List.filter_append, whole]
  have gone : inWindow window (lastId all) (all.take (all.length - (window + slide))) = [] := by
    rw [inWindow, List.filter_eq_nil_iff]
    intro data isDropped
    have far := (whole.symm ▸ accepted : Accepted (_ ++ _)).far isDropped
    rw [whole, List.length_drop] at far
    have some := List.length_pos_of_mem isDropped
    rw [List.length_take] at some
    simp only [decide_eq_true_eq]
    omega
  rw [split, gone, List.nil_append]

/-- The bounds of the read path, on ids that are positive. -/
theorem filter_bounds (last : Nat) {scans : List ScanData} (positive : ∀ data ∈ scans, 0 < data.scanId) :
    scans.filter (fun data => decide (last - window < data.scanId ∧ data.scanId ≤ last)) =
      inWindow window last scans := by
  rw [inWindow]
  apply List.filter_congr
  intro data isIn
  have := positive data isIn
  rw [decide_eq_decide]
  omega

/-- The `Counter` of a list of scans. -/
theorem lookup_counter (scans : List ScanData) (sku : Sku) :
    (tally ((scans.map ScanData.sku).map (fun sku => (sku, (1 : Int))))).lookup sku =
      if 0 < scanCount scans sku then some (scanCount scans sku : Int) else none := by
  have keys : ((scans.map ScanData.sku).map (fun sku => (sku, (1 : Int)))).map Prod.fst =
      scans.map ScanData.sku := by simp [Function.comp_def]
  rw [lookup_tally, keys, units_map_const, scanCount]
  simp only [List.count_pos_iff, nsmul_eq_mul, mul_one]

theorem counts_after (slide : Nat) (positive : 0 < window) (accepted : Accepted all) (depth : Nat) :
    (ScanWindow.after window slide all).counts depth =
      top depth (freshCounts (inWindow window (lastId all) all)) := by
  have kept : ∀ data ∈ all.drop (all.length - (window + slide)), 0 < data.scanId :=
    fun data isIn => accepted.positive data (List.mem_of_mem_drop isIn)
  simp only [after_eq window slide accepted, ScanWindow.counts, ScanWindow.bounds]
  rw [filter_bounds _ kept, inWindow_kept positive accepted]
  exact top_counts depth (lookup_counter _)

theorem bounds_after (slide : Nat) (accepted : Accepted all) :
    (ScanWindow.after window slide all).bounds = (lastId all - window, lastId all) := by
  rw [after_eq window slide accepted, ScanWindow.bounds]

section Agreement

variable {Instant : Type} [Sub Instant] [LE Instant] [DecidableLE Instant]

/-- A pipeline fed with these scans, by a tail that has passed the last id as a boundary. -/
structure FedWith (settings : PipelineSettings Instant) (all : List ScanData) (maxSeq : Nat)
    (tail : TailIngest Instant) : Prop where
  run : ∃ logId passes, Run (TailIngest.step settings.toTailSettings) Any
    (TailIngest.start settings.toTailSettings logId (bootstrap settings maxSeq).1
      (some (bootstrap settings maxSeq).2)) passes tail
  depth : settings.depth = rankingDepth
  sameScans : scans tail.out = all
  reached : Item.watermark (lastId all) ∈ tail.out

/-- The ranking on demand is the one counted over every scan appended with an id in the last
window.  Where the last id is a boundary a pipeline fed with the same scans has reached, the
bounds and the ranking are those the pipeline ranks for that boundary, and `read` answers the
same from either. -/
theorem onDemand_agrees (slide : Nat) (positive : 0 < window) (accepted : Accepted all) :
    (∀ depth, (ScanWindow.after window slide all).counts depth =
      top depth (freshCounts (inWindow window (lastId all) all))) ∧
    ∀ (settings : PipelineSettings Instant) (maxSeq : Nat) (tail : TailIngest Instant),
      settings.window = window → FedWith settings all maxSeq tail →
      (∃ data ∈ ranked settings (bootstrap settings maxSeq).1 tail.out,
        data.windowEnd = lastId all) ∧
      ∀ data ∈ ranked settings (bootstrap settings maxSeq).1 tail.out,
        data.windowEnd = lastId all →
        (data.windowStart, data.windowEnd) = (ScanWindow.after window slide all).bounds ∧
        data.ranking = (ScanWindow.after window slide all).counts rankingDepth ∧
        readPopular (some data) (ScanWindow.after window slide all) =
          readPopular none (ScanWindow.after window slide all) := by
  refine ⟨counts_after slide positive accepted, ?_⟩
  rintro settings maxSeq tail rfl fed
  obtain ⟨logId, passes, run⟩ := fed.run
  have ordered : Ordered settings.toTailSettings (bootstrap settings maxSeq).1
      (bootstrap settings maxSeq).2 tail :=
    run.invariant (Ordered.start logId (bootstrap_ahead settings maxSeq))
      (fun _ _ _ ordered _ taken => ordered.step taken)
  have counted : ranked settings (bootstrap settings maxSeq).1 tail.out =
      (marks tail.out).map (fresh settings all) := by
    rw [← fed.sameScans]
    exact (counted_of_inOrder settings ⟨ordered.sorted, ordered.above⟩).out
  rw [counted]
  refine ⟨⟨_, List.mem_map_of_mem (mem_marks.mpr fed.reached), rfl⟩, fun data isIn atEnd => ?_⟩
  obtain ⟨boundary, -, rfl⟩ := List.mem_map.mp isIn
  have sameBoundary : boundary = lastId all := atEnd
  subst sameBoundary
  have sameBounds : ((fresh settings all (lastId all)).windowStart,
      (fresh settings all (lastId all)).windowEnd) =
        (ScanWindow.after settings.window slide all).bounds := by
    rw [bounds_after slide accepted]
    rfl
  have sameRanking : (fresh settings all (lastId all)).ranking =
      (ScanWindow.after settings.window slide all).counts rankingDepth := by
    rw [counts_after slide positive accepted, ← fed.depth]
    rfl
  refine ⟨sameBounds, sameRanking, ?_⟩
  simp only [readPopular]
  rw [sameBounds, sameRanking]

end Agreement

def deepWindow : PipelineSettings Nat := { smallWindow with depth := rankingDepth }

def fourAccepted : List ScanData :=
  [⟨1, "SKU-000001"⟩, ⟨2, "SKU-000002"⟩, ⟨3, "SKU-000002"⟩, ⟨4, "SKU-000001"⟩]

theorem deepWindow_runs : (fourScans.foldlM (TailIngest.step deepWindow.toTailSettings)
    (TailIngest.start deepWindow.toTailSettings none (bootstrap deepWindow 0).1
      (some (bootstrap deepWindow 0).2))).isSome = true := by
  decide +kernel

/-- Four scans, the fourth on a boundary: what is ranked for it is what the window counts. -/
theorem onDemand_agrees_fourAccepted :
    (ScanWindow.after 3 2 fourAccepted).counts 200 = [("SKU-000002", 2), ("SKU-000001", 1)] ∧
      ∃ data ∈ ranked deepWindow (bootstrap deepWindow 0).1
        (Option.get _ deepWindow_runs).out, data.windowEnd = 4 := by
  have accepted : Accepted fourAccepted := ⟨by decide, by decide⟩
  have fed : FedWith deepWindow fourAccepted 0 (Option.get _ deepWindow_runs) :=
    { run := ⟨none, fourScans, .of_foldlM (Option.some_get deepWindow_runs).symm⟩
      depth := rfl
      sameScans := by decide +kernel
      reached := by decide +kernel }
  have agrees := @onDemand_agrees 3 fourAccepted Nat _ _ _ 2 (by decide) accepted
  exact ⟨(agrees.1 200).trans (by decide +kernel), (agrees.2 deepWindow 0 _ rfl fed).1⟩

end SelfCheckout.Analytics
