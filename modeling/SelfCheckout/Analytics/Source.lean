import SelfCheckout.Analytics.Tail
import Mathlib.Data.List.Sort

namespace SelfCheckout.Analytics

open SelfCheckout.Data

/-! # KafkaScanSource

The buffer Analytics fills from `checkout.scans.v1` and reads the scan log from.  It
replays the last records of the topic at its start and keeps a bounded number of
scans, the oldest by arrival leaving first.
-/

/-- A record of the topic, as `_apply` tells them apart. -/
inductive ScanEvent where
  | scanRecorded (scanId : Nat) (sku : Sku)
  | scanLogReset (logId : Option String)
  | other
deriving DecidableEq, Repr

structure KafkaScanSource where
  rows : Table Nat Sku
  maxId : Nat
  caughtUp : Bool
  logId : Option String

namespace KafkaScanSource

/-- `__init__` -/
def empty : KafkaScanSource := { rows := Table.empty, maxId := 0, caughtUp := false, logId := none }

/-- `while len(rows) > keep`: the rows that came first are deleted. -/
def evict (keep : Nat) (rows : Table Nat Sku) : Table Nat Sku :=
  ⟨rows.rows.drop (rows.rows.length - keep),
    rows.keysNodup.sublist ((List.drop_sublist _ _).map Prod.fst)⟩

/-- `_apply` -/
def apply (keep : Nat) (source : KafkaScanSource) : ScanEvent → KafkaScanSource
  | .scanRecorded scanId sku =>
      match source.rows.lookup scanId with
      | some _ => source
      | none =>
          { source with
            rows := evict keep (source.rows.put scanId sku)
            maxId := max source.maxId scanId }
  | .scanLogReset logId => { source with rows := Table.empty, maxId := 0, logId }
  | .other => source

/-- The rows above `after`, in id order. -/
def rowsAfter (source : KafkaScanSource) (after : Nat) : List ScanData :=
  ((source.rows.rows.filter (fun row => decide (after < row.1))).map
    (fun row => (⟨row.1, row.2⟩ : ScanData))).insertionSort
      (fun left right => left.scanId ≤ right.scanId)

def read (source : KafkaScanSource) (after limit : Nat) : Read :=
  if source.caughtUp then .rows ((source.rowsAfter after).take limit) source.maxId source.logId
  else .upstreamUnavailable

/-- `run` over a topic that holds these scans: the last `2 * window` records are read and
then nothing more is there. -/
def replayed (window : Nat) (topic : List ScanData) : KafkaScanSource :=
  { (topic.drop (topic.length - 2 * window)).foldl
      (fun source data => source.apply (4 * window) (.scanRecorded data.scanId data.sku)) empty with
    caughtUp := true }

end KafkaScanSource

/-- The highest id among these scans. -/
def newest (topic : List ScanData) : Nat := (topic.map ScanData.scanId).foldl max 0

/-- These are scans of one log: an id has one SKU, and ids start at 1. -/
def Logged (log : Nat → Sku) (topic : List ScanData) : Prop :=
  ∀ data ∈ topic, 0 < data.scanId ∧ data.sku = log data.scanId

instance (log : Nat → Sku) (topic : List ScanData) : Decidable (Logged log topic) :=
  inferInstanceAs (Decidable (∀ data ∈ topic, _))

theorem le_newest {topic : List ScanData} {data : ScanData} (member : data ∈ topic) :
    data.scanId ≤ newest topic := by
  induction topic using List.reverseRecOn with
  | nil => contradiction
  | append_singleton topic last ih =>
      simp only [newest, List.map_append, List.map_cons, List.map_nil, List.foldl_append,
        List.foldl_cons, List.foldl_nil]
      rcases List.mem_append.mp member with old | new
      · exact (ih old).trans (Nat.le_max_left _ _)
      · rw [List.mem_singleton.mp new]
        exact Nat.le_max_right _ _

theorem newest_mem {topic : List ScanData} (positive : 0 < newest topic) :
    ∃ data ∈ topic, data.scanId = newest topic := by
  induction topic using List.reverseRecOn with
  | nil => simp [newest] at positive
  | append_singleton topic last ih =>
      have grown : newest (topic ++ [last]) = max (newest topic) last.scanId := by
        simp [newest, List.foldl_append]
      rw [grown] at positive ⊢
      rcases Nat.le_total (newest topic) last.scanId with below | above
      · exact ⟨last, by simp, by omega⟩
      · rw [Nat.max_eq_left above] at positive ⊢
        obtain ⟨data, member, same⟩ := ih positive
        exact ⟨data, List.mem_append_left _ member, same⟩

theorem newest_mono {few many : List ScanData} (inside : few ⊆ many) :
    newest few ≤ newest many := by
  rcases Nat.eq_zero_or_pos (newest few) with none | positive
  · omega
  · obtain ⟨data, member, same⟩ := newest_mem positive
    rw [← same]
    exact le_newest (inside member)

namespace KafkaScanSource

/-- While the buffer is not full, it holds what was applied. -/
structure Holds (source : KafkaScanSource) (log : Nat → Sku) (records : List ScanData) : Prop where
  few : source.rows.rows.length ≤ records.length
  lookup : ∀ id, source.rows.lookup id =
    if id ∈ records.map ScanData.scanId then some (log id) else none
  maxId : source.maxId = newest records
  logId : source.logId = none

theorem Holds.apply {source : KafkaScanSource} {log : Nat → Sku} {records : List ScanData}
    (holds : source.Holds log records) {keep : Nat} {data : ScanData}
    (room : records.length < keep) (logged : data.sku = log data.scanId) :
    (source.apply keep (.scanRecorded data.scanId data.sku)).Holds log (records ++ [data]) := by
  have grown : newest (records ++ [data]) = max (newest records) data.scanId := by
    simp [newest, List.foldl_append]
  simp only [KafkaScanSource.apply]
  have known := holds.lookup data.scanId
  cases found : source.rows.lookup data.scanId with
  | some sku =>
      rw [found] at known
      split at known
      · rename_i listed
        obtain ⟨other, member, same⟩ := List.mem_map.mp listed
        have below := le_newest member
        refine ⟨by simpa using holds.few.trans (Nat.le_succ _), ?_, ?_, holds.logId⟩
        · intro id
          rw [holds.lookup id]
          by_cases here : id = data.scanId
          · subst here
            simp [listed]
          · simp [here]
        · rw [grown, holds.maxId]
          omega
      · contradiction
  | none =>
      have few := holds.few
      have length : (source.rows.put data.scanId data.sku).rows.length ≤
          source.rows.rows.length + 1 := by
        have keys := congrArg List.length
          (Table.keys_putRows source.rows.rows data.scanId data.sku)
        simp only [List.length_map] at keys
        unfold Table.put
        simp only [keys]
        split <;> simp
      have whole : evict keep (source.rows.put data.scanId data.sku) =
          source.rows.put data.scanId data.sku := by
        unfold evict
        congr 1
        rw [Nat.sub_eq_zero_of_le (by omega)]
        exact List.drop_zero
      refine ⟨?_, ?_, ?_, holds.logId⟩
      · simp only [whole, List.length_append, List.length_singleton]
        omega
      · intro id
        simp only [whole, Table.lookup_put]
        by_cases here : id = data.scanId
        · subst here
          simp [logged]
        · rw [if_neg here, holds.lookup id]
          simp [here]
      · rw [grown, ← holds.maxId]

/-- The replay holds the scans of the last `2 * window` records. -/
theorem replayed_holds {log : Nat → Sku} {topic : List ScanData} (logged : Logged log topic)
    (window : Nat) (positive : 0 < window) :
    (replayed window topic).Holds log (topic.drop (topic.length - 2 * window)) := by
  have bound : (topic.drop (topic.length - 2 * window)).length ≤ 2 * window := by
    rw [List.length_drop]
    omega
  have same : ∀ data ∈ topic.drop (topic.length - 2 * window), data.sku = log data.scanId :=
    fun data member => (logged data (List.mem_of_mem_drop member)).2
  unfold replayed
  generalize topic.drop (topic.length - 2 * window) = records at bound same
  have held : (records.foldl (fun source data =>
      source.apply (4 * window) (.scanRecorded data.scanId data.sku)) empty).Holds log records := by
    induction records using List.reverseRecOn with
    | nil => exact ⟨Nat.le_refl _, fun id => by simp [empty], rfl, rfl⟩
    | append_singleton records data ih =>
        rw [List.length_append, List.length_singleton] at bound
        rw [List.foldl_append]
        exact (ih (by omega) (fun other member => same other (List.mem_append_left _ member))).apply
          (by omega) (same data (List.mem_append_right _ List.mem_cons_self))
  exact ⟨held.few, held.lookup, held.maxId, held.logId⟩

variable {source : KafkaScanSource} {after : Nat}

theorem mem_rowsAfter {data : ScanData} :
    data ∈ source.rowsAfter after ↔
      after < data.scanId ∧ source.rows.lookup data.scanId = some data.sku := by
  unfold rowsAfter
  rw [(List.perm_insertionSort _ _).mem_iff, List.mem_map, Table.lookup_eq_some]
  constructor
  · intro found
    obtain ⟨row, member, rfl⟩ := found
    obtain ⟨stored, above⟩ := List.mem_filter.mp member
    exact ⟨of_decide_eq_true above, stored⟩
  · intro both
    exact ⟨(data.scanId, data.sku), List.mem_filter.mpr ⟨both.2, decide_eq_true both.1⟩, rfl⟩

theorem rowsAfter_ascending (source : KafkaScanSource) (after : Nat) :
    (source.rowsAfter after).Pairwise (fun left right => left.scanId < right.scanId) := by
  have total : Std.Total (fun left right : ScanData => left.scanId ≤ right.scanId) :=
    ⟨fun left right => le_total left.scanId right.scanId⟩
  have transitive : IsTrans ScanData (fun left right => left.scanId ≤ right.scanId) :=
    ⟨fun _ _ _ first second => le_trans first second⟩
  have different : ((source.rows.rows.filter (fun row => decide (after < row.1))).map
      (fun row => (⟨row.1, row.2⟩ : ScanData))).Pairwise
        (fun left right => left.scanId ≠ right.scanId) := by
    rw [List.pairwise_map]
    exact (List.pairwise_map.mp source.rows.keysNodup).sublist List.filter_sublist
  have sorted := (List.pairwise_insertionSort
    (fun left right : ScanData => left.scanId ≤ right.scanId) _).and
    ((List.perm_insertionSort (fun left right : ScanData => left.scanId ≤ right.scanId) _).symm.pairwise
      different (fun unequal => Ne.symm unequal))
  exact sorted.imp (fun both => lt_of_le_of_ne both.1 both.2)

/-- A read returns the lowest rows above the cursor. -/
theorem read_lowest {limit : Nat} {data lower : ScanData}
    (member : data ∈ (source.rowsAfter after).take limit) (listed : lower ∈ source.rowsAfter after)
    (below : lower.scanId < data.scanId) : lower ∈ (source.rowsAfter after).take limit := by
  have ascending := rowsAfter_ascending source after
  rw [← List.take_append_drop limit (source.rowsAfter after), List.pairwise_append] at ascending
  have split : lower ∈ (source.rowsAfter after).take limit ++ (source.rowsAfter after).drop limit := by
    rw [List.take_append_drop]
    exact listed
  rcases List.mem_append.mp split with inside | beyond
  · exact inside
  · have greater := ascending.2.2 data member lower beyond
    omega

end KafkaScanSource

end SelfCheckout.Analytics
