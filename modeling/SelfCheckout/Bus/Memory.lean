import SelfCheckout.Data.Groups
import SelfCheckout.Data.Segments
import Mathlib.Logic.Function.Basic

namespace SelfCheckout.Bus

open SelfCheckout.Data

/-! # MemoryBus

One topic of the in-memory bus with the committed offsets of one group, and the
positions of a consumer of that group.
-/

abbrev Partition := Nat

structure Record where
  partition : Partition
  offset : Nat
  key : Option String
  value : String
deriving DecidableEq, Repr

/-- Where a consumer starts when its group has committed nothing. -/
inductive Start where
  | beginning
  | fromEnd
  | last (count : Nat)
deriving DecidableEq, Repr

structure MemoryBus where
  partitions : Nat
  log : Partition → List Record
  committed : Option (Partition → Nat)
  crashBeforeCommit : Nat

/-- A topic with no record, and a group that has committed nothing. -/
def MemoryBus.empty (partitions : Nat) : MemoryBus :=
  { partitions, log := fun _ => [], committed := none, crashBeforeCommit := 0 }

/-- `_append`, of one copy -/
def MemoryBus.append (bus : MemoryBus) (partition : Partition) (key : Option String)
    (value : String) : MemoryBus :=
  { bus with
    log := Function.update bus.log partition
      (bus.log partition ++ [⟨partition, (bus.log partition).length, key, value⟩]) }

def Start.position (start : Start) (size : Nat) : Nat :=
  match start with
  | .beginning => 0
  | .fromEnd => size
  | .last count => size - count

/-- The positions of a new `MemoryConsumer`. -/
def MemoryBus.consumer (bus : MemoryBus) (start : Start) : Partition → Nat :=
  match bus.committed with
  | some committed => committed
  | none => fun partition => start.position (bus.log partition).length

/-- One turn of the loop of `_take`. -/
def takeChunk (log : Partition → List Record) (maxRecords : Nat)
    (taken : List Record × (Partition → Nat)) (partition : Partition) :
    List Record × (Partition → Nat) :=
  let start := taken.2 partition
  let chunk := ((log partition).drop start).take (maxRecords - taken.1.length)
  (taken.1 ++ chunk, Function.update taken.2 partition (start + chunk.length))

/-- `_take`: the records polled and the positions after them. -/
def MemoryBus.take (bus : MemoryBus) (positions : Partition → Nat) (maxRecords : Nat) :
    List Record × (Partition → Nat) :=
  (List.range bus.partitions).foldl (takeChunk bus.log maxRecords) ([], positions)

/-- `commit`, with whether it was lost; a lost commit resumes at the last one. -/
def MemoryBus.commit (bus : MemoryBus) (positions : Partition → Nat) :
    MemoryBus × (Partition → Nat) × Bool :=
  if 0 < bus.crashBeforeCommit then
    ({ bus with crashBeforeCommit := bus.crashBeforeCommit - 1 },
      bus.committed.getD (fun _ => 0), true)
  else ({ bus with committed := some positions }, positions, false)

/-- The loop of `_take`: of each partition it has come to, the records between the old and
the new position. -/
theorem foldl_takeChunk {log : Partition → List Record} {positions : Partition → Nat}
    (placed : ∀ partition, ∀ record ∈ log partition, record.partition = partition)
    (inside : ∀ partition, positions partition ≤ (log partition).length) (maxRecords : Nat)
    {partitions : List Partition} (distinct : partitions.Nodup) :
    let taken := partitions.foldl (takeChunk log maxRecords) ([], positions)
    (∀ partition, partition ∉ partitions → taken.2 partition = positions partition) ∧
      ∀ partition, positions partition ≤ taken.2 partition ∧
        taken.2 partition ≤ (log partition).length ∧
        taken.1.filter (fun record => decide (record.partition = partition)) =
          slice (log partition) (positions partition) (taken.2 partition) := by
  induction partitions using List.reverseRecOn with
  | nil => simp [inside]
  | append_singleton partitions last ih =>
      rw [List.nodup_append] at distinct
      obtain ⟨untouched, taken⟩ := ih distinct.1
      have new : last ∉ partitions := fun member => distinct.2.2 last member last (by simp) rfl
      rw [List.foldl_append, List.foldl_cons, List.foldl_nil]
      generalize partitions.foldl (takeChunk log maxRecords) ([], positions) = before at untouched taken ⊢
      have start := untouched last new
      have chunk := take_drop_eq_slice (log last) (positions last) (maxRecords - before.1.length)
      have ofLast : ∀ record ∈ ((log last).drop (positions last)).take
          (maxRecords - before.1.length), record.partition = last :=
        fun record member => placed last record (List.mem_of_mem_drop (List.mem_of_mem_take member))
      have length : (((log last).drop (positions last)).take
          (maxRecords - before.1.length)).length ≤ (log last).length - positions last := by
        rw [List.length_take, List.length_drop]
        exact Nat.min_le_right _ _
      have room := inside last
      simp only [takeChunk, start]
      generalize ((log last).drop (positions last)).take (maxRecords - before.1.length) = records
        at chunk ofLast length ⊢
      refine ⟨?_, ?_⟩
      · intro partition absent
        rw [List.mem_append, List.mem_singleton, not_or] at absent
        rw [Function.update_of_ne absent.2]
        exact untouched partition absent.1
      · intro partition
        obtain ⟨above, within, filtered⟩ := taken partition
        rw [List.filter_append, filtered]
        by_cases here : partition = last
        · subst here
          have all : records.filter (fun record => decide (record.partition = partition)) = records := by
            rw [List.filter_eq_self]
            intro record member
            exact decide_eq_true (ofLast record member)
          rw [Function.update_self, start, slice_self, List.nil_append, all, ← chunk]
          exact ⟨by omega, by omega, rfl⟩
        · have none : records.filter (fun record => decide (record.partition = partition)) = [] := by
            rw [List.filter_eq_nil_iff]
            intro record member same
            exact here ((of_decide_eq_true same).symm.trans (ofLast record member))
          rw [Function.update_of_ne here, none, List.append_nil]
          exact ⟨above, within, rfl⟩

/-- A poll takes, of each partition, the records between the old and the new position. -/
theorem MemoryBus.take_slice {bus : MemoryBus} {positions : Partition → Nat}
    (placed : ∀ partition, ∀ record ∈ bus.log partition, record.partition = partition)
    (inside : ∀ partition, positions partition ≤ (bus.log partition).length) (maxRecords : Nat)
    (partition : Partition) :
    positions partition ≤ (bus.take positions maxRecords).2 partition ∧
      (bus.take positions maxRecords).2 partition ≤ (bus.log partition).length ∧
      (bus.take positions maxRecords).1.filter
          (fun record => decide (record.partition = partition)) =
        slice (bus.log partition) (positions partition)
          ((bus.take positions maxRecords).2 partition) :=
  (foldl_takeChunk placed inside maxRecords List.nodup_range).2 partition

end SelfCheckout.Bus
