import SelfCheckout.Data.Table
import Mathlib.Algebra.BigOperators.Group.List.Lemmas
import Mathlib.Data.List.Sort

namespace SelfCheckout.Data

/-! # Amounts by key

`units lines key` is the total a list of keyed amounts gives to one key.
`accumulate` is the loop that adds the list to a table of running totals, and
`merge` sorts the table of a list from scratch: the canonical list with each key
once, in ascending order.
-/

universe u v

variable {Key : Type u} {Amount : Type v} [DecidableEq Key] [AddCommMonoid Amount]

/-- The total amount listed for `key`. -/
def units (lines : List (Key × Amount)) (key : Key) : Amount :=
  (lines.map (fun line => if line.1 = key then line.2 else 0)).sum

@[simp] theorem units_nil (key : Key) : units ([] : List (Key × Amount)) key = 0 := rfl

@[simp] theorem units_cons (line : Key × Amount) (lines : List (Key × Amount)) (key : Key) :
    units (line :: lines) key = (if line.1 = key then line.2 else 0) + units lines key := by
  simp [units]

theorem units_perm {left right : List (Key × Amount)} (same : left.Perm right) (key : Key) :
    units left key = units right key :=
  (same.map _).sum_eq

theorem units_of_not_mem {lines : List (Key × Amount)} {key : Key}
    (absent : key ∉ lines.map Prod.fst) : units lines key = 0 := by
  induction lines with
  | nil => rfl
  | cons line lines ih =>
      simp only [List.map_cons, List.mem_cons, not_or] at absent
      simp [Ne.symm absent.1, ih absent.2]

theorem units_map_const (keys : List Key) (amount : Amount) (key : Key) :
    units (keys.map (fun key => (key, amount))) key = keys.count key • amount := by
  induction keys with
  | nil => simp
  | cons first keys ih =>
      by_cases here : first = key
      · subst here
        rw [List.map_cons, units_cons, if_pos rfl, ih, List.count_cons_self, succ_nsmul, add_comm]
      · simp [here, ih]

theorem units_of_mem {lines : List (Key × Amount)} {key : Key} {amount : Amount}
    (nodup : (lines.map Prod.fst).Nodup) (member : (key, amount) ∈ lines) :
    units lines key = amount := by
  induction lines with
  | nil => simp at member
  | cons line lines ih =>
      rw [List.map_cons, List.nodup_cons] at nodup
      rcases List.mem_cons.mp member with rfl | member
      · simp [units_of_not_mem nodup.1]
      · have different : line.1 ≠ key := by
          intro same
          subst same
          exact nodup.1 (List.mem_map.mpr ⟨_, member, rfl⟩)
        simp [different, ih nodup.2 member]

theorem units_eq_lookupRows {lines : List (Key × Amount)} (nodup : (lines.map Prod.fst).Nodup)
    (key : Key) : units lines key = (Table.lookupRows lines key).getD 0 := by
  cases found : Table.lookupRows lines key with
  | none => exact units_of_not_mem (Table.lookupRows_eq_none.mp found)
  | some amount => exact units_of_mem nodup (Table.mem_of_lookupRows found)

/-- Add each listed amount to the running total of its key. -/
def accumulate (totals : Table Key Amount) (lines : List (Key × Amount)) : Table Key Amount :=
  lines.foldl (fun totals line => totals.put line.1 ((totals.lookup line.1).getD 0 + line.2)) totals

theorem lookup_accumulate (totals : Table Key Amount) (lines : List (Key × Amount)) (key : Key) :
    (accumulate totals lines).lookup key =
      if key ∈ lines.map Prod.fst then some ((totals.lookup key).getD 0 + units lines key)
      else totals.lookup key := by
  induction lines generalizing totals with
  | nil => simp [accumulate]
  | cons line lines ih =>
      have unfolded : accumulate totals (line :: lines) =
          accumulate (totals.put line.1 ((totals.lookup line.1).getD 0 + line.2)) lines := rfl
      rw [unfolded, ih]
      by_cases here : line.1 = key
      · subst here
        by_cases again : line.1 ∈ lines.map Prod.fst
        · simp [again, add_assoc]
        · simp [again, units_of_not_mem again]
      · by_cases again : key ∈ lines.map Prod.fst
        · simp [again, here, Ne.symm here]
        · simp [again, Ne.symm here]

theorem getD_lookup_accumulate (totals : Table Key Amount) (lines : List (Key × Amount))
    (key : Key) :
    ((accumulate totals lines).lookup key).getD 0 =
      (totals.lookup key).getD 0 + units lines key := by
  rw [lookup_accumulate]
  split
  · rfl
  · rename_i absent
    rw [units_of_not_mem absent, add_zero]

def tally (lines : List (Key × Amount)) : Table Key Amount :=
  accumulate Table.empty lines

theorem lookup_tally (lines : List (Key × Amount)) (key : Key) :
    (tally lines).lookup key =
      if key ∈ lines.map Prod.fst then some (units lines key) else none := by
  simp [tally, lookup_accumulate]

section Project

variable {Other : Type*} [DecidableEq Other] (project : Key → Other)

/-- Amounts listed by a coarser key. -/
def projected (lines : List (Key × Amount)) : List (Other × Amount) :=
  lines.map (fun line => (project line.1, line.2))

private theorem units_projected_putRows (rows : List (Key × Amount)) (key : Key) (amount : Amount)
    (other : Other) :
    units (projected project
        (Table.putRows rows key ((Table.lookupRows rows key).getD 0 + amount))) other =
      units (projected project rows) other + if project key = other then amount else 0 := by
  induction rows with
  | nil => simp [projected, Table.putRows, Table.lookupRows]
  | cons row rows ih =>
      by_cases same : row.1 = key
      · subst same
        by_cases here : project row.1 = other
        · simp only [projected, Table.putRows, Table.lookupRows, ↓reduceIte, Option.getD_some,
            List.map_cons, units_cons, here]
          abel
        · simp [projected, Table.putRows, here]
      · simp only [projected] at ih
        simp only [projected, Table.putRows, Table.lookupRows, same, ↓reduceIte, List.map_cons,
          units_cons, ih, add_assoc]

/-- Accumulating by the finer key keeps the totals of the coarser one. -/
theorem units_projected_accumulate (totals : Table Key Amount) (lines : List (Key × Amount))
    (other : Other) :
    units (projected project (accumulate totals lines).rows) other =
      units (projected project totals.rows) other + units (projected project lines) other := by
  induction lines generalizing totals with
  | nil => simp [accumulate, projected]
  | cons line lines ih =>
      have unfolded : accumulate totals (line :: lines) =
          accumulate (totals.put line.1 ((totals.lookup line.1).getD 0 + line.2)) lines := rfl
      have put := units_projected_putRows project totals.rows line.1 line.2 other
      rw [unfolded, ih]
      simp only [projected, List.map_cons, units_cons] at put ⊢
      rw [← add_assoc]
      exact congrArg (· + _) put

end Project

section Measure

variable {Total : Type*} [AddCommMonoid Total] (measure : Key → Amount →+ Total)

private theorem sum_measure_putRows (rows : List (Key × Amount)) (key : Key) (amount : Amount) :
    ((Table.putRows rows key ((Table.lookupRows rows key).getD 0 + amount)).map
      (fun row => measure row.1 row.2)).sum =
      (rows.map (fun row => measure row.1 row.2)).sum + measure key amount := by
  induction rows with
  | nil => simp [Table.putRows, Table.lookupRows]
  | cons row rows ih =>
      by_cases same : row.1 = key
      · subst same
        simp only [Table.putRows, Table.lookupRows, ↓reduceIte, Option.getD_some, List.map_cons,
          List.sum_cons, map_add]
        abel
      · simp only [Table.putRows, Table.lookupRows, same, ↓reduceIte, List.map_cons, List.sum_cons,
          ih, add_assoc]

/-- Accumulating keeps every additive measure of the lines. -/
theorem sum_measure_accumulate (totals : Table Key Amount) (lines : List (Key × Amount)) :
    ((accumulate totals lines).rows.map (fun row => measure row.1 row.2)).sum =
      (totals.rows.map (fun row => measure row.1 row.2)).sum +
        (lines.map (fun line => measure line.1 line.2)).sum := by
  induction lines generalizing totals with
  | nil => simp [accumulate]
  | cons line lines ih =>
      have unfolded : accumulate totals (line :: lines) =
          accumulate (totals.put line.1 ((totals.lookup line.1).getD 0 + line.2)) lines := rfl
      have put := sum_measure_putRows measure totals.rows line.1 line.2
      rw [unfolded, ih, List.map_cons, List.sum_cons, ← add_assoc]
      exact congrArg (· + _) put

end Measure

section Merge

variable {Key : Type u} [LinearOrder Key]

/-- Each key once with its total, in ascending order. -/
def merge (lines : List (Key × Amount)) : List (Key × Amount) :=
  (tally lines).rows.insertionSort (fun left right => left.1 ≤ right.1)

theorem merge_perm (lines : List (Key × Amount)) : (merge lines).Perm (tally lines).rows :=
  List.perm_insertionSort _ _

theorem nodup_merge_keys (lines : List (Key × Amount)) : ((merge lines).map Prod.fst).Nodup :=
  ((merge_perm lines).map Prod.fst).nodup_iff.mpr (tally lines).keysNodup

theorem mem_merge {lines : List (Key × Amount)} {key : Key} {amount : Amount} :
    (key, amount) ∈ merge lines ↔ key ∈ lines.map Prod.fst ∧ amount = units lines key := by
  rw [(merge_perm lines).mem_iff, ← Table.lookup_eq_some, lookup_tally]
  split
  · rename_i listed
    simp [listed, eq_comm]
  · rename_i absent
    simp [absent]

theorem mem_merge_keys {lines : List (Key × Amount)} {key : Key} :
    key ∈ (merge lines).map Prod.fst ↔ key ∈ lines.map Prod.fst := by
  constructor
  · intro member
    obtain ⟨line, listed, rfl⟩ := List.mem_map.mp member
    exact (mem_merge.mp listed).1
  · intro member
    exact List.mem_map.mpr ⟨_, mem_merge.mpr ⟨member, rfl⟩, rfl⟩

@[simp] theorem units_merge (lines : List (Key × Amount)) (key : Key) :
    units (merge lines) key = units lines key := by
  by_cases listed : key ∈ lines.map Prod.fst
  · exact units_of_mem (nodup_merge_keys lines) (mem_merge.mpr ⟨listed, rfl⟩)
  · rw [units_of_not_mem listed, units_of_not_mem (mt mem_merge_keys.mp listed)]

theorem sum_measure_merge {Total : Type*} [AddCommMonoid Total] (measure : Key → Amount →+ Total)
    (lines : List (Key × Amount)) :
    ((merge lines).map (fun line => measure line.1 line.2)).sum =
      (lines.map (fun line => measure line.1 line.2)).sum := by
  rw [((merge_perm lines).map _).sum_eq, tally, sum_measure_accumulate]
  simp [Table.empty]

private theorem pairwise_le_merge (lines : List (Key × Amount)) :
    (merge lines).Pairwise (fun left right => left.1 ≤ right.1) := by
  have total : Std.Total (fun left right : Key × Amount => left.1 ≤ right.1) :=
    ⟨fun left right => le_total left.1 right.1⟩
  have transitive : IsTrans (Key × Amount) (fun left right => left.1 ≤ right.1) :=
    ⟨fun _ _ _ first second => le_trans first second⟩
  exact List.pairwise_insertionSort _ _

theorem merge_sorted (lines : List (Key × Amount)) :
    ((merge lines).map Prod.fst).Pairwise (· < ·) := by
  have distinct : ((merge lines).map Prod.fst).Pairwise (· ≠ ·) := nodup_merge_keys lines
  have ordered : ((merge lines).map Prod.fst).Pairwise (· ≤ ·) :=
    List.pairwise_map.mpr (pairwise_le_merge lines)
  exact (ordered.and distinct).imp (fun both => lt_of_le_of_ne both.1 both.2)

omit [AddCommMonoid Amount] in
/-- A strictly sorted list is determined by its lines. -/
theorem eq_of_sorted_of_mem_iff {left right : List (Key × Amount)}
    (leftSorted : (left.map Prod.fst).Pairwise (· < ·))
    (rightSorted : (right.map Prod.fst).Pairwise (· < ·))
    (same : ∀ line, line ∈ left ↔ line ∈ right) : left = right := by
  have leftKeys := List.pairwise_map.mp leftSorted
  have rightKeys := List.pairwise_map.mp rightSorted
  have leftNodup : left.Nodup := leftKeys.imp (fun less equal => by simp [equal] at less)
  have rightNodup : right.Nodup := rightKeys.imp (fun less equal => by simp [equal] at less)
  refine ((List.perm_ext_iff_of_nodup leftNodup rightNodup).mpr same).eq_of_pairwise ?_
    leftKeys rightKeys
  intro a b _ _ less greater
  exact absurd (lt_trans less greater) (lt_irrefl _)

theorem merge_eq_self {lines : List (Key × Amount)}
    (sorted : (lines.map Prod.fst).Pairwise (· < ·)) : merge lines = lines := by
  apply eq_of_sorted_of_mem_iff (merge_sorted lines) sorted
  have nodup : (lines.map Prod.fst).Nodup := sorted.imp (fun less => ne_of_lt less)
  intro entry
  obtain ⟨key, amount⟩ := entry
  rw [mem_merge]
  constructor
  · intro both
    obtain ⟨listed, rfl⟩ := both
    obtain ⟨⟨_, amount⟩, member, rfl⟩ := List.mem_map.mp listed
    rwa [units_of_mem nodup member]
  · intro member
    exact ⟨List.mem_map.mpr ⟨_, member, rfl⟩, (units_of_mem nodup member).symm⟩

theorem merge_congr {left right : List (Key × Amount)}
    (keys : ∀ key, key ∈ left.map Prod.fst ↔ key ∈ right.map Prod.fst)
    (same : ∀ key, units left key = units right key) : merge left = merge right := by
  apply eq_of_sorted_of_mem_iff (merge_sorted left) (merge_sorted right)
  intro entry
  obtain ⟨key, amount⟩ := entry
  rw [mem_merge, mem_merge, keys, same]

/-- Merging by a finer key first changes nothing. -/
theorem merge_projected_merge {Other : Type*} [LinearOrder Other] (project : Key → Other)
    (lines : List (Key × Amount)) :
    merge (projected project (merge lines)) = merge (projected project lines) := by
  refine merge_congr (fun other => ?_) (fun other => ?_)
  · simp only [projected, List.map_map]
    constructor
    · intro member
      obtain ⟨⟨key, amount⟩, listed, rfl⟩ := List.mem_map.mp member
      obtain ⟨line, original, rfl⟩ := List.mem_map.mp (mem_merge.mp listed).1
      exact List.mem_map.mpr ⟨line, original, rfl⟩
    · intro member
      obtain ⟨line, listed, rfl⟩ := List.mem_map.mp member
      exact List.mem_map.mpr ⟨(line.1, units lines line.1),
        mem_merge.mpr ⟨List.mem_map.mpr ⟨line, listed, rfl⟩, rfl⟩, rfl⟩
  · have permuted := (merge_perm lines).map (fun line => (project line.1, line.2))
    have totals := units_projected_accumulate project Table.empty lines other
    simp only [projected, Table.empty, List.map_nil, units_nil, zero_add] at totals ⊢
    rw [units_perm permuted other]
    exact totals

@[simp] theorem merge_merge (lines : List (Key × Amount)) : merge (merge lines) = merge lines :=
  merge_eq_self (merge_sorted lines)

end Merge

end SelfCheckout.Data
