import Mathlib.Algebra.BigOperators.Group.List.Basic
import Mathlib.Data.List.Nodup
import Mathlib.Tactic.Abel

namespace SelfCheckout.Data

/-! # Keyed tables

A table is a finite list of rows with a primary key.  The key constraint is a
field, so a table with two rows of one key cannot be built.  `put` is the only
writer that can add a row: it replaces the row of its key or appends one, which
is what an upsert does.
-/

universe u v w

/-- Rows keyed by `Key`, at most one row a key. -/
structure Table (Key : Type u) (Value : Type v) where
  rows : List (Key × Value)
  keysNodup : (rows.map Prod.fst).Nodup

namespace Table

variable {Key : Type u} {Value : Type v}

def empty : Table Key Value := ⟨[], List.nodup_nil⟩

instance : Inhabited (Table Key Value) := ⟨empty⟩

section Rows

variable [DecidableEq Key]

/-- The value of the first row with this key. -/
def lookupRows : List (Key × Value) → Key → Option Value
  | [], _ => none
  | row :: rows, key => if row.1 = key then some row.2 else lookupRows rows key

/-- Replace the row of `key`, or append one. -/
def putRows : List (Key × Value) → Key → Value → List (Key × Value)
  | [], key, value => [(key, value)]
  | row :: rows, key, value =>
      if row.1 = key then (key, value) :: rows else row :: putRows rows key value

theorem lookupRows_eq_none {rows : List (Key × Value)} {key : Key} :
    lookupRows rows key = none ↔ key ∉ rows.map Prod.fst := by
  induction rows with
  | nil => simp [lookupRows]
  | cons row rows ih =>
      by_cases same : row.1 = key
      · simp [lookupRows, same]
      · simp [lookupRows, same, ih, Ne.symm same]

theorem mem_of_lookupRows {rows : List (Key × Value)} {key : Key} {value : Value}
    (found : lookupRows rows key = some value) : (key, value) ∈ rows := by
  induction rows with
  | nil => simp [lookupRows] at found
  | cons row rows ih =>
      by_cases same : row.1 = key
      · simp only [lookupRows, same, ↓reduceIte, Option.some.injEq] at found
        subst same
        subst found
        exact List.mem_cons_self
      · simp only [lookupRows, same, ↓reduceIte] at found
        exact List.mem_cons_of_mem _ (ih found)

theorem lookupRows_of_mem {rows : List (Key × Value)} {key : Key} {value : Value}
    (nodup : (rows.map Prod.fst).Nodup) (member : (key, value) ∈ rows) :
    lookupRows rows key = some value := by
  induction rows with
  | nil => simp at member
  | cons row rows ih =>
      rw [List.map_cons, List.nodup_cons] at nodup
      rcases List.mem_cons.mp member with rfl | member
      · simp [lookupRows]
      · have different : row.1 ≠ key := by
          intro same
          subst same
          exact nodup.1 (List.mem_map.mpr ⟨_, member, rfl⟩)
        simp only [lookupRows, different, ↓reduceIte]
        exact ih nodup.2 member

theorem keys_putRows (rows : List (Key × Value)) (key : Key) (value : Value) :
    (putRows rows key value).map Prod.fst =
      if key ∈ rows.map Prod.fst then rows.map Prod.fst else rows.map Prod.fst ++ [key] := by
  induction rows with
  | nil => simp [putRows]
  | cons row rows ih =>
      by_cases same : row.1 = key
      · simp [putRows, same]
      · simp only [putRows, same, ↓reduceIte, List.map_cons, ih, List.mem_cons, Ne.symm same,
          false_or]
        split <;> simp

theorem nodup_putRows {rows : List (Key × Value)} (nodup : (rows.map Prod.fst).Nodup)
    (key : Key) (value : Value) : ((putRows rows key value).map Prod.fst).Nodup := by
  rw [keys_putRows]
  split
  · exact nodup
  · rename_i fresh
    rw [List.nodup_append]
    refine ⟨nodup, List.nodup_singleton _, ?_⟩
    intro other member last single
    rw [List.mem_singleton.mp single]
    intro same
    subst same
    exact fresh member

theorem lookupRows_putRows (rows : List (Key × Value)) (key other : Key) (value : Value) :
    lookupRows (putRows rows key value) other =
      if other = key then some value else lookupRows rows other := by
  induction rows with
  | nil =>
      by_cases same : other = key
      · simp [putRows, lookupRows, same]
      · simp [putRows, lookupRows, same, Ne.symm same]
  | cons row rows ih =>
      by_cases here : row.1 = key
      · by_cases same : other = key
        · simp [putRows, lookupRows, here, same]
        · simp [putRows, lookupRows, here, same, Ne.symm same]
      · by_cases same : other = key
        · subst same
          simp [putRows, lookupRows, here, ih]
        · simp [putRows, lookupRows, here, ih, same]

/-- Joining a keyed list with a source that answers by key: a key's row combines
its first line with the source's answer. -/
theorem lookupRows_join {Source : Type w} {Other : Type*} (lines : List (Key × Value))
    (source : Key → Option Source) (combine : Source → Value → Other) (key : Key) :
    lookupRows (lines.filterMap (fun line =>
        (source line.1).map (fun value => (line.1, combine value line.2)))) key =
      (lookupRows lines key).bind (fun amount =>
        (source key).map (fun value => combine value amount)) := by
  induction lines with
  | nil => rfl
  | cons line lines ih =>
      by_cases here : line.1 = key
      · subst here
        cases answer : source line.1 with
        | some value => simp [lookupRows, answer]
        | none =>
            simp only [List.filterMap_cons, answer, Option.map_none, lookupRows, ↓reduceIte,
              Option.bind_some, ih]
            cases lookupRows lines line.1 <;> rfl
      · cases answer : source line.1 with
        | some value => simp [lookupRows, answer, here, ih]
        | none => simp [lookupRows, answer, here, ih]

omit [DecidableEq Key] in
theorem keys_join_sublist {Source : Type w} {Other : Type*} (lines : List (Key × Value))
    (source : Key → Option Source) (combine : Source → Value → Other) :
    ((lines.filterMap (fun line => (source line.1).map
      (fun value => (line.1, combine value line.2)))).map Prod.fst).Sublist (lines.map Prod.fst) := by
  induction lines with
  | nil => exact List.Sublist.refl _
  | cons line lines ih =>
      cases answer : source line.1 with
      | some value => simpa [answer] using ih.cons_cons line.1
      | none => simpa [answer] using ih.cons line.1

/-- A key has at most one row. -/
theorem filter_key {rows : List (Key × Value)} (nodup : (rows.map Prod.fst).Nodup) (key : Key) :
    rows.filter (fun row => decide (row.1 = key)) =
      ((lookupRows rows key).map (fun value => (key, value))).toList := by
  induction rows with
  | nil => rfl
  | cons row rows ih =>
      obtain ⟨fresh, nodup⟩ := List.nodup_cons.mp nodup
      by_cases here : row.1 = key
      · subst here
        have absent : rows.filter (fun other => decide (other.1 = row.1)) = [] := by
          refine List.filter_eq_nil_iff.mpr fun other member => ?_
          rw [decide_eq_true_eq]
          intro same
          exact fresh (List.mem_map.mpr ⟨other, member, same⟩)
        simp [lookupRows, absent]
      · simp [lookupRows, here, ih nodup]

end Rows

section Operations

variable [DecidableEq Key]

def lookup (table : Table Key Value) (key : Key) : Option Value :=
  lookupRows table.rows key

def put (table : Table Key Value) (key : Key) (value : Value) : Table Key Value :=
  ⟨putRows table.rows key value, nodup_putRows table.keysNodup key value⟩

/-- Rewrite the row of `key`, if there is one. -/
def alter (table : Table Key Value) (key : Key) (change : Value → Value) : Table Key Value :=
  match table.lookup key with
  | none => table
  | some value => table.put key (change value)

/-- Delete the row of `key`, if there is one. -/
def erase (table : Table Key Value) (key : Key) : Table Key Value :=
  ⟨table.rows.filter (fun row => row.1 ≠ key),
    table.keysNodup.sublist (List.filter_sublist.map Prod.fst)⟩

/-- Delete the rows whose value fails the test. -/
def keep (table : Table Key Value) (wanted : Value → Bool) : Table Key Value :=
  ⟨table.rows.filter (fun row => wanted row.2),
    table.keysNodup.sublist (List.filter_sublist.map Prod.fst)⟩

/-- Rewrite every row in place. -/
def mapValues {Other : Type w} (table : Table Key Value) (change : Key → Value → Other) :
    Table Key Other :=
  ⟨table.rows.map (fun row => (row.1, change row.1 row.2)), by
    simpa [List.map_map, Function.comp_def] using table.keysNodup⟩

@[simp] theorem lookup_empty (key : Key) : (empty : Table Key Value).lookup key = none := rfl

@[simp] theorem lookup_put (table : Table Key Value) (key other : Key) (value : Value) :
    (table.put key value).lookup other = if other = key then some value else table.lookup other :=
  lookupRows_putRows table.rows key other value

theorem lookup_put_self (table : Table Key Value) (key : Key) (value : Value) :
    (table.put key value).lookup key = some value := by
  simp

theorem lookup_put_of_ne (table : Table Key Value) {key other : Key} (value : Value)
    (different : other ≠ key) : (table.put key value).lookup other = table.lookup other := by
  simp [different]

private theorem putRows_of_lookup {rows : List (Key × Value)} {key : Key} {value : Value}
    (found : lookupRows rows key = some value) : putRows rows key value = rows := by
  induction rows with
  | nil => simp [lookupRows] at found
  | cons row rows ih =>
      by_cases same : row.1 = key
      · subst same
        simp only [lookupRows, ↓reduceIte, Option.some.injEq] at found
        simp [putRows, ← found]
      · simp only [lookupRows, same, ↓reduceIte] at found
        simp [putRows, same, ih found]

theorem put_of_lookup {table : Table Key Value} {key : Key} {value : Value}
    (found : table.lookup key = some value) : table.put key value = table := by
  obtain ⟨rows, keysNodup⟩ := table
  simp only [put, mk.injEq]
  exact putRows_of_lookup found

@[simp] theorem lookup_alter (table : Table Key Value) (key other : Key)
    (change : Value → Value) :
    (table.alter key change).lookup other =
      if other = key then (table.lookup key).map change else table.lookup other := by
  unfold alter
  cases found : table.lookup key with
  | none =>
      simp only [Option.map_none]
      split
      · rename_i same
        rw [same, found]
      · rfl
  | some value => simp

theorem lookup_eq_some {table : Table Key Value} {key : Key} {value : Value} :
    table.lookup key = some value ↔ (key, value) ∈ table.rows :=
  ⟨mem_of_lookupRows, lookupRows_of_mem table.keysNodup⟩

theorem lookup_eq_none {table : Table Key Value} {key : Key} :
    table.lookup key = none ↔ key ∉ table.rows.map Prod.fst :=
  lookupRows_eq_none

@[simp] theorem lookup_erase (table : Table Key Value) (key other : Key) :
    (table.erase key).lookup other = if other = key then none else table.lookup other := by
  by_cases same : other = key
  · subst same
    simp only [↓reduceIte]
    rw [lookup_eq_none]
    simp [erase]
  · simp only [same, ↓reduceIte]
    apply Option.ext
    intro value
    rw [lookup_eq_some, lookup_eq_some]
    simp [erase, same]

theorem lookup_keep (table : Table Key Value) (wanted : Value → Bool) (key : Key) :
    (table.keep wanted).lookup key = (table.lookup key).filter wanted := by
  apply Option.ext
  intro value
  rw [lookup_eq_some, Option.filter_eq_some_iff, lookup_eq_some]
  simp [keep]

@[simp] theorem lookup_mapValues {Other : Type w} (table : Table Key Value)
    (change : Key → Value → Other) (key : Key) :
    (table.mapValues change).lookup key = (table.lookup key).map (change key) := by
  apply Option.ext
  intro value
  rw [lookup_eq_some, Option.map_eq_some_iff]
  simp only [mapValues, List.mem_map, Prod.mk.injEq, Prod.exists, lookup_eq_some]
  constructor
  · intro both
    obtain ⟨_, old, member, rfl, rfl⟩ := both
    exact ⟨old, member, rfl⟩
  · intro both
    obtain ⟨old, member, rfl⟩ := both
    exact ⟨key, old, member, rfl, rfl⟩

theorem rows_erase_length_lt {table : Table Key Value} {key : Key} {value : Value}
    (found : table.lookup key = some value) :
    (table.erase key).rows.length < table.rows.length := by
  have member := lookup_eq_some.mp found
  unfold erase
  simp only
  refine List.length_filter_lt_length_iff_exists.mpr ⟨_, member, by simp⟩

end Operations

section Sums

variable [DecidableEq Key] {Amount : Type*} [AddCommGroup Amount]

/-- The total of a measure of the rows. -/
def sum (table : Table Key Value) (measure : Key → Value → Amount) : Amount :=
  (table.rows.map (fun row => measure row.1 row.2)).sum

private theorem sum_putRows (measure : Key → Value → Amount) (key : Key) (value : Value)
    (rows : List (Key × Value)) :
    ((putRows rows key value).map (fun row => measure row.1 row.2)).sum =
      (rows.map (fun row => measure row.1 row.2)).sum + measure key value -
        ((lookupRows rows key).map (measure key)).getD 0 := by
  induction rows with
  | nil => simp [putRows, lookupRows]
  | cons row rows ih =>
      by_cases same : row.1 = key
      · subst same
        simp only [putRows, ↓reduceIte, List.map_cons, List.sum_cons, lookupRows, Option.map_some,
          Option.getD_some]
        abel
      · simp only [putRows, same, ↓reduceIte, List.map_cons, List.sum_cons, lookupRows, ih]
        abel

/-- A write moves the total by the new row's amount less the old row's. -/
theorem sum_put (table : Table Key Value) (measure : Key → Value → Amount) (key : Key)
    (value : Value) :
    (table.put key value).sum measure =
      table.sum measure + measure key value - ((table.lookup key).map (measure key)).getD 0 :=
  sum_putRows measure key value table.rows

/-- Deleting a row takes its amount off the total. -/
theorem sum_erase (table : Table Key Value) (measure : Key → Value → Amount) (key : Key) :
    (table.erase key).sum measure =
      table.sum measure - ((table.lookup key).map (measure key)).getD 0 := by
  obtain ⟨rows, keysNodup⟩ := table
  simp only [sum, erase, lookup]
  induction rows with
  | nil => simp [lookupRows]
  | cons row rows ih =>
      rw [List.map_cons, List.nodup_cons] at keysNodup
      have others := ih keysNodup.2
      by_cases same : row.1 = key
      · subst same
        have absent : lookupRows rows row.1 = none := lookupRows_eq_none.mpr keysNodup.1
        rw [absent] at others
        simp only [lookupRows, List.filter_cons, ne_eq, not_true_eq_false, decide_false,
          Bool.false_eq_true, ↓reduceIte, List.map_cons, List.sum_cons, Option.map_some,
          Option.getD_some, add_sub_cancel_left]
        simpa using others
      · simp only [lookupRows, same, List.filter_cons, ne_eq, not_false_eq_true, decide_true,
          ↓reduceIte, List.map_cons, List.sum_cons, others]
        abel

end Sums

end Table

end SelfCheckout.Data
