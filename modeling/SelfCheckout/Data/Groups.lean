import SelfCheckout.Data.Table
import Mathlib.Data.List.Induction

namespace SelfCheckout.Data

/-! # Grouping by key

`groupBy` is the loop that appends each item to the list of its key: the groups
stand in the order their keys first appear, each in the order of its items.
-/

universe u v

variable {Item : Type u} {Key : Type v} [DecidableEq Key]

def groupBy (key : Item → Key) (items : List Item) : Table Key (List Item) :=
  items.foldl (fun groups item =>
    groups.put (key item) ((groups.lookup (key item)).getD [] ++ [item])) Table.empty

theorem lookup_groupBy (key : Item → Key) (items : List Item) (wanted : Key) :
    (groupBy key items).lookup wanted =
      if wanted ∈ items.map key then some (items.filter (fun item => decide (key item = wanted)))
      else none := by
  induction items using List.reverseRecOn with
  | nil => simp [groupBy]
  | append_singleton items item ih =>
      have last : groupBy key (items ++ [item]) = (groupBy key items).put (key item)
          (((groupBy key items).lookup (key item)).getD [] ++ [item]) := by
        simp [groupBy]
      by_cases here : wanted = key item
      · subst here
        rw [last, Table.lookup_put_self, ih]
        by_cases before : key item ∈ items.map key
        · rw [if_pos before]
          simp
        · rw [if_neg before]
          have none : items.filter (fun other => decide (key other = key item)) = [] := by
            rw [List.filter_eq_nil_iff]
            intro other member same
            exact before (List.mem_map.mpr ⟨other, member, of_decide_eq_true same⟩)
          simp [none]
      · rw [last, Table.lookup_put_of_ne _ _ here, ih]
        simp [here, Ne.symm here]

/-- A group is the items of its key, in their order. -/
theorem group_eq_filter {key : Item → Key} {items : List Item} {wanted : Key}
    {group : List Item} (member : (wanted, group) ∈ (groupBy key items).rows) :
    group = items.filter (fun item => decide (key item = wanted)) := by
  have found := Table.lookup_eq_some.mpr member
  rw [lookup_groupBy] at found
  split at found
  · exact (Option.some.inj found).symm
  · contradiction

/-- Grouping loses and invents nothing. -/
theorem mem_groups (key : Item → Key) (items : List Item) (item : Item) :
    item ∈ (groupBy key items).rows.flatMap Prod.snd ↔ item ∈ items := by
  rw [List.mem_flatMap]
  constructor
  · intro found
    obtain ⟨⟨wanted, group⟩, member, inside⟩ := found
    rw [group_eq_filter member] at inside
    exact (List.mem_filter.mp inside).1
  · intro member
    refine ⟨(key item, items.filter (fun other => decide (key other = key item))), ?_, ?_⟩
    · rw [← Table.lookup_eq_some, lookup_groupBy, if_pos (List.mem_map_of_mem member)]
    · exact List.mem_filter.mpr ⟨member, by simp⟩

end SelfCheckout.Data
