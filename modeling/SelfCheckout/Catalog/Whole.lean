import SelfCheckout.Catalog.Snapshot
import Mathlib.Data.List.Perm.Subperm

namespace SelfCheckout.Catalog

open SelfCheckout.Data

/-! # A ready snapshot is the whole catalog

Everything on the topic comes from the one catalog, so a snapshot only ever holds
entries of it and a marker only ever says its size.  A snapshot that holds as many
entries as the catalog has rows therefore holds all of them, whatever was
repeated, left out or compacted away on the way.
-/

variable {Entry : Type} {store : Store} {parse : Item → Entry}

theorem Store.lookup_of_mem {item : Item} (listed : item ∈ store.rows) :
    store.lookup item.sku = some item := by
  unfold Store.lookup
  cases found : store.rows.find? (fun other => decide (other.sku = item.sku)) with
  | none =>
      have absent := List.find?_eq_none.mp found item listed
      simp at absent
  | some other =>
      have same : other.sku = item.sku := by simpa using List.find?_some found
      rw [List.inj_on_of_nodup_map store.distinct (List.mem_of_find?_eq_some found) listed same]

theorem Store.lookup_eq_none {sku : Sku} :
    store.lookup sku = none ↔ sku ∉ store.rows.map Item.sku := by
  simp [Store.lookup, List.find?_eq_none]

/-- The snapshot holds entries of the catalog only, and judges them by its size. -/
structure TopicSnapshot.Faithful (snapshot : TopicSnapshot Entry) (store : Store)
    (parse : Item → Entry) : Prop where
  entries : ∀ sku entry, snapshot.items.lookup sku = some entry →
    (store.lookup sku).map parse = some entry
  size : ∀ count, snapshot.expected = some count → count = store.rows.length
  judged : snapshot.ready = true ↔
    ∃ count, snapshot.expected = some count ∧ count ≤ snapshot.items.rows.length

/-- A record some publication of this catalog sends. -/
inductive Published (store : Store) : Record → Prop where
  | item {item : Item} (publishId : PublishId) (listed : item ∈ store.rows) :
      Published store (itemRecord publishId item)
  | marker (publishId : PublishId) : Published store (markerRecord store publishId)

/-- What the record says is in the snapshot. -/
def TopicSnapshot.Has (snapshot : TopicSnapshot Entry) (record : Record) : Prop :=
  match record.event with
  | .itemPublished item _ => (snapshot.items.lookup item.sku).isSome = true
  | .catalogPublished _ _ => snapshot.expected.isSome = true
  | .other _ => True

namespace TopicSnapshot

variable {snapshot : TopicSnapshot Entry}

theorem Faithful.empty : (TopicSnapshot.empty : TopicSnapshot Entry).Faithful store parse := by
  constructor
  case entries =>
    intro sku entry found
    contradiction
  case size =>
    intro count found
    contradiction
  case judged => simp [TopicSnapshot.empty]

@[simp] theorem judge_items (snapshot : TopicSnapshot Entry) :
    snapshot.judge.items = snapshot.items := by
  unfold judge
  split
  · rfl
  · split <;> rfl

@[simp] theorem judge_expected (snapshot : TopicSnapshot Entry) :
    snapshot.judge.expected = snapshot.expected := by
  unfold judge
  split
  · rfl
  · split <;> rfl

theorem judge_ready (snapshot : TopicSnapshot Entry) :
    snapshot.judge.ready = true ↔ snapshot.ready = true ∨
      ∃ count, snapshot.expected = some count ∧ count ≤ snapshot.items.rows.length := by
  unfold judge
  split
  · rename_i unknown
    simp [unknown]
  · rename_i count known
    split
    · rename_i enough
      simp [known, enough]
    · rename_i few
      simp [known, few]

theorem length_le_put (items : Table Sku Entry) (sku : Sku) (entry : Entry) :
    items.rows.length ≤ (items.put sku entry).rows.length := by
  have keys := congrArg List.length (Table.keys_putRows items.rows sku entry)
  simp only [List.length_map] at keys
  unfold Table.put
  simp only [keys]
  split <;> simp

/-- A snapshot that is ready stays ready. -/
theorem ready_apply (record : Record) (ready : snapshot.ready = true) :
    (snapshot.apply parse record).ready = true := by
  unfold apply
  split
  · rw [judge_ready]
    exact .inl ready
  · rw [judge_ready]
    exact .inl ready
  · exact ready

theorem Has.apply {earlier record : Record} (has : snapshot.Has earlier) :
    (snapshot.apply parse record).Has earlier := by
  unfold TopicSnapshot.Has at has ⊢
  unfold TopicSnapshot.apply
  split
  · rename_i item id said
    rw [said] at has
    simp only at has
    split
    · simp only [judge_items, Table.lookup_put]
      split
      · rfl
      · exact has
    · simpa using has
    · exact has
  · rename_i id count said
    rw [said] at has
    simp only at has
    split <;> simp [has]
  · trivial

theorem has_apply (snapshot : TopicSnapshot Entry) (record : Record) :
    (snapshot.apply parse record).Has record := by
  unfold TopicSnapshot.Has TopicSnapshot.apply
  split
  · simp_all
  · simp_all
  · trivial

theorem Faithful.apply {record : Record} (faithful : snapshot.Faithful store parse)
    (published : Published store record) : (snapshot.apply parse record).Faithful store parse := by
  cases published with
  | item publishId listed =>
      rename_i item
      simp only [TopicSnapshot.apply, itemRecord]
      constructor
      case entries =>
        intro sku entry found
        simp only [judge_items, Table.lookup_put] at found
        split at found
        · rename_i same
          cases found
          rw [same, Store.lookup_of_mem listed]
          rfl
        · exact faithful.entries sku entry found
      case size => simpa using faithful.size
      case judged =>
        rw [judge_ready, faithful.judged]
        simp only [judge_expected, judge_items]
        constructor
        · intro either
          rcases either with ⟨count, known, enough⟩ | later
          · exact ⟨count, known, enough.trans (length_le_put _ _ _)⟩
          · exact later
        · exact .inr
  | marker publishId =>
      simp only [TopicSnapshot.apply, markerRecord]
      constructor
      case entries => simpa using faithful.entries
      case size =>
        intro count found
        simp only [judge_expected, Option.some.injEq] at found
        exact found.symm
      case judged =>
        rw [judge_ready, faithful.judged]
        simp only [judge_expected, judge_items]
        constructor
        · intro either
          rcases either with ⟨count, known, enough⟩ | later
          · exact ⟨_, rfl, faithful.size count known ▸ enough⟩
          · exact later
        · exact .inr

theorem Faithful.keys_subset (faithful : snapshot.Faithful store parse) :
    snapshot.items.rows.map Prod.fst ⊆ store.rows.map Item.sku := by
  intro sku member
  obtain ⟨⟨_, entry⟩, stored, rfl⟩ := List.mem_map.mp member
  have known := faithful.entries _ entry (Table.lookup_eq_some.mpr stored)
  by_contra unlisted
  rw [Store.lookup_eq_none.mpr unlisted] at known
  contradiction

/-- The cardinality argument: as many entries as rows are all of them. -/
theorem Faithful.complete (faithful : snapshot.Faithful store parse)
    (ready : snapshot.ready = true) (sku : Sku) :
    snapshot.get sku = (store.lookup sku).map parse := by
  obtain ⟨count, known, enough⟩ := faithful.judged.mp ready
  have size := faithful.size count known
  have all : (snapshot.items.rows.map Prod.fst).Perm (store.rows.map Item.sku) := by
    have inside := List.Nodup.subperm snapshot.items.keysNodup faithful.keys_subset
    exact inside.perm_of_length_le (by simpa using size ▸ enough)
  unfold get
  cases found : snapshot.items.lookup sku with
  | some entry => exact (faithful.entries sku entry found).symm
  | none =>
      have unlisted : sku ∉ store.rows.map Item.sku := by
        rw [← all.mem_iff]
        exact Table.lookup_eq_none.mp found
      rw [Store.lookup_eq_none.mpr unlisted]
      rfl

/-- Ready follows from having seen every row and a marker. -/
theorem Faithful.ready_of_seen (faithful : snapshot.Faithful store parse)
    (items : ∀ item ∈ store.rows, (snapshot.items.lookup item.sku).isSome = true)
    (marker : snapshot.expected.isSome = true) : snapshot.ready = true := by
  obtain ⟨count, known⟩ := Option.isSome_iff_exists.mp marker
  refine faithful.judged.mpr ⟨count, known, ?_⟩
  have covered : store.rows.map Item.sku ⊆ snapshot.items.rows.map Prod.fst := by
    intro sku member
    obtain ⟨item, listed, rfl⟩ := List.mem_map.mp member
    by_contra absent
    have present := items item listed
    rw [Table.lookup_eq_none.mpr absent] at present
    contradiction
  have few := (List.Nodup.subperm store.distinct covered).length_le
  rw [faithful.size count known]
  simpa using few

end TopicSnapshot

end SelfCheckout.Catalog
