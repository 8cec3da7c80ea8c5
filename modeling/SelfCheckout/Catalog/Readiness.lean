import SelfCheckout.Catalog.Whole

namespace SelfCheckout.Catalog

open SelfCheckout.Data

/-! # Readiness over the topic

What compaction, retries and repeated publications keep: the last record of every
key, and what each reader has passed.
-/

variable {Entry : Type} {store : Store} {parse : Item → Entry}

/-- The topic retains a record of this key. -/
def Kept (log : List (Option Record)) (key : String) : Prop :=
  ∃ (offset : Nat) (record : Record), log[offset]? = some (some record) ∧ record.key = key

theorem Kept.append {log : List (Option Record)} {key : String} (kept : Kept log key)
    (record : Record) : Kept (log ++ [some record]) key := by
  obtain ⟨offset, old, found, same⟩ := kept
  have inside : offset < log.length := (List.getElem?_eq_some_iff.mp found).1
  exact ⟨offset, old, by rw [List.getElem?_append_left inside, found], same⟩

theorem kept_append_self (log : List (Option Record)) (record : Record) :
    Kept (log ++ [some record]) record.key :=
  ⟨log.length, record, by simp, rfl⟩

/-- Compaction drops a record only where a later one has its key. -/
theorem Kept.compact {log : List (Option Record)} {key : String} (kept : Kept log key)
    {offset : Nat} (allowed : compactible log offset = true) : Kept (log.set offset none) key := by
  obtain ⟨place, record, found, same⟩ := kept
  by_cases here : offset = place
  · subst here
    simp only [compactible, found, List.any_eq_true] at allowed
    obtain ⟨slot, member, later⟩ := allowed
    obtain ⟨distance, located⟩ := List.mem_iff_getElem?.mp member
    rw [List.getElem?_drop] at located
    obtain ⟨newer, rfl⟩ : ∃ newer, slot = some newer := by
      cases slot with
      | none => simp at later
      | some newer => exact ⟨newer, rfl⟩
    have newerKey : newer.key = record.key := by simpa using later
    refine ⟨offset + 1 + distance, newer, ?_, newerKey.trans same⟩
    rw [List.getElem?_set_ne (by omega), located]
  · exact ⟨place, record, by rw [List.getElem?_set_ne here, found], same⟩

/-- What a publication has had acknowledged since it last started over. -/
def Progress (store : Store) (log : List (Option Record)) : Phase → Prop
  | .items first => ∀ item ∈ store.rows.take first, Kept log item.sku
  | .marker => ∀ item ∈ store.rows, Kept log item.sku
  | .returned count =>
      count = store.rows.length ∧ (∀ item ∈ store.rows, Kept log item.sku) ∧ Kept log markerKey
  | .crashed => True

structure Publication.Sound (publication : Publication) (store : Store)
    (log : List (Option Record)) : Prop where
  sent : ∀ record ∈ publication.sent, Published store record
  stored : ∀ record ∈ publication.stored, Kept log record.key
  progress : Progress store log publication.phase

/-- What a reader has passed is in its snapshot or about to be. -/
structure Reader.Sound (reader : Reader Entry) (store : Store) (parse : Item → Entry)
    (log : List (Option Record)) : Prop where
  pending : ∀ record ∈ reader.pending, Published store record
  faithful : reader.snapshot.Faithful store parse
  within : reader.position ≤ log.length
  passed : ∀ (offset : Nat) record, offset < reader.position → log[offset]? = some (some record) →
    reader.snapshot.Has record ∨ record ∈ reader.pending

structure System.Sound (system : System Entry) (store : Store) (parse : Item → Entry) : Prop where
  published : ∀ record, some record ∈ system.log → Published store record
  publications : ∀ worker publication, system.publications worker = some publication →
    publication.Sound store system.log
  readers : ∀ id reader, system.readers id = some reader → reader.Sound store parse system.log

theorem published_batch {publishId : PublishId} {phase : Phase} {record : Record}
    (member : record ∈ batch store publishId phase) : Published store record := by
  cases phase with
  | items first =>
      obtain ⟨item, listed, rfl⟩ := List.mem_map.mp member
      exact .item publishId (List.mem_of_mem_drop (List.mem_of_mem_take listed))
  | marker =>
      rw [List.mem_singleton.mp member]
      exact .marker publishId
  | returned count => contradiction
  | crashed => contradiction

theorem Progress.mono {before after : List (Option Record)}
    (keeps : ∀ key, Kept before key → Kept after key) {phase : Phase}
    (progress : Progress store before phase) : Progress store after phase := by
  cases phase with
  | items first => exact fun item member => keeps _ (progress item member)
  | marker => exact fun item member => keeps _ (progress item member)
  | returned count =>
      exact ⟨progress.1, fun item member => keeps _ (progress.2.1 item member),
        keeps _ progress.2.2⟩
  | crashed => trivial

theorem progress_phaseAt {log : List (Option Record)} {first : Nat}
    (items : ∀ item ∈ store.rows.take first, Kept log item.sku) :
    Progress store log (phaseAt store first) := by
  unfold phaseAt
  split
  · exact items
  · rename_i done
    rw [List.take_of_length_le (by omega)] at items
    exact items

namespace Publication.Sound

variable {publication : Publication} {log : List (Option Record)}

theorem mono {after : List (Option Record)} (sound : publication.Sound store log)
    (keeps : ∀ key, Kept log key → Kept after key) : publication.Sound store after where
  sent := sound.sent
  stored record member := keeps _ (sound.stored record member)
  progress := sound.progress.mono keeps

theorem enter (sound : publication.Sound store log) {phase : Phase}
    (progress : Progress store log phase) : (publication.enter store phase).Sound store log where
  sent record member := by
    rcases List.mem_append.mp member with old | new
    · exact sound.sent record old
    · exact published_batch new
  stored record member := by contradiction
  progress := progress

theorem acknowledged (sound : publication.Sound store log)
    (stored : batch store publication.publishId publication.phase ⊆ publication.stored)
    {after : Publication} (acked : publication.afterAck store = some after) :
    after.Sound store log := by
  have kept : ∀ record ∈ batch store publication.publishId publication.phase,
      Kept log record.key := fun record member => sound.stored record (stored member)
  have progress := sound.progress
  unfold afterAck at acked
  cases phase : publication.phase with
  | items first =>
      rw [phase] at acked kept progress
      cases acked
      apply sound.enter
      apply progress_phaseAt
      intro item member
      rw [List.take_add] at member
      rcases List.mem_append.mp member with earlier | now
      · exact progress item earlier
      · exact kept _ (List.mem_map_of_mem now)
  | marker =>
      rw [phase] at acked kept progress
      cases acked
      apply sound.enter
      exact ⟨rfl, progress, kept _ (List.mem_singleton.mpr rfl)⟩
  | returned count =>
      rw [phase] at acked
      contradiction
  | crashed =>
      rw [phase] at acked
      contradiction

theorem retried (sound : publication.Sound store log) {after : Publication}
    (failed : publication.retry store = some after) : after.Sound store log := by
  have restart : (publication.enter store (phaseAt store 0)).Sound store log := by
    apply sound.enter
    apply progress_phaseAt
    intro item member
    contradiction
  unfold retry at failed
  split at failed <;> cases failed <;> exact restart

end Publication.Sound

theorem Publication.begin_sound (publishId : PublishId) (log : List (Option Record)) :
    (Publication.begin store publishId).Sound store log where
  sent _ member := published_batch member
  stored _ member := by contradiction
  progress := by
    apply progress_phaseAt
    intro item member
    contradiction

theorem mem_inGroups {records : List Record} {record : Record} :
    record ∈ inGroups records ↔ record ∈ records :=
  mem_groups Record.key records record

namespace System.Sound

variable {system : System Entry}

theorem initial : (Catalog.initial Entry).Sound store parse where
  published _ member := by contradiction
  publications _ _ found := by contradiction
  readers _ _ found := by contradiction

theorem setPublication (sound : system.Sound store parse) (worker : WorkerId)
    {publication : Publication} (own : publication.Sound store system.log) :
    (system.setPublication worker publication).Sound store parse where
  published := sound.published
  publications other found present := by
    simp only [System.setPublication, Function.update_apply] at present
    split at present
    · cases present
      exact own
    · exact sound.publications other found present
  readers := sound.readers

theorem setReader (sound : system.Sound store parse) (id : ReaderId) {reader : Reader Entry}
    (own : reader.Sound store parse system.log) :
    (system.setReader id reader).Sound store parse where
  published := sound.published
  publications := sound.publications
  readers other found present := by
    simp only [System.setReader, Function.update_apply] at present
    split at present
    · cases present
      exact own
    · exact sound.readers other found present

theorem append (sound : system.Sound store parse) {record : Record}
    (published : Published store record) :
    ({ system with log := system.log ++ [some record] } : System Entry).Sound store parse where
  published other member := by
    rcases List.mem_append.mp member with old | new
    · exact sound.published other old
    · cases List.mem_singleton.mp new
      exact published
  publications worker publication present :=
    (sound.publications worker publication present).mono (fun _ kept => kept.append record)
  readers id reader present := by
    have own := sound.readers id reader present
    refine ⟨own.pending, own.faithful, ?_, ?_⟩
    · simpa using own.within.trans (Nat.le_succ _)
    · intro offset earlier before found
      rw [List.getElem?_append_left (by have := own.within; omega)] at found
      exact own.passed offset earlier before found

theorem compact (sound : system.Sound store parse) {offset : Nat}
    (allowed : compactible system.log offset = true) :
    ({ system with log := system.log.set offset none } : System Entry).Sound store parse where
  published record member := by
    rcases List.mem_or_eq_of_mem_set member with old | new
    · exact sound.published record old
    · contradiction
  publications worker publication present :=
    (sound.publications worker publication present).mono (fun _ kept => kept.compact allowed)
  readers id reader present := by
    have own := sound.readers id reader present
    refine ⟨own.pending, own.faithful, by simpa using own.within, ?_⟩
    intro place record before found
    by_cases here : offset = place
    · simp [List.getElem?_set, here] at found
    · rw [List.getElem?_set_ne here] at found
      exact own.passed place record before found

theorem polled (sound : system.Sound store parse) {id : ReaderId} {reader : Reader Entry}
    (present : system.readers id = some reader) {count : Nat} (idle : reader.pending = [])
    (within : reader.position + count ≤ system.log.length) :
    ({ reader with
        position := reader.position + count
        pending := inGroups (((system.log.drop reader.position).take count).filterMap
          (fun slot => slot)) } : Reader Entry).Sound store parse system.log := by
  have own := sound.readers id reader present
  refine ⟨?_, own.faithful, within, ?_⟩
  · intro record member
    rw [mem_inGroups] at member
    obtain ⟨slot, listed, rfl⟩ := List.mem_filterMap.mp member
    exact sound.published record (List.mem_of_mem_drop (List.mem_of_mem_take listed))
  · intro offset record before found
    by_cases earlier : offset < reader.position
    · have seen := own.passed offset record earlier found
      rw [idle] at seen
      exact .inl (seen.resolve_right (List.not_mem_nil))
    · refine .inr (mem_inGroups.mpr (List.mem_filterMap.mpr ⟨some record, ?_, rfl⟩))
      rw [List.mem_iff_getElem?]
      refine ⟨offset - reader.position, ?_⟩
      have bound : offset < reader.position + count := before
      rw [List.getElem?_take_of_lt (by omega), List.getElem?_drop,
        Nat.add_sub_cancel' (by omega), found]

theorem handled {reader : Reader Entry} {log : List (Option Record)}
    (own : reader.Sound store parse log) {record : Record} {pending : List Record}
    (next : reader.pending = record :: pending) :
    ({ reader with pending, snapshot := reader.snapshot.apply parse record } :
      Reader Entry).Sound store parse log := by
  have published : ∀ other ∈ record :: pending, Published store other := next ▸ own.pending
  refine ⟨fun other member => published other (List.mem_cons_of_mem _ member),
    own.faithful.apply (published record List.mem_cons_self), own.within, ?_⟩
  intro offset other before found
  have seen := own.passed offset other before found
  rw [next] at seen
  rcases seen with has | waiting
  · exact .inl has.apply
  · rcases List.mem_cons.mp waiting with rfl | later
    · exact .inl (TopicSnapshot.has_apply reader.snapshot other)
    · exact .inr later

theorem opened (log : List (Option Record)) :
    ({ position := 0, pending := [], snapshot := .empty } : Reader Entry).Sound store parse log := by
  refine ⟨fun _ member => by contradiction, .empty, Nat.zero_le _, ?_⟩
  intro offset record before
  exact absurd before (Nat.not_lt_zero offset)

/-- The step lemma. -/
theorem step {after : System Entry} (sound : system.Sound store parse)
    (does : Does store parse system after) : after.Sound store parse := by
  cases does with
  | begins worker publishId =>
      exact sound.setPublication worker (Publication.begin_sound publishId system.log)
  | @stores worker publication record present sent =>
      have own := sound.publications worker publication present
      have kept := own.mono (fun _ kept => kept.append record)
      refine (sound.append (own.sent record sent)).setPublication worker
        ⟨kept.sent, ?_, kept.progress⟩
      intro other member
      rcases List.mem_append.mp member with old | new
      · exact kept.stored other old
      · rw [List.mem_singleton.mp new]
        exact kept_append_self system.log record
  | @goesOn worker publication next present stored acked =>
      exact sound.setPublication worker
        ((sound.publications worker publication present).acknowledged stored acked)
  | @startsOver worker publication next present failed =>
      exact sound.setPublication worker
        ((sound.publications worker publication present).retried failed)
  | @crashes worker publication present =>
      have own := sound.publications worker publication present
      exact sound.setPublication worker ⟨own.sent, own.stored, trivial⟩
  | compacts allowed => exact sound.compact allowed
  | subscribes absent => exact sound.setReader _ (opened system.log)
  | polls present idle within => exact sound.setReader _ (sound.polled present idle within)
  | handles present next => exact sound.setReader _ (handled (sound.readers _ _ present) next)

end System.Sound

theorem sound_of_run {labels : List Label} {system : System Entry}
    (run : Run (step store parse) Any (initial Entry) labels system) : system.Sound store parse :=
  run.invariant System.Sound.initial (fun _ _ _ sound _ taken => System.Sound.step sound (step_does taken))

/-- A step leaves a reader as it was, or lets it poll, or lets it apply a record. -/
theorem step_reader {system after : System Entry} (does : Does store parse system after)
    {id : ReaderId} {reader : Reader Entry} (present : system.readers id = some reader) :
    ∃ next, after.readers id = some next ∧ (next.snapshot = reader.snapshot ∨
      ∃ record, next.snapshot = reader.snapshot.apply parse record) := by
  have moved : ∀ {other : ReaderId} {old : Reader Entry} (new : Reader Entry),
      system.readers other = some old →
      (new.snapshot = old.snapshot ∨ ∃ record, new.snapshot = old.snapshot.apply parse record) →
      ∃ next, (system.setReader other new).readers id = some next ∧
        (next.snapshot = reader.snapshot ∨
          ∃ record, next.snapshot = reader.snapshot.apply parse record) := by
    intro other old new found change
    by_cases here : id = other
    · subst here
      cases found.symm.trans present
      exact ⟨new, by simp [System.setReader], change⟩
    · exact ⟨reader, by simp [System.setReader, here, present], .inl rfl⟩
  cases does with
  | @subscribes other absent =>
      have different : id ≠ other := by
        intro here
        rw [here, absent] at present
        contradiction
      exact ⟨reader, by simp [System.setReader, different, present], .inl rfl⟩
  | polls found idle within => exact moved _ found (.inl rfl)
  | handles found next => exact moved _ found (.inr ⟨_, rfl⟩)
  | begins worker publishId => exact ⟨reader, present, .inl rfl⟩
  | stores found sent => exact ⟨reader, present, .inl rfl⟩
  | goesOn found stored acked => exact ⟨reader, present, .inl rfl⟩
  | startsOver found failed => exact ⟨reader, present, .inl rfl⟩
  | crashes found => exact ⟨reader, present, .inl rfl⟩
  | compacts allowed => exact ⟨reader, present, .inl rfl⟩

theorem ready_of_run {system after : System Entry} {labels : List Label} {id : ReaderId}
    {reader : Reader Entry} (run : Run (step store parse) Any system labels after)
    (present : system.readers id = some reader) (ready : reader.snapshot.ready = true) :
    ∃ next, after.readers id = some next ∧ next.snapshot.ready = true := by
  induction run with
  | start => exact ⟨reader, present, ready⟩
  | snoc past permitted taken ih =>
      obtain ⟨middle, found, middleReady⟩ := ih
      obtain ⟨next, nextFound, same | ⟨record, applied⟩⟩ := step_reader (step_does taken) found
      · exact ⟨next, nextFound, same ▸ middleReady⟩
      · exact ⟨next, nextFound, applied ▸ TopicSnapshot.ready_apply record middleReady⟩

/-- The snapshot answers as the catalog does. -/
def TopicSnapshot.Whole (snapshot : TopicSnapshot Entry) (store : Store) (parse : Item → Entry) :
    Prop :=
  ∀ sku, snapshot.get sku = (store.lookup sku).map parse

/-- The topic retains a record of every row and a marker, from one publication or
from several. -/
def Complete (store : Store) (log : List (Option Record)) : Prop :=
  (∀ item ∈ store.rows, ∃ publishId, some (itemRecord publishId item) ∈ log) ∧
    ∃ publishId, some (markerRecord store publishId) ∈ log

theorem Kept.item {log : List (Option Record)}
    (published : ∀ record, some record ∈ log → Published store record)
    (unreserved : markerKey ∉ store.rows.map Item.sku) {item : Item} (listed : item ∈ store.rows)
    (kept : Kept log item.sku) : ∃ publishId, some (itemRecord publishId item) ∈ log := by
  obtain ⟨offset, record, found, same⟩ := kept
  have member := List.mem_of_getElem? found
  cases published record member with
  | item publishId otherListed =>
      rename_i other
      cases List.inj_on_of_nodup_map store.distinct otherListed listed same
      exact ⟨publishId, member⟩
  | marker publishId =>
      have reserved : markerKey = item.sku := same
      exact absurd (reserved ▸ List.mem_map_of_mem listed) unreserved

theorem Kept.marker {log : List (Option Record)}
    (published : ∀ record, some record ∈ log → Published store record)
    (unreserved : markerKey ∉ store.rows.map Item.sku) (kept : Kept log markerKey) :
    ∃ publishId, some (markerRecord store publishId) ∈ log := by
  obtain ⟨offset, record, found, same⟩ := kept
  have member := List.mem_of_getElem? found
  cases published record member with
  | item publishId listed =>
      rename_i item
      have reserved : item.sku = markerKey := same
      exact absurd (reserved ▸ List.mem_map_of_mem listed) unreserved
  | marker publishId => exact ⟨publishId, member⟩

/-- A publication that returned leaves a complete topic behind, compacted or not. -/
theorem complete_of_returned {system : System Entry} (sound : system.Sound store parse)
    (unreserved : markerKey ∉ store.rows.map Item.sku) {worker : WorkerId}
    {publication : Publication} {count : Nat}
    (present : system.publications worker = some publication)
    (returned : publication.phase = .returned count) : Complete store system.log := by
  have progress := (sound.publications worker publication present).progress
  rw [returned] at progress
  obtain ⟨_, items, marker⟩ := progress
  exact ⟨fun item listed => (items item listed).item sound.published unreserved listed,
    marker.marker sound.published unreserved⟩

theorem ready_of_complete {system : System Entry} (sound : system.Sound store parse)
    (complete : Complete store system.log) {id : ReaderId} {reader : Reader Entry}
    (present : system.readers id = some reader) (read : reader.position = system.log.length)
    (applied : reader.pending = []) : reader.snapshot.ready = true := by
  have own := sound.readers id reader present
  have seen : ∀ record, some record ∈ system.log → reader.snapshot.Has record := by
    intro record member
    obtain ⟨offset, found⟩ := List.mem_iff_getElem?.mp member
    have inside := (List.getElem?_eq_some_iff.mp found).1
    have passed := own.passed offset record (by omega) found
    rw [applied] at passed
    exact passed.resolve_right List.not_mem_nil
  apply own.faithful.ready_of_seen
  · intro item listed
    obtain ⟨publishId, member⟩ := complete.1 item listed
    exact seen _ member
  · obtain ⟨publishId, member⟩ := complete.2
    exact seen _ member

/-- A ready catalog snapshot is the whole catalog and stays so; a reader that has
read a complete topic to its end is ready; and a publication that returned leaves a
complete topic, unless the catalog lists the marker's key as a SKU. -/
theorem ready_snapshot_is_whole (store : Store) (parse : Item → Entry) (labels : List Label)
    (system : System Entry) (id : ReaderId) (reader : Reader Entry)
    (run : Run (step store parse) Any (initial Entry) labels system)
    (present : system.readers id = some reader) :
    (reader.snapshot.ready = true → reader.snapshot.Whole store parse) ∧
    (reader.snapshot.ready = true → ∀ later after, Run (step store parse) Any system later after →
      ∃ next, after.readers id = some next ∧ next.snapshot.ready = true ∧
        next.snapshot.Whole store parse) ∧
    (Complete store system.log → reader.position = system.log.length → reader.pending = [] →
      reader.snapshot.ready = true) ∧
    (markerKey ∉ store.rows.map Item.sku → ∀ worker publication count,
      system.publications worker = some publication → publication.phase = .returned count →
      Complete store system.log) := by
  have sound := sound_of_run run
  refine ⟨fun ready sku => (sound.readers id reader present).faithful.complete ready sku,
    ?_, ?_, ?_⟩
  · intro ready later after future
    obtain ⟨next, found, nextReady⟩ := ready_of_run future present ready
    have whole := sound_of_run (run.append future)
    exact ⟨next, found, nextReady,
      fun sku => (whole.readers id next found).faithful.complete nextReady sku⟩
  · exact fun complete read applied => ready_of_complete sound complete present read applied
  · exact fun unreserved worker publication count published returned =>
      complete_of_returned sound unreserved published returned

/-- A catalog of one item, published and read. -/
def coffeeOnly : Store :=
  { rows := [⟨"SKU-000001", "Coffee", 499⟩]
    distinct := by decide }

def publishAndRead : List Label :=
  [.publish 0 7, .store 0 (itemRecord 7 ⟨"SKU-000001", "Coffee", 499⟩), .acknowledge 0,
   .store 0 (markerRecord coffeeOnly 7), .acknowledge 0, .subscribe 0, .poll 0 2, .handle 0,
   .handle 0]

theorem publishAndRead_runs : (publishAndRead.foldlM (step coffeeOnly Item.priceCents)
    (initial Nat)).isSome = true := by
  decide

example : (publishAndRead.foldlM (step coffeeOnly Item.priceCents) (initial Nat)).bind
    (fun system => (system.readers 0).map (fun reader =>
      (reader.snapshot.ready, reader.snapshot.get "SKU-000001"))) = some (true, some 499) := by
  decide

theorem publishAndRead_reads : (((publishAndRead.foldlM (step coffeeOnly Item.priceCents)
    (initial Nat)).get publishAndRead_runs).readers 0).isSome = true := by
  decide

theorem ready_snapshot_is_whole_coffee :
    ((((publishAndRead.foldlM (step coffeeOnly Item.priceCents) (initial Nat)).get
      publishAndRead_runs).readers 0).get publishAndRead_reads).snapshot.Whole coffeeOnly
        Item.priceCents :=
  (ready_snapshot_is_whole coffeeOnly Item.priceCents publishAndRead _ 0 _
    (.of_foldlM (Option.some_get publishAndRead_runs).symm)
    (Option.some_get publishAndRead_reads).symm).1 (by decide)

end SelfCheckout.Catalog
