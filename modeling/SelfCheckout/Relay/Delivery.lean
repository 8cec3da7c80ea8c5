import SelfCheckout.Relay.Pass

namespace SelfCheckout.Relay

open SelfCheckout.Data

/-! # The relay loses no committed scan

Every position the relay saves or works from is accounted for: an id up to it was
acknowledged, or a pass declared it a gap that its own read did not hold.  Being
accounted for is kept by every step, so an instance that saves an old position
does no harm.
-/

variable {grace : Time}

theorem mem_relayBatch {scans : List Scan} {after limit : Nat} {scan : Scan}
    (member : scan ∈ relayBatch scans after limit) : scan ∈ scans ∧ after < scan.id := by
  have sorted := List.mem_of_mem_take member
  rw [(List.perm_insertionSort _ _).mem_iff, List.mem_filter] at sorted
  exact ⟨sorted.1, of_decide_eq_true sorted.2⟩

theorem relayBatch_ascending {scans : List Scan} (distinct : (scans.map Scan.id).Nodup)
    (after limit : Nat) :
    (relayBatch scans after limit).Pairwise (fun left right => left.id < right.id) := by
  have total : Std.Total (fun left right : Scan => left.id ≤ right.id) :=
    ⟨fun left right => le_total left.id right.id⟩
  have transitive : IsTrans Scan (fun left right => left.id ≤ right.id) :=
    ⟨fun _ _ _ first second => le_trans first second⟩
  have different : (scans.filter (fun scan => decide (after < scan.id))).Pairwise
      (fun left right => left.id ≠ right.id) :=
    (List.pairwise_map.mp distinct).sublist List.filter_sublist
  have sorted := (List.pairwise_insertionSort (fun left right : Scan => left.id ≤ right.id)
    (scans.filter (fun scan => decide (after < scan.id)))).and
    ((List.perm_insertionSort _ _).symm.pairwise different (fun unequal => Ne.symm unequal))
  exact (sorted.imp (fun both => lt_of_le_of_ne both.1 both.2)).sublist (List.take_sublist _ _)

section Examine

variable {clock : Nat → Time}

theorem ready_of_examine (rows : List Scan) (expected : Nat) (gap : Option (Nat × Time)) :
    (examine grace clock rows expected gap).ready <+: rows := by
  induction rows generalizing expected gap with
  | nil => exact List.prefix_rfl
  | cons row rows ih =>
      simp only [examine]
      split
      · split
        · exact List.nil_prefix
        · exact (List.prefix_cons_inj row).mpr (ih _ _)
      · exact (List.prefix_cons_inj row).mpr (ih _ _)

/-- Up to any ready row, an id is ready itself or was declared a gap and not read. -/
theorem examine_accounts {rows : List Scan} {expected : Nat}
    (ascending : rows.Pairwise (fun left right => left.id < right.id))
    (above : ∀ row ∈ rows, expected ≤ row.id) (gap : Option (Nat × Time)) {ready : Scan}
    (member : ready ∈ (examine grace clock rows expected gap).ready) {id : Nat}
    (lower : expected ≤ id) (upper : id ≤ ready.id) :
    id ∈ (examine grace clock rows expected gap).ready.map Scan.id ∨
      (id ∈ (examine grace clock rows expected gap).skipped ∧ id ∉ rows.map Scan.id) := by
  induction rows generalizing expected gap with
  | nil => contradiction
  | cons row rows ih =>
      obtain ⟨below, ascending⟩ := List.pairwise_cons.mp ascending
      have next : ∀ other ∈ rows, row.id + 1 ≤ other.id := below
      -- Past the first row the claim is the induction hypothesis from its successor on.
      have later : ready ∈ (examine grace clock rows (row.id + 1) none).ready → row.id < id →
          id ∈ (examine grace clock rows (row.id + 1) none).ready.map Scan.id ∨
            (id ∈ (examine grace clock rows (row.id + 1) none).skipped ∧
              id ∉ (row :: rows).map Scan.id) := by
        intro readyLater past
        rcases ih ascending next none readyLater past with published | skipped
        · exact .inl published
        · refine .inr ⟨skipped.1, ?_⟩
          rw [List.map_cons, List.mem_cons, not_or]
          exact ⟨by omega, skipped.2⟩
      have here : ready = row ∨ ready ∈ (examine grace clock rows (row.id + 1) none).ready := by
        simp only [examine] at member
        split at member
        · split at member
          · contradiction
          · exact List.mem_cons.mp member
        · exact List.mem_cons.mp member
      have notBeyond : row.id < id → ready ∈ (examine grace clock rows (row.id + 1) none).ready := by
        intro past
        rcases here with rfl | readyLater
        · omega
        · exact readyLater
      simp only [examine] at member ⊢
      split
      · rename_i hole
        rw [if_pos hole] at member
        split
        · rename_i early
          rw [if_pos early] at member
          contradiction
        · rcases Nat.lt_trichotomy id row.id with before | same | past
          · refine .inr ⟨List.mem_append_left _ (List.mem_range'_1.mpr ⟨lower, by omega⟩), ?_⟩
            intro listed
            obtain ⟨other, found, rfl⟩ := List.mem_map.mp listed
            rcases List.mem_cons.mp found with rfl | found
            · omega
            · have := below other found
              omega
          · exact .inl (by simp [same])
          · rcases later (notBeyond past) past with published | skipped
            · exact .inl (List.mem_cons_of_mem _ published)
            · exact .inr ⟨List.mem_append_right _ skipped.1, skipped.2⟩
      · rename_i contiguous
        have first : row.id = expected := by simpa using contiguous
        rcases Nat.lt_trichotomy id row.id with before | same | past
        · omega
        · exact .inl (by simp [same])
        · rcases later (notBeyond past) past with published | skipped
          · exact .inl (List.mem_cons_of_mem _ published)
          · exact .inr skipped

end Examine

/-- The id was acknowledged with its row, or a pass declared it a gap it had not read. -/
def Accounted (system : System) (id : Nat) : Prop :=
  (∃ scan ∈ system.scans, scan.id = id ∧ scan.event ∈ system.acknowledged) ∨
    ∃ pass ∈ system.passes, id ∈ pass.skipped ∧ id ∉ pass.rows.map Scan.id

def Covered (system : System) (position : Nat) : Prop :=
  ∀ id, 0 < id → id ≤ position → Accounted system id

def SavedCovered (system : System) (saved : Option (Nat × Token)) : Prop :=
  ∀ position token, saved = some (position, token) → Covered system position

/-- A batch being published: once all of it is acknowledged, its last id is accounted for. -/
structure BatchCovered (system : System) (ready remaining : List Scan) (lost : Bool) : Prop where
  committed : ∀ row ∈ ready, row ∈ system.scans
  stored : lost = false → ∀ row ∈ ready, row ∈ remaining ∨ ∃ log, (log, row.event) ∈ system.topic
  accounts : ∀ last ∈ ready, ∀ id, 0 < id → id ≤ last.id →
    id ∈ ready.map Scan.id ∨ Accounted system id

def PhaseCovered (system : System) : Phase → Prop
  | .idle => True
  | .gotState saved => SavedCovered system saved
  | .gotToken saved _ => SavedCovered system saved
  | .initialising _ => True
  | .announcing _ _ => True
  | .publishing _ _ ready remaining lost => BatchCovered system ready remaining lost
  | .saving position _ _ => Covered system position

/-- A pass publishes in strictly ascending order, above the position it read. -/
def Pass.Ascending (pass : Pass) : Prop :=
  pass.published.Pairwise (fun left right => left.id < right.id) ∧
    ∀ scan ∈ pass.published, pass.position < scan.id

structure Sound (system : System) : Prop where
  distinct : (system.scans.map Scan.id).Nodup
  positive : ∀ scan ∈ system.scans, 0 < scan.id
  onTopic : ∀ event ∈ system.acknowledged, ∃ log, (log, event) ∈ system.topic
  saved : SavedCovered system system.relayState
  phases : ∀ id relay, system.relays.lookup id = some relay → PhaseCovered system relay.phase
  passes : ∀ pass ∈ system.passes, pass.Ascending

/-- Nothing committed, published or declared is taken back. -/
structure Extends (before after : System) : Prop where
  scans : before.scans ⊆ after.scans
  topic : before.topic ⊆ after.topic
  acknowledged : before.acknowledged ⊆ after.acknowledged
  passes : before.passes ⊆ after.passes

section Extends

variable {before after : System}

theorem Accounted.mono (extended : Extends before after) {id : Nat} (accounted : Accounted before id) :
    Accounted after id := by
  rcases accounted with ⟨scan, committed, same, acknowledged⟩ | ⟨pass, declared, skipped⟩
  · exact .inl ⟨scan, extended.scans committed, same, extended.acknowledged acknowledged⟩
  · exact .inr ⟨pass, extended.passes declared, skipped⟩

theorem Covered.mono (extended : Extends before after) {position : Nat}
    (covered : Covered before position) : Covered after position :=
  fun id positive below => (covered id positive below).mono extended

theorem SavedCovered.mono (extended : Extends before after) {saved : Option (Nat × Token)}
    (covered : SavedCovered before saved) : SavedCovered after saved :=
  fun position token found => (covered position token found).mono extended

theorem BatchCovered.mono (extended : Extends before after) {ready remaining : List Scan} {lost : Bool}
    (covered : BatchCovered before ready remaining lost) :
    BatchCovered after ready remaining lost where
  committed row member := extended.scans (covered.committed row member)
  stored kept row member := by
    rcases covered.stored kept row member with waiting | ⟨log, stored⟩
    · exact .inl waiting
    · exact .inr ⟨log, extended.topic stored⟩
  accounts last member id positive below :=
    (covered.accounts last member id positive below).imp_right (fun found => found.mono extended)

theorem PhaseCovered.mono (extended : Extends before after) {phase : Phase}
    (covered : PhaseCovered before phase) : PhaseCovered after phase := by
  cases phase with
  | idle => trivial
  | gotState saved => exact SavedCovered.mono extended covered
  | gotToken saved token => exact SavedCovered.mono extended covered
  | initialising token => trivial
  | announcing token stored => trivial
  | publishing token log ready remaining lost => exact BatchCovered.mono extended covered
  | saving position token announced => exact Covered.mono extended covered

end Extends

theorem covered_zero (system : System) : Covered system 0 := by
  intro id positive below
  omega

namespace Sound

variable {system : System}

theorem initial (token : Token) : Sound (Relay.initial token) where
  distinct := List.nodup_nil
  positive _ member := by contradiction
  onTopic _ member := by contradiction
  saved _ _ found := by contradiction
  phases _ _ found := by contradiction
  passes _ member := by contradiction

/-- Other instances, with what they rely on, stay as they are. -/
theorem setRelays (sound : Sound system) {relays : Table RelayId ScanRelay}
    (phases : ∀ id relay, relays.lookup id = some relay → PhaseCovered system relay.phase) :
    Sound { system with relays } where
  distinct := sound.distinct
  positive := sound.positive
  onTopic := sound.onTopic
  saved := sound.saved
  phases id relay found := by
    have same : Extends system { system with relays } := ⟨fun _ member => member,
      fun _ member => member, fun _ member => member, fun _ member => member⟩
    exact (phases id relay found).mono same
  passes := sound.passes

theorem turn (sound : Sound system) (id : RelayId) {relay : ScanRelay}
    (own : PhaseCovered system relay.phase) : Sound (system.setRelay id relay) := by
  apply sound.setRelays
  intro other next found
  rw [Table.lookup_put] at found
  split at found
  · cases found
    exact own
  · exact sound.phases other next found

theorem dropped (sound : Sound system) (id : RelayId) : Sound (system.dropRelay id) := by
  apply sound.setRelays
  intro other next found
  rw [Table.lookup_erase] at found
  split at found
  · contradiction
  · exact sound.phases other next found

/-- Growth of the log, the topic or the records keeps what was accounted for. -/
theorem extend (sound : Sound system) {after : System} (extended : Extends system after)
    (relays : after.relays = system.relays) (saved : after.relayState = system.relayState)
    (distinct : (after.scans.map Scan.id).Nodup) (positive : ∀ scan ∈ after.scans, 0 < scan.id)
    (onTopic : ∀ event ∈ after.acknowledged, ∃ log, (log, event) ∈ after.topic)
    (passes : ∀ pass ∈ after.passes, pass.Ascending) : Sound after where
  distinct := distinct
  positive := positive
  onTopic := onTopic
  saved := by
    rw [saved]
    exact sound.saved.mono extended
  phases id relay found := by
    rw [relays] at found
    exact (sound.phases id relay found).mono extended
  passes := passes

theorem commit (sound : Sound system) {scan : Scan} (positive : 0 < scan.id)
    (fresh : scan.id ∉ system.scans.map Scan.id) :
    Sound { system with scans := system.scans ++ [scan] } := by
  refine sound.extend ⟨List.subset_append_left _ _, fun _ member => member, fun _ member => member,
      fun _ member => member⟩ rfl rfl ?_ ?_ sound.onTopic sound.passes
  · rw [List.map_append, List.nodup_append]
    refine ⟨sound.distinct, List.nodup_singleton _, ?_⟩
    intro id member other last
    rw [List.map_singleton, List.mem_singleton] at last
    intro same
    rw [last] at same
    exact fresh (same ▸ member)
  · intro other member
    rcases List.mem_append.mp member with old | new
    · exact sound.positive other old
    · rw [List.mem_singleton.mp new]
      exact positive

theorem stored (sound : Sound system) (record : Token × Event) :
    Sound { system with topic := system.topic ++ [record] } := by
  refine sound.extend ⟨fun _ member => member, List.subset_append_left _ _, fun _ member => member,
      fun _ member => member⟩ rfl rfl sound.distinct sound.positive ?_ sound.passes
  intro event member
  obtain ⟨log, found⟩ := sound.onTopic event member
  exact ⟨log, List.mem_append_left _ found⟩

theorem keepPosition (sound : Sound system) {position : Nat} (token : Token)
    (covered : Covered system position) :
    Sound { system with relayState := some (position, token) } where
  distinct := sound.distinct
  positive := sound.positive
  onTopic := sound.onTopic
  saved _ _ found := by
    cases found
    exact covered
  phases id relay found := by
    have same : Extends system { system with relayState := some (position, token) } :=
      ⟨fun _ member => member, fun _ member => member, fun _ member => member,
        fun _ member => member⟩
    exact (sound.phases id relay found).mono same
  passes := sound.passes

theorem readBatch (sound : Sound system) {clock : Nat → Time} {id : RelayId} {relay : ScanRelay}
    {position : Nat} {token : Token} (covered : Covered system position) :
    Sound (Relay.readBatch grace clock system id relay position token) := by
  have ascending := relayBatch_ascending sound.distinct position batchSize
  have above : ∀ row ∈ relayBatch system.scans position batchSize, position + 1 ≤ row.id :=
    fun row member => (mem_relayBatch member).2
  have isPrefix := @ready_of_examine grace clock
    (relayBatch system.scans position batchSize) (position + 1) relay.gap
  generalize whole : examine grace clock (relayBatch system.scans position batchSize)
    (position + 1) relay.gap = examined at isPrefix
  simp only [Relay.readBatch, whole]
  have pass : Pass.Ascending
      { position, rows := relayBatch system.scans position batchSize, published := examined.ready,
        skipped := examined.skipped } :=
    ⟨ascending.sublist isPrefix.sublist, fun scan member => above scan (isPrefix.subset member)⟩
  have extended : Sound
      { system with
        passes := system.passes ++
          [{ position, rows := relayBatch system.scans position batchSize,
             published := examined.ready, skipped := examined.skipped }] } := by
    refine sound.extend ⟨fun _ member => member, fun _ member => member, fun _ member => member,
      List.subset_append_left _ _⟩ rfl rfl sound.distinct sound.positive sound.onTopic ?_
    intro other member
    rcases List.mem_append.mp member with old | new
    · exact sound.passes other old
    · rw [List.mem_singleton.mp new]
      exact pass
  apply extended.turn
  split
  · trivial
  · refine ⟨fun row member => (mem_relayBatch (isPrefix.subset member)).1,
      fun _ row member => .inl member, ?_⟩
    intro last member number positive below
    by_cases earlier : number ≤ position
    · right
      refine (covered number positive earlier).mono ?_
      exact ⟨fun _ found => found, fun _ found => found, fun _ found => found,
        List.subset_append_left _ _⟩
    · have ready : last ∈ (examine grace clock (relayBatch system.scans position batchSize)
          (position + 1) relay.gap).ready := by
        rw [whole]
        exact member
      have lower : position + 1 ≤ number := by omega
      have accounts := examine_accounts ascending above relay.gap ready lower below
      rw [whole] at accounts
      rcases accounts with published | skipped
      · exact .inl published
      · exact .inr (.inr ⟨_, List.mem_append_right _ List.mem_cons_self, skipped⟩)

theorem acknowledged (sound : Sound system) {id : RelayId} {relay : ScanRelay} {after : System}
    (covered : PhaseCovered system relay.phase)
    (acked : Relay.acknowledge system id relay = some after) : Sound after := by
  unfold Relay.acknowledge at acked
  split at acked
  · cases acked
    exact sound.turn id (covered_zero system)
  · rename_i token log ready phase
    obtain ⟨last, found, rfl⟩ := Option.map_eq_some_iff.mp acked
    rw [phase] at covered
    have onTopic : ∀ row ∈ ready, ∃ log, (log, row.event) ∈ system.topic :=
      fun row member => (covered.stored rfl row member).resolve_left List.not_mem_nil
    have extension : Extends system
        { system with acknowledged := system.acknowledged ++ ready.map Scan.event } :=
      ⟨fun _ member => member, fun _ member => member, List.subset_append_left _ _,
        fun _ member => member⟩
    have extended : Sound
        { system with acknowledged := system.acknowledged ++ ready.map Scan.event } := by
      refine sound.extend extension rfl rfl sound.distinct sound.positive ?_ sound.passes
      intro event member
      rcases List.mem_append.mp member with old | new
      · exact sound.onTopic event old
      · obtain ⟨row, listed, rfl⟩ := List.mem_map.mp new
        exact onTopic row listed
    apply extended.turn
    intro number positive below
    rcases covered.accounts last (List.mem_of_getLast? found) number positive below with
      published | accounted
    · obtain ⟨row, listed, rfl⟩ := List.mem_map.mp published
      exact .inl ⟨row, covered.committed row listed, rfl,
        List.mem_append_right _ (List.mem_map_of_mem listed)⟩
    · exact accounted.mono extension
  · contradiction

end Sound

/-- The scan log is not replaced. -/
def FixedLog (_ : System) : Label → Prop
  | .replace _ => False
  | _ => True

instance (system : System) : ∀ label, Decidable (FixedLog system label)
  | .replace _ => inferInstanceAs (Decidable False)
  | .commit _ | .start _ | .crash _ | .fail _ | .readState _ | .readToken _ | .branch _ _
  | .store _ | .lose _ | .acknowledge _ | .save _ => inferInstanceAs (Decidable True)

theorem Sound.save {system after : System} (sound : Sound system) {id : RelayId} {relay : ScanRelay}
    (covered : PhaseCovered system relay.phase) (saved : Relay.save system id relay = some after) :
    Sound after := by
  unfold Relay.save at saved
  split at saved
  · cases saved
    exact (sound.keepPosition _ (covered_zero system)).turn id trivial
  · rename_i phase
    cases saved
    rw [phase] at covered
    exact (sound.keepPosition _ covered).turn id trivial
  · contradiction

theorem Sound.store {system after : System} (sound : Sound system) {id : RelayId} {relay : ScanRelay}
    (covered : PhaseCovered system relay.phase) (stored : Relay.store system id relay = some after) :
    Sound after := by
  unfold Relay.store at stored
  split at stored
  · cases stored
    exact (sound.stored _).turn id trivial
  · rename_i token log ready row remaining lost phase
    cases stored
    rw [phase] at covered
    apply (sound.stored _).turn id
    refine ⟨covered.committed, ?_, ?_⟩
    · intro kept other member
      rcases covered.stored kept other member with waiting | ⟨earlier, found⟩
      · rcases List.mem_cons.mp waiting with rfl | later
        · exact .inr ⟨log, List.mem_append_right _ List.mem_cons_self⟩
        · exact .inl later
      · exact .inr ⟨earlier, List.mem_append_left _ found⟩
    · exact covered.accounts
  · contradiction

theorem Sound.lose {system after : System} (sound : Sound system) {id : RelayId} {relay : ScanRelay}
    (covered : PhaseCovered system relay.phase) (lost : Relay.lose system id relay = some after) :
    Sound after := by
  unfold Relay.lose at lost
  split at lost
  · rename_i phase
    cases lost
    rw [phase] at covered
    exact sound.turn id ⟨covered.committed, fun kept => by contradiction, covered.accounts⟩
  · contradiction

theorem Sound.branch {system : System} (sound : Sound system) {clock : Nat → Time} {id : RelayId}
    {relay : ScanRelay} {saved : Option (Nat × Token)} (token : Token)
    (covered : SavedCovered system saved) :
    Sound (Relay.branch grace clock system id relay saved token) := by
  unfold Relay.branch
  split
  · exact sound.turn id trivial
  · split
    · exact sound.readBatch (covered _ _ rfl)
    · exact sound.turn id trivial

/-- Step lemma: every step but a replacement of the log keeps what is accounted for. -/
theorem Sound.step {system after : System} {label : Label} (sound : Sound system)
    (fixed : FixedLog system label) (taken : Relay.step grace system label = some after) :
    Sound after := by
  cases label with
  | commit scan =>
      simp only [Relay.step] at taken
      split at taken
      · rename_i new
        cases taken
        exact sound.commit new.1 new.2
      · contradiction
  | replace keepsState => exact fixed.elim
  | start id =>
      simp only [Relay.step] at taken
      split at taken
      · cases taken
        exact sound.turn id trivial
      · contradiction
  | crash id =>
      simp only [Relay.step] at taken
      split at taken
      · contradiction
      · cases taken
        exact sound.dropped id
  | fail id =>
      simp only [Relay.step] at taken
      split at taken
      · contradiction
      · cases taken
        exact sound.turn id trivial
  | readState id =>
      simp only [Relay.step] at taken
      split at taken
      · cases taken
        exact sound.turn id sound.saved
      · contradiction
  | readToken id =>
      simp only [Relay.step] at taken
      split at taken
      · rename_i gap saved found
        cases taken
        have covered : SavedCovered system saved := sound.phases id _ found
        exact sound.turn id covered
      · contradiction
  | branch id clock =>
      simp only [Relay.step] at taken
      split at taken
      · rename_i gap saved token found
        cases taken
        exact sound.branch token (sound.phases id _ found)
      · contradiction
  | store id =>
      obtain ⟨relay, found, stored⟩ := Option.bind_eq_some_iff.mp taken
      exact sound.store (sound.phases id relay found) stored
  | lose id =>
      obtain ⟨relay, found, lost⟩ := Option.bind_eq_some_iff.mp taken
      exact sound.lose (sound.phases id relay found) lost
  | acknowledge id =>
      obtain ⟨relay, found, acked⟩ := Option.bind_eq_some_iff.mp taken
      exact sound.acknowledged (sound.phases id relay found) acked
  | save id =>
      obtain ⟨relay, found, saved⟩ := Option.bind_eq_some_iff.mp taken
      exact sound.save (sound.phases id relay found) saved

theorem sound_of_run {grace : Time} {token : Token} {labels : List Label} {system : System}
    (run : Run (step grace) FixedLog (initial token) labels system) : Sound system :=
  run.invariant (Sound.initial token) (fun _ _ _ sound fixed taken => sound.step fixed taken)

/-- What became of a scan that the saved position has passed. -/
theorem Sound.delivered {system : System} (sound : Sound system) {position : Nat} {saved : Token}
    (found : system.relayState = some (position, saved)) {scan : Scan}
    (committed : scan ∈ system.scans) (below : scan.id ≤ position) :
    (scan.event ∈ system.acknowledged ∧ ∃ log, (log, scan.event) ∈ system.topic) ∨
      ∃ pass ∈ system.passes, scan.id ∈ pass.skipped ∧ scan.id ∉ pass.rows.map Scan.id := by
  rcases sound.saved position saved found scan.id (sound.positive scan committed) below with
    ⟨other, listed, same, acknowledged⟩ | skipped
  · have equal : other = scan := List.inj_on_of_nodup_map sound.distinct listed committed same
    rw [equal] at acknowledged
    exact .inl ⟨acknowledged, sound.onTopic _ acknowledged⟩
  · exact .inr skipped

/-- The relay loses no committed scan.  With any number of instances, whatever fails or
crashes: a committed scan up to the saved position was acknowledged, on the topic, with
its transaction and SKU, or a pass declared it a gap without having read it; and each
pass publishes in strictly increasing order, above the position it read. -/
theorem relay_loses_no_scan (grace : Time) (token : Token) (labels : List Label) (system : System)
    (run : Run (step grace) FixedLog (initial token) labels system) :
    (∀ position token, system.relayState = some (position, token) →
      ∀ scan ∈ system.scans, scan.id ≤ position →
        (scan.event ∈ system.acknowledged ∧ ∃ log, (log, scan.event) ∈ system.topic) ∨
          ∃ pass ∈ system.passes, scan.id ∈ pass.skipped ∧ scan.id ∉ pass.rows.map Scan.id) ∧
    ∀ pass ∈ system.passes,
      pass.published.Pairwise (fun left right => left.id < right.id) ∧
        ∀ scan ∈ pass.published, pass.position < scan.id := by
  have sound := sound_of_run run
  exact ⟨fun _ _ found _ committed below => sound.delivered found committed below, sound.passes⟩

/-- Instance 0 publishes scan 1 and stalls before it saves; instance 1 publishes scan 1 again,
waits for the hole at 2, declares it a gap and publishes scan 3; then scan 2 commits. -/
def twoRelays : List Label :=
  [.start 0, .readState 0, .readToken 0, .branch 0 id, .save 0, .commit ⟨1, 1, "SKU-000001"⟩,
    .commit ⟨3, 2, "SKU-000002"⟩, .readState 0, .readToken 0, .branch 0 (fun _ => 0), .store 0,
    .acknowledge 0, .start 1, .readState 1, .readToken 1, .branch 1 (fun _ => 0), .store 1,
    .acknowledge 1, .save 1, .readState 1, .readToken 1, .branch 1 (fun _ => 9), .store 1,
    .acknowledge 1, .save 1, .commit ⟨2, 1, "SKU-000003"⟩]

theorem twoRelays_runs :
    (twoRelays.foldlM (guarded (step 5) FixedLog) (initial 1)).isSome = true := by
  decide +kernel

theorem relay_loses_no_scan_twoRelays :
    let system := (twoRelays.foldlM (guarded (step 5) FixedLog) (initial 1)).get twoRelays_runs
    system.relayState = some (3, 1) ∧
      ((Scan.event ⟨2, 1, "SKU-000003"⟩ ∈ system.acknowledged ∧
          ∃ log, (log, Scan.event ⟨2, 1, "SKU-000003"⟩) ∈ system.topic) ∨
        ∃ pass ∈ system.passes, 2 ∈ pass.skipped ∧ 2 ∉ pass.rows.map Scan.id) := by
  have saved : ((twoRelays.foldlM (guarded (step 5) FixedLog) (initial 1)).get
      twoRelays_runs).relayState = some (3, 1) := by
    decide +kernel
  exact ⟨saved, (relay_loses_no_scan 5 1 twoRelays _
    (.of_guarded (Option.some_get twoRelays_runs).symm)).1 3 1 saved ⟨2, 1, "SKU-000003"⟩
      (by decide +kernel) (by decide)⟩

end SelfCheckout.Relay
