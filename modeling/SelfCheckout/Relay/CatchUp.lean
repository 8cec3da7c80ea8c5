import SelfCheckout.Relay.Grace

namespace SelfCheckout.Relay

open SelfCheckout.Data

/-! # The leader catches up

One relay leads, and its broker and database answer.  A pass that does not come too early
for the gap its predecessors found moves the position on, or finds the gap that the next such
pass skips, so what was committed is published after twice as many of them as it is ahead of
the position; and what the leader publishes ascends, so nothing is published twice.
-/

/-- Steps of a leader whose calls succeed, and what others do meanwhile: scans commit, and
instances that do not hold the lock come and go. -/
def Leads (id : RelayId) (_ : System) : Label → Prop
  | .commit _ | .start _ => True
  | .crash other => other ≠ id
  | .readState other | .readToken other | .branch other _ | .store other | .acknowledge other
  | .save other => other = id
  | .replace _ | .fail _ | .lose _ => False

/-- The loop of a pass that comes when the gap the leader knows of, if any, has waited out the
grace. -/
def Patient (grace : Time) (id : RelayId) (system : System) : Label → Prop
  | .branch other clock => other = id ∧ ∀ gap ∈ system.gapOf id, ∀ scan ∈ system.scans,
      gap.2 + grace ≤ clock scan.id
  | _ => False

instance (id : RelayId) (system : System) : ∀ label, Decidable (Leads id system label)
  | .commit _ | .start _ => .isTrue trivial
  | .crash _ => inferInstanceAs (Decidable (_ ≠ _))
  | .readState _ | .readToken _ | .branch _ _ | .store _ | .acknowledge _ | .save _ =>
      inferInstanceAs (Decidable (_ = _))
  | .replace _ | .fail _ | .lose _ => .isFalse (fun impossible => impossible)

instance (grace : Time) (id : RelayId) (system : System) :
    ∀ label, Decidable (Patient grace id system label)
  | .branch _ _ => inferInstanceAs (Decidable (_ = _ ∧ ∀ gap ∈ system.gapOf id, _))
  | .commit _ | .start _ | .crash _ | .readState _ | .readToken _ | .store _ | .acknowledge _
  | .save _ | .replace _ | .fail _ | .lose _ => .isFalse (fun impossible => impossible)

/-- What the position will be when the pass is over. -/
def Phase.head (saved : Nat) : Phase → Nat
  | .publishing _ _ ready _ _ => (ready.getLast?.map Scan.id).getD saved
  | .saving position _ _ => position
  | _ => saved

/-- At least the passes it takes for the head to reach a target. -/
def passesLeft (target head : Nat) (gap : Option (Nat × Time)) : Nat :=
  2 * (target - head) - if gap.map Prod.fst = some (head + 1) then 1 else 0

section Batch

variable {grace : Time} {clock : Nat → Time} {scans rows : List Scan}

/-- A batch that stops short of a committed scan is not empty. -/
theorem relayBatch_ne_nil {scan : Scan} {after limit : Nat} (committed : scan ∈ scans)
    (beyond : after < scan.id) (positive : 0 < limit) : relayBatch scans after limit ≠ [] := by
  have listed : scan ∈ (scans.filter (fun scan => decide (after < scan.id))).insertionSort
      (fun left right => left.id ≤ right.id) := by
    rw [(List.perm_insertionSort _ _).mem_iff, List.mem_filter]
    exact ⟨committed, decide_eq_true beyond⟩
  intro empty
  rw [relayBatch, List.take_eq_nil_iff] at empty
  rcases empty with zero | none
  · omega
  · rw [none] at listed
    contradiction

/-- A pass over a batch publishes of it, or leaves the gap before its first row; a patient one
finds that gap. -/
theorem examine_advances (grace : Time) (clock : Nat → Time) (row : Scan) (rows : List Scan)
    (expected : Nat) (gap : Option (Nat × Time)) :
    (examine grace clock (row :: rows) expected gap).ready ≠ [] ∨
      (examine grace clock (row :: rows) expected gap).gap.map Prod.fst = some expected ∧
        ((∀ found ∈ gap, found.2 + grace ≤ clock row.id) → gap.map Prod.fst ≠ some expected) := by
  simp only [examine]
  split
  · split
    · rename_i early
      right
      cases gap with
      | none => exact ⟨rfl, by simp⟩
      | some found =>
          obtain ⟨missing, since⟩ := found
          by_cases same : missing = expected
          · simp only [waiting, same, ne_eq, not_true_eq_false, ↓reduceIte] at early ⊢
            exact ⟨rfl, fun patient => absurd early (Nat.not_lt.mpr (patient _ rfl))⟩
          · exact ⟨by simp [waiting, same], fun _ => by simpa using same⟩
    · exact .inl (List.cons_ne_nil _ _)
  · exact .inl (List.cons_ne_nil _ _)

/-- What a pass lets through: the committed scans from the position up to the last of them. -/
structure Through (scans : List Scan) (position : Nat) (ready : List Scan) : Prop where
  ascending : ready.Pairwise (fun left right => left.id < right.id)
  beyond : ∀ row ∈ ready, row ∈ scans ∧ position < row.id
  whole : ∀ scan ∈ scans, position < scan.id → ∀ last ∈ ready, scan.id ≤ last.id → scan ∈ ready

theorem through_examine (distinct : (scans.map Scan.id).Nodup) (position limit : Nat)
    (gap : Option (Nat × Time)) :
    Through scans position
      (examine grace clock (relayBatch scans position limit) (position + 1) gap).ready := by
  have ascending := relayBatch_ascending distinct position limit
  obtain ⟨rest, split⟩ : (examine grace clock (relayBatch scans position limit) (position + 1)
    gap).ready <+: relayBatch scans position limit := ready_of_examine _ _ _
  have isRow : ∀ row ∈ (examine grace clock (relayBatch scans position limit) (position + 1)
      gap).ready, row ∈ relayBatch scans position limit := by
    intro row member
    rw [← split]
    exact List.mem_append_left _ member
  refine ⟨?_, fun row member => mem_relayBatch (isRow row member), ?_⟩
  · rw [← split] at ascending
    exact (List.pairwise_append.mp ascending).1
  · intro scan committed after last isLast below
    have listed : scan ∈ relayBatch scans position limit := by
      rcases Nat.lt_or_eq_of_le below with less | same
      · exact mem_relayBatch_of_below committed after (isRow last isLast) less
      · rw [List.inj_on_of_nodup_map distinct committed (mem_relayBatch (isRow last isLast)).1 same]
        exact isRow last isLast
    rw [← split] at listed ascending
    rcases List.mem_append.mp listed with ready | later
    · exact ready
    · have above := (List.pairwise_append.mp ascending).2.2 last isLast scan later
      omega

/-- With a scan to publish a pass publishes, or leaves a gap; a patient one finds that gap. -/
theorem examine_behind {scan : Scan} {position : Nat} {gap : Option (Nat × Time)}
    (committed : scan ∈ scans) (behind : position < scan.id) :
    (examine grace clock (relayBatch scans position batchSize) (position + 1) gap).ready ≠ [] ∨
      (examine grace clock (relayBatch scans position batchSize) (position + 1) gap).gap.map
          Prod.fst = some (position + 1) ∧
        ((∀ found ∈ gap, ∀ scan ∈ scans, found.2 + grace ≤ clock scan.id) →
          gap.map Prod.fst ≠ some (position + 1)) := by
  obtain ⟨row, rows, batch⟩ :=
    List.exists_cons_of_ne_nil (relayBatch_ne_nil committed behind (by decide : 0 < batchSize))
  have isRow : row ∈ relayBatch scans position batchSize := by
    rw [batch]
    exact List.mem_cons_self
  rw [batch]
  refine (examine_advances grace clock row rows (position + 1) gap).imp_right
    (fun left => ⟨left.1, fun patient => left.2 (fun found isGap => ?_)⟩)
  exact patient found isGap row (mem_relayBatch isRow).1

end Batch

/-- Where the leader is: what it knows of the state, and what it still has to publish. -/
def PhaseLeads (token : Token) (position : Nat) (pending : List Scan) : Phase → Prop
  | .idle => pending = []
  | .gotState saved => pending = [] ∧ saved = some (position, token)
  | .gotToken saved read => pending = [] ∧ saved = some (position, token) ∧ read = token
  | .publishing read log ready remaining lost =>
      pending = remaining ∧ read = token ∧ log = token ∧ lost = false ∧ ready ≠ [] ∧
        ∀ row ∈ ready, position < row.id
  | .saving _ read announced => pending = [] ∧ read = token ∧ announced = false
  | .initialising _ | .announcing _ _ => False

/-- A leader that found the state `base`, saved at `floor`, and has published since. -/
structure Leading (id : RelayId) (base : System) (floor position head : Nat)
    (gap : Option (Nat × Time)) (published pending : List Scan) (system : System) : Prop where
  distinct : (system.scans.map Scan.id).Nodup
  kept : base.scans ⊆ system.scans
  token : system.token = base.token
  saved : system.relayState = some (position, base.token)
  relay : ∃ phase, system.relays.lookup id = some ⟨gap, phase⟩ ∧
    PhaseLeads base.token position pending phase ∧ head = phase.head position
  topic : system.topic = base.topic ++ published.map (fun scan => (base.token, scan.event))
  reached : floor ≤ position
  ahead : position ≤ head
  ascending : (published ++ pending).Pairwise (fun left right => left.id < right.id)
  within : ∀ scan ∈ published ++ pending, scan ∈ system.scans ∧ floor < scan.id ∧ scan.id ≤ head
  covered : ∀ scan ∈ base.scans, floor < scan.id → scan.id ≤ head → scan ∈ published ++ pending

section Leading

variable {grace : Time} {id : RelayId} {base before after : System} {floor position head target : Nat}
  {gap : Option (Nat × Time)} {published pending : List Scan}

/-- A step of somebody else. -/
theorem Leading.others (leading : Leading id base floor position head gap published pending before)
    (distinct : (after.scans.map Scan.id).Nodup) (kept : before.scans ⊆ after.scans)
    (token : after.token = before.token) (saved : after.relayState = before.relayState)
    (relay : after.relays.lookup id = before.relays.lookup id) (topic : after.topic = before.topic) :
    Leading id base floor position head gap published pending after where
  distinct := distinct
  kept _ member := kept (leading.kept member)
  token := token.trans leading.token
  saved := saved.trans leading.saved
  relay := by
    rw [relay]
    exact leading.relay
  topic := topic.trans leading.topic
  reached := leading.reached
  ahead := leading.ahead
  ascending := leading.ascending
  within scan member := by
    obtain ⟨committed, bounds⟩ := leading.within scan member
    exact ⟨kept committed, bounds⟩
  covered := leading.covered

/-- A step of the leader within its pass: the same head, and nothing published. -/
theorem Leading.turn (leading : Leading id base floor position head gap published pending before)
    {found : Option (Nat × Time)} {phase : Phase} {passes : List Pass} {acknowledged : List Event}
    (leads : PhaseLeads base.token position pending phase) (sameHead : head = phase.head position) :
    Leading id base floor position head found published pending
      ({ before with passes, acknowledged }.setRelay id ⟨found, phase⟩) where
  distinct := leading.distinct
  kept := leading.kept
  token := leading.token
  saved := leading.saved
  relay := ⟨phase, Table.lookup_put_self _ _ _, leads, sameHead⟩
  topic := leading.topic
  reached := leading.reached
  ahead := leading.ahead
  ascending := leading.ascending
  within := leading.within
  covered := leading.covered

/-- What a pass lets through is pending, up to the new head. -/
theorem Leading.publishes
    (leading : Leading id base floor position position gap published [] before)
    {found : Option (Nat × Time)} {passes : List Pass} {ready : List Scan} {last : Scan}
    (through : Through before.scans position ready) (isLast : ready.getLast? = some last) :
    Leading id base floor position last.id found published ready
      ({ before with passes }.setRelay id
        ⟨found, .publishing base.token before.token ready ready false⟩) := by
  have some_ : ready ≠ [] := by
    rintro rfl
    contradiction
  have member : last ∈ ready := List.mem_of_getLast? isLast
  have upTo : ∀ row ∈ ready, row.id ≤ last.id := by
    intro row isRow
    obtain ⟨rows, split⟩ := List.getLast?_eq_some_iff.mp isLast
    have ascending := through.ascending
    rw [split] at isRow ascending
    rcases List.mem_append.mp isRow with earlier | same
    · exact Nat.le_of_lt ((List.pairwise_append.mp ascending).2.2 row earlier last (by simp))
    · rw [List.mem_singleton.mp same]
  have beyond := (through.beyond last member).2
  have within : ∀ scan ∈ published, scan ∈ before.scans ∧ floor < scan.id ∧ scan.id ≤ position := by
    simpa using leading.within
  have reached := leading.reached
  refine ⟨leading.distinct, leading.kept, leading.token, leading.saved, ?_, leading.topic, reached,
    Nat.le_of_lt beyond, ?_, ?_, ?_⟩
  · refine ⟨_, Table.lookup_put_self _ _ _, ⟨rfl, rfl, leading.token, rfl, some_,
      fun row isRow => (through.beyond row isRow).2⟩, ?_⟩
    simp [Phase.head, isLast]
  · rw [List.pairwise_append]
    refine ⟨by simpa using leading.ascending, through.ascending, fun old isOld row isRow => ?_⟩
    have below := (within old isOld).2.2
    have above := (through.beyond row isRow).2
    omega
  · intro scan isScan
    rcases List.mem_append.mp isScan with old | new
    · obtain ⟨committed, above, below⟩ := within scan old
      exact ⟨committed, above, by omega⟩
    · obtain ⟨committed, above⟩ := through.beyond scan new
      exact ⟨committed, by omega, upTo scan new⟩
  · intro scan committed above below
    by_cases old : scan.id ≤ position
    · exact List.mem_append_left _ (by simpa using leading.covered scan committed above old)
    · exact List.mem_append_right _
        (through.whole scan (leading.kept committed) (by omega) last member below)

/-- The loop over a batch: what it lets through is pending, up to the new head. -/
theorem Leading.readBatch (grace : Time)
    (leading : Leading id base floor position position gap published [] before) (clock : Nat → Time)
    (phase : Phase) :
    ∃ head gap' pending,
      Leading id base floor position head gap' published pending
        (Relay.readBatch grace clock before id ⟨gap, phase⟩ position base.token) ∧
      ∀ scan ∈ base.scans, position < scan.id → position < head ∨
        gap'.map Prod.fst = some (position + 1) ∧
          ((∀ found ∈ gap, ∀ scan ∈ before.scans, found.2 + grace ≤ clock scan.id) →
            gap.map Prod.fst ≠ some (position + 1)) := by
  have through : Through before.scans position (examine grace clock
    (relayBatch before.scans position batchSize) (position + 1) gap).ready :=
      through_examine leading.distinct position batchSize gap
  have behind : ∀ scan ∈ base.scans, position < scan.id → _ ∨ _ :=
    fun scan committed behind =>
      @examine_behind grace clock before.scans scan position gap (leading.kept committed) behind
  unfold Relay.readBatch
  simp only
  generalize examine grace clock (relayBatch before.scans position batchSize) (position + 1) gap =
    examined at through behind ⊢
  cases isLast : examined.ready.getLast? with
  | none =>
      have none_ : examined.ready = [] := List.getLast?_eq_none_iff.mp isLast
      rw [none_] at behind ⊢
      refine ⟨position, examined.gap, [], leading.turn rfl rfl, ?_⟩
      intro scan committed beyond
      rcases behind scan committed beyond with publishes | waits
      · contradiction
      · exact .inr waits
  | some last =>
      have some_ : examined.ready.isEmpty = false := by
        rw [List.isEmpty_eq_false_iff]
        intro none_
        rw [none_] at isLast
        contradiction
      rw [some_]
      refine ⟨last.id, examined.gap, examined.ready, leading.publishes through isLast, ?_⟩
      intro _ _ _
      exact .inl (through.beyond last (List.mem_of_getLast? isLast)).2

theorem Leading.store (leading : Leading id base floor position head gap published pending before)
    {phase : Phase} (leads : PhaseLeads base.token position pending phase)
    (sameHead : head = phase.head position)
    (stored : Relay.store before id ⟨gap, phase⟩ = some after) :
    ∃ published' pending', Leading id base floor position head gap published' pending' after := by
  unfold Relay.store at stored
  split at stored
  · rename_i token announcing
    simp only at announcing
    rw [announcing] at leads
    exact leads.elim
  · rename_i token log ready row remaining lost publishing
    simp only at publishing
    subst publishing
    obtain ⟨rfl, rfl, rfl, rfl, some_, beyond⟩ := leads
    cases stored
    have same : (published ++ [row]) ++ remaining = published ++ row :: remaining := by simp
    refine ⟨published ++ [row], remaining, leading.distinct, leading.kept, leading.token,
      leading.saved, ?_, ?_, leading.reached, leading.ahead, ?_, ?_, ?_⟩
    · exact ⟨_, Table.lookup_put_self _ _ _, ⟨rfl, rfl, rfl, rfl, some_, beyond⟩, sameHead⟩
    · show before.topic ++ [_] = _
      rw [leading.topic]
      simp
    · rw [same]
      exact leading.ascending
    · rw [same]
      exact leading.within
    · rw [same]
      exact leading.covered
  · contradiction

theorem Leading.acknowledge
    (leading : Leading id base floor position head gap published pending before)
    {phase : Phase} (leads : PhaseLeads base.token position pending phase)
    (sameHead : head = phase.head position)
    (acked : Relay.acknowledge before id ⟨gap, phase⟩ = some after) :
    Leading id base floor position head gap published pending after := by
  unfold Relay.acknowledge at acked
  split at acked
  · rename_i token announcing
    simp only at announcing
    rw [announcing] at leads
    exact leads.elim
  · rename_i token log ready publishing
    simp only at publishing
    subst publishing
    obtain ⟨rfl, rfl, -, -, -, -⟩ := leads
    obtain ⟨last, isLast, rfl⟩ := Option.map_eq_some_iff.mp acked
    refine leading.turn ⟨rfl, rfl, rfl⟩ ?_
    simpa [Phase.head, isLast] using sameHead
  · contradiction

/-- The position is saved: the pass is over. -/
theorem Leading.save (leading : Leading id base floor position head gap published pending before)
    {phase : Phase} (leads : PhaseLeads base.token position pending phase)
    (sameHead : head = phase.head position)
    (saved : Relay.save before id ⟨gap, phase⟩ = some after) :
    Leading id base floor head head gap published pending after := by
  unfold Relay.save at saved
  split at saved
  · rename_i token initialising
    simp only at initialising
    rw [initialising] at leads
    exact leads.elim
  · rename_i last token announced saving
    simp only at saving
    subst saving
    obtain ⟨rfl, rfl, rfl⟩ := leads
    cases saved
    have here : last = head := sameHead.symm
    subst here
    exact ⟨leading.distinct, leading.kept, leading.token, rfl,
      ⟨_, Table.lookup_put_self _ _ _, rfl, rfl⟩, leading.topic,
      leading.reached.trans leading.ahead, Nat.le_refl _, leading.ascending, leading.within,
      leading.covered⟩
  · contradiction

/-- The leader is as near to a scan as before, or nearer by the passes it ran. -/
def Nearer (base : System) (passes head : Nat) (gap : Option (Nat × Time)) (head' : Nat)
    (gap' : Option (Nat × Time)) : Prop :=
  head ≤ head' ∧ ∀ scan ∈ base.scans, scan.id ≤ head' ∨
    passesLeft scan.id head' gap' + passes ≤ passesLeft scan.id head gap

theorem Nearer.same (base : System) (head : Nat) (gap : Option (Nat × Time)) :
    Nearer base 0 head gap head gap :=
  ⟨Nat.le_refl _, fun _ _ => .inr (Nat.le_refl _)⟩

theorem Nearer.trans {passes more head' head'' : Nat} {gap' gap'' : Option (Nat × Time)}
    (first : Nearer base passes head gap head' gap')
    (second : Nearer base more head' gap' head'' gap'') :
    Nearer base (passes + more) head gap head'' gap'' := by
  refine ⟨first.1.trans second.1, fun scan committed => ?_⟩
  rcases second.2 scan committed with reached | nearer
  · exact .inl reached
  · rcases first.2 scan committed with reached | before
    · exact .inl (reached.trans second.1)
    · right
      omega

/-- A pass takes two off for every id it gets past, and a patient one takes one off for the
gap it found. -/
theorem Nearer.pass {head' : Nat} {gap' : Option (Nat × Time)} {patient : Prop} [Decidable patient]
    (ahead : head ≤ head')
    (advances : ∀ scan ∈ base.scans, head < scan.id → head < head' ∨
      gap'.map Prod.fst = some (head + 1) ∧ (patient → gap.map Prod.fst ≠ some (head + 1))) :
    Nearer base (if patient then 1 else 0) head gap head' gap' := by
  refine ⟨ahead, fun scan committed => ?_⟩
  by_cases reached : scan.id ≤ head'
  · exact .inl reached
  · right
    unfold passesLeft
    rcases Nat.lt_or_eq_of_le ahead with further | rfl
    · split <;> split <;> split <;> omega
    · rcases advances scan committed (by omega) with further | ⟨found, noGap⟩
      · omega
      · rw [if_pos found]
        by_cases waits : patient
        · rw [if_neg (noGap waits), if_pos waits]
          omega
        · rw [if_neg waits]
          split <;> omega

/-- Step lemma: a step of the leader, or of the others, keeps it leading. -/
theorem Leading.step {label : Label}
    (leading : Leading id base floor position head gap published pending before)
    (leads : Leads id before label) (taken : Relay.step grace before label = some after) :
    ∃ position' head' gap' published' pending',
      Leading id base floor position' head' gap' published' pending' after ∧
        Nearer base (if Patient grace id before label then 1 else 0) head gap head' gap' := by
  obtain ⟨phase, own, phaseLeads, sameHead⟩ := leading.relay
  cases label with
  | commit scan =>
      simp only [Relay.step] at taken
      split at taken
      · rename_i fresh
        cases taken
        refine ⟨_, _, _, _, _, leading.others ?_ (List.subset_append_left _ _) rfl rfl rfl rfl,
          .same base head gap⟩
        rw [List.map_append, List.map_singleton, ← List.concat_eq_append]
        exact leading.distinct.concat fresh.2
      · contradiction
  | replace keepsState => exact leads.elim
  | start other =>
      simp only [Relay.step] at taken
      split at taken
      · rename_i absent
        cases taken
        refine ⟨_, _, _, _, _, leading.others leading.distinct (fun _ member => member) rfl rfl ?_ rfl,
          .same base head gap⟩
        apply Table.lookup_put_of_ne
        rintro rfl
        rw [own] at absent
        contradiction
      · contradiction
  | crash other =>
      simp only [Relay.step] at taken
      split at taken
      · contradiction
      · cases taken
        refine ⟨_, _, _, _, _, leading.others leading.distinct (fun _ member => member) rfl rfl ?_ rfl,
          .same base head gap⟩
        have different : other ≠ id := leads
        show (before.relays.erase other).lookup id = _
        rw [Table.lookup_erase, if_neg different.symm]
  | fail other => exact leads.elim
  | readState other =>
      obtain rfl : other = id := leads
      simp only [Relay.step, own] at taken
      split at taken
      · rename_i idle
        cases idle
        cases taken
        exact ⟨_, _, _, _, _, leading.turn ⟨phaseLeads, leading.saved⟩ sameHead, .same base head gap⟩
      · contradiction
  | readToken other =>
      obtain rfl : other = id := leads
      simp only [Relay.step, own] at taken
      split at taken
      · rename_i gotState
        cases gotState
        cases taken
        exact ⟨_, _, _, _, _, leading.turn ⟨phaseLeads.1, phaseLeads.2, leading.token⟩ sameHead,
          .same base head gap⟩
      · contradiction
  | branch other clock =>
      obtain rfl : other = id := leads
      simp only [Relay.step, own] at taken
      split at taken
      · rename_i gotToken
        cases gotToken
        obtain ⟨rfl, rfl, rfl⟩ := phaseLeads
        cases taken
        obtain rfl : head = position := sameHead
        obtain ⟨head', gap', pending, after, advances⟩ :=
          leading.readBatch grace clock (.gotToken (some (head, base.token)) base.token)
        refine ⟨head, head', gap', published, pending, ?_, .pass after.ahead ?_⟩
        · rw [Relay.branch, if_pos rfl]
          exact after
        · refine fun scan committed behind => (advances scan committed behind).imp_right
            (fun waits => ⟨waits.1, fun patient => waits.2 (fun found isGap => ?_)⟩)
          exact patient.2 found (by simp [System.gapOf, own, isGap])
      · contradiction
  | store other =>
      obtain rfl : other = id := leads
      simp only [Relay.step, own, Option.bind_some] at taken
      obtain ⟨published', pending', after⟩ := leading.store phaseLeads sameHead taken
      exact ⟨_, _, _, _, _, after, .same base head gap⟩
  | lose other => exact leads.elim
  | acknowledge other =>
      obtain rfl : other = id := leads
      simp only [Relay.step, own, Option.bind_some] at taken
      exact ⟨_, _, _, _, _, leading.acknowledge phaseLeads sameHead taken, .same base head gap⟩
  | save other =>
      obtain rfl : other = id := leads
      simp only [Relay.step, own, Option.bind_some] at taken
      exact ⟨_, _, _, _, _, leading.save phaseLeads sameHead taken, .same base head gap⟩

/-- Run lemma. -/
theorem Leading.of_run {labels : List Label}
    (leading : Leading id base floor position head gap published pending before)
    (run : Run (Relay.step grace) (Leads id) before labels after) :
    ∃ position' head' gap' published' pending',
      Leading id base floor position' head' gap' published' pending' after ∧
        Nearer base (countSteps (Relay.step grace) (Patient grace id) before labels) head gap head' gap' := by
  induction run with
  | start => exact ⟨_, _, _, _, _, leading, .same base head gap⟩
  | snoc past leads taken ih =>
      obtain ⟨_, _, _, _, _, middle, nearer⟩ := ih
      obtain ⟨_, _, _, _, _, last, nearerStill⟩ := middle.step leads taken
      rw [past.countSteps_snoc]
      exact ⟨_, _, _, _, _, last, nearer.trans nearerStill⟩

end Leading

theorem distinct_of_run {grace : Time} {token : Token} {labels : List Label} {system : System}
    (run : Run (step grace) Any (initial token) labels system) :
    (system.scans.map Scan.id).Nodup := by
  induction run with
  | start => exact List.nodup_nil
  | snoc _ _ taken distinct =>
      rcases step_reads taken with unread | ⟨_, _, _, _, _, _, _, rfl⟩
      · exact unread.log.distinct distinct
      · exact distinct

def readPass (time : Time) : List Label :=
  [.readState 1, .readToken 1, .branch 1 (fun _ => time)]

def backlog : List Label :=
  [.start 1, .readState 1, .readToken 1, .branch 1 (fun _ => 0), .save 1,
    .commit ⟨1, 1, "SKU-000001"⟩, .commit ⟨3, 1, "SKU-000002"⟩, .commit ⟨5, 2, "SKU-000003"⟩]

def sixPasses : List Label :=
  readPass 10 ++ [.store 1, .start 2, .acknowledge 1, .save 1] ++ [.commit ⟨2, 2, "SKU-000004"⟩] ++
    readPass 20 ++ [.store 1, .store 1, .crash 2, .acknowledge 1, .save 1] ++ readPass 21 ++
    readPass 30 ++ [.store 1, .acknowledge 1, .save 1] ++ readPass 40 ++ readPass 50 ++ readPass 60

theorem backlog_runs : (backlog.foldlM (step 5) (initial 1)).isSome = true := by
  decide +kernel

theorem sixPasses_runs : (sixPasses.foldlM (guarded (step 5) (Leads 1))
    ((backlog.foldlM (step 5) (initial 1)).get backlog_runs)).isSome = true := by
  decide +kernel

end SelfCheckout.Relay
