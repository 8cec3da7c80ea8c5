import SelfCheckout.Relay.Pass

namespace SelfCheckout.Relay

open SelfCheckout.Data

/-! # Incarnations of the scan log on the topic

The relay announces a replaced log by its token.  A token a pass relies on, or the
saved position stands under, is safe: it has been announced where it had to be, and
no pass still holds unpublished rows of an older log.
-/

variable {grace : Time}

def Event.isScan : Event → Bool
  | .scanRecorded _ _ _ => true
  | .scanLogReset _ => false

/-- A scan of this log stands at the offset. -/
def ScanAt (topic : List (Token × Event)) (offset : Nat) (log : Nat) : Prop :=
  ∃ event, topic[offset]? = some (log, event) ∧ event.isScan = true

/-- The reset that names this log stands at the offset. -/
def ResetAt (topic : List (Token × Event)) (offset : Nat) (log : Nat) : Prop :=
  topic[offset]? = some (log, .scanLogReset log)

/-- Where scans of two logs follow one another, a reset that names the later one's log
stands between them, and no scan of the earlier one's log comes after it. -/
def LogsSeparated (topic : List (Token × Event)) : Prop :=
  ∀ earlier later first second : Nat, earlier < later → ScanAt topic earlier first →
    ScanAt topic later second → first ≠ second →
    ∃ reset, earlier < reset ∧ reset < later ∧ ResetAt topic reset second ∧
      ∀ offset, reset < offset → ¬ ScanAt topic offset first

/-- From `start` on only scans of this log or a newer one follow, and a reset that names
it stands right before, unless that is the whole topic. -/
structure AnnouncedFrom (topic : List (Token × Event)) (log : Nat) (start : Nat) : Prop where
  reset : start = 0 ∨ ∃ offset, start = offset + 1 ∧ ResetAt topic offset log
  later : ∀ offset other : Nat, ScanAt topic offset other → start ≤ offset → log ≤ other

/-- The scans of this log come after its announcement, those before it are older. -/
def OpenedAt (topic : List (Token × Event)) (log : Nat) (start : Nat) : Prop :=
  AnnouncedFrom topic log start ∧ ∀ offset other : Nat, ScanAt topic offset other → offset < start →
    other < log

section Topic

variable {topic : List (Token × Event)}

theorem scanAt_append {record : Token × Event} {offset : Nat} {log : Nat} :
    ScanAt (topic ++ [record]) offset log ↔
      ScanAt topic offset log ∨
        (offset = topic.length ∧ record.1 = log ∧ record.2.isScan = true) := by
  unfold ScanAt
  rcases Nat.lt_trichotomy offset topic.length with inside | last | outside
  · rw [List.getElem?_append_left inside]
    constructor
    · exact .inl
    · intro either
      rcases either with old | new
      · exact old
      · omega
  · subst last
    simp only [List.getElem?_concat_length, Option.some.injEq, List.getElem?_eq_none (Nat.le_refl _)]
    constructor
    · intro found
      obtain ⟨event, rfl, scan⟩ := found
      exact .inr ⟨trivial, rfl, scan⟩
    · intro either
      rcases either with old | new
      · obtain ⟨event, absent, _⟩ := old
        contradiction
      · exact ⟨record.2, by rw [← new.2.1], new.2.2⟩
  · rw [List.getElem?_eq_none (by simp; omega), List.getElem?_eq_none (by omega)]
    constructor
    · intro found
      obtain ⟨event, absent, _⟩ := found
      contradiction
    · intro either
      rcases either with old | new
      · exact old
      · omega

theorem scanAt_append_reset {token log : Nat} {offset : Nat} :
    ScanAt (topic ++ [(token, .scanLogReset token)]) offset log ↔ ScanAt topic offset log := by
  simp [scanAt_append, Event.isScan]

theorem ResetAt.append {offset : Nat} {log : Nat} (reset : ResetAt topic offset log)
    (record : Token × Event) : ResetAt (topic ++ [record]) offset log := by
  have inside := (List.getElem?_eq_some_iff.mp reset).1
  unfold ResetAt
  rw [List.getElem?_append_left inside]
  exact reset

theorem ScanAt.inside {offset : Nat} {log : Nat} (scan : ScanAt topic offset log) :
    offset < topic.length := by
  obtain ⟨event, found, _⟩ := scan
  exact (List.getElem?_eq_some_iff.mp found).1

theorem ScanAt.ne_reset {offset reset : Nat} {log other : Nat} (scan : ScanAt topic offset log)
    (found : ResetAt topic reset other) : offset ≠ reset := by
  intro same
  obtain ⟨event, here, isScan⟩ := scan
  subst same
  cases here.symm.trans found
  contradiction

theorem AnnouncedFrom.append {log : Nat} {start : Nat} (announced : AnnouncedFrom topic log start)
    {record : Token × Event} (newer : record.2.isScan = true → log ≤ record.1) :
    AnnouncedFrom (topic ++ [record]) log start where
  reset := by
    rcases announced.reset with all | ⟨offset, next, reset⟩
    · exact .inl all
    · exact .inr ⟨offset, next, reset.append record⟩
  later offset other scan past := by
    rcases scanAt_append.mp scan with old | ⟨_, rfl, isScan⟩
    · exact announced.later offset other old past
    · exact newer isScan

theorem announcedFrom_reset (topic : List (Token × Event)) (token : Nat) :
    AnnouncedFrom (topic ++ [(token, .scanLogReset token)]) token (topic.length + 1) where
  reset := .inr ⟨topic.length, rfl, by simp [ResetAt]⟩
  later offset other scan past := by
    have inside := (scanAt_append_reset.mp scan).inside
    omega

theorem AnnouncedFrom.start_le {log : Nat} {start : Nat}
    (announced : AnnouncedFrom topic log start) : start ≤ topic.length := by
  rcases announced.reset with rfl | ⟨offset, rfl, reset⟩
  · exact Nat.zero_le _
  · exact (List.getElem?_eq_some_iff.mp reset).1

/-- A topic on which each log's scans were opened keeps the logs apart. -/
theorem logsSeparated_of_opened
    (opened : ∀ offset log, ScanAt topic offset log → ∃ start, OpenedAt topic log start) :
    LogsSeparated topic := by
  intro earlier later first second before firstScan secondScan different
  obtain ⟨start, announced, older⟩ := opened later second secondScan
  have afterStart : start ≤ later := by
    by_contra outside
    have less := older later second secondScan (by omega)
    omega
  by_cases crossed : earlier < start
  · have less := older earlier first firstScan crossed
    rcases announced.reset with all | ⟨reset, next, found⟩
    · omega
    · have apart := firstScan.ne_reset found
      refine ⟨reset, by omega, by omega, found, ?_⟩
      intro offset past again
      have newer := announced.later offset first again (by omega)
      omega
  · -- Both follow the announcement of the later one, so the earlier one is newer.
    have newer := announced.later earlier first firstScan (by omega)
    obtain ⟨firstStart, firstAnnounced, firstOlder⟩ := opened earlier first firstScan
    have past : firstStart ≤ earlier := by
      by_contra outside
      have less := firstOlder earlier first firstScan (by omega)
      omega
    have back := firstAnnounced.later later second secondScan (by omega)
    omega

end Topic

/-- The token a pass in this phase works under, once its log needs no announcement. -/
def Phase.relies : Phase → Option Nat
  | .idle => none
  | .gotState saved => saved.map Prod.snd
  | .gotToken saved _ => saved.map Prod.snd
  | .initialising _ => none
  | .announcing token stored => if stored then some token else none
  | .publishing token _ _ _ _ => some token
  | .saving _ token _ => some token

/-- The token a pass has read. -/
def Phase.read : Phase → Option Nat
  | .idle => none
  | .gotState _ => none
  | .gotToken _ token => some token
  | .initialising token => some token
  | .announcing token _ => some token
  | .publishing token _ _ _ _ => some token
  | .saving _ token _ => some token

/-- The log whose rows a pass still has to publish. -/
def Phase.unpublished : Phase → Option Nat
  | .publishing _ log _ (_ :: _) _ => some log
  | _ => none

/-- The rows a pass publishes are of the log whose token it read. -/
def Phase.Current : Phase → Prop
  | .publishing token log _ _ _ => token = log
  | _ => True

/-- No instance still has to publish rows of a log older than this one. -/
def NoneOlder (system : System) (token : Nat) : Prop :=
  ∀ row ∈ system.relays.rows, ∀ log ∈ row.2.phase.unpublished, token ≤ log

/-- The topic has no scan of a log older than this one. -/
def NoOlderScan (system : System) (token : Nat) : Prop :=
  ∀ record ∈ system.topic, record.2.isScan = true → token ≤ record.1

instance (system : System) (token : Nat) : Decidable (NoneOlder system token) :=
  inferInstanceAs (Decidable (∀ row ∈ system.relays.rows, ∀ log ∈ row.2.phase.unpublished,
    token ≤ log))

instance (system : System) (token : Nat) : Decidable (NoOlderScan system token) :=
  inferInstanceAs (Decidable (∀ record ∈ system.topic, record.2.isScan = true → token ≤ record.1))

/-- The steps that keep the logs apart.  A batch that holds rows is read from the log whose
token the pass read; when a reset reaches the topic, or a pass that found no saved
position saves one, no instance still has rows of an older log to publish; and in the
second case the topic has no scan of an older log either. -/
def keepsApart (system : System) : Label → Bool
  | .branch id _ =>
      match system.relays.lookup id with
      | some ⟨_, .gotToken (some (position, saved)) token⟩ =>
          decide (token = saved →
            token = system.token ∨ relayBatch system.scans position batchSize = [])
      | _ => true
  | .store id =>
      match system.relays.lookup id with
      | some ⟨_, .announcing token false⟩ => decide (NoneOlder system token)
      | _ => true
  | .save id =>
      match system.relays.lookup id with
      | some ⟨_, .initialising token⟩ =>
          decide (NoneOlder system token ∧ NoOlderScan system token)
      | _ => true
  | _ => true

def Orderly (system : System) (label : Label) : Prop := keepsApart system label = true

instance (system : System) (label : Label) : Decidable (Orderly system label) :=
  inferInstanceAs (Decidable (keepsApart system label = true))

theorem NoneOlder.le {system : System} {token : Nat} (older : NoneOlder system token) {id : RelayId}
    {relay : ScanRelay} {log : Nat} (present : system.relays.lookup id = some relay)
    (holds : relay.phase.unpublished = some log) : token ≤ log :=
  older _ (Table.lookup_eq_some.mp present) log holds

/-- A token that can be relied on. -/
structure Safe (system : System) (token : Nat) : Prop where
  bounded : token ≤ system.token
  alone : NoneOlder system token
  announced : ∃ start, AnnouncedFrom system.topic token start

structure Separated (system : System) : Prop where
  saved : ∀ position token, system.relayState = some (position, token) → Safe system token
  relies : ∀ id relay token, system.relays.lookup id = some relay → relay.phase.relies = some token →
    Safe system token
  read : ∀ id relay token, system.relays.lookup id = some relay → relay.phase.read = some token →
    token ≤ system.token
  current : ∀ id relay, system.relays.lookup id = some relay → relay.phase.Current
  scans : ∀ offset log, ScanAt system.topic offset log → log ≤ system.token ∧
    NoneOlder system log ∧ ∃ start, OpenedAt system.topic log start

namespace Separated

variable {system : System}

theorem initial (token : Nat) : Separated (Relay.initial token) where
  saved _ _ found := by contradiction
  relies _ _ _ found := by contradiction
  read _ _ _ found := by contradiction
  current _ _ found := by contradiction
  scans offset log scan := by
    obtain ⟨event, found, _⟩ := scan
    simp [Relay.initial] at found

/-- What a pass may turn into: it relies on a safe token, and the rows it takes are of
the newest log there is. -/
structure Turn (system : System) (phase : Phase) : Prop where
  relies : ∀ token, phase.relies = some token → Safe system token
  read : ∀ token, phase.read = some token → token ≤ system.token
  current : phase.Current
  newest : ∀ log, phase.unpublished = some log → ∀ token, Safe system token → token ≤ log
  scans : ∀ log, phase.unpublished = some log →
    ∀ offset other, ScanAt system.topic offset other → other ≤ log

/-- Instances change, each to what it may turn into or not at all. -/
theorem setRelays (separated : Separated system) {relays : Table RelayId ScanRelay}
    (turns : ∀ id relay, relays.lookup id = some relay →
      system.relays.lookup id = some relay ∨ Turn system relay.phase) :
    Separated { system with relays } := by
  have alone : ∀ token, NoneOlder system token →
      (∀ log, (∀ other, Safe system other → other ≤ log) →
        (∀ offset other, ScanAt system.topic offset other → other ≤ log) → token ≤ log) →
      NoneOlder { system with relays } token := by
    intro token older newest row member log holds
    rcases turns row.1 row.2 (Table.lookup_eq_some.mpr member) with same | turn
    · exact older.le same holds
    · exact newest log (turn.newest log holds) (turn.scans log holds)
  have safe : ∀ token, Safe system token → Safe { system with relays } token :=
    fun token known => ⟨known.bounded,
      alone token known.alone (fun log newest _ => newest token known), known.announced⟩
  constructor
  case saved => exact fun position token found => safe token (separated.saved position token found)
  case relies =>
    intro id relay token present relied
    rcases turns id relay present with same | turn
    · exact safe token (separated.relies id relay token same relied)
    · exact safe token (turn.relies token relied)
  case read =>
    intro id relay token present read
    rcases turns id relay present with same | turn
    · exact separated.read id relay token same read
    · exact turn.read token read
  case current =>
    intro id relay present
    rcases turns id relay present with same | turn
    · exact separated.current id relay same
    · exact turn.current
  case scans =>
    intro offset log scan
    obtain ⟨bounded, older, opened⟩ := separated.scans offset log scan
    exact ⟨bounded, alone log older (fun newest _ scans => scans offset log scan), opened⟩

theorem turn (separated : Separated system) (id : RelayId) {relay : ScanRelay}
    (turns : Turn system relay.phase) : Separated (system.setRelay id relay) := by
  apply separated.setRelays
  intro other found present
  rw [Table.lookup_put] at present
  split at present
  · cases present
    exact .inr turns
  · exact .inl present

theorem dropped (separated : Separated system) (id : RelayId) :
    Separated (system.dropRelay id) := by
  apply separated.setRelays
  intro other found present
  rw [Table.lookup_erase] at present
  split at present
  · contradiction
  · exact .inl present

/-- The topic grows by a record that takes nothing back. -/
theorem grow (separated : Separated system) {record : Token × Event}
    (newer : ∀ token, Safe system token → record.2.isScan = true → token ≤ record.1)
    (scans : ∀ offset log, ScanAt (system.topic ++ [record]) offset log →
      log ≤ system.token ∧ NoneOlder system log ∧
        ∃ start, OpenedAt (system.topic ++ [record]) log start) :
    Separated { system with topic := system.topic ++ [record] } := by
  have safe : ∀ token, Safe system token →
      Safe { system with topic := system.topic ++ [record] } token := by
    intro token known
    obtain ⟨start, announced⟩ := known.announced
    exact ⟨known.bounded, known.alone, start, announced.append (newer token known)⟩
  exact ⟨fun position token found => safe token (separated.saved position token found),
    fun other found token present relied =>
      safe token (separated.relies other found token present relied),
    separated.read, separated.current, scans⟩

theorem storeReset (separated : Separated system) (token : Nat) :
    Separated { system with topic := system.topic ++ [(token, .scanLogReset token)] } := by
  apply separated.grow
  · intro other known isScan
    contradiction
  · intro offset log scan
    rw [scanAt_append_reset] at scan
    obtain ⟨bounded, older, start, announced, before⟩ := separated.scans offset log scan
    refine ⟨bounded, older, start, announced.append (fun isScan => by contradiction), ?_⟩
    intro other earlier found crossed
    exact before other earlier (scanAt_append_reset.mp found) crossed

theorem storeScan (separated : Separated system) {log : Nat} {event : Event}
    (safe : Safe system log)
    (newest : ∀ token, Safe system token → token ≤ log)
    (scans : ∀ offset other, ScanAt system.topic offset other → other ≤ log) :
    Separated { system with topic := system.topic ++ [(log, event)] } := by
  apply separated.grow
  · exact fun token known _ => newest token known
  · intro offset other scan
    -- A log that has scans already was opened before; this one may be opened now.
    have opened : ∀ start, AnnouncedFrom system.topic log start →
        (∀ place number, ScanAt system.topic place number → place < start → number < log) →
        OpenedAt (system.topic ++ [(log, event)]) log start := by
      intro start announced before
      refine ⟨announced.append (fun _ => Nat.le_refl _), ?_⟩
      intro place number found crossed
      rcases scanAt_append.mp found with old | ⟨rfl, _, _⟩
      · exact before place number old crossed
      · have bound := announced.start_le
        omega
    by_cases fresh : other = log
    · subst fresh
      refine ⟨safe.bounded, safe.alone, ?_⟩
      by_cases present : ∃ place, ScanAt system.topic place other
      · obtain ⟨place, found⟩ := present
        obtain ⟨_, _, start, announced, before⟩ := separated.scans place other found
        exact ⟨start, opened start announced before⟩
      · obtain ⟨start, announced⟩ := safe.announced
        refine ⟨start, opened start announced ?_⟩
        intro place number found crossed
        have bound := scans place number found
        rcases Nat.lt_or_ge number other with less | greater
        · exact less
        · exact absurd ⟨place, Nat.le_antisymm bound greater ▸ found⟩ present
    · have old : ScanAt system.topic offset other := by
        rcases scanAt_append.mp scan with old | ⟨_, same, _⟩
        · exact old
        · exact absurd same.symm fresh
      obtain ⟨bounded, older, start, announced, before⟩ := separated.scans offset other old
      refine ⟨bounded, older, start, announced.append (fun _ => scans offset other old), ?_⟩
      intro place number found crossed
      rcases scanAt_append.mp found with earlier | ⟨rfl, _, _⟩
      · exact before place number earlier crossed
      · have bound := announced.start_le
        omega

/-- The rows, the acknowledgements and the records of passes do not matter here. -/
theorem frame (separated : Separated system) (scans : List Scan) (acknowledged : List Event)
    (passes : List Pass) : Separated { system with scans, acknowledged, passes } := by
  have safe : ∀ token, Safe system token →
      Safe { system with scans, acknowledged, passes } token :=
    fun token known => ⟨known.bounded, known.alone, known.announced⟩
  exact ⟨fun position token found => safe token (separated.saved position token found),
    fun other found token present relied =>
      safe token (separated.relies other found token present relied),
    separated.read, separated.current, separated.scans⟩

/-- A pass that has nothing to publish yet relies on what it did before, or on nothing. -/
theorem turn_of {phase : Phase} (relies : ∀ token, phase.relies = some token → Safe system token)
    (read : ∀ token, phase.read = some token → token ≤ system.token) (current : phase.Current)
    (nothing : phase.unpublished = none) : Turn system phase :=
  ⟨relies, read, current, fun log holds => by rw [nothing] at holds; contradiction,
    fun log holds => by rw [nothing] at holds; contradiction⟩

theorem turn_resting {phase : Phase} (relies : phase.relies = none) (read : phase.read = none)
    (current : phase.Current) (nothing : phase.unpublished = none) : Turn system phase :=
  turn_of (fun token relied => by rw [relies] at relied; contradiction)
    (fun token number => by rw [read] at number; contradiction) current nothing

/-- A pass that has rows left to publish may go on with them. -/
theorem turn_publishing (separated : Separated system) {id : RelayId} {relay : ScanRelay}
    (present : system.relays.lookup id = some relay) {token log : Nat} {ready remaining left : List Scan}
    {row : Scan} {lost after : Bool}
    (phase : relay.phase = .publishing token log ready (row :: remaining) lost) :
    Turn system (.publishing token log ready left after) := by
  have holds : relay.phase.unpublished = some log := by rw [phase]; rfl
  have newest : ∀ token, NoneOlder system token → token ≤ log :=
    fun token older => older.le present holds
  have same : ∀ number, (Phase.publishing token log ready left after).unpublished = some number →
      number = log := by
    intro number found
    cases left with
    | nil => contradiction
    | cons first rest => exact (Option.some.inj found).symm
  constructor
  case relies => exact fun other relied => separated.relies id relay other present (phase ▸ relied)
  case read => exact fun other read => separated.read id relay other present (phase ▸ read)
  case current =>
    have own := separated.current id relay present
    rw [phase] at own
    exact own
  case newest =>
    intro number found other safe
    rw [same number found]
    exact newest other safe.alone
  case scans =>
    intro number found offset other scan
    rw [same number found]
    exact newest other (separated.scans offset other scan).2.1

theorem savePosition (separated : Separated system) {position token : Nat} (safe : Safe system token) :
    Separated { system with relayState := some (position, token) } := by
  have kept : ∀ other, Safe system other →
      Safe { system with relayState := some (position, token) } other :=
    fun other known => ⟨known.bounded, known.alone, known.announced⟩
  refine ⟨?_, fun other found number present relied =>
    kept number (separated.relies other found number present relied), separated.read,
    separated.current, separated.scans⟩
  intro other number found
  cases found
  exact kept token safe

theorem replaced (separated : Separated system) (keepsState : Bool) :
    Separated { system with
      scans := []
      token := system.token + 1
      relayState := if keepsState then system.relayState else none } := by
  have safe : ∀ token, Safe system token → Safe { system with
      scans := []
      token := system.token + 1
      relayState := if keepsState then system.relayState else none } token :=
    fun token known => ⟨Nat.le_succ_of_le known.bounded, known.alone, known.announced⟩
  constructor
  case saved =>
    intro position token found
    cases keepsState with
    | true => exact safe token (separated.saved position token found)
    | false => contradiction
  case relies =>
    exact fun other found token present relied =>
      safe token (separated.relies other found token present relied)
  case read =>
    exact fun other found token present read =>
      Nat.le_succ_of_le (separated.read other found token present read)
  case current => exact separated.current
  case scans =>
    intro offset log scan
    obtain ⟨bounded, older, opened⟩ := separated.scans offset log scan
    exact ⟨Nat.le_succ_of_le bounded, older, opened⟩

theorem readBatch (separated : Separated system) {clock : Nat → Time} {id : RelayId}
    {relay : ScanRelay} {position token : Nat} (safe : Safe system token)
    (current : token = system.token ∨ relayBatch system.scans position batchSize = []) :
    Separated (Relay.readBatch grace clock system id relay position token) := by
  have newest : ∀ {ready : List Scan} log,
      (Phase.publishing token system.token ready ready false).unpublished = some log →
      log = system.token := by
    intro ready log holds
    cases ready with
    | nil => contradiction
    | cons first rest => exact (Option.some.inj holds).symm
  unfold Relay.readBatch
  apply (separated.frame system.scans system.acknowledged _).turn
  split
  · exact turn_resting rfl rfl trivial rfl
  · rename_i published
    constructor
    case relies =>
      intro other relied
      cases relied
      exact ⟨safe.bounded, safe.alone, safe.announced⟩
    case read =>
      intro other read
      cases read
      exact safe.bounded
    case current =>
      rcases current with same | empty
      · exact same
      · simp [empty, examine] at published
    case newest => exact fun log holds other known => newest log holds ▸ known.bounded
    case scans =>
      exact fun log holds offset other scan =>
        newest log holds ▸ (separated.scans offset other scan).1

end Separated

section Step

variable {system after : System} {id : RelayId} {relay : ScanRelay}

theorem Separated.branch (separated : Separated system) {clock : Nat → Time} {gap : Option (Nat × Time)}
    {saved : Option (Nat × Token)} {token : Token}
    (orderly : Orderly system (.branch id clock))
    (present : system.relays.lookup id = some ⟨gap, .gotToken saved token⟩) :
    Separated (Relay.branch grace clock system id ⟨gap, .gotToken saved token⟩ saved token) := by
  unfold Relay.branch
  split
  · refine separated.turn id (turn_of (fun _ none => by contradiction) ?_ trivial rfl)
    exact fun other read => separated.read id _ other present read
  · rename_i position savedToken
    split
    · rename_i same
      have current : token = system.token ∨ relayBatch system.scans position batchSize = [] := by
        simpa [Orderly, keepsApart, present, same] using orderly
      exact separated.readBatch (separated.relies id _ token present (by rw [same]; rfl)) current
    · refine separated.turn id (turn_of (fun _ none => by contradiction) ?_ trivial rfl)
      exact fun other read => separated.read id _ other present read

theorem Separated.store (separated : Separated system) (orderly : Orderly system (.store id))
    (present : system.relays.lookup id = some relay)
    (stored : Relay.store system id relay = some after) : Separated after := by
  unfold Relay.store at stored
  split at stored
  · rename_i token phase
    cases stored
    have alone : NoneOlder system token := by
      cases relay
      cases phase
      simpa [Orderly, keepsApart, present] using orderly
    have bounded := separated.read id relay token present (by rw [phase]; rfl)
    refine (separated.storeReset token).turn id (turn_of ?_ ?_ trivial rfl)
    · intro other relied
      cases relied
      exact ⟨bounded, alone, _, announcedFrom_reset system.topic token⟩
    · intro other read
      cases read
      exact bounded
  · rename_i token log ready row remaining lost phase
    cases stored
    have own := separated.current id relay present
    rw [phase] at own
    have safe := separated.relies id relay log present (by rw [phase]; exact congrArg some own)
    have newest : ∀ token, NoneOlder system token → token ≤ log :=
      fun token older => older.le present (by rw [phase]; rfl)
    have grown : Separated { system with topic := system.topic ++ [(log, row.event)] } :=
      separated.storeScan safe (fun other known => newest other known.alone)
        (fun offset other scan => newest other (separated.scans offset other scan).2.1)
    exact grown.turn id (grown.turn_publishing present phase)
  · contradiction

theorem Separated.lose (separated : Separated system)
    (present : system.relays.lookup id = some relay)
    (lost : Relay.lose system id relay = some after) : Separated after := by
  unfold Relay.lose at lost
  split at lost
  · rename_i token log ready row remaining before phase
    cases lost
    exact separated.turn id (separated.turn_publishing present phase)
  · contradiction

theorem Separated.acknowledge (separated : Separated system)
    (present : system.relays.lookup id = some relay)
    (acked : Relay.acknowledge system id relay = some after) : Separated after := by
  unfold Relay.acknowledge at acked
  split at acked
  · rename_i token phase
    cases acked
    refine separated.turn id (turn_of ?_ ?_ trivial rfl)
    · exact fun other relied => separated.relies id relay other present (phase ▸ relied)
    · exact fun other read => separated.read id relay other present (phase ▸ read)
  · rename_i token log ready phase
    obtain ⟨last, found, rfl⟩ := Option.map_eq_some_iff.mp acked
    refine (separated.frame system.scans _ system.passes).turn id (turn_of ?_ ?_ trivial rfl)
    · intro other relied
      have known := separated.relies id relay other present (phase ▸ relied)
      exact ⟨known.bounded, known.alone, known.announced⟩
    · exact fun other read => separated.read id relay other present (phase ▸ read)
  · contradiction

theorem Separated.save (separated : Separated system) (orderly : Orderly system (.save id))
    (present : system.relays.lookup id = some relay)
    (saved : Relay.save system id relay = some after) : Separated after := by
  unfold Relay.save at saved
  split at saved
  · rename_i token phase
    cases saved
    have ordered : NoneOlder system token ∧ NoOlderScan system token := by
      cases relay
      cases phase
      simpa [Orderly, keepsApart, present] using orderly
    obtain ⟨alone, first⟩ := ordered
    have safe : Safe system token :=
      ⟨separated.read id relay token present (by rw [phase]; rfl), alone, 0, .inl rfl,
        fun offset other scan _ => by
          obtain ⟨event, found, isScan⟩ := scan
          exact first _ (List.mem_of_getElem? found) isScan⟩
    exact (separated.savePosition safe).turn id (turn_resting rfl rfl trivial rfl)
  · rename_i position token announced phase
    cases saved
    have safe := separated.relies id relay token present (by rw [phase]; rfl)
    exact (separated.savePosition safe).turn id (turn_resting rfl rfl trivial rfl)
  · contradiction

/-- The step lemma. -/
theorem Separated.step {label : Label} (separated : Separated system)
    (orderly : Orderly system label) (taken : Relay.step grace system label = some after) :
    Separated after := by
  cases label with
  | commit scan =>
      simp only [Relay.step] at taken
      split at taken <;> cases taken
      exact separated.frame _ system.acknowledged system.passes
  | replace keepsState =>
      cases taken
      exact separated.replaced keepsState
  | start id =>
      simp only [Relay.step] at taken
      split at taken <;> cases taken
      exact separated.turn id (turn_resting rfl rfl trivial rfl)
  | crash id =>
      simp only [Relay.step] at taken
      split at taken <;> cases taken
      exact separated.dropped id
  | fail id =>
      simp only [Relay.step] at taken
      split at taken <;> cases taken
      exact separated.turn id (turn_resting rfl rfl trivial rfl)
  | readState id =>
      simp only [Relay.step] at taken
      split at taken <;> cases taken
      refine separated.turn id (turn_of ?_ (fun _ none => by contradiction) trivial rfl)
      intro token relied
      obtain ⟨⟨position, saved⟩, found, rfl⟩ := Option.map_eq_some_iff.mp relied
      exact separated.saved position saved found
  | readToken id =>
      simp only [Relay.step] at taken
      split at taken <;> cases taken
      rename_i gap saved present
      refine separated.turn id (turn_of ?_ ?_ trivial rfl)
      · exact fun token relied => separated.relies id _ token present relied
      · intro token read
        cases read
        exact Nat.le_refl _
  | branch id clock =>
      simp only [Relay.step] at taken
      split at taken
      · rename_i gap saved token present
        cases taken
        exact separated.branch orderly present
      · contradiction
  | store id =>
      obtain ⟨relay, present, stored⟩ := Option.bind_eq_some_iff.mp taken
      exact separated.store orderly present stored
  | lose id =>
      obtain ⟨relay, present, lost⟩ := Option.bind_eq_some_iff.mp taken
      exact separated.lose present lost
  | acknowledge id =>
      obtain ⟨relay, present, acked⟩ := Option.bind_eq_some_iff.mp taken
      exact separated.acknowledge present acked
  | save id =>
      obtain ⟨relay, present, saved⟩ := Option.bind_eq_some_iff.mp taken
      exact separated.save orderly present saved

end Step

def firstPass : List Label :=
  [.start 0, .readState 0, .readToken 0, .branch 0 id, .save 0]

def publishOne (scan : Scan) : List Label :=
  [.commit scan, .readState 0, .readToken 0, .branch 0 id, .store 0, .acknowledge 0, .save 0]

def replacedLog (keepsState : Bool) : List Label :=
  firstPass ++ publishOne ⟨1, 1, "SKU-000001"⟩ ++
    [.replace keepsState, .readState 0, .readToken 0, .branch 0 id] ++
    (if keepsState then [.store 0, .acknowledge 0] else []) ++ [.save 0] ++
    publishOne ⟨1, 1, "SKU-000009"⟩

theorem replacedLog_runs : ((replacedLog false).foldlM (step 0) (initial 1)).isSome = true := by
  decide

example : ((replacedLog true).foldlM (step 0) (initial 1)).map System.topic =
    some [(1, .scanRecorded 1 "tx-1" "SKU-000001"), (2, .scanLogReset 2),
      (2, .scanRecorded 1 "tx-1" "SKU-000009")] := by
  decide +kernel

theorem replacedLog_orderly :
    ((replacedLog true).foldlM (guarded (step 0) Orderly) (initial 1)).isSome = true := by
  decide +kernel

/-- Rows of the new log are read under the old token. -/
def lateBatch : List Label :=
  firstPass ++ publishOne ⟨1, 1, "SKU-000001"⟩ ++
    [.readState 0, .readToken 0, .replace true, .commit ⟨2, 1, "SKU-000009"⟩, .branch 0 id, .store 0]

/-- A leader that lost its lock publishes rows of the old log after the reset. -/
def staleLeader : List Label :=
  firstPass ++ [.commit ⟨1, 1, "SKU-000001"⟩, .readState 0, .readToken 0, .branch 0 id,
    .replace true, .start 1, .readState 1, .readToken 1, .branch 1 id, .store 1, .store 0]

example : (lateBatch.foldlM (step 0) (initial 1)).map System.topic =
    some [(1, .scanRecorded 1 "tx-1" "SKU-000001"), (2, .scanRecorded 2 "tx-1" "SKU-000009")] := by
  decide +kernel

example : (staleLeader.foldlM (step 0) (initial 1)).map System.topic =
    some [(2, .scanLogReset 2), (1, .scanRecorded 1 "tx-1" "SKU-000001")] := by
  decide +kernel

end SelfCheckout.Relay
