import SelfCheckout.Analytics.Source

namespace SelfCheckout.Analytics

open SelfCheckout.Data

/-! # Repeats in the scan buffer

The relay publishes at least once, so a scan can come again at any later position
of the topic.  `_apply` recognises a repeat by the row it still holds; a repeat
whose row has been evicted is taken for a new scan.
-/

/-- A scan event as it arrives: one of the log, or a repeat of one before it. -/
inductive Arrival where
  | scan (data : ScanData)
  | repeated (data : ScanData)
deriving DecidableEq, Repr

def Arrival.data : Arrival → ScanData
  | .scan data => data
  | .repeated data => data

/-- The arrivals without the repeats. -/
def originals (arrivals : List Arrival) : List ScanData :=
  arrivals.filterMap (fun arrival =>
    match arrival with
    | .scan data => some data
    | .repeated _ => none)

/-- `held earlier data` at every repeat of `data` after the arrivals `earlier`. -/
def AtRepeats (held : List Arrival → ScanData → Prop) (arrivals : List Arrival) : Prop :=
  ∀ earlier data later, arrivals = earlier ++ .repeated data :: later → held earlier data

/-- Every repeat is of a scan that arrived before. -/
def Repeats : List Arrival → Prop :=
  AtRepeats (fun earlier data => data ∈ earlier.map Arrival.data)

namespace KafkaScanSource

/-- The buffer right after a reset. -/
def reset (caughtUp : Bool) (logId : Option String) : KafkaScanSource :=
  { rows := Table.empty, maxId := 0, caughtUp, logId }

def fill (keep : Nat) (source : KafkaScanSource) (scans : List ScanData) : KafkaScanSource :=
  scans.foldl (fun source data => source.apply keep (.scanRecorded data.scanId data.sku)) source

/-- The same rows, the same highest id and the same answer to every read. -/
def Same (left right : KafkaScanSource) : Prop :=
  (∀ id, left.rows.lookup id = right.rows.lookup id) ∧ left.maxId = right.maxId ∧
    ∀ after limit, left.read after limit = right.read after limit

end KafkaScanSource

/-- After every arrival the buffer is as without the repeats. -/
def RepeatsIgnored (keep : Nat) (start : KafkaScanSource) (arrivals : List Arrival) : Prop :=
  ∀ earlier, earlier <+: arrivals →
    (start.fill keep (earlier.map Arrival.data)).Same (start.fill keep (originals earlier))

/-- Every repeat comes while its scan is still held. -/
def RepeatsHeld (keep : Nat) (start : KafkaScanSource) : List Arrival → Prop :=
  AtRepeats (fun earlier data =>
    (start.fill keep (earlier.map Arrival.data)).rows.lookup data.scanId ≠ none)

/-- Every repeat is of one of the last `keep` scans of the log published before it. -/
def RepeatsRecent (keep : Nat) : List Arrival → Prop :=
  AtRepeats (fun earlier data =>
    data ∈ (originals earlier).drop ((originals earlier).length - keep))

section Arrivals

variable {held : List Arrival → ScanData → Prop} {arrivals : List Arrival} {data : ScanData}

@[simp] theorem originals_scan :
    originals (arrivals ++ [.scan data]) = originals arrivals ++ [data] := by
  simp [originals]

@[simp] theorem originals_repeated :
    originals (arrivals ++ [.repeated data]) = originals arrivals := by
  simp [originals]

theorem atRepeats_nil : AtRepeats held [] := by
  intro earlier data later same
  simp at same

theorem AtRepeats.before {later : List Arrival} (all : AtRepeats held (arrivals ++ later)) :
    AtRepeats held arrivals := by
  intro earlier data between same
  exact all earlier data (between ++ later) (by simp [same])

theorem atRepeats_scan :
    AtRepeats held (arrivals ++ [.scan data]) ↔ AtRepeats held arrivals := by
  refine ⟨AtRepeats.before, fun all earlier other later same => ?_⟩
  rcases List.eq_nil_or_concat later with rfl | ⟨between, last, rfl⟩
  · have ends := (List.append_inj' same rfl).2
    simp at ends
  · refine all earlier other between ?_
    have cut : arrivals ++ [.scan data] = (earlier ++ .repeated other :: between) ++ [last] := by
      simpa using same
    exact (List.append_inj' cut rfl).1

theorem atRepeats_repeated :
    AtRepeats held (arrivals ++ [.repeated data]) ↔
      AtRepeats held arrivals ∧ held arrivals data := by
  constructor
  · intro all
    exact ⟨all.before, all arrivals data [] rfl⟩
  · intro both earlier other later same
    obtain ⟨all, here⟩ := both
    rcases List.eq_nil_or_concat later with rfl | ⟨between, last, rfl⟩
    · obtain ⟨rfl, ends⟩ := List.append_inj' same rfl
      cases ends
      exact here
    · refine all earlier other between ?_
      have cut : arrivals ++ [.repeated data] =
          (earlier ++ .repeated other :: between) ++ [last] := by
        simpa using same
      exact (List.append_inj' cut rfl).1

/-- What has arrived was published as a scan of the log first. -/
theorem Repeats.mem_originals (repeats : Repeats arrivals)
    (member : data ∈ arrivals.map Arrival.data) : data ∈ originals arrivals := by
  induction arrivals using List.reverseRecOn with
  | nil => contradiction
  | append_singleton arrivals last ih =>
      rw [List.map_append, List.mem_append] at member
      cases last with
      | scan other =>
          rw [originals_scan, List.mem_append]
          rcases member with old | new
          · exact .inl (ih (atRepeats_scan.mp repeats) old)
          · exact .inr (by simpa [Arrival.data] using new)
      | repeated other =>
          obtain ⟨before, seen⟩ := atRepeats_repeated.mp repeats
          rw [originals_repeated]
          rcases member with old | new
          · exact ih before old
          · have same : data = other := by simpa [Arrival.data] using new
            subst same
            exact ih before seen

end Arrivals

namespace KafkaScanSource

variable {source : KafkaScanSource} {keep : Nat} {data : ScanData}

@[simp] theorem fill_concat (scans : List ScanData) :
    source.fill keep (scans ++ [data]) =
      (source.fill keep scans).apply keep (.scanRecorded data.scanId data.sku) := by
  simp [fill]

/-- A scan that is held is ignored. -/
theorem apply_held (held : source.rows.lookup data.scanId ≠ none) :
    source.apply keep (.scanRecorded data.scanId data.sku) = source := by
  obtain ⟨sku, found⟩ := Option.ne_none_iff_exists'.mp held
  simp [KafkaScanSource.apply, found]

private theorem putRows_absent {rows : List (Nat × Sku)} {id : Nat} {sku : Sku}
    (absent : Table.lookupRows rows id = none) :
    Table.putRows rows id sku = rows ++ [(id, sku)] := by
  induction rows with
  | nil => rfl
  | cons row rows ih =>
      by_cases here : row.1 = id
      · simp [Table.lookupRows, here] at absent
      · simp only [Table.lookupRows, if_neg here] at absent
        simp [Table.putRows, here, ih absent]

/-- A scan that is not held goes last, and the first rows leave. -/
theorem apply_absent (absent : source.rows.lookup data.scanId = none) :
    (source.apply keep (.scanRecorded data.scanId data.sku)).rows.rows =
      (source.rows.rows ++ [(data.scanId, data.sku)]).drop
        (source.rows.rows.length + 1 - keep) := by
  have appended : Table.putRows source.rows.rows data.scanId data.sku =
      source.rows.rows ++ [(data.scanId, data.sku)] := putRows_absent absent
  simp only [KafkaScanSource.apply, absent, evict, Table.put, appended, List.length_append,
    List.length_singleton]

theorem lookup_apply_absent (positive : 0 < keep)
    (absent : source.rows.lookup data.scanId = none) :
    (source.apply keep (.scanRecorded data.scanId data.sku)).rows.lookup data.scanId =
      some data.sku := by
  rw [Table.lookup_eq_some, apply_absent absent, List.drop_append_of_le_length (by omega)]
  simp

theorem evict_zero (rows : Table Nat Sku) : evict 0 rows = Table.empty := by
  unfold evict Table.empty
  congr 1
  simp

/-- A buffer that keeps nothing still counts the highest id. -/
theorem fill_zero (caughtUp : Bool) (logId : Option String) (scans : List ScanData) :
    (reset caughtUp logId).fill 0 scans =
      { reset caughtUp logId with maxId := newest scans } := by
  induction scans using List.reverseRecOn with
  | nil => rfl
  | append_singleton scans data ih =>
      have grown : newest (scans ++ [data]) = max (newest scans) data.scanId := by
        simp [newest, List.foldl_append]
      rw [fill_concat, ih, grown]
      simp [KafkaScanSource.apply, reset, evict_zero]

/-- Without repeats the buffer holds the last `keep` scans. -/
theorem fill_rows {caughtUp : Bool} {logId : Option String} {scans : List ScanData}
    (distinct : (scans.map ScanData.scanId).Nodup) :
    ((reset caughtUp logId).fill keep scans).rows.rows =
      (scans.drop (scans.length - keep)).map (fun data => (data.scanId, data.sku)) := by
  induction scans using List.reverseRecOn with
  | nil => simp [fill, reset, Table.empty]
  | append_singleton scans data ih =>
      rw [List.map_append, List.nodup_append] at distinct
      obtain ⟨before, _, apart⟩ := distinct
      have rows := ih before
      have absent : ((reset caughtUp logId).fill keep scans).rows.lookup data.scanId = none := by
        rw [Table.lookup_eq_none, rows, List.map_map]
        intro member
        obtain ⟨other, listed, same⟩ := List.mem_map.mp member
        exact apart other.scanId (List.mem_map_of_mem (List.mem_of_mem_drop listed)) data.scanId
          (by simp) same
      have length : ((reset caughtUp logId).fill keep scans).rows.rows.length =
          scans.length - (scans.length - keep) := by
        rw [rows, List.length_map, List.length_drop]
      have appended : scans.drop (scans.length - keep) ++ [data] =
          (scans ++ [data]).drop (scans.length - keep) :=
        (List.drop_append_of_le_length (Nat.sub_le _ _)).symm
      rw [fill_concat, apply_absent absent, length, rows, ← List.map_singleton (f := fun data : ScanData =>
        (data.scanId, data.sku)), ← List.map_append, ← List.map_drop, appended, List.drop_drop,
        List.length_append, List.length_singleton]
      congr 2
      omega

theorem Same.refl (source : KafkaScanSource) : source.Same source :=
  ⟨fun _ => rfl, rfl, fun _ _ => rfl⟩

end KafkaScanSource

section Repeats

open KafkaScanSource

variable {keep : Nat} {caughtUp : Bool} {logId : Option String} {arrivals : List Arrival}

theorem newest_originals (repeats : Repeats arrivals) :
    newest (arrivals.map Arrival.data) = newest (originals arrivals) := by
  induction arrivals using List.reverseRecOn with
  | nil => rfl
  | append_singleton arrivals last ih =>
      have grown : newest ((arrivals ++ [last]).map Arrival.data) =
          max (newest (arrivals.map Arrival.data)) last.data.scanId := by
        simp [newest, List.foldl_append]
      rw [grown]
      cases last with
      | scan data =>
          rw [ih (atRepeats_scan.mp repeats)]
          simp [newest, List.foldl_append, Arrival.data]
      | repeated data =>
          obtain ⟨before, seen⟩ := atRepeats_repeated.mp repeats
          rw [originals_repeated, ← ih before]
          exact Nat.max_eq_left (le_newest seen)

theorem RepeatsHeld.fill_eq {start : KafkaScanSource} (held : RepeatsHeld keep start arrivals) :
    start.fill keep (arrivals.map Arrival.data) = start.fill keep (originals arrivals) := by
  induction arrivals using List.reverseRecOn with
  | nil => rfl
  | append_singleton arrivals last ih =>
      rw [List.map_append, List.map_singleton, fill_concat]
      cases last with
      | scan data =>
          rw [originals_scan, fill_concat, ih (atRepeats_scan.mp held)]
          rfl
      | repeated data =>
          obtain ⟨before, here⟩ := atRepeats_repeated.mp held
          rw [originals_repeated, ← ih before]
          exact apply_held here

theorem RepeatsHeld.ignored {start : KafkaScanSource} (held : RepeatsHeld keep start arrivals) :
    RepeatsIgnored keep start arrivals := by
  rintro earlier ⟨later, rfl⟩
  rw [RepeatsHeld.fill_eq held.before]
  exact Same.refl _

theorem repeatsIgnored_zero (repeats : Repeats arrivals) :
    RepeatsIgnored 0 (reset caughtUp logId) arrivals := by
  rintro earlier ⟨later, rfl⟩
  rw [fill_zero, fill_zero, newest_originals repeats.before]
  exact Same.refl _

/-- A repeat that is not held is inserted: the buffer holds it, and did not. -/
theorem RepeatsIgnored.held {start : KafkaScanSource} (positive : 0 < keep)
    (ignored : RepeatsIgnored keep start arrivals) : RepeatsHeld keep start arrivals := by
  intro earlier data later same absent
  have before := (ignored earlier ⟨_, same.symm⟩).1 data.scanId
  have after := (ignored (earlier ++ [.repeated data]) ⟨later, by simp [same]⟩).1 data.scanId
  rw [originals_repeated, ← before, absent, List.map_append, List.map_singleton, fill_concat] at after
  have inserted := lookup_apply_absent positive absent
  simp only [Arrival.data] at after
  rw [inserted] at after
  contradiction

/-- Where the log has each scan once, the rows held are its last ones. -/
theorem held_iff_recent (keep : Nat) (caughtUp : Bool) (logId : Option String)
    (repeats : Repeats arrivals)
    (distinct : ((originals arrivals).map ScanData.scanId).Nodup) {data : ScanData}
    (seen : data ∈ arrivals.map Arrival.data) :
    ((reset caughtUp logId).fill keep (originals arrivals)).rows.lookup data.scanId ≠ none ↔
      data ∈ (originals arrivals).drop ((originals arrivals).length - keep) := by
  have listed := repeats.mem_originals seen
  rw [Ne, Table.lookup_eq_none, not_not, fill_rows distinct, List.map_map]
  constructor
  · intro member
    obtain ⟨other, recent, same⟩ := List.mem_map.mp member
    have equal : other = data :=
      List.inj_on_of_nodup_map distinct (List.mem_of_mem_drop recent) listed same
    rwa [← equal]
  · intro recent
    exact List.mem_map.mpr ⟨data, recent, rfl⟩

theorem repeatsHeld_iff_recent (repeats : Repeats arrivals)
    (distinct : ((originals arrivals).map ScanData.scanId).Nodup) :
    RepeatsHeld keep (reset caughtUp logId) arrivals ↔ RepeatsRecent keep arrivals := by
  induction arrivals using List.reverseRecOn with
  | nil => exact iff_of_true atRepeats_nil atRepeats_nil
  | append_singleton arrivals last ih =>
      cases last with
      | scan data =>
          have before : ((originals arrivals).map ScanData.scanId).Nodup := by
            rw [originals_scan, List.map_append] at distinct
            exact (List.nodup_append.mp distinct).1
          exact (atRepeats_scan.trans (ih (atRepeats_scan.mp repeats) before)).trans
            atRepeats_scan.symm
      | repeated data =>
          obtain ⟨earlier, seen⟩ := atRepeats_repeated.mp repeats
          rw [originals_repeated] at distinct
          have same := ih earlier distinct
          have recent := held_iff_recent keep caughtUp logId earlier distinct seen
          refine (atRepeats_repeated.trans ⟨fun both => ?_, fun both => ?_⟩).trans
            atRepeats_repeated.symm
          · obtain ⟨held, here⟩ := both
            rw [RepeatsHeld.fill_eq held] at here
            exact ⟨same.mp held, recent.mp here⟩
          · obtain ⟨all, here⟩ := both
            have held := same.mpr all
            refine ⟨held, ?_⟩
            rw [RepeatsHeld.fill_eq held]
            exact recent.mpr here

/-- Repeats are ignored exactly when each comes while its scan is held: for a log
that has each scan once, when it is of one of the last `keep` scans published. -/
theorem repeats_ignored_iff (keep : Nat) (caughtUp : Bool) (logId : Option String)
    (arrivals : List Arrival) (repeats : Repeats arrivals) :
    (RepeatsIgnored keep (reset caughtUp logId) arrivals ↔
      keep = 0 ∨ RepeatsHeld keep (reset caughtUp logId) arrivals) ∧
    (((originals arrivals).map ScanData.scanId).Nodup →
      (RepeatsIgnored keep (reset caughtUp logId) arrivals ↔
        keep = 0 ∨ RepeatsRecent keep arrivals)) := by
  have decided : RepeatsIgnored keep (reset caughtUp logId) arrivals ↔
      keep = 0 ∨ RepeatsHeld keep (reset caughtUp logId) arrivals := by
    rcases Nat.eq_zero_or_pos keep with rfl | positive
    · exact iff_of_true (repeatsIgnored_zero repeats) (.inl rfl)
    · refine ⟨fun ignored => .inr (ignored.held positive), fun held => ?_⟩
      rcases held with zero | held
      · omega
      · exact held.ignored
  refine ⟨decided, fun distinct => ?_⟩
  rw [decided, repeatsHeld_iff_recent repeats distinct]

/-- Five scans. -/
def fiveScans : List ScanData :=
  [⟨1, "SKU-000001"⟩, ⟨2, "SKU-000002"⟩, ⟨3, "SKU-000001"⟩, ⟨4, "SKU-000003"⟩, ⟨5, "SKU-000001"⟩]

theorem atRepeats_fiveScans {held : List Arrival → ScanData → Prop} (data : ScanData) :
    AtRepeats held (fiveScans.map Arrival.scan ++ [.repeated data]) ↔
      held (fiveScans.map Arrival.scan) data := by
  refine atRepeats_repeated.trans (and_iff_right ?_)
  intro earlier other later same
  have member : Arrival.repeated other ∈ fiveScans.map Arrival.scan := by simp [same]
  simp at member

theorem repeats_ignored_iff_fourthAgain :
    RepeatsIgnored 4 (reset true none)
      (fiveScans.map Arrival.scan ++ [.repeated ⟨4, "SKU-000003"⟩]) :=
  ((repeats_ignored_iff 4 true none _ ((atRepeats_fiveScans _).mpr (by decide))).2
    (by decide)).mpr (.inr ((atRepeats_fiveScans _).mpr (by decide)))

/-- At window 1 the relay publishes five scans, fails to save its position and
starts the batch again: scan 1 comes back and pushes out scan 2, unread. -/
theorem repeated_scan_evicts_unread :
    Repeats (fiveScans.map Arrival.scan ++ [.repeated ⟨1, "SKU-000001"⟩]) ∧
    ¬ RepeatsIgnored 4 (reset true none)
      (fiveScans.map Arrival.scan ++ [.repeated ⟨1, "SKU-000001"⟩]) ∧
    ((reset true none).fill 4 fiveScans).read 1 1 = .rows [⟨2, "SKU-000002"⟩] 5 none ∧
    ((reset true none).fill 4 (fiveScans ++ [⟨1, "SKU-000001"⟩])).read 1 1 =
      .rows [⟨3, "SKU-000001"⟩] 5 none := by
  refine ⟨(atRepeats_fiveScans _).mpr (by decide), fun ignored => ?_, rfl, rfl⟩
  have second := (ignored _ List.prefix_rfl).1 2
  revert second
  decide

end Repeats

end SelfCheckout.Analytics
