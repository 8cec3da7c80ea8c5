import SelfCheckout.Analytics.Tail

namespace SelfCheckout.Analytics

open SelfCheckout.Data

/-! # Holes in the scan log

Scans commit out of id order, so the tail waits at a hole.  A pass is exact as
long as the hole it gives up holds no pending row: the tail remembers where the
hole ended when the timer started, and rows that arrive inside it afterwards are
below that end.
-/

variable {Instant : Type}

def Read.scans : Read → List ScanData
  | .upstreamUnavailable => []
  | .rows listed _ _ => listed

def returned (passes : List (Read × Instant)) : List ScanData :=
  passes.flatMap (fun given => given.1.scans)

/-- A read returns rows of the scan log above the cursor, in id order. -/
def WellRead (log : Nat → Sku) (tail : TailIngest Instant) : Read × Instant → Prop
  | (.upstreamUnavailable, _) => True
  | (.rows rows _ _, _) =>
      (rows.map ScanData.scanId).Pairwise (· < ·) ∧
        ∀ row ∈ rows, tail.lastId < row.scanId ∧ row.sku = log row.scanId

/-- The hole that expires in this pass, if one does, holds no pending row. -/
def HoleStaysEmpty [Sub Instant] [LE Instant] [DecidableLE Instant]
    (settings : TailSettings Instant) (tail : TailIngest Instant) : Read × Instant → Prop
  | (.upstreamUnavailable, _) => True
  | (.rows rows _ _, now) =>
      ((tail.hold rows).pending.lookup (tail.lastId + 1)).isNone →
        tail.holeSince.any (fun since => ! decide (now - since ≤ settings.grace)) →
          ∀ row ∈ (tail.hold rows).pending.rows, tail.lastId < row.1 → tail.holeUpto < row.1

instance (log : Nat → Sku) (tail : TailIngest Instant) :
    ∀ given : Read × Instant, Decidable (WellRead log tail given)
  | (.upstreamUnavailable, _) => inferInstanceAs (Decidable True)
  | (.rows _ _ _, _) => inferInstanceAs (Decidable (_ ∧ _))

instance [Sub Instant] [LE Instant] [DecidableLE Instant] (settings : TailSettings Instant)
    (tail : TailIngest Instant) :
    ∀ given : Read × Instant, Decidable (HoleStaysEmpty settings tail given)
  | (.upstreamUnavailable, _) => inferInstanceAs (Decidable True)
  | (.rows _ _ _, _) => inferInstanceAs (Decidable (_ → _ → _))

/-- Every scan is emitted once and in order: the ids increase, a row the cursor
has passed was emitted exactly once, and an id passed over was never returned. -/
structure EmitsEveryScan (startAfter : Nat) (passes : List (Read × Instant))
    (tail : TailIngest Instant) : Prop where
  increasing : ((scans tail.out).map ScanData.scanId).Pairwise (· < ·)
  once : ∀ row ∈ returned passes, row.scanId ≤ tail.lastId → (scans tail.out).count row = 1
  passedOver : ∀ id, startAfter < id → id ≤ tail.lastId →
    id ∉ (scans tail.out).map ScanData.scanId → id ∉ (returned passes).map ScanData.scanId

/-- What the tail has done with the rows returned so far: those it passed are
emitted in order, the others are pending, and nothing else is. -/
structure Exact (startAfter : Nat) (log : Nat → Sku) (rows : List ScanData)
    (tail : TailIngest Instant) : Prop where
  cursor : startAfter ≤ tail.lastId
  increasing : ((scans tail.out).map ScanData.scanId).Pairwise (· < ·)
  between : ∀ data ∈ scans tail.out, startAfter < data.scanId ∧ data.scanId ≤ tail.lastId
  logged : ∀ row ∈ rows, row.sku = log row.scanId
  emitted : ∀ row ∈ rows, row.scanId ≤ tail.lastId → row ∈ scans tail.out
  held : ∀ row ∈ rows, tail.lastId < row.scanId →
    tail.pending.lookup row.scanId = some row.sku
  pending : ∀ id sku, tail.pending.lookup id = some sku → ⟨id, sku⟩ ∈ rows

section Loops

variable {settings : TailSettings Instant} {log : Nat → Sku} {rows : List ScanData}
  {tail : TailIngest Instant} {startAfter : Nat}

theorem Exact.emit {sku : Sku} (exact : Exact startAfter log rows tail)
    (found : tail.pending.lookup (tail.lastId + 1) = some sku) :
    Exact startAfter log rows (tail.emit settings sku) where
  cursor := Nat.le_succ_of_le exact.cursor
  increasing := by
    rw [scans_emit, List.map_append, List.pairwise_append]
    refine ⟨exact.increasing, by simp, ?_⟩
    intro early earlyMember late lateMember
    obtain ⟨data, member, rfl⟩ := List.mem_map.mp earlyMember
    have bound := (exact.between data member).2
    simp only [List.map_cons, List.map_nil, List.mem_singleton] at lateMember
    omega
  between data member := by
    have cursor := exact.cursor
    simp only [TailIngest.emit, TailIngest.advance]
    rw [scans_emit, List.mem_append, List.mem_singleton] at member
    rcases member with old | rfl
    · have bounds := exact.between data old
      omega
    · exact ⟨Nat.lt_succ_of_le cursor, le_rfl⟩
  logged := exact.logged
  emitted row member passed := by
    rw [scans_emit, List.mem_append]
    by_cases here : row.scanId = tail.lastId + 1
    · have same := exact.held row member (by omega)
      rw [here, found, Option.some.injEq] at same
      right
      rw [List.mem_singleton]
      cases row
      simp_all
    · left
      apply exact.emitted row member
      simp only [TailIngest.emit, TailIngest.advance] at passed
      omega
  held row member ahead := by
    simp only [TailIngest.emit, TailIngest.advance] at ahead ⊢
    rw [Table.lookup_erase, if_neg (by omega)]
    exact exact.held row member (by omega)
  pending id sku' found' := by
    simp only [TailIngest.emit, TailIngest.advance, Table.lookup_erase] at found'
    split at found'
    · contradiction
    · exact exact.pending id sku' found'

theorem Exact.advance (exact : Exact startAfter log rows tail)
    (absent : tail.pending.lookup (tail.lastId + 1) = none) :
    Exact startAfter log rows (tail.advance settings (tail.lastId + 1)) where
  cursor := Nat.le_succ_of_le exact.cursor
  increasing := by
    rw [scans_advance]
    exact exact.increasing
  between data member := by
    rw [scans_advance] at member
    obtain ⟨above, upTo⟩ := exact.between data member
    exact ⟨above, Nat.le_succ_of_le upTo⟩
  logged := exact.logged
  emitted row member passed := by
    rw [scans_advance]
    apply exact.emitted row member
    by_contra ahead
    simp only [TailIngest.advance] at passed
    have here : row.scanId = tail.lastId + 1 := by omega
    have same := exact.held row member (by omega)
    rw [here, absent] at same
    contradiction
  held row member ahead := by
    simp only [TailIngest.advance] at ahead ⊢
    exact exact.held row member (by omega)
  pending := exact.pending

theorem Exact.drain (exact : Exact startAfter log rows tail) : Exact startAfter log rows (tail.drain settings).1 :=
  TailIngest.drain_kept settings _ (fun _ _ found exact => exact.emit found) exact

theorem lookup_hold {read : List ScanData} (logged : ∀ row ∈ read, row.sku = log row.scanId)
    (above : ∀ row ∈ read, tail.lastId < row.scanId) (id : Nat) :
    (tail.hold read).pending.lookup id =
      if id ∈ read.map ScanData.scanId then some (log id) else tail.pending.lookup id := by
  unfold TailIngest.hold
  simp only
  generalize tail.pending = pending
  induction read generalizing pending with
  | nil => simp
  | cons row read ih =>
      rw [List.foldl_cons, if_pos (above row (by simp))]
      rw [ih (fun other member => logged other (by simp [member]))
        (fun other member => above other (by simp [member]))]
      by_cases later : id ∈ read.map ScanData.scanId
      · simp [later]
      · by_cases here : id = row.scanId
        · subst here
          simp [logged row (by simp)]
        · simp [later, here]

theorem Exact.hold {read : List ScanData} (exact : Exact startAfter log rows tail)
    (logged : ∀ row ∈ read, row.sku = log row.scanId)
    (above : ∀ row ∈ read, tail.lastId < row.scanId) :
    Exact startAfter log (rows ++ read) (tail.hold read) where
  cursor := exact.cursor
  increasing := exact.increasing
  between := exact.between
  logged row member := by
    rcases List.mem_append.mp member with old | new
    · exact exact.logged row old
    · exact logged row new
  emitted row member passed := by
    rcases List.mem_append.mp member with old | new
    · exact exact.emitted row old passed
    · exact absurd (above row new) (by simpa [TailIngest.hold] using passed)
  held row member ahead := by
    rw [lookup_hold logged above]
    split
    · rcases List.mem_append.mp member with old | new
      · rw [exact.logged row old]
      · rw [logged row new]
    · rename_i absent
      rcases List.mem_append.mp member with old | new
      · exact exact.held row old ahead
      · exact absurd (List.mem_map_of_mem new) absent
  pending id sku found := by
    rw [lookup_hold logged above] at found
    split at found
    · rename_i listed
      obtain ⟨row, member, rfl⟩ := List.mem_map.mp listed
      have same := logged row member
      cases row
      simp_all
    · exact List.mem_append_left _ (exact.pending id sku found)

theorem Exact.of_same {other : TailIngest Instant} (exact : Exact startAfter log rows tail)
    (sameOut : other.out = tail.out) (sameLast : other.lastId = tail.lastId)
    (samePending : other.pending = tail.pending) : Exact startAfter log rows other := by
  obtain ⟨cursor, increasing, between, logged, emitted, held, pending⟩ := exact
  constructor
  · rwa [sameLast]
  · rwa [sameOut]
  · rwa [sameOut, sameLast]
  · exact logged
  · rwa [sameOut, sameLast]
  · rwa [sameLast, samePending]
  · rwa [samePending]

theorem Exact.emitsEveryScan {passes : List (Read × Instant)}
    (exact : Exact startAfter log (returned passes) tail) :
    EmitsEveryScan startAfter passes tail where
  increasing := exact.increasing
  once row member passed := by
    have nodup : (scans tail.out).Nodup :=
      List.Nodup.of_map ScanData.scanId (exact.increasing.imp (fun less => ne_of_lt less))
    exact List.count_eq_one_of_mem nodup (exact.emitted row member passed)
  passedOver id _ passed missing member := by
    obtain ⟨row, listed, rfl⟩ := List.mem_map.mp member
    exact missing (List.mem_map_of_mem (exact.emitted row listed passed))

end Loops

section Passes

variable [Sub Instant] [LE Instant] [DecidableLE Instant] {settings : TailSettings Instant}
  {log : Nat → Sku} {rows : List ScanData} {tail after : TailIngest Instant}
  {given : Read × Instant} {startAfter : Nat} {first : Option Nat}

/-- Step lemma: a pass whose expired hole is empty keeps the tail exact. -/
theorem Exact.step (exact : Exact startAfter log rows tail) (well : WellRead log tail given)
    (empty : HoleStaysEmpty settings tail given) (taken : tail.step settings given = some after) :
    Exact startAfter log (rows ++ given.1.scans) after := by
  obtain ⟨read, now⟩ := given
  rcases TailIngest.step_cases taken with
    ⟨rfl, rfl⟩ |
    ⟨listed, _, _, rfl, ⟨⟨since, upto, rfl⟩, _⟩ | ⟨absent, ⟨since, running, expired⟩, rfl⟩⟩
  · simpa [Read.scans] using exact
  · have merged := exact.hold (fun row member => (well.2 row member).2)
      (fun row member => (well.2 row member).1)
    exact merged.drain.of_same rfl rfl rfl
  · have merged := exact.hold (fun row member => (well.2 row member).2)
      (fun row member => (well.2 row member).1)
    have free : ∀ id, tail.lastId < id → id ≤ tail.holeUpto →
        (tail.hold listed).pending.lookup id = none := by
      intro id above below
      cases found : (tail.hold listed).pending.lookup id with
      | none => rfl
      | some sku =>
          have beyond := empty (Option.isNone_iff_eq_none.mpr absent)
            (by simp [running, expired]) (id, sku) (Table.lookup_eq_some.mp found) above
          simp only at beyond
          omega
    have skipped := TailIngest.skip_kept settings
      (fun tail' => Exact startAfter log (rows ++ listed) tail' ∧
        ∀ id, tail'.lastId < id → id ≤ tail.holeUpto → tail'.pending.lookup id = none)
      tail.holeUpto
      (fun tail' below holds => ⟨holds.1.advance (holds.2 _ (by omega) (by omega)),
        fun id above => holds.2 id (by simp only [TailIngest.advance] at above; omega)⟩)
      ⟨merged, free⟩
    exact Exact.drain (skipped.1.of_same rfl rfl rfl)

theorem Exact.loses (exact : Exact startAfter log rows tail) (well : WellRead log tail given)
    (filled : ¬ HoleStaysEmpty settings tail given)
    (taken : tail.step settings given = some after) :
    ∃ row ∈ rows ++ given.1.scans, startAfter < row.scanId ∧ row.scanId ≤ after.lastId ∧
      row.scanId ∉ (scans after.out).map ScanData.scanId := by
  obtain ⟨read, now⟩ := given
  cases read with
  | upstreamUnavailable => exact absurd trivial filled
  | rows listed maxScanId logId =>
      simp only [HoleStaysEmpty, Classical.not_imp, not_forall, not_lt] at filled
      obtain ⟨absent, overdue, ⟨id, sku⟩, member, ahead, within⟩ := filled
      rw [Option.isNone_iff_eq_none] at absent
      have found : (tail.hold listed).pending.lookup id = some sku := Table.lookup_eq_some.mpr member
      have merged := exact.hold (fun row member => (well.2 row member).2)
        (fun row member => (well.2 row member).1)
      have notYet : id ∉ (scans tail.out).map ScanData.scanId := by
        intro emitted
        obtain ⟨data, listed, rfl⟩ := List.mem_map.mp emitted
        have bound := (exact.between data listed).2
        simp only at ahead
        omega
      refine ⟨⟨id, sku⟩, merged.pending id sku found, lt_of_le_of_lt exact.cursor ahead, ?_⟩
      rcases TailIngest.step_cases taken with
        ⟨unavailable, _⟩ | ⟨listed', _, _, same, ⟨_, why⟩ | ⟨_, _, rfl⟩⟩
      · contradiction
      · cases same
        rcases why absent with empty | inTime
        · rw [empty] at member
          contradiction
        · rw [Option.any_eq_true] at overdue
          obtain ⟨since, running, expired⟩ := overdue
          simp [inTime since running] at expired
      · cases same
        let skipTo := (List.range' ((tail.hold listed).lastId + 1)
          (tail.holeUpto - (tail.hold listed).lastId)).foldl
            (TailIngest.advance settings) (tail.hold listed)
        have skipped : id ∉ (scans skipTo.out).map ScanData.scanId :=
          TailIngest.skip_kept settings (fun tail' => id ∉ (scans tail'.out).map ScanData.scanId)
            tail.holeUpto (fun tail' _ holds => by simpa using holds) notYet
        have reached : skipTo.lastId = (tail.hold listed).lastId +
            (tail.holeUpto - (tail.hold listed).lastId) := TailIngest.skip_lastId _
        have start : (tail.hold listed).lastId = tail.lastId := rfl
        have passed : id ≤ skipTo.lastId := by
          simp only at ahead within
          omega
        have drained := @TailIngest.drain_kept _ { skipTo with holeSince := none } settings
          (fun tail' => id ∉ (scans tail'.out).map ScanData.scanId ∧ id ≤ tail'.lastId)
          (fun tail' sku _ holds => by
            have lastId : (tail'.emit settings sku).lastId = tail'.lastId + 1 := rfl
            refine ⟨?_, by omega⟩
            rw [scans_emit, List.map_append, List.mem_append, not_or]
            refine ⟨holds.1, ?_⟩
            simp only [List.map_cons, List.map_nil, List.mem_singleton]
            omega)
          ⟨skipped, passed⟩
        exact ⟨drained.2, drained.1⟩

/-- Run lemma: while no filled hole is given up, the tail stays exact. -/
theorem exact_of_run {logId : Option String} {passes : List (Read × Instant)}
    (run : Run (TailIngest.step settings)
      (fun tail given => WellRead log tail given ∧ HoleStaysEmpty settings tail given)
      (TailIngest.start settings logId startAfter first) passes tail) :
    Exact startAfter log (returned passes) tail := by
  induction run with
  | start => constructor <;> simp [returned, TailIngest.start, scans]
  | snoc past permitted taken ih =>
      simpa [returned] using ih.step permitted.1 permitted.2 taken

theorem stays_empty_of_run {logId : Option String} {passes : List (Read × Instant)}
    (run : Run (TailIngest.step settings) (WellRead log)
      (TailIngest.start settings logId startAfter first) passes tail)
    (faithful : ∀ earlier state, earlier <+: passes →
      Run (TailIngest.step settings) Any (TailIngest.start settings logId startAfter first)
        earlier state →
      EmitsEveryScan startAfter earlier state) :
    Run (TailIngest.step settings)
      (fun tail given => WellRead log tail given ∧ HoleStaysEmpty settings tail given)
      (TailIngest.start settings logId startAfter first) passes tail := by
  induction run with
  | start => exact .start
  | snoc past permitted taken ih =>
      have earlier := ih fun earlier state isPrefix reached =>
        faithful earlier state (isPrefix.trans (List.prefix_append _ _)) reached
      refine .snoc earlier ⟨permitted, ?_⟩ taken
      by_contra filled
      obtain ⟨row, member, above, passed, missing⟩ :=
        (exact_of_run earlier).loses permitted filled taken
      have now := faithful _ _ List.prefix_rfl (past.unrestricted.snoc trivial taken)
      apply now.passedOver row.scanId above passed missing
      simp only [returned, List.flatMap_append, List.flatMap_cons, List.flatMap_nil,
        List.append_nil]
      exact List.mem_map_of_mem member

/-- The tail emits every scan exactly once and in order, up to every point of a
run, if and only if no pass gives up a hole that holds a pending row. -/
theorem emits_every_scan_iff (settings : TailSettings Instant) (log : Nat → Sku)
    (logId : Option String) (startAfter : Nat) (first : Option Nat)
    (passes : List (Read × Instant)) (tail : TailIngest Instant)
    (run : Run (TailIngest.step settings) (WellRead log)
      (TailIngest.start settings logId startAfter first) passes tail) :
    (∀ earlier state, earlier <+: passes →
      Run (TailIngest.step settings) Any (TailIngest.start settings logId startAfter first)
        earlier state →
      EmitsEveryScan startAfter earlier state) ↔
    (∀ earlier given state, earlier ++ [given] <+: passes →
      Run (TailIngest.step settings) Any (TailIngest.start settings logId startAfter first)
        earlier state →
      HoleStaysEmpty settings state given) := by
  constructor
  · intro faithful earlier given state isPrefix reached
    have both := stays_empty_of_run run faithful
    obtain ⟨rest, rfl⟩ := isPrefix
    obtain ⟨after, first, _⟩ := both.split
    obtain ⟨before, past, permitted, _⟩ := first.last
    cases past.deterministic reached
    exact permitted.2
  · intro empty earlier state isPrefix reached
    obtain ⟨rest, rfl⟩ := isPrefix
    obtain ⟨other, past, _⟩ := (run.restrict empty).split
    cases past.deterministic reached
    exact (exact_of_run past).emitsEveryScan

end Passes

def shortGrace : TailSettings Nat :=
  { slide := 5, slidePos := by decide, batch := 1000, grace := 10 }

def filledInTime : List (Read × Nat) :=
  [(.rows [⟨2, "SKU-000001"⟩] 2 none, 0),
    (.rows [⟨1, "SKU-000001"⟩, ⟨2, "SKU-000001"⟩] 2 none, 20)]

theorem filledInTime_runs : (filledInTime.foldlM
    (guarded (TailIngest.step shortGrace)
      (fun tail given => WellRead (fun _ => "SKU-000001") tail given))
    (TailIngest.start shortGrace none 0 none)).isSome = true := by
  decide +kernel

theorem emits_every_scan_filledInTime :
    (∀ earlier state, earlier <+: filledInTime →
      Run (TailIngest.step shortGrace) Any (TailIngest.start shortGrace none 0 none)
        earlier state →
      EmitsEveryScan 0 earlier state) ↔
    (∀ earlier given state, earlier ++ [given] <+: filledInTime →
      Run (TailIngest.step shortGrace) Any (TailIngest.start shortGrace none 0 none)
        earlier state →
      HoleStaysEmpty shortGrace state given) :=
  emits_every_scan_iff shortGrace (fun _ => "SKU-000001") none 0 none filledInTime _
    (.of_guarded (Option.some_get filledInTime_runs).symm)

/-- Row 5 starts the timer of the hole 1..4; row 3 commits late and is read by
the pass in which the grace period is over. -/
def filledLate : List (Read × Nat) :=
  [(.rows [⟨5, "SKU-000001"⟩] 5 none, 0),
    (.rows [⟨3, "SKU-000001"⟩, ⟨5, "SKU-000001"⟩] 5 none, 20)]

theorem filledLate_runs : (filledLate.foldlM
    (guarded (TailIngest.step shortGrace)
      (fun tail given => WellRead (fun _ => "SKU-000001") tail given))
    (TailIngest.start shortGrace none 0 none)).isSome = true := by
  decide +kernel

/-- The tail passes row 3 over although it holds it. -/
theorem late_scan_is_passed_over :
    ∃ tail, Run (TailIngest.step shortGrace) (WellRead (fun _ => "SKU-000001"))
        (TailIngest.start shortGrace none 0 none) filledLate tail ∧
      tail.pending.lookup 3 = some "SKU-000001" ∧ ¬ EmitsEveryScan 0 filledLate tail := by
  refine ⟨_, .of_guarded (Option.some_get filledLate_runs).symm, by decide +kernel, ?_⟩
  intro emits
  have once := emits.once ⟨3, "SKU-000001"⟩ (by decide) (by decide +kernel)
  revert once
  decide +kernel

end SelfCheckout.Analytics
