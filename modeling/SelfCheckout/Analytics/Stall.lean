import SelfCheckout.Analytics.Tail
import Mathlib.Algebra.Order.Group.Defs
import Mathlib.Algebra.Order.Group.Int
import Mathlib.Algebra.Order.Group.Unbundled.Basic
import Mathlib.Data.List.Chain

namespace SelfCheckout.Analytics

open SelfCheckout.Data

/-! # Behind a permanent gap

A row that arrives inside a hole whose timer already runs is passed over with the
hole and stays pending below the cursor.  From then on the lowest pending id is
below the cursor, so the end of every later hole is too, and no hole is skipped.
-/

variable {Instant : Type}

/-- The tail holds a row of this id. -/
def TailIngest.Pends (tail : TailIngest Instant) (id : Nat) : Prop :=
  tail.pending.lookup id ≠ none

/-- The ids of the scans put on the queue. -/
def TailIngest.emitted (tail : TailIngest Instant) : List Nat :=
  (scans tail.out).map ScanData.scanId

/-- The smallest pending id above the cursor. -/
def Smallest (tail : TailIngest Instant) (id : Nat) : Prop :=
  tail.Pends id ∧ tail.lastId < id ∧ ∀ other, tail.Pends other → tail.lastId < other → id ≤ other

/-- No row is pending below the cursor, or inside a hole that is being timed. -/
def HolesClear (tail : TailIngest Instant) : Prop :=
  ∀ id, tail.Pends id → tail.lastId < id ∧ (tail.holeSince ≠ none → tail.holeUpto < id)

/-- A read that returns nothing the tail does not hold. -/
def Quiet (tail : TailIngest Instant) : Read × Instant → Prop
  | (.upstreamUnavailable, _) => False
  | (.rows rows maxScanId logId, _) =>
      logId = tail.logId ∧ tail.lastId ≤ maxScanId ∧ (∀ id, tail.Pends id → id ≤ maxScanId) ∧
        ∀ row ∈ rows, tail.pending.lookup row.scanId = some row.sku

section Decide

variable {tail : TailIngest Instant} {id : Nat}

theorem pends_iff : tail.Pends id ↔ id ∈ tail.pending.rows.map Prod.fst := by
  rw [TailIngest.Pends, Ne, Table.lookup_eq_none, not_not]

instance : Decidable (tail.Pends id) := inferInstanceAs (Decidable (_ ≠ none))

theorem smallest_iff : (tail.Pends id ∧ tail.lastId < id ∧
    ∀ other ∈ tail.pending.rows.map Prod.fst, tail.lastId < other → id ≤ other) ↔
      Smallest tail id := by
  simp only [Smallest, ← pends_iff]

theorem holesClear_iff : (∀ id ∈ tail.pending.rows.map Prod.fst,
    tail.lastId < id ∧ (tail.holeSince.isSome → tail.holeUpto < id)) ↔ HolesClear tail := by
  simp only [HolesClear, ← pends_iff, Option.isSome_iff_ne_none]

theorem quiet_iff {rows : List ScanData} {maxScanId : Nat} {logId : Option String}
    {now : Instant} : (logId = tail.logId ∧ tail.lastId ≤ maxScanId ∧
      (∀ id ∈ tail.pending.rows.map Prod.fst, id ≤ maxScanId) ∧
      ∀ row ∈ rows, tail.pending.lookup row.scanId = some row.sku) ↔
        Quiet tail (.rows rows maxScanId logId, now) := by
  simp only [Quiet, ← pends_iff]

instance : Decidable (Smallest tail id) := decidable_of_iff _ smallest_iff

instance : Decidable (HolesClear tail) := decidable_of_iff _ holesClear_iff

instance : ∀ given : Read × Instant, Decidable (Quiet tail given)
  | (.upstreamUnavailable, _) => inferInstanceAs (Decidable False)
  | (.rows _ _ _, _) => decidable_of_iff _ quiet_iff

end Decide

section Loops

variable {settings : TailSettings Instant} {tail : TailIngest Instant}

/-- What `_drain` does to the cursor, to `pending` and to the queue. -/
structure DrainedFrom (tail after : TailIngest Instant) : Prop where
  cursor : tail.lastId ≤ after.lastId
  kept : ∀ id, id ≤ tail.lastId ∨ after.lastId < id →
    after.pending.lookup id = tail.pending.lookup id
  fewer : ∀ id, after.Pends id → tail.Pends id
  old : ∀ id ∈ tail.emitted, id ∈ after.emitted
  new : ∀ id ∈ after.emitted, id ∈ tail.emitted ∨ tail.lastId < id ∧ id ≤ after.lastId
  reached : after.lastId = tail.lastId ∨ tail.Pends after.lastId
  logId : after.logId = tail.logId
  holeSince : after.holeSince = tail.holeSince

theorem DrainedFrom.refl (tail : TailIngest Instant) : DrainedFrom tail tail where
  cursor := le_rfl
  kept _ _ := rfl
  fewer _ pends := pends
  old _ member := member
  new _ member := .inl member
  reached := .inl rfl
  logId := rfl
  holeSince := rfl

theorem emitted_emit (tail : TailIngest Instant) (sku : Sku) :
    (tail.emit settings sku).emitted = tail.emitted ++ [tail.lastId + 1] := by
  simp [TailIngest.emitted]

theorem DrainedFrom.emit {start : TailIngest Instant} {sku : Sku} (drained : DrainedFrom start tail)
    (found : tail.pending.lookup (tail.lastId + 1) = some sku) :
    DrainedFrom start (tail.emit settings sku) where
  cursor := Nat.le_succ_of_le drained.cursor
  kept id outside := by
    have cursor := drained.cursor
    simp only [TailIngest.emit, TailIngest.advance] at outside ⊢
    rw [Table.lookup_erase, if_neg (by omega)]
    exact drained.kept id (by omega)
  fewer id pends := by
    apply drained.fewer id
    simp only [TailIngest.Pends, TailIngest.emit, TailIngest.advance, Table.lookup_erase] at pends ⊢
    split at pends
    · contradiction
    · exact pends
  old id member := by
    rw [emitted_emit]
    exact List.mem_append_left _ (drained.old id member)
  new id member := by
    have cursor := drained.cursor
    rw [emitted_emit, List.mem_append, List.mem_singleton] at member
    simp only [TailIngest.emit, TailIngest.advance]
    rcases member with before | rfl
    · rcases drained.new id before with old | between
      · exact .inl old
      · exact .inr (by omega)
    · exact .inr (by omega)
  reached := by
    refine .inr (drained.fewer _ ?_)
    simp [TailIngest.Pends, TailIngest.emit, TailIngest.advance, found]
  logId := drained.logId
  holeSince := drained.holeSince

theorem drainedFrom_drain (settings : TailSettings Instant) (tail : TailIngest Instant) :
    DrainedFrom tail (tail.drain settings).1 :=
  TailIngest.drain_kept settings _ (fun _ _ found drained => drained.emit found) (.refl tail)

theorem drain_next (settings : TailSettings Instant) (tail : TailIngest Instant) :
    ¬ (tail.drain settings).1.Pends ((tail.drain settings).1.lastId + 1) := by
  fun_induction TailIngest.drain settings tail with
  | case1 tail absent => exact fun pends => pends absent
  | case2 tail sku found ih => exact ih

/-- A pending row next to the cursor is emitted. -/
theorem drain_emits (settings : TailSettings Instant) (pends : tail.Pends (tail.lastId + 1)) :
    (tail.drain settings).2 = true ∧ tail.lastId + 1 ≤ (tail.drain settings).1.lastId ∧
      tail.lastId + 1 ∈ (tail.drain settings).1.emitted := by
  obtain ⟨sku, found⟩ := Option.ne_none_iff_exists'.mp pends
  have rest := drainedFrom_drain settings (tail.emit settings sku)
  have unfolded : tail.drain settings = (((tail.emit settings sku).drain settings).1, true) := by
    rw [TailIngest.drain]
    split
    · rename_i absent
      rw [found] at absent
      contradiction
    · rename_i other same
      rw [found, Option.some.injEq] at same
      rw [same]
  rw [unfolded]
  refine ⟨rfl, rest.cursor, rest.old _ ?_⟩
  rw [emitted_emit]
  exact List.mem_append_right _ List.mem_cons_self

theorem drain_none (absent : ¬ tail.Pends (tail.lastId + 1)) : tail.drain settings = (tail, false) := by
  have idle : (tail.drain settings).2 = false := TailIngest.drain_stuck (not_not.mp absent)
  exact Prod.ext (TailIngest.drain_idle idle).2 idle

/-- The loop of `_skip_expired_hole` and the reset of its timer. -/
def TailIngest.skipHole (settings : TailSettings Instant) (tail : TailIngest Instant) :
    TailIngest Instant :=
  { (List.range' (tail.lastId + 1) (tail.holeUpto - tail.lastId)).foldl
      (TailIngest.advance settings) tail with holeSince := none }

theorem skipHole_kept (settings : TailSettings Instant) (tail : TailIngest Instant) :
    (tail.skipHole settings).pending = tail.pending ∧
      (tail.skipHole settings).emitted = tail.emitted ∧
      (tail.skipHole settings).logId = tail.logId := by
  have kept := TailIngest.skip_kept settings
    (fun after => after.pending = tail.pending ∧ after.emitted = tail.emitted ∧
      after.logId = tail.logId) tail.holeUpto
    (fun after _ holds => ⟨holds.1, by
      simp only [TailIngest.emitted, scans_advance]
      exact holds.2.1, holds.2.2⟩) (⟨rfl, rfl, rfl⟩ : tail.pending = tail.pending ∧ _)
  exact kept

theorem skipHole_lastId (settings : TailSettings Instant) (tail : TailIngest Instant) :
    (tail.skipHole settings).lastId = tail.lastId + (tail.holeUpto - tail.lastId) :=
  TailIngest.skip_lastId _

end Loops

section Passes

variable [Sub Instant] [LE Instant] [DecidableLE Instant] {settings : TailSettings Instant}
  {tail after : TailIngest Instant}

/-- The end of a pass: the hole is left to its timer, or skipped and the rows behind
it drained. -/
def TailIngest.settle (settings : TailSettings Instant) (now : Instant)
    (tail : TailIngest Instant) : TailIngest Instant :=
  if (tail.skipExpiredHole settings now).2 then
    ((tail.skipExpiredHole settings now).1.drain settings).1
  else (tail.skipExpiredHole settings now).1

theorem step_eq {rows : List ScanData} {maxScanId : Nat} {now : Instant}
    (behind : tail.lastId ≤ maxScanId) :
    tail.step settings (.rows rows maxScanId tail.logId, now) =
      some (if ((tail.hold rows).drain settings).2 then
        ({ ((tail.hold rows).drain settings).1 with holeSince := none }).settle settings now
        else ((tail.hold rows).drain settings).1.settle settings now) := by
  simp only [TailIngest.step, TailIngest.pass, ne_eq, not_true_eq_false, ↓reduceIte,
    Nat.not_lt.mpr behind, TailIngest.settle]
  generalize (tail.hold rows).drain settings = drained
  obtain ⟨merged, progressed⟩ := drained
  cases progressed
  · cases skipped : (merged.skipExpiredHole settings now).2 <;> simp [skipped]
  · cases skipped :
      (TailIngest.skipExpiredHole settings now { merged with holeSince := none }).2 <;>
        simp [skipped]

theorem step_reads {rows : List ScanData} {maxScanId : Nat} {logId : Option String}
    {now : Instant} (taken : tail.step settings (.rows rows maxScanId logId, now) = some after) :
    logId = tail.logId ∧ tail.lastId ≤ maxScanId := by
  simp only [TailIngest.step, TailIngest.pass] at taken
  by_cases replaced : logId ≠ tail.logId
  · simp [replaced] at taken
  by_cases behind : maxScanId < tail.lastId
  · simp [replaced, behind] at taken
  exact ⟨not_not.mp replaced, Nat.not_lt.mp behind⟩

/-- The four ends of a pass. -/
theorem settle_cases (settings : TailSettings Instant) (now : Instant)
    (tail : TailIngest Instant) :
    ((∀ id, ¬ tail.Pends id) ∧ tail.settle settings now = { tail with holeSince := none }) ∨
    ∃ lowest, tail.Pends lowest ∧ (∀ id, tail.Pends id → lowest ≤ id) ∧
      ((tail.holeSince = none ∧ tail.settle settings now =
        { tail with holeSince := some now, holeUpto := lowest - 1 }) ∨
      ∃ since, tail.holeSince = some since ∧
        ((now - since ≤ settings.grace ∧ tail.settle settings now = tail) ∨
        (¬ now - since ≤ settings.grace ∧
          tail.settle settings now = ((tail.skipHole settings).drain settings).1))) := by
  simp only [TailIngest.settle, TailIngest.skipExpiredHole]
  cases least : (tail.pending.rows.map Prod.fst).min? with
  | none =>
      rw [List.min?_eq_none_iff] at least
      exact .inl ⟨fun id pends => by simp [pends_iff, least] at pends, rfl⟩
  | some lowest =>
      obtain ⟨listed, lower⟩ := List.min?_eq_some_iff.mp least
      refine .inr ⟨lowest, pends_iff.mpr listed, fun id pends => lower id (pends_iff.mp pends), ?_⟩
      cases timed : tail.holeSince with
      | none => exact .inl ⟨rfl, rfl⟩
      | some since =>
          refine .inr ⟨since, rfl, ?_⟩
          by_cases inTime : now - since ≤ settings.grace
          · exact .inl ⟨inTime, by simp [inTime]⟩
          · exact .inr ⟨inTime, by simp [inTime, TailIngest.skipHole]⟩

end Passes

/-- What a pass leaves: nothing is pending next to the cursor, and a hole that is
being timed ends before a pending row and after every row below the cursor. -/
structure Poised (tail : TailIngest Instant) : Prop where
  next : ¬ tail.Pends (tail.lastId + 1)
  positive : ¬ tail.Pends 0
  emitted : ∀ id ∈ tail.emitted, id ≤ tail.lastId
  hole : tail.holeSince ≠ none → tail.Pends (tail.holeUpto + 1) ∧
    ∀ id, tail.Pends id → id ≤ tail.lastId → tail.holeUpto < id

section Poised

variable {settings : TailSettings Instant} {tail after : TailIngest Instant}

theorem pends_hold {rows : List ScanData} {id : Nat} :
    ((tail.hold rows).Pends id → tail.Pends id ∨ tail.lastId < id) ∧
      (tail.Pends id → (tail.hold rows).Pends id) := by
  unfold TailIngest.Pends TailIngest.hold
  simp only
  generalize tail.pending = pending
  induction rows generalizing pending with
  | nil => exact ⟨.inl, fun pends => pends⟩
  | cons row rows ih =>
      rw [List.foldl_cons]
      obtain ⟨some, all⟩ := ih (if tail.lastId < row.scanId then
        pending.put row.scanId row.sku else pending)
      by_cases ahead : tail.lastId < row.scanId
      · simp only [ahead, ↓reduceIte] at some all ⊢
        refine ⟨fun pends => ?_, fun pends => all ?_⟩
        · rcases some pends with before | above
          · rw [Table.lookup_put] at before
            split at before
            · rename_i same
              exact .inr (same ▸ ahead)
            · exact .inl before
          · exact .inr above
        · rw [Table.lookup_put]
          split
          · simp
          · exact pends
      · simp only [ahead, ↓reduceIte] at some all ⊢
        exact ⟨some, all⟩

/-- Rows the tail holds already change nothing. -/
theorem hold_eq {rows : List ScanData}
    (known : ∀ row ∈ rows, tail.lastId < row.scanId →
      tail.pending.lookup row.scanId = some row.sku) : tail.hold rows = tail := by
  have same : rows.foldl (fun pending row =>
      if tail.lastId < row.scanId then pending.put row.scanId row.sku else pending) tail.pending =
      tail.pending := by
    induction rows with
    | nil => rfl
    | cons row rows ih =>
        have here : (if tail.lastId < row.scanId then
            tail.pending.put row.scanId row.sku else tail.pending) = tail.pending := by
          split
          · rename_i ahead
            exact Table.put_of_lookup (known row (by simp) ahead)
          · rfl
        rw [List.foldl_cons, here]
        exact ih (fun other member => known other (by simp [member]))
  simp only [TailIngest.hold, same]

/-- A drain leaves the tail poised for the next pass. -/
theorem poised_drain (positive : ¬ tail.Pends 0) (emitted : ∀ id ∈ tail.emitted, id ≤ tail.lastId)
    (untimed : tail.holeSince = none) : Poised (tail.drain settings).1 := by
  have drained := drainedFrom_drain settings tail
  refine ⟨drain_next settings tail, fun pends => positive (drained.fewer 0 pends), ?_, ?_⟩
  · intro id member
    rcases drained.new id member with old | between
    · exact (emitted id old).trans drained.cursor
    · exact between.2
  · intro timed
    rw [drained.holeSince, untimed] at timed
    contradiction

theorem Poised.hold {rows : List ScanData} (poised : Poised tail)
    (next : ¬ (tail.hold rows).Pends (tail.lastId + 1)) : Poised (tail.hold rows) where
  next := next
  positive pends := by
    rcases pends_hold.1 pends with old | above
    · exact poised.positive old
    · omega
  emitted := poised.emitted
  hole timed := by
    obtain ⟨ends, after⟩ := poised.hole timed
    refine ⟨pends_hold.2 ends, fun id pends below => ?_⟩
    rcases pends_hold.1 pends with old | above
    · exact after id old below
    · exact absurd below (not_le.mpr above)

variable [Sub Instant] [LE Instant] [DecidableLE Instant]

theorem Poised.settle (now : Instant) (poised : Poised tail) :
    Poised (tail.settle settings now) := by
  rcases settle_cases settings now tail with
    ⟨_, same⟩ | ⟨lowest, pends, lower, ⟨_, same⟩ | ⟨since, _, ⟨_, same⟩ | ⟨_, same⟩⟩⟩
  · rw [same]
    exact ⟨poised.next, poised.positive, poised.emitted, fun timed => absurd rfl timed⟩
  · have positive : 0 < lowest := by
      refine Nat.pos_of_ne_zero fun zero => ?_
      subst zero
      exact poised.positive pends
    rw [same]
    refine ⟨poised.next, poised.positive, poised.emitted, fun _ => ⟨?_, ?_⟩⟩
    · simp only [Nat.sub_add_cancel positive]
      exact pends
    · intro id holds below
      have least := lower id holds
      simp only
      omega
  · rwa [same]
  · obtain ⟨pending, emitted, _⟩ := skipHole_kept settings tail
    have cursor := skipHole_lastId settings tail
    rw [same]
    refine poised_drain ?_ ?_ rfl
    · rw [TailIngest.Pends, pending]
      exact poised.positive
    · intro id member
      rw [emitted] at member
      have bound := poised.emitted id member
      omega

/-- Step lemma: every pass leaves the tail poised. -/
theorem Poised.step {given : Read × Instant} (poised : Poised tail)
    (taken : tail.step settings given = some after) : Poised after := by
  obtain ⟨read, now⟩ := given
  cases read with
  | upstreamUnavailable =>
      cases taken
      exact poised
  | rows rows maxScanId logId =>
      obtain ⟨rfl, behind⟩ := step_reads taken
      rw [step_eq behind, Option.some.injEq] at taken
      rw [← taken]
      by_cases next : (tail.hold rows).Pends ((tail.hold rows).lastId + 1)
      · rw [if_pos (drain_emits settings next).1]
        have positive : ¬ (tail.hold rows).Pends 0 := by
          intro pends
          rcases pends_hold.1 pends with old | above
          · exact poised.positive old
          · omega
        have drained := drainedFrom_drain settings (tail.hold rows)
        refine Poised.settle now ⟨drain_next settings _,
          fun pends => positive (drained.fewer 0 pends), ?_, fun timed => absurd rfl timed⟩
        intro id member
        rcases drained.new id member with old | between
        · exact (poised.emitted id old).trans drained.cursor
        · exact between.2
      · rw [drain_none next]
        exact (poised.hold next).settle now

theorem poised_of_run {logId : Option String} {startAfter : Nat} {first : Option Nat}
    {passes : List (Read × Instant)}
    (run : Run (TailIngest.step settings) Any (TailIngest.start settings logId startAfter first)
      passes tail) : Poised tail := by
  refine run.invariant ?_ (fun _ _ _ poised _ taken => poised.step taken)
  constructor <;> simp [TailIngest.start, TailIngest.Pends, TailIngest.emitted, scans]

/-- The timer runs since one of the passes. -/
theorem holeSince_of_run {logId : Option String} {startAfter : Nat} {first : Option Nat}
    {passes : List (Read × Instant)}
    (run : Run (TailIngest.step settings) Any (TailIngest.start settings logId startAfter first)
      passes tail) {since : Instant} (timed : tail.holeSince = some since) :
    since ∈ passes.map Prod.snd := by
  induction run with
  | start => contradiction
  | @snoc passes before after given past permitted taken ih =>
      obtain ⟨read, now⟩ := given
      have settled : ∀ tail : TailIngest Instant, (tail.settle settings now).holeSince = some since →
          tail.holeSince = some since ∨ since = now := by
        intro tail running
        rcases settle_cases settings now tail with
          ⟨_, same⟩ | ⟨lowest, _, _, ⟨_, same⟩ | ⟨_, _, ⟨_, same⟩ | ⟨_, same⟩⟩⟩
        · rw [same] at running
          contradiction
        · rw [same] at running
          simp only [Option.some.injEq] at running
          exact .inr running.symm
        · rw [same] at running
          exact .inl running
        · rw [same, (drainedFrom_drain settings _).holeSince] at running
          contradiction
      rw [List.map_append, List.mem_append, List.map_singleton, List.mem_singleton]
      cases read with
      | upstreamUnavailable =>
          cases taken
          exact .inl (ih timed)
      | rows rows maxScanId logId =>
          obtain ⟨rfl, behind⟩ := step_reads taken
          rw [step_eq behind, Option.some.injEq] at taken
          rw [← taken] at timed
          split at timed
          · rcases settled _ timed with running | same
            · contradiction
            · exact .inr same
          · rcases settled _ timed with running | same
            · rw [(drainedFrom_drain settings _).holeSince] at running
              exact .inl (ih running)
            · exact .inr same

end Poised

section Quiet

variable [Sub Instant] [LE Instant] [DecidableLE Instant] {settings : TailSettings Instant}
  {start tail after : TailIngest Instant}

/-- What passes that read nothing new leave of the tail they started from. -/
structure QuietSince (start tail : TailIngest Instant) : Prop where
  poised : Poised tail
  logId : tail.logId = start.logId
  cursor : start.lastId ≤ tail.lastId
  reached : tail.lastId = start.lastId ∨ ∃ id, start.Pends id ∧ tail.lastId ≤ id
  kept : ∀ id, tail.lastId < id → tail.pending.lookup id = start.pending.lookup id
  fewer : ∀ id, tail.Pends id → start.Pends id

omit [Sub Instant] [LE Instant] [DecidableLE Instant] in
theorem QuietSince.refl (poised : Poised start) : QuietSince start start :=
  ⟨poised, rfl, le_rfl, .inl rfl, fun _ _ => rfl, fun _ pends => pends⟩

theorem QuietSince.settle (now : Instant) (quiet : QuietSince start tail) :
    QuietSince start (tail.settle settings now) := by
  have poised : Poised (tail.settle settings now) := quiet.poised.settle now
  rcases settle_cases settings now tail with
    ⟨_, same⟩ | ⟨lowest, _, _, ⟨_, same⟩ | ⟨since, timed, ⟨_, same⟩ | ⟨_, same⟩⟩⟩
  · rw [same] at poised ⊢
    exact ⟨poised, quiet.logId, quiet.cursor, quiet.reached, quiet.kept, quiet.fewer⟩
  · rw [same] at poised ⊢
    exact ⟨poised, quiet.logId, quiet.cursor, quiet.reached, quiet.kept, quiet.fewer⟩
  · rwa [same]
  · obtain ⟨pending, _, logId⟩ := skipHole_kept settings tail
    have cursor := skipHole_lastId settings tail
    have drained := drainedFrom_drain settings (tail.skipHole settings)
    have further := drained.cursor
    have before := quiet.cursor
    have ends := (quiet.poised.hole (by simp [timed])).1
    have fewer : ∀ id, (tail.skipHole settings).Pends id → start.Pends id := by
      intro id pends
      rw [TailIngest.Pends, pending] at pends
      exact quiet.fewer id pends
    rw [same] at poised ⊢
    refine ⟨poised, (drained.logId.trans logId).trans quiet.logId, by omega, ?_, ?_,
      fun id pends => fewer id (drained.fewer id pends)⟩
    · rcases drained.reached with stopped | row
      · rw [stopped, cursor]
        rcases Nat.le_total tail.holeUpto tail.lastId with passed | ahead
        · rw [Nat.sub_eq_zero_of_le passed]
          exact quiet.reached
        · exact .inr ⟨tail.holeUpto + 1, quiet.fewer _ ends, by omega⟩
      · exact .inr ⟨_, fewer _ row, le_rfl⟩
    · intro id above
      rw [drained.kept id (.inr above), pending]
      exact quiet.kept id (by omega)

/-- A quiet pass is its end. -/
theorem QuietSince.step {given : Read × Instant} (quiet : QuietSince start tail)
    (silent : Quiet start given) :
    tail.step settings given = some (tail.settle settings given.2) := by
  obtain ⟨read, now⟩ := given
  cases read with
  | upstreamUnavailable => contradiction
  | rows rows maxScanId logId =>
      obtain ⟨rfl, beyond, highest, known⟩ := silent
      have behind : tail.lastId ≤ maxScanId := by
        rcases quiet.reached with same | ⟨id, pends, below⟩
        · omega
        · exact below.trans (highest id pends)
      have held : tail.hold rows = tail := by
        refine hold_eq fun row member ahead => ?_
        rw [quiet.kept _ ahead]
        exact known row member
      rw [← quiet.logId, step_eq behind, held, drain_none quiet.poised.next]
      rfl

/-- The tail after the ends of passes at these times. -/
def TailIngest.settled (settings : TailSettings Instant) (tail : TailIngest Instant)
    (times : List Instant) : TailIngest Instant :=
  times.foldl (fun tail now => tail.settle settings now) tail

theorem QuietSince.run {quiet : List (Read × Instant)} (since : QuietSince start tail)
    (silent : ∀ given ∈ quiet, Quiet start given) :
    Run (TailIngest.step settings) Any tail quiet (tail.settled settings (quiet.map Prod.snd)) := by
  induction quiet generalizing tail with
  | nil => exact .start
  | cons given quiet ih =>
      have taken : tail.step settings given = some (tail.settle settings given.2) :=
        since.step (silent given List.mem_cons_self)
      have first : Run (TailIngest.step settings) Any tail [given]
          (tail.settle settings given.2) := Run.start.snoc trivial taken
      exact first.append (ih (since.settle given.2)
        (fun other member => silent other (List.mem_cons_of_mem _ member)))

/-- The tail has moved on, and the row it was behind is on the queue. -/
def Progressed (start : TailIngest Instant) (id : Nat) (tail : TailIngest Instant) : Prop :=
  start.lastId < tail.lastId ∧ id ∈ tail.emitted

theorem settle_grows (settings : TailSettings Instant) (now : Instant)
    (tail : TailIngest Instant) :
    tail.lastId ≤ (tail.settle settings now).lastId ∧
      (∀ id ∈ tail.emitted, id ∈ (tail.settle settings now).emitted) ∧
      ∀ id ∈ (tail.settle settings now).emitted, id ∈ tail.emitted ∨ tail.lastId < id := by
  rcases settle_cases settings now tail with
    ⟨_, same⟩ | ⟨lowest, _, _, ⟨_, same⟩ | ⟨since, _, ⟨_, same⟩ | ⟨_, same⟩⟩⟩
  · rw [same]
    exact ⟨le_rfl, fun _ member => member, fun _ member => .inl member⟩
  · rw [same]
    exact ⟨le_rfl, fun _ member => member, fun _ member => .inl member⟩
  · rw [same]
    exact ⟨le_rfl, fun _ member => member, fun _ member => .inl member⟩
  · obtain ⟨_, emitted, _⟩ := skipHole_kept settings tail
    have cursor := skipHole_lastId settings tail
    have drained := drainedFrom_drain settings (tail.skipHole settings)
    have further := drained.cursor
    rw [same]
    refine ⟨by omega, fun id member => drained.old id (emitted ▸ member), fun id member => ?_⟩
    rcases drained.new id member with old | between
    · exact .inl (emitted ▸ old)
    · exact .inr (by omega)

theorem Progressed.settled {id : Nat} {times : List Instant} (progressed : Progressed start id tail) :
    Progressed start id (tail.settled settings times) := by
  induction times generalizing tail with
  | nil => exact progressed
  | cons now times ih =>
      obtain ⟨cursor, emitted, _⟩ := settle_grows settings now tail
      exact ih ⟨lt_of_lt_of_le progressed.1 cursor, emitted id progressed.2⟩

/-- The pass in which a clear hole expires reaches the row behind it. -/
theorem Poised.expires {id : Nat} {since now : Instant} (poised : Poised tail)
    (clear : HolesClear tail) (smallest : Smallest tail id) (timed : tail.holeSince = some since)
    (expired : ¬ now - since ≤ settings.grace) :
    Progressed tail id (tail.settle settings now) := by
  obtain ⟨pends, ahead, least⟩ := smallest
  have running : tail.holeSince ≠ none := by simp [timed]
  have ends := (poised.hole running).1
  have bound := least _ ends (clear _ ends).1
  have beyond := (clear id pends).2 running
  rcases settle_cases settings now tail with
    ⟨none, _⟩ | ⟨lowest, _, _, ⟨untimed, _⟩ | ⟨other, same, ⟨inTime, _⟩ | ⟨_, done⟩⟩⟩
  · exact absurd pends (none id)
  · exact absurd untimed running
  · rw [timed, Option.some.injEq] at same
    exact absurd (same ▸ inTime) expired
  · obtain ⟨pending, _, _⟩ := skipHole_kept settings tail
    have cursor := skipHole_lastId settings tail
    have next : (tail.skipHole settings).lastId + 1 = id := by omega
    have row : (tail.skipHole settings).Pends ((tail.skipHole settings).lastId + 1) := by
      rw [TailIngest.Pends, pending, next]
      exact pends
    obtain ⟨_, moved, emitted⟩ := drain_emits settings row
    rw [done]
    exact ⟨by omega, next ▸ emitted⟩

/-- A row below the cursor keeps every hole's end below it: the cursor rests. -/
theorem Poised.rests {id : Nat} (settings : TailSettings Instant) (poised : Poised tail)
    (pends : tail.Pends id) (below : id ≤ tail.lastId) (now : Instant) :
    (tail.settle settings now).lastId = tail.lastId ∧ (tail.settle settings now).Pends id := by
  rcases settle_cases settings now tail with
    ⟨_, same⟩ | ⟨lowest, _, _, ⟨_, same⟩ | ⟨since, timed, ⟨_, same⟩ | ⟨_, same⟩⟩⟩
  · rw [same]
    exact ⟨rfl, pends⟩
  · rw [same]
    exact ⟨rfl, pends⟩
  · rw [same]
    exact ⟨rfl, pends⟩
  · obtain ⟨pending, _, _⟩ := skipHole_kept settings tail
    have ends := (poised.hole (by simp [timed])).2 id pends below
    have cursor : (tail.skipHole settings).lastId = tail.lastId := by
      rw [skipHole_lastId, Nat.sub_eq_zero_of_le (by omega), Nat.add_zero]
    have stopped : ¬ (tail.skipHole settings).Pends ((tail.skipHole settings).lastId + 1) := by
      rw [TailIngest.Pends, pending, cursor]
      exact poised.next
    rw [same, drain_none stopped]
    exact ⟨cursor, by rwa [TailIngest.Pends, pending]⟩

/-- No number of quiet passes moves a cursor with a row below it. -/
theorem Poised.rests_settled {id : Nat} (settings : TailSettings Instant) (times : List Instant)
    (poised : Poised tail) (pends : tail.Pends id) (below : id ≤ tail.lastId) :
    (tail.settled settings times).lastId = tail.lastId := by
  induction times generalizing tail with
  | nil => rfl
  | cons now times ih =>
      obtain ⟨cursor, still⟩ := poised.rests settings pends below now
      exact (ih (poised.settle now) still (by omega)).trans cursor

/-- The cursor has passed an id that was not emitted, or the timer of a hole around
it runs. -/
def Missed (id : Nat) (tail : TailIngest Instant) : Prop :=
  id ∉ tail.emitted ∧
    (id ≤ tail.lastId ∨ tail.holeSince ≠ none ∧ id ≤ tail.holeUpto)

theorem Missed.settle {id : Nat} (missed : Missed id tail) (poised : Poised tail)
    (now : Instant) : Missed id (tail.settle settings now) := by
  obtain ⟨absent, passed | ⟨running, inside⟩⟩ := missed
  · obtain ⟨cursor, _, new⟩ := settle_grows settings now tail
    refine ⟨fun member => ?_, .inl (passed.trans cursor)⟩
    rcases new id member with old | above
    · exact absent old
    · omega
  · rcases settle_cases settings now tail with
      ⟨none, _⟩ | ⟨lowest, _, _, ⟨untimed, _⟩ | ⟨since, _, ⟨_, same⟩ | ⟨_, same⟩⟩⟩
    · exact absurd (poised.hole running).1 (none _)
    · exact absurd untimed running
    · rw [same]
      exact ⟨absent, .inr ⟨running, inside⟩⟩
    · obtain ⟨_, emitted, _⟩ := skipHole_kept settings tail
      have cursor := skipHole_lastId settings tail
      have drained := drainedFrom_drain settings (tail.skipHole settings)
      have further := drained.cursor
      rw [same]
      refine ⟨fun member => ?_, .inl (by omega)⟩
      rcases drained.new id member with old | between
      · exact absent (emitted ▸ old)
      · omega

theorem Missed.settled {id : Nat} {times : List Instant} (missed : Missed id tail)
    (poised : Poised tail) : id ∉ (tail.settled settings times).emitted := by
  induction times generalizing tail with
  | nil => exact missed.1
  | cons now times ih => exact ih (missed.settle poised now) (poised.settle now)

/-- Unless the holes are clear, no number of passes makes progress. -/
theorem Poised.stalls {id : Nat} {times : List Instant} (poised : Poised tail)
    (smallest : Smallest tail id) (unclear : ¬ HolesClear tail) :
    ¬ Progressed tail id (tail.settled settings times) := by
  obtain ⟨pends, ahead, least⟩ := smallest
  simp only [HolesClear, not_forall] at unclear
  obtain ⟨other, row, wrong⟩ := unclear
  by_cases below : other ≤ tail.lastId
  · intro progressed
    have rests := poised.rests_settled settings times row below
    exact absurd progressed.1 (by omega)
  · rw [not_and_or] at wrong
    rcases wrong with stale | inside
    · omega
    · simp only [Classical.not_imp, not_lt] at inside
      have bound := least other row (by omega)
      have absent : id ∉ tail.emitted := fun member =>
        absurd (poised.emitted id member) (by omega)
      have missed : Missed id tail := ⟨absent, .inr ⟨inside.1, by omega⟩⟩
      exact fun progressed => missed.settled poised progressed.2

end Quiet

section Clock

variable [AddCommGroup Instant] [LinearOrder Instant] [IsOrderedAddMonoid Instant]
  {settings : TailSettings Instant} {tail : TailIngest Instant}

/-- Two passes more than the grace period apart get the tail past a clear hole. -/
theorem Poised.progresses {id : Nat} {first second : Instant} {times : List Instant}
    (poised : Poised tail) (clear : HolesClear tail) (smallest : Smallest tail id)
    (started : ∀ since, tail.holeSince = some since → since ≤ first)
    (apart : settings.grace < second - first) :
    Progressed tail id (tail.settled settings (first :: second :: times)) := by
  have settled : tail.settled settings (first :: second :: times) =
      ((tail.settle settings first).settle settings second).settled settings times := rfl
  rw [settled]
  apply Progressed.settled
  have once : Poised (tail.settle settings first) := poised.settle first
  rcases settle_cases settings first tail with
    ⟨none, _⟩ | ⟨lowest, pends, lower, ⟨untimed, same⟩ | ⟨since, timed, ⟨_, same⟩ | ⟨expired, same⟩⟩⟩
  · exact absurd smallest.1 (none id)
  · -- The first pass starts the timer, at the end of the hole below `id`.
    rw [same] at once ⊢
    have least := lower id smallest.1
    refine Poised.expires once (fun other row => ⟨(clear other row).1, fun _ => ?_⟩) smallest rfl
      (not_le.mpr apart)
    have positive : 0 < other := by
      refine Nat.pos_of_ne_zero fun zero => ?_
      subst zero
      exact poised.positive row
    have bound := lower other row
    simp only
    omega
  · rw [same]
    refine poised.expires clear smallest timed (not_le.mpr (lt_of_lt_of_le apart ?_))
    exact sub_le_sub_left (started since timed) second
  · obtain ⟨cursor, emitted⟩ := poised.expires clear smallest timed expired
    obtain ⟨further, old, _⟩ := settle_grows settings second (tail.settle settings first)
    exact ⟨lt_of_lt_of_le cursor further, old id emitted⟩

/-- Behind holes that never fill, the tail gets to the smallest row above its cursor
within two passes if and only if its holes are clear; otherwise it never does. -/
theorem permanent_gap_passed_iff (settings : TailSettings Instant) (logId : Option String)
    (startAfter : Nat) (first : Option Nat) (passes quiet : List (Read × Instant))
    (tail : TailIngest Instant) (id : Nat)
    (run : Run (TailIngest.step settings) Any (TailIngest.start settings logId startAfter first)
      passes tail)
    (clock : ((passes ++ quiet).map Prod.snd).Pairwise (· ≤ ·))
    (smallest : Smallest tail id) (silent : ∀ given ∈ quiet, Quiet tail given)
    (apart : (quiet.map Prod.snd).IsChain (fun earlier later => settings.grace < later - earlier))
    (two : 2 ≤ quiet.length) :
    ∃ after, Run (TailIngest.step settings) Any tail quiet after ∧
      ((tail.lastId < after.lastId ∧ id ∈ (scans after.out).map ScanData.scanId) ↔
        HolesClear tail) := by
  have poised := poised_of_run run
  refine ⟨_, (QuietSince.refl poised).run silent, ?_, fun clear => ?_⟩
  · intro progressed
    by_contra unclear
    exact poised.stalls smallest unclear progressed
  · match quiet, two with
    | one :: other :: rest, _ =>
        rw [List.map_append, List.pairwise_append] at clock
        simp only [List.map_cons] at clock apart ⊢
        refine poised.progresses clear smallest (fun since timed => ?_) ?_
        · exact clock.2.2 since (holeSince_of_run run timed) one.2 List.mem_cons_self
        · exact (List.isChain_cons_cons.mp apart).1

end Clock

def tenSeconds : TailSettings Int := { slide := 5, slidePos := Nat.succ_pos 4, batch := 1000, grace := 10 }

/-- The row behind a hole, read three times. -/
def secondRow (now : Int) : Read × Int := (.rows [⟨2, "SKU-000001"⟩] 2 none, now)

theorem secondRow_runs : ([secondRow 0].foldlM (TailIngest.step tenSeconds)
    (TailIngest.start tenSeconds none 0 none)).isSome = true := by
  decide +kernel

theorem permanent_gap_passed_iff_secondRow :
    ∃ tail after, Run (TailIngest.step tenSeconds) Any (TailIngest.start tenSeconds none 0 none)
        [secondRow 0] tail ∧
      Run (TailIngest.step tenSeconds) Any tail [secondRow 5, secondRow 20] after ∧
      tail.lastId < after.lastId ∧ 2 ∈ (scans after.out).map ScanData.scanId := by
  have run := Run.of_foldlM (Option.some_get secondRow_runs).symm
  obtain ⟨after, quietly, progressed⟩ := permanent_gap_passed_iff tenSeconds none 0 none
    [secondRow 0] [secondRow 5, secondRow 20] _ 2 run (by decide) (by decide +kernel)
    (by decide +kernel) (by decide) (by decide)
  exact ⟨_, after, run, quietly, progressed.mpr (by decide +kernel)⟩

/-- Row 8 starts the timer of the hole 1..7, row 3 commits late and is passed over
with the hole; row 10 then waits behind id 9, which never commits. -/
def secondHole : List (Read × Int) :=
  [(.rows [⟨8, "SKU-000001"⟩] 8 none, 0),
    (.rows [⟨3, "SKU-000001"⟩, ⟨8, "SKU-000001"⟩] 8 none, 5),
    (.rows [⟨3, "SKU-000001"⟩, ⟨8, "SKU-000001"⟩] 8 none, 20),
    (.rows [⟨10, "SKU-000001"⟩] 10 none, 30)]

theorem secondHole_runs : (secondHole.foldlM (TailIngest.step tenSeconds)
    (TailIngest.start tenSeconds none 0 none)).isSome = true := by
  decide +kernel

def stalledTail : TailIngest Int :=
  (secondHole.foldlM (TailIngest.step tenSeconds)
    (TailIngest.start tenSeconds none 0 none)).get secondHole_runs

/-- The second hole is never skipped, however long the tail waits. -/
theorem second_hole_stalls_tail :
    Run (TailIngest.step tenSeconds) Any (TailIngest.start tenSeconds none 0 none) secondHole
        stalledTail ∧
      Smallest stalledTail 10 ∧
      ∀ quiet : List (Read × Int), (∀ given ∈ quiet, Quiet stalledTail given) →
        ∃ after, Run (TailIngest.step tenSeconds) Any stalledTail quiet after ∧
          after.lastId = stalledTail.lastId ∧ 10 ∉ (scans after.out).map ScanData.scanId := by
  have run : Run (TailIngest.step tenSeconds) Any (TailIngest.start tenSeconds none 0 none)
      secondHole stalledTail := Run.of_foldlM (Option.some_get secondHole_runs).symm
  have poised := poised_of_run run
  have stale : stalledTail.Pends 3 ∧ 3 ≤ stalledTail.lastId ∧ stalledTail.lastId < 10 := by
    decide +kernel
  refine ⟨run, by decide +kernel, fun quiet silent => ?_⟩
  have quietly : Run (TailIngest.step tenSeconds) Any stalledTail quiet _ :=
    (QuietSince.refl poised).run silent
  have rests := poised.rests_settled tenSeconds (quiet.map Prod.snd) stale.1 stale.2.1
  refine ⟨_, quietly, rests, fun member => ?_⟩
  have bound := (poised_of_run (run.append quietly)).emitted 10 member
  omega

end SelfCheckout.Analytics
