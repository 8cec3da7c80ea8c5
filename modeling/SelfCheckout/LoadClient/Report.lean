import SelfCheckout.Data.Writing
import SelfCheckout.LoadClient.Json

namespace SelfCheckout.LoadClient

open SelfCheckout.Data.Rfc8259

/-! # The report of a load test

The file `ReportWriter` writes at the end.  A `double` is the text Java writes for it, which is
a number of JSON if it is finite.
-/

/-- `Metrics.Summary`, with its `errorRate()` -/
structure Summary where
  operation : Text
  successCount : Nat
  errorCount : Nat
  errorRate : Text
  meanMs : Text
  p50Ms : Text
  p95Ms : Text
  p99Ms : Text
  minMs : Text
  maxMs : Text

structure LowStockAlert where
  sku : Text
  name : Text
  currentStock : Int
  threshold : Int

structure PopularItem where
  sku : Text
  name : Text
  scanCount : Int
  rank : Int

/-- What `writeJsonReport` is given. -/
structure Report where
  generatedAt : Text
  baseUrl : Text
  stations : Int
  durationSeconds : Int
  minItems : Int
  maxItems : Int
  wallClockSeconds : Text
  totalTransactions : Nat
  totalItems : Nat
  transactionsPerSecond : Text
  itemsPerSecond : Text
  operations : List Summary
  lowStock : List LowStockAlert
  popular : List PopularItem

/-- `"indent\"key\": "` -/
def label (indent key : String) : Text := units indent ++ unit '"' :: units key ++ units "\": "

/-- What a loop appends: each entry, and a comma if it is not the last. -/
def lines : List Text → Text
  | [] => []
  | [entry] => entry ++ units "\n"
  | entry :: next :: entries => entry ++ units ",\n" ++ lines (next :: entries)

def Summary.text (summary : Summary) : Text :=
  units "    \x7b\n" ++
  label "      " "operation" ++ quote summary.operation ++ units ",\n" ++
  label "      " "successCount" ++ decimal summary.successCount ++ units ",\n" ++
  label "      " "errorCount" ++ decimal summary.errorCount ++ units ",\n" ++
  label "      " "errorRate" ++ summary.errorRate ++ units ",\n" ++
  label "      " "meanMs" ++ summary.meanMs ++ units ",\n" ++
  label "      " "p50Ms" ++ summary.p50Ms ++ units ",\n" ++
  label "      " "p95Ms" ++ summary.p95Ms ++ units ",\n" ++
  label "      " "p99Ms" ++ summary.p99Ms ++ units ",\n" ++
  label "      " "minMs" ++ summary.minMs ++ units ",\n" ++
  label "      " "maxMs" ++ summary.maxMs ++ units "\n" ++
  units "    \x7d"

def LowStockAlert.text (alert : LowStockAlert) : Text :=
  units "    \x7b" ++ label "" "sku" ++ quote alert.sku ++
  label ", " "name" ++ quote alert.name ++
  label ", " "currentStock" ++ integer alert.currentStock ++
  label ", " "threshold" ++ integer alert.threshold ++ units "\x7d"

def PopularItem.text (item : PopularItem) : Text :=
  units "    \x7b" ++ label "" "rank" ++ integer item.rank ++
  label ", " "sku" ++ quote item.sku ++
  label ", " "name" ++ quote item.name ++
  label ", " "scanCount" ++ integer item.scanCount ++ units "\x7d"

/-- `writeJsonReport` -/
def Report.text (report : Report) : Text :=
  units "\x7b\n" ++
  label "  " "generatedAt" ++ quote report.generatedAt ++ units ",\n" ++
  label "  " "config" ++ units "\x7b\n" ++
  label "    " "baseUrl" ++ quote report.baseUrl ++ units ",\n" ++
  label "    " "stations" ++ integer report.stations ++ units ",\n" ++
  label "    " "durationSecondsRequested" ++ integer report.durationSeconds ++ units ",\n" ++
  label "    " "minItems" ++ integer report.minItems ++ units ",\n" ++
  label "    " "maxItems" ++ integer report.maxItems ++ units "\n" ++
  units "  \x7d,\n" ++
  label "  " "wallClockSeconds" ++ report.wallClockSeconds ++ units ",\n" ++
  label "  " "totalTransactions" ++ decimal report.totalTransactions ++ units ",\n" ++
  label "  " "totalItemsScanned" ++ decimal report.totalItems ++ units ",\n" ++
  label "  " "transactionsPerSecond" ++ report.transactionsPerSecond ++ units ",\n" ++
  label "  " "itemsPerSecond" ++ report.itemsPerSecond ++ units ",\n" ++
  label "  " "operations" ++ units "[\n" ++ lines (report.operations.map Summary.text) ++
  units "  ],\n" ++
  label "  " "lowStockAlerts" ++ units "[\n" ++ lines (report.lowStock.map LowStockAlert.text) ++
  units "  ],\n" ++
  label "  " "popularItems" ++ units "[\n" ++ lines (report.popular.map PopularItem.text) ++
  units "  ]\n" ++
  units "\x7d\n"

def Summary.value (summary : Summary) : Value Text :=
  .obj [(units "operation", .str summary.operation),
    (units "successCount", .num (decimal summary.successCount)),
    (units "errorCount", .num (decimal summary.errorCount)),
    (units "errorRate", .num summary.errorRate), (units "meanMs", .num summary.meanMs),
    (units "p50Ms", .num summary.p50Ms), (units "p95Ms", .num summary.p95Ms),
    (units "p99Ms", .num summary.p99Ms), (units "minMs", .num summary.minMs),
    (units "maxMs", .num summary.maxMs)]

def LowStockAlert.value (alert : LowStockAlert) : Value Text :=
  .obj [(units "sku", .str alert.sku), (units "name", .str alert.name),
    (units "currentStock", .num (integer alert.currentStock)),
    (units "threshold", .num (integer alert.threshold))]

def PopularItem.value (item : PopularItem) : Value Text :=
  .obj [(units "rank", .num (integer item.rank)), (units "sku", .str item.sku),
    (units "name", .str item.name), (units "scanCount", .num (integer item.scanCount))]

def Report.config (report : Report) : Value Text :=
  .obj [(units "baseUrl", .str report.baseUrl), (units "stations", .num (integer report.stations)),
    (units "durationSecondsRequested", .num (integer report.durationSeconds)),
    (units "minItems", .num (integer report.minItems)),
    (units "maxItems", .num (integer report.maxItems))]

def Report.value (report : Report) : Value Text :=
  .obj [(units "generatedAt", .str report.generatedAt), (units "config", report.config),
    (units "wallClockSeconds", .num report.wallClockSeconds),
    (units "totalTransactions", .num (decimal report.totalTransactions)),
    (units "totalItemsScanned", .num (decimal report.totalItems)),
    (units "transactionsPerSecond", .num report.transactionsPerSecond),
    (units "itemsPerSecond", .num report.itemsPerSecond),
    (units "operations", .arr (report.operations.map Summary.value)),
    (units "lowStockAlerts", .arr (report.lowStock.map LowStockAlert.value)),
    (units "popularItems", .arr (report.popular.map PopularItem.value))]

section Parts

variable {space key : String} {value : Value Text} {written after : Text}

/-- `quote` escapes the control characters for which it has a short escape, and no others. -/
def Quotable (raw : Text) : Prop :=
  ∀ c ∈ raw, 0x20 ≤ c ∨ c ∈ [unit '\n', unit '\r', unit '\t']

instance (raw : Text) : Decidable (Quotable raw) :=
  List.decidableBAll (fun c => 0x20 ≤ c ∨ c ∈ [unit '\n', unit '\r', unit '\t']) raw

theorem charText_escaped {c : CodeUnit} (quotable : 0x20 ≤ c ∨ c ∈ [unit '\n', unit '\r', unit '\t']) :
    CharText c (escaped c) := by
  unfold escaped
  split
  · rename_i same
    exact same ▸ .short _ _ (by decide)
  · rename_i quotation
    split
    · rename_i same
      exact same ▸ .short _ _ (by decide)
    · rename_i reverseSolidus
      split
      · rename_i same
        exact same ▸ .short _ _ (by decide)
      · rename_i notLine
        split
        · rename_i same
          exact same ▸ .short _ _ (by decide)
        · rename_i notReturn
          split
          · rename_i same
            exact same ▸ .short _ _ (by decide)
          · rename_i notTab
            refine .unescaped c (quotable.resolve_right ?_) quotation reverseSolidus
            simp [notLine, notReturn, notTab]

theorem spells_quote {raw : Text} (quotable : Quotable raw) :
    Spells (.value (.str raw)) (quote raw) := by
  refine .str _ _ ?_
  induction raw with
  | nil => exact .nil
  | cons c raw ih =>
      exact .cons (charText_escaped (quotable c List.mem_cons_self))
        (ih fun other isIn => quotable other (List.mem_cons_of_mem _ isIn))

/-- A member on a line of its own. -/
def onLine (space key : String) (value : Value Text) (written after : Text) : Member :=
  { before := units "\n" ++ units space, key := units key, beforeValue := units " ", value, written
    after }

/-- A member behind the one before it. -/
def inLine (space key : String) (value : Value Text) (written : Text) : Member :=
  { before := units space, key := units key, beforeValue := units " ", value, written, after := [] }

theorem text_onLine : (onLine space key value written after).text =
    units "\n" ++ (label space key ++ (written ++ after)) := by
  have colon : units "\": " = unit '"' :: unit ':' :: units " " := rfl
  simp only [Member.text, onLine, label, colon, List.append_assoc, List.cons_append, List.nil_append]

theorem text_inLine : (inLine space key value written).text = label space key ++ written := by
  have colon : units "\": " = unit '"' :: unit ':' :: units " " := rfl
  simp only [Member.text, inLine, label, colon, List.append_assoc, List.cons_append, List.nil_append,
    List.append_nil]

theorem sound_onLine (around : Ws (units space) ∧ PlainText (units key) ∧ Ws after)
    (spelt : Spells (.value value) written) : (onLine space key value written after).Sound := by
  obtain ⟨ws, plain, wsAfter⟩ := around
  have blank : Ws (units " ") := by decide
  refine ⟨⟨fun one isIn => ?_, wsAfter, spelt⟩, plain, blank⟩
  rcases List.mem_append.mp isIn with isLine | isSpace
  · exact (show Ws (units "\n") by decide) one isLine
  · exact ws one isSpace

theorem sound_inLine (around : Ws (units space) ∧ PlainText (units key))
    (spelt : Spells (.value value) written) : (inLine space key value written).Sound := by
  obtain ⟨ws, plain⟩ := around
  have blank : Ws (units " ") := by decide
  have nothing : Ws [] := by decide
  exact ⟨⟨ws, nothing, spelt⟩, plain, blank⟩

theorem joined_one (text : Text) : joined [text] = text := rfl

theorem joined_more (text next : Text) (texts : List Text) :
    joined (text :: next :: texts) = text ++ unit ',' :: joined (next :: texts) := rfl

theorem comma_line : units ",\n" = unit ',' :: units "\n" := rfl

/-- The entries of a loop stand in brackets on lines of their own. -/
theorem spells_lines {Entry : Type} {value : Entry → Value Text} {written : Entry → Text}
    {entries : List Entry} (spelt : ∀ entry ∈ entries, Spells (.value (value entry)) (written entry)) :
    Spells (.items (entries.map value))
      (units "\n" ++ lines (entries.map (fun entry => units "    " ++ written entry)) ++ units "  ") := by
  have line : units "\n" ++ units "    " = units "\n    " := rfl
  induction entries with
  | nil => exact .noItems (units "\n  ") (by decide)
  | cons entry entries ih =>
      have first := spelt entry List.mem_cons_self
      cases entries with
      | nil =>
          have one := Spells.item _ (units "\n    ") _ (units "\n  ") (by decide) (by decide) first
          rw [← line] at one
          have closing : units "\n  " = units "\n" ++ units "  " := rfl
          simpa only [lines, List.map_cons, List.map_nil, List.append_assoc, closing] using one
      | cons next entries =>
          have more := ih fun one isIn => spelt one (List.mem_cons_of_mem _ isIn)
          have all := Spells.moreItems _ _ _ (units "\n    ") _ [] _ (by decide) (by decide) first more
          rw [← line] at all
          simpa only [lines, comma_line, List.map_cons, List.append_assoc, List.cons_append,
            List.nil_append, List.append_nil] using all

end Parts

/-- Java writes a finite `double` as a number of JSON. -/
structure Summary.Finite (summary : Summary) : Prop where
  errorRate : NumberText summary.errorRate
  meanMs : NumberText summary.meanMs
  p50Ms : NumberText summary.p50Ms
  p95Ms : NumberText summary.p95Ms
  p99Ms : NumberText summary.p99Ms
  minMs : NumberText summary.minMs
  maxMs : NumberText summary.maxMs

def Summary.members (summary : Summary) : List Member :=
  [onLine "      " "operation" (.str summary.operation) (quote summary.operation) [],
    onLine "      " "successCount" (.num (decimal summary.successCount))
      (decimal summary.successCount) [],
    onLine "      " "errorCount" (.num (decimal summary.errorCount)) (decimal summary.errorCount) [],
    onLine "      " "errorRate" (.num summary.errorRate) summary.errorRate [],
    onLine "      " "meanMs" (.num summary.meanMs) summary.meanMs [],
    onLine "      " "p50Ms" (.num summary.p50Ms) summary.p50Ms [],
    onLine "      " "p95Ms" (.num summary.p95Ms) summary.p95Ms [],
    onLine "      " "p99Ms" (.num summary.p99Ms) summary.p99Ms [],
    onLine "      " "minMs" (.num summary.minMs) summary.minMs [],
    onLine "      " "maxMs" (.num summary.maxMs) summary.maxMs (units "\n    ")]

def braced (members : List Member) : Text := unit '{' :: joined (members.map Member.text) ++ [unit '}']

theorem Summary.text_eq (summary : Summary) : summary.text = units "    " ++ braced summary.members := by
  have opening : units "    \x7b\n" = units "    " ++ unit '{' :: units "\n" := rfl
  have closing : units "\n    " = units "\n" ++ units "    " := rfl
  have last : units "    \x7d" = units "    " ++ [unit '}'] := rfl
  unfold Summary.text
  simp only [braced, Summary.members, List.map_cons, List.map_nil, text_onLine, joined_one, joined_more,
    comma_line, opening, closing, last, List.append_assoc, List.cons_append, List.nil_append]

theorem Summary.spells {summary : Summary} (finite : summary.Finite)
    (operation : Quotable summary.operation) :
    Spells (.value summary.value) (braced summary.members) := by
  have sound : ∀ member ∈ summary.members, member.Sound := by
    simp only [Summary.members, List.forall_mem_cons]
    exact ⟨sound_onLine (by decide) (spells_quote operation),
      sound_onLine (by decide) (.num _ (numberText_decimal _)),
      sound_onLine (by decide) (.num _ (numberText_decimal _)),
      sound_onLine (by decide) (.num _ finite.errorRate),
      sound_onLine (by decide) (.num _ finite.meanMs),
      sound_onLine (by decide) (.num _ finite.p50Ms),
      sound_onLine (by decide) (.num _ finite.p95Ms),
      sound_onLine (by decide) (.num _ finite.p99Ms),
      sound_onLine (by decide) (.num _ finite.minMs),
      sound_onLine (by decide) (.num _ finite.maxMs),
      fun _ isIn => by contradiction⟩
  refine .obj _ _ ?_ (spells_members sound)
  show (["operation", "successCount", "errorCount", "errorRate", "meanMs", "p50Ms", "p95Ms", "p99Ms",
    "minMs", "maxMs"].map units).Nodup
  decide

def LowStockAlert.members (alert : LowStockAlert) : List Member :=
  [inLine "" "sku" (.str alert.sku) (quote alert.sku),
    inLine " " "name" (.str alert.name) (quote alert.name),
    inLine " " "currentStock" (.num (integer alert.currentStock)) (integer alert.currentStock),
    inLine " " "threshold" (.num (integer alert.threshold)) (integer alert.threshold)]

theorem label_comma (key : String) : label ", " key = unit ',' :: label " " key := rfl

theorem LowStockAlert.text_eq (alert : LowStockAlert) :
    alert.text = units "    " ++ braced alert.members := by
  have opening : units "    \x7b" = units "    " ++ [unit '{'] := rfl
  have closing : units "\x7d" = [unit '}'] := rfl
  unfold LowStockAlert.text
  simp only [braced, LowStockAlert.members, List.map_cons, List.map_nil, text_inLine, joined_one,
    joined_more, label_comma, opening, closing, List.append_assoc, List.cons_append, List.nil_append]

theorem LowStockAlert.spells {alert : LowStockAlert} (sku : Quotable alert.sku)
    (name : Quotable alert.name) :
    Spells (.value alert.value) (braced alert.members) := by
  have sound : ∀ member ∈ alert.members, member.Sound := by
    simp only [LowStockAlert.members, List.forall_mem_cons]
    exact ⟨sound_inLine (by decide) (spells_quote sku),
      sound_inLine (by decide) (spells_quote name),
      sound_inLine (by decide) (.num _ (numberText_integer _)),
      sound_inLine (by decide) (.num _ (numberText_integer _)),
      fun _ isIn => by contradiction⟩
  refine .obj _ _ ?_ (spells_members sound)
  show (["sku", "name", "currentStock", "threshold"].map units).Nodup
  decide

def PopularItem.members (item : PopularItem) : List Member :=
  [inLine "" "rank" (.num (integer item.rank)) (integer item.rank),
    inLine " " "sku" (.str item.sku) (quote item.sku),
    inLine " " "name" (.str item.name) (quote item.name),
    inLine " " "scanCount" (.num (integer item.scanCount)) (integer item.scanCount)]

theorem PopularItem.text_eq (item : PopularItem) : item.text = units "    " ++ braced item.members := by
  have opening : units "    \x7b" = units "    " ++ [unit '{'] := rfl
  have closing : units "\x7d" = [unit '}'] := rfl
  unfold PopularItem.text
  simp only [braced, PopularItem.members, List.map_cons, List.map_nil, text_inLine, joined_one,
    joined_more, label_comma, opening, closing, List.append_assoc, List.cons_append, List.nil_append]

theorem PopularItem.spells {item : PopularItem} (sku : Quotable item.sku) (name : Quotable item.name) :
    Spells (.value item.value) (braced item.members) := by
  have sound : ∀ member ∈ item.members, member.Sound := by
    simp only [PopularItem.members, List.forall_mem_cons]
    exact ⟨sound_inLine (by decide) (.num _ (numberText_integer _)),
      sound_inLine (by decide) (spells_quote sku),
      sound_inLine (by decide) (spells_quote name),
      sound_inLine (by decide) (.num _ (numberText_integer _)),
      fun _ isIn => by contradiction⟩
  refine .obj _ _ ?_ (spells_members sound)
  show (["rank", "sku", "name", "scanCount"].map units).Nodup
  decide

def Report.configMembers (report : Report) : List Member :=
  [onLine "    " "baseUrl" (.str report.baseUrl) (quote report.baseUrl) [],
    onLine "    " "stations" (.num (integer report.stations)) (integer report.stations) [],
    onLine "    " "durationSecondsRequested" (.num (integer report.durationSeconds))
      (integer report.durationSeconds) [],
    onLine "    " "minItems" (.num (integer report.minItems)) (integer report.minItems) [],
    onLine "    " "maxItems" (.num (integer report.maxItems)) (integer report.maxItems)
      (units "\n  ")]

theorem Report.spells_config {report : Report} (baseUrl : Quotable report.baseUrl) :
    Spells (.value report.config) (braced report.configMembers) := by
  have sound : ∀ member ∈ report.configMembers, member.Sound := by
    simp only [Report.configMembers, List.forall_mem_cons]
    exact ⟨sound_onLine (by decide) (spells_quote baseUrl),
      sound_onLine (by decide) (.num _ (numberText_integer _)),
      sound_onLine (by decide) (.num _ (numberText_integer _)),
      sound_onLine (by decide) (.num _ (numberText_integer _)),
      sound_onLine (by decide) (.num _ (numberText_integer _)),
      fun _ isIn => by contradiction⟩
  refine .obj _ _ ?_ (spells_members sound)
  show (["baseUrl", "stations", "durationSecondsRequested", "minItems", "maxItems"].map units).Nodup
  decide

structure Report.Finite (report : Report) : Prop where
  wallClockSeconds : NumberText report.wallClockSeconds
  transactionsPerSecond : NumberText report.transactionsPerSecond
  itemsPerSecond : NumberText report.itemsPerSecond
  operations : ∀ summary ∈ report.operations, summary.Finite

/-- No string of the report has a control character that `quote` leaves alone. -/
structure Report.Printable (report : Report) : Prop where
  generatedAt : Quotable report.generatedAt
  baseUrl : Quotable report.baseUrl
  operations : ∀ summary ∈ report.operations, Quotable summary.operation
  lowStock : ∀ alert ∈ report.lowStock, Quotable alert.sku ∧ Quotable alert.name
  popular : ∀ item ∈ report.popular, Quotable item.sku ∧ Quotable item.name

def bracketed {Entry : Type} (members : Entry → List Member) (entries : List Entry) : Text :=
  unit '[' :: (units "\n" ++ lines (entries.map (fun entry => units "    " ++ braced (members entry))) ++
    units "  ") ++ [unit ']']

def Report.members (report : Report) : List Member :=
  [onLine "  " "generatedAt" (.str report.generatedAt) (quote report.generatedAt) [],
    onLine "  " "config" report.config (braced report.configMembers) [],
    onLine "  " "wallClockSeconds" (.num report.wallClockSeconds) report.wallClockSeconds [],
    onLine "  " "totalTransactions" (.num (decimal report.totalTransactions))
      (decimal report.totalTransactions) [],
    onLine "  " "totalItemsScanned" (.num (decimal report.totalItems)) (decimal report.totalItems) [],
    onLine "  " "transactionsPerSecond" (.num report.transactionsPerSecond)
      report.transactionsPerSecond [],
    onLine "  " "itemsPerSecond" (.num report.itemsPerSecond) report.itemsPerSecond [],
    onLine "  " "operations" (.arr (report.operations.map Summary.value))
      (bracketed Summary.members report.operations) [],
    onLine "  " "lowStockAlerts" (.arr (report.lowStock.map LowStockAlert.value))
      (bracketed LowStockAlert.members report.lowStock) [],
    onLine "  " "popularItems" (.arr (report.popular.map PopularItem.value))
      (bracketed PopularItem.members report.popular) (units "\n")]

theorem Report.text_eq (report : Report) : report.text = braced report.members ++ units "\n" := by
  have opening : units "\x7b\n" = unit '{' :: units "\n" := rfl
  have closing : units "  \x7d,\n" = units "  " ++ unit '}' :: unit ',' :: units "\n" := rfl
  have bracket : units "[\n" = unit '[' :: units "\n" := rfl
  have endBracket : units "  ],\n" = units "  " ++ unit ']' :: unit ',' :: units "\n" := rfl
  have lastBracket : units "  ]\n" = units "  " ++ unit ']' :: units "\n" := rfl
  have last : units "\x7d\n" = unit '}' :: units "\n" := rfl
  have line : units "\n  " = units "\n" ++ units "  " := rfl
  have summaries : report.operations.map Summary.text =
      report.operations.map (fun summary => units "    " ++ braced summary.members) :=
    List.map_congr_left fun summary _ => summary.text_eq
  have alerts : report.lowStock.map LowStockAlert.text =
      report.lowStock.map (fun alert => units "    " ++ braced alert.members) :=
    List.map_congr_left fun alert _ => alert.text_eq
  have items : report.popular.map PopularItem.text =
      report.popular.map (fun item => units "    " ++ braced item.members) :=
    List.map_congr_left fun item _ => item.text_eq
  unfold Report.text
  rw [summaries, alerts, items]
  simp only [Report.members, Report.configMembers, braced, bracketed, List.map_cons, List.map_nil,
    text_onLine, joined_one, joined_more, comma_line, opening, closing, bracket, endBracket,
    lastBracket, last, line, List.append_assoc, List.cons_append, List.nil_append]

theorem Report.spells {report : Report} (finite : report.Finite) (printable : report.Printable) :
    Spells (.value report.value) (braced report.members) := by
  have operations : Spells (.value (.arr (report.operations.map Summary.value)))
      (bracketed Summary.members report.operations) :=
    .arr _ _ (spells_lines fun summary isIn =>
      Summary.spells (finite.operations summary isIn) (printable.operations summary isIn))
  have lowStock : Spells (.value (.arr (report.lowStock.map LowStockAlert.value)))
      (bracketed LowStockAlert.members report.lowStock) :=
    .arr _ _ (spells_lines fun alert isIn =>
      LowStockAlert.spells (printable.lowStock alert isIn).1 (printable.lowStock alert isIn).2)
  have popular : Spells (.value (.arr (report.popular.map PopularItem.value)))
      (bracketed PopularItem.members report.popular) :=
    .arr _ _ (spells_lines fun item isIn =>
      PopularItem.spells (printable.popular item isIn).1 (printable.popular item isIn).2)
  have sound : ∀ member ∈ report.members, member.Sound := by
    simp only [Report.members, List.forall_mem_cons]
    exact ⟨sound_onLine (by decide) (spells_quote printable.generatedAt),
      sound_onLine (by decide) (Report.spells_config printable.baseUrl),
      sound_onLine (by decide) (.num _ finite.wallClockSeconds),
      sound_onLine (by decide) (.num _ (numberText_decimal _)),
      sound_onLine (by decide) (.num _ (numberText_decimal _)),
      sound_onLine (by decide) (.num _ finite.transactionsPerSecond),
      sound_onLine (by decide) (.num _ finite.itemsPerSecond),
      sound_onLine (by decide) operations,
      sound_onLine (by decide) lowStock,
      sound_onLine (by decide) popular,
      fun _ isIn => by contradiction⟩
  refine .obj _ _ ?_ (spells_members sound)
  show (["generatedAt", "config", "wallClockSeconds", "totalTransactions", "totalItemsScanned",
    "transactionsPerSecond", "itemsPerSecond", "operations", "lowStockAlerts",
    "popularItems"].map units).Nodup
  decide

theorem quotable_append {first second : Text} :
    Quotable (first ++ second) ↔ Quotable first ∧ Quotable second :=
  List.forall_mem_append

theorem quotable_ws {space : Text} (ws : Ws space) : Quotable space := by
  intro c isIn
  have each : Quotable [unit ' ', unit '\t', unit '\n', unit '\r'] := by decide
  exact each c (ws c isIn)

theorem quotable_cons {first : CodeUnit} {text : Text} :
    Quotable (first :: text) ↔ Quotable [first] ∧ Quotable text :=
  show Quotable ([first] ++ text) ↔ _ from quotable_append

theorem quotable_hexDigit {value : Nat} {digit : CodeUnit} (isDigit : HexDigit value digit) :
    Quotable [digit] := by
  have all : ∀ value < 10, Quotable [UInt16.ofNat (0x30 + value)] ∧
      Quotable [UInt16.ofNat (0x41 + value)] ∧ Quotable [UInt16.ofNat (0x61 + value)] := by
    decide
  cases isDigit with
  | digit value bound => exact (all value bound).1
  | upper value bound => exact (all value (by omega)).2.1
  | lower value bound => exact (all value (by omega)).2.2

theorem quotable_chars {text written : Text} (chars : CharsText text written) : Quotable written := by
  induction chars with
  | nil => exact fun c isIn => by contradiction
  | cons char _ ih =>
      refine quotable_append.mpr ⟨?_, ih⟩
      cases char with
      | unescaped _ control =>
          intro c isIn
          rw [List.mem_singleton.mp isIn]
          exact .inl control
      | short meant letter escape =>
          have each : ∀ pair ∈ shortEscapes, Quotable [unit '\\', pair.2] :=
            List.all_iff_forall_prop.mp (by decide)
          exact each _ escape
      | hex _ _ _ _ _ _ _ _ isOne isTwo isThree isFour =>
          have opening : Quotable [unit '\\', unit 'u'] := by decide
          exact quotable_append.mpr ⟨opening, quotable_cons.mpr ⟨quotable_hexDigit isOne,
            quotable_cons.mpr ⟨quotable_hexDigit isTwo, quotable_cons.mpr
              ⟨quotable_hexDigit isThree, quotable_hexDigit isFour⟩⟩⟩⟩

theorem quotable_number {literal : Text} (number : NumberText literal) : Quotable literal := by
  intro c isIn
  have each : Quotable (units "-+0123456789.eE") := by decide
  exact each c (of_decide_eq_true (numberCharacters number c isIn))

theorem quotable_member {before name afterName beforeValue written after : Text}
    (wsBefore : Ws before) (chars : Quotable name) (wsName : Ws afterName) (wsValue : Ws beforeValue)
    (value : Quotable written) (wsAfter : Ws after) :
    Quotable (before ++ unit '"' :: name ++ unit '"' :: afterName ++ unit ':' :: beforeValue ++
      written ++ after) := by
  have quotation : Quotable [unit '"'] := by decide
  have colon : Quotable [unit ':'] := by decide
  have upToName := quotable_append.mpr ⟨quotable_ws wsBefore, quotable_cons.mpr ⟨quotation, chars⟩⟩
  have upToColon := quotable_append.mpr ⟨upToName, quotable_cons.mpr ⟨quotation, quotable_ws wsName⟩⟩
  have upToValue := quotable_append.mpr ⟨upToColon, quotable_cons.mpr ⟨colon, quotable_ws wsValue⟩⟩
  exact quotable_append.mpr ⟨quotable_append.mpr ⟨upToValue, value⟩, quotable_ws wsAfter⟩

/-- No JSON text has a control character other than whitespace. -/
theorem quotable_of_spells {phrase : Phrase} {text : Text} (spelt : Spells phrase text) :
    Quotable text := by
  have quotation : Quotable [unit '"'] := by decide
  have comma : Quotable [unit ','] := by decide
  induction spelt with
  | null => decide
  | true => decide
  | false => decide
  | num literal number => exact quotable_number number
  | str text written chars =>
      exact quotable_append.mpr ⟨quotable_cons.mpr ⟨quotation, quotable_chars chars⟩, quotation⟩
  | arr items written _ ih =>
      exact quotable_append.mpr ⟨quotable_cons.mpr ⟨by decide, ih⟩, by decide⟩
  | obj members written _ _ ih =>
      exact quotable_append.mpr ⟨quotable_cons.mpr ⟨by decide, ih⟩, by decide⟩
  | noItems space ws => exact quotable_ws ws
  | item _ _ _ _ wsBefore wsAfter _ ih =>
      exact quotable_append.mpr ⟨quotable_append.mpr ⟨quotable_ws wsBefore, ih⟩, quotable_ws wsAfter⟩
  | moreItems _ _ _ _ _ _ _ wsBefore wsAfter _ _ ih more =>
      exact quotable_append.mpr ⟨quotable_append.mpr ⟨quotable_append.mpr ⟨quotable_ws wsBefore, ih⟩,
        quotable_ws wsAfter⟩, quotable_cons.mpr ⟨comma, more⟩⟩
  | noMembers space ws => exact quotable_ws ws
  | member _ _ _ _ _ _ _ _ wsBefore wsName wsValue wsAfter chars _ ih =>
      exact quotable_member wsBefore (quotable_chars chars) wsName wsValue ih wsAfter
  | moreMembers _ _ _ _ _ _ _ _ _ _ _ wsBefore wsName wsValue wsAfter chars _ _ ih more =>
      exact quotable_append.mpr ⟨quotable_member wsBefore (quotable_chars chars) wsName wsValue ih wsAfter,
        quotable_cons.mpr ⟨comma, more⟩⟩

theorem quotable_of_document {value : Value Text} {text : Text} (document : JsonText value text) :
    Quotable text := by
  obtain ⟨before, written, after, wsBefore, wsAfter, spelt⟩ := document
  exact quotable_append.mpr ⟨quotable_append.mpr ⟨quotable_ws wsBefore, quotable_of_spells spelt⟩,
    quotable_ws wsAfter⟩

/-- Any other control character is written as it is. -/
theorem quotable_of_quote {raw : Text} (quotable : Quotable (quote raw)) : Quotable raw := by
  intro c isIn
  by_cases short : c ∈ [unit '"', unit '\\', unit '\n', unit '\r', unit '\t']
  · have each : Quotable [unit '"', unit '\\', unit '\n', unit '\r', unit '\t'] := by decide
    exact each c short
  · have itself : escaped c = [c] := by
      simp only [List.mem_cons, List.not_mem_nil, or_false, not_or] at short
      obtain ⟨quotation, reverseSolidus, notLine, notReturn, notTab⟩ := short
      simp [escaped, quotation, reverseSolidus, notLine, notReturn, notTab]
    refine quotable c ?_
    have inside : c ∈ raw.flatMap escaped := List.mem_flatMap.mpr ⟨c, isIn, by simp [itself]⟩
    simp [quote, inside]

theorem mem_lines {entry : Text} {entries : List Text} (isIn : entry ∈ entries) {c : CodeUnit}
    (inside : c ∈ entry) : c ∈ lines entries := by
  induction entries with
  | nil => contradiction
  | cons first entries ih =>
      cases entries with
      | nil =>
          rw [List.mem_singleton.mp isIn] at inside
          exact List.mem_append_left _ inside
      | cons next entries =>
          rcases List.mem_cons.mp isIn with rfl | later
          · exact List.mem_append_left _ (List.mem_append_left _ inside)
          · exact List.mem_append_right _ (ih later)

/-- What is quoted somewhere in a text. -/
theorem quotable_of_subset {raw text : Text} (quotable : Quotable text) (within : quote raw ⊆ text) :
    Quotable raw :=
  quotable_of_quote fun c isIn => quotable c (within isIn)

theorem Report.printable_of_text {report : Report} (quotable : Quotable report.text) :
    report.Printable := by
  have operations : ∀ summary ∈ report.operations, summary.text ⊆ report.text := by
    intro summary isIn c inside
    have inLines := mem_lines (List.mem_map_of_mem isIn) inside
    unfold Report.text
    simp only [List.mem_append, inLines, true_or, or_true]
  have lowStock : ∀ alert ∈ report.lowStock, alert.text ⊆ report.text := by
    intro alert isIn c inside
    have inLines := mem_lines (List.mem_map_of_mem isIn) inside
    unfold Report.text
    simp only [List.mem_append, inLines, true_or, or_true]
  have popular : ∀ item ∈ report.popular, item.text ⊆ report.text := by
    intro item isIn c inside
    have inLines := mem_lines (List.mem_map_of_mem isIn) inside
    unfold Report.text
    simp only [List.mem_append, inLines, true_or, or_true]
  refine ⟨?_, ?_, fun summary isIn => ?_, fun alert isIn => ⟨?_, ?_⟩, fun item isIn => ⟨?_, ?_⟩⟩
  · refine quotable_of_subset quotable fun c inside => ?_
    unfold Report.text
    simp only [List.mem_append, inside, true_or, or_true]
  · refine quotable_of_subset quotable fun c inside => ?_
    unfold Report.text
    simp only [List.mem_append, inside, true_or, or_true]
  · refine quotable_of_subset quotable fun c inside => operations summary isIn ?_
    unfold Summary.text
    simp only [List.mem_append, inside, true_or, or_true]
  · refine quotable_of_subset quotable fun c inside => lowStock alert isIn ?_
    unfold LowStockAlert.text
    simp only [List.mem_append, inside, true_or, or_true]
  · refine quotable_of_subset quotable fun c inside => lowStock alert isIn ?_
    unfold LowStockAlert.text
    simp only [List.mem_append, inside, true_or, or_true]
  · refine quotable_of_subset quotable fun c inside => popular item isIn ?_
    unfold PopularItem.text
    simp only [List.mem_append, inside, true_or, or_true]
  · refine quotable_of_subset quotable fun c inside => popular item isIn ?_
    unfold PopularItem.text
    simp only [List.mem_append, inside, true_or, or_true]

/-- The report is JSON exactly if its strings have no control characters that `quote` leaves
alone; then it spells what was reported, and `Json.parse` reads it back. -/
theorem report_is_json {Double : Type} (parseDouble : Text → Option Double) (double : Text → Double)
    (parses : ∀ literal, NumberText literal → parseDouble literal = some (double literal))
    {report : Report} (finite : report.Finite) :
    ((∃ value, JsonText value report.text) ↔ report.Printable) ∧
      (report.Printable → JsonText report.value report.text ∧
        parse parseDouble report.text = .ok (report.value.map double)) := by
  have document : report.Printable → JsonText report.value report.text := by
    intro printable
    rw [report.text_eq]
    exact .text _ [] _ (units "\n") (by decide) (by decide) (Report.spells finite printable)
  refine ⟨⟨fun ⟨value, isJson⟩ => Report.printable_of_text (quotable_of_document isJson),
    fun printable => ⟨_, document printable⟩⟩, fun printable => ?_⟩
  exact ⟨document printable, parse_text parses (document printable)⟩

/-- A report with one alert, every `double` of it 0.5. -/
def oneAlert (name : Text) : Report :=
  let half := units "0.5"
  { generatedAt := units "2026-02-01T10:00:00Z", baseUrl := units "http://localhost:8080"
    stations := 10, durationSeconds := 60, minItems := 1, maxItems := 20
    wallClockSeconds := half, totalTransactions := 1, totalItems := 2, transactionsPerSecond := half
    itemsPerSecond := half
    operations := [⟨units "SCAN_ITEM", 2, 0, half, half, half, half, half, half, half⟩]
    lowStock := [⟨units "SKU-000001", name, -1, 50⟩], popular := [] }

theorem numberText_half : NumberText (units "0.5") := by
  have five : Digits (units "5") := ⟨by decide, List.all_iff_forall_prop.mp (by decide)⟩
  exact ⟨[], units "0", units ".5", [], rfl, .inl rfl, .inl rfl, .inr ⟨units "5", rfl, five⟩, .inl rfl⟩

/-- One item is called Milk, and the other has a bell in its name. -/
theorem report_is_json_milkAndBell :
    parse some (oneAlert (units "Milk")).text =
        .ok ((oneAlert (units "Milk")).value.map id) ∧
      ¬ ∃ value, JsonText value (oneAlert [7]).text := by
  have half := numberText_half
  have finite : ∀ name, (oneAlert name).Finite := by
    intro name
    refine ⟨half, half, half, fun summary isIn => ?_⟩
    rw [List.mem_singleton.mp isIn]
    exact ⟨half, half, half, half, half, half, half⟩
  have reads := fun name => report_is_json some id (fun _ _ => rfl) (finite name)
  have milk : (oneAlert (units "Milk")).Printable := by
    refine ⟨by decide, by decide, fun summary isIn => ?_, fun alert isIn => ?_, fun item isIn => ?_⟩
    · rw [List.mem_singleton.mp isIn]
      decide
    · rw [List.mem_singleton.mp isIn]
      decide
    · contradiction
  refine ⟨((reads (units "Milk")).2 milk).2, fun isJson => ?_⟩
  have printable := (reads [7]).1.mp isJson
  have bell := (printable.lowStock _ List.mem_cons_self).2
  exact absurd bell (by decide)

end SelfCheckout.LoadClient
