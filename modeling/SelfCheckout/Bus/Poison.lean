import SelfCheckout.Bus.Kafka

namespace SelfCheckout.Bus

open SelfCheckout.Data

/-! # Records that stop a consumer

A loop polls a batch, which decodes every key and header, and then handles record after
record.  What a record must be for each of the three loops to come back to its poll.
-/

section Loop

variable {Item State : Type}

/-- The body of a loop over the records of a batch. -/
inductive Bodies (body : State → Item → KafkaRecord → State → Prop) :
    State → List (Item × KafkaRecord) → State → Prop where
  | nil (state : State) : Bodies body state [] state
  | cons {before middle after : State} {item : Item} {record : KafkaRecord}
      {rest : List (Item × KafkaRecord)} (handled : body before item record middle)
      (others : Bodies body middle rest after) : Bodies body before ((item, record) :: rest) after

/-- After these batches the loop is back at its poll. -/
inductive Polling (message : Item → Message) (body : State → Item → KafkaRecord → State → Prop)
    (start : State) : List (List Item) → State → Prop where
  | start : Polling message body start [] start
  | next {past : List (List Item)} {batch : List Item} {records : List KafkaRecord}
      {before after : State} (back : Polling message body start past before)
      (polled : pollKafka (batch.map message) = some records)
      (handled : Bodies body before (batch.zip records) after) :
      Polling message body start (past ++ [batch]) after

end Loop

/-- `run_consumer` -/
def ConsumerPolling (runtime : Runtime) (settings : LoopSettings) (batches : List (List Delivery)) :
    Prop :=
  Polling Delivery.message (fun _ delivery record _ => Settles runtime settings record delivery) ()
    batches ()

/-- The public id's number, of a text or another value; `none` where it raises. -/
def txNumber (runtime : Runtime) : Json → Option Int
  | .str publicId =>
      match publicId.splitOn "-" with
      | _ :: part :: parts => runtime.int (.str ("-".intercalate (part :: parts)))
      | _ => none
  | _ => none

/-- A waiter: the types it accepts, and its reply once it has one. -/
structure Waiter where
  accepts : List String
  reply : Option Wire.Event

structure StockEvents where
  active : List Int
  waiters : Table (Int × Int) (List Waiter)

def Waiter.offer (event : Wire.Event) (waiter : Waiter) : Waiter :=
  if event.type ∈ waiter.accepts ∧ waiter.reply.isNone then { waiter with reply := some event }
  else waiter

/-- `_wanted` -/
def StockEvents.wanted (runtime : Runtime) (stock : StockEvents) (record : KafkaRecord) : Bool :=
  match record.key.bind (fun key => txNumber runtime (.str key)) with
  | some number => decide (number ∈ stock.active)
  | none => true

/-- `_dispatch`; what it raises, its caller logs. -/
def StockEvents.dispatch (runtime : Runtime) (stock : StockEvents) (event : Wire.Event) :
    StockEvents :=
  match (event.data.lookup "transactionId").bind (txNumber runtime),
      (event.data.lookup "epoch").bind runtime.int with
  | some number, some epoch =>
      { stock with waiters := stock.waiters.alter (number, epoch) (List.map (Waiter.offer event)) }
  | _, _ => stock

/-- The body of `StockEvents.run`, which ignores what decoding raises or logs it. -/
def StockEvents.receive (runtime : Runtime) (stock : StockEvents) (record : KafkaRecord) : StockEvents :=
  if stock.wanted runtime record then
    match decodeEvent runtime record.value with
    | .error _ => stock
    | .ok event => stock.dispatch runtime event
  else stock

def StockEventsPolling (runtime : Runtime) (start : StockEvents) (batches : List (List Message))
    (stock : StockEvents) : Prop :=
  Polling (fun message => message) (fun before _ record after => after = before.receive runtime record)
    start batches stock

/-- The buffer of `KafkaScanSource`, of whatever the scans' data hold. -/
structure ScanBuffer where
  keep : Nat
  rows : Table Int Json
  maxId : Int
  logId : Json

/-- `while len(rows) > keep` -/
def evictRows (keep : Nat) (rows : Table Int Json) : Table Int Json :=
  ⟨rows.rows.drop (rows.rows.length - keep),
    rows.keysNodup.sublist ((List.drop_sublist _ _).map Prod.fst)⟩

/-- `_apply`; `none` where it raises. -/
def ScanBuffer.apply (runtime : Runtime) (buffer : ScanBuffer) (record : KafkaRecord) :
    Option ScanBuffer :=
  match decodeEvent runtime record.value with
  | .error (.eventDecodeError _) => some buffer
  | .error _ => none
  | .ok event =>
      if event.type = "checkout.scan-recorded" then
        ((event.data.lookup "scanId").bind runtime.int).bind (fun scanId =>
          match buffer.rows.lookup scanId with
          | some _ => some buffer
          | none =>
              (event.data.lookup "sku").map (fun sku =>
                { buffer with
                  rows := evictRows buffer.keep (buffer.rows.put scanId sku)
                  maxId := max buffer.maxId scanId }))
      else if event.type = "checkout.scan-log-reset" then
        some { buffer with
          rows := Table.empty, maxId := 0, logId := (event.data.lookup "logId").getD .null }
      else some buffer

def ScanSourcePolling (runtime : Runtime) (start : ScanBuffer) (batches : List (List Message))
    (buffer : ScanBuffer) : Prop :=
  Polling (fun message => message)
    (fun before _ record after => before.apply runtime record = some after) start batches buffer

/-- The key, if there is one, and every header value are UTF-8 texts. -/
def Message.Decodes (message : Message) : Prop :=
  (∀ bytes, message.key = some bytes → (String.fromUTF8? bytes).isSome) ∧
    ∀ header ∈ message.headers, (header.2.bind String.fromUTF8?).isSome

/-- The handler returns before its attempts are used up. -/
def HandlerReturns (maxAttempts : Nat) (handler : Nat → Outcome) : Prop :=
  ∃ call, call < maxAttempts ∧ handler call = .returned ∧ ∀ earlier < call, handler earlier = .raised

/-- The handler reports a malformed event before its attempts are used up. -/
def HandlerRejects (maxAttempts : Nat) (handler : Nat → Outcome) : Prop :=
  ∃ call, call < maxAttempts ∧ handler call = .decodeError ∧
    ∀ earlier < call, handler earlier = .raised

instance (maxAttempts : Nat) (handler : Nat → Outcome) :
    Decidable (HandlerRejects maxAttempts handler) :=
  inferInstanceAs (Decidable (∃ call, call < maxAttempts ∧ _))

/-- The value is not null, and the dead letter made of it can be encoded and sent. -/
def LetterGoesOut (runtime : Runtime) (settings : LoopSettings) (record : KafkaRecord)
    (delivery : Delivery) : Prop :=
  ∃ event bytes, rawEvent runtime record.value = some event ∧
    (deadLetterEvent settings.name record delivery
      (if HandlerRejects settings.maxAttempts delivery.handler then 1 else settings.maxAttempts)
      event).encode runtime.toCodec = .ok bytes ∧
    runtime.sends record.topic bytes

/-- A record `run_consumer` gets past. -/
def Digestible (runtime : Runtime) (settings : LoopSettings) (delivery : Delivery) : Prop :=
  delivery.message.Decodes ∧
    (HandlerReturns settings.maxAttempts delivery.handler ∨
      ∀ record, delivery.message.record = some record → LetterGoesOut runtime settings record delivery)

/-- A record `_apply` takes: `str` returns on its fields, and a scan has an id, and a SKU unless
the id is known. -/
structure ScanBuffer.Takes (runtime : Runtime) (buffer : ScanBuffer) (record : KafkaRecord) : Prop where
  readable : ∀ raw value, record.value = some raw → runtime.loads raw = .ok value →
    runtime.Readable value
  scan : ∀ event, decodeEvent runtime record.value = .ok event →
    event.type = "checkout.scan-recorded" →
    ∃ scanId, (event.data.lookup "scanId").bind runtime.int = some scanId ∧
      ((buffer.rows.lookup scanId).isSome ∨ (event.data.lookup "sku").isSome)

section HandleOne

variable {runtime : Runtime} {settings : LoopSettings} {record : KafkaRecord} {delivery : Delivery}

theorem progressAfter_add (steps more : Nat)
    (fixed : (progressAfter runtime settings record delivery steps).step runtime settings record delivery =
      progressAfter runtime settings record delivery steps) :
    progressAfter runtime settings record delivery (steps + more) =
      progressAfter runtime settings record delivery steps := by
  induction more with
  | zero => rfl
  | succ more ih =>
      rw [← Nat.add_assoc, progressAfter, ih, fixed]

/-- While the handler raises, every step is one more attempt. -/
theorem progressAfter_raised (runtime : Runtime) (record : KafkaRecord) {steps : Nat}
    (upTo : steps ≤ settings.maxAttempts)
    (raised : ∀ earlier < steps, delivery.handler earlier = .raised) :
    progressAfter runtime settings record delivery steps =
      { calls := steps, stage := .handling (.loop settings.maxAttempts steps steps) } := by
  induction steps with
  | zero => rfl
  | succ steps ih =>
      rw [progressAfter, ih (by omega) (fun earlier less => raised earlier (by omega))]
      have trying : Handling.loop settings.maxAttempts steps steps = .trying steps :=
        if_pos (by omega)
      simp only [Progress.step, trying, raised steps (by omega), Handling.attempt]

/-- The first call that does not raise. -/
theorem first_not_raised {maxAttempts : Nat} {handler : Nat → Outcome} :
    (∀ call < maxAttempts, handler call = .raised) ∨
      ∃ call, call < maxAttempts ∧ handler call ≠ .raised ∧ ∀ earlier < call, handler earlier = .raised := by
  induction maxAttempts with
  | zero => exact .inl (fun call less => absurd less (Nat.not_lt_zero call))
  | succ maxAttempts ih =>
      rcases ih with all | ⟨call, less, other, before⟩
      · by_cases last : handler maxAttempts = .raised
        · left
          intro call less
          rcases Nat.lt_succ_iff_lt_or_eq.mp less with earlier | rfl
          · exact all call earlier
          · exact last
        · exact .inr ⟨maxAttempts, Nat.lt_succ_self _, last, all⟩
      · exact .inr ⟨call, Nat.lt_succ_of_lt less, other, before⟩

/-- The handler returns, or the record is given up for the dead letter. -/
theorem handler_settles (runtime : Runtime) (settings : LoopSettings) (record : KafkaRecord)
    (reachable : ∀ call, delivery.handler call ≠ .transient) :
    (HandlerReturns settings.maxAttempts delivery.handler ∧
      Settles runtime settings record delivery) ∨
    (¬ HandlerReturns settings.maxAttempts delivery.handler ∧
      ∃ steps calls, calls ≤ settings.maxAttempts ∧
        progressAfter runtime settings record delivery steps =
          { calls
            stage := .handling (.deadLettering
              (if HandlerRejects settings.maxAttempts delivery.handler then 1
                else settings.maxAttempts)) }) := by
  rcases @first_not_raised settings.maxAttempts delivery.handler with all | ⟨call, less, other, before⟩
  · right
    have notReturns : ¬ HandlerReturns settings.maxAttempts delivery.handler := by
      intro returns
      obtain ⟨call, less, returned, _⟩ := returns
      rw [all call less] at returned
      contradiction
    have notRejects : ¬ HandlerRejects settings.maxAttempts delivery.handler := by
      intro rejects
      obtain ⟨call, less, rejected, _⟩ := rejects
      rw [all call less] at rejected
      contradiction
    refine ⟨notReturns, settings.maxAttempts, settings.maxAttempts, Nat.le_refl _, ?_⟩
    rw [progressAfter_raised runtime record (Nat.le_refl _) all, if_neg notRejects]
    simp [Handling.loop]
  · have reached := progressAfter_raised runtime record (Nat.le_of_lt less) before
    have trying : Handling.loop settings.maxAttempts call call = .trying call := if_pos less
    rw [trying] at reached
    cases outcome : delivery.handler call with
    | returned =>
        left
        refine ⟨⟨call, less, outcome, before⟩, call + 1, call + 1, less, ?_⟩
        rw [progressAfter, reached]
        simp only [Progress.step, outcome, Handling.attempt]
    | decodeError =>
        right
        have notReturns : ¬ HandlerReturns settings.maxAttempts delivery.handler := by
          intro returns
          obtain ⟨other, _, returned, earlier⟩ := returns
          rcases Nat.lt_trichotomy call other with below | rfl | above
          · rw [earlier call below] at outcome
            contradiction
          · rw [outcome] at returned
            contradiction
          · rw [before other above] at returned
            contradiction
        refine ⟨notReturns, call + 1, call + 1, less, ?_⟩
        rw [if_pos ⟨call, less, outcome, before⟩, progressAfter, reached]
        simp only [Progress.step, outcome, Handling.attempt]
    | raised => exact absurd outcome other
    | transient => exact absurd outcome (reachable call)

/-- A dead letter that cannot be published is published for ever. -/
theorem progressAfter_stuck {steps calls made : Nat}
    (given : progressAfter runtime settings record delivery steps =
      { calls, stage := .handling (.deadLettering made) })
    (refused : ∀ event, rawEvent runtime record.value = some event →
      publishes runtime record.topic (deadLetterEvent settings.name record delivery made event) = false)
    (more : Nat) :
    progressAfter runtime settings record delivery (steps + more) =
        { calls, stage := .handling (.deadLettering made) } ∨
      progressAfter runtime settings record delivery (steps + more) = { calls, stage := .raised } := by
  induction more with
  | zero => exact .inl given
  | succ more ih =>
      rw [← Nat.add_assoc, progressAfter]
      rcases ih with same | raised
      · rw [same]
        simp only [Progress.step]
        cases raw : rawEvent runtime record.value with
        | none => exact .inr rfl
        | some event =>
            left
            simp [refused event raw]
      · rw [raised]
        exact .inr rfl

theorem publishes_iff {key : String} {event : Wire.Event} :
    publishes runtime key event = true ↔
      ∃ bytes, event.encode runtime.toCodec = .ok bytes ∧ runtime.sends key bytes := by
  unfold publishes
  cases event.encode runtime.toCodec <;> simp

theorem settles_iff (reachable : ∀ call, delivery.handler call ≠ .transient) :
    Settles runtime settings record delivery ↔
      HandlerReturns settings.maxAttempts delivery.handler ∨
        LetterGoesOut runtime settings record delivery := by
  rcases handler_settles runtime settings record reachable with
    ⟨returns, settles⟩ | ⟨notReturns, steps, calls, few, given⟩
  · exact iff_of_true settles (.inl returns)
  constructor
  · intro settles
    obtain ⟨last, made, _, done⟩ := settles
    right
    by_contra refused
    have stays : progressAfter runtime settings record delivery (last + steps) =
        progressAfter runtime settings record delivery last :=
      progressAfter_add last steps (by rw [done]; rfl)
    have stuck := progressAfter_stuck given (fun event raw => ?_) last
    · rw [Nat.add_comm, stays, done] at stuck
      simp at stuck
    · rw [Bool.eq_false_iff]
      intro published
      obtain ⟨bytes, encoded, sent⟩ := publishes_iff.mp published
      exact refused ⟨event, bytes, raw, encoded, sent⟩
  · intro either
    obtain ⟨event, bytes, raw, encoded, sent⟩ := either.resolve_left notReturns
    refine ⟨steps + 1, calls, few, ?_⟩
    rw [progressAfter, given]
    simp only [Progress.step, raw, publishes_iff.mpr ⟨bytes, encoded, sent⟩, ↓reduceIte]

end HandleOne

section Polls

theorem mapM_cons_eq_some {In Out : Type} {convert : In → Option Out} {item : In} {items : List In}
    {out : List Out} : (item :: items).mapM convert = some out ↔
      ∃ first rest, convert item = some first ∧ items.mapM convert = some rest ∧ first :: rest = out := by
  rw [List.mapM_cons]
  simp [Option.bind_eq_some_iff]

theorem mapM_append_eq_some {In Out : Type} {convert : In → Option Out} {items more : List In}
    {out : List Out} : (items ++ more).mapM convert = some out ↔
      ∃ first rest, items.mapM convert = some first ∧ more.mapM convert = some rest ∧
        first ++ rest = out := by
  rw [List.mapM_append]
  simp [Option.bind_eq_some_iff]

theorem mapM_isSome {In Out : Type} {convert : In → Option Out} {items : List In} :
    (items.mapM convert).isSome ↔ ∀ item ∈ items, (convert item).isSome := by
  simp only [Option.isSome_iff_exists]
  induction items with
  | nil => simp
  | cons item items ih =>
      simp only [mapM_cons_eq_some, List.forall_mem_cons]
      rw [← ih]
      constructor
      · intro converted
        obtain ⟨_, first, rest, one, others, _⟩ := converted
        exact ⟨⟨first, one⟩, rest, others⟩
      · intro both
        obtain ⟨⟨first, one⟩, rest, others⟩ := both
        exact ⟨_, first, rest, one, others, rfl⟩

theorem decodes_iff {message : Message} : message.Decodes ↔ message.record.isSome := by
  have key : (∀ bytes, message.key = some bytes → (String.fromUTF8? bytes).isSome) ↔
      (decodeKey message.key).isSome := by
    cases message.key with
    | none => simp [decodeKey]
    | some bytes => simp [decodeKey]
  have headers : (∀ header ∈ message.headers, (header.2.bind String.fromUTF8?).isSome) ↔
      (message.headers.mapM decodeHeader).isSome := by
    rw [mapM_isSome]
    simp only [decodeHeader, Option.isSome_map]
  unfold Message.Decodes Message.record
  rw [key, headers]
  cases decodeKey message.key with
  | none => simp
  | some text => simp

theorem polls_iff {batch : List Message} :
    (pollKafka batch).isSome ↔ ∀ message ∈ batch, message.Decodes := by
  simp only [pollKafka, mapM_isSome, decodes_iff]

end Polls

section Loops

variable {Item State : Type} {message : Item → Message}

theorem Polling.of_nil {body : State → Item → KafkaRecord → State → Prop} {start state : State}
    (polling : Polling message body start [] state) : state = start := by
  generalize whole : ([] : List (List Item)) = all at polling
  cases polling with
  | start => rfl
  | next _ _ _ => simp at whole

theorem Polling.last {body : State → Item → KafkaRecord → State → Prop} {start after : State}
    {past : List (List Item)} {batch : List Item}
    (polling : Polling message body start (past ++ [batch]) after) :
    ∃ before records, Polling message body start past before ∧
      pollKafka (batch.map message) = some records ∧
      Bodies body before (batch.zip records) after := by
  generalize whole : past ++ [batch] = all at polling
  cases polling with
  | start => simp at whole
  | next back polled handled =>
      obtain ⟨rfl, last⟩ := List.append_inj' whole rfl
      cases last
      exact ⟨_, _, back, polled, handled⟩

theorem bodies_iff {goesOn : Item → KafkaRecord → Prop} {batch : List Item}
    {records : List KafkaRecord} (polled : pollKafka (batch.map message) = some records) :
    Bodies (fun _ item record _ => goesOn item record) () (batch.zip records) () ↔
      ∀ item ∈ batch, ∃ record, (message item).record = some record ∧ goesOn item record := by
  induction batch generalizing records with
  | nil => exact iff_of_true (.nil ()) (fun _ member => by contradiction)
  | cons item batch ih =>
      obtain ⟨first, rest, one, others, rfl⟩ := mapM_cons_eq_some.mp polled
      rw [List.zip_cons_cons, List.forall_mem_cons, ← ih others, one]
      simp only [Option.some.injEq, exists_eq_left']
      constructor
      · intro handled
        cases handled with
        | cons now later => exact ⟨now, later⟩
      · intro both
        exact .cons both.1 both.2

/-- A loop without state is back at its poll if every record lets it go on. -/
theorem polling_iff {goesOn : Item → KafkaRecord → Prop} {batches : List (List Item)} :
    Polling message (fun _ item record _ => goesOn item record) () batches () ↔
      ∀ batch ∈ batches, ∀ item ∈ batch, ∃ record, (message item).record = some record ∧
        goesOn item record := by
  induction batches using List.reverseRecOn with
  | nil => exact iff_of_true .start (fun _ member => by contradiction)
  | append_singleton past batch ih =>
      rw [List.forall_mem_append, List.forall_mem_singleton]
      constructor
      · intro polling
        obtain ⟨_, records, back, polled, handled⟩ := polling.last
        exact ⟨ih.mp back, (bodies_iff polled).mp handled⟩
      · intro both
        obtain ⟨earlier, goes⟩ := both
        have decodes : (pollKafka (batch.map message)).isSome := by
          rw [polls_iff]
          intro other member
          obtain ⟨item, listed, rfl⟩ := List.mem_map.mp member
          obtain ⟨record, found, _⟩ := goes item listed
          rw [decodes_iff, found]
          rfl
        obtain ⟨records, polled⟩ := Option.isSome_iff_exists.mp decodes
        exact .next (ih.mpr earlier) polled ((bodies_iff polled).mpr goes)

theorem bodies_foldlM_iff {body : State → KafkaRecord → Option State} {before after : State}
    {batch : List Message} {records : List KafkaRecord} (polled : pollKafka batch = some records) :
    Bodies (fun before _ record after => body before record = some after) before
        (batch.zip records) after ↔
      records.foldlM body before = some after := by
  induction batch generalizing records before with
  | nil =>
      cases polled
      constructor
      · intro handled
        cases handled
        rfl
      · intro same
        cases same
        exact .nil _
  | cons item batch ih =>
      obtain ⟨first, rest, _, others, rfl⟩ := mapM_cons_eq_some.mp polled
      rw [List.zip_cons_cons, List.foldlM_cons, Option.bind_eq_bind, Option.bind_eq_some_iff]
      constructor
      · intro handled
        cases handled with
        | cons now later => exact ⟨_, now, (ih others).mp later⟩
      · intro both
        obtain ⟨middle, now, later⟩ := both
        exact .cons now ((ih others).mpr later)

/-- A loop whose body is a function of its state: its polls read the records of all
batches, and its bodies run over them. -/
theorem polling_foldlM_iff {body : State → KafkaRecord → Option State} {start state : State}
    {batches : List (List Message)} :
    Polling (fun message => message) (fun before _ record after => body before record = some after)
        start batches state ↔
      ∃ records, pollKafka batches.flatten = some records ∧ records.foldlM body start = some state := by
  induction batches using List.reverseRecOn generalizing state with
  | nil =>
      constructor
      · intro polling
        rw [polling.of_nil]
        exact ⟨[], rfl, rfl⟩
      · intro found
        obtain ⟨records, polled, handled⟩ := found
        cases polled
        cases handled
        exact .start
  | append_singleton past batch ih =>
      rw [List.flatten_append, List.flatten_singleton]
      constructor
      · intro polling
        obtain ⟨before, records, back, polled, handled⟩ := polling.last
        rw [List.map_id'] at polled
        obtain ⟨earlier, polledEarlier, handledEarlier⟩ := ih.mp back
        refine ⟨earlier ++ records, mapM_append_eq_some.mpr ⟨_, _, polledEarlier, polled, rfl⟩, ?_⟩
        rw [List.foldlM_append, handledEarlier]
        exact (bodies_foldlM_iff polled).mp handled
      · intro found
        obtain ⟨records, polled, handled⟩ := found
        obtain ⟨earlier, records, polledEarlier, polledLast, rfl⟩ := mapM_append_eq_some.mp polled
        rw [List.foldlM_append, Option.bind_eq_bind, Option.bind_eq_some_iff] at handled
        obtain ⟨before, handledEarlier, handledLast⟩ := handled
        refine .next (ih.mpr ⟨earlier, polledEarlier, handledEarlier⟩) ?_
          ((bodies_foldlM_iff polledLast).mpr handledLast)
        rw [List.map_id']
        exact polledLast

theorem foldlM_isSome_iff {body : State → KafkaRecord → Option State} {start : State}
    {records : List KafkaRecord} :
    (records.foldlM body start).isSome ↔
      ∀ earlier record later state, records = earlier ++ record :: later →
        earlier.foldlM body start = some state → (body state record).isSome := by
  constructor
  · intro whole earlier record later state split reached
    rw [split, List.foldlM_append, reached] at whole
    simp only [Option.bind_eq_bind, Option.bind_some, List.foldlM_cons] at whole
    exact Option.isSome_of_isSome_bind whole
  · intro each
    induction records using List.reverseRecOn with
    | nil => rfl
    | append_singleton records last ih =>
        have before := ih (fun earlier record later state split reached =>
          each earlier record (later ++ [last]) state (by rw [split]; simp) reached)
        obtain ⟨state, reached⟩ := Option.isSome_iff_exists.mp before
        obtain ⟨next, taken⟩ := Option.isSome_iff_exists.mp (each records last [] state rfl reached)
        rw [List.foldlM_append, reached]
        simp [taken]

end Loops

/-- A loop whose body is a function comes back to its poll if every record decodes and every
body, in the state it is reached in, goes through. -/
theorem polling_exists_iff {State : Type} {body : State → KafkaRecord → Option State} {start : State}
    {batches : List (List Message)} :
    (∃ state, Polling (fun message => message)
        (fun before _ record after => body before record = some after) start batches state) ↔
      (∀ message ∈ batches.flatten, message.Decodes) ∧
        ∀ records, pollKafka batches.flatten = some records →
          ∀ earlier record later state, records = earlier ++ record :: later →
            earlier.foldlM body start = some state → (body state record).isSome := by
  rw [← polls_iff]
  constructor
  · intro found
    obtain ⟨state, polling⟩ := found
    obtain ⟨records, polled, handled⟩ := polling_foldlM_iff.mp polling
    refine ⟨by rw [polled]; rfl, ?_⟩
    intro others same
    rw [polled, Option.some.injEq] at same
    rw [← same]
    exact foldlM_isSome_iff.mp (by rw [handled]; rfl)
  · intro both
    obtain ⟨decodes, each⟩ := both
    obtain ⟨records, polled⟩ := Option.isSome_iff_exists.mp decodes
    obtain ⟨state, handled⟩ :=
      Option.isSome_iff_exists.mp (foldlM_isSome_iff.mpr (each records polled))
    exact ⟨state, polling_foldlM_iff.mpr ⟨records, polled, handled⟩⟩

theorem decodeEvent_readable {runtime : Runtime} {value : Option ByteArray} :
    decodeEvent runtime value ≠ .error .recursionError ↔
      ∀ raw json, value = some raw → runtime.loads raw = .ok json → runtime.Readable json := by
  cases value with
  | none => simp [decodeEvent]
  | some raw =>
      simp only [decodeEvent, ne_eq, Wire.Event.decode_raises_recursionError, not_not,
        Option.some.injEq]
      constructor
      · rintro readable _ json rfl loaded
        exact readable json loaded
      · intro readable json loaded
        exact readable raw json rfl loaded

theorem decodeEvent_raises {runtime : Runtime} {value : Option ByteArray} {raised : Wire.DecodeRaised}
    (failed : decodeEvent runtime value = .error raised) :
    (∃ message, raised = .eventDecodeError message) ∨ raised = .recursionError := by
  cases value with
  | none =>
      cases failed
      exact .inl ⟨_, rfl⟩
  | some raw => exact Wire.Event.decode_raises failed

theorem takes_iff {runtime : Runtime} {buffer : ScanBuffer} {record : KafkaRecord} :
    buffer.Takes runtime record ↔ (buffer.apply runtime record).isSome := by
  have split : buffer.Takes runtime record ↔
      decodeEvent runtime record.value ≠ .error .recursionError ∧
        ∀ event, decodeEvent runtime record.value = .ok event →
          event.type = "checkout.scan-recorded" →
          ∃ scanId, (event.data.lookup "scanId").bind runtime.int = some scanId ∧
            ((buffer.rows.lookup scanId).isSome ∨ (event.data.lookup "sku").isSome) := by
    rw [decodeEvent_readable]
    exact ⟨fun takes => ⟨takes.readable, takes.scan⟩, fun both => ⟨both.1, both.2⟩⟩
  rw [split]
  unfold ScanBuffer.apply
  cases decoded : decodeEvent runtime record.value with
  | error raised =>
      rcases decodeEvent_raises decoded with ⟨message, rfl⟩ | rfl <;> simp
  | ok event =>
      by_cases scan : event.type = "checkout.scan-recorded"
      · simp only [scan, ↓reduceIte]
        cases named : (event.data.lookup "scanId").bind runtime.int with
        | none => simp [scan, named]
        | some scanId =>
            cases known : buffer.rows.lookup scanId with
            | some sku => simp [scan, named, known]
            | none => simp [scan, named, known]
      · by_cases reset : event.type = "checkout.scan-log-reset"
        · simp [reset]
        · simp [scan, reset]

/-- A runtime that knows one text, a scan without an id. -/
def oneText : Runtime where
  loads bytes :=
    if bytes.data = "scan".toUTF8.data then
      .ok (.obj [("eventId", .str "1"), ("type", .str "checkout.scan-recorded"),
        ("version", .int 1), ("occurredAt", .str ""), ("producer", .str "checkout"),
        ("data", .obj [("sku", .str "SKU-000001")])])
    else .error "not the text"
  dumps _ := .error "not the text's event"
  repr _ := some ""
  decodeReplacing _ := ""
  int
    | .int number => some number
    | _ => none
  sends _ _ := true

def messageOf (key value : ByteArray) : Message :=
  { topic := "checkout.completions.v1", partition := 0, offset := 0, key := some key,
    value := some value, headers := [] }

/-- A record whose handler does this at every call. -/
def deliveryOf (key value : ByteArray) (outcome : Outcome) : Delivery :=
  { message := messageOf key value, handler := fun _ => outcome, error := "", eventId := "",
    occurredAt := "" }

def emptyBuffer : ScanBuffer := { keep := 4000, rows := Table.empty, maxId := 0, logId := .null }

def noWaiter : StockEvents := { active := [], waiters := Table.empty }

example : (ScanBuffer.apply oneText emptyBuffer
    ⟨"checkout.scans.v1", 0, 0, none, some "scan".toUTF8, []⟩).isNone = true := by
  decide +kernel

example : ¬ Settles { oneText with dumps := fun _ => .ok ByteArray.empty, sends := fun _ _ => false }
    ⟨"inventory", 5⟩ ⟨"checkout.completions.v1", 0, 0, none, some "scan".toUTF8, []⟩
    (deliveryOf "tx-1".toUTF8 "scan".toUTF8 .decodeError) := by
  rw [settles_iff (by simp [deliveryOf])]
  simp [HandlerReturns, LetterGoesOut, deliveryOf]

end SelfCheckout.Bus
