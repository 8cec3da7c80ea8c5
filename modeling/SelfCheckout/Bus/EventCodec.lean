import Mathlib.Data.List.Forall2
import Mathlib.Data.List.Nodup
import SelfCheckout.Bus.Wire

namespace SelfCheckout.Bus

/-! # The event envelope on the wire

`encode` and `decode` of whole events, and the outbox, which keeps an event as a `jsonb` value
and gives it back with its keys in another order.
-/

/-- A value that JSON text can hold: an object's keys are distinct, a number is finite. -/
inductive Json.IsJson : Json → Prop where
  | null : IsJson .null
  | bool (value : Bool) : IsJson (.bool value)
  | int (value : Int) : IsJson (.int value)
  | float (text : String) (finite : text ∉ ["nan", "inf", "-inf"]) : IsJson (.float text)
  | str (text : String) : IsJson (.str text)
  | arr (items : List Json) (each : ∀ item ∈ items, IsJson item) : IsJson (.arr items)
  | obj (fields : List (String × Json)) (distinct : (fields.map Prod.fst).Nodup)
      (each : ∀ field ∈ fields, IsJson field.2) : IsJson (.obj fields)

/-- The same value but for the order of keys. -/
inductive Json.Same : Json → Json → Prop where
  | null : Same .null .null
  | bool (value : Bool) : Same (.bool value) (.bool value)
  | int (value : Int) : Same (.int value) (.int value)
  | float (text : String) : Same (.float text) (.float text)
  | str (text : String) : Same (.str text) (.str text)
  | arr (items others : List Json) (each : List.Forall₂ Same items others) :
      Same (.arr items) (.arr others)
  | obj (fields others : List (String × Json))
      (keys : ∀ key, (fields.lookup key).isSome = (others.lookup key).isSome)
      (each : ∀ key value other, fields.lookup key = some value → others.lookup key = some other →
        Same value other) : Same (.obj fields) (.obj others)

/-- A key of one object is a key of the other, with the same value. -/
theorem Json.Same.lookup {fields others : List (String × Json)} {other : Json}
    (same : (Json.obj fields).Same (.obj others)) (key : String) (found : others.lookup key = some other) :
    ∃ value, fields.lookup key = some value ∧ value.Same other := by
  cases same with
  | obj _ _ keys each =>
      have isSome := keys key
      rw [found, Option.isSome_some, Option.isSome_iff_exists] at isSome
      obtain ⟨value, present⟩ := isSome
      exact ⟨value, present, each key value other present found⟩

theorem Json.Same.lookup_str {fields others : List (String × Json)} {text : String}
    (same : (Json.obj fields).Same (.obj others)) (key : String) (found : others.lookup key = some (.str text)) :
    fields.lookup key = some (.str text) := by
  obtain ⟨value, present, sameValue⟩ := same.lookup key found
  cases sameValue
  exact present

theorem lookup_of_mem {fields : List (String × Json)} {key : String} {value : Json}
    (distinct : (fields.map Prod.fst).Nodup) (isIn : (key, value) ∈ fields) :
    fields.lookup key = some value := by
  induction fields with
  | nil => exact absurd isIn List.not_mem_nil
  | cons field fields ih =>
      rw [List.map_cons, List.nodup_cons] at distinct
      rcases List.mem_cons.mp isIn with rfl | isIn
      · exact List.lookup_cons_self
      · have different : (key == field.1) = false := by
          rw [beq_eq_false_iff_ne]
          intro same
          exact distinct.1 (List.mem_map.mpr ⟨_, isIn, same⟩)
        rw [List.lookup_cons, different]
        exact ih distinct.2 isIn

theorem mem_of_lookup {fields : List (String × Json)} {key : String} {value : Json}
    (found : fields.lookup key = some value) : (key, value) ∈ fields := by
  obtain ⟨before, after, rfl, -⟩ := List.lookup_eq_some_iff.mp found
  simp

theorem Json.IsJson.lookup {fields : List (String × Json)} {key : String} {value : Json}
    (json : (Json.obj fields).IsJson) (found : fields.lookup key = some value) : value.IsJson := by
  cases json with
  | obj _ _ each => exact each (key, value) (mem_of_lookup found)

/-- Reordering the keys of an object whose values stay the same. -/
theorem Json.Same.of_perm {fields others : List (String × Json)}
    (distinct : (fields.map Prod.fst).Nodup) (each : ∀ field ∈ fields, Json.Same field.2 field.2)
    (reordered : fields.Perm others) : (Json.obj fields).Same (.obj others) := by
  have distinctOthers : (others.map Prod.fst).Nodup := (reordered.map Prod.fst).nodup distinct
  have agree : ∀ key, fields.lookup key = others.lookup key := by
    intro key
    apply Option.ext
    intro value
    refine ⟨?_, ?_⟩
    · intro found
      exact lookup_of_mem distinctOthers (reordered.mem_iff.mp (mem_of_lookup found))
    · intro found
      exact lookup_of_mem distinct (reordered.mem_iff.mpr (mem_of_lookup found))
  refine .obj _ _ (fun key => by rw [agree]) ?_
  intro key value other found foundOther
  rw [← agree, found] at foundOther
  cases foundOther
  exact each (key, value) (mem_of_lookup found)

theorem Json.IsJson.same {value : Json} (json : value.IsJson) : value.Same value := by
  induction json with
  | null => exact .null
  | bool value => exact .bool value
  | int value => exact .int value
  | float text finite => exact .float text
  | str text => exact .str text
  | arr items each ih =>
      refine .arr _ _ (List.forall₂_same.mpr ih)
  | obj fields distinct each ih => exact .of_perm distinct ih (.refl _)

namespace Wire

/-- A codec with a `jsonb` column: the value read back for a text cast to it. -/
structure OutboxCodec extends Codec where
  jsonb : ByteArray → Option Json

/-- `orjson.loads` inverts `orjson.dumps` on JSON values, and returns no others. -/
structure Codec.Inverts (codec : Codec) : Prop where
  loads_dumps : ∀ value bytes, value.IsJson → codec.dumps value = .ok bytes →
    codec.loads bytes = .ok value
  loads_json : ∀ bytes value, codec.loads bytes = .ok value → value.IsJson

/-- A `jsonb` column keeps a value up to the order of keys. -/
def OutboxCodec.JsonbKeeps (codec : OutboxCodec) : Prop :=
  ∀ value bytes stored, value.IsJson → codec.dumps value = .ok bytes →
    codec.jsonb bytes = some stored → stored.Same value

structure OutboxRow where
  topic : String
  key : String
  payload : Json

/-- `insert_outbox`; `none` where encoding or the cast fails. -/
def insertOutbox (codec : OutboxCodec) (topic key : String) (event : Event) : Option OutboxRow :=
  match codec.dumps (.obj event.toDict) with
  | .error _ => none
  | .ok bytes => (codec.jsonb bytes).map (fun payload => { topic, key, payload })

structure Sent where
  topic : String
  event : Event
  key : String

/-- `sweep_once` over the rows it claimed: what it publishes, and what it raises.  A publish that
is `Transient` ends the sweep. -/
def sweepOnce (codec : Codec) (published : OutboxRow → Bool) :
    List OutboxRow → List Sent × Option DecodeRaised
  | [] => ([], none)
  | row :: rows =>
      match Event.fromDict codec row.payload with
      | .error raised => ([], some raised)
      | .ok event =>
          if published row then
            let (sent, raised) := sweepOnce codec published rows
            ({ topic := row.topic, event, key := row.key } :: sent, raised)
          else ([], none)

/-- The dictionaries an event carries are JSON. -/
structure Event.Carries (event : Event) : Prop where
  data : (Json.obj event.data).IsJson
  correlationId : event.correlationId.IsJson

/-- Equal as Python has it, where the order of keys does not matter. -/
structure Event.Same (event other : Event) : Prop where
  type : event.type = other.type
  producer : event.producer = other.producer
  data : (Json.obj event.data).Same (.obj other.data)
  eventId : event.eventId = other.eventId
  version : event.version = other.version
  correlationId : event.correlationId.Same other.correlationId
  occurredAt : event.occurredAt = other.occurredAt

variable {codec : Codec} {event : Event}

theorem Event.Carries.toDict (carries : event.Carries) : (Json.obj event.toDict).IsJson := by
  refine .obj _ (by simp [Event.toDict]) ?_
  intro field isIn
  simp only [Event.toDict, List.mem_cons, List.not_mem_nil, or_false] at isIn
  rcases isIn with rfl | rfl | rfl | rfl | rfl | rfl | rfl
  · exact .str _
  · exact .str _
  · exact .int _
  · exact carries.correlationId
  · exact .str _
  · exact .str _
  · exact carries.data

theorem Event.decode_encode (inverts : codec.Inverts) (supported : event.version = 1)
    (carries : event.Carries) {bytes : ByteArray} (encoded : event.encode codec = .ok bytes) :
    Event.decode codec bytes = .ok event := by
  have loaded := inverts.loads_dumps _ _ carries.toDict encoded
  simp only [Event.decode, loaded]
  exact Event.fromDict_toDict supported

/-- What decodes is an event of version 1 with an object as its data. -/
theorem Event.decode_version {raw : ByteArray} (decoded : Event.decode codec raw = .ok event) :
    event.version = 1 ∧ ∃ body, codec.loads raw = .ok (.obj body) ∧
      body.lookup "data" = some (.obj event.data) := by
  obtain ⟨body, loaded, built⟩ := Event.decode_eq_ok.mp decoded
  obtain ⟨-, version, data, -⟩ := Event.ofDict_eq_ok.mp built
  exact ⟨version, body, loaded, data⟩

/-- A byte string decodes or raises `EventDecodeError` if and only if `str` returns on its fields. -/
theorem Event.decode_classifies_iff (codec : Codec) (raw : ByteArray) :
    ((∃ event body, Event.decode codec raw = .ok event ∧ event.version = 1 ∧
        codec.loads raw = .ok (.obj body) ∧ body.lookup "data" = some (.obj event.data)) ∨
      ∃ message, Event.decode codec raw = .error (.eventDecodeError message)) ↔
    ∀ value, codec.loads raw = .ok value → codec.Readable value := by
  rw [← not_iff_not, ← Event.decode_raises_recursionError]
  cases decoded : Event.decode codec raw with
  | ok event =>
      obtain ⟨version, body, loaded, data⟩ := Event.decode_version decoded
      refine iff_of_false (fun neither => neither (.inl ⟨event, body, rfl, version, loaded, data⟩)) ?_
      simp
  | error raised =>
      rcases Event.decode_raises decoded with ⟨message, rfl⟩ | rfl
      · refine iff_of_false (fun neither => neither (.inr ⟨message, rfl⟩)) ?_
        simp
      · simp

/-- What decodes from JSON carries JSON. -/
theorem Event.carries_of_decode (inverts : codec.Inverts) {raw : ByteArray}
    (decoded : Event.decode codec raw = .ok event) : event.version = 1 ∧ event.Carries := by
  obtain ⟨body, loaded, built⟩ := Event.decode_eq_ok.mp decoded
  have json := inverts.loads_json _ _ loaded
  obtain ⟨-, version, hasData, -, -, -, -, correlationId⟩ := Event.ofDict_eq_ok.mp built
  refine ⟨version, json.lookup hasData, ?_⟩
  rw [correlationId]
  cases found : body.lookup "correlationId" with
  | none => exact .null
  | some value => exact json.lookup found

/-- An event read back from its stored payload is the event, its dictionaries perhaps in another
order. -/
theorem Event.fromDict_stored {stored : Json} (supported : event.version = 1)
    (same : stored.Same (.obj event.toDict)) :
    ∃ read, Event.fromDict codec stored = .ok read ∧ read.Same event := by
  cases stored with
  | obj fields =>
      obtain ⟨version, hasVersion, sameVersion⟩ := same.lookup "version" rfl
      obtain ⟨data, hasData, sameData⟩ := same.lookup "data" rfl
      obtain ⟨correlationId, hasCorrelation, sameCorrelation⟩ := same.lookup "correlationId" rfl
      have hasType := same.lookup_str "type" rfl
      have hasProducer := same.lookup_str "producer" rfl
      have hasEventId := same.lookup_str "eventId" rfl
      have hasOccurred := same.lookup_str "occurredAt" rfl
      rw [supported] at sameVersion
      cases version with
      | int value =>
          cases sameVersion
          cases data with
          | obj data =>
              refine ⟨{ event with data := data, version := 1, correlationId := correlationId }, ?_, ?_⟩
              · refine Event.fromDict_eq_ok.mpr ⟨fields, rfl, Event.ofDict_eq_ok.mpr ?_⟩
                exact ⟨hasVersion, rfl, hasData, ⟨_, hasType, rfl⟩, ⟨_, hasProducer, rfl⟩,
                  ⟨_, hasEventId, rfl⟩, ⟨_, hasOccurred, rfl⟩, by rw [hasCorrelation]; rfl⟩
              · exact ⟨rfl, rfl, sameData, rfl, supported.symm, sameCorrelation, rfl⟩
          | _ => cases sameData
      | _ => cases sameVersion
  | _ => cases same

/-- The row holds the event, as `insert_outbox` writes it. -/
def Holds (codec : OutboxCodec) (row : OutboxRow) (sent : Sent) : Prop :=
  sent.event.version = 1 ∧ sent.event.Carries ∧
    insertOutbox codec sent.topic sent.key sent.event = some row

/-- The message the fast path publishes, up to the order of keys. -/
structure Sent.Same (sent other : Sent) : Prop where
  topic : sent.topic = other.topic
  event : sent.event.Same other.event
  key : sent.key = other.key

theorem sent_of_holds {codec : OutboxCodec} (keeps : codec.JsonbKeeps) {row : OutboxRow} {made : Sent}
    (holds : Holds codec row made) :
    ∃ event, Event.fromDict codec.toCodec row.payload = .ok event ∧
      Sent.Same { topic := row.topic, event, key := row.key } made := by
  obtain ⟨supported, carries, inserted⟩ := holds
  unfold insertOutbox at inserted
  cases dumped : codec.dumps (.obj made.event.toDict) with
  | error reason => simp [dumped] at inserted
  | ok bytes =>
      rw [dumped] at inserted
      obtain ⟨payload, stored, rfl⟩ := Option.map_eq_some_iff.mp inserted
      obtain ⟨event, read, same⟩ := Event.fromDict_stored supported
        (keeps _ _ _ carries.toDict dumped stored)
      exact ⟨event, read, rfl, same, rfl⟩

/-- A sweep raises nothing, and what it sends is what was written, from the first row on. -/
theorem sweepOnce_sends {codec : OutboxCodec} (keeps : codec.JsonbKeeps) (published : OutboxRow → Bool)
    {rows : List OutboxRow} {made : List Sent} (held : List.Forall₂ (Holds codec) rows made) :
    (sweepOnce codec.toCodec published rows).2 = none ∧
      List.Forall₂ Sent.Same (sweepOnce codec.toCodec published rows).1
        (made.take (sweepOnce codec.toCodec published rows).1.length) := by
  induction held with
  | nil => exact ⟨rfl, .nil⟩
  | cons holds _ ih =>
      obtain ⟨event, read, same⟩ := sent_of_holds keeps holds
      simp only [sweepOnce, read]
      split
      · exact ⟨ih.1, .cons same ih.2⟩
      · exact ⟨rfl, .nil⟩

/-- With orjson and `jsonb` as they are described: an event of version 1 decodes from its encoding,
and comes back from the outbox the same, so that a sweep sends what the fast path sends; decoding
undoes encoding on everything that was decoded; and a byte string decodes to an event of version 1
or raises `EventDecodeError` if and only if `str` returns on the fields it is applied to. -/
theorem event_codec_iff {codec : OutboxCodec} (inverts : codec.Inverts) (keeps : codec.JsonbKeeps) :
    (∀ event bytes, event.version = 1 → event.Carries → event.encode codec.toCodec = .ok bytes →
      Event.decode codec.toCodec bytes = .ok event) ∧
    (∀ made row, Holds codec row made →
      ∃ event, Event.fromDict codec.toCodec row.payload = .ok event ∧ event.Same made.event) ∧
    (∀ published rows made, List.Forall₂ (Holds codec) rows made →
      (sweepOnce codec.toCodec published rows).2 = none ∧
        List.Forall₂ Sent.Same (sweepOnce codec.toCodec published rows).1
          (made.take (sweepOnce codec.toCodec published rows).1.length)) ∧
    (∀ raw event bytes, Event.decode codec.toCodec raw = .ok event →
      event.encode codec.toCodec = .ok bytes → Event.decode codec.toCodec bytes = .ok event) ∧
    ∀ raw,
      ((∃ event body, Event.decode codec.toCodec raw = .ok event ∧ event.version = 1 ∧
          codec.loads raw = .ok (.obj body) ∧ body.lookup "data" = some (.obj event.data)) ∨
        ∃ message, Event.decode codec.toCodec raw = .error (.eventDecodeError message)) ↔
      ∀ value, codec.loads raw = .ok value → codec.Readable value := by
  refine ⟨?_, ?_, ?_, ?_, Event.decode_classifies_iff codec.toCodec⟩
  · intro event bytes supported carries encoded
    exact Event.decode_encode inverts supported carries encoded
  · intro made row holds
    obtain ⟨event, read, same⟩ := sent_of_holds keeps holds
    exact ⟨event, read, same.event⟩
  · intro published rows made held
    exact sweepOnce_sends keeps published held
  · intro raw event bytes decoded encoded
    obtain ⟨supported, carries⟩ := Event.carries_of_decode inverts decoded
    exact Event.decode_encode inverts supported carries encoded

def sampleEvent : Event :=
  { type := "x", producer := "p", data := [("n", .int 2)], eventId := "e", version := 1
    correlationId := .null, occurredAt := "t" }

/-- Its text, as `encode` writes it. -/
def sampleText : ByteArray :=
  ("\x7b\"eventId\":\"e\",\"type\":\"x\",\"version\":1,\"correlationId\":null,\"occurredAt\":\"t\"," ++
    "\"producer\":\"p\",\"data\":\x7b\"n\":2\x7d\x7d").toUTF8

/-- Its keys in the order of a `jsonb` column, short ones first. -/
def sampleStored : List (String × Json) :=
  [("data", .obj [("n", .int 2)]), ("type", .str "x"), ("eventId", .str "e"), ("version", .int 1),
    ("producer", .str "p"), ("occurredAt", .str "t"), ("correlationId", .null)]

/-- A codec for that one text. -/
def sampleCodec : OutboxCodec where
  loads bytes :=
    if bytes.data = sampleText.data then .ok (.obj sampleEvent.toDict) else .error "not the sample"
  dumps
    | .obj [("eventId", .str "e"), ("type", .str "x"), ("version", .int 1), ("correlationId", .null),
        ("occurredAt", .str "t"), ("producer", .str "p"), ("data", .obj [("n", .int 2)])] =>
        .ok sampleText
    | _ => .error "not the sample"
  repr _ := some ""
  jsonb bytes := if bytes.data = sampleText.data then some (.obj sampleStored) else none

theorem sampleEvent_carries : sampleEvent.Carries := by
  refine ⟨.obj _ (by decide) ?_, .null⟩
  intro field isIn
  rw [List.mem_singleton.mp isIn]
  exact .int 2

theorem sampleStored_same : (Json.obj sampleStored).Same (.obj sampleEvent.toDict) := by
  have distinct : (sampleStored.map Prod.fst).Nodup := by decide
  have reordered : sampleStored.Perm sampleEvent.toDict := by
    refine (List.perm_ext_iff_of_nodup distinct.of_map ?_).mpr ?_
    · exact List.Nodup.of_map Prod.fst (by decide)
    · intro field
      simp only [sampleStored, Event.toDict, sampleEvent, List.mem_cons, List.not_mem_nil, or_false]
      tauto
  refine .of_perm distinct ?_ reordered
  intro field isIn
  have json := sampleEvent_carries.toDict
  cases json with
  | obj _ _ each => exact (each field (reordered.mem_iff.mp isIn)).same

theorem sampleCodec_inverts : sampleCodec.Inverts := by
  refine ⟨?_, ?_⟩
  · intro value bytes _ dumped
    simp only [sampleCodec] at dumped
    split at dumped
    · cases dumped
      have whole : sampleCodec.loads sampleText = .ok (.obj sampleEvent.toDict) := by
        simp only [sampleCodec, ↓reduceIte]
      exact whole
    · cases dumped
  · intro bytes value loaded
    simp only [sampleCodec] at loaded
    split at loaded
    · cases loaded
      exact sampleEvent_carries.toDict
    · cases loaded

theorem sampleCodec_keeps : sampleCodec.JsonbKeeps := by
  intro value bytes stored _ dumped isStored
  simp only [sampleCodec] at dumped isStored
  split at dumped
  · cases dumped
    rw [if_pos rfl] at isStored
    cases isStored
    exact sampleStored_same
  · cases dumped

theorem event_codec_iff_sample :
    Event.decode sampleCodec.toCodec sampleText = .ok sampleEvent ∧
      (∃ event, Event.fromDict sampleCodec.toCodec (.obj sampleStored) = .ok event ∧
        event.Same sampleEvent) ∧
      ∀ value, sampleCodec.loads sampleText = .ok value → sampleCodec.Readable value := by
  obtain ⟨decodes, reads, -, -, classifies⟩ := event_codec_iff sampleCodec_inverts sampleCodec_keeps
  have inserted : insertOutbox sampleCodec "checkout.scans.v1" "tx-1" sampleEvent =
      some ⟨"checkout.scans.v1", "tx-1", .obj sampleStored⟩ := by
    have stored : sampleCodec.jsonb sampleText = some (.obj sampleStored) := by
      simp only [sampleCodec, ↓reduceIte]
    have dumped : sampleCodec.dumps (.obj sampleEvent.toDict) = .ok sampleText := rfl
    simp only [insertOutbox, dumped, stored, Option.map_some]
  have whole : Event.decode sampleCodec.toCodec sampleText = .ok sampleEvent :=
    decodes sampleEvent sampleText rfl sampleEvent_carries rfl
  obtain ⟨version, body, loaded, data⟩ := Event.decode_version whole
  refine ⟨whole, ?_, (classifies sampleText).mp (.inl ⟨_, body, whole, version, loaded, data⟩)⟩
  exact reads ⟨"checkout.scans.v1", sampleEvent, "tx-1"⟩ _ ⟨rfl, sampleEvent_carries, inserted⟩

/-- An array in an array, so many times. -/
def nested : Nat → Json
  | 0 => .arr []
  | depth + 1 => .arr [nested depth]

/-- Nested in more than so many levels of arrays and objects. -/
def deeper : Nat → Json → Bool
  | 0, .arr _ | 0, .obj _ => true
  | depth + 1, .arr items => items.any (deeper depth)
  | depth + 1, .obj fields => fields.any (fun field => deeper depth field.2)
  | _, _ => false

theorem deeper_nested {limit depth : Nat} (within : limit ≤ depth) : deeper limit (nested depth) = true := by
  induction depth generalizing limit with
  | zero =>
      cases Nat.le_zero.mp within
      rfl
  | succ depth ih =>
      cases limit with
      | zero => rfl
      | succ limit => simp [deeper, nested, ih (Nat.le_of_succ_le_succ within)]

/-- An event with this many brackets as its type. -/
def deepText (depth : Nat) : ByteArray :=
  ("\x7b\"eventId\":\"e\",\"type\":" ++ "".pushn '[' depth ++ "".pushn ']' depth ++
    ",\"version\":1,\"occurredAt\":\"t\",\"producer\":\"p\",\"data\":\x7b\x7d\x7d").toUTF8

def deepFields (depth : Nat) : List (String × Json) :=
  [("eventId", .str "e"), ("type", nested depth), ("version", .int 1), ("occurredAt", .str "t"),
    ("producer", .str "p"), ("data", .obj [])]

/-- A codec that knows one text: `repr` raises on more than 998 levels, and `orjson.dumps` refuses
more than 254. -/
def deepCodec (depth : Nat) : OutboxCodec where
  loads bytes :=
    if bytes.data = (deepText (depth + 1)).data then .ok (.obj (deepFields depth))
    else .error "not the text"
  dumps value :=
    .error (if deeper 254 value then "Recursion limit reached" else "not the text's event")
  repr value := if deeper 998 value then none else some ""
  jsonb _ := none

theorem nested_isJson (depth : Nat) : (nested depth).IsJson := by
  induction depth with
  | zero => exact .arr [] (fun _ isIn => absurd isIn List.not_mem_nil)
  | succ depth ih =>
      refine .arr _ ?_
      intro item isIn
      rw [List.mem_singleton.mp isIn]
      exact ih

theorem deepFields_isJson (depth : Nat) : (Json.obj (deepFields depth)).IsJson := by
  refine .obj _ (by simp [deepFields]) ?_
  intro field isIn
  simp only [deepFields, List.mem_cons, List.not_mem_nil, or_false] at isIn
  rcases isIn with rfl | rfl | rfl | rfl | rfl | rfl
  · exact .str _
  · exact nested_isJson depth
  · exact .int _
  · exact .str _
  · exact .str _
  · exact .obj [] List.nodup_nil (fun _ isIn => absurd isIn List.not_mem_nil)

theorem deepCodec_inverts (depth : Nat) : (deepCodec depth).Inverts := by
  refine ⟨fun value bytes _ dumped => by contradiction, ?_⟩
  intro bytes value loaded
  simp only [deepCodec] at loaded
  split at loaded
  · cases loaded
    exact deepFields_isJson depth
  · contradiction

theorem deepCodec_keeps (depth : Nat) : (deepCodec depth).JsonbKeeps :=
  fun value bytes stored _ dumped _ => by contradiction

theorem decode_deepText {depth : Nat} (deep : 998 ≤ depth) :
    Event.decode (deepCodec depth).toCodec (deepText (depth + 1)) = .error .recursionError := by
  have loaded : (deepCodec depth).loads (deepText (depth + 1)) = .ok (.obj (deepFields depth)) := by
    simp only [deepCodec, ↓reduceIte]
  have unprinted : (deepCodec depth).toCodec.str (nested depth) = .error .recursionError := by
    have refused : (deepCodec depth).repr (nested depth) = none := if_pos (deeper_nested deep)
    unfold Codec.str
    split
    · rename_i isText
      cases depth <;> contradiction
    · rw [refused]
  rw [Event.decode_raises_recursionError]
  intro readable
  obtain ⟨⟨text, printed⟩, -⟩ := readable _ loaded _ rfl rfl ⟨[], rfl⟩ (nested depth) rfl
  rw [unprinted] at printed
  contradiction

/-- A type of a thousand arrays, one inside the other, makes `decode` raise a RecursionError. -/
theorem nested_type_raises :
    ¬ ∀ (codec : OutboxCodec), codec.Inverts → codec.JsonbKeeps → ∀ raw,
      (∃ event body, Event.decode codec.toCodec raw = .ok event ∧ event.version = 1 ∧
        codec.loads raw = .ok (.obj body) ∧ body.lookup "data" = some (.obj event.data)) ∨
      ∃ message, Event.decode codec.toCodec raw = .error (.eventDecodeError message) := by
  intro classifies
  have deep : 998 ≤ 999 := by decide
  have raised := decode_deepText deep
  rcases classifies (deepCodec 999) (deepCodec_inverts 999) (deepCodec_keeps 999) (deepText 1000) with
    ⟨event, body, decoded, -⟩ | ⟨message, failed⟩
  · rw [raised] at decoded
    cases decoded
  · rw [raised] at failed
    cases failed

end Wire

end SelfCheckout.Bus
