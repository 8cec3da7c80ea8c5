import Mathlib.Data.List.Basic

namespace SelfCheckout.Bus

/-! # The event envelope

`checkout_web.events`: how an event is made, encoded and decoded, every exception included that
decoding can raise.
-/

/-- What `orjson.loads` returns. -/
inductive Json where
  | null
  | bool (value : Bool)
  | int (value : Int)
  | float (text : String)
  | str (text : String)
  | arr (items : List Json)
  | obj (fields : List (String × Json))

namespace Wire

/-- orjson, and `repr` of a value that is not a string; `none` where the value is nested deeper
than Python recurses. -/
structure Codec where
  loads : ByteArray → Except String Json
  dumps : Json → Except String ByteArray
  repr : Json → Option String

structure Event where
  type : String
  producer : String
  data : List (String × Json)
  eventId : String
  version : Int
  correlationId : Json
  occurredAt : String

inductive DecodeRaised where
  | eventDecodeError (message : String)
  | keyError (key : String)
  | recursionError
deriving DecidableEq, Repr

def Event.toDict (event : Event) : List (String × Json) :=
  [("eventId", .str event.eventId), ("type", .str event.type), ("version", .int event.version),
    ("correlationId", event.correlationId), ("occurredAt", .str event.occurredAt),
    ("producer", .str event.producer), ("data", .obj event.data)]

/-- What an event takes from where it is made: the request id, a new uuid, the time. -/
structure Surroundings where
  requestId : Option String
  uuid : String
  now : String

def currentVersion : Int := 1

def supportedMajor : Int := 1

def makeEvent (surroundings : Surroundings) (type producer : String) (data : List (String × Json))
    (correlationId eventId : Option String) : Event :=
  { type, producer, data
    eventId := eventId.getD surroundings.uuid
    version := currentVersion
    correlationId := ((correlationId.or surroundings.requestId).map Json.str).getD .null
    occurredAt := surroundings.now }

def Event.encode (codec : Codec) (event : Event) : Except String ByteArray :=
  codec.dumps (.obj event.toDict)

/-- `str(value)` -/
def Codec.str (codec : Codec) : Json → Except DecodeRaised String
  | .str text => .ok text
  | value =>
      match codec.repr value with
      | some text => .ok text
      | none => .error .recursionError

/-- `body[key]` -/
def getItem (body : List (String × Json)) (key : String) : Except DecodeRaised Json :=
  match body.lookup key with
  | some value => .ok value
  | none => .error (.keyError key)

def readVersion : Json → Except DecodeRaised Int
  | .int version =>
      if version < 1 then .error (.eventDecodeError "'version' must be a positive integer")
      else if supportedMajor < version then
        .error (.eventDecodeError s!"unsupported event version {version}")
      else .ok version
  | _ => .error (.eventDecodeError "'version' must be a positive integer")

def readData : Json → Except DecodeRaised (List (String × Json))
  | .obj data => .ok data
  | _ => .error (.eventDecodeError "'data' must be an object")

/-- `str(body[key])` -/
def readText (codec : Codec) (body : List (String × Json)) (key : String) :
    Except DecodeRaised String := do
  codec.str (← getItem body key)

/-- The body of `from_dict`'s try. -/
def Event.ofDict (codec : Codec) (body : List (String × Json)) : Except DecodeRaised Event := do
  let version ← readVersion (← getItem body "version")
  let data ← readData (← getItem body "data")
  let type ← readText codec body "type"
  let producer ← readText codec body "producer"
  let eventId ← readText codec body "eventId"
  let occurredAt ← readText codec body "occurredAt"
  return { type, producer, data, eventId, version,
           correlationId := (body.lookup "correlationId").getD .null, occurredAt }

def Event.fromDict (codec : Codec) : Json → Except DecodeRaised Event
  | .obj body =>
      match Event.ofDict codec body with
      | .error (.keyError key) => .error (.eventDecodeError ("missing field '" ++ key ++ "'"))
      | result => result
  | _ => .error (.eventDecodeError "an event must be a JSON object")

def Event.decode (codec : Codec) (raw : ByteArray) : Except DecodeRaised Event :=
  match codec.loads raw with
  | .error reason => .error (.eventDecodeError ("not JSON: " ++ reason))
  | .ok body => Event.fromDict codec body

/-- The fields that `from_dict` makes texts of, in its order. -/
def textFields : List String := ["type", "producer", "eventId", "occurredAt"]

/-- `str` returns on each of these fields up to the first that is missing. -/
def Codec.Prints (codec : Codec) (body : List (String × Json)) : List String → Prop
  | [] => True
  | field :: fields => ∀ value, body.lookup field = some value →
      (∃ text, codec.str value = .ok text) ∧ codec.Prints body fields

/-- In an object of version 1 with an object as its data, `str` returns on the fields it is
applied to. -/
def Codec.Readable (codec : Codec) (value : Json) : Prop :=
  ∀ body, value = .obj body → body.lookup "version" = some (.int 1) →
    (∃ data, body.lookup "data" = some (.obj data)) → codec.Prints body textFields

variable {codec : Codec} {event : Event}

theorem Event.fromDict_toDict (supported : event.version = 1) :
    Event.fromDict codec (.obj event.toDict) = .ok event := by
  obtain ⟨type, producer, data, eventId, version, correlationId, occurredAt⟩ := event
  cases supported
  rfl

theorem getItem_eq_ok {body : List (String × Json)} {key : String} {value : Json} :
    getItem body key = .ok value ↔ body.lookup key = some value := by
  unfold getItem
  cases body.lookup key <;> simp

theorem readVersion_eq_ok {value : Json} {version : Int} :
    readVersion value = .ok version ↔ value = .int 1 ∧ version = 1 := by
  cases value with
  | int value =>
      by_cases below : value < 1
      · simp only [readVersion, below, ↓reduceIte, reduceCtorEq, Json.int.injEq, false_iff, not_and]
        omega
      · by_cases above : supportedMajor < value
        · simp only [readVersion, below, above, ↓reduceIte, reduceCtorEq, Json.int.injEq, false_iff,
            not_and]
          simp only [supportedMajor] at above
          omega
        · simp only [readVersion, below, above, ↓reduceIte, Except.ok.injEq, Json.int.injEq]
          simp only [supportedMajor] at above
          omega
  | _ => simp [readVersion]

theorem readData_eq_ok {value : Json} {data : List (String × Json)} :
    readData value = .ok data ↔ value = .obj data := by
  cases value <;> simp [readData]

theorem bind_eq_ok {Value Result : Type} {first : Except DecodeRaised Value}
    {next : Value → Except DecodeRaised Result} {result : Result} :
    (first >>= next) = .ok result ↔ ∃ value, first = .ok value ∧ next value = .ok result := by
  cases first <;> simp [bind, Except.bind]

theorem readText_eq_ok {body : List (String × Json)} {key text : String} :
    readText codec body key = .ok text ↔
      ∃ value, body.lookup key = some value ∧ codec.str value = .ok text := by
  simp only [readText, bind_eq_ok, getItem_eq_ok]

/-- The dictionaries that decode, and to what. -/
theorem Event.ofDict_eq_ok {body : List (String × Json)} :
    Event.ofDict codec body = .ok event ↔
      body.lookup "version" = some (.int 1) ∧ event.version = 1 ∧
      body.lookup "data" = some (.obj event.data) ∧
      (∃ type, body.lookup "type" = some type ∧ codec.str type = .ok event.type) ∧
      (∃ producer, body.lookup "producer" = some producer ∧
        codec.str producer = .ok event.producer) ∧
      (∃ eventId, body.lookup "eventId" = some eventId ∧ codec.str eventId = .ok event.eventId) ∧
      (∃ occurredAt, body.lookup "occurredAt" = some occurredAt ∧
        codec.str occurredAt = .ok event.occurredAt) ∧
      event.correlationId = (body.lookup "correlationId").getD .null := by
  obtain ⟨type, producer, data, eventId, version, correlationId, occurredAt⟩ := event
  simp only [Event.ofDict, bind_eq_ok, getItem_eq_ok, readVersion_eq_ok, readData_eq_ok,
    readText_eq_ok, pure, Except.pure, Except.ok.injEq, Event.mk.injEq]
  refine ⟨?_, ?_⟩
  · rintro ⟨_, hasVersion, _, ⟨rfl, rfl⟩, _, hasData, _, rfl, _, hasType, _, hasProducer,
      _, hasEventId, _, hasOccurred, rfl, rfl, rfl, rfl, rfl, rfl, rfl⟩
    exact ⟨hasVersion, rfl, hasData, hasType, hasProducer, hasEventId, hasOccurred, rfl⟩
  · rintro ⟨hasVersion, rfl, hasData, hasType, hasProducer, hasEventId, hasOccurred, rfl⟩
    exact ⟨_, hasVersion, _, ⟨rfl, rfl⟩, _, hasData, _, rfl, _, hasType, _, hasProducer,
      _, hasEventId, _, hasOccurred, rfl, rfl, rfl, rfl, rfl, rfl, rfl⟩

theorem Event.fromDict_eq_ok {value : Json} :
    Event.fromDict codec value = .ok event ↔
      ∃ body, value = .obj body ∧ Event.ofDict codec body = .ok event := by
  cases value with
  | obj body =>
      simp only [Event.fromDict, Json.obj.injEq, exists_eq_left']
      cases Event.ofDict codec body with
      | ok event => rfl
      | error raised => cases raised <;> simp
  | _ => simp [Event.fromDict]

theorem Event.decode_eq_ok {raw : ByteArray} :
    Event.decode codec raw = .ok event ↔
      ∃ body, codec.loads raw = .ok (.obj body) ∧ Event.ofDict codec body = .ok event := by
  unfold Event.decode
  cases codec.loads raw with
  | error reason => simp
  | ok value =>
      simp only [Event.fromDict_eq_ok, Except.ok.injEq]

theorem str_raises {value : Json} {raised : DecodeRaised}
    (failed : codec.str value = .error raised) : raised = .recursionError := by
  unfold Codec.str at failed
  split at failed
  · contradiction
  · split at failed
    · contradiction
    · cases failed
      rfl

theorem str_recursionError {value : Json} :
    codec.str value = .error .recursionError ↔ ¬ ∃ text, codec.str value = .ok text := by
  cases printed : codec.str value with
  | ok text => simp
  | error raised =>
      cases str_raises printed
      simp

theorem getItem_ne_recursionError {body : List (String × Json)} {key : String} :
    getItem body key ≠ .error .recursionError := by
  unfold getItem
  split <;> simp

theorem readVersion_ne_recursionError {value : Json} :
    readVersion value ≠ .error .recursionError := by
  cases value with
  | int version =>
      simp only [readVersion]
      split
      · simp
      · split <;> simp
  | _ => simp [readVersion]

theorem readData_ne_recursionError {value : Json} : readData value ≠ .error .recursionError := by
  cases value <;> simp [readData]

theorem bind_eq_error {Value Result : Type} {first : Except DecodeRaised Value}
    {next : Value → Except DecodeRaised Result} {raised : DecodeRaised} :
    (first >>= next) = .error raised ↔
      first = .error raised ∨ ∃ value, first = .ok value ∧ next value = .error raised := by
  cases first <;> simp [bind, Except.bind]

theorem readText_recursionError {body : List (String × Json)} {key : String} :
    readText codec body key = .error .recursionError ↔
      ∃ value, body.lookup key = some value ∧ ¬ ∃ text, codec.str value = .ok text := by
  simp only [readText, bind_eq_error, getItem_eq_ok, getItem_ne_recursionError, false_or,
    str_recursionError]

/-- Reading a text and going on raises a RecursionError where `str` does, or later. -/
theorem readText_bind_raises {Result : Type} {body : List (String × Json)} {key : String}
    {next : String → Except DecodeRaised Result} {fields : List String}
    (rest : ∀ text, next text = .error .recursionError ↔ ¬ codec.Prints body fields) :
    (readText codec body key >>= next) = .error .recursionError ↔
      ¬ codec.Prints body (key :: fields) := by
  simp only [bind_eq_error, readText_recursionError, readText_eq_ok, rest, Codec.Prints]
  cases body.lookup key with
  | none => simp
  | some value =>
      by_cases printed : ∃ text, codec.str value = .ok text
      · obtain ⟨text, printed⟩ := printed
        simp [printed]
      · have unprinted : ∀ text, codec.str value ≠ .ok text := fun text ok => printed ⟨text, ok⟩
        simp [unprinted]

theorem Event.ofDict_raises_recursionError {body : List (String × Json)} :
    Event.ofDict codec body = .error .recursionError ↔
      body.lookup "version" = some (.int 1) ∧ (∃ data, body.lookup "data" = some (.obj data)) ∧
        ¬ codec.Prints body textFields := by
  have texts : ∀ (version : Int) (data : List (String × Json)), (do
      let type ← readText codec body "type"
      let producer ← readText codec body "producer"
      let eventId ← readText codec body "eventId"
      let occurredAt ← readText codec body "occurredAt"
      return ({ type, producer, data, eventId, version,
                correlationId := (body.lookup "correlationId").getD .null, occurredAt } : Event) :
        Except DecodeRaised Event) = .error .recursionError ↔ ¬ codec.Prints body textFields := by
    intro version data
    refine readText_bind_raises fun type => readText_bind_raises fun producer =>
      readText_bind_raises fun eventId => readText_bind_raises fun occurredAt => ?_
    simp [Codec.Prints, pure, Except.pure]
  simp only [Event.ofDict]
  rw [bind_eq_error, or_iff_right getItem_ne_recursionError]
  simp only [bind_eq_error, getItem_eq_ok, getItem_ne_recursionError, readVersion_eq_ok,
    readVersion_ne_recursionError, readData_eq_ok, readData_ne_recursionError, false_or, texts]
  constructor
  · rintro ⟨_, version, _, ⟨rfl, -⟩, _, data, fields, rfl, unprinted⟩
    exact ⟨version, ⟨fields, data⟩, unprinted⟩
  · rintro ⟨version, ⟨fields, data⟩, unprinted⟩
    exact ⟨_, version, _, ⟨rfl, rfl⟩, _, data, fields, rfl, unprinted⟩

/-- A missing key is caught, so that what `from_dict` raises is its own error, unless `str`
raises. -/
theorem Event.fromDict_raises {value : Json} {raised : DecodeRaised}
    (failed : Event.fromDict codec value = .error raised) :
    (∃ message, raised = .eventDecodeError message) ∨ raised = .recursionError := by
  cases raised with
  | eventDecodeError message => exact .inl ⟨message, rfl⟩
  | recursionError => exact .inr rfl
  | keyError key =>
      cases value with
      | obj body =>
          simp only [Event.fromDict] at failed
          split at failed
          · simp at failed
          · rename_i result others
            exact absurd failed (others key)
      | _ => simp [Event.fromDict] at failed

theorem Event.fromDict_raises_recursionError {value : Json} :
    Event.fromDict codec value = .error .recursionError ↔ ¬ codec.Readable value := by
  cases value with
  | obj body =>
      have same : Event.fromDict codec (.obj body) = .error .recursionError ↔
          Event.ofDict codec body = .error .recursionError := by
        simp only [Event.fromDict]
        cases Event.ofDict codec body with
        | ok event => simp
        | error raised => cases raised <;> simp
      rw [same, Event.ofDict_raises_recursionError]
      simp only [Codec.Readable, Json.obj.injEq, forall_eq', Classical.not_imp]
  | _ => simp [Event.fromDict, Codec.Readable]

/-- Decoding raises nothing but its own error, unless `str` raises. -/
theorem Event.decode_raises {raw : ByteArray} {raised : DecodeRaised}
    (failed : Event.decode codec raw = .error raised) :
    (∃ message, raised = .eventDecodeError message) ∨ raised = .recursionError := by
  unfold Event.decode at failed
  split at failed
  · cases failed
    exact .inl ⟨_, rfl⟩
  · exact Event.fromDict_raises failed

theorem Event.decode_raises_recursionError {raw : ByteArray} :
    Event.decode codec raw = .error .recursionError ↔
      ¬ ∀ value, codec.loads raw = .ok value → codec.Readable value := by
  unfold Event.decode
  cases codec.loads raw with
  | error reason => simp
  | ok value => simp [Event.fromDict_raises_recursionError]

end Wire

end SelfCheckout.Bus
