import SelfCheckout.Bus.ConsumerLoop
import SelfCheckout.Bus.Wire

namespace SelfCheckout.Bus

open SelfCheckout.Data

/-! # Records as Kafka hands them over

`KafkaConsumer.poll` decodes keys and headers, a record's value is decoded where it is
read, and `run_consumer` handles each record with `_handle_one`.  Of orjson, of `int` and
`repr`, of a decoding that replaces what is not UTF-8, and of the sizes that can be
sent, nothing is assumed.
-/

/-- `int` is `none` where it raises; `sends` is whether a message with this key and value is
within the producer's and the broker's size limits. -/
structure Runtime extends Wire.Codec where
  decodeReplacing : ByteArray → String
  int : Json → Option Int
  sends : String → ByteArray → Bool

/-- A consumed message; a null value is a tombstone. -/
structure Message where
  topic : String
  partition : Nat
  offset : Nat
  key : Option ByteArray
  value : Option ByteArray
  headers : List (String × Option ByteArray)

structure KafkaRecord where
  topic : String
  partition : Nat
  offset : Nat
  key : Option String
  value : Option ByteArray
  headers : List (String × String)

/-- `m.key.decode() if m.key is not None else None` -/
def decodeKey : Option ByteArray → Option (Option String)
  | none => some none
  | some bytes => (String.fromUTF8? bytes).map some

def decodeHeader (header : String × Option ByteArray) : Option (String × String) :=
  (header.2.bind String.fromUTF8?).map (fun text => (header.1, text))

/-- The record of a message; `none` where a decode raises. -/
def Message.record (message : Message) : Option KafkaRecord :=
  (decodeKey message.key).bind (fun key =>
    (message.headers.mapM decodeHeader).map (fun headers =>
      { topic := message.topic, partition := message.partition, offset := message.offset, key,
        value := message.value, headers }))

/-- `KafkaConsumer.poll` after `getmany` -/
def pollKafka (batch : List Message) : Option (List KafkaRecord) := batch.mapM Message.record

/-- The last of the headers with this name. -/
def KafkaRecord.header (record : KafkaRecord) (name : String) : Option String :=
  record.headers.reverse.lookup name

/-- `rec.event()` -/
def decodeEvent (runtime : Runtime) : Option ByteArray → Except Wire.DecodeRaised Wire.Event
  | none => .error (.eventDecodeError
      "not JSON: Input must be bytes, bytearray, memoryview, or str")
  | some value => Wire.Event.decode runtime.toCodec value

/-- A message with what the handler does at each call, and what its dead letter would hold. -/
structure Delivery where
  message : Message
  handler : Nat → Outcome
  error : String
  eventId : String
  occurredAt : String

/-- `_raw`; `none` where it raises, on a value that is not bytes. -/
def rawEvent (runtime : Runtime) : Option ByteArray → Option Json
  | none => none
  | some bytes =>
      match runtime.loads bytes with
      | .ok value => some value
      | .error _ => some (.str (runtime.decodeReplacing bytes))

/-- The dead letter `_dead_letter` makes of a record. -/
def deadLetterEvent (name : String) (record : KafkaRecord) (delivery : Delivery) (made : Nat)
    (event : Json) : Wire.Event :=
  Wire.makeEvent { requestId := none, uuid := delivery.eventId, now := delivery.occurredAt }
    "dead-letter" name
    [("sourceTopic", .str record.topic), ("partition", .int record.partition),
      ("offset", .int record.offset), ("consumer", .str name), ("attempts", .int (max 1 made)),
      ("error", .str delivery.error), ("event", event)]
    (record.header "x-request-id") none

/-- Whether `KafkaBus.publish` goes through.  The broker is reachable: it raises
`BrokerUnavailable` where the event does not encode, or is too large to send. -/
def publishes (runtime : Runtime) (key : String) (event : Wire.Event) : Bool :=
  match event.encode runtime.toCodec with
  | .ok bytes => runtime.sends key bytes
  | .error _ => false

inductive Stage where
  | handling (handling : Handling)
  | done
  | raised
deriving DecidableEq, Repr

/-- `_handle_one`, with the number of handler calls it has made. -/
structure Progress where
  calls : Nat
  stage : Stage
deriving DecidableEq, Repr

structure LoopSettings where
  name : String
  maxAttempts : Nat

/-- One handler call, or one publish of the dead letter, which is repeated where it raises. -/
def Progress.step (runtime : Runtime) (settings : LoopSettings) (record : KafkaRecord)
    (delivery : Delivery) (progress : Progress) : Progress :=
  match progress.stage with
  | .handling (.trying attempt) =>
      { calls := progress.calls + 1
        stage :=
          match Handling.attempt settings.maxAttempts attempt (delivery.handler progress.calls) with
          | some handling => .handling handling
          | none => .done }
  | .handling (.deadLettering made) =>
      match rawEvent runtime record.value with
      | none => { progress with stage := .raised }
      | some event =>
          if publishes runtime record.topic (deadLetterEvent settings.name record delivery made event) then
            { progress with stage := .done }
          else progress
  | .done | .raised => progress

/-- `_handle_one` after this many steps. -/
def progressAfter (runtime : Runtime) (settings : LoopSettings) (record : KafkaRecord)
    (delivery : Delivery) : Nat → Progress
  | 0 => { calls := 0, stage := .handling (.loop settings.maxAttempts 0 0) }
  | steps + 1 => (progressAfter runtime settings record delivery steps).step runtime settings record delivery

/-- The record is handled, or dead-lettered, after at most `max_attempts` handler calls. -/
def Settles (runtime : Runtime) (settings : LoopSettings) (record : KafkaRecord)
    (delivery : Delivery) : Prop :=
  ∃ steps calls, calls ≤ settings.maxAttempts ∧
    progressAfter runtime settings record delivery steps = { calls, stage := .done }

end SelfCheckout.Bus
