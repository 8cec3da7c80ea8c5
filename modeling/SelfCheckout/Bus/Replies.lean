import Mathlib.Algebra.Order.BigOperators.Group.List
import SelfCheckout.Bus.Poison
import SelfCheckout.Python

namespace SelfCheckout.Bus

open SelfCheckout.Data

/-! # The replies a worker waits for

Every call of `_ask` registers a waiter under its transaction and epoch, and counts it under
its transaction alone.  A reply is first judged by its record's key against the counts, and
only then decoded and handed to the waiters.
-/

abbrev AskId := Nat

/-- `(accepts, fut)`; the future is named by the call that made it. -/
structure ReplyEntry where
  ask : AskId
  accepts : List String
deriving DecidableEq, Repr

/-- The client with the futures made so far, what the calls in flight hold in their frames, and
every `set_result` so far. -/
structure ReplyClient where
  active : Table Int Int
  waiters : Table (Int × Int) (List ReplyEntry)
  futures : Table AskId (Option Wire.Event)
  inFlight : Table AskId ((Int × Int) × ReplyEntry)
  resolutions : List (AskId × Wire.Event)

def ReplyClient.init : ReplyClient :=
  { active := Table.empty, waiters := Table.empty, futures := Table.empty,
    inFlight := Table.empty, resolutions := [] }

inductive Ending where
  | replied
  | timedOut
  | cancelled
deriving DecidableEq, Repr

inductive ReplyLabel where
  | ask (ask : AskId) (publicId : String) (epoch : Int) (accepts : List String)
  | record (record : KafkaRecord)
  | finish (ask : AskId) (ending : Ending)

/-- The waiters registered for a transaction, over all epochs. -/
def ReplyClient.registered (client : ReplyClient) (number : Int) : Int :=
  client.waiters.sum (fun key entries => if key.1 = number then (entries.length : Int) else 0)

/-- The key `_dispatch` makes of an event. -/
def replyKey (runtime : Runtime) (event : Wire.Event) : Option (Int × Int) :=
  match (event.data.lookup "transactionId").bind (txNumber runtime),
      (event.data.lookup "epoch").bind runtime.int with
  | some number, some epoch => some (number, epoch)
  | _, _ => none

/-- `event.type in accepts` -/
def accepted (event : Wire.Event) (accepts : List String) : Bool :=
  decide (event.type ∈ accepts)

/-- `not fut.done()` -/
def ReplyClient.undone (client : ReplyClient) (ask : AskId) : Bool :=
  match client.futures.lookup ask with
  | some none => true
  | _ => false

/-- The body of the loop over the waiters of a key. -/
def ReplyClient.offer (event : Wire.Event) (client : ReplyClient)
    (entry : ReplyEntry) : ReplyClient :=
  if accepted event entry.accepts ∧ client.undone entry.ask then
    { client with
      futures := client.futures.put entry.ask (some event)
      resolutions := client.resolutions ++ [(entry.ask, event)] }
  else client

/-- `_dispatch` -/
def ReplyClient.dispatch (runtime : Runtime) (client : ReplyClient) (event : Wire.Event) :
    ReplyClient :=
  match replyKey runtime event with
  | none => client
  | some key => ((client.waiters.lookup key).getD []).foldl (ReplyClient.offer event) client

/-- `_wanted` -/
def ReplyClient.wanted (runtime : Runtime) (client : ReplyClient) (record : KafkaRecord) : Bool :=
  match record.key.bind (fun key => txNumber runtime (.str key)) with
  | some number => (client.active.lookup number).isSome
  | none => true

/-- Decoding a record and handing it on. -/
def ReplyClient.decodeAndDispatch (runtime : Runtime) (client : ReplyClient)
    (record : KafkaRecord) : ReplyClient :=
  match decodeEvent runtime record.value with
  | .error _ => client
  | .ok event => client.dispatch runtime event

/-- The body of `run`'s loop. -/
def ReplyClient.receive (runtime : Runtime) (client : ReplyClient) (record : KafkaRecord) :
    ReplyClient :=
  if client.wanted runtime record then client.decodeAndDispatch runtime record else client

/-- `_ask` up to its first await. -/
def ReplyClient.register (client : ReplyClient) (key : Int × Int) (entry : ReplyEntry) : ReplyClient :=
  { client with
    active := client.active.put key.1 ((client.active.lookup key.1).getD 0 + 1)
    waiters := client.waiters.put key ((client.waiters.lookup key).getD [] ++ [entry])
    futures := client.futures.put entry.ask none
    inFlight := client.inFlight.put entry.ask (key, entry) }

/-- The `finally` of `_ask`. -/
def ReplyClient.deregister (client : ReplyClient) (key : Int × Int) (entry : ReplyEntry) :
    ReplyClient :=
  let waiting := ((client.waiters.lookup key).getD []).erase entry
  let left := (client.active.lookup key.1).getD 0 - 1
  { client with
    waiters := if waiting = [] then client.waiters.erase key else client.waiters.put key waiting
    active := if 0 < left then client.active.put key.1 left else client.active.erase key.1
    inFlight := client.inFlight.erase entry.ask }

/-- How a call can end at its await, given its future. -/
def Ending.possible (future : Option Wire.Event) : Ending → Bool
  | .replied => future.isSome
  | .timedOut => future.isNone
  | .cancelled => true

/-- One step, with what is done with a record.  A call whose id has no number raises before it
registers. -/
def ReplyClient.stepBy (handle : ReplyClient → KafkaRecord → ReplyClient)
    (runtime : Runtime) (client : ReplyClient) : ReplyLabel → Option ReplyClient
  | .ask ask publicId epoch accepts =>
      match client.futures.lookup ask with
      | some _ => none
      | none =>
          match txNumber runtime (.str publicId) with
          | none => some client
          | some number => some (client.register (number, epoch) ⟨ask, accepts⟩)
  | .record record => some (handle client record)
  | .finish ask ending =>
      (client.inFlight.lookup ask).bind (fun held =>
        if ending.possible ((client.futures.lookup ask).getD none) then
          some (client.deregister held.1 held.2)
        else none)

def ReplyClient.step (runtime : Runtime) : ReplyClient → ReplyLabel → Option ReplyClient :=
  ReplyClient.stepBy (fun client record => client.receive runtime record) runtime

/-- The client that decodes every record. -/
def ReplyClient.stepAll (runtime : Runtime) : ReplyClient → ReplyLabel → Option ReplyClient :=
  ReplyClient.stepBy (fun client record => client.decodeAndDispatch runtime record) runtime

/-- The record's key is the transactionId of the event it carries. -/
def Keyed (runtime : Runtime) (_ : ReplyClient) : ReplyLabel → Prop
  | .record record => ∀ event, decodeEvent runtime record.value = .ok event →
      event.data.lookup "transactionId" = record.key.map Json.str
  | _ => True

structure ReplyClient.Sound (client : ReplyClient) : Prop where
  held : ∀ ask key entry, client.inFlight.lookup ask = some (key, entry) →
    entry.ask = ask ∧ entry ∈ (client.waiters.lookup key).getD []
  waiting : ∀ key entries, client.waiters.lookup key = some entries → entries ≠ [] ∧ entries.Nodup ∧
    ∀ entry ∈ entries, client.inFlight.lookup entry.ask = some (key, entry)
  counted : ∀ number, client.active.lookup number =
    if client.registered number = 0 then none else some (client.registered number)
  made : ∀ ask held, client.inFlight.lookup ask = some held → client.futures.lookup ask ≠ none
  once : (client.resolutions.map Prod.fst).Nodup
  resolved : ∀ ask event, (ask, event) ∈ client.resolutions ↔
    client.futures.lookup ask = some (some event)

variable {runtime : Runtime} {client after : ReplyClient}

theorem ReplyClient.undone_iff {ask : AskId} :
    client.undone ask = true ↔ client.futures.lookup ask = some none := by
  unfold ReplyClient.undone
  split
  · rename_i undone
    simp [undone]
  · rename_i done
    simp only [Bool.false_eq_true, false_iff]
    exact done

/-- Offering an event changes no more than futures. -/
theorem ReplyClient.offers_frame (event : Wire.Event) (entries : List ReplyEntry)
    (client : ReplyClient) :
    (entries.foldl (ReplyClient.offer event) client).active = client.active ∧
      (entries.foldl (ReplyClient.offer event) client).waiters = client.waiters ∧
      (entries.foldl (ReplyClient.offer event) client).inFlight = client.inFlight := by
  induction entries generalizing client with
  | nil => exact ⟨rfl, rfl, rfl⟩
  | cons entry entries ih =>
      have one : (client.offer event entry).active = client.active ∧
          (client.offer event entry).waiters = client.waiters ∧
          (client.offer event entry).inFlight = client.inFlight := by
        unfold ReplyClient.offer
        split <;> exact ⟨rfl, rfl, rfl⟩
      obtain ⟨active, waiters, inFlight⟩ := ih (client.offer event entry)
      rw [List.foldl_cons]
      exact ⟨active.trans one.1, waiters.trans one.2.1, inFlight.trans one.2.2⟩

/-- One of the entries belongs to the ask and accepts the event. -/
def addressed (event : Wire.Event) (entries : List ReplyEntry)
    (ask : AskId) : Bool :=
  entries.any (fun entry => decide (entry.ask = ask) && accepted event entry.accepts)

theorem ReplyClient.lookup_offer (event : Wire.Event) (client : ReplyClient) (entry : ReplyEntry)
    (ask : AskId) :
    (client.offer event entry).futures.lookup ask =
      if addressed event [entry] ask ∧ client.undone ask then some (some event)
      else client.futures.lookup ask := by
  by_cases taken : accepted event entry.accepts = true ∧ client.undone entry.ask = true
  · have offered : client.offer event entry =
        { client with
          futures := client.futures.put entry.ask (some event)
          resolutions := client.resolutions ++ [(entry.ask, event)] } := if_pos taken
    rw [offered]
    by_cases same : ask = entry.ask
    · subst same
      simp [addressed, taken]
    · simp [addressed, same, Ne.symm same]
  · have unchanged : client.offer event entry = client := if_neg taken
    rw [unchanged, if_neg]
    simp only [addressed, List.any_cons, List.any_nil, Bool.or_false, Bool.and_eq_true,
      decide_eq_true_eq]
    rintro ⟨⟨rfl, accepts⟩, undone⟩
    exact taken ⟨accepts, undone⟩

/-- Of the entries of one ask, any that accepts the event sets its future, if it is not done. -/
theorem ReplyClient.lookup_offers (event : Wire.Event) (entries : List ReplyEntry)
    (client : ReplyClient) (ask : AskId) :
    (entries.foldl (ReplyClient.offer event) client).futures.lookup ask =
      if addressed event entries ask ∧ client.undone ask then some (some event)
      else client.futures.lookup ask := by
  induction entries generalizing client with
  | nil => simp [addressed]
  | cons entry entries ih =>
      have first := @ReplyClient.lookup_offer event client entry ask
      have both : addressed event (entry :: entries) ask =
          (addressed event [entry] ask || addressed event entries ask) := by
        simp [addressed]
      rw [List.foldl_cons, ih, both]
      by_cases undone : client.undone ask = true
      · by_cases here : addressed event [entry] ask = true
        · rw [first]
          simp [here, undone]
        · have same : (client.offer event entry).futures.lookup ask =
              client.futures.lookup ask := by
            rw [first, if_neg (fun all => here all.1)]
          have still : (client.offer event entry).undone ask = client.undone ask := by
            unfold ReplyClient.undone
            rw [same]
          rw [same, still]
          simp [here]
      · have same : (client.offer event entry).futures.lookup ask =
            client.futures.lookup ask := by
          rw [first, if_neg (fun all => undone all.2)]
        have still : (client.offer event entry).undone ask = client.undone ask := by
          unfold ReplyClient.undone
          rw [same]
        rw [same, still]
        simp [undone]

/-- Every `set_result` is of a future that was not done. -/
theorem ReplyClient.offers_once (event : Wire.Event) (entries : List ReplyEntry)
    (client : ReplyClient) (once : (client.resolutions.map Prod.fst).Nodup)
    (resolved : ∀ ask event, (ask, event) ∈ client.resolutions ↔
      client.futures.lookup ask = some (some event)) :
    ((entries.foldl (ReplyClient.offer event) client).resolutions.map Prod.fst).Nodup ∧
      ∀ ask other,
        (ask, other) ∈ (entries.foldl (ReplyClient.offer event) client).resolutions ↔
          (entries.foldl (ReplyClient.offer event) client).futures.lookup ask =
            some (some other) := by
  induction entries generalizing client with
  | nil => exact ⟨once, resolved⟩
  | cons entry entries ih =>
      rw [List.foldl_cons]
      by_cases taken : accepted event entry.accepts = true ∧ client.undone entry.ask = true
      · have undone := undone_iff.mp taken.2
        have fresh : entry.ask ∉ client.resolutions.map Prod.fst := by
          intro isIn
          obtain ⟨pair, isResolved, same⟩ := List.mem_map.mp isIn
          have done := (resolved pair.1 pair.2).mp isResolved
          rw [same, undone] at done
          cases done
        have offered : client.offer event entry =
            { client with
              futures := client.futures.put entry.ask (some event)
              resolutions := client.resolutions ++ [(entry.ask, event)] } := if_pos taken
        rw [offered]
        apply ih
        · simpa using List.Nodup.concat fresh once
        · intro ask other
          simp only [List.mem_append, List.mem_singleton, Table.lookup_put, resolved]
          by_cases same : ask = entry.ask
          · subst same
            simp [undone, eq_comm]
          · simp [same]
      · have unchanged : client.offer event entry = client := if_neg taken
        rw [unchanged]
        exact ih client once resolved

theorem ReplyClient.dispatch_frame (runtime : Runtime) (client : ReplyClient)
    (event : Wire.Event) :
    (client.dispatch runtime event).active = client.active ∧
      (client.dispatch runtime event).waiters = client.waiters ∧
      (client.dispatch runtime event).inFlight = client.inFlight := by
  unfold ReplyClient.dispatch
  split
  · exact ⟨rfl, rfl, rfl⟩
  · exact ReplyClient.offers_frame event _ client

theorem ReplyClient.Sound.dispatch (sound : client.Sound) (event : Wire.Event) :
    (client.dispatch runtime event).Sound := by
  obtain ⟨active, waiters, inFlight⟩ := ReplyClient.dispatch_frame runtime client event
  have kept : ((client.dispatch runtime event).resolutions.map Prod.fst).Nodup ∧
      ∀ ask other, (ask, other) ∈ (client.dispatch runtime event).resolutions ↔
        (client.dispatch runtime event).futures.lookup ask = some (some other) := by
    unfold ReplyClient.dispatch
    split
    · exact ⟨sound.once, sound.resolved⟩
    · exact ReplyClient.offers_once event _ client sound.once sound.resolved
  refine ⟨?_, ?_, ?_, ?_, kept.1, kept.2⟩
  · rw [waiters, inFlight]
    exact sound.held
  · rw [waiters, inFlight]
    exact sound.waiting
  · intro number
    have same : (client.dispatch runtime event).registered number = client.registered number := by
      unfold ReplyClient.registered
      rw [waiters]
    rw [active, same]
    exact sound.counted number
  · intro ask held isHeld
    rw [inFlight] at isHeld
    have made := sound.made ask held isHeld
    unfold ReplyClient.dispatch
    split
    · exact made
    · rw [ReplyClient.lookup_offers]
      split
      · simp
      · exact made

theorem ReplyClient.registered_nonneg (client : ReplyClient) (number : Int) :
    0 ≤ client.registered number := by
  refine List.sum_nonneg ?_
  intro amount isIn
  obtain ⟨row, -, rfl⟩ := List.mem_map.mp isIn
  simp only
  split <;> omega

/-- What a key's waiters add to a transaction's count. -/
theorem ReplyClient.registered_key (client : ReplyClient) (key : Int × Int) (number : Int) :
    ((client.waiters.lookup key).map (fun entries =>
      if key.1 = number then (entries.length : Int) else 0)).getD 0 =
      if key.1 = number then (((client.waiters.lookup key).getD []).length : Int) else 0 := by
  cases client.waiters.lookup key <;> simp

theorem ReplyClient.registered_put (client : ReplyClient) {key : Int × Int}
    {entries : List ReplyEntry} (written : after.waiters = client.waiters.put key entries)
    (number : Int) :
    after.registered number = client.registered number +
      if key.1 = number then
        (entries.length : Int) - (((client.waiters.lookup key).getD []).length : Int)
      else 0 := by
  unfold ReplyClient.registered
  rw [written, Table.sum_put, ReplyClient.registered_key]
  split <;> omega

theorem ReplyClient.registered_erase (client : ReplyClient) {key : Int × Int}
    (written : after.waiters = client.waiters.erase key) (number : Int) :
    after.registered number = client.registered number -
      if key.1 = number then (((client.waiters.lookup key).getD []).length : Int) else 0 := by
  unfold ReplyClient.registered
  rw [written, Table.sum_erase, ReplyClient.registered_key]

theorem ReplyClient.length_le_registered (client : ReplyClient) (key : Int × Int) :
    (((client.waiters.lookup key).getD []).length : Int) ≤ client.registered key.1 := by
  have without := ReplyClient.registered_nonneg
    { client with waiters := client.waiters.erase key } key.1
  rw [ReplyClient.registered_erase client rfl, if_pos rfl] at without
  omega

theorem ReplyClient.Sound.count (sound : client.Sound) (number : Int) :
    (client.active.lookup number).getD 0 = client.registered number := by
  rw [sound.counted]
  split
  · rename_i zero
    exact zero.symm
  · rfl

theorem ReplyClient.Sound.waits (sound : client.Sound) {key : Int × Int} {entry : ReplyEntry} :
    entry ∈ (client.waiters.lookup key).getD [] ↔
      client.inFlight.lookup entry.ask = some (key, entry) := by
  refine ⟨fun isIn => ?_, fun held => (sound.held _ _ _ held).2⟩
  cases found : client.waiters.lookup key with
  | none =>
      rw [found] at isIn
      exact absurd isIn List.not_mem_nil
  | some entries =>
      rw [found] at isIn
      exact (sound.waiting key entries found).2.2 entry isIn

theorem ReplyClient.Sound.nodup (sound : client.Sound) (key : Int × Int) :
    ((client.waiters.lookup key).getD []).Nodup := by
  cases found : client.waiters.lookup key with
  | none => exact List.nodup_nil
  | some entries => exact (sound.waiting key entries found).2.1

theorem ReplyClient.Sound.fresh_waits (sound : client.Sound) {key : Int × Int} {ask : AskId}
    (fresh : client.futures.lookup ask = none) :
    ∀ other ∈ (client.waiters.lookup key).getD [], other.ask ≠ ask := by
  rintro other isIn rfl
  exact sound.made _ _ (sound.waits.mp isIn) fresh

theorem ReplyClient.Sound.register_counted (sound : client.Sound) (key : Int × Int)
    (entry : ReplyEntry) (number : Int) :
    (client.register key entry).active.lookup number =
      if (client.register key entry).registered number = 0 then none
      else some ((client.register key entry).registered number) := by
  have moved : (client.register key entry).registered number =
      client.registered number + if key.1 = number then 1 else 0 := by
    rw [ReplyClient.registered_put client rfl, List.length_append, List.length_singleton]
    split <;> omega
  have nonneg := client.registered_nonneg number
  have written : (client.register key entry).active.lookup number =
      if number = key.1 then some (client.registered key.1 + 1) else client.active.lookup number := by
    rw [← sound.count]
    exact Table.lookup_put _ _ _ _
  rw [written, moved]
  by_cases same : number = key.1
  · subst same
    rw [if_pos rfl, if_pos rfl, if_neg (by omega)]
  · rw [if_neg same, if_neg (Ne.symm same), sound.counted, Int.add_zero]

theorem ReplyClient.Sound.register (sound : client.Sound) {key : Int × Int} {entry : ReplyEntry}
    (fresh : client.futures.lookup entry.ask = none) : (client.register key entry).Sound := by
  refine ⟨?_, ?_, sound.register_counted key entry, ?_, sound.once, ?_⟩
  · intro ask otherKey other isHeld
    simp only [ReplyClient.register, Table.lookup_put] at isHeld ⊢
    by_cases mine : ask = entry.ask
    · rw [if_pos mine] at isHeld
      cases isHeld
      simp [mine]
    · rw [if_neg mine] at isHeld
      obtain ⟨named, isIn⟩ := sound.held ask otherKey other isHeld
      refine ⟨named, ?_⟩
      split
      · rename_i same
        subst same
        exact List.mem_append_left _ isIn
      · exact isIn
  · intro otherKey entries found
    simp only [ReplyClient.register, Table.lookup_put] at found ⊢
    by_cases same : otherKey = key
    · subst same
      rw [if_pos rfl] at found
      cases found
      have notMember : entry ∉ (client.waiters.lookup otherKey).getD [] :=
        fun isIn => sound.fresh_waits fresh entry isIn rfl
      refine ⟨by simp, by simpa using List.Nodup.concat notMember (sound.nodup otherKey), ?_⟩
      intro other isIn
      rcases List.mem_append.mp isIn with isOld | isNew
      · rw [if_neg (sound.fresh_waits fresh other isOld)]
        exact sound.waits.mp isOld
      · rw [List.mem_singleton.mp isNew, if_pos rfl]
    · rw [if_neg same] at found
      obtain ⟨nonempty, nodup, held⟩ := sound.waiting otherKey entries found
      refine ⟨nonempty, nodup, ?_⟩
      intro other isIn
      have waits : other ∈ (client.waiters.lookup otherKey).getD [] := by rwa [found]
      rw [if_neg (sound.fresh_waits fresh other waits)]
      exact held other isIn
  · intro ask held isHeld
    simp only [ReplyClient.register, Table.lookup_put] at isHeld ⊢
    by_cases mine : ask = entry.ask
    · simp [mine]
    · rw [if_neg mine] at isHeld ⊢
      exact sound.made ask held isHeld
  · intro ask event
    simp only [ReplyClient.register, Table.lookup_put]
    by_cases mine : ask = entry.ask
    · subst mine
      rw [sound.resolved, fresh]
      simp
    · rw [if_neg mine]
      exact sound.resolved ask event

/-- A key without waiters is dropped, so one that is left has some. -/
theorem ReplyClient.lookup_deregister (client : ReplyClient) (key other : Int × Int)
    (entry : ReplyEntry) :
    (client.deregister key entry).waiters.lookup other =
      if other = key then
        (if ((client.waiters.lookup key).getD []).erase entry = [] then none
          else some (((client.waiters.lookup key).getD []).erase entry))
      else client.waiters.lookup other := by
  simp only [ReplyClient.deregister]
  split
  · rw [Table.lookup_erase]
  · rw [Table.lookup_put]

theorem ReplyClient.mem_deregister (client : ReplyClient) {key other : Int × Int}
    {entry waiter : ReplyEntry} :
    waiter ∈ ((client.deregister key entry).waiters.lookup other).getD [] ↔
      waiter ∈ if other = key then ((client.waiters.lookup key).getD []).erase entry
        else (client.waiters.lookup other).getD [] := by
  rw [ReplyClient.lookup_deregister]
  split
  · split
    · rename_i empty
      rw [empty]
      rfl
    · rfl
  · rfl

theorem ReplyClient.registered_deregister (client : ReplyClient) {key : Int × Int}
    {entry : ReplyEntry} (isIn : entry ∈ (client.waiters.lookup key).getD []) (number : Int) :
    (client.deregister key entry).registered number =
      client.registered number - if key.1 = number then 1 else 0 := by
  have shorter := List.length_erase_of_mem isIn
  have positive := List.length_pos_of_mem isIn
  by_cases last : ((client.waiters.lookup key).getD []).erase entry = []
  · have written : (client.deregister key entry).waiters = client.waiters.erase key := if_pos last
    rw [last, List.length_nil] at shorter
    rw [ReplyClient.registered_erase client written]
    split <;> omega
  · have written : (client.deregister key entry).waiters =
        client.waiters.put key (((client.waiters.lookup key).getD []).erase entry) := if_neg last
    rw [ReplyClient.registered_put client written, shorter]
    split <;> omega

theorem ReplyClient.Sound.deregister_counted (sound : client.Sound) {key : Int × Int}
    {entry : ReplyEntry} (isIn : entry ∈ (client.waiters.lookup key).getD []) (number : Int) :
    (client.deregister key entry).active.lookup number =
      if (client.deregister key entry).registered number = 0 then none
      else some ((client.deregister key entry).registered number) := by
  have nonneg := (client.deregister key entry).registered_nonneg number
  have written : (client.deregister key entry).active.lookup number =
      if number = key.1 then
        (if 0 < client.registered key.1 - 1 then some (client.registered key.1 - 1) else none)
      else client.active.lookup number := by
    simp only [ReplyClient.deregister, sound.count]
    split
    · rw [Table.lookup_put]
    · rw [Table.lookup_erase]
  rw [client.registered_deregister isIn] at nonneg ⊢
  rw [written]
  by_cases same : number = key.1
  · subst same
    rw [if_pos rfl] at nonneg
    rw [if_pos rfl, if_pos rfl]
    by_cases zero : client.registered key.1 - 1 = 0
    · rw [if_pos zero, if_neg (by omega)]
    · rw [if_neg zero, if_pos (by omega)]
  · rw [if_neg same, if_neg (Ne.symm same), sound.counted, Int.sub_zero]

/-- What is still registered after a call leaves is what was, but for that call's waiter. -/
theorem ReplyClient.Sound.waits_deregister (sound : client.Sound) {key other : Int × Int}
    {entry waiter : ReplyEntry} (isHeld : client.inFlight.lookup entry.ask = some (key, entry)) :
    waiter ∈ ((client.deregister key entry).waiters.lookup other).getD [] ↔
      waiter.ask ≠ entry.ask ∧ client.inFlight.lookup waiter.ask = some (other, waiter) := by
  rw [ReplyClient.mem_deregister]
  by_cases same : other = key
  · subst same
    rw [if_pos rfl, (sound.nodup other).mem_erase_iff, sound.waits]
    refine and_congr_left fun held => not_congr ⟨fun equal => by rw [equal], fun sameAsk => ?_⟩
    rw [sameAsk, isHeld] at held
    exact (Prod.mk.inj (Option.some.inj held)).2.symm
  · rw [if_neg same, sound.waits]
    refine ⟨fun held => ⟨fun sameAsk => ?_, held⟩, And.right⟩
    rw [sameAsk, isHeld] at held
    exact same (Prod.mk.inj (Option.some.inj held)).1.symm

theorem ReplyClient.Sound.deregister (sound : client.Sound) {ask : AskId} {key : Int × Int}
    {entry : ReplyEntry} (isHeld : client.inFlight.lookup ask = some (key, entry)) :
    (client.deregister key entry).Sound := by
  obtain ⟨rfl, isIn⟩ := sound.held _ _ _ isHeld
  have inFlight : ∀ other, (client.deregister key entry).inFlight.lookup other =
      if other = entry.ask then none else client.inFlight.lookup other := by
    intro other
    exact Table.lookup_erase _ _ _
  refine ⟨?_, ?_, sound.deregister_counted isIn, ?_, sound.once, sound.resolved⟩
  · intro ask otherKey other otherHeld
    rw [inFlight] at otherHeld
    split at otherHeld
    · cases otherHeld
    · rename_i different
      obtain ⟨rfl, -⟩ := sound.held _ _ _ otherHeld
      exact ⟨rfl, (sound.waits_deregister isHeld).mpr ⟨different, otherHeld⟩⟩
  · intro otherKey others found
    have kept : others ≠ [] ∧ others.Nodup := by
      have written := client.lookup_deregister key otherKey entry
      rw [found] at written
      split at written
      · split at written
        · cases written
        · rename_i nonempty
          cases written
          exact ⟨nonempty, (sound.nodup key).erase entry⟩
      · obtain ⟨nonempty, nodup, -⟩ := sound.waiting otherKey others written.symm
        exact ⟨nonempty, nodup⟩
    refine ⟨kept.1, kept.2, ?_⟩
    intro other otherIn
    have waits : other ∈ ((client.deregister key entry).waiters.lookup otherKey).getD [] := by
      rwa [found]
    obtain ⟨different, held⟩ := (sound.waits_deregister isHeld).mp waits
    rw [inFlight, if_neg different]
    exact held
  · intro ask otherHeld isOther
    rw [inFlight] at isOther
    split at isOther
    · cases isOther
    · exact sound.made ask otherHeld isOther

/-- Without a count there is no waiter, under any epoch. -/
theorem ReplyClient.Sound.unawaited (sound : client.Sound) {key : Int × Int}
    (uncounted : client.active.lookup key.1 = none) : client.waiters.lookup key = none := by
  cases found : client.waiters.lookup key with
  | none => rfl
  | some entries =>
      have nonempty := List.length_pos_iff.mpr (sound.waiting key entries found).1
      have atLeast := client.length_le_registered key
      have zero := sound.count key.1
      rw [uncounted] at zero
      rw [found] at atLeast
      simp only [Option.getD_some, Option.getD_none] at atLeast zero
      omega

/-- A record that is not wanted would reach no waiter. -/
theorem ReplyClient.Sound.receive_eq (sound : client.Sound) {record : KafkaRecord}
    (keyed : Keyed runtime client (.record record)) :
    client.receive runtime record = client.decodeAndDispatch runtime record := by
  unfold ReplyClient.receive
  split
  · rfl
  · rename_i unwanted
    unfold ReplyClient.decodeAndDispatch
    cases decoded : decodeEvent runtime record.value with
    | error raised => rfl
    | ok event =>
        have same := keyed event decoded
        cases hasKey : record.key with
        | none => simp [ReplyClient.wanted, hasKey] at unwanted
        | some publicId =>
            rw [hasKey] at same
            cases parsed : txNumber runtime (.str publicId) with
            | none => simp [ReplyClient.wanted, hasKey, parsed] at unwanted
            | some number =>
                have uncounted : client.active.lookup number = none := by
                  simpa [ReplyClient.wanted, hasKey, parsed] using unwanted
                simp only [ReplyClient.dispatch, replyKey, same, Option.map_some, Option.bind_some,
                  parsed]
                cases (event.data.lookup "epoch").bind runtime.int with
                | none => rfl
                | some epoch =>
                    have nobody : client.waiters.lookup (number, epoch) = none :=
                      sound.unawaited uncounted
                    simp [nobody]

theorem ReplyClient.Sound.decodeAndDispatch (sound : client.Sound) (record : KafkaRecord) :
    (client.decodeAndDispatch runtime record).Sound := by
  unfold ReplyClient.decodeAndDispatch
  split
  · exact sound
  · exact sound.dispatch _

theorem ReplyClient.sound_init : ReplyClient.init.Sound := by
  refine ⟨?_, ?_, ?_, ?_, List.nodup_nil, ?_⟩
  · intro ask key entry isHeld
    cases isHeld
  · intro key entries found
    cases found
  · intro number
    rfl
  · intro ask held isHeld
    cases isHeld
  · intro ask event
    simp [ReplyClient.init]

/-- With the filter or without it, a step is the same. -/
theorem ReplyClient.Sound.step_eq (sound : client.Sound) {label : ReplyLabel}
    (keyed : Keyed runtime client label) :
    client.step runtime label = client.stepAll runtime label := by
  cases label with
  | record record => exact congrArg some (sound.receive_eq keyed)
  | ask ask publicId epoch accepts => rfl
  | finish ask ending => rfl

theorem ReplyClient.Sound.stepAll (sound : client.Sound) {label : ReplyLabel}
    (taken : client.stepAll runtime label = some after) : after.Sound := by
  cases label with
  | ask ask publicId epoch accepts =>
      simp only [ReplyClient.stepAll, ReplyClient.stepBy] at taken
      split at taken
      · contradiction
      · rename_i fresh
        split at taken
        · cases taken
          exact sound
        · cases taken
          exact sound.register fresh
  | record record =>
      cases taken
      exact sound.decodeAndDispatch record
  | finish ask ending =>
      obtain ⟨held, isHeld, ended⟩ := Option.bind_eq_some_iff.mp taken
      split at ended
      · cases ended
        exact sound.deregister isHeld
      · contradiction

/-- Filtering by key is a refinement of decoding every record, in the same states. -/
theorem ReplyClient.unfiltered {labels : List ReplyLabel}
    (run : Run (ReplyClient.step runtime) (Keyed runtime) ReplyClient.init labels client) :
    client.Sound ∧
      Run (ReplyClient.stepAll runtime) (Keyed runtime) ReplyClient.init labels client := by
  induction run with
  | start => exact ⟨ReplyClient.sound_init, .start⟩
  | snoc _ keyed taken ih =>
      obtain ⟨sound, run⟩ := ih
      rw [sound.step_eq keyed] at taken
      exact ⟨sound.stepAll taken, .snoc run keyed taken⟩

/-- The event a record carries, if it has this key and an accepted type. -/
def ReplyLabel.answer (runtime : Runtime) (key : Int × Int) (accepts : List String) :
    ReplyLabel → Option Wire.Event
  | .record received =>
      (decodeEvent runtime received.value).toOption.filter (fun event =>
        decide (replyKey runtime event = some key) && accepted event accepts)
  | _ => none

/-- The call has ended with this step. -/
def ReplyLabel.ends (ask : AskId) : ReplyLabel → Bool
  | .finish ended _ => decide (ended = ask)
  | _ => false

/-- The steps until the call ends. -/
def heard (ask : AskId) (labels : List ReplyLabel) : List ReplyLabel :=
  labels.takeWhile (fun label => !label.ends ask)

/-- The first answer among the steps until the call ends. -/
def firstAnswer (runtime : Runtime) (ask : AskId) (key : Int × Int) (accepts : List String)
    (labels : List ReplyLabel) : Option Wire.Event :=
  (heard ask labels).findSome? (ReplyLabel.answer runtime key accepts)

theorem heard_snoc {ask : AskId} {labels : List ReplyLabel} (label : ReplyLabel) :
    heard ask (labels ++ [label]) =
      if labels.any (ReplyLabel.ends ask) then heard ask labels
      else heard ask labels ++ heard ask [label] := by
  unfold heard
  induction labels with
  | nil => rfl
  | cons head labels ih =>
      by_cases ended : head.ends ask = true
      · simp [ended]
      · simp only [List.cons_append, List.takeWhile_cons, ended, Bool.not_false, ↓reduceIte, ih,
          List.any_cons, Bool.false_or]
        split <;> rfl

theorem firstAnswer_snoc {ask : AskId} {key : Int × Int} {accepts : List String}
    {labels : List ReplyLabel} (label : ReplyLabel) :
    firstAnswer runtime ask key accepts (labels ++ [label]) =
      if labels.any (ReplyLabel.ends ask) then firstAnswer runtime ask key accepts labels
      else (firstAnswer runtime ask key accepts labels).or (label.answer runtime key accepts) := by
  unfold firstAnswer
  rw [heard_snoc]
  split
  · rfl
  · rw [List.findSome?_append]
    congr 1
    cases label with
    | ask other publicId epoch accepts => rfl
    | record received => simp [heard, ReplyLabel.ends]
    | finish other ending =>
        by_cases mine : other = ask <;> simp [heard, ReplyLabel.ends, ReplyLabel.answer, mine]

/-- An ask after the steps since it registered. -/
structure ReplyClient.Listening (runtime : Runtime) (client : ReplyClient) (ask : AskId)
    (key : Int × Int) (accepts : List String) (since : List ReplyLabel) : Prop where
  future : client.futures.lookup ask =
    some (firstAnswer runtime ask key accepts since)
  inFlight : client.inFlight.lookup ask =
    if since.any (ReplyLabel.ends ask) then none else some (key, ⟨ask, accepts⟩)

/-- The waiters of a key are the calls in flight that hold it. -/
theorem ReplyClient.Sound.addressed_iff (sound : client.Sound) {event : Wire.Event} {key : Int × Int}
    {ask : AskId} :
    addressed event ((client.waiters.lookup key).getD []) ask = true ↔
      ∃ entry, client.inFlight.lookup ask = some (key, entry) ∧
        accepted event entry.accepts = true := by
  simp only [addressed, List.any_eq_true, Bool.and_eq_true, decide_eq_true_eq]
  refine ⟨?_, ?_⟩
  · rintro ⟨entry, isIn, rfl, accepts⟩
    refine ⟨entry, ?_, accepts⟩
    cases found : client.waiters.lookup key with
    | none =>
        rw [found] at isIn
        exact absurd isIn List.not_mem_nil
    | some entries =>
        rw [found] at isIn
        exact (sound.waiting key entries found).2.2 entry isIn
  · rintro ⟨entry, isHeld, accepts⟩
    obtain ⟨named, isIn⟩ := sound.held _ _ _ isHeld
    exact ⟨entry, isIn, named, accepts⟩

theorem ReplyClient.Sound.lookup_dispatch (sound : client.Sound) (event : Wire.Event) {ask : AskId}
    {key : Int × Int} {accepts : List String}
    (isHeld : client.inFlight.lookup ask = some (key, ⟨ask, accepts⟩)) :
    (client.dispatch runtime event).futures.lookup ask =
      if (replyKey runtime event = some key ∧ accepted event accepts) ∧ client.undone ask
      then some (some event) else client.futures.lookup ask := by
  unfold ReplyClient.dispatch
  cases itsKey : replyKey runtime event with
  | none => simp
  | some other =>
      have mine : addressed event ((client.waiters.lookup other).getD []) ask = true ↔
          some other = some key ∧ accepted event accepts = true := by
        rw [sound.addressed_iff, isHeld]
        simp only [Option.some.injEq, Prod.mk.injEq]
        refine ⟨?_, ?_⟩
        · rintro ⟨entry, ⟨rfl, rfl⟩, accepts⟩
          exact ⟨rfl, accepts⟩
        · rintro ⟨rfl, accepts⟩
          exact ⟨_, ⟨rfl, rfl⟩, accepts⟩
      simp only [ReplyClient.lookup_offers, mine]

theorem ReplyClient.Sound.lookup_dispatch_ended (sound : client.Sound) (event : Wire.Event)
    {ask : AskId} (ended : client.inFlight.lookup ask = none) :
    (client.dispatch runtime event).futures.lookup ask = client.futures.lookup ask := by
  unfold ReplyClient.dispatch
  cases replyKey runtime event with
  | none => rfl
  | some other =>
      have nobody : ¬ addressed event ((client.waiters.lookup other).getD []) ask = true := by
        rw [sound.addressed_iff, ended]
        simp
      simp only [ReplyClient.lookup_offers, nobody]
      rfl

variable {ask : AskId} {key : Int × Int} {accepts : List String} {since : List ReplyLabel}

theorem ReplyClient.Listening.record (listening : client.Listening runtime ask key accepts since)
    (sound : client.Sound) (received : KafkaRecord) :
    (client.decodeAndDispatch runtime received).Listening runtime ask key accepts
      (since ++ [ReplyLabel.record received]) := by
  have goesOn : (since ++ [ReplyLabel.record received]).any (ReplyLabel.ends ask) =
      since.any (ReplyLabel.ends ask) := by
    rw [List.any_append]
    exact Bool.or_false _
  unfold ReplyClient.decodeAndDispatch
  cases decoded : decodeEvent runtime received.value with
  | error raised =>
      refine ⟨?_, by rw [goesOn]; exact listening.inFlight⟩
      have silent : (ReplyLabel.record received).answer runtime key accepts = none := by
        simp [ReplyLabel.answer, decoded, Except.toOption]
      rw [firstAnswer_snoc, silent, Option.or_none, ite_self]
      exact listening.future
  | ok event =>
      simp only
      refine ⟨?_, by
        rw [goesOn, (client.dispatch_frame runtime event).2.2]
        exact listening.inFlight⟩
      rw [firstAnswer_snoc]
      cases ended : since.any (ReplyLabel.ends ask) with
      | true =>
          have gone := listening.inFlight
          rw [ended, if_pos rfl] at gone
          rw [sound.lookup_dispatch_ended event gone, if_pos rfl]
          exact listening.future
      | false =>
          have isHeld := listening.inFlight
          rw [ended, if_neg Bool.false_ne_true] at isHeld
          rw [sound.lookup_dispatch event isHeld, if_neg Bool.false_ne_true, listening.future]
          have undone : client.undone ask = (firstAnswer runtime ask key accepts since).isNone := by
            unfold ReplyClient.undone
            rw [listening.future]
            cases firstAnswer runtime ask key accepts since <;> rfl
          rw [undone]
          have answers : (ReplyLabel.record received).answer runtime key accepts =
              if replyKey runtime event = some key ∧ accepted event accepts = true then
                some event else none := by
            simp [ReplyLabel.answer, decoded, Except.toOption, Option.filter]
          rw [answers]
          cases firstAnswer runtime ask key accepts since with
          | some earlier => simp
          | none =>
              simp only [Option.isNone_none, and_true, Option.none_or]
              split <;> rfl

theorem ReplyClient.Listening.step (listening : client.Listening runtime ask key accepts since)
    (sound : client.Sound) {label : ReplyLabel} (taken : client.stepAll runtime label = some after) :
    after.Listening runtime ask key accepts (since ++ [label]) := by
  cases label with
  | record received =>
      cases taken
      exact listening.record sound received
  | ask other publicId epoch types =>
      have goesOn : (since ++ [ReplyLabel.ask other publicId epoch types]).any (ReplyLabel.ends ask) =
          since.any (ReplyLabel.ends ask) := by
        rw [List.any_append]
        exact Bool.or_false _
      have same : firstAnswer runtime ask key accepts
          (since ++ [ReplyLabel.ask other publicId epoch types]) =
            firstAnswer runtime ask key accepts since := by
        rw [firstAnswer_snoc]
        exact (ite_congr rfl (fun _ => rfl) (fun _ => Option.or_none)).trans (ite_self _)
      simp only [ReplyClient.stepAll, ReplyClient.stepBy] at taken
      split at taken
      · contradiction
      · rename_i fresh
        split at taken
        · cases taken
          exact ⟨same ▸ listening.future, goesOn ▸ listening.inFlight⟩
        · cases taken
          have different : ask ≠ other := by
            intro mine
            have future := listening.future
            rw [mine, fresh] at future
            cases future
          refine ⟨?_, ?_⟩
          · rw [same]
            simp only [ReplyClient.register, Table.lookup_put, different, ↓reduceIte]
            exact listening.future
          · rw [goesOn]
            simp only [ReplyClient.register, Table.lookup_put, different, ↓reduceIte]
            exact listening.inFlight
  | finish other ending =>
      obtain ⟨held, isHeld, ended⟩ := Option.bind_eq_some_iff.mp taken
      split at ended
      · cases ended
        have named := (sound.held _ _ _ isHeld).1
        refine ⟨?_, ?_⟩
        · have same : firstAnswer runtime ask key accepts (since ++ [ReplyLabel.finish other ending]) =
              firstAnswer runtime ask key accepts since := by
            rw [firstAnswer_snoc]
            exact (ite_congr rfl (fun _ => rfl) (fun _ => Option.or_none)).trans (ite_self _)
          rw [same]
          exact listening.future
        · have ends : (since ++ [ReplyLabel.finish other ending]).any (ReplyLabel.ends ask) =
              (since.any (ReplyLabel.ends ask) || decide (other = ask)) := by
            simp [ReplyLabel.ends]
          simp only [ReplyClient.deregister, Table.lookup_erase, named, ends, listening.inFlight]
          by_cases mine : ask = other
          · simp [mine]
          · simp [mine, Ne.symm mine]
      · contradiction

/-- An ask listens from the step it registers in. -/
theorem ReplyClient.listening_register (epoch number : Int) (publicId : String)
    (parsed : txNumber runtime (.str publicId) = some number)
    (taken : client.stepAll runtime (.ask ask publicId epoch accepts) = some after) :
    after.Listening runtime ask (number, epoch) accepts [] := by
  simp only [ReplyClient.stepAll, ReplyClient.stepBy, parsed] at taken
  split at taken
  · contradiction
  · cases taken
    refine ⟨?_, ?_⟩
    · simp [ReplyClient.register, firstAnswer, heard]
    · simp [ReplyClient.register]

theorem ReplyClient.listening_of_run {earlier later : List ReplyLabel} {epoch number : Int}
    {publicId : String} (parsed : txNumber runtime (.str publicId) = some number)
    (run : Run (ReplyClient.step runtime) (Keyed runtime) ReplyClient.init
      (earlier ++ .ask ask publicId epoch accepts :: later) client) :
    client.Listening runtime ask (number, epoch) accepts later := by
  obtain ⟨before, past, rest⟩ := run.split
  obtain ⟨registered, keyed, taken, since⟩ := rest.uncons
  have sound := (ReplyClient.unfiltered past).1
  rw [sound.step_eq keyed] at taken
  have start : registered.Sound ∧ registered.Listening runtime ask (number, epoch) accepts [] :=
    ⟨sound.stepAll taken, ReplyClient.listening_register epoch number publicId parsed taken⟩
  have listens : ∀ {labels : List ReplyLabel} {state : ReplyClient},
      Run (ReplyClient.step runtime) (Keyed runtime) registered labels state →
        state.Sound ∧ state.Listening runtime ask (number, epoch) accepts labels := by
    intro labels state run
    induction run with
    | start => exact start
    | snoc _ keyed taken ih =>
        rw [ih.1.step_eq keyed] at taken
        exact ⟨ih.1.stepAll taken, ih.2.step ih.1 taken⟩
  exact (listens since).2

/-- A call that made a future and is no longer in flight. -/
def ReplyClient.Ended (client : ReplyClient) (ask : AskId) : Prop :=
  client.futures.lookup ask ≠ none ∧ client.inFlight.lookup ask = none

theorem ReplyClient.made_decodeAndDispatch {received : KafkaRecord}
    (made : client.futures.lookup ask ≠ none) :
    (client.decodeAndDispatch runtime received).futures.lookup ask ≠ none := by
  unfold ReplyClient.decodeAndDispatch ReplyClient.dispatch
  split
  · exact made
  · split
    · exact made
    · rw [ReplyClient.lookup_offers]
      split
      · simp
      · exact made

theorem ReplyClient.inFlight_decodeAndDispatch (received : KafkaRecord) :
    (client.decodeAndDispatch runtime received).inFlight = client.inFlight := by
  unfold ReplyClient.decodeAndDispatch
  split
  · rfl
  · exact (client.dispatch_frame runtime _).2.2

theorem ReplyClient.Ended.step (ended : client.Ended ask) {label : ReplyLabel}
    (taken : client.stepAll runtime label = some after) : after.Ended ask := by
  cases label with
  | record received =>
      cases taken
      exact ⟨ReplyClient.made_decodeAndDispatch ended.1,
        by rw [ReplyClient.inFlight_decodeAndDispatch]; exact ended.2⟩
  | ask other publicId epoch types =>
      simp only [ReplyClient.stepAll, ReplyClient.stepBy] at taken
      split at taken
      · contradiction
      · rename_i fresh
        split at taken
        · cases taken
          exact ended
        · cases taken
          have different : ask ≠ other := by
            intro mine
            exact ended.1 (mine ▸ fresh)
          refine ⟨?_, ?_⟩
          · simp only [ReplyClient.register, Table.lookup_put, different, ↓reduceIte]
            exact ended.1
          · simp only [ReplyClient.register, Table.lookup_put, different, ↓reduceIte]
            exact ended.2
  | finish other ending =>
      obtain ⟨held, isHeld, finished⟩ := Option.bind_eq_some_iff.mp taken
      split at finished
      · cases finished
        refine ⟨ended.1, ?_⟩
        simp only [ReplyClient.deregister, Table.lookup_erase]
        split
        · rfl
        · exact ended.2
      · contradiction

theorem ReplyClient.ended_of_finish (sound : client.Sound) {ending : Ending}
    (taken : client.stepAll runtime (.finish ask ending) = some after) : after.Ended ask := by
  obtain ⟨held, isHeld, finished⟩ := Option.bind_eq_some_iff.mp taken
  split at finished
  · cases finished
    have named := (sound.held _ _ _ isHeld).1
    refine ⟨sound.made _ _ isHeld, ?_⟩
    simp [ReplyClient.deregister, named]
  · contradiction

theorem ReplyClient.ended_of_run {labels : List ReplyLabel} {ending : Ending}
    (run : Run (ReplyClient.step runtime) (Keyed runtime) ReplyClient.init labels client)
    (finished : .finish ask ending ∈ labels) : client.Ended ask := by
  induction run with
  | start => exact absurd finished List.not_mem_nil
  | snoc past keyed taken ih =>
      have sound := (ReplyClient.unfiltered past).1
      rw [sound.step_eq keyed] at taken
      rcases List.mem_append.mp finished with before | now
      · exact (ih before).step taken
      · rw [← List.mem_singleton.mp now] at taken
        exact ReplyClient.ended_of_finish sound taken

/-- In every run whose records are keyed by their events' transactions: the counts are the
waiters over all epochs and none is zero; every waiter is of a call in flight; decoding every
record leads to the same state; a future is resolved at most once, by the first answer between
its registration and the end of its call; and a call that has ended has no entry left. -/
theorem replies_filtered_by_key {labels : List ReplyLabel}
    (run : Run (ReplyClient.step runtime) (Keyed runtime) ReplyClient.init labels client) :
    (∀ number, client.active.lookup number =
      if client.registered number = 0 then none else some (client.registered number)) ∧
    (∀ key entries, client.waiters.lookup key = some entries → entries ≠ [] ∧ entries.Nodup ∧
      ∀ entry ∈ entries, client.inFlight.lookup entry.ask = some (key, entry)) ∧
    Run (ReplyClient.stepAll runtime) (Keyed runtime) ReplyClient.init labels client ∧
    (client.resolutions.map Prod.fst).Nodup ∧
    (∀ ask event, (ask, event) ∈ client.resolutions ↔
      client.futures.lookup ask = some (some event)) ∧
    (∀ earlier ask publicId epoch accepts later number,
      labels = earlier ++ .ask ask publicId epoch accepts :: later →
      txNumber runtime (.str publicId) = some number →
      client.futures.lookup ask =
        some (firstAnswer runtime ask (number, epoch) accepts later)) ∧
    (∀ ask ending, .finish ask ending ∈ labels →
      client.inFlight.lookup ask = none ∧
        ∀ key entries, client.waiters.lookup key = some entries →
          ∀ entry ∈ entries, entry.ask ≠ ask) := by
  obtain ⟨sound, unfiltered⟩ := ReplyClient.unfiltered run
  refine ⟨sound.counted, sound.waiting, unfiltered, sound.once, sound.resolved, ?_, ?_⟩
  · rintro earlier ask publicId epoch accepts later number rfl parsed
    exact (ReplyClient.listening_of_run parsed run).future
  · intro ask ending finished
    have gone := (ReplyClient.ended_of_run run finished).2
    refine ⟨gone, ?_⟩
    intro key entries found entry isIn mine
    have held := (sound.waiting key entries found).2.2 entry isIn
    rw [mine, gone] at held
    cases held

/-- The event of a release, as its payload holds it. -/
def releasedJson : Json :=
  .obj [("eventId", .str "e"), ("type", .str "inventory.stock-released"), ("version", .int 1),
    ("occurredAt", .str "t"), ("producer", .str "inventory"),
    ("data", .obj [("transactionId", .str "tx-7"), ("epoch", .int 2)])]

/-- A runtime for that one payload. -/
def releasedRuntime : Runtime where
  loads bytes := if bytes.data = "\x7b\x7d".toUTF8.data then .ok releasedJson else .error "not the payload"
  dumps _ := .error "not the payload"
  repr _ := some ""
  decodeReplacing _ := ""
  int
    | .int value => some value
    | .str text => Python.int text.toList
    | _ => none
  sends _ _ := true

theorem txNumber_seven : txNumber releasedRuntime (.str "tx-7") = some 7 := by
  have parts : "tx-7".splitOn "-" = ["tx", "7"] := by
    rw [String.splitOn, if_neg (by decide)]
    rw [String.splitOnAux, if_neg (by decide +kernel), if_neg (by decide +kernel)]
    rw [String.splitOnAux, if_neg (by decide +kernel), if_neg (by decide +kernel)]
    rw [String.splitOnAux, if_neg (by decide +kernel), if_pos (by decide +kernel),
      if_pos (by decide +kernel)]
    rw [String.splitOnAux, if_neg (by decide +kernel), if_neg (by decide +kernel)]
    rw [String.splitOnAux, if_pos (by decide +kernel)]
    decide +kernel
  simp only [txNumber, parts]
  decide +kernel

def releasedTypes : List String := ["inventory.stock-released"]

def releasedRecord : KafkaRecord :=
  { topic := "inventory.stock.v1", partition := 0, offset := 0, key := some "tx-7",
    value := some "\x7b\x7d".toUTF8, headers := [] }

def releasedEvent : Wire.Event :=
  { type := "inventory.stock-released", producer := "inventory"
    data := [("transactionId", .str "tx-7"), ("epoch", .int 2)], eventId := "e", version := 1
    correlationId := .null, occurredAt := "t" }

theorem releasedRecord_decodes :
    decodeEvent releasedRuntime releasedRecord.value = .ok releasedEvent := by
  have loaded : releasedRuntime.loads "\x7b\x7d".toUTF8 = .ok releasedJson := by
    simp [releasedRuntime]
  simp only [decodeEvent, releasedRecord, Wire.Event.decode, loaded]
  rfl

theorem releasedRecord_answers :
    (ReplyLabel.record releasedRecord).answer releasedRuntime (7, 2) releasedTypes =
      some releasedEvent := by
  have itsKey : replyKey releasedRuntime releasedEvent = some (7, 2) := by
    have publicId : releasedEvent.data.lookup "transactionId" = some (.str "tx-7") := rfl
    have epoch : (releasedEvent.data.lookup "epoch").bind releasedRuntime.int = some 2 := rfl
    simp only [replyKey, publicId, epoch, Option.bind_some, txNumber_seven]
  have itsType : accepted releasedEvent releasedTypes = true := by decide
  simp [ReplyLabel.answer, releasedRecord_decodes, itsKey, itsType, Except.toOption]

/-- Two asks of one transaction; the first gives up before the second's answer comes. -/
theorem replies_filtered_by_key_released : ∃ client,
    Run (ReplyClient.step releasedRuntime) (Keyed releasedRuntime) ReplyClient.init
      [.ask 1 "tx-7" 1 releasedTypes, .ask 2 "tx-7" 2 releasedTypes, .finish 1 .timedOut,
        .record releasedRecord] client ∧
      client.inFlight.lookup 1 = none ∧
      client.futures.lookup 2 = some (some releasedEvent) := by
  have first : ReplyClient.step releasedRuntime ReplyClient.init (.ask 1 "tx-7" 1 releasedTypes) =
      some (ReplyClient.init.register (7, 1) ⟨1, releasedTypes⟩) := by
    simp only [ReplyClient.step, ReplyClient.stepBy, txNumber_seven]
    rfl
  have second : ReplyClient.step releasedRuntime
      (ReplyClient.init.register (7, 1) ⟨1, releasedTypes⟩) (.ask 2 "tx-7" 2 releasedTypes) =
        some ((ReplyClient.init.register (7, 1) ⟨1, releasedTypes⟩).register (7, 2)
          ⟨2, releasedTypes⟩) := by
    simp only [ReplyClient.step, ReplyClient.stepBy, txNumber_seven]
    rfl
  have third : ReplyClient.step releasedRuntime
      ((ReplyClient.init.register (7, 1) ⟨1, releasedTypes⟩).register (7, 2) ⟨2, releasedTypes⟩)
      (.finish 1 .timedOut) = some
        (((ReplyClient.init.register (7, 1) ⟨1, releasedTypes⟩).register (7, 2)
          ⟨2, releasedTypes⟩).deregister (7, 1) ⟨1, releasedTypes⟩) := rfl
  have keyed : ∀ client, Keyed releasedRuntime client (.record releasedRecord) := by
    intro client event decoded
    cases releasedRecord_decodes.symm.trans decoded
    rfl
  have run := Run.cons trivial first (Run.cons trivial second (Run.cons trivial third
    (Run.cons (keyed _) rfl Run.start)))
  obtain ⟨-, -, -, -, -, answered, ended⟩ := replies_filtered_by_key run
  refine ⟨_, run, (ended 1 .timedOut (by simp)).1, ?_⟩
  have heardOne := answered [.ask 1 "tx-7" 1 releasedTypes] 2 "tx-7" 2 releasedTypes
    [.finish 1 .timedOut, .record releasedRecord] 7 rfl txNumber_seven
  have both : heard 2 [.finish 1 .timedOut, .record releasedRecord] =
      [.finish 1 .timedOut, .record releasedRecord] := rfl
  rw [heardOne, firstAnswer, both, List.findSome?_cons, List.findSome?_cons, releasedRecord_answers]
  rfl

end SelfCheckout.Bus
