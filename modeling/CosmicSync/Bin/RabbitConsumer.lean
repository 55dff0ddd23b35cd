import CosmicSync.Library.Broker
import CosmicSync.Library.Run
import Mathlib.Data.Int.Notation
import Mathlib.Data.List.Infix

/-!
# The consumer of events

The binary `rabbit_consumer`: it binds four groups of queues to the exchange of the
events (`topology`), each of a main queue, a queue for retries and one for dead letters,
and handles the messages of the main queues in four tasks, which share the set of the ids
they have seen (`proceed`).

The tasks run concurrently, and a message that a task has in hand stays with its queue until
it is acknowledged; so marking its id, publishing it again and acknowledging it are steps
of their own.
-/

namespace CosmicSync

namespace Consumer

open Broker

/-! ## Bodies -/

/-- The bytes of a message. -/
abbrev Body := List UInt8

/-- `serde_json::Value`. -/
inductive Json where
  | null
  | bool (b : Bool)
  | number (text : String)
  | string (s : String)
  | array (values : List Json)
  | object (fields : List (String × Json))

/-- `Value::get`, with a key. -/
def Json.get (key : String) : Json → Option Json
  | object fields => fields.lookup key
  | _ => none

/-- `Value::as_str`. -/
def Json.asStr : Json → Option String
  | string s => some s
  | _ => none

/-- `std::str::from_utf8`. -/
def fromUtf8 (body : Body) : Option String := String.fromUTF8? ⟨body.toArray⟩

/-- The parser of `serde_json`: bytes are parsed as the text of which they are the UTF-8
    encoding. -/
structure Serde where
  fromStr : String → Option Json
  fromSlice : Body → Option Json
  fromSlice_eq : ∀ body, fromSlice body = (fromUtf8 body).bind fromStr

variable (serde : Serde)

/-- The body is JSON. -/
def Parses (body : Body) : Prop := (serde.fromSlice body).isSome

instance (body : Body) : Decidable (Parses serde body) := inferInstanceAs (Decidable (_ = true))

/-- The id in a body. -/
def carriedId (body : Body) : Option String :=
  (fromUtf8 body).bind fun s => (serde.fromStr s).bind fun v => (v.get "id").bind Json.asStr

/-- `payload_id`. -/
def payloadId (body : Body) : String := (carriedId serde body).getD ("h:" ++ toString body.length)

theorem carriedId_of_not_parses {serde : Serde} {body : Body} (h : ¬Parses serde body) :
    carriedId serde body = none := by
  rw [Parses, serde.fromSlice_eq, Option.isSome_iff_ne_none, not_not] at h
  rw [carriedId]
  rcases hs : fromUtf8 body with - | s
  · rfl
  · rw [hs, Option.bind_some] at h
    rw [Option.bind_some, h, Option.bind_none]

/-! ## Queues -/

/-- The groups of queues, by the keys they are bound with. -/
inductive BindingKey where
  | file
  | version
  | device
  | watcher
  deriving DecidableEq

/-- The keys. -/
def BindingKey.key : BindingKey → String
  | file => "file.*.#"
  | version => "version.*.#"
  | device => "device.*.#"
  | watcher => "watcher.*.update.#"

/-- `keys`. -/
def keys : List BindingKey := [.file, .version, .device, .watcher]

theorem mem_keys (k : BindingKey) : k ∈ keys := by
  rcases k with _ | _ | _ | _ <;> simp [keys]

/-- A routing key matches at most one of the keys: they differ in their first word. -/
theorem key_unique {k k' : BindingKey} {routingKey : String} (h : Matches k.key routingKey)
    (h' : Matches k'.key routingKey) : k = k' := by
  let word (k : BindingKey) : List Char := (k.key.toList.splitOn '.').headI
  have hhead (k : BindingKey) (h : Matches k.key routingKey) :
      (routingKey.toList.splitOn '.').head? = some (word k) := by
    rcases k with _ | _ | _ | _ <;> exact head?_of_matchWords (by decide) (by decide) h
  have hword : word k = word k' := Option.some_inj.1 ((hhead k h).symm.trans (hhead k' h'))
  revert hword
  rcases k with _ | _ | _ | _ <;> rcases k' with _ | _ | _ | _ <;> decide

/-- `cfg.exchange` and `dlx_exchange`. -/
inductive Exchange where
  | main
  | dlx
  deriving DecidableEq

/-- `qmain`, `qretry` and `qdlq` of a key. -/
inductive Queue where
  | main (k : BindingKey)
  | retry (k : BindingKey)
  | dlq (k : BindingKey)
  deriving DecidableEq

/-- The declarations: the queue for retries is bound as the main queue is, and its messages
    return to the exchange when they expire. -/
def topology : Topology Exchange Queue where
  bindings := keys.flatMap fun k =>
    [(.main, k.key, .main k), (.main, k.key, .retry k), (.dlx, "#", .dlq k)]
  deadLetter
    | .main _ => some .dlx
    | .retry _ => some .main
    | .dlq _ => none

/-! ## The tasks -/

/-- A value of the header `x-retry-count`. -/
inductive HeaderValue where
  | longInt (n : ℤ)
  | longUInt (n : ℕ)
  | other
  deriving DecidableEq

/-- A message: its retries so far, its body and, for the statements below, the number of the
    publication of which it is a copy. -/
structure Content where
  retryCount : Option HeaderValue
  body : Body
  publication : ℕ
  deriving DecidableEq

/-- `attempts`. -/
def attempts (m : Message Content) : ℕ :=
  match m.content.retryCount with
  | some (.longInt n) => n.toNat
  | some (.longUInt n) => n
  | _ => 0

/-- The copy of a message that is published when its body does not parse. -/
def retried (m : Message Content) : Message Content :=
  { m with content := { m.content with retryCount := some (.longUInt (attempts m + 1)) } }

/-- What a task has still to do with the message in its hand. -/
inductive Stage where
  | received
  | publishing (e : Exchange)
  | acking
  deriving DecidableEq

/-- What has happened, in the order in which it did. -/
inductive Event where
  | delivered (m : Message Content)
  | marked (m : Message Content)
  | skipped (m : Message Content)
  | republished (e : Exchange) (m : Message Content)
  | acked (m : Message Content)
  deriving DecidableEq

/-- A body that is published by a server, under a routing key. -/
structure Publication where
  routingKey : String
  body : Body
  deriving DecidableEq

/-- The broker and the consumer. -/
structure State where
  queues : Queue → List (Message Content)
  hand : BindingKey → Option (Message Content × Stage)
  seen : List String
  published : List Publication
  trace : List Event

/-- Nothing has been published. -/
def init : State := ⟨fun _ => [], fun _ => none, [], [], []⟩

/-- What happens next: a publication, the expiry or the delivery of the message at a place of a
    queue, or the next step of a task. -/
inductive Op where
  | publish (p : Publication)
  | expire (k : BindingKey) (i : ℕ)
  | deliver (k : BindingKey) (i : ℕ)
  | proceed (k : BindingKey)

variable (maxRetries : ℕ)

/-- What follows after the id of a message was new. -/
def stageOf (m : Message Content) : Stage :=
  if Parses serde m.content.body then .acking
  else if maxRetries ≤ attempts m + 1 then .publishing .dlx
  else .publishing .main

/-- The next step of a task: marking the id, publishing a copy, acknowledging. -/
def proceed (s : State) (k : BindingKey) : State :=
  match s.hand k with
  | none => s
  | some (m, .received) =>
    let id := payloadId serde m.content.body
    if id ∈ s.seen then
      { s with
        hand := Function.update s.hand k (some (m, .acking))
        trace := s.trace ++ [.skipped m] }
    else
      { s with
        hand := Function.update s.hand k (some (m, stageOf serde maxRetries m))
        seen := id :: s.seen
        trace := s.trace ++ [.marked m] }
  | some (m, .publishing e) =>
    { s with
      queues := Broker.publish topology e (retried m) s.queues
      hand := Function.update s.hand k (some (m, .acking))
      trace := s.trace ++ [.republished e (retried m)] }
  | some (m, .acking) =>
    { s with
      hand := Function.update s.hand k none
      trace := s.trace ++ [.acked m] }

/-- A message is delivered to a task that has none. -/
def deliver (s : State) (k : BindingKey) (i : ℕ) : State :=
  match s.hand k, (s.queues (.main k))[i]? with
  | none, some m =>
    { s with
      queues := take (.main k) i s.queues
      hand := Function.update s.hand k (some (m, .received))
      trace := s.trace ++ [.delivered m] }
  | _, _ => s

/-- A step. -/
def step (s : State) : Op → State
  | .publish p =>
    let m : Message Content := ⟨p.routingKey, ⟨none, p.body, s.published.length⟩⟩
    { s with
      queues := Broker.publish topology .main m s.queues
      published := s.published ++ [p] }
  | .expire k i => { s with queues := expire topology (.retry k) i s.queues }
  | .deliver k i => deliver s k i
  | .proceed k => proceed serde maxRetries s k

/-! ## What the steps can do -/

section

variable {serde maxRetries}

theorem mem_bindings {b : Exchange × String × Queue} :
    b ∈ topology.bindings ↔ ∃ k : BindingKey,
      b = (.main, k.key, .main k) ∨ b = (.main, k.key, .retry k) ∨ b = (.dlx, "#", .dlq k) := by
  simp [topology, List.mem_flatMap, mem_keys]

theorem bound_main {e : Exchange} {key : String} {k : BindingKey} :
    topology.Bound e key (.main k) ↔ e = .main ∧ Matches k.key key := by
  constructor
  · rintro ⟨b, hb, rfl, hq, hmatches⟩
    obtain ⟨k', rfl | rfl | rfl⟩ := mem_bindings.1 hb <;> cases hq
    exact ⟨rfl, hmatches⟩
  · rintro ⟨rfl, hmatches⟩
    exact ⟨_, mem_bindings.2 ⟨k, .inl rfl⟩, rfl, rfl, hmatches⟩

theorem bound_retry {e : Exchange} {key : String} {k : BindingKey} :
    topology.Bound e key (.retry k) ↔ e = .main ∧ Matches k.key key := by
  constructor
  · rintro ⟨b, hb, rfl, hq, hmatches⟩
    obtain ⟨k', rfl | rfl | rfl⟩ := mem_bindings.1 hb <;> cases hq
    exact ⟨rfl, hmatches⟩
  · rintro ⟨rfl, hmatches⟩
    exact ⟨_, mem_bindings.2 ⟨k, .inr (.inl rfl)⟩, rfl, rfl, hmatches⟩

/-- Every key matches the pattern of the dead letters. -/
theorem matches_hash (key : String) : Matches "#" key := by
  have hpattern : "#".toList.splitOn '.' = [['#']] := by decide +kernel
  rw [Matches, hpattern, matchWords.eq_def]
  simp only [if_true]
  exact List.any_eq_true.2 ⟨[], (List.mem_tails _ _).2 List.nil_suffix, rfl⟩

theorem bound_dlq {e : Exchange} {key : String} {k : BindingKey} :
    topology.Bound e key (.dlq k) ↔ e = .dlx := by
  constructor
  · rintro ⟨b, hb, rfl, hq, -⟩
    obtain ⟨k', rfl | rfl | rfl⟩ := mem_bindings.1 hb <;> cases hq
    rfl
  · rintro rfl
    exact ⟨_, mem_bindings.2 ⟨k, .inr (.inr rfl)⟩, rfl, rfl, matches_hash key⟩

theorem deliver_cases (s : State) (k : BindingKey) (i : ℕ) :
    deliver s k i = s ∨ ∃ m, s.hand k = none ∧ m ∈ s.queues (.main k) ∧
      deliver s k i = { s with
        queues := take (.main k) i s.queues
        hand := Function.update s.hand k (some (m, .received))
        trace := s.trace ++ [.delivered m] } := by
  rw [deliver]
  split
  next m hhand hm => exact .inr ⟨m, hhand, List.mem_of_getElem? hm, rfl⟩
  next => exact .inl rfl

/-- The next step of a task is to skip a message, to mark it, to publish a copy or to
    acknowledge it. -/
theorem proceed_cases (serde : Serde) (maxRetries : ℕ) (s : State) (k : BindingKey) :
    proceed serde maxRetries s k = s ∨
      (∃ m, s.hand k = some (m, .received) ∧ payloadId serde m.content.body ∈ s.seen ∧
        proceed serde maxRetries s k = { s with
          hand := Function.update s.hand k (some (m, .acking))
          trace := s.trace ++ [.skipped m] }) ∨
      (∃ m, s.hand k = some (m, .received) ∧ payloadId serde m.content.body ∉ s.seen ∧
        proceed serde maxRetries s k = { s with
          hand := Function.update s.hand k (some (m, stageOf serde maxRetries m))
          seen := payloadId serde m.content.body :: s.seen
          trace := s.trace ++ [.marked m] }) ∨
      (∃ m e, s.hand k = some (m, .publishing e) ∧ proceed serde maxRetries s k = { s with
          queues := Broker.publish topology e (retried m) s.queues
          hand := Function.update s.hand k (some (m, .acking))
          trace := s.trace ++ [.republished e (retried m)] }) ∨
      ∃ m, s.hand k = some (m, .acking) ∧ proceed serde maxRetries s k = { s with
          hand := Function.update s.hand k none
          trace := s.trace ++ [.acked m] } := by
  rw [proceed]
  split
  next => exact .inl rfl
  next m hhand =>
    dsimp only
    split
    next hseen => exact .inr (.inl ⟨m, hhand, hseen, rfl⟩)
    next hseen => exact .inr (.inr (.inl ⟨m, hhand, hseen, rfl⟩))
  next m e hhand => exact .inr (.inr (.inr (.inl ⟨m, e, hhand, rfl⟩)))
  next m hhand => exact .inr (.inr (.inr (.inr ⟨m, hhand, rfl⟩)))

end

end Consumer

end CosmicSync
