import CosmicSync.Bin.Redelivery

/-!
# What the queue for retries holds

The queue for retries is bound to the exchange with the key of the main queue, so that
the exchange copies every publication to it, and not only what the consumer publishes
again. Each copy returns to the exchange when it expires, is copied to both queues, and so
never leaves: a message that was handled and acknowledged is delivered over and over.
-/

namespace CosmicSync

namespace Consumer

open Broker Run

/-- What is published in a run. -/
def publications (ops : List Op) : List Publication :=
  ops.filterMap fun
    | .publish p => some p
    | _ => none

/-- The deliveries of copies of a publication. -/
def deliveries (s : State) (n : ℕ) : ℕ :=
  s.trace.countP fun
    | .delivered m => m.content.publication = n
    | _ => false

/-- Every copy of the publication that came to a main queue has been acknowledged. -/
def Drained (s : State) (n : ℕ) : Prop :=
  ∀ k, (∀ m ∈ s.queues (.main k), m.content.publication ≠ n) ∧
    ∀ m st, s.hand k = some (m, st) → m.content.publication ≠ n

/-- The queues for retries hold what the consumer has published after it did not parse; and what
    parses is in no queue once the main queues are rid of it, and is not delivered again. -/
structure RetriesOnly (serde : Serde) (maxRetries : ℕ) (s : State) : Prop where
  rejected : ∀ k, ∀ m ∈ s.queues (.retry k),
    .republished .main m ∈ s.trace ∧ ¬Parses serde m.content.body
  gone : ∀ (n : ℕ) (p : Publication), s.published[n]? = some p → Parses serde p.body → Drained s n →
    (∀ q, ∀ m ∈ s.queues q, m.content.publication ≠ n) ∧
      ∀ ops, deliveries (run (step serde maxRetries) s ops) n = deliveries s n

section

variable {serde : Serde} {maxRetries : ℕ} {s : State} {ops : List Op}

theorem tracked_run : Tracked (run (step serde maxRetries) init ops) :=
  run_invariant (fun _ op h => h.step op) .init

theorem published_step (s : State) (op : Op) :
    (step serde maxRetries s op).published = s.published ++ publications [op] := by
  rcases op with p | ⟨k, i⟩ | ⟨k, i⟩ | k
  · rfl
  · exact (List.append_nil _).symm
  · rw [step]
    rcases deliver_cases s k i with heq | ⟨m, -, -, heq⟩ <;> rw [heq] <;>
      exact (List.append_nil _).symm
  · rw [step]
    rcases proceed_cases serde maxRetries s k with
      heq | ⟨m, -, -, heq⟩ | ⟨m, -, -, heq⟩ | ⟨m, e, -, heq⟩ | ⟨m, -, heq⟩ <;> rw [heq] <;>
      exact (List.append_nil _).symm

theorem published_run :
    (run (step serde maxRetries) s ops).published = s.published ++ publications ops := by
  induction ops generalizing s with
  | nil => exact (List.append_nil _).symm
  | cons op ops ih =>
    have hcons : publications (op :: ops) = publications [op] ++ publications ops :=
      List.filterMap_append (l := [op])
    rw [run_cons, ih, published_step, hcons, List.append_assoc]

/-- The copies that the consumer publishes count their retries. -/
def Counted (s : State) : Prop :=
  ∀ e m, .republished e m ∈ s.trace → m.content.retryCount ≠ none

theorem Counted.step (h : Counted s) (op : Op) : Counted (step serde maxRetries s op) := by
  rcases op with p | ⟨k, i⟩ | ⟨k, i⟩ | k
  · exact h
  · exact h
  · rw [Consumer.step]
    rcases deliver_cases s k i with heq | ⟨m, -, -, heq⟩ <;> rw [heq]
    · exact h
    · exact fun e m' hm' => h e m' (by simpa using hm')
  · rw [Consumer.step]
    rcases proceed_cases serde maxRetries s k with
      heq | ⟨m, -, -, heq⟩ | ⟨m, -, -, heq⟩ | ⟨m, e, -, heq⟩ | ⟨m, -, heq⟩ <;> rw [heq]
    · exact h
    · exact fun e m' hm' => h e m' (by simpa using hm')
    · exact fun e m' hm' => h e m' (by simpa using hm')
    · intro e' m' hm'
      rcases List.mem_append.1 hm' with hm' | hm'
      · exact h e' m' hm'
      · cases List.mem_singleton.1 hm'
        exact Option.some_ne_none _
    · exact fun e m' hm' => h e m' (by simpa using hm')

theorem counted_run : Counted (run (step serde maxRetries) init ops) :=
  run_invariant (fun _ op h => h.step op) fun _ _ hm => absurd hm List.not_mem_nil

/-- What no key brings to the consumer is never delivered. -/
theorem deliveries_eq_zero (h : Tracked s) {n : ℕ} {p : Publication} (hp : s.published[n]? = some p)
    (hnot : ¬Routed p.routingKey) : deliveries s n = 0 := by
  refine List.countP_eq_zero.2 fun ev hev hdelivered => ?_
  rcases ev with m | m | m | ⟨e, m⟩ | m
  · obtain rfl : m.content.publication = n := of_decide_eq_true hdelivered
    obtain ⟨hcopy, hrouted⟩ := h.logged _ hev
    have hm : s.published[m.content.publication]? = some ⟨m.routingKey, m.content.body⟩ := hcopy
    obtain rfl : p = ⟨m.routingKey, m.content.body⟩ := Option.some_inj.1 (hp.symm.trans hm)
    exact hnot hrouted
  · cases hdelivered
  · cases hdelivered
  · cases hdelivered
  · cases hdelivered

/-- The queues for retries hold rejected messages only, exactly as long as nothing has been
    published that comes to the consumer. -/
theorem retriesOnly_iff : RetriesOnly serde maxRetries (run (step serde maxRetries) init ops) ↔
    ∀ p ∈ publications ops, ¬Routed p.routingKey := by
  have htracked : Tracked (run (step serde maxRetries) init ops) := tracked_run
  have hpublished : (run (step serde maxRetries) init ops).published = publications ops := by
    rw [published_run]
    rfl
  constructor
  · -- The queue has a copy that the exchange made and no task has published: it has no count
    -- of attempts, and every message that was published again has one.
    rintro h p hp ⟨k, -, hmatches⟩
    obtain ⟨n, hn⟩ := List.getElem?_of_mem hp
    have hloop := htracked.looping n p (by rw [hpublished, hn]) k hmatches
    exact counted_run _ _ (h.rejected k _ hloop).1 rfl
  · -- All queues are empty, and stay so for what has been published.
    intro h
    have hempty (q : Queue) (m : Message Content) :
        m ∉ (run (step serde maxRetries) init ops).queues q := by
      intro hm
      obtain ⟨hcopy, hrouted⟩ := htracked.queued q m hm
      have hmem := List.mem_of_getElem? hcopy
      rw [hpublished] at hmem
      exact h _ hmem hrouted
    refine ⟨fun k m hm => absurd hm (hempty _ m), fun n p hp _ _ => ?_⟩
    have hnot : ¬Routed p.routingKey := h p (hpublished ▸ List.mem_of_getElem? hp)
    refine ⟨fun q m hm => absurd hm (hempty q m), fun ops' => ?_⟩
    have hlater : (run (step serde maxRetries) (run (step serde maxRetries) init ops)
      ops').published[n]? =
        some p := by
      rw [published_run, List.getElem?_append_left (List.getElem?_eq_some_iff.1 hp).1, hp]
    rw [deliveries_eq_zero htracked hp hnot]
    refine deliveries_eq_zero ?_ hlater hnot
    exact run_invariant (fun _ op h => h.step op) htracked

end

/-- A message that parses is handled and acknowledged; the queue for retries still has a copy
    of it, which the consumer never published. -/
theorem not_retriesOnly_registered :
    ¬RetriesOnly sampleSerde 3 (run (step sampleSerde 3) init
      [.publish ⟨"device.registered.kim", "\x7b\"id\":\"a1\"\x7d".toUTF8.toList⟩,
        .deliver .device 0,
        .proceed .device, .proceed .device]) := by
  intro h
  have hretry : (run (step sampleSerde 3) init
      [.publish ⟨"device.registered.kim", "\x7b\"id\":\"a1\"\x7d".toUTF8.toList⟩,
        .deliver .device 0,
        .proceed .device, .proceed .device]).queues (.retry .device) =
      [⟨"device.registered.kim", ⟨none, "\x7b\"id\":\"a1\"\x7d".toUTF8.toList, 0⟩⟩] := by
        decide +kernel
  have hparses : Parses sampleSerde "\x7b\"id\":\"a1\"\x7d".toUTF8.toList := by decide +kernel
  exact (h.rejected .device _ (hretry ▸ List.mem_cons_self)).2 hparses

end Consumer

end CosmicSync
