import CosmicSync.Bin.RabbitConsumer

/-!
# Messages that do not parse

The consumer publishes a message again when its body does not parse, and sends it to the
dead letters after `maxRetries` deliveries. But a message is known by its `payloadId`, and
the copy that was published again has the id of the first, as has every other body of its
length without an id: these are skipped as duplicates.

No message is lost, for another reason: the queue for retries is bound to the exchange to
which its expired messages return, and so keeps a copy of everything
(`Tracked.looping`).
-/

namespace CosmicSync

namespace Consumer

open Broker Run

/-- The message of an event. -/
def Event.message : Event → Message Content
  | delivered m => m
  | marked m => m
  | skipped m => m
  | republished _ m => m
  | acked m => m

/-- The message is a copy of the publication with its number. -/
def State.Copy (s : State) (m : Message Content) : Prop :=
  s.published[m.content.publication]? = some ⟨m.routingKey, m.content.body⟩

/-- Messages with the key come to the consumer. -/
def Routed (routingKey : String) : Prop := ∃ k ∈ keys, Matches k.key routingKey

instance (routingKey : String) : Decidable (Routed routingKey) :=
  inferInstanceAs (Decidable (∃ k ∈ keys, _))

/-- The copy of a publication that the exchange distributes. -/
def original (n : ℕ) (p : Publication) : Message Content := ⟨p.routingKey, ⟨none, p.body, n⟩⟩

/-- Every message comes from a publication, and is where its key takes it; and the queue for
    retries has a copy of every publication. -/
structure Tracked (s : State) : Prop where
  queued : ∀ q, ∀ m ∈ s.queues q, s.Copy m ∧ Routed m.routingKey
  inHand : ∀ k m st, s.hand k = some (m, st) → s.Copy m ∧ Matches k.key m.routingKey
  logged : ∀ ev ∈ s.trace, s.Copy ev.message ∧ Routed ev.message.routingKey
  main : ∀ k, ∀ m ∈ s.queues (.main k), Matches k.key m.routingKey
  looping : ∀ (n : ℕ) (p : Publication), s.published[n]? = some p →
    ∀ k : BindingKey, Matches k.key p.routingKey → original n p ∈ s.queues (.retry k)

section

variable {serde : Serde} {maxRetries : ℕ} {s : State}

theorem routed_of_bound {key : String} {q : Queue} (h : topology.Bound .main key q) :
    Routed key := by
  rcases q with k | k | k
  · exact ⟨k, mem_keys k, (bound_main.1 h).2⟩
  · exact ⟨k, mem_keys k, (bound_retry.1 h).2⟩
  · cases bound_dlq.1 h

/-- What holds of every message in hand, and of what a task takes or does next. -/
theorem forall_update_hand {hand : BindingKey → Option (Message Content × Stage)}
    {P : BindingKey → Message Content → Stage → Prop}
    (h : ∀ k m st, hand k = some (m, st) → P k m st)
    {k : BindingKey} {v : Option (Message Content × Stage)}
    (hv : ∀ m st, v = some (m, st) → P k m st) :
    ∀ k' m st, Function.update hand k v k' = some (m, st) → P k' m st := by
  intro k' m st hk'
  by_cases hk : k' = k
  · subst hk
    rw [Function.update_self] at hk'
    exact hv m st hk'
  · rw [Function.update_of_ne hk] at hk'
    exact h k' m st hk'

theorem update_hand_cases {hand : BindingKey → Option (Message Content × Stage)} {k k' : BindingKey}
    {v : Option (Message Content × Stage)} {x : Message Content × Stage}
    (h : Function.update hand k v k' = some x) : hand k' = some x ∨ v = some x := by
  by_cases hk : k' = k
  · subst hk
    rw [Function.update_self] at h
    exact .inr h
  · rw [Function.update_of_ne hk] at h
    exact .inl h

/-- What a task has in hand stays there when another one takes a step. -/
theorem update_hand_of_ne {hand : BindingKey → Option (Message Content × Stage)} {k k' : BindingKey}
    {v x y : Option (Message Content × Stage)} (hk : hand k = x) (hk' : hand k' = y) (hne : y ≠ x) :
    Function.update hand k v k' = y := by
  have hkk : k' ≠ k := by
    rintro rfl
    exact hne (hk'.symm.trans hk)
  rw [Function.update_of_ne hkk, hk']

theorem forall_append_trace {P : Event → Prop} {trace : List Event} {ev : Event}
    (h : ∀ ev ∈ trace, P ev) (hev : P ev) : ∀ ev' ∈ trace ++ [ev], P ev' := by
  intro ev' hev'
  rcases List.mem_append.1 hev' with hev' | hev'
  · exact h ev' hev'
  · rwa [List.mem_singleton.1 hev']

theorem Copy.append {m : Message Content} (h : s.Copy m) (p : Publication) :
    (s.published ++ [p])[m.content.publication]? = some ⟨m.routingKey, m.content.body⟩ := by
  obtain ⟨hlt, -⟩ := List.getElem?_eq_some_iff.1 h
  rw [List.getElem?_append_left hlt]
  exact h

theorem getElem?_concat_cases {α : Type*} {l : List α} {a b : α} {n : ℕ}
    (h : (l ++ [a])[n]? = some b) :
    l[n]? = some b ∨ (n = l.length ∧ b = a) := by
  rcases lt_or_ge n l.length with hlt | hge
  · exact .inl (by rwa [List.getElem?_append_left hlt] at h)
  · rw [List.getElem?_append_right hge, List.getElem?_singleton] at h
    split at h
    next hzero => exact .inr ⟨by omega, (Option.some_inj.1 h).symm⟩
    next => cases h

namespace Tracked

theorem init : Tracked init where
  queued _ _ hm := absurd hm List.not_mem_nil
  inHand _ _ _ hk := absurd hk (Option.some_ne_none _).symm
  logged _ hev := absurd hev List.not_mem_nil
  main _ _ hm := absurd hm List.not_mem_nil
  looping _ _ hp := absurd hp (Option.some_ne_none _).symm

theorem routed (h : Tracked s) {k : BindingKey} {m : Message Content} {st : Stage}
    (hm : s.hand k = some (m, st)) : s.Copy m ∧ Routed m.routingKey :=
  ⟨(h.inHand k m st hm).1, k, mem_keys k, (h.inHand k m st hm).2⟩

/-- A task that goes on with its message still has it in hand. -/
theorem inHand_update (h : Tracked s) {k : BindingKey} {m : Message Content} {st : Stage}
    (hm : s.hand k = some (m, st)) (st' : Stage) : ∀ k' m' st₁,
      Function.update s.hand k (some (m, st')) k' = some (m', st₁) →
        s.Copy m' ∧ Matches k'.key m'.routingKey :=
  forall_update_hand h.inHand fun m' st₁ hv => by
    cases hv
    exact h.inHand k m st hm

theorem publish (h : Tracked s) (p : Publication) :
    Tracked (step serde maxRetries s (.publish p)) where
  queued q m hm := by
    rcases mem_publish.1 hm with hm | ⟨hbound, rfl⟩
    · exact ⟨Copy.append (h.queued q m hm).1 p, (h.queued q m hm).2⟩
    · exact ⟨List.getElem?_concat_length, routed_of_bound hbound⟩
  inHand k m st hk := ⟨Copy.append (h.inHand k m st hk).1 p, (h.inHand k m st hk).2⟩
  logged ev hev := ⟨Copy.append (h.logged ev hev).1 p, (h.logged ev hev).2⟩
  main k m hm := by
    rcases mem_publish.1 hm with hm | ⟨hbound, rfl⟩
    · exact h.main k m hm
    · exact (bound_main.1 hbound).2
  looping n p' hp' k hmatches := by
    refine mem_publish.2 ?_
    rcases getElem?_concat_cases hp' with hp' | ⟨rfl, rfl⟩
    · exact .inl (h.looping n p' hp' k hmatches)
    · exact .inr ⟨bound_retry.2 ⟨rfl, hmatches⟩, rfl⟩

theorem expire (h : Tracked s) (k : BindingKey) (i : ℕ) :
    Tracked (step serde maxRetries s (.expire k i)) where
  queued q m hm := by
    rcases mem_expire_cases hm with hm | ⟨hm, -⟩
    · exact h.queued q m hm
    · exact h.queued _ m hm
  inHand := h.inHand
  logged := h.logged
  main k' m hm := by
    rcases mem_expire_cases hm with hm | ⟨-, e, -, hbound⟩
    · exact h.main k' m hm
    · exact (bound_main.1 hbound).2
  looping n p hp k' hmatches := by
    have hmem := h.looping n p hp k' hmatches
    by_cases hk : k' = k
    · -- What expires here goes to the exchange, which copies it to this queue again.
      subst hk
      exact mem_expire_of_bound rfl (bound_retry.2 ⟨rfl, hmatches⟩) hmem
    · exact mem_expire_of_ne (fun heq => hk (Queue.retry.inj heq)) hmem

theorem deliver (h : Tracked s) (k : BindingKey) (i : ℕ) :
    Tracked (step serde maxRetries s (.deliver k i)) := by
  rw [step]
  rcases deliver_cases s k i with heq | ⟨m, -, hm, heq⟩ <;> rw [heq]
  · exact h
  · exact {
      queued := fun q m' hm' => h.queued q m' (mem_of_mem_take hm')
      inHand := forall_update_hand h.inHand fun m' st hv => by
        cases hv
        exact ⟨(h.queued _ m hm).1, h.main k m hm⟩
      logged := forall_append_trace h.logged (h.queued _ m hm)
      main := fun k' m' hm' => h.main k' m' (mem_of_mem_take hm')
      looping := fun n p hp k' hmatches =>
        (mem_take_of_ne (i := i) (s := s.queues) (nofun : Queue.retry k' ≠ .main k)).2
          (h.looping n p hp k' hmatches) }

theorem proceed (h : Tracked s) (k : BindingKey) :
    Tracked (step serde maxRetries s (.proceed k)) := by
  rw [step]
  rcases proceed_cases serde maxRetries s k with
    heq | ⟨m, hm, -, heq⟩ | ⟨m, hm, -, heq⟩ | ⟨m, e, hm, heq⟩ | ⟨m, hm, heq⟩ <;> rw [heq]
  · exact h
  · exact { h with
      inHand := h.inHand_update hm _
      logged := forall_append_trace h.logged (h.routed hm) }
  · exact { h with
      inHand := h.inHand_update hm _
      logged := forall_append_trace h.logged (h.routed hm) }
  · -- A message that is published again is a copy of the same publication: only the count
    -- of its attempts has changed.
    have hrouted := h.routed hm
    have hcopy : s.Copy (retried m) ∧ Routed (retried m).routingKey := hrouted
    exact {
      queued := fun q m' hm' => by
        rcases mem_publish.1 hm' with hm' | ⟨-, rfl⟩
        · exact h.queued q m' hm'
        · exact hcopy
      inHand := h.inHand_update hm _
      logged := forall_append_trace h.logged hcopy
      main := fun k' m' hm' => by
        rcases mem_publish.1 hm' with hm' | ⟨hbound, rfl⟩
        · exact h.main k' m' hm'
        · exact (bound_main.1 hbound).2
      looping := fun n p hp k' hmatches => mem_publish.2 (.inl (h.looping n p hp k' hmatches)) }
  · exact { h with
      inHand := forall_update_hand h.inHand fun _ _ hv => nomatch hv
      logged := forall_append_trace h.logged (h.routed hm) }

theorem step (h : Tracked s) (op : Op) : Tracked (step serde maxRetries s op) := by
  rcases op with p | ⟨k, i⟩ | ⟨k, i⟩ | k
  · exact h.publish p
  · exact h.expire k i
  · exact h.deliver k i
  · exact h.proceed k

end Tracked

end

/-! ## What is asked of the consumer -/

/-- The event is the acknowledgement of a copy of the publication. -/
def Event.isAckOf (n : ℕ) : Event → Bool
  | acked m => m.content.publication = n
  | _ => false

/-- The deliveries of copies of a publication that have been acknowledged. -/
def acks (s : State) (n : ℕ) : ℕ := s.trace.countP (Event.isAckOf n)

/-- A copy of the publication is a dead letter. -/
def InDlq (s : State) (n : ℕ) : Prop := ∃ k, ∃ m ∈ s.queues (.dlq k), m.content.publication = n

/-- A message that does not parse is in a queue at all times, and among the dead letters once it
    has been delivered `maxRetries` times; and a message is not skipped as a duplicate of
    another publication that does not carry the same id. -/
structure NeverDrops (serde : Serde) (maxRetries : ℕ) (s : State) : Prop where
  kept : ∀ (n : ℕ) (p : Publication), s.published[n]? = some p → Routed p.routingKey →
    ¬Parses serde p.body →
    ∃ q, ∃ m ∈ s.queues q, m.content.publication = n
  deadLettered : ∀ (n : ℕ) (p : Publication), s.published[n]? = some p → ¬Parses serde p.body →
    0 < acks s n →
    maxRetries ≤ acks s n → InDlq s n
  duplicates : ∀ m m', .skipped m ∈ s.trace → .marked m' ∈ s.trace →
    payloadId serde m.content.body = payloadId serde m'.content.body →
    m.content.publication ≠ m'.content.publication →
    ∃ id, carriedId serde m.content.body = some id ∧ carriedId serde m'.content.body = some id

/-- Two bodies are confused: their ids are equal, and one is made from its length. -/
def Confused (serde : Serde) (body body' : Body) : Prop :=
  payloadId serde body = payloadId serde body' ∧
    ¬((carriedId serde body).isSome ∧ (carriedId serde body').isSome)

instance (serde : Serde) (body body' : Body) : Decidable (Confused serde body body') :=
  inferInstanceAs (Decidable (_ ∧ ¬(_ ∧ _)))

/-- The steps that keep clear of the two slips: what is published is not confused with an
    earlier publication, and a message that does not parse is skipped only where the first
    delivery has made it a dead letter. -/
def Admissible (serde : Serde) (maxRetries : ℕ) (s : State) : Op → Prop
  | .publish p => Routed p.routingKey →
    ∀ p' ∈ s.published, Routed p'.routingKey → ¬Confused serde p'.body p.body
  | .proceed k => ∀ x ∈ s.hand k, x.2 = .received → ¬Parses serde x.1.content.body →
    payloadId serde x.1.content.body ∈ s.seen → maxRetries ≤ 1
  | .expire _ _ => True
  | .deliver _ _ => True

instance (serde : Serde) (maxRetries : ℕ) (s : State) : (op : Op) →
    Decidable (Admissible serde maxRetries s op)
  | .publish _ => inferInstanceAs (Decidable (_ → ∀ p' ∈ s.published, _))
  | .proceed k => inferInstanceAs (Decidable (∀ x ∈ s.hand k, _))
  | .expire _ _ => inferInstanceAs (Decidable True)
  | .deliver _ _ => inferInstanceAs (Decidable True)

section

variable {serde : Serde} {maxRetries : ℕ} {s : State}

/-- No two publications are confused, and the ids seen are those of the messages marked. -/
structure Told (serde : Serde) (s : State) : Prop extends Tracked s where
  apart : ∀ (n n' : ℕ) (p p' : Publication), s.published[n]? = some p →
    s.published[n']? = some p' → n ≠ n' →
    Routed p.routingKey → Routed p'.routingKey → ¬Confused serde p.body p'.body
  seen_iff : ∀ id, id ∈ s.seen ↔ ∃ m, .marked m ∈ s.trace ∧ payloadId serde m.content.body = id

theorem Confused.symm {body body' : Body} (h : Confused serde body body') :
    Confused serde body' body :=
  ⟨h.1.symm, fun h' => h.2 ⟨h'.2, h'.1⟩⟩

namespace Told

theorem init : Told serde init where
  toTracked := .init
  apart _ _ _ _ hp := absurd hp (Option.some_ne_none _).symm
  seen_iff _ := iff_of_false List.not_mem_nil fun ⟨_, hm, _⟩ => List.not_mem_nil hm

/-- A step after which the same ids are seen, and no message has been marked. -/
theorem of_trace {s' : State} (h : Told serde s) (htracked : Tracked s')
    (hpublished : s'.published = s.published) (hseen : s'.seen = s.seen)
    (htrace : ∀ m, .marked m ∈ s'.trace ↔ .marked m ∈ s.trace) : Told serde s' where
  toTracked := htracked
  apart := hpublished ▸ h.apart
  seen_iff id := by
    rw [hseen, h.seen_iff id]
    simp only [htrace]

theorem step {op : Op} (h : Told serde s) (hop : Admissible serde maxRetries s op) :
    Told serde (step serde maxRetries s op) := by
  have htracked : Tracked (Consumer.step serde maxRetries s op) := h.toTracked.step op
  rcases op with p | ⟨k, i⟩ | ⟨k, i⟩ | k
  · -- Of two publications at most one is new, and that one is not confused with the others.
    refine { htracked with apart := ?_, seen_iff := h.seen_iff }
    intro n n' q q' hq hq' hne hrouted hrouted'
    rcases getElem?_concat_cases hq with hold | ⟨rfl, rfl⟩ <;>
      rcases getElem?_concat_cases hq' with hold' | ⟨rfl, rfl⟩
    · exact h.apart n n' q q' hold hold' hne hrouted hrouted'
    · exact hop hrouted' q (List.mem_of_getElem? hold) hrouted
    · exact fun hc => hop hrouted q' (List.mem_of_getElem? hold') hrouted' hc.symm
    · exact absurd rfl hne
  · exact h.of_trace htracked rfl rfl fun _ => Iff.rfl
  · rw [Consumer.step] at htracked ⊢
    rcases deliver_cases s k i with heq | ⟨m, -, -, heq⟩ <;> rw [heq] at htracked ⊢
    · exact h
    · exact h.of_trace htracked rfl rfl fun _ => by simp
  · rw [Consumer.step] at htracked ⊢
    rcases proceed_cases serde maxRetries s k with
      heq | ⟨m, -, -, heq⟩ | ⟨m, -, -, heq⟩ | ⟨m, e, -, heq⟩ | ⟨m, -, heq⟩ <;>
        rw [heq] at htracked ⊢
    · exact h
    · exact h.of_trace htracked rfl rfl fun _ => by simp
    · -- Only here is an id seen, and the message marked, together.
      refine { htracked with apart := h.apart, seen_iff := fun id => ?_ }
      simp only [List.mem_cons, List.mem_append, List.not_mem_nil, or_false, h.seen_iff id,
        Event.marked.injEq]
      constructor
      · rintro (rfl | ⟨m', hm', hid⟩)
        · exact ⟨m, .inr rfl, rfl⟩
        · exact ⟨m', .inl hm', hid⟩
      · rintro ⟨m', hm' | rfl, hid⟩
        · exact .inr ⟨m', hm', hid⟩
        · exact .inl hid.symm
    · exact h.of_trace htracked rfl rfl fun _ => by simp
    · exact h.of_trace htracked rfl rfl fun _ => by simp

/-- Messages of different publications with equal ids carry them. -/
theorem carriedId_eq (h : Told serde s) {m m' : Message Content} (hm : s.Copy m) (hm' : s.Copy m')
    (hrouted : Routed m.routingKey) (hrouted' : Routed m'.routingKey)
    (hid : payloadId serde m.content.body = payloadId serde m'.content.body)
    (hne : m.content.publication ≠ m'.content.publication) :
    ∃ id, carriedId serde m.content.body = some id ∧ carriedId serde m'.content.body = some id := by
  have hclear : ¬Confused serde m.content.body m'.content.body :=
    h.apart _ _ _ _ hm hm' hne hrouted hrouted'
  obtain ⟨hsome, hsome'⟩ := not_not.1 fun hnot => hclear ⟨hid, hnot⟩
  obtain ⟨id, hcarried⟩ := Option.isSome_iff_exists.1 hsome
  obtain ⟨id', hcarried'⟩ := Option.isSome_iff_exists.1 hsome'
  rw [payloadId, payloadId, hcarried, hcarried', Option.getD_some, Option.getD_some] at hid
  exact ⟨id, hcarried, hid ▸ hcarried'⟩

end Told

/-! ## One delivery is enough -/

/-- Dead letters stay where they are. -/
theorem mem_dlq_step {op : Op} {k : BindingKey} {m : Message Content} (h : m ∈ s.queues (.dlq k)) :
    m ∈ (step serde maxRetries s op).queues (.dlq k) := by
  rcases op with p | ⟨k', i⟩ | ⟨k', i⟩ | k'
  · change m ∈ publish topology .main (original s.published.length p) s.queues (.dlq k)
    exact mem_publish.2 (.inl h)
  · exact mem_expire_of_ne (nofun : Queue.dlq k ≠ .retry k') h
  · rw [step]
    rcases deliver_cases s k' i with heq | ⟨m', -, -, heq⟩ <;> rw [heq]
    · exact h
    · exact (mem_take_of_ne (i := i) (s := s.queues) (nofun : Queue.dlq k ≠ .main k')).2 h
  · rw [step]
    rcases proceed_cases serde maxRetries s k' with
      heq | ⟨m', -, -, heq⟩ | ⟨m', -, -, heq⟩ | ⟨m', e, -, heq⟩ | ⟨m', -, heq⟩ <;> rw [heq]
    · exact h
    · exact h
    · exact h
    · exact mem_publish.2 (.inl h)
    · exact h

theorem InDlq.step {op : Op} {n : ℕ} (h : InDlq s n) : InDlq (step serde maxRetries s op) n := by
  obtain ⟨k, m, hm, hn⟩ := h
  exact ⟨k, m, mem_dlq_step hm, hn⟩

/-- Copies of one publication say the same. -/
theorem Copy.ext {m m' : Message Content} (h : s.Copy m) (h' : s.Copy m')
    (heq : m.content.publication = m'.content.publication) :
    m.routingKey = m'.routingKey ∧ m.content.body = m'.content.body := by
  rw [State.Copy, heq, h'] at h
  exact ⟨(congrArg Publication.routingKey (Option.some_inj.1 h)).symm,
    (congrArg Publication.body (Option.some_inj.1 h)).symm⟩

/-- Two tasks have no copies of one publication. -/
theorem Tracked.task_unique (h : Tracked s) {k k' : BindingKey} {m m' : Message Content}
    {st st' : Stage} (hm : s.hand k = some (m, st)) (hm' : s.hand k' = some (m', st'))
    (heq : m.content.publication = m'.content.publication) : k = k' := by
  obtain ⟨hcopy, hmatches⟩ := h.inHand k m st hm
  obtain ⟨hcopy', hmatches'⟩ := h.inHand k' m' st' hm'
  exact key_unique hmatches ((Copy.ext hcopy hcopy' heq).1 ▸ hmatches')

/-- A message that does not parse is marked for copies of its publication only. -/
theorem Told.marked_of_seen (h : Told serde s) {m : Message Content} (hm : s.Copy m)
    (hrouted : Routed m.routingKey) (hnot : ¬Parses serde m.content.body)
    (hseen : payloadId serde m.content.body ∈ s.seen) :
    ∃ m', .marked m' ∈ s.trace ∧ m'.content.publication = m.content.publication ∧
      m'.content.body = m.content.body := by
  obtain ⟨m', hmarked, hid⟩ := (h.seen_iff _).1 hseen
  have hlogged := h.logged _ hmarked
  have hpublication : m'.content.publication = m.content.publication := by
    by_contra hne
    obtain ⟨id, -, hcarried⟩ := h.carriedId_eq hlogged.1 hm hlogged.2 hrouted hid hne
    rw [carriedId_of_not_parses hnot] at hcarried
    cases hcarried
  exact ⟨m', hmarked, hpublication, (Copy.ext hlogged.1 hm hpublication).2⟩

/-- What a task has in hand: a message that it publishes becomes a dead letter, and one that it is
    to acknowledge is one, unless it parses. -/
def Due (serde : Serde) (s : State) (m : Message Content) : Stage → Prop
  | .received => True
  | .publishing e => e = .dlx
  | .acking => ¬Parses serde m.content.body → InDlq s m.content.publication

/-- Where one delivery is enough, a message that does not parse is a dead letter as soon as it is
    to be acknowledged. -/
structure DeadLetters (serde : Serde) (s : State) : Prop where
  hands : ∀ k m st, s.hand k = some (m, st) → Due serde s m st
  marked : ∀ m, .marked m ∈ s.trace → ¬Parses serde m.content.body → InDlq s m.content.publication ∨
    ∃ k m', s.hand k = some (m', .publishing .dlx) ∧ m'.content.publication = m.content.publication
  acked : ∀ m, .acked m ∈ s.trace → ¬Parses serde m.content.body → InDlq s m.content.publication

theorem Due.of_dlq {s' : State} {m : Message Content} {st : Stage} (h : Due serde s m st)
    (hdlq : ∀ n, InDlq s n → InDlq s' n) : Due serde s' m st := by
  rcases st with _ | e | _
  · trivial
  · exact h
  · exact fun hnot => hdlq _ (h hnot)

theorem stageOf_of_not_parses {m : Message Content} (hmax : maxRetries ≤ 1)
    (hnot : ¬Parses serde m.content.body) : stageOf serde maxRetries m = .publishing .dlx := by
  rw [stageOf, if_neg hnot, if_pos (by omega)]

theorem stageOf_of_parses {m : Message Content} (hparses : Parses serde m.content.body) :
    stageOf serde maxRetries m = .acking := if_pos hparses

namespace DeadLetters

theorem init : DeadLetters serde init where
  hands _ _ _ hk := absurd hk (Option.some_ne_none _).symm
  marked _ hm := absurd hm List.not_mem_nil
  acked _ hm := absurd hm List.not_mem_nil

/-- A step of which the dead letters, the tasks and the marks are told. -/
theorem of_step {s' : State} (h : DeadLetters serde s) (hdlq : ∀ n, InDlq s n → InDlq s' n)
    (hhands : ∀ k m st, s'.hand k = some (m, st) → s.hand k = some (m, st) ∨ Due serde s' m st)
    (hpublishing : ∀ k m, s.hand k = some (m, .publishing .dlx) →
      InDlq s' m.content.publication ∨ s'.hand k = some (m, .publishing .dlx))
    (hmarked : ∀ m, .marked m ∈ s'.trace → .marked m ∈ s.trace)
    (hacked : ∀ m, .acked m ∈ s'.trace → ¬Parses serde m.content.body →
      .acked m ∈ s.trace ∨ InDlq s' m.content.publication) : DeadLetters serde s' where
  hands k m st hk := by
    rcases hhands k m st hk with hk | hdue
    · exact (h.hands k m st hk).of_dlq hdlq
    · exact hdue
  marked m hm hnot := by
    rcases h.marked m (hmarked m hm) hnot with hin | ⟨k, m', hk, heq⟩
    · exact .inl (hdlq _ hin)
    · rcases hpublishing k m' hk with hin | hk
      · exact .inl (heq ▸ hin)
      · exact .inr ⟨k, m', hk, heq⟩
  acked m hm hnot := by
    rcases hacked m hm hnot with hm | hin
    · exact hdlq _ (h.acked m hm hnot)
    · exact hin

theorem deliver (h : DeadLetters serde s) (k : BindingKey) (i : ℕ) :
    DeadLetters serde (step serde maxRetries s (.deliver k i)) := by
  have hdlq (n : ℕ) (hn : InDlq s n) : InDlq (step serde maxRetries s (.deliver k i)) n := hn.step
  rw [step] at hdlq ⊢
  rcases deliver_cases s k i with heq | ⟨m, hnone, -, heq⟩ <;> rw [heq] at hdlq ⊢
  · exact h
  · refine h.of_step hdlq ?_ ?_ (fun _ hm' => by simpa using hm') fun _ hm' _ =>
      .inl (by simpa using hm')
    · intro k' m' st hk'
      refine (update_hand_cases hk').imp_right fun hv => ?_
      cases hv
      trivial
    · exact fun k' m' hk' => .inr (update_hand_of_ne hnone hk' (Option.some_ne_none _))

/-- A message that is skipped has been made a dead letter by the first of its copies. -/
theorem skip (h : DeadLetters serde s) (htold : Told serde s) {k : BindingKey} {m : Message Content}
    (hm : s.hand k = some (m, .received)) (hseen : payloadId serde m.content.body ∈ s.seen) :
    DeadLetters serde { s with
      hand := Function.update s.hand k (some (m, .acking))
      trace := s.trace ++ [.skipped m] } := by
  refine h.of_step (fun _ => id) ?_ ?_ (fun _ hm' => by simpa using hm') fun _ hm' _ =>
    .inl (by simpa using hm')
  · intro k' m' st hk'
    refine (update_hand_cases hk').imp_right fun hv => ?_
    cases hv
    intro hnot
    obtain ⟨hcopy, hrouted⟩ := htold.routed hm
    obtain ⟨m₀, hmarked, heq, hbody⟩ := htold.marked_of_seen hcopy hrouted hnot hseen
    rcases h.marked m₀ hmarked (hbody ▸ hnot) with hin | ⟨k₀, m₁, hk₀, heq₀⟩
    · exact heq ▸ hin
    · -- The copy that is being published is in the hand of the same task.
      obtain rfl : k = k₀ := htold.task_unique hm hk₀ (heq₀.trans heq).symm
      rw [hm] at hk₀
      cases hk₀
  · exact fun k' m' hk' => .inr (update_hand_of_ne hm hk' nofun)

theorem mark (h : DeadLetters serde s) (hmax : maxRetries ≤ 1) {k : BindingKey}
    {m : Message Content} (hm : s.hand k = some (m, .received)) :
    DeadLetters serde { s with
      hand := Function.update s.hand k (some (m, stageOf serde maxRetries m))
      seen := payloadId serde m.content.body :: s.seen
      trace := s.trace ++ [.marked m] } where
  hands k' m' st hk' := by
    rcases update_hand_cases hk' with hk' | hv
    · exact (h.hands k' m' st hk').of_dlq fun _ => id
    · cases hv
      by_cases hparses : Parses serde m.content.body
      · rw [stageOf_of_parses hparses]
        exact fun hnot => absurd hparses hnot
      · rw [stageOf_of_not_parses hmax hparses]
        rfl
  marked m' hm' hnot := by
    rcases List.mem_append.1 hm' with hm' | hm'
    · refine (h.marked m' hm' hnot).imp_right ?_
      rintro ⟨k₀, m₀, hk₀, heq⟩
      exact ⟨k₀, m₀, update_hand_of_ne hm hk₀ nofun, heq⟩
    · cases List.mem_singleton.1 hm'
      refine .inr ⟨k, m, ?_, rfl⟩
      dsimp only
      rw [Function.update_self, stageOf_of_not_parses hmax hnot]
  acked m' hm' hnot := h.acked m' (by simpa using hm') hnot

theorem republish (h : DeadLetters serde s) {k : BindingKey} {m : Message Content} {e : Exchange}
    (hm : s.hand k = some (m, .publishing e)) :
    DeadLetters serde { s with
      queues := Broker.publish topology e (retried m) s.queues
      hand := Function.update s.hand k (some (m, .acking))
      trace := s.trace ++ [.republished e (retried m)] } := by
  -- What a task publishes goes to the exchange of the dead letters, and from there to the
  -- queues of all groups, whatever its key; so to that of the files.
  obtain rfl : e = .dlx := h.hands k m _ hm
  have hin : InDlq { s with
      queues := Broker.publish topology .dlx (retried m) s.queues
      hand := Function.update s.hand k (some (m, .acking))
      trace := s.trace ++ [.republished .dlx (retried m)] } m.content.publication :=
    ⟨.file, retried m, mem_publish.2 (.inr ⟨bound_dlq.2 rfl, rfl⟩), rfl⟩
  refine h.of_step ?_ ?_ ?_ (fun _ hm' => by simpa using hm') fun _ hm' _ =>
    .inl (by simpa using hm')
  · rintro n ⟨k₀, m₀, hm₀, hn⟩
    exact ⟨k₀, m₀, mem_publish.2 (.inl hm₀), hn⟩
  · intro k' m' st hk'
    refine (update_hand_cases hk').imp_right fun hv => ?_
    cases hv
    exact fun _ => hin
  · intro k' m' hk'
    by_cases hkk : k' = k
    · subst hkk
      rw [hm] at hk'
      cases hk'
      exact .inl hin
    · dsimp only
      rw [Function.update_of_ne hkk]
      exact .inr hk'

theorem ack (h : DeadLetters serde s) {k : BindingKey} {m : Message Content}
    (hm : s.hand k = some (m, .acking)) :
    DeadLetters serde { s with
      hand := Function.update s.hand k none
      trace := s.trace ++ [.acked m] } := by
  refine h.of_step (fun _ => id) ?_ ?_ (fun _ hm' => by simpa using hm') ?_
  · intro k' m' st hk'
    exact .inl ((update_hand_cases hk').resolve_right nofun)
  · exact fun k' m' hk' => .inr (update_hand_of_ne hm hk' nofun)
  · intro m' hm' hnot
    rcases List.mem_append.1 hm' with hm' | hm'
    · exact .inl hm'
    · cases List.mem_singleton.1 hm'
      exact .inr (h.hands k m _ hm hnot)

theorem step {op : Op} (h : DeadLetters serde s) (htold : Told serde s) (hmax : maxRetries ≤ 1) :
    DeadLetters serde (step serde maxRetries s op) := by
  rcases op with p | ⟨k, i⟩ | ⟨k, i⟩ | k
  · exact h.of_step (fun _ hn => hn.step) (fun _ _ _ => .inl) (fun _ _ => .inr) (fun _ => id)
      fun _ hm _ => .inl hm
  · exact h.of_step (fun _ hn => hn.step) (fun _ _ _ => .inl) (fun _ _ => .inr) (fun _ => id)
      fun _ hm _ => .inl hm
  · exact h.deliver k i
  · rw [Consumer.step]
    rcases proceed_cases serde maxRetries s k with
      heq | ⟨m, hm, hseen, heq⟩ | ⟨m, hm, -, heq⟩ | ⟨m, e, hm, heq⟩ | ⟨m, hm, heq⟩ <;> rw [heq]
    · exact h
    · exact h.skip htold hm hseen
    · exact h.mark hmax hm
    · exact h.republish hm
    · exact h.ack hm

end DeadLetters

/-! ## More deliveries are never reached -/

/-- A task has marked or skipped a copy of the publication, and not yet acknowledged it. -/
def Busy (s : State) (n : ℕ) : Prop :=
  ∃ k m st, s.hand k = some (m, st) ∧ st ≠ .received ∧ m.content.publication = n

/-- At most one delivery of the publication has been handled. -/
structure Once (serde : Serde) (s : State) (n : ℕ) (body : Body) : Prop where
  seen : Busy s n ∨ 0 < acks s n → payloadId serde body ∈ s.seen
  acks_le : acks s n ≤ 1
  idle : 0 < acks s n → ¬Busy s n

theorem acks_append {s' : State} {ev : Event} {n : ℕ} (htrace : s'.trace = s.trace ++ [ev])
    (hev : ev.isAckOf n = false) : acks s' n = acks s n := by
  rw [acks, htrace, List.countP_append, List.countP_singleton, hev]
  rfl

theorem Event.eq_acked_of_isAckOf {ev : Event} {n : ℕ} (h : ev.isAckOf n = true) :
    ∃ m, ev = .acked m ∧ m.content.publication = n := by
  rcases ev with m | m | m | ⟨e, m⟩ | m
  · cases h
  · cases h
  · cases h
  · cases h
  · exact ⟨m, rfl, of_decide_eq_true h⟩

theorem acks_append_ack {s' : State} {m : Message Content}
    (htrace : s'.trace = s.trace ++ [.acked m]) :
    acks s' m.content.publication = acks s m.content.publication + 1 := by
  have hev : (Event.acked m).isAckOf m.content.publication = true := decide_eq_true rfl
  rw [acks, htrace, List.countP_append, List.countP_singleton, hev]
  rfl

namespace Once

/-- A step that does nothing to the publication. -/
theorem of_step {s' : State} {n : ℕ} {body : Body} (h : Once serde s n body)
    (hbusy : Busy s' n → Busy s n)
    (hacks : acks s' n = acks s n) (hseen : ∀ id ∈ s.seen, id ∈ s'.seen) :
      Once serde s' n body where
  seen hn := hseen _ (h.seen (hn.imp hbusy (hacks ▸ ·)))
  acks_le := hacks ▸ h.acks_le
  idle hn hb := h.idle (hacks ▸ hn) (hbusy hb)

theorem of_lt (htracked : Tracked s) {n : ℕ} {body : Body} (hn : s.published.length ≤ n) :
    Once serde s n body := by
  have hcopy {m : Message Content} (hm : s.Copy m) : m.content.publication ≠ n := by
    obtain ⟨hlt, -⟩ := List.getElem?_eq_some_iff.1 hm
    omega
  have hbusy : ¬Busy s n := fun ⟨k, m, st, hm, _, hpub⟩ => hcopy (htracked.inHand k m st hm).1 hpub
  have hacks : acks s n = 0 := by
    refine List.countP_eq_zero.2 fun ev hev hack => ?_
    obtain ⟨m, rfl, hpub⟩ := Event.eq_acked_of_isAckOf hack
    exact hcopy (htracked.logged _ hev).1 hpub
  exact ⟨fun h => absurd h (by simp [hbusy, hacks]), by omega, by omega⟩

end Once

/-- Every publication that does not parse has been handled at most once. -/
def AtMostOnce (serde : Serde) (s : State) : Prop :=
  ∀ (n : ℕ) (p : Publication), s.published[n]? = some p → ¬Parses serde p.body →
    Once serde s n p.body

theorem busy_update (st : Stage) {s' : State} {k : BindingKey} {m : Message Content} {st' : Stage}
    {n : ℕ} (hhand : s'.hand = Function.update s.hand k (some (m, st')))
    (hm : m.content.publication = n → st' ≠ .received → s.hand k = some (m, st) ∧ st ≠ .received)
    (h : Busy s' n) : Busy s n := by
  obtain ⟨k₀, m₀, st₀, hk₀, hne, hpub⟩ := h
  rw [hhand] at hk₀
  rcases update_hand_cases hk₀ with hk₀ | hv
  · exact ⟨k₀, m₀, st₀, hk₀, hne, hpub⟩
  · cases hv
    obtain ⟨hk, hst⟩ := hm hpub hne
    exact ⟨k, m, st, hk, hst, hpub⟩

namespace AtMostOnce

theorem init : AtMostOnce serde init := fun _ _ hp => absurd hp (Option.some_ne_none _).symm

theorem publish (h : AtMostOnce serde s) (htracked : Tracked s) (p : Publication) :
    AtMostOnce serde (step serde maxRetries s (.publish p)) := by
  intro n p' hp' hnot
  rcases getElem?_concat_cases hp' with hold | ⟨hn, -⟩
  · exact (h n p' hold hnot).of_step id rfl fun _ => id
  · exact (Once.of_lt htracked hn.ge).of_step id rfl fun _ => id

theorem deliver (h : AtMostOnce serde s) (k : BindingKey) (i : ℕ) :
    AtMostOnce serde (step serde maxRetries s (.deliver k i)) := by
  rw [step]
  rcases deliver_cases s k i with heq | ⟨m, -, -, heq⟩ <;> rw [heq]
  · exact h
  · intro n p hp hnot
    exact (h n p hp hnot).of_step (busy_update .received rfl fun _ hne => absurd rfl hne)
      (acks_append rfl rfl) fun _ => id

/-- What is in hand of a publication has its body. -/
theorem body_eq (htracked : Tracked s) {k : BindingKey} {m : Message Content} {st : Stage}
    {p : Publication}
    (hm : s.hand k = some (m, st)) (hp : s.published[m.content.publication]? = some p) :
    m.content.body = p.body := by
  have hcopy : s.published[m.content.publication]? = some ⟨m.routingKey, m.content.body⟩ :=
    (htracked.inHand k m st hm).1
  exact congrArg Publication.body (Option.some_inj.1 (hcopy.symm.trans hp))

theorem skip (h : AtMostOnce serde s) (htracked : Tracked s) {k : BindingKey} {m : Message Content}
    (hm : s.hand k = some (m, .received)) (hparses : Parses serde m.content.body) :
    AtMostOnce serde { s with
      hand := Function.update s.hand k (some (m, .acking))
      trace := s.trace ++ [.skipped m] } := by
  intro n p hp hnot
  refine (h n p hp hnot).of_step (busy_update .received rfl ?_) (acks_append rfl rfl) fun _ => id
  rintro rfl
  exact absurd (body_eq htracked hm hp ▸ hparses) hnot

theorem mark (h : AtMostOnce serde s) (htracked : Tracked s) {k : BindingKey} {m : Message Content}
    {st : Stage} (hm : s.hand k = some (m, .received))
    (hseen : payloadId serde m.content.body ∉ s.seen) :
    AtMostOnce serde { s with
      hand := Function.update s.hand k (some (m, st))
      seen := payloadId serde m.content.body :: s.seen
      trace := s.trace ++ [.marked m] } := by
  intro n p hp hnot
  by_cases hn : m.content.publication = n
  · -- Nothing was done with its copies, since its id was not seen.
    subst hn
    have hbody := body_eq htracked hm hp
    have hold := h _ p hp hnot
    have hacks : acks s m.content.publication = 0 := by
      by_contra hne
      exact hseen (hbody ▸ hold.seen (.inr (Nat.pos_of_ne_zero hne)))
    have hacks' : acks { s with
        hand := Function.update s.hand k (some (m, st))
        seen := payloadId serde m.content.body :: s.seen
        trace := s.trace ++ [.marked m] } m.content.publication = 0 :=
      (acks_append rfl rfl).trans hacks
    exact ⟨fun _ => hbody ▸ List.mem_cons_self, by omega, by omega⟩
  · exact (h n p hp hnot).of_step (busy_update .received rfl fun heq => absurd heq hn)
      (acks_append rfl rfl) fun _ => List.mem_cons_of_mem _

theorem republish (h : AtMostOnce serde s) {k : BindingKey} {m : Message Content} {e : Exchange}
    (hm : s.hand k = some (m, .publishing e)) :
    AtMostOnce serde { s with
      queues := Broker.publish topology e (retried m) s.queues
      hand := Function.update s.hand k (some (m, .acking))
      trace := s.trace ++ [.republished e (retried m)] } := by
  intro n p hp hnot
  exact (h n p hp hnot).of_step (busy_update (.publishing e) rfl fun _ _ => ⟨hm, nofun⟩)
    (acks_append rfl rfl) fun _ => id

theorem ack (h : AtMostOnce serde s) (htracked : Tracked s) {k : BindingKey} {m : Message Content}
    (hm : s.hand k = some (m, .acking)) :
    AtMostOnce serde { s with
      hand := Function.update s.hand k none
      trace := s.trace ++ [.acked m] } := by
  intro n p hp hnot
  have hold := h n p hp hnot
  by_cases hn : m.content.publication = n
  · subst hn
    have hbusy : Busy s m.content.publication := ⟨k, m, .acking, hm, nofun, rfl⟩
    have hacks : acks s m.content.publication = 0 := by
      by_contra hne
      exact hold.idle (Nat.pos_of_ne_zero hne) hbusy
    have hacks' : acks { s with
        hand := Function.update s.hand k none
        trace := s.trace ++ [.acked m] } m.content.publication = 0 + 1 :=
      hacks ▸ acks_append_ack rfl
    refine ⟨fun _ => hold.seen (.inl hbusy), by omega, fun _ => ?_⟩
    -- The copy was in the hand of the only task that takes them.
    rintro ⟨k', m', st, hk', -, hpub⟩
    have hk := (update_hand_cases hk').resolve_right nofun
    obtain rfl : k' = k := htracked.task_unique hk hm hpub
    have hnone : none = some (m', st) := (Function.update_self k' none s.hand).symm.trans hk'
    cases hnone
  · refine hold.of_step ?_ (acks_append rfl (decide_eq_false hn)) fun _ => id
    rintro ⟨k', m', st, hk', hne, hpub⟩
    exact ⟨k', m', st, (update_hand_cases hk').resolve_right nofun, hne, hpub⟩

theorem step {op : Op} (h : AtMostOnce serde s) (htracked : Tracked s) (hmax : 1 < maxRetries)
    (hop : Admissible serde maxRetries s op) : AtMostOnce serde (step serde maxRetries s op) := by
  rcases op with p | ⟨k, i⟩ | ⟨k, i⟩ | k
  · exact h.publish htracked p
  · exact fun n p hp hnot => (h n p hp hnot).of_step id rfl fun _ => id
  · exact h.deliver k i
  · rw [Consumer.step]
    rcases proceed_cases serde maxRetries s k with
      heq | ⟨m, hm, hseen, heq⟩ | ⟨m, hm, hseen, heq⟩ | ⟨m, e, hm, heq⟩ | ⟨m, hm, heq⟩ <;> rw [heq]
    · exact h
    · -- With more than one delivery to make, only a message that parses may be skipped.
      refine h.skip htracked hm ?_
      by_contra hnot
      exact absurd (hop (m, .received) hm rfl hnot hseen) (not_le.2 hmax)
    · exact h.mark htracked hm hseen
    · exact h.republish hm
    · exact h.ack htracked hm

end AtMostOnce

/-- In every run that keeps clear of the two slips, nothing that cannot be processed is
    dropped. -/
theorem neverDrops_of_admissible {ops : List Op}
    (h : Guarded (step serde maxRetries) (Admissible serde maxRetries) init ops) :
    NeverDrops serde maxRetries (run (step serde maxRetries) init ops) := by
  obtain ⟨htold, hdead, honce⟩ : Told serde (run (step serde maxRetries) init ops) ∧
      (maxRetries ≤ 1 → DeadLetters serde (run (step serde maxRetries) init ops)) ∧
      (1 < maxRetries → AtMostOnce serde (run (step serde maxRetries) init ops)) := by
    refine h.invariant (I := fun s => Told serde s ∧ (maxRetries ≤ 1 → DeadLetters serde s) ∧
      (1 < maxRetries → AtMostOnce serde s)) ?_ ⟨.init, fun _ => .init, fun _ => .init⟩
    rintro s op hop ⟨htold, hdead, honce⟩
    exact ⟨htold.step hop, fun hmax => (hdead hmax).step htold hmax,
      fun hmax => (honce hmax).step htold.toTracked hmax hop⟩
  refine ⟨?_, ?_, ?_⟩
  · -- The copy in the queue for retries, which is there whether or not it has been handled.
    rintro n p hp ⟨k, -, hmatches⟩ -
    exact ⟨_, _, htold.looping n p hp k hmatches, rfl⟩
  · -- Either the deliveries cannot be as many as `maxRetries`, or one of them is enough.
    intro n p hp hnot hpos hle
    rcases Nat.lt_or_ge 1 maxRetries with hmax | hmax
    · have hacks := (honce hmax n p hp hnot).acks_le
      omega
    · obtain ⟨ev, hev, hack⟩ := List.countP_pos_iff.1 hpos
      obtain ⟨m, rfl, rfl⟩ := Event.eq_acked_of_isAckOf hack
      have hcopy : _ = some _ := (htold.logged _ hev).1
      obtain rfl : p = ⟨m.routingKey, m.content.body⟩ := Option.some_inj.1 (hp.symm.trans hcopy)
      exact (hdead hmax).acked m hev hnot
  · intro m m' hskipped hmarked hid hne
    have hlogged := htold.logged _ hskipped
    have hlogged' := htold.logged _ hmarked
    exact htold.carriedId_eq hlogged.1 hlogged'.1 hlogged.2 hlogged'.2 hid hne

end

/-! ## Runs -/

/-- A parser that knows two texts: an empty object, and one with an id. -/
def sampleSerde : Serde where
  fromStr s :=
    if s = "\x7b\x7d" then some (.object [])
    else if s = "\x7b\"id\":\"a1\"\x7d" then some (.object [("id", .string "a1")])
    else none
  fromSlice body := (fromUtf8 body).bind fun s =>
    if s = "\x7b\x7d" then some (.object [])
    else if s = "\x7b\"id\":\"a1\"\x7d" then some (.object [("id", .string "a1")])
    else none
  fromSlice_eq _ := rfl

/-- A body that does not parse. -/
def garbled : Publication := ⟨"file.uploaded.kim.1", "oops".toUTF8.toList⟩

/-- It is published and delivered three times. -/
def garbledRun : List Op :=
  [.publish garbled, .deliver .file 0, .proceed .file, .proceed .file, .proceed .file,
    .deliver .file 0, .proceed .file, .proceed .file,
    .expire .file 0, .deliver .file 0, .proceed .file, .proceed .file]

/-- Two deliveries are skipped as duplicates of the first, and the message is no dead letter
    after the third, which is the last by default. -/
theorem not_neverDrops_garbledRun :
    ¬NeverDrops sampleSerde 3 (run (step sampleSerde 3) init garbledRun) := by
  intro h
  have hpublished : (run (step sampleSerde 3) init garbledRun).published[0]? = some garbled := by
    decide +kernel
  have hnot : ¬Parses sampleSerde garbled.body := by decide +kernel
  have hacks : acks (run (step sampleSerde 3) init garbledRun) 0 = 3 := by decide +kernel
  obtain ⟨k, m, hm, -⟩ := h.deadLettered 0 garbled hpublished hnot (by omega) hacks.ge
  have hempty : ∀ k ∈ keys, (run (step sampleSerde 3) init garbledRun).queues (.dlq k) = [] := by
    decide +kernel
  rw [hempty k (mem_keys k)] at hm
  exact List.not_mem_nil hm

/-- The message with an id comes twice, and the other one once, with the default of three
    deliveries. -/
theorem neverDrops_once :
    let ops : List Op := [.publish ⟨"device.registered.kim", "\x7b\"id\":\"a1\"\x7d".toUTF8.toList⟩,
      .publish garbled, .deliver .device 0, .proceed .device, .deliver .file 0, .proceed .file,
      .proceed .device, .proceed .file, .proceed .file, .expire .device 0, .deliver .device 0,
      .proceed .device]
    Guarded (step sampleSerde 3) (Admissible sampleSerde 3) init ops ∧
      NeverDrops sampleSerde 3 (run (step sampleSerde 3) init ops) := by
  intro ops
  have hops : Guarded (step sampleSerde 3) (Admissible sampleSerde 3) init ops := by
    decide +kernel
  exact ⟨hops, neverDrops_of_admissible hops⟩

end Consumer

end CosmicSync
