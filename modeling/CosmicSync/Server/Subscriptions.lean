import Mathlib.Data.List.Basic
import Mathlib.Logic.Function.Basic
import CosmicSync.Library.Run

/-!
# Subscriptions and their tasks

A client subscribes to the changes of files (`subscribe_to_file_updates` of
`server/service.rs`) and of watcher groups (`subscribe_to_watcher_group_updates`). Each
call registers a sender under the key `account:device`, in the notification manager;
the first also registers a connection, in the connection tracker. Each leaves a task
behind, which some day removes the sender again: the one for files after seven days,
the one for groups when it finds no sender, or when three pings in a row have failed.

The task knows the key only, not the sender it was started for. If the client has
subscribed again meanwhile, it is the new sender that is removed
(`renewed_sender_removed`), and the new connection that is marked as disconnected.

* `NotSuperseded`: the condition on a step that excludes this.
* `removals_run`: under it, in every interleaving, no task removes what belongs to a
  later subscription.
-/

namespace CosmicSync

namespace Subscriptions

open Run

/-! ## Calls and tasks -/

/-- What is kept under a key: the two senders and the connection. -/
inductive Resource where
  | fileSender
  | groupSender
  | connection
  deriving DecidableEq, Repr

/-- The next statement of a subscription: of its call, then of its task. -/
inductive Pc where
  /-- `register_connection`, then `register_file_update_subscriber_with_alias`; the alias is
      the account as the client has given it. -/
  | connect (aliasAccount : String)
  | registerFile (aliasAccount : String)
  /-- After the sleep of the task: `unregister_file_update_subscriber`, then
      `mark_disconnected`. -/
  | unregisterFile
  | disconnect
  | fileDone
  /-- `unregister_watcher_group_update_subscriber` for an older subscription, then
      `register_watcher_group_update_subscriber`. -/
  | unregisterOld
  | registerGroup
  /-- The loop of the task: `is_watcher_group_subscriber_active`, then
      `ping_watcher_group_subscriber`. -/
  | check (failures : ℕ)
  | ping (failures : ℕ)
  /-- After the loop: `unregister_watcher_group_update_subscriber`. -/
  | unregisterGroup
  | groupDone
  deriving DecidableEq, Repr

namespace Pc

/-- The subscription has registered its own. -/
def HasRegistered : Pc → Resource → Bool
  | registerFile _, .connection => true
  | unregisterFile, .connection | unregisterFile, .fileSender => true
  | disconnect, .connection | disconnect, .fileSender => true
  | fileDone, .connection | fileDone, .fileSender => true
  | check _, .groupSender | ping _, .groupSender => true
  | unregisterGroup, .groupSender | groupDone, .groupSender => true
  | _, _ => false

/-- What the statement of a task takes away. -/
def takesAway : Pc → Option Resource
  | unregisterFile => some .fileSender
  | disconnect => some .connection
  | unregisterGroup => some .groupSender
  | _ => none

end Pc

structure Subscription where
  key : String
  pc : Pc
  deriving DecidableEq, Repr

/-- A connection, with the subscription that has registered it last. -/
structure Connection where
  owner : ℕ
  connectionCount : ℕ
  isActive : Bool
  deriving DecidableEq, Repr

/-- That a task took something away, and whose it was. -/
structure Removal where
  resource : Resource
  task : ℕ
  owner : ℕ
  deriving DecidableEq, Repr

/-- The maps of the notification manager and of the connection tracker, where a sender
    is told by the number of its subscription, the subscriptions in the order in which
    they began, and what their tasks have taken away. -/
structure State where
  fileSenders : String → Option ℕ
  aliases : String → Option String
  groupSenders : String → Option ℕ
  connections : String → Option Connection
  subscriptions : List Subscription
  removals : List Removal

def State.init : State := ⟨fun _ => none, fun _ => none, fun _ => none, fun _ => none, [], []⟩

/-- The events of an interleaving: a client subscribes (its token and device are valid),
    or a subscription executes its next statement. A ping may fail. -/
inductive Op where
  | subscribeToFileUpdates (key aliasAccount : String)
  | subscribeToWatcherGroupUpdates (key : String)
  | next (i : ℕ) (pingFails : Bool)

namespace State

variable (s : State)

/-- Whose it is that is kept under a key. -/
def owner (key : String) : Resource → Option ℕ
  | .fileSender => s.fileSenders key
  | .groupSender => s.groupSenders key
  | .connection => (s.connections key).map Connection.owner

def goto (i : ℕ) (key : String) (pc : Pc) : State :=
  { s with subscriptions := s.subscriptions.set i ⟨key, pc⟩ }

/-- A task takes something away. -/
def recordRemoval (resource : Resource) (i : ℕ) (key : String) : State :=
  { s with removals := s.removals ++ ((s.owner key resource).map fun j => ⟨resource, i, j⟩).toList }

/-- `register_connection`: a known client has reconnected. -/
def registerConnection (i : ℕ) (key : String) : State :=
  let connection :=
    match s.connections key with
    | some c => ⟨i, c.connectionCount + 1, true⟩
    | none => ⟨i, 1, true⟩
  { s with connections := Function.update s.connections key (some connection) }

def markDisconnected (key : String) : State :=
  { s with
    connections := Function.update s.connections key
      ((s.connections key).map fun c => { c with isActive := false }) }

def registerFileUpdateSubscriberWithAlias (i : ℕ) (key aliasAccount : String) : State :=
  { s with
    fileSenders := Function.update s.fileSenders key (some i)
    aliases := Function.update s.aliases key (some aliasAccount) }

def unregisterFileUpdateSubscriber (key : String) : State :=
  { s with
    fileSenders := Function.update s.fileSenders key none
    aliases := Function.update s.aliases key none }

def registerWatcherGroupUpdateSubscriber (i : ℕ) (key : String) : State :=
  { s with groupSenders := Function.update s.groupSenders key (some i) }

def unregisterWatcherGroupUpdateSubscriber (key : String) : State :=
  { s with groupSenders := Function.update s.groupSenders key none }

/-- The next statement of the subscription `i`. -/
def next (i : ℕ) (key : String) (pingFails : Bool) : Pc → State
  | .connect aliasAccount => (s.registerConnection i key).goto i key (.registerFile aliasAccount)
  | .registerFile aliasAccount =>
    (s.registerFileUpdateSubscriberWithAlias i key aliasAccount).goto i key .unregisterFile
  | .unregisterFile =>
    ((s.recordRemoval .fileSender i key).unregisterFileUpdateSubscriber key).goto i key .disconnect
  | .disconnect => ((s.recordRemoval .connection i key).markDisconnected key).goto i key .fileDone
  | .fileDone => s
  | .unregisterOld => (s.unregisterWatcherGroupUpdateSubscriber key).goto i key .registerGroup
  | .registerGroup => (s.registerWatcherGroupUpdateSubscriber i key).goto i key (.check 0)
  | .check failures =>
    s.goto i key (if (s.groupSenders key).isSome then .ping failures else .unregisterGroup)
  | .ping failures =>
    -- A missing sender is a failure, too.
    if pingFails ∨ s.groupSenders key = none then
      s.goto i key (if 3 ≤ failures + 1 then .unregisterGroup else .check (failures + 1))
    else s.goto i key (.check 0)
  | .unregisterGroup =>
    ((s.recordRemoval .groupSender i key).unregisterWatcherGroupUpdateSubscriber key).goto i
      key .groupDone
  | .groupDone => s

/-- The state after an event. -/
def step : Op → State
  | .subscribeToFileUpdates key aliasAccount =>
    { s with subscriptions := s.subscriptions ++ [⟨key, .connect aliasAccount⟩] }
  | .subscribeToWatcherGroupUpdates key =>
    { s with subscriptions := s.subscriptions ++ [⟨key, .unregisterOld⟩] }
  | .next i pingFails =>
    match s.subscriptions[i]? with
    | some sub => s.next i sub.key pingFails sub.pc
    | none => s

/-- No task has taken away what belongs to a later subscription. -/
def KeepsLater : Prop := ∀ r ∈ s.removals, ¬r.task < r.owner

instance : Decidable s.KeepsLater := inferInstanceAs (Decidable (∀ _ ∈ _, _))

end State

/-! ## What a statement does -/

section

variable {s : State} {i : ℕ} {key : String} {pingFails : Bool} {pc : Pc}

@[simp]
theorem owner_goto {key' : String} : (s.goto i key pc).owner key' = s.owner key' := by
  funext r
  rcases r <;> rfl

@[simp]
theorem owner_recordRemoval {key' : String} {resource : Resource} :
    (s.recordRemoval resource i key).owner key' = s.owner key' := by
  funext r
  rcases r <;> rfl

theorem owner_registerConnection {key' : String} {r : Resource} :
    (s.registerConnection i key).owner key' r =
      if r = .connection ∧ key' = key then some i else s.owner key' r := by
  rcases r
  case connection =>
    by_cases hkey : key' = key
    · subst hkey
      cases h : s.connections key' <;> simp [State.owner, State.registerConnection, h]
    · simp [State.owner, State.registerConnection, hkey]
  all_goals simp [State.owner, State.registerConnection]

@[simp]
theorem owner_markDisconnected {key' : String} :
    (s.markDisconnected key).owner key' = s.owner key' := by
  funext r
  rcases r
  case connection =>
    by_cases hkey : key' = key
    · subst hkey
      cases h : s.connections key' <;> simp [State.owner, State.markDisconnected, h]
    · simp [State.owner, State.markDisconnected, hkey]
  all_goals rfl

theorem owner_registerFile {key' aliasAccount : String} {r : Resource} :
    (s.registerFileUpdateSubscriberWithAlias i key aliasAccount).owner key' r =
      if r = .fileSender ∧ key' = key then some i else s.owner key' r := by
  rcases r <;> simp [State.owner, State.registerFileUpdateSubscriberWithAlias,
    Function.update_apply]

theorem owner_unregisterFile {key' : String} {r : Resource} :
    (s.unregisterFileUpdateSubscriber key).owner key' r =
      if r = .fileSender ∧ key' = key then none else s.owner key' r := by
  rcases r <;> simp [State.owner, State.unregisterFileUpdateSubscriber, Function.update_apply]

theorem owner_registerGroup {key' : String} {r : Resource} :
    (s.registerWatcherGroupUpdateSubscriber i key).owner key' r =
      if r = .groupSender ∧ key' = key then some i else s.owner key' r := by
  rcases r <;> simp [State.owner, State.registerWatcherGroupUpdateSubscriber, Function.update_apply]

theorem owner_unregisterGroup {key' : String} {r : Resource} :
    (s.unregisterWatcherGroupUpdateSubscriber key).owner key' r =
      if r = .groupSender ∧ key' = key then none else s.owner key' r := by
  rcases r <;> simp [State.owner, State.unregisterWatcherGroupUpdateSubscriber,
    Function.update_apply]

/-- What is kept under a key was there before, or belongs to the subscription. -/
def OwnsOrKeeps (s : State) (i : ℕ) (key : String) (pc' : Pc) (s' : State) : Prop :=
  ∀ key' r j, s'.owner key' r = some j →
    s.owner key' r = some j ∨ (j = i ∧ key' = key ∧ pc'.HasRegistered r)

theorem ownsOrKeeps_of_eq {s' : State} {pc' : Pc} (h : ∀ key', s'.owner key' = s.owner key') :
    OwnsOrKeeps s i key pc' s' := fun key' _ _ hj => .inl (h key' ▸ hj)

theorem ownsOrKeeps_of_registers {s' : State} {pc' : Pc} {r₀ : Resource}
    (hr₀ : pc'.HasRegistered r₀)
    (h : ∀ key' r, s'.owner key' r = if r = r₀ ∧ key' = key then some i else s.owner key' r) :
    OwnsOrKeeps s i key pc' s' := by
  intro key' r j hj
  rw [h] at hj
  split at hj
  next hr =>
    obtain ⟨rfl, rfl⟩ := hr
    exact .inr ⟨(Option.some.inj hj).symm, rfl, hr₀⟩
  next => exact .inl hj

theorem ownsOrKeeps_of_unregisters {s' : State} {pc' : Pc} {r₀ : Resource}
    (h : ∀ key' r, s'.owner key' r = if r = r₀ ∧ key' = key then none else s.owner key' r) :
    OwnsOrKeeps s i key pc' s' := by
  intro key' r j hj
  rw [h] at hj
  split at hj
  next => cases hj
  next => exact .inl hj

/-- What a statement may do: the subscription goes on and forgets nothing it has
    registered; what is then kept under a key was there before, or is its own; and if it
    is a task's, it takes away what is kept under its key. -/
structure Effect (s : State) (i : ℕ) (key : String) (pc : Pc) (s' : State) : Prop where
  moved : ∃ pc', s'.subscriptions = s.subscriptions.set i ⟨key, pc'⟩ ∧
    (∀ r, pc.HasRegistered r → pc'.HasRegistered r) ∧ OwnsOrKeeps s i key pc' s'
  removals : s'.removals = s.removals ++
    (pc.takesAway.bind fun r => (s.owner key r).map fun j => ⟨r, i, j⟩).toList

theorem goto_effect {pc' : Pc} (hpc : ∀ r, pc.HasRegistered r → pc'.HasRegistered r)
    (htakes : pc.takesAway = none) : Effect s i key pc (s.goto i key pc') where
  moved := ⟨pc', rfl, hpc, ownsOrKeeps_of_eq fun _ => owner_goto⟩
  removals := by simp [State.goto, htakes]

theorem next_effect (h : s.subscriptions[i]? = some ⟨key, pc⟩) :
    Effect s i key pc (s.next i key pingFails pc) := by
  have hset : s.subscriptions = s.subscriptions.set i ⟨key, pc⟩ := by
    obtain ⟨hi, h⟩ := List.getElem?_eq_some_iff.1 h
    rw [← h, List.set_getElem_self]
  rcases pc with a | a | _ | _ | _ | _ | _ | n | n | _ | _
  case connect =>
    refine ⟨⟨_, rfl, by simp [Pc.HasRegistered], ?_⟩, by simp [State.next, State.goto,
      State.registerConnection, Pc.takesAway]⟩
    exact ownsOrKeeps_of_registers rfl fun _ _ => by
      rw [State.next, owner_goto, owner_registerConnection]
  case registerFile =>
    refine ⟨⟨_, rfl, by rintro (_ | _ | _) <;> simp [Pc.HasRegistered], ?_⟩, by simp [State.next,
      State.goto, State.registerFileUpdateSubscriberWithAlias, Pc.takesAway]⟩
    exact ownsOrKeeps_of_registers rfl fun _ _ => by
      rw [State.next, owner_goto, owner_registerFile]
  case unregisterFile =>
    refine ⟨⟨_, rfl, by rintro (_ | _ | _) <;> simp [Pc.HasRegistered], ?_⟩, by simp [State.next,
      State.goto, State.unregisterFileUpdateSubscriber, State.recordRemoval, Pc.takesAway]⟩
    exact ownsOrKeeps_of_unregisters fun _ _ => by
      rw [State.next, owner_goto, owner_unregisterFile, owner_recordRemoval]
  case disconnect =>
    refine ⟨⟨_, rfl, by rintro (_ | _ | _) <;> simp [Pc.HasRegistered], ?_⟩, by simp [State.next,
      State.goto, State.markDisconnected, State.recordRemoval, Pc.takesAway]⟩
    exact ownsOrKeeps_of_eq fun _ => by
      rw [State.next, owner_goto, owner_markDisconnected, owner_recordRemoval]
  case fileDone => exact ⟨⟨_, hset, fun _ => id, ownsOrKeeps_of_eq fun _ =>
    rfl⟩, by simp [State.next, Pc.takesAway]⟩
  case unregisterOld =>
    refine ⟨⟨_, rfl, by simp [Pc.HasRegistered], ?_⟩, by simp [State.next, State.goto,
      State.unregisterWatcherGroupUpdateSubscriber, Pc.takesAway]⟩
    exact ownsOrKeeps_of_unregisters fun _ _ => by
      rw [State.next, owner_goto, owner_unregisterGroup]
  case registerGroup =>
    refine ⟨⟨_, rfl, by simp [Pc.HasRegistered], ?_⟩, by simp [State.next, State.goto,
      State.registerWatcherGroupUpdateSubscriber, Pc.takesAway]⟩
    exact ownsOrKeeps_of_registers rfl fun _ _ => by
      rw [State.next, owner_goto, owner_registerGroup]
  case check =>
    refine goto_effect ?_ rfl
    split <;> rintro (_ | _ | _) <;> simp [Pc.HasRegistered]
  case ping =>
    rw [State.next]
    split
    · refine goto_effect ?_ rfl
      split <;> rintro (_ | _ | _) <;> simp [Pc.HasRegistered]
    · refine goto_effect ?_ rfl
      rintro (_ | _ | _) <;> simp [Pc.HasRegistered]
  case unregisterGroup =>
    refine ⟨⟨_, rfl, by rintro (_ | _ | _) <;> simp [Pc.HasRegistered], ?_⟩, by simp [State.next,
      State.goto, State.unregisterWatcherGroupUpdateSubscriber, State.recordRemoval, Pc.takesAway]⟩
    exact ownsOrKeeps_of_unregisters fun _ _ => by
      rw [State.next, owner_goto, owner_unregisterGroup, owner_recordRemoval]
  case groupDone => exact ⟨⟨_, hset, fun _ => id, ownsOrKeeps_of_eq fun _ =>
    rfl⟩, by simp [State.next, Pc.takesAway]⟩

end

/-! ## Tasks that come in time -/

/-- If the statement takes something away, no later subscription of the key has
    registered its own. -/
def NotSuperseded (s : State) : Op → Prop
  | .next i _ =>
    ∀ sub ∈ s.subscriptions[i]?, ∀ r ∈ sub.pc.takesAway, ∀ later ∈ s.subscriptions.drop (i + 1),
      later.key = sub.key → later.pc.HasRegistered r = false
  | _ => True

instance (s : State) : (o : Op) → Decidable (NotSuperseded s o)
  | .next i _ => inferInstanceAs (Decidable (∀ sub ∈ s.subscriptions[i]?, ∀ r ∈ sub.pc.takesAway,
      ∀ later ∈ s.subscriptions.drop (i + 1), later.key = sub.key →
        later.pc.HasRegistered r = false))
  | .subscribeToFileUpdates .. => .isTrue trivial
  | .subscribeToWatcherGroupUpdates _ => .isTrue trivial

/-- What is kept under a key was registered by its owner. -/
def Registered (s : State) : Prop :=
  ∀ key r j, s.owner key r = some j →
    ∃ sub, s.subscriptions[j]? = some sub ∧ sub.key = key ∧ sub.pc.HasRegistered r

section

variable {s s' : State} {i : ℕ} {key : String} {pc : Pc} {sub : Subscription}

/-- A new subscription leaves the others as they are. -/
theorem Registered.subscribe (h : Registered s) :
    Registered { s with subscriptions := s.subscriptions ++ [sub] } := by
  intro key r j hj
  have hj : s.owner key r = some j := by rcases r <;> exact hj
  obtain ⟨sub', hsub', hkey, hr⟩ := h key r j hj
  refine ⟨sub', ?_, hkey, hr⟩
  rw [List.getElem?_append_left (List.getElem?_eq_some_iff.1 hsub').1, hsub']

theorem Registered.effect (hs : Registered s) (hi : s.subscriptions[i]? = some ⟨key, pc⟩)
    (h : Effect s i key pc s') : Registered s' := by
  obtain ⟨⟨pc', hsubs, hpc, hown⟩, -⟩ := h
  intro key' r j hj
  have hlt := (List.getElem?_eq_some_iff.1 hi).1
  by_cases hij : i = j
  · subst hij
    -- The subscription itself, which has registered what it had, or does so now.
    refine ⟨⟨key, pc'⟩, by rw [hsubs, List.getElem?_set_self hlt], ?_⟩
    rcases hown key' r i hj with hold | ⟨-, rfl, hr⟩
    · obtain ⟨sub, hsub, hkey, hr⟩ := hs key' r i hold
      cases hi.symm.trans hsub
      exact ⟨hkey, hpc r hr⟩
    · exact ⟨rfl, hr⟩
  · rcases hown key' r j hj with hold | ⟨rfl, -⟩
    · obtain ⟨sub, hsub, hkey, hr⟩ := hs key' r j hold
      exact ⟨sub, by rw [hsubs, List.getElem?_set_ne hij, hsub], hkey, hr⟩
    · exact absurd rfl hij

/-- A task that comes in time takes away its own, or what belongs to an earlier one. -/
theorem KeepsLater.effect (hs : Registered s) (hlog : s.KeepsLater)
    (h : Effect s i key pc s')
    (hin : ∀ r ∈ pc.takesAway, ∀ later ∈ s.subscriptions.drop (i + 1),
      later.key = key → later.pc.HasRegistered r = false) : s'.KeepsLater := by
  intro m hm
  rw [h.removals] at hm
  rcases List.mem_append.1 hm with hm | hm
  · exact hlog m hm
  · intro hlt
    obtain ⟨r, hr, hm⟩ := Option.bind_eq_some_iff.1 (Option.mem_toList.1 hm)
    obtain ⟨j, hj, rfl⟩ := Option.map_eq_some_iff.1 hm
    obtain ⟨sub, hsub, hkey, hreg⟩ := hs key r j hj
    have hlater : sub ∈ s.subscriptions.drop (i + 1) := by
      refine List.mem_of_getElem? (i := j - (i + 1)) ?_
      rw [List.getElem?_drop, show i + 1 + (j - (i + 1)) = j by simp at hlt; omega, hsub]
    rw [hin r hr sub hlater hkey] at hreg
    cases hreg

theorem step_invariant {o : Op} (ho : NotSuperseded s o) (h : Registered s ∧ s.KeepsLater) :
    Registered (s.step o) ∧ (s.step o).KeepsLater := by
  rcases o with ⟨key, aliasAccount⟩ | key | ⟨i, pingFails⟩
  · exact ⟨h.1.subscribe, h.2⟩
  · exact ⟨h.1.subscribe, h.2⟩
  · rw [State.step]
    split
    next sub hi =>
      have heffect : Effect s i sub.key sub.pc (s.next i sub.key pingFails sub.pc) := next_effect hi
      exact ⟨h.1.effect hi heffect, KeepsLater.effect h.1 h.2 heffect (ho sub hi)⟩
    next => exact h

end

/-- In every interleaving in which the tasks come in time, none takes away the sender or
    the connection of a later subscription. -/
theorem removals_run {ops : List Op} (h : Guarded State.step NotSuperseded .init ops) :
    (run State.step .init ops).KeepsLater := by
  have hinit : Registered .init ∧ State.KeepsLater .init := by
    refine ⟨fun key r j hj => ?_, fun m hm => absurd hm List.not_mem_nil⟩
    rcases r <;> cases hj
  exact (h.invariant (fun _ _ => step_invariant) hinit).2

/-- A client subscribes to files, and again after the task of the first subscription has
    ended; then to groups, and the pings fail. -/
def timelyOps : List Op :=
  [.subscribeToFileUpdates "a:d" "a", .next 0 false, .next 0 false, .next 0 false, .next 0 false,
    .subscribeToFileUpdates "a:d" "a", .next 1 false, .next 1 false,
    .subscribeToWatcherGroupUpdates "a:d", .next 2 false, .next 2 false,
      .next 2 false, .next 2 true,
    .next 2 false, .next 2 true, .next 2 false, .next 2 true, .next 2 false]

theorem removals_timelyOps :
    Guarded State.step NotSuperseded .init timelyOps ∧
      (run State.step .init timelyOps).KeepsLater :=
  ⟨by decide, removals_run (by decide)⟩

/-- A client subscribes to files twice within seven days: the task of the first
    subscription removes the sender of the second. -/
theorem renewed_sender_removed :
    ¬(run State.step .init [.subscribeToFileUpdates "a:d" "a", .next 0 false, .next 0 false,
      .subscribeToFileUpdates "a:d" "a", .next 1 false, .next 1 false,
        .next 0 false]).KeepsLater := by
  decide

end Subscriptions

end CosmicSync
