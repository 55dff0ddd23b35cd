import CosmicSync.Handlers.WatcherUpdates
import CosmicSync.Storage.Memory

/-!
# Two backends

The server runs on the database or, for tests, on a storage in memory, and its clients
should not notice which. A backend is a storage together with the resolution of the
client's numbers on uploads, which `services/file_service.rs` makes by the kind of the
storage.

The two differ in the ids by which they know a group. In memory a group is found by the
number of the client only where this number is the id that the server has given to it.

* `Simulates`: what holds of the two as long as this is so.
* `BackendsAlike`, `CallAlike`: what a client can then see.
-/

namespace CosmicSync

open Table Run WatcherStore WatcherTables

/-! ## Backends and their calls -/

/-- A storage with the states `σ`, and `ensure_server_ids_for_upload` on it. -/
structure Backend (σ : Type) where
  storage : WatcherStorage σ
  ensureServerIdsForUpload : σ → EnsureInputs → String → String → ℤ → ℤ → Option String →
    Except StorageError ((ℤ × ℤ) × σ)

/-- On the database rows that are missing are created. -/
def mySqlBackend (pl : Planner) : Backend WatcherStore where
  storage := mySqlStorage pl
  ensureServerIdsForUpload s i := s.ensureServerIdsFor pl i

/-- In memory the ids are looked up. -/
def memoryBackend (pl : Planner) : Backend MemoryData where
  storage := memoryStorage pl
  ensureServerIdsForUpload d _ accountHash _ clientGroupId clientWatcherId _ :=
    .ok ((d.getServerIds pl accountHash clientGroupId clientWatcherId).getD (0, 0), d)

/-- What a client asks for. -/
inductive GroupCall where
  | register (i : GroupRequestInputs) (req : WatcherGroupRequest)
  | get (auth : Option VerificationResult) (i : GroupRequestInputs) (req : WatcherGroupIdRequest)
  | delete (i : GroupRequestInputs) (req : WatcherGroupIdRequest)
  | resolve (i : EnsureInputs) (accountHash deviceHash : String) (groupId watcherId : ℤ)
    (path : Option String)

/-- What it is answered. -/
inductive GroupAnswer where
  | group (answer : Except Status WatcherGroupResponse)
  | read (answer : Except Status GetWatcherGroupResponse)
  | ids (answer : Except StorageError (ℤ × ℤ))

/-- A call on a backend: the state after it, and the answer. -/
def Backend.call {σ : Type} (b : Backend σ) (env : WatcherEnv) (s : σ) : GroupCall → σ × GroupAnswer
  | .register i req =>
    let handled := handleRegisterWatcherGroup b.storage env i s req
    (handled.store, .group handled.answer)
  | .get auth i req => (s, .read (handleGetWatcherGroup b.storage env auth i s req))
  | .delete i req =>
    let handled := handleDeleteWatcherGroup b.storage env i s req
    (handled.store, .group handled.answer)
  | .resolve i accountHash deviceHash groupId watcherId path =>
    match b.ensureServerIdsForUpload s i accountHash deviceHash groupId watcherId path with
    | .ok (ids, s) => (s, .ids (.ok ids))
    | .error e => (s, .ids (.error e))

/-- The same call on both. -/
def callBoth (pl pl' : Planner) (p : MemoryData × WatcherStore) (op : WatcherEnv × GroupCall) :
    MemoryData × WatcherStore :=
  (((memoryBackend pl).call op.1 p.1 op.2).1, ((mySqlBackend pl').call op.1 p.2 op.2).1)

/-! ## What a client can see -/

/-- The client's numbers of a watcher in memory. -/
def Watcher.key (w : Watcher) : String × ℤ × ℤ := (w.accountHash, w.localGroupId, w.watcherId)

/-- Ids of one group. -/
def SameGroupId (p : MemoryData × WatcherStore) (id id' : ℤ) : Prop :=
  ∃ e ∈ p.1.watcherGroups.entries, ∃ r ∈ p.2.groups, e.1 = id ∧ r.id = id' ∧
    groupKey r = (e.2.accountHash, e.2.groupId)

/-- Ids of one watcher. -/
def SameWatcherId (p : MemoryData × WatcherStore) (id id' : ℤ) : Prop :=
  ∃ e ∈ p.1.watchers.entries, ∃ r ∈ p.2.watchers, e.1 = id ∧ r.id = id' ∧ watcherKey r = e.2.key

/-- The same answer, where ids are those of the same group and of the same watcher. -/
def AnswersAlike (p : MemoryData × WatcherStore) : GroupAnswer → GroupAnswer → Prop
  | .group answer, .group answer' => answer = answer'
  | .read answer, .read answer' => answer = answer'
  | .ids (.ok ids), .ids (.ok ids') => SameGroupId p ids.1 ids'.1 ∧ SameWatcherId p ids.2 ids'.2
  | .ids (.error e), .ids (.error e') => e = e'
  | _, _ => False

/-- A call is answered alike, and a watcher that has been registered with its group has ids
    on both backends. -/
structure CallAlike (pl pl' : Planner) (p : MemoryData × WatcherStore)
    (op : WatcherEnv × GroupCall) : Prop where
  answers : AnswersAlike (callBoth pl pl' p op) ((memoryBackend pl).call op.1 p.1 op.2).2
    ((mySqlBackend pl').call op.1 p.2 op.2).2
  resolves : ∀ i req data response, op.2 = .register i req → req.watcherData = some data →
    ((mySqlBackend pl').call op.1 p.2 op.2).2 = .group (.ok response) →
    ((callBoth pl pl' p op).1.getServerIds pl req.accountHash req.groupId data.watcherId).isSome ∧
      ((callBoth pl pl' p op).2.getServerIds pl' req.accountHash req.groupId data.watcherId).isSome

/-- A state in which a client cannot tell the backends apart. -/
structure BackendsAlike (pl pl' : Planner) (p : MemoryData × WatcherStore) : Prop where
  /-- A group is found by one exactly if it is found by the other. -/
  found : ∀ now accountHash groupId,
    Option.Rel (fun g g' => g.groupId = g'.groupId ∧ g.title = g'.title)
    (p.1.getWatcherGroupByAccountAndId accountHash groupId)
    (p.2.getWatcherGroupByAccountAndId pl' now accountHash groupId)
  /-- A number of a client is that of one group. -/
  single : Keyed (fun e => (e.2.accountHash, e.2.groupId)) p.1.watcherGroups.entries ∧
    Keyed groupKey p.2.groups
  /-- Numbers have ids on one exactly if they have on the other. -/
  resolved : ∀ accountHash groupId watcherId,
    Option.Rel (fun ids ids' => SameGroupId p ids.1 ids'.1 ∧ SameWatcherId p ids.2 ids'.2)
      (p.1.getServerIds pl accountHash groupId watcherId)
        (p.2.getServerIds pl' accountHash groupId watcherId)
  /-- The ids are renamed one to one. -/
  renamed : (∀ id₁ id₁' id₂ id₂', SameGroupId p id₁ id₁' → SameGroupId p id₂ id₂' →
      (id₁ = id₂ ↔ id₁' = id₂')) ∧
    ∀ id₁ id₁' id₂ id₂', SameWatcherId p id₁ id₁' → SameWatcherId p id₂ id₂' →
      (id₁ = id₂ ↔ id₁' = id₂')

/-! ## The simulation -/

/-- What a client can see of a group, without the time of its last update. -/
def WatcherGroup.shown (g : WatcherGroup) : String × ℤ × String :=
  (g.accountHash, g.groupId, g.title)

def WatcherGroupRow.shown (g : WatcherGroupRow) : String × ℤ × String :=
  (g.accountHash, g.groupId, g.title)

/-- Both hold the same groups and the same watchers, and in memory the id of a group is the
    number of the client. -/
structure Simulates (p : MemoryData × WatcherStore) : Prop where
  linked : Linked p.2.toWatcherTables
  group_ne_zero : ∀ r ∈ p.2.groups, r.id ≠ 0
  numbered : ∀ e ∈ p.1.watcherGroups.entries, e.2.groupId = e.1
  groups : ∀ v, (∃ e ∈ p.1.watcherGroups.entries, e.2.shown = v) ↔ ∃ r ∈ p.2.groups, r.shown = v
  inGroup : ∀ e ∈ p.1.watchers.entries, e.2.groupId = e.2.localGroupId
  watcherKeys : Keyed (fun e => e.2.key) p.1.watchers.entries
  watchers : ∀ v, (∃ e ∈ p.1.watchers.entries, e.2.key = v) ↔ ∃ r ∈ p.2.watchers, watcherKey r = v

namespace Simulates

variable {pl pl' : Planner} {p : MemoryData × WatcherStore} {accountHash : String}
  {groupId watcherId : ℤ}

/-- A number is that of a group in memory, and of the same one in the tables, or of none. -/
theorem group_cases (h : Simulates p) (pl : Planner) (accountHash : String) (groupId : ℤ) :
    (∃ g r, p.1.watcherGroups.get? groupId = some g ∧ g.accountHash = accountHash ∧
        fetchOptional pl (WatcherGroupRow.ClientGroup accountHash groupId) p.2.groups = some r ∧
        r.shown = g.shown) ∨
      ((p.1.watcherGroups.get? groupId).filter (·.accountHash = accountHash) = none ∧
        ∀ r ∈ p.2.groups, ¬WatcherGroupRow.ClientGroup accountHash groupId r) := by
  by_cases hex : ∃ r ∈ p.2.groups, WatcherGroupRow.ClientGroup accountHash groupId r
  · obtain ⟨r, hr, hclient⟩ := hex
    obtain ⟨⟨k, g⟩, he, hshown⟩ := (h.groups r.shown).2 ⟨r, hr, rfl⟩
    obtain ⟨hacc, hrest⟩ := Prod.mk.inj hshown
    obtain ⟨hnumber, -⟩ := Prod.mk.inj hrest
    have hkey : groupId = k := hclient.2.symm.trans (hnumber.symm.trans (h.numbered _ he))
    refine .inl ⟨g, r, HashMap.get?_eq_some.2 (hkey ▸ he), hacc.trans hclient.1, ?_, hshown.symm⟩
    exact h.linked.groupKeys.fetchOptional_eq_some pl hr hclient fun r' _ hclient' =>
      (groupKey_eq.2 hclient').trans (groupKey_eq.2 hclient).symm
  · have hnone : ∀ r ∈ p.2.groups, ¬WatcherGroupRow.ClientGroup accountHash groupId r :=
      fun r hr hclient => hex ⟨r, hr, hclient⟩
    refine .inr ⟨?_, hnone⟩
    rw [Option.filter_eq_none_iff]
    intro g hg hacc
    have he := HashMap.get?_eq_some.1 hg
    obtain ⟨r, hr, hshown⟩ := (h.groups g.shown).1 ⟨_, he, rfl⟩
    obtain ⟨hacc', hrest⟩ := Prod.mk.inj hshown
    obtain ⟨hnumber, -⟩ := Prod.mk.inj hrest
    exact hnone r hr ⟨hacc'.trans (of_decide_eq_true hacc), hnumber.trans (h.numbered _ he)⟩

theorem found (h : Simulates p) (pl : Planner) (now : DateTime) (accountHash : String)
    (groupId : ℤ) :
    Option.Rel (fun g g' => g.groupId = g'.groupId ∧ g.title = g'.title)
      (p.1.getWatcherGroupByAccountAndId accountHash groupId)
      (p.2.getWatcherGroupByAccountAndId pl now accountHash groupId) := by
  rw [MemoryData.getWatcherGroupByAccountAndId, getWatcherGroupByAccountAndId]
  rcases h.group_cases pl accountHash groupId with ⟨g, r, hg, hacc, hr, hshown⟩ | ⟨hg, hr⟩
  · obtain ⟨-, hrest⟩ := Prod.mk.inj hshown
    obtain ⟨hnumber, htitle⟩ := Prod.mk.inj hrest
    rw [hg, hr, Option.filter_some_pos (by simpa using hacc)]
    exact .some ⟨hnumber.symm, htitle.symm⟩
  · rw [hg, fetchOptional_eq_none.2 hr]
    exact .none

theorem single (h : Simulates p) :
    Keyed (fun e => (e.2.accountHash, e.2.groupId)) p.1.watcherGroups.entries := by
  refine p.1.watcherGroups.keyed.of_imp fun e he e' he' heq => ?_
  rw [← h.numbered e he, ← h.numbered e' he', (Prod.mk.inj heq).2]

/-- The numbers of a watcher in the tables have ids on both. -/
theorem getServerIds_of_mem (h : Simulates p) (pl pl' : Planner) {r : WatcherRow}
    (hr : r ∈ p.2.watchers) (hkey : watcherKey r = (accountHash, groupId, watcherId)) : ∃ ids,
      p.1.getServerIds pl accountHash groupId watcherId = some ids ∧
        p.2.getServerIds pl' accountHash groupId watcherId = some (r.groupId, r.id) ∧
        SameGroupId p ids.1 r.groupId ∧ SameWatcherId p ids.2 r.id := by
  have hids : p.2.getServerIds pl' accountHash groupId watcherId = some (r.groupId, r.id) :=
    h.linked.getServerIds_eq_some.2 ⟨r, hr, hkey, rfl⟩
  -- The group of the watcher.
  obtain ⟨g, hg, hown⟩ := h.linked.owned r hr
  obtain ⟨hacc, hnumber, hwatcher⟩ := watcherKey_eq.1 hkey
  obtain ⟨eg, heg, hshown⟩ := (h.groups g.shown).2 ⟨g, hg, rfl⟩
  obtain ⟨hegacc, hrest⟩ := Prod.mk.inj hshown
  obtain ⟨hegnumber, -⟩ := Prod.mk.inj hrest
  obtain ⟨eg', hfind⟩ := exists_fetchOptional pl (p := fun e : ℤ × WatcherGroup =>
    e.2.accountHash = accountHash ∧ e.2.groupId = groupId) heg
    ⟨hegacc.trans (hown.1.trans hacc), hegnumber.trans (hown.2.1.trans hnumber)⟩
  obtain ⟨heg', hacc', hnumber'⟩ := fetchOptional_some hfind
  -- The watcher.
  obtain ⟨ew, hew, hewkey⟩ := (h.watchers (watcherKey r)).2 ⟨r, hr, rfl⟩
  obtain ⟨ew', hfind'⟩ := exists_fetchOptional pl (p := fun e : ℤ × Watcher =>
    e.2.accountHash = accountHash ∧ e.2.localGroupId = groupId ∧ e.2.watcherId = watcherId) hew
    (by obtain ⟨hacc, hrest⟩ := Prod.mk.inj (hewkey.trans hkey)
        exact ⟨hacc, Prod.mk.inj hrest⟩)
  obtain ⟨hew', hwacc, hwgroup, hwwatcher⟩ := fetchOptional_some hfind'
  refine ⟨(eg'.1, ew'.1), ?_, hids, ⟨eg', heg', g, hg, rfl, hown.2.2, ?_⟩,
    ⟨ew', hew', r, hr, rfl, rfl, ?_⟩⟩
  · rw [MemoryData.getServerIds, MemoryData.getServerGroupId, HashMap.findEntry,
      HashMap.findEntry, hfind, hfind']
    rfl
  · rw [groupKey, hacc', hnumber', hown.1, hacc, hown.2.1, hnumber]
  · rw [hkey, Watcher.key, hwacc, hwgroup, hwwatcher]

/-- Other numbers have none. -/
theorem getServerIds_of_not_mem (h : Simulates p) (pl pl' : Planner)
    (hnone : ∀ r ∈ p.2.watchers, watcherKey r ≠ (accountHash, groupId, watcherId)) :
    p.1.getServerIds pl accountHash groupId watcherId = none ∧
      p.2.getServerIds pl' accountHash groupId watcherId = none := by
  constructor
  · have hfind : p.1.watchers.findEntry pl (fun w => w.accountHash = accountHash ∧
        w.localGroupId = groupId ∧ w.watcherId = watcherId) = none := by
      refine fetchOptional_eq_none.2 fun e he hkey => ?_
      obtain ⟨r, hr, hrkey⟩ := (h.watchers e.2.key).1 ⟨e, he, rfl⟩
      refine hnone r hr (hrkey.trans ?_)
      rw [Watcher.key, hkey.1, hkey.2.1, hkey.2.2]
    rw [MemoryData.getServerIds, hfind]
    rcases p.1.getServerGroupId pl accountHash groupId with _ | id
    · rfl
    · rfl
  · rw [Option.eq_none_iff_forall_ne_some]
    intro ids hids
    obtain ⟨r, hr, hkey, -⟩ := h.linked.getServerIds_eq_some.1 hids
    exact hnone r hr hkey

theorem resolved (h : Simulates p) (pl pl' : Planner) (accountHash : String)
    (groupId watcherId : ℤ) :
    Option.Rel (fun ids ids' => SameGroupId p ids.1 ids'.1 ∧ SameWatcherId p ids.2 ids'.2)
      (p.1.getServerIds pl accountHash groupId watcherId)
      (p.2.getServerIds pl' accountHash groupId watcherId) := by
  by_cases hex : ∃ r ∈ p.2.watchers, watcherKey r = (accountHash, groupId, watcherId)
  · obtain ⟨r, hr, hkey⟩ := hex
    obtain ⟨ids, hids, hids', hsame⟩ := h.getServerIds_of_mem pl pl' hr hkey
    rw [hids, hids']
    exact .some hsame
  · obtain ⟨hids, hids'⟩ := h.getServerIds_of_not_mem pl pl' fun r hr hkey => hex ⟨r, hr, hkey⟩
    rw [hids, hids']
    exact .none

theorem groupsRenamed (h : Simulates p) {id₁ id₁' id₂ id₂' : ℤ} (h₁ : SameGroupId p id₁ id₁')
    (h₂ : SameGroupId p id₂ id₂') : id₁ = id₂ ↔ id₁' = id₂' := by
  obtain ⟨e₁, he₁, r₁, hr₁, rfl, rfl, hkey₁⟩ := h₁
  obtain ⟨e₂, he₂, r₂, hr₂, rfl, rfl, hkey₂⟩ := h₂
  constructor
  · intro hid
    rw [p.1.watcherGroups.keyed.eq_of_mem he₁ he₂ hid] at hkey₁
    rw [h.linked.groupKeys.eq_of_mem hr₁ hr₂ (hkey₁.trans hkey₂.symm)]
  · intro hid
    rw [h.linked.groupIds.eq_of_mem hr₁ hr₂ hid] at hkey₁
    rw [h.single.eq_of_mem he₁ he₂ (hkey₁.symm.trans hkey₂)]

theorem watchersRenamed (h : Simulates p) {id₁ id₁' id₂ id₂' : ℤ} (h₁ : SameWatcherId p id₁ id₁')
    (h₂ : SameWatcherId p id₂ id₂') : id₁ = id₂ ↔ id₁' = id₂' := by
  obtain ⟨e₁, he₁, r₁, hr₁, rfl, rfl, hkey₁⟩ := h₁
  obtain ⟨e₂, he₂, r₂, hr₂, rfl, rfl, hkey₂⟩ := h₂
  constructor
  · intro hid
    rw [p.1.watchers.keyed.eq_of_mem he₁ he₂ hid] at hkey₁
    rw [h.linked.watcherKeys.eq_of_mem hr₁ hr₂ (hkey₁.trans hkey₂.symm)]
  · intro hid
    rw [h.linked.watcherIds.eq_of_mem hr₁ hr₂ hid] at hkey₁
    rw [h.watcherKeys.eq_of_mem he₁ he₂ (hkey₁.symm.trans hkey₂)]

theorem backendsAlike (h : Simulates p) (pl pl' : Planner) : BackendsAlike pl pl' p where
  found := h.found pl'
  single := ⟨h.single, h.linked.groupKeys⟩
  resolved := h.resolved pl pl'
  renamed := ⟨fun _ _ _ _ => h.groupsRenamed, fun _ _ _ _ => h.watchersRenamed⟩

/-! ### Writes -/

/-- A new group, whose number is the next id in memory. -/
theorem registerGroup (h : Simulates p) (group : WatcherGroup) (deviceHash : String) {nextId : ℕ}
    (hacc : group.accountHash = accountHash) (hnumber : group.groupId = p.1.watcherGroups.nextKey)
    (hfresh : FreshId (p.2.groups.map WatcherGroupRow.id) nextId) :
    (∀ r ∈ p.2.groups, ¬WatcherGroupRow.ClientGroup accountHash group.groupId r) ∧
      Simulates ((p.1.registerWatcherGroup group).2, { p.2 with
        groups := p.2.groups ++ [newGroup nextId accountHash deviceHash group] }) := by
  have hnone : ∀ r ∈ p.2.groups, ¬WatcherGroupRow.ClientGroup accountHash group.groupId r := by
    intro r hr hclient
    obtain ⟨e, he, hshown⟩ := (h.groups r.shown).2 ⟨r, hr, rfl⟩
    obtain ⟨-, hrest⟩ := Prod.mk.inj hshown
    obtain ⟨hgroup, -⟩ := Prod.mk.inj hrest
    have hkey : e.1 = p.1.watcherGroups.nextKey := by
      rw [← h.numbered e he, hgroup, hclient.2, hnumber]
    exact (HashMap.lt_nextKey he).ne hkey
  have hentries : (p.1.registerWatcherGroup group).2.watcherGroups.entries =
      p.1.watcherGroups.entries ++
        [(p.1.watcherGroups.nextKey, { group with id := p.1.watcherGroups.nextKey })] :=
    HashMap.entries_insert_nextKey _ _
  refine ⟨hnone, ?_⟩
  refine ⟨?_, ?_, ?_, ?_, h.inGroup, h.watcherKeys, h.watchers⟩
  · exact h.linked.insertGroup hfresh.ne_of_mem fun r hr hkey => hnone r hr (groupKey_eq.1 hkey)
  · intro r hr
    rcases List.mem_append.1 hr with hr | hr
    · exact h.group_ne_zero r hr
    · rw [List.mem_singleton.1 hr]
      exact hfresh.ne_zero
  · intro e he
    rw [hentries] at he
    rcases List.mem_append.1 he with he | he
    · exact h.numbered e he
    · rw [List.mem_singleton.1 he]
      exact hnumber
  · intro v
    have hv := h.groups v
    dsimp only at hentries ⊢
    rw [hentries]
    simp only [List.mem_append, List.mem_singleton, or_and_right, exists_or, exists_eq_left]
    rw [hv, WatcherGroup.shown, WatcherGroupRow.shown, newGroup, hacc]

/-- The group of a watcher is among the groups. -/
theorem not_clientWatcher (h : Simulates p) {data : WatcherData}
    (hnone : ∀ r ∈ p.2.groups, ¬WatcherGroupRow.ClientGroup accountHash groupId r) :
    ∀ r ∈ p.2.watchers, ¬WatcherRow.ClientWatcher accountHash groupId data.watcherId r := by
  intro r hr hclient
  obtain ⟨g, hg, hown⟩ := h.linked.owned r hr
  exact hnone g hg ⟨hown.1.trans hclient.2.1, hown.2.1.trans hclient.2.2⟩

/-- A new watcher of a group. -/
theorem createWatcher (h : Simulates p) {data : WatcherData} {now : DateTime}
    {timestamp dbGroupId : ℤ} {nextId : ℕ} {conditions : List WatcherCondition}
    (hgroup : p.2.getServerGroupId pl accountHash groupId = some dbGroupId)
    (hnone : ∀ r ∈ p.2.watchers, ¬WatcherRow.ClientWatcher accountHash groupId data.watcherId r)
    (hfresh : FreshId (p.2.watchers.map WatcherRow.id) nextId) :
    Simulates ((p.1.createWatcherWithConditions now accountHash groupId data timestamp).2,
      { p.2 with
        watchers := p.2.watchers ++
          [WatcherStore.newWatcher nextId accountHash dbGroupId groupId data timestamp]
        conditions := conditions }) := by
  set w := p.1.newWatcher now accountHash groupId data timestamp with hw
  have hkey : w.key = (accountHash, groupId, data.watcherId) := rfl
  have hentries : (p.1.createWatcherWithConditions now accountHash groupId data
      timestamp).2.watchers.entries = p.1.watchers.entries ++ [(p.1.watchers.nextKey, w)] := by
    rw [MemoryData.watchers_createWatcherWithConditions]
    exact HashMap.entries_insert_nextKey _ _
  have hgroups : (p.1.createWatcherWithConditions now accountHash groupId data
    timestamp).2.watcherGroups =
      p.1.watcherGroups.modify groupId (MemoryData.pushWatcherId p.1.watchers.nextKey) :=
    MemoryData.watcherGroups_createWatcherWithConditions
  have hpush : ∀ g : WatcherGroup,
      (MemoryData.pushWatcherId p.1.watchers.nextKey g).shown = g.shown := by
    intro g
    rw [MemoryData.pushWatcherId]
    split
    · rfl
    · rfl
  have hnewkey : ∀ r ∈ p.2.watchers, watcherKey r ≠ (accountHash, groupId, data.watcherId) := by
    intro r hr hkey
    obtain ⟨hacc, hnumber, hwatcher⟩ := watcherKey_eq.1 hkey
    exact hnone r hr ⟨hwatcher, hacc, hnumber⟩
  refine ⟨?_, h.group_ne_zero, ?_, ?_, ?_, ?_, ?_⟩
  · refine h.linked.insertWatcher hfresh.ne_zero hfresh.ne_of_mem hnewkey ?_
    obtain ⟨g, hg, hgkey, hid⟩ := h.linked.getServerGroupId_eq_some.1 hgroup
    obtain ⟨hacc, hnumber⟩ := groupKey_eq.1 hgkey
    exact ⟨g, hg, hacc, hnumber, hid⟩
  · intro e he
    rw [hgroups] at he
    rcases mem_updateWhere_cases he with ⟨he, -⟩ | ⟨e₀, he₀, -, rfl⟩
    · exact h.numbered e he
    · have hshown := Prod.mk.inj (Prod.mk.inj (hpush e₀.2)).2
      exact hshown.1.trans (h.numbered e₀ he₀)
  · intro v
    dsimp only
    rw [hgroups]
    exact (HashMap.mem_modify_iff (P := fun _ (g : WatcherGroup) => g.shown = v)
      fun _ g => by rw [hpush]).trans (h.groups v)
  · intro e he
    rw [hentries] at he
    rcases List.mem_append.1 he with he | he
    · exact h.inGroup e he
    · rw [List.mem_singleton.1 he]
      rfl
  · dsimp only
    rw [hentries]
    refine h.watcherKeys.append fun e he heq => ?_
    obtain ⟨r, hr, hrkey⟩ := (h.watchers e.2.key).1 ⟨e, he, rfl⟩
    exact hnewkey r hr (hrkey.trans (heq.trans hkey))
  · intro v
    have hv := h.watchers v
    dsimp only
    rw [hentries]
    simp only [List.mem_append, List.mem_singleton, or_and_right, exists_or, exists_eq_left]
    rw [hv, hkey]
    rfl

/-- The watchers that go with a group are those with its number. -/
theorem ofGroup_iff (h : Simulates p) {g : WatcherGroupRow} (hg : g ∈ p.2.groups) {r : WatcherRow}
    (hr : r ∈ p.2.watchers) : WatcherRow.OfGroup g.accountHash g.id r ↔
      r.accountHash = g.accountHash ∧ r.localGroupId = g.groupId := by
  obtain ⟨g', hg', hacc, hnumber, hid⟩ := h.linked.owned r hr
  constructor
  · rintro ⟨hracc, hrgroup⟩
    have heq := h.linked.groupIds.eq_of_mem hg' hg (hid.trans hrgroup)
    rw [← hnumber, heq]
    exact ⟨hracc, rfl⟩
  · rintro ⟨hracc, hrnumber⟩
    have heq := h.linked.groupKeys.eq_of_mem hg' hg
      (groupKey_eq.2 ⟨hacc.trans hracc, hnumber.trans hrnumber⟩)
    rw [← heq]
    exact ⟨hacc.symm, hid.symm⟩

/-- A group is deleted with its watchers. -/
theorem deleteGroup (h : Simulates p) {g : WatcherGroup} {r : WatcherGroupRow} {d : MemoryData}
    {conditions : List WatcherCondition} (hg : (r.groupId, g) ∈ p.1.watcherGroups.entries)
    (hr : r ∈ p.2.groups) (hshown : r.shown = g.shown)
    (hgroups : d.watcherGroups = p.1.watcherGroups.remove r.groupId)
    (hwatchers : ∀ e, e ∈ d.watchers.entries ↔
      e ∈ p.1.watchers.entries ∧ ¬(e.2.accountHash = r.accountHash ∧ e.2.groupId = r.groupId)) :
    Simulates (d, {
      conditions := conditions
      watchers := deleteWhere (WatcherRow.OfGroup r.accountHash r.id) p.2.watchers
      groups := deleteWhere (WatcherGroupRow.ServerGroup r.accountHash r.id) p.2.groups }) := by
  have hmem : ∀ e ∈ d.watchers.entries, e ∈ p.1.watchers.entries :=
    fun e he => ((hwatchers e).1 he).1
  refine ⟨h.linked.deleteGroup r.id, fun r' hr' =>
    h.group_ne_zero r' (mem_deleteWhere.1 hr').1, ?_, ?_,
    fun e he => h.inGroup e (hmem e he), ?_, ?_⟩
  · intro e he
    rw [hgroups] at he
    exact h.numbered e (HashMap.mem_remove.1 he).1
  · intro v
    constructor
    · rintro ⟨e, he, rfl⟩
      rw [hgroups] at he
      obtain ⟨he, hne⟩ := HashMap.mem_remove.1 he
      obtain ⟨r', hr', hshown'⟩ := (h.groups e.2.shown).1 ⟨e, he, rfl⟩
      refine ⟨r', mem_deleteWhere.2 ⟨hr', fun hserver => hne ?_⟩, hshown'⟩
      rw [h.linked.groupIds.eq_of_mem hr' hr hserver.1] at hshown'
      rw [← h.numbered e he]
      exact (Prod.mk.inj (Prod.mk.inj hshown').2).1.symm
    · rintro ⟨r', hr', rfl⟩
      obtain ⟨hr', hstays⟩ := mem_deleteWhere.1 hr'
      obtain ⟨e, he, hshown'⟩ := (h.groups r'.shown).2 ⟨r', hr', rfl⟩
      refine ⟨e, ?_, hshown'⟩
      rw [hgroups]
      refine HashMap.mem_remove.2 ⟨he, fun hkey => hstays ?_⟩
      -- The row with the number is the one that is deleted.
      rw [p.1.watcherGroups.keyed.eq_of_mem he hg hkey] at hshown'
      obtain ⟨hacc, hrest⟩ := Prod.mk.inj (hshown.trans hshown')
      have hkeys : groupKey r = groupKey r' := groupKey_eq.2 ⟨hacc, (Prod.mk.inj hrest).1⟩
      rw [← h.linked.groupKeys.eq_of_mem hr hr' hkeys]
      exact ⟨rfl, rfl⟩
  · refine d.watchers.keyed.of_imp fun e he e' he' hkey => ?_
    rw [h.watcherKeys.eq_of_mem (hmem e he) (hmem e' he') hkey]
  · intro v
    constructor
    · rintro ⟨e, he, rfl⟩
      obtain ⟨he, hstays⟩ := (hwatchers e).1 he
      obtain ⟨r', hr', hkey⟩ := (h.watchers e.2.key).1 ⟨e, he, rfl⟩
      obtain ⟨hacc, hnumber, -⟩ := watcherKey_eq.1 hkey
      refine ⟨r', mem_deleteWhere.2 ⟨hr', fun hdeleted => hstays ?_⟩, hkey⟩
      obtain ⟨hacc', hnumber'⟩ := (h.ofGroup_iff hr hr').1 hdeleted
      exact ⟨hacc.symm.trans hacc', (h.inGroup e he).trans (hnumber.symm.trans hnumber')⟩
    · rintro ⟨r', hr', rfl⟩
      obtain ⟨hr', hstays⟩ := mem_deleteWhere.1 hr'
      obtain ⟨e, he, hkey⟩ := (h.watchers (watcherKey r')).2 ⟨r', hr', rfl⟩
      obtain ⟨hacc, hnumber, -⟩ := watcherKey_eq.1 hkey.symm
      refine ⟨e, (hwatchers e).2 ⟨he, fun hdeleted => hstays ?_⟩, hkey⟩
      refine (h.ofGroup_iff hr hr').2 ⟨hacc.trans hdeleted.1, hnumber.trans ?_⟩
      exact (h.inGroup e he).symm.trans hdeleted.2

end Simulates

/-! ## Calls in step -/

/-- The device is known to both backends or to neither, where they ask. -/
def SameDevices (env : WatcherEnv) (accountHash deviceHash : String) : Prop :=
  env.devOrTestMode = true ∨
    ((∃ d ∈ env.devices, d.accountHash ++ ":" ++ d.deviceHash = accountHash ++ ":" ++ deviceHash) ↔
      ∃ d ∈ env.devices, d.accountHash = accountHash ∧ d.deviceHash = deviceHash ∧
        d.isActive = true)

/-- The device is active, or no one asks. -/
def Admitted (env : WatcherEnv) (accountHash deviceHash : String) : Prop :=
  env.devOrTestMode = true ∨
    ∃ d ∈ env.devices, d.accountHash = accountHash ∧ d.deviceHash = deviceHash ∧ d.isActive = true

/-- No statement of the call fails, and the ids of new rows are fresh. -/
def Undisturbed (p : MemoryData × WatcherStore) (op : WatcherEnv × GroupCall) : Prop :=
  match op.2 with
  | .register i _ => i.device.fault = none ∧ i.write.fault = none ∧ i.watcher.create.fault = none ∧
    FreshId (p.2.groups.map WatcherGroupRow.id) i.write.nextId ∧
    FreshId (p.2.watchers.map WatcherRow.id) i.watcher.create.nextId
  | .get _ i _ => i.device.fault = none ∧ i.lookup.fault = none
  | .delete i _ => i.device.fault = none ∧ i.lookup.fault = none ∧ i.write.fault = none
  | .resolve .. => True

/-- The calls that the backends answer alike: a registration that is accepted is for the
    number that is the next id in memory, a group that is read is not one that the account
    has, and numbers that are resolved are those of a registered watcher. -/
def BackendsInStep (p : MemoryData × WatcherStore) (op : WatcherEnv × GroupCall) : Prop :=
  match op.2 with
  | .register _ req => SameDevices op.1 req.accountHash req.deviceHash ∧
    (Admitted op.1 req.accountHash req.deviceHash →
      validateSentFolder op.1.rules req.watcherData = .ok () →
        req.groupId = p.1.watcherGroups.nextKey)
  | .get auth _ req => ∀ verified, auth = some verified →
    SameDevices op.1 verified.accountHash req.deviceHash ∧
      (Admitted op.1 verified.accountHash req.deviceHash →
        ∀ r ∈ p.2.groups, ¬WatcherGroupRow.ClientGroup verified.accountHash req.groupId r)
  | .delete _ req => SameDevices op.1 req.accountHash req.deviceHash
  | .resolve _ accountHash _ groupId watcherId _ =>
    ∃ r ∈ p.2.watchers, watcherKey r = (accountHash, groupId, watcherId)

section Calls

variable {pl pl' : Planner} {env : WatcherEnv} {p : MemoryData × WatcherStore}
  {accountHash deviceHash : String}

theorem validateDevice_alike (h : SameDevices env accountHash deviceHash) (pl pl' : Planner)
    (i : CallInputs) : validateDeviceIfRequired (memoryStorage pl) env i accountHash deviceHash =
      validateDeviceIfRequired (mySqlStorage pl') env i accountHash deviceHash := by
  rw [validateDeviceIfRequired, validateDeviceIfRequired]
  rcases h with hmode | hknown
  · rw [if_pos hmode, if_pos hmode]
  · have hvalid : (memoryStorage pl).validateDevice env.devices accountHash deviceHash =
        (mySqlStorage pl').validateDevice env.devices accountHash deviceHash := by
      rw [Bool.eq_iff_iff]
      simpa [memoryStorage, mySqlStorage, List.any_eq_true] using hknown
    rw [hvalid]

theorem admitted_of_ok {i : CallInputs}
    (h : validateDeviceIfRequired (mySqlStorage pl) env i accountHash deviceHash = .ok ()) :
    Admitted env accountHash deviceHash := by
  rw [validateDeviceIfRequired] at h
  split at h
  next hmode => exact .inl hmode
  next =>
    split at h
    next hquery =>
      obtain ⟨-, hknown⟩ := CallInputs.query_eq_ok.1 hquery
      refine .inr ?_
      simpa [mySqlStorage, List.any_eq_true] using hknown
    next => cases h
    next => cases h

/-- Calls without a registration. -/
theorem CallAlike.of_answers {op : WatcherEnv × GroupCall} (hop : ∀ i req, op.2 ≠ .register i req)
    (h : AnswersAlike (callBoth pl pl' p op) ((memoryBackend pl).call op.1 p.1 op.2).2
      ((mySqlBackend pl').call op.1 p.2 op.2).2) : CallAlike pl pl' p op :=
  ⟨h, fun i req _ _ heq => absurd heq (hop i req)⟩

/-- A group that no one has registered is not found. -/
theorem Simulates.get_step (h : Simulates p) {auth : Option VerificationResult}
    {i : GroupRequestInputs}
    {req : WatcherGroupIdRequest} (hundisturbed : Undisturbed p (env, .get auth i req))
    (hinStep : BackendsInStep p (env, .get auth i req)) :
      CallAlike pl pl' p (env, .get auth i req) := by
  suffices hanswer : handleGetWatcherGroup (memoryStorage pl) env auth i p.1 req =
      handleGetWatcherGroup (mySqlStorage pl') env auth i p.2 req from
    .of_answers (fun _ _ heq => GroupCall.noConfusion heq) hanswer
  rcases auth with _ | verified
  · rfl
  · obtain ⟨hsame, hnone⟩ := hinStep verified rfl
    rw [handleGetWatcherGroup, handleGetWatcherGroup, validateDevice_alike hsame pl pl']
    rcases hdevice : validateDeviceIfRequired (mySqlStorage pl') env i.device verified.accountHash
      req.deviceHash with status | ⟨⟩
    · rfl
    · dsimp only
      have hnotFound := hnone (admitted_of_ok hdevice)
      rcases h.group_cases pl' verified.accountHash req.groupId with ⟨g, r, -, -, hr, -⟩ | ⟨hg, hr⟩
      · exact absurd (fetchOptional_some hr).2 (hnotFound r (fetchOptional_some hr).1)
      · have hmemory : (memoryStorage pl).getWatcherGroupByAccountAndId p.1 i.lookup
            verified.accountHash req.groupId = .ok none :=
          congrArg (fun g => Except.ok (Option.map _ g)) hg
        have hmySql : (mySqlStorage pl').getWatcherGroupByAccountAndId p.2 i.lookup
            verified.accountHash req.groupId = .ok none := by
          refine CallInputs.query_eq_ok.2 ⟨hundisturbed.2, ?_⟩
          rw [getWatcherGroupByAccountAndId, fetchOptional_eq_none.2 hr]
          rfl
        rw [hmemory, hmySql]

/-- The watchers that are deleted in memory. -/
theorem mem_retain_ids {d : MemoryData} {groupId : ℤ} {e : ℤ × Watcher} :
    e ∈ (d.watchers.retain fun id _ => id ∉ (d.watchers.entries.filter fun e =>
        e.2.accountHash = accountHash ∧ e.2.groupId = groupId).map Prod.fst).entries ↔
      e ∈ d.watchers.entries ∧ ¬(e.2.accountHash = accountHash ∧ e.2.groupId = groupId) := by
  rw [HashMap.mem_retain]
  refine and_congr_right fun he => not_congr ?_
  rw [List.mem_map]
  constructor
  · rintro ⟨e', he', hkey⟩
    obtain ⟨he', hgroup⟩ := List.mem_filter.1 he'
    rw [← d.watchers.keyed.eq_of_mem he' he hkey]
    exact of_decide_eq_true hgroup
  · exact fun hgroup => ⟨e, List.mem_filter.2 ⟨he, decide_eq_true hgroup⟩, rfl⟩

/-- A deletion finds the same group, and deletes it with its watchers. -/
theorem Simulates.delete_step (h : Simulates p) {i : GroupRequestInputs}
    {req : WatcherGroupIdRequest} (hundisturbed : Undisturbed p (env, .delete i req))
    (hinStep : BackendsInStep p (env, .delete i req)) :
    Simulates (callBoth pl pl' p (env, .delete i req)) ∧
      CallAlike pl pl' p (env, .delete i req) := by
  obtain ⟨-, hlookup, hwrite⟩ := hundisturbed
  have hdevices := validateDevice_alike hinStep pl pl' i.device
  suffices hboth : Simulates ((handleDeleteWatcherGroup (memoryStorage pl) env i p.1 req).store,
      (handleDeleteWatcherGroup (mySqlStorage pl') env i p.2 req).store) ∧
        (handleDeleteWatcherGroup (memoryStorage pl) env i p.1 req).answer =
          (handleDeleteWatcherGroup (mySqlStorage pl') env i p.2 req).answer from
    ⟨hboth.1, .of_answers (fun _ _ heq => GroupCall.noConfusion heq) hboth.2⟩
  rw [handleDeleteWatcherGroup, handleDeleteWatcherGroup, hdevices]
  rcases hdevice : validateDeviceIfRequired (mySqlStorage pl') env i.device req.accountHash
    req.deviceHash with status | ⟨⟩
  · exact ⟨h, rfl⟩
  · dsimp only
    rcases h.group_cases pl' req.accountHash req.groupId with
      ⟨g, r, hg, hacc, hr, hshown⟩ | ⟨hg, hr⟩
    · obtain ⟨hrmem, hclient⟩ := fetchOptional_some hr
      have hmemory : (memoryStorage pl).getWatcherGroupByAccountAndId p.1 i.lookup req.accountHash
          req.groupId = .ok (some ⟨g.groupId, g.title, [], none⟩) := by
        refine congrArg Except.ok ?_
        rw [MemoryData.getWatcherGroupByAccountAndId, hg,
          Option.filter_some_pos (by simpa using hacc)]
        rfl
      have hmySql : (mySqlStorage pl').getWatcherGroupByAccountAndId p.2 i.lookup req.accountHash
          req.groupId = .ok (p.2.getWatcherGroupByAccountAndId pl' i.lookup.now req.accountHash
            req.groupId) := CallInputs.query_eq_ok.2 ⟨hlookup, rfl⟩
      rw [getWatcherGroupByAccountAndId, hr, Option.map_some] at hmySql
      have hid : p.2.getServerGroupId pl' req.accountHash req.groupId = some r.id :=
        congrArg (Option.map WatcherGroupRow.id) hr
      rw [hmemory, hmySql]
      dsimp only [memoryStorage, mySqlStorage]
      rw [MemoryData.deleteWatcherGroup, hg, deleteWatcherGroup, hwrite, hid]
      dsimp only
      rw [if_pos hacc]
      refine ⟨?_, rfl⟩
      rw [← hclient.2] at hg ⊢
      rw [← hclient.1]
      exact h.deleteGroup (HashMap.get?_eq_some.1 hg) hrmem hshown rfl fun e => mem_retain_ids
    · have hmemory : (memoryStorage pl).getWatcherGroupByAccountAndId p.1 i.lookup req.accountHash
          req.groupId = .ok none := congrArg (fun g => Except.ok (Option.map _ g)) hg
      have hmySql : (mySqlStorage pl').getWatcherGroupByAccountAndId p.2 i.lookup req.accountHash
          req.groupId = .ok none := by
        refine CallInputs.query_eq_ok.2 ⟨hlookup, ?_⟩
        rw [getWatcherGroupByAccountAndId, fetchOptional_eq_none.2 hr]
        rfl
      rw [hmemory, hmySql]
      exact ⟨h, rfl⟩

/-- The ids of a registered watcher. -/
theorem Simulates.resolve_step (h : Simulates p) {i : EnsureInputs} {groupId watcherId : ℤ}
    {path : Option String}
    (hinStep : BackendsInStep p (env, .resolve i accountHash deviceHash groupId watcherId path)) :
    callBoth pl pl' p (env, .resolve i accountHash deviceHash groupId watcherId path) = p ∧
      CallAlike pl pl' p (env, .resolve i accountHash deviceHash groupId watcherId path) := by
  obtain ⟨r, hr, hkey⟩ := hinStep
  obtain ⟨ids, hids, hids', hgroup, hwatcher⟩ := h.getServerIds_of_mem pl pl' hr hkey
  obtain ⟨g, hg, hown⟩ := h.linked.owned r hr
  have hne : r.groupId ≠ 0 := hown.2.2 ▸ h.group_ne_zero g hg
  have hensure : p.2.ensureServerIdsFor pl' i accountHash deviceHash groupId watcherId path =
      .ok ((r.groupId, r.id), p.2) := by
    rw [WatcherStore.ensureServerIdsFor,
      ensureServerIdsFor_of_some hids' hne (h.linked.watcher_ne_zero r hr) i deviceHash path]
    rfl
  have hmySql : (mySqlBackend pl').call env p.2
    (.resolve i accountHash deviceHash groupId watcherId path) =
      (p.2, .ids (.ok (r.groupId, r.id))) := by
    rw [Backend.call]
    dsimp only [mySqlBackend]
    rw [hensure]
  have hmemory : (memoryBackend pl).call env p.1
      (.resolve i accountHash deviceHash groupId watcherId path) = (p.1, .ids (.ok ids)) := by
    rw [Backend.call]
    dsimp only [memoryBackend]
    rw [hids, Option.getD_some]
  have hboth : callBoth pl pl' p (env, .resolve i accountHash deviceHash groupId watcherId path) =
      p := by
    rw [callBoth, hmySql, hmemory]
  refine ⟨hboth, .of_answers (fun _ _ heq => GroupCall.noConfusion heq) ?_⟩
  rw [hboth, hmySql, hmemory]
  exact ⟨hgroup, hwatcher⟩

/-- A registration that is refused. -/
theorem handleRegister_refused {σ : Type} (st : WatcherStorage σ) (i : GroupRequestInputs) (s : σ)
    (req : WatcherGroupRequest) {status : Status}
    (h : validateDeviceIfRequired st env i.device req.accountHash req.deviceHash = .error status) :
    handleRegisterWatcherGroup st env i s req = .refused s status := by
  rw [handleRegisterWatcherGroup, h]

theorem handleRegister_rejected {σ : Type} (st : WatcherStorage σ) (i : GroupRequestInputs) (s : σ)
    (req : WatcherGroupRequest) {msg : String}
    (h : validateDeviceIfRequired st env i.device req.accountHash req.deviceHash = .ok ())
    (hfolder : validateSentFolder env.rules req.watcherData = .error msg) :
    handleRegisterWatcherGroup st env i s req = .refused s (.invalidArgument msg) := by
  rw [handleRegisterWatcherGroup, h, hfolder]

/-- A registration that is accepted, on a storage that registers the group and creates the
    watcher. -/
theorem handleRegister_accepted {σ : Type} (st : WatcherStorage σ) (i : GroupRequestInputs)
    (s s₁ s₂ : σ) (req : WatcherGroupRequest) {id : ℤ}
    (h : validateDeviceIfRequired st env i.device req.accountHash req.deviceHash = .ok ())
    (hfolder : validateSentFolder env.rules req.watcherData = .ok ())
    (hregister : st.registerWatcherGroup s i.write req.accountHash req.deviceHash
      (groupToRegister i.write.now req.accountHash req.groupId req.title) = .ok (id, s₁))
    (hcreate : (req.watcherData = none ∧ s₂ = s₁) ∨ ∃ data watcherId, req.watcherData = some data ∧
      st.createWatcherWithConditions s₁ i.watcher.create req.accountHash id data
        i.watcher.create.now.seconds = .ok (watcherId, s₂)) :
    (handleRegisterWatcherGroup st env i s req).store = s₂ ∧
      (handleRegisterWatcherGroup st env i s req).answer = .ok ⟨true, req.groupId, ""⟩ := by
  rw [handleRegisterWatcherGroup, h, hfolder]
  dsimp only
  rw [hregister]
  rcases hcreate with ⟨hdata, rfl⟩ | ⟨data, watcherId, hdata, hcreate⟩
  · rw [hdata]
    exact ⟨rfl, rfl⟩
  · rw [hdata]
    dsimp only
    rw [hcreate]
    exact ⟨rfl, rfl⟩

/-- What a registration that is accepted leaves: states that simulate each other, in which a
    watcher that came with it is found. -/
theorem Simulates.exists_registered (h : Simulates p) {i : GroupRequestInputs}
    {req : WatcherGroupRequest} (hundisturbed : Undisturbed p (env, .register i req))
    (hnumber : req.groupId = p.1.watcherGroups.nextKey)
    (hdevice : validateDeviceIfRequired (memoryStorage pl) env i.device req.accountHash
      req.deviceHash =
      .ok ())
    (hdevice' : validateDeviceIfRequired (mySqlStorage pl') env i.device req.accountHash
      req.deviceHash =
      .ok ())
    (hfolder : validateSentFolder env.rules req.watcherData = .ok ()) : ∃ d s, Simulates (d, s) ∧
      ((handleRegisterWatcherGroup (memoryStorage pl) env i p.1 req).store = d ∧
        (handleRegisterWatcherGroup (memoryStorage pl) env i p.1 req).answer =
          .ok ⟨true, req.groupId, ""⟩) ∧
      ((handleRegisterWatcherGroup (mySqlStorage pl') env i p.2 req).store = s ∧
        (handleRegisterWatcherGroup (mySqlStorage pl') env i p.2 req).answer =
          .ok ⟨true, req.groupId, ""⟩) ∧
      ∀ data, req.watcherData = some data →
        ∃ r ∈ s.watchers, watcherKey r = (req.accountHash, req.groupId, data.watcherId) := by
  obtain ⟨-, hwrite, hcreate, hfreshGroup, hfreshWatcher⟩ := hundisturbed
  set group := groupToRegister i.write.now req.accountHash req.groupId req.title
  set d₁ := (p.1.registerWatcherGroup group).2
  set s₁ : WatcherStore := { p.2 with
    groups := p.2.groups ++ [newGroup i.write.nextId req.accountHash req.deviceHash group] }
  obtain ⟨hnone, hsim⟩ :
    (∀ r ∈ p.2.groups, ¬WatcherGroupRow.ClientGroup req.accountHash req.groupId r) ∧
    Simulates (d₁, s₁) := h.registerGroup group req.deviceHash rfl hnumber hfreshGroup
  have hmemory : (memoryStorage pl).registerWatcherGroup p.1 i.write req.accountHash
    req.deviceHash group =
      .ok (req.groupId, d₁) := by
    rw [hnumber]
    rfl
  have hmySql : (mySqlStorage pl').registerWatcherGroup p.2 i.write req.accountHash
    req.deviceHash group =
      .ok (req.groupId, s₁) := registerWatcherGroup_of_forall hwrite hnone
  rcases hdata : req.watcherData with _ | data
  · refine ⟨d₁, s₁, hsim, ?_, ?_, nofun⟩
    · exact handleRegister_accepted _ i p.1 d₁ d₁ req hdevice hfolder hmemory (.inl ⟨hdata, rfl⟩)
    · exact handleRegister_accepted _ i p.2 s₁ s₁ req hdevice' hfolder hmySql (.inl ⟨hdata, rfl⟩)
  · have hgroup : s₁.getServerGroupId pl' req.accountHash req.groupId = some (i.write.nextId : ℤ) :=
      hsim.linked.getServerGroupId_eq_some.2
        ⟨_, List.mem_append_right _ (List.mem_singleton_self _), rfl, rfl⟩
    have hnew : ∀ r ∈ s₁.watchers,
        ¬WatcherRow.ClientWatcher req.accountHash req.groupId data.watcherId r :=
      h.not_clientWatcher hnone
    have hid : lastInsertId i.watcher.create.nextId ≠ 0 := by
      rw [hfreshWatcher.lastInsertId]
      exact hfreshWatcher.ne_zero
    set d₂ := (d₁.createWatcherWithConditions i.watcher.create.now req.accountHash req.groupId data
      i.watcher.create.now.seconds).2
    obtain ⟨s₂, hcreated, hsim₂, hwatchers⟩ :
        ∃ s₂, s₁.createWatcherWithConditions pl' i.watcher.create
          req.accountHash req.groupId data i.watcher.create.now.seconds =
          .ok (lastInsertId i.watcher.create.nextId, s₂) ∧ Simulates (d₂, s₂) ∧
        s₂.watchers = s₁.watchers ++
          [WatcherStore.newWatcher i.watcher.create.nextId req.accountHash
          i.write.nextId req.groupId data i.watcher.create.now.seconds] :=
      ⟨_, createWatcherWithConditions_of_forall hcreate hgroup hnew hid,
        hsim.createWatcher hgroup hnew hfreshWatcher, rfl⟩
    refine ⟨d₂, s₂, hsim₂, ?_, ?_, fun data' hdata' => ?_⟩
    · exact handleRegister_accepted _ i p.1 d₁ d₂ req hdevice hfolder hmemory
        (.inr ⟨data, _, hdata, rfl⟩)
    · exact handleRegister_accepted _ i p.2 s₁ s₂ req hdevice' hfolder hmySql
        (.inr ⟨data, _, hdata, hcreated⟩)
    · obtain rfl := Option.some.inj hdata'
      rw [hwatchers]
      exact ⟨_, List.mem_append_right _ (List.mem_singleton_self _), rfl⟩

/-- A registration is refused by both, or accepted by both. -/
theorem Simulates.register_step (h : Simulates p) {i : GroupRequestInputs}
    {req : WatcherGroupRequest} (hundisturbed : Undisturbed p (env, .register i req))
    (hinStep : BackendsInStep p (env, .register i req)) :
    Simulates (callBoth pl pl' p (env, .register i req)) ∧
      CallAlike pl pl' p (env, .register i req) := by
  obtain ⟨hsame, hnumber⟩ := hinStep
  have hdevices := validateDevice_alike hsame pl pl' i.device
  have hrefused : ∀ status, handleRegisterWatcherGroup (memoryStorage pl) env i p.1 req =
    .refused p.1 status →
      handleRegisterWatcherGroup (mySqlStorage pl') env i p.2 req = .refused p.2 status →
      Simulates (callBoth pl pl' p (env, .register i req)) ∧
          CallAlike pl pl' p (env, .register i req) := by
    intro status hmemory hmySql
    have hmemory' : (memoryBackend pl).call env p.1 (.register i req) =
        (p.1, .group (.error status)) := by
      rw [Backend.call]
      dsimp only [memoryBackend]
      rw [hmemory]
      rfl
    have hmySql' : (mySqlBackend pl').call env p.2 (.register i req) =
        (p.2, .group (.error status)) := by
      rw [Backend.call]
      dsimp only [mySqlBackend]
      rw [hmySql]
      rfl
    have hboth : callBoth pl pl' p (env, .register i req) = p := by
      rw [callBoth, hmySql', hmemory']
    refine ⟨by rwa [hboth], ⟨?_, fun _ _ _ response _ _ hanswer => ?_⟩⟩
    · rw [hmySql', hmemory']
      rfl
    · rw [hmySql'] at hanswer
      cases hanswer
  rcases hdevice : validateDeviceIfRequired (mySqlStorage pl') env i.device req.accountHash
    req.deviceHash with status | ⟨⟩
  · exact hrefused status (handleRegister_refused _ i p.1 req (hdevices.trans hdevice))
      (handleRegister_refused _ i p.2 req hdevice)
  · rcases hfolder : validateSentFolder env.rules req.watcherData with msg | ⟨⟩
    · exact hrefused (.invalidArgument msg)
        (handleRegister_rejected _ i p.1 req (hdevices.trans hdevice) hfolder)
        (handleRegister_rejected _ i p.2 req hdevice hfolder)
    · obtain ⟨d, s, hsim, ⟨hstore, hanswer⟩, ⟨hstore', hanswer'⟩, hfound⟩ :=
        h.exists_registered hundisturbed (hnumber (admitted_of_ok hdevice) hfolder)
          (hdevices.trans hdevice) hdevice hfolder
      have hboth : callBoth pl pl' p (env, .register i req) = (d, s) := Prod.ext hstore hstore'
      refine ⟨by rwa [hboth],
        ⟨hanswer.trans hanswer'.symm, fun i' req' data response heq hdata _ => ?_⟩⟩
      obtain ⟨-, rfl⟩ := GroupCall.register.inj heq
      obtain ⟨r, hr, hkey⟩ := hfound data hdata
      obtain ⟨ids, hids, hids', -⟩ := hsim.getServerIds_of_mem pl pl' hr hkey
      rw [hboth, hids, hids']
      exact ⟨rfl, rfl⟩

/-- Every call in step keeps the simulation, and is answered alike. -/
theorem Simulates.step (h : Simulates p) {op : WatcherEnv × GroupCall}
    (hundisturbed : Undisturbed p op)
    (hinStep : BackendsInStep p op) : Simulates (callBoth pl pl' p op) ∧ CallAlike pl pl' p op := by
  obtain ⟨env, call⟩ := op
  rcases call with ⟨i, req⟩ | ⟨auth, i, req⟩ | ⟨i, req⟩ | ⟨i, accountHash, deviceHash, groupId,
    watcherId, path⟩
  · exact h.register_step hundisturbed hinStep
  · exact ⟨h, h.get_step hundisturbed hinStep⟩
  · exact h.delete_step hundisturbed hinStep
  · have hresolve : callBoth pl pl' p
        (env, .resolve i accountHash deviceHash groupId watcherId path) = p ∧ _ :=
      h.resolve_step hinStep
    exact ⟨by rwa [hresolve.1], hresolve.2⟩

end Calls

theorem Simulates.new : Simulates (.new, .empty) where
  linked := .empty
  group_ne_zero _ hr := absurd hr List.not_mem_nil
  numbered _ he := absurd he List.not_mem_nil
  groups _ := iff_of_false (fun ⟨_, he, _⟩ => List.not_mem_nil he) fun ⟨_, hr, _⟩ =>
    List.not_mem_nil hr
  inGroup _ he := absurd he List.not_mem_nil
  watcherKeys := .nil
  watchers _ := iff_of_false (fun ⟨_, he, _⟩ => List.not_mem_nil he) fun ⟨_, hr, _⟩ =>
    List.not_mem_nil hr

/-- In every run whose calls are in step, each call is answered alike, and the backends
    cannot be told apart in the state that is reached. -/
theorem backendsAlike_of_steps {pl pl' : Planner} {ops : List (WatcherEnv × GroupCall)}
    (hundisturbed : Guarded (callBoth pl pl') Undisturbed (.new, .empty) ops)
    (hinStep : Guarded (callBoth pl pl') BackendsInStep (.new, .empty) ops) :
    Guarded (callBoth pl pl') (CallAlike pl pl') (.new, .empty) ops ∧
      BackendsAlike pl pl' (run (callBoth pl pl') (.new, .empty) ops) := by
  have hboth := hundisturbed.and hinStep
  have hstep : ∀ p op, Undisturbed p op ∧ BackendsInStep p op → Simulates p →
      Simulates (callBoth pl pl' p op) :=
    fun p op hcall h => (h.step hcall.1 hcall.2).1
  constructor
  · exact (hboth.and_invariant hstep .new).imp fun p op hcall =>
      (hcall.2.step hcall.1.1 hcall.1.2).2
  · exact (hboth.invariant hstep .new).backendsAlike pl pl'

/-! ## Groups whose numbers are not their ids -/

/-- A registration of a group with the watcher 3. -/
def registerDocs (groupId : ℤ) : GroupCall :=
  .register (.at 10 1) ⟨"token", "kim", "laptop", groupId, "Docs", some {
    watcherId := 3
    folder := "~/Docs"
    unionConditions := []
    subtractingConditions := []
    recursivePath := true
    preset := false
    customType := ""
    updateMode := ""
    isActive := true
    extraJson := "" }⟩

/-- The states after it, on new backends. -/
def registeredDocs (groupId : ℤ) : MemoryData × WatcherStore :=
  callBoth .insertion .insertion (.new, .empty) (.sample, registerDocs groupId)

/-- The client asks for the group. -/
def getDocs (groupId : ℤ) : GroupCall :=
  .get (some ⟨true, "kim"⟩) (.at 20 2) ⟨"token", "kim", "laptop", groupId⟩

/-- An upload to the watcher 3 of the group. -/
def resolveDocs (groupId : ℤ) : GroupCall :=
  .resolve ⟨20, 2, 2, none, none⟩ "kim" "laptop" groupId 3 (some "~/Docs/a.txt")

/-- The group 7 has the id 1 on both: in memory it is not found, and neither is its watcher. -/
theorem memory_misses_group :
    ¬CallAlike .insertion .insertion (registeredDocs 7) (.sample, getDocs 7) ∧
      ¬CallAlike .insertion .insertion (registeredDocs 7) (.sample, resolveDocs 7) ∧
      ¬BackendsAlike .insertion .insertion (registeredDocs 7) := by
  have hmemory : (registeredDocs 7).1.getWatcherGroupByAccountAndId "kim" 7 = none := by
    decide +kernel
  have hmySql : ((registeredDocs 7).2.getWatcherGroupByAccountAndId .insertion ⟨20, 0⟩ "kim"
      7).isSome := by
    decide +kernel
  refine ⟨fun h => ?_, fun h => ?_, fun h => ?_⟩
  · have hanswer : handleGetWatcherGroup (memoryStorage .insertion) .sample
        (some ⟨true, "kim"⟩) (.at 20 2) (registeredDocs 7).1 ⟨"token", "kim", "laptop", 7⟩ =
      handleGetWatcherGroup (mySqlStorage .insertion) .sample (some ⟨true, "kim"⟩) (.at 20 2)
        (registeredDocs 7).2 ⟨"token", "kim", "laptop", 7⟩ := h.answers
    exact absurd hanswer (by decide +kernel)
  · obtain ⟨⟨e, he, r, -, hid, -, -⟩, -⟩ :
      SameGroupId (registeredDocs 7) 0 1 ∧ SameWatcherId _ 0 1 := h.answers
    have hkeys : ∀ e ∈ (registeredDocs 7).1.watcherGroups.entries, e.1 ≠ 0 := by decide +kernel
    exact hkeys e he hid
  · have hfound := h.found ⟨20, 0⟩ "kim" 7
    rw [hmemory] at hfound
    rcases hdata : (registeredDocs 7).2.getWatcherGroupByAccountAndId .insertion ⟨20, 0⟩
      "kim" 7 with _ | g
    · rw [hdata] at hmySql
      cases hmySql
    · rw [hdata] at hfound
      cases hfound

/-- The group 1 has the id 1. -/
theorem backendsAlike_registeredDocs :
    Guarded (callBoth .insertion .insertion) (CallAlike .insertion .insertion) (.new, .empty)
        [(.sample, registerDocs 1), (.sample, resolveDocs 1)] ∧
      BackendsAlike .insertion .insertion (run (callBoth .insertion .insertion) (.new, .empty)
        [(.sample, registerDocs 1), (.sample, resolveDocs 1)]) := by
  refine backendsAlike_of_steps ⟨⟨rfl, rfl, rfl, ?_, ?_⟩, trivial, trivial⟩
    ⟨⟨?_, fun _ _ => ?_⟩, ?_, trivial⟩
  · exact (by decide +kernel : FreshId [] 1)
  · exact (by decide +kernel : FreshId [] 1)
  · exact .inr (by decide +kernel)
  · rfl
  · exact (by decide +kernel : ∃ r ∈ (registeredDocs 1).2.watchers, watcherKey r = ("kim", 1, 3))

end CosmicSync
