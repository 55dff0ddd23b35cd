import CosmicSync.Handlers.WatcherUpdates
import CosmicSync.Library.Run

/-!
# Synchronising twice

A client sends its groups, with their watchers and the conditions of these, and the
server makes its tables agree. Sent once more, the same configuration should change
nothing, and a watcher should have the conditions that were sent with it.

Two branches get in the way. A watcher is looked for by its folder, in the group whose
*id* is the client's number of the group; and a watcher that is not found there and that
exists is written again, with its conditions added to those it has. Where every watcher
sent is found, or is new, both applications end in the same configuration.
-/

namespace CosmicSync

open Table Run WatcherStore WatcherTables

/-! ## Configurations -/

/-- The conditions of one type that come with a watcher. -/
def WatcherData.conditions (data : WatcherData) : ConditionType → List ConditionData
  | .union => data.unionConditions
  | .subtract => data.subtractingConditions

/-- The conditions of one type of a watcher. -/
def WatcherStore.shownConditions (s : WatcherStore) (r : WatcherRow)
    (conditionType : ConditionType) : List ConditionData :=
  conditionData conditionType (s.getWatcherConditions r.accountHash r.id)

/-- A group, apart from the time of its last update. -/
def shownGroup (g : WatcherGroupRow) : WatcherGroupRow := { g with updatedAt := 0 }

/-- The ids, the folder and the flags of a watcher. -/
structure ShownWatcher where
  id : ℤ
  accountHash : String
  localGroupId : ℤ
  watcherId : ℤ
  folder : String
  isRecursive : Bool
  isActive : Bool
  deriving DecidableEq

def shownWatcher (r : WatcherRow) : ShownWatcher where
  id := r.id
  accountHash := r.accountHash
  localGroupId := r.localGroupId
  watcherId := r.watcherId
  folder := r.folder
  isRecursive := r.isRecursive
  isActive := r.isActive

/-- The same groups, the same watchers, and for each of these the same conditions, in
    whatever order. -/
structure SameConfiguration (s s' : WatcherStore) : Prop where
  groups : s'.groups.map shownGroup = s.groups.map shownGroup
  watchers : s'.watchers.map shownWatcher = s.watchers.map shownWatcher
  conditions : ∀ r ∈ s.watchers, ∀ conditionType,
    (s'.shownConditions r conditionType).Perm (s.shownConditions r conditionType)

/-- The watcher has exactly the conditions that were sent with it. -/
def HasSentConditions (s : WatcherStore) (accountHash : String) (groupId : ℤ) (data : WatcherData) :
    Prop :=
  ∃ r ∈ s.watchers, watcherKey r = (accountHash, groupId, data.watcherId) ∧
    ∀ conditionType, (s.shownConditions r conditionType).Perm (data.conditions conditionType)

/-- The group is active and has the title that was sent, if one was. -/
def GroupAsSent (s : WatcherStore) (accountHash : String) (group : WatcherGroupData) : Prop :=
  ∃ g ∈ s.groups, WatcherGroupRow.ClientGroup accountHash group.groupId g ∧
    (group.title = "" ∨ g.title = group.title) ∧ g.isActive = true

section Configurations

variable {s s' s'' : WatcherStore} {accountHash : String} {groupId id time : ℤ} {data : WatcherData}
  {r r' : WatcherRow} {conditionType : ConditionType}

theorem conditionData_conditionsOf :
    conditionData conditionType (conditionsOf accountHash id groupId time data) =
      data.conditions conditionType := by
  rcases conditionType <;>
    simp [conditionData, conditionsOf, WatcherData.conditions, List.filter_map, Function.comp_def]

theorem conditionData_savedConditions :
    conditionData conditionType (savedConditions accountHash id groupId time data) =
      data.conditions conditionType := by
  rcases conditionType <;>
    simp [conditionData, savedConditions, conditionsOf, WatcherData.conditions, List.filter_map,
      Function.comp_def]

theorem conditionsOf_of_incomingEmpty (h : incomingEmpty data) :
    conditionsOf accountHash id groupId time data = [] := by
  obtain ⟨hunion, hsubtract⟩ := Bool.and_eq_true_iff.1 h
  rw [conditionsOf, List.isEmpty_iff.1 hunion, List.isEmpty_iff.1 hsubtract]
  rfl

theorem getWatcherConditions_eq (accountHash : String) (id : ℤ) :
    s.getWatcherConditions accountHash id =
      (s.conditionsWith id).filter (·.accountHash = accountHash) := by
  rw [getWatcherConditions, conditionsWith, List.filter_filter]
  refine List.filter_congr fun c _ => ?_
  by_cases hacc : c.accountHash = accountHash
  · simp [hacc]
  · simp [hacc]

theorem shownConditions_congr (h : s'.conditionsWith r.id = s.conditionsWith r.id) :
    s'.shownConditions r conditionType = s.shownConditions r conditionType := by
  rw [shownConditions, shownConditions, getWatcherConditions_eq, getWatcherConditions_eq, h]

/-- The conditions of a row are found by its id and its account. -/
theorem shownConditions_congr_row (hid : r'.id = r.id) (hacc : r'.accountHash = r.accountHash) :
    s.shownConditions r' conditionType = s.shownConditions r conditionType := by
  rw [shownConditions, shownConditions, hid, hacc]

theorem shownConditions_of_saved
    (h : s.conditionsWith r.id = savedConditions r.accountHash r.id groupId time data) :
    s.shownConditions r conditionType = data.conditions conditionType := by
  have hself : (savedConditions r.accountHash r.id groupId time data).filter
      (·.accountHash = r.accountHash) = savedConditions r.accountHash r.id groupId time data := by
    refine List.filter_eq_self.2 fun c hc => ?_
    simpa using (owner_of_mem_savedConditions hc).1
  rw [shownConditions, getWatcherConditions_eq, h, hself, conditionData_savedConditions]

/-- Conditions that are added to those of a watcher. -/
theorem shownConditions_of_append
    (h : s'.conditions = s.conditions ++ conditionsOf r.accountHash r.id groupId time data) :
    s'.shownConditions r conditionType =
      s.shownConditions r conditionType ++ data.conditions conditionType := by
  have hself : (conditionsOf r.accountHash r.id groupId time data).filter (fun c =>
      c.accountHash = r.accountHash ∧ c.watcherId = r.id) =
        conditionsOf r.accountHash r.id groupId time data :=
    List.filter_eq_self.2 fun c hc => by
      simpa using owner_of_mem_conditionsOf hc
  rw [shownConditions, getWatcherConditions, h, List.filter_append, hself, conditionData,
    List.filter_append, List.map_append]
  exact congrArg _ conditionData_conditionsOf

namespace SameConfiguration

theorem refl (s : WatcherStore) : SameConfiguration s s := ⟨rfl, rfl, fun _ _ _ => .refl _⟩

theorem exists_watcher (h : SameConfiguration s s') (hr : r ∈ s.watchers) :
    ∃ r' ∈ s'.watchers, shownWatcher r' = shownWatcher r := by
  have hmem : shownWatcher r ∈ s.watchers.map shownWatcher := List.mem_map_of_mem hr
  rw [← h.watchers] at hmem
  exact List.mem_map.1 hmem

theorem trans (h : SameConfiguration s s') (h' : SameConfiguration s' s'') :
    SameConfiguration s s'' where
  groups := h'.groups.trans h.groups
  watchers := h'.watchers.trans h.watchers
  conditions := by
    intro r hr conditionType
    obtain ⟨r', hr', hshown⟩ := h.exists_watcher hr
    obtain ⟨hid, hacc, -⟩ := ShownWatcher.mk.inj hshown
    have hperm := h'.conditions r' hr' conditionType
    rw [shownConditions_congr_row hid hacc, shownConditions_congr_row hid hacc] at hperm
    exact hperm.trans (h.conditions r hr conditionType)

/-- The keys are columns that are shown. -/
theorem uniqueKeys (h : SameConfiguration s s') (hkeys : UniqueKeys s.toWatcherTables) :
    UniqueKeys s'.toWatcherTables := by
  have hgroups : ∀ {κ : Type} (k : WatcherGroupRow → κ), (∀ g, k (shownGroup g) = k g) →
      s'.groups.map k = s.groups.map k := by
    intro κ k hk
    have := congrArg (List.map k) h.groups
    simpa [Function.comp_def, hk] using this
  have hwatchers : ∀ {κ : Type} (k : WatcherRow → κ) (k' : ShownWatcher → κ),
      (∀ r, k' (shownWatcher r) = k r) → s'.watchers.map k = s.watchers.map k := by
    intro κ k k' hk
    have := congrArg (List.map k') h.watchers
    simpa [Function.comp_def, hk] using this
  refine ⟨?_, ?_, ?_, ?_⟩
  · rw [Keyed, hgroups WatcherGroupRow.id fun _ => rfl]
    exact hkeys.groupIds
  · rw [Keyed, hgroups groupKey fun _ => rfl]
    exact hkeys.groupKeys
  · rw [Keyed, hwatchers WatcherRow.id ShownWatcher.id fun _ => rfl]
    exact hkeys.watcherIds
  · rw [Keyed,
      hwatchers watcherKey (fun w => (w.accountHash, w.localGroupId, w.watcherId)) fun _ => rfl]
    exact hkeys.watcherKeys

theorem hasSentConditions (h : SameConfiguration s s')
    (hsent : HasSentConditions s accountHash groupId data) :
    HasSentConditions s' accountHash groupId data := by
  obtain ⟨r, hr, hkey, hconditions⟩ := hsent
  obtain ⟨r', hr', hshown⟩ := h.exists_watcher hr
  obtain ⟨hid, hacc, hgroup, hwatcher, -⟩ := ShownWatcher.mk.inj hshown
  refine ⟨r', hr', ?_, fun conditionType => ?_⟩
  · rw [← hkey, watcherKey, watcherKey, hacc, hgroup, hwatcher]
  · rw [shownConditions_congr_row hid hacc]
    exact (h.conditions r hr conditionType).trans (hconditions conditionType)

theorem groupAsSent (h : SameConfiguration s s') {group : WatcherGroupData}
    (hsent : GroupAsSent s accountHash group) : GroupAsSent s' accountHash group := by
  obtain ⟨g, hg, hclient, htitle, hactive⟩ := hsent
  have hmem : shownGroup g ∈ s.groups.map shownGroup := List.mem_map_of_mem hg
  rw [← h.groups] at hmem
  obtain ⟨g', hg', hshown⟩ := List.mem_map.1 hmem
  obtain ⟨-, hnumber, hacc, -, htitle', -, -, hactive'⟩ := WatcherGroupRow.mk.inj hshown
  refine ⟨g', hg', ⟨hacc.trans hclient.1, hnumber.trans hclient.2⟩, ?_, hactive'.trans hactive⟩
  rw [htitle']
  exact htitle

end SameConfiguration

end Configurations

/-! ## One watcher -/

/-- The row at the folder of a watcher, in the group whose id is `groupId`. -/
def watcherAtFolder (pl : Planner) (accountHash : String) (groupId : ℤ) (s : WatcherStore)
    (data : WatcherData) : Option WatcherRow :=
  fetchOptional pl
    (WatcherRow.AtFolder accountHash groupId (normalizePathPreserveTilde data.folder))
    s.watchers

/-- The row that has the client's numbers of a watcher. -/
def watcherNumbered (pl : Planner) (accountHash : String) (groupId : ℤ) (s : WatcherStore)
    (data : WatcherData) : Option WatcherRow :=
  fetchOptional pl (WatcherRow.ClientWatcher accountHash groupId data.watcherId) s.watchers

/-- The id of a new watcher is fresh, also among the conditions. -/
def WatcherIdFresh (s : WatcherStore) (i : WatcherInputs) : Prop :=
  FreshId (s.watchers.map WatcherRow.id ++ s.conditions.map WatcherCondition.watcherId)
    i.create.nextId

/-- The conditions that are sent become those of the watcher: the one found by the folder
    is the watcher itself; or none is found, and the watcher is new, or has no conditions
    and is older than the call, or is as new and has them. -/
def AppliesConditions (pl : Planner) (accountHash : String) (groupId : ℤ) (s : WatcherStore)
    (i : WatcherInputs) (data : WatcherData) : Prop :=
  ¬incomingEmpty data →
    match watcherAtFolder pl accountHash groupId s data,
        watcherNumbered pl accountHash groupId s data with
    | some r, _ => r.localGroupId = groupId ∧ r.watcherId = data.watcherId
    | none, some r =>
      if AsNew i.create.now i.create.now.seconds r then
        ∀ conditionType, (s.shownConditions r conditionType).Perm (data.conditions conditionType)
      else s.getWatcherConditions r.accountHash r.id = []
    | none, none => True

/-- The watcher is left as it is: it is found by its folder, or it is as new as the call, or
    it is as it was sent and no conditions are. -/
def LeavesWatcher (pl : Planner) (accountHash : String) (groupId : ℤ) (s : WatcherStore)
    (i : WatcherInputs) (data : WatcherData) : Prop :=
  match watcherAtFolder pl accountHash groupId s data,
      watcherNumbered pl accountHash groupId s data with
  | some r, _ => incomingEmpty data ∨ (r.localGroupId = groupId ∧ r.watcherId = data.watcherId)
  | none, some r => AsNew i.create.now i.create.now.seconds r ∨
    (incomingEmpty data ∧ r.folder = normalizePathPreserveTilde data.folder ∧
      r.isRecursive = data.recursivePath ∧ r.isActive = true)
  | none, none => False

section Watcher

variable {pl : Planner} {env : WatcherEnv} {s s' : WatcherStore} {i : WatcherInputs}
  {accountHash : String} {groupId id : ℤ} {data : WatcherData} {r : WatcherRow}

theorem watcherKey_of_clientWatcher
    (h : WatcherRow.ClientWatcher accountHash groupId data.watcherId r) :
    watcherKey r = (accountHash, groupId, data.watcherId) :=
  watcherKey_eq.2 ⟨h.2.1, h.2.2, h.1⟩

theorem WatcherIdFresh.freshId (h : WatcherIdFresh s i) :
    FreshId (s.watchers.map WatcherRow.id) i.create.nextId :=
  ⟨h.1, h.2.1, fun hmem => h.2.2 (List.mem_append_left _ hmem)⟩

/-- Everything that a call for a watcher can do. The conditions are those before it, with
    those of the watcher `id` replaced or added to. -/
theorem createOrGetWatcher_cases (hfresh : WatcherIdFresh s i)
    (h : createOrGetWatcher (mySqlStorage pl) env i s accountHash groupId data = .ok (id, s')) :
    (∃ r, watcherAtFolder pl accountHash groupId s data = some r ∧
        s' = savedStore s i.save.now.seconds accountHash r.id groupId data) ∨
      (watcherAtFolder pl accountHash groupId s data = none ∧
        ((∃ r, watcherNumbered pl accountHash groupId s data = some r ∧
            AsNew i.create.now i.create.now.seconds r ∧ s' = s) ∨
          (∃ r row time, watcherNumbered pl accountHash groupId s data = some r ∧
            ¬AsNew i.create.now i.create.now.seconds r ∧
            (row.folder = normalizePathPreserveTilde data.folder ∧
              row.isRecursive = data.recursivePath ∧
              row.isActive = true) ∧
            s' = { s with
              watchers := updateWhere (WatcherRow.ClientWatcher accountHash groupId data.watcherId)
                (writeWatcher row) s.watchers
              conditions := s.conditions ++ conditionsOf accountHash r.id groupId time data }) ∨
          (∃ row time, watcherNumbered pl accountHash groupId s data = none ∧
            watcherKey row = (accountHash, groupId, data.watcherId) ∧ row.id = i.create.nextId ∧
            s' = { s with
              watchers := s.watchers ++ [row]
              conditions := s.conditions ++ conditionsOf accountHash row.id groupId time
                  data }))) := by
  rcases createOrGetWatcher_ok h with ⟨r, hr, -, rfl⟩ | ⟨hnone, hcreate⟩
  · exact .inl ⟨r, hr, rfl⟩
  · refine .inr ⟨hnone, ?_⟩
    obtain ⟨dbGroupId, -, hcases⟩ := createWatcherWithConditions_ok hcreate
    rcases hcases with ⟨r, hr, hnew, -, rfl⟩ | ⟨r, hr, hold, rfl, rfl⟩ | ⟨hnone', rfl, rfl⟩
    · exact .inl ⟨r, hr, hnew, rfl⟩
    · exact .inr (.inl ⟨r, _, _, hr, hold, ⟨rfl, rfl, rfl⟩, rfl⟩)
    · rw [hfresh.freshId.lastInsertId]
      exact .inr (.inr ⟨newWatcher i.create.nextId accountHash dbGroupId groupId data
        i.create.now.seconds, _, hnone', rfl, rfl, rfl⟩)

/-- The rows of the watchers stay, with their ids and numbers. -/
theorem exists_row_of_createOrGetWatcher (hfresh : WatcherIdFresh s i)
    (h : createOrGetWatcher (mySqlStorage pl) env i s accountHash groupId data = .ok (id, s'))
    (hr : r ∈ s.watchers) : ∃ r' ∈ s'.watchers, r'.id = r.id ∧ watcherKey r' = watcherKey r := by
  rcases createOrGetWatcher_cases hfresh h with ⟨r₀, -, rfl⟩ | ⟨-, ⟨r₀, -, -, rfl⟩ |
    ⟨r₀, row, time, -, -, -, rfl⟩ | ⟨row, time, -, -, -, rfl⟩⟩
  · exact ⟨r, by rwa [watchers_savedStore], rfl, rfl⟩
  · exact ⟨r, hr, rfl, rfl⟩
  · by_cases hclient : WatcherRow.ClientWatcher accountHash groupId data.watcherId r
    · exact ⟨writeWatcher row r, mem_updateWhere.2 ⟨r, hr, if_pos hclient⟩, rfl, rfl⟩
    · exact ⟨r, mem_updateWhere_of_not hr hclient, rfl, rfl⟩
  · exact ⟨r, List.mem_append_left _ hr, rfl, rfl⟩

theorem uniqueKeys_createOrGetWatcher (hkeys : UniqueKeys s.toWatcherTables)
    (hfresh : WatcherIdFresh s i)
    (h : createOrGetWatcher (mySqlStorage pl) env i s accountHash groupId data = .ok (id, s')) :
    UniqueKeys s'.toWatcherTables := by
  rcases createOrGetWatcher_cases hfresh h with ⟨r₀, -, rfl⟩ | ⟨-, ⟨r₀, -, -, rfl⟩ |
    ⟨r₀, row, time, -, -, -, rfl⟩ | ⟨row, time, hnone, hkey, hid, rfl⟩⟩
  · unfold savedStore
    split
    · exact hkeys
    · exact hkeys
  · exact hkeys
  · exact hkeys.writeWatchers row
  · refine hkeys.insertWatcher (fun r hr => ?_) fun r hr hr' => ?_
    · rw [hid]
      exact hfresh.freshId.ne_of_mem r hr
    · obtain ⟨hacc, hgroup, hwatcher⟩ := watcherKey_eq.1 (hr'.trans hkey)
      exact fetchOptional_eq_none.1 hnone r hr ⟨hwatcher, hacc, hgroup⟩

/-- The conditions of another watcher stay, and so do those of the watcher if none are sent. -/
theorem conditionsWith_of_createOrGetWatcher (hkeys : UniqueKeys s.toWatcherTables)
    (hfresh : WatcherIdFresh s i) (hguard : AppliesConditions pl accountHash groupId s i data)
    (h : createOrGetWatcher (mySqlStorage pl) env i s accountHash groupId data = .ok (id, s'))
    (hr : r ∈ s.watchers)
    (hother : incomingEmpty data ∨ watcherKey r ≠ (accountHash, groupId, data.watcherId)) :
    s'.conditionsWith r.id = s.conditionsWith r.id := by
  rcases createOrGetWatcher_cases hfresh h with ⟨r₀, hr₀, rfl⟩ | ⟨-, ⟨r₀, -, -, rfl⟩ |
    ⟨r₀, row, time, hr₀, -, -, rfl⟩ | ⟨row, time, -, -, hid, rfl⟩⟩
  · by_cases hempty : incomingEmpty data
    · rw [savedStore_of_empty hempty]
    · -- The row that is found is that of the watcher.
      have hown := hguard hempty
      rw [hr₀] at hown
      have hkey : watcherKey r₀ = (accountHash, groupId, data.watcherId) :=
        watcherKey_eq.2 ⟨(fetchOptional_some hr₀).2.1, hown⟩
      refine conditionsWith_savedStore_of_ne fun heq => hother.resolve_left hempty ?_
      rw [← hkeys.watcherIds.eq_of_mem (fetchOptional_some hr₀).1 hr heq, hkey]
  · rfl
  · rcases hother with hempty | hkey
    · rw [conditionsOf_of_incomingEmpty hempty, List.append_nil]
      rfl
    · obtain ⟨hmem, hclient⟩ := fetchOptional_some hr₀
      refine conditionsWith_append_of_ne rfl fun heq => hkey ?_
      rw [← hkeys.watcherIds.eq_of_mem hmem hr heq]
      exact watcherKey_of_clientWatcher hclient
  · refine conditionsWith_append_of_ne rfl fun heq => ?_
    exact hfresh.freshId.ne_of_mem r hr (heq.symm.trans hid)

/-- After the call the watcher has the conditions that were sent. -/
theorem hasSentConditions_of_createOrGetWatcher (hkeys : UniqueKeys s.toWatcherTables)
    (hfresh : WatcherIdFresh s i) (hguard : AppliesConditions pl accountHash groupId s i data)
    (hsent : ¬incomingEmpty data)
    (h : createOrGetWatcher (mySqlStorage pl) env i s accountHash groupId data = .ok (id, s')) :
    HasSentConditions s' accountHash groupId data := by
  have hown := hguard hsent
  rcases createOrGetWatcher_cases hfresh h with ⟨r, hr, rfl⟩ | ⟨hnone, ⟨r, hr, hnew, rfl⟩ |
    ⟨r, row, time, hr, hold, -, rfl⟩ | ⟨row, time, -, hkey, hid, rfl⟩⟩
  · rw [hr] at hown
    obtain ⟨hmem, hfolder⟩ := fetchOptional_some hr
    obtain rfl := hfolder.1
    refine ⟨r, by rwa [watchers_savedStore], watcherKey_eq.2 ⟨rfl, hown⟩, fun conditionType => ?_⟩
    rw [shownConditions_of_saved (conditionsWith_savedStore hsent)]
  · rw [hnone, hr] at hown
    obtain ⟨hmem, hclient⟩ := fetchOptional_some hr
    exact ⟨r, hmem, watcherKey_of_clientWatcher hclient, (if_pos hnew).mp hown⟩
  · rw [hnone, hr] at hown
    replace hown : s.getWatcherConditions r.accountHash r.id = [] := (if_neg hold).mp hown
    obtain ⟨hmem, hclient⟩ := fetchOptional_some hr
    obtain rfl := hclient.2.1
    refine ⟨writeWatcher row r, mem_updateWhere.2 ⟨r, hmem, if_pos hclient⟩,
      watcherKey_of_clientWatcher hclient, fun conditionType => ?_⟩
    have hrow : ∀ s : WatcherStore,
        s.shownConditions (writeWatcher row r) conditionType = s.shownConditions r conditionType :=
      fun _ => rfl
    rw [hrow, shownConditions_of_append rfl, shownConditions, hown]
    exact .refl _
  · obtain ⟨rfl, -, -⟩ := watcherKey_eq.1 hkey
    refine ⟨row, List.mem_append_right _ (List.mem_singleton_self row), hkey,
      fun conditionType => ?_⟩
    -- No condition has had the id of the new row.
    have hnone : s.getWatcherConditions row.accountHash row.id = [] := by
      refine List.filter_eq_nil_iff.2 fun c hc => ?_
      have hne : c.watcherId ≠ row.id := fun heq => hfresh.2.2
        (List.mem_append_right _ (hid ▸ heq ▸ List.mem_map_of_mem hc))
      simp [hne]
    rw [shownConditions_of_append rfl, shownConditions, hnone]
    exact .refl _

/-- What is sent for a watcher agrees with what is sent for another, if they are the same
    one and conditions come with the first. -/
def ConditionsAgree (groupId : ℤ) (data : WatcherData) (groupId' : ℤ) (data' : WatcherData) :
    Prop :=
  groupId = groupId' → data.watcherId = data'.watcherId → ¬incomingEmpty data →
    ∀ conditionType, (data.conditions conditionType).Perm (data'.conditions conditionType)

/-- Conditions sent for one watcher stay when the calls for others, and later ones for the
    watcher that send the same, follow. -/
theorem HasSentConditions.createOrGetWatcher (hkeys : UniqueKeys s.toWatcherTables)
    (hfresh : WatcherIdFresh s i) (hguard : AppliesConditions pl accountHash groupId s i data)
    (h : createOrGetWatcher (mySqlStorage pl) env i s accountHash groupId data = .ok (id, s'))
    {sentGroup : ℤ} {sent : WatcherData} (hhas : HasSentConditions s accountHash sentGroup sent)
    (hagree : ConditionsAgree groupId data sentGroup sent) :
    HasSentConditions s' accountHash sentGroup sent := by
  by_cases hsame : (groupId = sentGroup ∧ data.watcherId = sent.watcherId) ∧ ¬incomingEmpty data
  · obtain ⟨⟨rfl, hwatcher⟩, hempty⟩ := hsame
    obtain ⟨r, hr, hkey, hconditions⟩ :=
      hasSentConditions_of_createOrGetWatcher hkeys hfresh hguard hempty h
    refine ⟨r, hr, by rw [hkey, hwatcher], fun conditionType => ?_⟩
    exact (hconditions conditionType).trans (hagree rfl hwatcher hempty conditionType)
  · obtain ⟨r, hr, hkey, hconditions⟩ := hhas
    have hother : incomingEmpty data ∨ watcherKey r ≠ (accountHash, groupId, data.watcherId) := by
      by_contra hcon
      rw [not_or, not_not] at hcon
      obtain ⟨-, hkeys⟩ := Prod.mk.inj (hcon.2.symm.trans hkey)
      obtain ⟨hgroup, hwatcher⟩ := Prod.mk.inj hkeys
      exact hsame ⟨⟨hgroup, hwatcher⟩, hcon.1⟩
    obtain ⟨r', hr', hid, hkey'⟩ := exists_row_of_createOrGetWatcher hfresh h hr
    refine ⟨r', hr', hkey'.trans hkey, fun conditionType => ?_⟩
    rw [shownConditions_congr_row hid (Prod.mk.inj hkey').1, shownConditions_congr
      (conditionsWith_of_createOrGetWatcher hkeys hfresh hguard h hr hother)]
    exact hconditions conditionType

/-- A call that leaves the watcher as it is. -/
theorem sameConfiguration_of_createOrGetWatcher (hkeys : UniqueKeys s.toWatcherTables)
    (hfresh : WatcherIdFresh s i) (hguard : LeavesWatcher pl accountHash groupId s i data)
    (hsent : ¬incomingEmpty data → HasSentConditions s accountHash groupId data)
    (h : createOrGetWatcher (mySqlStorage pl) env i s accountHash groupId data = .ok (id, s')) :
    SameConfiguration s s' := by
  rw [LeavesWatcher] at hguard
  rcases createOrGetWatcher_cases hfresh h with ⟨r, hr, rfl⟩ | ⟨hnone, ⟨r, hr, hnew, rfl⟩ |
    ⟨r, row, time, hr, hold, ⟨hfolder, hrecursive, hactive⟩, rfl⟩ | ⟨row, time, hnone', -, -, rfl⟩⟩
  · by_cases hempty : incomingEmpty data
    · rw [savedStore_of_empty hempty]
      exact .refl s
    · rw [hr] at hguard
      obtain ⟨hmem, hfolder⟩ := fetchOptional_some hr
      obtain rfl := hfolder.1
      obtain ⟨r₀, hr₀, hkey, hconditions⟩ := hsent hempty
      -- The row that is found is the one that has the conditions already.
      have heq : r₀ = r := hkeys.watcherKeys.eq_of_mem hr₀ hmem
        (hkey.trans (watcherKey_eq.2 ⟨rfl, hguard.resolve_left hempty⟩).symm)
      rw [heq] at hconditions
      refine ⟨by rw [groups_savedStore], by rw [watchers_savedStore],
        fun r' hr' conditionType => ?_⟩
      by_cases hid : r.id = r'.id
      · rw [← hkeys.watcherIds.eq_of_mem hmem hr' hid,
          shownConditions_of_saved (conditionsWith_savedStore hempty)]
        exact (hconditions conditionType).symm
      · rw [shownConditions_congr (conditionsWith_savedStore_of_ne hid)]
  · exact .refl _
  · rw [hnone, hr] at hguard
    obtain ⟨hempty, hfolder', hrecursive', hactive'⟩ := hguard.resolve_left hold
    obtain ⟨hmem, hclient⟩ := fetchOptional_some hr
    refine ⟨rfl, map_updateWhere_of_mem fun r' hr' hclient' => ?_, fun r' hr' conditionType => ?_⟩
    · have heq : r' = r := hkeys.watcherKeys.eq_of_mem hr' hmem
        ((watcherKey_of_clientWatcher hclient').trans (watcherKey_of_clientWatcher hclient).symm)
      rw [heq, shownWatcher, writeWatcher, shownWatcher, hfolder, hrecursive, hactive,
        hfolder', hrecursive', hactive']
    · rw [shownConditions_congr]
      rw [conditionsOf_of_incomingEmpty hempty, List.append_nil]
      rfl
  · rw [hnone, hnone'] at hguard
    exact hguard.elim

end Watcher

/-! ## One group -/

/-- The title that is sent becomes that of the group: its row is older than the call, or
    has it already. -/
def AppliesTitle (pl : Planner) (accountHash : String) (s : WatcherStore) (i : GroupInputs)
    (group : WatcherGroupData) : Prop :=
  ∀ g, fetchOptional pl (WatcherGroupRow.ClientGroup accountHash group.groupId) s.groups = some g →
    g.updatedAt < i.write.now.seconds ∨
      ((group.title = "" ∨ g.title = group.title) ∧ g.isActive = true)

/-- Two titles that are sent for one group. -/
def TitlesAgree (group group' : WatcherGroupData) : Prop :=
  group.groupId = group'.groupId → group.title = "" ∨ group'.title = "" ∨ group.title = group'.title

section Group

variable {pl : Planner} {req : SyncConfigurationRequest} {accountHash : String}
  {p p' : SyncProgress WatcherStore} {i : GroupInputs} {group sent : WatcherGroupData}
  {follow : Option (String × WatcherUpdateType)}

/-- What a synchronisation does to the row of a group: nothing, after a conflict or because
    the row is as new; or it writes the row; or it makes a new one. -/
theorem syncGroupRow_cases (hkeys : UniqueKeys p.store.toWatcherTables)
    (h : syncGroupRow (mySqlStorage pl) req accountHash p i group = (p', follow)) :
    (follow = none ∧ p'.store = p.store) ∨
      (follow.isSome ∧
        ((∃ g, fetchOptional pl (WatcherGroupRow.ClientGroup accountHash group.groupId)
          p.store.groups =
            some g ∧ i.write.now.seconds ≤ g.updatedAt ∧ p'.store = p.store) ∨
          (∃ g row, fetchOptional pl (WatcherGroupRow.ClientGroup accountHash group.groupId)
            p.store.groups = some g ∧ row.title =
              (if group.title = "" then g.title else group.title) ∧
            row.isActive = true ∧ p'.store = { p.store with
              groups := updateWhere (WatcherGroupRow.ServerGroup accountHash g.id) (writeGroup row)
                p.store.groups }) ∨
          (fetchOptional pl (WatcherGroupRow.ClientGroup accountHash group.groupId)
            p.store.groups = none ∧
            ∃ row, row.groupId = group.groupId ∧ (group.title = "" ∨ row.title = group.title) ∧
              row.isActive = true ∧ p'.store = { p.store with
                groups := p.store.groups ++
                    [newGroup i.write.nextId accountHash req.deviceHash row] }))) := by
  unfold syncGroupRow at h
  split at h
  next =>
    cases h
    exact .inl ⟨rfl, rfl⟩
  next existing hexisting =>
    obtain ⟨-, hexisting⟩ := CallInputs.query_eq_ok.1 hexisting
    obtain ⟨g, hg, rfl⟩ := Option.map_eq_some_iff.1 hexisting
    split at h
    next =>
      split at h
      next =>
        cases h
        exact .inl ⟨rfl, rfl⟩
      next s' hupdate =>
        cases h
        refine .inr ⟨rfl, ?_⟩
        obtain ⟨hmem, hclient⟩ := fetchOptional_some hg
        have hserver : fetchOptional pl (WatcherGroupRow.ServerGroup accountHash g.id)
          p.store.groups =
            some g :=
          hkeys.groupIds.fetchOptional_eq_some pl hmem ⟨rfl, hclient.1⟩ fun _ _ hb => hb.1
        rcases updateWatcherGroup_ok hupdate with ⟨hnewer, rfl⟩ | ⟨-, rfl⟩
        · obtain ⟨u, hu, hnew⟩ := isNewer_eq_true.1 hnewer
          obtain rfl := Option.some.inj (hserver.symm.trans hu)
          exact .inl ⟨g, hg, hnew, rfl⟩
        · exact .inr (.inl ⟨g, _, hg, rfl, rfl, rfl⟩)
    next =>
      cases h
      exact .inl ⟨rfl, rfl⟩
  next hexisting =>
    obtain ⟨-, hexisting⟩ := CallInputs.query_eq_ok.1 hexisting
    have hnone := Option.map_eq_none_iff.1 hexisting
    dsimp only at h
    generalize htitle : (if group.title = "" then "Synced Group" else group.title) = title at h
    split at h
    next =>
      cases h
      exact .inl ⟨rfl, rfl⟩
    next id s' hregister =>
      cases h
      refine .inr ⟨rfl,
        .inr (.inr ⟨hnone, groupToRegister i.write.now accountHash group.groupId title, rfl,
        ?_, rfl, ?_⟩)⟩
      · by_cases hempty : group.title = ""
        · exact .inl hempty
        · exact .inr (htitle.symm.trans (if_neg hempty))
      · rcases (registerWatcherGroup_ok hregister).2 with ⟨hnewer, -⟩ | rfl
        · obtain ⟨u, hu, -⟩ := isNewer_eq_true.1 hnewer
          cases hnone.symm.trans hu
        · dsimp only
          rw [upsertGroup, groupToRegister, upsert_of_forall (fetchOptional_eq_none.1 hnone)]

theorem unchanged_of_syncGroupRow (hkeys : UniqueKeys p.store.toWatcherTables)
    (h : syncGroupRow (mySqlStorage pl) req accountHash p i group = (p', follow)) :
    p'.store.watchers = p.store.watchers ∧ p'.store.conditions = p.store.conditions := by
  rcases syncGroupRow_cases hkeys h with
    ⟨-, hstore⟩ | ⟨-, ⟨g, -, -, hstore⟩ | ⟨g, row, -, -, -, hstore⟩ |
    ⟨-, row, -, -, -, hstore⟩⟩ <;> rw [hstore] <;> exact ⟨rfl, rfl⟩

theorem HasSentConditions.syncGroupRow {groupId : ℤ} {data : WatcherData}
    (hkeys : UniqueKeys p.store.toWatcherTables)
    (h : syncGroupRow (mySqlStorage pl) req accountHash p i group = (p', follow))
    (hsent : HasSentConditions p.store accountHash groupId data) :
    HasSentConditions p'.store accountHash groupId data := by
  obtain ⟨hwatchers, hconditions⟩ := unchanged_of_syncGroupRow hkeys h
  obtain ⟨r, hr, hkey, hshown⟩ := hsent
  refine ⟨r, hwatchers ▸ hr, hkey, fun conditionType => ?_⟩
  rw [shownConditions_congr (s := p.store) (by rw [conditionsWith, hconditions, conditionsWith])]
  exact hshown conditionType

theorem uniqueKeys_syncGroupRow (hkeys : UniqueKeys p.store.toWatcherTables)
    (hfresh : FreshId (p.store.groups.map WatcherGroupRow.id) i.write.nextId)
    (h : syncGroupRow (mySqlStorage pl) req accountHash p i group = (p', follow)) :
    UniqueKeys p'.store.toWatcherTables := by
  rcases syncGroupRow_cases hkeys h with
    ⟨-, hstore⟩ | ⟨-, ⟨g, -, -, hstore⟩ | ⟨g, row, -, -, -, hstore⟩ |
    ⟨hnone, row, hnumber, -, -, hstore⟩⟩
  · rwa [hstore]
  · rwa [hstore]
  · rw [hstore]
    exact hkeys.writeGroups row
  · rw [hstore]
    refine hkeys.insertGroup hfresh.ne_of_mem fun g hg hkey => ?_
    obtain ⟨hacc, hgroup⟩ := groupKey_eq.1 hkey
    exact fetchOptional_eq_none.1 hnone g hg ⟨hacc, hgroup.trans hnumber⟩

/-- After the call the group is as it was sent. -/
theorem groupAsSent_of_syncGroupRow (hkeys : UniqueKeys p.store.toWatcherTables)
    (hguard : AppliesTitle pl accountHash p.store i group)
    (h : syncGroupRow (mySqlStorage pl) req accountHash p i group = (p', follow))
    (hfollow : follow.isSome) : GroupAsSent p'.store accountHash group := by
  rcases syncGroupRow_cases hkeys h with ⟨hnone, -⟩ | ⟨-, ⟨g, hg, hnew, hstore⟩ |
    ⟨g, row, hg, htitle, hactive, hstore⟩ | ⟨-, row, hnumber, htitle, hactive, hstore⟩⟩
  · rw [hnone] at hfollow
    cases hfollow
  · obtain ⟨hmem, hclient⟩ := fetchOptional_some hg
    rw [hstore]
    exact ⟨g, hmem, hclient, (hguard g hg).resolve_left (by omega)⟩
  · obtain ⟨hmem, hclient⟩ := fetchOptional_some hg
    rw [hstore]
    refine ⟨writeGroup row g, mem_updateWhere.2 ⟨g, hmem, if_pos ⟨rfl, hclient.1⟩⟩,
      hclient, ?_, hactive⟩
    by_cases hempty : group.title = ""
    · exact .inl hempty
    · exact .inr (htitle.trans (if_neg hempty))
  · rw [hstore]
    exact ⟨_, List.mem_append_right _ (List.mem_singleton_self _), ⟨rfl, hnumber⟩, htitle, hactive⟩

/-- A group that is as it was sent stays so. -/
theorem GroupAsSent.syncGroupRow (hkeys : UniqueKeys p.store.toWatcherTables)
    (hagree : TitlesAgree group sent)
    (h : syncGroupRow (mySqlStorage pl) req accountHash p i group = (p', follow))
    (hsent : GroupAsSent p.store accountHash sent) : GroupAsSent p'.store accountHash sent := by
  rcases syncGroupRow_cases hkeys h with ⟨-, hstore⟩ | ⟨-, ⟨g, -, -, hstore⟩ |
    ⟨g, row, hg, htitle, hactive, hstore⟩ | ⟨-, row, -, -, -, hstore⟩⟩
  · rwa [hstore]
  · rwa [hstore]
  · obtain ⟨g', hg', hclient', htitle', hactive'⟩ := hsent
    obtain ⟨hmem, hclient⟩ := fetchOptional_some hg
    rw [hstore]
    by_cases hserver : WatcherGroupRow.ServerGroup accountHash g.id g'
    · obtain rfl := hkeys.groupIds.eq_of_mem hg' hmem hserver.1
      refine ⟨writeGroup row g', mem_updateWhere.2 ⟨g', hg', if_pos hserver⟩, hclient', ?_, hactive⟩
      by_cases hempty : group.title = ""
      · rw [if_pos hempty] at htitle
        exact htitle'.imp_right htitle.trans
      · rw [if_neg hempty] at htitle
        have hnumbers : group.groupId = sent.groupId := hclient.2.symm.trans hclient'.2
        exact ((hagree hnumbers).resolve_left hempty).imp_right htitle.trans
    · exact ⟨g', mem_updateWhere_of_not hg' hserver, hclient', htitle', hactive'⟩
  · obtain ⟨g', hg', hrest⟩ := hsent
    rw [hstore]
    exact ⟨g', List.mem_append_left _ hg', hrest⟩

/-- A call for a group that is as it is sent. -/
theorem sameConfiguration_of_syncGroupRow (hkeys : UniqueKeys p.store.toWatcherTables)
    (hsent : GroupAsSent p.store accountHash group)
    (h : syncGroupRow (mySqlStorage pl) req accountHash p i group = (p', follow)) :
    SameConfiguration p.store p'.store := by
  obtain ⟨g', hg', hclient', htitle', hactive'⟩ := hsent
  rcases syncGroupRow_cases hkeys h with ⟨-, hstore⟩ | ⟨-, ⟨g, -, -, hstore⟩ |
    ⟨g, row, hg, htitle, hactive, hstore⟩ | ⟨hnone, row, -, -, -, -⟩⟩
  · rw [hstore]
    exact .refl _
  · rw [hstore]
    exact .refl _
  · obtain ⟨hmem, hclient⟩ := fetchOptional_some hg
    have heq : g' = g := hkeys.groupKeys.eq_of_mem hg' hmem
      ((groupKey_eq.2 hclient').trans (groupKey_eq.2 hclient).symm)
    rw [heq] at htitle' hactive'
    have hrow : row.title = g.title := by
      by_cases hempty : group.title = ""
      · rw [htitle, if_pos hempty]
      · rw [htitle, if_neg hempty, htitle'.resolve_left hempty]
    rw [hstore]
    refine ⟨map_updateWhere_of_mem fun u hu hserver => ?_, rfl, fun _ _ _ => .refl _⟩
    rw [hkeys.groupIds.eq_of_mem hu hmem hserver.1, shownGroup, writeGroup, shownGroup,
      hrow, hactive, hactive']
  · exact absurd hclient' (fetchOptional_eq_none.1 hnone g' hg')

end Group

/-! ## The loops -/

/-- Conditions on the calls for the groups and for the watchers, on the state from which
    each of them starts. -/
structure CallConditions where
  group : WatcherStore → GroupInputs → WatcherGroupData → Prop
  watcher : ℤ → WatcherStore → WatcherInputs → WatcherData → Prop

/-- The ids of new rows are fresh. -/
def freshIds : CallConditions where
  group s i _ := FreshId (s.groups.map WatcherGroupRow.id) i.write.nextId
  watcher _ s i _ := WatcherIdFresh s i

/-- What is sent is applied. -/
def applies (pl : Planner) (accountHash : String) : CallConditions where
  group := AppliesTitle pl accountHash
  watcher := AppliesConditions pl accountHash

/-- The watchers are left as they are. -/
def leaves (pl : Planner) (accountHash : String) : CallConditions where
  group _ _ _ := True
  watcher := LeavesWatcher pl accountHash

def CallConditions.and (C C' : CallConditions) : CallConditions where
  group s i group := C.group s i group ∧ C'.group s i group
  watcher groupId s i data := C.watcher groupId s i data ∧ C'.watcher groupId s i data

section Loops

variable (pl : Planner) (env : WatcherEnv) (req : SyncConfigurationRequest) (accountHash : String)

/-- The calls for a group and for its watchers meet the conditions. -/
def GroupMeets (C : CallConditions) (p : SyncProgress WatcherStore)
    (group : GroupInputs × WatcherGroupData) : Prop :=
  C.group p.store group.1 group.2 ∧
    ∀ p' failure updateType,
      syncGroupRow (mySqlStorage pl) req accountHash p group.1 group.2 =
        (p', some (failure, updateType)) →
      Guarded (syncWatcher (mySqlStorage pl) env failure accountHash group.2.groupId)
        (fun p watcher => C.watcher group.2.groupId p.store watcher.1 watcher.2) p'
          (group.1.zip group.2)

/-- Every call of a synchronisation meets the conditions. -/
def EveryCall (C : CallConditions) (i : SyncInputs) (s : WatcherStore) : Prop :=
  Guarded (syncGroup (mySqlStorage pl) env req accountHash) (GroupMeets pl env req accountHash C)
    ⟨s, 0, 0, 0, [], []⟩ (i.zip req)

variable {pl env req accountHash} {C : CallConditions} {p : SyncProgress WatcherStore} {groupId : ℤ}
  {failure : String} {watcher : WatcherInputs × WatcherData}
    {group : GroupInputs × WatcherGroupData}

theorem GroupMeets.and {C' : CallConditions} (h : GroupMeets pl env req accountHash C p group)
    (h' : GroupMeets pl env req accountHash C' p group) :
    GroupMeets pl env req accountHash (C.and C') p group :=
  ⟨⟨h.1, h'.1⟩, fun p' failure updateType hrow =>
    (h.2 p' failure updateType hrow).and (h'.2 p' failure updateType hrow)⟩

theorem EveryCall.and {C' : CallConditions} {i : SyncInputs} {s : WatcherStore}
    (h : EveryCall pl env req accountHash C i s) (h' : EveryCall pl env req accountHash C' i s) :
    EveryCall pl env req accountHash (C.and C') i s :=
  (Guarded.and h h').imp fun _ _ hboth => hboth.1.and hboth.2

theorem mem_of_mem_zip {i : GroupInputs} {data : WatcherGroupData} (h : watcher ∈ i.zip data) :
    watcher.2 ∈ data.watchers := by
  obtain ⟨k, hk, rfl⟩ := List.mem_mapIdx.1 h
  exact List.getElem_mem hk

theorem exists_mem_zip {group : WatcherGroupData} {data : WatcherData} (i : GroupInputs)
    (h : data ∈ group.watchers) : ∃ j, (j, data) ∈ i.zip group := by
  obtain ⟨k, hk, rfl⟩ := List.getElem_of_mem h
  exact ⟨i.watchers k, List.mem_mapIdx.2 ⟨k, hk, rfl⟩⟩

theorem mem_of_mem_syncZip {i : SyncInputs} (h : group ∈ i.zip req) :
    group.2 ∈ req.watcherGroups := by
  obtain ⟨k, hk, rfl⟩ := List.mem_mapIdx.1 h
  exact List.getElem_mem hk

theorem exists_mem_syncZip {group : WatcherGroupData} (i : SyncInputs)
    (h : group ∈ req.watcherGroups) :
    ∃ j, (j, group) ∈ i.zip req := by
  obtain ⟨k, hk, rfl⟩ := List.getElem_of_mem h
  exact ⟨i.groups k, List.mem_mapIdx.2 ⟨k, hk, rfl⟩⟩

/-- A call for a watcher succeeds, or is recorded as a conflict. -/
theorem syncWatcher_cases (pl : Planner) (env : WatcherEnv) (failure accountHash : String)
    (groupId : ℤ) (p : SyncProgress WatcherStore) (watcher : WatcherInputs × WatcherData) :
    (∃ id s', createOrGetWatcher (mySqlStorage pl) env watcher.1 p.store accountHash
      groupId watcher.2 =
        .ok (id, s') ∧
      (syncWatcher (mySqlStorage pl) env failure accountHash groupId p watcher).store = s' ∧
      (syncWatcher (mySqlStorage pl) env failure accountHash groupId p watcher).conflictDetails =
        p.conflictDetails) ∨
      ((syncWatcher (mySqlStorage pl) env failure accountHash groupId p watcher).store = p.store ∧
        (syncWatcher (mySqlStorage pl) env failure accountHash groupId p watcher).conflictDetails ≠
          []) := by
  unfold syncWatcher
  split
  next id s' hok => exact .inl ⟨id, s', hok, rfl, rfl⟩
  next => exact .inr ⟨rfl, by simp [SyncProgress.conflict]⟩

theorem syncWatcher_ok
    (h : (syncWatcher (mySqlStorage pl) env failure accountHash groupId p watcher).conflictDetails =
      []) :
    p.conflictDetails = [] ∧
      ∃ id, createOrGetWatcher (mySqlStorage pl) env watcher.1 p.store accountHash
        groupId watcher.2 =
        .ok (id, (syncWatcher (mySqlStorage pl) env failure accountHash groupId p
          watcher).store) := by
  rcases syncWatcher_cases pl env failure accountHash groupId p watcher with
    ⟨id, s', hok, hstore, hdetails⟩ | ⟨-, hne⟩
  · rw [hstore]
    exact ⟨hdetails.symm.trans h, id, hok⟩
  · exact absurd h hne

/-- A group and its watchers, if the call for the group succeeds. -/
theorem syncGroup_cases (pl : Planner) (env : WatcherEnv) (req : SyncConfigurationRequest)
    (accountHash : String) (p : SyncProgress WatcherStore)
    (group : GroupInputs × WatcherGroupData) :
    ∃ p' follow, syncGroupRow (mySqlStorage pl) req accountHash p group.1 group.2 = (p', follow) ∧
      ((follow = none ∧ syncGroup (mySqlStorage pl) env req accountHash p group = p') ∨
        ∃ failure updateType, follow = some (failure, updateType) ∧
          (syncGroup (mySqlStorage pl) env req accountHash p group).store =
            (run (syncWatcher (mySqlStorage pl) env failure accountHash group.2.groupId) p'
              (group.1.zip group.2)).store ∧
          (syncGroup (mySqlStorage pl) env req accountHash p group).conflictDetails =
            (run (syncWatcher (mySqlStorage pl) env failure accountHash group.2.groupId) p'
              (group.1.zip group.2)).conflictDetails) := by
  rcases hrow : syncGroupRow (mySqlStorage pl) req accountHash p group.1 group.2 with
    ⟨p', _ | ⟨failure, updateType⟩⟩
  · exact ⟨p', none, rfl, .inl ⟨rfl, by rw [syncGroup, hrow]⟩⟩
  · refine ⟨p', _, rfl, .inr ⟨failure, updateType, rfl, ?_, ?_⟩⟩
    · rw [syncGroup, hrow]
      rfl
    · rw [syncGroup, hrow]
      rfl

/-- What the call for the group and those for its watchers keep. -/
theorem syncGroup_invariant {I : WatcherStore → Prop}
    (h : GroupMeets pl env req accountHash C p group)
    (hrow : ∀ p' follow, syncGroupRow (mySqlStorage pl) req accountHash p group.1 group.2 =
      (p', follow) →
      C.group p.store group.1 group.2 → I p'.store)
    (hwatcher : ∀ s id s' watcher, watcher ∈ group.1.zip group.2 →
      C.watcher group.2.groupId s watcher.1 watcher.2 →
      createOrGetWatcher (mySqlStorage pl) env watcher.1 s accountHash group.2.groupId watcher.2 =
        .ok (id, s') → I s → I s') :
    I (syncGroup (mySqlStorage pl) env req accountHash p group).store := by
  obtain ⟨p', follow, hrow', hcases⟩ := syncGroup_cases pl env req accountHash p group
  have hI := hrow p' follow hrow' h.1
  rcases hcases with ⟨-, heq⟩ | ⟨failure, updateType, rfl, hstore, -⟩
  · rwa [heq]
  · rw [hstore]
    have hguarded := (h.2 p' failure updateType hrow').and
      (Guarded.of_forall (P := (· ∈ group.1.zip group.2)) fun _ hmem => hmem)
    refine hguarded.invariant (I := fun p => I p.store) (fun p watcher hG hI => ?_) hI
    rcases syncWatcher_cases pl env failure accountHash group.2.groupId p watcher with
      ⟨id, s', hok, heq, -⟩ | ⟨heq, -⟩
    · rw [heq]
      exact hwatcher p.store id s' watcher hG.2 hG.1 hok hI
    · rwa [heq]

/-- A call for a group succeeds, or is recorded as a conflict. -/
theorem conflictDetails_syncGroupRow {p' : SyncProgress WatcherStore} {i : GroupInputs}
    {data : WatcherGroupData} {follow : Option (String × WatcherUpdateType)}
    (hforce : req.forceUpdate = true ∨ ¬req.incremental = true)
    (h : syncGroupRow (mySqlStorage pl) req accountHash p i data = (p', follow)) :
    (follow.isSome ∧ p'.conflictDetails = p.conflictDetails) ∨ p'.conflictDetails ≠ [] := by
  unfold syncGroupRow at h
  split at h
  next =>
    cases h
    exact .inr (by simp [SyncProgress.conflict])
  next =>
    rw [if_pos hforce] at h
    split at h
    next =>
      cases h
      exact .inr (by simp [SyncProgress.conflict])
    next =>
      cases h
      exact .inl ⟨rfl, rfl⟩
  next =>
    dsimp only at h
    generalize (if data.title = "" then "Synced Group" else data.title) = title at h
    split at h
    next =>
      cases h
      exact .inr (by simp [SyncProgress.conflict])
    next =>
      cases h
      exact .inl ⟨rfl, rfl⟩

/-- Without conflicts all the calls have succeeded. -/
theorem syncGroup_ok (hforce : req.forceUpdate = true ∨ ¬req.incremental = true)
    (h : (syncGroup (mySqlStorage pl) env req accountHash p group).conflictDetails = []) :
    p.conflictDetails = [] ∧ ∃ p' failure updateType,
      syncGroupRow (mySqlStorage pl) req accountHash p group.1 group.2 =
        (p', some (failure, updateType)) ∧
      (syncGroup (mySqlStorage pl) env req accountHash p group).store =
        (run (syncWatcher (mySqlStorage pl) env failure accountHash group.2.groupId) p'
          (group.1.zip group.2)).store ∧
      Guarded (syncWatcher (mySqlStorage pl) env failure accountHash group.2.groupId)
        (fun p watcher => (syncWatcher (mySqlStorage pl) env failure accountHash group.2.groupId p
          watcher).conflictDetails = []) p' (group.1.zip group.2) := by
  obtain ⟨p', follow, hrow, hcases⟩ := syncGroup_cases pl env req accountHash p group
  rcases hcases with ⟨rfl, heq⟩ | ⟨failure, updateType, rfl, hstore, hdetails⟩
  · rw [heq] at h
    rcases conflictDetails_syncGroupRow hforce hrow with ⟨hsome, -⟩ | hne
    · cases hsome
    · exact absurd h hne
  · obtain ⟨hguarded, hp'⟩ := Guarded.of_final
      (P := fun p : SyncProgress WatcherStore => p.conflictDetails = [])
      (fun p watcher hok => (syncWatcher_ok hok).1) (hdetails.symm.trans h)
    refine ⟨?_, p', failure, updateType, hrow, hstore, hguarded⟩
    rcases conflictDetails_syncGroupRow hforce hrow with ⟨-, heq⟩ | hne
    · exact heq.symm.trans hp'
    · exact absurd hp' hne

/-! ## The first application -/

/-- The configuration that is sent does not contradict itself: what it says twice of a
    group or of a watcher agrees. -/
structure Consistent (req : SyncConfigurationRequest) : Prop where
  titles : ∀ group ∈ req.watcherGroups, ∀ group' ∈ req.watcherGroups, TitlesAgree group group'
  conditions : ∀ group ∈ req.watcherGroups, ∀ group' ∈ req.watcherGroups,
    ∀ data ∈ group.watchers, ∀ data' ∈ group'.watchers, ¬incomingEmpty data' →
    ConditionsAgree group.groupId data group'.groupId data'

/-- What a group and its watchers meet in the first application. -/
structure AppliedGroup (pl : Planner) (env : WatcherEnv) (req : SyncConfigurationRequest)
    (accountHash : String) (p : SyncProgress WatcherStore)
    (group : GroupInputs × WatcherGroupData) : Prop where
  mem : group.2 ∈ req.watcherGroups
  meets : GroupMeets pl env req accountHash (freshIds.and (applies pl accountHash)) p group
  ok : (syncGroup (mySqlStorage pl) env req accountHash p group).conflictDetails = []

/-- What a watcher of the group meets in the first application. -/
structure AppliedWatcher (pl : Planner) (env : WatcherEnv) (failure accountHash : String)
    (group : WatcherGroupData) (p : SyncProgress WatcherStore)
    (watcher : WatcherInputs × WatcherData) : Prop where
  mem : watcher.2 ∈ group.watchers
  fresh : WatcherIdFresh p.store watcher.1
  applies : AppliesConditions pl accountHash group.groupId p.store watcher.1 watcher.2
  ok : (syncWatcher (mySqlStorage pl) env failure accountHash group.groupId p
    watcher).conflictDetails = []

section AppliedWatcher

variable {sentIn : WatcherGroupData}

theorem AppliedWatcher.uniqueKeys (h : AppliedWatcher pl env failure accountHash sentIn p watcher)
    (hkeys : UniqueKeys p.store.toWatcherTables) :
    UniqueKeys (syncWatcher (mySqlStorage pl) env failure accountHash sentIn.groupId p
      watcher).store.toWatcherTables := by
  obtain ⟨-, id, hcreate⟩ := syncWatcher_ok h.ok
  exact uniqueKeys_createOrGetWatcher hkeys h.fresh hcreate

theorem AppliedWatcher.hasSentConditions
    (h : AppliedWatcher pl env failure accountHash sentIn p watcher)
    (hkeys : UniqueKeys p.store.toWatcherTables) (hsent : ¬incomingEmpty watcher.2) :
    HasSentConditions
      (syncWatcher (mySqlStorage pl) env failure accountHash sentIn.groupId p watcher).store
      accountHash sentIn.groupId watcher.2 := by
  obtain ⟨-, id, hcreate⟩ := syncWatcher_ok h.ok
  exact hasSentConditions_of_createOrGetWatcher hkeys h.fresh h.applies hsent hcreate

theorem AppliedWatcher.keeps (h : AppliedWatcher pl env failure accountHash sentIn p watcher)
    (hkeys : UniqueKeys p.store.toWatcherTables) {sentGroup : ℤ} {sent : WatcherData}
    (hagree : ConditionsAgree sentIn.groupId watcher.2 sentGroup sent)
    (hhas : HasSentConditions p.store accountHash sentGroup sent) :
    HasSentConditions
      (syncWatcher (mySqlStorage pl) env failure accountHash sentIn.groupId p watcher).store
      accountHash sentGroup sent := by
  obtain ⟨-, id, hcreate⟩ := syncWatcher_ok h.ok
  exact hhas.createOrGetWatcher hkeys h.fresh h.applies hcreate hagree

end AppliedWatcher

namespace AppliedGroup

theorem uniqueKeys (h : AppliedGroup pl env req accountHash p group)
    (hkeys : UniqueKeys p.store.toWatcherTables) :
    UniqueKeys (syncGroup (mySqlStorage pl) env req accountHash p group).store.toWatcherTables :=
  syncGroup_invariant (I := fun s => UniqueKeys s.toWatcherTables) h.meets
    (fun _ _ hrow hguard => uniqueKeys_syncGroupRow hkeys hguard.1 hrow)
    fun _ _ _ _ _ hguard hok hkeys => uniqueKeys_createOrGetWatcher hkeys hguard.1 hok

/-- The calls for the watchers of the group. -/
theorem watchers (h : AppliedGroup pl env req accountHash p group)
    (hforce : req.forceUpdate = true ∨ ¬req.incremental = true) : ∃ p' failure updateType,
    syncGroupRow (mySqlStorage pl) req accountHash p group.1 group.2 =
      (p', some (failure, updateType)) ∧
      (syncGroup (mySqlStorage pl) env req accountHash p group).store =
        (run (syncWatcher (mySqlStorage pl) env failure accountHash group.2.groupId) p'
          (group.1.zip group.2)).store ∧
      Guarded (syncWatcher (mySqlStorage pl) env failure accountHash group.2.groupId)
        (AppliedWatcher pl env failure accountHash group.2) p' (group.1.zip group.2) := by
  obtain ⟨-, p', failure, updateType, hrow, hstore, hguarded⟩ := syncGroup_ok hforce h.ok
  refine ⟨p', failure, updateType, hrow, hstore, ?_⟩
  have hmem : Guarded (syncWatcher (mySqlStorage pl) env failure accountHash group.2.groupId)
      (fun _ watcher => watcher.2 ∈ group.2.watchers) p' (group.1.zip group.2) :=
    Guarded.of_forall
      (P := fun watcher : WatcherInputs × WatcherData => watcher.2 ∈ group.2.watchers)
      fun _ => mem_of_mem_zip
  exact ((hmem.and (h.meets.2 p' failure updateType hrow)).and hguarded).imp
    fun _ _ hall => ⟨hall.1.1, hall.1.2.1, hall.1.2.2, hall.2⟩

theorem groupAsSent (h : AppliedGroup pl env req accountHash p group)
    (hforce : req.forceUpdate = true ∨ ¬req.incremental = true)
    (hkeys : UniqueKeys p.store.toWatcherTables) :
    GroupAsSent (syncGroup (mySqlStorage pl) env req accountHash p group).store
      accountHash group.2 := by
  obtain ⟨p₁, failure, updateType, hrow₁, -⟩ := h.watchers hforce
  refine syncGroup_invariant (I := fun s => GroupAsSent s accountHash group.2) h.meets
    (fun p' follow hrow hguard => ?_) fun s id s' watcher _ _ hok hsent => ?_
  · obtain ⟨rfl, rfl⟩ := Prod.mk.inj (hrow₁.symm.trans hrow)
    exact groupAsSent_of_syncGroupRow hkeys hguard.2 hrow rfl
  · rwa [GroupAsSent, groups_of_createOrGetWatcher hok]

theorem keepsGroup (h : AppliedGroup pl env req accountHash p group)
    (hkeys : UniqueKeys p.store.toWatcherTables) {sent : WatcherGroupData}
    (hagree : TitlesAgree group.2 sent) (hsent : GroupAsSent p.store accountHash sent) :
    GroupAsSent (syncGroup (mySqlStorage pl) env req accountHash p group).store
      accountHash sent := by
  refine syncGroup_invariant (I := fun s => GroupAsSent s accountHash sent) h.meets
    (fun p' follow hrow _ => hsent.syncGroupRow hkeys hagree hrow) fun s id s' watcher _ _
      hok hsent => ?_
  rwa [GroupAsSent, groups_of_createOrGetWatcher hok]

variable {data : WatcherData}

/-- A watcher of the group that is sent with conditions. -/
theorem hasSentConditions (h : AppliedGroup pl env req accountHash p group)
    (hforce : req.forceUpdate = true ∨ ¬req.incremental = true)
    (hkeys : UniqueKeys p.store.toWatcherTables) (hconsistent : Consistent req)
    (hdata : data ∈ group.2.watchers) (hsent : ¬incomingEmpty data) :
    HasSentConditions (syncGroup (mySqlStorage pl) env req accountHash p group).store accountHash
      group.2.groupId data := by
  obtain ⟨p', failure, updateType, hrow, hstore, hguarded⟩ := h.watchers hforce
  obtain ⟨j, hj⟩ := exists_mem_zip group.1 hdata
  rw [hstore]
  refine hguarded.established (I := fun p => UniqueKeys p.store.toWatcherTables)
    (Q := fun p => HasSentConditions p.store accountHash group.2.groupId data)
    (fun _ _ hwatcher hkeys => hwatcher.uniqueKeys hkeys)
    (fun _ hwatcher hkeys => hwatcher.hasSentConditions hkeys hsent)
    (fun _ watcher hwatcher hkeys hhas => hwatcher.keeps hkeys ?_ hhas) hj
    (uniqueKeys_syncGroupRow hkeys h.meets.1.1 hrow)
  exact hconsistent.conditions group.2 h.mem group.2 h.mem watcher.2 hwatcher.mem data hdata hsent

/-- A watcher of any group of the request that has the conditions sent with it. -/
theorem keepsConditions (h : AppliedGroup pl env req accountHash p group)
    (hforce : req.forceUpdate = true ∨ ¬req.incremental = true)
    (hkeys : UniqueKeys p.store.toWatcherTables) (hconsistent : Consistent req)
    {sentIn : WatcherGroupData} (hsentIn : sentIn ∈ req.watcherGroups)
    (hdata : data ∈ sentIn.watchers) (hsent : ¬incomingEmpty data)
    (hhas : HasSentConditions p.store accountHash sentIn.groupId data) :
    HasSentConditions (syncGroup (mySqlStorage pl) env req accountHash p group).store accountHash
      sentIn.groupId data := by
  obtain ⟨p', failure, updateType, hrow, hstore, hguarded⟩ := h.watchers hforce
  rw [hstore]
  have hstart : UniqueKeys p'.store.toWatcherTables ∧
      HasSentConditions p'.store accountHash sentIn.groupId data :=
    ⟨uniqueKeys_syncGroupRow hkeys h.meets.1.1 hrow, hhas.syncGroupRow hkeys hrow⟩
  refine (hguarded.invariant (I := fun p => UniqueKeys p.store.toWatcherTables ∧
    HasSentConditions p.store accountHash sentIn.groupId data)
      (fun _ watcher hwatcher hI => ?_) hstart).2
  refine ⟨hwatcher.uniqueKeys hI.1, hwatcher.keeps hI.1 ?_ hI.2⟩
  exact hconsistent.conditions group.2 h.mem sentIn hsentIn watcher.2 hwatcher.mem data hdata hsent

end AppliedGroup

/-- What was sent is there. -/
structure Applied (req : SyncConfigurationRequest) (accountHash : String) (s : WatcherStore) :
    Prop where
  uniqueKeys : UniqueKeys s.toWatcherTables
  groups : ∀ group ∈ req.watcherGroups, GroupAsSent s accountHash group
  conditions : ∀ group ∈ req.watcherGroups, ∀ data ∈ group.watchers, ¬incomingEmpty data →
    HasSentConditions s accountHash group.groupId data

theorem applied_syncGroups {i : SyncInputs} {s : WatcherStore}
    (hkeys : UniqueKeys s.toWatcherTables)
    (hforce : req.forceUpdate = true ∨ ¬req.incremental = true) (hconsistent : Consistent req)
    (hmeets : EveryCall pl env req accountHash (freshIds.and (applies pl accountHash)) i s)
    (hok : (syncGroups (mySqlStorage pl) env i req accountHash s).conflictDetails = []) :
    Applied req accountHash (syncGroups (mySqlStorage pl) env i req accountHash s).store := by
  have hclean : Guarded (syncGroup (mySqlStorage pl) env req accountHash)
      (fun p group => (syncGroup (mySqlStorage pl) env req accountHash p group).conflictDetails =
        [])
      ⟨s, 0, 0, 0, [], []⟩ (i.zip req) :=
    (Guarded.of_final (P := fun p : SyncProgress WatcherStore => p.conflictDetails = [])
      (fun p group hok => (syncGroup_ok hforce hok).1) hok).1
  have hmem : Guarded (syncGroup (mySqlStorage pl) env req accountHash)
      (fun _ group => group.2 ∈ req.watcherGroups) ⟨s, 0, 0, 0, [], []⟩ (i.zip req) :=
    Guarded.of_forall
      (P := fun group : GroupInputs × WatcherGroupData => group.2 ∈ req.watcherGroups)
      fun _ => mem_of_mem_syncZip
  have hguarded : Guarded (syncGroup (mySqlStorage pl) env req accountHash)
      (AppliedGroup pl env req accountHash) ⟨s, 0, 0, 0, [], []⟩ (i.zip req) :=
    ((hmem.and hmeets).and hclean).imp fun _ _ hall => ⟨hall.1.1, hall.1.2, hall.2⟩
  refine ⟨?_, fun sent hsent => ?_, fun sent hsent data hdata hne => ?_⟩
  · exact hguarded.invariant (I := fun p => UniqueKeys p.store.toWatcherTables)
      (fun _ _ hgroup hkeys => hgroup.uniqueKeys hkeys) hkeys
  · obtain ⟨j, hj⟩ := exists_mem_syncZip i hsent
    exact hguarded.established (I := fun p => UniqueKeys p.store.toWatcherTables)
      (Q := fun p => GroupAsSent p.store accountHash sent)
      (fun _ _ hgroup hkeys => hgroup.uniqueKeys hkeys)
      (fun _ hgroup hkeys => hgroup.groupAsSent hforce hkeys)
      (fun _ _ hgroup hkeys => hgroup.keepsGroup hkeys (hconsistent.titles _ hgroup.mem sent hsent))
        hj hkeys
  · obtain ⟨j, hj⟩ := exists_mem_syncZip i hsent
    exact hguarded.established (I := fun p => UniqueKeys p.store.toWatcherTables)
      (Q := fun p => HasSentConditions p.store accountHash sent.groupId data)
      (fun _ _ hgroup hkeys => hgroup.uniqueKeys hkeys)
      (fun _ hgroup hkeys => hgroup.hasSentConditions hforce hkeys hconsistent hdata hne)
      (fun _ _ hgroup hkeys => hgroup.keepsConditions hforce hkeys hconsistent hsent hdata hne) hj
        hkeys

/-! ## The second application -/

theorem Applied.of_sameConfiguration {s s' : WatcherStore} (h : Applied req accountHash s)
    (hsame : SameConfiguration s s') : Applied req accountHash s' :=
  ⟨hsame.uniqueKeys h.uniqueKeys, fun group hgroup => hsame.groupAsSent (h.groups group hgroup),
    fun group hgroup data hdata hne =>
      hsame.hasSentConditions (h.conditions group hgroup data hdata hne)⟩

/-- Where what is sent is there, a synchronisation that leaves the watchers changes nothing. -/
theorem Applied.sameConfiguration_syncGroups {i : SyncInputs} {s : WatcherStore}
    (h : Applied req accountHash s)
    (hmeets : EveryCall pl env req accountHash (freshIds.and (leaves pl accountHash)) i s) :
    SameConfiguration s (syncGroups (mySqlStorage pl) env i req accountHash s).store := by
  have hmem : Guarded (syncGroup (mySqlStorage pl) env req accountHash)
      (fun _ group => group.2 ∈ req.watcherGroups) ⟨s, 0, 0, 0, [], []⟩ (i.zip req) :=
    Guarded.of_forall
      (P := fun group : GroupInputs × WatcherGroupData => group.2 ∈ req.watcherGroups)
      fun _ => mem_of_mem_syncZip
  refine (hmem.and hmeets).invariant (I := fun p => SameConfiguration s p.store)
    (fun p group hgroup hsame => ?_) (.refl s)
  -- The row of the group first, then its watchers, one after the other.
  refine syncGroup_invariant (I := SameConfiguration s) hgroup.2 (fun p' follow hrow _ => ?_)
    fun s₁ id s₂ watcher hwatcher hguard hok hsame => ?_
  · have happlied := h.of_sameConfiguration hsame
    exact hsame.trans (sameConfiguration_of_syncGroupRow happlied.uniqueKeys
      (happlied.groups group.2 hgroup.1) hrow)
  · have happlied := h.of_sameConfiguration hsame
    exact hsame.trans (sameConfiguration_of_createOrGetWatcher happlied.uniqueKeys hguard.1 hguard.2
      (happlied.conditions group.2 hgroup.1 watcher.2 (mem_of_mem_zip hwatcher)) hok)

end Loops

/-! ## Both -/

/-- The tables after a synchronisation for the account of the token. -/
def syncedStore (pl : Planner) (env : WatcherEnv) (verified : VerificationResult) (i : SyncInputs)
    (s : WatcherStore) (presets : String → Option (List String)) (req : SyncConfigurationRequest) :
    WatcherStore :=
  (handleSyncConfiguration (mySqlStorage pl) env (some verified) i s presets req).1.store

section Both

variable {pl pl' : Planner} {env env' : WatcherEnv} {verified : VerificationResult}
  {i i' : SyncInputs} {s : WatcherStore} {presets presets' : String → Option (List String)}
  {req : SyncConfigurationRequest}

/-- A request that is answered has gone through its groups. -/
theorem handleSyncConfiguration_ok {response : SyncConfigurationResponse}
    (h : (handleSyncConfiguration (mySqlStorage pl) env (some verified) i s presets req).1.answer =
      .ok response) (hclean : response.conflictsDetected = false) :
    syncedStore pl env verified i s presets req =
        (syncGroups (mySqlStorage pl) env i req verified.accountHash s).store ∧
      (syncGroups (mySqlStorage pl) env i req verified.accountHash s).conflictDetails = [] := by
  unfold syncedStore
  unfold handleSyncConfiguration at h ⊢
  dsimp only at h ⊢
  rcases hdevice : validateDeviceIfRequired (mySqlStorage pl) env i.device verified.accountHash
    req.deviceHash with status | ⟨⟩
  · rw [hdevice] at h
    cases h
  · rw [hdevice] at h
    refine ⟨rfl, ?_⟩
    cases h
    dsimp only at hclean
    split at hclean
    next => simpa using hclean
    next => simp at hclean
    next => simpa using hclean

/-- A request that is refused leaves the tables as they are. -/
theorem syncedStore_cases (pl : Planner) (env : WatcherEnv) (verified : VerificationResult)
    (i : SyncInputs)
    (s : WatcherStore) (presets : String → Option (List String)) (req : SyncConfigurationRequest) :
    syncedStore pl env verified i s presets req = s ∨
      syncedStore pl env verified i s presets req =
        (syncGroups (mySqlStorage pl) env i req verified.accountHash s).store := by
  unfold syncedStore handleSyncConfiguration
  dsimp only
  rcases validateDeviceIfRequired (mySqlStorage pl) env i.device verified.accountHash
    req.deviceHash with status | ⟨⟩
  · exact .inl rfl
  · exact .inr rfl

/-- A configuration that is sent a second time changes nothing, and each watcher that comes
    with conditions has these, provided that what is sent does not contradict itself, that
    every call of the first application applies what it is given, and that every call of the
    second finds the watcher. -/
theorem syncsAlike_of_steps (hkeys : UniqueKeys s.toWatcherTables)
    (hforce : req.forceUpdate = true ∨ ¬req.incremental = true)
    {response : SyncConfigurationResponse}
    (hok : (handleSyncConfiguration (mySqlStorage pl) env (some verified) i s presets
      req).1.answer =
      .ok response) (hclean : response.conflictsDetected = false)
    (hfresh : EveryCall pl env req verified.accountHash freshIds i s)
    (hfresh' : EveryCall pl' env' req verified.accountHash freshIds i'
      (syncedStore pl env verified i s presets req))
    (hconsistent : Consistent req)
    (happlies : EveryCall pl env req verified.accountHash (applies pl verified.accountHash) i s)
    (hleaves : EveryCall pl' env' req verified.accountHash (leaves pl' verified.accountHash) i'
      (syncedStore pl env verified i s presets req)) :
    SameConfiguration (syncedStore pl env verified i s presets req)
        (syncedStore pl' env' verified i' (syncedStore pl env verified i s presets req)
          presets' req) ∧
      ∀ group ∈ req.watcherGroups, ∀ data ∈ group.watchers, ¬incomingEmpty data →
        HasSentConditions (syncedStore pl env verified i s presets req)
            verified.accountHash group.groupId data ∧
          HasSentConditions
            (syncedStore pl' env' verified i'
              (syncedStore pl env verified i s presets req) presets' req)
            verified.accountHash group.groupId data := by
  obtain ⟨hstore, hdetails⟩ := handleSyncConfiguration_ok hok hclean
  have happlied : Applied req verified.accountHash
      (syncedStore pl env verified i s presets req) := by
    rw [hstore]
    exact applied_syncGroups hkeys hforce hconsistent (hfresh.and happlies) hdetails
  have hsame : SameConfiguration (syncedStore pl env verified i s presets req)
      (syncedStore pl' env' verified i' (syncedStore pl env verified i s presets req)
          presets' req) := by
    rcases syncedStore_cases pl' env' verified i'
      (syncedStore pl env verified i s presets req) presets' req
      with heq | heq
    · rw [heq]
      exact .refl _
    · rw [heq]
      exact happlied.sameConfiguration_syncGroups (hfresh'.and hleaves)
  refine ⟨hsame, fun group hgroup data hdata hne => ?_⟩
  have hhas := happlied.conditions group hgroup data hdata hne
  exact ⟨hhas, hsame.hasSentConditions hhas⟩

end Both

/-- Calls at the time `now`. -/
def SyncInputs.at (now : ℤ) (nextId : ℕ) : SyncInputs where
  device := .at now nextId
  groups _ := ⟨.at now nextId, .at now nextId, fun _ =>
    ⟨.at now nextId, .at now nextId, .at now nextId⟩,
    .at now nextId⟩
  presets := .at now nextId
  listing := .at now nextId
  reading _ := .at now nextId
  readingOrder := .insertion
  now := now

/-- A group with one watcher, which has one condition. -/
def musicGroup (groupId : ℤ) : WatcherGroupData where
  groupId := groupId
  title := "Music"
  watchers := [{
    watcherId := 3
    folder := "~/Music"
    unionConditions := [⟨"extension", ["mp3"]⟩]
    subtractingConditions := []
    recursivePath := true
    preset := false
    customType := ""
    updateMode := ""
    isActive := true
    extraJson := "" }]
  lastUpdated := none

def musicRequest (groupId : ℤ) : SyncConfigurationRequest :=
  ⟨"token", "kim", "laptop", [musicGroup groupId], [], false, true⟩

/-- The tables after the request has been sent to a new server. -/
def musicStore (groupId : ℤ) : WatcherStore :=
  syncedStore .insertion .sample ⟨true, "kim"⟩ (.at 10 1) .empty (fun _ => none)
    (musicRequest groupId)

/-- The group 7 has the id 1: its watcher is not found, and has its condition twice. -/
theorem sync_twice_adds_conditions :
    (∃ response, (handleSyncConfiguration (mySqlStorage .insertion) .sample
        (some ⟨true, "kim"⟩) (.at 10 1) .empty (fun _ => none) (musicRequest 7)).1.answer =
        .ok response ∧
        response.conflictsDetected = false) ∧
      ¬SameConfiguration (musicStore 7) (syncedStore .insertion .sample ⟨true, "kim"⟩ (.at 20 2)
        (musicStore 7) (fun _ => none) (musicRequest 7)) := by
  refine ⟨⟨_, rfl, by decide +kernel⟩, fun h => ?_⟩
  have hlength : ∀ r ∈ (musicStore 7).watchers,
      ((syncedStore .insertion .sample ⟨true, "kim"⟩ (.at 20 2) (musicStore 7) (fun _ => none)
        (musicRequest 7)).shownConditions r .union).length =
          ((musicStore 7).shownConditions r .union).length :=
    fun r hr => (h.conditions r hr .union).length_eq
  exact absurd hlength (by decide +kernel)

/-- What the call for the only group of a request, and that for its only watcher, meet. -/
theorem everyCall_musicRequest {groupId : ℤ} {C : CallConditions} {i : SyncInputs}
    {s : WatcherStore}
    {p : SyncProgress WatcherStore} {failure : String} {updateType : WatcherUpdateType}
    (hrow : syncGroupRow (mySqlStorage .insertion) (musicRequest groupId) "kim" ⟨s, 0, 0, 0, [], []⟩
      (i.groups 0) (musicGroup groupId) = (p, some (failure, updateType)))
    (hgroup : C.group s (i.groups 0) (musicGroup groupId))
    (hwatcher : ∀ data ∈ (musicGroup groupId).watchers,
      C.watcher groupId p.store ((i.groups 0).watchers 0) data) :
    EveryCall .insertion .sample (musicRequest groupId) "kim" C i s := by
  refine ⟨⟨hgroup, fun p' failure' updateType' hrow' => ?_⟩, trivial⟩
  cases hrow.symm.trans hrow'
  exact ⟨hwatcher _ (List.mem_singleton_self _), trivial⟩

/-- The group 1 has the id 1. -/
theorem syncsAlike_musicStore :
    SameConfiguration (musicStore 1)
        (syncedStore .insertion .sample ⟨true, "kim"⟩ (.at 20 2) (musicStore 1) (fun _ => none)
          (musicRequest 1)) ∧
      ∀ group ∈ (musicRequest 1).watcherGroups, ∀ data ∈ group.watchers, ¬incomingEmpty data →
        HasSentConditions (musicStore 1) "kim" group.groupId data ∧
          HasSentConditions (syncedStore .insertion .sample ⟨true, "kim"⟩ (.at 20 2) (musicStore 1)
            (fun _ => none) (musicRequest 1)) "kim" group.groupId data := by
  have hkeys : UniqueKeys WatcherStore.empty.toWatcherTables := ⟨.nil, .nil, .nil, .nil⟩
  have hconsistent : Consistent (musicRequest 1) := by
    refine ⟨fun group hgroup group' hgroup' _ => ?_,
      fun group hgroup group' hgroup' data hdata data' hdata' _ _ _ _ conditionType => ?_⟩
    · obtain rfl := List.mem_singleton.1 hgroup
      obtain rfl := List.mem_singleton.1 hgroup'
      exact .inr (.inr rfl)
    · obtain rfl := List.mem_singleton.1 hgroup
      obtain rfl := List.mem_singleton.1 hgroup'
      obtain rfl := List.mem_singleton.1 hdata
      obtain rfl := List.mem_singleton.1 hdata'
      exact .refl _
  refine syncsAlike_of_steps hkeys (.inl rfl) rfl (by decide +kernel)
    (everyCall_musicRequest rfl ?_ ?_) (everyCall_musicRequest rfl ?_ ?_) hconsistent
    (everyCall_musicRequest rfl ?_ ?_) (everyCall_musicRequest rfl ?_ ?_)
  · exact (by decide +kernel : FreshId [] 1)
  · intro data hdata
    obtain rfl := List.mem_singleton.1 hdata
    exact (by decide +kernel : FreshId [] 1)
  · exact (by decide +kernel : FreshId [1] 2)
  · intro data hdata
    obtain rfl := List.mem_singleton.1 hdata
    exact (by decide +kernel : FreshId [1, 1] 2)
  · exact fun g hg => nomatch hg
  · intro data hdata
    obtain rfl := List.mem_singleton.1 hdata
    exact fun _ => trivial
  · trivial
  · intro data hdata
    obtain rfl := List.mem_singleton.1 hdata
    exact .inr ⟨rfl, rfl⟩

end CosmicSync
