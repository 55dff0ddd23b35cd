import CosmicSync.Handlers.WatcherHandler
import CosmicSync.Storage.WatcherIds

/-!
# What an update of a watcher group touches

A client updates one of its groups by the number it has for it. The handler looks the
group up by this number, but hands the same number to the storage as the id of the row
to write and, for a watcher that comes with the update, as the id of the group in which
to look for its folder. The two agree where the server has happened to give the group
the number of the client.

* `UpdatesOnly`: the group has the title that was sent, the other groups are as before.
* `updatesOnly_iff`: when a successful update does so.
-/

namespace CosmicSync

open Table WatcherStore WatcherTables

/-! ## The property -/

/-- A watcher of a group other than the client's group `groupId`. -/
def InOtherGroup (s : WatcherStore) (accountHash : String) (groupId : ℤ) (r : WatcherRow) : Prop :=
  ∃ g ∈ s.groups, ¬WatcherGroupRow.ClientGroup accountHash groupId g ∧ r.groupId = g.id

/-- From `s` to `s'` the client's group `groupId` has got the title, and nothing else has
    changed: no other group, none of its watchers and none of their conditions. -/
structure UpdatesOnly (accountHash : String) (groupId : ℤ) (title : String) (s s' : WatcherStore) :
    Prop where
  titled : ∀ g ∈ s'.groups, WatcherGroupRow.ClientGroup accountHash groupId g → g.title = title
  groups : deleteWhere (WatcherGroupRow.ClientGroup accountHash groupId) s'.groups =
    deleteWhere (WatcherGroupRow.ClientGroup accountHash groupId) s.groups
  watchers : ∀ g ∈ s.groups, ¬WatcherGroupRow.ClientGroup accountHash groupId g →
    s'.watchers.filter (·.groupId = g.id) = s.watchers.filter (·.groupId = g.id)
  conditions : ∀ r ∈ s.watchers, InOtherGroup s accountHash groupId r →
    s'.conditionsWith r.id = s.conditionsWith r.id

/-! ## The group -/

section Group

variable {pl : Planner} {s s' : WatcherStore} {i : CallInputs} {accountHash : String}
  {group : WatcherGroup} {groupId : ℤ}

/-- The write reaches the client's group, or is not needed; and reaches no other group. -/
structure WritesGroup (now : ℤ) (accountHash : String) (groupId : ℤ) (title : String)
    (groups : List WatcherGroupRow) : Prop where
  own : ∀ g ∈ groups, WatcherGroupRow.ClientGroup accountHash groupId g →
    g.title = title ∨ (g.id = groupId ∧ g.updatedAt < now)
  other : ∀ g ∈ groups, WatcherGroupRow.ServerGroup accountHash groupId g → g.groupId ≠ groupId →
    now ≤ g.updatedAt

theorem titled_and_groups_iff_of_skip (hkeys : Keyed WatcherGroupRow.id s.groups)
    {u : WatcherGroupRow} {now : ℤ} {title : String}
    (hu : fetchOptional pl (WatcherGroupRow.ServerGroup accountHash groupId) s.groups = some u)
    (hnew : now ≤ u.updatedAt) :
    (∀ g ∈ s.groups, WatcherGroupRow.ClientGroup accountHash groupId g → g.title = title) ↔
      WritesGroup now accountHash groupId title s.groups := by
  obtain ⟨humem, huserver⟩ := fetchOptional_some hu
  have hunique : ∀ g ∈ s.groups, g.id = groupId → g = u := fun g hg hid =>
    hkeys.eq_of_mem hg humem (hid.trans huserver.1.symm)
  constructor
  · intro htitled
    refine ⟨fun g hg hclient => .inl (htitled g hg hclient), fun g hg hserver _ => ?_⟩
    rw [hunique g hg hserver.1]
    exact hnew
  · intro hwrites g hg hclient
    rcases hwrites.own g hg hclient with htitle | ⟨hid, hold⟩
    · exact htitle
    · rw [hunique g hg hid] at hold
      omega

theorem titled_and_groups_iff_of_write
    (hold : ∀ u ∈ s.groups, WatcherGroupRow.ServerGroup accountHash group.id u →
      u.updatedAt < group.updatedAt) :
    ((∀ g ∈ updateWhere (WatcherGroupRow.ServerGroup accountHash group.id)
          (writeGroup group) s.groups,
        WatcherGroupRow.ClientGroup accountHash group.id g → g.title = group.title) ∧
      deleteWhere (WatcherGroupRow.ClientGroup accountHash group.id)
          (updateWhere (WatcherGroupRow.ServerGroup accountHash group.id)
            (writeGroup group) s.groups) =
        deleteWhere (WatcherGroupRow.ClientGroup accountHash group.id) s.groups) ↔
      WritesGroup group.updatedAt accountHash group.id group.title s.groups := by
  constructor
  · rintro ⟨htitled, hgroups⟩
    refine ⟨fun g hg hclient => ?_, fun g hg hserver hne => ?_⟩
    · by_cases hid : g.id = group.id
      · exact .inr ⟨hid, hold g hg ⟨hid, hclient.1⟩⟩
      · exact .inl (htitled g (mem_updateWhere_of_not hg fun hserver => hid hserver.1) hclient)
    · -- The row is among the others, and is written.
      have hclient : ¬WatcherGroupRow.ClientGroup accountHash group.id g :=
        fun hclient => hne hclient.2
      have hmem : g ∈ deleteWhere (WatcherGroupRow.ClientGroup accountHash group.id) s.groups :=
        mem_deleteWhere.2 ⟨hg, hclient⟩
      rw [← hgroups] at hmem
      obtain ⟨hmem, -⟩ := mem_deleteWhere.1 hmem
      rcases mem_updateWhere_cases hmem with ⟨-, hno⟩ | ⟨g₀, -, -, rfl⟩
      · exact absurd hserver hno
      · exact le_refl _
  · intro hwrites
    constructor
    · intro g hg hclient
      rcases mem_updateWhere_cases hg with ⟨hg, hno⟩ | ⟨g₀, -, -, rfl⟩
      · rcases hwrites.own g hg hclient with htitle | ⟨hid, -⟩
        · exact htitle
        · exact absurd ⟨hid, hclient.1⟩ hno
      · rfl
    · -- A row that is written is the client's.
      refine filter_updateWhere fun g hg hserver => ?_
      have hclient : WatcherGroupRow.ClientGroup accountHash group.id g := by
        refine ⟨hserver.2, ?_⟩
        by_contra hne
        have := hwrites.other g hg hserver hne
        have := hold g hg hserver
        omega
      exact ⟨fun h => h hclient, fun h => h hclient⟩

/-- What the storage does with the group of an update. -/
theorem titled_and_groups_iff (hkeys : Keyed WatcherGroupRow.id s.groups)
    (h : s.updateWatcherGroup pl i accountHash group = .ok ((), s')) :
    ((∀ g ∈ s'.groups, WatcherGroupRow.ClientGroup accountHash group.id g → g.title = group.title) ∧
      deleteWhere (WatcherGroupRow.ClientGroup accountHash group.id) s'.groups =
        deleteWhere (WatcherGroupRow.ClientGroup accountHash group.id) s.groups) ↔
      WritesGroup group.updatedAt accountHash group.id group.title s.groups := by
  have hone : ∀ u,
    fetchOptional pl (WatcherGroupRow.ServerGroup accountHash group.id) s.groups = some u →
      ∀ g ∈ s.groups, WatcherGroupRow.ServerGroup accountHash group.id g → g = u := by
    intro u hu g hg hserver
    obtain ⟨humem, huserver⟩ := fetchOptional_some hu
    exact hkeys.eq_of_mem hg humem (hserver.1.trans huserver.1.symm)
  rcases updateWatcherGroup_ok h with ⟨hnewer, rfl⟩ | ⟨hnewer, rfl⟩
  · obtain ⟨u, hu, hnew⟩ := isNewer_eq_true.1 hnewer
    rw [and_iff_left rfl]
    exact titled_and_groups_iff_of_skip hkeys hu hnew
  · refine titled_and_groups_iff_of_write fun g hg hserver => ?_
    obtain ⟨u, hu⟩ := exists_fetchOptional pl hg hserver
    rw [hone u hu g hg hserver]
    exact isNewer_eq_false.1 hnewer u hu

theorem unchanged_of_updateWatcherGroup
    (h : s.updateWatcherGroup pl i accountHash group = .ok ((), s')) :
    s'.watchers = s.watchers ∧ s'.conditions = s.conditions := by
  rcases updateWatcherGroup_ok h with ⟨-, rfl⟩ | ⟨-, rfl⟩
  · exact ⟨rfl, rfl⟩
  · exact ⟨rfl, rfl⟩

end Group

/-! ## The watcher -/

section Watcher

variable {pl : Planner} {env : WatcherEnv} {s s' s₁ : WatcherStore} {i : GroupRequestInputs}
  {accountHash : String} {groupId id time : ℤ} {data : WatcherData} {r : WatcherRow}

/-- No conditions are sent for the watcher, or those that it has. -/
def KeepsConditions (s : WatcherStore) (time : ℤ) (accountHash : String) (groupId : ℤ)
    (data : WatcherData) (r : WatcherRow) : Prop :=
  incomingEmpty data ∨ s.conditionsWith r.id = savedConditions accountHash r.id groupId time data

/-- The watcher that the update works on, found by its folder or else by its number, is not
    one of another group; or nothing is written to it. -/
def WritesWatcher (pl : Planner) (i : GroupRequestInputs) (accountHash : String) (groupId : ℤ)
    (s : WatcherStore) (data : WatcherData) : Prop :=
  match fetchOptional pl (WatcherRow.AtFolder accountHash groupId
      (normalizePathPreserveTilde data.folder)) s.watchers,
    fetchOptional pl (WatcherRow.ClientWatcher accountHash groupId data.watcherId) s.watchers with
  | some r, _ => InOtherGroup s accountHash groupId r →
    KeepsConditions s i.save.now.seconds accountHash groupId data r
  | none, some r => InOtherGroup s accountHash groupId r →
    AsNew i.watcher.create.now i.watcher.create.now.seconds r ∧
      KeepsConditions s i.save.now.seconds accountHash groupId data r
  | none, none => True

/-- Where the conditions of one watcher only may change. -/
theorem conditions_iff_of_ne (hkeys : UniqueKeys s.toWatcherTables) (hr : r ∈ s.watchers)
    (hne : ∀ id, r.id ≠ id → s'.conditionsWith id = s.conditionsWith id) :
    (∀ r' ∈ s.watchers, InOtherGroup s accountHash groupId r' →
        s'.conditionsWith r'.id = s.conditionsWith r'.id) ↔
      (InOtherGroup s accountHash groupId r → s'.conditionsWith r.id = s.conditionsWith r.id) := by
  constructor
  · exact fun h => h r hr
  · intro h r' hr' hother
    by_cases hid : r.id = r'.id
    · rw [← hkeys.watcherIds.eq_of_mem hr hr' hid] at hother ⊢
      exact h hother
    · exact hne r'.id hid

/-- The conditions of a watcher after a save, however they were before it. -/
theorem conditionsWith_savedStore_eq_iff {r : WatcherRow}
    (hsame : incomingEmpty data → s₁.conditionsWith r.id = s.conditionsWith r.id) :
    (savedStore s₁ time accountHash r.id groupId data).conditionsWith r.id = s.conditionsWith r.id ↔
      KeepsConditions s time accountHash groupId data r := by
  rw [KeepsConditions]
  by_cases hempty : incomingEmpty data
  · rw [savedStore_of_empty hempty, hsame hempty]
    exact iff_of_true rfl (.inl hempty)
  · rw [conditionsWith_savedStore hempty, or_iff_right hempty, eq_comm]

theorem applySentWatcher_ok {data : Option WatcherData} {ids ids' : List ℤ}
    (h : applySentWatcher (mySqlStorage pl) env i s accountHash groupId ids data = (s', .ok ids')) :
    (data = none ∧ s' = s) ∨ ∃ d id s₁, data = some d ∧
      createOrGetWatcher (mySqlStorage pl) env i.watcher s accountHash groupId d = .ok (id, s₁) ∧
      s' = savedStore s₁ i.save.now.seconds accountHash id groupId d := by
  unfold applySentWatcher at h
  split at h
  next =>
    cases h
    exact .inl ⟨rfl, rfl⟩
  next d =>
    split at h
    next => cases h
    next id s₁ hcreate =>
      refine .inr ⟨d, id, s₁, rfl, hcreate, ?_⟩
      dsimp only at h
      rw [savedStore]
      split at h
      next hempty =>
        cases h
        rw [if_pos hempty]
      next hempty =>
        split at h
        next => cases h
        next hsave =>
          cases h
          rw [if_neg hempty]
          exact saveWatcherConditions_ok hsave

theorem ne_of_not_clientGroup (hkeys : UniqueKeys s.toWatcherTables) {dbGroupId : ℤ}
    {g : WatcherGroupRow}
    (hgroup : s.getServerGroupId pl accountHash groupId = some dbGroupId) (hg : g ∈ s.groups)
    (hother : ¬WatcherGroupRow.ClientGroup accountHash groupId g) : dbGroupId ≠ g.id := by
  obtain ⟨g', hg', hkey, rfl⟩ := hkeys.getServerGroupId_eq_some.1 hgroup
  intro hid
  rw [← hkeys.groupIds.eq_of_mem hg' hg hid] at hother
  exact hother (groupKey_eq.1 hkey)

/-- A watcher that is written again leaves the group in which it was, if that is another. -/
theorem watchers_iff_of_write (hkeys : UniqueKeys s.toWatcherTables) {row : WatcherRow}
    (hgroup : s.getServerGroupId pl accountHash groupId = some row.groupId) (hr : r ∈ s.watchers)
    (hclient : WatcherRow.ClientWatcher accountHash groupId data.watcherId r) :
    (∀ g ∈ s.groups, ¬WatcherGroupRow.ClientGroup accountHash groupId g →
        (updateWhere (WatcherRow.ClientWatcher accountHash groupId data.watcherId)
          (writeWatcher row)
          s.watchers).filter (·.groupId = g.id) = s.watchers.filter (·.groupId = g.id)) ↔
      ¬InOtherGroup s accountHash groupId r := by
  constructor
  · rintro h ⟨g, hg, hother, hin⟩
    have hmem : r ∈ s.watchers.filter (·.groupId = g.id) :=
      List.mem_filter.2 ⟨hr, by simpa using hin⟩
    rw [← h g hg hother] at hmem
    obtain ⟨hmem, -⟩ := List.mem_filter.1 hmem
    rcases mem_updateWhere_cases hmem with ⟨-, hno⟩ | ⟨r₀, -, -, heq⟩
    · exact hno hclient
    · -- The row is now in the client's group.
      have : r.groupId = row.groupId := by rw [heq, writeWatcher]
      exact ne_of_not_clientGroup hkeys hgroup hg hother (this.symm.trans hin)
  · intro hin g hg hother
    refine filter_updateWhere fun r' hr' hclient' => ?_
    have heq : r' = r := hkeys.watcherKeys.eq_of_mem hr' hr (by
      rw [watcherKey_eq.2 ⟨hclient'.2.1, hclient'.2.2, hclient'.1⟩,
        watcherKey_eq.2 ⟨hclient.2.1, hclient.2.2, hclient.1⟩])
    rw [heq]
    exact ⟨fun h => hin ⟨g, hg, hother, h⟩, ne_of_not_clientGroup hkeys hgroup hg hother⟩

/-- What comes of the watcher that is sent with an update. -/
theorem watchers_and_conditions_iff (hkeys : UniqueKeys s.toWatcherTables)
    (hfresh : FreshId (s.watchers.map WatcherRow.id) i.watcher.create.nextId)
    (h : createOrGetWatcher (mySqlStorage pl) env i.watcher s accountHash groupId data =
      .ok (id, s₁)) :
    ((∀ g ∈ s.groups, ¬WatcherGroupRow.ClientGroup accountHash groupId g →
        s₁.watchers.filter (·.groupId = g.id) = s.watchers.filter (·.groupId = g.id)) ∧
      ∀ r ∈ s.watchers, InOtherGroup s accountHash groupId r →
        (savedStore s₁ i.save.now.seconds accountHash id groupId data).conditionsWith r.id =
          s.conditionsWith r.id) ↔
      WritesWatcher pl i accountHash groupId s data := by
  rw [WritesWatcher]
  rcases createOrGetWatcher_ok h with ⟨r, hr, rfl, rfl⟩ | ⟨hnone, hcreate⟩
  · -- Found by its folder: only its conditions are written.
    rw [hr, and_iff_right fun g _ _ => by rw [watchers_savedStore]]
    refine (conditions_iff_of_ne hkeys (fetchOptional_some hr).1 fun id hne => ?_).trans
      (imp_congr_right fun _ => conditionsWith_savedStore_eq_iff fun hempty => ?_)
    · rw [conditionsWith_savedStore_of_ne hne, conditionsWith_savedStore_of_ne hne]
    · rw [savedStore_of_empty hempty]
  · rw [hnone]
    obtain ⟨dbGroupId, hgroup, hcases⟩ := createWatcherWithConditions_ok hcreate
    rcases hcases with ⟨r, hr, hnew, rfl, rfl⟩ | ⟨r, hr, hold, rfl, rfl⟩ | ⟨hnone', rfl, rfl⟩
    · -- As new: only its conditions are written.
      rw [hr, and_iff_right fun g _ _ => rfl]
      refine (conditions_iff_of_ne hkeys (fetchOptional_some hr).1 fun id hne =>
        conditionsWith_savedStore_of_ne hne).trans (imp_congr_right fun _ => ?_)
      rw [conditionsWith_savedStore_eq_iff fun _ => rfl, and_iff_right hnew]
    · -- Written again.
      obtain ⟨hmem, hclient⟩ := fetchOptional_some hr
      have hright : (InOtherGroup s accountHash groupId r →
          AsNew i.watcher.create.now i.watcher.create.now.seconds r ∧
            KeepsConditions s i.save.now.seconds accountHash groupId data r) ↔
          ¬InOtherGroup s accountHash groupId r :=
        imp_congr_right fun _ => iff_of_false (fun h => hold h.1) id
      rw [hr]
      refine Iff.trans ?_ hright.symm
      rw [watchers_iff_of_write hkeys hgroup hmem hclient, and_iff_left_iff_imp]
      intro hin r' hr' hother
      have hne : r.id ≠ r'.id := fun hid => hin (hkeys.watcherIds.eq_of_mem hmem hr' hid ▸ hother)
      rw [conditionsWith_savedStore_of_ne hne]
      exact conditionsWith_append_of_ne rfl hne
    · -- A new watcher.
      rw [hnone']
      refine iff_of_true ⟨fun g hg hother => ?_, fun r hr _ => ?_⟩ trivial
      · have hne := ne_of_not_clientGroup hkeys hgroup hg hother
        rw [List.filter_append, List.filter_cons_of_neg (by simp [newWatcher, hne]),
          List.filter_nil, List.append_nil]
      · have hne : lastInsertId i.watcher.create.nextId ≠ r.id := by
          rw [hfresh.lastInsertId]
          exact (hfresh.ne_of_mem r hr).symm
        rw [conditionsWith_savedStore_of_ne hne]
        exact conditionsWith_append_of_ne rfl hne

end Watcher

/-! ## The request -/

section Request

variable {pl : Planner} {env : WatcherEnv} {s : WatcherStore} {i : GroupRequestInputs}
  {req : WatcherGroupRequest} {response : WatcherGroupResponse}

/-- The state after an update. -/
def updatedStore (pl : Planner) (env : WatcherEnv) (i : GroupRequestInputs) (s : WatcherStore)
    (req : WatcherGroupRequest) : WatcherStore :=
  (handleUpdateWatcherGroup (mySqlStorage pl) env i s req).store

/-- The calls of an update that succeeds. -/
theorem handleUpdateWatcherGroup_ok
    (h : (handleUpdateWatcherGroup (mySqlStorage pl) env i s req).answer = .ok response) :
    ∃ existing ids s₁,
      applySentWatcher (mySqlStorage pl) env i s req.accountHash req.groupId existing.watcherIds
        req.watcherData = (s₁, .ok ids) ∧
      s₁.updateWatcherGroup pl i.write req.accountHash
        (groupToUpdate i.write.now existing ids req) =
        .ok ((), updatedStore pl env i s req) := by
  rw [updatedStore]
  unfold handleUpdateWatcherGroup at h ⊢
  split at h
  next => cases h
  next =>
    split at h
    next => cases h
    next => cases h
    next existing hexisting =>
      split at h
      next => cases h
      next s₁ ids happly =>
        refine ⟨existing, ids, s₁, happly, ?_⟩
        dsimp only at h ⊢
        split at h
        next => cases h
        next s₂ hupdate => exact hupdate

/-- The update reaches its group and no other, and neither does the watcher sent with it. -/
structure ReachesGroup (pl : Planner) (i : GroupRequestInputs) (s : WatcherStore)
    (req : WatcherGroupRequest) : Prop where
  group : WritesGroup i.write.now.seconds req.accountHash req.groupId req.title s.groups
  watcher : ∀ data, req.watcherData = some data →
    WritesWatcher pl i req.accountHash req.groupId s data

/-- A successful update touches its group and no other iff, in the state before it, the
    write by the client's number reaches the group (or is not needed) and no other group,
    and the watcher it works on is not one of another group. -/
theorem updatesOnly_iff (hkeys : UniqueKeys s.toWatcherTables)
    (hfresh : FreshId (s.watchers.map WatcherRow.id) i.watcher.create.nextId)
    (h : (handleUpdateWatcherGroup (mySqlStorage pl) env i s req).answer = .ok response) :
    UpdatesOnly req.accountHash req.groupId req.title s (updatedStore pl env i s req) ↔
      ReachesGroup pl i s req := by
  obtain ⟨existing, ids, s₁, happly, hupdate⟩ := handleUpdateWatcherGroup_ok h
  have hgroups : s₁.groups = s.groups := by
    rcases applySentWatcher_ok happly with ⟨-, rfl⟩ | ⟨data, id, s₂, -, hcreate, rfl⟩
    · rfl
    · rw [groups_savedStore, groups_of_createOrGetWatcher hcreate]
  have hgroup := titled_and_groups_iff (hgroups ▸ hkeys.groupIds) hupdate
  rw [hgroups] at hgroup
  have hwatcher : ((∀ g ∈ s.groups, ¬WatcherGroupRow.ClientGroup req.accountHash req.groupId g →
        s₁.watchers.filter (·.groupId = g.id) = s.watchers.filter (·.groupId = g.id)) ∧
      ∀ r ∈ s.watchers, InOtherGroup s req.accountHash req.groupId r →
        s₁.conditionsWith r.id = s.conditionsWith r.id) ↔
      ∀ data, req.watcherData = some data →
          WritesWatcher pl i req.accountHash req.groupId s data := by
    rcases applySentWatcher_ok happly with ⟨hnone, rfl⟩ | ⟨data, id, s₂, hsome, hcreate, rfl⟩
    · rw [hnone]
      exact iff_of_true ⟨fun _ _ _ => rfl, fun _ _ _ => rfl⟩ fun _ h => nomatch h
    · rw [hsome, watchers_savedStore, watchers_and_conditions_iff hkeys hfresh hcreate]
      exact ⟨fun h data hdata => Option.some.inj hdata ▸ h, fun h => h data rfl⟩
  obtain ⟨hwatchers, hconditions⟩ := unchanged_of_updateWatcherGroup hupdate
  constructor
  · intro hupdates
    refine ⟨hgroup.1 ⟨hupdates.titled, hupdates.groups⟩,
      hwatcher.1 ⟨fun g hg hother => ?_, fun r hr hother => ?_⟩⟩
    · rw [← hwatchers, hupdates.watchers g hg hother]
    · rw [conditionsWith, ← hconditions]
      exact hupdates.conditions r hr hother
  · intro hreaches
    obtain ⟨htitled, hothers⟩ := hgroup.2 hreaches.group
    obtain ⟨hkept, hkept'⟩ := hwatcher.2 hreaches.watcher
    refine ⟨htitled, hothers, fun g hg hother => ?_, fun r hr hother => ?_⟩
    · rw [hwatchers, hkept g hg hother]
    · rw [conditionsWith, hconditions]
      exact hkept' r hr hother

end Request

/-! ## Two groups whose numbers are exchanged -/

/-- A server in production, on which Kim has a laptop. -/
def WatcherEnv.sample : WatcherEnv := ⟨false, .unset, [⟨"kim", "laptop", true⟩], []⟩

/-- Calls at the time `now` that do not fail. -/
def CallInputs.at (now : ℤ) (nextId : ℕ) : CallInputs := ⟨⟨now, 0⟩, nextId, none⟩

/-- A request at the time `now`. -/
def GroupRequestInputs.at (now : ℤ) (nextId : ℕ) : GroupRequestInputs where
  device := .at now nextId
  lookup := .at now nextId
  write := .at now nextId
  watcher := ⟨.at now nextId, .at now nextId, .at now nextId⟩
  save := .at now nextId
  broadcast := .at now nextId

/-- The tables after the groups with the client's numbers `first` and `second` have been
    registered: their ids are 1 and 2. -/
def registeredGroups (first second : ℤ) : WatcherStore :=
  Run.run (applyIdOp .insertion) .empty
    [.register (.at 10 1) "kim" "laptop" (groupToRegister ⟨10, 0⟩ "kim" first "Music"),
      .register (.at 11 2) "kim" "laptop" (groupToRegister ⟨11, 0⟩ "kim" second "Docs")]

/-- A request to change the title of a group. -/
def titleRequest (groupId : ℤ) (title : String) : WatcherGroupRequest :=
  ⟨"token", "kim", "laptop", groupId, title, none⟩

/-- An update of the group 2 gives its title to the group 1. -/
theorem update_writes_other_group :
    (handleUpdateWatcherGroup (mySqlStorage .insertion) .sample (.at 20 3) (registeredGroups 2 1)
        (titleRequest 2 "Photos")).answer = .ok ⟨true, 2, ""⟩ ∧
      (updatedStore .insertion .sample (.at 20 3) (registeredGroups 2 1)
        (titleRequest 2 "Photos")).groups.map
        (fun g => (g.id, g.groupId, g.title)) = [(1, 2, "Music"), (2, 1, "Photos")] ∧
      ¬UpdatesOnly "kim" 2 "Photos" (registeredGroups 2 1)
        (updatedStore .insertion .sample (.at 20 3) (registeredGroups 2 1)
          (titleRequest 2 "Photos")) := by
  refine ⟨by decide +kernel, by decide +kernel, fun h => ?_⟩
  have htitled : ∀ g ∈ (updatedStore .insertion .sample (.at 20 3) (registeredGroups 2 1)
      (titleRequest 2 "Photos")).groups, WatcherGroupRow.ClientGroup "kim" 2 g →
          g.title = "Photos" :=
    h.titled
  exact absurd htitled (by decide +kernel)

theorem updatesOnly_registeredGroups :
    UniqueKeys (registeredGroups 1 2).toWatcherTables ∧
      UpdatesOnly "kim" 2 "Photos" (registeredGroups 1 2)
        (updatedStore .insertion .sample (.at 20 3) (registeredGroups 1 2)
          (titleRequest 2 "Photos")) := by
  have hkeys : UniqueKeys (registeredGroups 1 2).toWatcherTables :=
    ⟨by unfold Keyed; decide +kernel, by unfold Keyed; decide +kernel,
      by unfold Keyed; decide +kernel, by unfold Keyed; decide +kernel⟩
  have hok : (handleUpdateWatcherGroup (mySqlStorage .insertion) .sample (.at 20 3)
      (registeredGroups 1 2) (titleRequest 2 "Photos")).answer = .ok ⟨true, 2, ""⟩ := by
    decide +kernel
  refine ⟨hkeys, (updatesOnly_iff hkeys (by decide +kernel) hok).2 ⟨⟨?_, ?_⟩, fun _ h => nomatch h⟩⟩
  · decide +kernel
  · decide +kernel

end CosmicSync
