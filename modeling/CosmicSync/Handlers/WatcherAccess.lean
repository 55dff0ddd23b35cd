import CosmicSync.Handlers.WatcherSync

/-!
# Who may change watcher groups

A request that changes the watcher groups, watchers or conditions of an account should
carry a valid token of this account. Every request changes rows of one account only
(`Confined`): the one that it names, or, for a synchronisation, the one that its token is
answered with.

The first three kinds of request carry a token that no one looks at, and a
synchronisation does not look at whether its token is valid. What protects an account is
then only that its devices are known.
-/

namespace CosmicSync

open Table Run WatcherStore WatcherTables

/-! ## The rows of an account -/

/-- The groups, the watchers and the conditions of an account. -/
def WatcherStore.ofAccount (s : WatcherStore) (accountHash : String) : WatcherStore where
  groups := s.groups.filter (·.accountHash = accountHash)
  watchers := s.watchers.filter (·.accountHash = accountHash)
  conditions := s.conditions.filter (·.accountHash = accountHash)

/-- From `s` to `s'` only rows of the account have changed. -/
def Confined (accountHash : String) (s s' : WatcherStore) : Prop :=
  ∀ other, other ≠ accountHash → s'.ofAccount other = s.ofAccount other

/-- The keys of the tables are unique, and a condition belongs to the account of its watcher. -/
structure Attributed (s : WatcherStore) : Prop extends UniqueKeys s.toWatcherTables where
  conditionOwner :
    ∀ c ∈ s.conditions, ∃ r ∈ s.watchers, r.id = c.watcherId ∧ r.accountHash = c.accountHash

section Rows

variable {pl : Planner} {env : WatcherEnv} {s s' s'' : WatcherStore}
  {accountHash deviceHash : String} {groupId id time : ℤ} {data : WatcherData} {r : WatcherRow}

namespace Confined

theorem refl (accountHash : String) (s : WatcherStore) : Confined accountHash s s := fun _ _ => rfl

theorem trans (h : Confined accountHash s s') (h' : Confined accountHash s' s'') :
    Confined accountHash s s'' :=
  fun other hne => (h' other hne).trans (h other hne)

/-- Table by table. -/
theorem mk
    (hgroups : ∀ other, other ≠ accountHash →
      s'.groups.filter (·.accountHash = other) = s.groups.filter (·.accountHash = other))
    (hwatchers : ∀ other, other ≠ accountHash →
      s'.watchers.filter (·.accountHash = other) = s.watchers.filter (·.accountHash = other))
    (hconditions : ∀ other, other ≠ accountHash →
      s'.conditions.filter (·.accountHash = other) = s.conditions.filter (·.accountHash = other)) :
    Confined accountHash s s' := by
  intro other hne
  rw [ofAccount, ofAccount, hgroups other hne, hwatchers other hne, hconditions other hne]

end Confined

/-- Conditions that are added for an account. -/
theorem filter_append_conditionsOf_of_ne {table : List WatcherCondition} {other : String}
    (hne : other ≠ accountHash) :
    (table ++ conditionsOf accountHash id groupId time data).filter (·.accountHash = other) =
      table.filter (·.accountHash = other) :=
  filter_append_of_forall fun _ hc heq => hne (heq.symm.trans (owner_of_mem_conditionsOf hc).1)

namespace Attributed

theorem accountHash_eq (h : Attributed s) (hr : r ∈ s.watchers) {c : WatcherCondition}
    (hc : c ∈ s.conditions) (hid : c.watcherId = r.id) : c.accountHash = r.accountHash := by
  obtain ⟨r', hr', hid', hacc⟩ := h.conditionOwner c hc
  rw [← hacc, h.watcherIds.eq_of_mem hr' hr (hid'.trans hid)]

/-- The conditions of a watcher are replaced, or stay. -/
theorem confined_savedStore (h : Attributed s) (hr : r ∈ s.watchers) :
    Confined r.accountHash s (savedStore s time r.accountHash r.id groupId data) := by
  unfold savedStore
  split
  next => exact .refl _ s
  next =>
    refine .mk (fun _ _ => rfl) (fun _ _ => rfl) fun other hne => ?_
    have hsaved : ∀ c ∈ savedConditions r.accountHash r.id groupId time data,
        ¬c.accountHash = other :=
      fun c hc heq => hne (heq.symm.trans (owner_of_mem_savedConditions hc).1)
    have hdeleted : ∀ c ∈ s.conditions, c.watcherId = r.id → ¬c.accountHash = other :=
      fun c hc hid heq => hne (heq.symm.trans (h.accountHash_eq hr hc hid))
    exact (filter_append_of_forall hsaved).trans (filter_deleteWhere hdeleted)

theorem savedStore (h : Attributed s) (hr : r ∈ s.watchers) :
    Attributed (savedStore s time r.accountHash r.id groupId data) := by
  unfold CosmicSync.savedStore
  split
  next => exact h
  next =>
    refine { h.toUniqueKeys with conditionOwner := fun c hc => ?_ }
    rcases List.mem_append.1 hc with hc | hc
    · exact h.conditionOwner c (mem_deleteWhere.1 hc).1
    · exact ⟨r, hr, (owner_of_mem_savedConditions hc).2.symm,
        (owner_of_mem_savedConditions hc).1.symm⟩

end Attributed

/-! ## A watcher -/

/-- The watcher that a call answers with is one of the account. -/
theorem exists_watcher_of_createOrGetWatcher {i : WatcherInputs} (hfresh : WatcherIdFresh s i)
    (h : createOrGetWatcher (mySqlStorage pl) env i s accountHash groupId data = .ok (id, s')) :
    ∃ r ∈ s'.watchers, r.id = id ∧ r.accountHash = accountHash := by
  rcases createOrGetWatcher_ok h with ⟨r, hr, rfl, rfl⟩ | ⟨-, hcreate⟩
  · obtain ⟨hmem, hfolder⟩ := fetchOptional_some hr
    exact ⟨r, by rwa [watchers_savedStore], rfl, hfolder.1⟩
  · obtain ⟨dbGroupId, -, hcases⟩ := createWatcherWithConditions_ok hcreate
    rcases hcases with ⟨r, hr, -, rfl, rfl⟩ | ⟨r, hr, -, rfl, rfl⟩ | ⟨-, rfl, rfl⟩
    · obtain ⟨hmem, hclient⟩ := fetchOptional_some hr
      exact ⟨r, hmem, rfl, hclient.2.1⟩
    · obtain ⟨hmem, hclient⟩ := fetchOptional_some hr
      exact ⟨_, mem_updateWhere.2 ⟨r, hmem, if_pos hclient⟩, rfl, hclient.2.1⟩
    · rw [hfresh.freshId.lastInsertId]
      exact ⟨_, List.mem_append_right _ (List.mem_singleton_self _), rfl, rfl⟩

/-- Conditions that are added to those of a watcher of their account. -/
theorem Attributed.of_append (hkeys : UniqueKeys s'.toWatcherTables) (hr : r ∈ s'.watchers)
    (hold : ∀ c ∈ s.conditions, ∃ r ∈ s'.watchers,
      r.id = c.watcherId ∧ r.accountHash = c.accountHash)
    (hconditions : s'.conditions = s.conditions ++
      conditionsOf r.accountHash r.id groupId time data) :
    Attributed s' := by
  refine { hkeys with conditionOwner := fun c hc => ?_ }
  rw [hconditions] at hc
  rcases List.mem_append.1 hc with hc | hc
  · exact hold c hc
  · exact ⟨r, hr, (owner_of_mem_conditionsOf hc).2.symm, (owner_of_mem_conditionsOf hc).1.symm⟩

theorem Attributed.createOrGetWatcher {i : WatcherInputs} (h : Attributed s)
    (hfresh : WatcherIdFresh s i)
    (hok : createOrGetWatcher (mySqlStorage pl) env i s accountHash groupId data = .ok (id, s')) :
    Attributed s' := by
  have hkeys := uniqueKeys_createOrGetWatcher h.toUniqueKeys hfresh hok
  have hold : ∀ c ∈ s.conditions, ∃ r ∈ s'.watchers,
      r.id = c.watcherId ∧ r.accountHash = c.accountHash := by
    intro c hc
    obtain ⟨r, hr, hid, hacc⟩ := h.conditionOwner c hc
    obtain ⟨r', hr', hid', hkey⟩ := exists_row_of_createOrGetWatcher hfresh hok hr
    exact ⟨r', hr', hid'.trans hid, (Prod.mk.inj hkey).1.trans hacc⟩
  rcases createOrGetWatcher_cases hfresh hok with ⟨r, hr, rfl⟩ | ⟨-, ⟨r, -, -, rfl⟩ |
    ⟨r, row, time, hr, -, -, rfl⟩ | ⟨row, time, -, hkey, -, rfl⟩⟩
  · obtain ⟨hmem, rfl, -⟩ := fetchOptional_some hr
    exact h.savedStore hmem
  · exact h
  · obtain ⟨hmem, hclient⟩ := fetchOptional_some hr
    obtain rfl := hclient.2.1
    exact .of_append (r := writeWatcher row r) hkeys
      (mem_updateWhere.2 ⟨r, hmem, if_pos hclient⟩) hold rfl
  · obtain ⟨rfl, -⟩ := watcherKey_eq.1 hkey
    exact .of_append hkeys (List.mem_append_right _ (List.mem_singleton_self row)) hold rfl

theorem confined_createWatcherWithConditions {i : CallInputs}
    (h : s.createWatcherWithConditions pl i accountHash groupId data time = .ok (id, s')) :
    Confined accountHash s s' := by
  obtain ⟨dbGroupId, -, hcases⟩ := createWatcherWithConditions_ok h
  rcases hcases with ⟨r, -, -, -, rfl⟩ | ⟨r, -, -, rfl, rfl⟩ | ⟨-, rfl, rfl⟩
  · exact .refl _ _
  · refine .mk (fun _ _ => rfl) (fun other hne => ?_) fun other hne =>
      filter_append_conditionsOf_of_ne hne
    refine filter_updateWhere fun r' _ hclient => ?_
    exact ⟨fun heq => hne (heq.symm.trans hclient.2.1), fun heq => hne (heq.symm.trans hclient.2.1)⟩
  · refine .mk (fun _ _ => rfl) (fun other hne => ?_) fun other hne =>
      filter_append_conditionsOf_of_ne hne
    exact filter_append_of_forall fun r' hr' heq =>
      hne (heq.symm.trans (List.mem_singleton.1 hr' ▸ rfl))

/-- A call for a watcher changes rows of the account only. -/
theorem Attributed.confined_createOrGetWatcher {i : WatcherInputs} (h : Attributed s)
    (hok : CosmicSync.createOrGetWatcher (mySqlStorage pl) env i s accountHash groupId data =
      .ok (id, s')) : Confined accountHash s s' := by
  rcases createOrGetWatcher_ok hok with ⟨r, hr, -, rfl⟩ | ⟨-, hcreate⟩
  · obtain ⟨hmem, rfl, -⟩ := fetchOptional_some hr
    exact h.confined_savedStore hmem
  · exact confined_createWatcherWithConditions hcreate

/-! ## The requests -/

theorem confined_registerWatcherGroup {i : CallInputs} {group : WatcherGroup}
    (h : s.registerWatcherGroup pl i accountHash deviceHash group = .ok (id, s')) :
    Confined accountHash s s' := by
  rcases (registerWatcherGroup_ok h).2 with ⟨-, rfl⟩ | rfl
  · exact .refl _ _
  · refine .mk (fun other hne => ?_) (fun _ _ => rfl) fun _ _ => rfl
    refine filter_upsert (fun g _ hclient => ?_) hne.symm
    exact ⟨fun heq => hne (heq.symm.trans hclient.1), fun heq => hne (heq.symm.trans hclient.1)⟩

theorem confined_updateWatcherGroup {i : CallInputs} {group : WatcherGroup}
    (h : s.updateWatcherGroup pl i accountHash group = .ok ((), s')) :
      Confined accountHash s s' := by
  rcases updateWatcherGroup_ok h with ⟨-, rfl⟩ | ⟨-, rfl⟩
  · exact .refl _ _
  · refine .mk (fun other hne => ?_) (fun _ _ => rfl) fun _ _ => rfl
    refine filter_updateWhere fun g _ hserver => ?_
    exact ⟨fun heq => hne (heq.symm.trans hserver.2), fun heq => hne (heq.symm.trans hserver.2)⟩

/-- The conditions that go with the watchers of a group are those of the account. -/
theorem Attributed.confined_deleteWatcherGroup {i : CallInputs} (h : Attributed s)
    (hok : s.deleteWatcherGroup pl i accountHash groupId = .ok ((), s')) :
      Confined accountHash s s' := by
  rcases deleteWatcherGroup_ok hok with rfl | ⟨id, -, rfl⟩
  · exact .refl _ _
  · refine .mk (fun other hne => ?_) (fun other hne => ?_) fun other hne => ?_
    · exact filter_deleteWhere fun g _ hserver heq => hne (heq.symm.trans hserver.2)
    · exact filter_deleteWhere fun r _ hgroup heq => hne (heq.symm.trans hgroup.1)
    · refine filter_deleteWhere fun c hc hmem heq => hne ?_
      obtain ⟨r, hr, hid⟩ := List.mem_map.1 hmem
      obtain ⟨hr, hgroup⟩ := List.mem_filter.1 hr
      have hacc : r.accountHash = accountHash := (of_decide_eq_true hgroup).1
      rw [← heq, h.accountHash_eq hr hc hid.symm, hacc]

end Rows

/-- A request that may change watcher groups. -/
inductive GroupChange where
  | register (req : WatcherGroupRequest)
  | update (req : WatcherGroupRequest)
  | delete (req : WatcherGroupIdRequest)
  | sync (req : SyncConfigurationRequest)

/-- What the calls of a request meet, and the presets of the accounts. -/
structure ChangeInputs where
  request : GroupRequestInputs
  sync : SyncInputs
  presets : String → Option (List String)

namespace GroupChange

def authToken : GroupChange → String
  | register req => req.authToken
  | update req => req.authToken
  | delete req => req.authToken
  | sync req => req.authToken

variable (pl : Planner) (verify : String → Option VerificationResult) (env : WatcherEnv)
  (i : ChangeInputs) (s : WatcherStore)

/-- The tables after the request. -/
def handle : GroupChange → WatcherStore
  | register req => (handleRegisterWatcherGroup (mySqlStorage pl) env i.request s req).store
  | update req => (handleUpdateWatcherGroup (mySqlStorage pl) env i.request s req).store
  | delete req => (handleDeleteWatcherGroup (mySqlStorage pl) env i.request s req).store
  | sync req =>
    (handleSyncConfiguration (mySqlStorage pl) env (verify req.authToken) i.sync s
      i.presets req).1.store

/-- The ids of new rows are fresh. -/
def IdsFresh : GroupChange → Prop
  | sync req => ∀ verified, verify req.authToken = some verified →
    EveryCall pl env req verified.accountHash freshIds i.sync s
  | _ => FreshId (s.groups.map WatcherGroupRow.id) i.request.write.nextId ∧
    WatcherIdFresh s i.request.watcher

/-- The account that the request works on. -/
def account (verify : String → Option VerificationResult) : GroupChange → Option String
  | register req => some req.accountHash
  | update req => some req.accountHash
  | delete req => some req.accountHash
  | sync req => (verify req.authToken).map VerificationResult.accountHash

variable {pl verify env i s}

theorem confined_register {req : WatcherGroupRequest} :
    Confined req.accountHash s (handle pl verify env i s (.register req)) := by
  rw [handle]
  unfold handleRegisterWatcherGroup
  split
  next => exact .refl _ s
  next => exact .refl _ s
  next =>
    dsimp only
    split
    next => exact .refl _ s
    next s₁ hregister =>
      have hconfined := confined_registerWatcherGroup hregister
      split
      next => exact hconfined
      next s₂ hcreated =>
        dsimp only
        split at hcreated
        next data =>
          obtain ⟨⟨id, s₃⟩, hcreate, rfl⟩ := map_eq_ok hcreated
          exact hconfined.trans (confined_createWatcherWithConditions hcreate)
        next =>
          cases hcreated
          exact hconfined

/-- What is left of the watcher that comes with an update, also when the update fails. -/
theorem applySentWatcher_store {i : GroupRequestInputs} {accountHash : String} {groupId : ℤ}
    {ids : List ℤ} {data : Option WatcherData} {result : Except Status (List ℤ)} {s' : WatcherStore}
    (h : applySentWatcher (mySqlStorage pl) env i s accountHash groupId ids data = (s', result)) :
    s' = s ∨ ∃ d id s₁, data = some d ∧
      createOrGetWatcher (mySqlStorage pl) env i.watcher s accountHash groupId d = .ok (id, s₁) ∧
      (s' = s₁ ∨ s' = savedStore s₁ i.save.now.seconds accountHash id groupId d) := by
  rcases result with status | ids'
  · unfold applySentWatcher at h
    split at h
    next => cases h
    next d =>
      split at h
      next =>
        cases h
        exact .inl rfl
      next id s₁ hcreate =>
        refine .inr ⟨d, id, s₁, rfl, hcreate, .inl ?_⟩
        dsimp only at h
        split at h
        next => cases h
        next =>
          split at h
          next =>
            cases h
            rfl
          next => cases h
  · rcases applySentWatcher_ok h with ⟨-, rfl⟩ | ⟨d, id, s₁, hdata, hcreate, hstore⟩
    · exact .inl rfl
    · exact .inr ⟨d, id, s₁, hdata, hcreate, .inr hstore⟩

theorem confined_applySentWatcher {i : GroupRequestInputs} {accountHash : String} {groupId : ℤ}
    {ids : List ℤ} {data : Option WatcherData} {result : Except Status (List ℤ)} {s' : WatcherStore}
    (hs : Attributed s) (hfresh : WatcherIdFresh s i.watcher)
    (h : applySentWatcher (mySqlStorage pl) env i s accountHash groupId ids data = (s', result)) :
    Confined accountHash s s' := by
  rcases applySentWatcher_store h with rfl | ⟨d, id, s₁, -, hcreate, hstore⟩
  · exact .refl _ _
  · have hconfined := hs.confined_createOrGetWatcher hcreate
    rcases hstore with rfl | rfl
    · exact hconfined
    · obtain ⟨r, hr, rfl, rfl⟩ := exists_watcher_of_createOrGetWatcher hfresh hcreate
      exact hconfined.trans ((hs.createOrGetWatcher hfresh hcreate).confined_savedStore hr)

theorem confined_update {req : WatcherGroupRequest} (hs : Attributed s)
    (hfresh : WatcherIdFresh s i.request.watcher) :
    Confined req.accountHash s (handle pl verify env i s (.update req)) := by
  rw [handle]
  unfold handleUpdateWatcherGroup
  split
  next => exact .refl _ s
  next =>
    split
    next => exact .refl _ s
    next => exact .refl _ s
    next existing _ =>
      split
      next happly => exact confined_applySentWatcher hs hfresh happly
      next happly =>
        have hconfined := confined_applySentWatcher hs hfresh happly
        dsimp only
        split
        next => exact hconfined
        next hupdate => exact hconfined.trans (confined_updateWatcherGroup hupdate)

theorem confined_delete {req : WatcherGroupIdRequest} (hs : Attributed s) :
    Confined req.accountHash s (handle pl verify env i s (.delete req)) := by
  rw [handle]
  unfold handleDeleteWatcherGroup
  split
  next => exact .refl _ s
  next =>
    split
    next => exact .refl _ s
    next => exact .refl _ s
    next =>
      split
      next => exact .refl _ s
      next hdelete => exact hs.confined_deleteWatcherGroup hdelete

/-- The row of a group, in a synchronisation. -/
theorem confined_syncGroupRow {req : SyncConfigurationRequest} {accountHash : String}
    {p p' : SyncProgress WatcherStore} {i : GroupInputs} {group : WatcherGroupData}
    {follow : Option (String × WatcherUpdateType)} (hkeys : UniqueKeys p.store.toWatcherTables)
    (h : syncGroupRow (mySqlStorage pl) req accountHash p i group = (p', follow)) :
    Confined accountHash p.store p'.store := by
  rcases syncGroupRow_cases hkeys h with ⟨-, hstore⟩ | ⟨-, ⟨g, -, -, hstore⟩ |
    ⟨g, row, -, -, -, hstore⟩ | ⟨-, row, -, -, -, hstore⟩⟩
  · rw [hstore]
    exact .refl _ _
  · rw [hstore]
    exact .refl _ _
  · rw [hstore]
    refine .mk (fun other hne => ?_) (fun _ _ => rfl) fun _ _ => rfl
    refine filter_updateWhere fun g _ hserver => ?_
    exact ⟨fun heq => hne (heq.symm.trans hserver.2), fun heq => hne (heq.symm.trans hserver.2)⟩
  · rw [hstore]
    refine .mk (fun other hne => ?_) (fun _ _ => rfl) fun _ _ => rfl
    exact filter_append_of_forall fun g hg heq =>
      hne (heq.symm.trans (List.mem_singleton.1 hg ▸ rfl))

theorem attributed_syncGroupRow {req : SyncConfigurationRequest} {accountHash : String}
    {p p' : SyncProgress WatcherStore} {i : GroupInputs} {group : WatcherGroupData}
    {follow : Option (String × WatcherUpdateType)} (hs : Attributed p.store)
    (hfresh : FreshId (p.store.groups.map WatcherGroupRow.id) i.write.nextId)
    (h : syncGroupRow (mySqlStorage pl) req accountHash p i group = (p', follow)) :
    Attributed p'.store := by
  obtain ⟨hwatchers, hconditions⟩ := unchanged_of_syncGroupRow hs.toUniqueKeys h
  refine { uniqueKeys_syncGroupRow hs.toUniqueKeys hfresh h with conditionOwner := ?_ }
  rw [hwatchers, hconditions]
  exact hs.conditionOwner

/-- Every call of a synchronisation changes rows of the account only. -/
theorem confined_syncGroups {req : SyncConfigurationRequest} {accountHash : String} {i : SyncInputs}
    (hs : Attributed s) (hfresh : EveryCall pl env req accountHash freshIds i s) :
    Confined accountHash s (syncGroups (mySqlStorage pl) env i req accountHash s).store := by
  refine (Guarded.invariant (I := fun p => Attributed p.store ∧ Confined accountHash s p.store)
    (fun p group hmeets hI => ?_) hfresh ⟨hs, .refl _ s⟩).2
  refine syncGroup_invariant (I := fun s' => Attributed s' ∧ Confined accountHash s s') hmeets
    (fun p' follow hrow hfresh => ?_) fun s₁ id s₂ watcher _ hfresh hok hI => ?_
  · exact ⟨attributed_syncGroupRow hI.1 hfresh hrow,
      hI.2.trans (confined_syncGroupRow hI.1.toUniqueKeys hrow)⟩
  · exact ⟨hI.1.createOrGetWatcher hfresh hok, hI.2.trans (hI.1.confined_createOrGetWatcher hok)⟩

theorem confined_sync {req : SyncConfigurationRequest} {verified : VerificationResult}
    (hs : Attributed s) (hverify : verify req.authToken = some verified)
    (hfresh : EveryCall pl env req verified.accountHash freshIds i.sync s) :
    Confined verified.accountHash s (handle pl verify env i s (.sync req)) := by
  rw [handle, hverify]
  rcases syncedStore_cases pl env verified i.sync s i.presets req with heq | heq
  · rw [syncedStore] at heq
    rw [heq]
    exact .refl _ s
  · rw [syncedStore] at heq
    rw [heq]
    exact confined_syncGroups hs hfresh

/-- A request changes rows of its account only. -/
theorem confined_handle {change : GroupChange} (hs : Attributed s)
    (hfresh : change.IdsFresh pl verify env i s) {accountHash : String}
    (hchanged : (change.handle pl verify env i s).ofAccount accountHash ≠ s.ofAccount accountHash) :
    change.account verify = some accountHash := by
  have hown : ∀ {own : String}, Confined own s (change.handle pl verify env i s) →
      own = accountHash :=
    fun hconfined => by_contra fun hne => hchanged (hconfined accountHash (Ne.symm hne))
  rcases change with req | req | req | req
  · exact congrArg some (hown confined_register)
  · exact congrArg some (hown (confined_update hs hfresh.2))
  · exact congrArg some (hown (confined_delete hs))
  · rw [account]
    rcases hverify : verify req.authToken with _ | verified
    · rw [handle, hverify] at hchanged
      exact absurd rfl hchanged
    · exact congrArg some (hown (confined_sync hs hverify (hfresh verified hverify)))

/-! ## When the account is protected -/

/-- The request changes nothing, whatever the tables are: the folder that it sends is
    rejected, or it has nothing to write. -/
def Idle (rules : FolderRules) : GroupChange → Prop
  | register req => ∃ msg, validateSentFolder rules req.watcherData = .error msg
  | update req => (∃ msg, validateSentFolder rules req.watcherData = .error msg) ∨
    (req.watcherData = none ∧ req.groupId ≤ 0)
  | delete _ => False
  | sync req => req.watcherGroups = []

end GroupChange

/-- The ids of the groups are positive. -/
structure WellFormed (s : WatcherStore) : Prop extends Attributed s where
  groupId_pos : ∀ g ∈ s.groups, 0 < g.id

namespace GroupChange

variable {pl : Planner} {verify : String → Option VerificationResult} {env : WatcherEnv}
  {i : ChangeInputs} {s : WatcherStore}

theorem register_of_rejected {req : WatcherGroupRequest} {msg : String}
    (h : validateSentFolder env.rules req.watcherData = .error msg) :
    handle pl verify env i s (.register req) = s := by
  rw [handle]
  unfold handleRegisterWatcherGroup
  rw [h]
  split
  next => rfl
  next => rfl
  next heq => cases heq

theorem applySentWatcher_of_rejected {data : Option WatcherData} {msg : String}
    (h : validateSentFolder env.rules data = .error msg) (pl : Planner) (i : GroupRequestInputs)
    (s : WatcherStore) (accountHash : String) (groupId : ℤ) (ids : List ℤ) :
    ∃ status, applySentWatcher (mySqlStorage pl) env i s accountHash groupId ids data =
      (s, .error status) := by
  rcases data with _ | d
  · cases h
  · have hreject : validateWatcherFolder env.rules d.folder = .error msg := h
    refine ⟨.internal ("Failed to create watcher: " ++ (StorageError.validation msg).display), ?_⟩
    rw [applySentWatcher]
    dsimp only
    rw [createOrGetWatcher, hreject]

theorem update_of_rejected {req : WatcherGroupRequest} {msg : String}
    (h : validateSentFolder env.rules req.watcherData = .error msg) :
    handle pl verify env i s (.update req) = s := by
  rw [handle]
  unfold handleUpdateWatcherGroup
  split
  next => rfl
  next =>
    split
    next => rfl
    next => rfl
    next existing _ =>
      obtain ⟨status, happly⟩ :=
        applySentWatcher_of_rejected h pl i.request s req.accountHash req.groupId
        existing.watcherIds
      rw [happly]
      rfl

theorem eq_of_updateWatcherGroup {i : CallInputs} {accountHash : String} {group : WatcherGroup}
    {s' : WatcherStore} (h : s.updateWatcherGroup pl i accountHash group = .ok ((), s'))
    (hnone : ∀ g ∈ s.groups, ¬WatcherGroupRow.ServerGroup accountHash group.id g) : s' = s := by
  rcases updateWatcherGroup_ok h with ⟨-, rfl⟩ | ⟨-, rfl⟩
  · rfl
  · rw [updateWhere_eq_self hnone]

/-- No group has the id of the client's number. -/
theorem update_of_nonpos {req : WatcherGroupRequest} (hs : WellFormed s)
    (hdata : req.watcherData = none)
    (hgroup : req.groupId ≤ 0) : handle pl verify env i s (.update req) = s := by
  rw [handle]
  unfold handleUpdateWatcherGroup
  rw [hdata]
  split
  next => rfl
  next =>
    split
    next => rfl
    next => rfl
    next existing _ =>
      dsimp only [applySentWatcher]
      split
      next => rfl
      next hupdate =>
        refine eq_of_updateWatcherGroup hupdate fun g hg hserver => ?_
        have hpos := hs.groupId_pos g hg
        have hid : g.id = req.groupId := hserver.1
        omega

theorem sync_of_nil {req : SyncConfigurationRequest} (h : req.watcherGroups = []) :
    handle pl verify env i s (.sync req) = s := by
  rw [handle]
  rcases verify req.authToken with _ | verified
  · rfl
  · rcases syncedStore_cases pl env verified i.sync s i.presets req with heq | heq
    · exact heq
    · refine heq.trans ?_
      rw [syncGroups, SyncInputs.zip, h]
      rfl

theorem handle_of_idle {change : GroupChange} (hs : WellFormed s) (h : change.Idle env.rules) :
    change.handle pl verify env i s = s := by
  rcases change with req | req | req | req
  · obtain ⟨msg, hreject⟩ := h
    exact register_of_rejected hreject
  · rcases h with ⟨msg, hreject⟩ | ⟨hdata, hgroup⟩
    · exact update_of_rejected hreject
    · exact update_of_nonpos hs hdata hgroup
  · exact h.elim
  · exact sync_of_nil h

/-! ## Requests that change something -/

/-- A server that knows one device of the account. -/
def knownDevice (rules : FolderRules) (accountHash deviceHash : String) : WatcherEnv :=
  ⟨false, rules, [⟨accountHash, deviceHash, true⟩], []⟩

theorem validateDevice_knownDevice {rules : FolderRules} {accountHash deviceHash : String} {now : ℤ}
    {nextId : ℕ} :
    validateDeviceIfRequired (mySqlStorage pl) (knownDevice rules accountHash deviceHash)
      (.at now nextId) accountHash deviceHash = .ok () := by
  simp [validateDeviceIfRequired, knownDevice, mySqlStorage, CallInputs.query, CallInputs.at]

/-- Tables with one group of the account. -/
def knownGroup (accountHash : String) (groupId id : ℤ) : WatcherStore where
  groups := [⟨id, groupId, accountHash, "", "", 0, 0, true⟩]
  watchers := []
  conditions := []

theorem ofAccount_ne_of_group {s s' : WatcherStore} {g : WatcherGroupRow} (h : g ∈ s.groups)
    (h' : g ∉ s'.groups) : s'.ofAccount g.accountHash ≠ s.ofAccount g.accountHash := by
  intro heq
  have hmem : g ∈ (s.ofAccount g.accountHash).groups := List.mem_filter.2 ⟨h, by simp⟩
  rw [← heq] at hmem
  exact h' (List.mem_filter.1 hmem).1

theorem ofAccount_ne_of_watcher {s s' : WatcherStore} {r : WatcherRow} (h : r ∈ s.watchers)
    (h' : r ∉ s'.watchers) : s'.ofAccount r.accountHash ≠ s.ofAccount r.accountHash := by
  intro heq
  have hmem : r ∈ (s.ofAccount r.accountHash).watchers := List.mem_filter.2 ⟨h, by simp⟩
  rw [← heq] at hmem
  exact h' (List.mem_filter.1 hmem).1

theorem registerWatcherGroup_empty {accountHash deviceHash : String} {now : ℤ} {nextId : ℕ}
    {group : WatcherGroup} :
    WatcherStore.empty.registerWatcherGroup pl (.at now nextId) accountHash deviceHash group =
      .ok (group.groupId, { WatcherStore.empty with
        groups := [newGroup nextId accountHash deviceHash group] }) :=
  registerWatcherGroup_of_forall rfl fun _ h => absurd h List.not_mem_nil

theorem register_changes {rules : FolderRules} {req : WatcherGroupRequest} {i : ChangeInputs}
    (hi : i.request = .at 1 1) (h : ¬(GroupChange.register req).Idle rules) :
    (handle pl verify (knownDevice rules req.accountHash req.deviceHash) i .empty
      (.register req)).ofAccount req.accountHash ≠
        WatcherStore.empty.ofAccount req.accountHash := by
  set env := knownDevice rules req.accountHash req.deviceHash
  set group := groupToRegister ⟨1, 0⟩ req.accountHash req.groupId req.title
  have hfolder : validateSentFolder env.rules req.watcherData = .ok () := by
    rcases hvalid : validateSentFolder rules req.watcherData with msg | ⟨⟩
    · exact absurd ⟨msg, hvalid⟩ h
    · exact hvalid
  have hdevice : validateDeviceIfRequired (mySqlStorage pl) env (GroupRequestInputs.at 1 1).device
      req.accountHash req.deviceHash = .ok () := validateDevice_knownDevice
  have hregister : (mySqlStorage pl).registerWatcherGroup .empty (GroupRequestInputs.at 1 1).write
      req.accountHash req.deviceHash group = .ok (group.groupId, { WatcherStore.empty with
        groups := [newGroup 1 req.accountHash req.deviceHash group] }) := registerWatcherGroup_empty
  have hgroups : (handle pl verify env i .empty (.register req)).groups =
      [newGroup 1 req.accountHash req.deviceHash group] := by
    rw [handle, hi, handleRegisterWatcherGroup, hdevice, hfolder]
    dsimp only
    rw [show (GroupRequestInputs.at 1 1).write.now = ⟨1, 0⟩ from rfl, hregister]
    dsimp only
    split
    next => rfl
    next s₂ hcreated =>
      dsimp only
      split at hcreated
      next data =>
        obtain ⟨⟨id, s₃⟩, hcreate, rfl⟩ := map_eq_ok hcreated
        exact groups_of_createWatcherWithConditions hcreate
      next =>
        cases hcreated
        rfl
  refine Ne.symm
    (ofAccount_ne_of_group (g := newGroup 1 req.accountHash req.deviceHash group) ?_ ?_)
  · rw [hgroups]
    exact List.mem_singleton_self _
  · exact List.not_mem_nil

section KnownGroup

variable {accountHash : String} {groupId id now : ℤ} {nextId : ℕ}

theorem fetchOptional_knownGroup :
    fetchOptional pl (WatcherGroupRow.ClientGroup accountHash groupId)
      (knownGroup accountHash groupId id).groups =
        some ⟨id, groupId, accountHash, "", "", 0, 0, true⟩ :=
  fetchOptional_singleton ⟨rfl, rfl⟩

theorem getServerGroupId_knownGroup :
    (knownGroup accountHash groupId id).getServerGroupId pl accountHash groupId = some id := by
  have hfetch : (knownGroup accountHash groupId id).getServerGroupId pl accountHash groupId =
      (fetchOptional pl (WatcherGroupRow.ClientGroup accountHash groupId)
        (knownGroup accountHash groupId id).groups).map WatcherGroupRow.id := rfl
  rw [hfetch, fetchOptional_knownGroup]
  rfl

theorem wellFormed_knownGroup (hid : 0 < id) : WellFormed (knownGroup accountHash groupId id) where
  groupIds := List.nodup_singleton _
  groupKeys := List.nodup_singleton _
  watcherIds := .nil
  watcherKeys := .nil
  conditionOwner _ hc := absurd hc List.not_mem_nil
  groupId_pos _ hg := List.mem_singleton.1 hg ▸ hid

theorem delete_changes {rules : FolderRules} {req : WatcherGroupIdRequest} {i : ChangeInputs}
    (hi : i.request = .at 1 2) :
    (handle pl verify (knownDevice rules req.accountHash req.deviceHash) i
        (knownGroup req.accountHash req.groupId 1) (.delete req)).ofAccount req.accountHash ≠
      (knownGroup req.accountHash req.groupId 1).ofAccount req.accountHash := by
  set env := knownDevice rules req.accountHash req.deviceHash
  set s := knownGroup req.accountHash req.groupId 1
  have hdevice : validateDeviceIfRequired (mySqlStorage pl) env (GroupRequestInputs.at 1 2).device
      req.accountHash req.deviceHash = .ok () := validateDevice_knownDevice
  have hget : (mySqlStorage pl).getWatcherGroupByAccountAndId s (GroupRequestInputs.at 1 2).lookup
      req.accountHash req.groupId =
        .ok (s.getWatcherGroupByAccountAndId pl ⟨1, 0⟩ req.accountHash req.groupId) := rfl
  rw [getWatcherGroupByAccountAndId, fetchOptional_knownGroup, Option.map_some] at hget
  have hdelete : (mySqlStorage pl).deleteWatcherGroup s (GroupRequestInputs.at 1 2).write
      req.accountHash req.groupId = .ok ((), ⟨⟨[], []⟩, []⟩) := by
    have hgroup : s.getServerGroupId pl req.accountHash req.groupId = some 1 :=
      getServerGroupId_knownGroup
    refine (?_ : s.deleteWatcherGroup pl _ _ _ = _)
    rw [deleteWatcherGroup, hgroup]
    simp [GroupRequestInputs.at, CallInputs.at, s, knownGroup, deleteWhere,
      WatcherGroupRow.ServerGroup]
  have hstore : (handle pl verify env i s (.delete req)) = ⟨⟨[], []⟩, []⟩ := by
    rw [handle, hi, handleDeleteWatcherGroup, hdevice]
    dsimp only
    rw [hget]
    dsimp only
    rw [hdelete]
  rw [hstore]
  exact ofAccount_ne_of_group (g := ⟨1, req.groupId, req.accountHash, "", "", 0, 0, true⟩)
    (List.mem_singleton_self _) List.not_mem_nil

theorem updateWatcherGroup_knownGroup {group : WatcherGroup} (hnew : 0 < group.updatedAt) :
    (knownGroup accountHash groupId group.id).updateWatcherGroup pl (.at now nextId)
      accountHash group =
      .ok ((), ⟨⟨[⟨group.id, groupId, accountHash, "", group.title, 0, group.updatedAt,
        group.isActive⟩],
        []⟩, []⟩) := by
  have hfetch : fetchOptional pl (WatcherGroupRow.ServerGroup accountHash group.id)
      (knownGroup accountHash groupId group.id).groups =
        some ⟨group.id, groupId, accountHash, "", "", 0, 0, true⟩ :=
          fetchOptional_singleton ⟨rfl, rfl⟩
  have holder : isNewer group.updatedAt
      (some ⟨group.id, groupId, accountHash, "", "", 0, 0, true⟩) = false :=
    isNewer_eq_false.2 fun g hg => Option.some.inj hg ▸ hnew
  rw [updateWatcherGroup]
  dsimp only [CallInputs.at]
  rw [hfetch, holder, if_neg Bool.false_ne_true]
  simp [knownGroup, updateWhere, WatcherGroupRow.ServerGroup, writeGroup]

/-- A watcher that is sent is created. -/
theorem createOrGetWatcher_knownGroup {data : WatcherData} (pl : Planner) (env : WatcherEnv)
    (accountHash : String) (groupId id now : ℤ)
    (hfolder : validateWatcherFolder env.rules data.folder = .ok ()) (hfresh : FreshId [] nextId) :
    ∃ s₁ r, createOrGetWatcher (mySqlStorage pl) env (GroupRequestInputs.at now nextId).watcher
        (knownGroup accountHash groupId id) accountHash groupId data =
          .ok (lastInsertId nextId, s₁) ∧
      r ∈ s₁.watchers ∧ r.accountHash = accountHash := by
  have hid : lastInsertId nextId ≠ 0 := by
    rw [hfresh.lastInsertId]
    exact hfresh.ne_zero
  obtain ⟨s₁, hcreate, hwatchers⟩ :
      ∃ s₁, (knownGroup accountHash groupId id).createWatcherWithConditions pl
        (.at now nextId) accountHash groupId data now = .ok (lastInsertId nextId, s₁) ∧
        s₁.watchers = [newWatcher nextId accountHash id groupId data now] :=
    ⟨_, createWatcherWithConditions_of_forall rfl getServerGroupId_knownGroup
      (fun _ h => absurd h List.not_mem_nil) hid, rfl⟩
  have hfind : (mySqlStorage pl).findWatcherByFolder (knownGroup accountHash groupId id)
      (GroupRequestInputs.at now nextId).watcher.find accountHash groupId data.folder = .ok none :=
    congrArg (fun r => Except.ok (Option.map WatcherRow.id r)) fetchOptional_nil
  refine ⟨s₁, newWatcher nextId accountHash id groupId data now, ?_, ?_, rfl⟩
  · rw [createOrGetWatcher, hfolder]
    refine Eq.trans ?_ hcreate
    dsimp only
    rw [hfind]
    rfl
  · rw [hwatchers]
    exact List.mem_singleton_self _

/-- What is created stays, whether or not the conditions are saved. -/
theorem watchers_of_applySentWatcher {env : WatcherEnv} {i : GroupRequestInputs}
    {s s₁ s' : WatcherStore} {ids : List ℤ} {data : WatcherData} {result : Except Status (List ℤ)}
    (hcreate : createOrGetWatcher (mySqlStorage pl) env i.watcher s accountHash groupId
      data = .ok (id, s₁))
    (h : applySentWatcher (mySqlStorage pl) env i s accountHash groupId ids (some data) =
      (s', result)) :
    s'.watchers = s₁.watchers := by
  rw [applySentWatcher] at h
  dsimp only at h
  rw [hcreate] at h
  dsimp only at h
  split at h
  next =>
    cases h
    rfl
  next =>
    split at h
    next =>
      cases h
      rfl
    next hsave =>
      cases h
      rw [saveWatcherConditions_ok hsave]

theorem exists_updateWatcherGroup (pl : Planner) (s : WatcherStore) (now : ℤ) (nextId : ℕ)
    (accountHash : String) (group : WatcherGroup) :
    ∃ s', s.updateWatcherGroup pl (.at now nextId) accountHash group = .ok ((), s') := by
  rw [updateWatcherGroup]
  dsimp only [CallInputs.at]
  split
  · exact ⟨_, rfl⟩
  · exact ⟨_, rfl⟩

/-- The calls of an update of a group that is known. -/
theorem handle_update_knownGroup (pl : Planner) (verify : String → Option VerificationResult)
    (rules : FolderRules) (req : WatcherGroupRequest) {i : ChangeInputs}
    (hi : i.request = .at 1 nextId)
    (id : ℤ) : ∃ (existing : WatcherGroup) (s₁ : WatcherStore) (result : Except Status (List ℤ)),
      applySentWatcher (mySqlStorage pl) (knownDevice rules req.accountHash req.deviceHash)
        (.at 1 nextId)
        (knownGroup req.accountHash req.groupId id) req.accountHash req.groupId existing.watcherIds
        req.watcherData = (s₁, result) ∧
      ((∃ status, result = .error status ∧
          handle pl verify (knownDevice rules req.accountHash req.deviceHash) i
            (knownGroup req.accountHash req.groupId id) (.update req) = s₁) ∨
        ∃ ids, result = .ok ids ∧
          s₁.updateWatcherGroup pl (.at 1 nextId) req.accountHash
              (groupToUpdate ⟨1, 0⟩ existing ids req) =
            .ok ((), handle pl verify (knownDevice rules req.accountHash req.deviceHash) i
              (knownGroup req.accountHash req.groupId id) (.update req))) := by
  have hdevice : validateDeviceIfRequired (mySqlStorage pl)
      (knownDevice rules req.accountHash req.deviceHash) (GroupRequestInputs.at 1 nextId).device
      req.accountHash req.deviceHash = .ok () := validateDevice_knownDevice
  have hget : (mySqlStorage pl).getUserWatcherGroup (knownGroup req.accountHash req.groupId id)
      (GroupRequestInputs.at 1 nextId).lookup req.accountHash req.groupId =
        .ok ((knownGroup req.accountHash req.groupId id).getUserWatcherGroup pl ⟨1, 0⟩
          req.accountHash
          req.groupId) := rfl
  rw [getUserWatcherGroup, fetchOptional_knownGroup, Option.map_some] at hget
  rw [handle, hi, handleUpdateWatcherGroup, hdevice]
  dsimp only
  rw [hget]
  dsimp only
  generalize toWatcherGroup pl _ _ _ _ = existing
  rcases happly : applySentWatcher (mySqlStorage pl)
    (knownDevice rules req.accountHash req.deviceHash)
    (.at 1 nextId) (knownGroup req.accountHash req.groupId id) req.accountHash req.groupId
    existing.watcherIds req.watcherData with ⟨s₁, status | ids⟩
  · exact ⟨existing, s₁, .error status, happly, .inl ⟨status, rfl, rfl⟩⟩
  · refine ⟨existing, s₁, .ok ids, happly, .inr ⟨ids, rfl, ?_⟩⟩
    obtain ⟨s₂, hupdate⟩ := exists_updateWatcherGroup pl s₁ 1 nextId req.accountHash
      (groupToUpdate ⟨1, 0⟩ existing ids req)
    have hupdate' : (mySqlStorage pl).updateWatcherGroup s₁ (GroupRequestInputs.at 1 nextId).write
        req.accountHash (groupToUpdate (GroupRequestInputs.at 1 nextId).write.now
          existing ids req) =
          .ok ((), s₂) := hupdate
    dsimp only
    rw [hupdate', hupdate]

theorem update_changes_group {rules : FolderRules} {req : WatcherGroupRequest} {i : ChangeInputs}
    (hi : i.request = .at 1 nextId) (hdata : req.watcherData = none) :
    (handle pl verify (knownDevice rules req.accountHash req.deviceHash) i
        (knownGroup req.accountHash req.groupId req.groupId) (.update req)).ofAccount
          req.accountHash ≠
      (knownGroup req.accountHash req.groupId req.groupId).ofAccount req.accountHash := by
  obtain ⟨existing, s₁, result, happly, hcases⟩ :=
    handle_update_knownGroup pl verify rules req hi req.groupId
  rw [hdata] at happly
  cases happly
  obtain ⟨status, hresult, -⟩ | ⟨ids, hids, hupdate⟩ := hcases
  · cases hresult
  · have hwritten : (knownGroup req.accountHash req.groupId req.groupId).updateWatcherGroup pl
        (.at 1 nextId) req.accountHash (groupToUpdate ⟨1, 0⟩ existing ids req) = _ :=
      updateWatcherGroup_knownGroup Int.one_pos
    obtain ⟨-, hstore⟩ := Prod.mk.inj (Except.ok.inj (hwritten.symm.trans hupdate))
    rw [← hstore]
    -- The time of the update is new.
    refine ofAccount_ne_of_group
      (g := ⟨req.groupId, req.groupId, req.accountHash, "", "", 0, 0, true⟩)
      (List.mem_singleton_self _) fun hmem => ?_
    have htime : (0 : ℤ) = 1 := congrArg WatcherGroupRow.updatedAt (List.mem_singleton.1 hmem)
    exact absurd htime (by decide)

theorem update_changes_watcher {rules : FolderRules} {req : WatcherGroupRequest} {i : ChangeInputs}
    {data : WatcherData} (hi : i.request = .at 1 nextId) (hfresh : FreshId [] nextId)
    (hdata : req.watcherData = some data)
    (hfolder : validateWatcherFolder rules data.folder = .ok ()) (id : ℤ) :
    (handle pl verify (knownDevice rules req.accountHash req.deviceHash) i
        (knownGroup req.accountHash req.groupId id) (.update req)).ofAccount req.accountHash ≠
      (knownGroup req.accountHash req.groupId id).ofAccount req.accountHash := by
  obtain ⟨existing, s₁, result, happly, hcases⟩ :=
    handle_update_knownGroup pl verify rules req hi id
  obtain ⟨s₂, r, hcreate, hr, hacc⟩ := createOrGetWatcher_knownGroup pl
    (knownDevice rules req.accountHash req.deviceHash) req.accountHash req.groupId id 1
      hfolder hfresh
  rw [hdata] at happly
  have hwatchers := watchers_of_applySentWatcher hcreate happly
  have hmem : r ∈ (handle pl verify (knownDevice rules req.accountHash req.deviceHash) i
      (knownGroup req.accountHash req.groupId id) (.update req)).watchers := by
    obtain ⟨status, -, hstore⟩ | ⟨ids, -, hupdate⟩ := hcases
    · rwa [hstore, hwatchers]
    · rwa [(unchanged_of_updateWatcherGroup hupdate).1, hwatchers]
  rw [← hacc]
  rw [← hacc] at hmem
  exact (ofAccount_ne_of_watcher hmem List.not_mem_nil).symm

end KnownGroup

/-- A call that fails. -/
def failing (nextId : ℕ) : CallInputs := ⟨⟨1, 0⟩, nextId, some (.database "")⟩

/-- The first group of a synchronisation is registered, and all other calls fail. -/
def firstGroupOnly : SyncInputs where
  device := .at 1 1
  groups k :=
    if k = 0 then ⟨.at 1 1, .at 1 1, fun _ => ⟨failing 1, failing 1, failing 1⟩, .at 1 1⟩
    else ⟨failing 2, failing 2, fun _ => ⟨failing 1, failing 1, failing 1⟩, failing 2⟩
  presets := .at 1 1
  listing := .at 1 1
  reading _ := .at 1 1
  readingOrder := .insertion
  now := 1

section Sync

variable {req : SyncConfigurationRequest} {accountHash : String} {p : SyncProgress WatcherStore}

theorem syncGroupRow_of_fault {i : GroupInputs} {e : StorageError} (h : i.lookup.fault = some e)
    (pl : Planner) (req : SyncConfigurationRequest) (accountHash : String)
    (p : SyncProgress WatcherStore) (group : WatcherGroupData) : ∃ detail,
      syncGroupRow (mySqlStorage pl) req accountHash p i group = (p.conflict detail, none) := by
  have hget : (mySqlStorage pl).getUserWatcherGroup p.store i.lookup accountHash group.groupId =
      .error e := by
    refine (?_ : i.lookup.query _ = _)
    rw [CallInputs.query, h]
  refine ⟨"Error checking group " ++ toString group.groupId ++ ": " ++ e.display, ?_⟩
  rw [syncGroupRow, hget]

theorem store_syncWatcher_of_fault {failure : String} {groupId : ℤ}
    {watcher : WatcherInputs × WatcherData} {e : StorageError} (h : watcher.1.find.fault = some e) :
    (syncWatcher (mySqlStorage pl) env failure accountHash groupId p watcher).store = p.store := by
  rcases syncWatcher_cases pl env failure accountHash groupId p watcher with
    ⟨id, s', hok, -, -⟩ | ⟨hstore, -⟩
  · -- Nothing is found.
    rw [createOrGetWatcher] at hok
    split at hok
    next => cases hok
    next =>
      obtain ⟨found, hfind, -⟩ := bind_eq_ok hok
      obtain ⟨hnone, -⟩ := CallInputs.query_eq_ok.1 hfind
      cases h.symm.trans hnone
  · exact hstore

/-- The first group, on empty tables. -/
theorem syncGroupRow_empty (pl : Planner) (req : SyncConfigurationRequest) (accountHash : String)
    (group : WatcherGroupData) : ∃ row p' follow,
    syncGroupRow (mySqlStorage pl) req accountHash ⟨.empty, 0, 0, 0, [], []⟩
      (firstGroupOnly.groups 0) group =
        (p', some follow) ∧
      p'.store = { WatcherStore.empty with
        groups := [newGroup 1 accountHash req.deviceHash row] } := by
  have hget : (mySqlStorage pl).getUserWatcherGroup .empty
      (firstGroupOnly.groups 0).lookup accountHash group.groupId = .ok none :=
    congrArg (fun g => Except.ok (Option.map _ g)) fetchOptional_nil
  generalize hrow : groupToRegister (firstGroupOnly.groups 0).write.now accountHash group.groupId
    (if group.title = "" then "Synced Group" else group.title) = row
  have hregister : (mySqlStorage pl).registerWatcherGroup .empty (firstGroupOnly.groups 0).write
      accountHash req.deviceHash row = .ok (row.groupId, { WatcherStore.empty with
        groups := [newGroup 1 accountHash req.deviceHash row] }) := registerWatcherGroup_empty
  refine ⟨row, ?_⟩
  rw [syncGroupRow, hget]
  dsimp only
  rw [hrow, hregister]
  exact ⟨_, _, rfl, rfl⟩

theorem groupMeets_firstGroup {group : WatcherGroupData} :
    GroupMeets pl env req accountHash freshIds ⟨.empty, 0, 0, 0, [], []⟩
      (firstGroupOnly.groups 0, group) := by
  obtain ⟨row, p', follow, hrow, hstore⟩ := syncGroupRow_empty pl req accountHash group
  refine ⟨(by decide +kernel : FreshId [] 1), fun p₁ failure updateType hrow' => ?_⟩
  obtain ⟨rfl, -⟩ := Prod.mk.inj (hrow.symm.trans hrow')
  -- No call for a watcher writes anything.
  refine Guarded.of_invariant (I := fun p => p.store = p'.store)
    (fun p watcher hwatcher hI => ?_) rfl
  obtain ⟨k, hk, rfl⟩ := List.mem_mapIdx.1 hwatcher
  constructor
  · have hfresh : FreshId [] 1 := by decide +kernel
    rw [hI, hstore]
    exact hfresh
  · rw [store_syncWatcher_of_fault rfl, hI]

/-- The first group and its watchers. -/
theorem groups_firstGroup (pl : Planner) (env : WatcherEnv) (req : SyncConfigurationRequest)
    (accountHash : String) (group : WatcherGroupData) : ∃ row,
    (syncGroup (mySqlStorage pl) env req accountHash ⟨.empty, 0, 0, 0, [], []⟩
      (firstGroupOnly.groups 0, group)).store.groups =
        [newGroup 1 accountHash req.deviceHash row] := by
  obtain ⟨row, p', follow, hrow, hstore⟩ := syncGroupRow_empty pl req accountHash group
  refine ⟨row, syncGroup_invariant
    (I := fun s => s.groups = [newGroup 1 accountHash req.deviceHash row]) groupMeets_firstGroup
    (fun p₁ follow' hrow' _ => ?_) fun s id s' watcher _ _ hok hI => ?_⟩
  · obtain ⟨rfl, -⟩ := Prod.mk.inj (hrow.symm.trans hrow')
    rw [hstore]
  · rw [groups_of_createOrGetWatcher hok, hI]

theorem store_laterGroup {k : ℕ} {group : WatcherGroupData} :
    (syncGroup (mySqlStorage pl) env req accountHash p
      (firstGroupOnly.groups (k + 1), group)).store =
      p.store := by
  have hfault : (firstGroupOnly.groups (k + 1)).lookup.fault = some (.database "") := rfl
  obtain ⟨detail, hrow⟩ := syncGroupRow_of_fault hfault pl req accountHash p group
  rw [syncGroup, hrow]
  rfl

theorem zip_firstGroupOnly {group : WatcherGroupData} {groups : List WatcherGroupData}
    (h : req.watcherGroups = group :: groups) :
    firstGroupOnly.zip req = (firstGroupOnly.groups 0, group) ::
      groups.mapIdx fun k group => (firstGroupOnly.groups (k + 1), group) := by
  rw [SyncInputs.zip, h, List.mapIdx_cons]

theorem everyCall_firstGroupOnly (h : req.watcherGroups ≠ []) :
    EveryCall pl env req accountHash freshIds firstGroupOnly .empty := by
  obtain ⟨group, groups, hgroups⟩ := List.exists_cons_of_ne_nil h
  obtain ⟨row, hrow⟩ := groups_firstGroup pl env req accountHash group
  rw [EveryCall, zip_firstGroupOnly hgroups]
  refine ⟨groupMeets_firstGroup, ?_⟩
  refine Guarded.of_invariant
    (I := fun p => p.store.groups = [newGroup 1 accountHash req.deviceHash row])
    (fun p later hlater hI => ?_) hrow
  obtain ⟨k, hk, rfl⟩ := List.mem_mapIdx.1 hlater
  refine ⟨⟨?_, fun p' failure updateType hrow' => ?_⟩, ?_⟩
  · have hfresh : FreshId (p.store.groups.map WatcherGroupRow.id) 2 := by
      rw [hI]
      exact (by decide +kernel : FreshId [1] 2)
    exact hfresh
  · have hfault : (firstGroupOnly.groups (k + 1)).lookup.fault = some (.database "") := rfl
    obtain ⟨detail, hrow⟩ := syncGroupRow_of_fault hfault pl req accountHash p groups[k]
    cases hrow.symm.trans hrow'
  · rw [store_laterGroup, hI]

theorem groups_firstGroupOnly (h : req.watcherGroups ≠ []) (pl : Planner) (env : WatcherEnv)
    (accountHash : String) : ∃ row,
    (syncGroups (mySqlStorage pl) env firstGroupOnly req accountHash .empty).store.groups =
      [newGroup 1 accountHash req.deviceHash row] := by
  obtain ⟨group, groups, hgroups⟩ := List.exists_cons_of_ne_nil h
  obtain ⟨row, hrow⟩ := groups_firstGroup pl env req accountHash group
  refine ⟨row, ?_⟩
  rw [syncGroups, zip_firstGroupOnly hgroups, List.foldl_cons]
  have hlater : ∀ p, Guarded (syncGroup (mySqlStorage pl) env req accountHash)
      (fun _ later => ∃ k group, later = (firstGroupOnly.groups (k + 1), group)) p
      (groups.mapIdx fun k group => (firstGroupOnly.groups (k + 1), group)) := by
    intro p
    refine Guarded.of_forall
      (P := fun later => ∃ k group, later = (firstGroupOnly.groups (k + 1), group))
      fun later hmem => ?_
    obtain ⟨k, hk, rfl⟩ := List.mem_mapIdx.1 hmem
    exact ⟨k, _, rfl⟩
  refine (hlater _).invariant
    (I := fun p => p.store.groups = [newGroup 1 accountHash req.deviceHash row])
    (fun p later hlater hI => ?_) hrow
  obtain ⟨k, group, rfl⟩ := hlater
  rw [store_laterGroup, hI]

theorem sync_changes {rules : FolderRules} {verified : VerificationResult} {i : ChangeInputs}
    (hi : i.sync = firstGroupOnly) (hverify : verify req.authToken = some verified)
    (h : req.watcherGroups ≠ []) :
    (handle pl verify (knownDevice rules verified.accountHash req.deviceHash) i .empty
        (.sync req)).ofAccount verified.accountHash ≠
      WatcherStore.empty.ofAccount verified.accountHash := by
  have hdevice : validateDeviceIfRequired (mySqlStorage pl)
      (knownDevice rules verified.accountHash req.deviceHash) firstGroupOnly.device
        verified.accountHash
      req.deviceHash = .ok () := validateDevice_knownDevice
  have hstore : handle pl verify (knownDevice rules verified.accountHash req.deviceHash) i .empty
      (.sync req) = (syncGroups (mySqlStorage pl)
        (knownDevice rules verified.accountHash req.deviceHash)
        firstGroupOnly req verified.accountHash .empty).store := by
    rw [handle, hverify, hi, handleSyncConfiguration]
    dsimp only
    rw [hdevice]
  obtain ⟨row, hrow⟩ :=
    groups_firstGroupOnly h pl (knownDevice rules verified.accountHash req.deviceHash)
    verified.accountHash
  refine Ne.symm
    (ofAccount_ne_of_group (g := newGroup 1 verified.accountHash req.deviceHash row) ?_ ?_)
  · rw [hstore, hrow]
    exact List.mem_singleton_self _
  · exact List.not_mem_nil

end Sync

/-! ## The result -/

/-- In production, a request that changes rows of an account carries a valid token of it. -/
def Authorised (pl : Planner) (verify : String → Option VerificationResult) (rules : FolderRules)
    (change : GroupChange) : Prop :=
  ∀ env i s, env.devOrTestMode = false → env.rules = rules → WellFormed s →
    change.IdsFresh pl verify env i s → ∀ accountHash,
      (change.handle pl verify env i s).ofAccount accountHash ≠ s.ofAccount accountHash →
      verifiedAccount (verify change.authToken) = some accountHash

/-- A request that is not idle changes rows of its account, where one of its devices is
    known. -/
theorem exists_changes (pl : Planner) (verify : String → Option VerificationResult)
    {rules : FolderRules} {change : GroupChange} {accountHash : String} (h : ¬change.Idle rules)
    (haccount : change.account verify = some accountHash) : ∃ env i s,
      env.devOrTestMode = false ∧ env.rules = rules ∧ WellFormed s ∧
        change.IdsFresh pl verify env i s ∧
        (change.handle pl verify env i s).ofAccount accountHash ≠ s.ofAccount accountHash := by
  have hempty : WellFormed .empty :=
    { groupIds := .nil
      groupKeys := .nil
      watcherIds := .nil
      watcherKeys := .nil
      conditionOwner := fun _ hc => absurd hc List.not_mem_nil
      groupId_pos := fun _ hg => absurd hg List.not_mem_nil }
  have hone : FreshId [] 1 := by decide +kernel
  have htwo : FreshId [] 2 := by decide +kernel
  rcases change with req | req | req | req
  · obtain rfl := Option.some.inj haccount
    exact ⟨knownDevice rules req.accountHash req.deviceHash,
      ⟨.at 1 1, firstGroupOnly, fun _ => none⟩, .empty,
      rfl, rfl, hempty, ⟨hone, hone⟩, register_changes rfl h⟩
  · obtain rfl := Option.some.inj haccount
    -- The group has the id of its number, if that may be one.
    obtain ⟨nextId, hnextId, hfresh⟩ :
        ∃ nextId : ℕ, FreshId [] nextId ∧ FreshId [max req.groupId 1] nextId := by
      by_cases hid : max req.groupId 1 = 1
      · exact ⟨2, htwo, by rw [hid]; decide +kernel⟩
      · exact ⟨1, hone, by decide, by decide, by simpa using Ne.symm hid⟩
    refine ⟨knownDevice rules req.accountHash req.deviceHash,
      ⟨.at 1 nextId, firstGroupOnly, fun _ => none⟩,
      knownGroup req.accountHash req.groupId (max req.groupId 1), rfl, rfl,
      wellFormed_knownGroup (by omega), ⟨hfresh, hnextId⟩, ?_⟩
    rcases hdata : req.watcherData with _ | data
    · have hmax : max req.groupId 1 = req.groupId := by
        by_contra hne
        exact h (.inr ⟨hdata, by omega⟩)
      rw [hmax]
      exact update_changes_group rfl hdata
    · refine update_changes_watcher rfl hnextId hdata ?_ _
      rcases hvalid : validateWatcherFolder rules data.folder with msg | ⟨⟩
      · exact absurd (.inl ⟨msg, by rw [hdata]; exact hvalid⟩) h
      · rfl
  · obtain rfl := Option.some.inj haccount
    exact ⟨knownDevice rules req.accountHash req.deviceHash,
      ⟨.at 1 2, firstGroupOnly, fun _ => none⟩,
      knownGroup req.accountHash req.groupId 1, rfl, rfl, wellFormed_knownGroup Int.one_pos,
      ⟨(by decide +kernel : FreshId [1] 2), htwo⟩, delete_changes rfl⟩
  · obtain ⟨verified, hverify, rfl⟩ := Option.map_eq_some_iff.1 haccount
    refine ⟨knownDevice rules verified.accountHash req.deviceHash,
      ⟨.at 1 1, firstGroupOnly, fun _ => none⟩, .empty, rfl, rfl, hempty,
        fun verified' hverify' => ?_,
      sync_changes rfl hverify h⟩
    exact everyCall_firstGroupOnly h

/-- The requests of which this holds: the account that they work on is the one for which
    their token is valid, or they change nothing. -/
theorem authorised_iff (pl : Planner) (verify : String → Option VerificationResult)
    (rules : FolderRules) (change : GroupChange) :
    change.Authorised pl verify rules ↔
      change.account verify = verifiedAccount (verify change.authToken) ∨ change.Idle rules := by
  constructor
  · intro h
    by_contra hcon
    rw [not_or] at hcon
    obtain ⟨haccount, hidle⟩ := hcon
    rcases hown : change.account verify with _ | accountHash
    · -- Only a token without an answer gives no account.
      rcases change with req | req | req | req
      · cases hown
      · cases hown
      · cases hown
      · rw [account, Option.map_eq_none_iff] at hown
        rw [account, authToken, hown] at haccount
        exact haccount rfl
    · obtain ⟨env, i, s, hmode, hrules, hs, hfresh, hchanged⟩ := exists_changes pl verify hidle hown
      rw [h env i s hmode hrules hs hfresh accountHash hchanged, hown] at haccount
      exact haccount rfl
  · intro h env i s _ hrules hs hfresh accountHash hchanged
    rcases h with haccount | hidle
    · rw [← haccount]
      exact confined_handle hs.toAttributed hfresh hchanged
    · rw [← hrules] at hidle
      rw [handle_of_idle hs hidle] at hchanged
      exact absurd rfl hchanged

end GroupChange

/-- A registration with a token that is not valid. -/
def forgedRegister : GroupChange := .register ⟨"forged", "kim", "laptop", 7, "Music", none⟩

/-- The group of the account is made nevertheless. -/
theorem forged_register_changes_rows :
    let verify : String → Option VerificationResult := fun _ => some ⟨false, ""⟩
    let i : ChangeInputs := ⟨.at 10 1, .at 10 1, fun _ => none⟩
    WatcherEnv.sample.devOrTestMode = false ∧
      (forgedRegister.handle .insertion verify .sample i .empty).ofAccount "kim" ≠
        WatcherStore.empty.ofAccount "kim" ∧
      verifiedAccount (verify forgedRegister.authToken) ≠ some "kim" := by
  refine ⟨rfl, fun h => ?_, by decide⟩
  have hgroups := congrArg (fun s => s.groups.map fun g => (g.groupId, g.title)) h
  exact absurd hgroups (by decide +kernel)

end CosmicSync
