import CosmicSync.Handlers.FileHandler
import CosmicSync.Server.Recipients
import CosmicSync.Storage.WatcherStore

/-!
# The handlers of watchers

`handlers/watcher_handler.rs`: the requests by which a client registers, updates,
deletes, reads and synchronises its watcher groups, over any `WatcherStorage`; with
them `create_or_get_watcher` of `server/app_state.rs`, `validate_device_if_required` of
`utils/auth.rs` and `validate_watcher_folder` of `utils/validator.rs`.

A request works on a group by the number that the client has for it. Several storage
calls are made for one request, and what the first ones have written stays when a later
one fails: a handler returns the state together with its answer.

The result of `verify_token` is an argument, as for the file handlers. The requests that
register, update and delete a group do not look at their token: they name the account
themselves.
-/

namespace CosmicSync

open Table

/-- The codes of `tonic::Status` that the handlers answer with. -/
inductive Status where
  | unauthenticated (msg : String)
  | notFound (msg : String)
  | invalidArgument (msg : String)
  | internal (msg : String)
  deriving DecidableEq, Repr

/-! ## Checks -/

/-- The environment variables `WATCHER_FOLDER_ALLOW_NUMERIC` and
    `WATCHER_FOLDER_NUMERIC_SEGMENT_WHITELIST`, and the regular expression that
    `WATCHER_FOLDER_NUMERIC_SEGMENT_REGEX` compiles to. -/
structure FolderRules where
  allowNumeric : Option String
  whitelist : Option String
  regex : Option (String → Bool)

/-- No variable is set. -/
def FolderRules.unset : FolderRules := ⟨none, none, none⟩

/-- The segments that the whitelist names. -/
def FolderRules.whitelisted (rules : FolderRules) : List (List Char) :=
  (((rules.whitelist.getD "").toList.splitOn ',').map trim).filter (· ≠ [])

/-- A segment of digits that is not allowed. -/
def FolderRules.Rejects (rules : FolderRules) (segment : List Char) : Prop :=
  segment ≠ [] ∧ segment ≠ "~".toList ∧ segment ≠ ".".toList ∧ segment ≠ "..".toList ∧
    segment.all Char.isDigit ∧ segment ∉ rules.whitelisted ∧
    rules.regex.elim false (· (String.ofList segment)) = false

instance (rules : FolderRules) : DecidablePred rules.Rejects :=
  fun _ => inferInstanceAs (Decidable (_ ∧ _ ∧ _ ∧ _ ∧ _ ∧ _ ∧ _))

/-- `validate_watcher_folder`. -/
def validateWatcherFolder (rules : FolderRules) (folder : String) : Except String Unit :=
  if rules.allowNumeric.getD "0" = "1" then .ok ()
  else
    match (folder.toList.splitOn '/').find? rules.Rejects with
    | some segment =>
      .error ("Watcher folder contains numeric-only segment '" ++ String.ofList segment ++
        "' which is not allowed (set WATCHER_FOLDER_ALLOW_NUMERIC=1 or whitelist/regex)")
    | none => .ok ()

/-- What the handlers run with: whether the dev or the test mode is on, the rules for
    folders, the table of devices, and the subscribers to watcher groups. -/
structure WatcherEnv where
  devOrTestMode : Bool
  rules : FolderRules
  devices : List DeviceRow
  subscribers : List Subscriber

section

variable {σ : Type} (st : WatcherStorage σ) (env : WatcherEnv)

/-- `validate_device_if_required`. -/
def validateDeviceIfRequired (i : CallInputs) (accountHash deviceHash : String) :
    Except Status Unit :=
  if env.devOrTestMode then .ok ()
  else
    match i.query (st.validateDevice env.devices accountHash deviceHash) with
    | .ok true => .ok ()
    | .ok false => .error (.unauthenticated "Invalid device or account")
    | .error _ => .error (.internal "Error validating device")

/-! ## What the handlers share -/

/-- What the calls for one watcher meet. -/
structure WatcherInputs where
  find : CallInputs
  create : CallInputs
  save : CallInputs

/-- `create_or_get_watcher`. -/
def createOrGetWatcher (i : WatcherInputs) (s : σ) (accountHash : String) (groupId : ℤ)
    (data : WatcherData) : Except StorageError (ℤ × σ) :=
  match validateWatcherFolder env.rules data.folder with
  | .error msg => .error (.validation msg)
  | .ok () => do
    match ← st.findWatcherByFolder s i.find accountHash groupId data.folder with
    | some watcherId =>
      -- The conditions that the server has are kept when none are sent.
      if WatcherStore.incomingEmpty data then return (watcherId, s)
      let conditions :=
        WatcherStore.conditionsOf accountHash watcherId groupId i.save.now.seconds data
      let (_, s) ← st.saveWatcherConditions s i.save watcherId conditions
      return (watcherId, s)
    | none =>
      st.createWatcherWithConditions s i.create accountHash groupId data i.create.now.seconds

/-- `AppState::broadcast_watcher_group_update`: nothing is sent if the group cannot be read. -/
def notifyGroupUpdate (i : CallInputs) (s : σ) (accountHash deviceHash : String) (groupId : ℤ)
    (updateType : WatcherUpdateType) : List (String × WatcherGroupUpdateNotification) :=
  match st.getWatcherGroupByAccountAndId s i accountHash groupId with
  | .ok groupData =>
    broadcastWatcherGroupUpdate env.subscribers accountHash (some deviceHash)
      ⟨accountHash, deviceHash, groupData, updateType, i.now.seconds⟩
  | .error _ => []

/-- What comes of a request: the state, the answer, and the notifications with the keys
    of their recipients. -/
structure Handled (σ ρ : Type) where
  store : σ
  answer : Except Status ρ
  sent : List (String × WatcherGroupUpdateNotification)

/-- A request that is refused. -/
def Handled.refused {ρ : Type} (s : σ) (status : Status) : Handled σ ρ := ⟨s, .error status, []⟩

/-- The response to a registration, an update or a deletion. -/
structure WatcherGroupResponse where
  success : Bool
  groupId : ℤ
  returnMessage : String
  deriving DecidableEq, Repr

/-- What the calls of a request meet. -/
structure GroupRequestInputs where
  device : CallInputs
  lookup : CallInputs
  write : CallInputs
  watcher : WatcherInputs
  save : CallInputs
  broadcast : CallInputs

/-! ## Registering a group -/

/-- `RegisterWatcherGroupRequest` and `UpdateWatcherGroupRequest`. -/
structure WatcherGroupRequest where
  authToken : String
  accountHash : String
  deviceHash : String
  groupId : ℤ
  title : String
  watcherData : Option WatcherData

/-- The group that is registered under a number. -/
def groupToRegister (now : DateTime) (accountHash : String) (groupId : ℤ) (title : String) :
    WatcherGroup where
  id := 0
  groupId := groupId
  accountHash := accountHash
  title := title
  createdAt := now.seconds
  updatedAt := now.seconds
  isActive := true
  watcherIds := []

/-- The folder of the watcher, if one is sent. -/
def validateSentFolder (rules : FolderRules) (data : Option WatcherData) : Except String Unit :=
  match data with
  | some data => validateWatcherFolder rules data.folder
  | none => .ok ()

/-- `register_watcher_group`. The watcher goes to the group with the number that the
    storage has answered. -/
def handleRegisterWatcherGroup (i : GroupRequestInputs) (s : σ) (req : WatcherGroupRequest) :
    Handled σ WatcherGroupResponse :=
  match validateDeviceIfRequired st env i.device req.accountHash req.deviceHash,
      validateSentFolder env.rules req.watcherData with
  | .error status, _ => .refused s status
  | .ok (), .error msg => .refused s (.invalidArgument msg)
  | .ok (), .ok () =>
    let group := groupToRegister i.write.now req.accountHash req.groupId req.title
    match st.registerWatcherGroup s i.write req.accountHash req.deviceHash group with
    | .error e => .refused s (.internal ("Failed to register watcher group: " ++ e.display))
    | .ok (registeredGroupId, s) =>
      let created := match req.watcherData with
        | some data => (st.createWatcherWithConditions s i.watcher.create req.accountHash
            registeredGroupId data i.watcher.create.now.seconds).map Prod.snd
        | none => .ok s
      match created with
      | .error e => .refused s (.internal ("Failed to create watcher: " ++ e.display))
      | .ok s =>
        ⟨s, .ok ⟨true, req.groupId, ""⟩, notifyGroupUpdate st env i.broadcast s req.accountHash
          req.deviceHash registeredGroupId .created⟩

/-! ## Updating a group -/

/-- The watcher that comes with an update, and the ids of the watchers of the group with
    it. -/
def applySentWatcher (i : GroupRequestInputs) (s : σ) (accountHash : String) (groupId : ℤ)
    (watcherIds : List ℤ) (data : Option WatcherData) : σ × Except Status (List ℤ) :=
  match data with
  | none => (s, .ok watcherIds)
  | some data =>
    match createOrGetWatcher st env i.watcher s accountHash groupId data with
    | .error e => (s, .error (.internal ("Failed to create watcher: " ++ e.display)))
    | .ok (watcherId, s) =>
      let watcherIds := if watcherId ∈ watcherIds then watcherIds else watcherIds ++ [watcherId]
      if WatcherStore.incomingEmpty data then (s, .ok watcherIds)
      else
        let conditions :=
          WatcherStore.conditionsOf accountHash watcherId groupId i.save.now.seconds data
        match st.saveWatcherConditions s i.save watcherId conditions with
        | .error _ => (s, .error (.internal "Failed to save watcher conditions"))
        | .ok (_, s) => (s, .ok watcherIds)

/-- The group that an update writes: its `id` is the number of the client. -/
def groupToUpdate (now : DateTime) (existing : WatcherGroup) (watcherIds : List ℤ)
    (req : WatcherGroupRequest) : WatcherGroup where
  id := req.groupId
  groupId := existing.groupId
  accountHash := req.accountHash
  title := req.title
  createdAt := existing.createdAt
  updatedAt := now.seconds
  isActive := true
  watcherIds := watcherIds

/-- `update_watcher_group`. -/
def handleUpdateWatcherGroup (i : GroupRequestInputs) (s : σ) (req : WatcherGroupRequest) :
    Handled σ WatcherGroupResponse :=
  match validateDeviceIfRequired st env i.device req.accountHash req.deviceHash with
  | .error status => .refused s status
  | .ok () =>
    match st.getUserWatcherGroup s i.lookup req.accountHash req.groupId with
    | .error _ => .refused s (.internal "Error getting watcher group")
    | .ok none =>
      .refused s (.notFound ("Watcher group " ++ toString req.groupId ++ " not found"))
    | .ok (some existing) =>
      match applySentWatcher st env i s req.accountHash req.groupId existing.watcherIds
          req.watcherData with
      | (s, .error status) => .refused s status
      | (s, .ok watcherIds) =>
        let group := groupToUpdate i.write.now existing watcherIds req
        match st.updateWatcherGroup s i.write req.accountHash group with
        | .error e => .refused s (.internal ("Failed to update watcher group: " ++ e.display))
        | .ok (_, s) =>
          ⟨s, .ok ⟨true, req.groupId, ""⟩, notifyGroupUpdate st env i.broadcast s req.accountHash
            req.deviceHash req.groupId .created⟩

/-! ## Deleting and reading a group -/

/-- `DeleteWatcherGroupRequest` and `GetWatcherGroupRequest`. -/
structure WatcherGroupIdRequest where
  authToken : String
  accountHash : String
  deviceHash : String
  groupId : ℤ

/-- `delete_watcher_group`. -/
def handleDeleteWatcherGroup (i : GroupRequestInputs) (s : σ) (req : WatcherGroupIdRequest) :
    Handled σ WatcherGroupResponse :=
  match validateDeviceIfRequired st env i.device req.accountHash req.deviceHash with
  | .error status => .refused s status
  | .ok () =>
    match st.getWatcherGroupByAccountAndId s i.lookup req.accountHash req.groupId with
    | .error _ => .refused s (.internal "Error getting watcher group")
    | .ok none =>
      .refused s (.notFound ("Watcher group " ++ toString req.groupId ++ " not found"))
    | .ok (some groupData) =>
      match st.deleteWatcherGroup s i.write req.accountHash req.groupId with
      | .error _ => .refused s (.internal "Error deleting watcher group")
      | .ok (_, s) =>
        ⟨s, .ok ⟨true, req.groupId, ""⟩,
          broadcastWatcherGroupUpdate env.subscribers req.accountHash (some req.deviceHash)
            ⟨req.accountHash, req.deviceHash, some groupData, .deleted, i.broadcast.now.seconds⟩⟩

/-- `GetWatcherGroupResponse`. -/
structure GetWatcherGroupResponse where
  success : Bool
  watchergroup : Option WatcherGroupData
  returnMessage : String
  deriving DecidableEq, Repr

/-- `get_watcher_group`: the account is that of the token, whether or not it is valid. -/
def handleGetWatcherGroup (auth : Option VerificationResult) (i : GroupRequestInputs) (s : σ)
    (req : WatcherGroupIdRequest) : Except Status GetWatcherGroupResponse :=
  match auth with
  | none => .error (.unauthenticated "Invalid authentication token")
  | some verified =>
    match validateDeviceIfRequired st env i.device verified.accountHash req.deviceHash with
    | .error status => .error status
    | .ok () =>
      match st.getWatcherGroupByAccountAndId s i.lookup verified.accountHash req.groupId with
      | .error _ => .error (.internal "Error getting watcher group")
      | .ok none => .error (.notFound ("Watcher group not found: " ++ toString req.groupId))
      | .ok (some group) => .ok ⟨true, some group, ""⟩

/-! ## Synchronising the configuration -/

/-- `SyncConfigurationRequest`, without its `client_timestamp`, which plays no part. -/
structure SyncConfigurationRequest where
  authToken : String
  accountHash : String
  deviceHash : String
  watcherGroups : List WatcherGroupData
  presets : List String
  incremental : Bool
  forceUpdate : Bool

/-- What the calls for one group meet. -/
structure GroupInputs where
  lookup : CallInputs
  write : CallInputs
  watchers : ℕ → WatcherInputs
  broadcast : CallInputs

/-- Where a synchronisation has got to: the state, the counts of the statistics, the
    conflicts, and what has been sent. -/
structure SyncProgress (σ : Type) where
  store : σ
  groupsUpdated : ℕ
  groupsCreated : ℕ
  totalOperations : ℕ
  conflictDetails : List String
  sent : List (String × WatcherGroupUpdateNotification)

/-- A conflict is recorded. -/
def SyncProgress.conflict (p : SyncProgress σ) (detail : String) : SyncProgress σ :=
  { p with conflictDetails := p.conflictDetails ++ [detail] }

/-- One watcher of a group. -/
def syncWatcher (failure accountHash : String) (groupId : ℤ) (p : SyncProgress σ)
    (watcher : WatcherInputs × WatcherData) : SyncProgress σ :=
  match createOrGetWatcher st env watcher.1 p.store accountHash groupId watcher.2 with
  | .ok (_, s) => { p with store := s }
  | .error e => p.conflict (failure ++ toString groupId ++ ": " ++ e.display)

/-- The watchers of a group, with what their calls meet. -/
def GroupInputs.zip (i : GroupInputs) (group : WatcherGroupData) :
    List (WatcherInputs × WatcherData) :=
  group.watchers.mapIdx fun k data => (i.watchers k, data)

/-- The loop over the watchers of a group, and the notification after it. -/
def syncWatchers (i : GroupInputs) (failure accountHash deviceHash : String)
    (group : WatcherGroupData)
    (updateType : WatcherUpdateType) (p : SyncProgress σ) : SyncProgress σ :=
  let p := (i.zip group).foldl (syncWatcher st env failure accountHash group.groupId) p
  { p with
    sent := p.sent ++
      notifyGroupUpdate st env i.broadcast p.store accountHash deviceHash group.groupId updateType }

/-- The group that an update of a known group writes: an empty title is not one. -/
def syncedGroup (now : DateTime) (accountHash title : String) (existing : WatcherGroup) :
    WatcherGroup :=
  { existing with
    accountHash := accountHash
    title := if title = "" then existing.title else title
    updatedAt := now.seconds
    isActive := true }

/-- The row of one group: a known one is updated, unless the synchronisation is incremental
    and not forced; another one is registered. When this has succeeded the watchers follow,
    with the text of their conflicts and the type of the notification. -/
def syncGroupRow (req : SyncConfigurationRequest) (accountHash : String) (p : SyncProgress σ)
    (i : GroupInputs) (group : WatcherGroupData) :
    SyncProgress σ × Option (String × WatcherUpdateType) :=
  match st.getUserWatcherGroup p.store i.lookup accountHash group.groupId with
  | .error e =>
    (p.conflict ("Error checking group " ++ toString group.groupId ++ ": " ++ e.display), none)
  | .ok (some existing) =>
    if req.forceUpdate ∨ ¬req.incremental then
      match st.updateWatcherGroup p.store i.write accountHash
          (syncedGroup i.write.now accountHash group.title existing) with
      | .error e =>
        (p.conflict ("Failed to update group " ++ toString group.groupId ++ ": " ++ e.display),
          none)
      | .ok (_, s) =>
        ({ p with
          store := s
          groupsUpdated := p.groupsUpdated + 1
          totalOperations := p.totalOperations + 1 },
            some ("Watcher upsert failed in group ", .updated))
    else (p, none)
  | .ok none =>
    let title := if group.title = "" then "Synced Group" else group.title
    match st.registerWatcherGroup p.store i.write accountHash req.deviceHash
        (groupToRegister i.write.now accountHash group.groupId title) with
    | .error e =>
      (p.conflict ("Failed to create group " ++ toString group.groupId ++ ": " ++ e.display), none)
    | .ok (_, s) =>
      ({ p with
        store := s
        groupsCreated := p.groupsCreated + 1
        totalOperations := p.totalOperations + 1 },
          some ("Watcher create failed in new group ", .created))

/-- One group with its watchers. -/
def syncGroup (req : SyncConfigurationRequest) (accountHash : String) (p : SyncProgress σ)
    (group : GroupInputs × WatcherGroupData) : SyncProgress σ :=
  match syncGroupRow st req accountHash p group.1 group.2 with
  | (p, none) => p
  | (p, some (failure, updateType)) =>
    syncWatchers st env group.1 failure accountHash req.deviceHash group.2 updateType p

/-- What the calls of a synchronisation meet; the groups of the answer come in the order
    in which they have been read. -/
structure SyncInputs where
  device : CallInputs
  groups : ℕ → GroupInputs
  presets : CallInputs
  listing : CallInputs
  reading : ℤ → CallInputs
  readingOrder : Planner
  now : ℤ

/-- The groups of a request, with what their calls meet. -/
def SyncInputs.zip (i : SyncInputs) (req : SyncConfigurationRequest) :
    List (GroupInputs × WatcherGroupData) :=
  req.watcherGroups.mapIdx fun k group => (i.groups k, group)

/-- The loop over the groups. -/
def syncGroups (i : SyncInputs) (req : SyncConfigurationRequest) (accountHash : String) (s : σ) :
    SyncProgress σ :=
  (i.zip req).foldl (syncGroup st env req accountHash) ⟨s, 0, 0, 0, [], []⟩

/-- `SyncConfigurationResponse`, without the duration. -/
structure SyncConfigurationResponse where
  success : Bool
  returnMessage : String
  groupsUpdated : ℕ
  groupsCreated : ℕ
  presetsUpdated : ℕ
  totalOperations : ℕ
  serverWatcherGroups : List WatcherGroupData
  serverPresets : List String
  serverTimestamp : ℤ
  conflictsDetected : Bool
  conflictDetails : List String

/-- The groups of an account, each read by the client's number. -/
def serverWatcherGroups (i : SyncInputs) (s : σ) (accountHash : String) : List WatcherGroupData :=
  let groups := (st.getWatcherGroups s i.listing accountHash).toOption.getD []
  i.readingOrder.arrange (groups.filterMap fun group =>
    ((st.getWatcherGroupByAccountAndId s (i.reading group.groupId) accountHash
      group.groupId).toOption).join)

/-- `sync_configuration`: the account is that of the token, whether or not it is valid.
    The presets of the accounts are `presets`, and are returned as they are afterwards. -/
def handleSyncConfiguration (auth : Option VerificationResult) (i : SyncInputs) (s : σ)
    (presets : String → Option (List String)) (req : SyncConfigurationRequest) :
    Handled σ SyncConfigurationResponse × (String → Option (List String)) :=
  match auth with
  | none => (.refused s (.unauthenticated "Invalid authentication token"), presets)
  | some verified =>
    let accountHash := verified.accountHash
    match validateDeviceIfRequired st env i.device accountHash req.deviceHash with
    | .error status => (.refused s status, presets)
    | .ok () =>
      let p := syncGroups st env i req accountHash s
      let (presetsUpdated, details, presets') := match req.presets, i.presets.fault with
        | [], _ => (0, p.conflictDetails, presets)
        | _ :: _, some e =>
          (0, p.conflictDetails ++ ["Failed to sync presets: " ++ e.display], presets)
        | _ :: _, none =>
          (1, p.conflictDetails, Function.update presets accountHash (some req.presets))
      let response : SyncConfigurationResponse :=
        { success := details.isEmpty
          returnMessage :=
            if details.isEmpty then "Configuration sync completed successfully"
            else "Partial sync completed with " ++ toString details.length ++ " conflicts"
          groupsUpdated := p.groupsUpdated
          groupsCreated := p.groupsCreated
          presetsUpdated := presetsUpdated
          totalOperations := p.totalOperations + presetsUpdated
          serverWatcherGroups := serverWatcherGroups st i p.store accountHash
          serverPresets := (presets' accountHash).getD []
          serverTimestamp := i.now
          conflictsDetected := !details.isEmpty
          conflictDetails := details }
      (⟨p.store, .ok response, p.sent⟩, presets')

end

/-! ## On the database -/

section

variable {pl : Planner} {env : WatcherEnv} {s s' : WatcherStore} {accountHash : String}
  {groupId id time : ℤ} {data : WatcherData}

theorem CallInputs.query_eq_ok {α : Type} {i : CallInputs} {a b : α} :
    i.query a = .ok b ↔ i.fault = none ∧ a = b := by
  rw [CallInputs.query]
  rcases i.fault with _ | e
  · simp
  · simp

/-- The conditions of a watcher after a save, which is made if some are sent. -/
def savedStore (s : WatcherStore) (time : ℤ) (accountHash : String) (watcherId groupId : ℤ)
    (data : WatcherData) : WatcherStore :=
  if WatcherStore.incomingEmpty data then s
  else { s with
    conditions := WatcherStore.replaceConditions watcherId
      (WatcherStore.conditionsOf accountHash watcherId groupId time data) s.conditions }

theorem createOrGetWatcher_ok {i : WatcherInputs}
    (h : createOrGetWatcher (mySqlStorage pl) env i s accountHash groupId data = .ok (id, s')) :
    (∃ r, fetchOptional pl (WatcherRow.AtFolder accountHash groupId
          (normalizePathPreserveTilde data.folder)) s.watchers = some r ∧ id = r.id ∧
        s' = savedStore s i.save.now.seconds accountHash r.id groupId data) ∨
      (fetchOptional pl (WatcherRow.AtFolder accountHash groupId
          (normalizePathPreserveTilde data.folder)) s.watchers = none ∧
        s.createWatcherWithConditions pl i.create accountHash groupId data i.create.now.seconds =
          .ok (id, s')) := by
  unfold createOrGetWatcher at h
  split at h
  next => cases h
  next =>
    obtain ⟨found, hfind, h⟩ := bind_eq_ok h
    obtain ⟨-, hfound⟩ := CallInputs.query_eq_ok.1 hfind
    rcases found with _ | watcherId
    · exact .inr ⟨Option.map_eq_none_iff.1 hfound, h⟩
    · obtain ⟨r, hr, rfl⟩ := Option.map_eq_some_iff.1 hfound
      refine .inl ⟨r, hr, ?_⟩
      rw [savedStore]
      dsimp only at h
      split at h
      next hempty =>
        cases h
        exact ⟨rfl, (if_pos hempty).symm⟩
      next hempty =>
        obtain ⟨⟨⟨⟩, s₁⟩, hsave, h⟩ := bind_eq_ok h
        cases h
        rw [if_neg hempty]
        exact ⟨rfl, WatcherStore.saveWatcherConditions_ok hsave⟩

@[simp]
theorem groups_savedStore : (savedStore s time accountHash id groupId data).groups = s.groups := by
  unfold savedStore
  split <;> rfl

@[simp]
theorem watchers_savedStore :
    (savedStore s time accountHash id groupId data).watchers = s.watchers := by
  unfold savedStore
  split <;> rfl

theorem savedStore_of_empty (h : WatcherStore.incomingEmpty data) :
    savedStore s time accountHash id groupId data = s :=
  if_pos h

theorem conditionsWith_savedStore (h : ¬WatcherStore.incomingEmpty data) :
    (savedStore s time accountHash id groupId data).conditionsWith id =
      WatcherStore.savedConditions accountHash id groupId time data := by
  rw [savedStore, if_neg h]
  exact WatcherStore.filter_replaceConditions_self

theorem conditionsWith_savedStore_of_ne {id' : ℤ} (h : id ≠ id') :
    (savedStore s time accountHash id groupId data).conditionsWith id' = s.conditionsWith id' := by
  unfold savedStore
  split
  · rfl
  · exact WatcherStore.filter_replaceConditions_of_ne h

theorem conditionsWith_append_of_ne {conditions : List WatcherCondition} {s₁ : WatcherStore}
    {id' : ℤ}
    (hconditions : s₁.conditions = conditions ++
      WatcherStore.conditionsOf accountHash id groupId time data)
    (hne : id ≠ id') : s₁.conditionsWith id' = conditions.filter (·.watcherId = id') := by
  rw [WatcherStore.conditionsWith, hconditions]
  exact WatcherStore.filter_append_conditionsOf hne

theorem groups_of_createOrGetWatcher {i : WatcherInputs} {s₁ : WatcherStore}
    (h : createOrGetWatcher (mySqlStorage pl) env i s accountHash groupId data = .ok (id, s₁)) :
    s₁.groups = s.groups := by
  rcases createOrGetWatcher_ok h with ⟨r, -, -, rfl⟩ | ⟨-, hcreate⟩
  · exact groups_savedStore
  · exact WatcherStore.groups_of_createWatcherWithConditions hcreate

end

end CosmicSync
