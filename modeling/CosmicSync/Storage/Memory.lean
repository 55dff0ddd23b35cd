import CosmicSync.Library.HashMap
import CosmicSync.Storage.WatcherStore

/-!
# Watchers in memory

The calls of `storage/memory.rs` on watcher groups and watchers. Groups and watchers are
kept under the ids that the server gives them. A registration answers with such an id,
where the database answers with the number of the client; and the calls that read, update
and delete a group take the number that they are given for its id.

None of the calls waits for anything that may fail.
-/

namespace CosmicSync

open Table WatcherStore

/-- `StorageData`, as far as the handlers of watchers use it. -/
structure MemoryData where
  watcherGroups : HashMap ℤ WatcherGroup
  watchers : HashMap ℤ Watcher
  nextConditionId : ℤ
  watcherConditions : HashMap ℤ WatcherCondition

namespace MemoryData

/-- `StorageData::new`. -/
def new : MemoryData := ⟨.empty, .empty, 1, .empty⟩

variable (pl : Planner) (d : MemoryData)

/-! ## Groups -/

/-- `register_watcher_group`: the answer is the id of the server. A group that the client
    has registered before is not looked for. -/
def registerWatcherGroup (group : WatcherGroup) : ℤ × MemoryData :=
  let serverId := d.watcherGroups.nextKey
  (serverId, { d with
    watcherGroups := d.watcherGroups.insert serverId { group with id := serverId } })

/-- `get_watcher_groups`. -/
def getWatcherGroups (accountHash : String) : List WatcherGroup :=
  (fetchAll pl (fun e => e.2.accountHash = accountHash) d.watcherGroups.entries).map Prod.snd

/-- `get_user_watcher_group`, by the id of the server. -/
def getUserWatcherGroup (accountHash : String) (groupId : ℤ) : Option WatcherGroup :=
  (d.watcherGroups.get? groupId).filter (·.accountHash = accountHash)

/-- `update_watcher_group`. -/
def updateWatcherGroup (accountHash : String) (group : WatcherGroup) :
    Except StorageError (Unit × MemoryData) :=
  match d.watcherGroups.get? group.id with
  | some existing =>
    if existing.accountHash ≠ accountHash then
      .error (.permissionDenied "Not the owner of the watcher group")
    else .ok ((), { d with
      watcherGroups := d.watcherGroups.insert group.id group })
  | none => .error (.notFound "Watcher group not found")

/-- `delete_watcher_group`, by the id of the server: the conditions, the watchers, then the
    group. -/
def deleteWatcherGroup (accountHash : String) (groupId : ℤ) :
    Except StorageError (Unit × MemoryData) :=
  match d.watcherGroups.get? groupId with
  | some group =>
    if group.accountHash = accountHash then
      let ids := (d.watchers.entries.filter fun e =>
        e.2.accountHash = accountHash ∧ e.2.groupId = groupId).map Prod.fst
      .ok ((), { d with
        watcherConditions := d.watcherConditions.retain fun _ c => c.watcherId ∉ ids
        watchers := d.watchers.retain fun id _ => id ∉ ids
        watcherGroups := d.watcherGroups.remove groupId })
    else .error (.permissionDenied "Not the owner of the watcher group")
  | none => .error (.notFound "Watcher group not found")

/-- `get_watcher_group_by_account_and_id`, by the id of the server: without the watchers and
    without a time. -/
def getWatcherGroupByAccountAndId (accountHash : String) (groupId : ℤ) : Option WatcherGroupData :=
  ((d.watcherGroups.get? groupId).filter (·.accountHash = accountHash)).map fun group =>
    { groupId := group.groupId
      title := group.title
      watchers := []
      lastUpdated := none }

/-! ## Watchers -/

/-- `find_watcher_by_folder`. -/
def findWatcherByFolder (accountHash : String) (groupId : ℤ) (folder : String) : Option ℤ :=
  (d.watchers.findEntry pl fun w => w.accountHash = accountHash ∧ w.groupId = groupId ∧
    w.folder = normalizePathPreserveTilde folder).map Prod.fst

/-- Conditions are added under the next ids. -/
def addConditions (conditions : List WatcherCondition) : MemoryData :=
  conditions.foldl (fun d c => { d with
    watcherConditions := d.watcherConditions.insert d.nextConditionId c
    nextConditionId := d.nextConditionId + 1 }) d

/-- The watcher that is created: the id of its group is also taken for the client's number. -/
def newWatcher (now : DateTime) (accountHash : String) (groupId : ℤ) (data : WatcherData)
    (timestamp : ℤ) : Watcher :=
  let nextId := d.watchers.nextKey
  { id := nextId
    watcherId := data.watcherId
    accountHash := accountHash
    groupId := groupId
    localGroupId := groupId
    title := "Watcher " ++ toString nextId
    folder := normalizePathPreserveTilde data.folder
    unionConditions := data.unionConditions
    subtractingConditions := data.subtractingConditions
    recursivePath := data.recursivePath
    preset := data.preset
    customType := data.customType
    updateMode := data.updateMode
    isActive := true
    extraJson := data.extraJson
    createdAt := (datetimeOf now timestamp).seconds
    updatedAt := (datetimeOf now timestamp).seconds }

/-- A group with one more watcher. -/
def pushWatcherId (id : ℤ) (group : WatcherGroup) : WatcherGroup :=
  if id ∈ group.watcherIds then group else { group with watcherIds := group.watcherIds ++ [id] }

/-- `create_watcher_with_conditions`. -/
def createWatcherWithConditions (now : DateTime) (accountHash : String) (groupId : ℤ)
    (data : WatcherData) (timestamp : ℤ) : ℤ × MemoryData :=
  let nextId := d.watchers.nextKey
  let conditions := conditionsOf accountHash nextId groupId (datetimeOf now timestamp).seconds data
  let d' := addConditions { d with
    watchers := d.watchers.insert nextId (d.newWatcher now accountHash groupId data timestamp) }
      conditions
  (nextId, { d' with
    watcherGroups := d'.watcherGroups.modify groupId (pushWatcherId nextId) })

/-- `save_watcher_conditions`. -/
def saveWatcherConditions (watcherId : ℤ) (conditions : List WatcherCondition) : MemoryData :=
  addConditions { d with
    watcherConditions := d.watcherConditions.retain fun _ c => c.watcherId ≠ watcherId }
    (conditions.map fun c => { c with watcherId := watcherId })

section

variable {d}

@[simp]
theorem watchers_addConditions (conditions : List WatcherCondition) :
    (d.addConditions conditions).watchers = d.watchers := by
  induction conditions generalizing d with
  | nil => rfl
  | cons c conditions ih => exact ih

@[simp]
theorem watcherGroups_addConditions (conditions : List WatcherCondition) :
    (d.addConditions conditions).watcherGroups = d.watcherGroups := by
  induction conditions generalizing d with
  | nil => rfl
  | cons c conditions ih => exact ih

theorem watchers_createWatcherWithConditions {now : DateTime} {accountHash : String}
    {groupId timestamp : ℤ} {data : WatcherData} :
    (d.createWatcherWithConditions now accountHash groupId data timestamp).2.watchers =
      d.watchers.insert d.watchers.nextKey (d.newWatcher now accountHash groupId data timestamp) :=
  watchers_addConditions _

theorem watcherGroups_createWatcherWithConditions {now : DateTime} {accountHash : String}
    {groupId timestamp : ℤ} {data : WatcherData} :
    (d.createWatcherWithConditions now accountHash groupId data timestamp).2.watcherGroups =
      d.watcherGroups.modify groupId (pushWatcherId d.watchers.nextKey) := by
  rw [createWatcherWithConditions]
  dsimp only
  rw [watcherGroups_addConditions]

end

/-! ## Ids -/

/-- `get_server_group_id`. -/
def getServerGroupId (accountHash : String) (clientGroupId : ℤ) : Option ℤ :=
  (d.watcherGroups.findEntry pl fun g => g.accountHash = accountHash ∧
    g.groupId = clientGroupId).map
    Prod.fst

/-- `get_server_ids`. -/
def getServerIds (accountHash : String) (clientGroupId clientWatcherId : ℤ) : Option (ℤ × ℤ) := do
  let groupId ← d.getServerGroupId pl accountHash clientGroupId
  let entry ← d.watchers.findEntry pl fun w =>
    w.accountHash = accountHash ∧ w.localGroupId = clientGroupId ∧ w.watcherId = clientWatcherId
  return (groupId, entry.1)

end MemoryData

/-- `MemoryStorage`. A device is known if there is one under the key of the two hashes. -/
def memoryStorage (pl : Planner) : WatcherStorage MemoryData where
  validateDevice devices accountHash deviceHash :=
    devices.any fun d => d.accountHash ++ ":" ++ d.deviceHash = accountHash ++ ":" ++ deviceHash
  registerWatcherGroup d _ _ _ group := .ok (d.registerWatcherGroup group)
  updateWatcherGroup d _ := d.updateWatcherGroup
  deleteWatcherGroup d _ := d.deleteWatcherGroup
  getWatcherGroups d _ accountHash := .ok (d.getWatcherGroups pl accountHash)
  getUserWatcherGroup d _ accountHash groupId := .ok (d.getUserWatcherGroup accountHash groupId)
  getWatcherGroupByAccountAndId d _ accountHash groupId :=
    .ok (d.getWatcherGroupByAccountAndId accountHash groupId)
  findWatcherByFolder d _ accountHash groupId folder :=
    .ok (d.findWatcherByFolder pl accountHash groupId folder)
  createWatcherWithConditions d i accountHash groupId data timestamp :=
    .ok (d.createWatcherWithConditions i.now accountHash groupId data timestamp)
  saveWatcherConditions d _ watcherId conditions :=
    .ok ((), d.saveWatcherConditions watcherId conditions)

end CosmicSync
