import CosmicSync.Models.Watcher
import CosmicSync.Storage.MySqlWatcher
import CosmicSync.Utils.Text

/-!
# Watchers and their conditions in the database

The calls of `storage/mysql_watcher.rs` that write the tables of watchers. A group is
known by the number of the client (`ClientGroup`) or by that of the server: the calls
that register, create and delete take the former, `updateWatcherGroup` the latter, and
so does `findWatcherByFolder`.

Times are compared in seconds, and a call that is not newer than the row it would
write does nothing.
-/

namespace CosmicSync

open Table

/-- The tables of the groups, of the watchers and of their conditions, the last in the
    order of their ids. -/
structure WatcherStore extends WatcherTables where
  conditions : List WatcherCondition

/-- Empty tables. -/
def WatcherStore.empty : WatcherStore := ⟨⟨[], []⟩, []⟩

/-- What a call meets: the clock, the id that the table would give to a new row, and the
    error of the statement that fails, if one does. -/
structure CallInputs where
  now : DateTime
  nextId : ℕ
  fault : Option StorageError

/-- The row that the client knows as the group `groupId`. -/
def WatcherGroupRow.ClientGroup (accountHash : String) (groupId : ℤ) (g : WatcherGroupRow) : Prop :=
  g.accountHash = accountHash ∧ g.groupId = groupId

instance (accountHash : String) (groupId : ℤ) :
    DecidablePred (WatcherGroupRow.ClientGroup accountHash groupId) :=
  fun _ => inferInstanceAs (Decidable (_ ∧ _))

/-- The row that the server knows as the group `id`. -/
def WatcherGroupRow.ServerGroup (accountHash : String) (id : ℤ) (g : WatcherGroupRow) : Prop :=
  g.id = id ∧ g.accountHash = accountHash

instance (accountHash : String) (id : ℤ) :
    DecidablePred (WatcherGroupRow.ServerGroup accountHash id) :=
  fun _ => inferInstanceAs (Decidable (_ ∧ _))

/-- The row that the client knows as the watcher `watcherId` of its group `groupId`. -/
def WatcherRow.ClientWatcher (accountHash : String) (groupId watcherId : ℤ) (r : WatcherRow) :
    Prop :=
  r.watcherId = watcherId ∧ r.accountHash = accountHash ∧ r.localGroupId = groupId

instance (accountHash : String) (groupId watcherId : ℤ) :
    DecidablePred (WatcherRow.ClientWatcher accountHash groupId watcherId) :=
  fun _ => inferInstanceAs (Decidable (_ ∧ _))

/-- A watcher of a folder, in the group with the server's number `id`. -/
def WatcherRow.AtFolder (accountHash : String) (id : ℤ) (folder : String) (r : WatcherRow) : Prop :=
  r.accountHash = accountHash ∧ r.groupId = id ∧ r.folder = folder

instance (accountHash : String) (id : ℤ) (folder : String) :
    DecidablePred (WatcherRow.AtFolder accountHash id folder) :=
  fun _ => inferInstanceAs (Decidable (_ ∧ _))

/-- The rows of the watchers of the group with the server's number `id`. -/
def WatcherRow.OfGroup (accountHash : String) (id : ℤ) (r : WatcherRow) : Prop :=
  r.accountHash = accountHash ∧ r.groupId = id

instance (accountHash : String) (id : ℤ) : DecidablePred (WatcherRow.OfGroup accountHash id) :=
  fun _ => inferInstanceAs (Decidable (_ ∧ _))

namespace WatcherStore

variable (pl : Planner) (s : WatcherStore)

/-! ## Groups -/

/-- The row found is as new as the time `updatedAt`. -/
def isNewer (updatedAt : ℤ) (existing : Option WatcherGroupRow) : Bool :=
  existing.any (updatedAt ≤ ·.updatedAt)

/-- The columns of a group that a later registration or an update writes. -/
def writeGroup (group : WatcherGroup) (g : WatcherGroupRow) : WatcherGroupRow :=
  { g with title := group.title, updatedAt := group.updatedAt, isActive := group.isActive }

/-- The row of a new group. -/
def newGroup (nextId : ℕ) (accountHash deviceHash : String) (group : WatcherGroup) :
    WatcherGroupRow where
  id := nextId
  groupId := group.groupId
  accountHash := accountHash
  deviceHash := deviceHash
  title := group.title
  createdAt := group.createdAt
  updatedAt := group.updatedAt
  isActive := group.isActive

/-- The statement of a registration. -/
def upsertGroup (nextId : ℕ) (accountHash deviceHash : String) (group : WatcherGroup) :
    List WatcherGroupRow → List WatcherGroupRow :=
  upsert (WatcherGroupRow.ClientGroup accountHash group.groupId) (writeGroup group)
    (newGroup nextId accountHash deviceHash group)

/-- `register_watcher_group`: the answer is the number of the client. The statement is
    executed twice. -/
def registerWatcherGroup (i : CallInputs) (accountHash deviceHash : String) (group : WatcherGroup) :
    Except StorageError (ℤ × WatcherStore) :=
  match i.fault with
  | some e => .error e
  | none =>
    let existing := fetchOptional pl (WatcherGroupRow.ClientGroup accountHash group.groupId)
      s.groups
    if isNewer group.updatedAt existing then .ok (group.groupId, s)
    else
      let groups := upsertGroup i.nextId accountHash deviceHash group s.groups
      .ok (group.groupId, { s with
        groups := upsertGroup i.nextId accountHash deviceHash group groups })

/-- `update_watcher_group`: the row is that of the server's number. -/
def updateWatcherGroup (i : CallInputs) (accountHash : String) (group : WatcherGroup) :
    Except StorageError (Unit × WatcherStore) :=
  match i.fault with
  | some e => .error e
  | none =>
    let existing := fetchOptional pl (WatcherGroupRow.ServerGroup accountHash group.id) s.groups
    if isNewer group.updatedAt existing then .ok ((), s)
    else
      .ok ((), { s with
        groups := updateWhere (WatcherGroupRow.ServerGroup accountHash group.id) (writeGroup group)
          s.groups })

/-- `delete_watcher_group`, by the number of the client: the conditions, the watchers, then
    the group. -/
def deleteWatcherGroup (i : CallInputs) (accountHash : String) (groupId : ℤ) :
    Except StorageError (Unit × WatcherStore) :=
  match i.fault, s.getServerGroupId pl accountHash groupId with
  | some e, _ => .error e
  | none, none => .ok ((), s)
  | none, some serverGroupId =>
    let ids := (s.watchers.filter (WatcherRow.OfGroup accountHash serverGroupId)).map WatcherRow.id
    .ok ((), {
      conditions := deleteWhere (fun c => c.watcherId ∈ ids) s.conditions
      watchers := deleteWhere (WatcherRow.OfGroup accountHash serverGroupId) s.watchers
      groups := deleteWhere (WatcherGroupRow.ServerGroup accountHash serverGroupId) s.groups })

/-! ## Watchers -/

/-- `DateTime::from_timestamp(timestamp, 0)`, or the present. -/
def datetimeOf (now : DateTime) (timestamp : ℤ) : DateTime :=
  (DateTime.fromTimestamp timestamp 0).getD now

/-- The row of a watcher is as new as the time of a call. -/
def AsNew (now : DateTime) (timestamp : ℤ) (r : WatcherRow) : Prop :=
  (datetimeOf now timestamp).le (datetimeOf now r.updatedAt)

instance (now : DateTime) (timestamp : ℤ) : DecidablePred (AsNew now timestamp) :=
  fun _ => inferInstanceAs (Decidable (DateTime.le _ _))

/-- The conditions that come with a watcher, first those of the union. -/
def conditionsOf (accountHash : String) (watcherId groupId time : ℤ) (data : WatcherData) :
    List WatcherCondition :=
  let condition (conditionType : ConditionType) (c : ConditionData) : WatcherCondition :=
    { accountHash := accountHash
      watcherId := watcherId
      localWatcherId := data.watcherId
      localGroupId := groupId
      conditionType := conditionType
      key := c.key
      value := c.value
      operator := "equals"
      createdAt := time
      updatedAt := time }
  data.unionConditions.map (condition .union) ++
    data.subtractingConditions.map (condition .subtract)

/-- No conditions come with the watcher. -/
def incomingEmpty (data : WatcherData) : Bool :=
  data.unionConditions.isEmpty && data.subtractingConditions.isEmpty

/-- The title of the watcher of a folder. -/
def watcherTitle (folder : String) : String :=
  "Watcher for " ++ String.ofList (folder.toList.rtakeWhile (· ≠ '/'))

/-- The row of a new watcher. -/
def newWatcher (nextId : ℕ) (accountHash : String) (dbGroupId groupId : ℤ) (data : WatcherData)
    (timestamp : ℤ) : WatcherRow :=
  let folder := normalizePathPreserveTilde data.folder
  { id := nextId
    watcherId := data.watcherId
    accountHash := accountHash
    groupId := dbGroupId
    localGroupId := groupId
    folder := folder
    title := watcherTitle folder
    isRecursive := data.recursivePath
    createdAt := timestamp
    updatedAt := timestamp
    isActive := true
    extraJson := data.extraJson }

/-- The columns of a watcher that are written when it is created again. -/
def writeWatcher (row r : WatcherRow) : WatcherRow :=
  { r with
    folder := row.folder
    title := row.title
    isRecursive := row.isRecursive
    updatedAt := row.updatedAt
    isActive := row.isActive
    extraJson := row.extraJson
    groupId := row.groupId }

/-- The row of the watcher is written, and its conditions are added to those it has. The
    id is that of the row, new or old. -/
def writeWatcherWithConditions (i : CallInputs) (accountHash : String) (dbGroupId groupId : ℤ)
    (data : WatcherData) (timestamp : ℤ) (existing : Option WatcherRow) :
    Except StorageError (ℤ × WatcherStore) :=
  let newId := existing.elim (WatcherTables.lastInsertId i.nextId) WatcherRow.id
  let row := newWatcher i.nextId accountHash dbGroupId groupId data timestamp
  if newId = 0 then .error (.database "Failed to create watcher: Invalid ID")
  else
    .ok (newId, { s with
      watchers := upsert (WatcherRow.ClientWatcher accountHash groupId data.watcherId)
        (writeWatcher row)
        row s.watchers
      conditions := s.conditions ++
        conditionsOf accountHash newId groupId (datetimeOf i.now timestamp).seconds data })

/-- `create_watcher_with_conditions`: `groupId` is the number of the client. -/
def createWatcherWithConditions (i : CallInputs) (accountHash : String) (groupId : ℤ)
    (data : WatcherData) (timestamp : ℤ) : Except StorageError (ℤ × WatcherStore) :=
  match i.fault, s.getServerGroupId pl accountHash groupId with
  | some e, _ => .error e
  | none, none =>
    .error (.database
      ("Watcher group with client group_id " ++ toString groupId ++ " not found after waiting"))
  | none, some dbGroupId =>
    let existing :=
      fetchOptional pl (WatcherRow.ClientWatcher accountHash groupId data.watcherId) s.watchers
    match existing with
    | some r =>
      if AsNew i.now timestamp r then .ok (r.id, s)
      else s.writeWatcherWithConditions i accountHash dbGroupId groupId data timestamp existing
    | none => s.writeWatcherWithConditions i accountHash dbGroupId groupId data timestamp existing

/-- `find_watcher_by_folder`: `groupId` is compared with the number of the server. -/
def findWatcherByFolder (accountHash : String) (groupId : ℤ) (folder : String) : Option ℤ :=
  (fetchOptional pl (WatcherRow.AtFolder accountHash groupId (normalizePathPreserveTilde folder))
    s.watchers).map WatcherRow.id

/-- The conditions of a watcher are replaced. The column `local_watcher_id` is not written. -/
def replaceConditions (watcherId : ℤ) (conditions table : List WatcherCondition) :
    List WatcherCondition :=
  deleteWhere (·.watcherId = watcherId) table ++
    conditions.map fun c => { c with localWatcherId := 0 }

/-- `save_watcher_conditions`. -/
def saveWatcherConditions (i : CallInputs) (watcherId : ℤ) (conditions : List WatcherCondition) :
    Except StorageError (Unit × WatcherStore) :=
  match i.fault with
  | some e => .error e
  | none =>
    .ok ((), { s with
      conditions := replaceConditions watcherId conditions s.conditions })

/-! ## Reading -/

/-- The conditions of a watcher. -/
def conditionsWith (watcherId : ℤ) : List WatcherCondition :=
  s.conditions.filter (·.watcherId = watcherId)

/-- `get_watcher_conditions`. -/
def getWatcherConditions (accountHash : String) (watcherId : ℤ) : List WatcherCondition :=
  s.conditions.filter fun c => c.accountHash = accountHash ∧ c.watcherId = watcherId

/-- The conditions of one type, as they are sent. -/
def conditionData (conditionType : ConditionType) (conditions : List WatcherCondition) :
    List ConditionData :=
  (conditions.filter (·.conditionType = conditionType)).map fun c => ⟨c.key, c.value⟩

/-- `get_watcher`. -/
def getWatcher (watcherId : ℤ) : Except StorageError WatcherData :=
  match fetchOptional pl (·.id = watcherId) s.watchers with
  | some r =>
    let conditions := s.getWatcherConditions r.accountHash r.id
    .ok {
      watcherId := r.watcherId
      folder := r.folder
      unionConditions := conditionData .union conditions
      subtractingConditions := conditionData .subtract conditions
      recursivePath := r.isRecursive
      preset := false
      customType := ""
      updateMode := ""
      isActive := true
      extraJson := "" }
  | none => .error (.notFound ("Watcher with id " ++ toString watcherId ++ " not found"))

/-- The ids of the watchers of a group. -/
def watcherIds (accountHash : String) (id : ℤ) : List ℤ :=
  (fetchAll pl (WatcherRow.OfGroup accountHash id) s.watchers).map WatcherRow.id

/-- The group of a row. -/
def toWatcherGroup (now : DateTime) (accountHash : String) (g : WatcherGroupRow) :
    WatcherGroup where
  id := g.id
  groupId := g.groupId
  accountHash := g.accountHash
  title := g.title
  createdAt := (datetimeOf now g.createdAt).seconds
  updatedAt := (datetimeOf now g.updatedAt).seconds
  isActive := g.isActive
  watcherIds := s.watcherIds pl accountHash g.id

/-- `get_watcher_groups`. -/
def getWatcherGroups (now : DateTime) (accountHash : String) : List WatcherGroup :=
  (fetchAllBy pl (·.accountHash = accountHash) s.groups (·.id ≤ ·.id)).map
    (s.toWatcherGroup pl now accountHash)

/-- `get_user_watcher_group`, by the number of the client. -/
def getUserWatcherGroup (now : DateTime) (accountHash : String) (groupId : ℤ) :
    Option WatcherGroup :=
  (fetchOptional pl (WatcherGroupRow.ClientGroup accountHash groupId) s.groups).map
    (s.toWatcherGroup pl now accountHash)

/-- `get_watcher_group_by_account_and_id`, by the number of the client. Watchers that are
    not found are left out. -/
def getWatcherGroupByAccountAndId (now : DateTime) (accountHash : String) (groupId : ℤ) :
    Option WatcherGroupData :=
  (fetchOptional pl (WatcherGroupRow.ClientGroup accountHash groupId) s.groups).map fun g =>
    let updatedAt := datetimeOf now g.updatedAt
    { groupId := g.groupId
      title := g.title
      watchers := (s.watcherIds pl accountHash g.id).filterMap fun id =>
        (s.getWatcher pl id).toOption
      lastUpdated := some ⟨updatedAt.seconds, updatedAt.nanos⟩ }

/-! ## What the calls can do -/

section

variable {pl : Planner} {s s' : WatcherStore} {i : CallInputs} {accountHash deviceHash : String}
  {group : WatcherGroup} {data : WatcherData} {groupId timestamp : ℤ}

theorem isNewer_eq_true {updatedAt : ℤ} {existing : Option WatcherGroupRow} :
    isNewer updatedAt existing = true ↔ ∃ g, existing = some g ∧ updatedAt ≤ g.updatedAt := by
  simp [isNewer, Option.any_eq_true]

theorem isNewer_eq_false {updatedAt : ℤ} {existing : Option WatcherGroupRow} :
    isNewer updatedAt existing = false ↔ ∀ g, existing = some g → g.updatedAt < updatedAt := by
  simp [isNewer, Option.any_eq_false]

theorem upsertGroup_upsertGroup (nextId : ℕ) (groups : List WatcherGroupRow) :
    upsertGroup nextId accountHash deviceHash group
      (upsertGroup nextId accountHash deviceHash group groups) =
      upsertGroup nextId accountHash deviceHash group groups :=
  upsert_upsert ⟨rfl, rfl⟩ (fun _ h => h) (fun _ => rfl) rfl

theorem registerWatcherGroup_ok {id : ℤ}
    (h : s.registerWatcherGroup pl i accountHash deviceHash group = .ok (id, s')) :
    id = group.groupId ∧
      ((isNewer group.updatedAt (fetchOptional pl
          (WatcherGroupRow.ClientGroup accountHash group.groupId) s.groups) = true ∧ s' = s) ∨
        s' = { s with
          groups := upsertGroup i.nextId accountHash deviceHash group s.groups }) := by
  unfold registerWatcherGroup at h
  split at h
  next => cases h
  next =>
    dsimp only at h
    split at h
    next hnewer =>
      cases h
      exact ⟨rfl, .inl ⟨hnewer, rfl⟩⟩
    next =>
      rw [upsertGroup_upsertGroup] at h
      cases h
      exact ⟨rfl, .inr rfl⟩

/-- A group that the client has not registered is new. -/
theorem registerWatcherGroup_of_forall (hfault : i.fault = none)
    (hnone : ∀ g ∈ s.groups, ¬WatcherGroupRow.ClientGroup accountHash group.groupId g) :
    s.registerWatcherGroup pl i accountHash deviceHash group = .ok (group.groupId, { s with
      groups := s.groups ++ [newGroup i.nextId accountHash deviceHash group] }) := by
  have hinsert : upsertGroup i.nextId accountHash deviceHash group s.groups =
      s.groups ++ [newGroup i.nextId accountHash deviceHash group] := upsert_of_forall hnone
  rw [registerWatcherGroup, hfault]
  dsimp only
  rw [fetchOptional_eq_none.2 hnone, isNewer, Option.any_none, if_neg Bool.false_ne_true,
    upsertGroup_upsertGroup, hinsert]

theorem updateWatcherGroup_ok (h : s.updateWatcherGroup pl i accountHash group = .ok ((), s')) :
    (isNewer group.updatedAt
        (fetchOptional pl (WatcherGroupRow.ServerGroup accountHash group.id) s.groups) =
          true ∧ s' = s) ∨
      (isNewer group.updatedAt
        (fetchOptional pl (WatcherGroupRow.ServerGroup accountHash group.id) s.groups) = false ∧
        s' = { s with
          groups := updateWhere (WatcherGroupRow.ServerGroup accountHash group.id)
            (writeGroup group)
            s.groups }) := by
  unfold updateWatcherGroup at h
  split at h
  next => cases h
  next =>
    dsimp only at h
    split at h
    next hnewer =>
      cases h
      exact .inl ⟨hnewer, rfl⟩
    next hnewer =>
      cases h
      exact .inr ⟨Bool.eq_false_of_not_eq_true hnewer, rfl⟩

theorem deleteWatcherGroup_ok (h : s.deleteWatcherGroup pl i accountHash groupId = .ok ((), s')) :
    s' = s ∨ ∃ id, s.getServerGroupId pl accountHash groupId = some id ∧ s' = {
      conditions := deleteWhere
        (fun c => c.watcherId ∈ (s.watchers.filter (WatcherRow.OfGroup accountHash id)).map
          WatcherRow.id)
        s.conditions
      watchers := deleteWhere (WatcherRow.OfGroup accountHash id) s.watchers
      groups := deleteWhere (WatcherGroupRow.ServerGroup accountHash id) s.groups } := by
  unfold deleteWatcherGroup at h
  split at h
  next => cases h
  next =>
    cases h
    exact .inl rfl
  next id _ hid =>
    cases h
    exact .inr ⟨id, hid, rfl⟩

/-- A watcher is created in the group that has the client's number. One that is there is
    left as it is if it is as new, and is written again if not. -/
theorem createWatcherWithConditions_ok {id : ℤ}
    (h : s.createWatcherWithConditions pl i accountHash groupId data timestamp = .ok (id, s')) :
    ∃ dbGroupId, s.getServerGroupId pl accountHash groupId = some dbGroupId ∧
      ((∃ r, fetchOptional pl (WatcherRow.ClientWatcher accountHash groupId data.watcherId)
        s.watchers =
          some r ∧ AsNew i.now timestamp r ∧ id = r.id ∧ s' = s) ∨
        (∃ r, fetchOptional pl (WatcherRow.ClientWatcher accountHash groupId data.watcherId)
          s.watchers =
          some r ∧ ¬AsNew i.now timestamp r ∧ id = r.id ∧ s' = { s with
            watchers := updateWhere (WatcherRow.ClientWatcher accountHash groupId data.watcherId)
              (writeWatcher (newWatcher i.nextId accountHash dbGroupId groupId data timestamp))
                s.watchers
            conditions := s.conditions ++
              conditionsOf accountHash id groupId (datetimeOf i.now timestamp).seconds data }) ∨
        (fetchOptional pl (WatcherRow.ClientWatcher accountHash groupId data.watcherId)
          s.watchers = none ∧
          id = WatcherTables.lastInsertId i.nextId ∧ s' = { s with
            watchers := s.watchers ++
              [newWatcher i.nextId accountHash dbGroupId groupId data timestamp]
            conditions := s.conditions ++
              conditionsOf accountHash id groupId (datetimeOf i.now timestamp).seconds
                  data })) := by
  unfold createWatcherWithConditions at h
  split at h
  next => cases h
  next => cases h
  next dbGroupId _ hgroup =>
    refine ⟨dbGroupId, hgroup, ?_⟩
    dsimp only at h
    split at h
    next r hr =>
      split at h
      next hnew =>
        cases h
        exact .inl ⟨r, hr, hnew, rfl, rfl⟩
      next hold =>
        obtain ⟨hmem, hclient⟩ := fetchOptional_some hr
        rw [hr, writeWatcherWithConditions, Option.elim_some, upsert_of_exists hmem hclient] at h
        split at h
        next => cases h
        next =>
          cases h
          exact .inr (.inl ⟨r, hr, hold, rfl, rfl⟩)
    next hnone =>
      rw [hnone, writeWatcherWithConditions, Option.elim_none,
        upsert_of_forall (fetchOptional_eq_none.1 hnone)] at h
      split at h
      next => cases h
      next =>
        cases h
        exact .inr (.inr ⟨hnone, rfl, rfl⟩)

/-- A watcher that the client has not registered is new. -/
theorem createWatcherWithConditions_of_forall {dbGroupId : ℤ} (hfault : i.fault = none)
    (hgroup : s.getServerGroupId pl accountHash groupId = some dbGroupId)
    (hnone : ∀ r ∈ s.watchers, ¬WatcherRow.ClientWatcher accountHash groupId data.watcherId r)
    (hid : WatcherTables.lastInsertId i.nextId ≠ 0) :
    s.createWatcherWithConditions pl i accountHash groupId data timestamp =
      .ok (WatcherTables.lastInsertId i.nextId, { s with
        watchers := s.watchers ++ [newWatcher i.nextId accountHash dbGroupId groupId data timestamp]
        conditions := s.conditions ++ conditionsOf accountHash
          (WatcherTables.lastInsertId i.nextId) groupId
          (datetimeOf i.now timestamp).seconds data }) := by
  rw [createWatcherWithConditions, hfault, hgroup]
  dsimp only
  rw [fetchOptional_eq_none.2 hnone]
  dsimp only
  rw [writeWatcherWithConditions, Option.elim_none]
  rw [if_neg hid, upsert_of_forall hnone]

theorem groups_of_createWatcherWithConditions {id : ℤ}
    (h : s.createWatcherWithConditions pl i accountHash groupId data timestamp = .ok (id, s')) :
    s'.groups = s.groups := by
  obtain ⟨dbGroupId, -, hcases⟩ := createWatcherWithConditions_ok h
  rcases hcases with ⟨-, -, -, -, rfl⟩ | ⟨-, -, -, -, rfl⟩ | ⟨-, -, rfl⟩ <;> rfl

/-- The conditions belong to the watcher, and to its account. -/
theorem owner_of_mem_conditionsOf {watcherId time : ℤ} {c : WatcherCondition}
    (h : c ∈ conditionsOf accountHash watcherId groupId time data) :
    c.accountHash = accountHash ∧ c.watcherId = watcherId := by
  rcases List.mem_append.1 h with h | h
  · obtain ⟨c, -, rfl⟩ := List.mem_map.1 h
    exact ⟨rfl, rfl⟩
  · obtain ⟨c, -, rfl⟩ := List.mem_map.1 h
    exact ⟨rfl, rfl⟩

/-- Conditions of another watcher. -/
theorem filter_append_conditionsOf {watcherId id time : ℤ} {table : List WatcherCondition}
    (hne : watcherId ≠ id) :
    (table ++ conditionsOf accountHash watcherId groupId time data).filter (·.watcherId = id) =
      table.filter (·.watcherId = id) := by
  have hnone : (conditionsOf accountHash watcherId groupId time data).filter
      (·.watcherId = id) = [] := by
    refine List.filter_eq_nil_iff.2 fun c hc => ?_
    simpa [(owner_of_mem_conditionsOf hc).2] using hne
  rw [List.filter_append, hnone, List.append_nil]

/-- What replaces the conditions of a watcher. -/
def savedConditions (accountHash : String) (watcherId groupId time : ℤ) (data : WatcherData) :
    List WatcherCondition :=
  (conditionsOf accountHash watcherId groupId time data).map fun c => { c with localWatcherId := 0 }

theorem owner_of_mem_savedConditions {watcherId time : ℤ} {c : WatcherCondition}
    (h : c ∈ savedConditions accountHash watcherId groupId time data) :
    c.accountHash = accountHash ∧ c.watcherId = watcherId := by
  obtain ⟨c₀, hc₀, rfl⟩ := List.mem_map.1 h
  exact owner_of_mem_conditionsOf (c := c₀) hc₀

theorem filter_replaceConditions_self {watcherId time : ℤ} {table : List WatcherCondition} :
    (replaceConditions watcherId (conditionsOf accountHash watcherId groupId time data)
      table).filter
      (·.watcherId = watcherId) = savedConditions accountHash watcherId groupId time data := by
  rw [replaceConditions, List.filter_append, deleteWhere, List.filter_filter,
    List.filter_eq_nil_iff.2 (by simp), List.nil_append, ← savedConditions, List.filter_eq_self]
  intro c hc
  simpa using (owner_of_mem_savedConditions hc).2

/-- Conditions of another watcher. -/
theorem filter_replaceConditions_of_ne {watcherId id time : ℤ} {table : List WatcherCondition}
    (hne : watcherId ≠ id) :
    (replaceConditions watcherId (conditionsOf accountHash watcherId groupId time data)
      table).filter
      (·.watcherId = id) = table.filter (·.watcherId = id) := by
  have hnone : (savedConditions accountHash watcherId groupId time data).filter (·.watcherId = id) =
      [] := by
    refine List.filter_eq_nil_iff.2 fun c hc => ?_
    simpa [(owner_of_mem_savedConditions hc).2] using hne
  rw [replaceConditions, List.filter_append, ← savedConditions, hnone, List.append_nil, deleteWhere,
    List.filter_filter]
  refine List.filter_congr fun c _ => ?_
  by_cases hc : c.watcherId = id
  · simp [hc, hne.symm]
  · simp [hc]

theorem saveWatcherConditions_ok {watcherId : ℤ} {conditions : List WatcherCondition}
    (h : s.saveWatcherConditions i watcherId conditions = .ok ((), s')) :
    s' = { s with
      conditions := replaceConditions watcherId conditions s.conditions } := by
  unfold saveWatcherConditions at h
  split at h
  next => cases h
  next =>
    cases h
    rfl

end

end WatcherStore

/-! ## The calls of the handlers -/

/-- A row of the table `devices`. -/
structure DeviceRow where
  accountHash : String
  deviceHash : String
  isActive : Bool
  deriving DecidableEq

/-- The trait `Storage`, as far as the handlers of watchers use it, with the states `σ`.
    A call that fails leaves the state as it is. -/
structure WatcherStorage (σ : Type) where
  validateDevice : List DeviceRow → String → String → Bool
  registerWatcherGroup :
    σ → CallInputs → String → String → WatcherGroup → Except StorageError (ℤ × σ)
  updateWatcherGroup : σ → CallInputs → String → WatcherGroup → Except StorageError (Unit × σ)
  deleteWatcherGroup : σ → CallInputs → String → ℤ → Except StorageError (Unit × σ)
  getWatcherGroups : σ → CallInputs → String → Except StorageError (List WatcherGroup)
  getUserWatcherGroup : σ → CallInputs → String → ℤ → Except StorageError (Option WatcherGroup)
  getWatcherGroupByAccountAndId :
    σ → CallInputs → String → ℤ → Except StorageError (Option WatcherGroupData)
  findWatcherByFolder : σ → CallInputs → String → ℤ → String → Except StorageError (Option ℤ)
  createWatcherWithConditions :
    σ → CallInputs → String → ℤ → WatcherData → ℤ → Except StorageError (ℤ × σ)
  saveWatcherConditions :
    σ → CallInputs → ℤ → List WatcherCondition → Except StorageError (Unit × σ)

/-- A query that fails if its statement does. -/
def CallInputs.query {α : Type} (i : CallInputs) (a : α) : Except StorageError α :=
  match i.fault with
  | some e => .error e
  | none => .ok a

/-- `MySqlStorage`. -/
def mySqlStorage (pl : Planner) : WatcherStorage WatcherStore where
  validateDevice devices accountHash deviceHash :=
    devices.any fun d => d.accountHash = accountHash ∧ d.deviceHash = deviceHash ∧ d.isActive
  registerWatcherGroup s i := s.registerWatcherGroup pl i
  updateWatcherGroup s i := s.updateWatcherGroup pl i
  deleteWatcherGroup s i := s.deleteWatcherGroup pl i
  getWatcherGroups s i accountHash := i.query (s.getWatcherGroups pl i.now accountHash)
  getUserWatcherGroup s i accountHash groupId :=
    i.query (s.getUserWatcherGroup pl i.now accountHash groupId)
  getWatcherGroupByAccountAndId s i accountHash groupId :=
    i.query (s.getWatcherGroupByAccountAndId pl i.now accountHash groupId)
  findWatcherByFolder s i accountHash groupId folder :=
    i.query (s.findWatcherByFolder pl accountHash groupId folder)
  createWatcherWithConditions s i := s.createWatcherWithConditions pl i
  saveWatcherConditions s i := s.saveWatcherConditions i

end CosmicSync
