import CosmicSync.Storage.Basic

/-!
# The tables of watcher groups and watchers

A client numbers its watcher groups, and the watchers of a group, by itself. The
server has ids of its own for them, and the files carry these. The conversions are
queries of `storage/mysql_watcher.rs` and `storage/mysql.rs`; an upload creates the
rows that are missing (`ensureServerIdsFor`).

All of these name the account, so that they only see its rows
(`getServerGroupId_congr`, `getServerIds_congr`, `getClientWatcherId_congr`).
-/

namespace CosmicSync

open Table

/-- A row of the table `watcher_groups`: `groupId` is the client's number. -/
structure WatcherGroupRow where
  id : ℤ
  groupId : ℤ
  accountHash : String
  deviceHash : String
  title : String
  createdAt : ℤ
  updatedAt : ℤ
  isActive : Bool
  deriving DecidableEq

/-- A row of the table `watchers`: `localGroupId` and `watcherId` are the client's
    numbers, `groupId` is the id of the group. -/
structure WatcherRow where
  id : ℤ
  watcherId : ℤ
  accountHash : String
  groupId : ℤ
  localGroupId : ℤ
  folder : String
  title : String
  isRecursive : Bool
  createdAt : ℤ
  updatedAt : ℤ
  isActive : Bool
  extraJson : String
  deriving DecidableEq

/-- The two tables. -/
structure WatcherTables where
  groups : List WatcherGroupRow
  watchers : List WatcherRow

namespace WatcherTables

variable (pl : Planner) (w : WatcherTables)

/-- `get_server_group_id`. -/
def getServerGroupId (accountHash : String) (clientGroupId : ℤ) : Option ℤ :=
  (fetchOptional pl (fun g => g.accountHash = accountHash ∧ g.groupId = clientGroupId) w.groups).map
    WatcherGroupRow.id

/-- The id of a watcher, by the numbers of the client. -/
def getServerWatcherId (accountHash : String) (clientGroupId clientWatcherId : ℤ) : Option ℤ :=
  (fetchOptional pl (fun r => r.accountHash = accountHash ∧ r.localGroupId = clientGroupId ∧
    r.watcherId = clientWatcherId) w.watchers).map WatcherRow.id

/-- `get_server_ids`. -/
def getServerIds (accountHash : String) (clientGroupId clientWatcherId : ℤ) : Option (ℤ × ℤ) := do
  let groupId ← w.getServerGroupId pl accountHash clientGroupId
  let watcherId ← w.getServerWatcherId pl accountHash clientGroupId clientWatcherId
  return (groupId, watcherId)

/-- `get_client_watcher_id`: the group plays no part. -/
def getClientWatcherId (accountHash : String) (_serverGroupId serverWatcherId : ℤ) :
    Option (ℤ × ℤ) :=
  if serverWatcherId = 0 then some (0, 0)
  else
    (fetchOptional pl (fun r => r.id = serverWatcherId ∧ r.accountHash = accountHash)
      w.watchers).map
      fun r => (r.localGroupId, r.watcherId)

/-! ## Creating what is missing -/

/-- What `ensure_server_ids_for` meets: the clock, the ids that the tables would give to
    new rows, and whether the insertions fail. -/
structure EnsureInputs where
  now : ℤ
  lastGroupId : ℕ
  lastWatcherId : ℕ
  groupFault : Option String
  watcherFault : Option String

/-- `LAST_INSERT_ID()` as an `i32`, capped. -/
def lastInsertId (id : ℕ) : ℤ := if 2 ^ 31 - 1 < id then 2 ^ 31 - 1 else id

/-- The group that is inserted for a number without one. -/
def clientGroup (i : EnsureInputs) (accountHash deviceHash : String) (clientGroupId : ℤ) :
    WatcherGroupRow where
  id := i.lastGroupId
  groupId := clientGroupId
  accountHash := accountHash
  deviceHash := deviceHash
  title := "Client Group " ++ toString clientGroupId
  createdAt := i.now
  updatedAt := i.now
  isActive := true

/-- The watcher that is inserted. -/
def clientWatcher (i : EnsureInputs) (accountHash folder : String)
    (serverGroupId clientGroupId clientWatcherId : ℤ) : WatcherRow where
  id := i.lastWatcherId
  watcherId := clientWatcherId
  accountHash := accountHash
  groupId := serverGroupId
  localGroupId := clientGroupId
  folder := folder
  title := "Watcher for " ++ String.ofList (folder.toList.rtakeWhile (· ≠ '/'))
  isRecursive := true
  createdAt := i.now
  updatedAt := i.now
  isActive := true
  extraJson := "\x7b\x7d"

/-- The group of the client, inserted if it is missing. -/
def ensureGroup (i : EnsureInputs) (accountHash deviceHash : String) (clientGroupId : ℤ) :
    Except StorageError (ℤ × WatcherTables) :=
  match w.getServerGroupId pl accountHash clientGroupId, i.groupFault with
  | some id, _ => .ok (id, w)
  | none, some e => .error (.database ("Failed to insert watcher_group: " ++ e))
  | none, none =>
    .ok (lastInsertId i.lastGroupId,
      { w with groups := w.groups ++ [clientGroup i accountHash deviceHash clientGroupId] })

/-- The watcher of the client, inserted if it is missing. -/
def ensureWatcher (i : EnsureInputs) (accountHash folder : String)
    (serverGroupId clientGroupId clientWatcherId : ℤ) : Except StorageError (ℤ × WatcherTables) :=
  match w.getServerWatcherId pl accountHash clientGroupId clientWatcherId, i.watcherFault with
  | some id, _ => .ok (id, w)
  | none, some e => .error (.database ("Failed to insert watcher: " ++ e))
  | none, none =>
    .ok (lastInsertId i.lastWatcherId, { w with
      watchers := w.watchers ++
        [clientWatcher i accountHash folder serverGroupId clientGroupId clientWatcherId] })

/-- `ensure_server_ids_for`, in a transaction. -/
def ensureServerIdsFor (i : EnsureInputs) (accountHash deviceHash : String)
    (clientGroupId clientWatcherId : ℤ) (folderHint : Option String) :
    Except StorageError ((ℤ × ℤ) × WatcherTables) := do
  let (serverGroupId, w) ← w.ensureGroup pl i accountHash deviceHash clientGroupId
  if serverGroupId = 0 then throw (.database "Failed to ensure watcher_group id")
  let (serverWatcherId, w) ← w.ensureWatcher pl i accountHash (folderHint.getD "~/") serverGroupId
    clientGroupId clientWatcherId
  if serverWatcherId = 0 then throw (.database "Failed to ensure watcher id")
  return ((serverGroupId, serverWatcherId), w)

/-- The id under which the client's group is known afterwards. -/
def ensuredGroupId (i : EnsureInputs) (accountHash : String) (clientGroupId : ℤ) : ℤ :=
  (w.getServerGroupId pl accountHash clientGroupId).getD (lastInsertId i.lastGroupId)

section

variable {pl : Planner} {w w' : WatcherTables} {i : EnsureInputs}
  {accountHash deviceHash folder : String} {clientGroupId clientWatcherId groupId watcherId : ℤ}
  {folderHint : Option String}

theorem ensureGroup_ok
    (h : w.ensureGroup pl i accountHash deviceHash clientGroupId = .ok (groupId, w')) :
    (w.getServerGroupId pl accountHash clientGroupId = some groupId ∧ w' = w) ∨
      (w.getServerGroupId pl accountHash clientGroupId = none ∧
        groupId = lastInsertId i.lastGroupId ∧
        w' = { w with groups :=
          w.groups ++ [clientGroup i accountHash deviceHash clientGroupId] }) := by
  unfold ensureGroup at h
  split at h
  next id hid =>
    cases h
    exact .inl ⟨hid, rfl⟩
  next => cases h
  next hnone _ =>
    cases h
    exact .inr ⟨hnone, rfl, rfl⟩

theorem ensureWatcher_ok
    (h : w.ensureWatcher pl i accountHash folder groupId clientGroupId clientWatcherId =
      .ok (watcherId, w')) :
    (w.getServerWatcherId pl accountHash clientGroupId clientWatcherId = some watcherId ∧ w' = w) ∨
      (w.getServerWatcherId pl accountHash clientGroupId clientWatcherId = none ∧
        watcherId = lastInsertId i.lastWatcherId ∧ w' = { w with
          watchers := w.watchers ++
            [clientWatcher i accountHash folder groupId clientGroupId clientWatcherId] }) := by
  unfold ensureWatcher at h
  split at h
  next id hid =>
    cases h
    exact .inl ⟨hid, rfl⟩
  next => cases h
  next hnone _ =>
    cases h
    exact .inr ⟨hnone, rfl, rfl⟩

/-- The two steps, and the checks of the ids they find. -/
theorem ensureServerIdsFor_eq_ok :
    w.ensureServerIdsFor pl i accountHash deviceHash clientGroupId clientWatcherId folderHint =
        .ok ((groupId, watcherId), w') ↔
      ∃ w₁, w.ensureGroup pl i accountHash deviceHash clientGroupId =
        .ok (groupId, w₁) ∧ groupId ≠ 0 ∧
        w₁.ensureWatcher pl i accountHash (folderHint.getD "~/") groupId clientGroupId
          clientWatcherId =
          .ok (watcherId, w') ∧ watcherId ≠ 0 := by
  constructor
  · intro h
    obtain ⟨⟨groupId₁, w₁⟩, hgroup, h⟩ := bind_eq_ok h
    simp only at h
    split at h
    next => cases h
    next hne =>
      obtain ⟨⟨watcherId₁, w₂⟩, hwatcher, h⟩ := bind_eq_ok h
      simp only at h
      split at h
      next => cases h
      next hne' =>
        cases h
        exact ⟨w₁, hgroup, hne, hwatcher, hne'⟩
  · rintro ⟨w₁, hgroup, hne, hwatcher, hne'⟩
    simp [ensureServerIdsFor, hgroup, hne, hwatcher, hne', bind, Except.bind, pure, Except.pure]

theorem ensureServerIdsFor_ok
    (h : w.ensureServerIdsFor pl i accountHash deviceHash clientGroupId clientWatcherId folderHint =
      .ok ((groupId, watcherId), w')) :
    groupId = w.ensuredGroupId pl i accountHash clientGroupId := by
  obtain ⟨w₁, hgroup, -⟩ := ensureServerIdsFor_eq_ok.1 h
  rw [ensuredGroupId]
  rcases ensureGroup_ok hgroup with ⟨hid, -⟩ | ⟨hnone, hid, -⟩
  · rw [hid, Option.getD_some]
  · rw [hnone, hid, Option.getD_none]

end

/-! ## Queries see one account -/

section

variable {pl : Planner} {w w' : WatcherTables} {accountHash : String}

/-- The two tables have the same rows of an account. -/
structure AgreeOn (accountHash : String) (w w' : WatcherTables) : Prop where
  groups : w.groups.filter (·.accountHash = accountHash) =
    w'.groups.filter (·.accountHash = accountHash)
  watchers : w.watchers.filter (·.accountHash = accountHash) =
    w'.watchers.filter (·.accountHash = accountHash)

theorem getServerGroupId_congr (h : AgreeOn accountHash w w') (clientGroupId : ℤ) :
    w.getServerGroupId pl accountHash clientGroupId =
      w'.getServerGroupId pl accountHash clientGroupId :=
  congrArg _ (fetchOptional_congr (filter_congr_of_imp (fun _ hg => hg.1) h.groups))

theorem getServerIds_congr (h : AgreeOn accountHash w w') (clientGroupId clientWatcherId : ℤ) :
    w.getServerIds pl accountHash clientGroupId clientWatcherId =
      w'.getServerIds pl accountHash clientGroupId clientWatcherId := by
  have hwatcher : w.getServerWatcherId pl accountHash clientGroupId clientWatcherId =
      w'.getServerWatcherId pl accountHash clientGroupId clientWatcherId :=
    congrArg _ (fetchOptional_congr (filter_congr_of_imp (fun _ hr => hr.1) h.watchers))
  rw [getServerIds, getServerIds, getServerGroupId_congr h, hwatcher]

theorem getClientWatcherId_congr (h : AgreeOn accountHash w w')
    (serverGroupId serverWatcherId : ℤ) :
    w.getClientWatcherId pl accountHash serverGroupId serverWatcherId =
      w'.getClientWatcherId pl accountHash serverGroupId serverWatcherId := by
  rw [getClientWatcherId, getClientWatcherId,
    fetchOptional_congr (filter_congr_of_imp (fun _ hr => hr.2) h.watchers)]

end

end WatcherTables

end CosmicSync
