import CosmicSync.Models.File

/-!
# Watchers

A client watches folders. It sends its watchers in groups (`WatcherData`,
`WatcherGroupData`), with conditions on the names of the files; the server keeps
the groups as `WatcherGroup`s of `models/watcher.rs`.
-/

namespace CosmicSync

/-- `ConditionData`: a key and the values it may have. -/
structure ConditionData where
  key : String
  value : List String
  deriving DecidableEq, Repr

/-- `WatcherData`: a watched folder, as the client sends it. -/
structure WatcherData where
  watcherId : ℤ
  folder : String
  unionConditions : List ConditionData
  subtractingConditions : List ConditionData
  recursivePath : Bool
  preset : Bool
  customType : String
  updateMode : String
  isActive : Bool
  extraJson : String
  deriving DecidableEq, Repr

/-- `WatcherGroupData`. -/
structure WatcherGroupData where
  groupId : ℤ
  title : String
  watchers : List WatcherData
  lastUpdated : Option Timestamp
  deriving DecidableEq, Repr

/-- `WatcherGroup`: `id` is the number of the server, `groupId` that of the client. The
    times are in seconds, as the database compares them. -/
structure WatcherGroup where
  id : ℤ
  groupId : ℤ
  accountHash : String
  title : String
  createdAt : ℤ
  updatedAt : ℤ
  isActive : Bool
  watcherIds : List ℤ
  deriving DecidableEq, Repr

/-- `ConditionType`. -/
inductive ConditionType where
  | union
  | subtract
  deriving DecidableEq, Repr

/-- `WatcherCondition`: `watcherId` is the number of the server, the other two are those
    of the client. -/
structure WatcherCondition where
  accountHash : String
  watcherId : ℤ
  localWatcherId : ℤ
  localGroupId : ℤ
  conditionType : ConditionType
  key : String
  value : List String
  operator : String
  createdAt : ℤ
  updatedAt : ℤ
  deriving DecidableEq, Repr

/-- `Watcher`, as the storage in memory keeps it. -/
structure Watcher where
  id : ℤ
  watcherId : ℤ
  accountHash : String
  groupId : ℤ
  localGroupId : ℤ
  title : String
  folder : String
  unionConditions : List ConditionData
  subtractingConditions : List ConditionData
  recursivePath : Bool
  preset : Bool
  customType : String
  updateMode : String
  isActive : Bool
  extraJson : String
  createdAt : ℤ
  updatedAt : ℤ

/-- `UpdateType` of the notifications below. -/
inductive WatcherUpdateType where
  | created
  | updated
  | deleted
  deriving DecidableEq, Repr

/-- `WatcherGroupUpdateNotification`. -/
structure WatcherGroupUpdateNotification where
  accountHash : String
  deviceHash : String
  groupData : Option WatcherGroupData
  updateType : WatcherUpdateType
  timestamp : ℤ
  deriving DecidableEq, Repr

/-- `WatcherPresetUpdateNotification`. -/
structure WatcherPresetUpdateNotification where
  accountHash : String
  deviceHash : String
  presets : List String
  updateType : WatcherUpdateType
  timestamp : ℤ
  deriving DecidableEq, Repr

end CosmicSync
