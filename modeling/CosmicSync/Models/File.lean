import Mathlib

/-!
# Files

The structures of `models/file.rs` that the storage reads and writes, and the times
of `utils/time.rs`. A file is known to clients by its `fileId`; several rows of the
storage may be versions of one file.
-/

namespace CosmicSync

/-- `prost_types::Timestamp`. -/
structure Timestamp where
  seconds : ℤ
  nanos : ℤ
  deriving DecidableEq, Repr

/-- `DateTime<Utc>`: the seconds since the epoch, and the nanoseconds, which exceed a
    second in a leap second. -/
structure DateTime where
  seconds : ℤ
  nanos : ℕ
  deriving DecidableEq, Repr

/-- The order of instants. -/
def DateTime.le (d d' : DateTime) : Prop :=
  d.seconds < d'.seconds ∨ (d.seconds = d'.seconds ∧ d.nanos ≤ d'.nanos)

instance (d d' : DateTime) : Decidable (d.le d') := inferInstanceAs (Decidable (_ ∨ _))

/-- `DateTime::from_timestamp`: from the year -262143 to 262142, a leap second only at the
    end of a minute. -/
def DateTime.fromTimestamp (seconds : ℤ) (nanos : ℕ) : Option DateTime :=
  if -8334601228800 ≤ seconds ∧ seconds ≤ 8210266876799 ∧ nanos < 2 * 10 ^ 9 ∧
      (10 ^ 9 ≤ nanos → seconds % 60 = 59) then some ⟨seconds, nanos⟩
  else none

/-- `timestamp_to_datetime`: the present, if the timestamp is out of range. -/
def Timestamp.toDatetime (now : DateTime) (ts : Timestamp) : DateTime :=
  (DateTime.fromTimestamp ts.seconds (ts.nanos % 2 ^ 32).toNat).getD now

/-- `FileInfo`: what an upload records of a file, and a lookup returns. -/
structure FileInfo where
  fileId : ℕ
  filename : String
  fileHash : String
  deviceHash : String
  groupId : ℤ
  watcherId : ℤ
  isEncrypted : Bool
  filePath : String
  updatedTime : Timestamp
  revision : ℤ
  accountHash : String
  size : ℕ
  keyId : Option String
  deriving DecidableEq, Repr

/-- `sync::FileInfo`: what a client is told of a file. -/
structure SyncFileInfo where
  fileId : ℕ
  filename : String
  fileHash : String
  deviceHash : String
  groupId : ℤ
  watcherId : ℤ
  isEncrypted : Bool
  filePath : String
  updatedTime : Option Timestamp
  revision : ℤ
  fileSize : ℕ
  deriving DecidableEq, Repr

/-- `to_sync_file`. -/
def FileInfo.toSyncFile (info : FileInfo) : SyncFileInfo where
  fileId := info.fileId
  filename := info.filename
  fileHash := info.fileHash
  deviceHash := info.deviceHash
  groupId := info.groupId
  watcherId := info.watcherId
  isEncrypted := info.isEncrypted
  filePath := info.filePath
  updatedTime := some info.updatedTime
  revision := info.revision
  fileSize := info.size

/-- `SyncFile`: a version of a file, as the version service handles it. -/
structure SyncFile where
  id : String
  userId : String
  deviceHash : String
  groupId : ℤ
  watcherId : ℤ
  fileId : ℕ
  filename : String
  fileHash : String
  filePath : String
  fileSize : ℤ
  mimeType : String
  modifiedTime : ℤ
  isEncrypted : Bool
  uploadTime : Timestamp
  lastUpdated : Timestamp
  isDeleted : Bool
  revision : ℤ
  deriving DecidableEq, Repr

end CosmicSync
