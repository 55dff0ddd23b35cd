import CosmicSync.Models.File
import CosmicSync.Utils.Crypto

/-!
# Notifications

`server/notification_manager.rs`, as far as it tells the devices of an account about
changed files. A subscriber is registered under the key `account:device`, and gets
the notifications on a channel of its own, which may be closed by now. Path and name
of the file are encrypted for each recipient, if the account has a key.

* `broadcastFileUpdate_eq_nil`: nothing is sent iff there is no open recipient.
* `revision_of_mem_broadcast`: a recipient is told the revision that was given.
-/

namespace CosmicSync

/-- `file_update_notification::UpdateType`. -/
inductive UpdateType where
  | uploaded
  | updated
  | deleted
  deriving DecidableEq, Repr

/-- `FileUpdateNotification`. -/
structure FileUpdateNotification where
  accountHash : String
  deviceHash : String
  fileInfo : Option SyncFileInfo
  updateType : UpdateType
  timestamp : ℤ
  deriving DecidableEq, Repr

/-- An entry of `file_update_subscribers`. -/
structure Subscriber where
  key : String
  /-- The account as the client has given it, which it is answered with. -/
  aliasAccount : Option String
  /-- The client still listens. -/
  isOpen : Bool
  deriving DecidableEq, Repr

structure NotificationManager where
  subscribers : List Subscriber
  transportEncryptMetadata : Bool

namespace Subscriber

variable (sub : Subscriber)

/-- The notifications of an account go to its subscribers; of uploads and deletions,
    to those whose key does not end in the device that caused them. -/
def Receives (accountHash sourceDevice : String) (excludeSource : Bool) : Prop :=
  (accountHash ++ ":").toList <+: sub.key.toList ∧
    (excludeSource = true → ¬(":" ++ sourceDevice).toList <:+ sub.key.toList)

instance (accountHash sourceDevice : String) (excludeSource : Bool) :
    Decidable (sub.Receives accountHash sourceDevice excludeSource) :=
  inferInstanceAs (Decidable (_ ∧ _))

/-- The device of a key `account:device`; of a key with more colons, the source. -/
def device (sourceDevice : String) : String :=
  match sub.key.toList.splitOn ':' with
  | [_, dev] => String.ofList dev
  | _ => sourceDevice

end Subscriber

/-- A text with a colon has two parts at least. -/
theorem exists_splitOn_of_mem {l : List Char} (h : ':' ∈ l) :
    ∃ x y xs, l.splitOn ':' = x :: y :: xs := by
  obtain ⟨l₁, l₂, rfl⟩ := List.append_of_mem h
  rw [List.splitOn_append_cons_self]
  obtain ⟨x, xs, hx⟩ := List.exists_cons_of_ne_nil (List.splitOn_ne_nil ':' l₁)
  obtain ⟨y, ys, hy⟩ := List.exists_cons_of_ne_nil (List.splitOn_ne_nil ':' l₂)
  rw [hx, hy]
  rcases xs with _ | ⟨z, zs⟩
  · exact ⟨x, y, ys, rfl⟩
  · exact ⟨x, z, _, rfl⟩

namespace NotificationManager

variable (C : Crypto) (nm : NotificationManager) (accountKey : Option String)
  (nonces : String → Nonce × Nonce)

/-- The notification that a subscriber gets, given the text of the key of the account. -/
def forSubscriber (n : FileUpdateNotification) (sub : Subscriber) : FileUpdateNotification :=
  let key := if nm.transportEncryptMetadata then accountKey.bind C.parseAccountKey else none
  let aad := n.accountHash ++ ":" ++ sub.device n.deviceHash
  { n with
    accountHash := sub.aliasAccount.getD n.accountHash
    fileInfo := n.fileInfo.map fun fi => { fi with
      filePath := C.transportText key (nonces sub.key).1 aad fi.filePath
      filename := C.transportText key (nonces sub.key).2 aad fi.filename } }

/-- The recipients that are still there. -/
def recipients (accountHash sourceDevice : String) (excludeSource : Bool) : List Subscriber :=
  nm.subscribers.filter fun sub =>
    sub.Receives accountHash sourceDevice excludeSource ∧ sub.isOpen = true

/-- `broadcast_file_update_internal`: what is sent, and under which keys. The count that
    it returns, and the errors, are logged only. -/
def broadcastFileUpdateInternal (n : FileUpdateNotification) (excludeSource : Bool) :
    List (String × FileUpdateNotification) :=
  (nm.recipients n.accountHash n.deviceHash excludeSource).map fun sub =>
    (sub.key, nm.forSubscriber C accountKey nonces n sub)

/-- `broadcast_file_update`. -/
def broadcastFileUpdate (n : FileUpdateNotification) : List (String × FileUpdateNotification) :=
  nm.broadcastFileUpdateInternal C accountKey nonces n true

/-- `broadcast_file_update_including_source`. -/
def broadcastFileUpdateIncludingSource (n : FileUpdateNotification) :
    List (String × FileUpdateNotification) :=
  nm.broadcastFileUpdateInternal C accountKey nonces n false

variable {C nm accountKey nonces} {n : FileUpdateNotification}

theorem broadcastFileUpdate_eq_nil :
    nm.broadcastFileUpdate C accountKey nonces n = [] ↔
      nm.recipients n.accountHash n.deviceHash true = [] := List.map_eq_nil_iff

/-- A recipient is told the revision that was given. -/
theorem revision_of_mem_broadcast {p : String × FileUpdateNotification}
    (h : p ∈ nm.broadcastFileUpdate C accountKey nonces n) :
    p.2.fileInfo.map SyncFileInfo.revision = n.fileInfo.map SyncFileInfo.revision := by
  obtain ⟨sub, -, rfl⟩ := List.mem_map.1 h
  rw [forSubscriber, Option.map_map]
  rfl

end NotificationManager

end CosmicSync
