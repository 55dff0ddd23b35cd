import CosmicSync.Models.Watcher
import CosmicSync.Server.NotificationManager

/-!
# Who is notified

The keys `account:device` of the subscribers are joined from an account and a device
that the client has named, without escaping, and the broadcasts take them apart again.
Those of files look at the two ends of the key (`Subscriber.Receives`); those of
watcher groups and of presets split it at the colons, and pass over a key that does
not have exactly one (`Subscriber.ReceivesWatcher`).

* `reachesRight_iff`: the right devices are notified, and the same ones by all the
  broadcasts, iff no device that should be has a colon, and no key of another account
  begins like one of the account.
-/

namespace CosmicSync

/-! ## The broadcasts of watchers -/

/-- The test of the broadcasts of watchers: the key has two parts, the account and a
    device that is not excluded. -/
def Subscriber.ReceivesWatcher (sub : Subscriber) (accountHash : String)
    (excludeDeviceHash : Option String) : Bool :=
  match sub.key.toList.splitOn ':' with
  | [subscriberAccount, subscriberDevice] =>
    subscriberAccount = accountHash.toList ∧ excludeDeviceHash.map String.toList ≠
      some subscriberDevice
  | _ => false

/-- The loop of the two broadcasts below: what is sent, and under which keys. -/
def broadcastWatcherUpdate {α : Type} (subscribers : List Subscriber) (accountHash : String)
    (excludeDeviceHash : Option String) (update : α) : List (String × α) :=
  (subscribers.filter fun sub =>
    sub.ReceivesWatcher accountHash excludeDeviceHash ∧ sub.isOpen = true).map fun sub =>
      (sub.key, update)

/-- `broadcast_watcher_group_update`, to the `watcher_group_update_subscribers`. -/
def broadcastWatcherGroupUpdate (subscribers : List Subscriber) (accountHash : String)
    (excludeDeviceHash : Option String) (update : WatcherGroupUpdateNotification) :
    List (String × WatcherGroupUpdateNotification) :=
  broadcastWatcherUpdate subscribers accountHash excludeDeviceHash update

/-- `broadcast_watcher_preset_update`, to the `watcher_preset_update_subscribers`. -/
def broadcastWatcherPresetUpdate (subscribers : List Subscriber) (accountHash : String)
    (excludeDeviceHash : Option String) (update : WatcherPresetUpdateNotification) :
    List (String × WatcherPresetUpdateNotification) :=
  broadcastWatcherUpdate subscribers accountHash excludeDeviceHash update

/-! ## Registrations -/

/-- A subscription, as it is registered. -/
structure Registration where
  accountHash : String
  deviceHash : String
  aliasAccount : Option String
  isOpen : Bool
  account_no_colon : ':' ∉ accountHash.toList
  device_ne_empty : deviceHash ≠ ""

namespace Registration

variable (r : Registration)

/-- The `subscriber_key` of a subscription. -/
def key : String := r.accountHash ++ ":" ++ r.deviceHash

/-- The entry of the notification manager. -/
def subscriber : Subscriber := ⟨r.key, r.aliasAccount, r.isOpen⟩

theorem toList_key : r.key.toList = r.accountHash.toList ++ ':' :: r.deviceHash.toList := by
  simp [key]

variable {r} {accountHash sourceDevice : String}

/-- The end of a key is its device, or is the end of it. -/
theorem source_suffix_key :
    (":" ++ sourceDevice).toList <:+ r.key.toList ↔
      r.deviceHash = sourceDevice ∨ (":" ++ sourceDevice).toList <:+ r.deviceHash.toList := by
  have hsrc : (":" ++ sourceDevice).toList = ':' :: sourceDevice.toList := by simp
  rw [toList_key, hsrc]
  constructor
  · intro h
    obtain ⟨l, hl⟩ := h
    rcases List.append_eq_append_iff.1 hl with ⟨l', hacc, hdev⟩ | ⟨l', -, hdev⟩
    · -- The account has no colon, so that the suffix begins at the one of the key.
      rcases l' with _ | ⟨c, l'⟩
      · exact .inl (String.toList_inj.1 (List.cons.inj hdev).2.symm)
      · obtain ⟨rfl, -⟩ := List.cons.inj hdev
        exact absurd (hacc ▸ by simp) r.account_no_colon
    · rcases l' with _ | ⟨c, l'⟩
      · exact .inl (String.toList_inj.1 (List.cons.inj hdev).2)
      · obtain ⟨-, hdev⟩ := List.cons.inj hdev
        exact .inr ⟨l', hdev.symm⟩
  · rintro (rfl | ⟨l, hl⟩)
    · exact List.suffix_append ..
    · exact ⟨r.accountHash.toList ++ ':' :: l, by simp [← hl]⟩

theorem receives_including :
    r.subscriber.Receives accountHash sourceDevice false ↔
      (accountHash ++ ":").toList <+: r.key.toList := by
  simp [Subscriber.Receives, subscriber]

theorem receives_excluding :
    r.subscriber.Receives accountHash sourceDevice true ↔
      (accountHash ++ ":").toList <+: r.key.toList ∧ r.deviceHash ≠ sourceDevice ∧
        ¬(":" ++ sourceDevice).toList <:+ r.deviceHash.toList := by
  rw [Subscriber.Receives, subscriber, source_suffix_key, not_or]
  simp

/-- A broadcast of watchers reaches the devices without a colon. -/
theorem receivesWatcher_iff :
    r.subscriber.ReceivesWatcher accountHash (some sourceDevice) = true ↔
      r.accountHash = accountHash ∧ r.deviceHash ≠ sourceDevice ∧ ':' ∉ r.deviceHash.toList := by
  have hsplit : r.subscriber.key.toList.splitOn ':' =
      r.accountHash.toList :: r.deviceHash.toList.splitOn ':' := by
    rw [subscriber, toList_key, List.splitOn_append_cons_self_of_not_mem r.account_no_colon]
  rw [Subscriber.ReceivesWatcher, hsplit]
  by_cases hd : ':' ∈ r.deviceHash.toList
  · -- At least three parts.
    obtain ⟨x, y, xs, hxs⟩ := exists_splitOn_of_mem hd
    rw [hxs]
    simp [hd]
  · rw [List.splitOn_eq_singleton hd]
    simp [hd, String.toList_inj, ne_comm]

theorem account_prefix_key (r : Registration) :
    (r.accountHash ++ ":").toList <+: r.key.toList := by
  rw [toList_key]
  exact ⟨r.deviceHash.toList, by simp⟩

end Registration

/-- The entries of a map of subscribers. -/
structure Registrations where
  entries : List Registration
  nodup : (entries.map Registration.key).Nodup

namespace Registrations

variable (regs : Registrations)

def subscribers : List Subscriber := regs.entries.map Registration.subscriber

/-- The keys of the open registrations that `p` holds for. -/
def openKeys (p : Registration → Prop) [DecidablePred p] : List String :=
  (regs.entries.filter fun r => p r ∧ r.isOpen = true).map Registration.key

variable {regs} {p q : Registration → Prop} [DecidablePred p] [DecidablePred q]

theorem openKeys_congr (h : ∀ r ∈ regs.entries, r.isOpen = true → (p r ↔ q r)) :
    regs.openKeys p = regs.openKeys q := by
  refine congrArg _ (List.filter_congr fun r hr => ?_)
  simp only [decide_eq_decide]
  exact and_congr_left (h r hr)

theorem key_mem_openKeys {r : Registration} (hr : r ∈ regs.entries) (hopen : r.isOpen = true) :
    r.key ∈ regs.openKeys p ↔ p r := by
  rw [openKeys, List.mem_map]
  constructor
  · rintro ⟨r', hr', hkey⟩
    rw [List.mem_filter, decide_eq_true_eq] at hr'
    exact List.inj_on_of_nodup_map regs.nodup hr'.1 hr hkey ▸ hr'.2.1
  · intro hp
    exact ⟨r, List.mem_filter.2 ⟨hr, decide_eq_true ⟨hp, hopen⟩⟩, rfl⟩

/-- The keys tell the registrations. -/
theorem openKeys_inj :
    regs.openKeys p = regs.openKeys q ↔ ∀ r ∈ regs.entries, r.isOpen = true → (p r ↔ q r) := by
  refine ⟨fun h r hr hopen => ?_, openKeys_congr⟩
  rw [← key_mem_openKeys (p := p) hr hopen, h, key_mem_openKeys hr hopen]

end Registrations

/-! ## The right devices -/

section

variable (C : Crypto) (regs : Registrations) (encryptMetadata : Bool) (accountKey : Option String)
  (nonces : String → Nonce × Nonce) (n : FileUpdateNotification)

/-- A file notification goes to the devices of its account, without the source or with it,
    and a notification of watchers to the same devices as one of files. -/
structure ReachesRight : Prop where
  excluding :
    ((NotificationManager.mk regs.subscribers encryptMetadata).broadcastFileUpdate
      C accountKey nonces n).map Prod.fst =
      regs.openKeys fun r => r.accountHash = n.accountHash ∧ r.deviceHash ≠ n.deviceHash
  including :
    ((NotificationManager.mk regs.subscribers encryptMetadata).broadcastFileUpdateIncludingSource
      C accountKey nonces n).map Prod.fst =
      regs.openKeys fun r => r.accountHash = n.accountHash
  group : ∀ update,
    (broadcastWatcherGroupUpdate regs.subscribers n.accountHash (some n.deviceHash) update).map
      Prod.fst =
      ((NotificationManager.mk regs.subscribers encryptMetadata).broadcastFileUpdate C accountKey
        nonces n).map Prod.fst
  preset : ∀ update,
    (broadcastWatcherPresetUpdate regs.subscribers n.accountHash (some n.deviceHash) update).map
      Prod.fst =
      ((NotificationManager.mk regs.subscribers encryptMetadata).broadcastFileUpdate C accountKey
        nonces n).map Prod.fst

variable {C regs encryptMetadata accountKey nonces n}

theorem keys_broadcastFileUpdateInternal {excludeSource : Bool} :
    ((NotificationManager.mk regs.subscribers encryptMetadata).broadcastFileUpdateInternal C
      accountKey
      nonces n excludeSource).map Prod.fst =
      regs.openKeys fun r => r.subscriber.Receives n.accountHash n.deviceHash excludeSource := by
  rw [NotificationManager.broadcastFileUpdateInternal, List.map_map, NotificationManager.recipients,
    Registrations.subscribers, List.filter_map, List.map_map]
  rfl

theorem keys_broadcastWatcherUpdate {α : Type} {accountHash : String} {exclude : Option String}
    {update : α} :
    (broadcastWatcherUpdate regs.subscribers accountHash exclude update).map Prod.fst =
      regs.openKeys fun r => r.subscriber.ReceivesWatcher accountHash exclude = true := by
  rw [broadcastWatcherUpdate, List.map_map, Registrations.subscribers,
    List.filter_map, List.map_map]
  rfl

/-- Exactly the right devices are notified iff those that should be have no colon, and no
    other key begins with the account and a colon. -/
theorem reachesRight_iff :
    ReachesRight C regs encryptMetadata accountKey nonces n ↔
      ∀ r ∈ regs.entries, r.isOpen = true →
        (r.accountHash = n.accountHash → r.deviceHash ≠ n.deviceHash → ':' ∉ r.deviceHash.toList) ∧
        ((n.accountHash ++ ":").toList <+: r.key.toList → r.accountHash = n.accountHash) := by
  constructor
  · rintro ⟨hexcl, hincl, hgroup, -⟩ r hr hopen
    have hexcl := Registrations.openKeys_inj.1
      (keys_broadcastFileUpdateInternal.symm.trans hexcl) r hr hopen
    have hincl := Registrations.openKeys_inj.1
      (keys_broadcastFileUpdateInternal.symm.trans hincl) r hr hopen
    have hgroup := Registrations.openKeys_inj.1 ((keys_broadcastWatcherUpdate.symm.trans
      (hgroup ⟨"", "", none, .created, 0⟩)).trans keys_broadcastFileUpdateInternal) r hr hopen
    refine ⟨fun hacc hdev => ?_, fun hprefix => hincl.1 (Registration.receives_including.2 hprefix)⟩
    exact (Registration.receivesWatcher_iff.1 (hgroup.2 (hexcl.2 ⟨hacc, hdev⟩))).2.2
  · intro h
    have hprefix : ∀ r ∈ regs.entries, r.isOpen = true →
        ((n.accountHash ++ ":").toList <+: r.key.toList ↔ r.accountHash = n.accountHash) :=
      fun r hr hopen => ⟨(h r hr hopen).2, fun hacc => hacc ▸ r.account_prefix_key⟩
    have hexcl : ∀ r ∈ regs.entries, r.isOpen = true →
        (r.subscriber.Receives n.accountHash n.deviceHash true ↔
          r.accountHash = n.accountHash ∧ r.deviceHash ≠ n.deviceHash) := by
      intro r hr hopen
      rw [Registration.receives_excluding, hprefix r hr hopen]
      refine and_congr_right fun hacc => ⟨And.left, fun hdev => ⟨hdev, fun hsuffix => ?_⟩⟩
      -- A device that ends in `:source` has a colon.
      exact (h r hr hopen).1 hacc hdev (hsuffix.subset (by simp))
    have hwatcher : ∀ r ∈ regs.entries, r.isOpen = true →
        (r.subscriber.ReceivesWatcher n.accountHash (some n.deviceHash) = true ↔
          r.subscriber.Receives n.accountHash n.deviceHash true) := by
      intro r hr hopen
      rw [Registration.receivesWatcher_iff, hexcl r hr hopen, ← and_assoc]
      exact and_iff_left_of_imp fun ⟨hacc, hdev⟩ => (h r hr hopen).1 hacc hdev
    refine ⟨?_, ?_, fun update => ?_, fun update => ?_⟩
    · exact keys_broadcastFileUpdateInternal.trans (Registrations.openKeys_congr hexcl)
    · refine keys_broadcastFileUpdateInternal.trans
        (Registrations.openKeys_congr fun r hr hopen => ?_)
      rw [Registration.receives_including, hprefix r hr hopen]
    · exact keys_broadcastWatcherUpdate.trans ((Registrations.openKeys_congr hwatcher).trans
        keys_broadcastFileUpdateInternal.symm)
    · exact keys_broadcastWatcherUpdate.trans ((Registrations.openKeys_congr hwatcher).trans
        keys_broadcastFileUpdateInternal.symm)

end

/-- The devices `d` and `x:d` of one account. -/
def twoDevices : Registrations where
  entries := [⟨"a", "d", none, true, by decide, by decide⟩,
    ⟨"a", "x:d", none, true, by decide, by decide⟩]
  nodup := by decide

/-- An upload of `d` is not made known to `x:d`. -/
theorem colon_device_missed :
    ¬ReachesRight .sample twoDevices true none
      (fun _ => (Crypto.nonceSample 1, Crypto.nonceSample 2))
      ⟨"a", "d", none, .uploaded, 0⟩ := by
  intro h
  exact absurd h.excluding (by decide)

end CosmicSync
