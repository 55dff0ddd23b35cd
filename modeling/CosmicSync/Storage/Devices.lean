import CosmicSync.Library.HashMap
import CosmicSync.Library.Run
import CosmicSync.Library.Segments
import CosmicSync.Models.File
import CosmicSync.Storage.Basic
import CosmicSync.Storage.WatcherStore

/-!
# Devices in the two storages

A device is what an account has registered under a hash of the device. `MySqlStorage` keeps
rows of which the hash of the device alone is the primary key (`storage/mysql.rs`), so that a
device belongs to one account; `MemoryStorage` keeps a map under `account:device`.

A `Directory` is what both are for: for an account and a device, what is known of it.

* `Lawful` storages: what a call does to the directory; `memoryDevicesLawful` for accounts
  without a colon, `mySqlDevicesLawful` for all.
* `owner_run`: in the database a device stays its account's, with the time at which it was
  first registered, until this account deletes it.
-/

namespace CosmicSync

open Table Run

/-- `Device`. -/
structure Device where
  userId : String
  accountHash : String
  deviceHash : String
  updatedAt : DateTime
  registeredAt : DateTime
  lastSync : DateTime
  isActive : Bool
  osVersion : String
  appVersion : String
  deriving DecidableEq, Repr

namespace Device

def new (accountHash deviceHash : String) (isActive : Bool) (osVersion appVersion : String)
    (now : DateTime) : Device where
  userId := accountHash
  accountHash := accountHash
  deviceHash := deviceHash
  updatedAt := now
  registeredAt := now
  lastSync := now
  isActive := isActive
  osVersion := osVersion
  appVersion := appVersion

def updateInfo (device : Device) (isActive : Option Bool) (osVersion appVersion : Option String)
    (now : DateTime) : Device :=
  { device with
    isActive := isActive.getD device.isActive
    osVersion := osVersion.getD device.osVersion
    appVersion := appVersion.getD device.appVersion
    updatedAt := now }

end Device

/-- What a call of the storage meets: the clock, a new id, and the error of its statement, if
    it has one. -/
structure DeviceInputs where
  now : DateTime
  uuid : String
  fault : Option StorageError

/-- The trait `Storage`, as far as the handlers of devices use it, with the states `σ`. -/
structure DeviceStorage (σ : Type) where
  registerDevice : σ → DeviceInputs → Device → Except StorageError σ
  getDevice : σ → DeviceInputs → String → String → Except StorageError (Option Device)
  listDevices : σ → DeviceInputs → String → Except StorageError (List Device)
  updateDevice : σ → DeviceInputs → Device → Except StorageError σ
  deleteDevice : σ → DeviceInputs → String → String → Except StorageError σ
  validateDevice : σ → DeviceInputs → String → String → Except StorageError Bool

/-! ## In memory -/

/-- The key of a device. -/
def deviceKey (accountHash deviceHash : String) : String := accountHash ++ ":" ++ deviceHash

/-- The map `devices` of `StorageData`: each device under its key. -/
structure MemoryDevices where
  devices : HashMap String Device
  named : ∀ e ∈ devices.entries, e.1 = deviceKey e.2.accountHash e.2.deviceHash

namespace MemoryDevices

/-- No devices. -/
def empty : MemoryDevices := ⟨.empty, fun _ h => absurd h List.not_mem_nil⟩

variable (m : MemoryDevices)

/-- `register_device` and `update_device`. -/
def insertDevice (device : Device) : MemoryDevices where
  devices := m.devices.insert (deviceKey device.accountHash device.deviceHash) device
  named e he := by
    rcases HashMap.mem_insert.1 he with rfl | ⟨he, -⟩
    · rfl
    · exact m.named e he

def getDevice (accountHash deviceHash : String) : Option Device :=
  m.devices.get? (deviceKey accountHash deviceHash)

/-- `list_devices`, in the order of a loop over the map. -/
def listDevices (p : Planner) (accountHash : String) : List Device :=
  (fetchAll p (fun e => e.2.accountHash = accountHash) m.devices.entries).map Prod.snd

def deleteDevice (accountHash deviceHash : String) : MemoryDevices where
  devices := m.devices.remove (deviceKey accountHash deviceHash)
  named e he := m.named e (HashMap.mem_remove.1 he).1

def validateDevice (accountHash deviceHash : String) : Bool :=
  (m.devices.get? (deviceKey accountHash deviceHash)).isSome

end MemoryDevices

/-- `MemoryStorage`: no call fails. -/
def memoryDevices (p : Planner) : DeviceStorage MemoryDevices where
  registerDevice m _ device := .ok (m.insertDevice device)
  getDevice m _ accountHash deviceHash := .ok (m.getDevice accountHash deviceHash)
  listDevices m _ accountHash := .ok (m.listDevices p accountHash)
  updateDevice m _ device := .ok (m.insertDevice device)
  deleteDevice m _ accountHash deviceHash := .ok (m.deleteDevice accountHash deviceHash)
  validateDevice m _ accountHash deviceHash := .ok (m.validateDevice accountHash deviceHash)

/-! ## In the database -/

/-- A row of the table `devices`, with all of its columns. -/
structure DeviceRecord where
  id : String
  accountHash : String
  deviceHash : String
  deviceName : String
  deviceType : String
  osType : String
  osVersion : String
  appVersion : String
  lastSync : ℤ
  createdAt : ℤ
  updatedAt : ℤ
  isActive : Bool
  deriving DecidableEq, Repr

namespace DeviceRecord

/-- The columns that the handlers of watchers ask for. -/
def row (r : DeviceRecord) : DeviceRow := ⟨r.accountHash, r.deviceHash, r.isActive⟩

/-- `WHERE account_hash = ? AND device_hash = ?`. -/
def Is (accountHash deviceHash : String) (r : DeviceRecord) : Prop :=
  r.accountHash = accountHash ∧ r.deviceHash = deviceHash

instance (accountHash deviceHash : String) : DecidablePred (Is accountHash deviceHash) :=
  fun _ => inferInstanceAs (Decidable (_ ∧ _))

theorem Is.eq {a d a' d' : String} {r : DeviceRecord} (h : r.Is a d) (h' : r.Is a' d') :
    a' = a ∧ d' = d :=
  ⟨h'.1.symm.trans h.1, h'.2.symm.trans h.2⟩

/-- The device of a row; a time out of range is the present. -/
def toDevice (now : DateTime) (r : DeviceRecord) : Device where
  userId := r.deviceName
  accountHash := r.accountHash
  deviceHash := r.deviceHash
  updatedAt := (DateTime.fromTimestamp r.updatedAt 0).getD now
  registeredAt := (DateTime.fromTimestamp r.createdAt 0).getD now
  lastSync := (DateTime.fromTimestamp r.lastSync 0).getD now
  isActive := r.isActive
  osVersion := r.osVersion
  appVersion := r.appVersion

/-- The row of a new device. -/
def ofDevice (i : DeviceInputs) (device : Device) : DeviceRecord where
  id := i.uuid
  accountHash := device.accountHash
  deviceHash := device.deviceHash
  deviceName := device.userId
  deviceType := "desktop"
  osType := "Linux"
  osVersion := device.osVersion
  appVersion := device.appVersion
  lastSync := device.lastSync.seconds
  createdAt := device.registeredAt.seconds
  updatedAt := i.now.seconds
  isActive := device.isActive

/-- The columns that `update_device` writes. -/
def write (i : DeviceInputs) (device : Device) (r : DeviceRecord) : DeviceRecord :=
  { r with
    deviceName := device.userId
    osVersion := device.osVersion
    appVersion := device.appVersion
    lastSync := device.lastSync.seconds
    updatedAt := i.now.seconds
    isActive := device.isActive }

/-- The columns that `register_device` writes, if there is a row. -/
def writeRegistered (i : DeviceInputs) (device : Device) (r : DeviceRecord) : DeviceRecord :=
  { r.write i device with deviceType := "desktop", osType := "Linux" }

end DeviceRecord

/-- The table `devices`, and the hashes of the table `accounts`, to which it refers. -/
structure DeviceTable where
  accounts : List String
  devices : List DeviceRecord
  keyed : Keyed DeviceRecord.deviceHash devices
  known : ∀ r ∈ devices, r.accountHash ∈ accounts

namespace DeviceTable

def empty (accounts : List String) : DeviceTable :=
  ⟨accounts, [], .nil, fun _ h => absurd h List.not_mem_nil⟩

variable (t : DeviceTable)

/-- `UPDATE devices SET f WHERE account_hash = ? AND device_hash = ?`, of columns that are no
    keys. -/
def update (accountHash deviceHash : String) (f : DeviceRecord → DeviceRecord)
    (haccount : ∀ r, (f r).accountHash = r.accountHash)
    (hdevice : ∀ r, (f r).deviceHash = r.deviceHash) : DeviceTable where
  accounts := t.accounts
  devices := updateWhere (DeviceRecord.Is accountHash deviceHash) f t.devices
  keyed := t.keyed.updateWhere hdevice
  known := by
    intro r hr
    rcases mem_updateWhere_cases hr with ⟨hr, -⟩ | ⟨r₀, hr₀, -, rfl⟩
    · exact t.known r hr
    · rw [haccount]
      exact t.known r₀ hr₀

/-- `register_device`. -/
def registerDevice (i : DeviceInputs) (device : Device) : Except StorageError DeviceTable :=
  match i.fault with
  | some e => .error e
  | none =>
    if ∃ r ∈ t.devices, r.Is device.accountHash device.deviceHash then
      .ok (t.update device.accountHash device.deviceHash (DeviceRecord.writeRegistered i device)
        (fun _ => rfl) fun _ => rfl)
    else if hkey : ∀ r ∈ t.devices, r.deviceHash ≠ device.deviceHash then
      if hknown : device.accountHash ∈ t.accounts then
        .ok {
          accounts := t.accounts
          devices := t.devices ++ [.ofDevice i device]
          keyed := t.keyed.append hkey
          known := by
            intro r hr
            rcases List.mem_append.1 hr with hr | hr
            · exact t.known r hr
            · rw [List.mem_singleton.1 hr]
              exact hknown }
      else .error (.database "Cannot add or update a child row: a foreign key constraint fails")
    else .error (.database "Duplicate entry for key 'devices.PRIMARY'")

def getDevice (p : Planner) (i : DeviceInputs) (accountHash deviceHash : String) :
    Except StorageError (Option Device) :=
  match i.fault with
  | some e => .error e
  | none =>
    .ok ((fetchOptional p (DeviceRecord.Is accountHash deviceHash) t.devices).map
      (DeviceRecord.toDevice i.now))

/-- `ORDER BY created_at DESC`. -/
def Newer (r r' : DeviceRecord) : Prop := r'.createdAt ≤ r.createdAt

instance : DecidableRel Newer := fun _ _ => inferInstanceAs (Decidable (_ ≤ _))

/-- `list_devices`: the active devices only. -/
def listDevices (p : Planner) (i : DeviceInputs) (accountHash : String) :
    Except StorageError (List Device) :=
  match i.fault with
  | some e => .error e
  | none =>
    .ok ((fetchAllBy p (fun r => r.accountHash = accountHash ∧ r.isActive = true) t.devices
      Newer).map (DeviceRecord.toDevice i.now))

def updateDevice (i : DeviceInputs) (device : Device) : Except StorageError DeviceTable :=
  match i.fault with
  | some e => .error e
  | none =>
    .ok (t.update device.accountHash device.deviceHash (DeviceRecord.write i device)
      (fun _ => rfl) fun _ => rfl)

/-- The rows without those of the device. -/
def remove (accountHash deviceHash : String) : DeviceTable where
  accounts := t.accounts
  devices := deleteWhere (DeviceRecord.Is accountHash deviceHash) t.devices
  keyed := t.keyed.deleteWhere
  known r hr := t.known r (mem_deleteWhere.1 hr).1

def deleteDevice (i : DeviceInputs) (accountHash deviceHash : String) :
    Except StorageError DeviceTable :=
  match i.fault with
  | some e => .error e
  | none => .ok (t.remove accountHash deviceHash)

def validateDevice (i : DeviceInputs) (accountHash deviceHash : String) :
    Except StorageError Bool :=
  match i.fault with
  | some e => .error e
  | none =>
    .ok (t.devices.any fun r =>
      r.accountHash = accountHash ∧ r.deviceHash = deviceHash ∧ r.isActive = true)

end DeviceTable

/-- `MySqlStorage`. -/
def mySqlDevices (p : Planner) : DeviceStorage DeviceTable where
  registerDevice t := t.registerDevice
  getDevice t := t.getDevice p
  listDevices t := t.listDevices p
  updateDevice t := t.updateDevice
  deleteDevice t := t.deleteDevice
  validateDevice t := t.validateDevice

/-! ## Directories -/

/-- What is known of a device. -/
structure DeviceEntry where
  userId : String
  osVersion : String
  appVersion : String
  isActive : Bool
  deriving DecidableEq, Repr

def Device.entry (device : Device) : DeviceEntry where
  userId := device.userId
  osVersion := device.osVersion
  appVersion := device.appVersion
  isActive := device.isActive

/-- For an account and a device, what is known of it. -/
abbrev Directory := String → String → Option DeviceEntry

/-- The directory with the entry of one device changed. -/
def Directory.alter (dir : Directory) (accountHash deviceHash : String)
    (f : Option DeviceEntry → Option DeviceEntry) : Directory :=
  fun a d => if a = accountHash ∧ d = deviceHash then f (dir a d) else dir a d

/-- A storage of devices keeps a directory of the accounts with `Admits`, as long as it has only
    these. A device is listed, and valid, if it is `Shown`; an update of a device that is not
    there leaves `absent`. -/
structure DeviceStorage.Lawful {σ : Type} (storage : DeviceStorage σ) (Admits : String → Prop)
    (Shown : DeviceEntry → Prop) (absent : DeviceEntry → Option DeviceEntry) where
  directory : σ → Directory
  /-- Only accounts with `Admits`. -/
  Inv : σ → Prop
  absent_eq (entry : DeviceEntry) : absent entry = none ∨ absent entry = some entry
  registerDevice {s s' : σ} {i : DeviceInputs} {device : Device} :
    storage.registerDevice s i device = .ok s' → Inv s → Admits device.accountHash →
      Inv s' ∧ ∀ a, Admits a → ∀ d, directory s' a d =
        (directory s).alter device.accountHash device.deviceHash (fun _ => some device.entry) a d
  updateDevice {s s' : σ} {i : DeviceInputs} {device : Device} :
    storage.updateDevice s i device = .ok s' → Inv s → Admits device.accountHash →
      Inv s' ∧ ∀ a, Admits a → ∀ d, directory s' a d =
        (directory s).alter device.accountHash device.deviceHash
          (fun entry => entry.elim (absent device.entry) fun _ => some device.entry) a d
  deleteDevice {s s' : σ} {i : DeviceInputs} {accountHash deviceHash : String} :
    storage.deleteDevice s i accountHash deviceHash = .ok s' → Inv s → Admits accountHash →
      Inv s' ∧ ∀ a, Admits a → ∀ d, directory s' a d =
        (directory s).alter accountHash deviceHash (fun _ => none) a d
  getDevice {s : σ} {i : DeviceInputs} {accountHash deviceHash : String}
    {device : Option Device} :
    storage.getDevice s i accountHash deviceHash = .ok device → Inv s → Admits accountHash →
      device.map Device.entry = directory s accountHash deviceHash ∧
      ∀ dev ∈ device, dev.accountHash = accountHash ∧ dev.deviceHash = deviceHash
  listDevices {s : σ} {i : DeviceInputs} {accountHash : String} {devices : List Device} :
    storage.listDevices s i accountHash = .ok devices → Inv s → Admits accountHash →
      ∀ deviceHash entry, (∃ dev ∈ devices, dev.accountHash = accountHash ∧
          dev.deviceHash = deviceHash ∧ dev.entry = entry) ↔
        directory s accountHash deviceHash = some entry ∧ Shown entry
  validateDevice {s : σ} {i : DeviceInputs} {accountHash deviceHash : String} {valid : Bool} :
    storage.validateDevice s i accountHash deviceHash = .ok valid → Inv s → Admits accountHash →
      (valid = true ↔ ∃ entry, directory s accountHash deviceHash = some entry ∧ Shown entry)

/-! ### In memory -/

namespace MemoryDevices

variable {m : MemoryDevices} {a d a' d' : String} {device : Device} {entry : DeviceEntry}

/-- An account whose devices have keys of their own: its hash has no colon. -/
def Colonless (accountHash : String) : Prop := ':' ∉ accountHash.toList

/-- The accounts of the map have no colon. -/
def Inv (m : MemoryDevices) : Prop := ∀ e ∈ m.devices.entries, Colonless e.2.accountHash

def directory (m : MemoryDevices) : Directory := fun a d => (m.getDevice a d).map Device.entry

theorem deviceKey_inj (ha : Colonless a) (ha' : Colonless a') :
    deviceKey a d = deviceKey a' d' ↔ a = a' ∧ d = d' := by
  have hcolon : (":" : String).toList = [':'] := rfl
  rw [← String.toList_inj, deviceKey, deviceKey]
  simp only [String.toList_append, hcolon, List.append_assoc, List.singleton_append]
  rw [Segments.append_cons_inj ha ha', String.toList_inj, String.toList_inj]

/-- The device that is found is the one that is asked for. -/
theorem getDevice_eq_some (hm : m.Inv) (ha : Colonless a) :
    m.getDevice a d = some device ↔
      (deviceKey device.accountHash device.deviceHash, device) ∈ m.devices.entries ∧
        device.accountHash = a ∧ device.deviceHash = d := by
  rw [getDevice, HashMap.get?_eq_some]
  constructor
  · intro h
    have hkey : deviceKey a d = deviceKey device.accountHash device.deviceHash := m.named _ h
    have hdevice : Colonless device.accountHash := hm _ h
    obtain ⟨rfl, rfl⟩ := (deviceKey_inj ha hdevice).1 hkey
    exact ⟨h, rfl, rfl⟩
  · rintro ⟨h, rfl, rfl⟩
    exact h

theorem inv_insertDevice (hm : m.Inv) (ha : Colonless device.accountHash) :
    (m.insertDevice device).Inv := by
  intro e he
  rcases HashMap.mem_insert.1 he with rfl | ⟨he, -⟩
  · exact ha
  · exact hm e he

theorem directory_insertDevice (ha : Colonless device.accountHash) (ha' : Colonless a') :
    (m.insertDevice device).directory a' d' =
      m.directory.alter device.accountHash device.deviceHash (fun _ => some device.entry)
        a' d' := by
  simp only [directory, getDevice, insertDevice, HashMap.get?_insert, Directory.alter,
    deviceKey_inj ha' ha]
  split <;> rfl

theorem directory_deleteDevice (ha : Colonless a) (ha' : Colonless a') :
    (m.deleteDevice a d).directory a' d' = m.directory.alter a d (fun _ => none) a' d' := by
  simp only [directory, getDevice, deleteDevice, HashMap.get?_remove, Directory.alter,
    deviceKey_inj ha' ha]
  split <;> rfl

/-- The devices that are listed are those in the directory. -/
theorem mem_listDevices {p : Planner} (hm : m.Inv) (ha : Colonless a) :
    (∃ dev ∈ m.listDevices p a, dev.accountHash = a ∧ dev.deviceHash = d ∧ dev.entry = entry) ↔
      m.directory a d = some entry := by
  rw [directory, Option.map_eq_some_iff]
  constructor
  · rintro ⟨dev, hdev, haccount, hdevice, hentry⟩
    obtain ⟨e, he, rfl⟩ := List.mem_map.1 hdev
    have hmem := (mem_fetchAll.1 he).1
    refine ⟨e.2, (getDevice_eq_some hm ha).2 ⟨?_, haccount, hdevice⟩, hentry⟩
    rw [← m.named e hmem]
    exact hmem
  · rintro ⟨dev, hdev, hentry⟩
    obtain ⟨hmem, haccount, hdevice⟩ := (getDevice_eq_some hm ha).1 hdev
    exact ⟨dev, List.mem_map_of_mem (mem_fetchAll.2 ⟨hmem, haccount⟩), haccount, hdevice, hentry⟩

end MemoryDevices

/-- In memory, for accounts without a colon: all devices are shown, and an update adds what is
    not there. -/
def memoryDevicesLawful (p : Planner) :
    (memoryDevices p).Lawful MemoryDevices.Colonless (fun _ => True) some where
  directory := MemoryDevices.directory
  Inv := MemoryDevices.Inv
  absent_eq _ := .inr rfl
  registerDevice h hm ha := by
    cases h
    exact ⟨MemoryDevices.inv_insertDevice hm ha,
      fun a ha' d => MemoryDevices.directory_insertDevice ha ha'⟩
  updateDevice {s s' i device} h hm ha := by
    cases h
    refine ⟨MemoryDevices.inv_insertDevice hm ha, fun a ha' d => ?_⟩
    have hentry : (fun entry : Option DeviceEntry => entry.elim (some device.entry)
        fun _ => some device.entry) = fun _ => some device.entry := by
      funext entry
      cases entry <;> rfl
    rw [hentry]
    exact MemoryDevices.directory_insertDevice ha ha'
  deleteDevice h hm ha := by
    cases h
    exact ⟨fun e he => hm e (HashMap.mem_remove.1 he).1,
      fun a ha' d => MemoryDevices.directory_deleteDevice ha ha'⟩
  getDevice h hm ha := by
    cases h
    exact ⟨rfl, fun dev hdev => ((MemoryDevices.getDevice_eq_some hm ha).1 hdev).2⟩
  listDevices h hm ha deviceHash entry := by
    cases h
    rw [and_true]
    exact MemoryDevices.mem_listDevices hm ha
  validateDevice h hm ha := by
    cases h
    simp [MemoryDevices.validateDevice, MemoryDevices.directory, MemoryDevices.getDevice,
      Option.isSome_iff_exists]

/-! ### In the database -/

/-- What a row tells of its device. -/
def DeviceRecord.entry (r : DeviceRecord) : DeviceEntry where
  userId := r.deviceName
  osVersion := r.osVersion
  appVersion := r.appVersion
  isActive := r.isActive

namespace DeviceTable

variable {t t' : DeviceTable} {p : Planner} {i : DeviceInputs} {a d a' d' : String}
  {device : Device} {entry : DeviceEntry} {r : DeviceRecord}

/-- A query for a device finds its row. -/
theorem fetchOptional_is (p : Planner) :
    fetchOptional p (DeviceRecord.Is a d) t.devices = some r ↔ r ∈ t.devices ∧ r.Is a d := by
  constructor
  · exact fetchOptional_some
  · rintro ⟨hr, his⟩
    exact t.keyed.fetchOptional_eq_some p hr his fun r' _ his' => his'.2.trans his.2.symm

def directory (t : DeviceTable) : Directory := fun a d =>
  (fetchOptional .insertion (DeviceRecord.Is a d) t.devices).map DeviceRecord.entry

theorem directory_eq_some :
    t.directory a d = some entry ↔ ∃ r ∈ t.devices, r.Is a d ∧ r.entry = entry := by
  simp only [directory, Option.map_eq_some_iff, fetchOptional_is, and_assoc]

/-- A device that is found by the query of `get_device`. -/
theorem getDevice_entry (hi : i.fault = none) :
    ∃ dev, t.getDevice p i a d = .ok dev ∧ dev.map Device.entry = t.directory a d ∧
      ∀ dv ∈ dev, dv.accountHash = a ∧ dv.deviceHash = d := by
  refine ⟨_, by rw [getDevice, hi], ?_, ?_⟩
  · rw [Option.map_map, directory]
    cases hfetch : fetchOptional p (DeviceRecord.Is a d) t.devices with
    | none => rw [fetchOptional_eq_none.2 (fetchOptional_eq_none.1 hfetch)]; rfl
    | some r => rw [(fetchOptional_is _).2 ((fetchOptional_is p).1 hfetch)]; rfl
  · intro dv hdv
    obtain ⟨r, hr, rfl⟩ := Option.map_eq_some_iff.1 hdv
    exact ((fetchOptional_is p).1 hr).2

/-- A write of the row of a device, which tells of it what `e` says. -/
theorem directory_update {f : DeviceRecord → DeviceRecord} {e : DeviceEntry}
    (haccount : ∀ r, (f r).accountHash = r.accountHash)
    (hdevice : ∀ r, (f r).deviceHash = r.deviceHash) (hf : ∀ r, (f r).entry = e) :
    (t.update a d f haccount hdevice).directory =
      t.directory.alter a d fun entry => entry.map fun _ => e := by
  have his : ∀ {r a' d'}, (f r).Is a' d' ↔ r.Is a' d' := by
    intro r a' d'
    rw [DeviceRecord.Is, DeviceRecord.Is, haccount, hdevice]
  funext a' d'
  ext entry
  rw [directory_eq_some, Directory.alter]
  constructor
  · rintro ⟨r, hr, hr', rfl⟩
    rcases mem_updateWhere_cases hr with ⟨hmem, hne⟩ | ⟨r₀, hmem, hr₀, rfl⟩
    · have hk : ¬(a' = a ∧ d' = d) := by
        rintro ⟨rfl, rfl⟩
        exact hne hr'
      rw [if_neg hk]
      exact directory_eq_some.2 ⟨r, hmem, hr', rfl⟩
    · rw [his] at hr'
      rw [if_pos (hr₀.eq hr'), hf, directory_eq_some.2 ⟨r₀, hmem, hr', rfl⟩]
      rfl
  · intro h
    split at h
    next hk =>
      obtain ⟨rfl, rfl⟩ := hk
      obtain ⟨_, hsome, rfl⟩ := Option.map_eq_some_iff.1 h
      obtain ⟨r, hr, hr', -⟩ := directory_eq_some.1 hsome
      exact ⟨f r, mem_updateWhere.2 ⟨r, hr, if_pos hr'⟩, his.2 hr', hf r⟩
    next hk =>
      obtain ⟨r, hr, hr', rfl⟩ := directory_eq_some.1 h
      exact ⟨r, mem_updateWhere_of_not hr fun h => hk (h.eq hr'), hr', rfl⟩

/-- What a registration does that the database accepts. -/
theorem directory_registerDevice (h : t.registerDevice i device = .ok t') :
    t'.directory =
      t.directory.alter device.accountHash device.deviceHash fun _ => some device.entry := by
  dsimp only [registerDevice] at h
  split at h
  next => cases h
  next =>
    split at h
    next hex =>
      obtain ⟨r, hr, his⟩ := hex
      cases h
      refine (directory_update (f := .writeRegistered i device) (e := device.entry) _ _
        fun _ => rfl).trans ?_
      funext a' d'
      rw [Directory.alter, Directory.alter]
      split
      next hk =>
        obtain ⟨rfl, rfl⟩ := hk
        rw [directory_eq_some.2 ⟨r, hr, his, rfl⟩]
        rfl
      next => rfl
    next hnone =>
      split at h
      next hkey =>
        split at h
        next =>
          cases h
          funext a' d'
          ext entry
          rw [directory_eq_some, Directory.alter]
          constructor
          · rintro ⟨r, hr, his, rfl⟩
            rcases List.mem_append.1 hr with hr | hr
            · have hk : ¬(a' = device.accountHash ∧ d' = device.deviceHash) := by
                rintro ⟨rfl, rfl⟩
                exact hnone ⟨r, hr, his⟩
              rw [if_neg hk]
              exact directory_eq_some.2 ⟨r, hr, his, rfl⟩
            · obtain rfl := List.mem_singleton.1 hr
              rw [if_pos ⟨his.1.symm, his.2.symm⟩]
              rfl
          · intro h
            split at h
            next hk =>
              obtain ⟨rfl, rfl⟩ := hk
              exact ⟨.ofDevice i device, List.mem_append_right _ (List.mem_singleton_self _),
                ⟨rfl, rfl⟩, Option.some.inj h⟩
            next =>
              obtain ⟨r, hr, his, rfl⟩ := directory_eq_some.1 h
              exact ⟨r, List.mem_append_left _ hr, his, rfl⟩
        next => cases h
      next => cases h

theorem directory_remove : (t.remove a d).directory = t.directory.alter a d fun _ => none := by
  funext a' d'
  ext entry
  rw [directory_eq_some, Directory.alter]
  constructor
  · rintro ⟨r, hr, his, rfl⟩
    obtain ⟨hmem, hne⟩ := mem_deleteWhere.1 hr
    have hk : ¬(a' = a ∧ d' = d) := by
      rintro ⟨rfl, rfl⟩
      exact hne his
    rw [if_neg hk]
    exact directory_eq_some.2 ⟨r, hmem, his, rfl⟩
  · intro h
    split at h
    next => cases h
    next hk =>
      obtain ⟨r, hr, his, rfl⟩ := directory_eq_some.1 h
      exact ⟨r, mem_deleteWhere.2 ⟨hr, fun h => hk (h.eq his)⟩, his, rfl⟩

theorem directory_updateDevice (h : t.updateDevice i device = .ok t') :
    t'.directory = t.directory.alter device.accountHash device.deviceHash
      fun entry => entry.elim none fun _ => some device.entry := by
  dsimp only [updateDevice] at h
  split at h
  next => cases h
  next =>
    cases h
    refine (directory_update (f := .write i device) (e := device.entry) _ _ fun _ => rfl).trans ?_
    congr 1
    funext entry
    cases entry <;> rfl

/-- The devices that are listed are the active ones of the directory. -/
theorem mem_listDevices {devices : List Device} (h : t.listDevices p i a = .ok devices) :
    (∃ dev ∈ devices, dev.accountHash = a ∧ dev.deviceHash = d ∧ dev.entry = entry) ↔
      t.directory a d = some entry ∧ entry.isActive = true := by
  dsimp only [listDevices] at h
  split at h
  next => cases h
  next =>
    cases h
    rw [directory_eq_some]
    constructor
    · rintro ⟨dev, hdev, haccount, hdevice, rfl⟩
      obtain ⟨r, hr, rfl⟩ := List.mem_map.1 hdev
      obtain ⟨hmem, -, hactive⟩ := mem_fetchAllBy.1 hr
      exact ⟨⟨r, hmem, ⟨haccount, hdevice⟩, rfl⟩, hactive⟩
    · rintro ⟨⟨r, hr, his, rfl⟩, hactive⟩
      exact ⟨r.toDevice i.now, List.mem_map_of_mem (mem_fetchAllBy.2 ⟨hr, his.1, hactive⟩),
        his.1, his.2, rfl⟩

theorem validateDevice_iff {valid : Bool} (h : t.validateDevice i a d = .ok valid) :
    valid = true ↔ ∃ entry, t.directory a d = some entry ∧ entry.isActive = true := by
  dsimp only [validateDevice] at h
  split at h
  next => cases h
  next =>
    cases h
    simp only [List.any_eq_true, decide_eq_true_eq, directory_eq_some]
    constructor
    · rintro ⟨r, hr, haccount, hdevice, hactive⟩
      exact ⟨r.entry, ⟨r, hr, ⟨haccount, hdevice⟩, rfl⟩, hactive⟩
    · rintro ⟨_, ⟨r, hr, his, rfl⟩, hactive⟩
      exact ⟨r, hr, his.1, his.2, hactive⟩

end DeviceTable

/-- In the database, for all accounts: the active devices are shown, and an update changes
    nothing if the device is not there. -/
def mySqlDevicesLawful (p : Planner) :
    (mySqlDevices p).Lawful (fun _ => True) (·.isActive = true) (fun _ => none) where
  directory := DeviceTable.directory
  Inv _ := True
  absent_eq _ := .inl rfl
  registerDevice h _ _ :=
    ⟨trivial, fun a _ d => by rw [DeviceTable.directory_registerDevice h]⟩
  updateDevice h _ _ := ⟨trivial, fun a _ d => by rw [DeviceTable.directory_updateDevice h]⟩
  deleteDevice {s s' i accountHash deviceHash} h _ _ := by
    refine ⟨trivial, fun a _ d => ?_⟩
    dsimp only [mySqlDevices, DeviceTable.deleteDevice] at h
    split at h
    next => cases h
    next =>
      cases h
      rw [DeviceTable.directory_remove]
  getDevice {s i accountHash deviceHash device} h _ _ := by
    cases hi : i.fault with
    | some e =>
      dsimp only [mySqlDevices, DeviceTable.getDevice] at h
      rw [hi] at h
      cases h
    | none =>
      obtain ⟨dev, hdev, hspec⟩ := DeviceTable.getDevice_entry (t := s) (p := p)
        (a := accountHash) (d := deviceHash) hi
      cases hdev.symm.trans h
      exact hspec
  listDevices h _ _ _ _ := DeviceTable.mem_listDevices h
  validateDevice h _ _ := DeviceTable.validateDevice_iff h

/-! ## Devices have owners -/

/-- A call that writes. -/
inductive DeviceWrite
  | registerDevice (device : Device)
  | updateDevice (device : Device)
  | deleteDevice (accountHash deviceHash : String)
  deriving DecidableEq

/-- The device that a call names. -/
def DeviceWrite.deviceHash : DeviceWrite → String
  | .registerDevice device | .updateDevice device => device.deviceHash
  | .deleteDevice _ deviceHash => deviceHash

namespace DeviceStorage

variable {σ : Type} (storage : DeviceStorage σ)

def perform (s : σ) (i : DeviceInputs) : DeviceWrite → Except StorageError σ
  | .registerDevice device => storage.registerDevice s i device
  | .updateDevice device => storage.updateDevice s i device
  | .deleteDevice accountHash deviceHash => storage.deleteDevice s i accountHash deviceHash

/-- What is stored after a write, which changes nothing if it fails. -/
def write (s : σ) (o : DeviceInputs × DeviceWrite) : σ :=
  match storage.perform s o.1 o.2 with
  | .ok s' => s'
  | .error _ => s

theorem write_cases (s : σ) (o : DeviceInputs × DeviceWrite) :
    (∃ s', storage.perform s o.1 o.2 = .ok s' ∧ storage.write s o = s') ∨
      (∃ e, storage.perform s o.1 o.2 = .error e) ∧ storage.write s o = s := by
  rw [write]
  cases storage.perform s o.1 o.2 with
  | ok s' => exact .inl ⟨s', rfl, rfl⟩
  | error e => exact .inr ⟨⟨e, rfl⟩, rfl⟩

end DeviceStorage

namespace DeviceRecord

/-- What becomes of a row that is not deleted. -/
def after (r : DeviceRecord) (o : DeviceInputs × DeviceWrite) : DeviceRecord :=
  match o.1.fault, o.2 with
  | none, .registerDevice device =>
    if r.Is device.accountHash device.deviceHash then r.writeRegistered o.1 device else r
  | none, .updateDevice device =>
    if r.Is device.accountHash device.deviceHash then r.write o.1 device else r
  | _, _ => r

/-- The columns that no call changes. -/
def Same (r r' : DeviceRecord) : Prop :=
  r'.id = r.id ∧ r'.accountHash = r.accountHash ∧ r'.deviceHash = r.deviceHash ∧
    r'.createdAt = r.createdAt

theorem same_after (r : DeviceRecord) (o : DeviceInputs × DeviceWrite) : r.Same (r.after o) := by
  dsimp only [after]
  split
  · split <;> exact ⟨rfl, rfl, rfl, rfl⟩
  · split <;> exact ⟨rfl, rfl, rfl, rfl⟩
  · exact ⟨rfl, rfl, rfl, rfl⟩

end DeviceRecord

/-- A registration of a device that belongs to another account. -/
def DeviceWrite.Trespasses (r : DeviceRecord) : DeviceWrite → Prop
  | .registerDevice device =>
    device.deviceHash = r.deviceHash ∧ device.accountHash ≠ r.accountHash
  | _ => False

namespace DeviceTable

variable {t : DeviceTable} {p : Planner} {o : DeviceInputs × DeviceWrite} {r : DeviceRecord}

/-- What a call that succeeds does to the directory. -/
theorem directory_perform {t' : DeviceTable}
    (h : (mySqlDevices p).perform t o.1 o.2 = .ok t') :
    t'.directory = match o.2 with
      | .registerDevice device =>
        t.directory.alter device.accountHash device.deviceHash fun _ => some device.entry
      | .updateDevice device =>
        t.directory.alter device.accountHash device.deviceHash
          fun entry => entry.elim none fun _ => some device.entry
      | .deleteDevice accountHash deviceHash =>
        t.directory.alter accountHash deviceHash fun _ => none := by
  obtain ⟨i, w⟩ := o
  cases w with
  | registerDevice device => exact directory_registerDevice h
  | updateDevice device => exact directory_updateDevice h
  | deleteDevice accountHash deviceHash =>
    dsimp only [DeviceStorage.perform, mySqlDevices, deleteDevice] at h ⊢
    split at h
    next => cases h
    next =>
      cases h
      exact directory_remove

/-- A call writes of the device that it names only. -/
theorem directory_write_of_ne {a d : String} (hne : o.2.deviceHash ≠ d) :
    ((mySqlDevices p).write t o).directory a d = t.directory a d := by
  have halter : ∀ {a' d' f}, d' ≠ d → t.directory.alter a' d' f a d = t.directory a d :=
    fun h => if_neg fun hk => h hk.2.symm
  rcases DeviceStorage.write_cases (mySqlDevices p) t o with ⟨t', ht', heq⟩ | ⟨-, heq⟩
  · obtain ⟨i, w⟩ := o
    rw [heq, directory_perform ht']
    cases w with
    | registerDevice | updateDevice | deleteDevice => exact halter hne
  · rw [heq]

/-- A row is of a device that was there, or that has been registered; no accounts come or go. -/
theorem write_rows :
    ((mySqlDevices p).write t o).accounts = t.accounts ∧
      ∀ r ∈ ((mySqlDevices p).write t o).devices,
        (∃ r₀ ∈ t.devices, r.accountHash = r₀.accountHash ∧ r.deviceHash = r₀.deviceHash) ∨
          ∃ device, o.2 = .registerDevice device ∧ r.accountHash = device.accountHash ∧
            r.deviceHash = device.deviceHash := by
  have hupdate : ∀ {a d f haccount hdevice}, ∀ r ∈ (t.update a d f haccount hdevice).devices,
      ∃ r₀ ∈ t.devices, r.accountHash = r₀.accountHash ∧ r.deviceHash = r₀.deviceHash := by
    intro a d f haccount hdevice r hr
    rcases mem_updateWhere_cases hr with ⟨hr, -⟩ | ⟨r₀, hr₀, -, rfl⟩
    · exact ⟨r, hr, rfl, rfl⟩
    · exact ⟨r₀, hr₀, haccount r₀, hdevice r₀⟩
  rcases DeviceStorage.write_cases (mySqlDevices p) t o with ⟨t', ht', heq⟩ | ⟨-, heq⟩
  · obtain ⟨i, w⟩ := o
    rw [heq]
    cases w with
    | registerDevice device =>
      dsimp only [DeviceStorage.perform, mySqlDevices, registerDevice] at ht'
      split at ht'
      next => cases ht'
      next =>
        split at ht'
        next =>
          cases ht'
          exact ⟨rfl, fun r hr => .inl (hupdate r hr)⟩
        next =>
          split_ifs at ht'
          cases ht'
          refine ⟨rfl, fun r hr => ?_⟩
          rcases List.mem_append.1 hr with hr | hr
          · exact .inl ⟨r, hr, rfl, rfl⟩
          · rw [List.mem_singleton.1 hr]
            exact .inr ⟨device, rfl, rfl, rfl⟩
    | updateDevice device =>
      dsimp only [DeviceStorage.perform, mySqlDevices, updateDevice] at ht'
      split at ht'
      next => cases ht'
      next =>
        cases ht'
        exact ⟨rfl, fun r hr => .inl (hupdate r hr)⟩
    | deleteDevice accountHash deviceHash =>
      dsimp only [DeviceStorage.perform, mySqlDevices, deleteDevice] at ht'
      split at ht'
      next => cases ht'
      next =>
        cases ht'
        exact ⟨rfl, fun r hr => .inl ⟨r, (mem_deleteWhere.1 hr).1, rfl, rfl⟩⟩
  · rw [heq]
    exact ⟨rfl, fun r hr => .inl ⟨r, hr, rfl, rfl⟩⟩

/-- The database accepts a device of an account that it knows, if it is not another's. -/
theorem registerDevice_ok_iff {i : DeviceInputs} {device : Device} :
    (∃ t', t.registerDevice i device = .ok t') ↔
      i.fault = none ∧ device.accountHash ∈ t.accounts ∧
        ∀ r ∈ t.devices, r.deviceHash = device.deviceHash → r.accountHash = device.accountHash := by
  rw [registerDevice]
  constructor
  · rintro ⟨t', ht'⟩
    split at ht'
    next => cases ht'
    next hi =>
      refine ⟨hi, ?_⟩
      split at ht'
      next hex =>
        obtain ⟨r, hr, haccount, hdevice⟩ := hex
        refine ⟨haccount ▸ t.known r hr, fun r' hr' hdevice' => ?_⟩
        rw [t.keyed.eq_of_mem hr' hr (hdevice'.trans hdevice.symm), haccount]
      next =>
        split_ifs at ht' with hkey hknown
        exact ⟨hknown, fun r hr hdevice => absurd hdevice (hkey r hr)⟩
  · rintro ⟨hi, haccount, hown⟩
    rw [hi]
    dsimp only
    split
    next => exact ⟨_, rfl⟩
    next hnone =>
      have hkey : ∀ r ∈ t.devices, r.deviceHash ≠ device.deviceHash :=
        fun r hr hdevice => hnone ⟨r, hr, hown r hr hdevice, hdevice⟩
      rw [dif_pos hkey]
      exact ⟨_, rfl⟩

theorem mem_update {a d : String} {f : DeviceRecord → DeviceRecord}
    {haccount : ∀ r, (f r).accountHash = r.accountHash}
    {hdevice : ∀ r, (f r).deviceHash = r.deviceHash} (hr : r ∈ t.devices) :
    (if r.Is a d then f r else r) ∈ (t.update a d f haccount hdevice).devices :=
  mem_updateWhere.2 ⟨r, hr, rfl⟩

/-- A row goes with the calls, unless it is deleted. -/
theorem after_mem_write (hr : r ∈ t.devices)
    (ho : o.2 ≠ .deleteDevice r.accountHash r.deviceHash) :
    r.after o ∈ ((mySqlDevices p).write t o).devices := by
  obtain ⟨i, w⟩ := o
  dsimp only [DeviceStorage.write, DeviceStorage.perform, mySqlDevices, DeviceRecord.after]
  cases w with
  | registerDevice device =>
    dsimp only [registerDevice]
    cases hi : i.fault with
    | some e => exact hr
    | none =>
      by_cases hex : ∃ r ∈ t.devices, r.Is device.accountHash device.deviceHash
      · simp only [if_pos hex]
        exact mem_update hr
      · have hne : ¬r.Is device.accountHash device.deviceHash := fun h => hex ⟨r, hr, h⟩
        simp only [if_neg hex, if_neg hne]
        split
        next s' hs' =>
          split at hs'
          next =>
            split at hs'
            next =>
              cases hs'
              exact List.mem_append_left _ hr
            next => cases hs'
          next => cases hs'
        next => exact hr
  | updateDevice device =>
    dsimp only [updateDevice]
    cases hi : i.fault with
    | some e => exact hr
    | none => exact mem_update hr
  | deleteDevice accountHash deviceHash =>
    dsimp only [deleteDevice]
    cases hi : i.fault with
    | some e => exact hr
    | none =>
      have hne : ¬r.Is accountHash deviceHash := by
        rintro ⟨rfl, rfl⟩
        exact ho rfl
      exact mem_deleteWhere.2 ⟨hr, hne⟩

/-- No account registers what belongs to another. -/
theorem error_of_trespasses (hr : r ∈ t.devices) (ho : o.2.Trespasses r) :
    ∃ e, (mySqlDevices p).perform t o.1 o.2 = .error e := by
  obtain ⟨i, w⟩ := o
  cases w with
  | updateDevice | deleteDevice => exact ho.elim
  | registerDevice device =>
    obtain ⟨hdevice, haccount⟩ := ho
    dsimp only [DeviceStorage.perform, mySqlDevices, registerDevice]
    cases hi : i.fault with
    | some e => exact ⟨e, rfl⟩
    | none =>
      have hex : ¬∃ r' ∈ t.devices, r'.Is device.accountHash device.deviceHash := by
        rintro ⟨r', hr', his⟩
        have heq : r' = r := t.keyed.eq_of_mem hr' hr (his.2.trans hdevice)
        exact haccount (heq ▸ his.1.symm)
      have hkey : ¬∀ r' ∈ t.devices, r'.deviceHash ≠ device.deviceHash :=
        fun h => h r hr hdevice.symm
      exact ⟨_, by rw [if_neg hex, dif_neg hkey]⟩

/-- A device that its account does not delete stays its own, whatever is called: the row has
    the id and the time of its registration, and tells what was written last; and no other
    account registers the device. -/
theorem owner_run {ops : List (DeviceInputs × DeviceWrite)} (hr : r ∈ t.devices)
    (hops : ∀ o ∈ ops, o.2 ≠ .deleteDevice r.accountHash r.deviceHash) :
    run DeviceRecord.after r ops ∈ (run (mySqlDevices p).write t ops).devices ∧
      r.Same (run DeviceRecord.after r ops) ∧
      Guarded (mySqlDevices p).write (fun t o => o.2.Trespasses r →
        ∃ e, (mySqlDevices p).perform t o.1 o.2 = .error e) t ops := by
  induction ops generalizing t r with
  | nil => exact ⟨hr, ⟨rfl, rfl, rfl, rfl⟩, trivial⟩
  | cons o ops ih =>
    obtain ⟨hid, haccount, hdevice, hcreated⟩ := r.same_after o
    have hmem := after_mem_write (p := p) hr (hops o List.mem_cons_self)
    have hrest : ∀ o' ∈ ops,
        o'.2 ≠ .deleteDevice (r.after o).accountHash (r.after o).deviceHash := by
      rw [haccount, hdevice]
      exact fun o' ho' => hops o' (List.mem_cons_of_mem _ ho')
    obtain ⟨hrun, ⟨hid', haccount', hdevice', hcreated'⟩, hguarded⟩ := ih hmem hrest
    refine ⟨hrun, ⟨hid'.trans hid, haccount'.trans haccount, hdevice'.trans hdevice,
      hcreated'.trans hcreated⟩, fun ho => error_of_trespasses hr ho, ?_⟩
    refine hguarded.imp fun s o' himp ho' => himp ?_
    cases ho'' : o'.2 with
    | updateDevice | deleteDevice => simp only [ho'', DeviceWrite.Trespasses] at ho'
    | registerDevice device =>
      simp only [ho'', DeviceWrite.Trespasses] at ho' ⊢
      rwa [haccount, hdevice]

end DeviceTable

end CosmicSync
