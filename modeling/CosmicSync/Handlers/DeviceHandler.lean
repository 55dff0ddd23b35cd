import CosmicSync.Handlers.WatcherHandler
import CosmicSync.Library.Interleaving
import CosmicSync.Storage.Devices

/-!
# Requests about devices

`register_device`, `update_device_info`, `list_devices` and `delete_device` of
`handlers/device_handler.rs`, and `auto_register_or_update_device` of
`handlers/auth_handler.rs`, which an exchange of an OAuth code runs for the device that it
names. A request calls the storage once or twice; what other requests do may come between the
two calls.

All but one of these act for the account of a token, or of a login. `update_device_info` has no
token: it acts for the account that it names.

* `exec_fst`: a statement writes what `Pc.write` says.
* `attributed_run`: what is known of a device is what one request of its account has said, or
  one without a token.
* `update_alone`: what a request without a token achieves.
* `owned_run`: in the database, no request takes a device away from its account.
-/

namespace CosmicSync

open Table Run

/-- `RegisterDeviceRequest`. -/
structure RegisterDeviceRequest where
  accountHash : String
  deviceHash : String
  isActive : Bool
  osVersion : String
  appVersion : String
  authToken : String
  deriving DecidableEq, Repr

/-- `RegisterDeviceResponse`. -/
structure RegisterDeviceResponse where
  success : Bool
  deviceHash : String
  returnMessage : String
  deriving DecidableEq, Repr

/-- `UpdateDeviceInfoRequest`. -/
structure UpdateDeviceInfoRequest where
  accountHash : String
  deviceHash : String
  isActive : Bool
  osVersion : String
  appVersion : String
  deriving DecidableEq, Repr

/-- `UpdateDeviceInfoResponse`, and `DeleteDeviceResponse`. -/
structure DeviceResponse where
  success : Bool
  returnMessage : String
  deriving DecidableEq, Repr

/-- `sync::DeviceInfo`. -/
structure DeviceInfo where
  accountHash : String
  deviceHash : String
  isActive : Bool
  osVersion : String
  appVersion : String
  registeredAt : Option Timestamp
  lastSyncTime : Option Timestamp
  deriving DecidableEq, Repr

/-- `ListDevicesResponse`. -/
structure ListDevicesResponse where
  success : Bool
  devices : List DeviceInfo
  returnMessage : String
  deriving DecidableEq, Repr

/-- `to_proto_device_info`, and the same in `list_devices`. -/
def Device.toProtoDeviceInfo (device : Device) : DeviceInfo where
  accountHash := device.accountHash
  deviceHash := device.deviceHash
  isActive := device.isActive
  osVersion := device.osVersion
  appVersion := device.appVersion
  registeredAt := some ⟨device.registeredAt.seconds, 0⟩
  lastSyncTime := some ⟨device.lastSync.seconds, 0⟩

namespace DeviceHandler

/-- What a request is told. -/
inductive Answer where
  | registerDevice (response : RegisterDeviceResponse)
  | updateDeviceInfo (response : DeviceResponse)
  | listDevices (response : Except Status ListDevicesResponse)
  | deleteDevice (response : DeviceResponse)
  /-- Of `auto_register_or_update_device`; the exchange succeeds all the same. -/
  | oauthExchange (result : Except String Unit)

/-- The next call of a request. -/
inductive Pc where
  /-- `register_device`. -/
  | registerDevice (device : Device)
  /-- `update_device_info`: `get_device`, and then one of two. -/
  | getDevice (req : UpdateDeviceInfoRequest)
  | updateDevice (device : Device)
  | registerNewDevice (device : Device)
  | listDevices (accountHash : String)
  | deleteDevice (accountHash deviceHash : String)
  /-- `auto_register_or_update_device`: `get_device`, and then `register_device`. -/
  | checkDevice (accountHash deviceHash osVersion appVersion : String)
  | registerChecked (existing : Bool) (device : Device)
  | answered (answer : Answer)

/-- A request, with the verdict of `validate_token` on its token: an account, or the text of an
    error. -/
inductive Request where
  | registerDevice (req : RegisterDeviceRequest) (verdict : Except String String) (now : DateTime)
  | updateDeviceInfo (req : UpdateDeviceInfoRequest)
  | listDevices (verdict : Except String String)
  | deleteDevice (deviceHash : String) (verdict : Except String String)
  /-- A successful exchange of a code that names the device. -/
  | oauthExchange (accountHash deviceHash osVersion appVersion : String)

/-- What a request does before its first call. -/
def Request.start : Request → Pc
  | .registerDevice req verdict now =>
    if req.accountHash = "" then
      .answered (.registerDevice ⟨false, "", "Account hash cannot be empty"⟩)
    else if req.deviceHash = "" then
      .answered (.registerDevice ⟨false, "", "Device hash cannot be empty"⟩)
    else if req.deviceHash.utf8ByteSize > 128 then
      .answered (.registerDevice ⟨false, "", "Device hash too long (max 128 characters)"⟩)
    else if req.authToken = "" then
      .answered (.registerDevice ⟨false, "", "Authentication token required"⟩)
    else
      match verdict with
      | .ok serverAccountHash =>
        .registerDevice (.new serverAccountHash req.deviceHash req.isActive req.osVersion
          req.appVersion now)
      | .error e => .answered (.registerDevice ⟨false, "", "authentication failed: " ++ e⟩)
  | .updateDeviceInfo req => .getDevice req
  | .listDevices (.ok accountHash) => .listDevices accountHash
  | .listDevices (.error _) =>
    .answered (.listDevices (.error (.unauthenticated "Authentication failed")))
  | .deleteDevice deviceHash (.ok accountHash) => .deleteDevice accountHash deviceHash
  | .deleteDevice _ (.error e) =>
    .answered (.deleteDevice ⟨false, "Authentication failed: " ++ e⟩)
  | .oauthExchange accountHash deviceHash osVersion appVersion =>
    .checkDevice accountHash deviceHash osVersion appVersion

/-- What a call meets, and the clock that the handler reads after it. -/
structure Inputs where
  call : DeviceInputs
  now : DateTime

/-- The device of `update_device_info`, if there is one. -/
def updated (req : UpdateDeviceInfoRequest) (now : DateTime) (device : Device) : Device :=
  { device with
    isActive := req.isActive
    osVersion := req.osVersion
    appVersion := req.appVersion
    updatedAt := now }

section

variable {σ : Type} (storage : DeviceStorage σ)

/-- A call of a request, and what the request does after it. -/
def exec (s : σ) (i : Inputs) : Pc → σ × Pc
  | .registerDevice device =>
    match storage.registerDevice s i.call device with
    | .ok s' => (s', .answered (.registerDevice
        ⟨true, device.deviceHash, "device registration/update successful"⟩))
    | .error e => (s, .answered (.registerDevice
        ⟨false, "", "device registration/update failed: " ++ e.display⟩))
  | .getDevice req =>
    match storage.getDevice s i.call req.accountHash req.deviceHash with
    | .ok (some device) => (s, .updateDevice (updated req i.now device))
    | .ok none => (s, .registerNewDevice
        (.new req.accountHash req.deviceHash req.isActive req.osVersion req.appVersion i.now))
    | .error e =>
      (s, .answered (.updateDeviceInfo ⟨false, "device info lookup failed: " ++ e.display⟩))
  | .updateDevice device =>
    match storage.updateDevice s i.call device with
    | .ok s' => (s', .answered (.updateDeviceInfo ⟨true, "device info updated successfully"⟩))
    | .error e =>
      (s, .answered (.updateDeviceInfo ⟨false, "device info update failed: " ++ e.display⟩))
  | .registerNewDevice device =>
    match storage.registerDevice s i.call device with
    | .ok s' => (s', .answered (.updateDeviceInfo ⟨true, "new device registered successfully"⟩))
    | .error e =>
      (s, .answered (.updateDeviceInfo ⟨false, "device registration failed: " ++ e.display⟩))
  | .listDevices accountHash =>
    match storage.listDevices s i.call accountHash with
    | .ok devices =>
      (s, .answered (.listDevices (.ok ⟨true, devices.map Device.toProtoDeviceInfo, ""⟩)))
    | .error e =>
      (s, .answered (.listDevices (.ok ⟨false, [], "Failed to get devices: " ++ e.display⟩)))
  | .deleteDevice accountHash deviceHash =>
    match storage.deleteDevice s i.call accountHash deviceHash with
    | .ok s' => (s', .answered (.deleteDevice ⟨true, ""⟩))
    | .error e => (s, .answered (.deleteDevice ⟨false, "Device deletion failed: " ++ e.display⟩))
  | .checkDevice accountHash deviceHash osVersion appVersion =>
    match storage.getDevice s i.call accountHash deviceHash with
    | .ok (some device) => (s, .registerChecked true
        (device.updateInfo (some true) (some osVersion) (some appVersion) i.now))
    | .ok none => (s, .registerChecked false
        (.new accountHash deviceHash true osVersion appVersion i.now))
    | .error e => (s, .answered (.oauthExchange
        (.error ("Failed to check existing device: " ++ e.display))))
  | .registerChecked existing device =>
    match storage.registerDevice s i.call device with
    | .ok s' => (s', .answered (.oauthExchange (.ok ())))
    | .error e => (s, .answered (.oauthExchange (.error
        ((if existing then "Failed to update existing device: "
          else "Failed to register new device: ") ++ e.display))))
  | .answered answer => (s, .answered answer)

/-- The requests on a storage. -/
def system : Interleaving.System σ Pc Request Inputs := ⟨Request.start, exec storage⟩

end

/-- What a statement writes. -/
def Pc.write : Pc → Option DeviceWrite
  | .registerDevice device | .registerNewDevice device | .registerChecked _ device =>
    some (.registerDevice device)
  | .updateDevice device => some (.updateDevice device)
  | .deleteDevice accountHash deviceHash => some (.deleteDevice accountHash deviceHash)
  | .getDevice _ | .listDevices _ | .checkDevice .. | .answered _ => none

section

variable {σ : Type} {storage : DeviceStorage σ} {s : σ} {i : Inputs} {pc : Pc}

/-- A statement writes what `Pc.write` says, and nothing if that fails. -/
theorem exec_fst :
    (exec storage s i pc).1 = pc.write.elim s fun w => storage.write s (i.call, w) := by
  cases pc with
  | registerDevice device | registerNewDevice device | registerChecked _ device =>
    dsimp only [exec, Pc.write, Option.elim, DeviceStorage.write, DeviceStorage.perform]
    cases storage.registerDevice s i.call device <;> rfl
  | updateDevice device =>
    dsimp only [exec, Pc.write, Option.elim, DeviceStorage.write, DeviceStorage.perform]
    cases storage.updateDevice s i.call device <;> rfl
  | deleteDevice accountHash deviceHash =>
    dsimp only [exec, Pc.write, Option.elim, DeviceStorage.write, DeviceStorage.perform]
    cases storage.deleteDevice s i.call accountHash deviceHash <;> rfl
  | getDevice req =>
    dsimp only [exec]
    split <;> rfl
  | checkDevice accountHash deviceHash osVersion appVersion =>
    dsimp only [exec]
    split <;> rfl
  | listDevices accountHash =>
    dsimp only [exec]
    split <;> rfl
  | answered answer => rfl

end

/-! ## Whose words a device carries -/

namespace Request

/-- The account for which a request acts. -/
def account : Request → Option String
  | .registerDevice _ verdict _ | .listDevices verdict | .deleteDevice _ verdict =>
    verdict.toOption
  | .updateDeviceInfo req => some req.accountHash
  | .oauthExchange accountHash .. => some accountHash

/-- The request says this of the device of the account. -/
def Tells (a d : String) (entry : DeviceEntry) : Request → Prop
  | .registerDevice req verdict _ =>
    verdict = .ok a ∧ req.deviceHash = d ∧ req.osVersion = entry.osVersion ∧
      req.appVersion = entry.appVersion ∧ req.isActive = entry.isActive
  | .updateDeviceInfo req =>
    req.accountHash = a ∧ req.deviceHash = d ∧ req.osVersion = entry.osVersion ∧
      req.appVersion = entry.appVersion ∧ req.isActive = entry.isActive
  | .oauthExchange accountHash deviceHash osVersion appVersion =>
    accountHash = a ∧ deviceHash = d ∧ osVersion = entry.osVersion ∧
      appVersion = entry.appVersion ∧ true = entry.isActive
  | _ => False

end Request

/-- What is known of the device was known at first, or one of the requests has said it. The user
    is the first one, or the account. -/
def Attributed (dir : Directory) (requests : Request → Prop) (a d : String)
    (entry : DeviceEntry) : Prop :=
  dir a d = some entry ∨ ∃ r, requests r ∧ r.Tells a d entry ∧
    (entry.userId = a ∨ ∃ entry₀, dir a d = some entry₀ ∧ entry.userId = entry₀.userId)

theorem Attributed.userId {dir : Directory} {requests : Request → Prop} {a d : String}
    {entry : DeviceEntry} (h : Attributed dir requests a d entry) :
    entry.userId = a ∨ ∃ entry₀, dir a d = some entry₀ ∧ entry.userId = entry₀.userId := by
  rcases h with h | ⟨_, -, -, h⟩
  · exact .inr ⟨entry, h, rfl⟩
  · exact h

/-- What a request is about to write is attributed. -/
def Pc.Attributed (Admits : String → Prop) (dir : Directory) (requests : Request → Prop) :
    Pc → Prop
  | .registerDevice device | .registerNewDevice device | .registerChecked _ device
  | .updateDevice device => Admits device.accountHash ∧
    DeviceHandler.Attributed dir requests device.accountHash device.deviceHash device.entry
  | .getDevice req => Admits req.accountHash ∧ requests (.updateDeviceInfo req)
  | .checkDevice accountHash deviceHash osVersion appVersion => Admits accountHash ∧
    requests (.oauthExchange accountHash deviceHash osVersion appVersion)
  | .listDevices accountHash | .deleteDevice accountHash _ => Admits accountHash
  | .answered _ => True

section

variable {σ : Type} {storage : DeviceStorage σ} {Admits : String → Prop}
  {Shown : DeviceEntry → Prop} {absent : DeviceEntry → Option DeviceEntry}
  {L : storage.Lawful Admits Shown absent} {dir : Directory} {requests : Request → Prop}
  {s s' : σ} {i : Inputs} {pc : Pc} {r : Request} {a d : String} {entry : DeviceEntry}

theorem attributed_start (hr : requests r) (hadmits : ∀ a ∈ r.account, Admits a) :
    r.start.Attributed Admits dir requests := by
  cases r with
  | registerDevice req verdict now =>
    dsimp only [Request.start]
    split_ifs
    any_goals exact trivial
    cases verdict with
    | error e => exact trivial
    | ok accountHash =>
      exact ⟨hadmits accountHash rfl, .inr ⟨_, hr, ⟨rfl, rfl, rfl, rfl, rfl⟩, .inl rfl⟩⟩
  | updateDeviceInfo req => exact ⟨hadmits _ rfl, hr⟩
  | listDevices verdict =>
    cases verdict with
    | error e => exact trivial
    | ok accountHash => exact hadmits accountHash rfl
  | deleteDevice deviceHash verdict =>
    cases verdict with
    | error e => exact trivial
    | ok accountHash => exact hadmits accountHash rfl
  | oauthExchange accountHash deviceHash osVersion appVersion => exact ⟨hadmits _ rfl, hr⟩

/-- All that is known is attributed. -/
def AllAttributed (L : storage.Lawful Admits Shown absent) (dir : Directory)
    (requests : Request → Prop) (s : σ) : Prop :=
  L.Inv s ∧ ∀ a, Admits a → ∀ d entry, L.directory s a d = some entry →
    Attributed dir requests a d entry

/-- A change of one device to something attributed, or to nothing. -/
theorem AllAttributed.alter {f : Option DeviceEntry → Option DeviceEntry}
    (hs : AllAttributed L dir requests s) (hinv : L.Inv s')
    (hdir : ∀ a', Admits a' → ∀ d', L.directory s' a' d' = (L.directory s).alter a d f a' d')
    (hf : ∀ entry₀ entry, f entry₀ = some entry → Attributed dir requests a d entry) :
    AllAttributed L dir requests s' := by
  refine ⟨hinv, fun a' ha' d' entry h => ?_⟩
  rw [hdir a' ha', Directory.alter] at h
  split at h
  next hk =>
    obtain ⟨rfl, rfl⟩ := hk
    exact hf _ entry h
  next => exact hs.2 a' ha' d' entry h

theorem AllAttributed.registerDevice {device : Device}
    (h : storage.registerDevice s i.call device = .ok s') (hs : AllAttributed L dir requests s)
    (hdevice : (Pc.registerDevice device).Attributed Admits dir requests) :
    AllAttributed L dir requests s' := by
  obtain ⟨hinv, hdir⟩ := L.registerDevice h hs.1 hdevice.1
  refine hs.alter hinv hdir fun _ entry hentry => ?_
  obtain rfl := Option.some.inj hentry
  exact hdevice.2

theorem AllAttributed.updateDevice {device : Device}
    (h : storage.updateDevice s i.call device = .ok s') (hs : AllAttributed L dir requests s)
    (hdevice : (Pc.updateDevice device).Attributed Admits dir requests) :
    AllAttributed L dir requests s' := by
  obtain ⟨hinv, hdir⟩ := L.updateDevice h hs.1 hdevice.1
  refine hs.alter hinv hdir fun entry₀ entry hentry => ?_
  cases entry₀ with
  | some _ =>
    obtain rfl := Option.some.inj hentry
    exact hdevice.2
  | none =>
    rcases L.absent_eq device.entry with hnone | hsome
    · cases hnone.symm.trans hentry
    · obtain rfl := Option.some.inj (hsome.symm.trans hentry)
      exact hdevice.2

theorem AllAttributed.deleteDevice (h : storage.deleteDevice s i.call a d = .ok s')
    (hs : AllAttributed L dir requests s) (ha : Admits a) : AllAttributed L dir requests s' := by
  obtain ⟨hinv, hdir⟩ := L.deleteDevice h hs.1 ha
  exact hs.alter hinv hdir fun _ _ hentry => by cases hentry

/-- A device that is found, and then carries the words of a request. -/
theorem AllAttributed.getDevice (dev' : Device) {device : Option Device}
    (h : storage.getDevice s i.call a d = .ok device) (hs : AllAttributed L dir requests s)
    (ha : Admits a) (hr : requests r) (htells : r.Tells a d dev'.entry)
    (hdev : dev'.accountHash = (device.map Device.accountHash).getD a ∧
      dev'.deviceHash = (device.map Device.deviceHash).getD d ∧
      dev'.userId = (device.map Device.userId).getD a) :
    (Pc.registerDevice dev').Attributed Admits dir requests := by
  obtain ⟨hentry, hsame⟩ := L.getDevice h hs.1 ha
  obtain ⟨haccount, hdevice, huser⟩ := hdev
  cases device with
  | none =>
    obtain rfl : dev'.accountHash = a := haccount
    obtain rfl : dev'.deviceHash = d := hdevice
    exact ⟨ha, .inr ⟨r, hr, htells, .inl huser⟩⟩
  | some dev =>
    obtain ⟨rfl, rfl⟩ := hsame dev rfl
    have huser₀ := (hs.2 dev.accountHash ha dev.deviceHash dev.entry hentry.symm).userId
    rw [Pc.Attributed, show dev'.accountHash = dev.accountHash from haccount,
      show dev'.deviceHash = dev.deviceHash from hdevice]
    have huser' : dev'.entry.userId = dev.entry.userId := huser
    exact ⟨ha, .inr ⟨r, hr, htells, huser'.symm ▸ huser₀⟩⟩

/-- Every statement keeps to what the requests have said. -/
theorem attributed_exec
    (hpc : pc.Attributed Admits dir requests) (hs : AllAttributed L dir requests s) :
    AllAttributed L dir requests (exec storage s i pc).1 ∧
      (exec storage s i pc).2.Attributed Admits dir requests := by
  cases pc with
  | registerDevice device | registerNewDevice device | registerChecked _ device =>
    dsimp only [exec]
    cases h : storage.registerDevice s i.call device with
    | ok s' => exact ⟨hs.registerDevice h hpc, trivial⟩
    | error e => exact ⟨hs, trivial⟩
  | updateDevice device =>
    dsimp only [exec]
    cases h : storage.updateDevice s i.call device with
    | ok s' => exact ⟨hs.updateDevice h hpc, trivial⟩
    | error e => exact ⟨hs, trivial⟩
  | deleteDevice accountHash deviceHash =>
    dsimp only [exec]
    cases h : storage.deleteDevice s i.call accountHash deviceHash with
    | ok s' => exact ⟨hs.deleteDevice h hpc, trivial⟩
    | error e => exact ⟨hs, trivial⟩
  | listDevices accountHash =>
    dsimp only [exec]
    split <;> exact ⟨hs, trivial⟩
  | getDevice req =>
    dsimp only [exec]
    obtain ⟨ha, hr⟩ := hpc
    cases h : storage.getDevice s i.call req.accountHash req.deviceHash with
    | error e => exact ⟨hs, trivial⟩
    | ok device =>
      cases device with
      | some dev =>
        exact ⟨hs, hs.getDevice (updated req i.now dev) h ha hr
          ⟨rfl, rfl, rfl, rfl, rfl⟩ ⟨rfl, rfl, rfl⟩⟩
      | none =>
        exact ⟨hs, hs.getDevice (.new req.accountHash req.deviceHash req.isActive
          req.osVersion req.appVersion i.now) h ha hr ⟨rfl, rfl, rfl, rfl, rfl⟩ ⟨rfl, rfl, rfl⟩⟩
  | checkDevice accountHash deviceHash osVersion appVersion =>
    dsimp only [exec]
    obtain ⟨ha, hr⟩ := hpc
    cases h : storage.getDevice s i.call accountHash deviceHash with
    | error e => exact ⟨hs, trivial⟩
    | ok device =>
      cases device with
      | some dev =>
        exact ⟨hs, hs.getDevice
          (dev.updateInfo (some true) (some osVersion) (some appVersion) i.now) h ha hr
          ⟨rfl, rfl, rfl, rfl, rfl⟩ ⟨rfl, rfl, rfl⟩⟩
      | none =>
        exact ⟨hs, hs.getDevice (.new accountHash deviceHash true osVersion appVersion
          i.now) h ha hr ⟨rfl, rfl, rfl, rfl, rfl⟩ ⟨rfl, rfl, rfl⟩⟩
  | answered answer => exact ⟨hs, trivial⟩

end

/-- In every interleaving, what is known of a device of an account is what was known at first,
    or what one request has said of the device: a request with a token of the account, a login,
    or one without a token that names the account. It is never a mixture of two. -/
theorem attributed_run {σ : Type} {storage : DeviceStorage σ} {Admits : String → Prop}
    {Shown : DeviceEntry → Prop} {absent : DeviceEntry → Option DeviceEntry}
    (L : storage.Lawful Admits Shown absent) {s : σ}
    (hs : L.Inv s) {ops : List (Interleaving.Op Request Inputs)}
    (hops : ∀ r, .start r ∈ ops → ∀ a ∈ r.account, Admits a) {a d : String} (ha : Admits a)
    {entry : DeviceEntry}
    (h : L.directory (run (system storage).step ⟨s, []⟩ ops).shared a d = some entry) :
    Attributed (L.directory s) (.start · ∈ ops) a d entry := by
  have hsound : Interleaving.System.Sound (AllAttributed L (L.directory s) (.start · ∈ ops))
      (Pc.Attributed Admits (L.directory s) (.start · ∈ ops))
      (run (system storage).step ⟨s, []⟩ ops) :=
    Interleaving.System.sound_run (G := fun _ => True)
      (fun r hr => attributed_start hr (hops r hr)) (fun _ _ _ => trivial)
      (fun s i pc _ hpc hs => attributed_exec hpc hs)
      ⟨⟨hs, fun a _ d entry h => .inl h⟩, fun pc hpc => absurd hpc List.not_mem_nil⟩
  exact hsound.1.2 a ha d entry h

/-- A table with one device. -/
def sampleTable : DeviceTable where
  accounts := ["alice", "bob"]
  devices := [⟨"1", "alice", "laptop", "alice", "desktop", "Linux", "14", "1.0", 5, 5, 5, true⟩]
  keyed := by decide
  known := by decide

def sampleInputs : Inputs := ⟨⟨⟨9, 0⟩, "2", none⟩, ⟨9, 0⟩⟩

/-- Another account tries to register the device, and someone without a token switches it
    off. -/
def sampleOps : List (Interleaving.Op Request Inputs) :=
  [.start (.registerDevice ⟨"bob", "laptop", true, "15", "1.1", "token"⟩ (.ok "bob") ⟨9, 0⟩),
    .start (.updateDeviceInfo ⟨"alice", "laptop", false, "16", "1.2"⟩),
    .next 1 sampleInputs, .next 0 sampleInputs, .next 1 sampleInputs]

theorem attributed_sampleOps :
    Attributed sampleTable.directory (.start · ∈ sampleOps) "alice" "laptop"
      ⟨"alice", "16", "1.2", false⟩ :=
  attributed_run (mySqlDevicesLawful .insertion) (s := sampleTable) trivial
    (fun _ _ _ _ => trivial) (a := "alice") trivial (by decide +kernel)

/-! ## Whose a device is -/

/-- What the statements of a run write. -/
def writes {σ : Type} (storage : DeviceStorage σ) (s : Interleaving.State σ Pc)
    (ops : List (Interleaving.Op Request Inputs)) : List (DeviceInputs × DeviceWrite) :=
  ((system storage).trace s ops).filterMap fun e => e.2.write.map (e.1.call, ·)

/-- The storage is that of the writes alone. -/
theorem shared_eq_run_write {σ : Type} {storage : DeviceStorage σ} {s : Interleaving.State σ Pc}
    {ops : List (Interleaving.Op Request Inputs)} :
    (run (system storage).step s ops).shared =
      run storage.write s.shared (writes storage s ops) := by
  rw [Interleaving.System.shared_run, run, run, writes, List.foldl_filterMap]
  congr 1
  funext s e
  refine exec_fst.trans ?_
  cases e.2.write <;> rfl

section

variable {p : Planner} {s : Interleaving.State DeviceTable Pc} {r : DeviceRecord}
  {ops : List (Interleaving.Op Request Inputs)}

/-- Only the account deletes. -/
theorem ne_deleteDevice_start {req : Request} {a d : String}
    (h : req ≠ .deleteDevice d (.ok a)) : req.start ≠ .deleteDevice a d := by
  intro hstart
  cases req with
  | registerDevice req verdict now =>
    dsimp only [Request.start] at hstart
    split_ifs at hstart
    split at hstart <;> cases hstart
  | updateDeviceInfo | oauthExchange => cases hstart
  | listDevices verdict => cases verdict <;> cases hstart
  | deleteDevice deviceHash verdict =>
    cases verdict with
    | error e => cases hstart
    | ok accountHash =>
      cases hstart
      exact h rfl

/-- No statement turns into a deletion. -/
theorem ne_deleteDevice_exec {σ : Type} {storage : DeviceStorage σ} {s : σ} {i : Inputs} {pc : Pc}
    {a d : String} (h : pc ≠ .deleteDevice a d) : (exec storage s i pc).2 ≠ .deleteDevice a d := by
  cases pc with
  | answered answer => exact h
  | _ =>
    dsimp only [exec]
    split <;> exact fun h => by cases h

theorem eq_deleteDevice_of_write {pc : Pc} {a d : String}
    (h : pc.write = some (.deleteDevice a d)) : pc = .deleteDevice a d := by
  cases pc <;> cases h
  rfl

/-- In the database a device stays with its account, in every interleaving of requests none of
    which deletes it: the row keeps its id and the time of its registration, and carries what
    was written last; and what other accounts register under its hash fails. -/
theorem owned_run (hr : r ∈ s.shared.devices)
    (hs : ∀ pc ∈ s.requests, pc ≠ .deleteDevice r.accountHash r.deviceHash)
    (hops : ∀ req, .start req ∈ ops → req ≠ .deleteDevice r.deviceHash (.ok r.accountHash)) :
    run DeviceRecord.after r (writes (mySqlDevices p) s ops) ∈
        (run (system (mySqlDevices p)).step s ops).shared.devices ∧
      r.Same (run DeviceRecord.after r (writes (mySqlDevices p) s ops)) ∧
      Guarded (mySqlDevices p).write (fun t w => w.2.Trespasses r →
        ∃ e, (mySqlDevices p).perform t w.1 w.2 = .error e) s.shared
        (writes (mySqlDevices p) s ops) := by
  rw [shared_eq_run_write]
  refine DeviceTable.owner_run hr fun w hw hdelete => ?_
  obtain ⟨e, he, hwrite⟩ := List.mem_filterMap.1 hw
  obtain ⟨w', hw', rfl⟩ := Option.map_eq_some_iff.1 hwrite
  obtain rfl : w' = .deleteDevice r.accountHash r.deviceHash := hdelete
  exact Interleaving.System.forall_trace (P := (· ≠ .deleteDevice r.accountHash r.deviceHash))
    (fun req hreq => ne_deleteDevice_start (hops req hreq))
    (fun _ _ _ h => ne_deleteDevice_exec h) hs e he (eq_deleteDevice_of_write hw')

theorem owned_sampleOps :
    (run (system (mySqlDevices .insertion)).step ⟨sampleTable, []⟩ sampleOps).shared.devices =
      [⟨"1", "alice", "laptop", "alice", "desktop", "Linux", "16", "1.2", 5, 5, 9, false⟩] ∧
    ∃ r ∈ sampleTable.devices,
      run DeviceRecord.after r (writes (mySqlDevices .insertion) ⟨sampleTable, []⟩ sampleOps) ∈
        (run (system (mySqlDevices .insertion)).step ⟨sampleTable, []⟩ sampleOps).shared.devices :=
  ⟨by decide +kernel, _, List.mem_singleton_self _, (owned_run (List.mem_singleton_self _)
    (fun _ h => absurd h List.not_mem_nil) (by simp [sampleOps])).1⟩

end

/-! ## What needs no token -/

/-- The device that a request names. -/
def Request.deviceHash : Request → Option String
  | .registerDevice req .. => some req.deviceHash
  | .updateDeviceInfo req => some req.deviceHash
  | .listDevices _ => none
  | .deleteDevice deviceHash _ => some deviceHash
  | .oauthExchange _ deviceHash .. => some deviceHash

/-- The device that the next call names. -/
def Pc.deviceHash : Pc → Option String
  | .registerDevice device | .registerNewDevice device | .registerChecked _ device
  | .updateDevice device => some device.deviceHash
  | .getDevice req => some req.deviceHash
  | .deleteDevice _ deviceHash => some deviceHash
  | .checkDevice _ deviceHash .. => some deviceHash
  | .listDevices _ | .answered _ => none

section

variable {p : Planner} {t : DeviceTable} {i : Inputs} {pc pc' : Pc} {r : Request} {d : String}
  {req : UpdateDeviceInfoRequest}

theorem deviceHash_start (h : r.deviceHash ≠ some d) : r.start.deviceHash ≠ some d := by
  cases r with
  | registerDevice req verdict now =>
    dsimp only [Request.start]
    split_ifs
    any_goals exact (Option.some_ne_none d).symm
    cases verdict with
    | error e => exact (Option.some_ne_none d).symm
    | ok accountHash => exact h
  | updateDeviceInfo | oauthExchange => exact h
  | listDevices verdict => cases verdict <;> exact (Option.some_ne_none d).symm
  | deleteDevice deviceHash verdict =>
    cases verdict with
    | error e => exact (Option.some_ne_none d).symm
    | ok accountHash => exact h

/-- A request goes on to name the device that it names. -/
theorem deviceHash_exec (h : pc.deviceHash ≠ some d) :
    (exec (mySqlDevices p) t i pc).2.deviceHash ≠ some d := by
  have hget : ∀ {a d' dev}, (mySqlDevices p).getDevice t i.call a d' = .ok (some dev) →
      dev.deviceHash = d' :=
    fun hdev => (((mySqlDevicesLawful p).getDevice hdev trivial trivial).2 _ rfl).2
  cases pc with
  | registerDevice device | registerNewDevice device | registerChecked _ device =>
    dsimp only [exec]
    split <;> exact (Option.some_ne_none d).symm
  | updateDevice device =>
    dsimp only [exec]
    split <;> exact (Option.some_ne_none d).symm
  | deleteDevice accountHash deviceHash =>
    dsimp only [exec]
    split <;> exact (Option.some_ne_none d).symm
  | listDevices accountHash =>
    dsimp only [exec]
    split <;> exact (Option.some_ne_none d).symm
  | getDevice req =>
    dsimp only [exec]
    split
    next device hdev => exact fun heq => h (heq ▸ congrArg some (hget hdev).symm)
    next => exact h
    next => exact (Option.some_ne_none d).symm
  | checkDevice accountHash deviceHash osVersion appVersion =>
    dsimp only [exec]
    split
    next device hdev => exact fun heq => h (heq ▸ congrArg some (hget hdev).symm)
    next => exact h
    next => exact (Option.some_ne_none d).symm
  | answered answer => exact h

theorem deviceHash_of_write {w : DeviceWrite} (h : pc.write = some w) :
    pc.deviceHash = some w.deviceHash := by
  cases pc <;> cases h <;> rfl

/-- The entry carries what the request says. -/
def Says (req : UpdateDeviceInfoRequest) (entry : DeviceEntry) : Prop :=
  (Request.updateDeviceInfo req).Tells req.accountHash req.deviceHash entry

/-- How far `update_device_info` has come. -/
def Stage (req : UpdateDeviceInfoRequest) (t : DeviceTable) : Pc → Prop
  | .getDevice req' => req' = req
  | .updateDevice device => device.accountHash = req.accountHash ∧
    device.deviceHash = req.deviceHash ∧ Says req device.entry ∧
    t.directory req.accountHash req.deviceHash ≠ none
  | .registerNewDevice device => device.accountHash = req.accountHash ∧
    device.deviceHash = req.deviceHash ∧ Says req device.entry
  | .answered answer => (∃ msg, answer = .updateDeviceInfo ⟨true, msg⟩) ∧
    ∃ entry, t.directory req.accountHash req.deviceHash = some entry ∧ Says req entry
  | _ => False

/-- The account is known, and the device is not another's. -/
def Free (req : UpdateDeviceInfoRequest) (t : DeviceTable) : Prop :=
  req.accountHash ∈ t.accounts ∧
    ∀ r ∈ t.devices, r.deviceHash = req.deviceHash → r.accountHash = req.accountHash

theorem Free.write {o : DeviceInputs × DeviceWrite} (h : Free req t)
    (ho : ∀ device, o.2 = .registerDevice device → device.deviceHash = req.deviceHash →
      device.accountHash = req.accountHash) : Free req ((mySqlDevices p).write t o) := by
  obtain ⟨haccounts, hrows⟩ := DeviceTable.write_rows (t := t) (p := p) (o := o)
  refine ⟨haccounts ▸ h.1, fun r hr hdevice => ?_⟩
  rcases hrows r hr with ⟨r₀, hr₀, haccount, hdevice₀⟩ | ⟨device, hdev, haccount, hdevice₀⟩
  · exact haccount.trans (h.2 r₀ hr₀ (hdevice₀.symm.trans hdevice))
  · exact haccount.trans (ho device hdev (hdevice₀.symm.trans hdevice))

/-- A statement of another request, which names another device. -/
theorem stage_exec_of_ne (h : pc.deviceHash ≠ some req.deviceHash)
    (hstage : Free req t ∧ Stage req t pc') :
    Free req (exec (mySqlDevices p) t i pc).1 ∧
      Stage req (exec (mySqlDevices p) t i pc).1 pc' := by
  rw [exec_fst]
  cases hwrite : pc.write with
  | none => exact hstage
  | some w =>
    have hne : w.deviceHash ≠ req.deviceHash :=
      fun heq => h ((deviceHash_of_write hwrite).trans (congrArg some heq))
    have hdir : ((mySqlDevices p).write t (i.call, w)).directory req.accountHash req.deviceHash =
        t.directory req.accountHash req.deviceHash := DeviceTable.directory_write_of_ne hne
    constructor
    · refine hstage.1.write ?_
      rintro device rfl hdevice
      exact absurd hdevice hne
    · cases pc' with
      | updateDevice | answered =>
        dsimp only [Option.elim, Stage]
        rw [hdir]
        exact hstage.2
      | _ => exact hstage.2

/-- A statement of the request itself. -/
theorem stage_exec (hi : i.call.fault = none) (hstage : Free req t ∧ Stage req t pc) :
    Free req (exec (mySqlDevices p) t i pc).1 ∧
      Stage req (exec (mySqlDevices p) t i pc).1 (exec (mySqlDevices p) t i pc).2 := by
  obtain ⟨hfree, hstage⟩ := hstage
  cases pc with
  | getDevice req' =>
    obtain rfl : req' = req := hstage
    obtain ⟨device, hdevice, hentry, hsame⟩ := DeviceTable.getDevice_entry (t := t) (p := p)
      (a := req'.accountHash) (d := req'.deviceHash) hi
    dsimp only [exec, mySqlDevices]
    rw [hdevice]
    cases device with
    | some dev =>
      obtain ⟨haccount, hdev⟩ := hsame dev rfl
      exact ⟨hfree, haccount, hdev, ⟨rfl, rfl, rfl, rfl, rfl⟩,
        hentry ▸ Option.some_ne_none _⟩
    | none => exact ⟨hfree, rfl, rfl, ⟨rfl, rfl, rfl, rfl, rfl⟩⟩
  | updateDevice device =>
    obtain ⟨haccount, hdevice, hsays, hpresent⟩ := hstage
    have hok : ∃ t', t.updateDevice i.call device = .ok t' := by
      rw [DeviceTable.updateDevice, hi]
      exact ⟨_, rfl⟩
    obtain ⟨t', ht'⟩ := hok
    have hfree' : Free req t' := by
      have hwrite : (mySqlDevices p).write t (i.call, .updateDevice device) = t' := by
        dsimp only [DeviceStorage.write, DeviceStorage.perform, mySqlDevices]
        rw [ht']
      exact hwrite ▸ hfree.write fun _ h => by cases h
    dsimp only [exec, mySqlDevices]
    rw [ht']
    obtain ⟨entry, hentry⟩ := Option.ne_none_iff_exists'.1 hpresent
    refine ⟨hfree', ⟨_, rfl⟩, device.entry, ?_, hsays⟩
    rw [DeviceTable.directory_updateDevice ht', Directory.alter, haccount, hdevice,
      if_pos ⟨rfl, rfl⟩, hentry]
    rfl
  | registerNewDevice device =>
    obtain ⟨haccount, hdevice, hsays⟩ := hstage
    obtain ⟨t', ht'⟩ := DeviceTable.registerDevice_ok_iff.2 ⟨hi, haccount ▸ hfree.1,
      fun r hr h => (hfree.2 r hr (h.trans hdevice)).trans haccount.symm⟩
    have hfree' : Free req t' := by
      have hwrite : (mySqlDevices p).write t (i.call, .registerDevice device) = t' := by
        dsimp only [DeviceStorage.write, DeviceStorage.perform, mySqlDevices]
        rw [ht']
      refine hwrite ▸ hfree.write fun dev h _ => ?_
      cases h
      exact haccount
    dsimp only [exec, mySqlDevices]
    rw [ht']
    refine ⟨hfree', ⟨_, rfl⟩, device.entry, ?_, hsays⟩
    rw [DeviceTable.directory_registerDevice ht', Directory.alter, haccount, hdevice,
      if_pos ⟨rfl, rfl⟩]
  | answered answer => exact ⟨hfree, hstage⟩
  | registerDevice | listDevices | deleteDevice | checkDevice | registerChecked => exact hstage.elim

/-- The check of the handlers of watchers, on the rows of the database. -/
theorem validateDeviceIfRequired_of_directory {rules : FolderRules} {subscribers : List Subscriber}
    {call : CallInputs} {a : String} {entry : DeviceEntry} (hcall : call.fault = none)
    (h : t.directory a d = some entry) :
    validateDeviceIfRequired (mySqlStorage p)
        ⟨false, rules, t.devices.map DeviceRecord.row, subscribers⟩ call a d =
      if entry.isActive = true then .ok ()
      else .error (.unauthenticated "Invalid device or account") := by
  have hvalid : (mySqlStorage p).validateDevice (t.devices.map DeviceRecord.row) a d = true ↔
      entry.isActive = true := by
    have hany : (mySqlStorage p).validateDevice (t.devices.map DeviceRecord.row) a d =
        t.devices.any fun r =>
          r.accountHash = a ∧ r.deviceHash = d ∧ r.isActive = true := List.any_map
    rw [hany, DeviceTable.validateDevice_iff (i := ⟨⟨0, 0⟩, "", none⟩) rfl, h]
    simp
  rw [validateDeviceIfRequired, if_neg Bool.false_ne_true, CallInputs.query, hcall]
  dsimp only
  cases hv : (mySqlStorage p).validateDevice (t.devices.map DeviceRecord.row) a d with
  | true =>
    rw [hv] at hvalid
    rw [if_pos (hvalid.1 rfl)]
  | false =>
    rw [hv] at hvalid
    rw [if_neg fun hactive => Bool.false_ne_true (hvalid.2 hactive)]

/-- A request without a token decides what is known of a device, and, outside dev and test mode,
    whether it passes the check of the handlers of watchers: once `update_device_info` is answered,
    the device carries what it has said, for any account that there is and any device that is not
    another account's, if no other request names the device. -/
theorem update_alone {s : Interleaving.State DeviceTable Pc}
    {ops : List (Interleaving.Op Request Inputs)} (hfree : Free req s.shared)
    (hs : ∀ pc ∈ s.requests, pc.deviceHash ≠ some req.deviceHash)
    (hops : ∀ r, .start r ∈ ops → r.deviceHash ≠ some req.deviceHash)
    (hfaults : ∀ i input, .next i input ∈ ops → input.call.fault = none) {answer : Answer}
    (h : (run (system (mySqlDevices p)).step s
      (.start (.updateDeviceInfo req) :: ops)).requests[s.requests.length]? =
        some (.answered answer)) :
    (∃ msg, answer = .updateDeviceInfo ⟨true, msg⟩) ∧
      ∃ entry, (run (system (mySqlDevices p)).step s
          (.start (.updateDeviceInfo req) :: ops)).shared.directory req.accountHash
          req.deviceHash = some entry ∧ Says req entry ∧
        ∀ rules subscribers, ∀ call : CallInputs, call.fault = none →
          validateDeviceIfRequired (mySqlStorage p) ⟨false, rules,
              (run (system (mySqlDevices p)).step s
                (.start (.updateDeviceInfo req) :: ops)).shared.devices.map DeviceRecord.row,
              subscribers⟩ call req.accountHash req.deviceHash =
            if req.isActive = true then .ok ()
            else .error (.unauthenticated "Invalid device or account") := by
  have hstart := Interleaving.System.alone_start (S := system (mySqlDevices p))
    (Q := fun t pc => Free req t ∧ Stage req t pc) (r := Request.updateDeviceInfo req)
    ⟨hfree, rfl⟩ hs
  obtain ⟨⟨pc, hpc, -, hstage⟩, -⟩ := Interleaving.System.alone_run (S := system (mySqlDevices p))
    (Q := fun t pc => Free req t ∧ Stage req t pc)
    (P := fun pc => pc.deviceHash ≠ some req.deviceHash)
    (fun r hr => deviceHash_start (hops r hr)) hfaults (fun t i pc hi h => stage_exec hi h)
    (fun t i pc pc' _ hne h => ⟨stage_exec_of_ne hne h, deviceHash_exec hne⟩) hstart
  rw [← run_cons] at hpc hstage
  obtain rfl : pc = .answered answer := Option.some.inj (hpc.symm.trans h)
  obtain ⟨hanswer, entry, hentry, hsays⟩ := hstage
  refine ⟨hanswer, entry, hentry, hsays, fun rules subscribers call hcall => ?_⟩
  rw [validateDeviceIfRequired_of_directory hcall hentry, ← hsays.2.2.2.2]

/-- A device that nobody has registered. -/
def samplePhone : UpdateDeviceInfoRequest := ⟨"bob", "phone", true, "15", "1.1"⟩

theorem update_alone_samplePhone :
    ∃ entry, (run (system (mySqlDevices .insertion)).step ⟨sampleTable, []⟩
        [.start (.updateDeviceInfo samplePhone), .next 0 sampleInputs,
          .next 0 sampleInputs]).shared.directory "bob" "phone" = some entry ∧
      Says samplePhone entry :=
  have hfree : Free samplePhone sampleTable := ⟨by decide, by decide⟩
  have h := (update_alone (p := .insertion) (s := ⟨sampleTable, []⟩) hfree
    (fun _ h => absurd h List.not_mem_nil) (by simp)
    (fun i input h => by simp at h; simp [h, sampleInputs]) rfl).2
  ⟨h.choose, h.choose_spec.1, h.choose_spec.2.1⟩

end

end DeviceHandler

end CosmicSync
