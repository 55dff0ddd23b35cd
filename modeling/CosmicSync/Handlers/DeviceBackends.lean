import CosmicSync.Handlers.DeviceHandler

/-!
# The same requests on both storages

The memory and the database are given the same requests about devices, statement by statement.
They know the same devices, and tell the same, as long as no statement sets them apart; and
`Agrees` says which statements do not. The database refuses a device that belongs to another
account, or whose account it does not know, and it fails where the memory cannot; and an update
of a device that has been deleted in the meantime adds it to the memory alone.

A list of devices is alike if the database tells of the active devices of the memory.

* `alike_iff`: the storages stay alike exactly if all statements agree.
-/

namespace CosmicSync

open Table Run

namespace DeviceHandler

open MemoryDevices (Colonless)

/-- Both storages know the same devices of accounts without a colon. -/
def SameDirectory (m : MemoryDevices) (t : DeviceTable) : Prop :=
  m.Inv ∧ ∀ a, Colonless a → ∀ d, m.directory a d = t.directory a d

/-- Devices that differ in their times only. -/
def SameDevice (x y : Device) : Prop :=
  Colonless x.accountHash ∧ x.accountHash = y.accountHash ∧ x.deviceHash = y.deviceHash ∧
    x.entry = y.entry

/-- What both are told is the same; of the devices of a list, the times may differ, and the
    memory lists the inactive ones, too. -/
def SameAnswer : Answer → Answer → Prop
  | .listDevices (.ok x), .listDevices (.ok y) =>
    x.success = y.success ∧ x.returnMessage = y.returnMessage ∧ ∀ d os app,
      (∃ info ∈ x.devices, info.isActive = true ∧ info.deviceHash = d ∧ info.osVersion = os ∧
        info.appVersion = app) ↔
      ∃ info ∈ y.devices, info.deviceHash = d ∧ info.osVersion = os ∧ info.appVersion = app
  | x, y => x = y

/-- The requests are at the same point. -/
def SamePc : Pc → Pc → Prop
  | .registerDevice x, .registerDevice y | .registerNewDevice x, .registerNewDevice y
  | .updateDevice x, .updateDevice y => SameDevice x y
  | .registerChecked b x, .registerChecked c y => b = c ∧ SameDevice x y
  | .getDevice x, .getDevice y => x = y ∧ Colonless x.accountHash
  | .listDevices a, .listDevices b => a = b ∧ Colonless a
  | .deleteDevice a d, .deleteDevice b e => a = b ∧ d = e ∧ Colonless a
  | .checkDevice a d os app, .checkDevice b e os' app' =>
    a = b ∧ d = e ∧ os = os' ∧ app = app' ∧ Colonless a
  | .answered x, .answered y => SameAnswer x y
  | _, _ => False

/-- The statement does in the database what it does in memory. -/
def Agrees (t : DeviceTable) (i : Inputs) : Pc → Prop
  | .registerDevice device | .registerNewDevice device | .registerChecked _ device =>
    i.call.fault = none ∧ device.accountHash ∈ t.accounts ∧
      ∀ r ∈ t.devices, r.deviceHash = device.deviceHash → r.accountHash = device.accountHash
  | .updateDevice device =>
    i.call.fault = none ∧ t.directory device.accountHash device.deviceHash ≠ none
  | .getDevice _ | .listDevices _ | .deleteDevice .. | .checkDevice .. => i.call.fault = none
  | .answered _ => True

section

variable {p p' : Planner} {m : MemoryDevices} {t t' : DeviceTable} {i : Inputs} {x y : Device}
  {a d : String} {pc pc' : Pc} {r : Request}

theorem samePc_start (hr : ∀ a ∈ r.account, Colonless a) : SamePc r.start r.start := by
  cases r with
  | registerDevice req verdict now =>
    dsimp only [Request.start]
    split_ifs
    any_goals exact Eq.refl _
    cases verdict with
    | error e => exact Eq.refl _
    | ok accountHash => exact ⟨hr accountHash rfl, rfl, rfl, rfl⟩
  | updateDeviceInfo req => exact ⟨rfl, hr _ rfl⟩
  | listDevices verdict =>
    cases verdict with
    | error e => exact Eq.refl _
    | ok accountHash => exact ⟨rfl, hr accountHash rfl⟩
  | deleteDevice deviceHash verdict =>
    cases verdict with
    | error e => exact Eq.refl _
    | ok accountHash => exact ⟨rfl, rfl, hr accountHash rfl⟩
  | oauthExchange accountHash deviceHash osVersion appVersion =>
    exact ⟨rfl, rfl, rfl, rfl, hr _ rfl⟩

/-! ## The calls -/

/-- A registration that the database accepts. -/
theorem SameDirectory.registerDevice (h : SameDirectory m t) (hxy : SameDevice x y)
    (ht' : t.registerDevice i.call y = .ok t') : SameDirectory (m.insertDevice x) t' := by
  obtain ⟨hcolon, haccount, hdevice, hentry⟩ := hxy
  refine ⟨MemoryDevices.inv_insertDevice h.1 hcolon, fun a ha d => ?_⟩
  rw [MemoryDevices.directory_insertDevice hcolon ha, DeviceTable.directory_registerDevice ht',
    haccount, hdevice, hentry, Directory.alter, Directory.alter, h.2 a ha]

/-- An update does the same in both if the device is there, and only then. -/
theorem sameDirectory_updateDevice_iff (h : SameDirectory m t) (hxy : SameDevice x y)
    (ht' : t.updateDevice i.call y = .ok t') :
    SameDirectory (m.insertDevice x) t' ↔ t.directory y.accountHash y.deviceHash ≠ none := by
  obtain ⟨hcolon, haccount, hdevice, hentry⟩ := hxy
  have hmem : ∀ a, Colonless a → ∀ d, (m.insertDevice x).directory a d =
      t.directory.alter y.accountHash y.deviceHash (fun _ => some y.entry) a d := by
    intro a ha d
    rw [MemoryDevices.directory_insertDevice hcolon ha, haccount, hdevice, hentry,
      Directory.alter, Directory.alter, h.2 a ha]
  constructor
  · rintro ⟨-, hsame⟩ hnone
    have heq := hsame y.accountHash (haccount ▸ hcolon) y.deviceHash
    rw [hmem _ (haccount ▸ hcolon), DeviceTable.directory_updateDevice ht', Directory.alter,
      Directory.alter, if_pos ⟨rfl, rfl⟩, if_pos ⟨rfl, rfl⟩, hnone] at heq
    cases heq
  · intro hsome
    obtain ⟨entry, hentry'⟩ := Option.ne_none_iff_exists'.1 hsome
    refine ⟨MemoryDevices.inv_insertDevice h.1 hcolon, fun a ha d => ?_⟩
    rw [hmem a ha, DeviceTable.directory_updateDevice ht', Directory.alter, Directory.alter]
    split
    next hk => rw [hk.1, hk.2, hentry', Option.elim_some]
    next => rfl

theorem SameDirectory.deleteDevice (h : SameDirectory m t) (ha : Colonless a) :
    SameDirectory (m.deleteDevice a d) (t.remove a d) := by
  refine ⟨fun e he => h.1 e (HashMap.mem_remove.1 he).1, fun a' ha' d' => ?_⟩
  rw [MemoryDevices.directory_deleteDevice ha ha', DeviceTable.directory_remove,
    Directory.alter, Directory.alter, h.2 a' ha']

/-- Both find the same device, or none. -/
theorem SameDirectory.getDevice (h : SameDirectory m t) (ha : Colonless a)
    (hi : i.call.fault = none) :
    ∃ dev, t.getDevice p i.call a d = .ok dev ∧
      Option.Rel SameDevice (m.getDevice a d) dev := by
  obtain ⟨dev, hdev, hentry, hsame⟩ := DeviceTable.getDevice_entry (t := t) (p := p) (a := a)
    (d := d) hi
  refine ⟨dev, hdev, ?_⟩
  have hdir : (m.getDevice a d).map Device.entry = dev.map Device.entry :=
    (h.2 a ha d).trans hentry.symm
  cases hx : m.getDevice a d with
  | none =>
    rw [hx] at hdir
    rw [Option.map_eq_none_iff.1 hdir.symm]
    exact .none
  | some x =>
    rw [hx] at hdir
    obtain ⟨y, rfl, hy⟩ := Option.map_eq_some_iff.1 hdir.symm
    obtain ⟨-, haccount, hdevice⟩ := (MemoryDevices.getDevice_eq_some h.1 ha).1 hx
    obtain ⟨haccount', hdevice'⟩ := hsame y rfl
    exact .some ⟨haccount.symm ▸ ha, haccount.trans haccount'.symm, hdevice.trans hdevice'.symm,
      hy.symm⟩

/-- The database tells of the active devices of the memory. -/
theorem SameDirectory.listDevices (h : SameDirectory m t) (ha : Colonless a) {devices : List Device}
    (hdevices : t.listDevices p i.call a = .ok devices) :
    SameAnswer (.listDevices (.ok ⟨true, (m.listDevices p' a).map Device.toProtoDeviceInfo, ""⟩))
      (.listDevices (.ok ⟨true, devices.map Device.toProtoDeviceInfo, ""⟩)) := by
  have hmem : ∀ dev ∈ m.listDevices p' a, dev.accountHash = a := by
    intro dev hdev
    obtain ⟨e, he, rfl⟩ := List.mem_map.1 hdev
    exact (mem_fetchAll.1 he).2
  have hmem' : ∀ dev ∈ devices, dev.accountHash = a ∧ dev.isActive = true := by
    intro dev hdev
    dsimp only [DeviceTable.listDevices] at hdevices
    split at hdevices
    next => cases hdevices
    next =>
      cases hdevices
      obtain ⟨r, hr, rfl⟩ := List.mem_map.1 hdev
      exact (mem_fetchAllBy.1 hr).2
  refine ⟨rfl, rfl, fun d os app => ⟨?_, ?_⟩⟩
  · rintro ⟨info, hinfo, hactive, rfl, rfl, rfl⟩
    obtain ⟨dev, hdev, rfl⟩ := List.mem_map.1 hinfo
    have hdir := (MemoryDevices.mem_listDevices h.1 ha).1 ⟨dev, hdev, hmem dev hdev, rfl, rfl⟩
    obtain ⟨dev', hdev', -, hdevice, hentry⟩ := (DeviceTable.mem_listDevices hdevices).2
      ⟨(h.2 a ha _).symm.trans hdir, hactive⟩
    exact ⟨_, List.mem_map_of_mem hdev', hdevice, congrArg DeviceEntry.osVersion hentry,
      congrArg DeviceEntry.appVersion hentry⟩
  · rintro ⟨info, hinfo, rfl, rfl, rfl⟩
    obtain ⟨dev, hdev, rfl⟩ := List.mem_map.1 hinfo
    obtain ⟨haccount, hactive⟩ := hmem' dev hdev
    have hdir := (DeviceTable.mem_listDevices hdevices).1 ⟨dev, hdev, haccount, rfl, rfl⟩
    obtain ⟨dev', hdev', -, hdevice, hentry⟩ := (MemoryDevices.mem_listDevices (p := p') h.1 ha).2
      ((h.2 a ha _).trans hdir.1)
    exact ⟨_, List.mem_map_of_mem hdev', (congrArg DeviceEntry.isActive hentry).trans hactive,
      hdevice, congrArg DeviceEntry.osVersion hentry, congrArg DeviceEntry.appVersion hentry⟩

/-! ## The statements -/

theorem not_exists_ok {e : StorageError} :
    ¬∃ t', (.error e : Except StorageError DeviceTable) = .ok t' := by
  rintro ⟨t', ht'⟩
  cases ht'

/-- The statements do the same, exactly if the one of the database agrees. -/
theorem same_exec_iff (hpc : SamePc pc pc') (h : SameDirectory m t) :
    (SameDirectory (exec (memoryDevices p') m i pc).1 (exec (mySqlDevices p) t i pc').1 ∧
      SamePc (exec (memoryDevices p') m i pc).2 (exec (mySqlDevices p) t i pc').2) ↔
      Agrees t i pc' := by
  cases pc <;> cases pc'
  all_goals try exact False.elim hpc
  case registerDevice.registerDevice x y =>
    dsimp only [exec, memoryDevices, mySqlDevices, Agrees]
    rw [← DeviceTable.registerDevice_ok_iff]
    cases ht' : t.registerDevice i.call y with
    | ok t' =>
      refine iff_of_true ⟨h.registerDevice hpc ht', ?_⟩ ⟨t', rfl⟩
      exact congrArg (fun d => Answer.registerDevice ⟨true, d, _⟩) hpc.2.2.1
    | error e => exact iff_of_false (fun h => by cases h.2) not_exists_ok
  case registerNewDevice.registerNewDevice x y =>
    dsimp only [exec, memoryDevices, mySqlDevices, Agrees]
    rw [← DeviceTable.registerDevice_ok_iff]
    cases ht' : t.registerDevice i.call y with
    | ok t' => exact iff_of_true ⟨h.registerDevice hpc ht', Eq.refl _⟩ ⟨t', rfl⟩
    | error e => exact iff_of_false (fun h => by cases h.2) not_exists_ok
  case registerChecked.registerChecked b x c y =>
    dsimp only [exec, memoryDevices, mySqlDevices, Agrees]
    rw [← DeviceTable.registerDevice_ok_iff]
    cases ht' : t.registerDevice i.call y with
    | ok t' => exact iff_of_true ⟨h.registerDevice hpc.2 ht', Eq.refl _⟩ ⟨t', rfl⟩
    | error e => exact iff_of_false (fun h => by cases h.2) not_exists_ok
  case updateDevice.updateDevice x y =>
    dsimp only [exec, memoryDevices, mySqlDevices, Agrees]
    cases ht' : t.updateDevice i.call y with
    | ok t' =>
      have hi : i.call.fault = none := by
        by_contra hne
        obtain ⟨e, he⟩ := Option.ne_none_iff_exists'.1 hne
        rw [DeviceTable.updateDevice, he] at ht'
        cases ht'
      rw [and_iff_right hi, ← sameDirectory_updateDevice_iff h hpc ht']
      exact and_iff_left (Eq.refl _)
    | error e =>
      refine iff_of_false (fun h => by cases h.2) ?_
      rintro ⟨hi, -⟩
      rw [DeviceTable.updateDevice, hi] at ht'
      cases ht'
  case getDevice.getDevice req req' =>
    obtain ⟨rfl, hcolon⟩ := hpc
    dsimp only [exec, memoryDevices, mySqlDevices, Agrees]
    cases hi : i.call.fault with
    | some e =>
      rw [DeviceTable.getDevice, hi]
      refine iff_of_false ?_ (Option.some_ne_none e)
      cases m.getDevice req.accountHash req.deviceHash <;> exact fun h => h.2
    | none =>
      obtain ⟨dev, hdev, hsame⟩ := h.getDevice (p := p) (d := req.deviceHash) hcolon hi
      rw [hdev, iff_true_right (Eq.refl _)]
      generalize MemoryDevices.getDevice m _ _ = found at hsame ⊢
      cases hsame with
      | none => exact ⟨h, hcolon, rfl, rfl, rfl⟩
      | some hxy =>
        refine ⟨h, hxy.1, hxy.2.1, hxy.2.2.1, ?_⟩
        exact congrArg (fun user => DeviceEntry.mk user _ _ _)
          (congrArg DeviceEntry.userId hxy.2.2.2)
  case checkDevice.checkDevice a d os app a' d' os' app' =>
    obtain ⟨rfl, rfl, rfl, rfl, hcolon⟩ := hpc
    dsimp only [exec, memoryDevices, mySqlDevices, Agrees]
    cases hi : i.call.fault with
    | some e =>
      rw [DeviceTable.getDevice, hi]
      refine iff_of_false ?_ (Option.some_ne_none e)
      cases m.getDevice a d <;> exact fun h => h.2
    | none =>
      obtain ⟨dev, hdev, hsame⟩ := h.getDevice (p := p) (d := d) hcolon hi
      rw [hdev, iff_true_right (Eq.refl _)]
      generalize MemoryDevices.getDevice m _ _ = found at hsame ⊢
      cases hsame with
      | none => exact ⟨h, rfl, hcolon, rfl, rfl, rfl⟩
      | some hxy =>
        refine ⟨h, rfl, hxy.1, hxy.2.1, hxy.2.2.1, ?_⟩
        exact congrArg (fun user => DeviceEntry.mk user _ _ _)
          (congrArg DeviceEntry.userId hxy.2.2.2)
  case listDevices.listDevices a a' =>
    obtain ⟨rfl, hcolon⟩ := hpc
    dsimp only [exec, memoryDevices, mySqlDevices, Agrees]
    cases hi : i.call.fault with
    | some e =>
      rw [DeviceTable.listDevices, hi]
      exact iff_of_false (fun h => by cases h.2.1) (Option.some_ne_none e)
    | none =>
      have hdevices : ∃ devices, t.listDevices p i.call a = .ok devices := by
        rw [DeviceTable.listDevices, hi]
        exact ⟨_, rfl⟩
      obtain ⟨devices, hdevices⟩ := hdevices
      rw [hdevices, iff_true_right (Eq.refl _)]
      exact ⟨h, h.listDevices hcolon hdevices⟩
  case deleteDevice.deleteDevice a d a' d' =>
    obtain ⟨rfl, rfl, hcolon⟩ := hpc
    dsimp only [exec, memoryDevices, mySqlDevices, Agrees, DeviceTable.deleteDevice]
    cases hi : i.call.fault with
    | some e => exact iff_of_false (fun h => by cases h.2) (Option.some_ne_none e)
    | none => exact iff_of_true ⟨h.deleteDevice hcolon, Eq.refl _⟩ (Eq.refl _)
  case answered.answered x y => exact iff_of_true ⟨h, hpc⟩ trivial

end

/-- The storages, and what the requests are told, stay the same exactly as long as the database
    does not fail, refuse a device, or miss one that is to be updated. -/
theorem alike_iff {p p' : Planner} {s : Interleaving.State MemoryDevices Pc}
    {s' : Interleaving.State DeviceTable Pc} {ops : List (Interleaving.Op Request Inputs)}
    (hs : Interleaving.System.Alike SameDirectory SamePc (s, s'))
    (hops : ∀ r, .start r ∈ ops → ∀ a ∈ r.account, Colonless a) :
    Guarded (Interleaving.System.both (system (memoryDevices p')) (system (mySqlDevices p)))
        (fun s o => Interleaving.System.Alike SameDirectory SamePc
          (Interleaving.System.both (system (memoryDevices p')) (system (mySqlDevices p)) s o))
        (s, s') ops ↔
      Guarded (Interleaving.System.both (system (memoryDevices p')) (system (mySqlDevices p)))
        (Interleaving.System.Executes Agrees) (s, s') ops :=
  Interleaving.System.alike_run_iff (fun r hr => samePc_start (hops r hr))
    (fun _ _ _ _ _ hpc h => same_exec_iff hpc h) hs

/-- A device of an account that the database does not know. -/
def sampleStranger : List (Interleaving.Op Request Inputs) :=
  [.start (.updateDeviceInfo ⟨"carol", "phone", true, "15", "1.1"⟩), .next 0 sampleInputs,
    .next 0 sampleInputs]

theorem alike_sampleStranger :
    ¬Guarded (Interleaving.System.both (system (memoryDevices .insertion))
        (system (mySqlDevices .insertion)))
      (fun s o => Interleaving.System.Alike SameDirectory SamePc
        (Interleaving.System.both (system (memoryDevices .insertion))
          (system (mySqlDevices .insertion)) s o))
      (⟨.empty, []⟩, ⟨.empty ["alice", "bob"], []⟩) sampleStranger := by
  rw [alike_iff ⟨⟨fun _ h => absurd h List.not_mem_nil, fun _ _ _ => rfl⟩, .nil⟩
    (by simp [sampleStranger, Request.account, Colonless])]
  rintro ⟨-, -, h, -⟩
  exact absurd (h _ rfl).2.1 (by decide)

end DeviceHandler

end CosmicSync
