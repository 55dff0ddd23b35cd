import CosmicSync.Library.Run
import CosmicSync.Library.Table
import CosmicSync.Models.File

/-!
# The initial synchronisation of a device

When a device subscribes to file updates, `send_initial_file_sync` of
`server/service.rs` sends it the files of its account, in batches of 50, and then
moves the watermark `last_sync` of the device to the present. A storage that honours
`upload_time_from` lists only files from the watermark on, so what is older and has
not been sent by then is lost to the device.

A send that fails ends its batch, but not the call; and the watermark is moved if
anything newer than it was sent, or the client asked for newer files only. So it
passes over the files that were not sent (`failed_send_is_passed`).

* `NothingPassed`: the calls for which it does not: everything is sent, or the
  watermark is not moved.
* `delivered_run`: in every run of such calls, with files changing between them,
  the files older than the watermark have been sent.
-/

namespace CosmicSync

namespace InitialSync

open Table Run

/-! ## Batches -/

/-- `chunks(n)`. Every chunk takes an element at least, so the length is enough fuel. -/
def chunksAux {α : Type*} (n : ℕ) : ℕ → List α → List (List α)
  | 0, _ => []
  | fuel + 1, l => if l.isEmpty then [] else l.take n :: chunksAux n fuel (l.drop n)

def chunks {α : Type*} (n : ℕ) (l : List α) : List (List α) := chunksAux n l.length l

theorem flatten_chunksAux {α : Type*} {n fuel : ℕ} {l : List α} (hn : 0 < n)
    (hfuel : l.length ≤ fuel) : (chunksAux n fuel l).flatten = l := by
  induction fuel generalizing l with
  | zero => rw [List.length_eq_zero_iff.1 (Nat.le_zero.1 hfuel)]; rfl
  | succ fuel ih =>
    rw [chunksAux]
    split
    next hnil => rw [List.isEmpty_iff.1 hnil]; rfl
    next hne =>
      have hpos : 0 < l.length := List.length_pos_iff.2 (mt List.isEmpty_iff.2 hne)
      have hdrop : (l.drop n).length ≤ fuel := by rw [List.length_drop]; omega
      rw [List.flatten_cons, ih hdrop, List.take_append_drop]

theorem flatten_chunks {α : Type*} {n : ℕ} {l : List α} (hn : 0 < n) : (chunks n l).flatten = l :=
  flatten_chunksAux hn le_rfl

/-- What becomes of a send on the channel of the subscriber. -/
inductive Outcome where
  | sent
  | failed
  | noSubscriber
  deriving DecidableEq, Repr

/-- The inner loop: the files of a batch that are sent to the device. Its own files are
    skipped, and a send that fails ends the batch. -/
def sendBatch (deviceHash : String) : List (FileInfo × Outcome) → List FileInfo
  | [] => []
  | (file, outcome) :: batch =>
    if file.deviceHash = deviceHash then sendBatch deviceHash batch
    else
      match outcome with
      | .sent => file :: sendBatch deviceHash batch
      | .failed => []
      | .noSubscriber => []

/-- The loop goes on after this file. -/
def Passes (deviceHash : String) (p : FileInfo × Outcome) : Prop :=
  p.1.deviceHash = deviceHash ∨ p.2 = .sent

instance (deviceHash : String) : DecidablePred (Passes deviceHash) :=
  fun _ => inferInstanceAs (Decidable (_ ∨ _))

section

variable {deviceHash : String} {batch : List (FileInfo × Outcome)} {file : FileInfo}

/-- The files sent are those of other devices before the first send that fails. -/
theorem mem_sendBatch : file ∈ sendBatch deviceHash batch ↔
    ∃ p ∈ batch.takeWhile fun p => Passes deviceHash p,
      p.1 = file ∧ file.deviceHash ≠ deviceHash := by
  induction batch with
  | nil => simp [sendBatch]
  | cons p batch ih =>
    obtain ⟨f, outcome⟩ := p
    by_cases hown : f.deviceHash = deviceHash
    · -- A file of the device itself is skipped, whatever would become of its send.
      have hpass : Passes deviceHash (f, outcome) := .inl hown
      have hskip : sendBatch deviceHash ((f, outcome) :: batch) = sendBatch deviceHash batch := by
        cases outcome <;> simp [sendBatch, hown]
      rw [hskip, ih, List.takeWhile_cons_of_pos (by simpa using hpass)]
      simp only [List.mem_cons, exists_eq_or_imp]
      constructor
      · exact .inr
      · rintro (⟨rfl, hne⟩ | h)
        · exact absurd hown hne
        · exact h
    · rcases outcome with _ | _ | _
      · have hpass : Passes deviceHash (f, .sent) := .inr rfl
        rw [sendBatch, if_neg hown, List.takeWhile_cons_of_pos (by simpa using hpass)]
        simp only [List.mem_cons, exists_eq_or_imp, ih]
        refine or_congr_left ⟨?_, fun h => h.1.symm⟩
        rintro rfl
        exact ⟨rfl, hown⟩
      -- The batch ends here, for the loop as for `takeWhile`.
      · simp [sendBatch, hown, Passes]
      · simp [sendBatch, hown, Passes]

/-- Where no send fails, all files of other devices are sent. -/
theorem mem_sendBatch_of_forall_sent
    (h : ∀ p ∈ batch, p.1.deviceHash ≠ deviceHash → p.2 = .sent) {p : FileInfo × Outcome}
    (hp : p ∈ batch) (hother : p.1.deviceHash ≠ deviceHash) : p.1 ∈ sendBatch deviceHash batch := by
  have hall : batch.takeWhile (fun p => Passes deviceHash p) = batch := by
    refine List.takeWhile_eq_self_iff.2 fun q hq => decide_eq_true ?_
    by_cases hown : q.1.deviceHash = deviceHash
    · exact .inl hown
    · exact .inr (h q hq hown)
  exact mem_sendBatch.2 ⟨p, hall.symm ▸ hp, rfl, hother⟩

theorem sendBatch_of_forall_sent (h : ∀ p ∈ batch, p.2 = .sent) :
    sendBatch deviceHash batch = (batch.map Prod.fst).filter fun f =>
      f.deviceHash ≠ deviceHash := by
  induction batch with
  | nil => rfl
  | cons p batch ih =>
    obtain ⟨f, outcome⟩ := p
    obtain rfl : outcome = .sent := h _ List.mem_cons_self
    rw [sendBatch, ih fun p hp => h p (List.mem_cons_of_mem _ hp), List.map_cons, List.filter_cons]
    by_cases hown : f.deviceHash = deviceHash
    · simp [hown]
    · simp [hown]

end

/-! ## The call -/

/-- The storages, which differ in how they list files: MySQL ignores the time from which
    files are asked for. -/
inductive Backend where
  | mysql
  | memory
  deriving DecidableEq, Repr

/-- `list_files`, of the active files of an account. -/
def Backend.listFiles (pl : Planner) (files : List FileInfo) (groupId : ℤ)
    (uploadTimeFrom : ℤ) : Backend → List FileInfo
  | .mysql => (pl.arrange (files.filter fun f => f.groupId = groupId)).insertionSort
      fun f f' => f'.updatedTime.seconds ≤ f.updatedTime.seconds
  | .memory => pl.arrange (files.filter fun f =>
      f.groupId = groupId ∧ uploadTimeFrom ≤ f.updatedTime.seconds)

/-- The account and the device, as the calls of the device see them. -/
structure State where
  clock : ℤ
  /-- The active files of the account. -/
  files : List FileInfo
  /-- The watcher groups of the account. -/
  groups : List ℤ
  /-- The watermark of the device, if it is registered. -/
  lastSync : Option ℤ
  /-- What was sent on the channel of the device. -/
  sent : List FileInfo
  /-- The times since which the client asked for files. -/
  sinces : List ℤ

/-- What a call meets: the request, which of its storage calls fail, what becomes of its
    sends, and how long it takes. -/
structure Call where
  sinceTs : Option ℤ
  deviceFails : Bool
  groupsFail : Bool
  listFails : ℤ → Bool
  outcome : ℕ → Outcome
  deviceFailsAgain : Bool
  updateFails : Bool
  duration : ℕ

/-- Files per batch. -/
def batchSize : ℕ := 50

namespace State

variable (backend : Backend) (pl : Planner) (deviceHash : String) (s : State) (c : Call)

/-- The watermark that the call reads: `0` if it fails to. -/
def storedLastSync : ℤ := if c.deviceFails then 0 else s.lastSync.getD 0

def effectiveSince : ℤ := max (c.sinceTs.getD 0) (s.storedLastSync c)

/-- The files that are listed, of all groups whose listing does not fail. -/
def listed : List FileInfo :=
  s.groups.flatMap fun g =>
    if c.listFails g then [] else backend.listFiles pl s.files g (s.effectiveSince c)

/-- The listed files, each with what becomes of its send. -/
def attempts : List (FileInfo × Outcome) :=
  (s.listed backend pl c).zipIdx.map fun p => (p.1, c.outcome p.2)

def delivered : List FileInfo :=
  (chunks batchSize (s.attempts backend pl c)).flatMap (sendBatch deviceHash)

/-- `max_delivered_ts`: it starts from the time asked for. -/
def maxDeliveredTs : ℤ :=
  (s.delivered backend pl deviceHash c).foldl (fun m f => max m f.updatedTime.seconds)
    (s.effectiveSince c)

/-- The watermark after the call. -/
def lastSyncAfter : Option ℤ :=
  if s.storedLastSync c < s.maxDeliveredTs backend pl deviceHash c ∧ c.deviceFailsAgain = false ∧
      c.updateFails = false then
    -- The device is read again for the update, which sets the present and not
    -- `max_delivered_ts`.
    s.lastSync.map fun _ => s.clock + c.duration
  else s.lastSync

/-- `send_initial_file_sync`. If the groups cannot be read, the call ends with an
    error. -/
def sendInitialFileSync : State :=
  if c.groupsFail then
    { s with clock := s.clock + c.duration, sinces := s.sinces ++ c.sinceTs.toList }
  else
    { s with
      clock := s.clock + c.duration
      lastSync := s.lastSyncAfter backend pl deviceHash c
      sent := s.sent ++ s.delivered backend pl deviceHash c
      sinces := s.sinces ++ c.sinceTs.toList }

end State

/-- What happens to the account: a call of the device; time passes; uploads and
    deletions, by whatever device; changes of the watcher groups. -/
inductive Op where
  | sync (c : Call)
  | wait (duration : ℕ)
  | change (removed : FileInfo → Bool) (added : List FileInfo)
  | setGroups (groups : List ℤ)

/-- An upload is stamped with the clock of the server. -/
def stamp (clock : ℤ) (f : FileInfo) : FileInfo := { f with updatedTime := ⟨clock, 0⟩ }

def step (backend : Backend) (pl : Planner) (deviceHash : String) (s : State) : Op → State
  | .sync c => s.sendInitialFileSync backend pl deviceHash c
  | .wait duration => { s with clock := s.clock + duration }
  | .change removed added =>
    { s with files := s.files.filter (fun f => !removed f) ++ added.map (stamp s.clock) }
  | .setGroups groups => { s with groups := groups }

/-! ## Nothing is passed over -/

/-- The files of other devices that are older than the watermark have been sent, or are
    older than a time since which the client asked for files. -/
def Delivered (deviceHash : String) (s : State) : Prop :=
  ∀ f ∈ s.files, f.deviceHash ≠ deviceHash → ∀ watermark ∈ s.lastSync,
    f.updatedTime.seconds < watermark →
      f ∈ s.sent ∨ ∃ since ∈ s.sinces, f.updatedTime.seconds < since

instance (deviceHash : String) (s : State) : Decidable (Delivered deviceHash s) :=
  inferInstanceAs (Decidable (∀ f ∈ s.files, f.deviceHash ≠ deviceHash → ∀ watermark ∈ s.lastSync,
    f.updatedTime.seconds < watermark →
      f ∈ s.sent ∨ ∃ since ∈ s.sinces, f.updatedTime.seconds < since))

/-- Every file of another device is listed, and no send fails. -/
def SendsAll (backend : Backend) (pl : Planner) (deviceHash : String) (s : State) (c : Call) :
    Prop :=
  (∀ f ∈ s.files, f.deviceHash ≠ deviceHash →
    f.groupId ∈ s.groups ∧ c.listFails f.groupId = false) ∧
  ∀ p ∈ s.attempts backend pl c, p.1.deviceHash ≠ deviceHash → p.2 = .sent

instance (backend : Backend) (pl : Planner) (deviceHash : String) (s : State) (c : Call) :
    Decidable (SendsAll backend pl deviceHash s c) := inferInstanceAs (Decidable (_ ∧ _))

/-- The watermark is not written, for the call fails on the way; or the client asks for
    no newer files than those from the watermark on, and no newer file is sent before
    the first failure in its batch. -/
def LeavesWatermark (backend : Backend) (pl : Planner) (deviceHash : String) (s : State)
    (c : Call) : Prop :=
  c.groupsFail = true ∨ s.lastSync = none ∨ c.deviceFailsAgain = true ∨ c.updateFails = true ∨
    (c.sinceTs.getD 0 ≤ s.storedLastSync c ∧
      ∀ batch ∈ chunks batchSize (s.attempts backend pl c),
        ∀ p ∈ batch.takeWhile fun p => Passes deviceHash p, p.1.deviceHash ≠ deviceHash →
          p.1.updatedTime.seconds ≤ s.storedLastSync c)

instance (backend : Backend) (pl : Planner) (deviceHash : String) (s : State) (c : Call) :
    Decidable (LeavesWatermark backend pl deviceHash s c) := inferInstanceAs (Decidable (_ ∨ _))

/-- The calls that pass over nothing. -/
def NothingPassed (backend : Backend) (pl : Planner) (deviceHash : String) (s : State) : Op → Prop
  | .sync c => SendsAll backend pl deviceHash s c ∨ LeavesWatermark backend pl deviceHash s c
  | _ => True

instance (backend : Backend) (pl : Planner) (deviceHash : String) (s : State) :
    (op : Op) → Decidable (NothingPassed backend pl deviceHash s op)
  | .sync c => inferInstanceAs
      (Decidable (SendsAll backend pl deviceHash s c ∨ LeavesWatermark backend pl deviceHash s c))
  | .wait _ => .isTrue trivial
  | .change _ _ => .isTrue trivial
  | .setGroups _ => .isTrue trivial

section

variable {backend : Backend} {pl : Planner} {deviceHash : String} {s : State} {c : Call}

/-- What is listed for a group. Of the files of the group, MySQL lists all and the
    storage in memory those that are recent enough. -/
theorem mem_listFiles {f : FileInfo} {files : List FileInfo} {groupId since : ℤ} (hf : f ∈ files)
    (hg : f.groupId = groupId) (hsince : since ≤ f.updatedTime.seconds) :
    f ∈ backend.listFiles pl files groupId since := by
  rcases backend with _ | _
  · simp [Backend.listFiles, hf, hg]
  · simp [Backend.listFiles, hf, hg, hsince]

theorem map_fst_attempts : (s.attempts backend pl c).map Prod.fst = s.listed backend pl c := by
  rw [State.attempts, List.map_map]
  exact List.zipIdx_map_fst 0 _

theorem exists_attempt {f : FileInfo} (hf : f ∈ s.listed backend pl c) :
    ∃ p ∈ s.attempts backend pl c, p.1 = f := by
  rw [← map_fst_attempts] at hf
  exact List.mem_map.1 hf

/-- Where no send fails, the files delivered are those of other devices, as they are listed. -/
theorem delivered_of_forall_sent (h : ∀ n, c.outcome n = .sent) :
    s.delivered backend pl deviceHash c =
      (s.listed backend pl c).filter fun f => f.deviceHash ≠ deviceHash := by
  have hsent : ∀ p ∈ (chunks batchSize (s.attempts backend pl c)).flatten, p.2 = .sent := by
    rw [flatten_chunks (by decide)]
    intro p hp
    obtain ⟨q, -, rfl⟩ := List.mem_map.1 hp
    exact h q.2
  rw [← map_fst_attempts,
    ← flatten_chunks (l := s.attempts backend pl c) (n := batchSize) (by decide), State.delivered]
  generalize chunks batchSize (s.attempts backend pl c) = batches at hsent
  induction batches with
  | nil => rfl
  | cons batch batches ih =>
    rw [List.flatten_cons] at hsent
    rw [List.flatMap_cons, List.flatten_cons, List.map_append, List.filter_append,
      ih fun p hp => hsent p (List.mem_append_right _ hp),
      sendBatch_of_forall_sent fun p hp => hsent p (List.mem_append_left _ hp)]

/-- Where no send fails, every listed file of another device is delivered. -/
theorem mem_delivered_of_sendsAll (h : SendsAll backend pl deviceHash s c) {f : FileInfo}
    (hf : f ∈ s.listed backend pl c) (hother : f.deviceHash ≠ deviceHash) :
    f ∈ s.delivered backend pl deviceHash c := by
  obtain ⟨p, hp, rfl⟩ := exists_attempt hf
  have hflat : p ∈ (chunks batchSize (s.attempts backend pl c)).flatten := by
    rwa [flatten_chunks (by decide)]
  obtain ⟨batch, hbatch, hp⟩ := List.mem_flatten.1 hflat
  refine List.mem_flatMap.2 ⟨batch, hbatch, mem_sendBatch_of_forall_sent ?_ hp hother⟩
  intro q hq
  refine h.2 q ?_
  have hq : q ∈ (chunks batchSize (s.attempts backend pl c)).flatten :=
    List.mem_flatten.2 ⟨batch, hbatch, hq⟩
  rwa [flatten_chunks (by decide)] at hq

theorem foldl_max_le {l : List FileInfo} {m bound : ℤ} (hm : m ≤ bound)
    (h : ∀ f ∈ l, f.updatedTime.seconds ≤ bound) :
    l.foldl (fun m f => max m f.updatedTime.seconds) m ≤ bound := by
  induction l generalizing m with
  | nil => exact hm
  | cons f l ih =>
    exact ih (max_le hm (h f List.mem_cons_self)) fun g hg => h g (List.mem_cons_of_mem _ hg)

theorem lastSyncAfter_of_leavesWatermark (h : LeavesWatermark backend pl deviceHash s c)
    (hgroups : c.groupsFail = false) : s.lastSyncAfter backend pl deviceHash c = s.lastSync := by
  rw [State.lastSyncAfter]
  split
  next hmoved =>
    obtain ⟨hlt, hagain, hupdate⟩ := hmoved
    rcases h with h | h | h | h | ⟨hsince, hbatch⟩
    · rw [hgroups] at h
      cases h
    · rw [h]
      rfl
    · rw [hagain] at h
      cases h
    · rw [hupdate] at h
      cases h
    · -- Nothing that was delivered is newer than the watermark.
      have hle : s.maxDeliveredTs backend pl deviceHash c ≤ s.storedLastSync c := by
        refine foldl_max_le (max_le hsince le_rfl) fun f hf => ?_
        obtain ⟨batch, hb, hf⟩ := List.mem_flatMap.1 hf
        obtain ⟨p, hp, rfl, hother⟩ := mem_sendBatch.1 hf
        exact hbatch batch hb p hp hother
      exact absurd hlt (not_lt.2 hle)
  next => rfl

/-- The clock is not before the epoch, nor the files; the watermark is not ahead of it. -/
structure WellTimed (s : State) : Prop where
  clock : 0 ≤ s.clock
  files : ∀ f ∈ s.files, 0 ≤ f.updatedTime.seconds
  lastSync : ∀ watermark ∈ s.lastSync, watermark ≤ s.clock

theorem lastSyncAfter_cases (backend : Backend) (pl : Planner) (deviceHash : String) (s : State)
    (c : Call) :
    s.lastSyncAfter backend pl deviceHash c = s.lastSync ∨
      s.lastSyncAfter backend pl deviceHash c = some (s.clock + c.duration) := by
  rw [State.lastSyncAfter]
  split
  · -- The watermark of a device that is not registered is not created.
    rcases s.lastSync with _ | _
    · exact .inl rfl
    · exact .inr rfl
  · exact .inl rfl

theorem WellTimed.step (hs : WellTimed s) (op : Op) :
    WellTimed (step backend pl deviceHash s op) := by
  have hlater : ∀ duration : ℕ, ∀ watermark ∈ s.lastSync, watermark ≤ s.clock + duration := by
    intro duration watermark hw
    have := hs.lastSync watermark hw
    omega
  have hclock := hs.clock
  rcases op with c | duration | ⟨removed, added⟩ | groups
  · simp only [InitialSync.step, State.sendInitialFileSync]
    split
    · exact ⟨by dsimp only; omega, hs.files, hlater c.duration⟩
    · refine ⟨by dsimp only; omega, hs.files, fun watermark hw => ?_⟩
      obtain h | h := lastSyncAfter_cases backend pl deviceHash s c
      · exact hlater c.duration watermark (h ▸ hw)
      · -- A watermark that is moved is the clock at the end of the call.
        simp only [h, Option.mem_some_iff] at hw
        exact hw.ge
  · exact ⟨by dsimp only [InitialSync.step]; omega, hs.files, hlater duration⟩
  · refine ⟨hs.clock, fun f hf => ?_, hs.lastSync⟩
    rcases List.mem_append.1 hf with hf | hf
    · exact hs.files f (List.mem_of_mem_filter hf)
    · obtain ⟨f₀, -, rfl⟩ := List.mem_map.1 hf
      exact hs.clock
  · exact ⟨hs.clock, hs.files, hs.lastSync⟩

/-- A call that sends everything: what it does not list is older than the watermark, and
    was sent before, or older than what the client asks for. -/
theorem Delivered.sendsAll (hd : Delivered deviceHash s) (hs : WellTimed s)
    (h : SendsAll backend pl deviceHash s c) {f : FileInfo} (hf : f ∈ s.files)
    (hother : f.deviceHash ≠ deviceHash) :
    f ∈ s.sent ++ s.delivered backend pl deviceHash c ∨
      ∃ since ∈ s.sinces ++ c.sinceTs.toList, f.updatedTime.seconds < since := by
  have hpos := hs.files f hf
  rcases lt_or_ge f.updatedTime.seconds (s.effectiveSince c) with hlt | hge
  · rcases lt_max_iff.1 hlt with hlt | hlt
    · -- It is older than the time that the client gave: without one, nothing is.
      rcases hc : c.sinceTs with _ | since
      · simp only [hc, Option.getD_none] at hlt
        omega
      · rw [hc] at hlt
        exact .inr ⟨since, List.mem_append_right _ (by simp), hlt⟩
    · -- It is older than the watermark that the call reads.
      rcases hw : s.lastSync with _ | watermark
      · simp only [State.storedLastSync, hw, Option.getD_none, ite_self] at hlt
        omega
      · have hlt : f.updatedTime.seconds < watermark := by
          rw [State.storedLastSync, hw] at hlt
          split at hlt
          · omega
          · exact hlt
        rcases hd f hf hother watermark hw hlt with hsent | ⟨since, hsince, hlt⟩
        · exact .inl (List.mem_append_left _ hsent)
        · exact .inr ⟨since, List.mem_append_left _ hsince, hlt⟩
  · obtain ⟨hgroup, hlist⟩ := h.1 f hf hother
    have hlisted : f ∈ s.listed backend pl c := by
      refine List.mem_flatMap.2 ⟨f.groupId, hgroup, ?_⟩
      rw [if_neg (by simp [hlist])]
      exact mem_listFiles hf rfl hge
    exact .inl (List.mem_append_right _ (mem_delivered_of_sendsAll h hlisted hother))

/-- The watermark is not moved, and what was sent stays sent. -/
theorem Delivered.mono (hd : Delivered deviceHash s) {s' : State} (hfiles : s'.files = s.files)
    (hsync : s'.lastSync = s.lastSync) (hsent : s.sent ⊆ s'.sent) (hsinces : s.sinces ⊆ s'.sinces) :
    Delivered deviceHash s' := by
  intro f hf hother watermark hw hlt
  rw [hfiles] at hf
  rw [hsync] at hw
  rcases hd f hf hother watermark hw hlt with h | ⟨since, hsince, hlt⟩
  · exact .inl (hsent h)
  · exact .inr ⟨since, hsinces hsince, hlt⟩

theorem Delivered.sync (hd : Delivered deviceHash s) (hs : WellTimed s)
    (h : NothingPassed backend pl deviceHash s (.sync c)) :
    Delivered deviceHash (s.sendInitialFileSync backend pl deviceHash c) := by
  rcases hgroups : c.groupsFail with _ | _
  · rw [State.sendInitialFileSync, if_neg (by simp [hgroups])]
    rcases h with h | h
    · -- Everything is sent, so it does not matter where the watermark goes.
      exact fun f hf hother _ _ _ => hd.sendsAll hs h hf hother
    · exact hd.mono rfl (lastSyncAfter_of_leavesWatermark h hgroups) (List.subset_append_left _ _)
        (List.subset_append_left _ _)
  · rw [State.sendInitialFileSync, if_pos hgroups]
    exact hd.mono rfl rfl (List.Subset.refl _) (List.subset_append_left _ _)

theorem Delivered.step (hd : Delivered deviceHash s) (hs : WellTimed s) {op : Op}
    (h : NothingPassed backend pl deviceHash s op) :
    Delivered deviceHash (step backend pl deviceHash s op) := by
  rcases op with c | duration | ⟨removed, added⟩ | groups
  · exact hd.sync hs h
  · exact hd.mono rfl rfl (List.Subset.refl _) (List.Subset.refl _)
  · intro f hf hother watermark hw hlt
    rcases List.mem_append.1 hf with hf | hf
    · exact hd f (List.mem_of_mem_filter hf) hother watermark hw hlt
    · -- An upload is not older than the watermark.
      obtain ⟨f₀, -, rfl⟩ := List.mem_map.1 hf
      exact absurd hlt (not_lt.2 (hs.lastSync watermark hw))
  · exact hd.mono rfl rfl (List.Subset.refl _) (List.Subset.refl _)

end

/-! ## Runs -/

/-- A device registered at the time `5`, in an account without files. -/
def sampleState : State := ⟨5, [], [1], some 5, [], []⟩

theorem sampleState_wellTimed : WellTimed sampleState :=
  ⟨by decide, by decide, by simp [sampleState]⟩

/-- A file of another device. -/
def sampleFile (fileId : ℕ) : FileInfo where
  fileId := fileId
  filename := "a.txt"
  fileHash := "h"
  deviceHash := "e"
  groupId := 1
  watcherId := 1
  isEncrypted := false
  filePath := "~/a.txt"
  updatedTime := ⟨0, 0⟩
  revision := 1
  accountHash := "alice"
  size := 0
  keyId := none

/-- A call with the given sends, of which nothing else fails. -/
def sampleCall (outcome : ℕ → Outcome) : Call :=
  ⟨none, false, false, fun _ => false, outcome, false, false, 10⟩

/-- Another device uploads two files, at the times `10` and `20`; then the device
    subscribes. -/
def sampleOps (outcome : ℕ → Outcome) : List Op :=
  [.wait 5, .change (fun _ => false) [sampleFile 1], .wait 10,
    .change (fun _ => false) [sampleFile 2], .sync (sampleCall outcome)]

/-- The second send fails: the watermark is moved to `30` all the same, past the second
    file. -/
theorem failed_send_is_passed :
    let s := run (step .memory .insertion "d") sampleState
      (sampleOps fun i => if i = 0 then .sent else .failed)
    Delivered "d" sampleState ∧ s.lastSync = some 30 ∧ s.sent.map FileInfo.fileId = [1] ∧
      ¬Delivered "d" s := by
  decide

/-- In every run whose calls pass over nothing, with files and groups changing between
    the calls, the files older than the watermark have been sent. -/
theorem delivered_run (backend : Backend) (pl : Planner) (deviceHash : String) {s : State}
    (hs : WellTimed s) (hd : Delivered deviceHash s) (ops : List Op)
    (h : Guarded (step backend pl deviceHash) (NothingPassed backend pl deviceHash) s ops) :
    Delivered deviceHash (run (step backend pl deviceHash) s ops) := by
  have hinv := h.invariant (I := fun s => WellTimed s ∧ Delivered deviceHash s)
    (fun _ op hop hs => ⟨hs.1.step op, hs.2.step hs.1 hop⟩) ⟨hs, hd⟩
  exact hinv.2

/-- No send fails: both files are sent before the watermark is moved past them. -/
theorem delivered_sampleOps :
    let s := run (step .memory .insertion "d") sampleState (sampleOps fun _ => .sent)
    s.lastSync = some 30 ∧ s.sent.map FileInfo.fileId = [1, 2] ∧ Delivered "d" s :=
  ⟨by decide, by decide, delivered_run .memory .insertion "d" sampleState_wellTimed (by decide) _
    (by decide)⟩

end InitialSync

end CosmicSync
