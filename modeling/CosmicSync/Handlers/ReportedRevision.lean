import CosmicSync.Handlers.FileHandler

/-!
# The revision that an upload reports

An upload makes a revision known in four ways: in its answer, in two events, in the
notification of the other devices, and in the table. The table counts revisions by
itself, from those it has of the file. Answer and events go by the client, and add one
to the revision that it has sent; the notification does not even add one.

So the four agree only if the client was up to date, and nobody is notified
(`UpToDate`). Otherwise clients are told of a revision that is not in the table
(`upload_reports_other_revisions`).
-/

namespace CosmicSync

open Table

/-- The revisions reported are that of the answer, and it is the revision of the file in
    the table `t`, after the upload. -/
structure ReportsStored (result : UploadResult) (t : List FileRow) : Prop where
  events : ∀ e ∈ result.events, e.revision = result.response.newRevision
  notifications : ∀ p ∈ result.sent,
    p.2.fileInfo.map SyncFileInfo.revision = some result.response.newRevision.toInt
  written : ∃ r ∈ t, r.fileId = result.response.fileId ∧ r.isDeleted = false
  stored : ∀ r ∈ t, r.fileId = result.response.fileId → r.isDeleted = false →
    r.revision = result.response.newRevision.toInt

/-- The logical file that an upload to the account is stored as. -/
def uploadedFile (env : Env) (i : UploadInputs) (accountHash : String) (req : UploadFileRequest)
    (s : AppState) : LogicalFile where
  accountHash := accountHash
  filePath := (normalizePathPreserveTilde req.filePath).toByteArray
  filename := req.filename.toByteArray
  groupId := s.watchers.ensuredGroupId env.planner i.ids accountHash req.groupId

/-- The revision of the client is the greatest that the table `t` has of the logical file,
    or zero; or the revision of the rows that have its id, if they are active. -/
def InStep (revision : Int64) (fileId : ℕ) (k : LogicalFile) (t : List FileRow) : Prop :=
  (∀ r ∈ t, r.fileId = fileId ∧ r.isDeleted = false → r.revision + 1 = (revision + 1).toInt) ∧
    ((∀ r ∈ t, ¬(r.fileId = fileId ∧ r.isDeleted = false)) →
      (maxOf (fun r => r.logical = k) FileRow.revision t).getD 0 + 1 = (revision + 1).toInt)

/-- The client is up to date, and no other device of the account listens. -/
def UpToDate (env : Env) (i : UploadInputs) (auth : Option VerificationResult)
    (req : UploadFileRequest) (s : AppState) : Prop :=
  ∀ accountHash ∈ verifiedAccount auth,
    (∀ nm ∈ s.manager, nm.recipients accountHash req.deviceHash true = []) ∧
      InStep req.revision (Crypto.generateFileId i.fileIdValue)
        (uploadedFile env i accountHash req s)
        s.files

section

variable {env : Env} {kind : FileStorageKind} {i : UploadInputs} {auth : Option VerificationResult}
  {req : UploadFileRequest} {s s' : AppState} {result : UploadResult} {info : FileInfo}

/-- An upload leaves an active row of its file id. -/
theorem exists_active_storeFileInfo {now : ℤ} {nonces : Nonce × Nonce} {id : ℕ}
    {t t' : List FileRow} (h : storeFileInfo env now nonces info t = .ok (id, t')) :
    ∃ r ∈ t', r.fileId = info.fileId ∧ r.isDeleted = false := by
  obtain ⟨-, ⟨⟨r, hr, hid, hlive⟩, rfl⟩ | ⟨-, -, rfl⟩⟩ := storeFileInfo_ok h
  · exact ⟨r.overwrite info, mem_updateWhere.2 ⟨r, hr, if_pos hid⟩, hid, hlive⟩
  · exact ⟨_, List.mem_append_right _ List.mem_cons_self, rfl, rfl⟩

/-- The revision of the active rows after an upload, whichever branch it took. -/
theorem forall_active_storeFileInfo {now n : ℤ} {nonces : Nonce × Nonce} {id : ℕ}
    {t t' : List FileRow} (h : storeFileInfo env now nonces info t = .ok (id, t')) :
    (∀ r ∈ t', r.fileId = info.fileId → r.isDeleted = false → r.revision = n) ↔
      (∀ r ∈ t, r.fileId = info.fileId ∧ r.isDeleted = false → r.revision + 1 = n) ∧
        ((∀ r ∈ t, ¬(r.fileId = info.fileId ∧ r.isDeleted = false)) →
          nextRevision info.logical t = n) := by
  obtain ⟨-, ⟨⟨r₀, hr₀, hp₀⟩, rfl⟩ | ⟨hnot, -, rfl⟩⟩ := storeFileInfo_ok h
  · constructor
    · intro hall
      refine ⟨fun r hr hp => ?_, fun hnot => absurd hp₀ (hnot r₀ hr₀)⟩
      have hmem : r.overwrite info ∈
          updateWhere (fun r => r.fileId = info.fileId) (FileRow.overwrite info) t :=
        mem_updateWhere.2 ⟨r, hr, if_pos hp.1⟩
      exact hall _ hmem hp.1 hp.2
    · rintro ⟨hall, -⟩ r hr hid hlive
      obtain ⟨-, hne⟩ | ⟨r₁, hr₁, hid₁, rfl⟩ := mem_updateWhere_cases hr
      · exact absurd hid hne
      · exact hall r₁ hr₁ ⟨hid₁, hlive⟩
  · constructor
    · intro hall
      refine ⟨fun r hr hp => absurd hp (hnot r hr), fun _ => ?_⟩
      exact hall (env.newRow now nonces info _) (List.mem_append_right _ List.mem_cons_self) rfl rfl
    · rintro ⟨-, hnext⟩ r hr hid hlive
      obtain hr | hr := List.mem_append.1 hr
      · exact absurd ⟨hid, hlive⟩ (hnot r (active_of_mem_retire hr hlive))
      · rw [List.mem_singleton.1 hr]
        exact hnext hnot

theorem succ_ne {n : Int64} : n + 1 ≠ n := by grind

/-- A notification has the revision of the client, and never that of the answer. -/
theorem notifications_iff (notifier : Notifier) (C : Crypto) (inputs : StoreInputs)
    (hrevision : info.revision = req.revision.toInt) :
    (∀ p ∈ notifier.sendFileUpdateNotification C inputs info .uploaded,
        p.2.fileInfo.map SyncFileInfo.revision = some (req.revision + 1).toInt) ↔
      ∀ nm ∈ notifier.manager, nm.recipients info.accountHash info.deviceHash true = [] := by
  unfold Notifier.sendFileUpdateNotification Notifier.sendFileUpdateNotificationWithOptions
  rcases notifier.manager with _ | nm
  · simp
  · simp only [Option.mem_def, Option.some.injEq, forall_eq']
    have hnil : nm.broadcastFileUpdate C (notifier.encryptionKeys info.accountHash)
        inputs.transportNonces ⟨info.accountHash, info.deviceHash, some info.toSyncFile, .uploaded,
          inputs.timestamp⟩ = [] ↔ nm.recipients info.accountHash info.deviceHash true = [] :=
      NotificationManager.broadcastFileUpdate_eq_nil
    rw [← hnil, List.eq_nil_iff_forall_not_mem]
    refine forall_congr' fun p => ⟨fun h hp => ?_, fun h hp => absurd hp h⟩
    have hsent := NotificationManager.revision_of_mem_broadcast hp
    have heq : (req.revision + 1).toInt = req.revision.toInt :=
      Option.some.inj ((h hp).symm.trans (hsent.trans (congrArg some hrevision)))
    exact succ_ne (Int64.toInt_inj.1 heq)

/-- The revision reported for an accepted upload is the one stored, if and only if the
    client is up to date and no other device of the account listens. -/
theorem reportsStored_iff (h : handleUploadFile env kind i auth req s = (result, s'))
    (hok : result.response.success = true) :
    ReportsStored result s'.files ↔ UpToDate env i auth req s := by
  obtain ⟨info, tables, id, hprepare, hstore, -, rfl⟩ := handleUploadFile_success h hok
  obtain ⟨-, accountHash, watcherId, hauth, hinfo⟩ := prepareUpload_ok hprepare
  have hup : UpToDate env i auth req s ↔
      (∀ nm ∈ s.manager, nm.recipients info.accountHash info.deviceHash true = []) ∧
        InStep req.revision info.fileId info.logical s.files := by
    simp only [UpToDate, hauth, Option.mem_some_iff, forall_eq', hinfo]
    rfl
  have hrevision : info.revision = req.revision.toInt := by
    rw [hinfo]
    rfl
  have hnotify := notifications_iff s.notifier env.crypto i.store hrevision
  rw [hup]
  constructor
  · rintro ⟨-, hsent, -, hstored⟩
    exact ⟨hnotify.1 hsent, (forall_active_storeFileInfo hstore).1 hstored⟩
  · rintro ⟨hnone, hstep⟩
    refine ⟨fun e he => ?_, hnotify.2 hnone, exists_active_storeFileInfo hstore,
      (forall_active_storeFileInfo hstore).2 hstep⟩
    rcases List.mem_cons.1 he with rfl | he
    · rfl
    · rw [List.mem_singleton.1 he]
      rfl

end

/-! ## A client that is behind -/

/-- The server after a first upload, with another device of the account listening. -/
def sampleServer : AppState where
  files := [Env.plain.newRow 5 (Crypto.nonceSample 1, Crypto.nonceSample 2) (sampleInfo 3 0 5) 1]
  fileData _ := none
  cache _ := none
  watchers := ⟨[], []⟩
  encryptionKeys _ := none
  manager := some ⟨[⟨"alice:other", none, true⟩], true⟩

/-- A client uploads again, without having learnt its first revision: the table has the
    revision 2 then, the answer and the events have 1, and the other device is told 0. -/
theorem upload_reports_other_revisions :
    ∃ result s', handleUploadFile .plain .database sampleUploadInputs sampleAuth
        (sampleUploadRequest false 0) sampleServer = (result, s') ∧
      result.response = fileUploadSuccess 7 1 ∧ result.events.map Event.revision = [1, 1] ∧
      (result.sent.map fun p => p.2.fileInfo.map SyncFileInfo.revision) = [some 0] ∧
      (s'.files.map fun r => (r.fileId, r.isDeleted, r.revision)) = [(3, true, 1), (7, false, 2)] ∧
      ¬ReportsStored result s'.files := by
  refine ⟨_, _, rfl, by decide, by decide, by decide, by decide, fun h => ?_⟩
  have hsent := h.notifications ("alice:other", _) (by exact List.mem_cons_self)
  exact absurd hsent (by decide)

theorem reportsStored_first_upload :
    ∃ result s', handleUploadFile .plain .database sampleUploadInputs sampleAuth
        (sampleUploadRequest false 0) .empty = (result, s') ∧ result.response.success = true ∧
      ReportsStored result s'.files := by
  have hresponse : (handleUploadFile .plain .database sampleUploadInputs sampleAuth
      (sampleUploadRequest false 0) .empty).1.response = fileUploadSuccess 7 1 := by decide
  rcases hupload : handleUploadFile .plain .database sampleUploadInputs sampleAuth
    (sampleUploadRequest false 0) .empty with ⟨result, s'⟩
  rw [hupload] at hresponse
  have hok : result.response.success = true := by rw [hresponse]; rfl
  refine ⟨result, s', rfl, hok, (reportsStored_iff hupload hok).2 fun accountHash _ => ?_⟩
  exact ⟨fun nm hnm => (nomatch hnm), fun r hr => absurd hr List.not_mem_nil, fun _ => rfl⟩

end CosmicSync
