import CosmicSync.Services.VersionService

/-!
# The history of a file

`get_file_history` of `services/version_service.rs` reads the stored versions of a file,
keeps those in the range of times of the request, sorts them by revision, newest first, and
cuts them to a limit. The response is a page of the versions in the range
(`getFileHistory_isPage`).

The flag `has_more` compares the length of the page with the number of all stored versions.
So it is also set if all that is missing lies outside of the range
(`getFileHistory_tellsMore_iff`).
-/

namespace CosmicSync

open Ranking

/-- The fields of a `GetFileHistoryRequest` that the service reads. -/
structure GetFileHistoryRequest where
  accountHash : String
  filePath : String
  startTime : Option Timestamp
  endTime : Option Timestamp
  maxVersions : Option ℤ
  groupId : ℤ

/-- `FileVersionInfo`. -/
structure FileVersionInfo where
  fileId : ℕ
  revision : ℤ
  filename : String
  filePath : String
  fileHash : String
  createdTime : Option Timestamp
  deviceHash : String
  groupId : ℤ
  watcherId : ℤ
  fileSize : ℕ
  changeDescription : String
  isDeleted : Bool

/-- `GetFileHistoryResponse`. -/
structure GetFileHistoryResponse where
  success : Bool
  returnMessage : String
  versions : List FileVersionInfo
  totalVersions : ℤ
  hasMore : Bool

/-- `sync_file_to_version_info`. -/
def SyncFile.toVersionInfo (file : SyncFile) (changeDescription : Option String) :
    FileVersionInfo where
  fileId := file.fileId
  revision := file.revision
  filename := file.filename
  filePath := file.filePath
  fileHash := file.fileHash
  createdTime := some file.uploadTime
  deviceHash := file.deviceHash
  groupId := file.groupId
  watcherId := file.watcherId
  fileSize := asU64 file.fileSize
  changeDescription := changeDescription.getD ""
  isDeleted := file.isDeleted

/-- The instant `upload_time`. -/
def SyncFile.uploadedAt (file : SyncFile) : DateTime :=
  ⟨file.uploadTime.seconds, file.uploadTime.nanos.toNat⟩

/-- The order of the history: the newest revision first. -/
def newestFirst (f g : SyncFile) : Prop := g.revision ≤ f.revision

instance : DecidableRel newestFirst :=
  fun f g => inferInstanceAs (Decidable (g.revision ≤ f.revision))

instance : Std.Total newestFirst := ⟨fun f g => le_total g.revision f.revision⟩

instance : IsTrans SyncFile newestFirst := ⟨fun _ _ _ h h' => le_trans h' h⟩

/-- The clock, when the start and the end of the range are read. -/
structure HistoryInputs where
  startNow : DateTime
  endNow : DateTime

/-- The versions in the range of the request: the start of `apply_history_filters`. -/
def retainRange (i : HistoryInputs) (request : GetFileHistoryRequest) (files : List SyncFile) :
    List SyncFile :=
  let files : List SyncFile :=
    match request.startTime with
    | some startTime => files.filter fun f => (startTime.toDatetime i.startNow).le f.uploadedAt
    | none => files
  match request.endTime with
  | some endTime => files.filter fun f => f.uploadedAt.le (endTime.toDatetime i.endNow)
  | none => files

/-- `apply_history_filters`. -/
def applyHistoryFilters (i : HistoryInputs) (request : GetFileHistoryRequest)
    (files : List SyncFile) : List SyncFile :=
  let files := (retainRange i request files).insertionSort newestFirst
  match request.maxVersions with
  | some maxVersions => if 0 < maxVersions then files.take maxVersions.toNat else files
  | none => files.take 50

/-- `n as i32`. -/
def asI32 (n : ℕ) : ℤ := Int.bmod n (2 ^ 32)

/-- A field that is required is empty. -/
def GetFileHistoryRequest.Incomplete (request : GetFileHistoryRequest) : Prop :=
  request.accountHash = "" ∨ request.filePath = ""

instance (request : GetFileHistoryRequest) : Decidable request.Incomplete :=
  inferInstanceAs (Decidable (_ ∨ _))

/-- `get_file_history` of the service, over that of the storage. -/
def VersionService.getFileHistory
    (storage : String → String → ℤ → Except StorageError (List SyncFile))
    (i : HistoryInputs) (request : GetFileHistoryRequest) :
    Except AppError GetFileHistoryResponse :=
  if request.Incomplete then .ok ⟨false, "Account hash and file path are required", [], 0, false⟩
  else
    match storage request.accountHash request.filePath request.groupId with
    | .error e => .error (.storage ("Failed to get file history: " ++ e.display))
    | .ok files =>
      let totalBeforeFilter := asI32 files.length
      let files := applyHistoryFilters i request files
      let versions := files.map (·.toVersionInfo none)
      .ok {
        success := true
        returnMessage := "Found " ++ toString versions.length ++ " versions"
        versions := versions
        totalVersions := totalBeforeFilter
        hasMore := files.length < asU64 totalBeforeFilter }

/-! ## Pages of the history -/

section

variable {i : HistoryInputs} {request : GetFileHistoryRequest}

/-- The version was uploaded in the range of the request. -/
def InRange (i : HistoryInputs) (request : GetFileHistoryRequest) (f : SyncFile) : Prop :=
  (∀ startTime ∈ request.startTime, (startTime.toDatetime i.startNow).le f.uploadedAt) ∧
    ∀ endTime ∈ request.endTime, f.uploadedAt.le (endTime.toDatetime i.endNow)

instance : DecidablePred (InRange i request) := fun _ => inferInstanceAs (Decidable (_ ∧ _))

/-- How many versions are asked for: all of them, if the number is not positive. -/
def GetFileHistoryRequest.limit (request : GetFileHistoryRequest) : Option ℕ :=
  match request.maxVersions with
  | some maxVersions => if 0 < maxVersions then some maxVersions.toNat else none
  | none => some 50

theorem retainRange_eq (files : List SyncFile) :
    retainRange i request files = files.filter (InRange i request) := by
  rcases hstart : request.startTime with _ | startTime <;>
    rcases hend : request.endTime with _ | endTime <;>
    simp [retainRange, InRange, hstart, hend, List.filter_filter, Bool.and_comm]

theorem applyHistoryFilters_eq (files : List SyncFile) :
    applyHistoryFilters i request files =
      cut request.limit ((files.filter (InRange i request)).insertionSort newestFirst) := by
  rw [applyHistoryFilters, retainRange_eq, GetFileHistoryRequest.limit]
  rcases request.maxVersions with _ | maxVersions
  · rfl
  · dsimp only
    split <;> rfl

variable {storage : String → String → ℤ → Except StorageError (List SyncFile)}
  {files : List SyncFile}

theorem getFileHistory_incomplete (h : request.Incomplete) :
    VersionService.getFileHistory storage i request =
      .ok ⟨false, "Account hash and file path are required", [], 0, false⟩ := by
  rw [VersionService.getFileHistory, if_pos h]

theorem getFileHistory_complete (h : ¬request.Incomplete)
    (hfiles : storage request.accountHash request.filePath request.groupId = .ok files) :
    ∃ message, VersionService.getFileHistory storage i request =
      .ok ⟨true, message, (applyHistoryFilters i request files).map (·.toVersionInfo none),
        asI32 files.length,
        (applyHistoryFilters i request files).length < asU64 (asI32 files.length)⟩ := by
  rw [VersionService.getFileHistory, if_neg h, hfiles]
  exact ⟨_, rfl⟩

/-- The versions that a request gets are a page of the stored ones in its range, the newest
    first. A request without an account or a path is refused. -/
theorem getFileHistory_isPage
    (hfiles : storage request.accountHash request.filePath request.groupId = .ok files) :
    ∃ response, VersionService.getFileHistory storage i request = .ok response ∧
      (request.Incomplete → response.success = false ∧ response.versions = []) ∧
      (¬request.Incomplete → ∃ kept left, response.versions = kept.map (·.toVersionInfo none) ∧
        (∀ f ∈ kept, InRange i request f) ∧
        IsPage newestFirst request.limit (files.filter (InRange i request)) kept left) := by
  by_cases hrefused : request.Incomplete
  · exact ⟨_, getFileHistory_incomplete hrefused, fun _ => ⟨rfl, rfl⟩, fun h => absurd hrefused h⟩
  · obtain ⟨message, hresponse⟩ := getFileHistory_complete (i := i) hrefused hfiles
    obtain ⟨left, hpage⟩ :=
      exists_isPage (r := newestFirst) request.limit (files.filter (InRange i request))
    rw [← applyHistoryFilters_eq] at hpage
    refine ⟨_, hresponse, fun h => absurd h hrefused, fun _ =>
      ⟨_, left, rfl, fun f hf => ?_, hpage⟩⟩
    have hmem := hpage.perm.subset (List.mem_append_left left hf)
    simpa using (List.mem_filter.1 hmem).2

end

/-- A version of a file, uploaded at a time. -/
def versionAt (revision seconds : ℤ) : SyncFile :=
  ⟨"1", "account", "device", 1, 1, 7, "a.txt", "hash", "~/a.txt", 10, "", 0, false,
    ⟨seconds, 0⟩, ⟨seconds, 0⟩, false, revision⟩

/-- A request for the versions of that file from a time on. -/
def historyFrom (accountHash : String) (startTime : Option Timestamp) : GetFileHistoryRequest :=
  ⟨accountHash, "~/a.txt", startTime, none, none, 1⟩

/-- What is stored of the file: two versions. -/
def twoVersions (_ _ : String) (_ : ℤ) : Except StorageError (List SyncFile) :=
  .ok [versionAt 1 100, versionAt 2 200]

/-- The clock of the samples. -/
def historyClock : HistoryInputs := ⟨⟨300, 0⟩, ⟨300, 0⟩⟩

theorem getFileHistory_isPage_twoVersions :
    twoVersions "account" "~/a.txt" 1 = .ok [versionAt 1 100, versionAt 2 200] ∧
      ∃ response, VersionService.getFileHistory twoVersions historyClock
          (historyFrom "account" none) = .ok response ∧
        ((historyFrom "account" none).Incomplete →
          response.success = false ∧ response.versions = []) ∧
        (¬(historyFrom "account" none).Incomplete → ∃ kept left,
          response.versions = kept.map (·.toVersionInfo none) ∧
          (∀ f ∈ kept, InRange historyClock (historyFrom "account" none) f) ∧
          IsPage newestFirst (historyFrom "account" none).limit
            ([versionAt 1 100, versionAt 2 200].filter
              (InRange historyClock (historyFrom "account" none))) kept left) :=
  ⟨rfl, getFileHistory_isPage rfl⟩

/-- Without an account nothing is returned, whatever is stored. -/
theorem getFileHistory_no_account :
    ¬∃ response kept left,
      VersionService.getFileHistory twoVersions historyClock (historyFrom "" none) = .ok response ∧
        response.versions = kept.map (·.toVersionInfo none) ∧
        IsPage newestFirst (historyFrom "" none).limit
          ([versionAt 1 100, versionAt 2 200].filter (InRange historyClock (historyFrom "" none)))
            kept left := by
  rintro ⟨response, kept, left, hresponse, hversions, hpage⟩
  rw [getFileHistory_incomplete (by decide)] at hresponse
  cases hresponse
  have hkept : kept = [] := List.map_eq_nil_iff.1 hversions.symm
  subst hkept
  have hleft : left = [] := by
    refine hpage.nothing_left ?_
    rintro _ ⟨⟩
    decide
  subst hleft
  exact absurd hpage.perm (by decide)

/-! ## More of the history -/

section

variable {i : HistoryInputs} {request : GetFileHistoryRequest}
  {storage : String → String → ℤ → Except StorageError (List SyncFile)} {files : List SyncFile}

/-- What `has_more` is to tell: the limit has left out versions in the range, and a greater
    limit gets more of them. -/
structure TellsMore (storage : String → String → ℤ → Except StorageError (List SyncFile))
    (i : HistoryInputs) (request : GetFileHistoryRequest) (files : List SyncFile)
    (response : GetFileHistoryResponse) : Prop where
  left_out : response.hasMore = true ↔
    ¬request.Incomplete ∧ response.versions.length < (files.filter (InRange i request)).length
  again : ∀ maxVersions : ℤ, 0 < maxVersions → (∀ n ∈ request.limit, (n : ℤ) < maxVersions) →
    ∀ response', VersionService.getFileHistory storage i
        { request with maxVersions := some maxVersions } = .ok response' →
      (response.versions.length < response'.versions.length ↔ response.hasMore = true)

/-- A count tells whether there is more than the limit: where the limit leaves out versions
    in the range, it is greater than the limit, and else not greater than the number of
    versions in the range. -/
def Counted (limit : Option ℕ) (count inRange : ℕ) : Prop :=
  if limit.any (· < inRange) then limit.any (· < count) = true else count ≤ inRange

instance (limit : Option ℕ) (count inRange : ℕ) : Decidable (Counted limit count inRange) :=
  inferInstanceAs (Decidable (ite _ _ _))

theorem asU64_asI32 {n : ℕ} (h : n < 2 ^ 31) : asU64 (asI32 n) = n := by
  have hi32 : asI32 n = n := Int.bmod_eq_of_le (by omega) (by omega)
  rw [hi32, asU64]
  omega

/-- As long as the number of versions is an `i32`: the limit leaves out versions in the range, or
    none is stored outside of it. -/
theorem counted_stored_iff {limit : Option ℕ} {stored inRange : ℕ} (hle : inRange ≤ stored)
    (h : stored < 2 ^ 31) :
    Counted limit (asU64 (asI32 stored)) inRange ↔ limit.any (· < inRange) ∨ inRange = stored := by
  rw [Counted, asU64_asI32 h]
  split
  next hlimit =>
    refine iff_of_true ?_ (.inl hlimit)
    rw [Option.any_eq_true] at hlimit ⊢
    obtain ⟨n, hn, hlt⟩ := hlimit
    exact ⟨n, hn, by simp only [decide_eq_true_eq] at hlt ⊢; omega⟩
  next hlimit =>
    rw [or_iff_right hlimit]
    omega

theorem length_applyHistoryFilters (files : List SyncFile) :
    (applyHistoryFilters i request files).length =
      request.limit.elim (files.filter (InRange i request)).length
        (min · (files.filter (InRange i request)).length) := by
  rw [applyHistoryFilters_eq, length_cut, List.length_insertionSort]

/-- The comparison of a page with a count, for that with the versions in the range. -/
theorem counted_iff_lt_iff {limit : Option ℕ} {count inRange : ℕ} :
    Counted limit count inRange ↔
      (limit.elim inRange (min · inRange) < count ↔
        limit.elim inRange (min · inRange) < inRange) := by
  rw [Counted]
  rcases limit with _ | n
  · simp
  · simp only [Option.any_some, Option.elim_some, decide_eq_true_eq]
    split <;> omega

/-- A greater limit gets more, where the limit has left out anything. -/
theorem lt_length_again_iff {limit : Option ℕ} {maxVersions : ℕ} (inRange : ℕ)
    (h : ∀ n ∈ limit, n < maxVersions) :
    limit.elim inRange (min · inRange) < min maxVersions inRange ↔
      limit.elim inRange (min · inRange) < inRange := by
  rcases limit with _ | n
  · simp
  · have hn : n < maxVersions := h n rfl
    simp only [Option.elim_some]
    omega

/-- `has_more` tells whether there is more, exactly when the stored versions are counted in the
    place of those in the range without a difference. -/
theorem getFileHistory_tellsMore_iff {response : GetFileHistoryResponse}
    (hfiles : storage request.accountHash request.filePath request.groupId = .ok files)
    (hresponse : VersionService.getFileHistory storage i request = .ok response) :
    TellsMore storage i request files response ↔
      request.Incomplete ∨
        Counted request.limit (asU64 (asI32 files.length))
          (files.filter (InRange i request)).length := by
  by_cases hrefused : request.Incomplete
  · rw [getFileHistory_incomplete hrefused] at hresponse
    cases hresponse
    refine iff_of_true ⟨?_, fun maxVersions _ _ response' hresponse' => ?_⟩ (.inl hrefused)
    · simp [hrefused]
    · have hrefused' : { request with maxVersions := some maxVersions }.Incomplete := hrefused
      rw [getFileHistory_incomplete hrefused'] at hresponse'
      cases hresponse'
      simp
  · obtain ⟨message, heq⟩ := getFileHistory_complete (i := i) hrefused hfiles
    rw [heq] at hresponse
    cases hresponse
    rw [or_iff_right hrefused, counted_iff_lt_iff, ← length_applyHistoryFilters]
    constructor
    · intro h
      simpa [hrefused] using h.left_out
    · intro h
      refine ⟨by simpa [hrefused] using h, fun maxVersions hpos hlimit response' hresponse' => ?_⟩
      have hrefused' : ¬{ request with maxVersions := some maxVersions }.Incomplete := hrefused
      obtain ⟨message', heq'⟩ := getFileHistory_complete (i := i) hrefused' hfiles
      rw [heq'] at hresponse'
      cases hresponse'
      -- The greater limit changes neither the range nor what is stored.
      have hagain : (applyHistoryFilters i { request with maxVersions := some maxVersions }
        files).length =
          min maxVersions.toNat (files.filter (InRange i request)).length := by
        rw [length_applyHistoryFilters, GetFileHistoryRequest.limit]
        dsimp only
        rw [if_pos hpos]
        rfl
      have hgreater : ∀ n ∈ request.limit, n < maxVersions.toNat := fun n hn => by
        have hlt := hlimit n hn
        omega
      have hlonger := lt_length_again_iff (files.filter (InRange i request)).length hgreater
      rw [← length_applyHistoryFilters, ← h, ← hagain] at hlonger
      simpa using hlonger

end

theorem getFileHistory_tellsMore_twoVersions :
    twoVersions "account" "~/a.txt" 1 = .ok [versionAt 1 100, versionAt 2 200] ∧
      ∃ response, VersionService.getFileHistory twoVersions historyClock
          (historyFrom "account" none) = .ok response ∧
        (TellsMore twoVersions historyClock (historyFrom "account" none)
            [versionAt 1 100, versionAt 2 200] response ↔
          (historyFrom "account" none).Incomplete ∨
            Counted (historyFrom "account" none).limit
              (asU64 (asI32 [versionAt 1 100, versionAt 2 200].length))
              ([versionAt 1 100, versionAt 2 200].filter
                (InRange historyClock (historyFrom "account" none))).length) :=
  ⟨rfl, _, rfl, getFileHistory_tellsMore_iff rfl rfl⟩

/-- The newer of two versions is asked for: there is no other in the range, but `has_more` is
    set. -/
theorem getFileHistory_hasMore_outside :
    ∃ response,
      VersionService.getFileHistory twoVersions historyClock
          (historyFrom "account" (some ⟨150, 0⟩)) = .ok response ∧
        response.hasMore = true ∧
        response.versions.length = ([versionAt 1 100, versionAt 2 200].filter
          (InRange historyClock (historyFrom "account" (some ⟨150, 0⟩)))).length ∧
        ¬TellsMore twoVersions historyClock (historyFrom "account" (some ⟨150, 0⟩))
          [versionAt 1 100, versionAt 2 200] response := by
  refine ⟨_, rfl, by decide, by decide, fun h => ?_⟩
  have hlt := (h.left_out.1 (by decide)).2
  exact absurd hlt (by decide)

end CosmicSync
