import CosmicSync.Library.Run
import CosmicSync.Services.FileData

/-!
# The objects in S3

`S3FileStorage` of `storage/file_storage.rs`: the data of a file is an object of a bucket, under
the prefix of the configuration and the file id. Before it first uploads, the storage looks for
the bucket, and creates it if there is none. What comes of this is kept in a `OnceCell`, an error
also: it is returned by every later upload, until the server restarts. An upload that fails for
want of the bucket creates it, and is tried once more.

Every request to S3 may fail, with the text of its error, and a write that fails may have been
done all the same. The client is made without a request, and its making does not fail. All
errors are a `StorageError::S3Error`, which is given by its message.

* `decided_run`: the first look for the bucket decides whether any upload succeeds.
* `refines_run`: the storage is a map from file ids to data, if requests that fail do nothing.
-/

namespace CosmicSync

open Run

/-! ## Requests to S3 -/

/-- The bucket: it does not exist, belongs to another account, or has objects by their keys. -/
inductive Bucket where
  | missing
  | foreign
  | own (objects : String → Option ByteArray)

/-- What a request meets: the text of the error it fails with, if it does; whether it is done
    then all the same; and the text of a refusal. -/
structure S3Reply where
  fault : Option String
  applied : Bool
  refusal : String

/-- A request that fails is not done. -/
def S3Reply.Clean (reply : S3Reply) : Prop := reply.fault ≠ none → reply.applied = false

namespace Bucket

/-- The objects of the bucket, if there is one. -/
def objects : Bucket → String → Option ByteArray
  | own objects => objects
  | missing | foreign => fun _ => none

/-- A write of an object, if there is a bucket. -/
def write (key : String) (data : Option ByteArray) : Bucket → Bucket
  | own objects => own (Function.update objects key data)
  | missing => missing
  | foreign => foreign

/-- `head_bucket`: the error `none` is `HeadBucketError::NotFound`. -/
def headBucket (b : Bucket) (reply : S3Reply) : Except (Option String) Unit :=
  match reply.fault, b with
  | some e, _ => .error (some e)
  | none, own _ => .ok ()
  | none, missing => .error none
  | none, foreign => .error (some reply.refusal)

/-- `create_bucket` of the client, and of the storage: a bucket that is the account's already is
    fine. -/
def createBucket (name : String) (b : Bucket) (reply : S3Reply) : Except String Unit × Bucket :=
  match reply.fault, b with
  | some e, missing =>
    (.error ("Failed to create bucket: " ++ e),
      if reply.applied then own fun _ => none else missing)
  | some e, b => (.error ("Failed to create bucket: " ++ e), b)
  | none, missing => (.ok (), own fun _ => none)
  | none, foreign => (.error ("Bucket already exists: " ++ name), foreign)
  | none, own objects => (.ok (), own objects)

/-- `put_object`. -/
def putObject (b : Bucket) (reply : S3Reply) (key : String) (data : ByteArray) :
    Except String Unit × Bucket :=
  match reply.fault, b with
  | some e, b => (.error e, if reply.applied then b.write key (some data) else b)
  | none, own objects => (.ok (), own (Function.update objects key (some data)))
  | none, b => (.error reply.refusal, b)

/-- `head_object`, and the data that a `get_object` would find: an answer without a body does not
    tell a missing bucket from a missing object. -/
def headObject (b : Bucket) (reply : S3Reply) (key : String) : Except String (Option ByteArray) :=
  match reply.fault, b with
  | some e, _ => .error e
  | none, foreign => .error reply.refusal
  | none, b => .ok (b.objects key)

end Bucket

/-! ## The storage -/

/-- The fields of `S3Config` that requests are made of. -/
structure S3Config where
  bucket : String
  keyPrefix : String

/-- The storage, and the bucket. -/
structure S3FileStorage where
  bucket : Bucket
  bucketReady : Option (Except String Unit)

/-- What the requests of an upload meet, in their order. -/
structure UploadReplies where
  head : S3Reply
  create : S3Reply
  put : S3Reply
  retryCreate : S3Reply
  retryPut : S3Reply

/-- `generate_s3_key`. -/
def S3Config.generateS3Key (config : S3Config) (fileId : ℕ) : String :=
  config.keyPrefix ++ toString fileId

/-- The display of a `StorageError::S3Error`. -/
def s3Display (msg : String) : String := "S3 error: " ++ msg

namespace S3FileStorage

variable (config : S3Config) (s : S3FileStorage)

/-- `S3FileStorage::new`. -/
def new (bucket : Bucket) : S3FileStorage := ⟨bucket, none⟩

/-- `ensure_bucket_exists`. -/
def ensureBucketExists (i : UploadReplies) : Except String Unit × Bucket :=
  match s.bucket.headBucket i.head with
  | .ok () => (.ok (), s.bucket)
  | .error none => s.bucket.createBucket config.bucket i.create
  | .error (some e) => (.error ("Failed to check bucket existence: " ++ e), s.bucket)

/-- `ensure_bucket_exists_once`: the first result is kept, whether an error or not. -/
def ensureBucketExistsOnce (i : UploadReplies) : Except String Unit × S3FileStorage :=
  match s.bucketReady with
  | some (.ok ()) => (.ok (), s)
  | some (.error e) => (.error ("Bucket ensure failed: " ++ s3Display e), s)
  | none =>
    match s.ensureBucketExists config i with
    | (.ok (), bucket) => (.ok (), ⟨bucket, some (.ok ())⟩)
    | (.error e, bucket) =>
      (.error ("Bucket ensure failed: " ++ s3Display e), ⟨bucket, some (.error e)⟩)

/-- `upload_to_s3`. -/
def uploadToS3 (i : UploadReplies) (put : S3Reply) (key : String) (data : ByteArray) :
    Except String String × S3FileStorage :=
  match s.ensureBucketExistsOnce config i with
  | (.error e, s) => (.error e, s)
  | (.ok (), s) =>
    match s.bucket.putObject put key data with
    | (.error e, bucket) =>
      (.error ("Failed to store file in S3: " ++ e), { s with bucket := bucket })
    | (.ok (), bucket) => (.ok ("s3:" ++ key), { s with bucket := bucket })

/-- The error may be due to a missing bucket. -/
def IsMissingBucket (msg : String) : Prop :=
  "NoSuchBucket".toList <:+: msg.toList ∨ "BucketNotFound".toList <:+: msg.toList

instance (msg : String) : Decidable (IsMissingBucket msg) := inferInstanceAs (Decidable (_ ∨ _))

/-- `store_file_data`. -/
def storeFileData (i : UploadReplies) (fileId : ℕ) (data : ByteArray) :
    Except String String × S3FileStorage :=
  let key := config.generateS3Key fileId
  match s.uploadToS3 config i i.put key data with
  | (.ok result, s) => (.ok result, s)
  | (.error e, s) =>
    if IsMissingBucket e then
      match s.bucket.createBucket config.bucket i.retryCreate with
      | (.error e, bucket) => (.error e, { s with bucket := bucket })
      | (.ok (), bucket) => uploadToS3 config { s with bucket := bucket } i i.retryPut key data
    else (.error e, s)

/-- `get_file_data`; the body of an answer may also fail to be read. -/
def getFileData (reply : S3Reply) (body : Option String) (fileId : ℕ) :
    Except String (Option ByteArray) :=
  match reply.fault, s.bucket, body with
  | some e, _, _ => .error ("Failed to download file: " ++ e)
  | none, .own objects, some e =>
    if (objects (config.generateS3Key fileId)).isSome then .error ("Failed to read response: " ++ e)
    else .ok none
  | none, .own objects, none => .ok (objects (config.generateS3Key fileId))
  | none, _, _ => .error ("Failed to download file: " ++ reply.refusal)

/-- `delete_file_data`: an error is logged only. -/
def deleteFileData (reply : S3Reply) (fileId : ℕ) : Except String Unit × S3FileStorage :=
  if reply.fault = none ∨ reply.applied then
    (.ok (), { s with bucket := s.bucket.write (config.generateS3Key fileId) none })
  else (.ok (), s)

/-- `file_data_exists`. -/
def fileDataExists (reply : S3Reply) (fileId : ℕ) : Except String Bool :=
  match s.bucket.headObject reply (config.generateS3Key fileId) with
  | .ok data => .ok data.isSome
  | .error e => .error ("Failed to check file existence: " ++ e)

/-- `get_file_size`. -/
def getFileSize (reply : S3Reply) (fileId : ℕ) : Except String (Option ℕ) :=
  match s.bucket.headObject reply (config.generateS3Key fileId) with
  | .ok data => .ok (data.map ByteArray.size)
  | .error e => .error ("Failed to get file size: " ++ e)

/-- `batch_delete_file_data`: with a reply for each file. -/
def batchDeleteFileData : S3FileStorage → List (ℕ × S3Reply) → List (ℕ × Bool) × S3FileStorage
  | s, [] => ([], s)
  | s, (fileId, reply) :: files =>
    match s.deleteFileData config reply fileId with
    | (res, s) =>
      match s.batchDeleteFileData files with
      | (results, s) => ((fileId, res.isOk) :: results, s)

/-- The data of the files. -/
def data (fileId : ℕ) : Option ByteArray := s.bucket.objects (config.generateS3Key fileId)

/-! ## What the requests do to the objects -/

variable {config s} {s' : S3FileStorage} {i : UploadReplies} {put reply : S3Reply} {b : Bucket}
  {key name : String} {fileId fileId' : ℕ} {data : ByteArray} {e : String}

/-- A decimal number is read off its digits, so that the keys of different files differ. -/
theorem generateS3Key_inj :
    config.generateS3Key fileId = config.generateS3Key fileId' ↔ fileId = fileId' := by
  refine ⟨fun h => ?_, congrArg _⟩
  have hrepr : toString fileId = toString fileId' := String.append_right_inj _ |>.1 h
  have hdigits : Nat.toDigits 10 fileId = Nat.toDigits 10 fileId' :=
    String.ofList_injective hrepr
  calc fileId = Nat.ofDigitChars 10 (Nat.toDigits 10 fileId) 0 := Nat.ofDigitChars_ten_toDigits.symm
    _ = fileId' := by rw [hdigits, Nat.ofDigitChars_ten_toDigits]

theorem objects_createBucket : (b.createBucket name reply).2.objects = b.objects := by
  unfold Bucket.createBucket
  split
  next => split <;> rfl
  next => rfl
  next => rfl
  next => rfl
  next => rfl

theorem objects_ensureBucketExists :
    (s.ensureBucketExists config i).2.objects = s.bucket.objects := by
  unfold ensureBucketExists
  split
  next => rfl
  next => exact objects_createBucket
  next => rfl

theorem objects_write_own {objects : String → Option ByteArray} {found : Option ByteArray} :
    ((Bucket.own objects).write key found).objects = Function.update objects key found := rfl

/-- The storage after the first look for the bucket, or a later one. -/
theorem ensureBucketExistsOnce_cases :
    (∃ res, s.bucketReady = some res ∧ (s.ensureBucketExistsOnce config i).2 = s ∧
      ((s.ensureBucketExistsOnce config i).1 = .ok () ↔ res = .ok ())) ∨
    s.bucketReady = none ∧
      (s.ensureBucketExistsOnce config i).2.bucketReady = some (s.ensureBucketExists config i).1 ∧
      (s.ensureBucketExistsOnce config i).2.bucket = (s.ensureBucketExists config i).2 ∧
      ((s.ensureBucketExistsOnce config i).1 = .ok () ↔
        (s.ensureBucketExists config i).1 = .ok ()) := by
  unfold ensureBucketExistsOnce
  cases hready : s.bucketReady with
  | some res =>
    cases res with
    | ok => exact .inl ⟨_, rfl, rfl, Iff.rfl⟩
    | error e => exact .inl ⟨_, rfl, rfl, by simp⟩
  | none =>
    rcases hensure : s.ensureBucketExists config i with ⟨res, bucket⟩
    cases res with
    | ok => exact .inr ⟨rfl, rfl, rfl, Iff.rfl⟩
    | error e => exact .inr ⟨rfl, rfl, rfl, by simp⟩

theorem putObject_ok {b' : Bucket} (h : b.putObject put key data = (.ok (), b')) :
    b'.objects = Function.update b.objects key (some data) := by
  unfold Bucket.putObject at h
  split at h
  next => cases h
  next =>
    cases h
    rfl
  next => cases h

/-- What fails has been done all the same, or not. -/
theorem putObject_error {b' : Bucket} (h : b.putObject put key data = (.error e, b')) :
    b'.objects = b.objects ∨
      (¬put.Clean ∧ b'.objects = Function.update b.objects key (some data)) := by
  unfold Bucket.putObject at h
  cases hfault : put.fault with
  | some e' =>
    rw [hfault] at h
    dsimp only at h
    split at h
    next happlied =>
      cases h
      cases b with
      | own objects =>
        have hclean : ¬put.Clean := fun hclean => by
          rw [hclean (hfault ▸ Option.some_ne_none _)] at happlied
          cases happlied
        exact .inr ⟨hclean, rfl⟩
      | _ => exact .inl rfl
    next =>
      cases h
      exact .inl rfl
  | none =>
    rw [hfault] at h
    cases b with
    | own objects => cases h
    | _ =>
      cases h
      exact .inl rfl

theorem objects_ensureBucketExistsOnce :
    (s.ensureBucketExistsOnce config i).2.bucket.objects = s.bucket.objects := by
  have hcases := @ensureBucketExistsOnce_cases config s i
  obtain ⟨-, -, hs, -⟩ | ⟨-, -, hbucket, -⟩ := hcases
  · rw [hs]
  · rw [hbucket, objects_ensureBucketExists]

theorem uploadToS3_ok {result : String}
    (h : s.uploadToS3 config i put key data = (.ok result, s')) :
    s'.bucket.objects = Function.update s.bucket.objects key (some data) := by
  have hobjects := @objects_ensureBucketExistsOnce config s i
  unfold uploadToS3 at h
  split at h
  next => cases h
  next s₁ hensure =>
    split at h
    next => cases h
    next bucket hput =>
      cases h
      rw [hensure] at hobjects
      rw [← hobjects]
      exact putObject_ok hput

theorem uploadToS3_error (h : s.uploadToS3 config i put key data = (.error e, s')) :
    s'.bucket.objects = s.bucket.objects ∨
      (¬put.Clean ∧ s'.bucket.objects = Function.update s.bucket.objects key (some data)) := by
  have hobjects := @objects_ensureBucketExistsOnce config s i
  unfold uploadToS3 at h
  split at h
  next e' s₁ hensure =>
    cases h
    rw [hensure] at hobjects
    exact .inl hobjects
  next s₁ hensure =>
    rw [hensure] at hobjects
    split at h
    next e' bucket hbucket =>
      cases h
      rw [← hobjects]
      exact putObject_error hbucket
    next => cases h

/-- An upload ends after its first attempt, or has found no bucket, and tries again. -/
theorem storeFileData_cases :
    (∃ result s', s.uploadToS3 config i i.put (config.generateS3Key fileId) data =
        (.ok result, s') ∧ s.storeFileData config i fileId data = (.ok result, s')) ∨
      ∃ e s₁, s.uploadToS3 config i i.put (config.generateS3Key fileId) data = (.error e, s₁) ∧
        ((∃ (e' : String) (s' : S3FileStorage), s'.bucket.objects = s₁.bucket.objects ∧
            s'.bucketReady = s₁.bucketReady ∧
            s.storeFileData config i fileId data = (.error e', s')) ∨
          ∃ s₂ : S3FileStorage, s₂.bucket.objects = s₁.bucket.objects ∧
            s₂.bucketReady = s₁.bucketReady ∧
            s.storeFileData config i fileId data =
              s₂.uploadToS3 config i i.retryPut (config.generateS3Key fileId) data) := by
  dsimp only [storeFileData]
  split
  next result s' hupload => exact .inl ⟨result, s', hupload, rfl⟩
  next e s₁ hupload =>
    refine .inr ⟨e, s₁, hupload, ?_⟩
    have hobjects := @objects_createBucket i.retryCreate s₁.bucket config.bucket
    split
    next =>
      split
      next e' bucket hcreate =>
        rw [hcreate] at hobjects
        exact .inl ⟨e', ⟨bucket, s₁.bucketReady⟩, hobjects, rfl, rfl⟩
      next bucket hcreate =>
        rw [hcreate] at hobjects
        exact .inr ⟨⟨bucket, s₁.bucketReady⟩, hobjects, rfl, rfl⟩
    next => exact .inl ⟨e, s₁, rfl, rfl, rfl⟩

theorem data_of_objects
    (h : s'.bucket.objects =
      Function.update s.bucket.objects (config.generateS3Key fileId) (some data)) :
    s'.data config = Function.update (s.data config) fileId (some data) := by
  funext fileId'
  rw [S3FileStorage.data, h]
  by_cases hid : fileId' = fileId
  · rw [hid, Function.update_self, Function.update_self]
  · rw [Function.update_of_ne hid, Function.update_of_ne fun hkey => hid (generateS3Key_inj.1 hkey)]
    rfl

/-- An upload that succeeds has written its object, and no other. -/
theorem storeFileData_ok {result : String}
    (h : s.storeFileData config i fileId data = (.ok result, s')) :
    s'.data config = Function.update (s.data config) fileId (some data) := by
  refine data_of_objects ?_
  obtain ⟨result', s₁, hupload, heq⟩ | ⟨e, s₁, hupload, ⟨e', s₂, -, -, heq⟩ |
    ⟨s₂, hobjects, -, heq⟩⟩ := @storeFileData_cases config s i fileId data
  · cases heq.symm.trans h
    exact uploadToS3_ok hupload
  · cases heq.symm.trans h
  · rw [uploadToS3_ok (heq.symm.trans h), hobjects]
    -- Whatever the first attempt has done, the second one has done it again.
    rcases uploadToS3_error hupload with hsame | ⟨-, hdone⟩
    · rw [hsame]
    · rw [hdone, Function.update_idem]

/-- One that fails has written nothing, if what fails is not done. -/
theorem storeFileData_error (h : s.storeFileData config i fileId data = (.error e, s'))
    (hput : i.put.Clean) (hretry : i.retryPut.Clean) : s'.data config = s.data config := by
  have hupload : ∀ {s s' : S3FileStorage} {put : S3Reply} {e : String}, put.Clean →
      s.uploadToS3 config i put (config.generateS3Key fileId) data = (.error e, s') →
      s'.bucket.objects = s.bucket.objects := fun hclean hupload =>
    (uploadToS3_error hupload).resolve_right fun hdone => hdone.1 hclean
  suffices hobjects : s'.bucket.objects = s.bucket.objects by
    funext fileId'
    rw [S3FileStorage.data, hobjects]
    rfl
  obtain ⟨result, s₁, -, heq⟩ | ⟨e₁, s₁, hfirst, ⟨e', s₂, hsame, -, heq⟩ |
    ⟨s₂, hsame, -, heq⟩⟩ := @storeFileData_cases config s i fileId data
  · cases heq.symm.trans h
  · cases heq.symm.trans h
    exact hsame.trans (hupload hput hfirst)
  · exact (hupload hretry (heq.symm.trans h)).trans (hsame.trans (hupload hput hfirst))

/-- Also to the file service, an upload that succeeds puts the data under the file id. -/
theorem data_eq_putObject (st : DataStore) {result : String} (hst : st.objects = s.data config)
    (h : s.storeFileData config i fileId data = (.ok result, s')) :
    s'.data config = st.putObject .s3 fileId data := by
  rw [storeFileData_ok h, DataStore.putObject, hst]

/-! ## The first look for the bucket -/

/-- What the storage keeps of its first look for the bucket. -/
def ready (config : S3Config) (s : S3FileStorage) (i : UploadReplies) : Except String Unit :=
  s.bucketReady.getD (s.ensureBucketExists config i).1

theorem bucketReady_uploadToS3 :
    (s.uploadToS3 config i put key data).2.bucketReady = some (s.ready config i) := by
  have hensure : (s.ensureBucketExistsOnce config i).2.bucketReady = some (s.ready config i) := by
    have hcases := @ensureBucketExistsOnce_cases config s i
    obtain ⟨res, hready, hs, -⟩ | ⟨hready, hs, -⟩ := hcases
    · rw [hs, ready, hready, Option.getD_some]
    · rw [hs, ready, hready, Option.getD_none]
  unfold uploadToS3
  split
  next e s₁ hs₁ =>
    rw [hs₁] at hensure
    exact hensure
  next s₁ hs₁ =>
    rw [hs₁] at hensure
    split <;> exact hensure

theorem bucketReady_storeFileData :
    (s.storeFileData config i fileId data).2.bucketReady = some (s.ready config i) := by
  have hfirst := @bucketReady_uploadToS3 config s i i.put (config.generateS3Key fileId) data
  obtain ⟨result, s₁, hupload, heq⟩ | ⟨e, s₁, hupload, ⟨e', s₂, -, hready, heq⟩ |
    ⟨s₂, -, hready, heq⟩⟩ := @storeFileData_cases config s i fileId data
  · rw [heq]
    rwa [hupload] at hfirst
  · rw [heq]
    rw [hupload] at hfirst
    exact hready.trans hfirst
  · rw [hupload] at hfirst
    rw [heq, bucketReady_uploadToS3, ready, hready, hfirst, Option.getD_some]

theorem uploadToS3_of_unready (h : s.bucketReady = some (.error e)) :
    s.uploadToS3 config i put key data =
      (.error ("Bucket ensure failed: " ++ s3Display e), s) := by
  rw [uploadToS3, ensureBucketExistsOnce, h]

/-- An error that is kept is returned by every upload, which does nothing to the data; not even a
    bucket that the upload creates changes this. -/
theorem storeFileData_of_unready (h : s.bucketReady = some (.error e)) :
    (s.storeFileData config i fileId data).1.isOk = false ∧
      (s.storeFileData config i fileId data).2.data config = s.data config := by
  have hdata : ∀ {s₁ : S3FileStorage}, s₁.bucket.objects = s.bucket.objects →
      s₁.data config = s.data config := fun hobjects => by
    funext fileId'
    rw [S3FileStorage.data, hobjects]
    rfl
  obtain ⟨result, s₁, hupload, -⟩ | ⟨e₁, s₁, hupload, ⟨e', s₂, hobjects, -, heq⟩ |
    ⟨s₂, hobjects, hready, heq⟩⟩ := @storeFileData_cases config s i fileId data
  · rw [uploadToS3_of_unready h] at hupload
    cases hupload
  · rw [uploadToS3_of_unready h] at hupload
    cases hupload
    rw [heq]
    exact ⟨rfl, hdata hobjects⟩
  · rw [uploadToS3_of_unready h] at hupload
    cases hupload
    rw [heq, uploadToS3_of_unready (hready.trans h)]
    exact ⟨rfl, hdata hobjects⟩

theorem storeFileData_of_ready {objects : String → Option ByteArray}
    (h : s.bucketReady = some (.ok ())) (hbucket : s.bucket = .own objects)
    (hput : i.put.fault = none) :
    (s.storeFileData config i fileId data).1 = .ok ("s3:" ++ config.generateS3Key fileId) := by
  have hdone : s.bucket.putObject i.put (config.generateS3Key fileId) data =
      (.ok (), .own (Function.update objects (config.generateS3Key fileId) (some data))) := by
    unfold Bucket.putObject
    rw [hbucket, hput]
  have hupload : (s.uploadToS3 config i i.put (config.generateS3Key fileId) data).1 =
      .ok ("s3:" ++ config.generateS3Key fileId) := by
    rw [uploadToS3, ensureBucketExistsOnce, h]
    dsimp only
    rw [hdone]
  dsimp only [storeFileData]
  split
  next heq =>
    rw [heq] at hupload
    exact hupload
  next heq =>
    rw [heq] at hupload
    cases hupload

/-! ## Runs -/

/-- The calls that write; and the bucket is created, emptied or taken away by others. -/
inductive Op where
  | store (i : UploadReplies) (fileId : ℕ) (data : ByteArray)
  | delete (reply : S3Reply) (fileId : ℕ)
  | batchDelete (files : List (ℕ × S3Reply))
  | bucketChanged (bucket : Bucket)

def step (config : S3Config) (s : S3FileStorage) : Op → S3FileStorage
  | .store i fileId data => (s.storeFileData config i fileId data).2
  | .delete reply fileId => (s.deleteFileData config reply fileId).2
  | .batchDelete files => (s.batchDeleteFileData config files).2
  | .bucketChanged bucket => { s with bucket := bucket }

theorem bucketReady_deleteFileData :
    (s.deleteFileData config reply fileId).2.bucketReady = s.bucketReady := by
  unfold deleteFileData
  split <;> rfl

theorem bucketReady_batchDeleteFileData {files : List (ℕ × S3Reply)} :
    (s.batchDeleteFileData config files).2.bucketReady = s.bucketReady := by
  induction files generalizing s with
  | nil => rfl
  | cons file files ih => exact ih.trans bucketReady_deleteFileData

/-- What is kept of the first look stays. -/
theorem bucketReady_run {res : Except String Unit} {ops : List Op} (h : s.bucketReady = some res) :
    (run (step config) s ops).bucketReady = some res := by
  refine run_invariant (I := fun s : S3FileStorage => s.bucketReady = some res) (fun s o hs => ?_) h
  cases o with
  | store i fileId data =>
    exact bucketReady_storeFileData.trans (by rw [ready, hs, Option.getD_some])
  | delete reply fileId => exact bucketReady_deleteFileData.trans hs
  | batchDelete files => exact bucketReady_batchDeleteFileData.trans hs
  | bucketChanged bucket => exact hs

/-- The first upload after a start decides for good whether the server stores data in S3: if it
    has failed to find or to create the bucket, every later upload fails, and changes no data,
    whatever becomes of the bucket; otherwise one that S3 accepts succeeds. -/
theorem decided_run {ops : List Op} {i₀ : UploadReplies} {fileId₀ : ℕ} {data₀ : ByteArray}
    (hs : s.bucketReady = none) :
    (∀ e, (s.ensureBucketExists config i₀).1 = .error e →
      Guarded (step config) (fun s o => ∀ i fileId data, o = .store i fileId data →
        (s.storeFileData config i fileId data).1.isOk = false ∧
          (step config s o).data config = s.data config)
        (s.storeFileData config i₀ fileId₀ data₀).2 ops) ∧
    ((s.ensureBucketExists config i₀).1 = .ok () →
      Guarded (step config) (fun s o => ∀ i fileId data objects, o = .store i fileId data →
        s.bucket = .own objects → i.put.fault = none →
          (s.storeFileData config i fileId data).1 = .ok ("s3:" ++ config.generateS3Key fileId))
        (s.storeFileData config i₀ fileId₀ data₀).2 ops) := by
  have hready : ∀ res, (s.ensureBucketExists config i₀).1 = res →
      (s.storeFileData config i₀ fileId₀ data₀).2.bucketReady = some res := by
    rintro res rfl
    rw [bucketReady_storeFileData, ready, hs, Option.getD_none]
  have hkeeps : ∀ res (s : S3FileStorage) o, s.bucketReady = some res →
      (step config s o).bucketReady = some res := fun res s o h =>
    (bucketReady_run h : (run (step config) s [o]).bucketReady = some res)
  constructor
  · intro e he
    refine Guarded.of_invariant (I := fun s => s.bucketReady = some (.error e))
      (fun s o _ h => ⟨?_, hkeeps _ s o h⟩) (hready _ he)
    rintro i fileId data rfl
    exact storeFileData_of_unready h
  · intro hok
    refine Guarded.of_invariant (I := fun s => s.bucketReady = some (.ok ()))
      (fun s o _ h => ⟨?_, hkeeps _ s o h⟩) (hready _ hok)
    rintro i fileId data objects rfl hbucket hput
    exact storeFileData_of_ready h hbucket hput

/-- A server in a region where the bucket cannot be looked at when the first file is uploaded. -/
def sampleReply (fault : Option String) : S3Reply := ⟨fault, false, "service error"⟩

def sampleReplies (fault : Option String) : UploadReplies :=
  ⟨sampleReply fault, sampleReply none, sampleReply none, sampleReply none, sampleReply none⟩

/-- The bucket is there, and nothing fails any more. -/
theorem decided_sampleReplies :
    (((new (.own fun _ => none)).storeFileData ⟨"files", "f/"⟩ (sampleReplies (some "timeout")) 7
      ⟨#[1]⟩).2.storeFileData ⟨"files", "f/"⟩ (sampleReplies none) 8 ⟨#[2]⟩).1.isOk = false := by
  have h := (@decided_run ⟨"files", "f/"⟩ (new (.own fun _ => none))
    [.store (sampleReplies none) 8 ⟨#[2]⟩] (sampleReplies (some "timeout")) 7 ⟨#[1]⟩ rfl).1 _ rfl
  exact (h.1 _ _ _ rfl).1

/-! ## A map from files to data -/

/-- The objects without those of some files. -/
def removeObjects (objects : ℕ → Option ByteArray) (fileIds : List ℕ) : ℕ → Option ByteArray :=
  fileIds.foldl (fun objects fileId => Function.update objects fileId none) objects

/-- The storage, and the objects that the file service takes it to hold, after a call. -/
def record (config : S3Config) (s : S3FileStorage × DataStore) (o : Op) :
    S3FileStorage × DataStore :=
  match o with
  | .store i fileId data =>
    match s.1.storeFileData config i fileId data with
    | (.ok _, s') => (s', { s.2 with objects := s.2.putObject .s3 fileId data })
    | (.error _, s') => (s', s.2)
  | .delete _ fileId =>
    (step config s.1 o, { s.2 with objects := Function.update s.2.objects fileId none })
  | .batchDelete files =>
    (step config s.1 o, { s.2 with objects := removeObjects s.2.objects (files.map Prod.fst) })
  | .bucketChanged _ => (step config s.1 o, s.2)

/-- What fails is not done, no deletion fails, and the others leave the data alone. -/
def Honest (config : S3Config) (s : S3FileStorage × DataStore) : Op → Prop
  | .store i _ _ => i.put.Clean ∧ i.retryPut.Clean
  | .delete reply _ => reply.fault = none
  | .batchDelete files => ∀ file ∈ files, file.2.fault = none
  | .bucketChanged bucket => ∀ fileId,
    bucket.objects (config.generateS3Key fileId) = s.1.data config fileId

theorem data_deleteFileData (h : reply.fault = none) :
    (s.deleteFileData config reply fileId).2.data config =
      Function.update (s.data config) fileId none := by
  funext fileId'
  rw [deleteFileData, if_pos (.inl h), S3FileStorage.data]
  dsimp only
  cases hbucket : s.bucket with
  | own objects =>
    rw [objects_write_own]
    by_cases hid : fileId' = fileId
    · rw [hid, Function.update_self, Function.update_self]
    · rw [Function.update_of_ne hid,
        Function.update_of_ne fun hkey => hid (generateS3Key_inj.1 hkey), S3FileStorage.data,
        hbucket]
      rfl
  | _ =>
    have hnone : s.data config = fun _ => none := by
      funext fileId
      rw [S3FileStorage.data, hbucket]
      rfl
    rw [hnone, Function.update_apply, ite_self]
    rfl

theorem data_batchDeleteFileData {files : List (ℕ × S3Reply)}
    (h : ∀ file ∈ files, file.2.fault = none) :
    (s.batchDeleteFileData config files).2.data config =
      removeObjects (s.data config) (files.map Prod.fst) := by
  induction files generalizing s with
  | nil => rfl
  | cons file files ih =>
    rw [removeObjects, List.map_cons, List.foldl_cons,
      ← data_deleteFileData (h file List.mem_cons_self)]
    exact ih fun file' hfile' => h file' (List.mem_cons_of_mem _ hfile')

/-- In every run in which S3 does nothing of what fails, the storage holds the objects that the
    file service takes it to hold: an answered upload has put its data, another one nothing, and
    a read that S3 answers returns what was put last and not deleted since. -/
theorem refines_run {ops : List Op} {st : DataStore} (hst : st.objects = s.data config)
    (h : Guarded (record config) (Honest config) (s, st) ops) :
    (run (record config) (s, st) ops).2.objects = (run (record config) (s, st) ops).1.data config ∧
      ∀ fileId objects, (run (record config) (s, st) ops).1.bucket = .own objects →
        reply.fault = none →
        (run (record config) (s, st) ops).1.getFileData config reply none fileId =
            .ok ((run (record config) (s, st) ops).2.fileStorageData .s3 fileId) ∧
          (run (record config) (s, st) ops).1.getFileSize config reply fileId =
            .ok (((run (record config) (s, st) ops).2.fileStorageData .s3 fileId).map
              ByteArray.size) := by
  have hrun : (run (record config) (s, st) ops).2.objects =
      (run (record config) (s, st) ops).1.data config := by
    refine h.invariant (I := fun s => s.2.objects = s.1.data config) (fun s o ho hs => ?_) hst
    cases o with
    | store i fileId data =>
      dsimp only [record]
      split
      next hstore => exact (data_eq_putObject s.2 hs hstore).symm
      next hstore => exact hs.trans (storeFileData_error hstore ho.1 ho.2).symm
    | delete reply fileId =>
      dsimp only [record, step]
      rw [data_deleteFileData ho, hs]
    | batchDelete files =>
      dsimp only [record, step]
      rw [data_batchDeleteFileData ho, hs]
    | bucketChanged bucket => exact hs.trans (funext ho).symm
  refine ⟨hrun, fun fileId objects hbucket hreply => ?_⟩
  rw [DataStore.fileStorageData, hrun, S3FileStorage.data]
  unfold getFileData getFileSize Bucket.headObject
  rw [hbucket, hreply]
  exact ⟨rfl, rfl⟩

/-- A file is stored, another upload fails, and the data of a third file is deleted. -/
def sampleOps : List Op :=
  [.store (sampleReplies none) 7 ⟨#[1]⟩,
    .store { sampleReplies none with put := sampleReply (some "timeout") } 8 ⟨#[2]⟩,
    .delete (sampleReply none) 9]

theorem refines_sampleOps :
    (run (record ⟨"files", "f/"⟩) (new .missing, .empty) sampleOps).1.getFileData ⟨"files", "f/"⟩
        (sampleReply none) none 7 =
      .ok ((run (record ⟨"files", "f/"⟩) (new .missing, .empty) sampleOps).2.fileStorageData
        .s3 7) := by
  have hguarded : Guarded (record ⟨"files", "f/"⟩) (Honest ⟨"files", "f/"⟩) (new .missing, .empty)
      sampleOps :=
    ⟨⟨fun _ => rfl, fun _ => rfl⟩, ⟨fun _ => rfl, fun _ => rfl⟩, rfl, trivial⟩
  exact ((refines_run rfl hguarded).2 7 _ rfl rfl).1

end S3FileStorage

end CosmicSync
