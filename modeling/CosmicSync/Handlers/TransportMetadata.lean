import CosmicSync.Handlers.FileHandler
import CosmicSync.Utils.Codecs

/-!
# Path and name on their way to a client

A client learns the path and the name of a file in four ways: from a listing, in the
initial sync of a subscription, by a live notification, and with a download. Each of
them reads the key of the account from its text, and encrypts the two with associated
data that names the account and the device. A `Protection` is the key and the data
that are used, or `none` for plain text.

The four do not agree on the text of the key: a download first takes it for hexadecimal
digits. And a live notification reads the device off the key of the subscriber.

* `protectsAlike_iff`: the four use the same protection, for the account and the device of
  the recipient, iff the text is not 64 hexadecimal digits, and there is no key, or the
  account and the device have no colon, or the device is the source itself.
-/

namespace CosmicSync

/-- The key and the associated data that a text is encrypted with, if it is. -/
abbrev Protection := Option (Key32 × String)

namespace Crypto

variable (C : Crypto)

/-- A text as it is sent. -/
def protect (p : Protection) (nonce : Nonce) (text : String) : String :=
  match p with
  | some (key, aad) => C.base64Encode (C.aeadEncrypt key nonce text.toByteArray aad.toByteArray)
  | none => text

/-- How the recipient reads it. -/
def unprotect (p : Protection) (text : String) : Option String :=
  match p with
  | some (key, aad) =>
    match (C.base64Decode text).map fun blob => C.aeadDecrypt key blob aad.toByteArray with
    | some (.ok plaintext) => String.fromUTF8? plaintext
    | _ => none
  | none => some text

variable {C}

theorem transportText_eq_protect (key : Option Key32) (nonce : Nonce) (aad text : String) :
    C.transportText key nonce aad text = C.protect (key.map (·, aad)) nonce text := by
  rcases key <;> rfl

theorem unprotect_protect (hC : C.Lawful) (hcodec : C.Documented) (p : Protection) (nonce : Nonce)
    (text : String) : C.unprotect p (C.protect p nonce text) = some text := by
  rcases p with _ | ⟨key, aad⟩
  · rfl
  · simp [unprotect, protect, hcodec.decode_encode, aeadDecrypt_aeadEncrypt hC]

end Crypto

/-! ## The four ways -/

/-- What `send_initial_file_sync` sends of a file. -/
def initialSyncNotification (env : Env) (nonces : Nonce × Nonce) (accountKey : Option String)
    (accountHash deviceHash : String) (aliasAccount : Option String) (file : FileInfo) :
    FileUpdateNotification :=
  let key :=
    if env.config.transportEncryptMetadata then accountKey.bind env.crypto.parseAccountKey else none
  let aad := accountHash ++ ":" ++ deviceHash
  { accountHash := aliasAccount.getD accountHash
    deviceHash := file.deviceHash
    fileInfo := some {
      fileId := file.fileId
      filename := env.crypto.transportText key nonces.2 aad file.filename
      fileHash := file.fileHash
      deviceHash := file.deviceHash
      groupId := file.groupId
      watcherId := file.watcherId
      isEncrypted := file.isEncrypted
      filePath := env.crypto.transportText key nonces.1 aad file.filePath
      updatedTime := some file.updatedTime
      revision := file.revision
      fileSize := file.size }
    updateType := .uploaded
    timestamp := file.updatedTime.seconds }

section

variable (C : Crypto) (accountKey accountHash deviceHash sourceDevice : String)

/-- The protection of listings. -/
def listProtection : Protection :=
  (C.parseAccountKey accountKey).map (·, accountHash ++ ":" ++ deviceHash)

/-- The protection of the initial sync. -/
def initialSyncProtection : Protection :=
  (C.parseAccountKey accountKey).map (·, accountHash ++ ":" ++ deviceHash)

/-- The device that a live notification is encrypted for, if the subscriber is registered
    under `account:device`. -/
def broadcastDevice : String :=
  Subscriber.device ⟨accountHash ++ ":" ++ deviceHash, none, true⟩ sourceDevice

/-- The protection of live notifications. -/
def broadcastProtection : Protection :=
  (C.parseAccountKey accountKey).map
    (·, accountHash ++ ":" ++ broadcastDevice accountHash deviceHash sourceDevice)

/-- The protection of downloads, of a file of the account. -/
def downloadProtection : Protection :=
  (C.parseAccountKeyHex accountKey).map (·, accountHash ++ ":" ++ deviceHash)

end

section

variable (env : Env) (accountKey accountHash deviceHash sourceDevice : String)

/-- The recipient reads path and name of the files of the account under the protection
    `p`, however they were sent. -/
structure Readable (p : Protection) : Prop where
  list : ∀ (file : FileInfo) nonces groupId uploadTimeFrom clientWatcherId,
    let listed := listedFile env nonces (env.crypto.parseAccountKey accountKey)
      ⟨accountHash, deviceHash, groupId, uploadTimeFrom⟩ clientWatcherId file
    env.crypto.unprotect p listed.filePath = some file.filePath ∧
      env.crypto.unprotect p listed.filename = some file.filename
  initialSync : ∀ (file : FileInfo) nonces aliasAccount,
    ∀ fi ∈ (initialSyncNotification env nonces (some accountKey) accountHash deviceHash aliasAccount
      file).fileInfo,
    env.crypto.unprotect p fi.filePath = some file.filePath ∧
      env.crypto.unprotect p fi.filename = some file.filename
  broadcast : ∀ (file : FileInfo) nonces aliasAccount updateType timestamp subscribers,
    ∀ fi ∈ (NotificationManager.forSubscriber env.crypto ⟨subscribers, true⟩
      (some accountKey) nonces
      ⟨accountHash, sourceDevice, some file.toSyncFile, updateType, timestamp⟩
      ⟨accountHash ++ ":" ++ deviceHash, aliasAccount, true⟩).fileInfo,
    env.crypto.unprotect p fi.filePath = some file.filePath ∧
      env.crypto.unprotect p fi.filename = some file.filename
  download : ∀ (file : FileInfo) nonces data, file.accountHash = accountHash →
    let response := downloadResponse env nonces deviceHash (some accountKey) file data
    env.crypto.unprotect p response.filePath = some file.filePath ∧
      env.crypto.unprotect p response.filename = some file.filename

/-- All four ways use one protection, with data that names the account and the device of
    the recipient, who can read what is sent. -/
def ProtectsAlike : Prop :=
  ∃ key : Option Key32,
    listProtection env.crypto accountKey accountHash deviceHash =
      key.map (·, accountHash ++ ":" ++ deviceHash) ∧
    initialSyncProtection env.crypto accountKey accountHash deviceHash =
      key.map (·, accountHash ++ ":" ++ deviceHash) ∧
    broadcastProtection env.crypto accountKey accountHash deviceHash sourceDevice =
      key.map (·, accountHash ++ ":" ++ deviceHash) ∧
    downloadProtection env.crypto accountKey accountHash deviceHash =
      key.map (·, accountHash ++ ":" ++ deviceHash) ∧
    Readable env accountKey accountHash deviceHash sourceDevice
      (key.map (·, accountHash ++ ":" ++ deviceHash))

end

/-! ## When they agree -/

section

variable {env : Env} {accountKey accountHash deviceHash sourceDevice : String}

/-- The device is the one after the only colon, or else that of the source. -/
theorem broadcastDevice_eq :
    broadcastDevice accountHash deviceHash sourceDevice =
      if ':' ∉ accountHash.toList ∧ ':' ∉ deviceHash.toList then deviceHash else sourceDevice := by
  have hkey : (accountHash ++ ":" ++ deviceHash).toList =
      accountHash.toList ++ ':' :: deviceHash.toList := by
    simp
  rw [broadcastDevice, Subscriber.device, hkey, List.splitOn_append_cons_self]
  by_cases hacc : ':' ∈ accountHash.toList
  · obtain ⟨x₁, x₂, xs, hxs⟩ := exists_splitOn_of_mem hacc
    obtain ⟨y, ys, hy⟩ := List.exists_cons_of_ne_nil (List.splitOn_ne_nil ':' deviceHash.toList)
    rw [if_neg fun h => h.1 hacc, hxs, hy]
    rcases xs with _ | ⟨x₃, xs⟩ <;> rfl
  · by_cases hdev : ':' ∈ deviceHash.toList
    · obtain ⟨y₁, y₂, ys, hys⟩ := exists_splitOn_of_mem hdev
      rw [if_neg fun h => h.2 hdev, hys, List.splitOn_eq_singleton hacc]
      rfl
    · rw [if_pos ⟨hacc, hdev⟩, List.splitOn_eq_singleton hacc, List.splitOn_eq_singleton hdev]
      exact String.ofList_toList

theorem append_right_cancel_aad {s t : String} :
    accountHash ++ ":" ++ s = accountHash ++ ":" ++ t ↔ s = t := by
  rw [← String.toList_inj, ← String.toList_inj]
  simp

/-- What is sent under a protection is readable under it. -/
theorem readable_of_eq (hC : env.crypto.Lawful) (hcodec : env.crypto.Documented)
    (hflag : env.config.transportEncryptMetadata = true) {p : Protection}
    (hlist : listProtection env.crypto accountKey accountHash deviceHash = p)
    (hsync : initialSyncProtection env.crypto accountKey accountHash deviceHash = p)
    (hbroadcast : broadcastProtection env.crypto accountKey accountHash deviceHash sourceDevice = p)
    (hdownload : downloadProtection env.crypto accountKey accountHash deviceHash = p) :
    Readable env accountKey accountHash deviceHash sourceDevice p where
  list file nonces groupId uploadTimeFrom clientWatcherId := by
    subst hlist
    simp only [listedFile, Crypto.transportText_eq_protect, ← listProtection.eq_def]
    exact ⟨Crypto.unprotect_protect hC hcodec .., Crypto.unprotect_protect hC hcodec ..⟩
  initialSync file nonces aliasAccount fi hfi := by
    subst hsync
    cases hfi
    simp only [hflag, if_true, Option.bind_some, Crypto.transportText_eq_protect]
    exact ⟨Crypto.unprotect_protect hC hcodec .., Crypto.unprotect_protect hC hcodec ..⟩
  broadcast file nonces aliasAccount updateType timestamp subscribers fi hfi := by
    subst hbroadcast
    cases hfi
    simp only [if_true, Option.bind_some, Crypto.transportText_eq_protect]
    exact ⟨Crypto.unprotect_protect hC hcodec .., Crypto.unprotect_protect hC hcodec ..⟩
  download file nonces data hacc := by
    subst hdownload hacc
    simp only [downloadResponse, hflag, if_true, Option.bind_some, Crypto.transportText_eq_protect]
    exact ⟨Crypto.unprotect_protect hC hcodec .., Crypto.unprotect_protect hC hcodec ..⟩

/-- The four ways agree iff the text of the key is not 64 hexadecimal digits, and it is no
    key, or account and device have no colon, or the recipient is the source. -/
theorem protectsAlike_iff (hC : env.crypto.Lawful) (hcodec : env.crypto.Documented)
    (hflag : env.config.transportEncryptMetadata = true) :
    ProtectsAlike env accountKey accountHash deviceHash sourceDevice ↔
      ¬Crypto.IsHexKey accountKey ∧
        (env.crypto.parseAccountKey accountKey = none ∨
          (':' ∉ accountHash.toList ∧ ':' ∉ deviceHash.toList) ∨ sourceDevice = deviceHash) := by
  have hinj : Function.Injective fun key : Key32 => (key, accountHash ++ ":" ++ deviceHash) :=
    fun _ _ h => (Prod.mk.inj h).1
  constructor
  · rintro ⟨key, hlist, -, hbroadcast, hdownload, -⟩
    have hkey : env.crypto.parseAccountKey accountKey = key := Option.map_injective hinj hlist
    have hkeyHex : env.crypto.parseAccountKeyHex accountKey = key :=
      Option.map_injective hinj hdownload
    refine ⟨fun hhex => ?_, ?_⟩
    · -- Only the download has a key.
      obtain ⟨key', hkey'⟩ := hcodec.hexKey.2 hhex
      rw [← hkey, hcodec.parseAccountKey_of_isHexKey hhex, Crypto.parseAccountKeyHex,
        hkey'] at hkeyHex
      cases hkeyHex
    · rcases key with _ | key
      · exact .inl hkey
      · -- There is a key, so that the data must name the device.
        rw [broadcastProtection, hkey] at hbroadcast
        have haad := (Prod.mk.inj (Option.some.inj hbroadcast)).2
        rw [append_right_cancel_aad, broadcastDevice_eq] at haad
        split at haad
        next hcolon => exact .inr (.inl hcolon)
        next => exact .inr (.inr haad)
  · rintro ⟨hhex, hdevice⟩
    have hdecode : Crypto.decodeKey env.crypto.hexDecode accountKey = none := by
      refine Option.eq_none_iff_forall_ne_some.2 fun key hkey => ?_
      exact hhex (hcodec.hexKey.1 ⟨key, hkey⟩)
    have hbroadcast :
      broadcastProtection env.crypto accountKey accountHash deviceHash sourceDevice =
        (env.crypto.parseAccountKey accountKey).map (·, accountHash ++ ":" ++ deviceHash) := by
      rw [broadcastProtection]
      rcases hdevice with hnone | hsame
      · rw [hnone]
        rfl
      · rw [broadcastDevice_eq]
        split
        next => rfl
        next hcolon => rw [hsame.resolve_left hcolon]
    have hdownload : downloadProtection env.crypto accountKey accountHash deviceHash =
        (env.crypto.parseAccountKey accountKey).map (·, accountHash ++ ":" ++ deviceHash) := by
      rw [downloadProtection, Crypto.parseAccountKeyHex, hdecode]
      rfl
    exact ⟨env.crypto.parseAccountKey accountKey, rfl, rfl, hbroadcast, hdownload,
      readable_of_eq hC hcodec hflag rfl rfl hbroadcast hdownload⟩

end

/-- Transport encryption is on. -/
def Env.transport : Env := { Env.plain with config := ⟨none, true⟩ }

/-- The bytes of `Crypto.keySample`, in base64. -/
def base64KeySample : String := "AQIDBAUGBwgJCgsMDQ4PEBESExQVFhcYGRobHB0eHyA"

theorem protectsAlike_base64 :
    (Env.transport.crypto.parseAccountKey base64KeySample).isSome ∧
      ProtectsAlike .transport base64KeySample "alice" "d" "e" :=
  ⟨by decide +kernel, (protectsAlike_iff Crypto.sample_lawful Crypto.sample_documented rfl).2
    ⟨by decide +kernel, .inr (.inl ⟨by decide, by decide⟩)⟩⟩

/-- A key as a login stores it: only downloads are encrypted. -/
theorem login_key_only_downloads :
    ¬ProtectsAlike .transport "0102030405060708090a0b0c0d0e0f101112131415161718191a1b1c1d1e1f20"
      "alice" "d" "e" := by
  rintro ⟨key, hlist, -, -, hdownload, -⟩
  exact absurd (hlist.trans hdownload.symm) (by decide +kernel)

end CosmicSync
