import CosmicSync.Utils.Text

/-!
# Cryptography

`utils/crypto.rs`, and the keys that the handlers read from texts. The primitives
(HMAC-SHA256, AES-256-GCM, base64, hexadecimal) and the Unicode case table come from
outside the repository and are the fields of a `Crypto`; what the server builds from
them is defined here. A nonce is drawn at random by every call of `aead_encrypt`, so
it is an argument.

* `aeadEncrypt`, `aeadDecrypt`: the nonce goes in front of the ciphertext.
* `makeEqIndex`: the deterministic index by which a path is found.
* `makeTokenPath`: the index of every segment of the path.
* `parseAccountKey`, `parseAccountKeyHex`: the key of an account, from its text.
* `aeadDecrypt_aeadEncrypt`: with lawful primitives, decrypting inverts encrypting.
-/

namespace CosmicSync

/-- The keys of AES-256: 32 bytes. -/
abbrev Key32 := { b : ByteArray // b.size = 32 }

/-- The nonces of AES-GCM: 12 bytes. -/
abbrev Nonce := { b : ByteArray // b.size = 12 }

/-- The primitives the server calls. -/
structure Crypto where
  /-- HMAC-SHA256 of a key and a message. -/
  hmacSha256 : ByteArray → ByteArray → ByteArray
  /-- AES-256-GCM: the ciphertext, followed by the tag, of a message and its
      associated data. -/
  aes256GcmEncrypt : Key32 → Nonce → (msg aad : ByteArray) → ByteArray
  aes256GcmDecrypt : Key32 → Nonce → (msg aad : ByteArray) → Option ByteArray
  /-- The engine `STANDARD_NO_PAD`. -/
  base64Encode : ByteArray → String
  base64Decode : String → Option ByteArray
  /-- The engine `STANDARD`. -/
  base64DecodePadded : String → Option ByteArray
  /-- `hex::decode`. -/
  hexDecode : String → Option ByteArray
  /-- `str::to_lowercase`. -/
  toLowercase : String → String

namespace Crypto

variable (C : Crypto)

/-- AES-GCM decrypts what it encrypted, given the same key, nonce and associated
    data. -/
def Lawful : Prop :=
  ∀ key nonce msg aad,
    C.aes256GcmDecrypt key nonce (C.aes256GcmEncrypt key nonce msg aad) aad = some msg

/-- `aead_encrypt`: the nonce, the ciphertext, the tag. -/
def aeadEncrypt (key : Key32) (nonce : Nonce) (plaintext aad : ByteArray) : ByteArray :=
  nonce.1 ++ C.aes256GcmEncrypt key nonce plaintext aad

/-- `aead_decrypt`. -/
def aeadDecrypt (key : Key32) (blob aad : ByteArray) : Except String ByteArray :=
  if h : blob.size < 12 then .error "cipher blob too short"
  else
    let nonce : Nonce := ⟨blob.extract 0 12, by rw [ByteArray.size_extract]; omega⟩
    match C.aes256GcmDecrypt key nonce (blob.extract 12 blob.size) aad with
    | some pt => .ok pt
    | none => .error "decrypt failed"

/-- `make_eq_index`: HMAC of the path under the salt of the account. -/
def makeEqIndex (accountSalt : ByteArray) (normalizedPath : String) : ByteArray :=
  C.hmacSha256 accountSalt normalizedPath.toByteArray

/-- `make_token_path`: the index of every non-empty segment, in lower case. -/
def makeTokenPath (accountSalt : ByteArray) (normalizedPath : String) : String :=
  let segs := (normalizedPath.toList.splitOn '/').filter (· ≠ [])
  "/".intercalate
    (segs.map fun seg =>
      C.base64Encode (C.makeEqIndex accountSalt (C.toLowercase (String.ofList seg))))

/-- `derive_salt`: HMAC of `label:account_hash` under the key. -/
def deriveSalt (key : Key32) (label accountHash : String) : ByteArray :=
  C.hmacSha256 key.1 (label ++ ":" ++ accountHash).toByteArray

/-- A text is a key if it decodes to 32 bytes. -/
def decodeKey (decode : String → Option ByteArray) (s : String) : Option Key32 :=
  match decode s with
  | some b => if h : b.size = 32 then some ⟨b, h⟩ else none
  | none => none

/-- `parse_account_key`, of the listings and the notifications. -/
def parseAccountKey (s : String) : Option Key32 :=
  decodeKey C.base64Decode s <|> decodeKey C.base64DecodePadded s

/-- `parse_account_key`, of the downloads: hexadecimal digits come first. -/
def parseAccountKeyHex (s : String) : Option Key32 :=
  decodeKey C.hexDecode s <|> C.parseAccountKey s

/-- Path or name on their way to a client: encrypted if the account has a key. -/
def transportText (key : Option Key32) (nonce : Nonce) (aad text : String) : String :=
  match key with
  | some key => C.base64Encode (C.aeadEncrypt key nonce text.toByteArray aad.toByteArray)
  | none => text

/-- `generate_file_id`, given the value that it draws (a hash of the request, the time
    and a random number): the sign bit of an `i64` is cleared. -/
def generateFileId (value : UInt64) : ℕ :=
  if 2 ^ 63 - 1 < value.toNat then value.toNat &&& (2 ^ 63 - 1) else value.toNat

theorem generateFileId_lt (value : UInt64) : generateFileId value < 2 ^ 63 := by
  rw [generateFileId]
  split
  · exact (Nat.and_le_right).trans_lt (by decide)
  · omega

variable {C}

@[simp]
theorem aeadDecrypt_aeadEncrypt (hC : C.Lawful) (key : Key32) (nonce : Nonce)
    (plaintext aad : ByteArray) :
    C.aeadDecrypt key (C.aeadEncrypt key nonce plaintext aad) aad = .ok plaintext := by
  obtain ⟨n, hn⟩ := nonce
  have hsize : ¬(C.aeadEncrypt key ⟨n, hn⟩ plaintext aad).size < 12 := by
    rw [aeadEncrypt, ByteArray.size_append, hn]
    omega
  have hnonce : (C.aeadEncrypt key ⟨n, hn⟩ plaintext aad).extract 0 12 = n :=
    ByteArray.extract_append_eq_left hn.symm
  have hct : (C.aeadEncrypt key ⟨n, hn⟩ plaintext aad).extract 12
      (C.aeadEncrypt key ⟨n, hn⟩ plaintext aad).size =
        C.aes256GcmEncrypt key ⟨n, hn⟩ plaintext aad :=
    ByteArray.extract_append_eq_right hn.symm (by rw [aeadEncrypt, ByteArray.size_append])
  simp only [aeadDecrypt, dif_neg hsize, hnonce, hct, hC key ⟨n, hn⟩ plaintext aad]

/-! ## Samples

The primitives at the inputs of the examples. -/

/-- The value of a hexadecimal digit. -/
def hexDigit (c : Char) : ℕ := if c ≤ '9' then c.toNat - '0'.toNat else c.toNat - 'a'.toNat + 10

def hexBytes : List Char → List UInt8
  | c :: d :: l => UInt8.ofNat (16 * hexDigit c + hexDigit d) :: hexBytes l
  | _ => []

/-- The bytes of a hexadecimal text. -/
def hex (s : String) : ByteArray := ⟨(hexBytes s.toList).toArray⟩

/-- The digits of base64. -/
def base64Digit (n : ℕ) : Char :=
  ("ABCDEFGHIJKLMNOPQRSTUVWXYZabcdefghijklmnopqrstuvwxyz0123456789+/".toList)[n % 64]?.getD 'A'

def base64Chars : List UInt8 → List Char
  | a :: b :: c :: l =>
    let n := (a.toNat * 256 + b.toNat) * 256 + c.toNat
    base64Digit (n / 262144) :: base64Digit (n / 4096) :: base64Digit (n / 64) :: base64Digit n ::
      base64Chars l
  | [a, b] =>
    let n := (a.toNat * 256 + b.toNat) * 4
    [base64Digit (n / 4096), base64Digit (n / 64), base64Digit n]
  | [a] => [base64Digit (a.toNat * 16 / 64), base64Digit (a.toNat * 16)]
  | [] => []

/-- The bytes of base64 digits. Bits that are left over must be zero. -/
def base64Bytes : List ℕ → Option (List UInt8)
  | a :: b :: c :: d :: l =>
    let n := ((a * 64 + b) * 64 + c) * 64 + d
    (base64Bytes l).map ([UInt8.ofNat (n / 65536), UInt8.ofNat (n / 256), UInt8.ofNat n] ++ ·)
  | [a, b, c] =>
    let n := (a * 64 + b) * 64 + c
    if n % 4 = 0 then some [UInt8.ofNat (n / 1024), UInt8.ofNat (n / 4)] else none
  | [a, b] =>
    let n := a * 64 + b
    if n % 16 = 0 then some [UInt8.ofNat (n / 16)] else none
  | [_] => none
  | [] => some []

def base64Value (c : Char) : Option ℕ := (List.range 64).find? fun n => base64Digit n = c

def base64Parse (l : List Char) : Option ByteArray :=
  ((l.mapM base64Value).bind base64Bytes).map fun bytes => ⟨bytes.toArray⟩

/-- Padding to a multiple of four digits is required. -/
def base64ParsePadded (l : List Char) : Option ByteArray :=
  let body := l.rdropWhile (· = '=')
  if l.length % 4 = 0 ∧ l.length - body.length ≤ 2 then base64Parse body else none

def hexParse (l : List Char) : Option ByteArray :=
  let digits := l.map Char.toLower
  if l.length % 2 = 0 ∧ digits.all fun c => c ∈ "0123456789abcdef".toList then
    some ⟨(hexBytes digits).toArray⟩
  else none

/-- HMAC-SHA256: key, message, digest. -/
def hmacSamples : List (ByteArray × ByteArray × ByteArray) :=
  let alice := "alice".toByteArray
  let key := hex "0102030405060708090a0b0c0d0e0f101112131415161718191a1b1c1d1e1f20"
  let salt := hex "145142e09699b13fcb7b14318b88475f45b589c74916bfef6450a35cd2a0452b"
  [(alice, "~/a.txt".toByteArray,
      hex "561d789710150d37eb148fe0bb0055395135d48af1d6b2e093a134f5d5bc25a5"),
   (alice, "~".toByteArray,
      hex "805709c68ebdfe8cd4716750a24b4bd48f6a8c2e9c6bf4ac313039603c06f910"),
   (alice, "a.txt".toByteArray,
      hex "5b3f5ffe047be44d7672f6c743470550c0389156da92c9b372e4b640b748eed7"),
   (key, "meta-index:alice".toByteArray, salt),
   (salt, "~/a.txt".toByteArray,
      hex "0b9515519e6bce8dc9ad91ca10b6ae1ec1352211e1529a7ffa1ca939dabbf627"),
   (salt, "~".toByteArray,
      hex "d2cc8e23ba651dc66b66fb054dc94860efad1f856cdf3eb6a3ed1225ab0e3724"),
   (salt, "a.txt".toByteArray,
      hex "f4fd2833d5480d9e35581385fddf44d358cf681bfb828ab74031151f727c7025")]

/-- A key, and nonces. -/
def keySample : Key32 :=
  ⟨hex "0102030405060708090a0b0c0d0e0f101112131415161718191a1b1c1d1e1f20", by decide⟩

def nonceSample (n : UInt8) : Nonce := ⟨⟨#[0, 0, 0, 0, 0, 0, 0, 0, 0, 0, 0, n]⟩, rfl⟩

/-- AES-256-GCM under `keySample` with the data `alice:1:1`: nonce, message, ciphertext
    and tag. -/
def gcmSamples : List (Nonce × ByteArray × ByteArray) :=
  [(nonceSample 1, "~/a.txt".toByteArray, hex "d2e78b92d17845806386eb53fde47539d01e0f3f4e0458"),
   (nonceSample 2, "a.txt".toByteArray, hex "090562491ba4f657070215c3e1d9ce23fb917c0309"),
   (nonceSample 3, "~/a.txt".toByteArray, hex "12ecfcf750fb1f2aa0ab03f43b15807c3c28eddc507d0c"),
   (nonceSample 4, "a.txt".toByteArray, hex "8b735968e01492cd24458bd0ade13e4a277248c727")]

/-- The tag of the messages that are not tabulated. -/
def gcmTag : ByteArray := hex "00000000000000000000000000000000"

def stripTag (blob : ByteArray) : Option ByteArray :=
  if blob.extract (blob.size - 16) blob.size = gcmTag then some (blob.extract 0 (blob.size - 16))
  else none

/-- The primitives as tabulated; elsewhere they are trivial. -/
def sample : Crypto where
  hmacSha256 key msg :=
    match hmacSamples.find? fun s => s.1 = key ∧ s.2.1 = msg with
    | some s => s.2.2
    | none => key ++ msg
  aes256GcmEncrypt key nonce msg aad :=
    if key = keySample ∧ aad = "alice:1:1".toByteArray then
      match gcmSamples.find? fun s => s.1 = nonce ∧ s.2.1 = msg with
      | some s => s.2.2
      | none => msg ++ gcmTag
    else msg ++ gcmTag
  aes256GcmDecrypt key nonce msg aad :=
    if key = keySample ∧ aad = "alice:1:1".toByteArray then
      match gcmSamples.find? fun s => s.1 = nonce ∧ s.2.2 = msg with
      | some s => some s.2.1
      | none => stripTag msg
    else stripTag msg
  base64Encode b := String.ofList (base64Chars b.data.toList)
  base64Decode s := base64Parse s.toList
  base64DecodePadded s := base64ParsePadded s.toList
  hexDecode s := hexParse s.toList
  toLowercase s := String.ofList (s.toList.map Char.toLower)

theorem stripTag_append (msg : ByteArray) : stripTag (msg ++ gcmTag) = some msg := by
  have hsize : (msg ++ gcmTag).size - 16 = msg.size := by
    rw [ByteArray.size_append, show gcmTag.size = 16 by decide]
    omega
  rw [stripTag, hsize, if_pos (ByteArray.extract_append_eq_right rfl ByteArray.size_append),
    ByteArray.extract_append_eq_left rfl]

theorem sample_lawful : sample.Lawful := by
  intro key nonce msg aad
  by_cases h : key = keySample ∧ aad = "alice:1:1".toByteArray
  · simp only [sample, if_pos h]
    cases hs : gcmSamples.find? fun s => s.1 = nonce ∧ s.2.1 = msg with
    | some s =>
      obtain ⟨hnonce, hmsg⟩ : s.1 = nonce ∧ s.2.1 = msg := by simpa using List.find?_some hs
      -- The table has one message for a nonce and a ciphertext.
      have hinj : ∀ s ∈ gcmSamples, ∀ s' ∈ gcmSamples, s'.1 = s.1 → s'.2.2 = s.2.2 →
          s'.2.1 = s.2.1 := by decide
      cases hs' : gcmSamples.find? fun s' => s'.1 = nonce ∧ s'.2.2 = s.2.2 with
      | some s' =>
        obtain ⟨hnonce', hct'⟩ : s'.1 = nonce ∧ s'.2.2 = s.2.2 := by simpa using List.find?_some hs'
        simp only [← hmsg, hinj s (List.mem_of_find?_eq_some hs) s'
          (List.mem_of_find?_eq_some hs') (hnonce'.trans hnonce.symm) hct']
      | none =>
        have hno := List.find?_eq_none.1 hs' s (List.mem_of_find?_eq_some hs)
        simp [hnonce] at hno
    | none =>
      -- And no ciphertext that ends in the tag.
      have htag : ∀ s ∈ gcmSamples, stripTag s.2.2 = none := by decide
      cases hs' : gcmSamples.find? fun s' => s'.1 = nonce ∧ s'.2.2 = msg ++ gcmTag with
      | some s' =>
        obtain ⟨-, hct'⟩ : s'.1 = nonce ∧ s'.2.2 = msg ++ gcmTag := by
          simpa using List.find?_some hs'
        have hnone := htag s' (List.mem_of_find?_eq_some hs')
        rw [hct', stripTag_append] at hnone
        cases hnone
      | none => exact stripTag_append msg
  · simp only [sample, if_neg h]
    exact stripTag_append msg

end Crypto

end CosmicSync
