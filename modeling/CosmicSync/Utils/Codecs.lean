import CosmicSync.Utils.Crypto

/-!
# Base64 and hexadecimal texts

The crates `base64` and `hex` as they are documented (`Crypto.Documented`): the digits,
the padding, and that bits which are left over must be zero. And the sizes of a digest and of a
ciphertext (`Crypto.Sized`).

* `base64Parse_base64Chars`: decoding inverts encoding.
* `length_of_base64Parse`, `length_of_hexParse`: how many bytes a text gives. The same
  text is never 32 bytes in both encodings (`Documented.parseAccountKey_of_isHexKey`).
-/

namespace CosmicSync

namespace Crypto

/-- The codecs behave as their crates document. -/
structure Documented (C : Crypto) : Prop where
  base64Encode : ∀ b, C.base64Encode b = String.ofList (base64Chars b.data.toList)
  base64Decode : ∀ s, C.base64Decode s = base64Parse s.toList
  base64DecodePadded : ∀ s, C.base64DecodePadded s = base64ParsePadded s.toList
  hexDecode : ∀ s, C.hexDecode s = hexParse s.toList

theorem sample_documented : sample.Documented :=
  ⟨fun _ => rfl, fun _ => rfl, fun _ => rfl, fun _ => rfl⟩

/-- The sizes of a digest and of a ciphertext with its tag. -/
structure Sized (C : Crypto) : Prop where
  hmacSha256 : ∀ key msg, (C.hmacSha256 key msg).size = 32
  aes256GcmEncrypt :
    ∀ key nonce msg aad, (C.aes256GcmEncrypt key nonce msg aad).size = msg.size + 16

/-! ## Decoding inverts encoding -/

theorem base64Value_base64Digit (n : ℕ) : base64Value (base64Digit n) = some (n % 64) := by
  have hdigits : ∀ n < 64, base64Value (base64Digit n) = some n := by decide +kernel
  have hmod : base64Digit n = base64Digit (n % 64) := by
    unfold base64Digit
    generalize String.toList _ = digits
    rw [Nat.mod_mod]
  rw [hmod, hdigits _ (Nat.mod_lt _ (by decide))]

theorem ofNat_eq_of_mod {a : UInt8} {n : ℕ} (h : n % 256 = a.toNat) : UInt8.ofNat n = a := by
  rw [← UInt8.toNat_inj, UInt8.toNat_ofNat', ← h]

/-- Three bytes are four digits, two are three, and one is two. -/
theorem mapM_base64Chars (l : List UInt8) :
    ((base64Chars l).mapM base64Value).bind base64Bytes = some l := by
  induction l using base64Chars.induct with
  | case1 a b c l ih =>
    have ha := a.toNat_lt
    have hb := b.toNat_lt
    have hc := c.toNat_lt
    obtain ⟨digits, hdigits, hbytes⟩ := Option.bind_eq_some_iff.1 ih
    have hjoin : ∀ n < 2 ^ 24,
        ((n / 262144 % 64 * 64 + n / 4096 % 64) * 64 + n / 64 % 64) * 64 + n % 64 = n := by omega
    simp only [base64Chars, List.mapM_cons, base64Value_base64Digit, hdigits, Option.pure_def,
      Option.bind_eq_bind, Option.bind_some, base64Bytes, hbytes, Option.map_some,
        Option.some.injEq]
    rw [hjoin _ (by omega), ofNat_eq_of_mod (a := a) (by omega),
      ofNat_eq_of_mod (a := b) (by omega), ofNat_eq_of_mod (a := c) (by omega)]
    rfl
  | case2 a b =>
    have ha := a.toNat_lt
    have hb := b.toNat_lt
    have hjoin : ∀ n < 2 ^ 18, (n / 4096 % 64 * 64 + n / 64 % 64) * 64 + n % 64 = n := by omega
    simp only [base64Chars, List.mapM_cons, List.mapM_nil, base64Value_base64Digit, Option.pure_def,
      Option.bind_eq_bind, Option.bind_some, base64Bytes]
    rw [hjoin _ (by omega), if_pos (by omega), ofNat_eq_of_mod (a := a) (by omega),
      ofNat_eq_of_mod (a := b) (by omega)]
  | case3 a =>
    have ha := a.toNat_lt
    have hjoin : ∀ n < 2 ^ 12, n / 64 % 64 * 64 + n % 64 = n := by omega
    simp only [base64Chars, List.mapM_cons, List.mapM_nil, base64Value_base64Digit, Option.pure_def,
      Option.bind_eq_bind, Option.bind_some, base64Bytes]
    rw [hjoin _ (by omega), if_pos (by omega), ofNat_eq_of_mod (a := a) (by omega)]
  | case4 => rfl

theorem base64Parse_base64Chars (b : ByteArray) :
    base64Parse (base64Chars b.data.toList) = some b := by
  rw [base64Parse, mapM_base64Chars]
  rfl

theorem Documented.decode_encode {C : Crypto} (hC : C.Documented) (b : ByteArray) :
    C.base64Decode (C.base64Encode b) = some b := by
  rw [hC.base64Decode, hC.base64Encode, String.toList_ofList, base64Parse_base64Chars]

theorem base64Chars_inj {b b' : ByteArray} :
    base64Chars b.data.toList = base64Chars b'.data.toList ↔ b = b' := by
  constructor
  · intro h
    have hparse := base64Parse_base64Chars b
    rw [h, base64Parse_base64Chars] at hparse
    exact (Option.some.inj hparse).symm
  · rintro rfl
    rfl

/-! ## Lengths -/

theorem length_base64Chars : (l : List UInt8) → (base64Chars l).length = (4 * l.length + 2) / 3
  | a :: b :: c :: l => by
    simp only [base64Chars, List.length_cons, length_base64Chars l]
    omega
  | [a, b] => by simp [base64Chars]
  | [a] => by simp [base64Chars]
  | [] => rfl

theorem length_of_base64Bytes : ∀ {digits : List ℕ} {bytes : List UInt8},
    base64Bytes digits = some bytes → bytes.length = digits.length * 3 / 4
  | a :: b :: c :: d :: l, _, h => by
    obtain ⟨bytes, hbytes, rfl⟩ := Option.map_eq_some_iff.1 h
    simp only [List.length_append, List.length_cons, List.length_nil, length_of_base64Bytes hbytes]
    omega
  | [a, b, c], _, h => by
    simp only [base64Bytes] at h
    split at h
    next =>
      cases h
      simp
    next => cases h
  | [a, b], _, h => by
    simp only [base64Bytes] at h
    split at h
    next =>
      cases h
      simp
    next => cases h
  | [], _, h => by
    cases h
    simp

theorem length_of_mapM {α β : Type} {f : α → Option β} {l : List α} {l' : List β}
    (h : l.mapM f = some l') : l'.length = l.length := by
  induction l generalizing l' with
  | nil =>
    cases h
    rfl
  | cons a l ih =>
    simp only [List.mapM_cons, Option.pure_def, Option.bind_eq_bind, Option.bind_eq_some_iff,
      Option.some.injEq] at h
    obtain ⟨b, -, bs, hbs, rfl⟩ := h
    rw [List.length_cons, List.length_cons, ih hbs]

theorem length_of_base64Parse {l : List Char} {b : ByteArray} (h : base64Parse l = some b) :
    b.size = l.length * 3 / 4 := by
  obtain ⟨bytes, hbytes, rfl⟩ := Option.map_eq_some_iff.1 h
  obtain ⟨digits, hdigits, hbytes⟩ := Option.bind_eq_some_iff.1 hbytes
  rw [← length_of_mapM hdigits, ← length_of_base64Bytes hbytes]
  rfl

theorem length_hexBytes (l : List Char) : (hexBytes l).length = l.length / 2 := by
  induction l using hexBytes.induct with
  | case1 c d l ih =>
    rw [hexBytes, List.length_cons, ih]
    simp only [List.length_cons]
    omega
  | case2 l hl =>
    rcases l with _ | ⟨c, _ | ⟨d, l⟩⟩
    · simp [hexBytes]
    · simp [hexBytes]
    · exact absurd rfl (hl c d l)

theorem length_of_hexParse {l : List Char} {b : ByteArray} (h : hexParse l = some b) :
    b.size = l.length / 2 := by
  rw [hexParse] at h
  split at h
  next =>
    cases h
    exact (length_hexBytes _).trans (by rw [List.length_map])
  next => cases h

theorem Sized.aeadEncrypt {C : Crypto} (h : C.Sized) (key : Key32) (nonce : Nonce)
    (plaintext aad : ByteArray) :
    (C.aeadEncrypt key nonce plaintext aad).size = plaintext.size + 28 := by
  rw [Crypto.aeadEncrypt, ByteArray.size_append, h.aes256GcmEncrypt, nonce.2]
  omega

/-! ## Keys -/

/-- The text has 64 hexadecimal digits. -/
def IsHexKey (s : String) : Prop :=
  s.toList.length = 64 ∧ ∀ c ∈ s.toList, c.toLower ∈ "0123456789abcdef".toList

instance (s : String) : Decidable (IsHexKey s) := inferInstanceAs (Decidable (_ ∧ _))

theorem decodeKey_eq_some {decode : String → Option ByteArray} {s : String} {key : Key32} :
    decodeKey decode s = some key ↔ decode s = some key.1 := by
  unfold decodeKey
  split
  next b hb =>
    rw [hb]
    split
    next hsize => simp [Subtype.ext_iff]
    next hsize =>
      refine ⟨nofun, fun h => absurd ?_ hsize⟩
      rw [Option.some.inj h]
      exact key.2
  next hb => simp [hb]

variable {C : Crypto} {s : String}

theorem Documented.hexKey (hC : C.Documented) :
    (∃ key, decodeKey C.hexDecode s = some key) ↔ IsHexKey s := by
  simp only [decodeKey_eq_some, hC.hexDecode, IsHexKey]
  constructor
  · rintro ⟨key, hkey⟩
    have hlength := length_of_hexParse hkey
    rw [key.2] at hlength
    rw [hexParse] at hkey
    split at hkey
    next heven => exact ⟨by omega, by simpa using heven.2⟩
    next => cases hkey
  · rintro ⟨hlength, hdigits⟩
    have hparse : hexParse s.toList = some ⟨(hexBytes (s.toList.map Char.toLower)).toArray⟩ := by
      rw [hexParse]
      exact if_pos ⟨by omega, by simpa using hdigits⟩
    have hsize := length_of_hexParse hparse
    exact ⟨⟨_, by rw [hsize, hlength]⟩, hparse⟩

/-- A text of 64 digits is no key in base64: it has 46 bytes at least. -/
theorem Documented.parseAccountKey_of_isHexKey (hC : C.Documented) (h : IsHexKey s) :
    C.parseAccountKey s = none := by
  have hsize : ∀ (l : List Char) (key : Key32), 62 ≤ l.length → base64Parse l ≠ some key.1 := by
    intro l key hl hparse
    have := length_of_base64Parse hparse
    rw [key.2] at this
    omega
  have hplain : decodeKey C.base64Decode s = none := by
    refine Option.eq_none_iff_forall_ne_some.2 fun key hkey => ?_
    rw [decodeKey_eq_some, hC.base64Decode] at hkey
    exact hsize _ key (by rw [h.1]; omega) hkey
  have hpadded : decodeKey C.base64DecodePadded s = none := by
    refine Option.eq_none_iff_forall_ne_some.2 fun key hkey => ?_
    rw [decodeKey_eq_some, hC.base64DecodePadded, base64ParsePadded] at hkey
    split at hkey
    next hpad =>
      -- At most two of the characters are padding.
      refine hsize _ key ?_ hkey
      have := hpad.2
      rw [h.1] at this
      omega
    next => cases hkey
  rw [parseAccountKey, hplain, hpadded]
  rfl

/-! ## Samples -/

/-- The primitives as tabulated, and elsewhere digests of zeros. -/
def sized : Crypto :=
  { sample with
    hmacSha256 := fun key msg =>
      match hmacSamples.find? fun s => s.1 = key ∧ s.2.1 = msg with
      | some s => s.2.2
      | none => gcmTag ++ gcmTag }

theorem sized_sized : sized.Sized := by
  refine ⟨fun key msg => ?_, fun key nonce msg aad => ?_⟩
  · have hall : ∀ s ∈ hmacSamples, s.2.2.size = 32 := by decide +kernel
    simp only [sized]
    split
    next s hs => exact hall s (List.mem_of_find?_eq_some hs)
    next => decide
  · have hall : ∀ s ∈ gcmSamples, s.2.2.size = s.2.1.size + 16 := by decide +kernel
    have htag : gcmTag.size = 16 := by decide +kernel
    simp only [sized, sample]
    split
    next =>
      split
      next s hs =>
        obtain ⟨-, rfl⟩ : s.1 = nonce ∧ s.2.1 = msg := by simpa using List.find?_some hs
        exact hall s (List.mem_of_find?_eq_some hs)
      next => rw [ByteArray.size_append, htag]
    next => rw [ByteArray.size_append, htag]

end Crypto

end CosmicSync
