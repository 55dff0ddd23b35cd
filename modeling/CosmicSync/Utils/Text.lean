import Mathlib

/-!
# Text: UTF-8, trimming, paths

What the server uses of Rust's strings, and `utils/helpers.rs`.

* `fromUtf8Lossy`: `String::from_utf8_lossy`, which replaces every maximal part of
  an ill-formed sequence by `U+FFFD`.
* `trim`: `str::trim`, for the characters with the `White_Space` property.
* `normalizePathPreserveTilde`: the path under which a file is stored.
-/

namespace CosmicSync

/-! ## UTF-8 -/

/-- A continuation byte `10xxxxxx`. -/
def isCont (b : UInt8) : Bool := 0x80 ≤ b && b ≤ 0xBF

/-- The second byte a leading byte of a three-byte character allows. -/
def second3 (b c : UInt8) : Bool :=
  if b = 0xE0 then 0xA0 ≤ c && c ≤ 0xBF
  else if b = 0xED then 0x80 ≤ c && c ≤ 0x9F
  else isCont c

/-- The second byte a leading byte of a four-byte character allows. -/
def second4 (b c : UInt8) : Bool :=
  if b = 0xF0 then 0x90 ≤ c && c ≤ 0xBF
  else if b = 0xF4 then 0x80 ≤ c && c ≤ 0x8F
  else isCont c

/-- How many bytes at the front form a character (`inl`), or an ill-formed
    sequence that is replaced as one (`inr`). -/
def utf8Chunk : List UInt8 → ℕ ⊕ ℕ
  | [] => .inr 0
  | b :: rest =>
    if b < 0x80 then .inl 1
    else if 0xC2 ≤ b && b ≤ 0xDF then
      match rest with
      | c :: _ => if isCont c then .inl 2 else .inr 1
      | [] => .inr 1
    else if 0xE0 ≤ b && b ≤ 0xEF then
      match rest with
      | c :: d :: _ => if second3 b c then if isCont d then .inl 3 else .inr 2 else .inr 1
      | [c] => if second3 b c then .inr 2 else .inr 1
      | [] => .inr 1
    else if 0xF0 ≤ b && b ≤ 0xF4 then
      match rest with
      | c :: d :: e :: _ =>
        if second4 b c then if isCont d then if isCont e then .inl 4 else .inr 3 else .inr 2
        else .inr 1
      | [c, d] => if second4 b c then if isCont d then .inr 3 else .inr 2 else .inr 1
      | [c] => if second4 b c then .inr 2 else .inr 1
      | [] => .inr 1
    else .inr 1

/-- The chunks of `l`, the ill-formed ones replaced. The fuel is the number of
    bytes: every chunk takes one at least. -/
def lossyChunks : ℕ → List UInt8 → String
  | 0, _ => ""
  | fuel + 1, l =>
    if l.isEmpty then ""
    else
      match utf8Chunk l with
      | .inl n =>
        (String.fromUTF8? ⟨(l.take n).toArray⟩).getD "\uFFFD" ++ lossyChunks fuel (l.drop n)
      | .inr n => "\uFFFD" ++ lossyChunks fuel (l.drop n)

/-- `String::from_utf8_lossy`: well-formed bytes are taken as they are. -/
def fromUtf8Lossy (b : ByteArray) : String :=
  match String.fromUTF8? b with
  | some s => s
  | none => lossyChunks b.size b.data.toList

@[simp]
theorem fromUTF8?_toByteArray (s : String) : String.fromUTF8? s.toByteArray = some s :=
  dif_pos s.isValidUTF8

@[simp]
theorem fromUtf8Lossy_toByteArray (s : String) : fromUtf8Lossy s.toByteArray = s := by
  rw [fromUtf8Lossy, fromUTF8?_toByteArray]

/-- Only the bytes of a string decode to it. -/
theorem eq_toByteArray_of_fromUTF8? {b : ByteArray} {s : String} (h : String.fromUTF8? b = some s) :
    b = s.toByteArray := by
  unfold String.fromUTF8? at h
  split at h
  · cases h; rfl
  · cases h

example : fromUtf8Lossy ⟨#[0x61, 0xE2, 0x82, 0x62]⟩ = "a\uFFFDb" := by decide

/-! ## Paths -/

/-- `char::is_whitespace`: the Unicode property `White_Space`. -/
def isWhitespace (c : Char) : Bool :=
  (0x09 ≤ c.toNat && c.toNat ≤ 0x0D) || c.toNat == 0x20 || c.toNat == 0x85 || c.toNat == 0xA0 ||
    c.toNat == 0x1680 || (0x2000 ≤ c.toNat && c.toNat ≤ 0x200A) || c.toNat == 0x2028 ||
    c.toNat == 0x2029 || c.toNat == 0x202F || c.toNat == 0x205F || c.toNat == 0x3000

/-- `str::trim`. -/
def trim (l : List Char) : List Char := (l.dropWhile isWhitespace).rdropWhile isWhitespace

/-- An absolute path. Below `/home/` the user's name is dropped with it; elsewhere
    the path is kept, behind the tilde. -/
def normalizeAbsolute (trimmed : List Char) : List Char :=
  if "/home/".toList <+: trimmed then
    -- Behind the prefix, a length in characters is at most 6 iff that in bytes is.
    if trimmed.length ≤ 6 then ['~']
    else
      -- `after_home.find('/')`: what follows the user's name, if anything does.
      let remaining := (trimmed.drop 6).dropWhile (· ≠ '/')
      if remaining = [] ∨ remaining = ['/'] then ['~'] else '~' :: remaining
  else if trimmed = ['/'] then ['~']
  else '~' :: trimmed

/-- The body of `normalize_path_preserve_tilde`, on characters and without the
    memoisation. -/
def normalizeChars (path : List Char) : List Char :=
  let trimmed := trim path
  if path = [] ∨ trimmed = [] then "~/".toList
  else if trimmed = "~".toList ∨ trimmed = "~/.".toList then "~/".toList
  else if "~/".toList <+: trimmed then trimmed
  else if "/".toList <+: trimmed then normalizeAbsolute trimmed
  else if "./".toList <+: trimmed then
    if trimmed.length ≤ 2 then ['~'] else "~/".toList ++ trimmed.drop 2
  -- Hidden directories, single names and other relative paths alike.
  else "~/".toList ++ trimmed

/-- `normalize_path_preserve_tilde`. -/
def normalizePathPreserveTilde (path : String) : String :=
  String.ofList (normalizeChars path.toList)

example : normalizePathPreserveTilde " /home/kim/docs/a.txt" = "~/docs/a.txt" := by decide

end CosmicSync
