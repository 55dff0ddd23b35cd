import CosmicSync.Library.Segments
import CosmicSync.Utils.Codecs

/-!
# Token paths

`make_token_path` of `utils/crypto.rs`: the index that a stored file has of the folders it is
in. Every segment of the path is replaced by a token, the digest of the segment in base64, and
the tokens are joined by slashes. A slash is also a digit of base64, so a token path cannot be
cut at its slashes. But a digest is 32 bytes, and a token 43 digits.

* `segs`: the segments that have a token.
* `makeTokenPath_reflects_segs`: token paths are equal where the segments are, and one goes on
  behind another and a slash where its segments go on behind those of the other.
-/

namespace CosmicSync

open Segments

namespace Crypto

variable (C : Crypto)

/-- The segments of a path that are not empty, in lower case. -/
def segs (path : String) : List String :=
  (components '/' path.toList).map fun seg => C.toLowercase (String.ofList seg)

/-- The digits of the token of a segment. -/
def tokenDigits (accountSalt : ByteArray) (seg : String) : List Char :=
  base64Chars (C.makeEqIndex accountSalt seg).data.toList

variable {C} {accountSalt : ByteArray} {p q : String}

theorem width_tokenDigits (hsize : ∀ msg, (C.hmacSha256 accountSalt msg).size = 32)
    (segs : List String) : ∀ w ∈ segs.map (C.tokenDigits accountSalt), w.length = 43 := by
  intro w hw
  obtain ⟨seg, -, rfl⟩ := List.mem_map.1 hw
  have hdigest : (C.makeEqIndex accountSalt seg).data.size = 32 := hsize _
  rw [tokenDigits, length_base64Chars, Array.length_toList, hdigest]

section

variable (hbase64 : ∀ b, C.base64Encode b = String.ofList (base64Chars b.data.toList))
include hbase64

theorem toList_makeTokenPath (path : String) :
    (C.makeTokenPath accountSalt path).toList =
      ['/'].intercalate ((C.segs path).map (C.tokenDigits accountSalt)) := by
  rw [makeTokenPath, String.toList_intercalate, segs, List.map_map, List.map_map]
  simp only [Function.comp_def, hbase64, String.toList_ofList]
  rfl

variable (hsize : ∀ msg, (C.hmacSha256 accountSalt msg).size = 32)
include hsize

/-- A token has 43 digits, and a slash before it. -/
theorem length_makeTokenPath (path : String) :
    (C.makeTokenPath accountSalt path).length = 44 * (components '/' path.toList).length - 1 := by
  rw [← String.length_toList, toList_makeTokenPath hbase64,
    length_intercalate (width_tokenDigits hsize _), List.length_map, segs, List.length_map,
    Nat.mul_comm]

/-- Token paths are equal where the segments are. One goes on behind another and a slash where
    its segments go on behind those of the other. -/
theorem makeTokenPath_reflects_segs
    (hinj : Set.InjOn (C.makeEqIndex accountSalt) {seg | seg ∈ C.segs p ∨ seg ∈ C.segs q}) :
    (C.makeTokenPath accountSalt p = C.makeTokenPath accountSalt q ↔ C.segs p = C.segs q) ∧
      (C.segs p ≠ [] →
        ((C.makeTokenPath accountSalt p ++ "/").toList <+:
            (C.makeTokenPath accountSalt q).toList ↔
          C.segs p <+: C.segs q ∧ C.segs p ≠ C.segs q)) := by
  -- The digits of a token give the digest, and this the segment.
  have hdigits : Set.InjOn (C.tokenDigits accountSalt) {seg | seg ∈ C.segs p ∨ seg ∈ C.segs q} :=
    fun seg hseg seg' hseg' heq => hinj hseg hseg' (base64Chars_inj.1 heq)
  have hp := width_tokenDigits hsize (C.segs p)
  have hq := width_tokenDigits hsize (C.segs q)
  constructor
  · rw [← String.toList_inj, toList_makeTokenPath hbase64, toList_makeTokenPath hbase64,
      intercalate_inj (by decide) hp hq, map_inj_of_injOn hdigits]
  · intro hne
    rw [String.toList_append, toList_makeTokenPath hbase64, toList_makeTokenPath hbase64,
      show "/".toList = ['/'] from rfl,
      intercalate_concat_isPrefix_iff hp hq (by simpa using hne), map_isPrefix_map_iff hdigits,
      Ne, map_inj_of_injOn hdigits]

end

/-- The file is below the folder. -/
theorem makeTokenPath_reflects_segs_home :
    (sized.makeTokenPath "alice".toByteArray "~" ++ "/").toList <+:
      (sized.makeTokenPath "alice".toByteArray "~/A.txt").toList := by
  have hinj : Set.InjOn (sized.makeEqIndex "alice".toByteArray)
      {seg | seg ∈ sized.segs "~" ∨ seg ∈ sized.segs "~/A.txt"} := by
    have hsegs : ∀ seg, seg ∈ sized.segs "~" ∨ seg ∈ sized.segs "~/A.txt" →
        seg = "~" ∨ seg = "a.txt" := by
      have hhome : sized.segs "~" = ["~"] := by decide
      have hfile : sized.segs "~/A.txt" = ["~", "a.txt"] := by decide
      intro seg hseg
      rw [hhome, hfile] at hseg
      simpa using hseg
    have hne : sized.makeEqIndex "alice".toByteArray "~" ≠
        sized.makeEqIndex "alice".toByteArray "a.txt" := by decide +kernel
    intro seg hseg seg' hseg' heq
    rcases hsegs seg hseg with rfl | rfl <;> rcases hsegs seg' hseg' with rfl | rfl
    · rfl
    · exact absurd heq hne
    · exact absurd heq.symm hne
    · rfl
  have h := makeTokenPath_reflects_segs (fun _ => rfl) (sized_sized.hmacSha256 _) hinj
  exact (h.2 (by decide)).2 (by decide)

end Crypto

end CosmicSync
