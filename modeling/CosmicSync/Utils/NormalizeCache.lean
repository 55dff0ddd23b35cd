import CosmicSync.Library.HashMap
import CosmicSync.Library.Run
import CosmicSync.Utils.Text

/-!
# The cache of normalised paths

`normalize_path_preserve_tilde` of `utils/helpers.rs` remembers what it has returned for a path,
if the path is short. The result is put into the cache at each of its return points, under the
path as it was given, and not as it was trimmed.

* `NormalizeCache.normalizePath`: a call, with every return point of the source.
* `normalizePath_of_miss`: a call that finds nothing computes `normalizePathPreserveTilde`.
* `normalizePath_run`: so does every call of every run, and the cache holds nothing else.
-/

namespace CosmicSync

open Table Run

/-- `NORMALIZE_CACHE`. Its lock is poisoned if a thread has panicked while it held it; then
    nothing is looked up and nothing is put in. -/
structure NormalizeCache where
  entries : HashMap String String
  poisoned : Bool

namespace NormalizeCache

variable (cache : NormalizeCache)

/-- A path is looked up if it is at most 256 bytes long. -/
def lookup (path : String) : Option String :=
  if path.utf8ByteSize ≤ 256 ∧ cache.poisoned = false then cache.entries.get? path else none

/-- A return point: `v` is put into the cache and returned. -/
def remember (path v : String) : String × NormalizeCache :=
  (v, if path.utf8ByteSize ≤ 256 ∧ cache.poisoned = false then
    { cache with entries := cache.entries.insert path v } else cache)

/-- The return points for absolute paths. -/
def normalizeAbsolutePath (path : String) (trimmed : List Char) : String × NormalizeCache :=
  if "/home/".toList <+: trimmed then
    if trimmed.length ≤ 6 then cache.remember path "~"
    else
      let afterHome := trimmed.drop 6
      match afterHome.findIdx? (· = '/') with
      | some slashPos =>
        let remaining := afterHome.drop slashPos
        if remaining = [] ∨ remaining = ['/'] then cache.remember path "~"
        else cache.remember path (String.ofList ('~' :: remaining))
      | none => cache.remember path "~"
  else if trimmed = ['/'] then cache.remember path "~"
  else cache.remember path (String.ofList ('~' :: trimmed))

/-- `normalize_path_preserve_tilde`, with the cache that it leaves. -/
def normalizePath (path : String) : String × NormalizeCache :=
  match cache.lookup path with
  | some v => (v, cache)
  | none =>
    let trimmed := trim path.toList
    if path.isEmpty then cache.remember path "~/"
    else if trimmed = [] then cache.remember path "~/"
    else if trimmed = "~".toList ∨ trimmed = "~/.".toList then cache.remember path "~/"
    else if "~/".toList <+: trimmed then cache.remember path (String.ofList trimmed)
    else if "/".toList <+: trimmed then cache.normalizeAbsolutePath path trimmed
    else if "./".toList <+: trimmed then
      if trimmed.length ≤ 2 then cache.remember path "~"
      else
        let afterDot := trimmed.drop 2
        if afterDot = [] then cache.remember path "~"
        else cache.remember path (String.ofList ("~/".toList ++ afterDot))
    else if ".config/".toList <+: trimmed ∨ ".local/".toList <+: trimmed ∨
        ".cache/".toList <+: trimmed then
      cache.remember path (String.ofList ("~/".toList ++ trimmed))
    else if '/' ∉ trimmed then cache.remember path (String.ofList ("~/".toList ++ trimmed))
    else cache.remember path (String.ofList ("~/".toList ++ trimmed))

/-! ## What a call returns -/

variable {cache} {path v : String} {trimmed : List Char}

/-- What follows the user's name begins at the slash that is found. -/
theorem dropWhile_ne_slash (l : List Char) :
    l.dropWhile (· ≠ '/') = ((l.findIdx? (· = '/')).map l.drop).getD [] := by
  have hdrop : l.dropWhile (· ≠ '/') = l.drop (l.findIdx (· = '/')) := by
    rw [List.dropWhile_eq_drop_findIdx_not]
    simp
  rw [hdrop]
  cases hfind : l.findIdx? (· = '/') with
  | some slashPos =>
    rw [(List.findIdx?_eq_some_iff_findIdx_eq.1 hfind).2]
    rfl
  | none =>
    rw [List.findIdx?_eq_none_iff_findIdx_eq.1 hfind, List.drop_length]
    rfl

theorem normalizeAbsolutePath_eq :
    cache.normalizeAbsolutePath path trimmed =
      cache.remember path (String.ofList (normalizeAbsolute trimmed)) := by
  rw [normalizeAbsolutePath, normalizeAbsolute]
  by_cases hhome : "/home/".toList <+: trimmed
  · rw [if_pos hhome, if_pos hhome]
    by_cases hshort : trimmed.length ≤ 6
    · rw [if_pos hshort, if_pos hshort]
    · rw [if_neg hshort, if_neg hshort, dropWhile_ne_slash]
      dsimp only
      cases (trimmed.drop 6).findIdx? (· = '/') with
      | some slashPos =>
        dsimp only [Option.map_some, Option.getD_some]
        split <;> rfl
      | none => rfl
  · rw [if_neg hhome, if_neg hhome]
    split <;> rfl

/-- Whichever return point a call takes that finds nothing, it normalises the path. -/
theorem normalizePath_of_miss (h : cache.lookup path = none) :
    cache.normalizePath path = cache.remember path (normalizePathPreserveTilde path) := by
  rw [normalizePath, h, normalizePathPreserveTilde, normalizeChars]
  dsimp only
  by_cases hblank : path.toList = [] ∨ trim path.toList = []
  · rw [if_pos hblank]
    split
    next => rfl
    next hne =>
      rw [if_pos (hblank.resolve_left (by simpa using hne))]
      rfl
  obtain ⟨hne, htrim⟩ := not_or.1 hblank
  rw [if_neg hblank, if_neg (by simpa using hne), if_neg htrim]
  by_cases htilde : trim path.toList = "~".toList ∨ trim path.toList = "~/.".toList
  · rw [if_pos htilde, if_pos htilde]
    rfl
  rw [if_neg htilde, if_neg htilde]
  by_cases hkept : "~/".toList <+: trim path.toList
  · rw [if_pos hkept, if_pos hkept]
  rw [if_neg hkept, if_neg hkept]
  by_cases habsolute : "/".toList <+: trim path.toList
  · rw [if_pos habsolute, if_pos habsolute, normalizeAbsolutePath_eq]
  rw [if_neg habsolute, if_neg habsolute]
  by_cases hdot : "./".toList <+: trim path.toList
  · rw [if_pos hdot, if_pos hdot]
    by_cases hshort : (trim path.toList).length ≤ 2
    · rw [if_pos hshort, if_pos hshort]
    · rw [if_neg hshort, if_neg hshort, if_neg (mt List.drop_eq_nil_iff.1 hshort)]
  · rw [if_neg hdot, if_neg hdot, ite_self, ite_self]

example : (normalizePath ⟨.empty, false⟩ " /home/kim/a.txt").2.entries.entries =
    [(" /home/kim/a.txt", "~/a.txt")] := by decide

/-! ## What the cache holds -/

/-- What is in the cache has been computed, for a path that is looked up. -/
def Sound (cache : NormalizeCache) : Prop :=
  ∀ e ∈ cache.entries.entries, e.1.utf8ByteSize ≤ 256 ∧ e.2 = normalizePathPreserveTilde e.1

namespace Sound

theorem empty (poisoned : Bool) : Sound ⟨.empty, poisoned⟩ :=
  fun _ he => absurd he List.not_mem_nil

theorem eq_of_lookup (hcache : cache.Sound) (h : cache.lookup path = some v) :
    v = normalizePathPreserveTilde path := by
  rw [lookup] at h
  split at h
  next => exact (hcache _ (HashMap.get?_eq_some.1 h)).2
  next => cases h

theorem remember (hcache : cache.Sound) (path : String) :
    (cache.remember path (normalizePathPreserveTilde path)).2.Sound := by
  rw [NormalizeCache.remember]
  split
  next hshort =>
    intro e he
    rcases HashMap.mem_insert.1 he with rfl | ⟨he, -⟩
    · exact ⟨hshort.1, rfl⟩
    · exact hcache e he
  next => exact hcache

/-- A call computes what the cache holds, or remembers what it computes. -/
theorem normalizePath (hcache : cache.Sound) (path : String) :
    (cache.normalizePath path).1 = normalizePathPreserveTilde path ∧
      (cache.normalizePath path).2.Sound := by
  cases h : cache.lookup path with
  | some v =>
    rw [NormalizeCache.normalizePath, h]
    exact ⟨hcache.eq_of_lookup h, hcache⟩
  | none =>
    rw [normalizePath_of_miss h]
    exact ⟨rfl, hcache.remember path⟩

end Sound

/-! ## Runs -/

/-- The cache that a call leaves. -/
def step (cache : NormalizeCache) (path : String) : NormalizeCache := (cache.normalizePath path).2

/-- In every run, from the empty cache, every call returns the normalised path, and the cache
    holds the normalised paths of short paths only. -/
theorem normalizePath_run (poisoned : Bool) (paths : List String) :
    Guarded step
        (fun cache path => (cache.normalizePath path).1 = normalizePathPreserveTilde path)
        ⟨.empty, poisoned⟩ paths ∧
      ∀ e ∈ (run step ⟨.empty, poisoned⟩ paths).entries.entries,
        e.1.utf8ByteSize ≤ 256 ∧ e.2 = normalizePathPreserveTilde e.1 := by
  constructor
  · exact Guarded.of_invariant (fun cache path _ hcache => hcache.normalizePath path)
      (Sound.empty poisoned)
  · exact run_invariant (I := Sound) (fun cache path hcache => (hcache.normalizePath path).2)
      (Sound.empty poisoned)

end NormalizeCache

end CosmicSync
