import CosmicSync.Storage.Accounts

/-!
# The validation of a token

`OAuthService::validate_token` looks up the token that a client sends, and answers with the
hash of its account, if the token is valid and has not expired. It is the gate of every call.

The first ten bytes of the token go to the log. A slice of a string that ends within a
character panics, so a token with a character across its tenth byte is never answered, neither
if it is stored nor if it is not.

* `TokenStorage`: where tokens are looked up, with the storage in memory (`memoryTokens`) and the
  database (`mySqlTokens`).
* `validateToken`: the validation, `none` if it panics.
-/

namespace CosmicSync

open Table

/-! ## Where tokens are stored -/

/-- The trait `Storage`, as far as a validation uses it, with the states `σ`. -/
structure TokenStorage (σ : Type) where
  getAuthToken : σ → String → Except StorageError (Option AuthToken)
  /-- The token objects that are stored. -/
  tokens : σ → List AuthToken
  getAuthToken_eq_some : ∀ s token a,
    getAuthToken s token = .ok (some a) ↔ a ∈ tokens s ∧ a.accessToken = token

/-- The tokens in memory, by their values. -/
structure MemoryTokens where
  authTokens : HashMap String AuthToken
  named : ∀ e ∈ authTokens.entries, e.2.accessToken = e.1

namespace MemoryTokens

/-- `StorageData::new`. -/
def new : MemoryTokens := ⟨.empty, fun _ h => absurd h List.not_mem_nil⟩

/-- `create_auth_token` and `update_auth_token`: both insert the token under its value. -/
def insert (d : MemoryTokens) (token : AuthToken) : MemoryTokens where
  authTokens := d.authTokens.insert token.accessToken token
  named e he := by
    rcases HashMap.mem_insert.1 he with rfl | ⟨he, -⟩
    · rfl
    · exact d.named e he

/-- `delete_auth_token`. -/
def delete (d : MemoryTokens) (token : String) : MemoryTokens where
  authTokens := d.authTokens.remove token
  named e he := d.named e (List.mem_of_mem_filter he)

end MemoryTokens

/-- `MemoryStorage`. -/
def memoryTokens : TokenStorage MemoryTokens where
  getAuthToken d token := .ok (d.authTokens.get? token)
  tokens d := d.authTokens.entries.map Prod.snd
  getAuthToken_eq_some d token a := by
    rw [Except.ok.injEq, HashMap.get?_eq_some, List.mem_map]
    constructor
    · intro h
      exact ⟨⟨_, h, rfl⟩, d.named _ h⟩
    · rintro ⟨⟨e, he, rfl⟩, htoken⟩
      rw [d.named e he] at htoken
      rwa [← htoken]

/-- The table `auth_tokens`: no two rows have the same `access_token`. -/
structure TokenTable where
  rows : List AuthTokenRow
  unique : Keyed AuthTokenRow.accessToken rows

namespace TokenTable

/-- The token of a row, if its times are in range. A token in the database is valid. -/
def toAuthToken (r : AuthTokenRow) : Except StorageError AuthToken :=
  match DateTime.fromTimestamp r.expiresAt 0, DateTime.fromTimestamp r.createdAt 0 with
  | none, _ => .error (.general ("만료 시간 변환 실패: " ++ toString r.expiresAt))
  | some _, none => .error (.general ("생성 시간 변환 실패: " ++ toString r.createdAt))
  | some expiresAt, some createdAt => .ok {
      tokenId := r.id
      accountHash := r.accountHash
      accessToken := r.accessToken
      refreshToken := some r.refreshToken
      createdAt := createdAt
      expiresAt := expiresAt
      isValid := true
      tokenType := r.tokenType
      scope := none }

theorem accessToken_of_toAuthToken {r : AuthTokenRow} {a : AuthToken} (h : toAuthToken r = .ok a) :
    a.accessToken = r.accessToken := by
  rw [toAuthToken] at h
  split at h
  · cases h
  · cases h
  · cases h
    rfl

/-- `get_auth_token`. -/
def getAuthToken (pl : Planner) (t : TokenTable) (token : String) :
    Except StorageError (Option AuthToken) :=
  match fetchOptional pl (·.accessToken = token) t.rows with
  | some r => (toAuthToken r).map some
  | none => .ok none

end TokenTable

theorem toOption_eq_some {ε α : Type} {x : Except ε α} {a : α} :
    x.toOption = some a ↔ x = .ok a := by
  rcases x with e | b
  · exact iff_of_false (fun h => by cases h) fun h => by cases h
  · simp [Except.toOption]

/-- `MySqlStorage`. A row with a time out of range is no token object. -/
def mySqlTokens (pl : Planner) : TokenStorage TokenTable where
  getAuthToken := TokenTable.getAuthToken pl
  tokens t := t.rows.filterMap fun r => (TokenTable.toAuthToken r).toOption
  getAuthToken_eq_some t token a := by
    simp only [List.mem_filterMap, toOption_eq_some]
    constructor
    · intro h
      rw [TokenTable.getAuthToken] at h
      split at h
      next r hfetch =>
        obtain ⟨hmem, htoken⟩ := fetchOptional_some hfetch
        obtain ⟨b, hb, hsome⟩ := map_eq_ok h
        cases hsome
        exact ⟨⟨r, hmem, hb⟩, (TokenTable.accessToken_of_toAuthToken hb).trans htoken⟩
      next => cases h
    · rintro ⟨⟨r, hmem, hr⟩, htoken⟩
      rw [TokenTable.accessToken_of_toAuthToken hr] at htoken
      have hfetch := t.unique.fetchOptional_eq_some (p := (·.accessToken = token)) pl hmem htoken
        fun b _ hb => hb.trans htoken.symm
      rw [TokenTable.getAuthToken, hfetch]
      dsimp only
      rw [hr]
      rfl

/-! ## The validation -/

/-- `&s[..n]`: a slice that ends within a character panics. -/
def sliceTo (s : String) (n : ℕ) : Option String :=
  if String.Pos.Raw.IsValid s ⟨n⟩ then some (fromUtf8Lossy (s.toByteArray.extract 0 n)) else none

/-- `AuthError`, the errors of a validation. -/
inductive TokenError where
  | invalidToken (msg : String)
  | database (msg : String)
  deriving DecidableEq, Repr

/-- The start of the token, for the log. -/
def tokenStart (token : String) : Option String := sliceTo token (min 10 token.utf8ByteSize)

section

variable {σ : Type} (S : TokenStorage σ) (s : σ) (now : DateTime) (token : String)

/-- `validate_token`, of a release build with all logs; `none` if it panics. -/
def validateToken : Option (Except TokenError String) :=
  if token = "" then some (.error (.invalidToken "Token is empty"))
  else do
    let _ ← tokenStart token
    match S.getAuthToken s token with
    | .ok (some tokenObj) =>
      if ¬now.le tokenObj.expiresAt then return .error (.invalidToken "Token has expired")
      else if ¬tokenObj.isValid then return .error (.invalidToken "Token is deactivated")
      else return .ok tokenObj.accountHash
    | .ok none => do
      let _ ← tokenStart token
      return .error (.invalidToken "Token not found")
    | .error e => return .error (.database e.display)

variable {s now token}

/-- The token has at most ten bytes, or a character ends with the tenth. -/
def TenBytes (token : String) : Prop :=
  token.utf8ByteSize ≤ 10 ∨ ∃ front back, token = front ++ back ∧ front.utf8ByteSize = 10

theorem isSome_tokenStart_iff : (tokenStart token).isSome ↔ TenBytes token := by
  rw [tokenStart, sliceTo, apply_ite Option.isSome, TenBytes]
  have hvalid : String.Pos.Raw.IsValid token ⟨min 10 token.utf8ByteSize⟩ ↔
      token.utf8ByteSize ≤ 10 ∨ ∃ front back, token = front ++ back ∧ front.utf8ByteSize = 10 := by
    rw [String.Pos.Raw.isValid_iff_exists_append]
    constructor
    · rintro ⟨front, back, heq, hsize⟩
      have hsize : min 10 token.utf8ByteSize = front.utf8ByteSize :=
        congrArg String.Pos.Raw.byteIdx hsize
      by_cases hle : token.utf8ByteSize ≤ 10
      · exact .inl hle
      · exact .inr ⟨front, back, heq, by omega⟩
    · rintro (hle | ⟨front, back, heq, hsize⟩)
      · refine ⟨token, "", by simp, ?_⟩
        rw [min_eq_right hle]
        rfl
      · refine ⟨front, back, heq, ?_⟩
        have hle : 10 ≤ token.utf8ByteSize := by
          rw [heq, String.utf8ByteSize_append]
          omega
        rw [min_eq_left hle, ← hsize]
        rfl
  simpa using hvalid

theorem validateToken_empty :
    validateToken S s now "" = some (.error (.invalidToken "Token is empty")) := by
  rw [validateToken, if_pos rfl]

theorem validateToken_none (hne : token ≠ "") (h : tokenStart token = none) :
    validateToken S s now token = none := by
  rw [validateToken, if_neg hne, h]
  rfl

theorem validateToken_some {front : String} (hne : token ≠ "") (h : tokenStart token = some front) :
    validateToken S s now token = some
      (match S.getAuthToken s token with
      | .ok (some tokenObj) =>
        if ¬now.le tokenObj.expiresAt then .error (.invalidToken "Token has expired")
        else if ¬tokenObj.isValid then .error (.invalidToken "Token is deactivated")
        else .ok tokenObj.accountHash
      | .ok none => .error (.invalidToken "Token not found")
      | .error e => .error (.database e.display)) := by
  rw [validateToken, if_neg hne, h]
  rcases S.getAuthToken s token with e | (_ | tokenObj)
  · rfl
  · rfl
  · dsimp only [bind, Option.bind_some]
    split
    · rfl
    · split <;> rfl

/-- The validation returns, and it returns the account of a valid token. -/
structure Decides (S : TokenStorage σ) (s : σ) (now : DateTime) (token : String) : Prop where
  returns : ∃ r, validateToken S s now token = some r
  ok_iff : ∀ h, validateToken S s now token = some (.ok h) ↔
    token ≠ "" ∧ ∃ a ∈ S.tokens s, a.accessToken = token ∧ a.isValid = true ∧ now.le a.expiresAt ∧
      a.accountHash = h

theorem exists_token_iff {P : AuthToken → Prop} :
    (∃ a ∈ S.tokens s, a.accessToken = token ∧ P a) ↔
      ∃ a, S.getAuthToken s token = .ok (some a) ∧ P a := by
  simp only [S.getAuthToken_eq_some, and_assoc]

/-- A token is validated, and its account is answered exactly if it is valid, unless a character
    stands across its tenth byte. -/
theorem decides_iff : Decides S s now token ↔ TenBytes token := by
  rw [← isSome_tokenStart_iff]
  by_cases hne : token = ""
  · subst hne
    refine iff_of_true ⟨⟨_, validateToken_empty S⟩, fun h => ?_⟩ (by decide)
    rw [validateToken_empty]
    exact iff_of_false (fun h => by cases h) fun h => h.1 rfl
  rcases hstart : tokenStart token with _ | front
  · refine iff_of_false (fun h => ?_) (by decide)
    obtain ⟨r, hr⟩ := h.returns
    rw [validateToken_none S hne hstart] at hr
    cases hr
  · refine iff_of_true ⟨⟨_, validateToken_some S hne hstart⟩, fun h => ?_⟩ rfl
    rw [validateToken_some S hne hstart, and_iff_right hne, exists_token_iff]
    rcases S.getAuthToken s token with e | (_ | tokenObj)
    · simp
    · simp
    · by_cases hexpired : now.le tokenObj.expiresAt
      · by_cases hvalid : tokenObj.isValid = true
        · simp [hexpired, hvalid]
        · simp [hexpired, hvalid]
      · simp [hexpired]

end

/-- A token whose tenth byte is the first of two. -/
theorem not_decides_memoryTokens :
    validateToken memoryTokens .new ⟨0, 0⟩ "123456789é" = none ∧
      ¬Decides memoryTokens .new ⟨0, 0⟩ "123456789é" := by
  have hpanics : validateToken memoryTokens .new ⟨0, 0⟩ "123456789é" = none := by decide
  refine ⟨hpanics, fun h => ?_⟩
  obtain ⟨r, hr⟩ := h.returns
  rw [hpanics] at hr
  cases hr

end CosmicSync
