import CosmicSync.Library.Run
import CosmicSync.Storage.Accounts

/-!
# Logins

`process_oauth_code` looks for the account of a user by the hash of the email, and then by
the email, and creates it if it is not found. The hash depends on how the email is spelled,
the search by email does not: an account that is found under another spelling is given the
new hash, which in memory makes a second account of it, and in the database none.

* `Lawful` storages: `memoryAccounts`, `mySqlAccounts`.
* `OnePerson`: each email has one account, and every login is told its hash.
-/

namespace CosmicSync

open Table Run

/-- `OAuthUserInfo`. -/
structure OAuthUserInfo where
  id : String
  userId : String
  name : String

/-- The email of a user. -/
def OAuthUserInfo.email (user : OAuthUserInfo) : String :=
  if '@' ∈ user.userId.toList then user.userId else user.userId ++ "@example.com"

/-- `AuthError`, the errors below. -/
inductive AuthError where
  | externalService (msg : String)
  | database (msg : String)

/-- What a login meets: the answer of the OAuth server, the clock, the values that are generated,
    the key that `get_encryption_key` returns, and the errors of the calls of the storage, which
    are made up to three times for the account and for the token. -/
structure LoginInputs where
  user : Except String OAuthUserInfo
  now : DateTime
  accountId : String
  tokenId : String
  authToken : String
  encryptionKey : String
  hashFault : Option StorageError
  emailFault : Option StorageError
  updateFault : Option StorageError
  createFaults : Fin 3 → Option StorageError
  tokenFaults : Fin 3 → Option StorageError

/-- The email with which a login comes. -/
def LoginInputs.email (i : LoginInputs) : Option String := i.user.toOption.map OAuthUserInfo.email

namespace OAuth

variable {σ : Type} (S : AccountStorage σ) (sha256AsString : String → String)

/-- `generate_account_hash_from_email_only`. -/
def generateAccountHashFromEmailOnly (email : String) : String := sha256AsString email

/-- The account is looked for by its hash, then by the email; a search that fails finds
    nothing. -/
def existingAccount (s : σ) (i : LoginInputs) (accountHash email : String) : Option Account :=
  match S.getAccountByHash s i.now i.hashFault accountHash with
  | .ok (some account) => some account
  | .ok none =>
    match S.getAccountByEmail s i.now i.emailFault email with
    | .ok account => account
    | .error _ => none
  | .error _ => none

/-- The error says that the account is there. -/
def Duplicate (e : StorageError) : Prop := "Duplicate".toList <:+: e.display.toList

instance (e : StorageError) : Decidable (Duplicate e) := inferInstanceAs (Decidable (_ <:+: _))

/-- The account is created, at the first attempt that does not fail. -/
def createAccount (s : σ) (account : Account) : List (Option StorageError) → σ
  | [] => s
  | fault :: faults =>
    match S.createAccount s fault account with
    | .ok s' => s'
    | .error e => if Duplicate e then s else createAccount s account faults

/-- The token is saved, at the first attempt that does not fail. -/
def createAuthToken (s : σ) (token : AuthToken) : List (Option StorageError) → Option σ
  | [] => none
  | fault :: faults =>
    match S.createAuthToken s fault token with
    | .ok s' => some s'
    | .error _ => createAuthToken s token faults

/-- The account that is created for a user. -/
def newAccount (i : LoginInputs) (user : OAuthUserInfo) (accountHash : String) : Account where
  accountHash := accountHash
  id := i.accountId
  email := user.email
  name := user.name
  userType := "oauth"
  passwordHash := ""
  salt := ""
  isActive := true
  createdAt := i.now
  lastLogin := i.now
  updatedAt := i.now
  userId := user.userId

/-- The account that is found is updated, with the hash; otherwise one is created. Either may
    fail, and the login goes on. -/
def storeAccount (s : σ) (i : LoginInputs) (user : OAuthUserInfo) (accountHash : String) : σ :=
  match existingAccount S s i accountHash user.email with
  | some account =>
    let account :=
      { account with accountHash := accountHash, lastLogin := i.now, updatedAt := i.now }
    match S.updateAccount s i.updateFault account with
    | .ok s' => s'
    | .error _ => s
  | none => createAccount S s (newAccount i user accountHash) (List.ofFn i.createFaults)

/-- The token of a login. -/
def newToken (i : LoginInputs) (accountHash : String) : AuthToken where
  tokenId := i.tokenId
  accountHash := accountHash
  accessToken := i.authToken
  refreshToken := none
  createdAt := i.now
  expiresAt := ⟨i.now.seconds + 24 * 3600, i.now.nanos⟩
  isValid := true
  tokenType := "Bearer"
  scope := none

/-- `process_oauth_code`: the token, the hash and the key. The account stays as it was stored even
    if the token cannot be. -/
def processOauthCode (clientAccountHash : Option String) (s : σ) (i : LoginInputs) :
    Except AuthError (String × String × String) × σ :=
  match i.user with
  | .error e => (.error (.externalService ("OAuth authentication failed: " ++ e)), s)
  | .ok user =>
    let accountHash :=
      clientAccountHash.getD (generateAccountHashFromEmailOnly sha256AsString user.email)
    let s := storeAccount S s i user accountHash
    match createAuthToken S s (newToken i accountHash) (List.ofFn i.tokenFaults) with
    | some s' => (.ok (i.authToken, accountHash, i.encryptionKey), s')
    | none => (.error (.database "Failed to save auth token after 3 attempts"), s)

/-! ## Histories of logins -/

/-- The storage, and the logins that succeeded: their emails and the hashes they were told. -/
structure History (σ : Type) where
  storage : σ
  logins : List (String × String)

/-- A login without a hash of the client. -/
def login (h : History σ) (i : LoginInputs) : History σ :=
  let res := processOauthCode S sha256AsString none h.storage i
  { storage := res.2
    logins := h.logins ++
      match res.1, i.email with
      | .ok (_, accountHash, _), some email => [(email, accountHash)]
      | _, _ => [] }

/-- The login succeeds. -/
def Successful (h : History σ) (i : LoginInputs) : Prop :=
  (processOauthCode S sha256AsString none h.storage i).1.toOption.isSome

instance (h : History σ) (i : LoginInputs) : Decidable (Successful S sha256AsString h i) :=
  inferInstanceAs (Decidable (_ = true))

/-- Every login has left an account with the hash it was told; emails that differ in case only are
    told the same hash, and have one account. -/
structure OnePerson (toLowercase : String → String) (h : History σ) : Prop where
  stored : ∀ x ∈ h.logins, ∃ y ∈ S.accounts h.storage, y.1 = x.2
  sameHash : ∀ x ∈ h.logins, ∀ y ∈ h.logins, toLowercase x.1 = toLowercase y.1 → x.2 = y.2
  oneAccount : ∀ x ∈ S.accounts h.storage, ∀ y ∈ S.accounts h.storage,
    toLowercase x.2 = toLowercase y.2 → x = y

/-- Emails that differ in case only have the same hash: they are spelled alike. -/
def SpelledAlike (toLowercase : String → String) (calls : List LoginInputs) : Prop :=
  ∀ i ∈ calls, ∀ i' ∈ calls, ∀ e ∈ i.email, ∀ e' ∈ i'.email, toLowercase e = toLowercase e' →
    sha256AsString e = sha256AsString e'

instance (toLowercase : String → String) (calls : List LoginInputs) :
    Decidable (SpelledAlike sha256AsString toLowercase calls) :=
  inferInstanceAs (Decidable (∀ i ∈ calls, ∀ i' ∈ calls, _))

section

variable {S sha256AsString} {toLowercase : String → String} {s : σ} {i : LoginInputs}
  {user : OAuthUserInfo} {h : History σ} {calls : List LoginInputs}

/-- The accounts have the hashes of their emails, which are among `E`. -/
def Proper (S : AccountStorage σ) (sha256AsString : String → String) (E : String → Prop) (s : σ) :
    Prop :=
  ∀ x ∈ S.accounts s, x.1 = sha256AsString x.2 ∧ E x.2

theorem existingAccount_cases {accountHash email : String} {account : Account}
    (h : existingAccount S s i accountHash email = some account) :
    S.getAccountByHash s i.now i.hashFault accountHash = .ok (some account) ∨
      S.getAccountByEmail s i.now i.emailFault email = .ok (some account) := by
  rw [existingAccount] at h
  split at h
  next account' hfound =>
    cases h
    exact .inl hfound
  next =>
    split at h
    next account' hfound => exact .inr (h ▸ hfound)
    next => cases h
  next => cases h

/-- The account that is found has the hash of the email. -/
theorem hash_of_existingAccount (hS : S.Lawful toLowercase) {E : String → Prop}
    (halike : ∀ e e', E e → E e' → toLowercase e = toLowercase e' →
      sha256AsString e = sha256AsString e')
    (hs : Proper S sha256AsString E s) (hE : E user.email) {account : Account}
    (h : existingAccount S s i (sha256AsString user.email) user.email = some account) :
    sha256AsString user.email = sha256AsString account.email ∧ E account.email := by
  rcases existingAccount_cases h with hfound | hfound
  · exact hs _ (hS.byHash hfound).2
  · obtain ⟨hmem, hlower⟩ := hS.byEmail hfound
    have hE' := (hs _ hmem).2
    exact ⟨halike _ _ hE hE' hlower.symm, hE'⟩

theorem createAccount_cases (account : Account) (faults : List (Option StorageError)) :
    createAccount S s account faults = s ∨
      ∃ fault, S.createAccount s fault account = .ok (createAccount S s account faults) := by
  induction faults with
  | nil => exact .inl rfl
  | cons fault faults ih =>
    rw [createAccount]
    split
    next s' hs' => exact .inr ⟨fault, hs'⟩
    next =>
      split
      next => exact .inl rfl
      next => exact ih

theorem createAuthToken_some {token : AuthToken} {faults : List (Option StorageError)} {s' : σ}
    (h : createAuthToken S s token faults = some s') :
    ∃ fault, S.createAuthToken s fault token = .ok s' := by
  induction faults with
  | nil => cases h
  | cons fault faults ih =>
    rw [createAuthToken] at h
    split at h
    next s'' hs'' =>
      cases h
      exact ⟨fault, hs''⟩
    next => exact ih h

/-- The account is written under the hash, or nothing is. -/
theorem storeAccount_cases (hS : S.Lawful toLowercase) (accountHash : String) :
    storeAccount S s i user accountHash = s ∨
      ∃ account : Account, account.accountHash = accountHash ∧
        (account.email = user.email ∨
          ∃ found, existingAccount S s i accountHash user.email = some found ∧
            found.email = account.email) ∧
        S.Writes account s (storeAccount S s i user accountHash) := by
  rw [storeAccount]
  split
  next found hfound =>
    dsimp only
    split
    next s' hs' =>
      refine .inr ⟨_, ?_, ?_, hS.update hs'⟩
      · rfl
      · exact .inr ⟨found, hfound, rfl⟩
    next => exact .inl rfl
  next =>
    rcases createAccount_cases (S := S) (s := s) (newAccount i user accountHash)
      (List.ofFn i.createFaults) with heq | ⟨fault, hcreated⟩
    · exact .inl heq
    · exact .inr ⟨_, rfl, .inl rfl, hS.create hcreated⟩

/-- The accounts that were there stay, under their hashes. -/
theorem exists_account_of_storeAccount (hS : S.Lawful toLowercase) (accountHash : String)
    {x : String × String} (hx : x ∈ S.accounts s) :
    ∃ y ∈ S.accounts (storeAccount S s i user accountHash), y.1 = x.1 := by
  rcases storeAccount_cases hS accountHash with heq | ⟨account, -, -, hwrites⟩
  · rw [heq]
    exact ⟨x, hx, rfl⟩
  · exact hwrites.kept x hx

/-- Among emails whose hashes do not tell spellings apart, the accounts stay under the hashes
    of their emails. -/
theorem Proper.storeAccount (hS : S.Lawful toLowercase) {E : String → Prop}
    (halike : ∀ e e', E e → E e' → toLowercase e = toLowercase e' →
      sha256AsString e = sha256AsString e')
    (hE : E user.email) (hs : Proper S sha256AsString E s) :
    Proper S sha256AsString E (storeAccount S s i user (sha256AsString user.email)) := by
  rcases storeAccount_cases (s := s) (i := i) hS (sha256AsString user.email) with
    heq | ⟨account, hhash, hemail, hwrites⟩
  · rw [heq]
    exact hs
  · have haccount : sha256AsString user.email = sha256AsString account.email ∧ E account.email := by
      -- An account that is found may spell the email in another way, with the same hash.
      rcases hemail with hemail | ⟨found, hfound, hemail⟩
      · rw [hemail]
        exact ⟨rfl, hE⟩
      · rw [← hemail]
        exact hash_of_existingAccount hS halike hs hE hfound
    intro x hx
    rcases hwrites.only x hx with hx | rfl
    · exact hs x hx
    · rw [hhash]
      exact haccount

/-- A login that saves its token has an account with the hash. -/
theorem exists_account_of_token (hS : S.Lawful toLowercase) {accountHash : String} {s' : σ}
    (htoken : createAuthToken S (storeAccount S s i user accountHash) (newToken i accountHash)
      (List.ofFn i.tokenFaults) = some s') :
    ∃ x ∈ S.accounts (storeAccount S s i user accountHash), x.1 = accountHash := by
  -- In the database the token refers to its account; in memory it does not, but there the
  -- account cannot fail to be written.
  rcases hS.stored with hforeign | hinfallible
  · obtain ⟨fault, hs'⟩ := createAuthToken_some htoken
    exact hforeign hs'
  · rw [storeAccount]
    split
    next found hfound =>
      obtain ⟨⟨s₁, hs₁, hstored⟩, -⟩ := hinfallible s i.updateFault
        { found with accountHash := accountHash, lastLogin := i.now, updatedAt := i.now }
      dsimp only
      rw [hs₁]
      exact hstored
    next =>
      obtain ⟨-, s₁, hs₁, hstored⟩ :=
        hinfallible s (i.createFaults 0) (newAccount i user accountHash)
      rw [List.ofFn_succ, createAccount, hs₁]
      exact hstored

/-- What a successful login does. -/
theorem processOauthCode_ok {clientAccountHash : Option String} {r : String × String × String}
    (h : (processOauthCode S sha256AsString clientAccountHash s i).1 = .ok r) :
    ∃ user accountHash s', i.user = .ok user ∧
      accountHash = clientAccountHash.getD (sha256AsString user.email) ∧
      createAuthToken S (storeAccount S s i user accountHash) (newToken i accountHash)
        (List.ofFn i.tokenFaults) = some s' ∧
      processOauthCode S sha256AsString clientAccountHash s i =
        (.ok (i.authToken, accountHash, i.encryptionKey), s') := by
  rw [processOauthCode] at h ⊢
  split at h
  next => cases h
  next user huser =>
    dsimp only at h ⊢
    split at h
    next s' hs' =>
      exact ⟨user, _, s', huser, rfl, hs', rfl⟩
    next => cases h

/-- A successful login, from the history before it. -/
theorem login_of_successful (hsuccess : Successful S sha256AsString h i) :
    ∃ user s', i.user = .ok user ∧
      createAuthToken S (storeAccount S h.storage i user (sha256AsString user.email))
        (newToken i (sha256AsString user.email)) (List.ofFn i.tokenFaults) = some s' ∧
      login S sha256AsString h i = ⟨s', h.logins ++ [(user.email, sha256AsString user.email)]⟩ := by
  rw [Successful] at hsuccess
  rcases hres : (processOauthCode S sha256AsString none h.storage i).1 with e | r
  · rw [hres] at hsuccess
    cases hsuccess
  · obtain ⟨user, accountHash, s', huser, rfl, htoken, heq⟩ := processOauthCode_ok hres
    refine ⟨user, s', huser, htoken, ?_⟩
    rw [login, heq, LoginInputs.email, huser]
    rfl

/-- The invariant of the logins with the emails `E`. -/
structure Consistent (S : AccountStorage σ) (sha256AsString : String → String) (E : String → Prop)
    (h : History σ) : Prop where
  proper : Proper S sha256AsString E h.storage
  told : ∀ x ∈ h.logins, x.2 = sha256AsString x.1 ∧ E x.1
  stored : ∀ x ∈ h.logins, ∃ y ∈ S.accounts h.storage, y.1 = x.2

theorem Consistent.login (hS : S.Lawful toLowercase) {E : String → Prop}
    (halike : ∀ e e', E e → E e' → toLowercase e = toLowercase e' →
      sha256AsString e = sha256AsString e')
    (hE : ∀ e ∈ i.email, E e) (hsuccess : Successful S sha256AsString h i)
    (hh : Consistent S sha256AsString E h) :
    Consistent S sha256AsString E (login S sha256AsString h i) := by
  obtain ⟨user, s', huser, htoken, heq⟩ := login_of_successful hsuccess
  have hEuser : E user.email := hE _ (by rw [LoginInputs.email, huser]; rfl)
  have hstored := exists_account_of_token hS htoken
  obtain ⟨fault, hs'⟩ := createAuthToken_some htoken
  have haccounts := hS.token hs'
  have hproper := hh.proper.storeAccount (i := i) hS halike hEuser
  rw [heq]
  refine ⟨?_, ?_, ?_⟩
  · rw [Proper, haccounts]
    exact hproper
  · intro x hx
    rcases List.mem_append.1 hx with hx | hx
    · exact hh.told x hx
    · rw [List.mem_singleton.1 hx]
      exact ⟨rfl, hEuser⟩
  · intro x hx
    dsimp only
    rw [haccounts]
    rcases List.mem_append.1 hx with hx | hx
    · obtain ⟨y, hy, hyx⟩ := hh.stored x hx
      obtain ⟨z, hz, hzy⟩ := exists_account_of_storeAccount hS _ hy
      exact ⟨z, hz, hzy.trans hyx⟩
    · rw [List.mem_singleton.1 hx]
      exact hstored

/-- Every successful login is recorded, with the hash of its email. -/
theorem mem_logins_of_mem
    (hsuccess : Guarded (login S sha256AsString) (Successful S sha256AsString) h calls) :
    (∀ x ∈ h.logins, x ∈ (run (login S sha256AsString) h calls).logins) ∧
      ∀ i ∈ calls, ∀ e ∈ i.email, (e, sha256AsString e) ∈
        (run (login S sha256AsString) h calls).logins := by
  induction calls generalizing h with
  | nil => exact ⟨fun _ hx => hx, fun _ hi => absurd hi List.not_mem_nil⟩
  | cons i calls ih =>
    obtain ⟨user, s', huser, -, heq⟩ := login_of_successful hsuccess.1
    obtain ⟨hold, hnew⟩ := ih hsuccess.2
    rw [run_cons]
    refine ⟨fun x hx => hold x (by rw [heq]; exact List.mem_append_left _ hx),
      fun i' hi' e he => ?_⟩
    rcases List.mem_cons.1 hi' with rfl | hi'
    · rw [LoginInputs.email, huser] at he
      cases he
      exact hold _ (by rw [heq]; exact List.mem_append_right _ (List.mem_singleton_self _))
    · exact hnew i' hi' e he

/-- A person has one account, exactly if all logins spell the email alike. -/
theorem onePerson_iff_of_lawful (hS : S.Lawful toLowercase) (hempty : S.accounts s = [])
    (hsuccess : Guarded (login S sha256AsString) (Successful S sha256AsString) ⟨s, []⟩ calls) :
    OnePerson S toLowercase (run (login S sha256AsString) ⟨s, []⟩ calls) ↔
      SpelledAlike sha256AsString toLowercase calls := by
  constructor
  · intro h i hi i' hi' e he e' he' hlower
    have hlogins := (mem_logins_of_mem hsuccess).2
    exact h.sameHash _ (hlogins i hi e he) _ (hlogins i' hi' e' he') hlower
  · -- The emails `E` are those of the calls, so that the invariant may speak of all of them
    -- from the beginning.
    intro halike
    let E (e : String) : Prop := ∃ i ∈ calls, e ∈ i.email
    have halike' : ∀ e e', E e → E e' → toLowercase e = toLowercase e' →
        sha256AsString e = sha256AsString e' :=
      fun e e' ⟨i, hi, he⟩ ⟨i', hi', he'⟩ hlower => halike i hi i' hi' e he e' he' hlower
    have hcalls := hsuccess.and (Guarded.of_forall fun _ hi => hi)
    have hinit : Consistent S sha256AsString E ⟨s, []⟩ := by
      refine ⟨fun x hx => ?_, fun x hx => absurd hx List.not_mem_nil, fun x hx =>
        absurd hx List.not_mem_nil⟩
      rw [hempty] at hx
      exact absurd hx List.not_mem_nil
    have hrun := hcalls.invariant (I := Consistent S sha256AsString E)
      (fun _ i hi hh => hh.login hS halike' (fun e he => ⟨i, hi.2, he⟩) hi.1) hinit
    refine ⟨hrun.stored, fun x hx y hy hlower => ?_, fun x hx y hy hlower => ?_⟩
    · obtain ⟨hx, hEx⟩ := hrun.told x hx
      obtain ⟨hy, hEy⟩ := hrun.told y hy
      rw [hx, hy, halike' _ _ hEx hEy hlower]
    · obtain ⟨hhash, hEx⟩ := hrun.proper x hx
      obtain ⟨hhash', hEy⟩ := hrun.proper y hy
      refine (hS.keyed _).eq_of_mem hx hy ?_
      rw [hhash, hhash', halike' _ _ hEx hEy hlower]

/-- On either storage, after any successful logins. -/
theorem onePerson_iff (pl : Planner) (sha256AsString toLowercase : String → String)
    (calls : List LoginInputs) :
    (Guarded (login (memoryAccounts pl toLowercase) sha256AsString)
        (Successful (memoryAccounts pl toLowercase) sha256AsString) ⟨.new, []⟩ calls →
      (OnePerson (memoryAccounts pl toLowercase) toLowercase
          (run (login (memoryAccounts pl toLowercase) sha256AsString) ⟨.new, []⟩ calls) ↔
        SpelledAlike sha256AsString toLowercase calls)) ∧
    (Guarded (login (mySqlAccounts pl toLowercase) sha256AsString)
        (Successful (mySqlAccounts pl toLowercase) sha256AsString) ⟨.empty, []⟩ calls →
      (OnePerson (mySqlAccounts pl toLowercase) toLowercase
          (run (login (mySqlAccounts pl toLowercase) sha256AsString) ⟨.empty, []⟩ calls) ↔
        SpelledAlike sha256AsString toLowercase calls)) :=
  ⟨fun hsuccess => onePerson_iff_of_lawful memoryAccounts_lawful rfl hsuccess,
    fun hsuccess => onePerson_iff_of_lawful mySqlAccounts_lawful rfl hsuccess⟩

end

/-! ## Spellings of an email -/

/-- SHA-256 of two spellings. -/
def sampleSha256 (s : String) : String :=
  if s = "Kim@example.com" then "c5b302189b8e8614a8a6b63f5c0965d81ad8e847b712dbc358bac7b3432e87af"
  else if s = "kim@example.com" then
    "5d9a0087d4ccdb9bc50e88c4713479119e48a326fd360d647cf1643f3cae13e7"
  else ""

/-- `to_lowercase`, on ASCII. -/
def asciiLowercase (s : String) : String := String.ofList (s.toList.map Char.toLower)

/-- A login of a user, without errors. -/
def sampleLogin (userId authToken : String) : LoginInputs where
  user := .ok ⟨"1", userId, "Kim"⟩
  now := ⟨100, 0⟩
  accountId := "a"
  tokenId := "t"
  authToken := authToken
  encryptionKey := "k"
  hashFault := none
  emailFault := none
  updateFault := none
  createFaults _ := none
  tokenFaults _ := none

/-- In memory, the second spelling is told another hash, under which there is a second account. -/
theorem not_onePerson_memory :
    Guarded (login (memoryAccounts .insertion asciiLowercase) sampleSha256)
        (Successful (memoryAccounts .insertion asciiLowercase) sampleSha256) ⟨.new, []⟩
        [sampleLogin "Kim@example.com" "x", sampleLogin "kim@example.com" "y"] ∧
      ¬OnePerson (memoryAccounts .insertion asciiLowercase) asciiLowercase
        (run (login (memoryAccounts .insertion asciiLowercase) sampleSha256) ⟨.new, []⟩
          [sampleLogin "Kim@example.com" "x", sampleLogin "kim@example.com" "y"]) := by
  refine ⟨by decide +kernel, fun h => ?_⟩
  have hlogins : (run (login (memoryAccounts .insertion asciiLowercase) sampleSha256) ⟨.new, []⟩
      [sampleLogin "Kim@example.com" "x", sampleLogin "kim@example.com" "y"]).logins =
      [("Kim@example.com", sampleSha256 "Kim@example.com"),
        ("kim@example.com", sampleSha256 "kim@example.com")] := by decide +kernel
  have hsame := h.sameHash ("Kim@example.com", sampleSha256 "Kim@example.com")
    (by rw [hlogins]; simp)
    ("kim@example.com", sampleSha256 "kim@example.com") (by rw [hlogins]; simp) (by decide +kernel)
  revert hsame
  decide +kernel

theorem onePerson_twice :
    OnePerson (memoryAccounts .insertion asciiLowercase) asciiLowercase
        (run (login (memoryAccounts .insertion asciiLowercase) sampleSha256) ⟨.new, []⟩
          [sampleLogin "kim@example.com" "x", sampleLogin "kim@example.com" "y"]) ∧
      OnePerson (mySqlAccounts .insertion asciiLowercase) asciiLowercase
        (run (login (mySqlAccounts .insertion asciiLowercase) sampleSha256) ⟨.empty, []⟩
          [sampleLogin "kim@example.com" "x", sampleLogin "kim@example.com" "y"]) := by
  have halike : SpelledAlike sampleSha256 asciiLowercase
      [sampleLogin "kim@example.com" "x", sampleLogin "kim@example.com" "y"] := by decide +kernel
  have hiff := onePerson_iff .insertion sampleSha256 asciiLowercase
    [sampleLogin "kim@example.com" "x", sampleLogin "kim@example.com" "y"]
  exact ⟨(hiff.1 (by decide +kernel)).2 halike, (hiff.2 (by decide +kernel)).2 halike⟩

end OAuth

end CosmicSync
