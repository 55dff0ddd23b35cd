import CosmicSync.Library.HashMap
import CosmicSync.Models.File
import CosmicSync.Storage.Basic

/-!
# Accounts in the two storages

An account is kept under its hash. `MemoryStorage` keeps a map, and an update of an
account inserts it under the hash that it has; `MySqlStorage` keeps rows of which the hash
is the primary key, and an update writes the row of the hash, if there is one. A token of
the database refers to an account, that of the memory does not.

What a login relies on is common to both (`AccountStorage.Lawful`).
-/

namespace CosmicSync

open Table

/-- `Account`. -/
structure Account where
  accountHash : String
  id : String
  email : String
  name : String
  userType : String
  passwordHash : String
  salt : String
  isActive : Bool
  createdAt : DateTime
  lastLogin : DateTime
  updatedAt : DateTime
  userId : String
  deriving DecidableEq

/-- `AuthToken`. -/
structure AuthToken where
  tokenId : String
  accountHash : String
  accessToken : String
  refreshToken : Option String
  createdAt : DateTime
  expiresAt : DateTime
  isValid : Bool
  tokenType : String
  scope : Option String
  deriving DecidableEq

/-- The trait `Storage`, as far as a login uses it, with the states `σ`. The calls of the
    database may fail: each is given the time, and the error of its statement if it has one. -/
structure AccountStorage (σ : Type) where
  getAccountByHash :
    σ → DateTime → Option StorageError → String → Except StorageError (Option Account)
  getAccountByEmail :
    σ → DateTime → Option StorageError → String → Except StorageError (Option Account)
  updateAccount : σ → Option StorageError → Account → Except StorageError σ
  createAccount : σ → Option StorageError → Account → Except StorageError σ
  createAuthToken : σ → Option StorageError → AuthToken → Except StorageError σ
  /-- The hashes and the emails of the accounts. -/
  accounts : σ → List (String × String)

/-! ## In memory -/

/-- `StorageData`, as far as a login uses it: accounts by their hashes, tokens by their values. -/
structure MemoryAccounts where
  accounts : HashMap String Account
  authTokens : HashMap String AuthToken
  named : ∀ e ∈ accounts.entries, e.2.accountHash = e.1

namespace MemoryAccounts

/-- `StorageData::new`. -/
def new : MemoryAccounts := ⟨.empty, .empty, fun _ h => absurd h List.not_mem_nil⟩

/-- `create_account` and `update_account`: both insert the account under its hash. -/
def insertAccount (d : MemoryAccounts) (account : Account) : MemoryAccounts where
  accounts := d.accounts.insert account.accountHash account
  authTokens := d.authTokens
  named e he := by
    rcases HashMap.mem_insert.1 he with rfl | ⟨he, -⟩
    · rfl
    · exact d.named e he

end MemoryAccounts

variable (pl : Planner) (toLowercase : String → String)

/-- `MemoryStorage`: no call fails. -/
def memoryAccounts : AccountStorage MemoryAccounts where
  getAccountByHash d _ _ accountHash := .ok (d.accounts.get? accountHash)
  getAccountByEmail d _ _ email :=
    .ok ((d.accounts.findEntry pl (toLowercase ·.email = toLowercase email)).map Prod.snd)
  updateAccount d _ account := .ok (d.insertAccount account)
  createAccount d _ account := .ok (d.insertAccount account)
  createAuthToken d _ token := .ok { d with
    authTokens := d.authTokens.insert token.accessToken token }
  accounts d := d.accounts.entries.map fun e => (e.1, e.2.email)

/-! ## In the database -/

/-- A row of the table `accounts`. -/
structure AccountRow where
  id : String
  accountHash : String
  email : String
  name : String
  passwordHash : String
  salt : String
  createdAt : ℤ
  updatedAt : ℤ
  lastLogin : ℤ
  isActive : Bool
  deriving DecidableEq

/-- A row of the table `auth_tokens`. -/
structure AuthTokenRow where
  id : String
  accountHash : String
  accessToken : String
  refreshToken : String
  tokenType : String
  expiresAt : ℤ
  createdAt : ℤ
  deriving DecidableEq

/-- The two tables; the hash is the primary key of the accounts. -/
structure AccountTables where
  accounts : List AccountRow
  authTokens : List AuthTokenRow
  keyed : Keyed AccountRow.accountHash accounts

namespace AccountTables

/-- Empty tables. -/
def empty : AccountTables := ⟨[], [], .nil⟩

/-- The account of a row. -/
def toAccount (now : DateTime) (r : AccountRow) : Account where
  accountHash := r.accountHash
  id := r.id
  email := r.email
  name := r.name
  userType := "oauth"
  passwordHash := r.passwordHash
  salt := r.salt
  isActive := r.isActive
  createdAt := (DateTime.fromTimestamp r.createdAt 0).getD now
  lastLogin := (DateTime.fromTimestamp r.lastLogin 0).getD now
  updatedAt := (DateTime.fromTimestamp r.updatedAt 0).getD now
  userId := ""

/-- The row of a new account. -/
def newRow (account : Account) : AccountRow where
  id := account.id
  accountHash := account.accountHash
  email := account.email
  name := account.name
  passwordHash := account.passwordHash
  salt := account.salt
  createdAt := account.createdAt.seconds
  updatedAt := account.updatedAt.seconds
  lastLogin := account.lastLogin.seconds
  isActive := account.isActive

/-- The columns that an update writes. -/
def writeAccount (account : Account) (r : AccountRow) : AccountRow :=
  { r with
    name := account.name
    email := account.email
    passwordHash := account.passwordHash
    salt := account.salt
    updatedAt := account.updatedAt.seconds
    lastLogin := account.lastLogin.seconds
    isActive := account.isActive }

variable (t : AccountTables)

/-- `update_account`: the row of the account's hash. -/
def updateAccount (fault : Option StorageError) (account : Account) :
    Except StorageError AccountTables :=
  match fault with
  | some e => .error e
  | none => .ok {
      accounts := updateWhere (·.accountHash = account.accountHash)
        (writeAccount account) t.accounts
      authTokens := t.authTokens
      keyed := t.keyed.updateWhere fun _ => rfl }

/-- `create_account`. -/
def createAccount (fault : Option StorageError) (account : Account) :
    Except StorageError AccountTables :=
  if h : ∀ r ∈ t.accounts, r.accountHash ≠ account.accountHash then
    match fault with
    | some e => .error e
    | none => .ok {
        accounts := t.accounts ++ [newRow account]
        authTokens := t.authTokens
        keyed := t.keyed.append h }
  else .error (.database "Duplicate entry: account_hash")

/-- The row of a token. -/
def tokenRow (token : AuthToken) : AuthTokenRow where
  id := token.tokenId
  accountHash := token.accountHash
  accessToken := token.accessToken
  refreshToken := token.refreshToken.getD ""
  tokenType := token.tokenType
  expiresAt := token.expiresAt.seconds
  createdAt := token.createdAt.seconds

/-- `create_auth_token`: the hash is a foreign key. -/
def createAuthToken (fault : Option StorageError) (token : AuthToken) :
    Except StorageError AccountTables :=
  if ∃ r ∈ t.accounts, r.accountHash = token.accountHash then
    match fault with
    | some e => .error e
    | none => .ok { t with authTokens := t.authTokens ++ [tokenRow token] }
  else .error (.database "Failed to insert auth token: a foreign key constraint fails")

variable {t} in
theorem createAuthToken_ok {t' : AccountTables} {fault : Option StorageError} {token : AuthToken}
    (h : t.createAuthToken fault token = .ok t') :
    (∃ r ∈ t.accounts, r.accountHash = token.accountHash) ∧ t'.accounts = t.accounts := by
  rw [createAuthToken.eq_def] at h
  split at h
  next hrow =>
    rcases fault with - | e
    · cases h
      exact ⟨hrow, rfl⟩
    · cases h
  next => cases h

end AccountTables

/-- `MySqlStorage`: the emails are compared without regard to case. -/
def mySqlAccounts : AccountStorage AccountTables where
  getAccountByHash t now fault accountHash :=
    match fault with
    | some e => .error e
    | none =>
      .ok ((fetchOptional pl (·.accountHash = accountHash) t.accounts).map
        (AccountTables.toAccount now))
  getAccountByEmail t now fault email :=
    match fault with
    | some e => .error e
    | none => .ok ((fetchOptional pl (toLowercase ·.email = toLowercase email) t.accounts).map
        (AccountTables.toAccount now))
  updateAccount t := t.updateAccount
  createAccount t := t.createAccount
  createAuthToken t := t.createAuthToken
  accounts t := t.accounts.map fun r => (r.accountHash, r.email)

/-! ## What is common to them -/

namespace AccountStorage

variable {σ : Type}

/-- The account is written: no other account is new or changed, and none goes. -/
structure Writes (S : AccountStorage σ) (account : Account) (s s' : σ) : Prop where
  only : ∀ x ∈ S.accounts s', x ∈ S.accounts s ∨ x = (account.accountHash, account.email)
  kept : ∀ x ∈ S.accounts s, ∃ y ∈ S.accounts s', y.1 = x.1

/-- The calls read and write accounts under their hashes; and either a token refers to an account
    that is there, or no account fails to be stored. -/
structure Lawful (S : AccountStorage σ) (toLowercase : String → String) : Prop where
  keyed : ∀ s, Keyed Prod.fst (S.accounts s)
  byHash : ∀ {s now fault accountHash account},
    S.getAccountByHash s now fault accountHash = .ok (some account) →
      account.accountHash = accountHash ∧ (accountHash, account.email) ∈ S.accounts s
  byEmail : ∀ {s now fault email account}, S.getAccountByEmail s now fault email =
    .ok (some account) →
    (account.accountHash, account.email) ∈ S.accounts s ∧
      toLowercase account.email = toLowercase email
  update : ∀ {s s' fault account}, S.updateAccount s fault account = .ok s' → S.Writes account s s'
  create : ∀ {s s' fault account}, S.createAccount s fault account = .ok s' → S.Writes account s s'
  token : ∀ {s s' fault token}, S.createAuthToken s fault token = .ok s' →
    S.accounts s' = S.accounts s
  stored : (∀ {s s' fault token}, S.createAuthToken s fault token = .ok s' →
      ∃ x ∈ S.accounts s, x.1 = token.accountHash) ∨
    ∀ s fault account,
      (∃ s', S.updateAccount s fault account = .ok s' ∧ ∃ x ∈ S.accounts s',
        x.1 = account.accountHash) ∧
        ∃ s', S.createAccount s fault account = .ok s' ∧ ∃ x ∈ S.accounts s',
          x.1 = account.accountHash

end AccountStorage

section

variable {pl toLowercase}

theorem writes_insertAccount (d : MemoryAccounts) (account : Account) :
    (memoryAccounts pl toLowercase).Writes account d (d.insertAccount account) := by
  refine ⟨?_, ?_⟩
  · intro x hx
    obtain ⟨e, he, rfl⟩ := List.mem_map.1 hx
    rcases HashMap.mem_insert.1 he with rfl | ⟨he, -⟩
    · exact .inr rfl
    · exact .inl (List.mem_map_of_mem he)
  · intro x hx
    obtain ⟨e, he, rfl⟩ := List.mem_map.1 hx
    by_cases hk : e.1 = account.accountHash
    · exact ⟨_, List.mem_map_of_mem (HashMap.mem_insert.2 (.inl rfl)), hk.symm⟩
    · exact ⟨_, List.mem_map_of_mem (HashMap.mem_insert.2 (.inr ⟨he, hk⟩)), rfl⟩

theorem stored_insertAccount (d : MemoryAccounts) (account : Account) :
    ∃ x ∈ (memoryAccounts pl toLowercase).accounts (d.insertAccount account),
      x.1 = account.accountHash :=
  ⟨_, List.mem_map_of_mem (HashMap.mem_insert.2 (.inl rfl)), rfl⟩

theorem memoryAccounts_lawful : (memoryAccounts pl toLowercase).Lawful toLowercase where
  keyed d := by
    have hkeys : Keyed Prod.fst d.accounts.entries := d.accounts.keyed
    rw [Keyed] at hkeys ⊢
    rw [memoryAccounts, List.map_map]
    exact hkeys
  byHash {d now fault accountHash account} h := by
    have hmem := HashMap.get?_eq_some.1 (Except.ok.inj h)
    exact ⟨d.named _ hmem, List.mem_map.2 ⟨_, hmem, rfl⟩⟩
  byEmail {d now fault email account} h := by
    obtain ⟨e, he, rfl⟩ := Option.map_eq_some_iff.1 (Except.ok.inj h)
    obtain ⟨hmem, hlower⟩ := HashMap.findEntry_some he
    exact ⟨List.mem_map.2 ⟨e, hmem, by rw [d.named e hmem]⟩, hlower⟩
  update h := by
    cases h
    exact writes_insertAccount _ _
  create h := by
    cases h
    exact writes_insertAccount _ _
  token h := by
    cases h
    rfl
  stored := .inr fun d _ account =>
    ⟨⟨_, rfl, stored_insertAccount d account⟩, ⟨_, rfl, stored_insertAccount d account⟩⟩

theorem mySqlAccounts_lawful : (mySqlAccounts pl toLowercase).Lawful toLowercase where
  keyed t := by
    have hkeys : Keyed AccountRow.accountHash t.accounts := t.keyed
    rw [Keyed] at hkeys ⊢
    rw [mySqlAccounts, List.map_map]
    exact hkeys
  byHash {t now fault accountHash account} h := by
    rcases fault with - | e
    · obtain ⟨r, hr, rfl⟩ := Option.map_eq_some_iff.1 (Except.ok.inj h)
      obtain ⟨hmem, rfl⟩ := fetchOptional_some hr
      exact ⟨rfl, List.mem_map.2 ⟨r, hmem, rfl⟩⟩
    · cases h
  byEmail {t now fault email account} h := by
    rcases fault with - | e
    · obtain ⟨r, hr, rfl⟩ := Option.map_eq_some_iff.1 (Except.ok.inj h)
      obtain ⟨hmem, hlower⟩ := fetchOptional_some hr
      exact ⟨List.mem_map.2 ⟨r, hmem, rfl⟩, hlower⟩
    · cases h
  update {t t' fault account} h := by
    -- Rows are written in place, so that those of other hashes stay; and if no row has the
    -- hash, nothing is written.
    rcases fault with - | e
    · cases h
      refine ⟨fun x hx => ?_, fun x hx => ?_⟩
      · obtain ⟨r, hr, rfl⟩ := List.mem_map.1 hx
        rcases mem_updateWhere_cases hr with ⟨hr, -⟩ | ⟨r₀, -, hhash, rfl⟩
        · exact .inl (List.mem_map.2 ⟨r, hr, rfl⟩)
        · exact .inr (congrArg (·, account.email) hhash)
      · obtain ⟨r, hr, rfl⟩ := List.mem_map.1 hx
        refine ⟨_, List.mem_map.2 ⟨_, mem_updateWhere.2 ⟨r, hr, rfl⟩, rfl⟩, ?_⟩
        dsimp only
        split <;> rfl
    · cases h
  create {t t' fault account} h := by
    -- Only if no row has the hash, which is the primary key, is one inserted.
    change t.createAccount fault account = .ok t' at h
    rw [AccountTables.createAccount] at h
    split at h
    next =>
      rcases fault with - | e
      · cases h
        refine ⟨fun x hx => ?_, fun x hx => ?_⟩
        · obtain ⟨r, hr, rfl⟩ := List.mem_map.1 hx
          rcases List.mem_append.1 hr with hr | hr
          · exact .inl (List.mem_map.2 ⟨r, hr, rfl⟩)
          · rw [List.mem_singleton.1 hr]
            exact .inr rfl
        · obtain ⟨r, hr, rfl⟩ := List.mem_map.1 hx
          exact ⟨_, List.mem_map.2 ⟨r, List.mem_append_left _ hr, rfl⟩, rfl⟩
      · cases h
    next => cases h
  token h := congrArg (List.map _) (AccountTables.createAuthToken_ok h).2
  stored := .inl fun h =>
    let ⟨r, hr, hhash⟩ := (AccountTables.createAuthToken_ok h).1
    ⟨_, List.mem_map.2 ⟨r, hr, rfl⟩, hhash⟩

end

end CosmicSync
