import CosmicSync.Auth.OAuth
import CosmicSync.Library.HashMap
import CosmicSync.Library.Run
import CosmicSync.Server.ConnectionTracker

/-!
# Sessions for authentication

A device that has no token yet asks for a session, sends its user to the OAuth server, and
polls (`check_auth_status` of `handlers/auth_handler.rs`) until the callback
(`handle_oauth_callback` of `handlers/oauth.rs`) has left a token in the session. A session is
kept under the hash of its device. Every function takes the lock of the sessions anew for
each thing it does, so what the requests do interleaves lock by lock: a request is the list
of the statements that it has yet to execute (`Pc`).

The callback learns the device from the parameter `state`, from a header or from a cookie.
Without any of them it makes up a temporary hash, and then gives its token to every device
that waits for one.

* `Effect`: what a statement does to the session of each device.
* `Sound`: a session belongs to its device for 24 hours, and its credentials are those of one
  login that reached the device.
* `answers_run`: so are the credentials that a poll is told, in every interleaving.
-/

namespace CosmicSync

open Table Run

/-- What `process_oauth_code` returns. -/
structure Credentials where
  authToken : String
  accountHash : String
  encryptionKey : String
  deriving DecidableEq, Repr

/-- `AuthSession`. -/
structure AuthSession where
  deviceHash : String
  clientId : String
  authToken : Option String
  accountHash : Option String
  encryptionKey : Option String
  createdAt : DateTime
  expiresAt : DateTime
  deriving DecidableEq, Repr

/-- `CheckAuthStatusResponse`. -/
structure CheckAuthStatusResponse where
  isComplete : Bool
  success : Bool
  authToken : String
  accountHash : String
  encryptionKey : String
  expiresIn : ℤ
  returnMessage : String
  sessionId : String
  deriving DecidableEq, Repr

/-- `AuthStatusResponse`, the answer over HTTP. -/
structure AuthStatusResponse where
  authenticated : Bool
  token : Option String
  error : Option String
  accountHash : Option String
  encryptionKey : Option String
  expiresIn : Option ℤ
  sessionId : Option String
  deriving DecidableEq, Repr

/-- `handle_check_auth_status`, from the answer of `check_auth_status`. -/
def CheckAuthStatusResponse.toHttp (resp : CheckAuthStatusResponse) : AuthStatusResponse :=
  if resp.isComplete = true ∧ resp.authToken ≠ "" then
    { authenticated := true
      token := some resp.authToken
      error := none
      accountHash := some resp.accountHash
      encryptionKey := some resp.encryptionKey
      expiresIn := some resp.expiresIn
      sessionId := some resp.sessionId }
  else
    { authenticated := false
      token := none
      error := some "Authentication not complete"
      accountHash := none
      encryptionKey := none
      expiresIn := none
      sessionId := none }

/-- `(d - now).num_seconds()`, of a time `d` that is later than `now`. -/
def DateTime.numSecondsSince (d now : DateTime) : ℤ :=
  ((d.seconds - now.seconds) * 10 ^ 9 + ((d.nanos : ℤ) - now.nanos)) / 10 ^ 9

/-- The time plus `chrono::Duration::hours(24)`. -/
def DateTime.dayLater (d : DateTime) : DateTime := ⟨d.seconds + 24 * 3600, d.nanos⟩

namespace AuthSession

/-- A session in which nobody has logged in. -/
def new (deviceHash clientId : String) (now : UtcNow) : AuthSession where
  deviceHash := deviceHash
  clientId := clientId
  authToken := none
  accountHash := none
  encryptionKey := none
  createdAt := now.1
  expiresAt := now.1.dayLater

variable (session : AuthSession)

/-- A login is written into the session. -/
def authenticate (c : Credentials) : AuthSession :=
  { session with
    authToken := some c.authToken
    accountHash := some c.accountHash
    encryptionKey := some c.encryptionKey }

/-- `expires_in`. -/
def expiresIn (now : UtcNow) : ℤ :=
  if session.expiresAt.le now.1 then 0 else session.expiresAt.numSecondsSince now.1

/-- What `check_auth_status` answers for a session that it has found. -/
def response (now : UtcNow) : CheckAuthStatusResponse :=
  if session.authToken.isSome then
    { isComplete := true
      success := true
      authToken := session.authToken.getD ""
      accountHash := session.accountHash.getD ""
      encryptionKey := session.encryptionKey.getD ""
      expiresIn := session.expiresIn now
      returnMessage := ""
      sessionId := session.deviceHash }
  else
    { isComplete := false
      success := true
      authToken := ""
      accountHash := ""
      encryptionKey := ""
      expiresIn := 0
      returnMessage := "Authentication not yet complete"
      sessionId := "" }

/-- The credentials that the session holds. -/
def credentials : Option Credentials :=
  session.authToken.map fun token =>
    ⟨token, session.accountHash.getD "", session.encryptionKey.getD ""⟩

end AuthSession

/-- What `check_auth_status` answers if it has found no session. -/
def notFoundResponse (deviceHash : String) : CheckAuthStatusResponse where
  isComplete := false
  success := true
  authToken := ""
  accountHash := ""
  encryptionKey := ""
  expiresIn := 0
  returnMessage := "Session not found or not yet complete"
  sessionId := deviceHash

/-! ## The callback -/

/-- A hash that `handle_oauth_callback` takes for a made-up one. -/
def IsTemporary (deviceHash : String) : Prop := "temp_".toList <+: deviceHash.toList

instance (deviceHash : String) : Decidable (IsTemporary deviceHash) :=
  inferInstanceAs (Decidable (_ <+: _))

/-- What `handle_oauth_callback` reads of a request. A header that is there may be no text. -/
structure OAuthCallback where
  code : String
  state : Option String
  error : Option String
  headers : String → Option (Option String)
  cookie : Option String

namespace OAuthCallback

variable (q : OAuthCallback)

/-- The device whose user has logged in. -/
def deviceHash (now : UtcNow) : String :=
  match q.state with
  | some token => token
  | none =>
    match ((q.headers "X-Device-Hash").or (q.headers "X-Client-Device-Hash")).join with
    | some h => h
    | none =>
      match q.cookie with
      | some v => v
      | none => "temp_" ++ toString now.1.seconds

/-- `is_ascii_hexdigit`. -/
def isAsciiHexdigit (c : Char) : Bool :=
  ('0' ≤ c ∧ c ≤ '9') ∨ ('a' ≤ c ∧ c ≤ 'f') ∨ ('A' ≤ c ∧ c ≤ 'F')

/-- The hash of the account for which the client logs in: of a header, or else the parameter
    `state`, if it looks like a hash. -/
def clientAccountHash : Option String :=
  match (((q.headers "X-Client-Account-Hash").or (q.headers "X-Account-Hash")).or
      (q.headers "Account-Hash")).join with
  | some hash => some hash
  | none =>
    match q.state with
    | some state =>
      if state.utf8ByteSize = 64 ∧ ∀ c ∈ state.toList, isAsciiHexdigit c = true then some state
      else none
    | none => none

end OAuthCallback

variable {σ : Type}

/-- A callback without an error, for which `process_oauth_code` has succeeded on the storage
    that it has found. -/
structure Login (S : AccountStorage σ) (sha256AsString : String → String) where
  callback : OAuthCallback
  calledAt : UtcNow
  inputs : LoginInputs
  credentials : Credentials
  storage : σ
  error_eq : callback.error = none
  succeeds :
    (OAuth.processOauthCode S sha256AsString callback.clientAccountHash storage inputs).1 =
      .ok (credentials.authToken, credentials.accountHash, credentials.encryptionKey)

namespace Login

variable {S : AccountStorage σ} {sha256AsString : String → String}

/-- The device for which the callback has come. -/
def deviceHash (login : Login S sha256AsString) : String := login.callback.deviceHash login.calledAt

/-- The login may be told to the device: it is the device's own, or it is nobody's, and the
    device is a real one. -/
def Reaches (login : Login S sha256AsString) (deviceHash : String) : Prop :=
  login.deviceHash = deviceHash ∨ (IsTemporary login.deviceHash ∧ ¬IsTemporary deviceHash)

/-- The account is the one for which the client logs in, or the one of the email. -/
theorem accountHash_eq (login : Login S sha256AsString) :
    ∃ user, login.inputs.user = .ok user ∧
      login.credentials.accountHash =
        login.callback.clientAccountHash.getD (sha256AsString user.email) := by
  have h := login.succeeds
  rw [OAuth.processOauthCode] at h
  split at h
  next => cases h
  next user huser =>
    refine ⟨user, huser, ?_⟩
    dsimp only at h
    split at h
    next =>
      simp only [Except.ok.injEq, Prod.mk.injEq] at h
      exact h.2.1.symm
    next => cases h

end Login

namespace AuthSessions

/-! ## Requests, lock by lock -/

variable (S : AccountStorage σ) (sha256AsString : String → String)

/-- The next statement of a request. -/
inductive Pc where
  /-- `check_auth_status`: `clean_expired_sessions`, the lookup, and the new session, if there is
      none. -/
  | clean (deviceHash : String)
  | lookup (deviceHash : String)
  | insert (deviceHash : String)
  | answered (deviceHash : String) (response : CheckAuthStatusResponse)
  /-- `handle_register_session`. -/
  | register (deviceHash clientId : String)
  | registered
  /-- `handle_oauth_callback`, after `process_oauth_code`: `update_session` for the device, and,
      if its hash is temporary, for each of the sessions that are found pending. -/
  | update (login : Login S sha256AsString)
  | findPending (login : Login S sha256AsString)
  | updatePending (login : Login S sha256AsString) (ids : List String)
  | loggedIn (login : Login S sha256AsString)

/-- The map `auth_sessions`, and the requests in the order in which they began. -/
structure State where
  authSessions : HashMap String AuthSession
  requests : List (Pc S sha256AsString)

def State.init : State S sha256AsString := ⟨.empty, []⟩

/-- The events of an interleaving: a request comes, a callback when its login has succeeded; or
    a request executes its next statement, which reads the clock, and may need a random id and
    meet the sessions in some order. -/
inductive Op where
  | checkAuthStatus (deviceHash : String)
  | handleRegisterSession (deviceHash clientId : String)
  | handleOauthCallback (login : Login S sha256AsString)
  | next (i : ℕ) (now : UtcNow) (uuid : String) (pl : Planner)

variable {S sha256AsString}

/-- `clean_expired_sessions`. -/
def cleanExpiredSessions (sessions : HashMap String AuthSession) (now : UtcNow) :
    HashMap String AuthSession :=
  sessions.retain fun _ session => now.1.le session.expiresAt

/-- `update_session`. -/
def updateSession (sessions : HashMap String AuthSession) (deviceHash : String) (c : Credentials)
    (now : UtcNow) (uuid : String) : HashMap String AuthSession :=
  match sessions.get? deviceHash with
  | some _ => sessions.modify deviceHash (·.authenticate c)
  | none =>
    sessions.insert deviceHash ((AuthSession.new deviceHash ("client_" ++ uuid) now).authenticate c)

/-- The sessions that wait for a login, in the order of a loop over the map. -/
def pendingSessions (pl : Planner) (sessions : HashMap String AuthSession) : List String :=
  (fetchAll pl (fun e => ¬IsTemporary e.1 ∧ e.2.authToken = none) sessions.entries).map Prod.fst

namespace State

variable (s : State S sha256AsString)

def goto (i : ℕ) (pc : Pc S sha256AsString) : State S sha256AsString :=
  { s with requests := s.requests.set i pc }

/-- The next statement of the request `i`. -/
def next (i : ℕ) (now : UtcNow) (uuid : String) (pl : Planner) :
    Pc S sha256AsString → State S sha256AsString
  | .clean deviceHash =>
    { s with authSessions := cleanExpiredSessions s.authSessions now }.goto i (.lookup deviceHash)
  | .lookup deviceHash =>
    match s.authSessions.get? deviceHash with
    | some session => s.goto i (.answered deviceHash (session.response now))
    | none =>
      if deviceHash = "" then s.goto i (.answered deviceHash (notFoundResponse deviceHash))
      else s.goto i (.insert deviceHash)
  | .insert deviceHash =>
    { s with
      authSessions := s.authSessions.insert deviceHash
        (.new deviceHash ("client_" ++ uuid) now) }.goto i
      (.answered deviceHash (notFoundResponse deviceHash))
  | .answered _ _ => s
  | .register deviceHash clientId =>
    match s.authSessions.get? deviceHash with
    | some _ => s.goto i .registered
    | none =>
      { s with
        authSessions := s.authSessions.insert deviceHash (.new deviceHash clientId now) }.goto i
        .registered
  | .registered => s
  | .update login =>
    { s with
      authSessions :=
        updateSession s.authSessions login.deviceHash login.credentials now uuid }.goto i
      (if IsTemporary login.deviceHash then .findPending login else .loggedIn login)
  | .findPending login => s.goto i (.updatePending login (pendingSessions pl s.authSessions))
  | .updatePending login [] => s.goto i (.loggedIn login)
  | .updatePending login (id :: ids) =>
    { s with
      authSessions := updateSession s.authSessions id login.credentials now uuid }.goto i
      (.updatePending login ids)
  | .loggedIn _ => s

/-- The state after an event. -/
def step : Op S sha256AsString → State S sha256AsString
  | .checkAuthStatus deviceHash => { s with requests := s.requests ++ [.clean deviceHash] }
  | .handleRegisterSession deviceHash clientId =>
    { s with requests := s.requests ++ [.register deviceHash clientId] }
  | .handleOauthCallback login => { s with requests := s.requests ++ [.update login] }
  | .next i now uuid pl =>
    match s.requests[i]? with
    | some pc => s.next i now uuid pl pc
    | none => s

end State

/-! ## What a statement does -/

/-- The session of a device after `update_session` for a device. -/
def updated (deviceHash : String) (c : Credentials) (now : UtcNow) (uuid : String)
    (entry : Option AuthSession) : AuthSession :=
  (entry.getD (.new deviceHash ("client_" ++ uuid) now)).authenticate c

/-- What the next statement of a request makes of the session of the device `d`. -/
def Pc.effect (now : UtcNow) (uuid d : String) (entry : Option AuthSession) :
    Pc S sha256AsString → Option AuthSession
  | .clean _ => entry.filter fun session => now.1.le session.expiresAt
  | .insert deviceHash =>
    if d = deviceHash then some (.new d ("client_" ++ uuid) now) else entry
  | .register deviceHash clientId =>
    if d = deviceHash then some (entry.getD (.new d clientId now)) else entry
  | .update login =>
    if d = login.deviceHash then some (updated d login.credentials now uuid entry) else entry
  | .updatePending login (id :: _) =>
    if d = id then some (updated d login.credentials now uuid entry) else entry
  | _ => entry

/-- The statement after the next one. -/
def Pc.after (sessions : HashMap String AuthSession) (now : UtcNow) (pl : Planner) :
    Pc S sha256AsString → Pc S sha256AsString
  | .clean deviceHash => .lookup deviceHash
  | .lookup deviceHash =>
    match sessions.get? deviceHash with
    | some session => .answered deviceHash (session.response now)
    | none =>
      if deviceHash = "" then .answered deviceHash (notFoundResponse deviceHash)
      else .insert deviceHash
  | .insert deviceHash => .answered deviceHash (notFoundResponse deviceHash)
  | .register _ _ => .registered
  | .update login => if IsTemporary login.deviceHash then .findPending login else .loggedIn login
  | .findPending login => .updatePending login (pendingSessions pl sessions)
  | .updatePending login [] => .loggedIn login
  | .updatePending login (_ :: ids) => .updatePending login ids
  | pc => pc

section

variable {s : State S sha256AsString} {i : ℕ} {now : UtcNow} {uuid d : String} {pl : Planner}
  {pc : Pc S sha256AsString} {c : Credentials}

@[simp]
theorem authSessions_goto : (s.goto i pc).authSessions = s.authSessions := rfl

theorem get?_updateSession {sessions : HashMap String AuthSession} {deviceHash : String} :
    (updateSession sessions deviceHash c now uuid).get? d =
      if d = deviceHash then some (updated d c now uuid (sessions.get? d))
      else sessions.get? d := by
  rw [updateSession]
  by_cases hd : d = deviceHash
  · subst hd
    rw [if_pos rfl, updated]
    cases h : sessions.get? d with
    | some session =>
      dsimp only
      rw [HashMap.get?_modify, if_pos rfl, h]
      rfl
    | none =>
      dsimp only
      rw [HashMap.get?_insert, if_pos rfl]
      rfl
  · rw [if_neg hd]
    split
    · rw [HashMap.get?_modify, if_neg hd]
    · rw [HashMap.get?_insert, if_neg hd]

/-- Every statement acts on the session of each device by itself. -/
theorem get?_next :
    (s.next i now uuid pl pc).authSessions.get? d =
      pc.effect now uuid d (s.authSessions.get? d) := by
  cases pc with
  | clean deviceHash => exact HashMap.get?_retain
  | lookup deviceHash =>
    dsimp only [State.next, Pc.effect]
    split
    · rfl
    · split <;> rfl
  | insert deviceHash =>
    rw [Pc.effect]
    refine HashMap.get?_insert.trans ?_
    split
    next hd => rw [hd]
    next => rfl
  | register deviceHash clientId =>
    rw [State.next, Pc.effect]
    by_cases hd : d = deviceHash
    · rw [if_pos hd, ← hd]
      split
      next session h => rw [authSessions_goto, h, Option.getD_some]
      next h =>
        rw [authSessions_goto, HashMap.get?_insert, if_pos rfl, h, Option.getD_none]
    · rw [if_neg hd]
      split
      · rfl
      · rw [authSessions_goto, HashMap.get?_insert, if_neg hd]
  | update login => exact get?_updateSession
  | updatePending login ids =>
    cases ids with
    | nil => rfl
    | cons id ids => exact get?_updateSession
  | answered | registered | findPending | loggedIn => rfl

theorem requests_next (h : s.requests[i]? = some pc) :
    (s.next i now uuid pl pc).requests = s.requests.set i (pc.after s.authSessions now pl) := by
  have hself : s.requests = s.requests.set i pc := by
    obtain ⟨hi, h⟩ := List.getElem?_eq_some_iff.1 h
    rw [← h, List.set_getElem_self]
  cases pc with
  | lookup deviceHash =>
    dsimp only [State.next, Pc.after]
    split
    · rfl
    · split <;> rfl
  | register deviceHash clientId =>
    dsimp only [State.next, Pc.after]
    split <;> rfl
  | updatePending login ids => cases ids <;> rfl
  | answered | registered | loggedIn => exact hself
  | clean | insert | update | findPending => rfl

theorem step_next (h : s.requests[i]? = some pc) :
    s.step (.next i now uuid pl) = s.next i now uuid pl pc := by
  dsimp only [State.step]
  rw [h]

theorem step_next_of_none (h : s.requests[i]? = none) : s.step (.next i now uuid pl) = s := by
  dsimp only [State.step]
  rw [h]

end

/-! ## Whose credentials a poll is told -/

section

variable (L : Login S sha256AsString → Prop)

/-- Credentials of one of the logins `L`, which reaches the device. -/
def Told (d : String) (c : Credentials) : Prop := ∃ login, L login ∧ login.Reaches d ∧
  c = login.credentials

/-- A session belongs to its device for 24 hours; nobody has logged in, or one login has. -/
structure SessionSound (d : String) (session : AuthSession) : Prop where
  deviceHash_eq : session.deviceHash = d
  expiresAt_eq : session.expiresAt = session.createdAt.dayLater
  credentials : (session.authToken = none ∧ session.accountHash = none ∧
      session.encryptionKey = none) ∨
    ∃ c, Told L d c ∧ session.authToken = some c.authToken ∧
      session.accountHash = some c.accountHash ∧ session.encryptionKey = some c.encryptionKey

/-- A poll is told nothing, or the credentials of one login. -/
def AnswerSound (d : String) (r : CheckAuthStatusResponse) : Prop :=
  (r.isComplete = false ∧ r.authToken = "" ∧ r.accountHash = "" ∧ r.encryptionKey = "") ∨
    ∃ c, Told L d c ∧ r.isComplete = true ∧ r.authToken = c.authToken ∧
      r.accountHash = c.accountHash ∧ r.encryptionKey = c.encryptionKey ∧ r.sessionId = d ∧
      0 ≤ r.expiresIn

/-- A request has one of the logins; it gives one without a device to real devices only. -/
def Pc.Sound : Pc S sha256AsString → Prop
  | .answered d r => AnswerSound L d r
  | .update login | .loggedIn login => L login
  | .findPending login => L login ∧ IsTemporary login.deviceHash
  | .updatePending login ids =>
    (L login ∧ IsTemporary login.deviceHash) ∧ ∀ id ∈ ids, ¬IsTemporary id
  | _ => True

structure Sound (s : State S sha256AsString) : Prop where
  session : ∀ d session, s.authSessions.get? d = some session → SessionSound L d session
  request : ∀ pc ∈ s.requests, pc.Sound L

end

section

variable {L : Login S sha256AsString → Prop} {s : State S sha256AsString} {i : ℕ} {now : UtcNow}
  {uuid d : String} {pl : Planner} {pc : Pc S sha256AsString} {c : Credentials}
  {session : AuthSession} {entry : Option AuthSession}

theorem SessionSound.new {clientId : String} : SessionSound L d (.new d clientId now) where
  deviceHash_eq := rfl
  expiresAt_eq := rfl
  credentials := .inl ⟨rfl, rfl, rfl⟩

theorem SessionSound.authenticate (h : SessionSound L d session) (hc : Told L d c) :
    SessionSound L d (session.authenticate c) where
  deviceHash_eq := h.deviceHash_eq
  expiresAt_eq := h.expiresAt_eq
  credentials := .inr ⟨c, hc, rfl, rfl, rfl⟩

theorem SessionSound.getD {session' : AuthSession}
    (h : ∀ session, entry = some session → SessionSound L d session)
    (h' : SessionSound L d session') : SessionSound L d (entry.getD session') := by
  cases entry with
  | some session => exact h session rfl
  | none => exact h'

theorem SessionSound.updated (h : ∀ session, entry = some session → SessionSound L d session)
    (hc : Told L d c) : SessionSound L d (updated d c now uuid entry) :=
  (SessionSound.getD h .new).authenticate hc

theorem SessionSound.effect (h : ∀ session, entry = some session → SessionSound L d session)
    (hpc : pc.Sound L) (hsession : pc.effect now uuid d entry = some session) :
    SessionSound L d session := by
  cases pc with
  | clean deviceHash => exact h session (Option.filter_eq_some_iff.1 hsession).1
  | insert deviceHash =>
    dsimp only [Pc.effect] at hsession
    split at hsession
    · cases hsession
      exact .new
    · exact h session hsession
  | register deviceHash clientId =>
    dsimp only [Pc.effect] at hsession
    split at hsession
    · cases hsession
      exact .getD h .new
    · exact h session hsession
  | update login =>
    dsimp only [Pc.effect] at hsession
    split at hsession
    next hd =>
      cases hsession
      exact .updated h ⟨login, hpc, .inl hd.symm, rfl⟩
    next => exact h session hsession
  | updatePending login ids =>
    cases ids with
    | nil => exact h session hsession
    | cons id ids =>
      obtain ⟨⟨hlogin, htemp⟩, hids⟩ := hpc
      dsimp only [Pc.effect] at hsession
      split at hsession
      next hd =>
        cases hsession
        exact .updated h ⟨login, hlogin, .inr ⟨htemp, hd ▸ hids id List.mem_cons_self⟩, rfl⟩
      next => exact h session hsession
  | lookup | answered | registered | findPending | loggedIn => exact h session hsession

theorem expiresIn_nonneg : 0 ≤ session.expiresIn now := by
  rw [AuthSession.expiresIn]
  split
  next => exact le_rfl
  next hle =>
    rw [DateTime.le] at hle
    push Not at hle
    obtain ⟨hseconds, hnanos⟩ := hle
    have hnow := now.2.2.2
    rw [DateTime.numSecondsSince]
    refine Int.ediv_nonneg ?_ (by norm_num)
    rcases hseconds.eq_or_lt with heq | hlt
    · have := hnanos heq.symm
      rw [heq, sub_self, zero_mul, zero_add]
      omega
    · have hone : 1 * 10 ^ 9 ≤ (session.expiresAt.seconds - now.1.seconds) * 10 ^ 9 :=
        mul_le_mul_of_nonneg_right (by omega) (by norm_num)
      omega

theorem answerSound_notFound : AnswerSound L d (notFoundResponse d) := .inl ⟨rfl, rfl, rfl, rfl⟩

theorem SessionSound.response (h : SessionSound L d session) :
    AnswerSound L d (session.response now) := by
  rw [AuthSession.response]
  split
  next htoken =>
    rcases h.credentials with ⟨hnone, -, -⟩ | ⟨c, hc, hauth, haccount, hkey⟩
    · rw [hnone] at htoken
      cases htoken
    · refine .inr ⟨c, hc, rfl, ?_, ?_, ?_, h.deviceHash_eq, expiresIn_nonneg⟩
      · rw [hauth, Option.getD_some]
      · rw [haccount, Option.getD_some]
      · rw [hkey, Option.getD_some]
  next => exact .inl ⟨rfl, rfl, rfl, rfl⟩

theorem not_isTemporary_of_mem_pendingSessions {sessions : HashMap String AuthSession}
    (h : d ∈ pendingSessions pl sessions) : ¬IsTemporary d := by
  obtain ⟨e, he, rfl⟩ := List.mem_map.1 h
  exact (mem_fetchAll.1 he).2.1

theorem sound_after (hs : Sound L s) (h : pc.Sound L) :
    (pc.after s.authSessions now pl).Sound L := by
  cases pc with
  | lookup deviceHash =>
    dsimp only [Pc.after]
    split
    next session hsession => exact (hs.session _ _ hsession).response
    next =>
      split
      · exact answerSound_notFound
      · trivial
  | insert deviceHash => exact answerSound_notFound
  | update login =>
    dsimp only [Pc.after]
    split
    next htemp => exact ⟨h, htemp⟩
    next => exact h
  | findPending login => exact ⟨h, fun _ hid => not_isTemporary_of_mem_pendingSessions hid⟩
  | updatePending login ids =>
    cases ids with
    | nil => exact h.1.1
    | cons id ids => exact ⟨h.1, fun id' hid' => h.2 id' (List.mem_cons_of_mem _ hid')⟩
  | clean | register => trivial
  | answered | registered | loggedIn => exact h

theorem Sound.append (h : Sound L s) (hpc : pc.Sound L) :
    Sound L { s with requests := s.requests ++ [pc] } where
  session := h.session
  request := by
    intro pc' hpc'
    rcases List.mem_append.1 hpc' with hpc' | hpc'
    · exact h.request pc' hpc'
    · rw [List.mem_singleton.1 hpc']
      exact hpc

theorem Sound.next (h : Sound L s) (hpc : s.requests[i]? = some pc) :
    Sound L (s.next i now uuid pl pc) := by
  have hsound := h.request pc (List.mem_of_getElem? hpc)
  refine ⟨fun d session hsession => ?_, fun pc' hpc' => ?_⟩
  · rw [get?_next] at hsession
    exact .effect (h.session d) hsound hsession
  · rw [requests_next hpc] at hpc'
    rcases List.mem_or_eq_of_mem_set hpc' with hpc' | rfl
    · exact h.request pc' hpc'
    · exact sound_after h hsound

/-- The callbacks that come are those of the logins `L`. -/
def ComesFrom (L : Login S sha256AsString → Prop) : Op S sha256AsString → Prop
  | .handleOauthCallback login => L login
  | _ => True

theorem Sound.step {o : Op S sha256AsString} (ho : ComesFrom L o) (h : Sound L s) :
    Sound L (s.step o) := by
  cases o with
  | checkAuthStatus deviceHash => exact h.append trivial
  | handleRegisterSession deviceHash clientId => exact h.append trivial
  | handleOauthCallback login => exact h.append ho
  | next i now uuid pl =>
    cases hpc : s.requests[i]? with
    | some pc =>
      rw [step_next hpc]
      exact h.next hpc
    | none =>
      rw [step_next_of_none hpc]
      exact h

theorem Sound.init : Sound L (State.init S sha256AsString) where
  session _ _ h := by cases h
  request _ h := absurd h List.not_mem_nil

/-- In every interleaving, the sessions and the requests are sound for the logins of the
    callbacks that have come. -/
theorem sound_run {ops : List (Op S sha256AsString)} :
    Sound (fun login => Op.handleOauthCallback login ∈ ops)
      (run State.step (State.init S sha256AsString) ops) := by
  refine (Guarded.of_forall (P := ComesFrom fun login => Op.handleOauthCallback login ∈ ops)
    fun o ho => ?_).invariant (fun s o ho h => h.step ho) .init
  cases o with
  | handleOauthCallback login => exact ho
  | checkAuthStatus | handleRegisterSession | next => trivial

/-- In every interleaving of polls, registrations and callbacks, a poll is told nothing, or
    the token, account and key of one and the same login, which was the device's own, or one
    without a device told to a real device; and its account is the one for which the client has
    logged in, or that of the user's email. -/
theorem answers_run {ops : List (Op S sha256AsString)} {r : CheckAuthStatusResponse}
    (h : Pc.answered d r ∈ (run State.step (State.init S sha256AsString) ops).requests) :
    (r.isComplete = false ∧ r.authToken = "" ∧ r.accountHash = "" ∧ r.encryptionKey = "" ∧
        r.toHttp.authenticated = false) ∨
      ∃ login : Login S sha256AsString, Op.handleOauthCallback login ∈ ops ∧
        (login.deviceHash = d ∨ (IsTemporary login.deviceHash ∧ ¬IsTemporary d)) ∧
        (∃ user, login.inputs.user = .ok user ∧
          r.accountHash =
            login.callback.clientAccountHash.getD (sha256AsString user.email)) ∧
        r.authToken = login.credentials.authToken ∧
        r.accountHash = login.credentials.accountHash ∧
        r.encryptionKey = login.credentials.encryptionKey ∧
        r.isComplete = true ∧ r.sessionId = d ∧ 0 ≤ r.expiresIn ∧
        (r.toHttp.authenticated = true ↔ r.authToken ≠ "") := by
  have hsound : AnswerSound (fun login => Op.handleOauthCallback login ∈ ops) d r :=
    sound_run.request _ h
  rcases hsound with ⟨hcomplete, htoken, haccount, hkey⟩ |
    ⟨c, ⟨login, hlogin, hreaches, rfl⟩, hcomplete, htoken, haccount, hkey, hid, hexpires⟩
  · refine .inl ⟨hcomplete, htoken, haccount, hkey, ?_⟩
    simp [CheckAuthStatusResponse.toHttp, hcomplete]
  · obtain ⟨user, huser, heq⟩ := login.accountHash_eq
    refine .inr ⟨login, hlogin, hreaches, ⟨user, huser, haccount.trans heq⟩, htoken, haccount,
      hkey, hcomplete, hid, hexpires, ?_⟩
    rw [CheckAuthStatusResponse.toHttp]
    split
    next hif => simp [hif.2]
    next hif => simpa [hcomplete] using hif

end

/-- A callback with the parameter `state` only, for which the user of the email has logged in. -/
def sampleCallbackLogin (state : Option String)
    (h : (OAuthCallback.clientAccountHash ⟨"c", state, none, fun _ => none, none⟩) = none) :
    Login (memoryAccounts .insertion OAuth.asciiLowercase) OAuth.sampleSha256 where
  callback := ⟨"c", state, none, fun _ => none, none⟩
  calledAt := ⟨⟨100, 0⟩, by decide⟩
  inputs := OAuth.sampleLogin "kim@example.com" "x"
  credentials := ⟨"x", OAuth.sampleSha256 "kim@example.com", "k"⟩
  storage := .new
  error_eq := rfl
  succeeds := by
    rw [h]
    rfl

/-- The callback of a device that has registered its session. -/
def sampleLaptopLogin : Login (memoryAccounts .insertion OAuth.asciiLowercase) OAuth.sampleSha256 :=
  sampleCallbackLogin (some "laptop") (by decide)

/-- At the epoch. -/
def sampleNow : UtcNow := ⟨⟨0, 0⟩, by decide⟩

/-- A device asks, its user logs in, and it asks again. -/
def sampleLoginOps :
    List (Op (memoryAccounts .insertion OAuth.asciiLowercase) OAuth.sampleSha256) :=
  [.checkAuthStatus "laptop", .next 0 sampleNow "u" .insertion, .next 0 sampleNow "u" .insertion,
    .next 0 sampleNow "u" .insertion,
    .handleOauthCallback sampleLaptopLogin,
    .next 1 sampleNow "u" .insertion, .checkAuthStatus "laptop",
    .next 2 sampleNow "u" .insertion, .next 2 sampleNow "u" .insertion]

theorem answers_sampleLoginOps :
    ∃ login ∈ [sampleLaptopLogin], login.deviceHash = "laptop" ∧
      Pc.answered "laptop" ⟨true, true, "x", OAuth.sampleSha256 "kim@example.com", "k", 86400, "",
        "laptop"⟩ ∈ (run State.step (State.init _ _) sampleLoginOps).requests := by
  have hanswer : Pc.answered "laptop" ⟨true, true, "x", OAuth.sampleSha256 "kim@example.com", "k",
      86400, "", "laptop"⟩ ∈ (run State.step (State.init _ _) sampleLoginOps).requests :=
    List.mem_of_getElem? (i := 2) rfl
  rcases answers_run hanswer with ⟨hfalse, -⟩ | ⟨login, hlogin, -⟩
  · cases hfalse
  · refine ⟨login, ?_, ?_, hanswer⟩
    · simpa [sampleLoginOps] using hlogin
    · have : login = sampleLaptopLogin := by
        simpa [sampleLoginOps] using hlogin
      rw [this]
      rfl

end AuthSessions

end CosmicSync
