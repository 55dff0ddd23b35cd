import CosmicSync.Handlers.AuthSessions

/-!
# Logins that are lost, and logins that are not

A poll that finds no session adds one, but not under the lock under which it has looked. If
the user logs in between the two, the poll replaces the session in which the login stands by
one in which nobody has logged in, and the device waits for a login that will not come.

A poll that finds a session adds none. So a device whose session is there before its user
logs in, and has no such poll on its way, is told the login that was written last, whatever
else happens until the session expires.

* `login_kept_iff`: which runs lose a login.
* `registered_run`: under a session that is there, the last login counts.
* `callback_alone`: the devices to which a callback gives its login.
-/

namespace CosmicSync

open Table Run

namespace AuthSessions

variable {σ : Type} {S : AccountStorage σ} {sha256AsString : String → String}

/-- The login that a statement writes into the session of the device. -/
def Pc.writes (d : String) : Pc S sha256AsString → Option (Login S sha256AsString)
  | .update login => if login.deviceHash = d then some login else none
  | .updatePending login (id :: _) => if id = d then some login else none
  | _ => none

/-- A cleanup comes no later than the time `e`. -/
def Pc.CleansBy (e : DateTime) (now : UtcNow) : Pc S sha256AsString → Prop
  | .clean _ => now.1.le e
  | _ => True

/-- Until the time `e` the sessions are cleaned. -/
def CleansBy (e : DateTime) (s : State S sha256AsString) : Op S sha256AsString → Prop
  | .next i now _ _ => ∀ pc ∈ s.requests[i]?, pc.CleansBy e now
  | _ => True

/-- The login that an event writes into the session of the device. -/
def State.written (s : State S sha256AsString) (d : String) :
    Op S sha256AsString → Option Credentials
  | .next i _ _ _ => (s.requests[i]?.bind (Pc.writes d)).map Login.credentials
  | _ => none

/-- The login that a run writes last into the session of the device. -/
def lastWritten (d : String) : State S sha256AsString → List (Op S sha256AsString) →
    Option Credentials
  | _, [] => none
  | s, o :: ops => (lastWritten d (s.step o) ops).or (s.written d o)

/-- The request has found no session of the device, and is to add one. -/
def IsInserting (d : String) (s : State S sha256AsString) (i : ℕ) : Prop :=
  s.requests[i]? = some (.insert d)

/-- Nobody has logged in for the device, as far as its session tells. -/
def IsLost (d : String) (s : State S sha256AsString) : Prop :=
  ∀ session, s.authSessions.get? d = some session → session.authToken = none

section

variable {s : State S sha256AsString} {i j : ℕ} {now : UtcNow} {uuid d : String} {pl : Planner}
  {pc : Pc S sha256AsString} {o : Op S sha256AsString} {ops : List (Op S sha256AsString)}
  {session : AuthSession} {entry : Option AuthSession} {e : DateTime}

/-! ## Statements that write no login -/

theorem effect_of_writes {login : Login S sha256AsString} (h : pc.writes d = some login) :
    pc.effect now uuid d entry = some (updated d login.credentials now uuid entry) := by
  cases pc with
  | update login' =>
    dsimp only [Pc.writes, Pc.effect] at h ⊢
    split at h
    next hd =>
      cases h
      rw [if_pos hd.symm]
    next => cases h
  | updatePending login' ids =>
    cases ids with
    | nil => cases h
    | cons id ids =>
      dsimp only [Pc.writes, Pc.effect] at h ⊢
      split at h
      next hd =>
        cases h
        rw [if_pos hd.symm]
      next => cases h
  | clean | lookup | insert | answered | register | registered | findPending | loggedIn => cases h

/-- A session that is there stays as it is, unless a poll adds its own. -/
theorem effect_some (hclean : pc.CleansBy session.expiresAt now) (hinsert : pc ≠ .insert d)
    (h : pc.writes d = none) : pc.effect now uuid d (some session) = some session := by
  cases pc with
  | clean deviceHash =>
    have hle : now.1.le session.expiresAt := hclean
    simp [Pc.effect, hle]
  | insert deviceHash =>
    dsimp only [Pc.effect]
    rw [if_neg]
    rintro rfl
    exact hinsert rfl
  | register deviceHash clientId =>
    dsimp only [Pc.effect]
    rw [Option.getD_some, ite_self]
  | update login =>
    dsimp only [Pc.effect, Pc.writes] at h ⊢
    split at h
    next => cases h
    next hd => rw [if_neg (Ne.symm hd)]
  | updatePending login ids =>
    cases ids with
    | nil => rfl
    | cons id ids =>
      dsimp only [Pc.effect, Pc.writes] at h ⊢
      split at h
      next => cases h
      next hd => rw [if_neg (Ne.symm hd)]
  | lookup | answered | registered | findPending | loggedIn => rfl

/-- Where nobody has logged in, nobody has after a statement that writes no login. -/
theorem authToken_of_effect (hentry : ∀ session, entry = some session → session.authToken = none)
    (h : pc.writes d = none) (hsession : pc.effect now uuid d entry = some session) :
    session.authToken = none := by
  cases pc with
  | clean deviceHash => exact hentry session (Option.filter_eq_some_iff.1 hsession).1
  | insert deviceHash =>
    dsimp only [Pc.effect] at hsession
    split at hsession
    · cases hsession
      rfl
    · exact hentry session hsession
  | register deviceHash clientId =>
    dsimp only [Pc.effect] at hsession
    split at hsession
    · cases hsession
      cases entry with
      | some session => exact hentry session rfl
      | none => rfl
    · exact hentry session hsession
  | update login =>
    dsimp only [Pc.effect, Pc.writes] at h hsession
    split at h
    next => cases h
    next hd =>
      rw [if_neg (Ne.symm hd)] at hsession
      exact hentry session hsession
  | updatePending login ids =>
    cases ids with
    | nil => exact hentry session hsession
    | cons id ids =>
      dsimp only [Pc.effect, Pc.writes] at h hsession
      split at h
      next => cases h
      next hd =>
        rw [if_neg (Ne.symm hd)] at hsession
        exact hentry session hsession
  | lookup | answered | registered | findPending | loggedIn => exact hentry session hsession

/-- A request comes to add a session only if it has found none. -/
theorem eq_insert_of_after {sessions : HashMap String AuthSession}
    (h : pc.after sessions now pl = .insert d) : pc = .insert d ∨ sessions.get? d = none := by
  cases pc with
  | lookup deviceHash =>
    dsimp only [Pc.after] at h
    split at h
    next => cases h
    next hnone =>
      split at h
      · cases h
      · cases h
        exact .inr hnone
  | update login =>
    dsimp only [Pc.after] at h
    split at h <;> cases h
  | updatePending login ids => cases ids <;> cases h
  | insert deviceHash => cases h
  | clean | register | findPending => cases h
  | answered | registered | loggedIn => cases h

/-! ## Events -/

/-- What an event does to a session that is there, if no poll adds its own: the login that it
    writes is written. -/
theorem get?_step_of_some (hs : s.authSessions.get? d = some session)
    (hclean : CleansBy session.expiresAt s o)
    (hinsert : ∀ i now uuid pl, o = .next i now uuid pl → ¬IsInserting d s i) :
    (s.step o).authSessions.get? d =
      some ((s.written d o).elim session session.authenticate) := by
  cases o with
  | checkAuthStatus | handleRegisterSession | handleOauthCallback => exact hs
  | next i now uuid pl =>
    cases hpc : s.requests[i]? with
    | none =>
      rw [step_next_of_none hpc, hs, State.written, hpc]
      rfl
    | some pc =>
      rw [step_next hpc, get?_next, hs, State.written, hpc, Option.bind_some]
      cases hwrites : pc.writes d with
      | some login => exact effect_of_writes hwrites
      | none =>
        refine effect_some (hclean pc hpc) ?_ hwrites
        rintro rfl
        exact hinsert i now uuid pl rfl hpc

/-- A request that is to add a session was so before, or there was none. -/
theorem isInserting_of_step (h : IsInserting d (s.step o) i) :
    IsInserting d s i ∨ s.authSessions.get? d = none := by
  have happend : ∀ {pc : Pc S sha256AsString}, pc ≠ .insert d →
      (s.requests ++ [pc])[i]? = some (.insert d) → IsInserting d s i := by
    intro pc hpc h
    rcases Nat.lt_or_ge i s.requests.length with hi | hi
    · rwa [List.getElem?_append_left hi] at h
    · rw [List.getElem?_append_right hi] at h
      exact absurd (List.mem_singleton.1 (List.mem_of_getElem? h)).symm hpc
  cases o with
  | checkAuthStatus | handleRegisterSession | handleOauthCallback =>
    exact .inl (happend (fun h => by cases h) h)
  | next j now uuid pl =>
    cases hpc : s.requests[j]? with
    | none =>
      rw [step_next_of_none hpc] at h
      exact .inl h
    | some pc =>
      rw [step_next hpc, IsInserting, requests_next hpc] at h
      by_cases hj : j = i
      · subst hj
        rw [List.getElem?_set_self (List.getElem?_eq_some_iff.1 hpc).1] at h
        rcases eq_insert_of_after (Option.some.inj h) with rfl | hnone
        · exact .inl hpc
        · exact .inr hnone
      · rw [List.getElem?_set_ne hj] at h
        exact .inl h

/-- A request stays as it is until it executes its next statement. -/
theorem isInserting_step (h : IsInserting d s i) (ho : ∀ now uuid pl, o ≠ .next i now uuid pl) :
    IsInserting d (s.step o) i := by
  have happend : ∀ pc : Pc S sha256AsString, (s.requests ++ [pc])[i]? = some (.insert d) :=
    fun _ => (List.getElem?_append_left (List.getElem?_eq_some_iff.1 h).1).trans h
  cases o with
  | checkAuthStatus | handleRegisterSession | handleOauthCallback => exact happend _
  | next j now uuid pl =>
    have hj : j ≠ i := by
      rintro rfl
      exact ho now uuid pl rfl
    cases hpc : s.requests[j]? with
    | none => rwa [step_next_of_none hpc]
    | some pc => rwa [step_next hpc, IsInserting, requests_next hpc, List.getElem?_set_ne hj]

theorem isLost_of_insert (h : IsInserting d s i) : IsLost d (s.step (.next i now uuid pl)) := by
  intro session hsession
  rw [step_next h, get?_next] at hsession
  dsimp only [Pc.effect] at hsession
  rw [if_pos rfl] at hsession
  cases hsession
  rfl

theorem IsLost.step (h : IsLost d s) (ho : s.written d o = none) : IsLost d (s.step o) := by
  cases o with
  | checkAuthStatus | handleRegisterSession | handleOauthCallback => exact h
  | next i now uuid pl =>
    cases hpc : s.requests[i]? with
    | none => rwa [step_next_of_none hpc]
    | some pc =>
      have hwrites : pc.writes d = none := by simpa [State.written, hpc] using ho
      intro session hsession
      rw [step_next hpc, get?_next] at hsession
      exact authToken_of_effect h hwrites hsession

/-! ## Runs -/

/-- A poll that has found no session loses the login for good, when it adds its own. -/
theorem isLost_run (hi : IsInserting d s i) (ho : .next i now uuid pl ∈ ops)
    (hwritten : Guarded State.step (fun s o => s.written d o = none) s ops) :
    IsLost d (run State.step s ops) := by
  induction ops generalizing s with
  | nil => exact absurd ho List.not_mem_nil
  | cons o ops ih =>
    rw [run_cons]
    by_cases hnext : ∃ now uuid pl, o = .next i now uuid pl
    · obtain ⟨now', uuid', pl', rfl⟩ := hnext
      exact hwritten.2.invariant (fun s o ho h => IsLost.step h ho) (isLost_of_insert hi)
    · push Not at hnext
      have ho : .next i now uuid pl ∈ ops := by
        rcases List.mem_cons.1 ho with ho | ho
        · exact absurd ho.symm (hnext now uuid pl)
        · exact ho
      exact ih (isInserting_step hi hnext) ho hwritten.2

/-- While the session of a device is there, no poll comes to add one. What the other polls are
    doing makes no difference. -/
theorem get?_run_of_some (hs : s.authSessions.get? d = some session)
    (hclean : Guarded State.step (CleansBy session.expiresAt) s ops)
    (hinsert : ∀ i now uuid pl, .next i now uuid pl ∈ ops → ¬IsInserting d s i) :
    (run State.step s ops).authSessions.get? d =
        some ((lastWritten d s ops).elim session session.authenticate) ∧
      ∀ i, IsInserting d (run State.step s ops) i → IsInserting d s i := by
  induction ops generalizing s session with
  | nil => exact ⟨hs, fun _ => id⟩
  | cons o ops ih =>
    have hstep := get?_step_of_some hs hclean.1 fun i now uuid pl ho =>
      hinsert i now uuid pl (ho ▸ List.mem_cons_self)
    have hback : ∀ i, IsInserting d (s.step o) i → IsInserting d s i := by
      intro i hi
      rcases isInserting_of_step hi with hi | hnone
      · exact hi
      · rw [hs] at hnone
        cases hnone
    have hexpires : ((s.written d o).elim session session.authenticate).expiresAt =
        session.expiresAt := by cases s.written d o <;> rfl
    rw [← hexpires] at hclean
    obtain ⟨hrun, hrunback⟩ := ih hstep hclean.2 fun i now uuid pl ho hi =>
      hinsert i now uuid pl (List.mem_cons_of_mem _ ho) (hback i hi)
    refine ⟨?_, fun i hi => hback i (hrunback i hi)⟩
    rw [run_cons, hrun, lastWritten]
    -- Of two logins that are written, the session tells the second one.
    cases lastWritten d (s.step o) ops with
    | some c => cases s.written d o <;> rfl
    | none => rfl

theorem lastWritten_eq_none
    (h : Guarded State.step (fun s o => s.written d o = none) s ops) :
    lastWritten d s ops = none := by
  induction ops generalizing s with
  | nil => rfl
  | cons o ops ih => rw [lastWritten, ih h.2, h.1, Option.none_or]

/-- A login that stands in a session is lost before it expires, if no other is written for the
    device, exactly if a poll that has found no session before goes on and adds one; it is then
    lost for good. -/
theorem login_kept_iff (hs : s.authSessions.get? d = some session)
    (hlogin : session.authToken.isSome)
    (hclean : Guarded State.step (CleansBy session.expiresAt) s ops)
    (hwritten : Guarded State.step (fun s o => s.written d o = none) s ops) :
    ((run State.step s ops).authSessions.get? d = some session ↔
        ∀ i now uuid pl, .next i now uuid pl ∈ ops → ¬IsInserting d s i) ∧
      (IsLost d (run State.step s ops) ↔
        ∃ i now uuid pl, .next i now uuid pl ∈ ops ∧ IsInserting d s i) := by
  have hkeep : (∀ i now uuid pl, .next i now uuid pl ∈ ops → ¬IsInserting d s i) →
      (run State.step s ops).authSessions.get? d = some session := by
    intro hinsert
    rw [(get?_run_of_some hs hclean hinsert).1, lastWritten_eq_none hwritten]
    rfl
  have hlose : (∃ i now uuid pl, .next i now uuid pl ∈ ops ∧ IsInserting d s i) →
      IsLost d (run State.step s ops) := by
    rintro ⟨i, now, uuid, pl, ho, hi⟩
    exact isLost_run hi ho hwritten
  have hnot : (run State.step s ops).authSessions.get? d = some session →
      ¬IsLost d (run State.step s ops) := by
    intro hrun hlost
    rw [hlost session hrun] at hlogin
    cases hlogin
  refine ⟨⟨fun hrun i now uuid pl ho hi => hnot hrun (hlose ⟨i, now, uuid, pl, ho, hi⟩), hkeep⟩,
    ⟨fun hlost => ?_, hlose⟩⟩
  by_contra hinsert
  refine hnot (hkeep fun i now uuid pl ho hi => hinsert ⟨i, now, uuid, pl, ho, hi⟩) hlost

/-- A device whose session is there, with no poll on its way to add one, keeps it until it
    expires, and is told the login that was written last: whatever logins, polls and
    registrations of this device and of others interleave. -/
theorem registered_run (hs : s.authSessions.get? d = some session)
    (hinsert : ∀ i, ¬IsInserting d s i)
    (hclean : Guarded State.step (CleansBy session.expiresAt) s ops) :
    (∀ i, ¬IsInserting d (run State.step s ops) i) ∧
      (run State.step s ops).authSessions.get? d =
        some ((lastWritten d s ops).elim session session.authenticate) ∧
      ∀ i now uuid pl, (run State.step s ops).requests[i]? = some (.lookup d) →
        ((run State.step s ops).step (.next i now uuid pl)).requests[i]? =
          some (.answered d
            (((lastWritten d s ops).elim session session.authenticate).response now)) := by
  obtain ⟨hrun, hback⟩ := get?_run_of_some hs hclean fun i _ _ _ _ => hinsert i
  refine ⟨fun i hi => hinsert i (hback i hi), hrun, fun i now uuid pl hpc => ?_⟩
  rw [step_next hpc, requests_next hpc,
    List.getElem?_set_self (List.getElem?_eq_some_iff.1 hpc).1]
  dsimp only [Pc.after]
  rw [hrun]

end

/-- A device polls, and finds no session; its user logs in before the poll adds one. -/
def sampleLateOps :
    List (Op (memoryAccounts .insertion OAuth.asciiLowercase) OAuth.sampleSha256) :=
  [.checkAuthStatus "laptop", .next 0 sampleNow "u" .insertion, .next 0 sampleNow "u" .insertion,
    .handleOauthCallback sampleLaptopLogin,
    .next 1 sampleNow "u" .insertion]

theorem isLost_sampleLateOps :
    IsLost "laptop" (run State.step (run State.step (State.init _ _) sampleLateOps)
      [.next 0 sampleNow "u" .insertion]) := by
  have hclean : Guarded State.step (CleansBy sampleNow.1.dayLater)
      (run State.step (State.init _ _) sampleLateOps) [.next 0 sampleNow "u" .insertion] := by
    refine ⟨fun pc hpc => ?_, trivial⟩
    cases hpc
    trivial
  have hs : (run State.step (State.init _ _) sampleLateOps).authSessions.get? "laptop" =
      some ((AuthSession.new "laptop" "client_u" sampleNow).authenticate
        ⟨"x", OAuth.sampleSha256 "kim@example.com", "k"⟩) := rfl
  exact (login_kept_iff hs rfl hclean ⟨rfl, trivial⟩).2.2
    ⟨0, sampleNow, "u", .insertion, List.mem_singleton_self _, rfl⟩

/-- A device polls, and has a session. -/
def samplePollOps :
    List (Op (memoryAccounts .insertion OAuth.asciiLowercase) OAuth.sampleSha256) :=
  [.checkAuthStatus "laptop", .next 0 sampleNow "u" .insertion, .next 0 sampleNow "u" .insertion,
    .next 0 sampleNow "u" .insertion]

theorem registered_samplePollOps :
    (run State.step (run State.step (State.init _ _) samplePollOps)
        [.handleOauthCallback sampleLaptopLogin,
          .next 1 sampleNow "u" .insertion]).authSessions.get? "laptop" =
      some ((AuthSession.new "laptop" "client_u" sampleNow).authenticate
        ⟨"x", OAuth.sampleSha256 "kim@example.com", "k"⟩) := by
  have hinsert : ∀ i,
      ¬IsInserting "laptop" (run State.step (State.init _ _) samplePollOps) i := by
    intro i hi
    have hlast : (run State.step (State.init _ _) samplePollOps).requests =
        [.answered "laptop" (notFoundResponse "laptop")] := rfl
    rw [IsInserting, hlast] at hi
    cases List.mem_singleton.1 (List.mem_of_getElem? hi)
  have hclean : Guarded State.step (CleansBy sampleNow.1.dayLater)
      (run State.step (State.init _ _) samplePollOps)
      [.handleOauthCallback sampleLaptopLogin,
        .next 1 sampleNow "u" .insertion] := by
    refine ⟨trivial, fun pc hpc => ?_, trivial⟩
    cases hpc
    trivial
  have hs : (run State.step (State.init _ _) samplePollOps).authSessions.get? "laptop" =
      some (AuthSession.new "laptop" "client_u" sampleNow) := rfl
  exact (registered_run hs hinsert hclean).2.1

/-! ## A callback by itself -/

/-- What the session of a device tells: whether it is there, and the login in it. -/
def State.told (s : State S sha256AsString) (d : String) : Option (Option Credentials) :=
  (s.authSessions.get? d).map AuthSession.credentials

/-- The next statements of one request, with what each reads. -/
def nexts (i : ℕ) (steps : List (UtcNow × String × Planner)) : List (Op S sha256AsString) :=
  steps.map fun x => .next i x.1 x.2.1 x.2.2

section

variable {s : State S sha256AsString} {i : ℕ} {now : UtcNow} {uuid d : String} {pl : Planner}
  {pc : Pc S sha256AsString} {login : Login S sha256AsString} {ids : List String}
  {steps : List (UtcNow × String × Planner)}

theorem told_next_of_effect {entry : Option AuthSession} (hpc : s.requests[i]? = some pc)
    (h : pc.effect now uuid d (s.authSessions.get? d) = entry) :
    (s.step (.next i now uuid pl)).told d = entry.map AuthSession.credentials := by
  rw [State.told, step_next hpc, get?_next, h]

variable (now uuid pl) in
theorem requests_step_next (hpc : s.requests[i]? = some pc) :
    (s.step (.next i now uuid pl)).requests =
      s.requests.set i (pc.after s.authSessions now pl) := by
  rw [step_next hpc, requests_next hpc]

variable (now uuid pl) in
theorem getElem?_step_next (hpc : s.requests[i]? = some pc) :
    (s.step (.next i now uuid pl)).requests[i]? = some (pc.after s.authSessions now pl) := by
  rw [requests_step_next _ _ _ hpc, List.getElem?_set_self (List.getElem?_eq_some_iff.1 hpc).1]

/-- A callback that has ended does nothing more. -/
theorem loggedIn_run (hpc : s.requests[i]? = some (.loggedIn login)) :
    run State.step s (nexts i steps) = s := by
  induction steps with
  | nil => rfl
  | cons x steps ih =>
    rw [nexts, List.map_cons, run_cons, step_next hpc]
    exact ih

/-- The loop over the sessions that wait for a login. -/
theorem updatePending_run (hpc : s.requests[i]? = some (.updatePending login ids))
    (hsteps : ids.length + 1 ≤ steps.length) :
    (run State.step s (nexts i steps)).requests = s.requests.set i (.loggedIn login) ∧
      (run State.step s (nexts i steps)).told d =
        if d ∈ ids then some (some login.credentials) else s.told d := by
  induction ids generalizing s steps with
  | nil =>
    cases steps with
    | nil => exact absurd hsteps (by simp)
    | cons x steps =>
      have hlogged := getElem?_step_next x.1 x.2.1 x.2.2 hpc
      rw [nexts, List.map_cons, run_cons, ← nexts, loggedIn_run hlogged]
      refine ⟨requests_step_next _ _ _ hpc, ?_⟩
      rw [if_neg List.not_mem_nil, told_next_of_effect hpc rfl]
      rfl
  | cons id ids ih =>
    cases steps with
    | nil => exact absurd hsteps (by simp)
    | cons x steps =>
      have hnext := getElem?_step_next x.1 x.2.1 x.2.2 hpc
      rw [List.length_cons, List.length_cons] at hsteps
      obtain ⟨hlogged, htold⟩ := ih hnext (Nat.le_of_succ_le_succ hsteps)
      rw [nexts, List.map_cons, run_cons, ← nexts]
      refine ⟨by rw [hlogged, requests_step_next _ _ _ hpc, List.set_set], ?_⟩
      rw [htold, told_next_of_effect hpc rfl]
      by_cases hd : d = id
      · subst hd
        simp [Pc.effect, updated, AuthSession.authenticate, AuthSession.credentials]
      · simp [Pc.effect, hd, State.told]

theorem mem_pendingSessions {sessions : HashMap String AuthSession} :
    d ∈ pendingSessions pl sessions ↔
      ¬IsTemporary d ∧ (sessions.get? d).map AuthSession.credentials = some none := by
  simp only [pendingSessions, List.mem_map, mem_fetchAll, Option.map_eq_some_iff,
    HashMap.get?_eq_some, AuthSession.credentials, Option.map_eq_none_iff]
  constructor
  · rintro ⟨e, ⟨he, htemp, htoken⟩, rfl⟩
    exact ⟨htemp, e.2, he, htoken⟩
  · rintro ⟨htemp, session, hmem, htoken⟩
    exact ⟨(d, session), ⟨hmem, htemp, htoken⟩, rfl⟩

theorem length_pendingSessions_le {sessions : HashMap String AuthSession} :
    (pendingSessions pl sessions).length ≤ sessions.entries.length := by
  rw [pendingSessions, List.length_map, fetchAll, (pl.arrange_perm _).length_eq]
  exact List.length_filter_le _ _

theorem length_updateSession_le {sessions : HashMap String AuthSession} {c : Credentials} :
    (updateSession sessions d c now uuid).entries.length ≤ sessions.entries.length + 1 := by
  rw [updateSession]
  split
  · rw [HashMap.length_modify]
    exact Nat.le_succ _
  · exact HashMap.length_insert_le

/-- A callback without a device, from where it looks for the sessions that wait. -/
theorem findPending_run (hpc : s.requests[i]? = some (.findPending login))
    (hsteps : s.authSessions.entries.length + 2 ≤ steps.length) :
    (run State.step s (nexts i steps)).requests = s.requests.set i (.loggedIn login) ∧
      (run State.step s (nexts i steps)).told d =
        if ¬IsTemporary d ∧ s.told d = some none then some (some login.credentials)
        else s.told d := by
  cases steps with
  | nil => exact absurd hsteps (by simp)
  | cons x steps =>
    have hnext := getElem?_step_next x.1 x.2.1 x.2.2 hpc
    have hlength : (pendingSessions x.2.2 s.authSessions).length ≤ s.authSessions.entries.length :=
      length_pendingSessions_le
    rw [List.length_cons] at hsteps
    have hsteps : (pendingSessions x.2.2 s.authSessions).length + 1 ≤ steps.length := by omega
    obtain ⟨hlogged, htold⟩ := updatePending_run (d := d) hnext hsteps
    rw [nexts, List.map_cons, run_cons, ← nexts]
    refine ⟨by rw [hlogged, requests_step_next _ _ _ hpc, List.set_set], ?_⟩
    rw [htold, told_next_of_effect hpc rfl]
    simp only [mem_pendingSessions]
    rfl

/-- A callback that nothing comes between ends. It writes its login into the session of its
    device, and, if the hash of this is temporary, into every session of a real device in which
    nobody has logged in. It leaves the other sessions as they are. -/
theorem callback_alone (s : State S sha256AsString) (login : Login S sha256AsString)
    (steps : List (UtcNow × String × Planner))
    (hsteps : s.authSessions.entries.length + 4 ≤ steps.length) (d : String) :
    (run State.step s (.handleOauthCallback login :: nexts s.requests.length steps)).requests =
        s.requests ++ [.loggedIn login] ∧
      (run State.step s (.handleOauthCallback login :: nexts s.requests.length steps)).told d =
        if d = login.deviceHash ∨
            (IsTemporary login.deviceHash ∧ ¬IsTemporary d ∧ s.told d = some none) then
          some (some login.credentials)
        else s.told d := by
  cases steps with
  | nil => exact absurd hsteps (by simp)
  | cons x steps =>
    -- The callback has come, and then written its login for its device.
    have hcome : (s.step (.handleOauthCallback login)).requests[s.requests.length]? =
        some (.update login) := by simp [State.step]
    have hset : ∀ pc : Pc S sha256AsString,
        (s.step (.handleOauthCallback login)).requests.set s.requests.length pc =
          s.requests ++ [pc] := by simp [State.step]
    have htold : ∀ d, ((s.step (.handleOauthCallback login)).step
        (.next s.requests.length x.1 x.2.1 x.2.2)).told d =
          if d = login.deviceHash then some (some login.credentials) else s.told d := by
      intro d
      rw [told_next_of_effect hcome rfl]
      dsimp only [Pc.effect]
      split <;> rfl
    have hlength : ((s.step (.handleOauthCallback login)).step
        (.next s.requests.length x.1 x.2.1 x.2.2)).authSessions.entries.length ≤
          s.authSessions.entries.length + 1 := by
      rw [step_next hcome]
      exact length_updateSession_le
    have hrequests := requests_step_next x.1 x.2.1 x.2.2 hcome
    have hpc := getElem?_step_next x.1 x.2.1 x.2.2 hcome
    rw [List.length_cons] at hsteps
    rw [nexts, List.map_cons, run_cons, run_cons, ← nexts]
    dsimp only [Pc.after] at hrequests hpc
    by_cases htemp : IsTemporary login.deviceHash
    · rw [if_pos htemp] at hrequests hpc
      have hsteps : ((s.step (.handleOauthCallback login)).step
          (.next s.requests.length x.1 x.2.1 x.2.2)).authSessions.entries.length + 2 ≤
            steps.length := by omega
      obtain ⟨hlogged, hpending⟩ := findPending_run (d := d) hpc hsteps
      refine ⟨by rw [hlogged, hrequests, List.set_set, hset], ?_⟩
      rw [hpending, htold]
      by_cases hd : d = login.deviceHash
      · simp [hd]
      · simp [hd, htemp]
    · rw [if_neg htemp] at hrequests hpc
      rw [loggedIn_run hpc, htold]
      exact ⟨by rw [hrequests, hset], by simp [htemp]⟩

end

/-- A device that waits is given a login that nobody has asked for in its name. -/
theorem callback_alone_temporary :
    (run State.step (run State.step (State.init _ _) samplePollOps)
      (.handleOauthCallback (sampleCallbackLogin none (by decide)) ::
        nexts 1 (List.replicate 5 (sampleNow, "u", .insertion)))).told "laptop" =
      some (some ⟨"x", OAuth.sampleSha256 "kim@example.com", "k"⟩) := by
  have hlength : (run State.step (State.init _ _) samplePollOps).authSessions.entries.length + 4 ≤
      (List.replicate 5 (sampleNow, "u", Planner.insertion)).length := by decide +kernel
  exact (callback_alone (run State.step (State.init _ _) samplePollOps)
    (sampleCallbackLogin none (by decide)) _ hlength "laptop").2

end AuthSessions

end CosmicSync
