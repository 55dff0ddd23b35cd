import CosmicSync.Library.HashMap
import CosmicSync.Library.Run
import CosmicSync.Models.File
import CosmicSync.Server.Subscriptions

/-!
# The connection tracker

`server/connection_tracker.rs`: under the key `account:device` it is kept when a client has
connected and disconnected, and how often. A client that comes back finds its entry, unless the
scheduler of `server/connection_cleanup.rs` has removed it meanwhile; then it starts anew.

The cleanup looks at the time of the disconnection, the statistics look at `is_active`, and
each is written by several operations. But an operation acts on the entry of one key, or on
each entry by itself, so that the tracker is a machine for every key (`Call.effect`,
`getConnectionState_run`), and its invariants are those of a machine.

* `Consistent`: the key of an entry, when it is active, and when it was disconnected.
* `Counted`: how often the client has registered since the entry was created.
* `connectionTracker_run`: both hold after every run, the cleanup removes what has been
  disconnected for long enough, and the statistics add up.
* `registerConnection_run`: a registration leaves an entry that is active.
* `tracked_run`: what the subscriptions and their tasks do to the tracker is a run of it.
-/

namespace CosmicSync

open Table Run

/-- What `Utc::now` returns: a time from the epoch on, and never a leap second. -/
abbrev UtcNow :=
  { d : DateTime // 0 ≤ d.seconds ∧ d.seconds ≤ 8210266876799 ∧ d.nanos < 10 ^ 9 }

/-- `ConnectionState`. The count is a `u64`, more than a client can register. -/
structure ConnectionState where
  deviceHash : String
  accountHash : String
  connectedAt : DateTime
  lastActivity : DateTime
  disconnectedAt : Option DateTime
  connectionCount : ℕ
  isActive : Bool
  lastSyncTime : Option DateTime
  deriving DecidableEq, Repr

namespace ConnectionState

def new (deviceHash accountHash : String) (now : UtcNow) : ConnectionState where
  deviceHash := deviceHash
  accountHash := accountHash
  connectedAt := now.1
  lastActivity := now.1
  disconnectedAt := none
  connectionCount := 1
  isActive := true
  lastSyncTime := none

variable (state : ConnectionState) (now : UtcNow)

def updateActivity : ConnectionState := { state with lastActivity := now.1 }

def markDisconnected : ConnectionState :=
  { state with disconnectedAt := some now.1, isActive := false }

def markReconnected : ConnectionState :=
  { state with
    connectedAt := now.1
    lastActivity := now.1
    disconnectedAt := none
    connectionCount := state.connectionCount + 1
    isActive := true }

def updateSyncTime : ConnectionState := { state with lastSyncTime := some now.1 }

/-- The cleanup keeps what has been disconnected after the cutoff, and what has not been. -/
def isKept (cutoff : DateTime) : Bool :=
  match state.disconnectedAt with
  | some disconnectedAt => ¬disconnectedAt.le cutoff
  | none => true

variable {state}

theorem isKept_iff {cutoff : DateTime} :
    state.isKept cutoff = true ↔ ∀ d, state.disconnectedAt = some d → ¬d.le cutoff := by
  rw [isKept]
  cases state.disconnectedAt with
  | some d => simp
  | none => simp

end ConnectionState

/-- `ConnectionStats`. -/
structure ConnectionStats where
  totalConnections : ℕ
  activeConnections : ℕ
  inactiveConnections : ℕ
  deriving DecidableEq, Repr

/-- `ConnectionTracker`. -/
structure ConnectionTracker where
  connections : HashMap String ConnectionState

def connectionKey (accountHash deviceHash : String) : String := accountHash ++ ":" ++ deviceHash

/-- `Utc::now() - chrono::Duration::hours(max_age_hours)`, which panics if the duration or the
    time is out of range. -/
def cutoff (now : UtcNow) (maxAgeHours : ℤ) : Option DateTime :=
  if |3600 * maxAgeHours| ≤ 9223372036854775 then
    DateTime.fromTimestamp (now.1.seconds - 3600 * maxAgeHours) now.1.nanos
  else none

namespace ConnectionTracker

def new : ConnectionTracker := ⟨.empty⟩

variable (tracker : ConnectionTracker)

def registerConnection (deviceHash accountHash : String) (now : UtcNow) :
    String × ConnectionTracker :=
  let key := connectionKey accountHash deviceHash
  match tracker.connections.get? key with
  | some _ => (key, ⟨tracker.connections.modify key (·.markReconnected now)⟩)
  | none => (key, ⟨tracker.connections.insert key (.new deviceHash accountHash now)⟩)

def updateActivity (key : String) (now : UtcNow) : ConnectionTracker :=
  ⟨tracker.connections.modify key (·.updateActivity now)⟩

def markDisconnected (key : String) (now : UtcNow) : ConnectionTracker :=
  ⟨tracker.connections.modify key (·.markDisconnected now)⟩

def updateSyncTime (key : String) (now : UtcNow) : ConnectionTracker :=
  ⟨tracker.connections.modify key (·.updateSyncTime now)⟩

def getConnectionState (key : String) : Option ConnectionState := tracker.connections.get? key

def getLastDisconnectTime (deviceHash accountHash : String) : Option DateTime :=
  match tracker.connections.get? (connectionKey accountHash deviceHash) with
  | some state => state.disconnectedAt
  | none => none

/-- `get_active_connections`, in some order. -/
def getActiveConnections (accountHash : String) : List ConnectionState :=
  (tracker.connections.entries.map Prod.snd).filter fun state =>
    state.accountHash = accountHash ∧ state.isActive = true

/-- The connections that are active, of all accounts. -/
def getTotalActiveConnections : ℕ := tracker.connections.entries.countP fun e => e.2.isActive

def getStats : ConnectionStats :=
  let total := tracker.connections.entries.length
  let active := tracker.connections.entries.countP fun e => e.2.isActive
  ⟨total, active, total - active⟩

/-- `cleanup_old_connections`. It panics before it has the lock, if it does. -/
def cleanupOldConnections (maxAgeHours : ℤ) (now : UtcNow) : Option ConnectionTracker :=
  (cutoff now maxAgeHours).map fun cutoff =>
    ⟨tracker.connections.retain fun _ state => state.isKept cutoff⟩

/-! ## Runs -/

/-- A call that changes the tracker, and the time that it reads. -/
inductive Call where
  | registerConnection (deviceHash accountHash : String) (now : UtcNow)
  | updateActivity (key : String) (now : UtcNow)
  | markDisconnected (key : String) (now : UtcNow)
  | updateSyncTime (key : String) (now : UtcNow)
  | cleanupOldConnections (maxAgeHours : ℤ) (now : UtcNow)

/-- A call that panics changes nothing. -/
def step : Call → ConnectionTracker
  | .registerConnection deviceHash accountHash now =>
    (tracker.registerConnection deviceHash accountHash now).2
  | .updateActivity key now => tracker.updateActivity key now
  | .markDisconnected key now => tracker.markDisconnected key now
  | .updateSyncTime key now => tracker.updateSyncTime key now
  | .cleanupOldConnections maxAgeHours now =>
    (tracker.cleanupOldConnections maxAgeHours now).getD tracker

namespace Call

/-- The call registers a connection under the key. -/
def registers (key : String) : Call → Bool
  | .registerConnection deviceHash accountHash _ => key = connectionKey accountHash deviceHash
  | _ => false

/-- The entry that a call creates under a key, if there is none. -/
def create (key : String) : Call → Option ConnectionState
  | .registerConnection deviceHash accountHash now =>
    if key = connectionKey accountHash deviceHash then some (.new deviceHash accountHash now)
    else none
  | _ => none

/-- Whether an entry stays. -/
def keeps (state : ConnectionState) : Call → Bool
  | .cleanupOldConnections maxAgeHours now => (cutoff now maxAgeHours).elim true state.isKept
  | _ => true

/-- What a call makes of the entry of a key, if it stays. -/
def update (key : String) (state : ConnectionState) : Call → ConnectionState
  | .registerConnection deviceHash accountHash now =>
    if key = connectionKey accountHash deviceHash then state.markReconnected now else state
  | .updateActivity key' now => if key = key' then state.updateActivity now else state
  | .markDisconnected key' now => if key = key' then state.markDisconnected now else state
  | .updateSyncTime key' now => if key = key' then state.updateSyncTime now else state
  | .cleanupOldConnections _ _ => state

/-- What a call does at a key. -/
def effect (key : String) (entry : Option ConnectionState) (call : Call) : Option ConnectionState :=
  match entry with
  | some state => if call.keeps state then some (call.update key state) else none
  | none => call.create key

end Call

variable {tracker} {key : String} {call : Call} {calls : List Call} {state : ConnectionState}

theorem get?_modify_eq_effect {m : HashMap String ConnectionState} {key' : String}
    {f : ConnectionState → ConnectionState}
    (hkeeps : ∀ state, call.keeps state = true) (hcreate : call.create key = none)
    (hupdate : ∀ state, call.update key state = if key = key' then f state else state) :
    (m.modify key' f).get? key = call.effect key (m.get? key) := by
  rw [HashMap.get?_modify]
  cases m.get? key with
  | some state =>
    dsimp only [Call.effect]
    rw [if_pos (hkeeps state), hupdate]
    split <;> rfl
  | none =>
    dsimp only [Call.effect]
    rw [hcreate]
    exact ite_self _

theorem effect_registerConnection_of_ne {entry : Option ConnectionState}
    {deviceHash accountHash : String} {now : UtcNow}
    (h : key ≠ connectionKey accountHash deviceHash) :
    Call.effect key entry (.registerConnection deviceHash accountHash now) = entry := by
  cases entry with
  | some state => simp [Call.effect, Call.keeps, Call.update, h]
  | none => simp [Call.effect, Call.create, h]

/-- A call acts at every key by itself. -/
theorem getConnectionState_step :
    (tracker.step call).getConnectionState key =
      call.effect key (tracker.getConnectionState key) := by
  cases call with
  | registerConnection deviceHash accountHash now =>
    dsimp only [step, registerConnection, getConnectionState]
    by_cases hk : key = connectionKey accountHash deviceHash
    · rw [← hk]
      cases h : tracker.connections.get? key with
      | some state =>
        dsimp only
        rw [HashMap.get?_modify, if_pos rfl, h]
        simp [Call.effect, Call.keeps, Call.update, hk]
      | none =>
        dsimp only
        rw [HashMap.get?_insert, if_pos rfl]
        simp [Call.effect, Call.create, hk]
    · rw [effect_registerConnection_of_ne hk]
      split
      · rw [HashMap.get?_modify, if_neg hk]
      · rw [HashMap.get?_insert, if_neg hk]
  | updateActivity key' now => exact get?_modify_eq_effect (fun _ => rfl) rfl fun _ => rfl
  | markDisconnected key' now => exact get?_modify_eq_effect (fun _ => rfl) rfl fun _ => rfl
  | updateSyncTime key' now => exact get?_modify_eq_effect (fun _ => rfl) rfl fun _ => rfl
  | cleanupOldConnections maxAgeHours now =>
    dsimp only [step, cleanupOldConnections, getConnectionState]
    rcases hcutoff : cutoff now maxAgeHours with _ | cutoff
    · cases h : tracker.connections.get? key with
      | some state => simp [Call.effect, Call.keeps, Call.update, hcutoff, h]
      | none => simp [Call.effect, Call.create, h]
    · rw [Option.map_some, Option.getD_some, HashMap.get?_retain]
      cases tracker.connections.get? key with
      | some state => simp [Call.effect, Call.keeps, Call.update, hcutoff, Option.filter]
      | none => rfl

theorem getConnectionState_run :
    (run step tracker calls).getConnectionState key =
      run (Call.effect key) (tracker.getConnectionState key) calls := by
  induction calls generalizing tracker with
  | nil => rfl
  | cons call calls ih => rw [run_cons, run_cons, ih, getConnectionState_step]

/-! ## What an entry is -/

/-- An entry stands under the key of its account and device, and is active until it is
    disconnected, at a time after the epoch. -/
structure Consistent (key : String) (state : ConnectionState) : Prop where
  key_eq : key = connectionKey state.accountHash state.deviceHash
  isActive_iff : state.isActive = true ↔ state.disconnectedAt = none
  seconds_nonneg : ∀ d, state.disconnectedAt = some d → 0 ≤ d.seconds

/-- Only a registration creates an entry. -/
theorem exists_of_create (h : call.create key = some state) :
    ∃ deviceHash accountHash now, call = .registerConnection deviceHash accountHash now ∧
      key = connectionKey accountHash deviceHash ∧ state = .new deviceHash accountHash now := by
  cases call with
  | registerConnection deviceHash accountHash now =>
    rw [Call.create] at h
    split at h
    next hk => exact ⟨deviceHash, accountHash, now, rfl, hk, (Option.some.inj h).symm⟩
    next => cases h
  | updateActivity | markDisconnected | updateSyncTime | cleanupOldConnections => cases h

theorem Consistent.create (h : call.create key = some state) : Consistent key state := by
  obtain ⟨deviceHash, accountHash, now, rfl, hk, rfl⟩ := exists_of_create h
  exact ⟨hk, by simp [ConnectionState.new], by simp [ConnectionState.new]⟩

theorem Consistent.update (h : Consistent key state) (call : Call) :
    Consistent key (call.update key state) := by
  cases call with
  | registerConnection deviceHash accountHash now =>
    rw [Call.update]
    split
    · exact ⟨h.key_eq, by simp [ConnectionState.markReconnected],
        by simp [ConnectionState.markReconnected]⟩
    · exact h
  | updateActivity key' now =>
    rw [Call.update]
    split
    · exact ⟨h.key_eq, h.isActive_iff, h.seconds_nonneg⟩
    · exact h
  | markDisconnected key' now =>
    rw [Call.update]
    split
    · refine ⟨h.key_eq, by simp [ConnectionState.markDisconnected], fun d hd => ?_⟩
      cases hd
      exact now.2.1
    · exact h
  | updateSyncTime key' now =>
    rw [Call.update]
    split
    · exact ⟨h.key_eq, h.isActive_iff, h.seconds_nonneg⟩
    · exact h
  | cleanupOldConnections maxAgeHours now => exact h

theorem connectionCount_update :
    (call.update key state).connectionCount =
      state.connectionCount + if call.registers key then 1 else 0 := by
  cases call with
  | registerConnection deviceHash accountHash now =>
    rw [Call.update, Call.registers]
    by_cases hk : key = connectionKey accountHash deviceHash
    · simp [hk, ConnectionState.markReconnected]
    · simp [hk]
  | updateActivity key' now =>
    rw [Call.update]
    split <;> rfl
  | markDisconnected key' now =>
    rw [Call.update]
    split <;> rfl
  | updateSyncTime key' now =>
    rw [Call.update]
    split <;> rfl
  | cleanupOldConnections maxAgeHours now => rfl

theorem Consistent.effect {entry : Option ConnectionState}
    (h : ∀ state, entry = some state → Consistent key state)
    (hstate : call.effect key entry = some state) : Consistent key state := by
  cases entry with
  | some state₀ =>
    rw [Call.effect] at hstate
    split at hstate
    next =>
      cases hstate
      exact (h state₀ rfl).update call
    next => cases hstate
  | none => exact .create hstate

theorem consistent_run (h : (run step new calls).getConnectionState key = some state) :
    Consistent key state := by
  rw [getConnectionState_run] at h
  have hempty : ∀ state, new.getConnectionState key = some state → Consistent key state :=
    fun _ h => by cases h
  exact run_invariant (I := fun entry => ∀ state, entry = some state → Consistent key state)
    (fun _ _ h _ => Consistent.effect h) hempty state h

/-! ## How often a client has registered -/

/-- The entry has been created by a call, and has stayed since; it counts the registrations
    from this call on. -/
def Counted (key : String) (state : ConnectionState) (calls : List Call) : Prop :=
  ∃ before call after, calls = before ++ call :: after ∧
    (run step new before).getConnectionState key = none ∧
    (∀ calls', calls' <+: after →
      (run step new (before ++ call :: calls')).getConnectionState key ≠ none) ∧
    state.connectionCount = (call :: after).countP (·.registers key)

theorem connectionCount_create (h : call.create key = some state) :
    call.registers key = true ∧ state.connectionCount = 1 := by
  obtain ⟨deviceHash, accountHash, now, rfl, hk, rfl⟩ := exists_of_create h
  exact ⟨decide_eq_true hk, rfl⟩

theorem counted_run (h : (run step new calls).getConnectionState key = some state) :
    Counted key state calls := by
  -- From the last call backwards: it has created the entry, or the entry was there before.
  induction calls using List.reverseRecOn generalizing state with
  | nil => cases h
  | append_singleton calls call ih =>
    have hpresent : (run step new (calls ++ [call])).getConnectionState key ≠ none := by
      rw [h]
      exact Option.some_ne_none state
    rw [run_append, run_cons, run_nil, getConnectionState_step] at h
    cases hentry : (run step new calls).getConnectionState key with
    | none =>
      rw [hentry] at h
      obtain ⟨hregisters, hcount⟩ := connectionCount_create h
      refine ⟨calls, call, [], rfl, hentry, ?_, ?_⟩
      · intro calls' hcalls'
        rw [List.prefix_nil.1 hcalls']
        exact hpresent
      · rw [hcount, List.countP_singleton, if_pos hregisters]
    | some state₀ =>
      rw [hentry, Call.effect] at h
      split at h
      next =>
        cases h
        obtain ⟨before, created, after, rfl, hnone, hsome, hcount⟩ := ih hentry
        refine ⟨before, created, after ++ [call], by simp, hnone, ?_, ?_⟩
        · intro calls' hcalls'
          rcases List.prefix_concat_iff.1 hcalls' with rfl | hcalls'
          · simpa using hpresent
          · exact hsome calls' hcalls'
        · rw [connectionCount_update, hcount, ← List.cons_append, List.countP_append,
            List.countP_singleton]
      next => cases h

/-! ## What the cleanup removes -/

/-- The connection was disconnected at least so many hours ago. -/
def DisconnectedFor (hours : ℤ) (now : UtcNow) (state : ConnectionState) : Prop :=
  ∃ d, state.disconnectedAt = some d ∧ DateTime.le ⟨d.seconds + 3600 * hours, d.nanos⟩ now.1

section

variable {hours : ℤ} {now : UtcNow} {time : DateTime}

theorem eq_of_cutoff (h : cutoff now hours = some time) :
    time = ⟨now.1.seconds - 3600 * hours, now.1.nanos⟩ := by
  rw [cutoff] at h
  split at h
  next =>
    rw [DateTime.fromTimestamp] at h
    split at h
    next => exact (Option.some.inj h).symm
    next => cases h
  next => cases h

theorem cutoff_of_le (hhours : 0 ≤ hours) (h : 3600 * hours ≤ now.1.seconds) :
    cutoff now hours = some ⟨now.1.seconds - 3600 * hours, now.1.nanos⟩ := by
  obtain ⟨-, hseconds, hnanos⟩ := now.2
  rw [cutoff, if_pos (by rw [abs_of_nonneg (by omega)]; omega), DateTime.fromTimestamp,
    if_pos ⟨by omega, by omega, by omega, by omega⟩]

/-- Where the cleanup panics, the cutoff is before the epoch, and nothing is as old. -/
theorem keeps_cleanupOldConnections (hstate : Consistent key state) (hhours : 0 ≤ hours) :
    Call.keeps state (.cleanupOldConnections hours now) = true ↔
      ¬DisconnectedFor hours now state := by
  rw [DisconnectedFor, Call.keeps]
  push Not
  cases hcutoff : cutoff now hours with
  | some time =>
    rw [Option.elim_some, ConnectionState.isKept_iff, eq_of_cutoff hcutoff]
    refine forall₂_congr fun d hd => not_congr ?_
    simp only [DateTime.le]
    omega
  | none =>
    refine iff_of_true rfl fun d hd hle => ?_
    have hnonneg := hstate.seconds_nonneg d hd
    simp only [DateTime.le] at hle
    rw [cutoff_of_le hhours (by omega)] at hcutoff
    cases hcutoff

/-- The cleanup removes the entries that have been disconnected for long enough. -/
theorem getConnectionState_cleanup (hhours : 0 ≤ hours)
    (h : ∀ state, tracker.getConnectionState key = some state → Consistent key state) :
    (tracker.step (.cleanupOldConnections hours now)).getConnectionState key = some state ↔
      tracker.getConnectionState key = some state ∧ ¬DisconnectedFor hours now state := by
  rw [getConnectionState_step]
  cases hentry : tracker.getConnectionState key with
  | some state₀ =>
    have hkeeps : Call.keeps state₀ (.cleanupOldConnections hours now) = true ↔
        ¬DisconnectedFor hours now state₀ :=
      keeps_cleanupOldConnections (h state₀ hentry) hhours
    rw [Call.effect]
    split
    next hkept =>
      rw [hkeeps] at hkept
      constructor
      · rintro ⟨⟩
        exact ⟨rfl, hkept⟩
      · rintro ⟨⟨⟩, -⟩
        rfl
    next hkept =>
      rw [hkeeps, not_not] at hkept
      constructor
      · intro h
        cases h
      · rintro ⟨⟨⟩, hnot⟩
        exact absurd hkept hnot
  | none => simp [Call.effect, Call.create]

example :
    (run step new [.registerConnection "pc" "kim" ⟨⟨0, 0⟩, by decide⟩,
      .markDisconnected "kim:pc" ⟨⟨10, 0⟩, by decide⟩,
      .cleanupOldConnections 24 ⟨⟨86410, 0⟩, by decide⟩]).getConnectionState "kim:pc" = none := by
  decide

theorem getConnectionState_cleanup_of_active (h : Consistent key state)
    (hstate : tracker.getConnectionState key = some state) (hactive : state.isActive = true) :
    (tracker.step (.cleanupOldConnections hours now)).getConnectionState key = some state := by
  have hconnected : state.disconnectedAt = none := h.isActive_iff.1 hactive
  rw [getConnectionState_step, hstate, Call.effect, Call.keeps]
  cases cutoff now hours with
  | some time =>
    have hkept : state.isKept time = true :=
      ConnectionState.isKept_iff.2 fun d hd => by simp [hconnected] at hd
    rw [Option.elim_some, if_pos hkept]
    rfl
  | none => rfl

end

/-! ## The statistics -/

theorem getStats_add : tracker.getStats.activeConnections + tracker.getStats.inactiveConnections =
    tracker.getStats.totalConnections :=
  Nat.add_sub_cancel' List.countP_le_length

/-- A connection counts as inactive if the cleanup may some day remove it. -/
theorem inactiveConnections_run :
    (run step new calls).getStats.inactiveConnections =
      (run step new calls).connections.entries.countP fun e => e.2.disconnectedAt.isSome := by
  have hinactive : ∀ e ∈ (run step new calls).connections.entries,
      (!e.2.isActive) = true ↔ e.2.disconnectedAt.isSome = true := by
    intro e he
    have h : (run step new calls).getConnectionState e.1 = some e.2 := HashMap.get?_eq_some.2 he
    have hactive := (consistent_run h).isActive_iff
    rw [Option.isSome_iff_ne_none, Ne, ← hactive]
    simp
  have hlength := List.length_eq_countP_add_countP
    (fun e : String × ConnectionState => e.2.isActive)
    (l := (run step new calls).connections.entries)
  simp only [Bool.not_eq_true, Bool.decide_eq_false] at hlength
  rw [← List.countP_congr hinactive]
  dsimp only [getStats]
  omega

/-- Only a client that is known and not connected has a last disconnect time. -/
theorem getLastDisconnectTime_run {deviceHash accountHash : String} :
    ((run step new calls).getLastDisconnectTime deviceHash accountHash).isSome ↔
      ∃ state, (run step new calls).getConnectionState (connectionKey accountHash deviceHash) =
        some state ∧ state.isActive = false := by
  rw [getLastDisconnectTime, getConnectionState]
  split
  next state hstate =>
    have hactive := (consistent_run hstate).isActive_iff
    rw [Option.isSome_iff_ne_none, Ne, ← hactive]
    simp [hstate]
  next hnone => simp [hnone]

/-- The active connections of an account are found under its keys. -/
theorem mem_getActiveConnections_run {accountHash : String} :
    state ∈ (run step new calls).getActiveConnections accountHash ↔
      (state.accountHash = accountHash ∧ state.isActive = true) ∧
        (run step new calls).getConnectionState (connectionKey accountHash state.deviceHash) =
          some state := by
  rw [getActiveConnections, List.mem_filter, decide_eq_true_eq, and_comm, getConnectionState,
    HashMap.get?_eq_some]
  refine and_congr_right fun ⟨haccount, _⟩ => ?_
  constructor
  · intro hmem
    obtain ⟨⟨key, state⟩, he, rfl⟩ := List.mem_map.1 hmem
    have hkey := (consistent_run (HashMap.get?_eq_some.2 he)).key_eq
    rw [haccount] at hkey
    exact hkey ▸ he
  · exact fun he => List.mem_map_of_mem he

/-- In every run, from the empty tracker: an entry stands under the key of its account and
    device, is active as long as it is not disconnected, and counts the registrations since it
    was created. A cleanup removes what was disconnected at least so many hours ago, and
    nothing that is active. The statistics add up. -/
theorem connectionTracker_run (calls : List Call) :
    (∀ key state, (run step new calls).getConnectionState key = some state →
      key = state.accountHash ++ ":" ++ state.deviceHash ∧
        (state.isActive = true ↔ state.disconnectedAt = none) ∧ Counted key state calls) ∧
    (∀ hours now key state, 0 ≤ hours →
      ((run step new (calls ++ [.cleanupOldConnections hours now])).getConnectionState key =
          some state ↔
        (run step new calls).getConnectionState key = some state ∧
          ¬DisconnectedFor hours now state)) ∧
    (∀ hours now key state, (run step new calls).getConnectionState key = some state →
      state.isActive = true →
        (run step new (calls ++ [.cleanupOldConnections hours now])).getConnectionState key =
          some state) ∧
    (run step new calls).getStats.activeConnections +
        (run step new calls).getStats.inactiveConnections =
      (run step new calls).getStats.totalConnections ∧
    (run step new calls).getStats.activeConnections =
      (run step new calls).getTotalActiveConnections := by
  have hcleanup : ∀ hours now, run step new (calls ++ [.cleanupOldConnections hours now]) =
      (run step new calls).step (.cleanupOldConnections hours now) := fun _ _ => run_append
  simp only [hcleanup]
  refine ⟨fun key state h => ?_, fun hours now key state hhours => ?_,
    fun hours now key state h hactive => ?_, getStats_add, rfl⟩
  · have hconsistent := consistent_run h
    exact ⟨hconsistent.key_eq, hconsistent.isActive_iff, counted_run h⟩
  · exact getConnectionState_cleanup hhours fun state => consistent_run
  · exact getConnectionState_cleanup_of_active (consistent_run h) h hactive

/-- A client that has registered has an entry, whatever has been done before: it is active, as of
    now, and counts one registration more. -/
theorem registerConnection_run (calls : List Call) (deviceHash accountHash : String)
    (now : UtcNow) :
    ∃ state,
      (run step new (calls ++ [.registerConnection deviceHash accountHash now])).getConnectionState
        (connectionKey accountHash deviceHash) = some state ∧
      state.isActive = true ∧ state.connectedAt = now.1 ∧
      state.connectionCount = ((run step new calls).getConnectionState
        (connectionKey accountHash deviceHash)).elim 0 (·.connectionCount) + 1 := by
  have hrun : run step new (calls ++ [.registerConnection deviceHash accountHash now]) =
      (run step new calls).step (.registerConnection deviceHash accountHash now) := run_append
  rw [hrun, getConnectionState_step]
  cases (run step new calls).getConnectionState (connectionKey accountHash deviceHash) with
  | some state =>
    refine ⟨state.markReconnected now, ?_, rfl, rfl, rfl⟩
    simp [Call.effect, Call.keeps, Call.update]
  | none =>
    refine ⟨.new deviceHash accountHash now, ?_, rfl, rfl, rfl⟩
    simp [Call.effect, Call.create]

/-! ## The calls of subscriptions -/

/-- The connections that the subscriptions and their tasks keep are those of the tracker. -/
def Tracks (s : Subscriptions.State) (tracker : ConnectionTracker) : Prop :=
  ∀ key, (s.connections key).map (fun c => (c.connectionCount, c.isActive)) =
    (tracker.getConnectionState key).map fun state => (state.connectionCount, state.isActive)

namespace Tracks

variable {s : Subscriptions.State} {tracker : ConnectionTracker} {i : ℕ} {key : String}
  {now : UtcNow}

theorem registerConnection (h : Tracks s tracker) {accountHash deviceHash : String} :
    Tracks (s.registerConnection i (connectionKey accountHash deviceHash))
      (tracker.step (.registerConnection deviceHash accountHash now)) := by
  intro key
  rw [getConnectionState_step]
  dsimp only [Subscriptions.State.registerConnection]
  by_cases hk : key = connectionKey accountHash deviceHash
  · have hkey := h key
    rw [← hk, Function.update_self]
    cases hc : s.connections key with
    | some c =>
      rw [hc, Option.map_some, eq_comm, Option.map_eq_some_iff] at hkey
      obtain ⟨state, hstate, heq⟩ := hkey
      rw [Prod.mk.injEq] at heq
      rw [hstate, hk]
      simp [Call.effect, Call.keeps, Call.update, ConnectionState.markReconnected, heq]
    | none =>
      rw [hc, Option.map_none, eq_comm, Option.map_eq_none_iff] at hkey
      rw [hkey]
      simp [Call.effect, Call.create, ConnectionState.new, hk]
  · rw [effect_registerConnection_of_ne hk, Function.update_of_ne hk]
    exact h key

theorem markDisconnected (h : Tracks s tracker) :
    Tracks (s.markDisconnected key) (tracker.step (.markDisconnected key now)) := by
  intro key'
  rw [step, ConnectionTracker.markDisconnected, getConnectionState, HashMap.get?_modify]
  dsimp only [Subscriptions.State.markDisconnected]
  have hkey := h key'
  rw [getConnectionState] at hkey
  by_cases hk : key' = key
  · subst hk
    rw [Function.update_self, if_pos rfl]
    cases hc : s.connections key' with
    | some c =>
      rw [hc, Option.map_some, eq_comm, Option.map_eq_some_iff] at hkey
      obtain ⟨state, hstate, heq⟩ := hkey
      rw [Prod.mk.injEq] at heq
      simp [hstate, ConnectionState.markDisconnected, heq]
    | none =>
      rw [hc, Option.map_none, eq_comm, Option.map_eq_none_iff] at hkey
      rw [hkey]
      rfl
  · rw [Function.update_of_ne hk, if_neg hk]
    exact hkey

/-- A statement of a subscription is at most one call of the tracker. -/
theorem next (h : Tracks s tracker) (now : UtcNow) {accountHash deviceHash : String}
    {pingFails : Bool} {pc : Subscriptions.Pc} :
    ∃ calls, Tracks (s.next i (connectionKey accountHash deviceHash) pingFails pc)
      (run step tracker calls) := by
  cases pc with
  | connect aliasAccount =>
    exact ⟨[.registerConnection deviceHash accountHash now], h.registerConnection⟩
  | disconnect =>
    exact ⟨[.markDisconnected (connectionKey accountHash deviceHash) now], h.markDisconnected⟩
  | registerFile | unregisterFile | fileDone | unregisterOld | registerGroup | check
  | unregisterGroup | groupDone => exact ⟨[], h⟩
  | ping failures =>
    rw [Subscriptions.State.next]
    split <;> exact ⟨[], h⟩

end Tracks

def IsKey (key : String) : Prop :=
  ∃ accountHash deviceHash, key = connectionKey accountHash deviceHash

/-- The keys of the subscriptions are those of connections, and the tracker is what a run of its
    calls leaves. -/
structure Tracked (s : Subscriptions.State) : Prop where
  isKey : ∀ sub ∈ s.subscriptions, IsKey sub.key
  tracks : ∃ calls, Tracks s (run step new calls)

namespace Tracked

variable {s : Subscriptions.State}

theorem subscribe (h : Tracked s) {key : String} {pc : Subscriptions.Pc} (hkey : IsKey key) :
    Tracked { s with subscriptions := s.subscriptions ++ [⟨key, pc⟩] } where
  isKey := by
    intro sub hsub
    rcases List.mem_append.1 hsub with hsub | hsub
    · exact h.isKey sub hsub
    · rw [List.mem_singleton.1 hsub]
      exact hkey
  tracks := h.tracks

theorem next (h : Tracked s) (now : UtcNow) {i : ℕ} {pingFails : Bool}
    {sub : Subscriptions.Subscription} (hsub : s.subscriptions[i]? = some sub) :
    Tracked (s.next i sub.key pingFails sub.pc) where
  isKey := by
    obtain ⟨pc', hset, -⟩ := (Subscriptions.next_effect hsub).moved
    rw [hset]
    intro sub' hsub'
    rcases List.mem_or_eq_of_mem_set hsub' with hsub' | rfl
    · exact h.isKey sub' hsub'
    · exact h.isKey sub (List.mem_of_getElem? hsub)
  tracks := by
    obtain ⟨accountHash, deviceHash, hkey⟩ := h.isKey sub (List.mem_of_getElem? hsub)
    obtain ⟨calls, htracks⟩ := h.tracks
    obtain ⟨calls', hnext⟩ := htracks.next now
    rw [hkey]
    exact ⟨calls ++ calls', run_append ▸ hnext⟩

end Tracked

/-- A client subscribes under the key of its account and device. -/
def HasKey : Subscriptions.Op → Prop
  | .subscribeToFileUpdates key _ | .subscribeToWatcherGroupUpdates key => IsKey key
  | .next _ _ => True

/-- In every interleaving of subscriptions and their tasks, the tracker is what a run of its
    calls leaves. -/
theorem tracked_run {ops : List Subscriptions.Op} (hops : ∀ o ∈ ops, HasKey o) (now : UtcNow) :
    Tracked (run Subscriptions.State.step .init ops) := by
  have hinit : Tracked .init := ⟨fun _ hsub => absurd hsub List.not_mem_nil, [], fun _ => rfl⟩
  refine (Guarded.of_forall hops).invariant (fun s o ho h => ?_) hinit
  cases o with
  | subscribeToFileUpdates key aliasAccount => exact h.subscribe ho
  | subscribeToWatcherGroupUpdates key => exact h.subscribe ho
  | next i pingFails =>
    rw [Subscriptions.State.step]
    split
    next sub hsub => exact h.next now hsub
    next => exact h

end ConnectionTracker

end CosmicSync
