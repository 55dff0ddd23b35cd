import Mathlib.Logic.Function.Basic
import CosmicSync.Library.Run

/-!
# The encryption key of an account

An account has one key, which its devices share; what was encrypted under another
one is lost to them. The key is created on demand in two places: when a client
logs in (`get_encryption_key` of `auth/oauth.rs`, called by `process_oauth_code`) and
when it asks for it (`get_or_create_key` of `services/encryption_service.rs`). Both
read the key, generate one if there is none, and call `store_encryption_key`, which
looks whether there is a row and then updates or inserts it. Nothing makes these
steps a transaction, so that any number of callers may interleave them, and each
of them may fail.

A caller that finds no key goes on to overwrite the one that another caller has
stored meanwhile; and a login also does so when it fails to read the key
(`login_replaces_key`), and hands out its key even if it fails to store it.

* `KeepsKey`: the condition on a step that excludes this.
* `key_run`: under it, in every interleaving, a stored key stays, and every key
  handed out is the stored one from then on.
-/

namespace CosmicSync

namespace EncryptionKeys

open Run

/-! ## Callers and their steps -/

/-- The two callers of `store_encryption_key`. -/
inductive Caller where
  /-- `process_oauth_code`, through `get_encryption_key`. -/
  | login
  /-- `get_or_create_key`. -/
  | service
  deriving DecidableEq, Repr

/-- The next statement of a caller, with the key it has generated. -/
inductive Pc where
  | idle
  /-- `SELECT encryption_key`. -/
  | read (c : Caller)
  /-- A login lists the devices of the account, and uses none of them. -/
  | listDevices (key : String)
  /-- `SELECT account_hash`, in `store_encryption_key`. -/
  | check (c : Caller) (key : String)
  /-- `UPDATE` if there was a row, otherwise `INSERT`. -/
  | write (c : Caller) (key : String) (rowExists : Bool)
  deriving DecidableEq, Repr

structure State where
  /-- The key in the row of the account; the column is unique. -/
  stored : Option String
  pc : ℕ → Pc
  /-- The keys that were returned to clients. -/
  returned : List String

/-- No caller is active. -/
def State.init (stored : Option String) : State := ⟨stored, fun _ => .idle, []⟩

/-- The events of an interleaving: a caller begins, or executes its next statement,
    which may fail. Where the caller generates a key, it is `newKey`. -/
inductive Op where
  | start (p : ℕ) (c : Caller)
  | next (p : ℕ) (fails : Bool) (newKey : String)

namespace State

variable (s : State)

def goto (p : ℕ) (pc : Pc) : State := { s with pc := Function.update s.pc p pc }

/-- The caller ends, and returns the keys (one or none). -/
def finish (p : ℕ) (keys : List String) : State :=
  { s with pc := Function.update s.pc p .idle, returned := s.returned ++ keys }

/-- The caller ends after `store_encryption_key` has failed. A login logs the error
    and returns the key it generated. -/
def storeFailed (p : ℕ) (key : String) : Caller → State
  | .login => s.finish p [key]
  | .service => s.finish p []

/-- The next statement of the caller `p`. -/
def next (p : ℕ) (fails : Bool) (newKey : String) : State :=
  match s.pc p with
  | .idle => s
  | .read .login =>
    match fails, s.stored with
    | false, some key => s.finish p [key]
    | false, none => s.goto p (.listDevices newKey)
    -- The error is taken for a missing key.
    | true, _ => s.goto p (.listDevices newKey)
  | .read .service =>
    match fails, s.stored with
    | false, some key => s.finish p [key]
    | false, none => s.goto p (.check .service newKey)
    | true, _ => s.finish p []
  | .listDevices key => s.goto p (.check .login key)
  | .check c key =>
    if fails then s.storeFailed p key c else s.goto p (.write c key s.stored.isSome)
  | .write c key true =>
    if fails then s.storeFailed p key c
    else { s.finish p [key] with stored := s.stored.map fun _ => key }
  | .write c key false =>
    -- A row that another caller has inserted meanwhile makes the `INSERT` fail.
    if fails ∨ s.stored.isSome then s.storeFailed p key c
    else { s.finish p [key] with stored := some key }

/-- The state after an event. -/
def step : Op → State
  | .start p c => if s.pc p = .idle then s.goto p (.read c) else s
  | .next p fails newKey => s.next p fails newKey

end State

/-! ## Steps that keep the key -/

/-- The next statement overwrites no key; and if it is a login's, the login does not
    fail to store its key: it does not fail to look for a row, finds none, and
    inserts its own, before any other caller does. -/
def Pc.KeepsKey (stored : Option String) (fails : Bool) : Pc → Prop
  | idle => True
  | read _ => True
  | listDevices _ => True
  | check .login _ => fails = false
  | check .service _ => True
  | write .login _ true => False
  | write .login _ false => fails = false ∧ stored = none
  | write .service _ true => fails = true
  | write .service _ false => True

instance (stored : Option String) (fails : Bool) : (pc : Pc) → Decidable (pc.KeepsKey stored fails)
  | .idle => .isTrue trivial
  | .read _ => .isTrue trivial
  | .listDevices _ => .isTrue trivial
  | .check .login _ => inferInstanceAs (Decidable (fails = false))
  | .check .service _ => .isTrue trivial
  | .write .login _ true => .isFalse id
  | .write .login _ false => inferInstanceAs (Decidable (fails = false ∧ stored = none))
  | .write .service _ true => inferInstanceAs (Decidable (fails = true))
  | .write .service _ false => .isTrue trivial

/-- The event keeps the key. -/
def KeepsKey (s : State) : Op → Prop
  | .start .. => True
  | .next p fails _ => (s.pc p).KeepsKey s.stored fails

instance (s : State) : (op : Op) → Decidable (KeepsKey s op)
  | .start .. => .isTrue trivial
  | .next p fails _ => inferInstanceAs (Decidable ((s.pc p).KeepsKey s.stored fails))

/-- A state `s'` after `s` in which the key is kept: it is the same, or it is the first;
    and the keys returned meanwhile are the stored one. -/
structure KeyKept (s s' : State) : Prop where
  stored : ∀ key, s.stored = some key → s'.stored = some key
  returned : ∀ key ∈ s'.returned, key ∈ s.returned ∨ s'.stored = some key

namespace KeyKept

variable {s : State} {p : ℕ} {key : String} {pc : Pc}

theorem refl : KeyKept s s := ⟨fun _ h => h, fun _ h => .inl h⟩

theorem goto : KeyKept s (s.goto p pc) := ⟨fun _ h => h, fun _ h => .inl h⟩

/-- A caller that returns nothing, or the stored key. -/
theorem finish {keys : List String} (h : ∀ key ∈ keys, s.stored = some key) :
    KeyKept s (s.finish p keys) :=
  ⟨fun _ h => h, fun _ hk => (List.mem_append.1 hk).imp_right (h _)⟩

theorem storeFailed_service : KeyKept s (s.storeFailed p key .service) :=
  finish fun _ h => absurd h List.not_mem_nil

/-- The first key is inserted. -/
theorem insert (h : s.stored = none) :
    KeyKept s { s.finish p [key] with stored := some key } := by
  refine ⟨fun _ hk => absurd (h.symm.trans hk) (by simp), fun k hk => ?_⟩
  refine (List.mem_append.1 hk).imp_right fun hk => ?_
  rw [List.mem_singleton.1 hk]

end KeyKept

theorem keyKept_next {s : State} {p : ℕ} {fails : Bool} {newKey : String}
    (h : (s.pc p).KeepsKey s.stored fails) : KeyKept s (s.next p fails newKey) := by
  unfold State.next
  split
  next => exact .refl
  next =>
    split
    next key hkey => exact .finish fun k hk => by rw [List.mem_singleton.1 hk]; exact hkey
    next => exact .goto
    next => exact .goto
  next =>
    split
    next key hkey => exact .finish fun k hk => by rw [List.mem_singleton.1 hk]; exact hkey
    next => exact .goto
    next => exact .finish fun _ hk => absurd hk List.not_mem_nil
  next => exact .goto
  next c key hpc =>
    rw [hpc] at h
    rcases c with _ | _
    · rw [if_neg (by simp [show fails = false from h])]
      exact .goto
    · split
      · exact .storeFailed_service
      · exact .goto
  next c key hpc =>
    rw [hpc] at h
    rcases c with _ | _
    · exact h.elim
    · rw [if_pos (show fails = true from h)]
      exact .storeFailed_service
  next c key hpc =>
    rw [hpc] at h
    rcases c with _ | _
    · rw [if_neg (by simp [h.1, h.2])]
      exact .insert h.2
    · split
      · exact .storeFailed_service
      next hs =>
        rw [not_or, Option.not_isSome_iff_eq_none] at hs
        exact .insert hs.2

theorem keyKept_step {s : State} {op : Op} (h : KeepsKey s op) : KeyKept s (s.step op) := by
  rcases op with ⟨p, c⟩ | ⟨p, fails, newKey⟩
  · simp only [State.step]
    split
    · exact .goto
    · exact .refl
  · exact keyKept_next h

/-! ## Interleavings -/

/-- With a key stored, a login that fails to read it: it finds the row, and replaces
    the key by its own. -/
theorem login_replaces_key :
    let ops : List Op := [.start 0 .login, .next 0 true "b", .next 0 false "", .next 0 false "",
      .next 0 false ""]
    (State.init (some "a")).stored = some "a" ∧
      (run State.step (State.init (some "a")) ops).stored = some "b" := by
  decide

/-- In every interleaving whose steps keep the key: a stored key stays, and every key
    that was returned is the stored one from then on. -/
theorem key_run (stored : Option String) (ops ops' : List Op)
    (h : Guarded State.step KeepsKey (State.init stored) (ops ++ ops')) :
    let s := run State.step (State.init stored) ops
    let s' := run State.step (State.init stored) (ops ++ ops')
    (∀ key, s.stored = some key → s'.stored = some key) ∧
      ∀ key ∈ s.returned, s'.stored = some key := by
  intro s s'
  obtain ⟨h, h'⟩ := Guarded.append.1 h
  have hreturned : ∀ key ∈ s.returned, s.stored = some key := by
    refine h.invariant (I := fun s => ∀ key ∈ s.returned, s.stored = some key) ?_ ?_
    · intro s op hop hs key hkey
      have hkept := keyKept_step hop
      rcases hkept.returned key hkey with hold | hnew
      · exact hkept.stored key (hs key hold)
      · exact hnew
    · exact fun key hkey => absurd hkey List.not_mem_nil
  have hstays : ∀ key, s.stored = some key → s'.stored = some key := by
    intro key hkey
    rw [show s' = run State.step s ops' from run_append]
    exact h'.invariant (I := fun s => s.stored = some key)
      (fun s op hop hs => (keyKept_step hop).stored key hs) hkey
  exact ⟨hstays, fun key hkey => hstays key (hreturned key hkey)⟩

/-- A login creates the key, and the service then returns it. -/
theorem key_login_then_service :
    let ops : List Op := [.start 0 .login, .next 0 false "a", .next 0 false "", .next 0 false "",
      .next 0 false ""]
    let ops' : List Op := [.start 1 .service, .next 1 false "b"]
    (run State.step (State.init none) (ops ++ ops')).returned = ["a", "a"] ∧
      (run State.step (State.init none) (ops ++ ops')).stored = some "a" :=
  ⟨by decide, (key_run none _ _ (by decide)).2 "a" (by decide)⟩

end EncryptionKeys

end CosmicSync
