import CosmicSync.Server.InitialSync

/-!
# Subscribing and the channel of the subscriber

`subscribe_to_file_updates` of `server/service.rs` makes a channel for 1024 notifications,
registers its sender under the key of the device, and hands its receiver to the client. But
before it does so it sends the files of the account on the channel, and a send waits while the
channel is full. Nobody receives meanwhile: the receiver is held by the call that waits.

The channel is also filled by the broadcasts of other calls, which find the sender under the
key. A broadcast that waits for room keeps the senders locked, so that then the call cannot
even look up its own.

* `next`: the steps of the call and what the other calls do meanwhile.
* `Fits.not_blocked`: where there is room for everything, the call has a next step.
* `Room.returned`: a call that returns has put everything into the channel.
* `queue_of_returned`: what it has put there is what the initial synchronisation delivers.
-/

namespace CosmicSync

namespace SubscribeStream

open Run InitialSync

/-- `mpsc::channel(1024)`. -/
def capacity : ℕ := 1024

/-- Where the key of the device leads: to the sender of the call, to that of a later
    subscription of the device, or nowhere. -/
inductive Registration where
  | own
  | other
  | none
  deriving DecidableEq, Repr

/-- Where the call is: in the loops of `send_initial_file_sync`, with what is left of the
    batches; in a send on its own channel; or behind it, with the stream handed out. -/
inductive Phase where
  | sync (batches : List (List FileInfo))
  | sending (file : FileInfo) (batches : List (List FileInfo))
  | returned

structure State where
  /-- The channel of the call. -/
  queue : List FileInfo
  registered : Registration
  /-- A broadcast waits for room in the channel, with the senders locked. -/
  waiting : Bool
  phase : Phase

/-- A step of the call; and what other calls do: a broadcast to the device, and another
    subscription or the end of one. -/
inductive Action where
  /-- A send on the channel of another subscription may fail. -/
  | proceed (delivered : Bool)
  | broadcast (file : FileInfo)
  | register (registration : Registration)

/-- The next state; there is none if the action has to wait. -/
def next (deviceHash : String) (s : State) : Action → Option State
  | .proceed delivered =>
    match s.phase with
    | .sync [] => some { s with phase := .returned }
    | .sync ([] :: batches) => some { s with phase := .sync batches }
    | .sync ((file :: batch) :: batches) =>
      if file.deviceHash = deviceHash then some { s with phase := .sync (batch :: batches) }
      else if s.waiting then none
      else
        match s.registered with
        | .own => some { s with phase := .sending file (batch :: batches) }
        -- A send that fails ends the batch.
        | .other => some { s with phase := .sync (if delivered then batch :: batches else batches) }
        | .none => some { s with phase := .sync batches }
    | .sending file batches =>
      if s.queue.length < capacity then
        some { s with queue := s.queue ++ [file], phase := .sync batches }
      else none
    | .returned => none
  | .broadcast file =>
    if s.waiting = false ∧ s.registered = .own then
      if s.queue.length < capacity then some { s with queue := s.queue ++ [file] }
      else some { s with waiting := true }
    else none
  | .register registration => if s.waiting then none else some { s with registered := registration }

/-- An action that has to wait changes nothing. -/
def step (deviceHash : String) (s : State) (a : Action) : State := (next deviceHash s a).getD s

/-- The call has not returned, and has no next step. -/
def Blocked (deviceHash : String) (s : State) : Prop :=
  s.phase ≠ .returned ∧ ∀ delivered, next deviceHash s (.proceed delivered) = none

/-- The call, after it has registered its sender and listed the files of the account. -/
def start (backend : Backend) (pl : Table.Planner) (st : InitialSync.State) (c : Call) : State where
  queue := []
  registered := .own
  waiting := false
  phase := .sync (if c.groupsFail then [] else chunks batchSize (st.listed backend pl c))

def Action.isBroadcast : Action → Bool
  | .broadcast _ => true
  | _ => false

/-- The number of broadcasts among the actions. -/
def broadcasts (actions : List Action) : ℕ := actions.countP Action.isBroadcast

/-- Whatever the other calls do, with at most `b` broadcasts, the call always has a next step,
    and returns after finitely many of them. -/
structure NeverBlocks (deviceHash : String) (b : ℕ) (s : State) : Prop where
  proceeds : ∀ actions, broadcasts actions ≤ b →
    ¬Blocked deviceHash (run (step deviceHash) s actions)
  returns : ∀ actions, broadcasts actions ≤ b → ∃ outcomes : List Bool,
    (run (step deviceHash) s (actions ++ outcomes.map .proceed)).phase = .returned

/-- The number of files that the call has to send: those of other devices, over all groups
    that are listed; the storage in memory leaves out the files before the time asked for. -/
def outgoing (backend : Backend) (deviceHash : String) (st : InitialSync.State) (c : Call) : ℕ :=
  if c.groupsFail then 0
  else (st.groups.map fun g =>
    if c.listFails g then 0
    else st.files.countP fun f => f.groupId = g ∧ f.deviceHash ≠ deviceHash ∧
      (backend = .memory → st.effectiveSince c ≤ f.updatedTime.seconds)).sum

/-! ## What is left to do -/

/-- The files that are left to send. -/
def Phase.left (deviceHash : String) : Phase → List FileInfo
  | sync batches => batches.flatten.filter fun f => f.deviceHash ≠ deviceHash
  | sending file batches => file :: batches.flatten.filter fun f => f.deviceHash ≠ deviceHash
  | returned => []

/-- Their number. -/
def Phase.toSend (deviceHash : String) (phase : Phase) : ℕ := (phase.left deviceHash).length

/-- The steps that are left, at most. -/
def Phase.work : Phase → ℕ
  | sync batches => 2 * batches.flatten.length + batches.length + 1
  | sending _ batches => 2 * batches.flatten.length + batches.length + 2
  | returned => 0

/-- What a step of the call does: it gets on; what it sends is in its channel, unless the key
    leads elsewhere. -/
structure Proceeds (deviceHash : String) (s s' : State) : Prop where
  registered : s'.registered = s.registered
  waiting : s'.waiting = s.waiting
  work : s'.phase.work < s.phase.work
  toSend : s'.phase.toSend deviceHash ≤ s.phase.toSend deviceHash
  total : s'.queue.length + s'.phase.toSend deviceHash ≤ s.queue.length + s.phase.toSend deviceHash
  own : s.registered = .own →
    s'.queue ++ s'.phase.left deviceHash = s.queue ++ s.phase.left deviceHash
  grows : s.queue.length ≤ s'.queue.length
  bound : s.queue.length ≤ capacity → s'.queue.length ≤ capacity

section

variable {deviceHash : String} {s s' : State} {delivered : Bool}

theorem proceeds_of_next (h : next deviceHash s (.proceed delivered) = some s') :
    Proceeds deviceHash s s' := by
  obtain ⟨queue, registered, waiting, phase⟩ := s
  rcases phase with (_ | ⟨_ | ⟨file, batch⟩, batches⟩) | ⟨file, batches⟩ | _
  · -- The loops are over.
    cases h
    constructor <;> simp [Phase.work, Phase.toSend, Phase.left]
  · cases h
    constructor <;> simp [Phase.work, Phase.toSend, Phase.left]
  · simp only [next] at h
    split at h
    next hown =>
      cases h
      constructor <;> simp [Phase.work, Phase.toSend, Phase.left, hown]
    next hother =>
      split at h
      next => cases h
      next =>
        split at h
        · cases h
          constructor <;> simp [Phase.work, Phase.toSend, Phase.left, hother]
          omega
        · -- On the channel of another subscription.
          cases h
          rcases delivered <;> constructor <;>
            simp [Phase.work, Phase.toSend, Phase.left, hother] <;> omega
        · cases h
          constructor <;> simp [Phase.work, Phase.toSend, Phase.left, hother] <;> omega
  · -- The send takes the room that there is.
    simp only [next] at h
    split at h
    next hroom =>
      cases h
      constructor <;> simp [Phase.work, Phase.toSend, Phase.left] <;> omega
    next => cases h
  · cases h

theorem step_of_next {a : Action} (h : next deviceHash s a = some s') :
    step deviceHash s a = s' := by
  rw [step, h, Option.getD_some]

theorem step_of_none {a : Action} (h : next deviceHash s a = none) : step deviceHash s a = s := by
  rw [step, h, Option.getD_none]

/-- A blocked call has a file to send, and the channel is full, or the senders are locked. -/
theorem Blocked.cases (h : Blocked deviceHash s) : 1 ≤ s.phase.toSend deviceHash ∧
    (capacity ≤ s.queue.length ∨ s.waiting = true) := by
  obtain ⟨hphase, hnext⟩ := h
  have hnone := hnext true
  obtain ⟨queue, registered, waiting, phase⟩ := s
  rcases phase with (_ | ⟨_ | ⟨file, batch⟩, batches⟩) | ⟨file, batches⟩ | _
  · cases hnone
  · cases hnone
  · simp only [next] at hnone
    split at hnone
    next => cases hnone
    next hother =>
      split at hnone
      next hwaiting =>
        refine ⟨?_, .inr hwaiting⟩
        simp [Phase.toSend, Phase.left, hother]
      next => split at hnone <;> cases hnone
  · simp only [next] at hnone
    split at hnone
    next => cases hnone
    next hfull => exact ⟨Nat.le_add_left .., .inl (not_lt.1 hfull)⟩
  · exact absurd rfl hphase

/-! ## Enough room -/

/-- The channel and what is left to send are at most the `n` files of the call and `k`
    broadcasts. -/
structure Fits (deviceHash : String) (n k : ℕ) (s : State) : Prop where
  total : s.queue.length + s.phase.toSend deviceHash ≤ n + k
  toSend : s.phase.toSend deviceHash ≤ n
  full : s.waiting = true → capacity ≤ s.queue.length

namespace Fits

variable {n k b : ℕ} {actions : List Action}

theorem mono {k' : ℕ} (h : Fits deviceHash n k s) (hk : k ≤ k') : Fits deviceHash n k' s :=
  ⟨h.total.trans (Nat.add_le_add_left hk n), h.toSend, h.full⟩

theorem proceed (h : Fits deviceHash n k s) (hp : Proceeds deviceHash s s') :
    Fits deviceHash n k s' :=
  ⟨hp.total.trans h.total, hp.toSend.trans h.toSend,
    fun hw => (h.full (hp.waiting ▸ hw)).trans hp.grows⟩

theorem step (h : Fits deviceHash n k s) (a : Action) :
    Fits deviceHash n (k + if a.isBroadcast then 1 else 0) (step deviceHash s a) := by
  rcases hnext : next deviceHash s a with _ | s'
  · rw [step_of_none hnext]
    exact h.mono (Nat.le_add_right ..)
  · rw [step_of_next hnext]
    rcases a with delivered | file | registration
    · exact h.proceed (proceeds_of_next hnext)
    · simp only [next] at hnext
      split at hnext
      next hfree =>
        split at hnext
        next hroom =>
          cases hnext
          refine ⟨?_, h.toSend, fun hw => absurd (hfree.1.symm.trans hw) (by decide)⟩
          have htotal := h.total
          simp only [List.length_append, List.length_singleton, Action.isBroadcast, if_true]
          omega
        next hfull =>
          -- The broadcast waits, for the channel is full.
          cases hnext
          exact ⟨h.total.trans (Nat.add_le_add_left (Nat.le_add_right ..) n), h.toSend,
            fun _ => not_lt.1 hfull⟩
      next => cases hnext
    · simp only [next] at hnext
      split at hnext
      next => cases hnext
      next =>
        cases hnext
        exact ⟨h.total, h.toSend, h.full⟩

/-- Whatever the other calls do, only broadcasts take room. -/
theorem run (h : Fits deviceHash n k s) (actions : List Action) :
    Fits deviceHash n (k + broadcasts actions)
      (run (SubscribeStream.step deviceHash) s actions) := by
  induction actions generalizing s k with
  | nil => exact h
  | cons a actions ih =>
    rw [run_cons, broadcasts, List.countP_cons, Nat.add_comm (List.countP _ _), ← Nat.add_assoc]
    exact ih (h.step a)

theorem not_blocked (h : Fits deviceHash n k s) (hroom : n = 0 ∨ n + k ≤ capacity) :
    ¬Blocked deviceHash s := by
  intro hblocked
  obtain ⟨hsend, hfull⟩ := hblocked.cases
  have hqueue : capacity ≤ s.queue.length := hfull.elim id h.full
  have htotal := h.total
  have htoSend := h.toSend
  omega

end Fits

theorem broadcasts_append_proceeds (actions : List Action) (outcomes : List Bool) :
    broadcasts (actions ++ outcomes.map .proceed) = broadcasts actions := by
  have hnone : (outcomes.map Action.proceed).countP Action.isBroadcast = 0 := by
    rw [List.countP_eq_zero]
    intro a ha
    obtain ⟨delivered, -, rfl⟩ := List.mem_map.1 ha
    simp [Action.isBroadcast]
  rw [broadcasts, List.countP_append, hnone, Nat.add_zero, broadcasts]

/-- A call that is never blocked returns. -/
theorem exists_returned (h : ∀ outcomes : List Bool,
      ¬Blocked deviceHash (run (step deviceHash) s (outcomes.map .proceed))) :
    ∃ outcomes : List Bool, (run (step deviceHash) s (outcomes.map .proceed)).phase =
      .returned := by
  -- By induction on the steps that are left.
  induction hwork : s.phase.work using Nat.strong_induction_on generalizing s with
  | _ work ih =>
    subst hwork
    by_cases hret : s.phase = .returned
    · exact ⟨[], hret⟩
    · have hstep : ∃ delivered s', next deviceHash s (.proceed delivered) = some s' := by
        by_contra hnone
        push Not at hnone
        exact h [] ⟨hret, fun delivered => Option.eq_none_iff_forall_ne_some.2 (hnone delivered)⟩
      obtain ⟨delivered, s', hnext⟩ := hstep
      have hrun : ∀ outcomes : List Bool,
          run (step deviceHash) s ((delivered :: outcomes).map .proceed) =
            run (step deviceHash) s' (outcomes.map .proceed) := by
        intro outcomes
        rw [List.map_cons, run_cons, step_of_next hnext]
      obtain ⟨outcomes, houtcomes⟩ := ih _ (proceeds_of_next hnext).work
        (fun outcomes => hrun outcomes ▸ h (delivered :: outcomes)) rfl
      exact ⟨delivered :: outcomes, by rw [hrun, houtcomes]⟩

/-! ## Too little room -/

/-- The key leads to the channel of the call, and the notifications are in it or left to send. -/
structure Room (deviceHash : String) (notifications : List FileInfo) (s : State) : Prop where
  registered : s.registered = .own
  waiting : s.waiting = false
  total : s.queue ++ s.phase.left deviceHash = notifications
  bound : s.queue.length ≤ capacity

namespace Room

variable {notifications : List FileInfo}

theorem broadcasts (hregistered : s.registered = .own) (hwaiting : s.waiting = false)
    (file : FileInfo) {k : ℕ} (hk : s.queue.length + k ≤ capacity) :
    Room deviceHash (s.queue ++ .replicate k file ++ s.phase.left deviceHash)
      (run (step deviceHash) s (.replicate k (.broadcast file))) := by
  induction k generalizing s with
  | zero => exact ⟨hregistered, hwaiting, by simp, hk⟩
  | succ k ih =>
    have hroom : s.queue.length < capacity := by omega
    have hnext : next deviceHash s (.broadcast file) =
        some { s with queue := s.queue ++ [file] } := by
      rw [next, if_pos ⟨hwaiting, hregistered⟩, if_pos hroom]
    rw [List.replicate_succ, List.replicate_succ, run_cons, step_of_next hnext, List.append_cons]
    refine ih (s := { s with queue := s.queue ++ [file] }) hregistered hwaiting ?_
    simp only [List.length_append, List.length_singleton]
    omega

theorem proceed (h : Room deviceHash notifications s) (delivered : Bool) :
    Room deviceHash notifications (step deviceHash s (.proceed delivered)) := by
  rcases hnext : next deviceHash s (.proceed delivered) with _ | s'
  · rwa [step_of_none hnext]
  · rw [step_of_next hnext]
    have hp := proceeds_of_next hnext
    exact ⟨hp.registered.trans h.registered, hp.waiting.trans h.waiting,
      (hp.own h.registered).trans h.total, hp.bound h.bound⟩

/-- A call that returns has put everything into its channel. -/
theorem returned (h : Room deviceHash notifications s) {outcomes : List Bool}
    (hret : (run (step deviceHash) s (outcomes.map .proceed)).phase = .returned) :
    (run (step deviceHash) s (outcomes.map .proceed)).queue = notifications ∧
      notifications.length ≤ capacity := by
  have hroom : Room deviceHash notifications (run (step deviceHash) s (outcomes.map .proceed)) := by
    clear hret
    induction outcomes generalizing s with
    | nil => exact h
    | cons delivered outcomes ih => exact ih (h.proceed delivered)
  have htotal := hroom.total
  rw [hret, Phase.left, List.append_nil] at htotal
  exact ⟨htotal, htotal ▸ hroom.bound⟩

end Room

/-! ## When the call returns -/

variable {backend : Backend} {pl : Table.Planner} {st : InitialSync.State} {c : Call} {b : ℕ}

/-- What a group adds. -/
theorem countP_listFiles (g since : ℤ) :
    (backend.listFiles pl st.files g since).countP (fun f => f.deviceHash ≠ deviceHash) =
      st.files.countP fun f => f.groupId = g ∧ f.deviceHash ≠ deviceHash ∧
        (backend = .memory → since ≤ f.updatedTime.seconds) := by
  rcases backend with _ | _
  · rw [Backend.listFiles, (List.perm_insertionSort _ _).countP_eq, (pl.arrange_perm _).countP_eq,
      List.countP_filter]
    refine List.countP_congr fun f _ => ?_
    simp [and_comm]
  · rw [Backend.listFiles, (pl.arrange_perm _).countP_eq, List.countP_filter]
    refine List.countP_congr fun f _ => ?_
    simp
    tauto

theorem toSend_start :
    (start backend pl st c).phase.toSend deviceHash = outgoing backend deviceHash st c := by
  rw [start, Phase.toSend, Phase.left, ← List.countP_eq_length_filter, outgoing]
  split
  next => rfl
  next =>
    rw [flatten_chunks (by decide), State.listed, List.countP_flatMap]
    refine congrArg List.sum (List.map_congr_left fun g _ => ?_)
    rw [Function.comp_apply]
    split
    next => rfl
    next => exact countP_listFiles g _

/-- Filled up by broadcasts, the channel has no room for what the call has to send. -/
theorem outgoing_le_of_neverBlocks (h : NeverBlocks deviceHash b (start backend pl st c)) :
    outgoing backend deviceHash st c = 0 ∨ outgoing backend deviceHash st c + b ≤ capacity := by
  rcases hfiles : st.files with _ | ⟨file, files⟩
  · refine .inl ?_
    rw [outgoing, hfiles]
    simp
  · -- As many broadcasts as are allowed, and as the channel takes without waiting; then what
    -- the call has put into it when it returns is behind them.
    have hcount : broadcasts (.replicate (min b capacity) (.broadcast file)) = min b capacity := by
      rw [broadcasts, List.countP_replicate]
      rfl
    obtain ⟨outcomes, hret⟩ := h.returns (.replicate (min b capacity) (.broadcast file))
      (hcount.trans_le (min_le_left ..))
    rw [run_append] at hret
    have hroom : Room deviceHash _ _ := Room.broadcasts (s := start backend pl st c) rfl rfl file
      ((Nat.zero_add _).trans_le (min_le_right b capacity))
    obtain ⟨-, hle⟩ := hroom.returned hret
    have hleft : ((start backend pl st c).phase.left deviceHash).length =
        outgoing backend deviceHash st c := toSend_start
    rw [List.length_append, List.length_append, List.length_replicate, hleft] at hle
    omega

theorem neverBlocks_of_outgoing_le
    (h : outgoing backend deviceHash st c = 0 ∨ outgoing backend deviceHash st c + b ≤ capacity) :
    NeverBlocks deviceHash b (start backend pl st c) := by
  -- The invariant counts the broadcasts so far, so that it bounds the channel at every point
  -- of a run, and not only at its end.
  have hfits : Fits deviceHash (outgoing backend deviceHash st c) 0 (start backend pl st c) :=
    ⟨((Nat.zero_add _).trans toSend_start).le, toSend_start.le, nofun⟩
  have hproceeds : ∀ actions, broadcasts actions ≤ b →
      ¬Blocked deviceHash (run (step deviceHash) (start backend pl st c) actions) := by
    intro actions hactions
    refine (hfits.run actions).not_blocked (h.imp_right fun hle => ?_)
    omega
  refine ⟨hproceeds, fun actions hactions => ?_⟩
  have hnever : ∀ outcomes : List Bool, ¬Blocked deviceHash
      (run (step deviceHash) (run (step deviceHash) (start backend pl st c) actions)
        (outcomes.map .proceed)) := by
    intro outcomes
    rw [← run_append]
    refine hproceeds _ ?_
    rwa [broadcasts_append_proceeds]
  obtain ⟨outcomes, hret⟩ := exists_returned hnever
  exact ⟨outcomes, by rw [run_append, hret]⟩

/-- A call that is left alone and returns has delivered the files of `send_initial_file_sync`
    of which no send fails. -/
theorem queue_of_returned (hgroups : c.groupsFail = false) (hsent : ∀ n, c.outcome n = .sent)
    {outcomes : List Bool}
    (hret : (run (step deviceHash) (start backend pl st c) (outcomes.map .proceed)).phase =
      .returned) :
    (run (step deviceHash) (start backend pl st c) (outcomes.map .proceed)).queue =
      st.delivered backend pl deviceHash c := by
  have hleft : (start backend pl st c).phase.left deviceHash =
      st.delivered backend pl deviceHash c := by
    rw [start, hgroups, Phase.left, if_neg (by decide), flatten_chunks (by decide),
      delivered_of_forall_sent hsent]
  have hroom : Room deviceHash (st.delivered backend pl deviceHash c) (start backend pl st c) :=
    ⟨rfl, rfl, hleft, Nat.zero_le _⟩
  exact (hroom.returned hret).1

end

/-! ## An account with many files -/

/-- An account with `n` files of another device. -/
def accountOf (n : ℕ) : InitialSync.State :=
  { sampleState with files := .replicate n (sampleFile 1) }

theorem outgoing_accountOf (n : ℕ) :
    outgoing .mysql "d" (accountOf n) (sampleCall fun _ => .sent) = n := by
  rw [outgoing, if_neg (by decide)]
  simp [accountOf, sampleState, sampleCall, List.countP_replicate, sampleFile]

end SubscribeStream

end CosmicSync
