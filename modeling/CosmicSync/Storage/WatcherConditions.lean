import CosmicSync.Storage.WatcherIds

/-!
# The conditions of a watcher, and whose they are

A row of `watcher_conditions` repeats the account and the client's group of the watcher that
it belongs to. Three calls write such rows: `createWatcherWithConditions` has the columns from
its request, `saveWatcherConditions` from its caller, and `createWatcherCondition` from its
caller or, where the group is 0, from the row of the watcher. But what it takes from there is
the client's number of the watcher instead of that of the group.

* `Refers`: a row repeats the columns of its watcher.
* `conditionsRefer_apply_iff`: when a call leaves only such rows.
-/

namespace CosmicSync

open Table Run WatcherTables

namespace WatcherStore

variable (pl : Planner) (s : WatcherStore)

/-- The group of a condition that is created: 0 is to be looked up. -/
def actualLocalGroupId (condition : WatcherCondition) : Except StorageError ℤ :=
  if condition.localGroupId = 0 then
    match fetchOptional pl (·.id = condition.watcherId) s.watchers with
    | some r => .ok r.watcherId
    | none =>
      .error (.notFound ("Watcher with ID " ++ toString condition.watcherId ++ " not found"))
  else .ok condition.localGroupId

/-- `create_watcher_condition`. -/
def createWatcherCondition (i : CallInputs) (condition : WatcherCondition) :
    Except StorageError (ℤ × WatcherStore) :=
  match s.actualLocalGroupId pl condition, i.fault with
  | .error e, _ => .error e
  | .ok _, some e => .error e
  | .ok localGroupId, none =>
    if asI64 i.nextId = 0 then .error (.database "Failed to create watcher condition: Invalid ID")
    else
      .ok (asI64 i.nextId, { s with
        conditions := s.conditions ++ [{ condition with localGroupId := localGroupId }] })

/-! ## Agreement -/

/-- The watcher of a condition is there, and has its account and its group. -/
structure Refers (watchers : List WatcherRow) (c : WatcherCondition) : Prop where
  found : ∃ r ∈ watchers, r.id = c.watcherId
  agrees : ∀ r ∈ watchers, r.id = c.watcherId →
    c.accountHash = r.accountHash ∧ c.localGroupId = r.localGroupId

instance (watchers : List WatcherRow) (c : WatcherCondition) : Decidable (Refers watchers c) :=
  decidable_of_iff ((∃ r ∈ watchers, r.id = c.watcherId) ∧ ∀ r ∈ watchers, r.id = c.watcherId →
    c.accountHash = r.accountHash ∧ c.localGroupId = r.localGroupId)
      ⟨fun h => ⟨h.1, h.2⟩, fun h => ⟨h.1, h.2⟩⟩

/-- All conditions agree with their watchers. -/
def ConditionsRefer (s : WatcherStore) : Prop := ∀ c ∈ s.conditions, Refers s.watchers c

instance (s : WatcherStore) : Decidable (ConditionsRefer s) := List.decidableBAll _ _

section

variable {watchers : List WatcherRow} {c : WatcherCondition} {row r₀ : WatcherRow}

theorem Refers.updateWhere {p : WatcherRow → Prop} [DecidablePred p] (h : Refers watchers c) :
    Refers (updateWhere p (writeWatcher row) watchers) c := by
  obtain ⟨r, hr, hid⟩ := h.found
  constructor
  · exact ⟨_, mem_updateWhere.2 ⟨r, hr, rfl⟩, by split <;> exact hid⟩
  · intro r' hr' hid'
    obtain ⟨hmem, -⟩ | ⟨r, hmem, -, rfl⟩ := mem_updateWhere_cases hr'
    · exact h.agrees r' hmem hid'
    · exact h.agrees r hmem hid'

theorem Refers.append (h : Refers watchers c) (hnew : ∀ r ∈ watchers, r.id ≠ row.id) :
    Refers (watchers ++ [row]) c := by
  obtain ⟨r, hr, hid⟩ := h.found
  refine ⟨⟨r, List.mem_append_left _ hr, hid⟩, fun r' hr' hid' => ?_⟩
  rcases List.mem_append.1 hr' with hr' | hr'
  · exact h.agrees r' hr' hid'
  · rw [List.mem_singleton.1 hr'] at hid'
    exact absurd (hid.trans hid'.symm) (hnew r hr)

/-- It is enough to look at one row with the id. -/
theorem refers_iff (hids : Keyed WatcherRow.id watchers) (hr : r₀ ∈ watchers)
    (hid : r₀.id = c.watcherId) :
    Refers watchers c ↔ c.accountHash = r₀.accountHash ∧ c.localGroupId = r₀.localGroupId := by
  constructor
  · exact fun h => h.agrees r₀ hr hid
  · refine fun h => ⟨⟨r₀, hr, hid⟩, fun r hmem hid' => ?_⟩
    rwa [hids.eq_of_mem hmem hr (hid'.trans hid.symm)]

theorem columns_of_mem_conditionsOf {accountHash : String} {watcherId groupId time : ℤ}
    {data : WatcherData} (h : c ∈ conditionsOf accountHash watcherId groupId time data) :
    c.accountHash = accountHash ∧ c.watcherId = watcherId ∧ c.localGroupId = groupId := by
  rcases List.mem_append.1 h with h | h
  · obtain ⟨c, -, rfl⟩ := List.mem_map.1 h
    exact ⟨rfl, rfl, rfl⟩
  · obtain ⟨c, -, rfl⟩ := List.mem_map.1 h
    exact ⟨rfl, rfl, rfl⟩

end

end WatcherStore

/-! ## Calls -/

/-- The calls that write conditions. -/
inductive ConditionCall where
  | createWatcher (i : CallInputs) (accountHash : String) (groupId : ℤ) (data : WatcherData)
    (timestamp : ℤ)
  | create (i : CallInputs) (condition : WatcherCondition)
  | save (i : CallInputs) (watcherId : ℤ) (conditions : List WatcherCondition)

namespace ConditionCall

variable (pl : Planner) (s : WatcherStore)

/-- The tables after a call. -/
def apply : ConditionCall → WatcherStore
  | createWatcher i accountHash groupId data timestamp =>
    committed s (s.createWatcherWithConditions pl i accountHash groupId data timestamp)
  | create i condition => committed s (s.createWatcherCondition pl i condition)
  | save i watcherId conditions => committed s (s.saveWatcherConditions i watcherId conditions)

/-- A condition names a watcher of its account. -/
def NamesWatcher (condition : WatcherCondition) (r : WatcherRow) : Prop :=
  r.id = condition.watcherId ∧ r.accountHash = condition.accountHash

instance (condition : WatcherCondition) : DecidablePred (NamesWatcher condition) :=
  fun _ => inferInstanceAs (Decidable (_ ∧ _))

/-- How the calls are made: a new watcher has a new id, conditions name a watcher of their
    account, and one that is created has its group, or 0. -/
def Proper : ConditionCall → Prop
  | createWatcher i _ _ _ _ => FreshId (s.watchers.map WatcherRow.id) i.nextId
  | create _ condition => ∃ r ∈ s.watchers, NamesWatcher condition r ∧
      (condition.localGroupId = 0 ∨ condition.localGroupId = r.localGroupId)
  | save _ _ conditions => ∀ condition ∈ conditions, ∃ r ∈ s.watchers, NamesWatcher condition r

/-- When a call writes the right group: the client gives the watcher of a condition that is
    created with the group 0 the same number as its group, and conditions that are saved have
    the group of their watcher. What fails, or is given the id 0, writes none. -/
def HasGroup : ConditionCall → Prop
  | createWatcher .. => True
  | create i condition =>
    i.fault = none → asI64 i.nextId ≠ 0 → condition.localGroupId = 0 →
      ∀ r ∈ s.watchers, r.id = condition.watcherId → r.watcherId = r.localGroupId
  | save i _ conditions => i.fault = none → ∀ condition ∈ conditions, ∀ r ∈ s.watchers,
      r.id = condition.watcherId → condition.localGroupId = r.localGroupId

instance : (call : ConditionCall) → Decidable (call.Proper s)
  | createWatcher .. => inferInstanceAs (Decidable (_ ∧ _ ∧ _))
  | create .. => List.decidableBEx _ _
  | save .. => List.decidableBAll _ _

instance : (call : ConditionCall) → Decidable (call.HasGroup s)
  | createWatcher .. => inferInstanceAs (Decidable True)
  | create .. => inferInstanceAs (Decidable (_ → _))
  | save .. => inferInstanceAs (Decidable (_ → _))

end ConditionCall

section

open WatcherStore ConditionCall

variable {pl : Planner} {s s' : WatcherStore} {i : CallInputs}

/-- The watchers after the creation of one: the ids are still a key, and the conditions agree. -/
theorem conditionsRefer_createWatcher {accountHash : String} {groupId timestamp id : ℤ}
    {data : WatcherData} (hids : Keyed WatcherRow.id s.watchers)
    (hfresh : FreshId (s.watchers.map WatcherRow.id) i.nextId)
    (h : s.createWatcherWithConditions pl i accountHash groupId data timestamp = .ok (id, s')) :
    Keyed WatcherRow.id s'.watchers ∧ (ConditionsRefer s → ConditionsRefer s') := by
  obtain ⟨dbGroupId, -, ⟨r, -, -, -, rfl⟩ | ⟨r, hr, -, rfl, rfl⟩ | ⟨-, rfl, rfl⟩⟩ :=
    createWatcherWithConditions_ok h
  · exact ⟨hids, fun hagree => hagree⟩
  · -- The row of the watcher is written; its id, account and group are the same as before.
    obtain ⟨hmem, -, haccount, hgroup⟩ := fetchOptional_some hr
    refine ⟨hids.updateWhere fun _ => rfl, fun hagree c hc => Refers.updateWhere ?_⟩
    rcases List.mem_append.1 hc with hc | hc
    · exact hagree c hc
    · obtain ⟨hcaccount, hcid, hcgroup⟩ := columns_of_mem_conditionsOf hc
      exact (refers_iff hids hmem hcid.symm).2
        ⟨hcaccount.trans haccount.symm, hcgroup.trans hgroup.symm⟩
  · -- A new row, with an id to which no condition refers yet.
    have hnew : ∀ r ∈ s.watchers,
        r.id ≠ (newWatcher i.nextId accountHash dbGroupId groupId data timestamp).id :=
      hfresh.ne_of_mem
    have hids' := hids.append hnew
    refine ⟨hids', fun hagree c hc => ?_⟩
    rcases List.mem_append.1 hc with hc | hc
    · exact (hagree c hc).append hnew
    · obtain ⟨hcaccount, hcid, hcgroup⟩ := columns_of_mem_conditionsOf hc
      rw [hfresh.lastInsertId] at hcid
      exact (refers_iff hids' (List.mem_append_right _ (List.mem_singleton_self _)) hcid.symm).2
        ⟨hcaccount, hcgroup⟩

/-- Conditions are added to those that agree. -/
theorem conditionsRefer_append_iff {kept added : List WatcherCondition}
    (hkept : ∀ c ∈ kept, Refers s.watchers c) :
    ConditionsRefer { s with conditions := kept ++ added } ↔ ∀ c ∈ added, Refers s.watchers c := by
  rw [ConditionsRefer, List.forall_mem_append, and_iff_right hkept]

/-- When a creation succeeds. -/
theorem isOk_createWatcherCondition_iff {condition : WatcherCondition} :
    (s.createWatcherCondition pl i condition).isOk ↔
      (condition.localGroupId = 0 → ∃ r ∈ s.watchers, r.id = condition.watcherId) ∧
        i.fault = none ∧ asI64 i.nextId ≠ 0 := by
  have hgroup : (s.actualLocalGroupId pl condition).isOk ↔
      (condition.localGroupId = 0 → ∃ r ∈ s.watchers, r.id = condition.watcherId) := by
    have hfound : (fetchOptional pl (·.id = condition.watcherId) s.watchers).isSome ↔
        ∃ r ∈ s.watchers, r.id = condition.watcherId := isSome_fetchOptional
    rw [← hfound, actualLocalGroupId]
    split
    next hzero =>
      rw [imp_iff_right hzero]
      split <;> simp [*, Except.isOk, Except.toBool]
    next hne => exact iff_of_true rfl fun hzero => absurd hzero hne
  rw [← hgroup, createWatcherCondition]
  rcases s.actualLocalGroupId pl condition with e | localGroupId
  · exact iff_of_false Bool.false_ne_true fun h => Bool.false_ne_true h.1
  · rcases i.fault with _ | e
    · dsimp only
      by_cases hid : asI64 i.nextId = 0
      · rw [if_pos hid]
        exact iff_of_false Bool.false_ne_true fun h => h.2.2 hid
      · rw [if_neg hid]
        exact iff_of_true rfl ⟨rfl, rfl, hid⟩
    · exact iff_of_false Bool.false_ne_true fun h => Option.some_ne_none e h.2.1

theorem createWatcherCondition_ok {condition : WatcherCondition} {id : ℤ}
    (h : s.createWatcherCondition pl i condition = .ok (id, s')) :
    ∃ localGroupId, s.actualLocalGroupId pl condition = .ok localGroupId ∧ s' = { s with
      conditions := s.conditions ++ [{ condition with localGroupId := localGroupId }] } := by
  rw [createWatcherCondition] at h
  split at h
  · cases h
  · cases h
  next localGroupId hgroup _ =>
    generalize asI64 i.nextId = newId at h
    split at h
    · cases h
    · cases h
      exact ⟨localGroupId, hgroup, rfl⟩

theorem conditionsRefer_create_iff {condition : WatcherCondition} {id : ℤ}
    (hids : Keyed WatcherRow.id s.watchers) (hagree : ConditionsRefer s)
    (hproper : (create i condition).Proper s)
    (h : s.createWatcherCondition pl i condition = .ok (id, s')) :
    ConditionsRefer s' ↔ (create i condition).HasGroup s := by
  obtain ⟨r, hr, ⟨hid, haccount⟩, hgroup⟩ := hproper
  have hok : (s.createWatcherCondition pl i condition).isOk = true := by rw [h]; rfl
  obtain ⟨-, hfault, hnextId⟩ := isOk_createWatcherCondition_iff.1 hok
  obtain ⟨localGroupId, hactual, rfl⟩ := createWatcherCondition_ok h
  have hrefers : Refers s.watchers { condition with localGroupId := localGroupId } ↔
      condition.accountHash = r.accountHash ∧ localGroupId = r.localGroupId :=
    refers_iff hids hr hid
  rw [conditionsRefer_append_iff hagree, List.forall_mem_singleton, hrefers,
    and_iff_right haccount.symm, HasGroup, imp_iff_right hfault, imp_iff_right hnextId]
  rw [actualLocalGroupId] at hactual
  split at hactual
  next hzero =>
    -- The row of the watcher is the one that is found.
    have hfetch := hids.fetchOptional_eq_some (p := (·.id = condition.watcherId)) pl hr hid
      fun b _ hb => hb.trans hid.symm
    rw [hfetch] at hactual
    cases hactual
    rw [imp_iff_right hzero]
    constructor
    · intro heq r' hr' hid'
      rwa [hids.eq_of_mem hr' hr (hid'.trans hid.symm)]
    · exact fun h => h r hr hid
  next hne =>
    cases hactual
    exact iff_of_true (hgroup.resolve_left hne) fun hzero => absurd hzero hne

theorem conditionsRefer_save_iff {watcherId : ℤ} {conditions : List WatcherCondition}
    (hids : Keyed WatcherRow.id s.watchers) (hagree : ConditionsRefer s)
    (hproper : (save i watcherId conditions).Proper s)
    (h : s.saveWatcherConditions i watcherId conditions = .ok ((), s')) :
    ConditionsRefer s' ↔ (save i watcherId conditions).HasGroup s := by
  rw [saveWatcherConditions] at h
  split at h
  next => cases h
  next hfault =>
    cases h
    have hkept : ∀ c ∈ deleteWhere (·.watcherId = watcherId) s.conditions, Refers s.watchers c :=
      fun c hc => hagree c (mem_deleteWhere.1 hc).1
    rw [replaceConditions, conditionsRefer_append_iff hkept, HasGroup, imp_iff_right hfault,
      List.forall_mem_map]
    refine forall₂_congr fun c hc => ?_
    obtain ⟨r, hr, hid, haccount⟩ := hproper c hc
    have hrefers : Refers s.watchers { c with localWatcherId := 0 } ↔
        c.accountHash = r.accountHash ∧ c.localGroupId = r.localGroupId := refers_iff hids hr hid
    rw [hrefers, and_iff_right haccount.symm]
    constructor
    · intro heq r' hr' hid'
      rwa [hids.eq_of_mem hr' hr (hid'.trans hid.symm)]
    · exact fun h => h r hr hid

/-- What a call does to conditions that agree. -/
theorem conditionsRefer_apply_iff (call : ConditionCall) (hproper : call.Proper s)
    (hids : Keyed WatcherRow.id s.watchers) (hagree : ConditionsRefer s) :
    ConditionsRefer (call.apply pl s) ↔ call.HasGroup s := by
  cases call with
  | createWatcher i accountHash groupId data timestamp =>
    refine iff_of_true (committed_of hagree fun id s' h => ?_) trivial
    exact (conditionsRefer_createWatcher hids hproper h).2 hagree
  | create i condition =>
    rw [ConditionCall.apply]
    rcases h : s.createWatcherCondition pl i condition with e | ⟨id, s'⟩
    · refine iff_of_true hagree fun hfault hnextId hzero r hr hid => ?_
      -- The watcher is found, so that nothing else could have failed.
      have hok : (s.createWatcherCondition pl i condition).isOk :=
        isOk_createWatcherCondition_iff.2 ⟨fun _ => ⟨r, hr, hid⟩, hfault, hnextId⟩
      rw [h] at hok
      cases hok
    · exact conditionsRefer_create_iff hids hagree hproper h
  | save i watcherId conditions =>
    rw [ConditionCall.apply]
    rcases h : s.saveWatcherConditions i watcherId conditions with e | ⟨⟨⟩, s'⟩
    · refine iff_of_true hagree fun hfault => ?_
      rw [saveWatcherConditions, hfault] at h
      cases h
    · exact conditionsRefer_save_iff hids hagree hproper h

theorem keyed_apply (call : ConditionCall) (hproper : call.Proper s)
    (hids : Keyed WatcherRow.id s.watchers) :
    Keyed WatcherRow.id (call.apply pl s).watchers := by
  cases call with
  | createWatcher i accountHash groupId data timestamp =>
    exact committed_of (P := fun s : WatcherStore => Keyed WatcherRow.id s.watchers) hids
      fun id s' h => (conditionsRefer_createWatcher hids hproper h).1
  | create i condition =>
    refine committed_of (P := fun s : WatcherStore => Keyed WatcherRow.id s.watchers) hids
      fun id s' h => ?_
    obtain ⟨-, -, rfl⟩ := createWatcherCondition_ok h
    exact hids
  | save i watcherId conditions =>
    refine committed_of (P := fun s : WatcherStore => Keyed WatcherRow.id s.watchers) hids
      fun _ s' h => ?_
    obtain rfl := saveWatcherConditions_ok h
    exact hids

/-- Whatever groups there are: after every call of a run the conditions agree with their
    watchers, exactly when every call writes the right group. -/
theorem conditionsRefer_run_iff (pl : Planner) (groups : List WatcherGroupRow)
    (calls : List ConditionCall)
    (hproper : Guarded (ConditionCall.apply pl) (fun s call => call.Proper s)
      ⟨⟨groups, []⟩, []⟩ calls) :
    Guarded (ConditionCall.apply pl) (fun s call => ConditionsRefer (call.apply pl s))
      ⟨⟨groups, []⟩, []⟩ calls ↔
      Guarded (ConditionCall.apply pl) (fun s call => call.HasGroup s)
        ⟨⟨groups, []⟩, []⟩ calls := by
  have hkeyed := hproper.and_invariant (I := fun s => Keyed WatcherRow.id s.watchers)
    (fun s call hproper hids => keyed_apply call hproper hids) Keyed.nil
  exact hkeyed.keeps_iff (fun s call h hagree => conditionsRefer_apply_iff call h.1 h.2 hagree)
    fun c hc => absurd hc List.not_mem_nil

end

/-- A group of a client, for the examples. -/
def notesGroups : List WatcherGroupRow := [⟨5, 3, "alice", "laptop", "Notes", 0, 0, true⟩]

/-- A watcher is created in that group, and a condition of it whose group is to be looked up. -/
def lookedUpCondition (watcherId : ℤ) : List ConditionCall :=
  [.createWatcher ⟨⟨100, 0⟩, 1, none⟩ "alice" 3
      ⟨watcherId, "~/notes", [⟨"ext", ["md"]⟩], [], true, false, "", "", true, ""⟩ 100,
    .create ⟨⟨100, 0⟩, 2, none⟩
      ⟨"alice", 1, watcherId, 0, .subtract, "ext", ["tmp"], "equals", 100, 100⟩]

theorem conditionsRefer_lookedUpCondition :
    Guarded (ConditionCall.apply .insertion) (fun s call => call.Proper s) ⟨⟨notesGroups, []⟩, []⟩
        (lookedUpCondition 3) ∧
      (Guarded (ConditionCall.apply .insertion)
          (fun s call => (call.apply .insertion s).ConditionsRefer) ⟨⟨notesGroups, []⟩, []⟩
          (lookedUpCondition 3) ↔
        Guarded (ConditionCall.apply .insertion) (fun s call => call.HasGroup s)
          ⟨⟨notesGroups, []⟩, []⟩ (lookedUpCondition 3)) :=
  ⟨by decide, conditionsRefer_run_iff .insertion notesGroups (lookedUpCondition 3) (by decide)⟩

/-- The client's number of the watcher is stored as that of its group. -/
theorem lookedUpCondition_disagrees :
    Guarded (ConditionCall.apply .insertion) (fun s call => call.Proper s) ⟨⟨notesGroups, []⟩, []⟩
        (lookedUpCondition 7) ∧
      ((run (ConditionCall.apply .insertion) ⟨⟨notesGroups, []⟩, []⟩
          (lookedUpCondition 7)).conditions.map
          fun c => (c.watcherId, c.localGroupId)) = [(1, 3), (1, 7)] ∧
      ¬(run (ConditionCall.apply .insertion) ⟨⟨notesGroups, []⟩, []⟩
        (lookedUpCondition 7)).ConditionsRefer := by
  decide

end CosmicSync
