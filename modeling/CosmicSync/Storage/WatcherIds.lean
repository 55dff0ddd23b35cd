import CosmicSync.Library.Run
import CosmicSync.Storage.WatcherStore

/-!
# The ids of the client and those of the server

The server gives its own ids to the groups and watchers of a client, by three calls:
`ensureServerIdsFor` on uploads, `registerWatcherGroup` and
`createWatcherWithConditions`. Whatever the calls and their order, the conversion is
one to one (`oneToOne_run`).

The invariant is `Linked`: a watcher belongs to the group that has its client's number,
and the ids and the client's numbers are keys of the tables.
-/

namespace CosmicSync

open Table Run

/-! ## The invariant -/

namespace WatcherTables

/-- An id that a table may give to a new row: positive, an `i32`, and not in use. -/
def FreshId (ids : List ℤ) (id : ℕ) : Prop := 0 < id ∧ id < 2 ^ 31 ∧ (id : ℤ) ∉ ids

instance (ids : List ℤ) (id : ℕ) : Decidable (FreshId ids id) :=
  inferInstanceAs (Decidable (_ ∧ _ ∧ _))

theorem FreshId.ne_of_mem {α : Type} {k : α → ℤ} {t : List α} {id : ℕ} (h : FreshId (t.map k) id) :
    ∀ a ∈ t, k a ≠ id := by
  intro a ha heq
  exact h.2.2 (heq ▸ List.mem_map_of_mem ha)

theorem FreshId.ne_zero {ids : List ℤ} {id : ℕ} (h : FreshId ids id) : (id : ℤ) ≠ 0 := by
  have := h.1
  omega

theorem FreshId.lastInsertId {ids : List ℤ} {id : ℕ} (h : FreshId ids id) : lastInsertId id = id :=
  if_neg (by have := h.2.1; omega)

/-- The client's number of a group. -/
def groupKey (g : WatcherGroupRow) : String × ℤ := (g.accountHash, g.groupId)

/-- The client's numbers of a watcher. -/
def watcherKey (r : WatcherRow) : String × ℤ × ℤ := (r.accountHash, r.localGroupId, r.watcherId)

theorem groupKey_eq {g : WatcherGroupRow} {accountHash : String} {groupId : ℤ} :
    groupKey g = (accountHash, groupId) ↔ g.accountHash = accountHash ∧ g.groupId = groupId :=
  Prod.mk_inj

theorem watcherKey_eq {r : WatcherRow} {accountHash : String} {groupId watcherId : ℤ} :
    watcherKey r = (accountHash, groupId, watcherId) ↔
      r.accountHash = accountHash ∧ r.localGroupId = groupId ∧ r.watcherId = watcherId := by
  rw [watcherKey, Prod.mk_inj, Prod.mk_inj]

/-- The group to which a watcher belongs: it has the server's id and the client's number. -/
def Owns (g : WatcherGroupRow) (r : WatcherRow) : Prop :=
  g.accountHash = r.accountHash ∧ g.groupId = r.localGroupId ∧ g.id = r.groupId

/-- The primary and the unique keys of the tables. -/
structure UniqueKeys (w : WatcherTables) : Prop where
  groupIds : Keyed WatcherGroupRow.id w.groups
  groupKeys : Keyed groupKey w.groups
  watcherIds : Keyed WatcherRow.id w.watchers
  watcherKeys : Keyed watcherKey w.watchers

/-- The tables are well linked. -/
structure Linked (w : WatcherTables) : Prop extends UniqueKeys w where
  watcher_ne_zero : ∀ r ∈ w.watchers, r.id ≠ 0
  owned : ∀ r ∈ w.watchers, ∃ g ∈ w.groups, Owns g r

namespace UniqueKeys

variable {pl : Planner} {w : WatcherTables} {accountHash : String}

theorem getServerGroupId_eq_some (h : UniqueKeys w) {clientGroupId id : ℤ} :
    w.getServerGroupId pl accountHash clientGroupId = some id ↔
      ∃ g ∈ w.groups, groupKey g = (accountHash, clientGroupId) ∧ g.id = id := by
  constructor
  · intro hid
    obtain ⟨g, hg, rfl⟩ := Option.map_eq_some_iff.1 hid
    obtain ⟨hmem, rfl, rfl⟩ := fetchOptional_some hg
    exact ⟨g, hmem, rfl, rfl⟩
  · rintro ⟨g, hmem, hkey, rfl⟩
    obtain ⟨rfl, rfl⟩ := groupKey_eq.1 hkey
    rw [getServerGroupId, h.groupKeys.fetchOptional_eq_some pl hmem ⟨rfl, rfl⟩
      fun b _ hb => Prod.ext hb.1 hb.2, Option.map_some]

theorem insertGroup (h : UniqueKeys w) {g : WatcherGroupRow} (hid : ∀ g' ∈ w.groups, g'.id ≠ g.id)
    (hkey : ∀ g' ∈ w.groups, groupKey g' ≠ groupKey g) :
    UniqueKeys { w with groups := w.groups ++ [g] } :=
  { h with
    groupIds := h.groupIds.append hid
    groupKeys := h.groupKeys.append hkey }

theorem writeGroups (h : UniqueKeys w) {p : WatcherGroupRow → Prop} [DecidablePred p]
    (group : WatcherGroup) :
    UniqueKeys { w with groups := updateWhere p (WatcherStore.writeGroup group) w.groups } :=
  { h with
    groupIds := h.groupIds.updateWhere fun _ => rfl
    groupKeys := h.groupKeys.updateWhere fun _ => rfl }

theorem insertWatcher (h : UniqueKeys w) {r : WatcherRow} (hid : ∀ r' ∈ w.watchers, r'.id ≠ r.id)
    (hkey : ∀ r' ∈ w.watchers, watcherKey r' ≠ watcherKey r) :
    UniqueKeys { w with watchers := w.watchers ++ [r] } :=
  { h with
    watcherIds := h.watcherIds.append hid
    watcherKeys := h.watcherKeys.append hkey }

theorem writeWatchers (h : UniqueKeys w) {p : WatcherRow → Prop} [DecidablePred p]
    (row : WatcherRow) :
    UniqueKeys { w with watchers := updateWhere p (WatcherStore.writeWatcher row) w.watchers } :=
  { h with
    watcherIds := h.watcherIds.updateWhere fun _ => rfl
    watcherKeys := h.watcherKeys.updateWhere fun _ => rfl }

end UniqueKeys

theorem getServerIds_eq_some_iff {pl : Planner} {w : WatcherTables} {accountHash : String}
    {clientGroupId clientWatcherId : ℤ} {ids : ℤ × ℤ} :
    w.getServerIds pl accountHash clientGroupId clientWatcherId = some ids ↔
      w.getServerGroupId pl accountHash clientGroupId = some ids.1 ∧
        w.getServerWatcherId pl accountHash clientGroupId clientWatcherId = some ids.2 := by
  rw [getServerIds]
  rcases w.getServerGroupId pl accountHash clientGroupId with _ | g
  · simp
  · rcases w.getServerWatcherId pl accountHash clientGroupId clientWatcherId with _ | r
    · simp
    · simp [Prod.ext_iff]

namespace Linked

variable {pl : Planner} {w : WatcherTables} {accountHash : String}
  {clientGroupId clientWatcherId : ℤ}

theorem empty : Linked ⟨[], []⟩ where
  groupIds := .nil
  groupKeys := .nil
  watcherIds := .nil
  watcherKeys := .nil
  watcher_ne_zero _ hr := absurd hr List.not_mem_nil
  owned _ hr := absurd hr List.not_mem_nil

/-! ### Queries -/

theorem getServerWatcherId_eq_some (h : Linked w) {id : ℤ} :
    w.getServerWatcherId pl accountHash clientGroupId clientWatcherId = some id ↔
      ∃ r ∈ w.watchers, watcherKey r = (accountHash, clientGroupId, clientWatcherId) ∧
        r.id = id := by
  constructor
  · intro hid
    obtain ⟨r, hr, rfl⟩ := Option.map_eq_some_iff.1 hid
    obtain ⟨hmem, rfl, rfl, rfl⟩ := fetchOptional_some hr
    exact ⟨r, hmem, rfl, rfl⟩
  · rintro ⟨r, hmem, hkey, rfl⟩
    obtain ⟨rfl, rfl, rfl⟩ := watcherKey_eq.1 hkey
    rw [getServerWatcherId, h.watcherKeys.fetchOptional_eq_some pl hmem ⟨rfl, rfl, rfl⟩
      fun b _ hb => Prod.ext hb.1 (Prod.ext hb.2.1 hb.2.2), Option.map_some]

/-- The ids of a pair of numbers are those of the row of the watcher. -/
theorem getServerIds_eq_some (h : Linked w) {ids : ℤ × ℤ} :
    w.getServerIds pl accountHash clientGroupId clientWatcherId = some ids ↔
      ∃ r ∈ w.watchers, watcherKey r = (accountHash, clientGroupId, clientWatcherId) ∧
        ids = (r.groupId, r.id) := by
  rw [getServerIds_eq_some_iff, h.getServerGroupId_eq_some, h.getServerWatcherId_eq_some]
  constructor
  · rintro ⟨⟨g, hg, hgkey, hgid⟩, r, hr, hkey, hid⟩
    obtain ⟨g', hg', hacc, hgroup, hgid'⟩ := h.owned r hr
    obtain ⟨rfl, rfl, rfl⟩ := watcherKey_eq.1 hkey
    have heq : g = g' := h.groupKeys.eq_of_mem hg hg' (hgkey.trans (Prod.ext hacc hgroup).symm)
    exact ⟨r, hr, rfl, Prod.ext (by rw [← hgid, heq, hgid']) hid.symm⟩
  · rintro ⟨r, hr, hkey, rfl⟩
    obtain ⟨g, hg, hacc, hgroup, hgid⟩ := h.owned r hr
    obtain ⟨rfl, rfl, rfl⟩ := watcherKey_eq.1 hkey
    exact ⟨⟨g, hg, Prod.ext hacc hgroup, hgid⟩, r, hr, rfl, rfl⟩

/-- Back from the ids of a row to the numbers of the client. -/
theorem getClientWatcherId_of_mem (h : Linked w) {r : WatcherRow} (hr : r ∈ w.watchers)
    (groupId : ℤ) :
    w.getClientWatcherId pl r.accountHash groupId r.id = some (r.localGroupId, r.watcherId) := by
  rw [getClientWatcherId, if_neg (h.watcher_ne_zero r hr),
    h.watcherIds.fetchOptional_eq_some pl hr ⟨rfl, rfl⟩ fun b _ hb => hb.1, Option.map_some]

/-- A mapping is kept by what keeps the rows with its key. -/
theorem getServerIds_congr_of_mem {w' : WatcherTables} (h : Linked w) (h' : Linked w')
    (hmem : ∀ r, watcherKey r = (accountHash, clientGroupId, clientWatcherId) →
      (r ∈ w.watchers ↔ r ∈ w'.watchers)) :
    w.getServerIds pl accountHash clientGroupId clientWatcherId =
      w'.getServerIds pl accountHash clientGroupId clientWatcherId := by
  refine Option.ext fun ids => ?_
  rw [h.getServerIds_eq_some, h'.getServerIds_eq_some]
  constructor
  · rintro ⟨r, hr, hkey, rfl⟩
    exact ⟨r, (hmem r hkey).1 hr, hkey, rfl⟩
  · rintro ⟨r, hr, hkey, rfl⟩
    exact ⟨r, (hmem r hkey).2 hr, hkey, rfl⟩

/-! ### Writes -/

theorem insertGroup (h : Linked w) {g : WatcherGroupRow} (hid : ∀ g' ∈ w.groups, g'.id ≠ g.id)
    (hkey : ∀ g' ∈ w.groups, groupKey g' ≠ groupKey g) :
      Linked { w with groups := w.groups ++ [g] } :=
  { h.toUniqueKeys.insertGroup hid hkey with
    watcher_ne_zero := h.watcher_ne_zero
    owned := fun r hr =>
      let ⟨g', hg', hown⟩ := h.owned r hr
      ⟨g', List.mem_append_left _ hg', hown⟩ }

/-- Columns of the groups other than the ids and the numbers. -/
theorem writeGroups (h : Linked w) {p : WatcherGroupRow → Prop} [DecidablePred p]
    (group : WatcherGroup) :
    Linked { w with groups := updateWhere p (WatcherStore.writeGroup group) w.groups } :=
  { h.toUniqueKeys.writeGroups group with
    watcher_ne_zero := h.watcher_ne_zero
    owned := by
      intro r hr
      obtain ⟨g, hg, hown⟩ := h.owned r hr
      by_cases hp : p g
      · exact ⟨WatcherStore.writeGroup group g, mem_updateWhere.2 ⟨g, hg, if_pos hp⟩, hown⟩
      · exact ⟨g, mem_updateWhere_of_not hg hp, hown⟩ }

theorem insertWatcher (h : Linked w) {r : WatcherRow} (hne : r.id ≠ 0)
    (hid : ∀ r' ∈ w.watchers, r'.id ≠ r.id) (hkey : ∀ r' ∈ w.watchers, watcherKey r' ≠ watcherKey r)
    (howned : ∃ g ∈ w.groups, Owns g r) : Linked { w with watchers := w.watchers ++ [r] } :=
  { h.toUniqueKeys.insertWatcher hid hkey with
    watcher_ne_zero := by
      intro r' hr'
      rcases List.mem_append.1 hr' with hr' | hr'
      · exact h.watcher_ne_zero r' hr'
      · rw [List.mem_singleton.1 hr']
        exact hne
    owned := by
      intro r' hr'
      rcases List.mem_append.1 hr' with hr' | hr'
      · exact h.owned r' hr'
      · rw [List.mem_singleton.1 hr']
        exact howned }

/-- A watcher written again goes to the group with its number. -/
theorem writeWatchers (h : Linked w) {row : WatcherRow}
    (howned : ∃ g ∈ w.groups, groupKey g = (accountHash, clientGroupId) ∧ g.id = row.groupId) :
    Linked { w with
      watchers := updateWhere (WatcherRow.ClientWatcher accountHash clientGroupId clientWatcherId)
        (WatcherStore.writeWatcher row) w.watchers } :=
  { h.toUniqueKeys.writeWatchers row with
    watcher_ne_zero := by
      intro r hr
      rcases mem_updateWhere_cases hr with ⟨hr, -⟩ | ⟨r₀, hr₀, -, rfl⟩
      · exact h.watcher_ne_zero r hr
      · exact h.watcher_ne_zero r₀ hr₀
    owned := by
      intro r hr
      rcases mem_updateWhere_cases hr with ⟨hr, -⟩ | ⟨r₀, hr₀, ⟨-, rfl, rfl⟩, rfl⟩
      · exact h.owned r hr
      · obtain ⟨g, hg, hkey, hid⟩ := howned
        obtain ⟨hacc, hgroup⟩ := groupKey_eq.1 hkey
        exact ⟨g, hg, hacc, hgroup, hid⟩ }

/-- A group is deleted with its watchers. -/
theorem deleteGroup (h : Linked w) (id : ℤ) :
    Linked {
      watchers := deleteWhere (WatcherRow.OfGroup accountHash id) w.watchers
      groups := deleteWhere (WatcherGroupRow.ServerGroup accountHash id) w.groups } where
  groupIds := h.groupIds.deleteWhere
  groupKeys := h.groupKeys.deleteWhere
  watcherIds := h.watcherIds.deleteWhere
  watcherKeys := h.watcherKeys.deleteWhere
  watcher_ne_zero r hr := h.watcher_ne_zero r (mem_deleteWhere.1 hr).1
  owned := by
    intro r hr
    obtain ⟨hr, hstays⟩ := mem_deleteWhere.1 hr
    obtain ⟨g, hg, hown⟩ := h.owned r hr
    refine ⟨g, mem_deleteWhere.2 ⟨hg, fun hdel => hstays ?_⟩, hown⟩
    -- The group of a watcher that stays is not the one deleted.
    exact ⟨hown.1.symm.trans hdel.2, hown.2.2.symm.trans hdel.1⟩

/-! ### Ensured rows -/

section Ensure

variable {i : EnsureInputs} {w' : WatcherTables} {deviceHash folder : String}
  {groupId watcherId : ℤ} {folderHint : Option String}

theorem ensureGroup (h : Linked w)
    (hfresh : FreshId (w.groups.map WatcherGroupRow.id) i.lastGroupId)
    (hok : w.ensureGroup pl i accountHash deviceHash clientGroupId = .ok (groupId, w')) :
    Linked w' ∧ w'.watchers = w.watchers ∧
      w'.getServerGroupId pl accountHash clientGroupId = some groupId := by
  rcases ensureGroup_ok hok with ⟨hid, rfl⟩ | ⟨hnone, rfl, rfl⟩
  · exact ⟨h, rfl, hid⟩
  · have hkey : ∀ g ∈ w.groups, groupKey g ≠ (accountHash, clientGroupId) := by
      intro g hg hkey
      exact fetchOptional_eq_none.1 (Option.map_eq_none_iff.1 hnone) g hg (groupKey_eq.1 hkey)
    set row := clientGroup i accountHash deviceHash clientGroupId
    have hlinked := h.insertGroup (g := row) hfresh.ne_of_mem hkey
    refine ⟨hlinked, rfl,
      hlinked.getServerGroupId_eq_some.2 ⟨row, ?_, rfl, hfresh.lastInsertId.symm⟩⟩
    exact List.mem_append_right _ (List.mem_singleton_self row)

theorem ensureWatcher (h : Linked w)
    (hfresh : FreshId (w.watchers.map WatcherRow.id) i.lastWatcherId)
    (hgroup : w.getServerGroupId pl accountHash clientGroupId = some groupId)
    (hok : w.ensureWatcher pl i accountHash folder groupId clientGroupId clientWatcherId =
      .ok (watcherId, w')) :
    Linked w' ∧ w'.getServerIds pl accountHash clientGroupId clientWatcherId =
      some (groupId, watcherId) ∧
      ∀ r, watcherKey r ≠ (accountHash, clientGroupId, clientWatcherId) →
        (r ∈ w'.watchers ↔ r ∈ w.watchers) := by
  rcases ensureWatcher_ok hok with ⟨hid, rfl⟩ | ⟨hnone, rfl, rfl⟩
  · refine ⟨h, ?_, fun r _ => Iff.rfl⟩
    rw [getServerIds, hgroup, hid]
    rfl
  · set row := clientWatcher i accountHash folder groupId clientGroupId clientWatcherId
    have hkey : ∀ r ∈ w.watchers, watcherKey r ≠ watcherKey row := by
      intro r hr hkey
      exact fetchOptional_eq_none.1 (Option.map_eq_none_iff.1 hnone) r hr (watcherKey_eq.1 hkey)
    have howned : ∃ g ∈ w.groups, Owns g row := by
      obtain ⟨g, hg, hgkey, hgid⟩ := h.getServerGroupId_eq_some.1 hgroup
      obtain ⟨hacc, hnumber⟩ := groupKey_eq.1 hgkey
      exact ⟨g, hg, hacc, hnumber, hgid⟩
    have hlinked := h.insertWatcher (r := row) hfresh.ne_zero hfresh.ne_of_mem hkey howned
    refine ⟨hlinked,
      hlinked.getServerIds_eq_some.2 ⟨row, ?_, rfl, Prod.ext rfl hfresh.lastInsertId⟩, ?_⟩
    · exact List.mem_append_right _ (List.mem_singleton_self _)
    · intro r hr
      rw [List.mem_append, List.mem_singleton, or_iff_left]
      rintro rfl
      exact hr rfl

theorem ensureServerIdsFor (h : Linked w)
    (hgroupFresh : FreshId (w.groups.map WatcherGroupRow.id) i.lastGroupId)
    (hwatcherFresh : FreshId (w.watchers.map WatcherRow.id) i.lastWatcherId)
    (hok : w.ensureServerIdsFor pl i accountHash deviceHash clientGroupId
      clientWatcherId folderHint =
      .ok ((groupId, watcherId), w')) :
    Linked w' ∧ w'.getServerIds pl accountHash clientGroupId clientWatcherId =
      some (groupId, watcherId) ∧
      ∀ r, watcherKey r ≠ (accountHash, clientGroupId, clientWatcherId) →
        (r ∈ w'.watchers ↔ r ∈ w.watchers) := by
  obtain ⟨w₁, hgroup, -, hwatcher, -⟩ := ensureServerIdsFor_eq_ok.1 hok
  obtain ⟨h₁, hwatchers, hid⟩ := h.ensureGroup hgroupFresh hgroup
  rw [← hwatchers] at hwatcherFresh ⊢
  exact h₁.ensureWatcher hwatcherFresh hid hwatcher

end Ensure

end Linked

/-- Numbers that have ids keep them. -/
theorem ensureServerIdsFor_of_some {pl : Planner} {w : WatcherTables}
    {accountHash : String} {clientGroupId clientWatcherId groupId watcherId : ℤ}
    (h : w.getServerIds pl accountHash clientGroupId clientWatcherId = some (groupId, watcherId))
    (hgroup : groupId ≠ 0) (hwatcher : watcherId ≠ 0) (i : EnsureInputs) (deviceHash : String)
    (folderHint : Option String) :
    w.ensureServerIdsFor pl i accountHash deviceHash clientGroupId clientWatcherId folderHint =
      .ok ((groupId, watcherId), w) := by
  obtain ⟨hgroupId, hwatcherId⟩ := getServerIds_eq_some_iff.1 h
  refine ensureServerIdsFor_eq_ok.2 ⟨w, ?_, hgroup, ?_, hwatcher⟩
  · rw [ensureGroup, hgroupId]
  · rw [ensureWatcher, hwatcherId]

end WatcherTables

/-! ## Runs of the calls -/

namespace WatcherStore

open WatcherTables

/-- `ensure_server_ids_for`; conditions play no part in it. -/
def ensureServerIdsFor (pl : Planner) (s : WatcherStore) (i : EnsureInputs)
    (accountHash deviceHash : String)
    (clientGroupId clientWatcherId : ℤ) (folderHint : Option String) :
    Except StorageError ((ℤ × ℤ) × WatcherStore) :=
  (s.toWatcherTables.ensureServerIdsFor pl i accountHash deviceHash clientGroupId clientWatcherId
    folderHint).map fun (ids, w) => (ids, { s with toWatcherTables := w })

/-- The calls that write groups and watchers. -/
inductive IdOp where
  | ensure (i : EnsureInputs) (accountHash deviceHash : String) (clientGroupId clientWatcherId : ℤ)
    (folderHint : Option String)
  | register (i : CallInputs) (accountHash deviceHash : String) (group : WatcherGroup)
  | create (i : CallInputs) (accountHash : String) (groupId : ℤ) (data : WatcherData)
    (timestamp : ℤ)
  | update (i : CallInputs) (accountHash : String) (group : WatcherGroup)
  | delete (i : CallInputs) (accountHash : String) (groupId : ℤ)

/-- A call, rolled back if it fails. -/
def applyIdOp (pl : Planner) (s : WatcherStore) : IdOp → WatcherStore
  | .ensure i accountHash deviceHash clientGroupId clientWatcherId folderHint =>
    committed s (s.ensureServerIdsFor pl i accountHash deviceHash clientGroupId
      clientWatcherId folderHint)
  | .register i accountHash deviceHash group =>
    committed s (s.registerWatcherGroup pl i accountHash deviceHash group)
  | .create i accountHash groupId data timestamp =>
    committed s (s.createWatcherWithConditions pl i accountHash groupId data timestamp)
  | .update i accountHash group => committed s (s.updateWatcherGroup pl i accountHash group)
  | .delete i accountHash groupId => committed s (s.deleteWatcherGroup pl i accountHash groupId)

/-- The ids of new rows are fresh. -/
def IdsFresh (s : WatcherStore) : IdOp → Prop
  | .ensure i .. => FreshId (s.groups.map WatcherGroupRow.id) i.lastGroupId ∧
    FreshId (s.watchers.map WatcherRow.id) i.lastWatcherId
  | .register i .. => FreshId (s.groups.map WatcherGroupRow.id) i.nextId
  | .create i .. => FreshId (s.watchers.map WatcherRow.id) i.nextId
  | .update .. => True
  | .delete .. => True

instance (s : WatcherStore) : (op : IdOp) → Decidable (s.IdsFresh op)
  | .ensure .. => inferInstanceAs (Decidable (_ ∧ _))
  | .register .. => inferInstanceAs (Decidable (FreshId _ _))
  | .create .. => inferInstanceAs (Decidable (FreshId _ _))
  | .update .. => inferInstanceAs (Decidable True)
  | .delete .. => inferInstanceAs (Decidable True)

/-- The conversion between the ids is one to one. -/
structure OneToOne (pl : Planner) (s : WatcherStore) : Prop where
  /-- A pair of ids leads back to the numbers it comes from, and the watcher is in the group. -/
  mapsBack : ∀ accountHash clientGroupId clientWatcherId groupId watcherId,
    s.getServerIds pl accountHash clientGroupId clientWatcherId = some (groupId, watcherId) →
      s.getClientWatcherId pl accountHash groupId watcherId =
        some (clientGroupId, clientWatcherId) ∧
      (∃ r ∈ s.watchers, r.id = watcherId) ∧ ∀ r ∈ s.watchers, r.id = watcherId →
        r.groupId = groupId
  /-- Different numbers have different watchers. -/
  injective : ∀ accountHash (client client' ids ids' : ℤ × ℤ),
    s.getServerIds pl accountHash client.1 client.2 = some ids →
      s.getServerIds pl accountHash client'.1 client'.2 = some ids' → client ≠ client' →
        ids.2 ≠ ids'.2
  /-- What is ensured is found, the same again, and nothing else changes. -/
  ensured : ∀ i accountHash deviceHash clientGroupId clientWatcherId folderHint ids s',
    s.IdsFresh (.ensure i accountHash deviceHash clientGroupId clientWatcherId folderHint) →
      s.ensureServerIdsFor pl i accountHash deviceHash clientGroupId clientWatcherId folderHint =
        .ok (ids, s') →
      s'.getServerIds pl accountHash clientGroupId clientWatcherId = some ids ∧
      (∀ i' deviceHash' folderHint',
        s'.ensureServerIdsFor pl i' accountHash deviceHash' clientGroupId
        clientWatcherId folderHint' = .ok (ids, s')) ∧
      ∀ account group watcher, (account, group, watcher) ≠
        (accountHash, clientGroupId, clientWatcherId) →
        s'.getServerIds pl account group watcher = s.getServerIds pl account group watcher

section

variable {pl : Planner} {s s' : WatcherStore} {accountHash deviceHash : String}
  {clientGroupId clientWatcherId : ℤ} {folderHint : Option String}

theorem ensureServerIdsFor_ok {i : EnsureInputs} {ids : ℤ × ℤ}
    (h : s.ensureServerIdsFor pl i accountHash deviceHash clientGroupId clientWatcherId folderHint =
      .ok (ids, s')) :
    s.toWatcherTables.ensureServerIdsFor pl i accountHash deviceHash clientGroupId clientWatcherId
      folderHint = .ok (ids, s'.toWatcherTables) ∧ s'.conditions = s.conditions := by
  rw [ensureServerIdsFor] at h
  rcases hres : s.toWatcherTables.ensureServerIdsFor pl i accountHash deviceHash clientGroupId
    clientWatcherId folderHint with e | ⟨ids', w⟩
  · rw [hres] at h
    cases h
  · rw [hres] at h
    cases h
    exact ⟨rfl, rfl⟩

theorem linked_ensureServerIdsFor {i : EnsureInputs} {ids : ℤ × ℤ} (h : Linked s.toWatcherTables)
    (hfresh : s.IdsFresh
      (.ensure i accountHash deviceHash clientGroupId clientWatcherId folderHint))
    (hok : s.ensureServerIdsFor pl i accountHash deviceHash clientGroupId
      clientWatcherId folderHint =
      .ok (ids, s')) : Linked s'.toWatcherTables :=
  (h.ensureServerIdsFor hfresh.1 hfresh.2 (ensureServerIdsFor_ok hok).1).1

theorem linked_registerWatcherGroup {i : CallInputs} {group : WatcherGroup} {id : ℤ}
    (h : Linked s.toWatcherTables) (hfresh : FreshId (s.groups.map WatcherGroupRow.id) i.nextId)
    (hok : s.registerWatcherGroup pl i accountHash deviceHash group = .ok (id, s')) :
    Linked s'.toWatcherTables := by
  rcases (registerWatcherGroup_ok hok).2 with ⟨-, rfl⟩ | rfl
  · exact h
  · by_cases hex : ∃ g ∈ s.groups, WatcherGroupRow.ClientGroup accountHash group.groupId g
    · obtain ⟨g, hg, hclient⟩ := hex
      rw [upsertGroup, upsert_of_exists hg hclient]
      exact h.writeGroups group
    · have hno : ∀ g ∈ s.groups, ¬WatcherGroupRow.ClientGroup accountHash group.groupId g :=
        fun g hg hclient => hex ⟨g, hg, hclient⟩
      rw [upsertGroup, upsert_of_forall hno]
      exact h.insertGroup hfresh.ne_of_mem fun g hg hkey => hno g hg (groupKey_eq.1 hkey)

theorem linked_createWatcherWithConditions {i : CallInputs} {groupId timestamp id : ℤ}
    {data : WatcherData} (h : Linked s.toWatcherTables)
    (hfresh : FreshId (s.watchers.map WatcherRow.id) i.nextId)
    (hok : s.createWatcherWithConditions pl i accountHash groupId data timestamp = .ok (id, s')) :
    Linked s'.toWatcherTables := by
  obtain ⟨dbGroupId, hgroup, hcases⟩ := createWatcherWithConditions_ok hok
  have howned := h.getServerGroupId_eq_some.1 hgroup
  rcases hcases with ⟨r, -, -, -, rfl⟩ | ⟨r, -, -, -, rfl⟩ | ⟨hnone, -, rfl⟩
  · exact h
  · exact h.writeWatchers howned
  · refine h.insertWatcher hfresh.ne_zero hfresh.ne_of_mem (fun r hr hkey => ?_) ?_
    · obtain ⟨hacc, hnumber, hwatcher⟩ := watcherKey_eq.1 hkey
      exact fetchOptional_eq_none.1 hnone r hr ⟨hwatcher, hacc, hnumber⟩
    · obtain ⟨g, hg, hkey, hid⟩ := howned
      obtain ⟨hacc, hnumber⟩ := groupKey_eq.1 hkey
      exact ⟨g, hg, hacc, hnumber, hid⟩

/-- Every call keeps the tables linked. -/
theorem linked_applyIdOp {op : IdOp} (hfresh : s.IdsFresh op) (h : Linked s.toWatcherTables) :
    Linked (s.applyIdOp pl op).toWatcherTables := by
  have hcall : ∀ {α : Type} {res : Except StorageError (α × WatcherStore)},
      (∀ a s', res = .ok (a, s') → Linked s'.toWatcherTables) →
        Linked (committed s res).toWatcherTables :=
    committed_of (P := fun s : WatcherStore => Linked s.toWatcherTables) h
  rcases op with ⟨i, accountHash, deviceHash, clientGroupId, clientWatcherId, folderHint⟩ |
    ⟨i, accountHash, deviceHash, group⟩ | ⟨i, accountHash, groupId, data, timestamp⟩ |
    ⟨i, accountHash, group⟩ | ⟨i, accountHash, groupId⟩
  · exact hcall fun _ _ hok => linked_ensureServerIdsFor h hfresh hok
  · exact hcall fun _ _ hok => linked_registerWatcherGroup h hfresh hok
  · exact hcall fun _ _ hok => linked_createWatcherWithConditions h hfresh hok
  · refine hcall fun _ s' hok => ?_
    rcases updateWatcherGroup_ok hok with ⟨-, rfl⟩ | ⟨-, rfl⟩
    · exact h
    · exact h.writeGroups group
  · refine hcall fun _ s' hok => ?_
    rcases deleteWatcherGroup_ok hok with rfl | ⟨id, -, rfl⟩
    · exact h
    · exact h.deleteGroup id

/-- In linked tables the conversion is one to one. -/
theorem oneToOne_of_linked (h : Linked s.toWatcherTables) : OneToOne pl s where
  mapsBack := by
    intro accountHash clientGroupId clientWatcherId groupId watcherId hids
    obtain ⟨r, hr, hkey, hpair⟩ := h.getServerIds_eq_some.1 hids
    obtain ⟨rfl, rfl⟩ := Prod.mk.inj hpair
    obtain ⟨rfl, rfl, rfl⟩ := watcherKey_eq.1 hkey
    refine ⟨h.getClientWatcherId_of_mem hr _, ⟨r, hr, rfl⟩, fun r' hr' hid => ?_⟩
    rw [h.watcherIds.eq_of_mem hr' hr hid]
  injective := by
    rintro accountHash client client' ids ids' hids hids' hne heq
    obtain ⟨r, hr, hkey, rfl⟩ := h.getServerIds_eq_some.1 hids
    obtain ⟨r', hr', hkey', rfl⟩ := h.getServerIds_eq_some.1 hids'
    obtain rfl := h.watcherIds.eq_of_mem hr hr' heq
    exact hne (Prod.mk.inj (hkey.symm.trans hkey')).2
  ensured := by
    rintro i accountHash deviceHash clientGroupId clientWatcherId folderHint ⟨groupId, watcherId⟩ s'
      hfresh hok
    have htables := (ensureServerIdsFor_ok hok).1
    obtain ⟨h', hids, hothers⟩ := h.ensureServerIdsFor hfresh.1 hfresh.2 htables
    obtain ⟨-, -, hgroup, -, hwatcher⟩ := ensureServerIdsFor_eq_ok.1 htables
    refine ⟨hids, fun i' deviceHash' folderHint' => ?_, fun account group watcher hne => ?_⟩
    · rw [ensureServerIdsFor, ensureServerIdsFor_of_some hids hgroup hwatcher]
      rfl
    · exact h'.getServerIds_congr_of_mem h fun r hkey => hothers r (hkey ▸ hne)

/-- However the calls have followed each other, the conversion between the ids of the
    client and those of the server is one to one. -/
theorem oneToOne_run {ops : List IdOp} (h : Guarded (applyIdOp pl) IdsFresh .empty ops) :
    OneToOne pl (run (applyIdOp pl) .empty ops) :=
  oneToOne_of_linked (h.invariant (I := fun s => Linked s.toWatcherTables)
    (fun _ _ hfresh hlinked => linked_applyIdOp hfresh hlinked) .empty)

end

/-- An upload, a registration, a watcher and an update of the group, which is then deleted;
    the next upload makes new rows. -/
def sampleIdOps : List IdOp :=
  let group : WatcherGroup := ⟨0, 7, "kim", "Documents", 20, 20, true, []⟩
  let watcher : WatcherData := ⟨3, "~/docs", [⟨"ext", ["md"]⟩], [], true, false, "", "", true, ""⟩
  [.ensure ⟨10, 1, 1, none, none⟩ "kim" "laptop" 7 3 none,
    .register ⟨⟨20, 0⟩, 2, none⟩ "kim" "laptop" group,
    .create ⟨⟨30, 0⟩, 2, none⟩ "kim" 7 watcher 30,
    .update ⟨⟨40, 0⟩, 2, none⟩ "kim" { group with id := 1, updatedAt := 40 },
    .delete ⟨⟨50, 0⟩, 2, none⟩ "kim" 7,
    .ensure ⟨60, 2, 2, none, none⟩ "kim" "laptop" 7 3 none]

theorem oneToOne_sampleIdOps :
    Guarded (applyIdOp .insertion) IdsFresh .empty sampleIdOps ∧
      (run (applyIdOp .insertion) .empty sampleIdOps).getServerIds .insertion "kim" 7
        3 = some (2, 2) ∧
      OneToOne .insertion (run (applyIdOp .insertion) .empty sampleIdOps) := by
  have hfresh : Guarded (applyIdOp .insertion) IdsFresh .empty sampleIdOps := by decide +kernel
  exact ⟨hfresh, by decide +kernel, oneToOne_run hfresh⟩

end WatcherStore

end CosmicSync
