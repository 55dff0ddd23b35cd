import CosmicSync.Library.Newest
import CosmicSync.Library.Ranking
import CosmicSync.Storage.WatcherIds

/-!
# Writes of a watcher group converge

A group is written by two calls, which find its row by different keys:
`registerWatcherGroup` by the number of the client, `updateWatcherGroup` by that of the
server. Either writes the same three columns (`GroupColumns`), and only if its time is
later than that of the row. So the row is a register in which the newest wins, and the
order of the calls makes no difference.
-/

namespace CosmicSync

open Table Run Newest WatcherTables

/-- The columns of a group that the calls write. -/
structure GroupColumns where
  title : String
  isActive : Bool
  updatedAt : ℤ
  deriving DecidableEq

namespace GroupColumns

/-- The columns of a row. -/
def ofRow (g : WatcherGroupRow) : GroupColumns := ⟨g.title, g.isActive, g.updatedAt⟩

/-- The columns that a call with the group writes. -/
def ofGroup (group : WatcherGroup) : GroupColumns := ⟨group.title, group.isActive, group.updatedAt⟩

/-- The row with other columns. -/
def write (c : GroupColumns) (g : WatcherGroupRow) : WatcherGroupRow :=
  { g with title := c.title, updatedAt := c.updatedAt, isActive := c.isActive }

theorem write_ofGroup (group : WatcherGroup) :
    (ofGroup group).write = WatcherStore.writeGroup group := rfl

end GroupColumns

/-- A call that writes a group of an account. -/
inductive GroupWrite where
  | register (i : CallInputs) (deviceHash : String) (group : WatcherGroup)
  | update (i : CallInputs) (group : WatcherGroup)

namespace GroupWrite

/-- The group that is sent. -/
def group : GroupWrite → WatcherGroup
  | register _ _ group => group
  | update _ group => group

/-- What the call writes. -/
def columns (c : GroupWrite) : GroupColumns := .ofGroup c.group

/-- The call is for the group `g`, and its statements do not fail. -/
def For (g : WatcherGroupRow) : GroupWrite → Prop
  | register i _ group => i.fault = none ∧ group.groupId = g.groupId
  | update i group => i.fault = none ∧ group.id = g.id

instance (g : WatcherGroupRow) : DecidablePred (For g)
  | register _ _ _ => inferInstanceAs (Decidable (_ ∧ _))
  | update _ _ => inferInstanceAs (Decidable (_ ∧ _))

end GroupWrite

namespace WatcherStore

/-- A call of the account, rolled back if it fails. -/
def applyWrite (pl : Planner) (accountHash : String) (s : WatcherStore) : GroupWrite → WatcherStore
  | .register i deviceHash group =>
    committed s (s.registerWatcherGroup pl i accountHash deviceHash group)
  | .update i group => committed s (s.updateWatcherGroup pl i accountHash group)

/-- The tables with other columns in the group `g`. -/
def withColumns (s : WatcherStore) (g : WatcherGroupRow) (c : GroupColumns) : WatcherStore :=
  { s with groups := updateWhere (·.id = g.id) c.write s.groups }

section

variable {pl : Planner} {s : WatcherStore} {g : WatcherGroupRow} {c : GroupColumns}

theorem withColumns_ofRow (hkeys : UniqueKeys s.toWatcherTables) (hg : g ∈ s.groups) :
    s.withColumns g (.ofRow g) = s := by
  have hself : updateWhere (·.id = g.id) (GroupColumns.ofRow g).write s.groups = s.groups := by
    rw [updateWhere]
    conv_rhs => rw [← List.map_id s.groups]
    refine List.map_congr_left fun r hr => ?_
    split
    next hid =>
      rw [hkeys.groupIds.eq_of_mem hr hg hid]
      rfl
    next => rfl
  rw [withColumns, hself]

/-- The rows of the table that the client's number finds, and those that the server's does. -/
theorem clientGroup_iff (hkeys : UniqueKeys s.toWatcherTables) (hg : g ∈ s.groups) :
    ∀ r ∈ s.groups, WatcherGroupRow.ClientGroup g.accountHash g.groupId r ↔ r.id = g.id := by
  intro r hr
  constructor
  · intro hclient
    rw [hkeys.groupKeys.eq_of_mem hr hg (groupKey_eq.2 hclient)]
  · intro hid
    rw [hkeys.groupIds.eq_of_mem hr hg hid]
    exact ⟨rfl, rfl⟩

theorem serverGroup_iff (hkeys : UniqueKeys s.toWatcherTables) (hg : g ∈ s.groups) :
    ∀ r ∈ s.groups, WatcherGroupRow.ServerGroup g.accountHash g.id r ↔ r.id = g.id := by
  intro r hr
  constructor
  · exact And.left
  · intro hid
    rw [hkeys.groupIds.eq_of_mem hr hg hid]
    exact ⟨rfl, rfl⟩

section

variable {p : WatcherGroupRow → Prop} [DecidablePred p]

/-- A key that finds the group `g` finds it with other columns. -/
theorem fetchOptional_withColumns (pl : Planner) (hkeys : UniqueKeys s.toWatcherTables)
    (hg : g ∈ s.groups)
    (hp : ∀ r ∈ s.groups, p r ↔ r.id = g.id) (hwrite : ∀ r, p (c.write r) ↔ p r) :
    fetchOptional pl p (s.withColumns g c).groups = some (c.write g) := by
  have hmem : c.write g ∈ (s.withColumns g c).groups := mem_updateWhere.2 ⟨g, hg, if_pos rfl⟩
  have hids : Keyed WatcherGroupRow.id (s.withColumns g c).groups :=
    hkeys.groupIds.updateWhere fun _ => rfl
  refine hids.fetchOptional_eq_some pl hmem ((hwrite g).2 ((hp g hg).2 rfl)) ?_
  intro r hr hpr
  rcases mem_updateWhere_cases hr with ⟨hr, -⟩ | ⟨r₀, -, hid, rfl⟩
  · exact (hp r hr).1 hpr
  · exact hid

/-- The columns of the group are written again. -/
theorem updateWhere_withColumns {c' : GroupColumns} (hp : ∀ r ∈ s.groups, p r ↔ r.id = g.id)
    (hwrite : ∀ r, p (c.write r) ↔ p r) :
    updateWhere p c'.write (s.withColumns g c).groups = (s.withColumns g c').groups := by
  rw [withColumns, withColumns, updateWhere, updateWhere, List.map_map]
  refine List.map_congr_left fun r hr => ?_
  rw [Function.comp_apply]
  by_cases hid : r.id = g.id
  · rw [if_pos hid, if_pos hid, if_pos ((hwrite r).2 ((hp r hr).2 hid))]
    rfl
  · rw [if_neg hid, if_neg hid, if_neg (mt (hp r hr).1 hid)]

end

/-- A row that is found is older exactly if its columns are. -/
theorem isNewer_write {group : WatcherGroup} :
    isNewer group.updatedAt (some (c.write g)) = true ↔
      (GroupColumns.ofGroup group).updatedAt ≤ c.updatedAt := by
  rw [isNewer, Option.any_some, decide_eq_true_iff]
  rfl

/-- Every call for the group is an offer to the register that its row is. -/
theorem applyWrite_withColumns (hkeys : UniqueKeys s.toWatcherTables) (hg : g ∈ s.groups)
    {o : GroupWrite} (ho : o.For g) :
    applyWrite pl g.accountHash (s.withColumns g c) o =
      s.withColumns g (newest GroupColumns.updatedAt c o.columns) := by
  rcases o with ⟨i, deviceHash, group⟩ | ⟨i, group⟩
  · obtain ⟨hfault, hgroup⟩ := ho
    have hfound := fetchOptional_withColumns (c := c) pl hkeys hg (clientGroup_iff hkeys hg)
      fun _ => Iff.rfl
    obtain ⟨hmem, hclient⟩ := fetchOptional_some hfound
    -- The row exists, so that the insertion of the upsert is not reached; and the call writes
    -- it a second time.
    have hupsert : upsertGroup i.nextId g.accountHash deviceHash group (s.withColumns g c).groups =
        (s.withColumns g (.ofGroup group)).groups := by
      rw [upsertGroup, hgroup, upsert_of_exists hmem hclient, ← GroupColumns.write_ofGroup]
      exact updateWhere_withColumns (clientGroup_iff hkeys hg) fun _ => Iff.rfl
    rw [applyWrite, registerWatcherGroup, hfault]
    dsimp only
    rw [hgroup, hfound, upsertGroup_upsertGroup, hupsert]
    simp only [isNewer_write]
    refine Eq.trans ?_ (apply_newest (b := .ofGroup group) (s.withColumns g)).symm
    split <;> rfl
  · obtain ⟨hfault, hgroup⟩ := ho
    have hfound := fetchOptional_withColumns (c := c) pl hkeys hg (serverGroup_iff hkeys hg)
      fun _ => Iff.rfl
    have hupdate : updateWhere (WatcherGroupRow.ServerGroup g.accountHash g.id) (writeGroup group)
        (s.withColumns g c).groups = (s.withColumns g (.ofGroup group)).groups := by
      rw [← GroupColumns.write_ofGroup]
      exact updateWhere_withColumns (serverGroup_iff hkeys hg) fun _ => Iff.rfl
    rw [applyWrite, updateWatcherGroup, hfault]
    dsimp only
    rw [hgroup, hfound, hupdate]
    simp only [isNewer_write]
    refine Eq.trans ?_ (apply_newest (b := .ofGroup group) (s.withColumns g)).symm
    split <;> rfl

/-- The calls offer their columns one after the other. -/
theorem run_applyWrite (hkeys : UniqueKeys s.toWatcherTables) (hg : g ∈ s.groups)
    {calls : List GroupWrite} (hcalls : ∀ o ∈ calls, o.For g) :
    run (applyWrite pl g.accountHash) (s.withColumns g c) calls =
      s.withColumns g ((calls.map GroupWrite.columns).foldl (newest GroupColumns.updatedAt) c) := by
  induction calls generalizing c with
  | nil => rfl
  | cons o calls ih =>
    rw [run_cons, applyWrite_withColumns hkeys hg (hcalls o List.mem_cons_self),
      ih fun o' ho' => hcalls o' (List.mem_cons_of_mem _ ho'), List.map_cons, List.foldl_cons]

/-- What a call does to the group `g`: its time does not decrease, its ids stay, and so do the
    other groups. -/
structure Advances (g : WatcherGroupRow) (s s' : WatcherStore) : Prop where
  group : ∃ r ∈ s.groups, ∃ r' ∈ s'.groups, r.id = g.id ∧ r'.id = g.id ∧
    groupKey r = groupKey g ∧ groupKey r' = groupKey g ∧ r.updatedAt ≤ r'.updatedAt
  others : s'.groups.filter (·.id ≠ g.id) = s.groups.filter (·.id ≠ g.id)

theorem advances_withColumns (hg : g ∈ s.groups) {c' : GroupColumns}
    (hle : c.updatedAt ≤ c'.updatedAt) :
    Advances g (s.withColumns g c) (s.withColumns g c') where
  group := ⟨c.write g, mem_updateWhere.2 ⟨g, hg, if_pos rfl⟩, c'.write g,
    mem_updateWhere.2 ⟨g, hg, if_pos rfl⟩, rfl, rfl, rfl, rfl, hle⟩
  others := by
    have hothers (c : GroupColumns) :
        (s.withColumns g c).groups.filter (·.id ≠ g.id) = s.groups.filter (·.id ≠ g.id) :=
      filter_updateWhere fun _ _ hid => ⟨not_not.2 hid, not_not.2 hid⟩
    rw [hothers, hothers]

/-- The times of the calls, and that of the row, are distinct. -/
def DistinctTimes (g : WatcherGroupRow) (calls : List GroupWrite) : Prop :=
  (g.updatedAt :: calls.map (·.group.updatedAt)).Nodup

instance (g : WatcherGroupRow) (calls : List GroupWrite) : Decidable (DistinctTimes g calls) :=
  inferInstanceAs (Decidable (List.Nodup _))

/-- The columns with the latest time, of the row and of the calls. -/
def Latest (g : WatcherGroupRow) (calls : List GroupWrite) (c : GroupColumns) : Prop :=
  c ∈ .ofRow g :: calls.map GroupWrite.columns ∧
    ∀ c' ∈ GroupColumns.ofRow g :: calls.map GroupWrite.columns, c'.updatedAt ≤ c.updatedAt

/-- In whatever order the calls for a group come, its row ends with the columns that are
    the latest, and nothing else changes; on the way its time never decreases. -/
theorem converges_of_perm (hkeys : UniqueKeys s.toWatcherTables) (hg : g ∈ s.groups)
    {calls : List GroupWrite} (hcalls : ∀ o ∈ calls, o.For g) (hdistinct : DistinctTimes g calls) :
    ∃ c, Latest g calls c ∧ ∀ order : List GroupWrite, order.Perm calls →
      run (applyWrite pl g.accountHash) s order = s.withColumns g c ∧
        Guarded (applyWrite pl g.accountHash)
          (fun s o => Advances g s (applyWrite pl g.accountHash s o)) s order := by
  -- The columns of the row are one offer more: what is latest is so among them and the calls,
  -- and a permutation of the calls permutes the offers.
  have hne : GroupColumns.ofRow g :: calls.map GroupWrite.columns ≠ [] := List.cons_ne_nil _ _
  obtain ⟨c, hc, hmax⟩ := Ranking.exists_forall_le (f := GroupColumns.updatedAt) hne
  refine ⟨c, ⟨hc, hmax⟩, fun order hperm => ⟨?_, ?_⟩⟩
  · have hcolumns : (GroupColumns.ofRow g :: order.map GroupWrite.columns).Perm
        (.ofRow g :: calls.map GroupWrite.columns) := (hperm.map _).cons _
    have htimes : ((GroupColumns.ofRow g :: order.map GroupWrite.columns).map
        GroupColumns.updatedAt).Nodup := by
      refine (hcolumns.map GroupColumns.updatedAt).nodup_iff.2 ?_
      rw [List.map_cons, List.map_map]
      exact hdistinct
    conv_lhs => rw [← withColumns_ofRow hkeys hg]
    rw [run_applyWrite hkeys hg fun o ho => hcalls o (hperm.subset ho),
      foldl_newest_eq htimes (hcolumns.mem_iff.2 hc) fun c' hc' => hmax c' (hcolumns.subset hc')]
  · -- Whatever the columns of the row are on the way, the rest is as it was.
    refine Guarded.of_invariant (I := fun t => ∃ c, t = s.withColumns g c) ?_
      ⟨_, (withColumns_ofRow hkeys hg).symm⟩
    rintro t o ho ⟨c, rfl⟩
    rw [applyWrite_withColumns hkeys hg (hcalls o (hperm.subset ho))]
    exact ⟨advances_withColumns hg time_le_newest, _, rfl⟩

end

/-- A group, named by its client. -/
def documentsRow : WatcherGroupRow := ⟨1, 7, "kim", "laptop", "Documents", 10, 10, true⟩

/-- It and another one of the account. -/
def twoGroups : WatcherStore :=
  { WatcherStore.empty with
    groups := [documentsRow, ⟨2, 8, "kim", "laptop", "Music", 10, 50, true⟩] }

/-- A rename by registration, and an earlier switch-off that arrives after it. -/
def lateWrites : List GroupWrite :=
  [.register ⟨⟨60, 0⟩, 3, none⟩ "phone" ⟨0, 7, "kim", "Papers", 40, 40, true, []⟩,
    .update ⟨⟨60, 0⟩, 3, none⟩ ⟨1, 0, "kim", "Documents", 30, 30, false, []⟩]

theorem converges_lateWrites :
    ((∀ o ∈ lateWrites, o.For documentsRow) ∧ DistinctTimes documentsRow lateWrites) ∧
      ∃ c, Latest documentsRow lateWrites c ∧ ∀ order : List GroupWrite, order.Perm lateWrites →
        run (applyWrite .insertion "kim") twoGroups order = twoGroups.withColumns documentsRow c ∧
          Guarded (applyWrite .insertion "kim")
            (fun s o => Advances documentsRow s (applyWrite .insertion "kim" s o))
              twoGroups order := by
  have hkeys : UniqueKeys twoGroups.toWatcherTables :=
    ⟨by decide +kernel, by decide +kernel, by decide +kernel, by decide +kernel⟩
  have hcalls : ∀ o ∈ lateWrites, o.For documentsRow := by decide +kernel
  have hdistinct : DistinctTimes documentsRow lateWrites := by decide +kernel
  exact ⟨⟨hcalls, hdistinct⟩, converges_of_perm hkeys List.mem_cons_self hcalls hdistinct⟩

end WatcherStore

end CosmicSync
