import Cataclysm.Instances.BindSymmetry
import Cataclysm.Lib.Runs

/-!
# Runs of instance binds

The binds of groups and the lists of saves stay symmetric while every bind is made by a group with
the dungeon-finder flag of the save, and while a change of the difficulty moves a bind only to a
free slot of another difficulty and only if no other group is bound to the save. Then a reset finds
every group, and no operation meets a deleted save.

## Implementation notes

During a switch the moved binds stand in both slots. The invariant of its loop is about the state
in which the old ones are erased.
-/

namespace Cataclysm.InstanceBinds

variable {s : State} {group : Group} {save : InstanceSave} {bind : InstanceGroupBind}
  {guid difficulty key address : Nat} {maps : Maps}

/-! ### Saves -/

theorem getInstanceSave_eq_some {instanceId : Nat} {e : Nat × InstanceSave}
    (h : s.getInstanceSave instanceId = some e) :
    s.saves.find? e.1 = some e.2 ∧ e.2.instanceId = instanceId := by
  have htest := List.find?_some h
  exact ⟨OrderedMap.find?_eq_some_iff.mpr (List.mem_of_find?_eq_some h), by simpa using htest⟩

theorem getInstanceSave_eq_none {instanceId : Nat} (h : s.getInstanceSave instanceId = none) :
    ∀ address save, s.saves.find? address = some save → save.instanceId ≠ instanceId := by
  intro address save hfind hsame
  have hno := List.find?_eq_none.mp h (address, save) (OrderedMap.find?_eq_some_iff.mp hfind)
  exact hno (decide_eq_true hsame)

theorem Good.getInstanceSave (h : Good s) (hfind : s.saves.find? address = some save) :
    s.getInstanceSave save.instanceId = some (address, save) := by
  cases hget : s.getInstanceSave save.instanceId with
  | none => exact absurd rfl (getInstanceSave_eq_none hget address save hfind)
  | some e =>
    obtain ⟨hfound, hid⟩ := getInstanceSave_eq_some hget
    obtain rfl := h.distinct _ _ _ _ hfound hfind hid
    obtain rfl := Option.some.inj (hfound.symm.trans hfind)
    rfl

/-- A save that is written back is unloaded if it is empty. -/
theorem Good.unloadIfEmpty (h : Good (s.setSave address save)) (locked : Bool) (maps : Maps) :
    Good (s.unloadIfEmpty address save locked maps) := by
  unfold State.unloadIfEmpty
  split
  · next hempty =>
      simp only [Bool.and_eq_true, List.isEmpty_iff] at hempty
      refine h.delete ((State.find?_setSave ..).trans (if_pos rfl)) hempty.1.1.2
        (fun _ _ _ => rfl) (fun address' => ?_) rfl
      rw [State.find?_setSave]
      refine (OrderedMap.find?_erase ..).trans ?_
      split
      · rfl
      · rfl
  · exact h

/-- A save is written back with other players. -/
theorem Good.setPlayers (h : Good s) (hfind : s.saves.find? address = some save)
    (playerList : List Nat) : Good (s.setSave address { save with playerList }) := by
  refine h.congr (fun _ _ _ => rfl) (fun address' save' hread => ?_) (fun address' old hold => ?_) rfl
  · rw [State.find?_setSave] at hread
    by_cases hsame : address' = address
    · subst hsame
      rw [if_pos rfl] at hread
      obtain rfl := Option.some.inj hread
      exact ⟨save, hfind, rfl, rfl, rfl, rfl, rfl⟩
    · rw [if_neg hsame] at hread
      exact ⟨save', hread, rfl, rfl, rfl, rfl, rfl⟩
  · rw [State.find?_setSave]
    split
    · rfl
    · rw [hold]
      rfl

theorem Good.addPlayer (h : Good s) (address player : Nat) : Good (s.addPlayer address player) := by
  unfold State.addPlayer
  cases hfind : s.saves.find? address with
  | none => exact h
  | some save => exact h.setPlayers hfind _

theorem Good.removePlayer (h : Good s) (address player : Nat) (maps : Maps) :
    Good (s.removePlayer address player maps) := by
  unfold State.removePlayer
  cases hfind : s.saves.find? address with
  | none => exact h
  | some save => exact (h.setPlayers hfind _).unloadIfEmpty false maps

theorem Good.addInstanceSave (h : Good s) (mapId instanceId difficulty : Nat)
    (canReset isLfg valid : Bool) :
    Good (s.addInstanceSave mapId instanceId difficulty canReset isLfg valid) := by
  unfold State.addInstanceSave
  split
  · exact h
  · next hguards =>
      simp only [Bool.or_eq_true, not_or, Option.not_isSome_iff_eq_none] at hguards
      have hnone := getInstanceSave_eq_none hguards.1.1
      have hfresh : s.saves.find? s.nextSave = none := by
        cases hfind : s.saves.find? s.nextSave with
        | none => rfl
        | some save => exact absurd (h.fresh _ _ hfind) (Nat.lt_irrefl _)
      have hreads : ∀ address' save', (s.saves.insert s.nextSave
          ⟨instanceId, mapId % 2 ^ 16, difficulty, canReset, isLfg, [], []⟩).find? address' =
            some save' →
          (address' = s.nextSave ∧
            save' = ⟨instanceId, mapId % 2 ^ 16, difficulty, canReset, isLfg, [], []⟩) ∨
          s.saves.find? address' = some save' := by
        intro address' save' hread
        rw [OrderedMap.find?_insert] at hread
        grind
      have hempty : ∀ guid' difficulty' key', ¬ s.BoundAt guid' difficulty' key' s.nextSave := by
        rintro guid' difficulty' key' ⟨bind, hslot, hto⟩
        obtain ⟨address', save', hto', hfound, -⟩ := h.kept _ _ _ _ hslot
        obtain rfl := Option.some.inj (hto.symm.trans hto')
        rw [hfresh] at hfound
        cases hfound
      refine ⟨⟨?_, ?_, ?_⟩, ?_, ?_, ?_⟩
      · intro address' save' hread
        rcases hreads address' save' hread with ⟨rfl, rfl⟩ | hold
        · exact List.nodup_nil
        · exact h.once _ _ hold
      · intro address' save' hread guid'
        rcases hreads address' save' hread with ⟨rfl, rfl⟩ | hold
        · exact ⟨fun hmem => absurd hmem List.not_mem_nil,
            fun hbound => (hempty guid' _ _ hbound).elim⟩
        · exact h.listed address' save' hold guid'
      · intro guid' difficulty' key' bind' hslot
        obtain ⟨address', save', hto, hfound, hd, hk⟩ := h.kept _ _ _ _ hslot
        refine ⟨address', save', hto, ?_, hd, hk⟩
        refine (OrderedMap.find?_insert ..).trans ((if_neg ?_).trans hfound)
        rintro rfl
        rw [hfresh] at hfound
        cases hfound
      · intro address' save' address'' save'' hread hread' hsame
        rcases hreads address' save' hread with ⟨rfl, rfl⟩ | hold
        · rcases hreads address'' save'' hread' with ⟨rfl, -⟩ | hold'
          · rfl
          · exact absurd hsame.symm (hnone _ _ hold')
        · rcases hreads address'' save'' hread' with ⟨rfl, rfl⟩ | hold'
          · exact absurd hsame (hnone _ _ hold)
          · exact h.distinct _ _ _ _ hold hold' hsame
      · intro address' save' hread
        rcases hreads address' save' hread with ⟨rfl, -⟩ | hold
        · exact Nat.lt_succ_self _
        · exact (h.fresh _ _ hold).trans (Nat.lt_succ_self _)
      · intro address' save' hread
        rcases hreads address' save' hread with ⟨-, rfl⟩ | hold
        · exact Nat.mod_lt _ (by decide)
        · exact h.mapId_lt _ _ hold

theorem groups_unloadIfEmpty (s : State) (address : Nat) (save : InstanceSave) (locked : Bool)
    (maps : Maps) : (s.unloadIfEmpty address save locked maps).groups = s.groups := by
  unfold State.unloadIfEmpty
  split
  · rfl
  · rfl

theorem find?_unloadIfEmpty (s : State) (address : Nat) (save : InstanceSave) (locked : Bool)
    (maps : Maps) {address' : Nat} (hne : address' ≠ address) :
    (s.unloadIfEmpty address save locked maps).saves.find? address' = s.saves.find? address' := by
  unfold State.unloadIfEmpty
  split
  · exact (OrderedMap.find?_erase ..).trans (if_neg hne)
  · exact (OrderedMap.find?_insert ..).trans (if_neg hne)

theorem eq_of_find?_unloadIfEmpty {locked : Bool} {save' : InstanceSave}
    (h : (s.unloadIfEmpty address save locked maps).saves.find? address = some save') :
    save' = save := by
  unfold State.unloadIfEmpty at h
  split at h
  · have herase := (OrderedMap.find?_erase ..).symm.trans h
    rw [if_pos rfl] at herase
    cases herase
  · have hinsert := (OrderedMap.find?_insert ..).symm.trans h
    rw [if_pos rfl] at hinsert
    exact (Option.some.inj hinsert).symm

theorem unloadIfEmpty_setGroup (s : State) (address : Nat) (save : InstanceSave) (locked : Bool)
    (maps : Maps) (guid : Nat) (group : Group) :
    (s.setGroup guid group).unloadIfEmpty address save locked maps =
      (s.unloadIfEmpty address save locked maps).setGroup guid group := by
  unfold State.unloadIfEmpty
  split
  · rfl
  · rfl

/-! ### Binds -/

/-- The flags of a group, and the instances and flags of the saves, are those of before. -/
structure Follows (guid : Nat) (s s' : State) : Prop where
  saves : ∀ address save', s'.saves.find? address = some save' →
    ∃ save, s.saves.find? address = some save ∧ save'.instanceId = save.instanceId ∧
      save'.isLfg = save.isLfg
  group : ∀ group, s.groups.find? guid = some group →
    ∃ group', s'.groups.find? guid = some group' ∧ group'.isLFGGroup = group.isLFGGroup ∧
      group'.isPermanentLFGDungeon = group.isPermanentLFGDungeon

theorem Follows.refl (guid : Nat) (s : State) : Follows guid s s :=
  ⟨fun _ save hread => ⟨save, hread, rfl, rfl⟩, fun group hgroup => ⟨group, hgroup, rfl, rfl⟩⟩

theorem Follows.trans {s' s'' : State} (h : Follows guid s s') (h' : Follows guid s' s'') :
    Follows guid s s'' := by
  constructor
  · intro address save'' hread
    obtain ⟨save', hread', hid', hlfg'⟩ := h'.saves address save'' hread
    obtain ⟨save, hread, hid, hlfg⟩ := h.saves address save' hread'
    exact ⟨save, hread, hid'.trans hid, hlfg'.trans hlfg⟩
  · intro group hgroup
    obtain ⟨group', hgroup', hlfg, hpermanent⟩ := h.group group hgroup
    obtain ⟨group'', hgroup'', hlfg', hpermanent'⟩ := h'.group group' hgroup'
    exact ⟨group'', hgroup'', hlfg'.trans hlfg, hpermanent'.trans hpermanent⟩

theorem follows_setSave {changed : InstanceSave} (hfind : s.saves.find? address = some save)
    (hid : changed.instanceId = save.instanceId) (hlfg : changed.isLfg = save.isLfg) :
    Follows guid s (s.setSave address changed) := by
  refine ⟨fun address' save' hread => ?_, fun group hgroup => ⟨group, hgroup, rfl, rfl⟩⟩
  rw [State.find?_setSave] at hread
  by_cases hsame : address' = address
  · subst hsame
    rw [if_pos rfl] at hread
    obtain rfl := Option.some.inj hread
    exact ⟨save, hfind, hid, hlfg⟩
  · rw [if_neg hsame] at hread
    exact ⟨save', hread, rfl, rfl⟩

theorem follows_unloadIfEmpty {changed : InstanceSave} {locked : Bool}
    (hfind : s.saves.find? address = some save) (hid : changed.instanceId = save.instanceId)
    (hlfg : changed.isLfg = save.isLfg) :
    Follows guid s (s.unloadIfEmpty address changed locked maps) := by
  constructor
  · intro address' save' hread
    by_cases hsame : address' = address
    · subst hsame
      obtain rfl := eq_of_find?_unloadIfEmpty hread
      exact ⟨save, hfind, hid, hlfg⟩
    · rw [find?_unloadIfEmpty _ _ _ _ _ hsame] at hread
      exact ⟨save', hread, rfl, rfl⟩
  · intro group hgroup
    rw [groups_unloadIfEmpty]
    exact ⟨group, hgroup, rfl, rfl⟩

theorem follows_setGroup {changed : Group} (hgroup : s.groups.find? guid = some group)
    (hlfg : changed.isLFGGroup = group.isLFGGroup)
    (hpermanent : changed.isPermanentLFGDungeon = group.isPermanentLFGDungeon) :
    Follows guid s (s.setGroup guid changed) := by
  refine ⟨fun _ save hread => ⟨save, hread, rfl, rfl⟩, fun group' hgroup' => ?_⟩
  obtain rfl := Option.some.inj (hgroup.symm.trans hgroup')
  exact ⟨changed, OrderedMap.find?_insert_self .., hlfg, hpermanent⟩

/-- A bind of a group is taken back by its save, and erased. -/
theorem Good.removeGroup (h : Good s) (hgroup : s.groups.find? guid = some group)
    (hbind : group.bind difficulty key = some bind) (hsave : bind.save = some address)
    (locked : Bool) (maps : Maps) :
    ∃ s' save, s.saves.find? address = some save ∧ s.removeGroup address guid locked maps = some s' ∧
      s' = s.unloadIfEmpty address { save with groupList := save.groupList.filter (· ≠ guid) }
        locked maps ∧
      Good (s'.setGroup guid (group.eraseBind difficulty key)) ∧
      Follows guid s (s'.setGroup guid (group.eraseBind difficulty key)) := by
  have hslot : s.slot guid difficulty key = some bind := (State.slot_of_group hgroup).trans hbind
  obtain ⟨address', save, hsave', hfind, -, -⟩ := h.kept _ _ _ _ hslot
  obtain rfl := Option.some.inj (hsave.symm.trans hsave')
  refine ⟨_, save, hfind, ?_, rfl, ?_, ?_⟩
  · unfold State.removeGroup
    rw [hfind]
  · rw [← unloadIfEmpty_setGroup]
    refine Good.unloadIfEmpty ?_ locked maps
    exact h.unlink hslot hsave hfind (fun _ _ _ => State.slot_eraseBind hgroup ..)
      (fun _ => State.find?_setSave ..) rfl
  · have hgroup' : (s.unloadIfEmpty address { save with
        groupList := save.groupList.filter (· ≠ guid) } locked maps).groups.find? guid =
          some group := by
      rw [groups_unloadIfEmpty]
      exact hgroup
    refine Follows.trans ?_ (follows_setGroup hgroup' rfl rfl)
    exact follows_unloadIfEmpty hfind rfl rfl

/-- A group with the flag of the save is bound to it. -/
theorem Good.bindToInstance (h : Good s) (hgroup : s.groups.find? guid = some group)
    (hfind : s.saves.find? address = some save)
    (hflag : group.isBattleGroup = false → group.isNonPermanentLFGGroup = save.isLfg)
    (permanent : Bool) (maps : Maps) :
    ∃ s', s.bindToInstance guid address permanent maps = some s' ∧ Good s' ∧
      Follows guid s s' := by
  unfold State.bindToInstance
  rw [hgroup]
  dsimp only
  by_cases hbattle : group.isBattleGroup = true
  · rw [if_pos hbattle]
    exact ⟨s, rfl, h, .refl guid s⟩
  rw [if_neg hbattle, hfind]
  dsimp only
  have hkey : instanceSaveKey save.mapId group.isNonPermanentLFGGroup = save.key := by
    rw [hflag (Bool.eq_false_iff.mpr hbattle)]
    rfl
  rw [hkey]
  have hslot : s.slot guid save.difficulty save.key = group.bind save.difficulty save.key :=
    State.slot_of_group hgroup
  cases hbound : group.bind save.difficulty save.key with
  | none =>
    have hnone : ((none : Option InstanceGroupBind).bind InstanceGroupBind.save) = none := rfl
    rw [hnone, if_neg (by simp)]
    unfold State.addGroup
    simp only [Option.bind_some, hfind]
    refine ⟨_, rfl, ?_, ?_⟩
    · exact h.link hfind (hslot.trans hbound) rfl (fun _ _ _ => State.slot_setBind hgroup ..)
        (fun _ => State.find?_setSave ..) rfl
    · refine Follows.trans ?_ (follows_setGroup hgroup rfl rfl)
      exact follows_setSave hfind rfl rfl
  | some bind =>
    obtain ⟨old, oldSave, hto, hfound, -⟩ := h.kept _ _ _ _ (hslot.trans hbound)
    have hold : ((some bind).bind InstanceGroupBind.save) = some old := hto
    rw [hold]
    by_cases hsame : old = address
    · subst hsame
      rw [if_pos rfl]
      refine ⟨_, rfl, ?_, follows_setGroup hgroup rfl rfl⟩
      refine h.congr (fun guid' difficulty' key' => ?_)
        (fun a found hread => ⟨found, hread, rfl, rfl, rfl, rfl, rfl⟩)
        (fun a found hread => Option.isSome_iff_exists.mpr ⟨found, hread⟩) rfl
      rw [State.slot_setBind hgroup]
      split
      · next hself =>
          obtain ⟨rfl, rfl, rfl⟩ := hself
          rw [hslot, hbound]
          exact congrArg some hto.symm
      · rfl
    · rw [if_neg (fun heq => hsame (Option.some.inj heq))]
      obtain ⟨s', oldSave', hfound', hremove, heq, hgood, hfollows⟩ :=
        h.removeGroup hgroup hbound hto false maps
      have hgroups : s'.groups = s.groups := by
        rw [heq]
        exact groups_unloadIfEmpty ..
      have hgroup' : s'.groups.find? guid = some group := by
        rw [hgroups]
        exact hgroup
      have hfind' : s'.saves.find? address = some save := by
        rw [heq, find?_unloadIfEmpty _ _ _ _ _ (Ne.symm hsame)]
        exact hfind
      dsimp only
      rw [hremove]
      unfold State.addGroup
      simp only [Option.bind_some, hfind']
      refine ⟨_, rfl, ?_, ?_⟩
      · have hto' : InstanceGroupBind.save ⟨some address, permanent⟩ = some address := rfl
        refine hgood.link hfind' ?_ hto' (fun guid' difficulty' key' => ?_)
          (fun _ => State.find?_setSave ..) rfl
        · rw [State.slot_eraseBind hgroup', if_pos ⟨rfl, rfl, rfl⟩]
        · refine (State.slot_setBind hgroup' ..).trans ?_
          rw [State.slot_eraseBind hgroup']
          split
          · rfl
          · rfl
      · have hlater : Follows guid s s' := by
          rw [heq]
          exact follows_unloadIfEmpty hfound' rfl rfl
        refine hlater.trans (Follows.trans ?_ (follows_setGroup hgroup' rfl rfl))
        exact follows_setSave hfind' rfl rfl

/-- A group's entry changes beside its binds. -/
theorem Good.setGroup (h : Good s) {changed : Group} (hgroup : s.groups.find? guid = some group)
    (hbinds : changed.boundInstances = group.boundInstances) : Good (s.setGroup guid changed) := by
  refine h.congr (fun guid' difficulty' key' => ?_)
    (fun a found hread => ⟨found, hread, rfl, rfl, rfl, rfl, rfl⟩)
    (fun a found hread => Option.isSome_iff_exists.mpr ⟨found, hread⟩) rfl
  rw [State.slot_setGroup]
  split
  · next hself =>
      subst hself
      rw [State.slot_of_group hgroup]
      unfold Group.bind
      rw [hbinds]
  · rfl

theorem Good.createGroup (h : Good s) (guid : Nat) (isBattleGroup : Bool) :
    Good (s.createGroup guid isBattleGroup) := by
  unfold State.createGroup
  split
  · exact h
  · next hnew =>
      have hnone : s.groups.find? guid = none := Option.not_isSome_iff_eq_none.mp hnew
      refine h.congr (fun guid' difficulty' key' => ?_)
        (fun a found hread => ⟨found, hread, rfl, rfl, rfl, rfl, rfl⟩)
        (fun a found hread => Option.isSome_iff_exists.mpr ⟨found, hread⟩) rfl
      rw [State.slot_setGroup]
      split
      · next hself =>
          subst hself
          unfold State.slot
          rw [hnone]
          rfl
      · rfl

theorem Good.convert (h : Good s) (guid : Nat) (isLFGGroup isPermanentLFGDungeon : Bool) :
    Good (s.convert guid isLFGGroup isPermanentLFGDungeon) := by
  unfold State.convert
  cases hgroup : s.groups.find? guid with
  | none => exact h
  | some group => exact h.setGroup hgroup rfl

theorem Good.setDungeonDifficulty (h : Good s) (guid difficulty : Nat) :
    Good (s.setDungeonDifficulty guid difficulty) := by
  unfold State.setDungeonDifficulty
  cases hgroup : s.groups.find? guid with
  | none => exact h
  | some group => exact h.setGroup hgroup rfl

/-! ### Dropped binds -/

theorem mem_boundInstances {e : Nat × InstanceGroupBind}
    (h : e ∈ (group.boundInstances difficulty).entries) : group.bind difficulty e.1 = some e.2 :=
  OrderedMap.find?_eq_some_iff.mpr h

/-- The loop over binds of one difficulty. -/
theorem Good.dropBinds (h : Good s) (hgroup : s.groups.find? guid = some group)
    (test : InstanceGroupBind → InstanceSave → Bool) (maps : Maps)
    {entries : List (Nat × InstanceGroupBind)}
    (hentries : ∀ e ∈ entries, group.bind difficulty e.1 = some e.2)
    (hkeys : (entries.map Prod.fst).Nodup) :
    ∃ s', State.dropBinds guid difficulty test maps entries s = some s' ∧ Good s' ∧
      Follows guid s s' := by
  induction entries generalizing s group with
  | nil => exact ⟨s, rfl, h, .refl guid s⟩
  | cons e rest ih =>
    obtain ⟨key, bind⟩ := e
    rw [List.map_cons, List.nodup_cons] at hkeys
    have hbind : group.bind difficulty key = some bind := hentries _ List.mem_cons_self
    obtain ⟨address, save, hto, hfind, -⟩ :=
      h.kept _ _ _ _ ((State.slot_of_group hgroup).trans hbind)
    simp only [State.dropBinds, hto, hgroup, hfind]
    by_cases htest : test bind save = true
    · rw [if_pos htest]
      obtain ⟨s', -, -, hremove, heq, hgood, hfollows⟩ :=
        h.removeGroup hgroup hbind hto false maps
      rw [hremove, Option.bind_some]
      have hrest : ∀ e ∈ rest, (group.eraseBind difficulty key).bind difficulty e.1 = some e.2 := by
        intro e he
        rw [Group.bind_eraseBind, if_neg]
        · exact hentries e (List.mem_cons_of_mem _ he)
        · rintro ⟨-, hsame⟩
          exact hkeys.1 (List.mem_map.mpr ⟨e, he, hsame⟩)
      obtain ⟨s'', hloop, hgood', hfollows'⟩ :=
        ih hgood (OrderedMap.find?_insert_self ..) hrest hkeys.2
      exact ⟨s'', hloop, hgood', hfollows.trans hfollows'⟩
    · rw [if_neg htest]
      exact ih h hgroup (fun e he => hentries e (List.mem_cons_of_mem _ he)) hkeys.2

/-- The loop over all binds of one difficulty. -/
theorem Good.dropDifficulty (h : Good s) (hgroup : s.groups.find? guid = some group)
    (difficulty : Nat) (test : InstanceGroupBind → InstanceSave → Bool) (maps : Maps) :
    ∃ s', State.dropBinds guid difficulty test maps (group.boundInstances difficulty).entries s =
      some s' ∧ Good s' ∧ Follows guid s s' :=
  h.dropBinds hgroup test maps (fun _ he => mem_boundInstances he) (OrderedMap.nodup_keys _)

theorem Good.resetInstances (h : Good s) (guid : Nat) (method : InstanceResetMethod)
    (isRaid : Bool) (mapIsRaid : Nat → Option Bool) (emptied : Nat → Bool) (maps : Maps) :
    ∃ s', s.resetInstances guid method isRaid mapIsRaid emptied maps = some s' ∧ Good s' := by
  unfold State.resetInstances
  cases hgroup : s.groups.find? guid with
  | none => exact ⟨s, rfl, h⟩
  | some group =>
    dsimp only
    split
    · exact ⟨s, rfl, h⟩
    · obtain ⟨s', hloop, hgood, -⟩ := h.dropDifficulty hgroup (group.getDifficulty isRaid)
        (fun _ save => resets method isRaid (group.getDifficulty isRaid) mapIsRaid emptied save) maps
      exact ⟨s', hloop, hgood⟩

theorem Good.dropPermanent (h : Good s) (hgroup : s.groups.find? guid = some group) (maps : Maps)
    (difficulties : List Nat) :
    ∃ s', State.dropPermanent guid maps difficulties s = some s' ∧ Good s' ∧ Follows guid s s' := by
  induction difficulties generalizing s group with
  | nil => exact ⟨s, rfl, h, .refl guid s⟩
  | cons difficulty rest ih =>
    obtain ⟨s', hloop, hgood, hfollows⟩ := h.dropDifficulty hgroup difficulty
      (fun bind save => bind.perm && !maps.loaded save.instanceId) maps
    obtain ⟨group', hgroup', -⟩ := hfollows.group group hgroup
    obtain ⟨s'', hrest, hgood', hfollows'⟩ := ih hgood hgroup'
    refine ⟨s'', ?_, hgood', hfollows.trans hfollows'⟩
    simp only [State.dropPermanent, hgroup, hloop, Option.bind_some]
    exact hrest

/-! ### Leader -/

theorem follows_removePlayer (s : State) (guid address player : Nat) (maps : Maps) :
    Follows guid s (s.removePlayer address player maps) := by
  unfold State.removePlayer
  cases hfind : s.saves.find? address with
  | none => exact .refl guid s
  | some save => exact follows_unloadIfEmpty hfind rfl rfl

theorem Follows.getInstanceSave {s' : State} (h : Follows guid s s') (hgood : Good s)
    {instanceId : Nat} {e' : Nat × InstanceSave}
    (hget : s'.getInstanceSave instanceId = some e') :
    ∃ e, s.getInstanceSave instanceId = some e ∧ e'.2.isLfg = e.2.isLfg := by
  obtain ⟨hfound, hid⟩ := getInstanceSave_eq_some hget
  obtain ⟨save, hfind, hsame, hlfg⟩ := h.saves _ _ hfound
  refine ⟨(e'.1, save), ?_, hlfg⟩
  rw [← hid, hsame]
  exact hgood.getInstanceSave hfind

/-- A group that is not of the dungeon finder takes over binds to saves that are not. -/
theorem Good.convertInstancesToGroup (h : Good s) (hgroup : s.groups.find? guid = some group)
    (hnormal : group.isLFGGroup = false) (player : Nat) (maps : Maps) {binds : List (Nat × Bool)}
    (hbinds : ∀ b ∈ binds, ∀ e, s.getInstanceSave b.1 = some e → e.2.isLfg = false) :
    ∃ s', State.convertInstancesToGroup player guid maps binds s = some s' ∧ Good s' := by
  induction binds generalizing s group with
  | nil => exact ⟨s, rfl, h⟩
  | cons b rest ih =>
    obtain ⟨instanceId, perm⟩ := b
    unfold State.convertInstancesToGroup
    have hrest : ∀ b ∈ rest, ∀ e, s.getInstanceSave b.1 = some e → e.2.isLfg = false :=
      fun b hb => hbinds b (List.mem_cons_of_mem _ hb)
    cases hget : s.getInstanceSave instanceId with
    | none => exact ih h hgroup hnormal hrest
    | some e =>
      obtain ⟨hfind, -⟩ := getInstanceSave_eq_some hget
      have hlfg : e.2.isLfg = false := hbinds _ List.mem_cons_self e hget
      have hflag : group.isNonPermanentLFGGroup = e.2.isLfg := by
        unfold Group.isNonPermanentLFGGroup
        rw [hnormal, hlfg]
        rfl
      obtain ⟨s', hbind, hgood, hfollows⟩ :=
        h.bindToInstance hgroup hfind (fun _ => hflag) perm maps
      dsimp only
      rw [hbind, Option.bind_some]
      have hnext : Good (if perm then s' else s'.removePlayer e.1 player maps) ∧
          Follows guid s (if perm then s' else s'.removePlayer e.1 player maps) := by
        split
        · exact ⟨hgood, hfollows⟩
        · exact ⟨hgood.removePlayer _ _ _, hfollows.trans (follows_removePlayer ..)⟩
      obtain ⟨hgood', hfollows'⟩ := hnext
      obtain ⟨group', hgroup', hsame, -⟩ := hfollows'.group group hgroup
      refine ih hgood' hgroup' (hsame.trans hnormal) fun b hb e' hget' => ?_
      obtain ⟨e, hold, hlfg'⟩ := hfollows'.getInstanceSave h hget'
      exact hlfg'.trans (hrest b hb e hold)

theorem Good.changeLeader (h : Good s) {binds : List (Nat × Bool)} (newLeader : Nat) (maps : Maps)
    (hkeeps : ∀ group, s.groups.find? guid = some group → group.isBattleGroup = false →
      group.isLFGGroup = false →
        ∀ b ∈ binds, ∀ e, s.getInstanceSave b.1 = some e → e.2.isLfg = false) :
    ∃ s', s.changeLeader guid newLeader binds maps = some s' ∧ Good s' := by
  unfold State.changeLeader
  cases hgroup : s.groups.find? guid with
  | none => exact ⟨s, rfl, h⟩
  | some group =>
    dsimp only
    by_cases hbattle : group.isBattleGroup = true
    · rw [if_pos hbattle]
      exact ⟨s, rfl, h⟩
    · rw [if_neg hbattle]
      obtain ⟨s', hdrop, hgood, hfollows⟩ := h.dropPermanent hgroup maps (List.range 4)
      rw [hdrop, Option.bind_some]
      by_cases hlfg : group.isLFGGroup = true
      · rw [if_pos hlfg]
        exact ⟨s', rfl, hgood⟩
      · rw [if_neg hlfg]
        have hnormal := Bool.eq_false_iff.mpr hlfg
        obtain ⟨group', hgroup', hsame, -⟩ := hfollows.group group hgroup
        refine hgood.convertInstancesToGroup hgroup' (hsame.trans hnormal) newLeader maps ?_
        intro b hb e' hget
        obtain ⟨e, hold, hlfg'⟩ := hfollows.getInstanceSave h hget
        exact hlfg'.trans (hkeeps group hgroup (Bool.eq_false_iff.mpr hbattle) hnormal b hb e hold)

/-! ### Resets -/

theorem Good.unbindInstance (h : Good s) (guid mapId difficulty : Nat) (isLfgId locked : Bool)
    (maps : Maps) :
    ∃ s', s.unbindInstance guid mapId difficulty isLfgId locked maps = some s' ∧ Good s' := by
  unfold State.unbindInstance
  cases hgroup : s.groups.find? guid with
  | none => exact ⟨s, rfl, h⟩
  | some group =>
    dsimp only
    cases hbind : group.bind difficulty (instanceSaveKey mapId isLfgId) with
    | none => exact ⟨s, rfl, h⟩
    | some bind =>
      obtain ⟨address, save, hto, -⟩ :=
        h.kept _ _ _ _ ((State.slot_of_group hgroup).trans hbind)
      obtain ⟨s', -, -, hremove, -, hgood, -⟩ :=
        h.removeGroup hgroup hbind hto locked maps
      dsimp only
      rw [hto]
      dsimp only
      rw [hremove]
      exact ⟨_, rfl, hgood⟩

/-- A save under reset that lists `guids`. -/
def InstanceSave.listing (save : InstanceSave) (guids : List Nat) : InstanceSave :=
  { save with playerList := [], groupList := guids }

/-- The groups of a list unbind one after the other, and the list is empty at the end. -/
theorem Good.unbindGroups {guids : List Nat} (h : Good s)
    (hfind : s.saves.find? address = some (save.listing guids)) (maps : Maps) :
    ∃ s', State.unbindGroups save maps guids s = some s' ∧ Good s' ∧
      s'.saves.find? address = some (save.listing []) := by
  induction guids generalizing s with
  | nil => exact ⟨s, rfl, h, hfind⟩
  | cons guid rest ih =>
    obtain ⟨bind, hslot, hto⟩ :=
      (h.listed address _ hfind guid).mp (List.mem_cons_self (l := rest))
    obtain ⟨group, hgroup, hbind⟩ := Option.bind_eq_some_iff.mp hslot
    obtain ⟨s', save', hfind', hremove, heq, hgood, -⟩ :=
      h.removeGroup hgroup hbind hto true maps
    obtain rfl := Option.some.inj (hfind.symm.trans hfind')
    have hnodup := List.nodup_cons.mp (h.once address _ hfind)
    have hfilter : (guid :: rest).filter (· ≠ guid) = rest := by
      rw [List.filter_cons_of_neg (by simp)]
      refine List.filter_eq_self.mpr fun other hother => ?_
      have hne : other ≠ guid := by
        rintro rfl
        exact hnodup.1 hother
      simpa using hne
    have hunbind : s.unbindInstance guid save.mapId save.difficulty save.isLfg true maps =
        some (s'.setGroup guid (group.eraseBind save.difficulty save.key)) := by
      have hkey : group.bind save.difficulty (instanceSaveKey save.mapId save.isLfg) = some bind :=
        hbind
      unfold State.unbindInstance
      simp only [hgroup, hkey, hto, hremove]
      rfl
    have hlisting : s'.saves.find? address = some (save.listing rest) := by
      rw [heq]
      unfold State.unloadIfEmpty
      rw [Bool.not_true, Bool.and_false, if_neg Bool.false_ne_true, State.find?_setSave, if_pos rfl]
      have hrest : (save.listing (guid :: rest)).groupList.filter (· ≠ guid) = rest := hfilter
      rw [hrest]
      rfl
    obtain ⟨s'', hloop, hgood', hempty⟩ := ih hgood hlisting
    refine ⟨s'', ?_, hgood', hempty⟩
    rw [State.unbindGroups, hunbind, Option.bind_some]
    exact hloop

/-- A reset empties the list of groups before it deletes the save. -/
theorem Good.resetSave (h : Good s) (address : Nat) (maps : Maps) :
    ∃ s', s.resetSave address maps = some s' ∧ Good s' := by
  unfold State.resetSave
  cases hfind : s.saves.find? address with
  | none => exact ⟨s, rfl, h⟩
  | some save =>
    have hstart : Good (s.setSave address (save.listing save.groupList)) := h.setPlayers hfind []
    obtain ⟨s', hloop, hgood, hempty⟩ :=
      hstart.unbindGroups ((State.find?_setSave ..).trans (if_pos rfl)) maps
    have hgroups : State.unbindGroups save maps save.groupList
        (s.setSave address { save with playerList := [] }) = some s' := hloop
    dsimp only
    rw [hgroups, Option.bind_some, hempty]
    refine ⟨_, if_pos rfl, hgood.delete hempty rfl (fun _ _ _ => rfl) (fun address' => ?_) rfl⟩
    exact OrderedMap.find?_erase ..

theorem Good.resetInstance (h : Good s) (instanceId : Nat) (maps : Maps) :
    ∃ s', s.resetInstance instanceId maps = some s' ∧ Good s' := by
  unfold State.resetInstance
  cases s.getInstanceSave instanceId with
  | none => exact ⟨s, rfl, h⟩
  | some e => exact h.resetSave e.1 maps

theorem Good.resetSaves (h : Good s) (mapId difficulty : Nat) (maps : Maps)
    (addresses : List Nat) :
    ∃ s', State.resetSaves mapId difficulty maps addresses s = some s' ∧ Good s' := by
  induction addresses generalizing s with
  | nil => exact ⟨s, rfl, h⟩
  | cons address rest ih =>
    unfold State.resetSaves
    dsimp only
    split
    · obtain ⟨s', hreset, hgood⟩ := h.resetSave address maps
      rw [hreset, Option.bind_some]
      exact ih hgood
    · exact ih h

/-! ### Difficulty -/

/-- A group whose binds to maps of a list are erased at a difficulty. -/
def Group.eraseMaps (difficulty : Nat) (mapIds : List Nat) (group : Group) : Group :=
  mapIds.foldl (fun group mapId => group.eraseBind difficulty mapId) group

theorem Group.bind_eraseMaps (difficulty : Nat) (mapIds : List Nat) (group : Group)
    (difficulty' key' : Nat) :
    (group.eraseMaps difficulty mapIds).bind difficulty' key' =
      if difficulty' = difficulty ∧ key' ∈ mapIds then none
      else group.bind difficulty' key' := by
  induction mapIds generalizing group with
  | nil => simp [Group.eraseMaps]
  | cons mapId rest ih =>
    refine (ih (group.eraseBind difficulty mapId)).trans ?_
    rw [Group.bind_eraseBind]
    by_cases hd : difficulty' = difficulty
    · by_cases hmem : key' ∈ rest
      · simp [hd, hmem]
      · by_cases hkey : key' = mapId
        · simp [hd, hkey]
        · simp [hd, hmem, hkey]
    · simp [hd]

theorem key_of_not_isLfg (hmap : save.mapId < 2 ^ 16) (hlfg : save.isLfg = false) :
    save.key = save.mapId := by
  unfold InstanceSave.key instanceSaveKey
  rw [hlfg]
  have hand : save.mapId &&& 0x00FFFFFF = save.mapId % 2 ^ 24 :=
    Nat.and_two_pow_sub_one_eq_mod save.mapId 24
  have hzero : (false.toNat <<< 24 : Nat) = 0 := rfl
  rw [hand, hzero, Nat.or_zero]
  exact Nat.mod_eq_of_lt (by omega)

/-- The binds that a switch moves go to free slots of another difficulty, and no other group is
bound to their saves. -/
def Movable (ctx : SwitchContext) (guid previousDifficulty newDifficulty : Nat) (s : State)
    (group : Group) (bind : InstanceGroupBind) : Prop :=
  ∀ address save difficulty, bind.save = some address → s.saves.find? address = some save →
    save.isLfg = false → switchTarget ctx save newDifficulty = some difficulty →
      difficulty ≠ previousDifficulty ∧ group.bind difficulty save.key = none ∧
        save.groupList = [guid]

/-- The group once a bind has moved; it stays at the old difficulty until the loop is over. -/
def Group.moveTo (group : Group) (previousDifficulty difficulty key : Nat)
    (bind : InstanceGroupBind) : Group :=
  (group.setBind previousDifficulty key bind).setBind difficulty key bind

theorem Group.bind_moveTo {previousDifficulty key : Nat} {bind : InstanceGroupBind}
    (hbind : group.bind previousDifficulty key = some bind) (difficulty difficulty' key' : Nat) :
    (group.moveTo previousDifficulty difficulty key bind).bind difficulty' key' =
      if difficulty' = difficulty ∧ key' = key then some bind else group.bind difficulty' key' := by
  rw [moveTo, bind_setBind, bind_setBind]
  split
  · rfl
  · split
    · next hself =>
      rw [hself.1, hself.2]
      exact hbind.symm
    · rfl

theorem State.moveBind_eq {previousDifficulty difficulty address : Nat} {bind : InstanceGroupBind}
    (hget : s.getInstanceSave save.instanceId = some (address, save))
    (hbind : group.bind previousDifficulty save.key = some bind)
    (hdiffers : save.difficulty ≠ difficulty) :
    s.moveBind guid group save previousDifficulty difficulty =
      (s.setSave address { save with difficulty }).setGroup guid
        (group.moveTo previousDifficulty difficulty save.key bind) := by
  unfold State.moveBind State.updateDifficulty
  rw [if_pos hdiffers, hget, hbind]
  rfl

/-- A bind that is not erased yet is one of the state. -/
theorem State.slot_eraseMaps {previousDifficulty key : Nat} {erased : List Nat}
    {bind : InstanceGroupBind} (hbind : group.bind previousDifficulty key = some bind)
    (hkey : key ∉ erased) :
    (s.setGroup guid (group.eraseMaps previousDifficulty erased)).slot guid previousDifficulty
      key = some bind := by
  rw [State.slot_setGroup, if_pos rfl, Group.bind_eraseMaps, if_neg fun hboth => hkey hboth.2]
  exact hbind

section Moved

variable {ctx : SwitchContext} {newDifficulty difficulty address : Nat} {erased : List Nat}
  {bind : InstanceGroupBind}

/-- One move keeps the invariant, once the bind at the old difficulty is left out. -/
theorem Good.moveTo
    (h : Good (s.setGroup guid (group.eraseMaps save.difficulty erased)))
    (hbind : group.bind save.difficulty save.key = some bind) (hkey : save.key ∉ erased)
    (hto : bind.save = some address) (hfind : s.saves.find? address = some save)
    (hmapId : save.key = save.mapId) (hne : difficulty ≠ save.difficulty)
    (hfree : group.bind difficulty save.key = none) (halone : save.groupList = [guid]) :
    Good (((s.setSave address { save with difficulty }).setGroup guid
      (group.moveTo save.difficulty difficulty save.key bind)).setGroup guid
        ((group.moveTo save.difficulty difficulty save.key bind).eraseMaps save.difficulty
          (erased ++ [save.mapId]))) := by
  refine h.move hfind ?_ hto halone hne ?_ (fun guid' difficulty' key' => ?_)
    (fun _ => State.find?_setSave ..) rfl
  · exact State.slot_eraseMaps hbind hkey
  · rw [State.slot_setGroup, if_pos rfl, Group.bind_eraseMaps, if_neg fun hboth => hne hboth.1]
    exact hfree
  · by_cases hguid : guid' = guid
    · rw [hguid, State.slot_setGroup, if_pos rfl, State.slot_setGroup, if_pos rfl,
        Group.bind_eraseMaps, Group.bind_eraseMaps, Group.bind_moveTo hbind]
      simp only [List.mem_append, List.mem_singleton, true_and, ← hmapId]
      grind
    · rw [State.slot_setGroup, if_neg hguid, State.slot_setGroup, if_neg hguid,
        State.slot_setGroup, if_neg hguid]
      simp only [hguid, false_and, if_false]
      rfl

/-- Another bind can still be moved afterwards. -/
theorem Movable.moveTo {other : InstanceGroupBind} {key : Nat}
    (hmovable : Movable ctx guid save.difficulty newDifficulty s group other)
    (h : Good (s.setGroup guid (group.eraseMaps save.difficulty erased)))
    (hbind : group.bind save.difficulty save.key = some bind)
    (hfind : s.saves.find? address = some save)
    (hother : group.bind save.difficulty key = some other) (hkey : key ∉ erased)
    (hdistinct : key ≠ save.key) :
    Movable ctx guid save.difficulty newDifficulty
      ((s.setSave address { save with difficulty }).setGroup guid
        (group.moveTo save.difficulty difficulty save.key bind))
      (group.moveTo save.difficulty difficulty save.key bind) other := by
  intro address' save' difficulty' hto' hfind' hlfg' htarget'
  obtain ⟨address'', save'', hto'', hfound, -, hkept⟩ :=
    h.kept _ _ _ _ (State.slot_eraseMaps hother hkey)
  obtain rfl := Option.some.inj (hto'.symm.trans hto'')
  change s.saves.find? address' = some save'' at hfound
  have hapart : address' ≠ address := by
    rintro rfl
    obtain rfl := Option.some.inj (hfind.symm.trans hfound)
    exact hdistinct hkept.symm
  have hread := (State.find?_setSave ..).symm.trans hfind'
  rw [if_neg hapart] at hread
  obtain ⟨hne', hfree', halone'⟩ := hmovable address' save' difficulty' hto' hread hlfg' htarget'
  obtain rfl := Option.some.inj (hread.symm.trans hfound)
  refine ⟨hne', ?_, halone'⟩
  rw [Group.bind_moveTo hbind, if_neg fun hboth => hdistinct (hkept.symm.trans hboth.2)]
  exact hfree'

end Moved

/-- The invariant of the loop: without the moved binds at the old difficulty, all is well. -/
theorem Good.switchBinds {ctx : SwitchContext} {previousDifficulty newDifficulty : Nat}
    {entries : List (Nat × InstanceGroupBind)} {erased : List Nat}
    (hgroup : s.groups.find? guid = some group)
    (h : Good (s.setGroup guid (group.eraseMaps previousDifficulty erased)))
    (hentries : ∀ e ∈ entries, group.bind previousDifficulty e.1 = some e.2 ∧ e.1 ∉ erased)
    (hkeys : (entries.map Prod.fst).Nodup)
    (hmovable : ∀ e ∈ entries, Movable ctx guid previousDifficulty newDifficulty s group e.2) :
    ∃ s' mapToErase group', State.switchBinds ctx guid previousDifficulty newDifficulty entries s =
        some (s', mapToErase) ∧ s'.groups.find? guid = some group' ∧
      Good (s'.setGroup guid (group'.eraseMaps previousDifficulty (erased ++ mapToErase))) := by
  induction entries generalizing s group erased with
  | nil =>
    refine ⟨s, [], group, rfl, hgroup, ?_⟩
    rw [List.append_nil]
    exact h
  | cons e rest ih =>
    obtain ⟨key, bind⟩ := e
    rw [List.map_cons, List.nodup_cons] at hkeys
    obtain ⟨hbind, hkey⟩ : group.bind previousDifficulty key = some bind ∧ key ∉ erased :=
      hentries _ List.mem_cons_self
    have hrest := fun e he => hentries e (List.mem_cons_of_mem _ he)
    have hmovable' := fun e he => hmovable e (List.mem_cons_of_mem _ he)
    obtain ⟨address, save, hto, hfind, rfl, rfl⟩ := h.kept _ _ _ _ (State.slot_eraseMaps hbind hkey)
    change s.saves.find? address = some save at hfind
    simp only [State.switchBinds, hto, hgroup, hfind]
    by_cases hlfg : save.isLfg = true
    · rw [if_pos hlfg]
      exact ih hgroup h hrest hkeys.2 hmovable'
    rw [if_neg hlfg]
    have hnormal := Bool.eq_false_iff.mpr hlfg
    cases htarget : switchTarget ctx save newDifficulty with
    | none => exact ih hgroup h hrest hkeys.2 hmovable'
    | some difficulty =>
      obtain ⟨hne, hfree, halone⟩ :=
        hmovable _ List.mem_cons_self address save difficulty hto hfind hnormal htarget
      have hmapId : save.key = save.mapId :=
        key_of_not_isLfg (h.mapId_lt address save hfind) hnormal
      have hother : ∀ e ∈ rest, e.1 ≠ save.key := fun e he hsame =>
        hkeys.1 (List.mem_map.mpr ⟨e, he, hsame⟩)
      have hstill : ∀ e ∈ rest,
          (group.moveTo save.difficulty difficulty save.key bind).bind save.difficulty e.1 =
            some e.2 ∧ e.1 ∉ erased ++ [save.mapId] := by
        intro e he
        obtain ⟨hbind', hkey'⟩ := hrest e he
        rw [Group.bind_moveTo hbind, if_neg fun hboth => hother e he hboth.2, List.mem_append,
          List.mem_singleton, ← hmapId]
        exact ⟨hbind', fun hmem => hmem.elim hkey' (hother e he)⟩
      have hget : s.getInstanceSave save.instanceId = some (address, save) :=
        h.getInstanceSave hfind
      dsimp only
      rw [State.moveBind_eq hget hbind hne.symm]
      obtain ⟨s', later, group', hloop, hgroup', hgood'⟩ :=
        ih (OrderedMap.find?_insert_self ..)
          (h.moveTo hbind hkey hto hfind hmapId hne hfree halone) hstill hkeys.2
          fun e he => (hmovable' e he).moveTo h hbind hfind (hrest e he).1 (hrest e he).2
            (hother e he)
      refine ⟨s', save.mapId :: later, group', ?_, hgroup', ?_⟩
      · rw [hloop]
        exact Option.map_some ..
      · rw [List.append_cons]
        exact hgood'

theorem Good.switchBoundInstance (h : Good s) {ctx : SwitchContext}
    {previousDifficulty newDifficulty : Nat} {leaderOnline : Bool}
    (hkeeps : leaderOnline = true → ∀ group, s.groups.find? guid = some group →
      ∀ key bind, group.bind previousDifficulty key = some bind →
        Movable ctx guid previousDifficulty newDifficulty s group bind) :
    ∃ s', s.switchBoundInstance guid previousDifficulty newDifficulty leaderOnline ctx = some s' ∧
      Good s' := by
  unfold State.switchBoundInstance
  cases hgroup : s.groups.find? guid with
  | none => exact ⟨s, rfl, h⟩
  | some group =>
    cases leaderOnline with
    | false =>
      refine ⟨s.finishSwitch guid previousDifficulty newDifficulty [], rfl, ?_⟩
      unfold State.finishSwitch
      rw [hgroup]
      exact h.setGroup hgroup rfl
    | true =>
      have hstart : Good (s.setGroup guid (group.eraseMaps previousDifficulty [])) :=
        h.setGroup hgroup rfl
      obtain ⟨s', mapToErase, group', hloop, hgroup', hgood⟩ :=
        Good.switchBinds hgroup hstart
          (fun e he => ⟨mem_boundInstances he, List.not_mem_nil⟩) (OrderedMap.nodup_keys _)
          fun e he => hkeeps rfl group hgroup e.1 e.2 (mem_boundInstances he)
      dsimp only
      rw [if_pos rfl, hloop]
      refine ⟨s'.finishSwitch guid previousDifficulty newDifficulty mapToErase, rfl, ?_⟩
      unfold State.finishSwitch
      rw [hgroup']
      refine hgood.congr (fun guid' difficulty' key' => ?_)
        (fun a found hread => ⟨found, hread, rfl, rfl, rfl, rfl, rfl⟩)
        (fun a found hread => Option.isSome_iff_exists.mpr ⟨found, hread⟩) rfl
      rw [State.slot_setGroup, State.slot_setGroup]
      rfl

/-! ### Runs -/

/-- Binds are made with the flag of the save, and a switch moves what can be moved. -/
def Keeps (s : State) : Operation → Prop
  | .bindToInstance guid instanceId _ _ =>
    ∀ group e, s.groups.find? guid = some group → s.getInstanceSave instanceId = some e →
      group.isBattleGroup = false → group.isNonPermanentLFGGroup = e.2.isLfg
  | .switchBoundInstance guid previousDifficulty newDifficulty _ leaderOnline ctx =>
    leaderOnline = true → ∀ group, s.groups.find? guid = some group →
      ∀ key bind, group.bind previousDifficulty key = some bind →
        Movable ctx guid previousDifficulty newDifficulty s group bind
  | .changeLeader guid _ binds _ =>
    ∀ group, s.groups.find? guid = some group → group.isBattleGroup = false →
      group.isLFGGroup = false →
        ∀ b ∈ binds, ∀ e, s.getInstanceSave b.1 = some e → e.2.isLfg = false
  | .createGroup .. | .addInstanceSave .. | .addPlayer .. | .removePlayer .. | .unbindInstance ..
  | .resetInstances .. | .convert .. | .setDungeonDifficulty .. | .resetInstance .. | .resetAll .. =>
    True

theorem Good.step (h : Good s) {op : Operation} (hkeeps : Keeps s op) :
    ∃ s', s.step op = some s' ∧ Good s' := by
  cases op with
  | createGroup guid isBattleGroup => exact ⟨_, rfl, h.createGroup guid isBattleGroup⟩
  | addInstanceSave mapId instanceId difficulty canReset isLfg valid =>
    exact ⟨_, rfl, h.addInstanceSave mapId instanceId difficulty canReset isLfg valid⟩
  | addPlayer instanceId player =>
    refine ⟨_, rfl, ?_⟩
    cases s.getInstanceSave instanceId with
    | none => exact h
    | some e => exact h.addPlayer e.1 player
  | removePlayer instanceId player maps =>
    refine ⟨_, rfl, ?_⟩
    cases s.getInstanceSave instanceId with
    | none => exact h
    | some e => exact h.removePlayer e.1 player maps
  | bindToInstance guid instanceId permanent maps =>
    change ∃ s', ((s.getInstanceSave instanceId).elim (some s) fun e =>
      s.bindToInstance guid e.1 permanent maps) = some s' ∧ Good s'
    cases hget : s.getInstanceSave instanceId with
    | none => exact ⟨s, rfl, h⟩
    | some e =>
      cases hgroup : s.groups.find? guid with
      | none =>
        refine ⟨s, ?_, h⟩
        change s.bindToInstance guid e.1 permanent maps = some s
        unfold State.bindToInstance
        rw [hgroup]
      | some group =>
        obtain ⟨hfind, -⟩ := getInstanceSave_eq_some hget
        obtain ⟨s', hbind, hgood, -⟩ :=
          h.bindToInstance hgroup hfind (hkeeps group e hgroup hget) permanent maps
        exact ⟨s', hbind, hgood⟩
  | unbindInstance guid mapId difficulty isLfgId maps =>
    exact h.unbindInstance guid mapId difficulty isLfgId false maps
  | switchBoundInstance guid previousDifficulty newDifficulty different leaderOnline ctx =>
    exact h.switchBoundInstance hkeeps
  | changeLeader guid newLeader binds maps => exact h.changeLeader newLeader maps hkeeps
  | resetInstances guid method isRaid mapIsRaid emptied maps =>
    exact h.resetInstances guid method isRaid mapIsRaid emptied maps
  | convert guid isLFGGroup isPermanentLFGDungeon =>
    exact ⟨_, rfl, h.convert guid isLFGGroup isPermanentLFGDungeon⟩
  | setDungeonDifficulty guid difficulty => exact ⟨_, rfl, h.setDungeonDifficulty guid difficulty⟩
  | resetInstance instanceId maps => exact h.resetInstance instanceId maps
  | resetAll mapId difficulty maps => exact h.resetSaves mapId difficulty maps s.saves.keys

theorem good_empty : Good State.empty := by
  refine ⟨⟨?_, ?_, ?_⟩, ?_, ?_, ?_⟩
  · intro address save hread
    cases hread
  · intro address save hread
    cases hread
  · intro guid difficulty key bind hslot
    cases hslot
  · intro address save address' save' hread
    cases hread
  · intro address save hread
    cases hread
  · intro address save hread
    cases hread

/-- The condition on a step, in a state that there is. -/
def KeepsFrom (s : Option State) (op : Operation) : Prop := ∀ s', s = some s' → Keeps s' op

/-- Such a run never fails, and the binds and the lists are symmetric in every state of it. -/
theorem symmetric_of_run {ops : List Operation}
    (h : Runs.Admissible stepFrom KeepsFrom (some State.empty) ops) {before : List Operation}
    (hbefore : before <+: ops) :
    ∃ s, Runs.run stepFrom (some State.empty) before = some s ∧ Symmetric s := by
  have hgood : ∃ s, Runs.run stepFrom (some State.empty) before = some s ∧ Good s := by
    refine h.invariant (P := fun s => ∃ s', s = some s' ∧ Good s') ?_ ⟨_, rfl, good_empty⟩ hbefore
    rintro s op ⟨s', rfl, hs⟩ hkeeps
    exact hs.step (hkeeps s' rfl)
  obtain ⟨s, hrun, hs⟩ := hgood
  exact ⟨s, hrun, hs.toSymmetric⟩

/-! ### A raid group with one map -/

/-- No map is loaded. -/
def noMaps : Maps := ⟨fun _ => false, fun _ => false⟩

/-- A leader with every achievement, and maps with all four raid difficulties. -/
def anySwitch : SwitchContext := ⟨fun _ difficulty => difficulty < 4, fun _ => 0, fun _ => true⟩

theorem ten_ne_twentyFive : (0 : Nat) ≠ 1 := by decide

/-- A group is bound to one instance, which changes its difficulty and is reset. -/
def switchedRaid : List Operation :=
  [.createGroup 1 false, .addInstanceSave 631 10 0 false false true,
    .bindToInstance 1 10 true noMaps, .switchBoundInstance 1 0 1 ten_ne_twentyFive true anySwitch,
    .resetAll 631 1 noMaps]

/-- The state before the switch. -/
theorem switchedRaid_bound :
    ∃ s, Runs.run stepFrom (some State.empty) (switchedRaid.take 3) = some s ∧
    s.saves.entries = [(0, ⟨10, 631, 0, false, false, [], [1]⟩)] ∧
    (s.groups.find? 1).map (fun group => (group.boundInstances 0).entries) =
      some [(631, ⟨some 0, true⟩)] ∧
    (s.groups.find? 1).map (fun group => (group.boundInstances 1).entries) = some [] := by
  have hsome : (Runs.run stepFrom (some State.empty) (switchedRaid.take 3)).isSome = true := by
    decide +kernel
  obtain ⟨s, hs⟩ := Option.isSome_iff_exists.mp hsome
  have hsaves : (Runs.run stepFrom (some State.empty) (switchedRaid.take 3)).map
      (fun s => s.saves.entries) = some [(0, ⟨10, 631, 0, false, false, [], [1]⟩)] := by
    decide +kernel
  have hold : (Runs.run stepFrom (some State.empty) (switchedRaid.take 3)).map (fun s =>
      (s.groups.find? 1).map fun group => (group.boundInstances 0).entries) =
      some (some [(631, ⟨some 0, true⟩)]) := by
    decide +kernel
  have hnew : (Runs.run stepFrom (some State.empty) (switchedRaid.take 3)).map (fun s =>
      (s.groups.find? 1).map fun group => (group.boundInstances 1).entries) =
      some (some []) := by
    decide +kernel
  rw [hs] at hsaves hold hnew
  exact ⟨s, hs, Option.some.inj hsaves, Option.some.inj hold, Option.some.inj hnew⟩

/-- The bind of the raid moves with its difficulty. -/
theorem symmetric_switchedRaid :
    ∃ s, Runs.run stepFrom (some State.empty) switchedRaid = some s ∧ Symmetric s := by
  have hkeeps : Runs.Admissible stepFrom KeepsFrom (some State.empty) switchedRaid := by
    refine ⟨fun _ _ => trivial, fun _ _ => trivial, ?_, ?_, fun _ _ => trivial, trivial⟩
    · rintro s hs group e hgroup hget -
      obtain rfl := Option.some.inj hs
      obtain rfl := Option.some.inj hgroup
      obtain rfl := Option.some.inj hget
      rfl
    · rintro s hs - group hgroup key bind hbind address save difficulty hto hfind - htarget
      obtain ⟨s', hs', hsaves, hold, hnew⟩ := switchedRaid_bound
      obtain rfl := Option.some.inj (hs.symm.trans hs')
      rw [hgroup] at hold hnew
      have holdEntries : (group.boundInstances 0).entries = [(631, ⟨some 0, true⟩)] :=
        Option.some.inj hold
      have hnewEntries : (group.boundInstances 1).entries = [] := Option.some.inj hnew
      have hentry : (key, bind) ∈ (group.boundInstances 0).entries :=
        OrderedMap.find?_eq_some_iff.mp hbind
      rw [holdEntries, List.mem_singleton] at hentry
      obtain ⟨rfl, rfl⟩ := Prod.mk.inj hentry
      obtain rfl := Option.some.inj hto
      have hsave := OrderedMap.find?_eq_some_iff.mp hfind
      rw [hsaves, List.mem_singleton] at hsave
      obtain rfl := (Prod.mk.inj hsave).2
      obtain rfl := Option.some.inj htarget
      refine ⟨by decide, OrderedMap.find?_eq_none_iff.mpr fun found hmem => ?_, rfl⟩
      have hempty : (631, found) ∈ (group.boundInstances 1).entries := hmem
      rw [hnewEntries] at hempty
      cases hempty
  exact symmetric_of_run hkeeps (List.prefix_refl switchedRaid)

/-- A group is bound to the same map in two difficulties, and the first changes to the second. -/
def overwrittenRaid : List Operation :=
  [.createGroup 1 false, .addInstanceSave 631 10 0 false false true,
    .addInstanceSave 631 11 1 false false true, .bindToInstance 1 10 true noMaps,
    .bindToInstance 1 11 true noMaps, .switchBoundInstance 1 0 1 ten_ne_twentyFive true anySwitch]

/-- The overwritten instance still lists the group, and its reset fails. -/
theorem overwrittenRaid_asymmetric :
    (∃ s, Runs.run stepFrom (some State.empty) overwrittenRaid = some s ∧ ¬ Symmetric s) ∧
      Runs.run stepFrom (some State.empty)
        (overwrittenRaid ++ [Operation.resetAll 631 1 noMaps]) = none := by
  constructor
  · have hsome : (Runs.run stepFrom (some State.empty) overwrittenRaid).isSome = true := by
      decide +kernel
    obtain ⟨s, hs⟩ := Option.isSome_iff_exists.mp hsome
    have hreads : (Runs.run stepFrom (some State.empty) overwrittenRaid).map (fun s =>
        (s.saves.find? 1, s.slot 1 1 631)) =
        some (some ⟨11, 631, 1, false, false, [], [1]⟩, some ⟨some 0, true⟩) := by
      decide +kernel
    rw [hs] at hreads
    obtain ⟨hfind, hslot⟩ := Prod.mk.inj (Option.some.inj hreads)
    refine ⟨s, hs, fun h => ?_⟩
    obtain ⟨bind, hbind, hto⟩ := (h.listed 1 _ hfind 1).mp List.mem_cons_self
    obtain rfl := Option.some.inj (hslot.symm.trans hbind)
    cases hto
  · have hnone : (Runs.run stepFrom (some State.empty)
        (overwrittenRaid ++ [Operation.resetAll 631 1 noMaps])).isNone = true := by
      decide +kernel
    exact Option.isNone_iff_eq_none.mp hnone

end Cataclysm.InstanceBinds
