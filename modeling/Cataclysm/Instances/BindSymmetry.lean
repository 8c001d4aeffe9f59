import Cataclysm.Instances.GroupBinds

/-!
# Symmetry of instance binds

A group stands in the list of a save exactly when one of its binds leads to the save. Four changes
keep this: a bind and a list entry are removed together, they are added together, a bind moves with
the difficulty of a save that lists no other group, and a save without groups is deleted.

## Implementation notes

The relation reads the saves by address and the binds by slot, so that a change is described by
what it does to these two.
-/

namespace Cataclysm.InstanceBinds

/-- The bind of a group in a slot. -/
def State.slot (s : State) (guid difficulty key : Nat) : Option InstanceGroupBind :=
  (s.groups.find? guid).bind fun group => group.bind difficulty key

/-- The group has a bind to the save at an address in a slot. -/
def State.BoundAt (s : State) (guid difficulty key address : Nat) : Prop :=
  ∃ bind, s.slot guid difficulty key = some bind ∧ bind.save = some address

/-- A group is in the list of a save once if it has a bind to it in the slot of the save, and is
not in it otherwise; every bind leads to a save that exists, in the slot of the save. -/
structure Symmetric (s : State) : Prop where
  once : ∀ address save, s.saves.find? address = some save → save.groupList.Nodup
  listed : ∀ address save, s.saves.find? address = some save → ∀ guid,
    guid ∈ save.groupList ↔ s.BoundAt guid save.difficulty save.key address
  kept : ∀ guid difficulty key bind, s.slot guid difficulty key = some bind →
    ∃ address save, bind.save = some address ∧ s.saves.find? address = some save ∧
      save.difficulty = difficulty ∧ save.key = key

/-- What every run keeps: the relation, one save for an instance, and fresh addresses. -/
structure Good (s : State) : Prop extends Symmetric s where
  distinct : ∀ address save address' save', s.saves.find? address = some save →
    s.saves.find? address' = some save' → save.instanceId = save'.instanceId → address = address'
  fresh : ∀ address save, s.saves.find? address = some save → address < s.nextSave
  mapId_lt : ∀ address save, s.saves.find? address = some save → save.mapId < 2 ^ 16

variable {s : State} {group : Group} {save : InstanceSave} {bind : InstanceGroupBind}
  {guid difficulty key address : Nat}

/-! ### Reading -/

theorem Group.bind_setBind (group : Group) (difficulty key difficulty' key' : Nat)
    (bind : InstanceGroupBind) :
    (group.setBind difficulty key bind).bind difficulty' key' =
      if difficulty' = difficulty ∧ key' = key then some bind
      else group.bind difficulty' key' := by
  unfold Group.bind Group.setBind
  by_cases hd : difficulty' = difficulty
  · subst hd
    simp [OrderedMap.find?_insert]
  · simp [hd]

theorem Group.bind_eraseBind (group : Group) (difficulty key difficulty' key' : Nat) :
    (group.eraseBind difficulty key).bind difficulty' key' =
      if difficulty' = difficulty ∧ key' = key then none
      else group.bind difficulty' key' := by
  unfold Group.bind Group.eraseBind
  by_cases hd : difficulty' = difficulty
  · subst hd
    simp [OrderedMap.find?_erase]
  · simp [hd]

theorem State.find?_setSave (s : State) (address address' : Nat) (save : InstanceSave) :
    (s.setSave address save).saves.find? address' =
      if address' = address then some save else s.saves.find? address' :=
  OrderedMap.find?_insert ..

theorem State.slot_setGroup (s : State) (guid : Nat) (group : Group)
    (guid' difficulty key : Nat) :
    (s.setGroup guid group).slot guid' difficulty key =
      if guid' = guid then group.bind difficulty key else s.slot guid' difficulty key := by
  unfold State.slot State.setGroup
  simp only [OrderedMap.find?_insert]
  split
  · rfl
  · rfl

theorem State.slot_of_group (hgroup : s.groups.find? guid = some group) :
    s.slot guid difficulty key = group.bind difficulty key := by
  unfold State.slot
  rw [hgroup]
  rfl

theorem State.slot_setBind (hgroup : s.groups.find? guid = some group)
    (guid' difficulty' key' : Nat) :
    (s.setGroup guid (group.setBind difficulty key bind)).slot guid' difficulty' key' =
      if guid' = guid ∧ difficulty' = difficulty ∧ key' = key then some bind
      else s.slot guid' difficulty' key' := by
  rw [State.slot_setGroup, Group.bind_setBind]
  by_cases hguid : guid' = guid
  · subst hguid
    rw [if_pos rfl, State.slot_of_group hgroup]
    simp only [true_and]
  · rw [if_neg hguid, if_neg fun hboth => hguid hboth.1]

theorem State.slot_eraseBind (hgroup : s.groups.find? guid = some group)
    (guid' difficulty' key' : Nat) :
    (s.setGroup guid (group.eraseBind difficulty key)).slot guid' difficulty' key' =
      if guid' = guid ∧ difficulty' = difficulty ∧ key' = key then none
      else s.slot guid' difficulty' key' := by
  rw [State.slot_setGroup, Group.bind_eraseBind]
  by_cases hguid : guid' = guid
  · subst hguid
    rw [if_pos rfl, State.slot_of_group hgroup]
    simp only [true_and]
  · rw [if_neg hguid, if_neg fun hboth => hguid hboth.1]

/-! ### Four changes -/

/-- The saves are those of before, except for one whose list and difficulty may differ. -/
theorem Good.of_reads (h : Good s) {s' : State} {changed : InstanceSave}
    (hfind : s.saves.find? address = some save)
    (hsaves : ∀ address', s'.saves.find? address' =
      if address' = address then some changed else s.saves.find? address')
    (hid : changed.instanceId = save.instanceId) (hmap : changed.mapId = save.mapId)
    (hnext : s'.nextSave = s.nextSave) (hsymmetric : Symmetric s') : Good s' := by
  have hold : ∀ address' save', s'.saves.find? address' = some save' →
      ∃ old, s.saves.find? address' = some old ∧ save'.instanceId = old.instanceId ∧
        save'.mapId = old.mapId := by
    intro address' save' hread
    rw [hsaves] at hread
    by_cases hsame : address' = address
    · subst hsame
      rw [if_pos rfl] at hread
      obtain rfl := Option.some.inj hread
      exact ⟨save, hfind, hid, hmap⟩
    · rw [if_neg hsame] at hread
      exact ⟨save', hread, rfl, rfl⟩
  refine ⟨hsymmetric, ?_, ?_, ?_⟩
  · intro a save' a' save'' hread hread' hsame
    obtain ⟨old, hfound, hold1, -⟩ := hold a save' hread
    obtain ⟨old', hfound', hold1', -⟩ := hold a' save'' hread'
    exact h.distinct _ _ _ _ hfound hfound' (hold1.symm.trans (hsame.trans hold1'))
  · intro a save' hread
    obtain ⟨old, hfound, -⟩ := hold a save' hread
    rw [hnext]
    exact h.fresh _ _ hfound
  · intro a save' hread
    obtain ⟨old, hfound, -, hsame⟩ := hold a save' hread
    rw [hsame]
    exact h.mapId_lt _ _ hfound

/-- A list entry and the bind are removed together. -/
theorem Good.unlink (h : Good s) {s' : State} (hslot : s.slot guid difficulty key = some bind)
    (hsave : bind.save = some address) (hfind : s.saves.find? address = some save)
    (hslots : ∀ guid' difficulty' key', s'.slot guid' difficulty' key' =
      if guid' = guid ∧ difficulty' = difficulty ∧ key' = key then none
      else s.slot guid' difficulty' key')
    (hsaves : ∀ address', s'.saves.find? address' =
      if address' = address then
        some { save with groupList := save.groupList.filter (· ≠ guid) }
      else s.saves.find? address')
    (hnext : s'.nextSave = s.nextSave) : Good s' := by
  obtain ⟨address', save', hsave', hfind', hdifficulty, hkey⟩ := h.kept _ _ _ _ hslot
  obtain rfl := Option.some.inj (hsave.symm.trans hsave')
  obtain rfl := Option.some.inj (hfind.symm.trans hfind')
  refine h.of_reads hfind hsaves rfl rfl hnext ⟨?_, ?_, ?_⟩
  · intro address' save' hread
    rw [hsaves] at hread
    by_cases hsame : address' = address
    · rw [if_pos hsame] at hread
      obtain rfl := Option.some.inj hread
      exact (h.once _ _ hfind).filter _
    · rw [if_neg hsame] at hread
      exact h.once _ _ hread
  · intro address' save' hread guid'
    have hlisted := h.listed address' save'
    have hlist := h.listed address save hfind
    unfold State.BoundAt at hlisted hlist ⊢
    rw [hslots]
    rw [hsaves] at hread
    by_cases hsame : address' = address
    · rw [if_pos hsame] at hread
      obtain rfl := Option.some.inj hread
      change guid' ∈ save.groupList.filter (· ≠ guid) ↔
        ∃ bind, (if guid' = guid ∧ save.difficulty = difficulty ∧ save.key = key then none
          else s.slot guid' save.difficulty save.key) = some bind ∧ bind.save = some address'
      have hguid := hlist guid'
      rw [List.mem_filter]
      grind
    · rw [if_neg hsame] at hread
      have hguid := hlisted hread guid'
      grind
  · intro guid' difficulty' key' bind' hslot'
    rw [hslots] at hslot'
    obtain ⟨-, hslot'⟩ := Option.ite_none_left_eq_some.mp hslot'
    obtain ⟨address', save', hto, hfound, hd, hk⟩ := h.kept _ _ _ _ hslot'
    by_cases hsame : address' = address
    · subst hsame
      obtain rfl := Option.some.inj (hfind.symm.trans hfound)
      exact ⟨address', _, hto, (hsaves address').trans (if_pos rfl), hd, hk⟩
    · exact ⟨address', save', hto, (hsaves address').trans ((if_neg hsame).trans hfound), hd, hk⟩

/-- A list entry and a bind in a free slot are added together. -/
theorem Good.link (h : Good s) {s' : State} (hfind : s.saves.find? address = some save)
    (hfree : s.slot guid save.difficulty save.key = none) (hsave : bind.save = some address)
    (hslots : ∀ guid' difficulty' key', s'.slot guid' difficulty' key' =
      if guid' = guid ∧ difficulty' = save.difficulty ∧ key' = save.key then some bind
      else s.slot guid' difficulty' key')
    (hsaves : ∀ address', s'.saves.find? address' =
      if address' = address then some { save with groupList := save.groupList ++ [guid] }
      else s.saves.find? address')
    (hnext : s'.nextSave = s.nextSave) : Good s' := by
  have hlist := h.listed address save hfind
  have hnew : guid ∉ save.groupList := by
    intro hmem
    obtain ⟨bind', hslot, -⟩ := (hlist guid).mp hmem
    rw [hfree] at hslot
    cases hslot
  refine h.of_reads hfind hsaves rfl rfl hnext ⟨?_, ?_, ?_⟩
  · intro address' save' hread
    rw [hsaves] at hread
    by_cases hsame : address' = address
    · rw [if_pos hsame] at hread
      obtain rfl := Option.some.inj hread
      refine List.Nodup.append (h.once _ _ hfind) (List.nodup_singleton guid) ?_
      exact List.disjoint_singleton.mpr hnew
    · rw [if_neg hsame] at hread
      exact h.once _ _ hread
  · intro address' save' hread guid'
    have hlisted := h.listed address' save'
    unfold State.BoundAt at hlisted hlist ⊢
    rw [hslots]
    rw [hsaves] at hread
    by_cases hsame : address' = address
    · rw [if_pos hsame] at hread
      obtain rfl := Option.some.inj hread
      change guid' ∈ save.groupList ++ [guid] ↔
        ∃ found, (if guid' = guid ∧ save.difficulty = save.difficulty ∧ save.key = save.key
          then some bind else s.slot guid' save.difficulty save.key) = some found ∧
            found.save = some address'
      have hguid := hlist guid'
      rw [List.mem_append, List.mem_singleton]
      grind
    · rw [if_neg hsame] at hread
      have hguid := hlisted hread guid'
      grind
  · intro guid' difficulty' key' bind' hslot'
    rw [hslots] at hslot'
    by_cases hself : guid' = guid ∧ difficulty' = save.difficulty ∧ key' = save.key
    · obtain ⟨rfl, rfl, rfl⟩ := hself
      rw [if_pos ⟨rfl, rfl, rfl⟩] at hslot'
      obtain rfl := Option.some.inj hslot'
      exact ⟨address, _, hsave, (hsaves address).trans (if_pos rfl), rfl, rfl⟩
    · rw [if_neg hself] at hslot'
      obtain ⟨address', save', hto, hfound, hd, hk⟩ := h.kept _ _ _ _ hslot'
      by_cases hsame : address' = address
      · subst hsame
        obtain rfl := Option.some.inj (hfind.symm.trans hfound)
        exact ⟨address', _, hto, (hsaves address').trans (if_pos rfl), hd, hk⟩
      · exact ⟨address', save', hto, (hsaves address').trans ((if_neg hsame).trans hfound), hd, hk⟩

/-- A bind moves with the difficulty of its save, which lists no other group. -/
theorem Good.move (h : Good s) {s' : State} (hfind : s.saves.find? address = some save)
    (hslot : s.slot guid save.difficulty save.key = some bind) (hsave : bind.save = some address)
    (halone : save.groupList = [guid]) (hne : difficulty ≠ save.difficulty)
    (hfree : s.slot guid difficulty save.key = none)
    (hslots : ∀ guid' difficulty' key', s'.slot guid' difficulty' key' =
      if guid' = guid ∧ difficulty' = difficulty ∧ key' = save.key then some bind
      else if guid' = guid ∧ difficulty' = save.difficulty ∧ key' = save.key then none
      else s.slot guid' difficulty' key')
    (hsaves : ∀ address', s'.saves.find? address' =
      if address' = address then some { save with difficulty } else s.saves.find? address')
    (hnext : s'.nextSave = s.nextSave) : Good s' := by
  have hlist := h.listed address save hfind
  rw [halone] at hlist
  refine h.of_reads hfind hsaves rfl rfl hnext ⟨?_, ?_, ?_⟩
  · intro address' save' hread
    rw [hsaves] at hread
    by_cases hsame : address' = address
    · rw [if_pos hsame] at hread
      obtain rfl := Option.some.inj hread
      exact h.once address save hfind
    · rw [if_neg hsame] at hread
      exact h.once _ _ hread
  · intro address' save' hread guid'
    have hlisted := h.listed address' save'
    unfold State.BoundAt at hlisted hlist ⊢
    rw [hslots]
    rw [hsaves] at hread
    by_cases hsame : address' = address
    · rw [if_pos hsame] at hread
      obtain rfl := Option.some.inj hread
      change guid' ∈ save.groupList ↔
        ∃ found, (if guid' = guid ∧ difficulty = difficulty ∧ save.key = save.key then some bind
          else if guid' = guid ∧ difficulty = save.difficulty ∧ save.key = save.key then none
          else s.slot guid' difficulty save.key) = some found ∧ found.save = some address'
      rw [halone, List.mem_singleton]
      constructor
      · rintro rfl
        exact ⟨bind, if_pos ⟨rfl, rfl, rfl⟩, hsame ▸ hsave⟩
      · rintro ⟨found, hfound, hto⟩
        by_contra hother
        rw [if_neg fun hboth => hother hboth.1, if_neg fun hboth => hother hboth.1] at hfound
        obtain ⟨address'', save'', hto', hfound', hd, -⟩ := h.kept _ _ _ _ hfound
        subst hsame
        obtain rfl := Option.some.inj (hto.symm.trans hto')
        obtain rfl := Option.some.inj (hfind.symm.trans hfound')
        exact hne hd.symm
    · rw [if_neg hsame] at hread
      have hguid := hlisted hread guid'
      grind
  · intro guid' difficulty' key' bind' hslot'
    rw [hslots] at hslot'
    by_cases hself : guid' = guid ∧ difficulty' = difficulty ∧ key' = save.key
    · obtain ⟨rfl, rfl, rfl⟩ := hself
      rw [if_pos ⟨rfl, rfl, rfl⟩] at hslot'
      obtain rfl := Option.some.inj hslot'
      exact ⟨address, _, hsave, (hsaves address).trans (if_pos rfl), rfl, rfl⟩
    · rw [if_neg hself] at hslot'
      obtain ⟨hleft, hslot'⟩ := Option.ite_none_left_eq_some.mp hslot'
      obtain ⟨address', save', hto, hfound, rfl, rfl⟩ := h.kept _ _ _ _ hslot'
      by_cases hsame : address' = address
      · subst hsame
        obtain rfl := Option.some.inj (hfind.symm.trans hfound)
        have hmember := (hlist guid').mpr ⟨bind', hslot', hto⟩
        exact absurd ⟨List.mem_singleton.mp hmember, rfl, rfl⟩ hleft
      · exact ⟨address', save', hto, (hsaves address').trans ((if_neg hsame).trans hfound), rfl, rfl⟩

/-- A save without groups is deleted. -/
theorem Good.delete (h : Good s) {s' : State} (hfind : s.saves.find? address = some save)
    (hempty : save.groupList = [])
    (hslots : ∀ guid' difficulty' key', s'.slot guid' difficulty' key' =
      s.slot guid' difficulty' key')
    (hsaves : ∀ address', s'.saves.find? address' =
      if address' = address then none else s.saves.find? address')
    (hnext : s'.nextSave = s.nextSave) : Good s' := by
  have hold : ∀ address' save', s'.saves.find? address' = some save' →
      s.saves.find? address' = some save' := by
    intro address' save' hread
    rw [hsaves] at hread
    exact (Option.ite_none_left_eq_some.mp hread).2
  refine ⟨⟨fun a save' hread => h.once a save' (hold _ _ hread), ?_, ?_⟩, ?_, ?_, ?_⟩
  · intro a save' hread guid'
    have hguid := h.listed a save' (hold _ _ hread) guid'
    unfold State.BoundAt at hguid ⊢
    rw [hslots]
    exact hguid
  · intro guid' difficulty' key' bind' hslot'
    rw [hslots] at hslot'
    obtain ⟨a, save', hto, hfound, rfl, rfl⟩ := h.kept _ _ _ _ hslot'
    have hne : a ≠ address := by
      rintro rfl
      obtain rfl := Option.some.inj (hfind.symm.trans hfound)
      have hmember := (h.listed _ _ hfind guid').mpr ⟨bind', hslot', hto⟩
      rw [hempty] at hmember
      cases hmember
    exact ⟨a, save', hto, (hsaves a).trans ((if_neg hne).trans hfound), rfl, rfl⟩
  · intro a save' a' save'' hread hread'
    exact h.distinct a save' a' save'' (hold _ _ hread) (hold _ _ hread')
  · intro a save' hread
    rw [hnext]
    exact h.fresh a save' (hold _ _ hread)
  · exact fun a save' hread => h.mapId_lt a save' (hold _ _ hread)

/-! ### Changes beside the relation -/

/-- What the binds lead to, and what the relation reads of the saves, stays. -/
theorem Good.congr (h : Good s) {s' : State}
    (hslots : ∀ guid' difficulty' key', (s'.slot guid' difficulty' key').map InstanceGroupBind.save =
      (s.slot guid' difficulty' key').map InstanceGroupBind.save)
    (hsaves : ∀ address' save', s'.saves.find? address' = some save' →
      ∃ old, s.saves.find? address' = some old ∧ save'.instanceId = old.instanceId ∧
        save'.mapId = old.mapId ∧ save'.difficulty = old.difficulty ∧ save'.isLfg = old.isLfg ∧
        save'.groupList = old.groupList)
    (hstill : ∀ address' old, s.saves.find? address' = some old →
      (s'.saves.find? address').isSome = true)
    (hnext : s'.nextSave = s.nextSave) : Good s' := by
  have hkey : ∀ save' old : InstanceSave, save'.mapId = old.mapId → save'.isLfg = old.isLfg →
      save'.key = old.key := by
    intro save' old hmap hlfg
    unfold InstanceSave.key
    rw [hmap, hlfg]
  have hbound : ∀ guid' difficulty' key' address', s'.BoundAt guid' difficulty' key' address' ↔
      s.BoundAt guid' difficulty' key' address' := by
    intro guid' difficulty' key' address'
    have hsame := hslots guid' difficulty' key'
    unfold State.BoundAt
    cases hleft : s'.slot guid' difficulty' key' with
    | none =>
      cases hright : s.slot guid' difficulty' key' with
      | none => exact Iff.rfl
      | some b => rw [hleft, hright] at hsame; cases hsame
    | some b' =>
      cases hright : s.slot guid' difficulty' key' with
      | none => rw [hleft, hright] at hsame; cases hsame
      | some b =>
        rw [hleft, hright] at hsame
        have hto : b'.save = b.save := Option.some.inj hsame
        simp only [Option.some.injEq, exists_eq_left', hto]
  refine ⟨⟨?_, ?_, ?_⟩, ?_, ?_, ?_⟩
  · intro a save' hread
    obtain ⟨old, hfound, -, -, -, -, hlist⟩ := hsaves a save' hread
    rw [hlist]
    exact h.once a old hfound
  · intro a save' hread guid'
    obtain ⟨old, hfound, -, hmap, hd, hlfg, hlist⟩ := hsaves a save' hread
    rw [hlist, hbound, hd, hkey save' old hmap hlfg]
    exact h.listed a old hfound guid'
  · intro guid' difficulty' key' bind' hslot'
    have hsame := hslots guid' difficulty' key'
    rw [hslot'] at hsame
    obtain ⟨b, hslot, hto⟩ := Option.map_eq_some_iff.mp hsame.symm
    obtain ⟨a, old, hsave, hfound, rfl, rfl⟩ := h.kept _ _ _ _ hslot
    obtain ⟨save', hread⟩ := Option.isSome_iff_exists.mp (hstill a old hfound)
    obtain ⟨old', hfound', -, hmap, hd, hlfg, -⟩ := hsaves a save' hread
    obtain rfl := Option.some.inj (hfound.symm.trans hfound')
    exact ⟨a, save', hto.symm.trans hsave, hread, hd, hkey save' _ hmap hlfg⟩
  · intro a save' a' save'' hread hread' hsame
    obtain ⟨old, hfound, hid, -⟩ := hsaves a save' hread
    obtain ⟨old', hfound', hid', -⟩ := hsaves a' save'' hread'
    exact h.distinct _ _ _ _ hfound hfound' (hid.symm.trans (hsame.trans hid'))
  · intro a save' hread
    obtain ⟨old, hfound, -⟩ := hsaves a save' hread
    rw [hnext]
    exact h.fresh a old hfound
  · intro a save' hread
    obtain ⟨old, hfound, -, hmap, -⟩ := hsaves a save' hread
    rw [hmap]
    exact h.mapId_lt a old hfound

end Cataclysm.InstanceBinds
