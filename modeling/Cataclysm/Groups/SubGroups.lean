import Cataclysm.Lib.Runs

/-!
# Sub-groups of a raid

A raid keeps, beside the member slots, one counter for each sub-group. The counters
are allocated when the group becomes a raid and freed when it becomes a party again;
members come, go and change their sub-group in between.

A party has no counters, and `AddMember` does not limit it: its callers ask `IsFull`
first. Without that, a party of more than five members becomes a raid whose first
sub-group is too large.

## Implementation notes

Guids are only compared and are natural numbers. The sub-group of a slot is below
`MAX_RAID_SUBGROUPS`: `AddMember` takes it from its loop and the handler checks it.
The bits of `m_groupType` are the fields of `GroupType`. A group that was disbanded is
`none`. Names, roles, member flags, loot settings and instance binds do not take part.
What `RemoveMember` asks of the players and of the dungeon finder is in `RemoveContext`.
-/

namespace Cataclysm
open Runs

/-- The guid of a player or of a group. -/
abbrev Guid := Nat

/-- `MAXGROUPSIZE`. -/
def maxGroupSize : Nat := 5

/-- `MAXRAIDSIZE`. -/
def maxRaidSize : Nat := 40

/-- `MAX_RAID_SUBGROUPS`. -/
abbrev maxRaidSubgroups : Nat := 8

/-- The number of a subgroup. -/
abbrev SubGroup := Fin maxRaidSubgroups

/-- A member with his sub-group. -/
structure MemberSlot where
  guid : Guid
  group : SubGroup
  deriving DecidableEq

/-- The bits of `m_groupType`. -/
structure GroupType where
  bg : Bool := false
  raid : Bool := false
  lfgRestricted : Bool := false
  lfg : Bool := false
  deriving DecidableEq

/-- `RemoveMethod`. -/
inductive RemoveMethod
  | default
  | kick
  | leave
  | kickLfg
  deriving DecidableEq

/-- The part of a `Group` that decides about sub-groups and the leader. -/
structure Group where
  isBGGroup : Bool
  isBFGroup : Bool
  groupType : GroupType
  leaderGuid : Guid
  memberSlots : List MemberSlot
  subGroupsCounts : Option (SubGroup → UInt8)

/-- What `RemoveMember` learns from outside the group: which players are found, the
size of `m_memberMgr` once the member is gone, and whether the leader of a one-man
dungeon group keeps it. -/
structure RemoveContext where
  findPlayer : Guid → Bool
  memberRefs : Nat
  keepsDungeon : Bool

namespace Group

variable {slots : List MemberSlot} {guid : Guid} {slot : MemberSlot} {g : Group}

def isRaidGroup (g : Group) : Bool := g.groupType.raid

def isLFGGroup (g : Group) : Bool := g.groupType.lfg

/-- A party has five members, a raid forty. -/
def isFull (g : Group) : Bool :=
  if g.isRaidGroup then g.memberSlots.length ≥ maxRaidSize
  else g.memberSlots.length ≥ maxGroupSize

def subGroupCounterIncrease (g : Group) (subgroup : SubGroup) : Group :=
  { g with subGroupsCounts := g.subGroupsCounts.map fun counts =>
      Function.update counts subgroup (counts subgroup + 1) }

def subGroupCounterDecrease (g : Group) (subgroup : SubGroup) : Group :=
  { g with subGroupsCounts := g.subGroupsCounts.map fun counts =>
      Function.update counts subgroup (counts subgroup - 1) }

/-- The counters after `++` for the slots in turn. -/
def countSlots (slots : List MemberSlot) : SubGroup → UInt8 :=
  slots.foldl (fun counts slot => Function.update counts slot.group (counts slot.group + 1)) 0

def initRaidSubGroupsCounter (g : Group) : Group :=
  { g with subGroupsCounts := some (countSlots g.memberSlots) }

/-- The slot of a member. -/
def getMemberSlot (g : Group) (guid : Guid) : Option MemberSlot :=
  g.memberSlots.find? fun slot => slot.guid = guid

def hasFreeSlotSubGroup (g : Group) (subgroup : SubGroup) : Bool :=
  match g.subGroupsCounts with
  | none => false
  | some counts => (counts subgroup).toNat < maxGroupSize

/-- A player joins, if his sub-group has room. -/
def addMember (g : Group) (guid : Guid) : Group × Bool :=
  match g.subGroupsCounts with
  | none => ({ g with memberSlots := g.memberSlots ++ [⟨guid, ⟨0, by decide⟩⟩] }, true)
  | some _ =>
    match (List.finRange maxRaidSubgroups).find? g.hasFreeSlotSubGroup with
    | none => (g, false)
    | some subGroup =>
      let member : MemberSlot := ⟨guid, subGroup⟩
      let g := { g with memberSlots := g.memberSlots ++ [member] }
      (g.subGroupCounterIncrease subGroup, true)

/-- `Create`, for a party or for the raid of a battleground or battlefield. -/
def create (leader : Guid) (isBGGroup isBFGroup : Bool) : Group :=
  let g : Group := ⟨isBGGroup, isBFGroup, {}, leader, [], none⟩
  let g := if isBGGroup || isBFGroup then { g with groupType := { bg := true, raid := true } } else g
  let g := if g.isRaidGroup then g.initRaidSubGroupsCounter else g
  (g.addMember leader).1

/-- Only a member who is found can lead. -/
def changeLeader (g : Group) (findPlayer : Guid → Bool) (newLeaderGuid : Guid) : Group :=
  if (g.getMemberSlot newLeaderGuid).isSome ∧ findPlayer newLeaderGuid then
    { g with leaderGuid := newLeaderGuid }
  else g

/-- Strictly more members than a group needs, before one is removed. -/
def outlivesRemoval (g : Group) : Bool :=
  g.memberSlots.length > (if g.isBGGroup || g.isLFGGroup || g.isBFGroup then 1 else 2)

/-- "Update subgroups". -/
def removeSlot (g : Group) (guid : Guid) : Group :=
  match g.getMemberSlot guid with
  | none => g
  | some slot =>
    { g.subGroupCounterDecrease slot.group with
      memberSlots := g.memberSlots.eraseP fun slot => slot.guid = guid }

/-- "Pick new leader if necessary". -/
def pickLeader (g : Group) (findPlayer : Guid → Bool) (guid : Guid) : Group :=
  if g.leaderGuid = guid then
    match g.memberSlots.find? fun slot => findPlayer slot.guid with
    | none => g
    | some slot => g.changeLeader findPlayer slot.guid
  else g

/-- A member goes, and the group may end. -/
def removeMember (g : Group) (guid : Guid) (method : RemoveMethod) (context : RemoveContext) :
    Option Group :=
  if g.isLFGGroup && method = .kick then some g
  else if g.outlivesRemoval then
    let g := (g.removeSlot guid).pickLeader context.findPlayer guid
    if g.isLFGGroup && g.memberSlots.length = 1 && !context.keepsDungeon then none
    else if context.memberRefs < (if g.isLFGGroup || g.isBGGroup then 1 else 2) then none
    else some g
  else none

/-- The first slot of a player moves to another sub-group. -/
def assignGroup (guid : Guid) (group : SubGroup) : List MemberSlot → List MemberSlot
  | [] => []
  | slot :: rest =>
    if slot.guid = guid then { slot with group } :: rest
    else slot :: assignGroup guid group rest

/-- A member moves to another sub-group. -/
def changeMembersGroup (g : Group) (guid : Guid) (group : SubGroup) : Group :=
  if !g.isRaidGroup then g
  else
    match g.getMemberSlot guid with
    | none => g
    | some slot =>
      if slot.group = group then g
      else
        let g := { g with memberSlots := assignGroup guid group g.memberSlots }
        (g.subGroupCounterIncrease group).subGroupCounterDecrease slot.group

/-- `HandleGroupChangeSubGroupOpcode`: the request of a leader or assistant. -/
def handleGroupChangeSubGroup (g : Group) (isAssistant : Guid → Bool) (sender guid : Guid)
    (groupNr : UInt8) : Group :=
  if h : groupNr.toNat < maxRaidSubgroups then
    if g.leaderGuid ≠ sender ∧ !isAssistant sender then g
    else if !g.hasFreeSlotSubGroup ⟨groupNr.toNat, h⟩ then g
    else g.changeMembersGroup guid ⟨groupNr.toNat, h⟩
  else g

def convertToLFG (g : Group) : Group :=
  { g with groupType := { g.groupType with lfg := true, lfgRestricted := true } }

def convertToLFR (g : Group) : Group :=
  let g := { g with
    groupType := { g.groupType with lfg := true, lfgRestricted := true, raid := true } }
  g.initRaidSubGroupsCounter

/-- A party becomes a raid. -/
def convertToRaid (g : Group) : Group :=
  let g := { g with groupType := { g.groupType with raid := true } }
  g.initRaidSubGroupsCounter

/-- A small raid becomes a party. -/
def convertToGroup (g : Group) : Group :=
  if g.memberSlots.length > 5 then g
  else { g with groupType := {}, subGroupsCounts := none }

/-- The number of slots in a sub-group. -/
def slotsIn (slots : List MemberSlot) (i : SubGroup) : Nat :=
  slots.countP fun slot => slot.group = i

/-- Every counter is the number of slots of its sub-group and within its limit. -/
def SubGroupsCounted (g : Group) : Prop :=
  ∀ counts, g.subGroupsCounts = some counts →
    ∀ i, (counts i).toNat = slotsIn g.memberSlots i ∧ (counts i).toNat ≤ maxGroupSize

theorem slotsIn_le_length (slots : List MemberSlot) (i : SubGroup) :
    slotsIn slots i ≤ slots.length := List.countP_le_length

theorem slotsIn_concat (slots : List MemberSlot) (slot : MemberSlot) (i : SubGroup) :
    slotsIn (slots ++ [slot]) i = slotsIn slots i + if slot.group = i then 1 else 0 := by
  simp [slotsIn, List.countP_append, List.countP_singleton]

theorem slotsIn_cons (slots : List MemberSlot) (slot : MemberSlot) (i : SubGroup) :
    slotsIn (slot :: slots) i = slotsIn slots i + if slot.group = i then 1 else 0 := by
  simp [slotsIn, List.countP_cons]

theorem slotsIn_eraseP (h : slots.find? (fun slot => slot.guid = guid) = some slot) (i : SubGroup) :
    slotsIn slots i = slotsIn (slots.eraseP fun slot => slot.guid = guid) i +
      if slot.group = i then 1 else 0 := by
  induction slots with
  | nil => simp at h
  | cons first rest ih =>
    rw [List.find?_cons] at h
    by_cases hguid : first.guid = guid
    · obtain rfl : first = slot := by simpa [hguid] using h
      simp [hguid, slotsIn_cons]
    · have hrest := ih (by simpa [hguid] using h)
      simp [hguid, slotsIn_cons, hrest]
      omega

theorem slotsIn_assignGroup (h : slots.find? (fun slot => slot.guid = guid) = some slot)
    (group i : SubGroup) :
    slotsIn (assignGroup guid group slots) i + (if slot.group = i then 1 else 0) =
      slotsIn slots i + if group = i then 1 else 0 := by
  induction slots with
  | nil => simp at h
  | cons first rest ih =>
    rw [List.find?_cons] at h
    by_cases hguid : first.guid = guid
    · obtain rfl : first = slot := by simpa [hguid] using h
      simp [assignGroup, hguid, slotsIn_cons]
      omega
    · have hrest := ih (by simpa [hguid] using h)
      simp only [assignGroup, hguid, if_false, slotsIn_cons]
      omega

/-- Counting a sub-group that fits into a counter does not wrap. -/
theorem toNat_countSlots {i : SubGroup} (h : slotsIn slots i < 256) :
    (countSlots slots i).toNat = slotsIn slots i := by
  induction slots using List.reverseRecOn with
  | nil => simp [countSlots, slotsIn]
  | append_singleton rest slot ih =>
    rw [slotsIn_concat] at h ⊢
    have hrest := ih (by omega)
    rw [countSlots, List.foldl_concat, ← countSlots]
    by_cases hi : slot.group = i
    · subst hi
      rw [if_pos rfl] at h
      rw [Function.update_self, UInt8.toNat_add, hrest, if_pos rfl]
      exact Nat.mod_eq_of_lt h
    · rw [Function.update_of_ne (Ne.symm hi), hrest, if_neg hi, Nat.add_zero]

/-- The counters count, no sub-group is too large, and a party fits into one. -/
structure Consistent (g : Group) : Prop where
  allocated : g.subGroupsCounts.isSome = g.isRaidGroup
  counted : ∀ counts, g.subGroupsCounts = some counts →
    ∀ i, (counts i).toNat = slotsIn g.memberSlots i
  limited : ∀ i, slotsIn g.memberSlots i ≤ maxGroupSize
  party : g.isRaidGroup = false → g.memberSlots.length ≤ maxGroupSize

theorem Consistent.subGroupsCounted (h : g.Consistent) : g.SubGroupsCounted := by
  intro counts hcounts i
  have heq := h.counted counts hcounts i
  exact ⟨heq, heq.trans_le (h.limited i)⟩

theorem Consistent.initRaidSubGroupsCounter
    (hlimited : ∀ i, slotsIn g.memberSlots i ≤ maxGroupSize) (hraid : g.isRaidGroup = true) :
    g.initRaidSubGroupsCounter.Consistent where
  allocated := hraid.symm
  counted := by
    intro counts hcounts i
    obtain rfl : countSlots g.memberSlots = counts := Option.some.inj hcounts
    exact toNat_countSlots ((hlimited i).trans_lt (by decide))
  limited := hlimited
  party := by
    intro hparty
    exact absurd (hraid.symm.trans hparty) (by decide)

/-- A slot joins a sub-group that has room for it. -/
theorem Consistent.subGroupCounterIncrease (h : g.Consistent) (slot : MemberSlot)
    (hroom : slotsIn g.memberSlots slot.group < maxGroupSize) (hraid : g.isRaidGroup = true) :
    ({ g with memberSlots := g.memberSlots ++ [slot] }.subGroupCounterIncrease
      slot.group).Consistent where
  allocated := by simpa [Group.subGroupCounterIncrease, isRaidGroup] using h.allocated
  counted := by
    intro counts hcounts i
    obtain ⟨old, hold, rfl⟩ := Option.map_eq_some_iff.mp hcounts
    have heq := h.counted old hold
    change _ = slotsIn (g.memberSlots ++ [slot]) i
    rw [slotsIn_concat]
    by_cases hi : slot.group = i
    · subst hi
      rw [Function.update_self, UInt8.toNat_add, heq, if_pos rfl]
      exact Nat.mod_eq_of_lt (Nat.lt_of_le_of_lt (Nat.succ_le_of_lt hroom) (by decide))
    · rw [Function.update_of_ne (Ne.symm hi), heq, if_neg hi, Nat.add_zero]
  limited := by
    intro i
    change slotsIn (g.memberSlots ++ [slot]) i ≤ _
    have hle := h.limited i
    rw [slotsIn_concat]
    split
    · next hi => exact hi ▸ Nat.succ_le_of_lt hroom
    · exact hle
  party := by
    intro hparty
    exact absurd (hraid.symm.trans hparty) (by decide)

theorem slotsIn_pos_of_getMemberSlot (h : g.getMemberSlot guid = some slot) :
    0 < slotsIn g.memberSlots slot.group := by
  have herase := slotsIn_eraseP h slot.group
  rw [if_pos rfl] at herase
  omega

theorem toNat_sub_one {n : UInt8} (h : 0 < n.toNat) : (n - 1).toNat = n.toNat - 1 := by
  have hle : (1 : UInt8) ≤ n := UInt8.le_iff_toNat_le.mpr h
  simpa using UInt8.toNat_sub_of_le n 1 hle

theorem Consistent.addMember (h : g.Consistent) (guid : Guid)
    (hcall : g.isRaidGroup = false → g.isFull = false) : (g.addMember guid).1.Consistent := by
  rw [Group.addMember]
  rcases hcounts : g.subGroupsCounts with _ | counts
  · have hparty : g.isRaidGroup = false := by simpa [hcounts] using h.allocated.symm
    have hroom : g.memberSlots.length < maxGroupSize := by
      simpa [isFull, hparty] using hcall hparty
    have hlength : (g.memberSlots ++ [(⟨guid, ⟨0, by decide⟩⟩ : MemberSlot)]).length ≤
        maxGroupSize := by
      simpa using Nat.succ_le_of_lt hroom
    exact ⟨hparty.symm, by simp, fun i => (slotsIn_le_length _ i).trans hlength,
      fun _ => hlength⟩
  · have hraid : g.isRaidGroup = true := by simpa [hcounts] using h.allocated.symm
    rcases hfind : (List.finRange maxRaidSubgroups).find? g.hasFreeSlotSubGroup with _ | subGroup
    · exact h
    · have hfree : (counts subGroup).toNat < maxGroupSize := by
        simpa [hasFreeSlotSubGroup, hcounts] using List.find?_some hfind
      rw [h.counted counts hcounts] at hfree
      have hgrown := h.subGroupCounterIncrease ⟨guid, subGroup⟩ hfree hraid
      rw [hcounts] at hgrown
      exact hgrown

theorem Consistent.removeSlot (h : g.Consistent) (guid : Guid) :
    (g.removeSlot guid).Consistent := by
  rw [Group.removeSlot]
  rcases hslot : g.getMemberSlot guid with _ | slot
  · exact h
  have herase := slotsIn_eraseP hslot
  have hpos := slotsIn_pos_of_getMemberSlot hslot
  constructor
  · simpa [subGroupCounterDecrease, isRaidGroup] using h.allocated
  · intro counts hcounts i
    obtain ⟨old, hold, rfl⟩ := Option.map_eq_some_iff.mp hcounts
    have heq := h.counted old hold
    change _ = slotsIn (g.memberSlots.eraseP fun slot => slot.guid = guid) i
    by_cases hi : slot.group = i
    · subst hi
      rw [Function.update_self, toNat_sub_one (by rw [heq]; exact hpos), heq, herase, if_pos rfl]
      rfl
    · rw [Function.update_of_ne (Ne.symm hi), heq, herase, if_neg hi, Nat.add_zero]
  · intro i
    have hle := h.limited i
    rw [herase] at hle
    exact (Nat.le_add_right _ _).trans hle
  · intro hparty
    have hlength : (g.memberSlots.eraseP fun slot => slot.guid = guid).length ≤
        g.memberSlots.length := List.length_eraseP_le
    exact hlength.trans (h.party hparty)

theorem Consistent.changeLeader (h : g.Consistent) (findPlayer : Guid → Bool)
    (newLeaderGuid : Guid) : (g.changeLeader findPlayer newLeaderGuid).Consistent := by
  rw [Group.changeLeader]
  split
  · exact ⟨h.allocated, h.counted, h.limited, h.party⟩
  · exact h

theorem Consistent.pickLeader (h : g.Consistent) (findPlayer : Guid → Bool) (guid : Guid) :
    (g.pickLeader findPlayer guid).Consistent := by
  rw [Group.pickLeader]
  split
  · split
    · exact h
    · exact h.changeLeader findPlayer _
  · exact h

/-- A group that survives a removal is unchanged or has lost the slot. -/
theorem removeMember_cases {g' : Group} {method : RemoveMethod} {context : RemoveContext}
    (h : g.removeMember guid method context = some g') :
    g' = g ∨ g' = (g.removeSlot guid).pickLeader context.findPlayer guid := by
  rw [Group.removeMember] at h
  split at h
  · exact Or.inl (Option.some.inj h).symm
  · split at h
    · refine Or.inr ?_
      dsimp only at h
      generalize (g.removeSlot guid).pickLeader context.findPlayer guid = removed at h
      split at h
      · cases h
      · split_ifs at h
        all_goals exact (Option.some.inj h).symm
    · cases h

theorem Consistent.removeMember {g' : Group} (h : g.Consistent) {method : RemoveMethod}
    {context : RemoveContext} (hremove : g.removeMember guid method context = some g') :
    g'.Consistent := by
  rcases removeMember_cases hremove with rfl | rfl
  · exact h
  · exact (h.removeSlot guid).pickLeader context.findPlayer guid

/-- One counter goes up, then another one down; neither wraps. -/
theorem toNat_moveCounter {counts : SubGroup → UInt8} {before after : SubGroup → Nat}
    {prev next : SubGroup} (hne : prev ≠ next) (hcounts : ∀ i, (counts i).toNat = before i)
    (hmoved : ∀ i, after i + (if prev = i then 1 else 0) = before i + if next = i then 1 else 0)
    (hpos : 0 < before prev) (hroom : before next < maxGroupSize) (i : SubGroup) :
    (Function.update (Function.update counts next (counts next + 1)) prev
      (Function.update counts next (counts next + 1) prev - 1) i).toNat = after i := by
  have hi := hmoved i
  by_cases hprev : i = prev
  · subst hprev
    rw [if_pos rfl, if_neg (Ne.symm hne)] at hi
    rw [Function.update_self, Function.update_of_ne hne,
      toNat_sub_one (by rw [hcounts]; exact hpos), hcounts]
    omega
  · rw [if_neg (Ne.symm hprev)] at hi
    rw [Function.update_of_ne hprev]
    by_cases hnext : i = next
    · subst hnext
      rw [if_pos rfl] at hi
      rw [Function.update_self, UInt8.toNat_add, hcounts]
      simp only [maxGroupSize, UInt8.toNat_one] at hroom ⊢
      omega
    · rw [if_neg (Ne.symm hnext)] at hi
      rw [Function.update_of_ne hnext, hcounts]
      exact hi.symm

theorem Consistent.changeMembersGroup (h : g.Consistent) (guid : Guid) {group : SubGroup}
    (hfree : g.hasFreeSlotSubGroup group = true) :
    (g.changeMembersGroup guid group).Consistent := by
  rw [Group.changeMembersGroup]
  split
  · exact h
  next hparty =>
  have hraid : g.isRaidGroup = true := by simpa using hparty
  rcases hslot : g.getMemberSlot guid with _ | slot
  · exact h
  dsimp only
  split
  · exact h
  next hne =>
  have hassign := slotsIn_assignGroup hslot group
  have hpos := slotsIn_pos_of_getMemberSlot hslot
  rcases hcounts : g.subGroupsCounts with _ | old
  · simp [hasFreeSlotSubGroup, hcounts] at hfree
  have heq := h.counted old hcounts
  have hroom : slotsIn g.memberSlots group < maxGroupSize := by
    simpa [hasFreeSlotSubGroup, hcounts, heq] using hfree
  constructor
  · exact hraid.symm
  · intro counts hcounts' i
    obtain rfl : _ = counts := Option.some.inj hcounts'
    exact toNat_moveCounter hne heq hassign hpos hroom i
  · intro i
    change slotsIn (assignGroup guid group g.memberSlots) i ≤ _
    have hi := hassign i
    have hlimit := h.limited i
    by_cases hgroup : group = i
    · subst hgroup
      rw [if_neg hne, if_pos rfl] at hi
      omega
    · rw [if_neg hgroup] at hi
      omega
  · intro hparty'
    exact absurd (hraid.symm.trans hparty') (by decide)

theorem Consistent.handleGroupChangeSubGroup (h : g.Consistent) (isAssistant : Guid → Bool)
    (sender guid : Guid) (groupNr : UInt8) :
    (g.handleGroupChangeSubGroup isAssistant sender guid groupNr).Consistent := by
  rw [Group.handleGroupChangeSubGroup]
  split
  · split
    · exact h
    · split
      · exact h
      · next hfree => exact h.changeMembersGroup guid (by simpa using hfree)
  · exact h

theorem Consistent.convertToGroup (h : g.Consistent) : g.convertToGroup.Consistent := by
  rw [Group.convertToGroup]
  split
  · exact h
  · next hsize => exact ⟨rfl, by simp, h.limited, fun _ => Nat.le_of_not_lt hsize⟩

theorem consistent_create (leader : Guid) (isBGGroup isBFGroup : Bool) :
    (create leader isBGGroup isBFGroup).Consistent := by
  rw [create]
  refine Consistent.addMember ?_ leader ?_
  · cases hraid : isBGGroup || isBFGroup with
    | false => exact ⟨rfl, by simp [isRaidGroup], fun _ => Nat.zero_le _, fun _ => Nat.zero_le _⟩
    | true => exact Consistent.initRaidSubGroupsCounter (fun _ => Nat.zero_le _) rfl
  · cases hraid : isBGGroup || isBFGroup with
    | false => exact fun _ => rfl
    | true => exact fun hparty => absurd hparty (by simp [isRaidGroup, initRaidSubGroupsCounter])

/-- The operations of a group, and the request to move a member. -/
inductive Action
  | addMember (guid : Guid)
  | removeMember (guid : Guid) (method : RemoveMethod) (context : RemoveContext)
  | changeSubGroup (isAssistant : Guid → Bool) (sender guid : Guid) (groupNr : UInt8)
  | changeLeader (findPlayer : Guid → Bool) (newLeaderGuid : Guid)
  | convertToRaid
  | convertToGroup
  | convertToLFR
  | convertToLFG

/-- One operation; none when the group ends. -/
def act (g : Group) : Action → Option Group
  | .addMember guid => some (g.addMember guid).1
  | .removeMember guid method context => g.removeMember guid method context
  | .changeSubGroup isAssistant sender guid groupNr =>
    some (g.handleGroupChangeSubGroup isAssistant sender guid groupNr)
  | .changeLeader findPlayer newLeaderGuid => some (g.changeLeader findPlayer newLeaderGuid)
  | .convertToRaid => some g.convertToRaid
  | .convertToGroup => some g.convertToGroup
  | .convertToLFR => some g.convertToLFR
  | .convertToLFG => some g.convertToLFG

/-- A disbanded group stays gone. -/
def step (g? : Option Group) (action : Action) : Option Group := g?.bind fun g => g.act action

/-- The sub-group whose counter an action decreases, if it decreases one. -/
def decreased (g : Group) : Action → Option SubGroup
  | .removeMember guid method _ =>
    if !(g.isLFGGroup && method = .kick) && g.outlivesRemoval then
      (g.getMemberSlot guid).map MemberSlot.group
    else none
  | .changeSubGroup isAssistant sender guid groupNr =>
    if h : groupNr.toNat < maxRaidSubgroups then
      if (g.leaderGuid = sender ∨ isAssistant sender) ∧
          g.hasFreeSlotSubGroup ⟨groupNr.toNat, h⟩ ∧ g.isRaidGroup then
        ((g.getMemberSlot guid).map MemberSlot.group).filter (· ≠ ⟨groupNr.toNat, h⟩)
      else none
    else none
  | _ => none

/-- The callers of `AddMember` ask `IsFull` before they add to a party. -/
def Admitted : Option Group → Action → Prop
  | some g, .addMember _ => g.isRaidGroup = false → g.isFull = false
  | _, _ => True

theorem Consistent.act {g' : Group} (h : g.Consistent) {action : Action}
    (hok : Admitted (some g) action) (hact : g.act action = some g') : g'.Consistent := by
  cases action with
  | addMember guid => exact Option.some.inj hact ▸ h.addMember guid hok
  | removeMember guid method context => exact h.removeMember hact
  | changeSubGroup isAssistant sender guid groupNr =>
    exact Option.some.inj hact ▸ h.handleGroupChangeSubGroup isAssistant sender guid groupNr
  | changeLeader findPlayer newLeaderGuid =>
    exact Option.some.inj hact ▸ h.changeLeader findPlayer newLeaderGuid
  | convertToRaid =>
    exact Option.some.inj hact ▸ Consistent.initRaidSubGroupsCounter h.limited rfl
  | convertToGroup => exact Option.some.inj hact ▸ h.convertToGroup
  | convertToLFR =>
    exact Option.some.inj hact ▸ Consistent.initRaidSubGroupsCounter h.limited rfl
  | convertToLFG =>
    exact Option.some.inj hact ▸ ⟨h.allocated, h.counted, h.limited, h.party⟩

/-- The slot that an action takes out of a sub-group is counted there. -/
theorem Consistent.decreased_pos (h : g.Consistent) {action : Action} {i : SubGroup}
    (hdecreased : g.decreased action = some i) {counts : SubGroup → UInt8}
    (hcounts : g.subGroupsCounts = some counts) : 0 < (counts i).toNat := by
  have hslot : ∃ guid slot, g.getMemberSlot guid = some slot ∧ slot.group = i := by
    cases action with
    | removeMember guid method context =>
      simp only [decreased, Option.ite_none_right_eq_some, Option.map_eq_some_iff] at hdecreased
      obtain ⟨-, slot, hslot, hgroup⟩ := hdecreased
      exact ⟨guid, slot, hslot, hgroup⟩
    | changeSubGroup isAssistant sender guid groupNr =>
      simp only [decreased, Option.dite_none_right_eq_some, Option.ite_none_right_eq_some,
        Option.filter_eq_some_iff, Option.map_eq_some_iff] at hdecreased
      obtain ⟨-, -, ⟨slot, hslot, hgroup⟩, -⟩ := hdecreased
      exact ⟨guid, slot, hslot, hgroup⟩
    | _ => cases hdecreased
  obtain ⟨guid, slot, hslot, rfl⟩ := hslot
  rw [h.counted counts hcounts]
  exact slotsIn_pos_of_getMemberSlot hslot

theorem consistent_of_run (leader : Guid) (isBGGroup isBFGroup : Bool)
    {actions before : List Action}
    (h : Admissible step Admitted (some (create leader isBGGroup isBFGroup)) actions)
    (hbefore : before <+: actions) {g : Group}
    (hg : run step (some (create leader isBGGroup isBFGroup)) before = some g) :
    g.Consistent := by
  refine h.invariant (P := fun g? => ∀ g, g? = some g → g.Consistent) ?_ ?_ hbefore g hg
  · intro g? action hinv hok g' hstep
    obtain ⟨g, rfl, hact⟩ := Option.bind_eq_some_iff.mp hstep
    exact (hinv g rfl).act hok hact
  · intro g hg
    exact Option.some.inj hg ▸ consistent_create leader isBGGroup isBFGroup

/-- Along every run whose additions to a party are admitted, the counters of a raid count
its slots within the limit, and a counter that is decreased is not zero. -/
theorem subGroupsCounted_of_run (leader : Guid) (isBGGroup isBFGroup : Bool)
    {actions before : List Action}
    (h : Admissible step Admitted (some (create leader isBGGroup isBFGroup)) actions)
    (hbefore : before <+: actions) {g : Group}
    (hg : run step (some (create leader isBGGroup isBFGroup)) before = some g) :
    g.SubGroupsCounted ∧
      ∀ action i counts, g.decreased action = some i → g.subGroupsCounts = some counts →
        0 < (counts i).toNat := by
  have hg' := consistent_of_run leader isBGGroup isBFGroup h hbefore hg
  exact ⟨hg'.subGroupsCounted, fun action i counts hdecreased hcounts =>
    hg'.decreased_pos hdecreased hcounts⟩

/-- A raid of three whose leader moves to the fifth sub-group. -/
theorem subGroupsCounted_raid :
    ∃ g, run step (some (create 1 false false))
        [.addMember 2, .convertToRaid, .addMember 3, .changeSubGroup (fun _ => false) 1 1 4] =
          some g ∧ g.SubGroupsCounted := by
  have hadmitted : Admissible step Admitted (some (create 1 false false))
      [.addMember 2, .convertToRaid, .addMember 3, .changeSubGroup (fun _ => false) 1 1 4] :=
    ⟨fun _ => rfl, trivial, fun h => absurd h (by decide), trivial, trivial⟩
  exact ⟨_, rfl, (subGroupsCounted_of_run 1 false false hadmitted (List.prefix_refl _) rfl).1⟩

/-- Seven members of a party that was a raid before end up in one sub-group. -/
theorem subGroups_overfull :
    ¬ ∀ actions g, run step (some (create 1 false false)) actions = some g →
      g.SubGroupsCounted := by
  intro h
  have hrun := h [.addMember 2, .convertToRaid, .convertToGroup, .addMember 3, .addMember 4,
    .addMember 5, .addMember 6, .addMember 7, .convertToRaid] _ rfl _ rfl 0
  exact absurd hrun.2 (by decide)

/-- Every slot is in one of the sub-groups. -/
theorem length_eq_sum_slotsIn (slots : List MemberSlot) :
    slots.length = ∑ i, slotsIn slots i := by
  induction slots with
  | nil => rfl
  | cons slot rest ih =>
    calc (slot :: rest).length
        = (∑ i, slotsIn rest i) + 1 := by rw [List.length_cons, ih]
      _ = ∑ i, slotsIn (slot :: rest) i := by
        simp only [slotsIn_cons, Finset.sum_add_distrib, Finset.sum_ite_eq, Finset.mem_univ, if_true]

/-- Along every run whose additions to a party are admitted, a party has at most five members, a
raid at most forty, and no sub-group more than five. -/
theorem sizes_of_run (leader : Guid) (isBGGroup isBFGroup : Bool) {actions before : List Action}
    (h : Admissible step Admitted (some (create leader isBGGroup isBFGroup)) actions)
    (hbefore : before <+: actions) {g : Group}
    (hg : run step (some (create leader isBGGroup isBFGroup)) before = some g) :
    (∀ i, slotsIn g.memberSlots i ≤ maxGroupSize) ∧
      g.memberSlots.length ≤ if g.isRaidGroup then maxRaidSize else maxGroupSize := by
  have hkept := consistent_of_run leader isBGGroup isBFGroup h hbefore hg
  refine ⟨hkept.limited, ?_⟩
  cases hraid : g.isRaidGroup with
  | false => exact hkept.party hraid
  | true =>
    calc g.memberSlots.length
        = ∑ i, slotsIn g.memberSlots i := length_eq_sum_slotsIn _
      _ ≤ ∑ _i : SubGroup, maxGroupSize := Finset.sum_le_sum fun i _ => hkept.limited i
      _ = maxRaidSize := by rw [Finset.sum_const, Finset.card_univ, Fintype.card_fin]; rfl

/-- A raid of three, led by the third. -/
theorem sizes_raid :
    ∃ g, run step (some (create 1 false false))
        [.addMember 2, .convertToRaid, .addMember 3, .changeLeader (fun _ => true) 3] = some g ∧
      g.leaderGuid = 3 ∧
        g.memberSlots.length ≤ if g.isRaidGroup then maxRaidSize else maxGroupSize := by
  have hadmitted : Admissible step Admitted (some (create 1 false false))
      [.addMember 2, .convertToRaid, .addMember 3, .changeLeader (fun _ => true) 3] :=
    ⟨fun _ => rfl, trivial, fun h => absurd h (by decide), trivial, trivial⟩
  exact ⟨_, rfl, rfl, (sizes_of_run 1 false false hadmitted (List.prefix_refl _) rfl).2⟩

end Group

end Cataclysm
