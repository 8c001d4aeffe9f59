import Cataclysm.Groups.SubGroups
import Cataclysm.Lib.OrderedMap

/-!
# The leader of a group

Who belongs to a group is asked in three ways: the member slots, the links of players that are
online, and the players found in the world. The group goes on as long as enough links are left, a
new leader has to be found in the world, and a player who teleports far is linked but not found. So
when a leader is removed while the members that are left teleport, the group stays without one.

## Implementation notes

`Group` is the group of `SubGroups`, and what `RemoveMember` asks from outside is read from the
players here; of its script hook the teleport out of a dungeon is kept. A player who is not online
has no links. The other group that a player may visit, or return from, is not followed further; a
group that was disbanded is `none`.
-/

namespace Cataclysm
open Runs

/-- The two references that a player can hold to a group: `m_group` and `m_originalGroup`. -/
inductive GroupLink
  | group
  | originalGroup
  deriving DecidableEq

/-- A player object, with whether its references point to another group. -/
structure LinkedPlayer where
  inWorld : Bool
  isAlive : Bool
  mapId : Nat
  otherGroup : Bool
  otherOriginalGroup : Bool
  deriving DecidableEq

/-- A group with its `m_memberMgr`, and the players that are online. -/
structure LinkedGroup where
  group : Group
  memberMgr : List (Guid × GroupLink)
  players : OrderedMap Guid LinkedPlayer

namespace LinkedGroup

/-- `ObjectAccessor::FindPlayer`. -/
def findPlayer (s : LinkedGroup) (guid : Guid) : Bool :=
  (s.players.find? guid).any LinkedPlayer.inWorld

def modifyPlayer (s : LinkedGroup) (guid : Guid) (f : LinkedPlayer → LinkedPlayer) : LinkedGroup :=
  { s with players := s.players.mapValues fun other player =>
      if other = guid then f player else player }

/-- The reference points to this group. -/
def linked (s : LinkedGroup) (guid : Guid) (link : GroupLink) : Bool := (guid, link) ∈ s.memberMgr

/-- The reference points to another group. -/
def linkedElsewhere (s : LinkedGroup) (guid : Guid) : GroupLink → Bool
  | .group => (s.players.find? guid).any LinkedPlayer.otherGroup
  | .originalGroup => (s.players.find? guid).any LinkedPlayer.otherOriginalGroup

def setElsewhere (elsewhere : Bool) (player : LinkedPlayer) : GroupLink → LinkedPlayer
  | .group => { player with otherGroup := elsewhere }
  | .originalGroup => { player with otherOriginalGroup := elsewhere }

/-- `unlink` of a reference. -/
def unlink (s : LinkedGroup) (guid : Guid) (link : GroupLink) : LinkedGroup :=
  { s.modifyPlayer guid fun player => setElsewhere false player link with
    memberMgr := s.memberMgr.erase (guid, link) }

/-- `link` of a reference to this group. -/
def linkMember (s : LinkedGroup) (guid : Guid) (link : GroupLink) : LinkedGroup :=
  let s := s.unlink guid link
  { s with memberMgr := (guid, link) :: s.memberMgr }

/-- `link` of a reference to another group. -/
def linkElsewhere (s : LinkedGroup) (guid : Guid) (link : GroupLink) : LinkedGroup :=
  (s.unlink guid link).modifyPlayer guid fun player => setElsewhere true player link

/-- A reference of a player is made to point where another one of his does. -/
def copyLink (s : LinkedGroup) (guid : Guid) (source target : GroupLink) : LinkedGroup :=
  if s.linked guid source then s.linkMember guid target
  else if s.linkedElsewhere guid source then s.linkElsewhere guid target
  else s.unlink guid target

/-- `Player::SetBattlegroundOrBattlefieldRaid` with this group. -/
def setBattlegroundOrBattlefieldRaid (s : LinkedGroup) (guid : Guid) : LinkedGroup :=
  let s := s.copyLink guid .group .originalGroup
  (s.unlink guid .group).linkMember guid .group

/-- `Player::SetBattlegroundOrBattlefieldRaid` with another group. -/
def visitBattlegroundRaid (s : LinkedGroup) (guid : Guid) : LinkedGroup :=
  let s := s.copyLink guid .group .originalGroup
  (s.unlink guid .group).linkElsewhere guid .group

/-- `Player::RemoveFromBattlegroundOrBattlefieldRaid`. -/
def removeFromBattlegroundOrBattlefieldRaid (s : LinkedGroup) (guid : Guid) : LinkedGroup :=
  (s.copyLink guid .originalGroup .group).unlink guid .originalGroup

/-- `Group::DelinkMember`. -/
def delinkMember (s : LinkedGroup) (guid : Guid) : LinkedGroup :=
  match s.memberMgr.find? fun ref => ref.1 = guid with
  | none => s
  | some ref => s.unlink guid ref.2

/-- `Create`: the leader is online and found. -/
def create (leader : Guid) (isBGGroup isBFGroup : Bool) (players : OrderedMap Guid LinkedPlayer) :
    LinkedGroup :=
  let s : LinkedGroup := ⟨Group.create leader isBGGroup isBFGroup, [], players⟩
  if s.linkedElsewhere leader .group then
    if isBGGroup || isBFGroup then s.setBattlegroundOrBattlefieldRaid leader
    else s.linkMember leader .originalGroup
  else s.linkMember leader .group

/-- `AddMember` of a player who is online. -/
def addMember (s : LinkedGroup) (guid : Guid) : LinkedGroup :=
  if s.players.contains guid then
    match s.group.addMember guid with
    | (_, false) => s
    | (group, true) =>
      let s := { s with group }
      if s.linked guid .group || s.linkedElsewhere guid .group then
        if group.isBGGroup || group.isBFGroup then s.setBattlegroundOrBattlefieldRaid guid
        else s.linkMember guid .originalGroup
      else s.linkMember guid .group
  else s

/-- The links after `RemoveMember` cut those of a member. -/
def removeLinks (s : LinkedGroup) (guid : Guid) : LinkedGroup :=
  let visited := s.group.isBGGroup || s.group.isBFGroup
  let s :=
    if s.findPlayer guid then
      if visited then s.removeFromBattlegroundOrBattlefieldRaid guid
      else if s.linked guid .originalGroup then s.unlink guid .originalGroup
      else s.unlink guid .group
    else s
  if visited then s else s.delinkMember guid

/-- The only one left keeps the dungeon group: the dungeon has a map, and the leader is found, dead
or on that map. -/
def keepsDungeon (s : LinkedGroup) (leader : Guid) (dungeonMap : Nat) : Bool :=
  dungeonMap ≠ 0 && ((s.players.find? leader).any fun player =>
    player.inWorld && !(player.isAlive && player.mapId ≠ dungeonMap))

/-- What `RemoveMember` learns from the players. -/
def removeContext (s : LinkedGroup) (guid : Guid) (dungeonMap : Nat) : RemoveContext :=
  ⟨s.findPlayer, (s.removeLinks guid).memberMgr.length,
    s.keepsDungeon ((s.group.removeSlot guid).pickLeader s.findPlayer guid).leaderGuid dungeonMap⟩

/-- `OnGroupRemoveMember`: a member of a dungeon group who is in the dungeon is sent to his entry
point. `teleports` tells whether the hook comes to that and the teleport takes him off the map. -/
def onRemoveMember (s : LinkedGroup) (guid : Guid) (method : RemoveMethod) (dungeonMap : Nat)
    (teleports : Bool) : LinkedGroup :=
  if s.group.isLFGGroup && method ≠ .kick && teleports && s.linked guid .group then
    s.modifyPlayer guid fun player =>
      { player with inWorld := player.inWorld && player.mapId ≠ dungeonMap }
  else s

/-- `RemoveMember` after its script hook. -/
def removeFromGroup (s : LinkedGroup) (guid : Guid) (method : RemoveMethod) (dungeonMap : Nat) :
    Option LinkedGroup :=
  if s.group.isLFGGroup && method = .kick then some s
  else (s.group.removeMember guid method (s.removeContext guid dungeonMap)).map fun group =>
    { s.removeLinks guid with group }

/-- `RemoveMember`; `dungeonMap` is what `GetDungeonMapId` returns. -/
def removeMember (s : LinkedGroup) (guid : Guid) (method : RemoveMethod) (dungeonMap : Nat)
    (teleports : Bool) : Option LinkedGroup :=
  (s.onRemoveMember guid method dungeonMap teleports).removeFromGroup guid method dungeonMap

/-- `ChangeLeader`. -/
def changeLeader (s : LinkedGroup) (newLeaderGuid : Guid) : LinkedGroup :=
  { s with group := s.group.changeLeader s.findPlayer newLeaderGuid }

/-- A login with `Player::_LoadGroup`: the row of a member that is not of a battleground or
battlefield links him. -/
def login (s : LinkedGroup) (guid : Guid) (isAlive : Bool) (mapId : Nat) : LinkedGroup :=
  if s.players.contains guid then s
  else
    let s := { s with players := s.players.insert guid ⟨true, isAlive, mapId, false, false⟩ }
    if (s.group.getMemberSlot guid).isSome && !(s.group.isBGGroup || s.group.isBFGroup) then
      s.linkMember guid .group
    else s

/-- The player object is deleted. -/
def deletePlayer (s : LinkedGroup) (guid : Guid) : LinkedGroup :=
  { s with
    memberMgr := s.memberMgr.filter fun ref => ref.1 ≠ guid
    players := s.players.erase guid }

/-- A logout removes the player from a group that is no raid, when he has a connection. -/
def leavesOnLogout (s : LinkedGroup) (guid : Guid) (connected : Bool) : Bool :=
  connected && s.linked guid .group && !s.group.isRaidGroup

/-- `LogoutPlayer`. -/
def logout (s : LinkedGroup) (guid : Guid) (connected : Bool) (dungeonMap : Nat)
    (teleports : Bool) : Option LinkedGroup :=
  if s.leavesOnLogout guid connected then
    (s.removeMember guid .default dungeonMap teleports).map fun s => s.deletePlayer guid
  else some (s.deletePlayer guid)

/-! ### Runs -/

/-- What changes the group or where its members are. -/
inductive Operation
  | addMember (guid : Guid)
  | removeMember (guid : Guid) (method : RemoveMethod) (dungeonMap : Nat) (teleports : Bool)
  | changeLeader (newLeaderGuid : Guid)
  | login (guid : Guid) (isAlive : Bool) (mapId : Nat)
  | logout (guid : Guid) (connected : Bool) (dungeonMap : Nat) (teleports : Bool)
  | beginTeleport (guid : Guid)
  | endTeleport (guid : Guid) (mapId : Nat)
  | setAlive (guid : Guid) (isAlive : Bool)
  | rejoinRaid (guid : Guid)
  | visitOtherRaid (guid : Guid)
  | returnFromRaid (guid : Guid)
  | convertToLFG
  | convertToLFR
  | convertToRaid
  | convertToGroup

/-- One operation on a group that exists. -/
def apply (s : LinkedGroup) : Operation → Option LinkedGroup
  | .addMember guid => some (s.addMember guid)
  | .removeMember guid method dungeonMap teleports =>
    s.removeMember guid method dungeonMap teleports
  | .changeLeader newLeaderGuid => some (s.changeLeader newLeaderGuid)
  | .login guid isAlive mapId => some (s.login guid isAlive mapId)
  | .logout guid connected dungeonMap teleports => s.logout guid connected dungeonMap teleports
  | .beginTeleport guid =>
    some (s.modifyPlayer guid fun player => { player with inWorld := false })
  | .endTeleport guid mapId =>
    some (s.modifyPlayer guid fun player => { player with inWorld := true, mapId := mapId })
  | .setAlive guid isAlive => some (s.modifyPlayer guid fun player => { player with isAlive })
  | .rejoinRaid guid =>
    if (s.group.getMemberSlot guid).isSome then some (s.setBattlegroundOrBattlefieldRaid guid)
    else some s
  | .visitOtherRaid guid => some (s.visitBattlegroundRaid guid)
  | .returnFromRaid guid => some (s.removeFromBattlegroundOrBattlefieldRaid guid)
  | .convertToLFG => some { s with group := s.group.convertToLFG }
  | .convertToLFR => some { s with group := s.group.convertToLFR }
  | .convertToRaid => some { s with group := s.group.convertToRaid }
  | .convertToGroup => some { s with group := s.group.convertToGroup }

/-- One operation; a group that was disbanded stays so. -/
def step (s : Option LinkedGroup) (operation : Operation) : Option LinkedGroup :=
  s.bind fun s => s.apply operation

end LinkedGroup

/-- The leader has a slot, and no two slots have one guid. -/
structure Group.Led (g : Group) : Prop where
  leader : ∃ slot ∈ g.memberSlots, slot.guid = g.leaderGuid
  distinct : (g.memberSlots.map MemberSlot.guid).Nodup

namespace Group

variable {g : Group}

variable {guid : Guid} {slot : MemberSlot}

theorem mem_of_getMemberSlot (h : g.getMemberSlot guid = some slot) :
    slot ∈ g.memberSlots ∧ slot.guid = guid :=
  ⟨List.mem_of_find?_eq_some h, by simpa using List.find?_some h⟩

theorem getMemberSlot_isSome (h : slot ∈ g.memberSlots) :
    (g.getMemberSlot slot.guid).isSome = true := by
  rw [getMemberSlot, List.find?_isSome]
  exact ⟨slot, h, decide_eq_true rfl⟩

/-- Only slots and the leader matter. -/
theorem Led.of_eq {g' : Group} (h : g.Led) (hslots : g'.memberSlots = g.memberSlots)
    (hleader : g'.leaderGuid = g.leaderGuid) : g'.Led := by
  constructor
  · rw [hslots, hleader]
    exact h.leader
  · rw [hslots]
    exact h.distinct

/-- A slot with a new guid is added. -/
theorem Led.concat {g' : Group} (h : g.Led) (hslots : g'.memberSlots = g.memberSlots ++ [slot])
    (hleader : g'.leaderGuid = g.leaderGuid)
    (hnew : ∀ other ∈ g.memberSlots, other.guid ≠ slot.guid) : g'.Led := by
  constructor
  · obtain ⟨leader, hmem, hguid⟩ := h.leader
    rw [hslots, hleader]
    exact ⟨leader, List.mem_append_left _ hmem, hguid⟩
  · rw [hslots, List.map_append, List.nodup_append]
    refine ⟨h.distinct, List.nodup_singleton _, ?_⟩
    intro guid hguid guid' hguid'
    obtain ⟨other, hother, rfl⟩ := List.mem_map.mp hguid
    obtain rfl := List.mem_singleton.mp hguid'
    exact hnew other hother

theorem addMember_eq (g : Group) (guid : Guid) :
    (g.addMember guid).1 = g ∨ ∃ slot, slot.guid = guid ∧
      (g.addMember guid).1.memberSlots = g.memberSlots ++ [slot] ∧
      (g.addMember guid).1.leaderGuid = g.leaderGuid := by
  unfold addMember
  split
  · exact .inr ⟨_, rfl, rfl, rfl⟩
  · split
    · exact .inl rfl
    · exact .inr ⟨_, rfl, rfl, rfl⟩

theorem Led.addMember (h : g.Led) (hnew : ∀ slot ∈ g.memberSlots, slot.guid ≠ guid) :
    (g.addMember guid).1.Led := by
  rcases addMember_eq g guid with hsame | ⟨slot, rfl, hslots, hleader⟩
  · rw [hsame]
    exact h
  · exact h.concat hslots hleader hnew

theorem Led.changeLeader (h : g.Led) (findPlayer : Guid → Bool) (newLeaderGuid : Guid) :
    (g.changeLeader findPlayer newLeaderGuid).Led := by
  unfold Group.changeLeader
  split
  · next hfound =>
      obtain ⟨slot, hslot⟩ := Option.isSome_iff_exists.mp hfound.1
      exact ⟨⟨slot, mem_of_getMemberSlot hslot⟩, h.distinct⟩
  · exact h

/-! ### Removal -/

theorem removeSlot_slots (g : Group) (guid : Guid) :
    (g.removeSlot guid).memberSlots = g.memberSlots.eraseP fun slot => slot.guid = guid := by
  unfold removeSlot
  split
  · next hnone =>
      refine (List.eraseP_of_forall_not fun slot hslot hguid => ?_).symm
      have hno := List.find?_eq_none.mp hnone slot hslot
      exact hno hguid
  · rfl

theorem removeSlot_leaderGuid (g : Group) (guid : Guid) :
    (g.removeSlot guid).leaderGuid = g.leaderGuid := by
  unfold removeSlot
  split
  · rfl
  · rfl

/-- With distinct guids, the slots left are those of the others. -/
theorem mem_removeSlot (h : (g.memberSlots.map MemberSlot.guid).Nodup) :
    slot ∈ (g.removeSlot guid).memberSlots ↔ slot ∈ g.memberSlots ∧ slot.guid ≠ guid := by
  rw [removeSlot_slots]
  generalize g.memberSlots = slots at h
  induction slots with
  | nil => simp
  | cons first rest ih =>
    rw [List.map_cons, List.nodup_cons] at h
    by_cases hfirst : first.guid = guid
    · have herase : (first :: rest).eraseP (fun slot => slot.guid = guid) = rest := by
        simp [hfirst]
      rw [herase]
      constructor
      · intro hmem
        refine ⟨List.mem_cons_of_mem _ hmem, fun hguid => h.1 ?_⟩
        rw [hfirst, ← hguid]
        exact List.mem_map_of_mem hmem
      · rintro ⟨hmem, hguid⟩
        rcases List.mem_cons.mp hmem with rfl | hrest
        · exact absurd hfirst hguid
        · exact hrest
    · have herase : (first :: rest).eraseP (fun slot => slot.guid = guid) =
          first :: rest.eraseP fun slot => slot.guid = guid := by
        simp [hfirst]
      rw [herase, List.mem_cons, List.mem_cons, ih h.2]
      constructor
      · rintro (rfl | ⟨hmem, hguid⟩)
        · exact ⟨.inl rfl, hfirst⟩
        · exact ⟨.inr hmem, hguid⟩
      · rintro ⟨rfl | hmem, hguid⟩
        · exact .inl rfl
        · exact .inr ⟨hmem, hguid⟩

theorem nodup_removeSlot (h : (g.memberSlots.map MemberSlot.guid).Nodup) (guid : Guid) :
    ((g.removeSlot guid).memberSlots.map MemberSlot.guid).Nodup := by
  rw [removeSlot_slots]
  exact h.sublist (List.eraseP_sublist.map _)

/-- The removal of a member who is not the leader. -/
theorem Led.removeSlot (h : g.Led) (hne : g.leaderGuid ≠ guid) : (g.removeSlot guid).Led := by
  refine ⟨?_, nodup_removeSlot h.distinct guid⟩
  obtain ⟨leader, hmem, hguid⟩ := h.leader
  rw [removeSlot_leaderGuid]
  exact ⟨leader, (mem_removeSlot h.distinct).mpr ⟨hmem, by rw [hguid]; exact hne⟩, hguid⟩

/-- A removed leader is replaced exactly when another member is found. -/
theorem led_pickLeader_iff (h : g.Led) (findPlayer : Guid → Bool) :
    ((g.removeSlot guid).pickLeader findPlayer guid).Led ↔
      (g.leaderGuid = guid → ∃ slot ∈ g.memberSlots, slot.guid ≠ guid ∧ findPlayer slot.guid) := by
  by_cases hleader : g.leaderGuid = guid
  · have hdistinct := nodup_removeSlot h.distinct guid
    unfold pickLeader
    rw [removeSlot_leaderGuid, if_pos hleader]
    cases hfind : (g.removeSlot guid).memberSlots.find? fun slot => findPlayer slot.guid with
    | none =>
      have hnobody := List.find?_eq_none.mp hfind
      constructor
      · rintro ⟨⟨slot, hmem, hguid⟩, -⟩
        rw [removeSlot_leaderGuid, hleader] at hguid
        exact absurd hguid ((mem_removeSlot h.distinct).mp hmem).2
      · intro hfound
        obtain ⟨slot, hmem, hne, hplayer⟩ := hfound hleader
        exact absurd hplayer (hnobody slot ((mem_removeSlot h.distinct).mpr ⟨hmem, hne⟩))
    | some slot =>
      have hmem := List.mem_of_find?_eq_some hfind
      have hplayer : findPlayer slot.guid = true := by simpa using List.find?_some hfind
      obtain ⟨hmem', hne⟩ := (mem_removeSlot h.distinct).mp hmem
      dsimp only
      unfold Group.changeLeader
      rw [if_pos ⟨getMemberSlot_isSome hmem, hplayer⟩]
      exact ⟨fun _ _ => ⟨slot, hmem', hne, hplayer⟩, fun _ => ⟨⟨slot, hmem, rfl⟩, hdistinct⟩⟩
  · unfold pickLeader
    rw [removeSlot_leaderGuid, if_neg hleader]
    exact ⟨fun _ hno => absurd hno hleader, fun _ => h.removeSlot hleader⟩

theorem pickLeader_of_nobody {findPlayer : Guid → Bool}
    (h : (g.memberSlots.map MemberSlot.guid).Nodup)
    (hnobody : ¬ ∃ slot ∈ g.memberSlots, slot.guid ≠ guid ∧ findPlayer slot.guid = true) :
    (g.removeSlot guid).pickLeader findPlayer guid = g.removeSlot guid := by
  unfold pickLeader
  split
  · have hnone : (g.removeSlot guid).memberSlots.find? (fun slot => findPlayer slot.guid) = none := by
      rw [List.find?_eq_none]
      intro slot hslot hplayer
      obtain ⟨hmem, hne⟩ := (mem_removeSlot h).mp hslot
      exact hnobody ⟨slot, hmem, hne, hplayer⟩
    rw [hnone]
  · rfl

theorem length_removeSlot (h : slot ∈ g.memberSlots) :
    (g.removeSlot slot.guid).memberSlots.length = g.memberSlots.length - 1 := by
  rw [removeSlot_slots]
  exact List.length_eraseP_of_mem h (decide_eq_true rfl)

/-- A new group has one slot, of its leader. -/
theorem create_slots (leader : Guid) (isBGGroup isBFGroup : Bool) :
    ∃ slot, slot.guid = leader ∧ (create leader isBGGroup isBFGroup).memberSlots = [slot] ∧
      (create leader isBGGroup isBFGroup).leaderGuid = leader := by
  cases isBGGroup with
  | true => exact ⟨⟨leader, 0⟩, rfl, rfl, rfl⟩
  | false =>
    cases isBFGroup with
    | true => exact ⟨⟨leader, 0⟩, rfl, rfl, rfl⟩
    | false => exact ⟨⟨leader, 0⟩, rfl, rfl, rfl⟩

end Group

namespace LinkedGroup

variable {s : LinkedGroup}

variable {guid : Guid} {method : RemoveMethod} {dungeonMap : Nat}

/-- The group is disbanded when the member, its leader, is removed and not replaced. -/
def Disbands (s : LinkedGroup) (guid : Guid) (dungeonMap : Nat) : Prop :=
  s.group.outlivesRemoval = false ∨
  (s.group.isLFGGroup = true ∧ s.group.memberSlots.length = 2 ∧
    s.keepsDungeon guid dungeonMap = false) ∨
  (s.removeLinks guid).memberMgr.length <
    (if s.group.isLFGGroup || s.group.isBGGroup then 1 else 2)

/-- A leader is only removed when another member is found, or when the group is disbanded. -/
def KeepsLeader (s : LinkedGroup) (guid : Guid) (method : RemoveMethod) (dungeonMap : Nat) : Prop :=
  s.group.leaderGuid = guid →
    (s.group.isLFGGroup = true ∧ method = .kick) ∨
    (∃ slot ∈ s.group.memberSlots, slot.guid ≠ guid ∧ s.findPlayer slot.guid = true) ∨
    s.Disbands guid dungeonMap

theorem removeFromGroup_of_kick (dungeonMap : Nat)
    (hkick : s.group.isLFGGroup = true ∧ method = .kick) :
    s.removeFromGroup guid method dungeonMap = some s := by
  unfold removeFromGroup
  rw [if_pos (by simpa using hkick)]

theorem isLFGGroup_pickLeader (g : Group) (guid : Guid) (findPlayer : Guid → Bool) :
    ((g.removeSlot guid).pickLeader findPlayer guid).isLFGGroup = g.isLFGGroup ∧
      ((g.removeSlot guid).pickLeader findPlayer guid).isBGGroup = g.isBGGroup := by
  have hslot : (g.removeSlot guid).isLFGGroup = g.isLFGGroup ∧
      (g.removeSlot guid).isBGGroup = g.isBGGroup := by
    unfold Group.removeSlot
    split
    · exact ⟨rfl, rfl⟩
    · exact ⟨rfl, rfl⟩
  rw [← hslot.1, ← hslot.2]
  unfold Group.pickLeader
  split
  · split
    · exact ⟨rfl, rfl⟩
    · unfold Group.changeLeader
      split
      · exact ⟨rfl, rfl⟩
      · exact ⟨rfl, rfl⟩
  · exact ⟨rfl, rfl⟩

/-- What `RemoveMember` returns when the member is really removed. -/
theorem removeFromGroup_eq (hkick : ¬ (s.group.isLFGGroup = true ∧ method = .kick)) :
    s.removeFromGroup guid method dungeonMap =
      let group := (s.group.removeSlot guid).pickLeader s.findPlayer guid
      if s.group.outlivesRemoval = false ∨
          (s.group.isLFGGroup = true ∧ group.memberSlots.length = 1 ∧
            s.keepsDungeon group.leaderGuid dungeonMap = false) ∨
          (s.removeLinks guid).memberMgr.length <
            (if s.group.isLFGGroup || s.group.isBGGroup then 1 else 2) then none
      else some { s.removeLinks guid with group } := by
  have hkick' : ¬ (s.group.isLFGGroup && decide (method = .kick)) = true := by simpa using hkick
  obtain ⟨hlfg, hbg⟩ := isLFGGroup_pickLeader s.group guid s.findPlayer
  unfold removeFromGroup Group.removeMember
  rw [if_neg hkick', if_neg hkick']
  unfold removeContext
  dsimp only
  rw [hlfg, hbg]
  cases hout : s.group.outlivesRemoval with
  | false => simp
  | true =>
    by_cases hlast : s.group.isLFGGroup = true ∧
        ((s.group.removeSlot guid).pickLeader s.findPlayer guid).memberSlots.length = 1 ∧
        s.keepsDungeon ((s.group.removeSlot guid).pickLeader s.findPlayer guid).leaderGuid
          dungeonMap = false
    · rw [if_pos rfl, if_pos (by simpa [and_assoc] using hlast), if_pos (.inr (.inl hlast))]
      rfl
    · rw [if_pos rfl, if_neg (by simpa [and_assoc] using hlast)]
      by_cases hfew : (s.removeLinks guid).memberMgr.length <
          (if s.group.isLFGGroup || s.group.isBGGroup then 1 else 2)
      · rw [if_pos hfew, if_pos (.inr (.inr hfew))]
        rfl
      · rw [if_neg hfew, if_neg (by
          rintro (hno | hno | hno)
          · cases hno
          · exact hlast hno
          · exact hfew hno)]
        rfl

/-- After the script hook, a group with a leader keeps one exactly under `KeepsLeader`. -/
theorem removeFromGroup_led_iff (h : s.group.Led) :
    (∀ s', s.removeFromGroup guid method dungeonMap = some s' → s'.group.Led) ↔
      s.KeepsLeader guid method dungeonMap := by
  by_cases hkick : s.group.isLFGGroup = true ∧ method = .kick
  · rw [removeFromGroup_of_kick dungeonMap hkick]
    exact ⟨fun _ _ => .inl hkick, fun _ s' hs => Option.some.inj hs ▸ h⟩
  rw [removeFromGroup_eq hkick]
  dsimp only
  have hiff : ((s.group.removeSlot guid).pickLeader s.findPlayer guid).Led ↔
      (s.group.leaderGuid = guid →
        ∃ slot ∈ s.group.memberSlots, slot.guid ≠ guid ∧ s.findPlayer slot.guid = true) :=
    Group.led_pickLeader_iff h s.findPlayer
  by_cases hfound : s.group.leaderGuid = guid →
      ∃ slot ∈ s.group.memberSlots, slot.guid ≠ guid ∧ s.findPlayer slot.guid = true
  · refine ⟨fun _ hleader => .inr (.inl (hfound hleader)), fun _ s' hs => ?_⟩
    obtain ⟨-, hs⟩ := Option.ite_none_left_eq_some.mp hs
    obtain rfl := Option.some.inj hs
    exact hiff.mpr hfound
  · obtain ⟨hleader, hnobody⟩ := Classical.not_imp.mp hfound
    have hsame := Group.pickLeader_of_nobody h.distinct hnobody
    obtain ⟨slot, hmem, hslot⟩ := h.leader
    have hlength := Group.length_removeSlot hmem
    rw [hslot, hleader] at hlength
    have hpos := List.length_pos_of_mem hmem
    have hdisbands : (s.group.outlivesRemoval = false ∨
          (s.group.isLFGGroup = true ∧
            ((s.group.removeSlot guid).pickLeader s.findPlayer guid).memberSlots.length = 1 ∧
            s.keepsDungeon ((s.group.removeSlot guid).pickLeader s.findPlayer guid).leaderGuid
              dungeonMap = false) ∨
          (s.removeLinks guid).memberMgr.length <
            (if s.group.isLFGGroup || s.group.isBGGroup then 1 else 2)) ↔
        s.Disbands guid dungeonMap := by
      rw [hsame, Group.removeSlot_leaderGuid, hleader, hlength]
      unfold Disbands
      have htwo : s.group.memberSlots.length - 1 = 1 ↔ s.group.memberSlots.length = 2 := by omega
      rw [htwo]
    by_cases hgone : s.Disbands guid dungeonMap
    · rw [if_pos (hdisbands.mpr hgone)]
      exact ⟨fun _ _ => .inr (.inr hgone), fun _ s' hs => by cases hs⟩
    · rw [if_neg (mt hdisbands.mp hgone)]
      constructor
      · intro hled
        exact absurd (hiff.mp (hled _ rfl)) hfound
      · intro hkeeps
        rcases hkeeps hleader with hno | hno | hno
        · exact absurd hno hkick
        · exact absurd hno hnobody
        · exact absurd hno hgone

theorem group_onRemoveMember (s : LinkedGroup) (guid : Guid) (method : RemoveMethod)
    (dungeonMap : Nat) (teleports : Bool) :
    (s.onRemoveMember guid method dungeonMap teleports).group = s.group := by
  unfold onRemoveMember
  split
  · rfl
  · rfl

/-- From a group with a leader, a removal leaves one exactly when `KeepsLeader` holds once the
script hook has been called. -/
theorem keepsLeader_iff (h : s.group.Led) {teleports : Bool} :
    (∀ s', s.removeMember guid method dungeonMap teleports = some s' → s'.group.Led) ↔
      (s.onRemoveMember guid method dungeonMap teleports).KeepsLeader guid method dungeonMap :=
  removeFromGroup_led_iff (h.of_eq (by rw [group_onRemoveMember]) (by rw [group_onRemoveMember]))

/-! ### Every run -/

/-- The operations that keep a leader and distinct guids. -/
def Keeps (s : LinkedGroup) : Operation → Prop
  | .addMember guid => ∀ slot ∈ s.group.memberSlots, slot.guid ≠ guid
  | .removeMember guid method dungeonMap teleports =>
    (s.onRemoveMember guid method dungeonMap teleports).KeepsLeader guid method dungeonMap
  | .logout guid connected dungeonMap teleports =>
    s.leavesOnLogout guid connected = true →
      (s.onRemoveMember guid .default dungeonMap teleports).KeepsLeader guid .default dungeonMap
  | _ => True

/-- The links of players do not touch the group. -/
theorem group_copyLink (s : LinkedGroup) (guid : Guid) (source target : GroupLink) :
    (s.copyLink guid source target).group = s.group := by
  unfold copyLink
  split
  · rfl
  · split
    · rfl
    · rfl

theorem group_setBattlegroundOrBattlefieldRaid (s : LinkedGroup) (guid : Guid) :
    (s.setBattlegroundOrBattlefieldRaid guid).group = s.group :=
  group_copyLink s guid .group .originalGroup

theorem led_addMember (h : s.group.Led) (hnew : ∀ slot ∈ s.group.memberSlots, slot.guid ≠ guid) :
    (s.addMember guid).group.Led := by
  have hled := h.addMember hnew
  unfold addMember
  split
  · split
    · exact h
    · next group heq =>
        rw [heq] at hled
        dsimp only
        split
        · split
          · rw [group_setBattlegroundOrBattlefieldRaid]
            exact hled
          · exact hled
        · exact hled
  · exact h

theorem led_login (h : s.group.Led) (guid : Guid) (isAlive : Bool) (mapId : Nat) :
    (s.login guid isAlive mapId).group.Led := by
  unfold login
  split
  · exact h
  · dsimp only
    split
    · exact h
    · exact h

theorem led_logout (h : s.group.Led) {connected teleports : Bool}
    (hkeeps : s.leavesOnLogout guid connected = true →
      (s.onRemoveMember guid .default dungeonMap teleports).KeepsLeader guid .default dungeonMap)
    {s' : LinkedGroup} (hs : s.logout guid connected dungeonMap teleports = some s') :
    s'.group.Led := by
  unfold logout at hs
  split at hs
  · next hleaves =>
      obtain ⟨left, hleft, rfl⟩ := Option.map_eq_some_iff.mp hs
      exact (keepsLeader_iff h).mpr (hkeeps hleaves) left hleft
  · obtain rfl := Option.some.inj hs
    exact h

theorem led_convertToGroup {g : Group} (h : g.Led) : g.convertToGroup.Led := by
  unfold Group.convertToGroup
  split
  · exact h
  · exact h.of_eq rfl rfl

/-- One operation that the condition allows. -/
theorem led_apply (h : s.group.Led) {operation : Operation} (hkeeps : s.Keeps operation)
    {s' : LinkedGroup} (hs : s.apply operation = some s') : s'.group.Led := by
  cases operation with
  | addMember guid =>
    obtain rfl := Option.some.inj hs
    exact led_addMember h hkeeps
  | removeMember guid method dungeonMap teleports => exact (keepsLeader_iff h).mpr hkeeps s' hs
  | changeLeader newLeaderGuid =>
    obtain rfl := Option.some.inj hs
    exact h.changeLeader _ _
  | login guid isAlive mapId =>
    obtain rfl := Option.some.inj hs
    exact led_login h guid isAlive mapId
  | logout guid connected dungeonMap teleports => exact led_logout h hkeeps hs
  | beginTeleport guid =>
    obtain rfl := Option.some.inj hs
    exact h
  | endTeleport guid mapId =>
    obtain rfl := Option.some.inj hs
    exact h
  | setAlive guid isAlive =>
    obtain rfl := Option.some.inj hs
    exact h
  | rejoinRaid guid =>
    change (if (s.group.getMemberSlot guid).isSome then
      some (s.setBattlegroundOrBattlefieldRaid guid) else some s) = some s' at hs
    split at hs
    · obtain rfl := Option.some.inj hs
      rw [group_setBattlegroundOrBattlefieldRaid]
      exact h
    · obtain rfl := Option.some.inj hs
      exact h
  | visitOtherRaid guid =>
    obtain rfl := Option.some.inj hs
    exact (group_copyLink s guid .group .originalGroup).symm ▸ h
  | returnFromRaid guid =>
    obtain rfl := Option.some.inj hs
    exact (group_copyLink s guid .originalGroup .group).symm ▸ h
  | convertToLFG =>
    obtain rfl := Option.some.inj hs
    exact h.of_eq rfl rfl
  | convertToLFR =>
    obtain rfl := Option.some.inj hs
    exact h.of_eq rfl rfl
  | convertToRaid =>
    obtain rfl := Option.some.inj hs
    exact h.of_eq rfl rfl
  | convertToGroup =>
    obtain rfl := Option.some.inj hs
    exact led_convertToGroup h

theorem led_create (leader : Guid) (isBGGroup isBFGroup : Bool)
    (players : OrderedMap Guid LinkedPlayer) :
    (create leader isBGGroup isBFGroup players).group.Led := by
  have hgroup : (create leader isBGGroup isBFGroup players).group =
      Group.create leader isBGGroup isBFGroup := by
    unfold create
    dsimp only
    split
    · split
      · exact group_setBattlegroundOrBattlefieldRaid _ leader
      · rfl
    · rfl
  obtain ⟨slot, hguid, hslots, hleader⟩ := Group.create_slots leader isBGGroup isBFGroup
  rw [hgroup]
  constructor
  · rw [hslots, hleader]
    exact ⟨slot, List.mem_singleton.mpr rfl, hguid⟩
  · rw [hslots]
    exact List.nodup_singleton _

/-- In every run whose operations keep a leader, a group that still exists has one among its member
slots, which have distinct guids. -/
theorem led_of_run (leader : Guid) (isBGGroup isBFGroup : Bool)
    (players : OrderedMap Guid LinkedPlayer) (operations : List Operation)
    (h : Runs.Admissible step (fun s operation => ∀ group, s = some group → group.Keeps operation)
      (some (create leader isBGGroup isBFGroup players)) operations)
    {before : List Operation} (hbefore : before <+: operations) {s : LinkedGroup}
    (hexists : Runs.run step (some (create leader isBGGroup isBFGroup players)) before = some s) :
    s.group.Led := by
  have hinvariant := h.invariant (P := fun state => ∀ group, state = some group → group.group.Led)
    (fun {state operation} hled hkeeps group hgroup => by
      cases state with
      | none => cases hgroup
      | some old => exact led_apply (hled old rfl) (hkeeps old rfl) hgroup)
    (fun group hgroup => Option.some.inj hgroup ▸ led_create leader isBGGroup isBFGroup players)
    hbefore
  exact hinvariant s hexists

/-- Three players who are found. -/
def threePlayers : OrderedMap Guid LinkedPlayer :=
  ((OrderedMap.empty.insert 1 ⟨true, true, 0, false, false⟩).insert 2
    ⟨true, true, 0, false, false⟩).insert 3 ⟨true, true, 0, false, false⟩

/-- The leader leaves after a member came back from a far teleport. -/
def leaveAfterTeleport : List Operation :=
  [.addMember 2, .addMember 3, .beginTeleport 2, .beginTeleport 3, .endTeleport 3 0,
    .removeMember 1 .leave 0 false]

theorem keeps_leaveAfterTeleport :
    Runs.Admissible step (fun s operation => ∀ group, s = some group → group.Keeps operation)
      (some (create 1 false false threePlayers)) leaveAfterTeleport := by
  refine ⟨?_, ?_, fun _ _ => trivial, fun _ _ => trivial, fun _ _ => trivial, ?_, trivial⟩
  · intro group hgroup
    obtain rfl := Option.some.inj hgroup
    unfold Keeps
    decide +kernel
  · intro group hgroup
    obtain rfl := Option.some.inj hgroup
    unfold Keeps
    decide +kernel
  · intro group hgroup
    obtain rfl := Option.some.inj hgroup
    refine fun _ => .inr (.inl ⟨⟨3, 0⟩, ?_, ?_, ?_⟩)
    · decide +kernel
    · decide
    · decide +kernel

/-- The leader leaves while the second member teleports, and the third becomes leader. -/
theorem led_leaveAfterTeleport :
    ∃ s, Runs.run step (some (create 1 false false threePlayers)) leaveAfterTeleport = some s ∧
      s.group.Led :=
  ⟨_, rfl, led_of_run 1 false false threePlayers leaveAfterTeleport keeps_leaveAfterTeleport
    (List.prefix_refl leaveAfterTeleport) rfl⟩

/-- The leader leaves while both members teleport, and the group goes on without one. -/
theorem leaderlessAfterLeave :
    ∃ s, Runs.run step (some (create 1 false false threePlayers))
        [.addMember 2, .addMember 3, .beginTeleport 2, .beginTeleport 3,
          .removeMember 1 .leave 0 false] = some s ∧
      ¬ s.group.Led := by
  refine ⟨_, rfl, fun h => ?_⟩
  have hleader := h.leader
  revert hleader
  decide +kernel

end LinkedGroup

end Cataclysm
