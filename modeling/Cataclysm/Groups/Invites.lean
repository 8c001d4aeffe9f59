import Cataclysm.Groups.SubGroups

/-!
# Group invitations

An invitation is stored twice: the group has the player among its invitees, and the
player has a pointer to the group. A group that nobody has joined yet exists only for
its invitations; its leader is invited too.

Two requests break the agreement. A player without a group who invites himself gets the
leader's invitation of a new group that is deleted at once. And a leader who declined
his own new group by accepting it can be invited elsewhere; when somebody joins the
first group, the leader loses the pointer of the other invitation, but stays in that
group's set. In every run without these two the two sides agree.

## Implementation notes

A group is named by its address; `nextGroup` is the next one that `new` returns. A
pointer to a deleted group may stay in a player's `GroupInvite`; what the source would
do with it is undefined, and the model does nothing then. References of type
`GroupReference` are cleared when their group is deleted. `Group` is the group of
`SubGroups`. The checks of the handlers that do not look at groups (names, factions,
instances, ignore lists, being in a battleground, the dungeon finder's rules for kicks)
are one flag of `RequestContext`.
-/

namespace Cataclysm
open Runs

/-- The counter of a group's guid. -/
abbrev GroupId := Nat

/-- A `Group` with `m_invitees`. -/
structure InvitingGroup where
  group : Group
  invitees : Finset Guid

/-- The group pointers of a player. -/
structure PlayerLinks where
  group : Option GroupId
  originalGroup : Option GroupId
  groupInvite : Option GroupId
  deriving DecidableEq

/-- All groups that exist, and the pointers of all players. -/
structure Parties where
  groups : GroupId → Option InvitingGroup
  nextGroup : GroupId
  players : Guid → PlayerLinks

/-- What a request learns from outside the groups. -/
structure RequestContext extends RemoveContext where
  isAssistant : Guid → Bool
  permitted : Bool

namespace Parties

variable {s s' : Parties} {id j : GroupId} {f : InvitingGroup → InvitingGroup} {player : Guid}

def modifyGroup (s : Parties) (id : GroupId) (f : InvitingGroup → InvitingGroup) : Parties :=
  { s with groups := Function.update s.groups id ((s.groups id).map f) }

def modifyPlayer (s : Parties) (player : Guid) (f : PlayerLinks → PlayerLinks) : Parties :=
  { s with players := Function.update s.players player (f (s.players player)) }

def setGroupInvite (s : Parties) (player : Guid) (invite : Option GroupId) : Parties :=
  s.modifyPlayer player fun links => { links with groupInvite := invite }

/-- `GetGroup`, or the original group when the group is one that players only visit. -/
def ownGroup (s : Parties) (visited : Group → Bool) (player : Guid) : Option GroupId :=
  match (s.players player).group with
  | none => none
  | some id =>
    if (s.groups id).any fun g => visited g.group then (s.players player).originalGroup
    else some id

def removeInvite (s : Parties) (id : GroupId) (player : Guid) : Parties :=
  (s.modifyGroup id fun g => { g with invitees := g.invitees.erase player }).setGroupInvite
    player none

def removeAllInvites (s : Parties) (id : GroupId) : Parties :=
  match s.groups id with
  | none => s
  | some g =>
    { s.modifyGroup id fun g => { g with invitees := ∅ } with
      players := fun player =>
        if player ∈ g.invitees then { s.players player with groupInvite := none }
        else s.players player }

def addInvite (s : Parties) (id : GroupId) (player : Guid) : Parties × Bool :=
  if (s.players player).groupInvite.isSome then (s, false)
  else if (s.ownGroup (fun g => g.isBGGroup || g.isBFGroup) player).isSome then (s, false)
  else
    let s := s.removeInvite id player
    let s := s.modifyGroup id fun g => { g with invitees := insert player g.invitees }
    (s.setGroupInvite player (some id), true)

/-- `new Group`. -/
def newGroup (s : Parties) : Parties :=
  { s with
    groups := Function.update s.groups s.nextGroup (some ⟨⟨false, false, {}, 0, [], none⟩, ∅⟩)
    nextGroup := s.nextGroup + 1 }

def addLeaderInvite (s : Parties) (id : GroupId) (player : Guid) : Parties × Bool :=
  match s.addInvite id player with
  | (s, false) => (s, false)
  | (s, true) =>
    (s.modifyGroup id fun g => { g with group := { g.group with leaderGuid := player } }, true)

/-- `delete group`: references are cleared, the pointers of invitations are not. -/
def deleteGroup (s : Parties) (id : GroupId) : Parties :=
  { s with
    groups := Function.update s.groups id none
    players := fun player =>
      let links := s.players player
      { links with
        group := if links.group = some id then none else links.group
        originalGroup := if links.originalGroup = some id then none else links.originalGroup } }

/-- A member that is found loses his pointer to the group. -/
def unlinkMember (s : Parties) (id : GroupId) (g : Group) (player : Guid) : Parties :=
  s.modifyPlayer player fun links =>
    if g.isBGGroup || g.isBFGroup then
      -- RemoveFromBattlegroundOrBattlefieldRaid
      { links with group := links.originalGroup, originalGroup := none }
    else if links.originalGroup = some id then { links with originalGroup := none }
    else { links with group := none }

/-- `DelinkMember`: a reference of the player to the group is cleared. -/
def delinkMember (s : Parties) (id : GroupId) (player : Guid) : Parties :=
  s.modifyPlayer player fun links =>
    if links.group = some id then { links with group := none }
    else if links.originalGroup = some id then { links with originalGroup := none }
    else links

/-- `Disband` of a group that still has these slots. -/
def disband (s : Parties) (id : GroupId) (g : Group) (slots : List MemberSlot)
    (findPlayer : Guid → Bool) : Parties :=
  let s := slots.foldl
    (fun s slot => if findPlayer slot.guid then s.unlinkMember id g slot.guid else s) s
  (s.removeAllInvites id).deleteGroup id

def removeMember (s : Parties) (id : GroupId) (guid : Guid) (method : RemoveMethod)
    (context : RemoveContext) : Parties :=
  match s.groups id with
  | none => s
  | some g =>
    let g := g.group
    if g.isLFGGroup && method = .kick then s
    else if g.outlivesRemoval then
      let s := if context.findPlayer guid then s.unlinkMember id g guid else s
      let s := if g.isBGGroup || g.isBFGroup then s else s.delinkMember id guid
      match g.removeMember guid method context with
      | none => s.disband id g (g.removeSlot guid).memberSlots context.findPlayer
      | some g => s.modifyGroup id fun old => { old with group := g }
    else s.disband id g g.memberSlots context.findPlayer

/-- The links that `AddMember` sets for the new member. -/
def linkMember (s : Parties) (id : GroupId) (g : Group) (player : Guid) : Parties :=
  let s := s.setGroupInvite player none
  s.modifyPlayer player fun links =>
    if links.group.isSome then
      if g.isBGGroup || g.isBFGroup then { links with group := some id, originalGroup := links.group }
      else { links with originalGroup := some id }
    else { links with group := some id }

def addMember (s : Parties) (id : GroupId) (player : Guid) : Parties :=
  match s.groups id with
  | none => s
  | some g =>
    match g.group.addMember player with
    | (_, false) => s
    | (grown, true) =>
      (s.modifyGroup id fun g => { g with group := grown }).linkMember id g.group player

/-- `Create` for a group of the invite handler. -/
def create (s : Parties) (id : GroupId) (leader : Guid) : Parties :=
  match s.groups id with
  | none => s
  | some g =>
    let created := Group.create leader g.group.isBGGroup g.group.isBFGroup
    (s.modifyGroup id fun g => { g with group := created }).linkMember id created leader

def uninviteFromGroup (s : Parties) (player : Guid) (findPlayer : Guid → Bool) : Parties :=
  match (s.players player).groupInvite with
  | none => s
  | some id =>
    match s.groups id with
    | none => s
    | some g =>
      let s := s.removeInvite id player
      if g.group.memberSlots.length ≤ 1 then
        if g.group.memberSlots.length > 0 then
          s.disband id g.group g.group.memberSlots findPlayer
        else (s.removeAllInvites id).deleteGroup id
      else s

/-- "ok, but group not exist, start a new group". -/
def startGroup (s : Parties) (inviter player : Guid) : Parties :=
  let id := s.nextGroup
  match s.newGroup.addLeaderInvite id inviter with
  | (s, false) => s.deleteGroup id
  | (s, true) =>
    match s.addInvite id player with
    | (s, false) => s.deleteGroup id
    | (s, true) => s

/-- `HandleGroupInviteOpcode`. -/
def handleGroupInvite (s : Parties) (context : RequestContext) (inviter player : Guid) : Parties :=
  if !context.permitted then s
  else if (s.ownGroup Group.isBGGroup player).isSome || (s.players player).groupInvite.isSome then s
  else
    match s.ownGroup Group.isBGGroup inviter with
    | none => s.startGroup inviter player
    | some id =>
      match s.groups id with
      | none => s
      | some g =>
        let group := g.group
        if group.leaderGuid ≠ inviter ∧ !context.isAssistant inviter then s
        else if group.isFull ∨
            (group.isLFGGroup ∧ group.isRaidGroup ∧ group.memberSlots.length ≥ 25) then s
        else if group.isLFGGroup ∧ !group.isRaidGroup then s
        else (s.addInvite id player).1

/-- `HandleGroupInviteResponseOpcode` with `accept`. -/
def handleAccept (s : Parties) (findPlayer : Guid → Bool) (player : Guid) : Parties :=
  match (s.players player).groupInvite with
  | none => s
  | some id =>
    match s.groups id with
    | none => s
    | some g =>
      let leader := g.group.leaderGuid
      let s := s.removeInvite id player
      if leader = player then s
      else if g.group.isFull then s
      else if g.group.memberSlots = [] then
        if !findPlayer leader then s.removeAllInvites id
        else ((s.removeInvite id leader).create id leader).addMember id player
      else s.addMember id player

/-- `HandleGroupInviteResponseOpcode` without `accept`. -/
def handleDecline (s : Parties) (findPlayer : Guid → Bool) (player : Guid) : Parties :=
  s.uninviteFromGroup player findPlayer

/-- `CanUninviteFromGroup`. -/
def canUninviteFromGroup (context : RequestContext) (g : Group) (player guidMember : Guid) : Bool :=
  if g.isLFGGroup then context.permitted
  else (g.leaderGuid = player || context.isAssistant player) && context.permitted &&
    g.leaderGuid ≠ guidMember

/-- The two uninvite handlers; the one by name does not protect the leader. -/
def handleUninvite (s : Parties) (context : RequestContext) (byName : Bool)
    (player guid : Guid) : Parties :=
  if guid = player then s
  else
    match (s.players player).group with
    | none => s
    | some id =>
      match s.groups id with
      | none => s
      | some g =>
        if !canUninviteFromGroup context g.group player (if byName then 0 else guid) then s
        else if (g.group.getMemberSlot guid).isSome then
          s.removeMember id guid .kick context.toRemoveContext
        else if guid ∈ g.invitees then s.uninviteFromGroup guid context.findPlayer
        else s

/-- `HandleGroupDisbandOpcode`. -/
def handleDisband (s : Parties) (context : RequestContext) (player : Guid) : Parties :=
  match (s.players player).group with
  | none => s
  | some id =>
    if !context.permitted then s else s.removeMember id player .leave context.toRemoveContext

/-- The group exists and has the player among its invitees. -/
def Lists (s : Parties) (id : GroupId) (player : Guid) : Prop :=
  ∃ g, s.groups id = some g ∧ player ∈ g.invitees

/-- Every pointer of an invitation leads to a group that lists the player, and every
listed player has the pointer. -/
def InvitesAgree (s : Parties) : Prop :=
  (∀ player id, (s.players player).groupInvite = some id → s.Lists id player) ∧
    ∀ id player, s.Lists id player → (s.players player).groupInvite = some id

/-- The invitations agree and `new` returns an address that is not in use. -/
structure Consistent (s : Parties) : Prop where
  agree : s.InvitesAgree
  fresh : ∀ id, s.nextGroup ≤ id → s.groups id = none

/-- Two states with the same invitations on both sides. -/
structure SameInvites (s s' : Parties) : Prop where
  groupInvite : ∀ player, (s'.players player).groupInvite = (s.players player).groupInvite
  lists : ∀ id player, s'.Lists id player ↔ s.Lists id player
  absent : ∀ id, s.groups id = none → s'.groups id = none
  next : s'.nextGroup = s.nextGroup

theorem SameInvites.refl (s : Parties) : SameInvites s s :=
  ⟨fun _ => rfl, fun _ _ => Iff.rfl, fun _ h => h, rfl⟩

theorem SameInvites.trans {s'' : Parties} (h : SameInvites s s') (h' : SameInvites s' s'') :
    SameInvites s s'' where
  groupInvite player := (h'.groupInvite player).trans (h.groupInvite player)
  lists id player := (h'.lists id player).trans (h.lists id player)
  absent id hnone := h'.absent id (h.absent id hnone)
  next := h'.next.trans h.next

theorem Consistent.of_sameInvites (h : s.Consistent) (hsame : SameInvites s s') :
    s'.Consistent := by
  refine ⟨⟨?_, ?_⟩, ?_⟩
  · intro player id hinvite
    rw [hsame.groupInvite] at hinvite
    exact (hsame.lists id player).mpr (h.agree.1 player id hinvite)
  · intro id player hlists
    rw [hsame.groupInvite]
    exact h.agree.2 id player ((hsame.lists id player).mp hlists)
  · intro id hid
    rw [hsame.next] at hid
    exact hsame.absent id (h.fresh id hid)

theorem groups_modifyGroup_eq_none (f : InvitingGroup → InvitingGroup) (h : s.groups j = none) :
    (s.modifyGroup id f).groups j = none := by
  by_cases hj : j = id
  · subst hj
    simp [modifyGroup, h]
  · simp [modifyGroup, hj, h]

theorem lists_modifyGroup :
    (s.modifyGroup id f).Lists j player ↔
      if j = id then ∃ g, s.groups id = some g ∧ player ∈ (f g).invitees else s.Lists j player := by
  split
  · next hj =>
    subst hj
    simp [Lists, modifyGroup]
  · next hj => simp [Lists, modifyGroup, hj]

/-- A change of a group's content that leaves its invitees. -/
theorem sameInvites_modifyGroup (s : Parties) (id : GroupId)
    (hf : ∀ g, (f g).invitees = g.invitees) : SameInvites s (s.modifyGroup id f) where
  groupInvite _ := rfl
  lists j player := by
    rw [lists_modifyGroup]
    split
    · next hj =>
      subst hj
      simp only [hf, Lists]
    · rfl
  absent _ := groups_modifyGroup_eq_none f
  next := rfl

/-- A change of a player's links that leaves the pointer of his invitation. -/
theorem sameInvites_modifyPlayer (s : Parties) (player : Guid) {f : PlayerLinks → PlayerLinks}
    (hf : ∀ links, (f links).groupInvite = links.groupInvite) :
    SameInvites s (s.modifyPlayer player f) where
  groupInvite other := by
    by_cases h : other = player
    · subst h
      simp [modifyPlayer, hf]
    · simp [modifyPlayer, h]
  lists _ _ := Iff.rfl
  absent _ h := h
  next := rfl

theorem sameInvites_unlinkMember (s : Parties) (id : GroupId) (g : Group) (player : Guid) :
    SameInvites s (s.unlinkMember id g player) := by
  refine sameInvites_modifyPlayer s player fun links => ?_
  split_ifs <;> rfl

theorem sameInvites_delinkMember (s : Parties) (id : GroupId) (player : Guid) :
    SameInvites s (s.delinkMember id player) := by
  refine sameInvites_modifyPlayer s player fun links => ?_
  split_ifs <;> rfl

theorem sameInvites_unlinkMembers (id : GroupId) (g : Group) (findPlayer : Guid → Bool)
    (slots : List MemberSlot) (s : Parties) :
    SameInvites s (slots.foldl
      (fun s slot => if findPlayer slot.guid then s.unlinkMember id g slot.guid else s) s) := by
  induction slots generalizing s with
  | nil => exact SameInvites.refl s
  | cons slot rest ih =>
    rw [List.foldl_cons]
    split
    · exact (sameInvites_unlinkMember s id g slot.guid).trans (ih _)
    · exact ih s

theorem groupInvite_setGroupInvite (s : Parties) (player other : Guid) (invite : Option GroupId) :
    ((s.setGroupInvite player invite).players other).groupInvite =
      if other = player then invite else (s.players other).groupInvite := by
  by_cases h : other = player
  · subst h
    simp [setGroupInvite, modifyPlayer]
  · simp [setGroupInvite, modifyPlayer, h]

theorem groupInvite_removeInvite (s : Parties) (id : GroupId) (player other : Guid) :
    ((s.removeInvite id player).players other).groupInvite =
      if other = player then none else (s.players other).groupInvite :=
  groupInvite_setGroupInvite _ _ _ _

theorem lists_removeInvite {other : Guid} :
    (s.removeInvite id player).Lists j other ↔ s.Lists j other ∧ ¬(j = id ∧ other = player) := by
  change (s.modifyGroup id _).Lists j other ↔ _
  rw [lists_modifyGroup]
  split
  · next hj =>
    subst hj
    simp only [Finset.mem_erase, Lists, true_and]
    constructor
    · rintro ⟨g, hg, hne, hmem⟩
      exact ⟨⟨g, hg, hmem⟩, hne⟩
    · rintro ⟨⟨g, hg, hmem⟩, hne⟩
      exact ⟨g, hg, hne, hmem⟩
  · next hj => simp [hj]

/-- Withdrawing an invitation, when the player has no other one. -/
theorem Consistent.removeInvite (h : s.Consistent)
    (hown : ∀ j, (s.players player).groupInvite = some j → j = id) :
    (s.removeInvite id player).Consistent := by
  refine ⟨⟨?_, ?_⟩, ?_⟩
  · intro other j hinvite
    rw [groupInvite_removeInvite] at hinvite
    split at hinvite
    · cases hinvite
    · next hne =>
      exact lists_removeInvite.mpr ⟨h.agree.1 other j hinvite, fun hboth => hne hboth.2⟩
  · intro j other hlists
    obtain ⟨hold, hnot⟩ := lists_removeInvite.mp hlists
    have hinvite := h.agree.2 j other hold
    rw [groupInvite_removeInvite, if_neg]
    · exact hinvite
    · rintro rfl
      exact hnot ⟨hown j hinvite, rfl⟩
  · intro j hj
    exact groups_modifyGroup_eq_none _ (h.fresh j hj)

theorem lists_removeAllInvites :
    (s.removeAllInvites id).Lists j player ↔ s.Lists j player ∧ j ≠ id := by
  rw [removeAllInvites]
  split
  · next hnone =>
    constructor
    · intro hlists
      refine ⟨hlists, ?_⟩
      rintro rfl
      obtain ⟨g, hg, -⟩ := hlists
      exact absurd (hnone.symm.trans hg) (by simp)
    · exact fun hlists => hlists.1
  · change (s.modifyGroup id _).Lists j player ↔ _
    rw [lists_modifyGroup]
    split
    · next hj => simp [hj]
    · next hj => simp [hj]

theorem nextGroup_removeAllInvites (s : Parties) (id : GroupId) :
    (s.removeAllInvites id).nextGroup = s.nextGroup := by
  rw [removeAllInvites]
  split <;> rfl

theorem Consistent.removeAllInvites (h : s.Consistent) (id : GroupId) :
    (s.removeAllInvites id).Consistent := by
  have hinvite : ∀ player, ((s.removeAllInvites id).players player).groupInvite = none ∨
      ((s.removeAllInvites id).players player).groupInvite = (s.players player).groupInvite ∧
        ¬ s.Lists id player := by
    intro player
    rw [Parties.removeAllInvites]
    split
    · next hnone => exact Or.inr ⟨rfl, fun ⟨g, hg, _⟩ => by simp [hnone] at hg⟩
    · next g hg =>
      by_cases hmem : player ∈ g.invitees
      · exact Or.inl (by simp [hmem])
      · refine Or.inr ⟨by simp [hmem], ?_⟩
        rintro ⟨g', hg', hmem'⟩
        exact hmem (Option.some.inj (hg.symm.trans hg') ▸ hmem')
  refine ⟨⟨?_, ?_⟩, ?_⟩
  · intro player j hj
    rcases hinvite player with hnone | ⟨hsame, hnot⟩
    · rw [hnone] at hj
      cases hj
    · have hlists := h.agree.1 player j (hsame ▸ hj)
      refine lists_removeAllInvites.mpr ⟨hlists, ?_⟩
      rintro rfl
      exact hnot hlists
  · intro j player hlists
    obtain ⟨hold, hne⟩ := lists_removeAllInvites.mp hlists
    have hpointer := h.agree.2 j player hold
    rw [Parties.removeAllInvites]
    split
    · exact hpointer
    · next g hg =>
      have hmem : player ∉ g.invitees := by
        intro hmem
        have hid := h.agree.2 id player ⟨g, hg, hmem⟩
        exact hne (Option.some.inj (hpointer.symm.trans hid))
      simp [hmem, hpointer]
  · intro j hj
    rw [nextGroup_removeAllInvites] at hj
    rw [Parties.removeAllInvites]
    split
    · exact h.fresh j hj
    · exact groups_modifyGroup_eq_none _ (h.fresh j hj)

theorem lists_deleteGroup :
    (s.deleteGroup id).Lists j player ↔ s.Lists j player ∧ j ≠ id := by
  by_cases hj : j = id
  · subst hj
    simp [Lists, deleteGroup]
  · simp [Lists, deleteGroup, hj]

/-- A group that invites nobody may be deleted. -/
theorem Consistent.deleteGroup (h : s.Consistent) (hnone : ∀ player, ¬ s.Lists id player) :
    (s.deleteGroup id).Consistent := by
  refine ⟨⟨?_, ?_⟩, ?_⟩
  · intro player j hinvite
    have hlists := h.agree.1 player j hinvite
    refine lists_deleteGroup.mpr ⟨hlists, ?_⟩
    rintro rfl
    exact hnone player hlists
  · intro j player hlists
    exact h.agree.2 j player (lists_deleteGroup.mp hlists).1
  · intro j hj
    have hold := h.fresh j hj
    by_cases hid : j = id
    · subst hid
      simp [Parties.deleteGroup]
    · simp [Parties.deleteGroup, hid, hold]

theorem Consistent.disband (h : s.Consistent) (id : GroupId) (g : Group) (slots : List MemberSlot)
    (findPlayer : Guid → Bool) : (s.disband id g slots findPlayer).Consistent := by
  have hunlinked := h.of_sameInvites (sameInvites_unlinkMembers id g findPlayer slots s)
  refine (hunlinked.removeAllInvites id).deleteGroup ?_
  intro player hlists
  exact (lists_removeAllInvites.mp hlists).2 rfl

theorem Consistent.removeMember (h : s.Consistent) (id : GroupId) (guid : Guid)
    (method : RemoveMethod) (context : RemoveContext) :
    (s.removeMember id guid method context).Consistent := by
  rw [Parties.removeMember]
  split
  · exact h
  next g hg =>
  dsimp only
  split
  · exact h
  split
  · have hunlinked : SameInvites s
        (if context.findPlayer guid then s.unlinkMember id g.group guid else s) := by
      split
      · exact sameInvites_unlinkMember s id g.group guid
      · exact SameInvites.refl s
    generalize (if context.findPlayer guid then s.unlinkMember id g.group guid else s) = s'
      at hunlinked
    have hdelinked : SameInvites s'
        (if g.group.isBGGroup || g.group.isBFGroup then s' else s'.delinkMember id guid) := by
      split
      · exact SameInvites.refl s'
      · exact sameInvites_delinkMember s' id guid
    have hboth := h.of_sameInvites (hunlinked.trans hdelinked)
    split
    · exact hboth.disband id g.group _ context.findPlayer
    · exact hboth.of_sameInvites (sameInvites_modifyGroup _ id fun _ => rfl)
  · exact h.disband id g.group _ context.findPlayer

theorem groupInvite_addInvite_of_ne (s : Parties) (id : GroupId) {other : Guid}
    (hne : other ≠ player) :
    (((s.addInvite id player).1).players other).groupInvite = (s.players other).groupInvite := by
  rw [addInvite]
  split_ifs
  · rfl
  · rfl
  · dsimp only
    rw [groupInvite_setGroupInvite, if_neg hne]
    exact (groupInvite_removeInvite s id player other).trans (if_neg hne)

theorem lists_addInvite {g : InvitingGroup} (hg : s.groups id = some g)
    (hok : (s.addInvite id player).2 = true) {other : Guid} :
    (s.addInvite id player).1.Lists j other ↔ s.Lists j other ∨ (j = id ∧ other = player) := by
  rw [addInvite] at hok ⊢
  split_ifs at hok ⊢
  change ((s.removeInvite id player).modifyGroup id _).Lists j other ↔ _
  have hgroup : (s.removeInvite id player).groups id =
      some { g with invitees := g.invitees.erase player } := by
    change (s.modifyGroup id _).groups id = _
    simp [modifyGroup, hg]
  rw [lists_modifyGroup]
  split
  · next hj =>
    subst hj
    simp only [hgroup, Option.some.injEq, Finset.mem_insert, Finset.mem_erase, Lists, hg,
      true_and, exists_eq_left']
    by_cases hother : other = player
    · simp [hother]
    · simp [hother]
  · next hj => simp [lists_removeInvite, hj]

theorem addInvite_of_fails (h : (s.addInvite id player).2 = false) :
    (s.addInvite id player).1 = s := by
  rw [addInvite] at h ⊢
  split_ifs at h ⊢
  · rfl
  · rfl

/-- A player who may be invited joins the invitees of an existing group. -/
theorem Consistent.addInvite (h : s.Consistent) (player : Guid) {g : InvitingGroup}
    (hg : s.groups id = some g) : (s.addInvite id player).1.Consistent := by
  cases hok : (s.addInvite id player).2 with
  | false =>
    rw [addInvite_of_fails hok]
    exact h
  | true =>
    have hnone : (s.players player).groupInvite = none := by
      rw [Parties.addInvite] at hok
      split at hok
      · cases hok
      · next hinvite => simpa using hinvite
    have hnew : ((s.addInvite id player).1.players player).groupInvite = some id := by
      rw [Parties.addInvite] at hok ⊢
      split_ifs at hok ⊢
      exact (groupInvite_setGroupInvite _ _ _ _).trans (if_pos rfl)
    refine ⟨⟨?_, ?_⟩, ?_⟩
    · intro other j hinvite
      refine (lists_addInvite hg hok).mpr ?_
      by_cases hother : other = player
      · subst hother
        exact Or.inr ⟨(Option.some.inj (hnew.symm.trans hinvite)).symm, rfl⟩
      · rw [groupInvite_addInvite_of_ne s id hother] at hinvite
        exact Or.inl (h.agree.1 other j hinvite)
    · intro j other hlists
      rcases (lists_addInvite hg hok).mp hlists with hold | ⟨rfl, rfl⟩
      · have hpointer := h.agree.2 j other hold
        have hother : other ≠ player := by
          rintro rfl
          exact absurd (hnone.symm.trans hpointer) (by simp)
        rw [groupInvite_addInvite_of_ne s id hother]
        exact hpointer
      · exact hnew
    · intro j hj
      rw [Parties.addInvite] at hj ⊢
      split_ifs at hj ⊢
      · exact h.fresh j hj
      · exact h.fresh j hj
      · exact groups_modifyGroup_eq_none _ (groups_modifyGroup_eq_none _ (h.fresh j hj))

theorem Consistent.newGroup (h : s.Consistent) : s.newGroup.Consistent := by
  have hlists : ∀ {id player}, s.newGroup.Lists id player ↔ s.Lists id player := by
    intro id player
    by_cases hid : id = s.nextGroup
    · subst hid
      simp [Lists, Parties.newGroup, h.fresh s.nextGroup le_rfl]
    · simp [Lists, Parties.newGroup, hid]
  refine ⟨⟨?_, ?_⟩, ?_⟩
  · intro player id hinvite
    exact hlists.mpr (h.agree.1 player id hinvite)
  · intro id player hold
    exact h.agree.2 id player (hlists.mp hold)
  · intro id hid
    have hlt : s.nextGroup < id := hid
    simpa [Parties.newGroup, hlt.ne'] using h.fresh id hlt.le

theorem sameInvites_linkMember (id : GroupId) (g : Group)
    (hnone : (s.players player).groupInvite = none) : SameInvites s (s.linkMember id g player) := by
  have hcleared : SameInvites s (s.setGroupInvite player none) := by
    refine ⟨?_, fun _ _ => Iff.rfl, fun _ h => h, rfl⟩
    intro other
    rw [groupInvite_setGroupInvite]
    split
    · next h => rw [h, hnone]
    · rfl
  rw [linkMember]
  refine hcleared.trans (sameInvites_modifyPlayer _ player fun links => ?_)
  split_ifs <;> rfl

theorem sameInvites_addMember (id : GroupId) (hnone : (s.players player).groupInvite = none) :
    SameInvites s (s.addMember id player) := by
  rw [addMember]
  split
  · exact SameInvites.refl s
  next g hg =>
  split
  · exact SameInvites.refl s
  next grown hgrown =>
  have hgroup := sameInvites_modifyGroup s id (f := fun g => { g with group := grown })
    fun _ => rfl
  exact hgroup.trans (sameInvites_linkMember id g.group ((hgroup.groupInvite player).trans hnone))

theorem sameInvites_create (id : GroupId) {leader : Guid}
    (hnone : (s.players leader).groupInvite = none) : SameInvites s (s.create id leader) := by
  rw [create]
  split
  · exact SameInvites.refl s
  next g hg =>
  have hgroup := sameInvites_modifyGroup s id
    (f := fun old => { old with
      group := Group.create leader g.group.isBGGroup g.group.isBFGroup }) fun _ => rfl
  exact hgroup.trans (sameInvites_linkMember id _ ((hgroup.groupInvite leader).trans hnone))

theorem Consistent.uninviteFromGroup (h : s.Consistent) (player : Guid) (findPlayer : Guid → Bool) :
    (s.uninviteFromGroup player findPlayer).Consistent := by
  rw [Parties.uninviteFromGroup]
  split
  · exact h
  next id hinvite =>
  split
  · exact h
  next g hg =>
  have hremoved : (s.removeInvite id player).Consistent :=
    h.removeInvite fun j hj => Option.some.inj (hj.symm.trans hinvite)
  dsimp only
  split
  · split
    · exact hremoved.disband id g.group _ findPlayer
    · refine (hremoved.removeAllInvites id).deleteGroup fun other hlists => ?_
      exact (lists_removeAllInvites.mp hlists).2 rfl
  · exact hremoved

theorem addLeaderInvite_snd (s : Parties) (id : GroupId) (player : Guid) :
    (s.addLeaderInvite id player).2 = (s.addInvite id player).2 := by
  rw [addLeaderInvite]
  rcases s.addInvite id player with ⟨s', _ | _⟩
  · rfl
  · rfl

theorem sameInvites_addLeaderInvite (s : Parties) (id : GroupId) (player : Guid) :
    SameInvites (s.addInvite id player).1 (s.addLeaderInvite id player).1 := by
  rw [addLeaderInvite]
  rcases s.addInvite id player with ⟨s', _ | _⟩
  · exact SameInvites.refl s'
  · exact sameInvites_modifyGroup s' id fun _ => rfl

/-- Two states with the same members of the same kinds of groups. -/
structure SameMembers (s s' : Parties) : Prop where
  group : ∀ player, (s'.players player).group = (s.players player).group
  originalGroup : ∀ player, (s'.players player).originalGroup = (s.players player).originalGroup
  isBGGroup : ∀ id g, s.groups id = some g →
    ∃ g', s'.groups id = some g' ∧ g'.group.isBGGroup = g.group.isBGGroup

theorem SameMembers.trans {s'' : Parties} (h : SameMembers s s') (h' : SameMembers s' s'') :
    SameMembers s s'' where
  group player := (h'.group player).trans (h.group player)
  originalGroup player := (h'.originalGroup player).trans (h.originalGroup player)
  isBGGroup id g hg := by
    obtain ⟨g', hg', hkind⟩ := h.isBGGroup id g hg
    obtain ⟨g'', hg'', hkind'⟩ := h'.isBGGroup id g' hg'
    exact ⟨g'', hg'', hkind'.trans hkind⟩

theorem sameMembers_modifyGroup (s : Parties) (id : GroupId)
    (hf : ∀ g, (f g).group.isBGGroup = g.group.isBGGroup) : SameMembers s (s.modifyGroup id f) where
  group _ := rfl
  originalGroup _ := rfl
  isBGGroup j g hg := by
    by_cases hj : j = id
    · subst hj
      exact ⟨f g, by simp [modifyGroup, hg], hf g⟩
    · exact ⟨g, by simp [modifyGroup, hj, hg], rfl⟩

theorem sameMembers_setGroupInvite (s : Parties) (player : Guid) (invite : Option GroupId) :
    SameMembers s (s.setGroupInvite player invite) := by
  have hlinks : ∀ other, ∃ pointer, (s.setGroupInvite player invite).players other =
      { s.players other with groupInvite := pointer } := by
    intro other
    by_cases h : other = player
    · subst h
      exact ⟨invite, by simp [setGroupInvite, modifyPlayer]⟩
    · exact ⟨(s.players other).groupInvite, by simp [setGroupInvite, modifyPlayer, h]⟩
  refine ⟨fun other => ?_, fun other => ?_, fun id g hg => ⟨g, hg, rfl⟩⟩
  · obtain ⟨pointer, h⟩ := hlinks other
    rw [h]
  · obtain ⟨pointer, h⟩ := hlinks other
    rw [h]

theorem sameMembers_addInvite (s : Parties) (id : GroupId) (player : Guid) :
    SameMembers s (s.addInvite id player).1 := by
  have hrefl : SameMembers s s := ⟨fun _ => rfl, fun _ => rfl, fun _ g hg => ⟨g, hg, rfl⟩⟩
  rw [addInvite]
  split_ifs
  · exact hrefl
  · exact hrefl
  · refine SameMembers.trans ?_ (sameMembers_setGroupInvite _ player (some id))
    refine SameMembers.trans ?_ (sameMembers_modifyGroup _ id fun _ => rfl)
    rw [removeInvite]
    refine SameMembers.trans ?_ (sameMembers_setGroupInvite _ player none)
    exact sameMembers_modifyGroup s id fun _ => rfl

theorem sameMembers_newGroup (h : s.Consistent) : SameMembers s s.newGroup := by
  refine ⟨fun _ => rfl, fun _ => rfl, fun id g hg => ⟨g, ?_, rfl⟩⟩
  have hne : id ≠ s.nextGroup := by
    rintro rfl
    exact absurd ((h.fresh s.nextGroup le_rfl).symm.trans hg) (by simp)
  simpa [newGroup, hne] using hg

theorem sameMembers_addLeaderInvite (s : Parties) (id : GroupId) (player : Guid) :
    SameMembers s (s.addLeaderInvite id player).1 := by
  have hadded := sameMembers_addInvite s id player
  rw [addLeaderInvite]
  generalize s.addInvite id player = result at hadded
  rcases result with ⟨s', _ | _⟩
  · exact hadded
  · exact hadded.trans (sameMembers_modifyGroup s' id fun _ => rfl)

theorem ownGroup_eq_none (hsame : SameMembers s s') (h : s.ownGroup Group.isBGGroup player = none) :
    s'.ownGroup (fun g => g.isBGGroup || g.isBFGroup) player = none := by
  rw [ownGroup] at h ⊢
  rw [hsame.group]
  cases hid : (s.players player).group with
  | none => rfl
  | some id =>
    cases hg : s.groups id with
    | none => simp [hid, hg] at h
    | some g =>
      obtain ⟨g', hg', hkind⟩ := hsame.isBGGroup id g hg
      simp only [hid, hg, Option.any_some] at h
      split at h
      · next hbg => simp [hg', hkind, hbg, hsame.originalGroup, h]
      · cases h

theorem addInvite_succeeds (hinvite : (s.players player).groupInvite = none)
    (hgroup : s.ownGroup (fun g => g.isBGGroup || g.isBFGroup) player = none) :
    (s.addInvite id player).2 = true := by
  simp [addInvite, hinvite, hgroup]

/-- A new group invites its leader and another player, who has neither group nor
invitation: that cannot fail half-way. -/
theorem Consistent.startGroup (h : s.Consistent) {inviter : Guid} (hne : player ≠ inviter)
    (hinvite : (s.players player).groupInvite = none)
    (hgroup : s.ownGroup Group.isBGGroup player = none) :
    (s.startGroup inviter player).Consistent := by
  have hnew : s.newGroup.groups s.nextGroup =
      some ⟨⟨false, false, {}, 0, [], none⟩, ∅⟩ := by
    simp [Parties.newGroup]
  have hsame := sameInvites_addLeaderInvite s.newGroup s.nextGroup inviter
  have hmembers := sameMembers_addLeaderInvite s.newGroup s.nextGroup inviter
  have hleader := (h.newGroup.addInvite inviter hnew).of_sameInvites hsame
  have hpointer : ((s.newGroup.addLeaderInvite s.nextGroup inviter).1.players player).groupInvite =
      none := by
    rw [hsame.groupInvite, groupInvite_addInvite_of_ne _ _ hne]
    exact hinvite
  have hfails : (s.newGroup.addLeaderInvite s.nextGroup inviter).2 = false →
      ∀ other, ¬ (s.newGroup.addLeaderInvite s.nextGroup inviter).1.Lists s.nextGroup other := by
    intro hfail other hlists
    rw [addLeaderInvite_snd] at hfail
    rw [hsame.lists, addInvite_of_fails hfail] at hlists
    obtain ⟨g, hg, hmem⟩ := hlists
    obtain rfl := Option.some.inj (hnew.symm.trans hg)
    exact absurd hmem (Finset.notMem_empty other)
  rw [Parties.startGroup]
  generalize s.newGroup.addLeaderInvite s.nextGroup inviter = result at *
  rcases result with ⟨s', _ | _⟩
  · exact hleader.deleteGroup (hfails rfl)
  · obtain ⟨g, hg, -⟩ := hmembers.isBGGroup _ _ hnew
    have hown := ownGroup_eq_none ((sameMembers_newGroup h).trans hmembers) hgroup
    have hok : (s'.addInvite s.nextGroup player).2 = true := addInvite_succeeds hpointer hown
    have hinvited := hleader.addInvite player hg
    dsimp only at hinvited ⊢
    generalize s'.addInvite s.nextGroup player = result at hok hinvited
    rcases result with ⟨s'', _ | _⟩
    · cases hok
    · exact hinvited

theorem Consistent.handleGroupInvite (h : s.Consistent) (context : RequestContext)
    {inviter : Guid}
    (hself : context.permitted = true → inviter = player →
      (s.ownGroup Group.isBGGroup inviter).isSome ∨ (s.players inviter).groupInvite.isSome) :
    (s.handleGroupInvite context inviter player).Consistent := by
  rw [Parties.handleGroupInvite]
  split
  · exact h
  next hpermitted =>
  split
  · exact h
  next hfree =>
  simp only [Bool.or_eq_true, not_or, Option.not_isSome_iff_eq_none] at hfree
  split
  · refine h.startGroup ?_ hfree.2 hfree.1
    rintro rfl
    rcases hself (by simpa using hpermitted) rfl with hgroup | hinvite
    · simp [hfree.1] at hgroup
    · simp [hfree.2] at hinvite
  · split
    · exact h
    next g hg =>
    dsimp only
    split_ifs
    · exact h
    · exact h
    · exact h
    · exact h.addInvite player hg

/-- Joining: when the group is created by it, the leader has no other invitation. -/
theorem Consistent.handleAccept (h : s.Consistent) (findPlayer : Guid → Bool)
    (hleader : ∀ id g, (s.players player).groupInvite = some id → s.groups id = some g →
      g.group.memberSlots = [] → g.group.leaderGuid ≠ player →
        findPlayer g.group.leaderGuid = true →
          ∀ j, (s.players g.group.leaderGuid).groupInvite = some j → j = id) :
    (s.handleAccept findPlayer player).Consistent := by
  rw [Parties.handleAccept]
  split
  · exact h
  next id hinvite =>
  split
  · exact h
  next g hg =>
  have hremoved : (s.removeInvite id player).Consistent :=
    h.removeInvite fun j hj => Option.some.inj (hj.symm.trans hinvite)
  have hnone : ((s.removeInvite id player).players player).groupInvite = none :=
    (groupInvite_removeInvite s id player player).trans (if_pos rfl)
  dsimp only
  split
  · exact hremoved
  next hother =>
  split
  · exact hremoved
  split
  · next hempty =>
    split
    · exact hremoved.removeAllInvites id
    · next hfound =>
      have hown : ∀ j,
          ((s.removeInvite id player).players g.group.leaderGuid).groupInvite = some j → j = id := by
        rw [groupInvite_removeInvite, if_neg hother]
        exact hleader id g hinvite hg hempty hother (by simpa using hfound)
      have hboth := hremoved.removeInvite hown
      have hgone := (groupInvite_removeInvite (s.removeInvite id player) id g.group.leaderGuid
        g.group.leaderGuid).trans (if_pos rfl)
      have hcreate := sameInvites_create id hgone
      refine (hboth.of_sameInvites hcreate).of_sameInvites (sameInvites_addMember id ?_)
      rw [hcreate.groupInvite, groupInvite_removeInvite, if_neg (Ne.symm hother)]
      exact hnone
  · exact hremoved.of_sameInvites (sameInvites_addMember id hnone)

theorem Consistent.handleUninvite (h : s.Consistent) (context : RequestContext) (byName : Bool)
    (player guid : Guid) : (s.handleUninvite context byName player guid).Consistent := by
  rw [Parties.handleUninvite]
  split
  · exact h
  split
  · exact h
  next id hid =>
  split
  · exact h
  next g hg =>
  generalize (if byName then 0 else guid) = guidMember
  split_ifs
  · exact h
  · exact h.removeMember id guid .kick context.toRemoveContext
  · exact h.uninviteFromGroup guid context.findPlayer
  · exact h

theorem Consistent.handleDisband (h : s.Consistent) (context : RequestContext) (player : Guid) :
    (s.handleDisband context player).Consistent := by
  rw [Parties.handleDisband]
  split
  · exact h
  next id hid =>
  split
  · exact h
  · exact h.removeMember id player .leave context.toRemoveContext

/-- The group requests of clients. -/
inductive Action
  | invite (context : RequestContext) (inviter player : Guid)
  | accept (findPlayer : Guid → Bool) (player : Guid)
  | decline (findPlayer : Guid → Bool) (player : Guid)
  | uninvite (context : RequestContext) (byName : Bool) (player guid : Guid)
  | disband (context : RequestContext) (player : Guid)

def step (s : Parties) : Action → Parties
  | .invite context inviter player => s.handleGroupInvite context inviter player
  | .accept findPlayer player => s.handleAccept findPlayer player
  | .decline findPlayer player => s.handleDecline findPlayer player
  | .uninvite context byName player guid => s.handleUninvite context byName player guid
  | .disband context player => s.handleDisband context player

/-- Nobody without group and invitation invites himself, and nobody joins the new group
of a leader who has an invitation of another group. -/
def Sound (s : Parties) : Action → Prop
  | .invite context inviter player =>
    context.permitted = true → inviter = player →
      (s.ownGroup Group.isBGGroup inviter).isSome ∨ (s.players inviter).groupInvite.isSome
  | .accept findPlayer player =>
    ∀ id g, (s.players player).groupInvite = some id → s.groups id = some g →
      g.group.memberSlots = [] → g.group.leaderGuid ≠ player →
        findPlayer g.group.leaderGuid = true →
          ∀ j, (s.players g.group.leaderGuid).groupInvite = some j → j = id
  | _ => True

theorem Consistent.step (h : s.Consistent) {action : Action} (hok : s.Sound action) :
    (s.step action).Consistent := by
  cases action with
  | invite context inviter player => exact h.handleGroupInvite context hok
  | accept findPlayer player => exact h.handleAccept findPlayer hok
  | decline findPlayer player => exact h.uninviteFromGroup player findPlayer
  | uninvite context byName player guid => exact h.handleUninvite context byName player guid
  | disband context player => exact h.handleDisband context player

/-- Players without groups and invitations. -/
def start : Parties := ⟨fun _ => none, 0, fun _ => ⟨none, none, none⟩⟩

/-- In every state of a run of such requests the invitations agree on both sides. -/
theorem invitesAgree_of_sound {actions before : List Action}
    (h : Admissible step Sound start actions) (hbefore : before <+: actions) :
    (run step start before).InvitesAgree := by
  have hstart : start.Consistent := by
    refine ⟨⟨?_, ?_⟩, fun _ _ => rfl⟩
    · intro player id hinvite
      cases hinvite
    · rintro id player ⟨g, hg, -⟩
      cases hg
  exact (h.invariant (fun hs hok => hs.step hok) hstart hbefore).agree

/-- Everybody is online and may invite. -/
def everyoneOnline : RequestContext := ⟨⟨fun _ => true, 2, true⟩, fun _ => false, true⟩

/-- One player joins, another one declines. -/
theorem invitesAgree_joined :
    (run step start [.invite everyoneOnline 1 2, .accept (fun _ => true) 2,
      .invite everyoneOnline 1 3, .decline (fun _ => true) 3]).InvitesAgree := by
  have hsound : Admissible step Sound start [.invite everyoneOnline 1 2,
      .accept (fun _ => true) 2, .invite everyoneOnline 1 3, .decline (fun _ => true) 3] := by
    refine ⟨fun _ h => absurd h (by decide), ?_, fun _ h => absurd h (by decide), trivial, trivial⟩
    intro id g hinvite hg _ _ _ j hj
    obtain rfl : 0 = id := Option.some.inj hinvite
    obtain rfl := Option.some.inj hg
    exact (Option.some.inj hj).symm
  exact invitesAgree_of_sound hsound (List.prefix_refl _)

/-- A player who invites himself keeps a pointer to the deleted group. -/
theorem invites_dangling : ¬ ∀ actions, (run step start actions).InvitesAgree := by
  intro h
  obtain ⟨g, hg, -⟩ := (h [.invite everyoneOnline 1 1]).1 1 0 rfl
  cases hg

end Parties

end Cataclysm
