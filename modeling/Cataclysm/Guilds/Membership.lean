import Cataclysm.Guilds.Hierarchy
import Cataclysm.Lib.OrderedMap

/-!
# Membership in guilds

That a player belongs to a guild stands in two places: in the member map of the guild and in a field
of the online player. The opcodes to invite, accept, decline, leave and remove change one or both.

## Implementation notes

A world has the guilds by id and the online players by guid. A player who changes maps stays online
but is not in the world; `FindPlayer` does not find him and his opcodes are dropped. Names are
compared in lower case, as `FindPlayerByName` does. Ranks, levels, perks, logs and the database copy
of a player are left out; whether the level of a guild forbids to disband it comes with the opcode.
-/

namespace Cataclysm.Guilds

def grRightInvite : Nat := 0x50

/-- What a guild asks of an online player. -/
structure OnlinePlayer where
  name : String
  team : Nat
  ignored : List Nat
  inWorld : Bool
  guildId : Nat
  guildIdInvited : Nat
  deriving DecidableEq

/-- What the configuration and the character table say. -/
structure GuildRules where
  allowTwoSideInteractionGuild : Bool
  getPlayerTeamByGUID : Nat → Nat

/-- Guilds, online players and the stored members. -/
structure GuildWorld where
  guilds : OrderedMap Nat Guild
  players : OrderedMap Nat OnlinePlayer

/-- The opcodes of a player, and the begin or end of his transfer to another map. -/
inductive GuildOpcode
  | invite (player : Nat) (name : String)
  | accept (player : Nat)
  | decline (player : Nat)
  | leave (player : Nat) (undeletable : Bool)
  | remove (player guid : Nat)
  | transfer (player : Nat) (inWorld : Bool)
  deriving DecidableEq

/-- The checks of `HandleRemoveMember`. -/
def Guild.removesMember (g : Guild) (player guid : Nat) : Bool :=
  g.hasRankRight player grRightRemove &&
    match g.getMember guid, g.getMember player with
    | some member, some memberMe =>
      !member.isRank grGuildmaster && !member.isRankNotLower memberMe.rankId
    | _, _ => false

namespace GuildWorld

def findPlayer (w : GuildWorld) (guid : Nat) : Option OnlinePlayer :=
  (w.players.find? guid).filter OnlinePlayer.inWorld

def findPlayerByName (w : GuildWorld) (name : String) : Option (Nat × OnlinePlayer) :=
  w.players.entries.find? fun e =>
    e.2.inWorld && e.2.name.map Char.toLower == name.map Char.toLower

/-- The guild of an online player. -/
def getGuild (w : GuildWorld) (player : OnlinePlayer) : Option Guild :=
  if player.guildId = 0 then none else w.guilds.find? player.guildId

/-- An online player changes. -/
def updatePlayer (w : GuildWorld) (guid : Nat) (f : OnlinePlayer → OnlinePlayer) : GuildWorld :=
  { w with players := w.players.mapValues fun key player => if key = guid then f player else player }

/-- `SetInGuild(0)` on the player that `FindPlayer` finds. -/
def leaveGuild (w : GuildWorld) (guid : Nat) : GuildWorld :=
  w.updatePlayer guid fun player => if player.inWorld then { player with guildId := 0 } else player

/-- The guild with this id changes. -/
def storeGuild (w : GuildWorld) (guildId : Nat) (guild : Guild) : GuildWorld :=
  { w with guilds := w.guilds.insert guildId guild }

/-- All members leave, and the guild ends. -/
def disband (w : GuildWorld) (guildId : Nat) (guild : Guild) : GuildWorld :=
  let w := guild.roster.members.foldl (fun w member => w.leaveGuild member.guid) w
  { w with guilds := w.guilds.erase guildId }

/-- A member goes, and the guild may get another leader. -/
def deleteMember (w : GuildWorld) (guildId : Nat) (guild : Guild) (guid : Nat) : GuildWorld :=
  match guild.deleteMember guid with
  | none => w.disband guildId guild
  | some guild => (w.storeGuild guildId guild).leaveGuild guid

/-- A member invites a player. -/
def handleInviteMember (rules : GuildRules) (w : GuildWorld) (guid : Nat) (player : OnlinePlayer)
    (guild : Guild) (name : String) : GuildWorld :=
  match w.findPlayerByName name with
  | none => w
  | some (invitee, pInvitee) =>
    if pInvitee.ignored.contains (lowPart guid) then w
    else if !rules.allowTwoSideInteractionGuild && pInvitee.team != player.team then w
    else if pInvitee.guildId ≠ 0 then w
    else if pInvitee.guildIdInvited ≠ 0 then w
    else if guild.hasRankRight guid grRightInvite = false then w
    else w.updatePlayer invitee fun p => { p with guildIdInvited := player.guildId }

/-- The player takes the invitation. -/
def handleAcceptMember (rules : GuildRules) (w : GuildWorld) (guid : Nat) (player : OnlinePlayer)
    (guild : Guild) : GuildWorld :=
  if !rules.allowTwoSideInteractionGuild &&
      player.team != rules.getPlayerTeamByGUID guild.leaderGuid then w
  else
    let (guild, ok) := guild.addMember ⟨lowPart guid, player.name, true, player.guildId, true⟩
      guildRankNone
    if ok then
      (w.storeGuild player.guildIdInvited guild).updatePlayer guid fun p =>
        { p with guildId := player.guildIdInvited, guildIdInvited := 0 }
    else w

/-- A member leaves of his own. -/
def handleLeaveMember (w : GuildWorld) (guid : Nat) (player : OnlinePlayer) (guild : Guild)
    (undeletable : Bool) : GuildWorld :=
  if guild.isLeader guid then
    if 1 < guild.roster.members.length then w
    else if undeletable then w
    else w.disband player.guildId guild
  else w.deleteMember player.guildId guild guid

/-- A member removes another one. -/
def handleRemoveMember (w : GuildWorld) (player : OnlinePlayer) (guild : Guild)
    (own guid : Nat) : GuildWorld :=
  if guild.removesMember own guid then w.deleteMember player.guildId guild guid else w

/-- The opcodes of a player who is in the world. -/
def handle (rules : GuildRules) (w : GuildWorld) : GuildOpcode → GuildWorld
  | .invite guid name =>
    match w.findPlayer guid with
    | none => w
    | some player =>
      match w.getGuild player with
      | none => w
      | some guild => w.handleInviteMember rules guid player guild name
  | .accept guid =>
    match w.findPlayer guid with
    | none => w
    | some player =>
      if player.guildId ≠ 0 then w
      else match w.guilds.find? player.guildIdInvited with
        | none => w
        | some guild => w.handleAcceptMember rules guid player guild
  | .decline guid =>
    match w.findPlayer guid with
    | none => w
    | some _ => w.updatePlayer guid fun p => { p with guildId := 0, guildIdInvited := 0 }
  | .leave guid undeletable =>
    match w.findPlayer guid with
    | none => w
    | some player =>
      match w.getGuild player with
      | none => w
      | some guild => w.handleLeaveMember guid player guild undeletable
  | .remove guid target =>
    match w.findPlayer guid with
    | none => w
    | some player =>
      match w.getGuild player with
      | none => w
      | some guild => w.handleRemoveMember player guild guid target
  | .transfer guid inWorld => w.updatePlayer guid fun p => { p with inWorld := inWorld }

end GuildWorld

/-! ### Both places agree -/

namespace Guild

variable {g g' : Guild}

variable {guid : Nat}

def hasMember (g : Guild) (key : Nat) : Bool := (g.roster.find? key).isSome

def memberGuids (g : Guild) : List Nat := g.roster.members.map Member.guid

theorem hasMember_iff {key : Nat} :
    g.hasMember key = true ↔ ∃ guid ∈ g.memberGuids, lowPart guid = key := by
  rw [hasMember, Option.isSome_iff_exists]
  constructor
  · rintro ⟨m, hm⟩
    obtain ⟨hmem, hkey⟩ := Roster.find?_eq_some_iff.mp hm
    exact ⟨m.guid, List.mem_map_of_mem hmem, hkey⟩
  · rintro ⟨guid, hguid, hkey⟩
    obtain ⟨m, hm, rfl⟩ := List.mem_map.mp hguid
    exact ⟨m, Roster.find?_eq_some_iff.mpr ⟨hm, hkey⟩⟩

theorem memberGuids_setLeaderGUID (g : Guild) (leader : Member) :
    (g.setLeaderGUID leader).memberGuids = g.memberGuids := by
  rw [memberGuids, setLeaderGUID, changeRank, Roster.setRank, Roster.rerank, List.map_map]
  rfl

theorem memberGuids_erase (g : Guild) (key : Nat) :
    { g with roster := g.roster.erase key }.memberGuids =
      g.memberGuids.filter fun guid => lowPart guid != key := by
  rw [memberGuids, Roster.erase, memberGuids, List.filter_map]
  rfl

theorem memberGuids_deleteMember (h : g.deleteMember guid = some g') :
    g'.memberGuids = g.memberGuids.filter fun other => lowPart other != lowPart guid := by
  rw [deleteMember] at h
  split at h
  · split at h
    · cases h
    · next newLeader _ =>
        cases h
        rw [memberGuids_erase, memberGuids_setLeaderGUID]
  · cases h
    exact memberGuids_erase g _

/-- Only a leader without other members takes his guild with him. -/
theorem lowPart_of_deleteMember_none (h : g.deleteMember guid = none) :
    ∀ other ∈ g.memberGuids, lowPart other = lowPart guid := by
  intro other hother
  obtain ⟨m, hm, rfl⟩ := List.mem_map.mp hother
  by_contra hne
  obtain ⟨newLeader, hfound, -⟩ := findNewLeader_best hm hne
  rw [deleteMember, hfound] at h
  split at h
  · cases h
  · cases h

theorem hasMember_deleteMember (h : g.deleteMember guid = some g') (key : Nat) :
    g'.hasMember key = true ↔ g.hasMember key = true ∧ key ≠ lowPart guid := by
  rw [hasMember_iff, hasMember_iff, memberGuids_deleteMember h]
  constructor
  · rintro ⟨other, hother, rfl⟩
    obtain ⟨hmem, hne⟩ := List.mem_filter.mp hother
    exact ⟨⟨other, hmem, rfl⟩, bne_iff_ne.mp hne⟩
  · rintro ⟨⟨other, hother, rfl⟩, hne⟩
    exact ⟨other, List.mem_filter.mpr ⟨hother, bne_iff_ne.mpr hne⟩, rfl⟩

/-- An online character without a guild joins. -/
theorem addMember_online (g : Guild) (lowguid : Nat) (name : String) :
    ∃ m : Member, m.guid = playerGuid lowguid ∧
      g.addMember ⟨lowguid, name, true, 0, true⟩ guildRankNone =
        ({ g with roster := g.roster.insert m }, true) := by
  refine ⟨⟨playerGuid lowguid, name, g.getLowestRankId⟩, rfl, ?_⟩
  rw [addMember, if_neg (by simp), if_neg (by simp), if_pos rfl]

theorem mem_memberGuids_insert {m : Member} :
    guid ∈ { g with roster := g.roster.insert m }.memberGuids ↔
      guid = m.guid ∨ guid ∈ g.memberGuids ∧ lowPart guid ≠ m.lowGuid := by
  rw [memberGuids, memberGuids, List.mem_map, List.mem_map]
  constructor
  · rintro ⟨m', hm', rfl⟩
    obtain rfl | ⟨hmem, hne⟩ := Roster.mem_insert.mp hm'
    · exact Or.inl rfl
    · exact Or.inr ⟨⟨m', hmem, rfl⟩, hne⟩
  · rintro (rfl | ⟨⟨m', hmem, rfl⟩, hne⟩)
    · exact ⟨m, Roster.mem_insert.mpr (Or.inl rfl), rfl⟩
    · exact ⟨m', Roster.mem_insert.mpr (Or.inr ⟨hmem, hne⟩), rfl⟩

theorem hasMember_insert {m : Member} {key : Nat} :
    { g with roster := g.roster.insert m }.hasMember key = true ↔
      key = m.lowGuid ∨ g.hasMember key = true := by
  rw [hasMember_iff, hasMember_iff]
  constructor
  · rintro ⟨guid, hguid, rfl⟩
    obtain rfl | ⟨hmem, -⟩ := mem_memberGuids_insert.mp hguid
    · exact Or.inl rfl
    · exact Or.inr ⟨guid, hmem, rfl⟩
  · intro h
    by_cases hkey : key = m.lowGuid
    · exact ⟨m.guid, mem_memberGuids_insert.mpr (Or.inl rfl), hkey.symm⟩
    · obtain ⟨guid, hmem, rfl⟩ := h.resolve_left hkey
      exact ⟨guid, mem_memberGuids_insert.mpr (Or.inr ⟨hmem, hkey⟩), rfl⟩

end Guild

namespace GuildWorld

variable {w w' : GuildWorld}

/-- The member map of a guild has a player. -/
def IsMember (w : GuildWorld) (guildId key : Nat) : Prop :=
  ∃ guild, w.guilds.find? guildId = some guild ∧ guild.hasMember key = true

/-- Guild ids start at `1`, and guids of players have no high part. -/
structure Valid (w : GuildWorld) : Prop where
  guild_ids : w.guilds.find? 0 = none
  player_guids : ∀ {guid player}, w.players.find? guid = some player → guid < 2 ^ 32
  member_guids : ∀ {guildId guild}, w.guilds.find? guildId = some guild →
    ∀ m ∈ guild.roster.members, m.guid < 2 ^ 32

/-- An online player has the id of a guild exactly when its member map has him, and nobody is in
two guilds. -/
structure OneToOne (w : GuildWorld) : Prop where
  guild_iff : ∀ {guid player}, w.players.find? guid = some player →
    ∀ guildId, guildId ≠ 0 ∧ player.guildId = guildId ↔ w.IsMember guildId guid
  unique : ∀ {guildId guildId' key}, w.IsMember guildId key → w.IsMember guildId' key →
    guildId = guildId'

/-- A decline does no harm when the player has no guild, and the removal of an online player when
the guid is his own and he is in the world. -/
def Harmless (w : GuildWorld) : GuildOpcode → Prop
  | .decline guid => ∀ player ∈ w.findPlayer guid, player.guildId = 0
  | .remove guid target =>
    ∀ player ∈ w.findPlayer guid, ∀ guild ∈ w.getGuild player,
      guild.removesMember guid target = true →
        ∀ removed ∈ w.players.find? (lowPart target), target < 2 ^ 32 ∧ removed.inWorld = true
  | _ => True

/-! ### Players -/

variable {guid : Nat} {player : OnlinePlayer}

theorem find?_updatePlayer (w : GuildWorld) (guid : Nat) (f : OnlinePlayer → OnlinePlayer)
    (key : Nat) :
    (w.updatePlayer guid f).players.find? key =
      (w.players.find? key).map fun p => if key = guid then f p else p :=
  OrderedMap.find?_mapValues _ _ _

theorem findPlayer_eq_some :
    w.findPlayer guid = some player ↔ w.players.find? guid = some player ∧ player.inWorld = true :=
  Option.filter_eq_some_iff

/-- Those in the world whose guid is in the list leave their guild. -/
theorem find?_foldl_leaveGuild (members : List Member) (w : GuildWorld) (key : Nat) :
    (members.foldl (fun w member => w.leaveGuild member.guid) w).players.find? key =
      (w.players.find? key).map fun p =>
        if p.inWorld = true ∧ key ∈ members.map Member.guid then { p with guildId := 0 } else p := by
  induction members generalizing w with
  | nil => simp
  | cons m rest ih =>
    rw [List.foldl_cons, ih, leaveGuild, find?_updatePlayer, Option.map_map]
    refine congrArg (Option.map · _) (funext fun p => ?_)
    rw [Function.comp_apply]
    by_cases hkey : key = m.guid
    · cases hworld : p.inWorld with
      | true => simp [hkey]
      | false => simp [hkey, hworld]
    · simp [hkey]

theorem guilds_foldl_leaveGuild (members : List Member) (w : GuildWorld) :
    (members.foldl (fun w member => w.leaveGuild member.guid) w).guilds = w.guilds := by
  induction members generalizing w with
  | nil => rfl
  | cons m rest ih => rw [List.foldl_cons, ih, leaveGuild, updatePlayer]

/-! ### Steps that keep the relation -/

variable {guildId : Nat} {guild : Guild}

/-- Some players leave the guilds that they are in. -/
theorem OneToOne.of_leave (h : w.OneToOne) (gone : Nat → Prop)
    (hmembers : ∀ guildId key, w'.IsMember guildId key ↔ w.IsMember guildId key ∧ ¬ gone key)
    (hplayers : ∀ guid p', w'.players.find? guid = some p' → ∃ p, w.players.find? guid = some p ∧
      (gone guid → p'.guildId = 0) ∧ (¬ gone guid → p'.guildId = p.guildId)) :
    w'.OneToOne where
  guild_iff := by
    intro guid p' hp' guildId
    obtain ⟨p, hp, hgone, hstays⟩ := hplayers guid p' hp'
    rw [hmembers]
    by_cases hg : gone guid
    · constructor
      · rintro ⟨hne, heq⟩
        exact absurd (heq.symm.trans (hgone hg)) hne
      · rintro ⟨-, hnot⟩
        exact absurd hg hnot
    · rw [hstays hg, h.guild_iff hp guildId]
      exact (and_iff_left hg).symm
  unique := by
    intro guildId guildId' key hmem hmem'
    exact h.unique ((hmembers _ _).mp hmem).1 ((hmembers _ _).mp hmem').1

/-- Nobody comes or goes. -/
theorem OneToOne.of_same (h : w.OneToOne) (hguilds : w'.guilds = w.guilds)
    (hplayers : ∀ guid p', w'.players.find? guid = some p' → ∃ p, w.players.find? guid = some p ∧
      p'.guildId = p.guildId) :
    w'.OneToOne := by
  refine h.of_leave (fun _ => False) ?_ ?_
  · intro guildId key
    rw [IsMember, hguilds, not_false_eq_true, and_true]
    exact Iff.rfl
  · intro guid p' hp'
    obtain ⟨p, hp, heq⟩ := hplayers guid p' hp'
    exact ⟨p, hp, False.elim, fun _ => heq⟩

/-- A player without a guild joins one. -/
theorem OneToOne.of_join (h : w.OneToOne) (hne : guildId ≠ 0)
    (hfree : ∀ other, ¬ w.IsMember other guid)
    (hmembers : ∀ other key, w'.IsMember other key ↔
      other = guildId ∧ key = guid ∨ w.IsMember other key)
    (hplayers : ∀ key p', w'.players.find? key = some p' → ∃ p, w.players.find? key = some p ∧
      p'.guildId = if key = guid then guildId else p.guildId) :
    w'.OneToOne where
  guild_iff := by
    intro key p' hp' other
    obtain ⟨p, hp, heq⟩ := hplayers key p' hp'
    rw [hmembers, heq]
    by_cases hkey : key = guid
    · subst hkey
      rw [if_pos rfl]
      constructor
      · rintro ⟨-, hother⟩
        exact Or.inl ⟨hother.symm, rfl⟩
      · rintro (⟨rfl, -⟩ | hmem)
        · exact ⟨hne, rfl⟩
        · exact absurd hmem (hfree other)
    · rw [if_neg hkey, h.guild_iff hp other]
      constructor
      · exact Or.inr
      · rintro (⟨-, hkey'⟩ | hmem)
        · exact absurd hkey' hkey
        · exact hmem
  unique := by
    intro other other' key hmem hmem'
    obtain ⟨rfl, rfl⟩ | hmem := (hmembers _ _).mp hmem
    · obtain ⟨rfl, -⟩ | hmem' := (hmembers _ _).mp hmem'
      · rfl
      · exact absurd hmem' (hfree other')
    · obtain ⟨-, rfl⟩ | hmem' := (hmembers _ _).mp hmem'
      · exact absurd hmem (hfree other)
      · exact h.unique hmem hmem'

theorem isMember_storeGuild (w : GuildWorld) (guildId : Nat) (guild : Guild) (other key : Nat) :
    (w.storeGuild guildId guild).IsMember other key ↔
      if other = guildId then guild.hasMember key = true else w.IsMember other key := by
  rw [IsMember, storeGuild, OrderedMap.find?_insert]
  split
  · constructor
    · rintro ⟨guild', hguild, hmem⟩
      rw [Option.some.inj hguild]
      exact hmem
    · intro hmem
      exact ⟨guild, rfl, hmem⟩
  · exact Iff.rfl

theorem isMember_eq (hguild : w.guilds.find? guildId = some guild) (key : Nat) :
    w.IsMember guildId key ↔ guild.hasMember key = true := by
  constructor
  · rintro ⟨guild', hguild', hmem⟩
    rw [Option.some.inj (hguild.symm.trans hguild')]
    exact hmem
  · intro hmem
    exact ⟨guild, hguild, hmem⟩

/-! ### Valid worlds -/

theorem Valid.of_guilds (h : w.Valid) (hguilds : w'.guilds = w.guilds)
    (hplayers : ∀ guid p', w'.players.find? guid = some p' → ∃ p, w.players.find? guid = some p) :
    w'.Valid where
  guild_ids := by rw [hguilds]; exact h.guild_ids
  player_guids := by
    intro guid p' hp'
    obtain ⟨p, hp⟩ := hplayers guid p' hp'
    exact h.player_guids hp
  member_guids := by rw [hguilds]; exact h.member_guids

theorem Valid.storeGuild (h : w.Valid) (hne : guildId ≠ 0)
    (hguids : ∀ m ∈ guild.roster.members, m.guid < 2 ^ 32) :
    (w.storeGuild guildId guild).Valid where
  guild_ids := by
    rw [GuildWorld.storeGuild, OrderedMap.find?_insert, if_neg hne.symm]
    exact h.guild_ids
  player_guids := h.player_guids
  member_guids := by
    intro other found hfound
    rw [GuildWorld.storeGuild, OrderedMap.find?_insert] at hfound
    split at hfound
    · cases hfound
      exact hguids
    · exact h.member_guids hfound

theorem Valid.updatePlayer (h : w.Valid) (guid : Nat) (f : OnlinePlayer → OnlinePlayer) :
    (w.updatePlayer guid f).Valid := by
  refine h.of_guilds rfl ?_
  intro key p' hp'
  rw [find?_updatePlayer, Option.map_eq_some_iff] at hp'
  obtain ⟨p, hp, -⟩ := hp'
  exact ⟨p, hp⟩

theorem Valid.memberGuid (h : w.Valid) (hguild : w.guilds.find? guildId = some guild)
    (hguid : guid ∈ guild.memberGuids) : guid < 2 ^ 32 := by
  obtain ⟨m, hm, rfl⟩ := List.mem_map.mp hguid
  exact h.member_guids hguild m hm

/-- In a valid world the keys of a member map are the guids. -/
theorem Valid.hasMember_iff (h : w.Valid) (hguild : w.guilds.find? guildId = some guild)
    (key : Nat) : guild.hasMember key = true ↔ key ∈ guild.memberGuids := by
  rw [Guild.hasMember_iff]
  constructor
  · rintro ⟨guid, hguid, rfl⟩
    rw [lowPart_of_lt (h.memberGuid hguild hguid)]
    exact hguid
  · intro hguid
    exact ⟨key, hguid, lowPart_of_lt (h.memberGuid hguild hguid)⟩

/-! ### Requests -/

/-- A guild whose online members are all in the world disbands. -/
theorem disband_keeps (hvalid : w.Valid) (h : w.OneToOne)
    (hguild : w.guilds.find? guildId = some guild)
    (hworld : ∀ guid ∈ guild.memberGuids, ∀ p, w.players.find? guid = some p → p.inWorld = true) :
    (w.disband guildId guild).Valid ∧ (w.disband guildId guild).OneToOne := by
  have hguilds : (w.disband guildId guild).guilds = w.guilds.erase guildId := by
    rw [disband, guilds_foldl_leaveGuild]
  have hplayers : ∀ guid p', (w.disband guildId guild).players.find? guid = some p' →
      ∃ p, w.players.find? guid = some p ∧
        p' = if p.inWorld = true ∧ guid ∈ guild.memberGuids then { p with guildId := 0 } else p := by
    intro guid p' hp'
    rw [disband, find?_foldl_leaveGuild, Option.map_eq_some_iff] at hp'
    obtain ⟨p, hp, rfl⟩ := hp'
    exact ⟨p, hp, rfl⟩
  have hmembers : ∀ other key, (w.disband guildId guild).IsMember other key ↔
      w.IsMember other key ∧ ¬ guild.hasMember key = true := by
    intro other key
    rw [IsMember, hguilds, OrderedMap.find?_erase]
    split
    · next heq =>
        subst heq
        constructor
        · rintro ⟨_, hnone, -⟩
          cases hnone
        · rintro ⟨hmem, hnot⟩
          exact absurd ((isMember_eq hguild key).mp hmem) hnot
    · next hne =>
        refine ⟨fun hmem => ⟨hmem, fun hin => ?_⟩, fun hmem => hmem.1⟩
        exact hne (h.unique hmem ((isMember_eq hguild key).mpr hin))
  constructor
  · constructor
    · rw [hguilds, OrderedMap.find?_erase]
      split
      · rfl
      · exact hvalid.guild_ids
    · intro guid p' hp'
      obtain ⟨p, hp, -⟩ := hplayers guid p' hp'
      exact hvalid.player_guids hp
    · intro other found hfound
      rw [hguilds, OrderedMap.find?_erase] at hfound
      split at hfound
      · cases hfound
      · exact hvalid.member_guids hfound
  · refine h.of_leave _ hmembers ?_
    intro guid p' hp'
    obtain ⟨p, hp, rfl⟩ := hplayers guid p' hp'
    refine ⟨p, hp, ?_, ?_⟩
    · intro hin
      have hmem := (hvalid.hasMember_iff hguild guid).mp hin
      rw [if_pos ⟨hworld guid hmem p hp, hmem⟩]
    · intro hout
      rw [if_neg fun hin => hout ((hvalid.hasMember_iff hguild guid).mpr hin.2)]

/-- A member who is offline, or is found under the guid that is given, is deleted. -/
theorem deleteMember_keeps (hvalid : w.Valid) (h : w.OneToOne)
    (hguild : w.guilds.find? guildId = some guild)
    (hmember : guild.hasMember (lowPart guid) = true)
    (hfound : ∀ p, w.players.find? (lowPart guid) = some p → guid < 2 ^ 32 ∧ p.inWorld = true) :
    (w.deleteMember guildId guild guid).Valid ∧ (w.deleteMember guildId guild guid).OneToOne := by
  rw [deleteMember]
  cases hdelete : guild.deleteMember guid with
  | none =>
    refine disband_keeps hvalid h hguild ?_
    intro other hother p hp
    have hlow := Guild.lowPart_of_deleteMember_none hdelete other hother
    rw [lowPart_of_lt (hvalid.memberGuid hguild hother)] at hlow
    rw [hlow] at hp
    exact (hfound p hp).2
  | some guild' =>
    dsimp only
    have hne : guildId ≠ 0 := by
      rintro rfl
      rw [hvalid.guild_ids] at hguild
      cases hguild
    have hguids : ∀ m ∈ guild'.roster.members, m.guid < 2 ^ 32 := by
      intro m hm
      have hguid : m.guid ∈ guild'.memberGuids := List.mem_map_of_mem hm
      rw [Guild.memberGuids_deleteMember hdelete] at hguid
      exact hvalid.memberGuid hguild (List.mem_filter.mp hguid).1
    refine ⟨(hvalid.storeGuild hne hguids).updatePlayer guid _, ?_⟩
    refine h.of_leave (fun key => key = lowPart guid) ?_ ?_
    · intro other key
      have hsame : ((w.storeGuild guildId guild').leaveGuild guid).IsMember other key ↔
          (w.storeGuild guildId guild').IsMember other key := Iff.rfl
      rw [hsame, isMember_storeGuild]
      split
      · next heq =>
          subst heq
          rw [Guild.hasMember_deleteMember hdelete, isMember_eq hguild]
      · next hother =>
          refine ⟨fun hmem => ⟨hmem, ?_⟩, fun hmem => hmem.1⟩
          rintro rfl
          exact hother (h.unique hmem ((isMember_eq hguild _).mpr hmember))
    · intro key p' hp'
      rw [leaveGuild, find?_updatePlayer, Option.map_eq_some_iff] at hp'
      obtain ⟨p, hp, rfl⟩ := hp'
      refine ⟨p, hp, ?_, ?_⟩
      · rintro rfl
        obtain ⟨hlt, hworld⟩ := hfound p hp
        rw [if_pos (lowPart_of_lt hlt), if_pos hworld]
      · intro hkey
        split
        · next heq =>
            have hlt := hvalid.player_guids hp
            rw [heq] at hkey hlt
            exact absurd (lowPart_of_lt hlt).symm hkey
        · rfl

theorem getGuild_eq_some (h : w.getGuild player = some guild) :
    player.guildId ≠ 0 ∧ w.guilds.find? player.guildId = some guild := by
  rw [getGuild] at h
  split at h
  · cases h
  · next hne => exact ⟨hne, h⟩

/-- An online player with a guild is a member of it. -/
theorem OneToOne.hasMember (h : w.OneToOne) (hplayer : w.players.find? guid = some player)
    (hguild : w.getGuild player = some guild) : guild.hasMember guid = true := by
  obtain ⟨hne, hfound⟩ := getGuild_eq_some hguild
  exact (isMember_eq hfound guid).mp ((h.guild_iff hplayer _).mp ⟨hne, rfl⟩)

/-- A change of other fields. -/
theorem updatePlayer_keeps (hvalid : w.Valid) (h : w.OneToOne) (guid : Nat)
    {f : OnlinePlayer → OnlinePlayer}
    (hf : ∀ p, w.players.find? guid = some p → (f p).guildId = p.guildId) :
    (w.updatePlayer guid f).Valid ∧ (w.updatePlayer guid f).OneToOne := by
  refine ⟨hvalid.updatePlayer guid f, h.of_same rfl ?_⟩
  intro key p' hp'
  rw [find?_updatePlayer, Option.map_eq_some_iff] at hp'
  obtain ⟨p, hp, rfl⟩ := hp'
  refine ⟨p, hp, ?_⟩
  split
  · next heq => exact hf p (heq ▸ hp)
  · rfl

theorem handleInviteMember_keeps (rules : GuildRules) (hvalid : w.Valid) (h : w.OneToOne)
    (guid : Nat) (player : OnlinePlayer) (guild : Guild) (name : String) :
    (w.handleInviteMember rules guid player guild name).Valid ∧
      (w.handleInviteMember rules guid player guild name).OneToOne := by
  rw [handleInviteMember]
  split
  · exact ⟨hvalid, h⟩
  · split
    · exact ⟨hvalid, h⟩
    · split
      · exact ⟨hvalid, h⟩
      · split
        · exact ⟨hvalid, h⟩
        · split
          · exact ⟨hvalid, h⟩
          · split
            · exact ⟨hvalid, h⟩
            · exact updatePlayer_keeps hvalid h _ fun _ _ => rfl

theorem handleAcceptMember_keeps (rules : GuildRules) (hvalid : w.Valid) (h : w.OneToOne)
    (hplayer : w.players.find? guid = some player) (hzero : player.guildId = 0)
    (hguild : w.guilds.find? player.guildIdInvited = some guild) :
    (w.handleAcceptMember rules guid player guild).Valid ∧
      (w.handleAcceptMember rules guid player guild).OneToOne := by
  rw [handleAcceptMember]
  split
  · exact ⟨hvalid, h⟩
  · obtain ⟨m, hguid, hadd⟩ := guild.addMember_online (lowPart guid) player.name
    have hlow : lowPart guid = guid := lowPart_of_lt (hvalid.player_guids hplayer)
    have hm : m.guid = guid := by rw [hguid, playerGuid, ← lowPart, hlow, hlow]
    have hkey : m.lowGuid = guid := by rw [Member.lowGuid, hm, hlow]
    have hne : player.guildIdInvited ≠ 0 := by
      intro hinvited
      rw [hinvited, hvalid.guild_ids] at hguild
      cases hguild
    have hfree : ∀ other, ¬ w.IsMember other guid := by
      intro other hmem
      obtain ⟨hother, heq⟩ := (h.guild_iff hplayer other).mpr hmem
      exact hother (heq.symm.trans hzero)
    rw [hzero, hadd]
    dsimp only
    rw [if_pos rfl]
    constructor
    · refine (hvalid.storeGuild hne ?_).updatePlayer guid _
      intro m' hm'
      obtain rfl | ⟨hmem, -⟩ := Roster.mem_insert.mp hm'
      · rw [hm]
        exact hvalid.player_guids hplayer
      · exact hvalid.member_guids hguild m' hmem
    · refine h.of_join hne hfree ?_ ?_
      · intro other key
        have hsame : ∀ v : GuildWorld, ∀ f, (v.updatePlayer guid f).IsMember other key ↔
            v.IsMember other key := fun v f => Iff.rfl
        rw [hsame, isMember_storeGuild]
        split
        · next heq =>
            subst heq
            rw [Guild.hasMember_insert, isMember_eq hguild, hkey]
            exact or_congr_left (and_iff_right rfl).symm
        · next hother =>
            exact (or_iff_right fun hand => hother hand.1).symm
      · intro key p' hp'
        rw [find?_updatePlayer, Option.map_eq_some_iff] at hp'
        obtain ⟨p, hp, rfl⟩ := hp'
        refine ⟨p, hp, ?_⟩
        split
        · rfl
        · rfl

theorem handleLeaveMember_keeps (hvalid : w.Valid) (h : w.OneToOne)
    (hplayer : w.findPlayer guid = some player) (hguild : w.getGuild player = some guild)
    (undeletable : Bool) :
    (w.handleLeaveMember guid player guild undeletable).Valid ∧
      (w.handleLeaveMember guid player guild undeletable).OneToOne := by
  obtain ⟨hfind, hworld⟩ := findPlayer_eq_some.mp hplayer
  obtain ⟨-, hstored⟩ := getGuild_eq_some hguild
  have hlt := hvalid.player_guids hfind
  have hmember := h.hasMember hfind hguild
  rw [handleLeaveMember]
  split
  · split
    · exact ⟨hvalid, h⟩
    · next hfew =>
        split
        · exact ⟨hvalid, h⟩
        · refine disband_keeps hvalid h hstored ?_
          have hown := (hvalid.hasMember_iff hstored guid).mp hmember
          have hlen : guild.memberGuids.length ≤ 1 := by
            rw [Guild.memberGuids, List.length_map]
            omega
          intro other hother p hp
          have hpos := List.length_pos_of_mem hown
          obtain ⟨only, honly⟩ := List.length_eq_one_iff.mp (by omega : guild.memberGuids.length = 1)
          rw [honly, List.mem_singleton] at hother hown
          rw [hother, ← hown, hfind] at hp
          rw [← Option.some.inj hp]
          exact hworld
  · refine deleteMember_keeps hvalid h hstored ?_ ?_
    · rw [lowPart_of_lt hlt]
      exact hmember
    · intro p hp
      rw [lowPart_of_lt hlt, hfind] at hp
      rw [← Option.some.inj hp]
      exact ⟨hlt, hworld⟩

theorem handleRemoveMember_keeps (hvalid : w.Valid) (h : w.OneToOne) {target : Nat}
    (hplayer : w.findPlayer guid = some player) (hguild : w.getGuild player = some guild)
    (hharmless : w.Harmless (.remove guid target)) :
    (w.handleRemoveMember player guild guid target).Valid ∧
      (w.handleRemoveMember player guild guid target).OneToOne := by
  obtain ⟨-, hstored⟩ := getGuild_eq_some hguild
  rw [handleRemoveMember]
  split
  · next hremoves =>
      refine deleteMember_keeps hvalid h hstored ?_ ?_
      · rw [Guild.removesMember, Bool.and_eq_true] at hremoves
        rw [Guild.hasMember]
        cases hmember : guild.roster.find? (lowPart target) with
        | none =>
          rw [Guild.getMember, hmember] at hremoves
          exact absurd hremoves.2 Bool.false_ne_true
        | some member => rfl
      · exact hharmless player hplayer guild hguild hremoves
  · exact ⟨hvalid, h⟩

/-- A harmless opcode keeps both places in agreement. -/
theorem handle_keeps (rules : GuildRules) {opcode : GuildOpcode} (hvalid : w.Valid)
    (h : w.OneToOne) (hharmless : w.Harmless opcode) :
    (w.handle rules opcode).Valid ∧ (w.handle rules opcode).OneToOne := by
  cases opcode with
  | invite guid name =>
    rw [handle]
    split
    · exact ⟨hvalid, h⟩
    · split
      · exact ⟨hvalid, h⟩
      · exact handleInviteMember_keeps rules hvalid h _ _ _ _
  | accept guid =>
    rw [handle]
    split
    · exact ⟨hvalid, h⟩
    · next player hplayer =>
        split
        · exact ⟨hvalid, h⟩
        · next hzero =>
            split
            · exact ⟨hvalid, h⟩
            · next guild hguild =>
                exact handleAcceptMember_keeps rules hvalid h (findPlayer_eq_some.mp hplayer).1
                  (not_not.mp hzero) hguild
  | decline guid =>
    rw [handle]
    split
    · exact ⟨hvalid, h⟩
    · next player hplayer =>
        refine updatePlayer_keeps hvalid h guid ?_
        intro p hp
        rw [(findPlayer_eq_some.mp hplayer).1] at hp
        rw [← Option.some.inj hp, hharmless player hplayer]
  | leave guid undeletable =>
    rw [handle]
    split
    · exact ⟨hvalid, h⟩
    · next player hplayer =>
        split
        · exact ⟨hvalid, h⟩
        · next guild hguild => exact handleLeaveMember_keeps hvalid h hplayer hguild undeletable
  | remove guid target =>
    rw [handle]
    split
    · exact ⟨hvalid, h⟩
    · next player hplayer =>
        split
        · exact ⟨hvalid, h⟩
        · next guild hguild => exact handleRemoveMember_keeps hvalid h hplayer hguild hharmless
  | transfer guid inWorld =>
    exact updatePlayer_keeps hvalid h guid fun _ _ => rfl

/-- In every run of harmless opcodes, membership stands the same in both places. -/
theorem oneToOne_of_run (rules : GuildRules) (hvalid : w.Valid) (h : w.OneToOne)
    {opcodes : List GuildOpcode}
    (hrun : Runs.Admissible (handle rules) Harmless w opcodes) {before : List GuildOpcode}
    (hbefore : before <+: opcodes) : (Runs.run (handle rules) w before).OneToOne := by
  have hkept := hrun.invariant (P := fun w => w.Valid ∧ w.OneToOne)
    (fun hkeeps hharmless => handle_keeps rules hkeeps.1 hkeeps.2 hharmless) ⟨hvalid, h⟩ hbefore
  exact hkept.2

instance (w : GuildWorld) : DecidablePred w.Harmless
  | .invite _ _ | .accept _ | .leave _ _ | .transfer _ _ => inferInstanceAs (Decidable True)
  | .decline guid =>
    inferInstanceAs (Decidable (∀ player ∈ w.findPlayer guid, player.guildId = 0))
  | .remove guid target =>
    inferInstanceAs (Decidable (∀ player ∈ w.findPlayer guid, ∀ guild ∈ w.getGuild player,
      guild.removesMember guid target = true →
        ∀ removed ∈ w.players.find? (lowPart target), target < 2 ^ 32 ∧ removed.inWorld = true))

/-- The leader and an initiate of a guild, and a player without one. -/
def aWorld : GuildWorld where
  guilds := OrderedMap.empty.insert 1 aGuild
  players := ((OrderedMap.empty.insert 1 ⟨"Ada", 0, [], true, 1, 0⟩).insert 3
    ⟨"Cyd", 0, [], true, 1, 0⟩).insert 4 ⟨"Dan", 0, [], true, 0, 0⟩

theorem aWorld_guild (h : aWorld.guilds.find? guildId = some guild) :
    guildId = 1 ∧ guild = aGuild := by
  rw [aWorld, OrderedMap.find?_insert] at h
  split at h
  · next heq => exact ⟨heq, (Option.some.inj h).symm⟩
  · cases h

theorem aWorld_player (h : aWorld.players.find? guid = some player) :
    (guid = 1 ∨ guid = 3) ∧ player.guildId = 1 ∨ guid = 4 ∧ player.guildId = 0 := by
  have hmem := OrderedMap.find?_eq_some_iff.mp h
  have hall : ∀ e ∈ aWorld.players.entries,
      (e.1 = 1 ∨ e.1 = 3) ∧ e.2.guildId = 1 ∨ e.1 = 4 ∧ e.2.guildId = 0 := by decide +kernel
  exact hall _ hmem

theorem aWorld_valid : aWorld.Valid where
  guild_ids := by decide +kernel
  player_guids := by
    intro guid player h
    have hguid := aWorld_player h
    omega
  member_guids := by
    intro guildId guild h
    obtain ⟨-, rfl⟩ := aWorld_guild h
    decide +kernel

theorem aWorld_oneToOne : aWorld.OneToOne where
  guild_iff := by
    intro guid player h guildId
    have hmember : aWorld.IsMember guildId guid ↔ guildId = 1 ∧ aGuild.hasMember guid = true := by
      constructor
      · rintro ⟨guild, hguild, hmem⟩
        obtain ⟨rfl, rfl⟩ := aWorld_guild hguild
        exact ⟨rfl, hmem⟩
      · rintro ⟨rfl, hmem⟩
        exact ⟨aGuild, by decide +kernel, hmem⟩
    rw [hmember]
    have hin : ∀ key, key = 1 ∨ key = 3 → aGuild.hasMember key = true := by
      rintro key (rfl | rfl)
      · decide +kernel
      · decide +kernel
    have hout : aGuild.hasMember 4 = false := by decide +kernel
    obtain ⟨hguid, hid⟩ | ⟨rfl, hid⟩ := aWorld_player h
    · rw [hid, and_iff_left (hin guid hguid)]
      omega
    · rw [hid, hout]
      constructor
      · rintro ⟨hne, heq⟩
        exact absurd heq.symm hne
      · rintro ⟨-, hfalse⟩
        exact absurd hfalse Bool.false_ne_true
  unique := by
    rintro guildId guildId' key ⟨guild, hguild, -⟩ ⟨guild', hguild', -⟩
    rw [(aWorld_guild hguild).1, (aWorld_guild hguild').1]

/-- Dan joins and leaves, declines without an offer, and Cyd is removed. -/
theorem oneToOne_after_removal :
    (Runs.run (handle ⟨false, fun _ => 0⟩) aWorld [.invite 1 "dan", .accept 4, .leave 4 false,
      .decline 4, .remove 1 3, .transfer 3 false]).OneToOne :=
  oneToOne_of_run ⟨false, fun _ => 0⟩ aWorld_valid aWorld_oneToOne (by decide +kernel)
    (List.prefix_refl _)

/-- A member declines, a member is removed under a guid with a high part, and a member is removed
while he changes maps: the field and the member map disagree. -/
theorem member_declines :
    aWorld.Valid ∧ aWorld.OneToOne ∧
      ∀ opcodes ∈ [[GuildOpcode.decline 3], [.remove 1 (2 ^ 32 + 3)],
        [.transfer 3 false, .remove 1 3]],
        ¬ (Runs.run (handle ⟨false, fun _ => 0⟩) aWorld opcodes).OneToOne := by
  refine ⟨aWorld_valid, aWorld_oneToOne, ?_⟩
  have hfail : ∀ opcodes ∈ [[GuildOpcode.decline 3], [.remove 1 (2 ^ 32 + 3)],
      [.transfer 3 false, .remove 1 3]],
      let w := Runs.run (handle ⟨false, fun _ => 0⟩) aWorld opcodes
      (w.players.find? 3).any (fun p =>
        (w.guilds.find? 1).any fun guild => (p.guildId == 1) != guild.hasMember 3) = true := by
    decide +kernel
  intro opcodes hopcodes h
  obtain ⟨p, hp, hany⟩ := Option.any_eq_true _ _ |>.mp (hfail opcodes hopcodes)
  obtain ⟨guild, hguild, hdiffer⟩ := Option.any_eq_true _ _ |>.mp hany
  have hagree := h.guild_iff hp 1
  rw [isMember_eq hguild, and_iff_right one_ne_zero, ← beq_iff_eq, ← Bool.eq_iff_iff] at hagree
  exact bne_iff_ne.mp hdiffer hagree

end GuildWorld

end Cataclysm.Guilds
