import Cataclysm.Groups.SubGroups
import Cataclysm.Lib.OrderedMap

/-!
# Group loot rolls

A roll keeps the vote of every player that takes part and, beside the votes, counters
of the kinds of votes. A vote ends the roll when the counters reach the number of
players; a member who leaves takes his vote back out of the counters.

`CountRollVote` counts a vote without looking at the vote that it replaces. A player
who votes again is counted twice, so the counters are the tally of the recorded votes
in the runs where nobody votes again on a roll.

## Implementation notes

`GroupLoot` and `NeedBeforeGreed` open rolls from the members that are near and allowed;
they are distinct and at most `MAXRAIDSIZE`, which `Rollers` carries. A roll refers to its
loot by a number, and to none once the loot is gone. Of a loot only the flags and counts
that `CountTheRoll` changes are kept. `RollContext` holds what a count asks from outside:
the numbers drawn by `urand`, which players are found, and who can store the item. Of the
packets only `SMSG_LOOT_ROLL_WON` is recorded, beside the items given to players.
-/

namespace Cataclysm
open Runs

/-- What a player said to a roll. -/
inductive RollVote
  | pass
  | need
  | greed
  | disenchant
  | notEmitedYet
  | notValid
  deriving DecidableEq

/-- `MAX_ROLL_TYPE`. -/
def maxRollType : UInt8 := 4

/-- The guid of what is looted. -/
abbrev LootId := Nat

/-- The flags of a `LootItem` that a roll changes. -/
structure LootItem where
  isLooted : Bool
  isBlocked : Bool
  deriving DecidableEq

/-- The loot that a roll is about. -/
structure Loot where
  items : List LootItem
  questItems : List LootItem
  unlootedCount : UInt8
  deriving DecidableEq

/-- Changes the item at a roll's slot; the quest items follow the items. -/
def Loot.modifyItem (loot : Loot) (itemSlot : Nat) (f : LootItem → LootItem) : Loot :=
  if itemSlot ≥ loot.items.length then
    { loot with questItems := loot.questItems.modify (itemSlot - loot.items.length) f }
  else { loot with items := loot.items.modify itemSlot f }

/-- The item of the roll was given away. -/
def Loot.markLooted (loot : Loot) (itemSlot : Nat) : Loot :=
  let loot := loot.modifyItem itemSlot fun item => { item with isLooted := true }
  { loot with unlootedCount := loot.unlootedCount - 1 }

/-- The item of the roll can be taken by anybody. -/
def Loot.unblock (loot : Loot) (itemSlot : Nat) : Loot :=
  loot.modifyItem itemSlot fun item => { item with isBlocked := false }

/-- A roll for one item with its counters. -/
structure Roll where
  itemGUID : Guid
  playerVote : OrderedMap Guid RollVote
  totalPlayersRolling : UInt8
  totalNeed : UInt8
  totalGreed : UInt8
  totalPass : UInt8
  itemSlot : Nat
  loot : Option LootId
  deriving DecidableEq

/-- The members that take part in a roll, each with `GetPassOnGroupLoot`. -/
structure Rollers where
  members : List (Guid × Bool)
  distinct : (members.map Prod.fst).Nodup
  atMost : members.length ≤ maxRaidSize

/-- What `CountTheRoll` learns from outside the group. -/
structure RollContext where
  urand : Guid → Nat
  urand_range : ∀ guid, 1 ≤ urand guid ∧ urand guid ≤ 100
  findPlayer : Guid → Bool
  canStore : Guid → Bool
  isLFRGroup : Bool

namespace Roll

/-- The loot of the roll still exists. -/
def isValid (roll : Roll) : Bool := roll.loot.isSome

/-- `Roll::Roll`. -/
def new (itemGUID : Guid) : Roll := ⟨itemGUID, .empty, 0, 0, 0, 0, 0, none⟩

/-- A member takes part; whoever passes on group loot has voted. -/
def addPlayer (roll : Roll) (member : Guid × Bool) : Roll :=
  let roll := { roll with totalPlayersRolling := roll.totalPlayersRolling + 1 }
  if member.2 then
    { roll with
      playerVote := roll.playerVote.insert member.1 .pass
      totalPass := roll.totalPass + 1 }
  else { roll with playerVote := roll.playerVote.insert member.1 .notEmitedYet }

/-- The roll that `GroupLoot` and `NeedBeforeGreed` open for one item. -/
def start (itemGUID : Guid) (loot : LootId) (itemSlot : Nat) (rollers : Rollers) : Roll :=
  { rollers.members.foldl addPlayer (new itemGUID) with loot := some loot, itemSlot }

/-- The `switch` of `CountRollVote`. -/
def vote (roll : Roll) (playerGUID : Guid) (choice : UInt8) : Roll :=
  if choice = 0 then
    { roll with
      totalPass := roll.totalPass + 1
      playerVote := roll.playerVote.insert playerGUID .pass }
  else if choice = 1 then
    { roll with
      totalNeed := roll.totalNeed + 1
      playerVote := roll.playerVote.insert playerGUID .need }
  else if choice = 2 then
    { roll with
      totalGreed := roll.totalGreed + 1
      playerVote := roll.playerVote.insert playerGUID .greed }
  else if choice = 3 then
    { roll with
      totalGreed := roll.totalGreed + 1
      playerVote := roll.playerVote.insert playerGUID .disenchant }
  else roll

/-- As many votes as players were counted. -/
def isComplete (roll : Roll) : Bool :=
  roll.totalPass.toNat + roll.totalNeed.toNat + roll.totalGreed.toNat ≥
    roll.totalPlayersRolling.toNat

/-- The part of `RemoveMember` that takes a player's recorded vote out of a roll. -/
def removePlayer (roll : Roll) (guid : Guid) (vote : RollVote) : Roll :=
  let roll :=
    match vote with
    | .greed | .disenchant => { roll with totalGreed := roll.totalGreed - 1 }
    | .need => { roll with totalNeed := roll.totalNeed - 1 }
    | .pass => { roll with totalPass := roll.totalPass - 1 }
    | .notEmitedYet | .notValid => roll
  let roll :=
    if vote = .notValid then roll
    else { roll with totalPlayersRolling := roll.totalPlayersRolling - 1 }
  { roll with playerVote := roll.playerVote.erase guid }

end Roll

/-- The highest number drawn for the votes of a kind: the first player in the order of
the map who draws more than those before him, with his vote. -/
def highestRoll (urand : Guid → Nat) (kind : RollVote → Bool) :
    List (Guid × RollVote) → Guid × RollVote × Nat → Guid × RollVote × Nat
  | [], best => best
  | (guid, vote) :: rest, best =>
    if kind vote ∧ best.2.2 < urand guid then
      highestRoll urand kind rest (guid, vote, urand guid)
    else highestRoll urand kind rest best

/-- What the end of a roll tells and gives to whom. -/
inductive RollEvent
  | lootRollWon (winner : Guid) (vote : RollVote) (number : Nat)
  | storeNewItem (player : Guid)
  | autoStoreLoot (player : Guid)
  deriving DecidableEq

/-- An event with the roll that `CountTheRoll` has ended and the numbers drawn for it. -/
structure Award where
  roll : Roll
  urand : Guid → Nat
  event : RollEvent

/-- The rolls of a group, the loots they are about, and what the ended rolls have awarded. -/
structure GroupRolls where
  rollId : List Roll
  loots : LootId → Loot
  awards : List Award

namespace GroupRolls

/-- One loot changes. -/
def modifyLoot (s : GroupRolls) (id : LootId) (f : Loot → Loot) : GroupRolls :=
  { s with loots := Function.update s.loots id (f (s.loots id)) }

/-- `GetRoll`: the position of the first valid roll for an item. -/
def getRoll (s : GroupRolls) (guid : Guid) : Option Nat :=
  s.rollId.findIdx? fun roll => roll.itemGUID = guid && roll.isValid

/-- What is announced or given is noted with the roll. -/
def record (context : RollContext) (s : GroupRolls) (roll : Roll) (event : RollEvent) :
    GroupRolls :=
  { s with awards := s.awards ++ [⟨roll, context.urand, event⟩] }

/-- The winner stores the item, or it is open to everybody when he cannot. -/
def storeNewItem (context : RollContext) (s : GroupRolls) (roll : Roll) (id : LootId)
    (winner : Guid) : GroupRolls :=
  if context.canStore winner then
    (s.modifyLoot id fun loot => loot.markLooted roll.itemSlot).record context roll
      (.storeNewItem winner)
  else s.modifyLoot id fun loot => loot.unblock roll.itemSlot

/-- The end of a valid roll. -/
def award (context : RollContext) (s : GroupRolls) (roll : Roll) (id : LootId) : GroupRolls :=
  match roll.playerVote.entries with
  | [] =>
    if roll.totalNeed > 0 ∨ roll.totalGreed > 0 ∨ context.isLFRGroup then s
    else s.modifyLoot id fun loot => loot.unblock roll.itemSlot
  | (first, _) :: _ =>
    let entries := roll.playerVote.entries
    if roll.totalNeed > 0 then
      let (winner, _, number) :=
        highestRoll context.urand (· = .need) entries (first, .notValid, 0)
      let s := s.record context roll (.lootRollWon winner .need number)
      if context.findPlayer winner then s.storeNewItem context roll id winner
      else s
    else if roll.totalGreed > 0 then
      let (winner, vote, number) :=
        highestRoll context.urand (fun vote => vote = .greed || vote = .disenchant) entries
          (first, .notValid, 0)
      let s := s.record context roll (.lootRollWon winner vote number)
      if context.findPlayer winner then
        match vote with
        | .greed => s.storeNewItem context roll id winner
        | .disenchant =>
          (s.modifyLoot id fun loot => loot.markLooted roll.itemSlot).record context roll
            (.autoStoreLoot winner)
        | _ => s
      else s
    else if context.isLFRGroup then s
    else s.modifyLoot id fun loot => loot.unblock roll.itemSlot

/-- The end of a roll. -/
def countTheRoll (context : RollContext) (s : GroupRolls) (rollI : Nat) : GroupRolls :=
  match s.rollId[rollI]? with
  | none => s
  | some roll =>
    let s := { s with rollId := s.rollId.eraseIdx rollI }
    match roll.loot with
    | none => s
    | some id => s.award context roll id

/-- A vote is counted, and may end the roll. -/
def countRollVote (context : RollContext) (s : GroupRolls) (playerGUID guid : Guid)
    (choice : UInt8) : GroupRolls :=
  match s.getRoll guid with
  | none => s
  | some rollI =>
    match s.rollId[rollI]? with
    | none => s
    | some roll =>
      if !roll.playerVote.contains playerGUID then s
      else if roll.loot.any fun id => (s.loots id).items.isEmpty then s
      else
        let roll := roll.vote playerGUID choice
        let s := { s with rollId := s.rollId.set rollI roll }
        if roll.isComplete then s.countTheRoll context rollI else s

/-- One round of the loop of `RemoveMember` over the rolls. -/
def removeFromRoll (context : RollContext) (guid : Guid) (s : GroupRolls) (rollI : Nat) :
    GroupRolls :=
  match s.rollId[rollI]? with
  | none => s
  | some roll =>
    match roll.playerVote.find? guid with
    | none => s
    | some vote =>
      let s := { s with rollId := s.rollId.set rollI (roll.removePlayer guid vote) }
      s.countRollVote context guid roll.itemGUID maxRollType

/-- "Remove player from loot rolls". -/
def removeMember (context : RollContext) (s : GroupRolls) (guid : Guid) : GroupRolls :=
  (List.range s.rollId.length).foldl (removeFromRoll context guid) s

/-- A roll is opened for some players. -/
def startRoll (s : GroupRolls) (itemGUID : Guid) (loot : LootId) (itemSlot : Nat)
    (rollers : Rollers) : GroupRolls :=
  let roll := Roll.start itemGUID loot itemSlot rollers
  if roll.totalPlayersRolling > 0 then
    let s := s.modifyLoot loot fun loot =>
      loot.modifyItem itemSlot fun item => { item with isBlocked := true }
    { s with rollId := s.rollId ++ [roll] }
  else s

/-- Counts the first roll of a loot again and again; every count erases one roll. -/
def endRolls (context : RollContext) (loot : LootId) : Nat → GroupRolls → GroupRolls
  | 0, s => s
  | fuel + 1, s =>
    match s.rollId.findIdx? fun roll => roll.loot = some loot with
    | none => s
    | some rollI => endRolls context loot fuel (s.countTheRoll context rollI)

/-- The timer of a loot has run out. -/
def endRoll (context : RollContext) (s : GroupRolls) (loot : LootId) : GroupRolls :=
  endRolls context loot s.rollId.length s

/-- `Loot::clear`: the rolls lose their reference. -/
def clearLoot (s : GroupRolls) (loot : LootId) : GroupRolls :=
  { s with
    rollId := s.rollId.map fun roll =>
      if roll.loot = some loot then { roll with loot := none } else roll
    loots := Function.update s.loots loot ⟨[], [], 0⟩ }

end GroupRolls

namespace RollVote

def isNeed (vote : RollVote) : Bool := vote = .need

/-- Disenchanting counts as greed. -/
def isGreed (vote : RollVote) : Bool := vote = .greed || vote = .disenchant

def isPass (vote : RollVote) : Bool := vote = .pass

def isRolling (vote : RollVote) : Bool := vote ≠ .notValid

theorem countValues_le_rolling (m : OrderedMap Guid RollVote) :
    m.countValues isPass + m.countValues isNeed + m.countValues isGreed ≤
      m.countValues isRolling := by
  simp only [OrderedMap.countValues]
  generalize m.entries = entries
  induction entries with
  | nil => simp
  | cons entry rest ih =>
    obtain ⟨guid, vote⟩ := entry
    have hvote : (if isPass vote then 1 else 0) + (if isNeed vote then 1 else 0) +
        (if isGreed vote then 1 else 0) ≤ if isRolling vote then 1 else 0 := by
      cases vote <;> decide
    simp only [List.countP_cons]
    omega

end RollVote

namespace Roll
open RollVote

variable {roll : Roll} {guid : Guid}

/-- The counters are the numbers of recorded votes, and not more than the players. -/
def Tallied (roll : Roll) : Prop :=
  roll.totalNeed.toNat = roll.playerVote.countValues isNeed ∧
    roll.totalGreed.toNat = roll.playerVote.countValues isGreed ∧
    roll.totalPass.toNat = roll.playerVote.countValues isPass ∧
    roll.totalPass.toNat + roll.totalNeed.toNat + roll.totalGreed.toNat ≤
      roll.totalPlayersRolling.toNat

/-- The tally together with the number of players, which does not overflow. -/
structure Consistent (roll : Roll) : Prop where
  need : roll.totalNeed.toNat = roll.playerVote.countValues isNeed
  greed : roll.totalGreed.toNat = roll.playerVote.countValues isGreed
  pass : roll.totalPass.toNat = roll.playerVote.countValues isPass
  rolling : roll.totalPlayersRolling.toNat = roll.playerVote.countValues isRolling
  size : roll.playerVote.entries.length ≤ maxRaidSize

theorem Consistent.tallied (h : roll.Consistent) : roll.Tallied := by
  refine ⟨h.need, h.greed, h.pass, ?_⟩
  rw [h.need, h.greed, h.pass, h.rolling]
  exact countValues_le_rolling roll.playerVote

theorem toNat_add_one {n : UInt8} (h : n.toNat < 255) : (n + 1).toNat = n.toNat + 1 := by
  rw [UInt8.toNat_add]
  exact Nat.mod_eq_of_lt (Nat.succ_lt_succ h)

/-- A counter that is raised when a new vote is of its kind keeps counting. -/
theorem counted_insert {m : OrderedMap Guid RollVote} {kind : RollVote → Bool} {n : UInt8}
    (h : n.toNat = (m.erase guid).countValues kind)
    (hsize : (m.erase guid).entries.length ≤ maxRaidSize) (vote : RollVote) :
    (if kind vote then n + 1 else n).toNat = (m.insert guid vote).countValues kind := by
  rw [OrderedMap.countValues_insert, ← h]
  split
  · have hle := (m.erase guid).countValues_le kind
    simp only [maxRaidSize] at hsize
    exact toNat_add_one (by omega)
  · rfl

/-- A vote of a player who has not voted. -/
theorem Consistent.vote (h : roll.Consistent) {playerGUID : Guid}
    (hplayer : roll.playerVote.find? playerGUID = some .notEmitedYet) (choice : UInt8) :
    (roll.vote playerGUID choice).Consistent := by
  have hcount := OrderedMap.countValues_eq_erase hplayer
  have hlength := (OrderedMap.perm_erase hplayer).length_eq
  have hsize := h.size
  rw [hlength] at hsize
  have herase : (roll.playerVote.erase playerGUID).entries.length ≤ maxRaidSize :=
    (Nat.le_succ _).trans hsize
  have hneed := counted_insert (h.need.trans (hcount isNeed)) herase
  have hgreed := counted_insert (h.greed.trans (hcount isGreed)) herase
  have hpass := counted_insert (h.pass.trans (hcount isPass)) herase
  have hrolling : ∀ vote : RollVote, vote.isRolling = true →
      roll.totalPlayersRolling.toNat =
        (roll.playerVote.insert playerGUID vote).countValues isRolling := by
    intro vote hvote
    rw [h.rolling, hcount, OrderedMap.countValues_insert, hvote]
    rfl
  have hinsert : ∀ vote,
      (roll.playerVote.insert playerGUID vote).entries.length ≤ maxRaidSize := by
    intro vote
    rw [(roll.playerVote.perm_insert playerGUID vote).length_eq]
    exact hsize
  rw [Roll.vote]
  split_ifs
  · exact ⟨hneed .pass, hgreed .pass, hpass .pass, hrolling .pass rfl, hinsert .pass⟩
  · exact ⟨hneed .need, hgreed .need, hpass .need, hrolling .need rfl, hinsert .need⟩
  · exact ⟨hneed .greed, hgreed .greed, hpass .greed, hrolling .greed rfl, hinsert .greed⟩
  · exact ⟨hneed .disenchant, hgreed .disenchant, hpass .disenchant, hrolling .disenchant rfl,
      hinsert .disenchant⟩
  · exact h

/-- A player who is not yet part of the roll joins it. -/
theorem Consistent.addPlayer (h : roll.Consistent) {member : Guid × Bool}
    (hnew : roll.playerVote.find? member.1 = none)
    (hroom : roll.playerVote.entries.length < maxRaidSize) :
    (roll.addPlayer member).Consistent := by
  have herase := OrderedMap.erase_of_find?_eq_none hnew
  have hneed := counted_insert (h.need.trans (by rw [herase])) (by rw [herase]; exact h.size)
  have hgreed := counted_insert (h.greed.trans (by rw [herase])) (by rw [herase]; exact h.size)
  have hpass := counted_insert (h.pass.trans (by rw [herase])) (by rw [herase]; exact h.size)
  have hrolling :=
    counted_insert (h.rolling.trans (by rw [herase])) (by rw [herase]; exact h.size)
  have hinsert : ∀ vote,
      (roll.playerVote.insert member.1 vote).entries.length ≤ maxRaidSize := by
    intro vote
    rw [(roll.playerVote.perm_insert member.1 vote).length_eq, herase]
    exact Nat.succ_le_of_lt hroom
  rw [Roll.addPlayer]
  dsimp only
  split
  · exact ⟨hneed .pass, hgreed .pass, hpass .pass, hrolling .pass, hinsert .pass⟩
  · exact ⟨hneed .notEmitedYet, hgreed .notEmitedYet, hpass .notEmitedYet,
      hrolling .notEmitedYet, hinsert .notEmitedYet⟩

theorem find?_addPlayer (roll : Roll) (member : Guid × Bool) (h : guid ≠ member.1) :
    (roll.addPlayer member).playerVote.find? guid = roll.playerVote.find? guid := by
  rw [Roll.addPlayer]
  dsimp only
  split <;> exact (OrderedMap.find?_insert _ _ _ _).trans (if_neg h)

theorem length_addPlayer (roll : Roll) (member : Guid × Bool)
    (h : roll.playerVote.find? member.1 = none) :
    (roll.addPlayer member).playerVote.entries.length = roll.playerVote.entries.length + 1 := by
  have hinsert : ∀ vote, (roll.playerVote.insert member.1 vote).entries.length =
      roll.playerVote.entries.length + 1 := by
    intro vote
    rw [(roll.playerVote.perm_insert member.1 vote).length_eq,
      OrderedMap.erase_of_find?_eq_none h, List.length_cons]
  rw [Roll.addPlayer]
  dsimp only
  split <;> exact hinsert _

theorem Consistent.addPlayers {members : List (Guid × Bool)} (h : roll.Consistent)
    (hdistinct : (members.map Prod.fst).Nodup)
    (hnew : ∀ member ∈ members, roll.playerVote.find? member.1 = none)
    (hroom : roll.playerVote.entries.length + members.length ≤ maxRaidSize) :
    (members.foldl Roll.addPlayer roll).Consistent := by
  induction members generalizing roll with
  | nil => exact h
  | cons member rest ih =>
    rw [List.map_cons, List.nodup_cons] at hdistinct
    have hmember := hnew member List.mem_cons_self
    rw [List.length_cons] at hroom
    refine ih (h.addPlayer hmember (by omega)) hdistinct.2 ?_ ?_
    · intro other hother
      have hne : other.1 ≠ member.1 := by
        intro heq
        exact hdistinct.1 (heq ▸ List.mem_map_of_mem hother)
      rw [find?_addPlayer _ _ hne]
      exact hnew other (List.mem_cons_of_mem _ hother)
    · rw [length_addPlayer _ _ hmember]
      omega

theorem consistent_start (itemGUID : Guid) (loot : LootId) (itemSlot : Nat)
    (rollers : Rollers) : (start itemGUID loot itemSlot rollers).Consistent := by
  have hnew : (new itemGUID).Consistent := ⟨rfl, rfl, rfl, rfl, Nat.zero_le _⟩
  have hall := hnew.addPlayers rollers.distinct (fun _ _ => rfl)
    ((Nat.zero_add _).trans_le rollers.atMost)
  exact ⟨hall.need, hall.greed, hall.pass, hall.rolling, hall.size⟩

theorem vote_of_not_recorded (roll : Roll) (playerGUID : Guid) {choice : UInt8}
    (h : maxRollType ≤ choice) : roll.vote playerGUID choice = roll := by
  have hnat : 4 ≤ choice.toNat := h
  have hne : choice ≠ 0 ∧ choice ≠ 1 ∧ choice ≠ 2 ∧ choice ≠ 3 := by
    refine ⟨?_, ?_, ?_, ?_⟩ <;> rintro rfl <;> exact absurd hnat (by decide)
  simp [Roll.vote, hne]

/-- A counter that is lowered when the vote taken out is of its kind keeps counting. -/
theorem counted_erase {m : OrderedMap Guid RollVote} {vote : RollVote}
    (hvote : m.find? guid = some vote) {kind : RollVote → Bool} {n : UInt8}
    (h : n.toNat = m.countValues kind) :
    (if kind vote then n - 1 else n).toNat = (m.erase guid).countValues kind := by
  rw [OrderedMap.countValues_eq_erase hvote] at h
  split
  · next hkind =>
    rw [if_pos hkind] at h
    rw [Group.toNat_sub_one (by omega), h, Nat.add_sub_cancel]
  · next hkind =>
    rw [h, if_neg hkind, Nat.add_zero]

theorem Consistent.removePlayer (h : roll.Consistent) {vote : RollVote}
    (hvote : roll.playerVote.find? guid = some vote) :
    (roll.removePlayer guid vote).Consistent := by
  have hsize : (roll.playerVote.erase guid).entries.length ≤ maxRaidSize :=
    (List.length_filter_le _ _).trans h.size
  have hneed := counted_erase hvote h.need
  have hgreed := counted_erase hvote h.greed
  have hpass := counted_erase hvote h.pass
  have hrolling := counted_erase hvote h.rolling
  cases vote <;> exact ⟨hneed, hgreed, hpass, hrolling, hsize⟩

end Roll

namespace GroupRolls

variable {s : GroupRolls} {playerGUID : Guid} {choice : UInt8}

/-- Loot-roll requests, the removal of members, and what else opens and ends rolls. -/
inductive Action
  | startRoll (itemGUID : Guid) (loot : LootId) (itemSlot : Nat) (rollers : Rollers)
  | lootRoll (context : RollContext) (playerGUID itemGUID : Guid) (rollType : UInt8)
  | removeMember (context : RollContext) (guid : Guid)
  | endRoll (context : RollContext) (loot : LootId)
  | clearLoot (loot : LootId)

/-- One event of the group. -/
def step (s : GroupRolls) : Action → GroupRolls
  | .startRoll itemGUID loot itemSlot rollers => s.startRoll itemGUID loot itemSlot rollers
  | .lootRoll context playerGUID itemGUID rollType =>
    s.countRollVote context playerGUID itemGUID rollType
  | .removeMember context guid => s.removeMember context guid
  | .endRoll context loot => s.endRoll context loot
  | .clearLoot loot => s.clearLoot loot

/-- The recorded vote that a vote would replace. -/
def replacedVote (s : GroupRolls) (playerGUID guid : Guid) (choice : UInt8) : Option RollVote :=
  if maxRollType ≤ choice then none
  else
    ((s.getRoll guid).bind fun rollI => s.rollId[rollI]?).bind fun roll =>
      if roll.loot.any fun id => (s.loots id).items.isEmpty then none
      else roll.playerVote.find? playerGUID

/-- Nobody votes again on a roll. -/
def VotesOnce (s : GroupRolls) : Action → Prop
  | .lootRoll _ playerGUID itemGUID rollType =>
    ∀ vote, s.replacedVote playerGUID itemGUID rollType = some vote → vote = .notEmitedYet
  | _ => True

/-- Every roll is tallied. -/
def Consistent (s : GroupRolls) : Prop := ∀ roll ∈ s.rollId, roll.Consistent

theorem rollId_storeNewItem (context : RollContext) (s : GroupRolls) (roll : Roll) (id : LootId)
    (winner : Guid) : (s.storeNewItem context roll id winner).rollId = s.rollId := by
  rw [storeNewItem]
  split <;> rfl

theorem rollId_award (context : RollContext) (s : GroupRolls) (roll : Roll) (id : LootId) :
    (s.award context roll id).rollId = s.rollId := by
  rw [award]
  split
  · split <;> rfl
  · dsimp only
    split
    · split
      · exact rollId_storeNewItem ..
      · rfl
    · split
      · split
        · split
          · exact rollId_storeNewItem ..
          · rfl
          · rfl
        · rfl
      · split <;> rfl

theorem rollId_countTheRoll (context : RollContext) (s : GroupRolls) (rollI : Nat) :
    (s.countTheRoll context rollI).rollId = s.rollId.eraseIdx rollI := by
  rw [countTheRoll]
  split
  · next h => rw [List.eraseIdx_of_length_le (List.getElem?_eq_none_iff.mp h)]
  · dsimp only
    split
    · rfl
    · exact rollId_award _ _ _ _

theorem Consistent.countTheRoll (h : s.Consistent) (context : RollContext) (rollI : Nat) :
    (s.countTheRoll context rollI).Consistent := by
  intro roll hroll
  rw [rollId_countTheRoll] at hroll
  exact h roll (List.mem_of_mem_eraseIdx hroll)

theorem Consistent.set (h : s.Consistent) (rollI : Nat) {roll : Roll} (hroll : roll.Consistent) :
    ({ s with rollId := s.rollId.set rollI roll } : GroupRolls).Consistent := by
  intro other hother
  rcases List.mem_or_eq_of_mem_set hother with hmem | rfl
  · exact h other hmem
  · exact hroll

/-- A vote that is accepted: the position of its roll and the roll with the vote recorded. -/
def votedRoll (s : GroupRolls) (playerGUID guid : Guid) (choice : UInt8) : Option (Nat × Roll) :=
  (s.getRoll guid).bind fun rollI =>
    (s.rollId[rollI]?).bind fun roll =>
      if !roll.playerVote.contains playerGUID then none
      else if roll.loot.any fun id => (s.loots id).items.isEmpty then none
      else some (rollI, roll.vote playerGUID choice)

theorem countRollVote_eq (context : RollContext) (s : GroupRolls) (playerGUID guid : Guid)
    (choice : UInt8) :
    s.countRollVote context playerGUID guid choice =
      match s.votedRoll playerGUID guid choice with
      | none => s
      | some (rollI, roll) =>
        if roll.isComplete then
          ({ s with rollId := s.rollId.set rollI roll } : GroupRolls).countTheRoll context rollI
        else { s with rollId := s.rollId.set rollI roll } := by
  rw [countRollVote, votedRoll]
  rcases s.getRoll guid with _ | rollI
  · rfl
  dsimp only [Option.bind_some]
  rcases s.rollId[rollI]? with _ | roll
  · rfl
  dsimp only [Option.bind_some]
  by_cases hplayer : (!roll.playerVote.contains playerGUID) = true
  · rw [if_pos hplayer, if_pos hplayer]
  rw [if_neg hplayer, if_neg hplayer]
  by_cases hitems : (roll.loot.any fun id => (s.loots id).items.isEmpty) = true
  · rw [if_pos hitems, if_pos hitems]
  · rw [if_neg hitems, if_neg hitems]

/-- The roll that a vote is recorded on, and the vote that it replaces. -/
theorem votedRoll_eq_some {guid : Guid} {rollI : Nat} {roll : Roll}
    (h : s.votedRoll playerGUID guid choice = some (rollI, roll)) :
    ∃ old vote, s.rollId[rollI]? = some old ∧ old.playerVote.find? playerGUID = some vote ∧
      roll = old.vote playerGUID choice ∧
      (¬ maxRollType ≤ choice → s.replacedVote playerGUID guid choice = some vote) := by
  rw [votedRoll] at h
  obtain ⟨position, hget, h⟩ := Option.bind_eq_some_iff.mp h
  obtain ⟨old, hold, h⟩ := Option.bind_eq_some_iff.mp h
  rw [Option.ite_none_left_eq_some, Option.ite_none_left_eq_some] at h
  obtain ⟨hplayer, hitems, h⟩ := h
  obtain ⟨rfl, rfl⟩ := Prod.mk.inj (Option.some.inj h)
  rcases hfind : old.playerVote.find? playerGUID with _ | vote
  · simp [OrderedMap.contains, hfind] at hplayer
  · refine ⟨old, vote, hold, hfind, rfl, ?_⟩
    intro hchoice
    simp [replacedVote, hchoice, hget, hold, hitems, hfind]

theorem Consistent.votedRoll (h : s.Consistent) {guid : Guid}
    (honce : ∀ vote, s.replacedVote playerGUID guid choice = some vote → vote = .notEmitedYet)
    {rollI : Nat} {roll : Roll} (hroll : s.votedRoll playerGUID guid choice = some (rollI, roll)) :
    roll.Consistent := by
  obtain ⟨old, vote, hold, hfind, rfl, hreplaced⟩ := votedRoll_eq_some hroll
  have hcons := h old (List.mem_of_getElem? hold)
  by_cases hchoice : maxRollType ≤ choice
  · rw [Roll.vote_of_not_recorded _ _ hchoice]
    exact hcons
  · exact hcons.vote (honce vote (hreplaced hchoice) ▸ hfind) choice

theorem Consistent.countRollVote (h : s.Consistent) (context : RollContext) {guid : Guid}
    (honce : ∀ vote, s.replacedVote playerGUID guid choice = some vote → vote = .notEmitedYet) :
    (s.countRollVote context playerGUID guid choice).Consistent := by
  rw [countRollVote_eq]
  rcases hvoted : s.votedRoll playerGUID guid choice with _ | ⟨rollI, roll⟩
  · exact h
  have hset := h.set rollI (h.votedRoll honce hvoted)
  dsimp only
  split
  · exact hset.countTheRoll context rollI
  · exact hset

theorem Consistent.removeFromRoll (h : s.Consistent) (context : RollContext) (guid : Guid)
    (rollI : Nat) : (s.removeFromRoll context guid rollI).Consistent := by
  rw [GroupRolls.removeFromRoll]
  rcases hroll : s.rollId[rollI]? with _ | roll
  · exact h
  dsimp only
  rcases hvote : roll.playerVote.find? guid with _ | vote
  · exact h
  have hremoved := (h roll (List.mem_of_getElem? hroll)).removePlayer hvote
  refine (h.set rollI hremoved).countRollVote context ?_
  intro vote hreplaced
  simp [replacedVote] at hreplaced

theorem Consistent.removeMember (h : s.Consistent) (context : RollContext) (guid : Guid) :
    (s.removeMember context guid).Consistent := by
  rw [GroupRolls.removeMember]
  generalize List.range s.rollId.length = positions
  induction positions generalizing s with
  | nil => exact h
  | cons rollI rest ih => exact ih (h.removeFromRoll context guid rollI)

theorem Consistent.endRolls (h : s.Consistent) (context : RollContext) (loot : LootId)
    (fuel : Nat) : (GroupRolls.endRolls context loot fuel s).Consistent := by
  induction fuel generalizing s with
  | zero => exact h
  | succ fuel ih =>
    rw [GroupRolls.endRolls]
    split
    · exact h
    · exact ih (h.countTheRoll context _)

theorem Consistent.startRoll (h : s.Consistent) (itemGUID : Guid) (loot : LootId) (itemSlot : Nat)
    (rollers : Rollers) : (s.startRoll itemGUID loot itemSlot rollers).Consistent := by
  rw [GroupRolls.startRoll]
  dsimp only
  split
  · intro roll hroll
    rcases List.mem_append.mp hroll with hold | hnew
    · exact h roll hold
    · obtain rfl := List.mem_singleton.mp hnew
      exact Roll.consistent_start itemGUID loot itemSlot rollers
  · exact h

theorem Consistent.clearLoot (h : s.Consistent) (loot : LootId) :
    (s.clearLoot loot).Consistent := by
  intro roll hroll
  obtain ⟨old, hold, rfl⟩ := List.mem_map.mp hroll
  have hcons := h old hold
  split
  · exact ⟨hcons.need, hcons.greed, hcons.pass, hcons.rolling, hcons.size⟩
  · exact hcons

theorem Consistent.step (h : s.Consistent) {action : Action} (hok : s.VotesOnce action) :
    (s.step action).Consistent := by
  cases action with
  | startRoll itemGUID loot itemSlot rollers => exact h.startRoll itemGUID loot itemSlot rollers
  | lootRoll context playerGUID itemGUID rollType => exact h.countRollVote context hok
  | removeMember context guid => exact h.removeMember context guid
  | endRoll context loot => exact h.endRolls context loot _
  | clearLoot loot => exact h.clearLoot loot

/-- As long as nobody votes again on a roll, the counters of every roll are the tally of
its recorded votes. -/
theorem tallied_of_votesOnce (loots : LootId → Loot) {actions before : List Action}
    (h : Admissible step VotesOnce ⟨[], loots, []⟩ actions) (hbefore : before <+: actions)
    {roll : Roll} (hroll : roll ∈ (run step ⟨[], loots, []⟩ before).rollId) : roll.Tallied := by
  have hconsistent : (run step ⟨[], loots, []⟩ before).Consistent :=
    h.invariant (fun hs hok => hs.step hok) (by simp [Consistent]) hbefore
  exact (hconsistent roll hroll).tallied

/-- Four players roll for the only item of a loot; one passes on group loot. -/
def fourRollers : Action :=
  .startRoll 10 0 0 ⟨[(1, false), (2, false), (3, true), (4, false)], by decide, by decide⟩

def everyoneOnline : RollContext :=
  ⟨fun _ => 1, fun _ => by decide, fun _ => true, fun _ => true, false⟩

def oneItem : LootId → Loot := fun _ => ⟨[⟨false, false⟩], [], 1⟩

/-- One player votes once and the player who passed leaves. -/
theorem tallied_one_vote :
    ∃ roll ∈ (run step ⟨[], oneItem, []⟩
        [fourRollers, .lootRoll everyoneOnline 1 10 1, .removeMember everyoneOnline 3]).rollId,
      roll.totalNeed = 1 ∧ roll.totalPass = 0 ∧ roll.Tallied := by
  have honce : Admissible step VotesOnce ⟨[], oneItem, []⟩
      [fourRollers, .lootRoll everyoneOnline 1 10 1, .removeMember everyoneOnline 3] := by
    refine ⟨trivial, ?_, trivial, trivial⟩
    intro vote hvote
    exact (Option.some.inj hvote).symm
  exact ⟨_, List.mem_cons_self, rfl, rfl,
    tallied_of_votesOnce oneItem honce (List.prefix_refl _) List.mem_cons_self⟩

/-- A second vote of the same player is counted beside the first. -/
theorem not_tallied_second_vote :
    ¬ ∀ actions, ∀ roll ∈ (run step ⟨[], oneItem, []⟩ actions).rollId, roll.Tallied := by
  intro h
  have hneed := (h [fourRollers, .lootRoll everyoneOnline 1 10 1,
    .lootRoll everyoneOnline 1 10 1] _ List.mem_cons_self).1
  exact absurd hneed (by decide)

end GroupRolls

end Cataclysm
