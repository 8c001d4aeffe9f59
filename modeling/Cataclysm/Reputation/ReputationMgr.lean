import Cataclysm.Lib.OrderedMap

/-!
# The reputations of a player

A player has a state for every faction that can be listed. Standings are kept relative to a base
that depends on the race and the class of the player. Four counters follow how many factions are
visible and how many are at least honored, revered and exalted.

## Implementation notes

Standings are 32 bits wide and the counters are 8 bits wide. What is computed with floating point
numbers is a parameter. A faction that a template names and that does not exist is passed over. The
packets to the client are left out, but not the flags and the numbers that sending them resets.
-/

namespace Cataclysm.Reputation

/-! ### Ranks -/

/-- The ranks from hated to exalted. -/
inductive ReputationRank
  | hated
  | hostile
  | unfriendly
  | neutral
  | friendly
  | honored
  | revered
  | exalted
  deriving DecidableEq

namespace ReputationRank

def index : ReputationRank → Nat
  | hated => 0
  | hostile => 1
  | unfriendly => 2
  | neutral => 3
  | friendly => 4
  | honored => 5
  | revered => 6
  | exalted => 7

/-- The points from one rank to the next. -/
def pointsInRank : ReputationRank → Int
  | hated => 36000
  | hostile => 3000
  | unfriendly => 3000
  | neutral => 3000
  | friendly => 6000
  | honored => 12000
  | revered => 21000
  | exalted => 1000

end ReputationRank

def reputationCap : Int := 42999

def reputationBottom : Int := -42000

/-- The loop over the ranks from the highest one down. -/
def rankBelow (standing : Int) : List ReputationRank → Int → ReputationRank
  | [], _ => .hated
  | rank :: rest, limit =>
    if limit - rank.pointsInRank ≤ standing then rank
    else rankBelow standing rest (limit - rank.pointsInRank)

/-- `ReputationToRank`. -/
def reputationToRank (standing : Int32) : ReputationRank :=
  rankBelow standing.toInt
    [.exalted, .revered, .honored, .friendly, .neutral, .unfriendly, .hostile, .hated]
    (reputationCap + 1)

/-! ### Flags -/

/-- The bits of `FactionFlags`. -/
inductive FactionFlag
  | visible
  | atWar
  | hidden
  | invisibleForced
  | peaceForced
  | inactive
  | rival
  | special
  deriving DecidableEq

def FactionFlag.bit : FactionFlag → Nat
  | visible => 0
  | atWar => 1
  | hidden => 2
  | invisibleForced => 3
  | peaceForced => 4
  | inactive => 5
  | rival => 6
  | special => 7

/-- `flags & flag`. -/
def hasFlag {w : Nat} (flags : BitVec w) (flag : FactionFlag) : Bool := flags.getLsbD flag.bit

/-- `flags |= flag`. -/
def setFlag (flags : BitVec 8) (flag : FactionFlag) : BitVec 8 :=
  flags ||| BitVec.twoPow 8 flag.bit

/-- `flags &= ~flag`. -/
def clearFlag (flags : BitVec 8) (flag : FactionFlag) : BitVec 8 :=
  flags &&& ~~~(BitVec.twoPow 8 flag.bit)

/-- `flags & (FACTION_FLAG_INVISIBLE_FORCED|FACTION_FLAG_HIDDEN)`. -/
def isHidden (flags : BitVec 8) : Bool := hasFlag flags .invisibleForced || hasFlag flags .hidden

/-! ### Factions -/

/-- One of the four bases of a faction. -/
structure BaseReputation where
  raceMask : BitVec 32
  classMask : BitVec 32
  value : Int32
  flags : BitVec 32

/-- A row of the faction table. -/
structure FactionEntry (F : Type*) where
  id : Nat
  reputationListID : Int32
  bases : List BaseReputation
  team : Nat
  spilloverRateIn : F
  spilloverRateOut : F
  spilloverMaxRankIn : Nat

/-- The key of a faction in the list of states. -/
def FactionEntry.key {F : Type*} (e : FactionEntry F) : Nat := e.reputationListID.toUInt32.toNat

/-- One target of a spillover template. -/
structure SpilloverTarget (F : Type*) where
  faction : Nat
  rate : F
  rank : Nat

/-- What is computed with floating point numbers: conversions, products, the test for zero, and the
standing that the rate of the realm makes of a gain. -/
structure FloatOps (F : Type*) where
  ofInt : Int32 → F
  mul : F → F → F
  toInt : F → Int32
  isZero : F → Bool
  gained : Int32 → Int32

/-- The stores and what the player is. The factions are in the order of their ids; the ids are
positive and fit the column of the table, and the factions that can be listed have distinct list
ids. -/
structure Realm (F : Type*) where
  factions : List (FactionEntry F)
  ids_nodup : (factions.map FactionEntry.id).Nodup
  id_pos : ∀ e ∈ factions, 0 < e.id
  id_lt : ∀ e ∈ factions, e.id < 2 ^ 16
  listIDs_distinct : ∀ e ∈ factions, ∀ e' ∈ factions, 0 ≤ e.reputationListID →
    e.reputationListID = e'.reputationListID → e = e'
  spilloverTemplate : Nat → Option (List (SpilloverTarget F))
  raceMask : BitVec 32
  classMask : BitVec 32
  ops : FloatOps F

namespace Realm

variable {F : Type*} (realm : Realm F)

def lookupEntry (id : Nat) : Option (FactionEntry F) := realm.factions.find? (·.id = id)

/-- `GetFactionTeamList`. -/
def factionTeamList (team : Nat) : Option (List Nat) :=
  if team = 0 then none
  else
    match (realm.factions.filter (·.team = team)).map FactionEntry.id with
    | [] => none
    | first :: rest => some (first :: rest)

/-- The base reputation is for the race and class of the player. -/
def baseApplies (base : BaseReputation) : Bool :=
  (base.raceMask &&& realm.raceMask != 0 || (base.raceMask == 0 && base.classMask != 0)) &&
    (base.classMask &&& realm.classMask != 0 || base.classMask == 0)

/-- The standing that the player starts with. -/
def getBaseReputation (e : FactionEntry F) : Int32 :=
  match e.bases.find? realm.baseApplies with
  | some base => base.value
  | none => 0

def getBaseRank (e : FactionEntry F) : ReputationRank :=
  reputationToRank (realm.getBaseReputation e)

/-- `GetDefaultStateFlags`, as it is stored in a byte. -/
def getDefaultStateFlags (e : FactionEntry F) : BitVec 8 :=
  match e.bases.find? realm.baseApplies with
  | some base => base.flags.setWidth 8
  | none => 0

end Realm

/-! ### States -/

/-- What the player has with one faction. -/
structure FactionState where
  id : Nat
  reputationListID : Nat
  standing : Int32
  flags : BitVec 8
  needSend : Bool
  needSave : Bool
  deriving DecidableEq

/-- The reputations of a player and their counters. -/
structure ReputationMgr where
  factions : OrderedMap Nat FactionState
  visibleFactionCount : UInt8
  honoredFactionCount : UInt8
  reveredFactionCount : UInt8
  exaltedFactionCount : UInt8
  sendFactionIncreased : Bool

namespace ReputationMgr

def create : ReputationMgr := ⟨.empty, 0, 0, 0, 0, false⟩

/-- The state of a faction that can be listed. -/
def getState {F : Type*} (m : ReputationMgr) (e : FactionEntry F) : Option FactionState :=
  if 0 ≤ e.reputationListID then m.factions.find? e.key else none

/-- The standing over the base, with the base. -/
def getReputation {F : Type*} (m : ReputationMgr) (realm : Realm F) (e : FactionEntry F) : Int32 :=
  match m.getState e with
  | some state => realm.getBaseReputation e + state.standing
  | none => 0

def getRank {F : Type*} (m : ReputationMgr) (realm : Realm F) (e : FactionEntry F) :
    ReputationRank :=
  reputationToRank (m.getReputation realm e)

/-- The state of one faction is stored. -/
def putState (m : ReputationMgr) (key : Nat) (state : FactionState) : ReputationMgr :=
  { m with factions := m.factions.insert key state }

/-- One counter after a change of rank. -/
def updateCounter (least old new : ReputationRank) (count : UInt8) : UInt8 :=
  let count := if least.index ≤ old.index then count - 1 else count
  if least.index ≤ new.index then count + 1 else count

/-- The counters follow a change of rank. -/
def updateRankCounters (m : ReputationMgr) (old new : ReputationRank) : ReputationMgr :=
  { m with
    exaltedFactionCount := updateCounter .exalted old new m.exaltedFactionCount
    reveredFactionCount := updateCounter .revered old new m.reveredFactionCount
    honoredFactionCount := updateCounter .honored old new m.honoredFactionCount }

/-! ### Setters -/

/-- A state that was made visible, if it was. -/
def madeVisible (state : FactionState) : Option FactionState :=
  if isHidden state.flags = true ∧ hasFlag state.flags .special = false then none
  else if hasFlag state.flags .visible then none
  else some { state with
    flags := setFlag state.flags .visible
    needSend := true
    needSave := true }

/-- `SetVisible` of a state. -/
def setVisibleState (m : ReputationMgr) (key : Nat) (state : FactionState) : ReputationMgr :=
  match madeVisible state with
  | some shown =>
    { m.putState key shown with visibleFactionCount := m.visibleFactionCount + 1 }
  | none => m

/-- `SetVisible` of a faction. -/
def setVisible {F : Type*} (m : ReputationMgr) (e : FactionEntry F) : ReputationMgr :=
  if 0 ≤ e.reputationListID then
    match m.factions.find? e.key with
    | some state => m.setVisibleState e.key state
    | none => m
  else m

/-- `SetVisible` of a template, with the faction that it names. -/
def setVisibleTemplate {F : Type*} (m : ReputationMgr) (realm : Realm F) (faction : Nat) :
    ReputationMgr :=
  if faction = 0 then m
  else
    match realm.lookupEntry faction with
    | some e =>
      if e.bases[1]?.any (fun base =>
        base.raceMask &&& realm.raceMask != 0 && base.value.toInt == reputationBottom) then m
      else m.setVisible e
    | none => m

/-- `SetAtWar` of a state. -/
def stateAtWar (state : FactionState) (atWar : Bool) : FactionState :=
  if atWar = true ∧ hasFlag state.flags .peaceForced = true then state
  else if hasFlag state.flags .atWar = atWar then state
  else { state with
    flags := if atWar then setFlag state.flags .atWar else clearFlag state.flags .atWar
    needSend := true
    needSave := true }

/-- `SetAtWar` of a list id. -/
def setAtWar (m : ReputationMgr) (repListID : Nat) (on : Bool) : ReputationMgr :=
  match m.factions.find? repListID with
  | some state => if isHidden state.flags then m else m.putState repListID (stateAtWar state on)
  | none => m

/-- `SetInactive` of a state. -/
def stateInactive (state : FactionState) (inactive : Bool) : FactionState :=
  if inactive = true ∧ (isHidden state.flags = true ∨ hasFlag state.flags .visible = false) then
    state
  else if hasFlag state.flags .inactive = inactive then state
  else { state with
    flags := if inactive then setFlag state.flags .inactive else clearFlag state.flags .inactive
    needSend := true
    needSave := true }

/-- `SetInactive` of a list id. -/
def setInactive (m : ReputationMgr) (repListID : Nat) (on : Bool) : ReputationMgr :=
  match m.factions.find? repListID with
  | some state => m.putState repListID (stateInactive state on)
  | none => m

/-! ### Standings -/

/-- Standings stay between bottom and cap. -/
def clampStanding (standing : Int32) : Int32 :=
  if reputationCap < standing.toInt then Int32.ofInt reputationCap
  else if standing.toInt < reputationBottom then Int32.ofInt reputationBottom
  else standing

/-- The standing that is asked for, before it is clamped. -/
def requestedStanding {F : Type*} (realm : Realm F) (e : FactionEntry F) (state : FactionState)
    (standing : Int32) (incremental : Bool) : Int32 :=
  if incremental then
    realm.ops.gained standing + (state.standing + realm.getBaseReputation e)
  else standing

/-- The at war flag of a state whose rank is hostile or less. -/
def warIfHostile (rank : ReputationRank) (state : FactionState) : FactionState :=
  if rank.index ≤ ReputationRank.hostile.index then stateAtWar state true else state

/-- `SetOneFactionReputation`. -/
def setOneFactionReputation {F : Type*} (m : ReputationMgr) (realm : Realm F)
    (e : FactionEntry F) (standing : Int32) (incremental : Bool) : ReputationMgr :=
  match m.factions.find? e.key with
  | some state =>
    let baseRep := realm.getBaseReputation e
    let standing := clampStanding (requestedStanding realm e state standing incremental)
    let oldRank := reputationToRank (state.standing + baseRep)
    let newRank := reputationToRank standing
    let state := { state with
      standing := standing - baseRep
      needSend := true
      needSave := true }
    let shown := madeVisible state
    let state := warIfHostile newRank (shown.getD state)
    let m := m.putState e.key state
    { m.updateRankCounters oldRank newRank with
      visibleFactionCount :=
        if shown.isSome then m.visibleFactionCount + 1 else m.visibleFactionCount
      sendFactionIncreased :=
        if oldRank.index < newRank.index then true else m.sendFactionIncreased }
  | none => m

/-- `SendState`, as far as it changes the states. -/
def sendState (m : ReputationMgr) : ReputationMgr :=
  { m with
    factions := m.factions.mapValues fun _ state => { state with needSend := false }
    sendFactionIncreased := false }

/-- One target of a spillover template. -/
def spillToTarget {F : Type*} (realm : Realm F) (standing : Int32) (incremental : Bool)
    (m : ReputationMgr) (target : SpilloverTarget F) : ReputationMgr :=
  if target.faction = 0 then m
  else
    match realm.lookupEntry target.faction with
    | some e =>
      if (m.getRank realm e).index ≤ target.rank then
        m.setOneFactionReputation realm e
          (realm.ops.toInt (realm.ops.mul (realm.ops.ofInt standing) target.rate)) incremental
      else m
    | none => m

/-- One faction of the list of affiliated factions. -/
def spillToAffiliated {F : Type*} (realm : Realm F) (e : FactionEntry F) (spillOverRepOut : F)
    (incremental : Bool) (m : ReputationMgr) (id : Nat) : ReputationMgr :=
  match realm.lookupEntry id with
  | some affiliate =>
    if affiliate.id = e.id ∨
        affiliate.spilloverMaxRankIn < (m.getRank realm affiliate).index then m
    else
      let spilloverRep :=
        realm.ops.toInt (realm.ops.mul spillOverRepOut affiliate.spilloverRateIn)
      if spilloverRep ≠ 0 ∨ incremental = false then
        m.setOneFactionReputation realm affiliate spilloverRep incremental
      else m
  | none => m

/-- The parent has a standing of its own. -/
def isSpecialTeam {F : Type*} (m : ReputationMgr) (parent : FactionEntry F) : Bool :=
  (m.factions.find? parent.key).any fun state => hasFlag state.flags .special

/-- The spillover without a template. -/
def spillByTeam {F : Type*} (m : ReputationMgr) (realm : Realm F) (e : FactionEntry F)
    (standing : Int32) (incremental : Bool) : ReputationMgr :=
  let affiliated (rep : F) (flist : List Nat) (m : ReputationMgr) :=
    flist.foldl (spillToAffiliated realm e rep incremental) m
  match realm.factionTeamList e.id with
  | some flist => affiliated (realm.ops.ofInt standing) flist m
  | none =>
    if e.team ≠ 0 ∧ realm.ops.isZero e.spilloverRateOut = false then
      let rep := realm.ops.mul (realm.ops.ofInt standing) e.spilloverRateOut
      match realm.lookupEntry e.team with
      | some parent =>
        if m.isSpecialTeam parent then
          m.setOneFactionReputation realm parent (realm.ops.toInt rep) incremental
        else
          match realm.factionTeamList e.team with
          | some flist => affiliated rep flist m
          | none => m
      | none => m
    else m

/-- Part of a gain goes to the other factions of the team. -/
def spill {F : Type*} (m : ReputationMgr) (realm : Realm F) (e : FactionEntry F)
    (standing : Int32) (incremental : Bool) : ReputationMgr :=
  match realm.spilloverTemplate e.id with
  | some targets => targets.foldl (spillToTarget realm standing incremental) m
  | none => m.spillByTeam realm e standing incremental

/-- `SetReputation`. -/
def setReputation {F : Type*} (m : ReputationMgr) (realm : Realm F) (e : FactionEntry F)
    (standing : Int32) (incremental : Bool) : ReputationMgr :=
  let m := m.spill realm e standing incremental
  if (m.factions.find? e.key).isSome then
    (m.setOneFactionReputation realm e standing incremental).sendState
  else m

/-! ### Loading and saving -/

/-- A faction of the initial list. -/
def initFaction {F : Type*} (realm : Realm F) (m : ReputationMgr) (e : FactionEntry F) :
    ReputationMgr :=
  if 0 ≤ e.reputationListID then
    let flags := realm.getDefaultStateFlags e
    let visible :=
      if hasFlag flags .visible then m.visibleFactionCount + 1 else m.visibleFactionCount
    let m := m.updateRankCounters .hostile (realm.getBaseRank e)
    { m.putState e.key ⟨e.id, e.key, 0, flags, true, true⟩ with visibleFactionCount := visible }
  else m

/-- `Initialize`. -/
def init {F : Type*} (realm : Realm F) : ReputationMgr :=
  realm.factions.foldl (initFaction realm) create

/-- A row of `character_reputation`. -/
structure Row where
  faction : Nat
  standing : Int32
  flags : BitVec 16
  deriving DecidableEq

/-- The rows of one character; the faction is part of the key. -/
structure Table where
  rows : List Row
  nodup : (rows.map Row.faction).Nodup

/-- The war state that a row gives. -/
def loadWar (dbFactionFlags : BitVec 16) (state : FactionState) : FactionState :=
  if hasFlag dbFactionFlags .atWar then stateAtWar state true
  else if hasFlag state.flags .visible then stateAtWar state false
  else state

def loadInactive (dbFactionFlags : BitVec 16) (state : FactionState) : FactionState :=
  if hasFlag dbFactionFlags .inactive then stateInactive state true else state

/-- The changed flags are reset if the flags are those of the row. -/
def resetChanged (dbFactionFlags : BitVec 16) (state : FactionState) : FactionState :=
  if state.flags.setWidth 16 = dbFactionFlags then
    { state with needSend := false, needSave := false }
  else state

/-- One row that is loaded. -/
def loadRow {F : Type*} (realm : Realm F) (m : ReputationMgr) (row : Row) : ReputationMgr :=
  match realm.lookupEntry row.faction with
  | some e =>
    if 0 ≤ e.reputationListID then
      let baseRep := realm.getBaseReputation e
      let state := (m.factions.find? e.key).getD ⟨0, 0, 0, 0, false, false⟩
      let state := { state with standing := row.standing }
      let newRank := reputationToRank (baseRep + row.standing)
      let shown := if hasFlag row.flags .visible then madeVisible state else none
      let state := loadWar row.flags (loadInactive row.flags (shown.getD state))
      let state := resetChanged row.flags (warIfHostile newRank state)
      { (m.putState e.key state).updateRankCounters (reputationToRank baseRep) newRank with
        visibleFactionCount :=
          if shown.isSome then m.visibleFactionCount + 1 else m.visibleFactionCount }
    else m
  | none => m

/-- `LoadFromDB`. -/
def loadFromDB {F : Type*} (realm : Realm F) (table : Table) : ReputationMgr :=
  table.rows.foldl (loadRow realm) (init realm)

/-- The row of a state. -/
def rowOf (state : FactionState) : Row :=
  ⟨state.id % 2 ^ 16, state.standing, state.flags.setWidth 16⟩

theorem replaceRow_nodup (table : Table) (row : Row) :
    (((table.rows.filter (·.faction ≠ row.faction)) ++ [row]).map Row.faction).Nodup := by
  rw [List.map_append, List.nodup_append]
  refine ⟨(List.filter_sublist.map _).nodup table.nodup, List.nodup_singleton _, ?_⟩
  intro faction hleft faction' hright
  obtain ⟨other, hother, rfl⟩ := List.mem_map.mp hleft
  have hne := (List.mem_filter.mp hother).2
  rw [List.mem_singleton.mp hright]
  exact of_decide_eq_true hne

/-- The row of a faction is deleted and inserted again. -/
def Table.replaceRow (table : Table) (row : Row) : Table :=
  ⟨table.rows.filter (·.faction ≠ row.faction) ++ [row], replaceRow_nodup table row⟩

/-- `SaveToDB`: what it writes. -/
def saveToDB (m : ReputationMgr) (table : Table) : Table :=
  (m.factions.entries.filter fun entry => entry.2.needSave).foldl
    (fun table entry => table.replaceRow (rowOf entry.2)) table

end ReputationMgr

/-! ### Requests -/

/-- The calls that change reputations. -/
inductive Request
  | setReputation (faction : Nat) (standing : Int32) (incremental : Bool)
  | setVisible (faction : Nat)
  | setVisibleTemplate (faction : Nat)
  | setAtWar (repListID : Nat) (on : Bool)
  | setInactive (repListID : Nat) (on : Bool)
  deriving DecidableEq

/-- One call. -/
def ReputationMgr.handle {F : Type*} (realm : Realm F) (m : ReputationMgr) :
    Request → ReputationMgr
  | .setReputation faction standing incremental =>
    match realm.lookupEntry faction with
    | some e => m.setReputation realm e standing incremental
    | none => m
  | .setVisible faction =>
    match realm.lookupEntry faction with
    | some e => m.setVisible e
    | none => m
  | .setVisibleTemplate faction => m.setVisibleTemplate realm faction
  | .setAtWar repListID on => m.setAtWar repListID on
  | .setInactive repListID on => m.setInactive repListID on

end Cataclysm.Reputation
