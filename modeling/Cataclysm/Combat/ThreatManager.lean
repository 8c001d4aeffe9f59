import Cataclysm.Lib.OrderedMap

/-!
# The threat lists of a creature

A creature holds a reference to every unit it hates, in an online list or an offline list. A change
of the status of a reference is an event that moves it to the other list. Adding threat to a
reference may find it online again, and adds threat to the owner of the unit within the same call.

## Implementation notes

A pointer to a reference is its key in `refs`; a deleted reference is no longer there. What the code
asks the world is a stream of answers, and nothing is assumed of them. Threat is a value of any type
with the operations that the code uses; no law is assumed of these either. Calls inside a call, and
the rounds of a loop over a list that grows, go on to a given depth. Packets and the timer for them
are left out, and a call on a pointer that is not live does nothing.
-/

namespace Cataclysm.Combat

/-- The arithmetic of `float`, as far as threat needs it. -/
class ThreatValue (F : Type) where
  zero : F
  add : F → F → F
  sub : F → F → F
  neg : F → F
  lt : F → F → Bool
  le : F → F → Bool
  ne : F → F → Bool
  /-- `1.1f * threat`. -/
  meleeShare : F → F
  /-- `1.3f * threat`. -/
  rangedShare : F → F
  calculatePct : F → Int → F

open ThreatValue

/-- A reference of a creature to one of its targets. -/
structure HostileReference (F : Type) where
  unitGuid : Nat
  threat : F
  tempThreatModifier : F
  isOnline : Bool
  isAccessible : Bool
  isValid : Bool
  deriving DecidableEq

/-- The threat lists of one creature. -/
structure ThreatManager (F : Type) where
  refs : OrderedMap Nat (HostileReference F)
  nextRef : Nat
  threatContainer : List Nat
  threatOfflineContainer : List Nat
  isDirty : Bool
  currentVictim : Option Nat
  asked : Nat

/-- What the world answers at one time. -/
structure Answer (F : Type) where
  isValidProcess : Bool
  calcThreat : F → F
  redirectThreatPercent : Nat
  redirectThreatTarget : Option Nat
  isGameMaster : Bool
  isFound : Bool
  isInFlight : Bool
  isInMap : Bool
  inSamePhase : Bool
  isInAccessiblePlace : Bool
  isWithinCombatRange : Bool
  charmerOrOwner : Option Nat
  isOwnerAlive : Bool
  isSecondChoice : Nat → Bool
  canCreatureAttack : Nat → Bool
  isWithinMeleeRange : Nat → Bool

/-- What a reference tells its manager. -/
inductive ThreatEvent (F : Type)
  | threatChange (value : F)
  | onlineStatus
  | removeFromList
  | accessibleStatus

variable {F : Type} [ThreatValue F] (answers : Nat → Answer F)

namespace ThreatManager

def empty : ThreatManager F := ⟨OrderedMap.empty, 0, [], [], false, none, 0⟩

def setDirty (s : ThreatManager F) : ThreatManager F := { s with isDirty := true }

/-- The state after a question. -/
def ask (s : ThreatManager F) : ThreatManager F := { s with asked := s.asked + 1 }

/-- One reference changes. -/
def modifyRef (s : ThreatManager F) (id : Nat) (f : HostileReference F → HostileReference F) :
    ThreatManager F :=
  match s.refs.find? id with
  | some ref => { s with refs := s.refs.insert id (f ref) }
  | none => s

def getThreat (s : ThreatManager F) (id : Nat) : F :=
  match s.refs.find? id with
  | some ref => ref.threat
  | none => zero

def isOnline (s : ThreatManager F) (id : Nat) : Bool :=
  (s.refs.find? id).any fun ref => ref.isOnline

/-- The reference still has a target. -/
def isValid (s : ThreatManager F) (id : Nat) : Bool :=
  (s.refs.find? id).any fun ref => ref.isValid

/-! ### Events -/

/-- The current victim is no longer one. -/
def dropVictim (s : ThreatManager F) (id : Nat) : ThreatManager F :=
  if s.currentVictim = some id then { s with currentVictim := none, isDirty := true } else s

/-- The reference goes to the online list. -/
def moveOnline (s : ThreatManager F) (id : Nat) : ThreatManager F :=
  { s with
    threatContainer := s.threatContainer ++ [id]
    threatOfflineContainer := s.threatOfflineContainer.filter (· ≠ id) }

/-- The reference goes to the offline list. -/
def moveOffline (s : ThreatManager F) (id : Nat) : ThreatManager F :=
  { s with
    threatContainer := s.threatContainer.filter (· ≠ id)
    threatOfflineContainer := s.threatOfflineContainer ++ [id] }

/-- The manager reacts to one of its references. -/
def processThreatEvent (s : ThreatManager F) (id : Nat) : ThreatEvent F → ThreatManager F
  | .threatChange value =>
    if (s.currentVictim = some id ∧ lt value zero = true) ∨
        (s.currentVictim ≠ some id ∧ lt zero value = true) then s.setDirty
    else s
  | .onlineStatus =>
    if s.isOnline id = false then (s.dropVictim id).moveOffline id
    else if s.currentVictim.any fun victim =>
        lt (meleeShare (s.getThreat victim)) (s.getThreat id) then s.setDirty.moveOnline id
    else s.moveOnline id
  | .removeFromList =>
    let s := s.dropVictim id
    if s.isOnline id then
      { s with threatContainer := s.threatContainer.filter (· ≠ id) }
    else { s with threatOfflineContainer := s.threatOfflineContainer.filter (· ≠ id) }
  | .accessibleStatus => s

/-! ### The status of a reference -/

def setAccessibleState (s : ThreatManager F) (id : Nat) (isAccessible : Bool) : ThreatManager F :=
  match s.refs.find? id with
  | none => s
  | some ref =>
    if ref.isAccessible ≠ isAccessible then
      (s.modifyRef id fun ref => { ref with isAccessible := isAccessible }).processThreatEvent id
        .accessibleStatus
    else s

def setOnlineOfflineState (s : ThreatManager F) (id : Nat) (isOnline : Bool) : ThreatManager F :=
  match s.refs.find? id with
  | none => s
  | some ref =>
    if ref.isOnline ≠ isOnline then
      let s := s.modifyRef id fun ref => { ref with isOnline := isOnline }
      let s := if isOnline then s else s.setAccessibleState id false
      s.processThreatEvent id .onlineStatus
    else s

/-- Whether the target can be reached is asked anew. -/
def updateOnlineStatus (s : ThreatManager F) (id : Nat) : ThreatManager F :=
  let answer := answers s.asked
  let s := s.ask
  let s := if s.isValid id = false ∧ answer.isFound = true then
      s.modifyRef id fun ref => { ref with isValid := true }
    else s
  let reachable := s.isValid id && !answer.isGameMaster && !answer.isInFlight && answer.isInMap &&
    answer.inSamePhase
  (s.setAccessibleState id (reachable && answer.isInAccessiblePlace)).setOnlineOfflineState id
    (reachable && (answer.isInAccessiblePlace || answer.isWithinCombatRange))

/-- The target is destroyed: `invalidate`. -/
def invalidate (s : ThreatManager F) (id : Nat) : ThreatManager F :=
  (s.setOnlineOfflineState id false).modifyRef id fun ref => { ref with isValid := false }

/-- The reference is deleted. -/
def delete (s : ThreatManager F) (id : Nat) : ThreatManager F :=
  { s with refs := s.refs.erase id }

/-- `removeReference`, after which the target deletes the reference. -/
def removeReference (s : ThreatManager F) (id : Nat) : ThreatManager F :=
  ((s.invalidate id).processThreatEvent id .removeFromList).delete id

/-! ### Threat -/

/-- `HostileReference::addThreat`, with what adds threat to the owner. -/
def addThreatTo (addThreat : Nat → F → ThreatManager F → ThreatManager F) (id : Nat)
    (modThreat : F) (s : ThreatManager F) : ThreatManager F :=
  let s := s.modifyRef id fun ref => { ref with threat := add ref.threat modThreat }
  let s := if s.isOnline id then s else s.updateOnlineStatus answers id
  let s := if ne modThreat zero then s.processThreatEvent id (.threatChange modThreat) else s
  if s.isValid id && le zero modThreat then
    let answer := answers s.asked
    let s := s.ask
    match answer.charmerOrOwner with
    | some owner => if answer.isOwnerAlive then addThreat owner zero s else s
    | none => s
  else s

def getReferenceByTarget (s : ThreatManager F) (container : List Nat) (victim : Nat) : Option Nat :=
  container.find? fun id => (s.refs.find? id).any fun ref => ref.unitGuid == victim

/-- `new HostileReference` in the online list. -/
def newReference (s : ThreatManager F) (victim : Nat) : ThreatManager F :=
  { s with
    refs := s.refs.insert s.nextRef ⟨victim, zero, zero, true, true, true⟩
    nextRef := s.nextRef + 1
    threatContainer := s.threatContainer ++ [s.nextRef] }

/-- `_addThreat`. -/
def addThreatOf (addThreat : Nat → F → ThreatManager F → ThreatManager F) (victim : Nat)
    (threat : F) (s : ThreatManager F) : ThreatManager F :=
  match s.getReferenceByTarget s.threatContainer victim with
  | some id => addThreatTo answers addThreat id threat s
  | none =>
    match s.getReferenceByTarget s.threatOfflineContainer victim with
    | some id => addThreatTo answers addThreat id threat s
    | none =>
      let id := s.nextRef
      let s := addThreatTo answers addThreat id threat (s.newReference victim)
      let answer := answers s.asked
      let s := s.ask
      if answer.isGameMaster then s.setOnlineOfflineState id false else s

/-- Threat goes to the reference of the victim, old or new. -/
def doAddThreat (addThreat : Nat → F → ThreatManager F → ThreatManager F) (victim : Nat)
    (threat : F) (s : ThreatManager F) : ThreatManager F :=
  let answer := answers s.asked
  let s := s.ask
  match answer.redirectThreatTarget with
  | some redirectTarget =>
    if lt zero threat = true ∧ answer.redirectThreatPercent ≠ 0 then
      let redirectThreat := calculatePct threat answer.redirectThreatPercent
      addThreatOf answers addThreat victim (sub threat redirectThreat)
        (addThreatOf answers addThreat redirectTarget redirectThreat s)
    else addThreatOf answers addThreat victim threat s
  | none => addThreatOf answers addThreat victim threat s

/-- `ThreatManager::addThreat`, down to a depth of calls. -/
def addThreat : Nat → Nat → F → ThreatManager F → ThreatManager F
  | 0, _, _, s => s
  | depth + 1, victim, threat, s =>
    let answer := answers s.asked
    let s := s.ask
    if answer.isValidProcess then
      doAddThreat answers (addThreat depth) victim (answer.calcThreat threat) s
    else s

variable (depth : Nat)

/-- Threat changes by a share of itself. -/
def modifyThreatPercent (s : ThreatManager F) (victim : Nat) (percent : Int) : ThreatManager F :=
  match s.getReferenceByTarget s.threatContainer victim with
  | some id =>
    let threat := s.getThreat id
    addThreatTo answers (addThreat answers depth) id
      (sub (add threat (calculatePct threat percent)) threat) s
  | none => s

/-- The loop of `resetAllAggro` from a place of the online list on; the list may grow behind it. -/
def resetFrom : Nat → Nat → ThreatManager F → ThreatManager F
  | 0, _, s => s
  | rounds + 1, place, s =>
    match s.threatContainer[place]? with
    | some id =>
      resetFrom rounds (place + 1)
        (addThreatTo answers (addThreat answers depth) id (sub zero (s.getThreat id)) s)
    | none => s

def resetAllAggro (s : ThreatManager F) : ThreatManager F :=
  if s.threatContainer = [] then s else (resetFrom answers depth depth 0 s).setDirty

/-- Threat that is taken back later. -/
def addTempThreat (s : ThreatManager F) (id : Nat) (threat : F) : ThreatManager F :=
  let s := s.modifyRef id fun ref => { ref with tempThreatModifier := threat }
  if ne threat zero then addThreatTo answers (addThreat answers depth) id threat s else s

/-- The taunter gets as much threat as the first target has. -/
def tauntApply (s : ThreatManager F) (taunter : Nat) : ThreatManager F :=
  match s.currentVictim, s.getReferenceByTarget s.threatContainer taunter with
  | some victim, some id =>
    match s.refs.find? id with
    | some ref =>
      if lt ref.threat (s.getThreat victim) = true ∧ ne ref.tempThreatModifier zero = false then
        s.addTempThreat answers depth id (sub (s.getThreat victim) ref.threat)
      else s
    | none => s
  | _, _ => s

/-- What the taunt gave is taken back. -/
def tauntFadeOut (s : ThreatManager F) (taunter : Nat) : ThreatManager F :=
  match s.getReferenceByTarget s.threatContainer taunter with
  | some id =>
    match s.refs.find? id with
    | some ref =>
      if ne ref.tempThreatModifier zero then
        (addThreatTo answers (addThreat answers depth) id (neg ref.tempThreatModifier)
          s).modifyRef id fun ref => { ref with tempThreatModifier := zero }
      else s
    | none => s
  | none => s

/-! ### The next victim -/

/-- `ThreatContainer::update`. -/
def update (s : ThreatManager F) : ThreatManager F :=
  let s := if s.isDirty = true ∧ 1 < s.threatContainer.length then
      { s with
        threatContainer := s.threatContainer.mergeSort fun id other =>
          !lt (s.getThreat id) (s.getThreat other) }
    else s
  { s with isDirty := false }

def targetOf (s : ThreatManager F) (id : Nat) : Nat :=
  match s.refs.find? id with
  | some ref => ref.unitGuid
  | none => 0

/-- One round of the loop of `selectNextVictim`, for a reference whose target is not a second
choice. -/
def considerVictim (s : ThreatManager F) (answer : Answer F) (currentVictim : Option Nat)
    (id : Nat) : Option Nat :=
  if answer.canCreatureAttack (s.targetOf id) = false then none
  else match currentVictim with
    | none => some id
    | some victim =>
      if victim = id ∨ le (s.getThreat id) (meleeShare (s.getThreat victim)) = true then
        some (if victim ≠ id ∧ answer.canCreatureAttack (s.targetOf victim) = true then victim
          else id)
      else if lt (rangedShare (s.getThreat victim)) (s.getThreat id) ||
          (lt (meleeShare (s.getThreat victim)) (s.getThreat id) &&
            answer.isWithinMeleeRange (s.targetOf id)) then some id
      else none

/-- The loop of `selectNextVictim`. When its last target is a second choice it starts again and
takes everyone. -/
def selectFrom (s : ThreatManager F) (answer : Answer F) :
    List Nat → Option Nat → Option Nat
  | [], _ => none
  | id :: rest, currentVictim =>
    if answer.isSecondChoice (s.targetOf id) then
      if rest = [] then s.threatContainer.findSome? (s.considerVictim answer currentVictim)
      else selectFrom s answer rest (if currentVictim = some id then none else currentVictim)
    else (s.considerVictim answer currentVictim id).or (selectFrom s answer rest currentVictim)

/-- The next victim is selected. -/
def getHostilTarget (s : ThreatManager F) : ThreatManager F :=
  let s := s.update
  let answer := answers s.asked
  let s := s.ask
  { s with currentVictim := s.selectFrom answer s.threatContainer s.currentVictim }

def clearReferences (s : ThreatManager F) : ThreatManager F :=
  { s with
    refs := (s.threatContainer ++ s.threatOfflineContainer).foldl (fun refs id => refs.erase id)
      s.refs
    threatContainer := []
    threatOfflineContainer := []
    currentVictim := none }

end ThreatManager

/-! ### Calls -/

/-- The calls that the manager gets. -/
inductive ThreatCall (F : Type)
  | addThreat (victim : Nat) (threat : F)
  | modifyThreatPercent (victim : Nat) (percent : Int)
  | resetAllAggro
  | tauntApply (taunter : Nat)
  | tauntFadeOut (taunter : Nat)
  | updateOnlineStatus (id : Nat)
  | invalidate (id : Nat)
  | removeReference (id : Nat)
  | getHostilTarget
  | clearReferences

namespace ThreatManager

/-- One call. -/
def step (depth : Nat) (s : ThreatManager F) : ThreatCall F → ThreatManager F
  | .addThreat victim threat => addThreat answers depth victim threat s
  | .modifyThreatPercent victim percent => s.modifyThreatPercent answers depth victim percent
  | .resetAllAggro => s.resetAllAggro answers depth
  | .tauntApply taunter => s.tauntApply answers depth taunter
  | .tauntFadeOut taunter => s.tauntFadeOut answers depth taunter
  | .updateOnlineStatus id => s.updateOnlineStatus answers id
  | .invalidate id => s.invalidate id
  | .removeReference id => s.removeReference id
  | .getHostilTarget => s.getHostilTarget answers
  | .clearReferences => s.clearReferences

end ThreatManager

end Cataclysm.Combat
