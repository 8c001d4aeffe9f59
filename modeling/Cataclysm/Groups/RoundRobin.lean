import Cataclysm.Groups.SubGroups

/-!
# The round robin looter

A group remembers whose turn it is to loot. `UpdateLooterGuid` goes through the member slots from
the one behind the current looter to the end and then from the start on, up to the current looter
himself, and takes the first member who is in the world and near the looted object.

## Implementation notes

An iterator over the member slots is a position, with the number of slots for the end. `SendUpdate`
is left out.
-/

namespace Cataclysm

/-- `LootMethod`. -/
inductive LootMethod
  | freeForAll
  | roundRobin
  | masterLoot
  | groupLoot
  | needBeforeGreed
  deriving DecidableEq

/-- Where the members are; no player has the guid `0`. -/
structure LooterContext where
  findPlayer : Guid → Bool
  isAtGroupRewardDistance : Guid → Bool
  findPlayer_zero : findPlayer 0 = false

/-- The loot method, the members in order, and who loots next. -/
structure LooterGroup where
  lootMethod : LootMethod
  memberSlots : List MemberSlot
  looterGuid : Guid
  deriving DecidableEq

namespace LooterContext

def eligible (context : LooterContext) (slot : MemberSlot) : Bool :=
  context.findPlayer slot.guid && context.isAtGroupRewardDistance slot.guid

theorem not_eligible_zero (context : LooterContext) {slot : MemberSlot} (h : slot.guid = 0) :
    context.eligible slot = false := by
  rw [eligible, h, context.findPlayer_zero, Bool.false_and]

end LooterContext

namespace LooterGroup

/-- `_getMemberCSlot`. -/
def getMemberCSlot (g : LooterGroup) (guid : Guid) : Nat :=
  g.memberSlots.findIdx fun slot => slot.guid = guid

/-- The two searches, after the position and from the start up to it. -/
def searchLooter (context : LooterContext) (slots : List MemberSlot) (itr : Nat) :
    Option MemberSlot :=
  match (slots.drop itr).find? context.eligible with
  | some slot => some slot
  | none => (slots.take itr).find? context.eligible

def setLooter (g : LooterGroup) : Option MemberSlot → LooterGroup
  | some slot => if g.looterGuid ≠ slot.guid then { g with looterGuid := slot.guid } else g
  | none => { g with looterGuid := 0 }

/-- The part of `UpdateLooterGuid` behind the check of the loot method. -/
def passTurn (context : LooterContext) (ifneed : Bool) (g : LooterGroup) : LooterGroup :=
  let guidItr := g.getMemberCSlot g.looterGuid
  match g.memberSlots[guidItr]? with
  | some looter =>
    if ifneed && context.eligible looter then g
    else g.setLooter (searchLooter context g.memberSlots (guidItr + 1))
  | none => g.setLooter (searchLooter context g.memberSlots guidItr)

def updateLooterGuid (context : LooterContext) (ifneed : Bool) (g : LooterGroup) : LooterGroup :=
  match g.lootMethod with
  | .masterLoot | .freeForAll => g
  | .roundRobin | .groupLoot | .needBeforeGreed => g.passTurn context ifneed

/-- The members in the order of their turns: those behind the looter, those before him, and the
looter himself; all of them from the start when the looter is not a member. -/
def turns (looter : Guid) : List MemberSlot → List MemberSlot :=
  fun slots =>
    match slots.span fun slot => slot.guid ≠ looter with
    | (before, current :: after) => after ++ (before ++ [current])
    | (before, []) => before

theorem looterGuid_setLooter (g : LooterGroup) (found : Option MemberSlot) :
    (g.setLooter found).looterGuid = (found.map MemberSlot.guid).getD 0 := by
  cases found with
  | none => rfl
  | some slot =>
    rw [setLooter]
    split
    · rfl
    · next hsame => exact not_not.mp hsame

/-- The two searches together are one search in the rotated list. -/
theorem searchLooter_eq (context : LooterContext) (slots : List MemberSlot) (itr : Nat) :
    searchLooter context slots itr =
      (slots.drop itr ++ slots.take itr).find? context.eligible := by
  rw [searchLooter, List.find?_append]
  cases (slots.drop itr).find? context.eligible with
  | none => rfl
  | some slot => rfl

/-- The slots up to the looter, the looter, and the slots behind him. -/
theorem getMemberCSlot_split (g : LooterGroup) {before after : List MemberSlot}
    {current : MemberSlot} (hslots : g.memberSlots = before ++ current :: after)
    (hbefore : ∀ slot ∈ before, slot.guid ≠ g.looterGuid) (hcurrent : current.guid = g.looterGuid) :
    g.getMemberCSlot g.looterGuid = before.length := by
  rw [getMemberCSlot, hslots, List.findIdx_append]
  have hnone : before.findIdx (fun slot => slot.guid = g.looterGuid) = before.length :=
    List.findIdx_eq_length.mpr fun slot hslot => decide_eq_false (hbefore slot hslot)
  rw [hnone, if_neg (lt_irrefl _), List.findIdx_cons, decide_eq_true hcurrent]
  exact Nat.zero_add _

theorem getMemberCSlot_absent (g : LooterGroup)
    (h : ∀ slot ∈ g.memberSlots, slot.guid ≠ g.looterGuid) :
    g.getMemberCSlot g.looterGuid = g.memberSlots.length :=
  List.findIdx_eq_length.mpr fun slot hslot => decide_eq_false (h slot hslot)

/-- The span of the slots that are not the looter's. -/
theorem span_looter (looter : Guid) (slots : List MemberSlot) :
    (∃ before current after, slots = before ++ current :: after ∧
        (∀ slot ∈ before, slot.guid ≠ looter) ∧ current.guid = looter ∧
        turns looter slots = after ++ (before ++ [current])) ∨
      (∀ slot ∈ slots, slot.guid ≠ looter) ∧ turns looter slots = slots := by
  have hsplit : slots.takeWhile (fun slot => decide (slot.guid ≠ looter)) ++
      slots.dropWhile (fun slot => decide (slot.guid ≠ looter)) = slots :=
    List.takeWhile_append_dropWhile
  have htake : ∀ slot ∈ slots.takeWhile (fun slot => decide (slot.guid ≠ looter)),
      slot.guid ≠ looter := by
    intro slot hslot
    have himp := List.mem_takeWhile_imp hslot
    exact of_decide_eq_true himp
  rw [turns, List.span_eq_takeWhile_dropWhile]
  cases hrest : slots.dropWhile (fun slot => decide (slot.guid ≠ looter)) with
  | nil =>
    rw [hrest, List.append_nil] at hsplit
    rw [hsplit] at htake
    exact Or.inr ⟨htake, hsplit⟩
  | cons current after =>
    have hne : slots.dropWhile (fun slot => decide (slot.guid ≠ looter)) ≠ [] := by
      rw [hrest]
      exact List.cons_ne_nil _ _
    have hhead := List.head_dropWhile_not
      (fun slot : MemberSlot => decide (slot.guid ≠ looter)) hne
    simp only [hrest, List.head_cons, decide_eq_false_iff_not, not_not] at hhead
    rw [hrest] at hsplit
    exact Or.inl ⟨_, current, after, hsplit.symm, htake, hhead, rfl⟩

/-- Both searches go through the members in the order of their turns. -/
theorem passTurn_eq (context : LooterContext) (g : LooterGroup) :
    g.passTurn context false =
      g.setLooter ((turns g.looterGuid g.memberSlots).find? context.eligible) := by
  rw [passTurn]
  obtain ⟨before, current, after, hslots, hbefore, hcurrent, hturns⟩ | ⟨habsent, hturns⟩ :=
    span_looter g.looterGuid g.memberSlots
  · have hitr := g.getMemberCSlot_split hslots hbefore hcurrent
    have hget : g.memberSlots[before.length]? = some current := by
      rw [hslots, List.getElem?_append_right (le_refl _), Nat.sub_self]
      rfl
    have hdrop : g.memberSlots.drop (before.length + 1) = after := by
      rw [hslots, List.drop_append, List.drop_of_length_le (Nat.le_succ _), Nat.add_sub_cancel_left]
      rfl
    have htake : g.memberSlots.take (before.length + 1) = before ++ [current] := by
      rw [hslots, List.take_append, List.take_of_length_le (Nat.le_succ _),
        Nat.add_sub_cancel_left]
      rfl
    rw [hitr, hget, hturns]
    dsimp only
    rw [Bool.false_and, if_neg Bool.false_ne_true, searchLooter_eq, hdrop, htake]
  · have hitr := g.getMemberCSlot_absent habsent
    have hget : g.memberSlots[g.memberSlots.length]? = none := List.getElem?_length _
    rw [hitr, hget, hturns]
    dsimp only
    rw [searchLooter_eq, List.drop_length, List.take_length, List.nil_append]

theorem mem_turns {looter : Guid} {slots : List MemberSlot} {slot : MemberSlot} :
    slot ∈ turns looter slots ↔ slot ∈ slots := by
  obtain ⟨before, current, after, hslots, -, -, hturns⟩ | ⟨-, hturns⟩ := span_looter looter slots
  · rw [hturns, hslots]
    simp only [List.mem_append, List.mem_cons]
    tauto
  · rw [hturns]

/-- No looter is left just when nobody is eligible. -/
theorem next_eq_zero_iff (context : LooterContext) (looter : Guid) (slots : List MemberSlot) :
    (((turns looter slots).find? context.eligible).map MemberSlot.guid).getD 0 = 0 ↔
      ∀ slot ∈ slots, context.eligible slot = false := by
  constructor
  · intro hzero slot hslot
    cases hfind : (turns looter slots).find? context.eligible with
    | none =>
      have hnone := List.find?_eq_none.mp hfind slot (mem_turns.mpr hslot)
      exact Bool.eq_false_iff.mpr hnone
    | some found =>
      rw [hfind] at hzero
      have hfalse : context.eligible found = false := context.not_eligible_zero hzero
      have htrue := List.find?_some hfind
      rw [hfalse] at htrue
      cases htrue
  · intro hnone
    have hfind : (turns looter slots).find? context.eligible = none :=
      List.find?_eq_none.mpr fun slot hslot =>
        Bool.eq_false_iff.mp (hnone slot (mem_turns.mp hslot))
    rw [hfind]
    rfl

/-- Where members take turns, the next looter is the first eligible one in the order of the
turns, and nobody just when nobody is eligible; elsewhere the looter stays. -/
theorem looterGuid_updateLooterGuid (context : LooterContext) (g : LooterGroup) :
    (g.lootMethod ∈ [LootMethod.roundRobin, .groupLoot, .needBeforeGreed] →
      (g.updateLooterGuid context false).looterGuid =
          (((turns g.looterGuid g.memberSlots).find? context.eligible).map
            MemberSlot.guid).getD 0 ∧
        ((g.updateLooterGuid context false).looterGuid = 0 ↔
          ∀ slot ∈ g.memberSlots, context.eligible slot = false)) ∧
      (g.lootMethod ∈ [LootMethod.masterLoot, .freeForAll] →
        g.updateLooterGuid context false = g) := by
  have hturn : g.updateLooterGuid context false = g.passTurn context false →
      (g.updateLooterGuid context false).looterGuid =
          (((turns g.looterGuid g.memberSlots).find? context.eligible).map
            MemberSlot.guid).getD 0 ∧
        ((g.updateLooterGuid context false).looterGuid = 0 ↔
          ∀ slot ∈ g.memberSlots, context.eligible slot = false) := by
    intro hpass
    rw [hpass, passTurn_eq, looterGuid_setLooter]
    exact ⟨rfl, next_eq_zero_iff context _ _⟩
  cases hmethod : g.lootMethod with
  | roundRobin =>
    exact ⟨fun _ => hturn (by rw [updateLooterGuid, hmethod]), fun h => absurd h (by decide)⟩
  | groupLoot =>
    exact ⟨fun _ => hturn (by rw [updateLooterGuid, hmethod]), fun h => absurd h (by decide)⟩
  | needBeforeGreed =>
    exact ⟨fun _ => hturn (by rw [updateLooterGuid, hmethod]), fun h => absurd h (by decide)⟩
  | masterLoot =>
    exact ⟨fun h => absurd h (by decide), fun _ => by rw [updateLooterGuid, hmethod]⟩
  | freeForAll =>
    exact ⟨fun h => absurd h (by decide), fun _ => by rw [updateLooterGuid, hmethod]⟩

def everywhere : LooterContext := ⟨fun guid => guid != 0, fun _ => true, rfl⟩

/-- Three members, the second of which is the looter. -/
def threeMembers (lootMethod : LootMethod) : LooterGroup :=
  ⟨lootMethod, (((Group.create 7 false false).addMember 8).1.addMember 9).1.memberSlots, 8⟩

/-- The turn goes on to the third member. -/
theorem third_member_loots :
    ((threeMembers .groupLoot).updateLooterGuid everywhere false).looterGuid = 9 := by
  have hnext := ((looterGuid_updateLooterGuid everywhere (threeMembers .groupLoot)).1
    (by decide)).1
  exact hnext.trans rfl

/-- Nobody takes a turn where everybody loots for himself. -/
theorem turn_not_passed :
    ¬ ∀ (context : LooterContext) (g : LooterGroup),
      (g.updateLooterGuid context false).looterGuid =
        (((turns g.looterGuid g.memberSlots).find? context.eligible).map
          MemberSlot.guid).getD 0 := by
  intro h
  exact absurd (h everywhere (threeMembers .freeForAll)) (by decide)

/-! ### Waiting for the turn -/

/-- Calls of `UpdateLooterGuid`, each with its `ifneed`. -/
def afterCalls : LooterGroup → List (LooterContext × Bool) → LooterGroup :=
  List.foldl fun g call => g.updateLooterGuid call.1 call.2

variable {g : LooterGroup} {slot next : MemberSlot} {looter : Guid}
  {slots ahead behind : List MemberSlot}

/-- The order of the turns is the order of the slots from some slot on and around. -/
theorem turns_swap (looter : Guid) (slots : List MemberSlot) :
    ∃ first last, slots = first ++ last ∧ turns looter slots = last ++ first := by
  obtain ⟨before, current, after, hslots, -, -, hturns⟩ | ⟨-, hturns⟩ := span_looter looter slots
  · exact ⟨before ++ [current], after, hslots.trans (by simp), hturns⟩
  · exact ⟨[], slots, rfl, hturns.trans (by simp)⟩

/-- Behind a looter come those whose turns were behind his, then those whose turns were ahead. -/
theorem turns_next (hnodup : (slots.map MemberSlot.guid).Nodup)
    (h : turns looter slots = ahead ++ next :: behind) :
    turns next.guid slots = behind ++ (ahead ++ [next]) := by
  obtain ⟨first, last, rfl, hswap⟩ := turns_swap looter slots
  obtain ⟨before, after, hsplit, hrest⟩ : ∃ before after,
      first ++ last = before ++ next :: after ∧ after ++ before = behind ++ ahead := by
    rw [hswap] at h
    obtain ⟨mid, rfl, rfl⟩ | ⟨mid, rfl, hmid⟩ := List.append_eq_append_iff.mp h
    · exact ⟨mid, behind ++ last, by simp, by simp⟩
    · cases mid with
      | nil =>
        obtain rfl : next :: behind = first := hmid
        exact ⟨[], behind ++ ahead, by simp, by simp⟩
      | cons _ mid =>
        obtain ⟨rfl, rfl⟩ := List.cons.inj hmid
        exact ⟨first ++ ahead, mid, by simp, by simp⟩
  rw [hsplit, List.map_append, List.map_cons, List.nodup_append] at hnodup
  have hbefore : ∀ slot ∈ before, decide (slot.guid ≠ next.guid) = true := fun slot hslot =>
    decide_eq_true (hnodup.2.2 _ (List.mem_map_of_mem hslot) _ List.mem_cons_self)
  rw [hsplit, turns, List.span_eq_takeWhile_dropWhile, List.takeWhile_append_of_pos hbefore,
    List.dropWhile_append_of_pos hbefore, List.takeWhile_cons_of_neg (by simp),
    List.dropWhile_cons_of_neg (by simp), List.append_nil, ← List.append_assoc, ← hrest,
    List.append_assoc]

theorem setLooter_some (g : LooterGroup) (next : MemberSlot) :
    g.setLooter (some next) = { g with looterGuid := next.guid } := by
  rw [setLooter]
  split
  · rfl
  · next hsame => rw [← not_not.mp hsame]

/-- A call gives the turn to the eligible member or to one ahead of him, or leaves it if it may. -/
theorem updateLooterGuid_cases {context : LooterContext} (ifneed : Bool)
    (hmethod : g.lootMethod ∈ [LootMethod.roundRobin, .groupLoot, .needBeforeGreed])
    (hnodup : (g.memberSlots.map MemberSlot.guid).Nodup)
    (h : turns g.looterGuid g.memberSlots = ahead ++ slot :: behind)
    (heligible : context.eligible slot = true) :
    ∃ guid, g.updateLooterGuid context ifneed = { g with looterGuid := guid } ∧
      (guid = slot.guid ∨ ∃ nearer rest, turns guid g.memberSlots = nearer ++ slot :: rest ∧
        nearer.length + (if !ifneed then 1 else 0) ≤ ahead.length) := by
  have hpass : g.updateLooterGuid context ifneed = g.passTurn context ifneed := by
    rw [updateLooterGuid]
    cases hm : g.lootMethod with
    | masterLoot | freeForAll => exact absurd hmethod (by rw [hm]; decide)
    | _ => rfl
  have hcases : (ifneed = true ∧ g.passTurn context ifneed = g) ∨
      g.passTurn context ifneed = g.passTurn context false := by
    unfold passTurn
    dsimp only
    split
    · rw [Bool.false_and, if_neg Bool.false_ne_true]
      split
      next hstays => exact .inl ⟨(Bool.and_eq_true_iff.mp hstays).1, rfl⟩
      · exact .inr rfl
    · exact .inr rfl
  rw [hpass]
  obtain ⟨rfl, hstays⟩ | hpasses := hcases
  · exact ⟨g.looterGuid, hstays, .inr ⟨ahead, behind, h, le_rfl⟩⟩
  rw [hpasses, passTurn_eq, h, List.find?_append]
  cases hfind : ahead.find? context.eligible with
  | none =>
    rw [List.find?_cons_of_pos heligible]
    exact ⟨slot.guid, g.setLooter_some slot, .inl rfl⟩
  | some next =>
    obtain ⟨-, passed, nearer, rfl, -⟩ := List.find?_eq_some_iff_append.mp hfind
    rw [List.append_assoc, List.cons_append] at h
    refine ⟨next.guid, g.setLooter_some next, .inr ⟨nearer, behind ++ (passed ++ [next]), ?_, ?_⟩⟩
    · exact (turns_next hnodup h).trans (List.append_assoc ..)
    · have hone : (if !ifneed then 1 else 0) ≤ 1 := by cases ifneed <;> decide
      rw [List.length_append, List.length_cons]
      omega

/-- A member who is eligible at every call has the turn after one of them, if at least as many of
them as there are members pass it on in any case. -/
theorem eligible_member_loots {calls : List (LooterContext × Bool)}
    (hmethod : g.lootMethod ∈ [LootMethod.roundRobin, .groupLoot, .needBeforeGreed])
    (hnodup : (g.memberSlots.map MemberSlot.guid).Nodup) (hslot : slot ∈ g.memberSlots)
    (heligible : ∀ call ∈ calls, call.1.eligible slot = true)
    (hcalls : g.memberSlots.length ≤ calls.countP fun call => !call.2) :
    ∃ served, served ≠ [] ∧ served <+: calls ∧ (g.afterCalls served).looterGuid = slot.guid := by
  have hturn : slot ∈ turns g.looterGuid g.memberSlots := mem_turns.mpr hslot
  obtain ⟨ahead, behind, hturns⟩ := List.append_of_mem hturn
  have hless : ahead.length < calls.countP fun call => !call.2 := by
    obtain ⟨first, last, hslots, hswap⟩ := turns_swap g.looterGuid g.memberSlots
    have hlength := congrArg List.length (hturns.symm.trans hswap)
    rw [hslots] at hcalls
    simp only [List.length_append, List.length_cons] at hlength hcalls
    omega
  clear hturn hcalls
  induction calls generalizing g ahead behind with
  | nil => exact absurd hless (Nat.not_lt_zero _)
  | cons call calls ih =>
    obtain ⟨hcall, hrest⟩ := List.forall_mem_cons.mp heligible
    obtain ⟨guid, hupdate, rfl | ⟨nearer, rest, hturns', hnearer⟩⟩ :=
      updateLooterGuid_cases call.2 hmethod hnodup hturns hcall
    · exact ⟨[call], List.cons_ne_nil _ _, List.cons_prefix_cons.mpr ⟨rfl, List.nil_prefix⟩,
        congrArg looterGuid hupdate⟩
    · rw [List.countP_cons] at hless
      obtain ⟨served, -, hprefix, hserved⟩ := ih (g := { g with looterGuid := guid }) hmethod hnodup
        hslot hrest _ _ hturns' (Nat.lt_of_add_lt_add_right (hnearer.trans_lt hless))
      refine ⟨call :: served, List.cons_ne_nil _ _, List.cons_prefix_cons.mpr ⟨rfl, hprefix⟩, ?_⟩
      rw [← hserved, ← hupdate]
      rfl

/-- The first member has the turn after one of three calls. -/
theorem first_member_loots :
    ∃ served, served ≠ [] ∧ served <+: List.replicate 3 (everywhere, false) ∧
      ((threeMembers .groupLoot).afterCalls served).looterGuid = 7 := by
  have hslot : ⟨7, 0⟩ ∈ (threeMembers .groupLoot).memberSlots := by decide
  exact eligible_member_loots (by decide) (by decide) hslot (by decide) (by decide)

end LooterGroup

end Cataclysm
