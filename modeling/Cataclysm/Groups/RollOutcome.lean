import Cataclysm.Groups.LootRoll

/-!
# The winner of a group loot roll

`CountTheRoll` chooses its branch from the counters of the roll and then looks for the
winner among the recorded votes, starting with the first player of the map. Where the
counters are the tally of the votes, the winner has voted for the winning kind and has
drawn the highest number of that kind.

## Implementation notes

`CountTheRoll` records what it awards, with the roll as it was and the numbers that were drawn.
The law speaks of these records: who is announced and who stores the item.
-/

namespace Cataclysm
open Runs

/-- The highest number is the one that the search started with or was drawn for a vote of
the kind, and no vote of the kind drew more. -/
theorem highestRoll_spec (urand : Guid → Nat) (kind : RollVote → Bool)
    (entries : List (Guid × RollVote)) (best : Guid × RollVote × Nat) :
    best.2.2 ≤ (highestRoll urand kind entries best).2.2 ∧
      (∀ entry ∈ entries, kind entry.2 = true →
        urand entry.1 ≤ (highestRoll urand kind entries best).2.2) ∧
      (highestRoll urand kind entries best = best ∨
        ∃ guid vote, (guid, vote) ∈ entries ∧ kind vote = true ∧
          highestRoll urand kind entries best = (guid, vote, urand guid)) := by
  induction entries generalizing best with
  | nil => exact ⟨le_refl _, by simp, Or.inl rfl⟩
  | cons entry rest ih =>
    obtain ⟨guid, vote⟩ := entry
    rw [highestRoll]
    split
    · next hbetter =>
      obtain ⟨hbest, hrest, hfrom⟩ := ih (guid, vote, urand guid)
      refine ⟨(Nat.le_of_lt hbetter.2).trans hbest, ?_, ?_⟩
      · intro other hother hkind
        rcases List.mem_cons.mp hother with rfl | hmem
        · exact hbest
        · exact hrest other hmem hkind
      · rcases hfrom with heq | ⟨winner, recorded, hmem, hkind, heq⟩
        · exact Or.inr ⟨guid, vote, List.mem_cons_self, hbetter.1, heq⟩
        · exact Or.inr ⟨winner, recorded, List.mem_cons_of_mem _ hmem, hkind, heq⟩
    · next hworse =>
      obtain ⟨hbest, hrest, hfrom⟩ := ih best
      refine ⟨hbest, ?_, ?_⟩
      · intro other hother hkind
        rcases List.mem_cons.mp hother with rfl | hmem
        · have hle : urand guid ≤ best.2.2 := by
            by_contra hlt
            exact hworse ⟨hkind, Nat.lt_of_not_le hlt⟩
          exact hle.trans hbest
        · exact hrest other hmem hkind
      · rcases hfrom with heq | ⟨winner, recorded, hmem, hkind, heq⟩
        · exact Or.inl heq
        · exact Or.inr ⟨winner, recorded, List.mem_cons_of_mem _ hmem, hkind, heq⟩

namespace Roll
open RollVote

/-- The player, vote and number that `SendLootRollWon` announces. -/
def winner (urand : Guid → Nat) (roll : Roll) : Option (Guid × RollVote × Nat) :=
  match roll.playerVote.entries with
  | [] => none
  | (first, _) :: _ =>
    let entries := roll.playerVote.entries
    if roll.totalNeed > 0 then
      let (winner, _, number) := highestRoll urand isNeed entries (first, .notValid, 0)
      some (winner, .need, number)
    else if roll.totalGreed > 0 then
      some (highestRoll urand isGreed entries (first, .notValid, 0))
    else none

/-- The votes that win: need before greed and disenchant. -/
def winningKind (roll : Roll) : RollVote → Bool :=
  if roll.playerVote.countValues isNeed > 0 then isNeed else isGreed

/-- The player has recorded this vote, which is of the winning kind, and drew the highest number
of the players with such votes. -/
def WonBy (roll : Roll) (urand : Guid → Nat) (player : Guid) (vote : RollVote) : Prop :=
  roll.playerVote.find? player = some vote ∧ roll.winningKind vote = true ∧
    ∀ other recorded, roll.playerVote.find? other = some recorded →
      roll.winningKind recorded = true → urand other ≤ urand player

/-- A search that meets a vote of the kind finds a winner of the kind. -/
theorem highestRoll_of_count {roll : Roll} (context : RollContext) (kind : RollVote → Bool)
    (first : Guid) (h : 0 < roll.playerVote.countValues kind) :
    ∃ winner vote,
      highestRoll context.urand kind roll.playerVote.entries (first, .notValid, 0) =
        (winner, vote, context.urand winner) ∧
      roll.playerVote.find? winner = some vote ∧ kind vote = true ∧
      ∀ other recorded, roll.playerVote.find? other = some recorded →
        kind recorded = true → context.urand other ≤ context.urand winner := by
  obtain ⟨-, hhighest, hfrom⟩ :=
    highestRoll_spec context.urand kind roll.playerVote.entries (first, .notValid, 0)
  obtain ⟨entry, hentry, hkind⟩ := List.countP_pos_iff.mp h
  rcases hfrom with heq | ⟨winner, vote, hmem, hvote, heq⟩
  · have hle := hhighest entry hentry hkind
    rw [heq] at hle
    exact absurd ((context.urand_range entry.1).1.trans hle) (Nat.not_succ_le_zero 0)
  · refine ⟨winner, vote, heq, OrderedMap.find?_eq_some_iff.mpr hmem, hvote, ?_⟩
    intro other recorded hother hrecorded
    have hle := hhighest _ (OrderedMap.find?_eq_some_iff.mp hother) hrecorded
    rw [heq] at hle
    exact hle

theorem Consistent.wonBy {roll : Roll} (h : roll.Consistent) (context : RollContext)
    {winner : Guid} {vote : RollVote} {number : Nat}
    (hwinner : roll.winner context.urand = some (winner, vote, number)) :
    roll.WonBy context.urand winner vote ∧ number = context.urand winner := by
  rw [Roll.winner] at hwinner
  split at hwinner
  · cases hwinner
  next first _ _ _ =>
  dsimp only at hwinner
  split at hwinner
  · next hneed =>
    have hcount : 0 < roll.playerVote.countValues isNeed := h.need ▸ hneed
    obtain ⟨guid, recorded, heq, hfind, hkind, hmax⟩ :=
      highestRoll_of_count context isNeed first hcount
    rw [heq] at hwinner
    obtain ⟨rfl, rfl, rfl⟩ := hwinner
    have hrecorded : recorded = .need := of_decide_eq_true hkind
    rw [WonBy, winningKind, if_pos hcount]
    exact ⟨⟨hrecorded ▸ hfind, rfl, hmax⟩, rfl⟩
  · next hneed =>
    have hnone : ¬ roll.playerVote.countValues isNeed > 0 := h.need ▸ hneed
    split at hwinner
    · next hgreed =>
      have hcount : 0 < roll.playerVote.countValues isGreed := h.greed ▸ hgreed
      obtain ⟨guid, recorded, heq, hfind, hkind, hmax⟩ :=
        highestRoll_of_count context isGreed first hcount
      rw [heq] at hwinner
      obtain ⟨rfl, rfl, rfl⟩ := hwinner
      rw [WonBy, winningKind, if_neg hnone]
      exact ⟨⟨hfind, hkind, hmax⟩, rfl⟩
    · cases hwinner

end Roll

/-- Who is announced has won with the announced vote and number, and who is given the item has
won it. -/
def Award.Lawful (award : Award) : Prop :=
  match award.event with
  | .lootRollWon winner vote number =>
    award.roll.WonBy award.urand winner vote ∧ number = award.urand winner
  | .storeNewItem player => ∃ vote, award.roll.WonBy award.urand player vote
  | .autoStoreLoot player => award.roll.WonBy award.urand player .disenchant

namespace GroupRolls

/-- The end of a valid roll gives the item to the announced winner or to nobody. -/
theorem award_eq (context : RollContext) (s : GroupRolls) (roll : Roll) (id : LootId) :
    s.award context roll id =
      match roll.winner context.urand with
      | some (winner, vote, number) =>
        let s := s.record context roll (.lootRollWon winner vote number)
        if context.findPlayer winner then
          match vote with
          | .need | .greed => s.storeNewItem context roll id winner
          | .disenchant =>
            (s.modifyLoot id fun loot => loot.markLooted roll.itemSlot).record context roll
              (.autoStoreLoot winner)
          | _ => s
        else s
      | none =>
        if roll.totalNeed > 0 ∨ roll.totalGreed > 0 ∨ context.isLFRGroup then s
        else s.modifyLoot id fun loot => loot.unblock roll.itemSlot := by
  rw [award, Roll.winner]
  rcases hentries : roll.playerVote.entries with _ | ⟨⟨first, recorded⟩, rest⟩
  · rfl
  dsimp only
  by_cases hneed : roll.totalNeed > 0
  · rw [if_pos hneed, if_pos hneed]
    rfl
  rw [if_neg hneed, if_neg hneed]
  by_cases hgreed : roll.totalGreed > 0
  · rw [if_pos hgreed, if_pos hgreed]
    dsimp only
    have hspec := (highestRoll_spec context.urand RollVote.isGreed ((first, recorded) :: rest)
      (first, .notValid, 0)).2.2
    have hkind : (highestRoll context.urand RollVote.isGreed ((first, recorded) :: rest)
        (first, .notValid, 0)).2.1 ≠ .need := by
      rcases hspec with heq | ⟨winner, vote, -, hvote, heq⟩
      · rw [heq]
        exact RollVote.noConfusion
      · rw [heq]
        rintro rfl
        exact Bool.noConfusion hvote
    have hgreedKind : (fun vote : RollVote => vote = .greed || vote = .disenchant) =
        RollVote.isGreed := rfl
    rw [hgreedKind]
    generalize highestRoll context.urand RollVote.isGreed ((first, recorded) :: rest)
      (first, .notValid, 0) = best at hkind ⊢
    obtain ⟨winner, vote, number⟩ := best
    cases vote with
    | need => exact absurd rfl hkind
    | pass => rfl
    | greed => rfl
    | disenchant => rfl
    | notEmitedYet => rfl
    | notValid => rfl
  · rw [if_neg hgreed, if_neg hgreed]
    simp [hneed, hgreed]

variable {s : GroupRolls} {roll : Roll}

/-- The rolls are tallied, and whatever was awarded was won. -/
structure Sound (s : GroupRolls) : Prop where
  consistent : s.Consistent
  lawful : ∀ award ∈ s.awards, award.Lawful

theorem lawful_record (context : RollContext) (event : RollEvent)
    (h : ∀ award ∈ s.awards, award.Lawful)
    (hevent : (⟨roll, context.urand, event⟩ : Award).Lawful) :
    ∀ award ∈ (s.record context roll event).awards, award.Lawful := by
  intro award haward
  rcases List.mem_append.mp haward with hold | hnew
  · exact h award hold
  · exact List.mem_singleton.mp hnew ▸ hevent

/-- The end of a tallied roll awards what was won. -/
theorem lawful_award (context : RollContext) (id : LootId)
    (h : ∀ award ∈ s.awards, award.Lawful) (hroll : roll.Consistent) :
    ∀ award ∈ (s.award context roll id).awards, award.Lawful := by
  rw [award_eq]
  split
  · next winner vote number hwinner =>
    obtain ⟨hwon, hnumber⟩ := hroll.wonBy context hwinner
    have hannounced := lawful_record context (.lootRollWon winner vote number) h ⟨hwon, hnumber⟩
    have hstored : ∀ award ∈ ((s.record context roll
        (.lootRollWon winner vote number)).storeNewItem context roll id winner).awards,
        award.Lawful := by
      rw [storeNewItem]
      split
      · exact lawful_record context (.storeNewItem winner) hannounced ⟨vote, hwon⟩
      · exact hannounced
    dsimp only
    split
    · cases vote with
      | need => exact hstored
      | greed => exact hstored
      | disenchant => exact lawful_record context (.autoStoreLoot winner) hannounced hwon
      | pass => exact hannounced
      | notEmitedYet => exact hannounced
      | notValid => exact hannounced
    · exact hannounced
  · split
    · exact h
    · exact h

theorem Sound.countTheRoll (h : s.Sound) (context : RollContext) (rollI : Nat) :
    (s.countTheRoll context rollI).Sound := by
  refine ⟨h.consistent.countTheRoll context rollI, ?_⟩
  rw [GroupRolls.countTheRoll]
  split
  · exact h.lawful
  · next roll hroll =>
    dsimp only
    split
    · exact h.lawful
    · exact lawful_award context _ h.lawful (h.consistent roll (List.mem_of_getElem? hroll))

theorem Sound.countRollVote (h : s.Sound) (context : RollContext) {playerGUID guid : Guid}
    {choice : UInt8}
    (honce : ∀ vote, s.replacedVote playerGUID guid choice = some vote → vote = .notEmitedYet) :
    (s.countRollVote context playerGUID guid choice).Sound := by
  rw [countRollVote_eq]
  rcases hvoted : s.votedRoll playerGUID guid choice with _ | ⟨rollI, roll⟩
  · exact h
  have hset : ({ s with rollId := s.rollId.set rollI roll } : GroupRolls).Sound :=
    ⟨h.consistent.set rollI (h.consistent.votedRoll honce hvoted), h.lawful⟩
  dsimp only
  split
  · exact hset.countTheRoll context rollI
  · exact hset

theorem Sound.removeFromRoll (h : s.Sound) (context : RollContext) (guid : Guid)
    (rollI : Nat) : (s.removeFromRoll context guid rollI).Sound := by
  rw [GroupRolls.removeFromRoll]
  rcases hroll : s.rollId[rollI]? with _ | roll
  · exact h
  dsimp only
  rcases hvote : roll.playerVote.find? guid with _ | vote
  · exact h
  have hremoved := (h.consistent roll (List.mem_of_getElem? hroll)).removePlayer hvote
  have hset : ({ s with
      rollId := s.rollId.set rollI (roll.removePlayer guid vote) } : GroupRolls).Sound :=
    ⟨h.consistent.set rollI hremoved, h.lawful⟩
  refine hset.countRollVote context ?_
  intro recorded hreplaced
  simp [replacedVote] at hreplaced

theorem Sound.removeMember (h : s.Sound) (context : RollContext) (guid : Guid) :
    (s.removeMember context guid).Sound := by
  rw [GroupRolls.removeMember]
  generalize List.range s.rollId.length = positions
  induction positions generalizing s with
  | nil => exact h
  | cons rollI rest ih => exact ih (h.removeFromRoll context guid rollI)

theorem Sound.endRolls (h : s.Sound) (context : RollContext) (loot : LootId) (fuel : Nat) :
    (GroupRolls.endRolls context loot fuel s).Sound := by
  induction fuel generalizing s with
  | zero => exact h
  | succ fuel ih =>
    rw [GroupRolls.endRolls]
    split
    · exact h
    · exact ih (h.countTheRoll context _)

theorem Sound.step (h : s.Sound) {action : Action} (hok : s.VotesOnce action) :
    (s.step action).Sound := by
  cases action with
  | startRoll itemGUID loot itemSlot rollers =>
    refine ⟨h.consistent.startRoll itemGUID loot itemSlot rollers, ?_⟩
    rw [GroupRolls.step, startRoll]
    split
    · exact h.lawful
    · exact h.lawful
  | lootRoll context playerGUID itemGUID rollType => exact h.countRollVote context hok
  | removeMember context guid => exact h.removeMember context guid
  | endRoll context loot => exact h.endRolls context loot _
  | clearLoot loot => exact ⟨h.consistent.clearLoot loot, h.lawful⟩

/-- As long as nobody votes again on a roll, every roll is announced and every item of a roll is
given as the recorded votes say: to nobody but a player with a vote of the winning kind, whose
number is the highest of these votes. -/
theorem lawful_of_votesOnce (loots : LootId → Loot) {actions before : List Action}
    (h : Admissible step VotesOnce ⟨[], loots, []⟩ actions) (hbefore : before <+: actions)
    {award : Award} (haward : award ∈ (run step ⟨[], loots, []⟩ before).awards) :
    award.Lawful := by
  have hstart : (⟨[], loots, []⟩ : GroupRolls).Sound :=
    ⟨fun _ => False.elim ∘ List.not_mem_nil, fun _ => False.elim ∘ List.not_mem_nil⟩
  exact (h.invariant (fun hs hok => hs.step hok) hstart hbefore).lawful award haward

/-- The votes of three of the four rollers, in the order they are made: the last passes. -/
def needGreed : List Action :=
  [fourRollers, .lootRoll everyoneOnline 2 10 2, .lootRoll everyoneOnline 1 10 1,
    .lootRoll everyoneOnline 4 10 0]

/-- The player who needs gets the item, not the one with greed. -/
theorem lawful_need_before_greed :
    ∃ award ∈ (run step ⟨[], oneItem, []⟩ needGreed).awards,
      award.event = .storeNewItem 1 ∧ award.Lawful := by
  have honce : Admissible step VotesOnce ⟨[], oneItem, []⟩ needGreed := by
    refine ⟨trivial, ?_, ?_, ?_, trivial⟩ <;> intro vote hvote <;>
      exact (Option.some.inj hvote).symm
  exact ⟨_, List.mem_cons_of_mem _ List.mem_cons_self, rfl,
    lawful_of_votesOnce oneItem honce (List.prefix_refl _)
      (List.mem_cons_of_mem _ List.mem_cons_self)⟩

/-- A player who changes his vote from need to pass still gets the item, against a vote for
greed. -/
theorem passed_wins :
    ¬ ∀ actions, ∀ award ∈ (run step ⟨[], oneItem, []⟩ actions).awards, award.Lawful := by
  intro h
  have hlaw := h [fourRollers, .lootRoll everyoneOnline 1 10 1, .lootRoll everyoneOnline 1 10 0,
    .lootRoll everyoneOnline 2 10 2] _ (List.mem_cons_of_mem _ List.mem_cons_self)
  obtain ⟨vote, hvote, hkind, -⟩ := hlaw
  have hpassed : vote = .pass := (Option.some.inj hvote).symm
  rw [hpassed] at hkind
  exact absurd hkind (by decide)

end GroupRolls

/-! ### The item after the roll -/

namespace Loot

/-- The item at a roll's slot. -/
def itemAt (loot : Loot) (itemSlot : Nat) : Option LootItem :=
  if itemSlot ≥ loot.items.length then loot.questItems[itemSlot - loot.items.length]?
  else loot.items[itemSlot]?

/-- The item was given away, or can still be taken. -/
def Released (loot : Loot) (itemSlot : Nat) : Prop :=
  ∀ item ∈ loot.itemAt itemSlot, item.isLooted = true ∨ item.isBlocked = false

theorem itemAt_modifyItem (loot : Loot) (itemSlot : Nat) (f : LootItem → LootItem) :
    (loot.modifyItem itemSlot f).itemAt itemSlot = (loot.itemAt itemSlot).map f := by
  by_cases hquest : itemSlot ≥ loot.items.length
  · rw [modifyItem, if_pos hquest, itemAt, itemAt, if_pos hquest, if_pos hquest]
    exact List.getElem?_modify_eq _ _ _
  · rw [modifyItem, if_neg hquest, itemAt, itemAt, if_neg hquest, List.length_modify,
      if_neg hquest]
    exact List.getElem?_modify_eq _ _ _

theorem released_modifyItem (loot : Loot) (itemSlot : Nat) {f : LootItem → LootItem}
    (hf : ∀ item, (f item).isLooted = true ∨ (f item).isBlocked = false) :
    (loot.modifyItem itemSlot f).Released itemSlot := by
  intro item hitem
  rw [itemAt_modifyItem, Option.mem_def, Option.map_eq_some_iff] at hitem
  obtain ⟨before, -, rfl⟩ := hitem
  exact hf before

theorem released_markLooted (loot : Loot) (itemSlot : Nat) :
    (loot.markLooted itemSlot).Released itemSlot :=
  loot.released_modifyItem itemSlot fun _ => Or.inl rfl

theorem released_unblock (loot : Loot) (itemSlot : Nat) :
    (loot.unblock itemSlot).Released itemSlot :=
  loot.released_modifyItem itemSlot fun _ => Or.inr rfl

end Loot

/-- The roll is won, with a vote that the end of a roll looks at, by a player who is in the world;
or nobody needs or greeds the item, and the group is no raid finder group. -/
def Roll.Settled (roll : Roll) (context : RollContext) : Prop :=
  (∃ winner vote number, roll.winner context.urand = some (winner, vote, number) ∧
      vote ∈ [RollVote.need, .greed, .disenchant] ∧ context.findPlayer winner = true) ∨
    roll.totalNeed = 0 ∧ roll.totalGreed = 0 ∧ context.isLFRGroup = false

namespace Roll

theorem eq_zero_of_not_pos {n : UInt8} (h : ¬ n > 0) : n = 0 :=
  UInt8.le_zero_iff.mp (UInt8.not_lt.mp h)

/-- Nobody wins a roll without counted need or greed. -/
theorem winner_of_counters {roll : Roll} (urand : Guid → Nat) (hneed : roll.totalNeed = 0)
    (hgreed : roll.totalGreed = 0) : roll.winner urand = none := by
  rw [winner, hneed, hgreed]
  split
  · rfl
  · rfl

end Roll

namespace GroupRolls

theorem loots_modifyLoot (s : GroupRolls) (id : LootId) (f : Loot → Loot) :
    (s.modifyLoot id f).loots id = f (s.loots id) :=
  Function.update_self _ _ _

theorem released_storeNewItem (context : RollContext) (s : GroupRolls) (roll : Roll) (id : LootId)
    (winner : Guid) :
    ((s.storeNewItem context roll id winner).loots id).Released roll.itemSlot := by
  rw [storeNewItem]
  split
  · rw [record, loots_modifyLoot]
    exact Loot.released_markLooted _ _
  · rw [loots_modifyLoot]
    exact Loot.released_unblock _ _

/-- After the end of a roll its item can be taken, or has been given away, exactly when the roll
was settled or the item was not held for the roll. -/
theorem released_award_iff (context : RollContext) (s : GroupRolls) (roll : Roll) (id : LootId) :
    ((s.award context roll id).loots id).Released roll.itemSlot ↔
      (s.loots id).Released roll.itemSlot ∨ roll.Settled context := by
  rw [award_eq]
  cases hwinner : roll.winner context.urand with
  | none =>
    dsimp only
    by_cases hstays : roll.totalNeed > 0 ∨ roll.totalGreed > 0 ∨ context.isLFRGroup = true
    · rw [if_pos hstays]
      have hopen : ¬ roll.Settled context := by
        rintro (⟨winner, vote, number, hsome, -, -⟩ | ⟨hneed, hgreed, hlfr⟩)
        · rw [hwinner] at hsome
          cases hsome
        · rw [hneed, hgreed, hlfr] at hstays
          exact absurd hstays (by decide)
      exact (or_iff_left hopen).symm
    · rw [if_neg hstays, loots_modifyLoot]
      obtain ⟨hneed, hrest⟩ := not_or.mp hstays
      obtain ⟨hgreed, hlfr⟩ := not_or.mp hrest
      have hsettled : roll.Settled context :=
        Or.inr ⟨Roll.eq_zero_of_not_pos hneed, Roll.eq_zero_of_not_pos hgreed,
          Bool.eq_false_iff.mpr hlfr⟩
      exact iff_of_true (Loot.released_unblock _ _) (Or.inr hsettled)
  | some won =>
    obtain ⟨winner, vote, number⟩ := won
    dsimp only
    have hcounters : ¬ (roll.totalNeed = 0 ∧ roll.totalGreed = 0 ∧
        context.isLFRGroup = false) := by
      rintro ⟨hneed, hgreed, -⟩
      rw [Roll.winner_of_counters _ hneed hgreed] at hwinner
      cases hwinner
    have hiff : roll.Settled context ↔
        vote ∈ [RollVote.need, .greed, .disenchant] ∧ context.findPlayer winner = true := by
      constructor
      · rintro (⟨winner', vote', number', hsome, hvote, hfound⟩ | hnobody)
        · rw [hwinner] at hsome
          cases hsome
          exact ⟨hvote, hfound⟩
        · exact absurd hnobody hcounters
      · rintro ⟨hvote, hfound⟩
        exact Or.inl ⟨winner, vote, number, hwinner, hvote, hfound⟩
    rw [hiff]
    by_cases hfound : context.findPlayer winner = true
    · rw [if_pos hfound]
      have hgiven := released_storeNewItem context
        (s.record context roll (.lootRollWon winner vote number)) roll id winner
      cases vote with
      | need => exact iff_of_true hgiven (Or.inr ⟨by decide, hfound⟩)
      | greed => exact iff_of_true hgiven (Or.inr ⟨by decide, hfound⟩)
      | disenchant =>
        dsimp only
        rw [record, loots_modifyLoot]
        exact iff_of_true (Loot.released_markLooted _ _) (Or.inr ⟨by decide, hfound⟩)
      | pass => exact (or_iff_left fun h => absurd h.1 (by decide)).symm
      | notEmitedYet => exact (or_iff_left fun h => absurd h.1 (by decide)).symm
      | notValid => exact (or_iff_left fun h => absurd h.1 (by decide)).symm
    · rw [if_neg hfound]
      exact (or_iff_left fun h => hfound h.2).symm

/-- The same for the roll that `CountTheRoll` ends. -/
theorem released_countTheRoll_iff (context : RollContext) {s : GroupRolls} {rollI : Nat}
    {roll : Roll} {id : LootId} (hroll : s.rollId[rollI]? = some roll)
    (hloot : roll.loot = some id) :
    ((s.countTheRoll context rollI).loots id).Released roll.itemSlot ↔
      (s.loots id).Released roll.itemSlot ∨ roll.Settled context := by
  rw [countTheRoll, hroll]
  dsimp only
  rw [hloot]
  exact released_award_iff context _ roll id

/-- A roll for the one item of a loot, which one player needs. -/
def neededRoll : Roll := ⟨10, OrderedMap.empty.insert 1 .need, 1, 1, 0, 0, 0, some 5⟩

def neededItem : GroupRolls := ⟨[neededRoll], fun _ => ⟨[⟨false, true⟩], [], 1⟩, []⟩

/-- The player is in the world, and the item is released. -/
theorem released_neededItem :
    ((neededItem.countTheRoll everyoneOnline 0).loots 5).Released neededRoll.itemSlot := by
  have hroll : neededItem.rollId[0]? = some neededRoll := rfl
  exact (released_countTheRoll_iff everyoneOnline hroll rfl).mpr
    (Or.inr (Or.inl ⟨1, .need, 1, rfl, by decide, rfl⟩))

/-- The player has logged out before the roll ends, and nobody can take the item. -/
theorem stuck_item :
    ¬ ∀ (context : RollContext) (s : GroupRolls) (rollI : Nat) (roll : Roll) (id : LootId),
      s.rollId[rollI]? = some roll → roll.loot = some id →
        ((s.countTheRoll context rollI).loots id).Released roll.itemSlot := by
  intro h
  have hreleased := h { everyoneOnline with findPlayer := fun _ => false } neededItem 0 neededRoll
    5 rfl rfl ⟨false, true⟩ rfl
  exact absurd hreleased (by decide)

end GroupRolls

end Cataclysm
