import Cataclysm.Looting.Exhaustion

/-!
# The counter follows the lists

The filling counts what it puts on the lists of a player: each free item, each item with conditions
that was on no list, and each quest item that is free for all or was not blocked. The currencies that
it hands out count down again.
-/

namespace Cataclysm.Looting

open Looting.Loot LootState

variable {w : World} {loot loot' : Loot} {player : Nat} {kind : ListKind}

/-! ### Quest items -/

variable {index : Nat}

/-- Quest items of a loot come on a list. -/
structure QuestCounted (loot loot' : Loot) (chosen : List Nat) : Prop where
  items : loot'.items = loot.items
  count : loot'.unlootedCount =
    loot.unlootedCount + UInt8.ofNat (chosen.countP (countsQuestItem loot))
  blocked : ∀ {index item'}, loot'.lootItem true index = some item' → item'.isBlocked = true →
    index ∈ chosen ∨ ∃ item, loot.lootItem true index = some item ∧ item.isBlocked = true

theorem QuestCounted.nil (loot : Loot) : QuestCounted loot loot [] :=
  ⟨rfl, (UInt8.add_zero _).symm, fun hitem hblocked => Or.inr ⟨_, hitem, hblocked⟩⟩

theorem lootItem_listQuestItem (w : World) (player place : Nat) (item : LootItem) (loot : Loot)
    (hne : index ≠ place) :
    (loot.listQuestItem w player place item).lootItem true index = loot.lootItem true index := by
  have hcounted : ∀ index, (if item.freeforall || !item.isBlocked then loot.countUnlooted
      else loot).lootItem true index = loot.lootItem true index := by
    intro index
    split <;> rfl
  rw [listQuestItem]
  split
  · rw [lootItem_modifyItem, if_neg fun h => hne h.2, hcounted]
  · exact hcounted index

theorem questCounted_listQuestItem (w : World) (player : Nat) {place : Nat} {item : LootItem}
    (hitem : loot.lootItem true place = some item) :
    QuestCounted loot (loot.listQuestItem w player place item) [place] := by
  have hcount : (loot.listQuestItem w player place item).unlootedCount = loot.unlootedCount +
      if item.freeforall || !item.isBlocked then 1 else 0 := by
    rw [listQuestItem]
    split
    · rw [unlootedCount_modifyItem]
      split
      · rfl
      · exact (UInt8.add_zero _).symm
    · split
      · rfl
      · exact (UInt8.add_zero _).symm
  refine ⟨?_, ?_, ?_⟩
  · rw [listQuestItem]
    split
    · split <;> rfl
    · split <;> rfl
  · rw [hcount, List.countP_singleton, countsQuestItem, hitem, Option.any_some]
    split <;> rfl
  · intro index item' hitem' hblocked
    by_cases heq : index = place
    · exact Or.inl (List.mem_singleton.mpr heq)
    · rw [lootItem_listQuestItem w player place item loot heq] at hitem'
      exact Or.inr ⟨item', hitem', hblocked⟩

theorem QuestCounted.trans {loot'' : Loot} {chosen chosen' : List Nat}
    (h : QuestCounted loot loot' chosen) (h' : QuestCounted loot' loot'' chosen')
    (hsame : ∀ index ∈ chosen', loot'.lootItem true index = loot.lootItem true index) :
    QuestCounted loot loot'' (chosen ++ chosen') := by
  refine ⟨h'.items.trans h.items, ?_, ?_⟩
  · have hcounts : chosen'.countP (countsQuestItem loot') =
        chosen'.countP (countsQuestItem loot) := by
      refine List.countP_congr fun index hin => ?_
      rw [countsQuestItem, countsQuestItem, hsame index hin]
    rw [h'.count, h.count, hcounts, List.countP_append, UInt8.ofNat_add, UInt8.add_assoc]
  · intro index item'' hitem'' hblocked
    rw [List.mem_append]
    obtain hin | ⟨item', hitem', hblocked'⟩ := h'.blocked hitem'' hblocked
    · exact Or.inl (Or.inr hin)
    · obtain hin | hold := h.blocked hitem' hblocked'
      · exact Or.inl (Or.inl hin)
      · exact Or.inr hold

theorem fillQuestLootFrom_counted (w : World) (player : Nat) {places : List Nat}
    (hnodup : places.Nodup) (ql : List QuestItem) (loot : Loot)
    (hlength : loot.items.length + ql.length < maxNrLootItems) :
    (fillQuestLootFrom w player places ql loot).1 = ql ++ entries
        ((places.filter (takesQuestItem w player loot)).take
          (maxNrLootItems - (loot.items.length + ql.length))) ∧
      QuestCounted loot (fillQuestLootFrom w player places ql loot).2
        ((places.filter (takesQuestItem w player loot)).take
          (maxNrLootItems - (loot.items.length + ql.length))) := by
  induction places generalizing ql loot with
  | nil =>
    rw [List.filter_nil, List.take_nil]
    exact ⟨(List.append_nil _).symm, .nil loot⟩
  | cons place rest ih =>
    rw [List.nodup_cons] at hnodup
    rw [fillQuestLootFrom]
    cases hitem : loot.questItems[place]? with
    | none =>
      have htakes : takesQuestItem w player loot place = false := by
        rw [takesQuestItem, lootItem, if_pos rfl, hitem, Option.any_none]
      rw [List.filter_cons_of_neg (Bool.eq_false_iff.mp htakes)]
      exact ih hnodup.2 ql loot hlength
    | some item =>
      have hplace : loot.lootItem true place = some item := hitem
      have htakes : takesQuestItem w player loot place =
          (!item.isLooted && item.isFor w player) := by
        rw [takesQuestItem, hplace, Option.any_some]
      dsimp only
      split
      · next htake =>
          have hlisted := questCounted_listQuestItem w player hplace
          have hql : (ql ++ [(⟨place, false⟩ : QuestItem)]).length = ql.length + 1 :=
            List.length_append
          obtain ⟨room, hroom⟩ : ∃ room, maxNrLootItems - (loot.items.length + ql.length) =
              room + 1 := Nat.exists_eq_succ_of_ne_zero (by omega)
          rw [List.filter_cons_of_pos (htakes.trans htake), hroom, List.take_succ_cons,
            hlisted.items, hql]
          split
          · next hfull =>
              have hzero : room = 0 := by omega
              rw [hzero, List.take_zero]
              exact ⟨rfl, hlisted⟩
          · next hmore =>
              have hlt : (loot.listQuestItem w player place item).items.length +
                  (ql ++ [(⟨place, false⟩ : QuestItem)]).length < maxNrLootItems := by
                rw [hlisted.items, hql]
                omega
              have hsame : ∀ index ∈ rest, (loot.listQuestItem w player place item).lootItem
                  true index = loot.lootItem true index := fun index hin =>
                lootItem_listQuestItem w player place item loot
                  fun heq => hnodup.1 (heq ▸ hin)
              have hfilter : rest.filter (takesQuestItem w player
                  (loot.listQuestItem w player place item)) =
                    rest.filter (takesQuestItem w player loot) := by
                refine List.filter_congr fun index hin => ?_
                rw [takesQuestItem, takesQuestItem, hsame index hin]
              have hroomRest : maxNrLootItems - ((loot.listQuestItem w player place
                  item).items.length + (ql ++ [(⟨place, false⟩ : QuestItem)]).length) =
                    room := by
                rw [hlisted.items, hql]
                omega
              obtain ⟨hfirst, hcounted⟩ := ih hnodup.2 _ _ hlt
              rw [hfilter, hroomRest] at hfirst hcounted
              refine ⟨?_, ?_⟩
              · rw [hfirst, List.append_assoc]
                rfl
              · refine hlisted.trans hcounted fun index hin => hsame index ?_
                exact List.mem_of_mem_filter (List.mem_of_mem_take hin)
      · next hnot =>
          rw [List.filter_cons_of_neg (htakes.trans_ne hnot)]
          exact ih hnodup.2 ql loot hlength

/-! ### A list is stored -/

theorem sumValues_storeList (habsent : (loot.lists kind).find? player = none)
    (ql : List QuestItem) (p : QuestItem → Bool) :
    (((storeList loot kind player ql).lists kind).sumValues fun list => list.countP p) =
      ((loot.lists kind).sumValues fun list => list.countP p) + ql.countP p := by
  rw [storeList]
  split
  · next hempty =>
      rw [hempty, List.countP_nil]
      rfl
  · have hsum := OrderedMap.sumValues_insert (loot.lists kind) player ql fun list => list.countP p
    rw [habsent, Option.map_none, Option.getD_none, Nat.add_zero] at hsum
    rw [lists_withLists, if_pos rfl]
    exact hsum

theorem isListed_storeList (habsent : (loot.lists kind).find? player = none)
    (chosen : List Nat) (index : Nat) :
    isListed ((storeList loot kind player (entries chosen)).lists kind) index =
      (isListed (loot.lists kind) index || decide (index ∈ chosen)) := by
  have hindexes : ∀ other, indexes ((storeList loot kind player (entries chosen)).lists kind)
      other = if other = player then chosen else indexes (loot.lists kind) other := by
    intro other
    have hlist : listOf ((storeList loot kind player (entries chosen)).lists kind) other =
        if other = player then entries chosen else listOf (loot.lists kind) other := by
      rw [storeList]
      split
      · next hempty =>
          split
          · next heq => rw [hempty, heq, listOf_absent habsent]
          · rfl
      · rw [lists_withLists, if_pos rfl, listOf, OrderedMap.find?_insert]
        split
        · exact Option.getD_some
        · rfl
    rw [indexes, hlist]
    split
    · exact map_index_entries chosen
    · rfl
  rw [Bool.eq_iff_iff, Bool.or_eq_true, isListed_iff, isListed_iff, decide_eq_true_eq]
  constructor
  · rintro ⟨other, hin⟩
    rw [hindexes] at hin
    split at hin
    · exact Or.inr hin
    · exact Or.inl ⟨other, hin⟩
  · rintro (⟨other, hin⟩ | hin)
    · refine ⟨other, ?_⟩
      rw [hindexes]
      split
      · next heq =>
          rw [heq, indexes, listOf_absent habsent] at hin
          cases hin
      · exact hin
    · refine ⟨player, ?_⟩
      rw [hindexes, if_pos rfl]
      exact hin

theorem lists_storeList_of_ne {other : ListKind} (hne : other ≠ kind) (ql : List QuestItem) :
    (storeList loot kind player ql).lists other = loot.lists other := by
  rw [storeList]
  split
  · rfl
  · rw [lists_withLists, if_neg hne]

theorem unlootedCount_storeList (ql : List QuestItem) :
    (storeList loot kind player ql).unlootedCount = loot.unlootedCount := by
  rw [storeList]
  split
  · rfl
  · cases kind <;> rfl

theorem items_storeList (ql : List QuestItem) :
    (storeList loot kind player ql).items = loot.items ∧
      (storeList loot kind player ql).questItems = loot.questItems := by
  rw [storeList]
  split
  · exact ⟨rfl, rfl⟩
  · cases kind <;> exact ⟨rfl, rfl⟩

theorem lootItem_storeList (ql : List QuestItem) (isQuestItem : Bool) (index : Nat) :
    (storeList loot kind player ql).lootItem isQuestItem index =
      loot.lootItem isQuestItem index := by
  rw [lootItem, lootItem, (items_storeList ql).1, (items_storeList ql).2]

/-! ### The filling of each list -/

theorem countP_entries (chosen : List Nat) (p : QuestItem → Bool) :
    (entries chosen).countP p = chosen.countP fun index => p ⟨index, false⟩ := by
  rw [entries, List.countP_map]
  rfl

/-- What a filling counted is what it put on the lists. -/
def Adds (number : Nat) (loot loot' : Loot) : Prop :=
  Tallied loot' ∧ toTake loot' = toTake loot + number

theorem tallied_count {number : Nat} (h : Tallied loot)
    (hcount : loot'.unlootedCount = loot.unlootedCount + UInt8.ofNat number)
    (htoTake : toTake loot' = toTake loot + number) :
    loot'.unlootedCount = UInt8.ofNat (toTake loot') := by
  rw [hcount, h.count, htoTake, UInt8.ofNat_add]

theorem SameItems.any {p : LootItem → Bool} (h : SameItems loot loot')
    (hp : ∀ {item item'}, SameItem item item' → p item' = p item) (isQuestItem : Bool)
    (index : Nat) :
    (loot'.lootItem isQuestItem index).any p = (loot.lootItem isQuestItem index).any p := by
  have hrel := h isQuestItem index
  generalize loot.lootItem isQuestItem index = found at *
  generalize loot'.lootItem isQuestItem index = found' at *
  cases hrel with
  | none => rfl
  | some hsame => exact hp hsame

theorem mem_questPlaces (hin : index ∈ questPlaces w player loot) :
    ∃ item, loot.lootItem true index = some item ∧ item.isLooted = false := by
  have htakes := (List.mem_filter.mp (List.mem_of_mem_take hin)).2
  obtain ⟨item, hitem, htake⟩ := (Option.any_eq_true _ _).mp htakes
  rw [Bool.and_eq_true, Bool.not_eq_true'] at htake
  exact ⟨item, hitem, htake.1⟩

theorem sublist_questPlaces (w : World) (player : Nat) (loot : Loot) :
    (questPlaces w player loot).Sublist (List.range loot.questItems.length) :=
  (List.take_sublist _ _).trans List.filter_sublist

theorem fillQuestLoot_stores (w : World) (player : Nat)
    (hlength : loot.items.length ≤ maxNrLootItems) :
    ∃ mid, loot.fillQuestLoot w player =
        storeList mid .quest player (entries (questPlaces w player loot)) ∧
      Flagged loot mid ∧ QuestCounted loot mid (questPlaces w player loot) := by
  rw [fillQuestLoot_eq]
  split
  · next hfull =>
      have hnone : questPlaces w player loot = [] := by
        rw [questPlaces, hfull, Nat.sub_self, List.take_zero]
      rw [hnone]
      exact ⟨loot, (if_pos rfl).symm, .refl loot, .nil loot⟩
  · next hroom =>
      have hlt : loot.items.length + ([] : List QuestItem).length < maxNrLootItems :=
        lt_of_le_of_ne hlength hroom
      obtain ⟨_, -, hchosen, -⟩ :=
        fillQuestLootFrom_spec w player (List.range loot.questItems.length) [] loot hlt
      obtain ⟨hql, hcounted⟩ := fillQuestLootFrom_counted w player List.nodup_range [] loot hlt
      refine ⟨_, ?_, hchosen.flagged, hcounted⟩
      rw [hql]
      rfl

/-- A quest item that comes on a list for the first time is counted, and one that is free for all
is counted for each list. -/
theorem adds_fillQuestLoot (h : Tallied loot) (hlength : loot.items.length ≤ maxNrLootItems)
    (habsent : (loot.lists .quest).find? player = none)
    (honce : ∀ index ∈ questPlaces w player loot, ∀ item, loot.lootItem true index = some item →
      item.freeforall = false → item.isBlocked = false →
        isListed loot.playerQuestItems index = false) :
    Adds ((questPlaces w player loot).countP (countsQuestItem loot)) loot
      (loot.fillQuestLoot w player) := by
  obtain ⟨mid, heq, hflagged, hcounted⟩ := fillQuestLoot_stores w player hlength
  have habsentMid : (mid.lists .quest).find? player = none :=
    (congrArg (·.find? player) (hflagged.lists .quest)).trans habsent
  rw [heq]
  generalize hstored : storeList mid .quest player (entries (questPlaces w player loot)) = loot'
  have hplaces : ∀ isQuestItem index, loot'.lootItem isQuestItem index =
      mid.lootItem isQuestItem index := by
    intro isQuestItem index
    rw [← hstored]
    exact lootItem_storeList _ isQuestItem index
  have hitems : loot'.items = loot.items := by
    rw [← hstored]
    exact (items_storeList _).1.trans hcounted.items
  have hlisted : ∀ index, isListed loot'.playerQuestItems index =
      (isListed loot.playerQuestItems index || decide (index ∈ questPlaces w player loot)) := by
    intro index
    have hstore := isListed_storeList habsentMid (questPlaces w player loot) index
    rw [hstored, hflagged.lists .quest] at hstore
    exact hstore
  have hopen : ∀ index, (loot'.lootItem true index).any openQuestItem =
      (loot.lootItem true index).any openQuestItem := by
    intro index
    rw [hplaces]
    refine hflagged.same.any (fun hsame => ?_) true index
    rw [openQuestItem, hsame.isLooted, hsame.freeforall, openQuestItem]
  have hisFree : ∀ index, isFreeQuestItem loot' index = isFreeQuestItem loot index := by
    intro index
    rw [isFreeQuestItem, hplaces]
    exact hflagged.same.any (fun hsame => hsame.freeforall) true index
  have hquest : openQuestItems loot' = openQuestItems loot +
      (questPlaces w player loot).countP fun index =>
        (loot.lootItem true index).any openQuestItem && !isListed loot.playerQuestItems index := by
    have hlengthQuest : loot'.questItems.length = loot.questItems.length := by
      rw [← hstored, (items_storeList _).2]
      exact hflagged.same.length.2
    rw [← Counting.countP_range_mem (sublist_questPlaces w player loot), openQuestItems,
      hlengthQuest, openQuestItems]
    refine Counting.countP_add fun index _ => ?_
    rw [hopen, hlisted]
    cases (loot.lootItem true index).any openQuestItem <;>
      cases isListed loot.playerQuestItems index <;>
      cases decide (index ∈ questPlaces w player loot) <;> rfl
  have hfreeQuest : openFreeQuest loot' = openFreeQuest loot +
      (questPlaces w player loot).countP (isFreeQuestItem loot) := by
    have hsum := sumValues_storeList habsentMid (entries (questPlaces w player loot))
      fun entry => !entry.isLooted && isFreeQuestItem loot entry.index
    rw [hstored, hflagged.lists .quest, countP_entries] at hsum
    simp only [openFreeQuest, hisFree]
    exact hsum
  have hboth : (questPlaces w player loot).countP (countsQuestItem loot) =
      ((questPlaces w player loot).countP fun index =>
        (loot.lootItem true index).any openQuestItem && !isListed loot.playerQuestItems index) +
          (questPlaces w player loot).countP (isFreeQuestItem loot) := by
    refine Counting.countP_add fun index hin => ?_
    obtain ⟨item, hitem, hlooted⟩ := mem_questPlaces hin
    rw [countsQuestItem, isFreeQuestItem, hitem, Option.any_some, Option.any_some, Option.any_some,
      openQuestItem, hlooted]
    cases hfree : item.freeforall with
    | true => rfl
    | false =>
      cases hblocked : item.isBlocked with
      | true =>
        rw [h.blocked hitem hblocked]
        rfl
      | false =>
        rw [honce index hin item hitem hfree hblocked]
        rfl
  have htoTake : toTake loot' = toTake loot +
      (questPlaces w player loot).countP (countsQuestItem loot) := by
    have hopenItems : openItems loot' = openItems loot := congrArg (List.countP openItem) hitems
    have hffa : loot'.playerFFAItems = loot.playerFFAItems := by
      have hother : loot'.lists .ffa = mid.lists .ffa := by
        rw [← hstored]
        exact lists_storeList_of_ne (by decide) _
      exact hother.trans (hflagged.lists .ffa)
    rw [toTake, toTake, hopenItems, hquest, hffa, hfreeQuest, hboth]
    omega
  refine ⟨⟨tallied_count h ?_ htoTake, ?_, ?_⟩, htoTake⟩
  · rw [← hstored, unlootedCount_storeList]
    exact hcounted.count
  · intro index item hitem hfree hconditions
    have hget : loot'.items[index]? = some item := hitem
    rw [hitems] at hget
    have hconditional : loot'.playerNonQuestNonFFAConditionalItems =
        loot.playerNonQuestNonFFAConditionalItems := by
      have hother : loot'.lists .conditional = mid.lists .conditional := by
        rw [← hstored]
        exact lists_storeList_of_ne (by decide) _
      exact hother.trans (hflagged.lists .conditional)
    rw [hconditional]
    exact h.counted hget hfree hconditions
  · intro index item hitem hblocked
    rw [hplaces] at hitem
    rw [hlisted, Bool.or_eq_true, decide_eq_true_eq]
    obtain hin | ⟨old, hold, hblockedOld⟩ := hcounted.blocked hitem hblocked
    · exact Or.inr hin
    · exact Or.inl (h.blocked hold hblockedOld)

/-- Every free item on the list of the player is counted. -/
theorem adds_fillFFALoot (h : Tallied loot) (habsent : (loot.lists .ffa).find? player = none) :
    Adds (loot.freePlaces w player).length loot (loot.fillFFALoot w player) := by
  rw [fillFFALoot_eq]
  generalize hstored : storeList (countFree w player loot) .ffa player
    (entries (loot.freePlaces w player)) = loot'
  have hitems : loot'.items = loot.items ∧ loot'.questItems = loot.questItems := by
    rw [← hstored]
    exact items_storeList _
  have hkept : ∀ other, other ≠ .ffa → loot'.lists other = loot.lists other := by
    intro other hne
    rw [← hstored]
    exact lists_storeList_of_ne hne _
  have hquestLists : loot'.playerQuestItems = loot.playerQuestItems := hkept .quest (by decide)
  have hconditional : loot'.playerNonQuestNonFFAConditionalItems =
      loot.playerNonQuestNonFFAConditionalItems := hkept .conditional (by decide)
  have hplaces : ∀ isQuestItem index, loot'.lootItem isQuestItem index =
      loot.lootItem isQuestItem index := by
    intro isQuestItem index
    rw [lootItem, lootItem, hitems.1, hitems.2]
  have hfree : openFree loot'.playerFFAItems = openFree loot.playerFFAItems +
      (loot.freePlaces w player).length := by
    have habsentCounted : ((countFree w player loot).lists .ffa).find? player = none := habsent
    have hsum := sumValues_storeList habsentCounted (entries (loot.freePlaces w player))
      fun entry => !entry.isLooted
    have hall : (loot.freePlaces w player).countP (fun _ => !false) =
        (loot.freePlaces w player).length := List.countP_eq_length.mpr fun _ _ => rfl
    rw [hstored, countP_entries, hall] at hsum
    exact hsum
  have htoTake : toTake loot' = toTake loot + (loot.freePlaces w player).length := by
    have hopenItems : openItems loot' = openItems loot := congrArg (List.countP openItem) hitems.1
    have hquest : openQuestItems loot' = openQuestItems loot := by
      rw [openQuestItems, openQuestItems, hitems.2, hquestLists]
      simp only [hplaces]
    have hfreeQuest : openFreeQuest loot' = openFreeQuest loot := by
      simp only [openFreeQuest, isFreeQuestItem, hquestLists, hplaces]
    rw [toTake, toTake, hopenItems, hquest, hfree, hfreeQuest]
    omega
  refine ⟨⟨tallied_count h ?_ htoTake, ?_, ?_⟩, htoTake⟩
  · rw [← hstored, unlootedCount_storeList, countFree, entries, List.length_map]
  · intro index item hitem hnotFree hconditions
    rw [hplaces] at hitem
    rw [hconditional]
    exact h.counted hitem hnotFree hconditions
  · intro index item hitem hblocked
    rw [hplaces] at hitem
    rw [hquestLists]
    exact h.blocked hitem hblocked

/-! ### Items with conditions -/

/-- Items of a loot come on a list of items with conditions. -/
structure ConditionalCounted (loot loot' : Loot) (chosen : List Nat) : Prop where
  questItems : loot'.questItems = loot.questItems
  count : loot'.unlootedCount = loot.unlootedCount + UInt8.ofNat (chosen.countP (countsItem loot))
  counted : ∀ index, (loot'.lootItem false index).map LootItem.isCounted =
    (loot.lootItem false index).map fun item => item.isCounted || decide (index ∈ chosen)

theorem ConditionalCounted.nil (loot : Loot) : ConditionalCounted loot loot [] := by
  refine ⟨rfl, (UInt8.add_zero _).symm, fun index => ?_⟩
  cases loot.lootItem false index with
  | none => rfl
  | some item => rw [Option.map_some, Option.map_some, decide_eq_false List.not_mem_nil,
      Bool.or_false]

theorem ConditionalCounted.trans {loot'' : Loot} {chosen chosen' : List Nat}
    (h : ConditionalCounted loot loot' chosen) (h' : ConditionalCounted loot' loot'' chosen')
    (hdisjoint : chosen.Disjoint chosen') :
    ConditionalCounted loot loot'' (chosen ++ chosen') := by
  refine ⟨h'.questItems.trans h.questItems, ?_, ?_⟩
  · have hcounts : chosen'.countP (countsItem loot') = chosen'.countP (countsItem loot) := by
      refine List.countP_congr fun index hin => ?_
      have hnot : index ∉ chosen := fun hchosen => hdisjoint hchosen hin
      have hmap := h.counted index
      rw [countsItem, countsItem]
      cases hitem : loot.lootItem false index with
      | none =>
        rw [hitem, Option.map_none, Option.map_eq_none_iff] at hmap
        rw [hmap]
      | some item =>
        rw [hitem, Option.map_some, decide_eq_false hnot, Bool.or_false] at hmap
        obtain ⟨item', hitem', hflag⟩ := Option.map_eq_some_iff.mp hmap
        rw [hitem', Option.any_some, Option.any_some, hflag]
    rw [h'.count, h.count, hcounts, List.countP_append, UInt8.ofNat_add, UInt8.add_assoc]
  · intro index
    have hfirst := h.counted index
    have hsecond := h'.counted index
    cases hitem : loot.lootItem false index with
    | none =>
      rw [hitem, Option.map_none, Option.map_eq_none_iff] at hfirst
      rw [hsecond, hfirst]
      rfl
    | some item =>
      rw [hitem, Option.map_some] at hfirst
      obtain ⟨item', hitem', hflag⟩ := Option.map_eq_some_iff.mp hfirst
      rw [hsecond, hitem', Option.map_some, Option.map_some, hflag, Bool.or_assoc]
      simp only [List.mem_append, Bool.decide_or]

theorem conditionalCounted_allowed (player : Nat) (presentAtLooting : Bool) (place : Nat)
    (loot : Loot) :
    ConditionalCounted loot (if presentAtLooting then
      loot.modifyItem false place (addAllowedLooter player) else loot) [] := by
  split
  · refine ⟨rfl, (UInt8.add_zero _).symm, fun index => ?_⟩
    rw [lootItem_modifyItem]
    split
    · next hplace =>
        rw [hplace.2, Option.map_map]
        cases loot.lootItem false place with
        | none => rfl
        | some item =>
          rw [Option.map_some, Option.map_some, decide_eq_false List.not_mem_nil, Bool.or_false]
          rfl
    · exact (ConditionalCounted.nil loot).counted index
  · exact .nil loot

theorem conditionalCounted_list {mid : Loot} {place : Nat} {item : LootItem}
    (h : ConditionalCounted loot mid []) (hitem : loot.lootItem false place = some item) :
    ConditionalCounted loot (mid.listConditionalItem place item) [place] := by
  have hcounts : countsItem loot place = !item.isCounted := by
    rw [countsItem, hitem, Option.any_some]
  have hcount : mid.unlootedCount = loot.unlootedCount := h.count.trans (UInt8.add_zero _)
  have hflags : ∀ index, (mid.lootItem false index).map LootItem.isCounted =
      (loot.lootItem false index).map LootItem.isCounted := by
    intro index
    rw [h.counted]
    refine congrArg (Option.map · _) (funext fun item => ?_)
    rw [decide_eq_false List.not_mem_nil, Bool.or_false]
  refine ⟨?_, ?_, fun index => ?_⟩
  · rw [listConditionalItem]
    split
    · exact h.questItems
    · exact h.questItems
  · rw [List.countP_singleton, hcounts, listConditionalItem]
    cases item.isCounted with
    | true =>
      rw [if_pos rfl, Bool.not_true, if_neg Bool.false_ne_true, hcount]
      exact (UInt8.add_zero _).symm
    | false =>
      rw [if_neg Bool.false_ne_true, unlootedCount_modifyItem, countUnlooted, hcount]
      rfl
  · rw [listConditionalItem]
    by_cases heq : index = place
    · rw [heq, hitem, Option.map_some, decide_eq_true (List.mem_singleton_self place), Bool.or_true]
      have hplace := hflags place
      rw [hitem, Option.map_some] at hplace
      obtain ⟨found, hfound, hflag⟩ := Option.map_eq_some_iff.mp hplace
      split
      · next hcounted => rw [hfound, Option.map_some, hflag, hcounted]
      · have hmid : mid.countUnlooted.lootItem false place = some found := hfound
        rw [lootItem_modifyItem, if_pos (And.intro rfl rfl), hmid]
        rfl
    · have hnot : decide (index ∈ [place]) = false :=
        decide_eq_false fun hin => heq (List.mem_singleton.mp hin)
      simp only [hnot, Bool.or_false]
      split
      · exact hflags index
      · rw [lootItem_modifyItem, if_neg fun hsame => heq hsame.2]
        exact hflags index

theorem lootItem_allowed (presentAtLooting : Bool) (place : Nat) (loot : Loot)
    (hne : index ≠ place) :
    (if presentAtLooting then loot.modifyItem false place (addAllowedLooter player)
      else loot).lootItem false index = loot.lootItem false index := by
  split
  · rw [lootItem_modifyItem, if_neg fun hsame => hne hsame.2]
  · rfl

theorem lootItem_listConditionalItem (place : Nat) (item : LootItem) (loot : Loot)
    (hne : index ≠ place) :
    (loot.listConditionalItem place item).lootItem false index = loot.lootItem false index := by
  rw [listConditionalItem]
  split
  · rfl
  · rw [lootItem_modifyItem, if_neg fun hsame => hne hsame.2]
    rfl

theorem fillConditionalLootFrom_counted (w : World) (player : Nat) (presentAtLooting : Bool)
    {places : List Nat} (hnodup : places.Nodup) (ql : List QuestItem) (loot : Loot) :
    (fillConditionalLootFrom w player presentAtLooting places ql loot).1 =
        ql ++ entries (places.filter (takesConditionalItem w player loot)) ∧
      ConditionalCounted loot (fillConditionalLootFrom w player presentAtLooting places ql loot).2
        (places.filter (takesConditionalItem w player loot)) := by
  induction places generalizing ql loot with
  | nil => exact ⟨(List.append_nil _).symm, .nil loot⟩
  | cons place rest ih =>
    rw [List.nodup_cons] at hnodup
    have hfilter : ∀ mid : Loot, (∀ index, index ≠ place →
        mid.lootItem false index = loot.lootItem false index) →
          rest.filter (takesConditionalItem w player mid) =
            rest.filter (takesConditionalItem w player loot) := by
      intro mid hsame
      refine List.filter_congr fun index hin => ?_
      rw [takesConditionalItem, takesConditionalItem,
        hsame index fun heq => hnodup.1 (heq ▸ hin)]
    rw [fillConditionalLootFrom]
    cases hget : loot.items[place]? with
    | none =>
      have htakes : takesConditionalItem w player loot place = false := by
        rw [takesConditionalItem, lootItem, if_neg Bool.false_ne_true, hget, Option.any_none]
      rw [List.filter_cons_of_neg (Bool.eq_false_iff.mp htakes)]
      exact ih hnodup.2 ql loot
    | some item =>
      have hitem : loot.lootItem false place = some item := hget
      have htakes : takesConditionalItem w player loot place =
          ((!item.isLooted && !item.freeforall && item.isFor w player) &&
            !item.conditions.isEmpty) := by
        rw [takesConditionalItem, hitem, Option.any_some]
      dsimp only
      split
      · next htake =>
          have hallowed := conditionalCounted_allowed player presentAtLooting place loot
          have hothers : ∀ index, index ≠ place → (if presentAtLooting then
              loot.modifyItem false place (addAllowedLooter player) else loot).lootItem false
                index = loot.lootItem false index :=
            fun index hne => lootItem_allowed presentAtLooting place loot hne
          generalize (if presentAtLooting then
            loot.modifyItem false place (addAllowedLooter player) else loot) = mid at *
          split
          · next hempty =>
              have hskip : takesConditionalItem w player loot place = false := by
                rw [htakes, hempty, Bool.not_true, Bool.and_false]
              rw [List.filter_cons_of_neg (Bool.eq_false_iff.mp hskip)]
              obtain ⟨hfirst, hcounted⟩ := ih hnodup.2 ql mid
              rw [hfilter mid hothers] at hfirst hcounted
              exact ⟨hfirst, hallowed.trans hcounted (List.disjoint_nil_left _)⟩
          · next hconditions =>
              have hchosen : takesConditionalItem w player loot place = true := by
                rw [htakes, htake, Bool.true_and, Bool.not_eq_true']
                exact Bool.eq_false_iff.mpr hconditions
              rw [List.filter_cons_of_pos hchosen]
              have hlisted := conditionalCounted_list hallowed hitem
              obtain ⟨hfirst, hcounted⟩ :=
                ih hnodup.2 (ql ++ [⟨place, false⟩]) (mid.listConditionalItem place item)
              have hothersListed : ∀ index, index ≠ place →
                  (mid.listConditionalItem place item).lootItem false index =
                    loot.lootItem false index := by
                intro index hne
                exact (lootItem_listConditionalItem place item mid hne).trans
                  (hothers index hne)
              rw [hfilter _ hothersListed] at hfirst hcounted
              refine ⟨?_, hlisted.trans hcounted ?_⟩
              · rw [hfirst, List.append_assoc]
                rfl
              · rw [List.singleton_disjoint]
                exact fun hin => hnodup.1 (List.mem_of_mem_filter hin)
      · next hnot =>
          have hskip : takesConditionalItem w player loot place = false := by
            rw [htakes, Bool.eq_false_iff.mpr hnot, Bool.false_and]
          rw [List.filter_cons_of_neg (Bool.eq_false_iff.mp hskip)]
          exact ih hnodup.2 ql loot

theorem conditional_stores (w : World) (player : Nat) (presentAtLooting : Bool) (loot : Loot) :
    ∃ mid, loot.fillNonQuestNonFFAConditionalLoot w player presentAtLooting =
        storeList mid .conditional player (entries (conditionalPlaces w player loot)) ∧
      Flagged loot mid ∧ ConditionalCounted loot mid (conditionalPlaces w player loot) := by
  obtain ⟨_, -, hchosen⟩ := fillConditionalLootFrom_spec w player presentAtLooting
    (List.range loot.items.length) [] loot
  obtain ⟨hql, hcounted⟩ :=
    fillConditionalLootFrom_counted w player presentAtLooting List.nodup_range [] loot
  refine ⟨_, ?_, hchosen.flagged, hcounted⟩
  rw [fillNonQuestNonFFAConditionalLoot_eq, hql]
  rfl

theorem mem_conditionalPlaces :
    index ∈ conditionalPlaces w player loot ↔ ∃ item, loot.lootItem false index = some item ∧
      Listable .conditional item ∧ item.isFor w player = true := by
  rw [conditionalPlaces, List.mem_filter, List.mem_range, takesConditionalItem,
    Option.any_eq_true]
  constructor
  · rintro ⟨-, item, hitem, htake⟩
    simp only [Bool.and_eq_true, Bool.not_eq_true', List.isEmpty_eq_false_iff] at htake
    exact ⟨item, hitem, ⟨htake.1.1.1, htake.1.1.2, htake.2⟩, htake.1.2⟩
  · rintro ⟨item, hitem, ⟨hlooted, hfree, hconditions⟩, hisFor⟩
    have hget : loot.items[index]? = some item := hitem
    refine ⟨(List.getElem?_eq_some_iff.mp hget).1, item, hitem, ?_⟩
    rw [hlooted, hfree, hisFor, List.isEmpty_eq_false_iff.mpr hconditions]
    rfl

/-- The items with conditions that are counted when they come on a list. -/
theorem openItems_conditional {mid : Loot} (hsame : SameItems loot mid)
    (hcounted : ConditionalCounted loot mid (conditionalPlaces w player loot)) :
    openItems mid = openItems loot + (conditionalPlaces w player loot).countP (countsItem loot) := by
  have hsub : (conditionalPlaces w player loot).Sublist (List.range loot.items.length) :=
    List.filter_sublist
  rw [← Counting.countP_range_mem hsub, openItems, Counting.countP_eq_range mid.items,
    hsame.length.1, openItems, Counting.countP_eq_range loot.items]
  refine Counting.countP_add fun index hin => ?_
  obtain ⟨item, hget⟩ : ∃ item, loot.items[index]? = some item :=
    ⟨_, List.getElem?_eq_getElem (List.mem_range.mp hin)⟩
  have hitem : loot.lootItem false index = some item := hget
  obtain ⟨item', hitem', hsameItem⟩ := hsame.new hitem
  have hget' : mid.items[index]? = some item' := hitem'
  have hflag := hcounted.counted index
  rw [hitem, hitem', Option.map_some, Option.map_some] at hflag
  rw [hget, hget', Option.any_some, Option.any_some, countsItem, hitem, Option.any_some, openItem,
    openItem, hsameItem.isLooted, hsameItem.freeforall, hsameItem.conditions,
    Option.some.inj hflag]
  by_cases hchosen : index ∈ conditionalPlaces w player loot
  · obtain ⟨found, hfound, ⟨hlooted, hfree, hconditions⟩, -⟩ := mem_conditionalPlaces.mp hchosen
    rw [Option.some.inj (hitem.symm.trans hfound), hlooted, hfree,
      List.isEmpty_eq_false_iff.mpr hconditions, decide_eq_true hchosen]
    cases found.isCounted <;> rfl
  · rw [decide_eq_false hchosen, Bool.or_false, Bool.and_false, if_neg Bool.false_ne_true,
      Nat.add_zero]

/-- An item with conditions is counted when it comes on a list for the first time. -/
theorem adds_conditional (h : Tallied loot) (presentAtLooting : Bool)
    (habsent : (loot.lists .conditional).find? player = none) :
    Adds ((conditionalPlaces w player loot).countP (countsItem loot)) loot
      (loot.fillNonQuestNonFFAConditionalLoot w player presentAtLooting) := by
  obtain ⟨mid, heq, hflagged, hcounted⟩ := conditional_stores w player presentAtLooting loot
  have habsentMid : (mid.lists .conditional).find? player = none :=
    (congrArg (·.find? player) (hflagged.lists .conditional)).trans habsent
  rw [heq]
  generalize hstored : storeList mid .conditional player
    (entries (conditionalPlaces w player loot)) = loot'
  have hplaces : ∀ isQuestItem index, loot'.lootItem isQuestItem index =
      mid.lootItem isQuestItem index := by
    intro isQuestItem index
    rw [← hstored]
    exact lootItem_storeList _ isQuestItem index
  have hquestPlaces : ∀ index, loot'.lootItem true index = loot.lootItem true index := by
    intro index
    rw [hplaces, lootItem, lootItem, if_pos rfl, if_pos rfl, hcounted.questItems]
  have hkept : ∀ other, other ≠ .conditional → loot'.lists other = loot.lists other := by
    intro other hne
    rw [← hflagged.lists other, ← hstored]
    exact lists_storeList_of_ne hne _
  have hquestLists : loot'.playerQuestItems = loot.playerQuestItems := hkept .quest (by decide)
  have hffa : loot'.playerFFAItems = loot.playerFFAItems := hkept .ffa (by decide)
  have hlisted : ∀ index, isListed loot'.playerNonQuestNonFFAConditionalItems index =
      (isListed loot.playerNonQuestNonFFAConditionalItems index ||
        decide (index ∈ conditionalPlaces w player loot)) := by
    intro index
    have hstore := isListed_storeList habsentMid (conditionalPlaces w player loot) index
    rw [hstored, hflagged.lists .conditional] at hstore
    exact hstore
  have htoTake : toTake loot' = toTake loot +
      (conditionalPlaces w player loot).countP (countsItem loot) := by
    have hitems : openItems loot' = openItems mid := by
      rw [← hstored]
      exact congrArg (List.countP openItem) (items_storeList _).1
    have hquest : openQuestItems loot' = openQuestItems loot := by
      have hlength : loot'.questItems.length = loot.questItems.length := by
        rw [← hstored, (items_storeList _).2, hcounted.questItems]
      simp only [openQuestItems, hlength, hquestLists, hquestPlaces]
    have hfreeQuest : openFreeQuest loot' = openFreeQuest loot := by
      simp only [openFreeQuest, isFreeQuestItem, hquestLists, hquestPlaces]
    rw [toTake, toTake, hitems, openItems_conditional hflagged.same hcounted, hquest, hffa,
      hfreeQuest]
    omega
  refine ⟨⟨tallied_count h ?_ htoTake, ?_, ?_⟩, htoTake⟩
  · rw [← hstored, unlootedCount_storeList]
    exact hcounted.count
  · intro index item' hitem' hfree hconditions
    rw [hplaces] at hitem'
    obtain ⟨item, hitem, hsame⟩ := hflagged.same.old hitem'
    have hflag := hcounted.counted index
    rw [hitem, hitem', Option.map_some, Option.map_some] at hflag
    rw [Option.some.inj hflag, hlisted, Bool.or_eq_true, Bool.or_eq_true]
    exact or_congr_left (h.counted hitem (hsame.freeforall ▸ hfree)
      (hsame.conditions ▸ hconditions))
  · intro index item hitem hblocked
    rw [hquestPlaces] at hitem
    rw [hquestLists]
    exact h.blocked hitem hblocked

/-! ### The filling for a player -/

variable {players : List Nat} {s : LootState}

theorem adds_fillLists (h : Tallied s.loot) (hlisted : Listed players s.loot)
    (hplayer : player ∉ players) (presentAtLooting : Bool)
    (hok : ListsOnce w s (player, presentAtLooting)) :
    Adds (newlyCounted w player s.loot) s.loot (s.loot.fillLists w player presentAtLooting) := by
  have hmissing : ∀ {lists : OrderedMap Nat (List QuestItem)}, lists.find? player = none →
      ¬ lists.contains player = true := by
    intro lists hnone
    rw [OrderedMap.contains, hnone]
    exact Bool.false_ne_true
  have habsent : ∀ kind, (s.loot.lists kind).find? player = none :=
    fun kind => hlisted.absent kind hplayer
  obtain ⟨hgets, -⟩ := getsList_fillQuestLoot (w := w) hlisted.length (habsent .quest)
  have hquest := adds_fillQuestLoot h hlisted.length (habsent .quest) hok.2
  have hitems : (s.loot.fillQuestLoot w player).items = s.loot.items := by
    obtain ⟨mid, heq, -, hcounted⟩ := fillQuestLoot_stores w player hlisted.length
    rw [heq, (items_storeList _).1, hcounted.items]
  have hmissingQuest : ¬ s.loot.playerQuestItems.contains player = true :=
    hmissing (habsent .quest)
  rw [fillLists, if_neg hmissingQuest]
  generalize s.loot.fillQuestLoot w player = first at *
  have habsentFree : (first.lists .ffa).find? player = none := by
    rw [hgets.kept (by decide)]
    exact habsent .ffa
  have hfree := adds_fillFFALoot (w := w) hquest.1 habsentFree
  obtain ⟨hgets', -⟩ := getsList_fillFFALoot (w := w) habsentFree
  have hitems' : (first.fillFFALoot w player).items = s.loot.items := by
    rw [fillFFALoot_eq, (items_storeList _).1]
    exact hitems
  have hmissingFree : ¬ first.playerFFAItems.contains player = true := hmissing habsentFree
  rw [if_neg hmissingFree]
  have hfreePlaces : first.freePlaces w player = s.loot.freePlaces w player := by
    rw [freePlaces, hitems, freePlaces]
  generalize first.fillFFALoot w player = second at *
  have habsentConditional : (second.lists .conditional).find? player = none := by
    rw [hgets'.kept (by decide), hgets.kept (by decide)]
    exact habsent .conditional
  have hconditional := adds_conditional (w := w) hfree.1 presentAtLooting habsentConditional
  have hmissingConditional : ¬ second.playerNonQuestNonFFAConditionalItems.contains player = true :=
    hmissing habsentConditional
  rw [if_neg hmissingConditional]
  have hsamePlaces : ∀ index, second.lootItem false index = s.loot.lootItem false index := by
    intro index
    rw [lootItem, lootItem, if_neg Bool.false_ne_true, if_neg Bool.false_ne_true, hitems']
  have htakes : takesConditionalItem w player second = takesConditionalItem w player s.loot := by
    funext index
    rw [takesConditionalItem, takesConditionalItem, hsamePlaces]
  have hcounts : countsItem second = countsItem s.loot := by
    funext index
    rw [countsItem, countsItem, hsamePlaces]
  refine ⟨hconditional.1, ?_⟩
  rw [hconditional.2, hfree.2, hquest.2, hfreePlaces, conditionalPlaces, hitems', htakes, hcounts,
    newlyCounted, conditionalPlaces]
  omega

/-- The pass over the currencies keeps the tally, for it finds each item by its record. -/
theorem Tallied.pass {before : Loot} {slots : Nat} (h : Tallied s.loot)
    (hpassing : Passing w player slots before 0 s) (hslots : slots ≤ maxNrLootItems) {count : Nat}
    (hcount : count ≤ slots) :
    Tallied ((List.range count).foldl (LootState.processCurrency w player) s).loot ∧
      toTake ((List.range count).foldl (LootState.processCurrency w player) s).loot ≤
        toTake s.loot := by
  induction count with
  | zero => exact ⟨h, le_rfl⟩
  | succ count ih =>
    rw [List.range_succ, List.foldl_append]
    have hbefore := hpassing.pass hslots (Nat.le_of_succ_le hcount)
    obtain ⟨htallied, hle⟩ := ih (Nat.le_of_succ_le hcount)
    generalize (List.range count).foldl (LootState.processCurrency w player) s = mid at *
    have hbound : count < UInt8.size := by
      have hmax : maxNrLootItems < UInt8.size := by decide
      omega
    rw [List.foldl_cons, List.foldl_nil, LootState.processCurrency]
    split
    · exact ⟨htallied, hle⟩
    · next item hplace =>
        split
        · next hgive =>
            simp only [Bool.and_eq_true, Bool.not_eq_true'] at hgive
            obtain ⟨⟨⟨hlooted, hfree⟩, hallowed⟩, -⟩ := hgive
            have hok : CountsDown mid (w, .storeLootItem (UInt8.ofNat count) player) := by
              rw [CountsDown, toNat_slot hbound]
              cases hstorable : mid.loot.storableItem w count player with
              | none => trivial
              | some found =>
                obtain ⟨slot, taken⟩ := found
                obtain ⟨hentry, hmark⟩ :=
                  hbefore.found hplace ⟨hlooted, hfree⟩ hallowed hstorable
                dsimp only
                split
                · exact hentry
                · next hnotFree =>
                    obtain ⟨hquest, hunlooted⟩ := hmark (Bool.eq_false_iff.mpr hnotFree)
                    exact ⟨hunlooted, Or.inl hquest⟩
            exact ⟨htallied.storeLootItem hok, (takes_storeLootItem hok).le.trans hle⟩
        · exact ⟨htallied, hle⟩

/-- The tally of a loot whose count fits. -/
structure StaysCounted (loot : Loot) : Prop where
  placed : Placed loot
  tallied : Tallied loot
  fits : toTake loot < UInt8.size

theorem StaysCounted.countsRight (h : StaysCounted loot) : CountsRight loot :=
  h.tallied.countsRight h.placed h.fits

theorem StaysCounted.filled {member : Nat × Bool} (h : StaysCounted s.loot)
    (hrecorded : Recorded s) (hlisted : Listed players s.loot) (hnew : member.1 ∉ players)
    (hok : ListsOnce w s member) : StaysCounted (fillFor w s member).loot := by
  have hplaced : Placed (fillFor w s member).loot :=
    h.placed.fillNotNormalLootFor hlisted hnew member.2
  have hadds := adds_fillLists h.tallied hlisted hnew member.2 hok
  have hfilled : Filled w member.1 s.loot (s.loot.fillLists w member.1 member.2) :=
    filled_fillLists hlisted.length fun kind => hlisted.absent kind hnew
  have hfits : toTake (s.loot.fillLists w member.1 member.2) < UInt8.size := by
    rw [hadds.2]
    exact hok.1
  suffices hcounted : Tallied (fillFor w s member).loot ∧
      toTake (fillFor w s member).loot < UInt8.size from ⟨hplaced, hcounted.1, hcounted.2⟩
  rw [fillFor, LootState.fillNotNormalLootFor]
  dsimp only
  split
  · have hpassing := passing_filled hrecorded hfilled fun kind => hlisted.absent kind hnew
    obtain ⟨htallied, hle⟩ := hadds.1.pass hpassing (getMaxSlot_le hfilled) le_rfl
    exact ⟨htallied, hle.trans_lt hfits⟩
  · exact ⟨hadds.1, hfits⟩

theorem StaysCounted.members {members before : List (Nat × Bool)} (h : StaysCounted s.loot)
    (hrecorded : Recorded s) (hlisted : Listed players s.loot)
    (hnodup : (members.map Prod.fst).Nodup) (hfresh : ∀ member ∈ members, member.1 ∉ players)
    (hok : Runs.Admissible (fillFor w) (ListsOnce w) s members) (hbefore : before <+: members) :
    StaysCounted (Runs.run (fillFor w) s before).loot := by
  induction members generalizing s players before with
  | nil =>
    rw [List.prefix_nil.mp hbefore]
    exact h
  | cons member rest ih =>
    rw [List.map_cons, List.nodup_cons] at hnodup
    have hnew := hfresh member List.mem_cons_self
    obtain ⟨hrecordedNext, hnext⟩ :=
      hrecorded.fillNotNormalLootFor (w := w) hlisted hnew member.2
    obtain rfl | ⟨later, rfl, hlater⟩ := List.prefix_cons_iff.mp hbefore
    · exact h
    · rw [Runs.run_cons]
      refine ih (h.filled hrecorded hlisted hnew hok.1) hrecordedNext hnext hnodup.2 ?_ hok.2
        hlater
      intro other hin hknown
      obtain heq | hold := List.mem_cons.mp hknown
      · exact hnodup.1 (heq ▸ List.mem_map_of_mem hin)
      · exact hfresh other (List.mem_cons_of_mem _ hin) hold

/-! ### The loot before the filling -/

/-- What is dropped is whole. -/
structure Whole (loot : Loot) : Prop where
  unlisted : Unlisted loot
  items : ∀ item ∈ loot.items, item.isLooted = false ∧ item.isCounted = false
  questItems : ∀ item ∈ loot.questItems, item.isBlocked = false
  count : loot.unlootedCount = UInt8.ofNat (openItems loot)

theorem Whole.pushItem (h : Whole loot) {li : LootStoreItem} {count : Nat}
    (hroom : loot.hasRoom li.needsQuest = true) :
    Whole (loot.pushItem (LootItem.ofStoreItem w li count)) := by
  have hunlisted : Unlisted (loot.pushItem (LootItem.ofStoreItem w li count)) := by
    have hadded := h.unlisted.addStacks w li count 1 count
    rw [addStacks, if_pos hroom, addStacks, Nat.min_self] at hadded
    exact hadded
  refine ⟨hunlisted, ?_, ?_, ?_⟩
  · intro item hin
    rw [Loot.pushItem] at hin
    split at hin
    · exact h.items item hin
    · obtain hold | hnew := List.mem_append.mp hin
      · exact h.items item hold
      · rw [List.mem_singleton.mp hnew]
        exact ⟨rfl, rfl⟩
  · intro item hin
    rw [Loot.pushItem] at hin
    split at hin
    · obtain hold | hnew := List.mem_append.mp hin
      · exact h.questItems item hold
      · rw [List.mem_singleton.mp hnew]
        rfl
    · exact h.questItems item hin
  · rw [Loot.pushItem]
    split
    · exact h.count
    · have hopen : openItem (LootItem.ofStoreItem w li count) =
          ((LootItem.ofStoreItem w li count).conditions.isEmpty &&
            !(LootItem.ofStoreItem w li count).freeforall) := by
        rw [openItem, Bool.and_comm]
        exact congrArg (· && _) (Bool.or_false _)
      rw [openItems]
      dsimp only
      rw [List.countP_append, List.countP_singleton, hopen, UInt8.ofNat_add, ← openItems,
        ← h.count]
      split
      · rfl
      · exact (UInt8.add_zero _).symm

theorem Whole.drops (w : World) (drops : List (LootStoreItem × Nat)) (h : Whole loot) :
    Whole (drops.foldl (addItem w) loot) := by
  have hstacks : ∀ (li : LootStoreItem) (maxStackSize stackCount count : Nat) {loot : Loot},
      Whole loot → Whole (loot.addStacks w li maxStackSize stackCount count) := by
    intro li maxStackSize stackCount
    induction stackCount with
    | zero => exact fun _ _ h => h
    | succ stackCount ih =>
      intro count loot h
      rw [addStacks]
      split
      · next hroom => exact ih _ (h.pushItem hroom)
      · exact h
  induction drops generalizing loot with
  | nil => exact h
  | cons drop rest ih =>
    apply ih
    rw [addItem]
    split
    · exact h
    · exact hstacks _ _ _ _ h

theorem Whole.staysCounted (h : Whole loot) : StaysCounted loot := by
  have hempty : ∀ kind, (loot.lists kind).entries = [] := fun kind =>
    congrArg OrderedMap.entries (h.unlisted.absent kind)
  have hnone : ∀ kind index, isListed (loot.lists kind) index = false := by
    intro kind index
    rw [isListed, hempty]
    rfl
  have hsum : ∀ kind (p : QuestItem → Bool),
      ((loot.lists kind).sumValues fun list => list.countP p) = 0 := by
    intro kind p
    rw [OrderedMap.sumValues, hempty]
    rfl
  have hquest : openQuestItems loot = 0 := by
    refine List.countP_eq_zero.mpr fun index _ => ?_
    have hnot : isListed loot.playerQuestItems index = false := hnone .quest index
    rw [hnot, Bool.and_false]
    exact Bool.false_ne_true
  have hffa : openFree loot.playerFFAItems = 0 := hsum .ffa _
  have hfreeQuest : openFreeQuest loot = 0 := hsum .quest _
  have htoTake : toTake loot = openItems loot := by
    rw [toTake, hquest, hffa, hfreeQuest]
    omega
  refine ⟨h.unlisted.placed, ⟨?_, ?_, ?_⟩, ?_⟩
  · rw [htoTake]
    exact h.count
  · intro index item hitem _ _
    have hnot : isListed loot.playerNonQuestNonFFAConditionalItems index = false :=
      hnone .conditional index
    rw [(h.items item (List.mem_of_getElem? hitem)).2, hnot]
  · intro index item hitem hblocked
    rw [h.questItems item (List.mem_of_getElem? hitem)] at hblocked
    cases hblocked
  · rw [htoTake]
    have hle : openItems loot ≤ maxNrLootItems := List.countP_le_length.trans h.unlisted.length
    exact hle.trans_lt (by decide)

/-! ### Every sequence of fillings and calls -/

theorem staysCounted_startLoot (w : World) (drops : List (LootStoreItem × Nat)) (lootOwner : Nat)
    (personal : Bool) : StaysCounted (startLoot w drops lootOwner personal) := by
  have hempty : Whole Loot.empty := by
    refine ⟨⟨Nat.zero_le _, fun kind => ?_⟩, ?_, ?_, rfl⟩
    · cases kind <;> rfl
    · exact fun item hin => absurd hin List.not_mem_nil
    · exact fun item hin => absurd hin List.not_mem_nil
  have hdropped : Whole (dropped w drops) := hempty.drops w drops
  rw [startLoot]
  split
  · exact hdropped.staysCounted
  · split
    · exact hdropped.staysCounted
    · exact Whole.staysCounted
        ⟨⟨hdropped.unlisted.length, hdropped.unlisted.absent⟩, hdropped.items,
          hdropped.questItems, hdropped.count⟩

theorem StaysCounted.markUnderthreshold (h : StaysCounted loot) (w : World) (group : Group) :
    StaysCounted { loot with items := loot.items.map (markUnderthreshold w group) } := by
  have hmarked := sameItems_markUnderthreshold w group loot
  have hitem : ∀ item, openItem (LootState.markUnderthreshold w group item) = openItem item := by
    intro item
    rw [LootState.markUnderthreshold]
    split
    · rfl
    · split <;> rfl
  have htoTake : toTake { loot with items := loot.items.map (LootState.markUnderthreshold w group) } =
      toTake loot := by
    have hopen : openItems { loot with
        items := loot.items.map (LootState.markUnderthreshold w group) } = openItems loot := by
      rw [openItems]
      dsimp only
      rw [List.countP_map]
      exact List.countP_congr fun item _ => iff_of_eq (congrArg (· = true) (hitem item))
    rw [toTake, hopen]
    rfl
  refine ⟨h.placed.flagged ⟨hmarked, fun _ => rfl⟩, ?_, ?_⟩
  · refine h.tallied.of_items ?_ (fun _ _ => rfl) ?_
    · rw [htoTake]
      exact h.tallied.count
    · intro isQuestItem index item' hitem'
      cases isQuestItem with
      | true => exact ⟨item', hitem', rfl, rfl, rfl, rfl⟩
      | false =>
        have hget : (loot.items.map (LootState.markUnderthreshold w group))[index]? =
          some item' := hitem'
        rw [List.getElem?_map] at hget
        obtain ⟨item, hold, rfl⟩ := Option.map_eq_some_iff.mp hget
        refine ⟨item, hold, ?_⟩
        rw [LootState.markUnderthreshold]
        split
        · exact ⟨rfl, rfl, rfl, rfl⟩
        · split <;> exact ⟨rfl, rfl, rfl, rfl⟩
  · rw [htoTake]
    exact h.fits

/-- When each filling counts a quest item once and fits, and each call takes something that was
counted and is left, the counter is right throughout. -/
theorem countsRight_of_run (w : World) (drops : List (LootStoreItem × Nat)) (lootOwner : Nat)
    (personal : Bool) {calls : List (World × LootCall)}
    (hfill : Runs.Admissible (fillFor w) (ListsOnce w) ⟨startLoot w drops lootOwner personal, []⟩
      (looters w lootOwner personal))
    (hcalls : Runs.Admissible step CountsDown (fillLoot w drops lootOwner personal) calls) :
    (∀ members, members <+: looters w lootOwner personal → CountsRight (Runs.run (fillFor w)
      ⟨startLoot w drops lootOwner personal, []⟩ members).loot) ∧
      ∀ before, before <+: calls →
        CountsRight (Runs.run step (fillLoot w drops lootOwner personal) before).loot := by
  have hunlisted := unlisted_startLoot w drops lootOwner personal
  have hmembers : ∀ members, members <+: looters w lootOwner personal → StaysCounted
      (Runs.run (fillFor w) ⟨startLoot w drops lootOwner personal, []⟩ members).loot := by
    intro members hbefore
    exact (staysCounted_startLoot w drops lootOwner personal).members hunlisted.recorded
      hunlisted.listed (nodup_looters w lootOwner personal) (fun _ _ => List.not_mem_nil) hfill
        hbefore
  have hfilled : StaysCounted (fillLoot w drops lootOwner personal).loot := by
    have hall := hmembers _ (List.prefix_refl _)
    obtain hcase | ⟨group, hcase⟩ := fillLoot_cases w drops lootOwner personal
    · rw [hcase]
      exact hall
    · rw [hcase _ rfl]
      exact hall.markUnderthreshold w group
  refine ⟨fun members hbefore => (hmembers members hbefore).countsRight, ?_⟩
  intro before hbefore
  have hinvariant : StaysCounted
      (Runs.run step (fillLoot w drops lootOwner personal) before).loot := by
    refine hcalls.invariant (P := fun s => StaysCounted s.loot) ?_ hfilled hbefore
    intro s call hs hok
    obtain ⟨htallied, hle⟩ := hs.tallied.step hok
    exact ⟨hs.placed.step call, htallied, hle.trans_lt hs.fits⟩
  exact hinvariant.countsRight

/-- A quest item that is on both lists is blocked, so it is counted once. -/
theorem countsRight_pairLoot :
    CountsRight (Runs.run step pairLoot [(pairWorld, .storeLootItem 0 1),
      (pairWorld, .storeLootItem 1 2)]).loot := by
  have hblocked : ∀ index ∈ questPlaces pairWorld 2 (fillFor pairWorld
      ⟨startLoot pairWorld [(⟨8, false, []⟩, 1), (⟨7, true, []⟩, 1)] 1 false, []⟩ (1, true)).loot,
        ((fillFor pairWorld ⟨startLoot pairWorld [(⟨8, false, []⟩, 1), (⟨7, true, []⟩, 1)] 1 false,
          []⟩ (1, true)).loot.lootItem true index).all LootItem.isBlocked = true := by
    decide +kernel
  have hfill : Runs.Admissible (fillFor pairWorld) (ListsOnce pairWorld)
      ⟨startLoot pairWorld [(⟨8, false, []⟩, 1), (⟨7, true, []⟩, 1)] 1 false, []⟩
        (looters pairWorld 1 false) := by
    refine ⟨⟨by decide +kernel, fun _ _ _ _ _ _ => rfl⟩, ⟨by decide +kernel, ?_⟩, trivial⟩
    intro index hin item hitem _ hnotBlocked
    have hall := hblocked index hin
    rw [hitem, Option.all_some, hnotBlocked] at hall
    cases hall
  have hcalls : Runs.Admissible step CountsDown
      (fillLoot pairWorld [(⟨8, false, []⟩, 1), (⟨7, true, []⟩, 1)] 1 false)
      [(pairWorld, .storeLootItem 0 1), (pairWorld, .storeLootItem 1 2)] :=
    ⟨⟨rfl, Or.inr (Or.inl rfl)⟩, ⟨rfl, Or.inl rfl⟩, trivial⟩
  exact (countsRight_of_run pairWorld _ 1 false hfill hcalls).2 _ (List.prefix_refl _)

/-- Both players take the quest item, and the loot is cleared with the plain item in it. -/
theorem cleared_with_item :
    isLooted (Runs.run step pairLoot [(pairWorld, .storeLootItem 1 1),
      (pairWorld, .storeLootItem 1 2)]).loot 0 = true ∧
        ¬ AllTaken (Runs.run step pairLoot [(pairWorld, .storeLootItem 1 1),
          (pairWorld, .storeLootItem 1 2)]).loot := by
  have hleft : (Runs.run step pairLoot [(pairWorld, .storeLootItem 1 1),
      (pairWorld, .storeLootItem 1 2)]).loot.items.any (fun item =>
        !item.isLooted && !item.freeforall && item.conditions.isEmpty) = true := by decide +kernel
  refine ⟨by decide +kernel, fun htaken => ?_⟩
  obtain ⟨item, hin, hplain⟩ := List.any_eq_true.mp hleft
  simp only [Bool.and_eq_true, Bool.not_eq_true', List.isEmpty_iff] at hplain
  obtain ⟨⟨hlooted, hfree⟩, hconditions⟩ := hplain
  rw [htaken.plain item hin hfree hconditions] at hlooted
  cases hlooted

end Cataclysm.Looting
