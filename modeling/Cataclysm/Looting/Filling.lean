import Cataclysm.Looting.Records

/-!
# The lists that the filling gives a player

The filling for a player sets flags and gives him lists of each kind. A list holds places of items
of its kind that nobody has taken, each once and without a mark; the list of free items covers all
that he may take, and the quest items fit in the slots behind the items.
-/

namespace Cataclysm.Looting

open Looting.Loot LootState

/-! ### Items that stay the same -/

variable {item item' : LootItem}

/-- The flags that the filling does not set. -/
structure SameItem (item item' : LootItem) : Prop where
  itemid : item'.itemid = item.itemid
  conditions : item'.conditions = item.conditions
  count : item'.count = item.count
  isLooted : item'.isLooted = item.isLooted
  freeforall : item'.freeforall = item.freeforall
  needsQuest : item'.needsQuest = item.needsQuest
  followLootRules : item'.followLootRules = item.followLootRules

theorem SameItem.refl (item : LootItem) : SameItem item item := ⟨rfl, rfl, rfl, rfl, rfl, rfl, rfl⟩

theorem SameItem.trans {item'' : LootItem} (h : SameItem item item') (h' : SameItem item' item'') :
    SameItem item item'' :=
  ⟨h'.itemid.trans h.itemid, h'.conditions.trans h.conditions, h'.count.trans h.count,
    h'.isLooted.trans h.isLooted, h'.freeforall.trans h.freeforall,
      h'.needsQuest.trans h.needsQuest, h'.followLootRules.trans h.followLootRules⟩

theorem SameItem.allowedForPlayer (h : SameItem item item') (w : World) (player : Nat) :
    item'.allowedForPlayer w player = item.allowedForPlayer w player := by
  rw [LootItem.allowedForPlayer, LootItem.allowedForPlayer, h.itemid, h.conditions, h.needsQuest]

/-- The same items in the same places. -/
def SameItems (loot loot' : Loot) : Prop :=
  ∀ isQuestItem index, Option.Rel SameItem (loot.lootItem isQuestItem index)
    (loot'.lootItem isQuestItem index)

theorem SameItems.refl (loot : Loot) : SameItems loot loot := by
  intro isQuestItem index
  cases loot.lootItem isQuestItem index with
  | none => exact .none
  | some item => exact .some (.refl item)

theorem SameItems.trans {loot loot' loot'' : Loot} (h : SameItems loot loot')
    (h' : SameItems loot' loot'') : SameItems loot loot'' := by
  intro isQuestItem index
  have hfirst := h isQuestItem index
  have hsecond := h' isQuestItem index
  generalize loot.lootItem isQuestItem index = found at *
  generalize loot'.lootItem isQuestItem index = found' at *
  generalize loot''.lootItem isQuestItem index = found'' at *
  cases hfirst with
  | none =>
    cases hsecond
    exact .none
  | some hsame =>
    cases hsecond with
    | some hsame' => exact .some (hsame.trans hsame')

theorem SameItems.old {loot loot' : Loot} (h : SameItems loot loot') {isQuestItem : Bool}
    {index : Nat} (hitem : loot'.lootItem isQuestItem index = some item') :
    ∃ item, loot.lootItem isQuestItem index = some item ∧ SameItem item item' := by
  have hrel := h isQuestItem index
  rw [hitem] at hrel
  generalize loot.lootItem isQuestItem index = found at hrel
  cases hrel with
  | some hsame => exact ⟨_, rfl, hsame⟩

theorem SameItems.new {loot loot' : Loot} (h : SameItems loot loot') {isQuestItem : Bool}
    {index : Nat} (hitem : loot.lootItem isQuestItem index = some item) :
    ∃ item', loot'.lootItem isQuestItem index = some item' ∧ SameItem item item' := by
  have hrel := h isQuestItem index
  rw [hitem] at hrel
  generalize loot'.lootItem isQuestItem index = found at hrel
  cases hrel with
  | some hsame => exact ⟨_, rfl, hsame⟩

theorem SameItems.length {loot loot' : Loot} (h : SameItems loot loot') :
    loot'.items.length = loot.items.length ∧ loot'.questItems.length = loot.questItems.length := by
  have hnone : ∀ isQuestItem index, loot'.lootItem isQuestItem index = none ↔
      loot.lootItem isQuestItem index = none := by
    intro isQuestItem index
    have hrel := h isQuestItem index
    generalize loot.lootItem isQuestItem index = found at *
    generalize loot'.lootItem isQuestItem index = found' at *
    cases hrel with
    | none => exact Iff.rfl
    | some _ => exact iff_of_false nofun nofun
  have hlength : ∀ items items' : List LootItem,
      (∀ index : Nat, items'[index]? = none ↔ items[index]? = none) →
        items'.length = items.length := by
    intro items items' hiff
    refine le_antisymm ?_ ?_
    · exact List.getElem?_eq_none_iff.mp ((hiff _).mpr (List.getElem?_eq_none le_rfl))
    · exact List.getElem?_eq_none_iff.mp ((hiff _).mp (List.getElem?_eq_none le_rfl))
  exact ⟨hlength _ _ (hnone false), hlength _ _ (hnone true)⟩

theorem sameItems_modifyItem (loot : Loot) (isQuestItem : Bool) (index : Nat)
    {f : LootItem → LootItem} (hf : ∀ item, SameItem item (f item)) :
    SameItems loot (loot.modifyItem isQuestItem index f) := by
  intro isQuestItem' index'
  rw [lootItem_modifyItem]
  split
  · next hplace =>
      rw [hplace.1, hplace.2]
      cases loot.lootItem isQuestItem index with
      | none => exact .none
      | some item => exact .some (hf item)
  · exact SameItems.refl loot isQuestItem' index'

theorem sameItems_markUnderthreshold (w : World) (group : Group) (loot : Loot) :
    SameItems loot { loot with items := loot.items.map (markUnderthreshold w group) } := by
  have hmark : ∀ item, SameItem item (markUnderthreshold w group item) := by
    intro item
    rw [markUnderthreshold]
    split
    · exact .refl item
    · split
      · exact ⟨rfl, rfl, rfl, rfl, rfl, rfl, rfl⟩
      · exact .refl item
  intro isQuestItem index
  cases isQuestItem with
  | true => exact SameItems.refl loot true index
  | false =>
    rw [lootItem, lootItem, if_neg Bool.false_ne_true, if_neg Bool.false_ne_true]
    dsimp only
    rw [List.getElem?_map]
    cases loot.items[index]? with
    | none => exact .none
    | some item => exact .some (hmark item)

/-! ### Places that are chosen -/

/-- The kind of the places that a list holds. -/
def ListKind.isQuest : ListKind → Bool
  | .quest => true
  | .ffa => false
  | .conditional => false

/-- What an item in a new list is like. -/
def Listable : ListKind → LootItem → Prop
  | .quest, item => item.isLooted = false
  | .ffa, item => item.isLooted = false ∧ item.freeforall = true
  | .conditional, item =>
    item.isLooted = false ∧ item.freeforall = false ∧ item.conditions ≠ []

theorem Listable.same {kind : ListKind} (hsame : SameItem item item') :
    Listable kind item' ↔ Listable kind item := by
  cases kind <;> simp only [Listable, hsame.isLooted, hsame.freeforall, hsame.conditions]

/-- New entries. -/
def entries (places : List Nat) : List QuestItem := places.map fun index => ⟨index, false⟩

theorem map_index_entries (places : List Nat) : (entries places).map QuestItem.index = places := by
  rw [entries, List.map_map]
  exact List.map_id places

/-- Only flags change. -/
structure Flagged (loot loot' : Loot) : Prop where
  same : SameItems loot loot'
  lists : ∀ kind, loot'.lists kind = loot.lists kind

theorem Flagged.refl (loot : Loot) : Flagged loot loot := ⟨.refl loot, fun _ => rfl⟩

theorem Flagged.trans {loot loot' loot'' : Loot} (h : Flagged loot loot')
    (h' : Flagged loot' loot'') : Flagged loot loot'' :=
  ⟨h.same.trans h'.same, fun kind => (h'.lists kind).trans (h.lists kind)⟩

theorem flagged_modifyItem (loot : Loot) (isQuestItem : Bool) (index : Nat)
    {f : LootItem → LootItem} (hf : ∀ item, SameItem item (f item)) :
    Flagged loot (loot.modifyItem isQuestItem index f) :=
  ⟨sameItems_modifyItem loot isQuestItem index hf, lists_modifyItem loot isQuestItem index f⟩

/-- Places of items of a kind are chosen, and only flags change. -/
structure Chosen (kind : ListKind) (loot loot' : Loot) (places chosen : List Nat) : Prop where
  sublist : chosen.Sublist places
  listable : ∀ index ∈ chosen, ∃ item, loot.lootItem kind.isQuest index = some item ∧
    Listable kind item
  flagged : Flagged loot loot'

variable {kind : ListKind} {loot mid loot' : Loot} {places chosen : List Nat}

theorem Chosen.nil (kind : ListKind) (loot : Loot) (places : List Nat) :
    Chosen kind loot loot places [] :=
  ⟨List.nil_sublist _, fun _ hin => absurd hin List.not_mem_nil, .refl loot⟩

/-- The first place is not chosen. -/
theorem Chosen.skip (h : Chosen kind mid loot' places chosen) (hflagged : Flagged loot mid)
    (place : Nat) : Chosen kind loot loot' (place :: places) chosen := by
  refine ⟨h.sublist.cons place, ?_, hflagged.trans h.flagged⟩
  intro index hin
  obtain ⟨item', hitem', hlistable⟩ := h.listable index hin
  obtain ⟨item, hitem, hsame⟩ := hflagged.same.old hitem'
  exact ⟨item, hitem, (Listable.same hsame).mp hlistable⟩

/-- The first place is chosen. -/
theorem Chosen.cons {place : Nat} (h : Chosen kind mid loot' places chosen)
    (hitem : loot.lootItem kind.isQuest place = some item) (hlistable : Listable kind item)
    (hflagged : Flagged loot mid) : Chosen kind loot loot' (place :: places) (place :: chosen) := by
  have hskip := h.skip hflagged place
  refine ⟨h.sublist.cons_cons place, ?_, hskip.flagged⟩
  intro index hin
  obtain rfl | hrest := List.mem_cons.mp hin
  · exact ⟨item, hitem, hlistable⟩
  · exact hskip.listable index hrest

theorem flagged_listQuestItem (w : World) (player i : Nat) (item : LootItem) (loot : Loot) :
    Flagged loot (loot.listQuestItem w player i item) := by
  have hcounted : Flagged loot
      (if item.freeforall || !item.isBlocked then loot.countUnlooted else loot) := by
    split
    · exact ⟨.refl loot, fun _ => rfl⟩
    · exact .refl loot
  rw [listQuestItem]
  split
  · apply hcounted.trans
    exact flagged_modifyItem _ true i fun item => ⟨rfl, rfl, rfl, rfl, rfl, rfl, rfl⟩
  · exact hcounted

theorem fillQuestLootFrom_spec (w : World) (player : Nat) (places : List Nat)
    (ql : List QuestItem) (loot : Loot) (hlength : loot.items.length + ql.length < maxNrLootItems) :
    ∃ chosen, (fillQuestLootFrom w player places ql loot).1 = ql ++ entries chosen ∧
      Chosen .quest loot (fillQuestLootFrom w player places ql loot).2 places chosen ∧
        loot.items.length + (ql.length + chosen.length) ≤ maxNrLootItems := by
  induction places generalizing ql loot with
  | nil => exact ⟨[], (List.append_nil _).symm, .nil .quest loot [], hlength.le⟩
  | cons place rest ih =>
    rw [fillQuestLootFrom]
    split
    · obtain ⟨chosen, hql, hchosen, hle⟩ := ih ql loot hlength
      exact ⟨chosen, hql, hchosen.skip (.refl loot) place, hle⟩
    · next item hitem =>
        split
        · next htake =>
            rw [Bool.and_eq_true, Bool.not_eq_true'] at htake
            have hflagged := flagged_listQuestItem w player place item loot
            have hitems : (loot.listQuestItem w player place item).items.length =
                loot.items.length := hflagged.same.length.1
            have hql : (ql ++ [(⟨place, false⟩ : QuestItem)]).length = ql.length + 1 :=
              List.length_append
            dsimp only
            split
            · next hfull =>
                rw [hitems, hql] at hfull
                exact ⟨[place], rfl, (Chosen.nil .quest _ rest).cons hitem htake.1 hflagged,
                  hfull.le⟩
            · next hroom =>
                rw [hitems, hql] at hroom
                have hlt : (loot.listQuestItem w player place item).items.length +
                    (ql ++ [(⟨place, false⟩ : QuestItem)]).length < maxNrLootItems := by
                  rw [hitems, hql]
                  omega
                obtain ⟨chosen, hfilled, hchosen, hle⟩ := ih _ _ hlt
                refine ⟨place :: chosen, ?_, hchosen.cons hitem htake.1 hflagged, ?_⟩
                · rw [hfilled, List.append_assoc]
                  rfl
                · rw [hitems, hql] at hle
                  rw [List.length_cons]
                  omega
        · obtain ⟨chosen, hql, hchosen, hle⟩ := ih ql loot hlength
          exact ⟨chosen, hql, hchosen.skip (.refl loot) place, hle⟩

theorem flagged_listConditionalItem (i : Nat) (item : LootItem) (loot : Loot) :
    Flagged loot (loot.listConditionalItem i item) := by
  rw [listConditionalItem]
  split
  · exact .refl loot
  · have hcounted : Flagged loot loot.countUnlooted := ⟨.refl loot, fun _ => rfl⟩
    apply hcounted.trans
    exact flagged_modifyItem _ false i fun item => ⟨rfl, rfl, rfl, rfl, rfl, rfl, rfl⟩

theorem fillConditionalLootFrom_spec (w : World) (player : Nat) (presentAtLooting : Bool)
    (places : List Nat) (ql : List QuestItem) (loot : Loot) :
    ∃ chosen, (fillConditionalLootFrom w player presentAtLooting places ql loot).1 =
        ql ++ entries chosen ∧
      Chosen .conditional loot (fillConditionalLootFrom w player presentAtLooting places ql loot).2
        places chosen := by
  induction places generalizing ql loot with
  | nil => exact ⟨[], (List.append_nil _).symm, .nil .conditional loot []⟩
  | cons place rest ih =>
    rw [fillConditionalLootFrom]
    split
    · obtain ⟨chosen, hql, hchosen⟩ := ih ql loot
      exact ⟨chosen, hql, hchosen.skip (.refl loot) place⟩
    · next item hitem =>
        split
        · next htake =>
            simp only [Bool.and_eq_true, Bool.not_eq_true'] at htake
            have hallowed : Flagged loot (if presentAtLooting then
                loot.modifyItem false place (addAllowedLooter player) else loot) := by
              split
              · exact flagged_modifyItem _ false place fun item =>
                  ⟨rfl, rfl, rfl, rfl, rfl, rfl, rfl⟩
              · exact .refl loot
            dsimp only
            generalize (if presentAtLooting then
              loot.modifyItem false place (addAllowedLooter player) else loot) = mid at hallowed
            split
            · obtain ⟨chosen, hql, hchosen⟩ := ih ql mid
              exact ⟨chosen, hql, hchosen.skip hallowed place⟩
            · next hconditions =>
                have hflagged := hallowed.trans (flagged_listConditionalItem place item mid)
                have hlistable : Listable .conditional item :=
                  ⟨htake.1.1, htake.1.2, fun hnil => hconditions (List.isEmpty_iff.mpr hnil)⟩
                obtain ⟨chosen, hql, hchosen⟩ :=
                  ih (ql ++ [⟨place, false⟩]) (mid.listConditionalItem place item)
                refine ⟨place :: chosen, ?_, hchosen.cons hitem hlistable hflagged⟩
                rw [hql, List.append_assoc]
                rfl
        · obtain ⟨chosen, hql, hchosen⟩ := ih ql loot
          exact ⟨chosen, hql, hchosen.skip (.refl loot) place⟩

/-! ### The lists of a player -/

variable {player : Nat} {w : World}

theorem listOf_insert (lists : OrderedMap Nat (List QuestItem)) (player : Nat)
    (list : List QuestItem) : listOf (lists.insert player list) player = list := by
  rw [listOf, OrderedMap.find?_insert_self, Option.getD_some]

theorem listOf_absent {lists : OrderedMap Nat (List QuestItem)} (h : lists.find? player = none) :
    listOf lists player = [] := by
  rw [listOf, h, Option.getD_none]

/-- The indexes of a list. -/
def indexes (lists : OrderedMap Nat (List QuestItem)) (player : Nat) : List Nat :=
  (listOf lists player).map QuestItem.index

/-- A player gets a list of a kind. -/
structure GetsList (kind : ListKind) (player : Nat) (loot loot' : Loot) : Prop where
  same : SameItems loot loot'
  kept : ∀ {other}, other ≠ kind → loot'.lists other = loot.lists other
  others : ∀ {other}, other ≠ player →
    (loot'.lists kind).find? other = (loot.lists kind).find? other
  list : listOf (loot'.lists kind) player = entries (indexes (loot'.lists kind) player)
  nodup : (indexes (loot'.lists kind) player).Nodup
  listable : ∀ index ∈ indexes (loot'.lists kind) player,
    ∃ item, loot.lootItem kind.isQuest index = some item ∧ Listable kind item

def withLists (loot : Loot) (lists : OrderedMap Nat (List QuestItem)) : ListKind → Loot
  | .quest => { loot with playerQuestItems := lists }
  | .ffa => { loot with playerFFAItems := lists }
  | .conditional => { loot with playerNonQuestNonFFAConditionalItems := lists }

theorem lists_withLists (loot : Loot) (lists : OrderedMap Nat (List QuestItem))
    (kind other : ListKind) :
    (withLists loot lists kind).lists other = if other = kind then lists else loot.lists other := by
  cases kind <;> cases other <;> rfl

theorem sameItems_withLists (loot : Loot) (lists : OrderedMap Nat (List QuestItem))
    (kind : ListKind) : SameItems loot (withLists loot lists kind) := by
  cases kind
  · exact .refl loot
  · exact .refl loot
  · exact .refl loot

/-- The chosen places become a list, unless there are none. -/
def storeList (loot : Loot) (kind : ListKind) (player : Nat) (ql : List QuestItem) : Loot :=
  if ql = [] then loot else withLists loot ((loot.lists kind).insert player ql) kind

theorem Chosen.getsList {count : Nat} (h : Chosen kind loot mid (List.range count) chosen)
    (habsent : (loot.lists kind).find? player = none) :
    GetsList kind player loot (storeList mid kind player (entries chosen)) ∧
      indexes ((storeList mid kind player (entries chosen)).lists kind) player = chosen := by
  have hmid : (mid.lists kind).find? player = none :=
    (congrArg (·.find? player) (h.flagged.lists kind)).trans habsent
  have hlist : listOf ((storeList mid kind player (entries chosen)).lists kind) player =
      entries chosen := by
    rw [storeList]
    split
    · next hempty => rw [hempty, listOf_absent hmid]
    · rw [lists_withLists, if_pos rfl, listOf_insert]
  have hindexes : indexes ((storeList mid kind player (entries chosen)).lists kind) player =
      chosen := by
    rw [indexes, hlist, map_index_entries]
  have hsame : SameItems mid (storeList mid kind player (entries chosen)) := by
    rw [storeList]
    split
    · exact .refl mid
    · exact sameItems_withLists _ _ _
  refine ⟨⟨h.flagged.same.trans hsame, ?_, ?_, ?_, ?_, ?_⟩, hindexes⟩
  · intro other hne
    rw [← h.flagged.lists other, storeList]
    split
    · rfl
    · rw [lists_withLists, if_neg hne]
  · intro other hne
    rw [← h.flagged.lists kind, storeList]
    split
    · rfl
    · rw [lists_withLists, if_pos rfl, OrderedMap.find?_insert, if_neg hne]
  · rw [hindexes, hlist]
  · rw [hindexes]
    exact h.sublist.nodup List.nodup_range
  · rw [hindexes]
    exact h.listable

theorem fillQuestLoot_eq (w : World) (player : Nat) (loot : Loot) :
    loot.fillQuestLoot w player = if loot.items.length = maxNrLootItems then loot else
      storeList (fillQuestLootFrom w player (List.range loot.questItems.length) [] loot).2 .quest
        player (fillQuestLootFrom w player (List.range loot.questItems.length) [] loot).1 := rfl

theorem getsList_fillQuestLoot (hlength : loot.items.length ≤ maxNrLootItems)
    (habsent : (loot.lists .quest).find? player = none) :
    GetsList .quest player loot (loot.fillQuestLoot w player) ∧
      loot.items.length + (indexes ((loot.fillQuestLoot w player).lists .quest) player).length ≤
        maxNrLootItems := by
  rw [fillQuestLoot_eq]
  split
  · have hstore : storeList loot .quest player (entries []) = loot := if_pos rfl
    have hgets := (Chosen.nil .quest loot (List.range 0)).getsList habsent
    rw [hstore] at hgets
    refine ⟨hgets.1, ?_⟩
    rw [hgets.2]
    exact hlength
  · next hroom =>
      have hlt : loot.items.length + ([] : List QuestItem).length < maxNrLootItems :=
        lt_of_le_of_ne hlength hroom
      obtain ⟨chosen, hql, hchosen, hle⟩ :=
        fillQuestLootFrom_spec w player (List.range loot.questItems.length) [] loot hlt
      rw [List.nil_append] at hql
      rw [List.length_nil, Nat.zero_add] at hle
      rw [hql]
      obtain ⟨hgets, hindexes⟩ := hchosen.getsList habsent
      refine ⟨hgets, ?_⟩
      rw [hindexes]
      exact hle

/-- The free items are counted. -/
def countFree (w : World) (player : Nat) (loot : Loot) : Loot :=
  { loot with
    unlootedCount := loot.unlootedCount + UInt8.ofNat (entries (loot.freePlaces w player)).length }

theorem fillFFALoot_eq (w : World) (player : Nat) (loot : Loot) :
    loot.fillFFALoot w player =
      storeList (countFree w player loot) .ffa player (entries (loot.freePlaces w player)) := rfl

theorem mem_freePlaces {index : Nat} :
    index ∈ loot.freePlaces w player ↔ ∃ item, loot.lootItem false index = some item ∧
      Listable .ffa item ∧ item.allowedForPlayer w player = true := by
  rw [freePlaces, List.mem_filter, List.mem_range]
  constructor
  · rintro ⟨-, hany⟩
    obtain ⟨item, hitem, hcase⟩ := (Option.any_eq_true _ _).mp hany
    simp only [Bool.and_eq_true, Bool.not_eq_true'] at hcase
    exact ⟨item, hitem, hcase.1, hcase.2⟩
  · rintro ⟨item, hitem, ⟨hlooted, hfree⟩, hallowed⟩
    have hget : loot.items[index]? = some item := hitem
    obtain ⟨hlt, -⟩ := List.getElem?_eq_some_iff.mp hget
    rw [hget, Option.any_some, hlooted, hfree, hallowed]
    exact ⟨hlt, rfl⟩

theorem getsList_fillFFALoot (habsent : (loot.lists .ffa).find? player = none) :
    GetsList .ffa player loot (loot.fillFFALoot w player) ∧
      indexes ((loot.fillFFALoot w player).lists .ffa) player = loot.freePlaces w player := by
  have hflagged : Flagged loot (countFree w player loot) := ⟨.refl loot, fun _ => rfl⟩
  have hchosen : Chosen .ffa loot (countFree w player loot) (List.range loot.items.length)
      (loot.freePlaces w player) := by
    refine ⟨List.filter_sublist, ?_, hflagged⟩
    intro index hin
    obtain ⟨item, hitem, hlistable, -⟩ := mem_freePlaces.mp hin
    exact ⟨item, hitem, hlistable⟩
  rw [fillFFALoot_eq]
  exact hchosen.getsList habsent

theorem fillNonQuestNonFFAConditionalLoot_eq (w : World) (player : Nat) (presentAtLooting : Bool)
    (loot : Loot) :
    loot.fillNonQuestNonFFAConditionalLoot w player presentAtLooting =
      storeList (fillConditionalLootFrom w player presentAtLooting (List.range loot.items.length)
        [] loot).2 .conditional player (fillConditionalLootFrom w player presentAtLooting
          (List.range loot.items.length) [] loot).1 := rfl

theorem getsList_fillNonQuestNonFFAConditionalLoot {presentAtLooting : Bool}
    (habsent : (loot.lists .conditional).find? player = none) :
    GetsList .conditional player loot
      (loot.fillNonQuestNonFFAConditionalLoot w player presentAtLooting) := by
  obtain ⟨chosen, hql, hchosen⟩ := fillConditionalLootFrom_spec w player presentAtLooting
    (List.range loot.items.length) [] loot
  rw [List.nil_append] at hql
  rw [fillNonQuestNonFFAConditionalLoot_eq, hql]
  exact (hchosen.getsList habsent).1

/-- What a player without lists gets. -/
structure Filled (w : World) (player : Nat) (loot loot' : Loot) : Prop where
  same : SameItems loot loot'
  others : ∀ kind {other}, other ≠ player →
    (loot'.lists kind).find? other = (loot.lists kind).find? other
  list : ∀ kind, listOf (loot'.lists kind) player = entries (indexes (loot'.lists kind) player)
  nodup : ∀ kind, (indexes (loot'.lists kind) player).Nodup
  listable : ∀ kind, ∀ index ∈ indexes (loot'.lists kind) player,
    ∃ item, loot.lootItem kind.isQuest index = some item ∧ Listable kind item
  room : loot.items.length + (indexes (loot'.lists .quest) player).length ≤ maxNrLootItems
  covers : ∀ {index item}, loot.lootItem false index = some item → Listable .ffa item →
    item.allowedForPlayer w player = true → index ∈ indexes (loot'.lists .ffa) player

theorem filled_fillLists {presentAtLooting : Bool} (hlength : loot.items.length ≤ maxNrLootItems)
    (habsent : ∀ kind, (loot.lists kind).find? player = none) :
    Filled w player loot (loot.fillLists w player presentAtLooting) := by
  have hmissing : ∀ {lists : OrderedMap Nat (List QuestItem)}, lists.find? player = none →
      ¬ lists.contains player = true := by
    intro lists hnone
    rw [OrderedMap.contains, hnone]
    exact Bool.false_ne_true
  have hquest : ¬ loot.playerQuestItems.contains player = true := hmissing (habsent .quest)
  obtain ⟨hgets, hroom⟩ := getsList_fillQuestLoot (w := w) hlength (habsent .quest)
  generalize hfirst : loot.fillQuestLoot w player = first at *
  have hffaFirst : first.lists .ffa = loot.lists .ffa := hgets.kept (by decide)
  have hconditionalFirst : first.lists .conditional = loot.lists .conditional :=
    hgets.kept (by decide)
  have habsentFree : (first.lists .ffa).find? player = none := by
    rw [hffaFirst]
    exact habsent .ffa
  have hfree : ¬ first.playerFFAItems.contains player = true := hmissing habsentFree
  obtain ⟨hgets', hfreePlaces⟩ := getsList_fillFFALoot (w := w) habsentFree
  generalize hsecond : first.fillFFALoot w player = second at *
  have hquestSecond : second.lists .quest = first.lists .quest := hgets'.kept (by decide)
  have hconditionalSecond : second.lists .conditional = loot.lists .conditional :=
    (hgets'.kept (by decide)).trans hconditionalFirst
  have habsentConditional : (second.lists .conditional).find? player = none := by
    rw [hconditionalSecond]
    exact habsent .conditional
  have hconditional : ¬ second.playerNonQuestNonFFAConditionalItems.contains player = true :=
    hmissing habsentConditional
  have hgets'' : GetsList .conditional player second
      (second.fillNonQuestNonFFAConditionalLoot w player presentAtLooting) :=
    getsList_fillNonQuestNonFFAConditionalLoot habsentConditional
  rw [fillLists, if_neg hquest, hfirst, if_neg hfree, hsecond, if_neg hconditional]
  generalize second.fillNonQuestNonFFAConditionalLoot w player presentAtLooting = third at *
  have hquestLists : third.lists .quest = first.lists .quest :=
    (hgets''.kept (by decide)).trans hquestSecond
  have hfreeLists : third.lists .ffa = second.lists .ffa := hgets''.kept (by decide)
  refine ⟨hgets.same.trans (hgets'.same.trans hgets''.same), ?_, ?_, ?_, ?_, ?_, ?_⟩
  · intro kind other hne
    cases kind with
    | quest =>
      rw [hquestLists]
      exact hgets.others hne
    | ffa =>
      rw [hfreeLists, hgets'.others hne, hffaFirst]
    | conditional => rw [hgets''.others hne, hconditionalSecond]
  · intro kind
    cases kind with
    | quest =>
      rw [hquestLists]
      exact hgets.list
    | ffa =>
      rw [hfreeLists]
      exact hgets'.list
    | conditional => exact hgets''.list
  · intro kind
    cases kind with
    | quest =>
      rw [hquestLists]
      exact hgets.nodup
    | ffa =>
      rw [hfreeLists]
      exact hgets'.nodup
    | conditional => exact hgets''.nodup
  · have hold : ∀ {before : Loot} {kind : ListKind} {index : Nat}, SameItems loot before →
        (∃ item, before.lootItem kind.isQuest index = some item ∧ Listable kind item) →
          ∃ item, loot.lootItem kind.isQuest index = some item ∧ Listable kind item := by
      rintro before kind index hsame ⟨item', hitem', hlistable⟩
      obtain ⟨item, hitem, hsameItem⟩ := hsame.old hitem'
      exact ⟨item, hitem, (Listable.same hsameItem).mp hlistable⟩
    intro kind index hin
    cases kind with
    | quest =>
      rw [hquestLists] at hin
      exact hgets.listable index hin
    | ffa =>
      rw [hfreeLists] at hin
      exact hold hgets.same (hgets'.listable index hin)
    | conditional => exact hold (hgets.same.trans hgets'.same) (hgets''.listable index hin)
  · rw [hquestLists]
    exact hroom
  · intro index item hitem hlistable hallowed
    obtain ⟨item', hitem', hsameItem⟩ := hgets.same.new hitem
    rw [hfreeLists, hfreePlaces]
    refine mem_freePlaces.mpr ⟨item', hitem', (Listable.same hsameItem).mpr hlistable, ?_⟩
    rw [hsameItem.allowedForPlayer]
    exact hallowed

end Cataclysm.Looting
