import Cataclysm.Lib.Counting
import Cataclysm.Looting.LootView

/-!
# The counter of what is left

The loot counts what is left to take in eight bits: a plain item from when it is dropped, an item
with conditions or a quest item from when it comes on some list, and an item that is free for all
once for each list that it is on. The counter agrees with what is left as long as no quest item is
counted twice, each call takes something that was counted, and the count fits.

## Implementation notes

Only the money opcode changes the gold of a loot, so it is a parameter.
-/

namespace Cataclysm.Looting

open Looting.Loot LootState

/-! ### What is left -/

/-- An item that is counted and left. -/
def openItem (item : LootItem) : Bool :=
  !item.isLooted && !item.freeforall && (item.conditions.isEmpty || item.isCounted)

def openQuestItem (item : LootItem) : Bool := !item.isLooted && !item.freeforall

def isListed (lists : OrderedMap Nat (List QuestItem)) (index : Nat) : Bool :=
  lists.entries.any fun e => e.2.any fun entry => entry.index == index

def isFreeQuestItem (loot : Loot) (index : Nat) : Bool :=
  (loot.lootItem true index).any fun item => item.freeforall

def openItems (loot : Loot) : Nat := loot.items.countP openItem

def openQuestItems (loot : Loot) : Nat :=
  (List.range loot.questItems.length).countP fun index =>
    (loot.lootItem true index).any openQuestItem && isListed loot.playerQuestItems index

def openFree (lists : OrderedMap Nat (List QuestItem)) : Nat :=
  lists.sumValues fun list => list.countP fun entry => !entry.isLooted

def openFreeQuest (loot : Loot) : Nat :=
  loot.playerQuestItems.sumValues fun list =>
    list.countP fun entry => !entry.isLooted && isFreeQuestItem loot entry.index

/-- The number of things that the players may still take. -/
def toTake (loot : Loot) : Nat :=
  openItems loot + openQuestItems loot + openFree loot.playerFFAItems + openFreeQuest loot

def isLooted (loot : Loot) (gold : Nat) : Bool := gold == 0 && loot.unlootedCount == 0

/-- Every plain item is looted, every item with conditions and every quest item that is on a list,
and each player took the free items on his lists. -/
structure AllTaken (loot : Loot) : Prop where
  plain : ∀ item ∈ loot.items, item.freeforall = false → item.conditions = [] →
    item.isLooted = true
  conditional : ∀ player, ∀ index ∈ indexes (loot.lists .conditional) player, ∀ item,
    loot.lootItem false index = some item → item.isLooted = true
  quest : ∀ player, ∀ index ∈ indexes (loot.lists .quest) player, ∀ item,
    loot.lootItem true index = some item → item.freeforall = false → item.isLooted = true
  free : ∀ player, ∀ entry ∈ listOf (loot.lists .ffa) player, entry.isLooted = true
  freeQuest : ∀ player, ∀ entry ∈ listOf (loot.lists .quest) player, ∀ item,
    loot.lootItem true entry.index = some item → item.freeforall = true → entry.isLooted = true

/-- The counter is the number of things that are left, and it says when the loot is looted. -/
structure CountsRight (loot : Loot) : Prop where
  exact : loot.unlootedCount.toNat = toTake loot
  isLooted : ∀ gold, isLooted loot gold = true ↔ gold = 0 ∧ AllTaken loot

/-! ### What the calls ask -/

def takesQuestItem (w : World) (player : Nat) (loot : Loot) (index : Nat) : Bool :=
  (loot.lootItem true index).any fun item => !item.isLooted && item.isFor w player

/-- `FillQuestLoot` counts the item when it comes on one more list. -/
def countsQuestItem (loot : Loot) (index : Nat) : Bool :=
  (loot.lootItem true index).any fun item => item.freeforall || !item.isBlocked

def takesConditionalItem (w : World) (player : Nat) (loot : Loot) (index : Nat) : Bool :=
  (loot.lootItem false index).any fun item =>
    (!item.isLooted && !item.freeforall && item.isFor w player) && !item.conditions.isEmpty

def countsItem (loot : Loot) (index : Nat) : Bool :=
  (loot.lootItem false index).any fun item => !item.isCounted

/-- The places of the quest items that come on the list of a player, up to the room. -/
def questPlaces (w : World) (player : Nat) (loot : Loot) : List Nat :=
  ((List.range loot.questItems.length).filter (takesQuestItem w player loot)).take
    (maxNrLootItems - loot.items.length)

/-- The places of the items that come on his list of items with conditions. -/
def conditionalPlaces (w : World) (player : Nat) (loot : Loot) : List Nat :=
  (List.range loot.items.length).filter (takesConditionalItem w player loot)

/-- The number of things that the filling for a player counts. -/
def newlyCounted (w : World) (player : Nat) (loot : Loot) : Nat :=
  (questPlaces w player loot).countP (countsQuestItem loot) +
    (loot.freePlaces w player).length +
      (conditionalPlaces w player loot).countP (countsItem loot)

/-- The filling for a member counts a quest item that is on a list for its own list only, and the
count fits. -/
def ListsOnce (w : World) (s : LootState) (member : Nat × Bool) : Prop :=
  toTake s.loot + newlyCounted w member.1 s.loot < UInt8.size ∧
    ∀ index ∈ questPlaces w member.1 s.loot, ∀ item, s.loot.lootItem true index = some item →
      item.freeforall = false → item.isBlocked = false →
        isListed s.loot.playerQuestItems index = false

/-- A call takes something that was counted and is left. -/
def CountsDown (s : LootState) : World × LootCall → Prop
  | (w, .storeLootItem lootSlot player) =>
    match s.loot.storableItem w lootSlot.toNat player with
    | none => True
    | some (slot, item) =>
      if item.freeforall then (slot.qitem.or slot.ffaitem).isSome = true
      else item.isLooted = false ∧
        (slot.isQuestItem = true ∨ item.conditions = [] ∨ item.isCounted = true)
  | (w, .lootMasterGive player slotid target) =>
    match s.loot.giveableItem w player slotid.toNat target with
    | none => True
    | some (slot, item) =>
      item.freeforall = false ∧ item.isLooted = false ∧
        if slot.isQuestItem then isListed s.loot.playerQuestItems slot.index = true
        else item.conditions = [] ∨ item.isCounted = true

/-! ### The invariant -/

variable {lists : OrderedMap Nat (List QuestItem)}

/-- The counter, modulo its size, and the flags of what was counted. -/
structure Tallied (loot : Loot) : Prop where
  count : loot.unlootedCount = UInt8.ofNat (toTake loot)
  counted : ∀ {index item}, loot.lootItem false index = some item → item.freeforall = false →
    item.conditions ≠ [] →
      (item.isCounted = true ↔ isListed loot.playerNonQuestNonFFAConditionalItems index = true)
  blocked : ∀ {index item}, loot.lootItem true index = some item → item.isBlocked = true →
    isListed loot.playerQuestItems index = true

theorem isListed_iff {index : Nat} :
    isListed lists index = true ↔ ∃ player, index ∈ indexes lists player := by
  rw [isListed, List.any_eq_true]
  constructor
  · rintro ⟨⟨player, list⟩, hin, hany⟩
    obtain ⟨entry, hentry, heq⟩ := List.any_eq_true.mp hany
    have hlist : listOf lists player = list := by
      rw [listOf, OrderedMap.find?_eq_some_iff.mpr hin, Option.getD_some]
    refine ⟨player, ?_⟩
    rw [indexes, hlist]
    exact List.mem_map.mpr ⟨entry, hentry, beq_iff_eq.mp heq⟩
  · rintro ⟨player, hin⟩
    rw [indexes, listOf] at hin
    cases hfind : lists.find? player with
    | none =>
      rw [hfind] at hin
      cases hin
    | some list =>
      rw [hfind, Option.getD_some] at hin
      obtain ⟨entry, hentry, heq⟩ := List.mem_map.mp hin
      exact ⟨(player, list), OrderedMap.find?_eq_some_iff.mp hfind,
        List.any_eq_true.mpr ⟨entry, hentry, beq_iff_eq.mpr heq⟩⟩

theorem isListed_congr {lists' : OrderedMap Nat (List QuestItem)}
    (h : ∀ player, indexes lists' player = indexes lists player) (index : Nat) :
    isListed lists' index = isListed lists index := by
  rw [Bool.eq_iff_iff, isListed_iff, isListed_iff]
  exact exists_congr fun player => by rw [h]

/-- The sum over the lists is zero when it is for every player. -/
theorem sumValues_eq_zero_iff_listOf {p : QuestItem → Bool} :
    (lists.sumValues fun list => list.countP p) = 0 ↔
      ∀ player, ∀ entry ∈ listOf lists player, p entry = false := by
  rw [OrderedMap.sumValues_eq_zero_iff]
  constructor
  · intro h player entry hin
    rw [listOf] at hin
    cases hfind : lists.find? player with
    | none =>
      rw [hfind] at hin
      cases hin
    | some list =>
      rw [hfind, Option.getD_some] at hin
      have hzero := h (player, list) (OrderedMap.find?_eq_some_iff.mp hfind)
      exact Bool.eq_false_iff.mpr (List.countP_eq_zero.mp hzero entry hin)
  · rintro h ⟨player, list⟩ hin
    refine List.countP_eq_zero.mpr fun entry hentry => Bool.eq_false_iff.mp (h player entry ?_)
    rw [listOf, OrderedMap.find?_eq_some_iff.mpr hin, Option.getD_some]
    exact hentry

theorem toTake_eq_zero_iff {loot : Loot} (h : Tallied loot) (hplaced : Placed loot) :
    toTake loot = 0 ↔ AllTaken loot := by
  rw [toTake, Nat.add_eq_zero_iff, Nat.add_eq_zero_iff, Nat.add_eq_zero_iff, openItems,
    List.countP_eq_zero, openQuestItems, List.countP_eq_zero, openFree,
    sumValues_eq_zero_iff_listOf, openFreeQuest, sumValues_eq_zero_iff_listOf]
  constructor
  · rintro ⟨⟨⟨hitems, hquest⟩, hfree⟩, hfreeQuest⟩
    constructor
    · intro item hin hnotFree hnil
      have hclosed := hitems item hin
      rw [openItem, hnotFree, hnil] at hclosed
      simpa using hclosed
    · intro player index hin item hitem
      obtain ⟨found, hfound, hkind⟩ := hplaced.placed .conditional player index hin
      have heq : found = item := Option.some.inj (hfound.symm.trans hitem)
      rw [heq] at hkind
      have hcounted := (h.counted hitem hkind.1 hkind.2).mpr (isListed_iff.mpr ⟨player, hin⟩)
      have hclosed := hitems item (List.mem_of_getElem? hitem)
      rw [openItem, hkind.1, hcounted] at hclosed
      simpa using hclosed
    · intro player index hin item hitem hnotFree
      have hget : loot.questItems[index]? = some item := hitem
      have hlisted : isListed loot.playerQuestItems index = true :=
        isListed_iff.mpr ⟨player, hin⟩
      have hclosed := hquest index (List.mem_range.mpr (List.getElem?_eq_some_iff.mp hget).1)
      rw [hitem, Option.any_some, openQuestItem, hnotFree, hlisted] at hclosed
      simpa using hclosed
    · intro player entry hin
      simpa using hfree player entry hin
    · intro player entry hin item hitem hisFree
      have hclosed := hfreeQuest player entry hin
      rw [isFreeQuestItem, hitem, Option.any_some, hisFree] at hclosed
      simpa using hclosed
  · intro htaken
    refine ⟨⟨⟨?_, ?_⟩, ?_⟩, ?_⟩
    · intro item hin hopen
      rw [openItem, Bool.and_eq_true, Bool.and_eq_true, Bool.not_eq_true', Bool.not_eq_true',
        Bool.or_eq_true, List.isEmpty_iff] at hopen
      obtain ⟨⟨hnotLooted, hnotFree⟩, hcase⟩ := hopen
      by_cases hnil : item.conditions = []
      · rw [htaken.plain item hin hnotFree hnil] at hnotLooted
        cases hnotLooted
      · obtain ⟨index, hitem⟩ := List.getElem?_of_mem hin
        have hplace : loot.lootItem false index = some item := hitem
        obtain ⟨player, hlisted⟩ := isListed_iff.mp
          ((h.counted hplace hnotFree hnil).mp (hcase.resolve_left hnil))
        rw [htaken.conditional player index hlisted item hplace] at hnotLooted
        cases hnotLooted
    · intro index _ hopen
      rw [Bool.and_eq_true] at hopen
      obtain ⟨item, hitem, hopenItem⟩ := (Option.any_eq_true _ _).mp hopen.1
      rw [openQuestItem, Bool.and_eq_true, Bool.not_eq_true', Bool.not_eq_true'] at hopenItem
      obtain ⟨player, hlisted⟩ := isListed_iff.mp hopen.2
      rw [htaken.quest player index hlisted item hitem hopenItem.2] at hopenItem
      cases hopenItem.1
    · intro player entry hin
      rw [htaken.free player entry hin]
      rfl
    · intro player entry hin
      cases hitem : loot.lootItem true entry.index with
      | none => rw [isFreeQuestItem, hitem, Option.any_none, Bool.and_false]
      | some item =>
        cases hisFree : item.freeforall with
        | false => rw [isFreeQuestItem, hitem, Option.any_some, hisFree, Bool.and_false]
        | true =>
          rw [htaken.freeQuest player entry hin item hitem hisFree]
          rfl

/-- When the count fits, it says all. -/
theorem Tallied.countsRight {loot : Loot} (h : Tallied loot) (hplaced : Placed loot)
    (hfits : toTake loot < UInt8.size) : CountsRight loot := by
  have hexact : loot.unlootedCount.toNat = toTake loot := by
    rw [h.count, toNat_slot hfits]
  refine ⟨hexact, fun gold => ?_⟩
  have hzero : loot.unlootedCount = 0 ↔ toTake loot = 0 := by
    rw [← hexact, ← UInt8.toNat_inj]
    rfl
  rw [isLooted, Bool.and_eq_true, beq_iff_eq, beq_iff_eq, hzero, toTake_eq_zero_iff h hplaced]

/-! ### One item or one entry changes -/

/-- An item of a place is counted and left. -/
def openAt (loot : Loot) (isQuestItem : Bool) (index : Nat) (item : LootItem) : Bool :=
  if isQuestItem then openQuestItem item && isListed loot.playerQuestItems index else openItem item

variable {w : World} {loot : Loot} {isQuestItem : Bool} {index player : Nat}

variable {item : LootItem} {lootSlot : Nat} {slot : SlotItem}

theorem toTake_modifyItem (hitem : loot.lootItem isQuestItem index = some item)
    {f : LootItem → LootItem} (hfree : ∀ item, (f item).freeforall = item.freeforall) :
    toTake (loot.modifyItem isQuestItem index f) +
        (if openAt loot isQuestItem index item then 1 else 0) =
      toTake loot + if openAt loot isQuestItem index (f item) then 1 else 0 := by
  cases isQuestItem with
  | false =>
    have hget : loot.items[index]? = some item := hitem
    have hitems := Counting.countP_modify hget f openItem
    have hquest : openQuestItems (loot.modifyItem false index f) = openQuestItems loot := rfl
    have hfreeQuest : openFreeQuest (loot.modifyItem false index f) = openFreeQuest loot := rfl
    have hopen : openItems (loot.modifyItem false index f) =
        (loot.items.modify index f).countP openItem := rfl
    have hffa : (loot.modifyItem false index f).playerFFAItems = loot.playerFFAItems := rfl
    rw [toTake, toTake, hquest, hfreeQuest, hopen, hffa, openAt, openAt,
      if_neg Bool.false_ne_true, if_neg Bool.false_ne_true]
    unfold openItems
    omega
  | true =>
    have hget : loot.questItems[index]? = some item := hitem
    have hlt : index < loot.questItems.length := (List.getElem?_eq_some_iff.mp hget).1
    have hplaces := lootItem_modifyItem loot true true index
    have hitems : openItems (loot.modifyItem true index f) = openItems loot := rfl
    have hffa : (loot.modifyItem true index f).playerFFAItems = loot.playerFFAItems := rfl
    have hfreeItem : ∀ other, isFreeQuestItem (loot.modifyItem true index f) other =
        isFreeQuestItem loot other := by
      intro other
      rw [isFreeQuestItem, hplaces other f, isFreeQuestItem]
      split
      · next hplace =>
          rw [hplace.2, hitem, Option.map_some, Option.any_some, Option.any_some, hfree]
      · rfl
    have hfreeQuest : openFreeQuest (loot.modifyItem true index f) = openFreeQuest loot := by
      simp only [openFreeQuest, hfreeItem]
      rfl
    have hlength : (loot.modifyItem true index f).questItems.length = loot.questItems.length :=
      List.length_modify ..
    have hsame : ∀ other, other ≠ index →
        (((loot.modifyItem true index f).lootItem true other).any openQuestItem &&
          isListed loot.playerQuestItems other) =
            ((loot.lootItem true other).any openQuestItem &&
              isListed loot.playerQuestItems other) := by
      intro other hne
      rw [hplaces other f, if_neg fun h => hne h.2]
    have hquest := Counting.countP_range_of_ne hlt hsame
    have hopen : openQuestItems (loot.modifyItem true index f) =
        (List.range loot.questItems.length).countP fun other =>
          ((loot.modifyItem true index f).lootItem true other).any openQuestItem &&
            isListed loot.playerQuestItems other := by
      rw [openQuestItems, hlength]
      rfl
    beta_reduce at hquest
    rw [hplaces index f, if_pos (And.intro rfl rfl), hitem, Option.map_some, Option.any_some,
      Option.any_some] at hquest
    rw [toTake, toTake, hitems, hffa, hfreeQuest, hopen, openAt, openAt, if_pos rfl, if_pos rfl]
    unfold openQuestItems
    omega

theorem sumValues_markEntry {position : Nat} {entry : QuestItem}
    (hentry : (listOf lists player)[position]? = some entry) (p : QuestItem → Bool) :
    ((markEntry lists player position).sumValues fun list => list.countP p) +
        (if p entry then 1 else 0) =
      (lists.sumValues fun list => list.countP p) +
        if p { entry with isLooted := true } then 1 else 0 := by
  rw [listOf] at hentry
  rw [markEntry]
  cases hfind : lists.find? player with
  | none =>
    rw [hfind] at hentry
    cases hentry
  | some list =>
    rw [hfind, Option.getD_some] at hentry
    have hlist := Counting.countP_modify hentry (fun entry => { entry with isLooted := true }) p
    have hsum := OrderedMap.sumValues_insert lists player
      (list.modify position fun entry => { entry with isLooted := true })
      fun list => list.countP p
    rw [hfind, Option.map_some, Option.getD_some] at hsum
    dsimp only at hsum ⊢
    omega

theorem lootItemInSlot_cases (hslot : loot.lootItemInSlot lootSlot player = some slot) :
    (∃ position index, slot = ⟨true, index, some position, none, none⟩ ∧
      (listOf loot.playerQuestItems player)[position]? = some ⟨index, false⟩) ∨
        ∃ item, loot.items[lootSlot]? = some item ∧
          ((∃ position, slot = ⟨false, lootSlot, none, some position, none⟩ ∧
            (listOf loot.playerFFAItems player)[position]? = some ⟨lootSlot, false⟩ ∧
              item.freeforall = true) ∨
              ∃ conditem, slot = ⟨false, lootSlot, none, none, conditem⟩) := by
  rw [lootItemInSlot] at hslot
  split at hslot
  · dsimp only at hslot
    split at hslot
    · cases hslot
    · next qitem hqitem =>
        split at hslot
        · cases hslot
        · next hlooted =>
            cases hslot
            rw [Bool.not_eq_true] at hlooted
            refine Or.inl ⟨_, _, rfl, hqitem.trans ?_⟩
            rw [← hlooted]
  · next item hitem =>
      refine Or.inr ⟨item, hitem, ?_⟩
      split at hslot
      · next hisFree =>
        split at hslot
        · split at hslot
          · cases hslot
          · cases hslot
            exact Or.inr ⟨_, rfl⟩
        · next position isLooted hfound =>
            split at hslot
            · cases hslot
            · next hlooted =>
                cases hslot
                rw [Bool.not_eq_true] at hlooted
                rw [hlooted] at hfound
                exact Or.inl ⟨position, rfl, entryFor_eq_some hfound, hisFree⟩
      · split at hslot
        · split at hslot
          · cases hslot
          · cases hslot
            exact Or.inr ⟨_, rfl⟩
        · split at hslot
          · split at hslot
            · cases hslot
            · cases hslot
              exact Or.inr ⟨_, rfl⟩
          · split at hslot
            · cases hslot
            · cases hslot
              exact Or.inr ⟨_, rfl⟩

/-- The marks of a call count down for an item that is free for all only. -/
theorem toTake_markEntries (hslot : loot.lootItemInSlot lootSlot player = some slot)
    (hitem : loot.lootItem slot.isQuestItem slot.index = some item)
    (hentry : item.freeforall = true → (slot.qitem.or slot.ffaitem).isSome = true) :
    toTake (loot.markEntries player slot) + (if item.freeforall then 1 else 0) = toTake loot := by
  obtain ⟨position, index, rfl, hat⟩ | ⟨found, hfound, ⟨position, rfl, hat, hisFree⟩ |
    ⟨conditem, rfl⟩⟩ := lootItemInSlot_cases hslot
  · have hsum := sumValues_markEntry hat fun entry =>
      !entry.isLooted && isFreeQuestItem loot entry.index
    have hquestItem : loot.lootItem true index = some item := hitem
    have hisFree : isFreeQuestItem loot index = item.freeforall := by
      rw [isFreeQuestItem, hquestItem, Option.any_some]
    have hlisted : openQuestItems (loot.markEntries player ⟨true, index, some position, none, none⟩)
        = openQuestItems loot := by
      have hsame := isListed_congr (map_index_markEntry loot.playerQuestItems player position)
      refine List.countP_congr fun other _ => ?_
      exact iff_of_eq (congrArg (· = true) (congrArg (_ && ·) (hsame other)))
    simp only [hisFree, Bool.not_false, Bool.true_and, Bool.not_true, Bool.false_and,
      Bool.false_eq_true, if_false, Nat.add_zero] at hsum
    calc
      toTake (loot.markEntries player ⟨true, index, some position, none, none⟩) +
            (if item.freeforall then 1 else 0) =
          openItems loot + openQuestItems loot + openFree loot.playerFFAItems +
            (((markEntry loot.playerQuestItems player position).sumValues fun list =>
              list.countP fun entry => !entry.isLooted && isFreeQuestItem loot entry.index) +
                if item.freeforall then 1 else 0) := by
        rw [toTake, hlisted, ← Nat.add_assoc]
        rfl
      _ = toTake loot := by
        rw [hsum]
        rfl
  · have hsum := sumValues_markEntry hat fun entry => !entry.isLooted
    have heq : item = found := Option.some.inj (hitem.symm.trans hfound)
    simp only [Bool.not_false, Bool.not_true, Bool.false_eq_true, if_false, if_true,
      Nat.add_zero] at hsum
    rw [heq, hisFree, if_pos rfl]
    calc
      toTake (loot.markEntries player ⟨false, lootSlot, none, some position, none⟩) + 1 =
          openItems loot + openQuestItems loot +
            (((markEntry loot.playerFFAItems player position).sumValues fun list =>
              list.countP fun entry => !entry.isLooted) + 1) + openFreeQuest loot := by
        have hmarked : toTake (loot.markEntries player ⟨false, lootSlot, none, some position,
            none⟩) = openItems loot + openQuestItems loot +
              ((markEntry loot.playerFFAItems player position).sumValues fun list =>
                list.countP fun entry => !entry.isLooted) + openFreeQuest loot := rfl
        omega
      _ = toTake loot := by
        rw [hsum]
        rfl
  · cases hfree : item.freeforall with
    | true => exact absurd (hentry hfree) Bool.false_ne_true
    | false =>
      cases conditem with
      | none => rfl
      | some position => rfl

/-! ### A call -/

variable {s : LootState}

/-- The flags of what was counted stay. -/
theorem Tallied.of_items {loot' : Loot} (h : Tallied loot)
    (hcount : loot'.unlootedCount = UInt8.ofNat (toTake loot'))
    (hlists : ∀ kind player, indexes (loot'.lists kind) player = indexes (loot.lists kind) player)
    (hitems : ∀ {isQuestItem index item'}, loot'.lootItem isQuestItem index = some item' →
      ∃ item, loot.lootItem isQuestItem index = some item ∧ item'.freeforall = item.freeforall ∧
        item'.conditions = item.conditions ∧ item'.isCounted = item.isCounted ∧
          item'.isBlocked = item.isBlocked) : Tallied loot' := by
  refine ⟨hcount, ?_, ?_⟩
  · intro index item' hitem' hfree hconditions
    obtain ⟨item, hitem, hfree', hconditions', hcounted, -⟩ := hitems hitem'
    have hlisted : isListed loot'.playerNonQuestNonFFAConditionalItems index =
        isListed loot.playerNonQuestNonFFAConditionalItems index :=
      isListed_congr (hlists .conditional) index
    rw [hcounted, hlisted]
    exact h.counted hitem (hfree' ▸ hfree) (hconditions' ▸ hconditions)
  · intro index item' hitem' hblocked
    obtain ⟨item, hitem, -, -, -, hblocked'⟩ := hitems hitem'
    have hlisted : isListed loot'.playerQuestItems index = isListed loot.playerQuestItems index :=
      isListed_congr (hlists .quest) index
    rw [hlisted]
    exact h.blocked hitem (hblocked' ▸ hblocked)

theorem ofNat_sub_one {count total : Nat} (h : count + 1 = total) :
    UInt8.ofNat total - 1 = UInt8.ofNat count := by
  rw [← h, UInt8.ofNat_add]
  exact UInt8.add_sub_cancel ..

/-- A call does nothing, or it takes one thing and counts down. -/
def Takes (loot loot' : Loot) : Prop :=
  loot' = loot ∨
    toTake loot' + 1 = toTake loot ∧ loot'.unlootedCount = loot.unlootedCount - 1

theorem Takes.le {loot' : Loot} (h : Takes loot loot') : toTake loot' ≤ toTake loot := by
  obtain rfl | ⟨hless, -⟩ := h
  · exact le_rfl
  · exact Nat.le_of_succ_le hless.le

/-- An item that was counted is marked as looted. -/
theorem toTake_take (hitem : loot.lootItem isQuestItem index = some item)
    (hopen : openAt loot isQuestItem index item = true) {f : LootItem → LootItem}
    (hfree : ∀ item, (f item).freeforall = item.freeforall) (hlooted : (f item).isLooted = true) :
    toTake (loot.modifyItem isQuestItem index f) + 1 = toTake loot := by
  have hclosed : openAt loot isQuestItem index (f item) = false := by
    cases isQuestItem with
    | true => rw [openAt, if_pos rfl, openQuestItem, hlooted]; rfl
    | false => rw [openAt, if_neg Bool.false_ne_true, openItem, hlooted]; rfl
  have hmodified := toTake_modifyItem hitem hfree
  rw [hopen, hclosed, if_pos rfl, if_neg Bool.false_ne_true] at hmodified
  exact hmodified

theorem unlootedCount_modifyItem (loot : Loot) (isQuestItem : Bool) (index : Nat)
    (f : LootItem → LootItem) :
    (loot.modifyItem isQuestItem index f).unlootedCount = loot.unlootedCount := by
  cases isQuestItem <;> rfl

theorem unlootedCount_markEntries (loot : Loot) (player : Nat) (slot : SlotItem) :
    (loot.markEntries player slot).unlootedCount = loot.unlootedCount := by
  rw [markEntries]
  split <;> rfl

/-- What the checks find and call counted is counted, also when its entry is marked. -/
theorem openAt_markEntries (hslot : loot.lootItemInSlot lootSlot player = some slot)
    (hfree : item.freeforall = false) (hlooted : item.isLooted = false)
    (hcounted : slot.isQuestItem = true ∨ item.conditions = [] ∨ item.isCounted = true) :
    openAt (loot.markEntries player slot) slot.isQuestItem slot.index item = true := by
  cases hquest : slot.isQuestItem with
  | true =>
    have hentry : slot.index ∈ indexes loot.playerQuestItems player := by
      obtain ⟨position, index, rfl, hat⟩ | ⟨found, -, ⟨position, rfl, -, -⟩ |
        ⟨conditem, rfl⟩⟩ := lootItemInSlot_cases hslot
      · exact List.mem_map.mpr ⟨_, List.mem_of_getElem? hat, rfl⟩
      · cases hquest
      · cases hquest
    have hsame : isListed (loot.markEntries player slot).playerQuestItems slot.index =
        isListed loot.playerQuestItems slot.index := by
      obtain heq | ⟨position, heq⟩ := lists_markEntries loot player slot .quest
      · exact congrArg (isListed · slot.index) heq
      · have heq' : (loot.markEntries player slot).playerQuestItems =
            markEntry loot.playerQuestItems player position := heq
        rw [heq']
        exact isListed_congr (map_index_markEntry _ player position) _
    rw [openAt, if_pos rfl, openQuestItem, hlooted, hfree, hsame,
      isListed_iff.mpr ⟨player, hentry⟩]
    rfl
  | false =>
    have hcase := hcounted.resolve_left (Bool.eq_false_iff.mp hquest)
    rw [openAt, if_neg Bool.false_ne_true, openItem, hlooted, hfree, Bool.not_false,
      Bool.true_and, Bool.true_and, Bool.or_eq_true, List.isEmpty_iff]
    exact hcase

theorem takes_storeLootItem {lootSlot : UInt8}
    (hok : CountsDown s (w, .storeLootItem lootSlot player)) :
    Takes s.loot (s.storeLootItem w lootSlot player).loot := by
  rw [CountsDown] at hok
  rw [LootState.storeLootItem]
  split
  · exact Or.inl rfl
  · next slot item hstorable =>
      rw [hstorable] at hok
      obtain ⟨hslot, hitem⟩ := storableItem_eq_some hstorable
      dsimp only at hok ⊢
      rw [storeNewItem_loot]
      refine Or.inr ?_
      cases hfree : item.freeforall with
      | true =>
        rw [hfree, if_pos rfl] at hok
        have hmarked := toTake_markEntries hslot hitem fun _ => hok
        rw [hfree, if_pos rfl] at hmarked
        rw [if_pos rfl, unlootedCount_markEntries]
        exact ⟨hmarked, rfl⟩
      | false =>
        rw [hfree, if_neg Bool.false_ne_true] at hok
        have hmarked := toTake_markEntries hslot hitem fun hisFree =>
          absurd (hfree.symm.trans hisFree) Bool.false_ne_true
        rw [hfree, if_neg Bool.false_ne_true, Nat.add_zero] at hmarked
        rw [if_neg Bool.false_ne_true, unlootedCount_modifyItem, unlootedCount_markEntries,
          ← hmarked]
        have hopen := openAt_markEntries hslot hfree hok.1 hok.2
        have htaken := toTake_take ((lootItem_markEntries ..).trans hitem) hopen
          (f := fun item => { item with isLooted := true }) (fun _ => rfl) rfl
        exact ⟨htaken, rfl⟩

theorem takes_lootMasterGive {slotid : UInt8} {target : Nat}
    (hok : CountsDown s (w, .lootMasterGive player slotid target)) :
    Takes s.loot (s.lootMasterGive w player slotid target).loot := by
  rw [CountsDown] at hok
  rw [LootState.lootMasterGive]
  split
  · exact Or.inl rfl
  · next slot item hgiveable =>
      rw [hgiveable] at hok
      have hitem := giveableItem_eq_some hgiveable
      dsimp only at hok ⊢
      rw [storeNewItem_loot, unlootedCount_modifyItem]
      obtain ⟨hfree, hlooted, hcounted⟩ := hok
      have hopen : openAt s.loot slot.isQuestItem slot.index item = true := by
        rw [openAt]
        split
        · next hquest =>
            rw [hquest, if_pos rfl] at hcounted
            rw [openQuestItem, hlooted, hfree, hcounted]
            rfl
        · next hnot =>
            rw [if_neg hnot] at hcounted
            rw [openItem, hlooted, hfree, Bool.not_false, Bool.true_and, Bool.true_and,
              Bool.or_eq_true, List.isEmpty_iff]
            exact hcounted
      have htaken := toTake_take hitem hopen
        (f := fun item => { item with count := 0, isLooted := true }) (fun _ => rfl) rfl
      exact Or.inr ⟨htaken, rfl⟩

/-- A call that takes one thing keeps the tally. -/
theorem Tallied.takes {loot' : Loot} (h : Tallied loot) (htakes : Takes loot loot')
    (hlists : ∀ kind player, indexes (loot'.lists kind) player = indexes (loot.lists kind) player)
    (hitems : ∀ {isQuestItem index item'}, loot'.lootItem isQuestItem index = some item' →
      ∃ item, loot.lootItem isQuestItem index = some item ∧ item'.freeforall = item.freeforall ∧
        item'.conditions = item.conditions ∧ item'.isCounted = item.isCounted ∧
          item'.isBlocked = item.isBlocked) : Tallied loot' := by
  refine h.of_items ?_ hlists hitems
  obtain rfl | ⟨hless, hcount⟩ := htakes
  · exact h.count
  · rw [hcount, h.count]
    exact ofNat_sub_one hless

theorem Tallied.storeLootItem (h : Tallied s.loot) {lootSlot : UInt8}
    (hok : CountsDown s (w, .storeLootItem lootSlot player)) :
    Tallied (s.storeLootItem w lootSlot player).loot := by
  obtain ⟨-, hindexes, -⟩ := storeLootItem_frame s w lootSlot player
  refine h.takes (takes_storeLootItem hok) hindexes ?_
  intro isQuestItem index item' hitem'
  obtain heq | ⟨slot, item, hstorable, hplaces, -⟩ := storeLootItem_cases s w lootSlot player
  · rw [heq] at hitem'
    exact ⟨item', hitem', rfl, rfl, rfl, rfl⟩
  · rw [hplaces] at hitem'
    split at hitem'
    · next hplace =>
        obtain ⟨-, hitem⟩ := storableItem_eq_some hstorable
        rw [← hplace.1, ← hplace.2] at hitem
        refine ⟨item, hitem, ?_⟩
        rw [← Option.some.inj hitem']
        split
        · exact ⟨rfl, rfl, rfl, rfl⟩
        · exact ⟨rfl, rfl, rfl, rfl⟩
    · exact ⟨item', hitem', rfl, rfl, rfl, rfl⟩

theorem Tallied.lootMasterGive (h : Tallied s.loot) {slotid : UInt8} {target : Nat}
    (hok : CountsDown s (w, .lootMasterGive player slotid target)) :
    Tallied (s.lootMasterGive w player slotid target).loot := by
  have htakes := takes_lootMasterGive hok
  cases hgiveable : s.loot.giveableItem w player slotid.toNat target with
  | none =>
    rw [LootState.lootMasterGive, hgiveable]
    exact h
  | some found =>
    obtain ⟨slot, item⟩ := found
    have hitem := giveableItem_eq_some hgiveable
    rw [LootState.lootMasterGive, hgiveable] at htakes ⊢
    dsimp only at htakes ⊢
    rw [storeNewItem_loot] at htakes ⊢
    refine h.takes htakes ?_ ?_
    · intro kind player
      exact congrArg (indexes · player) (lists_modifyItem ..)
    · intro isQuestItem index item' hitem'
      have hmodified := lootItem_of_modified hitem (fun item =>
        { item with count := 0, isLooted := true }) isQuestItem index
      have heq := hmodified.symm.trans hitem'
      split at heq
      · next hplace =>
          rw [hplace.1, hplace.2]
          refine ⟨item, hitem, ?_⟩
          rw [← Option.some.inj heq]
          exact ⟨rfl, rfl, rfl, rfl⟩
      · exact ⟨item', heq, rfl, rfl, rfl, rfl⟩

theorem Tallied.step (h : Tallied s.loot) {call : World × LootCall} (hok : CountsDown s call) :
    Tallied (step s call).loot ∧ toTake (step s call).loot ≤ toTake s.loot := by
  obtain ⟨w, call⟩ := call
  cases call with
  | storeLootItem lootSlot player =>
    exact ⟨h.storeLootItem hok, (takes_storeLootItem hok).le⟩
  | lootMasterGive player slotid target =>
    exact ⟨h.lootMasterGive hok, (takes_lootMasterGive hok).le⟩

end Cataclysm.Looting
