import Cataclysm.Looting.LootMgr
import Cataclysm.Lib.Runs

/-!
# The records of what was handed out

That a player got an item is recorded by the mark of the item, or for an item that is free for all
by the mark of his entry or by a count of zero. A call keeps the records when it finds the item by
the record that counts: an item that is not free for all by its own mark, an item that is free for
all by an entry of the player. The code consults the mark of an entry in the place of the mark of
the item, asks a master looter for none, and lets a player without an entry take again.
-/

namespace Cataclysm.Looting

open Looting.Loot LootState

/-- The three kinds of lists that a player has. -/
inductive ListKind
  | quest
  | ffa
  | conditional
  deriving DecidableEq

namespace Loot

variable {loot loot' : Loot} {player other : Nat}

def lists (loot : Loot) : ListKind → OrderedMap Nat (List QuestItem)
  | .quest => loot.playerQuestItems
  | .ffa => loot.playerFFAItems
  | .conditional => loot.playerNonQuestNonFFAConditionalItems

/-- The kind of the lists whose marks count for items that are free for all. -/
def freeKind (isQuestItem : Bool) : ListKind := if isQuestItem then .quest else .ffa

/-- The player has a marked entry for an item. -/
def Marked (lists : OrderedMap Nat (List QuestItem)) (player index : Nat) : Prop :=
  ∃ entry ∈ listOf lists player, entry.index = index ∧ entry.isLooted = true

/-- An item of a list has one entry. -/
def Distinct (lists : OrderedMap Nat (List QuestItem)) : Prop :=
  ∀ player, ((listOf lists player).map QuestItem.index).Nodup

/-! ### Places -/

theorem lootItem_modifyItem (loot : Loot) (isQuestItem isQuestItem' : Bool) (index index' : Nat)
    (f : LootItem → LootItem) :
    (loot.modifyItem isQuestItem index f).lootItem isQuestItem' index' =
      if isQuestItem' = isQuestItem ∧ index' = index then (loot.lootItem isQuestItem index).map f
      else loot.lootItem isQuestItem' index' := by
  have hmodify : ∀ items : List LootItem, (items.modify index f)[index']? =
      if index' = index then (items[index]?).map f else items[index']? := by
    intro items
    rw [List.getElem?_modify]
    by_cases heq : index' = index
    · simp [heq]
    · have hne : index ≠ index' := fun h => heq h.symm
      simp [heq, hne]
  cases isQuestItem <;> cases isQuestItem' <;> simp [modifyItem, lootItem, hmodify]

/-! ### Marks -/

variable {position : Nat}

theorem listOf_markEntry (lists : OrderedMap Nat (List QuestItem)) (player position other : Nat) :
    listOf (markEntry lists player position) other =
      if other = player then
        (listOf lists player).modify position fun entry => { entry with isLooted := true }
      else listOf lists other := by
  rw [markEntry]
  cases hfind : lists.find? player with
  | none =>
    by_cases heq : other = player
    · rw [if_pos heq, heq, listOf, hfind, Option.getD_none, List.modify_nil]
    · rw [if_neg heq]
  | some list =>
    by_cases heq : other = player
    · rw [if_pos heq, heq, listOf, OrderedMap.find?_insert_self, listOf, hfind]
      rfl
    · rw [if_neg heq, listOf, OrderedMap.find?_insert, if_neg heq, listOf]

theorem map_index_modify (list : List QuestItem) (position : Nat) :
    (list.modify position fun entry => { entry with isLooted := true }).map QuestItem.index =
      list.map QuestItem.index := by
  ext1 index
  rw [List.getElem?_map, List.getElem?_map, List.getElem?_modify]
  cases list[index]? with
  | none => rfl
  | some entry =>
    by_cases heq : position = index
    · simp [heq]
    · simp [heq]

theorem map_index_markEntry (lists : OrderedMap Nat (List QuestItem))
    (player position other : Nat) :
    (listOf (markEntry lists player position) other).map QuestItem.index =
      (listOf lists other).map QuestItem.index := by
  rw [listOf_markEntry]
  split
  · next heq => rw [map_index_modify, heq]
  · rfl

theorem Distinct.markEntry {lists : OrderedMap Nat (List QuestItem)} (h : Distinct lists)
    (player position : Nat) : Distinct (markEntry lists player position) := by
  intro other
  rw [map_index_markEntry]
  exact h other

theorem Marked.markEntry {lists : OrderedMap Nat (List QuestItem)} {index : Nat}
    (h : Marked lists other index) (player position : Nat) :
    Marked (markEntry lists player position) other index := by
  obtain ⟨entry, hin, hindex, hlooted⟩ := h
  rw [Marked, listOf_markEntry]
  split
  · next heq =>
      rw [heq] at hin
      obtain ⟨place, hplace⟩ := List.getElem?_of_mem hin
      have hget : ((listOf lists player).modify position fun entry =>
          { entry with isLooted := true })[place]? = some { entry with isLooted := true } := by
        rw [List.getElem?_modify, hplace]
        by_cases hpos : position = place
        · simp [hpos]
        · simp [hpos, ← hlooted]
      exact ⟨_, List.mem_of_getElem? hget, hindex, rfl⟩
  · exact ⟨entry, hin, hindex, hlooted⟩

/-- The entry at the position is marked. -/
theorem marked_markEntry {lists : OrderedMap Nat (List QuestItem)} {entry : QuestItem}
    (hentry : (listOf lists player)[position]? = some entry) :
    Marked (markEntry lists player position) player entry.index := by
  have hget : ((listOf lists player).modify position fun entry =>
      { entry with isLooted := true })[position]? = some { entry with isLooted := true } := by
    rw [List.getElem?_modify, hentry]
    simp
  rw [Marked, listOf_markEntry, if_pos rfl]
  exact ⟨_, List.mem_of_getElem? hget, rfl, rfl⟩

/-- An entry that is not marked is the only one for its item. -/
theorem not_marked {lists : OrderedMap Nat (List QuestItem)} (h : Distinct lists)
    {entry : QuestItem} (hentry : (listOf lists player)[position]? = some entry)
    (hlooted : entry.isLooted = false) : ¬ Marked lists player entry.index := by
  rintro ⟨found, hin, hindex, hmarked⟩
  have heq : found = entry :=
    List.inj_on_of_nodup_map (h player) hin (List.mem_of_getElem? hentry) hindex
  rw [heq, hlooted] at hmarked
  cases hmarked

/-! ### What is found in a slot -/

theorem entryFor_eq_some {list : List QuestItem} {index : Nat} {isLooted : Bool}
    (h : entryFor list index = some (position, isLooted)) :
    list[position]? = some ⟨index, isLooted⟩ := by
  obtain ⟨found, hfound, hmap⟩ := Option.bind_eq_some_iff.mp h
  obtain ⟨entry, hentry, heq⟩ := Option.map_eq_some_iff.mp hmap
  obtain ⟨rfl, rfl⟩ := Prod.mk.inj heq
  obtain ⟨hlt, hindex, -⟩ := List.findIdx?_eq_some_iff_getElem.mp hfound
  rw [List.getElem?_eq_getElem hlt] at hentry
  rw [List.getElem?_eq_getElem hlt]
  rw [← Option.some.inj hentry, ← beq_iff_eq.mp hindex]

theorem entryFor_eq_none {list : List QuestItem} {index : Nat} (h : entryFor list index = none) :
    ∀ entry ∈ list, entry.index ≠ index := by
  intro entry hin heq
  cases hfind : list.findIdx? fun entry => entry.index == index with
  | none =>
    have hnot := List.findIdx?_eq_none_iff.mp hfind entry hin
    rw [heq, beq_self_eq_true] at hnot
    cases hnot
  | some position =>
    obtain ⟨hlt, -⟩ := List.findIdx?_eq_some_iff_getElem.mp hfind
    rw [entryFor, hfind, Option.bind_some, List.getElem?_eq_getElem hlt] at h
    cases h

/-- A slot that is found through an entry of a list that counts has an entry without a mark. -/
theorem entry_of_slot {lootSlot : Nat} {slot : SlotItem}
    (hslot : loot.lootItemInSlot lootSlot player = some slot)
    (hentry : slot.qitem.or slot.ffaitem = some position) :
    (listOf (loot.lists (freeKind slot.isQuestItem)) player)[position]? =
        some ⟨slot.index, false⟩ ∧
      (loot.markEntries player slot).lists (freeKind slot.isQuestItem) =
        markEntry (loot.lists (freeKind slot.isQuestItem)) player position := by
  rw [lootItemInSlot] at hslot
  split at hslot
  · dsimp only at hslot
    split at hslot
    · cases hslot
    · next qitem hqitem =>
        split at hslot
        · cases hslot
        · next hlooted =>
            cases hslot
            cases hentry
            rw [Bool.not_eq_true] at hlooted
            refine ⟨hqitem.trans ?_, rfl⟩
            rw [← hlooted]
  · split at hslot
    · split at hslot
      · split at hslot
        · cases hslot
        · cases hslot
          cases hentry
      · next found isLooted hfound =>
          split at hslot
          · cases hslot
          · next hlooted =>
              cases hslot
              cases hentry
              rw [Bool.not_eq_true] at hlooted
              rw [hlooted] at hfound
              exact ⟨entryFor_eq_some hfound, rfl⟩
    · split at hslot
      · split at hslot
        · cases hslot
        · cases hslot
          cases hentry
      · split at hslot
        · split at hslot
          · cases hslot
          · cases hslot
            cases hentry
        · split at hslot
          · cases hslot
          · cases hslot
            cases hentry

theorem lists_markEntries (loot : Loot) (player : Nat) (slot : SlotItem) (kind : ListKind) :
    (loot.markEntries player slot).lists kind = loot.lists kind ∨
      ∃ position, (loot.markEntries player slot).lists kind =
        markEntry (loot.lists kind) player position := by
  rw [markEntries]
  split
  · cases kind with
    | quest => exact Or.inr ⟨_, rfl⟩
    | ffa => exact Or.inl rfl
    | conditional => exact Or.inl rfl
  · cases kind with
    | quest => exact Or.inl rfl
    | ffa => exact Or.inr ⟨_, rfl⟩
    | conditional => exact Or.inl rfl
  · cases kind with
    | quest => exact Or.inl rfl
    | ffa => exact Or.inl rfl
    | conditional => exact Or.inr ⟨_, rfl⟩
  · exact Or.inl rfl

theorem lootItem_markEntries (loot : Loot) (player : Nat) (slot : SlotItem) (isQuestItem : Bool)
    (index : Nat) :
    (loot.markEntries player slot).lootItem isQuestItem index = loot.lootItem isQuestItem index := by
  rw [markEntries]
  split <;> rfl

theorem lists_modifyItem (loot : Loot) (isQuestItem : Bool) (index : Nat)
    (f : LootItem → LootItem) (kind : ListKind) :
    (loot.modifyItem isQuestItem index f).lists kind = loot.lists kind := by
  cases isQuestItem <;> rfl

end Loot

/-! ### Records -/

variable {slot : SlotItem} {s : LootState} {player : Nat} {item : LootItem}

/-- An item that is not free for all is given once, an item that is free for all once to each
player. -/
def HandedOutOnce (s : LootState) : Prop :=
  ∀ isQuestItem index item, s.loot.lootItem isQuestItem index = some item →
    if item.freeforall then ∀ player, s.given.count ⟨player, isQuestItem, index⟩ ≤ 1
    else s.given.countP (fun gift => gift.isQuestItem == isQuestItem && gift.index == index) ≤ 1

/-- What a call that hands out an item asks of the marks. -/
def TakesOnce (s : LootState) : World × LootCall → Prop
  | (w, .storeLootItem lootSlot player) =>
    match s.loot.storableItem w lootSlot.toNat player with
    | none => True
    | some (slot, item) =>
      item.count = 0 ∨
        if item.freeforall then (slot.qitem.or slot.ffaitem).isSome = true
        else item.isLooted = false
  | (w, .lootMasterGive player slotid target) =>
    match s.loot.giveableItem w player slotid.toNat target with
    | none => True
    | some (slot, item) =>
      item.count = 0 ∨
        if item.freeforall then
          ∀ entry ∈ listOf (s.loot.lists (freeKind slot.isQuestItem)) target,
            entry.index = slot.index → entry.isLooted = false
        else item.isLooted = false

/-- Every gift is recorded. -/
structure Recorded (s : LootState) : Prop where
  distinct : ∀ kind, Distinct (s.loot.lists kind)
  once : ∀ {isQuestItem index item}, s.loot.lootItem isQuestItem index = some item →
    item.freeforall = false →
      s.given.countP (fun gift => gift.isQuestItem == isQuestItem && gift.index == index) ≤
        if item.isLooted then 1 else 0
  onceEach : ∀ {isQuestItem index item}, s.loot.lootItem isQuestItem index = some item →
    item.freeforall = true → ∀ player,
      s.given.count ⟨player, isQuestItem, index⟩ ≤ 1 ∧
        (⟨player, isQuestItem, index⟩ ∈ s.given →
          item.count = 0 ∨ Marked (s.loot.lists (freeKind isQuestItem)) player index)

theorem Recorded.handedOutOnce (h : Recorded s) : HandedOutOnce s := by
  intro isQuestItem index item hitem
  split
  · next hfree =>
      intro player
      exact (h.onceEach hitem hfree player).1
  · next hfree =>
      refine (h.once hitem (Bool.eq_false_iff.mpr hfree)).trans ?_
      split
      · exact le_rfl
      · exact Nat.zero_le 1

/-- Entries appear and are marked, and stay distinct. -/
structure Follows (loot loot' : Loot) : Prop where
  distinct : ∀ kind, Distinct (loot'.lists kind)
  marked : ∀ {kind player index}, Marked (loot.lists kind) player index →
    Marked (loot'.lists kind) player index

theorem storeNewItem_given (s : LootState) (player : Nat) (slot : SlotItem) (item : LootItem) :
    (s.storeNewItem player slot item).given =
      s.given ++ if item.count = 0 then [] else [⟨player, slot.isQuestItem, slot.index⟩] := by
  rw [storeNewItem]
  split
  · exact (List.append_nil _).symm
  · rfl

/-- An item is handed out and the gift is recorded. -/
theorem Recorded.handOut (h : Recorded s) (item' : LootItem) {loot' : Loot}
    (hitem : s.loot.lootItem slot.isQuestItem slot.index = some item)
    (hfree : item'.freeforall = item.freeforall) (hcount : item.count = 0 → item'.count = 0)
    (hlooted : item.freeforall = false → item'.isLooted = true)
    (hplaces : ∀ isQuestItem index, loot'.lootItem isQuestItem index =
      if isQuestItem = slot.isQuestItem ∧ index = slot.index then some item'
      else s.loot.lootItem isQuestItem index) (hlists : Follows s.loot loot')
    (hnew : item.count = 0 ∨ if item.freeforall then
        ¬ Marked (s.loot.lists (freeKind slot.isQuestItem)) player slot.index ∧
          (item'.count = 0 ∨ Marked (loot'.lists (freeKind slot.isQuestItem)) player slot.index)
      else item.isLooted = false) : Recorded ⟨loot', (s.storeNewItem player slot item).given⟩ := by
  refine ⟨hlists.distinct, ?_, ?_⟩
  · intro isQuestItem index found hfound hnotFree
    dsimp only at hfound ⊢
    rw [hplaces] at hfound
    rw [storeNewItem_given, List.countP_append]
    split at hfound
    · next hplace =>
        cases hfound
        rw [hplace.1, hplace.2, hlooted (hfree ▸ hnotFree), if_pos rfl]
        have hold := h.once hitem (hfree ▸ hnotFree)
        by_cases hzero : item.count = 0
        · rw [if_pos hzero, List.countP_nil, Nat.add_zero]
          refine hold.trans ?_
          split
          · exact le_rfl
          · exact Nat.zero_le 1
        · have hnotLooted := hnew.resolve_left hzero
          rw [if_neg (Bool.eq_false_iff.mp (hfree ▸ hnotFree))] at hnotLooted
          rw [hnotLooted, if_neg Bool.false_ne_true] at hold
          rw [if_neg hzero, Nat.le_zero.mp hold, List.countP_singleton]
          simp
    · next hplace =>
        have hold := h.once hfound hnotFree
        have hnone : (if item.count = 0 then [] else
            [(⟨player, slot.isQuestItem, slot.index⟩ : Gift)]).countP (fun gift =>
              gift.isQuestItem == isQuestItem && gift.index == index) = 0 := by
          refine List.countP_eq_zero.mpr fun gift hin hsame => ?_
          split at hin
          · cases hin
          · rw [List.mem_singleton] at hin
            rw [hin, Bool.and_eq_true, beq_iff_eq, beq_iff_eq] at hsame
            exact hplace ⟨hsame.1.symm, hsame.2.symm⟩
        rw [hnone, Nat.add_zero]
        exact hold
  · intro isQuestItem index found hfound hisFree other
    dsimp only at hfound ⊢
    rw [hplaces] at hfound
    rw [storeNewItem_given, List.count_append, List.mem_append]
    split at hfound
    · next hplace =>
        cases hfound
        rw [hplace.1, hplace.2]
        obtain ⟨hold, hgiven⟩ := h.onceEach hitem (hfree ▸ hisFree) other
        by_cases hzero : item.count = 0
        · rw [if_pos hzero, List.count_nil, Nat.add_zero]
          exact ⟨hold, fun _ => Or.inl (hcount hzero)⟩
        · have hunmarked := hnew.resolve_left hzero
          rw [if_pos (hfree ▸ hisFree)] at hunmarked
          rw [if_neg hzero, List.count_singleton, List.mem_singleton]
          by_cases hplayer : other = player
          · have hnot : (⟨other, slot.isQuestItem, slot.index⟩ : Gift) ∉ s.given := by
              intro hin
              obtain hcase | hcase := hgiven hin
              · exact hzero hcase
              · exact hunmarked.1 (hplayer ▸ hcase)
            rw [List.count_eq_zero.mpr hnot, hplayer]
            simp [hunmarked.2]
          · have hne : (⟨player, slot.isQuestItem, slot.index⟩ : Gift) ≠
                ⟨other, slot.isQuestItem, slot.index⟩ :=
              fun heq => hplayer (congrArg Gift.player heq).symm
            rw [if_neg fun heq => hne (beq_iff_eq.mp heq), Nat.add_zero]
            refine ⟨hold, fun hin => ?_⟩
            obtain hin | heq := hin
            · exact Or.inr (hlists.marked ((hgiven hin).resolve_left hzero))
            · exact absurd heq.symm hne
    · next hplace =>
        obtain ⟨hold, hgiven⟩ := h.onceEach hfound hisFree other
        have hnone : ⟨other, isQuestItem, index⟩ ∉ (if item.count = 0 then [] else
            [(⟨player, slot.isQuestItem, slot.index⟩ : Gift)]) := by
          intro hin
          split at hin
          · cases hin
          · have heq := List.mem_singleton.mp hin
            exact hplace ⟨congrArg Gift.isQuestItem heq, congrArg Gift.index heq⟩
        rw [List.count_eq_zero.mpr hnone, Nat.add_zero]
        refine ⟨hold, fun hin => ?_⟩
        obtain hcase | hcase := hgiven (hin.resolve_right hnone)
        · exact Or.inl hcase
        · exact Or.inr (hlists.marked hcase)

/-! ### One call -/

variable {loot : Loot} {w : World}

theorem follows_markEntries (h : ∀ kind, Distinct (loot.lists kind)) (player : Nat)
    (slot : SlotItem) : Follows loot (loot.markEntries player slot) := by
  constructor
  · intro kind
    obtain heq | ⟨position, heq⟩ := lists_markEntries loot player slot kind
    · rw [heq]
      exact h kind
    · rw [heq]
      exact (h kind).markEntry player position
  · intro kind other index hmarked
    obtain heq | ⟨position, heq⟩ := lists_markEntries loot player slot kind
    · rw [heq]
      exact hmarked
    · rw [heq]
      exact hmarked.markEntry player position

theorem storableItem_eq_some {lootSlot : Nat}
    (h : loot.storableItem w lootSlot player = some (slot, item)) :
    loot.lootItemInSlot lootSlot player = some slot ∧
      loot.lootItem slot.isQuestItem slot.index = some item := by
  rw [storableItem] at h
  split at h
  · cases h
  · next found hfound =>
      split at h
      · cases h
      · next item' hitem =>
          split at h
          · cases h
          · split at h
            · cases h
            · split at h
              · cases h
                exact ⟨hfound, hitem⟩
              · cases h

theorem giveableItem_eq_some {slotid target : Nat}
    (h : loot.giveableItem w player slotid target = some (slot, item)) :
    loot.lootItem slot.isQuestItem slot.index = some item := by
  rw [giveableItem] at h
  split at h
  · cases h
  · split at h
    · cases h
    · split at h
      · cases h
      · split at h
        · cases h
        · dsimp only at h
          split at h
          · cases h
          · next item' hitem =>
              split at h
              · cases h
              · split at h
                · cases h
                · cases h
                  exact hitem

theorem storeNewItem_loot (s : LootState) (player : Nat) (slot : SlotItem) (item : LootItem) :
    (s.storeNewItem player slot item).loot = s.loot := by
  rw [storeNewItem]
  split
  · rfl
  · rfl

/-- The places after one item is modified. -/
theorem lootItem_of_modified (hitem : loot.lootItem slot.isQuestItem slot.index = some item)
    (f : LootItem → LootItem) (isQuestItem : Bool) (index : Nat) :
    (loot.modifyItem slot.isQuestItem slot.index f).lootItem isQuestItem index =
      if isQuestItem = slot.isQuestItem ∧ index = slot.index then some (f item)
      else loot.lootItem isQuestItem index := by
  rw [lootItem_modifyItem, hitem, Option.map_some]

theorem Recorded.storeLootItem (h : Recorded s) {lootSlot : UInt8}
    (hok : TakesOnce s (w, .storeLootItem lootSlot player)) :
    Recorded (s.storeLootItem w lootSlot player) := by
  rw [LootState.storeLootItem]
  rw [TakesOnce] at hok
  split
  · exact h
  · next slot item hstorable =>
      rw [hstorable] at hok
      obtain ⟨hslot, hitem⟩ := storableItem_eq_some hstorable
      have hfollows := follows_markEntries h.distinct player slot
      dsimp only at hok ⊢
      rw [storeNewItem_loot]
      cases hfree : item.freeforall with
      | true =>
        rw [if_pos rfl]
        rw [hfree, if_pos rfl] at hok
        refine h.handOut item hitem rfl (fun hzero => hzero) ?_ ?_ ⟨hfollows.distinct,
          hfollows.marked⟩ ?_
        · intro hnotFree
          rw [hfree] at hnotFree
          cases hnotFree
        · intro isQuestItem index
          refine (lootItem_markEntries s.loot player slot isQuestItem index).trans ?_
          split
          · next hplace => rw [hplace.1, hplace.2, hitem]
          · rfl
        · rw [hfree, if_pos rfl]
          refine hok.imp_right fun hsome => ?_
          obtain ⟨position, hposition⟩ := Option.isSome_iff_exists.mp hsome
          obtain ⟨hentry, hmark⟩ := entry_of_slot hslot hposition
          refine ⟨not_marked (h.distinct _) hentry rfl, Or.inr ?_⟩
          have hmarked := marked_markEntry hentry
          rw [← hmark] at hmarked
          exact hmarked
      | false =>
        rw [if_neg Bool.false_ne_true]
        rw [hfree, if_neg Bool.false_ne_true] at hok
        have hkept : (s.loot.markEntries player slot).lootItem slot.isQuestItem slot.index =
            some item := (lootItem_markEntries ..).trans hitem
        refine h.handOut { item with isLooted := true } hitem rfl (fun hzero => hzero)
          (fun _ => rfl) ?_ ?_ ?_
        · intro isQuestItem index
          refine (lootItem_of_modified hkept _ isQuestItem index).trans ?_
          rw [lootItem_markEntries]
        · have hlists := lists_modifyItem (s.loot.markEntries player slot) slot.isQuestItem
            slot.index fun item => { item with isLooted := true }
          constructor
          · intro kind
            exact hlists kind ▸ hfollows.distinct kind
          · intro kind other index hmarked
            exact hlists kind ▸ hfollows.marked hmarked
        · rw [hfree, if_neg Bool.false_ne_true]
          exact hok

/-- What `StoreLootItem` does to the items and the lists. -/
theorem storeLootItem_cases (s : LootState) (w : World) (lootSlot : UInt8) (player : Nat) :
    s.storeLootItem w lootSlot player = s ∨
      ∃ slot item, s.loot.storableItem w lootSlot.toNat player = some (slot, item) ∧
        (∀ isQuestItem index,
          (s.storeLootItem w lootSlot player).loot.lootItem isQuestItem index =
            if isQuestItem = slot.isQuestItem ∧ index = slot.index then
              some (if item.freeforall then item else { item with isLooted := true })
            else s.loot.lootItem isQuestItem index) ∧
          ∀ kind, (s.storeLootItem w lootSlot player).loot.lists kind = s.loot.lists kind ∨
            ∃ position, (s.storeLootItem w lootSlot player).loot.lists kind =
              markEntry (s.loot.lists kind) player position := by
  cases hstorable : s.loot.storableItem w lootSlot.toNat player with
  | none =>
    refine Or.inl ?_
    rw [LootState.storeLootItem, hstorable]
  | some found =>
    obtain ⟨slot, item⟩ := found
    obtain ⟨-, hitem⟩ := storableItem_eq_some hstorable
    have hkept : (s.loot.markEntries player slot).lootItem slot.isQuestItem slot.index =
        some item := (lootItem_markEntries ..).trans hitem
    refine Or.inr ⟨slot, item, rfl, ?_⟩
    rw [LootState.storeLootItem, hstorable]
    dsimp only
    rw [storeNewItem_loot]
    constructor
    · intro isQuestItem index
      split
      · refine (lootItem_markEntries s.loot player slot isQuestItem index).trans ?_
        split
        · next hplace => rw [hplace.1, hplace.2, hitem]
        · rfl
      · refine (lootItem_of_modified hkept _ isQuestItem index).trans ?_
        rw [lootItem_markEntries]
    · intro kind
      have hlists := lists_markEntries s.loot player slot kind
      split
      · exact hlists
      · rw [← lists_modifyItem (s.loot.markEntries player slot) slot.isQuestItem slot.index
          (fun item => { item with isLooted := true }) kind] at hlists
        exact hlists

theorem Recorded.lootMasterGive (h : Recorded s) {slotid : UInt8} {target : Nat}
    (hok : TakesOnce s (w, .lootMasterGive player slotid target)) :
    Recorded (s.lootMasterGive w player slotid target) := by
  rw [LootState.lootMasterGive]
  rw [TakesOnce] at hok
  split
  · exact h
  · next slot item hgiveable =>
      rw [hgiveable] at hok
      have hitem := giveableItem_eq_some hgiveable
      dsimp only at hok ⊢
      rw [storeNewItem_loot]
      have hlists := lists_modifyItem s.loot slot.isQuestItem slot.index fun item =>
        { item with count := 0, isLooted := true }
      refine h.handOut { item with count := 0, isLooted := true } hitem rfl (fun _ => rfl)
        (fun _ => rfl) (lootItem_of_modified hitem _) ?_ ?_
      · constructor
        · intro kind
          exact hlists kind ▸ h.distinct kind
        · intro kind other index hmarked
          exact hlists kind ▸ hmarked
      · refine hok.imp_right fun hcase => ?_
        split
        · next hfree =>
            rw [if_pos hfree] at hcase
            refine ⟨?_, Or.inl rfl⟩
            rintro ⟨entry, hin, hindex, hlooted⟩
            rw [hcase entry hin hindex] at hlooted
            cases hlooted
        · next hfree =>
            rw [if_neg hfree] at hcase
            exact hcase

theorem Recorded.step (h : Recorded s) {call : World × LootCall} (hok : TakesOnce s call) :
    Recorded (step s call) := by
  obtain ⟨w, call⟩ := call
  cases call with
  | storeLootItem lootSlot player => exact h.storeLootItem hok
  | lootMasterGive player slotid target => exact h.lootMasterGive hok

end Cataclysm.Looting
