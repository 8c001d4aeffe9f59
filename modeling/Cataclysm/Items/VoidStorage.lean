import Cataclysm.Items.Destruction
import Cataclysm.Items.NewItem
import Cataclysm.Lib.Counting

/-!
# Void storage

`HandleVoidStorageTransfer` destroys the items that are deposited and keeps a record of each in a
void storage slot; a record that is withdrawn becomes a new item.

A record has no count. A stack of several pieces that is deposited is one record, and a bag takes
what is in it along.

## Implementation notes

Creator, random property and suffix factor of a record are left out, as they are of an item. What
the client is told is kept as far as it counts what was done.
-/

namespace Cataclysm.Items

/-- `VOID_STORAGE_STORE_ITEM`, 25 gold. -/
def voidStorageStoreItem : Nat := 25 * 10000

/-- `VOID_STORAGE_MAX_DEPOSIT`. -/
def voidStorageMaxDeposit : Nat := 9

/-- `VOID_STORAGE_MAX_WITHDRAW`. -/
def voidStorageMaxWithdraw : Nat := 9

/-- `VOID_STORAGE_MAX_SLOT`. -/
def voidStorageMaxSlot : Nat := 80

/-- A record of the void storage. -/
structure VoidStorageItem where
  itemId : Nat
  itemEntry : Nat
  deriving DecidableEq

/-- `VoidTransferError`, as far as a transfer sends it. -/
inductive VoidTransferError
  | noError
  | full
  | notEnoughMoney
  | inventoryFull
  deriving DecidableEq

/-- The player with his void storage, and the counter of its records. -/
structure VoidStoragePlayer where
  inv : Inventory
  voidStorageItems : OrderedMap Nat VoidStorageItem
  money : Nat
  unlocked : Bool
  nextVoidStorageItemId : Nat

/-- A request; `vaultKeeper` tells whether the player can interact with one under the guid. -/
structure TransferRequest where
  itemGuids : List Nat
  itemIds : List Nat
  vaultKeeper : Bool
  deriving DecidableEq

/-- What a transfer leaves behind, with the records that it counted and the result it sends. -/
structure Transfer where
  player : VoidStoragePlayer
  depositItems : List (VoidStorageItem × Nat)
  withdrawItems : List VoidStorageItem
  result : Option VoidTransferError

section Definitions

variable (catalog : Catalog) (facts : PlayerFacts)

/-- The free slots of the backpack and of the equipped bags. -/
def Inventory.freeBagSlots (inv : Inventory) : Nat :=
  ((List.range' inventorySlotBagStart (inventorySlotBagEnd - inventorySlotBagStart)).map fun i =>
    match inv.getBagByPos catalog i with
    | some bag => (List.range (bag.bagSize catalog)).countP fun slot =>
      (inv.items.find? (.content bag.guid slot)).isNone
    | none => 0).sum +
  (List.range' inventorySlotItemStart (inventorySlotItemEnd - inventorySlotItemStart)).countP
    fun i => (inv.getItemByPos catalog (.own i)).isNone

namespace VoidStoragePlayer

def isFreeSlot (player : VoidStoragePlayer) (slot : Nat) : Bool :=
  (player.voidStorageItems.find? slot).isNone

def getNextVoidStorageFreeSlot (player : VoidStoragePlayer) : Nat :=
  ((List.range voidStorageMaxSlot).find? player.isFreeSlot).getD voidStorageMaxSlot

def getNumOfVoidStorageFreeSlots (player : VoidStoragePlayer) : Nat :=
  (List.range voidStorageMaxSlot).countP player.isFreeSlot

/-- With the slot, or 255. -/
def addVoidStorageItem (player : VoidStoragePlayer) (item : VoidStorageItem) :
    VoidStoragePlayer × Nat :=
  let slot := player.getNextVoidStorageFreeSlot
  if voidStorageMaxSlot ≤ slot then (player, 255)
  else ({ player with voidStorageItems := player.voidStorageItems.insert slot item }, slot)

def deleteVoidStorageItem (player : VoidStoragePlayer) (slot : Nat) : VoidStoragePlayer :=
  if voidStorageMaxSlot ≤ slot then player
  else { player with voidStorageItems := player.voidStorageItems.erase slot }

/-- The record with this id and its slot. -/
def getVoidStorageItem (player : VoidStoragePlayer) (id : Nat) : Option (Nat × VoidStorageItem) :=
  (List.range voidStorageMaxSlot).findSome? fun slot =>
    ((player.voidStorageItems.find? slot).filter fun item => item.itemId = id).map
      fun item => (slot, item)

/-- One pass of the loop over the items to deposit. -/
def deposit (player : VoidStoragePlayer) (guid : Nat) :
    VoidStoragePlayer × Option (VoidStorageItem × Nat) :=
  match player.inv.itemByGuid guid with
  | none => (player, none)
  | some (place, item) =>
    let itemVS : VoidStorageItem := ⟨player.nextVoidStorageItemId, item.entry⟩
    match { player with nextVoidStorageItemId := player.nextVoidStorageItemId + 1 :
        VoidStoragePlayer }.addVoidStorageItem itemVS with
    | (player, slot) =>
      ({ player with inv := player.inv.destroyItem catalog place item }, some (itemVS, slot))

def depositAll (player : VoidStoragePlayer) :
    List Nat → VoidStoragePlayer × List (VoidStorageItem × Nat)
  | [] => (player, [])
  | guid :: rest =>
    match player.deposit catalog guid with
    | (player, depositItem) =>
      match player.depositAll rest with
      | (player, depositItems) => (player, depositItem.toList ++ depositItems)

/-- The loop over the records to withdraw; it ends at a record for which there is no room. -/
def withdrawAll (player : VoidStoragePlayer) :
    List Nat → VoidStoragePlayer × List VoidStorageItem × VoidTransferError
  | [] => (player, [], .noError)
  | id :: rest =>
    match player.getVoidStorageItem id with
    | none => player.withdrawAll rest
    | some (slot, itemVS) =>
      let answer := canStoreNewItem catalog facts player.inv ⟨nullBag, nullSlot⟩
        itemVS.itemEntry 1
      if answer.result ≠ .ok then (player, [], .inventoryFull)
      else
        let player := { player with
          inv := player.inv.storeNewItem catalog answer.dest itemVS.itemEntry }
        match (player.deleteVoidStorageItem slot).withdrawAll rest with
        | (player, withdrawItems, result) => (player, itemVS :: withdrawItems, result)

/-- The checks before anything is done; `some none` is a request that is dropped without answer. -/
def checkTransfer (player : VoidStoragePlayer) (request : TransferRequest) :
    Option (Option VoidTransferError) :=
  if voidStorageMaxDeposit < request.itemGuids.length then some none
  else if voidStorageMaxWithdraw < request.itemIds.length then some none
  else if !request.vaultKeeper then some none
  else if !player.unlocked then some none
  else if player.getNumOfVoidStorageFreeSlots < request.itemGuids.length then some (some .full)
  else if (if request.itemIds.length ≠ 0 then player.inv.freeBagSlots catalog else 0) <
      request.itemIds.length then some (some .inventoryFull)
  else if !hasEnoughMoney player.money (uint64 (request.itemGuids.length * voidStorageStoreItem))
    then some (some .notEnoughMoney)
  else none

def handleVoidStorageTransfer (player : VoidStoragePlayer) (request : TransferRequest) :
    Transfer :=
  match player.checkTransfer catalog request with
  | some result => ⟨player, [], [], result⟩
  | none =>
    match player.depositAll catalog request.itemGuids with
    | (player, depositItems) =>
      let cost := depositItems.length * voidStorageStoreItem
      let player := { player with money := (modifyMoney player.money (-cost)).1 }
      match player.withdrawAll catalog facts request.itemIds with
      | (player, withdrawItems, result) => ⟨player, depositItems, withdrawItems, some result⟩

/-- The pieces of an entry in slots and in the void storage. -/
def pieces (player : VoidStoragePlayer) (entry : Nat) : Nat :=
  player.inv.piecesOf entry +
    player.voidStorageItems.countValues fun item => item.itemEntry = entry

end VoidStoragePlayer

/-- A transfer loses and makes nothing, and charges for what was deposited. -/
structure Transfer.Conserves (transfer : Transfer) (before : VoidStoragePlayer) : Prop where
  pieces : ∀ entry, transfer.player.pieces entry = before.pieces entry
  fee : transfer.player.money + transfer.depositItems.length * voidStorageStoreItem = before.money

/-- Every item that is found under one of the guids is a single piece and holds nothing, when those
before it are gone. -/
def Inventory.SinglePieces (inv : Inventory) : List Nat → Prop
  | [] => True
  | guid :: rest =>
    match inv.itemByGuid guid with
    | none => inv.SinglePieces rest
    | some (place, item) =>
      item.count = 1 ∧ inv.isNotEmptyBag catalog item = false ∧
        { inv with
          items := inv.items.erase place
          destroyed := inv.destroyed ++ [item] : Inventory }.SinglePieces rest

end Definitions

variable {catalog : Catalog} {facts : PlayerFacts} {ledger : Nat → Nat} {inv : Inventory}
  {item : Item} {place : Place} {player : VoidStoragePlayer}

/-! ### What goes with an item -/

/-- What is destroyed with an item. -/
def Inventory.heldBy (catalog : Catalog) (inv : Inventory) (item : Item) : List (Nat × Item) :=
  if item.isBag catalog then inv.contents catalog item else []

theorem mem_heldBy {entry : Nat × Item} (h : entry ∈ inv.heldBy catalog item) :
    inv.items.find? (.content item.guid entry.1) = some entry.2 := by
  rw [Inventory.heldBy] at h
  split at h
  · exact (mem_contents.mp h).2
  · cases h

theorem nodup_heldBy (inv : Inventory) (item : Item) :
    ((inv.heldBy catalog item).map Prod.fst).Nodup := by
  rw [Inventory.heldBy]
  split
  · have hslots : (inv.contents catalog item).map Prod.fst =
        (List.range (item.bagSize catalog)).filter fun slot =>
          (inv.items.find? (.content item.guid slot)).isSome := by
      rw [Inventory.contents, List.map_filterMap, ← List.filterMap_eq_filter]
      refine List.filterMap_congr fun slot _ => ?_
      cases hinner : inv.items.find? (.content item.guid slot) with
      | none => simp [Option.guard, hinner]
      | some inner => simp [Option.guard, hinner]
    rw [hslots]
    exact List.nodup_range.filter _
  · exact List.nodup_nil

/-- Nothing goes with an item that is not a bag with contents. -/
theorem heldBy_eq_nil_iff : inv.heldBy catalog item = [] ↔
    inv.isNotEmptyBag catalog item = false := by
  rw [Inventory.heldBy, Inventory.isNotEmptyBag, Inventory.isEmptyBag]
  cases item.isBag catalog with
  | false => simp
  | true =>
    rw [if_pos rfl, Bool.true_and, Bool.not_eq_false', List.all_eq_true, Inventory.contents,
      List.filterMap_eq_nil_iff]
    refine forall₂_congr fun slot _ => ?_
    rw [Option.map_eq_none_iff, Option.isNone_iff_eq_none]

theorem sumValues_foldl_erase {guid : Nat} {held : List (Nat × Item)}
    (hnodup : (held.map Prod.fst).Nodup) {items : OrderedMap Place Item}
    (hfind : ∀ entry ∈ held, items.find? (.content guid entry.1) = some entry.2)
    (f : Item → Nat) :
    items.sumValues f = (held.map fun entry => f entry.2).sum +
      (held.foldl (fun items entry => items.erase (.content guid entry.1)) items).sumValues f := by
  induction held generalizing items with
  | nil => exact (Nat.zero_add _).symm
  | cons entry rest ih =>
    obtain ⟨hnew, hnodup⟩ := List.nodup_cons.mp hnodup
    have hrest : ∀ other ∈ rest, (items.erase (.content guid entry.1)).find?
        (.content guid other.1) = some other.2 := by
      intro other hother
      rw [OrderedMap.find?_erase, if_neg]
      · exact hfind other (List.mem_cons_of_mem entry hother)
      · intro heq
        injection heq with _ hslot
        exact hnew (List.mem_map.mpr ⟨other, hother, hslot⟩)
    rw [OrderedMap.sumValues_eq_erase (hfind entry List.mem_cons_self), ih hnodup hrest,
      List.map_cons, List.sum_cons, List.foldl_cons, Nat.add_assoc]

theorem Holds.not_in_itself (h : Holds catalog ledger inv [])
    (hfind : inv.items.find? place = some item) (slot : Nat) :
    place ≠ .content item.guid slot := by
  rintro rfl
  obtain ⟨bag, hguid, -, -, hhand | ⟨s, -, hown⟩⟩ := h.nested _ _ _ hfind
  · cases hhand
  · have heq := h.place_injective hfind hown hguid
    cases heq

theorem destroyItem_items (inv : Inventory) (place : Place) (item : Item) :
    (inv.destroyItem catalog place item).items =
      (inv.heldBy catalog item).foldl
        (fun items entry => items.erase (.content item.guid entry.1)) (inv.items.erase place) :=
  rfl

/-- The pieces that go. -/
theorem Holds.piecesOf_destroyItem (h : Holds catalog ledger inv [])
    (hfind : inv.items.find? place = some item) (entry : Nat) :
    inv.piecesOf entry = item.units entry +
      (((inv.heldBy catalog item).map fun held => held.2.units entry).sum +
        (inv.destroyItem catalog place item).piecesOf entry) := by
  have hheld : ∀ held ∈ inv.heldBy catalog item,
      (inv.items.erase place).find? (.content item.guid held.1) = some held.2 := by
    intro held hheld
    rw [OrderedMap.find?_erase, if_neg (h.not_in_itself hfind held.1).symm]
    exact mem_heldBy hheld
  rw [Inventory.piecesOf, OrderedMap.sumValues_eq_erase hfind,
    sumValues_foldl_erase (nodup_heldBy inv item) hheld, ← destroyItem_items]
  rfl

theorem sublist_foldl_erase (guid : Nat) (held : List (Nat × Item))
    (items : OrderedMap Place Item) :
    (held.foldl (fun items entry => items.erase (.content guid entry.1)) items).entries.Sublist
      items.entries := by
  induction held generalizing items with
  | nil => exact List.Sublist.refl _
  | cons entry rest ih => exact (ih _).trans List.filter_sublist

/-- Without an item and what it held the inventory is still well formed. -/
theorem Holds.destroyItem (h : Holds catalog ledger inv [])
    (hfind : inv.items.find? place = some item) :
    ∃ ledger', Holds catalog ledger' (inv.destroyItem catalog place item) [] := by
  have hsub : (inv.destroyItem catalog place item).allItems.Sublist inv.allItems := by
    refine List.Sublist.append_right (List.Sublist.map _ ?_) _
    rw [destroyItem_items]
    exact (sublist_foldl_erase _ _ _).trans List.filter_sublist
  refine ⟨fun entry => tally entry (inv.destroyItem catalog place item).allItems +
    tally entry (inv.destroyItem catalog place item).destroyed, ⟨?_, ?_, ?_, fun _ => rfl⟩, ?_⟩
  · exact h.distinct.sublist (hsub.map _)
  · exact fun other hother => h.stock.fresh other (hsub.subset hother)
  · exact fun other hother => h.stock.stackable other (hsub.subset hother)
  · intro bagGuid slot inner hinner
    rw [find?_destroyItem] at hinner
    split at hinner
    · cases hinner
    · next hstays =>
        obtain ⟨bag, rfl, hbag, hslot, hhand | ⟨s, hs, hown⟩⟩ := h.nested _ _ _ hinner
        · cases hhand
        · refine ⟨bag, rfl, hbag, hslot, Or.inr ⟨s, hs, ?_⟩⟩
          rw [find?_destroyItem, if_neg]
          · exact hown
          · rintro (rfl | ⟨-, i, -, heq⟩)
            · rw [hfind] at hown
              cases hown
              exact hstays (Or.inr ⟨hbag, slot, hslot, rfl⟩)
            · cases heq

theorem itemByGuid_find? {guid : Nat} (h : inv.itemByGuid guid = some (place, item)) :
    inv.items.find? place = some item :=
  OrderedMap.find?_eq_some_iff.mpr (List.mem_of_find?_eq_some h)

/-! ### Slots of the void storage -/

namespace VoidStoragePlayer

/-- A record goes into a free slot as long as there is one. -/
theorem addVoidStorageItem_of_free (h : 0 < player.getNumOfVoidStorageFreeSlots)
    (record : VoidStorageItem) :
    ∃ slot < voidStorageMaxSlot, player.isFreeSlot slot = true ∧
      player.addVoidStorageItem record =
        ({ player with voidStorageItems := player.voidStorageItems.insert slot record }, slot) := by
  obtain ⟨free, hfree, hisFree⟩ := List.countP_pos_iff.mp h
  cases hslot : (List.range voidStorageMaxSlot).find? player.isFreeSlot with
  | none => exact absurd hisFree (List.find?_eq_none.mp hslot free hfree)
  | some slot =>
    have hlt := List.mem_range.mp (List.mem_of_find?_eq_some hslot)
    refine ⟨slot, hlt, List.find?_some hslot, ?_⟩
    rw [addVoidStorageItem, getNextVoidStorageFreeSlot, hslot, Option.getD_some]
    exact if_neg (Nat.not_le.mpr hlt)

theorem freeSlots_insert {slot : Nat} (hlt : slot < voidStorageMaxSlot)
    (hfree : player.isFreeSlot slot = true) {player' : VoidStoragePlayer}
    {record : VoidStorageItem}
    (hitems : player'.voidStorageItems = player.voidStorageItems.insert slot record) :
    player'.getNumOfVoidStorageFreeSlots + 1 = player.getNumOfVoidStorageFreeSlots := by
  have hothers : ∀ i, i ≠ slot → player'.isFreeSlot i = player.isFreeSlot i := by
    intro i hi
    rw [isFreeSlot, isFreeSlot, hitems, OrderedMap.find?_insert, if_neg hi]
  have htaken : player'.isFreeSlot slot = false := by
    rw [isFreeSlot, hitems, OrderedMap.find?_insert, if_pos rfl]
    rfl
  have hcount := Counting.countP_range_of_ne hlt hothers
  rw [hfree, htaken, if_pos rfl, if_neg Bool.false_ne_true] at hcount
  exact hcount

theorem getVoidStorageItem_eq_some {id slot : Nat} {record : VoidStorageItem}
    (h : player.getVoidStorageItem id = some (slot, record)) :
    slot < voidStorageMaxSlot ∧ player.voidStorageItems.find? slot = some record := by
  obtain ⟨i, hi, hfound⟩ := List.exists_of_findSome?_eq_some h
  obtain ⟨found, hfilter, heq⟩ := Option.map_eq_some_iff.mp hfound
  cases heq
  exact ⟨List.mem_range.mp hi, (Option.filter_eq_some_iff.mp hfilter).1⟩

/-! ### Deposits -/

/-- What one deposit takes away and what it records. -/
theorem deposit_found {guid : Nat} (h : Holds catalog ledger player.inv [])
    (hfree : 0 < player.getNumOfVoidStorageFreeSlots)
    (hfound : player.inv.itemByGuid guid = some (place, item)) :
    ∃ player' depositItem, player.deposit catalog guid = (player', some depositItem) ∧
      player'.inv = player.inv.destroyItem catalog place item ∧ player'.money = player.money ∧
      player'.getNumOfVoidStorageFreeSlots + 1 = player.getNumOfVoidStorageFreeSlots ∧
      ∀ entry, player.pieces entry + (if item.entry = entry then 1 else 0) =
        item.units entry +
          (((player.inv.heldBy catalog item).map fun held => held.2.units entry).sum +
            player'.pieces entry) := by
  obtain ⟨slot, hlt, hisFree, hadd⟩ := @addVoidStorageItem_of_free
    { player with nextVoidStorageItemId := player.nextVoidStorageItemId + 1 } hfree
    ⟨player.nextVoidStorageItemId, item.entry⟩
  rw [deposit, hfound]
  dsimp only
  rw [hadd]
  refine ⟨_, _, rfl, rfl, rfl, freeSlots_insert hlt hisFree rfl, fun entry => ?_⟩
  have hnone : player.voidStorageItems.find? slot = none := Option.isNone_iff_eq_none.mp hisFree
  rw [pieces, pieces, h.piecesOf_destroyItem (itemByGuid_find? hfound),
    OrderedMap.countValues_insert, OrderedMap.erase_of_find?_eq_none hnone]
  simp only [decide_eq_true_eq]
  omega

theorem deposit_missing {guid : Nat} (hfound : player.inv.itemByGuid guid = none) :
    player.deposit catalog guid = (player, none) := by
  rw [deposit, hfound]

theorem depositAll_cons (player : VoidStoragePlayer) (guid : Nat) (rest : List Nat) :
    (player.depositAll catalog (guid :: rest)).1 =
        ((player.deposit catalog guid).1.depositAll catalog rest).1 ∧
      (player.depositAll catalog (guid :: rest)).2 = (player.deposit catalog guid).2.toList ++
        ((player.deposit catalog guid).1.depositAll catalog rest).2 :=
  ⟨rfl, rfl⟩

/-- Every record was charged for when money was checked, and the purse is as before. -/
theorem depositAll_length (player : VoidStoragePlayer) (guids : List Nat) :
    (player.depositAll catalog guids).2.length ≤ guids.length := by
  induction guids generalizing player with
  | nil => exact le_rfl
  | cons guid rest ih =>
    rw [(depositAll_cons player guid rest).2, List.length_append, List.length_cons]
    have hrest := ih (player.deposit catalog guid).1
    have hone : (player.deposit catalog guid).2.toList.length ≤ 1 := by
      cases (player.deposit catalog guid).2 with
      | none => exact Nat.zero_le 1
      | some depositItem => exact le_rfl
    omega

theorem deposit_money (player : VoidStoragePlayer) (guid : Nat) :
    (player.deposit catalog guid).1.money = player.money := by
  rw [deposit]
  split
  · rfl
  · dsimp only [addVoidStorageItem]
    split
    · rfl
    · rfl

theorem depositAll_money (player : VoidStoragePlayer) (guids : List Nat) :
    (player.depositAll catalog guids).1.money = player.money := by
  induction guids generalizing player with
  | nil => rfl
  | cons guid rest ih =>
    rw [(depositAll_cons player guid rest).1, ih, deposit_money]

/-- Deposits make nothing, and lose nothing exactly when everything deposited is a single piece. -/
structure Deposited (catalog : Catalog) (before after : VoidStoragePlayer) (guids : List Nat) :
    Prop where
  holds : ∃ ledger, Holds catalog ledger after.inv []
  pieces_le : ∀ entry, after.pieces entry ≤ before.pieces entry
  pieces_eq_iff : (∀ entry, after.pieces entry = before.pieces entry) ↔
    before.inv.SinglePieces catalog guids

/-- Pieces that a deposit takes beyond the one that it records. -/
theorem exists_lost (h : Holds catalog ledger inv []) (hfind : inv.items.find? place = some item)
    (hmany : ¬ (item.count = 1 ∧ inv.heldBy catalog item = [])) :
    ∃ entry, (if item.entry = entry then 1 else 0) < item.units entry +
      ((inv.heldBy catalog item).map fun held => held.2.units entry).sum := by
  have hitem := allItems_stackable h (mem_allItems hfind)
  by_cases hone : item.count = 1
  · obtain ⟨held, rest, hheld⟩ := List.exists_cons_of_ne_nil fun hnil => hmany ⟨hone, hnil⟩
    have hinner : inv.items.find? (.content item.guid held.1) = some held.2 := by
      refine mem_heldBy (?_ : held ∈ inv.heldBy catalog item)
      rw [hheld]
      exact List.mem_cons_self
    have hpos := (allItems_stackable h (mem_allItems hinner)).positive
    refine ⟨held.2.entry, ?_⟩
    rw [hheld, List.map_cons, List.sum_cons, Item.units, Item.units, if_pos rfl, hone]
    omega
  · have hpos := hitem.positive
    refine ⟨item.entry, ?_⟩
    rw [if_pos rfl, Item.units, if_pos rfl]
    omega

theorem deposited_depositAll (h : Holds catalog ledger player.inv []) {guids : List Nat}
    (hfree : guids.length ≤ player.getNumOfVoidStorageFreeSlots) :
    Deposited catalog player (player.depositAll catalog guids).1 guids := by
  induction guids generalizing player ledger with
  | nil => exact ⟨⟨ledger, h⟩, fun _ => le_rfl, iff_of_true (fun _ => rfl) trivial⟩
  | cons guid rest ih =>
    rw [List.length_cons] at hfree
    rw [(depositAll_cons player guid rest).1]
    cases hfound : player.inv.itemByGuid guid with
    | none =>
      rw [deposit_missing hfound]
      have hrest := ih h (Nat.le_of_succ_le hfree)
      refine ⟨hrest.holds, hrest.pieces_le, hrest.pieces_eq_iff.trans ?_⟩
      rw [Inventory.SinglePieces, hfound]
    | some found =>
      obtain ⟨place, item⟩ := found
      have hfind := itemByGuid_find? hfound
      obtain ⟨player', depositItem, hdeposit, hinv, -, hfree', hpieces⟩ :=
        deposit_found h (Nat.lt_of_lt_of_le (Nat.succ_pos _) hfree) hfound
      obtain ⟨ledger', hholds⟩ := h.destroyItem hfind
      rw [← hinv] at hholds
      have hrest := ih hholds (by omega)
      rw [hdeposit]
      have hitem := allItems_stackable h (mem_allItems hfind)
      have hunits : ∀ entry, (if item.entry = entry then 1 else 0) ≤ item.units entry := by
        intro entry
        rw [Item.units]
        split
        · exact hitem.positive
        · exact le_rfl
      have hle : ∀ entry, player'.pieces entry ≤ player.pieces entry := by
        intro entry
        have hone := hunits entry
        have hsum := hpieces entry
        omega
      refine ⟨hrest.holds, fun entry => (hrest.pieces_le entry).trans (hle entry), ?_⟩
      rw [Inventory.SinglePieces, hfound]
      dsimp only
      by_cases hsingle : item.count = 1 ∧ player.inv.heldBy catalog item = []
      · obtain ⟨hone, hnil⟩ := hsingle
        have hsame : ∀ entry, player'.pieces entry = player.pieces entry := by
          intro entry
          have hsum := hpieces entry
          rw [hnil, List.map_nil, List.sum_nil, Item.units, hone] at hsum
          omega
        have hgone : player.inv.destroyItem catalog place item =
            { player.inv with
              items := player.inv.items.erase place
              destroyed := player.inv.destroyed ++ [item] } := by
          rw [Inventory.heldBy] at hnil
          rw [Inventory.destroyItem, hnil]
          rfl
        rw [← hgone, ← hinv, ← hrest.pieces_eq_iff]
        rw [iff_true_intro hone, true_and, iff_true_intro (heldBy_eq_nil_iff.mp hnil), true_and]
        exact forall_congr' fun entry => by rw [hsame entry]
      · refine iff_of_false (fun heq => ?_) fun hsingle' =>
          hsingle ⟨hsingle'.1, heldBy_eq_nil_iff.mpr hsingle'.2.1⟩
        obtain ⟨entry, hlost⟩ := exists_lost h hfind hsingle
        have hsum := hpieces entry
        have hafter := hrest.pieces_le entry
        have hall := heq entry
        omega

/-! ### Withdrawals -/

/-- A withdrawal gives a piece for each record that it deletes. -/
theorem pieces_withdrawAll (h : Holds catalog ledger player.inv []) (ids : List Nat) :
    (∀ entry, (player.withdrawAll catalog facts ids).1.pieces entry = player.pieces entry) ∧
      (player.withdrawAll catalog facts ids).1.money = player.money := by
  induction ids generalizing player ledger with
  | nil => exact ⟨fun _ => rfl, rfl⟩
  | cons id rest ih =>
    rw [withdrawAll]
    cases hfound : player.getVoidStorageItem id with
    | none => exact ih h
    | some found =>
      obtain ⟨slot, record⟩ := found
      obtain ⟨hlt, hfind⟩ := getVoidStorageItem_eq_some hfound
      dsimp only
      split
      · exact ⟨fun _ => rfl, rfl⟩
      · next hok =>
          obtain ⟨ledger', hstored, hpieces⟩ := h.storeNewItem Nat.one_pos (by decide)
            (catalog.template record.itemEntry).getMaxStackSize_pos (not_not.mp hok)
          have hdelete : ∀ inv, { player with inv := inv : VoidStoragePlayer
              }.deleteVoidStorageItem slot = { player with
                inv := inv, voidStorageItems := player.voidStorageItems.erase slot } := by
            intro inv
            rw [deleteVoidStorageItem, if_neg (Nat.not_le.mpr hlt)]
          rw [hdelete]
          obtain ⟨hrest, hmoney⟩ := @ih ledger'
            { player with
              inv := player.inv.storeNewItem catalog (canStoreNewItem catalog facts player.inv
                ⟨nullBag, nullSlot⟩ record.itemEntry 1).dest record.itemEntry
              voidStorageItems := player.voidStorageItems.erase slot } hstored
          refine ⟨fun entry => (hrest entry).trans ?_, hmoney⟩
          rw [pieces, pieces, hpieces, OrderedMap.countValues_eq_erase hfind]
          simp only [decide_eq_true_eq]
          omega

/-! ### Transfers -/

/-- A request that passes the checks. -/
theorem checkTransfer_eq_none {request : TransferRequest}
    (h : player.checkTransfer catalog request = none) :
    request.itemGuids.length ≤ player.getNumOfVoidStorageFreeSlots ∧
      request.itemGuids.length * voidStorageStoreItem ≤ player.money := by
  rw [checkTransfer] at h
  generalize (if request.itemIds.length ≠ 0 then _ else 0) = freeBagSlots at h
  split_ifs at h with hdeposits _ _ _ hslots _ hmoney
  rw [Bool.not_eq_true', Bool.not_eq_false, hasEnoughMoney, decide_eq_true_eq] at hmoney
  refine ⟨not_lt.mp hslots, ?_⟩
  have hlt : request.itemGuids.length * voidStorageStoreItem < 2 ^ 64 := by
    rw [voidStorageStoreItem]
    rw [voidStorageMaxDeposit] at hdeposits
    omega
  rwa [← Nat.cast_mul, uint64_of_lt hlt] at hmoney

/-- The purse holds no pieces. -/
theorem pieces_money (player : VoidStoragePlayer) (money entry : Nat) :
    { player with money := money : VoidStoragePlayer }.pieces entry = player.pieces entry := by
  rw [pieces, pieces]

/-- A transfer in a well formed inventory conserves exactly when it is refused or everything that it
deposits is a single piece with nothing in it. -/
theorem conserves_handleVoidStorageTransfer_iff (h : Holds catalog ledger player.inv [])
    (hmoney : player.money < 2 ^ 64) (request : TransferRequest) :
    (player.handleVoidStorageTransfer catalog facts request).Conserves player ↔
      (player.checkTransfer catalog request = none →
        player.inv.SinglePieces catalog request.itemGuids) := by
  rw [handleVoidStorageTransfer]
  cases hcheck : player.checkTransfer catalog request with
  | some result =>
    refine iff_of_true ⟨fun _ => rfl, ?_⟩ fun hnone => absurd hnone (Option.some_ne_none result)
    rw [List.length_nil, Nat.zero_mul, Nat.add_zero]
  | none =>
    obtain ⟨hslots, hprice⟩ := checkTransfer_eq_none hcheck
    obtain ⟨⟨ledger', hholds⟩, -, heq⟩ := deposited_depositAll h hslots
    have hlength := @depositAll_length catalog player request.itemGuids
    have hpurse := @depositAll_money catalog player request.itemGuids
    generalize player.depositAll catalog request.itemGuids = offered at hholds heq hlength hpurse ⊢
    obtain ⟨deposited, depositItems⟩ := offered
    dsimp only at hholds heq hlength hpurse ⊢
    obtain ⟨hpieces, hafter⟩ := @pieces_withdrawAll catalog facts ledger'
      { deposited with
        money := (modifyMoney deposited.money
          (-(depositItems.length * voidStorageStoreItem : Nat))).1 } hholds request.itemIds
    simp only [pieces_money] at hpieces
    generalize withdrawAll catalog facts _ request.itemIds = withdrawn at hpieces hafter ⊢
    obtain ⟨after, withdrawItems, result⟩ := withdrawn
    rw [imp_iff_right rfl, ← heq]
    constructor
    · intro hconserves entry
      exact (hpieces entry).symm.trans (hconserves.pieces entry)
    · intro hdeposits
      refine ⟨fun entry => (hpieces entry).trans (hdeposits entry), ?_⟩
      have hcost : depositItems.length * voidStorageStoreItem ≤ player.money :=
        (Nat.mul_le_mul_right _ hlength).trans hprice
      rw [hafter, hpurse, modifyMoney_neg hmoney hcost]
      exact Nat.sub_add_cancel hcost

/-- One piece of entry 2 in the backpack, and a void storage with a record of entry 3. -/
def sworded : VoidStoragePlayer where
  inv := ⟨OrderedMap.empty.insert (.own 23) ⟨1, 2, 1, [], false, false⟩, 2, [], []⟩
  voidStorageItems := OrderedMap.empty.insert 0 ⟨7, 3⟩
  money := 300000
  unlocked := true
  nextVoidStorageItemId := 8

/-- A deposit of one piece, asked for twice, and a withdrawal of one record. -/
theorem sworded_conserves :
    (sworded.handleVoidStorageTransfer pouchCatalog plainFacts ⟨[1, 1, 5], [7, 9], true⟩).Conserves
      sworded :=
  (conserves_handleVoidStorageTransfer_iff
    (holds_of_entries (by decide) (by decide) (by decide) fun entry hentry bagGuid slot hplace => by
      rw [List.mem_singleton.mp hentry] at hplace
      cases hplace) (by decide) ⟨[1, 1, 5], [7, 9], true⟩).mpr fun _ => ⟨rfl, rfl, trivial⟩

/-- The three pieces in the backpack become one record. -/
theorem stack_becomes_one_record :
    ∃ (player : VoidStoragePlayer) (ledger : Nat → Nat) (request : TransferRequest),
      Holds pouchCatalog ledger player.inv [] ∧ player.money < 2 ^ 64 ∧
        player.checkTransfer pouchCatalog request = none ∧
          ¬ (player.handleVoidStorageTransfer pouchCatalog plainFacts request).Conserves player := by
  refine ⟨⟨pouchInventory, OrderedMap.empty, 300000, true, 1⟩, _, ⟨[2], [], true⟩,
    holds_pouchInventory, by decide, by decide, fun hconserves => ?_⟩
  have hpieces := hconserves.pieces 2
  exact absurd hpieces (by decide)

end VoidStoragePlayer

end Cataclysm.Items
