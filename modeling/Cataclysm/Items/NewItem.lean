import Cataclysm.Items.Conservation

/-!
# Checks with a count, and new items

`CanStoreItem` is asked for an item at hand or, with a null pointer, for pieces of an entry that are
not created yet. It reports the count for which there is no space. `StoreNewItem` creates the item
and stores it.

## Implementation notes

The null pointer is an item with a guid that has not been handed out, so that no item in a slot is
skipped for it. What is reported stays unset when the check succeeds, and for a bag that is refused
since it is not empty.
-/

namespace Cataclysm.Items

/-- What is to be stored. -/
inductive Cargo
  | item (item : Item)
  | new (entry : Nat)
  deriving DecidableEq

namespace Cargo

def entry : Cargo → Nat
  | .item stack => stack.entry
  | .new entry => entry

def source (inv : Inventory) : Cargo → Item
  | .item stack => stack
  | .new entry => ⟨inv.nextGuid, entry, 0, [], false, false⟩

def lootGenerated : Cargo → Bool
  | .item stack => stack.lootGenerated
  | .new _ => false

def isBindedNotWith (facts : PlayerFacts) : Cargo → Bool
  | .item stack => facts.isBindedNotWith stack
  | .new _ => false

end Cargo

/-- The answer of a check; `noSpaceCount` is what it reports, unless it leaves it unset. -/
structure StoreAnswer where
  result : InventoryResult
  dest : List (ItemPos × Nat)
  noSpaceCount : Option Nat
  deriving DecidableEq

variable (catalog : Catalog) (facts : PlayerFacts)

/-- The items that are counted. -/
def heldItems (inv : Inventory) : List Item :=
  inv.ownItems catalog 0 inventorySlotItemEnd ++
    inv.itemsInBags catalog inventorySlotBagStart inventorySlotBagEnd ++
    inv.ownItems catalog bankSlotItemStart bankSlotBagEnd ++
    inv.itemsInBags catalog bankSlotBagStart bankSlotBagEnd

/-- `GetItemCount` with the bank. -/
def itemCountOf (inv : Inventory) : Cargo → Nat
  | .item item => getItemCount catalog inv item.entry item
  | .new entry =>
    (((heldItems catalog inv).filter fun item => item.entry = entry).map Item.count).sum

/-- `GetItemCountWithLimitCategory`. -/
def categoryCountOf (inv : Inventory) (limitCategory : Nat) : Cargo → Nat
  | .item item => getItemCountWithLimitCategory catalog inv limitCategory item
  | .new _ =>
    (((heldItems catalog inv).filter fun item =>
      (catalog.template item.entry).itemLimitCategory = limitCategory).map Item.count).sum

/-- `CanTakeMoreSimilarItems` with the count that is too much. -/
def canTakeMoreOf (inv : Inventory) (cargo : Cargo) (count : Nat) : InventoryResult × Nat :=
  let proto := catalog.template cargo.entry
  let curcount := itemCountOf catalog inv cargo
  if cargo.lootGenerated then (.lootGone, 0)
  else if proto.maxCount ≤ 0 ∧ proto.itemLimitCategory = 0 ∨ proto.maxCount = 2147483647 then
    (.ok, 0)
  else if 0 < proto.maxCount ∧ proto.maxCount < uint32 (curcount + count) then
    (.itemMaxCount, uint32 (count + curcount - proto.maxCount))
  else if proto.itemLimitCategory ≠ 0 then
    match catalog.limitCategory proto.itemLimitCategory with
    | none => (.notEquippable, count)
    | some limit =>
      let curcount := categoryCountOf catalog inv proto.itemLimitCategory cargo
      if limit.countsHave ∧ limit.maxCount < uint32 (curcount + count) then
        (.itemMaxLimitCategoryCountExceeded, uint32 (count + curcount - limit.maxCount))
      else (.ok, 0)
  else (.ok, 0)

/-- `CanStoreItem` with an empty list of destinations. -/
def canStoreCargo (inv : Inventory) (pos : ItemPos) (cargo : Cargo) (count : Nat) (swap : Bool) :
    StoreAnswer :=
  if cargo.lootGenerated then ⟨.lootGone, [], some count⟩
  else if cargo.isBindedNotWith facts then ⟨.notOwner, [], some count⟩
  else
    match canTakeMoreOf catalog inv cargo count with
    | (res, noSimilarCount) =>
      if res ≠ .ok ∧ count = noSimilarCount then ⟨res, [], some noSimilarCount⟩
      else
        match runSearch (if noSimilarCount = 0 then .ok else .itemMaxCount) .invFull
            (storePlan catalog inv pos (cargo.source inv) swap)
            ⟨[], uint32 ((count : Int) - noSimilarCount)⟩ with
        | (res, s) =>
          ⟨res, s.dest, if res = .ok ∨ res = .bagInBag then none
            else some (uint32 (s.count + noSimilarCount))⟩

/-- `CanStoreNewItem`. -/
def canStoreNewItem (inv : Inventory) (pos : ItemPos) (entry count : Nat) : StoreAnswer :=
  canStoreCargo catalog facts inv pos (.new entry) count false

/-- `Item::CreateItem`, with the inventory that has handed out a guid. -/
def Inventory.createItem (inv : Inventory) (entry count : Nat) : Option (Item × Inventory) :=
  if count < 1 then none
  else
    some (⟨inv.nextGuid, entry, min count (catalog.template entry).getMaxStackSize, [], false, true⟩,
      { inv with nextGuid := inv.nextGuid + 1 })

def Inventory.storeNewItem (inv : Inventory) (dest : List (ItemPos × Nat)) (entry : Nat) :
    Inventory :=
  match inv.createItem catalog entry (dest.map Prod.snd).sum with
  | some (newItem, inv) => inv.storeItem catalog newItem dest
  | none => inv

variable {catalog facts} {inv : Inventory} {ledger : Nat → Nat} {hand : List Item}

/-! ### Creating and storing -/

/-- A new item is at hand, and the ledger has its pieces. -/
theorem Holds.create (h : Holds catalog ledger inv hand) {new : Item} {count : Nat}
    (hguid : new.guid = inv.nextGuid) (hcount : new.count = count) (hpos : 0 < count)
    (hbounded : count ≤ new.maxStack catalog) :
    Holds catalog (fun entry => ledger entry + new.units entry)
      { inv with nextGuid := inv.nextGuid + 1 } (new :: hand) where
  stock := by
    refine ⟨?_, ?_, ?_, ?_⟩
    · rw [List.cons_append, List.map_cons, List.nodup_cons]
      refine ⟨fun hmem => ?_, h.stock.distinct⟩
      obtain ⟨other, hother, hsame⟩ := List.mem_map.mp hmem
      have hlt := h.stock.fresh other hother
      omega
    · intro item hitem
      rw [List.cons_append] at hitem
      rcases List.mem_cons.mp hitem with rfl | hold
      · rw [hguid]
        exact Nat.lt_succ_self _
      · exact (h.stock.fresh item hold).trans (Nat.lt_succ_self _)
    · intro item hitem
      rw [List.cons_append] at hitem
      rcases List.mem_cons.mp hitem with rfl | hold
      · exact ⟨hcount ▸ hpos, hcount ▸ hbounded⟩
      · exact h.stock.stackable item hold
    · intro entry
      have hbalance := h.stock.balance entry
      rw [List.cons_append, tally_cons]
      dsimp only [Inventory.allItems] at hbalance ⊢
      omega
  nested := by
    intro bagGuid slot item hfind
    obtain ⟨bag, hbagGuid, hbag, hslot, hin⟩ := h.nested bagGuid slot item hfind
    exact ⟨bag, hbagGuid, hbag, hslot, hin.imp_left (List.mem_cons_of_mem new)⟩

/-- Nothing in a slot is taken for the null pointer. -/
theorem Holds.notInside_new (h : Holds catalog ledger inv []) (entry : Nat) (pos : ItemPos) :
    NotInside catalog inv (Cargo.source inv (.new entry)) pos := by
  intro bag hbag hguid
  obtain ⟨-, hfind, -⟩ := getBagByPos_eq_some.mp hbag
  have hlt := h.stock.fresh bag (List.mem_append_right _ (mem_allItems hfind))
  rw [hguid] at hlt
  exact absurd hlt (lt_irrefl inv.nextGuid)

/-- A check that succeeds for a count has found room for exactly that count. -/
theorem canStoreCargo_ok {cargo : Cargo} {pos : ItemPos} {count : Nat} {swap : Bool}
    (hlt : count < 2 ^ 32)
    (h : (canStoreCargo catalog facts inv pos cargo count swap).result = .ok) :
    (runSearch .ok .invFull (storePlan catalog inv pos (cargo.source inv) swap) ⟨[], count⟩).1 =
        .ok ∧
      (canStoreCargo catalog facts inv pos cargo count swap).dest =
        (runSearch .ok .invFull (storePlan catalog inv pos (cargo.source inv) swap)
          ⟨[], count⟩).2.dest := by
  unfold canStoreCargo at h ⊢
  split at h
  · cases h
  · next hloot =>
      split at h
      · cases h
      · next hbound =>
          rw [if_neg hloot, if_neg hbound]
          dsimp only at h ⊢
          split at h
          · next hrefused => exact absurd h hrefused.1
          · next hrefused =>
              rw [if_neg hrefused]
              have hdone := runSearch_done storePlan_noOkRefusal (by decide) h
              have hzero : (canTakeMoreOf catalog inv cargo count).2 = 0 := by
                by_contra hne
                rw [if_neg hne] at hdone
                cases hdone
              rw [hzero, if_pos rfl, Nat.cast_zero, sub_zero, uint32_of_lt hlt] at h ⊢
              exact ⟨h, rfl⟩

theorem canStoreCargo_chosen {cargo : Cargo} {pos : ItemPos} {count : Nat} (hpos : 0 < count)
    (hlt : count < 2 ^ 32) (hinside : NotInside catalog inv (cargo.source inv) pos)
    (h : (canStoreCargo catalog facts inv pos cargo count false).result = .ok) :
    Chosen catalog inv (cargo.source inv)
        (canStoreCargo catalog facts inv pos cargo count false).dest ∧
      ((canStoreCargo catalog facts inv pos cargo count false).dest.map Prod.snd).sum = count := by
  obtain ⟨hok, hdest⟩ := canStoreCargo_ok hlt h
  obtain ⟨-, hzero, hwithin⟩ := runSearch_within (storePlan_within hinside) (by decide) hpos
    within_nil hok
  rw [hdest]
  refine ⟨hwithin.chosen, ?_⟩
  have hsum := hwithin.sum
  rwa [hzero, add_zero] at hsum

/-- `StoreItem` touches slots only. -/
theorem storeItemAt_frame (inv : Inventory) (pos : ItemPos) (item : Item) (count : Nat)
    (clone : Bool) :
    (inv.storeItemAt catalog pos item count clone).mailed = inv.mailed ∧
      (inv.storeItemAt catalog pos item count clone).destroyed = inv.destroyed := by
  unfold Inventory.storeItemAt
  split
  · split
    · unfold Inventory.cloneItem
      split
      · next heq =>
          split at heq
          · cases heq
          · cases heq
            exact ⟨rfl, rfl⟩
      · exact ⟨rfl, rfl⟩
    · exact ⟨rfl, rfl⟩
  · exact ⟨rfl, rfl⟩

theorem storeItem_frame (inv : Inventory) (item : Item) (dest : List (ItemPos × Nat)) :
    (inv.storeItem catalog item dest).mailed = inv.mailed ∧
      (inv.storeItem catalog item dest).destroyed = inv.destroyed := by
  induction dest generalizing inv with
  | nil => exact ⟨rfl, rfl⟩
  | cons found rest ih =>
    rw [Inventory.storeItem]
    obtain ⟨hmailed, hdestroyed⟩ :=
      ih (inv.storeItemAt catalog found.1 item found.2 !rest.isEmpty)
    obtain ⟨hmailed', hdestroyed'⟩ := @storeItemAt_frame catalog inv found.1 item found.2
      !rest.isEmpty
    exact ⟨hmailed.trans hmailed', hdestroyed.trans hdestroyed'⟩

/-- The pieces of an entry that lie in slots. -/
def Inventory.piecesOf (inv : Inventory) (entry : Nat) : Nat :=
  inv.items.sumValues (Item.units entry)

theorem tally_allItems (inv : Inventory) (entry : Nat) :
    tally entry inv.allItems = inv.piecesOf entry + tally entry inv.mailed := by
  rw [Inventory.allItems, tally_append, tally, List.map_map]
  rfl

/-- What is found for an entry and stored is that many more pieces of it. -/
theorem Holds.storeNewItem (h : Holds catalog ledger inv []) {pos : ItemPos} {entry count : Nat}
    (hpos : 0 < count) (hlt : count < 2 ^ 32)
    (hle : count ≤ (catalog.template entry).getMaxStackSize)
    (hok : (canStoreNewItem catalog facts inv pos entry count).result = .ok) :
    ∃ ledger', Holds catalog ledger'
        (inv.storeNewItem catalog (canStoreNewItem catalog facts inv pos entry count).dest entry)
        [] ∧
      ∀ entry',
        (inv.storeNewItem catalog (canStoreNewItem catalog facts inv pos entry count).dest
          entry).piecesOf entry' = inv.piecesOf entry' + if entry = entry' then count else 0 := by
  obtain ⟨hchosen, hsum⟩ := canStoreCargo_chosen hpos hlt (h.notInside_new entry pos) hok
  have hcreate : inv.createItem catalog entry count =
      some (⟨inv.nextGuid, entry, count, [], false, true⟩,
        { inv with nextGuid := inv.nextGuid + 1 }) := by
    rw [Inventory.createItem, if_neg (Nat.not_lt.mpr hpos), min_eq_left hle]
  have hcreated := @Holds.create catalog inv ledger [] h
    ⟨inv.nextGuid, entry, count, [], false, true⟩ count rfl rfl hpos hle
  have hstored := hcreated.storeItem hsum
    ⟨hchosen.distinct, fun found hfound =>
      have hroom := hchosen.room found hfound
      ⟨hroom.positive, hroom.place, hroom.free, hroom.stack⟩⟩ h.fresh_empty
  rw [Inventory.storeNewItem, canStoreNewItem, hsum, hcreate]
  refine ⟨_, hstored.holds, fun entry' => ?_⟩
  have hafter := hstored.holds.stock.balance entry'
  have hbefore := h.stock.balance entry'
  obtain ⟨hmailed, hdestroyed⟩ := @storeItem_frame catalog
    { inv with nextGuid := inv.nextGuid + 1 } ⟨inv.nextGuid, entry, count, [], false, true⟩
    (canStoreCargo catalog facts inv pos (.new entry) count false).dest
  rw [List.nil_append, tally_allItems] at hafter hbefore
  rw [hmailed, hdestroyed] at hafter
  rw [Item.units] at hafter
  dsimp only at hafter ⊢
  omega

end Cataclysm.Items
