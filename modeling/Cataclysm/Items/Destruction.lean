import Cataclysm.Items.Conservation

/-!
# Destroying items

`DestroyItem` takes an item out of its slot for good, and what is in a bag with it. Whatever is left
afterwards was there before, in the same slot.

## Implementation notes

Auras, item modifiers, durations and quest counters are left out.
-/

namespace Cataclysm.Items

variable {catalog : Catalog} {inv inv' : Inventory} {item : Item}

/-- `DestroyItem` of what lies at an address. -/
def Inventory.destroyItemAt (catalog : Catalog) (inv : Inventory) (pos : ItemPos) : Inventory :=
  match inv.place? catalog pos with
  | none => inv
  | some place =>
    match inv.items.find? place with
    | none => inv
    | some item => inv.destroyItem catalog place item

/-! ### What is left -/

/-- What is in a slot afterwards was there before, with at least as many pieces. -/
def Shrinks (inv inv' : Inventory) : Prop :=
  ∀ place new, inv'.items.find? place = some new →
    ∃ old, inv.items.find? place = some old ∧ SameItem old new ∧ new.count ≤ old.count

theorem SameItem.symm {item item' : Item} (h : SameItem item item') : SameItem item' item :=
  ⟨h.1.symm, h.2.symm⟩

theorem Shrinks.refl (inv : Inventory) : Shrinks inv inv :=
  fun _ new hnew => ⟨new, hnew, ⟨rfl, rfl⟩, le_refl _⟩

theorem Shrinks.trans {inv'' : Inventory} (h : Shrinks inv inv') (h' : Shrinks inv' inv'') :
    Shrinks inv inv'' := by
  intro place new hnew
  obtain ⟨middle, hmiddle, hsame, hcount⟩ := h' place new hnew
  obtain ⟨old, hold, hsame', hcount'⟩ := h place middle hmiddle
  exact ⟨old, hold, hsame'.trans hsame, hcount.trans hcount'⟩

/-- What was not there stays away. -/
theorem Shrinks.absent (h : Shrinks inv inv') {place : Place}
    (hnone : inv.items.find? place = none) : inv'.items.find? place = none := by
  rw [Option.eq_none_iff_forall_ne_some]
  intro new hnew
  obtain ⟨old, hold, -⟩ := h place new hnew
  rw [hnone] at hold
  cases hold

/-- An address that still denotes a place denotes the one it did. -/
theorem Shrinks.place? (h : Shrinks inv inv') {pos : ItemPos} {place : Place}
    (hplace : inv'.place? catalog pos = some place) : inv.place? catalog pos = some place := by
  obtain ⟨hbag, hslot, rfl⟩ | ⟨bag, hbag, hslot, rfl⟩ := place?_eq_some.mp hplace
  · exact place?_eq_some.mpr (Or.inl ⟨hbag, hslot, rfl⟩)
  · obtain ⟨hbagSlot, hfind, hisBag⟩ := getBagByPos_eq_some.mp hbag
    obtain ⟨old, hold, hsame, -⟩ := h _ _ hfind
    refine place?_eq_some.mpr (Or.inr ⟨old, getBagByPos_eq_some.mpr ⟨hbagSlot, hold, ?_⟩, ?_, ?_⟩)
    · exact hsame.symm.isBag.trans hisBag
    · rwa [hsame.symm.bagSize]
    · rw [hsame.1]

/-! ### What goes -/

theorem find?_foldl_erase_content (guid : Nat) (held : List (Nat × Item))
    (items : OrderedMap Place Item) (place : Place) :
    (held.foldl (fun items entry => items.erase (.content guid entry.1)) items).find? place =
      if ∃ entry ∈ held, place = .content guid entry.1 then none else items.find? place := by
  induction held generalizing items with
  | nil => simp
  | cons entry rest ih =>
    rw [List.foldl_cons, ih, OrderedMap.find?_erase]
    by_cases hhead : place = .content guid entry.1
    · rw [if_pos hhead, ite_self, if_pos ⟨entry, List.mem_cons_self, hhead⟩]
    · rw [if_neg hhead]
      refine ite_congr (propext ?_) (fun _ => rfl) (fun _ => rfl)
      rw [List.exists_mem_cons_iff, or_iff_right hhead]

theorem mem_contents {entry : Nat × Item} :
    entry ∈ inv.contents catalog item ↔ entry.1 < item.bagSize catalog ∧
      inv.items.find? (.content item.guid entry.1) = some entry.2 := by
  rw [Inventory.contents, List.mem_filterMap]
  constructor
  · rintro ⟨slot, hslot, hentry⟩
    obtain ⟨inner, hinner, rfl⟩ := Option.map_eq_some_iff.mp hentry
    exact ⟨List.mem_range.mp hslot, hinner⟩
  · rintro ⟨hslot, hinner⟩
    exact ⟨entry.1, List.mem_range.mpr hslot, by rw [hinner, Option.map_some]⟩

/-- The item goes, and everything in it. -/
theorem find?_destroyItem (inv : Inventory) (place : Place) (item : Item) (place' : Place) :
    (inv.destroyItem catalog place item).items.find? place' =
      if place' = place ∨
          item.isBag catalog = true ∧ ∃ i < item.bagSize catalog, place' = .content item.guid i then
        none
      else inv.items.find? place' := by
  rw [Inventory.destroyItem]
  dsimp only
  rw [find?_foldl_erase_content, OrderedMap.find?_erase]
  by_cases hplace : place' = place
  · rw [if_pos hplace, if_pos (Or.inl hplace), ite_self]
  · rw [if_neg hplace]
    by_cases hin : item.isBag catalog = true ∧ ∃ i < item.bagSize catalog,
        place' = .content item.guid i
    · rw [if_pos (Or.inr hin)]
      obtain ⟨hbag, i, hi, rfl⟩ := hin
      cases hinner : inv.items.find? (.content item.guid i) with
      | none => exact ite_self none
      | some inner =>
        rw [if_pos]
        refine ⟨(i, inner), ?_, rfl⟩
        rw [if_pos hbag]
        exact mem_contents.mpr ⟨hi, hinner⟩
    · rw [if_neg (not_or.mpr ⟨hplace, hin⟩), if_neg]
      rintro ⟨entry, hentry, heq⟩
      split at hentry
      · next hbag => exact hin ⟨hbag, entry.1, (mem_contents.mp hentry).1, heq⟩
      · cases hentry

theorem shrinks_destroyItem (inv : Inventory) (place : Place) (item : Item) :
    Shrinks inv (inv.destroyItem catalog place item) := by
  intro place' new hnew
  rw [find?_destroyItem] at hnew
  split at hnew
  · cases hnew
  · exact ⟨new, hnew, ⟨rfl, rfl⟩, le_refl _⟩

theorem destroyItemAt_of_place {pos : ItemPos} {place : Place}
    (hplace : inv.place? catalog pos = some place) (hfind : inv.items.find? place = some item) :
    inv.destroyItemAt catalog pos = inv.destroyItem catalog place item := by
  simp only [Inventory.destroyItemAt, hplace, hfind]

theorem shrinks_destroyItemAt (inv : Inventory) (pos : ItemPos) :
    Shrinks inv (inv.destroyItemAt catalog pos) := by
  rw [Inventory.destroyItemAt]
  split
  · exact Shrinks.refl inv
  · split
    · exact Shrinks.refl inv
    · exact shrinks_destroyItem inv _ _

/-- Only a bag in a bag slot has contents. -/
theorem Holds.contents_empty {ledger : Nat → Nat} (h : Holds catalog ledger inv []) {place : Place}
    (hfind : inv.items.find? place = some item)
    (hplace : ∀ slot, isBagSlot slot = true → place ≠ .own slot) (slot : Nat) :
    inv.items.find? (.content item.guid slot) = none := by
  rw [Option.eq_none_iff_forall_ne_some]
  intro inner hinner
  obtain ⟨bag, hguid, -, -, hin⟩ := h.nested _ _ _ hinner
  obtain hhand | ⟨s, hs, hown⟩ := hin
  · cases hhand
  · exact hplace s hs (h.place_injective hown hfind hguid.symm)

/-! ### Inventories that are written out -/

/-- What makes an inventory well formed, as a check of its items. -/
theorem holds_of_entries (hdistinct : (inv.allItems.map Item.guid).Nodup)
    (hfresh : ∀ item ∈ inv.allItems, item.guid < inv.nextGuid)
    (hstackable : ∀ item ∈ inv.allItems, 0 < item.count ∧ item.count ≤ item.maxStack catalog)
    (hnested : ∀ entry ∈ inv.items.entries, ∀ bagGuid slot, entry.1 = .content bagGuid slot →
      ∃ bag s, bag.guid = bagGuid ∧ bag.isBag catalog = true ∧ slot < bag.bagSize catalog ∧
        isBagSlot s = true ∧ inv.items.find? (.own s) = some bag) :
    Holds catalog (fun entry => tally entry inv.allItems + tally entry inv.destroyed) inv [] where
  stock := {
    distinct := hdistinct
    fresh := hfresh
    stackable := fun item hitem => ⟨(hstackable item hitem).1, (hstackable item hitem).2⟩
    balance := fun _ => rfl }
  nested := by
    intro bagGuid slot item hfind
    obtain ⟨bag, s, hguid, hbag, hslot, hs, hown⟩ :=
      hnested _ (OrderedMap.find?_eq_some_iff.mp hfind) bagGuid slot rfl
    exact ⟨bag, hguid, hbag, hslot, Or.inr ⟨s, hs, hown⟩⟩

/-- Entry 1 is a bag with six slots, all others are goods that stack to twenty. -/
def pouchCatalog : Catalog where
  template entry :=
    if entry = 1 then ⟨.container, 0, .bag, 0, 1, 0, 0, 6, 0, 0, false, false⟩
    else ⟨.tradeGoods, 0, .nonEquip, 0, 20, 0, 0, 0, 0, 0, false, false⟩
  limitCategory _ := none
  containerSlots_le entry := by split <;> decide
  stackable_le entry := by split <;> decide

def plainFacts : PlayerFacts where
  isAlive := true
  canDualWield := false
  canTitanGrip := false
  wearsRelics := false
  bankBagSlotCount := 0
  isBindedNotWith _ := false
  equipStateLocked := none
  equipRefusal _ := none
  canUseItem _ := .ok
  canEquipUniqueItem _ _ := .ok
  isInTradeWindow _ := false
  lootGuid := 0

/-- A pouch in the first bag slot with five pieces of entry 2 in it, and three more in the
backpack. -/
def pouchInventory : Inventory where
  items := ((OrderedMap.empty.insert (.own 19) ⟨1, 1, 1, [], false, false⟩).insert (.own 23)
    ⟨2, 2, 3, [], false, false⟩).insert (.content 1 0) ⟨3, 2, 5, [], false, false⟩
  nextGuid := 4
  mailed := []
  destroyed := []

theorem holds_pouchInventory : Holds pouchCatalog
    (fun entry => tally entry pouchInventory.allItems + tally entry pouchInventory.destroyed)
    pouchInventory [] := by
  refine holds_of_entries (by decide) (by decide) (by decide) ?_
  intro entry hentry bagGuid slot hplace
  refine ⟨⟨1, 1, 1, [], false, false⟩, 19, ?_, by decide, ?_, by decide, by decide⟩
  all_goals
    fin_cases hentry
    all_goals
      cases hplace
      try decide

end Cataclysm.Items
