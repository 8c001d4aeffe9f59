import Cataclysm.Items.Room

/-!
# Items at hand and items in slots

Between the removal of an item and its storage the item is in no slot but still exists: it is at
hand. What must hold is stated of the items in slots, in mails and at hand together: every guid
once, every stack within its bounds, and of every entry the same number of pieces. A move between
slot and hand only reorders them; a merge and a split keep their sums.
-/

namespace Cataclysm.Items

variable {catalog : Catalog} {facts : PlayerFacts} {inv : Inventory} {item : Item}

/-- The pieces of an entry that an item counts for. -/
def Item.units (entry : Nat) (item : Item) : Nat := if item.entry = entry then item.count else 0

def tally (entry : Nat) (items : List Item) : Nat := (items.map (Item.units entry)).sum

theorem tally_cons (entry : Nat) (item : Item) (items : List Item) :
    tally entry (item :: items) = item.units entry + tally entry items := by
  rw [tally, List.map_cons, List.sum_cons, tally]

theorem tally_append (entry : Nat) (items items' : List Item) :
    tally entry (items ++ items') = tally entry items + tally entry items' := by
  rw [tally, List.map_append, List.sum_append, tally, tally]

theorem tally_perm {items items' : List Item} (h : items.Perm items') (entry : Nat) :
    tally entry items = tally entry items' :=
  (h.map _).sum_nat

/-! ### Stock -/

/-- Distinct items, each from the counter of guids and within the bounds of a stack; with what is
lost they make up a given number of pieces of each entry. -/
structure Stock (catalog : Catalog) (ledger : Nat → Nat) (nextGuid : Nat) (lost items : List Item) :
    Prop where
  distinct : (items.map Item.guid).Nodup
  fresh : ∀ item ∈ items, item.guid < nextGuid
  stackable : ∀ item ∈ items, Stackable catalog item
  balance : ∀ entry, tally entry items + tally entry lost = ledger entry

variable {ledger : Nat → Nat} {nextGuid : Nat} {lost items : List Item}

variable {other : Item} {count : Nat}

theorem Stock.perm {items' : List Item} (h : Stock catalog ledger nextGuid lost items)
    (hperm : items.Perm items') : Stock catalog ledger nextGuid lost items' where
  distinct := (hperm.map Item.guid).nodup_iff.mp h.distinct
  fresh := fun item hitem => h.fresh item (hperm.mem_iff.mpr hitem)
  stackable := fun item hitem => h.stackable item (hperm.mem_iff.mpr hitem)
  balance := by
    intro entry
    rw [← tally_perm hperm]
    exact h.balance entry

/-- Some pieces of one stack go to another stack of the same entry. -/
theorem Stock.pour {item : Item} (h : Stock catalog ledger nextGuid lost (item :: other :: items))
    (hentry : other.entry = item.entry) (hlt : count < item.count)
    (hroom : other.count + count ≤ item.maxStack catalog) :
    Stock catalog ledger nextGuid lost ({ item with count := item.count - count } ::
      { other with count := other.count + count } :: items) := by
  have hitem := h.stackable item List.mem_cons_self
  have hother := h.stackable other (List.mem_cons_of_mem item List.mem_cons_self)
  refine ⟨h.distinct, ?_, ?_, ?_⟩
  · rw [List.forall_mem_cons, List.forall_mem_cons]
    refine ⟨h.fresh item List.mem_cons_self,
      h.fresh other (List.mem_cons_of_mem item List.mem_cons_self), ?_⟩
    exact fun rest hrest => h.fresh rest (List.mem_cons_of_mem _ (List.mem_cons_of_mem _ hrest))
  · rw [List.forall_mem_cons, List.forall_mem_cons]
    refine ⟨⟨Nat.sub_pos_of_lt hlt, (Nat.sub_le _ _).trans hitem.bounded⟩,
      ⟨Nat.add_pos_left hother.positive _, ?_⟩, ?_⟩
    · rw [Item.maxStack] at hroom ⊢
      dsimp only
      rwa [hentry]
    · exact fun rest hrest =>
        h.stackable rest (List.mem_cons_of_mem _ (List.mem_cons_of_mem _ hrest))
  · intro entry
    rw [← h.balance entry]
    simp only [tally_cons, Item.units]
    rw [hentry]
    split
    · omega
    · omega

/-- All pieces of one stack go to another stack of the same entry, and the first is no more. -/
theorem Stock.merge {item : Item}
    (h : Stock catalog ledger nextGuid lost (item :: other :: items))
    (hentry : other.entry = item.entry) (hroom : other.count + item.count ≤ item.maxStack catalog) :
    Stock catalog ledger nextGuid lost
      ({ other with count := other.count + item.count } :: items) := by
  have hother := h.stackable other (List.mem_cons_of_mem item List.mem_cons_self)
  refine ⟨(List.nodup_cons.mp h.distinct).2, ?_, ?_, ?_⟩
  · rw [List.forall_mem_cons]
    refine ⟨h.fresh other (List.mem_cons_of_mem item List.mem_cons_self), ?_⟩
    exact fun rest hrest => h.fresh rest (List.mem_cons_of_mem _ (List.mem_cons_of_mem _ hrest))
  · rw [List.forall_mem_cons]
    refine ⟨⟨Nat.add_pos_left hother.positive _, ?_⟩, ?_⟩
    · rw [Item.maxStack] at hroom ⊢
      dsimp only
      rwa [hentry]
    · exact fun rest hrest =>
        h.stackable rest (List.mem_cons_of_mem _ (List.mem_cons_of_mem _ hrest))
  · intro entry
    rw [← h.balance entry]
    simp only [tally_cons, Item.units]
    rw [hentry]
    split
    · omega
    · omega

/-- Some pieces of a stack become a new item. -/
theorem Stock.split {item new : Item} {count : Nat}
    (h : Stock catalog ledger nextGuid lost (item :: items)) (hpos : 0 < count)
    (hlt : count < item.count) (hguid : new.guid = nextGuid) (hentry : new.entry = item.entry)
    (hcount : new.count = count) :
    Stock catalog ledger (nextGuid + 1) lost
      (new :: { item with count := item.count - count } :: items) := by
  have hitem := h.stackable item List.mem_cons_self
  refine ⟨?_, ?_, ?_, ?_⟩
  · rw [List.map_cons, List.nodup_cons]
    refine ⟨?_, h.distinct⟩
    intro hin
    obtain ⟨old, hold, heq⟩ :=
      List.mem_map.mp (show new.guid ∈ (item :: items).map Item.guid from hin)
    have hlt := h.fresh old hold
    omega
  · rw [List.forall_mem_cons, List.forall_mem_cons]
    refine ⟨by omega, ?_, ?_⟩
    · exact (h.fresh item List.mem_cons_self).trans (Nat.lt_succ_self _)
    · exact fun rest hrest =>
        (h.fresh rest (List.mem_cons_of_mem item hrest)).trans (Nat.lt_succ_self _)
  · rw [List.forall_mem_cons, List.forall_mem_cons]
    refine ⟨⟨by omega, ?_⟩, ⟨Nat.sub_pos_of_lt hlt, (Nat.sub_le _ _).trans hitem.bounded⟩, ?_⟩
    · rw [Item.maxStack, hentry, hcount]
      exact hlt.le.trans hitem.bounded
    · exact fun rest hrest => h.stackable rest (List.mem_cons_of_mem item hrest)
  · intro entry
    rw [← h.balance entry]
    simp only [tally_cons, Item.units]
    rw [hentry, hcount]
    split
    · omega
    · omega

/-! ### The inventory and what is at hand -/

/-- The contents of bags lie in slots of bags that are open or at hand. -/
def Nested (catalog : Catalog) (inv : Inventory) (hand : List Item) : Prop :=
  ∀ bagGuid slot item, inv.items.find? (.content bagGuid slot) = some item →
    ∃ bag, bag.guid = bagGuid ∧ bag.isBag catalog = true ∧ slot < bag.bagSize catalog ∧
      (bag ∈ hand ∨ ∃ s, isBagSlot s = true ∧ inv.items.find? (.own s) = some bag)

/-- The items in slots, in mails and at hand, with what was destroyed, make up the ledger. -/
structure Holds (catalog : Catalog) (ledger : Nat → Nat) (inv : Inventory) (hand : List Item) :
    Prop where
  stock : Stock catalog ledger inv.nextGuid inv.destroyed (hand ++ inv.allItems)
  nested : Nested catalog inv hand

variable {hand : List Item}

variable {place : Place} {item' : Item}

theorem allItems_perm_of_find? (h : inv.items.find? place = some item) :
    inv.allItems.Perm
      (item :: { inv with items := inv.items.erase place : Inventory }.allItems) := by
  rw [Inventory.allItems, Inventory.allItems, ← List.cons_append]
  exact ((OrderedMap.perm_erase h).map Prod.snd).append_right _

theorem allItems_perm_insert (inv : Inventory) (place : Place) (item : Item) :
    { inv with items := inv.items.insert place item : Inventory }.allItems.Perm
      (item :: { inv with items := inv.items.erase place : Inventory }.allItems) := by
  rw [Inventory.allItems, Inventory.allItems, ← List.cons_append]
  exact ((inv.items.perm_insert place item).map Prod.snd).append_right _

/-- An item leaves its slot. -/
theorem Holds.take (h : Holds catalog ledger inv hand) (hfind : inv.items.find? place = some item) :
    Holds catalog ledger { inv with items := inv.items.erase place } (item :: hand) where
  stock := by
    refine h.stock.perm ?_
    exact ((allItems_perm_of_find? hfind).append_left hand).trans List.perm_middle
  nested := by
    intro bagGuid slot inner hinner
    rw [OrderedMap.find?_erase] at hinner
    split at hinner
    · cases hinner
    · obtain ⟨bag, hguid, hbag, hslot, hin⟩ := h.nested bagGuid slot inner hinner
      refine ⟨bag, hguid, hbag, hslot, ?_⟩
      obtain hhand | ⟨s, hs, hown⟩ := hin
      · exact Or.inl (List.mem_cons_of_mem item hhand)
      · by_cases heq : Place.own s = place
        · rw [heq, hfind] at hown
          cases hown
          exact Or.inl List.mem_cons_self
        · refine Or.inr ⟨s, hs, ?_⟩
          rw [OrderedMap.find?_erase, if_neg heq]
          exact hown

/-- A bag with this guid holds something. -/
def HasContents (inv : Inventory) (guid : Nat) : Prop :=
  ∃ slot item, inv.items.find? (.content guid slot) = some item

/-- The place is one of the player's own, or a slot of a bag that is open or at hand. -/
def Reaches (catalog : Catalog) (inv : Inventory) (hand : List Item) (place : Place) : Prop :=
  ∀ bagGuid slot, place = .content bagGuid slot →
    ∃ bag, bag.guid = bagGuid ∧ bag.isBag catalog = true ∧ slot < bag.bagSize catalog ∧
      (bag ∈ hand ∨ ∃ s, isBagSlot s = true ∧ inv.items.find? (.own s) = some bag)

/-- An item at hand goes to a free place; a bag with contents goes to a bag slot. -/
theorem Holds.put (h : Holds catalog ledger inv (item :: hand))
    (hfree : inv.items.find? place = none) (hreach : Reaches catalog inv hand place)
    (hbag : HasContents inv item.guid → ∃ s, isBagSlot s = true ∧ place = .own s) :
    Holds catalog ledger { inv with items := inv.items.insert place item } hand where
  stock := by
    refine h.stock.perm ?_
    have hinsert := allItems_perm_insert inv place item
    rw [OrderedMap.erase_of_find?_eq_none hfree] at hinsert
    rw [List.cons_append]
    exact (List.perm_middle.symm).trans ((hinsert.append_left hand).symm)
  nested := by
    have hkeep : ∀ s bag, inv.items.find? (.own s) = some bag →
        (inv.items.insert place item).find? (.own s) = some bag := by
      intro s bag hown
      rw [OrderedMap.find?_insert]
      split
      · next heq =>
          rw [heq, hfree] at hown
          cases hown
      · exact hown
    intro bagGuid slot inner hinner
    rw [OrderedMap.find?_insert] at hinner
    split at hinner
    · next heq =>
        obtain ⟨bag, hguid, hisBag, hslot, hin⟩ := hreach bagGuid slot heq.symm
        refine ⟨bag, hguid, hisBag, hslot, hin.imp_right ?_⟩
        rintro ⟨s, hs, hown⟩
        exact ⟨s, hs, hkeep s bag hown⟩
    · obtain ⟨bag, hguid, hisBag, hslot, hin⟩ := h.nested bagGuid slot inner hinner
      refine ⟨bag, hguid, hisBag, hslot, ?_⟩
      obtain hhand | ⟨s, hs, hown⟩ := hin
      · obtain rfl | hhand := List.mem_cons.mp hhand
        · subst hguid
          obtain ⟨s, hs, rfl⟩ := hbag ⟨slot, inner, hinner⟩
          exact Or.inr ⟨s, hs, OrderedMap.find?_insert_self _ _ _⟩
        · exact Or.inl hhand
      · exact Or.inr ⟨s, hs, hkeep s bag hown⟩

/-- Two versions of an item with the same guid and entry. -/
def SameItem (item item' : Item) : Prop := item'.guid = item.guid ∧ item'.entry = item.entry

theorem SameItem.withCount (item : Item) (count : Nat) :
    SameItem item { item with count := count } := ⟨rfl, rfl⟩

theorem SameItem.isBag {item : Item} (h : SameItem item item') :
    item'.isBag catalog = item.isBag catalog := by
  rw [Item.isBag, Item.isBag, h.2]

theorem SameItem.bagSize {item : Item} (h : SameItem item item') :
    item'.bagSize catalog = item.bagSize catalog := by
  rw [Item.bagSize, Item.bagSize, h.2]

/-- Another version of an item takes its place. -/
theorem Nested.replace {hand : List Item} (h : Nested catalog inv hand) {other' : Item}
    (hfind : inv.items.find? place = some other) (hsame : SameItem other other') :
    Nested catalog { inv with items := inv.items.insert place other' } hand := by
  intro bagGuid slot inner hinner
  have hold : ∃ inner', inv.items.find? (.content bagGuid slot) = some inner' := by
    rw [OrderedMap.find?_insert] at hinner
    split at hinner
    · next heq => exact ⟨other, heq ▸ hfind⟩
    · exact ⟨inner, hinner⟩
  obtain ⟨inner', hinner'⟩ := hold
  obtain ⟨bag, hguid, hbag, hslot, hin⟩ := h bagGuid slot inner' hinner'
  obtain hhand | ⟨s, hs, hown⟩ := hin
  · exact ⟨bag, hguid, hbag, hslot, Or.inl hhand⟩
  · by_cases heq : Place.own s = place
    · rw [heq, hfind] at hown
      cases hown
      refine ⟨other', hsame.1.trans hguid, hsame.isBag.trans hbag, hsame.bagSize.symm ▸ hslot,
        Or.inr ⟨s, hs, ?_⟩⟩
      rw [heq]
      exact OrderedMap.find?_insert_self _ _ _
    · refine ⟨bag, hguid, hbag, hslot, Or.inr ⟨s, hs, ?_⟩⟩
      rw [OrderedMap.find?_insert, if_neg heq]
      exact hown

/-- Another version of an item at hand. -/
theorem Nested.replace_hand {hand : List Item} {item : Item}
    (h : Nested catalog inv (item :: hand)) (hsame : SameItem item item') :
    Nested catalog inv (item' :: hand) := by
  intro bagGuid slot inner hinner
  obtain ⟨bag, hguid, hbag, hslot, hin⟩ := h bagGuid slot inner hinner
  obtain hhand | hown := hin
  · obtain rfl | hhand := List.mem_cons.mp hhand
    · exact ⟨item', hsame.1.trans hguid, hsame.isBag.trans hbag, hsame.bagSize.symm ▸ hslot,
        Or.inl List.mem_cons_self⟩
    · exact ⟨bag, hguid, hbag, hslot, Or.inl (List.mem_cons_of_mem item' hhand)⟩
  · exact ⟨bag, hguid, hbag, hslot, Or.inr hown⟩

/-- An item without contents is not needed. -/
theorem Nested.drop {hand : List Item} {item : Item} (h : Nested catalog inv (item :: hand))
    (hempty : ¬ HasContents inv item.guid) : Nested catalog inv hand := by
  intro bagGuid slot inner hinner
  obtain ⟨bag, hguid, hbag, hslot, hin⟩ := h bagGuid slot inner hinner
  refine ⟨bag, hguid, hbag, hslot, hin.imp_left ?_⟩
  intro hhand
  obtain rfl | hhand := List.mem_cons.mp hhand
  · subst hguid
    exact absurd ⟨slot, inner, hinner⟩ hempty
  · exact hhand

theorem stock_swap {a b : List Item} {item : Item} :
    (a ++ item :: b).Perm (item :: (a ++ b)) := List.perm_middle

theorem Holds.pour {item : Item} (h : Holds catalog ledger inv (item :: hand))
    (hfind : inv.items.find? place = some other) (hentry : other.entry = item.entry)
    (hlt : count < item.count) (hroom : other.count + count ≤ item.maxStack catalog) :
    Holds catalog ledger
      { inv with items := inv.items.insert place { other with count := other.count + count } }
      ({ item with count := item.count - count } :: hand) where
  stock := by
    have hbefore : ((item :: hand) ++ inv.allItems).Perm (item :: other ::
        (hand ++ { inv with items := inv.items.erase place : Inventory }.allItems)) := by
      rw [List.cons_append]
      exact (((allItems_perm_of_find? hfind).append_left hand).trans stock_swap).cons item
    have hpour := (h.stock.perm hbefore).pour hentry hlt hroom
    refine hpour.perm ?_
    rw [List.cons_append]
    exact ((stock_swap.symm.trans
      ((allItems_perm_insert inv place _).symm.append_left hand))).cons _
  nested := (h.nested.replace hfind (SameItem.withCount other _)).replace_hand
    (SameItem.withCount item _)

/-- An item at hand becomes part of a stack. -/
theorem Holds.merge {item : Item} (h : Holds catalog ledger inv (item :: hand))
    (hfind : inv.items.find? place = some other) (hentry : other.entry = item.entry)
    (hroom : other.count + item.count ≤ item.maxStack catalog)
    (hempty : ¬ HasContents inv item.guid) :
    Holds catalog ledger
      { inv with
        items := inv.items.insert place { other with count := other.count + item.count } }
      hand where
  stock := by
    have hbefore : ((item :: hand) ++ inv.allItems).Perm (item :: other ::
        (hand ++ { inv with items := inv.items.erase place : Inventory }.allItems)) := by
      rw [List.cons_append]
      exact (((allItems_perm_of_find? hfind).append_left hand).trans stock_swap).cons item
    refine ((h.stock.perm hbefore).merge hentry hroom).perm ?_
    exact stock_swap.symm.trans ((allItems_perm_insert inv place _).symm.append_left hand)
  nested := (h.nested.drop hempty).replace hfind (SameItem.withCount other _)

/-- Some pieces of an item at hand become a new item at hand. -/
theorem Holds.split {item new : Item} {count : Nat} (h : Holds catalog ledger inv (item :: hand))
    (hpos : 0 < count) (hlt : count < item.count) (hguid : new.guid = inv.nextGuid)
    (hentry : new.entry = item.entry) (hcount : new.count = count) :
    Holds catalog ledger { inv with nextGuid := inv.nextGuid + 1 }
      (new :: { item with count := item.count - count } :: hand) where
  stock := by
    have hstock := h.stock
    rw [List.cons_append] at hstock
    exact hstock.split hpos hlt hguid hentry hcount
  nested := by
    have hnested : Nested catalog inv ({ item with count := item.count - count } :: hand) :=
      h.nested.replace_hand (SameItem.withCount item _)
    intro bagGuid slot inner hinner
    obtain ⟨bag, hguid, hbag, hslot, hin⟩ := hnested bagGuid slot inner hinner
    exact ⟨bag, hguid, hbag, hslot, hin.imp_left (List.mem_cons_of_mem new)⟩

/-! ### Guids name items -/

theorem mem_allItems (h : inv.items.find? place = some item) : item ∈ inv.allItems := by
  rw [Inventory.allItems]
  refine List.mem_append_left _ (List.mem_map.mpr ⟨(place, item), ?_, rfl⟩)
  exact OrderedMap.find?_eq_some_iff.mp h

theorem Holds.distinct (h : Holds catalog ledger inv hand) :
    ((hand ++ inv.allItems).map Item.guid).Nodup := h.stock.distinct

/-- An item at hand is in no slot. -/
theorem Holds.not_in_slot (h : Holds catalog ledger inv hand) {item : Item} (hitem : item ∈ hand)
    (hfind : inv.items.find? place = some other) : other.guid ≠ item.guid := by
  have hdistinct := h.distinct
  rw [List.map_append, List.nodup_append] at hdistinct
  intro heq
  exact hdistinct.2.2 item.guid (List.mem_map_of_mem hitem) other.guid
    (List.mem_map_of_mem (mem_allItems hfind)) heq.symm

/-- Two slots with the same item are the same slot. -/
theorem Holds.place_injective (h : Holds catalog ledger inv hand) {place' : Place} {item : Item}
    (hfind : inv.items.find? place = some item) (hfind' : inv.items.find? place' = some item')
    (hguid : item'.guid = item.guid) : place' = place := by
  by_contra hne
  have hrest : (inv.items.erase place).find? place' = some item' := by
    rw [OrderedMap.find?_erase, if_neg hne]
    exact hfind'
  exact (h.take hfind).not_in_slot List.mem_cons_self hrest hguid

/-- Different addresses denote different places. -/
theorem Holds.place?_injective (h : Holds catalog ledger inv hand) {pos pos' : ItemPos}
    (hpos : inv.place? catalog pos = some place) (hpos' : inv.place? catalog pos' = some place) :
    pos' = pos := by
  obtain ⟨hbag, -, rfl⟩ | ⟨bag, hbag, -, rfl⟩ := place?_eq_some.mp hpos
  · obtain ⟨hbag', -, heq⟩ | ⟨bag', -, -, heq⟩ := place?_eq_some.mp hpos'
    · injection heq with hslot
      cases pos
      cases pos'
      simp_all
    · cases heq
  · obtain ⟨-, -, heq⟩ | ⟨bag', hbag', -, heq⟩ := place?_eq_some.mp hpos'
    · cases heq
    · injection heq with hguid hslot
      obtain ⟨-, hfind, -⟩ := getBagByPos_eq_some.mp hbag
      obtain ⟨-, hfind', -⟩ := getBagByPos_eq_some.mp hbag'
      injection h.place_injective hfind hfind' hguid.symm with hpos
      cases pos
      cases pos'
      simp_all

end Cataclysm.Items
