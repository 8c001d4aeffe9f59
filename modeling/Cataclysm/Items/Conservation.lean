import Cataclysm.Items.Holding

/-!
# Storing and equipping lose nothing

An item at hand that is stored where a search found room is then in slots, and only there; so is
an item that is equipped in a free slot. What lay in a slot before is still there afterwards, with
at least as many pieces.
-/

namespace Cataclysm.Items

variable {catalog : Catalog} {facts : PlayerFacts} {ledger : Nat → Nat}
  {inv : Inventory} {hand : List Item} {item : Item}

/-! ### What stays in its slot -/

variable {inv' : Inventory} {place : Place} {new : Item} {pos : ItemPos}

/-- Every item of the first inventory is in the same slot of the second. -/
def Keeps (inv inv' : Inventory) : Prop :=
  ∀ place old, inv.items.find? place = some old →
    ∃ new, inv'.items.find? place = some new ∧ SameItem old new

theorem SameItem.trans {item item' item'' : Item} (h : SameItem item item')
    (h' : SameItem item' item'') : SameItem item item'' :=
  ⟨h'.1.trans h.1, h'.2.trans h.2⟩

theorem Keeps.trans {inv inv'' : Inventory} (h : Keeps inv inv') (h' : Keeps inv' inv'') :
    Keeps inv inv'' := by
  intro place old hold
  obtain ⟨new, hnew, hsame⟩ := h place old hold
  obtain ⟨last, hlast, hsame'⟩ := h' place new hnew
  exact ⟨last, hlast, hsame.trans hsame'⟩

/-- A free slot is filled, or an item gets another version. -/
theorem keeps_insert (hplace : ∀ old, inv.items.find? place = some old → SameItem old new)
    (hitems : inv'.items = inv.items.insert place new) : Keeps inv inv' := by
  intro place' old hold
  rw [hitems, OrderedMap.find?_insert]
  split
  · next heq => exact ⟨new, rfl, hplace old (heq ▸ hold)⟩
  · exact ⟨old, hold, rfl, rfl⟩

theorem Keeps.getBagByPos (h : Keeps inv inv') {slot : Nat} {bag : Item}
    (hbag : inv.getBagByPos catalog slot = some bag) :
    ∃ bag', inv'.getBagByPos catalog slot = some bag' ∧ SameItem bag bag' := by
  obtain ⟨hslot, hfind, hisBag⟩ := getBagByPos_eq_some.mp hbag
  obtain ⟨bag', hfind', hsame⟩ := h _ _ hfind
  exact ⟨bag', getBagByPos_eq_some.mpr ⟨hslot, hfind', hsame.isBag.trans hisBag⟩, hsame⟩

theorem Keeps.place? (h : Keeps inv inv') (hplace : inv.place? catalog pos = some place) :
    inv'.place? catalog pos = some place := by
  obtain ⟨hbag, hslot, rfl⟩ | ⟨bag, hbag, hslot, rfl⟩ := place?_eq_some.mp hplace
  · exact place?_eq_some.mpr (Or.inl ⟨hbag, hslot, rfl⟩)
  · obtain ⟨bag', hbag', hsame⟩ := h.getBagByPos hbag
    refine place?_eq_some.mpr (Or.inr ⟨bag', hbag', ?_, ?_⟩)
    · rwa [hsame.bagSize]
    · rw [hsame.1]

theorem getItemByPos_of_place (hplace : inv.place? catalog pos = some place) :
    inv.getItemByPos catalog pos = inv.items.find? place := by
  rw [Inventory.getItemByPos, hplace, Option.bind_some]

theorem getItemByPos_eq_some :
    inv.getItemByPos catalog pos = some item ↔
      ∃ place, inv.place? catalog pos = some place ∧ inv.items.find? place = some item :=
  Option.bind_eq_some_iff

/-- The place in which `_StoreItem` writes is the place of the address. -/
theorem storePlace_of_place (hplace : inv.place? catalog pos = some place) :
    inv.storePlace catalog pos = place := by
  rw [Inventory.storePlace]
  obtain ⟨hbag, -, rfl⟩ | ⟨bag, hbag, -, rfl⟩ := place?_eq_some.mp hplace
  · rw [if_pos hbag]
  · have hne : pos.bag ≠ inventorySlotBag0 := by
      intro heq
      have hlt := isBagSlot_lt (getBagByPos_eq_some.mp hbag).1
      rw [heq] at hlt
      exact absurd hlt (by decide)
    rw [if_neg hne, hbag]

/-- A place that an address denotes can be reached with the inventory as it is. -/
theorem reaches_of_place (hplace : inv.place? catalog pos = some place) :
    Reaches catalog inv hand place := by
  intro bagGuid slot heq
  subst heq
  obtain ⟨-, -, hown⟩ | ⟨bag, hbag, hslot, hcontent⟩ := place?_eq_some.mp hplace
  · cases hown
  · injection hcontent with hguid hslot'
    obtain ⟨hbagSlot, hfind, hisBag⟩ := getBagByPos_eq_some.mp hbag
    exact ⟨bag, hguid.symm, hisBag, hslot' ▸ hslot, Or.inr ⟨pos.bag, hbagSlot, hfind⟩⟩

/-! ### Room that stays -/

variable {count : Nat}

theorem occupant_of_place (hplace : inv.place? catalog pos = some place) :
    occupant catalog inv pos item =
      (inv.items.find? place).filter fun other => other.guid ≠ item.guid := by
  rw [occupant, getItemByPos_of_place hplace]

/-- Room is left alone by a change of another place. -/
theorem Room.insert_other (h : Holds catalog ledger inv hand) {pos' : ItemPos}
    (hroom : Room catalog inv item pos count) (hplace : inv.place? catalog pos' = some place)
    (hne : pos ≠ pos') (hold : ∀ old, inv.items.find? place = some old → SameItem old new)
    (hitems : inv'.items = inv.items.insert place new) : Room catalog inv' item pos count := by
  obtain ⟨own, hown, hinside⟩ := hroom.place
  have hown' : inv'.place? catalog pos = some own := (keeps_insert hold hitems).place? hown
  have hfind : inv'.items.find? own = inv.items.find? own := by
    rw [hitems, OrderedMap.find?_insert, if_neg]
    rintro rfl
    exact hne (h.place?_injective hplace hown)
  have hocc : occupant catalog inv' pos item = occupant catalog inv pos item := by
    rw [occupant_of_place hown', occupant_of_place hown, hfind]
  exact ⟨hroom.positive, ⟨own, hown', hinside⟩, hocc ▸ hroom.free, hocc ▸ hroom.stack⟩

/-- Nothing at hand is the occupant of a slot. -/
theorem Holds.occupant_eq (h : Holds catalog ledger inv hand) (hitem : item ∈ hand)
    (pos : ItemPos) : occupant catalog inv pos item = inv.getItemByPos catalog pos := by
  rw [occupant]
  cases hget : inv.getItemByPos catalog pos with
  | none => rfl
  | some other =>
    obtain ⟨place, -, hfind⟩ := getItemByPos_eq_some.mp hget
    have hne := h.not_in_slot hitem hfind
    simp [Option.filter, hne]

/-! ### Storing -/

/-- What `StoreItem` leaves behind when room was found for the item at hand. -/
structure Stored (catalog : Catalog) (ledger : Nat → Nat) (inv inv' : Inventory)
    (hand : List Item) : Prop where
  holds : Holds catalog ledger inv' hand
  keeps : Keeps inv inv'

theorem putItem_of_place (hplace : inv.place? catalog pos = some place) (item : Item) :
    inv.putItem catalog pos item = { inv with items := inv.items.insert place item } := by
  rw [Inventory.putItem, storePlace_of_place hplace]

/-- A guid that is not handed out yet is not that of a bag with contents. -/
theorem Holds.fresh_empty (h : Holds catalog ledger inv hand) :
    ¬ HasContents inv inv.nextGuid := by
  rintro ⟨slot, inner, hinner⟩
  obtain ⟨bag, hguid, -, -, hin⟩ := h.nested _ _ _ hinner
  have hmem : bag ∈ hand ++ inv.allItems := by
    obtain hhand | ⟨s, -, hown⟩ := hin
    · exact List.mem_append_left _ hhand
    · exact List.mem_append_right _ (mem_allItems hown)
  have hlt := h.stock.fresh bag hmem
  omega

/-- The clone that `_StoreItem` puts into a free slot. -/
theorem stored_clone (h : Holds catalog ledger inv (item :: hand))
    (hplace : inv.place? catalog pos = some place) (hfree : inv.items.find? place = none)
    (hpos : 0 < count) (hlt : count < item.count) :
    ∃ new, inv.storeItemAt catalog pos item count true =
        { inv with nextGuid := inv.nextGuid + 1, items := inv.items.insert place new } ∧
      Holds catalog ledger
        { inv with nextGuid := inv.nextGuid + 1, items := inv.items.insert place new }
        ({ item with count := item.count - count } :: hand) := by
  have hle : count ≤ item.maxStack catalog :=
    hlt.le.trans (h.stock.stackable item List.mem_cons_self).bounded
  let new : Item := ⟨inv.nextGuid, item.entry, min count (item.maxStack catalog), [], false, true⟩
  have hnext : ({ inv with nextGuid := inv.nextGuid + 1 } : Inventory).place? catalog pos =
      some place := hplace
  refine ⟨new, ?_, ?_⟩
  · rw [Inventory.storeItemAt, getItemByPos_of_place hplace, hfree]
    dsimp only
    rw [if_pos rfl, Inventory.cloneItem, if_neg (Nat.not_lt.mpr hpos)]
    exact putItem_of_place hnext new
  · have hsplit := @Holds.split catalog inv ledger hand item new count h hpos hlt rfl rfl
        (min_eq_left hle)
    refine hsplit.put hfree ?_ ?_
    · exact reaches_of_place hnext
    · intro hcontents
      exact absurd hcontents h.fresh_empty

/-- The effect of a step is the insertion of one item, which may be a new version of an old one. -/
theorem keeps_of_free (hfree : inv.items.find? place = none) :
    ∀ old, inv.items.find? place = some old → SameItem old new := by
  intro old hold
  rw [hfree] at hold
  cases hold

theorem hasContents_insert {guid : Nat} (hitems : inv'.items = inv.items.insert place new)
    (hother : ∀ slot, place ≠ .content guid slot) (h : HasContents inv' guid) :
    HasContents inv guid := by
  obtain ⟨slot, inner, hinner⟩ := h
  rw [hitems, OrderedMap.find?_insert, if_neg (hother slot).symm] at hinner
  exact ⟨slot, inner, hinner⟩

theorem Room.withCount (h : Room catalog inv item pos count) (n : Nat) :
    Room catalog inv { item with count := n } pos count :=
  ⟨h.positive, h.place, h.free, h.stack⟩

/-- `StoreItem` does not look at the count of the item. -/
theorem storeItem_withCount (inv : Inventory) (item : Item) (n : Nat)
    (dest : List (ItemPos × Nat)) :
    inv.storeItem catalog { item with count := n } dest = inv.storeItem catalog item dest := by
  induction dest generalizing inv with
  | nil => rfl
  | cons found rest ih => exact ih _

/-- All positions but the last: some pieces leave the item at hand. -/
theorem Holds.storeItemAt_clone (h : Holds catalog ledger inv (item :: hand))
    (hroom : Room catalog inv item pos count) (hlt : count < item.count) :
    ∃ place new inv', inv.storeItemAt catalog pos item count true = inv' ∧
      inv.place? catalog pos = some place ∧ (∀ slot, place ≠ .content item.guid slot) ∧
      inv'.items = inv.items.insert place new ∧
      (∀ old, inv.items.find? place = some old → SameItem old new) ∧
      Holds catalog ledger inv' ({ item with count := item.count - count } :: hand) := by
  obtain ⟨place, hplace, hinside⟩ := hroom.place
  cases hfind : inv.items.find? place with
  | none =>
    obtain ⟨new, heq, hholds⟩ := stored_clone h hplace hfind hroom.positive hlt
    exact ⟨place, new, _, heq, hplace, hinside, rfl, fun old hold => absurd hold (by simp [hfind]),
      hholds⟩
  | some other =>
    have hget : inv.getItemByPos catalog pos = some other :=
      (getItemByPos_of_place hplace).trans hfind
    have hocc : occupant catalog inv pos item = some other :=
      (h.occupant_eq List.mem_cons_self pos).trans hget
    obtain ⟨hentry, hbound⟩ := hroom.stack other hocc
    refine ⟨place, { other with count := other.count + count }, _, ?_, hplace, hinside, rfl, ?_,
      h.pour hfind hentry hlt hbound⟩
    · rw [Inventory.storeItemAt, hget]
      exact putItem_of_place hplace _
    · intro old hold
      rw [hfind] at hold
      cases hold
      exact SameItem.withCount other _

/-- The last position: the item itself, or the rest of it. -/
theorem Holds.storeItemAt_last (h : Holds catalog ledger inv (item :: hand))
    (hroom : Room catalog inv item pos item.count) (hempty : ¬ HasContents inv item.guid) :
    Stored catalog ledger inv (inv.storeItemAt catalog pos item item.count false) hand := by
  obtain ⟨place, hplace, hinside⟩ := hroom.place
  cases hfind : inv.items.find? place with
  | none =>
    have heq : inv.storeItemAt catalog pos item item.count false =
        { inv with items := inv.items.insert place item } := by
      rw [Inventory.storeItemAt, getItemByPos_of_place hplace, hfind]
      exact putItem_of_place hplace item
    rw [heq]
    refine ⟨h.put hfind (reaches_of_place hplace) ?_, keeps_insert (keeps_of_free hfind) rfl⟩
    intro hcontents
    exact absurd hcontents hempty
  | some other =>
    have hget : inv.getItemByPos catalog pos = some other :=
      (getItemByPos_of_place hplace).trans hfind
    have hocc : occupant catalog inv pos item = some other :=
      (h.occupant_eq List.mem_cons_self pos).trans hget
    obtain ⟨hentry, hbound⟩ := hroom.stack other hocc
    have heq : inv.storeItemAt catalog pos item item.count false = { inv with
        items := inv.items.insert place { other with count := other.count + item.count } } := by
      rw [Inventory.storeItemAt, hget]
      exact putItem_of_place hplace _
    rw [heq]
    refine ⟨h.merge hfind hentry hbound hempty, keeps_insert ?_ rfl⟩
    intro old hold
    rw [hfind] at hold
    cases hold
    exact SameItem.withCount other _

/-- `StoreItem` puts an item at hand into the slots that were found for it. -/
theorem Holds.storeItem {dest : List (ItemPos × Nat)}
    (h : Holds catalog ledger inv (item :: hand)) (hsum : (dest.map Prod.snd).sum = item.count)
    (hchosen : Chosen catalog inv item dest) (hempty : ¬ HasContents inv item.guid) :
    Stored catalog ledger inv (inv.storeItem catalog item dest) hand := by
  induction dest generalizing inv item with
  | nil =>
    have hpos := (h.stock.stackable item List.mem_cons_self).positive
    rw [← hsum] at hpos
    exact absurd hpos (Nat.lt_irrefl 0)
  | cons found rest ih =>
    obtain ⟨pos, count⟩ := found
    have hroom := hchosen.room (pos, count) List.mem_cons_self
    rw [List.map_cons, List.sum_cons] at hsum
    rw [Inventory.storeItem]
    cases rest with
    | nil =>
      have hcount : count = item.count := by simpa using hsum
      subst hcount
      exact h.storeItemAt_last hroom hempty
    | cons next rest =>
      have hnext := hchosen.room next (List.mem_cons_of_mem _ List.mem_cons_self)
      have hleft : 0 < ((next :: rest).map Prod.snd).sum := by
        rw [List.map_cons, List.sum_cons]
        exact Nat.add_pos_left hnext.positive _
      have hlt : count < item.count := by
        dsimp only at hsum
        omega
      obtain ⟨place, new, inv', heq, hplace, hinside, hitems, hold, hholds⟩ :=
        h.storeItemAt_clone hroom hlt
      have hdistinct := List.nodup_cons.mp hchosen.distinct
      have hrest : Chosen catalog inv' { item with count := item.count - count }
          (next :: rest) := by
        refine ⟨hdistinct.2, ?_⟩
        intro other hother
        have hother' := hchosen.room other (List.mem_cons_of_mem _ hother)
        refine (hother'.insert_other h hplace ?_ hold hitems).withCount _
        rintro rfl
        exact hdistinct.1 (List.mem_map.mpr ⟨other, hother, rfl⟩)
      have hstored := ih hholds (by dsimp only at hsum ⊢; omega) hrest
        fun hcontents => hempty (hasContents_insert hitems hinside hcontents)
      rw [storeItem_withCount] at hstored
      have hclone : inv.storeItemAt catalog pos item count (!(next :: rest).isEmpty) = inv' :=
        heq
      rw [hclone]
      exact ⟨hstored.holds, (keeps_insert hold hitems).trans hstored.keeps⟩

/-! ### The off hand -/

theorem allItems_stackable (h : Holds catalog ledger inv hand) (hitem : item ∈ inv.allItems) :
    Stackable catalog item :=
  h.stock.stackable item (List.mem_append_right hand hitem)

end Cataclysm.Items
