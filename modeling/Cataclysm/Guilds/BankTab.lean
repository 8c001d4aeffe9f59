import Cataclysm.Guilds.Rights
import Cataclysm.Items.Holding

/-!
# The slots of a guild bank tab

Before an item is stored, space for it is reserved: in the slot that was asked for, then in stacks
of the same entry, then in free slots. The slot of the item itself counts as free. Storing follows
the reserved positions; all but the last get a clone where nothing lies.

## Implementation notes

A pointer to an item is its guid. Whether an item is soulbound is a predicate on it. Enchantments
and the other fields that a clone copies are left out, as are the rows of the database.
-/

namespace Cataclysm.Guilds

open Items

def guildBankMaxSlots : Nat := 98

/-- `EQUIP_ERR_DROP_BOUND_ITEM`. -/
def dropBoundItem : InventoryResult := .other 24

/-- The rights to a tab are kept with the ranks. -/
structure BankTab where
  slots : OrderedMap Nat Items.Item
  deriving DecidableEq

variable (catalog : Catalog) (isSoulBound : Items.Item → Bool)

/-- `Item::CloneItem` under the next guid. -/
def cloneItem (nextGuid : Nat) (item : Items.Item) (count : Nat) : Option Items.Item :=
  if count < 1 then none
  else some ⟨nextGuid, item.entry, min count (item.maxStack catalog), [], false, true⟩

namespace BankTab

def getItem (tab : BankTab) (slotId : Nat) : Option Items.Item :=
  if slotId < guildBankMaxSlots then tab.slots.find? slotId else none

def setItem (tab : BankTab) (slotId : Nat) (item : Option Items.Item) : BankTab :=
  if slotId < guildBankMaxSlots then
    match item with
    | some item => ⟨tab.slots.insert slotId item⟩
    | none => ⟨tab.slots.erase slotId⟩
  else tab

def items (tab : BankTab) : List Items.Item := tab.slots.entries.map Prod.snd

/-! ### Reserving -/

/-- The positions that are reserved, and how much of the item has no space yet. -/
structure Reserved where
  vec : List (Nat × Nat)
  count : Nat
  deriving DecidableEq

/-- A position is taken once. -/
def Reserved.add (r : Reserved) (slotId requiredSpace : Nat) : Reserved :=
  if r.vec.any fun pos => pos.1 == slotId then r
  else ⟨r.vec ++ [(slotId, min requiredSpace r.count)], r.count - min requiredSpace r.count⟩

def reserveSpace (slotId : Nat) (item : Items.Item) (itemDest : Option Items.Item) (r : Reserved) :
    Option Reserved :=
  match itemDest with
  | none => some (r.add slotId (item.maxStack catalog))
  | some dest =>
    if dest.entry ≠ item.entry ∨ item.maxStack catalog ≤ dest.count then none
    else some (r.add slotId (item.maxStack catalog - dest.count))

/-- What stands in a slot, where the slot of the item itself counts as free. -/
def itemDest (tab : BankTab) (item : Items.Item) (slotId : Nat) : Option Items.Item :=
  (tab.getItem slotId).filter fun dest => dest.guid != item.guid

/-- What storing is going to meet in a slot. With `swap` the asked slot is left before. -/
def seen (tab : BankTab) (item : Items.Item) (slotId : Nat) (swap : Bool) (other : Nat) :
    Option Items.Item :=
  if swap && other == slotId then none else tab.itemDest item other

/-- One round of the loop of `CanStoreItemInTab`. -/
def reserveSlot (tab : BankTab) (item : Items.Item) (skipSlotId : Nat) (merge : Bool) (r : Reserved)
    (slotId : Nat) : Reserved :=
  if r.count = 0 then r
  else if slotId = skipSlotId then r
  else if (tab.itemDest item slotId).isSome != merge then r
  else (reserveSpace catalog slotId item (tab.itemDest item slotId) r).getD r

def canStoreItemInTab (tab : BankTab) (item : Items.Item) (skipSlotId : Nat) (merge : Bool)
    (r : Reserved) : Reserved :=
  (List.range guildBankMaxSlots).foldl (tab.reserveSlot catalog item skipSlotId merge) r

/-- The slot that was asked for. With `swap` its item leaves it. -/
def reserveAsked (tab : BankTab) (slotId : Nat) (item : Items.Item) (swap : Bool) : Option Reserved :=
  if slotId = nullSlot then some ⟨[], item.count⟩
  else reserveSpace catalog slotId item (if swap then none else tab.itemDest item slotId)
    ⟨[], item.count⟩

/-- Stacks of the same entry, then free slots. -/
def reserveRest (tab : BankTab) (slotId : Nat) (item : Items.Item) (r : Reserved) :
    InventoryResult × List (Nat × Nat) :=
  let merged := if 1 < item.maxStack catalog then
    tab.canStoreItemInTab catalog item slotId true r else r
  if merged.count = 0 then (.ok, merged.vec)
  else
    let free := tab.canStoreItemInTab catalog item slotId false merged
    if free.count = 0 then (.ok, free.vec) else (.bankFull, free.vec)

/-- `CanStore`: the answer and the reserved positions. -/
def canStore (tab : BankTab) (slotId : Nat) (item : Items.Item) (swap : Bool) :
    InventoryResult × List (Nat × Nat) :=
  if isSoulBound item then (dropBoundItem, [])
  else match tab.reserveAsked catalog slotId item swap with
    | none => (.cantStack, [])
    | some r => if r.count = 0 then (.ok, r.vec) else tab.reserveRest catalog slotId item r

/-! ### Storing -/

/-- `_StoreItem`: the tab after it, and the next guid. -/
def storeItemAt (tab : BankTab) (nextGuid slotId : Nat) (item : Items.Item) (count : Nat)
    (clone : Bool) : BankTab × Nat :=
  match tab.getItem slotId with
  | some dest => (tab.setItem slotId (some { dest with count := dest.count + count }), nextGuid)
  | none =>
    if clone then
      match cloneItem catalog nextGuid item count with
      | some new => (tab.setItem slotId (some new), nextGuid + 1)
      | none => (tab, nextGuid)
    else (tab.setItem slotId (some { item with count := count }), nextGuid)

/-- `StoreItem`: clones for all positions but the last. -/
def storeItem (tab : BankTab) (nextGuid : Nat) (item : Items.Item) : List (Nat × Nat) → BankTab × Nat
  | [] => (tab, nextGuid)
  | (slotId, count) :: rest =>
    let (tab, nextGuid) := tab.storeItemAt catalog nextGuid slotId item count !rest.isEmpty
    tab.storeItem nextGuid item rest

end BankTab

/-! ### What is reserved fits -/

/-- Every reserved position is free or has a stack of the same entry with that much space. -/
structure Fits (view : Nat → Option Items.Item) (item : Items.Item) (vec : List (Nat × Nat)) :
    Prop where
  nodup : (vec.map Prod.fst).Nodup
  inTab : ∀ pos ∈ vec, pos.1 < guildBankMaxSlots
  positive : ∀ pos ∈ vec, 0 < pos.2
  bounded : ∀ pos ∈ vec, pos.2 ≤ item.maxStack catalog
  space : ∀ pos ∈ vec, ∀ dest, view pos.1 = some dest →
    dest.entry = item.entry ∧ dest.count + pos.2 ≤ item.maxStack catalog

/-- The reserved positions and the rest make up the item. -/
structure Reserves (view : Nat → Option Items.Item) (item : Items.Item) (r : BankTab.Reserved) :
    Prop where
  fits : Fits catalog view item r.vec
  sum : (r.vec.map Prod.snd).sum + r.count = item.count

variable {catalog isSoulBound} {view : Nat → Option Items.Item} {item : Items.Item}

namespace BankTab

variable {slotId : Nat} {vec : List (Nat × Nat)}

theorem reserves_add {r : Reserved} (h : Reserves catalog view item r) {requiredSpace : Nat}
    (hslot : slotId < guildBankMaxSlots) (hcount : 0 < r.count) (hspace : 0 < requiredSpace)
    (hmax : requiredSpace ≤ item.maxStack catalog)
    (hdest : ∀ dest, view slotId = some dest →
      dest.entry = item.entry ∧ dest.count + requiredSpace ≤ item.maxStack catalog) :
    Reserves catalog view item (r.add slotId requiredSpace) := by
  rw [Reserved.add]
  split
  · exact h
  · next hnew =>
      have hfresh : slotId ∉ r.vec.map Prod.fst := by
        intro hin
        obtain ⟨pos, hpos, heq⟩ := List.mem_map.mp hin
        exact hnew (List.any_eq_true.mpr ⟨pos, hpos, beq_iff_eq.mpr heq⟩)
      have hold : ∀ (P : Nat × Nat → Prop), (∀ pos ∈ r.vec, P pos) →
          P (slotId, min requiredSpace r.count) →
          ∀ pos ∈ r.vec ++ [(slotId, min requiredSpace r.count)], P pos := by
        intro P hvec hlast pos hpos
        obtain hpos | hpos := List.mem_append.mp hpos
        · exact hvec pos hpos
        · rw [List.mem_singleton.mp hpos]
          exact hlast
      constructor
      · constructor
        · rw [List.map_append, List.map_singleton]
          exact List.Nodup.append h.fits.nodup (List.nodup_singleton _)
            (List.disjoint_singleton.mpr hfresh)
        · exact hold _ h.fits.inTab hslot
        · exact hold _ h.fits.positive (lt_min hspace hcount)
        · exact hold _ h.fits.bounded ((min_le_left _ _).trans hmax)
        · refine hold _ h.fits.space ?_
          intro dest hview
          obtain ⟨hentry, hle⟩ := hdest dest hview
          exact ⟨hentry, (Nat.add_le_add_left (min_le_left _ _) _).trans hle⟩
      · have hsum := h.sum
        have hle : min requiredSpace r.count ≤ r.count := min_le_right _ _
        rw [List.map_append, List.sum_append, List.map_singleton, List.sum_singleton]
        dsimp only
        omega

theorem reserves_reserveSpace {r r' : Reserved} (h : Reserves catalog view item r)
    (hslot : slotId < guildBankMaxSlots) (hcount : 0 < r.count)
    (hreserve : reserveSpace catalog slotId item (view slotId) r = some r') :
    Reserves catalog view item r' := by
  have hpos : 0 < item.maxStack catalog := ItemTemplate.getMaxStackSize_pos _
  cases hview : view slotId with
  | none =>
    rw [hview] at hreserve
    cases hreserve
    apply reserves_add h hslot hcount hpos le_rfl
    intro dest hdest
    rw [hview] at hdest
    cases hdest
  | some dest =>
    rw [hview] at hreserve
    simp only [reserveSpace] at hreserve
    split at hreserve
    · cases hreserve
    · next hmatch =>
        cases hreserve
        rw [not_or, not_not, not_le] at hmatch
        apply reserves_add h hslot hcount (Nat.sub_pos_of_lt hmatch.2) (Nat.sub_le _ _)
        intro dest' hdest'
        rw [hview] at hdest'
        cases hdest'
        exact ⟨hmatch.1, by omega⟩

theorem reserves_canStoreItemInTab (tab : BankTab) {r : Reserved} (h : Reserves catalog view item r)
    {skipSlotId : Nat}
    (hview : ∀ slotId, slotId ≠ skipSlotId → view slotId = tab.itemDest item slotId)
    (merge : Bool) :
    Reserves catalog view item (tab.canStoreItemInTab catalog item skipSlotId merge r) := by
  have hslots : ∀ slotId ∈ List.range guildBankMaxSlots, slotId < guildBankMaxSlots :=
    fun slotId hslot => List.mem_range.mp hslot
  rw [canStoreItemInTab]
  generalize List.range guildBankMaxSlots = slotIds at hslots
  induction slotIds generalizing r with
  | nil => exact h
  | cons slotId rest ih =>
    rw [List.foldl_cons]
    apply ih
    · rw [reserveSlot]
      split
      · exact h
      · next hcount =>
          split
          · exact h
          · next hskip =>
              split
              · exact h
              · rw [← hview slotId hskip]
                cases hreserve : reserveSpace catalog slotId item (view slotId) r with
                | none => exact h
                | some r' =>
                  exact reserves_reserveSpace h (hslots slotId List.mem_cons_self)
                    (Nat.pos_of_ne_zero hcount) hreserve
    · exact fun other hother => hslots other (List.mem_cons_of_mem _ hother)

theorem seen_of_ne (tab : BankTab) (item : Items.Item) {other : Nat} (swap : Bool)
    (h : other ≠ slotId) : tab.seen item slotId swap other = tab.itemDest item other := by
  rw [seen, beq_eq_false_iff_ne.mpr h, Bool.and_false, if_neg Bool.false_ne_true]

theorem seen_self (tab : BankTab) (item : Items.Item) (slotId : Nat) (swap : Bool) :
    tab.seen item slotId swap slotId = if swap then none else tab.itemDest item slotId := by
  rw [seen, beq_self_eq_true, Bool.and_true]

/-- Positions for the whole item were found, and it fits what storing is going to meet there. -/
theorem canStore_fits_seen {tab : BankTab} {swap : Bool}
    (h : tab.canStore catalog isSoulBound slotId item swap = (.ok, vec))
    (hslot : slotId < guildBankMaxSlots ∨ slotId = nullSlot) (hpos : 0 < item.count) :
    Fits catalog (tab.seen item slotId swap) item vec ∧ (vec.map Prod.snd).sum = item.count := by
  have hempty : Reserves catalog (tab.seen item slotId swap) item ⟨[], item.count⟩ := by
    constructor
    · constructor
      · exact List.nodup_nil
      all_goals
        intro pos hin
        cases hin
    · exact Nat.zero_add _
  have hdone : ∀ {r : Reserved}, Reserves catalog (tab.seen item slotId swap) item r → r.count = 0 →
      Fits catalog (tab.seen item slotId swap) item r.vec ∧
        (r.vec.map Prod.snd).sum = item.count := by
    intro r hr hzero
    refine ⟨hr.fits, ?_⟩
    rw [← hr.sum, hzero, Nat.add_zero]
  have hview : ∀ other, other ≠ slotId → tab.seen item slotId swap other = tab.itemDest item other :=
    fun other hne => tab.seen_of_ne item swap hne
  rw [canStore] at h
  split at h
  · cases h
  · cases hstart : tab.reserveAsked catalog slotId item swap with
    | none =>
      rw [hstart] at h
      cases h
    | some r =>
      have hr : Reserves catalog (tab.seen item slotId swap) item r := by
        rw [reserveAsked] at hstart
        split at hstart
        · cases hstart
          exact hempty
        · next hnull =>
            rw [← seen_self] at hstart
            exact reserves_reserveSpace hempty (hslot.resolve_right hnull) hpos hstart
      rw [hstart] at h
      dsimp only at h
      split at h
      · next hzero =>
          cases h
          exact hdone hr hzero
      · have hmerged : Reserves catalog (tab.seen item slotId swap) item
            (if 1 < item.maxStack catalog then
              tab.canStoreItemInTab catalog item slotId true r else r) := by
          split
          · exact reserves_canStoreItemInTab tab hr hview true
          · exact hr
        rw [reserveRest] at h
        generalize (if 1 < item.maxStack catalog then
          tab.canStoreItemInTab catalog item slotId true r else r) = merged at h hmerged
        dsimp only at h
        split at h
        · next hzero =>
            cases h
            exact hdone hmerged hzero
        · split at h
          · next hzero =>
              rw [← (Prod.mk.inj h).2]
              exact hdone (reserves_canStoreItemInTab tab hmerged hview false) hzero
          · exact absurd (Prod.mk.inj h).1 (by simp)

/-- Positions for the whole item were found, and it fits there. -/
theorem canStore_fits {tab : BankTab}
    (h : tab.canStore catalog isSoulBound slotId item false = (.ok, vec))
    (hslot : slotId < guildBankMaxSlots) (hpos : 0 < item.count) :
    Fits catalog (tab.itemDest item) item vec ∧ (vec.map Prod.snd).sum = item.count :=
  canStore_fits_seen h (Or.inl hslot) hpos

/-- Into the slot of an item that leaves it, a stack goes as a whole. -/
theorem canStore_swap (tab : BankTab) (hslot : slotId < guildBankMaxSlots)
    (hmax : item.count ≤ item.maxStack catalog) :
    tab.canStore catalog isSoulBound slotId item true =
      if isSoulBound item then (dropBoundItem, []) else (.ok, [(slotId, item.count)]) := by
  have hnull : slotId ≠ nullSlot := by
    rw [guildBankMaxSlots] at hslot
    rw [nullSlot]
    omega
  rw [canStore, reserveAsked, if_neg hnull, if_pos rfl, reserveSpace, Reserved.add,
    min_eq_right hmax]
  simp

/-! ### The items of a tab -/

theorem getItem_eq_some {tab : BankTab} {dest : Items.Item} (h : tab.getItem slotId = some dest) :
    slotId < guildBankMaxSlots ∧ tab.slots.find? slotId = some dest := by
  rw [getItem] at h
  split at h
  · next hslot => exact ⟨hslot, h⟩
  · cases h

theorem getItem_setItem (tab : BankTab) (hslot : slotId < guildBankMaxSlots)
    (item : Option Items.Item) (other : Nat) :
    (tab.setItem slotId item).getItem other = if other = slotId then item else tab.getItem other := by
  cases item with
  | none =>
    rw [setItem, if_pos hslot, getItem, getItem, OrderedMap.find?_erase]
    split_ifs
    all_goals rfl
  | some item =>
    rw [setItem, if_pos hslot, getItem, getItem, OrderedMap.find?_insert]
    by_cases heq : other = slotId
    · rw [if_pos heq, if_pos heq, heq, if_pos hslot]
    · rw [if_neg heq, if_neg heq]

/-- The items besides the one in a slot. -/
def others (tab : BankTab) (slotId : Nat) : List Items.Item :=
  (tab.slots.erase slotId).entries.map Prod.snd

theorem items_perm {tab : BankTab} {dest : Items.Item} (h : tab.getItem slotId = some dest) :
    tab.items.Perm (dest :: tab.others slotId) :=
  (OrderedMap.perm_erase (getItem_eq_some h).2).map Prod.snd

theorem items_of_free {tab : BankTab} (hslot : slotId < guildBankMaxSlots)
    (h : tab.getItem slotId = none) : tab.items = tab.others slotId := by
  rw [getItem, if_pos hslot] at h
  rw [items, others, OrderedMap.erase_of_find?_eq_none h]

theorem items_setItem (tab : BankTab) (hslot : slotId < guildBankMaxSlots) (item : Items.Item) :
    (tab.setItem slotId (some item)).items.Perm (item :: tab.others slotId) := by
  rw [setItem, if_pos hslot]
  exact (tab.slots.perm_insert slotId item).map Prod.snd

theorem items_setItem_none (tab : BankTab) (hslot : slotId < guildBankMaxSlots) :
    (tab.setItem slotId none).items = tab.others slotId := by
  rw [setItem, if_pos hslot]
  rfl

/-! ### Storing keeps the stock -/

variable {ledger : Nat → Nat} {nextGuid : Nat} {lost rest : List Items.Item} {tab : BankTab}

/-- The last position takes what is left of the item. -/
theorem stock_storeLast {count : Nat} (hfits : Fits catalog tab.getItem item [(slotId, count)])
    (h : Stock catalog ledger nextGuid lost ({ item with count := count } :: (tab.items ++ rest))) :
    Stock catalog ledger (tab.storeItemAt catalog nextGuid slotId item count false).2 lost
      ((tab.storeItemAt catalog nextGuid slotId item count false).1.items ++ rest) := by
  have hslot := hfits.inTab _ (List.mem_singleton_self _)
  rw [storeItemAt]
  cases hdest : tab.getItem slotId with
  | none =>
    refine h.perm ?_
    rw [items_of_free hslot hdest, ← List.cons_append]
    exact (tab.items_setItem hslot _).symm.append_right rest
  | some dest =>
    obtain ⟨hentry, hspace⟩ := hfits.space _ (List.mem_singleton_self _) dest hdest
    have hstock : Stock catalog ledger nextGuid lost ({ item with count := count } :: dest ::
        (tab.others slotId ++ rest)) :=
      h.perm (((items_perm hdest).append_right rest).cons _)
    refine (hstock.merge hentry hspace).perm ?_
    rw [← List.cons_append]
    exact (tab.items_setItem hslot _).symm.append_right rest

/-- Another position takes a part of it. -/
theorem stock_storePart {count left : Nat}
    (hfits : Fits catalog tab.getItem item [(slotId, count)]) (hleft : 0 < left)
    (h : Stock catalog ledger nextGuid lost
      ({ item with count := count + left } :: (tab.items ++ rest))) :
    Stock catalog ledger (tab.storeItemAt catalog nextGuid slotId item count true).2 lost
      ({ item with count := left } ::
        ((tab.storeItemAt catalog nextGuid slotId item count true).1.items ++ rest)) := by
  have hslot := hfits.inTab _ (List.mem_singleton_self _)
  have hpos : 0 < count := hfits.positive _ (List.mem_singleton_self _)
  have hmax : count ≤ item.maxStack catalog := hfits.bounded _ (List.mem_singleton_self _)
  have hlt : count < count + left := Nat.lt_add_of_pos_right hleft
  rw [storeItemAt]
  cases hdest : tab.getItem slotId with
  | none =>
    dsimp only
    rw [if_pos rfl, cloneItem, if_neg (Nat.not_lt.mpr hpos), min_eq_left hmax]
    have hsplit : Stock catalog ledger (nextGuid + 1) lost
        (⟨nextGuid, item.entry, count, [], false, true⟩ ::
          { item with count := count + left - count } :: (tab.items ++ rest)) :=
      h.split hpos hlt rfl rfl rfl
    rw [Nat.add_sub_cancel_left, items_of_free hslot hdest] at hsplit
    refine hsplit.perm ((List.Perm.swap _ _ _).trans (List.Perm.cons _ ?_))
    rw [← List.cons_append]
    exact (tab.items_setItem hslot _).symm.append_right rest
  | some dest =>
    obtain ⟨hentry, hspace⟩ := hfits.space _ (List.mem_singleton_self _) dest hdest
    have hstock : Stock catalog ledger nextGuid lost ({ item with count := count + left } :: dest ::
        (tab.others slotId ++ rest)) :=
      h.perm (((items_perm hdest).append_right rest).cons _)
    have hpour := hstock.pour hentry hlt hspace
    dsimp only at hpour
    rw [Nat.add_sub_cancel_left] at hpour
    refine hpour.perm (List.Perm.cons _ ?_)
    rw [← List.cons_append]
    exact (tab.items_setItem hslot _).symm.append_right rest

/-- A store at one position leaves the others as they were. -/
theorem getItem_storeItemAt (hslot : slotId < guildBankMaxSlots) (count : Nat) (clone : Bool)
    {other : Nat} (hne : other ≠ slotId) :
    (tab.storeItemAt catalog nextGuid slotId item count clone).1.getItem other =
      tab.getItem other := by
  have hset : ∀ new, (tab.setItem slotId (some new)).getItem other = tab.getItem other := by
    intro new
    rw [getItem_setItem tab hslot, if_neg hne]
  rw [storeItemAt]
  split
  · exact hset _
  · split
    · split
      · exact hset _
      · rfl
    · exact hset _

/-- An item that is stored as reserved counts as before. -/
theorem stock_storeItem (hvec : vec ≠ []) (hfits : Fits catalog tab.getItem item vec)
    (h : Stock catalog ledger nextGuid lost
      ({ item with count := (vec.map Prod.snd).sum } :: (tab.items ++ rest))) :
    Stock catalog ledger (tab.storeItem catalog nextGuid item vec).2 lost
      ((tab.storeItem catalog nextGuid item vec).1.items ++ rest) := by
  induction vec generalizing tab nextGuid with
  | nil => exact absurd rfl hvec
  | cons pos more ih =>
    obtain ⟨slotId, count⟩ := pos
    have hhead : Fits catalog tab.getItem item [(slotId, count)] := by
      constructor
      · exact List.nodup_singleton _
      all_goals
        intro pos hpos
        rw [List.mem_singleton] at hpos
        subst hpos
      · exact hfits.inTab _ List.mem_cons_self
      · exact hfits.positive _ List.mem_cons_self
      · exact hfits.bounded _ List.mem_cons_self
      · exact hfits.space _ List.mem_cons_self
    cases more with
    | nil =>
      rw [List.map_singleton, List.sum_singleton] at h
      exact stock_storeLast hhead h
    | cons next more =>
      have hslot := hfits.inTab _ List.mem_cons_self
      have hpos := hfits.positive next (List.mem_cons_of_mem _ List.mem_cons_self)
      have hleft : 0 < ((next :: more).map Prod.snd).sum := by
        rw [List.map_cons, List.sum_cons]
        exact Nat.add_pos_left hpos _
      rw [List.map_cons, List.sum_cons] at h
      have hpart := stock_storePart hhead hleft h
      have hnodup := List.nodup_cons.mp hfits.nodup
      refine ih (List.cons_ne_nil _ _) ?_ hpart
      constructor
      · exact hnodup.2
      · exact fun pos hin => hfits.inTab pos (List.mem_cons_of_mem _ hin)
      · exact fun pos hin => hfits.positive pos (List.mem_cons_of_mem _ hin)
      · exact fun pos hin => hfits.bounded pos (List.mem_cons_of_mem _ hin)
      · intro pos hin dest hdest
        have hne : pos.1 ≠ slotId := by
          intro heq
          have hmem : pos.1 ∈ (next :: more).map Prod.fst := List.mem_map_of_mem hin
          rw [heq] at hmem
          exact hnodup.1 hmem
        have hold := (getItem_storeItemAt hslot count true hne).symm.trans hdest
        exact hfits.space pos (List.mem_cons_of_mem _ hin) dest hold

/-- A tab gets no guids but that of the item and new ones. -/
theorem guid_storeItem (vec : List (Nat × Nat)) (tab : BankTab) (nextGuid : Nat)
    (hslots : ∀ pos ∈ vec, pos.1 < guildBankMaxSlots) :
    nextGuid ≤ (tab.storeItem catalog nextGuid item vec).2 ∧
      ∀ found ∈ (tab.storeItem catalog nextGuid item vec).1.items,
        (∃ old ∈ tab.items, old.guid = found.guid) ∨ found.guid = item.guid ∨
          nextGuid ≤ found.guid := by
  induction vec generalizing tab nextGuid with
  | nil => exact ⟨le_rfl, fun found hfound => Or.inl ⟨found, hfound, rfl⟩⟩
  | cons pos more ih =>
    obtain ⟨slotId, count⟩ := pos
    have hslot := hslots _ List.mem_cons_self
    have hset : ∀ new found, found ∈ (tab.setItem slotId (some new)).items →
        found = new ∨ found ∈ tab.items := by
      intro new found hfound
      obtain hnew | hother := List.mem_cons.mp ((tab.items_setItem hslot new).mem_iff.mp hfound)
      · exact Or.inl hnew
      · refine Or.inr ?_
        obtain ⟨e, he, rfl⟩ := List.mem_map.mp hother
        exact List.mem_map_of_mem (OrderedMap.mem_erase.mp he).1
    have hstep : nextGuid ≤ (tab.storeItemAt catalog nextGuid slotId item count !more.isEmpty).2 ∧
        ∀ found ∈ (tab.storeItemAt catalog nextGuid slotId item count !more.isEmpty).1.items,
          (∃ old ∈ tab.items, old.guid = found.guid) ∨ found.guid = item.guid ∨
            nextGuid ≤ found.guid := by
      rw [storeItemAt]
      cases hdest : tab.getItem slotId with
      | some dest =>
        refine ⟨le_rfl, fun found hfound => Or.inl ?_⟩
        obtain rfl | hold := hset _ found hfound
        · exact ⟨dest, (items_perm hdest).mem_iff.mpr List.mem_cons_self, rfl⟩
        · exact ⟨found, hold, rfl⟩
      | none =>
        cases more.isEmpty with
        | true =>
          refine ⟨le_rfl, fun found hfound => ?_⟩
          obtain rfl | hold := hset _ found hfound
          · exact Or.inr (Or.inl rfl)
          · exact Or.inl ⟨found, hold, rfl⟩
        | false =>
          rw [if_pos Bool.not_false]
          cases hclone : cloneItem catalog nextGuid item count with
          | none => exact ⟨le_rfl, fun found hfound => Or.inl ⟨found, hfound, rfl⟩⟩
          | some new =>
            have hguid : new.guid = nextGuid := by
              rw [cloneItem] at hclone
              split at hclone
              · cases hclone
              · cases hclone
                rfl
            refine ⟨Nat.le_succ _, fun found hfound => ?_⟩
            obtain rfl | hold := hset _ found hfound
            · exact Or.inr (Or.inr hguid.ge)
            · exact Or.inl ⟨found, hold, rfl⟩
    obtain ⟨hle, hnext⟩ := ih (tab.storeItemAt catalog nextGuid slotId item count !more.isEmpty).1
      (tab.storeItemAt catalog nextGuid slotId item count !more.isEmpty).2
      fun pos hpos => hslots pos (List.mem_cons_of_mem _ hpos)
    refine ⟨hstep.1.trans hle, fun found hfound => ?_⟩
    obtain ⟨old, hold, hguid⟩ | hitem | hnew := hnext found hfound
    · rw [← hguid]
      exact hstep.2 old hold
    · exact Or.inr (Or.inl hitem)
    · exact Or.inr (Or.inr (hstep.1.trans hnew))

end BankTab

end Cataclysm.Guilds
