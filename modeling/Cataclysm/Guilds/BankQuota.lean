import Cataclysm.Guilds.BankMoves

/-!
# Guild bank moves keep the items and count the stacks

A move is a removal from one slot or two, and one store or two. Between them an item is at hand; the
items at hand and in the tabs are one stock. A stack leaves its tab when the tab has less of its
entry afterwards, or when the item itself is in another tab.

The withdrawn counter of a member counts these tabs, except where the remaining slots underflow: the
daily slots of a rank are an `int32` that the counter is subtracted from.
-/

namespace Cataclysm.Guilds

open Items

namespace BankItems

def tabItems (b : BankItems) (tabId : Nat) : List Items.Item :=
  match b.tabs[tabId]? with
  | some tab => tab.items
  | none => []

def allItems (b : BankItems) : List Items.Item := b.tabs.flatMap BankTab.items

/-- The items of all tabs but one. -/
def otherTabs (b : BankItems) (tabId : Nat) : List Items.Item :=
  (b.tabs.eraseIdx tabId).flatMap BankTab.items

/-- What the bank keeps between requests: distinct items with guids that were given out, stacks
within their bounds, and counters of 32 bits. -/
structure Sound (catalog : Catalog) (g : RankedGuild) (b : BankItems) : Prop where
  tabs : b.tabs.length = g.bankTabs
  distinct : (b.allItems.map Items.Item.guid).Nodup
  fresh : ∀ item ∈ b.allItems, item.guid < b.nextGuid
  stackable : ∀ item ∈ b.allItems, Stackable catalog item
  counters : ∀ key tabId, int32 (b.bankWithdraw key tabId) = b.bankWithdraw key tabId

/-- A stack, or a part of it, is no longer in the tab: the tab has less of an entry, or one of its
items is in another tab. -/
def Leaves (b after : BankItems) (tabId : Nat) : Prop :=
  (∃ entry, tally entry (after.tabItems tabId) < tally entry (b.tabItems tabId)) ∨
    ∃ item ∈ b.tabItems tabId, ∃ other ≠ tabId, ∃ item' ∈ after.tabItems other,
      item'.guid = item.guid

/-- What a request of a player promises. -/
structure MovesWell (catalog : Catalog) (g : RankedGuild) (guid : Nat) (b after : BankItems) :
    Prop where
  conserved : ∀ entry, tally entry after.allItems = tally entry b.allItems
  stackable : ∀ item ∈ after.allItems, Stackable catalog item
  distinct : (after.allItems.map Items.Item.guid).Nodup
  counted : ∀ member ∈ g.roster.members, member.rankId ≠ grGuildmaster → ∀ tabId,
    (lowPart guid = member.lowGuid ∧ Leaves b after tabId →
      after.bankWithdraw member.lowGuid tabId = b.bankWithdraw member.lowGuid tabId + 1) ∧
    (¬ (lowPart guid = member.lowGuid ∧ Leaves b after tabId) →
      after.bankWithdraw member.lowGuid tabId = b.bankWithdraw member.lowGuid tabId)
  limited : ∀ member ∈ g.roster.members, member.rankId ≠ grGuildmaster → ∀ tabId,
    after.bankWithdraw member.lowGuid tabId ≤
      max (b.bankWithdraw member.lowGuid tabId) (g.getRankBankTabSlotsPerDay member.rankId tabId)

variable {catalog : Catalog} {isSoulBound : Items.Item → Bool} {g : RankedGuild} {b after : BankItems}
  {guid : Nat} {src dest pos : BankSlot} {item : Items.Item}

/-! ### One tab and the others -/

variable {tabId : Nat} {tab : BankTab}

theorem allItems_perm (h : b.tabs[tabId]? = some tab) :
    b.allItems.Perm (tab.items ++ b.otherTabs tabId) := by
  obtain ⟨hlt, rfl⟩ := List.getElem?_eq_some_iff.mp h
  rw [allItems, otherTabs, ← List.flatMap_cons]
  exact (List.getElem_cons_eraseIdx_perm hlt).symm.flatMap_right _

/-- The bank with another tab in the place of one. -/
def withTab (b : BankItems) (tabId : Nat) (tab : BankTab) (nextGuid : Nat) : BankItems :=
  { b with
    tabs := b.tabs.set tabId tab
    nextGuid := nextGuid }

theorem tabs_withTab (h : tabId < b.tabs.length) (tab : BankTab) (nextGuid other : Nat) :
    (b.withTab tabId tab nextGuid).tabs[other]? =
      if other = tabId then some tab else b.tabs[other]? := by
  rw [withTab, List.getElem?_set]
  by_cases heq : tabId = other
  · rw [if_pos heq, if_pos h, if_pos heq.symm]
  · rw [if_neg heq, if_neg (Ne.symm heq)]

theorem otherTabs_withTab (tabId : Nat) (tab : BankTab) (nextGuid : Nat) :
    (b.withTab tabId tab nextGuid).otherTabs tabId = b.otherTabs tabId := by
  rw [otherTabs, otherTabs, withTab, List.eraseIdx_set_eq]

theorem allItems_withTab (h : tabId < b.tabs.length) (tab : BankTab) (nextGuid : Nat) :
    (b.withTab tabId tab nextGuid).allItems.Perm (tab.items ++ b.otherTabs tabId) := by
  have htab := (tabs_withTab h tab nextGuid tabId).trans (if_pos rfl)
  have hperm := allItems_perm htab
  rwa [otherTabs_withTab] at hperm

theorem tabItems_withTab (h : tabId < b.tabs.length) (tab : BankTab) (nextGuid other : Nat) :
    (b.withTab tabId tab nextGuid).tabItems other =
      if other = tabId then tab.items else b.tabItems other := by
  rw [tabItems, tabs_withTab h]
  split_ifs
  · rfl
  · rfl

theorem mem_allItems_of_tabItems (h : item ∈ b.tabItems tabId) : item ∈ b.allItems := by
  rw [tabItems] at h
  split at h
  · next tab htab => exact (allItems_perm htab).mem_iff.mpr (List.mem_append_left _ h)
  · cases h

/-- An item is in one tab only. -/
theorem tabId_unique (hdistinct : (b.allItems.map Items.Item.guid).Nodup) {other : Nat}
    {item' : Items.Item} (h : item ∈ b.tabItems tabId) (h' : item' ∈ b.tabItems other)
    (hguid : item'.guid = item.guid) : other = tabId := by
  by_contra hne
  rw [tabItems] at h h'
  split at h
  · next tab htab =>
      split at h'
      · next tab' htab' =>
          have hperm := (allItems_perm htab).map Items.Item.guid
          rw [List.map_append] at hperm
          have hdisjoint := List.disjoint_of_nodup_append (hperm.nodup_iff.mp hdistinct)
          obtain ⟨hlt, rfl⟩ := List.getElem?_eq_some_iff.mp htab'
          have hin : b.tabs[other] ∈ b.tabs.eraseIdx tabId :=
            List.mem_eraseIdx_iff_getElem.mpr ⟨other, hlt, hne, rfl⟩
          exact hdisjoint (hguid ▸ List.mem_map_of_mem h)
            (List.mem_map_of_mem (List.mem_flatMap.mpr ⟨_, hin, h'⟩))
      · cases h'
  · cases h

/-! ### Slots of the bank -/

/-- The slot is in a tab that exists. -/
def Slot (b : BankItems) (pos : BankSlot) : Prop :=
  pos.tabId < b.tabs.length ∧ pos.slotId < guildBankMaxSlots

theorem setItem_eq (h : b.tabs[pos.tabId]? = some tab) (new : Option Items.Item) :
    b.setItem pos new = b.withTab pos.tabId (tab.setItem pos.slotId new) b.nextGuid := by
  rw [setItem, h]
  rfl

theorem storeItem_eq (h : b.tabs[pos.tabId]? = some tab) (item : Items.Item)
    (vec : List (Nat × Nat)) :
    b.storeItem catalog pos item vec = b.withTab pos.tabId
      (tab.storeItem catalog b.nextGuid item vec).1
        (tab.storeItem catalog b.nextGuid item vec).2 := by
  rw [storeItem, h]
  rfl

theorem Slot.exists_tab (h : b.Slot pos) : ∃ tab, b.tabs[pos.tabId]? = some tab :=
  ⟨_, List.getElem?_eq_getElem h.1⟩

theorem Slot.setItem (h : b.Slot pos) (other : BankSlot) (new : Option Items.Item) :
    (b.setItem other new).Slot pos := by
  refine ⟨?_, h.2⟩
  rw [BankItems.setItem]
  split
  · rw [List.length_set]
    exact h.1
  · exact h.1

theorem getItem_eq (h : b.tabs[pos.tabId]? = some tab) :
    b.getItem pos = tab.getItem pos.slotId := by
  rw [getItem, h, Option.bind_some]

theorem slot_of_getItem (h : b.getItem pos = some item) : b.Slot pos := by
  rw [getItem, Option.bind_eq_some_iff] at h
  obtain ⟨tab, htab, hitem⟩ := h
  exact ⟨(List.getElem?_eq_some_iff.mp htab).1, (BankTab.getItem_eq_some hitem).1⟩

theorem getItem_setItem (h : b.Slot pos) (new : Option Items.Item) (other : BankSlot) :
    (b.setItem pos new).getItem other = if other = pos then new else b.getItem other := by
  obtain ⟨tab, htab⟩ := h.exists_tab
  rw [setItem_eq htab, getItem, tabs_withTab h.1]
  by_cases htabId : other.tabId = pos.tabId
  · rw [if_pos htabId, Option.bind_some, BankTab.getItem_setItem _ h.2, getItem, htabId, htab,
      Option.bind_some]
    by_cases hslotId : other.slotId = pos.slotId
    · rw [if_pos hslotId, if_pos]
      cases other
      cases pos
      rw [BankSlot.mk.injEq]
      exact ⟨htabId, hslotId⟩
    · rw [if_neg hslotId, if_neg]
      rintro rfl
      exact hslotId rfl
  · rw [if_neg htabId, if_neg, getItem]
    rintro rfl
    exact htabId rfl

theorem mem_tabItems_of_getItem (h : b.getItem pos = some item) : item ∈ b.tabItems pos.tabId := by
  obtain ⟨tab, htab⟩ := (slot_of_getItem h).exists_tab
  rw [getItem_eq htab] at h
  rw [tabItems, htab]
  exact (BankTab.items_perm h).mem_iff.mpr List.mem_cons_self

theorem mem_of_getItem (h : b.getItem pos = some item) : item ∈ b.allItems :=
  mem_allItems_of_tabItems (mem_tabItems_of_getItem h)

/-- An item leaves its slot. -/
theorem tabItems_take (h : b.getItem pos = some item) :
    (b.tabItems pos.tabId).Perm (item :: (b.setItem pos none).tabItems pos.tabId) := by
  have hslot := slot_of_getItem h
  obtain ⟨tab, htab⟩ := hslot.exists_tab
  rw [getItem_eq htab] at h
  rw [setItem_eq htab, tabItems_withTab hslot.1, if_pos rfl, BankTab.items_setItem_none _ hslot.2,
    tabItems, htab]
  exact BankTab.items_perm h

/-- An item goes to a free slot. -/
theorem tabItems_put (hslot : b.Slot pos) (h : b.getItem pos = none) (item : Items.Item) :
    ((b.setItem pos (some item)).tabItems pos.tabId).Perm (item :: b.tabItems pos.tabId) := by
  obtain ⟨tab, htab⟩ := hslot.exists_tab
  rw [getItem_eq htab] at h
  rw [setItem_eq htab, tabItems_withTab hslot.1, if_pos rfl, tabItems, htab]
  dsimp only
  rw [BankTab.items_of_free hslot.2 h]
  exact BankTab.items_setItem _ hslot.2 _

theorem tabItems_setItem_of_ne (new : Option Items.Item) (hne : tabId ≠ pos.tabId) :
    (b.setItem pos new).tabItems tabId = b.tabItems tabId := by
  rw [setItem]
  split
  · next tab htab =>
      have hlt := (List.getElem?_eq_some_iff.mp htab).1
      exact (tabItems_withTab hlt (tab.setItem pos.slotId new) b.nextGuid tabId).trans (if_neg hne)
  · rfl

/-- All items are those of a tab and those of the others. -/
theorem allItems_perm_tabItems (h : tabId < b.tabs.length) :
    b.allItems.Perm (b.tabItems tabId ++ b.otherTabs tabId) := by
  have htab := List.getElem?_eq_getElem h
  have hperm := allItems_perm htab
  rwa [tabItems, htab]

theorem otherTabs_setItem (b : BankItems) (pos : BankSlot) (new : Option Items.Item) :
    (b.setItem pos new).otherTabs pos.tabId = b.otherTabs pos.tabId := by
  rw [setItem]
  split
  · exact otherTabs_withTab _ _ _
  · rfl

theorem allItems_take (h : b.getItem pos = some item) :
    b.allItems.Perm (item :: (b.setItem pos none).allItems) := by
  have hslot := slot_of_getItem h
  have hafter := allItems_perm_tabItems (hslot.setItem pos none).1
  rw [otherTabs_setItem] at hafter
  refine ((allItems_perm_tabItems hslot.1).trans ?_).trans (hafter.symm.cons item)
  exact (tabItems_take h).append_right _

theorem allItems_put (hslot : b.Slot pos) (h : b.getItem pos = none) (item : Items.Item) :
    (b.setItem pos (some item)).allItems.Perm (item :: b.allItems) := by
  have hafter := allItems_perm_tabItems (hslot.setItem pos (some item)).1
  rw [otherTabs_setItem] at hafter
  refine hafter.trans (((tabItems_put hslot h item).append_right _).trans ?_)
  exact (allItems_perm_tabItems hslot.1).symm.cons item

/-- Another item takes the slot of one. -/
theorem tabItems_replace (hslot : b.Slot pos) (item : Items.Item) :
    ((b.setItem pos (some item)).tabItems pos.tabId).Perm
      (item :: (b.setItem pos none).tabItems pos.tabId) := by
  obtain ⟨tab, htab⟩ := hslot.exists_tab
  rw [setItem_eq htab, setItem_eq htab, tabItems_withTab hslot.1, tabItems_withTab hslot.1,
    if_pos rfl, if_pos rfl, BankTab.items_setItem_none _ hslot.2]
  exact BankTab.items_setItem _ hslot.2 _

theorem allItems_replace (hslot : b.Slot pos) (item : Items.Item) :
    (b.setItem pos (some item)).allItems.Perm (item :: (b.setItem pos none).allItems) := by
  have hsome := allItems_perm_tabItems (hslot.setItem pos (some item)).1
  have hnone := allItems_perm_tabItems (hslot.setItem pos none).1
  rw [otherTabs_setItem] at hsome hnone
  exact hsome.trans (((tabItems_replace hslot item).append_right _).trans (hnone.symm.cons item))

theorem mem_tabItems_setItem (hslot : b.Slot pos) {new : Option Items.Item} {found : Items.Item}
    (h : found ∈ (b.setItem pos new).tabItems tabId) :
    (tabId = pos.tabId ∧ new = some found) ∨ found ∈ (b.setItem pos none).tabItems tabId := by
  by_cases heq : tabId = pos.tabId
  · subst heq
    cases new with
    | none => exact Or.inr h
    | some item =>
      obtain rfl | hin := List.mem_cons.mp ((tabItems_replace hslot item).mem_iff.mp h)
      · exact Or.inl ⟨rfl, rfl⟩
      · exact Or.inr hin
  · rw [tabItems_setItem_of_ne _ heq] at h ⊢
    exact Or.inr h

theorem mem_tabItems_of_setItem_none (hslot : b.Slot pos) {found : Items.Item}
    (h : found ∈ (b.setItem pos none).tabItems tabId) : found ∈ b.tabItems tabId := by
  by_cases heq : tabId = pos.tabId
  · subst heq
    cases hitem : b.getItem pos with
    | some item => exact (tabItems_take hitem).mem_iff.mpr (List.mem_cons_of_mem item h)
    | none =>
      obtain ⟨tab, htab⟩ := hslot.exists_tab
      rw [getItem_eq htab] at hitem
      rw [setItem_eq htab, tabItems_withTab hslot.1, if_pos rfl,
        BankTab.items_setItem_none _ hslot.2, ← BankTab.items_of_free hslot.2 hitem] at h
      rw [tabItems, htab]
      exact h
  · rwa [tabItems_setItem_of_ne _ heq] at h

/-! ### What a move does to the items -/

variable {left : List Nat} {vec : List (Nat × Nat)}

/-- All items are kept, no tab but those of `left` has less of an entry, the items of a tab were
there before, came from a tab of `left` or are new, and what is in `left` was left. -/
structure ItemsMoved (catalog : Catalog) (b after : BankItems) (left : List Nat) : Prop where
  stock : Stock catalog (fun entry => tally entry b.allItems) after.nextGuid [] after.allItems
  kept : ∀ tabId, tabId ∉ left → ∀ entry,
    tally entry (b.tabItems tabId) ≤ tally entry (after.tabItems tabId)
  origin : ∀ tabId, ∀ found ∈ after.tabItems tabId,
    (∃ old, (∃ from_, (from_ = tabId ∨ from_ ∈ left) ∧ old ∈ b.tabItems from_) ∧
      old.guid = found.guid) ∨ b.nextGuid ≤ found.guid
  leaves : ∀ tabId ∈ left, Leaves b after tabId

theorem Sound.stock (h : Sound catalog g b) :
    Stock catalog (fun entry => tally entry b.allItems) b.nextGuid [] b.allItems where
  distinct := h.distinct
  fresh := h.fresh
  stackable := h.stackable
  balance := fun _ => rfl

/-- The tabs that are left are just the tabs that lose a stack or a part of it. -/
theorem ItemsMoved.leaves_iff (h : ItemsMoved catalog b after left) (hsound : Sound catalog g b)
    (tabId : Nat) : Leaves b after tabId ↔ tabId ∈ left := by
  constructor
  · intro hleaves
    by_contra hnot
    obtain ⟨entry, hless⟩ | ⟨item, hitem, other, hne, item', hitem', hguid⟩ := hleaves
    · exact absurd (h.kept tabId hnot entry) (Nat.not_le.mpr hless)
    · obtain ⟨old, ⟨from_, hfrom, hold⟩, hsame⟩ | hnew := h.origin other item' hitem'
      · have hunique := tabId_unique hsound.distinct hitem hold (hsame.trans hguid)
        subst hunique
        obtain heq | hin := hfrom
        · exact hne heq.symm
        · exact hnot hin
      · have hlt := hsound.fresh item (mem_allItems_of_tabItems hitem)
        omega
  · exact h.leaves tabId

theorem itemsMoved_stays (hsound : Sound catalog g b) (htabs : after.tabs = b.tabs)
    (hguid : b.nextGuid ≤ after.nextGuid) : ItemsMoved catalog b after [] where
  stock := by
    have hitems : after.allItems = b.allItems := by rw [allItems, htabs, allItems]
    rw [hitems]
    exact ⟨hsound.distinct, fun item hitem => (hsound.fresh item hitem).trans_le hguid,
      hsound.stackable, fun _ => rfl⟩
  kept := by
    intro tabId _ entry
    rw [tabItems, tabItems, htabs]
  origin := by
    intro tabId found hfound
    rw [tabItems, htabs] at hfound
    exact Or.inl ⟨found, ⟨tabId, Or.inl rfl, hfound⟩, rfl⟩
  leaves := by
    intro tabId hin
    cases hin

/-- An item, or a clone of a part of it, was taken out of a slot. -/
structure Removed (catalog : Catalog) (b mid : BankItems) (src : BankSlot) (moved : Items.Item) :
    Prop where
  stock : Stock catalog (fun entry => tally entry b.allItems) mid.nextGuid []
    (moved :: mid.allItems)
  source : ∀ entry, tally entry (b.tabItems src.tabId) =
    moved.units entry + tally entry (mid.tabItems src.tabId)
  others : ∀ tabId, tabId ≠ src.tabId → mid.tabItems tabId = b.tabItems tabId
  origin : ∀ tabId, ∀ found ∈ mid.tabItems tabId, ∃ old ∈ b.tabItems tabId, old.guid = found.guid
  guid : moved ∈ b.tabItems src.tabId ∨ b.nextGuid ≤ moved.guid
  view : ∀ pos dest, mid.getItem pos = some dest →
    ∃ old, b.getItem pos = some old ∧ old.guid ≠ moved.guid ∧ old.entry = dest.entry ∧
      dest.count ≤ old.count
  nextGuid : b.nextGuid ≤ mid.nextGuid
  length : mid.tabs.length = b.tabs.length

theorem length_setItem (b : BankItems) (pos : BankSlot) (new : Option Items.Item) :
    (b.setItem pos new).tabs.length = b.tabs.length := by
  rw [setItem]
  split
  · exact List.length_set
  · rfl

theorem nextGuid_setItem (b : BankItems) (pos : BankSlot) (new : Option Items.Item) :
    (b.setItem pos new).nextGuid = b.nextGuid := by
  rw [setItem]
  split
  · rfl
  · rfl

theorem removed_whole (hsound : Sound catalog g b) (h : b.getItem src = some item) :
    Removed catalog b (b.setItem src none) src item where
  stock := by
    rw [nextGuid_setItem]
    exact hsound.stock.perm (allItems_take h)
  source := by
    intro entry
    rw [tally_perm (tabItems_take h), tally_cons]
  others := fun tabId hne => tabItems_setItem_of_ne none hne
  origin := fun tabId found hfound =>
    ⟨found, mem_tabItems_of_setItem_none (slot_of_getItem h) hfound, rfl⟩
  guid := Or.inl (mem_tabItems_of_getItem h)
  view := by
    intro pos dest hdest
    have hin := mem_of_getItem hdest
    rw [getItem_setItem (slot_of_getItem h)] at hdest
    split at hdest
    · cases hdest
    · refine ⟨dest, hdest, ?_, rfl, le_rfl⟩
      have hnodup := (hsound.stock.perm (allItems_take h)).distinct
      intro heq
      exact (List.nodup_cons.mp hnodup).1 (heq ▸ List.mem_map_of_mem hin)
  nextGuid := (nextGuid_setItem _ _ _).ge
  length := length_setItem _ _ _

theorem removed_part (hsound : Sound catalog g b) (h : b.getItem src = some item) {split : Nat}
    {clone : Items.Item} (hclone : cloneItem catalog b.nextGuid item split = some clone)
    (hlt : split < item.count) :
    Removed catalog b (b.skipGuid.setItem src (some { item with count := item.count - split })) src
      clone := by
  have hslot := slot_of_getItem h
  have hstack := hsound.stackable item (mem_of_getItem h)
  have hnew : 0 < split ∧ clone.guid = b.nextGuid ∧ clone.entry = item.entry ∧
      clone.count = split := by
    rw [cloneItem] at hclone
    split at hclone
    · cases hclone
    · next hpos =>
        cases hclone
        exact ⟨Nat.pos_of_ne_zero fun hzero => hpos (hzero ▸ Nat.one_pos), rfl, rfl,
          min_eq_left (hlt.le.trans hstack.bounded)⟩
  obtain ⟨hpos, hguid, hentry, hcount⟩ := hnew
  have hkept : ∀ pos new, (b.skipGuid.setItem pos new).tabs = (b.setItem pos new).tabs := by
    intro pos new
    rw [BankItems.setItem, BankItems.setItem]
    cases htab : b.tabs[pos.tabId]? with
    | none =>
      have hskip : b.skipGuid.tabs[pos.tabId]? = none := htab
      rw [hskip]
      rfl
    | some tab =>
      have hskip : b.skipGuid.tabs[pos.tabId]? = some tab := htab
      rw [hskip]
      rfl
  have htabItems : ∀ pos new tabId,
      (b.skipGuid.setItem pos new).tabItems tabId = (b.setItem pos new).tabItems tabId := by
    intro pos new tabId
    rw [tabItems, tabItems, hkept]
  have hgetItem : ∀ pos new other,
      (b.skipGuid.setItem pos new).getItem other = (b.setItem pos new).getItem other := by
    intro pos new other
    rw [BankItems.getItem, BankItems.getItem, hkept]
  constructor
  · have hsplit := (hsound.stock.perm (allItems_take h)).split hpos hlt hguid hentry hcount
    have hnext : (b.skipGuid.setItem src (some { item with count := item.count - split })).nextGuid =
        b.nextGuid + 1 := nextGuid_setItem _ _ _
    have hitems : ∀ pos new,
        (b.skipGuid.setItem pos new).allItems = (b.setItem pos new).allItems := by
      intro pos new
      rw [allItems, hkept, allItems]
    rw [hnext, hitems]
    exact hsplit.perm ((allItems_replace hslot _).symm.cons clone)
  · intro entry
    rw [htabItems, tally_perm (tabItems_take h), tally_perm (tabItems_replace hslot _), tally_cons,
      tally_cons, Items.Item.units, Items.Item.units, Items.Item.units, hentry, hcount]
    dsimp only
    split
    · omega
    · omega
  · intro tabId hne
    rw [htabItems, tabItems_setItem_of_ne _ hne]
  · intro tabId found hfound
    rw [htabItems] at hfound
    obtain ⟨rfl, hnew⟩ | hold := mem_tabItems_setItem hslot hfound
    · cases hnew
      exact ⟨item, mem_tabItems_of_getItem h, rfl⟩
    · exact ⟨found, mem_tabItems_of_setItem_none hslot hold, rfl⟩
  · exact Or.inr hguid.ge
  · intro pos dest hdest
    have hother : ∀ {old : Items.Item}, b.getItem pos = some old → old.guid ≠ clone.guid := by
      intro old hold
      have hfresh := hsound.fresh old (mem_of_getItem hold)
      omega
    rw [hgetItem, getItem_setItem hslot] at hdest
    split at hdest
    · next heq =>
        cases hdest
        subst heq
        exact ⟨item, h, hother h, rfl, Nat.sub_le _ _⟩
    · exact ⟨dest, hdest, hother hdest, rfl, le_rfl⟩
  · rw [nextGuid_setItem]
    exact Nat.le_succ _
  · rw [hkept, length_setItem]

/-- What is reserved before the removal fits after it. -/
theorem Removed.fits {mid : BankItems} {moved : Items.Item} (h : Removed catalog b mid src moved)
    {midTab : BankTab} (htab : b.tabs[tabId]? = some tab) (hmid : mid.tabs[tabId]? = some midTab)
    (hfits : Fits catalog (tab.itemDest moved) moved vec) :
    Fits catalog midTab.getItem moved vec where
  nodup := hfits.nodup
  inTab := hfits.inTab
  positive := hfits.positive
  bounded := hfits.bounded
  space := by
    intro pos hpos dest hdest
    have hview : mid.getItem ⟨tabId, pos.1⟩ = some dest := by
      rw [BankItems.getItem, hmid, Option.bind_some]
      exact hdest
    obtain ⟨old, hold, hguid, hentry, hcount⟩ := h.view _ dest hview
    rw [BankItems.getItem, htab, Option.bind_some] at hold
    have hother : tab.itemDest moved pos.1 = some old := by
      rw [BankTab.itemDest, hold, Option.filter_some, if_pos (bne_iff_ne.mpr hguid)]
    obtain ⟨hsame, hle⟩ := hfits.space pos hpos old hother
    exact ⟨hentry.symm.trans hsame, (Nat.add_le_add_right hcount _).trans hle⟩

/-- What was taken out is stored whole in the destination. -/
theorem Removed.itemsMoved {mid : BankItems} {moved : Items.Item}
    (h : Removed catalog b mid src moved) (hslot : b.Slot dest)
    (hstore : b.canStore catalog isSoulBound dest moved false = (.ok, vec)) (after : BankItems)
    (hafter : after = mid.storeItem catalog dest moved vec) :
    ItemsMoved catalog b after (if src.tabId = dest.tabId then [] else [src.tabId]) := by
  obtain ⟨tab, htab⟩ := hslot.exists_tab
  have hlt : dest.tabId < mid.tabs.length := h.length ▸ hslot.1
  have hmid : mid.tabs[dest.tabId]? = some mid.tabs[dest.tabId] := List.getElem?_eq_getElem hlt
  generalize mid.tabs[dest.tabId] = midTab at hmid
  have hpos : 0 < moved.count := (h.stock.stackable moved List.mem_cons_self).positive
  rw [canStore, htab] at hstore
  obtain ⟨hfits, hsum⟩ := BankTab.canStore_fits hstore hslot.2 hpos
  have hvec : vec ≠ [] := by
    rintro rfl
    rw [List.map_nil, List.sum_nil] at hsum
    omega
  rw [storeItem_eq hmid] at hafter
  have htabItems : mid.tabItems dest.tabId = midTab.items := by rw [tabItems, hmid]
  -- the whole bank
  have hstock : Stock catalog (fun entry => tally entry b.allItems) after.nextGuid []
      after.allItems := by
    have hhand : Stock catalog (fun entry => tally entry b.allItems) mid.nextGuid []
        ({ moved with count := (vec.map Prod.snd).sum } ::
          (midTab.items ++ mid.otherTabs dest.tabId)) := by
      rw [hsum]
      exact h.stock.perm ((allItems_perm hmid).cons moved)
    rw [hafter]
    refine (BankTab.stock_storeItem hvec (h.fits htab hmid hfits) hhand).perm ?_
    exact (allItems_withTab hlt _ _).symm
  have hsame : ∀ tabId, tabId ≠ dest.tabId → after.tabItems tabId = mid.tabItems tabId := by
    intro tabId hne
    rw [hafter, tabItems_withTab hlt, if_neg hne]
  have hdest : ∀ entry, tally entry (after.tabItems dest.tabId) =
      moved.units entry + tally entry (mid.tabItems dest.tabId) := by
    intro entry
    have hnew := hstock.balance entry
    have hold := h.stock.balance entry
    rw [tally_cons, tally_perm (allItems_perm hmid), tally_append] at hold
    have hperm : after.allItems.Perm (after.tabItems dest.tabId ++ mid.otherTabs dest.tabId) := by
      rw [hafter, tabItems_withTab hlt, if_pos rfl]
      exact allItems_withTab hlt _ _
    rw [tally_perm hperm, tally_append] at hnew
    rw [htabItems]
    omega
  refine ⟨hstock, ?_, ?_, ?_⟩
  · intro tabId hnot entry
    by_cases hto : tabId = dest.tabId
    · subst hto
      rw [hdest]
      by_cases hfrom : dest.tabId = src.tabId
      · rw [hfrom, h.source]
      · rw [h.others _ hfrom]
        exact Nat.le_add_left _ _
    · by_cases hfrom : tabId = src.tabId
      · subst hfrom
        rw [if_neg hto] at hnot
        exact absurd (List.mem_singleton_self _) hnot
      · rw [hsame _ hto, h.others _ hfrom]
  · intro tabId found hfound
    have hmidOrigin : ∀ old, old ∈ mid.tabItems tabId → old.guid = found.guid →
        ∃ old', (∃ from_, (from_ = tabId ∨
          from_ ∈ (if src.tabId = dest.tabId then [] else [src.tabId])) ∧
            old' ∈ b.tabItems from_) ∧ old'.guid = found.guid := by
      intro old hold hguid
      obtain ⟨first, hfirst, heq⟩ := h.origin tabId old hold
      exact ⟨first, ⟨tabId, Or.inl rfl, hfirst⟩, heq.trans hguid⟩
    by_cases hto : tabId = dest.tabId
    · subst hto
      rw [hafter, tabItems_withTab hlt, if_pos rfl] at hfound
      obtain ⟨-, hguids⟩ := @BankTab.guid_storeItem catalog moved vec midTab
        mid.nextGuid hfits.inTab
      obtain ⟨old, hold, hguid⟩ | hmoved | hnew := hguids found hfound
      · exact Or.inl (hmidOrigin old (htabItems ▸ hold) hguid)
      · obtain hin | hnew := h.guid
        · refine Or.inl ⟨moved, ⟨src.tabId, ?_, hin⟩, hmoved.symm⟩
          by_cases heq : src.tabId = dest.tabId
          · exact Or.inl heq
          · rw [if_neg heq]
            exact Or.inr (List.mem_singleton_self _)
        · exact Or.inr (hmoved ▸ hnew)
      · exact Or.inr (h.nextGuid.trans hnew)
    · rw [hsame _ hto] at hfound
      exact Or.inl (hmidOrigin found hfound rfl)
  · intro tabId hin
    split at hin
    · cases hin
    · next hne =>
        obtain rfl := List.mem_singleton.mp hin
        refine Or.inl ⟨moved.entry, ?_⟩
        rw [hsame _ hne, h.source, Items.Item.units, if_pos rfl]
        omega

/-- A whole stack goes to a slot that is free. -/
theorem storeItem_free (hslot : b.Slot pos) (h : b.getItem pos = none) (item : Items.Item) :
    b.storeItem catalog pos item [(pos.slotId, item.count)] = b.setItem pos (some item) := by
  obtain ⟨tab, htab⟩ := hslot.exists_tab
  rw [getItem_eq htab] at h
  rw [storeItem_eq htab, setItem_eq htab, BankTab.storeItem, BankTab.storeItemAt, h]
  rfl

theorem canStore_swap (hsound : Sound catalog g b) (hslot : b.Slot pos) (hin : item ∈ b.allItems)
    (h : b.canStore catalog isSoulBound pos item true = (.ok, vec)) :
    vec = [(pos.slotId, item.count)] := by
  obtain ⟨tab, htab⟩ := hslot.exists_tab
  rw [canStore, htab] at h
  dsimp only at h
  rw [BankTab.canStore_swap tab hslot.2 (hsound.stackable item hin).bounded] at h
  split at h
  · cases h
  · cases h
    rfl

/-- Two slots after their items have changed places. -/
def exchanged (b : BankItems) (src dest : BankSlot) (item other : Items.Item) : BankItems :=
  (((b.setItem src none).setItem dest none).setItem dest (some item)).setItem src (some other)

/-- Two items exchange their slots. -/
theorem itemsMoved_exchanged (hsound : Sound catalog g b) {other : Items.Item} (hne : src ≠ dest)
    (hitem : b.getItem src = some item) (hother : b.getItem dest = some other) :
    ItemsMoved catalog b (b.exchanged src dest item other)
      (if src.tabId = dest.tabId then [] else [src.tabId, dest.tabId]) := by
  have hsrc := slot_of_getItem hitem
  have hdest := slot_of_getItem hother
  rw [exchanged]
  have hother' : (b.setItem src none).getItem dest = some other := by
    rw [getItem_setItem hsrc, if_neg hne.symm]
    exact hother
  have hdest1 := hdest.setItem src none
  have hdest2 := hdest1.setItem dest none
  have hfreeDest : ((b.setItem src none).setItem dest none).getItem dest = none := by
    rw [getItem_setItem hdest1, if_pos rfl]
  have hsrc3 : (((b.setItem src none).setItem dest none).setItem dest (some item)).Slot src :=
    ((hsrc.setItem src none).setItem dest none).setItem dest _
  have hfreeSrc :
      (((b.setItem src none).setItem dest none).setItem dest (some item)).getItem src = none := by
    rw [getItem_setItem hdest2, if_neg hne, getItem_setItem hdest1, if_neg hne,
      getItem_setItem hsrc, if_pos rfl]
  have hperm : b.allItems.Perm ((((b.setItem src none).setItem dest none).setItem dest
      (some item)).setItem src (some other)).allItems := by
    calc List.Perm b.allItems (item :: (b.setItem src none).allItems) := allItems_take hitem
      List.Perm _ (item :: other :: ((b.setItem src none).setItem dest none).allItems) :=
          (allItems_take hother').cons item
      List.Perm _ (other :: item :: ((b.setItem src none).setItem dest none).allItems) :=
          List.Perm.swap _ _ _
      List.Perm _ (other ::
          (((b.setItem src none).setItem dest none).setItem dest (some item)).allItems) :=
          (allItems_put hdest2 hfreeDest item).symm.cons other
      List.Perm _ _ := (allItems_put hsrc3 hfreeSrc other).symm
  refine ⟨?_, ?_, ?_, ?_⟩
  · rw [nextGuid_setItem, nextGuid_setItem, nextGuid_setItem, nextGuid_setItem]
    exact hsound.stock.perm hperm
  · intro tabId hnot entry
    apply le_of_eq
    by_cases hsame : src.tabId = dest.tabId
    · by_cases htab : tabId = src.tabId
      · subst htab
        have htake := tabItems_take hother'
        have hput := tabItems_put hdest2 hfreeDest item
        rw [← hsame] at htake hput
        calc tally entry (b.tabItems src.tabId)
          _ = item.units entry + (other.units entry + tally entry
                (((b.setItem src none).setItem dest none).tabItems src.tabId)) := by
              rw [tally_perm (tabItems_take hitem), tally_cons, tally_perm htake, tally_cons]
          _ = other.units entry + (item.units entry + tally entry
                (((b.setItem src none).setItem dest none).tabItems src.tabId)) :=
              Nat.add_left_comm _ _ _
          _ = _ := by
              rw [tally_perm (tabItems_put hsrc3 hfreeSrc other), tally_cons, tally_perm hput,
                tally_cons]
      · rw [tabItems_setItem_of_ne _ htab, tabItems_setItem_of_ne _ (hsame ▸ htab),
          tabItems_setItem_of_ne _ (hsame ▸ htab), tabItems_setItem_of_ne _ htab]
    · rw [if_neg hsame, List.mem_cons, List.mem_singleton, not_or] at hnot
      rw [tabItems_setItem_of_ne _ hnot.1, tabItems_setItem_of_ne _ hnot.2,
        tabItems_setItem_of_ne _ hnot.2, tabItems_setItem_of_ne _ hnot.1]
  · intro tabId found hfound
    left
    obtain ⟨rfl, hnew⟩ | hrest := mem_tabItems_setItem hsrc3 hfound
    · cases hnew
      refine ⟨other, ⟨dest.tabId, ?_, mem_tabItems_of_getItem hother⟩, rfl⟩
      by_cases hsame : src.tabId = dest.tabId
      · exact Or.inl hsame.symm
      · rw [if_neg hsame]
        exact Or.inr (List.mem_cons_of_mem _ (List.mem_singleton_self _))
    · obtain ⟨rfl, hnew⟩ | hrest :=
        mem_tabItems_setItem hdest2 (mem_tabItems_of_setItem_none hsrc3 hrest)
      · cases hnew
        refine ⟨item, ⟨src.tabId, ?_, mem_tabItems_of_getItem hitem⟩, rfl⟩
        by_cases hsame : src.tabId = dest.tabId
        · exact Or.inl hsame
        · rw [if_neg hsame]
          exact Or.inr List.mem_cons_self
      · exact ⟨found, ⟨tabId, Or.inl rfl, mem_tabItems_of_setItem_none hsrc
          (mem_tabItems_of_setItem_none hdest1 (mem_tabItems_of_setItem_none hdest2 hrest))⟩, rfl⟩
  · intro tabId hin
    split at hin
    · cases hin
    · next hsame =>
        have hitemIn : item ∈ ((((b.setItem src none).setItem dest none).setItem dest
            (some item)).setItem src (some other)).tabItems dest.tabId := by
          rw [tabItems_setItem_of_ne _ (Ne.symm hsame)]
          exact (tabItems_put hdest2 hfreeDest item).mem_iff.mpr List.mem_cons_self
        have hotherIn := (tabItems_put hsrc3 hfreeSrc other).mem_iff.mpr List.mem_cons_self
        obtain rfl | hin := List.mem_cons.mp hin
        · exact Or.inr ⟨item, mem_tabItems_of_getItem hitem, dest.tabId, Ne.symm hsame, item,
            hitemIn, rfl⟩
        · obtain rfl := List.mem_singleton.mp hin
          exact Or.inr ⟨other, mem_tabItems_of_getItem hother, src.tabId, hsame, other, hotherIn,
            rfl⟩

/-! ### What a move does to the counters -/

/-- The counters after `_UpdateMemberWithdrawSlots` for a tab. -/
def countSlot (g : RankedGuild) (guid : Nat) (bankWithdraw : Nat → Nat → Int) (tabId : Nat) :
    Nat → Nat → Int :=
  match g.toGuild.getMember guid with
  | some member =>
    if member.rankId ≠ grGuildmaster ∧ getBankWithdrawValue member (bankWithdraw member.lowGuid)
        tabId < g.getRankBankTabSlotsPerDay member.rankId tabId then
      updateBankWithdrawValue bankWithdraw member.lowGuid tabId 1
    else bankWithdraw
  | none => bankWithdraw

def booked (b : BankItems) (bankWithdraw : Nat → Nat → Int) : BankItems :=
  { b with bankWithdraw := bankWithdraw }

theorem updateMemberWithdrawSlots_eq (g : RankedGuild) (b : BankItems) (guid tabId : Nat) :
    b.updateMemberWithdrawSlots g guid tabId =
      b.booked (countSlot g guid b.bankWithdraw tabId) := by
  rw [updateMemberWithdrawSlots, countSlot]
  cases g.toGuild.getMember guid with
  | none => rfl
  | some member =>
    dsimp only
    split
    · rfl
    · rfl

theorem booked_setItem (b : BankItems) (bankWithdraw : Nat → Nat → Int) (pos : BankSlot)
    (new : Option Items.Item) : (b.booked bankWithdraw).setItem pos new =
      (b.setItem pos new).booked bankWithdraw := by
  rw [setItem, setItem, booked]
  dsimp only
  split
  · rfl
  · rfl

theorem booked_storeItem (b : BankItems) (bankWithdraw : Nat → Nat → Int) (pos : BankSlot)
    (item : Items.Item) (vec : List (Nat × Nat)) :
    (b.booked bankWithdraw).storeItem catalog pos item vec =
      (b.storeItem catalog pos item vec).booked bankWithdraw := by
  rw [storeItem, storeItem, booked]
  dsimp only
  split
  · rfl
  · rfl

theorem bankWithdraw_setItem (b : BankItems) (pos : BankSlot) (new : Option Items.Item) :
    (b.setItem pos new).bankWithdraw = b.bankWithdraw := by
  rw [setItem]
  split
  · rfl
  · rfl

theorem booked_self (b : BankItems) : b.booked b.bankWithdraw = b := rfl

/-- What is left of an item in its slot. -/
def leftOver (item : Items.Item) (splitedAmount : Nat) : Option Items.Item :=
  if splitedAmount ≠ 0 then some { item with count := item.count - splitedAmount } else none

theorem removeItem_eq (g : RankedGuild) (b : BankItems) (guid : Nat) (pos other : BankSlot)
    (item : Items.Item) (splitedAmount : Nat) :
    b.removeItem g guid pos other item splitedAmount =
      (b.setItem pos (leftOver item splitedAmount)).booked
        (if other.tabId ≠ pos.tabId then countSlot g guid b.bankWithdraw pos.tabId
          else b.bankWithdraw) := by
  have hset : (if splitedAmount ≠ 0 then
      b.setItem pos (some { item with count := item.count - splitedAmount })
        else b.setItem pos none) = b.setItem pos (leftOver item splitedAmount) := by
    rw [leftOver]
    split_ifs
    · rfl
    · rfl
  rw [removeItem, hset]
  split
  · rw [updateMemberWithdrawSlots_eq, bankWithdraw_setItem]
  · rw [← bankWithdraw_setItem b pos, booked_self]

theorem ItemsMoved.booked (h : ItemsMoved catalog b after left) (bankWithdraw : Nat → Nat → Int) :
    ItemsMoved catalog b (after.booked bankWithdraw) left :=
  ⟨h.stock, h.kept, h.origin, h.leaves⟩

/-- The counters go up for the tabs that are left, and only a member with slots leaves one. -/
structure SlotsBooked (g : RankedGuild) (guid : Nat) (b after : BankItems) (left : List Nat) :
    Prop where
  counters : after.bankWithdraw = left.foldl (countSlot g guid) b.bankWithdraw
  remaining : ∀ tabId ∈ left, b.remainingSlots g guid tabId ≠ 0
  nodup : left.Nodup

theorem hasWithdrawRights_of_ne {other : BankSlot}
    (h : b.hasWithdrawRights g guid pos other = true) (hne : other.tabId ≠ pos.tabId) :
    b.remainingSlots g guid pos.tabId ≠ 0 := by
  rw [hasWithdrawRights, Bool.or_eq_true, beq_iff_eq, bne_iff_ne] at h
  exact h.resolve_left hne

/-- A request moves items and books slots as its end says. -/
theorem Moved.sound (hsound : Sound catalog g b) (hne : src ≠ dest) (hdest : b.Slot dest)
    (h : Moved catalog isSoulBound g b guid src dest after left) :
    ItemsMoved catalog b after left ∧ SlotsBooked g guid b after left := by
  cases h with
  | stays htabs hwithdraw hguid =>
    refine ⟨itemsMoved_stays hsound htabs hguid, hwithdraw, ?_, List.nodup_nil⟩
    intro tabId hin
    cases hin
  | @stores item moved split next vec hitem hpicked hrights hstore =>
    have hnext : next.bankWithdraw = b.bankWithdraw ∧ Removed catalog b
        (next.setItem src (leftOver item split)) src moved ∧
        b.canStore catalog isSoulBound dest moved false = (.ok, vec) := by
      by_cases hsplit : split = 0
      · obtain ⟨rfl, rfl⟩ := hpicked.whole hsplit
        rw [leftOver, if_neg (not_not.mpr hsplit)]
        exact ⟨rfl, removed_whole hsound hitem, hstore⟩
      · obtain ⟨hlt, hclone, rfl⟩ := hpicked.part hsplit
        rw [leftOver, if_pos hsplit]
        exact ⟨rfl, removed_part hsound hitem hclone hlt, hstore⟩
    obtain ⟨hwithdraw, hremoved, hstore⟩ := hnext
    rw [removeItem_eq, booked_storeItem, hwithdraw]
    refine ⟨(hremoved.itemsMoved hdest hstore _ rfl).booked _, ?_⟩
    by_cases hsame : src.tabId = dest.tabId
    · rw [if_pos hsame, if_neg (not_not.mpr hsame.symm)]
      refine ⟨rfl, ?_, List.nodup_nil⟩
      intro tabId hin
      cases hin
    · rw [if_neg hsame, if_pos (Ne.symm hsame)]
      refine ⟨rfl, ?_, List.nodup_singleton _⟩
      intro tabId hin
      rw [List.mem_singleton.mp hin]
      exact hasWithdrawRights_of_ne hrights (Ne.symm hsame)
  | @exchanges item other vec srcVec hitem hother hrights hback hstore hstoreBack =>
    have hsrc := slot_of_getItem hitem
    have hvec := canStore_swap hsound hdest (mem_of_getItem hitem) hstore
    have hsrcVec := canStore_swap hsound hsrc (mem_of_getItem hother) hstoreBack
    subst hvec hsrcVec
    have hdest1 := hdest.setItem src none
    have hfree : ((b.setItem src none).setItem dest none).getItem dest = none := by
      rw [getItem_setItem hdest1, if_pos rfl]
    have hfreeSrc : (((b.setItem src none).setItem dest none).setItem dest
        (some item)).getItem src = none := by
      rw [getItem_setItem (hdest1.setItem dest none), if_neg hne, getItem_setItem hdest1,
        if_neg hne, getItem_setItem hsrc, if_pos rfl]
    have hover : ∀ item : Items.Item, leftOver item 0 = none := fun _ => rfl
    rw [removeItem_eq, removeItem_eq, hover, hover, booked_setItem, booked_storeItem,
      booked_storeItem, booked_storeItem, booked_storeItem,
      storeItem_free (hdest1.setItem dest none) hfree,
      storeItem_free (((hsrc.setItem src none).setItem dest none).setItem dest _) hfreeSrc]
    refine ⟨((itemsMoved_exchanged hsound hne hitem hother).booked _).booked _, ?_⟩
    by_cases hsame : src.tabId = dest.tabId
    · rw [if_pos hsame, if_neg (not_not.mpr hsame.symm), if_neg (not_not.mpr hsame)]
      refine ⟨rfl, ?_, List.nodup_nil⟩
      intro tabId hin
      cases hin
    · rw [if_neg hsame, if_pos (Ne.symm hsame), if_pos hsame]
      refine ⟨rfl, ?_, List.nodup_cons.mpr ⟨?_, List.nodup_singleton _⟩⟩
      · intro tabId hin
        obtain rfl | hin := List.mem_cons.mp hin
        · exact hasWithdrawRights_of_ne hrights (Ne.symm hsame)
        · rw [List.mem_singleton.mp hin]
          exact hasWithdrawRights_of_ne hback hsame
      · intro hin
        exact hsame (List.mem_singleton.mp hin)

theorem getRankBankTabSlotsPerDay_range (g : RankedGuild) (rankId tabId : Nat) :
    -2 ^ 31 ≤ g.getRankBankTabSlotsPerDay rankId tabId ∧
      g.getRankBankTabSlotsPerDay rankId tabId < 2 ^ 31 := by
  rw [RankedGuild.getRankBankTabSlotsPerDay]
  split
  · split
    · rw [int32, Int.bmod_def]
      omega
    · decide
  · decide

variable {member : Member} {bankWithdraw : Nat → Nat → Int}

theorem getMember_eq_some_iff (hmember : member ∈ g.roster.members) :
    g.toGuild.getMember guid = some member ↔ lowPart guid = member.lowGuid := by
  have hfind : g.toGuild.getMember guid = g.roster.find? (lowPart guid) := rfl
  rw [hfind, Roster.find?_eq_some_iff]
  constructor
  · exact fun hfound => hfound.2.symm
  · exact fun hkey => ⟨hmember, hkey.symm⟩

theorem countSlot_apply (hmember : member ∈ g.roster.members)
    (hmaster : member.rankId ≠ grGuildmaster)
    (tabId counted : Nat) :
    countSlot g guid bankWithdraw counted member.lowGuid tabId =
      if lowPart guid = member.lowGuid ∧ tabId = counted ∧ bankWithdraw member.lowGuid tabId <
          g.getRankBankTabSlotsPerDay member.rankId tabId then
        int32 (bankWithdraw member.lowGuid tabId + 1)
      else bankWithdraw member.lowGuid tabId := by
  rw [countSlot]
  cases hfound : g.toGuild.getMember guid with
  | none =>
    dsimp only
    rw [if_neg]
    rintro ⟨hkey, -⟩
    rw [(getMember_eq_some_iff hmember).mpr hkey] at hfound
    cases hfound
  | some acting =>
    dsimp only
    by_cases hkey : lowPart guid = member.lowGuid
    · rw [(getMember_eq_some_iff hmember).mpr hkey] at hfound
      cases hfound
      rw [RankedGuild.getBankWithdrawValue_of_ne hmaster]
      by_cases htab : tabId = counted
      · subst htab
        by_cases hless : bankWithdraw member.lowGuid tabId <
            g.getRankBankTabSlotsPerDay member.rankId tabId
        · rw [if_pos ⟨hmaster, hless⟩, if_pos ⟨hkey, rfl, hless⟩, updateBankWithdrawValue,
            if_pos ⟨rfl, rfl⟩]
          rfl
        · rw [if_neg fun hand => hless hand.2, if_neg fun hand => hless hand.2.2]
      · have hnot : ¬ (lowPart guid = member.lowGuid ∧ tabId = counted ∧
            bankWithdraw member.lowGuid tabId <
              g.getRankBankTabSlotsPerDay member.rankId tabId) := fun hand => htab hand.2.1
        rw [if_neg hnot]
        split
        · rw [updateBankWithdrawValue, if_neg fun hand => htab hand.2]
        · rfl
    · have hnot : ¬ (lowPart guid = member.lowGuid ∧ tabId = counted ∧
          bankWithdraw member.lowGuid tabId <
            g.getRankBankTabSlotsPerDay member.rankId tabId) := fun hand => hkey hand.1
      have hother : member.lowGuid ≠ acting.lowGuid := by
        have hfind : g.roster.find? (lowPart guid) = some acting := hfound
        intro heq
        exact hkey ((Roster.find?_eq_some_iff.mp hfind).2.symm.trans heq.symm)
      rw [if_neg hnot]
      split
      · rw [updateBankWithdrawValue, if_neg fun hand => hother hand.1]
      · rfl

/-- The counter of a tab goes up once when the tab is left and there are slots. -/
theorem foldl_countSlot (hmember : member ∈ g.roster.members)
    (hmaster : member.rankId ≠ grGuildmaster) (tabId : Nat) (hnodup : left.Nodup) :
    left.foldl (countSlot g guid) bankWithdraw member.lowGuid tabId =
      if lowPart guid = member.lowGuid ∧ tabId ∈ left ∧ bankWithdraw member.lowGuid tabId <
          g.getRankBankTabSlotsPerDay member.rankId tabId then
        int32 (bankWithdraw member.lowGuid tabId + 1)
      else bankWithdraw member.lowGuid tabId := by
  induction left generalizing bankWithdraw with
  | nil => rw [List.foldl_nil, if_neg fun hand => absurd hand.2.1 List.not_mem_nil]
  | cons counted rest ih =>
    obtain ⟨hnot, hrest⟩ := List.nodup_cons.mp hnodup
    rw [List.foldl_cons, ih hrest, countSlot_apply hmember hmaster]
    by_cases htab : tabId = counted
    · subst htab
      rw [if_neg fun hand => hnot hand.2.1]
      simp only [List.mem_cons, true_or, true_and]
    · have hsame : ¬ (lowPart guid = member.lowGuid ∧ tabId = counted ∧
          bankWithdraw member.lowGuid tabId <
            g.getRankBankTabSlotsPerDay member.rankId tabId) := fun hand => htab hand.2.1
      rw [if_neg hsame]
      simp only [List.mem_cons, htab, false_or]

/-- The daily slots of a member for the tabs that are left, without what his counters say, are an
`int32`. -/
def NoUnderflow (g : RankedGuild) (b : BankItems) (guid : Nat) (left : List Nat) : Prop :=
  ∀ member ∈ g.roster.members, lowPart guid = member.lowGuid → member.rankId ≠ grGuildmaster →
    ∀ tabId ∈ left, -2 ^ 31 ≤ g.getRankBankTabSlotsPerDay member.rankId tabId -
      b.bankWithdraw member.lowGuid tabId

/-- A member with remaining slots has not used them up, except where they underflow. -/
theorem withdraw_lt_iff (hmember : member ∈ g.roster.members)
    (hkey : lowPart guid = member.lowGuid) (hmaster : member.rankId ≠ grGuildmaster)
    (hsound : Sound catalog g b) (hremaining : b.remainingSlots g guid tabId ≠ 0) :
    b.bankWithdraw member.lowGuid tabId < g.getRankBankTabSlotsPerDay member.rankId tabId ↔
      -2 ^ 31 ≤ g.getRankBankTabSlotsPerDay member.rankId tabId -
        b.bankWithdraw member.lowGuid tabId := by
  rw [remainingSlots, (getMember_eq_some_iff hmember).mpr hkey] at hremaining
  dsimp only at hremaining
  rw [Ne, RankedGuild.getMemberRemainingSlots_eq_zero hmaster, Int.not_le] at hremaining
  have hcounter := hsound.counters member.lowGuid tabId
  obtain ⟨hlow, hhigh⟩ := getRankBankTabSlotsPerDay_range g member.rankId tabId
  generalize b.bankWithdraw member.lowGuid tabId = counter at *
  generalize g.getRankBankTabSlotsPerDay member.rankId tabId = slots at *
  rw [int32, Int.bmod_def] at hcounter hremaining
  constructor
  · intro hlt
    omega
  · intro hle
    omega

/-- A move keeps the items, and it books and limits the slots of its member exactly when these do
not underflow. -/
theorem Moved.movesWell_iff (hsound : Sound catalog g b)
    (hitems : ItemsMoved catalog b after left) (hbooked : SlotsBooked g guid b after left) :
    MovesWell catalog g guid b after ↔ NoUnderflow g b guid left := by
  have hvalue : ∀ {member : Member}, member ∈ g.roster.members → member.rankId ≠ grGuildmaster →
      ∀ tabId, after.bankWithdraw member.lowGuid tabId =
        if lowPart guid = member.lowGuid ∧ tabId ∈ left ∧ b.bankWithdraw member.lowGuid tabId <
            g.getRankBankTabSlotsPerDay member.rankId tabId then
          int32 (b.bankWithdraw member.lowGuid tabId + 1)
        else b.bankWithdraw member.lowGuid tabId := by
    intro member hmember hmaster tabId
    rw [hbooked.counters, foldl_countSlot hmember hmaster tabId hbooked.nodup]
  have hexact : ∀ {member : Member} {tabId : Nat}, b.bankWithdraw member.lowGuid tabId <
      g.getRankBankTabSlotsPerDay member.rankId tabId →
        int32 (b.bankWithdraw member.lowGuid tabId + 1) =
          b.bankWithdraw member.lowGuid tabId + 1 := by
    intro member tabId hlt
    have hcounter := hsound.counters member.lowGuid tabId
    obtain ⟨-, hhigh⟩ := getRankBankTabSlotsPerDay_range g member.rankId tabId
    rw [int32, Int.bmod_def] at hcounter ⊢
    omega
  constructor
  · intro hwell member hmember hkey hmaster tabId hin
    have hleaves := (hitems.leaves_iff hsound tabId).mpr hin
    have hup := (hwell.counted member hmember hmaster tabId).1 ⟨hkey, hleaves⟩
    rw [hvalue hmember hmaster] at hup
    split at hup
    · next hand =>
        exact (withdraw_lt_iff hmember hkey hmaster hsound (hbooked.remaining tabId hin)).mp
          hand.2.2
    · omega
  · intro hfits
    refine ⟨?_, hitems.stock.stackable, hitems.stock.distinct, ?_, ?_⟩
    · intro entry
      exact hitems.stock.balance entry
    · intro member hmember hmaster tabId
      rw [hitems.leaves_iff hsound, hvalue hmember hmaster]
      constructor
      · rintro ⟨hkey, hin⟩
        have hlt := (withdraw_lt_iff hmember hkey hmaster hsound
          (hbooked.remaining tabId hin)).mpr (hfits member hmember hkey hmaster tabId hin)
        rw [if_pos ⟨hkey, hin, hlt⟩, hexact hlt]
      · intro hnot
        rw [if_neg fun hand => hnot ⟨hand.1, hand.2.1⟩]
    · intro member hmember hmaster tabId
      rw [hvalue hmember hmaster]
      split
      · next hand =>
          rw [hexact hand.2.2]
          exact (Int.add_one_le_iff.mpr hand.2.2).trans (le_max_right _ _)
      · exact le_max_left _ _

/-- A request between two slots of the bank keeps the items, and it counts and limits what leaves
the tabs, exactly when the remaining slots of its member do not underflow there. -/
theorem swapItems_movesWell_iff (catalog : Catalog) (isSoulBound : Items.Item → Bool)
    (g : RankedGuild)
    (b : BankItems) (guid : Nat) (src dest : BankSlot) (splitedAmount : Nat)
    (h : Sound catalog g b) :
    MovesWell catalog g guid b (b.swapItems catalog isSoulBound g guid src dest splitedAmount) ↔
      NoUnderflow g b guid (b.leftTabs catalog isSoulBound g guid src dest splitedAmount) := by
  cases haddressed : addressed g src dest with
  | false =>
    obtain ⟨hstays, hleft⟩ := @swapItems_unaddressed catalog isSoulBound g b guid src dest
      splitedAmount haddressed
    rw [hstays, hleft]
    apply Moved.movesWell_iff h (itemsMoved_stays h rfl le_rfl)
    exact ⟨rfl, fun tabId hin => absurd hin List.not_mem_nil, List.nodup_nil⟩
  | true =>
    have hmoved := @moved_swapItems catalog isSoulBound g b guid src dest haddressed splitedAmount
    simp only [addressed, Bool.and_eq_true, decide_eq_true_eq, bne_iff_ne] at haddressed
    have hdest : b.Slot dest := ⟨h.tabs ▸ haddressed.1.1.2, haddressed.1.2⟩
    obtain ⟨hitems, hbooked⟩ := hmoved.sound h haddressed.2 hdest
    exact Moved.movesWell_iff h hitems hbooked

/-! ### A bank with two tabs -/

theorem twenty_le : (20 : Int) ≤ 2147483647 := by decide

/-- Stacks of up to twenty. -/
def reagents : Catalog where
  template := fun _ => ⟨.reagent, 0, .nonEquip, 0, 20, 0, 0, 0, 0, 0, false, false⟩
  limitCategory := fun _ => none
  containerSlots_le := fun _ => Nat.zero_le _
  stackable_le := fun _ => twenty_le

def aReagent : Items.Item := ⟨1, 5, 3, [], false, true⟩

theorem aBankGuild_le (slots : Nat) :
    [Rank.new ⟨0, "Guild Master", grRightAll, guildWithdrawMoneyUnlimited⟩,
      ((Rank.new ⟨1, "Officer", grRightAll, 0⟩).setBankTabSlotsAndRights
        ⟨0, guildBankRightFull, slots⟩).setBankTabSlotsAndRights
          ⟨1, guildBankRightFull, slots⟩].length ≤ guildRanksMaxCount := by
  rw [List.length_cons, List.length_singleton]
  decide

/-- An officer may take this many stacks a day from each of the two tabs. -/
def aBankGuild (slots : Nat) : RankedGuild :=
  ⟨1, [Rank.new ⟨0, "Guild Master", grRightAll, guildWithdrawMoneyUnlimited⟩,
    ((Rank.new ⟨1, "Officer", grRightAll, 0⟩).setBankTabSlotsAndRights
      ⟨0, guildBankRightFull, slots⟩).setBankTabSlotsAndRights ⟨1, guildBankRightFull, slots⟩],
    aBankGuild_le slots, aGuild.roster, 2⟩

/-- A stack in the first slot of the first tab. -/
def aBank (bankWithdraw : Nat → Nat → Int) : BankItems :=
  ⟨[⟨OrderedMap.empty.insert 0 aReagent⟩, ⟨OrderedMap.empty⟩], 2, bankWithdraw⟩

theorem sound_aBank (slots : Nat) {bankWithdraw : Nat → Nat → Int}
    (h : ∀ key tabId, int32 (bankWithdraw key tabId) = bankWithdraw key tabId) :
    Sound reagents (aBankGuild slots) (aBank bankWithdraw) := by
  have hitems : (aBank bankWithdraw).allItems = [aReagent] := rfl
  constructor
  · rfl
  · rw [hitems]
    exact List.nodup_singleton _
  · rw [hitems, List.forall_mem_singleton]
    exact Nat.one_lt_two
  · rw [hitems, List.forall_mem_singleton]
    exact ⟨by decide, by decide⟩
  · exact h

/-- The officer moves the stack to the other tab. -/
theorem swapItems_movesWell_officer :
    MovesWell reagents (aBankGuild 5) 2 (aBank fun _ _ => 0)
      ((aBank fun _ _ => 0).swapItems reagents (fun _ => false) (aBankGuild 5) 2 ⟨0, 0⟩ ⟨1, 7⟩
        0) := by
  have hsound : Sound reagents (aBankGuild 5) (aBank fun _ _ => 0) :=
    sound_aBank 5 fun _ _ => by decide
  refine (swapItems_movesWell_iff reagents (fun _ => false) (aBankGuild 5) (aBank fun _ _ => 0) 2
    ⟨0, 0⟩ ⟨1, 7⟩ 0 hsound).mpr ?_
  intro member _ _ _ tabId _
  obtain ⟨hlow, -⟩ := getRankBankTabSlotsPerDay_range (aBankGuild 5) member.rankId tabId
  have hzero : (aBank fun _ _ => 0).bankWithdraw member.lowGuid tabId = 0 := rfl
  rw [hzero]
  omega

/-- An officer with `2 ^ 31` slots a day has taken one stack. What remains underflows to
`2 ^ 31 - 1`, so he takes the next one, and it is not counted. -/
theorem slots_underflow :
    Sound reagents (aBankGuild (2 ^ 31)) (aBank fun _ _ => 1) ∧
      ¬ MovesWell reagents (aBankGuild (2 ^ 31)) 2 (aBank fun _ _ => 1)
        ((aBank fun _ _ => 1).swapItems reagents (fun _ => false) (aBankGuild (2 ^ 31)) 2 ⟨0, 0⟩
          ⟨1, 7⟩ 0) := by
  refine ⟨sound_aBank _ fun _ _ => by decide, ?_⟩
  intro h
  have hcounted := h.counted ⟨2, "Bob", 1⟩ (by decide +kernel) (by decide) 0
  have hup := hcounted.1 ⟨by decide, Or.inl ⟨5, by decide +kernel⟩⟩
  revert hup
  decide +kernel

end BankItems

end Cataclysm.Guilds
