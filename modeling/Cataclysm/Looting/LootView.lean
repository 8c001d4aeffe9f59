import Cataclysm.Looting.HandedOut

/-!
# The slots of the loot view

The view of a player shows the items that are not gone. A slot below the number of items is the
place of an item. A slot from there on is a position in the quest list of the player, which the
loot translates by the list, while the master looter and the pass over the currencies take it for a
place among all quest items. These are the same where the list leaves out no earlier quest item.

## Implementation notes

What the packet holds of an item beside its slot is left out.
-/

namespace Cataclysm.Looting

open Looting.Loot LootState

/-- `PermissionTypes`. -/
inductive PermissionType
  | all
  | group
  | master
  | roundRobin
  | owner
  | none
  deriving DecidableEq

/-- `LootSlotType`. -/
inductive LootSlotType
  | allowLoot
  | rollOngoing
  | master
  | locked
  | owner
  deriving DecidableEq

/-- A slot that the view sends, and the place of the item that it shows there. -/
structure ShownItem where
  slot : UInt8
  isQuestItem : Bool
  index : Nat
  slotType : LootSlotType
  deriving DecidableEq

/-! ### The writer -/

/-- How the view shows a plain item, if it does. -/
def plainSlotType (w : World) (loot : Loot) (viewer : Nat) (permission : PermissionType)
    (item : LootItem) : Option LootSlotType :=
  if !item.isLooted && !item.freeforall && item.conditions.isEmpty &&
      item.allowedForPlayer w viewer then
    match permission with
    | .group =>
      if item.isBlocked then some .rollOngoing
      else if loot.roundRobinPlayer = 0 ∨ item.isUnderthreshold = false ∨
          viewer = loot.roundRobinPlayer then some .allowLoot
      else none
    | .roundRobin =>
      if loot.roundRobinPlayer ≠ 0 ∧ viewer ≠ loot.roundRobinPlayer then none
      else some .allowLoot
    | .all => some .allowLoot
    | .master =>
      match w.group viewer with
      | some group => if group.looterGuid ≠ viewer then some .locked else some .master
      | none => some .allowLoot
    | .owner => some .owner
    | .none => none
  else none

def slotType (permission : PermissionType) : LootSlotType :=
  if permission = .owner then .owner else .allowLoot

/-- How the view shows a quest item or an item with conditions. -/
def rulesSlotType (permission : PermissionType) (item : LootItem) : LootSlotType :=
  if item.followLootRules then
    match permission with
    | .master => .master
    | .group => if item.isBlocked then .rollOngoing else .allowLoot
    | .roundRobin => if item.isBlocked then .rollOngoing else .allowLoot
    | _ => slotType permission
  else slotType permission

def shownPlain (w : World) (loot : Loot) (viewer : Nat) (permission : PermissionType) :
    List ShownItem :=
  (List.range loot.items.length).filterMap fun i => (loot.items[i]?).bind fun item =>
    (plainSlotType w loot viewer permission item).map fun slotType =>
      ⟨UInt8.ofNat i, false, i, slotType⟩

/-- The number that the view sends for an entry. -/
def slotOf (loot : Loot) (kind : ListKind) (position index : Nat) : Nat :=
  match kind with
  | .quest => loot.items.length + position
  | .ffa => index
  | .conditional => index

def entrySlotType (kind : ListKind) (permission : PermissionType) (item : LootItem) :
    LootSlotType :=
  match kind with
  | .quest => rulesSlotType permission item
  | .ffa => slotType permission
  | .conditional => rulesSlotType permission item

/-- The loop over a list of the viewer. -/
def shownEntries (loot : Loot) (viewer : Nat) (permission : PermissionType) (kind : ListKind) :
    List ShownItem :=
  (listOf (loot.lists kind) viewer).zipIdx.filterMap fun entry =>
    (loot.lootItem kind.isQuest entry.1.index).bind fun item =>
      if !entry.1.isLooted && !item.isLooted then
        some ⟨UInt8.ofNat (slotOf loot kind entry.2 entry.1.index), kind.isQuest, entry.1.index,
          entrySlotType kind permission item⟩
      else none

/-- `operator<<` for a `LootView`. -/
def lootView (w : World) (loot : Loot) (viewer : Nat) (permission : PermissionType) :
    List ShownItem :=
  if permission = .none then []
  else
    shownPlain w loot viewer permission ++ shownEntries loot viewer permission .quest ++
      shownEntries loot viewer permission .ffa ++ shownEntries loot viewer permission .conditional

/-! ### Lists with their items -/

/-- What the items of a list are like, taken or not. -/
def OfKind : ListKind → LootItem → Prop
  | .quest, _ => True
  | .ffa, item => item.freeforall = true
  | .conditional, item => item.freeforall = false ∧ item.conditions ≠ []

/-- The entries of every list have their items, and the slots fit. -/
structure Placed (loot : Loot) : Prop where
  distinct : ∀ kind, Distinct (loot.lists kind)
  placed : ∀ kind player, ∀ index ∈ indexes (loot.lists kind) player,
    ∃ item, loot.lootItem kind.isQuest index = some item ∧ OfKind kind item
  room : ∀ player, loot.items.length + (indexes (loot.lists .quest) player).length ≤
    maxNrLootItems

variable {w : World} {loot loot' : Loot} {kind : ListKind}

variable {item : LootItem} {s : LootState}

theorem Listable.ofKind (h : Listable kind item) : OfKind kind item := by
  cases kind with
  | quest => trivial
  | ffa => exact h.2
  | conditional => exact h.2

theorem OfKind.congr {item' : LootItem} (h : OfKind kind item)
    (hfree : item'.freeforall = item.freeforall)
    (hconditions : item'.conditions = item.conditions) : OfKind kind item' := by
  cases kind with
  | quest => trivial
  | ffa => exact hfree.trans h
  | conditional => exact ⟨hfree.trans h.1, hconditions ▸ h.2⟩

/-- The same entries, and the items are of the same kinds. -/
theorem Placed.of_items (h : Placed loot)
    (hlists : ∀ kind player, indexes (loot'.lists kind) player = indexes (loot.lists kind) player)
    (hlength : loot'.items.length = loot.items.length)
    (hitems : ∀ {isQuestItem index item}, loot.lootItem isQuestItem index = some item →
      ∃ item', loot'.lootItem isQuestItem index = some item' ∧
        item'.freeforall = item.freeforall ∧ item'.conditions = item.conditions) :
    Placed loot' := by
  constructor
  · intro kind player
    have hnodup : (indexes (loot'.lists kind) player).Nodup := by
      rw [hlists]
      exact h.distinct kind player
    exact hnodup
  · intro kind player index hin
    rw [hlists] at hin
    obtain ⟨item, hitem, hkind⟩ := h.placed kind player index hin
    obtain ⟨item', hitem', hfree, hconditions⟩ := hitems hitem
    exact ⟨item', hitem', hkind.congr hfree hconditions⟩
  · intro player
    rw [hlength, hlists]
    exact h.room player

theorem Placed.flagged (h : Placed loot) (hflagged : Flagged loot loot') : Placed loot' := by
  refine h.of_items (fun kind player => ?_) hflagged.same.length.1 fun hitem => ?_
  · rw [hflagged.lists]
  · obtain ⟨item', hitem', hsame⟩ := hflagged.same.new hitem
    exact ⟨item', hitem', hsame.freeforall, hsame.conditions⟩

theorem Placed.storeLootItem (h : Placed s.loot) (lootSlot : UInt8) (player : Nat) :
    Placed (s.storeLootItem w lootSlot player).loot := by
  obtain ⟨hlength, hindexes, -⟩ := storeLootItem_frame s w lootSlot player
  refine h.of_items hindexes hlength fun {isQuestItem index item} hitem => ?_
  obtain heq | ⟨slot, taken, hstorable, hplaces, -⟩ := storeLootItem_cases s w lootSlot player
  · rw [heq]
    exact ⟨item, hitem, rfl, rfl⟩
  · rw [hplaces]
    split
    · next hplace =>
        obtain ⟨-, htaken⟩ := storableItem_eq_some hstorable
        rw [← hplace.1, ← hplace.2, hitem] at htaken
        rw [← Option.some.inj htaken]
        split
        · exact ⟨item, rfl, rfl, rfl⟩
        · exact ⟨_, rfl, rfl, rfl⟩
    · exact ⟨item, hitem, rfl, rfl⟩

theorem length_modifyItem (loot : Loot) (isQuestItem : Bool) (index : Nat)
    (f : LootItem → LootItem) :
    (loot.modifyItem isQuestItem index f).items.length = loot.items.length := by
  cases isQuestItem with
  | true => rfl
  | false => exact List.length_modify ..

theorem Placed.lootMasterGive (h : Placed s.loot) (player : Nat) (slotid : UInt8) (target : Nat) :
    Placed (s.lootMasterGive w player slotid target).loot := by
  rw [LootState.lootMasterGive]
  split
  · exact h
  · next slot item hgiveable =>
      have hitem := giveableItem_eq_some hgiveable
      dsimp only
      rw [storeNewItem_loot]
      refine h.of_items (fun kind player => ?_) ?_ fun {isQuestItem index found} hfound => ?_
      · exact congrArg (indexes · player) (lists_modifyItem ..)
      · exact length_modifyItem ..
      · have hmodified := lootItem_of_modified hitem (fun item =>
          { item with count := 0, isLooted := true }) isQuestItem index
        split at hmodified
        · next hplace =>
            rw [hplace.1, hplace.2, hitem] at hfound
            cases hfound
            exact ⟨_, hmodified, rfl, rfl⟩
        · exact ⟨found, hmodified.trans hfound, rfl, rfl⟩

theorem Placed.step (h : Placed s.loot) (call : World × LootCall) : Placed (step s call).loot := by
  obtain ⟨w, call⟩ := call
  cases call with
  | storeLootItem lootSlot player => exact h.storeLootItem lootSlot player
  | lootMasterGive player slotid target => exact h.lootMasterGive player slotid target

theorem Placed.filled {player : Nat} (h : Placed loot) (hfilled : Filled w player loot loot') :
    Placed loot' := by
  have hothers : ∀ kind {other}, other ≠ player →
      indexes (loot'.lists kind) other = indexes (loot.lists kind) other := by
    intro kind other hne
    rw [indexes, indexes, listOf, listOf, hfilled.others kind hne]
  constructor
  · intro kind other
    by_cases heq : other = player
    · rw [heq]
      exact hfilled.nodup kind
    · have hnodup : (indexes (loot'.lists kind) other).Nodup := by
        rw [hothers kind heq]
        exact h.distinct kind other
      exact hnodup
  · have hnew : ∀ kind index,
        (∃ item, loot.lootItem kind.isQuest index = some item ∧ OfKind kind item) →
          ∃ item, loot'.lootItem kind.isQuest index = some item ∧ OfKind kind item := by
      rintro kind index ⟨item, hitem, hkind⟩
      obtain ⟨item', hitem', hsame⟩ := hfilled.same.new hitem
      exact ⟨item', hitem', hkind.congr hsame.freeforall hsame.conditions⟩
    intro kind other index hin
    apply hnew
    by_cases heq : other = player
    · rw [heq] at hin
      obtain ⟨item, hitem, hlistable⟩ := hfilled.listable kind index hin
      exact ⟨item, hitem, hlistable.ofKind⟩
    · rw [hothers kind heq] at hin
      exact h.placed kind other index hin
  · intro other
    rw [hfilled.same.length.1]
    by_cases heq : other = player
    · rw [heq]
      exact hfilled.room
    · rw [hothers .quest heq]
      exact h.room other

theorem Placed.fillNotNormalLootFor {players : List Nat} {player : Nat} (h : Placed s.loot)
    (hlisted : Listed players s.loot) (hplayer : player ∉ players) (presentAtLooting : Bool) :
    Placed (s.fillNotNormalLootFor w player presentAtLooting).loot := by
  have hplaced : Placed (s.loot.fillLists w player presentAtLooting) :=
    h.filled (filled_fillLists hlisted.length fun kind => hlisted.absent kind hplayer)
  have hpass : ∀ (slots : List Nat) (s : LootState), Placed s.loot →
      Placed (slots.foldl (LootState.processCurrency w player) s).loot := by
    intro slots
    induction slots with
    | nil => exact fun s h => h
    | cons slot rest ih =>
      intro s h
      apply ih
      rw [LootState.processCurrency]
      split
      · exact h
      · split
        · exact h.storeLootItem _ player
        · exact h
  rw [LootState.fillNotNormalLootFor]
  split
  · exact hpass _ _ hplaced
  · exact hplaced

theorem Unlisted.placed (h : Unlisted loot) : Placed loot := by
  have hnone : ∀ kind player, indexes (loot.lists kind) player = [] := by
    intro kind player
    rw [indexes, listOf_absent (h.find? kind player)]
    rfl
  constructor
  · intro kind player
    have hnodup : (indexes (loot.lists kind) player).Nodup := by
      rw [hnone]
      exact List.nodup_nil
    exact hnodup
  · intro kind player index hin
    rw [hnone] at hin
    cases hin
  · intro player
    rw [hnone]
    exact h.length

theorem placed_fillLoot (w : World) (drops : List (LootStoreItem × Nat)) (lootOwner : Nat)
    (personal : Bool) : Placed (fillLoot w drops lootOwner personal).loot := by
  refine (fillLoot_induction (P := fun s => Placed s.loot) drops lootOwner personal ?_ ?_ ?_).2
  · exact fun hunlisted => hunlisted.placed
  · intro s players member _ hlisted hnew hplaced
    exact hplaced.fillNotNormalLootFor hlisted hnew member.2
  · intro s loot' hplaced hflagged
    exact hplaced.flagged hflagged

theorem placed_of_run (w : World) (drops : List (LootStoreItem × Nat)) (lootOwner : Nat)
    (personal : Bool) (calls : List (World × LootCall)) :
    Placed (Runs.run step (fillLoot w drops lootOwner personal) calls).loot := by
  have hrun : ∀ {s : LootState}, Placed s.loot → Placed (Runs.run step s calls).loot := by
    induction calls with
    | nil => exact fun h => h
    | cons call rest ih => exact fun h => ih (h.step call)
  exact hrun (placed_fillLoot w drops lootOwner personal)

/-! ### What a slot means -/

variable {viewer : Nat}

/-- All that act on a slot act on the item that the view showed there. -/
structure ActOnShown (loot : Loot) (viewer : Nat) (shown : ShownItem) : Prop where
  lootItemInSlot : ∃ slot, loot.lootItemInSlot shown.slot.toNat viewer = some slot ∧
    slot.isQuestItem = shown.isQuestItem ∧ slot.index = shown.index
  lootMasterGive : ∀ w target slot item,
    loot.giveableItem w viewer shown.slot.toNat target = some (slot, item) →
      slot.isQuestItem = shown.isQuestItem ∧ slot.index = shown.index
  processCurrency : loot.placeAt shown.slot.toNat = (shown.isQuestItem, shown.index)

theorem mem_shownEntries {permission : PermissionType} {shown : ShownItem}
    (hshown : shown ∈ shownEntries loot viewer permission kind) :
    ∃ position item,
      (listOf (loot.lists kind) viewer)[position]? = some ⟨shown.index, false⟩ ∧
        loot.lootItem kind.isQuest shown.index = some item ∧ item.isLooted = false ∧
          shown.isQuestItem = kind.isQuest ∧
            shown.slot = UInt8.ofNat (slotOf loot kind position shown.index) := by
  obtain ⟨⟨entry, position⟩, hin, hbind⟩ := List.mem_filterMap.mp hshown
  obtain ⟨item, hitem, hcase⟩ := Option.bind_eq_some_iff.mp hbind
  have hentry := List.mem_zipIdx_iff_getElem?.mp hin
  dsimp only at hentry hitem hcase
  split at hcase
  · next hleft =>
      rw [Bool.and_eq_true, Bool.not_eq_true', Bool.not_eq_true'] at hleft
      cases hcase
      refine ⟨position, item, hentry.trans ?_, hitem, hleft.2, rfl, rfl⟩
      rw [← hleft.1]
  · cases hcase

theorem mem_shownPlain {permission : PermissionType} {shown : ShownItem}
    (hshown : shown ∈ shownPlain w loot viewer permission) :
    ∃ item, loot.items[shown.index]? = some item ∧ item.isLooted = false ∧
      item.freeforall = false ∧ item.conditions = [] ∧ shown.isQuestItem = false ∧
        shown.slot = UInt8.ofNat shown.index := by
  obtain ⟨i, -, hbind⟩ := List.mem_filterMap.mp hshown
  obtain ⟨item, hitem, hmap⟩ := Option.bind_eq_some_iff.mp hbind
  obtain ⟨slotType, htype, rfl⟩ := Option.map_eq_some_iff.mp hmap
  unfold plainSlotType at htype
  split at htype
  · next hplain =>
      simp only [Bool.and_eq_true, Bool.not_eq_true', List.isEmpty_iff] at hplain
      exact ⟨item, hitem, hplain.1.1.1, hplain.1.1.2, hplain.1.2, rfl, rfl⟩
  · cases htype

/-- The entry without a mark is the one that is found. -/
theorem entryFor_of_distinct {list : List QuestItem} {position index : Nat}
    (hnodup : (list.map QuestItem.index).Nodup) (hentry : list[position]? = some ⟨index, false⟩) :
    ∃ found, entryFor list index = some (found, false) := by
  have hin : (⟨index, false⟩ : QuestItem) ∈ list := List.mem_of_getElem? hentry
  cases hfind : entryFor list index with
  | none => exact absurd rfl (entryFor_eq_none hfind _ hin)
  | some found =>
    obtain ⟨found, isLooted⟩ := found
    have hfound : (⟨index, isLooted⟩ : QuestItem) ∈ list :=
      List.mem_of_getElem? (entryFor_eq_some hfind)
    have heq := List.inj_on_of_nodup_map hnodup hfound hin rfl
    cases heq
    exact ⟨found, rfl⟩

/-- The place of a shown item, as the slot gives it. -/
theorem Placed.lootItemInSlot_item (h : Placed loot) {index : Nat}
    (hitem : loot.items[index]? = some item) (hlooted : item.isLooted = false)
    (hfree : item.freeforall = true →
      ∃ position : Nat, (listOf (loot.lists .ffa) viewer)[position]? = some ⟨index, false⟩)
    (hconditions : item.freeforall = false → item.conditions ≠ [] → ∃ position : Nat,
      (listOf (loot.lists .conditional) viewer)[position]? = some ⟨index, false⟩) :
    ∃ slot, loot.lootItemInSlot index viewer = some slot ∧ slot.isQuestItem = false ∧
      slot.index = index := by
  rw [lootItemInSlot, hitem]
  dsimp only
  split
  · next hisFree =>
      obtain ⟨position, hentry⟩ := hfree hisFree
      obtain ⟨found, hfound⟩ := entryFor_of_distinct (h.distinct .ffa viewer) hentry
      have heq : entryFor (listOf loot.playerFFAItems viewer) index = some (found, false) := hfound
      rw [heq]
      exact ⟨_, rfl, rfl, rfl⟩
  · next hnotFree =>
      split
      · rw [hlooted]
        exact ⟨_, rfl, rfl, rfl⟩
      · next hsome =>
          obtain ⟨position, hentry⟩ := hconditions (Bool.eq_false_iff.mpr hnotFree)
            fun hnil => hsome (List.isEmpty_iff.mpr hnil)
          obtain ⟨found, hfound⟩ := entryFor_of_distinct (h.distinct .conditional viewer) hentry
          have heq : entryFor (listOf loot.playerNonQuestNonFFAConditionalItems viewer) index =
              some (found, false) := hfound
          rw [heq]
          exact ⟨_, rfl, rfl, rfl⟩

theorem Placed.toNat_slot_item (h : Placed loot) {index : Nat} (viewer : Nat)
    (hitem : loot.items[index]? = some item) :
    (UInt8.ofNat index).toNat = index ∧ loot.placeAt index = (false, index) := by
  obtain ⟨hlt, -⟩ := List.getElem?_eq_some_iff.mp hitem
  have hroom := h.room viewer
  have hmax : maxNrLootItems < UInt8.size := by decide
  exact ⟨toNat_slot (by omega), if_pos hlt⟩

/-- What a shown slot finds, and the place that its number gives. -/
theorem Placed.shown (h : Placed loot) {permission : PermissionType} {shown : ShownItem}
    (hshown : shown ∈ lootView w loot viewer permission) :
    (∃ slot, loot.lootItemInSlot shown.slot.toNat viewer = some slot ∧
      slot.isQuestItem = shown.isQuestItem ∧ slot.index = shown.index) ∧
        ((shown.isQuestItem = false ∧ loot.placeAt shown.slot.toNat = (false, shown.index)) ∨
          ∃ position, shown.isQuestItem = true ∧
            (indexes (loot.lists .quest) viewer)[position]? = some shown.index ∧
              loot.placeAt shown.slot.toNat = (true, position)) := by
  rw [lootView] at hshown
  split at hshown
  · cases hshown
  · rw [List.mem_append, List.mem_append, List.mem_append] at hshown
    obtain ((hplain | hquest) | hfree) | hconditional := hshown
    · obtain ⟨item, hitem, hlooted, hnotFree, hnil, hisItem, hslot⟩ := mem_shownPlain hplain
      obtain ⟨hnat, hplace⟩ := h.toNat_slot_item viewer hitem
      rw [hslot, hnat, hisItem]
      refine ⟨h.lootItemInSlot_item hitem hlooted (fun hfree => ?_) fun _ hsome => ?_,
        Or.inl ⟨rfl, hplace⟩⟩
      · rw [hnotFree] at hfree
        cases hfree
      · exact absurd hnil hsome
    · obtain ⟨position, item, hentry, hitem, hlooted, hisQuest, hslot⟩ := mem_shownEntries hquest
      have hindex : (indexes (loot.lists .quest) viewer)[position]? = some shown.index := by
        rw [indexes, List.getElem?_map, hentry, Option.map_some]
      have hlt : position < (indexes (loot.lists .quest) viewer).length :=
        (List.getElem?_eq_some_iff.mp hindex).1
      have hroom := h.room viewer
      have hmax : maxNrLootItems < UInt8.size := by decide
      have hnat : (UInt8.ofNat (slotOf loot .quest position shown.index)).toNat =
          loot.items.length + position := by
        apply toNat_slot
        rw [slotOf]
        omega
      have hnone : loot.items[loot.items.length + position]? = none :=
        List.getElem?_eq_none (Nat.le_add_right _ _)
      have hquestEntry : (listOf loot.playerQuestItems viewer)[position]? =
          some ⟨shown.index, false⟩ := hentry
      rw [hslot, hnat, hisQuest]
      refine ⟨⟨⟨true, shown.index, some position, none, none⟩, ?_, rfl, rfl⟩,
        Or.inr ⟨position, rfl, hindex, ?_⟩⟩
      · rw [lootItemInSlot, hnone]
        dsimp only
        rw [Nat.add_sub_cancel_left, hquestEntry]
        rfl
      · rw [placeAt, if_neg (Nat.not_lt.mpr (Nat.le_add_right _ _)), Nat.add_sub_cancel_left]
    · obtain ⟨position, item, hentry, hitem, hlooted, hisItem, hslot⟩ := mem_shownEntries hfree
      obtain ⟨hnat, hplace⟩ := h.toNat_slot_item viewer hitem
      obtain ⟨found, hfound, hisFree⟩ := h.placed .ffa viewer shown.index
        (List.mem_map.mpr ⟨_, List.mem_of_getElem? hentry, rfl⟩)
      rw [hslot, slotOf, hnat, hisItem]
      refine ⟨h.lootItemInSlot_item hitem hlooted (fun _ => ⟨position, hentry⟩) fun hnotFree => ?_,
        Or.inl ⟨rfl, hplace⟩⟩
      have heq : item = found := Option.some.inj (hitem.symm.trans hfound)
      rw [heq, show found.freeforall = true from hisFree] at hnotFree
      cases hnotFree
    · obtain ⟨position, item, hentry, hitem, hlooted, hisItem, hslot⟩ :=
        mem_shownEntries hconditional
      obtain ⟨hnat, hplace⟩ := h.toNat_slot_item viewer hitem
      obtain ⟨found, hfound, hkind⟩ := h.placed .conditional viewer shown.index
        (List.mem_map.mpr ⟨_, List.mem_of_getElem? hentry, rfl⟩)
      rw [hslot, slotOf, hnat, hisItem]
      refine ⟨h.lootItemInSlot_item hitem hlooted (fun hisFree => ?_) fun _ _ =>
        ⟨position, hentry⟩, Or.inl ⟨rfl, hplace⟩⟩
      have heq : item = found := Option.some.inj (hitem.symm.trans hfound)
      rw [heq, hkind.1] at hisFree
      cases hisFree

/-- The place of an item is its position in the viewer's own list. -/
def ListLeavesOutNone (loot : Loot) (viewer : Nat) (shown : ShownItem) : Prop :=
  shown.isQuestItem = true →
    (indexes (loot.lists .quest) viewer)[shown.index]? = some shown.index

theorem giveableItem_place {player slotid target : Nat} {slot : SlotItem}
    (h : loot.giveableItem w player slotid target = some (slot, item)) :
    loot.placeAt slotid = (slot.isQuestItem, slot.index) := by
  rw [giveableItem] at h
  split at h
  · cases h
  · split at h
    · cases h
    · split at h
      · cases h
      · split at h
        · cases h
        · dsimp only at h
          split at h
          · cases h
          · split at h
            · cases h
            · split at h
              · cases h
              · cases h
                rfl

/-- A shown slot means one item for all just when it is no quest item, or the list of the viewer
leaves out no quest item before it. -/
theorem actOnShown_iff (w : World) (drops : List (LootStoreItem × Nat)) (lootOwner : Nat)
    (personal : Bool) (calls : List (World × LootCall)) (w' : World) (viewer : Nat)
    (permission : PermissionType) (shown : ShownItem)
    (hshown : shown ∈ lootView w'
      (Runs.run step (fillLoot w drops lootOwner personal) calls).loot viewer permission) :
    ActOnShown (Runs.run step (fillLoot w drops lootOwner personal) calls).loot viewer shown ↔
      ListLeavesOutNone (Runs.run step (fillLoot w drops lootOwner personal) calls).loot viewer
        shown := by
  have hplaced := placed_of_run w drops lootOwner personal calls
  generalize (Runs.run step (fillLoot w drops lootOwner personal) calls).loot = loot at *
  obtain ⟨hfound, hplace⟩ := hplaced.shown hshown
  constructor
  · intro hact hisQuest
    obtain ⟨hisItem, -⟩ | ⟨position, -, hindex, hat⟩ := hplace
    · rw [hisItem] at hisQuest
      cases hisQuest
    · have hsame := hact.processCurrency.symm.trans hat
      rw [(Prod.mk.inj hsame).2]
      rw [(Prod.mk.inj hsame).2] at hindex
      exact hindex
  · intro hlist
    have hat : loot.placeAt shown.slot.toNat = (shown.isQuestItem, shown.index) := by
      obtain ⟨hisItem, hat⟩ | ⟨position, hisQuest, hindex, hat⟩ := hplace
      · rw [hat, hisItem]
      · have hlt : position < (indexes (loot.lists .quest) viewer).length :=
          (List.getElem?_eq_some_iff.mp hindex).1
        have hposition : position = shown.index :=
          (List.getElem?_inj hlt (hplaced.distinct .quest viewer)).mp
            (hindex.trans (hlist hisQuest).symm)
        rw [hat, hisQuest, hposition]
    refine ⟨hfound, ?_, hat⟩
    intro w target slot item hgiveable
    have hsame := (giveableItem_place hgiveable).symm.trans hat
    exact Prod.mk.inj hsame

/-! ### A list that leaves out a quest item -/

/-- Only the first of two players may take the first quest item. -/
def unevenWorld : World where
  itemTemplate := fun _ => some ⟨1, 1, false, false, false, false, false, false, false, 0, 0, 0⟩
  isObjectMeetToConditions := fun _ _ => true
  hasSkill := fun _ _ => false
  hasSpell := fun _ _ => false
  team := fun _ => .horde
  hasQuestStatus := fun _ _ => false
  hasQuestForItem := fun player itemid => player = 1 ∨ itemid = 9
  group := fun _ => some ⟨.masterLoot, 2, 2, [(1, true), (2, true)], nodup_pair⟩
  canStoreNewItem := fun _ _ _ => true
  isFound := fun _ => true
  isLooting := fun _ => true
  isInRaidWith := fun _ _ => true
  isInMap := fun _ _ => true

def unevenLoot : LootState :=
  fillLoot unevenWorld [(⟨7, true, []⟩, 1), (⟨9, true, []⟩, 1)] 1 false

/-- The first looter is shown the quest item of the pair. -/
theorem actOnShown_iff_pairLoot :
    ActOnShown (Runs.run step (fillLoot pairWorld [(⟨8, false, []⟩, 1), (⟨7, true, []⟩, 1)] 1 false)
        []).loot 1 ⟨1, true, 0, .allowLoot⟩ ↔
      ListLeavesOutNone (Runs.run step (fillLoot pairWorld
        [(⟨8, false, []⟩, 1), (⟨7, true, []⟩, 1)] 1 false) []).loot 1 ⟨1, true, 0, .allowLoot⟩ :=
  actOnShown_iff pairWorld _ 1 false [] pairWorld 1 .all _ (by decide +kernel)

/-- The master looter sees the second quest item in his first slot, where a give and the pass act
on the first. -/
theorem shown_elsewhere :
    (⟨0, true, 1, .allowLoot⟩ : ShownItem) ∈ lootView unevenWorld unevenLoot.loot 2 .master ∧
      (unevenLoot.loot.giveableItem unevenWorld 2 0 1).map (fun given => given.1.index) = some 0 ∧
        ¬ ActOnShown unevenLoot.loot 2 ⟨0, true, 1, .allowLoot⟩ := by
  refine ⟨by decide +kernel, by decide +kernel, fun hact => ?_⟩
  have hplace : unevenLoot.loot.placeAt 0 = (true, 1) := hact.processCurrency
  exact absurd hplace (by decide +kernel)

end Cataclysm.Looting
