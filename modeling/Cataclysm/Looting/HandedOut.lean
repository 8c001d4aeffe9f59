import Cataclysm.Looting.Filling

/-!
# An item is handed out once

The filling gives each player his lists and hands out currencies by slots of his own lists. The
entries of a new list have no marks and its items are not taken, so what the filling hands out is
recorded. From there every call that finds the item by the record that counts keeps the records.
-/

namespace Cataclysm.Looting

open Looting.Loot LootState

variable {loot' : Loot}

/-- The records look at the items, the lists and the gifts only. -/
theorem Recorded.same {s : LootState} (h : Recorded s) (hsame : SameItems s.loot loot')
    (hlists : Follows s.loot loot') : Recorded { s with loot := loot' } := by
  refine ⟨hlists.distinct, ?_, ?_⟩
  · intro isQuestItem index item' hitem' hfree
    obtain ⟨item, hitem, hsame⟩ := hsame.old hitem'
    rw [hsame.isLooted]
    exact h.once hitem (hsame.freeforall ▸ hfree)
  · intro isQuestItem index item' hitem' hfree player
    obtain ⟨item, hitem, hsame⟩ := hsame.old hitem'
    obtain ⟨honce, hmarked⟩ := h.onceEach hitem (hsame.freeforall ▸ hfree) player
    refine ⟨honce, fun hin => ?_⟩
    rw [hsame.count]
    exact (hmarked hin).imp_right hlists.marked

/-! ### The pass over the currencies -/

variable {loot : Loot} {lootSlot : Nat} {slot : SlotItem} {item : LootItem}

theorem lootItemInSlot_of_quest {player : Nat} (hnone : loot.items[lootSlot]? = none)
    (hslot : loot.lootItemInSlot lootSlot player = some slot) :
    slot.isQuestItem = true ∧ slot.qitem = some (lootSlot - loot.items.length) ∧
      (indexes loot.playerQuestItems player)[lootSlot - loot.items.length]? = some slot.index := by
  rw [lootItemInSlot, hnone] at hslot
  dsimp only at hslot
  split at hslot
  · cases hslot
  · next qitem hqitem =>
      split at hslot
      · cases hslot
      · cases hslot
        refine ⟨rfl, rfl, ?_⟩
        rw [indexes, List.getElem?_map, hqitem, Option.map_some]

theorem lootItemInSlot_of_item {player : Nat} (hitem : loot.items[lootSlot]? = some item)
    (hslot : loot.lootItemInSlot lootSlot player = some slot) :
    slot.isQuestItem = false ∧ slot.index = lootSlot := by
  rw [lootItemInSlot, hitem] at hslot
  dsimp only at hslot
  split at hslot
  · split at hslot
    · split at hslot
      · cases hslot
      · cases hslot
        exact ⟨rfl, rfl⟩
    · split at hslot
      · cases hslot
      · cases hslot
        exact ⟨rfl, rfl⟩
  · split at hslot
    · split at hslot
      · cases hslot
      · cases hslot
        exact ⟨rfl, rfl⟩
    · split at hslot
      · split at hslot
        · cases hslot
        · cases hslot
          exact ⟨rfl, rfl⟩
      · split at hslot
        · cases hslot
        · cases hslot
          exact ⟨rfl, rfl⟩

theorem lootItemInSlot_of_free {player : Nat} (hitem : loot.items[lootSlot]? = some item)
    (hfree : item.freeforall = true) (hlisted : lootSlot ∈ indexes loot.playerFFAItems player)
    (hslot : loot.lootItemInSlot lootSlot player = some slot) :
    (slot.qitem.or slot.ffaitem).isSome = true := by
  obtain ⟨entry, hin, hindex⟩ := List.mem_map.mp hlisted
  rw [lootItemInSlot, hitem] at hslot
  dsimp only at hslot
  rw [if_pos hfree] at hslot
  split at hslot
  · next hnone => exact absurd hindex (entryFor_eq_none hnone entry hin)
  · split at hslot
    · cases hslot
    · cases hslot
      rfl

/-- The pass over a number of slots has come to one of them. What lies ahead is not taken. -/
structure Passing (w : World) (player slots : Nat) (before : Loot) (next : Nat) (s : LootState) :
    Prop where
  recorded : Recorded s
  slots : s.loot.items.length + (indexes s.loot.playerQuestItems player).length = slots
  covers : ∀ {index item}, s.loot.lootItem false index = some item → Listable .ffa item →
    item.allowedForPlayer w player = true → index ∈ indexes s.loot.playerFFAItems player
  ahead : ∀ {position index item}, next ≤ s.loot.items.length + position →
    (indexes s.loot.playerQuestItems player)[position]? = some index →
      s.loot.lootItem true index = some item → item.isLooted = false
  others : ∀ kind {other : Nat}, other ≠ player →
    (s.loot.lists kind).find? other = (before.lists kind).find? other
  length : s.loot.items.length = before.items.length

variable {w : World} {player slots next : Nat} {before : Loot} {s : LootState}

theorem Passing.skip (h : Passing w player slots before next s) :
    Passing w player slots before (next + 1) s :=
  ⟨h.recorded, h.slots, h.covers, fun hle => h.ahead (Nat.le_of_succ_le hle), h.others, h.length⟩

theorem toNat_slot (hbound : next < UInt8.size) : (UInt8.ofNat next).toNat = next := by
  rw [UInt8.toNat_ofNat', Nat.mod_eq_of_lt hbound]

/-- A currency is found by its record: by an entry, or by the mark of a quest item. -/
theorem Passing.found {taken : LootItem} (h : Passing w player slots before next s)
    (hplace : s.loot.lootItem (s.loot.placeAt next).1 (s.loot.placeAt next).2 = some item)
    (hlistable : Listable .ffa item) (hallowed : item.allowedForPlayer w player = true)
    (hstorable : s.loot.storableItem w next player = some (slot, taken)) :
    (slot.qitem.or slot.ffaitem).isSome = true ∧
      (taken.freeforall = false → slot.isQuestItem = true ∧ taken.isLooted = false) := by
  obtain ⟨hslot, htaken⟩ := storableItem_eq_some hstorable
  rw [placeAt] at hplace
  split at hplace
  · have hin : next ∈ indexes s.loot.playerFFAItems player := h.covers hplace hlistable hallowed
    obtain ⟨hquest, hindex⟩ := lootItemInSlot_of_item hplace hslot
    have heq : taken = item := by
      rw [hquest, hindex] at htaken
      exact Option.some.inj (htaken.symm.trans hplace)
    refine ⟨lootItemInSlot_of_free hplace hlistable.2 hin hslot, fun hnotFree => ?_⟩
    rw [heq, hlistable.2] at hnotFree
    cases hnotFree
  · next hnot =>
      have hnone : s.loot.items[next]? = none := List.getElem?_eq_none (Nat.le_of_not_lt hnot)
      obtain ⟨hquest, hqitem, hindex⟩ := lootItemInSlot_of_quest hnone hslot
      rw [hquest] at htaken
      have hunlooted : taken.isLooted = false := h.ahead (by omega) hindex htaken
      rw [hqitem]
      exact ⟨rfl, fun _ => ⟨hquest, hunlooted⟩⟩

theorem Passing.takesOnce (h : Passing w player slots before next s) (hbound : next < UInt8.size)
    (hplace : s.loot.lootItem (s.loot.placeAt next).1 (s.loot.placeAt next).2 = some item)
    (hlistable : Listable .ffa item) (hallowed : item.allowedForPlayer w player = true) :
    TakesOnce s (w, .storeLootItem (UInt8.ofNat next) player) := by
  rw [TakesOnce, toNat_slot hbound]
  cases hstorable : s.loot.storableItem w next player with
  | none => trivial
  | some found =>
    obtain ⟨slot, taken⟩ := found
    obtain ⟨hentry, hmark⟩ := h.found hplace hlistable hallowed hstorable
    refine Or.inr ?_
    split
    · exact hentry
    · next hnotFree => exact (hmark (Bool.eq_false_iff.mpr hnotFree)).2

theorem find?_markEntry (lists : OrderedMap Nat (List QuestItem)) {player other : Nat}
    (hne : other ≠ player) (position : Nat) :
    (markEntry lists player position).find? other = lists.find? other := by
  rw [markEntry]
  split
  · rfl
  · exact (OrderedMap.find?_insert _ _ _ _).trans (if_neg hne)

/-- `StoreLootItem` keeps the number of items and the indexes of the lists. -/
theorem storeLootItem_frame (s : LootState) (w : World) (lootSlot : UInt8) (player : Nat) :
    (s.storeLootItem w lootSlot player).loot.items.length = s.loot.items.length ∧
      (∀ kind other, indexes ((s.storeLootItem w lootSlot player).loot.lists kind) other =
        indexes (s.loot.lists kind) other) ∧
          ∀ kind {other : Nat}, other ≠ player →
            ((s.storeLootItem w lootSlot player).loot.lists kind).find? other =
              (s.loot.lists kind).find? other := by
  obtain heq | ⟨slot, item, hstorable, hplaces, hlists⟩ := storeLootItem_cases s w lootSlot player
  · rw [heq]
    exact ⟨rfl, fun _ _ => rfl, fun _ _ _ => rfl⟩
  · obtain ⟨-, hitem⟩ := storableItem_eq_some hstorable
    refine ⟨?_, ?_, ?_⟩
    · have hnone : ∀ index : Nat, (s.storeLootItem w lootSlot player).loot.items[index]? = none ↔
          s.loot.items[index]? = none := by
        intro index
        have hplace := hplaces false index
        split at hplace
        · next hsame =>
            rw [← hsame.1, ← hsame.2] at hitem
            have hnew : (s.storeLootItem w lootSlot player).loot.items[index]? = some _ := hplace
            have hold : s.loot.items[index]? = some item := hitem
            rw [hnew, hold]
            exact iff_of_false nofun nofun
        · exact iff_of_eq (congrArg (· = none) hplace)
      refine le_antisymm ?_ ?_
      · exact List.getElem?_eq_none_iff.mp ((hnone _).mpr (List.getElem?_eq_none le_rfl))
      · exact List.getElem?_eq_none_iff.mp ((hnone _).mp (List.getElem?_eq_none le_rfl))
    · intro kind other
      obtain heq | ⟨position, heq⟩ := hlists kind
      · rw [heq]
      · rw [heq]
        exact map_index_markEntry _ player position other
    · intro kind other hne
      obtain heq | ⟨position, heq⟩ := hlists kind
      · rw [heq]
      · rw [heq]
        exact find?_markEntry _ hne position

theorem Passing.store (h : Passing w player slots before next s) (hbound : next < UInt8.size)
    (hok : TakesOnce s (w, .storeLootItem (UInt8.ofNat next) player)) :
    Passing w player slots before (next + 1)
      (s.storeLootItem w (UInt8.ofNat next) player) := by
  obtain ⟨hlength, hindexes, hothers⟩ := storeLootItem_frame s w (UInt8.ofNat next) player
  have hrecorded : Recorded (s.storeLootItem w (UInt8.ofNat next) player) :=
    h.recorded.storeLootItem hok
  have hcases := storeLootItem_cases s w (UInt8.ofNat next) player
  generalize s.storeLootItem w (UInt8.ofNat next) player = s' at *
  have hquest : indexes s'.loot.playerQuestItems player = indexes s.loot.playerQuestItems player :=
    hindexes .quest player
  have hffa : indexes s'.loot.playerFFAItems player = indexes s.loot.playerFFAItems player :=
    hindexes .ffa player
  refine ⟨hrecorded, ?_, ?_, ?_, fun kind _ hne => (hothers kind hne).trans (h.others kind hne),
    hlength.trans h.length⟩
  · rw [hlength, hquest]
    exact h.slots
  · intro index item' hitem' hlistable hallowed
    rw [hffa]
    obtain rfl | ⟨slot, item, hstorable, hplaces, -⟩ := hcases
    · exact h.covers hitem' hlistable hallowed
    · rw [hplaces] at hitem'
      split at hitem'
      · next hplace =>
          obtain ⟨-, hitem⟩ := storableItem_eq_some hstorable
          rw [← hplace.1, ← hplace.2] at hitem
          have heq := Option.some.inj hitem'
          split at heq
          · rw [heq] at hitem
            exact h.covers hitem hlistable hallowed
          · have hlooted := hlistable.1
            rw [← heq] at hlooted
            cases hlooted
      · exact h.covers hitem' hlistable hallowed
  · intro position index item' hle hindex hitem'
    rw [hlength] at hle
    rw [hquest] at hindex
    obtain rfl | ⟨slot, item, hstorable, hplaces, -⟩ := hcases
    · exact h.ahead (Nat.le_of_succ_le hle) hindex hitem'
    · rw [hplaces] at hitem'
      split at hitem'
      · next hplace =>
          -- an entry ahead is not the entry of this slot, for the indexes differ
          obtain ⟨hslot, -⟩ := storableItem_eq_some hstorable
          rw [toNat_slot hbound] at hslot
          cases hget : s.loot.items[next]? with
          | none =>
            obtain ⟨-, -, hentry⟩ := lootItemInSlot_of_quest hget hslot
            have hlt : next - s.loot.items.length < (indexes s.loot.playerQuestItems
                player).length := (List.getElem?_eq_some_iff.mp hentry).1
            have hsame : next - s.loot.items.length = position := by
              refine (List.getElem?_inj hlt (h.recorded.distinct .quest player)).mp ?_
              exact hentry.trans (hplace.2 ▸ hindex.symm)
            have hnext := List.getElem?_eq_none_iff.mp hget
            omega
          | some found =>
            have hitemSlot := (lootItemInSlot_of_item hget hslot).1
            rw [← hplace.1] at hitemSlot
            cases hitemSlot
      · exact h.ahead (Nat.le_of_succ_le hle) hindex hitem'

theorem Passing.processCurrency (h : Passing w player slots before next s)
    (hbound : next < UInt8.size) :
    Passing w player slots before (next + 1) (s.processCurrency w player next) := by
  rw [LootState.processCurrency]
  split
  · exact h.skip
  · next item hplace =>
      split
      · next hgive =>
          simp only [Bool.and_eq_true, Bool.not_eq_true'] at hgive
          obtain ⟨⟨⟨hlooted, hfree⟩, hallowed⟩, -⟩ := hgive
          exact h.store hbound (h.takesOnce hbound hplace ⟨hlooted, hfree⟩ hallowed)
      · exact h.skip

theorem Passing.pass (h : Passing w player slots before 0 s) (hslots : slots ≤ maxNrLootItems)
    {count : Nat} (hcount : count ≤ slots) :
    Passing w player slots before count
      ((List.range count).foldl (LootState.processCurrency w player) s) := by
  induction count with
  | zero => exact h
  | succ count ih =>
    rw [List.range_succ, List.foldl_append]
    have hprevious := ih (Nat.le_of_succ_le hcount)
    have hbound : count < UInt8.size := by
      have hmax : maxNrLootItems < UInt8.size := by decide
      omega
    exact hprevious.processCurrency hbound

/-! ### The filling -/

variable {players : List Nat}

/-- Only some players have lists, and the items fit. -/
structure Listed (players : List Nat) (loot : Loot) : Prop where
  length : loot.items.length ≤ maxNrLootItems
  absent : ∀ kind {player : Nat}, player ∉ players → (loot.lists kind).find? player = none

theorem Listed.fillLists (h : Listed players loot) (hplayer : player ∉ players)
    (presentAtLooting : Bool) :
    Listed (player :: players) (loot.fillLists w player presentAtLooting) := by
  have hfilled : Filled w player loot (loot.fillLists w player presentAtLooting) :=
    filled_fillLists h.length fun kind => h.absent kind hplayer
  refine ⟨hfilled.same.length.1.trans_le h.length, ?_⟩
  intro kind other hnot
  rw [List.mem_cons, not_or] at hnot
  exact (hfilled.others kind hnot.1).trans (h.absent kind hnot.2)

theorem Recorded.filled (h : Recorded s) (hfilled : Filled w player s.loot loot')
    (habsent : ∀ kind, (s.loot.lists kind).find? player = none) :
    Recorded { s with loot := loot' } := by
  refine h.same hfilled.same ⟨?_, ?_⟩
  · intro kind other
    by_cases heq : other = player
    · rw [heq]
      exact hfilled.nodup kind
    · rw [listOf, hfilled.others kind heq]
      exact h.distinct kind other
  · intro kind other index hmarked
    by_cases heq : other = player
    · obtain ⟨entry, hin, -⟩ := hmarked
      rw [heq, listOf_absent (habsent kind)] at hin
      cases hin
    · rw [Marked, listOf, hfilled.others kind heq]
      exact hmarked

/-- The pass begins when a player has his lists. -/
theorem passing_filled (h : Recorded s) (hfilled : Filled w player s.loot loot')
    (habsent : ∀ kind, (s.loot.lists kind).find? player = none) :
    Passing w player (loot'.getMaxSlotInLootFor player) loot' 0 { s with loot := loot' } := by
  refine ⟨h.filled hfilled habsent, ?_, ?_, ?_, fun _ _ _ => rfl, rfl⟩
  · rw [indexes, List.length_map]
    rfl
  · intro index item' hitem' hlistable hallowed
    obtain ⟨item, hitem, hsame⟩ := hfilled.same.old hitem'
    rw [hsame.allowedForPlayer] at hallowed
    exact hfilled.covers hitem ((Listable.same hsame).mp hlistable) hallowed
  · intro position index item' _ hindex hitem'
    obtain ⟨item, hitem, hlistable⟩ := hfilled.listable .quest index (List.mem_of_getElem? hindex)
    obtain ⟨found, hfound, hsame⟩ := hfilled.same.old hitem'
    rw [hsame.isLooted, Option.some.inj (hfound.symm.trans hitem)]
    exact hlistable

theorem getMaxSlot_le (hfilled : Filled w player loot loot') :
    loot'.getMaxSlotInLootFor player ≤ maxNrLootItems := by
  have hroom := hfilled.room
  rw [indexes, List.length_map, ← hfilled.same.length.1] at hroom
  exact hroom

/-- The filling for a player who has no lists. -/
theorem Recorded.fillNotNormalLootFor (h : Recorded s) (hlisted : Listed players s.loot)
    (hplayer : player ∉ players) (presentAtLooting : Bool) :
    Recorded (s.fillNotNormalLootFor w player presentAtLooting) ∧
      Listed (player :: players) (s.fillNotNormalLootFor w player presentAtLooting).loot := by
  have hfilled : Filled w player s.loot (s.loot.fillLists w player presentAtLooting) :=
    filled_fillLists hlisted.length fun kind => hlisted.absent kind hplayer
  have hpassing := passing_filled h hfilled fun kind => hlisted.absent kind hplayer
  have hlists : Listed (player :: players) (s.loot.fillLists w player presentAtLooting) :=
    hlisted.fillLists hplayer presentAtLooting
  rw [LootState.fillNotNormalLootFor]
  dsimp only
  split
  · have hpassed := hpassing.pass (getMaxSlot_le hfilled) le_rfl
    refine ⟨hpassed.recorded, ?_, ?_⟩
    · rw [hpassed.length]
      exact hlists.length
    · intro kind other hnot
      have hne : other ≠ player := fun heq => hnot (heq ▸ List.mem_cons_self)
      exact (hpassed.others kind hne).trans (hlists.absent kind hnot)
  · exact ⟨hpassing.recorded, hlists⟩

/-- The filling for one member after another. -/
def fillFor (w : World) (s : LootState) (member : Nat × Bool) : LootState :=
  s.fillNotNormalLootFor w member.1 member.2

/-- What the filling for a new player keeps holds when all members are done. -/
theorem members_induction {P : LootState → Prop}
    (hstep : ∀ {s : LootState} {players : List Nat} {member : Nat × Bool}, Recorded s →
      Listed players s.loot → member.1 ∉ players → P s → P (fillFor w s member))
    {members : List (Nat × Bool)} (h : Recorded s) (hlisted : Listed players s.loot)
    (hnodup : (members.map Prod.fst).Nodup) (hfresh : ∀ member ∈ members, member.1 ∉ players)
    (hP : P s) : Recorded (members.foldl (fillFor w) s) ∧ P (members.foldl (fillFor w) s) := by
  induction members generalizing s players with
  | nil => exact ⟨h, hP⟩
  | cons member rest ih =>
    rw [List.map_cons, List.nodup_cons] at hnodup
    have hnew := hfresh member List.mem_cons_self
    obtain ⟨hrecorded, hnext⟩ := h.fillNotNormalLootFor (w := w) hlisted hnew member.2
    refine ih hrecorded hnext hnodup.2 ?_ (hstep h hlisted hnew hP)
    intro other hin hknown
    obtain heq | hold := List.mem_cons.mp hknown
    · exact hnodup.1 (heq ▸ List.mem_map_of_mem hin)
    · exact hfresh other (List.mem_cons_of_mem _ hin) hold

/-- A loot before anyone has a list. -/
structure Unlisted (loot : Loot) : Prop where
  length : loot.items.length ≤ maxNrLootItems
  absent : ∀ kind, loot.lists kind = OrderedMap.empty

theorem Unlisted.addStacks (h : Unlisted loot) (w : World) (li : LootStoreItem)
    (maxStackSize stackCount count : Nat) :
    Unlisted (loot.addStacks w li maxStackSize stackCount count) := by
  induction stackCount generalizing loot count with
  | zero => exact h
  | succ stackCount ih =>
    rw [Loot.addStacks]
    split
    · next hroom =>
        refine ih ⟨?_, ?_⟩ _
        · rw [pushItem]
          split
          · exact h.length
          · next hitem =>
              have hnot : ¬ li.needsQuest = true := hitem
              rw [hasRoom, if_neg hnot, decide_eq_true_eq] at hroom
              dsimp only
              rw [List.length_append, List.length_singleton]
              exact hroom
        · intro kind
          rw [pushItem]
          split
          · exact h.absent kind
          · exact h.absent kind
    · exact h

theorem unlisted_drops (w : World) (drops : List (LootStoreItem × Nat)) (h : Unlisted loot) :
    Unlisted (drops.foldl (addItem w) loot) := by
  induction drops generalizing loot with
  | nil => exact h
  | cons drop rest ih =>
    refine ih ?_
    rw [addItem]
    split
    · exact h
    · exact h.addStacks w drop.1 _ _ _

theorem Unlisted.find? (h : Unlisted loot) (kind : ListKind) (player : Nat) :
    (loot.lists kind).find? player = none := by
  rw [h.absent]
  rfl

theorem Unlisted.listed (h : Unlisted loot) : Listed [] loot :=
  ⟨h.length, fun kind {player} _ => h.find? kind player⟩

theorem Unlisted.recorded (h : Unlisted loot) : Recorded ⟨loot, []⟩ := by
  refine ⟨?_, ?_, ?_⟩
  · intro kind player
    rw [listOf_absent (h.find? kind player)]
    exact List.nodup_nil
  · intro isQuestItem index item _ _
    exact Nat.zero_le _
  · intro isQuestItem index item _ _ player
    exact ⟨Nat.zero_le 1, fun hin => absurd hin List.not_mem_nil⟩

/-- What the template drops. -/
def dropped (w : World) (drops : List (LootStoreItem × Nat)) : Loot :=
  drops.foldl (addItem w) Loot.empty

theorem unlisted_dropped (w : World) (drops : List (LootStoreItem × Nat)) :
    Unlisted (dropped w drops) :=
  unlisted_drops w drops ⟨Nat.zero_le _, fun kind => by cases kind <;> rfl⟩

/-- The players for whom the loot is filled. -/
def looters (w : World) (lootOwner : Nat) (personal : Bool) : List (Nat × Bool) :=
  match w.group lootOwner with
  | none => [(lootOwner, true)]
  | some group => if personal then [(lootOwner, true)] else group.members

theorem nodup_looters (w : World) (lootOwner : Nat) (personal : Bool) :
    ((looters w lootOwner personal).map Prod.fst).Nodup := by
  rw [looters]
  split
  · exact List.nodup_singleton _
  · split
    · exact List.nodup_singleton _
    · next group _ _ => exact group.nodup

/-- The loot before it is filled for its players. -/
def startLoot (w : World) (drops : List (LootStoreItem × Nat)) (lootOwner : Nat)
    (personal : Bool) : Loot :=
  match w.group lootOwner with
  | none => dropped w drops
  | some _ =>
    if personal then dropped w drops else { dropped w drops with roundRobinPlayer := lootOwner }

theorem unlisted_startLoot (w : World) (drops : List (LootStoreItem × Nat)) (lootOwner : Nat)
    (personal : Bool) : Unlisted (startLoot w drops lootOwner personal) := by
  have hunlisted := unlisted_dropped w drops
  rw [startLoot]
  split
  · exact hunlisted
  · split
    · exact hunlisted
    · exact ⟨hunlisted.length, hunlisted.absent⟩

/-- The filling for its players, after which items may be marked as under the threshold. -/
theorem fillLoot_cases (w : World) (drops : List (LootStoreItem × Nat)) (lootOwner : Nat)
    (personal : Bool) :
    fillLoot w drops lootOwner personal = (looters w lootOwner personal).foldl (fillFor w)
        ⟨startLoot w drops lootOwner personal, []⟩ ∨
      ∃ group, ∀ s, s = (looters w lootOwner personal).foldl (fillFor w)
          ⟨startLoot w drops lootOwner personal, []⟩ →
        fillLoot w drops lootOwner personal =
          { s with loot :=
            { s.loot with items := s.loot.items.map (markUnderthreshold w group) } } := by
  rw [fillLoot, looters, startLoot]
  cases w.group lootOwner with
  | none => exact Or.inl rfl
  | some group =>
    cases personal with
    | true => exact Or.inl rfl
    | false =>
      refine Or.inr ⟨group, ?_⟩
      rintro s rfl
      rfl

theorem Recorded.flagged {s : LootState} (h : Recorded s) (hflagged : Flagged s.loot loot') :
    Recorded ⟨loot', s.given⟩ := by
  refine h.same hflagged.same ⟨?_, ?_⟩
  · intro kind
    rw [hflagged.lists]
    exact h.distinct kind
  · intro kind player index hmarked
    rw [hflagged.lists]
    exact hmarked

/-- What the filling for a new player keeps, and what does not look at flags, holds of a filled
loot. -/
theorem fillLoot_induction {P : LootState → Prop} (drops : List (LootStoreItem × Nat))
    (lootOwner : Nat) (personal : Bool)
    (hstart : ∀ {loot}, Unlisted loot → P ⟨loot, []⟩)
    (hstep : ∀ {s : LootState} {players : List Nat} {member : Nat × Bool}, Recorded s →
      Listed players s.loot → member.1 ∉ players → P s → P (fillFor w s member))
    (hflagged : ∀ {s loot'}, P s → Flagged s.loot loot' → P ⟨loot', s.given⟩) :
    Recorded (fillLoot w drops lootOwner personal) ∧ P (fillLoot w drops lootOwner personal) := by
  have hunlisted := unlisted_startLoot w drops lootOwner personal
  obtain ⟨hrecorded, hP⟩ := members_induction hstep hunlisted.recorded hunlisted.listed
    (nodup_looters w lootOwner personal) (fun _ _ => List.not_mem_nil) (hstart hunlisted)
  obtain hfill | ⟨group, hfill⟩ := fillLoot_cases w drops lootOwner personal
  · rw [hfill]
    exact ⟨hrecorded, hP⟩
  · rw [hfill _ rfl]
    have hmarked := sameItems_markUnderthreshold w group ((looters w lootOwner personal).foldl
      (fillFor w) ⟨startLoot w drops lootOwner personal, []⟩).loot
    exact ⟨hrecorded.flagged ⟨hmarked, fun _ => rfl⟩, hflagged hP ⟨hmarked, fun _ => rfl⟩⟩

/-- What the filling hands out is recorded. -/
theorem recorded_fillLoot (w : World) (drops : List (LootStoreItem × Nat)) (lootOwner : Nat)
    (personal : Bool) : Recorded (fillLoot w drops lootOwner personal) :=
  (fillLoot_induction (P := fun _ => True) drops lootOwner personal (fun _ => trivial)
    (fun _ _ _ _ => trivial) fun _ _ => trivial).1

/-! ### Every sequence of calls -/

/-- When every call finds what it hands out by the record that counts, each item is handed out
once. -/
theorem handedOutOnce_of_run (w : World) (drops : List (LootStoreItem × Nat)) (lootOwner : Nat)
    (personal : Bool) {calls before : List (World × LootCall)}
    (h : Runs.Admissible step TakesOnce (fillLoot w drops lootOwner personal) calls)
    (hbefore : before <+: calls) :
    HandedOutOnce (Runs.run step (fillLoot w drops lootOwner personal) before) := by
  have hrecorded : Recorded (Runs.run step (fillLoot w drops lootOwner personal) before) :=
    h.invariant (fun hs hok => hs.step hok) (recorded_fillLoot w drops lootOwner personal) hbefore
  exact hrecorded.handedOutOnce

theorem nodup_pair : ([((1 : Nat), true), (2, true)].map Prod.fst).Nodup := by decide

/-- Two players in a group who loot freely; everything is allowed and fits. -/
def pairWorld : World where
  itemTemplate := fun _ =>
    some ⟨1, 1, false, false, false, false, false, false, false, 0, 0, 0⟩
  isObjectMeetToConditions := fun _ _ => true
  hasSkill := fun _ _ => false
  hasSpell := fun _ _ => false
  team := fun _ => .horde
  hasQuestStatus := fun _ _ => false
  hasQuestForItem := fun _ _ => true
  group := fun _ => some ⟨.freeForAll, 0, 2, [(1, true), (2, true)], nodup_pair⟩
  canStoreNewItem := fun _ _ _ => true
  isFound := fun _ => true
  isLooting := fun _ => true
  isInRaidWith := fun _ _ => true
  isInMap := fun _ _ => true

/-- A plain item and a quest item. -/
def pairLoot : LootState := fillLoot pairWorld [(⟨8, false, []⟩, 1), (⟨7, true, []⟩, 1)] 1 false

/-- Both players take the quest item, and the first takes the plain one. -/
theorem handedOutOnce_pairLoot :
    HandedOutOnce (Runs.run step pairLoot [(pairWorld, .storeLootItem 0 1),
      (pairWorld, .storeLootItem 0 2), (pairWorld, .storeLootItem 1 2)]) := by
  have hadmissible : Runs.Admissible step TakesOnce
      (fillLoot pairWorld [(⟨8, false, []⟩, 1), (⟨7, true, []⟩, 1)] 1 false)
      [(pairWorld, .storeLootItem 0 1), (pairWorld, .storeLootItem 0 2),
        (pairWorld, .storeLootItem 1 2)] := by
    refine ⟨?_, ?_, ?_, trivial⟩
    · exact Or.inr rfl
    · trivial
    · exact Or.inr rfl
  exact handedOutOnce_of_run pairWorld _ 1 false hadmissible (List.prefix_refl _)

/-- The quest item is on both lists, and each player takes it. -/
theorem questItem_given_twice :
    (Runs.run step pairLoot [(pairWorld, .storeLootItem 1 1),
      (pairWorld, .storeLootItem 1 2)]).given = [⟨1, true, 0⟩, ⟨2, true, 0⟩] ∧
        ¬ HandedOutOnce (Runs.run step pairLoot [(pairWorld, .storeLootItem 1 1),
          (pairWorld, .storeLootItem 1 2)]) := by
  have hgiven : (Runs.run step pairLoot [(pairWorld, .storeLootItem 1 1),
      (pairWorld, .storeLootItem 1 2)]).given = [⟨1, true, 0⟩, ⟨2, true, 0⟩] := by decide +kernel
  have hfree : ((Runs.run step pairLoot [(pairWorld, .storeLootItem 1 1),
      (pairWorld, .storeLootItem 1 2)]).loot.lootItem true 0).map LootItem.freeforall =
        some false := by decide +kernel
  refine ⟨hgiven, fun honce => ?_⟩
  obtain ⟨item, hitem, hnotFree⟩ := Option.map_eq_some_iff.mp hfree
  have htwice := honce true 0 item hitem
  rw [hnotFree, if_neg Bool.false_ne_true, hgiven] at htwice
  exact absurd htwice (by decide)

end Cataclysm.Looting
