import Cataclysm.Guilds.BankMoney
import Cataclysm.Guilds.BankTab

/-!
# Moves between the slots of a guild bank

A request moves the stack of one slot, or a part of it, to another slot. The part is a clone. A
whole stack is first stored like any other item; when it does not fit, the two slots exchange their
items. A stack that leaves a tab towards another one counts against the daily slots of the member.

## Implementation notes

Moves from and to the slots of a player are left out, as are the logs of the bank. The counters are
an `int32` by the key of a member and the tab. What a request must pass before anything is moved is
`admits`; `leftTabs` names the tabs that stacks leave, from the same checks.
-/

namespace Cataclysm.Guilds

open Items

/-- A slot of a tab. -/
structure BankSlot where
  tabId : Nat
  slotId : Nat
  deriving DecidableEq

/-- The tabs of a bank with what the members may do. -/
structure BankItems where
  tabs : List BankTab
  nextGuid : Nat
  bankWithdraw : Nat → Nat → Int

variable (catalog : Catalog) (isSoulBound : Items.Item → Bool) (g : RankedGuild)

namespace BankItems

def getItem (b : BankItems) (pos : BankSlot) : Option Items.Item :=
  b.tabs[pos.tabId]?.bind fun tab => tab.getItem pos.slotId

def setItem (b : BankItems) (pos : BankSlot) (item : Option Items.Item) : BankItems :=
  match b.tabs[pos.tabId]? with
  | some tab => { b with tabs := b.tabs.set pos.tabId (tab.setItem pos.slotId item) }
  | none => b

/-- Where the item would go in the tab. -/
def canStore (b : BankItems) (pos : BankSlot) (item : Items.Item) (swap : Bool) :
    InventoryResult × List (Nat × Nat) :=
  match b.tabs[pos.tabId]? with
  | some tab => tab.canStore catalog isSoulBound pos.slotId item swap
  | none => (if isSoulBound item then dropBoundItem else .wrongBagType, [])

/-- The item goes where room was reserved. -/
def storeItem (b : BankItems) (pos : BankSlot) (item : Items.Item) (vec : List (Nat × Nat)) :
    BankItems :=
  match b.tabs[pos.tabId]? with
  | some tab =>
    { b with
      tabs := b.tabs.set pos.tabId (tab.storeItem catalog b.nextGuid item vec).1
      nextGuid := (tab.storeItem catalog b.nextGuid item vec).2 }
  | none => b

/-- Rights are not asked for within a tab. -/
def hasStoreRights (guid : Nat) (pos other : BankSlot) : Bool :=
  other.tabId == pos.tabId || g.memberHasTabRights guid pos.tabId guildBankRightDepositItem

/-- How often the member may still withdraw today. -/
def remainingSlots (b : BankItems) (guid tabId : Nat) : Int :=
  match g.toGuild.getMember guid with
  | some member => g.getMemberRemainingSlots member (b.bankWithdraw member.lowGuid) tabId
  | none => 0

/-- A move to another tab needs the right to withdraw. -/
def hasWithdrawRights (b : BankItems) (guid : Nat) (pos other : BankSlot) : Bool :=
  other.tabId == pos.tabId || b.remainingSlots g guid pos.tabId != 0

def updateMemberWithdrawSlots (b : BankItems) (guid tabId : Nat) : BankItems :=
  match g.toGuild.getMember guid with
  | some member =>
    if member.rankId ≠ grGuildmaster ∧
        getBankWithdrawValue member (b.bankWithdraw member.lowGuid) tabId <
          g.getRankBankTabSlotsPerDay member.rankId tabId then
      { b with bankWithdraw := updateBankWithdrawValue b.bankWithdraw member.lowGuid tabId 1 }
    else b
  | none => b

def removeItem (b : BankItems) (guid : Nat) (pos other : BankSlot) (item : Items.Item)
    (splitedAmount : Nat) : BankItems :=
  let b := if splitedAmount ≠ 0 then
      b.setItem pos (some { item with count := item.count - splitedAmount })
    else b.setItem pos none
  if other.tabId ≠ pos.tabId then b.updateMemberWithdrawSlots g guid pos.tabId else b

/-- `_DoItemsMove`: `none` when an item cannot be stored. `item` stands in the source slot, `moved`
is the item or its clone. -/
def doItemsMove (b : BankItems) (guid : Nat) (src dest : BankSlot) (item moved : Items.Item)
    (destItem : Option Items.Item) (splitedAmount : Nat) : Option BankItems :=
  match b.canStore catalog isSoulBound dest moved destItem.isSome with
  | (.ok, vec) =>
    match destItem with
    | none =>
      some ((b.removeItem g guid src dest item splitedAmount).storeItem catalog dest moved vec)
    | some other =>
      match b.canStore catalog isSoulBound src other true with
      | (.ok, srcVec) =>
        some ((((b.removeItem g guid src dest item splitedAmount).removeItem g guid dest src
          other 0).storeItem catalog dest moved vec).storeItem catalog src other srcVec)
      | _ => none
  | _ => none

/-- The steps of `_MoveItems` before the move: the item of the source slot and the amount to split,
which is zero for a whole stack. -/
def admits (b : BankItems) (guid : Nat) (src dest : BankSlot) (splitedAmount : Nat) :
    Option (Items.Item × Nat) :=
  match b.getItem src with
  | none => none
  | some item =>
    if item.count < splitedAmount then none
    else if hasStoreRights g guid dest src = false then none
    else if b.hasWithdrawRights g guid src dest = false then none
    else some (item, if splitedAmount = item.count then 0 else splitedAmount)

/-- The rights in the opposite direction. -/
def admitsSwap (b : BankItems) (guid : Nat) (src dest : BankSlot) : Bool :=
  hasStoreRights g guid src dest && b.hasWithdrawRights g guid dest src

/-- The bank after `CloneItem`, whether or not the clone is stored. -/
def skipGuid (b : BankItems) : BankItems := { b with nextGuid := b.nextGuid + 1 }

/-- One item moves, or a part of its stack. -/
def moveItems (b : BankItems) (guid : Nat) (src dest : BankSlot) (splitedAmount : Nat) : BankItems :=
  match b.admits g guid src dest splitedAmount with
  | none => b
  | some (item, splitedAmount) =>
    if splitedAmount ≠ 0 then
      match cloneItem catalog b.nextGuid item splitedAmount with
      | none => b
      | some clone =>
        (b.skipGuid.doItemsMove catalog isSoulBound g guid src dest item clone none
          splitedAmount).getD b.skipGuid
    else
      match b.doItemsMove catalog isSoulBound g guid src dest item item none 0 with
      | some b => b
      | none =>
        match b.getItem dest with
        | none => b
        | some other =>
          if b.admitsSwap g guid src dest then
            (b.doItemsMove catalog isSoulBound g guid src dest item item (some other)
              0).getD b
          else b

/-- The slots exist and are not the same. -/
def addressed (src dest : BankSlot) : Bool :=
  src.tabId < g.bankTabs && src.slotId < guildBankMaxSlots && dest.tabId < g.bankTabs &&
    dest.slotId < guildBankMaxSlots && src != dest

/-- One item moves, or two change their places. -/
def swapItems (b : BankItems) (guid : Nat) (src dest : BankSlot) (splitedAmount : Nat) : BankItems :=
  if addressed g src dest then b.moveItems catalog isSoulBound g guid src dest splitedAmount else b

/-! ### Which stacks leave their tab -/

/-- The item, or the clone of a part of it, can be stored in the destination. -/
def storesPart (b : BankItems) (dest : BankSlot) (item : Items.Item) (splitedAmount : Nat) : Bool :=
  match cloneItem catalog b.nextGuid item splitedAmount with
  | none => false
  | some clone => (b.canStore catalog isSoulBound dest clone false).1 == .ok

def storesWhole (b : BankItems) (dest : BankSlot) (item : Items.Item) : Bool :=
  (b.canStore catalog isSoulBound dest item false).1 == .ok

/-- Each of the two items can take the slot of the other. -/
def exchanges (b : BankItems) (guid : Nat) (src dest : BankSlot) (item : Items.Item) : Bool :=
  match b.getItem dest with
  | none => false
  | some other =>
    b.admitsSwap g guid src dest && (b.canStore catalog isSoulBound dest item true).1 == .ok &&
      (b.canStore catalog isSoulBound src other true).1 == .ok

/-- The tabs that a stack leaves towards another tab, when all checks pass. -/
def leftTabs (b : BankItems) (guid : Nat) (src dest : BankSlot) (splitedAmount : Nat) : List Nat :=
  if addressed g src dest = false ∨ src.tabId = dest.tabId then []
  else match b.admits g guid src dest splitedAmount with
    | none => []
    | some (item, splitedAmount) =>
      if splitedAmount ≠ 0 then
        if b.storesPart catalog isSoulBound dest item splitedAmount then [src.tabId] else []
      else if b.storesWhole catalog isSoulBound dest item then [src.tabId]
      else if b.exchanges catalog isSoulBound g guid src dest item then [src.tabId, dest.tabId]
      else []

variable {catalog isSoulBound g} {b : BankItems} {guid : Nat} {src dest : BankSlot}
  {splitedAmount : Nat}

/-! ### What a request does -/

/-- The item that goes to the destination: the whole stack, or a clone of a part of it. -/
structure Picked (catalog : Catalog) (b : BankItems) (item : Items.Item) (splitedAmount : Nat)
    (moved : Items.Item) (next : BankItems) : Prop where
  whole : splitedAmount = 0 → moved = item ∧ next = b
  part : splitedAmount ≠ 0 → splitedAmount < item.count ∧
    cloneItem catalog b.nextGuid item splitedAmount = some moved ∧ next = b.skipGuid

/-- The three ends of a request that addresses two slots, and the tabs that stacks leave. -/
inductive Moved (catalog : Catalog) (isSoulBound : Items.Item → Bool) (g : RankedGuild)
    (b : BankItems)
    (guid : Nat) (src dest : BankSlot) : BankItems → List Nat → Prop
  | stays {after : BankItems} (htabs : after.tabs = b.tabs)
      (hwithdraw : after.bankWithdraw = b.bankWithdraw) (hguid : b.nextGuid ≤ after.nextGuid) :
      Moved catalog isSoulBound g b guid src dest after []
  | stores {item moved : Items.Item} {splitedAmount : Nat} {next : BankItems} {vec : List (Nat × Nat)}
      (hitem : b.getItem src = some item) (hpicked : Picked catalog b item splitedAmount moved next)
      (hrights : b.hasWithdrawRights g guid src dest = true)
      (hstore : next.canStore catalog isSoulBound dest moved false = (.ok, vec)) :
      Moved catalog isSoulBound g b guid src dest
        ((next.removeItem g guid src dest item splitedAmount).storeItem catalog dest moved vec)
        (if src.tabId = dest.tabId then [] else [src.tabId])
  | exchanges {item other : Items.Item} {vec srcVec : List (Nat × Nat)}
      (hitem : b.getItem src = some item) (hother : b.getItem dest = some other)
      (hrights : b.hasWithdrawRights g guid src dest = true)
      (hback : b.hasWithdrawRights g guid dest src = true)
      (hstore : b.canStore catalog isSoulBound dest item true = (.ok, vec))
      (hstoreBack : b.canStore catalog isSoulBound src other true = (.ok, srcVec)) :
      Moved catalog isSoulBound g b guid src dest
        ((((b.removeItem g guid src dest item 0).removeItem g guid dest src other 0).storeItem
          catalog dest item vec).storeItem catalog src other srcVec)
        (if src.tabId = dest.tabId then [] else [src.tabId, dest.tabId])

theorem admits_eq_some {item : Items.Item} {split : Nat}
    (h : b.admits g guid src dest splitedAmount = some (item, split)) :
    b.getItem src = some item ∧ b.hasWithdrawRights g guid src dest = true ∧
      (split ≠ 0 → split < item.count) := by
  rw [admits] at h
  cases hitem : b.getItem src with
  | none =>
    rw [hitem] at h
    cases h
  | some found =>
    rw [hitem] at h
    dsimp only at h
    split at h
    · cases h
    · next hle =>
        split at h
        · cases h
        · split at h
          · cases h
          · next hrights =>
              cases h
              refine ⟨rfl, Bool.eq_true_of_not_eq_false hrights, ?_⟩
              split
              · exact fun hne => absurd rfl hne
              · intro _
                omega

theorem canStore_eq_ok {pos : BankSlot} {item : Items.Item} {swap : Bool}
    (h : ((b.canStore catalog isSoulBound pos item swap).1 == .ok) = true) :
    ∃ vec, b.canStore catalog isSoulBound pos item swap = (.ok, vec) :=
  ⟨_, Prod.ext (beq_iff_eq.mp h) rfl⟩

theorem doItemsMove_none {item moved : Items.Item} {split : Nat} :
    b.doItemsMove catalog isSoulBound g guid src dest item moved none split =
      if ((b.canStore catalog isSoulBound dest moved false).1 == .ok) = true then
        some ((b.removeItem g guid src dest item split).storeItem catalog dest moved
          (b.canStore catalog isSoulBound dest moved false).2)
      else none := by
  rw [doItemsMove]
  split
  · next vec hstore =>
      rw [Option.isSome_none] at hstore
      rw [hstore]
      rfl
  · next hfails =>
      split
      · next hok =>
          obtain ⟨vec, hstore⟩ := canStore_eq_ok hok
          exact absurd hstore (hfails vec)
      · rfl

theorem doItemsMove_some {item other : Items.Item} :
    b.doItemsMove catalog isSoulBound g guid src dest item item (some other) 0 =
      if ((b.canStore catalog isSoulBound dest item true).1 == .ok) = true ∧
          ((b.canStore catalog isSoulBound src other true).1 == .ok) = true then
        some ((((b.removeItem g guid src dest item 0).removeItem g guid dest src other 0).storeItem
          catalog dest item (b.canStore catalog isSoulBound dest item true).2).storeItem catalog src
            other (b.canStore catalog isSoulBound src other true).2)
      else none := by
  rw [doItemsMove]
  split
  · next vec hstore =>
      rw [Option.isSome_some] at hstore
      dsimp only
      rw [hstore]
      split
      · next srcVec hback =>
          rw [hback]
          rfl
      · next hfails =>
          split
          · next hok =>
              obtain ⟨srcVec, hback⟩ := canStore_eq_ok hok.2
              exact absurd hback (hfails srcVec)
          · rfl
  · next hfails =>
      split
      · next hok =>
          obtain ⟨vec, hstore⟩ := canStore_eq_ok hok.1
          exact absurd hstore (hfails vec)
      · rfl

theorem moved_stays : Moved catalog isSoulBound g b guid src dest b [] := .stays rfl rfl le_rfl

theorem moved_skips : Moved catalog isSoulBound g b guid src dest b.skipGuid [] :=
  .stays rfl rfl (Nat.le_succ _)

/-- A part of a stack. -/
theorem moved_part {item : Items.Item} {split : Nat} (hitem : b.getItem src = some item)
    (hrights : b.hasWithdrawRights g guid src dest = true) (hsplit : split ≠ 0)
    (hlt : split < item.count) :
    Moved catalog isSoulBound g b guid src dest
      (match cloneItem catalog b.nextGuid item split with
        | none => b
        | some clone =>
          (b.skipGuid.doItemsMove catalog isSoulBound g guid src dest item clone none
            split).getD b.skipGuid)
      (if src.tabId = dest.tabId then []
        else if b.storesPart catalog isSoulBound dest item split then [src.tabId] else []) := by
  rw [storesPart]
  cases hclone : cloneItem catalog b.nextGuid item split with
  | none =>
    dsimp only
    rw [if_neg Bool.false_ne_true, ite_self]
    exact moved_stays
  | some clone =>
    dsimp only
    rw [doItemsMove_none]
    have hsame : b.skipGuid.canStore catalog isSoulBound dest clone false =
        b.canStore catalog isSoulBound dest clone false := rfl
    rw [hsame]
    split
    · next hok =>
        obtain ⟨vec, hstore⟩ := canStore_eq_ok hok
        rw [hstore, Option.getD_some]
        exact .stores hitem ⟨fun hzero => absurd hzero hsplit, fun _ => ⟨hlt, hclone, rfl⟩⟩
          hrights (hsame.trans hstore)
    · rw [ite_self]
      exact moved_skips

/-- A whole stack. -/
theorem moved_whole {item : Items.Item} (hitem : b.getItem src = some item)
    (hrights : b.hasWithdrawRights g guid src dest = true) :
    Moved catalog isSoulBound g b guid src dest
      (match b.doItemsMove catalog isSoulBound g guid src dest item item none 0 with
        | some b => b
        | none =>
          match b.getItem dest with
          | none => b
          | some other =>
            if b.admitsSwap g guid src dest then
              (b.doItemsMove catalog isSoulBound g guid src dest item item (some other)
                0).getD b
            else b)
      (if src.tabId = dest.tabId then []
        else if b.storesWhole catalog isSoulBound dest item then [src.tabId]
        else if b.exchanges catalog isSoulBound g guid src dest item then [src.tabId, dest.tabId]
        else []) := by
  rw [doItemsMove_none, storesWhole]
  by_cases hok : ((b.canStore catalog isSoulBound dest item false).1 == .ok) = true
  · obtain ⟨vec, hstore⟩ := canStore_eq_ok hok
    rw [if_pos hok, if_pos hok, hstore]
    exact .stores hitem ⟨fun _ => ⟨rfl, rfl⟩, fun hne => absurd rfl hne⟩ hrights hstore
  · rw [if_neg hok, if_neg hok, exchanges]
    cases hother : b.getItem dest with
    | none =>
      dsimp only
      rw [if_neg Bool.false_ne_true, ite_self]
      exact moved_stays
    | some other =>
      dsimp only
      by_cases hswap : b.admitsSwap g guid src dest = true
      · rw [if_pos hswap, hswap, Bool.true_and, doItemsMove_some]
        by_cases hboth : ((b.canStore catalog isSoulBound dest item true).1 == .ok) = true ∧
            ((b.canStore catalog isSoulBound src other true).1 == .ok) = true
        · obtain ⟨vec, hstore⟩ := canStore_eq_ok hboth.1
          obtain ⟨srcVec, hback⟩ := canStore_eq_ok hboth.2
          rw [if_pos hboth, if_pos (Bool.and_eq_true_iff.mpr hboth), hstore, hback,
            Option.getD_some]
          rw [admitsSwap, Bool.and_eq_true] at hswap
          exact .exchanges hitem hother hrights hswap.2 hstore hback
        · rw [if_neg hboth, if_neg fun hand => hboth (Bool.and_eq_true_iff.mp hand),
            ite_self, Option.getD_none]
          exact moved_stays
      · have hrefused : ¬ (b.admitsSwap g guid src dest &&
            (b.canStore catalog isSoulBound dest item true).1 == .ok &&
              (b.canStore catalog isSoulBound src other true).1 == .ok) = true := by
          rw [Bool.and_eq_true, Bool.and_eq_true]
          exact fun hand => hswap hand.1.1
        rw [if_neg hswap, if_neg hrefused, ite_self]
        exact moved_stays

/-- Every request ends in one of three ways. -/
theorem moved_swapItems (h : addressed g src dest = true) (splitedAmount : Nat) :
    Moved catalog isSoulBound g b guid src dest
      (b.swapItems catalog isSoulBound g guid src dest splitedAmount)
      (b.leftTabs catalog isSoulBound g guid src dest splitedAmount) := by
  rw [swapItems, if_pos h, moveItems]
  have hleft : b.leftTabs catalog isSoulBound g guid src dest splitedAmount =
      if src.tabId = dest.tabId then [] else
        match b.admits g guid src dest splitedAmount with
        | none => []
        | some (item, splitedAmount) =>
          if splitedAmount ≠ 0 then
            if b.storesPart catalog isSoulBound dest item splitedAmount then [src.tabId] else []
          else if b.storesWhole catalog isSoulBound dest item then [src.tabId]
          else if b.exchanges catalog isSoulBound g guid src dest item then
            [src.tabId, dest.tabId]
          else [] := by
    rw [leftTabs, h]
    simp only [Bool.true_eq_false, false_or]
  rw [hleft]
  cases hadmits : b.admits g guid src dest splitedAmount with
  | none =>
    dsimp only
    rw [ite_self]
    exact moved_stays
  | some pair =>
    obtain ⟨item, split⟩ := pair
    obtain ⟨hitem, hrights, hlt⟩ := admits_eq_some hadmits
    dsimp only
    by_cases hsplit : split = 0
    · subst hsplit
      simp only [ne_eq, not_true_eq_false, if_false]
      exact moved_whole hitem hrights
    · simp only [ne_eq, hsplit, not_false_eq_true, if_true]
      exact moved_part hitem hrights hsplit (hlt hsplit)

theorem swapItems_unaddressed (h : addressed g src dest = false) :
    b.swapItems catalog isSoulBound g guid src dest splitedAmount = b ∧
      b.leftTabs catalog isSoulBound g guid src dest splitedAmount = [] := by
  constructor
  · rw [swapItems, h, if_neg Bool.false_ne_true]
  · rw [leftTabs, if_pos (Or.inl h)]

end BankItems

end Cataclysm.Guilds
