import Cataclysm.Guilds.BankQuota

/-!
# Depositing an item in a guild bank tab

The reservation is made before the item leaves its place and before an exchanged item leaves the
asked slot; storing meets the tab afterwards. A tab leaves the room that was seen when each of its
slots holds at most what was seen there. Then every reserved count still fits, and what arrives in
the tab is the item.
-/

namespace Cataclysm.Guilds

open Items

/-- Distinct slots of the tab, each free or with a stack of the same entry, and with room for the
count. -/
structure Deposits (catalog : Catalog) (view : Nat → Option Items.Item) (item : Items.Item)
    (vec : List (Nat × Nat)) : Prop where
  nodup : (vec.map Prod.fst).Nodup
  inTab : ∀ pos ∈ vec, pos.1 < guildBankMaxSlots
  bounded : ∀ pos ∈ vec, pos.2 ≤ item.maxStack catalog
  space : ∀ pos ∈ vec, ∀ dest, view pos.1 = some dest →
    dest.entry = item.entry ∧ dest.count + pos.2 ≤ item.maxStack catalog

variable {catalog : Catalog} {isSoulBound : Items.Item → Bool} {view : Nat → Option Items.Item}
  {item : Items.Item} {vec : List (Nat × Nat)}

theorem Fits.deposits (h : Fits catalog view item vec) : Deposits catalog view item vec :=
  ⟨h.nodup, h.inTab, h.bounded, h.space⟩

theorem Deposits.tail {pos : Nat × Nat} (h : Deposits catalog view item (pos :: vec)) :
    Deposits catalog view item vec where
  nodup := (List.nodup_cons.mp h.nodup).2
  inTab := fun other hother => h.inTab other (List.mem_cons_of_mem pos hother)
  bounded := fun other hother => h.bounded other (List.mem_cons_of_mem pos hother)
  space := fun other hother => h.space other (List.mem_cons_of_mem pos hother)

namespace BankTab

variable {tab : BankTab} {slotId : Nat} {swap : Bool}

/-- An empty stack needs no more than the asked slot. -/
theorem canStore_empty (h : tab.canStore catalog isSoulBound slotId item swap = (.ok, vec))
    (hslot : slotId < guildBankMaxSlots ∨ slotId = nullSlot) (hzero : item.count = 0) :
    Deposits catalog (tab.seen item slotId swap) item vec ∧ (vec.map Prod.snd).sum = 0 := by
  rw [canStore] at h
  split at h
  · cases h
  · by_cases hnull : slotId = nullSlot
    · rw [reserveAsked, if_pos hnull, hzero] at h
      cases h
      refine ⟨⟨List.nodup_nil, ?_, ?_, ?_⟩, rfl⟩
      all_goals
        intro pos hpos
        cases hpos
    · rw [reserveAsked, if_neg hnull, ← seen_self, hzero] at h
      have hone : ∀ room, Reserved.add ⟨[], 0⟩ slotId room = ⟨[(slotId, 0)], 0⟩ := by
        intro room
        rw [Reserved.add, List.any_nil, if_neg Bool.false_ne_true, min_eq_right (Nat.zero_le room)]
        rfl
      have hspace : vec = [(slotId, 0)] ∧ ∀ dest, tab.seen item slotId swap slotId = some dest →
          dest.entry = item.entry ∧ dest.count ≤ item.maxStack catalog := by
        cases hseen : tab.seen item slotId swap slotId with
        | none =>
          rw [hseen, reserveSpace, hone] at h
          cases h
          refine ⟨rfl, fun dest hdest => ?_⟩
          cases hdest
        | some dest =>
          rw [hseen, reserveSpace, hone] at h
          by_cases hmatch : dest.entry ≠ item.entry ∨ item.maxStack catalog ≤ dest.count
          · rw [if_pos hmatch] at h
            cases h
          · rw [if_neg hmatch] at h
            cases h
            rw [not_or, not_not, not_le] at hmatch
            refine ⟨rfl, fun dest' hdest => ?_⟩
            cases hdest
            exact ⟨hmatch.1, hmatch.2.le⟩
      obtain ⟨rfl, hroom⟩ := hspace
      refine ⟨⟨List.nodup_singleton _, ?_, ?_, ?_⟩, rfl⟩
      all_goals
        intro pos hpos
        rw [List.mem_singleton] at hpos
        subst hpos
      · exact hslot.resolve_right hnull
      · exact Nat.zero_le _
      · exact hroom

theorem canStore_deposits (h : tab.canStore catalog isSoulBound slotId item swap = (.ok, vec))
    (hslot : slotId < guildBankMaxSlots ∨ slotId = nullSlot) :
    Deposits catalog (tab.seen item slotId swap) item vec ∧
      (vec.map Prod.snd).sum = item.count := by
  obtain hzero | hpos := Nat.eq_zero_or_pos item.count
  · rw [hzero]
    exact canStore_empty h hslot hzero
  · obtain ⟨hfits, hsum⟩ := canStore_fits_seen h hslot hpos
    exact ⟨hfits.deposits, hsum⟩

/-! ### The tab that storing meets -/

/-- Every slot holds at most what was seen there. -/
def Leaves (met : BankTab) (view : Nat → Option Items.Item) : Prop :=
  ∀ slotId dest, met.getItem slotId = some dest →
    ∃ old, view slotId = some old ∧ dest.entry = old.entry ∧ dest.count ≤ old.count

theorem Leaves.deposits {met : BankTab} (h : met.Leaves view)
    (hdep : Deposits catalog view item vec) : Deposits catalog met.getItem item vec where
  nodup := hdep.nodup
  inTab := hdep.inTab
  bounded := hdep.bounded
  space := by
    intro pos hpos dest hdest
    obtain ⟨old, hold, hentry, hcount⟩ := h pos.1 dest hdest
    obtain ⟨hsame, hroom⟩ := hdep.space pos hpos old hold
    exact ⟨hentry.trans hsame, (Nat.add_le_add_right hcount _).trans hroom⟩

/-- An item that comes from elsewhere meets the tab as it was seen. -/
theorem leaves_of_absent (habsent : ∀ dest ∈ tab.items, dest.guid ≠ item.guid) :
    tab.Leaves (tab.seen item slotId false) := by
  intro other dest hdest
  have hne : dest.guid ≠ item.guid :=
    habsent dest (List.mem_map_of_mem (OrderedMap.find?_eq_some_iff.mp (getItem_eq_some hdest).2))
  refine ⟨dest, ?_, rfl, le_rfl⟩
  change (tab.getItem other).filter _ = some dest
  rw [hdest, Option.filter_some, if_pos (bne_iff_ne.mpr hne)]

/-- An item of the tab has left its slot, and an exchanged one the asked slot. -/
theorem leaves_of_left {src : Nat} (hsrc : src < guildBankMaxSlots)
    (hown : ∀ other dest, tab.getItem other = some dest → dest.guid = item.guid → other = src)
    (hslot : slotId < guildBankMaxSlots) :
    ((tab.setItem src none).setItem slotId none).Leaves (tab.seen item slotId true) ∧
      (tab.setItem src none).Leaves (tab.seen item slotId false) := by
  have hleft : ∀ other dest, (tab.setItem src none).getItem other = some dest →
      tab.itemDest item other = some dest := by
    intro other dest hdest
    rw [getItem_setItem tab hsrc] at hdest
    split at hdest
    · cases hdest
    · next hne =>
      rw [itemDest, hdest, Option.filter_some, if_pos]
      exact bne_iff_ne.mpr fun hguid => hne (hown other dest hdest hguid)
  refine ⟨fun other dest hdest => ?_, fun other dest hdest => ?_⟩
  · rw [getItem_setItem _ hslot] at hdest
    split at hdest
    · cases hdest
    · next hne => exact ⟨dest, (tab.seen_of_ne item true hne).trans (hleft _ _ hdest), rfl, le_rfl⟩
  · exact ⟨dest, hleft other dest hdest, rfl, le_rfl⟩

/-! ### Storing -/

/-- The pieces of an entry in a tab. -/
def pieces (tab : BankTab) (entry : Nat) : Nat := tally entry tab.items

variable (nextGuid : Nat)

theorem pieces_setItem (hslot : slotId < guildBankMaxSlots) (new : Items.Item) (entry : Nat) :
    (tab.setItem slotId (some new)).pieces entry =
      new.units entry + tally entry (tab.others slotId) := by
  rw [pieces, tally_perm (tab.items_setItem hslot new), tally_cons]

/-- What arrives at a position are as many pieces of the entry as were reserved. -/
theorem pieces_storeItemAt {count : Nat} (clone : Bool)
    (hdep : Deposits catalog tab.getItem item ((slotId, count) :: vec)) (entry : Nat) :
    (tab.storeItemAt catalog nextGuid slotId item count clone).1.pieces entry =
      tab.pieces entry + if item.entry = entry then count else 0 := by
  have hslot : slotId < guildBankMaxSlots := hdep.inTab _ List.mem_cons_self
  have hmax : count ≤ item.maxStack catalog := hdep.bounded _ List.mem_cons_self
  rw [storeItemAt]
  cases hdest : tab.getItem slotId with
  | some dest =>
    obtain ⟨hentry, -⟩ := hdep.space _ List.mem_cons_self dest hdest
    have hold : tab.pieces entry = dest.units entry + tally entry (tab.others slotId) := by
      rw [pieces, tally_perm (items_perm hdest), tally_cons]
    dsimp only
    rw [pieces_setItem hslot, hold, Item.units, Item.units, hentry]
    split
    · exact Nat.add_right_comm _ _ _
    · rfl
  | none =>
    have hold : tab.pieces entry = tally entry (tab.others slotId) := by
      rw [pieces, items_of_free hslot hdest]
    have hset : ∀ new : Items.Item, new.entry = item.entry → new.count = count →
        (tab.setItem slotId (some new)).pieces entry =
          tab.pieces entry + if item.entry = entry then count else 0 := by
      intro new hentry hcount
      rw [pieces_setItem hslot, hold, Item.units, hentry, hcount, Nat.add_comm]
    dsimp only
    split
    · rw [cloneItem]
      obtain rfl | hpos := Nat.eq_zero_or_pos count
      · exact (ite_self 0).symm ▸ rfl
      · rw [if_neg (Nat.not_lt.mpr hpos), min_eq_left hmax]
        exact hset _ rfl rfl
    · exact hset _ rfl rfl

theorem Deposits.stored {count : Nat} (clone : Bool)
    (hdep : Deposits catalog tab.getItem item ((slotId, count) :: vec)) :
    Deposits catalog (tab.storeItemAt catalog nextGuid slotId item count clone).1.getItem item
      vec where
  nodup := hdep.tail.nodup
  inTab := hdep.tail.inTab
  bounded := hdep.tail.bounded
  space := by
    intro pos hpos dest hdest
    have hne : pos.1 ≠ slotId := by
      intro heq
      have hmem : pos.1 ∈ vec.map Prod.fst := List.mem_map_of_mem hpos
      rw [heq] at hmem
      exact (List.nodup_cons.mp hdep.nodup).1 hmem
    rw [getItem_storeItemAt (hdep.inTab _ List.mem_cons_self) count clone hne] at hdest
    exact hdep.tail.space pos hpos dest hdest

/-- The reserved positions get their counts, and nothing else changes. -/
theorem pieces_storeItem (hdep : Deposits catalog tab.getItem item vec) :
    (∀ entry, (tab.storeItem catalog nextGuid item vec).1.pieces entry =
        tab.pieces entry + if item.entry = entry then (vec.map Prod.snd).sum else 0) ∧
      ∀ other, other ∉ vec.map Prod.fst →
        (tab.storeItem catalog nextGuid item vec).1.getItem other = tab.getItem other := by
  induction vec generalizing tab nextGuid with
  | nil => exact ⟨fun entry => (ite_self 0).symm ▸ rfl, fun _ _ => rfl⟩
  | cons pos rest ih =>
    obtain ⟨slotId, count⟩ := pos
    obtain ⟨hpieces, hothers⟩ := ih
      (tab.storeItemAt catalog nextGuid slotId item count !rest.isEmpty).2
      (Deposits.stored nextGuid (!rest.isEmpty) hdep)
    refine ⟨fun entry => ?_, fun other hother => ?_⟩
    · rw [List.map_cons, List.sum_cons]
      refine (hpieces entry).trans ?_
      rw [pieces_storeItemAt nextGuid _ hdep]
      split
      · exact Nat.add_assoc _ _ _
      · rfl
    · rw [List.map_cons, List.mem_cons, not_or] at hother
      exact (hothers other hother.2).trans
        (getItem_storeItemAt (hdep.inTab _ List.mem_cons_self) count _ hother.1)

/-- What `CanStore` reserves is stored: the positions have room for the whole item, and the tab
gets as many pieces of the entry, none of another one, and nothing at another slot. -/
theorem deposit_stored
    (h : tab.canStore catalog isSoulBound slotId item swap = (.ok, vec))
    (hslot : slotId < guildBankMaxSlots ∨ slotId = nullSlot) :
    Deposits catalog (tab.seen item slotId swap) item vec ∧ (vec.map Prod.snd).sum = item.count ∧
      ∀ (met : BankTab) (nextGuid : Nat), met.Leaves (tab.seen item slotId swap) →
        (met.storeItem catalog nextGuid item vec).1.pieces item.entry =
            met.pieces item.entry + item.count ∧
          (∀ entry, entry ≠ item.entry →
            (met.storeItem catalog nextGuid item vec).1.pieces entry = met.pieces entry) ∧
          ∀ other, other ∉ vec.map Prod.fst →
            (met.storeItem catalog nextGuid item vec).1.getItem other = met.getItem other := by
  obtain ⟨hdep, hsum⟩ := canStore_deposits h hslot
  refine ⟨hdep, hsum, fun met nextGuid hmet => ?_⟩
  obtain ⟨hpieces, hothers⟩ := pieces_storeItem nextGuid (hmet.deposits hdep)
  refine ⟨?_, fun entry hne => ?_, hothers⟩
  · rw [hpieces, if_pos rfl, hsum]
  · rw [hpieces, if_neg hne.symm, Nat.add_zero]

def aTab : BankTab := ⟨OrderedMap.empty.insert 0 BankItems.aReagent⟩

def aDeposit : Items.Item := ⟨9, 5, 19, [], false, true⟩

/-- Of nineteen reagents, seventeen go on the stack of three and two to the next slot. -/
theorem deposit_stored_nineteen :
    Deposits BankItems.reagents (aTab.seen aDeposit nullSlot false) aDeposit [(0, 17), (1, 2)] ∧
      (aTab.storeItem BankItems.reagents 10 aDeposit [(0, 17), (1, 2)]).1.pieces 5 =
        aTab.pieces 5 + 19 := by
  have hstore : aTab.canStore BankItems.reagents (fun _ => false) nullSlot aDeposit false =
      (.ok, [(0, 17), (1, 2)]) := by
    decide +kernel
  have habsent : ∀ dest ∈ aTab.items, dest.guid ≠ aDeposit.guid := by
    decide +kernel
  obtain ⟨hdep, -, hstored⟩ := deposit_stored hstore (Or.inr rfl)
  exact ⟨hdep, (hstored aTab 10 (leaves_of_absent habsent)).1⟩

end BankTab
end Cataclysm.Guilds
