import Cataclysm.Auction.Custody

/-!
# Selling several stacks

A request to sell lists stacks with the count that is wanted of each. When it is accepted, all of
them together become the item of one auction: what that item counts is what the stacks have lost.

## Implementation notes

The checks look at every stack before anything is taken, and after the deposit is taken nothing can
fail any more: a clone for a count that was checked against the stack size is always made.
-/

namespace Cataclysm.Auction
open Runs

namespace House

variable {h : House} {s : Session} {request : SellRequest} {player : Guid}

/-- The request passes the checks, and the seller can pay the deposit. -/
def AcceptsSell (h : House) (s : Session) (request : SellRequest) : Prop :=
  ∃ first rest, h.checkSell s request = some (first, rest) ∧
    hasEnoughMoney (h.money s.player) (sellDeposit s request first rest) = true

/-- What is left of a stack in an inventory. -/
def leftOver (player : Guid) (item : Item) (count : Nat) : Option (Guid × Item) :=
  if item.count = count then none else some (player, { item with count := item.count - count })

/-- The counts of the request went from the listed stacks into the item of one new auction. -/
structure Assembled (h h' : House) (player : Guid) (items : List (Nat × Nat)) : Prop where
  distinct : (items.map Prod.fst).Nodup
  taken : ∀ listed ∈ items, ∃ item, h.inventory.find? listed.1 = some (player, item) ∧
    listed.2 ≤ item.count ∧ h'.inventory.find? listed.1 = leftOver player item listed.2
  others : ∀ guid, guid ∉ items.map Prod.fst →
    h'.inventory.find? guid = h.inventory.find? guid
  auction : ∃ auction item, h'.auctions = h.auctions.insert h.nextAuctionId auction ∧
    h'.aItems = h.aItems.insert item.guid item ∧ auction.itemGUIDLow = item.guid ∧
    auction.itemCount = item.count ∧ item.count = (items.map Prod.snd).sum ∧
    ∀ listed ∈ items, ∀ held, h.inventory.find? listed.1 = some held → held.2.entry = item.entry

/-! ### The stacks of a request -/

/-- A traversal that can be undone gives back the list. -/
theorem map_of_mapM {α β : Type*} {f : α → Option β} {g : β → α} {l : List α} {l' : List β}
    (hg : ∀ a b, f a = some b → g b = a) (h : l.mapM f = some l') : l'.map g = l := by
  induction l generalizing l' with
  | nil =>
    simp only [List.mapM_nil, Option.pure_def, Option.some.injEq] at h
    rw [← h, List.map_nil]
  | cons a rest ih =>
    simp only [List.mapM_cons, Option.pure_def, Option.bind_eq_bind, Option.bind_eq_some_iff,
      Option.some.injEq] at h
    obtain ⟨b, hb, tail, htail, rfl⟩ := h
    rw [List.map_cons, hg a b hb, ih htail]

/-- The stack as the request lists it. -/
def listing (stack : Item × Nat) : Nat × Nat := (stack.1.guid, stack.2)

/-- What the checks make sure of. -/
structure Checked (items : List (Nat × Nat)) (first : Item × Nat) (rest : List (Item × Nat)) :
    Prop where
  listed : (first :: rest).map listing = items
  distinct : (items.map Prod.fst).Nodup
  sameEntry : ∀ stack ∈ first :: rest, stack.1.entry = first.1.entry
  enough : ∀ stack ∈ first :: rest, stack.2 ≤ stack.1.count
  fits : finalCount (first :: rest) ≤ first.1.maxStackCount

theorem checked_checkSell (hc : h.Custody) {first : Item × Nat} {rest : List (Item × Nat)}
    (hcheck : h.checkSell s request = some (first, rest)) : Checked request.items first rest := by
  rw [checkSell] at hcheck
  iterate 6
    split at hcheck
    · cases hcheck
  split at hcheck
  · next first' rest' hfound =>
      dsimp only at hcheck
      split_ifs at hcheck with hstacks hdistinct hfits
      obtain ⟨rfl, rfl⟩ := Prod.mk.inj (Option.some.inj hcheck)
      have hall := List.any_eq_false.mp (Bool.eq_false_iff.mpr hstacks)
      refine ⟨map_of_mapM ?_ hfound, hdistinct, ?_, ?_, ?_⟩
      · rintro ⟨guid, count⟩ stack hstack
        obtain ⟨item, hitem, rfl⟩ := Option.map_eq_some_iff.mp hstack
        have hguid : item.guid = guid := hc.inventory_guid (getItemByGuid_eq_some hitem)
        rw [listing, hguid]
      · intro stack hstack
        have hstack' := hall stack hstack
        simp only [Bool.or_eq_true, not_or, decide_eq_true_eq, not_not] at hstack'
        exact hstack'.2
      · intro stack hstack
        have hstack' := hall stack hstack
        simp only [Bool.or_eq_true, not_or, decide_eq_true_eq] at hstack'
        exact not_lt.mp hstack'.1.2
      · have hfirst := List.any_eq_false.mp (Bool.eq_false_iff.mpr hfits) first' List.mem_cons_self
        exact not_lt.mp fun hlt => hfirst (decide_eq_true hlt)
  · cases hcheck

/-! ### Taking the stacks -/

theorem find?_takeStack (player : Guid) (inventory : OrderedMap Nat (Guid × Item))
    (stack : Item × Nat) (guid : Nat) :
    (takeStack player inventory stack).find? guid =
      if guid = stack.1.guid then leftOver player stack.1 stack.2
      else inventory.find? guid := by
  rw [takeStack, leftOver]
  split
  · rw [OrderedMap.find?_erase]
  · rw [OrderedMap.find?_insert]

/-- Each stack is taken once, and nothing else is touched. -/
theorem find?_takeStacks (player : Guid) {sold : List (Item × Nat)}
    (hdistinct : (sold.map fun stack => stack.1.guid).Nodup)
    (inventory : OrderedMap Nat (Guid × Item)) :
    (∀ stack ∈ sold, (sold.foldl (takeStack player) inventory).find? stack.1.guid =
        leftOver player stack.1 stack.2) ∧
      ∀ guid, guid ∉ (sold.map fun stack => stack.1.guid) →
        (sold.foldl (takeStack player) inventory).find? guid = inventory.find? guid := by
  induction sold generalizing inventory with
  | nil => exact ⟨fun _ hstack => absurd hstack List.not_mem_nil, fun _ _ => rfl⟩
  | cons stack rest ih =>
    obtain ⟨hnew, hdistinct⟩ := List.nodup_cons.mp hdistinct
    obtain ⟨hrest, hothers⟩ := ih hdistinct (takeStack player inventory stack)
    rw [List.foldl_cons]
    constructor
    · intro other hother
      rcases List.mem_cons.mp hother with rfl | hin
      · rw [hothers _ hnew, find?_takeStack, if_pos rfl]
      · exact hrest other hin
    · intro guid hguid
      rw [List.map_cons, List.mem_cons, not_or] at hguid
      rw [hothers guid hguid.2, find?_takeStack, if_neg hguid.1]

/-- What the seller has after an accepted request, whichever of the two ways it goes. -/
theorem inventory_handleAuctionSellItem (arith : Arithmetic) {first : Item × Nat}
    {rest : List (Item × Nat)} (hcheck : h.checkSell s request = some (first, rest))
    (hchecked : Checked request.items first rest)
    (hmoney : hasEnoughMoney (h.money s.player) (sellDeposit s request first rest) = true) :
    (handleAuctionSellItem arith h s request).inventory =
        (first :: rest).foldl (takeStack s.player) h.inventory ∧
      ∃ auction item,
        (handleAuctionSellItem arith h s request).auctions =
            h.auctions.insert h.nextAuctionId auction ∧
          (handleAuctionSellItem arith h s request).aItems = h.aItems.insert item.guid item ∧
          auction.itemGUIDLow = item.guid ∧ auction.itemCount = item.count ∧
          item.count = finalCount (first :: rest) ∧ item.entry = first.1.entry := by
  rw [handleAuctionSellItem, hcheck]
  dsimp only
  rw [hmoney, Bool.not_true, if_neg Bool.false_ne_true]
  split
  · next hwhole =>
      obtain ⟨rfl, hcount⟩ := hwhole
      refine ⟨?_, _, first.1, rfl, rfl, rfl, rfl, ?_, rfl⟩
      · rw [List.foldl_cons, List.foldl_nil, takeStack, if_pos hcount]
        rfl
      · rw [hcount, finalCount, List.map_singleton, List.sum_singleton]
  · exact ⟨rfl, _, _, rfl, rfl, rfl, rfl, min_eq_left hchecked.fits, rfl⟩

/-- A request to sell is refused without any change, or the counts that it lists go from the stacks
of the seller into the item of one auction. -/
theorem assembled_handleAuctionSellItem (hc : h.Custody) (arith : Arithmetic) (s : Session)
    (request : SellRequest) :
    (h.AcceptsSell s request →
      Assembled h (handleAuctionSellItem arith h s request) s.player request.items) ∧
    (¬ h.AcceptsSell s request → handleAuctionSellItem arith h s request = h) := by
  constructor
  · rintro ⟨first, rest, hcheck, hmoney⟩
    have hchecked := checked_checkSell hc hcheck
    have hheld := checkSell_held hc hcheck
    obtain ⟨hinventory, auction, item, hauctions, haItems, hguid, hcount, hfinal, hentry⟩ :=
      inventory_handleAuctionSellItem arith hcheck hchecked hmoney
    have hguids : ((first :: rest).map fun stack => stack.1.guid) = request.items.map Prod.fst := by
      rw [← hchecked.listed, List.map_map]
      rfl
    have hcounts : (first :: rest).map Prod.snd = request.items.map Prod.snd := by
      rw [← hchecked.listed, List.map_map]
      rfl
    obtain ⟨htaken, hothers⟩ := @find?_takeStacks s.player (first :: rest)
      (hguids ▸ hchecked.distinct) h.inventory
    have hstack : ∀ listed ∈ request.items, ∃ stack ∈ first :: rest, listing stack = listed := by
      intro listed hlisted
      rw [← hchecked.listed] at hlisted
      exact List.mem_map.mp hlisted
    refine ⟨hchecked.distinct, ?_, ?_, auction, item, hauctions, haItems, hguid, hcount, ?_, ?_⟩
    · intro listed hlisted
      obtain ⟨stack, hin, rfl⟩ := hstack listed hlisted
      refine ⟨stack.1, hheld stack hin, hchecked.enough stack hin, ?_⟩
      rw [hinventory]
      exact htaken stack hin
    · intro guid hguid
      rw [hinventory]
      exact hothers guid (hguids ▸ hguid)
    · rw [hfinal, finalCount, hcounts]
    · intro listed hlisted held hfind
      obtain ⟨stack, hin, rfl⟩ := hstack listed hlisted
      have hsame : held = (s.player, stack.1) := Option.some.inj (hfind.symm.trans (hheld stack hin))
      rw [hsame, hentry]
      exact hchecked.sameEntry stack hin
  · intro hrefused
    rw [handleAuctionSellItem]
    cases hcheck : h.checkSell s request with
    | none => rfl
    | some offered =>
      obtain ⟨first, rest⟩ := offered
      dsimp only
      rw [if_pos]
      rw [Bool.not_eq_true', Bool.eq_false_iff]
      exact fun hmoney => hrefused ⟨first, rest, hcheck, hmoney⟩

/-- The first player has two stacks. -/
def twoStacks : List Action :=
  [.earn 1 1000, .findItem 1 ⟨0, 25, 3, 20, true, false, false, 0⟩,
    .findItem 1 ⟨0, 25, 5, 20, true, false, false, 0⟩]

/-- Two of the first stack and all of the second are sold as one. -/
theorem twoStacks_assembled :
    Assembled (run (step .machine) start twoStacks)
      (handleAuctionSellItem .machine (run (step .machine) start twoStacks) (busySession 0)
        ⟨[(1, 2), (2, 5)], 1, 0, 720⟩) 1 [(1, 2), (2, 5)] := by
  have hcheck : (run (step .machine) start twoStacks).checkSell (busySession 0)
      ⟨[(1, 2), (2, 5)], 1, 0, 720⟩ = some ((⟨1, 25, 3, 20, true, false, false, 0⟩, 2),
        [(⟨2, 25, 5, 20, true, false, false, 0⟩, 5)]) := by decide +kernel
  exact (assembled_handleAuctionSellItem (custody_run twoStacks) .machine (busySession 0)
    ⟨[(1, 2), (2, 5)], 1, 0, 720⟩).1 ⟨_, _, hcheck, by decide +kernel⟩

end House
end Cataclysm.Auction
