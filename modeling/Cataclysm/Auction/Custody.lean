import Cataclysm.Auction.AuctionHouse

/-!
# Custody of auctioned items

An item is in an inventory, in the item map of the auction house or attached to a mail.
The item of an open auction is in the item map, and of that auction alone. When the
auction ends the item goes to the owner or the winner by mail.

One ending loses it: `SendAuctionWonMail` looks up the account of an offline winner only
for the log of the game masters' trades. When that log is off, an offline winner of an
expired auction has no account for it and the item is dropped.
-/

namespace Cataclysm.Auction
open Runs

namespace House

variable {h h' : House} {sent : List (Guid × Item)} {item : Item} {auction : AuctionEntry}
  {guid : Nat} {inventory : OrderedMap Nat (Guid × Item)}

/-- The attachments of all mails, with the receivers. -/
def attachments (h : House) : List (Guid × Item) :=
  h.mails.flatMap fun mail => mail.items.map fun item => (mail.receiver, item)

/-- How often an item is attached. -/
def attached (h : House) (guid : Nat) : Nat :=
  h.attachments.countP fun attachment => attachment.2.guid = guid

/-- The number of places where an item is. -/
def places (h : House) (guid : Nat) : Nat :=
  (h.inventory.contains guid).toNat + (h.aItems.contains guid).toNat + h.attached guid

/-- Each item is in one place at most, and what is stored is found under its own guid. -/
structure Custody (h : House) : Prop where
  places_le : ∀ guid, h.places guid ≤ 1
  places_fresh : ∀ guid, h.nextItemGuid ≤ guid → h.places guid = 0
  inventory_guid : ∀ {guid held}, h.inventory.find? guid = some held → held.2.guid = guid
  aItems_guid : ∀ {guid item}, h.aItems.find? guid = some item → item.guid = guid
  auction_id : ∀ {id auction}, h.auctions.find? id = some auction →
    auction.id = id ∧ id < h.nextAuctionId
  auction_item : ∀ {id auction}, h.auctions.find? id = some auction →
    h.aItems.contains auction.itemGUIDLow = true
  auction_unique : ∀ {id id' auction auction'}, h.auctions.find? id = some auction →
    h.auctions.find? id' = some auction' → auction.itemGUIDLow = auction'.itemGUIDLow → id = id'

/-- Nothing but mails, purses and charges differs, and the mails have these new attachments. -/
structure Posts (h h' : House) (sent : List (Guid × Item)) : Prop where
  auctions : h'.auctions = h.auctions
  aItems : h'.aItems = h.aItems
  inventory : h'.inventory = h.inventory
  nextAuctionId : h'.nextAuctionId = h.nextAuctionId
  nextItemGuid : h'.nextItemGuid = h.nextItemGuid
  attachments : h'.attachments = h.attachments ++ sent

theorem Posts.refl (h : House) : Posts h h [] :=
  ⟨rfl, rfl, rfl, rfl, rfl, by simp⟩

theorem Posts.trans {h'' : House} {sent' : List (Guid × Item)} (hp : Posts h h' sent)
    (hp' : Posts h' h'' sent') : Posts h h'' (sent ++ sent') where
  auctions := hp'.auctions.trans hp.auctions
  aItems := hp'.aItems.trans hp.aItems
  inventory := hp'.inventory.trans hp.inventory
  nextAuctionId := hp'.nextAuctionId.trans hp.nextAuctionId
  nextItemGuid := hp'.nextItemGuid.trans hp.nextItemGuid
  attachments := by rw [hp'.attachments, hp.attachments, List.append_assoc]

theorem posts_sendMailTo (h : House) (auction : AuctionEntry) (response : MailAuctionAnswers)
    (receiver : Guid) (body : MailBody) (money : Nat) (items : List Item) :
    Posts h (h.sendMailTo auction response receiver body money items)
      (items.map fun item => (receiver, item)) :=
  ⟨rfl, rfl, rfl, rfl, rfl, by simp [House.attachments, sendMailTo]⟩

theorem posts_modifyMoney (h : House) (player : Guid) (amount : Int) :
    Posts h (h.modifyMoney player amount) [] :=
  ⟨rfl, rfl, rfl, rfl, rfl, (List.append_nil _).symm⟩

theorem posts_chargeBidder (h : House) (id : Nat) (player : Guid) (amount : Int) :
    Posts h (h.chargeBidder id player amount) [] :=
  ⟨rfl, rfl, rfl, rfl, rfl, (List.append_nil _).symm⟩

theorem posts_sendAuctionOutbiddedMail (h : House) (r : Realm) (auction : AuctionEntry) :
    Posts h (h.sendAuctionOutbiddedMail r auction) [] := by
  rw [sendAuctionOutbiddedMail]
  split
  · exact posts_sendMailTo ..
  · exact Posts.refl h

theorem posts_sendAuctionSalePendingMail (h : House) (r : Realm) (auction : AuctionEntry) :
    Posts h (h.sendAuctionSalePendingMail r auction) [] := by
  rw [sendAuctionSalePendingMail]
  split
  · exact posts_sendMailTo ..
  · exact Posts.refl h

theorem posts_sendAuctionSuccessfulMail (arith : Arithmetic) (h : House) (r : Realm)
    (auction : AuctionEntry) : Posts h (sendAuctionSuccessfulMail arith h r auction) [] := by
  rw [sendAuctionSuccessfulMail]
  split
  · exact posts_sendMailTo ..
  · exact Posts.refl h

theorem posts_sendAuctionCancelledToBidderMail (h : House) (r : Realm) (auction : AuctionEntry) :
    Posts h (h.sendAuctionCancelledToBidderMail r auction) [] := by
  rw [sendAuctionCancelledToBidderMail]
  split
  · exact posts_sendMailTo ..
  · exact Posts.refl h

theorem posts_refundBidder (arith : Arithmetic) (h : House) (s : Session)
    (auction : AuctionEntry) : Posts h (refundBidder arith h s auction) [] := by
  rw [refundBidder]
  split
  · exact (posts_sendAuctionCancelledToBidderMail ..).trans (posts_modifyMoney ..)
  · exact Posts.refl h

theorem posts_payBuyout (arith : Arithmetic) (h : House) (s : Session) (auction : AuctionEntry) :
    Posts h (payBuyout arith h s auction) [] := by
  rw [payBuyout]
  split
  · exact posts_chargeBidder ..
  · dsimp only
    split
    · exact (posts_chargeBidder ..).trans (posts_sendAuctionOutbiddedMail ..)
    · exact posts_chargeBidder ..

/-- The winner gets the item when he is online or his account was looked up. -/
theorem posts_sendAuctionWonMail (r : Realm) (auction : AuctionEntry)
    (hitem : h.aItems.find? auction.itemGUIDLow = some item) :
    Posts h (h.sendAuctionWonMail r auction)
      (if r.findPlayer auction.bidder || r.bidderAccId auction.bidder ≠ 0 then
        [(auction.bidder, item)] else []) := by
  rw [sendAuctionWonMail, hitem]
  dsimp only
  split
  · exact posts_sendMailTo ..
  · exact Posts.refl h

theorem posts_sendAuctionExpiredMail (r : Realm)
    (hitem : h.aItems.find? auction.itemGUIDLow = some item) :
    Posts h (h.sendAuctionExpiredMail r auction)
      (if r.exists? auction.owner then [(auction.owner, item)] else []) := by
  rw [sendAuctionExpiredMail, hitem]
  dsimp only
  split
  · exact posts_sendMailTo ..
  · exact Posts.refl h

theorem posts_placeBid (arith : Arithmetic) (h : House) (s : Session) (auction : AuctionEntry)
    (price : Nat) : ∃ h', Posts h h' [] ∧ placeBid arith h s auction price =
      { h' with
        auctions := h'.auctions.insert auction.id
          { auction with bidder := s.player, bid := arith.uint32 price } } := by
  rw [placeBid]
  refine ⟨_, ?_, rfl⟩
  split
  · split
    · exact posts_chargeBidder ..
    · exact (posts_sendAuctionOutbiddedMail ..).trans (posts_chargeBidder ..)
  · exact posts_chargeBidder ..

theorem Posts.attached (hp : Posts h h' sent) (guid : Nat) :
    h'.attached guid = h.attached guid + sent.countP fun a => a.2.guid = guid := by
  rw [House.attached, hp.attachments, List.countP_append, House.attached]

theorem Posts.places (hp : Posts h h' []) (guid : Nat) : h'.places guid = h.places guid := by
  rw [House.places, hp.inventory, hp.aItems, hp.attached]
  rfl

theorem Custody.posts (hc : h.Custody) (hp : Posts h h' []) : h'.Custody where
  places_le := fun guid => hp.places guid ▸ hc.places_le guid
  places_fresh := fun guid hguid => by
    rw [hp.places]
    exact hc.places_fresh guid (hp.nextItemGuid ▸ hguid)
  inventory_guid := fun hfind => hc.inventory_guid (hp.inventory ▸ hfind)
  aItems_guid := fun hfind => hc.aItems_guid (hp.aItems ▸ hfind)
  auction_id := fun hfind => hp.nextAuctionId ▸ hc.auction_id (hp.auctions ▸ hfind)
  auction_item := fun hfind => hp.aItems ▸ hc.auction_item (hp.auctions ▸ hfind)
  auction_unique := fun hfind hfind' => hc.auction_unique (hp.auctions ▸ hfind)
    (hp.auctions ▸ hfind')

/-- An item in the item map is nowhere else. -/
theorem Custody.only_in_house (hc : h.Custody) (hitem : h.aItems.contains guid = true) :
    h.inventory.contains guid = false ∧ h.attached guid = 0 := by
  have hplaces := hc.places_le guid
  rw [places, hitem, Bool.toNat_true] at hplaces
  cases hinventory : h.inventory.contains guid with
  | false => exact ⟨rfl, by omega⟩
  | true =>
    rw [hinventory, Bool.toNat_true] at hplaces
    omega

/-- The item of an auction leaves the item map with its auction, and may be attached once. -/
theorem Custody.close (hc : h.Custody) (hfind : h.auctions.find? auction.id = some auction)
    (hitem : h.aItems.find? auction.itemGUIDLow = some item) (hp : Posts h h' sent)
    (hsent : sent = [] ∨ ∃ receiver, sent = [(receiver, item)]) {gone : AuctionEntry}
    (hid : gone.id = auction.id) (hguid : gone.itemGUIDLow = auction.itemGUIDLow) :
    (h'.removeAuction gone).Custody := by
  have hcount : ∀ guid, (sent.countP fun a => a.2.guid = guid) ≤
      if guid = auction.itemGUIDLow then 1 else 0 := by
    intro guid
    have hkey := hc.aItems_guid hitem
    rcases hsent with rfl | ⟨receiver, rfl⟩
    · exact Nat.zero_le _
    · simp [List.countP_cons, hkey, eq_comm]
  have hplaces : ∀ guid, (h'.removeAuction gone).places guid ≤ h.places guid := by
    intro guid
    have hattached := hp.attached guid
    have hsome := hcount guid
    have hcontains := OrderedMap.contains_erase h.aItems auction.itemGUIDLow guid
    rw [places, places, removeAuction, hp.inventory, hp.aItems, hguid, hcontains]
    show _ + _ + h'.attached guid ≤ _
    rw [hattached]
    by_cases heq : guid = auction.itemGUIDLow
    · subst heq
      rw [OrderedMap.contains_of_find? hitem]
      simp only [if_true] at hsome
      simp
      omega
    · rw [if_neg heq] at hsome
      rw [Nat.le_zero.mp hsome]
      simp [heq]
  refine ⟨fun guid => (hplaces guid).trans (hc.places_le guid), fun guid hguid => ?_,
    fun hheld => hc.inventory_guid (hp.inventory ▸ hheld), ?_, ?_, ?_, ?_⟩
  · have hzero := hc.places_fresh guid (hp.nextItemGuid ▸ hguid)
    exact Nat.le_zero.mp (hzero ▸ hplaces guid)
  · intro guid other hother
    rw [removeAuction, hp.aItems, OrderedMap.find?_erase] at hother
    split at hother
    · cases hother
    · exact hc.aItems_guid hother
  · intro k other hother
    rw [removeAuction, hp.auctions, OrderedMap.find?_erase] at hother
    split at hother
    · cases hother
    · exact hp.nextAuctionId ▸ hc.auction_id hother
  · intro k other hother
    rw [removeAuction, hp.auctions, OrderedMap.find?_erase] at hother
    split at hother
    · cases hother
    · next hk =>
        have hne : other.itemGUIDLow ≠ auction.itemGUIDLow := fun heq =>
          hk (hid ▸ hc.auction_unique hother hfind heq)
        rw [removeAuction, hp.aItems, OrderedMap.contains_erase, hguid, hc.auction_item hother]
        simpa using hne
  · intro k k' other other' hother hother' heq
    rw [removeAuction, hp.auctions, OrderedMap.find?_erase] at hother hother'
    split at hother
    · cases hother
    · split at hother'
      · cases hother'
      · exact hc.auction_unique hother hother' heq

/-- An auction that gets a new bid keeps its item. -/
theorem Custody.restore (hc : h.Custody) {auction' : AuctionEntry}
    (hfind : h.auctions.find? auction.id = some auction) (hid : auction'.id = auction.id)
    (hguid : auction'.itemGUIDLow = auction.itemGUIDLow) :
    ({ h with auctions := h.auctions.insert auction.id auction' } : House).Custody where
  places_le := hc.places_le
  places_fresh := hc.places_fresh
  inventory_guid := hc.inventory_guid
  aItems_guid := hc.aItems_guid
  auction_id := by
    intro k other hother
    rw [OrderedMap.find?_insert] at hother
    split at hother
    · next hk =>
        obtain rfl := Option.some.inj hother
        exact ⟨hid.trans hk.symm, hk ▸ (hc.auction_id hfind).2⟩
    · exact hc.auction_id hother
  auction_item := by
    intro k other hother
    rw [OrderedMap.find?_insert] at hother
    split at hother
    · obtain rfl := Option.some.inj hother
      exact hguid ▸ hc.auction_item hfind
    · exact hc.auction_item hother
  auction_unique := by
    intro k k' other other' hother hother' heq
    -- up to the bid, both are the auctions that were open before
    have hbefore : ∀ {k other}, (h.auctions.insert auction.id auction').find? k = some other →
        ∃ old, h.auctions.find? k = some old ∧ old.itemGUIDLow = other.itemGUIDLow := by
      intro k other hother
      rw [OrderedMap.find?_insert] at hother
      split at hother
      · next hk =>
          obtain rfl := Option.some.inj hother
          exact ⟨auction, hk ▸ hfind, hguid.symm⟩
      · exact ⟨other, hother, rfl⟩
    obtain ⟨old, hold, hsame⟩ := hbefore hother
    obtain ⟨old', hold', hsame'⟩ := hbefore hother'
    exact hc.auction_unique hold hold' (hsame.trans (heq.trans hsame'.symm))

/-- A new auction takes an item that is not in the house yet. -/
theorem Custody.addAuction (hc : h.Custody) (arith : Arithmetic) (owner : Guid)
    (request : SellRequest) (deposit : Nat) {next : Nat}
    (hinventory : ∀ guid, inventory.contains guid = true → h.inventory.contains guid = true)
    (hkeys : ∀ {guid held}, inventory.find? guid = some held → held.2.guid = guid)
    (hnext : h.nextItemGuid ≤ next) (hlt : item.guid < next)
    (habsent : h.aItems.contains item.guid = false) (hunattached : h.attached item.guid = 0)
    (htaken : inventory.contains item.guid = false) :
    ({ House.addAuction arith h owner request deposit item with
        inventory := inventory, nextItemGuid := next } : House).Custody := by
  have hplaces : ∀ guid, ({ House.addAuction arith h owner request deposit item with
      inventory := inventory, nextItemGuid := next } : House).places guid ≤
      if guid = item.guid then 1 else h.places guid := by
    intro guid
    show (inventory.contains guid).toNat + ((h.aItems.insert item.guid item).contains guid).toNat +
      h.attached guid ≤ _
    rw [OrderedMap.contains_insert]
    by_cases heq : guid = item.guid
    · subst heq
      simp [htaken, hunattached]
    · have hmono : (inventory.contains guid).toNat ≤ (h.inventory.contains guid).toNat := by
        cases hheld : inventory.contains guid with
        | false => exact Nat.zero_le _
        | true => rw [hinventory guid hheld]
      rw [if_neg heq, places]
      simp only [heq, decide_false, Bool.false_or]
      omega
  have hfind : ∀ k, (House.addAuction arith h owner request deposit item).auctions.find? k =
      if k = h.nextAuctionId then _ else h.auctions.find? k := fun k => OrderedMap.find?_insert ..
  refine ⟨fun guid => (hplaces guid).trans ?_, fun guid hguid => ?_, hkeys, ?_, ?_, ?_, ?_⟩
  · split
    · exact le_rfl
    · exact hc.places_le guid
  · have hne : guid ≠ item.guid := by
      have hge : next ≤ guid := hguid
      omega
    have hzero := hplaces guid
    rw [if_neg hne, hc.places_fresh guid (hnext.trans hguid)] at hzero
    exact Nat.le_zero.mp hzero
  · intro guid other hother
    simp only [House.addAuction, OrderedMap.find?_insert] at hother
    split at hother
    · next hguid => rw [← Option.some.inj hother, hguid]
    · exact hc.aItems_guid hother
  · intro k other hother
    rw [hfind] at hother
    split at hother
    · next hk =>
        obtain rfl := Option.some.inj hother
        exact ⟨hk.symm, hk ▸ Nat.lt_succ_self _⟩
    · obtain ⟨hid, hlt⟩ := hc.auction_id hother
      exact ⟨hid, Nat.lt_succ_of_lt hlt⟩
  · intro k other hother
    rw [hfind] at hother
    simp only [House.addAuction, OrderedMap.contains_insert]
    split at hother
    · obtain rfl := Option.some.inj hother
      simp
    · rw [hc.auction_item hother, Bool.or_true]
  · intro k k' other other' hother hother' heq
    have hnew : ∀ {k other}, h.auctions.find? k = some other → other.itemGUIDLow ≠ item.guid := by
      intro k other hother hguid
      rw [← hguid, hc.auction_item hother] at habsent
      cases habsent
    rw [hfind] at hother hother'
    split at hother
    · next hk =>
        split at hother'
        · next hk' => exact hk.trans hk'.symm
        · obtain rfl := Option.some.inj hother
          exact absurd heq.symm (hnew hother')
    · split at hother'
      · obtain rfl := Option.some.inj hother'
        exact absurd heq (hnew hother)
      · exact hc.auction_unique hother hother' heq

/-- Every element of a successful traversal comes from an element that passed. -/
theorem exists_of_mem_mapM {α β : Type*} {f : α → Option β} {l : List α} {l' : List β}
    (h : l.mapM f = some l') {b : β} (hb : b ∈ l') : ∃ a ∈ l, f a = some b := by
  induction l generalizing l' with
  | nil =>
    simp only [List.mapM_nil, Option.pure_def, Option.some.injEq] at h
    simp [← h] at hb
  | cons a rest ih =>
    simp only [List.mapM_cons, Option.pure_def, Option.bind_eq_bind, Option.bind_eq_some_iff,
      Option.some.injEq] at h
    obtain ⟨b', hb', tail, htail, rfl⟩ := h
    rcases List.mem_cons.mp hb with rfl | hb
    · exact ⟨a, by simp, hb'⟩
    · obtain ⟨x, hx, hfx⟩ := ih htail hb
      exact ⟨x, by simp [hx], hfx⟩

theorem getItemByGuid_eq_some {player : Guid} (hget : h.getItemByGuid player guid = some item) :
    h.inventory.find? guid = some (player, item) := by
  rw [getItemByGuid] at hget
  cases hfind : h.inventory.find? guid with
  | none => simp [hfind] at hget
  | some held =>
    simp only [hfind] at hget
    split at hget
    · next howner => rw [← howner, ← Option.some.inj hget]
    · cases hget

/-- A seller has all that he sells. -/
theorem checkSell_held (hc : h.Custody) {s : Session} {request : SellRequest} {first : Item × Nat}
    {rest : List (Item × Nat)} (hcheck : h.checkSell s request = some (first, rest)) :
    ∀ stack ∈ first :: rest, h.inventory.find? stack.1.guid = some (s.player, stack.1) := by
  rw [checkSell] at hcheck
  iterate 6
    split at hcheck
    · cases hcheck
  split at hcheck
  · next first' rest' hfound =>
      dsimp only at hcheck
      split_ifs at hcheck
      obtain ⟨rfl, rfl⟩ := Prod.mk.inj (Option.some.inj hcheck)
      intro stack hstack
      obtain ⟨wanted, -, hwanted⟩ := exists_of_mem_mapM hfound hstack
      obtain ⟨item, hitem, rfl⟩ := Option.map_eq_some_iff.mp hwanted
      have hheld := getItemByGuid_eq_some hitem
      have hguid : item.guid = wanted.1 := hc.inventory_guid hheld
      rw [hguid]
      exact hheld
  · cases hcheck

theorem foldl_takeStack (player : Guid) {stacked : List (Item × Nat)}
    {inventory' : OrderedMap Nat (Guid × Item)}
    (hheld : ∀ stack ∈ stacked, inventory.contains stack.1.guid = true)
    (hsub : ∀ guid, inventory'.contains guid = true → inventory.contains guid = true)
    (hkeys : ∀ {guid held}, inventory'.find? guid = some held → held.2.guid = guid) :
    (∀ guid, (stacked.foldl (takeStack player) inventory').contains guid = true →
      inventory.contains guid = true) ∧
    ∀ {guid held}, (stacked.foldl (takeStack player) inventory').find? guid = some held →
      held.2.guid = guid := by
  induction stacked generalizing inventory' with
  | nil => exact ⟨hsub, hkeys⟩
  | cons stack rest ih =>
    refine ih (fun stack hstack => hheld stack (by simp [hstack])) ?_ ?_
    · intro guid hguid
      rw [takeStack] at hguid
      split at hguid
      · rw [OrderedMap.contains_erase, Bool.and_eq_true] at hguid
        exact hsub guid hguid.2
      · rw [OrderedMap.contains_insert, Bool.or_eq_true, decide_eq_true_eq] at hguid
        rcases hguid with rfl | hguid
        · exact hheld stack (by simp)
        · exact hsub guid hguid
    · intro guid held hfind
      rw [takeStack] at hfind
      split at hfind
      · rw [OrderedMap.find?_erase] at hfind
        split at hfind
        · cases hfind
        · exact hkeys hfind
      · rw [OrderedMap.find?_insert] at hfind
        split at hfind
        · next hguid => rw [← Option.some.inj hfind, hguid]
        · exact hkeys hfind

theorem Custody.handleAuctionSellItem (hc : h.Custody) (arith : Arithmetic) (s : Session)
    (request : SellRequest) : (handleAuctionSellItem arith h s request).Custody := by
  rw [House.handleAuctionSellItem]
  cases hcheck : h.checkSell s request with
  | none => exact hc
  | some offered =>
    obtain ⟨first, rest⟩ := offered
    have hheld := checkSell_held hc hcheck
    have hfirst := OrderedMap.contains_of_find? (hheld first (by simp))
    have hone := hc.places_le first.1.guid
    rw [places, hfirst, Bool.toNat_true] at hone
    dsimp only
    split
    · exact hc
    · have hpaid := hc.posts (posts_modifyMoney h s.player
        (-(arith.int32 (sellDeposit s request first rest))))
      split
      · have hlt : first.1.guid < h.nextItemGuid := by
          by_contra hge
          have hzero := hc.places_fresh first.1.guid (not_lt.mp hge)
          rw [places, hfirst, Bool.toNat_true] at hzero
          omega
        refine hpaid.addAuction arith s.player request _ ?_ ?_ le_rfl hlt ?_ ?_ ?_
        · intro guid hguid
          rw [OrderedMap.contains_erase, Bool.and_eq_true] at hguid
          exact hguid.2
        · intro guid held hfind
          rw [OrderedMap.find?_erase] at hfind
          split at hfind
          · cases hfind
          · exact hpaid.inventory_guid hfind
        · cases hin : h.aItems.contains first.1.guid with
          | false => exact hin
          | true =>
            rw [hin, Bool.toNat_true] at hone
            omega
        · show h.attached first.1.guid = 0
          omega
        · rw [OrderedMap.contains_erase]
          simp
      · have hfresh := hc.places_fresh h.nextItemGuid le_rfl
        have hnowhere : h.inventory.contains h.nextItemGuid = false ∧
            h.aItems.contains h.nextItemGuid = false ∧ h.attached h.nextItemGuid = 0 := by
          rw [places, Nat.add_eq_zero_iff, Nat.add_eq_zero_iff, Bool.toNat_eq_zero,
            Bool.toNat_eq_zero] at hfresh
          exact ⟨hfresh.1.1, hfresh.1.2, hfresh.2⟩
        obtain ⟨hsub, hkeys⟩ := foldl_takeStack s.player
          (fun stack hstack => OrderedMap.contains_of_find? (hheld stack hstack))
          (fun _ hguid => hguid) hc.inventory_guid
        refine hpaid.addAuction arith s.player request _ hsub hkeys (Nat.le_succ _)
          (Nat.lt_succ_self _) hnowhere.2.1 hnowhere.2.2 ?_
        by_contra hin
        rw [Bool.not_eq_false] at hin
        have hold := hsub h.nextItemGuid hin
        rw [hnowhere.1] at hold
        cases hold

theorem Custody.findItem (hc : h.Custody) (player : Guid) (item : Item) :
    (step .machine h (.findItem player item)).Custody := by
  have hfresh := hc.places_fresh h.nextItemGuid le_rfl
  have hplaces : ∀ guid, (step .machine h (.findItem player item)).places guid =
      if guid = h.nextItemGuid then 1 else h.places guid := by
    intro guid
    show ((h.inventory.insert h.nextItemGuid _).contains guid).toNat +
      (h.aItems.contains guid).toNat + h.attached guid = _
    rw [OrderedMap.contains_insert]
    by_cases heq : guid = h.nextItemGuid
    · subst heq
      rw [places] at hfresh
      simp
      omega
    · simp [heq, places]
  refine ⟨fun guid => ?_, fun guid hguid => ?_, ?_, hc.aItems_guid, hc.auction_id,
    hc.auction_item, hc.auction_unique⟩
  · rw [hplaces]
    split
    · exact le_rfl
    · exact hc.places_le guid
  · have hge : h.nextItemGuid + 1 ≤ guid := hguid
    rw [hplaces, if_neg (by omega)]
    exact hc.places_fresh guid (by omega)
  · intro guid held hfind
    simp only [step, OrderedMap.find?_insert] at hfind
    split at hfind
    · next hguid => rw [← Option.some.inj hfind, hguid]
    · exact hc.inventory_guid hfind

theorem foldl_insert_items (receiver : Guid) (items : List Item)
    (inventory : OrderedMap Nat (Guid × Item)) (guid : Nat) :
    (items.foldl (fun inventory item => inventory.insert item.guid (receiver, item))
      inventory).contains guid =
      (inventory.contains guid || items.any fun item => item.guid = guid) := by
  induction items generalizing inventory with
  | nil => simp
  | cons item rest ih =>
    rw [List.foldl_cons, ih, OrderedMap.contains_insert, List.any_cons]
    by_cases hguid : guid = item.guid
    · simp [hguid]
    · simp [hguid, Ne.symm hguid]

theorem foldl_insert_keys (receiver : Guid) (items : List Item)
    (hkeys : ∀ {guid held}, inventory.find? guid = some held → held.2.guid = guid)
    {held : Guid × Item}
    (hfind : (items.foldl (fun inventory item => inventory.insert item.guid (receiver, item))
      inventory).find? guid = some held) : held.2.guid = guid := by
  induction items generalizing inventory with
  | nil => exact hkeys hfind
  | cons item rest ih =>
    refine ih ?_ hfind
    intro guid held hfind
    rw [OrderedMap.find?_insert] at hfind
    split at hfind
    · next hguid => rw [← Option.some.inj hfind, hguid]
    · exact hkeys hfind

/-- The attachments of a mail and those of all others. -/
theorem attached_split {index : Nat} {mail : Mail} (hget : h.mails[index]? = some mail)
    (guid : Nat) :
    h.attached guid = (h.takeMailItems index).attached guid +
      mail.items.countP fun item => item.guid = guid := by
  obtain ⟨hlt, hmail⟩ := List.getElem?_eq_some_iff.mp hget
  have hbefore : h.mails = h.mails.take index ++ mail :: h.mails.drop (index + 1) := by
    rw [← hmail, List.getElem_cons_drop, List.take_append_drop]
  have hafter : (h.takeMailItems index).mails =
      h.mails.take index ++ { mail with items := [] } :: h.mails.drop (index + 1) := by
    rw [House.takeMailItems, hget]
    exact List.set_eq_take_append_cons_drop.trans (if_pos hlt)
  rw [attached, attachments, hbefore, attached, attachments, hafter]
  simp only [List.flatMap_append, List.flatMap_cons, List.countP_append, List.countP_map,
    List.map_nil, List.countP_nil, Function.comp_def]
  omega

theorem Custody.takeMailItems (hc : h.Custody) (index : Nat) : (h.takeMailItems index).Custody := by
  cases hget : h.mails[index]? with
  | none =>
    rw [House.takeMailItems, hget]
    exact hc
  | some mail =>
    have hinventory : (h.takeMailItems index).inventory = mail.items.foldl
        (fun inventory item => inventory.insert item.guid (mail.receiver, item))
        h.inventory := by
      rw [House.takeMailItems, hget]
    have hsame : (h.takeMailItems index).auctions = h.auctions ∧
        (h.takeMailItems index).aItems = h.aItems ∧
        (h.takeMailItems index).nextAuctionId = h.nextAuctionId ∧
        (h.takeMailItems index).nextItemGuid = h.nextItemGuid := by
      rw [House.takeMailItems, hget]
      exact ⟨rfl, rfl, rfl, rfl⟩
    obtain ⟨hauctions, haItems, hnextId, hnextGuid⟩ := hsame
    have hplaces : ∀ guid, (h.takeMailItems index).places guid = h.places guid := by
      intro guid
      have hsplit := attached_split hget guid
      have hone := hc.places_le guid
      rw [places, hinventory, foldl_insert_items, haItems, places]
      rw [places] at hone
      cases hany : mail.items.any fun item => item.guid = guid with
      | false =>
        have hzero : (mail.items.countP fun item => item.guid = guid) = 0 := by
          rw [List.countP_eq_zero]
          simpa using hany
        rw [Bool.or_false]
        omega
      | true =>
        have hpos : 0 < mail.items.countP fun item => item.guid = guid := by
          rw [List.countP_pos_iff]
          simpa using hany
        rw [Bool.or_true, Bool.toNat_true]
        omega
    refine ⟨fun guid => (hplaces guid).trans_le (hc.places_le guid), fun guid hguid => ?_,
      fun hfind => ?_, fun hfind => hc.aItems_guid (haItems ▸ hfind),
      fun hfind => hnextId ▸ hc.auction_id (hauctions ▸ hfind),
      fun hfind => haItems ▸ hc.auction_item (hauctions ▸ hfind),
      fun hfind hfind' => hc.auction_unique (hauctions ▸ hfind) (hauctions ▸ hfind')⟩
    · rw [hplaces]
      exact hc.places_fresh guid (hnextGuid ▸ hguid)
    · rw [hinventory] at hfind
      exact foldl_insert_keys mail.receiver mail.items hc.inventory_guid hfind

/-! ## Endings -/

/-- The auction is gone, and the mails have these new attachments. -/
def Closes (h h' : House) (auction : AuctionEntry) (sent : List (Guid × Item)) : Prop :=
  ∃ posted gone, Posts h posted sent ∧ gone.id = auction.id ∧
    gone.itemGUIDLow = auction.itemGUIDLow ∧ h' = posted.removeAuction gone

/-- The requests and the update that can end an auction. -/
def Action.ends : Action → Bool
  | .placeBid .. | .cancel .. | .expire .. => true
  | _ => false

/-- What an ending attaches to mails. -/
def sentFor (auction : AuctionEntry) (item : Item) : Action → List (Guid × Item)
  | .placeBid s _ _ => [(s.player, item)]
  | .cancel _ _ => [(auction.owner, item)]
  | .expire r _ =>
    if auction.bidder = 0 then
      if r.exists? auction.owner then [(auction.owner, item)] else []
    else if r.findPlayer auction.bidder || r.bidderAccId auction.bidder ≠ 0 then
      [(auction.bidder, item)] else []
  | _ => []

theorem closes_buyOut (arith : Arithmetic) (s : Session)
    (hitem : h.aItems.find? auction.itemGUIDLow = some item) :
    Closes h (buyOut arith h s auction) auction [(s.player, item)] := by
  have hbefore := ((posts_payBuyout arith h s auction).trans
    (posts_sendAuctionSalePendingMail _ s.toRealm
      { auction with bidder := s.player, bid := auction.buyout })).trans
    (posts_sendAuctionSuccessfulMail arith _ s.toRealm
      { auction with bidder := s.player, bid := auction.buyout })
  have hwon := posts_sendAuctionWonMail s.toRealm
    { auction with bidder := s.player, bid := auction.buyout }
    ((congrArg (OrderedMap.find? · auction.itemGUIDLow) hbefore.aItems).trans hitem)
  rw [s.player_online, Bool.true_or, if_pos rfl] at hwon
  exact ⟨_, _, hbefore.trans hwon, rfl, rfl, rfl⟩

theorem closes_expire (arith : Arithmetic) (r : Realm) {id : Nat}
    (hfind : h.auctions.find? id = some auction)
    (hitem : h.aItems.find? auction.itemGUIDLow = some item) :
    Closes h (expire arith h r id) auction (sentFor auction item (.expire r id)) := by
  rw [expire, hfind, sentFor]
  dsimp only
  split
  · exact ⟨_, _, posts_sendAuctionExpiredMail r hitem, rfl, rfl, rfl⟩
  · have hpaid := posts_sendAuctionSuccessfulMail arith h r auction
    have hwon := posts_sendAuctionWonMail r auction
      ((congrArg (OrderedMap.find? · auction.itemGUIDLow) hpaid.aItems).trans hitem)
    exact ⟨_, _, hpaid.trans hwon, rfl, rfl, rfl⟩

theorem Custody.find_item (hc : h.Custody) {id : Nat} (hfind : h.auctions.find? id = some auction) :
    ∃ item, h.aItems.find? auction.itemGUIDLow = some item :=
  Option.isSome_iff_exists.mp (hc.auction_item hfind)

/-- A step ends one auction, or it leaves every auction open. -/
theorem Custody.step_cases (hc : h.Custody) (action : Action) :
    ((step .machine h action).Custody ∧ ∀ {id}, h.auctions.find? id ≠ none →
      (step .machine h action).auctions.find? id ≠ none) ∨
    ∃ auction item, action.ends = true ∧ h.auctions.find? auction.id = some auction ∧
      h.aItems.find? auction.itemGUIDLow = some item ∧
      Closes h (step .machine h action) auction (sentFor auction item action) := by
  cases action with
  | sell s request =>
    refine Or.inl ⟨hc.handleAuctionSellItem .machine s request, fun {id} hid => ?_⟩
    have hadd : ∀ {h' : House} {owner : Guid} {deposit : Nat} {item : Item},
        h'.auctions = h.auctions →
        (House.addAuction .machine h' owner request deposit item).auctions.find? id ≠ none := by
      intro h' owner deposit item hsame
      rw [House.addAuction, OrderedMap.find?_insert, hsame]
      split
      · exact Option.some_ne_none _
      · exact hid
    rw [step, House.handleAuctionSellItem]
    cases h.checkSell s request with
    | none => exact hid
    | some offered =>
      obtain ⟨first, rest⟩ := offered
      dsimp only
      split_ifs
      · exact hid
      · exact hadd rfl
      · exact hadd rfl
  | placeBid s id price =>
    rw [step, handleAuctionPlaceBid]
    cases htarget : h.bidTarget s id price with
    | none => exact Or.inl ⟨hc, fun hid => hid⟩
    | some auction =>
      have hfind : h.auctions.find? id = some auction := by
        rw [bidTarget] at htarget
        split at htarget
        · cases htarget
        · split at htarget
          · cases htarget
          · next found hfound =>
              split_ifs at htarget
              rw [hfound, htarget]
      obtain rfl := (hc.auction_id hfind).1
      dsimp only
      split_ifs
      · exact Or.inl ⟨hc, fun hid => hid⟩
      · exact Or.inl ⟨hc, fun hid => hid⟩
      · obtain ⟨h', hp, hbid⟩ := posts_placeBid .machine h s auction price
        rw [hbid]
        refine Or.inl ⟨(hc.posts hp).restore (hp.auctions ▸ hfind) rfl rfl, fun {k} hk => ?_⟩
        rw [OrderedMap.find?_insert, hp.auctions]
        split
        · exact Option.some_ne_none _
        · exact hk
      · obtain ⟨item, hitem⟩ := hc.find_item hfind
        exact Or.inr ⟨auction, item, rfl, hfind, hitem, closes_buyOut .machine s hitem⟩
  | cancel s id =>
    rw [step, handleAuctionRemoveItem]
    split
    · exact Or.inl ⟨hc, fun hid => hid⟩
    · cases hfind : h.auctions.find? id with
      | none => exact Or.inl ⟨hc, fun hid => hid⟩
      | some auction =>
        obtain ⟨item, hitem⟩ := hc.find_item hfind
        obtain rfl := (hc.auction_id hfind).1
        dsimp only
        split
        · exact Or.inl ⟨hc, fun hid => hid⟩
        · next howner =>
            rw [hitem]
            dsimp only
            split
            · exact Or.inl ⟨hc, fun hid => hid⟩
            · have hp := (posts_refundBidder .machine h s auction).trans
                (posts_sendMailTo _ auction .canceled s.player
                  ⟨0, 0, auction.buyout, auction.deposit, 0⟩ 0 [item])
              refine Or.inr ⟨auction, item, rfl, hfind, hitem, _, _, ?_, rfl, rfl, rfl⟩
              rw [sentFor, not_not.mp howner]
              exact hp
  | expire r id =>
    cases hfind : h.auctions.find? id with
    | none =>
      rw [step, House.expire, hfind]
      exact Or.inl ⟨hc, fun hid => hid⟩
    | some auction =>
      obtain ⟨item, hitem⟩ := hc.find_item hfind
      obtain rfl := (hc.auction_id hfind).1
      exact Or.inr ⟨auction, item, rfl, hfind, hitem, closes_expire .machine r hfind hitem⟩
  | takeMailItems index =>
    refine Or.inl ⟨hc.takeMailItems index, fun hid => ?_⟩
    rw [step, House.takeMailItems]
    split
    · exact hid
    · exact hid
  | earn player amount => exact Or.inl ⟨hc.posts (posts_modifyMoney h player amount), fun hid => hid⟩
  | findItem player item => exact Or.inl ⟨hc.findItem player item, fun hid => hid⟩

theorem sentFor_eq (auction : AuctionEntry) (item : Item) (action : Action) :
    sentFor auction item action = [] ∨
      ∃ receiver, sentFor auction item action = [(receiver, item)] := by
  cases action with
  | placeBid s id price => exact Or.inr ⟨_, rfl⟩
  | cancel s id => exact Or.inr ⟨_, rfl⟩
  | expire r id =>
    rw [sentFor]
    split_ifs
    · exact Or.inr ⟨_, rfl⟩
    · exact Or.inl rfl
    · exact Or.inr ⟨_, rfl⟩
    · exact Or.inl rfl
  | _ => exact Or.inl rfl

theorem Custody.step (hc : h.Custody) (action : Action) :
    (House.step .machine h action).Custody := by
  rcases hc.step_cases action with ⟨hstep, -⟩ | ⟨auction, item, -, hfind, hitem, hcloses⟩
  · exact hstep
  · obtain ⟨posted, gone, hp, hid, hguid, hafter⟩ := hcloses
    rw [hafter]
    exact hc.close hfind hitem hp (sentFor_eq auction item action) hid hguid

theorem custody_start : start.Custody where
  places_le := fun _ => Nat.zero_le _
  places_fresh := fun _ _ => rfl
  inventory_guid := fun h => by simp [start] at h
  aItems_guid := fun h => by simp [start] at h
  auction_id := fun h => by simp [start] at h
  auction_item := fun h => by simp [start] at h
  auction_unique := fun h => by simp [start] at h

theorem custody_run (actions : List Action) : (run (House.step .machine) start actions).Custody := by
  have hall : Admissible (House.step .machine) (fun _ _ => True) start actions := by
    generalize start = h
    induction actions generalizing h with
    | nil => trivial
    | cons action rest ih => exact ⟨trivial, ih _⟩
  exact hall.invariant (fun hc _ => hc.step _) custody_start List.prefix_rfl

/-- The item went to one mail, of the receiver, and out of the item map. -/
structure Delivered (h h' : House) (auction : AuctionEntry) (receiver : Guid) : Prop where
  attached_once : ∃ item, h.aItems.find? auction.itemGUIDLow = some item ∧
    (h'.attachments.filter fun a => a.2.guid = auction.itemGUIDLow) = [(receiver, item)]
  removed : h.aItems.contains auction.itemGUIDLow = true ∧
    h'.aItems = h.aItems.erase auction.itemGUIDLow
  not_held : h'.inventory.contains auction.itemGUIDLow = false

/-- The winner of an auction that ends, or its owner when nobody wins. -/
def receiverOf (auction : AuctionEntry) : Action → Guid
  | .placeBid s _ _ => s.player
  | .expire _ _ => if auction.bidder = 0 then auction.owner else auction.bidder
  | _ => auction.owner

/-- An auction expires that an offline player wins, and trades are not logged. -/
def LosesItem (auction : AuctionEntry) : Action → Prop
  | .expire r _ => auction.bidder ≠ 0 ∧ r.findPlayer auction.bidder = false ∧ r.gmLogTrade = false
  | _ => False

instance (auction : AuctionEntry) : DecidablePred (LosesItem auction) := fun action =>
  match action with
  | .expire .. => inferInstanceAs (Decidable (_ ∧ _))
  | .sell .. | .placeBid .. | .cancel .. | .takeMailItems _ | .earn .. | .findItem .. =>
    isFalse id

/-- The owner and a bidder who is ahead have accounts when the auction expires. -/
def AccountsExist (auction : AuctionEntry) : Action → Prop
  | .expire r _ => r.getPlayerAccountIdByGUID auction.owner ≠ 0 ∧
      (auction.bidder ≠ 0 → r.getPlayerAccountIdByGUID auction.bidder ≠ 0)
  | _ => True

/-- With existing accounts, only a lost item is not sent to its receiver. -/
theorem sentFor_eq_iff (item : Item) {action : Action} (hends : action.ends = true)
    (haccounts : AccountsExist auction action) :
    sentFor auction item action =
      if LosesItem auction action then [] else [(receiverOf auction action, item)] := by
  cases action with
  | placeBid s id price => rfl
  | cancel s id => rfl
  | expire r id =>
    obtain ⟨howner, hbidder⟩ := haccounts
    by_cases hnone : auction.bidder = 0
    · have hexists : r.exists? auction.owner = true := by simp [Realm.exists?, howner]
      simp [sentFor, LosesItem, receiverOf, hnone, hexists]
    · have haccount := hbidder hnone
      cases honline : r.findPlayer auction.bidder with
      | true => simp [sentFor, LosesItem, receiverOf, hnone, honline]
      | false =>
        cases hlog : r.gmLogTrade with
        | true =>
          simp [sentFor, LosesItem, receiverOf, Realm.bidderAccId, hnone, honline, hlog,
            haccount]
        | false =>
          simp [sentFor, LosesItem, Realm.bidderAccId, hnone, honline, hlog]
  | _ => cases hends

theorem filter_attachments_eq_nil (hc : h.Custody) (hitem : h.aItems.contains guid = true) :
    (h.attachments.filter fun a => a.2.guid = guid) = [] := by
  rw [← List.length_eq_zero_iff, ← List.countP_eq_length_filter]
  exact (hc.only_in_house hitem).2

/-- In every reachable house an auction that ends delivers its item once, unless it loses it. -/
theorem delivered_iff (actions : List Action) {id : Nat} {auction : AuctionEntry}
    (hopen : (run (step .machine) start actions).auctions.find? id = some auction)
    (action : Action) (haccounts : AccountsExist auction action)
    (hended : (run (step .machine) start (actions ++ [action])).auctions.find? id = none) :
    Delivered (run (step .machine) start actions) (run (step .machine) start (actions ++ [action]))
      auction (receiverOf auction action) ↔ ¬ LosesItem auction action := by
  have hc := custody_run actions
  have hnext : run (step .machine) start (actions ++ [action]) =
      step .machine (run (step .machine) start actions) action := by
    rw [run, run, List.foldl_append]
    rfl
  rw [hnext] at hended ⊢
  generalize run (step .machine) start actions = h at *
  rcases hc.step_cases action with ⟨-, hstays⟩ | ⟨found, item, hends, hfind, hitem, hcloses⟩
  · exact absurd hended (hstays (by rw [hopen]; exact Option.some_ne_none _))
  · obtain ⟨posted, gone, hp, hid, hguid, hafter⟩ := hcloses
    have hsame : id = found.id := by
      by_contra hne
      rw [hafter, removeAuction, OrderedMap.find?_erase, hid, if_neg hne, hp.auctions,
        hopen] at hended
      cases hended
    subst hsame
    obtain rfl : found = auction := Option.some.inj (hfind.symm.trans hopen)
    have hcontains := hc.auction_item hfind
    have hattached : (step .machine h action).attachments =
        h.attachments ++ sentFor found item action := by
      rw [hafter]
      exact hp.attachments
    have hkey := hc.aItems_guid hitem
    constructor
    · rintro ⟨⟨item', hitem', hfilter⟩, -, -⟩ hloses
      rw [hattached, List.filter_append, filter_attachments_eq_nil hc hcontains,
        sentFor_eq_iff item hends haccounts, if_pos hloses] at hfilter
      cases hfilter
    · intro hkeeps
      refine ⟨⟨item, hitem, ?_⟩, ⟨hcontains, ?_⟩, ?_⟩
      · rw [hattached, List.filter_append, filter_attachments_eq_nil hc hcontains,
          sentFor_eq_iff item hends haccounts, if_neg hkeeps]
        simp [hkey]
      · rw [hafter, removeAuction, hp.aItems, hguid]
      · rw [hafter, removeAuction, hp.inventory]
        exact (hc.only_in_house hcontains).1

/-- The second player bids for the item of the first. -/
def oneBid : List Action :=
  [.earn 1 1000, .earn 2 10000, .findItem 1 ⟨0, 25, 1, 1, true, false, false, 0⟩,
    .sell (busySession 0) ⟨[(1, 1)], 1, 0, 720⟩,
    .placeBid (busySession 1) 1 1000]

/-- The auction of `oneBid`. -/
def oneBidAuction : AuctionEntry := ⟨1, 1, 25, 1, 1, 1, 1000, 0, 2, 100⟩

/-- Both players have left. -/
def quietRealm (gmLogTrade : Bool) : Realm :=
  { busyRealm with findPlayer := fun _ => false, gmLogTrade := gmLogTrade }

/-- With the log on, the winner gets the item while he is offline. -/
theorem delivered_logged :
    Delivered (run (step .machine) start oneBid)
      (run (step .machine) start (oneBid ++ [.expire (quietRealm true) 1])) oneBidAuction 2 := by
  have hopen : (run (step .machine) start oneBid).auctions.find? 1 = some oneBidAuction := by
    decide +kernel
  have hended : (run (step .machine) start
      (oneBid ++ [.expire (quietRealm true) 1])).auctions.find? 1 = none := by decide +kernel
  have haccounts : AccountsExist oneBidAuction (.expire (quietRealm true) 1) :=
    ⟨by decide, fun _ => by decide⟩
  have hkeeps : ¬ LosesItem oneBidAuction (.expire (quietRealm true) 1) := by decide
  exact (delivered_iff oneBid hopen _ haccounts hended).mpr hkeeps

/-- With the log off, he gets nothing. -/
theorem item_lost :
    ¬ ∀ actions id auction action,
      (run (step .machine) start actions).auctions.find? id = some auction →
      AccountsExist auction action →
      (run (step .machine) start (actions ++ [action])).auctions.find? id = none →
      Delivered (run (step .machine) start actions)
        (run (step .machine) start (actions ++ [action])) auction (receiverOf auction action) := by
  intro hall
  have hdelivered := hall oneBid 1 oneBidAuction (.expire (quietRealm false) 1)
    (by decide +kernel) ⟨by decide, fun _ => by decide⟩ (by decide +kernel)
  obtain ⟨item, -, hattached⟩ := hdelivered.attached_once
  have hempty : (run (step .machine) start
      (oneBid ++ [.expire (quietRealm false) 1])).attachments = [] := by decide +kernel
  rw [hempty] at hattached
  cases hattached

end House
end Cataclysm.Auction
