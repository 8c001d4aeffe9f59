import Cataclysm.Auction.AuctionHouse

/-!
# Auction gold

What bidders paid for an auction is with the bidder who is ahead, went back to those he
outbid, or was mailed to the owner less the cut. The entry of an auction holds 32 bits,
and an auction without a buyout accepts bids that do not fit.

## Implementation notes

The gold that is mailed for an auction is read off the mails: the subject names the
auction and the reason, and the body of the owner's mail names the cut and the deposit.
-/

namespace Cataclysm.Auction
open Runs

variable {cs : List Charge} {ms : List Mail} {id : Nat}

/-- The gold of some charges. -/
def goldTaken (p : Charge → Bool) (charges : List Charge) : Int :=
  (charges.map fun c => if p c then c.amount else 0).sum

/-- An amount that some mails carry or report, added up. -/
def goldMailed (p : Mail → Bool) (amount : Mail → Nat) (mails : List Mail) : Int :=
  (mails.map fun m => if p m then (amount m : Int) else 0).sum

@[simp] theorem goldTaken_append (p : Charge → Bool) (cs cs' : List Charge) :
    goldTaken p (cs ++ cs') = goldTaken p cs + goldTaken p cs' := by
  simp [goldTaken]

@[simp] theorem goldTaken_nil (p : Charge → Bool) : goldTaken p [] = 0 := rfl

@[simp] theorem goldTaken_cons (p : Charge → Bool) (c : Charge) (cs : List Charge) :
    goldTaken p (c :: cs) = (if p c then c.amount else 0) + goldTaken p cs := by
  simp [goldTaken]

@[simp] theorem goldMailed_append (p : Mail → Bool) (amount : Mail → Nat) (ms ms' : List Mail) :
    goldMailed p amount (ms ++ ms') = goldMailed p amount ms + goldMailed p amount ms' := by
  simp [goldMailed]

@[simp] theorem goldMailed_nil (p : Mail → Bool) (amount : Mail → Nat) :
    goldMailed p amount [] = 0 := rfl

@[simp] theorem goldMailed_cons (p : Mail → Bool) (amount : Mail → Nat) (m : Mail)
    (ms : List Mail) :
    goldMailed p amount (m :: ms) =
      (if p m then (amount m : Int) else 0) + goldMailed p amount ms := by
  simp [goldMailed]

theorem goldTaken_eq_zero {p : Charge → Bool} (h : ∀ c ∈ cs, p c = false) : goldTaken p cs = 0 := by
  induction cs with
  | nil => rfl
  | cons c rest ih =>
    rw [goldTaken_cons, h c (by simp), ih fun c hc => h c (by simp [hc])]
    rfl

theorem goldMailed_eq_zero {p : Mail → Bool} {amount : Mail → Nat} (h : ∀ m ∈ ms, p m = false) :
    goldMailed p amount ms = 0 := by
  induction ms with
  | nil => rfl
  | cons m rest ih =>
    rw [goldMailed_cons, h m (by simp), ih fun m hm => h m (by simp [hm])]
    rfl

/-- A mail that changes in other ways counts as before. -/
theorem goldMailed_set {p : Mail → Bool} {amount : Mail → Nat} {i : Nat} {m m' : Mail}
    (hget : ms[i]? = some m) (hp : p m' = p m) (hamount : amount m' = amount m) :
    goldMailed p amount (ms.set i m') = goldMailed p amount ms := by
  have hi : i < ms.length := (List.getElem?_eq_some_iff.mp hget).1
  have hm : ms[i] = m := (List.getElem?_eq_some_iff.mp hget).2
  rw [goldMailed, List.map_set, hp, hamount, ← hm, goldMailed]
  congr 1
  apply List.ext_getElem
  · simp
  · intro k hk hk'
    by_cases hki : i = k
    · subst hki
      simp
    · simp [List.getElem_set_ne hki]

/-- The mail returns a bid. -/
def Mail.refunds (m : Mail) : Bool :=
  m.response = .outbidded || m.response = .cancelledToBidder

/-- The gold of an auction that left the bidders' purses and did not come back. -/
structure Ledger where
  taken : Int
  refunded : Int
  mailedToOwner : Int
  cut : Int
  returnedDeposit : Int

def ledger (id : Nat) (charges : List Charge) (mails : List Mail) : Ledger where
  taken := goldTaken (fun c => c.auctionId = id) charges
  refunded := goldMailed (fun m => m.auctionId = id && m.refunds) Mail.money mails
  mailedToOwner :=
    goldMailed (fun m => m.auctionId = id && m.response = .successful) Mail.money mails
  cut := goldMailed (fun m => m.auctionId = id && m.response = .successful)
    (fun m => m.body.cut) mails
  returnedDeposit := goldMailed (fun m => m.auctionId = id && m.response = .successful)
    (fun m => m.body.deposit) mails

/-- The gold that is neither refunded nor paid out. -/
def Ledger.rest (l : Ledger) : Int :=
  l.taken - (l.refunded + l.mailedToOwner + l.cut - l.returnedDeposit)

/-- What one player paid for an auction and did not get back. -/
def outstanding (id : Nat) (player : Guid) (charges : List Charge) (mails : List Mail) : Int :=
  goldTaken (fun c => c.auctionId = id && c.player = player) charges -
    goldMailed (fun m => m.auctionId = id && m.refunds && m.receiver = player) Mail.money mails

theorem ledger_rest_append (id : Nat) (cs cs' : List Charge) (ms ms' : List Mail) :
    (ledger id (cs ++ cs') (ms ++ ms')).rest = (ledger id cs ms).rest + (ledger id cs' ms').rest := by
  simp only [Ledger.rest, ledger, goldTaken_append, goldMailed_append]
  ring

theorem outstanding_append (id : Nat) (player : Guid) (cs cs' : List Charge)
    (ms ms' : List Mail) :
    outstanding id player (cs ++ cs') (ms ++ ms') =
      outstanding id player cs ms + outstanding id player cs' ms' := by
  simp only [outstanding, goldTaken_append, goldMailed_append]
  ring

/-- Charges and mails of other auctions do not count. -/
theorem ledger_rest_of_ne (hcs : ∀ c ∈ cs, c.auctionId ≠ id) (hms : ∀ m ∈ ms, m.auctionId ≠ id) :
    (ledger id cs ms).rest = 0 := by
  have htaken : goldTaken (fun c => c.auctionId = id) cs = 0 :=
    goldTaken_eq_zero fun c hc => by simp [hcs c hc]
  have hmailed : ∀ (q : Mail → Bool) amount,
      goldMailed (fun m => m.auctionId = id && q m) amount ms = 0 := fun q amount =>
    goldMailed_eq_zero fun m hm => by simp [hms m hm]
  simp only [Ledger.rest, ledger, htaken, hmailed]
  rfl

theorem outstanding_of_ne {player : Guid} (hcs : ∀ c ∈ cs, c.auctionId ≠ id)
    (hms : ∀ m ∈ ms, m.auctionId ≠ id) : outstanding id player cs ms = 0 := by
  rw [outstanding, goldTaken_eq_zero fun c hc => by simp [hcs c hc],
    goldMailed_eq_zero fun m hm => by simp [hms m hm]]
  rfl

/-- A mail without gold, such as the one with the item. -/
def Mail.silent (m : Mail) : Bool := !m.refunds && m.response ≠ .successful

theorem ledger_rest_of_silent (h : ∀ m ∈ ms, m.silent = true) : (ledger id [] ms).rest = 0 := by
  have hrefunds : ∀ m ∈ ms, m.refunds = false := fun m hm => by
    simpa using (Bool.and_eq_true_iff.mp (h m hm)).1
  have hsuccessful : ∀ m ∈ ms, m.response ≠ .successful := fun m hm => by
    simpa using (Bool.and_eq_true_iff.mp (h m hm)).2
  have hpaid : ∀ amount, goldMailed (fun m => m.auctionId = id && m.response = .successful)
      amount ms = 0 := fun amount => goldMailed_eq_zero fun m hm => by simp [hsuccessful m hm]
  have hback : goldMailed (fun m => m.auctionId = id && m.refunds) Mail.money ms = 0 :=
    goldMailed_eq_zero fun m hm => by simp [hrefunds m hm]
  simp only [Ledger.rest, ledger, hpaid, hback]
  rfl

namespace House

variable {h h' : House} {after : Option AuctionEntry} {auction : AuctionEntry} {r : Realm}
  {s : Session} {price : Nat}

/-- The bid that an open auction holds. -/
def heldBid (h : House) (id : Nat) : Nat :=
  match h.auctions.find? id with
  | some auction => auction.bid
  | none => 0

/-- The gold of every auction is where it belongs, and a stored bid is what its bidder paid. -/
structure GoldConserved (h : House) : Prop where
  balanced : ∀ id,
    let l := ledger id h.charges h.mails
    l.taken = l.refunded + l.mailedToOwner + l.cut - l.returnedDeposit + h.heldBid id
  stored : ∀ {id auction}, h.auctions.find? id = some auction → auction.bidder ≠ 0 →
    outstanding id auction.bidder h.charges h.mails = auction.bid

/-- What the amounts of an open auction keep. -/
structure OpenAuction (h : House) (id : Nat) (auction : AuctionEntry) : Prop where
  id_eq : auction.id = id
  id_lt : id < h.nextAuctionId
  bid_lt : auction.buyout = 0 ∨ auction.bid < auction.buyout
  bid_of_none : auction.bidder = 0 → auction.bid = 0
  outstanding_eq : ∀ player, player ≠ 0 → outstanding id player h.charges h.mails =
    if auction.bidder = player then (auction.bid : Int) else 0

/-- The ledger of each auction agrees with the bid that the house holds. -/
structure Sound (h : House) : Prop where
  money_lt : ∀ player, h.money player < 2 ^ 64
  openAuction : ∀ {id auction}, h.auctions.find? id = some auction → OpenAuction h id auction
  charges_lt : ∀ c ∈ h.charges, c.auctionId < h.nextAuctionId
  mails_lt : ∀ m ∈ h.mails, m.auctionId < h.nextAuctionId
  rest_eq : ∀ id, (ledger id h.charges h.mails).rest = h.heldBid id

theorem Sound.goldConserved (hs : h.Sound) : h.GoldConserved where
  balanced := by
    intro id
    have hrest := hs.rest_eq id
    simp only [Ledger.rest] at hrest
    show (ledger id h.charges h.mails).taken = _
    linarith
  stored := by
    intro id auction hfind hbidder
    rw [(hs.openAuction hfind).outstanding_eq _ hbidder, if_pos rfl]

/-- Charges and mails of one auction, which is stored anew or gone afterwards. -/
structure Settles (h h' : House) (id : Nat) (cs : List Charge) (ms : List Mail)
    (after : Option AuctionEntry) : Prop where
  charges : h'.charges = h.charges ++ cs
  mails : h'.mails = h.mails ++ ms
  charges_id : ∀ c ∈ cs, c.auctionId = id
  mails_id : ∀ m ∈ ms, m.auctionId = id
  find : ∀ k, h'.auctions.find? k = if k = id then after else h.auctions.find? k
  next : h'.nextAuctionId = h.nextAuctionId
  money_lt : ∀ player, h'.money player < 2 ^ 64

theorem Settles.outstanding_of_ne (ht : Settles h h' id cs ms after) {k : Nat} (hne : k ≠ id)
    (player : Guid) :
    outstanding k player h'.charges h'.mails = outstanding k player h.charges h.mails := by
  have hcs : ∀ c ∈ cs, c.auctionId ≠ k := fun c hc => by rw [ht.charges_id c hc]; exact hne.symm
  have hms : ∀ m ∈ ms, m.auctionId ≠ k := fun m hm => by rw [ht.mails_id m hm]; exact hne.symm
  rw [ht.charges, ht.mails, outstanding_append, Auction.outstanding_of_ne hcs hms, add_zero]

theorem Settles.rest_of_ne (ht : Settles h h' id cs ms after) {k : Nat} (hne : k ≠ id) :
    (ledger k h'.charges h'.mails).rest = (ledger k h.charges h.mails).rest := by
  have hcs : ∀ c ∈ cs, c.auctionId ≠ k := fun c hc => by rw [ht.charges_id c hc]; exact hne.symm
  have hms : ∀ m ∈ ms, m.auctionId ≠ k := fun m hm => by rw [ht.mails_id m hm]; exact hne.symm
  rw [ht.charges, ht.mails, ledger_rest_append, ledger_rest_of_ne hcs hms, add_zero]

/-- An operation on one auction is sound when the new gold of that auction adds up. -/
theorem Sound.settle (hs : h.Sound) (hfind : h.auctions.find? id = some auction)
    (ht : Settles h h' id cs ms after)
    (hrest : (ledger id cs ms).rest + auction.bid = (after.map AuctionEntry.bid).getD 0)
    (hopen : ∀ {auction'}, after = some auction' → auction'.id = id ∧
      (auction'.buyout = 0 ∨ auction'.bid < auction'.buyout) ∧
      (auction'.bidder = 0 → auction'.bid = 0) ∧
      ∀ player, player ≠ 0 → outstanding id player cs ms +
        (if auction.bidder = player then (auction.bid : Int) else 0) =
        if auction'.bidder = player then (auction'.bid : Int) else 0) : h'.Sound where
  money_lt := ht.money_lt
  openAuction := by
    intro k auction' hk
    rw [ht.find] at hk
    by_cases hne : k = id
    · subst hne
      rw [if_pos rfl] at hk
      obtain ⟨hid, hbid, hnone, hout⟩ := hopen hk
      refine ⟨hid, ht.next ▸ (hs.openAuction hfind).id_lt, hbid, hnone, fun player hplayer => ?_⟩
      have hold := (hs.openAuction hfind).outstanding_eq player hplayer
      rw [ht.charges, ht.mails, outstanding_append, hold, ← hout player hplayer, add_comm]
    · rw [if_neg hne] at hk
      have hold := hs.openAuction hk
      refine ⟨hold.id_eq, ht.next ▸ hold.id_lt, hold.bid_lt, hold.bid_of_none, ?_⟩
      intro player hplayer
      rw [ht.outstanding_of_ne hne, hold.outstanding_eq player hplayer]
  charges_lt := by
    intro c hc
    rw [ht.charges] at hc
    rcases List.mem_append.mp hc with hc | hc
    · exact ht.next ▸ hs.charges_lt c hc
    · rw [ht.charges_id c hc, ht.next]
      exact (hs.openAuction hfind).id_lt
  mails_lt := by
    intro m hm
    rw [ht.mails] at hm
    rcases List.mem_append.mp hm with hm | hm
    · exact ht.next ▸ hs.mails_lt m hm
    · rw [ht.mails_id m hm, ht.next]
      exact (hs.openAuction hfind).id_lt
  rest_eq := by
    intro k
    by_cases hne : k = id
    · subst hne
      have hold := hs.rest_eq k
      rw [heldBid, hfind] at hold
      rw [ht.charges, ht.mails, ledger_rest_append, hold, heldBid, ht.find, if_pos rfl]
      cases after with
      | none => simpa [add_comm] using hrest
      | some auction' => simpa [add_comm] using hrest
    · rw [ht.rest_of_ne hne, hs.rest_eq k, heldBid, heldBid, ht.find, if_neg hne]

theorem Sound.store (hs : h.Sound) {auction' : AuctionEntry}
    (hfind : h.auctions.find? id = some auction) (cs : List Charge) (ms : List Mail)
    (ht : Settles h h' id cs ms (some auction')) (hid : auction'.id = id)
    (hbid : auction'.buyout = 0 ∨ auction'.bid < auction'.buyout) (hbidder : auction'.bidder ≠ 0)
    (hrest : (ledger id cs ms).rest + auction.bid = auction'.bid)
    (hout : ∀ player, player ≠ 0 → outstanding id player cs ms +
      (if auction.bidder = player then (auction.bid : Int) else 0) =
      if auction'.bidder = player then (auction'.bid : Int) else 0) : h'.Sound := by
  refine hs.settle hfind ht hrest ?_
  intro stored hstored
  obtain rfl : auction' = stored := Option.some.inj hstored
  exact ⟨hid, hbid, fun h => absurd h hbidder, hout⟩

theorem Sound.close (hs : h.Sound) (hfind : h.auctions.find? id = some auction) (cs : List Charge)
    (ms : List Mail) (ht : Settles h h' id cs ms none)
    (hrest : (ledger id cs ms).rest + auction.bid = 0) : h'.Sound :=
  hs.settle hfind ht hrest fun h => nomatch h

/-- The owner can be paid and his profit fits into the mail's 32 bits. -/
structure SaleFits (r : Realm) (auction : AuctionEntry) (bid : Nat) : Prop where
  owner_exists : r.exists? auction.owner = true
  sum_lt : bid + auction.deposit < 2 ^ 32
  cut_le : r.getAuctionCut bid ≤ bid + auction.deposit

instance (r : Realm) (auction : AuctionEntry) (bid : Nat) : Decidable (SaleFits r auction bid) :=
  decidable_of_iff (r.exists? auction.owner = true ∧ bid + auction.deposit < 2 ^ 32 ∧
    r.getAuctionCut bid ≤ bid + auction.deposit)
    ⟨fun h => ⟨h.1, h.2.1, h.2.2⟩, fun h => ⟨h.1, h.2, h.3⟩⟩

/-- The bidder who is ahead is the one who bids, or can get his gold back. -/
def Refundable (s : Session) (auction : AuctionEntry) : Prop :=
  auction.bidder ≠ 0 → auction.bidder ≠ s.player → s.exists? auction.bidder = true

instance (s : Session) (auction : AuctionEntry) : Decidable (Refundable s auction) :=
  inferInstanceAs (Decidable (_ → _ → _))

/-- The amounts of an accepted request fit into 32 bits, and whoever is owed gold exists. -/
def Lossless (h : House) : Action → Prop
  | .sell s request => ∀ offered ∈ h.checkSell s request,
      hasEnoughMoney (h.money s.player) (sellDeposit s request offered.1 offered.2) →
      request.bid < 2 ^ 32 ∧ request.buyout < 2 ^ 32 ∧
        sellDeposit s request offered.1 offered.2 < 2 ^ 31
  | .placeBid s id price => ∀ auction ∈ h.bidTarget s id price,
      (belowBuyout auction price →
        auction.bid + s.getAuctionOutBid auction.bid < 2 ^ 32 ∧
        (auction.bid + s.getAuctionOutBid auction.bid ≤ price →
          hasEnoughMoney (h.money s.player) price → price < 2 ^ 32 ∧ Refundable s auction)) ∧
      (¬ belowBuyout auction price → hasEnoughMoney (h.money s.player) price →
        Refundable s auction ∧ SaleFits s.toRealm auction auction.buyout)
  | .cancel s id => ∀ auction ∈ h.auctions.find? id,
      auction.owner = s.player → auction.bidder ≠ 0 →
      hasEnoughMoney (h.money s.player) (s.getAuctionCut auction.bid) →
      s.exists? auction.bidder = true
  | .expire r id => ∀ auction ∈ h.auctions.find? id, auction.bidder ≠ 0 →
      SaleFits r auction auction.bid
  | _ => True

instance (h : House) : DecidablePred h.Lossless := fun action =>
  match action with
  | .sell .. => inferInstanceAs (Decidable (∀ _ ∈ _, _))
  | .placeBid .. => inferInstanceAs (Decidable (∀ _ ∈ _, _))
  | .cancel .. => inferInstanceAs (Decidable (∀ _ ∈ _, _))
  | .expire .. => inferInstanceAs (Decidable (∀ _ ∈ _, _))
  | .takeMailItems _ | .earn .. | .findItem .. => isTrue trivial

theorem getAuctionCut_lt (r : Realm) (bid : Nat) : r.getAuctionCut bid < 2 ^ 31 := by
  have hbound := @Int.bmod_lt (r.cutAtRate (r.calculatePct bid r.cutPercent)) (2 ^ 32) (by decide)
  rw [Realm.getAuctionCut, int32]
  omega

/-- A sale that fits pays out the bid and the deposit less the cut. -/
theorem profit_eq (arith : Arithmetic) {bid : Nat} (hfits : SaleFits r auction bid) :
    arith.uint32 (arith.uint32 (bid + auction.deposit) - r.getAuctionCut bid) =
      bid + auction.deposit - r.getAuctionCut bid := by
  have hsum : (bid : Int) + auction.deposit = ((bid + auction.deposit : Nat) : Int) := rfl
  have hprofit : ((bid + auction.deposit : Nat) : Int) - r.getAuctionCut bid =
      ((bid + auction.deposit - r.getAuctionCut bid : Nat) : Int) := by
    have hcut := hfits.cut_le
    omega
  have hlt := hfits.sum_lt
  rw [hsum, arith.uint32_of_lt hlt, hprofit, arith.uint32_of_lt (by omega)]

theorem sendAuctionSuccessfulMail_eq (arith : Arithmetic) (h : House)
    (hfits : SaleFits r auction auction.bid) :
    sendAuctionSuccessfulMail arith h r auction =
      h.sendMailTo auction .successful auction.owner
        ⟨auction.bidder, auction.bid, auction.buyout, auction.deposit,
          r.getAuctionCut auction.bid⟩
        (auction.bid + auction.deposit - r.getAuctionCut auction.bid) [] := by
  simp only [sendAuctionSuccessfulMail, hfits.owner_exists, if_true, profit_eq arith hfits]

theorem chargeBidder_eq (id : Nat) {player : Guid} {amount : Nat} (hlt : h.money player < 2 ^ 64)
    (hle : amount ≤ h.money player) :
    h.chargeBidder id player (-(amount : Int)) =
      { h with
        money := Function.update h.money player (h.money player - amount)
        charges := h.charges ++ [⟨id, player, amount⟩] } := by
  have hbooked := modifyMoney_neg hlt hle
  have hlost : (h.money player : Int) - ((h.money player - amount : Nat) : Int) = amount := by omega
  simp only [chargeBidder, House.modifyMoney, hbooked, Function.update_self, hlost]

theorem sendMailTo_chargeBidder (h : House) (auction : AuctionEntry)
    (response : MailAuctionAnswers) (receiver : Guid) (body : MailBody) (money : Nat)
    (items : List Item) (id : Nat) (player : Guid) (amount : Int) :
    (h.sendMailTo auction response receiver body money items).chargeBidder id player amount =
      (h.chargeBidder id player amount).sendMailTo auction response receiver body money items :=
  rfl

theorem money_update_lt (hs : h.Sound) (player : Guid) {amount : Nat} (hlt : amount < 2 ^ 64)
    (p : Guid) : Function.update h.money player amount p < 2 ^ 64 := by
  rw [Function.update_apply]
  split
  · exact hlt
  · exact hs.money_lt p

/-- A bid charges what the bidder did not pay before and refunds the one he outbids. -/
theorem Sound.placeBid (hs : h.Sound) (arith : Arithmetic)
    (hfind : h.auctions.find? auction.id = some auction) (hgt : auction.bid < price)
    (hmoney : price ≤ h.money s.player) (hprice : price < 2 ^ 32)
    (hbelow : auction.buyout = 0 ∨ price < auction.buyout) (href : Refundable s auction) :
    (placeBid arith h s auction price).Sound := by
  have hlt := hs.money_lt s.player
  have hstored := arith.uint32_of_lt hprice
  have hamount := arith.int64_of_lt (show price < 2 ^ 63 by omega)
  have hafter : ∀ k, (h.auctions.insert auction.id
      { auction with bidder := s.player, bid := price }).find? k =
        if k = auction.id then some { auction with bidder := s.player, bid := price }
        else h.auctions.find? k := fun k => OrderedMap.find?_insert ..
  by_cases hnone : auction.bidder = 0
  · have hzero := (hs.openAuction hfind).bid_of_none hnone
    simp only [House.placeBid, hnone, gt_iff_lt, lt_irrefl, if_false, hamount,
      chargeBidder_eq auction.id hlt hmoney, hstored]
    refine hs.store hfind [⟨auction.id, s.player, price⟩] []
      ⟨rfl, by simp, by simp, by simp, hafter, rfl, money_update_lt hs _ (by omega)⟩ rfl hbelow
      s.player_ne_zero ?_ fun player _ => ?_
    · simp [Ledger.rest, ledger, hzero]
    · simp [outstanding, hzero]
  · by_cases hsame : auction.bidder = s.player
    · have hdiff : (price : Int) - auction.bid = ((price - auction.bid : Nat) : Int) := by omega
      have hrise := arith.int64_of_lt (show price - auction.bid < 2 ^ 63 by omega)
      simp only [House.placeBid, hsame, gt_iff_lt, Nat.pos_of_ne_zero s.player_ne_zero, if_true,
        hdiff, hrise,
        chargeBidder_eq auction.id hlt (show price - auction.bid ≤ h.money s.player by omega),
        hstored]
      refine hs.store hfind [⟨auction.id, s.player, (price - auction.bid : Nat)⟩] []
        ⟨rfl, by simp, by simp, by simp, hafter, rfl, money_update_lt hs _ (by omega)⟩ rfl hbelow
        s.player_ne_zero ?_ fun player _ => ?_
      · simp [Ledger.rest, ledger]
        omega
      · by_cases hp : s.player = player
        · simp [outstanding, hsame, hp]
          omega
        · simp [outstanding, hsame, hp]
    · have hrefund : h.sendAuctionOutbiddedMail s.toRealm auction =
          h.sendMailTo auction .outbidded auction.bidder
            ⟨auction.owner, auction.bid, auction.buyout, auction.deposit,
              s.getAuctionCut auction.bid⟩ auction.bid [] := if_pos (href hnone hsame)
      simp only [House.placeBid, gt_iff_lt, Nat.pos_of_ne_zero hnone, if_true, hsame, if_false,
        hamount, hrefund, sendMailTo_chargeBidder, chargeBidder_eq auction.id hlt hmoney, hstored]
      refine hs.store hfind [⟨auction.id, s.player, price⟩]
        [⟨auction.bidder, auction.itemEntry, .outbidded, auction.id, auction.itemCount,
          ⟨auction.owner, auction.bid, auction.buyout, auction.deposit,
            s.getAuctionCut auction.bid⟩, auction.bid, []⟩]
        ⟨rfl, rfl, by simp, by simp, hafter, rfl, money_update_lt hs _ (by omega)⟩ rfl hbelow
        s.player_ne_zero ?_ fun player _ => ?_
      · simp [Ledger.rest, ledger, Mail.refunds]
      · by_cases hp : s.player = player
        · have hold : auction.bidder ≠ player := hp ▸ hsame
          simp [outstanding, Mail.refunds, hp, hold]
        · by_cases hold : auction.bidder = player
          · simp [outstanding, Mail.refunds, hp, hold]
          · simp [outstanding, Mail.refunds, hp, hold]

theorem sendAuctionWonMail_eq (h : House) (r : Realm) (auction : AuctionEntry) :
    ∃ ms, h.sendAuctionWonMail r auction = { h with mails := h.mails ++ ms } ∧
      ∀ m ∈ ms, m.auctionId = auction.id ∧ m.silent = true := by
  rw [sendAuctionWonMail]
  cases h.aItems.find? auction.itemGUIDLow with
  | none => exact ⟨[], by simp, by simp⟩
  | some item =>
    dsimp only
    split
    · exact ⟨_, rfl, by simp [Mail.silent, Mail.refunds]⟩
    · exact ⟨[], by simp, by simp⟩

theorem sendAuctionSalePendingMail_eq (h : House) (r : Realm) (auction : AuctionEntry) :
    ∃ ms, h.sendAuctionSalePendingMail r auction = { h with mails := h.mails ++ ms } ∧
      ∀ m ∈ ms, m.auctionId = auction.id ∧ m.silent = true := by
  rw [sendAuctionSalePendingMail]
  split
  · exact ⟨_, rfl, by simp [Mail.silent, Mail.refunds]⟩
  · exact ⟨[], by simp, by simp⟩

theorem sendAuctionExpiredMail_eq (h : House) (r : Realm) (auction : AuctionEntry) :
    ∃ ms, h.sendAuctionExpiredMail r auction = { h with mails := h.mails ++ ms } ∧
      ∀ m ∈ ms, m.auctionId = auction.id ∧ m.silent = true := by
  rw [sendAuctionExpiredMail]
  cases h.aItems.find? auction.itemGUIDLow with
  | none => exact ⟨[], by simp, by simp⟩
  | some item =>
    dsimp only
    split
    · exact ⟨_, rfl, by simp [Mail.silent, Mail.refunds]⟩
    · exact ⟨[], by simp, by simp⟩

/-- Mails without gold can stand after the others. -/
theorem Settles.silent (ht : Settles h h' id cs ms after) {quiet : List Mail}
    (hquiet : ∀ m ∈ quiet, m.auctionId = id ∧ m.silent = true) :
    Settles h { h' with mails := h'.mails ++ quiet } id cs (ms ++ quiet) after ∧
      (ledger id cs (ms ++ quiet)).rest = (ledger id cs ms).rest := by
  constructor
  · refine ⟨ht.charges, ?_, ht.charges_id, ?_, ht.find, ht.next, ht.money_lt⟩
    · rw [ht.mails, List.append_assoc]
    · intro m hm
      rcases List.mem_append.mp hm with hm | hm
      · exact ht.mails_id m hm
      · exact (hquiet m hm).1
  · have happend := ledger_rest_append id cs [] ms quiet
    rw [List.append_nil, ledger_rest_of_silent fun m hm => (hquiet m hm).2, add_zero] at happend
    exact happend

theorem Settles.remove (ht : Settles h h' auction.id cs ms after) :
    Settles h (h'.removeAuction auction) auction.id cs ms none where
  charges := ht.charges
  mails := ht.mails
  charges_id := ht.charges_id
  mails_id := ht.mails_id
  find := by
    intro k
    rw [removeAuction, OrderedMap.find?_erase, ht.find]
    split <;> rfl
  next := ht.next
  money_lt := ht.money_lt

/-- An auction as it is, before anything is paid. -/
theorem Settles.refl (hs : h.Sound) (hfind : h.auctions.find? auction.id = some auction) :
    Settles h h auction.id [] [] (some auction) where
  charges := by simp
  mails := by simp
  charges_id := by simp
  mails_id := by simp
  find := by
    intro k
    by_cases hk : k = auction.id
    · rw [if_pos hk, hk, hfind]
    · rw [if_neg hk]
  next := rfl
  money_lt := hs.money_lt

/-- A sale pays out the price, whatever was charged and refunded to reach it. -/
theorem Sound.closeSale (hs : h.Sound) (arith : Arithmetic) {sold : AuctionEntry}
    (hfind : h.auctions.find? sold.id = some auction) (ht : Settles h h' sold.id cs ms after)
    (hfits : SaleFits r sold sold.bid)
    (hrest : (ledger sold.id cs ms).rest + auction.bid = sold.bid) :
    (((sendAuctionSuccessfulMail arith h' r sold).sendAuctionWonMail r sold).removeAuction
      sold).Sound := by
  rw [sendAuctionSuccessfulMail_eq arith h' hfits]
  have hpaid : Settles h (h'.sendMailTo sold .successful sold.owner
      ⟨sold.bidder, sold.bid, sold.buyout, sold.deposit, r.getAuctionCut sold.bid⟩
      (sold.bid + sold.deposit - r.getAuctionCut sold.bid) []) sold.id cs
      (ms ++ [⟨sold.owner, sold.itemEntry, .successful, sold.id, sold.itemCount,
        ⟨sold.bidder, sold.bid, sold.buyout, sold.deposit, r.getAuctionCut sold.bid⟩,
        sold.bid + sold.deposit - r.getAuctionCut sold.bid, []⟩]) after := by
    refine ⟨ht.charges, ?_, ht.charges_id, ?_, ht.find, ht.next, ht.money_lt⟩
    · simp [sendMailTo, ht.mails]
    · intro m hm
      rcases List.mem_append.mp hm with hm | hm
      · exact ht.mails_id m hm
      · rw [List.mem_singleton.mp hm]
  obtain ⟨won, hwon, hquiet⟩ := sendAuctionWonMail_eq _ r sold
  obtain ⟨hall, hsame⟩ := hpaid.silent hquiet
  rw [hwon]
  refine hs.close hfind cs _ hall.remove ?_
  have hprofit := ledger_rest_append sold.id cs [] ms [⟨sold.owner, sold.itemEntry, .successful,
    sold.id, sold.itemCount, ⟨sold.bidder, sold.bid, sold.buyout, sold.deposit,
    r.getAuctionCut sold.bid⟩, sold.bid + sold.deposit - r.getAuctionCut sold.bid, []⟩]
  have hcut := hfits.cut_le
  have hlast : (ledger sold.id [] [⟨sold.owner, sold.itemEntry, .successful, sold.id,
      sold.itemCount, ⟨sold.bidder, sold.bid, sold.buyout, sold.deposit,
      r.getAuctionCut sold.bid⟩, sold.bid + sold.deposit - r.getAuctionCut sold.bid, []⟩]).rest =
      -(sold.bid : Int) := by
    simp [Ledger.rest, ledger, Mail.refunds]
    omega
  rw [List.append_nil] at hprofit
  rw [hsame, hprofit, hlast]
  omega

theorem Sound.expire (hs : h.Sound) (arith : Arithmetic) (hok : h.Lossless (.expire r id)) :
    (expire arith h r id).Sound := by
  rw [House.expire]
  cases hfind : h.auctions.find? id with
  | none => exact hs
  | some auction =>
    obtain rfl : auction.id = id := (hs.openAuction hfind).id_eq
    dsimp only
    split
    · next hnone =>
        obtain ⟨ms, hmails, hquiet⟩ := sendAuctionExpiredMail_eq h r auction
        obtain ⟨hall, hsame⟩ := (Settles.refl hs hfind).silent hquiet
        rw [hmails]
        refine hs.close hfind [] _ hall.remove ?_
        rw [hsame, (hs.openAuction hfind).bid_of_none hnone]
        rfl
    · next hsome =>
        refine hs.closeSale arith hfind (Settles.refl hs hfind) (hok auction hfind hsome) ?_
        simp [Ledger.rest, ledger]

theorem Settles.charge (hs : h.Sound) {player : Guid} {amount : Nat}
    (hfind : h.auctions.find? auction.id = some auction) (hle : amount ≤ h.money player) :
    Settles h (h.chargeBidder auction.id player (-(amount : Int))) auction.id
      [⟨auction.id, player, amount⟩] [] (some auction) := by
  have hself := Settles.refl hs hfind
  have hlt := hs.money_lt player
  rw [chargeBidder_eq auction.id hlt hle]
  exact ⟨rfl, hself.mails, by simp, by simp, hself.find, rfl, money_update_lt hs _ (by omega)⟩

/-- Charge and refund leave exactly the buyout with the house. -/
theorem Settles.payBuyout (hs : h.Sound) (arith : Arithmetic)
    (hfind : h.auctions.find? auction.id = some auction) (hbid : auction.bid < auction.buyout)
    (hlt : auction.buyout < 2 ^ 32) (hmoney : auction.buyout ≤ h.money s.player)
    (href : Refundable s auction) :
    ∃ cs ms, Settles h (payBuyout arith h s auction) auction.id cs ms (some auction) ∧
      (ledger auction.id cs ms).rest + auction.bid = auction.buyout := by
  rw [House.payBuyout]
  by_cases hsame : s.player = auction.bidder
  · have hdiff : (auction.buyout : Int) - auction.bid =
        ((auction.buyout - auction.bid : Nat) : Int) := by omega
    rw [if_pos hsame, hdiff, arith.uint32_of_lt (by omega), arith.int64_of_lt (by omega)]
    refine ⟨_, _, Settles.charge hs hfind (by omega), ?_⟩
    simp [Ledger.rest, ledger]
    omega
  · have hcharge := Settles.charge hs hfind hmoney
    rw [if_neg hsame, arith.int64_of_lt (by omega)]
    dsimp only
    by_cases hnone : auction.bidder = 0
    · rw [if_neg (by simp [hnone])]
      refine ⟨_, _, hcharge, ?_⟩
      simp [Ledger.rest, ledger, (hs.openAuction hfind).bid_of_none hnone]
    · have hexists := href hnone (Ne.symm hsame)
      rw [if_pos hnone, sendAuctionOutbiddedMail, if_pos hexists]
      refine ⟨_, _, ⟨hcharge.charges, rfl, hcharge.charges_id, ?_,
        hcharge.find, hcharge.next, hcharge.money_lt⟩, ?_⟩
      · simp
      · simp [Ledger.rest, ledger, Mail.refunds]

/-- A buyout charges the buyout less the own bid and refunds another bidder. -/
theorem Sound.buyOut (hs : h.Sound) (arith : Arithmetic)
    (hfind : h.auctions.find? auction.id = some auction) (hbuyout : auction.buyout ≠ 0)
    (hmoney : auction.buyout ≤ h.money s.player) (href : Refundable s auction)
    (hfits : SaleFits s.toRealm auction auction.buyout) : (buyOut arith h s auction).Sound := by
  have hbid : auction.bid < auction.buyout := (hs.openAuction hfind).bid_lt.resolve_left hbuyout
  have hsum := hfits.sum_lt
  have hsale : SaleFits s.toRealm { auction with bidder := s.player, bid := auction.buyout }
      auction.buyout := ⟨hfits.owner_exists, hfits.sum_lt, hfits.cut_le⟩
  obtain ⟨cs, ms, ht, hrest⟩ := Settles.payBuyout hs arith hfind hbid (by omega) hmoney href
  obtain ⟨pending, hpending, hquiet⟩ := sendAuctionSalePendingMail_eq _ s.toRealm
    { auction with bidder := s.player, bid := auction.buyout }
  obtain ⟨hall, hsame⟩ := ht.silent hquiet
  rw [House.buyOut, hpending]
  refine hs.closeSale arith hfind hall hsale ?_
  rw [hsame]
  exact hrest

theorem bidTarget_eq_some (htarget : h.bidTarget s id price = some auction) :
    h.auctions.find? id = some auction ∧ auction.bid < price := by
  rw [bidTarget] at htarget
  split at htarget
  · cases htarget
  · cases hfind : h.auctions.find? id with
    | none => simp [hfind] at htarget
    | some found =>
      simp only [hfind] at htarget
      split_ifs at htarget with howner hprice
      obtain rfl := Option.some.inj htarget
      simp only [Bool.or_eq_true, decide_eq_true_eq, not_or, not_le] at hprice
      exact ⟨rfl, hprice.1⟩

theorem Sound.handleAuctionPlaceBid (hs : h.Sound) (arith : Arithmetic)
    (hok : h.Lossless (.placeBid s id price)) :
    (handleAuctionPlaceBid arith h s id price).Sound := by
  rw [House.handleAuctionPlaceBid]
  cases htarget : h.bidTarget s id price with
  | none => exact hs
  | some auction =>
    obtain ⟨hfind, hgt⟩ := bidTarget_eq_some htarget
    obtain rfl : auction.id = id := (hs.openAuction hfind).id_eq
    obtain ⟨hbid, hbuy⟩ := hok auction htarget
    dsimp only
    split_ifs with hlow hpoor hbelow
    · exact hs
    · exact hs
    · have henough : hasEnoughMoney (h.money s.player) price := by simpa using hpoor
      obtain ⟨hnext, haccept⟩ := hbid hbelow
      have hsum : ((auction.bid : Int) + s.getAuctionOutBid auction.bid) =
          ((auction.bid + s.getAuctionOutBid auction.bid : Nat) : Int) := rfl
      rw [hsum, arith.uint32_of_lt hnext] at hlow
      obtain ⟨hprice, href⟩ := haccept (not_lt.mp fun hlt => hlow ⟨hbelow, hlt⟩) henough
      have hnotOut : auction.buyout = 0 ∨ price < auction.buyout := by
        rw [belowBuyout, Bool.or_eq_true, decide_eq_true_eq, decide_eq_true_eq] at hbelow
        exact hbelow.symm
      exact hs.placeBid arith hfind hgt (of_decide_eq_true henough) hprice hnotOut href
    · have henough : hasEnoughMoney (h.money s.player) price := by simpa using hpoor
      obtain ⟨href, hfits⟩ := hbuy hbelow henough
      rw [belowBuyout, Bool.or_eq_true, decide_eq_true_eq, decide_eq_true_eq, not_or,
        not_lt] at hbelow
      have hmoney := of_decide_eq_true henough
      exact hs.buyOut arith hfind hbelow.2 (hbelow.1.trans hmoney) href hfits

theorem modifyMoney_money_lt (hs : h.Sound) (player : Guid) (amount : Int) (p : Guid) :
    (h.modifyMoney player amount).money p < 2 ^ 64 :=
  money_update_lt hs player (modifyMoney_lt (hs.money_lt player) amount) p

/-- A cancelled auction owes its bidder nothing afterwards. -/
theorem Settles.refundBidder (hs : h.Sound) (arith : Arithmetic)
    (hfind : h.auctions.find? auction.id = some auction)
    (hexists : auction.bidder ≠ 0 → s.exists? auction.bidder = true) :
    ∃ ms, Settles h (refundBidder arith h s auction) auction.id [] ms (some auction) ∧
      (ledger auction.id [] ms).rest + auction.bid = 0 := by
  have hself := Settles.refl hs hfind
  rw [House.refundBidder]
  by_cases hnone : auction.bidder = 0
  · rw [if_neg (by simp [hnone])]
    refine ⟨[], hself, ?_⟩
    rw [(hs.openAuction hfind).bid_of_none hnone]
    rfl
  · rw [if_pos (Nat.pos_of_ne_zero hnone), sendAuctionCancelledToBidderMail,
      if_pos (hexists hnone)]
    refine ⟨_, ⟨hself.charges, rfl, hself.charges_id, by simp, hself.find, rfl,
      modifyMoney_money_lt hs _ _⟩, ?_⟩
    simp [Ledger.rest, ledger, Mail.refunds]

theorem Sound.handleAuctionRemoveItem (hs : h.Sound) (arith : Arithmetic)
    (hok : h.Lossless (.cancel s id)) : (handleAuctionRemoveItem arith h s id).Sound := by
  rw [House.handleAuctionRemoveItem]
  split
  · exact hs
  · cases hfind : h.auctions.find? id with
    | none => exact hs
    | some auction =>
      obtain rfl : auction.id = id := (hs.openAuction hfind).id_eq
      dsimp only
      split
      · exact hs
      · next howner =>
          cases hitem : h.aItems.find? auction.itemGUIDLow with
          | none => exact hs
          | some item =>
            dsimp only
            split
            · exact hs
            · next hpoor =>
                have hexists : auction.bidder ≠ 0 → s.exists? auction.bidder = true := by
                  intro hbidder
                  refine hok auction hfind (not_not.mp howner) hbidder ?_
                  by_contra hmoney
                  exact hpoor ⟨Nat.pos_of_ne_zero hbidder, by simpa using hmoney⟩
                obtain ⟨ms, ht, hrest⟩ := Settles.refundBidder hs arith hfind hexists
                have hquiet : ∀ m ∈ [(⟨s.player, auction.itemEntry, .canceled, auction.id,
                    auction.itemCount, ⟨0, 0, auction.buyout, auction.deposit, 0⟩, 0,
                    [item]⟩ : Mail)], m.auctionId = auction.id ∧ m.silent = true := by
                  simp [Mail.silent, Mail.refunds]
                obtain ⟨hall, hsame⟩ := ht.silent hquiet
                refine hs.close hfind [] _ hall.remove ?_
                rw [hsame]
                exact hrest

/-- A house in which only purses, inventories and attachments differ is as sound. -/
theorem Sound.of_same_gold (hs : h.Sound) (hmoney : ∀ player, h'.money player < 2 ^ 64)
    (hauctions : h'.auctions = h.auctions) (hnext : h'.nextAuctionId = h.nextAuctionId)
    (hcharges : h'.charges = h.charges) (hmails : ∀ m ∈ h'.mails, m.auctionId < h.nextAuctionId)
    (hledger : ∀ id, ledger id h'.charges h'.mails = ledger id h.charges h.mails)
    (hout : ∀ id player,
      outstanding id player h'.charges h'.mails = outstanding id player h.charges h.mails) :
    h'.Sound where
  money_lt := hmoney
  openAuction := by
    intro id auction hfind
    rw [hauctions] at hfind
    have hold := hs.openAuction hfind
    refine ⟨hold.id_eq, hnext ▸ hold.id_lt, hold.bid_lt, hold.bid_of_none, ?_⟩
    intro player hplayer
    rw [hout, hold.outstanding_eq player hplayer]
  charges_lt := by
    rw [hcharges, hnext]
    exact hs.charges_lt
  mails_lt := by
    rw [hnext]
    exact hmails
  rest_eq := by
    intro id
    rw [hledger, hs.rest_eq, heldBid, heldBid, hauctions]

theorem Sound.earn (hs : h.Sound) (player : Guid) (amount : Int) :
    (h.modifyMoney player amount).Sound :=
  hs.of_same_gold (modifyMoney_money_lt hs player amount) rfl rfl rfl hs.mails_lt
    (fun _ => rfl) fun _ _ => rfl

theorem Sound.takeMailItems (hs : h.Sound) (index : Nat) : (h.takeMailItems index).Sound := by
  rw [House.takeMailItems]
  cases hget : h.mails[index]? with
  | none => exact hs
  | some mail =>
    have hmem : mail ∈ h.mails := List.mem_of_getElem? hget
    have hsame : ∀ (p : Mail → Bool) (amount : Mail → Nat),
        p { mail with items := [] } = p mail →
        amount { mail with items := [] } = amount mail →
        goldMailed p amount (h.mails.set index { mail with items := [] }) =
          goldMailed p amount h.mails := fun p amount hp hamount =>
      goldMailed_set hget hp hamount
    refine hs.of_same_gold hs.money_lt rfl rfl rfl ?_ (fun id => ?_) fun id player => ?_
    · intro m hm
      rcases List.mem_or_eq_of_mem_set hm with hm | rfl
      · exact hs.mails_lt m hm
      · exact hs.mails_lt mail hmem
    · simp only [ledger]
      rw [hsame _ _ rfl rfl, hsame _ _ rfl rfl, hsame _ _ rfl rfl, hsame _ _ rfl rfl]
    · simp only [outstanding]
      rw [hsame _ _ rfl rfl]

/-- A new auction starts without gold. -/
theorem Sound.addAuction (hs : h.Sound) (arith : Arithmetic) (owner : Guid)
    (request : SellRequest) (deposit : Nat) (item : Item) :
    (addAuction arith h owner request deposit item).Sound := by
  have hcharges : ∀ c ∈ h.charges, c.auctionId ≠ h.nextAuctionId := fun c hc =>
    (hs.charges_lt c hc).ne
  have hmails : ∀ m ∈ h.mails, m.auctionId ≠ h.nextAuctionId := fun m hm => (hs.mails_lt m hm).ne
  have hfind : ∀ k, (House.addAuction arith h owner request deposit item).auctions.find? k =
      if k = h.nextAuctionId then _ else h.auctions.find? k := fun k => OrderedMap.find?_insert ..
  refine ⟨hs.money_lt, ?_, fun c hc => Nat.lt_succ_of_lt (hs.charges_lt c hc),
    fun m hm => Nat.lt_succ_of_lt (hs.mails_lt m hm), ?_⟩
  · intro k auction hk
    rw [hfind] at hk
    split at hk
    · next hnew =>
        obtain rfl := Option.some.inj hk
        subst hnew
        refine ⟨rfl, Nat.lt_succ_self _, ?_, fun _ => rfl, fun player hplayer => ?_⟩
        · exact (Nat.eq_zero_or_pos _)
        · rw [show (House.addAuction arith h owner request deposit item).charges = h.charges from
            rfl, show (House.addAuction arith h owner request deposit item).mails = h.mails from
            rfl, outstanding_of_ne hcharges hmails, if_neg (Ne.symm hplayer)]
    · have hold := hs.openAuction hk
      exact ⟨hold.id_eq, Nat.lt_succ_of_lt hold.id_lt, hold.bid_lt, hold.bid_of_none,
        hold.outstanding_eq⟩
  · intro k
    rw [heldBid, hfind]
    by_cases hnew : k = h.nextAuctionId
    · subst hnew
      rw [if_pos rfl]
      exact ledger_rest_of_ne hcharges hmails
    · rw [if_neg hnew]
      exact hs.rest_eq k

theorem Sound.handleAuctionSellItem (hs : h.Sound) (arith : Arithmetic) (s : Session)
    (request : SellRequest) : (handleAuctionSellItem arith h s request).Sound := by
  rw [House.handleAuctionSellItem]
  cases h.checkSell s request with
  | none => exact hs
  | some offered =>
    obtain ⟨first, rest⟩ := offered
    dsimp only
    split
    · exact hs
    · have hpaid := hs.earn s.player (-(arith.int32 (sellDeposit s request first rest)))
      split
      · have hadded := hpaid.addAuction arith s.player request
          (sellDeposit s request first rest) first.1
        exact hadded.of_same_gold hadded.money_lt rfl rfl rfl hadded.mails_lt (fun _ => rfl)
          fun _ _ => rfl
      · have hadded := hpaid.addAuction arith s.player request
          (sellDeposit s request first rest) { first.1 with
            guid := h.nextItemGuid
            count := min (finalCount (first :: rest)) first.1.maxStackCount }
        exact hadded.of_same_gold hadded.money_lt rfl rfl rfl hadded.mails_lt (fun _ => rfl)
          fun _ _ => rfl

theorem Sound.step (hs : h.Sound) (arith : Arithmetic) {action : Action} (hok : h.Lossless action) :
    (step arith h action).Sound := by
  cases action with
  | sell s request => exact hs.handleAuctionSellItem arith s request
  | placeBid s id price => exact hs.handleAuctionPlaceBid arith hok
  | cancel s id => exact hs.handleAuctionRemoveItem arith hok
  | expire r id => exact hs.expire arith hok
  | takeMailItems index => exact hs.takeMailItems index
  | earn player amount => exact hs.earn player amount
  | findItem player item =>
    exact hs.of_same_gold hs.money_lt rfl rfl rfl hs.mails_lt (fun _ => rfl) fun _ _ => rfl

/-! ## No amount is lost -/

theorem placeBid_exact (arith : Arithmetic) (h : House) (s : Session) (hgt : auction.bid < price)
    (hprice : price < 2 ^ 32) :
    placeBid arith h s auction price = placeBid .exact h s auction price := by
  have hdiff : (price : Int) - auction.bid = ((price - auction.bid : Nat) : Int) := by omega
  have hstored := fun arith : Arithmetic => arith.uint32_of_lt hprice
  have hamount := fun arith : Arithmetic =>
    arith.int64_of_lt (show price < 2 ^ 63 by omega)
  have hrise := fun arith : Arithmetic =>
    arith.int64_of_lt (show price - auction.bid < 2 ^ 63 by omega)
  simp only [House.placeBid, hdiff, hstored, hamount, hrise]

theorem buyOut_exact (arith : Arithmetic) (h : House) (s : Session)
    (hbid : auction.bid < auction.buyout) (hfits : SaleFits s.toRealm auction auction.buyout) :
    buyOut arith h s auction = buyOut .exact h s auction := by
  have hsum := hfits.sum_lt
  have hdiff : (auction.buyout : Int) - auction.bid =
      ((auction.buyout - auction.bid : Nat) : Int) := by omega
  have hrest := fun arith : Arithmetic =>
    arith.uint32_of_lt (show auction.buyout - auction.bid < 2 ^ 32 by omega)
  have hrise := fun arith : Arithmetic =>
    arith.int64_of_lt (show auction.buyout - auction.bid < 2 ^ 63 by omega)
  have hamount := fun arith : Arithmetic =>
    arith.int64_of_lt (show auction.buyout < 2 ^ 63 by omega)
  have hpay : payBuyout arith h s auction = payBuyout .exact h s auction := by
    simp only [payBuyout, hdiff, hrest, hrise, hamount]
  have hsale : SaleFits s.toRealm { auction with bidder := s.player, bid := auction.buyout }
      auction.buyout := ⟨hfits.owner_exists, hfits.sum_lt, hfits.cut_le⟩
  have hpaid : ∀ h', sendAuctionSuccessfulMail arith h' s.toRealm
      { auction with bidder := s.player, bid := auction.buyout } =
        sendAuctionSuccessfulMail .exact h' s.toRealm
          { auction with bidder := s.player, bid := auction.buyout } := fun h' => by
    rw [sendAuctionSuccessfulMail_eq arith h' hsale, sendAuctionSuccessfulMail_eq .exact h' hsale]
  simp only [buyOut, hpay, hpaid]

theorem handleAuctionPlaceBid_exact (hs : h.Sound) (arith : Arithmetic)
    (hok : h.Lossless (.placeBid s id price)) :
    handleAuctionPlaceBid arith h s id price = handleAuctionPlaceBid .exact h s id price := by
  rw [handleAuctionPlaceBid, handleAuctionPlaceBid]
  cases htarget : h.bidTarget s id price with
  | none => rfl
  | some auction =>
    obtain ⟨hfind, hgt⟩ := bidTarget_eq_some htarget
    obtain ⟨hbid, hbuy⟩ := hok auction htarget
    dsimp only
    by_cases hbelow : belowBuyout auction price = true
    · obtain ⟨hnext, haccept⟩ := hbid hbelow
      have hsum : ((auction.bid : Int) + s.getAuctionOutBid auction.bid) =
          ((auction.bid + s.getAuctionOutBid auction.bid : Nat) : Int) := rfl
      rw [hsum, arith.uint32_of_lt hnext, Arithmetic.uint32_of_lt .exact hnext]
      split_ifs with hlow hpoor
      · rfl
      · rfl
      · have hprice := haccept (not_lt.mp fun hlt => hlow ⟨hbelow, hlt⟩) (by simpa using hpoor)
        exact placeBid_exact arith h s hgt hprice.1
    · have hskip : ∀ bound, ¬ (belowBuyout auction price = true ∧ price < bound) :=
        fun _ hlow => hbelow hlow.1
      rw [if_neg (hskip _), if_neg (hskip _), if_neg hbelow, if_neg hbelow]
      split_ifs with hpoor
      · rfl
      · obtain ⟨-, hfits⟩ := hbuy hbelow (by simpa using hpoor)
        rw [belowBuyout, Bool.or_eq_true, decide_eq_true_eq, decide_eq_true_eq, not_or] at hbelow
        exact buyOut_exact arith h s ((hs.openAuction hfind).bid_lt.resolve_left hbelow.2) hfits

theorem handleAuctionSellItem_exact (arith : Arithmetic) {request : SellRequest}
    (hok : h.Lossless (.sell s request)) :
    handleAuctionSellItem arith h s request = handleAuctionSellItem .exact h s request := by
  rw [handleAuctionSellItem, handleAuctionSellItem]
  cases hcheck : h.checkSell s request with
  | none => rfl
  | some offered =>
    obtain ⟨first, rest⟩ := offered
    dsimp only
    by_cases hmoney : hasEnoughMoney (h.money s.player) (sellDeposit s request first rest) = true
    · obtain ⟨hbid, hbuyout, hdeposit⟩ := hok (first, rest) hcheck hmoney
      have hbid := fun arith : Arithmetic => arith.uint32_of_lt hbid
      have hbuyout := fun arith : Arithmetic => arith.uint32_of_lt hbuyout
      have hdeposit := fun arith : Arithmetic => arith.int32_of_lt hdeposit
      simp only [addAuction, hbid, hbuyout, hdeposit]
    · simp only [hmoney, Bool.not_false, if_true]

/-- A lossless step computes what unbounded numbers would give. -/
theorem step_exact (hs : h.Sound) (arith : Arithmetic) {action : Action} (hok : h.Lossless action) :
    step arith h action = step .exact h action := by
  cases action with
  | sell s request => exact handleAuctionSellItem_exact arith hok
  | placeBid s id price => exact handleAuctionPlaceBid_exact hs arith hok
  | cancel s id =>
    have hcut := fun (arith : Arithmetic) bid => arith.int64_of_lt
      (show s.getAuctionCut bid < 2 ^ 63 from (getAuctionCut_lt s.toRealm bid).trans (by decide))
    simp only [step, handleAuctionRemoveItem, refundBidder, hcut]
  | expire r id =>
    simp only [step, House.expire]
    cases hfind : h.auctions.find? id with
    | none => rfl
    | some auction =>
      dsimp only
      split_ifs with hnone
      · rfl
      · have hfits := hok auction hfind hnone
        rw [sendAuctionSuccessfulMail_eq arith h hfits,
          sendAuctionSuccessfulMail_eq .exact h hfits]
  | takeMailItems index => rfl
  | earn player amount => rfl
  | findItem player item => rfl

theorem sound_start : start.Sound where
  money_lt := fun _ => Nat.two_pow_pos 64
  openAuction := fun h => by simp [start] at h
  charges_lt := by simp [start]
  mails_lt := by simp [start]
  rest_eq := fun _ => rfl

/-- In every lossless run the gold of every auction is accounted for, as with unbounded numbers. -/
theorem goldConserved_of_lossless {actions before : List Action}
    (hrun : Admissible (step .machine) Lossless start actions) (hbefore : before <+: actions) :
    run (step .machine) start before = run (step .exact) start before ∧
      (run (step .machine) start before).GoldConserved := by
  have hboth := hrun.holds_throughout
    (P := fun history h => h = run (step .exact) start history ∧ h.Sound)
    (fun {history h action} hold hok =>
      ⟨by rw [step_exact hold.2 .machine hok, hold.1, run, run, List.foldl_append]; rfl,
        hold.2.step .machine hok⟩)
    ⟨rfl, sound_start⟩ hbefore
  exact ⟨hboth.1, hboth.2.goldConserved⟩

/-- Two players bid for the item of a third; `price` is the first bid. -/
def outbidding (price : Nat) : List Action :=
  [.earn 1 1000, .earn 2 9000000000, .earn 3 9000000000,
    .findItem 1 ⟨0, 25, 1, 1, true, false, false, 0⟩,
    .sell (busySession 0) ⟨[(1, 1)], 1, 0, 720⟩,
    .placeBid (busySession 1) 1 price,
    .placeBid (busySession 2) 1 (price + price),
    .expire busyRealm 1]

/-- An auction with two bidders that ends in a sale. -/
theorem goldConserved_outbidding :
    Admissible (step .machine) Lossless start (outbidding 1000) ∧
      (run (step .machine) start (outbidding 1000)).GoldConserved := by
  have hrun : Admissible (step .machine) Lossless start (outbidding 1000) := by
    decide +kernel
  exact ⟨hrun, (goldConserved_of_lossless hrun List.prefix_rfl).2⟩

/-- A bid above 32 bits is charged in full and stored in part. -/
theorem gold_lost :
    ¬ ∀ actions, (run (step .machine) start actions).GoldConserved := by
  intro hall
  have hbalanced := (hall ((outbidding 4294967301).take 6)).balanced 1
  revert hbalanced
  decide +kernel

end House
end Cataclysm.Auction
