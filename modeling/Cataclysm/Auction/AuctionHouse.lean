import Cataclysm.Groups.SubGroups
import Cataclysm.Lib.OrderedMap
import Cataclysm.Players.Money

/-!
# The auction house

An auction takes an item out of an inventory into the item map of the auction house and
gives it to somebody by mail when it ends. Bidders pay when they bid and get their gold
back by mail when somebody else bids more or the owner cancels.

The requests compute with `uint64` amounts, the entry of an auction holds `uint32`. The
handlers below take the arithmetic as a parameter: `machine` is the one of the source,
`exact` never loses anything.

## Implementation notes

The three houses share no auction, so one map of auctions stands for all of them. Answers
to the client, scripts and the database copy are not modelled; the database query of
`Update` is the list of auctions that it returns. What floating point computes (`CalculatePct`,
the rate of the cut and the deposit) is given from outside. `Charge` records what a bidder's
purse lost; the source has no such record.
-/

namespace Cataclysm.Auction

/-- The arithmetic of the amounts: the source's widths, or unbounded numbers. -/
inductive Arithmetic
  | machine
  | exact
  deriving DecidableEq

namespace Arithmetic

def uint32 : Arithmetic → Int → Nat
  | machine, z => Cataclysm.uint32 z
  | exact, z => z.toNat

def int32 : Arithmetic → Int → Int
  | machine, z => Cataclysm.int32 z
  | exact, z => z

def int64 : Arithmetic → Int → Int
  | machine, z => Cataclysm.int64 z
  | exact, z => z

theorem uint32_of_lt (arith : Arithmetic) {n : Nat} (h : n < 2 ^ 32) : arith.uint32 n = n := by
  cases arith with
  | machine => exact Cataclysm.uint32_of_lt h
  | exact => rfl

theorem int32_of_lt (arith : Arithmetic) {n : Nat} (h : n < 2 ^ 31) : arith.int32 n = n := by
  cases arith with
  | machine => exact Cataclysm.int32_of_lt h
  | exact => rfl

theorem int64_of_lt (arith : Arithmetic) {n : Nat} (h : n < 2 ^ 63) : arith.int64 n = n := by
  cases arith with
  | machine => exact Cataclysm.int64_of_lt h
  | exact => rfl

end Arithmetic

/-- The fields of an `Item` that the handlers read. -/
structure Item where
  guid : Nat
  entry : Nat
  count : Nat
  maxStackCount : Nat
  canBeTraded : Bool
  isNotEmptyBag : Bool
  conjured : Bool
  duration : Nat
  deriving DecidableEq

/-- An open auction. -/
structure AuctionEntry where
  id : Nat
  itemGUIDLow : Nat
  itemEntry : Nat
  itemCount : Nat
  owner : Guid
  startbid : Nat
  bid : Nat
  buyout : Nat
  bidder : Guid
  deposit : Nat
  deriving DecidableEq

/-- What a mail of the house says. -/
inductive MailAuctionAnswers
  | outbidded
  | won
  | successful
  | expired
  | cancelledToBidder
  | canceled
  | salePending
  deriving DecidableEq

/-- `BuildAuctionMailBody`. -/
structure MailBody where
  lowGuid : Guid
  bid : Nat
  buyout : Nat
  deposit : Nat
  cut : Nat
  deriving DecidableEq

/-- A mail of the auction house; the first five fields are its receiver and its subject. -/
structure Mail where
  receiver : Guid
  itemEntry : Nat
  response : MailAuctionAnswers
  auctionId : Nat
  itemCount : Nat
  body : MailBody
  money : Nat
  items : List Item
  deriving DecidableEq

/-- What `ModifyMoney` took from a bidder of an auction. -/
structure Charge where
  auctionId : Nat
  player : Guid
  amount : Int
  deriving DecidableEq

/-- What the handlers learn from outside: who is in the world, the accounts, the settings. -/
structure Realm where
  findPlayer : Guid → Bool
  getPlayerAccountIdByGUID : Guid → Nat
  gmLogTrade : Bool
  calculatePct : Nat → Nat → Nat
  cutPercent : Nat
  cutAtRate : Nat → Int
  depositAtRate : Item → Nat → Nat → Nat

/-- The realm as the request of a player in the world meets it. -/
structure Session extends Realm where
  player : Guid
  player_ne_zero : player ≠ 0
  player_online : findPlayer player = true
  auctioneer : Bool

namespace Realm

/-- The share of the house. -/
def getAuctionCut (r : Realm) (bid : Nat) : Nat :=
  (max (int32 (r.cutAtRate (r.calculatePct bid r.cutPercent))) 0).toNat

/-- The least step between two bids. -/
def getAuctionOutBid (r : Realm) (bid : Nat) : Nat :=
  let outbid := r.calculatePct bid 5
  if outbid ≠ 0 then outbid else 1

/-- The player is online, or his character still belongs to an account. -/
def exists? (r : Realm) (player : Guid) : Bool :=
  r.findPlayer player || r.getPlayerAccountIdByGUID player ≠ 0

/-- `bidder_accId` of `SendAuctionWonMail`, which is looked up for the log only. -/
def bidderAccId (r : Realm) (bidder : Guid) : Nat :=
  if r.gmLogTrade then r.getPlayerAccountIdByGUID bidder else 0

end Realm

/-- The packet of a seller. -/
structure SellRequest where
  items : List (Nat × Nat)
  bid : Nat
  buyout : Nat
  etime : Nat
  deriving DecidableEq

/-- The auctions, the items in them, and what the players have. -/
structure House where
  auctions : OrderedMap Nat AuctionEntry
  aItems : OrderedMap Nat Item
  inventory : OrderedMap Nat (Guid × Item)
  money : Guid → Nat
  mails : List Mail
  charges : List Charge
  nextAuctionId : Nat
  nextItemGuid : Nat

namespace House

/-- The purse of a player changes. -/
def modifyMoney (h : House) (player : Guid) (amount : Int) : House :=
  { h with
    money := Function.update h.money player
      (Cataclysm.modifyMoney (h.money player) amount).1 }

/-- `ModifyMoney` of a bidder, with the record of what his purse lost. -/
def chargeBidder (h : House) (auctionId : Nat) (player : Guid) (amount : Int) : House :=
  { h.modifyMoney player amount with
    charges := h.charges ++
      [⟨auctionId, player, h.money player - (h.modifyMoney player amount).money player⟩] }

/-- `SendMailTo` of a draft about an auction. -/
def sendMailTo (h : House) (auction : AuctionEntry) (response : MailAuctionAnswers)
    (receiver : Guid) (body : MailBody) (money : Nat) (items : List Item) : House :=
  { h with
    mails := h.mails ++
      [⟨receiver, auction.itemEntry, response, auction.id, auction.itemCount, body, money,
        items⟩] }

/-- The item goes to the winner. -/
def sendAuctionWonMail (h : House) (r : Realm) (auction : AuctionEntry) : House :=
  match h.aItems.find? auction.itemGUIDLow with
  | none => h
  | some item =>
    if r.findPlayer auction.bidder || r.bidderAccId auction.bidder ≠ 0 then
      h.sendMailTo auction .won auction.bidder
        ⟨auction.owner, auction.bid, auction.buyout, 0, 0⟩ 0 [item]
    else h

/-- The seller hears of a sale. -/
def sendAuctionSalePendingMail (h : House) (r : Realm) (auction : AuctionEntry) : House :=
  if r.exists? auction.owner then
    h.sendMailTo auction .salePending auction.owner
      ⟨auction.bidder, auction.bid, auction.buyout, auction.deposit,
        r.getAuctionCut auction.bid⟩ 0 []
  else h

/-- The seller gets the price without the cut. -/
def sendAuctionSuccessfulMail (arith : Arithmetic) (h : House) (r : Realm)
    (auction : AuctionEntry) : House :=
  if r.exists? auction.owner then
    let cut := r.getAuctionCut auction.bid
    let profit := arith.uint32 (arith.uint32 (auction.bid + auction.deposit) - cut)
    h.sendMailTo auction .successful auction.owner
      ⟨auction.bidder, auction.bid, auction.buyout, auction.deposit, cut⟩ profit []
  else h

/-- The item goes back to the seller. -/
def sendAuctionExpiredMail (h : House) (r : Realm) (auction : AuctionEntry) : House :=
  match h.aItems.find? auction.itemGUIDLow with
  | none => h
  | some item =>
    if r.exists? auction.owner then
      h.sendMailTo auction .expired auction.owner
        ⟨0, 0, auction.buyout, auction.deposit, 0⟩ 0 [item]
    else h

/-- The former bidder gets his money back. -/
def sendAuctionOutbiddedMail (h : House) (r : Realm) (auction : AuctionEntry) : House :=
  if r.exists? auction.bidder then
    h.sendMailTo auction .outbidded auction.bidder
      ⟨auction.owner, auction.bid, auction.buyout, auction.deposit,
        r.getAuctionCut auction.bid⟩ auction.bid []
  else h

/-- The bidder gets his money back. -/
def sendAuctionCancelledToBidderMail (h : House) (r : Realm) (auction : AuctionEntry) : House :=
  if r.exists? auction.bidder then
    h.sendMailTo auction .cancelledToBidder auction.bidder
      ⟨auction.owner, auction.bid, auction.buyout, auction.deposit, 0⟩ auction.bid []
  else h

/-- `RemoveAItem` and `RemoveAuction`. -/
def removeAuction (h : House) (auction : AuctionEntry) : House :=
  { h with
    aItems := h.aItems.erase auction.itemGUIDLow
    auctions := h.auctions.erase auction.id }

/-- `MAX_AUCTION_ITEMS`. -/
def maxAuctionItems : Nat := 160

/-- `MIN_AUCTION_TIME`. -/
def minAuctionTime : Nat := 12 * 3600

/-- `Player::GetItemByGuid`. -/
def getItemByGuid (h : House) (player : Guid) (guid : Nat) : Option Item :=
  match h.inventory.find? guid with
  | some (holder, item) => if holder = player then some item else none
  | none => none

def finalCount (items : List (Item × Nat)) : Nat := (items.map Prod.snd).sum

/-- The checks of `HandleAuctionSellItem`: the stacks with the counts taken from each. -/
def checkSell (h : House) (s : Session) (request : SellRequest) :
    Option ((Item × Nat) × List (Item × Nat)) :=
  if maxAuctionItems < request.items.length then none
  else if request.items.any fun (guid, count) => guid = 0 || count = 0 || 1000 < count then none
  else if request.bid = 0 || request.etime = 0 then none
  else if maxMoneyAmount < request.bid || maxMoneyAmount < request.buyout then none
  else if !s.auctioneer then none
  else if uint32 (request.etime * 60) ∉
      [1 * minAuctionTime, 2 * minAuctionTime, 4 * minAuctionTime] then none
  else
    match request.items.mapM fun (guid, count) =>
        (h.getItemByGuid s.player guid).map fun item => (item, count) with
    | some (first :: rest) =>
      let items := first :: rest
      if items.any fun (item, count) =>
          h.aItems.contains item.guid || !item.canBeTraded || item.isNotEmptyBag ||
          item.conjured || item.duration ≠ 0 || item.count < count ||
          item.entry ≠ first.1.entry then none
      else if ¬ (request.items.map Prod.fst).Nodup then none
      else if items.any fun (item, _) => item.maxStackCount < finalCount items then none
      else some (first, rest)
    | _ => none

/-- `GetAuctionDeposit` of the first stack for all that is sold. -/
def sellDeposit (s : Session) (request : SellRequest) (first : Item × Nat)
    (rest : List (Item × Nat)) : Nat :=
  s.depositAtRate first.1 (uint32 (request.etime * 60)) (finalCount (first :: rest))

/-- `AddAItem` and `AddAuction` of a new entry. -/
def addAuction (arith : Arithmetic) (h : House) (owner : Guid) (request : SellRequest)
    (deposit : Nat) (item : Item) : House :=
  { h with
    aItems := h.aItems.insert item.guid item
    auctions := h.auctions.insert h.nextAuctionId
      { id := h.nextAuctionId, itemGUIDLow := item.guid, itemEntry := item.entry,
        itemCount := item.count, owner := owner, startbid := arith.uint32 request.bid, bid := 0,
        buyout := arith.uint32 request.buyout, bidder := 0, deposit := deposit }
    nextAuctionId := h.nextAuctionId + 1 }

/-- A stack that is sold leaves the inventory, whole or in part. -/
def takeStack (player : Guid) (inventory : OrderedMap Nat (Guid × Item)) (stack : Item × Nat) :
    OrderedMap Nat (Guid × Item) :=
  if stack.1.count = stack.2 then inventory.erase stack.1.guid
  else inventory.insert stack.1.guid
    (player, { stack.1 with count := stack.1.count - stack.2 })

/-- A player puts items up for sale. -/
def handleAuctionSellItem (arith : Arithmetic) (h : House) (s : Session)
    (request : SellRequest) : House :=
  match h.checkSell s request with
  | none => h
  | some (first, rest) =>
    let deposit := sellDeposit s request first rest
    if !hasEnoughMoney (h.money s.player) deposit then h
    else
      let h := h.modifyMoney s.player (-(arith.int32 deposit))
      if rest = [] ∧ first.1.count = first.2 then
        let h := addAuction arith h s.player request deposit first.1
        { h with inventory := h.inventory.erase first.1.guid }
      else
        let newItem := { first.1 with
          guid := h.nextItemGuid
          count := min (finalCount (first :: rest)) first.1.maxStackCount }
        let h := addAuction arith h s.player request deposit newItem
        { h with
          inventory := (first :: rest).foldl (takeStack s.player) h.inventory
          nextItemGuid := h.nextItemGuid + 1 }

/-- The auction that a bid is for, when the first checks of `HandleAuctionPlaceBid` pass. -/
def bidTarget (h : House) (s : Session) (auctionId price : Nat) : Option AuctionEntry :=
  if auctionId = 0 || price = 0 || !s.auctioneer then none
  else
    match h.auctions.find? auctionId with
    | none => none
    | some auction =>
      if auction.owner = s.player then none
      else if price ≤ auction.bid || price < auction.startbid then none
      else some auction

/-- The price does not buy the auction out. -/
def belowBuyout (auction : AuctionEntry) (price : Nat) : Bool :=
  price < auction.buyout || auction.buyout = 0

/-- A bid below the buyout. -/
def placeBid (arith : Arithmetic) (h : House) (s : Session) (auction : AuctionEntry)
    (price : Nat) : House :=
  let h :=
    if auction.bidder > 0 then
      if auction.bidder = s.player then
        h.chargeBidder auction.id s.player (-(arith.int64 (price - auction.bid)))
      else
        (h.sendAuctionOutbiddedMail s.toRealm auction).chargeBidder auction.id s.player
          (-(arith.int64 price))
    else h.chargeBidder auction.id s.player (-(arith.int64 price))
  { h with
    auctions := h.auctions.insert auction.id
      { auction with bidder := s.player, bid := arith.uint32 price } }

/-- The buyer pays, and a bidder who is ahead gets his gold back. -/
def payBuyout (arith : Arithmetic) (h : House) (s : Session) (auction : AuctionEntry) : House :=
  if s.player = auction.bidder then
    h.chargeBidder auction.id s.player
      (-(arith.int64 (arith.uint32 (auction.buyout - auction.bid))))
  else
    let h := h.chargeBidder auction.id s.player (-(arith.int64 auction.buyout))
    if auction.bidder ≠ 0 then h.sendAuctionOutbiddedMail s.toRealm auction else h

/-- A bid that reaches the buyout ends the auction. -/
def buyOut (arith : Arithmetic) (h : House) (s : Session) (auction : AuctionEntry) : House :=
  let h := payBuyout arith h s auction
  let auction := { auction with bidder := s.player, bid := auction.buyout }
  let h := h.sendAuctionSalePendingMail s.toRealm auction
  let h := sendAuctionSuccessfulMail arith h s.toRealm auction
  let h := h.sendAuctionWonMail s.toRealm auction
  h.removeAuction auction

/-- A bid with its checks. -/
def handleAuctionPlaceBid (arith : Arithmetic) (h : House) (s : Session)
    (auctionId price : Nat) : House :=
  match h.bidTarget s auctionId price with
  | none => h
  | some auction =>
    if belowBuyout auction price ∧
        price < arith.uint32 (auction.bid + s.getAuctionOutBid auction.bid) then h
    else if !hasEnoughMoney (h.money s.player) price then h
    else if belowBuyout auction price then placeBid arith h s auction price
    else buyOut arith h s auction

/-- The bidder of an auction that is cancelled gets his gold back, and the owner pays the cut. -/
def refundBidder (arith : Arithmetic) (h : House) (s : Session) (auction : AuctionEntry) : House :=
  if auction.bidder > 0 then
    (h.sendAuctionCancelledToBidderMail s.toRealm auction).modifyMoney s.player
      (-(arith.int64 (s.getAuctionCut auction.bid)))
  else h

/-- The seller cancels the auction. -/
def handleAuctionRemoveItem (arith : Arithmetic) (h : House) (s : Session)
    (auctionId : Nat) : House :=
  if !s.auctioneer then h
  else
    match h.auctions.find? auctionId with
    | none => h
    | some auction =>
      if auction.owner ≠ s.player then h
      else
        match h.aItems.find? auction.itemGUIDLow with
        | none => h
        | some item =>
          if auction.bidder > 0 ∧
              !hasEnoughMoney (h.money s.player) (s.getAuctionCut auction.bid) then h
          else
            let h := refundBidder arith h s auction
            let h := h.sendMailTo auction .canceled s.player
              ⟨0, 0, auction.buyout, auction.deposit, 0⟩ 0 [item]
            h.removeAuction auction

/-- One row of `AuctionHouseObject::Update`. -/
def expire (arith : Arithmetic) (h : House) (r : Realm) (auctionId : Nat) : House :=
  match h.auctions.find? auctionId with
  | none => h
  | some auction =>
    let h :=
      if auction.bidder = 0 then h.sendAuctionExpiredMail r auction
      else (sendAuctionSuccessfulMail arith h r auction).sendAuctionWonMail r auction
    h.removeAuction auction

/-- A player takes the attachments out of one of his mails. -/
def takeMailItems (h : House) (index : Nat) : House :=
  match h.mails[index]? with
  | none => h
  | some mail =>
    { h with
      mails := h.mails.set index { mail with items := [] }
      inventory := mail.items.foldl
        (fun inventory item => inventory.insert item.guid (mail.receiver, item)) h.inventory }

/-- What happens around the auctions; `earn` is any other use of a purse. -/
inductive Action
  | sell (s : Session) (request : SellRequest)
  | placeBid (s : Session) (auctionId price : Nat)
  | cancel (s : Session) (auctionId : Nat)
  | expire (r : Realm) (auctionId : Nat)
  | takeMailItems (index : Nat)
  | earn (player : Guid) (amount : Int)
  | findItem (player : Guid) (item : Item)

/-- One request, or the update of the house. -/
def step (arith : Arithmetic) (h : House) : Action → House
  | .sell s request => handleAuctionSellItem arith h s request
  | .placeBid s auctionId price => handleAuctionPlaceBid arith h s auctionId price
  | .cancel s auctionId => handleAuctionRemoveItem arith h s auctionId
  | .expire r auctionId => expire arith h r auctionId
  | .takeMailItems index => h.takeMailItems index
  | .earn player amount => h.modifyMoney player amount
  | .findItem player item =>
    { h with
      inventory := h.inventory.insert h.nextItemGuid
        (player, { item with guid := h.nextItemGuid })
      nextItemGuid := h.nextItemGuid + 1 }

/-- `AuctionHouseObject::Update`: the expired auctions one after the other. -/
def update (arith : Arithmetic) (h : House) (r : Realm) (expired : List Nat) : House :=
  expired.foldl (fun h auctionId => expire arith h r auctionId) h

/-- No auction was opened yet and nobody has anything. -/
def start : House :=
  ⟨OrderedMap.empty, OrderedMap.empty, OrderedMap.empty, fun _ => 0, [], [], 1, 1⟩

/-- Everybody is online, a sale costs five in a hundred and a deposit one gold piece. -/
def busyRealm : Realm where
  findPlayer := fun _ => true
  getPlayerAccountIdByGUID := fun guid => guid
  gmLogTrade := true
  calculatePct := fun base pct => base * pct / 100
  cutPercent := 5
  cutAtRate := fun cut => cut
  depositAtRate := fun _ _ _ => 100

/-- The session of player `n + 1`. -/
def busySession (n : Nat) : Session :=
  { busyRealm with
    player := n + 1, player_ne_zero := Nat.succ_ne_zero n, player_online := rfl, auctioneer := true }

end House
end Cataclysm.Auction
