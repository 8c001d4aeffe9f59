import Cataclysm.Lib.BitString
import Cataclysm.Lib.BlockStream
import Cataclysm.Lib.OrderedMap
import Cataclysm.Lib.Runs
import Cataclysm.Packets.ByteBuffer
import Cataclysm.Packets.Writer
import Cataclysm.Packets.Reader
import Cataclysm.Packets.RoundTrip
import Cataclysm.Packets.Alternation
import Cataclysm.Packets.WriteOrder
import Cataclysm.Movement.MovementInfo
import Cataclysm.Movement.Codec
import Cataclysm.Movement.Agreement
import Cataclysm.Server.WorldSocketInput
import Cataclysm.Server.WorldSocketOutput
import Cataclysm.Groups.SubGroups
import Cataclysm.Groups.LootRoll
import Cataclysm.Groups.Invites
import Cataclysm.DungeonFinding.LFGQueue
import Cataclysm.DungeonFinding.LFGMgr
import Cataclysm.DungeonFinding.Search
import Cataclysm.DungeonFinding.Exclusivity
import Cataclysm.Players.Money
import Cataclysm.Auction.AuctionHouse
import Cataclysm.Auction.Gold
import Cataclysm.Auction.Custody
import Cataclysm.Guilds.Guild
import Cataclysm.Guilds.Structure
import Cataclysm.Battlegrounds.BattlegroundQueue
import Cataclysm.Battlegrounds.QueueIntegrity
import Cataclysm.Battlegrounds.SoloQueue
import Cataclysm.Items.Item
import Cataclysm.Items.Slots
import Cataclysm.Items.Search
import Cataclysm.Items.Storage
import Cataclysm.Items.Room
import Cataclysm.Items.Holding
import Cataclysm.Items.Conservation
import Cataclysm.Guilds.Hierarchy
import Cataclysm.Guilds.RankList
import Cataclysm.Guilds.LogHolder
import Cataclysm.Guilds.Rights
import Cataclysm.Guilds.Membership
import Cataclysm.Guilds.BankMoney
import Cataclysm.Guilds.BankMoves
import Cataclysm.Guilds.BankQuota
import Cataclysm.Pools.PoolMgr
import Cataclysm.Pools.Accounting
import Cataclysm.Combat.ThreatManager
import Cataclysm.Combat.ThreatLists
import Cataclysm.Looting.Records
import Cataclysm.Looting.Filling
import Cataclysm.Looting.HandedOut
import Cataclysm.Looting.LootView
import Cataclysm.Lib.Counting
import Cataclysm.Looting.Exhaustion
import Cataclysm.Looting.CountedLists
import Cataclysm.Chat.Channel
import Cataclysm.Chat.Ownership
import Cataclysm.Tools.DumpClosure
import Cataclysm.Tools.DumpText
import Cataclysm.Tools.LoadDump
import Cataclysm.Tools.Renaming
import Cataclysm.AI.EventMap
import Cataclysm.AI.TimedEvents
import Cataclysm.Reputation.Counters
import Cataclysm.Reputation.SavedReputation
import Cataclysm.Authserver.AuthSocket
import Cataclysm.Authserver.Segmentation
import Cataclysm.Authserver.Authorization
import Cataclysm.Players.Currency
import Cataclysm.Players.CurrencyCaps
import Cataclysm.Players.CurrencyGains
import Cataclysm.Players.SavedCurrency
import Cataclysm.Groups.Leader
import Cataclysm.Skills.ArcheologyMgr
import Cataclysm.Skills.ResearchFields
import Cataclysm.Skills.ProjectChoice
import Cataclysm.Tickets.TicketMgr
import Cataclysm.Tickets.TicketQueue
import Cataclysm.Instances.GroupBinds
import Cataclysm.Instances.BindRuns
import Cataclysm.Groups.RollCompletion
import Cataclysm.Groups.RollOutcome
import Cataclysm.DungeonFinding.CompatibleCache
import Cataclysm.DungeonFinding.RoleSolver
import Cataclysm.DungeonFinding.ProposalPlayers
import Cataclysm.DungeonFinding.ProposalNotice
import Cataclysm.DungeonFinding.FailedProposal
import Cataclysm.Groups.RoundRobin
import Cataclysm.Items.BuyBack
import Cataclysm.Items.Destruction
import Cataclysm.Items.Payment
import Cataclysm.Battlegrounds.CrossFaction
import Cataclysm.Items.NewItem
import Cataclysm.Items.VoidStorage
import Cataclysm.Auction.StackAssembly
import Cataclysm.Lib.Greedy
import Cataclysm.Items.SearchRun
import Cataclysm.Items.Placement
import Cataclysm.Items.TotalRoom
import Cataclysm.Server.PacketHeader
import Cataclysm.Lib.SparseList
import Cataclysm.Packets.PackedGuid
import Cataclysm.Packets.Reuse
import Cataclysm.Packets.BackPatch
import Cataclysm.Battlegrounds.WaitingTime
import Cataclysm.Guilds.LoadRepair
import Cataclysm.Guilds.BankDeposit
import Cataclysm.Pools.QuestPools
import Cataclysm.Events.EventProcessor
import Cataclysm.Battlegrounds.BalancedFill
import Cataclysm.Lib.Acyclic
import Cataclysm.Pools.MotherPools
import Cataclysm.Combat.NextVictim
import Cataclysm.Combat.LazySort
import Cataclysm.Conditions.ConditionMgr
import Cataclysm.Conditions.LoadConditions
import Cataclysm.Conditions.ElseGroups
import Cataclysm.Conditions.TypeMask
import Cataclysm.Conditions.ReferenceTemplates
import Cataclysm.Tools.FieldAccess
import Cataclysm.AI.DelayEvents
import Cataclysm.Events.GameEvents
import Cataclysm.Utilities.TimeText
import Cataclysm.Instances.DoorStates
import Cataclysm.Instances.LoadResetTimes
import Cataclysm.Authserver.ProofBytes
