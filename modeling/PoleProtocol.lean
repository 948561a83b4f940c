import PoleProtocol.Chain.AggregateUpserts
import PoleProtocol.Chain.Audit
import PoleProtocol.Chain.Bonds
import PoleProtocol.Chain.BurnShares
import PoleProtocol.Chain.Claims
import PoleProtocol.Chain.Emission
import PoleProtocol.Chain.Evidence
import PoleProtocol.Chain.GenesisRoundTrip
import PoleProtocol.Chain.HourRewards
import PoleProtocol.Chain.Issuance
import PoleProtocol.Chain.MoreEvidence
import PoleProtocol.Chain.Ownership
import PoleProtocol.Chain.Payouts
import PoleProtocol.Chain.Privilege
import PoleProtocol.Chain.RecordProofs
import PoleProtocol.Chain.RewardAccounting
import PoleProtocol.Chain.RewardRecords
import PoleProtocol.Chain.Session
import PoleProtocol.Chain.Settlements
import PoleProtocol.Chain.Slashing
import PoleProtocol.Chain.SlotBudget
import PoleProtocol.Chain.Solvency
import PoleProtocol.Chain.Statements
import PoleProtocol.Chain.WitnessApportionment
import PoleProtocol.Chain.WitnessCredits
import PoleProtocol.Chain.WitnessFairness
import PoleProtocol.Chain.WordLimits
import PoleProtocol.Framework.Median
import PoleProtocol.Framework.OrderedMap
import PoleProtocol.Framework.Run
import PoleProtocol.Framework.Selection
import PoleProtocol.Framework.SquareRoot
import PoleProtocol.Ledger.ActiveParams
import PoleProtocol.Ledger.Agenda
import PoleProtocol.Ledger.Delegation
import PoleProtocol.Ledger.Effects
import PoleProtocol.Ledger.Finality
import PoleProtocol.Ledger.Locks
import PoleProtocol.Ledger.Proposals
import PoleProtocol.Ledger.Replay
import PoleProtocol.Ledger.StableHash
import PoleProtocol.Ledger.Unbonding
import PoleProtocol.Ledger.ValidParams
import PoleProtocol.Ledger.Voting
import PoleProtocol.Node.ActivitySources
import PoleProtocol.Node.AggregateRoot
import PoleProtocol.Node.AggregationOrder
import PoleProtocol.Node.AttestationLoss
import PoleProtocol.Node.BlockPayout
import PoleProtocol.Node.BridgeRoundTrip
import PoleProtocol.Node.ChallengeEncoding
import PoleProtocol.Node.CommitCounts
import PoleProtocol.Node.CrossValidation
import PoleProtocol.Node.Eip712
import PoleProtocol.Node.FileNetwork
import PoleProtocol.Node.GenesisBuilder
import PoleProtocol.Node.GvsScoring
import PoleProtocol.Node.HeartbeatBuckets
import PoleProtocol.Node.Impersonation
import PoleProtocol.Node.InstalledBytes
import PoleProtocol.Node.LostProgress
import PoleProtocol.Node.MalformedTraffic
import PoleProtocol.Node.MedianRobustness
import PoleProtocol.Node.MemoryNetwork
import PoleProtocol.Node.MessageRoundTrip
import PoleProtocol.Node.Mnemonic
import PoleProtocol.Node.PeerTable
import PoleProtocol.Node.ProcessNames
import PoleProtocol.Node.RetainedPayloads
import PoleProtocol.Node.RetentionAccounting
import PoleProtocol.Node.RewardAdjustment
import PoleProtocol.Node.RewardDistribution
import PoleProtocol.Node.RewardEvidence
import PoleProtocol.Node.RewardParity
import PoleProtocol.Node.RewardRoot
import PoleProtocol.Node.RollbackRestores
import PoleProtocol.Node.ServicePools
import PoleProtocol.Node.SettlementRetry
import PoleProtocol.Node.SignedTransactions
import PoleProtocol.Node.SplitTicks
import PoleProtocol.Node.SquareRootWords
import PoleProtocol.Node.SteamContainment
import PoleProtocol.Node.StorageAudit
import PoleProtocol.Node.Submission
import PoleProtocol.Node.TickSeconds
import PoleProtocol.Node.Versions
import PoleProtocol.Node.WitnessLimits
import PoleProtocol.Node.WitnessProvenance
import PoleProtocol.Node.WitnessRewards
