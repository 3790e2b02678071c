import Batchit.Audit
import Batchit.Core.Burn
import Batchit.Documented
import Batchit.Error
import Batchit.Events
import Batchit.Instructions.Accounts
import Batchit.Instructions.BeginLaunch
import Batchit.Instructions.Claim
import Batchit.Instructions.ClosePool
import Batchit.Instructions.CompleteBuy
import Batchit.Instructions.Contribute
import Batchit.Instructions.CreatePool
import Batchit.Instructions.Finalize
import Batchit.Instructions.Gates
import Batchit.Instructions.MarkRefundable
import Batchit.Instructions.Metas
import Batchit.Instructions.Refund
import Batchit.Layout
import Batchit.Lib.Bytes
import Batchit.Lib.Checked
import Batchit.Lib.Commute
import Batchit.Lib.Footprint
import Batchit.Lib.Machine
import Batchit.Lib.ProRata
import Batchit.Lib.Replay
import Batchit.Lib.Sha256
import Batchit.Lib.Store
import Batchit.Math
import Batchit.Orchestrator.Launch
import Batchit.Orchestrator.StateMachine
import Batchit.Properties.AuditTrail
import Batchit.Properties.Authority
import Batchit.Properties.Buys
import Batchit.Properties.Claims
import Batchit.Properties.Clients
import Batchit.Properties.Closing
import Batchit.Properties.Conservation
import Batchit.Properties.CostBasis
import Batchit.Properties.Custody
import Batchit.Properties.FirstFill
import Batchit.Properties.Lamports
import Batchit.Properties.LaunchPath
import Batchit.Properties.Launches
import Batchit.Properties.Lifecycle
import Batchit.Properties.Orchestration
import Batchit.Properties.Parallel
import Batchit.Properties.Payouts
import Batchit.Properties.PdaBuyers
import Batchit.Properties.Reclaiming
import Batchit.Properties.Refunds
import Batchit.Properties.Refusals
import Batchit.Properties.Renewal
import Batchit.Properties.Schedule
import Batchit.Properties.Settlement
import Batchit.Properties.Solvency
import Batchit.Properties.Submissions
import Batchit.Properties.Unwinding
import Batchit.Protocol.Custody
import Batchit.Protocol.Effect
import Batchit.Protocol.Escrow
import Batchit.Protocol.Frame
import Batchit.Protocol.History
import Batchit.Protocol.Invariant
import Batchit.Protocol.Inversion
import Batchit.Protocol.Isolation
import Batchit.Protocol.Ledger
import Batchit.Protocol.Lifecycle
import Batchit.Protocol.Locks
import Batchit.Protocol.Market
import Batchit.Protocol.Records
import Batchit.Protocol.Schedule
import Batchit.Protocol.Shares
import Batchit.Protocol.Spending
import Batchit.Protocol.Step
import Batchit.Protocol.Supply
import Batchit.Pump
import Batchit.PumpAccounts
import Batchit.Spikes.PdaBuyer
import Batchit.State
import Batchit.Tests.Builders
import Batchit.Tests.PoolReaders
import Batchit.Token
import Batchit.TokenLaws
import Batchit.Wire.Dispatch
import Batchit.Wire.Instruction
import Batchit.World
