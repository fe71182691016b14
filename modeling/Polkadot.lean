import Polkadot.StatementTable.Defs
import Polkadot.StatementTable.Import
import Polkadot.Foundations.AListCount
import Polkadot.StatementTable.Outcomes
import Polkadot.StatementTable.FillBatch
import Polkadot.StatementTable.Consistency
import Polkadot.StatementTable.Includable
import Polkadot.StatementTable.Misbehavior
import Polkadot.Bft.Accumulator
import Polkadot.Bft.AccumulatorSound
import Polkadot.Bft.AccumulatorRuns
import Polkadot.Codec.Slicable
import Polkadot.Codec.Bft
import Polkadot.Codec.Generic
import Polkadot.Codec.Parachain
import Polkadot.Codec.Universe
import Polkadot.Bft.MisbehaviorCheck
import Polkadot.StateDb.Defs
import Polkadot.StateDb.Unfinalized
import Polkadot.Foundations.Fold
import Polkadot.StateDb.Pruning
import Polkadot.StateDb.StateDb
import Polkadot.StateDb.Reference
import Polkadot.Client.Import
import Polkadot.Client.InMem
import Polkadot.Client.Db
import Polkadot.Client.Storage
import Polkadot.Foundations.Quorum
import Polkadot.Bft.Strategy
import Polkadot.Bft.Agreement
import Polkadot.Bft.Protocol
import Polkadot.Bft.NodeSafe
import Polkadot.Bft.PollSafe
import Polkadot.Bft.Safety
import Polkadot.Foundations.MapWrites
import Polkadot.StateMachine.Ext
import Polkadot.StateMachine.Execute
import Polkadot.StateMachine.Refinement
import Polkadot.StateMachine.Sequences
import Polkadot.Foundations.SortedMap
import Polkadot.Network.Blocks
import Polkadot.Staking.Balances
import Polkadot.Staking.Nominations
import Polkadot.Democracy.EndBlock
import Polkadot.Council.Election
import Polkadot.Council.Registries
import Polkadot.Sandbox.Agreement
import Polkadot.Contract.Execute
import Polkadot.StateMachine.ExecutionProof
import Polkadot.Council.StakingRuntime
import Polkadot.StatementTable.Proposed
import Polkadot.Client.BlockBuilder
import Polkadot.Consensus.Evaluation
import Polkadot.Consensus.Proposer
import Polkadot.Foundations.SortedVec
import Polkadot.Parachains.Heads
import Polkadot.Parachains.DutyRoster
import Polkadot.Bft.Rounds
import Polkadot.Foundations.Blocks
import Polkadot.SafeMix.TripletMix
import Polkadot.SafeMix.Stack
import Polkadot.Foundations.LinearMemory
import Polkadot.Parachain.Wasm
import Polkadot.Parachain.Validation
import Polkadot.TransactionPool.Readiness
import Polkadot.Council.Reaping
import Polkadot.Council.Presentation
import Polkadot.Session.Rotation
import Polkadot.Session.Totality
import Polkadot.Bft.Honesty
import Polkadot.Bft.Blame
import Polkadot.Bft.Accountability
import Polkadot.Council.Voting
import Polkadot.Council.VotingQueue
import Polkadot.Council.VotingRules
import Polkadot.Foundations.LinkedMap
import Polkadot.Network.OnDemand
import Polkadot.Network.OnDemandRuns
import Polkadot.Network.OnDemandSafety
