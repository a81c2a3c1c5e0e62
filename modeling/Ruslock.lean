import Ruslock.Lib.Bytes
import Ruslock.Lib.Transition
import Ruslock.Lib.Cyclic
import Ruslock.Lib.Dialogue
import Ruslock.Lib.Prefixed
import Ruslock.Lib.Turns
import Ruslock.IdCounter
import Ruslock.LockDataTree
import Ruslock.LockResult
import Ruslock.LockResultList
import Ruslock.LockResultMap
import Ruslock.MapEntries
import Ruslock.ResultValue
import Ruslock.ResultStage
import Ruslock.UsizeDecoder
import Ruslock.DecoderSafety
import Ruslock.Primitives
import Ruslock.Event
import Ruslock.LockVariants
import Ruslock.TreeLeafLock
import Ruslock.PrimitiveCalls
import Ruslock.DefaultFlags
import Ruslock.CurrentData
import Ruslock.GroupVersion
import Ruslock.LockKeys
import Ruslock.ReadLocks
import Ruslock.ReadOrder
import Ruslock.RequestStream
import Ruslock.EmbeddedCommand
import Ruslock.ResponseStream
import Ruslock.ConnectionLocks
import Ruslock.LockOrder
import Ruslock.ConnectionPending
import Ruslock.ResponseMatching
import Ruslock.Generations
import Ruslock.LiveReader
import Ruslock.WholeFrames
import Ruslock.ClosedFlag
import Ruslock.Cancellation
import Ruslock.ConnectionEnd
import Ruslock.Teardown
import Ruslock.ReplsetSteps
import Ruslock.OpenLeader
import Ruslock.LeaderStatus
import Ruslock.PendingQueue
import Ruslock.RetryRounds
import Ruslock.RetryOrder
import Ruslock.RetryDeadline
import Ruslock.ServerWait
import Ruslock.EndingLoops
import Ruslock.CloseFinal
import Ruslock.ConnectionHealth
import Ruslock.HealthyConnection
import Ruslock.ConnectionOutcomes
import Ruslock.RetryOutcome
import Ruslock.WaitTimeout
import Ruslock.Lib.Fields
import Ruslock.NodeList
import Ruslock.ReceivedStream
import Ruslock.Handshake
import Ruslock.ServerView
import Ruslock.OwnAnswers
import Ruslock.ServedCalls
import Ruslock.StampedPrograms
import Ruslock.SharedClient
import Ruslock.SharedIds
import Ruslock.ReplsetAnswers
import Ruslock.RetryBound
import Ruslock.SharedCalls
import Ruslock.ClientBackend
import Ruslock.ReplsetPing
import Ruslock.KeptAnswers
import Ruslock.ClientSessions
import Ruslock.Lib.Workload
import Ruslock.Quiescence
import Ruslock.ReplsetQuiescence
