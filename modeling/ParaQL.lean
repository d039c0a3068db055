import ParaQL.Async.Task
import ParaQL.Async.Related
import ParaQL.Async.Blind
import ParaQL.Async.Interference
import ParaQL.Async.Machine
import ParaQL.Async.Ghost
import ParaQL.Bytes.Buffer
import ParaQL.Bytes.Paging
import ParaQL.Bytes.FlatFile
import ParaQL.Bytes.Encoding
import ParaQL.JsMap
import ParaQL.JsValue
import ParaQL.PageStore
import ParaQL.Vfs
import ParaQL.VfsSteps
import ParaQL.VfsLockstep
import ParaQL.Binding
import ParaQL.PageFiles
import ParaQL.VfsRefinement
import ParaQL.FlatFiles
import ParaQL.PageSplitting
import ParaQL.Truncation
import ParaQL.CommitAtomicity
import ParaQL.Transparency
import ParaQL.ErrorReporting
import ParaQL.SpuriousErrors
import ParaQL.Deletion
import ParaQL.Routing
import ParaQL.Sqlite
import ParaQL.Database
import ParaQL.Oplog
import ParaQL.OperationCodec
import ParaQL.Occurrences
import ParaQL.ParameterBinding
import ParaQL.ParameterMatching
import ParaQL.ParameterAssignment
import ParaQL.KeyMatching
import ParaQL.Numbers.Binary
import ParaQL.NativeValues
import ParaQL.BindFidelity
import ParaQL.NumberBoundary
import ParaQL.ReplicatedBinding
import ParaQL.EngineSteps
import ParaQL.ApplyRule
import ParaQL.Wedging
import ParaQL.WriteLog
import ParaQL.OwnOutcomes
import ParaQL.FlushAccounting
import ParaQL.AppendRejection
import ParaQL.SameWork
import ParaQL.OpenStatements
import ParaQL.FlushedBatch
import ParaQL.SharedStatement
import ParaQL.BatchQueue
import ParaQL.StatementLifecycle
import ParaQL.StatementCache
import ParaQL.Recency
import ParaQL.SequentialCache
import ParaQL.VfsRegistry
import ParaQL.WorkerTasks
import ParaQL.ErrorMessages
import ParaQL.ConnectionHandles
import ParaQL.ChangeCounts
import ParaQL.ScriptExecution
import ParaQL.LentBytes
import ParaQL.Async.Pool
import ParaQL.ViewSwitching
import ParaQL.Pointers.DoublyLinked
import ParaQL.StatementPointers
import ParaQL.StatementList
import ParaQL.Traces.Resources
import ParaQL.BindAccounting
import ParaQL.CipherTrace
import ParaQL.PagePuts
import ParaQL.NonceReuse
import ParaQL.Async.Rendezvous
import ParaQL.CallBridge
import ParaQL.Async.Matching
import ParaQL.Grouping
import ParaQL.NodeReading
import ParaQL.HandleLeaks
import ParaQL.Async.Loans
import ParaQL.BorrowedMemory
import ParaQL.Async.Tandem
import ParaQL.Async.TandemPools
import ParaQL.OptionTandem
import ParaQL.HiddenOptions
import ParaQL.StatementRest
import ParaQL.Async.Serving
import ParaQL.Bytes.FileSystem
import ParaQL.OpenFiles
import ParaQL.FileSystemRefinement
import ParaQL.NodeEffects
import ParaQL.Async.Rejections
import ParaQL.ErrorCodes
import ParaQL.Async.Undisturbed
import ParaQL.LocalReads
import ParaQL.Preparation
import ParaQL.PeerCalls
import ParaQL.Replicas
import ParaQL.Replay
