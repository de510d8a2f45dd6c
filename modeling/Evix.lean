import Evix.Library.Machine
import Evix.Library.Exploration
import Evix.Library.SortedMap
import Evix.Library.Transcript
import Evix.Protocol
import Evix.Config
import Evix.State
import Evix.RemoteProto
import Evix.AsyncMaster.Scheduler
import Evix.AsyncMaster.Coordinate
import Evix.RemoteWorker.Link
import Evix.Verif.Moves
import Evix.Verif.Bookkeeping
import Evix.Verif.Chronicle
import Evix.Verif.Traversal
import Evix.Verif.Completion
import Evix.Verif.RemoteService
import Evix.Verif.RemoteLink
import Evix.Verif.RemoteItems
import Evix.Filter
import Evix.Run
import Evix.Session
import Evix.Verif.SessionMoves
import Evix.Verif.WarmGraph
import Evix.Library.Patch
import Evix.Verif.Diffs
import Evix.Verif.Watching
import Evix.Daemon.Handlers
import Evix.Clock
import Evix.Verif.Replay
import Evix.Verif.Deadlines
import Evix.Library.Lru
import Evix.Verif.Registry
import Evix.Verif.InitialMoves
import Evix.Verif.Flags
import Evix.Json
import Evix.Verif.Wakeups
import Evix.Verif.Ndjson
import Evix.Daemon.Response
import Evix.Library.Text
import Evix.Cli
import Evix.Verif.DaemonEval
import Evix.RemoteProto.Wire
import Evix.Verif.WireCodec
import Evix.RemoteWorker.Gate
import Evix.Verif.Gate
import Evix.Library.Fallible
import Evix.Library.Termination
import Evix.Eval
import Evix.Verif.DepthLimit
import Evix.GcRoots
import Evix.Library.FileSystem
import Evix.Verif.GcRoots
import Evix.Library.Glob
import Evix.Verif.Wildcards
import Evix.Verif.GraphPatch
import Evix.Args
import Evix.Verif.Prefixes
import Evix.Verif.Navigation
import Evix.Meta
import Evix.Verif.MetaJson
import Evix.Worker
import Evix.Daemon.SessionKey
import Evix.Verif.SessionKey
import Evix.Verif.Recording
import Evix.DaemonRequest
import Evix.Verif.Portability
import Evix.Daemon.Startup
import Evix.Verif.Startup
import Evix.Library.Descriptors
import Evix.Fleet
import Evix.Verif.Fleet
import Evix.NixOptions
import Evix.Verif.NixOptions
import Evix.FlakeReference
import Evix.Verif.FlakeReference
import Evix.Verif.DaemonReference
import Evix.Library.Stream
import Evix.Daemon.Framing
import Evix.Verif.Framing
import Evix.AsyncMaster.Cleanup
import Evix.Verif.Cleanup
import Evix.DaemonConnections
import Evix.Verif.DaemonConnections
import Evix.Verif.Arguments
import Evix.StderrCapture
import Evix.Verif.StderrCapture
import Evix.Daemon.Serving
import Evix.Library.Admission
import Evix.Verif.Serving
import Evix.RemoteWorker.Serve
import Evix.Verif.RemoteServing
import Evix.Library.Record
import Evix.Daemon.Request
import Evix.Verif.Requests
import Evix.Daemon.Conversation
import Evix.Verif.Conversation
import Evix.Daemon.Launch
import Evix.Verif.LaunchMoves
import Evix.Verif.Launch
import Evix.Verif.LaunchLeftovers
import Evix.CommandPlan
import Evix.Verif.CommandPlan
import Evix.LocalWorker.Link
import Evix.Verif.LocalProcess
import Evix.Verif.LocalLink
import Evix.Verif.LocalWorkers
import Evix.LocalWorker.Pool
import Evix.Verif.LocalTurns
import Evix.Verif.Pool
import Evix.Verif.PoolWork
