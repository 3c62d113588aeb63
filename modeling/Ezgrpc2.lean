import Ezgrpc2.Lib.CStrings
import Ezgrpc2.Lib.Runs
import Ezgrpc2.Lib.LinkedMemory
import Ezgrpc2.Lib.Handles
import Ezgrpc2.Message
import Ezgrpc2.Parse
import Ezgrpc2.EzList
import Ezgrpc2.Stream
import Ezgrpc2.DataSource
import Ezgrpc2.ReadLimits
import Ezgrpc2.Path
import Ezgrpc2.PathLookup
import Ezgrpc2.Events
import Ezgrpc2.Session
import Ezgrpc2.Callbacks
import Ezgrpc2.Receive
import Ezgrpc2.StreamRegistry
import Ezgrpc2.ParseBounds
import Ezgrpc2.Server
import Ezgrpc2.SessionSend
import Ezgrpc2.Pthpool
import Ezgrpc2.PoolConservation
import Ezgrpc2.PoolOrder
import Ezgrpc2.PoolShutdown
import Ezgrpc2.PoolProgress
import Ezgrpc2.Thpool
import Ezgrpc2.ServerLog
import Ezgrpc2.ServerPoll
import Ezgrpc2.WriteLoop
import Ezgrpc2.SessionLog
import Ezgrpc2.ServerSteps
import Ezgrpc2.SessionTable
import Ezgrpc2.SocketLedger
import Ezgrpc2.StreamLimits
import Ezgrpc2.NonInterference
import Ezgrpc2.StreamPath
import Ezgrpc2.PathBinding
import Ezgrpc2.RecvBuffer
import Ezgrpc2.StreamEnd
import Ezgrpc2.RequestHeaders
import Ezgrpc2.DataProvider
import Ezgrpc2.StreamSend
import Ezgrpc2.EventQueue
import Ezgrpc2.EventsFree
import Ezgrpc2.ListHeap
import Ezgrpc2.ListRefinement
import Ezgrpc2.Arena
import Ezgrpc2.ArenaRegions
import Ezgrpc2.ArenaQueue
import Ezgrpc2.SessionProgress
import Ezgrpc2.ServerProgress
import Ezgrpc2.Lib.Ownership
import Ezgrpc2.PoolEntries
import Ezgrpc2.Application
import Ezgrpc2.ApplicationSteps
import Ezgrpc2.ApplicationInvariant
import Ezgrpc2.ApplicationReplies
import Ezgrpc2.ApplicationRuns
import Ezgrpc2.ApplicationServer
import Ezgrpc2.ApplicationProgress
import Ezgrpc2.ApplicationDrain
import Ezgrpc2.SingleThreaded
