import Ezgrpc2.EventQueue
import Ezgrpc2.PoolOrder
import Ezgrpc2.PoolEntries
import Ezgrpc2.StreamSend

/-! # The application

`examples/multi_threaded.c`, the loop the library is made for: it polls the server, makes a task of
every MESSAGE and DATALOSS, takes the finished tasks back and sends what they return. Streaming calls
go to a pool with one worker, unary calls to one with two. `App` is the process: the server, the pools
and the objects of `main`, with the point `main` is at. One step of `main` handles one event or one
result; the workers step in between as they like. `none` is an abort or an invalid memory access.

Memory can be allocated. `poll`'s timeout, the printing and the second test of the signal are left
out. -/

namespace Ezgrpc2

open CStrings FlatMemory Handles StepRuns

/-! ## (1) The data -/

/-- `struct userdata_t`: what `main` keeps of a request while a task works on it. -/
structure Userdata where
  /-- The stream the request came in on, and the response goes out on. -/
  streamId : ℤ
  /-- The handle of the session the stream belongs to. -/
  sessionUuid : SessionUuid
  /-- The client has ended the stream. -/
  endStream : Bool
  /-- The status to end the stream with. -/
  status : ℤ
  /-- The messages of the client, or null. -/
  imessages : Option (List Message)
  /-- The messages of the response, or null. -/
  omessages : Option (List Message)

/-- `struct path_userdata_t`: what `main` registers with a path. -/
structure PathUserdata where
  /-- The path takes one message and returns one. -/
  isUnary : Bool
  /-- The address of the callback that computes the response. -/
  callback : ℕ

/-- The array `path_userdata` of `main`, by the addresses it registers with the two paths. -/
def pathUserdata : ℕ → Option PathUserdata
  | 1 => some ⟨false, 0⟩
  | 2 => some ⟨true, 1⟩
  | _ => none

/-- `EZGRPC2_GRPC_STATUS_INVALID_ARGUMENT`, the status of a unary call without exactly one
message. -/
def grpcStatusInvalidArgument : ℤ := 3

/-- `EZGRPC2_GRPC_STATUS_DATA_LOSS`, the status of a stream that ended inside a message. -/
def grpcStatusDataLoss : ℤ := 15

/-- `create_userdata`: a request, with no response to it yet. -/
def createUserdata (sessionUuid : SessionUuid) (streamId : ℤ) (messages : List Message)
    (endStream : Bool) (status : ℤ) : Userdata where
  streamId := streamId
  sessionUuid := sessionUuid
  endStream := endStream
  status := status
  imessages := some messages
  omessages := none

/-! ## (2) The callbacks -/

/-- The messages of the loop of a callback. `pp` are the values it reads of the counter, which the other
workers count up too. -/
def responses (text : String) (pp : Fin 5 → UInt32) : List Message :=
  (List.finRange 5).map fun i =>
    messageNew 0 (u32Bytes (pp i).toNat ++ bytesOf text ++ [0])

/-- What a callback leaves of its argument, which both return, and the lists of messages it frees. -/
structure CallbackEnd where
  /-- The userdata as the callback leaves it, with the messages of the response. -/
  userdata : Userdata
  /-- The lists of messages that the callback freed. -/
  freed : List (List Message)

/-- `callback_path0`: five messages in response, or none for a stream that ended in DATA_LOSS. -/
def callbackPath0 (pp : Fin 5 → UInt32) (userdata : Userdata) : CallbackEnd :=
  let userdata := { userdata with omessages := some [] }
  if userdata.status ≠ 0 then ⟨userdata, []⟩
  else ⟨{ userdata with omessages := some (responses "path0!" pp) }, []⟩

/-- `callback_path1`, which frees the messages of the client itself. -/
def callbackPath1 (pp : Fin 5 → UInt32) (userdata : Userdata) : CallbackEnd :=
  let userdata := { userdata with omessages := some [] }
  if userdata.status ≠ 0 then ⟨userdata, []⟩
  else
    ⟨{ userdata with omessages := some (responses "path1!" pp), imessages := none },
      userdata.imessages.toList⟩

/-- The call of the function of a task, by its address. -/
def callFunc (func : ℕ) (pp : Fin 5 → UInt32) (userdata : Userdata) : Option CallbackEnd :=
  match func with
  | 0 => some (callbackPath0 pp userdata)
  | 1 => some (callbackPath1 pp userdata)
  | _ => none

/-! ## (3) The process -/

/-- The two pools that `main` gives its tasks to. -/
inductive PoolName where
  /-- `ordered_pool`, whose one worker serves the streaming path. -/
  | ordered
  /-- `unordered_pool`, whose two workers serve the unary path. -/
  | unordered
deriving DecidableEq

/-- The task that is added for a path: its function and the userdata as it is created. -/
structure Job where
  /-- The address of the callback that a worker is to call. -/
  func : ℕ
  /-- The userdata that the callback is called on. -/
  userdata : Userdata

/-- A result that was handled: the calls made for it. -/
structure Reply where
  /-- The finished task that the pool handed out. -/
  task : Task
  /-- The session given to the calls. -/
  sessionUuid : SessionUuid
  /-- The stream given to the calls. -/
  streamId : ℤ
  /-- The messages of the response that were given to `stream_send`. -/
  messages : List Message
  /-- The value that `stream_send` returned. -/
  ret : ℕ
  /-- The status given to `stream_end`, when it was called. -/
  ended : Option ℤ

/-- A pool together with the jobs of the tasks it accepted and the results of it that were handled. -/
structure PoolSide where
  /-- The pool itself, with what has happened to its tasks. -/
  base : PoolState
  /-- The jobs, in the order of the tasks. -/
  jobs : List Job
  /-- The results, in the order they were handled. -/
  replies : List Reply

/-- The points of `main`, from its loop on. -/
inductive MainPoint where
  /-- At the head of the loop. -/
  | loop
  /-- In `handle_events`, with the events that are left of an array. -/
  | events (left : List Event)
  /-- In `handle_thread_pool`, in front of `ezgrpc2_pthpool_poll`. -/
  | poll (name : PoolName)
  /-- In its loop, with the results that are left. -/
  | results (name : PoolName) (left : List Task)
  /-- Behind the loop, on the way out of the process. -/
  | exit

/-- The process. The last four fields are not in the source: they record what has happened. -/
structure App where
  /-- The server; its event queue is the one `main` made. -/
  server : Server
  /-- The two pools, each with its jobs and replies. -/
  pools : PoolName → PoolSide
  /-- The userdata in memory, by address. -/
  heap : ℕ → Option Userdata
  /-- The point of its code that `main` is at. -/
  point : MainPoint
  /-- The events the server has written. -/
  written : List Event
  /-- The events that `main` has handled, in order. -/
  handled : List Event
  /-- The userdata `malloc` returned and `free` was called on. -/
  userdataCalls : List (Call ℕ)
  /-- The lists of messages of clients that were freed. -/
  freed : List (List Message)

namespace App

/-- Writes the object at an address, or frees it. -/
def store (app : App) (addr : ℕ) (userdata : Option Userdata) : App :=
  { app with heap := Function.update app.heap addr userdata }

/-- Replaces one of the pools and leaves the other. -/
def setPool (app : App) (name : PoolName) (side : PoolSide) : App :=
  { app with pools := Function.update app.pools name side }

@[simp] theorem setPool_pools_self (app : App) (name : PoolName) (side : PoolSide) :
    (app.setPool name side).pools name = side := Function.update_self _ _ _

theorem setPool_pools_of_ne (app : App) {name name' : PoolName} (side : PoolSide)
    (h : name' ≠ name) : (app.setPool name side).pools name' = app.pools name' :=
  Function.update_of_ne h _ _

/-- `free_userdata`: frees the messages of the client and then the object. -/
def freeUserdata (app : App) (addr : ℕ) : Option App := do
  let userdata ← app.heap addr
  some
    { app.store addr none with
      userdataCalls := app.userdataCalls ++ [.release addr]
      freed := app.freed ++ userdata.imessages.toList }

end App

/-- What the handling of an event or of a result meets. -/
structure Handling where
  /-- The address that `malloc` returns for the userdata. -/
  addr : ℕ
  /-- The calls of `nghttp2_session_send` in `stream_send`. -/
  sends : List NgSend
  /-- The call of `nghttp2_session_send` in `stream_end`. -/
  send : NgSend

/-! ## (4) Events -/

/-- The pool for the tasks of a path. -/
def PathUserdata.pool (path : PathUserdata) : PoolName :=
  if path.isUnary then .unordered else .ordered

/-- `create_userdata` and the call of `ezgrpc2_pthpool_add_task` behind it. -/
def App.addTask (app : App) (name : PoolName) (func : ℕ) (userdata : Userdata) (addr : ℕ) :
    Option App := do
  let side := app.pools name
  let base ← poolStep side.base (.addTask func addr none none true)
  some
    { (app.store addr (some userdata)).setPool name
        { side with base := base, jobs := side.jobs ++ [⟨func, userdata⟩] } with
      userdataCalls := app.userdataCalls ++ [.acquire addr] }

/-- `handle_event_message`: a unary call must be one message; everything else becomes a task. -/
def handleEventMessage (app : App) (event : Event) (messages : List Message) (streamId : ℤ)
    (endStream : Bool) (h : Handling) : Option App := do
  let nbMsg := messages.length
  let path ← event.userdata.bind pathUserdata
  if path.isUnary && (!endStream || nbMsg != 1) then
    let r ← sessionStreamEnd app.server event.sessionUuid streamId grpcStatusInvalidArgument h.send
    some { app with server := r.server }
  else
    app.addTask path.pool path.callback
      (createUserdata event.sessionUuid streamId messages endStream 0) h.addr

/-- `handle_event_dataloss`: a task without messages, whose status is DATA_LOSS. -/
def handleEventDataloss (app : App) (event : Event) (streamId : ℤ) (h : Handling) : Option App := do
  let path ← event.userdata.bind pathUserdata
  app.addTask path.pool path.callback
    (createUserdata event.sessionUuid streamId [] true grpcStatusDataLoss) h.addr

/-- The `switch` of `handle_events` on the type of an event. -/
def handleEvent (app : App) (event : Event) (h : Handling) : Option App :=
  match event.kind with
  | .message messages streamId endStream =>
      handleEventMessage app event messages streamId endStream h
  | .dataloss streamId => handleEventDataloss app event streamId h
  | .cancel _ | .connect | .disconnect => some app

/-! ## (5) Results -/

/-- The calls made for a result are recorded. -/
def App.record (app : App) (name : PoolName) (reply : Reply) : App :=
  app.setPool name { app.pools name with replies := (app.pools name).replies ++ [reply] }

/-- The body of the loop of `handle_thread_pool`. -/
def handleResult (app : App) (name : PoolName) (result : Task) (h : Handling) : Option App :=
  if result.isTimeout then app.freeUserdata result.userdata
  else do
    let data ← result.ret
    let userdata ← app.heap data
    let omessages ← userdata.omessages
    let r ← sessionStreamSend app.server userdata.sessionUuid userdata.streamId omessages h.sends
    let reply := Reply.mk result userdata.sessionUuid userdata.streamId omessages r.ret
    let app := { app.store data (some { userdata with omessages := some r.messages }) with
      server := r.server }
    match r.ret with
    | 0 =>
        if userdata.endStream then do
          let r ← sessionStreamEnd app.server userdata.sessionUuid userdata.streamId userdata.status
            h.send
          ({ app with server := r.server }.record name (reply (some userdata.status))).freeUserdata data
        else (app.record name (reply none)).freeUserdata data
    | 1 | 2 | 3 => (app.record name (reply none)).freeUserdata data
    | _ => none

/-! ## (6) The steps -/

/-- A step that `main` or a worker makes, with what it meets. -/
inductive AppAction where
  /-- The flag of the signal is set: `main` leaves its loop. -/
  | sigterm
  /-- `main` calls `ezgrpc2_server_poll`. -/
  | serverPoll (round : Round)
  /-- `ezgrpc2_events_read`, with the `free` of the array before. -/
  | eventsRead
  /-- The next event of the array is handled. -/
  | event (h : Handling)
  /-- `main` calls `ezgrpc2_pthpool_poll` on the pool it is at. -/
  | pthpoolPoll
  /-- `main` handles the next result in its hand. -/
  | result (h : Handling)
  /-- `main` has no result left and leaves `handle_thread_pool`. -/
  | resultsEnd
  /-- The next critical section of a worker. -/
  | worker (name : PoolName) (i : ℕ)
  /-- A worker executes the task it holds. -/
  | exec (name : PoolName) (i : ℕ) (now : ℤ) (pp : Fin 5 → UInt32)

/-- A worker runs the function of the task it holds, unless that is late. -/
def App.exec (app : App) (name : PoolName) (i : ℕ) (now : ℤ) (pp : Fin 5 → UInt32) : Option App := do
  let side := app.pools name
  match side.base.pool.threads[i]? with
  | some (.holding task) => do
      let base ← poolStep side.base (.exec i now (some task.userdata))
      let app := app.setPool name { side with base := base }
      if (workerExec now (some task.userdata) task).1 then do
        let userdata ← app.heap task.userdata
        let r ← callFunc task.func pp userdata
        some { app.store task.userdata (some r.userdata) with freed := app.freed ++ r.freed }
      else some app
  | _ => none

/-- The point of `handle_events` behind a read. -/
def readPoint : Option ((ℕ → Event) × ℕ) → MainPoint
  | none => .poll .ordered
  | some (event, nbEvent) => .events (slice event 0 nbEvent)

/-- The point of `main` behind the results of a pool. -/
def PoolName.next : PoolName → MainPoint
  | .ordered => .poll .unordered
  | .unordered => .loop

/-- One step. `main` has one step to make at each of its points; `malloc` returns memory that is not in
use. -/
def appStep (app : App) : AppAction → Option App
  | .sigterm =>
      match app.point with
      | .loop => some { app with point := .exit }
      | _ => none
  | .serverPoll round =>
      match app.point with
      | .loop => do
          let (res, server) ← serverPoll app.server { round with events := app.server.events }
          some
            { app with
              server := server
              written := app.written
                ++ server.events.unread.drop app.server.events.unread.length
              point := if res < 0 then .exit else if res > 0 then .events [] else .poll .ordered }
      | _ => none
  | .eventsRead =>
      match app.point with
      | .events [] =>
          let r := Ezgrpc2.eventsRead app.server.events
          some
            { app with
              server := { app.server with events := r.2 }
              point := readPoint r.1 }
      | _ => none
  | .event h =>
      match app.point with
      | .events (event :: left) =>
          if app.heap h.addr = none then do
            let app ← handleEvent app event h
            some { app with point := .events left, handled := app.handled ++ [event] }
          else none
      | _ => none
  | .pthpoolPoll =>
      match app.point with
      | .poll name => do
          let side := app.pools name
          let base ← poolStep side.base (.poll [])
          some
            { app.setPool name { side with base := base } with
              point := .results name (Ezgrpc2.pthpoolPoll side.base.pool []).1 }
      | _ => none
  | .result h =>
      match app.point with
      | .results name (result :: left) => do
          let app ← handleResult app name result h
          some { app with point := .results name left }
      | _ => none
  | .resultsEnd =>
      match app.point with
      | .results name [] => some { app with point := name.next }
      | _ => none
  | .worker name i => do
      let side := app.pools name
      let base ← poolStep side.base (.worker i)
      some (app.setPool name { side with base := base })
  | .exec name i now pp => app.exec name i now pp

/-- The path of the streaming calls. -/
def streamingPath : Bytes := bytesOf "/test.yourAPI/whatever_service1"

/-- The path of the unary calls. -/
def unaryPath : Bytes := bytesOf "/test.yourAPI/whatever_service2"

theorem zero_notMem_streamingPath : 0 ∉ streamingPath := by decide

theorem zero_notMem_unaryPath : 0 ∉ unaryPath := by decide

/-- The calls of `ezgrpc2_server_register_path` in `main`. -/
def mainTable (table : PathTable) : PathTable :=
  let table := (serverRegisterPath table ⟨streamingPath, zero_notMem_streamingPath⟩ 1 0 0).2
  (serverRegisterPath table ⟨unaryPath, zero_notMem_unaryPath⟩ 2 0 0).2

/-- The server as `main` sets it up, with its two paths registered. -/
def mainServer (ipv4Sockfd ipv6Sockfd : ℤ) (maxConnections initialWindowSize : ℕ)
    (maxPaths : MaxPaths) : Server :=
  let server := serverNew ipv4Sockfd ipv6Sockfd maxConnections initialWindowSize maxPaths
  { server with table := mainTable server.table }

/-- The process at the head of its loop: the two paths are registered, the event queue and the pools
are new. -/
def appStart (server : Server) : App where
  server := { server with events := eventsNew }
  pools := fun name => match name with
    | .ordered => ⟨poolStart 1, [], []⟩
    | .unordered => ⟨poolStart 2, [], []⟩
  heap := fun _ => none
  point := .loop
  written := []
  handled := []
  userdataCalls := []
  freed := []

end Ezgrpc2
