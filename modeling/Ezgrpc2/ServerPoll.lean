import Ezgrpc2.SessionSend

/-! # `ezgrpc2_server_poll`

One round of the server: it accepts connections, frees the sessions whose client hung up and lets
the others read and write. What the system and nghttp2 answer is `Accept` for an accept and the
`session_create` behind it, `Exchange` for a `session_events`, and `Round` for all of a round;
`none` is an abort of the server. -/

namespace Ezgrpc2

open StepRuns

/-! ## (1) Sessions come and go -/

/-- What an accept and the creation of a session meet. -/
structure Accept where
  /-- The socket `accept` returns, or -1. -/
  confd : ℤ
  /-- `nghttp2_session_callbacks_new` succeeds; else the session is not made. -/
  callbacksNew : Bool
  /-- `nghttp2_session_server_new` succeeds; else the session is not made. -/
  serverNew : Bool
  /-- So do the calls that are asserted to, `nghttp2_submit_settings`, `fcntl` and `setsockopt`; and the
  address of the client is an IPv4 or IPv6 one. -/
  setup : Bool
  /-- The random part that `uuid_generate_random` returns. -/
  uuid : ℕ

/-- `session_create` on a cell of `sessions`: the value returned and the cell. It sets the random
part of the handle only. -/
def sessionCreate (slot : Slot) (acc : Accept) : Option (ℕ × Slot) :=
  if !acc.callbacksNew then some (1, slot)
  else
    let slot := { slot with server := true }
    if !acc.serverNew then some (1, slot)
    else if !acc.setup then none
    else some (0,
      { slot with session := some (sessionNew ⟨acc.uuid, slot.sessionUuid.index⟩ acc.confd) })

/-- `get_unused_pollfd_ndx`: the first cell behind the listeners without a socket. -/
def getUnusedPollfdNdx (fds : ℕ → Pollfd) (nbFds : ℕ) : Option ℕ :=
  (List.range' 2 (nbFds - 2)).find? fun i => (fds i).fd == -1

/-- The event CONNECT of a new session. -/
def connectEvent (uuid : SessionUuid) : Event := ⟨uuid, none, .connect⟩

/-- The event of a session that is freed. -/
def disconnectEvent (uuid : SessionUuid) : Event := ⟨uuid, none, .disconnect⟩

/-- The assignment `sessions[ndx].session_uuid.index = ndx`. -/
def Slot.setIndex (slot : Slot) (ndx : ℕ) : Slot :=
  { slot with
    session := slot.session.map fun ez => { ez with sessionUuid := ⟨ez.sessionUuid.uuid, ndx⟩ } }

/-- `session_add`: a connection is accepted, and gets a session where there is a free cell. -/
def sessionAdd (ezserver : Server) (acc : Accept) : Option (ℕ × Server) :=
  if acc.confd = -1 then some (1, ezserver)
  else
    let ezserver := ezserver.accept acc.confd
    match getUnusedPollfdNdx ezserver.fds ezserver.nbFds with
    | none => some (1, ezserver.close acc.confd)
    | some ndx => do
        let (res, slot) ← sessionCreate (ezserver.sessions ndx) acc
        if res ≠ 0 then some (1, (ezserver.setSlot ndx slot).close acc.confd)
        else
          let slot := slot.setIndex ndx
          let ezserver := ezserver.setSlot ndx slot
          let ezserver :=
            { ezserver with events := eventsWrite ezserver.events (connectEvent slot.sessionUuid) }
          some (0, ezserver.setFd ndx { ezserver.fds ndx with fd := acc.confd })

/-- `session_free` on a cell of `sessions`: its DISCONNECT is written and its streams are freed. -/
def sessionFree (ezserver : Server) (i : ℕ) : Option Server :=
  if !(ezserver.sessions i).server then none
  else do
    let ezsession ← (ezserver.sessions i).session
    let events := eventsWrite ezserver.events (disconnectEvent ezsession.sessionUuid)
    let _ ← sessionFreeStreams ezsession
    some { ezserver.setSlot i slotZero with events := events }

/-! ## (2) A session is served -/

/-- What a call of `session_events` meets. -/
structure Exchange where
  /-- Whether nghttp2 wants to read from the client. -/
  wantRead : Bool
  /-- Whether nghttp2 wants to write to the client. -/
  wantWrite : Bool
  /-- The callbacks that `nghttp2_session_recv` makes, in order. -/
  acts : List ClientAction
  /-- The value that `nghttp2_session_recv` returns. -/
  res : ℤ
  /-- The calls of `nghttp2_session_send`, in order. -/
  sends : List NgSend

/-- `session_events`: the value returned, the event queue and the session. -/
def sessionEvents (server : ServerShared) (ezsession : Session) (x : Exchange) :
    Option (ℕ × Events × Session) :=
  if !x.wantRead && !x.wantWrite then some (1, server.events, ezsession)
  else do
    let st ← run clientStep ⟨server, ezsession, [], []⟩ (if x.wantRead then x.acts else [])
    if x.wantRead ∧ x.res ≠ 0 then some (1, st.server.events, st.session)
    else do
      let (ret, ezsession, _) ← sendLoop st.server st.session x.sends
      some (if ret = 0 then 0 else 1, st.server.events, ezsession)

/-! ## (3) A round -/

/-- What a round of the server meets. -/
structure Round where
  /-- The number of cells that `poll` returns, or an error. -/
  ready : ℤ
  /-- What it finds at the sockets. -/
  revents : ℕ → ℕ
  /-- The event queue that the caller gives the round. -/
  events : Events
  /-- The accept on the first listener. -/
  ipv4 : Accept
  /-- The accept on the second listener. -/
  ipv6 : Accept
  /-- The exchange with the client of a cell. -/
  exchange : ℕ → Exchange

/-- The body of the loop of `ezgrpc2_server_poll`. -/
def pollCell (round : Round) (server : Server) (i : ℕ) : Option Server :=
  let fd := server.fds i
  if fd.fd ≠ -1 ∧ fd.revents &&& (pollrdhup ||| pollerr) ≠ 0 then do
    let server ← sessionFree server i
    some (server.setFd i ⟨-1, 0⟩)
  else if fd.fd ≠ -1 ∧ fd.revents &&& pollin ≠ 0 then do
    let server := server.setSlot i { server.sessions i with server := true }
    let ezsession ← (server.sessions i).session
    let (ret, events, ezsession) ←
      sessionEvents server.toServerShared ezsession (round.exchange i)
    let server := { server.setSession i ezsession with events := events }
    if ret ≠ 0 then do
      let server := server.close ezsession.sockfd
      let server := server.setFd i { fd with fd := -1 }
      let server ← sessionFree server i
      some (server.setFd i ⟨-1, 0⟩)
    else some (server.setFd i { fd with revents := 0 })
  else some server

/-- The loop of `ezgrpc2_server_poll` over the cells that are left. -/
def pollCells (round : Round) (server : Server) : List ℕ → Option Server
  | [] => some server
  | i :: is => do
      let server ← pollCell round server i
      pollCells round server is

/-- The accept on a listener, when `poll` found a connection there. -/
def pollListener (server : Server) (i : ℕ) (acc : Accept) : Option Server :=
  if (server.fds i).revents &&& pollin ≠ 0 then (sessionAdd server acc).map Prod.snd
  else some server

/-- `ezgrpc2_server_poll`: the value returned and the server. -/
def serverPoll (server : Server) (round : Round) : Option (ℤ × Server) :=
  let server :=
    { server with fds := fun i => { server.fds i with revents := round.revents i } }
  if round.ready ≤ 0 then some (round.ready, server)
  else do
    let server := { server with events := round.events }
    let server ← pollListener server 0 round.ipv4
    let server ← pollListener server 1 round.ipv6
    let server ← pollCells round server (List.range' 2 (server.nbFds - 2))
    some (round.ready, server)

/-- `ezgrpc2_server_new`: the arrays it leaves, with the two listeners in `fds`. There is no event
queue before the first round. -/
def serverNew (ipv4Sockfd ipv6Sockfd : ℤ) (maxConnections initialWindowSize : ℕ)
    (maxPaths : MaxPaths) : Server where
  initialWindowSize := initialWindowSize
  table := pathTableNew maxPaths
  events := eventsNew
  nbFds := sizeT (maxConnections + 2)
  fds := fun i => ⟨if i = 0 then ipv4Sockfd else if i = 1 then ipv6Sockfd else -1, 0⟩
  nbSessions := sizeT (maxConnections + 2)
  sessions := fun _ => slotZero
  socketCalls := []

/-- The loop of `ezgrpc2_server_free` over the cells of clients. -/
def freeCells (ezserver : Server) : List ℕ → Option Server
  | [] => some ezserver
  | i :: is => do
      let ezserver ←
        (if (ezserver.fds i).fd ≠ -1 then sessionFree (ezserver.close (ezserver.fds i).fd) i
        else some ezserver)
      freeCells ezserver is

/-- The loop of `ezgrpc2_server_free`: the sockets of the clients are closed and their sessions freed. The
listeners, which the function closes before it, are not in `socketCalls`. What it does behind the
loop is left out: it frees the arrays, and `thpool_free(&ezserver->logger_thread)` frees an address
inside the server structure, which aborts the process. -/
def serverFree (ezserver : Server) : Option Server :=
  freeCells ezserver (List.range' 2 (ezserver.nbFds - 2))

end Ezgrpc2
