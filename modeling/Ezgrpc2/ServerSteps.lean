import Ezgrpc2.SessionLog

/-! # What a part of a round does

An accept and the body of the loop of `ezgrpc2_server_poll`, told by what they change: the socket and
the session of one cell, the events they write and the sockets they accept and close. Everything
said of the server over a run comes from `sessionAdd_cases` and `pollCell_cases`. -/

namespace Ezgrpc2

open Handles StepRuns

/-! ## (1) One cell changes -/

/-- `server'` is `server` with another socket and another session in cell `i`. -/
structure Server.CellSet (server server' : Server) (i : ℕ) (fd : ℤ) (session : Option Session) :
    Prop where
  /-- The size of `fds` is as before. -/
  nbFds : server'.nbFds = server.nbFds
  /-- The size of `sessions` is as before. -/
  nbSessions : server'.nbSessions = server.nbSessions
  /-- The sockets are as before but for that of the cell. -/
  fd : ∀ j, (server'.fds j).fd = if j = i then fd else (server.fds j).fd
  /-- The sessions are as before but for that of the cell. -/
  session : ∀ j, (server'.sessions j).session
    = if j = i then session else (server.sessions j).session
  /-- What `poll` found at the other sockets. -/
  revents : ∀ j, j ≠ i → (server'.fds j).revents = (server.fds j).revents

/-- The cells of `server'` are those of `server`. -/
structure Server.SameCells (server server' : Server) : Prop where
  /-- The size of `fds` is as before. -/
  nbFds : server'.nbFds = server.nbFds
  /-- The size of `sessions` is as before. -/
  nbSessions : server'.nbSessions = server.nbSessions
  /-- The socket of each cell is as before. -/
  fd : ∀ j, (server'.fds j).fd = (server.fds j).fd
  /-- The session of each cell is as before. -/
  session : ∀ j, (server'.sessions j).session = (server.sessions j).session

/-- The socket and the session of a cell are the ones it has. -/
theorem Server.cellSet_self {server : Server} {i : ℕ} {ez : Session}
    (hslot : (server.sessions i).session = some ez) :
    server.CellSet server i (server.fds i).fd (some ez) := by
  refine ⟨rfl, rfl, fun j => ?_, fun j => ?_, fun _ _ => rfl⟩
  · split
    · next hj => rw [hj]
    · rfl
  · split
    · next hj => rw [hj, hslot]
    · rfl

/-- What is stored into a cell of `fds` and into the same one of `sessions`. -/
theorem Server.cellSet_set {server server' : Server} {i : ℕ} (pollfd : Pollfd) (slot : Slot)
    {session : Option Session} (hsession : slot.session = session)
    (hnbFds : server'.nbFds = server.nbFds) (hnbSessions : server'.nbSessions = server.nbSessions)
    (hfds : ∀ j, server'.fds j = if j = i then pollfd else server.fds j)
    (hsessions : ∀ j, server'.sessions j = if j = i then slot else server.sessions j) :
    server.CellSet server' i pollfd.fd session := by
  refine ⟨hnbFds, hnbSessions, fun j => ?_, fun j => ?_, fun j hj => by rw [hfds, if_neg hj]⟩
  · rw [hfds]
    split <;> rfl
  · rw [hsessions]
    split
    · exact hsession
    · rfl

/-- A session that changes in place changes one cell only, whose socket stays. -/
theorem Server.cellSet_setSession (server : Server) (i : ℕ) (ez : Session) :
    server.CellSet (server.setSession i ez) i (server.fds i).fd (some ez) := by
  refine Server.cellSet_set (server.fds i) { server.sessions i with session := some ez } rfl rfl rfl
    (fun j => ?_) fun _ => rfl
  split
  · next hj =>
      rw [hj]
      rfl
  · rfl

/-! ## (2) An accept -/

/-- `session_free` needs a session: it writes the DISCONNECT and zeroes the cell. -/
theorem sessionFree_eq_some {server server' : Server} {i : ℕ}
    (h : sessionFree server i = some server') :
    ∃ ez, (server.sessions i).session = some ez ∧
      server' = { server.setSlot i slotZero with
        events := eventsWrite server.events (disconnectEvent ez.sessionUuid) } := by
  rw [sessionFree] at h
  split at h
  · cases h
  · obtain ⟨ez, hslot, h⟩ := Option.bind_eq_some_iff.mp h
    obtain ⟨ez', -, h⟩ := Option.bind_eq_some_iff.mp h
    cases h
    exact ⟨ez, hslot, rfl⟩

/-- The cell found is free, and one behind the listeners. -/
theorem getUnusedPollfdNdx_eq_some {fds : ℕ → Pollfd} {nbFds ndx : ℕ}
    (h : getUnusedPollfdNdx fds nbFds = some ndx) : 2 ≤ ndx ∧ ndx < nbFds ∧ (fds ndx).fd = -1 := by
  have hfree := List.find?_some h
  have hmem := List.mem_of_find?_eq_some h
  rw [List.mem_range'_1] at hmem
  rw [beq_iff_eq] at hfree
  omega

/-- What `session_create` leaves of a cell: an error changes no session, and a new session has the
random part of its handle, the socket and no stream. -/
theorem sessionCreate_eq_some {slot slot' : Slot} {acc : Accept} {res : ℕ}
    (h : sessionCreate slot acc = some (res, slot')) :
    (res ≠ 0 ∧ slot'.session = slot.session) ∨
      (res = 0 ∧
        slot'.session = some (sessionNew ⟨acc.uuid, slot.sessionUuid.index⟩ acc.confd)) := by
  rw [sessionCreate] at h
  split at h
  · cases h
    exact Or.inl ⟨Nat.one_ne_zero, rfl⟩
  · split at h
    · cases h
      exact Or.inl ⟨Nat.one_ne_zero, rfl⟩
    · split at h
      · cases h
      · cases h
        exact Or.inr ⟨rfl, rfl⟩

/-- An accept that returns a socket finds no room for it, or no session can be created: the socket is
closed. -/
structure Refused (server server' : Server) (acc : Accept) : Prop where
  /-- No cell has another socket or session. -/
  cells : server.SameCells server'
  /-- What `poll` found is as before. -/
  revents : ∀ j, (server'.fds j).revents = (server.fds j).revents
  /-- No event is written for the connection. -/
  events : server'.events = server.events
  /-- The socket is accepted and closed. -/
  calls : server'.socketCalls = server.socketCalls ++ [.acquire acc.confd] ++ [.release acc.confd]

/-- An accept adds the session `ez` in cell `i`. -/
structure Added (server server' : Server) (acc : Accept) (i : ℕ) (ez : Session) : Prop where
  /-- The cell is one of a client. -/
  two_le : 2 ≤ i
  /-- The cell is one of the arrays. -/
  lt : i < server.nbFds
  /-- The cell was free before. -/
  free : (server.fds i).fd = -1
  /-- The handle of the session names its cell. -/
  sessionUuid : ez.sessionUuid = ⟨acc.uuid, i⟩
  /-- The socket of the session is the one accepted. -/
  sockfd : ez.sockfd = acc.confd
  /-- The cell has the socket and the session, and the others are as before. -/
  cell : server.CellSet server' i acc.confd (some ez)
  /-- What `poll` found in the cell is as before. -/
  revents : (server'.fds i).revents = (server.fds i).revents
  /-- The CONNECT of the session is written. -/
  events : server'.events = eventsWrite server.events (connectEvent ez.sessionUuid)
  /-- The socket is recorded as accepted. -/
  calls : server'.socketCalls = server.socketCalls ++ [.acquire acc.confd]

/-- **What an accept can do.** A session that is added is a new one. -/
theorem sessionAdd_cases {server server' : Server} {acc : Accept} {ret : ℕ}
    (h : sessionAdd server acc = some (ret, server')) :
    server' = server ∨ (acc.confd ≠ -1 ∧ (Refused server server' acc ∨
      ∃ i, Added server server' acc i (sessionNew ⟨acc.uuid, i⟩ acc.confd))) := by
  rw [sessionAdd] at h
  by_cases hconfd : acc.confd = -1
  · rw [if_pos hconfd] at h
    cases h
    exact Or.inl rfl
  · rw [if_neg hconfd] at h
    refine Or.inr ⟨hconfd, ?_⟩
    dsimp only at h
    split at h
    · -- the arrays are full
      cases h
      exact Or.inl ⟨⟨rfl, rfl, fun _ => rfl, fun _ => rfl⟩, fun _ => rfl, rfl, rfl⟩
    · next ndx hndx =>
        obtain ⟨hndx2, hndxlt, hfree⟩ := getUnusedPollfdNdx_eq_some hndx
        obtain ⟨⟨res, slot⟩, hcreate, h⟩ := Option.bind_eq_some_iff.mp h
        -- a cell is free, and the session of nghttp2 may still not be made
        rcases sessionCreate_eq_some hcreate with ⟨hres, hslot⟩ | ⟨rfl, hslot⟩
        · -- the cell stays free
          dsimp only at h
          rw [if_pos hres] at h
          cases h
          refine Or.inl ⟨⟨rfl, rfl, fun _ => rfl, fun j => ?_⟩, fun _ => rfl, rfl, rfl⟩
          show (if j = ndx then slot else server.sessions j).session = _
          split
          · next hj =>
              rw [hj]
              exact hslot
          · rfl
        · -- the cell gets the session
          dsimp only at h
          rw [if_neg (not_not.mpr rfl)] at h
          cases h
          have hsession : (slot.setIndex ndx).session
              = some (sessionNew ⟨acc.uuid, ndx⟩ acc.confd) := by
            rw [Slot.setIndex, hslot]
            rfl
          have hhandle : (slot.setIndex ndx).sessionUuid = ⟨acc.uuid, ndx⟩ := by
            rw [Slot.sessionUuid, hsession]
            rfl
          refine Or.inr ⟨ndx, hndx2, hndxlt, hfree, rfl, rfl, ?_, ?_, ?_, rfl⟩
          · refine Server.cellSet_set ⟨acc.confd, (server.fds ndx).revents⟩ (slot.setIndex ndx) hsession
              ?_ ?_ ?_ ?_
            · rfl
            · rfl
            · exact fun _ => rfl
            · exact fun _ => rfl
          · show (if ndx = ndx then ⟨acc.confd, (server.fds ndx).revents⟩ else server.fds ndx :
              Pollfd).revents = _
            rw [if_pos rfl]
          · show eventsWrite server.events (connectEvent (slot.setIndex ndx).sessionUuid) = _
            rw [hhandle]
            rfl

/-- What a listener can do: nothing, or an accept. -/
theorem pollListener_cases {server server' : Server} {i : ℕ} {acc : Accept}
    (h : pollListener server i acc = some server') :
    server' = server ∨ (acc.confd ≠ -1 ∧ (Refused server server' acc ∨
      ∃ i, Added server server' acc i (sessionNew ⟨acc.uuid, i⟩ acc.confd))) := by
  rw [pollListener] at h
  split at h
  · obtain ⟨⟨ret, server₁⟩, hadd, rfl⟩ := Option.map_eq_some_iff.mp h
    exact sessionAdd_cases hadd
  · cases h
    exact Or.inl rfl

/-! ## (3) A cell of the loop -/

/-- The client of cell `i` hung up: its session is freed. The socket is left open. -/
structure HungUp (server server' : Server) (i : ℕ) (ez : Session) : Prop where
  /-- The cell has no socket and no session, and the others are as before. -/
  cell : server.CellSet server' i (-1) none
  /-- The DISCONNECT of the session is written. -/
  events : server'.events = eventsWrite server.events (disconnectEvent ez.sessionUuid)
  /-- No call closes the socket of the client. -/
  calls : server'.socketCalls = server.socketCalls

/-- The session of cell `i` is served; it writes `es`. -/
structure Served (round : Round) (server server' : Server) (i : ℕ) (ez ez' : Session)
    (es : List Event) : Prop where
  /-- The exchange with the client succeeds. -/
  exchange : ∃ events, sessionEvents server.toServerShared ez (round.exchange i)
    = some (0, events, ez')
  /-- The session is the same one behind it. -/
  same : ez.Same ez'
  /-- The events are those of its streams. -/
  ofStreams : OfStreams ez.sessionUuid es
  /-- The cell has the session as the exchange left it, and the others are as before. -/
  cell : server.CellSet server' i (server.fds i).fd (some ez')
  /-- The events of the exchange are written. -/
  unread : server'.events.unread = server.events.unread ++ es
  /-- No call closes the socket of the client. -/
  calls : server'.socketCalls = server.socketCalls

/-- The session of cell `i` is served and ends: its socket is closed and it is freed. -/
structure Ended (server server' : Server) (i : ℕ) (ez : Session) (es : List Event) : Prop where
  /-- The events are those of its streams. -/
  ofStreams : OfStreams ez.sessionUuid es
  /-- The cell has no socket and no session, and the others are as before. -/
  cell : server.CellSet server' i (-1) none
  /-- The events of the exchange are written, and then the DISCONNECT. -/
  unread : server'.events.unread = server.events.unread ++ es ++ [disconnectEvent ez.sessionUuid]
  /-- The socket of the session is closed. -/
  calls : server'.socketCalls = server.socketCalls ++ [.release ez.sockfd]

/-- `poll` found a hang-up or an error at the socket of a cell in use. -/
def Server.HangsUp (server : Server) (i : ℕ) : Prop :=
  (server.fds i).fd ≠ -1 ∧ (server.fds i).revents &&& (pollrdhup ||| pollerr) ≠ 0

instance (server : Server) (i : ℕ) : Decidable (server.HangsUp i) :=
  inferInstanceAs (Decidable (_ ∧ _))

/-- `poll` found something to read at the socket of a cell in use. -/
def Server.Readable (server : Server) (i : ℕ) : Prop :=
  (server.fds i).fd ≠ -1 ∧ (server.fds i).revents &&& pollin ≠ 0

instance (server : Server) (i : ℕ) : Decidable (server.Readable i) :=
  inferInstanceAs (Decidable (_ ∧ _))

/-- **What the body of the loop can do.** -/
theorem pollCell_cases {round : Round} {server server' : Server} {i : ℕ}
    (h : pollCell round server i = some server') :
    (server.HangsUp i ∧ ∃ ez, (server.sessions i).session = some ez ∧ HungUp server server' i ez) ∨
    (¬server.HangsUp i ∧ ((¬server.Readable i ∧ server' = server) ∨
      ∃ ez, (server.sessions i).session = some ez ∧
        ((∃ ez' es, Served round server server' i ez ez' es) ∨ ∃ es, Ended server server' i ez es))) := by
  rw [pollCell] at h
  dsimp only at h
  split at h
  · next hhang =>
      -- the client hung up
      obtain ⟨server₁, hfree, h⟩ := Option.bind_eq_some_iff.mp h
      cases h
      obtain ⟨ez, hslot, rfl⟩ := sessionFree_eq_some hfree
      refine Or.inl ⟨hhang, ez, hslot, ?_, rfl, rfl⟩
      refine Server.cellSet_set ⟨-1, 0⟩ slotZero rfl ?_ ?_ ?_ ?_
      · rfl
      · rfl
      · exact fun _ => rfl
      · exact fun _ => rfl
  · next hhang =>
      refine Or.inr ⟨hhang, ?_⟩
      split at h
      · -- the client sent something
        obtain ⟨ez, hslot, h⟩ := Option.bind_eq_some_iff.mp h
        rw [Server.setSlot_self] at hslot
        obtain ⟨⟨ret, events, ez'⟩, hexchange, h⟩ := Option.bind_eq_some_iff.mp h
        obtain ⟨hsame, es, hunread, hes⟩ := sessionEvents_emits hexchange
        refine Or.inr ⟨ez, hslot, ?_⟩
        dsimp only at h
        split at h
        · -- and the session ends
          obtain ⟨server₁, hfree, h⟩ := Option.bind_eq_some_iff.mp h
          cases h
          obtain ⟨ez₁, hslot₁, rfl⟩ := sessionFree_eq_some hfree
          have hez₁ : ez' = ez₁ := by
            have hslot' : some ez' = some ez₁ := by
              rw [← hslot₁]
              exact (Server.setSession_self _ i ez').symm
            exact Option.some.inj hslot'
          subst hez₁
          refine Or.inr ⟨es, hes, ?_, ?_, ?_⟩
          · refine Server.cellSet_set ⟨-1, 0⟩ slotZero rfl ?_ ?_ ?_ ?_
            · rfl
            · rfl
            · intro j
              show (if j = i then _ else if j = i then _ else server.fds j : Pollfd) = _
              split <;> rfl
            · intro j
              show (if j = i then _ else if j = i then _ else if j = i then _ else
                server.sessions j : Slot) = _
              split <;> rfl
          · rw [← hsame.sessionUuid]
            show (eventsWrite events _).unread = _
            rw [unread_eventsWrite, hunread]
            rfl
          · rw [← hsame.sockfd]
            rfl
        · -- and stays
          cases h
          have hzero : ret = 0 := of_not_not ‹¬ret ≠ 0›
          refine Or.inl ⟨ez', es, ⟨events, hzero ▸ hexchange⟩, hsame, hes, ?_, hunread, rfl⟩
          let slot := (server.setSlot i { server.sessions i with server := true }).sessions i
          refine Server.cellSet_set { server.fds i with revents := 0 }
            { slot with session := some ez' } rfl ?_ ?_ ?_ ?_
          · rfl
          · rfl
          · exact fun _ => rfl
          · intro j
            show (if j = i then _ else if j = i then _ else server.sessions j : Slot) = _
            split <;> rfl
      · next hread =>
          cases h
          exact Or.inl ⟨hread, rfl⟩

/-- The loop is a run of its body. -/
theorem pollCells_eq_run (round : Round) (server : Server) (is : List ℕ) :
    pollCells round server is = run (pollCell round) server is := by
  induction is generalizing server with
  | nil => rfl
  | cons i is ih =>
      rw [pollCells, run_cons]
      cases pollCell round server i with
      | none => rfl
      | some server => exact ih server

/-- The loop leaves alone the sessions of the cells that are not in its list. -/
theorem session_pollCells {round : Round} {server server' : Server} {is : List ℕ} {j : ℕ}
    (hj : j ∉ is) (h : pollCells round server is = some server') :
    (server'.sessions j).session = (server.sessions j).session := by
  induction is generalizing server with
  | nil =>
      cases h
      rfl
  | cons i is ih =>
      obtain ⟨server₁, hcell, hrest⟩ := Option.bind_eq_some_iff.mp h
      have hji : j ≠ i := fun h => hj (h ▸ List.mem_cons_self)
      have hjis : j ∉ is := fun h => hj (List.mem_cons_of_mem i h)
      rw [ih hjis hrest]
      rcases pollCell_cases hcell with
        ⟨-, ez, -, hhung⟩ | ⟨-, ⟨-, rfl⟩ | ⟨ez, -, ⟨ez', es, hserved⟩ | ⟨es, hended⟩⟩⟩
      · rw [hhung.cell.session, if_neg hji]
      · rfl
      · rw [hserved.cell.session, if_neg hji]
      · rw [hended.cell.session, if_neg hji]

/-! ## (4) The calls of the application -/

/-- `stream_send` changes one session at most, in place. -/
theorem sessionStreamSend_cases {server : Server} {uuid : SessionUuid} {streamId : ℤ}
    {messages : List Message} {sends : List NgSend} {r : CallResult}
    (h : sessionStreamSend server uuid streamId messages sends = some r) :
    r.server = server ∨ ∃ i ez ez', (server.sessions i).session = some ez ∧ ez.Same ez' ∧
      r.server = server.setSession i ez' := by
  rcases sessionStreamSend_eq_some h with
    ⟨ret, -, rfl⟩ | ⟨ez, ptr, s, ret, ez', outs, -, hslot, -, -, hloop, rfl⟩
  · exact Or.inl rfl
  · have hsame := sendLoop_same hloop
    exact Or.inr ⟨uuid.index, ez, ez', hslot, ⟨hsame.sessionUuid, hsame.sockfd⟩, rfl⟩

/-- A `stream_end` changes no cell but one, in which the session stays the same one. -/
theorem sessionStreamEnd_cases {server : Server} {uuid : SessionUuid} {streamId status : ℤ}
    {send : NgSend} {r : CallResult}
    (h : sessionStreamEnd server uuid streamId status send = some r) :
    r.server = server ∨ ∃ i ez ez', (server.sessions i).session = some ez ∧ ez.Same ez' ∧
      r.server = server.setSession i ez' := by
  rcases sessionStreamEnd_eq_some h with ⟨ret, -, rfl⟩ | ⟨ez, ptr, ez', outs, -, hslot, hws, rfl⟩
  · exact Or.inl rfl
  · have hsame := ngWrites_same hws
    exact Or.inr ⟨uuid.index, ez, ez', hslot, ⟨hsame.sessionUuid, hsame.sockfd⟩, rfl⟩

end Ezgrpc2
