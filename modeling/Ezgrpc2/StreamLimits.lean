import Ezgrpc2.NonInterference
import Ezgrpc2.ServerSteps

/-! # The limits of a stream

A stream takes at most `configStreamMaxHeaders` header fields and buffers at most
`initial_window_size` bytes. Input behind a limit makes its callback return 1, although
`on_data_chunk_recv_callback` resets just the stream. What becomes of that 1 is followed upwards:
`nghttp2_session_recv` fails, `session_events` returns 1, and the round closes the socket and frees
the session with all its streams. That the 1 makes `nghttp2_session_recv` fail is what nghttp2
documents of `on_header_callback`; of `on_data_chunk_recv_callback` it is an assumption here
(`Exchange.ReportsFailure`). -/

namespace Ezgrpc2

open StepRuns

/-! ## (1) Behind a limit -/

/-- **The action breaks a limit of the stream `streamId`**: a header field behind the last one it
takes, or a chunk that its receive buffer has no room for. -/
def ClientAction.BreaksLimit (st : ClientState) (streamId : ℤ) : ClientAction → Prop
  | .header frame _ _ => frame.type = .headers ∧ frame.streamId = streamId ∧
      ∃ ptr s, st.session.userData streamId = some ptr ∧ st.session.objs ptr = some s ∧
        s.nbHeaders + 1 > configStreamMaxHeaders
  | .dataChunk id data => id = streamId ∧
      ∃ ptr s, st.session.userData streamId = some ptr ∧ st.session.objs ptr = some s ∧
        s.recvLen + data.length > st.server.initialWindowSize
  | .beginHeaders _ _ _ | .frameRecv _ | .streamClose _ => False

/-- The callback of a header field or of a chunk. -/
def ClientAction.isInput : ClientAction → Bool
  | .header _ _ _ | .dataChunk _ _ => true
  | .beginHeaders _ _ _ | .frameRecv _ | .streamClose _ => false

/-- **The callback of input that breaks a limit returns 1.** -/
theorem ClientAction.BreaksLimit.ret_eq_one {st : ClientState} {streamId : ℤ} {a : ClientAction}
    (h : a.BreaksLimit st streamId) :
    a.isInput = true ∧ ∃ r, clientCallback st a = some r ∧ r.ret = 1 := by
  cases a with
  | header frame name value =>
      obtain ⟨htype, rfl, ptr, s, hptr, hobj, hmax⟩ := h
      refine ⟨rfl, _, onHeaderCallback_eq htype hptr hobj name value, ?_⟩
      rw [if_pos hmax]
  | dataChunk id data =>
      obtain ⟨rfl, ptr, s, hptr, hobj, hover⟩ := h
      refine ⟨rfl, ?_⟩
      simp only [clientCallback, onDataChunkRecvCallback, hptr, hobj, Option.bind_eq_bind,
        Option.bind_some, if_pos hover]
      exact ⟨_, rfl, rfl⟩
  | beginHeaders _ _ _ | frameRecv _ | streamClose _ => exact h.elim

/-! ## (2) An exchange -/

namespace Exchange

/-- **nghttp2 reports what a callback returns**: when the callback of a header field or of a chunk
does not return 0, `nghttp2_session_recv` returns an error. For a header field this is the documented
behaviour. For a chunk it is assumed: an nghttp2 that takes only its own fatal error codes for
failures of that callback goes on. -/
def ReportsFailure (x : Exchange) (server : ServerShared) (ez : Session) : Prop :=
  ∀ pre a post st r, x.acts = pre ++ a :: post → a.isInput = true →
    run clientStep ⟨server, ez, [], []⟩ pre = some st → clientCallback st a = some r → r.ret ≠ 0 →
      x.res ≠ 0

/-- In the exchange the client breaks a limit of the stream `streamId` by `a`, after `pre` and in
front of `post`. -/
structure BreaksLimit (x : Exchange) (server : ServerShared) (ez : Session) (streamId : ℤ)
    (pre : List ClientAction) (a : ClientAction) (post : List ClientAction) : Prop where
  /-- nghttp2 wants to read, so the session does. -/
  wantRead : x.wantRead = true
  /-- The callbacks it makes are those before, the one of `a` and those behind. -/
  acts : x.acts = pre ++ a :: post
  /-- The callbacks before lead to a state in which `a` breaks a limit. -/
  limit : ∃ st, run clientStep ⟨server, ez, [], []⟩ pre = some st ∧ a.BreaksLimit st streamId

/-- **The exchange in which the client resets the stream instead**: the stream is closed where the
limit was broken, what else was sent to it is not delivered, and no callback fails. -/
def reset (x : Exchange) (streamId : ℤ) (pre post : List ClientAction) : Exchange :=
  { x with
    acts := pre ++ .streamClose streamId :: post.filter fun b => b.streamId != streamId
    res := 0 }

/-- `session_events` fails when a limit is broken. -/
theorem BreaksLimit.ret_eq_one {x : Exchange} {server : ServerShared} {ez : Session}
    {streamId : ℤ} {pre post : List ClientAction} {a : ClientAction}
    (h : x.BreaksLimit server ez streamId pre a post) (hng : x.ReportsFailure server ez) {ret : ℕ}
    {events : Events} {ez' : Session} (hevents : sessionEvents server ez x = some (ret, events, ez')) :
    ret = 1 := by
  obtain ⟨st, hpre, hlimit⟩ := h.limit
  obtain ⟨hinput, r, hr, hret⟩ := hlimit.ret_eq_one
  have hres : x.res ≠ 0 :=
    hng pre a post st r h.acts hinput hpre hr (by rw [hret]; exact Nat.one_ne_zero)
  rw [sessionEvents, h.wantRead] at hevents
  simp only [Bool.not_true, Bool.false_and, Bool.false_eq_true, if_false, if_true, hres, ne_eq,
    not_false_eq_true, and_self, Option.bind_eq_bind, Option.bind_eq_some_iff,
    Option.some.injEq, Prod.mk.injEq] at hevents
  obtain ⟨-, -, rfl, -⟩ := hevents
  rfl

end Exchange

/-! ## (3) A round -/

/-- The server in front of the loop of `ezgrpc2_server_poll`. -/
def Round.start (round : Round) (server : Server) : Option Server := do
  let server :=
    { server with
      fds := fun i => { server.fds i with revents := round.revents i }
      events := round.events }
  let server ← pollListener server 0 round.ipv4
  pollListener server 1 round.ipv6

/-- The loop of a round on `server` comes to cell `i` in the state `server₁`. -/
def Round.Reaches (round : Round) (server : Server) (i : ℕ) (server₁ : Server) : Prop :=
  0 < round.ready ∧ ∃ server₀, round.start server = some server₀ ∧ 2 ≤ i ∧ i < server₀.nbFds ∧
    pollCells round server₀ (List.range' 2 (i - 2)) = some server₁

/-- The loop over the cells splits at any cell. -/
theorem pollCells_append (round : Round) (server : Server) (is js : List ℕ) :
    pollCells round server (is ++ js)
      = (pollCells round server is).bind fun server => pollCells round server js := by
  induction is generalizing server with
  | nil => rfl
  | cons i is ih =>
      rw [List.cons_append, pollCells, pollCells]
      cases pollCell round server i with
      | none => rfl
      | some server => exact ih server

/-- A round in which `poll` found something is its start and the loop over the cells. -/
theorem serverPoll_eq_some {round : Round} {server server' : Server} {ret : ℤ}
    (hready : 0 < round.ready) (hpoll : serverPoll server round = some (ret, server')) :
    ∃ server₀, round.start server = some server₀ ∧
      pollCells round server₀ (List.range' 2 (server₀.nbFds - 2)) = some server' := by
  rw [serverPoll, if_neg (not_le.mpr hready)] at hpoll
  obtain ⟨server₁, hipv4, hpoll⟩ := Option.bind_eq_some_iff.mp hpoll
  obtain ⟨server₀, hipv6, hpoll⟩ := Option.bind_eq_some_iff.mp hpoll
  obtain ⟨server₂, hcells, hpoll⟩ := Option.bind_eq_some_iff.mp hpoll
  cases hpoll
  exact ⟨server₀, Option.bind_eq_some_iff.mpr ⟨server₁, hipv4, hipv6⟩, hcells⟩

/-- From a cell on the round is the rest of the loop. -/
theorem Round.Reaches.rest {round : Round} {server server₁ server' : Server} {i : ℕ} {ret : ℤ}
    (h : round.Reaches server i server₁) (hpoll : serverPoll server round = some (ret, server')) :
    ∃ is, i ∉ is ∧ pollCells round server₁ (i :: is) = some server' := by
  obtain ⟨hready, server₀, hstart, hi, hlt, hloop⟩ := h
  obtain ⟨server₂, hstart', hcells⟩ := serverPoll_eq_some hready hpoll
  obtain rfl := Option.some.inj (hstart.symm.trans hstart')
  -- the cells in front of `i`, the cell and the ones behind it
  have hsplit : List.range' 2 (server₀.nbFds - 2)
      = List.range' 2 (i - 2) ++ i :: List.range' (i + 1) (server₀.nbFds - i - 1) := by
    rw [← List.range'_succ, show server₀.nbFds - 2 = (i - 2) + (server₀.nbFds - i - 1 + 1) by omega,
      ← List.range'_append_1, show 2 + (i - 2) = i by omega]
  rw [hsplit, pollCells_append, hloop] at hcells
  refine ⟨_, fun hmem => ?_, hcells⟩
  rw [List.mem_range'_1] at hmem
  omega

/-- **The offence stays within its stream**: the session in cell `i` is connected after the round, and
what is left of the stream `other`, its buffer and its queue among it, and the events written for it
are those of the exchange `reset` on the session `ez`. What it does later depends on nothing else. -/
def Contained (server₁ server' : Server) (i : ℕ) (ez : Session) (reset : Exchange) (other : ℤ) :
    Prop :=
  ∃ ez', (server'.sessions i).session = some ez' ∧ ez'.sessionUuid = ez.sessionUuid ∧
    ∃ events ez₁, sessionEvents server₁.toServerShared ez reset = some (0, events, ez₁) ∧
      streamView server'.toServerShared ez' other = streamView server₁.toServerShared ez₁ other ∧
      (server'.events.unread.filter fun e => e.BelongsTo ez.sessionUuid other)
        = events.unread.filter fun e => e.BelongsTo ez.sessionUuid other

/-- **A broken limit ends the session**, whichever limit it is and whatever else the session has open:
in every round that reads the input the session is freed, so the offence is never contained. -/
theorem serverPoll_not_contained {round : Round} {server server₁ server' : Server} {ret : ℤ}
    (hpoll : serverPoll server round = some (ret, server')) {i : ℕ}
    (hreaches : round.Reaches server i server₁) (hread : server₁.Readable i)
    (hhang : ¬server₁.HangsUp i) {ez : Session} (hslot : (server₁.sessions i).session = some ez)
    (hng : (round.exchange i).ReportsFailure server₁.toServerShared ez) {streamId : ℤ}
    {pre post : List ClientAction} {a : ClientAction}
    (hlimit : (round.exchange i).BreaksLimit server₁.toServerShared ez streamId pre a post)
    (other : ℤ) :
    (server'.sessions i).session = none ∧
      ¬Contained server₁ server' i ez ((round.exchange i).reset streamId pre post) other := by
  obtain ⟨is, hi, hcells⟩ := hreaches.rest hpoll
  obtain ⟨server₂, hcell, hrest⟩ := Option.bind_eq_some_iff.mp hcells
  have hgone : (server'.sessions i).session = none := by
    rw [session_pollCells hi hrest]
    rcases pollCell_cases hcell with
      ⟨hhang', -⟩ | ⟨-, ⟨hread', -⟩ | ⟨ez₁, hslot₁, ⟨ez', es, hserved⟩ | ⟨es, hended⟩⟩⟩
    · exact absurd hhang' hhang
    · exact absurd hread hread'
    · -- the exchange does not succeed
      rw [hslot, Option.some.injEq] at hslot₁
      subst hslot₁
      obtain ⟨events, hevents⟩ := hserved.exchange
      exact absurd (hlimit.ret_eq_one hng hevents) Nat.zero_ne_one
    · rw [hended.cell.session, if_pos rfl]
  refine ⟨hgone, ?_⟩
  rintro ⟨ez', hslot', -⟩
  rw [hgone] at hslot'
  cases hslot'

/-- A request on stream 1, of whose body two bytes have arrived. -/
def requestOne : List ClientAction :=
  let hd : FrameHd := ⟨1, .headers, 4, 0⟩
  [.beginHeaders 1 16 fun _ => 0, .header hd (bytesOf ":method") (bytesOf "POST"),
    .header hd (bytesOf ":scheme") (bytesOf "http"), .header hd (bytesOf "te") (bytesOf "trailers"),
    .header hd (bytesOf "content-type") (bytesOf "application/grpc"), .frameRecv hd,
    .dataChunk 1 [0, 0]]

/-- A server whose client, in cell 2, has this request under way; its receive buffers take 100
bytes. -/
def serverTwo : Server where
  initialWindowSize := 100
  table := pathTableTen
  events := eventsNew
  nbFds := 3
  fds := fun i => ⟨if i = 2 then 9 else -1, 0⟩
  nbSessions := 3
  sessions := fun i =>
    if i = 2 then
      ⟨true, (run clientStep ⟨⟨100, pathTableTen, eventsNew⟩, sessionNew ⟨7, 2⟩ 9, [], []⟩
        requestOne).map ClientState.session⟩
    else slotZero
  socketCalls := [.acquire 9]

/-- A header field of stream 3 that the server does not look at. -/
def fieldThree : ClientAction := .header ⟨3, .headers, 4, 0⟩ [97] [98]

/-- The start of a second request, on stream 3, with as many fields as a stream takes. -/
def fieldsThree : List ClientAction :=
  .beginHeaders 3 32 (fun _ => 0) :: List.replicate 32 fieldThree

/-- A round in which the client of `serverTwo` sends this request with a 33rd field. -/
def roundFields : Round where
  ready := 1
  revents := fun i => if i = 2 then pollin else 0
  events := eventsNew
  ipv4 := ⟨-1, true, true, true, 0⟩
  ipv6 := ⟨-1, true, true, true, 0⟩
  exchange := fun _ => ⟨true, true, fieldsThree ++ [fieldThree], -902, []⟩

/-- What `poll` finds in that round. -/
def serverTwoPolled : Server :=
  { serverTwo with fds := fun i => ⟨if i = 2 then 9 else -1, if i = 2 then pollin else 0⟩ }

/-- The 33rd field breaks the limit of stream 3, when stream 1 is open with two bytes buffered. -/
theorem breaksLimit_roundFields :
    ∃ ez, (serverTwoPolled.sessions 2).session = some ez ∧
      (ez.ngsession.streams 1).isSome = true ∧ (ez.objs 16).map Stream.recvBytes = some [0, 0] ∧
      (roundFields.exchange 2).BreaksLimit serverTwoPolled.toServerShared ez 3 fieldsThree
        fieldThree [] := by
  obtain ⟨ez, hslot⟩ : ∃ ez, (serverTwoPolled.sessions 2).session = some ez := ⟨_, rfl⟩
  have hopen : (serverTwoPolled.sessions 2).session.map (fun ez =>
      ((ez.ngsession.streams 1).isSome, (ez.objs 16).map Stream.recvBytes))
        = some (true, some [0, 0]) := by
    decide +kernel
  -- the stream is full behind 32 fields
  have hfull : ((serverTwoPolled.sessions 2).session.bind fun ez =>
      (run clientStep ⟨serverTwoPolled.toServerShared, ez, [], []⟩ fieldsThree).map fun st =>
        (st.session.userData 3, (st.session.objs 32).map Stream.nbHeaders))
      = some (some 32, some 32) := by
    decide +kernel
  rw [hslot, Option.map_some, Option.some.injEq, Prod.mk.injEq] at hopen
  rw [hslot, Option.bind_some] at hfull
  obtain ⟨st, hpre, hfull⟩ := Option.map_eq_some_iff.mp hfull
  obtain ⟨hptr, hobj⟩ := Prod.mk.inj hfull
  obtain ⟨s, hobj, hmax⟩ := Option.map_eq_some_iff.mp hobj
  exact ⟨ez, hslot, hopen.1, hopen.2,
    ⟨rfl, rfl, st, hpre, rfl, rfl, 32, s, hptr, hobj, by rw [hmax]; decide⟩⟩

/-- The call of `nghttp2_session_recv` fails in that round. -/
theorem reportsFailure_roundFields (server : ServerShared) (ez : Session) :
    (roundFields.exchange 2).ReportsFailure server ez :=
  fun _ _ _ _ _ _ _ _ _ _ => show (-902 : ℤ) ≠ 0 by decide

theorem reaches_roundFields : roundFields.Reaches serverTwo 2 serverTwoPolled := by
  refine ⟨show (0 : ℤ) < 1 by decide, serverTwoPolled, ?_, Nat.le_refl 2, show 2 < 3 by decide, rfl⟩
  have h0 : (serverTwoPolled.fds 0).revents &&& pollin = 0 := by decide
  have h1 : (serverTwoPolled.fds 1).revents &&& pollin = 0 := by decide
  show (pollListener serverTwoPolled 0 roundFields.ipv4).bind
    (fun server => pollListener server 1 roundFields.ipv6) = some serverTwoPolled
  rw [pollListener, if_neg (not_not.mpr h0), Option.bind_some, pollListener,
    if_neg (not_not.mpr h1)]

/-- **The 33rd header field of stream 3 takes stream 1 with it**: the session, with the two bytes of
stream 1 in it, is gone behind the round. -/
theorem serverPoll_fields_not_contained :
    ∃ server' ez, serverPoll serverTwo roundFields = some (1, server') ∧
      roundFields.Reaches serverTwo 2 serverTwoPolled ∧
      (serverTwoPolled.sessions 2).session = some ez ∧
      (ez.ngsession.streams 1).isSome = true ∧ (ez.objs 16).map Stream.recvBytes = some [0, 0] ∧
      (roundFields.exchange 2).BreaksLimit serverTwoPolled.toServerShared ez 3 fieldsThree
        fieldThree [] ∧
      (roundFields.exchange 2).ReportsFailure serverTwoPolled.toServerShared ez ∧
      ¬Contained serverTwoPolled server' 2 ez
        ((roundFields.exchange 2).reset 3 fieldsThree []) 1 := by
  have hpoll : (serverPoll serverTwo roundFields).map
      (fun p => (p.1, (p.2.sessions 2).session.isNone)) = some (1, true) := by
    decide +kernel
  obtain ⟨⟨ret, server'⟩, hpoll, hgone⟩ := Option.map_eq_some_iff.mp hpoll
  obtain ⟨rfl, hgone⟩ := Prod.mk.inj hgone
  obtain ⟨ez, hslot, hopen, hbytes, hlimit⟩ := breaksLimit_roundFields
  refine ⟨server', ez, hpoll, reaches_roundFields, hslot, hopen, hbytes, hlimit,
    reportsFailure_roundFields _ _, ?_⟩
  rintro ⟨ez', hslot', -⟩
  rw [hslot'] at hgone
  cases hgone

/-- The same round, as a case of the theorem: the session is gone, and nothing of stream 1 or of any
other stream is as the reset would have left it. -/
theorem serverPoll_not_contained_headers :
    ∃ server' ez, serverPoll serverTwo roundFields = some (1, server') ∧
      (serverTwoPolled.sessions 2).session = some ez ∧ (server'.sessions 2).session = none ∧
      ∀ other, ¬Contained serverTwoPolled server' 2 ez
        ((roundFields.exchange 2).reset 3 fieldsThree []) other := by
  have hpoll : (serverPoll serverTwo roundFields).map Prod.fst = some 1 := by decide +kernel
  obtain ⟨⟨ret, server'⟩, hpoll, rfl⟩ := Option.map_eq_some_iff.mp hpoll
  obtain ⟨ez, hslot, -, -, hlimit⟩ := breaksLimit_roundFields
  have hcase := serverPoll_not_contained hpoll reaches_roundFields ⟨by decide, by decide⟩ (by decide)
    hslot (reportsFailure_roundFields _ _) hlimit
  exact ⟨server', ez, hpoll, hslot, (hcase 1).1, fun other => (hcase other).2⟩

end Ezgrpc2
