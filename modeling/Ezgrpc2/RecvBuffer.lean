import Ezgrpc2.StreamPath
import Mathlib.Logic.Function.Basic

/-! # The receive buffer over a run

Three callbacks write the receive buffer of a stream: `on_begin_headers_callback` allocates it,
`on_data_chunk_recv_callback` puts a chunk behind what is in it, and `on_frame_recv_data` moves what
the parser left to the front. `RecvLedger` remembers what a stream accepted and how much of it was
consumed; `hubRun_recvBuffer` says that over any run the buffer is the one without the other. -/

namespace Ezgrpc2

open FlatMemory StepRuns

/-! ## (1) What a stream accepted -/

/-- **What a stream received** since its HEADERS. -/
structure RecvLedger where
  /-- The bytes of the chunks for which the callback returned 0. -/
  accepted : Bytes
  /-- The sum of the values of `lseek`. -/
  consumed : ℕ

/-- The ledger of a stream that has received nothing yet. -/
def RecvLedger.empty : RecvLedger := ⟨[], 0⟩

/-- The ledger when a chunk is accepted. -/
def RecvLedger.accept (ledger : RecvLedger) (data : Bytes) : RecvLedger :=
  { ledger with accepted := ledger.accepted ++ data }

/-- The ledger when the parser has consumed bytes. -/
def RecvLedger.consume (ledger : RecvLedger) (lseek : ℕ) : RecvLedger :=
  { ledger with consumed := ledger.consumed + lseek }

/-- The value of `lseek` in `on_frame_recv_data`; where the function returns before it parses, nothing
is consumed. -/
def Session.lseek (ez : Session) (frame : FrameHd) : ℕ :=
  match (ez.userData frame.streamId).bind ez.objs with
  | none => 0
  | some ezstream =>
      if ezstream.path.isNone || (frame.endStream && ezstream.recvLen == 0) then 0
      else (parseGrpcMessage ezstream.recvData ezstream.recvLen).1

/-- What a callback with the value `ret` adds to the ledger of its stream. -/
def RecvLedger.after (ledger : RecvLedger) (ez : Session) (ret : ℕ) : ClientAction → RecvLedger
  | .beginHeaders _ _ _ => .empty
  | .dataChunk _ data => if ret = 0 then ledger.accept data else ledger
  | .frameRecv frame => if frame.type = .data then ledger.consume (ez.lseek frame) else ledger
  | .header _ _ _ | .streamClose _ => ledger

/-- **The receive buffer is in order**: it is in its limit, and holds the bytes that were accepted
without those that were consumed from the front. -/
structure Stream.Holds (s : Stream) (window : ℕ) (ledger : RecvLedger) : Prop where
  /-- The buffer was allocated with `initial_window_size` bytes. -/
  recvLen_le : s.recvLen ≤ window
  /-- No more was consumed than accepted. -/
  consumed_le : ledger.consumed ≤ ledger.accepted.length
  /-- The bytes in the buffer are those accepted and not consumed. -/
  recvBytes_eq : s.recvBytes = ledger.accepted.drop ledger.consumed

namespace Stream.Holds

variable {s : Stream} {window : ℕ} {ledger : RecvLedger}

/-- The buffer of a stream that begins holds nothing. -/
theorem begun (streamId : ℤ) (mem : ℕ → UInt8) (window : ℕ) :
    (streamBegun streamId mem).Holds window .empty :=
  ⟨Nat.zero_le _, Nat.le_refl _, rfl⟩

/-- Only the buffer and its length count. -/
theorem of_same (h : s.Holds window ledger) {s' : Stream} (hlen : s'.recvLen = s.recvLen)
    (hdata : s'.recvData = s.recvData) : s'.Holds window ledger := by
  refine ⟨hlen ▸ h.recvLen_le, h.consumed_le, ?_⟩
  rw [Stream.recvBytes, hlen, hdata]
  exact h.recvBytes_eq

/-- **A chunk that fits in** is appended. -/
theorem pushChunk (h : s.Holds window ledger) {data : Bytes}
    (hroom : s.recvLen + data.length ≤ window) :
    (s.pushChunk data).Holds window (ledger.accept data) := by
  refine ⟨hroom, ?_, ?_⟩
  · show ledger.consumed ≤ (ledger.accepted ++ data).length
    rw [List.length_append]
    exact Nat.le_add_right_of_le h.consumed_le
  · show _ = (ledger.accepted ++ data).drop ledger.consumed
    rw [Stream.recvBytes_pushChunk, h.recvBytes_eq, List.drop_append_of_le_length h.consumed_le]

/-- **A DATA frame** consumes five bytes for each message. -/
theorem afterFrame (h : s.Holds window ledger) :
    s.afterFrame.Holds window (ledger.consume (5 * s.frames.length)) := by
  obtain ⟨hleft, hle⟩ := headerReader_parse_snd s.recvBytes
  have hlen : s.recvBytes.length = ledger.accepted.length - ledger.consumed := by
    rw [h.recvBytes_eq, List.length_drop]
  have hconsumed := h.consumed_le
  have hbytes : s.afterFrame.recvBytes
      = ledger.accepted.drop (ledger.consumed + 5 * s.frames.length) := by
    rw [Stream.recvBytes_afterFrame, Stream.left, hleft, h.recvBytes_eq, List.drop_drop,
      Stream.frames, h.recvBytes_eq]
  refine ⟨?_, ?_, hbytes⟩
  · -- what is left is no longer than what was there
    have hshorter := congrArg List.length hbytes
    rw [Stream.length_recvBytes, List.length_drop] at hshorter
    rw [Stream.length_recvBytes] at hlen
    have hwindow := h.recvLen_le
    omega
  · show ledger.consumed + 5 * s.frames.length ≤ ledger.accepted.length
    have hfound : 5 * s.frames.length ≤ s.recvBytes.length := hle
    omega

end Stream.Holds

/-! ## (2) What a callback does -/

section Callback

variable {server : ServerShared} {ez : Session} {frame : FrameHd} {ptr : ℕ} {s : Stream}

/-- A DATA frame of a stream without a path consumes nothing. -/
theorem Session.lseek_of_pathOf_none
    (h : ((ez.userData frame.streamId).bind ez.objs).bind Stream.path = none) :
    ez.lseek frame = 0 := by
  rw [Session.lseek]
  cases hs : (ez.userData frame.streamId).bind ez.objs with
  | none => rfl
  | some s =>
      rw [hs, Option.bind_some] at h
      show (if s.path.isNone || _ then 0 else _) = 0
      rw [h, Option.isNone_none, Bool.true_or, if_pos rfl]

/-- **What a DATA frame consumes**: five bytes for each message that is found, also where the function
returns before it parses. -/
theorem Session.lseek_eq {path : ℕ} (hptr : ez.userData frame.streamId = some ptr)
    (hobj : ez.objs ptr = some s) (hpath : s.path = some path) :
    ez.lseek frame = 5 * s.frames.length := by
  simp only [Session.lseek, hptr, Option.bind_some, hobj, hpath, Option.isNone_some, Bool.false_or]
  by_cases hend : (frame.endStream && s.recvLen == 0) = true
  · -- an empty buffer has no messages
    have hempty : s.recvBytes = [] := by
      rw [Bool.and_eq_true, beq_iff_eq] at hend
      exact Stream.recvLen_eq_zero.mp hend.2
    have hfound := (headerReader_parse_snd s.recvBytes).2
    rw [hempty, List.length_nil, ← hempty] at hfound
    rw [if_pos hend]
    exact (Nat.le_zero.mp hfound).symm
  · rw [if_neg hend]
    exact (parseGrpcMessage_eq s.recvData s.recvLen s.frames rfl).1

/-- **The receive buffers of a session** are in order. -/
def Session.Holds (ez : Session) (window : ℕ) (ledgers : ℤ → RecvLedger) : Prop :=
  ∀ streamId ptr s, ez.userData streamId = some ptr → ez.objs ptr = some s →
    s.Holds window (ledgers streamId)

namespace Session.Holds

variable {window : ℕ} {ledgers : ℤ → RecvLedger} {streamId : ℤ}

/-- A stream object is stored, and the ledger of its stream is updated. -/
theorem setObj (h : ez.Holds window ledgers) (hok : ez.UserDataOk)
    (hptr : ez.userData streamId = some ptr) {s' : Stream} {ledger : RecvLedger}
    (hs' : s'.Holds window ledger) :
    (ez.setObj ptr (some s')).Holds window (Function.update ledgers streamId ledger) := by
  intro id p t hp ht
  rw [Session.setObj_userData] at hp
  by_cases hid : id = streamId
  · subst hid
    obtain rfl := Option.some.inj (hp.symm.trans hptr)
    rw [Session.setObj_objs_self, Option.some.injEq] at ht
    rw [Function.update_self, ← ht]
    exact hs'
  · rw [Session.setObj_objs_of_ne _ (hok.ne hp hptr hid)] at ht
    rw [Function.update_of_ne hid]
    exact h id p t hp ht

/-- Frames that are submitted change no receive buffer. -/
theorem submitAll (h : ez.Holds window ledgers) (subs : List Submission) :
    (ez.submitAll subs).Holds window ledgers := by
  rw [Session.submitAll_eq]
  exact h

/-- The ledger of a stream without an object does not count. -/
theorem of_userData_none (h : ez.Holds window ledgers) (hnone : ez.userData streamId = none)
    (ledger : RecvLedger) : ez.Holds window (Function.update ledgers streamId ledger) := by
  intro id p t hp ht
  have hid : id ≠ streamId := by
    rintro rfl
    rw [hnone] at hp
    cases hp
  rw [Function.update_of_ne hid]
  exact h id p t hp ht

/-- A HEADERS frame begins a new object, with an empty buffer. -/
theorem beginHeaders (h : ez.Holds window ledgers) (hok : ez.UserDataOk)
    (hfree : ez.objs ptr = none) (mem : ℕ → UInt8) :
    (Ezgrpc2.beginHeaders server ez streamId ptr mem).session.Holds window
      (Function.update ledgers streamId .empty) := by
  intro id p t hp ht
  rw [userData_beginHeaders] at hp
  rw [objs_beginHeaders] at ht
  by_cases hid : id = streamId
  · rw [if_pos hid, Option.some.injEq] at hp
    rw [if_pos hp.symm, Option.some.injEq] at ht
    rw [hid, Function.update_self, ← ht]
    exact .begun streamId mem window
  · rw [if_neg hid] at hp
    rw [Function.update_of_ne hid]
    -- the new object is not the one of another stream
    have hpp : p ≠ ptr := by
      rintro rfl
      obtain ⟨t', ht', -⟩ := hok id p hp
      rw [hfree] at ht'
      cases ht'
    rw [if_neg hpp] at ht
    exact h id p t hp ht

/-- The end of a stream leaves the others as they are. -/
theorem closeStream (h : ez.Holds window ledgers) (hok : ez.UserDataOk)
    (hptr : ez.userData streamId = some ptr) {l : List ℕ} :
    Session.Holds { ({ ez with lstreams := l } : Session).setObj ptr none with
      ngsession := ez.ngsession.closeStream streamId } window ledgers := by
  intro id p t hp ht
  rw [@Session.userData_closeStream ez _ streamId rfl] at hp
  split at hp
  · cases hp
  · next hid =>
      exact h id p t hp ((Session.setObj_objs_of_ne none (hok.ne hp hptr hid)).symm.trans ht)

end Session.Holds

/-- **A callback keeps the receive buffers in order**, with what it adds to the ledger of its stream. -/
theorem holds_callback {window : ℕ} {ledgers : ℤ → RecvLedger} {a : ClientAction}
    {r : CallbackResult} (hwindow : server.initialWindowSize = window)
    (h : ez.Holds window ledgers) (hok : ez.UserDataOk) (hlegal : a.Legal ⟨server, ez, [], []⟩)
    (hr : a.callback server ez = some r) :
    r.session.Holds window
      (Function.update ledgers a.streamId ((ledgers a.streamId).after ez r.ret a)) := by
  -- where nothing is added the ledgers are as before
  have hsame : ∀ streamId, Function.update ledgers streamId (ledgers streamId) = ledgers :=
    fun streamId => Function.update_eq_self streamId ledgers
  cases ClientAction.effect hr with
  | begins streamId ptr mem => exact h.beginHeaders hok hlegal mem
  | @skipsHeader frame =>
      rw [RecvLedger.after, hsame]
      exact h
  | @refusesHeader frame =>
      rw [RecvLedger.after, hsame]
      exact h
  | @storesHeader frame name value ptr s htype hptr hobj =>
      obtain ⟨-, ⟨hlen, hdata⟩, -⟩ :=
        (s.pushHeader name value).applyHeader_frame server.table name value
      exact h.setObj hok hptr ((h _ ptr s hptr hobj).of_same hlen hdata)
  | @answers frame subs hdata =>
      have hafter : (ledgers frame.streamId).after ez 0 (.frameRecv frame)
          = ledgers frame.streamId := by
        rw [RecvLedger.after]
        split
        · next htype =>
            rw [Session.lseek_of_pathOf_none (hdata htype)]
            rfl
        · rfl
      rw [ClientAction.streamId, hafter, hsame]
      exact h.submitAll subs
  | @parses frame ptr path s htype hptr hobj hpath =>
      rw [ClientAction.streamId, RecvLedger.after, if_pos htype, Session.lseek_eq hptr hobj hpath]
      exact h.setObj hok hptr (h _ ptr s hptr hobj).afterFrame
  | @skipsChunk streamId data hnone => exact h.of_userData_none hnone _
  | @refusesChunk streamId data ptr s hptr hobj hover =>
      rw [RecvLedger.after, if_neg Nat.one_ne_zero, hsame]
      exact h.submitAll _
  | @storesChunk streamId data ptr s hptr hobj hroom =>
      rw [RecvLedger.after, if_pos rfl]
      refine h.setObj hok hptr ((h _ ptr s hptr hobj).pushChunk ?_)
      rw [← hwindow]
      exact Nat.le_of_not_lt hroom
  | closes hptr =>
      rw [RecvLedger.after, hsame]
      exact h.closeStream hok hptr

/-- **The callbacks for DATA return**, whatever the stream: the assertion on `lseek` holds. -/
theorem Session.UserDataOk.data_returns (hok : ez.UserDataOk) (server : ServerShared) :
    (∀ streamId data, (onDataChunkRecvCallback server ez streamId data).isSome) ∧
      ∀ frame, (onFrameRecvData server ez frame).isSome := by
  constructor
  · intro streamId data
    rw [onDataChunkRecvCallback]
    cases hptr : ez.userData streamId with
    | none => rfl
    | some ptr =>
        obtain ⟨s, hobj, -⟩ := hok _ ptr hptr
        simp only [hobj, Option.bind_eq_bind, Option.bind_some]
        split <;> rfl
  · intro frame
    cases hptr : ez.userData frame.streamId with
    | none =>
        rw [onFrameRecvData, hptr]
        rfl
    | some ptr =>
        obtain ⟨s, hobj, -⟩ := hok _ ptr hptr
        cases hpath : s.path with
        | none =>
            rw [onFrameRecvData, hptr]
            simp only [hobj, hpath, Option.bind_eq_bind, Option.bind_some]
            rfl
        | some path =>
            rw [onFrameRecvData_eq hptr hobj hpath]
            rfl

end Callback

/-! ## (3) Runs of all sessions -/

/-- The sessions with what their streams received. -/
structure RecvHub where
  /-- The sessions of the server, with what they share. -/
  hub : Hub
  /-- What each stream of each session has received. -/
  ledgers : ℕ → ℤ → RecvLedger

/-- One action, with what it adds to the ledgers. -/
def recvHubStep (st : RecvHub) : HubAction → Option RecvHub
  | .client i a => do
      let hub ← hubAct st.hub (.client i a)
      let r ← a.callback st.hub.server (st.hub.sessions i)
      let ledger := (st.ledgers i a.streamId).after (st.hub.sessions i) r.ret a
      some
        { hub := hub
          ledgers :=
            Function.update st.ledgers i (Function.update (st.ledgers i) a.streamId ledger) }
  | .pathCall call => do
      let hub ← hubAct st.hub (.pathCall call)
      some { st with hub := hub }

/-- Nothing was received by a new server. -/
def recvHubStart (server : ServerShared) (handles : ℕ → SessionUuid) (sockfds : ℕ → ℤ) :
    RecvHub where
  hub := hubNewSessions server handles sockfds
  ledgers := fun _ _ => .empty

namespace RecvHub

variable {st st' : RecvHub} {window : ℕ}

/-- **The invariant**: every session has its user data and its receive buffers in order. -/
structure Inv (window : ℕ) (st : RecvHub) : Prop where
  /-- The limit of the receive buffers stays. -/
  window_eq : st.hub.server.initialWindowSize = window
  /-- The user data of each stream is its object. -/
  userData : ∀ i, (st.hub.sessions i).UserDataOk
  /-- The receive buffers of each session hold what their ledgers say. -/
  holds : ∀ i, (st.hub.sessions i).Holds window (st.ledgers i)

/-- The invariant holds of new sessions, which have no streams. -/
theorem Inv.start (server : ServerShared) (handles : ℕ → SessionUuid) (sockfds : ℕ → ℤ) :
    Inv server.initialWindowSize (recvHubStart server handles sockfds) where
  window_eq := rfl
  userData i := (Session.registryOk_sessionNew (handles i) (sockfds i)).userDataOk
  holds i := by
    intro streamId ptr s hptr
    cases hptr

/-- Every callback of a session keeps the invariant. -/
theorem Inv.client (h : Inv window st) {i : ℕ} {a : ClientAction}
    (hstep : recvHubStep st (.client i a) = some st') : Inv window st' := by
  obtain ⟨hub, hact, hstep⟩ := Option.bind_eq_some_iff.mp hstep
  obtain ⟨r, hr, hstep⟩ := Option.bind_eq_some_iff.mp hstep
  obtain rfl := Option.some.inj hstep
  refine ⟨?_, fun j => (hubAct_userDataOk h.userData hact j).1, fun j => ?_⟩
  · obtain ⟨-, r', -, rfl⟩ := hubAct_client hact
    exact h.window_eq
  · obtain ⟨hlegal, r', hr', rfl⟩ := hubAct_client hact
    obtain rfl := Option.some.inj (hr.symm.trans hr')
    by_cases hj : j = i
    · subst hj
      show ((st.hub.after j r).sessions j).Holds window (Function.update st.ledgers j _ j)
      rw [Function.update_self, Hub.sessions_after_self]
      exact holds_callback h.window_eq (h.holds j) (h.userData j) hlegal hr
    · show ((st.hub.after i r).sessions j).Holds window (Function.update st.ledgers i _ j)
      rw [Function.update_of_ne hj, Hub.sessions_after_of_ne r hj]
      exact h.holds j

/-- A call on the path table touches no session. -/
theorem Inv.pathCall (h : Inv window st) {call : PathCall}
    (hstep : recvHubStep st (.pathCall call) = some st') : Inv window st' := by
  obtain rfl := Option.some.inj hstep
  exact ⟨h.window_eq, h.userData, h.holds⟩

end RecvHub

/-- **The receive buffer is what was accepted and not consumed.** Take any run of the callbacks of all
sessions and of calls on the path table, and a state it reaches: every stream object has at most
`initial_window_size` bytes in its buffer, and they are the bytes of its accepted chunks, in order,
without as many in front as `lseek` added up to; and the DATA callbacks return, whatever they get. -/
theorem hubRun_recvBuffer (server : ServerShared) (handles : ℕ → SessionUuid) (sockfds : ℕ → ℤ)
    (acts : List HubAction) {st : RecvHub}
    (hrun : run recvHubStep (recvHubStart server handles sockfds) acts = some st) (i : ℕ) :
    (∀ streamId ptr s, (st.hub.sessions i).userData streamId = some ptr →
      (st.hub.sessions i).objs ptr = some s →
      s.Holds server.initialWindowSize (st.ledgers i streamId)) ∧
    (∀ streamId data,
      (onDataChunkRecvCallback st.hub.server (st.hub.sessions i) streamId data).isSome) ∧
    ∀ frame, (onFrameRecvData st.hub.server (st.hub.sessions i) frame).isSome := by
  have hinv : st.Inv server.initialWindowSize := by
    refine run_invariant recvHubStep ?_ (RecvHub.Inv.start server handles sockfds) hrun
    intro st act st' h hstep
    cases act with
    | client i a => exact h.client hstep
    | pathCall call => exact h.pathCall hstep
  exact ⟨hinv.holds i, (hinv.userData i).data_returns st.hub.server⟩

/-- A request whose body comes in three chunks, the second of which is too long. -/
def threeChunks : List HubAction :=
  requestOf (bytesOf "/a") ++
    [.client 0 (.dataChunk 1 [0, 0, 0, 0, 0]), .client 0 (.dataChunk 1 (List.replicate 96 7)),
      .client 0 (.dataChunk 1 [9]), .client 0 (.frameRecv ⟨1, .data, 0, 6⟩)]

/-- The message is consumed, the byte behind it is left, and the chunk that was refused is nowhere. -/
theorem hubRun_recvBuffer_three_chunks :
    ∃ st s, run recvHubStep (recvHubStart hubNew.server (fun i => ⟨7, i⟩) fun _ => 5) threeChunks
        = some st ∧
      (st.hub.sessions 0).objs 16 = some s ∧ s.path = some 0 ∧ s.recvBytes = [9] := by
  have heval : (run recvHubStep (recvHubStart hubNew.server (fun i => ⟨7, i⟩) fun _ => 5)
      threeChunks).map (fun st => ((st.ledgers 0 1).accepted, (st.ledgers 0 1).consumed,
        (st.hub.sessions 0).userData 1, ((st.hub.sessions 0).objs 16).map Stream.path))
      = some ([0, 0, 0, 0, 0, 9], 5, some 16, some (some 0)) := by
    decide +kernel
  obtain ⟨st, hrun, hst⟩ := Option.map_eq_some_iff.mp heval
  simp only [Prod.mk.injEq] at hst
  obtain ⟨haccepted, hconsumed, hptr, hobj⟩ := hst
  obtain ⟨s, hobj, hpath⟩ := Option.map_eq_some_iff.mp hobj
  have hholds := (hubRun_recvBuffer _ _ _ _ hrun 0).1 1 16 s hptr hobj
  refine ⟨st, s, hrun, hobj, hpath, ?_⟩
  rw [hholds.recvBytes_eq, haccepted, hconsumed]
  rfl

end Ezgrpc2
