import Ezgrpc2.ApplicationServer
import Ezgrpc2.Lib.RequestReply

/-! # The application without threads

`examples/single_threaded.c` serves the same paths as `examples/multi_threaded.c` without pools: each
event is answered where it is read. It is a service too, with one channel on which every event the
server writes is a request and the calls made for it are the reply. It answers them in order, and all
of them before it polls again (`singleRun_answers`); and it does not abort (`singleRun_completes`).

Memory can be allocated. `poll`'s timeout and the printing are left out, and so are the `free` of what
`stream_send` leaves of its argument and the messages of clients, which are never freed. -/

namespace Ezgrpc2

open CStrings FlatMemory Handles RequestReply StepRuns

namespace SingleThreaded

/-! ## (1) The callbacks -/

/-- The loop of a callback: its messages, with the counter in front, and the counter behind it. -/
def responses (text : String) (pp : UInt32) : List Message × UInt32 :=
  ((List.range 2).map fun i =>
    messageNew 0 (u32Bytes (pp + UInt32.ofNat i).toNat ++ bytesOf text ++ [0]), pp + 2)

/-- `callback_path0`: two messages with the next values of the counter. -/
def callbackPath0 (pp : UInt32) : List Message × UInt32 := responses "path0!" pp

/-- `callback_path1`: two messages with the next values of the counter. -/
def callbackPath1 (pp : UInt32) : List Message × UInt32 := responses "path1!" pp

/-- The call of a callback, by its address. -/
def callback (func : ℕ) (pp : UInt32) : Option (List Message × UInt32) :=
  match func with
  | 0 => some (callbackPath0 pp)
  | 1 => some (callbackPath1 pp)
  | _ => none

/-! ## (2) Events -/

/-- `EZGRPC2_GRPC_STATUS_OK`, the status of a call that was answered. -/
def grpcStatusOk : ℤ := 0

/-- A call of the library for a stream. -/
inductive StreamCall where
  /-- A call of `ezgrpc2_server_session_stream_send`, which returned `ret`. -/
  | streamSend (sessionUuid : SessionUuid) (streamId : ℤ) (messages : List Message) (ret : ℕ)
  /-- A call of `ezgrpc2_server_session_stream_end` with a status. -/
  | streamEnd (sessionUuid : SessionUuid) (streamId : ℤ) (status : ℤ)
deriving DecidableEq

/-- What is done for an event, and from which counter on. -/
structure Response where
  /-- The counter before the event is handled. -/
  pp : UInt32
  /-- The calls made for the event, in order. -/
  calls : List StreamCall

/-- The state behind an event, and what was done for it. -/
structure Handled where
  /-- The server behind the event. -/
  server : Server
  /-- The counter behind the event. -/
  pp : UInt32
  /-- The calls that were made for the event. -/
  response : Response

/-- `handle_event_message`. `sends` and `send` are the calls of `nghttp2_session_send` in `stream_send`
and `stream_end`. -/
def handleEventMessage (server : Server) (pp : UInt32) (event : Event) (messages : List Message)
    (streamId : ℤ) (endStream : Bool) (sends : List NgSend) (send : NgSend) : Option Handled := do
  let nbMsg := messages.length
  let path ← event.userdata.bind pathUserdata
  if path.isUnary && (!endStream || nbMsg != 1) then
    let r ← sessionStreamEnd server event.sessionUuid streamId grpcStatusInvalidArgument send
    some ⟨r.server, pp, pp, [.streamEnd event.sessionUuid streamId grpcStatusInvalidArgument]⟩
  else
    let (omessages, pp') ← callback path.callback pp
    let r ← sessionStreamSend server event.sessionUuid streamId omessages sends
    let sent := StreamCall.streamSend event.sessionUuid streamId omessages r.ret
    match r.ret with
    | 0 =>
        if endStream then do
          let r ← sessionStreamEnd r.server event.sessionUuid streamId grpcStatusOk send
          some ⟨r.server, pp', pp, [sent, .streamEnd event.sessionUuid streamId grpcStatusOk]⟩
        else some ⟨r.server, pp', pp, [sent]⟩
    | 1 | 2 | 3 => some ⟨r.server, pp', pp, [sent]⟩
    | _ => none

/-- `handle_event_dataloss`: the stream is ended with DATA_LOSS. -/
def handleEventDataloss (server : Server) (pp : UInt32) (event : Event) (streamId : ℤ) (send : NgSend) :
    Option Handled := do
  let r ← sessionStreamEnd server event.sessionUuid streamId grpcStatusDataLoss send
  some ⟨r.server, pp, pp, [.streamEnd event.sessionUuid streamId grpcStatusDataLoss]⟩

/-- The `switch` of `handle_events` on the type of an event. -/
def handleEvent (server : Server) (pp : UInt32) (event : Event) (sends : List NgSend) (send : NgSend) :
    Option Handled :=
  match event.kind with
  | .message messages streamId endStream =>
      handleEventMessage server pp event messages streamId endStream sends send
  | .dataloss streamId => handleEventDataloss server pp event streamId send
  | .cancel _ | .connect | .disconnect => some ⟨server, pp, pp, []⟩

/-! ## (3) The steps -/

/-- The points of `main`, from its loop on. -/
inductive Point where
  /-- At the head of the loop. -/
  | loop
  /-- In `handle_events`, with the events that are left of an array. -/
  | events (left : List Event)
  /-- Behind the loop, on the way out of the process. -/
  | exit

/-- The process. The last three fields are not in the source: they record what has happened. -/
structure Process where
  /-- The server; its event queue is the one `main` made. -/
  server : Server
  /-- The counter `pp`, which numbers the messages sent. -/
  pp : UInt32
  /-- The point of its code that `main` is at. -/
  point : Point
  /-- The events the server has written. -/
  written : List Event
  /-- The events that `main` has handled, in order. -/
  handled : List Event
  /-- What was done for each event that was handled. -/
  responses : List Response

/-- A step of `main`, with what it meets. -/
inductive Action where
  /-- `main` calls `ezgrpc2_server_poll`, which meets the round. -/
  | serverPoll (round : Round)
  /-- `ezgrpc2_events_read`, with the `free` of the array before. -/
  | eventsRead
  /-- The next event of the array is handled. -/
  | event (sends : List NgSend) (send : NgSend)

/-- The point of `main` behind a read: the events of an array, or the loop again. -/
def readPoint : Option ((ℕ → Event) × ℕ) → Point
  | none => .loop
  | some (event, nbEvent) => .events (slice event 0 nbEvent)

/-- One step of `main`, if it is at the point for it. -/
def step (p : Process) : Action → Option Process
  | .serverPoll round =>
      match p.point with
      | .loop => do
          let (res, server) ← serverPoll p.server { round with events := p.server.events }
          some
            { p with
              server := server
              written := p.written ++ server.events.unread.drop p.server.events.unread.length
              point := if res < 0 then .exit else if res > 0 then .events [] else .loop }
      | _ => none
  | .eventsRead =>
      match p.point with
      | .events [] =>
          let r := Ezgrpc2.eventsRead p.server.events
          some { p with server := { p.server with events := r.2 }, point := readPoint r.1 }
      | _ => none
  | .event sends send =>
      match p.point with
      | .events (event :: left) => do
          let r ← handleEvent p.server p.pp event sends send
          some
            { p with
              server := r.server
              pp := r.pp
              point := .events left
              handled := p.handled ++ [event]
              responses := p.responses ++ [r.response] }
      | _ => none

/-- The process at the head of its loop. -/
def start (server : Server) : Process where
  server := { server with events := eventsNew }
  pp := 0
  point := .loop
  written := []
  handled := []
  responses := []

/-! ## (4) What is done for an event -/

/-- **The calls made for an event are those it asks for**, one constructor for each case. -/
inductive Response.Answers (r : Response) (event : Event) : Prop
  /-- A unary call that is not one whole message is refused. -/
  | refused {path : PathUserdata} {messages : List Message} {streamId : ℤ} {endStream : Bool}
      (hpath : event.userdata.bind pathUserdata = some path)
      (hkind : event.kind = .message messages streamId endStream)
      (hrefuses : path.refuses messages.length endStream = true)
      (hcalls : r.calls = [.streamEnd event.sessionUuid streamId grpcStatusInvalidArgument])
  /-- The messages of the callback are sent, and the stream is ended when the client has ended it. -/
  | sent {path : PathUserdata} {messages omessages : List Message} {streamId : ℤ} {endStream : Bool}
      {pp' : UInt32} {ret : ℕ} (hpath : event.userdata.bind pathUserdata = some path)
      (hkind : event.kind = .message messages streamId endStream)
      (hrefuses : path.refuses messages.length endStream = false)
      (hcallback : callback path.callback r.pp = some (omessages, pp')) (hret : ret ≤ 3)
      (hcalls : r.calls = .streamSend event.sessionUuid streamId omessages ret ::
        if ret = 0 ∧ endStream = true then [.streamEnd event.sessionUuid streamId grpcStatusOk] else [])
  /-- Bytes were lost: the stream is ended. -/
  | lost {streamId : ℤ} (hkind : event.kind = .dataloss streamId)
      (hcalls : r.calls = [.streamEnd event.sessionUuid streamId grpcStatusDataLoss])
  /-- The event is not of a stream, and nothing is to be done. -/
  | ignored (hkind : event.kind.ofFrame = false) (hcalls : r.calls = [])

/-- The messages that a call sends. -/
def StreamCall.messages : StreamCall → List Message
  | .streamSend _ _ messages _ => messages
  | .streamEnd _ _ _ => []

/-- The messages that are sent for an event. -/
def Response.messages (r : Response) : List Message := r.calls.flatMap StreamCall.messages

/-- The messages are numbered from `pp` on, in their first four bytes. -/
def Numbered (pp : UInt32) (messages : List Message) : Prop :=
  messages.map (fun m => m.data.take 4)
    = (List.range messages.length).map fun k => u32Bytes (pp + UInt32.ofNat k).toNat

theorem Numbered.nil (pp : UInt32) : Numbered pp [] := rfl

/-- Messages that go on with the counter go on with the numbering. -/
theorem Numbered.append {pp : UInt32} {messages messages' : List Message} (h : Numbered pp messages)
    (h' : Numbered (pp + UInt32.ofNat messages.length) messages') :
    Numbered pp (messages ++ messages') := by
  rw [Numbered, List.map_append, h, h', List.length_append, List.range_add, List.map_append,
    List.map_map]
  congr 1
  apply List.map_congr_left
  intro k _
  rw [Function.comp_apply, UInt32.ofNat_add, UInt32.add_assoc]

/-- A callback makes messages that are numbered from the counter on, none of them empty. -/
theorem callback_eq_some {func : ℕ} {pp pp' : UInt32} {messages : List Message}
    (h : callback func pp = some (messages, pp')) :
    Numbered pp messages ∧ pp' = pp + UInt32.ofNat messages.length ∧ ∀ m ∈ messages, m.len = 11 := by
  have hresponses : ∀ {text : String}, (bytesOf text).length = 6 →
      responses text pp = (messages, pp') → Numbered pp messages ∧
        pp' = pp + UInt32.ofNat messages.length ∧ ∀ m ∈ messages, m.len = 11 := by
    intro text htext heq
    obtain ⟨rfl, rfl⟩ := Prod.mk.inj heq
    refine ⟨rfl, rfl, fun m hm => ?_⟩
    obtain ⟨i, -, rfl⟩ := List.mem_map.mp hm
    show (u32Bytes (pp + UInt32.ofNat i).toNat ++ bytesOf text ++ [0]).length % 2 ^ 32 = 11
    rw [List.length_append, List.length_append, htext]
    rfl
  unfold callback at h
  split at h
  · exact hresponses rfl (Option.some.inj h)
  · exact hresponses rfl (Option.some.inj h)
  · cases h

/-- **What the handling of an event does.** -/
structure Handled.Ok (server : Server) (pp : UInt32) (event : Event) (r : Handled) : Prop where
  /-- The response is one to the event. -/
  answers : r.response.Answers event
  /-- The response starts at the counter. -/
  pp_eq : r.response.pp = pp
  /-- Its messages are numbered on from there. -/
  numbered : Numbered pp r.response.messages
  /-- The counter has counted its messages. -/
  counted : r.pp = pp + UInt32.ofNat r.response.messages.length
  /-- No event is written, and the path table stays. -/
  quiet : server.Quiet r.server

theorem handleEvent_ok {server : Server} {pp : UInt32} {event : Event} {sends : List NgSend}
    {send : NgSend} {r : Handled} (h : handleEvent server pp event sends send = some r) :
    r.Ok server pp event := by
  obtain ⟨sessionUuid, userdata, kind⟩ := event
  cases kind with
  | message messages streamId endStream =>
      obtain ⟨path, hpath, h⟩ := Option.bind_eq_some_iff.mp h
      have hpath : userdata.bind pathUserdata = some path := hpath
      by_cases hrefuses : path.refuses messages.length endStream = true
      · have hrefuses' := hrefuses
        rw [PathUserdata.refuses] at hrefuses'
        rw [if_pos hrefuses'] at h
        obtain ⟨call, hcall, h⟩ := Option.bind_eq_some_iff.mp h
        obtain rfl := Option.some.inj h
        exact ⟨.refused hpath rfl hrefuses rfl, rfl, .nil pp, (UInt32.add_zero pp).symm,
          sessionStreamEnd_quiet hcall⟩
      · have hrefuses' := hrefuses
        rw [PathUserdata.refuses] at hrefuses'
        rw [if_neg hrefuses'] at h
        obtain ⟨⟨omessages, pp'⟩, hcallback, h⟩ := Option.bind_eq_some_iff.mp h
        obtain ⟨call, hcall, h⟩ := Option.bind_eq_some_iff.mp h
        obtain ⟨hnumbered, rfl, -⟩ := callback_eq_some hcallback
        have hquiet := sessionStreamSend_quiet hcall
        have hret := sessionStreamSend_ret_le hcall
        -- the calls, by whether `stream_end` is called
        have hsent : ∀ calls server', calls = StreamCall.streamSend sessionUuid streamId omessages call.ret ::
            (if call.ret = 0 ∧ endStream = true then [.streamEnd sessionUuid streamId grpcStatusOk] else []) →
            server.Quiet server' →
            Handled.Ok server pp ⟨sessionUuid, userdata, .message messages streamId endStream⟩
              ⟨server', pp + UInt32.ofNat omessages.length, pp, calls⟩ := by
          intro calls server' hcalls hquiet'
          have hmessages : Response.messages ⟨pp, calls⟩ = omessages := by
            rw [Response.messages, hcalls, List.flatMap_cons]
            split <;> simp [StreamCall.messages]
          refine ⟨.sent hpath rfl (Bool.eq_false_iff.mpr hrefuses) hcallback hret hcalls, rfl, ?_, ?_,
            hquiet'⟩
          · rw [hmessages]
            exact hnumbered
          · rw [hmessages]
        dsimp only at h
        split at h
        · next hzero =>
            split at h
            · next hend =>
                obtain ⟨call', hcall', h⟩ := Option.bind_eq_some_iff.mp h
                obtain rfl := Option.some.inj h
                have hquiet' := sessionStreamEnd_quiet hcall'
                refine hsent _ _ ?_ ⟨hquiet'.events.trans hquiet.events, hquiet'.table.trans hquiet.table⟩
                rw [if_pos ⟨hzero, hend⟩, hzero]
            · next hend =>
                obtain rfl := Option.some.inj h
                refine hsent _ _ ?_ hquiet
                rw [if_neg (fun hcon => hend hcon.2), hzero]
        iterate 3
          · next hne =>
              obtain rfl := Option.some.inj h
              refine hsent _ _ ?_ hquiet
              rw [if_neg (fun hcon => by omega)]
        · cases h
  | dataloss streamId =>
      obtain ⟨call, hcall, h⟩ := Option.bind_eq_some_iff.mp h
      obtain rfl := Option.some.inj h
      exact ⟨.lost rfl rfl, rfl, .nil pp, (UInt32.add_zero pp).symm, sessionStreamEnd_quiet hcall⟩
  | cancel _ | connect | disconnect =>
      obtain rfl := Option.some.inj h
      exact ⟨.ignored rfl rfl, rfl, .nil pp, (UInt32.add_zero pp).symm, ⟨rfl, rfl⟩⟩

/-! ## (5) The invariant -/

/-- The events that are left of the array at hand. -/
def Point.left : Point → List Event
  | .events left => left
  | .loop | .exit => []

@[simp] theorem left_readPoint (r : Option ((ℕ → Event) × ℕ)) : (readPoint r).left = readEvents r := by
  cases r <;> rfl

/-- The messages sent so far, in order. -/
def Process.messages (p : Process) : List Message := p.responses.flatMap Response.messages

/-- **The invariant of the process**, over all its steps. -/
structure Process.Inv (p : Process) : Prop where
  /-- The events the server wrote are handled, at hand or queued, in this order. -/
  line : p.handled ++ p.point.left ++ p.server.events.unread = p.written
  /-- The queue is empty unless `main` is reading it. -/
  drained : (∀ left, p.point ≠ .events left) → p.server.events.unread = []
  /-- Each event handled has its response. -/
  length : p.responses.length = p.handled.length
  /-- The messages sent are numbered from 0. -/
  numbered : Numbered 0 p.messages
  /-- The counter counts the messages sent. -/
  counted : p.pp = UInt32.ofNat p.messages.length

/-- **The process as its clients see it**: the server's events, and what was done for them. -/
def Process.service (p : Process) : Service Unit Event Response where
  requests _ := p.written
  replies _ := p.responses.mapIdx fun i r => (i, r)

/-- **What a step can do**: one constructor for each way `main` can go on. -/
inductive Move (p : Process) : Process → Prop
  /-- `main` polls the server, and leaves its loop where that fails. -/
  | polls {round : Round} {res : ℤ} {server : Server} (hpoint : p.point = .loop)
      (hpoll : serverPoll p.server { round with events := p.server.events } = some (res, server)) :
      Move p
        { p with
          server := server
          written := p.written ++ server.events.unread.drop p.server.events.unread.length
          point := if res < 0 then .exit else if res > 0 then .events [] else .loop }
  /-- The next array of events is read. -/
  | reads (hpoint : p.point = .events []) :
      Move p
        { p with
          server := { p.server with events := (eventsRead p.server.events).2 }
          point := readPoint (eventsRead p.server.events).1 }
  /-- `main` handles the next event of an array. -/
  | handles {event : Event} {left : List Event} {r : Handled} (hpoint : p.point = .events (event :: left))
      (hr : r.Ok p.server p.pp event) :
      Move p
        { p with
          server := r.server
          pp := r.pp
          point := .events left
          handled := p.handled ++ [event]
          responses := p.responses ++ [r.response] }

theorem step_move {p p' : Process} {a : Action} (h : step p a = some p') : Move p p' := by
  unfold step at h
  split at h
  · split at h
    · next hpoint =>
        obtain ⟨⟨res, server⟩, hpoll, h⟩ := Option.bind_eq_some_iff.mp h
        obtain rfl := Option.some.inj h
        exact .polls hpoint hpoll
    · cases h
  · split at h
    · next hpoint =>
        obtain rfl := Option.some.inj h
        exact .reads hpoint
    · cases h
  · split at h
    · next hpoint =>
        obtain ⟨r, hr, h⟩ := Option.bind_eq_some_iff.mp h
        obtain rfl := Option.some.inj h
        exact .handles hpoint (handleEvent_ok hr)
    · cases h

/-- The responses are numbered as the events they are for. -/
theorem Process.answered_service (p : Process) (k : Unit) :
    p.service.answered k = List.range p.responses.length := by
  apply List.ext_getElem
  · simp [Service.answered, Process.service]
  · intro i _ _
    simp [Service.answered, Process.service]

namespace Process.Inv

variable {p p' : Process}

/-- **Every step keeps the invariant.** -/
theorem step (h : p.Inv) (hmove : Move p p') : p'.Inv := by
  cases hmove with
  | @polls round res server hpoint hpoll =>
      have hunread : p.server.events.unread = [] := by
        apply h.drained
        intro left hcon
        cases hpoint.symm.trans hcon
      have hline := h.line
      rw [hpoint, hunread, List.append_nil] at hline
      refine ⟨?_, fun hcon => ?_, h.length, h.numbered, h.counted⟩
      · have hleft : (if res < 0 then Point.exit else if res > 0 then .events [] else .loop).left = [] := by
          split_ifs <;> rfl
        dsimp only
        rw [hleft, hunread, List.length_nil, List.drop_zero, ← hline]
        rfl
      · -- `poll` found nothing
        have hres : res ≤ 0 := by
          by_contra hpos
          refine hcon [] ?_
          dsimp only
          rw [if_neg (by omega), if_pos (by omega)]
        show server.events.unread = []
        rw [((serverPoll_ret hpoll).2 hres).1]
        exact hunread
  | reads hpoint =>
      have hline := h.line
      rw [hpoint] at hline
      refine ⟨?_, fun hcon => ?_, h.length, h.numbered, h.counted⟩
      · dsimp only
        rw [left_readPoint, ← hline, ← unread_eventsRead p.server.events]
        simp [Point.left]
      · dsimp only at hcon
        cases hr : (eventsRead p.server.events).1 with
        | none =>
            apply unread_eq_nil
            rw [bevents_eventsRead, eventsRead_eq_none.mp hr]
            rfl
        | some r =>
            rw [hr] at hcon
            exact absurd rfl (hcon _)
  | @handles event left r hpoint hr =>
      have hline := h.line
      rw [hpoint] at hline
      have hmessages : Process.messages
          { p with
            server := r.server
            pp := r.pp
            point := .events left
            handled := p.handled ++ [event]
            responses := p.responses ++ [r.response] } = p.messages ++ r.response.messages := by
        rw [Process.messages, List.flatMap_append, List.flatMap_singleton]
        rfl
      refine ⟨?_, fun hcon => absurd rfl (hcon left), ?_, ?_, ?_⟩
      · dsimp only
        rw [hr.quiet.events, ← hline]
        simp [Point.left]
      · dsimp only
        rw [List.length_append, List.length_append, h.length]
        rfl
      · rw [hmessages]
        refine h.numbered.append ?_
        rw [UInt32.zero_add, ← h.counted]
        exact hr.numbered
      · rw [hmessages]
        show r.pp = _
        rw [hr.counted, h.counted, List.length_append, UInt32.ofNat_add]

/-- **A step of the process is none of the service, a reply, or events that come in.** -/
theorem service_step (h : p.Inv) (hmove : Move p p') :
    Steps Response.Answers (fun _ => True) p.service p'.service := by
  cases hmove with
  | reads => exact .refl
  | @polls round res server =>
      have hrequests := Steps.requests Response.Answers (fun _ => True) p.service
        ((server.events.unread.drop p.server.events.unread.length).map (Prod.mk ()))
      convert hrequests using 1
      unfold Process.service
      dsimp only
      congr 1
      funext k
      rw [onChannel_map_mk]
  | @handles event left r hpoint hr =>
      have hline := h.line
      rw [hpoint] at hline
      have hevent : (p.service.requests ())[p.responses.length]? = some event := by
        show p.written[p.responses.length]? = some event
        rw [← hline, h.length]
        simp [Point.left]
      have hnew : p.responses.length ∉ p.service.answered () := by
        rw [p.answered_service]
        exact fun hmem => lt_irrefl _ (List.mem_range.mp hmem)
      have hnext : p.responses.length = (p.service.replies ()).length := List.length_mapIdx.symm
      refine Relation.ReflTransGen.single ?_
      have hreply : Step Response.Answers (fun _ => True) p.service _ :=
        .reply () hevent hr.answers hnew fun _ => hnext
      convert hreply using 1
      unfold Process.service Service.reply
      dsimp only
      congr 1
      funext k
      rw [Function.update_self, List.mapIdx_append]
      simp

end Process.Inv

/-! ## (6) A step goes through -/

/-- The steps of `main`, by the point it is at. -/
def Point.awaits : Point → Action → Bool
  | .loop, .serverPoll _ | .events [], .eventsRead | .events (_ :: _), .event _ _ => true
  | _, _ => false

/-- The steps that `main` may have to make at each of its points. -/
theorem awaits_eq_true {point : Point} {a : Action} (h : point.awaits a = true) :
    (point = .loop ∧ ∃ round, a = .serverPoll round) ∨ (point = .events [] ∧ a = .eventsRead) ∨
      ∃ event left sends send, point = .events (event :: left) ∧ a = .event sends send := by
  unfold Point.awaits at h
  split at h
  · exact Or.inl ⟨rfl, _, rfl⟩
  · exact Or.inr (Or.inl ⟨rfl, rfl⟩)
  · exact Or.inr (Or.inr ⟨_, _, _, _, rfl, rfl⟩)
  · cases h

/-- **A plain step** is the one `main` has to make. Handles and addresses are fresh, the calls behind an
accept succeed, and clients send no trailers. -/
def Process.Plain (p : Process) (a : Action) : Prop :=
  match a with
  | .serverPoll round =>
      p.point.awaits a = true ∧ Round.Fresh { round with events := p.server.events } p.written ∧
        Round.Plain { round with events := p.server.events } p.server
  | .eventsRead | .event _ _ => p.point.awaits a = true

instance (p : Process) : (a : Action) → Decidable (p.Plain a)
  | .serverPoll round => inferInstanceAs (Decidable (p.point.awaits (.serverPoll round) = true ∧
      Round.Fresh { round with events := p.server.events } p.written ∧
      Round.Plain { round with events := p.server.events } p.server))
  | .eventsRead => inferInstanceAs (Decidable (p.point.awaits .eventsRead = true))
  | .event sends send => inferInstanceAs (Decidable (p.point.awaits (.event sends send) = true))

/-- **The state of a process that goes on.** -/
structure Process.Sound (p : Process) : Prop where
  /-- The invariant of all runs, whatever the clients do. -/
  inv : p.Inv
  /-- The state of the server, under which its calls go through. -/
  server : ServerOk p.server p.written

/-- Both callbacks, those at the addresses 0 and 1, can be called. -/
theorem exists_callback {func : ℕ} (h : func ≤ 1) (pp : UInt32) :
    ∃ messages pp', callback func pp = some (messages, pp') := by
  obtain rfl | rfl : func = 0 ∨ func = 1 := by omega
  · exact ⟨_, _, rfl⟩
  · exact ⟨_, _, rfl⟩

/-- An event the server has written is handled. -/
theorem exists_handleEvent {server : Server} {written : List Event} (h : ServerOk server written)
    {event : Event} (hmem : event ∈ written) (pp : UInt32) (sends : List NgSend) (send : NgSend) :
    ∃ r, handleEvent server pp event sends send = some r ∧ ServerOk r.server written := by
  have hknown := h.written event hmem
  have huuid : ∃ e ∈ written, e.sessionUuid = event.sessionUuid := ⟨event, hmem, rfl⟩
  obtain ⟨sessionUuid, userdata, kind⟩ := event
  cases kind with
  | message messages streamId endStream =>
      obtain ⟨path, hpath⟩ := Option.isSome_iff_exists.mp (hknown rfl)
      have hpath : userdata.bind pathUserdata = some path := hpath
      obtain ⟨addr, -, haddr⟩ := Option.bind_eq_some_iff.mp hpath
      simp only [handleEvent, handleEventMessage, hpath, Option.bind_eq_bind, Option.bind_some]
      split
      · obtain ⟨r, hr, hok⟩ := h.exists_streamEnd huuid streamId grpcStatusInvalidArgument send
        rw [hr]
        exact ⟨_, rfl, hok⟩
      · obtain ⟨omessages, pp', hcallback⟩ := exists_callback (pathUserdata_callback_le haddr) pp
        have hne : ∀ m ∈ omessages, m.len ≠ 0 := by
          intro m hm hzero
          rw [(callback_eq_some hcallback).2.2 m hm] at hzero
          cases hzero
        obtain ⟨call, hcall, hok⟩ := h.exists_streamSend huuid streamId hne sends
        obtain ⟨call', hcall', hok'⟩ := hok.exists_streamEnd huuid streamId grpcStatusOk send
        have hle := sessionStreamSend_ret_le hcall
        obtain hret | hret | hret | hret : call.ret = 0 ∨ call.ret = 1 ∨ call.ret = 2 ∨ call.ret = 3 := by
          omega
        all_goals simp only [hcallback, hcall, hret, Option.bind_some]
        · cases endStream with
          | true =>
              simp only [hcall', if_true, Option.bind_some]
              exact ⟨_, rfl, hok'⟩
          | false => exact ⟨_, rfl, hok⟩
        all_goals exact ⟨_, rfl, hok⟩
  | dataloss streamId =>
      obtain ⟨r, hr, hok⟩ := h.exists_streamEnd huuid streamId grpcStatusDataLoss send
      refine ⟨⟨r.server, pp, pp, [.streamEnd sessionUuid streamId grpcStatusDataLoss]⟩, ?_, hok⟩
      simp only [handleEvent, handleEventDataloss, hr, Option.bind_eq_bind, Option.bind_some]
  | cancel _ | connect | disconnect => exact ⟨⟨server, pp, pp, []⟩, rfl, h⟩

/-- **A plain step goes through** and leaves the process sound. -/
theorem Process.Sound.exists_step {p : Process} (h : p.Sound) {a : Action} (hplain : p.Plain a) :
    ∃ p', step p a = some p' ∧ p'.Sound := by
  have hsound : ∀ p', step p a = some p' → ServerOk p'.server p'.written →
      ∃ p', step p a = some p' ∧ p'.Sound := fun p' hstep hok =>
    ⟨p', hstep, h.inv.step (step_move hstep), hok⟩
  have hawaits : p.point.awaits a = true := by
    cases a with
    | serverPoll => exact hplain.1
    | eventsRead | event => exact hplain
  obtain ⟨hpoint, round, rfl⟩ | ⟨hpoint, rfl⟩ | ⟨event, left, sends, send, hpoint, rfl⟩ :=
    awaits_eq_true hawaits
  · obtain ⟨-, hfresh, hplain⟩ := hplain
    obtain ⟨server, hpoll, hok⟩ := h.server.exists_serverPoll rfl hfresh hplain
    refine hsound
      { p with
        server := server
        written := p.written ++ server.events.unread.drop p.server.events.unread.length
        point := if round.ready < 0 then .exit else if round.ready > 0 then .events [] else .loop }
      ?_ hok
    rw [step, hpoint]
    dsimp only
    rw [hpoll]
    rfl
  · refine hsound
      { p with
        server := { p.server with events := (eventsRead p.server.events).2 }
        point := readPoint (eventsRead p.server.events).1 } ?_ h.server.eventsRead
    rw [step, hpoint]
  · have hmem : event ∈ p.written := by
      rw [← h.inv.line, hpoint]
      exact List.mem_append_left _ (List.mem_append_right _ List.mem_cons_self)
    obtain ⟨r, hr, hok⟩ := exists_handleEvent h.server hmem p.pp sends send
    refine hsound
      { p with
        server := r.server
        pp := r.pp
        point := .events left
        handled := p.handled ++ [event]
        responses := p.responses ++ [r.response] } ?_ hok
    rw [step, hpoint]
    dsimp only
    rw [hr]
    rfl

/-! ## (7) Runs -/

/-- The invariant holds when `main` enters its loop. -/
theorem start_inv (server : Server) : (start server).Inv := ⟨rfl, fun _ => rfl, rfl, rfl, rfl⟩

/-- **What the clients get** from the process in a state of it. -/
structure Process.Answered (p : Process) : Prop where
  /-- The process is a service with one ordered channel. -/
  service : Steps Response.Answers (fun _ => True) Service.start p.service
  /-- Each event handled has its response. -/
  inOrder : List.Forall₂ Response.Answers p.responses p.handled
  /-- All of them are handled before `main` polls again. -/
  prompt : (∀ left, p.point ≠ .events left) → p.handled = p.written
  /-- The messages sent are numbered from 0 on. -/
  numbered : Numbered 0 p.messages

/-- A server of `main` with room for 16 connections, listening on socket 3. -/
def server : Server := mainServer 3 (-1) 16 100 ⟨10, ten_mul_pathMaxLen_lt⟩

/-- A client connects and makes a streaming call, a unary call, one that is refused and one with bytes
that are no message. -/
def fourCalls : List Action :=
  [.serverPoll (clientRound 0 pollin 20 []), .eventsRead, .event [] ⟨[], 0⟩, .eventsRead,
    .serverPoll (clientRound 2 pollin 22 (clientRequest 1 16 streamingPath emptyMessage 1
      ++ clientRequest 3 17 unaryPath emptyMessage 1 ++ clientRequest 5 18 unaryPath emptyMessage 0
      ++ clientRequest 7 19 unaryPath [0, 0] 1)),
    .eventsRead, .event [] ⟨[], 0⟩, .event [] ⟨[], 0⟩, .event [] ⟨[], 0⟩, .event [] ⟨[], 0⟩, .eventsRead]

end SingleThreaded

open SingleThreaded

/-- **The server without threads answers every event at once**: whatever its clients send, it makes the
calls each event asks for, in the order the server wrote them, before it polls again. -/
theorem singleRun_answers {server : Server} {p : Process} (h : Reachable step (start server) p) :
    p.Answered := by
  have hboth : p.Inv ∧ Steps Response.Answers (fun _ => True) Service.start p.service := by
    apply h.invariant (I := fun p =>
      p.Inv ∧ Steps Response.Answers (fun _ => True) Service.start p.service)
    · exact ⟨start_inv server, .refl⟩
    · rintro p a p' ⟨hinv, hsteps⟩ hstep
      have hmove := step_move hstep
      exact ⟨hinv.step hmove, hsteps.trans (hinv.service_step hmove)⟩
  obtain ⟨hinv, hsteps⟩ := hboth
  refine ⟨hsteps, ?_, fun hpoint => ?_, hinv.numbered⟩
  · have hall := (Exact.start.steps hsteps).forall₂ (k := ()) trivial
    have hlen : (p.service.replies ()).length = p.handled.length := by
      rw [← hinv.length]
      exact List.length_mapIdx
    have hreplies : (p.service.replies ()).map Prod.snd = p.responses := by
      apply List.ext_getElem
      · simp [Process.service]
      · intro i _ _
        simp [Process.service]
    have hrequests : (p.service.requests ()).take p.handled.length = p.handled := by
      show p.written.take _ = _
      rw [← hinv.line, List.append_assoc, List.take_left]
    rw [hreplies, hlen, hrequests] at hall
    exact hall
  · have hleft : p.point.left = [] := by
      cases hp : p.point with
      | events left => exact absurd hp (hpoint left)
      | loop | exit => rfl
    have hline := hinv.line
    rw [hleft, hinv.drained hpoint, List.append_nil, List.append_nil] at hline
    exact hline

theorem singleRun_answers_four_calls :
    ∃ p, run step (start SingleThreaded.server) fourCalls = some p ∧
      p.responses.map (fun r => r.calls.length) = [0, 2, 2, 1, 1] ∧ p.messages.length = 4 ∧
      p.Answered := by
  have hvalue : (run step (start SingleThreaded.server) fourCalls).map
      (fun p => (p.responses.map fun r => r.calls.length, p.messages.length)) = some ([0, 2, 2, 1, 1], 4) := by
    decide +kernel
  obtain ⟨p, hrun, hview⟩ := Option.map_eq_some_iff.mp hvalue
  obtain ⟨hcalls, hmessages⟩ := Prod.mk.inj hview
  exact ⟨p, hrun, hcalls, hmessages, singleRun_answers ⟨fourCalls, hrun⟩⟩

/-- **It does not abort on plain steps.** They go through, with any clients that send no trailers, any
hang-ups and failures of `accept`, `recv` and `send`, as long as the calls that `session_create` asserts
to succeed do and sockets, handles and addresses are fresh; and at any time the loop of
`ezgrpc2_server_free` does. In the model `nghttp2_submit_headers` and allocations succeed. -/
theorem singleRun_completes (ipv4Sockfd ipv6Sockfd : ℤ) (maxConnections initialWindowSize : ℕ)
    (maxPaths : MaxPaths) {acts : List Action}
    (hplain : Along step Process.Plain
      (start (mainServer ipv4Sockfd ipv6Sockfd maxConnections initialWindowSize maxPaths)) acts) :
    ∃ p, run step
      (start (mainServer ipv4Sockfd ipv6Sockfd maxConnections initialWindowSize maxPaths)) acts
        = some p ∧ ServerState.Frees ⟨p.server, p.written⟩ := by
  have hstart : (start (mainServer ipv4Sockfd ipv6Sockfd maxConnections initialWindowSize
      maxPaths)).Sound :=
    ⟨start_inv _, mainServer_ok ipv4Sockfd ipv6Sockfd maxConnections initialWindowSize maxPaths⟩
  obtain ⟨p, hrun, h⟩ := hplain.exists_run (I := Process.Sound)
    (fun _ _ _ hsound hplain => hsound.exists_step hplain) hstart
  exact ⟨p, hrun, Server.Sound.frees h.server.sound h.server.table⟩

theorem singleRun_completes_four_calls :
    ∃ p, run step (start SingleThreaded.server) fourCalls = some p ∧
      ServerState.Frees ⟨p.server, p.written⟩ :=
  singleRun_completes 3 (-1) 16 100 ⟨10, ten_mul_pathMaxLen_lt⟩ (by decide +kernel)

end Ezgrpc2
