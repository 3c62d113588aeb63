import Ezgrpc2.NonInterference

/-! # The path of a stream

`on_header_callback` stores the address of a slot of the path table in the stream, and
`on_frame_recv_data` follows it at each DATA frame. `pathOf_callback` says what a callback makes of
the slots that the streams of a session point to, and `unread_callback` which events it writes. `hubAct`
interleaves the callbacks of all sessions with calls on the path table. -/

namespace Ezgrpc2

open CStrings StepRuns

/-! ## (1) The slot a stream points to -/

/-- The macro compares a header name with a literal. -/
theorem ezstrcmp_literal {literal name : Bytes} (h : text literal = literal) :
    (!ezstrcmp literal name) = true ↔ name = literal := by
  rw [Bool.not_eq_true', ezstrcmp_eq_false, h]
  exact eq_comm

/-- What a header field does to the slot of its stream. -/
theorem Stream.path_applyHeader (s : Stream) (table : PathTable) (name value : Bytes) :
    (s.applyHeader table name value).path
      = if name = bytesOf ":path" then (findPath table value).or s.path else s.path := by
  have hmethod : text (bytesOf ":method") = bytesOf ":method" := by decide
  have hscheme : text (bytesOf ":scheme") = bytesOf ":scheme" := by decide
  have hpath : text (bytesOf ":path") = bytesOf ":path" := by decide
  unfold Stream.applyHeader
  by_cases hname : name = bytesOf ":path"
  · -- `:path` is neither of the names tested before it
    have hne : ∀ literal, text literal = literal → literal ≠ bytesOf ":path" →
        ¬(!ezstrcmp literal name) = true := by
      intro literal hliteral hne heq
      exact hne (((ezstrcmp_literal hliteral).mp heq).symm.trans hname)
    rw [if_neg (hne _ hmethod (by decide)), if_neg (hne _ hscheme (by decide)),
      if_pos ((ezstrcmp_literal hpath).mpr hname), if_pos hname]
    cases findPath table value with
    | none => rfl
    | some i => rfl
  · rw [if_neg hname]
    repeat' split
    all_goals first
      | rfl
      | exact absurd ((ezstrcmp_literal hpath).mp ‹_›) hname

/-- **The slot a stream points to**: none before its path was resolved, and for a stream that is not
open. -/
def Session.pathOf (ez : Session) (streamId : ℤ) : Option ℕ :=
  ((ez.userData streamId).bind ez.objs).bind Stream.path

/-- **What an action leaves of what its stream is bound to**: `:path` binds the stream to what `resolve`
finds for it, and the start of a HEADERS frame and the end of the stream unbind it. -/
def ClientAction.pathAfter {α : Type} (resolve : Bytes → Option α) (ret : ℕ) (bound : Option α) :
    ClientAction → Option α
  | .beginHeaders _ _ _ | .streamClose _ => none
  | .header frame name value =>
      if ret = 0 ∧ frame.type = .headers ∧ name = bytesOf ":path" then (resolve value).or bound
      else bound
  | .frameRecv _ | .dataChunk _ _ => bound

section Callback

variable {server : ServerShared} {ez ez' : Session} {r : CallbackResult} {a : ClientAction}
  {streamId : ℤ} {ptr : ℕ} {s : Stream}

theorem Session.pathOf_eq (hptr : ez.userData streamId = some ptr) (hobj : ez.objs ptr = some s) :
    ez.pathOf streamId = s.path := by
  rw [Session.pathOf, hptr, Option.bind_some, hobj, Option.bind_some]

/-- A stream with a slot has an object. -/
theorem Session.pathOf_eq_some {slot : ℕ} (h : ez.pathOf streamId = some slot) :
    ∃ ptr s, ez.userData streamId = some ptr ∧ ez.objs ptr = some s ∧ s.path = some slot := by
  obtain ⟨s, hs, hpath⟩ := Option.bind_eq_some_iff.mp h
  obtain ⟨ptr, hptr, hobj⟩ := Option.bind_eq_some_iff.mp hs
  exact ⟨ptr, s, hptr, hobj, hpath⟩

/-- The slot is that of the object the user data points to. -/
theorem Session.pathOf_congr (huser : ez'.userData streamId = ez.userData streamId)
    (hobj : ∀ ptr, ez.userData streamId = some ptr → ez'.objs ptr = ez.objs ptr) :
    ez'.pathOf streamId = ez.pathOf streamId := by
  rw [Session.pathOf, Session.pathOf, huser]
  cases hptr : ez.userData streamId with
  | none => rfl
  | some ptr => rw [Option.bind_some, Option.bind_some, hobj ptr hptr]

/-- Storing an object with the slot of the old one. -/
theorem Session.pathOf_setObj_same {s' : Stream} (hobj : ez.objs ptr = some s)
    (hpath : s'.path = s.path) : (ez.setObj ptr (some s')).pathOf streamId = ez.pathOf streamId := by
  rw [Session.pathOf, Session.pathOf, Session.setObj_userData]
  cases hptr : ez.userData streamId with
  | none => rfl
  | some p =>
      rw [Option.bind_some, Option.bind_some]
      by_cases hp : p = ptr
      · rw [hp, Session.setObj_objs_self, hobj, Option.bind_some, Option.bind_some, hpath]
      · rw [Session.setObj_objs_of_ne _ hp]

/-- The start of a HEADERS frame leaves no slot, whether the stream was open or not. -/
theorem pathOf_beginHeaders (server : ServerShared) (hok : ez.UserDataOk) (mem : ℕ → UInt8)
    (hfree : ez.objs ptr = none) (id : ℤ) :
    (beginHeaders server ez streamId ptr mem).session.pathOf id
      = if id = streamId then none else ez.pathOf id := by
  by_cases hid : id = streamId
  · have hptr : (beginHeaders server ez streamId ptr mem).session.userData id = some ptr := by
      rw [userData_beginHeaders, if_pos hid]
    have hobj : (beginHeaders server ez streamId ptr mem).session.objs ptr
        = some (streamBegun streamId mem) := by
      rw [objs_beginHeaders, if_pos rfl]
    rw [if_pos hid, Session.pathOf_eq hptr hobj]
    rfl
  · rw [if_neg hid]
    have hkeeps : ez.Keeps (beginHeaders server ez streamId ptr mem).session id :=
      keeps_beginHeaders hok mem hfree hid
    exact Session.pathOf_congr (userData_of_streams hkeeps.streams) hkeeps.obj

/-- A close keeps the user data in order. -/
theorem userDataOk_streamClose (hok : ez.UserDataOk) (hr : streamClose server ez streamId = some r) :
    r.session.UserDataOk := by
  obtain ⟨p, l, hp, rfl⟩ := streamClose_eq_some hr
  intro id q hq
  rw [Session.userData_closeStream rfl] at hq
  split at hq
  · cases hq
  · next hid =>
      obtain ⟨s, hs, hsid⟩ := hok id q hq
      -- the object freed was begun for the stream that is closed
      exact ⟨s, (Session.setObj_objs_of_ne none (hok.ne hq hp hid)).trans hs, hsid⟩

/-- Closing a stream leaves the slots of the other streams. -/
theorem pathOf_streamClose (hok : ez.UserDataOk) (hr : streamClose server ez streamId = some r)
    (id : ℤ) : r.session.pathOf id = if id = streamId then none else ez.pathOf id := by
  obtain ⟨p, l, hp, rfl⟩ := streamClose_eq_some hr
  by_cases hid : id = streamId
  · rw [if_pos hid, Session.pathOf, Session.userData_closeStream rfl, if_pos hid]
    rfl
  · rw [if_neg hid]
    apply Session.pathOf_congr
    · rw [Session.userData_closeStream rfl, if_neg hid]
    · intro q hq
      exact Session.setObj_objs_of_ne none (hok.ne hq hp hid)

/-! ## (2) What a callback writes and where it leaves the slots -/

/-- **The events of a DATA frame** on a session: those of its stream, with what is in the slot of the
stream at that time as userdata. -/
def Session.frameEvents (ez : Session) (table : PathTable) (frame : FrameHd) : List Event :=
  match (ez.userData frame.streamId).bind ez.objs with
  | none => []
  | some s =>
      match s.path with
      | none => []
      | some slot =>
          (s.frameEvents frame.streamId frame.endStream).map fun kind =>
            ⟨ez.sessionUuid, some (table.userdataAt slot), kind⟩

/-- The events of an action: only DATA frames have any. -/
def ClientAction.events (table : PathTable) (ez : Session) : ClientAction → List Event
  | .frameRecv frame => if frame.type = .data then ez.frameEvents table frame else []
  | .beginHeaders _ _ _ | .header _ _ _ | .dataChunk _ _ | .streamClose _ => []

/-- The events of a stream with a slot. -/
theorem Session.frameEvents_eq {table : PathTable} {frame : FrameHd} {slot : ℕ}
    (hptr : ez.userData frame.streamId = some ptr) (hobj : ez.objs ptr = some s)
    (hpath : s.path = some slot) :
    ez.frameEvents table frame = (s.frameEvents frame.streamId frame.endStream).map fun kind =>
      ⟨ez.sessionUuid, some (table.userdataAt slot), kind⟩ := by
  simp only [Session.frameEvents, hptr, Option.bind_some, hobj, hpath]

/-- A stream without a slot has none. -/
theorem Session.frameEvents_of_none {table : PathTable} {frame : FrameHd}
    (h : ez.pathOf frame.streamId = none) : ez.frameEvents table frame = [] := by
  rw [Session.pathOf] at h
  rw [Session.frameEvents]
  cases hs : (ez.userData frame.streamId).bind ez.objs with
  | none => rfl
  | some s =>
      rw [hs, Option.bind_some] at h
      simp only [h]

/-- **Where an event comes from**: a DATA frame of a stream that points to a slot. -/
theorem of_mem_events {table : PathTable} (hok : ez.UserDataOk) {e : Event}
    (he : e ∈ a.events table ez) :
    ∃ frame slot s kind, a = .frameRecv frame ∧ frame.type = .data ∧
      ez.pathOf frame.streamId = some slot ∧ s.streamId = frame.streamId ∧
      kind ∈ Stream.frameEvents s frame.streamId frame.endStream ∧
      e = ⟨ez.sessionUuid, some (table.userdataAt slot), kind⟩ := by
  cases a with
  | beginHeaders _ _ _ | header _ _ _ | dataChunk _ _ | streamClose _ => cases he
  | frameRecv frame =>
      rw [ClientAction.events] at he
      split at he
      · next htype =>
          cases hpath : ez.pathOf frame.streamId with
          | none =>
              rw [Session.frameEvents_of_none hpath] at he
              cases he
          | some slot =>
              obtain ⟨ptr, s, hptr, hobj, hslot⟩ := Session.pathOf_eq_some hpath
              rw [Session.frameEvents_eq hptr hobj hslot] at he
              obtain ⟨kind, hkind, rfl⟩ := List.mem_map.mp he
              obtain ⟨s', hs', hid⟩ := hok _ ptr hptr
              obtain rfl := Option.some.inj (hobj.symm.trans hs')
              exact ⟨frame, slot, s, kind, rfl, htype, hpath, hid, hkind, rfl⟩
      · cases he

/-- **A callback writes the events of its action** behind the ones before. -/
theorem unread_callback (h : a.callback server ez = some r) :
    r.events.unread = server.events.unread ++ a.events server.table ez := by
  cases ClientAction.effect h with
  | begins | skipsHeader | refusesHeader | storesHeader | skipsChunk | refusesChunk | storesChunk
  | closes => exact (List.append_nil _).symm
  | @answers frame subs hdata =>
      rw [ClientAction.events]
      split
      · next htype =>
          rw [Session.frameEvents_of_none (hdata htype)]
          exact (List.append_nil _).symm
      · exact (List.append_nil _).symm
  | parses htype hptr hobj hpath =>
      rw [ClientAction.events, if_pos htype, Session.frameEvents_eq hptr hobj hpath]
      exact unread_eventsWriteAll _ _

/-- **`ez'` sends what `ez` does**: frames were submitted, and an object that is stored was there before,
with the same queue. -/
structure Session.SendsSame (ez ez' : Session) : Prop where
  /-- The session of nghttp2 has frames submitted, and nothing else is new. -/
  ngsession : ∃ subs,
    ez'.ngsession = { ez.ngsession with submitted := ez.ngsession.submitted ++ subs }
  /-- An object in memory was there before, with the same queue. -/
  queue : ∀ p s', ez'.objs p = some s' →
    ∃ s, ez.objs p = some s ∧ s'.lqueueOmessages = s.lqueueOmessages

theorem Session.SendsSame.refl (ez : Session) : ez.SendsSame ez where
  ngsession := ⟨[], by rw [List.append_nil]⟩
  queue _ s' hs' := ⟨s', hs', rfl⟩

theorem Session.SendsSame.submitAll (ez : Session) (subs : List Submission) :
    ez.SendsSame (ez.submitAll subs) := by
  rw [Session.submitAll_eq]
  exact ⟨⟨subs, rfl⟩, fun p s' hs' => ⟨s', hs', rfl⟩⟩

theorem Session.SendsSame.setObj (hobj : ez.objs ptr = some s) {s' : Stream}
    (hqueue : s'.lqueueOmessages = s.lqueueOmessages) : ez.SendsSame (ez.setObj ptr (some s')) where
  ngsession := ⟨[], by rw [List.append_nil]; rfl⟩
  queue p t ht := by
    rw [Session.setObj_objs] at ht
    split at ht
    · next hp =>
        obtain rfl := Option.some.inj ht
        exact ⟨s, hp ▸ hobj, hqueue⟩
    · exact ⟨t, ht, rfl⟩

/-- **The callbacks between the start and the end of a stream** submit frames and store what they
received. -/
theorem sendsSame_callback (ha : a.Continues) (h : a.callback server ez = some r) :
    ez.SendsSame r.session := by
  cases ClientAction.effect h with
  | begins | closes => exact ha.elim
  | skipsHeader | refusesHeader | skipsChunk => exact .refl ez
  | answers subs => exact .submitAll ez subs
  | refusesChunk => exact .submitAll ez _
  | storesHeader _ _ hobj =>
      obtain ⟨-, -, -, -, hqueue⟩ := Stream.applyHeader_frame _ _ _ _
      exact .setObj hobj hqueue
  | @parses _ _ _ s _ _ hobj =>
      obtain ⟨_, _, hs⟩ := s.afterFrame_eq
      exact .setObj hobj (by rw [hs])
  | storesChunk _ hobj => exact .setObj hobj rfl

/-- Submitting frames leaves the slots as they are. -/
theorem Session.pathOf_submitAll (subs : List Submission) (id : ℤ) :
    (ez.submitAll subs).pathOf id = ez.pathOf id := by
  rw [Session.submitAll_eq]
  rfl

/-- A header field that is stored, and the slots. -/
theorem pathOf_storeHeader (hok : ez.UserDataOk) {streamId : ℤ} (hptr : ez.userData streamId = some ptr)
    (hobj : ez.objs ptr = some s) (table : PathTable) (name value : Bytes) (id : ℤ) :
    (ez.setObj ptr (some ((s.pushHeader name value).applyHeader table name value))).pathOf id
      = if id = streamId ∧ name = bytesOf ":path" then (findPath table value).or (ez.pathOf id)
        else ez.pathOf id := by
  by_cases hid : id = streamId
  · subst hid
    have hstored := ez.setObj_objs_self ptr
      (some ((s.pushHeader name value).applyHeader table name value))
    rw [Session.pathOf_eq ((Session.setObj_userData ez ptr _ _).trans hptr) hstored,
      (s.pushHeader name value).path_applyHeader table name value, Session.pathOf_eq hptr hobj]
    by_cases hname : name = bytesOf ":path"
    · rw [if_pos hname, if_pos ⟨rfl, hname⟩]
      rfl
    · rw [if_neg hname, if_neg (fun hcon => hname hcon.2)]
      rfl
  · -- another stream has another object
    rw [if_neg (fun hcon => hid hcon.1)]
    refine Session.pathOf_congr (Session.setObj_userData ez ptr _ id) fun p hp => ?_
    exact Session.setObj_objs_of_ne _ (hok.ne hp hptr hid)

/-- **Where a callback leaves the slots**: the stream of the action by `pathAfter`, the others as they
are. -/
theorem pathOf_callback (hok : ez.UserDataOk) (hlegal : a.Legal ⟨server, ez, [], []⟩)
    (h : a.callback server ez = some r) (id : ℤ) :
    r.session.pathOf id
      = if id = a.streamId then a.pathAfter (findPath server.table) r.ret (ez.pathOf id)
        else ez.pathOf id := by
  have hsame : (if id = a.streamId then ez.pathOf id else ez.pathOf id) = ez.pathOf id := ite_self _
  cases ClientAction.effect h with
  | begins streamId ptr mem => exact pathOf_beginHeaders server hok mem hlegal id
  | closes => exact pathOf_streamClose hok h id
  | @skipsHeader frame name value htype =>
      have hkept : ¬(0 = 0 ∧ frame.type = .headers ∧ name = bytesOf ":path") :=
        fun hcon => htype hcon.2.1
      rw [ClientAction.pathAfter, if_neg hkept, hsame]
  | @refusesHeader frame name value =>
      -- a field that is refused is not looked at
      have hkept : ¬(1 = 0 ∧ frame.type = .headers ∧ name = bytesOf ":path") :=
        fun hcon => Nat.one_ne_zero hcon.1
      rw [ClientAction.pathAfter, if_neg hkept, hsame]
  | @storesHeader frame name value ptr s htype hptr hobj =>
      rw [pathOf_storeHeader hok hptr hobj, ClientAction.pathAfter, ClientAction.streamId]
      -- `:path` is the one field that is looked up in the table
      by_cases hname : name = bytesOf ":path"
      · simp only [htype, hname, and_self, and_true, if_true]
      · have hkept : ¬(0 = 0 ∧ frame.type = .headers ∧ name = bytesOf ":path") :=
          fun hcon => hname hcon.2.2
        rw [if_neg (fun hcon => hname hcon.2), if_neg hkept, ite_self]
  | answers subs => rw [ClientAction.pathAfter, hsame, Session.pathOf_submitAll]
  | refusesChunk => rw [ClientAction.pathAfter, hsame, Session.pathOf_submitAll]
  | skipsChunk => rw [ClientAction.pathAfter, hsame]
  | parses _ _ hobj =>
      rw [ClientAction.pathAfter, hsame]
      exact Session.pathOf_setObj_same hobj (Stream.path_afterFrame _)
  | storesChunk _ hobj =>
      rw [ClientAction.pathAfter, hsame]
      exact Session.pathOf_setObj_same hobj rfl

/-- A callback keeps the user data in order and the handle of the session. -/
theorem userDataOk_callback (hok : ez.UserDataOk) (hlegal : a.Legal ⟨server, ez, [], []⟩)
    (h : a.callback server ez = some r) :
    r.session.UserDataOk ∧ r.session.sessionUuid = ez.sessionUuid := by
  cases hclose : a.isClose with
  | false =>
      obtain ⟨huuid, hok', -, -⟩ := Hub.callback_spec hok hclose hlegal h
      exact ⟨hok', huuid⟩
  | true =>
      cases a with
      | streamClose streamId =>
          refine ⟨userDataOk_streamClose hok h, ?_⟩
          obtain ⟨p, l, -, rfl⟩ := streamClose_eq_some h
          rfl
      | beginHeaders _ _ _ | header _ _ _ | frameRecv _ | dataChunk _ _ => cases hclose

end Callback

/-! ## (3) Runs of all sessions -/

/-- What happens to the sessions of a server. -/
inductive HubAction where
  /-- A callback of the session `i`. -/
  | client (i : ℕ) (a : ClientAction)
  /-- A call on the path table. -/
  | pathCall (call : PathCall)

/-- One action; a callback is made on nghttp2's terms, and `none` is an abort of the server too. The
terms are loose for a stream that the server is resetting: nghttp2 reports no frame of it any more, but
here the callbacks may still be made. What holds of every run of these actions holds of the runs of
nghttp2 among them; `hubReport` has those only. -/
def hubAct (hub : Hub) : HubAction → Option Hub
  | .client i a =>
      if a.Legal ⟨hub.server, hub.sessions i, [], []⟩ then
        (a.callback hub.server (hub.sessions i)).map (hub.after i)
      else none
  | .pathCall call =>
      some { hub with server := { hub.server with table := (hub.server.table.call call).2 } }

/-- The sessions of a new server, with their handles and sockets. -/
def hubNewSessions (server : ServerShared) (handles : ℕ → SessionUuid) (sockfds : ℕ → ℤ) : Hub where
  server := server
  sessions := fun i => sessionNew (handles i) (sockfds i)

/-- **A callback in a run**: the session `i` is as the callback leaves it, the others are as before. -/
theorem hubAct_client {hub hub' : Hub} {i : ℕ} {a : ClientAction}
    (h : hubAct hub (.client i a) = some hub') :
    a.Legal ⟨hub.server, hub.sessions i, [], []⟩ ∧
      ∃ r, a.callback hub.server (hub.sessions i) = some r ∧ hub' = hub.after i r := by
  rw [hubAct] at h
  split at h
  · next hlegal =>
      obtain ⟨r, hr, rfl⟩ := Option.map_eq_some_iff.mp h
      exact ⟨hlegal, r, hr, rfl⟩
  · cases h

/-- Every action keeps the user data of all sessions in order, and their handles. -/
theorem hubAct_userDataOk {hub hub' : Hub} {act : HubAction}
    (hok : ∀ i, (hub.sessions i).UserDataOk) (h : hubAct hub act = some hub') (j : ℕ) :
    (hub'.sessions j).UserDataOk ∧ (hub'.sessions j).sessionUuid = (hub.sessions j).sessionUuid := by
  cases act with
  | client i a =>
      obtain ⟨hlegal, r, hr, rfl⟩ := hubAct_client h
      by_cases hj : j = i
      · rw [hj, Hub.sessions_after_self]
        exact userDataOk_callback (hok i) hlegal hr
      · rw [Hub.sessions_after_of_ne r hj]
        exact ⟨hok j, rfl⟩
  | pathCall call =>
      cases h
      exact ⟨hok j, rfl⟩

/-- **Where an action leaves the slots**: a callback that of its own stream, by `pathAfter`, and a call
on the path table all of them. -/
theorem hubAct_pathOf {hub hub' : Hub} {i : ℕ} {a : ClientAction} {r : CallbackResult}
    (hok : ∀ i, (hub.sessions i).UserDataOk) (h : hubAct hub (.client i a) = some hub')
    (hr : a.callback hub.server (hub.sessions i) = some r) (j : ℕ) (id : ℤ) :
    (hub'.sessions j).pathOf id
      = if j = i ∧ id = a.streamId then
          a.pathAfter (findPath hub.server.table) r.ret ((hub.sessions j).pathOf id)
        else (hub.sessions j).pathOf id := by
  obtain ⟨hlegal, r', hr', rfl⟩ := hubAct_client h
  obtain rfl := Option.some.inj (hr.symm.trans hr')
  by_cases hj : j = i
  · subst hj
    rw [Hub.sessions_after_self, pathOf_callback (hok j) hlegal hr]
    by_cases hid : id = a.streamId
    · rw [if_pos hid, if_pos ⟨rfl, hid⟩]
    · rw [if_neg hid, if_neg (fun hcon => hid hcon.2)]
  · rw [Hub.sessions_after_of_ne r hj, if_neg (fun hcon => hj hcon.1)]

/-- A request of the first session, on stream 1. -/
def requestOf (value : Bytes) : List HubAction :=
  [.beginHeaders 1 16 fun _ => 0, .header ⟨1, .headers, 4, 0⟩ (bytesOf ":method") (bytesOf "POST"),
    .header ⟨1, .headers, 4, 0⟩ (bytesOf ":scheme") (bytesOf "http"),
    .header ⟨1, .headers, 4, 0⟩ (bytesOf ":path") value,
    .header ⟨1, .headers, 4, 0⟩ (bytesOf "te") (bytesOf "trailers"),
    .header ⟨1, .headers, 4, 0⟩ (bytesOf "content-type") (bytesOf "application/grpc"),
    .frameRecv ⟨1, .headers, 4, 0⟩].map (HubAction.client 0)

end Ezgrpc2
