import Ezgrpc2.StreamRegistry
import Mathlib.Logic.Function.Basic

/-! # Streams do not interfere

All sessions of a server share its path table and its event queue, and all streams of a session
share the list of streams and the memory of the objects. `clientCallback_local` says that a callback
sees of this only the object of its own stream and changes nothing else; so the events of one stream,
in any interleaving of the callbacks of all, are those of its callbacks alone
(`hubRun_noninterference`). -/

namespace Ezgrpc2

open StepRuns

/-! ## (1) What a callback sees and does -/

/-- The stream that an action is about. -/
def ClientAction.streamId : ClientAction → ℤ
  | .beginHeaders streamId _ _ | .dataChunk streamId _ | .streamClose streamId => streamId
  | .header frame _ _ | .frameRecv frame => frame.streamId

/-- **What a callback for a stream sees** of the server and the session. -/
structure StreamView where
  /-- The path table of the server. -/
  table : PathTable
  /-- The limit of the receive buffer. -/
  initialWindowSize : ℕ
  /-- The handle of the session that the stream belongs to. -/
  sessionUuid : SessionUuid
  /-- The user data of the stream. -/
  userData : Option ℕ
  /-- The object that the user data points to. -/
  obj : Option Stream

/-- The view of a stream: all that its callbacks read. -/
def streamView (server : ServerShared) (ez : Session) (streamId : ℤ) : StreamView where
  table := server.table
  initialWindowSize := server.initialWindowSize
  sessionUuid := ez.sessionUuid
  userData := ez.userData streamId
  obj := (ez.userData streamId).bind ez.objs

/-- What a callback does: the value it returns, the events it writes and the object it stores. -/
structure Outcome where
  /-- The value that the callback returns. -/
  ret : ℕ
  /-- The events that the callback writes. -/
  events : List Event
  /-- The address and the new state of the object. -/
  obj : Option (ℕ × Stream)

/-- An object is stored, if there is one. -/
def Session.put (ez : Session) : Option (ℕ × Stream) → Session
  | some (ptr, s) => ez.setObj ptr (some s)
  | none => ez

/-- A callback has an outcome: it returns, writes and stores what the outcome says, and nothing
else. -/
structure Outcome.Of (out : Outcome) (server : ServerShared) (ez : Session) (r : CallbackResult) :
    Prop where
  /-- The value returned is that of the outcome. -/
  ret : r.ret = out.ret
  /-- The events are behind those of before. -/
  unread : r.events.unread = server.events.unread ++ out.events
  /-- The session has the handle it had. -/
  sessionUuid : r.session.sessionUuid = ez.sessionUuid
  /-- So do the open streams and their user data. -/
  streams : r.session.ngsession.streams = ez.ngsession.streams
  /-- The objects are as before, but for the one that is stored. -/
  objs : r.session.objs = (ez.put out.obj).objs

/-- **An outcome is within a stream**: its events belong to it, and it stores the object the user
data points to. -/
structure Outcome.Within (out : Outcome) (v : StreamView) (streamId : ℤ) : Prop where
  /-- The events are those of the stream. -/
  events : ∀ e ∈ out.events, e.BelongsTo v.sessionUuid streamId
  /-- The object stored is that of the stream. -/
  obj : ∀ ptr s, out.obj = some (ptr, s) → v.userData = some ptr ∧ s.streamId = streamId

theorem Outcome.Within.quiet (ret : ℕ) (v : StreamView) (streamId : ℤ) :
    (Outcome.mk ret [] none).Within v streamId where
  events _ he := nomatch he
  obj _ _ hobj := nomatch hobj

/-- Storing the object of the stream is within the stream. -/
theorem Outcome.Within.store (ret : ℕ) {v : StreamView} {streamId : ℤ} {ptr : ℕ} {s : Stream}
    (hptr : v.userData = some ptr) (hid : s.streamId = streamId) :
    (Outcome.mk ret [] (some (ptr, s))).Within v streamId where
  events _ he := nomatch he
  obj p t hpt := by
    cases hpt
    exact ⟨hptr, hid⟩

/-- A callback that writes no event and stores no object. -/
theorem Outcome.Of.quiet {server : ServerShared} {ez : Session} {r : CallbackResult} {ret : ℕ}
    (hret : r.ret = ret) (hevents : r.events = server.events)
    (huuid : r.session.sessionUuid = ez.sessionUuid)
    (hstreams : r.session.ngsession.streams = ez.ngsession.streams)
    (hobjs : r.session.objs = ez.objs) : (Outcome.mk ret [] none).Of server ez r where
  ret := hret
  unread := by rw [hevents, List.append_nil]
  sessionUuid := huuid
  streams := hstreams
  objs := hobjs

/-- A callback that only submits frames has an outcome without events and objects. -/
theorem Outcome.Of.answers (server : ServerShared) (ez : Session) (subs : List Submission) :
    (Outcome.mk 0 [] none).Of server ez ⟨0, server.events, ez.submitAll subs⟩ := by
  rw [Session.submitAll_eq]
  exact .quiet rfl rfl rfl rfl rfl

/-- **A callback is local** where it was made: it has an outcome within its stream, and the same one
wherever its stream looks the same. -/
def LocalAt (callback : ServerShared → Session → Option CallbackResult) (server : ServerShared)
    (ez : Session) (streamId : ℤ) (r : CallbackResult) : Prop :=
  ∃ out : Outcome, out.Of server ez r ∧ out.Within (streamView server ez streamId) streamId ∧
    ∀ server' ez', streamView server' ez' streamId = streamView server ez streamId →
      ∃ r', callback server' ez' = some r' ∧ out.Of server' ez' r'

/-- It is enough to know the outcome for all that looks the same. -/
theorem LocalAt.intro {callback : ServerShared → Session → Option CallbackResult}
    {server : ServerShared} {ez : Session} {streamId : ℤ} {r : CallbackResult} (out : Outcome)
    (h : callback server ez = some r) (hwithin : out.Within (streamView server ez streamId) streamId)
    (hall : ∀ server' ez', streamView server' ez' streamId = streamView server ez streamId →
      ∃ r', callback server' ez' = some r' ∧ out.Of server' ez' r') :
    LocalAt callback server ez streamId r := by
  obtain ⟨r', hr', hof⟩ := hall server ez rfl
  rw [h, Option.some.injEq] at hr'
  exact ⟨out, hr' ▸ hof, hwithin, hall⟩

section Local

variable {server server' : ServerShared} {ez ez' : Session} {streamId : ℤ} {ptr : ℕ} {s : Stream}
  {r : CallbackResult}

/-- Equal views are equal in each of their parts. -/
theorem streamView_eq (h : streamView server' ez' streamId = streamView server ez streamId) :
    server'.table = server.table ∧ server'.initialWindowSize = server.initialWindowSize ∧
      ez'.sessionUuid = ez.sessionUuid ∧ ez'.userData streamId = ez.userData streamId ∧
      (ez'.userData streamId).bind ez'.objs = (ez.userData streamId).bind ez.objs := by
  rw [streamView, streamView, StreamView.mk.injEq] at h
  exact h

/-- The same view of a stream with an object. -/
theorem streamView_eq_of_obj (hptr : ez.userData streamId = some ptr)
    (hobj : ez.objs ptr = some s)
    (h : streamView server' ez' streamId = streamView server ez streamId) :
    server'.table = server.table ∧ server'.initialWindowSize = server.initialWindowSize ∧
      ez'.sessionUuid = ez.sessionUuid ∧ ez'.userData streamId = some ptr ∧
      ez'.objs ptr = some s := by
  obtain ⟨htable, hwindow, huuid, huser, hbind⟩ := streamView_eq h
  rw [hptr] at huser
  rw [huser, hptr, Option.bind_some, Option.bind_some, hobj] at hbind
  exact ⟨htable, hwindow, huuid, huser, hbind⟩

theorem onHeaderCallback_local {frame : FrameHd} {name value : Bytes}
    (hid : ∀ ptr s, ez.userData frame.streamId = some ptr → ez.objs ptr = some s →
      s.streamId = frame.streamId)
    (h : onHeaderCallback server ez frame name value = some r) :
    LocalAt (fun server ez => onHeaderCallback server ez frame name value) server ez
      frame.streamId r := by
  by_cases htype : frame.type = .headers
  · obtain ⟨ptr, s, hptr, hobj⟩ := onHeaderCallback_obj htype h
    by_cases hmax : s.nbHeaders + 1 > configStreamMaxHeaders
    · refine .intro ⟨1, [], none⟩ h (.quiet _ _ _) fun server' ez' hview => ?_
      obtain ⟨-, -, -, hptr', hobj'⟩ := streamView_eq_of_obj hptr hobj hview
      refine ⟨_, onHeaderCallback_eq htype hptr' hobj' name value, ?_⟩
      rw [if_pos hmax]
      exact .quiet rfl rfl rfl rfl rfl
    · refine .intro
        ⟨0, [], some (ptr, (s.pushHeader name value).applyHeader server.table name value)⟩ h
        (.store 0 hptr ?_) fun server' ez' hview => ?_
      · rw [Stream.streamId_applyHeader]
        exact hid ptr s hptr hobj
      · obtain ⟨htable, -, -, hptr', hobj'⟩ := streamView_eq_of_obj hptr hobj hview
        refine ⟨_, onHeaderCallback_eq htype hptr' hobj' name value, ?_⟩
        rw [if_neg hmax, htable]
        exact ⟨rfl, (List.append_nil _).symm, rfl, rfl, rfl⟩
  · exact .intro ⟨0, [], none⟩ h (.quiet _ _ _) fun server' ez' _ =>
      ⟨_, if_pos htype, .quiet rfl rfl rfl rfl rfl⟩

theorem onFrameRecvHeaders_local {frame : FrameHd}
    (h : onFrameRecvHeaders server ez frame = some r) :
    LocalAt (fun server ez => onFrameRecvHeaders server ez frame) server ez frame.streamId r := by
  obtain ⟨ptr, s, hptr, hobj⟩ := onFrameRecvHeaders_obj h
  -- whatever the headers were, only frames are submitted
  refine .intro ⟨0, [], none⟩ h (.quiet _ _ _) fun server' ez' hview => ?_
  obtain ⟨-, -, -, hptr', hobj'⟩ := streamView_eq_of_obj hptr hobj hview
  obtain ⟨subs, heq⟩ := @onFrameRecvHeaders_eq server' ez' ptr s frame hptr' hobj'
  exact ⟨_, heq, .answers server' ez' subs⟩

theorem onFrameRecvSettings_quiet (server : ServerShared) (ez : Session) (frame : FrameHd) :
    (Outcome.mk 0 [] none).Of server ez (onFrameRecvSettings server ez frame) := by
  obtain ⟨subs, heq⟩ := onFrameRecvSettings_eq server ez frame
  rw [heq]
  exact .answers server ez subs

theorem onFrameRecvData_local {frame : FrameHd}
    (hid : ∀ ptr s, ez.userData frame.streamId = some ptr → ez.objs ptr = some s →
      s.streamId = frame.streamId)
    (h : onFrameRecvData server ez frame = some r) :
    LocalAt (fun server ez => onFrameRecvData server ez frame) server ez frame.streamId r := by
  cases hptr : ez.userData frame.streamId with
  | none =>
      refine .intro ⟨0, [], none⟩ h (.quiet _ _ _) fun server' ez' hview => ?_
      obtain ⟨-, -, -, huser, -⟩ := streamView_eq hview
      rw [onFrameRecvData, huser, hptr]
      exact ⟨_, rfl, .quiet rfl rfl rfl rfl rfl⟩
  | some ptr =>
      obtain ⟨s, hobj⟩ := onFrameRecvData_obj hptr h
      cases hpath : s.path with
      | none =>
          refine .intro ⟨0, [], none⟩ h (.quiet _ _ _) fun server' ez' hview => ?_
          obtain ⟨-, -, -, hptr', hobj'⟩ := streamView_eq_of_obj hptr hobj hview
          rw [onFrameRecvData, hptr']
          simp only [hobj', hpath, Option.bind_eq_bind, Option.bind_some]
          exact ⟨_, rfl, .quiet rfl rfl rfl rfl rfl⟩
      | some path =>
          -- the events and the new object are read off the object alone
          refine .intro ⟨0, (s.frameEvents frame.streamId frame.endStream).map fun kind =>
              ⟨ez.sessionUuid, some (server.table.userdataAt path), kind⟩,
            some (ptr, s.afterFrame)⟩ h ⟨?_, ?_⟩ fun server' ez' hview => ?_
          · intro e he
            obtain ⟨kind, hkind, rfl⟩ := List.mem_map.mp he
            exact ⟨rfl, Stream.streamId_of_mem_frameEvents (hid ptr s hptr hobj) hkind⟩
          · intro p t hpt
            cases hpt
            exact ⟨hptr, s.streamId_afterFrame.trans (hid ptr s hptr hobj)⟩
          · obtain ⟨htable, -, huuid, hptr', hobj'⟩ := streamView_eq_of_obj hptr hobj hview
            refine ⟨_, onFrameRecvData_eq hptr' hobj' hpath, rfl, ?_, rfl, rfl, rfl⟩
            rw [← htable, ← huuid]
            exact unread_eventsWriteAll _ _

theorem onDataChunkRecvCallback_local {streamId : ℤ} {data : Bytes}
    (hid : ∀ ptr s, ez.userData streamId = some ptr → ez.objs ptr = some s →
      s.streamId = streamId)
    (h : onDataChunkRecvCallback server ez streamId data = some r) :
    LocalAt (fun server ez => onDataChunkRecvCallback server ez streamId data) server ez
      streamId r := by
  cases hptr : ez.userData streamId with
  | none =>
      refine .intro ⟨0, [], none⟩ h (.quiet _ _ _) fun server' ez' hview => ?_
      obtain ⟨-, -, -, huser, -⟩ := streamView_eq hview
      rw [onDataChunkRecvCallback, huser, hptr]
      exact ⟨_, rfl, .quiet rfl rfl rfl rfl rfl⟩
  | some ptr =>
      obtain ⟨s, hobj⟩ : ∃ s, ez.objs ptr = some s := by
        rw [onDataChunkRecvCallback, hptr] at h
        obtain ⟨s, hobj, -⟩ := Option.bind_eq_some_iff.mp h
        exact ⟨s, hobj⟩
      -- a refused chunk is not stored, whatever the other streams hold
      by_cases hover : s.recvLen + data.length > server.initialWindowSize
      · refine .intro ⟨1, [], none⟩ h (.quiet _ _ _) fun server' ez' hview => ?_
        obtain ⟨-, hwindow, -, hptr', hobj'⟩ := streamView_eq_of_obj hptr hobj hview
        rw [onDataChunkRecvCallback, hptr']
        simp only [hobj', hwindow, hover, if_true, Option.bind_eq_bind, Option.bind_some]
        exact ⟨_, rfl, .quiet rfl rfl rfl rfl rfl⟩
      · refine .intro ⟨0, [], some (ptr, s.pushChunk data)⟩ h
          (.store 0 hptr (hid ptr s hptr hobj)) fun server' ez' hview => ?_
        obtain ⟨-, hwindow, -, hptr', hobj'⟩ := streamView_eq_of_obj hptr hobj hview
        rw [onDataChunkRecvCallback, hptr']
        simp only [hobj', hwindow, hover, if_false, Option.bind_eq_bind, Option.bind_some]
        exact ⟨_, rfl, rfl, (List.append_nil _).symm, rfl, rfl, rfl⟩

/-- The callback of an action, on a server and a session. -/
def ClientAction.callback (a : ClientAction) (server : ServerShared) (ez : Session) :
    Option CallbackResult :=
  clientCallback ⟨server, ez, [], []⟩ a

theorem ClientAction.effect {a : ClientAction} (h : a.callback server ez = some r) :
    CallbackEffect server ez a r := clientCallback_effect h

/-- An action is about a stream that is open: it begins and closes none. -/
def ClientAction.Continues : ClientAction → Prop
  | .header _ _ _ | .frameRecv _ | .dataChunk _ _ => True
  | .beginHeaders _ _ _ | .streamClose _ => False

/-- **The callbacks between the start and the end of a stream are local.** -/
theorem clientCallback_local {a : ClientAction} (ha : a.Continues)
    (hid : ∀ ptr s, ez.userData a.streamId = some ptr → ez.objs ptr = some s →
      s.streamId = a.streamId)
    (h : a.callback server ez = some r) : LocalAt a.callback server ez a.streamId r := by
  cases a with
  | header frame name value => exact onHeaderCallback_local hid h
  | frameRecv frame =>
      cases htype : frame.type with
      | settings =>
          have hsettings : ∀ server ez, (ClientAction.frameRecv frame).callback server ez
              = some (onFrameRecvSettings server ez frame) := by
            intro server ez
            rw [ClientAction.callback, clientCallback, onFrameRecvCallback, htype]
          exact .intro ⟨0, [], none⟩ h (.quiet _ _ _) fun server' ez' _ =>
            ⟨_, hsettings server' ez', onFrameRecvSettings_quiet server' ez' frame⟩
      | headers =>
          have hheaders : (ClientAction.frameRecv frame).callback
              = fun server ez => onFrameRecvHeaders server ez frame := by
            funext server ez
            rw [ClientAction.callback, clientCallback, onFrameRecvCallback, htype]
          rw [hheaders] at h ⊢
          exact onFrameRecvHeaders_local h
      | data =>
          have hdata : (ClientAction.frameRecv frame).callback
              = fun server ez => onFrameRecvData server ez frame := by
            funext server ez
            rw [ClientAction.callback, clientCallback, onFrameRecvCallback, htype]
          rw [hdata] at h ⊢
          exact onFrameRecvData_local hid h
      | windowUpdate | other =>
          have hquiet : ∀ server ez, (ClientAction.frameRecv frame).callback server ez
              = some ⟨0, server.events, ez⟩ := by
            intro server ez
            rw [ClientAction.callback, clientCallback, onFrameRecvCallback, htype]
          exact .intro ⟨0, [], none⟩ h (.quiet _ _ _) fun server' ez' _ =>
            ⟨_, hquiet server' ez', .quiet rfl rfl rfl rfl rfl⟩
  | dataChunk streamId data => exact onDataChunkRecvCallback_local hid h
  | beginHeaders _ _ _ => exact ha.elim
  | streamClose _ => exact ha.elim

end Local

/-! ## (2) The other streams of a session -/

/-- The user data of every stream points to an object that was begun for it. -/
def Session.UserDataOk (ez : Session) : Prop :=
  ∀ streamId ptr, ez.userData streamId = some ptr →
    ∃ s, ez.objs ptr = some s ∧ s.streamId = streamId

/-- In a session whose registries agree it does. -/
theorem Session.RegistryOk.userDataOk {ez : Session} (h : ez.RegistryOk) : ez.UserDataOk := by
  intro streamId ptr hptr
  obtain ⟨s, hobj, hid, -⟩ := h.obj_of_userData hptr
  exact ⟨s, hobj, hid⟩

/-- Streams with different ids have different objects. -/
theorem Session.UserDataOk.ne {ez : Session} (h : ez.UserDataOk) {id id' : ℤ} {p p' : ℕ}
    (hp : ez.userData id = some p) (hp' : ez.userData id' = some p') (hne : id ≠ id') : p ≠ p' := by
  rintro rfl
  obtain ⟨s, hs, hsid⟩ := h id p hp
  obtain ⟨s', hs', hsid'⟩ := h id' p hp'
  rw [hs, Option.some.injEq] at hs'
  exact hne (by rw [← hsid, ← hsid', hs'])

/-- **What `ez'` keeps of the stream `streamId` of `ez`**: all of it, and it frees no address. -/
structure Session.Keeps (ez ez' : Session) (streamId : ℤ) : Prop where
  /-- Whether it is open, and its user data. -/
  streams : ez'.ngsession.streams streamId = ez.ngsession.streams streamId
  /-- The object of the stream is as before. -/
  obj : ∀ ptr, ez.userData streamId = some ptr → ez'.objs ptr = ez.objs ptr
  /-- The addresses in use stay in use. -/
  used : ∀ ptr, ez'.objs ptr = none → ez.objs ptr = none

section Session

variable {server : ServerShared} {ez : Session} {r : CallbackResult} {a : ClientAction}

theorem userData_of_streams {ez' : Session} {streamId : ℤ}
    (h : ez'.ngsession.streams streamId = ez.ngsession.streams streamId) :
    ez'.userData streamId = ez.userData streamId := congrArg Option.join h

/-- The objects behind an outcome are those before, but for the one it stores. -/
theorem Outcome.Of.objs_eq {out : Outcome} (hof : out.Of server ez r) {ptr : ℕ} {s : Stream}
    (hobj : out.obj = some (ptr, s)) (p : ℕ) :
    r.session.objs p = if p = ptr then some s else ez.objs p := by
  rw [hof.objs, hobj]
  exact ez.setObj_objs ptr (some s) p

theorem Outcome.Of.objs_eq_of_none {out : Outcome} (hof : out.Of server ez r)
    (hobj : out.obj = none) (p : ℕ) : r.session.objs p = ez.objs p := by
  rw [hof.objs, hobj]
  rfl

/-- Only an address in use is stored to. -/
theorem Outcome.Of.used {out : Outcome} (hof : out.Of server ez r) {p : ℕ}
    (hp : r.session.objs p = none) : ez.objs p = none := by
  cases hobj : out.obj with
  | none => rwa [hof.objs_eq_of_none hobj] at hp
  | some q =>
      rw [hof.objs_eq hobj] at hp
      by_cases hq : p = q.1
      · rw [if_pos hq] at hp
        cases hp
      · rwa [if_neg hq] at hp

/-- An outcome within a stream keeps the objects of the others. -/
theorem Outcome.Of.keeps {out : Outcome} {id streamId : ℤ} (hok : ez.UserDataOk)
    (hof : out.Of server ez r) (hwithin : out.Within (streamView server ez id) id)
    (hne : streamId ≠ id) : ez.Keeps r.session streamId where
  streams := by rw [hof.streams]
  obj := by
    intro p hp
    cases hobj : out.obj with
    | none => exact hof.objs_eq_of_none hobj p
    | some q =>
        -- the object at `q` was begun for the other stream
        rw [hof.objs_eq hobj, if_neg (hok.ne hp (hwithin.obj _ _ hobj).1 hne)]
  used _ hp := hof.used hp

/-- An outcome within a stream keeps the user data in order. -/
theorem Outcome.Of.userDataOk {out : Outcome} {id : ℤ} (hok : ez.UserDataOk)
    (hof : out.Of server ez r) (hwithin : out.Within (streamView server ez id) id) :
    r.session.UserDataOk := by
  intro streamId p hp
  rw [userData_of_streams (congrFun hof.streams streamId)] at hp
  obtain ⟨s, hs, hid⟩ := hok streamId p hp
  cases hobj : out.obj with
  | none => exact ⟨s, (hof.objs_eq_of_none hobj p).trans hs, hid⟩
  | some q =>
      by_cases hq : p = q.1
      · obtain ⟨hptr, hqid⟩ := hwithin.obj _ _ hobj
        obtain ⟨s', hs', hid'⟩ := hok id _ hptr
        rw [hq, hs', Option.some.injEq] at hs
        refine ⟨q.2, by rw [hof.objs_eq hobj, if_pos hq], ?_⟩
        rw [hqid, ← hid', hs, hid]
      · exact ⟨s, by rw [hof.objs_eq hobj, if_neg hq]; exact hs, hid⟩

/-- The start of a HEADERS frame keeps the other streams. -/
theorem keeps_beginHeaders (hok : ez.UserDataOk) {id streamId : ℤ} {ptr : ℕ} (mem : ℕ → UInt8)
    (hfree : ez.objs ptr = none) (hne : streamId ≠ id) :
    ez.Keeps (beginHeaders server ez id ptr mem).session streamId where
  streams := by rw [streams_beginHeaders, if_neg hne]
  obj := by
    intro p hp
    obtain ⟨s, hs, -⟩ := hok streamId p hp
    rw [objs_beginHeaders, if_neg]
    rintro rfl
    rw [hfree] at hs
    cases hs
  used := by
    intro p hp
    rw [objs_beginHeaders] at hp
    by_cases hpp : p = ptr
    · rw [if_pos hpp] at hp
      cases hp
    · rwa [if_neg hpp] at hp

theorem userDataOk_beginHeaders (hok : ez.UserDataOk) {id : ℤ} {ptr : ℕ} (mem : ℕ → UInt8)
    (hfree : ez.objs ptr = none) :
    (beginHeaders server ez id ptr mem).session.UserDataOk := by
  intro streamId p hp
  rw [userData_beginHeaders] at hp
  rw [objs_beginHeaders]
  by_cases hid : streamId = id
  · rw [if_pos hid, Option.some.injEq] at hp
    rw [if_pos hp.symm, hid]
    exact ⟨_, rfl, rfl⟩
  · rw [if_neg hid] at hp
    obtain ⟨s, hs, hsid⟩ := hok streamId p hp
    rw [if_neg]
    · exact ⟨s, hs, hsid⟩
    · rintro rfl
      rw [hfree] at hs
      cases hs

end Session

/-! ## (3) All sessions -/

/-- The sessions of a server, with what they share. -/
structure Hub where
  /-- The part of the server that all callbacks see. -/
  server : ServerShared
  /-- The sessions, by their cells. -/
  sessions : ℕ → Session

/-- The state behind a callback of a session. -/
def Hub.after (hub : Hub) (i : ℕ) (r : CallbackResult) : Hub where
  server := { hub.server with events := r.events }
  sessions := Function.update hub.sessions i r.session

@[simp] theorem Hub.sessions_after_self (hub : Hub) (i : ℕ) (r : CallbackResult) :
    (hub.after i r).sessions i = r.session := Function.update_self _ _ _

theorem Hub.sessions_after_of_ne {hub : Hub} {i j : ℕ} (r : CallbackResult) (h : j ≠ i) :
    (hub.after i r).sessions j = hub.sessions j := Function.update_of_ne h _ _

/-- Whether the action closes its stream. -/
def ClientAction.isClose : ClientAction → Bool
  | .streamClose _ => true
  | .beginHeaders _ _ _ | .header _ _ _ | .frameRecv _ | .dataChunk _ _ => false

/-- A callback of the session `act.1` that does not fail; the close of a stream is not among
them. -/
def hubStep (hub : Hub) (act : ℕ × ClientAction) : Option Hub :=
  if act.2.isClose = false ∧ act.2.Legal ⟨hub.server, hub.sessions act.1, [], []⟩ then
    (act.2.callback hub.server (hub.sessions act.1)).bind fun r =>
      if r.ret = 0 then some (hub.after act.1 r) else none
  else none

/-- **Sessions that do not share what they should not**: their handles differ, and the user data of
their streams is in order. -/
structure Hub.Ok (hub : Hub) : Prop where
  /-- No two sessions have one handle. -/
  sessionUuid : ∀ i j, (hub.sessions i).sessionUuid = (hub.sessions j).sessionUuid → i = j
  /-- The user data of each stream of each session is its object. -/
  userData : ∀ i, (hub.sessions i).UserDataOk

/-- **One stream looks the same in two hubs**: stream `streamId` of session `i` of `hub` and of
`alone`, and the events of `alone` are those of the stream in `hub`. Both have written to a queue that
held `base`. -/
structure Hub.Shows (hub alone : Hub) (base : List Event) (i : ℕ) (streamId : ℤ) : Prop where
  /-- The path table is that of the interleaving. -/
  table : alone.server.table = hub.server.table
  /-- The limit of the receive buffer. -/
  initialWindowSize : alone.server.initialWindowSize = hub.server.initialWindowSize
  /-- The handle of the session is that of the interleaving. -/
  sessionUuid : (alone.sessions i).sessionUuid = (hub.sessions i).sessionUuid
  /-- The stream and its user data. -/
  streams : (alone.sessions i).ngsession.streams streamId
    = (hub.sessions i).ngsession.streams streamId
  /-- The object of the stream is that of the interleaving. -/
  obj : ∀ ptr, (hub.sessions i).userData streamId = some ptr →
    (alone.sessions i).objs ptr = (hub.sessions i).objs ptr
  /-- What is not in use in `hub` is not in use in `alone`. -/
  used : ∀ ptr, (hub.sessions i).objs ptr = none → (alone.sessions i).objs ptr = none
  /-- The events of the stream in the interleaving are those written alone. -/
  unread : ∃ es, hub.server.events.unread = base ++ es ∧
    alone.server.events.unread
      = base ++ es.filter fun e => e.BelongsTo (hub.sessions i).sessionUuid streamId

/-- The action belongs to the stream `streamId` of the session `i`. -/
def ownAction (i : ℕ) (streamId : ℤ) (act : ℕ × ClientAction) : Bool :=
  act.1 == i && act.2.streamId == streamId

namespace Hub

variable {hub hub' alone : Hub} {base : List Event} {i : ℕ} {streamId : ℤ}
  {act : ℕ × ClientAction}

/-- What a step is: a callback that returns 0, made on the terms of nghttp2 and closing no
stream. -/
theorem hubStep_eq_some (h : hubStep hub act = some hub') :
    act.2.isClose = false ∧ act.2.Legal ⟨hub.server, hub.sessions act.1, [], []⟩ ∧
      ∃ r, act.2.callback hub.server (hub.sessions act.1) = some r ∧ r.ret = 0 ∧
        hub' = hub.after act.1 r := by
  rw [hubStep] at h
  split at h
  · next hcond =>
      obtain ⟨r, hr, h⟩ := Option.bind_eq_some_iff.mp h
      split at h
      · next hret =>
          cases h
          exact ⟨hcond.1, hcond.2, r, hr, hret, rfl⟩
      · cases h
  · cases h

theorem hubStep_of {r : CallbackResult} (hclose : act.2.isClose = false)
    (hlegal : act.2.Legal ⟨hub.server, hub.sessions act.1, [], []⟩)
    (hr : act.2.callback hub.server (hub.sessions act.1) = some r) (hret : r.ret = 0) :
    hubStep hub act = some (hub.after act.1 r) := by
  rw [hubStep, if_pos ⟨hclose, hlegal⟩, hr, Option.bind_some, if_pos hret]

/-- **What a callback of a stream does to its session**: it keeps the handle, the user data stays in
order, the other streams are kept, and the events it writes belong to the stream. -/
theorem callback_spec {server : ServerShared} {ez : Session} {a : ClientAction}
    {r : CallbackResult} (hok : ez.UserDataOk) (hclose : a.isClose = false)
    (hlegal : a.Legal ⟨server, ez, [], []⟩) (hr : a.callback server ez = some r) :
    r.session.sessionUuid = ez.sessionUuid ∧ r.session.UserDataOk ∧
      (∀ streamId, streamId ≠ a.streamId → ez.Keeps r.session streamId) ∧
      ∃ es, r.events.unread = server.events.unread ++ es ∧
        ∀ e ∈ es, e.BelongsTo ez.sessionUuid a.streamId := by
  by_cases hcontinues : a.Continues
  · obtain ⟨out, hof, hwithin, -⟩ := clientCallback_local hcontinues
      (fun ptr s hptr hobj => by
        obtain ⟨s', hs', hid⟩ := hok _ ptr hptr
        rw [hobj, Option.some.injEq] at hs'
        rw [hs', hid]) hr
    exact ⟨hof.sessionUuid, hof.userDataOk hok hwithin, fun _ hne => hof.keeps hok hwithin hne,
      out.events, hof.unread, hwithin.events⟩
  · cases a with
    | beginHeaders id ptr mem =>
        cases hr
        exact ⟨rfl, userDataOk_beginHeaders hok mem hlegal,
          fun _ hne => keeps_beginHeaders hok mem hlegal hne, [], (List.append_nil _).symm,
          fun _ he => (nomatch he)⟩
    | streamClose id => cases hclose
    | header _ _ _ | frameRecv _ | dataChunk _ _ => exact absurd trivial hcontinues

/-- A step keeps the handles of all sessions. -/
theorem sessionUuid_of_step (h : hub.Ok) (hstep : hubStep hub act = some hub') (j : ℕ) :
    (hub'.sessions j).sessionUuid = (hub.sessions j).sessionUuid := by
  obtain ⟨hclose, hlegal, r, hr, -, rfl⟩ := hubStep_eq_some hstep
  by_cases hj : j = act.1
  · rw [hj, sessions_after_self]
    exact (callback_spec (h.userData act.1) hclose hlegal hr).1
  · rw [sessions_after_of_ne r hj]

/-- A step keeps the sessions in order. -/
theorem Ok.step (h : hub.Ok) (hstep : hubStep hub act = some hub') : hub'.Ok := by
  have hsame := sessionUuid_of_step h hstep
  obtain ⟨hclose, hlegal, r, hr, -, rfl⟩ := hubStep_eq_some hstep
  constructor
  · intro j k hjk
    rw [hsame, hsame] at hjk
    exact h.sessionUuid j k hjk
  · intro j
    by_cases hj : j = act.1
    · rw [hj, sessions_after_self]
      exact (callback_spec (h.userData act.1) hclose hlegal hr).2.1
    · rw [sessions_after_of_ne r hj]
      exact h.userData j

/-- What a stream shows stays when nothing of it has changed. -/
theorem Shows.keep (h : hub.Shows alone base i streamId)
    (htable : hub'.server.table = hub.server.table)
    (hwindow : hub'.server.initialWindowSize = hub.server.initialWindowSize)
    (huuid : (hub'.sessions i).sessionUuid = (hub.sessions i).sessionUuid)
    (hkeeps : (hub.sessions i).Keeps (hub'.sessions i) streamId) {es : List Event}
    (hunread : hub'.server.events.unread = hub.server.events.unread ++ es)
    (hes : ∀ e ∈ es, ¬e.BelongsTo (hub.sessions i).sessionUuid streamId) :
    hub'.Shows alone base i streamId where
  table := h.table.trans htable.symm
  initialWindowSize := h.initialWindowSize.trans hwindow.symm
  sessionUuid := h.sessionUuid.trans huuid.symm
  streams := h.streams.trans hkeeps.streams.symm
  obj := by
    intro p hp
    rw [userData_of_streams hkeeps.streams] at hp
    rw [h.obj p hp, hkeeps.obj p hp]
  used p hp := h.used p (hkeeps.used p hp)
  unread := by
    obtain ⟨es₀, hhub, halone⟩ := h.unread
    refine ⟨es₀ ++ es, ?_, ?_⟩
    · rw [hunread, hhub, List.append_assoc]
    · -- none of the events written is about the stream
      have hnil : (es.filter fun e => decide (e.BelongsTo (hub.sessions i).sessionUuid streamId))
          = [] := by
        apply List.filter_eq_nil_iff.mpr
        intro e he
        rw [decide_eq_true_eq]
        exact hes e he
      rw [halone, huuid, List.filter_append, hnil, List.append_nil]

/-- **An action of another stream does not show** in what the stream sees. -/
theorem Shows.other (h : hub.Shows alone base i streamId) (hok : hub.Ok)
    (hown : ownAction i streamId act = false) (hstep : hubStep hub act = some hub') :
    hub'.Shows alone base i streamId := by
  obtain ⟨hclose, hlegal, r, hr, -, rfl⟩ := hubStep_eq_some hstep
  obtain ⟨huuid, -, hkeeps, es, hunread, hes⟩ :=
    callback_spec (hok.userData act.1) hclose hlegal hr
  by_cases hi : act.1 = i
  · -- another stream of the session
    subst hi
    have hne : act.2.streamId ≠ streamId := by
      rw [ownAction, beq_self_eq_true, Bool.true_and, beq_eq_false_iff_ne] at hown
      exact hown
    refine h.keep rfl rfl ?_ ?_ hunread ?_
    · rw [sessions_after_self]
      exact huuid
    · rw [sessions_after_self]
      exact hkeeps streamId hne.symm
    · rintro e he ⟨-, hid⟩
      rw [(hes e he).2, Option.some.injEq] at hid
      exact hne hid
  · -- another session
    have hsession : (hub.after act.1 r).sessions i = hub.sessions i :=
      sessions_after_of_ne r (Ne.symm hi)
    refine h.keep rfl rfl (by rw [hsession]) ?_ hunread ?_
    · rw [hsession]
      exact ⟨rfl, fun _ _ => rfl, fun _ hp => hp⟩
    · rintro e he ⟨heq, -⟩
      rw [(hes e he).1] at heq
      exact hi (hok.sessionUuid _ _ heq)

/-- The stream has one view in the two hubs. -/
theorem Shows.streamView_eq (h : hub.Shows alone base i streamId) :
    streamView alone.server (alone.sessions i) streamId
      = streamView hub.server (hub.sessions i) streamId := by
  have huser := userData_of_streams h.streams
  rw [streamView, streamView, h.table, h.initialWindowSize, h.sessionUuid, huser]
  congr 1
  cases hptr : (hub.sessions i).userData streamId with
  | none => rfl
  | some p => exact h.obj p hptr

/-- The events of a callback of the stream are the same in both. -/
theorem Shows.unread_append (h : hub.Shows alone base i streamId) {es : List Event}
    {events events' : Events} (hevents : events.unread = hub.server.events.unread ++ es)
    (hevents' : events'.unread = alone.server.events.unread ++ es)
    (hes : ∀ e ∈ es, e.BelongsTo (hub.sessions i).sessionUuid streamId) :
    ∃ es', events.unread = base ++ es' ∧ events'.unread
      = base ++ es'.filter fun e => e.BelongsTo (hub.sessions i).sessionUuid streamId := by
  obtain ⟨es₀, hhub, halone⟩ := h.unread
  refine ⟨es₀ ++ es, ?_, ?_⟩
  · rw [hevents, hhub, List.append_assoc]
  · have hall : (es.filter fun e => decide (e.BelongsTo (hub.sessions i).sessionUuid streamId))
        = es := by
      apply List.filter_eq_self.mpr
      intro e he
      rw [decide_eq_true_eq]
      exact hes e he
    rw [hevents', halone, List.filter_append, hall, List.append_assoc]

/-- An action that continues a stream can be made wherever the stream is open. -/
theorem legal_of_streams {a : ClientAction} (hcontinues : a.Continues) {st st' : ClientState}
    (hstreams : st'.session.ngsession.streams a.streamId
      = st.session.ngsession.streams a.streamId) (hlegal : a.Legal st) : a.Legal st' := by
  cases a with
  | header frame name value =>
      intro htype
      rw [show st'.session.ngsession.streams frame.streamId = _ from hstreams]
      exact hlegal htype
  | frameRecv frame =>
      intro htype
      rw [show st'.session.ngsession.streams frame.streamId = _ from hstreams]
      exact hlegal htype
  | dataChunk _ _ => trivial
  | beginHeaders _ _ _ | streamClose _ => exact hcontinues.elim

/-- **An action of the stream itself is followed** by the run of its actions alone. -/
theorem Shows.own (h : hub.Shows alone base i streamId) (hok : hub.Ok)
    (hown : ownAction i streamId act = true) (hstep : hubStep hub act = some hub') :
    ∃ alone', hubStep alone act = some alone' ∧ hub'.Shows alone' base i streamId := by
  obtain ⟨j, a⟩ := act
  obtain ⟨hclose, hlegal, r, hr, hret, rfl⟩ := hubStep_eq_some hstep
  obtain ⟨rfl, rfl⟩ : j = i ∧ a.streamId = streamId := by
    rw [ownAction, Bool.and_eq_true, beq_iff_eq, beq_iff_eq] at hown
    exact hown
  by_cases hcontinues : a.Continues
  · -- the callback has the same outcome
    obtain ⟨out, hof, hwithin, hsame⟩ := clientCallback_local hcontinues
      (fun ptr s hptr hobj => by
        obtain ⟨s', hs', hid⟩ := hok.userData j _ ptr hptr
        rw [hobj, Option.some.injEq] at hs'
        rw [hs', hid]) hr
    obtain ⟨r', hr', hof'⟩ := hsame _ _ h.streamView_eq
    refine ⟨alone.after j r', hubStep_of hclose (legal_of_streams hcontinues h.streams hlegal) hr'
      (by rw [hof'.ret, ← hof.ret, hret]), ?_⟩
    have hobjs : ∀ p, (alone.sessions j).objs p = (hub.sessions j).objs p →
        r'.session.objs p = r.session.objs p := by
      intro p hp
      cases hobj : out.obj with
      | none => rw [hof'.objs_eq_of_none hobj, hof.objs_eq_of_none hobj, hp]
      | some q => rw [hof'.objs_eq hobj, hof.objs_eq hobj, hp]
    constructor
    · exact h.table
    · exact h.initialWindowSize
    · rw [sessions_after_self, sessions_after_self, hof'.sessionUuid, hof.sessionUuid,
        h.sessionUuid]
    · rw [sessions_after_self, sessions_after_self, hof'.streams, hof.streams, h.streams]
    · intro p hp
      rw [sessions_after_self] at hp ⊢
      rw [userData_of_streams (congrFun hof.streams _)] at hp
      rw [sessions_after_self]
      exact hobjs p (h.obj p hp)
    · intro p hp
      rw [sessions_after_self] at hp ⊢
      have hnone := hof.used hp
      rw [hobjs p ((h.used p hnone).trans hnone.symm), hp]
    · rw [sessions_after_self, hof.sessionUuid]
      exact h.unread_append hof.unread hof'.unread hwithin.events
  · cases a with
    | beginHeaders id ptr mem =>
        -- the same object is begun at the same address
        obtain rfl := Option.some.inj hr
        refine ⟨alone.after j (beginHeaders alone.server (alone.sessions j) id ptr mem),
          hubStep_of rfl (h.used ptr hlegal) rfl rfl, ?_⟩
        constructor
        · exact h.table
        · exact h.initialWindowSize
        · rw [sessions_after_self, sessions_after_self]
          exact h.sessionUuid
        · rw [sessions_after_self, sessions_after_self, streams_beginHeaders, streams_beginHeaders]
          exact (if_pos rfl).trans (if_pos rfl).symm
        · intro p hp
          rw [sessions_after_self, userData_beginHeaders] at hp
          have hpp : ptr = p := Option.some.inj ((if_pos rfl).symm.trans hp)
          rw [sessions_after_self, sessions_after_self, objs_beginHeaders, objs_beginHeaders,
            if_pos hpp.symm, if_pos hpp.symm]
        · intro p hp
          rw [sessions_after_self, objs_beginHeaders] at hp ⊢
          by_cases hpp : p = ptr
          · rw [if_pos hpp] at hp
            cases hp
          · rw [if_neg hpp] at hp ⊢
            exact h.used p hp
        · rw [sessions_after_self]
          exact h.unread
    | streamClose id => cases hclose
    | header _ _ _ | frameRecv _ | dataChunk _ _ => exact absurd trivial hcontinues

end Hub

/-! ## (4) Non-interference -/

/-- **Streams do not interfere.** Take any sessions and any interleaving of their callbacks, none of
which fails. The callbacks of one stream alone can be made too, and the events they write are the
events of the interleaving that belong to the stream, in their order. -/
theorem hubRun_noninterference {hub hub' : Hub} (hok : hub.Ok) {acts : List (ℕ × ClientAction)}
    (hrun : run hubStep hub acts = some hub') (i : ℕ) (streamId : ℤ) :
    ∃ alone es es', run hubStep hub (acts.filter (ownAction i streamId)) = some alone ∧
      hub'.server.events.unread = hub.server.events.unread ++ es ∧
      alone.server.events.unread = hub.server.events.unread ++ es' ∧
      (es.filter fun e => e.BelongsTo (hub.sessions i).sessionUuid streamId) = es' := by
  have hstart : hub.Ok ∧ hub.Shows hub hub.server.events.unread i streamId ∧
      (hub.sessions i).sessionUuid = (hub.sessions i).sessionUuid :=
    ⟨hok, ⟨rfl, rfl, rfl, rfl, fun _ _ => rfl, fun _ hp => hp, [], (List.append_nil _).symm,
      (List.append_nil _).symm⟩, rfl⟩
  -- the run of the stream alone follows its own actions and waits for the others
  obtain ⟨alone, hrun', -, hshows, huuid⟩ := run_filter
    (R := fun st alone => st.Ok ∧ st.Shows alone hub.server.events.unread i streamId ∧
      (st.sessions i).sessionUuid = (hub.sessions i).sessionUuid)
    (fun st alone act st' ⟨hok, hshows, huuid⟩ (hown : ownAction i streamId act = true) hstep =>
      have ⟨alone', hstep', hshows'⟩ := hshows.own hok hown hstep
      ⟨alone', hstep', hok.step hstep, hshows', (Hub.sessionUuid_of_step hok hstep i).trans huuid⟩)
    (fun st alone act st' ⟨hok, hshows, huuid⟩ hown hstep =>
      ⟨hok.step hstep, hshows.other hok hown hstep,
        (Hub.sessionUuid_of_step hok hstep i).trans huuid⟩)
    hstart hrun
  obtain ⟨es, hes, hes'⟩ := hshows.unread
  rw [huuid] at hes'
  exact ⟨alone, es, _, hrun', hes, hes', rfl⟩

/-- New sessions are in order, if each has its own slot. -/
theorem Hub.ok_sessionNew (server : ServerShared) (uuid : ℕ) (sockfd : ℤ) :
    Hub.Ok ⟨server, fun i => sessionNew ⟨uuid, i⟩ sockfd⟩ where
  sessionUuid _ _ h := congrArg SessionUuid.index h
  userData i := (Session.registryOk_sessionNew ⟨uuid, i⟩ sockfd).userDataOk

/-- A server with the path `/a`, on which no session has a stream yet. -/
def hubNew : Hub where
  server :=
    { initialWindowSize := 100
      table := (serverRegisterPath pathTableTen ⟨[47, 97], by decide⟩ 9 0 0).2
      events := eventsNew }
  sessions i := sessionNew ⟨7, i⟩ 5

/-- Two streams of one session, each with a request in pieces; the second request comes to its end
first. -/
def twoStreams : List (ℕ × ClientAction) :=
  [(0, .beginHeaders 1 16 fun _ => 0), (0, .beginHeaders 3 32 fun _ => 0),
    (0, .header ⟨1, .headers, 0, 0⟩ (bytesOf ":path") (bytesOf "/a")),
    (0, .header ⟨3, .headers, 0, 0⟩ (bytesOf ":path") (bytesOf "/a")),
    (0, .dataChunk 1 [0, 0, 0]), (0, .dataChunk 3 [0, 0, 0, 0, 0]),
    (0, .frameRecv ⟨3, .data, 1, 5⟩), (0, .dataChunk 1 [0, 0]), (0, .frameRecv ⟨1, .data, 1, 5⟩)]

/-- The stream that began first has the events of its own callbacks, though the other is in their
way. -/
theorem hubRun_noninterference_two_streams :
    ∃ hub' alone es es', run hubStep hubNew twoStreams = some hub' ∧
      run hubStep hubNew (twoStreams.filter (ownAction 0 1)) = some alone ∧
      hub'.server.events.unread = es ∧ alone.server.events.unread = es' ∧
      es.length = 2 ∧ (es.filter fun e => e.BelongsTo ⟨7, 0⟩ 1) = es' ∧ es'.length = 1 := by
  have hlen : (run hubStep hubNew twoStreams).map (fun hub => (hub.server.events.unread.length,
      (hub.server.events.unread.filter fun e => e.BelongsTo ⟨7, 0⟩ 1).length)) = some (2, 1) := by
    decide +kernel
  obtain ⟨hub', hrun, hlen⟩ := Option.map_eq_some_iff.mp hlen
  obtain ⟨alone, es, es', hrun', hes, hes', hfilter⟩ :=
    hubRun_noninterference (Hub.ok_sessionNew hubNew.server 7 5) hrun 0 1
  rw [hes, Prod.mk.injEq] at hlen
  refine ⟨hub', alone, es, es', hrun, hrun', hes, hes', hlen.1, hfilter, ?_⟩
  rw [← hfilter]
  exact hlen.2

end Ezgrpc2
