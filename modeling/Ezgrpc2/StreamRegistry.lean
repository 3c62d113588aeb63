import Ezgrpc2.Receive

/-! # The registry of streams

A session knows its streams twice: nghttp2 keeps the address of the object as user data of the
stream, and `lstreams` lists the addresses. `RegistryOk` says that the two agree. A client chooses
which callbacks run, in what order; `clientStep` is one of them, made when nghttp2 can make it.

`on_begin_headers_callback` begins a new object for every HEADERS frame, also for the trailers of a
stream that is open. `clientRun_registry_iff` says that this is the only way to break the
registry. -/

namespace Ezgrpc2

open StepRuns

/-! ## (1) The registry -/

namespace Session

/-- The entries of `lstreams` for a stream id. -/
def entriesOf (ez : Session) (streamId : ℤ) : List ℕ :=
  ez.lstreams.filter fun p => listCmpEzstreamId ez streamId p == some true

/-- **The two registries agree**: an open stream has one entry in `lstreams`, its user data; a stream
that is not open has none; and the objects in memory are those listed, each once. -/
structure RegistryOk (ez : Session) : Prop where
  /-- An open stream is listed once, at its user data. -/
  opened : ∀ streamId, (ez.ngsession.streams streamId).isSome = true →
    ∃ p, ez.userData streamId = some p ∧ ez.entriesOf streamId = [p]
  /-- A stream that is not open is not listed. -/
  closed : ∀ streamId, ez.ngsession.streams streamId = none → ez.entriesOf streamId = []
  /-- What is listed is in memory, and nothing else. -/
  live : ∀ p, (ez.objs p).isSome = true ↔ p ∈ ez.lstreams
  /-- No object is listed twice, as the addresses are different. -/
  nodup : ez.lstreams.Nodup

/-- `ez'` has the streams of `ez`, under the same addresses and ids. -/
structure SameRegistry (ez ez' : Session) : Prop where
  /-- The open streams and their user data. -/
  streams : ez'.ngsession.streams = ez.ngsession.streams
  /-- The list of objects is as before. -/
  lstreams : ez'.lstreams = ez.lstreams
  /-- The objects, up to their ids. -/
  objs : ∀ p, (ez'.objs p).map Stream.streamId = (ez.objs p).map Stream.streamId

theorem SameRegistry.refl (ez : Session) : ez.SameRegistry ez := ⟨rfl, rfl, fun _ => rfl⟩

/-- Submits frames to nghttp2, one after the other. -/
def submitAll (ez : Session) (subs : List Submission) : Session := subs.foldl submit ez

theorem submitAll_eq (ez : Session) (subs : List Submission) : ez.submitAll subs
    = { ez with ngsession := { ez.ngsession with submitted := ez.ngsession.submitted ++ subs } } := by
  induction subs generalizing ez with
  | nil =>
      rw [List.append_nil]
      rfl
  | cons s subs ih =>
      show (ez.submit s).submitAll subs = _
      rw [ih, submit, List.append_assoc, List.singleton_append]

/-- Submitting frames does not touch the registry. -/
theorem SameRegistry.submitAll (ez : Session) (subs : List Submission) :
    ez.SameRegistry (ez.submitAll subs) := by
  rw [submitAll_eq]
  exact ⟨rfl, rfl, fun _ => rfl⟩

/-- Submitting a frame leaves the streams and the list. -/
theorem SameRegistry.submit (ez : Session) (s : Submission) : ez.SameRegistry (ez.submit s) :=
  .submitAll ez [s]

/-- Changing an object does not, as long as it keeps its id. -/
theorem SameRegistry.setObj {ez : Session} {ptr : ℕ} {s s' : Stream} (hobj : ez.objs ptr = some s)
    (hid : s'.streamId = s.streamId) : ez.SameRegistry (ez.setObj ptr (some s')) := by
  refine ⟨rfl, rfl, fun p => ?_⟩
  by_cases hp : p = ptr
  · rw [hp, setObj_objs_self, hobj, Option.map_some, Option.map_some, hid]
  · rw [setObj_objs_of_ne _ hp]

theorem SameRegistry.listCmp {ez ez' : Session} (h : ez.SameRegistry ez') (streamId : ℤ) (p : ℕ) :
    listCmpEzstreamId ez' streamId p = listCmpEzstreamId ez streamId p := by
  have hmap : ∀ o : Option Stream, (o.map fun s => s.streamId == streamId)
      = (o.map Stream.streamId).map (· == streamId) := by
    intro o
    rw [Option.map_map]
    rfl
  rw [listCmpEzstreamId, listCmpEzstreamId, hmap, hmap, h.objs]

/-- The registry is judged by addresses and ids only. -/
theorem RegistryOk.of_same {ez ez' : Session} (h : ez.RegistryOk) (hsame : ez.SameRegistry ez') :
    ez'.RegistryOk := by
  have hentries : ∀ streamId, ez'.entriesOf streamId = ez.entriesOf streamId := by
    intro streamId
    rw [entriesOf, entriesOf, hsame.lstreams]
    exact List.filter_congr fun p _ => by rw [hsame.listCmp]
  have huser : ∀ streamId, ez'.userData streamId = ez.userData streamId := by
    intro streamId
    rw [userData, userData, Ngsession.getStreamUserData, Ngsession.getStreamUserData,
      hsame.streams]
  constructor
  · intro streamId hopen
    rw [hsame.streams] at hopen
    rw [huser, hentries]
    exact h.opened streamId hopen
  · intro streamId hclosed
    rw [hsame.streams] at hclosed
    rw [hentries]
    exact h.closed streamId hclosed
  · intro p
    rw [hsame.lstreams, ← h.live, ← Option.isSome_map, hsame.objs, Option.isSome_map]
  · rw [hsame.lstreams]
    exact h.nodup

/-- In a registry that agrees, the user data of a stream is an object of that stream. -/
theorem RegistryOk.obj_of_userData {ez : Session} (h : ez.RegistryOk) {streamId : ℤ} {ptr : ℕ}
    (hptr : ez.userData streamId = some ptr) :
    ∃ s, ez.objs ptr = some s ∧ s.streamId = streamId ∧ ptr ∈ ez.lstreams := by
  have hopen : (ez.ngsession.streams streamId).isSome = true := by
    rw [userData, Ngsession.getStreamUserData] at hptr
    cases hs : ez.ngsession.streams streamId with
    | none =>
        rw [hs] at hptr
        cases hptr
    | some _ => rfl
  obtain ⟨p, hp, hentries⟩ := h.opened streamId hopen
  rw [hptr, Option.some.injEq] at hp
  subst hp
  have hmem : ptr ∈ ez.entriesOf streamId := by
    rw [hentries]
    exact List.mem_singleton.mpr rfl
  obtain ⟨hlist, hcmp⟩ := List.mem_filter.mp hmem
  rw [beq_iff_eq, listCmpEzstreamId, Option.map_eq_some_iff] at hcmp
  obtain ⟨s, hs, hid⟩ := hcmp
  exact ⟨s, hs, beq_iff_eq.mp hid, hlist⟩

/-- A new session has no streams. -/
theorem registryOk_sessionNew (uuid : SessionUuid) (sockfd : ℤ) :
    (sessionNew uuid sockfd).RegistryOk where
  opened _ hopen := nomatch hopen
  closed _ _ := rfl
  live _ := ⟨fun h => (nomatch h), fun h => (nomatch h)⟩
  nodup := List.nodup_nil

end Session

/-! ## (2) What the callbacks do to it -/

section Callbacks

variable {server : ServerShared} {ez : Session} {r : CallbackResult} {ptr : ℕ} {s : Stream}

/-- `on_header_callback` follows the user data of the stream: without an object it aborts. -/
theorem onHeaderCallback_obj {frame : FrameHd} {name value : Bytes} (htype : frame.type = .headers)
    (h : onHeaderCallback server ez frame name value = some r) :
    ∃ ptr s, ez.userData frame.streamId = some ptr ∧ ez.objs ptr = some s := by
  rw [onHeaderCallback, if_neg (not_not.mpr htype)] at h
  obtain ⟨ptr, hptr, h⟩ := Option.bind_eq_some_iff.mp h
  obtain ⟨s, hobj, -⟩ := Option.bind_eq_some_iff.mp h
  exact ⟨ptr, s, hptr, hobj⟩

/-- `on_frame_recv_headers` goes through only where the stream has an object. -/
theorem onFrameRecvHeaders_obj {frame : FrameHd} (h : onFrameRecvHeaders server ez frame = some r) :
    ∃ ptr s, ez.userData frame.streamId = some ptr ∧ ez.objs ptr = some s := by
  unfold onFrameRecvHeaders at h
  obtain ⟨ptr, hptr, h⟩ := Option.bind_eq_some_iff.mp h
  obtain ⟨s, hobj, -⟩ := Option.bind_eq_some_iff.mp h
  exact ⟨ptr, s, hptr, hobj⟩

/-- `on_frame_recv_data` goes through only where the user data of the stream has an object. -/
theorem onFrameRecvData_obj {frame : FrameHd} (hptr : ez.userData frame.streamId = some ptr)
    (h : onFrameRecvData server ez frame = some r) : ∃ s, ez.objs ptr = some s := by
  rw [onFrameRecvData, hptr] at h
  obtain ⟨s, hobj, -⟩ := Option.bind_eq_some_iff.mp h
  exact ⟨s, hobj⟩

/-- **The dispatch on the name of a header field** writes fields of the request only: what was received
and what is to be sent stay as they are. -/
theorem Stream.applyHeader_frame (s : Stream) (table : PathTable) (name value : Bytes) :
    let s' := s.applyHeader table name value
    (s'.streamId = s.streamId ∧ s'.headers = s.headers) ∧
      (s'.recvLen = s.recvLen ∧ s'.recvData = s.recvData) ∧
      s'.isTrunc = s.isTrunc ∧ s'.truncSeek = s.truncSeek ∧
      s'.lqueueOmessages = s.lqueueOmessages := by
  intro s'
  unfold s' Stream.applyHeader
  repeat' split
  all_goals exact ⟨⟨rfl, rfl⟩, ⟨rfl, rfl⟩, rfl, rfl, rfl⟩

/-- A header is stored in the object of its stream. -/
theorem Stream.streamId_applyHeader (s : Stream) (table : PathTable) (name value : Bytes) :
    ((s.pushHeader name value).applyHeader table name value).streamId = s.streamId :=
  ((s.pushHeader name value).applyHeader_frame table name value).1.1

/-- `on_header_callback` on a stream with an object. -/
theorem onHeaderCallback_eq {frame : FrameHd} (htype : frame.type = .headers)
    (hptr : ez.userData frame.streamId = some ptr) (hobj : ez.objs ptr = some s)
    (name value : Bytes) :
    onHeaderCallback server ez frame name value = some
      (if s.nbHeaders + 1 > configStreamMaxHeaders then ⟨1, server.events, ez⟩
      else ⟨0, server.events, ez.setObj ptr
        (some ((s.pushHeader name value).applyHeader server.table name value))⟩) := by
  rw [onHeaderCallback, if_neg (not_not.mpr htype)]
  simp only [hptr, hobj, Option.bind_eq_bind, Option.bind_some]
  split <;> rfl

/-- `on_header_callback` on an open stream goes through and leaves the streams. -/
theorem onHeaderCallback_same (h : ez.RegistryOk) {frame : FrameHd} (name value : Bytes)
    (hopen : frame.type = .headers → (ez.ngsession.streams frame.streamId).isSome = true) :
    ∃ r, onHeaderCallback server ez frame name value = some r ∧ ez.SameRegistry r.session := by
  by_cases htype : frame.type = .headers
  · obtain ⟨ptr, hptr, -⟩ := h.opened _ (hopen htype)
    obtain ⟨s, hobj, -, -⟩ := h.obj_of_userData hptr
    refine ⟨_, onHeaderCallback_eq htype hptr hobj name value, ?_⟩
    split
    · exact Session.SameRegistry.refl ez
    · exact Session.SameRegistry.setObj hobj (s.streamId_applyHeader _ name value)
  · exact ⟨_, if_pos htype, Session.SameRegistry.refl ez⟩

/-- `on_frame_recv_headers` on a stream with an object only submits frames. -/
theorem onFrameRecvHeaders_eq {frame : FrameHd} (hptr : ez.userData frame.streamId = some ptr)
    (hobj : ez.objs ptr = some s) :
    ∃ subs, onFrameRecvHeaders server ez frame = some ⟨0, server.events, ez.submitAll subs⟩ := by
  unfold onFrameRecvHeaders
  simp only [hptr, hobj, Option.bind_eq_bind, Option.bind_some]
  split
  · exact ⟨[], rfl⟩
  · repeat' split
    all_goals first
      | exact ⟨[_], rfl⟩
      | exact ⟨[_, _], rfl⟩

/-- `on_frame_recv_headers` on an open stream goes through and leaves the streams. -/
theorem onFrameRecvHeaders_same (h : ez.RegistryOk) {frame : FrameHd}
    (hopen : (ez.ngsession.streams frame.streamId).isSome = true) :
    ∃ r, onFrameRecvHeaders server ez frame = some r ∧ ez.SameRegistry r.session := by
  obtain ⟨ptr, hptr, -⟩ := h.opened _ hopen
  obtain ⟨s, hobj, -, -⟩ := h.obj_of_userData hptr
  obtain ⟨subs, heq⟩ := @onFrameRecvHeaders_eq server ez ptr s frame hptr hobj
  exact ⟨_, heq, Session.SameRegistry.submitAll ez subs⟩

/-- `on_frame_recv_settings` does nothing but submit frames. -/
theorem onFrameRecvSettings_eq (server : ServerShared) (ez : Session) (frame : FrameHd) :
    ∃ subs, onFrameRecvSettings server ez frame = ⟨0, server.events, ez.submitAll subs⟩ := by
  unfold onFrameRecvSettings
  repeat' split
  all_goals first
    | exact ⟨[], rfl⟩
    | exact ⟨[_], rfl⟩

/-- `on_frame_recv_data` changes the receive buffer of its stream. -/
theorem onFrameRecvData_same (h : ez.RegistryOk) (frame : FrameHd) :
    ∃ r, onFrameRecvData server ez frame = some r ∧ ez.SameRegistry r.session := by
  cases hptr : ez.userData frame.streamId with
  | none =>
      rw [onFrameRecvData, hptr]
      exact ⟨_, rfl, Session.SameRegistry.submit ez _⟩
  | some ptr =>
      obtain ⟨s, hobj, -, -⟩ := h.obj_of_userData hptr
      cases hpath : s.path with
      | none =>
          rw [onFrameRecvData, hptr]
          simp only [hobj, hpath, Option.bind_eq_bind, Option.bind_some]
          exact ⟨_, rfl, Session.SameRegistry.refl ez⟩
      | some path =>
          rw [onFrameRecvData_eq hptr hobj hpath]
          exact ⟨_, rfl, Session.SameRegistry.setObj hobj s.streamId_afterFrame⟩

/-- `on_frame_recv_callback`, for HEADERS on an open stream. -/
theorem onFrameRecvCallback_same (h : ez.RegistryOk) {frame : FrameHd}
    (hopen : frame.type = .headers → (ez.ngsession.streams frame.streamId).isSome = true) :
    ∃ r, onFrameRecvCallback server ez frame = some r ∧ ez.SameRegistry r.session := by
  rw [onFrameRecvCallback]
  cases htype : frame.type with
  | data => exact onFrameRecvData_same h frame
  | headers => exact onFrameRecvHeaders_same h (hopen htype)
  | settings =>
      obtain ⟨subs, heq⟩ := onFrameRecvSettings_eq server ez frame
      exact ⟨_, congrArg some heq, Session.SameRegistry.submitAll ez subs⟩
  | windowUpdate => exact ⟨_, rfl, Session.SameRegistry.refl ez⟩
  | other => exact ⟨_, rfl, Session.SameRegistry.refl ez⟩

/-- `on_data_chunk_recv_callback` changes the receive buffer of its stream. -/
theorem onDataChunkRecvCallback_same (h : ez.RegistryOk) (streamId : ℤ) (data : Bytes) :
    ∃ r, onDataChunkRecvCallback server ez streamId data = some r ∧
      ez.SameRegistry r.session := by
  rw [onDataChunkRecvCallback]
  cases hptr : ez.userData streamId with
  | none => exact ⟨_, rfl, Session.SameRegistry.refl ez⟩
  | some ptr =>
      obtain ⟨s, hobj, -, -⟩ := h.obj_of_userData hptr
      simp only [hobj, Option.bind_eq_bind, Option.bind_some]
      by_cases hover : s.recvLen + data.length > server.initialWindowSize
      · rw [if_pos hover]
        exact ⟨_, rfl, Session.SameRegistry.submit ez _⟩
      · rw [if_neg hover]
        exact ⟨_, rfl, Session.SameRegistry.setObj hobj (s.streamId_pushChunk data)⟩

end Callbacks

/-! ## (3) The start of a HEADERS frame -/

/-- nghttp2 at the start of a HEADERS frame: it opens the stream, unless these are the trailers of a
stream that is open already. -/
def Ngsession.beginHeaders (ng : Ngsession) (streamId : ℤ) : Ngsession :=
  if (ng.streams streamId).isSome then ng else ng.openStream streamId

/-- The start of a HEADERS frame on a session. -/
def beginHeaders (server : ServerShared) (ez : Session) (streamId : ℤ) (ptr : ℕ)
    (mem : ℕ → UInt8) : CallbackResult :=
  onBeginHeadersCallback server { ez with ngsession := ez.ngsession.beginHeaders streamId }
    streamId ptr mem

section BeginHeaders

variable (server : ServerShared) (ez : Session) (streamId : ℤ) (ptr : ℕ) (mem : ℕ → UInt8)

/-- The stream is open then, with the new object as its user data; the other streams are as before. -/
theorem streams_beginHeaders (id : ℤ) :
    (beginHeaders server ez streamId ptr mem).session.ngsession.streams id
      = if id = streamId then some (some ptr) else ez.ngsession.streams id := by
  show ((ez.ngsession.beginHeaders streamId).setStreamUserData streamId ptr).streams id = _
  have hopen : ((ez.ngsession.beginHeaders streamId).streams streamId).isSome = true := by
    rw [Ngsession.beginHeaders]
    by_cases h : (ez.ngsession.streams streamId).isSome = true
    · rw [if_pos h, h]
    · rw [if_neg h, Ngsession.openStream]
      simp only [if_true, Option.isSome_some]
  rw [Ngsession.setStreamUserData, if_pos hopen]
  by_cases hid : id = streamId
  · simp only [if_pos hid]
  · simp only [if_neg hid, Ngsession.beginHeaders]
    by_cases h : (ez.ngsession.streams streamId).isSome = true
    · rw [if_pos h]
    · rw [if_neg h, Ngsession.openStream]
      simp only [if_neg hid]

theorem userData_beginHeaders (id : ℤ) :
    (beginHeaders server ez streamId ptr mem).session.userData id
      = if id = streamId then some ptr else ez.userData id := by
  rw [Session.userData, Ngsession.getStreamUserData, streams_beginHeaders]
  by_cases hid : id = streamId
  · rw [if_pos hid, if_pos hid]
    rfl
  · rw [if_neg hid, if_neg hid]
    rfl

theorem lstreams_beginHeaders :
    (beginHeaders server ez streamId ptr mem).session.lstreams = ez.lstreams ++ [ptr] := rfl

/-- The object that the start of a HEADERS frame makes. -/
def streamBegun (streamId : ℤ) (mem : ℕ → UInt8) : Stream :=
  { streamNew streamId with recvLen := 0, recvData := mem }

theorem objs_beginHeaders (p : ℕ) :
    (beginHeaders server ez streamId ptr mem).session.objs p
      = if p = ptr then some (streamBegun streamId mem) else ez.objs p := rfl

variable {ez ptr}

/-- **A HEADERS frame adds an entry** for its stream, whether the stream was open or not. -/
theorem entriesOf_beginHeaders (h : ez.RegistryOk) (hfree : ez.objs ptr = none) (id : ℤ) :
    (beginHeaders server ez streamId ptr mem).session.entriesOf id
      = ez.entriesOf id ++ if id = streamId then [ptr] else [] := by
  rw [Session.entriesOf, lstreams_beginHeaders, List.filter_append]
  congr 1
  · apply List.filter_congr
    intro p hp
    -- what is listed is not the new object
    have hne : p ≠ ptr := by
      rintro rfl
      have hlive := (h.live p).mpr hp
      rw [hfree] at hlive
      cases hlive
    rw [listCmpEzstreamId, listCmpEzstreamId, objs_beginHeaders, if_neg hne]
  · have hcmp : listCmpEzstreamId (beginHeaders server ez streamId ptr mem).session id ptr
        = some (streamId == id) := by
      rw [listCmpEzstreamId, objs_beginHeaders, if_pos rfl]
      rfl
    by_cases hid : id = streamId
    · rw [if_pos hid]
      exact List.filter_eq_self.mpr fun p hp => by
        rw [List.mem_singleton.mp hp, hcmp, hid, beq_self_eq_true]
        rfl
    · rw [if_neg hid]
      exact List.filter_eq_nil_iff.mpr fun p hp => by
        rw [List.mem_singleton.mp hp, hcmp, beq_eq_false_iff_ne.mpr (Ne.symm hid)]
        exact Bool.false_ne_true

/-- On a stream that is not open it keeps the registry. -/
theorem Session.RegistryOk.beginHeaders (h : ez.RegistryOk) (hfree : ez.objs ptr = none)
    (hclosed : ez.ngsession.streams streamId = none) :
    (beginHeaders server ez streamId ptr mem).session.RegistryOk := by
  -- the memory of the new object is not in use
  have hnew : ptr ∉ ez.lstreams := by
    intro hcon
    have hlive := (h.live ptr).mpr hcon
    rw [hfree] at hlive
    cases hlive
  constructor
  · intro id hopen
    rw [streams_beginHeaders] at hopen
    rw [userData_beginHeaders, entriesOf_beginHeaders server streamId mem h hfree]
    by_cases hid : id = streamId
    · rw [if_pos hid, if_pos hid, hid, h.closed streamId hclosed]
      exact ⟨ptr, rfl, rfl⟩
    · rw [if_neg hid] at hopen
      rw [if_neg hid, if_neg hid, List.append_nil]
      exact h.opened id hopen
  · intro id hnone
    rw [streams_beginHeaders] at hnone
    rw [entriesOf_beginHeaders server streamId mem h hfree]
    by_cases hid : id = streamId
    · rw [if_pos hid] at hnone
      cases hnone
    · rw [if_neg hid] at hnone
      rw [if_neg hid, h.closed id hnone]
      rfl
  · intro p
    rw [objs_beginHeaders, lstreams_beginHeaders, List.mem_append, List.mem_singleton]
    by_cases hp : p = ptr
    · rw [if_pos hp]
      exact ⟨fun _ => Or.inr hp, fun _ => rfl⟩
    · rw [if_neg hp, h.live]
      exact ⟨Or.inl, fun hor => hor.resolve_right hp⟩
  · rw [lstreams_beginHeaders]
    refine List.nodup_append.mpr ⟨h.nodup, List.nodup_singleton _, ?_⟩
    rintro a ha b hb rfl
    exact hnew (List.mem_singleton.mp hb ▸ ha)

/-- **On an open stream it breaks the registry**: there are two entries then. -/
theorem Session.RegistryOk.not_beginHeaders (h : ez.RegistryOk) (hfree : ez.objs ptr = none)
    (hopen : (ez.ngsession.streams streamId).isSome = true) :
    ¬(Ezgrpc2.beginHeaders server ez streamId ptr mem).session.RegistryOk := by
  intro hcon
  obtain ⟨p, -, hentries⟩ := h.opened streamId hopen
  have hopen' : ((Ezgrpc2.beginHeaders server ez streamId ptr mem).session.ngsession.streams
      streamId).isSome = true := by
    rw [streams_beginHeaders, if_pos rfl]
    rfl
  obtain ⟨q, -, hone⟩ := hcon.opened streamId hopen'
  rw [entriesOf_beginHeaders server streamId mem h hfree, hentries, if_pos rfl] at hone
  cases hone

end BeginHeaders

/-! ## (4) The close of a stream -/

/-- The close of a stream: the callback, and then nghttp2 forgets the stream. -/
def streamClose (server : ServerShared) (ez : Session) (streamId : ℤ) : Option CallbackResult :=
  (onStreamCloseCallback server ez streamId).map fun r =>
    { r with
      session := { r.session with ngsession := r.session.ngsession.closeStream streamId } }

theorem streamFree_eq_some {ez ez' : Session} {p : ℕ} (h : streamFree ez p = some ez') :
    ez' = ez.setObj p none := by
  rw [streamFree, Option.bind_eq_bind, Option.bind_eq_some_iff] at h
  obtain ⟨s, -, h⟩ := h
  exact (Option.some.inj h).symm

/-- What a close leaves: the object the user data points to is gone, the others are as before, and the
stream has no user data and no data source. -/
theorem streamClose_eq_some {server : ServerShared} {ez : Session} {streamId : ℤ}
    {r : CallbackResult} (h : streamClose server ez streamId = some r) :
    ∃ p l, ez.userData streamId = some p ∧ r =
      { ret := 0
        events := server.events
        session :=
          { ({ ez with lstreams := l } : Session).setObj p none with
            ngsession := ez.ngsession.closeStream streamId } } := by
  rw [streamClose, Option.map_eq_some_iff] at h
  obtain ⟨r', hr', rfl⟩ := h
  rw [onStreamCloseCallback] at hr'
  simp only [Option.bind_eq_bind, Option.bind_eq_some_iff] at hr'
  obtain ⟨⟨removed, l⟩, -, hr'⟩ := hr'
  by_cases hne : ez.userData streamId ≠ removed
  · rw [if_pos hne] at hr'
    cases hr'
  · rw [if_neg hne] at hr'
    obtain ⟨p, hp, hr'⟩ := Option.bind_eq_some_iff.mp hr'
    obtain ⟨ez', hfree, hr'⟩ := Option.bind_eq_some_iff.mp hr'
    obtain rfl := Option.some.inj hr'
    rw [streamFree_eq_some hfree]
    exact ⟨p, l, hp, rfl⟩

/-- The user data of the streams behind a close. -/
theorem Session.userData_closeStream {ez ez' : Session} {streamId : ℤ}
    (h : ez'.ngsession = ez.ngsession.closeStream streamId) (id : ℤ) :
    ez'.userData id = if id = streamId then none else ez.userData id := by
  rw [Session.userData, h, Ngsession.getStreamUserData, Ngsession.closeStream]
  by_cases hid : id = streamId
  · simp only [if_pos hid, Option.join_none]
  · simp only [if_neg hid]
    rfl

/-- The session behind the close of a stream: `p` is freed, and `l` is left of the list. -/
abbrev Session.closed (ez : Session) (streamId : ℤ) (p : ℕ) (l : List ℕ) : Session :=
  { ({ ez with lstreams := l } : Session).setObj p none with
    ngsession := ez.ngsession.closeStream streamId }

/-- **The list at the close of a stream**: `p` is the one entry of the stream, between the others. -/
structure Session.ClosesAt (ez : Session) (streamId : ℤ) (p : ℕ) (l₁ l₂ : List ℕ) : Prop where
  /-- The object is the user data of the stream. -/
  userData : ez.userData streamId = some p
  /-- The entry of the list is an object of the stream. -/
  entry : listCmpEzstreamId ez streamId p = some true
  /-- The object is in the list, between these others. -/
  lstreams_eq : ez.lstreams = l₁ ++ p :: l₂
  /-- The others are objects of other streams. -/
  others : ∀ q ∈ l₁ ++ l₂, listCmpEzstreamId ez streamId q = some false

/-- Where the registries agree an open stream can be closed. -/
theorem Session.RegistryOk.closesAt {ez : Session} {streamId : ℤ} (h : ez.RegistryOk)
    (hopen : (ez.ngsession.streams streamId).isSome = true) :
    ∃ p l₁ l₂, ez.ClosesAt streamId p l₁ l₂ := by
  obtain ⟨p, hptr, hentries⟩ := h.opened streamId hopen
  -- the list splits at the one entry of the stream
  obtain ⟨l₁, l₂, hsplit, hfront, hcmp, hback⟩ := List.filter_eq_cons_iff.mp hentries
  refine ⟨p, l₁, l₂, hptr, beq_iff_eq.mp hcmp, hsplit, fun q hq => ?_⟩
  have hlisted : q ∈ ez.lstreams := by
    rw [hsplit]
    exact List.perm_middle.symm.subset (List.mem_cons_of_mem p hq)
  obtain ⟨t, ht⟩ := Option.isSome_iff_exists.mp ((h.live q).mpr hlisted)
  have hne : ¬(listCmpEzstreamId ez streamId q == some true) = true := by
    rcases List.mem_append.mp hq with hq | hq
    · exact hfront q hq
    · exact List.filter_eq_nil_iff.mp hback q hq
  rw [listCmpEzstreamId, ht, Option.map_some, beq_iff_eq, Option.some.injEq,
    Bool.not_eq_true] at hne
  rw [listCmpEzstreamId, ht, Option.map_some, hne]

namespace Session.ClosesAt

variable {ez : Session} {streamId : ℤ} {p : ℕ} {l₁ l₂ : List ℕ}

/-- The entry is moved to the front. -/
theorem perm (hc : ez.ClosesAt streamId p l₁ l₂) : ez.lstreams.Perm (p :: (l₁ ++ l₂)) := by
  rw [hc.lstreams_eq]
  exact List.perm_middle

/-- The callback goes through and takes the object off the list. -/
theorem streamClose_eq (hc : ez.ClosesAt streamId p l₁ l₂) (server : ServerShared) :
    streamClose server ez streamId
      = some ⟨0, server.events, ez.closed streamId p (l₁ ++ l₂)⟩ := by
  have hremove : listRemove (listCmpEzstreamId ez streamId) ez.lstreams
      = some (some p, l₁ ++ l₂) := by
    rw [hc.lstreams_eq]
    exact listRemove_append l₂ (fun q hq => hc.others q (List.mem_append_left _ hq)) hc.entry
  obtain ⟨s, hobj, -⟩ := Option.map_eq_some_iff.mp hc.entry
  rw [streamClose, onStreamCloseCallback]
  simp only [hremove, hc.userData, Option.bind_eq_bind, Option.bind_some, ne_eq, not_true_eq_false,
    if_false, streamFree, hobj]
  rfl

/-- The entry is none of the others. -/
theorem notMem (hc : ez.ClosesAt streamId p l₁ l₂) : p ∉ l₁ ++ l₂ := by
  intro hp
  have hother := hc.others p hp
  rw [hc.entry, Option.some.injEq] at hother
  cases hother

/-- Closing a stream takes its entry and leaves those of the others. -/
theorem entriesOf_closed (hc : ez.ClosesAt streamId p l₁ l₂) (id : ℤ) :
    (ez.closed streamId p (l₁ ++ l₂)).entriesOf id
      = if id = streamId then [] else ez.entriesOf id := by
  have hcongr : (ez.closed streamId p (l₁ ++ l₂)).entriesOf id
      = (l₁ ++ l₂).filter fun q => listCmpEzstreamId ez id q == some true := by
    apply List.filter_congr
    intro q hq
    have hqp : q ≠ p := fun hcon => hc.notMem (hcon ▸ hq)
    rw [listCmpEzstreamId, listCmpEzstreamId]
    show (((if q = p then none else ez.objs q).map _) == _) = _
    rw [if_neg hqp]
  rw [hcongr]
  by_cases hsid : id = streamId
  · rw [if_pos hsid, hsid]
    refine List.filter_eq_nil_iff.mpr fun q hq => ?_
    rw [hc.others q hq]
    decide
  · -- the entry that is removed is none of another stream
    obtain ⟨s, hobj, hid⟩ := Option.map_eq_some_iff.mp hc.entry
    have hentry : ¬(listCmpEzstreamId ez id p == some true) = true := by
      rw [listCmpEzstreamId, hobj, Option.map_some, beq_iff_eq, Option.some.injEq, beq_iff_eq,
        beq_iff_eq.mp hid]
      exact Ne.symm hsid
    rw [if_neg hsid, Session.entriesOf, hc.lstreams_eq, List.filter_append, List.filter_append,
      List.filter_cons_of_neg]
    exact hentry

/-- **The registries agree again** when the stream is closed. -/
theorem registryOk_closed (hc : ez.ClosesAt streamId p l₁ l₂) (h : ez.RegistryOk) :
    (ez.closed streamId p (l₁ ++ l₂)).RegistryOk := by
  have hstreams : ∀ id, id ≠ streamId →
      (ez.ngsession.closeStream streamId).streams id = ez.ngsession.streams id :=
    fun id hid => if_neg hid
  constructor
  · intro id hop
    rw [hc.entriesOf_closed]
    by_cases hsid : id = streamId
    · have hclosed : ((ez.ngsession.closeStream streamId).streams id).isSome = true := hop
      rw [Ngsession.closeStream] at hclosed
      simp only [if_pos hsid] at hclosed
      cases hclosed
    · rw [if_neg hsid]
      show ∃ q, ((ez.ngsession.closeStream streamId).streams id).join = some q ∧ _
      rw [hstreams id hsid]
      exact h.opened id (by rw [← hstreams id hsid]; exact hop)
  · intro id hnone
    rw [hc.entriesOf_closed]
    by_cases hsid : id = streamId
    · rw [if_pos hsid]
    · rw [if_neg hsid]
      exact h.closed id (by rw [← hstreams id hsid]; exact hnone)
  · intro q
    show (if q = p then none else ez.objs q).isSome = true ↔ q ∈ l₁ ++ l₂
    by_cases hqp : q = p
    · rw [if_pos hqp]
      exact ⟨fun hcon => (nomatch hcon), fun hcon => absurd (hqp ▸ hcon) hc.notMem⟩
    · rw [if_neg hqp, h.live, hc.perm.mem_iff, List.mem_cons]
      exact ⟨fun hor => hor.resolve_left hqp, Or.inr⟩
  · exact (List.nodup_cons.mp (hc.perm.nodup_iff.mp h.nodup)).2

end Session.ClosesAt

/-- **The assertion of `on_stream_close_callback` holds** where the registries agree: the entry it
removes is the user data. The object is freed and the registries agree again. -/
theorem Session.RegistryOk.streamClose {ez : Session} {streamId : ℤ} (h : ez.RegistryOk)
    (server : ServerShared) (hopen : (ez.ngsession.streams streamId).isSome = true) :
    ∃ r p, streamClose server ez streamId = some r ∧ r.session.RegistryOk ∧
      ez.userData streamId = some p ∧ ez.lstreams.Perm (p :: r.session.lstreams) := by
  obtain ⟨p, l₁, l₂, hc⟩ := h.closesAt hopen
  exact ⟨_, p, hc.streamClose_eq server, hc.registryOk_closed h, hc.userData, hc.perm⟩

/-- **`session_free` frees the streams that are left**, each once, where the registries agree. -/
theorem Session.RegistryOk.sessionFreeStreams {ez : Session} (h : ez.RegistryOk) :
    ∃ ez', sessionFreeStreams ez = some ez' ∧ ∀ p, ez'.objs p = none := by
  -- freeing a list of different objects frees these and no others
  have hgo : ∀ (l : List ℕ) (ez : Session), (∀ p ∈ l, (ez.objs p).isSome = true) → l.Nodup →
      ∃ ez', sessionFreeStreams.go ez l = some ez' ∧
        ∀ p, ez'.objs p = if p ∈ l then none else ez.objs p := by
    intro l
    induction l with
    | nil =>
        intro ez _ _
        refine ⟨_, rfl, fun p => ?_⟩
        rw [if_neg (List.not_mem_nil)]
    | cons q l ih =>
        intro ez hlive hnodup
        obtain ⟨hq, hnodup'⟩ := List.nodup_cons.mp hnodup
        obtain ⟨s, hs⟩ := Option.isSome_iff_exists.mp (hlive q List.mem_cons_self)
        have hlive' : ∀ p ∈ l, ((ez.setObj q none).objs p).isSome = true := by
          intro p hp
          have hpq : p ≠ q := fun hcon => hq (hcon ▸ hp)
          rw [Session.setObj_objs_of_ne _ hpq]
          exact hlive p (List.mem_cons_of_mem q hp)
        obtain ⟨ez', hrun, hobjs⟩ := ih (ez.setObj q none) hlive' hnodup'
        refine ⟨ez', ?_, fun p => ?_⟩
        · rw [Ezgrpc2.sessionFreeStreams.go, streamFree, hs]
          exact hrun
        · rw [hobjs, Session.setObj_objs]
          by_cases hpl : p ∈ l
          · rw [if_pos hpl, if_pos (List.mem_cons_of_mem q hpl)]
          · rw [if_neg hpl]
            by_cases hpq : p = q
            · rw [if_pos hpq, if_pos (by rw [hpq]; exact List.mem_cons_self)]
            · rw [if_neg hpq, if_neg (fun hcon => hpl ((List.mem_cons.mp hcon).resolve_left hpq))]
  obtain ⟨ez', hrun, hobjs⟩ := hgo ez.lstreams ez (fun p hp => (h.live p).mpr hp) h.nodup
  refine ⟨ez', hrun, fun p => ?_⟩
  rw [hobjs]
  by_cases hp : p ∈ ez.lstreams
  · rw [if_pos hp]
  · rw [if_neg hp, ← Option.not_isSome_iff_eq_none]
    exact fun hcon => hp ((h.live p).mp hcon)

/-! ## (5) What a client causes -/

/-- A callback that nghttp2 makes because of what the client sent. -/
inductive ClientAction where
  /-- The start of a HEADERS frame; `ptr` and `mem` are what the allocations return. -/
  | beginHeaders (streamId : ℤ) (ptr : ℕ) (mem : ℕ → UInt8)
  /-- A header field of a HEADERS frame is decoded. -/
  | header (frame : FrameHd) (name value : Bytes)
  /-- A frame is complete; nghttp2 has checked its header. -/
  | frameRecv (frame : FrameHd)
  /-- A chunk of the payload of a DATA frame. -/
  | dataChunk (streamId : ℤ) (data : Bytes)
  /-- A stream is closed, and nghttp2 forgets it behind the callback. -/
  | streamClose (streamId : ℤ)

/-- A server and a session, with the stream objects begun and freed so far. -/
structure ClientState where
  /-- The server, as the callbacks left it. -/
  server : ServerShared
  /-- The session, as the callbacks left it. -/
  session : Session
  /-- The addresses of the objects begun. -/
  begun : List ℕ
  /-- The addresses of the objects freed. -/
  freed : List ℕ

/-- When nghttp2 can make a callback: an allocation returns memory that is not in use, header fields
and complete HEADERS frames belong to open streams, and only an open stream is closed. -/
def ClientAction.Legal (st : ClientState) : ClientAction → Prop
  | .beginHeaders _ ptr _ => st.session.objs ptr = none
  | .header frame _ _ | .frameRecv frame =>
      frame.type = .headers → (st.session.ngsession.streams frame.streamId).isSome = true
  | .dataChunk _ _ => True
  | .streamClose streamId => (st.session.ngsession.streams streamId).isSome = true

instance (st : ClientState) : (a : ClientAction) → Decidable (a.Legal st)
  | .beginHeaders _ ptr _ => inferInstanceAs (Decidable (st.session.objs ptr = none))
  | .header frame _ _ | .frameRecv frame =>
      inferInstanceAs (Decidable (frame.type = .headers →
        (st.session.ngsession.streams frame.streamId).isSome = true))
  | .dataChunk _ _ => inferInstanceAs (Decidable True)
  | .streamClose streamId =>
      inferInstanceAs (Decidable ((st.session.ngsession.streams streamId).isSome = true))

/-- The callback that nghttp2 makes for an action. -/
def clientCallback (st : ClientState) : ClientAction → Option CallbackResult
  | .beginHeaders streamId ptr mem => some (beginHeaders st.server st.session streamId ptr mem)
  | .header frame name value => onHeaderCallback st.server st.session frame name value
  | .frameRecv frame => onFrameRecvCallback st.server st.session frame
  | .dataChunk streamId data => onDataChunkRecvCallback st.server st.session streamId data
  | .streamClose streamId => streamClose st.server st.session streamId

/-- The state behind a callback; a close frees the user data of its stream. -/
def ClientState.after (st : ClientState) (a : ClientAction) (r : CallbackResult) : ClientState where
  server := { st.server with events := r.events }
  session := r.session
  begun := match a with
    | .beginHeaders _ ptr _ => st.begun ++ [ptr]
    | _ => st.begun
  freed := match a with
    | .streamClose streamId => st.freed ++ (st.session.userData streamId).toList
    | _ => st.freed

/-- One action of the client, made on nghttp2's terms; `none` is an abort of the server too. -/
def clientStep (st : ClientState) (a : ClientAction) : Option ClientState :=
  if a.Legal st then (clientCallback st a).map (st.after a) else none

/-- A HEADERS frame starts on a stream that is open: these are trailers. -/
def ClientAction.Trailing (st : ClientState) : ClientAction → Prop
  | .beginHeaders streamId _ _ => (st.session.ngsession.streams streamId).isSome = true
  | .header _ _ _ | .frameRecv _ | .dataChunk _ _ | .streamClose _ => False

/-- **What every state is to be**: the registries agree; the objects begun are those freed and those
listed, each once; and `session_free` frees the rest. -/
structure ClientState.Ok (st : ClientState) : Prop where
  /-- The registries of streams, of nghttp2 and of the server, agree. -/
  registry : st.session.RegistryOk
  /-- Every object begun is freed once or still listed once. -/
  perm : st.begun.Perm (st.freed ++ st.session.lstreams)
  /-- The end of the session frees what is left. -/
  free : ∃ ez', sessionFreeStreams st.session = some ez' ∧ ∀ p, ez'.objs p = none

/-- **An action is harmless**: its callback does not abort, and it leaves a state that is in order. -/
def ClientAction.Harmless (st : ClientState) (a : ClientAction) : Prop :=
  a.Legal st → ∃ st', clientStep st a = some st' ∧ st'.Ok

theorem clientStep_of_legal {st : ClientState} {a : ClientAction} (h : a.Legal st) :
    clientStep st a = (clientCallback st a).map (st.after a) := if_pos h

/-- A callback that leaves the registry as it is. -/
theorem ClientState.Ok.of_same {st : ClientState} (h : st.Ok) {a : ClientAction}
    (hlegal : a.Legal st) {r : CallbackResult} (hcall : clientCallback st a = some r)
    (hsame : st.session.SameRegistry r.session) (hbegun : (st.after a r).begun = st.begun)
    (hfreed : (st.after a r).freed = st.freed) :
    ∃ st', clientStep st a = some st' ∧ st'.Ok := by
  have hreg := h.registry.of_same hsame
  refine ⟨_, by rw [clientStep_of_legal hlegal, hcall, Option.map_some], hreg, ?_,
    hreg.sessionFreeStreams⟩
  rw [hbegun, hfreed]
  show st.begun.Perm (st.freed ++ r.session.lstreams)
  rw [hsame.lstreams]
  exact h.perm

/-- **Every action but the start of trailers is harmless.** -/
theorem ClientState.Ok.harmless {st : ClientState} (h : st.Ok) {a : ClientAction}
    (hlegal : a.Legal st) (htrailing : ¬a.Trailing st) :
    ∃ st', clientStep st a = some st' ∧ st'.Ok := by
  cases a with
  | beginHeaders streamId ptr mem =>
      have hclosed : st.session.ngsession.streams streamId = none := by
        rw [← Option.not_isSome_iff_eq_none]
        exact htrailing
      have hreg := h.registry.beginHeaders st.server streamId mem hlegal hclosed
      refine ⟨_, by rw [clientStep_of_legal hlegal, clientCallback, Option.map_some], hreg, ?_,
        hreg.sessionFreeStreams⟩
      show (st.begun ++ [ptr]).Perm (st.freed ++ (st.session.lstreams ++ [ptr]))
      rw [← List.append_assoc]
      exact h.perm.append_right [ptr]
  | header frame name value =>
      obtain ⟨r, hcall, hsame⟩ := onHeaderCallback_same h.registry name value hlegal
      exact h.of_same hlegal hcall hsame rfl rfl
  | frameRecv frame =>
      obtain ⟨r, hcall, hsame⟩ := onFrameRecvCallback_same h.registry hlegal
      exact h.of_same hlegal hcall hsame rfl rfl
  | dataChunk streamId data =>
      obtain ⟨r, hcall, hsame⟩ := onDataChunkRecvCallback_same h.registry streamId data
      exact h.of_same hlegal hcall hsame rfl rfl
  | streamClose streamId =>
      obtain ⟨r, p, hcall, hreg, hptr, hperm⟩ := h.registry.streamClose st.server hlegal
      refine ⟨_, by rw [clientStep_of_legal hlegal, clientCallback, hcall, Option.map_some], hreg,
        ?_, hreg.sessionFreeStreams⟩
      show st.begun.Perm (st.freed ++ (st.session.userData streamId).toList ++ r.session.lstreams)
      rw [hptr, List.append_assoc]
      exact h.perm.trans (hperm.append_left st.freed)

/-- In a state that is in order an action is harmless exactly when it does not start trailers. -/
theorem ClientState.Ok.harmless_iff {st : ClientState} (h : st.Ok) (a : ClientAction) :
    a.Harmless st ↔ (a.Legal st → ¬a.Trailing st) := by
  refine forall_congr' fun hlegal => ⟨?_, fun htrailing => h.harmless hlegal htrailing⟩
  rintro ⟨st', hstep, hok⟩ htrailing
  cases a with
  | beginHeaders streamId ptr mem =>
      rw [clientStep_of_legal hlegal, clientCallback, Option.map_some] at hstep
      obtain rfl := Option.some.inj hstep
      exact h.registry.not_beginHeaders st.server streamId mem hlegal htrailing hok.registry
  | header _ _ _ | frameRecv _ | dataChunk _ _ | streamClose _ => exact htrailing

/-- **When the registry survives a client.** In every run of callbacks on a new session, all actions
are harmless exactly when none of them is the start of a HEADERS frame on an open stream. -/
theorem clientRun_registry_iff (server : ServerShared) (uuid : SessionUuid) (sockfd : ℤ)
    (acts : List ClientAction) :
    Along clientStep (fun st a => a.Harmless st) ⟨server, sessionNew uuid sockfd, [], []⟩ acts ↔
      Along clientStep (fun st a => a.Legal st → ¬a.Trailing st)
        ⟨server, sessionNew uuid sockfd, [], []⟩ acts := by
  have hnew : ClientState.Ok ⟨server, sessionNew uuid sockfd, [], []⟩ :=
    ⟨Session.registryOk_sessionNew uuid sockfd, List.Perm.refl _, _, rfl, fun _ => rfl⟩
  have hkeep : ∀ st a st', ClientState.Ok st → (a.Legal st → ¬a.Trailing st) →
      clientStep st a = some st' → st'.Ok := by
    intro st a st' hok htrailing hstep
    have hlegal : a.Legal st := by
      by_contra hcon
      rw [clientStep, if_neg hcon] at hstep
      cases hstep
    obtain ⟨st'', hstep', hok'⟩ := hok.harmless hlegal (htrailing hlegal)
    rw [hstep, Option.some.injEq] at hstep'
    rw [hstep']
    exact hok'
  exact along_iff hkeep (fun st a hok => hok.harmless_iff a) hnew acts

/-- A request with trailers: the stream has two entries then, and the assertion of the close fails. -/
theorem clientRun_not_harmless :
    let st : ClientState :=
      ⟨⟨100, pathTableNew ⟨10, by decide⟩, eventsNew⟩, sessionNew ⟨7, 2⟩ 5, [], []⟩
    let trailers : List ClientAction :=
      [.beginHeaders 1 16 (fun _ => 0), .beginHeaders 1 32 (fun _ => 0)]
    ¬Along clientStep (fun st a => a.Harmless st) st (trailers ++ [.streamClose 1]) ∧
      (run clientStep st trailers).map (fun st => streamClose st.server st.session 1)
        = some none := by
  constructor
  · rintro ⟨-, h⟩
    obtain ⟨h, -⟩ := h _ rfl
    obtain ⟨st', hstep, hok⟩ := h rfl
    obtain rfl := Option.some.inj hstep
    obtain ⟨p, -, hentries⟩ := hok.registry.opened 1 rfl
    cases hentries
  · rfl

/-! ## (6) What a callback does -/

/-- **What a callback does** to the server and the session, by the action it is made for. -/
inductive CallbackEffect (server : ServerShared) (ez : Session) :
    ClientAction → CallbackResult → Prop
  /-- A HEADERS frame begins a new object. -/
  | begins (streamId : ℤ) (ptr : ℕ) (mem : ℕ → UInt8) : CallbackEffect server ez
      (.beginHeaders streamId ptr mem) (beginHeaders server ez streamId ptr mem)
  /-- A header field of another frame is none of a request. -/
  | skipsHeader {frame : FrameHd} {name value : Bytes} (htype : frame.type ≠ .headers) :
      CallbackEffect server ez (.header frame name value) ⟨0, server.events, ez⟩
  /-- A stream with too many header fields refuses one more. -/
  | refusesHeader {frame : FrameHd} {name value : Bytes} {ptr : ℕ} {s : Stream}
      (htype : frame.type = .headers) (hptr : ez.userData frame.streamId = some ptr)
      (hobj : ez.objs ptr = some s) (hmax : s.nbHeaders + 1 > configStreamMaxHeaders) :
      CallbackEffect server ez (.header frame name value) ⟨1, server.events, ez⟩
  /-- A header field is stored in the stream and applied to it. -/
  | storesHeader {frame : FrameHd} {name value : Bytes} {ptr : ℕ} {s : Stream}
      (htype : frame.type = .headers) (hptr : ez.userData frame.streamId = some ptr)
      (hobj : ez.objs ptr = some s) (hroom : ¬s.nbHeaders + 1 > configStreamMaxHeaders) :
      CallbackEffect server ez (.header frame name value) ⟨0, server.events, ez.setObj ptr
        (some ((s.pushHeader name value).applyHeader server.table name value))⟩
  /-- A frame is answered by frames; a DATA frame only where its stream has no path. -/
  | answers {frame : FrameHd} (subs : List Submission)
      (hdata : frame.type = .data →
        ((ez.userData frame.streamId).bind ez.objs).bind Stream.path = none) :
      CallbackEffect server ez (.frameRecv frame) ⟨0, server.events, ez.submitAll subs⟩
  /-- A DATA frame of a stream with a path is parsed. -/
  | parses {frame : FrameHd} {ptr path : ℕ} {s : Stream} (htype : frame.type = .data)
      (hptr : ez.userData frame.streamId = some ptr) (hobj : ez.objs ptr = some s)
      (hpath : s.path = some path) :
      CallbackEffect server ez (.frameRecv frame)
        ⟨0, eventsWriteAll server.events
            ((s.frameEvents frame.streamId frame.endStream).map fun kind =>
              ⟨ez.sessionUuid, some (server.table.userdataAt path), kind⟩),
          ez.setObj ptr (some s.afterFrame)⟩
  /-- A chunk for a stream without an object is dropped. -/
  | skipsChunk {streamId : ℤ} {data : Bytes} (hptr : ez.userData streamId = none) :
      CallbackEffect server ez (.dataChunk streamId data) ⟨0, server.events, ez⟩
  /-- A chunk is too long for the window. -/
  | refusesChunk {streamId : ℤ} {data : Bytes} {ptr : ℕ} {s : Stream}
      (hptr : ez.userData streamId = some ptr) (hobj : ez.objs ptr = some s)
      (hover : s.recvLen + data.length > server.initialWindowSize) :
      CallbackEffect server ez (.dataChunk streamId data)
        ⟨1, server.events, ez.submitAll [.rstStream streamId 1]⟩
  /-- A chunk is stored behind what is in the receive buffer. -/
  | storesChunk {streamId : ℤ} {data : Bytes} {ptr : ℕ} {s : Stream}
      (hptr : ez.userData streamId = some ptr) (hobj : ez.objs ptr = some s)
      (hroom : ¬s.recvLen + data.length > server.initialWindowSize) :
      CallbackEffect server ez (.dataChunk streamId data)
        ⟨0, server.events, ez.setObj ptr (some (s.pushChunk data))⟩
  /-- The object of a stream is freed, and the stream is closed. -/
  | closes {streamId : ℤ} {ptr : ℕ} {l : List ℕ} (hptr : ez.userData streamId = some ptr) :
      CallbackEffect server ez (.streamClose streamId)
        ⟨0, server.events,
          { ({ ez with lstreams := l } : Session).setObj ptr none with
            ngsession := ez.ngsession.closeStream streamId }⟩

section CallbackEffect

variable {server : ServerShared} {ez : Session} {r : CallbackResult}

theorem onHeaderCallback_effect {frame : FrameHd} {name value : Bytes}
    (h : onHeaderCallback server ez frame name value = some r) :
    CallbackEffect server ez (.header frame name value) r := by
  by_cases htype : frame.type = .headers
  · obtain ⟨ptr, s, hptr, hobj⟩ := onHeaderCallback_obj htype h
    rw [onHeaderCallback_eq htype hptr hobj, Option.some.injEq] at h
    subst h
    by_cases hmax : s.nbHeaders + 1 > configStreamMaxHeaders
    · rw [if_pos hmax]
      exact .refusesHeader htype hptr hobj hmax
    · rw [if_neg hmax]
      exact .storesHeader htype hptr hobj hmax
  · rw [onHeaderCallback, if_pos htype] at h
    cases h
    exact .skipsHeader htype

theorem onFrameRecvHeaders_effect {frame : FrameHd} (htype : frame.type = .headers)
    (h : onFrameRecvHeaders server ez frame = some r) :
    CallbackEffect server ez (.frameRecv frame) r := by
  obtain ⟨ptr, s, hptr, hobj⟩ := onFrameRecvHeaders_obj h
  obtain ⟨subs, heq⟩ := @onFrameRecvHeaders_eq server ez ptr s frame hptr hobj
  rw [heq] at h
  cases h
  refine .answers subs fun hdata => ?_
  rw [htype] at hdata
  cases hdata

theorem onFrameRecvData_effect {frame : FrameHd} (htype : frame.type = .data)
    (h : onFrameRecvData server ez frame = some r) :
    CallbackEffect server ez (.frameRecv frame) r := by
  cases hptr : ez.userData frame.streamId with
  | none =>
      rw [onFrameRecvData, hptr] at h
      cases h
      refine .answers [_] fun _ => ?_
      rw [hptr]
      rfl
  | some ptr =>
      obtain ⟨s, hobj⟩ := onFrameRecvData_obj hptr h
      cases hpath : s.path with
      | none =>
          rw [onFrameRecvData, hptr] at h
          simp only [hobj, hpath, Option.bind_eq_bind, Option.bind_some] at h
          cases h
          refine .answers [] fun _ => ?_
          rw [hptr, Option.bind_some, hobj, Option.bind_some, hpath]
      | some path =>
          rw [onFrameRecvData_eq hptr hobj hpath] at h
          cases h
          exact .parses htype hptr hobj hpath

theorem onDataChunkRecvCallback_effect {streamId : ℤ} {data : Bytes}
    (h : onDataChunkRecvCallback server ez streamId data = some r) :
    CallbackEffect server ez (.dataChunk streamId data) r := by
  rw [onDataChunkRecvCallback] at h
  cases hptr : ez.userData streamId with
  | none =>
      simp only [hptr] at h
      cases h
      exact .skipsChunk hptr
  | some ptr =>
      simp only [hptr] at h
      obtain ⟨s, hobj, h⟩ := Option.bind_eq_some_iff.mp h
      by_cases hover : s.recvLen + data.length > server.initialWindowSize
      · rw [if_pos hover] at h
        cases h
        exact .refusesChunk hptr hobj hover
      · rw [if_neg hover] at h
        cases h
        exact .storesChunk hptr hobj hover

/-- **A callback that does not abort has one of these effects.** -/
theorem clientCallback_effect {st : ClientState} {a : ClientAction}
    (h : clientCallback st a = some r) : CallbackEffect st.server st.session a r := by
  cases a with
  | beginHeaders streamId ptr mem =>
      cases h
      exact .begins streamId ptr mem
  | header frame name value => exact onHeaderCallback_effect h
  | frameRecv frame =>
      rw [clientCallback, onFrameRecvCallback] at h
      cases htype : frame.type with
      | data =>
          simp only [htype] at h
          exact onFrameRecvData_effect htype h
      | headers =>
          simp only [htype] at h
          exact onFrameRecvHeaders_effect htype h
      | settings =>
          obtain ⟨subs, heq⟩ := onFrameRecvSettings_eq st.server st.session frame
          simp only [htype, heq] at h
          cases h
          exact .answers subs fun hdata => FrameType.noConfusion (htype.symm.trans hdata)
      | windowUpdate | other =>
          simp only [htype] at h
          cases h
          exact .answers [] fun hdata => FrameType.noConfusion (htype.symm.trans hdata)
  | dataChunk streamId data => exact onDataChunkRecvCallback_effect h
  | streamClose streamId =>
      obtain ⟨p, l, hp, rfl⟩ := streamClose_eq_some h
      exact .closes hp

end CallbackEffect

end Ezgrpc2
