import Ezgrpc2.Callbacks
import Ezgrpc2.Lib.Runs

/-! # Receiving a request body

What the DATA callbacks do to one stream. The parser is re-run on the left-over of the previous
frames with the new bytes behind it, which is feeding the reader `headerReader` chunk by chunk; so
`Framing.Reader.feed_flatten` says that the way a body is cut does not matter
(`recvRun_cut_independent`). A chunk that does not find room in the receive buffer is refused and the
stream is reset, so that no frame of it is reported any more; for a body that fits, the conditions of
the three places that write an event make one terminal event, the last one (`recvRun_terminal`). -/

namespace Ezgrpc2

open FlatMemory Framing StepRuns

/-! ## (1) The receive buffer -/

/-- The frames the parser finds in the receive buffer. -/
def Stream.frames (s : Stream) : List Frame := (headerReader.parse s.recvBytes).1

/-- The bytes the parser leaves in the receive buffer. -/
def Stream.left (s : Stream) : Bytes := (headerReader.parse s.recvBytes).2

@[simp] theorem Stream.length_recvBytes (s : Stream) : s.recvBytes.length = s.recvLen :=
  length_slice _ _ _

/-- The left-over of the parser is what lies behind the headers it read. -/
theorem headerReader_parse_snd (w : Bytes) :
    (headerReader.parse w).2 = w.drop (5 * (headerReader.parse w).1.length) ∧
      5 * (headerReader.parse w).1.length ≤ w.length := by
  induction w using headerReader.parse_induction with
  | stop w hnone =>
      rw [headerReader.parse_of_none hnone]
      exact ⟨rfl, Nat.zero_le _⟩
  | frame w f k hsome ih =>
      have hk : k = 5 := by
        have hread := headerReader_read w
        rw [hsome] at hread
        obtain ⟨p, -, hp⟩ := Option.map_eq_some_iff.mp hread.symm
        exact (Prod.mk.inj hp).2.symm
      have hle := (headerReader.step_pos hsome).2
      obtain ⟨ih₁, ih₂⟩ := ih
      subst hk
      rw [headerReader.parse_of_some hsome]
      rw [List.length_drop] at ih₂
      refine ⟨?_, ?_⟩
      · show (headerReader.parse (w.drop 5)).2 = _
        rw [ih₁, List.drop_drop, List.length_cons]
        congr 1
        omega
      · rw [List.length_cons]
        omega

/-- A parse that finds nothing leaves everything. -/
theorem Stream.left_of_frames {s : Stream} (h : s.frames = []) : s.left = s.recvBytes := by
  have hleft := (headerReader_parse_snd s.recvBytes).1
  rw [show (headerReader.parse s.recvBytes).1 = [] from h, List.length_nil, Nat.mul_zero,
    List.drop_zero] at hleft
  exact hleft

/-- A chunk goes behind what is in the buffer. -/
@[simp] theorem Stream.recvBytes_pushChunk (s : Stream) (data : Bytes) :
    (s.pushChunk data).recvBytes = s.recvBytes ++ data :=
  slice_write_append s.recvData s.recvLen data

/-- Compaction drops bytes from the front of the buffer. -/
theorem Stream.recvBytes_compact {s : Stream} {lseek : ℕ} (h : lseek ≤ s.recvLen) :
    (s.compact lseek).recvBytes = s.recvBytes.drop lseek := by
  have hself := slice_write_self s.recvData 0 (slice s.recvData lseek (s.recvLen - lseek))
  rw [length_slice] at hself
  show slice (write _ 0 _) 0 (s.recvLen - lseek) = _
  rw [hself, Stream.recvBytes, drop_slice _ _ _ _ h, Nat.zero_add]

/-- The stream behind a DATA frame: the headers that were parsed are gone from the buffer. -/
def Stream.afterFrame (s : Stream) : Stream :=
  if s.frames = [] then s else s.compact (5 * s.frames.length)

/-- **Behind a DATA frame the buffer holds the left-over of the parse.** -/
@[simp] theorem Stream.recvBytes_afterFrame (s : Stream) : s.afterFrame.recvBytes = s.left := by
  obtain ⟨hleft, hle⟩ := headerReader_parse_snd s.recvBytes
  rw [Stream.length_recvBytes] at hle
  rw [Stream.left, hleft, Stream.afterFrame]
  by_cases h : s.frames = []
  · have hnil : (headerReader.parse s.recvBytes).1 = [] := h
    rw [if_pos h, hnil, List.length_nil, Nat.mul_zero, List.drop_zero]
  · rw [if_neg h]
    exact Stream.recvBytes_compact hle

/-- The end of a DATA frame changes nothing of its stream but the receive buffer. -/
theorem Stream.afterFrame_eq (s : Stream) :
    ∃ recvLen recvData, s.afterFrame = { s with recvLen := recvLen, recvData := recvData } := by
  rw [Stream.afterFrame]
  split
  · exact ⟨s.recvLen, s.recvData, rfl⟩
  · exact ⟨_, _, rfl⟩

@[simp] theorem Stream.path_pushChunk (s : Stream) (data : Bytes) :
    (s.pushChunk data).path = s.path := rfl

@[simp] theorem Stream.streamId_pushChunk (s : Stream) (data : Bytes) :
    (s.pushChunk data).streamId = s.streamId := rfl

@[simp] theorem Stream.path_afterFrame (s : Stream) : s.afterFrame.path = s.path := by
  obtain ⟨_, _, h⟩ := s.afterFrame_eq
  rw [h]

@[simp] theorem Stream.streamId_afterFrame (s : Stream) : s.afterFrame.streamId = s.streamId := by
  obtain ⟨_, _, h⟩ := s.afterFrame_eq
  rw [h]

theorem Stream.recvLen_eq_zero {s : Stream} : s.recvLen = 0 ↔ s.recvBytes = [] := by
  rw [← List.length_eq_zero_iff, Stream.length_recvBytes]

/-- The buffer behind a DATA frame is empty exactly when the parse left nothing. -/
theorem Stream.recvLen_afterFrame {s : Stream} : s.afterFrame.recvLen = 0 ↔ s.left = [] := by
  rw [Stream.recvLen_eq_zero, Stream.recvBytes_afterFrame]

/-! ## (2) The events of a DATA frame -/

/-- The MESSAGE event of a DATA frame, when messages were complete. -/
def Stream.messageEvents (s : Stream) (streamId : ℤ) (endStream : Bool) : List EventKind :=
  if s.frames = [] then []
  else [.message (s.frames.map Frame.message) streamId (endStream && s.left == [])]

/-- **The events a DATA frame writes**, as the code's conditions select them: the empty final
message, or the messages that were complete, and the loss of what is left at the end. -/
def Stream.frameEvents (s : Stream) (streamId : ℤ) (endStream : Bool) : List EventKind :=
  if endStream = true ∧ s.recvLen = 0 then [.message [] streamId true]
  else
    s.messageEvents streamId endStream ++
      (if endStream = true ∧ s.left ≠ [] then [.dataloss s.streamId] else [])

/-- Writes events to the queue, one after the other. -/
def eventsWriteAll (events : Events) (es : List Event) : Events := es.foldl eventsWrite events

@[simp] theorem unread_eventsWriteAll (events : Events) (es : List Event) :
    (eventsWriteAll events es).unread = events.unread ++ es := by
  induction es generalizing events with
  | nil => exact (List.append_nil _).symm
  | cons e es ih =>
      show (eventsWriteAll (eventsWrite events e) es).unread = _
      rw [ih, unread_eventsWrite, List.append_assoc, List.cons_append, List.nil_append]

/-- **`on_frame_recv_data` on a stream with a path**: it fails no assertion, returns 0, writes the
events above and leaves the left-over of the parse. -/
theorem onFrameRecvData_eq {server : ServerShared} {ez : Session} {frame : FrameHd} {ptr : ℕ}
    {s : Stream} {path : ℕ} (hptr : ez.userData frame.streamId = some ptr)
    (hobj : ez.objs ptr = some s) (hpath : s.path = some path) :
    onFrameRecvData server ez frame = some
      { ret := 0
        events := eventsWriteAll server.events
          ((s.frameEvents frame.streamId frame.endStream).map fun kind =>
            ⟨ez.sessionUuid, some (server.table.userdataAt path), kind⟩)
        session := ez.setObj ptr (some s.afterFrame) } := by
  obtain ⟨hret, hmsgs⟩ := parseGrpcMessage_eq s.recvData s.recvLen s.frames rfl
  have hle : 5 * s.frames.length ≤ s.recvLen := by
    rw [← Stream.length_recvBytes]
    exact (headerReader_parse_snd s.recvBytes).2
  rw [onFrameRecvData, hptr]
  simp only [hobj, hpath, Option.bind_eq_bind, Option.bind_some]
  by_cases hend : frame.endStream = true ∧ s.recvLen = 0
  · -- the body is complete and nothing is buffered
    have hnil : s.frames = [] := by
      have hbytes := Stream.recvLen_eq_zero.mp hend.2
      have hread : headerReader.read s.recvBytes = none := by
        rw [hbytes]
        rfl
      rw [Stream.frames, headerReader.parse_of_none hread]
    rw [if_pos (by rw [hend.1, hend.2]; rfl), Stream.frameEvents, if_pos hend, Stream.afterFrame,
      if_pos hnil, Session.setObj_self hobj]
    rfl
  · rw [if_neg (by
      rw [Bool.and_eq_true, beq_iff_eq]
      exact hend), Stream.frameEvents, if_neg hend, hret]
    by_cases hnil : s.frames = []
    · -- nothing was parsed: the buffer stays as it is
      have hleft := Stream.left_of_frames hnil
      rw [hnil, List.length_nil, if_neg (by decide), Stream.messageEvents, if_pos hnil,
        Stream.afterFrame, if_pos hnil,
        List.nil_append, hleft]
      by_cases hloss : frame.endStream = true ∧ s.recvBytes ≠ []
      · have hlen : s.recvLen ≠ 0 := fun h => hloss.2 (Stream.recvLen_eq_zero.mp h)
        rw [if_pos hloss, if_pos (by rw [hloss.1]; simpa using hlen)]
        rfl
      · rw [if_neg hloss, if_neg (by
          rw [Bool.and_eq_true, bne_iff_ne, Ne, Stream.recvLen_eq_zero]
          exact hloss)]
        rfl
    · -- messages were parsed: the buffer is compacted
      have hpos : 5 * s.frames.length ≠ 0 := by
        have hlen := List.length_pos_iff.mpr hnil
        omega
      have hcompact : s.afterFrame = s.compact (5 * s.frames.length) := by
        rw [Stream.afterFrame, if_neg hnil]
      have hzero : (s.afterFrame.recvLen == 0) = (s.left == []) := by
        rw [Bool.eq_iff_iff, beq_iff_eq, beq_iff_eq, Stream.recvLen_afterFrame]
      rw [if_pos hpos, if_neg (not_not.mpr hle), Stream.messageEvents, if_neg hnil, hmsgs hnil,
        ← hcompact]
      simp only [Option.bind_some, hzero]
      by_cases hloss : frame.endStream = true ∧ s.left ≠ []
      · have hlen : s.afterFrame.recvLen ≠ 0 := fun h => hloss.2 (Stream.recvLen_afterFrame.mp h)
        rw [if_pos hloss, if_pos (by rw [hloss.1]; simpa using hlen), Stream.streamId_afterFrame]
        rfl
      · rw [if_neg hloss, if_neg (by
          rw [Bool.and_eq_true, bne_iff_ne, Ne, Stream.recvLen_afterFrame]
          exact hloss)]
        rfl

/-! ## (3) Runs of DATA frames -/

/-- A DATA frame: the chunks its payload is delivered in, its flags and its length. -/
structure DataFrame where
  /-- The chunks handed to `on_data_chunk_recv_callback`, in order. -/
  chunks : List Bytes
  /-- The flags of the frame, END_STREAM among them. -/
  flags : UInt8
  /-- The length that the frame header gives. -/
  length : ℕ

/-- The header of the frame on a stream. -/
def DataFrame.hd (f : DataFrame) (streamId : ℤ) : FrameHd := ⟨streamId, .data, f.flags, f.length⟩

/-- Whether the frame ends the body: it carries END_STREAM. -/
def DataFrame.endStream (f : DataFrame) : Bool := (f.hd 0).endStream

/-- A server and a session that receive the frames of one stream. A callback that does not return 0
has refused a chunk and submitted RST_STREAM: `refused` says that nghttp2 is resetting the stream. -/
structure RecvState where
  /-- The server as the callbacks see it, with the event queue they write to. -/
  server : ServerShared
  /-- The session the stream belongs to. -/
  session : Session
  /-- Some callback did not return 0, so the stream is being reset. -/
  refused : Bool

/-- The state a callback leaves, with the value it returns added to `refused`. -/
def RecvState.after (st : RecvState) (r : CallbackResult) : RecvState where
  server := { st.server with events := r.events }
  session := r.session
  refused := st.refused || r.ret != 0

/-- A chunk arrives, and nghttp2 calls `on_data_chunk_recv_callback`. -/
def recvChunk (streamId : ℤ) (st : RecvState) (data : Bytes) : Option RecvState :=
  (onDataChunkRecvCallback st.server st.session streamId data).map st.after

/-- A DATA frame arrives: its chunks first, then the frame. nghttp2 ignores a frame that begins while
its stream is being reset, and does not report the frame one of whose chunks was refused; the other
chunks of that frame still reach the callback. -/
def recvDataFrame (streamId : ℤ) (st : RecvState) (f : DataFrame) : Option RecvState :=
  if st.refused then some st
  else
    (run (recvChunk streamId) st f.chunks).bind fun st =>
      if st.refused then some st
      else (onFrameRecvCallback st.server st.session (f.hd streamId)).map st.after

/-- **The stream `streamId` is open** at `ptr`, with the path in the slot `path`. -/
structure RecvState.Has (st : RecvState) (streamId : ℤ) (ptr path : ℕ) (s : Stream) : Prop where
  /-- The user data of the stream is its address. -/
  userData : st.session.userData streamId = some ptr
  /-- The object is there, as the callbacks left it. -/
  obj : st.session.objs ptr = some s
  /-- The object was begun for this stream. -/
  streamId_eq : s.streamId = streamId
  /-- The `:path` of the stream was resolved to this slot. -/
  path_eq : s.path = some path

/-- The event of a kind that a stream of the session writes. -/
def RecvState.event (st : RecvState) (path : ℕ) (kind : EventKind) : Event :=
  ⟨st.session.sessionUuid, some (st.server.table.userdataAt path), kind⟩

/-- RST_STREAM was submitted for the stream if one of its chunks was refused. -/
def RecvState.ResetSubmitted (st : RecvState) (streamId : ℤ) : Prop :=
  st.refused = true → .rstStream streamId 1 ∈ st.session.ngsession.submitted

/-- **What part of a run does**: from `st` it leads to `st'`, where the stream is `s'`, and it writes
events of the kinds `es`. -/
structure RecvState.Leads (st st' : RecvState) (streamId : ℤ) (ptr path : ℕ) (s' : Stream)
    (es : List EventKind) : Prop where
  /-- The object and the path of the stream are where they were. -/
  has : st'.Has streamId ptr path s'
  /-- The limit of the receive buffer stays. -/
  initialWindowSize : st'.server.initialWindowSize = st.server.initialWindowSize
  /-- The events of the stream carry the handle and userdata that they carried before. -/
  event : st'.event path = st.event path
  /-- The events are written behind the ones before. -/
  unread : st'.server.events.unread = st.server.events.unread ++ es.map (st.event path)
  /-- A refused chunk is not forgotten. -/
  refused : st'.refused = false → st.refused = false
  /-- A stream that is refused has its RST_STREAM submitted, if it had so before. -/
  reset : st.ResetSubmitted streamId → st'.ResetSubmitted streamId

/-- A part of a run that does nothing. -/
theorem RecvState.Has.leads {st : RecvState} {streamId : ℤ} {ptr path : ℕ} {s : Stream}
    (h : st.Has streamId ptr path s) : st.Leads st streamId ptr path s [] where
  has := h
  initialWindowSize := rfl
  event := rfl
  unread := (List.append_nil _).symm
  refused := id
  reset := id

theorem RecvState.Leads.trans {st st₁ st₂ : RecvState} {streamId : ℤ} {ptr path : ℕ}
    {s₁ s₂ : Stream} {es₁ es₂ : List EventKind} (h₁ : st.Leads st₁ streamId ptr path s₁ es₁)
    (h₂ : st₁.Leads st₂ streamId ptr path s₂ es₂) :
    st.Leads st₂ streamId ptr path s₂ (es₁ ++ es₂) where
  has := h₂.has
  initialWindowSize := h₂.initialWindowSize.trans h₁.initialWindowSize
  event := h₂.event.trans h₁.event
  unread := by rw [h₂.unread, h₁.unread, h₁.event, List.map_append, List.append_assoc]
  refused h := h₁.refused (h₂.refused h)
  reset h := h₂.reset (h₁.reset h)

/-- The stream with a chunk taken in, unless the limit refuses it. -/
def Stream.acceptChunk (window : ℕ) (s : Stream) (data : Bytes) : Stream :=
  if s.recvLen + data.length > window then s else s.pushChunk data

/-- The stream with a list of chunks taken in. -/
def Stream.acceptChunks (window : ℕ) (s : Stream) (chunks : List Bytes) : Stream :=
  chunks.foldl (Stream.acceptChunk window) s

/-- Each of the chunks finds room in the receive buffer, behind the `recvLen` bytes there and the
chunks in front of it. -/
def ChunksFit (window : ℕ) : ℕ → List Bytes → Prop
  | _, [] => True
  | recvLen, data :: chunks =>
      recvLen + data.length ≤ window ∧ ChunksFit window (recvLen + data.length) chunks

instance ChunksFit.decidable (window : ℕ) :
    (recvLen : ℕ) → (chunks : List Bytes) → Decidable (ChunksFit window recvLen chunks)
  | _, [] => isTrue trivial
  | recvLen, data :: chunks =>
      have := ChunksFit.decidable window (recvLen + data.length) chunks
      inferInstanceAs (Decidable (_ ∧ _))

/-- **A chunk**: the callback returns, and it returns 0 exactly when the chunk finds room; then the
chunk is in the buffer. -/
theorem recvChunk_spec {st : RecvState} {streamId : ℤ} {ptr path : ℕ} {s : Stream}
    (h : st.Has streamId ptr path s) (data : Bytes) :
    ∃ st', recvChunk streamId st data = some st' ∧
      st.Leads st' streamId ptr path (s.acceptChunk st.server.initialWindowSize data) [] ∧
      (st'.refused = false ↔
        st.refused = false ∧ s.recvLen + data.length ≤ st.server.initialWindowSize) ∧
      (st'.refused = false →
        (s.acceptChunk st.server.initialWindowSize data).recvBytes = s.recvBytes ++ data) := by
  rw [recvChunk, onDataChunkRecvCallback, h.userData]
  simp only [h.obj, Option.bind_eq_bind, Option.bind_some, Stream.acceptChunk]
  by_cases hover : s.recvLen + data.length > st.server.initialWindowSize
  · rw [if_pos hover, if_pos hover]
    -- the callback returns 1, behind the RST_STREAM it submits
    have hrefused : (st.refused || (1 : ℕ) != 0) = true := Bool.or_true _
    refine ⟨_, rfl, ⟨⟨h.userData, h.obj, h.streamId_eq, h.path_eq⟩, rfl, rfl, ?_, ?_, ?_⟩, ?_, ?_⟩
    · exact (List.append_nil _).symm
    · intro hcon
      exact (Bool.or_eq_false_iff.mp hcon).1
    · intro _ _
      exact List.mem_append_right _ (List.mem_singleton.mpr rfl)
    · refine iff_of_false ?_ fun hcon => absurd hcon.2 (Nat.not_le.mpr hover)
      intro hcon
      exact Bool.noConfusion (hcon.symm.trans hrefused)
    · intro hcon
      exact Bool.noConfusion (hcon.symm.trans hrefused)
  · rw [if_neg hover, if_neg hover]
    have hrefused : (st.refused || (0 : ℕ) != 0) = st.refused := Bool.or_false _
    refine ⟨_, rfl, ⟨⟨h.userData, ?_, h.streamId_eq, h.path_eq⟩, rfl, rfl, ?_, ?_, ?_⟩, ?_, ?_⟩
    · exact st.session.setObj_objs_self ptr _
    · exact (List.append_nil _).symm
    · intro hcon
      exact (Bool.or_eq_false_iff.mp hcon).1
    · intro hreset hcon
      exact hreset (hrefused.symm.trans hcon)
    · show (st.refused || (0 : ℕ) != 0) = false ↔ _
      rw [hrefused]
      exact (and_iff_left (Nat.not_lt.mp hover)).symm
    · intro _
      exact s.recvBytes_pushChunk data

/-- The chunks of a frame: none is refused exactly when they fit, and then all are in the buffer. -/
theorem recvChunks_spec {st : RecvState} {streamId : ℤ} {ptr path : ℕ} {s : Stream}
    (h : st.Has streamId ptr path s) (chunks : List Bytes) :
    ∃ st', run (recvChunk streamId) st chunks = some st' ∧
      st.Leads st' streamId ptr path (s.acceptChunks st.server.initialWindowSize chunks) [] ∧
      (st'.refused = false ↔
        st.refused = false ∧ ChunksFit st.server.initialWindowSize s.recvLen chunks) ∧
      (st'.refused = false →
        (s.acceptChunks st.server.initialWindowSize chunks).recvBytes
          = s.recvBytes ++ chunks.flatten) := by
  induction chunks generalizing st s with
  | nil =>
      refine ⟨st, rfl, h.leads, (and_iff_left trivial).symm, fun _ => ?_⟩
      rw [List.flatten_nil, List.append_nil]
      rfl
  | cons data chunks ih =>
      obtain ⟨st₁, hstep, hleads₁, hfit₁, hbytes₁⟩ := recvChunk_spec h data
      obtain ⟨st', hrun, hleads', hfit', hbytes'⟩ := ih hleads₁.has
      rw [hleads₁.initialWindowSize] at hleads' hfit' hbytes'
      have hlen : st₁.refused = false →
          (s.acceptChunk st.server.initialWindowSize data).recvLen = s.recvLen + data.length := by
        intro hr
        rw [← Stream.length_recvBytes, hbytes₁ hr, List.length_append, Stream.length_recvBytes]
      refine ⟨st', ?_, hleads₁.trans hleads', ?_, fun hr => ?_⟩
      · rw [run_cons, hstep, Option.bind_some, hrun]
      · rw [hfit', ChunksFit]
        constructor
        · rintro ⟨hr, hfits⟩
          rw [hlen hr] at hfits
          exact ⟨(hfit₁.mp hr).1, (hfit₁.mp hr).2, hfits⟩
        · rintro ⟨hopen, hroom, hfits⟩
          have hr := hfit₁.mpr ⟨hopen, hroom⟩
          rw [hlen hr]
          exact ⟨hr, hfits⟩
      · have htail := hbytes' hr
        rw [hbytes₁ (hleads'.refused hr)] at htail
        rw [List.flatten_cons, ← List.append_assoc]
        exact htail

/-- **A DATA frame whose chunks fit**: nothing fails, and the events are those of the stream with the
chunks in. -/
theorem recvDataFrame_spec {st : RecvState} {streamId : ℤ} {ptr path : ℕ} {s : Stream}
    (h : st.Has streamId ptr path s) (hopen : st.refused = false) {f : DataFrame}
    (hfit : ChunksFit st.server.initialWindowSize s.recvLen f.chunks) :
    ∃ st', recvDataFrame streamId st f = some st' ∧
      st.Leads st' streamId ptr path
        (s.acceptChunks st.server.initialWindowSize f.chunks).afterFrame
        ((s.acceptChunks st.server.initialWindowSize f.chunks).frameEvents streamId f.endStream) ∧
      st'.refused = false ∧
      (s.acceptChunks st.server.initialWindowSize f.chunks).recvBytes
        = s.recvBytes ++ f.chunks.flatten := by
  obtain ⟨st₁, hrun, hleads₁, hfits, hbytes⟩ := recvChunks_spec h f.chunks
  have hopen₁ := hfits.mpr ⟨hopen, hfit⟩
  generalize s.acceptChunks st.server.initialWindowSize f.chunks = s₁ at *
  -- the chunks are in the buffer, and the stream still has its path
  have hdata : onFrameRecvCallback st₁.server st₁.session (f.hd streamId) = _ :=
    onFrameRecvData_eq hleads₁.has.userData hleads₁.has.obj hleads₁.has.path_eq
  rw [recvDataFrame, hopen, if_neg Bool.false_ne_true, hrun, Option.bind_some, hopen₁,
    if_neg Bool.false_ne_true, hdata, Option.map_some]
  have hrefused : (st₁.refused || (0 : ℕ) != 0) = false := by
    rw [hopen₁]
    rfl
  have hframe : st₁.Leads (st₁.after
      { ret := 0
        events := eventsWriteAll st₁.server.events
          ((s₁.frameEvents streamId f.endStream).map (st₁.event path))
        session := st₁.session.setObj ptr (some s₁.afterFrame) })
      streamId ptr path s₁.afterFrame (s₁.frameEvents streamId f.endStream) := by
    refine ⟨⟨hleads₁.has.userData, ?_, ?_, ?_⟩, rfl, rfl, ?_, fun _ => hopen₁, ?_⟩
    · exact st₁.session.setObj_objs_self ptr _
    · rw [Stream.streamId_afterFrame, hleads₁.has.streamId_eq]
    · rw [Stream.path_afterFrame, hleads₁.has.path_eq]
    · exact unread_eventsWriteAll _ _
    · intro _ hcon
      exact Bool.noConfusion (hrefused.symm.trans hcon)
  exact ⟨_, rfl, hleads₁.trans hframe, hrefused, hbytes hopen₁⟩

/-- **A DATA frame that is not reported**: on a stream that is being reset, or with a chunk that is
refused, a frame writes no event. -/
theorem recvDataFrame_of_not_fit {st : RecvState} {streamId : ℤ} {ptr path : ℕ} {s : Stream}
    (h : st.Has streamId ptr path s) {f : DataFrame}
    (hnot : ¬(st.refused = false ∧ ChunksFit st.server.initialWindowSize s.recvLen f.chunks)) :
    ∃ st' s', recvDataFrame streamId st f = some st' ∧ st.Leads st' streamId ptr path s' [] ∧
      st'.refused = true := by
  rw [recvDataFrame]
  cases hopen : st.refused with
  | true =>
      rw [if_pos rfl]
      exact ⟨st, s, rfl, h.leads, hopen⟩
  | false =>
      obtain ⟨st₁, hrun, hleads₁, hfits, -⟩ := recvChunks_spec h f.chunks
      have hrefused : st₁.refused = true := by
        rw [← Bool.not_eq_false, hfits]
        exact hnot
      rw [if_neg Bool.false_ne_true, hrun, Option.bind_some, hrefused, if_pos rfl]
      exact ⟨st₁, _, rfl, hleads₁, hrefused⟩

/-! ## (4) The terminal event -/

/-- An event after which the application forgets the stream. -/
def EventKind.Terminal : EventKind → Prop
  | .message _ _ endStream => endStream = true
  | .dataloss _ => True
  | .connect | .disconnect | .cancel _ => False

/-- A MESSAGE event in the middle of a body: not the last one, and with a message in it. -/
def EventKind.Midway : EventKind → Prop
  | .message messages _ endStream => endStream = false ∧ messages ≠ []
  | .connect | .disconnect | .cancel _ | .dataloss _ => False

theorem EventKind.Midway.not_terminal {k : EventKind} (h : k.Midway) : ¬k.Terminal := by
  cases k with
  | message messages streamId endStream =>
      intro hterm
      rw [EventKind.Terminal, h.1] at hterm
      cases hterm
  | connect | disconnect | cancel _ | dataloss _ => exact h.elim

/-- A MESSAGE event that is not the last one is in the middle of the body. -/
theorem Stream.messageEvents_midway {s : Stream} {streamId : ℤ} {endStream : Bool} {k : EventKind}
    (hend : (endStream && s.left == []) = false) (h : k ∈ s.messageEvents streamId endStream) :
    k.Midway := by
  rw [Stream.messageEvents, hend] at h
  by_cases hnil : s.frames = []
  · rw [if_pos hnil] at h
    cases h
  · rw [if_neg hnil, List.mem_singleton] at h
    subst h
    exact ⟨rfl, fun hmap => hnil (List.map_eq_nil_iff.mp hmap)⟩

/-- An event of a DATA frame is about the stream of the frame, or the one the object was begun for. -/
theorem Stream.streamId?_of_mem_frameEvents {s : Stream} {streamId : ℤ} {endStream : Bool}
    {k : EventKind} (h : k ∈ s.frameEvents streamId endStream) :
    k.streamId? = some streamId ∨ k.streamId? = some s.streamId := by
  rw [Stream.frameEvents] at h
  by_cases hempty : endStream = true ∧ s.recvLen = 0
  · rw [if_pos hempty, List.mem_singleton] at h
    rw [h]
    exact Or.inl rfl
  · rw [if_neg hempty] at h
    rcases List.mem_append.mp h with h | h
    · rw [Stream.messageEvents] at h
      by_cases hnil : s.frames = []
      · rw [if_pos hnil] at h
        cases h
      · rw [if_neg hnil, List.mem_singleton] at h
        rw [h]
        exact Or.inl rfl
    · by_cases hloss : endStream = true ∧ s.left ≠ []
      · rw [if_pos hloss, List.mem_singleton] at h
        rw [h]
        exact Or.inr rfl
      · rw [if_neg hloss] at h
        cases h

/-- An event of a DATA frame is a MESSAGE or a DATALOSS. -/
theorem Stream.ofFrame_of_mem_frameEvents {s : Stream} {streamId : ℤ} {endStream : Bool}
    {k : EventKind} (h : k ∈ s.frameEvents streamId endStream) : k.ofFrame = true := by
  unfold Stream.frameEvents Stream.messageEvents at h
  split at h
  · rw [List.mem_singleton.mp h]
    rfl
  · rcases List.mem_append.mp h with h | h
    all_goals
      split at h
      all_goals
        simp only [List.mem_singleton, List.not_mem_nil] at h
        try (rw [h]; rfl)

/-- Every event of a DATA frame is about the stream of the frame. -/
theorem Stream.streamId_of_mem_frameEvents {s : Stream} {streamId : ℤ} {endStream : Bool}
    {k : EventKind} (hid : s.streamId = streamId) (h : k ∈ s.frameEvents streamId endStream) :
    k.streamId? = some streamId := by
  rcases Stream.streamId?_of_mem_frameEvents h with hk | hk
  · exact hk
  · rw [hk, hid]

/-- In the middle of a body a frame writes its messages only. -/
theorem Stream.frameEvents_false (s : Stream) (streamId : ℤ) :
    s.frameEvents streamId false = s.messageEvents streamId false := by
  have hfalse : ∀ p : Prop, ¬(false = true ∧ p) := fun p hcon => Bool.noConfusion hcon.1
  rw [Stream.frameEvents, if_neg (hfalse _), if_neg (hfalse _), List.append_nil]

/-- **The end of a body** writes one terminal event, the last one; it is DATALOSS exactly when the
parse leaves bytes. The three places that write an event are told apart by what is buffered before
and after the parse. -/
theorem Stream.frameEvents_terminal (s : Stream) (streamId : ℤ) :
    ∃ es t, s.frameEvents streamId true = es ++ [t] ∧ (∀ k ∈ es, k.Midway) ∧ t.Terminal ∧
      (t = .dataloss s.streamId ↔ s.left ≠ []) := by
  have hnone : ∀ k ∈ ([] : List EventKind), k.Midway := by
    intro k hk
    cases hk
  by_cases hempty : s.recvLen = 0
  · -- an empty buffer: the empty final message
    have hread : headerReader.read [] = none := rfl
    have hleft : s.left = [] := by
      rw [Stream.left, Stream.recvLen_eq_zero.mp hempty, headerReader.parse_of_none hread]
    rw [Stream.frameEvents, if_pos ⟨rfl, hempty⟩, hleft]
    exact ⟨[], .message [] streamId true, rfl, hnone, rfl, by simp⟩
  · rw [Stream.frameEvents, if_neg (fun hcon => hempty hcon.2)]
    by_cases hleft : s.left = []
    · -- everything was parsed: the messages are the final ones
      have hnil : s.frames ≠ [] := by
        intro hnil
        rw [Stream.left_of_frames hnil] at hleft
        exact hempty (Stream.recvLen_eq_zero.mpr hleft)
      rw [Stream.messageEvents, if_neg hnil, if_neg (fun hcon => hcon.2 hleft), hleft]
      exact ⟨[], .message (s.frames.map Frame.message) streamId true, rfl, hnone, rfl, by simp⟩
    · -- bytes are left: they are lost
      have hmid : (true && s.left == []) = false := by simpa using hleft
      rw [if_pos ⟨rfl, hleft⟩]
      exact ⟨s.messageEvents streamId true, .dataloss s.streamId, rfl,
        fun k hk => Stream.messageEvents_midway hmid hk, trivial, fun _ => hleft, fun _ => rfl⟩

/-- The messages that an event carries, if it is a MESSAGE. -/
def EventKind.messages : EventKind → List Message
  | .message messages _ _ => messages
  | .connect | .disconnect | .cancel _ | .dataloss _ => []

/-- A DATA frame reports the frames the parser finds. -/
theorem Stream.messages_frameEvents (s : Stream) (streamId : ℤ) (endStream : Bool) :
    (s.frameEvents streamId endStream).flatMap EventKind.messages
      = s.frames.map Frame.message := by
  rw [Stream.frameEvents]
  by_cases hempty : endStream = true ∧ s.recvLen = 0
  · have hread : headerReader.read [] = none := rfl
    have hnil : s.frames = [] := by
      rw [Stream.frames, Stream.recvLen_eq_zero.mp hempty.2, headerReader.parse_of_none hread]
    rw [if_pos hempty, hnil]
    rfl
  · have hloss : ∀ p : Prop, [Decidable p] →
        (if p then [EventKind.dataloss s.streamId] else []).flatMap EventKind.messages = [] := by
      intro p _
      by_cases hp : p
      · rw [if_pos hp]
        rfl
      · rw [if_neg hp]
        rfl
    rw [if_neg hempty, List.flatMap_append, hloss, List.append_nil, Stream.messageEvents]
    by_cases hnil : s.frames = []
    · rw [if_pos hnil, hnil]
      rfl
    · rw [if_neg hnil]
      exact List.append_nil _

/-- **No chunk of the frames is refused**, when `w` is buffered in front of them: the chunks of a frame
find room behind what the parser left of the frames before. -/
def BodyFits (window : ℕ) : Bytes → List DataFrame → Prop
  | _, [] => True
  | w, f :: fs =>
      ChunksFit window w.length f.chunks ∧
        BodyFits window (headerReader.parse (w ++ f.chunks.flatten)).2 fs

instance BodyFits.decidable (window : ℕ) :
    (w : Bytes) → (fs : List DataFrame) → Decidable (BodyFits window w fs)
  | _, [] => isTrue trivial
  | w, f :: fs =>
      have := BodyFits.decidable window (headerReader.parse (w ++ f.chunks.flatten)).2 fs
      inferInstanceAs (Decidable (_ ∧ _))

/-- The frames behind others find room behind what the reader keeps of those. -/
theorem bodyFits_append {window : ℕ} {w : Bytes} (fs gs : List DataFrame) :
    BodyFits window w (fs ++ gs) ↔ BodyFits window w fs ∧
      BodyFits window (headerReader.feed w (fs.map fun f => f.chunks.flatten)).2 gs := by
  induction fs generalizing w with
  | nil => exact (and_iff_right trivial).symm
  | cons f fs ih =>
      rw [List.cons_append, BodyFits, BodyFits, ih, and_assoc, List.map_cons, Reader.feed]

/-- **A run of DATA frames**: nothing fails; frames without END_STREAM write nothing terminal; no chunk
is refused exactly when the body fits, and then the messages reported are those of the reader that
is fed frame by frame, and its left-over is in the buffer. -/
theorem recvRun_spec {st : RecvState} {streamId : ℤ} {ptr path : ℕ} {s : Stream}
    (h : st.Has streamId ptr path s) (fs : List DataFrame) :
    ∃ st' s' es, run (recvDataFrame streamId) st fs = some st' ∧
      st.Leads st' streamId ptr path s' es ∧ (∀ k ∈ es, k.streamId? = some streamId) ∧
      ((∀ f ∈ fs, f.endStream = false) → ∀ k ∈ es, k.Midway) ∧
      (st'.refused = false ↔
        st.refused = false ∧ BodyFits st.server.initialWindowSize s.recvBytes fs) ∧
      (st'.refused = false →
        es.flatMap EventKind.messages
            = (headerReader.feed s.recvBytes
                (fs.map fun f => f.chunks.flatten)).1.map Frame.message ∧
          s'.recvBytes
            = (headerReader.feed s.recvBytes (fs.map fun f => f.chunks.flatten)).2) := by
  induction fs generalizing st s with
  | nil =>
      have hnone : ∀ k ∈ ([] : List EventKind), k.streamId? = some streamId ∧ k.Midway := by
        intro k hk
        cases hk
      exact ⟨st, s, [], rfl, h.leads, fun k hk => (hnone k hk).1, fun _ k hk => (hnone k hk).2,
        (and_iff_left trivial).symm, fun _ => ⟨rfl, rfl⟩⟩
  | cons f fs ih =>
      rw [BodyFits, Stream.length_recvBytes]
      by_cases hfit : st.refused = false ∧
          ChunksFit st.server.initialWindowSize s.recvLen f.chunks
      · obtain ⟨st₁, hstep, hleads₁, hopen₁, hbytes⟩ := recvDataFrame_spec h hfit.1 hfit.2
        have hid := hleads₁.has.streamId_eq
        rw [Stream.streamId_afterFrame] at hid
        obtain ⟨st', s', es, hrun, hleads', hids, hmid, hfits, hfed⟩ := ih hleads₁.has
        generalize s.acceptChunks st.server.initialWindowSize f.chunks = s₁ at *
        -- one frame is one step of the reader, which starts from the left-over of the frames before
        rw [Stream.recvBytes_afterFrame, Stream.left, hbytes] at hfits hfed
        refine ⟨st', s', _, ?_, hleads₁.trans hleads', ?_, ?_, ?_, ?_⟩
        · rw [run_cons, hstep, Option.bind_some, hrun]
        · intro k hk
          rcases List.mem_append.mp hk with hk | hk
          · exact Stream.streamId_of_mem_frameEvents hid hk
          · exact hids k hk
        · intro hfs k hk
          rcases List.mem_append.mp hk with hk | hk
          · rw [hfs f List.mem_cons_self, Stream.frameEvents_false] at hk
            exact Stream.messageEvents_midway rfl hk
          · exact hmid (fun g hg => hfs g (List.mem_cons_of_mem f hg)) k hk
        · rw [hfits, hleads₁.initialWindowSize, ← and_assoc, and_iff_right hfit, and_iff_right hopen₁]
        · intro hr
          obtain ⟨hmsgs, hleft⟩ := hfed hr
          rw [List.flatMap_append, Stream.messages_frameEvents, hmsgs, Stream.frames, hbytes,
            List.map_cons, Reader.feed, List.map_append]
          exact ⟨rfl, hleft⟩
      · -- the stream is being reset behind this frame, and the frames that follow are ignored
        obtain ⟨st₁, s₁, hstep, hleads₁, hrefused⟩ := recvDataFrame_of_not_fit h hfit
        obtain ⟨st', s', es, hrun, hleads', hids, hmid, -, -⟩ := ih hleads₁.has
        have hrefused' : ¬st'.refused = false := by
          intro hr
          exact Bool.noConfusion ((hleads'.refused hr).symm.trans hrefused)
        refine ⟨st', s', _, ?_, hleads₁.trans hleads', hids, ?_, ?_, fun hr => absurd hr hrefused'⟩
        · rw [run_cons, hstep, Option.bind_some, hrun]
        · exact fun hfs => hmid fun g hg => hfs g (List.mem_cons_of_mem f hg)
        · exact iff_of_false hrefused' fun hcon => hfit ⟨hcon.1, hcon.2.1⟩

/-- A session with one stream, on the path in slot 0. -/
def recvStateOne : RecvState where
  server := ⟨100, pathTableTen, eventsNew⟩
  session :=
    { ngsession := ⟨fun id => if id = 1 then some (some 16) else none, [], fun _ => none⟩
      sessionUuid := ⟨7, 2⟩
      sockfd := 5
      lstreams := [16]
      objs := fun p => if p = 16 then some { streamNew 1 with path := some 0 } else none }
  refused := false

theorem recvStateOne_has :
    recvStateOne.Has 1 16 0 { streamNew 1 with path := some 0 } :=
  ⟨rfl, rfl, rfl, rfl⟩

/-- **A way to cut a body** into DATA frames and chunks: the last frame, and only this one, carries
END_STREAM. -/
structure Cuts (body : Bytes) (fs : List DataFrame) : Prop where
  /-- The chunks make up the body. -/
  flatten : (fs.map fun f => f.chunks.flatten).flatten = body
  /-- The last frame ends the stream. -/
  endStream : ∃ init last, fs = init ++ [last] ∧ (∀ f ∈ init, f.endStream = false) ∧
    last.endStream = true

/-- The messages of the MESSAGE events of a stream. -/
def streamMessages (uuid : SessionUuid) (streamId : ℤ) (es : List Event) : List Message :=
  (es.filter fun e => e.BelongsTo uuid streamId).flatMap fun e => e.kind.messages

/-- The events end with the DATALOSS of a stream. -/
def EndsWithDataloss (uuid : SessionUuid) (streamId : ℤ) (es : List Event) : Prop :=
  ∃ e, es.getLast? = some e ∧ e.BelongsTo uuid streamId ∧ e.kind = .dataloss streamId

/-- **What a body is received as** depends on its bytes only: the messages are those of the frames
`headerReader` finds in it, and DATALOSS says that it leaves something. -/
theorem recvRun_cuts {st : RecvState} {streamId : ℤ} {ptr path : ℕ} {s : Stream}
    (h : st.Has streamId ptr path s) (hlen : s.recvLen = 0) {body : Bytes} {fs : List DataFrame}
    (hcuts : Cuts body fs) :
    ∃ st' es, run (recvDataFrame streamId) st fs = some st' ∧
      st'.server.events.unread = st.server.events.unread ++ es ∧
      (st'.refused = false →
        streamMessages st.session.sessionUuid streamId es
            = (headerReader.parse body).1.map Frame.message ∧
          (EndsWithDataloss st.session.sessionUuid streamId es ↔
            (headerReader.parse body).2 ≠ [])) := by
  obtain ⟨init, last, rfl, hinit, hlast⟩ := hcuts.endStream
  obtain ⟨st', s', es, hrun, hleads, hids, -, -, hfed⟩ := recvRun_spec h (init ++ [last])
  refine ⟨st', _, hrun, hleads.unread, fun hr => ?_⟩
  obtain ⟨hmsgs, hleft⟩ := hfed hr
  -- feeding the chunks is one parse of the body
  have hread : headerReader.read s.recvBytes = none := by
    rw [Stream.recvLen_eq_zero.mp hlen]
    rfl
  rw [headerReader.feed_flatten _ hread, hcuts.flatten, Stream.recvLen_eq_zero.mp hlen,
    List.nil_append] at hmsgs hleft
  constructor
  · have hall : ∀ e ∈ es.map (st.event path),
        decide (e.BelongsTo st.session.sessionUuid streamId) = true := by
      intro e he
      obtain ⟨k, hk, rfl⟩ := List.mem_map.mp he
      exact decide_eq_true ⟨rfl, hids k hk⟩
    rw [streamMessages, List.filter_eq_self.mpr hall, List.flatMap_map, ← hmsgs]
    rfl
  · -- the last frame writes the terminal event
    obtain ⟨st₁, s₁, ks₁, hrun₁, hleads₁, -, -, -, -⟩ := recvRun_spec h init
    have hfit : st₁.refused = false ∧
        ChunksFit st₁.server.initialWindowSize s₁.recvLen last.chunks := by
      by_contra hnot
      obtain ⟨st₂, s₂, hstep, -, hrefused⟩ := recvDataFrame_of_not_fit hleads₁.has hnot
      rw [run_append, hrun₁, Option.bind_some, run_cons, hstep, Option.bind_some, run_nil,
        Option.some.injEq] at hrun
      rw [← hrun, hrefused] at hr
      cases hr
    obtain ⟨st₂, hstep, hleads₂, -, -⟩ := recvDataFrame_spec hleads₁.has hfit.1 hfit.2
    rw [run_append, hrun₁, Option.bind_some, run_cons, hstep, Option.bind_some, run_nil,
      Option.some.injEq] at hrun
    subst hrun
    rw [hlast] at hleads₂
    obtain ⟨ks₂, t, hsplit, -, -, hloss⟩ :=
      (s₁.acceptChunks st₁.server.initialWindowSize last.chunks).frameEvents_terminal streamId
    have hid := hleads₂.has.streamId_eq
    have hobj := hleads₂.has.obj
    rw [hleads.has.obj, Option.some.injEq] at hobj
    rw [hobj, Stream.recvBytes_afterFrame] at hleft
    rw [Stream.streamId_afterFrame] at hid
    rw [hid, hleft] at hloss
    have hes : es.map (st.event path) = (ks₁ ++ ks₂).map (st.event path) ++ [st.event path t] := by
      have hunread := (hleads₁.trans hleads₂).unread
      rw [hleads.unread, List.append_cancel_left_eq, hsplit] at hunread
      rw [hunread, ← List.append_assoc, List.map_append]
      rfl
    rw [EndsWithDataloss, hes, List.getLast?_concat, ← hloss]
    constructor
    · rintro ⟨e, he, -, hkind⟩
      obtain rfl := Option.some.inj he
      exact hkind
    · rintro rfl
      exact ⟨_, rfl, ⟨rfl, rfl⟩, rfl⟩

/-- **Cutting does not matter.** For a stream with a path on which nothing is buffered and any two
ways to cut a body, no callback fails an assertion in either run; and if no chunk is refused in
either, both report the same messages, and one ends with DATALOSS exactly when the other does. -/
theorem recvRun_cut_independent {st : RecvState} {streamId : ℤ} {ptr path : ℕ} {s : Stream}
    (h : st.Has streamId ptr path s) (hlen : s.recvLen = 0) {body : Bytes}
    {fs₁ fs₂ : List DataFrame} (h₁ : Cuts body fs₁) (h₂ : Cuts body fs₂) :
    ∃ st₁ st₂ es₁ es₂, run (recvDataFrame streamId) st fs₁ = some st₁ ∧
      run (recvDataFrame streamId) st fs₂ = some st₂ ∧
      st₁.server.events.unread = st.server.events.unread ++ es₁ ∧
      st₂.server.events.unread = st.server.events.unread ++ es₂ ∧
      (st₁.refused = false → st₂.refused = false →
        streamMessages st.session.sessionUuid streamId es₁
            = streamMessages st.session.sessionUuid streamId es₂ ∧
          (EndsWithDataloss st.session.sessionUuid streamId es₁ ↔
            EndsWithDataloss st.session.sessionUuid streamId es₂)) := by
  obtain ⟨st₁, es₁, hrun₁, hunread₁, hbody₁⟩ := recvRun_cuts h hlen h₁
  obtain ⟨st₂, es₂, hrun₂, hunread₂, hbody₂⟩ := recvRun_cuts h hlen h₂
  refine ⟨st₁, st₂, es₁, es₂, hrun₁, hrun₂, hunread₁, hunread₂, fun hr₁ hr₂ => ?_⟩
  obtain ⟨hmsgs₁, hloss₁⟩ := hbody₁ hr₁
  obtain ⟨hmsgs₂, hloss₂⟩ := hbody₂ hr₂
  exact ⟨hmsgs₁.trans hmsgs₂.symm, hloss₁.trans hloss₂.symm⟩

/-- Six bytes in one frame, and in three frames of which the last is empty. -/
theorem recvRun_cut_independent_six_bytes :
    ∃ st₁ st₂,
      run (recvDataFrame 1) recvStateOne [⟨[[0, 0, 0, 0, 0, 1]], 1, 6⟩] = some st₁ ∧
      run (recvDataFrame 1) recvStateOne
        [⟨[[0, 0]], 0, 2⟩, ⟨[[0, 0, 0], [1]], 0, 4⟩, ⟨[], 1, 0⟩] = some st₂ ∧
      streamMessages ⟨7, 2⟩ 1 st₁.server.events.unread
        = streamMessages ⟨7, 2⟩ 1 st₂.server.events.unread ∧
      (EndsWithDataloss ⟨7, 2⟩ 1 st₁.server.events.unread ↔
        EndsWithDataloss ⟨7, 2⟩ 1 st₂.server.events.unread) := by
  have h₁ : Cuts [0, 0, 0, 0, 0, 1] [⟨[[0, 0, 0, 0, 0, 1]], 1, 6⟩] :=
    ⟨by decide, [], _, rfl, by decide, by decide⟩
  have h₂ : Cuts [0, 0, 0, 0, 0, 1] [⟨[[0, 0]], 0, 2⟩, ⟨[[0, 0, 0], [1]], 0, 4⟩, ⟨[], 1, 0⟩] :=
    ⟨by decide, [⟨[[0, 0]], 0, 2⟩, ⟨[[0, 0, 0], [1]], 0, 4⟩], _, rfl, by decide, by decide⟩
  obtain ⟨st₁, st₂, es₁, es₂, hrun₁, hrun₂, hunread₁, hunread₂, hsame⟩ :=
    recvRun_cut_independent recvStateOne_has rfl h₁ h₂
  -- neither run comes near the limit of 100 bytes
  have hopen : ∀ {fs : List DataFrame} {st : RecvState}, BodyFits 100 [] fs →
      run (recvDataFrame 1) recvStateOne fs = some st → st.refused = false := by
    intro fs st hfits hrun
    obtain ⟨st', s', es, hrun', -, -, -, hiff, -⟩ := recvRun_spec recvStateOne_has fs
    obtain rfl := Option.some.inj (hrun.symm.trans hrun')
    exact hiff.mpr ⟨rfl, hfits⟩
  have hboth := hsame (hopen (by decide +kernel) hrun₁) (hopen (by decide +kernel) hrun₂)
  have hnew : recvStateOne.server.events.unread = [] := rfl
  rw [hnew, List.nil_append] at hunread₁ hunread₂
  refine ⟨st₁, st₂, hrun₁, hrun₂, ?_⟩
  rw [hunread₁, hunread₂]
  exact hboth

end Ezgrpc2
