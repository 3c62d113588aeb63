import Ezgrpc2.PathLookup
import Ezgrpc2.StreamPath

/-! # The headers of a request

`on_header_callback` reads the header fields of a request one by one and keeps four flags and a slot
of the path table; `on_frame_recv_headers` answers by these when the frame is complete. `Describes`
says what the flags are in terms of the fields: the last value of a field decides.
`requestRun_answers` is the answer to any list of fields, in terms of the slots of the table, and
`answerRun_fromAccepted` says that events come from streams that were answered with 200.

Which paths are registered is decided by the calls on the table, not by its slots: `tableStep` keeps
the two side by side, and `lookupStep` is a callback with the reads of its lookup. `headers_decide_iff` says for which tables a request is answered by what is
registered. -/

namespace Ezgrpc2

open CStrings StepRuns

/-! ## (1) The fields -/

/-- The last value of a header field. -/
def lastValue (name : Bytes) (fields : List (Bytes × Bytes)) : Option Bytes :=
  ((fields.filter fun f => f.1 = name).getLast?).map Prod.snd

theorem lastValue_concat (name : Bytes) (fields : List (Bytes × Bytes)) (f : Bytes × Bytes) :
    lastValue name (fields ++ [f]) = if f.1 = name then some f.2 else lastValue name fields := by
  rw [lastValue, List.filter_append]
  by_cases h : f.1 = name
  · simp [h]
  · simp [h, lastValue]

/-- **A request that is accepted**: the last `:method` is `POST`, the last `:scheme` is `http`, the last
`te` is `trailers` and the last `content-type` begins with `application/grpc`. -/
structure Accepted (fields : List (Bytes × Bytes)) : Prop where
  /-- The last `:method` is POST. -/
  method : lastValue (bytesOf ":method") fields = some (bytesOf "POST")
  /-- The last `:scheme` is http. -/
  scheme : lastValue (bytesOf ":scheme") fields = some (bytesOf "http")
  /-- The last `te` is trailers. -/
  te : lastValue (bytesOf "te") fields = some (bytesOf "trailers")
  /-- The last `content-type` begins with application/grpc. -/
  contentType : ∃ value, lastValue (bytesOf "content-type") fields = some value ∧
    bytesOf "application/grpc" <+: value

/-- No slot in use holds the `:path` of the request. -/
def Unserved (table : PathTable) (fields : List (Bytes × Bytes)) : Prop :=
  ∀ value, (bytesOf ":path", value) ∈ fields → ∀ i, i < table.nbPaths → table.pathAt i ≠ value

/-! ## (2) The flags -/

/-- The macro as a test for equality with a literal. -/
theorem ezstrcmp_eq_decide {literal : Bytes} (h : text literal = literal) (name : Bytes) :
    (!ezstrcmp literal name) = decide (name = literal) := by
  rw [Bool.eq_iff_iff, ezstrcmp_literal h, decide_eq_true_eq]

/-- The dispatch of `on_header_callback`, for its four flags. -/
theorem Stream.flags_applyHeader (s : Stream) (table : PathTable) (name value : Bytes) :
    (s.applyHeader table name value).isMethodPost
        = (if name = bytesOf ":method" then decide (value = bytesOf "POST") else s.isMethodPost) ∧
      (s.applyHeader table name value).isSchemeHttp
        = (if name = bytesOf ":scheme" then decide (value = bytesOf "http") else s.isSchemeHttp) ∧
      (s.applyHeader table name value).isTeTrailers
        = (if name = bytesOf "te" then decide (value = bytesOf "trailers") else s.isTeTrailers) ∧
      (s.applyHeader table name value).isContentGrpc
        = (if name = bytesOf "content-type" then
            value.length ≥ 16 && value.take 16 == bytesOf "application/grpc"
          else s.isContentGrpc) := by
  have hliterals : ∀ literal ∈ [":method", ":scheme", ":path", "content-type", "grpc-encoding",
      "grpc-accept-encoding", "grpc-timeout", "te", "POST", "http", "trailers"],
      text (bytesOf literal) = bytesOf literal := by
    decide
  simp only [List.forall_mem_cons] at hliterals
  obtain ⟨hmethod, hscheme, hpath, htype, hencoding, haccept, htimeout, hte, hpost, hhttp, htrailers, -⟩ :=
    hliterals
  simp only [Stream.applyHeader, ezstrcmp_eq_decide hmethod, ezstrcmp_eq_decide hscheme,
    ezstrcmp_eq_decide hpath, ezstrcmp_eq_decide htype, ezstrcmp_eq_decide hencoding,
    ezstrcmp_eq_decide haccept, ezstrcmp_eq_decide htimeout, ezstrcmp_eq_decide hte,
    ezstrcmp_eq_decide hpost, ezstrcmp_eq_decide hhttp, ezstrcmp_eq_decide htrailers,
    decide_eq_true_eq]
  -- a name that is one of the literals is none of the others
  by_cases hm : name = bytesOf ":method"
  · subst hm
    exact ⟨rfl, rfl, rfl, rfl⟩
  by_cases hs : name = bytesOf ":scheme"
  · subst hs
    exact ⟨rfl, rfl, rfl, rfl⟩
  by_cases hp : name = bytesOf ":path"
  · subst hp
    cases findPath table value with
    | none => exact ⟨rfl, rfl, rfl, rfl⟩
    | some i => exact ⟨rfl, rfl, rfl, rfl⟩
  by_cases hc : name = bytesOf "content-type"
  · subst hc
    exact ⟨rfl, rfl, rfl, rfl⟩
  by_cases ht : name = bytesOf "te"
  · subst ht
    exact ⟨rfl, rfl, rfl, rfl⟩
  simp only [if_neg hm, if_neg hs, if_neg hp, if_neg hc, if_neg ht]
  repeat' split
  all_goals exact ⟨rfl, rfl, rfl, rfl⟩

/-- The test of a content type asks whether it begins with application/grpc. -/
theorem contentType_iff (value : Bytes) :
    (value.length ≥ 16 && value.take 16 == bytesOf "application/grpc") = true ↔
      bytesOf "application/grpc" <+: value := by
  have hlen : (bytesOf "application/grpc").length = 16 := by decide
  rw [List.prefix_iff_eq_take, hlen, Bool.and_eq_true, decide_eq_true_eq, beq_iff_eq]
  constructor
  · rintro ⟨-, heq⟩
    exact heq.symm
  · intro heq
    refine ⟨?_, heq.symm⟩
    have htake := congrArg List.length heq
    rw [hlen, List.length_take] at htake
    omega

/-- **What a stream remembers of the fields it was given.** -/
structure Stream.Describes (s : Stream) (table : PathTable) (fields : List (Bytes × Bytes)) :
    Prop where
  /-- The stream has stored all fields, in order. -/
  headers : s.headers = fields
  /-- The flag for `:method` tells whether the last one is POST. -/
  method : s.isMethodPost = true ↔ lastValue (bytesOf ":method") fields = some (bytesOf "POST")
  /-- The flag for `:scheme` tells whether the last one is http. -/
  scheme : s.isSchemeHttp = true ↔ lastValue (bytesOf ":scheme") fields = some (bytesOf "http")
  /-- The flag for `te` tells whether the last one is trailers. -/
  te : s.isTeTrailers = true ↔ lastValue (bytesOf "te") fields = some (bytesOf "trailers")
  /-- The flag for `content-type` tells whether the last one begins with application/grpc. -/
  contentType : s.isContentGrpc = true ↔
    ∃ value, lastValue (bytesOf "content-type") fields = some value ∧
      bytesOf "application/grpc" <+: value
  /-- The stream points to no slot exactly when no slot holds its `:path`. -/
  path : s.path = none ↔ Unserved table fields

/-- A new stream was given no field. -/
theorem describes_streamBegun (table : PathTable) (streamId : ℤ) (mem : ℕ → UInt8) :
    (streamBegun streamId mem).Describes table [] where
  headers := rfl
  method := ⟨fun h => (nomatch h), fun h => (nomatch h)⟩
  scheme := ⟨fun h => (nomatch h), fun h => (nomatch h)⟩
  te := ⟨fun h => (nomatch h), fun h => (nomatch h)⟩
  contentType := ⟨fun h => (nomatch h), fun ⟨_, h, _⟩ => (nomatch h)⟩
  path := ⟨fun _ _ h => (nomatch h), fun _ => rfl⟩

/-- A flag that a field sets by a test is what the last field says. -/
theorem flag_concat {flag flag' test : Bool} {P : Bytes → Prop} {name : Bytes}
    {fields : List (Bytes × Bytes)} {f : Bytes × Bytes}
    (hflag' : flag' = if f.1 = name then test else flag) (htest : test = true ↔ P f.2)
    (hflag : flag = true ↔ ∃ value, lastValue name fields = some value ∧ P value) :
    flag' = true ↔ ∃ value, lastValue name (fields ++ [f]) = some value ∧ P value := by
  rw [hflag', lastValue_concat]
  by_cases h : f.1 = name
  · simp only [if_pos h, htest, Option.some.injEq, exists_eq_left']
  · rw [if_neg h, if_neg h]
    exact hflag

/-- **One more field** is described when the callback has applied it. -/
theorem Stream.Describes.applyHeader {s : Stream} {table : PathTable} {fields : List (Bytes × Bytes)}
    (h : s.Describes table fields) (f : Bytes × Bytes) :
    ((s.pushHeader f.1 f.2).applyHeader table f.1 f.2).Describes table (fields ++ [f]) := by
  obtain ⟨hmethod, hscheme, hte, htype⟩ := (s.pushHeader f.1 f.2).flags_applyHeader table f.1 f.2
  have hpath := (s.pushHeader f.1 f.2).path_applyHeader table f.1 f.2
  -- a value is compared with one that is fixed
  have hvalue : ∀ {flag : Bool} {name value : Bytes} {fields : List (Bytes × Bytes)},
      (flag = true ↔ lastValue name fields = some value) ↔
        (flag = true ↔ ∃ v, lastValue name fields = some v ∧ v = value) := by
    intro flag name value fields
    rw [exists_eq_right]
  constructor
  · have hheaders := ((s.pushHeader f.1 f.2).applyHeader_frame table f.1 f.2).1.2
    rw [hheaders, Stream.pushHeader, h.headers]
  · exact hvalue.mpr (flag_concat hmethod decide_eq_true_iff (hvalue.mp h.method))
  · exact hvalue.mpr (flag_concat hscheme decide_eq_true_iff (hvalue.mp h.scheme))
  · exact hvalue.mpr (flag_concat hte decide_eq_true_iff (hvalue.mp h.te))
  · exact flag_concat htype (contentType_iff f.2) h.contentType
  · rw [hpath]
    have hold : (s.pushHeader f.1 f.2).path = none ↔ Unserved table fields := h.path
    have hnew : Unserved table (fields ++ [f]) ↔ Unserved table fields ∧
        (f.1 = bytesOf ":path" → findPath table f.2 = none) := by
      rw [findPath_eq_none]
      constructor
      · intro hall
        refine ⟨fun value hmem => hall value (List.mem_append_left _ hmem), fun hname => hall f.2 ?_⟩
        rw [← hname]
        exact List.mem_append_right _ List.mem_cons_self
      · rintro ⟨hfields, hlast⟩ value hmem
        rcases List.mem_append.mp hmem with hmem | hmem
        · exact hfields value hmem
        · have heq := List.mem_singleton.mp hmem
          have hvalue : value = f.2 := congrArg Prod.snd heq
          rw [hvalue]
          exact hlast (congrArg Prod.fst heq).symm
    rw [hnew, ← hold]
    by_cases hname : f.1 = bytesOf ":path"
    · rw [if_pos hname, Option.or_eq_none_iff]
      exact ⟨fun hor => ⟨hor.2, fun _ => hor.1⟩, fun hand => ⟨hand.2 hname, hand.1⟩⟩
    · rw [if_neg hname]
      exact ⟨fun hnone => ⟨hnone, fun hcon => absurd hcon hname⟩, And.left⟩

/-! ## (3) The answer -/

/-- The response 200, which leaves the stream open. -/
def response200 (streamId : ℤ) : Submission := .headers streamId false
  [(bytesOf ":status", bytesOf "200"), (bytesOf "content-type", bytesOf "application/grpc")]

/-- The response 415, which ends the stream. -/
def response415 (streamId : ℤ) : Submission :=
  .headers streamId true [(bytesOf ":status", bytesOf "415")]

/-- The trailer that says that nobody serves the path. -/
def trailerUnimplemented (streamId : ℤ) : Submission :=
  .trailer streamId (statusTrailers grpcStatusUnimplemented)

/-- The reset of a stream by the server. -/
def resetStream (streamId : ℤ) : Submission := .rstStream streamId 1

/-- What `on_frame_recv_headers` submits at the end of a HEADERS frame. -/
def Stream.answer (s : Stream) (endStream : Bool) : List Submission :=
  if endStream then if s.isContentGrpc then [resetStream s.streamId] else [response415 s.streamId]
  else if s.isMethodPost && s.isSchemeHttp && s.isTeTrailers && s.isContentGrpc then
    response200 s.streamId :: if s.path = none then [trailerUnimplemented s.streamId] else []
  else [resetStream s.streamId]

/-- The start of a HEADERS frame submits nothing. -/
theorem submitted_beginHeaders (server : ServerShared) (ez : Session) (streamId : ℤ) (ptr : ℕ)
    (mem : ℕ → UInt8) : (beginHeaders server ez streamId ptr mem).session.ngsession.submitted
      = ez.ngsession.submitted := by
  show (Ngsession.setStreamUserData _ _ _).submitted = _
  unfold Ngsession.setStreamUserData Ngsession.beginHeaders Ngsession.openStream
  repeat' split
  all_goals rfl

section Answer

variable {server : ServerShared} {ez : Session} {frame : FrameHd} {ptr : ℕ} {s : Stream}

/-- **The end of a HEADERS frame** of a stream with an object. -/
theorem onFrameRecvHeaders_answer (hptr : ez.userData frame.streamId = some ptr)
    (hobj : ez.objs ptr = some s) (hid : s.streamId = frame.streamId)
    (hend : frame.endHeaders = true) :
    ∃ r, onFrameRecvHeaders server ez frame = some r ∧
      r.session.ngsession.submitted = ez.ngsession.submitted ++ s.answer frame.endStream := by
  unfold onFrameRecvHeaders Stream.answer
  simp only [hptr, hobj, Option.bind_eq_bind, Option.bind_some, hend, Bool.not_true, Bool.false_eq_true,
    if_false]
  rw [← hid]
  cases hstream : frame.endStream with
  | true =>
      cases htype : s.isContentGrpc with
      | true => exact ⟨_, rfl, rfl⟩
      | false => exact ⟨_, rfl, rfl⟩
  | false =>
      cases hflags : s.isMethodPost && s.isSchemeHttp && s.isTeTrailers && s.isContentGrpc with
      | false => exact ⟨_, rfl, rfl⟩
      | true =>
          cases hpath : s.path with
          | none => exact ⟨_, rfl, List.append_assoc _ _ _⟩
          | some slot => exact ⟨_, rfl, rfl⟩

/-- **What the answer says of the fields.** -/
theorem Stream.Describes.answer {table : PathTable} {fields : List (Bytes × Bytes)}
    (h : s.Describes table fields) :
    (Accepted fields → ∃ trailers, s.answer false = response200 s.streamId :: trailers ∧
      (trailers = [trailerUnimplemented s.streamId] ∨ trailers = []) ∧
        (trailers = [trailerUnimplemented s.streamId] ↔ Unserved table fields)) ∧
    (¬Accepted fields → s.answer false = [resetStream s.streamId]) ∧
      (s.answer true = [response415 s.streamId] ∨ s.answer true = [resetStream s.streamId]) := by
  -- the four flags are the four conditions, so the branch taken is decided by the fields
  have hflags : (s.isMethodPost && s.isSchemeHttp && s.isTeTrailers && s.isContentGrpc) = true ↔
      Accepted fields := by
    simp only [Bool.and_eq_true, h.method, h.scheme, h.te, h.contentType]
    exact ⟨fun ⟨⟨⟨h₁, h₂⟩, h₃⟩, h₄⟩ => ⟨h₁, h₂, h₃, h₄⟩,
      fun ⟨h₁, h₂, h₃, h₄⟩ => ⟨⟨⟨h₁, h₂⟩, h₃⟩, h₄⟩⟩
  refine ⟨fun hacc => ?_, fun hacc => ?_, ?_⟩
  · rw [Stream.answer, if_neg Bool.false_ne_true, if_pos (hflags.mpr hacc)]
    refine ⟨_, rfl, ?_, ?_⟩
    · by_cases hpath : s.path = none
      · exact Or.inl (if_pos hpath)
      · exact Or.inr (if_neg hpath)
    · rw [← h.path]
      by_cases hpath : s.path = none
      · rw [if_pos hpath]
        exact ⟨fun _ => hpath, fun _ => rfl⟩
      · rw [if_neg hpath]
        exact ⟨fun hcon => (nomatch hcon), fun hcon => absurd hcon hpath⟩
  · rw [Stream.answer, if_neg Bool.false_ne_true, if_neg fun hcon => hacc (hflags.mp hcon)]
  · rw [Stream.answer, if_pos rfl]
    by_cases htype : s.isContentGrpc = true
    · rw [if_pos htype]
      exact Or.inr rfl
    · rw [if_neg htype]
      exact Or.inl rfl

/-- The callbacks of a request: the start of the HEADERS frame, its fields and its end. -/
def requestActions (ptr : ℕ) (mem : ℕ → UInt8) (fields : List (Bytes × Bytes)) (frame : FrameHd) :
    List ClientAction :=
  .beginHeaders frame.streamId ptr mem ::
    ((fields.map fun f => .header frame f.1 f.2) ++ [.frameRecv frame])

/-- **The fields of a request**: as long as there is room for them they are all taken, and nothing else
changes. -/
theorem headersRun_describes (htype : frame.type = .headers) {done fields : List (Bytes × Bytes)}
    {st : ClientState} (hopen : (st.session.ngsession.streams frame.streamId).isSome = true)
    (hptr : st.session.userData frame.streamId = some ptr) (hobj : st.session.objs ptr = some s)
    (hs : s.Describes st.server.table done)
    (hlen : done.length + fields.length ≤ configStreamMaxHeaders) :
    ∃ st' s', run clientStep st (fields.map fun f => .header frame f.1 f.2) = some st' ∧
      st'.session.ngsession = st.session.ngsession ∧ st'.server.table = st.server.table ∧
      st'.session.objs ptr = some s' ∧ s'.streamId = s.streamId ∧
      s'.Describes st.server.table (done ++ fields) := by
  induction fields generalizing st s done with
  | nil => exact ⟨st, s, rfl, rfl, rfl, hobj, rfl, by rw [List.append_nil]; exact hs⟩
  | cons f fields ih =>
      -- the fields stored so far are counted, and there is room for the others
      have hroom : ¬s.nbHeaders + 1 > configStreamMaxHeaders := by
        rw [Stream.nbHeaders, hs.headers]
        rw [List.length_cons] at hlen
        omega
      let s₁ := (s.pushHeader f.1 f.2).applyHeader st.server.table f.1 f.2
      have hstep : clientStep st (.header frame f.1 f.2)
          = some { st with session := st.session.setObj ptr (some s₁) } := by
        have hlegal : (ClientAction.header frame f.1 f.2).Legal st := fun _ => hopen
        rw [clientStep_of_legal hlegal, clientCallback, onHeaderCallback_eq htype hptr hobj,
          if_neg hroom]
        rfl
      have hlen' : (done ++ [f]).length + fields.length ≤ configStreamMaxHeaders := by
        rw [List.length_append, List.length_singleton]
        rw [List.length_cons] at hlen
        omega
      obtain ⟨st', s', hrun, hng, htable, hobj', hid, hs'⟩ :=
        @ih s₁ (done ++ [f]) { st with session := st.session.setObj ptr (some s₁) } hopen hptr
          (st.session.setObj_objs_self ptr (some s₁)) (hs.applyHeader f) hlen'
      refine ⟨st', s', ?_, hng, htable, hobj', hid.trans (s.streamId_applyHeader _ _ _), ?_⟩
      · rw [List.map_cons, run_cons, hstep]
        exact hrun
      · rw [List.append_assoc] at hs'
        exact hs'

/-- **A request is answered** by what its fields say. -/
theorem requestRun_describes (server : ServerShared) {ez : Session} (mem : ℕ → UInt8)
    (hfree : ez.objs ptr = none) (htype : frame.type = .headers) (hend : frame.endHeaders = true)
    {fields : List (Bytes × Bytes)} (hlen : fields.length ≤ configStreamMaxHeaders) :
    ∃ (st' : ClientState) (s' : Stream),
      run clientStep ⟨server, ez, [], []⟩ (requestActions ptr mem fields frame) = some st' ∧
      s'.streamId = frame.streamId ∧ s'.Describes server.table fields ∧
      st'.session.ngsession.submitted = ez.ngsession.submitted ++ s'.answer frame.endStream := by
  let r₀ := beginHeaders server ez frame.streamId ptr mem
  let st₀ : ClientState := ⟨server, r₀.session, [ptr], []⟩
  have hbegin : clientStep ⟨server, ez, [], []⟩ (.beginHeaders frame.streamId ptr mem) = some st₀ := by
    have hlegal : (ClientAction.beginHeaders frame.streamId ptr mem).Legal ⟨server, ez, [], []⟩ := hfree
    rw [clientStep_of_legal hlegal]
    rfl
  have hopen₀ : st₀.session.ngsession.streams frame.streamId = some (some ptr) := by
    rw [streams_beginHeaders, if_pos rfl]
  have hptr₀ : st₀.session.userData frame.streamId = some ptr := by
    rw [userData_beginHeaders, if_pos rfl]
  have hobj₀ : st₀.session.objs ptr = some (streamBegun frame.streamId mem) := by
    rw [objs_beginHeaders, if_pos rfl]
  have hsubmitted₀ : st₀.session.ngsession.submitted = ez.ngsession.submitted :=
    submitted_beginHeaders server ez frame.streamId ptr mem
  have hroom : ([] : List (Bytes × Bytes)).length + fields.length ≤ configStreamMaxHeaders := by
    rw [List.length_nil, Nat.zero_add]
    exact hlen
  -- the fields are taken in order, from an object that describes none
  obtain ⟨st₁, s', hrun, hng, htable, hobj, hid, hs⟩ := headersRun_describes htype
    (by rw [hopen₀]; rfl) hptr₀ hobj₀ (describes_streamBegun server.table frame.streamId mem) hroom
  have hid' : s'.streamId = frame.streamId := hid
  have hptr : st₁.session.userData frame.streamId = some ptr := by
    rw [Session.userData, hng]
    exact hptr₀
  obtain ⟨r, hr, hsubmitted⟩ := @onFrameRecvHeaders_answer st₁.server _ _ _ _ hptr hobj hid' hend
  have hlegal : (ClientAction.frameRecv frame).Legal st₁ := by
    intro _
    rw [hng, hopen₀]
    rfl
  refine ⟨st₁.after (.frameRecv frame) r, s', ?_, hid', hs, ?_⟩
  · rw [requestActions, run_cons, hbegin, Option.bind_some, run_append, hrun, Option.bind_some,
      run_cons, clientStep_of_legal hlegal, clientCallback, onFrameRecvCallback, htype]
    simp only [hr, Option.map_some, Option.bind_some, run_nil]
  · show r.session.ngsession.submitted = _
    rw [hsubmitted, hng, hsubmitted₀]

end Answer

/-! ## (4) Events come from streams that were answered -/

/-- What was submitted stays submitted behind every callback. -/
theorem submitted_callback {server : ServerShared} {ez : Session} {r : CallbackResult}
    {a : ClientAction} (h : a.callback server ez = some r) :
    ez.ngsession.submitted <+: r.session.ngsession.submitted := by
  by_cases hcontinues : a.Continues
  · obtain ⟨subs, hng⟩ := (sendsSame_callback hcontinues h).ngsession
    rw [hng]
    exact List.prefix_append _ subs
  · cases a with
    | beginHeaders streamId ptr mem =>
        cases h
        exact (submitted_beginHeaders server ez streamId ptr mem).symm ▸ List.prefix_rfl
    | streamClose streamId =>
        obtain ⟨p, l, -, rfl⟩ := streamClose_eq_some h
        exact List.prefix_rfl
    | header _ _ _ | frameRecv _ | dataChunk _ _ => exact absurd trivial hcontinues

/-- The frame resets the stream `streamId`. -/
def Submission.Resets (streamId : ℤ) : Submission → Prop
  | .rstStream id _ => id = streamId
  | .headers _ _ _ | .trailer _ _ => False

instance (streamId : ℤ) : (s : Submission) → Decidable (s.Resets streamId)
  | .rstStream id _ => inferInstanceAs (Decidable (id = streamId))
  | .headers _ _ _ | .trailer _ _ => inferInstanceAs (Decidable False)

/-- The sessions with the streams whose HEADERS frame was reported without END_STREAM. -/
structure AnswerState where
  /-- The sessions of the server, with what they share. -/
  hub : Hub
  /-- Whether a stream had a HEADERS frame without END_STREAM, so that a body may follow. -/
  expectsBody : ℕ → ℤ → Bool

/-- What an action says of the body of its stream. -/
def ClientAction.expectsBody (before : Bool) : ClientAction → Bool
  | .beginHeaders _ _ _ | .streamClose _ => false
  | .frameRecv frame => if frame.type = .headers then !frame.endStream else before
  | .header _ _ _ | .dataChunk _ _ => before

/-- One action, with what it says about a body. -/
def answerStep (st : AnswerState) (act : HubAction) : Option AnswerState :=
  (hubAct st.hub act).map fun hub =>
    { hub := hub
      expectsBody := match act with
        | .client i a => fun j id =>
            if j = i ∧ id = a.streamId then a.expectsBody (st.expectsBody j id)
            else st.expectsBody j id
        | .pathCall _ => st.expectsBody }

/-- The sessions of a new server, which expect no bodies. -/
def answerStart (server : ServerShared) (handles : ℕ → SessionUuid) (sockfds : ℕ → ℤ) : AnswerState where
  hub := hubNewSessions server handles sockfds
  expectsBody := fun _ _ => false

namespace AnswerState

/-- The frames submitted for a session. -/
def submitted (st : AnswerState) (i : ℕ) : List Submission := (st.hub.sessions i).ngsession.submitted

/-- **What nghttp2 promises**: a HEADERS frame is reported with END_HEADERS, and a DATA frame only when
the HEADERS frame of its stream was reported without END_STREAM and no reset was submitted. -/
def Promised (st : AnswerState) : HubAction → Prop
  | .client i (.frameRecv frame) => (frame.type = .headers → frame.endHeaders = true) ∧
      (frame.type = .data → st.expectsBody i frame.streamId = true ∧
        ∀ sub ∈ st.submitted i, ¬sub.Resets frame.streamId)
  | .client _ (.beginHeaders _ _ _) | .client _ (.header _ _ _) | .client _ (.dataChunk _ _)
  | .client _ (.streamClose _) | .pathCall _ => True

instance (st : AnswerState) : (act : HubAction) → Decidable (st.Promised act)
  | .client i (.frameRecv frame) =>
      inferInstanceAs (Decidable ((frame.type = .headers → frame.endHeaders = true) ∧
        (frame.type = .data → st.expectsBody i frame.streamId = true ∧
          ∀ sub ∈ st.submitted i, ¬sub.Resets frame.streamId)))
  | .client _ (.beginHeaders _ _ _) | .client _ (.header _ _ _) | .client _ (.dataChunk _ _)
  | .client _ (.streamClose _) | .pathCall _ => inferInstanceAs (Decidable True)

/-- **Events come from streams that were accepted**: those with the response 200 and a slot of the path
table. -/
def FromAccepted (st : AnswerState) : HubAction → Prop
  | .client i a => ∀ r es, a.callback st.hub.server (st.hub.sessions i) = some r →
      r.events.unread = st.hub.server.events.unread ++ es →
      ∀ e ∈ es, ∀ id, e.kind.streamId? = some id →
        response200 id ∈ st.submitted i ∧ ∃ slot, (st.hub.sessions i).pathOf id = some slot
  | .pathCall _ => True

/-- **The invariant**: a stream that expects a body was answered. -/
structure Ok (st : AnswerState) : Prop where
  /-- The user data of each stream is its object. -/
  userData : ∀ i, (st.hub.sessions i).UserDataOk
  /-- A stream that expects a body was answered 200, or a reset was submitted for it. -/
  answered : ∀ i id, st.expectsBody i id = true →
    response200 id ∈ st.submitted i ∨ resetStream id ∈ st.submitted i

variable {st st' : AnswerState} {act : HubAction}

/-- What was submitted for a session stays submitted. -/
theorem submitted_step (h : answerStep st act = some st') (j : ℕ) :
    st.submitted j <+: st'.submitted j := by
  obtain ⟨hub, hhub, rfl⟩ := Option.map_eq_some_iff.mp h
  cases act with
  | pathCall call =>
      cases hhub
      exact List.prefix_rfl
  | client i a =>
      obtain ⟨-, r, hr, rfl⟩ := hubAct_client hhub
      rw [submitted, submitted]
      by_cases hj : j = i
      · rw [hj, Hub.sessions_after_self]
        exact submitted_callback hr
      · simp only [Hub.sessions_after_of_ne r hj, List.prefix_rfl]

/-- The answer to a HEADERS frame without END_STREAM is a response 200 or a reset. -/
theorem answered_headers (hok : st.Ok) {i : ℕ} {frame : FrameHd} (htype : frame.type = .headers)
    (hend : frame.endHeaders = true) (hstream : frame.endStream = false)
    (h : answerStep st (.client i (.frameRecv frame)) = some st') :
    response200 frame.streamId ∈ st'.submitted i ∨ resetStream frame.streamId ∈ st'.submitted i := by
  obtain ⟨hub, hhub, rfl⟩ := Option.map_eq_some_iff.mp h
  obtain ⟨-, r, hr, rfl⟩ := hubAct_client hhub
  rw [submitted, Hub.sessions_after_self]
  rw [ClientAction.callback, clientCallback, onFrameRecvCallback] at hr
  simp only [htype] at hr
  obtain ⟨ptr, s, hptr, hobj⟩ : ∃ ptr s, (st.hub.sessions i).userData frame.streamId = some ptr ∧
      (st.hub.sessions i).objs ptr = some s := by
    rw [onFrameRecvHeaders] at hr
    obtain ⟨ptr, hptr, hr⟩ := Option.bind_eq_some_iff.mp hr
    obtain ⟨s, hobj, -⟩ := Option.bind_eq_some_iff.mp hr
    exact ⟨ptr, s, hptr, hobj⟩
  obtain ⟨s', hs', hid⟩ := hok.userData i _ ptr hptr
  obtain rfl := Option.some.inj (hobj.symm.trans hs')
  obtain ⟨r', hr', hsubmitted⟩ := @onFrameRecvHeaders_answer st.hub.server _ _ _ _ hptr hobj hid hend
  obtain rfl := Option.some.inj (hr'.symm.trans hr)
  rw [hsubmitted, hstream, Stream.answer, hid, if_neg Bool.false_ne_true]
  split
  · exact Or.inl (List.mem_append_right _ List.mem_cons_self)
  · exact Or.inr (List.mem_append_right _ List.mem_cons_self)

/-- **Every action keeps the invariant**, if nghttp2 promises what it may assume. -/
theorem Ok.step (hok : st.Ok) (hpromised : st.Promised act) (h : answerStep st act = some st') :
    st'.Ok := by
  have hsubmitted := submitted_step h
  -- what was submitted stays submitted
  have hold : ∀ j id, st.expectsBody j id = true →
      response200 id ∈ st'.submitted j ∨ resetStream id ∈ st'.submitted j := by
    intro j id hbody
    exact (hok.answered j id hbody).imp (fun hmem => (hsubmitted j).subset hmem)
      fun hmem => (hsubmitted j).subset hmem
  obtain ⟨hub, hhub, hst'⟩ := Option.map_eq_some_iff.mp h
  have huserData : ∀ j, (st'.hub.sessions j).UserDataOk := by
    subst hst'
    exact fun j => (hubAct_userDataOk hok.userData hhub j).1
  refine ⟨huserData, fun j id hbody => ?_⟩
  cases act with
  | pathCall call =>
      subst hst'
      exact hold j id hbody
  | client i a =>
      -- only the action on the stream itself changes whether a body is expected
      have hexpects : st'.expectsBody j id = if j = i ∧ id = a.streamId then
          a.expectsBody (st.expectsBody j id) else st.expectsBody j id := by
        rw [← hst']
      rw [hexpects] at hbody
      split at hbody
      · next hown =>
          obtain ⟨rfl, rfl⟩ := hown
          cases a with
          | beginHeaders _ _ _ | streamClose _ => cases hbody
          | header _ _ _ | dataChunk _ _ => exact hold _ _ hbody
          | frameRecv frame =>
              rw [ClientAction.expectsBody] at hbody
              split at hbody
              · next htype =>
                  rw [Bool.not_eq_true'] at hbody
                  exact answered_headers hok htype (hpromised.1 htype) hbody h
              · exact hold _ _ hbody
      · exact hold _ _ hbody

/-- **Under the invariant events come from streams that were accepted.** -/
theorem Ok.fromAccepted (hok : st.Ok) (hpromised : st.Promised act) : st.FromAccepted act := by
  cases act with
  | pathCall call => trivial
  | client i a =>
      intro r es hr hunread e he id hid
      rw [unread_callback hr, List.append_cancel_left_eq] at hunread
      subst hunread
      obtain ⟨frame, slot, s, kind, rfl, htype, hpath, hsid, hkind, rfl⟩ :=
        of_mem_events (hok.userData i) he
      have hframe := Stream.streamId_of_mem_frameEvents hsid hkind
      obtain rfl : frame.streamId = id := Option.some.inj (hframe.symm.trans hid)
      obtain ⟨hbody, hreset⟩ := hpromised.2 htype
      refine ⟨?_, slot, hpath⟩
      rcases hok.answered i _ hbody with haccepted | hmem
      · exact haccepted
      · exact absurd rfl (hreset _ hmem)

end AnswerState

/-! ## (5) What a request is answered -/

/-- **What a request is answered**: 200 when it is accepted, with the trailer when its path is `unknown`;
a reset when it is not; and 415 or a reset when no body follows. -/
structure Answers (unknown : Prop) (fields : List (Bytes × Bytes)) (frame : FrameHd)
    (answer : List Submission) : Prop where
  /-- A request that is accepted, for a path that is known, is answered 200. -/
  accepted : frame.endStream = false → Accepted fields → ¬unknown →
    answer = [response200 frame.streamId]
  /-- For another path the trailer follows. -/
  unimplemented : frame.endStream = false → Accepted fields → unknown →
    answer = [response200 frame.streamId, trailerUnimplemented frame.streamId]
  /-- A request that is not accepted is reset. -/
  rejected : frame.endStream = false → ¬Accepted fields → answer = [resetStream frame.streamId]
  /-- One without a body is answered 415 or reset. -/
  endStream : frame.endStream = true →
    answer = [response415 frame.streamId] ∨ answer = [resetStream frame.streamId]

/-- Of two views of the path an answer fits both exactly when they agree, for a request whose path
matters. -/
theorem Answers.iff_of {unknown unknown' : Prop} {fields : List (Bytes × Bytes)} {frame : FrameHd}
    {answer : List Submission} (h : Answers unknown fields frame answer) :
    Answers unknown' fields frame answer ↔
      (frame.endStream = false → Accepted fields → (unknown ↔ unknown')) := by
  constructor
  · intro h' hbody hacc
    -- the trailer tells the two answers apart
    by_cases hleft : unknown <;> by_cases hright : unknown'
    · exact iff_of_true hleft hright
    · have hboth := (h.unimplemented hbody hacc hleft).symm.trans (h'.accepted hbody hacc hright)
      exact nomatch hboth
    · have hboth := (h.accepted hbody hacc hleft).symm.trans (h'.unimplemented hbody hacc hright)
      exact nomatch hboth
    · exact iff_of_false hleft hright
  · intro hiff
    refine ⟨fun hbody hacc hknown => ?_, fun hbody hacc hunknown => ?_, h.rejected, h.endStream⟩
    · exact h.accepted hbody hacc fun hcon => hknown ((hiff hbody hacc).mp hcon)
    · exact h.unimplemented hbody hacc ((hiff hbody hacc).mpr hunknown)

/-- A request of at most `CONFIG_STREAM_MAX_HEADERS` fields is answered by the slots of the table. -/
theorem requestRun_answers (server : ServerShared) {ez : Session} {frame : FrameHd} {ptr : ℕ}
    (mem : ℕ → UInt8) (hfree : ez.objs ptr = none) (htype : frame.type = .headers)
    (hend : frame.endHeaders = true) {fields : List (Bytes × Bytes)}
    (hlen : fields.length ≤ configStreamMaxHeaders) :
    ∃ st' answer, run clientStep ⟨server, ez, [], []⟩ (requestActions ptr mem fields frame) = some st' ∧
      st'.session.ngsession.submitted = ez.ngsession.submitted ++ answer ∧
      Answers (Unserved server.table fields) fields frame answer := by
  obtain ⟨st', s, hrun, hid, hs, hsubmitted⟩ := requestRun_describes server mem hfree htype hend hlen
  obtain ⟨haccepted, hrejected, hstream⟩ := hs.answer
  rw [hid] at haccepted hrejected hstream
  refine ⟨st', s.answer frame.endStream, hrun, hsubmitted, ?_, ?_, ?_, ?_⟩
  · intro hbody hacc hserved
    obtain ⟨trailers, hanswer, hor, hiff⟩ := haccepted hacc
    rw [hbody, hanswer, hor.resolve_left fun htrailer => hserved (hiff.mp htrailer)]
  · intro hbody hacc hunserved
    obtain ⟨trailers, hanswer, -, hiff⟩ := haccepted hacc
    rw [hbody, hanswer, hiff.mpr hunserved]
  · intro hbody hacc
    rw [hbody, hrejected hacc]
  · intro hbody
    rw [hbody]
    exact hstream

/-- Events come from streams that were accepted, in every run of all sessions. -/
theorem answerRun_fromAccepted (server : ServerShared) (handles : ℕ → SessionUuid) (sockfds : ℕ → ℤ)
    {acts : List HubAction}
    (hpromised : Along answerStep AnswerState.Promised (answerStart server handles sockfds) acts) :
    Along answerStep AnswerState.FromAccepted (answerStart server handles sockfds) acts := by
  refine hpromised.imp (fun st act (hok : st.Ok) hpromised =>
    ⟨hok.fromAccepted hpromised, fun st' hstep => hok.step hpromised hstep⟩) ⟨fun i => ?_, ?_⟩
  · exact (Session.registryOk_sessionNew (handles i) (sockfds i)).userDataOk
  · intro i id hbody
    cases hbody

/-! ## (6) The registered paths -/

/-- A call on the path table, whatever its path, with the paths registered and not unregistered since.
`none` when the scan of an unregistration reads behind the array of a slot. -/
def tableStep (s : PathState) : PathCall → Option PathState
  | .register path userdata enc type =>
      let r := serverRegisterPath s.table path userdata enc type
      some ⟨r.2, if r.1 = 0 then s.registered.insert path.bytes userdata else s.registered⟩
  | .unregister path =>
      (unregisterSlotIn s.table path).map fun _ =>
        ⟨(serverUnregisterPath s.table path).2, s.registered.erase path.bytes⟩

/-- The value a callback looks up in the path table. -/
def ClientAction.looksUp : ClientAction → Option Bytes
  | .header frame name value =>
      if frame.type = .headers ∧ name = bytesOf ":path" then some value else none
  | .beginHeaders _ _ _ | .frameRecv _ | .dataChunk _ _ | .streamClose _ => none

/-- One action of the client, with the reads of the `:path` lookup: `none` also when one of them is not
in a slot of the table. -/
def lookupStep (st : ClientState) (a : ClientAction) : Option ClientState :=
  match a.looksUp with
  | some value => (lookupPath st.server.table value).bind fun _ => clientStep st a
  | none => clientStep st a

/-- No registered path equals the `:path` of the request. -/
def Unregistered (registered : PathMap) (fields : List (Bytes × Bytes)) : Prop :=
  ∀ value, (bytesOf ":path", value) ∈ fields → value ∉ registered

/-- **The request is answered as it should be**: no lookup reads what is not in a slot of the table, and
the answer is the one for the paths that are registered. -/
def Answered (registered : PathMap) (server : ServerShared) (ez : Session) (ptr : ℕ)
    (mem : ℕ → UInt8) (fields : List (Bytes × Bytes)) (frame : FrameHd) : Prop :=
  ∃ st' answer, run lookupStep ⟨server, ez, [], []⟩ (requestActions ptr mem fields frame) = some st' ∧
    st'.session.ngsession.submitted = ez.ngsession.submitted ++ answer ∧
    Answers (Unregistered registered fields) fields frame answer

/-- nghttp2 delivers `:path` at most once. -/
def OnePath (fields : List (Bytes × Bytes)) : Prop :=
  ∀ v w, (bytesOf ":path", v) ∈ fields → (bytesOf ":path", w) ∈ fields → v = w

/-- **The table serves the request**: the lookup of its `:path` stays in the table; and if the path
matters, because the request is accepted and a body follows, then it is in a slot below `nb_paths`
exactly when it is registered. -/
def PathState.Serves (s : PathState) (fields : List (Bytes × Bytes)) (frame : FrameHd) : Prop :=
  ∀ value, (bytesOf ":path", value) ∈ fields → s.table.LookupStays value ∧
    (frame.endStream = false → Accepted fields →
      ((∃ i, i < s.table.nbPaths ∧ s.table.pathAt i = value) ↔ value ∈ s.registered))

/-- A callback leaves the path table alone. -/
theorem table_clientStep {st st' : ClientState} {a : ClientAction} (h : clientStep st a = some st') :
    st'.server.table = st.server.table := by
  rw [clientStep] at h
  split at h
  · obtain ⟨r, -, rfl⟩ := Option.map_eq_some_iff.mp h
    rfl
  · cases h

/-- **Where all lookups stay in the table** the run is the one without their reads. -/
theorem run_lookupStep {st : ClientState} {acts : List ClientAction}
    (h : ∀ a ∈ acts, ∀ value, a.looksUp = some value → st.server.table.LookupStays value) :
    run lookupStep st acts = run clientStep st acts := by
  induction acts generalizing st with
  | nil => rfl
  | cons a acts ih =>
      have hstep : lookupStep st a = clientStep st a := by
        rw [lookupStep]
        cases hlooks : a.looksUp with
        | none => rfl
        | some value =>
            simp only [lookupPath_of_stays (h a List.mem_cons_self value hlooks), Option.bind_some]
      rw [run_cons, run_cons, hstep]
      cases hclient : clientStep st a with
      | none => rfl
      | some st' =>
          refine ih fun b hb value hlooks => ?_
          rw [table_clientStep hclient]
          exact h b (List.mem_cons_of_mem a hb) value hlooks

/-- Where one does not stay the run stops. -/
theorem run_lookupStep_eq_none {st : ClientState} {acts : List ClientAction} {a : ClientAction}
    {value : Bytes} (ha : a ∈ acts) (hlooks : a.looksUp = some value)
    (h : ¬st.server.table.LookupStays value) : run lookupStep st acts = none := by
  induction acts generalizing st with
  | nil => cases ha
  | cons b acts ih =>
      rw [run_cons]
      cases hstep : lookupStep st b with
      | none => rfl
      | some st' =>
          have hclient : clientStep st b = some st' := by
            rw [lookupStep] at hstep
            split at hstep
            · obtain ⟨-, -, hclient⟩ := Option.bind_eq_some_iff.mp hstep
              exact hclient
            · exact hstep
          rcases List.mem_cons.mp ha with rfl | ha
          · rw [lookupStep, hlooks] at hstep
            simp only [lookupPath_eq_none.mpr h] at hstep
            cases hstep
          · exact ih ha (by rw [table_clientStep hclient]; exact h)

/-- The lookups of a request are those of its `:path`. -/
theorem looksUp_requestActions {ptr : ℕ} {mem : ℕ → UInt8} {fields : List (Bytes × Bytes)}
    {frame : FrameHd} (htype : frame.type = .headers) {value : Bytes} :
    (∃ a ∈ requestActions ptr mem fields frame, a.looksUp = some value) ↔
      (bytesOf ":path", value) ∈ fields := by
  constructor
  · rintro ⟨a, ha, hlooks⟩
    rcases List.mem_cons.mp ha with rfl | ha
    · cases hlooks
    · rcases List.mem_append.mp ha with ha | ha
      · obtain ⟨f, hf, rfl⟩ := List.mem_map.mp ha
        rw [ClientAction.looksUp] at hlooks
        split at hlooks
        · next hpath =>
            obtain rfl := Option.some.inj hlooks
            rw [← hpath.2]
            exact hf
        · cases hlooks
      · obtain rfl := List.mem_singleton.mp ha
        cases hlooks
  · intro hmem
    refine ⟨.header frame (bytesOf ":path") value, ?_, if_pos ⟨htype, rfl⟩⟩
    exact List.mem_cons_of_mem _ (List.mem_append_left _ (List.mem_map.mpr ⟨_, hmem, rfl⟩))

/-- The two views of the path agree exactly when they do on its value. -/
theorem unserved_iff_unregistered {s : PathState} {fields : List (Bytes × Bytes)}
    (hone : OnePath fields) :
    (Unserved s.table fields ↔ Unregistered s.registered fields) ↔
      ∀ value, (bytesOf ":path", value) ∈ fields →
        ((∃ i, i < s.table.nbPaths ∧ s.table.pathAt i = value) ↔ value ∈ s.registered) := by
  have hunserved : ∀ value, (bytesOf ":path", value) ∈ fields →
      (Unserved s.table fields ↔ ¬∃ i, i < s.table.nbPaths ∧ s.table.pathAt i = value) := by
    intro value hmem
    constructor
    · rintro hnot ⟨i, hi, heq⟩
      exact hnot value hmem i hi heq
    · intro hnot w hw i hi heq
      rw [hone w value hw hmem] at heq
      exact hnot ⟨i, hi, heq⟩
  have hunregistered : ∀ value, (bytesOf ":path", value) ∈ fields →
      (Unregistered s.registered fields ↔ value ∉ s.registered) := by
    intro value hmem
    constructor
    · exact fun hnot => hnot value hmem
    · intro hnot w hw
      rw [hone w value hw hmem]
      exact hnot
  constructor
  · intro hiff value hmem
    rw [hunserved value hmem, hunregistered value hmem] at hiff
    exact not_iff_not.mp hiff
  · intro hall
    by_cases hpath : ∃ value, (bytesOf ":path", value) ∈ fields
    · obtain ⟨value, hmem⟩ := hpath
      rw [hunserved value hmem, hunregistered value hmem, hall value hmem]
    · exact iff_of_true (fun value hmem => absurd ⟨value, hmem⟩ hpath)
        fun value hmem => absurd ⟨value, hmem⟩ hpath

/-- **When a request is answered as it should be**: exactly when the table serves it. -/
theorem answered_iff {s : PathState} {server : ServerShared} (htable : server.table = s.table)
    {ez : Session} {frame : FrameHd} {ptr : ℕ} (mem : ℕ → UInt8) (hfree : ez.objs ptr = none)
    (htype : frame.type = .headers) (hend : frame.endHeaders = true)
    {fields : List (Bytes × Bytes)} (hlen : fields.length ≤ configStreamMaxHeaders)
    (hone : OnePath fields) :
    Answered s.registered server ez ptr mem fields frame ↔ s.Serves fields frame := by
  by_cases hstays : ∀ value, (bytesOf ":path", value) ∈ fields → s.table.LookupStays value
  · -- the lookups stay, and what is left is whether the slots say what is registered
    have hrun : run lookupStep ⟨server, ez, [], []⟩ (requestActions ptr mem fields frame)
        = run clientStep ⟨server, ez, [], []⟩ (requestActions ptr mem fields frame) :=
      run_lookupStep fun a ha value hlooks => by
        rw [htable]
        exact hstays value ((looksUp_requestActions htype).mp ⟨a, ha, hlooks⟩)
    obtain ⟨st', answer, hst', hsubmitted, hanswers⟩ :=
      requestRun_answers server mem hfree htype hend hlen
    rw [htable] at hanswers
    have hserves : s.Serves fields frame ↔
        Answers (Unregistered s.registered fields) fields frame answer := by
      rw [hanswers.iff_of, PathState.Serves]
      constructor
      · exact fun hall hbody hacc => (unserved_iff_unregistered hone).mpr
          fun value hmem => (hall value hmem).2 hbody hacc
      · exact fun hiff value hmem => ⟨hstays value hmem, fun hbody hacc =>
          (unserved_iff_unregistered hone).mp (hiff hbody hacc) value hmem⟩
    rw [hserves]
    constructor
    · rintro ⟨st₁, answer₁, hst₁, hsubmitted₁, hanswers₁⟩
      obtain rfl := Option.some.inj ((hrun.symm.trans hst₁).symm.trans hst')
      rw [hsubmitted, List.append_cancel_left_eq] at hsubmitted₁
      rw [hsubmitted₁]
      exact hanswers₁
    · exact fun hright => ⟨st', answer, hrun.trans hst', hsubmitted, hright⟩
  · obtain ⟨value, hvalue⟩ := not_forall.mp hstays
    obtain ⟨hmem, hout⟩ := Classical.not_imp.mp hvalue
    refine iff_of_false ?_ fun hserves => hout (hserves value hmem).1
    rintro ⟨st', answer, hst', -⟩
    obtain ⟨a, ha, hlooks⟩ := (@looksUp_requestActions ptr mem fields frame htype value).mpr hmem
    have hout : ¬server.table.LookupStays value := htable ▸ hout
    have hnone : run lookupStep ⟨server, ez, [], []⟩ (requestActions ptr mem fields frame) = none :=
      run_lookupStep_eq_none ha hlooks hout
    exact Option.some_ne_none st' (hst'.symm.trans hnone)

/-- **The invariant of legal, clean calls**: the slots in use hold the registered paths, and every slot
has a terminator. -/
structure PathState.CallInv (s : PathState) : Prop where
  /-- The slots below `nb_paths` hold the registered paths. -/
  inv : s.Inv
  /-- Every slot has a terminator in its array. -/
  terminated : ∀ i, 0 ∈ (s.table.paths i).path

/-- A legal call registers short paths only. -/
theorem PathCall.Legal.short {m : PathMap} {c : PathCall} (h : c.Legal m) : c.Short := by
  cases c with
  | register path userdata enc type => exact h.1
  | unregister path => trivial

/-- Under the invariant a legal call is the same on the paths registered and on the finite map. -/
theorem PathState.CallInv.tableStep_eq {s : PathState} (h : s.CallInv) {c : PathCall}
    (hlegal : c.Legal s.registered) : tableStep s c = pathStep s c := by
  rw [pathStep, if_pos hlegal]
  cases c with
  | register path userdata enc type =>
      simp only [tableStep, PathTable.call, PathMap.call, ← h.inv.nbPaths_eq]
      by_cases hfull : s.table.nbPaths = s.table.maxPaths
      · rw [serverRegisterPath_of_full hfull, if_pos hfull, if_neg Nat.one_ne_zero]
      · rw [(serverRegisterPath_of_free userdata enc type h.inv hfull hlegal.1).1, if_neg hfull,
          if_pos rfl]
  | unregister path =>
      rw [tableStep, unregisterSlotIn_of_terminated path h.terminated]
      rfl

/-- **Legal, clean calls keep the invariant.** -/
theorem PathState.CallInv.step {s s' : PathState} {c : PathCall} (h : s.CallInv)
    (hcall : c.Legal s.registered ∧ s.Clean c) (hstep : tableStep s c = some s') : s'.CallInv := by
  rw [h.tableStep_eq hcall.1] at hstep
  refine ⟨h.inv.step hcall.2 hstep, ?_⟩
  rw [pathStep, if_pos hcall.1] at hstep
  obtain rfl := Option.some.inj hstep
  exact PathTable.terminated_call h.terminated hcall.1.short

/-- Under the invariant the table serves every request. -/
theorem PathState.CallInv.serves {s : PathState} (h : s.CallInv) (fields : List (Bytes × Bytes))
    (frame : FrameHd) : s.Serves fields frame := by
  intro value _
  refine ⟨PathTable.lookupStays_of_terminated h.terminated h.inv.nbPaths_le value, fun _ _ => ?_⟩
  constructor
  · rintro ⟨i, hi, rfl⟩
    rw [← AList.lookup_isSome, h.inv.slot i hi]
    rfl
  · exact h.inv.held value

/-- The invariant holds of a new path table. -/
theorem pathTableNew_callInv (maxPaths : MaxPaths) : PathState.CallInv ⟨pathTableNew maxPaths, ∅⟩ where
  inv := pathTableNew_inv maxPaths
  terminated _ := zero_mem_pathZero

/-- **The headers decide.** Whatever calls made the path table, a request of any fields, in any order and
with any repetitions, is answered by what its fields say and by the paths that are registered exactly
when the table serves it; and the table serves every request when all calls were legal and clean.
However the callbacks of all sessions and calls on the path table interleave, events come from
streams that were answered 200 and point to a slot of the path table. -/
theorem headers_decide_iff (maxPaths : MaxPaths) {calls : List PathCall} {s : PathState}
    (hrun : run tableStep ⟨pathTableNew maxPaths, ∅⟩ calls = some s) :
    (∀ (server : ServerShared) (ez : Session) (frame : FrameHd) (ptr : ℕ) (mem : ℕ → UInt8)
      (fields : List (Bytes × Bytes)), server.table = s.table → ez.objs ptr = none →
      frame.type = .headers → frame.endHeaders = true →
      fields.length ≤ configStreamMaxHeaders → OnePath fields →
      (Answered s.registered server ez ptr mem fields frame ↔ s.Serves fields frame)) ∧
    (Along tableStep (fun s c => c.Legal s.registered ∧ s.Clean c) ⟨pathTableNew maxPaths, ∅⟩ calls →
      ∀ fields frame, s.Serves fields frame) ∧
    ∀ (server : ServerShared) (handles : ℕ → SessionUuid) (sockfds : ℕ → ℤ) (acts : List HubAction),
      Along answerStep AnswerState.Promised (answerStart server handles sockfds) acts →
      Along answerStep AnswerState.FromAccepted (answerStart server handles sockfds) acts := by
  refine ⟨?_, fun hcalls => ?_, ?_⟩
  · intro server ez frame ptr mem fields htable hfree htype hend hlen hone
    exact answered_iff htable mem hfree htype hend hlen hone
  · have hinv : s.CallInv :=
      hcalls.invariant (fun _ _ _ h hcall hstep => h.step hcall hstep)
        (pathTableNew_callInv maxPaths) hrun
    exact hinv.serves
  · exact fun server handles sockfds acts => answerRun_fromAccepted server handles sockfds

/-- The fields of a request that is accepted, with two values of `te`. -/
def grpcFields (path : Bytes) : List (Bytes × Bytes) :=
  [(bytesOf ":method", bytesOf "POST"), (bytesOf ":scheme", bytesOf "http"), (bytesOf ":path", path),
    (bytesOf "te", bytesOf "gzip"), (bytesOf "content-type", bytesOf "application/grpc+proto"),
    (bytesOf "te", bytesOf "trailers")]

theorem accepted_grpcFields (path : Bytes) : Accepted (grpcFields path) :=
  ⟨rfl, rfl, rfl, bytesOf "application/grpc+proto", rfl, by decide⟩

/-- The fields have one `:path`, the given one. -/
theorem mem_grpcFields {path value : Bytes} :
    (bytesOf ":path", value) ∈ grpcFields path ↔ value = path := by
  have hnames : bytesOf ":path" ≠ bytesOf ":method" ∧ bytesOf ":path" ≠ bytesOf ":scheme" ∧
      bytesOf ":path" ≠ bytesOf "te" ∧ bytesOf ":path" ≠ bytesOf "content-type" := by
    decide
  simp [grpcFields, hnames]

theorem onePath_grpcFields (path : Bytes) : OnePath (grpcFields path) :=
  fun _ _ hv hw => (mem_grpcFields.mp hv).trans (mem_grpcFields.mp hw).symm

/-- A body of one empty message, on stream 1 of the first session. -/
def emptyBody : List HubAction :=
  [.client 0 (.dataChunk 1 [0, 0, 0, 0, 0]), .client 0 (.frameRecv ⟨1, .data, 1, 5⟩)]

/-- One path is registered, and a request for another one is answered by 200 and the trailer; a request
for a path that is served has its events. -/
theorem headers_decide_iff_one_path :
    (∃ s, run tableStep ⟨pathTableTen, ∅⟩ [.register ⟨[47, 97], by decide⟩ 9 0 0] = some s ∧
      ∀ path, Answered s.registered ⟨100, s.table, eventsNew⟩ (sessionNew ⟨7, 2⟩ 9) 16 (fun _ => 0)
        (grpcFields path) ⟨1, .headers, 4, 0⟩) ∧
    Along answerStep AnswerState.FromAccepted
      (answerStart hubNew.server (fun i => ⟨7, i⟩) fun _ => 9)
      (requestOf [47, 97] ++ emptyBody) ∧
    ((run answerStep (answerStart hubNew.server (fun i => ⟨7, i⟩) fun _ => 9)
      (requestOf [47, 97] ++ emptyBody)).map fun st => st.hub.server.events.unread.length) = some 1 := by
  obtain ⟨hiff, hserves, hevents⟩ := headers_decide_iff ⟨10, by decide⟩
    (show run tableStep _ [.register ⟨[47, 97], by decide⟩ 9 0 0] = some _ by rfl)
  refine ⟨⟨_, rfl, fun path => ?_⟩, hevents _ _ _ _ (by decide +kernel), by decide +kernel⟩
  have hcalls : Along tableStep (fun s c => c.Legal s.registered ∧ s.Clean c)
      ⟨pathTableTen, ∅⟩ [.register ⟨[47, 97], by decide⟩ 9 0 0] :=
    ⟨⟨⟨by decide, AList.notMem_empty _⟩, trivial⟩, fun _ _ => trivial⟩
  exact (hiff ⟨100, _, eventsNew⟩ (sessionNew ⟨7, 2⟩ 9) ⟨1, .headers, 4, 0⟩ 16 (fun _ => 0)
    (grpcFields path) rfl rfl rfl (by decide) (Nat.le_of_ble_eq_true rfl)
      (onePath_grpcFields path)).mpr (hserves hcalls _ _)

/-- A path of 64 bytes, which fills its slot. -/
def longPath : CString := ⟨List.replicate 64 97, by decide⟩

/-- **Requests that are not answered by what is registered.** `/a` and `/b` are registered and `/a` is
unregistered: `/b` is still registered, but in no slot below `nb_paths`, and a request for it is
answered UNIMPLEMENTED. A path of 64 bytes is registered: the lookup of it reads behind its slot. -/
theorem not_answered :
    (∃ s st', run tableStep ⟨pathTableTen, ∅⟩
        [.register ⟨[47, 97], by decide⟩ 1 0 0, .register ⟨[47, 98], by decide⟩ 2 0 0,
          .unregister ⟨[47, 97], by decide⟩] = some s ∧
      [47, 98] ∈ s.registered ∧
      run lookupStep ⟨⟨100, s.table, eventsNew⟩, sessionNew ⟨7, 2⟩ 9, [], []⟩
        (requestActions 16 (fun _ => 0) (grpcFields [47, 98]) ⟨1, .headers, 4, 0⟩) = some st' ∧
      st'.session.ngsession.submitted = [response200 1, trailerUnimplemented 1] ∧
      ¬Answered s.registered ⟨100, s.table, eventsNew⟩ (sessionNew ⟨7, 2⟩ 9) 16 (fun _ => 0)
        (grpcFields [47, 98]) ⟨1, .headers, 4, 0⟩) ∧
    ∃ s, run tableStep ⟨pathTableTen, ∅⟩ [.register longPath 1 0 0] = some s ∧
      longPath.bytes ∈ s.registered ∧ lookupPath s.table longPath.bytes = none ∧
      ¬Answered s.registered ⟨100, s.table, eventsNew⟩ (sessionNew ⟨7, 2⟩ 9) 16 (fun _ => 0)
        (grpcFields longPath.bytes) ⟨1, .headers, 4, 0⟩ := by
  constructor
  · have hslots : (run tableStep ⟨pathTableTen, ∅⟩
        [.register ⟨[47, 97], by decide⟩ 1 0 0, .register ⟨[47, 98], by decide⟩ 2 0 0,
          .unregister ⟨[47, 97], by decide⟩]).map
        (fun s => (s.registered.keys, s.table.nbPaths, s.table.pathAt 0,
          (run lookupStep ⟨⟨100, s.table, eventsNew⟩, sessionNew ⟨7, 2⟩ 9, [], []⟩
            (requestActions 16 (fun _ => 0) (grpcFields [47, 98]) ⟨1, .headers, 4, 0⟩)).map
            fun st => st.session.ngsession.submitted))
        = some ([[47, 98]], 1, [], some [response200 1, trailerUnimplemented 1]) := by
      decide +kernel
    obtain ⟨s, hs, hslots⟩ := Option.map_eq_some_iff.mp hslots
    simp only [Prod.mk.injEq] at hslots
    obtain ⟨hkeys, hcount, hblank, hrun⟩ := hslots
    obtain ⟨st', hst', hsubmitted⟩ := Option.map_eq_some_iff.mp hrun
    have hmem : [47, 98] ∈ s.registered := by
      rw [AList.mem_keys, hkeys]
      exact List.mem_singleton.mpr rfl
    refine ⟨s, st', hs, hmem, hst', hsubmitted, ?_⟩
    rw [answered_iff rfl _ rfl rfl (by decide) (Nat.le_of_ble_eq_true rfl) (onePath_grpcFields _)]
    intro hserves
    have hfound := (hserves [47, 98] (mem_grpcFields.mpr rfl)).2 (by decide) (accepted_grpcFields _)
    -- the one slot below `nb_paths` is blank
    obtain ⟨i, hi, heq⟩ := hfound.mpr hmem
    obtain rfl : i = 0 := by omega
    rw [hblank] at heq
    cases heq
  · have hslots : (run tableStep ⟨pathTableTen, ∅⟩ [.register longPath 1 0 0]).map
        (fun s => (s.registered.keys, lookupPath s.table longPath.bytes))
        = some ([longPath.bytes], none) := by
      decide +kernel
    obtain ⟨s, hs, hslots⟩ := Option.map_eq_some_iff.mp hslots
    obtain ⟨hkeys, hlookup⟩ := Prod.mk.inj hslots
    have hmem : longPath.bytes ∈ s.registered := by
      rw [AList.mem_keys, hkeys]
      exact List.mem_singleton.mpr rfl
    refine ⟨s, hs, hmem, hlookup, ?_⟩
    rw [answered_iff rfl _ rfl rfl (by decide) (Nat.le_of_ble_eq_true rfl) (onePath_grpcFields _)]
    exact fun hserves =>
      lookupPath_eq_none.mp hlookup (hserves _ (mem_grpcFields.mpr rfl)).1

end Ezgrpc2
