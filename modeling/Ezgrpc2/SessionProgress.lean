import Ezgrpc2.StreamSend

/-! # Sessions that do not abort

A callback asserts what it expects of the registries and follows the pointers they hold, and the read
callback asserts that a message it is to write has bytes left. `Session.Sound` is what makes all of
this go through: kept by whatever nghttp2 writes and by all that a client can send but trailers, so a
session that has it is served without an abort (`Session.Sound.sessionEvents`). -/

namespace Ezgrpc2

open StepRuns

/-! ## (1) What all objects keep -/

/-- **What every stream object keeps**: `Q` holds of a new one, and behind all that is done to one. The
events of a stream with `Q` have `E`. -/
structure StreamInvariant (table : PathTable) (Q : Stream → Prop) (E : Event → Prop) : Prop where
  /-- A stream that begins meets the property. -/
  begun : ∀ streamId mem, Q (streamBegun streamId mem)
  /-- A header field that is stored and applied keeps the property. -/
  header : ∀ s name value, Q s → Q ((s.pushHeader name value).applyHeader table name value)
  /-- The end of a DATA frame keeps the property. -/
  frame : ∀ s, Q s → Q s.afterFrame
  /-- A chunk that is stored keeps the property. -/
  chunk : ∀ s data, Q s → Q (s.pushChunk data)
  /-- A call of the read callback keeps the property. -/
  read : ∀ s bufLen r, Q s → dataSourceReadCallback2 bufLen s 0 = some r → Q r.stream
  /-- The events of a DATA frame. -/
  event : ∀ s path uuid kind, Q s → s.path = some path →
    E ⟨uuid, some (table.userdataAt path), kind⟩

/-- `Q` holds of every object in memory. -/
def Session.Each (Q : Stream → Prop) (ez : Session) : Prop := ∀ p s, ez.objs p = some s → Q s

/-- `E` holds of every event that is queued. -/
def Events.Each (E : Event → Prop) (events : Events) : Prop := ∀ e ∈ events.unread, E e

theorem Events.Each.write {E : Event → Prop} {events : Events} (h : events.Each E) {e : Event}
    (he : E e) : (eventsWrite events e).Each E := by
  intro e' he'
  rw [unread_eventsWrite, List.mem_append, List.mem_singleton] at he'
  rcases he' with he' | rfl
  · exact h e' he'
  · exact he

namespace Session.Each

variable {Q : Stream → Prop} {E : Event → Prop} {server : ServerShared} {table : PathTable}
  {ez ez' : Session} {outs : List DataOut}

theorem setObj (h : ez.Each Q) (ptr : ℕ) {s : Stream} (hs : Q s) :
    (ez.setObj ptr (some s)).Each Q := by
  intro p t ht
  rw [Session.setObj_objs] at ht
  split at ht
  · obtain rfl := Option.some.inj ht
    exact hs
  · exact h p t ht

/-- Freeing an object keeps the property of the others. -/
theorem setObj_none (h : ez.Each Q) (ptr : ℕ) (hobjs : ez'.objs = (ez.setObj ptr none).objs) :
    ez'.Each Q := by
  intro p t ht
  rw [hobjs, Session.setObj_objs] at ht
  split at ht
  · cases ht
  · exact h p t ht

/-- **A callback keeps it**, and writes events with `E` only. -/
theorem callback (hQ : StreamInvariant server.table Q E) (h : ez.Each Q)
    (hevents : server.events.Each E) {a : ClientAction} {r : CallbackResult}
    (hr : a.callback server ez = some r) : r.session.Each Q ∧ r.events.Each E := by
  cases ClientAction.effect hr with
  | begins streamId ptr mem =>
      refine ⟨fun p s hs => ?_, hevents⟩
      rw [objs_beginHeaders] at hs
      split at hs
      · obtain rfl := Option.some.inj hs
        exact hQ.begun streamId mem
      · exact h p s hs
  | skipsHeader | refusesHeader | skipsChunk => exact ⟨h, hevents⟩
  | storesHeader _ _ hobj => exact ⟨h.setObj _ (hQ.header _ _ _ (h _ _ hobj)), hevents⟩
  | answers subs =>
      rw [Session.submitAll_eq]
      exact ⟨h, hevents⟩
  | refusesChunk => exact ⟨h, hevents⟩
  | parses _ _ hobj hpath =>
      refine ⟨h.setObj _ (hQ.frame _ (h _ _ hobj)), fun e he => ?_⟩
      rw [unread_eventsWriteAll, List.mem_append] at he
      rcases he with he | he
      · exact hevents e he
      · obtain ⟨kind, -, rfl⟩ := List.mem_map.mp he
        exact hQ.event _ _ _ kind (h _ _ hobj) hpath
  | storesChunk _ hobj => exact ⟨h.setObj _ (hQ.chunk _ _ (h _ _ hobj)), hevents⟩
  | @closes _ ptr => exact ⟨h.setObj_none ptr rfl, hevents⟩

/-- All that a client sends keeps the property of all streams. -/
theorem clientRun (st : ClientState) {st' : ClientState} (hQ : StreamInvariant st.server.table Q E)
    (h : st.session.Each Q) (hevents : st.server.events.Each E) {acts : List ClientAction}
    (hrun : StepRuns.run clientStep st acts = some st') :
    st'.session.Each Q ∧ st'.server.events.Each E := by
  have hall : st'.server.table = st.server.table ∧ st'.session.Each Q ∧
      st'.server.events.Each E := by
    refine run_invariant clientStep (I := fun st' => st'.server.table = st.server.table ∧
      st'.session.Each Q ∧ st'.server.events.Each E) ?_ ⟨rfl, h, hevents⟩ hrun
    rintro st₁ a st₂ ⟨htable, heach, hevents⟩ hstep
    rw [clientStep] at hstep
    split at hstep
    · next hlegal =>
        obtain ⟨r, hr, rfl⟩ := Option.map_eq_some_iff.mp hstep
        obtain ⟨-, hr⟩ := callback_of_clientCallback hlegal hr
        exact ⟨htable, heach.callback (htable ▸ hQ) hevents hr⟩
    · cases hstep
  exact hall.2

/-- One thing that nghttp2 does in a call keeps the property of all streams. -/
theorem ngWrite (hQ : StreamInvariant table Q E) (h : ez.Each Q) {w : NgWrite}
    (hw : Ezgrpc2.ngWrite server ez w = some (ez', outs)) : ez'.Each Q := by
  cases ngWrite_effect hw with
  | skipsRead | skipsClose | detaches => exact h
  | reads _ hobj hr => exact h.setObj _ (hQ.read _ _ _ (h _ _ hobj) hr)
  | closes _ hr =>
      obtain ⟨p, l, -, rfl⟩ := streamClose_eq_some hr
      exact h.setObj_none p rfl

/-- A loop of `nghttp2_session_send` keeps the property of all streams. -/
theorem sendLoop (hQ : StreamInvariant table Q E) (h : ez.Each Q) {sends : List NgSend} {ret : ℕ}
    (hloop : Ezgrpc2.sendLoop server ez sends = some (ret, ez', outs)) : ez'.Each Q :=
  ngWrites_invariant (fun _ _ _ _ heach hw => heach.ngWrite hQ hw) h (sendLoop_eq_some hloop).1

/-- **An exchange keeps it**, and writes events with `E` only. -/
theorem sessionEvents (hQ : StreamInvariant server.table Q E) (h : ez.Each Q)
    (hevents : server.events.Each E) {x : Exchange} {ret : ℕ} {events : Events}
    (hexchange : Ezgrpc2.sessionEvents server ez x = some (ret, events, ez')) :
    ez'.Each Q ∧ events.Each E := by
  rw [Ezgrpc2.sessionEvents] at hexchange
  split at hexchange
  · cases hexchange
    exact ⟨h, hevents⟩
  · obtain ⟨st, hrun, hexchange⟩ := Option.bind_eq_some_iff.mp hexchange
    obtain ⟨hst, hevents'⟩ := clientRun ⟨server, ez, [], []⟩ hQ h hevents hrun
    split at hexchange
    · cases hexchange
      exact ⟨hst, hevents'⟩
    · obtain ⟨⟨ret', ez₁, outs'⟩, hloop, hexchange⟩ := Option.bind_eq_some_iff.mp hexchange
      cases hexchange
      exact ⟨hst.sendLoop hQ hloop, hevents'⟩

/-- Queueing messages keeps the property, if the stream with them meets it. -/
theorem queued (h : ez.Each Q) {streamId : ℤ} {ptr : ℕ} {s : Stream} {messages : List Message}
    (hs : Q (s.enqueue messages)) : (ez.queued streamId ptr s messages).Each Q :=
  h.setObj ptr hs

end Session.Each

/-! ## (2) Sound sessions -/

/-- No message of the queue is empty. -/
def Stream.HasPayloads (s : Stream) : Prop := ∀ m ∈ s.lqueueOmessages, m.len ≠ 0

/-- Only `stream_send` adds to the queue of a stream. -/
theorem streamInvariant_hasPayloads (table : PathTable) :
    StreamInvariant table Stream.HasPayloads fun _ => True where
  begun _ _ m hm := nomatch hm
  header s name value hs := by
    rw [Stream.HasPayloads, (s.sendsAs_applyHeader table name value).lqueueOmessages]
    exact hs
  frame s hs := by
    rw [Stream.HasPayloads, s.sendsAs_afterFrame.lqueueOmessages]
    exact hs
  chunk _ _ hs := hs
  read _ _ _ hs hr m hm := hs m ((dataSourceReadCallback2_queue hr).1.subset hm)
  event _ _ _ _ _ _ := trivial

/-- **The session is sound**, so that no callback on plain input aborts. -/
structure Session.Sound (ez : Session) : Prop where
  /-- The registries of streams, of nghttp2 and of the server, agree. -/
  registry : ez.RegistryOk
  /-- The session is in order for sending, as the read callback needs it. -/
  sends : ez.SendsOk
  /-- No message that is queued is empty. -/
  payloads : ez.Each Stream.HasPayloads

/-- An action nghttp2 can make that does not start trailers. -/
def ClientAction.Plain (st : ClientState) (a : ClientAction) : Prop := a.Legal st ∧ ¬a.Trailing st

instance (st : ClientState) : (a : ClientAction) → Decidable (a.Trailing st)
  | .beginHeaders streamId _ _ =>
      inferInstanceAs (Decidable ((st.session.ngsession.streams streamId).isSome = true))
  | .header _ _ _ | .frameRecv _ | .dataChunk _ _ | .streamClose _ => isFalse not_false

instance (st : ClientState) (a : ClientAction) : Decidable (a.Plain st) :=
  inferInstanceAs (Decidable (_ ∧ _))

namespace Session.Sound

variable {server : ServerShared} {ez : Session}

/-- A new session is sound, as it has no streams. -/
theorem new (uuid : SessionUuid) (sockfd : ℤ) : (sessionNew uuid sockfd).Sound where
  registry := Session.registryOk_sessionNew uuid sockfd
  sends := Session.SendsOk.new uuid sockfd
  payloads _ _ hs := nomatch hs

/-- **A callback does not abort**, and the session is sound behind it. -/
theorem callback (h : ez.Sound) {a : ClientAction} (hplain : a.Plain ⟨server, ez, [], []⟩) :
    ∃ r, a.callback server ez = some r ∧ r.session.Sound := by
  -- the objects that are listed are those begun and not freed
  have hok : ClientState.Ok ⟨server, ez, ez.lstreams, []⟩ :=
    ⟨h.registry, List.Perm.refl _, h.registry.sessionFreeStreams⟩
  have hplain' : a.Plain ⟨server, ez, ez.lstreams, []⟩ := by
    cases a with
    | beginHeaders _ _ _ | header _ _ _ | frameRecv _ | dataChunk _ _ | streamClose _ => exact hplain
  obtain ⟨st, hstep, hst⟩ := hok.harmless hplain'.1 hplain'.2
  rw [clientStep_of_legal hplain'.1] at hstep
  obtain ⟨r, hr, rfl⟩ := Option.map_eq_some_iff.mp hstep
  obtain ⟨hlegal, hr⟩ := callback_of_clientCallback hplain'.1 hr
  exact ⟨r, hr, hst.registry, h.sends.callback hlegal hr,
    (h.payloads.callback (streamInvariant_hasPayloads _) (fun _ _ => trivial) hr).1⟩

/-- **What a client sends is taken**: plain input aborts nothing and leaves the session sound. -/
theorem clientRun (st : ClientState) (h : st.session.Sound) {acts : List ClientAction}
    (hplain : Along clientStep (fun st a => a.Plain st) st acts) :
    ∃ st', StepRuns.run clientStep st acts = some st' ∧ st'.session.Sound := by
  apply hplain.exists_run (I := fun st : ClientState => st.session.Sound) _ h
  intro st a _ hsound hplain
  have hplain' : a.Plain ⟨st.server, st.session, [], []⟩ := by
    cases a with
    | beginHeaders _ _ _ | header _ _ _ | frameRecv _ | dataChunk _ _ | streamClose _ => exact hplain
  obtain ⟨r, hr, hr'⟩ := hsound.callback hplain'
  refine ⟨st.after a r, ?_, hr'⟩
  have hcall : clientCallback st a = some r := by
    cases a with
    | beginHeaders _ _ _ | header _ _ _ | frameRecv _ | dataChunk _ _ | streamClose _ => exact hr
  rw [clientStep_of_legal hplain.1, hcall]
  rfl

/-- **Whatever nghttp2 does while it writes goes through.** -/
theorem ngWrite (server : ServerShared) (h : ez.Sound) (w : NgWrite) :
    ∃ ez' outs, Ezgrpc2.ngWrite server ez w = some (ez', outs) ∧ ez'.Sound := by
  cases w with
  | read streamId bufLen =>
      cases hprovider : ez.ngsession.providers streamId with
      | none =>
          refine ⟨ez, [], ?_, h⟩
          rw [Ezgrpc2.ngWrite, hprovider]
      | some ptr =>
          obtain ⟨s, hobj, -⟩ := h.sends.provider streamId ptr hprovider
          -- no message is empty, so the assertion on the rest of one holds
          have hread : ∃ r, dataSourceReadCallback2 bufLen s 0 = some r := by
            by_cases hsmall : bufLen < 5
            · rw [dataSourceReadCallback2, if_pos hsmall]
              exact ⟨_, rfl⟩
            · obtain ⟨r, hr, -⟩ := dataSourceReadCallback2_spec 0 (Nat.not_lt.mp hsmall)
                (h.sends.inv ptr s hobj) (h.payloads ptr s hobj)
              exact ⟨r, hr⟩
          obtain ⟨r, hr⟩ := hread
          have hw : Ezgrpc2.ngWrite server ez (.read streamId bufLen)
              = some (ez.setObj ptr (some r.stream), [⟨streamId, r.buf, r.dataFlags⟩]) := by
            simp only [Ezgrpc2.ngWrite, hprovider, hobj, hr, Option.bind_eq_bind, Option.bind_some]
          refine ⟨_, _, hw, ?_, h.sends.ngWrite hw, ?_⟩
          · exact h.registry.of_same
              (Session.SameRegistry.setObj hobj (dataSourceReadCallback2_streamId hr))
          · exact h.payloads.ngWrite (streamInvariant_hasPayloads server.table) hw
  | detach streamId =>
      have hw : Ezgrpc2.ngWrite server ez (.detach streamId)
          = some ({ ez with ngsession := ez.ngsession.detach streamId }, []) := rfl
      exact ⟨_, _, hw, h.registry.of_same ⟨rfl, rfl, fun _ => rfl⟩, h.sends.ngWrite hw, h.payloads⟩
  | close streamId =>
      by_cases hopen : (ez.ngsession.streams streamId).isSome = true
      · obtain ⟨r, p, hclose, hreg, -⟩ := h.registry.streamClose server hopen
        have hw : Ezgrpc2.ngWrite server ez (.close streamId) = some (r.session, []) := by
          rw [Ezgrpc2.ngWrite, if_pos hopen, hclose]
          rfl
        exact ⟨_, _, hw, hreg, h.sends.ngWrite hw,
          h.payloads.ngWrite (streamInvariant_hasPayloads server.table) hw⟩
      · refine ⟨ez, [], ?_, h⟩
        rw [Ezgrpc2.ngWrite, if_neg hopen]

theorem ngWrites (server : ServerShared) (h : ez.Sound) (ws : List NgWrite) :
    ∃ ez' outs, Ezgrpc2.ngWrites server ez ws = some (ez', outs) ∧ ez'.Sound := by
  induction ws generalizing ez with
  | nil => exact ⟨ez, [], rfl, h⟩
  | cons w ws ih =>
      obtain ⟨ez₁, out, hw, h₁⟩ := h.ngWrite server w
      obtain ⟨ez', outs, hws, h'⟩ := ih h₁
      refine ⟨ez', out ++ outs, ?_, h'⟩
      simp only [Ezgrpc2.ngWrites, hw, hws, Option.bind_eq_bind, Option.bind_some]

/-- A loop of `nghttp2_session_send` goes through and keeps the session sound. -/
theorem sendLoop (server : ServerShared) (h : ez.Sound) (sends : List NgSend) :
    ∃ ret ez' outs, Ezgrpc2.sendLoop server ez sends = some (ret, ez', outs) ∧ ez'.Sound := by
  induction sends generalizing ez with
  | nil => exact ⟨0, ez, [], rfl, h⟩
  | cons send sends ih =>
      obtain ⟨ez₁, outs₁, hws, h₁⟩ := h.ngWrites server send.writes
      by_cases hres : send.res ≠ 0
      · refine ⟨3, ez₁, outs₁, ?_, h₁⟩
        simp only [Ezgrpc2.sendLoop, hws, Option.bind_eq_bind, Option.bind_some, if_pos hres]
      · obtain ⟨ret, ez', outs, hloop, h'⟩ := ih h₁
        refine ⟨ret, ez', outs₁ ++ outs, ?_, h'⟩
        simp only [Ezgrpc2.sendLoop, hws, hloop, Option.bind_eq_bind, Option.bind_some, if_neg hres]

/-- **An exchange goes through** when the client sends no trailers. -/
theorem sessionEvents (server : ServerShared) (h : ez.Sound) {x : Exchange}
    (hplain : x.wantRead = true →
      Along clientStep (fun st a => a.Plain st) ⟨server, ez, [], []⟩ x.acts) :
    ∃ ret events ez', Ezgrpc2.sessionEvents server ez x = some (ret, events, ez') ∧ ez'.Sound := by
  rw [Ezgrpc2.sessionEvents]
  split
  · exact ⟨_, _, _, rfl, h⟩
  · have hread : Along clientStep (fun st a => a.Plain st) ⟨server, ez, [], []⟩
        (if x.wantRead = true then x.acts else []) := by
      split
      · next hwant => exact hplain hwant
      · trivial
    obtain ⟨st, hrun, hst⟩ := clientRun ⟨server, ez, [], []⟩ h hread
    rw [hrun, Option.bind_eq_bind, Option.bind_some]
    split
    · exact ⟨_, _, _, rfl, hst⟩
    · obtain ⟨ret, ez', outs, hloop, h'⟩ := hst.sendLoop st.server x.sends
      rw [hloop, Option.bind_eq_bind, Option.bind_some]
      exact ⟨_, _, _, rfl, h'⟩

/-- Messages are queued, none of them empty. -/
theorem queued (h : ez.Sound) {streamId : ℤ} {ptr : ℕ} {s : Stream}
    (hptr : ez.userData streamId = some ptr) (hobj : ez.objs ptr = some s) {messages : List Message}
    (hne : ∀ m ∈ messages, m.len ≠ 0) : (ez.queued streamId ptr s messages).Sound where
  registry := by
    have hset : ez.SameRegistry (ez.setObj ptr (some (s.enqueue messages))) :=
      Session.SameRegistry.setObj hobj rfl
    refine h.registry.of_same ⟨?_, rfl, hset.objs⟩
    rw [Session.queued]
    show ((ez.setObj ptr _).ngsession.submitData streamId ptr).streams = _
    rw [Ngsession.submitData]
    split <;> rfl
  sends := h.sends.queued hptr hobj messages
  payloads := by
    refine h.payloads.queued fun m hm => ?_
    rw [Stream.enqueue_lqueueOmessages, List.mem_append] at hm
    rcases hm with hm | hm
    · exact h.payloads ptr s hobj m hm
    · exact hne m hm

/-- Submitting a frame keeps the session sound. -/
theorem submit (h : ez.Sound) (sub : Submission) : (ez.submit sub).Sound where
  registry := h.registry.of_same (Session.SameRegistry.submit ez sub)
  sends := h.sends.submitAll [sub]
  payloads := h.payloads

end Session.Sound

end Ezgrpc2
