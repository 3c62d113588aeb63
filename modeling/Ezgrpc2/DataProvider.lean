import Ezgrpc2.SessionTable
import Ezgrpc2.StreamLimits
import Ezgrpc2.StreamPath

/-! # The data provider of a stream

`stream_send` appends to the queue of the stream and ignores what `nghttp2_submit_data2` returns: when
a data provider is attached it is to read the new messages too. It does so unless it has announced
EOF already and is about to be detached. `WireState` follows the frames that carry the EOF, and
`Session.Fed` is the invariant: messages that are queued have a provider that reads them.
`feedRun_attached` carries it through every run of the server, and says when it fails. -/

namespace Ezgrpc2

open StepRuns

/-! ## (1) The frame that carries the EOF -/

/-- A session, with the streams for which nghttp2 is writing the frame that carries the EOF. -/
structure WireState where
  /-- The session whose frames are written. -/
  session : Session
  /-- The streams for which the read callback has set EOF and the frame is not written completely. -/
  writing : List ℤ

/-- One thing nghttp2 does, with the frame it begins or ends. -/
def wireStep (server : ServerShared) (st : WireState) (w : NgWrite) : Option WireState :=
  (ngWrite server st.session w).map fun (session, outs) =>
    { session := session
      writing := match w with
        | .read _ _ => st.writing ++
            (outs.filter fun o => o.dataFlags &&& dataFlagEof != 0).map DataOut.streamId
        | .detach streamId => st.writing.filter fun id => id != streamId
        | .close _ => st.writing }

/-- **When nghttp2 detaches the data provider of a stream**: when the frame that carries the EOF has
been written. Of the streams that are not `live` nothing is said. -/
def WireState.Detaches (live : ℤ → Prop) (st : WireState) : NgWrite → Prop
  | .detach streamId => live streamId → streamId ∈ st.writing
  | .read _ _ | .close _ => True

instance (live : ℤ → Prop) [DecidablePred live] (st : WireState) :
    (w : NgWrite) → Decidable (st.Detaches live w)
  | .detach streamId => inferInstanceAs (Decidable (live streamId → streamId ∈ st.writing))
  | .read _ _ | .close _ => inferInstanceAs (Decidable True)

/-- What nghttp2 does in a call is a run of single steps. -/
theorem run_wireStep {server : ServerShared} {ez ez' : Session} {ws : List NgWrite}
    {outs : List DataOut} (h : ngWrites server ez ws = some (ez', outs)) (writing : List ℤ) :
    ∃ writing', run (wireStep server) ⟨ez, writing⟩ ws = some ⟨ez', writing'⟩ := by
  induction ws generalizing ez outs writing with
  | nil =>
      cases h
      exact ⟨writing, rfl⟩
  | cons w ws ih =>
      obtain ⟨ez₁, out, outs', hw, hws, -⟩ := ngWrites_cons h
      rw [run_cons, wireStep, hw]
      exact ih hws _

/-- Without a failure all calls are made. -/
theorem writesDone_eq_flatMap {sends : List NgSend} (h : ∀ send ∈ sends, send.res = 0) :
    writesDone sends = sends.flatMap NgSend.writes := by
  induction sends with
  | nil => rfl
  | cons send sends ih =>
      rw [List.forall_mem_cons] at h
      rw [writesDone, if_neg (not_not.mpr h.1), ih h.2, List.flatMap_cons]

/-- The loop that ends with 0 has made all its calls. -/
theorem ngWrites_of_sendLoop {server : ServerShared} {ez ez' : Session} {sends : List NgSend}
    {outs : List DataOut} (h : sendLoop server ez sends = some (0, ez', outs)) :
    ngWrites server ez (sends.flatMap NgSend.writes) = some (ez', outs) := by
  obtain ⟨hws, hret⟩ := sendLoop_eq_some h
  split at hret
  · next hall => rwa [← writesDone_eq_flatMap hall]
  · cases hret

/-! ## (2) One call of the read callback -/

/-- The loop of the read callback takes messages from the front of the queue, and sets EOF when there is
none left. -/
theorem readLoop_queue {bufLen : ℕ} {stream : Stream} {buf : Bytes} {dataFlags : ℕ} {r : DataRead}
    (h : readLoop bufLen stream buf dataFlags = some r) :
    r.stream.lqueueOmessages <:+ stream.lqueueOmessages ∧
      (r.dataFlags = dataFlags ∨ r.stream.lqueueOmessages = []) := by
  fun_induction readLoop bufLen stream buf dataFlags with
  | case1 stream buf hfront =>
      obtain rfl := Option.some.inj h
      exact ⟨List.suffix_rfl, Or.inr (List.head?_eq_none_iff.mp hfront)⟩
  | case2 | case4 => cases h
  | case3 | case6 | case8 =>
      obtain rfl := Option.some.inj h
      exact ⟨List.suffix_rfl, Or.inl rfl⟩
  | case5 stream buf msg hfront ht hle rem hrem hseek left payload hfit ih =>
      obtain ⟨hsuffix, hflags⟩ := ih h
      obtain ⟨ms, hq⟩ := List.head?_eq_some_iff.mp hfront
      refine ⟨hsuffix.trans ?_, hflags⟩
      rw [Stream.endPayload, hq]
      exact List.suffix_cons msg ms
  | case7 stream buf msg hfront ht hle ih => exact ih h

/-- A call of the callback leaves a suffix of the queue, and with EOF set it has emptied it. -/
theorem dataSourceReadCallback2_queue {bufLen : ℕ} {stream : Stream} {r : DataRead}
    (h : dataSourceReadCallback2 bufLen stream 0 = some r) :
    r.stream.lqueueOmessages <:+ stream.lqueueOmessages ∧
      ((r.dataFlags &&& dataFlagEof != 0) = true → r.stream.lqueueOmessages = []) := by
  rw [dataSourceReadCallback2] at h
  split at h
  · cases h
    have hzero : ¬(0 &&& dataFlagEof != 0) = true := by decide
    exact ⟨List.suffix_rfl, fun heof => absurd heof hzero⟩
  · obtain ⟨hsuffix, hflags⟩ := readLoop_queue h
    refine ⟨hsuffix, fun heof => hflags.resolve_left fun hzero => ?_⟩
    rw [hzero] at heof
    cases heof

/-! ## (3) What is queued has a provider -/

/-- **The streams of a session are fed**: for the streams that are `live`, a data provider reads the
object the user data points to, and when messages are queued in the object there is one. -/
structure Session.Fed (ez : Session) (live : ℤ → Prop) : Prop where
  /-- The user data of each stream is its object. -/
  userData : ez.UserDataOk
  /-- A provider reads the object of its stream. -/
  provider : ∀ id p, live id → ez.ngsession.providers id = some p → ez.userData id = some p
  /-- A queue that is not empty has a provider. -/
  attached : ∀ id p s, live id → ez.userData id = some p → ez.objs p = some s →
    s.lqueueOmessages ≠ [] → ez.ngsession.providers id = some p

/-- **The invariant while nghttp2 writes**: when the frame with the EOF is begun the queue is empty. -/
structure WireState.Ok (st : WireState) (live : ℤ → Prop) : Prop where
  /-- The providers read the objects of live streams. -/
  fed : st.session.Fed live
  /-- A stream whose last frame is under way has an empty queue. -/
  drained : ∀ id p s, live id → id ∈ st.writing → st.session.userData id = some p →
    st.session.objs p = some s → s.lqueueOmessages = []

section Fed

variable {server : ServerShared} {ez ez' : Session} {live live' : ℤ → Prop} {streamId : ℤ} {ptr : ℕ}
  {s : Stream}

/-- A session that feeds its live streams does so when fewer are live. -/
theorem Session.Fed.mono (h : ez.Fed live) (hle : ∀ id, live' id → live id) : ez.Fed live' where
  userData := h.userData
  provider id p hlive := h.provider id p (hle id hlive)
  attached id p s hlive := h.attached id p s (hle id hlive)

/-- User data and providers are as before, and queues that are not empty were not. -/
theorem Session.Fed.of_shrinks (h : ez.Fed live) (hok : ez'.UserDataOk)
    (huser : ∀ id, ez'.userData id = ez.userData id)
    (hproviders : ez'.ngsession.providers = ez.ngsession.providers)
    (hqueue : ∀ p s', ez'.objs p = some s' → ∃ s, ez.objs p = some s ∧
      (s'.lqueueOmessages ≠ [] → s.lqueueOmessages ≠ [])) : ez'.Fed live where
  userData := hok
  provider id p hlive hp := by
    rw [huser]
    rw [hproviders] at hp
    exact h.provider id p hlive hp
  attached id p s' hlive hp hs' hne := by
    obtain ⟨s, hs, hsome⟩ := hqueue p s' hs'
    rw [huser] at hp
    rw [hproviders]
    exact h.attached id p s hlive hp hs (hsome hne)

/-- A session without streams and providers feeds whatever is live. -/
theorem Session.fed_of_none (hstreams : ∀ id, ez.userData id = none)
    (hproviders : ∀ id, ez.ngsession.providers id = none) : ez.Fed live where
  userData id p hp := by
    rw [hstreams] at hp
    cases hp
  provider id p _ hp := by
    rw [hproviders] at hp
    cases hp
  attached id p s _ hp := by
    rw [hstreams] at hp
    cases hp

/-- The end of a stream leaves the user data, the providers and the objects of the others. -/
theorem streamClose_others {r : CallbackResult} (hr : streamClose server ez streamId = some r) (id : ℤ) :
    (r.session.userData id = if id = streamId then none else ez.userData id) ∧
      (r.session.ngsession.providers id
        = if id = streamId then none else ez.ngsession.providers id) ∧
      ∀ p s, r.session.objs p = some s → ez.objs p = some s := by
  obtain ⟨q, l, hq, rfl⟩ := streamClose_eq_some hr
  refine ⟨Session.userData_closeStream rfl id, rfl, fun p s hs => ?_⟩
  by_cases hp : p = q
  · subst hp
    cases (Session.setObj_objs_self ez p none).symm.trans hs
  · exact (Session.setObj_objs_of_ne none hp).symm.trans hs

/-- **A stream that is closed** takes its object along, and the other providers stay fed. -/
theorem Session.Fed.streamClose (h : ez.Fed live) {r : CallbackResult}
    (hr : Ezgrpc2.streamClose server ez streamId = some r) : r.session.Fed live where
  userData := userDataOk_streamClose h.userData hr
  provider id p hlive hp := by
    obtain ⟨huser, hprovider, -⟩ := streamClose_others hr id
    rw [hprovider] at hp
    rw [huser]
    split at hp
    · cases hp
    · next hid =>
        rw [if_neg hid]
        exact h.provider id p hlive hp
  attached id p s hlive hp hs hne := by
    obtain ⟨huser, hprovider, hobjs⟩ := streamClose_others hr id
    rw [huser] at hp
    rw [hprovider]
    split at hp
    · cases hp
    · next hid =>
        rw [if_neg hid]
        exact h.attached id p s hlive hp (hobjs p s hs) hne

/-- The user data stays in order when an object is stored under its id. -/
theorem Session.UserDataOk.setObj (h : ez.UserDataOk) (hobj : ez.objs ptr = some s) {s' : Stream}
    (hid : s'.streamId = s.streamId) : (ez.setObj ptr (some s')).UserDataOk := by
  intro id p hp
  obtain ⟨t, ht, htid⟩ := h id p hp
  by_cases hpp : p = ptr
  · subst hpp
    obtain rfl := Option.some.inj (hobj.symm.trans ht)
    exact ⟨s', ez.setObj_objs_self p _, hid.trans htid⟩
  · exact ⟨t, (Session.setObj_objs_of_ne _ hpp).trans ht, htid⟩

/-- **nghttp2 reads from a provider** of a live stream, whose object is there. -/
theorem WireState.Ok.read {st : WireState} (h : st.Ok live) {writing : List ℤ} {r : DataRead}
    (hprovider : st.session.ngsession.providers streamId = some ptr)
    (hobj : st.session.objs ptr = some s) {bufLen : ℕ}
    (hr : dataSourceReadCallback2 bufLen s 0 = some r)
    (hwriting : ∀ id, id ∈ writing →
      id ∈ st.writing ∨ id = streamId ∧ (r.dataFlags &&& dataFlagEof != 0) = true) :
    WireState.Ok ⟨st.session.setObj ptr (some r.stream), writing⟩ live := by
  obtain ⟨hsuffix, heof⟩ := dataSourceReadCallback2_queue hr
  -- a read only takes messages from the front of a queue
  have hshrinks : ∀ p t', (st.session.setObj ptr (some r.stream)).objs p = some t' →
      ∃ t, st.session.objs p = some t ∧ t'.lqueueOmessages <:+ t.lqueueOmessages := by
    intro p t' ht'
    rw [Session.setObj_objs] at ht'
    split at ht'
    · next hp =>
        obtain rfl := Option.some.inj ht'
        exact ⟨s, hp ▸ hobj, hsuffix⟩
    · exact ⟨t', ht', List.suffix_rfl⟩
  constructor
  · refine h.fed.of_shrinks (h.fed.userData.setObj hobj (dataSourceReadCallback2_streamId hr))
      (fun _ => rfl) rfl fun p t' ht' => ?_
    obtain ⟨t, ht, hsuffix⟩ := hshrinks p t' ht'
    refine ⟨t, ht, fun hne hnil => hne ?_⟩
    rw [hnil] at hsuffix
    exact List.suffix_nil.mp hsuffix
  · intro id p t' hlive hbegun hp ht'
    rcases hwriting id hbegun with hbefore | ⟨rfl, hlast⟩
    · obtain ⟨t, ht, hsuffix⟩ := hshrinks p t' ht'
      rw [h.drained id p t hlive hbefore hp ht] at hsuffix
      exact List.suffix_nil.mp hsuffix
    · -- the provider reads the object of its stream
      obtain rfl := Option.some.inj ((h.fed.provider id ptr hlive hprovider).symm.trans hp)
      obtain rfl := Option.some.inj ((st.session.setObj_objs_self ptr _).symm.trans ht')
      exact heof hlast

/-- **nghttp2 detaches a provider**: nothing is queued behind it. -/
theorem WireState.Ok.detach {st : WireState} (h : st.Ok live)
    (hdetach : live streamId → streamId ∈ st.writing) {writing : List ℤ}
    (hwriting : ∀ id, id ∈ writing → id ∈ st.writing) :
    WireState.Ok ⟨{ st.session with ngsession := st.session.ngsession.detach streamId }, writing⟩
      live := by
  have hproviders : ∀ id, (st.session.ngsession.detach streamId).providers id
      = if id = streamId then none else st.session.ngsession.providers id := fun _ => rfl
  refine ⟨⟨h.fed.userData, ?_, ?_⟩,
    fun id p s hlive hbegun => h.drained id p s hlive (hwriting id hbegun)⟩
  · intro id p hlive hp
    rw [hproviders] at hp
    split at hp
    · cases hp
    · exact h.fed.provider id p hlive hp
  · intro id p s hlive hp hs hne
    show (st.session.ngsession.detach streamId).providers id = some p
    rw [hproviders]
    split
    · next hid =>
        subst hid
        exact absurd (h.drained id p s hlive (hdetach hlive) hp hs) hne
    · exact h.fed.attached id p s hlive hp hs hne

/-- **One thing nghttp2 does keeps the streams fed.** -/
theorem WireState.Ok.step {st st' : WireState} (h : st.Ok live) {w : NgWrite}
    (hdetach : st.Detaches live w) (hstep : wireStep server st w = some st') : st'.Ok live := by
  obtain ⟨⟨ez', outs⟩, hw, rfl⟩ := Option.map_eq_some_iff.mp hstep
  cases ngWrite_effect hw with
  | skipsRead =>
      refine ⟨h.fed, fun id p s hlive hbegun => h.drained id p s hlive ?_⟩
      simpa using hbegun
  | reads hprovider hobj hr =>
      refine h.read hprovider hobj hr fun id hbegun => ?_
      rcases List.mem_append.mp hbegun with hbefore | hlast
      · exact Or.inl hbefore
      · obtain ⟨o, ho, rfl⟩ := List.mem_map.mp hlast
        obtain ⟨hmem, heof⟩ := List.mem_filter.mp ho
        obtain rfl := List.mem_singleton.mp hmem
        exact Or.inr ⟨rfl, heof⟩
  | detaches streamId =>
      refine h.detach hdetach fun id hbegun => ?_
      exact List.mem_of_mem_filter hbegun
  | skipsClose => exact h
  | closes _ hr =>
      refine ⟨h.fed.streamClose hr, fun id p s hlive hbegun hp hs => ?_⟩
      obtain ⟨huser, -, hobjs⟩ := streamClose_others hr id
      rw [huser] at hp
      split at hp
      · cases hp
      · exact h.drained id p s hlive hbegun hp (hobjs p s hs)

/-- A run of what nghttp2 writes keeps the invariant. -/
theorem WireState.Ok.run {st st' : WireState} (h : st.Ok live) {ws : List NgWrite}
    (hdetach : Along (wireStep server) (WireState.Detaches live) st ws)
    (hrun : StepRuns.run (wireStep server) st ws = some st') : st'.Ok live :=
  Along.invariant (I := fun st => WireState.Ok st live) (fun _ _ _ hok hd hstep => hok.step hd hstep)
    h hdetach hrun

/-! ## (4) What happens to a session -/

/-- `nghttp2_submit_data2` on an open stream attaches a provider, unless the stream has one. -/
theorem providers_submitData {ng : Ngsession} (hopen : (ng.streams streamId).isSome = true) (id : ℤ) :
    (ng.submitData streamId ptr).providers id
      = if id = streamId then (ng.providers streamId).or (some ptr) else ng.providers id := by
  rw [Ngsession.submitData]
  cases hp : ng.providers streamId with
  | none =>
      rw [if_pos ⟨hopen, rfl⟩]
      rfl
  | some q =>
      rw [if_neg fun hcon => Option.some_ne_none q hcon.2]
      split
      · next hid => rw [hid, hp, Option.some_or]
      · rfl

/-- A stream with user data is open. -/
theorem Session.isSome_streams (hptr : ez.userData streamId = some ptr) :
    (ez.ngsession.streams streamId).isSome = true := by
  cases hstream : ez.ngsession.streams streamId with
  | none =>
      rw [Session.userData, Ngsession.getStreamUserData, hstream] at hptr
      cases hptr
  | some _ => rfl

/-- Messages that are queued leave the user data. -/
theorem Session.userData_queued (ez : Session) (streamId : ℤ) (ptr : ℕ) (s : Stream)
    (messages : List Message) (id : ℤ) :
    (ez.queued streamId ptr s messages).userData id = ez.userData id := by
  show ((ez.ngsession.submitData streamId ptr).streams id).join = _
  rw [Ngsession.submitData]
  split <;> rfl

/-- The data provider is attached unless another one is. -/
theorem Session.providers_queued (hptr : ez.userData streamId = some ptr) (messages : List Message)
    (id : ℤ) : (ez.queued streamId ptr s messages).ngsession.providers id
      = if id = streamId then (ez.ngsession.providers streamId).or (some ptr)
        else ez.ngsession.providers id := providers_submitData (Session.isSome_streams hptr) id

/-- **Messages are queued**: an older provider reads the queue they are appended to. -/
theorem Session.Fed.queued (h : ez.Fed live) (hptr : ez.userData streamId = some ptr)
    (hobj : ez.objs ptr = some s) (messages : List Message) :
    (ez.queued streamId ptr s messages).Fed live := by
  have huser := ez.userData_queued streamId ptr s messages
  have hproviders := Session.providers_queued (s := s) hptr messages
  -- `nghttp2_submit_data2` fails when a provider is attached, and that one reads the same object
  have hprovider : live streamId →
      (ez.ngsession.providers streamId).or (some ptr) = some ptr := by
    intro hlive
    cases hq : ez.ngsession.providers streamId with
    | none => rfl
    | some q =>
        rw [Option.some_or, ← hptr]
        exact (h.provider streamId q hlive hq).symm
  refine ⟨fun id p hp => ?_, fun id p hlive hp => ?_, fun id p t hlive hp ht hne => ?_⟩
  · rw [huser] at hp
    exact h.userData.setObj hobj (show (s.enqueue messages).streamId = s.streamId from rfl) id p hp
  · rw [hproviders] at hp
    rw [huser]
    split at hp
    · next hid =>
        subst hid
        rw [hprovider hlive] at hp
        exact hptr.trans hp
    · exact h.provider id p hlive hp
  · rw [huser] at hp
    rw [hproviders]
    split
    · next hid =>
        subst hid
        rw [hprovider hlive]
        exact hptr.symm.trans hp
    · next hid =>
        have hpp : p ≠ ptr := h.userData.ne hp hptr hid
        exact h.attached id p t hlive hp ((Session.setObj_objs_of_ne _ hpp).symm.trans ht) hne

/-- **A HEADERS frame starts on a stream that no data provider is attached to.** A frame that starts on
an open stream, with trailers, replaces the object of the stream, and a provider would go on
reading the one before. -/
def ClientAction.SparesProvider (live : ℤ → Prop) (ez : Session) : ClientAction → Prop
  | .beginHeaders streamId _ _ => live streamId → ez.ngsession.providers streamId = none
  | .header _ _ _ | .frameRecv _ | .dataChunk _ _ | .streamClose _ => True

instance (live : ℤ → Prop) [DecidablePred live] (ez : Session) :
    (a : ClientAction) → Decidable (a.SparesProvider live ez)
  | .beginHeaders streamId _ _ =>
      inferInstanceAs (Decidable (live streamId → ez.ngsession.providers streamId = none))
  | .header _ _ _ | .frameRecv _ | .dataChunk _ _ | .streamClose _ => inferInstanceAs (Decidable True)

theorem providers_beginHeaders (server : ServerShared) (ez : Session) (streamId : ℤ) (ptr : ℕ)
    (mem : ℕ → UInt8) : (beginHeaders server ez streamId ptr mem).session.ngsession.providers
      = ez.ngsession.providers := by
  show (Ngsession.setStreamUserData _ _ _).providers = _
  unfold Ngsession.setStreamUserData Ngsession.beginHeaders Ngsession.openStream
  repeat' split
  all_goals rfl

/-- **A callback that spares the providers keeps the streams fed.** -/
theorem Session.Fed.callback (h : ez.Fed live) {a : ClientAction} {r : CallbackResult}
    (hlegal : a.Legal ⟨server, ez, [], []⟩) (hspares : a.SparesProvider live ez)
    (hr : a.callback server ez = some r) : r.session.Fed live := by
  have hok := (userDataOk_callback h.userData hlegal hr).1
  by_cases hcontinues : a.Continues
  · -- between the start and the end of a stream its queue and its provider stay as they are
    have hsame := sendsSame_callback hcontinues hr
    obtain ⟨subs, hng⟩ := hsame.ngsession
    refine h.of_shrinks hok (fun id => ?_) (by rw [hng]) fun p s' hs' => ?_
    · rw [Session.userData, hng]
      rfl
    · obtain ⟨s, hs, hqueue⟩ := hsame.queue p s' hs'
      exact ⟨s, hs, fun hne => hqueue ▸ hne⟩
  · cases a with
    | beginHeaders streamId ptr mem =>
        cases hr
        refine ⟨hok, fun id p hlive hp => ?_, fun id p s hlive hp hs hne => ?_⟩
        · rw [providers_beginHeaders] at hp
          rw [userData_beginHeaders]
          split
          · next hid =>
              subst hid
              cases (hspares hlive).symm.trans hp
          · exact h.provider id p hlive hp
        · rw [userData_beginHeaders] at hp
          rw [objs_beginHeaders] at hs
          rw [providers_beginHeaders]
          split at hp
          · -- the new object has an empty queue
            obtain rfl := Option.some.inj hp
            rw [if_pos rfl] at hs
            obtain rfl := Option.some.inj hs
            exact absurd rfl hne
          · split at hs
            · next hpp =>
                obtain ⟨t, ht, -⟩ := h.userData id p hp
                rw [hpp] at ht
                cases (show ez.objs ptr = none from hlegal).symm.trans ht
            · exact h.attached id p s hlive hp hs hne
    | streamClose streamId => exact h.streamClose hr
    | header _ _ _ | frameRecv _ | dataChunk _ _ => exact absurd trivial hcontinues

/-- What was begun and freed before does not matter to a callback. -/
theorem callback_of_clientCallback {st : ClientState} {a : ClientAction} {r : CallbackResult}
    (hlegal : a.Legal st) (hr : clientCallback st a = some r) :
    a.Legal ⟨st.server, st.session, [], []⟩ ∧ a.callback st.server st.session = some r := by
  cases a with
  | beginHeaders _ _ _ | header _ _ _ | frameRecv _ | dataChunk _ _ | streamClose _ =>
      exact ⟨hlegal, hr⟩

/-- **What a client sends keeps the streams fed.** -/
theorem Session.Fed.clientRun {st st' : ClientState} (h : st.session.Fed live) {acts : List ClientAction}
    (hspares : Along clientStep (fun st a => a.SparesProvider live st.session) st acts)
    (hrun : StepRuns.run clientStep st acts = some st') : st'.session.Fed live := by
  refine Along.invariant (I := fun st : ClientState => st.session.Fed live) ?_ h hspares hrun
  intro st a st' hfed hspares hstep
  rw [clientStep] at hstep
  split at hstep
  · next hlegal =>
      obtain ⟨r, hr, rfl⟩ := Option.map_eq_some_iff.mp hstep
      obtain ⟨hlegal, hr⟩ := callback_of_clientCallback hlegal hr
      exact hfed.callback hlegal hspares hr
  · cases hstep

end Fed

/-! ## (5) Runs of the server -/

/-- The callbacks of an exchange: none where nghttp2 does not want to read. -/
def Exchange.received (x : Exchange) : List ClientAction := if x.wantRead then x.acts else []

/-- In an exchange nghttp2 detaches a data provider when the frame with the EOF has been written. -/
def Exchange.Detaches (x : Exchange) (live : ℤ → Prop) (server : ServerShared) (ez : Session)
    (writing : List ℤ) : Prop :=
  ∀ st ∈ run clientStep ⟨server, ez, [], []⟩ x.received,
    Along (wireStep st.server) (WireState.Detaches live) ⟨st.session, writing⟩
      (x.sends.flatMap NgSend.writes)

/-- In an exchange no HEADERS frame starts on a stream that a data provider is attached to. -/
def Exchange.SparesProviders (x : Exchange) (live : ℤ → Prop) (server : ServerShared) (ez : Session) :
    Prop :=
  Along clientStep (fun st a => a.SparesProvider live st.session) ⟨server, ez, [], []⟩ x.received

instance (x : Exchange) (live : ℤ → Prop) [DecidablePred live] (server : ServerShared) (ez : Session)
    (writing : List ℤ) : Decidable (x.Detaches live server ez writing) :=
  inferInstanceAs (Decidable (∀ st ∈ run clientStep _ _, Along (wireStep st.server) _ _ _))

instance (x : Exchange) (live : ℤ → Prop) [DecidablePred live] (server : ServerShared) (ez : Session) :
    Decidable (x.SparesProviders live server ez) :=
  inferInstanceAs (Decidable (Along clientStep _ _ _))

/-- A `session_events` that returns 0 has received its input and sent its output. -/
theorem sessionEvents_eq_zero {server : ServerShared} {ez ez' : Session} {x : Exchange}
    {events : Events} (h : sessionEvents server ez x = some (0, events, ez')) :
    ∃ st outs, run clientStep ⟨server, ez, [], []⟩ x.received = some st ∧
      sendLoop st.server st.session x.sends = some (0, ez', outs) := by
  rw [sessionEvents] at h
  split at h
  · cases h
  · obtain ⟨st, hst, h⟩ := Option.bind_eq_some_iff.mp h
    dsimp only at h
    split at h
    · cases h
    · obtain ⟨⟨ret, ez₁, outs⟩, hloop, h⟩ := Option.bind_eq_some_iff.mp h
      simp only [Option.some.injEq, Prod.mk.injEq, ite_eq_left_iff, Nat.one_ne_zero, imp_false,
        not_not] at h
      obtain ⟨rfl, -, rfl⟩ := h
      exact ⟨st, outs, hst, hloop⟩

/-- **A loop that sends keeps the streams fed**, when no frame with an EOF is under way before it. -/
theorem Session.Fed.sendLoop {server : ServerShared} {ez ez' : Session} {live : ℤ → Prop}
    (h : ez.Fed live) {writing : List ℤ} (hidle : ∀ id, live id → id ∉ writing)
    {sends : List NgSend} {outs : List DataOut}
    (hdetach : Along (wireStep server) (WireState.Detaches live) ⟨ez, writing⟩
      (sends.flatMap NgSend.writes))
    (hloop : Ezgrpc2.sendLoop server ez sends = some (0, ez', outs)) : ez'.Fed live := by
  have hok : WireState.Ok ⟨ez, writing⟩ live := by
    exact ⟨h, fun id p s hlive hbegun => absurd hbegun (hidle id hlive)⟩
  obtain ⟨writing', hrun⟩ := run_wireStep (ngWrites_of_sendLoop hloop) writing
  exact (hok.run hdetach hrun).fed

/-- **An exchange that succeeds keeps the streams fed.** -/
theorem Session.Fed.exchange {server : ServerShared} {ez ez' : Session} {live : ℤ → Prop}
    (h : ez.Fed live) {writing : List ℤ} (hidle : ∀ id, live id → id ∉ writing)
    {x : Exchange} (hdetach : x.Detaches live server ez writing)
    (hspares : x.SparesProviders live server ez) {events : Events}
    (hevents : sessionEvents server ez x = some (0, events, ez')) : ez'.Fed live := by
  obtain ⟨st, outs, hrun, hloop⟩ := sessionEvents_eq_zero hevents
  have hfed : st.session.Fed live :=
    Session.Fed.clientRun (show Session.Fed ez live from h) hspares hrun
  exact hfed.sendLoop hidle (hdetach st hrun) hloop

/-- What the head of a call finds. -/
structure Located where
  /-- The cell of the table that the session is in. -/
  index : ℕ
  /-- The session that was found there. -/
  session : Session
  /-- The address of the stream object. -/
  ptr : ℕ

/-- The cell, session and object of the stream that a call works on. -/
def Server.located (server : Server) (uuid : SessionUuid) (streamId : ℤ) : Option Located :=
  match locate server uuid streamId with
  | some (.ok (i, ez, ptr)) => some ⟨i, ez, ptr⟩
  | _ => none

/-- What the head of a call finds is the session of the handle. -/
theorem located_eq_some {server : Server} {uuid : SessionUuid} {streamId : ℤ} {i ptr : ℕ} {ez : Session}
    (h : locate server uuid streamId = some (.ok (i, ez, ptr))) :
    server.located uuid streamId = some ⟨i, ez, ptr⟩ ∧ ez.sessionUuid = uuid := by
  refine ⟨by rw [Server.located, h], ?_⟩
  obtain ⟨rfl, hslot, -⟩ := locate_eq_ok h
  obtain ⟨found, hfind, h⟩ := Option.bind_eq_some_iff.mp h
  cases found with
  | none => cases h
  | some j =>
      obtain ⟨rfl, heq⟩ := sessionFind_eq_some hfind
      rw [Slot.sessionUuid, hslot] at heq
      exact heq

/-- The frames with an EOF that are under way after nghttp2 has made some progress. -/
def writingAfter (server : ServerShared) (st : WireState) (ws : List NgWrite) : List ℤ :=
  match run (wireStep server) st ws with
  | some st' => st'.writing
  | none => st.writing

/-- The server, with the frames under way and the streams that were ended. -/
structure FeedState where
  /-- The server with all its sessions. -/
  server : Server
  /-- The streams of each cell for which the frame with the EOF is under way. -/
  writing : ℕ → List ℤ
  /-- The streams `stream_end` was called on. -/
  ended : List (SessionUuid × ℤ)

namespace FeedState

/-- `stream_end` has not been called on the stream. -/
def Live (st : FeedState) (ez : Session) (streamId : ℤ) : Prop := (ez.sessionUuid, streamId) ∉ st.ended

instance (st : FeedState) (ez : Session) : DecidablePred (st.Live ez) :=
  fun streamId => inferInstanceAs (Decidable ((ez.sessionUuid, streamId) ∉ st.ended))

/-- The frames under way on the socket of a cell: none without a socket. -/
def inFlight (st : FeedState) (i : ℕ) : List ℤ :=
  if (st.server.fds i).fd = -1 then [] else st.writing i

/-- The session in which `stream_end` has submitted its trailers. -/
def trailing (found : Located) (streamId status : ℤ) : Session :=
  found.session.submit (.trailer streamId (statusTrailers status))

/-- The state behind a `stream_end` that finds its stream. The result of its `nghttp2_session_send` is
ignored, and a frame may be left under way. -/
def afterEnd (st : FeedState) (server : Server) (found : Located) (uuid : SessionUuid)
    (streamId status : ℤ) (send : NgSend) : FeedState where
  server := server
  writing := Function.update st.writing found.index
    (writingAfter st.server.toServerShared
      ⟨trailing found streamId status, st.writing found.index⟩ send.writes)
  ended := st.ended ++ [(uuid, streamId)]

end FeedState

/-- In the round the session of the cell is served or freed, or is a new one. -/
def Round.Visits (round : Round) (server : Server) (i : ℕ) : Prop :=
  (server.fds i).fd = -1 ∨
    0 < round.ready ∧ round.revents i &&& (pollin ||| pollrdhup ||| pollerr) ≠ 0

instance (round : Round) (server : Server) (i : ℕ) : Decidable (round.Visits server i) :=
  inferInstanceAs (Decidable (_ ∨ _ ∧ _))

/-- One step. A `stream_send` does not fail in `nghttp2_session_send`. A loop that ends with 0 ends
because nghttp2 does not want to write, and it does as long as a frame is partly written: none is
under way behind the loop. -/
def feedStep (st : FeedState) : ServerAction → Option FeedState
  | .poll round => do
      let (_, server) ← serverPoll st.server round
      some
        { st with
          server := server
          writing := fun i => if round.Visits st.server i then [] else st.writing i }
  | .streamSend uuid streamId messages sends => do
      let r ← sessionStreamSend st.server uuid streamId messages sends
      if r.ret ≤ 2 then
        some
          { st with
            server := r.server
            writing := if r.ret = 0 then Function.update st.writing uuid.index [] else st.writing }
      else none
  | .streamEnd uuid streamId status send => do
      let r ← sessionStreamEnd st.server uuid streamId status send
      match st.server.located uuid streamId with
      | some found => some (st.afterEnd r.server found uuid streamId status send)
      | none => some { st with server := r.server }
  | .pathCall call =>
      some { st with server := { st.server with table := (st.server.table.call call).2 } }

/-- A new server, on which no stream is ended and no frame under way. -/
def feedStart (ipv4Sockfd ipv6Sockfd : ℤ) (maxConnections initialWindowSize : ℕ)
    (maxPaths : MaxPaths) : FeedState where
  server := serverNew ipv4Sockfd ipv6Sockfd maxConnections initialWindowSize maxPaths
  writing := fun _ => []
  ended := []

namespace FeedState

/-- **What nghttp2 promises**: it detaches the data provider of a stream when the frame for which the
read callback set EOF has been written. -/
def Promised (st : FeedState) : ServerAction → Prop
  | .poll round => 0 < round.ready → ∀ server₀ ∈ round.start st.server,
      Along (pollCell round) (fun server i => server.Readable i →
        ∀ ez ∈ (server.sessions i).session,
          (round.exchange i).Detaches (st.Live ez) server.toServerShared ez (st.inFlight i))
        server₀ (List.range' 2 (server₀.nbFds - 2))
  | .streamSend uuid streamId messages sends => ∀ found ∈ st.server.located uuid streamId,
      ∀ s ∈ found.session.objs found.ptr,
        Along (wireStep st.server.toServerShared) (WireState.Detaches (st.Live found.session))
          ⟨found.session.queued streamId found.ptr s messages, st.writing found.index⟩
          (sends.flatMap NgSend.writes)
  | .streamEnd uuid streamId status send => ∀ found ∈ st.server.located uuid streamId,
      Along (wireStep st.server.toServerShared)
        (WireState.Detaches fun id => st.Live found.session id ∧ id ≠ streamId)
        ⟨trailing found streamId status, st.writing found.index⟩ send.writes
  | .pathCall _ => True

/-- **Providers are spared**: no HEADERS frame starts on a stream that a data provider is attached to,
and no `stream_end` leaves the frame with the EOF of another stream partly written. -/
def Spares (st : FeedState) : ServerAction → Prop
  | .poll round => 0 < round.ready → ∀ server₀ ∈ round.start st.server,
      Along (pollCell round) (fun server i => server.Readable i →
        ∀ ez ∈ (server.sessions i).session,
          (round.exchange i).SparesProviders (st.Live ez) server.toServerShared ez)
        server₀ (List.range' 2 (server₀.nbFds - 2))
  | .streamEnd uuid streamId status send => ∀ found ∈ st.server.located uuid streamId,
      ∀ id ∈ writingAfter st.server.toServerShared
        ⟨trailing found streamId status, st.writing found.index⟩ send.writes,
        ¬(st.Live found.session id ∧ id ≠ streamId)
  | .streamSend _ _ _ _ | .pathCall _ => True

instance (st : FeedState) : (act : ServerAction) → Decidable (st.Promised act)
  | .poll round => inferInstanceAs (Decidable (0 < round.ready →
      ∀ server₀ ∈ round.start st.server, Along (pollCell round) (fun server i => server.Readable i →
        ∀ ez ∈ (server.sessions i).session,
          (round.exchange i).Detaches (st.Live ez) server.toServerShared ez (st.inFlight i))
        server₀ (List.range' 2 (server₀.nbFds - 2))))
  | .streamSend uuid streamId messages sends =>
      inferInstanceAs (Decidable (∀ found ∈ st.server.located uuid streamId,
        ∀ s ∈ found.session.objs found.ptr,
          Along (wireStep st.server.toServerShared) (WireState.Detaches (st.Live found.session))
            ⟨found.session.queued streamId found.ptr s messages, st.writing found.index⟩
            (sends.flatMap NgSend.writes)))
  | .streamEnd uuid streamId status send =>
      inferInstanceAs (Decidable (∀ found ∈ st.server.located uuid streamId,
        Along (wireStep st.server.toServerShared)
          (WireState.Detaches fun id => st.Live found.session id ∧ id ≠ streamId)
          ⟨trailing found streamId status, st.writing found.index⟩ send.writes))
  | .pathCall _ => inferInstanceAs (Decidable True)

instance (st : FeedState) : (act : ServerAction) → Decidable (st.Spares act)
  | .poll round => inferInstanceAs (Decidable (0 < round.ready →
      ∀ server₀ ∈ round.start st.server, Along (pollCell round) (fun server i => server.Readable i →
        ∀ ez ∈ (server.sessions i).session,
          (round.exchange i).SparesProviders (st.Live ez) server.toServerShared ez)
        server₀ (List.range' 2 (server₀.nbFds - 2))))
  | .streamEnd uuid streamId status send =>
      inferInstanceAs (Decidable (∀ found ∈ st.server.located uuid streamId,
        ∀ id ∈ writingAfter st.server.toServerShared
          ⟨trailing found streamId status, st.writing found.index⟩ send.writes,
          ¬(st.Live found.session id ∧ id ≠ streamId)))
  | .streamSend _ _ _ _ | .pathCall _ => inferInstanceAs (Decidable True)

/-- **Messages that are queued for a stream have a data provider that reads them**, if `stream_end` has
not been called on the stream. -/
def Attached (st : FeedState) : Prop :=
  ∀ i ez, (st.server.sessions i).session = some ez → ∀ id p s, st.Live ez id →
    ez.userData id = some p → ez.objs p = some s → s.lqueueOmessages ≠ [] →
      ez.ngsession.providers id = some p

/-- **The invariant between two calls**: all streams are fed and no frame with an EOF is under way. -/
structure Ok (st : FeedState) : Prop where
  /-- The providers of each session read the objects of its live streams. -/
  fed : ∀ i ez, (st.server.sessions i).session = some ez → ez.Fed (st.Live ez)
  /-- No frame of a live stream is its last one. -/
  idle : ∀ i ez id, (st.server.sessions i).session = some ez → st.Live ez id → id ∉ st.writing i

variable {st st' : FeedState}

theorem Ok.attached (h : st.Ok) : st.Attached :=
  fun i ez hslot id p s hlive hp hs hne => (h.fed i ez hslot).attached id p s hlive hp hs hne

/-- The session in one cell changes, or the frames under way on it; other streams may have ended. -/
theorem Ok.update (h : st.Ok) {i : ℕ} {ez' : Session} {writing : List ℤ}
    (hserver : st'.server = st.server.setSession i ez')
    (hwriting : st'.writing = Function.update st.writing i writing)
    (hended : ∀ ez id, st'.Live ez id → st.Live ez id) (hfed : ez'.Fed (st'.Live ez'))
    (hidle : ∀ id, st'.Live ez' id → id ∉ writing) : st'.Ok := by
  have hcell : ∀ j ez, (st'.server.sessions j).session = some ez →
      j = i ∧ ez = ez' ∨ j ≠ i ∧ (st.server.sessions j).session = some ez := by
    intro j ez hslot
    rw [hserver] at hslot
    by_cases hj : j = i
    · subst hj
      rw [Server.setSession_self, Option.some.injEq] at hslot
      exact Or.inl ⟨rfl, hslot.symm⟩
    · rw [Server.setSession_of_ne _ hj] at hslot
      exact Or.inr ⟨hj, hslot⟩
  constructor
  · intro j ez hslot
    rcases hcell j ez hslot with ⟨-, rfl⟩ | ⟨-, hold⟩
    · exact hfed
    · exact (h.fed j ez hold).mono (hended ez)
  · intro j ez id hslot hlive
    rw [hwriting]
    rcases hcell j ez hslot with ⟨rfl, rfl⟩ | ⟨hj, hold⟩
    · rw [Function.update_self]
      exact hidle id hlive
    · rw [Function.update_of_ne hj]
      exact h.idle j ez id hold (hended ez id hlive)

/-- A `stream_send` that is used as promised keeps the invariant. -/
theorem Ok.streamSend (h : st.Ok) {uuid : SessionUuid} {streamId : ℤ} {messages : List Message}
    {sends : List NgSend} (hpromised : st.Promised (.streamSend uuid streamId messages sends))
    (hstep : feedStep st (.streamSend uuid streamId messages sends) = some st') : st'.Ok := by
  obtain ⟨r, hr, hstep⟩ := Option.bind_eq_some_iff.mp hstep
  split at hstep
  · next hret =>
      cases hstep
      rcases sessionStreamSend_eq_some hr with
        ⟨ret, hfind, rfl⟩ | ⟨ez, ptr, s, ret, ez', outs, hfind, hslot, hptr, hobj, hloop, rfl⟩
      · -- the stream is not found
        have hne : ret ≠ 0 := by
          rcases locate_eq_error hfind with rfl | rfl <;> decide
        refine ⟨h.fed, ?_⟩
        simp only [if_neg hne]
        exact h.idle
      · -- a session whose `nghttp2_session_send` has failed, with 3, is not followed any further
        have hzero : ret = 0 := by
          have hnot := sendLoop_ret hloop
          have hle : ret ≤ 2 := hret
          omega
        subst hzero
        have hfed := (h.fed _ ez hslot).queued hptr hobj messages
        have hsame : ez'.sessionUuid = ez.sessionUuid := (sendLoop_same hloop).sessionUuid
        refine @Ok.update st _ h uuid.index ez' _ rfl rfl (fun _ _ hlive => hlive) ?_
          (fun id _ => List.not_mem_nil)
        refine Session.Fed.mono (hfed.sendLoop (fun id hlive => h.idle _ ez id hslot hlive)
          (hpromised _ (located_eq_some hfind).1 s hobj) hloop) fun id hlive => ?_
        rw [Live, hsame] at hlive
        exact hlive
  · cases hstep

/-- `stream_end` keeps it for the other streams. -/
theorem Ok.streamEnd (h : st.Ok) {uuid : SessionUuid} {streamId status : ℤ} {send : NgSend}
    (hpromised : st.Promised (.streamEnd uuid streamId status send))
    (hspares : st.Spares (.streamEnd uuid streamId status send))
    (hstep : feedStep st (.streamEnd uuid streamId status send) = some st') : st'.Ok := by
  obtain ⟨r, hr, hstep⟩ := Option.bind_eq_some_iff.mp hstep
  rcases sessionStreamEnd_eq_some hr with
    ⟨ret, hfind, rfl⟩ | ⟨ez, ptr, ez', outs, hfind, hslot, hws, rfl⟩
  · have hnone : st.server.located uuid streamId = none := by
      rw [Server.located, hfind]
    rw [hnone] at hstep
    cases hstep
    exact h
  · obtain ⟨hlocated, huuid⟩ := located_eq_some hfind
    rw [hlocated] at hstep
    cases hstep
    let found : Located := ⟨uuid.index, ez, ptr⟩
    -- a stream that was ended is not live any more, so only the other ones have to stay fed
    let others : ℤ → Prop := fun id => st.Live ez id ∧ id ≠ streamId
    have hok : WireState.Ok ⟨trailing found streamId status, st.writing uuid.index⟩ others := by
      have hfed : ez.Fed others := (h.fed _ ez hslot).mono fun _ hid => hid.1
      exact ⟨⟨hfed.userData, hfed.provider, hfed.attached⟩, fun id p s hlive hbegun =>
        absurd hbegun (h.idle _ ez id hslot hlive.1)⟩
    obtain ⟨writing', hrun⟩ := run_wireStep hws (st.writing uuid.index)
    have hok' := hok.run (hpromised found hlocated) hrun
    have hsame : ez'.sessionUuid = ez.sessionUuid := (ngWrites_same hws).sessionUuid
    have hothers : ∀ id, (ez'.sessionUuid, id) ∉ st.ended ++ [(uuid, streamId)] → others id := by
      intro id hlive
      rw [hsame, List.mem_append, not_or] at hlive
      refine ⟨hlive.1, ?_⟩
      rintro rfl
      exact hlive.2 (by rw [huuid]; exact List.mem_singleton_self _)
    refine @Ok.update st _ h uuid.index ez' _ rfl rfl
      (fun _ _ hlive hin => hlive (List.mem_append_left _ hin))
      (hok'.fed.mono hothers) fun id hlive hbegun => ?_
    exact hspares found hlocated id hbegun (hothers id hlive)

/-- **What an accept makes of a cell**: it stays, or it was free and gets a session without streams. -/
theorem session_pollListener {server server' : Server} {i : ℕ} {acc : Accept}
    (h : pollListener server i acc = some server') (j : ℕ) :
    ((server'.fds j).fd = -1 → (server.fds j).fd = -1) ∧
      ∀ ez, (server'.sessions j).session = some ez → (server.sessions j).session = some ez ∨
        (server.fds j).fd = -1 ∧ (∀ id, ez.userData id = none) ∧
          ∀ id, ez.ngsession.providers id = none := by
  rcases pollListener_cases h with rfl | ⟨hconfd, hrefused | ⟨k, hadded⟩⟩
  · exact ⟨id, fun ez hslot => Or.inl hslot⟩
  · rw [hrefused.cells.fd, hrefused.cells.session]
    exact ⟨id, fun ez hslot => Or.inl hslot⟩
  · rw [hadded.cell.fd, hadded.cell.session]
    by_cases hj : j = k
    · -- the cell was free, and the new session has no streams
      rw [if_pos hj, if_pos hj, hj]
      refine ⟨fun hcon => absurd hcon hconfd, fun ez hez => Or.inr ⟨hadded.free, ?_⟩⟩
      obtain rfl := Option.some.inj hez
      exact ⟨fun _ => rfl, fun _ => rfl⟩
    · rw [if_neg hj, if_neg hj]
      exact ⟨id, fun ez hslot => Or.inl hslot⟩

/-- The sessions in front of the loop: those of before, and new ones without streams. -/
theorem session_start {round : Round} {server server₀ : Server} (h : round.start server = some server₀)
    {i : ℕ} {ez : Session} (hslot : (server₀.sessions i).session = some ez) :
    (server.sessions i).session = some ez ∨
      (server.fds i).fd = -1 ∧ (∀ id, ez.userData id = none) ∧
        ∀ id, ez.ngsession.providers id = none := by
  obtain ⟨server₁, hipv4, hipv6⟩ := Option.bind_eq_some_iff.mp h
  obtain ⟨hfd₁, hsession₁⟩ := session_pollListener hipv4 i
  obtain ⟨-, hsession₂⟩ := session_pollListener hipv6 i
  rcases hsession₂ ez hslot with hold | ⟨hfree, hnew⟩
  · exact hsession₁ ez hold
  · exact Or.inr ⟨hfd₁ hfree, hnew⟩

/-- A cell that is not polled is left alone. -/
theorem pollCell_of_not_readable {round : Round} {server : Server} {i : ℕ} (hhang : ¬server.HangsUp i)
    (hread : ¬server.Readable i) : pollCell round server i = some server := by
  rw [pollCell]
  exact (if_neg hhang).trans (if_neg hread)

/-- **The invariant in the course of a round.** -/
def FedIn (st : FeedState) (server : Server) : Prop :=
  ∀ i ez, (server.sessions i).session = some ez →
    ez.Fed (st.Live ez) ∧ ∀ id, st.Live ez id → id ∉ st.inFlight i

/-- The start of a round, with its accepts, keeps the sessions as the loop needs them. -/
theorem Ok.start (h : st.Ok) {round : Round} {server₀ : Server}
    (hstart : round.start st.server = some server₀) : st.FedIn server₀ := by
  intro i ez hslot
  rcases session_start hstart hslot with hold | ⟨hfree, hstreams, hproviders⟩
  · refine ⟨h.fed i ez hold, fun id hlive => ?_⟩
    rw [inFlight]
    split
    · exact List.not_mem_nil
    · exact h.idle i ez id hold hlive
  · refine ⟨Session.fed_of_none hstreams hproviders, fun id _ => ?_⟩
    rw [inFlight, if_pos hfree]
    exact List.not_mem_nil

/-- **A cell of the loop** keeps the sessions as the rest of the loop needs them. -/
theorem FedIn.pollCell {round : Round} {server server' : Server} (h : st.FedIn server) {i : ℕ}
    (hdetach : server.Readable i → ∀ ez ∈ (server.sessions i).session,
      (round.exchange i).Detaches (st.Live ez) server.toServerShared ez (st.inFlight i))
    (hspares : server.Readable i → ∀ ez ∈ (server.sessions i).session,
      (round.exchange i).SparesProviders (st.Live ez) server.toServerShared ez)
    (hcell : Ezgrpc2.pollCell round server i = some server') : st.FedIn server' := by
  -- a session that is freed is gone, and the others stay
  have hfreed : server.CellSet server' i (-1) none → st.FedIn server' := by
    intro hset j ez hslot
    rw [hset.session] at hslot
    split at hslot
    · cases hslot
    · exact h j ez hslot
  rcases pollCell_cases hcell with ⟨-, ez, -, hhung⟩ | ⟨hhang, ⟨-, rfl⟩ | ⟨ez, hslot, hserved⟩⟩
  · exact hfreed hhung.cell
  · exact h
  · rcases hserved with ⟨ez', es, hserved⟩ | ⟨es, hended⟩
    · by_cases hread : server.Readable i
      · obtain ⟨hfed, hidle⟩ := h i ez hslot
        obtain ⟨events, hevents⟩ := hserved.exchange
        have hfed' := hfed.exchange hidle (hdetach hread ez hslot) (hspares hread ez hslot) hevents
        have hlive : ∀ id, st.Live ez' id ↔ st.Live ez id := by
          intro id
          rw [Live, Live, hserved.same.sessionUuid]
        intro j ez₁ hslot₁
        rw [hserved.cell.session] at hslot₁
        split at hslot₁
        · next hj =>
            subst hj
            obtain rfl := Option.some.inj hslot₁
            exact ⟨hfed'.mono fun id => (hlive id).mp, fun id hid => hidle id ((hlive id).mp hid)⟩
        · exact h j ez₁ hslot₁
      · obtain rfl := Option.some.inj ((pollCell_of_not_readable hhang hread).symm.trans hcell)
        exact h
    · exact hfreed hended.cell

/-- A round in which closed streams spare the providers keeps the invariant. -/
theorem Ok.poll (h : st.Ok) {round : Round} (hpromised : st.Promised (.poll round))
    (hspares : st.Spares (.poll round)) (hstep : feedStep st (.poll round) = some st') : st'.Ok := by
  obtain ⟨⟨ret, server'⟩, hpoll, hstep⟩ := Option.bind_eq_some_iff.mp hstep
  cases hstep
  have hin : st.FedIn server' ∨
      ∀ i, (server'.sessions i).session = (st.server.sessions i).session := by
    by_cases hready : 0 < round.ready
    · left
      obtain ⟨server₀, hstart, hcells⟩ := serverPoll_eq_some hready hpoll
      rw [pollCells_eq_run] at hcells
      -- the cells are visited one after the other, each under the condition it meets when its
      -- turn comes
      refine Along.invariant (I := st.FedIn) ?_ (h.start hstart)
        ((hpromised hready server₀ hstart).and (hspares hready server₀ hstart)) hcells
      exact fun server i server' hfed hcond hcell => hfed.pollCell hcond.1 hcond.2 hcell
    · right
      rw [serverPoll, if_pos (not_lt.mp hready)] at hpoll
      cases hpoll
      exact fun _ => rfl
  constructor
  · intro i ez hslot
    rcases hin with hin | hsame
    · exact (hin i ez hslot).1
    · exact h.fed i ez ((hsame i).symm.trans hslot)
  · intro i ez id hslot hlive
    dsimp only
    split
    · exact List.not_mem_nil
    · next hvisits =>
        rcases hin with hin | hsame
        · have hidle := (hin i ez hslot).2 id hlive
          rw [inFlight, if_neg fun hfree => hvisits (Or.inl hfree)] at hidle
          exact hidle
        · exact h.idle i ez id ((hsame i).symm.trans hslot) hlive

/-- **Every step that spares the providers keeps the invariant.** -/
theorem Ok.step (h : st.Ok) {act : ServerAction} (hpromised : st.Promised act) (hspares : st.Spares act)
    (hstep : feedStep st act = some st') : st'.Ok := by
  cases act with
  | poll round => exact h.poll hpromised hspares hstep
  | streamSend uuid streamId messages sends => exact h.streamSend hpromised hstep
  | streamEnd uuid streamId status send => exact h.streamEnd hpromised hspares hstep
  | pathCall call =>
      cases hstep
      exact ⟨h.fed, h.idle⟩

end FeedState

/-- **When queued messages have a provider.** In every run of rounds and calls of the application in which
no HEADERS frame starts on a stream that a data provider is attached to, and no `stream_end` leaves the
last frame of the data of another stream partly written: whatever `stream_send` has queued for a
stream, also while the data before it is blocked, a data provider reads it. -/
theorem feedRun_attached (ipv4Sockfd ipv6Sockfd : ℤ) (maxConnections initialWindowSize : ℕ)
    (maxPaths : MaxPaths) {acts : List ServerAction} {st : FeedState}
    (hpromised : Along feedStep FeedState.Promised
      (feedStart ipv4Sockfd ipv6Sockfd maxConnections initialWindowSize maxPaths) acts)
    (hspares : Along feedStep FeedState.Spares
      (feedStart ipv4Sockfd ipv6Sockfd maxConnections initialWindowSize maxPaths) acts)
    (hrun : run feedStep
      (feedStart ipv4Sockfd ipv6Sockfd maxConnections initialWindowSize maxPaths) acts = some st) :
    st.Attached := by
  have hstart : (feedStart ipv4Sockfd ipv6Sockfd maxConnections initialWindowSize maxPaths).Ok :=
    ⟨fun i ez hslot => (nomatch hslot), fun i ez id hslot => (nomatch hslot)⟩
  have hok : st.Ok := Along.invariant (I := FeedState.Ok)
    (fun _ _ _ hok hcond hstep => hok.step hcond.1 hcond.2 hstep) hstart (hpromised.and hspares) hrun
  exact hok.attached

/-- A round in which the client of cell 2 causes `acts`, and nghttp2 makes `writes`. -/
def roundOf (acts : List ClientAction) (writes : List NgWrite) : ServerAction :=
  .poll
    { ready := 1
      revents := fun j => if j = 2 then pollin else 0
      events := eventsNew
      ipv4 := ⟨-1, true, true, true, 22⟩
      ipv6 := ⟨-1, true, true, true, 23⟩
      exchange := fun _ => ⟨true, true, acts, 0, [⟨writes, 0⟩]⟩ }

/-- The queue of stream 1 in cell 2 and the data provider of the stream, as the addresses of their
objects. -/
structure FeedView where
  /-- The object that the stream points to. -/
  obj : Option ℕ
  /-- The number of messages queued in it. -/
  queued : Option ℕ
  /-- The object that its provider reads. -/
  provider : Option ℕ
deriving DecidableEq

/-- What there is of stream 1 in the first cell of a client. -/
def FeedState.view (st : FeedState) : Option FeedView :=
  ((st.server.sessions 2).session).map fun ez =>
    { obj := ez.userData 1
      queued := ((ez.userData 1).bind ez.objs).map fun s => s.lqueueOmessages.length
      provider := ez.ngsession.providers 1 }

/-- A client connects and opens stream 1; a message is queued that its window does not let through. -/
def blocked : List ServerAction :=
  [roundOne 20 0 pollin true, roundOf [.beginHeaders 1 16 fun _ => 0] [],
    .streamSend ⟨20, 2⟩ 1 [messageNew 0 [1, 2]] []]

/-- The call that queues the next message of stream 1. -/
def sendNext : ServerAction := .streamSend ⟨20, 2⟩ 1 [messageNew 0 [3]] []

/-- A HEADERS frame, with trailers, starts while a message is blocked, and the next message is queued in
the new object of the stream, which no data provider reads. `nghttp2_submit_data2` fails, and
`stream_send` returns 0. -/
theorem feedRun_not_attached :
    let acts := blocked ++ [roundOf [.beginHeaders 1 32 fun _ => 0] []]
    ∃ st st', Along feedStep FeedState.Promised (feedStart 3 (-1) 1 100 ⟨10, by decide⟩)
        (acts ++ [sendNext]) ∧
      run feedStep (feedStart 3 (-1) 1 100 ⟨10, by decide⟩) acts = some st ∧
      (sessionStreamSend st.server ⟨20, 2⟩ 1 [messageNew 0 [3]] []).map CallResult.ret = some 0 ∧
      feedStep st sendNext = some st' ∧ st'.view = some ⟨some 32, some 1, some 16⟩ ∧
      ¬st'.Attached := by
  have hview : (run feedStep (feedStart 3 (-1) 1 100 ⟨10, by decide⟩)
      (blocked ++ [roundOf [.beginHeaders 1 32 fun _ => 0] []])).map (fun st =>
        ((sessionStreamSend st.server ⟨20, 2⟩ 1 [messageNew 0 [3]] []).map CallResult.ret,
          (feedStep st sendNext).map fun st' => (st'.view, st'.ended)))
      = some (some 0, some (some ⟨some 32, some 1, some 16⟩, [])) := by
    decide +kernel
  obtain ⟨st, hrun, hview⟩ := Option.map_eq_some_iff.mp hview
  obtain ⟨hret, hview⟩ := Prod.mk.inj hview
  obtain ⟨st', hstep, hview⟩ := Option.map_eq_some_iff.mp hview
  obtain ⟨hview, hended⟩ := Prod.mk.inj hview
  refine ⟨st, st', by decide +kernel, hrun, hret, hstep, hview, fun hattached => ?_⟩
  obtain ⟨ez, hslot, hview⟩ := Option.map_eq_some_iff.mp hview
  obtain ⟨hptr, hqueued, hprovider⟩ := FeedView.mk.inj hview
  obtain ⟨s, hobj, hlen⟩ := Option.map_eq_some_iff.mp hqueued
  rw [hptr, Option.bind_some] at hobj
  have hlive : st'.Live ez 1 := by
    rw [FeedState.Live, hended]
    exact List.not_mem_nil
  have hne : s.lqueueOmessages ≠ [] := by
    intro hnil
    rw [hnil] at hlen
    cases hlen
  have hread := hattached 2 ez hslot 1 32 s hlive hptr hobj hne
  rw [hprovider] at hread
  cases hread

/-- While a message is blocked another one is queued behind it; the window opens, both are written and
the data provider is detached; the next message has a new one. Another stream is ended on the way. -/
theorem feedRun_attached_blocked :
    ∃ st, run feedStep (feedStart 3 (-1) 1 100 ⟨10, by decide⟩)
        (blocked ++ [.streamSend ⟨20, 2⟩ 1 [messageNew 0 [3]] [⟨[.read 1 6], 0⟩],
          roundOf [.beginHeaders 3 32 fun _ => 0] [], .streamEnd ⟨20, 2⟩ 3 0 ⟨[], 0⟩,
          roundOf [.frameRecv ⟨1, .windowUpdate, 0, 4⟩] [.read 1 16384, .detach 1],
          .streamSend ⟨20, 2⟩ 1 [messageNew 0 [4]] []]) = some st ∧
      st.view = some ⟨some 16, some 1, some 16⟩ ∧ st.Attached := by
  have hview : (run feedStep (feedStart 3 (-1) 1 100 ⟨10, by decide⟩)
      (blocked ++ [.streamSend ⟨20, 2⟩ 1 [messageNew 0 [3]] [⟨[.read 1 6], 0⟩],
        roundOf [.beginHeaders 3 32 fun _ => 0] [], .streamEnd ⟨20, 2⟩ 3 0 ⟨[], 0⟩,
        roundOf [.frameRecv ⟨1, .windowUpdate, 0, 4⟩] [.read 1 16384, .detach 1],
        .streamSend ⟨20, 2⟩ 1 [messageNew 0 [4]] []])).map FeedState.view
      = some (some ⟨some 16, some 1, some 16⟩) := by
    decide +kernel
  obtain ⟨st, hrun, hview⟩ := Option.map_eq_some_iff.mp hview
  exact ⟨st, hrun, hview, feedRun_attached 3 (-1) 1 100 ⟨10, by decide⟩ (by decide +kernel)
    (by decide +kernel) hrun⟩

end Ezgrpc2
