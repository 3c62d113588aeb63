import Ezgrpc2.DataProvider

/-! # What `stream_send` does to the two lists

`ezgrpc2_server_session_stream_send` moves the messages of the caller to the queue of the stream before
it lets nghttp2 write, which can fail. `SendContract` is what its documentation promises to a caller
that looks at the value returned; `streamSend_contract_iff` says when a call keeps it. It is about
every state a server can be in: `Server.SendsOk` is the invariant behind it, kept by whatever clients
send, nghttp2 writes and the application calls. -/

namespace Ezgrpc2

open StepRuns

/-! ## (1) One call of the read callback -/

/-- **A call of the read callback** hands over the next pending bytes, and takes the messages that are
out from the front of the queue. -/
theorem dataSourceReadCallback2_sends {bufLen : ℕ} {s : Stream} {r : DataRead} (hinv : s.SendInv)
    (h : dataSourceReadCallback2 bufLen s 0 = some r) :
    r.stream.SendInv ∧ r.stream.lqueueOmessages <:+ s.lqueueOmessages ∧
      s.sendPending = r.buf ++ r.stream.sendPending := by
  rw [dataSourceReadCallback2] at h
  split at h
  · cases h
    exact ⟨hinv, List.suffix_rfl, rfl⟩
  · have hspec := readLoop_spec hinv (Nat.zero_le bufLen) h
    exact ⟨hspec.inv, hspec.suffix, hspec.bytes⟩

/-- The bytes of the front message that are not out. -/
def Stream.frontLeft (s : Stream) (m : Message) : ℕ :=
  if s.isTrunc then m.len - s.truncSeek else 5 + m.len

/-- The buffer has room for the rest of the front message, and that message has a payload. -/
def Stream.Finishes (s : Stream) (bufLen : ℕ) : Prop :=
  5 ≤ bufLen ∧ ∃ m ms, s.lqueueOmessages = m :: ms ∧ m.len ≠ 0 ∧ s.frontLeft m ≤ bufLen

/-- A message leaves the queue when its payload fits the buffer. -/
theorem readLoop_queue_payload {bufLen : ℕ} {s : Stream} {buf : Bytes} {dataFlags : ℕ} {r : DataRead}
    {m : Message} {ms : List Message} (hinv : s.SendInv) (ht : s.isTrunc = true)
    (hq : s.lqueueOmessages = m :: ms) (h : readLoop bufLen s buf dataFlags = some r) :
    r.stream.lqueueOmessages = s.lqueueOmessages ↔
      ¬(m.len ≠ 0 ∧ buf.length + (m.len - s.truncSeek) ≤ bufLen) := by
  obtain ⟨m', ms', hq', hseek⟩ := hinv ht
  obtain ⟨rfl, rfl⟩ := List.cons.inj (hq.symm.trans hq')
  fun_induction readLoop bufLen s buf dataFlags with
  | case1 s buf hfront =>
      rw [listPeekFront, hq] at hfront
      cases hfront
  | case2 | case4 => cases h
  | case3 s buf msg hfront ht' hle rem hrem =>
      obtain rfl := Option.some.inj h
      refine iff_of_true rfl fun hfits => ?_
      omega
  | case5 s buf msg hfront ht' hle rem hrem hmore left payload hfit _ =>
      obtain ⟨ms', hq'⟩ := List.head?_eq_some_iff.mp hfront
      obtain ⟨rfl, rfl⟩ := List.cons.inj (hq.symm.trans hq')
      refine iff_of_false (fun heq => ?_) (not_not.mpr ?_)
      · -- the front message is gone
        have hsuffix := (readLoop_queue h).1
        rw [Stream.endPayload, heq, hq] at hsuffix
        exact absurd hsuffix.length_le (by simp [listPopFront])
      · omega
  | case6 s buf msg hfront ht' hle rem hrem hmore left payload hfit buf' =>
      obtain ⟨ms', hq'⟩ := List.head?_eq_some_iff.mp hfront
      obtain ⟨rfl, rfl⟩ := List.cons.inj (hq.symm.trans hq')
      obtain rfl := Option.some.inj h
      refine iff_of_true rfl fun hfits => ?_
      omega
  | case7 _ _ _ _ hnot | case8 _ _ _ _ hnot => exact absurd ht hnot

/-- The header of the front message is written first. -/
theorem readLoop_header {bufLen : ℕ} {s : Stream} {dataFlags : ℕ} {r : DataRead} {m : Message}
    {ms : List Message} (ht : s.isTrunc = false) (hq : s.lqueueOmessages = m :: ms)
    (hroom : 5 ≤ bufLen) (h : readLoop bufLen s [] dataFlags = some r) :
    readLoop bufLen s.beginPayload (m.cflag :: u32Bytes (htonl m.len)) dataFlags = some r := by
  have hroom' : ([] : Bytes).length + 5 ≤ bufLen := hroom
  rw [readLoop] at h
  split at h
  · next hfront =>
      rw [listPeekFront, hq] at hfront
      cases hfront
  · next msg hfront =>
      obtain ⟨ms', hq'⟩ := List.head?_eq_some_iff.mp hfront
      obtain ⟨rfl, -⟩ := List.cons.inj (hq.symm.trans hq')
      rw [dif_neg (Bool.eq_false_iff.mp ht), if_pos hroom', List.nil_append] at h
      exact h

/-- **When a call takes a message from the queue**: when it finishes the front one. -/
theorem dataSourceReadCallback2_queue_iff {bufLen : ℕ} {s : Stream} {r : DataRead} (hinv : s.SendInv)
    (h : dataSourceReadCallback2 bufLen s 0 = some r) :
    r.stream.lqueueOmessages = s.lqueueOmessages ↔ ¬s.Finishes bufLen := by
  rw [dataSourceReadCallback2] at h
  split at h
  · next hsmall =>
      cases h
      exact iff_of_true rfl fun hfin => absurd hfin.1 (Nat.not_le.mpr hsmall)
  · next hroom =>
      cases hq : s.lqueueOmessages with
      | nil =>
          have hsuffix := (readLoop_queue h).1
          rw [hq] at hsuffix
          refine iff_of_true (List.suffix_nil.mp hsuffix) ?_
          rintro ⟨-, m, ms, hcons, -⟩
          cases hq.symm.trans hcons
      | cons m ms =>
          have hfinishes : s.Finishes bufLen ↔ m.len ≠ 0 ∧ s.frontLeft m ≤ bufLen := by
            constructor
            · rintro ⟨-, m', ms', hcons, hfits⟩
              obtain ⟨rfl, rfl⟩ := List.cons.inj (hq.symm.trans hcons)
              exact hfits
            · exact fun hfits => ⟨Nat.not_lt.mp hroom, m, ms, hq, hfits⟩
          rw [hfinishes, ← hq]
          by_cases ht : s.isTrunc = true
          · rw [readLoop_queue_payload hinv ht hq h, Stream.frontLeft, if_pos ht, List.length_nil,
              Nat.zero_add]
          · -- first the header
            have hbegun := readLoop_header (Bool.not_eq_true _ ▸ ht) hq (Nat.not_lt.mp hroom) h
            have hinv' : s.beginPayload.SendInv := by
              intro _
              refine ⟨m, ms, hq, ?_⟩
              show 0 < m.len ∨ m.len = 0 ∧ 0 = 0
              omega
            have hqueue := readLoop_queue_payload hinv' rfl hq hbegun
            rw [u32Bytes_htonl, List.length_cons, length_be32Bytes] at hqueue
            rw [Stream.frontLeft, if_neg ht]
            exact hqueue

/-! ## (2) Sessions that send -/

/-- The sender finds the same in both streams. -/
structure Stream.SendsAs (s s' : Stream) : Prop where
  /-- The streams have the same id. -/
  streamId : s'.streamId = s.streamId
  /-- The streams have the same queue of messages. -/
  lqueueOmessages : s'.lqueueOmessages = s.lqueueOmessages
  /-- Whether a message is half written. -/
  isTrunc : s'.isTrunc = s.isTrunc
  /-- How much of that message is written. -/
  truncSeek : s'.truncSeek = s.truncSeek

/-- The sender's invariant is about what it finds. -/
theorem Stream.SendInv.congr {s s' : Stream} (h : s.SendInv) (hs : s.SendsAs s') : s'.SendInv := by
  intro ht
  rw [hs.lqueueOmessages, hs.truncSeek]
  exact h (hs.isTrunc.symm.trans ht)

/-- A header field is nothing to the sender. -/
theorem Stream.sendsAs_applyHeader (s : Stream) (table : PathTable) (name value : Bytes) :
    s.SendsAs ((s.pushHeader name value).applyHeader table name value) := by
  obtain ⟨⟨hid, -⟩, -, htrunc, hseek, hqueue⟩ :=
    (s.pushHeader name value).applyHeader_frame table name value
  exact ⟨hid, hqueue, htrunc, hseek⟩

/-- The end of a DATA frame changes nothing that the sender finds. -/
theorem Stream.sendsAs_afterFrame (s : Stream) : s.SendsAs s.afterFrame := by
  obtain ⟨_, _, hs⟩ := s.afterFrame_eq
  rw [hs]
  exact ⟨rfl, rfl, rfl, rfl⟩

/-- **The session is in order for sending**: the user data is, a data provider reads an object begun for
its stream, and every object keeps the sender's invariant. -/
structure Session.SendsOk (ez : Session) : Prop where
  /-- The user data of each stream is its object. -/
  userData : ez.UserDataOk
  /-- The data providers read the objects of their streams. -/
  provider : ∀ id p, ez.ngsession.providers id = some p →
    ∃ s, ez.objs p = some s ∧ s.streamId = id
  /-- What the read callback relies on holds of every object. -/
  inv : ∀ p s, ez.objs p = some s → s.SendInv

namespace Session.SendsOk

variable {server : ServerShared} {ez ez' : Session} {streamId : ℤ} {ptr : ℕ} {s : Stream}
  {outs : List DataOut}

/-- A new session has no streams that could send. -/
theorem new (uuid : SessionUuid) (sockfd : ℤ) : (sessionNew uuid sockfd).SendsOk where
  userData _ _ hp := nomatch hp
  provider _ _ hp := nomatch hp
  inv _ _ hs := nomatch hs

/-- Streams and objects as before, and no other providers. -/
theorem of_same (h : ez.SendsOk) (huser : ∀ id, ez'.userData id = ez.userData id)
    (hobjs : ez'.objs = ez.objs)
    (hproviders : ∀ id p, ez'.ngsession.providers id = some p → ez.ngsession.providers id = some p) :
    ez'.SendsOk where
  userData id p hp := by
    rw [huser] at hp
    rw [hobjs]
    exact h.userData id p hp
  provider id p hp := by
    rw [hobjs]
    exact h.provider id p (hproviders id p hp)
  inv p s hs := by
    rw [hobjs] at hs
    exact h.inv p s hs

/-- Submitting frames keeps the session ready to send. -/
theorem submitAll (h : ez.SendsOk) (subs : List Submission) : (ez.submitAll subs).SendsOk := by
  rw [Session.submitAll_eq]
  exact h.of_same (fun _ => rfl) rfl fun _ _ hp => hp

/-- An object that changes keeps the session ready to send, if the read callback can rely on it. -/
theorem setObj (h : ez.SendsOk) (hobj : ez.objs ptr = some s) {s' : Stream}
    (hid : s'.streamId = s.streamId) (hinv : s'.SendInv) : (ez.setObj ptr (some s')).SendsOk where
  userData := h.userData.setObj hobj hid
  provider id p hp := by
    obtain ⟨t, ht, htid⟩ := h.provider id p hp
    rw [Session.setObj_objs]
    by_cases hpp : p = ptr
    · subst hpp
      obtain rfl := Option.some.inj (hobj.symm.trans ht)
      exact ⟨s', if_pos rfl, hid.trans htid⟩
    · exact ⟨t, (if_neg hpp).trans ht, htid⟩
  inv p t ht := by
    rw [Session.setObj_objs] at ht
    split at ht
    · obtain rfl := Option.some.inj ht
      exact hinv
    · exact h.inv p t ht

/-- Storing what the client sends keeps the session ready to send. -/
theorem stores (h : ez.SendsOk) (hobj : ez.objs ptr = some s) {s' : Stream} (hs : s.SendsAs s') :
    (ez.setObj ptr (some s')).SendsOk := h.setObj hobj hs.streamId ((h.inv ptr s hobj).congr hs)

/-- The start of a HEADERS frame keeps the session ready to send, with one more stream. -/
theorem begins (h : ez.SendsOk) (hfree : ez.objs ptr = none) (streamId : ℤ) (mem : ℕ → UInt8) :
    (beginHeaders server ez streamId ptr mem).session.SendsOk where
  userData := userDataOk_beginHeaders h.userData mem hfree
  provider id p hp := by
    rw [providers_beginHeaders] at hp
    obtain ⟨t, ht, htid⟩ := h.provider id p hp
    rw [objs_beginHeaders, if_neg]
    · exact ⟨t, ht, htid⟩
    · rintro rfl
      cases hfree.symm.trans ht
  inv p t ht := by
    rw [objs_beginHeaders] at ht
    split at ht
    · obtain rfl := Option.some.inj ht
      exact Stream.SendInv.of_not_trunc rfl
    · exact h.inv p t ht

/-- A stream is closed. Its object is freed, and no data provider reads it any more. -/
theorem closes (h : ez.SendsOk) {r : CallbackResult} (hr : streamClose server ez streamId = some r) :
    r.session.SendsOk := by
  have hok := userDataOk_streamClose h.userData hr
  obtain ⟨q, l, hq, rfl⟩ := streamClose_eq_some hr
  obtain ⟨t, ht, htid⟩ := h.userData streamId q hq
  refine ⟨hok, fun id p hp => ?_, fun p s hs => ?_⟩
  · have hprovider : (if id = streamId then none else ez.ngsession.providers id) = some p := hp
    split at hprovider
    · cases hprovider
    · next hid =>
        obtain ⟨s, hs, hsid⟩ := h.provider id p hprovider
        have hpq : p ≠ q := by
          rintro rfl
          obtain rfl := Option.some.inj (ht.symm.trans hs)
          exact hid (hsid.symm.trans htid)
        exact ⟨s, (Session.setObj_objs_of_ne none hpq).trans hs, hsid⟩
  · by_cases hpq : p = q
    · subst hpq
      cases (Session.setObj_objs_self ez p none).symm.trans hs
    · exact h.inv p s ((Session.setObj_objs_of_ne none hpq).symm.trans hs)

/-- **A callback keeps the session in order.** -/
theorem callback (h : ez.SendsOk) {a : ClientAction} {r : CallbackResult}
    (hlegal : a.Legal ⟨server, ez, [], []⟩) (hr : a.callback server ez = some r) :
    r.session.SendsOk := by
  cases ClientAction.effect hr with
  | begins streamId ptr mem => exact h.begins hlegal streamId mem
  | skipsHeader | refusesHeader | skipsChunk => exact h
  | storesHeader _ _ hobj => exact h.stores hobj (Stream.sendsAs_applyHeader _ _ _ _)
  | answers subs => exact h.submitAll subs
  | refusesChunk => exact h.submitAll _
  | parses _ _ hobj => exact h.stores hobj (Stream.sendsAs_afterFrame _)
  | storesChunk _ hobj => exact h.stores hobj ⟨rfl, rfl, rfl, rfl⟩
  | closes => exact h.closes hr

/-- All that a client sends keeps the session ready to send. -/
theorem clientRun {st st' : ClientState} (h : st.session.SendsOk) {acts : List ClientAction}
    (hrun : StepRuns.run clientStep st acts = some st') : st'.session.SendsOk := by
  refine run_invariant clientStep (I := fun st => st.session.SendsOk) ?_ h hrun
  intro st a st' hok hstep
  rw [clientStep] at hstep
  split at hstep
  · next hlegal =>
      obtain ⟨r, hr, rfl⟩ := Option.map_eq_some_iff.mp hstep
      obtain ⟨hlegal, hr⟩ := callback_of_clientCallback hlegal hr
      exact hok.callback hlegal hr
  · cases hstep

/-- **One thing that nghttp2 does in a call** keeps the session ready to send. -/
theorem ngWrite (h : ez.SendsOk) {w : NgWrite}
    (hw : Ezgrpc2.ngWrite server ez w = some (ez', outs)) : ez'.SendsOk := by
  cases ngWrite_effect hw with
  | skipsRead | skipsClose => exact h
  | reads _ hobj hr =>
      exact h.setObj hobj (dataSourceReadCallback2_streamId hr)
        (dataSourceReadCallback2_sends (h.inv _ _ hobj) hr).1
  | detaches streamId =>
      refine h.of_same (fun _ => rfl) rfl fun id p hp => ?_
      have hprovider : (if id = streamId then none else ez.ngsession.providers id) = some p := hp
      split at hprovider
      · cases hprovider
      · exact hprovider
  | closes _ hr => exact h.closes hr

/-- What nghttp2 writes in a call keeps the session ready to send. -/
theorem ngWrites (h : ez.SendsOk) {ws : List NgWrite}
    (hws : Ezgrpc2.ngWrites server ez ws = some (ez', outs)) : ez'.SendsOk :=
  ngWrites_invariant (fun _ _ _ _ hok hw => hok.ngWrite hw) h hws

/-- Queueing messages keeps the session ready to send. -/
theorem queued (h : ez.SendsOk) (hptr : ez.userData streamId = some ptr) (hobj : ez.objs ptr = some s)
    (messages : List Message) : (ez.queued streamId ptr s messages).SendsOk := by
  have hset : (ez.setObj ptr (some (s.enqueue messages))).SendsOk :=
    h.setObj hobj rfl ((h.inv ptr s hobj).enqueue messages)
  refine ⟨fun id p hp => ?_, fun id p hp => ?_, hset.inv⟩
  · rw [Session.userData_queued] at hp
    exact hset.userData id p hp
  · rw [Session.providers_queued hptr] at hp
    split at hp
    · next hid =>
        subst hid
        cases hold : ez.ngsession.providers id with
        | none =>
            rw [hold] at hp
            obtain rfl := Option.some.inj hp
            exact hset.userData id ptr hptr
        | some q =>
            rw [hold] at hp
            obtain rfl := Option.some.inj hp
            exact hset.provider id q hold
    · exact hset.provider id p hp

end Session.SendsOk

/-! ## (3) The stream while nghttp2 writes -/

/-- The bytes the read callback wrote for a stream. -/
def writtenFor (streamId : ℤ) (outs : List DataOut) : Bytes :=
  (outs.filter fun o => o.streamId = streamId).flatMap DataOut.buf

theorem writtenFor_append (streamId : ℤ) (outs outs' : List DataOut) :
    writtenFor streamId (outs ++ outs') = writtenFor streamId outs ++ writtenFor streamId outs' := by
  rw [writtenFor, List.filter_append, List.flatMap_append]
  rfl

theorem writtenFor_self (streamId : ℤ) (buf : Bytes) (dataFlags : ℕ) :
    writtenFor streamId [⟨streamId, buf, dataFlags⟩] = buf := by
  simp [writtenFor]

theorem writtenFor_of_ne {streamId id : ℤ} (hid : id ≠ streamId) (buf : Bytes) (dataFlags : ℕ) :
    writtenFor streamId [⟨id, buf, dataFlags⟩] = [] := by
  simp [writtenFor, hid]

/-- The bytes of `outs` that come from the object `ptr` of a stream. There are none when nghttp2 reads
the response from another object, or from none. -/
def Session.readFrom (ez : Session) (streamId : ℤ) (ptr : ℕ) (outs : List DataOut) : Bytes :=
  if ez.ngsession.providers streamId = some ptr then writtenFor streamId outs else []

@[simp] theorem Session.readFrom_nil (ez : Session) (streamId : ℤ) (ptr : ℕ) :
    ez.readFrom streamId ptr [] = [] := by
  rw [Session.readFrom]
  split <;> rfl

/-- **nghttp2 leaves the queue of the object `ptr` alone**: it neither finishes its front message nor
closes its stream. -/
def NgWrite.Leaves (ptr : ℕ) (ez : Session) : NgWrite → Prop
  | .read streamId bufLen => ∀ s, ez.ngsession.providers streamId = some ptr →
      ez.objs ptr = some s → ¬s.Finishes bufLen
  | .detach _ => True
  | .close streamId => ez.userData streamId ≠ some ptr

/-- The object of a stream behind something nghttp2 did, by which it wrote `bytes`. -/
structure Session.Sent (ez ez' : Session) (streamId : ℤ) (ptr : ℕ) (s s' : Stream) (bytes : Bytes) :
    Prop where
  /-- The stream is open, with the object it had. -/
  userData : ez'.userData streamId = some ptr
  /-- The object is as the call left it. -/
  obj : ez'.objs ptr = some s'
  /-- The bytes were pending, in front of those that still are. -/
  bytes : s.sendPending = bytes ++ s'.sendPending
  /-- The messages that are gone were in front. -/
  suffix : s'.lqueueOmessages <:+ s.lqueueOmessages
  /-- A data provider can be detached. -/
  provider : ez'.ngsession.providers streamId = ez.ngsession.providers streamId ∨
    ez'.ngsession.providers streamId = none

/-- The stream is closed, so that nothing can be sent on it. -/
structure Session.Closed (ez : Session) (streamId : ℤ) : Prop where
  /-- The stream has no user data. -/
  userData : ez.userData streamId = none
  /-- The stream has no data provider. -/
  provider : ez.ngsession.providers streamId = none

section Sent

variable {server : ServerShared} {ez ez' : Session} {streamId : ℤ} {ptr : ℕ} {s : Stream}
  {outs : List DataOut}

/-- A stream whose object is as it was has sent nothing. -/
theorem Session.Sent.of_same (huser : ez'.userData streamId = some ptr) (hobj : ez'.objs ptr = some s)
    (hprovider : ez'.ngsession.providers streamId = ez.ngsession.providers streamId ∨
      ez'.ngsession.providers streamId = none)
    (hbytes : ez.readFrom streamId ptr outs = []) :
    ez.Sent ez' streamId ptr s s (ez.readFrom streamId ptr outs) := by
  refine ⟨huser, hobj, ?_, List.suffix_rfl, hprovider⟩
  rw [hbytes, List.nil_append]

/-- **One thing nghttp2 does to a stream**: it closes it, or it writes the next pending bytes. -/
theorem ngWrite_cases (h : ez.SendsOk) (hptr : ez.userData streamId = some ptr)
    (hobj : ez.objs ptr = some s) {w : NgWrite} (hw : ngWrite server ez w = some (ez', outs)) :
    (ez'.Closed streamId ∧ ez.readFrom streamId ptr outs = [] ∧ ¬w.Leaves ptr ez) ∨
      ∃ s', ez.Sent ez' streamId ptr s s' (ez.readFrom streamId ptr outs) ∧
        (s'.lqueueOmessages = s.lqueueOmessages ↔ w.Leaves ptr ez) := by
  have hnothing := ez.readFrom_nil streamId ptr
  cases ngWrite_effect hw with
  | skipsRead hprovider =>
      refine Or.inr ⟨s, .of_same hptr hobj (Or.inl rfl) hnothing, iff_of_true rfl ?_⟩
      intro t hcon
      cases hprovider.symm.trans hcon
  | @reads id bufLen q t r hprovider ht hr =>
      by_cases hqp : q = ptr
      · -- the provider of the stream reads its object
        subst hqp
        obtain rfl := Option.some.inj (hobj.symm.trans ht)
        -- the object names its stream, so the bytes are written for this one
        obtain ⟨t, ht', hid⟩ := h.provider id q hprovider
        obtain rfl := Option.some.inj (hobj.symm.trans ht')
        obtain ⟨t, ht', hid'⟩ := h.userData streamId q hptr
        obtain rfl := Option.some.inj (hobj.symm.trans ht')
        obtain rfl : id = streamId := hid.symm.trans hid'
        obtain ⟨-, hsuffix, hbytes⟩ := dataSourceReadCallback2_sends (h.inv q s hobj) hr
        refine Or.inr ⟨r.stream, ⟨hptr, ez.setObj_objs_self q _, ?_, hsuffix, Or.inl rfl⟩, ?_⟩
        · rw [Session.readFrom, if_pos hprovider, writtenFor_self]
          exact hbytes
        · rw [dataSourceReadCallback2_queue_iff (h.inv q s hobj) hr]
          constructor
          · intro hnot t _ ht
            obtain rfl := Option.some.inj (hobj.symm.trans ht)
            exact hnot
          · exact fun hleaves => hleaves s hprovider hobj
      · -- it reads another object
        refine Or.inr ⟨s, .of_same hptr ((Session.setObj_objs_of_ne _ (Ne.symm hqp)).trans hobj)
          (Or.inl rfl) ?_, iff_of_true rfl fun t hcon => ?_⟩
        · rw [Session.readFrom]
          split
          · next hreads =>
              refine writtenFor_of_ne ?_ _ _
              rintro rfl
              exact hqp (Option.some.inj (hprovider.symm.trans hreads))
          · rfl
        · exact absurd (Option.some.inj (hprovider.symm.trans hcon)) hqp
  | detaches id =>
      refine Or.inr ⟨s, .of_same hptr hobj ?_ hnothing, iff_of_true rfl trivial⟩
      show (if streamId = id then none else ez.ngsession.providers streamId) = _ ∨
        (if streamId = id then none else ez.ngsession.providers streamId) = none
      split
      · exact Or.inr rfl
      · exact Or.inl rfl
  | skipsClose hclosed =>
      refine Or.inr ⟨s, .of_same hptr hobj (Or.inl rfl) hnothing, iff_of_true rfl fun hcon => ?_⟩
      exact hclosed (Session.isSome_streams hcon)
  | @closes id r _ hr =>
      obtain ⟨huser, hprovider, -⟩ := streamClose_others hr streamId
      by_cases hid : streamId = id
      · -- the stream itself
        subst hid
        rw [if_pos rfl] at huser hprovider
        exact Or.inl ⟨⟨huser, hprovider⟩, hnothing, fun hleaves => hleaves hptr⟩
      · rw [if_neg hid] at huser hprovider
        obtain ⟨q, l, hq, rfl⟩ := streamClose_eq_some hr
        have hne : ptr ≠ q := h.userData.ne hptr hq hid
        refine Or.inr ⟨s, .of_same (huser.trans hptr)
          ((Session.setObj_objs_of_ne none hne).trans hobj) (Or.inl hprovider) hnothing,
          iff_of_true rfl fun hcon => ?_⟩
        exact hne (Option.some.inj (hcon.symm.trans hq))

/-- A stream without a data provider gets none, and nothing is written for it. -/
theorem ngWrite_of_no_provider (hprovider : ez.ngsession.providers streamId = none) {w : NgWrite}
    (hw : ngWrite server ez w = some (ez', outs)) :
    ez'.ngsession.providers streamId = none ∧ writtenFor streamId outs = [] ∧
      (ez.userData streamId = none → ez'.userData streamId = none) := by
  cases ngWrite_effect hw with
  | skipsRead | skipsClose => exact ⟨hprovider, rfl, fun h => h⟩
  | reads hreads =>
      refine ⟨hprovider, writtenFor_of_ne ?_ _ _, fun h => h⟩
      rintro rfl
      cases hreads.symm.trans hprovider
  | detaches id =>
      refine ⟨?_, rfl, fun h => h⟩
      show (if streamId = id then none else ez.ngsession.providers streamId) = none
      split
      · rfl
      · exact hprovider
  | closes _ hr =>
      obtain ⟨huser, hproviders, -⟩ := streamClose_others hr streamId
      rw [huser, hproviders]
      split
      · exact ⟨rfl, rfl, fun _ => rfl⟩
      · exact ⟨hprovider, rfl, fun h => h⟩

/-- Over a call of `nghttp2_session_send` a stream without a data provider has nothing written. -/
theorem ngWrites_of_no_provider (hprovider : ez.ngsession.providers streamId = none)
    {ws : List NgWrite} (hws : ngWrites server ez ws = some (ez', outs)) :
    writtenFor streamId outs = [] ∧ (ez.userData streamId = none → ez'.userData streamId = none) := by
  induction ws generalizing ez outs with
  | nil =>
      cases hws
      exact ⟨rfl, fun h => h⟩
  | cons w ws ih =>
      obtain ⟨ez₁, out, outs', hw, hrest, rfl⟩ := ngWrites_cons hws
      obtain ⟨hprovider₁, hwritten, huser⟩ := ngWrite_of_no_provider hprovider hw
      obtain ⟨hwritten', huser'⟩ := ih hprovider₁ hrest
      refine ⟨?_, fun h => huser' (huser h)⟩
      rw [writtenFor_append, hwritten, hwritten', List.append_nil]

/-- What comes from an object, in two parts. -/
theorem readFrom_append {ez₁ : Session} {ws : List NgWrite}
    (hprovider : ez₁.ngsession.providers streamId = ez.ngsession.providers streamId ∨
      ez₁.ngsession.providers streamId = none)
    (hws : ngWrites server ez₁ ws = some (ez', outs)) (out : List DataOut) :
    ez.readFrom streamId ptr (out ++ outs)
      = ez.readFrom streamId ptr out ++ ez₁.readFrom streamId ptr outs := by
  unfold Session.readFrom
  by_cases hreads : ez.ngsession.providers streamId = some ptr
  · rw [if_pos hreads, if_pos hreads, writtenFor_append]
    rcases hprovider with hsame | hnone
    · rw [if_pos (hsame.trans hreads)]
    · rw [(ngWrites_of_no_provider hnone hws).1]
      split <;> rfl
  · have hreads₁ : ez₁.ngsession.providers streamId ≠ some ptr := by
      rcases hprovider with hsame | hnone
      · rwa [hsame]
      · rw [hnone]
        exact (Option.some_ne_none ptr).symm
    rw [if_neg hreads, if_neg hreads, if_neg hreads₁, List.append_nil]

/-- The object of a stream, by its user data. -/
def Session.streamOf (ez : Session) (streamId : ℤ) : Option Stream :=
  (ez.userData streamId).bind ez.objs

theorem Session.streamOf_eq (hptr : ez.userData streamId = some ptr) (hobj : ez.objs ptr = some s) :
    ez.streamOf streamId = some s := by
  rw [Session.streamOf, hptr, Option.bind_some, hobj]

/-- **`after` is what is left of the stream `s`** when the read callback has written `bytes` of it. It
is `none` when the stream was closed. -/
structure Stream.Leaves (s : Stream) (bytes : Bytes) (after : Option Stream) : Prop where
  /-- The bytes written were the next ones pending. -/
  written : bytes <+: s.sendPending
  /-- The bytes that were not written are pending still. -/
  pending : ∀ s' ∈ after, s.sendPending = bytes ++ s'.sendPending
  /-- The messages that are left were at the end of the queue. -/
  queue : ∀ s' ∈ after, s'.lqueueOmessages <:+ s.lqueueOmessages

/-- **What nghttp2 does to a stream in a call of `nghttp2_session_send`.** -/
theorem ngWrites_leaves (h : ez.SendsOk) (hptr : ez.userData streamId = some ptr)
    (hobj : ez.objs ptr = some s) {ws : List NgWrite}
    (hws : ngWrites server ez ws = some (ez', outs)) :
    s.Leaves (ez.readFrom streamId ptr outs) (ez'.streamOf streamId) := by
  induction ws generalizing ez outs s with
  | nil =>
      cases hws
      rw [Session.readFrom_nil, Session.streamOf_eq hptr hobj]
      refine ⟨List.nil_prefix, fun s' hs' => ?_, fun s' hs' => ?_⟩
      · obtain rfl := Option.some.inj hs'
        rfl
      · obtain rfl := Option.some.inj hs'
        exact List.suffix_rfl
  | cons w ws ih =>
      obtain ⟨ez₁, out, outs', hw, hrest, rfl⟩ := ngWrites_cons hws
      rcases ngWrite_cases h hptr hobj hw with ⟨hclosed, hnothing, -⟩ | ⟨s₁, hsent, -⟩
      · -- nothing is written for a stream that is closed
        obtain ⟨hwritten, huser⟩ := ngWrites_of_no_provider hclosed.provider hrest
        have hbytes : ez.readFrom streamId ptr (out ++ outs') = [] := by
          rw [Session.readFrom] at hnothing ⊢
          rw [writtenFor_append, hwritten, List.append_nil]
          exact hnothing
        have hnone : ez'.streamOf streamId = none := by
          rw [Session.streamOf, huser hclosed.userData]
          rfl
        rw [hbytes, hnone]
        exact ⟨List.nil_prefix, fun s' hs' => (nomatch hs'), fun s' hs' => (nomatch hs')⟩
      · have hleaves := ih (h.ngWrite hw) hsent.userData hsent.obj hrest
        rw [readFrom_append hsent.provider hrest out]
        refine ⟨?_, fun s' hs' => ?_, fun s' hs' => (hleaves.queue s' hs').trans hsent.suffix⟩
        · rw [hsent.bytes]
          exact (List.prefix_append_right_inj _).mpr hleaves.written
        · rw [hsent.bytes, hleaves.pending s' hs', List.append_assoc]

/-- One thing nghttp2 does, as a step of the session. -/
def writeStep (server : ServerShared) (ez : Session) (w : NgWrite) : Option Session :=
  (ngWrite server ez w).map Prod.fst

/-- **When a queue is as before**: when nothing nghttp2 did took from it. -/
theorem ngWrites_queue_iff (h : ez.SendsOk) (hptr : ez.userData streamId = some ptr)
    (hobj : ez.objs ptr = some s) {ws : List NgWrite}
    (hws : ngWrites server ez ws = some (ez', outs)) :
    (ez'.streamOf streamId).map Stream.lqueueOmessages = some s.lqueueOmessages ↔
      Along (writeStep server) (fun ez w => w.Leaves ptr ez) ez ws := by
  induction ws generalizing ez outs s with
  | nil =>
      cases hws
      rw [Session.streamOf_eq hptr hobj]
      exact iff_of_true rfl trivial
  | cons w ws ih =>
      obtain ⟨ez₁, out, outs', hw, hrest, rfl⟩ := ngWrites_cons hws
      have hstep : writeStep server ez w = some ez₁ := by
        rw [writeStep, hw]
        rfl
      rw [along_cons_of_step hstep]
      rcases ngWrite_cases h hptr hobj hw with ⟨hclosed, -, hnot⟩ | ⟨s₁, hsent, hiff⟩
      · -- the stream is closed and has no queue any more
        refine iff_of_false ?_ fun hcon => hnot hcon.1
        rw [Session.streamOf, (ngWrites_of_no_provider hclosed.provider hrest).2 hclosed.userData]
        intro hcon
        cases hcon
      · have hrest' := ih (h.ngWrite hw) hsent.userData hsent.obj hrest
        by_cases hqueue : s₁.lqueueOmessages = s.lqueueOmessages
        · rw [← hqueue, hrest']
          exact ⟨fun hall => ⟨hiff.mp hqueue, hall⟩, And.right⟩
        · -- a message that is gone does not come back
          refine iff_of_false (fun hcon => hqueue ?_) fun hcon => hqueue (hiff.mpr hcon.1)
          obtain ⟨s', hs', hq⟩ := Option.map_eq_some_iff.mp hcon
          have hsuffix :=
            (ngWrites_leaves (h.ngWrite hw) hsent.userData hsent.obj hrest).queue s' hs'
          rw [hq] at hsuffix
          exact hsent.suffix.eq_of_length_le hsuffix.length_le

end Sent

/-! ## (4) Servers that send -/

/-- **The server is in order for sending**: its sessions are. -/
def Server.SendsOk (server : Server) : Prop :=
  ∀ i ez, (server.sessions i).session = some ez → ez.SendsOk

namespace Server.SendsOk

variable {server server' : Server}

/-- One cell gets another session, or none. -/
theorem of_cell (h : server.SendsOk) {i : ℕ} {session : Option Session}
    (hcell : ∀ j, (server'.sessions j).session
      = if j = i then session else (server.sessions j).session)
    (hsession : ∀ ez, session = some ez → ez.SendsOk) : server'.SendsOk := by
  intro j ez hslot
  rw [hcell] at hslot
  split at hslot
  · exact hsession ez hslot
  · exact h j ez hslot

/-- A session that changes in place keeps all sessions ready to send. -/
theorem setSession (h : server.SendsOk) {i : ℕ} {ez : Session} (hez : ez.SendsOk) :
    (server.setSession i ez).SendsOk := by
  refine h.of_cell (server.cellSet_setSession i ez).session fun ez' hez' => ?_
  obtain rfl := Option.some.inj hez'
  exact hez

/-- A listener adds a new session at most. -/
theorem pollListener (h : server.SendsOk) {i : ℕ} {acc : Accept}
    (hpoll : Ezgrpc2.pollListener server i acc = some server') : server'.SendsOk := by
  rcases pollListener_cases hpoll with rfl | ⟨-, hrefused | ⟨j, hadded⟩⟩
  · exact h
  · intro j ez hslot
    exact h j ez ((hrefused.cells.session j).symm.trans hslot)
  · refine h.of_cell hadded.cell.session fun ez hez => ?_
    obtain rfl := Option.some.inj hez
    exact Session.SendsOk.new _ _

/-- A cell of the loop keeps all sessions ready to send. -/
theorem pollCell (h : server.SendsOk) {round : Round} {i : ℕ}
    (hcell : Ezgrpc2.pollCell round server i = some server') : server'.SendsOk := by
  rcases pollCell_cases hcell with
    ⟨-, ez, -, hhung⟩ | ⟨-, ⟨-, rfl⟩ | ⟨ez, hslot, ⟨ez', es, hserved⟩ | ⟨es, hended⟩⟩⟩
  · exact h.of_cell hhung.cell.session fun _ hcon => nomatch hcon
  · exact h
  · obtain ⟨events, hevents⟩ := hserved.exchange
    obtain ⟨st, outs, hrun, hloop⟩ := sessionEvents_eq_zero hevents
    have hst : st.session.SendsOk :=
      Session.SendsOk.clientRun (show Session.SendsOk ez from h i ez hslot) hrun
    refine h.of_cell hserved.cell.session fun ez₁ hez₁ => ?_
    obtain rfl := Option.some.inj hez₁
    exact hst.ngWrites (sendLoop_eq_some hloop).1
  · exact h.of_cell hended.cell.session fun _ hcon => nomatch hcon

/-- A round of the server keeps all sessions ready to send. -/
theorem serverPoll (h : server.SendsOk) {round : Round} {ret : ℤ}
    (hpoll : Ezgrpc2.serverPoll server round = some (ret, server')) : server'.SendsOk := by
  by_cases hready : 0 < round.ready
  · obtain ⟨server₀, hstart, hcells⟩ := serverPoll_eq_some hready hpoll
    obtain ⟨server₁, hipv4, hipv6⟩ := Option.bind_eq_some_iff.mp hstart
    rw [pollCells_eq_run] at hcells
    have hstart : server₀.SendsOk := by
      refine (Server.SendsOk.pollListener ?_ hipv4).pollListener hipv6
      exact h
    exact run_invariant (Ezgrpc2.pollCell round) (fun _ _ _ hok hcell => hok.pollCell hcell) hstart hcells
  · rw [Ezgrpc2.serverPoll, if_pos (not_lt.mp hready)] at hpoll
    cases hpoll
    exact h

/-- A `stream_send` keeps all sessions ready to send. -/
theorem streamSend (h : server.SendsOk) {uuid : SessionUuid} {streamId : ℤ} {messages : List Message}
    {sends : List NgSend} {r : CallResult}
    (hr : sessionStreamSend server uuid streamId messages sends = some r) : r.server.SendsOk := by
  rcases sessionStreamSend_eq_some hr with
    ⟨ret, -, rfl⟩ | ⟨ez, ptr, s, ret, ez', outs, -, hslot, hptr, hobj, hloop, rfl⟩
  · exact h
  · exact h.setSession (((h _ ez hslot).queued hptr hobj messages).ngWrites (sendLoop_eq_some hloop).1)

/-- A `stream_end` keeps all sessions ready to send. -/
theorem streamEnd (h : server.SendsOk) {uuid : SessionUuid} {streamId status : ℤ} {send : NgSend}
    {r : CallResult} (hr : sessionStreamEnd server uuid streamId status send = some r) :
    r.server.SendsOk := by
  rcases sessionStreamEnd_eq_some hr with
    ⟨ret, -, rfl⟩ | ⟨ez, ptr, ez', outs, -, hslot, hws, rfl⟩
  · exact h
  · have htrailer : (ez.submit (.trailer streamId (statusTrailers status))).SendsOk :=
      (h _ ez hslot).submitAll [.trailer streamId (statusTrailers status)]
    exact h.setSession (htrailer.ngWrites hws)

end Server.SendsOk

/-- One action on a server, whatever handles its sessions draw. -/
def serverAct (server : Server) : ServerAction → Option Server
  | .poll round => (serverPoll server round).map Prod.snd
  | .streamSend uuid streamId messages sends =>
      (sessionStreamSend server uuid streamId messages sends).map CallResult.server
  | .streamEnd uuid streamId status send =>
      (sessionStreamEnd server uuid streamId status send).map CallResult.server
  | .pathCall call => some { server with table := (server.table.call call).2 }

/-- **Every server is in order for sending.** -/
theorem serverRun_sendsOk {ipv4Sockfd ipv6Sockfd : ℤ} {maxConnections initialWindowSize : ℕ}
    {maxPaths : MaxPaths} {server : Server}
    (h : Reachable serverAct
      (serverNew ipv4Sockfd ipv6Sockfd maxConnections initialWindowSize maxPaths) server) :
    server.SendsOk := by
  refine h.invariant (I := Server.SendsOk) (fun i ez hslot => (nomatch hslot)) ?_
  intro server act server' hok hstep
  cases act with
  | poll round =>
      obtain ⟨⟨ret, server₁⟩, hpoll, rfl⟩ := Option.map_eq_some_iff.mp hstep
      exact hok.serverPoll hpoll
  | streamSend uuid streamId messages sends =>
      obtain ⟨r, hr, rfl⟩ := Option.map_eq_some_iff.mp hstep
      exact hok.streamSend hr
  | streamEnd uuid streamId status send =>
      obtain ⟨r, hr, rfl⟩ := Option.map_eq_some_iff.mp hstep
      exact hok.streamEnd hr
  | pathCall call =>
      cases hstep
      exact hok

/-! ## (5) The promise to the caller -/

/-- The send queue of the stream that a call names. -/
def Server.queueAt (server : Server) (uuid : SessionUuid) (streamId : ℤ) : Option (List Message) :=
  (server.streamAt uuid streamId).map Stream.lqueueOmessages

/-- **The messages follow what was queued earlier** on the stream `s`, of which nghttp2 has taken `bytes`
since. `after` is the stream behind the call, unless it was closed. -/
structure Follows (s : Stream) (messages : List Message) (bytes : Bytes) (after : Option Stream) :
    Prop where
  /-- nghttp2 takes the bytes queued earlier first. -/
  written : bytes <+: s.sendPending ++ encMessages messages
  /-- The others are pending, in this order. -/
  pending : ∀ s' ∈ after, s.sendPending ++ encMessages messages = bytes ++ s'.sendPending
  /-- The queue is the old one and the messages behind it, without those that are out. -/
  queue : ∀ s' ∈ after, s'.lqueueOmessages <:+ s.lqueueOmessages ++ messages

/-- **What `stream_send` promises**, by the value it returns. -/
structure SendContract (server : Server) (uuid : SessionUuid) (streamId : ℤ) (messages : List Message)
    (r : CallResult) : Prop where
  /-- An error leaves the list of the caller and the queue of the stream as they were. -/
  error : r.ret ≠ 0 →
    r.messages = messages ∧ r.server.queueAt uuid streamId = server.queueAt uuid streamId
  /-- On success the list of the caller is empty and its messages are queued behind the others. -/
  success : r.ret = 0 → r.messages = [] ∧
    ∃ found s, server.located uuid streamId = some found ∧ found.session.objs found.ptr = some s ∧
      Follows s messages
        ((found.session.queued streamId found.ptr s messages).readFrom streamId found.ptr r.outs)
        (r.server.streamAt uuid streamId)

/-- Until a call of `nghttp2_session_send` fails, nghttp2 takes no message from the queue of the stream
and does not close it. -/
def LeavesQueue (server : Server) (uuid : SessionUuid) (streamId : ℤ) (sends : List NgSend) : Prop :=
  ∀ found s, server.located uuid streamId = some found → found.session.objs found.ptr = some s →
    Along (writeStep server.toServerShared) (fun ez w => w.Leaves found.ptr ez)
      (found.session.queued streamId found.ptr s []) (writesDone sends)

/-- The stream behind a call that found it. -/
theorem streamAt_setSession {server : Server} {uuid : SessionUuid} {streamId : ℤ} {ez ez' : Session}
    {ptr : ℕ} (hfind : locate server uuid streamId = some (.ok (uuid.index, ez, ptr)))
    (hsame : ez'.sessionUuid = ez.sessionUuid) :
    (server.setSession uuid.index ez').streamAt uuid streamId = ez'.streamOf streamId := by
  have huuid : ez'.sessionUuid = uuid := hsame.trans (located_eq_some hfind).2
  have hlt : uuid.index < (server.setSession uuid.index ez').nbSessions := by
    by_contra hge
    rw [locate, sessionFind] at hfind
    rw [if_pos (show ¬uuid.index < server.nbSessions from hge)] at hfind
    cases hfind
  have hslot : ((server.setSession uuid.index ez').sessions uuid.index).sessionUuid = uuid := by
    rw [Slot.sessionUuid, Server.setSession_self]
    exact huuid
  have hsession : sessionFind (server.setSession uuid.index ez').sessions
      (server.setSession uuid.index ez').nbSessions uuid = some (some uuid.index) := by
    rw [sessionFind, if_neg (not_not.mpr hlt), hslot,
      if_pos ((sessionUuidIsEqual_iff uuid uuid).mpr rfl)]
  rw [Server.streamAt, locate, hsession]
  simp only [Option.bind_eq_bind, Option.bind_some, Server.setSession_self]
  rw [Session.streamOf]
  cases ez'.userData streamId <;> rfl

/-- **When `stream_send` keeps its promise.** In every state of a server a call keeps it exactly when it
does not find the stream, when no call of `nghttp2_session_send` fails, or when there were no messages
to queue and nghttp2 left the queue alone. -/
theorem streamSend_contract_iff {ipv4Sockfd ipv6Sockfd : ℤ} {maxConnections initialWindowSize : ℕ}
    {maxPaths : MaxPaths} {server : Server}
    (hreach : Reachable serverAct
      (serverNew ipv4Sockfd ipv6Sockfd maxConnections initialWindowSize maxPaths) server)
    {uuid : SessionUuid} {streamId : ℤ} {messages : List Message} {sends : List NgSend}
    {r : CallResult} (hr : sessionStreamSend server uuid streamId messages sends = some r) :
    SendContract server uuid streamId messages r ↔
      server.located uuid streamId = none ∨ (∀ send ∈ sends, send.res = 0) ∨
        (messages = [] ∧ LeavesQueue server uuid streamId sends) := by
  have hok := serverRun_sendsOk hreach
  rcases sessionStreamSend_eq_some hr with
    ⟨ret, hfind, rfl⟩ | ⟨ez, ptr, s, ret, ez', outs, hfind, hslot, hptr, hobj, hloop, rfl⟩
  · -- the stream is not found, and nothing happens
    have hne : ret ≠ 0 := by
      rcases locate_eq_error hfind with rfl | rfl <;> decide
    refine iff_of_true ⟨fun _ => ⟨rfl, rfl⟩, fun hret => absurd hret hne⟩ (Or.inl ?_)
    rw [Server.located, hfind]
  · obtain ⟨hlocated, -⟩ := located_eq_some hfind
    obtain ⟨hws, hret⟩ := sendLoop_eq_some hloop
    have hret : ret = 0 ↔ ∀ send ∈ sends, send.res = 0 := by
      rw [hret]
      split
      · next hall => exact iff_of_true rfl hall
      · next hnot => exact iff_of_false (Nat.succ_ne_zero 2) hnot
    have hqueued := (hok _ ez hslot).queued hptr hobj messages
    have hsame : ez'.sessionUuid = ez.sessionUuid := (sendLoop_same hloop).sessionUuid
    have hafter := streamAt_setSession hfind hsame
    have hptr' : (ez.queued streamId ptr s messages).userData streamId = some ptr :=
      (ez.userData_queued streamId ptr s messages streamId).trans hptr
    have hobj' : (ez.queued streamId ptr s messages).objs ptr = some (s.enqueue messages) :=
      ez.setObj_objs_self ptr _
    by_cases hzero : ret = 0
    · -- the messages were queued
      refine iff_of_true ⟨fun hne => absurd hzero hne, fun _ => ⟨rfl, _, s, hlocated, hobj, ?_⟩⟩
        (Or.inr (Or.inl (hret.mp hzero)))
      have hleaves := ngWrites_leaves hqueued hptr' hobj' hws
      have hpending := ((hok _ ez hslot).inv ptr s hobj).sendPending_enqueue messages
      rw [hafter]
      refine ⟨hpending ▸ hleaves.written, fun s' hs' => hpending ▸ hleaves.pending s' hs',
        fun s' hs' => ?_⟩
      rw [← Stream.enqueue_lqueueOmessages]
      exact hleaves.queue s' hs'
    · -- they were too, and the caller is told of an error
      have hqueue : server.queueAt uuid streamId = some s.lqueueOmessages := by
        rw [Server.queueAt, Server.streamAt, hfind]
        dsimp only
        rw [hobj]
        rfl
      have hcontract : SendContract server uuid streamId messages
          ⟨ret, [], server.setSession uuid.index ez', outs⟩ ↔
          messages = [] ∧ (ez'.streamOf streamId).map Stream.lqueueOmessages = some s.lqueueOmessages := by
        constructor
        · intro h
          -- the list of the caller is empty by now, so it is as before only when it was empty
          obtain ⟨hmessages, hsameQueue⟩ := h.error hzero
          rw [hqueue, Server.queueAt, hafter] at hsameQueue
          exact ⟨hmessages.symm, hsameQueue⟩
        · rintro ⟨hmessages, hsameQueue⟩
          refine ⟨fun _ => ⟨hmessages.symm, ?_⟩, fun hcon => absurd hcon hzero⟩
          rw [hqueue, Server.queueAt, hafter]
          exact hsameQueue
      rw [hcontract, hlocated, ← hret]
      simp only [reduceCtorEq, hzero, false_or]
      refine and_congr_right fun hmessages => ?_
      subst hmessages
      have hiff := ngWrites_queue_iff hqueued hptr' hobj' hws
      rw [Stream.enqueue_lqueueOmessages, List.append_nil] at hiff
      rw [hiff]
      constructor
      · intro hall found t hfound ht
        rw [hlocated, Option.some.injEq] at hfound
        subst hfound
        obtain rfl := Option.some.inj (hobj.symm.trans ht)
        exact hall
      · exact fun hall => hall _ s hlocated hobj

/-- A client connects and opens stream 1. -/
def opened : List ServerAction :=
  [roundOne 20 0 pollin true, roundOf [.beginHeaders 1 16 fun _ => 0] []]

/-- The socket is full behind the first five bytes of a response, and the next call queues a message
behind it. -/
theorem streamSend_contract_iff_two_messages :
    ∃ server r, run serverAct (serverNew 3 (-1) 1 100 ⟨10, by decide⟩)
        (opened ++ [.streamSend ⟨20, 2⟩ 1 [messageNew 0 [1, 2]] [⟨[.read 1 5], 0⟩]]) = some server ∧
      sessionStreamSend server ⟨20, 2⟩ 1 [messageNew 0 [3]] [⟨[.read 1 16384], 0⟩] = some r ∧
      writtenFor 1 r.outs = [1, 2, 0, 0, 0, 0, 1, 3] ∧
      SendContract server ⟨20, 2⟩ 1 [messageNew 0 [3]] r := by
  have hvalue : ((run serverAct (serverNew 3 (-1) 1 100 ⟨10, by decide⟩)
      (opened ++ [.streamSend ⟨20, 2⟩ 1 [messageNew 0 [1, 2]] [⟨[.read 1 5], 0⟩]])).map fun server =>
        (sessionStreamSend server ⟨20, 2⟩ 1 [messageNew 0 [3]] [⟨[.read 1 16384], 0⟩]).map fun r =>
          writtenFor 1 r.outs) = some (some [1, 2, 0, 0, 0, 0, 1, 3]) := by
    decide +kernel
  obtain ⟨server, hrun, hvalue⟩ := Option.map_eq_some_iff.mp hvalue
  obtain ⟨r, hr, hwritten⟩ := Option.map_eq_some_iff.mp hvalue
  exact ⟨server, r, hrun, hr, hwritten,
    (streamSend_contract_iff ⟨_, hrun⟩ hr).mpr (Or.inr (Or.inl (by decide)))⟩

/-- The socket is gone when `stream_send` has moved the message: it returns 3, and the list of the
caller is empty. -/
theorem streamSend_not_contract :
    ∃ server r, run serverAct (serverNew 3 (-1) 1 100 ⟨10, by decide⟩) opened = some server ∧
      sessionStreamSend server ⟨20, 2⟩ 1 [messageNew 0 [1, 2]] [⟨[.read 1 16384], -902⟩] = some r ∧
      r.ret = 3 ∧ r.messages = [] ∧ ¬SendContract server ⟨20, 2⟩ 1 [messageNew 0 [1, 2]] r := by
  have hvalue : ((run serverAct (serverNew 3 (-1) 1 100 ⟨10, by decide⟩) opened).map fun server =>
      (sessionStreamSend server ⟨20, 2⟩ 1 [messageNew 0 [1, 2]] [⟨[.read 1 16384], -902⟩]).map fun r =>
        (r.ret, r.messages)) = some (some (3, [])) := by
    decide +kernel
  obtain ⟨server, hrun, hvalue⟩ := Option.map_eq_some_iff.mp hvalue
  obtain ⟨r, hr, hvalue⟩ := Option.map_eq_some_iff.mp hvalue
  obtain ⟨hret, hmessages⟩ := Prod.mk.inj hvalue
  refine ⟨server, r, hrun, hr, hret, hmessages, fun hcontract => ?_⟩
  obtain ⟨hkept, -⟩ := hcontract.error (by rw [hret]; decide)
  cases hmessages.symm.trans hkept

end Ezgrpc2
