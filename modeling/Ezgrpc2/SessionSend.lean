import Ezgrpc2.DataSource
import Ezgrpc2.Server
import Mathlib.Logic.Function.Basic

/-! # Sending a response

`ezgrpc2_server_session_stream_send` queues messages and hands nghttp2 a data source;
`ezgrpc2_server_session_stream_end` submits the trailers. In between nghttp2 writes as much as the
socket and the windows of the client let it: it calls the read callback of the data sources with
buffers of any size, in any order, and closes streams. `NgWrite` is one thing it does, chosen by the
environment.

`stream_end` submits the trailers whether or not messages are queued. `callRun_delivered_iff` says
when a run of these calls has written all messages of a stream before its trailers. -/

namespace Ezgrpc2

open StepRuns

/-! ## (1) nghttp2 writes -/

/-- Something that nghttp2 does while it writes. -/
inductive NgWrite where
  /-- It asks the data source of a stream for a DATA frame of at most `bufLen` bytes. -/
  | read (streamId : ℤ) (bufLen : ℕ)
  /-- It is done with the data source of a stream. -/
  | detach (streamId : ℤ)
  /-- nghttp2 closes a stream and calls back. -/
  | close (streamId : ℤ)

/-- A call of `nghttp2_session_send`: what nghttp2 does and the value it returns. -/
structure NgSend where
  /-- What nghttp2 does in the call, in order. -/
  writes : List NgWrite
  /-- The value that the call returns. -/
  res : ℤ

/-- What a call of the read callback handed to nghttp2. -/
structure DataOut where
  /-- The stream whose data was read. -/
  streamId : ℤ
  /-- The bytes that the read callback wrote. -/
  buf : Bytes
  /-- The flags that the read callback set. -/
  dataFlags : ℕ

/-- One thing nghttp2 does; without a data source there is nothing to read, and only an open stream
can be closed. -/
def ngWrite (server : ServerShared) (ezsession : Session) :
    NgWrite → Option (Session × List DataOut)
  | .read streamId bufLen =>
      match ezsession.ngsession.providers streamId with
      | none => some (ezsession, [])
      | some ptr => do
          let ezstream ← ezsession.objs ptr
          let r ← dataSourceReadCallback2 bufLen ezstream 0
          some (ezsession.setObj ptr (some r.stream), [⟨streamId, r.buf, r.dataFlags⟩])
  | .detach streamId =>
      some ({ ezsession with ngsession := ezsession.ngsession.detach streamId }, [])
  | .close streamId =>
      if (ezsession.ngsession.streams streamId).isSome then do
        let r ← streamClose server ezsession streamId
        some (r.session, [])
      else some (ezsession, [])

/-- All that nghttp2 does in one call of `nghttp2_session_send`. -/
def ngWrites (server : ServerShared) (ezsession : Session) :
    List NgWrite → Option (Session × List DataOut)
  | [] => some (ezsession, [])
  | w :: ws => do
      let (ezsession, out) ← ngWrite server ezsession w
      let (ezsession, outs) ← ngWrites server ezsession ws
      some (ezsession, out ++ outs)

/-- **What one thing nghttp2 does changes**: the session behind it, and what the read callback handed
over. -/
inductive NgWriteEffect (server : ServerShared) (ez : Session) :
    NgWrite → Session → List DataOut → Prop
  /-- There is no data source to read. -/
  | skipsRead {streamId : ℤ} {bufLen : ℕ} (hprovider : ez.ngsession.providers streamId = none) :
      NgWriteEffect server ez (.read streamId bufLen) ez []
  /-- The read callback works on the object of the data source. -/
  | reads {streamId : ℤ} {bufLen ptr : ℕ} {s : Stream} {r : DataRead}
      (hprovider : ez.ngsession.providers streamId = some ptr) (hobj : ez.objs ptr = some s)
      (hr : dataSourceReadCallback2 bufLen s 0 = some r) :
      NgWriteEffect server ez (.read streamId bufLen) (ez.setObj ptr (some r.stream))
        [⟨streamId, r.buf, r.dataFlags⟩]
  /-- The data source of a stream is dropped. -/
  | detaches (streamId : ℤ) : NgWriteEffect server ez (.detach streamId)
      { ez with ngsession := ez.ngsession.detach streamId } []
  /-- A stream that is not open is not closed. -/
  | skipsClose {streamId : ℤ} (hclosed : ¬(ez.ngsession.streams streamId).isSome = true) :
      NgWriteEffect server ez (.close streamId) ez []
  /-- An open stream is closed, and its object freed. -/
  | closes {streamId : ℤ} {r : CallbackResult}
      (hopen : (ez.ngsession.streams streamId).isSome = true)
      (hr : streamClose server ez streamId = some r) :
      NgWriteEffect server ez (.close streamId) r.session []

section

variable {server : ServerShared} {ez ez' : Session} {ws : List NgWrite} {outs : List DataOut}

theorem ngWrite_effect {w : NgWrite} (h : ngWrite server ez w = some (ez', outs)) :
    NgWriteEffect server ez w ez' outs := by
  cases w with
  | read streamId bufLen =>
      rw [ngWrite] at h
      cases hp : ez.ngsession.providers streamId with
      | none =>
          rw [hp] at h
          cases h
          exact .skipsRead hp
      | some ptr =>
          rw [hp] at h
          obtain ⟨s, hobj, h⟩ := Option.bind_eq_some_iff.mp h
          obtain ⟨r, hr, h⟩ := Option.bind_eq_some_iff.mp h
          cases h
          exact .reads hp hobj hr
  | detach streamId =>
      cases h
      exact .detaches streamId
  | close streamId =>
      rw [ngWrite] at h
      split at h
      · next hopen =>
          obtain ⟨r, hr, h⟩ := Option.bind_eq_some_iff.mp h
          cases h
          exact .closes hopen hr
      · next hclosed =>
          cases h
          exact .skipsClose hclosed

/-- The first thing nghttp2 does, and the others. -/
theorem ngWrites_cons {w : NgWrite} (h : ngWrites server ez (w :: ws) = some (ez', outs)) :
    ∃ ez₁ out outs', ngWrite server ez w = some (ez₁, out) ∧
      ngWrites server ez₁ ws = some (ez', outs') ∧ outs = out ++ outs' := by
  obtain ⟨⟨ez₁, out⟩, hw, h⟩ := Option.bind_eq_some_iff.mp h
  obtain ⟨⟨ez₂, outs'⟩, hws, h⟩ := Option.bind_eq_some_iff.mp h
  cases h
  exact ⟨ez₁, out, outs', hw, hws, rfl⟩

/-- **What nghttp2 keeps** by each thing it does it keeps in a call of `nghttp2_session_send`. -/
theorem ngWrites_invariant {I : Session → Prop}
    (hstep : ∀ ez w ez' outs, I ez → ngWrite server ez w = some (ez', outs) → I ez') (hez : I ez)
    (h : ngWrites server ez ws = some (ez', outs)) : I ez' := by
  induction ws generalizing ez outs with
  | nil =>
      cases h
      exact hez
  | cons w ws ih =>
      obtain ⟨ez₁, out, outs', hw, hws, -⟩ := ngWrites_cons h
      exact ih (hstep ez w ez₁ out hez hw) hws

/-- Calls of `nghttp2_session_send` one after the other. -/
theorem ngWrites_append {ez₁ : Session} {ws' : List NgWrite} {outs' : List DataOut}
    (h : ngWrites server ez ws = some (ez₁, outs))
    (h' : ngWrites server ez₁ ws' = some (ez', outs')) :
    ngWrites server ez (ws ++ ws') = some (ez', outs ++ outs') := by
  induction ws generalizing ez outs with
  | nil =>
      cases h
      exact h'
  | cons w ws ih =>
      obtain ⟨ez₂, out, outs₁, hw, hws, rfl⟩ := ngWrites_cons h
      simp only [List.cons_append, ngWrites, hw, ih hws, Option.bind_eq_bind, Option.bind_some,
        List.append_assoc]

end

/-! ## (2) The calls -/

/-- The head the calls on a stream share: the cell of the session and the address of the stream
object, or the value returned when there is none. -/
def locate (ezserver : Server) (sessionUuid : SessionUuid) (streamId : ℤ) :
    Option (Except ℕ (ℕ × Session × ℕ)) := do
  match ← sessionFind ezserver.sessions ezserver.nbSessions sessionUuid with
  | none => some (.error 1)
  | some i =>
      let ezsession ← (ezserver.sessions i).session
      match ezsession.userData streamId with
      | none => some (.error 2)
      | some ptr => some (.ok (i, ezsession, ptr))

/-- What a call of the application leaves behind. -/
structure CallResult where
  /-- The value that the call returns. -/
  ret : ℕ
  /-- The list of messages of the caller. -/
  messages : List Message
  /-- The server behind the call. -/
  server : Server
  /-- What nghttp2 got from the read callback. -/
  outs : List DataOut

/-- The `while` loop of `stream_send`: `nghttp2_session_send` as long as nghttp2 wants to write. -/
def sendLoop (server : ServerShared) (ezsession : Session) :
    List NgSend → Option (ℕ × Session × List DataOut)
  | [] => some (0, ezsession, [])
  | send :: sends => do
      let (ezsession, outs) ← ngWrites server ezsession send.writes
      if send.res ≠ 0 then some (3, ezsession, outs)
      else do
        let (ret, ezsession, outs') ← sendLoop server ezsession sends
        some (ret, ezsession, outs ++ outs')

/-- The calls of `nghttp2_session_send` up to the first that fails. -/
def writesDone : List NgSend → List NgWrite
  | [] => []
  | send :: sends => if send.res ≠ 0 then send.writes else send.writes ++ writesDone sends

/-- **What the loop does**: it makes these calls, and ends with 0 when none fails. -/
theorem sendLoop_eq_some {server : ServerShared} {ez ez' : Session} {sends : List NgSend} {ret : ℕ}
    {outs : List DataOut} (h : sendLoop server ez sends = some (ret, ez', outs)) :
    ngWrites server ez (writesDone sends) = some (ez', outs) ∧
      ret = if ∀ send ∈ sends, send.res = 0 then 0 else 3 := by
  induction sends generalizing ez outs ret with
  | nil =>
      cases h
      exact ⟨rfl, rfl⟩
  | cons send sends ih =>
      obtain ⟨⟨ez₁, out⟩, hws, h⟩ := Option.bind_eq_some_iff.mp h
      dsimp only at h
      simp only [writesDone, List.forall_mem_cons]
      by_cases hres : send.res ≠ 0
      · rw [if_pos hres] at h
        cases h
        rw [if_pos hres, if_neg fun hall => hres hall.1]
        exact ⟨hws, rfl⟩
      · rw [if_neg hres] at h
        obtain ⟨⟨ret', ez₂, outs'⟩, hrest, h⟩ := Option.bind_eq_some_iff.mp h
        cases h
        obtain ⟨hws', hret⟩ := ih hrest
        rw [if_neg hres]
        refine ⟨ngWrites_append hws hws', hret.trans ?_⟩
        simp only [of_not_not hres, true_and]

/-- `ezgrpc2_server_session_stream_send`: the messages are queued and nghttp2 made to write. -/
def sessionStreamSend (ezserver : Server) (sessionUuid : SessionUuid) (streamId : ℤ)
    (messages : List Message) (sends : List NgSend) : Option CallResult := do
  match ← locate ezserver sessionUuid streamId with
  | .error ret => some ⟨ret, messages, ezserver, []⟩
  | .ok (i, ezsession, ptr) =>
      let ezstream ← ezsession.objs ptr
      let ezsession := ezsession.setObj ptr (some (ezstream.enqueue messages))
      let ezsession :=
        { ezsession with ngsession := ezsession.ngsession.submitData streamId ptr }
      let (ret, ezsession, outs) ← sendLoop ezserver.toServerShared ezsession sends
      some
        { ret := ret
          messages := (listConcatAndEmptySrc ezstream.lqueueOmessages messages).2
          server := ezserver.setSession i ezsession
          outs := outs }

/-- `ezgrpc2_server_session_stream_end`. Whether messages are queued decides what is logged. -/
def sessionStreamEnd (ezserver : Server) (sessionUuid : SessionUuid) (streamId : ℤ) (status : ℤ)
    (send : NgSend) : Option CallResult := do
  match ← locate ezserver sessionUuid streamId with
  | .error ret => some ⟨ret, [], ezserver, []⟩
  | .ok (i, ezsession, ptr) =>
      let _ ← ezsession.objs ptr
      let ezsession := ezsession.submit (.trailer streamId (statusTrailers status))
      let (ezsession, outs) ← ngWrites ezserver.toServerShared ezsession send.writes
      some ⟨0, [], ezserver.setSession i ezsession, outs⟩

/-! ## (3) Accounts

What was queued for a stream, what of it the read callback has written, and whether the callback has
reported the end of the queue since. -/

/-- The account of what a stream has to send. -/
structure SendLog where
  /-- The messages that `stream_send` has queued on the stream. -/
  queued : List Message
  /-- The bytes the read callback has written. -/
  written : Bytes
  /-- The read callback has reported EOF since the last message was queued. -/
  drained : Bool

/-- The account of a stream for which nothing was queued. -/
def sendLogNew : SendLog := ⟨[], [], true⟩

/-- The account when messages are queued. -/
def SendLog.queue (l : SendLog) (ms : List Message) : SendLog :=
  { l with queued := l.queued ++ ms, drained := l.drained && ms.isEmpty }

/-- The account when the read callback was called. -/
def SendLog.out (l : SendLog) (o : DataOut) : SendLog :=
  { l with
    written := l.written ++ o.buf
    drained := l.drained || o.dataFlags &&& dataFlagEof != 0 }

/-- Calls of the read callback, for the accounts of a session. -/
def outAll (logs : ℤ → SendLog) (outs : List DataOut) : ℤ → SendLog :=
  outs.foldl (fun logs o => Function.update logs o.streamId ((logs o.streamId).out o)) logs

/-- **The stream agrees with its account**: what was written and what is pending are the frames of
the messages queued, and the account is drained exactly when the queue is empty. -/
structure Stream.Accounts (s : Stream) (l : SendLog) : Prop where
  /-- What the read callback relies on holds of the stream. -/
  inv : s.SendInv
  /-- No byte is lost: written and pending bytes are those of the messages queued. -/
  bytes : l.written ++ s.sendPending = encMessages l.queued
  /-- EOF was reported, or messages are queued. -/
  drained : l.drained = true ↔ s.lqueueOmessages = []

namespace Stream.Accounts

variable {s : Stream} {l : SendLog}

/-- A stream without queued messages has an empty account. -/
theorem new (hq : s.lqueueOmessages = []) (ht : s.isTrunc = false) : s.Accounts sendLogNew where
  inv := Stream.SendInv.of_not_trunc ht
  bytes := by rw [Stream.sendPending_of_not_trunc ht, hq]; rfl
  drained := ⟨fun _ => hq, fun _ => rfl⟩

/-- Queueing messages keeps stream and account together. -/
theorem enqueue (h : s.Accounts l) (ms : List Message) : (s.enqueue ms).Accounts (l.queue ms) where
  inv := h.inv.enqueue ms
  bytes := by
    rw [h.inv.sendPending_enqueue, ← List.append_assoc]
    show l.written ++ s.sendPending ++ encMessages ms = encMessages (l.queued ++ ms)
    rw [h.bytes, encMessages_append]
  drained := by
    show (l.drained && ms.isEmpty) = true ↔ _
    rw [Bool.and_eq_true, h.drained, List.isEmpty_iff, Stream.enqueue_lqueueOmessages,
      List.append_eq_nil_iff]

/-- A call of the read callback keeps stream and account together. -/
theorem read (h : s.Accounts l) {bufLen : ℕ} {r : DataRead} (streamId : ℤ)
    (hr : dataSourceReadCallback2 bufLen s 0 = some r) :
    r.stream.Accounts (l.out ⟨streamId, r.buf, r.dataFlags⟩) := by
  rw [dataSourceReadCallback2] at hr
  by_cases hbuf : bufLen < 5
  · -- no room for a header: nothing is written
    rw [if_pos hbuf] at hr
    obtain rfl := Option.some.inj hr
    refine ⟨h.inv, ?_, ?_⟩
    · show l.written ++ [] ++ s.sendPending = _
      rw [List.append_nil]
      exact h.bytes
    · show (l.drained || 0 &&& dataFlagEof != 0) = true ↔ s.lqueueOmessages = []
      rw [Nat.zero_and, bne_self_eq_false, Bool.or_false]
      exact h.drained
  · rw [if_neg hbuf] at hr
    have hspec := readLoop_spec h.inv (Nat.zero_le bufLen) hr
    refine ⟨hspec.inv, ?_, ?_⟩
    · show l.written ++ r.buf ++ r.stream.sendPending = _
      rw [List.append_assoc, ← hspec.bytes, List.nil_append]
      exact h.bytes
    · show (l.drained || r.dataFlags &&& dataFlagEof != 0) = true ↔ _
      rw [Bool.or_eq_true, h.drained, bne_iff_ne, hspec.eof_iff]
      constructor
      · rintro (hq | hq)
        · -- an empty queue stays empty
          have hsuffix := hspec.suffix
          rw [hq] at hsuffix
          exact List.suffix_nil.mp hsuffix
        · exact hq
      · exact Or.inr

/-- **With an empty queue everything is written.** -/
theorem delivered (h : s.Accounts l) (hq : s.lqueueOmessages = []) :
    s.isTrunc = false ∧ l.written = encMessages l.queued := by
  have ht : s.isTrunc = false := by
    by_contra hcon
    obtain ⟨m, ms, hq', -⟩ := h.inv (by simpa using hcon)
    rw [hq] at hq'
    cases hq'
  have hbytes := h.bytes
  rw [Stream.sendPending_of_not_trunc ht, hq, encMessages_nil, List.append_nil] at hbytes
  exact ⟨ht, hbytes⟩

end Stream.Accounts

/-! ## (4) A session writes -/

/-- The read callback keeps the id of the stream. -/
theorem readLoop_streamId {bufLen : ℕ} {stream : Stream} {buf : Bytes} {dataFlags : ℕ}
    {r : DataRead} (h : readLoop bufLen stream buf dataFlags = some r) :
    r.stream.streamId = stream.streamId := by
  fun_induction readLoop bufLen stream buf dataFlags with
  | case1 | case3 | case6 | case8 =>
      obtain rfl := Option.some.inj h
      rfl
  | case2 | case4 => cases h
  | case5 _ _ _ _ _ _ _ _ _ _ _ _ ih => exact ih h
  | case7 _ _ _ _ _ _ ih => exact ih h

theorem dataSourceReadCallback2_streamId {bufLen : ℕ} {stream : Stream} {dataFlags : ℕ}
    {r : DataRead} (h : dataSourceReadCallback2 bufLen stream dataFlags = some r) :
    r.stream.streamId = stream.streamId := by
  rw [dataSourceReadCallback2] at h
  by_cases hbuf : bufLen < 5
  · rw [if_pos hbuf] at h
    obtain rfl := Option.some.inj h
    rfl
  · rw [if_neg hbuf] at h
    exact readLoop_streamId h

/-- **The session agrees with its accounts**: the registry is in order, a data source is the object
of its stream, and every stream agrees with its account. -/
structure Session.Accounts (ez : Session) (logs : ℤ → SendLog) : Prop where
  /-- The registries of streams, of nghttp2 and of the server, agree. -/
  registry : ez.RegistryOk
  /-- nghttp2 reads a response from the object of the stream. -/
  provider : ∀ streamId p, ez.ngsession.providers streamId = some p → ez.userData streamId = some p
  /-- The streams agree with their accounts. -/
  stream : ∀ streamId p s, ez.userData streamId = some p → ez.objs p = some s →
    s.Accounts (logs streamId)

namespace Session.Accounts

variable {server : ServerShared} {ez ez' : Session} {logs : ℤ → SendLog} {outs : List DataOut}

/-- A new state for the object of one stream. -/
theorem setObj (h : ez.Accounts logs) {streamId : ℤ} {p : ℕ} {s s' : Stream} {l : SendLog}
    (hptr : ez.userData streamId = some p) (hobj : ez.objs p = some s)
    (hid : s'.streamId = s.streamId) (hs' : s'.Accounts l) :
    (ez.setObj p (some s')).Accounts (Function.update logs streamId l) where
  registry := h.registry.of_same (SameRegistry.setObj hobj hid)
  provider := h.provider
  stream := by
    intro id q t hq ht
    by_cases hqp : q = p
    · -- the object belongs to one stream only
      subst hqp
      obtain ⟨s₁, hs₁, hid₁, -⟩ := h.registry.obj_of_userData hptr
      obtain ⟨s₂, hs₂, hid₂, -⟩ := h.registry.obj_of_userData hq
      rw [hs₁, Option.some.injEq] at hs₂
      obtain rfl : id = streamId := by rw [← hid₁, ← hid₂, hs₂]
      rw [setObj_objs_self, Option.some.injEq] at ht
      rw [← ht, Function.update_self]
      exact hs'
    · have hne : id ≠ streamId := by
        rintro rfl
        rw [setObj_userData, hptr, Option.some.injEq] at hq
        exact hqp hq.symm
      rw [setObj_objs_of_ne _ hqp] at ht
      rw [Function.update_of_ne hne]
      exact h.stream id q t hq ht

/-- A data source that nghttp2 drops leaves the accounts. -/
theorem detach (h : ez.Accounts logs) (streamId : ℤ) :
    Session.Accounts { ez with ngsession := ez.ngsession.detach streamId } logs where
  registry := h.registry.of_same ⟨rfl, rfl, fun _ => rfl⟩
  provider := by
    intro id p hp
    by_cases hid : id = streamId
    · rw [Ngsession.detach] at hp
      simp only [if_pos hid] at hp
      cases hp
    · rw [Ngsession.detach] at hp
      simp only [if_neg hid] at hp
      exact h.provider id p hp
  stream := h.stream

/-- A data source that is attached leaves the accounts. -/
theorem submitData (h : ez.Accounts logs) {streamId : ℤ} {p : ℕ}
    (hptr : ez.userData streamId = some p) :
    Session.Accounts { ez with ngsession := ez.ngsession.submitData streamId p } logs := by
  rw [Ngsession.submitData]
  by_cases hattach : (ez.ngsession.streams streamId).isSome = true ∧
      ez.ngsession.providers streamId = none
  · rw [if_pos hattach]
    refine ⟨h.registry.of_same ⟨rfl, rfl, fun _ => rfl⟩, ?_, h.stream⟩
    intro id q hq
    by_cases hid : id = streamId
    · simp only [if_pos hid, Option.some.injEq] at hq
      rw [hid, ← hq]
      exact hptr
    · simp only [if_neg hid] at hq
      exact h.provider id q hq
  · rw [if_neg hattach]
    exact h

/-- A frame that is submitted leaves the accounts. -/
theorem submit (h : ez.Accounts logs) (f : Submission) : (ez.submit f).Accounts logs where
  registry := h.registry.of_same (SameRegistry.submit ez f)
  provider := h.provider
  stream := h.stream

/-- A stream that nghttp2 closes takes its account along; the others stay. -/
theorem close (h : ez.Accounts logs) {streamId : ℤ} {r : CallbackResult}
    (hopen : (ez.ngsession.streams streamId).isSome = true)
    (hr : streamClose server ez streamId = some r) : r.session.Accounts logs := by
  obtain ⟨r', -, hr', hreg, -, -⟩ := h.registry.streamClose server hopen
  rw [hr, Option.some.injEq] at hr'
  subst hr'
  obtain ⟨p, l, -, rfl⟩ := streamClose_eq_some hr
  refine ⟨hreg, ?_, ?_⟩
  · intro id q hq
    by_cases hid : id = streamId
    · simp [Ngsession.closeStream, Ngsession.detach, hid] at hq
    · simp only [Ngsession.closeStream, Ngsession.detach, if_neg hid] at hq
      simp only [Session.userData, Ngsession.getStreamUserData, Ngsession.closeStream, if_neg hid]
      exact h.provider id q hq
  · intro id q s hq hs
    have hid : id ≠ streamId := by
      rintro rfl
      simp [Session.userData, Ngsession.getStreamUserData, Ngsession.closeStream] at hq
    simp only [Session.userData, Ngsession.getStreamUserData, Ngsession.closeStream,
      if_neg hid] at hq
    have hqp : q ≠ p := by
      rintro rfl
      simp [Session.setObj] at hs
    exact h.stream id q s hq ((setObj_objs_of_ne none hqp).symm.trans hs)

/-- **One thing nghttp2 does keeps the accounts.** -/
theorem ngWrite (h : ez.Accounts logs) {w : NgWrite}
    (hw : Ezgrpc2.ngWrite server ez w = some (ez', outs)) : ez'.Accounts (outAll logs outs) := by
  cases ngWrite_effect hw with
  | skipsRead | skipsClose => exact h
  | reads hprovider hobj hr =>
      have hptr := h.provider _ _ hprovider
      exact h.setObj hptr hobj (dataSourceReadCallback2_streamId hr)
        ((h.stream _ _ _ hptr hobj).read _ hr)
  | detaches streamId => exact h.detach streamId
  | closes hopen hr => exact h.close hopen hr

/-- A call of `nghttp2_session_send` keeps the accounts. -/
theorem ngWrites (h : ez.Accounts logs) {ws : List NgWrite}
    (hws : Ezgrpc2.ngWrites server ez ws = some (ez', outs)) :
    ez'.Accounts (outAll logs outs) := by
  induction ws generalizing ez logs outs with
  | nil =>
      cases hws
      exact h
  | cons w ws ih =>
      obtain ⟨ez₁, out, outs', hw, hrest, rfl⟩ := ngWrites_cons hws
      rw [outAll, List.foldl_append]
      exact ih (h.ngWrite hw) hrest

/-- The loop of `stream_send` keeps the accounts. -/
theorem sendLoop (h : ez.Accounts logs) {sends : List NgSend} {ret : ℕ}
    (hloop : Ezgrpc2.sendLoop server ez sends = some (ret, ez', outs)) :
    ez'.Accounts (outAll logs outs) := h.ngWrites (sendLoop_eq_some hloop).1

end Session.Accounts

/-! ## (5) Runs -/

/-- A call of the application, or nghttp2 writing from within `poll`. -/
inductive SendCall where
  /-- A call of `ezgrpc2_server_session_stream_send` with messages. -/
  | streamSend (sessionUuid : SessionUuid) (streamId : ℤ) (messages : List Message)
      (sends : List NgSend)
  /-- A call of `ezgrpc2_server_session_stream_end` with a status. -/
  | streamEnd (sessionUuid : SessionUuid) (streamId : ℤ) (status : ℤ) (send : NgSend)
  /-- `nghttp2_session_send` on a cell of `sessions`. -/
  | flush (index : ℕ) (send : NgSend)

/-- The server with the accounts of the streams of each cell of `sessions`. -/
structure CallState where
  /-- The server as the calls left it. -/
  server : Server
  /-- The accounts of all streams, by cell and stream. -/
  logs : ℕ → ℤ → SendLog

/-- One call; `none` is an abort of the server. Both 0 and 3 are returned by a `stream_send` that
queued its messages. -/
def callStep (st : CallState) : SendCall → Option CallState
  | .streamSend uuid streamId messages sends => do
      let r ← sessionStreamSend st.server uuid streamId messages sends
      let logs := st.logs uuid.index
      if r.ret = 1 ∨ r.ret = 2 then some ⟨r.server, st.logs⟩
      else
        let logs := Function.update logs streamId ((logs streamId).queue messages)
        some ⟨r.server, Function.update st.logs uuid.index (outAll logs r.outs)⟩
  | .streamEnd uuid streamId status send => do
      let r ← sessionStreamEnd st.server uuid streamId status send
      some ⟨r.server, Function.update st.logs uuid.index (outAll (st.logs uuid.index) r.outs)⟩
  | .flush i send =>
      match (st.server.sessions i).session with
      | none => some st
      | some ezsession => do
          let (ezsession, outs) ← ngWrites st.server.toServerShared ezsession send.writes
          some ⟨st.server.setSession i ezsession,
            Function.update st.logs i (outAll (st.logs i) outs)⟩

/-- The stream a call for `streamId` of `uuid` works on. -/
def Server.streamAt (server : Server) (uuid : SessionUuid) (streamId : ℤ) : Option Stream :=
  match locate server uuid streamId with
  | some (.ok (_, ezsession, ptr)) => ezsession.objs ptr
  | _ => none

namespace SendCall

/-- **The trailers come last**: when the call submits the trailers of a stream, the read callback has
written all that was queued for it, its queue is empty and no message is half written. -/
def Delivered (st : CallState) : SendCall → Prop
  | .streamEnd uuid streamId _ _ => ∀ s, st.server.streamAt uuid streamId = some s →
      (st.logs uuid.index streamId).written = encMessages (st.logs uuid.index streamId).queued ∧
        s.lqueueOmessages = [] ∧ s.isTrunc = false
  | .streamSend _ _ _ _ | .flush _ _ => True

/-- A call that submits trailers comes after the read callback has reported EOF for what was queued
last. -/
def AfterEof (st : CallState) : SendCall → Prop
  | .streamEnd uuid streamId _ _ => ∀ s, st.server.streamAt uuid streamId = some s →
      (st.logs uuid.index streamId).drained = true
  | .streamSend _ _ _ _ | .flush _ _ => True

/-- A call that submits trailers does not find that messages are still queued. -/
def NoneQueued (st : CallState) : SendCall → Prop
  | .streamEnd uuid streamId _ _ => ∀ s, st.server.streamAt uuid streamId = some s →
      listIsEmpty s.lqueueOmessages = true
  | .streamSend _ _ _ _ | .flush _ _ => True

end SendCall

/-- **The invariant of a run**: every session agrees with its accounts. -/
def CallState.Accounts (st : CallState) : Prop :=
  ∀ i ez, (st.server.sessions i).session = some ez → ez.Accounts (st.logs i)

/-- **What the head of the calls finds**: no session or no stream, or the user data of the stream. -/
theorem locate_cases {server : Server} {uuid : SessionUuid} {streamId : ℤ}
    {found : Except ℕ (ℕ × Session × ℕ)} (h : locate server uuid streamId = some found) :
    (∃ ret, found = .error ret ∧ (ret = 1 ∨ ret = 2)) ∨
      ∃ ez ptr, found = .ok (uuid.index, ez, ptr) ∧
        (server.sessions uuid.index).session = some ez ∧ ez.userData streamId = some ptr := by
  obtain ⟨i, hfind, h⟩ := Option.bind_eq_some_iff.mp h
  cases i with
  | none =>
      cases h
      exact Or.inl ⟨1, rfl, Or.inl rfl⟩
  | some i =>
      obtain ⟨ez, hslot, h⟩ := Option.bind_eq_some_iff.mp h
      cases hptr : ez.userData streamId with
      | none =>
          rw [hptr] at h
          cases h
          exact Or.inl ⟨2, rfl, Or.inr rfl⟩
      | some ptr =>
          rw [hptr] at h
          cases h
          obtain rfl := (sessionFind_eq_some hfind).1
          exact Or.inr ⟨ez, ptr, rfl, hslot, hptr⟩

/-- A call that finds its stream names the cell, the session and the object of it. -/
theorem locate_eq_ok {server : Server} {uuid : SessionUuid} {streamId : ℤ} {i ptr : ℕ}
    {ez : Session} (h : locate server uuid streamId = some (.ok (i, ez, ptr))) :
    i = uuid.index ∧ (server.sessions i).session = some ez ∧ ez.userData streamId = some ptr := by
  rcases locate_cases h with ⟨ret, hret, -⟩ | ⟨ez', ptr', hfound, hslot, hptr⟩
  · cases hret
  · cases hfound
    exact ⟨rfl, hslot, hptr⟩

/-- A call that does not find its stream returns 1 or 2. -/
theorem locate_eq_error {server : Server} {uuid : SessionUuid} {streamId : ℤ} {ret : ℕ}
    (h : locate server uuid streamId = some (.error ret)) : ret = 1 ∨ ret = 2 := by
  rcases locate_cases h with ⟨ret', hret, hor⟩ | ⟨ez, ptr, hfound, -⟩
  · cases hret
    exact hor
  · cases hfound

/-- The loop of `stream_send` ends with 0 or 3. -/
theorem sendLoop_ret {server : ServerShared} {ez ez' : Session} {sends : List NgSend} {ret : ℕ}
    {outs : List DataOut} (h : sendLoop server ez sends = some (ret, ez', outs)) :
    ¬(ret = 1 ∨ ret = 2) := by
  rw [(sendLoop_eq_some h).2]
  split <;> decide

/-- The session in front of the loop of `stream_send`: the messages are queued and the data provider is
submitted. -/
def Session.queued (ez : Session) (streamId : ℤ) (ptr : ℕ) (s : Stream) (messages : List Message) :
    Session :=
  let ez := ez.setObj ptr (some (s.enqueue messages))
  { ez with ngsession := ez.ngsession.submitData streamId ptr }

/-- **What `stream_send` can do**: it does not find the stream and changes nothing, or it queues the
messages, of which none is left to the caller, and runs its loop. -/
theorem sessionStreamSend_eq_some {server : Server} {uuid : SessionUuid} {streamId : ℤ}
    {messages : List Message} {sends : List NgSend} {r : CallResult}
    (h : sessionStreamSend server uuid streamId messages sends = some r) :
    (∃ ret, locate server uuid streamId = some (.error ret) ∧ r = ⟨ret, messages, server, []⟩) ∨
      ∃ ez ptr s ret ez' outs, locate server uuid streamId = some (.ok (uuid.index, ez, ptr)) ∧
        (server.sessions uuid.index).session = some ez ∧ ez.userData streamId = some ptr ∧
        ez.objs ptr = some s ∧
        sendLoop server.toServerShared (ez.queued streamId ptr s messages) sends
          = some (ret, ez', outs) ∧
        r = ⟨ret, [], server.setSession uuid.index ez', outs⟩ := by
  obtain ⟨found, hfind, h⟩ := Option.bind_eq_some_iff.mp h
  cases found with
  | error ret =>
      cases h
      exact Or.inl ⟨ret, hfind, rfl⟩
  | ok found =>
      obtain ⟨i, ez, ptr⟩ := found
      obtain ⟨rfl, hslot, hptr⟩ := locate_eq_ok hfind
      obtain ⟨s, hobj, h⟩ := Option.bind_eq_some_iff.mp h
      obtain ⟨⟨ret, ez', outs⟩, hloop, h⟩ := Option.bind_eq_some_iff.mp h
      cases h
      refine Or.inr ⟨ez, ptr, s, ret, ez', outs, hfind, hslot, hptr, hobj, hloop, ?_⟩
      rw [listConcatAndEmptySrc_eq]

/-- **What `stream_end` can do**: it does not find the stream and changes nothing, or it submits the
trailers and lets nghttp2 write once. -/
theorem sessionStreamEnd_eq_some {server : Server} {uuid : SessionUuid} {streamId status : ℤ}
    {send : NgSend} {r : CallResult}
    (h : sessionStreamEnd server uuid streamId status send = some r) :
    (∃ ret, locate server uuid streamId = some (.error ret) ∧ r = ⟨ret, [], server, []⟩) ∨
      ∃ ez ptr ez' outs, locate server uuid streamId = some (.ok (uuid.index, ez, ptr)) ∧
        (server.sessions uuid.index).session = some ez ∧
        ngWrites server.toServerShared (ez.submit (.trailer streamId (statusTrailers status)))
          send.writes = some (ez', outs) ∧
        r = ⟨0, [], server.setSession uuid.index ez', outs⟩ := by
  obtain ⟨found, hfind, h⟩ := Option.bind_eq_some_iff.mp h
  cases found with
  | error ret =>
      cases h
      exact Or.inl ⟨ret, hfind, rfl⟩
  | ok found =>
      obtain ⟨i, ez, ptr⟩ := found
      obtain ⟨rfl, hslot, -⟩ := locate_eq_ok hfind
      obtain ⟨s, -, h⟩ := Option.bind_eq_some_iff.mp h
      obtain ⟨⟨ez', outs⟩, hws, h⟩ := Option.bind_eq_some_iff.mp h
      cases h
      exact Or.inr ⟨ez, ptr, ez', outs, hfind, hslot, hws, rfl⟩

namespace CallState.Accounts

variable {st st' : CallState}

/-- A session that changes with its accounts keeps those of all streams. -/
theorem setSession (h : st.Accounts) (i : ℕ) {ez : Session} {logs : ℤ → SendLog}
    (hez : ez.Accounts logs) :
    CallState.Accounts ⟨st.server.setSession i ez, Function.update st.logs i logs⟩ := by
  intro j ez' hj
  by_cases hji : j = i
  · subst hji
    rw [Server.setSession_self, Option.some.injEq] at hj
    simp only [← hj, Function.update_self]
    exact hez
  · rw [Server.setSession_of_ne _ hji] at hj
    simp only [Function.update_of_ne hji]
    exact h j ez' hj

/-- **A call keeps the accounts** of all streams. -/
theorem step (h : st.Accounts) {c : SendCall} (hstep : callStep st c = some st') :
    st'.Accounts := by
  cases c with
  | streamSend uuid streamId messages sends =>
      rw [callStep, Option.bind_eq_bind, Option.bind_eq_some_iff] at hstep
      obtain ⟨r, hr, hstep⟩ := hstep
      rcases sessionStreamSend_eq_some hr with
        ⟨ret, hfind, rfl⟩ | ⟨ez, ptr, s, ret, ez', outs, -, hslot, hptr, hobj, hloop, rfl⟩
      · rw [if_pos (locate_eq_error hfind), Option.some.injEq] at hstep
        rw [← hstep]
        exact h
      · rw [if_neg (sendLoop_ret hloop), Option.some.injEq] at hstep
        rw [← hstep]
        have hez := h _ ez hslot
        -- first the queue, then the data source, then what nghttp2 writes
        have hid : (s.enqueue messages).streamId = s.streamId := rfl
        have henqueue := hez.setObj hptr hobj hid
          ((hez.stream streamId ptr s hptr hobj).enqueue messages)
        exact h.setSession _ ((henqueue.submitData hptr).sendLoop hloop)
  | streamEnd uuid streamId status send =>
      rw [callStep, Option.bind_eq_bind, Option.bind_eq_some_iff] at hstep
      obtain ⟨r, hr, hstep⟩ := hstep
      cases hstep
      rcases sessionStreamEnd_eq_some hr with
        ⟨ret, -, rfl⟩ | ⟨ez, ptr, ez', outs, -, hslot, hws, rfl⟩
      · show CallState.Accounts ⟨st.server, Function.update st.logs _ (st.logs _)⟩
        rw [Function.update_eq_self]
        exact h
      · exact h.setSession _ (((h _ ez hslot).submit _).ngWrites hws)
  | flush i send =>
      rw [callStep] at hstep
      cases hslot : (st.server.sessions i).session with
      | none =>
          rw [hslot] at hstep
          cases hstep
          exact h
      | some ez =>
          rw [hslot] at hstep
          obtain ⟨⟨ez', outs⟩, hws, hstep⟩ := Option.bind_eq_some_iff.mp hstep
          cases hstep
          exact h.setSession i ((h i ez hslot).ngWrites hws)

/-- A stream that is found agrees with its account. -/
theorem streamAt (h : st.Accounts) {uuid : SessionUuid} {streamId : ℤ} {s : Stream}
    (hs : st.server.streamAt uuid streamId = some s) :
    s.Accounts (st.logs uuid.index streamId) := by
  rw [Server.streamAt] at hs
  split at hs
  · next i ez ptr hfind =>
      obtain ⟨rfl, hslot, hptr⟩ := locate_eq_ok hfind
      exact (h _ ez hslot).stream streamId ptr s hptr hs
  · cases hs

/-- The trailers come last exactly when they come after EOF. -/
theorem delivered_iff (h : st.Accounts) (c : SendCall) : c.Delivered st ↔ c.AfterEof st := by
  cases c with
  | streamSend _ _ _ _ | flush _ _ => exact Iff.rfl
  | streamEnd uuid streamId status send =>
      refine forall_congr' fun s => forall_congr' fun hs => ?_
      have hs := h.streamAt hs
      rw [hs.drained]
      exact ⟨fun hd => hd.2.1, fun hq => ⟨(hs.delivered hq).2, hq, (hs.delivered hq).1⟩⟩

/-- EOF was reported exactly when the test of `stream_end` finds nothing. -/
theorem afterEof_iff (h : st.Accounts) (c : SendCall) : c.AfterEof st ↔ c.NoneQueued st := by
  cases c with
  | streamSend _ _ _ _ | flush _ _ => exact Iff.rfl
  | streamEnd uuid streamId status send =>
      refine forall_congr' fun s => forall_congr' fun hs => ?_
      rw [(h.streamAt hs).drained, listIsEmpty_eq_true]

end CallState.Accounts

/-- **A server that has sent nothing**: the registries agree, no data source is attached and the
queues are empty. -/
def Server.Unsent (server : Server) : Prop :=
  ∀ i ez, (server.sessions i).session = some ez → ez.RegistryOk ∧
    (∀ streamId, ez.ngsession.providers streamId = none) ∧
    ∀ p s, ez.objs p = some s → s.lqueueOmessages = [] ∧ s.isTrunc = false

/-- The start of a run of calls, with empty accounts. -/
def sendStart (server : Server) : CallState := ⟨server, fun _ _ => sendLogNew⟩

theorem Server.Unsent.accounts {server : Server} (h : server.Unsent) :
    (sendStart server).Accounts := by
  intro i ez hslot
  obtain ⟨hreg, hprov, hobjs⟩ := h i ez hslot
  refine ⟨hreg, ?_, ?_⟩
  · intro streamId p hp
    rw [hprov] at hp
    cases hp
  · intro streamId p s _ hs
    exact Stream.Accounts.new (hobjs p s hs).1 (hobjs p s hs).2

/-- **When the trailers come last.** In every run of sends, ends and flushes, whatever nghttp2
writes in between, every `stream_end` finds all messages written exactly when each comes after the
read callback has reported EOF for the stream, that is, when none takes the branch for messages that
are still queued. -/
theorem callRun_delivered_iff {server : Server} (h : server.Unsent) (calls : List SendCall) :
    (Along callStep (fun st c => c.Delivered st) (sendStart server) calls ↔
        Along callStep (fun st c => c.AfterEof st) (sendStart server) calls) ∧
      (Along callStep (fun st c => c.AfterEof st) (sendStart server) calls ↔
        Along callStep (fun st c => c.NoneQueued st) (sendStart server) calls) := by
  constructor
  · exact along_iff (fun st c st' hst _ hstep => hst.step hstep)
      (fun st c hst => hst.delivered_iff c) h.accounts calls
  · exact along_iff (fun st c st' hst _ hstep => hst.step hstep)
      (fun st c hst => hst.afterEof_iff c) h.accounts calls

/-- A server with one session, in cell 2, on which stream 1 is open. -/
def serverOne : Server where
  initialWindowSize := 100
  table := pathTableTen
  events := eventsNew
  nbFds := 3
  fds := fun i => ⟨if i = 2 then 5 else -1, 0⟩
  nbSessions := 3
  sessions := fun i =>
    if i = 2 then
      ⟨true, some (beginHeaders ⟨100, pathTableTen, eventsNew⟩
        (sessionNew ⟨7, 2⟩ 5) 1 16 fun _ => 0).session⟩
    else slotZero
  socketCalls := [.acquire 5]

theorem serverOne_unsent : serverOne.Unsent := by
  intro i ez hslot
  by_cases hi : i = 2
  · subst hi
    obtain rfl := Option.some.inj hslot
    refine ⟨(Session.registryOk_sessionNew ⟨7, 2⟩ 5).beginHeaders _ 1 _ rfl rfl, fun _ => ?_, ?_⟩
    · rfl
    · intro p s hs
      rw [objs_beginHeaders] at hs
      by_cases hp : p = 16
      · rw [if_pos hp] at hs
        obtain rfl := Option.some.inj hs
        exact ⟨rfl, rfl⟩
      · rw [if_neg hp] at hs
        cases hs
  · have hzero : serverOne.sessions i = slotZero := if_neg hi
    rw [hzero] at hslot
    cases hslot

/-- A message that the window of the client lets through before the trailers. -/
theorem callRun_delivered_iff_serverOne :
    Along callStep (fun st c => c.Delivered st) (sendStart serverOne)
      [.streamSend ⟨7, 2⟩ 1 [messageNew 0 [1, 2]] [⟨[.read 1 16384, .detach 1], 0⟩],
        .streamEnd ⟨7, 2⟩ 1 0 ⟨[], 0⟩] := by
  refine (callRun_delivered_iff serverOne_unsent _).1.mpr ⟨trivial, fun st hst => ⟨?_, ?_⟩⟩
  · have hdrained : (callStep (sendStart serverOne) (.streamSend ⟨7, 2⟩ 1 [messageNew 0 [1, 2]]
        [⟨[.read 1 16384, .detach 1], 0⟩])).map (fun st => (st.logs 2 1).drained) = some true := by
      decide +kernel
    rw [hst, Option.map_some, Option.some.injEq] at hdrained
    intro s _
    exact hdrained
  · intro st' _
    trivial

/-- The client gives the response no window: the trailers are submitted with the message queued, and
not a byte of it is written. -/
theorem callRun_not_delivered :
    let calls : List SendCall :=
      [.streamSend ⟨7, 2⟩ 1 [messageNew 0 [1, 2]] [], .streamEnd ⟨7, 2⟩ 1 0 ⟨[], 0⟩]
    ¬Along callStep (fun st c => c.Delivered st) (sendStart serverOne) calls ∧
      (run callStep (sendStart serverOne) calls).map (fun st =>
          ((st.logs 2 1).written, (st.server.streamAt ⟨7, 2⟩ 1).map Stream.lqueueOmessages))
        = some ([], some [messageNew 0 [1, 2]]) := by
  constructor
  · rintro ⟨-, h⟩
    obtain ⟨h, -⟩ := h _ rfl
    obtain ⟨-, hq, -⟩ := h _ rfl
    cases hq
  · rfl

end Ezgrpc2
