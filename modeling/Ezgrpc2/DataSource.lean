import Ezgrpc2.Lib.Runs
import Ezgrpc2.Stream

/-! # `data_source_read_callback2`

The encoder of the response body: a machine that is called with a buffer of any size and resumes
where the last call stopped. `readLoop` is its loop, round by round as in the source; a failed
assertion aborts the program and is `none`. `readLoop_spec` says what one call does to the stream
of bytes: it writes the next bytes of `sendPending` and leaves the others pending.
`sendRun_refines` carries this through every run of appends and calls. -/

namespace Ezgrpc2

open StepRuns

/-! ## (1) The code -/

/-- `NGHTTP2_DATA_FLAG_EOF`: there is no more data. -/
def dataFlagEof : ℕ := 1

/-- `NGHTTP2_DATA_FLAG_NO_END_STREAM`: the stream goes on behind the data, with trailers. -/
def dataFlagNoEndStream : ℕ := 2

/-- `NGHTTP2_INTERNAL_ERROR`, an HTTP/2 error code that the callback returns as a length. -/
def nghttp2InternalError : ℕ := 2

/-- What a call of the read callback leaves behind. -/
structure DataRead where
  /-- The value returned, a number of bytes or an error. -/
  ret : ℕ
  /-- What was written to the front of `buf`. -/
  buf : Bytes
  /-- The flags that are left in `*data_flags`. -/
  dataFlags : ℕ
  /-- The stream behind the call, with what is left of its queue. -/
  stream : Stream

/-- The header of the front message has been written: its payload is next. -/
def Stream.beginPayload (s : Stream) : Stream := { s with isTrunc := true, truncSeek := 0 }

/-- The front message is out: it is popped and the next header is due. -/
def Stream.endPayload (s : Stream) : Stream :=
  { s with
    lqueueOmessages := (listPopFront s.lqueueOmessages).2
    isTrunc := false
    truncSeek := 0 }

/-- `n` more bytes of the front payload are out. -/
def Stream.seekPayload (s : Stream) (n : ℕ) : Stream := { s with truncSeek := s.truncSeek + n }

/-- The rounds of the loop that are left: two for a queued message, one when its header is out. -/
def Stream.roundsLeft (s : Stream) : ℕ :=
  2 * s.lqueueOmessages.length + if s.isTrunc then 0 else 1

theorem Stream.roundsLeft_endPayload {s : Stream} {m : Message} {ms : List Message}
    (hq : s.lqueueOmessages = m :: ms) : s.endPayload.roundsLeft < s.roundsLeft := by
  simp only [Stream.roundsLeft, Stream.endPayload, hq, listPopFront, List.length_cons,
    Bool.false_eq_true, if_false]
  omega

theorem Stream.roundsLeft_beginPayload {s : Stream} (ht : s.isTrunc = false) :
    s.beginPayload.roundsLeft < s.roundsLeft := by
  simp only [Stream.roundsLeft, Stream.beginPayload, ht, Bool.false_eq_true, if_true, if_false]
  omega

/-- The `while (1)` loop of `data_source_read_callback2`, with the `buf_seek` bytes of `buf` written
so far; `none` is a failed assertion. -/
def readLoop (bufLen : ℕ) (stream : Stream) (buf : Bytes) (dataFlags : ℕ) : Option DataRead :=
  match _hq : listPeekFront stream.lqueueOmessages with
  | none => some ⟨buf.length, buf, dataFlagEof ||| dataFlagNoEndStream, stream⟩
  | some msg =>
      if _ht : stream.isTrunc then
        if ¬bufLen ≥ buf.length then none
        else
          let rem := bufLen - buf.length
          if rem = 0 then some ⟨buf.length, buf, dataFlags, stream⟩
          else if ¬msg.len > stream.truncSeek then none
          else
            let left := msg.len - stream.truncSeek
            let payload := msg.data.drop stream.truncSeek
            if left ≤ rem then
              readLoop bufLen stream.endPayload (buf ++ payload.take left) dataFlags
            else
              let buf := buf ++ payload.take rem
              some ⟨buf.length, buf, dataFlags, stream.seekPayload rem⟩
      else if buf.length + 5 ≤ bufLen then
        readLoop bufLen stream.beginPayload (buf ++ msg.cflag :: u32Bytes (htonl msg.len)) dataFlags
      else some ⟨buf.length, buf, dataFlags, stream⟩
termination_by stream.roundsLeft
decreasing_by
  · obtain ⟨ms, hms⟩ := List.head?_eq_some_iff.mp _hq
    exact Stream.roundsLeft_endPayload hms
  · exact Stream.roundsLeft_beginPayload (by simpa using _ht)

/-- `data_source_read_callback2`; `none` is a failed assertion. -/
def dataSourceReadCallback2 (bufLen : ℕ) (stream : Stream) (dataFlags : ℕ) : Option DataRead :=
  if bufLen < 5 then some ⟨nghttp2InternalError, [], dataFlags, stream⟩
  else readLoop bufLen stream [] dataFlags

/-! ## (2) One round

Each round of the loop writes the next pending bytes. -/

/-- The header round: flag byte and length are the first bytes of the front message. -/
theorem Stream.sendPending_beginPayload {s : Stream} {m : Message} {ms : List Message}
    (ht : s.isTrunc = false) (hq : s.lqueueOmessages = m :: ms) :
    s.sendPending = (m.cflag :: u32Bytes (htonl m.len)) ++ s.beginPayload.sendPending := by
  have hq' : s.beginPayload.lqueueOmessages = m :: ms := hq
  rw [Stream.sendPending_of_not_trunc ht, hq, Stream.sendPending_of_trunc rfl hq',
    encMessages_cons, encFrame, Message.length_frame_payload, u32Bytes_htonl]
  simp only [Stream.beginPayload, Message.frame, List.drop_zero, List.cons_append,
    List.append_assoc]

/-- A payload round that the buffer cuts: `n` more bytes of the front payload. -/
theorem Stream.sendPending_seekPayload {s : Stream} {m : Message} {ms : List Message} {n : ℕ}
    (ht : s.isTrunc = true) (hq : s.lqueueOmessages = m :: ms) (hn : n ≤ m.len - s.truncSeek) :
    s.sendPending = (m.data.drop s.truncSeek).take n ++ (s.seekPayload n).sendPending := by
  have ht' : (s.seekPayload n).isTrunc = true := ht
  have hq' : (s.seekPayload n).lqueueOmessages = m :: ms := hq
  rw [Stream.sendPending_of_trunc ht hq, Stream.sendPending_of_trunc ht' hq',
    ← List.append_assoc]
  congr 1
  -- the first `n` of the bytes left, and the ones behind them
  have hsplit := List.take_append_drop n (m.frame.payload.drop s.truncSeek)
  rw [List.drop_drop] at hsplit
  rw [← hsplit]
  congr 1
  rw [Message.frame, List.drop_take, List.take_take, Nat.min_eq_left hn]

/-- A payload round that fits: all the bytes left of the front payload. -/
theorem Stream.sendPending_endPayload {s : Stream} {m : Message} {ms : List Message}
    (ht : s.isTrunc = true) (hq : s.lqueueOmessages = m :: ms) :
    s.sendPending
      = (m.data.drop s.truncSeek).take (m.len - s.truncSeek) ++ s.endPayload.sendPending := by
  have hq' : s.endPayload.lqueueOmessages = ms := by
    rw [Stream.endPayload, hq]
    rfl
  rw [Stream.sendPending_of_trunc ht hq, Stream.sendPending_of_not_trunc (s := s.endPayload) rfl,
    hq', Message.frame, List.drop_take]

/-! ## (3) One call -/

/-- **What the loop does** with a buffer of `bufLen` bytes of which `buf` is written. -/
structure ReadLoopSpec (bufLen : ℕ) (stream : Stream) (buf : Bytes) (dataFlags : ℕ)
    (r : DataRead) : Prop where
  /-- The value returned is the number of bytes written. -/
  ret_eq : r.ret = r.buf.length
  /-- The bytes fit in the buffer of nghttp2. -/
  ret_le : r.ret ≤ bufLen
  /-- The bytes written and the bytes pending are those of before. -/
  bytes : buf ++ stream.sendPending = r.buf ++ r.stream.sendPending
  /-- What the stream keeps from call to call holds behind the loop. -/
  inv : r.stream.SendInv
  /-- Messages leave the queue at the front only. -/
  suffix : r.stream.lqueueOmessages <:+ stream.lqueueOmessages
  /-- It stops in front of a message only when no header fits the buffer. -/
  full : r.stream.lqueueOmessages ≠ [] → bufLen < r.ret + 5
  /-- It reports the end of the queue and nothing else. -/
  flags : r.dataFlags = if r.stream.lqueueOmessages = [] then dataFlagEof ||| dataFlagNoEndStream
    else dataFlags

/-- **The loop writes the next pending bytes.** The induction is on the rounds; `SendInv` carries
it: in a payload round `trunc_seek` is inside the front payload. -/
theorem readLoop_spec {bufLen : ℕ} {stream : Stream} {buf : Bytes} {dataFlags : ℕ} {r : DataRead}
    (hinv : stream.SendInv) (hbuf : buf.length ≤ bufLen)
    (h : readLoop bufLen stream buf dataFlags = some r) :
    ReadLoopSpec bufLen stream buf dataFlags r := by
  fun_induction readLoop bufLen stream buf dataFlags with
  | case1 stream buf hfront =>
      -- the queue is empty
      have hq : stream.lqueueOmessages = [] := List.head?_eq_none_iff.mp hfront
      obtain rfl := Option.some.inj h
      refine ⟨rfl, hbuf, rfl, hinv, List.suffix_rfl, fun hne => absurd hq hne, ?_⟩
      rw [if_pos hq]
  | case2 => cases h
  | case3 stream buf msg hfront ht hle rem hrem =>
      -- a half-written message and a full buffer
      obtain ⟨ms, hq⟩ := List.head?_eq_some_iff.mp hfront
      obtain rfl := Option.some.inj h
      refine ⟨rfl, hbuf, rfl, hinv, List.suffix_rfl, fun _ => ?_, ?_⟩
      · show bufLen < buf.length + 5
        omega
      · show dataFlags = _
        rw [if_neg (by rw [hq]; exact List.cons_ne_nil _ _)]
  | case4 => cases h
  | case5 stream buf msg hfront ht hle rem hrem hseek left payload hfit ih =>
      -- the rest of the payload fits
      obtain ⟨ms, hq⟩ := List.head?_eq_some_iff.mp hfront
      have hlen : (buf ++ payload.take left).length ≤ bufLen := by
        rw [List.length_append, List.length_take]
        omega
      have hsuf : stream.endPayload.lqueueOmessages <:+ stream.lqueueOmessages := by
        rw [Stream.endPayload, hq]
        exact List.suffix_cons msg ms
      have hspec := ih (Stream.SendInv.of_not_trunc rfl) hlen h
      refine ⟨hspec.ret_eq, hspec.ret_le, ?_, hspec.inv, hspec.suffix.trans hsuf, hspec.full,
        hspec.flags⟩
      rw [Stream.sendPending_endPayload ht hq, ← hspec.bytes, List.append_assoc]
  | case6 stream buf msg hfront ht hle rem hrem hseek left payload hfit buf' =>
      -- the payload is cut at the end of the buffer
      obtain ⟨ms, hq⟩ := List.head?_eq_some_iff.mp hfront
      obtain rfl := Option.some.inj h
      have hdata : payload.length = msg.data.length - stream.truncSeek := List.length_drop
      have hlen : buf'.length = bufLen := by
        have hlen_le := msg.len_le
        rw [List.length_append, List.length_take, hdata]
        omega
      refine ⟨rfl, Nat.le_of_eq hlen, ?_, ?_, List.suffix_rfl, fun _ => ?_, ?_⟩
      · show buf ++ stream.sendPending = buf' ++ (stream.seekPayload rem).sendPending
        rw [Stream.sendPending_seekPayload (n := rem) ht hq (by omega), List.append_assoc]
      · intro _
        refine ⟨msg, ms, hq, Or.inl ?_⟩
        show stream.truncSeek + rem < msg.len
        omega
      · show bufLen < buf'.length + 5
        omega
      · show dataFlags = if stream.lqueueOmessages = [] then _ else dataFlags
        rw [if_neg (by rw [hq]; exact List.cons_ne_nil _ _)]
  | case7 stream buf msg hfront ht hle ih =>
      -- the header fits
      obtain ⟨ms, hq⟩ := List.head?_eq_some_iff.mp hfront
      have ht' : stream.isTrunc = false := by simpa using ht
      have hinv' : stream.beginPayload.SendInv := by
        intro _
        refine ⟨msg, ms, hq, ?_⟩
        show 0 < msg.len ∨ msg.len = 0 ∧ 0 = 0
        omega
      have hlen : (buf ++ msg.cflag :: u32Bytes (htonl msg.len)).length ≤ bufLen := by
        rw [u32Bytes_htonl, List.length_append, List.length_cons, length_be32Bytes]
        omega
      have hspec := ih hinv' hlen h
      refine ⟨hspec.ret_eq, hspec.ret_le, ?_, hspec.inv, hspec.suffix, hspec.full, hspec.flags⟩
      rw [Stream.sendPending_beginPayload ht' hq, ← hspec.bytes, List.append_assoc]
  | case8 stream buf msg hfront ht hle =>
      -- no room for the header
      obtain ⟨ms, hq⟩ := List.head?_eq_some_iff.mp hfront
      obtain rfl := Option.some.inj h
      refine ⟨rfl, hbuf, rfl, hinv, List.suffix_rfl, fun _ => ?_, ?_⟩
      · show bufLen < buf.length + 5
        omega
      · show dataFlags = _
        rw [if_neg (by rw [hq]; exact List.cons_ne_nil _ _)]

/-- **No assertion fails** while the queued payloads are not empty. -/
theorem readLoop_isSome {bufLen : ℕ} {stream : Stream} {buf : Bytes} (dataFlags : ℕ)
    (hinv : stream.SendInv) (hbuf : buf.length ≤ bufLen)
    (hne : ∀ m ∈ stream.lqueueOmessages, m.len ≠ 0) :
    (readLoop bufLen stream buf dataFlags).isSome = true := by
  fun_induction readLoop bufLen stream buf dataFlags with
  | case1 | case3 | case6 | case8 => rfl
  | case2 _ _ _ _ _ hle => exact absurd hbuf hle
  | case4 stream buf msg hfront ht hle rem hrem hseek =>
      obtain ⟨ms, hq⟩ := List.head?_eq_some_iff.mp hfront
      obtain ⟨m, ms', hq', hm⟩ := hinv ht
      rw [hq] at hq'
      obtain ⟨rfl, rfl⟩ := List.cons.inj hq'
      -- only an empty message has an offset that is not inside its payload
      have hlen := hne msg (by rw [hq]; exact List.mem_cons_self)
      omega
  | case5 stream buf msg hfront ht hle rem hrem hseek left payload hfit ih =>
      obtain ⟨ms, hq⟩ := List.head?_eq_some_iff.mp hfront
      refine ih (Stream.SendInv.of_not_trunc rfl) ?_ ?_
      · rw [List.length_append, List.length_take]
        omega
      · intro m hm
        rw [Stream.endPayload, hq] at hm
        exact hne m (by rw [hq]; exact List.mem_cons_of_mem msg hm)
  | case7 stream buf msg hfront ht hle ih =>
      obtain ⟨ms, hq⟩ := List.head?_eq_some_iff.mp hfront
      refine ih ?_ ?_ hne
      · intro _
        refine ⟨msg, ms, hq, Or.inl ?_⟩
        show 0 < msg.len
        exact Nat.pos_of_ne_zero (hne msg (by rw [hq]; exact List.mem_cons_self))
      · rw [u32Bytes_htonl, List.length_append, List.length_cons, length_be32Bytes]
        omega

/-- A call on a queue of non-empty messages with room for a header returns, and does what its loop
does from an empty buffer. -/
theorem dataSourceReadCallback2_spec {bufLen : ℕ} {stream : Stream} (dataFlags : ℕ)
    (hbuf : 5 ≤ bufLen) (hinv : stream.SendInv) (hne : ∀ m ∈ stream.lqueueOmessages, m.len ≠ 0) :
    ∃ r, dataSourceReadCallback2 bufLen stream dataFlags = some r ∧
      ReadLoopSpec bufLen stream [] dataFlags r := by
  have hbuf₀ : ([] : Bytes).length ≤ bufLen := Nat.zero_le bufLen
  obtain ⟨r, hr⟩ := Option.isSome_iff_exists.mp (readLoop_isSome dataFlags hinv hbuf₀ hne)
  refine ⟨r, ?_, readLoop_spec hinv hbuf₀ hr⟩
  rw [dataSourceReadCallback2, if_neg (Nat.not_lt.mpr hbuf), hr]

namespace ReadLoopSpec

variable {bufLen : ℕ} {stream : Stream} {dataFlags : ℕ} {r : DataRead}

/-- The bytes returned are the next pending bytes. -/
theorem sendPending_eq (h : ReadLoopSpec bufLen stream [] dataFlags r) :
    stream.sendPending = r.buf.take r.ret ++ r.stream.sendPending := by
  rw [h.ret_eq, List.take_length, ← h.bytes, List.nil_append]

/-- A call makes progress on a queue that is not empty. -/
theorem ret_pos (h : ReadLoopSpec bufLen stream [] dataFlags r) (hbuf : 5 ≤ bufLen)
    (hinv : stream.SendInv) (hne : ∀ m ∈ stream.lqueueOmessages, m.len ≠ 0)
    (hq : stream.lqueueOmessages ≠ []) : 1 ≤ r.ret := by
  by_cases hq' : r.stream.lqueueOmessages = []
  · -- everything pending was written, and something was
    have hnil : r.stream.sendPending = [] :=
      (h.inv.sendPending_eq_nil (by rw [hq']; exact fun m hm => nomatch hm)).mpr hq'
    have hsome : stream.sendPending ≠ [] := fun hcon => hq ((hinv.sendPending_eq_nil hne).mp hcon)
    have hbytes := h.bytes
    rw [List.nil_append, hnil, List.append_nil] at hbytes
    rw [h.ret_eq, ← hbytes]
    exact List.length_pos_iff.mpr hsome
  · -- the call stopped for want of room
    have hfull := h.full hq'
    omega

/-- The EOF flag is set exactly when the queue has run empty. -/
theorem eof_iff (h : ReadLoopSpec bufLen stream [] 0 r) :
    r.dataFlags &&& dataFlagEof ≠ 0 ↔ r.stream.lqueueOmessages = [] := by
  rw [h.flags]
  by_cases hq : r.stream.lqueueOmessages = []
  · rw [if_pos hq]
    exact ⟨fun _ => hq, fun _ => by decide⟩
  · rw [if_neg hq]
    exact ⟨fun hcon => absurd rfl hcon, fun hcon => absurd hcon hq⟩

end ReadLoopSpec

/-! ## (4) Runs -/

/-- What happens to a stream that sends. -/
inductive SendAction where
  /-- A batch of messages is appended to the queue. -/
  | append (messages : List Message)
  /-- The read callback is called with a buffer of `bufLen` bytes. -/
  | read (bufLen : ℕ)

/-- What the callback asks of its callers: payloads that are not empty, and room for a header. -/
def SendAction.Valid : SendAction → Prop
  | .append messages => ∀ m ∈ messages, m.len ≠ 0
  | .read bufLen => 5 ≤ bufLen

/-- The messages appended in the course of a run. -/
def appended : List SendAction → List Message
  | [] => []
  | .append messages :: acts => messages ++ appended acts
  | .read _ :: acts => appended acts

/-- A stream and the bytes returned for it so far. -/
structure SendState where
  /-- The stream whose queue is sent. -/
  stream : Stream
  /-- The bytes that the calls have returned so far. -/
  sent : Bytes

/-- One step of a sending stream. nghttp2 clears `*data_flags` in front of each call. -/
def sendStep (s : SendState) : SendAction → Option SendState
  | .append messages => some { s with stream := s.stream.enqueue messages }
  | .read bufLen =>
      (dataSourceReadCallback2 bufLen s.stream 0).map fun r =>
        { stream := r.stream, sent := s.sent ++ r.buf.take r.ret }

/-- **What a sending stream keeps**: the invariant of the sender, over payloads that are not empty. -/
structure SendState.Inv (s : SendState) : Prop where
  /-- The half-written message is the front of the queue. -/
  sendInv : s.stream.SendInv
  /-- No message in the queue has an empty payload. -/
  len_ne : ∀ m ∈ s.stream.lqueueOmessages, m.len ≠ 0

/-- **A step is never stuck and loses nothing**: written and pending bytes together grow by the
messages appended, and by nothing else. -/
theorem sendStep_spec {s : SendState} {a : SendAction} (hs : s.Inv) (ha : a.Valid) :
    ∃ s', sendStep s a = some s' ∧ s'.Inv ∧
      s'.sent ++ s'.stream.sendPending
        = s.sent ++ s.stream.sendPending ++ encMessages (appended [a]) := by
  cases a with
  | append messages =>
      refine ⟨_, rfl, ⟨hs.sendInv.enqueue messages, ?_⟩, ?_⟩
      · intro m hm
        rcases List.mem_append.mp (Stream.enqueue_lqueueOmessages s.stream messages ▸ hm)
          with hold | hnew
        · exact hs.len_ne m hold
        · exact ha m hnew
      · show s.sent ++ (s.stream.enqueue messages).sendPending = _
        rw [hs.sendInv.sendPending_enqueue, appended, appended, List.append_nil,
          List.append_assoc]
  | read bufLen =>
      obtain ⟨r, hr, hspec⟩ := dataSourceReadCallback2_spec 0 ha hs.sendInv hs.len_ne
      refine ⟨_, by rw [sendStep, hr, Option.map_some], ⟨hspec.inv, ?_⟩, ?_⟩
      · intro m hm
        exact hs.len_ne m (hspec.suffix.mem hm)
      · show s.sent ++ r.buf.take r.ret ++ r.stream.sendPending = _
        rw [List.append_assoc, ← hspec.sendPending_eq, appended, appended, encMessages_nil,
          List.append_nil]

theorem appended_cons (a : SendAction) (acts : List SendAction) :
    appended (a :: acts) = appended [a] ++ appended acts := by
  cases a with
  | append messages => rw [appended, appended, appended, List.append_nil]
  | read bufLen => rw [appended, appended, appended, List.nil_append]

/-- Over a run of `sendStep` the bytes sent and pending are those there before and those
appended. -/
theorem sendRun_spec {s : SendState} {acts : List SendAction} (hs : s.Inv)
    (hacts : ∀ a ∈ acts, a.Valid) :
    ∃ s', run sendStep s acts = some s' ∧ s'.Inv ∧
      s'.sent ++ s'.stream.sendPending
        = s.sent ++ s.stream.sendPending ++ encMessages (appended acts) := by
  induction acts generalizing s with
  | nil => exact ⟨s, rfl, hs, by rw [appended, encMessages_nil, List.append_nil]⟩
  | cons a acts ih =>
      obtain ⟨s₁, hstep, hs₁, hbytes₁⟩ := sendStep_spec hs (hacts a List.mem_cons_self)
      obtain ⟨s', hrun, hs', hbytes'⟩ := ih hs₁ fun b hb => hacts b (List.mem_cons_of_mem a hb)
      refine ⟨s', by rw [run_cons, hstep, Option.bind_some, hrun], hs', ?_⟩
      rw [hbytes', hbytes₁, appended_cons a acts, encMessages_append, List.append_assoc]

/-- **The read callback transmits the queue.** From a stream with nothing queued, in any run of
appends and calls: the bytes returned so far, followed by what is pending, are the encoding of all
messages appended, in order. A further call returns at most `bufLen` bytes, at least one when a
message is queued, and sets the EOF flag exactly when every appended message is then written. -/
theorem sendRun_refines {stream : Stream} (hq : stream.lqueueOmessages = [])
    (ht : stream.isTrunc = false) {acts : List SendAction} (hacts : ∀ a ∈ acts, a.Valid) :
    ∃ s, run sendStep ⟨stream, []⟩ acts = some s ∧
      s.sent ++ s.stream.sendPending = encMessages (appended acts) ∧
      ∀ bufLen, 5 ≤ bufLen → ∃ r, dataSourceReadCallback2 bufLen s.stream 0 = some r ∧
        r.ret ≤ bufLen ∧ (s.stream.lqueueOmessages ≠ [] → 1 ≤ r.ret) ∧
        (r.dataFlags &&& dataFlagEof ≠ 0 ↔
          s.sent ++ r.buf.take r.ret = encMessages (appended acts)) := by
  have hs₀ : SendState.Inv ⟨stream, []⟩ :=
    ⟨Stream.SendInv.of_not_trunc ht, fun m hm => by rw [hq] at hm; cases hm⟩
  obtain ⟨s, hrun, hs, hbytes⟩ := sendRun_spec hs₀ hacts
  have hempty : stream.sendPending = [] := by
    rw [Stream.sendPending_of_not_trunc ht, hq, encMessages_nil]
  rw [hempty, List.append_nil, List.nil_append] at hbytes
  refine ⟨s, hrun, hbytes, fun bufLen hbuf => ?_⟩
  obtain ⟨r, hr, hspec⟩ := dataSourceReadCallback2_spec 0 hbuf hs.sendInv hs.len_ne
  refine ⟨r, hr, hspec.ret_le, hspec.ret_pos hbuf hs.sendInv hs.len_ne, ?_⟩
  -- EOF means an empty queue, which means that nothing is pending
  have hnil := hspec.inv.sendPending_eq_nil fun m hm => hs.len_ne m (hspec.suffix.mem hm)
  rw [hspec.eof_iff, ← hnil, ← hbytes, hspec.sendPending_eq, ← List.append_assoc]
  constructor
  · intro hp
    rw [hp, List.append_nil]
  · intro heq
    exact List.append_right_eq_self.mp heq.symm

/-- Two messages through buffers of five and seven bytes, on a new stream. -/
theorem sendRun_refines_streamNew :
    ∃ s, run sendStep ⟨streamNew 1, []⟩
        [.append [messageNew 0 [1, 2]], .read 5, .append [messageNew 1 [3]], .read 7] = some s ∧
      s.sent ++ s.stream.sendPending = encMessages [messageNew 0 [1, 2], messageNew 1 [3]] := by
  have hq : (streamNew 1).lqueueOmessages = [] := rfl
  have hvalid : ∀ a ∈ [SendAction.append [messageNew 0 [1, 2]], .read 5,
      .append [messageNew 1 [3]], .read 7], a.Valid := by
    intro a ha
    simp only [List.mem_cons, List.not_mem_nil, or_false] at ha
    rcases ha with rfl | rfl | rfl | rfl
    · intro m hm
      obtain rfl := List.mem_singleton.mp hm
      decide
    · show 5 ≤ 5
      omega
    · intro m hm
      obtain rfl := List.mem_singleton.mp hm
      decide
    · show 5 ≤ 7
      omega
  obtain ⟨s, hrun, hbytes, -⟩ := sendRun_refines hq rfl hvalid
  exact ⟨s, hrun, hbytes⟩

end Ezgrpc2
