import Ezgrpc2.DataSource

/-! # Where the read callback fails

nghttp2 calls `data_source_read_callback2` with whatever room the frame and the two windows leave,
and the queue may hold any message that can be made. Two things go wrong. A message without a
payload fails the assertion `msg->len > trunc_seek` when there is room behind its header, or when a
later call resumes behind it: `readLoop_isSome_iff` says when. And a buffer of less than five bytes
is answered by the positive `NGHTTP2_INTERNAL_ERROR`, which nghttp2 takes for two bytes. -/

namespace Ezgrpc2

open StepRuns

/-! ## (1) The assertions -/

/-- How much of the front message was written, its header included. -/
def Stream.frontWritten (s : Stream) : ℕ := if s.isTrunc then 5 + s.truncSeek else 0

/-- **No call reaches behind the header of an empty message**: the `room` bytes left in the buffer end
there at the latest, for every message without a payload in the queue. -/
def Stream.StopsAtEmpty (s : Stream) (room : ℕ) : Prop :=
  ∀ pre m post, s.lqueueOmessages = pre ++ m :: post → m.len = 0 →
    s.frontWritten + room ≤ (encMessages pre).length + 5

/-- The length of a message on the wire. -/
theorem length_encMessages_cons (m : Message) (ms : List Message) :
    (encMessages (m :: ms)).length = 5 + m.len + (encMessages ms).length := by
  simp

/-- A queue is split at its front or behind it. -/
theorem Stream.stopsAtEmpty_cons {s : Stream} {m : Message} {ms : List Message}
    (hq : s.lqueueOmessages = m :: ms) (room : ℕ) :
    s.StopsAtEmpty room ↔ (m.len = 0 → s.frontWritten + room ≤ 5) ∧
      ∀ pre m' post, ms = pre ++ m' :: post → m'.len = 0 →
        s.frontWritten + room ≤ 5 + m.len + (encMessages pre).length + 5 := by
  constructor
  · intro h
    refine ⟨fun hm => ?_, fun pre m' post hms hm' => ?_⟩
    · simpa using h [] m ms hq hm
    · have hpre := h (m :: pre) m' post (by rw [hq, hms]; rfl) hm'
      rwa [length_encMessages_cons] at hpre
  · rintro ⟨hfront, hrest⟩ pre m' post hsplit hm'
    rw [hq] at hsplit
    cases pre with
    | nil =>
        obtain ⟨rfl, rfl⟩ := List.cons.inj hsplit
        simpa using hfront hm'
    | cons n pre =>
        obtain ⟨rfl, hms⟩ := List.cons.inj hsplit
        rw [length_encMessages_cons]
        exact hrest pre m' post hms hm'

/-- **When the loop returns**: exactly when the room left ends at the header of every empty message.
The induction is on the rounds; each of them shifts the room and what was written by the same
number of bytes. -/
theorem readLoop_isSome_iff {bufLen : ℕ} {stream : Stream} {buf : Bytes} (dataFlags : ℕ)
    (hinv : stream.SendInv) (hbuf : buf.length ≤ bufLen) :
    (readLoop bufLen stream buf dataFlags).isSome = true ↔
      stream.StopsAtEmpty (bufLen - buf.length) := by
  fun_induction readLoop bufLen stream buf dataFlags with
  | case1 stream buf hfront =>
      have hq : stream.lqueueOmessages = [] := List.head?_eq_none_iff.mp hfront
      refine iff_of_true rfl fun pre m post hsplit => ?_
      simp [hq] at hsplit
  | case2 _ _ _ _ _ hle => exact absurd hbuf hle
  | case3 stream buf msg hfront ht hle rem hrem =>
      -- the buffer is full
      obtain ⟨ms, hq⟩ := List.head?_eq_some_iff.mp hfront
      obtain ⟨m, ms', hq', hm⟩ := hinv ht
      obtain ⟨rfl, rfl⟩ := List.cons.inj (hq.symm.trans hq')
      refine iff_of_true rfl ((Stream.stopsAtEmpty_cons hq _).mpr ?_)
      rw [Stream.frontWritten, if_pos ht]
      refine ⟨fun hzero => ?_, fun pre m' post _ _ => ?_⟩ <;> omega
  | case4 stream buf msg hfront ht hle rem hrem hseek =>
      -- the assertion fails: the front message is empty, and there is room behind its header
      obtain ⟨ms, hq⟩ := List.head?_eq_some_iff.mp hfront
      obtain ⟨m, ms', hq', hm⟩ := hinv ht
      obtain ⟨rfl, rfl⟩ := List.cons.inj (hq.symm.trans hq')
      refine iff_of_false Bool.false_ne_true fun hstop => ?_
      have hempty := ((Stream.stopsAtEmpty_cons hq _).mp hstop).1 (by omega)
      rw [Stream.frontWritten, if_pos ht] at hempty
      omega
  | case5 stream buf msg hfront ht hle rem hrem hseek left payload hfit ih =>
      -- the payload fits
      obtain ⟨ms, hq⟩ := List.head?_eq_some_iff.mp hfront
      have hlen_le := msg.len_le
      have hleft : (buf ++ payload.take left).length = buf.length + left := by
        rw [List.length_append, List.length_take, List.length_drop]
        omega
      have hq' : stream.endPayload.lqueueOmessages = ms := by
        rw [Stream.endPayload, hq]
        rfl
      rw [ih (Stream.SendInv.of_not_trunc rfl) (by omega), hleft, Stream.stopsAtEmpty_cons hq,
        Stream.StopsAtEmpty, hq']
      rw [show stream.endPayload.frontWritten = 0 from rfl,
        show stream.frontWritten = 5 + stream.truncSeek from if_pos ht]
      constructor
      · refine fun h => ⟨fun hzero => by omega, fun pre m' post hsplit hm' => ?_⟩
        have hpre := h pre m' post hsplit hm'
        omega
      · rintro ⟨-, h⟩ pre m' post hsplit hm'
        have hpre := h pre m' post hsplit hm'
        omega
  | case6 stream buf msg hfront ht hle rem hrem hseek left payload hfit buf' =>
      -- the payload is cut at the end of the buffer
      obtain ⟨ms, hq⟩ := List.head?_eq_some_iff.mp hfront
      refine iff_of_true rfl ((Stream.stopsAtEmpty_cons hq _).mpr ?_)
      rw [Stream.frontWritten, if_pos ht]
      refine ⟨fun hzero => ?_, fun pre m' post _ _ => ?_⟩ <;> omega
  | case7 stream buf msg hfront ht hle ih =>
      -- the header fits
      obtain ⟨ms, hq⟩ := List.head?_eq_some_iff.mp hfront
      have hinv' : stream.beginPayload.SendInv := fun _ => ⟨msg, ms, hq, by
        show 0 < msg.len ∨ msg.len = 0 ∧ 0 = 0
        omega⟩
      have hlen : (buf ++ msg.cflag :: u32Bytes (htonl msg.len)).length = buf.length + 5 := by
        rw [u32Bytes_htonl, List.length_append, List.length_cons, length_be32Bytes]
      have ht' : stream.frontWritten = 0 := if_neg ht
      have hshift : ∀ n, 5 + (bufLen - (buf.length + 5)) ≤ n ↔ bufLen - buf.length ≤ n := by omega
      rw [ih hinv' (by omega), hlen]
      simp only [Stream.StopsAtEmpty, ht', Nat.zero_add,
        show stream.beginPayload.frontWritten = 5 from rfl, hshift]
      exact Iff.rfl
  | case8 stream buf msg hfront ht hle =>
      -- no room for the header
      obtain ⟨ms, hq⟩ := List.head?_eq_some_iff.mp hfront
      refine iff_of_true rfl fun pre m post _ _ => ?_
      rw [Stream.frontWritten, if_neg ht]
      omega

/-- A call returns exactly when its buffer ends at the header of every empty message, or is too small
for any header. -/
theorem dataSourceReadCallback2_isSome_iff {bufLen : ℕ} {stream : Stream} (dataFlags : ℕ)
    (hinv : stream.SendInv) :
    (dataSourceReadCallback2 bufLen stream dataFlags).isSome = true ↔
      (5 ≤ bufLen → stream.StopsAtEmpty bufLen) := by
  rw [dataSourceReadCallback2]
  by_cases hbuf : bufLen < 5
  · rw [if_pos hbuf]
    exact iff_of_true rfl fun h => absurd hbuf (Nat.not_lt.mpr h)
  · rw [if_neg hbuf, readLoop_isSome_iff dataFlags hinv (Nat.zero_le bufLen), List.length_nil,
      Nat.sub_zero]
    exact ⟨fun h _ => h, fun h => h (Nat.not_lt.mp hbuf)⟩

/-- Every call keeps the invariant of the sender, whatever its buffer and the queue. -/
theorem sendStep_sendInv {s s' : SendState} {a : SendAction} (hs : s.stream.SendInv)
    (hstep : sendStep s a = some s') : s'.stream.SendInv := by
  cases a with
  | append messages =>
      obtain rfl := Option.some.inj hstep
      exact hs.enqueue messages
  | read bufLen =>
      obtain ⟨r, hr, rfl⟩ := Option.map_eq_some_iff.mp hstep
      rw [dataSourceReadCallback2] at hr
      split at hr
      · obtain rfl := Option.some.inj hr
        exact hs
      · exact (readLoop_spec hs (Nat.zero_le bufLen) hr).inv

/-- What a call must find: a buffer that ends at the header of every empty message. -/
def SendAction.StopsAtEmpty (s : SendState) : SendAction → Prop
  | .append _ => True
  | .read bufLen => 5 ≤ bufLen → s.stream.StopsAtEmpty bufLen

/-- **When no assertion fails**: in every run of appends of any messages and calls with any buffers,
the assertions hold each time they are evaluated exactly when every call finds such a buffer. -/
theorem sendRun_asserts_iff (streamId : ℤ) (acts : List SendAction) :
    Along sendStep (fun s a => (sendStep s a).isSome = true) ⟨streamNew streamId, []⟩ acts ↔
      Along sendStep SendAction.StopsAtEmpty ⟨streamNew streamId, []⟩ acts := by
  apply along_iff (I := fun s => s.stream.SendInv)
  · exact fun s a s' hs _ hstep => sendStep_sendInv hs hstep
  · intro s a hs
    cases a with
    | append messages => exact iff_of_true rfl trivial
    | read bufLen =>
        rw [sendStep, Option.isSome_map]
        exact dataSourceReadCallback2_isSome_iff 0 hs
  · exact Stream.SendInv.of_not_trunc rfl

/-- **An empty message aborts the program** when there is room for one more byte behind its header. -/
theorem not_sendRun_asserts :
    ¬∀ (streamId : ℤ) (acts : List SendAction), (∀ bufLen, .read bufLen ∈ acts → 5 ≤ bufLen) →
      Along sendStep (fun s a => (sendStep s a).isSome = true) ⟨streamNew streamId, []⟩ acts := by
  intro hall
  have hacts := hall 1 [.append [messageNew 0 []], .read 6] (by simp)
  have hread : (sendStep ⟨(streamNew 1).enqueue [messageNew 0 []], []⟩ (.read 6)).isSome = true :=
    (hacts.2 _ rfl).1
  rw [sendStep, Option.isSome_map] at hread
  have hstop := (dataSourceReadCallback2_isSome_iff 0 (Stream.SendInv.of_not_trunc rfl)).mp hread
    (by omega) [] (messageNew 0 []) [] rfl rfl
  exact absurd hstop (by decide)

/-! ## (2) The value returned -/

/-- **What nghttp2 makes of a call**: it returned an error, a number below 0, or a number of bytes that
were written to the buffer and are the next ones of the stream. -/
def DataRead.Ok (bufLen : ℕ) (stream : Stream) (r : DataRead) : Prop :=
  (r.ret : ℤ) < 0 ∨ r.ret ≤ bufLen ∧ r.buf.length = r.ret ∧ r.buf = stream.sendPending.take r.ret

/-- A call with a buffer that is too small is not answered by an error. -/
theorem not_ok_of_lt {bufLen : ℕ} {stream : Stream} {dataFlags : ℕ} {r : DataRead}
    (hbuf : bufLen < 5) (hr : dataSourceReadCallback2 bufLen stream dataFlags = some r) :
    ¬r.Ok bufLen stream := by
  rw [dataSourceReadCallback2, if_pos hbuf, Option.some.injEq] at hr
  subst hr
  rintro (hneg | ⟨-, hlen, -⟩)
  · exact absurd hneg (Int.not_lt.mpr (Int.natCast_nonneg _))
  · cases hlen

/-- A call that does what its loop does is answered by the bytes written. -/
theorem ReadLoopSpec.ok {bufLen : ℕ} {stream : Stream} {dataFlags : ℕ} {r : DataRead}
    (h : ReadLoopSpec bufLen stream [] dataFlags r) : r.Ok bufLen stream := by
  refine Or.inr ⟨h.ret_le, h.ret_eq.symm, ?_⟩
  have hbytes := h.bytes
  rw [List.nil_append] at hbytes
  rw [hbytes, h.ret_eq, List.take_left]

/-- The invariant of a stream whose payloads are not empty, with buffers of any size. -/
theorem SendState.Inv.step {s s' : SendState} {a : SendAction} (hs : s.Inv)
    (ha : ∀ messages, a = .append messages → ∀ m ∈ messages, m.len ≠ 0)
    (hstep : sendStep s a = some s') : s'.Inv := by
  refine ⟨sendStep_sendInv hs.sendInv hstep, ?_⟩
  cases a with
  | append messages =>
      obtain rfl := Option.some.inj hstep
      simp only [Stream.enqueue_lqueueOmessages, List.mem_append]
      rintro m (hm | hm)
      · exact hs.len_ne m hm
      · exact ha messages rfl m hm
  | read bufLen =>
      obtain ⟨r, hr, rfl⟩ := Option.map_eq_some_iff.mp hstep
      rw [dataSourceReadCallback2] at hr
      split at hr
      · obtain rfl := Option.some.inj hr
        exact hs.len_ne
      · have hspec := readLoop_spec hs.sendInv (Nat.zero_le bufLen) hr
        exact fun m hm => hs.len_ne m (hspec.suffix.mem hm)

/-- What a sending stream keeps holds after any run, with buffers of any size. -/
theorem sendRun_inv {s s' : SendState} {acts : List SendAction} (hs : s.Inv)
    (hacts : ∀ messages, .append messages ∈ acts → ∀ m ∈ messages, m.len ≠ 0)
    (hrun : run sendStep s acts = some s') : s'.Inv := by
  induction acts generalizing s with
  | nil =>
      obtain rfl := Option.some.inj hrun
      exact hs
  | cons a acts ih =>
      obtain ⟨s₁, hs₁, hrest⟩ := run_cons_eq_some.mp hrun
      have ha : ∀ messages, a = .append messages → ∀ m ∈ messages, m.len ≠ 0 := by
        rintro messages rfl
        exact hacts messages List.mem_cons_self
      exact ih (hs.step ha hs₁) (fun messages hm => hacts messages (List.mem_cons_of_mem a hm)) hrest

/-- **When the value returned means what it says**: in every state that appends of messages with a
payload and calls with any buffers lead to, exactly for buffers with room for a header. -/
theorem sendRun_ok_iff (streamId : ℤ) {acts : List SendAction}
    (hacts : ∀ messages, .append messages ∈ acts → ∀ m ∈ messages, m.len ≠ 0) {s : SendState}
    (hrun : run sendStep ⟨streamNew streamId, []⟩ acts = some s) (bufLen dataFlags : ℕ) :
    (∃ r, dataSourceReadCallback2 bufLen s.stream dataFlags = some r ∧ r.Ok bufLen s.stream) ↔
      5 ≤ bufLen := by
  have hs : s.Inv := by
    refine sendRun_inv ⟨Stream.SendInv.of_not_trunc rfl, fun m hm => ?_⟩ hacts hrun
    cases hm
  constructor
  · rintro ⟨r, hr, hok⟩
    by_contra hbuf
    exact not_ok_of_lt (Nat.lt_of_not_le hbuf) hr hok
  · intro hbuf
    obtain ⟨r, hr, hspec⟩ := dataSourceReadCallback2_spec dataFlags hbuf hs.sendInv hs.len_ne
    exact ⟨r, hr, hspec.ok⟩

/-- A message of one byte, and a call with room for it. -/
theorem sendRun_ok_iff_one_message :
    let acts : List SendAction := [.append [messageNew 0 [7]]]
    ∃ s, run sendStep ⟨streamNew 1, []⟩ acts = some s ∧
      ((∃ r, dataSourceReadCallback2 7 s.stream 0 = some r ∧ r.Ok 7 s.stream) ↔ 5 ≤ 7) := by
  intro acts
  have hacts : ∀ messages, .append messages ∈ acts → ∀ m ∈ messages, m.len ≠ 0 := by
    simp [acts, messageNew]
  exact ⟨_, rfl, sendRun_ok_iff 1 hacts rfl 7 0⟩

/-- **Three bytes of room are answered by the number 2**: nothing is written, and nghttp2 sends two bytes
that are none of the stream's. -/
theorem not_sendRun_ok :
    ¬∀ (streamId : ℤ) (acts : List SendAction),
      (∀ messages, .append messages ∈ acts → ∀ m ∈ messages, m.len ≠ 0) →
      ∀ s, run sendStep ⟨streamNew streamId, []⟩ acts = some s → ∀ bufLen dataFlags, 1 ≤ bufLen →
      ∃ r, dataSourceReadCallback2 bufLen s.stream dataFlags = some r ∧ r.Ok bufLen s.stream := by
  intro hall
  have hacts : ∀ messages, SendAction.append messages ∈ [SendAction.append [messageNew 0 [7]]] →
      ∀ m ∈ messages, m.len ≠ 0 := by
    simp [messageNew]
  obtain ⟨r, hr, hok⟩ := hall 1 [.append [messageNew 0 [7]]] hacts _ rfl 3 0 (by omega)
  exact not_ok_of_lt (by omega) hr hok

end Ezgrpc2
