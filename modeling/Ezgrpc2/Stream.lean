import Ezgrpc2.EzList
import Ezgrpc2.Message
import Mathlib.Data.Int.Notation

/-! # Streams

`Stream` is `struct ezgrpc2_stream`: what the server remembers of one HTTP/2 stream while it
receives the request and queues the response. `sendPending` reads the three sending fields as the
bytes they still stand for, and `SendInv` is what every step of the sender keeps true of them. -/

namespace Ezgrpc2

open FlatMemory Framing

/-- `struct ezgrpc2_stream`: what the callbacks know of a stream. -/
structure Stream where
  /-- The HTTP/2 stream id, an `i32`. -/
  streamId : ℤ
  /-- The first `nb_headers` entries of the header array: names and values. -/
  headers : List (Bytes × Bytes)
  /-- Whether the last `:method` was `POST`. -/
  isMethodPost : Bool
  /-- Whether the last `:scheme` was `http`. -/
  isSchemeHttp : Bool
  /-- Whether the last `te` was `trailers`. -/
  isTeTrailers : Bool
  /-- The last `content-type` begins with `application/grpc`. -/
  isContentGrpc : Bool
  /-- The `content-type` header, when there was one. -/
  hcontentType : Option Bytes
  /-- The value of the `grpc-encoding` header, if it was sent. -/
  hgrpcEncoding : Option Bytes
  /-- The value of the `grpc-accept-encoding` header, if it was sent. -/
  hgrpcAcceptEncoding : Option Bytes
  /-- The value of the `grpc-timeout` header, if it was sent. -/
  hgrpcTimeout : Option Bytes
  /-- The slot of the server's path table `:path` resolved to; a pointer into that table. -/
  path : Option ℕ
  /-- The number of received bytes that are not parsed yet. -/
  recvLen : ℕ
  /-- The receive buffer, with the bytes of the body that were not parsed. -/
  recvData : ℕ → UInt8
  /-- The header of the front message has been written, its payload not completely. -/
  isTrunc : Bool
  /-- How much of the payload of the front message has been written. -/
  truncSeek : ℕ
  /-- The messages that are queued to be sent. -/
  lqueueOmessages : List Message

/-- `stream_new`: a zeroed stream with its id. Its `recv_data` is `NULL` and unread until a buffer is
allocated. -/
def streamNew (streamId : ℤ) : Stream where
  streamId := streamId
  headers := []
  isMethodPost := false
  isSchemeHttp := false
  isTeTrailers := false
  isContentGrpc := false
  hcontentType := none
  hgrpcEncoding := none
  hgrpcAcceptEncoding := none
  hgrpcTimeout := none
  path := none
  recvLen := 0
  recvData := fun _ => 0
  isTrunc := false
  truncSeek := 0
  lqueueOmessages := []

/-- The number of headers received so far. -/
def Stream.nbHeaders (s : Stream) : ℕ := s.headers.length

/-- The bytes received and not parsed yet. -/
def Stream.recvBytes (s : Stream) : Bytes := slice s.recvData 0 s.recvLen

/-! ## (1) What is still to be sent -/

/-- **The bytes a stream still has to send**: the rest of the front message from `trunc_seek` when
its header is out, then the messages behind it in full. -/
def Stream.sendPending (s : Stream) : Bytes :=
  match s.isTrunc, s.lqueueOmessages with
  | true, m :: ms => m.frame.payload.drop s.truncSeek ++ encMessages ms
  | _, ms => encMessages ms

theorem Stream.sendPending_of_not_trunc {s : Stream} (h : s.isTrunc = false) :
    s.sendPending = encMessages s.lqueueOmessages := by
  rw [Stream.sendPending, h]

theorem Stream.sendPending_of_trunc {s : Stream} {m : Message} {ms : List Message}
    (h : s.isTrunc = true) (hq : s.lqueueOmessages = m :: ms) :
    s.sendPending = m.frame.payload.drop s.truncSeek ++ encMessages ms := by
  rw [Stream.sendPending, h, hq]

/-- **The sender's invariant**: a half-written message is the front of the queue, and `trunc_seek`
points into its payload (at its end only if the payload is empty). -/
def Stream.SendInv (s : Stream) : Prop :=
  s.isTrunc = true → ∃ m ms, s.lqueueOmessages = m :: ms ∧
    (s.truncSeek < m.len ∨ m.len = 0 ∧ s.truncSeek = 0)

theorem Stream.SendInv.of_not_trunc {s : Stream} (h : s.isTrunc = false) : s.SendInv := by
  intro ht
  rw [h] at ht
  cases ht

/-- Under the invariant nothing is pending exactly when the queue is empty, provided no payload
is: a half-written message has payload bytes left. -/
theorem Stream.SendInv.sendPending_eq_nil {s : Stream} (h : s.SendInv)
    (hne : ∀ m ∈ s.lqueueOmessages, m.len ≠ 0) :
    s.sendPending = [] ↔ s.lqueueOmessages = [] := by
  rcases hq : s.lqueueOmessages with _ | ⟨m, ms⟩
  · have ht : s.isTrunc = false := by
      by_contra hcon
      obtain ⟨m, ms, hq', -⟩ := h (by simpa using hcon)
      rw [hq] at hq'
      cases hq'
    rw [Stream.sendPending_of_not_trunc ht, hq]
    simp
  · constructor
    · intro hnil
      by_cases ht : s.isTrunc = true
      · -- the rest of the front payload is not empty
        obtain ⟨m', ms', hq', hseek⟩ := h ht
        rw [hq] at hq'
        obtain ⟨rfl, rfl⟩ := List.cons.inj hq'
        rw [Stream.sendPending_of_trunc ht hq, List.append_eq_nil_iff, List.drop_eq_nil_iff,
          Message.length_frame_payload] at hnil
        have hlen := hne m (by rw [hq]; exact List.mem_cons_self)
        omega
      · rw [Stream.sendPending_of_not_trunc (by simpa using ht), hq, encMessages_cons] at hnil
        cases hnil
    · intro hcons
      cases hcons

/-- The stream with messages queued behind the ones it has, as `stream_send` leaves it. -/
def Stream.enqueue (s : Stream) (ms : List Message) : Stream :=
  { s with lqueueOmessages := (listConcatAndEmptySrc s.lqueueOmessages ms).1 }

@[simp] theorem Stream.enqueue_lqueueOmessages (s : Stream) (ms : List Message) :
    (s.enqueue ms).lqueueOmessages = s.lqueueOmessages ++ ms := by
  rw [Stream.enqueue, listConcatAndEmptySrc_eq]

@[simp] theorem Stream.enqueue_isTrunc (s : Stream) (ms : List Message) :
    (s.enqueue ms).isTrunc = s.isTrunc := rfl

@[simp] theorem Stream.enqueue_truncSeek (s : Stream) (ms : List Message) :
    (s.enqueue ms).truncSeek = s.truncSeek := rfl

/-- Queueing messages appends their bytes to what is pending. -/
theorem Stream.SendInv.sendPending_enqueue {s : Stream} (h : s.SendInv) (ms : List Message) :
    (s.enqueue ms).sendPending = s.sendPending ++ encMessages ms := by
  by_cases ht : s.isTrunc = true
  · -- a message is half written: it stays in front
    obtain ⟨m, ns, hq, -⟩ := h ht
    have hq' : (s.enqueue ms).lqueueOmessages = m :: (ns ++ ms) := by
      rw [Stream.enqueue_lqueueOmessages, hq, List.cons_append]
    rw [Stream.sendPending_of_trunc ht hq,
      Stream.sendPending_of_trunc (s := s.enqueue ms) ht hq',
      Stream.enqueue_truncSeek, encMessages_append, List.append_assoc]
  · have ht' : s.isTrunc = false := by simpa using ht
    rw [Stream.sendPending_of_not_trunc ht',
      Stream.sendPending_of_not_trunc (s := s.enqueue ms) ht', Stream.enqueue_lqueueOmessages, encMessages_append]

/-- Queueing messages keeps what the read callback relies on. -/
theorem Stream.SendInv.enqueue {s : Stream} (h : s.SendInv) (ms : List Message) :
    (s.enqueue ms).SendInv := by
  intro ht
  obtain ⟨m, ns, hq, hseek⟩ := h ht
  refine ⟨m, ns ++ ms, ?_, hseek⟩
  rw [Stream.enqueue_lqueueOmessages, hq, List.cons_append]

end Ezgrpc2
