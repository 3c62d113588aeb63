import Ezgrpc2.Events
import Ezgrpc2.Path
import Ezgrpc2.Stream

/-! # Sessions

`Session` is `struct ezgrpc2_session`: the nghttp2 session, the list `lstreams` of its streams and
the stream objects the two point to. A pointer to a stream is the address of an object in
`Session.objs`; following one that is not there is an invalid memory access. Of nghttp2 the
code uses the user data of the open streams, the submission of frames and the data sources of the
responses under way, which `Ngsession` records; a submission succeeds. -/

namespace Ezgrpc2

open CStrings

/-- The bytes of a string literal. -/
def bytesOf (s : String) : Bytes := s.toList.map fun c => UInt8.ofNat c.toNat

/-! ## (1) nghttp2 -/

/-- A frame that the server submits to nghttp2. -/
inductive Submission where
  /-- A call of `nghttp2_submit_headers` with its fields. -/
  | headers (streamId : ℤ) (endStream : Bool) (nva : List (Bytes × Bytes))
  /-- A call of `nghttp2_submit_trailer` with its fields. -/
  | trailer (streamId : ℤ) (nva : List (Bytes × Bytes))
  /-- A call of `nghttp2_submit_rst_stream` with its error code. -/
  | rstStream (streamId : ℤ) (errorCode : ℕ)
deriving DecidableEq

/-- What the callbacks and calls see of `nghttp2_session`. -/
structure Ngsession where
  /-- The open streams, each with its user data: the address of an object, or the null pointer. -/
  streams : ℤ → Option (Option ℕ)
  /-- The frames that were submitted so far, in order. -/
  submitted : List Submission
  /-- The data source of a stream with DATA under way: `source.ptr` of its provider. -/
  providers : ℤ → Option ℕ

namespace Ngsession

/-- `nghttp2_session_get_stream_user_data`: null too when the stream is not open. -/
def getStreamUserData (ng : Ngsession) (streamId : ℤ) : Option ℕ := (ng.streams streamId).join

/-- `nghttp2_session_set_stream_user_data`: without effect when the stream is not open. -/
def setStreamUserData (ng : Ngsession) (streamId : ℤ) (ptr : ℕ) : Ngsession :=
  if (ng.streams streamId).isSome then
    { ng with streams := fun id => if id = streamId then some (some ptr) else ng.streams id }
  else ng

/-- nghttp2 opens a stream; it has no user data yet. -/
def openStream (ng : Ngsession) (streamId : ℤ) : Ngsession :=
  { ng with streams := fun id => if id = streamId then some none else ng.streams id }

/-- nghttp2 drops the data source of a stream. -/
def detach (ng : Ngsession) (streamId : ℤ) : Ngsession :=
  { ng with providers := fun id => if id = streamId then none else ng.providers id }

/-- nghttp2 closes a stream, and with it drops its data source. -/
def closeStream (ng : Ngsession) (streamId : ℤ) : Ngsession :=
  { ng.detach streamId with
    streams := fun id => if id = streamId then none else ng.streams id }

/-- `nghttp2_submit_data2`: without effect when the stream is not open or has a data source. -/
def submitData (ng : Ngsession) (streamId : ℤ) (ptr : ℕ) : Ngsession :=
  if (ng.streams streamId).isSome ∧ ng.providers streamId = none then
    { ng with providers := fun id => if id = streamId then some ptr else ng.providers id }
  else ng

end Ngsession

/-! ## (2) The session -/

/-- `struct ezgrpc2_session`, with the memory of its streams. -/
structure Session where
  /-- The session of nghttp2, as far as the callbacks use it. -/
  ngsession : Ngsession
  /-- The handle by which the application knows the session. -/
  sessionUuid : SessionUuid
  /-- The socket on which the client is connected. -/
  sockfd : ℤ
  /-- The addresses of the streams, as `ezgrpc2_list`. -/
  lstreams : List ℕ
  /-- The stream objects in memory, by address. -/
  objs : ℕ → Option Stream

/-- A session as `session_create` leaves it: no streams. -/
def sessionNew (sessionUuid : SessionUuid) (sockfd : ℤ) : Session where
  ngsession := ⟨fun _ => none, [], fun _ => none⟩
  sessionUuid := sessionUuid
  sockfd := sockfd
  lstreams := []
  objs := fun _ => none

namespace Session

/-- Store a stream object at an address, or free it. -/
def setObj (ez : Session) (ptr : ℕ) (obj : Option Stream) : Session :=
  { ez with objs := fun p => if p = ptr then obj else ez.objs p }

/-- Submits a frame to nghttp2, which keeps it for later. -/
def submit (ez : Session) (s : Submission) : Session :=
  { ez with ngsession := { ez.ngsession with submitted := ez.ngsession.submitted ++ [s] } }

/-- The user data of a stream, which is the address of its object. -/
def userData (ez : Session) (streamId : ℤ) : Option ℕ := ez.ngsession.getStreamUserData streamId

@[simp] theorem setObj_ngsession (ez : Session) (ptr : ℕ) (obj : Option Stream) :
    (ez.setObj ptr obj).ngsession = ez.ngsession := rfl

@[simp] theorem setObj_sessionUuid (ez : Session) (ptr : ℕ) (obj : Option Stream) :
    (ez.setObj ptr obj).sessionUuid = ez.sessionUuid := rfl

@[simp] theorem setObj_lstreams (ez : Session) (ptr : ℕ) (obj : Option Stream) :
    (ez.setObj ptr obj).lstreams = ez.lstreams := rfl

@[simp] theorem setObj_userData (ez : Session) (ptr : ℕ) (obj : Option Stream) (streamId : ℤ) :
    (ez.setObj ptr obj).userData streamId = ez.userData streamId := rfl

theorem setObj_objs (ez : Session) (ptr : ℕ) (obj : Option Stream) (p : ℕ) :
    (ez.setObj ptr obj).objs p = if p = ptr then obj else ez.objs p := rfl

@[simp] theorem setObj_objs_self (ez : Session) (ptr : ℕ) (obj : Option Stream) :
    (ez.setObj ptr obj).objs ptr = obj := if_pos rfl

theorem setObj_objs_of_ne {ez : Session} {ptr p : ℕ} (obj : Option Stream) (h : p ≠ ptr) :
    (ez.setObj ptr obj).objs p = ez.objs p := if_neg h

/-- Storing the object that is there changes nothing. -/
theorem setObj_self {ez : Session} {ptr : ℕ} {s : Stream} (h : ez.objs ptr = some s) :
    ez.setObj ptr (some s) = ez := by
  have hobjs : (ez.setObj ptr (some s)).objs = ez.objs := by
    funext p
    rw [setObj_objs]
    by_cases hp : p = ptr
    · rw [if_pos hp, hp, h]
    · rw [if_neg hp]
  cases ez
  simp only [setObj] at hobjs ⊢
  rw [hobjs]

@[simp] theorem submit_sessionUuid (ez : Session) (s : Submission) :
    (ez.submit s).sessionUuid = ez.sessionUuid := rfl

@[simp] theorem submit_lstreams (ez : Session) (s : Submission) :
    (ez.submit s).lstreams = ez.lstreams := rfl

@[simp] theorem submit_objs (ez : Session) (s : Submission) : (ez.submit s).objs = ez.objs := rfl

@[simp] theorem submit_streams (ez : Session) (s : Submission) :
    (ez.submit s).ngsession.streams = ez.ngsession.streams := rfl

@[simp] theorem submit_userData (ez : Session) (s : Submission) (streamId : ℤ) :
    (ez.submit s).userData streamId = ez.userData streamId := rfl

end Session

/-! ## (3) The server, as callbacks see it -/

/-- The fields of `struct ezgrpc2_server` that a callback reaches through `ezsession->server`. -/
structure ServerShared where
  /-- `http2_settings.initial_window_size`, the limit of the receive buffers. -/
  initialWindowSize : ℕ
  /-- The table of the registered paths. -/
  table : PathTable
  /-- The event queue of the current poll. -/
  events : Events

end Ezgrpc2
