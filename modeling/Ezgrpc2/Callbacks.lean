import Ezgrpc2.Parse
import Ezgrpc2.Session

/-! # The nghttp2 callbacks

The callbacks of `internal_nghttp2_callbacks.c` that a client reaches by what it sends: HEADERS, the
header fields, DATA and the end of a stream. A callback takes the server as the session sees it and
the session, and returns the value it returns with the event queue and the session it leaves.
`none` is a failed assertion or an invalid memory access: either aborts the server. Logging is left
out. -/

namespace Ezgrpc2

open CStrings FlatMemory

/-- What a callback leaves behind, with the value it returns. -/
structure CallbackResult where
  /-- The value that nghttp2 is given back. -/
  ret : ℕ
  /-- The event queue behind the callback. -/
  events : Events
  /-- The session behind the callback. -/
  session : Session

/-! ## (1) HEADERS -/

/-- `CONFIG_STREAM_MAX_HEADERS`, as the build configures it. -/
def configStreamMaxHeaders : ℕ := 32

/-- `on_begin_headers_callback`. `ptr` is the address `calloc` returns for the stream, `mem` what the
buffer allocated for `recv_data` happens to hold. -/
def onBeginHeadersCallback (server : ServerShared) (ezsession : Session) (streamId : ℤ) (ptr : ℕ)
    (mem : ℕ → UInt8) : CallbackResult :=
  let ezstream := { streamNew streamId with recvLen := 0, recvData := mem }
  let ezsession := ezsession.setObj ptr (some ezstream)
  { ret := 0
    events := server.events
    session :=
      { ezsession with
        lstreams := listPushBack ezsession.lstreams ptr
        ngsession := ezsession.ngsession.setStreamUserData streamId ptr } }

/-- The stream with one more header, in front of the dispatch on its name. -/
def Stream.pushHeader (s : Stream) (name value : Bytes) : Stream :=
  { s with headers := s.headers ++ [(name, value)] }

/-- The dispatch of `on_header_callback` on the name of the header. -/
def Stream.applyHeader (s : Stream) (table : PathTable) (name value : Bytes) : Stream :=
  if !ezstrcmp (bytesOf ":method") name then
    { s with isMethodPost := !ezstrcmp (bytesOf "POST") value }
  else if !ezstrcmp (bytesOf ":scheme") name then
    { s with isSchemeHttp := !ezstrcmp (bytesOf "http") value }
  else if !ezstrcmp (bytesOf ":path") name then
    match findPath table value with
    | some i => { s with path := some i }
    | none => s
  else if !ezstrcmp (bytesOf "content-type") name then
    { s with
      hcontentType := some (text value)
      isContentGrpc := value.length ≥ 16 && value.take 16 == bytesOf "application/grpc" }
  else if !ezstrcmp (bytesOf "grpc-encoding") name then
    { s with hgrpcEncoding := some (text value) }
  else if !ezstrcmp (bytesOf "grpc-accept-encoding") name then
    { s with hgrpcAcceptEncoding := some (text value) }
  else if !ezstrcmp (bytesOf "grpc-timeout") name then
    { s with hgrpcTimeout := some (text value) }
  else if !ezstrcmp (bytesOf "te") name then
    { s with isTeTrailers := !ezstrcmp (bytesOf "trailers") value }
  else s

/-- The type of a frame, as far as the callbacks tell types apart. -/
inductive FrameType where
  /-- DATA, a part of the body of a request. -/
  | data
  /-- HEADERS, which begins a request or carries trailers. -/
  | headers
  /-- SETTINGS, which a client sends first. -/
  | settings
  /-- WINDOW_UPDATE, which the callbacks ignore. -/
  | windowUpdate
  /-- Any other type, RST_STREAM among them; the callbacks ignore it. -/
  | other
deriving DecidableEq

/-- `nghttp2_frame_hd`: the header of a frame. -/
structure FrameHd where
  /-- The stream that the frame belongs to. -/
  streamId : ℤ
  /-- The type of the frame. -/
  type : FrameType
  /-- The flags of the frame, as the client set them. -/
  flags : UInt8
  /-- The length of the payload of the frame. -/
  length : ℕ
deriving DecidableEq

/-- END_STREAM is set: `hd.flags & NGHTTP2_FLAG_END_STREAM`. -/
def FrameHd.endStream (hd : FrameHd) : Bool := hd.flags &&& 0x01 != 0

/-- END_HEADERS is set: `hd.flags & NGHTTP2_FLAG_END_HEADERS`. -/
def FrameHd.endHeaders (hd : FrameHd) : Bool := hd.flags &&& 0x04 != 0

/-- `hd.flags & NGHTTP2_FLAG_ACK`, the same bit as END_STREAM. -/
def FrameHd.ack (hd : FrameHd) : Bool := hd.flags &&& 0x01 != 0

/-- `on_header_callback`. A zero byte follows the `namelen` bytes of `name` and the `valuelen` bytes
of `value`. -/
def onHeaderCallback (server : ServerShared) (ezsession : Session) (frame : FrameHd)
    (name value : Bytes) : Option CallbackResult :=
  if frame.type ≠ .headers then some ⟨0, server.events, ezsession⟩
  else do
    let ptr ← ezsession.userData frame.streamId
    let ezstream ← ezsession.objs ptr
    if ezstream.nbHeaders + 1 > configStreamMaxHeaders then
      some ⟨1, server.events, ezsession⟩
    else
      let ezstream := (ezstream.pushHeader name value).applyHeader server.table name value
      some ⟨0, server.events, ezsession.setObj ptr (some ezstream)⟩

/-- `EZGRPC2_GRPC_STATUS_UNIMPLEMENTED`, the status of a request for an unknown path. -/
def grpcStatusUnimplemented : ℤ := 12

/-- `ezgrpc2_grpc_status_strstatus`: the name of a status. -/
def grpcStatusStrstatus (status : ℤ) : String :=
  match status with
  | 0 => "ok"
  | 1 => "cancelled"
  | 2 => "unknown"
  | 3 => "invalid argument"
  | 4 => "deadline exceeded"
  | 5 => "not found"
  | 6 => "already exists"
  | 7 => "permission denied"
  | 8 => "resource exhausted"
  | 9 => "failed precondition"
  | 11 => "out of range"
  | 12 => "unimplemented"
  | 13 => "internal"
  | 14 => "unavailable"
  | 15 => "data loss"
  | 16 => "unauthenticated"
  | _ => "(null)"

/-- The trailers that carry a status. -/
def statusTrailers (status : ℤ) : List (Bytes × Bytes) :=
  [(bytesOf "grpc-status", bytesOf (toString status)),
    (bytesOf "grpc-message", bytesOf (grpcStatusStrstatus status))]

/-- `on_frame_recv_headers`, with `nghttp2_submit_headers` taken to succeed. -/
def onFrameRecvHeaders (server : ServerShared) (ezsession : Session) (frame : FrameHd) :
    Option CallbackResult := do
  let ptr ← ezsession.userData frame.streamId
  let ezstream ← ezsession.objs ptr
  if !frame.endHeaders then some ⟨0, server.events, ezsession⟩
  else if frame.endStream && !ezstream.isContentGrpc then
    some ⟨0, server.events,
      ezsession.submit (.headers ezstream.streamId true [(bytesOf ":status", bytesOf "415")])⟩
  else if frame.endStream then
    some ⟨0, server.events, ezsession.submit (.rstStream frame.streamId 1)⟩
  else if !(ezstream.isMethodPost && ezstream.isSchemeHttp && ezstream.isTeTrailers &&
      ezstream.isContentGrpc) then
    some ⟨0, server.events, ezsession.submit (.rstStream ezstream.streamId 1)⟩
  else
    let ezsession := ezsession.submit (.headers ezstream.streamId false
      [(bytesOf ":status", bytesOf "200"), (bytesOf "content-type", bytesOf "application/grpc")])
    match ezstream.path with
    | none =>
        some ⟨0, server.events,
          ezsession.submit (.trailer frame.streamId (statusTrailers grpcStatusUnimplemented))⟩
    | some _ => some ⟨0, server.events, ezsession⟩

/-- `on_frame_recv_settings`: an acknowledgement that has a payload is answered by RST_STREAM. -/
def onFrameRecvSettings (server : ServerShared) (ezsession : Session) (frame : FrameHd) :
    CallbackResult :=
  if frame.streamId ≠ 0 then ⟨0, server.events, ezsession⟩
  else if !frame.ack then ⟨0, server.events, ezsession⟩
  else if frame.length = 0 then ⟨0, server.events, ezsession⟩
  else ⟨0, server.events, ezsession.submit (.rstStream frame.streamId 1)⟩

/-! ## (2) DATA -/

/-- The receive buffer without its first `lseek` bytes: the `memcpy` of the left-over to the front,
as an exact copy, and the new length. -/
def Stream.compact (s : Stream) (lseek : ℕ) : Stream :=
  { s with
    recvData := write s.recvData 0 (slice s.recvData lseek (s.recvLen - lseek))
    recvLen := s.recvLen - lseek }

/-- `on_frame_recv_data`: the body is parsed, and its messages or their loss written as events. -/
def onFrameRecvData (server : ServerShared) (ezsession : Session) (frame : FrameHd) :
    Option CallbackResult :=
  match ezsession.userData frame.streamId with
  | none => some ⟨0, server.events, ezsession.submit (.rstStream frame.streamId 1)⟩
  | some ptr => do
      let ezstream ← ezsession.objs ptr
      match ezstream.path with
      | none => some ⟨0, server.events, ezsession⟩
      | some path =>
          let event (kind : EventKind) : Event :=
            { sessionUuid := ezsession.sessionUuid
              userdata := some (server.table.userdataAt path)
              kind := kind }
          if frame.endStream && ezstream.recvLen == 0 then
            let events := eventsWrite server.events (event (.message [] frame.streamId true))
            some ⟨0, events, ezsession⟩
          else do
            let (lseek, messages) := parseGrpcMessage ezstream.recvData ezstream.recvLen
            let (events, ezstream) ←
              if lseek ≠ 0 then do
                if ¬lseek ≤ ezstream.recvLen then none
                else
                  let ezstream := ezstream.compact lseek
                  -- without a list the pointer is not initialised
                  let messages ← messages
                  let endStream := frame.endStream && ezstream.recvLen == 0
                  some (eventsWrite server.events
                    (event (.message messages frame.streamId endStream)), ezstream)
              else some (server.events, ezstream)
            let events :=
              if frame.endStream && ezstream.recvLen != 0 then
                eventsWrite events (event (.dataloss ezstream.streamId))
              else events
            some ⟨0, events, ezsession.setObj ptr (some ezstream)⟩

/-- `on_frame_recv_callback`: the handler of the type of the frame is called. -/
def onFrameRecvCallback (server : ServerShared) (ezsession : Session) (frame : FrameHd) :
    Option CallbackResult :=
  match frame.type with
  | .settings => some (onFrameRecvSettings server ezsession frame)
  | .headers => onFrameRecvHeaders server ezsession frame
  | .data => onFrameRecvData server ezsession frame
  | .windowUpdate | .other => some ⟨0, server.events, ezsession⟩

/-- The receive buffer with a chunk behind what is in it. -/
def Stream.pushChunk (s : Stream) (data : Bytes) : Stream :=
  { s with
    recvData := write s.recvData s.recvLen data
    recvLen := s.recvLen + data.length }

/-- `on_data_chunk_recv_callback`: a chunk goes into the receive buffer, or the stream is reset. -/
def onDataChunkRecvCallback (server : ServerShared) (ezsession : Session) (streamId : ℤ)
    (data : Bytes) : Option CallbackResult :=
  match ezsession.userData streamId with
  | none => some ⟨0, server.events, ezsession⟩
  | some ptr => do
      let ezstream ← ezsession.objs ptr
      if ezstream.recvLen + data.length > server.initialWindowSize then
        some ⟨1, server.events, ezsession.submit (.rstStream streamId 1)⟩
      else some ⟨0, server.events, ezsession.setObj ptr (some (ezstream.pushChunk data))⟩

/-! ## (3) The end of a stream -/

/-- `stream_free`; freeing what is not there is an invalid memory access. -/
def streamFree (ezsession : Session) (ptr : ℕ) : Option Session := do
  let _ ← ezsession.objs ptr
  some (ezsession.setObj ptr none)

/-- `list_cmp_ezstream_id`, which compares the id of a stream; it returns 0 on a match. -/
def listCmpEzstreamId (ezsession : Session) (streamId : ℤ) (data : ℕ) : Option Bool :=
  (ezsession.objs data).map fun ezstream => ezstream.streamId == streamId

/-- `on_stream_close_callback`: the stream is taken off the list and freed. -/
def onStreamCloseCallback (server : ServerShared) (ezsession : Session) (streamId : ℤ) :
    Option CallbackResult := do
  let ezstream := ezsession.userData streamId
  let (removed, lstreams) ← listRemove (listCmpEzstreamId ezsession streamId) ezsession.lstreams
  if ezstream ≠ removed then none
  else
    let ptr ← ezstream
    let ezsession ← streamFree { ezsession with lstreams := lstreams } ptr
    some ⟨0, server.events, ezsession⟩

/-- The loop of `session_free`: pop the streams and free them. -/
def sessionFreeStreams (ezsession : Session) : Option Session :=
  go ezsession ezsession.lstreams
where
  /-- Free the streams of the list that is left. -/
  go (ezsession : Session) : List ℕ → Option Session
    | [] => some { ezsession with lstreams := [] }
    | ptr :: l => do
        let ezsession ← streamFree ezsession ptr
        go ezsession l

end Ezgrpc2
