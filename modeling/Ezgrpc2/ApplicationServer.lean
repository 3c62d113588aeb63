import Ezgrpc2.ApplicationRuns

/-! # The server of the application

What `main` relies on when it calls the library: the streams have paths it has registered, so that each
event of a request comes with one of its addresses (`PathTable.Known.streamInvariant`), and a call with
the handle of an event goes through and leaves the server in order (`ServerOk`). -/

namespace Ezgrpc2

open CStrings FlatMemory Handles StepRuns

/-! ## (1) Paths -/

/-- The slots in use hold addresses of `path_userdata`. -/
def PathTable.Known (t : PathTable) : Prop :=
  ∀ i, i < t.nbPaths → (pathUserdata (t.userdataAt i)).isSome = true

/-- A path registered with userdata that `main` knows keeps the table known. -/
theorem PathTable.Known.register {t : PathTable} (h : t.Known) (path : CString) {userdata : ℕ}
    (huserdata : (pathUserdata userdata).isSome = true) (enc type : ℕ) :
    (serverRegisterPath t path userdata enc type).2.Known := by
  rw [serverRegisterPath]
  split
  · exact h
  · intro i hi
    have hle : sizeT (t.nbPaths + 1) ≤ t.nbPaths + 1 := by
      rw [sizeT_eq]
      exact Nat.mod_le _ _
    have hi : i < sizeT (t.nbPaths + 1) := hi
    rw [PathTable.userdataAt]
    show (pathUserdata (if i = t.nbPaths then _ else t.paths i : Path).userdata).isSome = true
    split
    · exact huserdata
    · next hne => exact h i (by omega)

/-- The table of `main` holds paths that `main` knows, and no others. -/
theorem mainTable_known (maxPaths : MaxPaths) : (mainTable (pathTableNew maxPaths)).Known := by
  have hnew : (pathTableNew maxPaths).Known := fun i hi => (nomatch hi)
  exact (hnew.register _ rfl 0 0).register _ rfl 0 0

/-- The path of the stream is one of them. -/
def Stream.PathKnown (table : PathTable) (s : Stream) : Prop :=
  ∀ slot, s.path = some slot → (pathUserdata (table.userdataAt slot)).isSome = true

/-- An event of a DATA frame comes with one of the addresses. -/
def Event.Known (e : Event) : Prop :=
  e.kind.ofFrame = true → (e.userdata.bind pathUserdata).isSome = true

/-- The read callback keeps the path of the stream. -/
theorem readLoop_path {bufLen : ℕ} {stream : Stream} {buf : Bytes} {dataFlags : ℕ} {r : DataRead}
    (h : readLoop bufLen stream buf dataFlags = some r) : r.stream.path = stream.path := by
  fun_induction readLoop bufLen stream buf dataFlags with
  | case1 | case3 | case6 | case8 =>
      obtain rfl := Option.some.inj h
      rfl
  | case2 | case4 => cases h
  | case5 _ _ _ _ _ _ _ _ _ _ _ _ ih => exact ih h
  | case7 _ _ _ _ _ _ ih => exact ih h

theorem dataSourceReadCallback2_path {bufLen : ℕ} {stream : Stream} {dataFlags : ℕ} {r : DataRead}
    (h : dataSourceReadCallback2 bufLen stream dataFlags = some r) : r.stream.path = stream.path := by
  rw [dataSourceReadCallback2] at h
  by_cases hbuf : bufLen < 5
  · rw [if_pos hbuf] at h
    obtain rfl := Option.some.inj h
    rfl
  · rw [if_neg hbuf] at h
    exact readLoop_path h

/-- **A stream gets its path by a lookup only**, so its events come with an address `main` knows. -/
theorem PathTable.Known.streamInvariant {t : PathTable} (h : t.Known) :
    StreamInvariant t (Stream.PathKnown t) Event.Known where
  begun _ _ slot hslot := nomatch hslot
  header s name value hs slot hslot := by
    rw [Stream.path_applyHeader] at hslot
    split at hslot
    · cases hfind : findPath t value with
      | none =>
          rw [hfind, Option.none_or] at hslot
          exact hs slot hslot
      | some i =>
          rw [hfind, Option.some_or] at hslot
          obtain rfl := Option.some.inj hslot
          exact h i (findPath_eq_some.mp hfind).1
    · exact hs slot hslot
  frame s hs slot hslot := by
    rw [Stream.path_afterFrame] at hslot
    exact hs slot hslot
  chunk _ _ hs := hs
  read s bufLen r hs hr slot hslot := by
    rw [dataSourceReadCallback2_path hr] at hslot
    exact hs slot hslot
  event s path uuid kind hs hpath _ := hs path hpath

/-! ## (2) The server -/

/-- **The server is in order**, and so are the events it has written. -/
structure ServerOk (server : Server) (written : List Event) : Prop where
  /-- The sessions are sound, so that no callback aborts. -/
  sound : server.Sound
  /-- The table of the sessions is in order. -/
  table : TableOk server written
  /-- The table of the paths holds those that `main` registered. -/
  paths : server.table.Known
  /-- The streams point to paths that `main` registered, and so do the events that are unread. -/
  streams : server.All (fun ez => ez.Each (Stream.PathKnown server.table)) Event.Known
  /-- The events ever written are of paths that `main` registered. -/
  written : ∀ e ∈ written, e.Known

namespace ServerOk

variable {server server' : Server} {written : List Event}

/-- The server changes; its paths and its events do not. -/
theorem change (h : ServerOk server written) (hsound : server'.Sound) (htable : TableOk server' written)
    (hpaths : server'.table = server.table)
    (hstreams : server'.All (fun ez => ez.Each (Stream.PathKnown server.table)) Event.Known) :
    ServerOk server' written := by
  refine ⟨hsound, htable, ?_, ?_, h.written⟩
  · rw [hpaths]
    exact h.paths
  · rw [hpaths]
    exact hstreams

/-- Reading an array of events keeps the server in order. -/
theorem eventsRead (h : ServerOk server written) :
    ServerOk { server with events := (Ezgrpc2.eventsRead server.events).2 } written := by
  refine h.change (h.sound.congr rfl fun _ _ => trivial)
    (h.table.congr ⟨rfl, rfl, fun _ => rfl, fun _ => rfl⟩) rfl ?_
  refine h.streams.congr rfl fun e he => h.streams.event e ?_
  rw [← unread_eventsRead]
  exact List.mem_append_right _ he

/-- A `stream_send` with a handle of an event goes through. -/
theorem exists_streamSend (h : ServerOk server written) {uuid : SessionUuid}
    (hknown : ∃ e ∈ written, e.sessionUuid = uuid) (streamId : ℤ) {messages : List Message}
    (hne : ∀ m ∈ messages, m.len ≠ 0) (sends : List NgSend) :
    ∃ r, sessionStreamSend server uuid streamId messages sends = some r ∧ ServerOk r.server written := by
  obtain ⟨r, hr, hsound, hpaths⟩ := h.sound.exists_sessionStreamSend h.table hknown hne sends
  refine ⟨r, hr, h.change hsound (h.table.call (sessionStreamSend_cases hr)).1 hpaths ?_⟩
  exact h.streams.sessionStreamSend h.paths.streamInvariant (fun s messages hs => hs) hr

/-- A `stream_end` goes through on the session of any event written, and keeps the server in
order. -/
theorem exists_streamEnd (h : ServerOk server written) {uuid : SessionUuid}
    (hknown : ∃ e ∈ written, e.sessionUuid = uuid) (streamId status : ℤ) (send : NgSend) :
    ∃ r, sessionStreamEnd server uuid streamId status send = some r ∧ ServerOk r.server written := by
  obtain ⟨r, hr, hsound, hpaths⟩ :=
    h.sound.exists_sessionStreamEnd h.table hknown streamId status send
  refine ⟨r, hr, h.change hsound (h.table.call (sessionStreamEnd_cases hr)).1 hpaths ?_⟩
  exact h.streams.sessionStreamEnd h.paths.streamInvariant hr

/-- A plain round goes through, and keeps the server in order. -/
theorem exists_serverPoll (h : ServerOk server written) {round : Round}
    (hevents : round.events = server.events) (hfresh : round.Fresh written)
    (hplain : round.Plain server) :
    ∃ server', serverPoll server round = some (round.ready, server') ∧
      ServerOk server' (written ++ server'.events.unread.drop server.events.unread.length) := by
  obtain ⟨server', hpoll, hsound⟩ := h.sound.exists_serverPoll h.table hfresh hplain
  have hqueue : round.events.Each Event.Known := by
    rw [hevents]
    exact h.streams.event
  have hinvariant : SessionInvariant server.table
      (fun ez => ez.Each (Stream.PathKnown server.table)) Event.Known :=
    h.paths.streamInvariant.sessionInvariant (fun _ hframe => (nomatch hframe))
      fun _ hframe => (nomatch hframe)
  obtain ⟨hstreams, hpaths⟩ := h.streams.serverPoll hinvariant hqueue hpoll
  obtain ⟨hnew4, hnew6, hne⟩ := hfresh
  obtain ⟨es, htable, -, hunread⟩ := h.table.serverPoll hnew4 hnew6 hne hpoll
  -- what is behind the events of before is what the round has written
  have hes : server'.events.unread.drop server.events.unread.length = es := by
    by_cases hready : round.ready ≤ 0
    · rw [if_pos hready] at hunread
      rw [((serverPoll_ret hpoll).2 hready).1, List.drop_length, hunread]
    · rw [if_neg hready, hevents] at hunread
      rw [hunread, List.drop_left]
  rw [← hes] at htable
  refine ⟨server', hpoll, hsound, htable, ?_, ?_, fun e he => ?_⟩
  · rw [hpaths]
    exact h.paths
  · rw [hpaths]
    exact hstreams
  · rcases List.mem_append.mp he with he | he
    · exact h.written e he
    · exact hstreams.event e (List.drop_subset _ _ he)

end ServerOk

/-- The server that `main` sets up is in order, with no event written. -/
theorem mainServer_ok (ipv4Sockfd ipv6Sockfd : ℤ) (maxConnections initialWindowSize : ℕ)
    (maxPaths : MaxPaths) :
    ServerOk { mainServer ipv4Sockfd ipv6Sockfd maxConnections initialWindowSize maxPaths with
      events := eventsNew } [] where
  sound := ⟨fun _ _ hslot => (nomatch hslot), fun _ _ => trivial⟩
  table := (serverStart_ok ipv4Sockfd ipv6Sockfd maxConnections initialWindowSize
    maxPaths).congr ⟨rfl, rfl, fun _ => rfl, fun _ => rfl⟩
  paths := mainTable_known maxPaths
  streams := ⟨fun _ _ hslot => (nomatch hslot), fun _ he => (nomatch he)⟩
  written := fun _ he => (nomatch he)

end Ezgrpc2
