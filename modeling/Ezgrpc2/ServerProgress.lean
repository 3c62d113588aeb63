import Ezgrpc2.SessionProgress

/-! # The server does not abort

`Server.All` is a property of all sessions of a server; `All.serverPoll` and its like say what keeps
it. With `Session.Sound` it makes every round and every call go through, as long as clients send no
trailers and the application sends no empty message on handles it has read from an event
(`serverRun_completes`): no assertion fails, no pointer is null or dangling. At any time the loop of
`ezgrpc2_server_free` goes through too, and disconnects all that is connected. What is behind the loop,
where `thpool_free` frees a pool that is a member of the server, is not part of this. -/

namespace Ezgrpc2

open StepRuns

/-! ## (1) What all sessions keep -/

/-- `I` holds of every session, and its pointer back to the server is set; `E` holds of the events that
are queued. -/
structure Server.All (I : Session → Prop) (E : Event → Prop) (server : Server) : Prop where
  /-- The sessions meet `I`, and their cells know the server. -/
  session : ∀ i ez, (server.sessions i).session = some ez → (server.sessions i).server = true ∧ I ez
  /-- The events of the queue meet `E`. -/
  event : server.events.Each E

/-- **What keeps it**: new sessions have `I`, and the events of sessions that come and go have `E`; the
exchange with a session keeps both. -/
structure SessionInvariant (table : PathTable) (I : Session → Prop) (E : Event → Prop) : Prop where
  /-- A session that is made meets the property. -/
  new : ∀ uuid fd, I (sessionNew uuid fd)
  /-- A CONNECT event meets the property. -/
  connect : ∀ uuid, E (connectEvent uuid)
  /-- A DISCONNECT event meets the property. -/
  disconnect : ∀ uuid, E (disconnectEvent uuid)
  /-- A session that is served keeps the property, and its events meet theirs. -/
  served : ∀ (server : ServerShared) ez x ret events ez', server.table = table → I ez →
    server.events.Each E → sessionEvents server ez x = some (ret, events, ez') →
      I ez' ∧ events.Each E

namespace Server.All

variable {I : Session → Prop} {E : Event → Prop} {server server' : Server} {i : ℕ}

/-- Only the cells and the queue matter. -/
theorem congr (h : server.All I E) (hsessions : server'.sessions = server.sessions)
    (hevents : server'.events.Each E) : server'.All I E := by
  refine ⟨fun j ez hslot => ?_, hevents⟩
  rw [hsessions] at hslot ⊢
  exact h.session j ez hslot

/-- A cell that is overwritten by one that meets the property keeps that of all. -/
theorem setSlot (h : server.All I E) {slot : Slot}
    (hslot : ∀ ez, slot.session = some ez → slot.server = true ∧ I ez) :
    (server.setSlot i slot).All I E := by
  refine ⟨fun j ez hj => ?_, h.event⟩
  by_cases hji : j = i
  · rw [hji, Server.setSlot_self] at hj ⊢
    exact hslot ez hj
  · rw [Server.setSlot_of_ne slot hji] at hj ⊢
    exact h.session j ez hj

/-- A session that changes in place and meets the property keeps that of all. -/
theorem setSession (h : server.All I E) {ez ez' : Session}
    (hslot : (server.sessions i).session = some ez) (hez : I ez') :
    (server.setSession i ez').All I E := by
  apply h.setSlot
  intro ez₁ heq
  obtain rfl := Option.some.inj heq
  exact ⟨(h.session i ez hslot).1, hez⟩

/-- Freeing a session keeps the property of all others, and the path table. -/
theorem sessionFree (h : server.All I E) (hE : ∀ uuid, E (disconnectEvent uuid))
    (hfree : Ezgrpc2.sessionFree server i = some server') :
    server'.All I E ∧ server'.table = server.table := by
  obtain ⟨ez, -, rfl⟩ := sessionFree_eq_some hfree
  have hzero : (server.setSlot i slotZero).All I E := h.setSlot fun _ hnone => (nomatch hnone)
  exact ⟨hzero.congr rfl (h.event.write (hE _)), rfl⟩

/-- A new session meets the property, and where none is made the cell still does. -/
theorem sessionCreate (hnew : ∀ uuid fd, I (sessionNew uuid fd)) {slot slot' : Slot} {acc : Accept}
    {res : ℕ} (hslot : ∀ ez, slot.session = some ez → slot.server = true ∧ I ez)
    (hcreate : Ezgrpc2.sessionCreate slot acc = some (res, slot')) :
    if res ≠ 0 then ∀ ez, slot'.session = some ez → slot'.server = true ∧ I ez
    else ∀ ndx ez, (slot'.setIndex ndx).session = some ez → (slot'.setIndex ndx).server = true ∧ I ez := by
  rw [Ezgrpc2.sessionCreate] at hcreate
  split at hcreate
  · cases hcreate
    rw [if_pos Nat.one_ne_zero]
    exact hslot
  · split at hcreate
    · cases hcreate
      rw [if_pos Nat.one_ne_zero]
      exact fun ez hez => ⟨rfl, (hslot ez hez).2⟩
    · split at hcreate
      · cases hcreate
      · cases hcreate
        rw [if_neg (not_not.mpr rfl)]
        intro ndx ez hez
        obtain rfl := Option.some.inj hez
        exact ⟨rfl, hnew _ _⟩

/-- **A listener keeps the property of all sessions**, and the path table. -/
theorem pollListener (h : server.All I E) (hnew : ∀ uuid fd, I (sessionNew uuid fd))
    (hE : ∀ uuid, E (connectEvent uuid)) {acc : Accept}
    (hpoll : Ezgrpc2.pollListener server i acc = some server') :
    server'.All I E ∧ server'.table = server.table := by
  rw [Ezgrpc2.pollListener] at hpoll
  split at hpoll
  · obtain ⟨⟨ret, server₁⟩, hadd, rfl⟩ := Option.map_eq_some_iff.mp hpoll
    rw [Ezgrpc2.sessionAdd] at hadd
    split at hadd
    · cases hadd
      exact ⟨h, rfl⟩
    · dsimp only at hadd
      split at hadd
      · cases hadd
        exact ⟨h.congr rfl h.event, rfl⟩
      · next ndx hndx =>
          obtain ⟨⟨res, slot⟩, hcreate, hadd⟩ := Option.bind_eq_some_iff.mp hadd
          have hslot := sessionCreate hnew (h.session ndx) hcreate
          dsimp only at hadd
          split at hadd
          · next hres =>
              cases hadd
              rw [if_pos hres] at hslot
              have hset : (server.setSlot ndx slot).All I E := h.setSlot hslot
              exact ⟨hset.congr rfl h.event, rfl⟩
          · next hres =>
              cases hadd
              rw [if_neg hres] at hslot
              have hset : (server.setSlot ndx (slot.setIndex ndx)).All I E := h.setSlot (hslot ndx)
              exact ⟨hset.congr rfl (h.event.write (hE _)), rfl⟩
  · cases hpoll
    exact ⟨h, rfl⟩

/-- **The body of the loop keeps it**, when the exchange with the session in the cell does. -/
theorem pollCell_of_served (h : server.All I E) (hE : ∀ uuid, E (disconnectEvent uuid)) {round : Round}
    (hserved : ∀ ez ret events ez', (server.sessions i).session = some ez →
      sessionEvents server.toServerShared ez (round.exchange i) = some (ret, events, ez') →
        I ez' ∧ events.Each E)
    (hpoll : Ezgrpc2.pollCell round server i = some server') :
    server'.All I E ∧ server'.table = server.table := by
  rw [Ezgrpc2.pollCell] at hpoll
  dsimp only at hpoll
  split at hpoll
  · obtain ⟨server₁, hfree, hpoll⟩ := Option.bind_eq_some_iff.mp hpoll
    cases hpoll
    obtain ⟨hall, htable⟩ := h.sessionFree hE hfree
    exact ⟨hall.congr rfl hall.event, htable⟩
  · split at hpoll
    · obtain ⟨ez, hslot, hpoll⟩ := Option.bind_eq_some_iff.mp hpoll
      rw [Server.setSlot_self] at hslot
      obtain ⟨⟨ret, events, ez'⟩, hexchange, hpoll⟩ := Option.bind_eq_some_iff.mp hpoll
      obtain ⟨hez', hevents⟩ := hserved ez ret events ez' hslot hexchange
      have hset : (server.setSlot i ⟨true, some ez'⟩).All I E :=
        h.setSlot fun ez₁ heq => Option.some.inj heq ▸ ⟨rfl, hez'⟩
      -- the cell is stored twice
      have hsessions : ((server.setSlot i { server.sessions i with server := true }).setSession i
          ez').sessions = (server.setSlot i ⟨true, some ez'⟩).sessions := by
        funext j
        by_cases hj : j = i
        · rw [hj, Server.setSession, Server.setSlot_self, Server.setSlot_self, Server.setSlot_self]
        · rw [Server.setSession_of_ne ez' hj, Server.setSlot_of_ne _ hj, Server.setSlot_of_ne _ hj]
      dsimp only at hpoll
      split at hpoll
      · obtain ⟨server₁, hfree, hpoll⟩ := Option.bind_eq_some_iff.mp hpoll
        cases hpoll
        have hclosed : ({ (server.setSlot i { server.sessions i with server := true }).setSession i ez'
            with events := events } : Server).close ez'.sockfd
            |>.setFd i { server.fds i with fd := -1 } |>.All I E := hset.congr hsessions hevents
        obtain ⟨hall, htable⟩ := hclosed.sessionFree hE hfree
        exact ⟨hall.congr rfl hall.event, htable⟩
      · cases hpoll
        exact ⟨hset.congr hsessions hevents, rfl⟩
    · cases hpoll
      exact ⟨h, rfl⟩

theorem pollCell (h : server.All I E) (hI : SessionInvariant server.table I E) {round : Round}
    (hpoll : Ezgrpc2.pollCell round server i = some server') :
    server'.All I E ∧ server'.table = server.table :=
  h.pollCell_of_served hI.disconnect
    (fun _ _ _ _ hslot hexchange =>
      hI.served _ _ _ _ _ _ rfl (h.session i _ hslot).2 h.event hexchange) hpoll

/-- **A round keeps the property of all sessions**, and the path table. -/
theorem serverPoll (h : server.All I E) (hI : SessionInvariant server.table I E) {round : Round}
    (hevents : round.events.Each E) {ret : ℤ}
    (hpoll : Ezgrpc2.serverPoll server round = some (ret, server')) :
    server'.All I E ∧ server'.table = server.table := by
  rw [Ezgrpc2.serverPoll] at hpoll
  dsimp only at hpoll
  split at hpoll
  · cases hpoll
    exact ⟨h.congr rfl h.event, rfl⟩
  · obtain ⟨server₁, hlisten4, hpoll⟩ := Option.bind_eq_some_iff.mp hpoll
    obtain ⟨server₂, hlisten6, hpoll⟩ := Option.bind_eq_some_iff.mp hpoll
    obtain ⟨server₃, hcells, hpoll⟩ := Option.bind_eq_some_iff.mp hpoll
    cases hpoll
    have h₀ : ({ server with
        fds := fun i => { server.fds i with revents := round.revents i }
        events := round.events } : Server).All I E := h.congr rfl hevents
    obtain ⟨h₁, htable₁⟩ := h₀.pollListener hI.new hI.connect hlisten4
    obtain ⟨h₂, htable₂⟩ := h₁.pollListener hI.new hI.connect hlisten6
    rw [pollCells_eq_run] at hcells
    refine run_invariant (Ezgrpc2.pollCell round)
      (I := fun server' => server'.All I E ∧ server'.table = server.table) ?_
      ⟨h₂, htable₂.trans htable₁⟩ hcells
    rintro server₄ j server₅ ⟨hall, htable⟩ hcell
    obtain ⟨hall', htable'⟩ := hall.pollCell (htable ▸ hI) hcell
    exact ⟨hall', htable'.trans htable⟩

/-- **What all objects keep, `stream_send` keeps**, if it may be queued on. -/
theorem sessionStreamSend {Q : Stream → Prop} {table : PathTable}
    (h : server.All (fun ez => ez.Each Q) E) (hQ : StreamInvariant table Q E)
    (hqueue : ∀ s messages, Q s → Q (s.enqueue messages)) {uuid : SessionUuid} {streamId : ℤ}
    {messages : List Message} {sends : List NgSend} {r : CallResult}
    (hr : Ezgrpc2.sessionStreamSend server uuid streamId messages sends = some r) :
    r.server.All (fun ez => ez.Each Q) E := by
  rcases sessionStreamSend_eq_some hr with
    ⟨ret, -, rfl⟩ | ⟨ez, ptr, s, ret, ez', outs, -, hslot, -, hobj, hloop, rfl⟩
  · exact h
  · have hez := (h.session _ ez hslot).2
    have hs : Q (s.enqueue messages) := hqueue s messages (hez ptr s hobj)
    exact h.setSession hslot ((hez.queued hs).sendLoop hQ hloop)

/-- A `stream_end` keeps the property of all streams. -/
theorem sessionStreamEnd {Q : Stream → Prop} {table : PathTable}
    (h : server.All (fun ez => ez.Each Q) E) (hQ : StreamInvariant table Q E) {uuid : SessionUuid}
    {streamId status : ℤ} {send : NgSend} {r : CallResult}
    (hr : Ezgrpc2.sessionStreamEnd server uuid streamId status send = some r) :
    r.server.All (fun ez => ez.Each Q) E := by
  rcases sessionStreamEnd_eq_some hr with ⟨ret, -, rfl⟩ | ⟨ez, ptr, ez', outs, -, hslot, hws, rfl⟩
  · exact h
  · have hez : (ez.submit (.trailer streamId (statusTrailers status))).Each Q :=
      (h.session _ ez hslot).2
    exact h.setSession hslot
      (ngWrites_invariant (fun _ _ _ _ heach hw => heach.ngWrite hQ hw) hez hws)

end Server.All

/-- What all objects keep, all sessions keep. -/
theorem StreamInvariant.sessionInvariant {table : PathTable} {Q : Stream → Prop} {E : Event → Prop}
    (hQ : StreamInvariant table Q E) (hconnect : ∀ uuid, E (connectEvent uuid))
    (hdisconnect : ∀ uuid, E (disconnectEvent uuid)) :
    SessionInvariant table (fun ez => ez.Each Q) E where
  new _ _ _ _ hs := nomatch hs
  connect := hconnect
  disconnect := hdisconnect
  served _ _ _ _ _ _ htable hez hevents hexchange :=
    hez.sessionEvents (htable ▸ hQ) hevents hexchange

/-- All sessions are sound, so that plain input does not abort the server. -/
abbrev Server.Sound (server : Server) : Prop := server.All Session.Sound fun _ => True

/-! ## (2) A round goes through -/

/-- In the cell the client sends no trailers, if it sends anything. -/
def Round.PlainAt (round : Round) (server : Server) (i : ℕ) : Prop :=
  server.Readable i → ∀ ez ∈ (server.sessions i).session, (round.exchange i).wantRead = true →
    Along clientStep (fun st a => a.Plain st) ⟨server.toServerShared, ez, [], []⟩
      (round.exchange i).acts

instance (round : Round) (server : Server) (i : ℕ) : Decidable (round.PlainAt server i) :=
  inferInstanceAs (Decidable (server.Readable i → ∀ ez ∈ (server.sessions i).session,
    (round.exchange i).wantRead = true →
      Along clientStep (fun st a => a.Plain st) ⟨server.toServerShared, ez, [], []⟩
        (round.exchange i).acts))

/-- **A plain round**: the calls behind an accept succeed, and no client sends trailers. -/
def Round.Plain (round : Round) (server : Server) : Prop :=
  0 < round.ready → round.ipv4.setup = true ∧ round.ipv6.setup = true ∧
    ∀ server₀ ∈ round.start server,
      Along (pollCell round) round.PlainAt server₀ (List.range' 2 (server₀.nbFds - 2))

instance (round : Round) (server : Server) : Decidable (round.Plain server) :=
  inferInstanceAs (Decidable (0 < round.ready → round.ipv4.setup = true ∧
    round.ipv6.setup = true ∧ ∀ server₀ ∈ round.start server,
      Along (pollCell round) round.PlainAt server₀ (List.range' 2 (server₀.nbFds - 2))))

section Round

variable {server : Server} {log : List Event} {i : ℕ}

/-- The assertions of `session_free` hold of a session that is in order. -/
theorem exists_sessionFree (server : Server) {ez : Session} (hslot : (server.sessions i).session = some ez)
    (hserver : (server.sessions i).server = true) (hez : ez.RegistryOk) :
    ∃ server', sessionFree server i = some server' := by
  obtain ⟨ez', hfree, -⟩ := hez.sessionFreeStreams
  simp only [sessionFree, hserver, hslot, hfree, Bool.not_true, Bool.false_eq_true, if_false,
    Option.bind_eq_bind, Option.bind_some]
  exact ⟨_, rfl⟩

/-- A listener goes through, whatever `accept` returns. -/
theorem exists_pollListener (server : Server) (i : ℕ) {acc : Accept} (hsetup : acc.setup = true) :
    ∃ server', pollListener server i acc = some server' := by
  have hcreate : ∀ slot, ∃ r, sessionCreate slot acc = some r := by
    intro slot
    rw [sessionCreate, hsetup]
    dsimp only [Bool.not_true]
    split
    · exact ⟨_, rfl⟩
    · split
      · exact ⟨_, rfl⟩
      · exact ⟨_, rfl⟩
  have hadd : ∃ r, sessionAdd server acc = some r := by
    rw [sessionAdd]
    split
    · exact ⟨_, rfl⟩
    · dsimp only
      split
      · exact ⟨_, rfl⟩
      · next ndx _ =>
          obtain ⟨⟨res, slot⟩, hr⟩ := hcreate (server.sessions ndx)
          have hr' : sessionCreate ((server.accept acc.confd).sessions ndx) acc = some (res, slot) := hr
          rw [hr', Option.bind_eq_bind, Option.bind_some]
          dsimp only
          split
          · exact ⟨_, rfl⟩
          · exact ⟨_, rfl⟩
  rw [pollListener]
  split
  · obtain ⟨r, hr⟩ := hadd
    rw [hr]
    exact ⟨_, rfl⟩
  · exact ⟨server, rfl⟩

/-- **A cell of the loop goes through**, and the sessions are sound behind it. -/
theorem Server.Sound.exists_pollCell (h : server.Sound) (htable : TableOk server log)
    (hi : 2 ≤ i) (hlt : i < server.nbSessions) {round : Round} (hplain : round.PlainAt server i) :
    ∃ server', Ezgrpc2.pollCell round server i = some server' ∧ server'.Sound := by
  have hkeeps : ∀ server', Ezgrpc2.pollCell round server i = some server' →
      (server.Readable i → server'.Sound) := by
    intro server' hpoll hread
    refine (h.pollCell_of_served (fun _ => trivial) ?_ hpoll).1
    intro ez ret events ez' hslot hexchange
    obtain ⟨ret₁, events₁, ez₁, hexchange₁, hez₁⟩ :=
      (h.session i ez hslot).2.sessionEvents server.toServerShared (hplain hread ez hslot)
    rw [hexchange₁, Option.some.injEq] at hexchange
    cases hexchange
    exact ⟨hez₁, fun _ _ => trivial⟩
  have hused : (server.fds i).fd ≠ -1 → ∃ ez, (server.sessions i).session = some ez := fun hfd =>
    Option.isSome_iff_exists.mp ((htable.fd i hi hlt).mp hfd)
  by_cases hhang : (server.fds i).fd ≠ -1 ∧ (server.fds i).revents &&& (pollrdhup ||| pollerr) ≠ 0
  · -- the session is freed
    obtain ⟨ez, hslot⟩ := hused hhang.1
    obtain ⟨hserver, hez⟩ := h.session i ez hslot
    obtain ⟨server₁, hfree⟩ := exists_sessionFree server hslot hserver hez.registry
    have hcell : Ezgrpc2.pollCell round server i = some (server₁.setFd i ⟨-1, 0⟩) := by
      rw [Ezgrpc2.pollCell]
      dsimp only
      rw [if_pos hhang, hfree]
      rfl
    exact ⟨_, hcell, (h.sessionFree (fun _ => trivial) hfree).1.congr rfl fun _ _ => trivial⟩
  · by_cases hread : (server.fds i).fd ≠ -1 ∧ (server.fds i).revents &&& pollin ≠ 0
    · -- the session is served, and may end
      obtain ⟨ez, hslot⟩ := hused hread.1
      obtain ⟨ret, events, ez', hexchange, hez'⟩ :=
        (h.session i ez hslot).2.sessionEvents server.toServerShared (hplain hread ez hslot)
      have hcell : ∃ server', Ezgrpc2.pollCell round server i = some server' := by
        rw [Ezgrpc2.pollCell]
        dsimp only
        rw [if_neg hhang, if_pos hread, Server.setSlot_self]
        simp only [hslot, Option.bind_eq_bind, Option.bind_some]
        rw [show sessionEvents (server.setSlot i ⟨true, some ez⟩).toServerShared ez (round.exchange i)
          = some (ret, events, ez') from hexchange, Option.bind_some]
        dsimp only
        split
        · obtain ⟨server₁, hfree⟩ := exists_sessionFree
            ((({ (server.setSlot i ⟨true, some ez⟩).setSession i ez' with
              events := events } : Server).close ez'.sockfd).setFd i { server.fds i with fd := -1 })
            (Server.setSession_self _ i ez') (by
              show ((server.setSlot i ⟨true, some ez⟩).setSession i ez' |>.sessions i).server = true
              rw [Server.setSession, Server.setSlot_self, Server.setSlot_self]) hez'.registry
          rw [hfree]
          exact ⟨_, rfl⟩
        · exact ⟨_, rfl⟩
      obtain ⟨server', hcell⟩ := hcell
      exact ⟨server', hcell, hkeeps server' hcell hread⟩
    · refine ⟨server, ?_, h⟩
      rw [Ezgrpc2.pollCell]
      dsimp only
      rw [if_neg hhang, if_neg hread]

/-- **A plain round goes through** and leaves all sessions sound. -/
theorem Server.Sound.exists_serverPoll (h : server.Sound) (htable : TableOk server log)
    {round : Round} (hfresh : round.Fresh log) (hplain : round.Plain server) :
    ∃ server', Ezgrpc2.serverPoll server round = some (round.ready, server') ∧
      server'.Sound := by
  obtain ⟨hnew4, hnew6, hne⟩ := hfresh
  rw [Ezgrpc2.serverPoll]
  dsimp only
  by_cases hready : round.ready ≤ 0
  · rw [if_pos hready]
    exact ⟨_, rfl, h.congr rfl h.event⟩
  · rw [if_neg hready]
    obtain ⟨hsetup4, hsetup6, hcells⟩ := hplain (not_le.mp hready)
    let server₀ : Server :=
      { server with
        fds := fun i => { server.fds i with revents := round.revents i }
        events := round.events }
    have htable₀ : TableOk server₀ log := htable.congr ⟨rfl, rfl, fun _ => rfl, fun _ => rfl⟩
    have h₀ : server₀.Sound := h.congr rfl fun _ _ => trivial
    -- the listeners
    obtain ⟨server₁, hlisten4⟩ := exists_pollListener server₀ 0 hsetup4
    obtain ⟨server₂, hlisten6⟩ := exists_pollListener server₁ 1 hsetup6
    have h₁ := (h₀.pollListener Session.Sound.new (fun _ => trivial) hlisten4).1
    have h₂ := (h₁.pollListener Session.Sound.new (fun _ => trivial) hlisten6).1
    obtain ⟨es, hleads⟩ := htable₀.pollListeners hnew4 hnew6 hne hlisten4 hlisten6
    have hstart : round.start server = some server₂ :=
      Option.bind_eq_some_iff.mpr ⟨server₁, hlisten4, hlisten6⟩
    -- the loop
    have hloop := (hcells server₂ hstart).exists_run
      (I := fun server => server.Sound ∧ (∃ log, TableOk server log) ∧
        server.nbSessions = server₂.nbSessions)
      (fun server i hi hinv hplain => by
        obtain ⟨hall, ⟨log, htable⟩, hnb⟩ := hinv
        rw [List.mem_range'_1, hleads.table.nbFds] at hi
        obtain ⟨server', hcell, hall'⟩ := hall.exists_pollCell htable hi.1 (by omega) hplain
        obtain ⟨es', hleads'⟩ := htable.pollCell hcell
        exact ⟨server', hcell, hall', ⟨_, hleads'.table⟩, hleads'.nbSessions.trans hnb⟩)
      ⟨h₂, ⟨_, hleads.table⟩, rfl⟩
    obtain ⟨server', hrun, hall, -⟩ := hloop
    refine ⟨server', ?_, hall⟩
    rw [show Ezgrpc2.pollListener server₀ 0 round.ipv4 = some server₁ from hlisten4,
      Option.bind_eq_bind, Option.bind_some, hlisten6, Option.bind_some, pollCells_eq_run, hrun]
    rfl

end Round

/-! ## (3) A call goes through -/

section Call

variable {server : Server} {log : List Event} {uuid : SessionUuid}

/-- `session_find` does not abort on a handle that was published, and what it finds is sound. -/
theorem Server.Sound.exists_locate (h : server.Sound) (htable : TableOk server log)
    (hknown : ∃ e ∈ log, e.sessionUuid = uuid) (streamId : ℤ) :
    (∃ ret, locate server uuid streamId = some (.error ret)) ∨
      ∃ i ez ptr s, locate server uuid streamId = some (.ok (i, ez, ptr)) ∧
        (server.sessions i).session = some ez ∧ ez.userData streamId = some ptr ∧
        ez.objs ptr = some s ∧ ez.Sound := by
  obtain ⟨e, he, rfl⟩ := hknown
  obtain ⟨hfound, hstale⟩ := htable.sessionFind_eq he
  by_cases hcon : Connected log e.sessionUuid
  · obtain ⟨ez, hslot, -⟩ := htable.connected _ hcon
    have hez := (h.session _ ez hslot).2
    cases hptr : ez.userData streamId with
    | none =>
        refine Or.inl ⟨2, ?_⟩
        simp only [locate, hfound hcon, hslot, hptr, Option.bind_eq_bind, Option.bind_some]
    | some ptr =>
        obtain ⟨s, hobj, -⟩ := hez.registry.obj_of_userData hptr
        refine Or.inr ⟨e.sessionUuid.index, ez, ptr, s, ?_, hslot, hptr, hobj, hez⟩
        simp only [locate, hfound hcon, hslot, hptr, Option.bind_eq_bind, Option.bind_some]
  · refine Or.inl ⟨1, ?_⟩
    simp only [locate, hstale hcon, Option.bind_eq_bind, Option.bind_some]

/-- **A `stream_send` goes through**, on a handle that was published and with messages that are not
empty. -/
theorem Server.Sound.exists_sessionStreamSend (h : server.Sound)
    (htable : TableOk server log) (hknown : ∃ e ∈ log, e.sessionUuid = uuid) {streamId : ℤ}
    {messages : List Message} (hne : ∀ m ∈ messages, m.len ≠ 0) (sends : List NgSend) :
    ∃ r, Ezgrpc2.sessionStreamSend server uuid streamId messages sends = some r ∧
      r.server.Sound ∧ r.server.table = server.table := by
  rcases h.exists_locate htable hknown streamId with
    ⟨ret, hfind⟩ | ⟨i, ez, ptr, s, hfind, hslot, hptr, hobj, hez⟩
  · refine ⟨⟨ret, messages, server, []⟩, ?_, h, rfl⟩
    simp only [Ezgrpc2.sessionStreamSend, hfind, Option.bind_eq_bind, Option.bind_some]
  · obtain ⟨ret, ez', outs, hloop, hez'⟩ :=
      (hez.queued hptr hobj hne).sendLoop server.toServerShared sends
    rw [Session.queued] at hloop
    refine ⟨⟨ret, (listConcatAndEmptySrc s.lqueueOmessages messages).2, server.setSession i ez', outs⟩,
      ?_, h.setSession hslot hez', rfl⟩
    simp only [Ezgrpc2.sessionStreamSend, hfind, hobj, Option.bind_eq_bind, Option.bind_some]
    rw [hloop]
    rfl

/-- **A `stream_end` goes through** on the session of any event written before. -/
theorem Server.Sound.exists_sessionStreamEnd (h : server.Sound)
    (htable : TableOk server log) (hknown : ∃ e ∈ log, e.sessionUuid = uuid)
    (streamId status : ℤ) (send : NgSend) :
    ∃ r, Ezgrpc2.sessionStreamEnd server uuid streamId status send = some r ∧
      r.server.Sound ∧ r.server.table = server.table := by
  rcases h.exists_locate htable hknown streamId with
    ⟨ret, hfind⟩ | ⟨i, ez, ptr, s, hfind, hslot, hptr, hobj, hez⟩
  · refine ⟨⟨ret, [], server, []⟩, ?_, h, rfl⟩
    simp only [Ezgrpc2.sessionStreamEnd, hfind, Option.bind_eq_bind, Option.bind_some]
  · obtain ⟨ez', outs, hws, hez'⟩ :=
      (hez.submit (.trailer streamId (statusTrailers status))).ngWrites
        server.toServerShared send.writes
    refine ⟨⟨0, [], server.setSession i ez', outs⟩, ?_, h.setSession hslot hez', rfl⟩
    simp only [Ezgrpc2.sessionStreamEnd, hfind, hobj, Option.bind_eq_bind, Option.bind_some]
    rw [hws]
    rfl

end Call

/-! ## (4) The end -/

/-- **The loop of `ezgrpc2_server_free` leaves nothing connected**: it goes through, no session is left,
and every session that has connected has disconnected. -/
def ServerState.Frees (st : ServerState) : Prop :=
  ∃ server' es, serverFree st.server = some server' ∧
    server'.events.unread = st.server.events.unread ++ es ∧
    (∀ i, (server'.sessions i).session = none) ∧ Lives (st.log ++ es) ∧
    ∀ uuid, ¬Connected (st.log ++ es) uuid

/-- The loop, when the sessions left are in the cells left. -/
theorem exists_freeCells {server : Server} {log : List Event} {is : List ℕ}
    (hall : server.Sound) (hnodup : is.Nodup)
    (hused : ∀ i ∈ is, (server.fds i).fd ≠ -1 → ∃ ez, (server.sessions i).session = some ez)
    (honly : ∀ i ez, (server.sessions i).session = some ez →
      i ∈ is ∧ (server.fds i).fd ≠ -1 ∧ ez.sessionUuid.index = i)
    (hconnected : ∀ uuid, Connected log uuid ↔
      ∃ ez, (server.sessions uuid.index).session = some ez ∧ ez.sessionUuid = uuid)
    (hlives : Lives log) :
    ∃ server' es, freeCells server is = some server' ∧
      server'.events.unread = server.events.unread ++ es ∧
      (∀ i, (server'.sessions i).session = none) ∧ Lives (log ++ es) ∧
      ∀ uuid, ¬Connected (log ++ es) uuid := by
  induction is generalizing server log with
  | nil =>
      have hnone : ∀ i, (server.sessions i).session = none := by
        intro i
        rw [← Option.not_isSome_iff_eq_none]
        intro hsome
        obtain ⟨ez, hslot⟩ := Option.isSome_iff_exists.mp hsome
        exact List.not_mem_nil (honly i ez hslot).1
      refine ⟨server, [], rfl, (List.append_nil _).symm, hnone, ?_, fun uuid hcon => ?_⟩
      · rwa [List.append_nil]
      · rw [List.append_nil] at hcon
        obtain ⟨ez, hslot, -⟩ := (hconnected uuid).mp hcon
        rw [hnone] at hslot
        cases hslot
  | cons i is ih =>
      obtain ⟨hi, hnodup'⟩ := List.nodup_cons.mp hnodup
      by_cases hfd : (server.fds i).fd ≠ -1
      · -- the session of the cell is freed
        obtain ⟨ez, hslot⟩ := hused i List.mem_cons_self hfd
        obtain ⟨hserver, hez⟩ := hall.session i ez hslot
        obtain ⟨server₁, hfree⟩ := exists_sessionFree (server.close (server.fds i).fd) hslot hserver
          hez.registry
        have hclosed : (server.close (server.fds i).fd).Sound := hall.congr rfl hall.event
        obtain ⟨ez', hslot', rfl⟩ := sessionFree_eq_some hfree
        obtain rfl := Option.some.inj (hslot.symm.trans hslot')
        have hindex := (honly i ez hslot).2.2
        have hcon : Connected log ez.sessionUuid :=
          (hconnected _).mpr ⟨ez, by rw [hindex]; exact hslot, rfl⟩
        have hsession : ∀ j, ((server.setSlot i slotZero).sessions j).session
            = if j = i then none else (server.sessions j).session := by
          intro j
          by_cases hj : j = i
          · rw [hj, Server.setSlot_self, if_pos rfl]
            rfl
          · rw [Server.setSlot_of_ne _ hj, if_neg hj]
        obtain ⟨server', es, hcells, hunread, hrest⟩ := @ih
          { (server.close (server.fds i).fd).setSlot i slotZero with
            events := eventsWrite server.events (disconnectEvent ez.sessionUuid) }
          (log ++ [disconnectEvent ez.sessionUuid])
          (hclosed.sessionFree (fun _ => trivial) hfree).1 hnodup'
          (fun j hj hfdj => by
            have hji : j ≠ i := fun heq => hi (heq ▸ hj)
            obtain ⟨ez₁, h₁⟩ := hused j (List.mem_cons_of_mem i hj) hfdj
            exact ⟨ez₁, (hsession j).trans ((if_neg hji).trans h₁)⟩)
          (fun j ez₁ h₁ => by
            have h₁ : ((server.setSlot i slotZero).sessions j).session = some ez₁ := h₁
            rw [hsession] at h₁
            by_cases hji : j = i
            · rw [if_pos hji] at h₁
              cases h₁
            · rw [if_neg hji] at h₁
              obtain ⟨hmem, hrest⟩ := honly j ez₁ h₁
              exact ⟨(List.mem_cons.mp hmem).resolve_left hji, hrest⟩)
          (fun uuid => by
            rw [connected_append_disconnect, hconnected]
            show _ ↔ ∃ ez, ((server.setSlot i slotZero).sessions uuid.index).session = some ez ∧ _
            rw [hsession]
            by_cases hji : uuid.index = i
            · rw [if_pos hji, hji, hslot]
              refine iff_of_false ?_ ?_
              · rintro ⟨⟨ez₁, heq, huuid⟩, hne⟩
                obtain rfl := Option.some.inj heq
                exact hne huuid.symm
              · rintro ⟨ez₁, hnone, -⟩
                cases hnone
            · rw [if_neg hji]
              refine and_iff_left fun heq => hji ?_
              rw [heq, hindex])
          (hlives.disconnect hcon)
        refine ⟨server', disconnectEvent ez.sessionUuid :: es, ?_, ?_, ?_⟩
        · rw [freeCells, if_pos hfd, hfree]
          exact hcells
        · rw [hunread, ← List.singleton_append, ← List.append_assoc]
          exact congrArg (· ++ es) (unread_eventsWrite _ _)
        · rw [← List.singleton_append, ← List.append_assoc]
          exact hrest
      · -- the cell is free
        have hcells : freeCells server (i :: is) = freeCells server is := by
          rw [freeCells, if_neg hfd]
          rfl
        rw [hcells]
        refine ih hall hnodup' (fun j hj => hused j (List.mem_cons_of_mem i hj)) ?_ hconnected hlives
        intro j ez hslot
        obtain ⟨hmem, hfdj, hindex⟩ := honly j ez hslot
        refine ⟨(List.mem_cons.mp hmem).resolve_left ?_, hfdj, hindex⟩
        rintro rfl
        exact hfd hfdj

/-- **The loop of `ezgrpc2_server_free` goes through** and leaves no session. -/
theorem Server.Sound.frees {st : ServerState} (h : st.server.Sound)
    (htable : TableOk st.server st.log) : st.Frees := by
  refine exists_freeCells h List.nodup_range' ?_ ?_ ?_ htable.lives
  · intro i hi hfd
    rw [List.mem_range'_1, htable.nbFds] at hi
    exact Option.isSome_iff_exists.mp ((htable.fd i hi.1 (by omega)).mp hfd)
  · intro i ez hslot
    obtain ⟨hindex, hi, hlt, -⟩ := htable.slot i ez hslot
    refine ⟨?_, (htable.fd i hi hlt).mpr (by rw [hslot]; rfl), hindex⟩
    rw [List.mem_range'_1, htable.nbFds]
    omega
  · intro uuid
    refine ⟨htable.connected uuid, ?_⟩
    rintro ⟨ez, hslot, rfl⟩
    exact (htable.slot _ ez hslot).2.2.2

/-! ## (5) Runs -/

theorem ten_mul_pathMaxLen_lt : 10 * configPathMaxLen < 2 ^ 64 := by decide

/-- **A plain action**: clients send no trailers, and the application uses handles that it has read and
sends no empty message. -/
def ServerState.Plain (st : ServerState) : ServerAction → Prop
  | .poll round => round.Fresh st.log ∧ round.Plain st.server
  | .streamSend uuid _ messages _ =>
      (∃ e ∈ st.log, e.sessionUuid = uuid) ∧ ∀ m ∈ messages, m.len ≠ 0
  | .streamEnd uuid _ _ _ => ∃ e ∈ st.log, e.sessionUuid = uuid
  | .pathCall _ => True

instance (st : ServerState) : (a : ServerAction) → Decidable (st.Plain a)
  | .poll round => inferInstanceAs (Decidable (round.Fresh st.log ∧ round.Plain st.server))
  | .streamSend uuid _ messages _ => inferInstanceAs
      (Decidable ((∃ e ∈ st.log, e.sessionUuid = uuid) ∧ ∀ m ∈ messages, m.len ≠ 0))
  | .streamEnd uuid _ _ _ => inferInstanceAs (Decidable (∃ e ∈ st.log, e.sessionUuid = uuid))
  | .pathCall _ => isTrue trivial

/-- **A plain action goes through** and leaves all sessions sound. -/
theorem ServerState.Plain.exists_step {st : ServerState} (h : st.server.Sound)
    (htable : TableOk st.server st.log) {a : ServerAction} (hplain : st.Plain a) :
    ∃ st', serverStep st a = some st' ∧ st'.server.Sound := by
  cases a with
  | poll round =>
      obtain ⟨hfresh, hplain⟩ := hplain
      obtain ⟨server', hpoll, h'⟩ := h.exists_serverPoll htable hfresh hplain
      refine ⟨⟨server', st.log ++ round.written server'⟩, ?_, h'⟩
      rw [serverStep, if_pos hfresh, hpoll]
      rfl
  | streamSend uuid streamId messages sends =>
      obtain ⟨hknown, hne⟩ := hplain
      obtain ⟨r, hr, h', -⟩ := h.exists_sessionStreamSend htable hknown hne sends
      refine ⟨{ st with server := r.server }, ?_, h'⟩
      rw [serverStep, hr]
      rfl
  | streamEnd uuid streamId status send =>
      obtain ⟨r, hr, h', -⟩ := h.exists_sessionStreamEnd htable hplain streamId status send
      refine ⟨{ st with server := r.server }, ?_, h'⟩
      rw [serverStep, hr]
      rfl
  | pathCall call => exact ⟨_, rfl, h.congr rfl h.event⟩

/-- **The server does not abort on plain actions.** A run of them goes through, with any clients that
send no trailers, any hang-ups and any failures of `accept`, `recv` and `send`, and at its end the
loop of `ezgrpc2_server_free` does. What plain actions promise besides: the calls that
`session_create` asserts to succeed do, sockets, handles and addresses are fresh, and the application
uses handles of events and sends no empty message. In the model `nghttp2_submit_headers` and
allocations succeed. -/
theorem serverRun_completes (ipv4Sockfd ipv6Sockfd : ℤ) (maxConnections initialWindowSize : ℕ)
    (maxPaths : MaxPaths) {acts : List ServerAction}
    (hplain : Along serverStep ServerState.Plain
      (serverStart ipv4Sockfd ipv6Sockfd maxConnections initialWindowSize maxPaths) acts) :
    ∃ st, run serverStep
      (serverStart ipv4Sockfd ipv6Sockfd maxConnections initialWindowSize maxPaths) acts = some st ∧
      st.Frees := by
  obtain ⟨st, hrun, h, htable⟩ := hplain.exists_run
    (I := fun st => st.server.Sound ∧ TableOk st.server st.log)
    (fun st a _ hinv hplain => by
      obtain ⟨st', hstep, h'⟩ := hplain.exists_step hinv.1 hinv.2
      exact ⟨st', hstep, h', (hinv.2.step hstep).1⟩)
    ⟨⟨fun _ _ hslot => (nomatch hslot), fun _ _ => trivial⟩, serverStart_ok _ _ _ _ _⟩
  exact ⟨st, hrun, h.frees htable⟩

/-- A client connects and opens a stream, which is responded to and ended. The last frame of the response
stays in nghttp2. -/
def oneStream : List ServerAction :=
  opened ++ [.streamSend ⟨20, 2⟩ 1 [messageNew 0 [1, 2]] [⟨[.read 1 16384], 0⟩],
    .streamEnd ⟨20, 2⟩ 1 0 ⟨[.read 1 16384, .detach 1], 0⟩]

theorem serverRun_completes_one_stream :
    ∃ st, run serverStep (serverStart 3 (-1) 1 100 ⟨10, ten_mul_pathMaxLen_lt⟩) oneStream = some st ∧
      st.Frees :=
  serverRun_completes 3 (-1) 1 100 ⟨10, ten_mul_pathMaxLen_lt⟩ (by decide +kernel)

end Ezgrpc2
