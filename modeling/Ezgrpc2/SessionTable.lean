import Ezgrpc2.ServerSteps

/-! # The table of sessions

A handle is published in the events of its session; a worker may keep it for as long as it likes,
while the cell it names is freed and used again. `TableOk` ties the arrays `fds` and `sessions` to
the events written so far: a handle is connected from its CONNECT to its DISCONNECT, and the cells
that hold a session are those the connected handles name. `serverRun_table` says what follows for
`session_find` after any run. -/

namespace Ezgrpc2

open StepRuns

/-! ## (1) The invariant -/

/-- **The invariant of the table**, between rounds and between the cells of a round. -/
structure TableOk (server : Server) (log : List Event) : Prop where
  /-- The arrays `fds` and `sessions` run in parallel. -/
  nbFds : server.nbFds = server.nbSessions
  /-- A cell has a socket exactly when it holds a session. -/
  fd : ∀ i, 2 ≤ i → i < server.nbSessions →
    ((server.fds i).fd ≠ -1 ↔ (server.sessions i).session.isSome = true)
  /-- A session is in the cell its handle names, and it is connected. -/
  slot : ∀ i ez, (server.sessions i).session = some ez →
    ez.sessionUuid.index = i ∧ 2 ≤ i ∧ i < server.nbSessions ∧ Connected log ez.sessionUuid
  /-- A connected session is in its cell. -/
  connected : ∀ uuid, Connected log uuid →
    ∃ ez, (server.sessions uuid.index).session = some ez ∧ ez.sessionUuid = uuid
  /-- A handle that was published was issued, and names a cell. -/
  published : ∀ e ∈ log, connectEvent e.sessionUuid ∈ log ∧ 2 ≤ e.sessionUuid.index ∧
    e.sessionUuid.index < server.nbSessions
  /-- Every session has connected before anything else, and disconnected after everything else. -/
  lives : Lives log

namespace TableOk

variable {server server' : Server} {log es : List Event} {i : ℕ} {fd : ℤ} {ez ez' : Session}

/-- Only the sockets and the sessions matter. -/
theorem congr (h : TableOk server log) (hsame : server.SameCells server') : TableOk server' log where
  nbFds := by rw [hsame.nbFds, hsame.nbSessions, h.nbFds]
  fd j := by
    rw [hsame.fd, hsame.session, hsame.nbSessions]
    exact h.fd j
  slot j ez := by
    rw [hsame.session, hsame.nbSessions]
    exact h.slot j ez
  connected uuid := by
    rw [hsame.session]
    exact h.connected uuid
  published := by
    rw [hsame.nbSessions]
    exact h.published
  lives := h.lives

/-- **A cell changes** and events are written. The handles of the other cells are connected as before;
those of this one are connected when they are of the session that is there. -/
theorem update (h : TableOk server log) {session : Option Session}
    (hset : server.CellSet server' i fd session)
    (hfd : 2 ≤ i → i < server.nbSessions → (fd ≠ -1 ↔ session.isSome = true))
    (hslot : ∀ ez, session = some ez → ez.sessionUuid.index = i ∧ 2 ≤ i ∧ i < server.nbSessions)
    (hothers : ∀ uuid, uuid.index ≠ i → (Connected (log ++ es) uuid ↔ Connected log uuid))
    (hown : ∀ uuid, uuid.index = i → (Connected (log ++ es) uuid ↔
      ∃ ez, session = some ez ∧ ez.sessionUuid = uuid))
    (hes : ∀ e ∈ es, connectEvent e.sessionUuid ∈ log ++ es ∧ 2 ≤ e.sessionUuid.index ∧
      e.sessionUuid.index < server.nbSessions)
    (hlives : Lives (log ++ es)) : TableOk server' (log ++ es) := by
  constructor
  · rw [hset.nbFds, hset.nbSessions, h.nbFds]
  · intro j hj hjlt
    rw [hset.nbSessions] at hjlt
    rw [hset.fd, hset.session]
    by_cases hji : j = i
    · rw [if_pos hji, if_pos hji]
      exact hfd (hji ▸ hj) (hji ▸ hjlt)
    · rw [if_neg hji, if_neg hji]
      exact h.fd j hj hjlt
  · intro j ez hj
    rw [hset.session] at hj
    rw [hset.nbSessions]
    by_cases hji : j = i
    · rw [if_pos hji] at hj
      obtain ⟨hindex, hi, hlt⟩ := hslot ez hj
      rw [hji]
      exact ⟨hindex, hi, hlt, (hown _ hindex).mpr ⟨ez, hj, rfl⟩⟩
    · rw [if_neg hji] at hj
      obtain ⟨hindex, hj2, hjlt, hcon⟩ := h.slot j ez hj
      exact ⟨hindex, hj2, hjlt, (hothers _ (hindex ▸ hji)).mpr hcon⟩
  · intro uuid hcon
    rw [hset.session]
    -- the other cells are as before, and so are the handles that name them
    by_cases hindex : uuid.index = i
    · rw [if_pos hindex]
      exact (hown uuid hindex).mp hcon
    · rw [if_neg hindex]
      exact h.connected uuid ((hothers uuid hindex).mp hcon)
  · intro e he
    rw [hset.nbSessions]
    rcases List.mem_append.mp he with hold | hnew
    · obtain ⟨hcon, hbounds⟩ := h.published e hold
      exact ⟨List.mem_append_left _ hcon, hbounds⟩
    · exact hes e hnew
  · exact hlives

/-- **A session is added** in a free cell, under a new handle. -/
theorem connect (h : TableOk server log) (hi : 2 ≤ i) (hlt : i < server.nbSessions)
    (hfree : (server.sessions i).session = none) (hindex : ez.sessionUuid.index = i)
    (hnew : ez.sessionUuid.uuid ∉ drawn log) (hfd : fd ≠ -1)
    (hset : server.CellSet server' i fd (some ez)) :
    TableOk server' (log ++ [connectEvent ez.sessionUuid]) := by
  have hconnected := connected_append_connect hnew
  refine h.update hset (fun _ _ => ⟨fun _ => rfl, fun _ => hfd⟩) ?_ ?_ ?_ ?_ (h.lives.connect hnew)
  · intro ez' heq
    obtain rfl := Option.some.inj heq
    exact ⟨hindex, hi, hlt⟩
  · intro uuid hne
    rw [hconnected]
    exact or_iff_left fun heq => hne (heq ▸ hindex)
  · intro uuid huuid
    rw [hconnected]
    constructor
    · rintro (hold | rfl)
      · -- the cell was free, so no handle that names it was connected
        obtain ⟨ez', hslot, -⟩ := h.connected uuid hold
        rw [huuid, hfree] at hslot
        cases hslot
      · exact ⟨ez, rfl, rfl⟩
    · rintro ⟨ez', heq, rfl⟩
      obtain rfl := Option.some.inj heq
      exact Or.inr rfl
  · intro e he
    rw [List.mem_singleton.mp he]
    exact ⟨List.mem_append_right _ List.mem_cons_self, hindex ▸ hi, hindex ▸ hlt⟩

/-- **A session that is freed** leaves a table in order, with its DISCONNECT in the log. -/
theorem disconnect (h : TableOk server log) (hslot : (server.sessions i).session = some ez)
    (hset : server.CellSet server' i (-1) none) :
    TableOk server' (log ++ [disconnectEvent ez.sessionUuid]) := by
  obtain ⟨hindex, hi, hlt, hcon⟩ := h.slot i ez hslot
  have hconnected := connected_append_disconnect log ez.sessionUuid
  refine h.update hset (fun _ _ => ⟨fun hne => absurd rfl hne, fun hsome => absurd hsome ?_⟩)
    (fun ez' heq => absurd heq (Option.some_ne_none ez').symm) ?_ ?_ ?_ (h.lives.disconnect hcon)
  · exact Bool.false_ne_true
  · intro uuid hne
    rw [hconnected]
    exact and_iff_left fun heq => hne (heq ▸ hindex)
  · intro uuid huuid
    rw [hconnected]
    constructor
    · -- the handle that names the cell is the one that disconnects
      rintro ⟨hold, hne⟩
      obtain ⟨ez', hslot', heq⟩ := h.connected uuid hold
      rw [huuid, hslot, Option.some.injEq] at hslot'
      exact absurd (by rw [← heq, hslot']) hne
    · rintro ⟨ez', heq, -⟩
      exact absurd heq (Option.some_ne_none ez').symm
  · intro e he
    rw [List.mem_singleton.mp he]
    exact ⟨List.mem_append_left _ hcon.1, hindex ▸ hi, hindex ▸ hlt⟩

/-- **A session that is served** leaves a table in order, with the events of its streams in the
log. -/
theorem serve (h : TableOk server log) (hslot : (server.sessions i).session = some ez)
    (huuid : ez'.sessionUuid = ez.sessionUuid) (hes : OfStreams ez.sessionUuid es)
    (hset : server.CellSet server' i (server.fds i).fd (some ez')) :
    TableOk server' (log ++ es) := by
  obtain ⟨hindex, hi, hlt, hcon⟩ := h.slot i ez hslot
  have hconnected := connected_append_ofStreams log hes
  refine h.update hset (fun hi hlt => ?_) ?_ (fun uuid _ => hconnected uuid) ?_ ?_
    (h.lives.serve hcon hes)
  · rw [h.fd i hi hlt, hslot]
    exact ⟨fun _ => rfl, fun _ => rfl⟩
  · intro ez₁ heq
    obtain rfl := Option.some.inj heq
    exact ⟨huuid ▸ hindex, hi, hlt⟩
  · intro uuid hidx
    rw [hconnected]
    constructor
    · intro hold
      obtain ⟨ez₁, hslot', heq⟩ := h.connected uuid hold
      rw [hidx, hslot, Option.some.injEq] at hslot'
      exact ⟨ez', rfl, by rw [huuid, hslot', heq]⟩
    · rintro ⟨ez₁, heq, rfl⟩
      obtain rfl := Option.some.inj heq
      rw [huuid]
      exact hcon
  · intro e he
    rw [(hes e he).1, hindex]
    exact ⟨List.mem_append_left _ hcon.1, hi, hlt⟩

end TableOk

/-! ## (2) A round -/

namespace TableOk

variable {server server' : Server} {log : List Event} {i : ℕ}

/-- What a part of a round does: it writes `es` and the table is in order behind it. -/
structure Leads (server server' : Server) (log es : List Event) : Prop where
  /-- The events are written behind the unread ones. -/
  unread : server'.events.unread = server.events.unread ++ es
  /-- The table is in order, with the events in the log. -/
  table : TableOk server' (log ++ es)
  /-- The number of cells is as before. -/
  nbSessions : server'.nbSessions = server.nbSessions

theorem Leads.refl (h : TableOk server log) : Leads server server log [] where
  unread := (List.append_nil _).symm
  table := by rwa [List.append_nil]
  nbSessions := rfl

theorem Leads.trans {server₁ : Server} {es es' : List Event} (h : Leads server server₁ log es)
    (h' : Leads server₁ server' (log ++ es) es') : Leads server server' log (es ++ es') where
  unread := by rw [h'.unread, h.unread, List.append_assoc]
  table := by
    rw [← List.append_assoc]
    exact h'.table
  nbSessions := h'.nbSessions.trans h.nbSessions

/-- **A listener**, whatever comes of its accept. -/
theorem pollListener (h : TableOk server log) {acc : Accept} (hnew : acc.uuid ∉ drawn log)
    (hpoll : Ezgrpc2.pollListener server i acc = some server') :
    ∃ es, Leads server server' log es ∧ ∀ e ∈ es, e.sessionUuid.uuid = acc.uuid := by
  have hnone : ∀ e ∈ ([] : List Event), e.sessionUuid.uuid = acc.uuid := fun _ he => (nomatch he)
  rcases pollListener_cases hpoll with rfl | ⟨hconfd, hrefused | ⟨k, hadded⟩⟩
  · exact ⟨[], .refl h, hnone⟩
  · refine ⟨[], ⟨?_, ?_, hrefused.cells.nbSessions⟩, hnone⟩
    · rw [hrefused.events, List.append_nil]
    · rw [List.append_nil]
      exact h.congr hrefused.cells
  · have hlt : k < server.nbSessions := by
      rw [← h.nbFds]
      exact hadded.lt
    have hempty : (server.sessions k).session = none := by
      have hfd := h.fd k hadded.two_le hlt
      rw [hadded.free] at hfd
      exact Option.not_isSome_iff_eq_none.mp fun hsome => hfd.mpr hsome rfl
    refine ⟨[connectEvent ⟨acc.uuid, k⟩], ⟨?_, ?_, hadded.cell.nbSessions⟩, ?_⟩
    · rw [hadded.events]
      exact unread_eventsWrite _ _
    · exact h.connect hadded.two_le hlt hempty rfl hnew hconfd hadded.cell
    · intro e he
      rw [List.mem_singleton.mp he]
      rfl

/-- **A cell of the loop**: its session is freed, served, or served and freed. -/
theorem pollCell (h : TableOk server log) {round : Round}
    (hpoll : Ezgrpc2.pollCell round server i = some server') :
    ∃ es, Leads server server' log es := by
  rcases pollCell_cases hpoll with
    ⟨-, ez, hslot, hhung⟩ | ⟨-, ⟨-, rfl⟩ | ⟨ez, hslot, ⟨ez', es, hserved⟩ | ⟨es, hended⟩⟩⟩
  · refine ⟨[disconnectEvent ez.sessionUuid], ?_, h.disconnect hslot hhung.cell,
      hhung.cell.nbSessions⟩
    rw [hhung.events]
    exact unread_eventsWrite _ _
  · exact ⟨[], .refl h⟩
  · exact ⟨es, hserved.unread, h.serve hslot hserved.same.sessionUuid hserved.ofStreams hserved.cell,
      hserved.cell.nbSessions⟩
  · -- the events come first, then the session is freed
    have hserve := h.serve hslot rfl hended.ofStreams (Server.cellSet_self hslot)
    refine ⟨es ++ [disconnectEvent ez.sessionUuid], ?_, ?_, hended.cell.nbSessions⟩
    · rw [hended.unread, List.append_assoc]
    · rw [← List.append_assoc]
      exact hserve.disconnect hslot hended.cell

/-- The loop over the cells leaves a table in order. -/
theorem pollCells (h : TableOk server log) {round : Round} {is : List ℕ}
    (hpoll : Ezgrpc2.pollCells round server is = some server') :
    ∃ es, Leads server server' log es := by
  induction is generalizing server log with
  | nil =>
      cases hpoll
      exact ⟨[], .refl h⟩
  | cons i is ih =>
      obtain ⟨server₁, hcell, hrest⟩ := Option.bind_eq_some_iff.mp hpoll
      obtain ⟨es, hleads⟩ := h.pollCell hcell
      obtain ⟨es', hleads'⟩ := ih hleads.table hrest
      exact ⟨es ++ es', hleads.trans hleads'⟩

/-- The two listeners. The handle of the second session is not that of the first. -/
theorem pollListeners (h : TableOk server log) {acc4 acc6 : Accept} {server₁ : Server} {j : ℕ}
    (hnew4 : acc4.uuid ∉ drawn log) (hnew6 : acc6.uuid ∉ drawn log) (hne : acc6.uuid ≠ acc4.uuid)
    (hlisten4 : Ezgrpc2.pollListener server i acc4 = some server₁)
    (hlisten6 : Ezgrpc2.pollListener server₁ j acc6 = some server') :
    ∃ es, Leads server server' log es := by
  obtain ⟨es₁, hleads₁, hes₁⟩ := h.pollListener hnew4 hlisten4
  have hnew6' : acc6.uuid ∉ drawn (log ++ es₁) := by
    rw [drawn, List.map_append, List.mem_append]
    rintro (hmem | hmem)
    · exact hnew6 hmem
    · obtain ⟨e, he, heq⟩ := List.mem_map.mp hmem
      rw [hes₁ e he] at heq
      exact hne heq.symm
  obtain ⟨es₂, hleads₂, -⟩ := hleads₁.table.pollListener hnew6' hlisten6
  exact ⟨es₁ ++ es₂, hleads₁.trans hleads₂⟩

/-- **A round of the server** leaves a table in order, with its events in the log. -/
theorem serverPoll (h : TableOk server log) {round : Round} {ret : ℤ}
    (hnew4 : round.ipv4.uuid ∉ drawn log) (hnew6 : round.ipv6.uuid ∉ drawn log)
    (hne : round.ipv6.uuid ≠ round.ipv4.uuid)
    (hpoll : Ezgrpc2.serverPoll server round = some (ret, server')) :
    ∃ es, TableOk server' (log ++ es) ∧ server'.nbSessions = server.nbSessions ∧
      if round.ready ≤ 0 then es = [] else server'.events.unread = round.events.unread ++ es := by
  rw [Ezgrpc2.serverPoll] at hpoll
  dsimp only at hpoll
  by_cases hready : round.ready ≤ 0
  · rw [if_pos hready] at hpoll
    cases hpoll
    refine ⟨[], ?_, rfl, ?_⟩
    · rw [List.append_nil]
      exact h.congr ⟨rfl, rfl, fun _ => rfl, fun _ => rfl⟩
    · rw [if_pos hready]
  · rw [if_neg hready] at hpoll
    obtain ⟨server₁, hlisten4, hpoll⟩ := Option.bind_eq_some_iff.mp hpoll
    obtain ⟨server₂, hlisten6, hpoll⟩ := Option.bind_eq_some_iff.mp hpoll
    obtain ⟨server₃, hcells, hpoll⟩ := Option.bind_eq_some_iff.mp hpoll
    cases hpoll
    -- the queue and the results of `poll` are stored first
    have hstart : TableOk
        { server with
          fds := fun i => { server.fds i with revents := round.revents i }
          events := round.events } log := h.congr ⟨rfl, rfl, fun _ => rfl, fun _ => rfl⟩
    obtain ⟨es₁, hleads₁⟩ := hstart.pollListeners hnew4 hnew6 hne hlisten4 hlisten6
    obtain ⟨es₂, hleads₂⟩ := hleads₁.table.pollCells hcells
    have hleads := hleads₁.trans hleads₂
    refine ⟨es₁ ++ es₂, hleads.table, hleads.nbSessions, ?_⟩
    rw [if_neg hready]
    exact hleads.unread

/-- A session that changes in place keeps the table in order. -/
theorem setSession (h : TableOk server log) {ez ez' : Session}
    (hslot : (server.sessions i).session = some ez) (huuid : ez'.sessionUuid = ez.sessionUuid) :
    TableOk (server.setSession i ez') log := by
  have hnone : OfStreams ez.sessionUuid [] := fun _ he => (nomatch he)
  have hserve := h.serve hslot huuid hnone (server.cellSet_setSession i ez')
  rwa [List.append_nil] at hserve

/-- A call of the application keeps the table in order. -/
theorem call (h : TableOk server log)
    (hcases : server' = server ∨ ∃ i ez ez', (server.sessions i).session = some ez ∧ ez.Same ez' ∧
      server' = server.setSession i ez') :
    TableOk server' log ∧ server'.nbSessions = server.nbSessions := by
  rcases hcases with rfl | ⟨i, ez, ez', hslot, hsame, rfl⟩
  · exact ⟨h, rfl⟩
  · exact ⟨h.setSession hslot hsame.sessionUuid, rfl⟩

end TableOk

/-! ## (3) Runs -/

/-- A round, or a call of the application between two rounds. -/
inductive ServerAction where
  /-- A round of `ezgrpc2_server_poll`, with what it meets. -/
  | poll (round : Round)
  /-- A call of `ezgrpc2_server_session_stream_send` with messages. -/
  | streamSend (sessionUuid : SessionUuid) (streamId : ℤ) (messages : List Message)
      (sends : List NgSend)
  /-- A call of `ezgrpc2_server_session_stream_end` with a status. -/
  | streamEnd (sessionUuid : SessionUuid) (streamId : ℤ) (status : ℤ) (send : NgSend)
  /-- A call of `ezgrpc2_server_register_path` or `ezgrpc2_server_unregister_path`. -/
  | pathCall (call : PathCall)

/-- The server with the events it has written. -/
structure ServerState where
  /-- The server as the actions left it. -/
  server : Server
  /-- The events, from the first round on. -/
  log : List Event

/-- `uuid_generate_random` does not return a value for the second time. -/
def Round.Fresh (round : Round) (log : List Event) : Prop :=
  round.ipv4.uuid ∉ drawn log ∧ round.ipv6.uuid ∉ drawn log ∧ round.ipv6.uuid ≠ round.ipv4.uuid

instance (round : Round) (log : List Event) : Decidable (round.Fresh log) :=
  inferInstanceAs (Decidable (_ ∧ _ ∧ _))

/-- The events a round has written: those behind the ones its queue held before. -/
def Round.written (round : Round) (server : Server) : List Event :=
  if round.ready ≤ 0 then [] else server.events.unread.drop round.events.unread.length

/-- One step; `none` is an abort of the server. -/
def serverStep (st : ServerState) : ServerAction → Option ServerState
  | .poll round =>
      if round.Fresh st.log then do
        let (_, server) ← serverPoll st.server round
        some ⟨server, st.log ++ round.written server⟩
      else none
  | .streamSend uuid streamId messages sends => do
      let r ← sessionStreamSend st.server uuid streamId messages sends
      some { st with server := r.server }
  | .streamEnd uuid streamId status send => do
      let r ← sessionStreamEnd st.server uuid streamId status send
      some { st with server := r.server }
  | .pathCall call =>
      some { st with server := { st.server with table := (st.server.table.call call).2 } }

/-- A new server, with an empty log. -/
def serverStart (ipv4Sockfd ipv6Sockfd : ℤ) (maxConnections initialWindowSize : ℕ)
    (maxPaths : MaxPaths) : ServerState :=
  ⟨serverNew ipv4Sockfd ipv6Sockfd maxConnections initialWindowSize maxPaths, []⟩

theorem serverStart_ok (ipv4Sockfd ipv6Sockfd : ℤ) (maxConnections initialWindowSize : ℕ)
    (maxPaths : MaxPaths) :
    TableOk (serverNew ipv4Sockfd ipv6Sockfd maxConnections initialWindowSize maxPaths) [] where
  nbFds := rfl
  fd i hi _ := by
    have hfd : ((serverNew ipv4Sockfd ipv6Sockfd maxConnections initialWindowSize
        maxPaths).fds i).fd = -1 := by
      show (if i = 0 then ipv4Sockfd else if i = 1 then ipv6Sockfd else -1) = -1
      rw [if_neg (by omega), if_neg (by omega)]
    rw [hfd]
    exact ⟨fun hne => absurd rfl hne, fun hsome => (nomatch hsome)⟩
  slot _ _ hslot := nomatch hslot
  connected _ hcon := nomatch hcon.1
  published _ he := nomatch he
  lives := lives_nil

/-- **Every step keeps the table in order.** -/
theorem TableOk.step {st st' : ServerState} (h : TableOk st.server st.log) {a : ServerAction}
    (hstep : serverStep st a = some st') :
    TableOk st'.server st'.log ∧ st'.server.nbSessions = st.server.nbSessions := by
  cases a with
  | poll round =>
      rw [serverStep] at hstep
      split at hstep
      · next hfresh =>
          obtain ⟨⟨ret, server⟩, hpoll, hstep⟩ := Option.bind_eq_some_iff.mp hstep
          cases hstep
          obtain ⟨hnew4, hnew6, hne⟩ := hfresh
          obtain ⟨es, htable, hnb, hunread⟩ := h.serverPoll hnew4 hnew6 hne hpoll
          refine ⟨?_, hnb⟩
          -- `poll` writes behind the events its queue holds, and none when it finds nothing
          have hes : round.written server = es := by
            rw [Round.written]
            by_cases hready : round.ready ≤ 0
            · rw [if_pos hready] at hunread ⊢
              exact hunread.symm
            · rw [if_neg hready] at hunread ⊢
              rw [hunread, List.drop_left]
          rw [hes]
          exact htable
      · cases hstep
  | streamSend uuid streamId messages sends =>
      obtain ⟨r, hr, hstep⟩ := Option.bind_eq_some_iff.mp hstep
      cases hstep
      exact h.call (sessionStreamSend_cases hr)
  | streamEnd uuid streamId status send =>
      obtain ⟨r, hr, hstep⟩ := Option.bind_eq_some_iff.mp hstep
      cases hstep
      exact h.call (sessionStreamEnd_cases hr)
  | pathCall call =>
      cases hstep
      exact ⟨h.congr ⟨rfl, rfl, fun _ => rfl, fun _ => rfl⟩, rfl⟩

/-- The invariant holds in every reachable state. -/
theorem serverRun_tableOk {ipv4Sockfd ipv6Sockfd : ℤ} {maxConnections initialWindowSize : ℕ}
    {maxPaths : MaxPaths} {st : ServerState}
    (h : Reachable serverStep
      (serverStart ipv4Sockfd ipv6Sockfd maxConnections initialWindowSize maxPaths) st) :
    TableOk st.server st.log ∧ st.server.nbSessions = sizeT (maxConnections + 2) := by
  refine h.invariant (I := fun st => TableOk st.server st.log ∧
    st.server.nbSessions = sizeT (maxConnections + 2)) ⟨serverStart_ok _ _ _ _ _, rfl⟩ ?_
  rintro st a st' ⟨htable, hnb⟩ hstep
  obtain ⟨htable', hnb'⟩ := htable.step hstep
  exact ⟨htable', hnb'.trans hnb⟩

/-- **The table is sound**: what `session_find` and the arrays say about the handles published. -/
structure ServerState.TableSound (st : ServerState) (maxConnections : ℕ) : Prop where
  /-- A session is connected exactly while it is in the cell its handle names. -/
  connected : ∀ uuid, Connected st.log uuid ↔
    ∃ ez, (st.server.sessions uuid.index).session = some ez ∧ ez.sessionUuid = uuid
  /-- The handle of a connected session is found, in the cell where the session is. -/
  found : ∀ e ∈ st.log, Connected st.log e.sessionUuid →
    sessionFind st.server.sessions st.server.nbSessions e.sessionUuid
      = some (some e.sessionUuid.index)
  /-- Any other handle is not found, and the assertion holds for it too. -/
  stale : ∀ e ∈ st.log, ¬Connected st.log e.sessionUuid →
    sessionFind st.server.sessions st.server.nbSessions e.sessionUuid = some none
  /-- A cell has a socket exactly when it holds a session with its own index. -/
  fd : ∀ i, 2 ≤ i → i < st.server.nbFds → ((st.server.fds i).fd ≠ -1 ↔
    ∃ ez, (st.server.sessions i).session = some ez ∧ ez.sessionUuid.index = i)
  /-- There are no more sessions than connections allowed. -/
  count : ((List.range st.server.nbSessions).filter fun i =>
    (st.server.sessions i).session.isSome).length ≤ maxConnections

/-- A handle is found exactly when it is connected. -/
theorem TableOk.sessionFind_eq {server : Server} {log : List Event} (h : TableOk server log)
    {e : Event} (he : e ∈ log) :
    (Connected log e.sessionUuid → sessionFind server.sessions server.nbSessions e.sessionUuid
        = some (some e.sessionUuid.index)) ∧
      (¬Connected log e.sessionUuid →
        sessionFind server.sessions server.nbSessions e.sessionUuid = some none) := by
  obtain ⟨-, hi, hlt⟩ := h.published e he
  rw [sessionFind, if_neg (not_not.mpr hlt)]
  constructor
  · intro hcon
    obtain ⟨ez, hslot, heq⟩ := h.connected _ hcon
    rw [if_pos]
    rw [sessionUuidIsEqual_iff, Slot.sessionUuid, hslot]
    exact heq.symm
  · intro hcon
    rw [if_neg]
    rw [sessionUuidIsEqual_iff, Slot.sessionUuid]
    cases hslot : (server.sessions e.sessionUuid.index).session with
    | none =>
        -- a zeroed cell has the index 0
        intro heq
        have hzero : e.sessionUuid.index = 0 := congrArg SessionUuid.index heq
        omega
    | some ez =>
        intro heq
        obtain ⟨-, -, -, hez⟩ := h.slot _ ez hslot
        exact hcon (by rw [heq]; exact hez)

/-- The cells that hold a session are cells of clients. -/
theorem TableOk.count_le {server : Server} {log : List Event} (h : TableOk server log) :
    ((List.range server.nbSessions).filter fun i =>
      (server.sessions i).session.isSome).length ≤ server.nbSessions - 2 := by
  have hsub : (List.range server.nbSessions).filter (fun i => (server.sessions i).session.isSome)
      ⊆ List.range' 2 (server.nbSessions - 2) := by
    intro i hi
    obtain ⟨-, hsome⟩ := List.mem_filter.mp hi
    obtain ⟨ez, hslot⟩ := Option.isSome_iff_exists.mp hsome
    obtain ⟨-, hi2, hlt, -⟩ := h.slot i ez hslot
    rw [List.mem_range'_1]
    omega
  have hle := (List.subperm_of_subset (List.nodup_range.filter _) hsub).length_le
  rwa [List.length_range'] at hle

/-- **Handles are exact.** After any rounds, with any accepts, failures, hang-ups and errors, and any
calls between them: `session_find` finds a published handle exactly while its session is connected,
and then in its cell; a client cell has a socket exactly when it holds a session under its own index;
and there are at most `max_connections` sessions. -/
theorem serverRun_table (ipv4Sockfd ipv6Sockfd : ℤ) (maxConnections initialWindowSize : ℕ)
    (maxPaths : MaxPaths) {st : ServerState}
    (h : Reachable serverStep
      (serverStart ipv4Sockfd ipv6Sockfd maxConnections initialWindowSize maxPaths) st) :
    st.TableSound maxConnections := by
  obtain ⟨htable, hnb⟩ := serverRun_tableOk h
  refine ⟨?_, fun e he => (htable.sessionFind_eq he).1, fun e he => (htable.sessionFind_eq he).2,
    ?_, ?_⟩
  · intro uuid
    refine ⟨htable.connected uuid, ?_⟩
    rintro ⟨ez, hslot, rfl⟩
    exact (htable.slot _ ez hslot).2.2.2
  · intro i hi hlt
    rw [htable.nbFds] at hlt
    rw [htable.fd i hi hlt, Option.isSome_iff_exists]
    constructor
    · rintro ⟨ez, hslot⟩
      exact ⟨ez, hslot, (htable.slot i ez hslot).1⟩
    · rintro ⟨ez, hslot, -⟩
      exact ⟨ez, hslot⟩
  · have hle := htable.count_le
    have hsize : sizeT (maxConnections + 2) ≤ maxConnections + 2 := by
      rw [sizeT]
      exact Nat.mod_le _ _
    omega

/-- A round in which `poll` finds `revents` at the socket of cell `i`; `serverNew` is whether a
session can be created. -/
def roundOne (uuid i revents : ℕ) (serverNew : Bool) : ServerAction :=
  .poll
    { ready := 1
      revents := fun j => if j = i then revents else 0
      events := eventsNew
      ipv4 := ⟨9, true, serverNew, true, uuid⟩
      ipv6 := ⟨9, true, true, true, uuid + 1⟩
      exchange := fun _ => ⟨true, false, [], 0, []⟩ }

/-- One connection at a time: a client comes and hangs up, and the next one, after a failed
`session_create`, gets the same cell. -/
theorem serverRun_table_one_connection :
    ∃ st, run serverStep (serverStart 3 (-1) 1 100 ⟨10, by decide⟩)
        [roundOne 20 0 pollin true, roundOne 22 2 pollrdhup true, roundOne 24 0 pollin false,
          roundOne 26 0 pollin true] = some st ∧
      st.log = [connectEvent ⟨20, 2⟩, disconnectEvent ⟨20, 2⟩, connectEvent ⟨26, 2⟩] ∧
      st.TableSound 1 := by
  have hlog : (run serverStep (serverStart 3 (-1) 1 100 ⟨10, by decide⟩)
      [roundOne 20 0 pollin true, roundOne 22 2 pollrdhup true, roundOne 24 0 pollin false,
        roundOne 26 0 pollin true]).map ServerState.log
      = some [connectEvent ⟨20, 2⟩, disconnectEvent ⟨20, 2⟩, connectEvent ⟨26, 2⟩] := by
    decide +kernel
  obtain ⟨st, hrun, hlog⟩ := Option.map_eq_some_iff.mp hlog
  exact ⟨st, hrun, hlog, serverRun_table 3 (-1) 1 100 ⟨10, by decide⟩ ⟨_, hrun⟩⟩

/-! ## (4) The events of a session -/

/-- **Every session lives in order**: its events are a CONNECT, those of its streams and a
DISCONNECT. -/
structure ServerState.LivesInOrder (st : ServerState) : Prop where
  /-- The events of a session are a prefix of a CONNECT, events of its streams and a DISCONNECT. -/
  ordered : ∀ uuid, ∃ es, OfStreams uuid es ∧
    eventsOf uuid st.log <+: connectEvent uuid :: es ++ [disconnectEvent uuid]
  /-- A session that is in no cell any more has all of them. -/
  released : ∀ uuid, connectEvent uuid ∈ st.log →
    (∀ i ez, (st.server.sessions i).session = some ez → ez.sessionUuid ≠ uuid) →
    ∃ es, OfStreams uuid es ∧
      eventsOf uuid st.log = connectEvent uuid :: es ++ [disconnectEvent uuid]

/-- **The events of a session come in order.** In every run, whatever sessions come and go in the
cells, no event of a session is written before its CONNECT or behind its DISCONNECT, neither is
written twice, and a session that has left its cell has got its DISCONNECT. -/
theorem serverRun_livesInOrder (ipv4Sockfd ipv6Sockfd : ℤ) (maxConnections initialWindowSize : ℕ)
    (maxPaths : MaxPaths) {st : ServerState}
    (h : Reachable serverStep
      (serverStart ipv4Sockfd ipv6Sockfd maxConnections initialWindowSize maxPaths) st) :
    st.LivesInOrder := by
  obtain ⟨htable, -⟩ := serverRun_tableOk h
  constructor
  · intro uuid
    have hlife := htable.lives uuid
    revert hlife
    generalize eventsOf uuid st.log = own
    intro hlife
    cases hlife with
    | unborn => exact ⟨[], fun _ he => (nomatch he), List.nil_prefix⟩
    | live hes => exact ⟨_, hes, List.prefix_append _ _⟩
    | dead hes => exact ⟨_, hes, List.prefix_rfl⟩
  · intro uuid hconnect hgone
    -- a session that is connected would be in its cell
    have hcon : ¬Connected st.log uuid := by
      intro hcon
      obtain ⟨ez, hslot, heq⟩ := htable.connected uuid hcon
      exact hgone _ ez hslot heq
    have hmem : connectEvent uuid ∈ eventsOf uuid st.log := mem_eventsOf.mpr ⟨hconnect, rfl⟩
    have hdisconnect : disconnectEvent uuid ∈ eventsOf uuid st.log := by
      by_contra hnot
      exact hcon ⟨hconnect, fun hin => hnot (mem_eventsOf.mpr ⟨hin, rfl⟩)⟩
    have hlife := htable.lives uuid
    revert hlife hmem hdisconnect
    generalize eventsOf uuid st.log = own
    intro hmem hdisconnect hlife
    cases hlife with
    | unborn => cases hmem
    | live hes =>
        rcases List.mem_cons.mp hdisconnect with heq | hin
        · exact nomatch congrArg Event.kind heq
        · exact nomatch (hes _ hin).2
    | dead hes => exact ⟨_, hes, rfl⟩

/-- A round in which the client of cell 2 sends a request with one message. -/
def roundRequest (uuid : ℕ) : ServerAction :=
  .poll
    { ready := 1
      revents := fun j => if j = 2 then pollin else 0
      events := eventsNew
      ipv4 := ⟨-1, true, true, true, uuid⟩
      ipv6 := ⟨-1, true, true, true, uuid + 1⟩
      exchange := fun _ =>
        ⟨true, false, [.beginHeaders 1 16 fun _ => 0,
          .header ⟨1, .headers, 0, 0⟩ (bytesOf ":path") (bytesOf "/a"),
          .dataChunk 1 [0, 0, 0, 0, 0], .frameRecv ⟨1, .data, 1, 5⟩], 0, []⟩ }

/-- A client connects, sends a message and hangs up; the next one gets its cell. -/
theorem serverRun_livesInOrder_reuse :
    ∃ st, run serverStep (serverStart 3 (-1) 1 100 ⟨10, by decide⟩)
        [.pathCall (.register ⟨[47, 97], by decide⟩ 9 0 0), roundOne 20 0 pollin true,
          roundRequest 22, roundOne 24 2 pollrdhup true, roundOne 26 0 pollin true] = some st ∧
      (eventsOf ⟨20, 2⟩ st.log).length = 3 ∧ eventsOf ⟨26, 2⟩ st.log = [connectEvent ⟨26, 2⟩] ∧
      st.LivesInOrder := by
  have hlog : (run serverStep (serverStart 3 (-1) 1 100 ⟨10, by decide⟩)
      [.pathCall (.register ⟨[47, 97], by decide⟩ 9 0 0), roundOne 20 0 pollin true,
        roundRequest 22, roundOne 24 2 pollrdhup true, roundOne 26 0 pollin true]).map (fun st =>
        ((eventsOf ⟨20, 2⟩ st.log).length, eventsOf ⟨26, 2⟩ st.log))
      = some (3, [connectEvent ⟨26, 2⟩]) := by
    decide +kernel
  obtain ⟨st, hrun, hlog⟩ := Option.map_eq_some_iff.mp hlog
  rw [Prod.mk.injEq] at hlog
  exact ⟨st, hrun, hlog.1, hlog.2, serverRun_livesInOrder 3 (-1) 1 100 ⟨10, by decide⟩ ⟨_, hrun⟩⟩

end Ezgrpc2
