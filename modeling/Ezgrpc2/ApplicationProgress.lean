import Ezgrpc2.ApplicationServer

/-! # The application does not abort

`main` keeps what the library asks of it: it registers all paths it looks up in an event, uses the
handles of events only and sends no empty message. So every step it has to make goes through as long
as clients send no trailers (`appRun_completes`): no assertion of the library fails, no pointer is null
or dangling, and at its end the loop of `ezgrpc2_server_free` goes through too. -/

namespace Ezgrpc2

open CStrings FlatMemory Handles StepRuns

/-! ## (1) A step goes through -/

/-- The steps of `main`, by the point it is at. -/
def MainPoint.awaits : MainPoint → AppAction → Bool
  | .loop, .sigterm | .loop, .serverPoll _ | .events [], .eventsRead | .events (_ :: _), .event _
  | .poll _, .pthpoolPoll | .results _ (_ :: _), .result _ | .results _ [], .resultsEnd => true
  | _, _ => false

/-- The steps that `main` may have to make at each of its points. -/
theorem awaits_eq_true {point : MainPoint} {a : AppAction} (h : point.awaits a = true) :
    (point = .loop ∧ (a = .sigterm ∨ ∃ round, a = .serverPoll round)) ∨
    (point = .events [] ∧ a = .eventsRead) ∨
    (∃ event left hand, point = .events (event :: left) ∧ a = .event hand) ∨
    (∃ name, point = .poll name ∧ a = .pthpoolPoll) ∨
    (∃ name result left hand, point = .results name (result :: left) ∧ a = .result hand) ∨
    (∃ name, point = .results name [] ∧ a = .resultsEnd) := by
  unfold MainPoint.awaits at h
  split at h
  · exact Or.inl ⟨rfl, Or.inl rfl⟩
  · exact Or.inl ⟨rfl, Or.inr ⟨_, rfl⟩⟩
  · exact Or.inr (Or.inl ⟨rfl, rfl⟩)
  · exact Or.inr (Or.inr (Or.inl ⟨_, _, _, rfl, rfl⟩))
  · exact Or.inr (Or.inr (Or.inr (Or.inl ⟨_, rfl, rfl⟩)))
  · exact Or.inr (Or.inr (Or.inr (Or.inr (Or.inl ⟨_, _, _, _, rfl, rfl⟩))))
  · exact Or.inr (Or.inr (Or.inr (Or.inr (Or.inr ⟨_, rfl, rfl⟩))))
  · cases h

/-- **A plain step**: it is the turn of `main`, or the worker can make it. Handles and addresses are
fresh, the calls behind an accept succeed, and clients send no trailers. -/
def App.Plain (app : App) (a : AppAction) : Prop :=
  match a with
  | .serverPoll round =>
      app.point.awaits a = true ∧
        Round.Fresh { round with events := app.server.events } app.written ∧
        Round.Plain { round with events := app.server.events } app.server
  | .event h => app.point.awaits a = true ∧ app.heap h.addr = none
  | .worker name i => (poolStep (app.pools name).base (.worker i)).isSome = true
  | .exec name i now _ => (poolStep (app.pools name).base (.exec i now none)).isSome = true
  | .sigterm | .eventsRead | .pthpoolPoll | .result _ | .resultsEnd => app.point.awaits a = true

instance (app : App) : (a : AppAction) → Decidable (app.Plain a)
  | .serverPoll round => inferInstanceAs (Decidable (app.point.awaits (.serverPoll round) = true ∧
      Round.Fresh { round with events := app.server.events } app.written ∧
      Round.Plain { round with events := app.server.events } app.server))
  | .event h => inferInstanceAs (Decidable (app.point.awaits (.event h) = true ∧ app.heap h.addr = none))
  | .worker name i =>
      inferInstanceAs (Decidable ((poolStep (app.pools name).base (.worker i)).isSome = true))
  | .exec name i now _ =>
      inferInstanceAs (Decidable ((poolStep (app.pools name).base (.exec i now none)).isSome = true))
  | .sigterm => inferInstanceAs (Decidable (app.point.awaits .sigterm = true))
  | .eventsRead => inferInstanceAs (Decidable (app.point.awaits .eventsRead = true))
  | .pthpoolPoll => inferInstanceAs (Decidable (app.point.awaits .pthpoolPoll = true))
  | .result h => inferInstanceAs (Decidable (app.point.awaits (.result h) = true))
  | .resultsEnd => inferInstanceAs (Decidable (app.point.awaits .resultsEnd = true))

/-- **The state of a process that goes on.** -/
structure App.Sound (app : App) : Prop where
  /-- The invariant of all runs, whatever the clients do. -/
  inv : app.Inv
  /-- The state of the server, under which its calls go through. -/
  server : ServerOk app.server app.written

namespace App.Sound

variable {app app' : App}

/-- The next event is one the server has written. -/
theorem mem_written (h : app.Sound) {event : Event} {left : List Event}
    (hpoint : app.point = .events (event :: left)) : event ∈ app.written := by
  rw [← h.inv.events.line, App.eventsLeft, hpoint]
  exact List.mem_append_left _ (List.mem_append_right _ List.mem_cons_self)

/-- The session of a job is that of an event. -/
theorem exists_sessionUuid (h : app.Sound) {name : PoolName} {job : Job}
    (hjob : job ∈ (app.pools name).jobs) :
    ∃ e ∈ app.written, e.sessionUuid = job.userdata.sessionUuid := by
  rw [h.inv.replies.jobs, RequestReply.mem_onChannel, List.mem_filterMap] at hjob
  obtain ⟨e, he, hjob⟩ := hjob
  refine ⟨e, ?_, (Event.sessionUuid_of_job? hjob).symm⟩
  rw [← h.inv.events.line, List.append_assoc]
  exact List.mem_append_left _ he

/-- `handle_events` can handle the next event: its path has userdata and its session is known. -/
theorem exists_handleEvent (h : app.Sound) {event : Event} {left : List Event}
    (hpoint : app.point = .events (event :: left)) (hand : Handling) :
    ∃ app', handleEvent app event hand = some app' := by
  have hmem := h.mem_written hpoint
  have hknown := h.server.written event hmem
  obtain ⟨sessionUuid, userdata, kind⟩ := event
  cases kind with
  | message messages streamId endStream =>
      obtain ⟨path, hpath⟩ := Option.isSome_iff_exists.mp (hknown rfl)
      have hpath : userdata.bind pathUserdata = some path := hpath
      simp only [handleEvent, handleEventMessage, hpath, Option.bind_eq_bind, Option.bind_some]
      split
      · obtain ⟨r, hr, -⟩ := h.server.exists_streamEnd ⟨_, hmem, rfl⟩ streamId
          grpcStatusInvalidArgument hand.send
        rw [hr]
        exact ⟨_, rfl⟩
      · exact ⟨_, rfl⟩
  | dataloss streamId =>
      obtain ⟨path, hpath⟩ := Option.isSome_iff_exists.mp (hknown rfl)
      have hpath : userdata.bind pathUserdata = some path := hpath
      simp only [handleEvent, handleEventDataloss, hpath, Option.bind_eq_bind, Option.bind_some]
      exact ⟨_, rfl⟩
  | cancel _ | connect | disconnect => exact ⟨app, rfl⟩

/-- The messages of a result are sent, and its stream can be ended. -/
theorem exists_calls (h : app.Sound) {name : PoolName} {result : Task} {left : List Task}
    (hpoint : app.point = .results name (result :: left)) {userdata : Userdata}
    {omessages : List Message} (hholds : app.Holds result userdata omessages) (sends : List NgSend)
    (send : NgSend) :
    ∃ r, sessionStreamSend app.server userdata.sessionUuid userdata.streamId omessages sends = some r ∧
      ServerOk r.server app.written ∧
      ∃ r', sessionStreamEnd r.server userdata.sessionUuid userdata.streamId userdata.status send
        = some r' ∧ ServerOk r'.server app.written := by
  obtain ⟨job, hstands, -, pp, c, hfunc, hheap⟩ := h.inv.memory.result hpoint
  obtain rfl : userdata = c.userdata := Option.some.inj (hholds.heap.symm.trans hheap)
  -- the handle is that of an event, and no message is empty
  have hknown : ∃ e ∈ app.written, e.sessionUuid = c.userdata.sessionUuid := by
    rw [(callFunc_keeps hfunc).1]
    exact h.exists_sessionUuid (List.mem_of_getElem? hstands.numbered)
  have hne : ∀ m ∈ omessages, m.len ≠ 0 := by
    intro m hm hzero
    rw [hholds.len m hm] at hzero
    cases hzero
  obtain ⟨r, hsend, hok⟩ := h.server.exists_streamSend hknown c.userdata.streamId hne sends
  obtain ⟨r', hend, hok'⟩ := hok.exists_streamEnd hknown c.userdata.streamId c.userdata.status send
  exact ⟨r, hsend, hok, r', hend, hok'⟩

/-- `handle_thread_pool` can handle the next result: its userdata is in memory and its session is
known. -/
theorem exists_handleResult (h : app.Sound) {name : PoolName} {result : Task} {left : List Task}
    (hpoint : app.point = .results name (result :: left)) (hand : Handling) :
    ∃ app', handleResult app name result hand = some app' := by
  obtain ⟨userdata, omessages, hholds⟩ := h.inv.exists_holds hpoint
  obtain ⟨r, hsend, -, r', hend, -⟩ := h.exists_calls hpoint hholds hand.sends hand.send
  exact Option.isSome_iff_exists.mp
    (App.Inv.handleResult_isSome hholds hsend (Option.isSome_iff_exists.mpr ⟨r', hend⟩))

/-- **Between two rounds the server stays in order**, whatever `main` and the workers do. -/
theorem serverOk_move (h : app.Sound) (hpoint : app.point ≠ .loop) (hmove : AppMove app app') :
    ServerOk app'.server app'.written := by
  cases hmove with
  | quit hloop => exact absurd hloop hpoint
  | polls hloop => exact absurd hloop hpoint
  | reads => exact h.server.eventsRead
  | @passes event left server hevents hjob hserver =>
      rcases hserver with ⟨-, rfl⟩ | ⟨messages, streamId, endStream, send, r, -, -, hr, rfl⟩
      · exact h.server
      · obtain ⟨r', hr', hok⟩ := h.server.exists_streamEnd ⟨event, h.mem_written hevents, rfl⟩ streamId
          grpcStatusInvalidArgument send
        obtain rfl : r = r' := Option.some.inj (hr.symm.trans hr')
        exact hok
  | @sends name result left data userdata omessages sends r ended server hresults hlate hret hdata
      homessages hsend hfinish =>
      obtain ⟨userdata', omessages', hholds⟩ := h.inv.exists_holds hresults
      obtain rfl : data = result.userdata := Option.some.inj (hret.symm.trans hholds.ret)
      obtain rfl : userdata = userdata' := Option.some.inj (hdata.symm.trans hholds.heap)
      obtain rfl : omessages = omessages' := Option.some.inj (homessages.symm.trans hholds.toSend)
      cases hfinish with
      | @ended _ _ send r' hend =>
          obtain ⟨r₁, hsend₁, -, r₂, hend₂, hok⟩ := h.exists_calls hresults hholds sends send
          obtain rfl : r = r₁ := Option.some.inj (hsend.symm.trans hsend₁)
          obtain rfl : r' = r₂ := Option.some.inj (hend.symm.trans hend₂)
          exact hok
      | sent | failed =>
          obtain ⟨r₁, hsend₁, hok, -⟩ := h.exists_calls hresults hholds sends ⟨[], 0⟩
          obtain rfl : r = r₁ := Option.some.inj (hsend.symm.trans hsend₁)
          exact hok
  | adds | takes | drops | turns | works | skips | calls => exact h.server

/-- A worker leaves the server and `main` alone. -/
theorem exec_same {name : PoolName} {i : ℕ} {now : ℤ} {pp : Fin 5 → UInt32}
    (hexec : app.exec name i now pp = some app') :
    app'.server = app.server ∧ app'.written = app.written ∧ app'.point = app.point ∧
      app'.userdataCalls = app.userdataCalls := by
  rw [App.exec] at hexec
  dsimp only at hexec
  split at hexec
  · obtain ⟨base, -, hexec⟩ := Option.bind_eq_some_iff.mp hexec
    split at hexec
    · obtain ⟨userdata, -, hexec⟩ := Option.bind_eq_some_iff.mp hexec
      obtain ⟨r, -, hexec⟩ := Option.bind_eq_some_iff.mp hexec
      obtain rfl := Option.some.inj hexec
      exact ⟨rfl, rfl, rfl, rfl⟩
    · obtain rfl := Option.some.inj hexec
      exact ⟨rfl, rfl, rfl, rfl⟩
  · cases hexec

/-- **A plain step goes through** and leaves the process sound. -/
theorem exists_step (h : app.Sound) {a : AppAction} (hplain : app.Plain a) :
    ∃ app', appStep app a = some app' ∧ app'.Sound := by
  have hsound : ∀ app', appStep app a = some app' → ServerOk app'.server app'.written →
      ∃ app', appStep app a = some app' ∧ app'.Sound := fun app' hstep hok =>
    ⟨app', hstep, h.inv.step hstep, hok⟩
  -- a step of `main` between two rounds
  have hmain : app.point ≠ .loop → ∀ app', appStep app a = some app' →
      ∃ app', appStep app a = some app' ∧ app'.Sound := fun hpoint app' hstep =>
    hsound app' hstep (h.serverOk_move hpoint (appStep_move hstep))
  have hturn : app.point.awaits a = true → ∃ app', appStep app a = some app' ∧ app'.Sound := by
    intro hawaits
    obtain ⟨hpoint, rfl | ⟨round, rfl⟩⟩ | ⟨hpoint, rfl⟩ | ⟨event, left, hand, hpoint, rfl⟩ |
      ⟨name, hpoint, rfl⟩ | ⟨name, result, left, hand, hpoint, rfl⟩ | ⟨name, hpoint, rfl⟩ :=
      awaits_eq_true hawaits
    · refine hsound { app with point := .exit } ?_ h.server
      rw [appStep, hpoint]
    · obtain ⟨-, hfresh, hplain⟩ := hplain
      obtain ⟨server, hpoll, hok⟩ := h.server.exists_serverPoll rfl hfresh hplain
      refine hsound
        { app with
          server := server
          written := app.written ++ server.events.unread.drop app.server.events.unread.length
          point := if round.ready < 0 then .exit else if round.ready > 0 then .events []
            else .poll .ordered } ?_ hok
      rw [appStep, hpoint]
      dsimp only
      rw [hpoll]
      rfl
    · refine hmain (fun hloop => by cases hpoint.symm.trans hloop)
        { app with
          server := { app.server with events := (eventsRead app.server.events).2 }
          point := readPoint (eventsRead app.server.events).1 } ?_
      rw [appStep, hpoint]
    · obtain ⟨app₁, hevent⟩ := h.exists_handleEvent hpoint hand
      refine hmain (fun hloop => by cases hpoint.symm.trans hloop)
        { app₁ with point := .events left, handled := app₁.handled ++ [event] } ?_
      rw [appStep, hpoint]
      dsimp only
      rw [if_pos hplain.2, hevent]
      rfl
    · obtain ⟨base, hbase⟩ : ∃ base, poolStep (app.pools name).base (.poll []) = some base := ⟨_, rfl⟩
      refine hmain (fun hloop => by cases hpoint.symm.trans hloop)
        { app.setPool name { app.pools name with base := base } with
          point := .results name (pthpoolPoll (app.pools name).base.pool []).1 } ?_
      rw [appStep, hpoint]
      dsimp only
      rw [hbase]
      rfl
    · obtain ⟨app₁, hresult⟩ := h.exists_handleResult hpoint hand
      refine hmain (fun hloop => by cases hpoint.symm.trans hloop) { app₁ with point := .results name left } ?_
      rw [appStep, hpoint]
      dsimp only
      rw [hresult]
      rfl
    · refine hmain (fun hloop => by cases hpoint.symm.trans hloop) { app with point := name.next } ?_
      rw [appStep, hpoint]
  cases a with
  | serverPoll | event => exact hturn hplain.1
  | sigterm | eventsRead | pthpoolPoll | result | resultsEnd => exact hturn hplain
  | worker name i =>
      obtain ⟨base, hbase⟩ := Option.isSome_iff_exists.mp hplain
      refine hsound (app.setPool name { app.pools name with base := base }) ?_ h.server
      rw [appStep]
      dsimp only
      rw [hbase]
      rfl
  | exec name i now pp =>
      obtain ⟨base, hbase⟩ := Option.isSome_iff_exists.mp hplain
      obtain ⟨task, htask, -⟩ := poolStep_exec hbase
      obtain ⟨app', hexec⟩ := Option.isSome_iff_exists.mp (h.inv.memory.exec_isSome htask now pp)
      obtain ⟨hserver, hwritten, -⟩ := exec_same hexec
      refine hsound app' hexec ?_
      rw [hserver, hwritten]
      exact h.server

end App.Sound

/-! ## (2) Runs -/

/-- At the start of `main` it is sound. -/
theorem appStart_sound (ipv4Sockfd ipv6Sockfd : ℤ) (maxConnections initialWindowSize : ℕ)
    (maxPaths : MaxPaths) :
    (appStart (mainServer ipv4Sockfd ipv6Sockfd maxConnections initialWindowSize maxPaths)).Sound where
  inv := appStart_inv _
  server := mainServer_ok ipv4Sockfd ipv6Sockfd maxConnections initialWindowSize maxPaths

/-- **The application does not abort on plain steps.** They go through, with any clients that send no
trailers, any hang-ups, failures of `accept`, `recv` and `send` and schedules of the workers, as long as
the calls that `session_create` asserts to succeed do and sockets, handles and addresses are fresh;
and at any time the loop of `ezgrpc2_server_free` does. In the model `nghttp2_submit_headers` and
allocations succeed. -/
theorem appRun_completes (ipv4Sockfd ipv6Sockfd : ℤ) (maxConnections initialWindowSize : ℕ)
    (maxPaths : MaxPaths) {acts : List AppAction}
    (hplain : Along appStep App.Plain
      (appStart (mainServer ipv4Sockfd ipv6Sockfd maxConnections initialWindowSize maxPaths)) acts) :
    ∃ app, run appStep
      (appStart (mainServer ipv4Sockfd ipv6Sockfd maxConnections initialWindowSize maxPaths)) acts
        = some app ∧ ServerState.Frees ⟨app.server, app.written⟩ := by
  obtain ⟨app, hrun, h⟩ := hplain.exists_run (I := App.Sound)
    (fun _ _ _ hsound hplain => hsound.exists_step hplain)
    (appStart_sound ipv4Sockfd ipv6Sockfd maxConnections initialWindowSize maxPaths)
  exact ⟨app, hrun, Server.Sound.frees h.server.sound h.server.table⟩

theorem appRun_completes_three_calls :
    ∃ app, run appStep (appStart appServer) appThreeCalls = some app ∧
      ServerState.Frees ⟨app.server, app.written⟩ :=
  appRun_completes 3 (-1) 1 100 ⟨10, ten_mul_pathMaxLen_lt⟩ (by decide +kernel)

end Ezgrpc2
