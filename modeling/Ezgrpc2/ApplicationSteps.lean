import Ezgrpc2.Application

/-! # What a step of the application does

`AppMove` lists the steps of `main` and of the workers by what they change. Everything said of the
application over a run comes from `appStep_move`, so that no other proof takes the functions of the
loop apart. -/

namespace Ezgrpc2

open FlatMemory Handles StepRuns

/-! ## (1) What an event asks for -/

/-- A unary call takes one message, and the client ends the stream with it. -/
def PathUserdata.refuses (path : PathUserdata) (nbMsg : ℕ) (endStream : Bool) : Bool :=
  path.isUnary && (!endStream || nbMsg != 1)

/-- **The job of an event**, with the pool it goes to: none where the event is no request, or one that
is refused. -/
def Event.job? (event : Event) : Option (PoolName × Job) :=
  (event.userdata.bind pathUserdata).bind fun path =>
    match event.kind with
    | .message messages streamId endStream =>
        if path.refuses messages.length endStream then none
        else some (path.pool,
          ⟨path.callback, createUserdata event.sessionUuid streamId messages endStream 0⟩)
    | .dataloss streamId =>
        some (path.pool,
          ⟨path.callback, createUserdata event.sessionUuid streamId [] true grpcStatusDataLoss⟩)
    | .cancel _ | .connect | .disconnect => none

/-- The event is a unary call that is refused: it is not one message, or the stream goes on. -/
def Event.isRefused (event : Event) : Bool :=
  match event.userdata.bind pathUserdata with
  | some path =>
      match event.kind with
      | .message messages _ endStream => path.refuses messages.length endStream
      | .dataloss _ | .cancel _ | .connect | .disconnect => false
  | none => false

/-- The functions registered are the two callbacks. -/
theorem pathUserdata_callback_le {addr : ℕ} {path : PathUserdata} (h : pathUserdata addr = some path) :
    path.callback ≤ 1 := by
  unfold pathUserdata at h
  split at h
  · cases h
    exact Nat.zero_le _
  · cases h
    exact Nat.le_refl _
  · cases h

theorem Event.func_of_job? {event : Event} {name : PoolName} {job : Job}
    (h : event.job? = some (name, job)) : job.func ≤ 1 := by
  obtain ⟨path, hpath, h⟩ := Option.bind_eq_some_iff.mp h
  obtain ⟨addr, -, hpath⟩ := Option.bind_eq_some_iff.mp hpath
  have hle := pathUserdata_callback_le hpath
  split at h
  · split at h
    · cases h
    · cases h
      exact hle
  · cases h
    exact hle
  all_goals cases h

/-- The job is for the stream of the event. -/
theorem Event.sessionUuid_of_job? {event : Event} {name : PoolName} {job : Job}
    (h : event.job? = some (name, job)) : job.userdata.sessionUuid = event.sessionUuid := by
  obtain ⟨path, -, h⟩ := Option.bind_eq_some_iff.mp h
  split at h
  · split at h
    · cases h
    · cases h
      rfl
  · cases h
    rfl
  all_goals cases h

/-- A call that changes neither the event queue nor the table of paths. -/
structure Server.Quiet (server server' : Server) : Prop where
  /-- The event queue is as before. -/
  events : server'.events = server.events
  /-- The path table is as before. -/
  table : server'.table = server.table

/-- A `stream_send` writes no event and leaves the path table. -/
theorem sessionStreamSend_quiet {server : Server} {uuid : SessionUuid} {streamId : ℤ}
    {messages : List Message} {sends : List NgSend} {r : CallResult}
    (h : sessionStreamSend server uuid streamId messages sends = some r) : server.Quiet r.server := by
  rcases sessionStreamSend_cases h with hsame | ⟨i, ez, ez', -, -, hset⟩
  · rw [hsame]
    exact ⟨rfl, rfl⟩
  · rw [hset]
    exact ⟨rfl, rfl⟩

/-- A `stream_end` writes no event and leaves the path table. -/
theorem sessionStreamEnd_quiet {server : Server} {uuid : SessionUuid} {streamId status : ℤ}
    {send : NgSend} {r : CallResult}
    (h : sessionStreamEnd server uuid streamId status send = some r) : server.Quiet r.server := by
  rcases sessionStreamEnd_cases h with hsame | ⟨i, ez, ez', -, -, hset⟩
  · rw [hsame]
    exact ⟨rfl, rfl⟩
  · rw [hset]
    exact ⟨rfl, rfl⟩

/-- A round returns what `poll` does, and one in which it finds nothing leaves the queue as it is. -/
theorem serverPoll_ret {server server' : Server} {round : Round} {res : ℤ}
    (h : serverPoll server round = some (res, server')) :
    res = round.ready ∧ (res ≤ 0 → server'.events = server.events ∧ server'.table = server.table) := by
  rw [serverPoll] at h
  split at h
  · cases h
    exact ⟨rfl, fun _ => ⟨rfl, rfl⟩⟩
  · next hready =>
      obtain ⟨server₁, -, h⟩ := Option.bind_eq_some_iff.mp h
      obtain ⟨server₂, -, h⟩ := Option.bind_eq_some_iff.mp h
      obtain ⟨server₃, -, h⟩ := Option.bind_eq_some_iff.mp h
      cases h
      exact ⟨rfl, fun hres => absurd hres hready⟩

/-- `stream_send` returns 0, 1, 2 or 3. -/
theorem sessionStreamSend_ret_le {server : Server} {uuid : SessionUuid} {streamId : ℤ}
    {messages : List Message} {sends : List NgSend} {r : CallResult}
    (h : sessionStreamSend server uuid streamId messages sends = some r) : r.ret ≤ 3 := by
  rcases sessionStreamSend_eq_some h with
    ⟨ret, hfind, rfl⟩ | ⟨ez, ptr, s, ret, ez', outs, -, -, -, -, hloop, rfl⟩
  · show ret ≤ 3
    rcases locate_eq_error hfind with rfl | rfl
    · decide
    · decide
  · show ret ≤ 3
    rw [(sendLoop_eq_some hloop).2]
    split <;> decide

/-! ## (2) The moves -/

/-- A call is refused: `stream_end` is called with INVALID_ARGUMENT. -/
def Refuses (server server' : Server) (event : Event) : Prop :=
  ∃ messages streamId endStream send r, event.isRefused = true ∧
    event.kind = .message messages streamId endStream ∧
    sessionStreamEnd server event.sessionUuid streamId grpcStatusInvalidArgument send = some r ∧
    r.server = server'

/-- What follows a `stream_send` that returned `r`. -/
inductive Finish (r : CallResult) (userdata : Userdata) : Option ℤ → Server → Prop
  /-- `stream_send` succeeded, and the stream is ended. -/
  | ended (hret : r.ret = 0) (hend : userdata.endStream = true) {send : NgSend} {r' : CallResult}
      (h : sessionStreamEnd r.server userdata.sessionUuid userdata.streamId userdata.status send
        = some r') : Finish r userdata (some userdata.status) r'.server
  /-- `stream_send` succeeded, and the stream goes on. -/
  | sent (hret : r.ret = 0) (hend : userdata.endStream = false) : Finish r userdata none r.server
  /-- `stream_send` failed, and the stream is not ended. -/
  | failed (hret : r.ret ≠ 0) : Finish r userdata none r.server

/-- The status is the one in the userdata, when the stream is ended. -/
theorem Finish.ended_eq {r : CallResult} {userdata : Userdata} {ended : Option ℤ} {server : Server}
    (h : Finish r userdata ended server) :
    ended = if r.ret = 0 ∧ userdata.endStream = true then some userdata.status else none := by
  cases h with
  | ended hret hend => rw [if_pos ⟨hret, hend⟩]
  | sent _ hend => rw [if_neg (fun hcon => by simp [hend] at hcon)]
  | failed hret => rw [if_neg (fun hcon => hret hcon.1)]

theorem Finish.quiet {r : CallResult} {userdata : Userdata} {ended : Option ℤ} {server : Server}
    (h : Finish r userdata ended server) : r.server.Quiet server := by
  cases h with
  | ended _ _ hend => exact sessionStreamEnd_quiet hend
  | sent | failed => exact ⟨rfl, rfl⟩

/-- **What a step can do**: one constructor for each way the process can go on. -/
inductive AppMove (app : App) : App → Prop
  /-- `main` leaves its loop after a signal. -/
  | quit (hpoint : app.point = .loop) : AppMove app { app with point := .exit }
  /-- `main` polls the server, and writes down which events came in. -/
  | polls {round : Round} {res : ℤ} {server : Server} (hpoint : app.point = .loop)
      (hpoll : serverPoll app.server { round with events := app.server.events } = some (res, server)) :
      AppMove app
        { app with
          server := server
          written := app.written ++ server.events.unread.drop app.server.events.unread.length
          point := if res < 0 then .exit else if res > 0 then .events [] else .poll .ordered }
  /-- The next array of events is read. -/
  | reads (hpoint : app.point = .events []) :
      AppMove app
        { app with
          server := { app.server with events := (eventsRead app.server.events).2 }
          point := readPoint (eventsRead app.server.events).1 }
  /-- A task is added for an event. -/
  | adds {event : Event} {left : List Event} {name : PoolName} {job : Job} {addr : ℕ}
      {base : PoolState} (hpoint : app.point = .events (event :: left)) (hfree : app.heap addr = none)
      (hjob : event.job? = some (name, job))
      (hbase : poolStep (app.pools name).base (.addTask job.func addr none none true) = some base) :
      AppMove app
        { (app.store addr (some job.userdata)).setPool name
            { app.pools name with base := base, jobs := (app.pools name).jobs ++ [job] } with
          userdataCalls := app.userdataCalls ++ [.acquire addr]
          handled := app.handled ++ [event]
          point := .events left }
  /-- An event asks for nothing, or is refused. -/
  | passes {event : Event} {left : List Event} {server : Server}
      (hpoint : app.point = .events (event :: left)) (hjob : event.job? = none)
      (hserver : (event.kind.ofFrame = false ∧ server = app.server) ∨
        Refuses app.server server event) :
      AppMove app
        { app with server := server, handled := app.handled ++ [event], point := .events left }
  /-- `main` takes the finished tasks of a pool. -/
  | takes {name : PoolName} {base : PoolState} (hpoint : app.point = .poll name)
      (hbase : poolStep (app.pools name).base (.poll []) = some base) :
      AppMove app
        { app.setPool name { app.pools name with base := base } with
          point := .results name (pthpoolPoll (app.pools name).base.pool []).1 }
  /-- `main` sends a result, ends the stream where it has to and frees the userdata. -/
  | sends {name : PoolName} {result : Task} {left : List Task} {data : ℕ} {userdata : Userdata}
      {omessages : List Message} {sends : List NgSend} {r : CallResult} {ended : Option ℤ}
      {server : Server} (hpoint : app.point = .results name (result :: left))
      (hlate : result.isTimeout = false) (hret : result.ret = some data)
      (hdata : app.heap data = some userdata) (homessages : userdata.omessages = some omessages)
      (hsend : sessionStreamSend app.server userdata.sessionUuid userdata.streamId omessages sends
        = some r)
      (hfinish : Finish r userdata ended server) :
      AppMove app
        { (app.store data none).record name
            ⟨result, userdata.sessionUuid, userdata.streamId, omessages, r.ret, ended⟩ with
          server := server
          userdataCalls := app.userdataCalls ++ [.release data]
          freed := app.freed ++ userdata.imessages.toList
          point := .results name left }
  /-- The result of a late task is dropped. -/
  | drops {name : PoolName} {result : Task} {left : List Task} {userdata : Userdata}
      (hpoint : app.point = .results name (result :: left)) (hlate : result.isTimeout = true)
      (hdata : app.heap result.userdata = some userdata) :
      AppMove app
        { app.store result.userdata none with
          userdataCalls := app.userdataCalls ++ [.release result.userdata]
          freed := app.freed ++ userdata.imessages.toList
          point := .results name left }
  /-- All results of a pool are handled. -/
  | turns {name : PoolName} (hpoint : app.point = .results name []) :
      AppMove app { app with point := name.next }
  /-- A worker makes a critical section. -/
  | works {name : PoolName} {i : ℕ} {base : PoolState}
      (hbase : poolStep (app.pools name).base (.worker i) = some base) :
      AppMove app (app.setPool name { app.pools name with base := base })
  /-- A worker finds its task late. -/
  | skips {name : PoolName} {i : ℕ} {now : ℤ} {task : Task} {base : PoolState}
      (htask : (app.pools name).base.pool.threads[i]? = some (.holding task))
      (hbase : poolStep (app.pools name).base (.exec i now (some task.userdata)) = some base)
      (hlate : (workerExec now (some task.userdata) task).1 = false) :
      AppMove app (app.setPool name { app.pools name with base := base })
  /-- A worker calls the function of its task. -/
  | calls {name : PoolName} {i : ℕ} {now : ℤ} {pp : Fin 5 → UInt32} {task : Task} {base : PoolState}
      {userdata : Userdata} {r : CallbackEnd}
      (htask : (app.pools name).base.pool.threads[i]? = some (.holding task))
      (hbase : poolStep (app.pools name).base (.exec i now (some task.userdata)) = some base)
      (hcalled : (workerExec now (some task.userdata) task).1 = true)
      (hdata : app.heap task.userdata = some userdata)
      (hfunc : callFunc task.func pp userdata = some r) :
      AppMove app
        { (app.setPool name { app.pools name with base := base }).store task.userdata
            (some r.userdata) with
          freed := app.freed ++ r.freed }

/-- A record leaves the pools and the jobs as they are. -/
theorem record_base (app : App) (name name' : PoolName) (reply : Reply) :
    ((app.record name reply).pools name').base = (app.pools name').base := by
  rw [App.record]
  by_cases hname : name' = name
  · subst hname
    rw [App.setPool_pools_self]
  · rw [App.setPool_pools_of_ne _ _ hname]

theorem record_jobs (app : App) (name name' : PoolName) (reply : Reply) :
    ((app.record name reply).pools name').jobs = (app.pools name').jobs := by
  rw [App.record]
  by_cases hname : name' = name
  · subst hname
    rw [App.setPool_pools_self]
  · rw [App.setPool_pools_of_ne _ _ hname]

/-! ## (3) Every step is a move -/

/-- The two things an event leads to. -/
theorem handleEvent_cases {app app' : App} {event : Event} {h : Handling}
    (hevent : handleEvent app event h = some app') :
    (∃ name job, event.job? = some (name, job) ∧
      app.addTask name job.func job.userdata h.addr = some app') ∨
    (event.job? = none ∧ ∃ server, app' = { app with server := server } ∧
      ((event.kind.ofFrame = false ∧ server = app.server) ∨ Refuses app.server server event)) := by
  obtain ⟨sessionUuid, userdata, kind⟩ := event
  cases kind with
  | message messages streamId endStream =>
      obtain ⟨path, hpath, hevent⟩ := Option.bind_eq_some_iff.mp hevent
      have hpath : userdata.bind pathUserdata = some path := hpath
      by_cases hrefuses : path.refuses messages.length endStream = true
      · have hrefused : Event.isRefused ⟨sessionUuid, userdata, .message messages streamId endStream⟩
            = true := by
          rw [Event.isRefused, hpath]
          exact hrefuses
        have hjob : Event.job? ⟨sessionUuid, userdata, .message messages streamId endStream⟩ = none := by
          rw [Event.job?, hpath]
          exact if_pos hrefuses
        rw [PathUserdata.refuses] at hrefuses
        rw [if_pos hrefuses] at hevent
        obtain ⟨r, hr, hevent⟩ := Option.bind_eq_some_iff.mp hevent
        obtain rfl := Option.some.inj hevent
        exact Or.inr ⟨hjob, r.server, rfl,
          Or.inr ⟨messages, streamId, endStream, h.send, r, hrefused, rfl, hr, rfl⟩⟩
      · have hjob : Event.job? ⟨sessionUuid, userdata, .message messages streamId endStream⟩
            = some (path.pool,
              ⟨path.callback, createUserdata sessionUuid streamId messages endStream 0⟩) := by
          rw [Event.job?, hpath]
          exact if_neg hrefuses
        rw [PathUserdata.refuses] at hrefuses
        rw [if_neg hrefuses] at hevent
        exact Or.inl ⟨_, _, hjob, hevent⟩
  | dataloss streamId =>
      obtain ⟨path, hpath, hevent⟩ := Option.bind_eq_some_iff.mp hevent
      have hpath : userdata.bind pathUserdata = some path := hpath
      have hjob : Event.job? ⟨sessionUuid, userdata, .dataloss streamId⟩ = some (path.pool,
          ⟨path.callback, createUserdata sessionUuid streamId [] true grpcStatusDataLoss⟩) := by
        rw [Event.job?, hpath]
        rfl
      exact Or.inl ⟨_, _, hjob, hevent⟩
  | cancel _ | connect | disconnect =>
      obtain rfl := Option.some.inj hevent
      refine Or.inr ⟨?_, app.server, rfl, Or.inl ⟨rfl, rfl⟩⟩
      rw [Event.job?]
      cases userdata.bind pathUserdata <;> rfl

/-- What `free_userdata` does: the object is freed, and the messages it owns. -/
theorem freeUserdata_eq_some {app app' : App} {addr : ℕ} (h : app.freeUserdata addr = some app') :
    ∃ userdata, app.heap addr = some userdata ∧
      app' = { app.store addr none with
        userdataCalls := app.userdataCalls ++ [.release addr]
        freed := app.freed ++ userdata.imessages.toList } := by
  obtain ⟨userdata, hdata, h⟩ := Option.bind_eq_some_iff.mp h
  exact ⟨userdata, hdata, (Option.some.inj h).symm⟩

/-- The end of the handling of a result. -/
theorem freeUserdata_record {app app' : App} {data : ℕ} {userdata : Userdata}
    {messages : List Message} {server : Server} {name : PoolName} {reply : Reply}
    (h : (({ app.store data (some { userdata with omessages := some messages }) with
      server := server } : App).record name reply).freeUserdata data = some app') :
    app' = { (app.store data none).record name reply with
      server := server
      userdataCalls := app.userdataCalls ++ [.release data]
      freed := app.freed ++ userdata.imessages.toList } := by
  obtain ⟨u, hu, rfl⟩ := freeUserdata_eq_some h
  have hu' : Function.update app.heap data (some { userdata with omessages := some messages }) data
      = some u := hu
  rw [Function.update_self] at hu'
  obtain rfl := Option.some.inj hu'
  simp only [App.record, App.setPool, App.store, Function.update_idem]

/-- A result that is handled is a move: it is sent or dropped. -/
theorem handleResult_move {app app' : App} {name : PoolName} {result : Task} {left : List Task}
    {h : Handling} (hpoint : app.point = .results name (result :: left))
    (hresult : handleResult app name result h = some app') :
    AppMove app { app' with point := .results name left } := by
  rw [handleResult] at hresult
  split at hresult
  · next hlate =>
      obtain ⟨userdata, hdata, rfl⟩ := freeUserdata_eq_some hresult
      exact .drops hpoint hlate hdata
  · next hlate =>
      obtain ⟨data, hret, hresult⟩ := Option.bind_eq_some_iff.mp hresult
      obtain ⟨userdata, hdata, hresult⟩ := Option.bind_eq_some_iff.mp hresult
      obtain ⟨omessages, homessages, hresult⟩ := Option.bind_eq_some_iff.mp hresult
      obtain ⟨r, hsend, hresult⟩ := Option.bind_eq_some_iff.mp hresult
      have hmove : ∀ {ended : Option ℤ} {server : Server}, Finish r userdata ended server →
          app' = { (app.store data none).record name
              ⟨result, userdata.sessionUuid, userdata.streamId, omessages, r.ret, ended⟩ with
            server := server
            userdataCalls := app.userdataCalls ++ [.release data]
            freed := app.freed ++ userdata.imessages.toList } →
          AppMove app { app' with point := .results name left } := by
        rintro ended server hfinish rfl
        exact .sends hpoint (Bool.eq_false_iff.mpr hlate) hret hdata homessages hsend hfinish
      dsimp only at hresult
      split at hresult
      · next hzero =>
          split at hresult
          · next hend =>
              obtain ⟨r', hr', hresult⟩ := Option.bind_eq_some_iff.mp hresult
              refine hmove (.ended hzero hend hr') ?_
              exact freeUserdata_record hresult
          · next hend =>
              refine hmove (.sent hzero (Bool.eq_false_iff.mpr hend)) ?_
              exact freeUserdata_record hresult
      all_goals try cases hresult
      all_goals
        next hne =>
          refine hmove (.failed (by rw [hne]; decide)) ?_
          exact freeUserdata_record hresult

/-- **Every step is a move**: `appStep` does nothing that `AppMove` does not list. -/
theorem appStep_move {app app' : App} {a : AppAction} (h : appStep app a = some app') :
    AppMove app app' := by
  cases a with
  | sigterm =>
      rw [appStep] at h
      split at h
      · next hpoint =>
          obtain rfl := Option.some.inj h
          exact .quit hpoint
      · cases h
  | serverPoll round =>
      rw [appStep] at h
      split at h
      · next hpoint =>
          obtain ⟨⟨res, server⟩, hpoll, h⟩ := Option.bind_eq_some_iff.mp h
          obtain rfl := Option.some.inj h
          exact .polls hpoint hpoll
      · cases h
  | eventsRead =>
      rw [appStep] at h
      split at h
      · next hpoint =>
          obtain rfl := Option.some.inj h
          exact .reads hpoint
      · cases h
  | event hd =>
      rw [appStep] at h
      split at h
      · next event left hpoint =>
          split at h
          · next hfree =>
              obtain ⟨app₁, hevent, h⟩ := Option.bind_eq_some_iff.mp h
              obtain rfl := Option.some.inj h
              rcases handleEvent_cases hevent with ⟨name, job, hjob, hadd⟩ | ⟨hjob, server, rfl, hserver⟩
              · rw [App.addTask] at hadd
                obtain ⟨base, hbase, hadd⟩ := Option.bind_eq_some_iff.mp hadd
                obtain rfl := Option.some.inj hadd
                exact .adds hpoint hfree hjob hbase
              · exact .passes hpoint hjob hserver
          · cases h
      · cases h
  | pthpoolPoll =>
      rw [appStep] at h
      split at h
      · next name hpoint =>
          obtain ⟨base, hbase, h⟩ := Option.bind_eq_some_iff.mp h
          obtain rfl := Option.some.inj h
          exact .takes hpoint hbase
      · cases h
  | result hd =>
      rw [appStep] at h
      split at h
      · next name result left hpoint =>
          obtain ⟨app₁, hresult, h⟩ := Option.bind_eq_some_iff.mp h
          obtain rfl := Option.some.inj h
          exact handleResult_move hpoint hresult
      · cases h
  | resultsEnd =>
      rw [appStep] at h
      split at h
      · next hpoint =>
          obtain rfl := Option.some.inj h
          exact .turns hpoint
      · cases h
  | worker name i =>
      obtain ⟨base, hbase, h⟩ := Option.bind_eq_some_iff.mp h
      obtain rfl := Option.some.inj h
      exact .works hbase
  | exec name i now pp =>
      rw [appStep, App.exec] at h
      dsimp only at h
      split at h
      · next task htask =>
          obtain ⟨base, hbase, h⟩ := Option.bind_eq_some_iff.mp h
          split at h
          · next hcalled =>
              obtain ⟨userdata, hdata, h⟩ := Option.bind_eq_some_iff.mp h
              obtain ⟨r, hfunc, h⟩ := Option.bind_eq_some_iff.mp h
              obtain rfl := Option.some.inj h
              exact .calls htask hbase hcalled hdata hfunc
          · next hlate =>
              obtain rfl := Option.some.inj h
              exact .skips htask hbase (Bool.eq_false_iff.mpr hlate)
      · cases h

end Ezgrpc2
