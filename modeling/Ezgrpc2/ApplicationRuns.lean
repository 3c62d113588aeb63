import Ezgrpc2.ApplicationReplies
import Ezgrpc2.ServerProgress

/-! # Runs of the application

What the invariants say of every state the process can reach, with any clients and any schedule of its
workers: it is a service (`appRun_service`) that keeps the order of each stream (`appRun_inOrder`) and
loses no request (`appRun_placed`); its userdata is freed once and never used afterwards
(`appRun_memory`, `appRun_noFault`); and the messages of clients are freed once, but for those of the
unary calls it refuses (`appRun_lists`). -/

namespace Ezgrpc2

open Handles Ownership RequestReply StepRuns

/-! ## (1) A run -/

/-- A round in which `poll` finds `revents` at cell `i`. -/
def clientRound (i revents uuid : ℕ) (acts : List ClientAction) : Round where
  ready := 1
  revents j := if j = i then revents else 0
  events := eventsNew
  ipv4 := ⟨9, true, true, true, uuid⟩
  ipv6 := ⟨9, true, true, true, uuid + 1⟩
  exchange _ := ⟨true, false, acts, 0, []⟩

/-- The step in which `main` makes such a round. -/
def appRound (i revents uuid : ℕ) (acts : List ClientAction) : AppAction :=
  .serverPoll (clientRound i revents uuid acts)

/-- The client sends a request with one DATA frame. -/
def clientRequest (streamId : ℤ) (ptr : ℕ) (path data : Bytes) (flags : UInt8) : List ClientAction :=
  [.beginHeaders streamId ptr fun _ => 0, .header ⟨streamId, .headers, 0, 0⟩ (bytesOf ":path") path,
    .dataChunk streamId data, .frameRecv ⟨streamId, .data, flags, data.length⟩]

/-- A message without payload, on the wire. -/
def emptyMessage : Bytes := [0, 0, 0, 0, 0]

/-- A worker takes the next task and executes it. -/
def appWork (name : PoolName) (i : ℕ) : List AppAction :=
  [.worker name i, .worker name i, .exec name i 9 fun _ => 0, .worker name i]

/-- `main` handles what a pool has finished. -/
def appResults (results : ℕ) : List AppAction :=
  .pthpoolPoll :: List.replicate results (.result ⟨0, [], ⟨[], 0⟩⟩) ++ [.resultsEnd]

/-- The steps in which `main` reads and handles one array of events. -/
def appEvents (addrs : List ℕ) : List AppAction :=
  .eventsRead :: addrs.map (fun addr => .event ⟨addr, [], ⟨[], 0⟩⟩) ++ [.eventsRead]

/-- A client connects and makes a streaming call, a unary call and a unary call that is refused. The
tasks are executed while `main` goes on, and replied to in its next round. -/
def appThreeCalls : List AppAction :=
  appRound 0 pollin 20 [] :: appEvents [100] ++ appResults 0 ++ appResults 0 ++
    appRound 2 pollin 22 (clientRequest 1 16 streamingPath emptyMessage 1
      ++ clientRequest 3 17 unaryPath emptyMessage 1 ++ clientRequest 5 18 unaryPath emptyMessage 0) ::
      appEvents [100, 101, 102] ++
    appWork .unordered 1 ++ appResults 0 ++ appWork .ordered 0 ++ appResults 1 ++
    appRound 1 0 24 [] :: .eventsRead :: appResults 1 ++ appResults 0

/-- A server of `main` with room for one connection, listening on socket 3. -/
def appServer : Server := mainServer 3 (-1) 1 100 ⟨10, ten_mul_pathMaxLen_lt⟩

/-- What there is to see of a run. -/
structure AppView where
  /-- The number of events that were handled. -/
  handled : ℕ
  /-- The number of lists of messages freed. -/
  freed : ℕ
  /-- The calls that allocate and free userdata. -/
  userdataCalls : List (Call ℕ)
  /-- The task, stream and status of each reply to a streaming call. -/
  ordered : List (ℕ × ℤ × Option ℤ)
  /-- The task, stream and status of each reply to a unary call. -/
  unordered : List (ℕ × ℤ × Option ℤ)
deriving DecidableEq

/-- The numbers of the requests replied to, with the streams and how these were ended. -/
def App.repliesSeen (app : App) (name : PoolName) : List (ℕ × ℤ × Option ℤ) :=
  (app.pools name).replies.map fun r => (r.task.serial, r.streamId, r.ended)

/-- What there is to see of the process. -/
def App.view (app : App) : AppView where
  handled := app.handled.length
  freed := app.freed.length
  userdataCalls := app.userdataCalls
  ordered := app.repliesSeen .ordered
  unordered := app.repliesSeen .unordered

theorem exists_appThreeCalls : ∃ app, run appStep (appStart appServer) appThreeCalls = some app ∧
    app.view = ⟨4, 2, [.acquire 100, .acquire 101, .release 101, .release 100], [(0, 1, some 0)],
      [(0, 3, some 0)]⟩ := by
  have hvalue : (run appStep (appStart appServer) appThreeCalls).map App.view
      = some ⟨4, 2, [.acquire 100, .acquire 101, .release 101, .release 100], [(0, 1, some 0)],
        [(0, 3, some 0)]⟩ := by
    decide +kernel
  exact Option.map_eq_some_iff.mp hvalue

/-! ## (2) Requests and replies -/

/-- **The process is a service**: whatever its clients send and however its workers are scheduled, each
step is none of a service, a reply to a request without one, or requests that come in; a reply to a
streaming call is to the oldest one without a reply. -/
theorem appRun_service {server : Server} {app : App}
    (h : Reachable appStep (appStart server) app) :
    Steps Reply.Answers PoolName.IsOrdered Service.start app.service := by
  have hboth : app.Inv ∧ Steps Reply.Answers PoolName.IsOrdered Service.start app.service := by
    apply h.invariant (I := fun app =>
      app.Inv ∧ Steps Reply.Answers PoolName.IsOrdered Service.start app.service)
    · refine ⟨appStart_inv server, ?_⟩
      have hstart : (appStart server).service = Service.start := by
        unfold App.service Service.start
        congr 1
        funext name
        cases name <;> rfl
      rw [hstart]
    · rintro app a app' ⟨hinv, hsteps⟩ hstep
      exact ⟨hinv.step hstep, hsteps.trans (hinv.service_step (appStep_move hstep))⟩
  exact hboth.2

theorem appRun_service_three_calls :
    ∃ app, run appStep (appStart appServer) appThreeCalls = some app ∧
      app.repliesSeen .ordered = [(0, 1, some 0)] ∧ app.repliesSeen .unordered = [(0, 3, some 0)] ∧
      Steps Reply.Answers PoolName.IsOrdered Service.start app.service := by
  obtain ⟨app, hrun, hview⟩ := exists_appThreeCalls
  exact ⟨app, hrun, congrArg AppView.ordered hview, congrArg AppView.unordered hview,
    appRun_service ⟨appThreeCalls, hrun⟩⟩

/-- The replies are those of the requests. -/
theorem appRun_exact {server : Server} {app : App}
    (h : Reachable appStep (appStart server) app) :
    Exact Reply.Answers PoolName.IsOrdered app.service := Exact.start.steps (appRun_service h)

/-- The job is for a request on the stream. -/
def Job.isOn (uuid : SessionUuid) (streamId : ℤ) (job : Job) : Bool :=
  job.userdata.sessionUuid = uuid ∧ job.userdata.streamId = streamId

/-- The reply is sent on the stream. -/
def Reply.isOn (uuid : SessionUuid) (streamId : ℤ) (r : Reply) : Bool :=
  r.sessionUuid = uuid ∧ r.streamId = streamId

/-- **Streaming calls are answered in order.** -/
structure App.InOrder (app : App) : Prop where
  /-- The replies answer the first requests, one each. -/
  all : List.Forall₂ Reply.Answers (app.pools .ordered).replies
    ((app.service.requests .ordered).take (app.pools .ordered).replies.length)
  /-- So do those on a stream, of the requests on this stream. -/
  stream : ∀ uuid streamId, ∃ jobs,
    jobs <+: (app.service.requests .ordered).filter (Job.isOn uuid streamId) ∧
      List.Forall₂ Reply.Answers ((app.pools .ordered).replies.filter (Reply.isOn uuid streamId)) jobs

/-- **No stream sees its replies out of order**, or one without those before it. -/
theorem appRun_inOrder {server : Server} {app : App}
    (h : Reachable appStep (appStart server) app) : app.InOrder := by
  have hall := (appRun_exact h).forall₂ (k := .ordered) rfl
  have hreplies : (app.service.replies .ordered).map Prod.snd = (app.pools .ordered).replies := by
    rw [App.service, List.map_map]
    exact List.map_id _
  rw [hreplies, App.service, List.length_map] at hall
  refine ⟨hall, fun uuid streamId => ⟨_, ?_,
    List.rel_filter (p := Reply.isOn uuid streamId) (q := Job.isOn uuid streamId) ?_ hall⟩⟩
  · exact (List.take_prefix _ _).filter _
  · intro r job hanswers
    simp only [Job.isOn, Reply.isOn, decide_eq_true_eq, hanswers.sessionUuid, hanswers.streamId]

theorem appRun_inOrder_three_calls :
    ∃ app, run appStep (appStart appServer) appThreeCalls = some app ∧
      app.repliesSeen .ordered = [(0, 1, some 0)] ∧ app.InOrder := by
  obtain ⟨app, hrun, hview⟩ := exists_appThreeCalls
  exact ⟨app, hrun, congrArg AppView.ordered hview, appRun_inOrder ⟨appThreeCalls, hrun⟩⟩

/-! ## (3) No request is lost -/

/-- The requests whose events were not handled yet. -/
def App.waiting (app : App) (name : PoolName) : List Job :=
  onChannel ((app.eventsLeft ++ app.server.events.unread).filterMap Event.job?) name

/-- **Every request is in one place**: replied to, in hand, in its pool or not handled yet. -/
structure App.Placed (app : App) : Prop where
  /-- It has a reply, its task is under way, or its event was not handled yet. -/
  perm : ∀ name, (app.service.answered name ++ (app.entries name).map (fun e => e.task.serial) ++
    List.range' (app.pools name).jobs.length (app.waiting name).length).Perm
      (List.range (app.service.requests name).length)
  /-- In front of `ezgrpc2_server_poll`, with the pools empty, all requests have their replies. -/
  answered : app.point = .loop → (∀ name, pthpoolIsEmpty (app.pools name).base.pool = 1) →
    ∀ name, (app.service.answered name).Perm (List.range (app.service.requests name).length)

namespace App.Inv

variable {app : App}

/-- The requests, those of the events handled first. -/
theorem requests_eq (h : app.Inv) (name : PoolName) :
    app.service.requests name = (app.pools name).jobs ++ app.waiting name := by
  rw [h.replies.jobs, App.waiting, ← onChannel_append, ← List.filterMap_append, ← List.append_assoc,
    h.events.line]
  rfl

/-- A request whose event was handled has a reply, or its task is under way. -/
theorem answered_perm (h : app.Inv) (name : PoolName) :
    (app.service.answered name ++ (app.entries name).map fun e => e.task.serial).Perm
      (List.range (app.pools name).jobs.length) := by
  have hinv := h.pools.pool name
  have hplaces : ((app.pools name).base.places.map Task.serial).Perm
      (List.range (app.pools name).jobs.length) := by
    have hperm := hinv.perm.map Task.serial
    rw [List.map_map, hinv.serials, ← h.memory.length] at hperm
    exact hperm
  refine List.Perm.trans ?_ hplaces
  -- the results that are left were handed out
  have hentries : (app.entries name).map (fun e => e.task.serial)
      = ((app.pools name).base.pool.queue ++ (app.pools name).base.pool.held
          ++ (app.pools name).base.pool.finished).map Task.serial
        ++ (app.left name).map Task.serial := by
    rw [← Pthpool.map_task_entries, App.entries, List.map_append, List.map_map, List.map_map]
    rfl
  have hsplit : (app.pools name).base.places.map Task.serial
      = ((app.pools name).base.pool.queue ++ (app.pools name).base.pool.held
          ++ (app.pools name).base.pool.finished).map Task.serial
        ++ (app.service.answered name ++ (app.left name).map Task.serial) := by
    rw [PoolState.places, List.map_append, h.answered_eq]
  rw [hentries, hsplit]
  exact List.perm_append_comm_assoc _ _ _

/-- Nothing is under way at the head of the loop when a pool is empty. -/
theorem entries_eq_nil (h : app.Inv) (hpoint : app.point = .loop) {name : PoolName}
    (hempty : pthpoolIsEmpty (app.pools name).base.pool = 1) : app.entries name = [] := by
  have hpool := ((h.pools.pool name).isEmpty_iff_nil).mp hempty
  rw [← Pthpool.map_task_entries, List.map_eq_nil_iff] at hpool
  rw [App.entries, hpool, App.left, hpoint]
  rfl

theorem placed (h : app.Inv) : app.Placed where
  perm name := by
    have hrange : List.range' 0 (app.pools name).jobs.length
        ++ List.range' (0 + (app.pools name).jobs.length) (app.waiting name).length
        = List.range' 0 ((app.pools name).jobs.length + (app.waiting name).length) :=
      List.range'_append_1
    rw [Nat.zero_add, ← List.range_eq_range', ← List.range_eq_range'] at hrange
    rw [h.requests_eq, List.length_append, ← hrange]
    exact (h.answered_perm name).append_right _
  answered hpoint hempty name := by
    -- nothing is left of the events, in the pool or of its results
    have hwaiting : app.waiting name = [] := by
      have hunread : app.server.events.unread = [] := h.events.drained fun left hcon => by
        cases hpoint.symm.trans hcon
      rw [App.waiting, App.eventsLeft, hpoint, hunread]
      rfl
    have hperm := h.answered_perm name
    rw [h.entries_eq_nil hpoint (hempty name), List.map_nil, List.append_nil] at hperm
    rw [h.requests_eq, hwaiting, List.append_nil]
    exact hperm

end App.Inv

/-- **No request is lost or answered twice**, wherever the process is. -/
theorem appRun_placed {server : Server} {app : App}
    (h : Reachable appStep (appStart server) app) : app.Placed := (appRun_inv h).placed

theorem appRun_placed_three_calls :
    ∃ app, run appStep (appStart appServer) appThreeCalls = some app ∧
      app.repliesSeen .ordered = [(0, 1, some 0)] ∧ app.Placed := by
  obtain ⟨app, hrun, hview⟩ := exists_appThreeCalls
  exact ⟨app, hrun, congrArg AppView.ordered hview, appRun_placed ⟨appThreeCalls, hrun⟩⟩

/-! ## (4) Memory -/

/-- **Userdata is in order**: what is allocated is in use, and nothing is freed that is not. -/
structure App.MemorySound (app : App) : Prop where
  /-- Memory that is in use is not handed out. -/
  acquires : AcquiresFresh app.userdataCalls
  /-- Nothing is freed that is not allocated, so nothing twice. -/
  releases : ReleasesOpen app.userdataCalls
  /-- What was not freed is the userdata of a task under way or of a result that is left. -/
  live : ∀ addr, addr ∈ openAfter app.userdataCalls ↔
    ∃ name, ∃ e ∈ app.entries name, e.task.userdata = addr
  /-- No two of these have the same. -/
  nodup : app.owners.Nodup

/-- **Userdata is freed once**, and not before its task is done. -/
theorem appRun_memory {server : Server} {app : App}
    (h : Reachable appStep (appStart server) app) : app.MemorySound := by
  have howned := (appRun_inv h).memory.owned
  refine ⟨howned.fresh, howned.releases, fun addr => ?_, howned.nodup⟩
  rw [howned.opened, App.owners, List.map_append, List.mem_append, List.mem_map, List.mem_map]
  constructor
  · rintro (hin | hin)
    · exact ⟨.ordered, hin⟩
    · exact ⟨.unordered, hin⟩
  · rintro ⟨name, hin⟩
    cases name
    · exact Or.inl hin
    · exact Or.inr hin

theorem appRun_memory_three_calls :
    ∃ app, run appStep (appStart appServer) appThreeCalls = some app ∧
      app.userdataCalls = [.acquire 100, .acquire 101, .release 101, .release 100] ∧
      app.MemorySound := by
  obtain ⟨app, hrun, hview⟩ := exists_appThreeCalls
  exact ⟨app, hrun, congrArg AppView.userdataCalls hview, appRun_memory ⟨appThreeCalls, hrun⟩⟩

/-- The list of messages an event brings: the client's, or the empty one made for a DATALOSS. -/
def Event.lists (event : Event) : List (List Message) :=
  match event.kind with
  | .message messages _ _ => [messages]
  | .dataloss _ => [[]]
  | .cancel _ | .connect | .disconnect => []

/-- The lists of the unary calls that were refused. -/
def App.lost (app : App) : List (List Message) :=
  (app.handled.filter Event.isRefused).flatMap Event.lists

/-- A job owns the list of its event. -/
theorem Event.lists_of_job? {event : Event} {name : PoolName} {job : Job}
    (h : event.job? = some (name, job)) : event.lists = job.userdata.lists ∧ event.isRefused = false := by
  obtain ⟨sessionUuid, userdata, kind⟩ := event
  obtain ⟨path, hpath, h⟩ := Option.bind_eq_some_iff.mp h
  have hpath : userdata.bind pathUserdata = some path := hpath
  rw [Event.isRefused, hpath]
  cases kind with
  | message messages streamId endStream =>
      by_cases hrefuses : path.refuses messages.length endStream = true
      · cases (if_pos hrefuses).symm.trans h
      · obtain ⟨-, rfl⟩ := Prod.mk.inj (Option.some.inj ((if_neg hrefuses).symm.trans h))
        exact ⟨rfl, Bool.eq_false_iff.mpr hrefuses⟩
  | dataloss streamId =>
      cases h
      exact ⟨rfl, rfl⟩
  | cancel _ | connect | disconnect => cases h

/-- The jobs of both pools are those of the events. -/
theorem onChannel_perm (reqs : List (PoolName × Job)) :
    (onChannel reqs .ordered ++ onChannel reqs .unordered).Perm (reqs.map Prod.snd) := by
  induction reqs with
  | nil => exact List.Perm.refl _
  | cons r reqs ih =>
      obtain ⟨name, job⟩ := r
      cases name
      · exact ih.cons job
      · refine List.Perm.trans ?_ (ih.cons job)
        exact List.perm_middle

/-- The lists of events that are known are those of their jobs and those of the refused ones. -/
theorem lists_perm {events : List Event}
    (hknown : ∀ e ∈ events, e.kind.ofFrame = true → e.job?.isSome = true ∨ e.isRefused = true) :
    (((events.filterMap Event.job?).map Prod.snd).flatMap (fun job => job.userdata.lists)
      ++ (events.filter Event.isRefused).flatMap Event.lists).Perm (events.flatMap Event.lists) := by
  induction events with
  | nil => exact List.Perm.refl _
  | cons e events ih =>
      have ih := ih fun e' he' => hknown e' (List.mem_cons_of_mem _ he')
      rw [List.flatMap_cons]
      cases hjob : e.job? with
      | some r =>
          obtain ⟨name, job⟩ := r
          obtain ⟨hlists, hrefused⟩ := Event.lists_of_job? hjob
          rw [List.filterMap_cons_some hjob, List.map_cons, List.flatMap_cons,
            List.filter_cons_of_neg (Bool.eq_false_iff.mp hrefused), ← hlists, List.append_assoc]
          exact List.Perm.append_left _ ih
      | none =>
          rw [List.filterMap_cons_none hjob]
          by_cases hrefused : e.isRefused = true
          · rw [List.filter_cons_of_pos hrefused, List.flatMap_cons]
            exact (List.perm_append_comm_assoc _ _ _).trans (List.Perm.append_left _ ih)
          · -- any other event has no list
            have hlists : e.lists = [] := by
              have hframe : e.kind.ofFrame = false := by
                by_contra hcon
                rcases hknown e List.mem_cons_self (Bool.not_eq_false _ ▸ hcon) with hsome | hyes
                · rw [hjob] at hsome
                  cases hsome
                · exact hrefused hyes
              rw [Event.lists]
              cases hkind : e.kind with
              | message | dataloss =>
                  rw [hkind] at hframe
                  cases hframe
              | cancel | connect | disconnect => rfl
            rw [List.filter_cons_of_neg hrefused, hlists]
            exact ih

/-- **The messages of clients are freed once**: the list of an event that was handled was freed, or the
userdata of its task has it, unless the call was refused; then it is lost. -/
theorem appRun_lists {server : Server} {app : App}
    (h : Reachable appStep (appStart server) app) :
    (app.freed ++ contents Userdata.lists app.heap app.owners ++ app.lost).Perm
      (app.handled.flatMap Event.lists) := by
  have hinv := appRun_inv h
  refine List.Perm.trans ?_ (lists_perm hinv.replies.known)
  refine List.Perm.append_right _ (hinv.memory.lists.trans ?_)
  refine List.Perm.flatMap_right _ ?_
  rw [App.allJobs, hinv.replies.jobs, hinv.replies.jobs]
  exact onChannel_perm _

theorem appRun_lists_three_calls :
    ∃ app, run appStep (appStart appServer) appThreeCalls = some app ∧ app.freed.length = 2 ∧
      (app.freed ++ contents Userdata.lists app.heap app.owners ++ app.lost).Perm
        (app.handled.flatMap Event.lists) := by
  obtain ⟨app, hrun, hview⟩ := exists_appThreeCalls
  exact ⟨app, hrun, congrArg AppView.freed hview, appRun_lists ⟨appThreeCalls, hrun⟩⟩

/-! ## (5) Pointers -/

/-- The messages a callback leaves are there, and none of them is empty. -/
theorem callFunc_omessages {func : ℕ} {pp : Fin 5 → UInt32} {userdata : Userdata} {r : CallbackEnd}
    (h : callFunc func pp userdata = some r) :
    ∃ omessages, r.userdata.omessages = some omessages ∧ ∀ m ∈ omessages, m.len = 11 := by
  have hresponses : ∀ {text : String}, (bytesOf text).length = 6 → ∀ m ∈ responses text pp,
      m.len = 11 := by
    intro text htext m hm
    obtain ⟨i, -, rfl⟩ := List.mem_map.mp hm
    show (u32Bytes (pp i).toNat ++ bytesOf text ++ [0]).length % 2 ^ 32 = 11
    rw [List.length_append, List.length_append, htext]
    rfl
  unfold callFunc at h
  split at h
  · obtain rfl := Option.some.inj h
    unfold callbackPath0
    dsimp only
    split
    · exact ⟨[], rfl, fun m hm => by cases hm⟩
    · exact ⟨_, rfl, hresponses rfl⟩
  · obtain rfl := Option.some.inj h
    unfold callbackPath1
    dsimp only
    split
    · exact ⟨[], rfl, fun m hm => by cases hm⟩
    · exact ⟨_, rfl, hresponses rfl⟩
  · cases h

/-- The result of a task, as `main` follows its pointers. -/
structure App.Holds (app : App) (result : Task) (userdata : Userdata) (omessages : List Message) :
    Prop where
  /-- The result is not one of a task that was late. -/
  isTimeout : result.isTimeout = false
  /-- What the task returned is its userdata. -/
  ret : result.ret = some result.userdata
  /-- The userdata of the task is still in memory. -/
  heap : app.heap result.userdata = some userdata
  /-- The messages to send are in the userdata. -/
  toSend : userdata.omessages = some omessages
  /-- No message of the response is empty. -/
  len : ∀ m ∈ omessages, m.len = 11

/-- **No pointer is null or dangling** where `main` or a worker follows one. -/
structure App.NoFault (app : App) : Prop where
  /-- A worker can call the function of the task it holds. -/
  exec : ∀ name i task, (app.pools name).base.pool.threads[i]? = some (.holding task) →
    ∀ now pp, (app.exec name i now pp).isSome = true
  /-- `main` can follow the pointers of a result. -/
  result : ∀ name result left, app.point = .results name (result :: left) →
    ∃ userdata omessages, app.Holds result userdata omessages
  /-- It aborts in the calls of the library only. -/
  handled : ∀ name result left h, app.point = .results name (result :: left) →
    (∀ userdata omessages, app.Holds result userdata omessages →
      ∃ r, sessionStreamSend app.server userdata.sessionUuid userdata.streamId omessages h.sends
        = some r ∧ (sessionStreamEnd r.server userdata.sessionUuid userdata.streamId userdata.status
          h.send).isSome = true) →
    (handleResult app name result h).isSome = true

/-- A worker that holds a task can call its function. -/
theorem App.MemoryOk.exec_isSome {app : App} (h : app.MemoryOk) {name : PoolName} {i : ℕ} {task : Task}
    (htask : (app.pools name).base.pool.threads[i]? = some (.holding task)) (now : ℤ)
    (pp : Fin 5 → UInt32) : (app.exec name i now pp).isSome = true := by
  have hstep : ∃ base, poolStep (app.pools name).base (.exec i now (some task.userdata)) = some base := by
    rw [poolStep, htask]
    exact ⟨_, rfl⟩
  obtain ⟨base, hbase⟩ := hstep
  obtain ⟨task', rest, htask', hentries, -⟩ := PoolState.entries_exec hbase
  obtain rfl := Worker.holding.inj (Option.some.inj (htask.symm.trans htask'))
  obtain ⟨job, hstands, hholds⟩ := h.entry_of_holding hentries
  have hheap : app.heap task.userdata = some job.userdata := hholds
  have hfunc : ∃ r, callFunc task.func pp job.userdata = some r := by
    have hle : task.func ≤ 1 := by
      rw [show task.func = job.func from hstands.func]
      exact h.func name job (List.mem_of_getElem? hstands.numbered)
    obtain hzero | hone : task.func = 0 ∨ task.func = 1 := by omega
    · rw [hzero]
      exact ⟨_, rfl⟩
    · rw [hone]
      exact ⟨_, rfl⟩
  obtain ⟨r, hfunc⟩ := hfunc
  rw [App.exec, htask]
  simp only [hbase, h.called hentries, Option.bind_eq_bind, Option.bind_some, if_true]
  rw [show (app.setPool name _).heap task.userdata = some job.userdata from hheap, Option.bind_some,
    hfunc]
  rfl

namespace App.Inv

variable {app : App}

/-- The next result that `main` handles has its userdata and a response in memory. -/
theorem exists_holds (h : app.Inv) {name : PoolName} {result : Task} {left : List Task}
    (hpoint : app.point = .results name (result :: left)) :
    ∃ userdata omessages, app.Holds result userdata omessages := by
  obtain ⟨job, hstands, hret, pp, r, hfunc, hheap⟩ := h.memory.result hpoint
  obtain ⟨omessages, homessages, hlen⟩ := callFunc_omessages hfunc
  exact ⟨r.userdata, omessages, hstands.isTimeout, hret, hheap, homessages, hlen⟩

/-- A result with userdata in memory can be handled, where the calls on its stream go through. -/
theorem handleResult_isSome {name : PoolName} {result : Task} {h : Handling} {userdata : Userdata}
    {omessages : List Message} (hholds : app.Holds result userdata omessages) {r : CallResult}
    (hsend : sessionStreamSend app.server userdata.sessionUuid userdata.streamId omessages h.sends = some r)
    (hend : (sessionStreamEnd r.server userdata.sessionUuid userdata.streamId userdata.status
      h.send).isSome = true) : (handleResult app name result h).isSome = true := by
  have hfree : ∀ {app' : App} {userdata' : Userdata}, app'.heap result.userdata = some userdata' →
      (app'.freeUserdata result.userdata).isSome = true := by
    intro app' userdata' hdata
    rw [App.freeUserdata, hdata]
    rfl
  obtain ⟨r', hr'⟩ := Option.isSome_iff_exists.mp hend
  have hstored : Function.update app.heap result.userdata
      (some { userdata with omessages := some r.messages }) result.userdata
      = some { userdata with omessages := some r.messages } := Function.update_self _ _ _
  have hle := sessionStreamSend_ret_le hsend
  rw [handleResult, hholds.isTimeout, if_neg Bool.false_ne_true]
  simp only [hholds.ret, hholds.heap, hholds.toSend, hsend, Option.bind_eq_bind, Option.bind_some]
  generalize r.ret = ret at hle
  obtain rfl | rfl | rfl | rfl : ret = 0 ∨ ret = 1 ∨ ret = 2 ∨ ret = 3 := by omega
  · show (if userdata.endStream = true then _ else _ : Option App).isSome = true
    split
    · rw [hr', Option.bind_some]
      apply hfree
      exact hstored
    · apply hfree
      exact hstored
  all_goals
    apply hfree
    exact hstored

end App.Inv

/-- **The process never follows a null or dangling pointer**, and no task is ever late. -/
theorem appRun_noFault {server : Server} {app : App}
    (h : Reachable appStep (appStart server) app) : app.NoFault := by
  have hinv := appRun_inv h
  refine ⟨fun name i task htask now pp => hinv.memory.exec_isSome htask now pp,
    fun name result left hpoint => hinv.exists_holds hpoint,
    fun name result left h hpoint hcalls => ?_⟩
  obtain ⟨userdata, omessages, hholds⟩ := hinv.exists_holds hpoint
  obtain ⟨r, hsend, hend⟩ := hcalls userdata omessages hholds
  exact App.Inv.handleResult_isSome hholds hsend hend

theorem appRun_noFault_three_calls :
    ∃ app, run appStep (appStart appServer) appThreeCalls = some app ∧ app.handled.length = 4 ∧
      app.NoFault := by
  obtain ⟨app, hrun, hview⟩ := exists_appThreeCalls
  exact ⟨app, hrun, congrArg AppView.handled hview, appRun_noFault ⟨appThreeCalls, hrun⟩⟩

end Ezgrpc2
