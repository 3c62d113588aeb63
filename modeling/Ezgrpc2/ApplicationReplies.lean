import Ezgrpc2.ApplicationInvariant
import Ezgrpc2.Lib.RequestReply

/-! # Requests and replies

What the application is for: each request the server reports is answered once, by the messages its
callback makes of it, on the stream it came from. The replies to streaming calls come in the order of
the requests; the unary calls may overtake each other. `App.service` is the process as a client sees
it, and `appRun_service` says that it is a service of this kind whatever its workers do; at the head of
the loop with the pools empty nothing is left to answer (`appRun_placed`). -/

namespace Ezgrpc2

open Handles Ownership RequestReply StepRuns

/-! ## (1) Replies -/

/-- **A reply answers a request**: it is sent on the stream of the request, it holds what the callback
makes of it, and the stream is ended when the client has ended it and the messages could be sent. -/
structure Reply.Answers (r : Reply) (job : Job) : Prop where
  /-- The calls are made on the session of the request. -/
  sessionUuid : r.sessionUuid = job.userdata.sessionUuid
  /-- The calls are made on the stream of the request. -/
  streamId : r.streamId = job.userdata.streamId
  /-- The messages sent are those that the callback of the path makes. -/
  messages : ∃ pp c, callFunc job.func pp job.userdata = some c ∧ c.userdata.omessages = some r.messages
  /-- The stream is ended with the status of the request, as its client ended it and the send
  returned 0. -/
  ended : r.ended
    = if r.ret = 0 ∧ job.userdata.endStream = true then some job.userdata.status else none

/-- A callback leaves the session, the stream, the end and the status of its userdata. -/
theorem callFunc_keeps {func : ℕ} {pp : Fin 5 → UInt32} {userdata : Userdata} {r : CallbackEnd}
    (h : callFunc func pp userdata = some r) :
    r.userdata.sessionUuid = userdata.sessionUuid ∧ r.userdata.streamId = userdata.streamId ∧
      r.userdata.endStream = userdata.endStream ∧ r.userdata.status = userdata.status := by
  unfold callFunc at h
  split at h
  · obtain rfl := Option.some.inj h
    unfold callbackPath0
    dsimp only
    split <;> exact ⟨rfl, rfl, rfl, rfl⟩
  · obtain rfl := Option.some.inj h
    unfold callbackPath1
    dsimp only
    split <;> exact ⟨rfl, rfl, rfl, rfl⟩
  · cases h

/-- The userdata of a result holds what its callback has made of the job. -/
theorem App.MemoryOk.answers {app : App} (h : app.MemoryOk) {name : PoolName} {result : Task} {left : List Task}
    {data : ℕ} {userdata : Userdata} {omessages : List Message} {sends : List NgSend} {r : CallResult}
    {ended : Option ℤ} {server : Server} (hpoint : app.point = .results name (result :: left))
    (hret : result.ret = some data) (hdata : app.heap data = some userdata)
    (homessages : userdata.omessages = some omessages)
    (hsend : sessionStreamSend app.server userdata.sessionUuid userdata.streamId omessages sends
      = some r)
    (hfinish : Finish r userdata ended server) :
    ∃ job, (app.pools name).jobs[result.serial]? = some job ∧
      Reply.Answers
        ⟨result, userdata.sessionUuid, userdata.streamId, omessages, r.ret, ended⟩ job := by
  obtain ⟨job, hstands, hret', pp, c, hfunc, hheap⟩ := h.result hpoint
  obtain rfl : data = result.userdata := Option.some.inj (hret.symm.trans hret')
  obtain rfl : userdata = c.userdata := Option.some.inj (hdata.symm.trans hheap)
  obtain ⟨huuid, hid, hend, hstatus⟩ := callFunc_keeps hfunc
  refine ⟨job, hstands.numbered, huuid, hid, ⟨pp, c, hfunc, homessages⟩, ?_⟩
  rw [← hend, ← hstatus]
  exact hfinish.ended_eq

/-- **The replies are those of the requests.** -/
structure App.RepliesOk (app : App) : Prop where
  /-- The jobs are those of the events that were handled. -/
  jobs : ∀ name, (app.pools name).jobs = onChannel (app.handled.filterMap Event.job?) name
  /-- What a pool gave back was replied to or is left. -/
  handed : ∀ name,
    (app.pools name).base.handed = (app.pools name).replies.map Reply.task ++ app.left name
  /-- An event of a DATA frame that was handled is a request, or it was refused. -/
  known : ∀ e ∈ app.handled, e.kind.ofFrame = true → e.job?.isSome = true ∨ e.isRefused = true

namespace App.RepliesOk

variable {app app' : App}

/-- Steps that handle no event and no result keep the replies as they are. -/
theorem congr (h : app.RepliesOk) (hjobs : ∀ name, (app'.pools name).jobs = (app.pools name).jobs)
    (hreplies : ∀ name, (app'.pools name).replies = (app.pools name).replies)
    (hhandled : app'.handled = app.handled)
    (hhanded : ∀ name, (app'.pools name).base.handed ++ app.left name
      = (app.pools name).base.handed ++ app'.left name)
    (hleft : ∀ name, app.left name = [] ∨ app'.left name = app.left name) : app'.RepliesOk where
  jobs name := by
    rw [hjobs, hhandled]
    exact h.jobs name
  handed name := by
    have hline := hhanded name
    rw [hreplies]
    rcases hleft name with hnil | hsame
    · rw [hnil, List.append_nil, h.handed, hnil, List.append_nil] at hline
      exact hline
    · rw [hsame] at hline ⊢
      rw [List.append_cancel_right hline, h.handed]
  known := by
    rw [hhandled]
    exact h.known

/-- An event is handled that adds no job. -/
theorem pass (h : app.RepliesOk) {event : Event} (hjob : event.job? = none)
    (hpassed : event.kind.ofFrame = false ∨ event.isRefused = true)
    (hpools : app'.pools = app.pools) (hhandled : app'.handled = app.handled ++ [event])
    (hleft : ∀ name, app'.left name = app.left name) : app'.RepliesOk where
  jobs name := by
    rw [hpools, hhandled, List.filterMap_append, onChannel_append, ← h.jobs]
    simp [hjob, onChannel]
  handed name := by
    rw [hpools, hleft]
    exact h.handed name
  known e he hframe := by
    rw [hhandled, List.mem_append, List.mem_singleton] at he
    rcases he with he | rfl
    · exact h.known e he hframe
    · exact Or.inr (hpassed.resolve_left (by simp [hframe]))

/-- An event is handled that adds a job. -/
theorem add (h : app.RepliesOk) {event : Event} {name : PoolName} {job : Job}
    (hjob : event.job? = some (name, job)) {base : PoolState}
    (hhanded : base.handed = (app.pools name).base.handed)
    (hpools : app'.pools = Function.update app.pools name
      { app.pools name with base := base, jobs := (app.pools name).jobs ++ [job] })
    (hhandled : app'.handled = app.handled ++ [event])
    (hleft : ∀ name, app'.left name = app.left name) : app'.RepliesOk := by
  have hside : ∀ name', (app'.pools name').jobs
        = (app.pools name').jobs ++ onChannel [(name, job)] name' ∧
      (app'.pools name').base.handed = (app.pools name').base.handed ∧
      (app'.pools name').replies = (app.pools name').replies := by
    intro name'
    rw [hpools]
    by_cases hname : name' = name
    · subst hname
      rw [Function.update_self]
      simp [hhanded, onChannel]
    · rw [Function.update_of_ne hname]
      simp [onChannel, Ne.symm hname]
  refine ⟨fun name' => ?_, fun name' => ?_, fun e he hframe => ?_⟩
  · rw [(hside name').1, hhandled, List.filterMap_append, onChannel_append, h.jobs,
      List.filterMap_cons_some hjob, List.filterMap_nil]
  · rw [(hside name').2.1, (hside name').2.2, hleft]
    exact h.handed name'
  · rw [hhandled, List.mem_append, List.mem_singleton] at he
    rcases he with he | rfl
    · exact h.known e he hframe
    · rw [hjob]
      exact Or.inl rfl

/-- A result that is sent becomes the reply to the request it was made for. -/
theorem reply (h : app.RepliesOk) {name : PoolName} {reply : Reply} {left : List Task}
    (hpoint : app.point = .results name (reply.task :: left))
    (hpoint' : app'.point = .results name left)
    (hpools : app'.pools = Function.update app.pools name
      { app.pools name with replies := (app.pools name).replies ++ [reply] })
    (hhandled : app'.handled = app.handled) : app'.RepliesOk := by
  refine ⟨fun name' => ?_, fun name' => ?_, by rw [hhandled]; exact h.known⟩
  · rw [hpools, hhandled, ← h.jobs]
    by_cases hname : name' = name
    · subst hname
      rw [Function.update_self]
    · rw [Function.update_of_ne hname]
  · rw [hpools]
    by_cases hname : name' = name
    · subst hname
      rw [Function.update_self, App.left_self hpoint', h.handed, App.left_self hpoint]
      simp
    · rw [Function.update_of_ne hname, App.left_of_ne hpoint' hname, h.handed,
        App.left_of_ne hpoint hname]

/-- **Every step keeps the replies to the requests they are made for.** -/
theorem step (h : app.RepliesOk) (hmem : app.MemoryOk) (hmove : AppMove app app') :
    app'.RepliesOk := by
  -- a step that leaves the pools alone and no results before or behind it
  have hquiet : ∀ {app' : App}, app'.pools = app.pools → app'.handled = app.handled →
      (∀ name, app'.left name = app.left name) → app'.RepliesOk := by
    intro app' hpools hhandled hleft
    refine h.congr (fun name => by rw [hpools]) (fun name => by rw [hpools]) hhandled
      (fun name => by rw [hpools, hleft]) fun name => Or.inr (hleft name)
  -- a step of a pool that hands nothing out
  have hpool : ∀ {app' : App} {name : PoolName} {base : PoolState},
      (app.pools name).base.SameEnds base → app'.point = app.point → app'.handled = app.handled →
      app'.pools = Function.update app.pools name { app.pools name with base := base } →
      app'.RepliesOk := by
    intro app' name base hends hpoint hhandled hpools
    have hside : ∀ name', (app'.pools name').jobs = (app.pools name').jobs ∧
        (app'.pools name').base.handed = (app.pools name').base.handed ∧
        (app'.pools name').replies = (app.pools name').replies := by
      intro name'
      rw [hpools]
      by_cases hname : name' = name
      · subst hname
        rw [Function.update_self]
        exact ⟨rfl, hends.handed, rfl⟩
      · rw [Function.update_of_ne hname]
        exact ⟨rfl, rfl, rfl⟩
    have hleft : ∀ name, app'.left name = app.left name := by
      intro name
      rw [App.left, App.left, hpoint]
    exact h.congr (fun name' => (hside name').1) (fun name' => (hside name').2.2) hhandled
      (fun name' => by rw [(hside name').2.1, hleft]) fun name' => Or.inr (hleft name')
  cases hmove with
  | quit hpoint =>
      refine hquiet rfl rfl fun name => ?_
      rw [App.left, App.left, hpoint]
  | polls hpoint =>
      refine hquiet rfl rfl fun name => ?_
      unfold App.left
      dsimp only
      rw [hpoint]
      split_ifs <;> rfl
  | reads hpoint =>
      refine hquiet rfl rfl fun name => ?_
      unfold App.left
      dsimp only
      rw [hpoint]
      cases (eventsRead app.server.events).1 <;> rfl
  | @turns name hpoint =>
      refine hquiet rfl rfl fun name' => ?_
      unfold App.left
      dsimp only
      rw [hpoint]
      cases name <;> exact (ite_self _).symm
  | @passes event left server hpoint hjob hserver =>
      have hpassed : event.kind.ofFrame = false ∨ event.isRefused = true := by
        rcases hserver with ⟨hframe, -⟩ | ⟨_, _, _, _, _, hrefused, -⟩
        · exact Or.inl hframe
        · exact Or.inr hrefused
      refine h.pass hjob hpassed rfl rfl fun name => ?_
      rw [App.left, App.left, hpoint]
  | adds hpoint _ hjob hbase =>
      refine h.add hjob (PoolState.entries_addTask hbase).2.2 rfl rfl fun name => ?_
      rw [App.left, App.left, hpoint]
  | @takes name base hpoint hbase =>
      have hnil : ∀ name, app.left name = [] := App.left_eq_nil fun name left hcon => by
        cases hpoint.symm.trans hcon
      refine h.congr (fun name' => ?_) (fun name' => ?_) rfl (fun name' => ?_)
        fun name' => Or.inl (hnil name')
      all_goals
        by_cases hname : name' = name
      · subst hname
        show ((app.setPool name' _).pools name').jobs = _
        rw [App.setPool_pools_self]
      · show ((app.setPool name _).pools name').jobs = _
        rw [App.setPool_pools_of_ne _ _ hname]
      · subst hname
        show ((app.setPool name' _).pools name').replies = _
        rw [App.setPool_pools_self]
      · show ((app.setPool name _).pools name').replies = _
        rw [App.setPool_pools_of_ne _ _ hname]
      · subst hname
        rw [hnil, List.append_nil, App.left_self rfl]
        show ((app.setPool name' _).pools name').base.handed = _
        rw [App.setPool_pools_self, (PoolState.entries_poll hbase).2.2]
      · rw [hnil, App.left_of_ne rfl hname]
        show ((app.setPool name _).pools name').base.handed ++ [] = _
        rw [App.setPool_pools_of_ne _ _ hname]
  | sends hpoint => exact h.reply hpoint rfl rfl rfl
  | drops hpoint hlate =>
      obtain ⟨job, hstands, -⟩ := hmem.result hpoint
      cases hlate.symm.trans hstands.isTimeout
  | works hbase => exact hpool (PoolState.entries_worker hbase).2 rfl rfl rfl
  | skips _ hbase =>
      obtain ⟨-, -, -, -, -, hends⟩ := PoolState.entries_exec hbase
      exact hpool hends rfl rfl rfl
  | calls _ hbase =>
      obtain ⟨-, -, -, -, -, hends⟩ := PoolState.entries_exec hbase
      exact hpool hends rfl rfl rfl

end App.RepliesOk

/-! ## (2) Runs -/

/-- **The invariant of the application**, which the four parts below make up. -/
structure App.Inv (app : App) : Prop where
  /-- The events written are handled in order. -/
  events : app.EventsOk
  /-- The pools keep their own invariants. -/
  pools : PoolsOk app.pools
  /-- The memory is in order: userdata belongs to tasks under way. -/
  memory : app.MemoryOk
  /-- The replies answer the requests they are made for. -/
  replies : app.RepliesOk

/-- Every step of the process keeps the invariant. -/
theorem App.Inv.step {app app' : App} (h : app.Inv) {a : AppAction}
    (hstep : appStep app a = some app') : app'.Inv := by
  have hmove := appStep_move hstep
  exact ⟨h.events.step hmove, h.pools.step hmove, h.memory.step hmove, h.replies.step h.memory hmove⟩

/-- The invariant holds when `main` enters its loop. -/
theorem appStart_inv (server : Server) : (appStart server).Inv where
  events := ⟨rfl, fun _ => rfl⟩
  pools := by
    refine ⟨fun name => ?_, .start, PoolState.poolStart_inLine⟩
    cases name
    · exact poolStart_inv 1
    · exact poolStart_inv 2
  memory := by
    have hentries : ∀ name, (appStart server).entries name = [] := by
      intro name
      cases name <;> rfl
    refine ⟨fun name => ?_, fun name job hjob => ?_, fun name e he => ?_, ?_, ?_⟩
    · cases name <;> rfl
    · cases name <;> cases hjob
    · rw [hentries] at he
      cases he
    · exact Owned.empty
    · exact List.Perm.refl _
  replies := by
    refine ⟨fun name => ?_, fun name => ?_, fun e he => ?_⟩
    · cases name <;> rfl
    · cases name <;> rfl
    · cases he

/-- Every state of the application has it. -/
theorem appRun_inv {server : Server} {app : App} (h : Reachable appStep (appStart server) app) :
    app.Inv :=
  h.invariant (appStart_inv server) fun _ _ _ hinv hstep => hinv.step hstep

/-! ## (3) The application is a service -/

/-- **The process as its clients see it**: the requests the server has written events of, and the replies
to them. -/
def App.service (app : App) : Service PoolName Job Reply where
  requests := onChannel (app.written.filterMap Event.job?)
  replies name := (app.pools name).replies.map fun r => (r.task.serial, r)

/-- The pool whose channel is answered in order, that of the streaming calls. -/
def PoolName.IsOrdered (name : PoolName) : Prop := name = .ordered

namespace App.Inv

variable {app app' : App}

/-- The jobs are the first of the requests. -/
theorem jobs_prefix (h : app.Inv) (name : PoolName) :
    (app.pools name).jobs <+: app.service.requests name := by
  have hrequests : app.service.requests name
      = onChannel (app.handled.filterMap Event.job?) name
        ++ onChannel ((app.eventsLeft ++ app.server.events.unread).filterMap Event.job?) name := by
    rw [App.service, ← h.events.line, ← onChannel_append, ← List.filterMap_append, List.append_assoc]
  rw [hrequests, h.replies.jobs]
  exact List.prefix_append _ _

/-- The numbers of the requests with a reply are those of tasks the pool gave back. -/
theorem answered_eq (h : app.Inv) (name : PoolName) :
    (app.pools name).base.handed.map Task.serial
      = app.service.answered name ++ (app.left name).map Task.serial := by
  rw [h.replies.handed, List.map_append, List.map_map, Service.answered, App.service, List.map_map]
  rfl

/-- The next result has no reply yet. -/
theorem serial_notMem (h : app.Inv) {name : PoolName} {result : Task} {left : List Task}
    (hpoint : app.point = .results name (result :: left)) :
    result.serial ∉ app.service.answered name := by
  have hnodup : ((app.pools name).base.handed.map Task.serial).Nodup := by
    refine (h.pools.pool name).nodup.sublist (List.Sublist.map _ ?_)
    exact List.sublist_append_right _ _
  rw [h.answered_eq, App.left_self hpoint] at hnodup
  intro hmem
  exact (List.nodup_append.mp hnodup).2.2 _ hmem _ List.mem_cons_self rfl

/-- In the ordered pool it is the oldest one without a reply. -/
theorem serial_eq (h : app.Inv) {result : Task} {left : List Task}
    (hpoint : app.point = .results .ordered (result :: left)) :
    result.serial = (app.service.replies .ordered).length := by
  obtain ⟨w, hw⟩ := h.pools.line
  have hhanded : (app.pools .ordered).base.handed.map Task.serial
      <+: List.range (app.pools .ordered).base.accepted.length := by
    have hprefix := hw.inOrder.handed.map Task.serial
    rw [List.map_map, (h.pools.pool .ordered).serials] at hprefix
    exact hprefix
  rw [h.answered_eq, App.left_self hpoint] at hhanded
  -- the task at a place of a prefix of the numbers has the number of the place
  have hget := List.prefix_iff_getElem?.mp hhanded (app.service.answered .ordered).length (by simp)
  rw [List.getElem_append_right (Nat.le_refl _), List.getElem?_eq_some_iff] at hget
  obtain ⟨_, hget⟩ := hget
  rw [List.getElem_range] at hget
  simp only [Nat.sub_self, List.map_cons, List.getElem_cons_zero] at hget
  rw [← hget, Service.answered, List.length_map]

/-- **A step of the process is none of the service, a reply, or requests that come in.** -/
theorem service_step (h : app.Inv) (hmove : AppMove app app') :
    Steps Reply.Answers PoolName.IsOrdered app.service app'.service := by
  -- a step without events of the server or replies
  have hquiet : ∀ {app' : App}, app'.written = app.written →
      (∀ name, (app'.pools name).replies = (app.pools name).replies) →
      Steps Reply.Answers PoolName.IsOrdered app.service app'.service := by
    intro app' hwritten hreplies
    have hsame : app'.service = app.service := by
      rw [App.service, App.service, hwritten]
      congr 1
      funext name
      rw [hreplies]
    rw [hsame]
  have hpool : ∀ (name : PoolName) (side : PoolSide), side.replies = (app.pools name).replies →
      ∀ name', (Function.update app.pools name side name').replies = (app.pools name').replies := by
    intro name side hside name'
    by_cases hname : name' = name
    · subst hname
      rw [Function.update_self, hside]
    · rw [Function.update_of_ne hname]
  cases hmove with
  | quit | reads | passes | drops | turns => exact hquiet rfl fun _ => rfl
  | adds => exact hquiet rfl (hpool _ _ rfl)
  | takes => exact hquiet rfl (hpool _ _ rfl)
  | works => exact hquiet rfl (hpool _ _ rfl)
  | skips => exact hquiet rfl (hpool _ _ rfl)
  | calls => exact hquiet rfl (hpool _ _ rfl)
  | @polls round res server =>
      have hrequests := Steps.requests Reply.Answers PoolName.IsOrdered app.service
        ((server.events.unread.drop app.server.events.unread.length).filterMap Event.job?)
      convert hrequests using 1
      unfold App.service
      dsimp only
      congr 1
      funext name
      rw [List.filterMap_append, onChannel_append]
  | @sends name result left data userdata omessages sends r ended server hpoint _ hret hdata homessages
      hsend hfinish =>
      obtain ⟨job, hjob, hanswers⟩ :=
        h.memory.answers hpoint hret hdata homessages hsend hfinish
      obtain ⟨hlt, rfl⟩ := List.getElem?_eq_some_iff.mp hjob
      refine Relation.ReflTransGen.single ?_
      have hreply : Step Reply.Answers PoolName.IsOrdered app.service _ :=
        .reply name (List.prefix_iff_getElem?.mp (h.jobs_prefix name) _ hlt) hanswers
          (h.serial_notMem hpoint) (by rintro rfl; exact h.serial_eq hpoint)
      convert hreply using 1
      unfold App.service Service.reply
      dsimp only
      congr 1
      funext name'
      by_cases hname : name' = name
      · subst hname
        rw [Function.update_self]
        show ((App.record _ _ _).pools name').replies.map _ = _
        rw [App.record, App.setPool_pools_self, List.map_append]
        rfl
      · rw [Function.update_of_ne hname]
        show ((App.record _ _ _).pools name').replies.map _ = _
        rw [App.record, App.setPool_pools_of_ne _ _ hname]
        rfl

end App.Inv

end Ezgrpc2
