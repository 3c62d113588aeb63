import Ezgrpc2.ApplicationSteps
import Ezgrpc2.Lib.Ownership

/-! # The invariants of the application

Where the events, the tasks and the objects of the application are between any two steps. The events
the server wrote are handled, left of the array at hand or still queued (`EventsOk`); the pools are in
order (`PoolsOk`); each task stands for the job of an event and its userdata is what the job says, or
what the callback made of it (`MemoryOk`); the results that were handled are those the pools gave back
(`RepliesOk`). -/

namespace Ezgrpc2

open FlatMemory Handles Ownership StepRuns

/-! ## (1) Where things are -/

namespace App

/-- The results of a pool that are left to handle. -/
def left (app : App) (name : PoolName) : List Task :=
  match app.point with
  | .results name' left => if name' = name then left else []
  | .loop | .events _ | .poll _ | .exit => []

/-- The events that are left of the array at hand. -/
def eventsLeft (app : App) : List Event :=
  match app.point with
  | .events left => left
  | .loop | .poll _ | .results _ _ | .exit => []

/-- The tasks under way in a pool, and the results of it that are left. -/
def entries (app : App) (name : PoolName) : List Entry :=
  (app.pools name).base.pool.entries ++ (app.left name).map (Entry.mk true)

theorem left_self {app : App} {name : PoolName} {left : List Task}
    (h : app.point = .results name left) : app.left name = left := by
  rw [App.left, h]
  exact if_pos rfl

theorem left_of_ne {app : App} {name name' : PoolName} {left : List Task}
    (h : app.point = .results name left) (hne : name' ≠ name) : app.left name' = [] := by
  rw [App.left, h]
  exact if_neg (Ne.symm hne)

/-- No results are left where `main` is not handling any. -/
theorem left_eq_nil {app : App} (h : ∀ name left, app.point ≠ .results name left) (name : PoolName) :
    app.left name = [] := by
  rw [App.left]
  cases hp : app.point with
  | results name' left => exact absurd hp (h name' left)
  | loop | events | poll | exit => rfl

/-- The addresses of the userdata of tasks. -/
def owners (app : App) : List ℕ :=
  (app.entries .ordered ++ app.entries .unordered).map fun e => e.task.userdata

end App

/-- The pool of the two that a name does not stand for. -/
def PoolName.other : PoolName → PoolName
  | .ordered => .unordered
  | .unordered => .ordered

theorem PoolName.other_ne (name : PoolName) : name.other ≠ name := by
  cases name <;> decide

/-- Every pool is a given one or the other one. -/
theorem PoolName.eq_or_eq_other (name name' : PoolName) : name' = name ∨ name' = name.other := by
  cases name <;> cases name' <;> decide

/-- The owners, those of one pool first. -/
theorem App.owners_perm (app : App) (name : PoolName) :
    app.owners.Perm ((app.entries name ++ app.entries name.other).map fun e => e.task.userdata) := by
  cases name with
  | ordered => exact List.Perm.refl _
  | unordered => exact List.perm_append_comm.map _

/-! ## (2) Events -/

/-- **The events the server wrote** are handled, at hand or queued, in this order. -/
structure App.EventsOk (app : App) : Prop where
  /-- The events handled, those in hand and those unread are all events written, in order. -/
  line : app.handled ++ app.eventsLeft ++ app.server.events.unread = app.written
  /-- The queue is empty unless `main` is reading it. -/
  drained : (∀ left, app.point ≠ .events left) → app.server.events.unread = []

namespace App.EventsOk

variable {app app' : App}

/-- Steps that touch no event keep the events in order. -/
theorem congr (h : app.EventsOk) (hpoint : ∀ left, app.point ≠ .events left)
    (hpoint' : ∀ left, app'.point ≠ .events left) (hevents : app'.server.events = app.server.events)
    (hwritten : app'.written = app.written) (hhandled : app'.handled = app.handled) :
    app'.EventsOk := by
  have hleft : ∀ {a : App}, (∀ left, a.point ≠ .events left) → a.eventsLeft = [] := by
    intro a ha
    rw [App.eventsLeft]
    cases hp : a.point with
    | events left => exact absurd hp (ha left)
    | loop | poll | results | exit => rfl
  refine ⟨?_, fun _ => ?_⟩
  · rw [hleft hpoint', hevents, hwritten, hhandled, ← h.line, hleft hpoint]
  · rw [hevents]
    exact h.drained hpoint

/-- Neither events nor the point of `main` are. -/
theorem congr_point (h : app.EventsOk) (hpoint : app'.point = app.point)
    (hserver : app'.server = app.server) (hwritten : app'.written = app.written)
    (hhandled : app'.handled = app.handled) : app'.EventsOk where
  line := by
    rw [App.eventsLeft, hpoint, hserver, hwritten, hhandled]
    exact h.line
  drained := by
    rw [hpoint, hserver]
    exact h.drained

/-- Handling an event moves it from those in hand to those handled. -/
theorem handle (h : app.EventsOk) {event : Event} {left : List Event}
    (hpoint : app.point = .events (event :: left)) (hpoint' : app'.point = .events left)
    (hevents : app'.server.events = app.server.events) (hwritten : app'.written = app.written)
    (hhandled : app'.handled = app.handled ++ [event]) : app'.EventsOk where
  line := by
    have hline := h.line
    rw [App.eventsLeft, hpoint] at hline
    rw [App.eventsLeft, hpoint', hevents, hwritten, hhandled, ← hline]
    simp only [List.append_assoc, List.cons_append, List.nil_append]
  drained hcon := absurd hpoint' (hcon left)

/-- **Every step keeps the events in order.** -/
theorem step (h : app.EventsOk) (hmove : AppMove app app') : app'.EventsOk := by
  cases hmove with
  | quit hpoint =>
      refine h.congr ?_ ?_ rfl rfl rfl
      · intro left hcon
        cases hpoint.symm.trans hcon
      · intro left hcon
        cases hcon
  | @polls round res server hpoint hpoll =>
      have hunread : app.server.events.unread = [] := by
        apply h.drained
        intro left hcon
        cases hpoint.symm.trans hcon
      have hline := h.line
      rw [App.eventsLeft, hpoint, hunread, List.append_nil, List.append_nil] at hline
      refine ⟨?_, fun hcon => ?_⟩
      · have hleft : App.eventsLeft
            { app with
              server := server
              written := app.written ++ server.events.unread.drop app.server.events.unread.length
              point := if res < 0 then .exit else if res > 0 then .events [] else .poll .ordered } = [] := by
          unfold App.eventsLeft
          dsimp only
          split_ifs <;> rfl
        rw [hleft, List.append_nil]
        show app.handled ++ server.events.unread = app.written ++ _
        rw [hunread, List.length_nil, List.drop_zero, hline]
      · -- `poll` found nothing
        have hres : res ≤ 0 := by
          by_contra hpos
          refine hcon [] ?_
          show (if res < 0 then MainPoint.exit else if res > 0 then _ else _) = _
          rw [if_neg (by omega), if_pos (by omega)]
        show server.events.unread = []
        rw [((serverPoll_ret hpoll).2 hres).1]
        exact hunread
  | reads hpoint =>
      have hline := h.line
      rw [App.eventsLeft, hpoint, List.append_nil] at hline
      have hread := unread_eventsRead app.server.events
      cases hr : (eventsRead app.server.events).1 with
      | none =>
          have hnil : (eventsRead app.server.events).2.unread = [] := by
            apply unread_eq_nil
            rw [bevents_eventsRead, eventsRead_eq_none.mp hr]
            rfl
          refine ⟨?_, fun _ => hnil⟩
          rw [hr, hnil] at hread
          show app.handled ++ [] ++ (eventsRead app.server.events).2.unread = app.written
          rw [hnil, List.append_nil, List.append_nil, ← hline, ← hread]
          exact (List.append_nil _).symm
      | some r =>
          refine ⟨?_, fun hcon => absurd rfl (hcon _)⟩
          rw [hr] at hread
          show app.handled ++ slice r.1 0 r.2 ++ (eventsRead app.server.events).2.unread = app.written
          rw [List.append_assoc, ← hline, ← hread]
          rfl
  | adds hpoint => exact h.handle hpoint rfl rfl rfl rfl
  | @passes event left server hpoint hjob hserver =>
      refine h.handle hpoint rfl ?_ rfl rfl
      rcases hserver with ⟨-, rfl⟩ | ⟨_, _, _, _, r, -, -, hr, rfl⟩
      · rfl
      · exact (sessionStreamEnd_quiet hr).events
  | takes hpoint =>
      refine h.congr ?_ ?_ rfl rfl rfl
      · intro left hcon
        cases hpoint.symm.trans hcon
      · intro left hcon
        cases hcon
  | sends hpoint _ _ _ _ hsend hfinish =>
      refine h.congr ?_ ?_ ?_ rfl rfl
      · intro left hcon
        cases hpoint.symm.trans hcon
      · intro left hcon
        cases hcon
      · exact hfinish.quiet.events.trans (sessionStreamSend_quiet hsend).events
  | drops hpoint =>
      refine h.congr ?_ ?_ rfl rfl rfl
      · intro left hcon
        cases hpoint.symm.trans hcon
      · intro left hcon
        cases hcon
  | @turns name hpoint =>
      refine h.congr ?_ ?_ rfl rfl rfl
      · intro left hcon
        cases hpoint.symm.trans hcon
      · intro left hcon
        cases name <;> cases hcon
  | works | skips | calls => exact h.congr_point rfl rfl rfl rfl

end App.EventsOk

/-! ## (3) The pools -/

/-- **The pools are in order**, and the ordered one has its one worker. -/
structure PoolsOk (pools : PoolName → PoolSide) : Prop where
  /-- Each pool keeps its own invariant. -/
  pool : ∀ name, (pools name).base.Inv
  /-- The line of the ordered one. -/
  line : ∃ w, (pools .ordered).base.InLine w

namespace PoolsOk

variable {pools pools' : PoolName → PoolSide}

/-- The pools keep their invariant when only the jobs and replies beside them change. -/
theorem congr (h : PoolsOk pools) (hbase : ∀ name, (pools' name).base = (pools name).base) :
    PoolsOk pools' where
  pool name := by
    rw [hbase]
    exact h.pool name
  line := by
    rw [hbase]
    exact h.line

/-- One of the pools makes a step. -/
theorem poolStep (h : PoolsOk pools) {name : PoolName} {side : PoolSide} {a : PoolAction}
    (hstep : Ezgrpc2.poolStep (pools name).base a = some side.base) :
    PoolsOk (Function.update pools name side) where
  pool name' := by
    by_cases hname : name' = name
    · subst hname
      rw [Function.update_self]
      exact (h.pool name').step hstep
    · rw [Function.update_of_ne hname]
      exact h.pool name'
  line := by
    by_cases hname : PoolName.ordered = name
    · subst hname
      rw [Function.update_self]
      obtain ⟨w, hw⟩ := h.line
      exact hw.step (h.pool _) hstep
    · rw [Function.update_of_ne hname]
      exact h.line

/-- **Every step keeps the pools in order.** -/
theorem step {app app' : App} (h : PoolsOk app.pools) (hmove : AppMove app app') :
    PoolsOk app'.pools := by
  cases hmove with
  | quit | polls | reads | passes | drops | turns => exact h
  | adds _ _ _ hbase => exact h.poolStep hbase
  | takes _ hbase => exact h.poolStep hbase
  | works hbase => exact h.poolStep hbase
  | skips _ hbase => exact h.poolStep hbase
  | calls _ hbase => exact h.poolStep hbase
  | @sends name _ _ data => exact h.congr fun name' => record_base (app.store data none) name name' _

end PoolsOk

/-! ## (4) The memory -/

/-- The task of an entry is the one that was added for the job. -/
structure Entry.Stands (jobs : List Job) (e : Entry) (job : Job) : Prop where
  /-- The job has the number of the task. -/
  numbered : jobs[e.task.serial]? = some job
  /-- The task calls the function of its job. -/
  func : e.task.func = job.func
  /-- The task has no deadline, as `add_task` sets none. -/
  timeout : e.task.timeout = 0
  /-- No worker has found the task late. -/
  isTimeout : e.task.isTimeout = false

/-- The userdata of an entry is what the job says, or what the callback made of it. -/
def Entry.Holds (heap : ℕ → Option Userdata) (e : Entry) (job : Job) : Prop :=
  if e.executed then
    e.task.ret = some e.task.userdata ∧
      ∃ pp r, callFunc job.func pp job.userdata = some r ∧ heap e.task.userdata = some r.userdata
  else heap e.task.userdata = some job.userdata

/-- An entry stands for one of the jobs, and its userdata is in memory. -/
def Entry.Ok (heap : ℕ → Option Userdata) (jobs : List Job) (e : Entry) : Prop :=
  ∃ job, e.Stands jobs job ∧ e.Holds heap job

section Entry

variable {heap : ℕ → Option Userdata} {jobs : List Job} {e : Entry} {p : ℕ}

/-- A task stands for its job whatever becomes of another object in memory. -/
theorem Entry.Ok.update (h : e.Ok heap jobs) (hne : e.task.userdata ≠ p) (a : Option Userdata) :
    e.Ok (Function.update heap p a) jobs := by
  obtain ⟨job, hstands, hholds⟩ := h
  refine ⟨job, hstands, ?_⟩
  rw [Entry.Holds, Function.update_of_ne hne]
  exact hholds

/-- A task stands for its job when another job is accepted. -/
theorem Entry.Ok.append (h : e.Ok heap jobs) (job : Job) : e.Ok heap (jobs ++ [job]) := by
  obtain ⟨job', hstands, hholds⟩ := h
  refine ⟨job', ⟨?_, hstands.func, hstands.timeout, hstands.isTimeout⟩, hholds⟩
  obtain ⟨hlt, -⟩ := List.getElem?_eq_some_iff.mp hstands.numbered
  rw [List.getElem?_append_left hlt]
  exact hstands.numbered

/-- A callback frees the messages of the client or leaves them. -/
theorem callFunc_imessages {func : ℕ} {pp : Fin 5 → UInt32} {userdata : Userdata} {r : CallbackEnd}
    (h : callFunc func pp userdata = some r) :
    r.freed ++ r.userdata.imessages.toList = userdata.imessages.toList := by
  unfold callFunc at h
  split at h
  · obtain rfl := Option.some.inj h
    unfold callbackPath0
    dsimp only
    split <;> rfl
  · obtain rfl := Option.some.inj h
    unfold callbackPath1
    dsimp only
    split
    · rfl
    · exact List.append_nil _
  · cases h

end Entry

/-- The jobs of both pools, those of the ordered one first. -/
def App.allJobs (app : App) : List Job := (app.pools .ordered).jobs ++ (app.pools .unordered).jobs

/-- The lists of messages an object owns. -/
def Userdata.lists (userdata : Userdata) : List (List Message) := userdata.imessages.toList

/-- **The memory is in order**: every task under way owns the userdata of its job, and nothing else
is allocated. -/
structure App.MemoryOk (app : App) : Prop where
  /-- Each task that was accepted has its job. -/
  length : ∀ name, (app.pools name).jobs.length = (app.pools name).base.accepted.length
  /-- The functions are the two callbacks. -/
  func : ∀ name, ∀ job ∈ (app.pools name).jobs, job.func ≤ 1
  /-- The tasks under way stand for their jobs. -/
  entry : ∀ name, ∀ e ∈ app.entries name, e.Ok app.heap (app.pools name).jobs
  /-- The userdata of the tasks under way is what is in memory. -/
  owned : Owned app.heap app.owners app.userdataCalls
  /-- The messages of the jobs were freed, or their userdata has them. -/
  lists : (app.freed ++ contents Userdata.lists app.heap app.owners).Perm
    (app.allJobs.flatMap fun job => job.userdata.lists)

namespace App.MemoryOk

variable {app app' : App}

/-- The memory stays in order when the entries only change their places. -/
theorem of_perm (h : app.MemoryOk) (hentries : ∀ name, (app'.entries name).Perm (app.entries name))
    (hjobs : ∀ name, (app'.pools name).jobs = (app.pools name).jobs)
    (haccepted : ∀ name, (app'.pools name).base.accepted = (app.pools name).base.accepted)
    (hheap : app'.heap = app.heap) (hcalls : app'.userdataCalls = app.userdataCalls)
    (hfreed : app'.freed = app.freed) : app'.MemoryOk := by
  have howners : app.owners.Perm app'.owners :=
    (((hentries _).append (hentries _)).map _).symm
  refine ⟨fun name => ?_, fun name => ?_, fun name e he => ?_, ?_, ?_⟩
  · rw [hjobs, haccepted]
    exact h.length name
  · rw [hjobs]
    exact h.func name
  · rw [hheap, hjobs]
    exact h.entry name e ((hentries name).mem_iff.mp he)
  · rw [hheap, hcalls]
    exact h.owned.perm howners
  · rw [hfreed, hheap, App.allJobs, hjobs, hjobs]
    exact (List.Perm.append_left _ (contents_perm _ _ howners.symm)).trans h.lists

/-- The addresses of the userdata under way, with that of one entry first. -/
theorem owners_cons {name : PoolName} {e : Entry} {rest : List Entry}
    (h : (app.entries name).Perm (e :: rest)) :
    app.owners.Perm (e.task.userdata ::
      (rest ++ app.entries name.other).map fun e => e.task.userdata) := by
  refine (app.owners_perm name).trans ?_
  exact (h.append_right _).map _

/-- The other entries are elsewhere in memory. -/
theorem ne_of_mem (h : app.MemoryOk) {name : PoolName} {e : Entry} {rest : List Entry}
    (he : (app.entries name).Perm (e :: rest)) :
    (∀ e' ∈ rest, e'.task.userdata ≠ e.task.userdata) ∧
      ∀ e' ∈ app.entries name.other, e'.task.userdata ≠ e.task.userdata := by
  have hnodup := (h.owned.perm (owners_cons he)).nodup
  have hnotMem := (List.nodup_cons.mp hnodup).1
  refine ⟨fun e' he' hcon => hnotMem ?_, fun e' he' hcon => hnotMem ?_⟩
  · rw [← hcon]
    exact List.mem_map_of_mem (List.mem_append_left _ he')
  · rw [← hcon]
    exact List.mem_map_of_mem (List.mem_append_right _ he')

/-- **A task that is added** becomes the owner of the userdata made for it. -/
theorem add (h : app.MemoryOk) {name : PoolName} {task : Task} {job : Job}
    (hfree : app.heap task.userdata = none) (hfunc : job.func ≤ 1)
    (hserial : task.serial = (app.pools name).jobs.length) (hstands : task.func = job.func)
    (htimeout : task.timeout = 0) (hisTimeout : task.isTimeout = false)
    (hentries : (app'.entries name).Perm (⟨false, task⟩ :: app.entries name))
    (hother : app'.entries name.other = app.entries name.other)
    (hjobs : (app'.pools name).jobs = (app.pools name).jobs ++ [job])
    (hjobs' : (app'.pools name.other).jobs = (app.pools name.other).jobs)
    (haccepted : (app'.pools name).base.accepted.length = (app.pools name).base.accepted.length + 1)
    (haccepted' : (app'.pools name.other).base.accepted = (app.pools name.other).base.accepted)
    (hheap : app'.heap = Function.update app.heap task.userdata (some job.userdata))
    (hcalls : app'.userdataCalls = app.userdataCalls ++ [.acquire task.userdata])
    (hfreed : app'.freed = app.freed) : app'.MemoryOk := by
  have howners : (task.userdata :: app.owners).Perm app'.owners := by
    refine List.Perm.trans ?_ (owners_cons hentries).symm
    rw [hother]
    exact (app.owners_perm name).cons _
  have hne : ∀ name', ∀ e ∈ app.entries name', e.task.userdata ≠ task.userdata := by
    intro name' e he hcon
    apply h.owned.notMem hfree
    rw [← hcon]
    refine (app.owners_perm name').mem_iff.mpr (List.mem_map_of_mem (List.mem_append_left _ he))
  refine ⟨fun name' => ?_, fun name' => ?_, fun name' e he => ?_, ?_, ?_⟩
  · rcases name.eq_or_eq_other name' with rfl | rfl
    · rw [hjobs, haccepted, List.length_append, List.length_singleton, h.length]
    · rw [hjobs', haccepted', h.length]
  · rcases name.eq_or_eq_other name' with rfl | rfl
    · rw [hjobs]
      intro job' hjob'
      rcases List.mem_append.mp hjob' with hjob' | hjob'
      · exact h.func _ job' hjob'
      · rw [List.mem_singleton.mp hjob']
        exact hfunc
    · rw [hjobs']
      exact h.func _
  · rw [hheap]
    rcases name.eq_or_eq_other name' with rfl | rfl
    · rw [hjobs]
      rcases List.mem_cons.mp (hentries.mem_iff.mp he) with rfl | he
      · refine ⟨job, ⟨?_, hstands, htimeout, hisTimeout⟩, ?_⟩
        · rw [hserial, List.getElem?_append_right (Nat.le_refl _), Nat.sub_self]
          rfl
        · exact Function.update_self _ _ _
      · exact ((h.entry _ e he).append job).update (hne _ e he) _
    · rw [hother] at he
      rw [hjobs']
      exact (h.entry _ e he).update (hne _ e he) _
  · rw [hheap, hcalls]
    exact (h.owned.alloc hfree job.userdata).perm howners
  · -- one list more on both sides
    have halljobs : app'.allJobs.Perm (job :: app.allJobs) := by
      rw [App.allJobs, App.allJobs]
      cases name with
      | ordered =>
          rw [hjobs, show (app'.pools .unordered).jobs = _ from hjobs', List.append_assoc]
          exact List.perm_middle
      | unordered =>
          rw [hjobs, show (app'.pools .ordered).jobs = _ from hjobs', ← List.append_assoc]
          exact List.perm_append_comm
    have hcontents : (contents Userdata.lists app'.heap app'.owners).Perm
        (job.userdata.lists ++ contents Userdata.lists app.heap app.owners) := by
      refine (contents_perm _ _ howners.symm).trans ?_
      rw [hheap, contents_cons (Function.update_self _ _ _),
        contents_update_of_notMem (h.owned.notMem hfree)]
    rw [hfreed]
    refine (List.Perm.append_left _ hcontents).trans ?_
    refine List.Perm.trans ?_ (halljobs.flatMap_right _).symm
    rw [List.flatMap_cons, ← List.append_assoc]
    refine (List.perm_append_comm.append_right _).trans ?_
    rw [List.append_assoc]
    exact List.Perm.append_left _ h.lists

/-- **The function of a task is called.** -/
theorem call (h : app.MemoryOk) {name : PoolName} {task : Task} {rest : List Entry}
    {userdata : Userdata} {pp : Fin 5 → UInt32} {r : CallbackEnd}
    (hbefore : (app.entries name).Perm (⟨false, task⟩ :: rest))
    (hafter : (app'.entries name).Perm (⟨true, { task with ret := some task.userdata }⟩ :: rest))
    (hother : app'.entries name.other = app.entries name.other)
    (hdata : app.heap task.userdata = some userdata)
    (hfunc : callFunc task.func pp userdata = some r)
    (hjobs : ∀ name, (app'.pools name).jobs = (app.pools name).jobs)
    (haccepted : ∀ name, (app'.pools name).base.accepted = (app.pools name).base.accepted)
    (hheap : app'.heap = Function.update app.heap task.userdata (some r.userdata))
    (hcalls : app'.userdataCalls = app.userdataCalls)
    (hfreed : app'.freed = app.freed ++ r.freed) : app'.MemoryOk := by
  obtain ⟨hne, hne'⟩ := h.ne_of_mem hbefore
  have howners := owners_cons hbefore
  have howners' : app'.owners.Perm (task.userdata ::
      (rest ++ app.entries name.other).map fun e => e.task.userdata) := by
    rw [← hother]
    exact owners_cons hafter
  have hmem : task.userdata ∈ app.owners := howners.mem_iff.mpr List.mem_cons_self
  refine ⟨fun name' => ?_, fun name' => ?_, fun name' e he => ?_, ?_, ?_⟩
  · rw [hjobs, haccepted]
    exact h.length name'
  · rw [hjobs]
    exact h.func name'
  · rw [hheap, hjobs]
    rcases name.eq_or_eq_other name' with rfl | rfl
    · rcases List.mem_cons.mp (hafter.mem_iff.mp he) with rfl | he
      · -- the task itself
        obtain ⟨job, hstands, hholds⟩ := h.entry _ _ (hbefore.mem_iff.mpr List.mem_cons_self)
        obtain rfl : userdata = job.userdata := Option.some.inj (hdata.symm.trans hholds)
        rw [hstands.func] at hfunc
        exact ⟨job, ⟨hstands.numbered, hstands.func, hstands.timeout, hstands.isTimeout⟩, rfl, pp, r, hfunc,
          Function.update_self _ _ _⟩
      · exact (h.entry _ e (hbefore.mem_iff.mpr (List.mem_cons_of_mem _ he))).update (hne e he) _
    · rw [hother] at he
      exact (h.entry _ e he).update (hne' e he) _
  · rw [hheap, hcalls]
    exact (h.owned.set hmem r.userdata).perm (howners.trans howners'.symm)
  · have hnotMem := (List.nodup_cons.mp (h.owned.perm howners).nodup).1
    have hcontents := contents_perm Userdata.lists app.heap howners
    have hcontents' := contents_perm Userdata.lists app'.heap howners'
    rw [contents_cons hdata] at hcontents
    rw [contents_cons (by rw [hheap]; exact Function.update_self _ _ _), hheap,
      contents_update_of_notMem hnotMem] at hcontents'
    rw [hfreed, hheap, App.allJobs, hjobs, hjobs]
    refine List.Perm.trans ?_ h.lists
    rw [List.append_assoc]
    refine List.Perm.append_left _ ?_
    refine (List.Perm.append_left _ hcontents').trans ?_
    rw [← List.append_assoc]
    refine List.Perm.trans ?_ hcontents.symm
    rw [show r.freed ++ r.userdata.lists = userdata.lists from callFunc_imessages hfunc]

/-- **A result is dropped**: its userdata is freed. -/
theorem drop (h : app.MemoryOk) {name : PoolName} {task : Task} {rest : List Entry}
    {userdata : Userdata} (hbefore : (app.entries name).Perm (⟨true, task⟩ :: rest))
    (hafter : (app'.entries name).Perm rest)
    (hother : app'.entries name.other = app.entries name.other)
    (hdata : app.heap task.userdata = some userdata)
    (hjobs : ∀ name, (app'.pools name).jobs = (app.pools name).jobs)
    (haccepted : ∀ name, (app'.pools name).base.accepted = (app.pools name).base.accepted)
    (hheap : app'.heap = Function.update app.heap task.userdata none)
    (hcalls : app'.userdataCalls = app.userdataCalls ++ [.release task.userdata])
    (hfreed : app'.freed = app.freed ++ userdata.lists) : app'.MemoryOk := by
  obtain ⟨hne, hne'⟩ := h.ne_of_mem hbefore
  have howners := owners_cons hbefore
  have howners' : app'.owners.Perm
      ((rest ++ app.entries name.other).map fun e => e.task.userdata) := by
    refine (app'.owners_perm name).trans ?_
    rw [hother]
    exact (hafter.append_right _).map _
  refine ⟨fun name' => ?_, fun name' => ?_, fun name' e he => ?_, ?_, ?_⟩
  · rw [hjobs, haccepted]
    exact h.length name'
  · rw [hjobs]
    exact h.func name'
  · rw [hheap, hjobs]
    rcases name.eq_or_eq_other name' with rfl | rfl
    · have he := hafter.mem_iff.mp he
      exact (h.entry _ e (hbefore.mem_iff.mpr (List.mem_cons_of_mem _ he))).update (hne e he) _
    · rw [hother] at he
      exact (h.entry _ e he).update (hne' e he) _
  · rw [hheap, hcalls]
    exact (h.owned.perm howners).free.perm howners'.symm
  · have hnotMem := (List.nodup_cons.mp (h.owned.perm howners).nodup).1
    have hcontents := contents_perm Userdata.lists app.heap howners
    have hcontents' := contents_perm Userdata.lists app'.heap howners'
    rw [contents_cons hdata] at hcontents
    rw [hheap, contents_update_of_notMem hnotMem] at hcontents'
    rw [hfreed, hheap, App.allJobs, hjobs, hjobs]
    refine List.Perm.trans ?_ h.lists
    rw [List.append_assoc]
    refine List.Perm.append_left _ ?_
    exact (List.Perm.append_left _ hcontents').trans hcontents.symm

/-- The task that a worker holds has its entry, so it stands for a job. -/
theorem entry_of_holding (h : app.MemoryOk) {name : PoolName} {task : Task} {rest : List Entry}
    (hentries : (app.pools name).base.pool.entries.Perm (⟨false, task⟩ :: rest)) :
    (Entry.mk false task).Ok app.heap (app.pools name).jobs :=
  h.entry name _ (List.mem_append_left _ (hentries.mem_iff.mpr List.mem_cons_self))

/-- **No task is late**: a worker that has a task calls its function. -/
theorem called (h : app.MemoryOk) {name : PoolName} {task : Task} {rest : List Entry}
    (hentries : (app.pools name).base.pool.entries.Perm (⟨false, task⟩ :: rest)) (now : ℤ)
    (ret : Option ℕ) : workerExec now ret task = (true, { task with ret := ret }) := by
  obtain ⟨job, hstands, -⟩ := h.entry_of_holding hentries
  rw [workerExec, if_neg]
  exact fun hcon => hcon.1 hstands.timeout

/-- The next result is in memory as its callback has left it. -/
theorem result (h : app.MemoryOk) {name : PoolName} {result : Task} {left : List Task}
    (hpoint : app.point = .results name (result :: left)) :
    (Entry.mk true result).Ok app.heap (app.pools name).jobs := by
  apply h.entry name
  rw [App.entries, App.left_self hpoint]
  exact List.mem_append_right _ List.mem_cons_self

/-- A result that is handled gives its userdata and messages back. -/
theorem handle (h : app.MemoryOk) {name : PoolName} {result : Task} {left : List Task} {data : ℕ}
    {userdata : Userdata} (hpoint : app.point = .results name (result :: left))
    (hpoint' : app'.point = .results name left) (hret : result.ret = some data)
    (hdata : app.heap data = some userdata)
    (hbase : ∀ name, (app'.pools name).base = (app.pools name).base)
    (hjobs : ∀ name, (app'.pools name).jobs = (app.pools name).jobs)
    (hheap : app'.heap = Function.update app.heap data none)
    (hcalls : app'.userdataCalls = app.userdataCalls ++ [.release data])
    (hfreed : app'.freed = app.freed ++ userdata.lists) : app'.MemoryOk := by
  obtain ⟨job, -, hholds⟩ := h.result hpoint
  obtain rfl : data = result.userdata := Option.some.inj (hret.symm.trans hholds.1)
  have hbefore : (app.entries name).Perm (⟨true, result⟩ ::
      ((app.pools name).base.pool.entries ++ left.map (Entry.mk true))) := by
    rw [App.entries, App.left_self hpoint]
    exact List.perm_middle
  refine h.drop hbefore ?_ ?_ hdata hjobs (fun name => by rw [hbase]) hheap hcalls hfreed
  · rw [App.entries, App.left_self hpoint', hbase]
  · rw [App.entries, App.entries, App.left_of_ne hpoint' name.other_ne,
      App.left_of_ne hpoint name.other_ne, hbase]

/-- One pool makes a step that accepts no task: the jobs and the accepted tasks of both are as before. -/
theorem pools_of_accepted {name : PoolName} {base : PoolState}
    (haccepted : base.accepted = (app.pools name).base.accepted) (name' : PoolName) :
    ((app.setPool name { app.pools name with base := base }).pools name').jobs
        = (app.pools name').jobs ∧
      ((app.setPool name { app.pools name with base := base }).pools name').base.accepted
        = (app.pools name').base.accepted := by
  by_cases hname : name' = name
  · subst hname
    rw [App.setPool_pools_self]
    exact ⟨rfl, haccepted⟩
  · rw [App.setPool_pools_of_ne _ _ hname]
    exact ⟨rfl, rfl⟩

/-- A worker that moves a task, between the queue, its hand and the finished list, keeps the
memory. -/
theorem move (h : app.MemoryOk) {name : PoolName} {base : PoolState}
    (hentries : base.pool.entries.Perm (app.pools name).base.pool.entries)
    (hends : (app.pools name).base.SameEnds base) :
    (app.setPool name { app.pools name with base := base }).MemoryOk := by
  refine h.of_perm (fun name' => ?_) (fun name' => (pools_of_accepted hends.accepted name').1)
    (fun name' => (pools_of_accepted hends.accepted name').2) rfl rfl rfl
  refine List.Perm.append_right _ ?_
  by_cases hname : name' = name
  · subst hname
    rw [App.setPool_pools_self]
    exact hentries
  · rw [App.setPool_pools_of_ne _ _ hname]

/-- A worker that calls the function of its task keeps the memory. -/
theorem execute (h : app.MemoryOk) {name : PoolName} {base : PoolState} {task : Task}
    {rest : List Entry} {userdata : Userdata} {pp : Fin 5 → UInt32} {r : CallbackEnd}
    (hbefore : (app.pools name).base.pool.entries.Perm (⟨false, task⟩ :: rest))
    (hafter : base.pool.entries.Perm (⟨true, { task with ret := some task.userdata }⟩ :: rest))
    (hends : (app.pools name).base.SameEnds base) (hdata : app.heap task.userdata = some userdata)
    (hfunc : callFunc task.func pp userdata = some r) :
    App.MemoryOk
      { (app.setPool name { app.pools name with base := base }).store task.userdata
          (some r.userdata) with
        freed := app.freed ++ r.freed } := by
  have hleft : ∀ (es es' : List Entry) (e : Entry), es.Perm (e :: es') →
      (es ++ (app.left name).map (Entry.mk true)).Perm
        (e :: (es' ++ (app.left name).map (Entry.mk true))) :=
    fun es es' e hperm => hperm.append_right _
  refine h.call (hleft _ _ _ hbefore) ?_ ?_ hdata hfunc
    (fun name' => (pools_of_accepted hends.accepted name').1) (fun name' => (pools_of_accepted hends.accepted name').2)
    rfl rfl rfl
  · show (((app.setPool name _).pools name).base.pool.entries ++ (app.left name).map _).Perm _
    rw [App.setPool_pools_self]
    exact hleft _ _ _ hafter
  · show ((app.setPool name _).pools name.other).base.pool.entries ++ (app.left name.other).map _ = _
    rw [App.setPool_pools_of_ne _ _ name.other_ne]
    rfl

/-- A step of `main` that leaves the pools, the results in hand and the memory alone. -/
theorem quiet (h : app.MemoryOk) (hpools : app'.pools = app.pools)
    (hleft : ∀ name, app'.left name = app.left name) (hheap : app'.heap = app.heap)
    (hcalls : app'.userdataCalls = app.userdataCalls) (hfreed : app'.freed = app.freed) :
    app'.MemoryOk := by
  refine h.of_perm (fun name => ?_) (fun name => by rw [hpools]) (fun name => by rw [hpools]) hheap
    hcalls hfreed
  rw [App.entries, App.entries, hpools, hleft]

/-- `main` adds the task of an event to a pool. -/
theorem addTask (h : app.MemoryOk) {event : Event} {left : List Event} {name : PoolName} {job : Job}
    {addr : ℕ} {base : PoolState} {handled : List Event} (hpoint : app.point = .events (event :: left))
    (hfree : app.heap addr = none) (hjob : event.job? = some (name, job))
    (hbase : poolStep (app.pools name).base (.addTask job.func addr none none true) = some base) :
    App.MemoryOk
      { (app.store addr (some job.userdata)).setPool name
          { app.pools name with base := base, jobs := (app.pools name).jobs ++ [job] } with
        userdataCalls := app.userdataCalls ++ [.acquire addr]
        handled := handled
        point := .events left } := by
  obtain ⟨hentries, haccepted, -⟩ := PoolState.entries_addTask hbase
  have hnil : ∀ {app' : App} {es : List Event} (name : PoolName), app'.point = .events es →
      app'.left name = [] := by
    intro app' es name hp
    rw [App.left, hp]
  let task := (app.pools name).base.nextTask job.func addr none none 0
  have hserial : task.serial = (app.pools name).jobs.length := (h.length name).symm
  refine h.add hfree (Event.func_of_job? hjob) hserial rfl rfl rfl ?_ ?_ ?_ ?_ ?_ ?_ rfl rfl rfl
  · -- the task is a new entry of its pool
    rw [App.entries, App.entries, hnil name hpoint, hnil name rfl]
    show (((app.setPool name _).pools name).base.pool.entries ++ _).Perm _
    rw [App.setPool_pools_self, List.map_nil, List.append_nil, List.append_nil]
    exact hentries
  · rw [App.entries, App.entries, hnil name.other hpoint, hnil name.other rfl]
    show ((app.setPool name _).pools name.other).base.pool.entries ++ _ = _
    rw [App.setPool_pools_of_ne _ _ name.other_ne]
  · show ((app.setPool name _).pools name).jobs = _
    rw [App.setPool_pools_self]
  · show ((app.setPool name _).pools name.other).jobs = _
    rw [App.setPool_pools_of_ne _ _ name.other_ne]
  · show ((app.setPool name _).pools name).base.accepted.length = _
    rw [App.setPool_pools_self, haccepted]
    exact List.length_append
  · show ((app.setPool name _).pools name.other).base.accepted = _
    rw [App.setPool_pools_of_ne _ _ name.other_ne]

/-- `main` takes the finished tasks of a pool: they are in its hand instead. -/
theorem takeFinished (h : app.MemoryOk) {name : PoolName} {base : PoolState}
    (hpoint : app.point = .poll name)
    (hbase : poolStep (app.pools name).base (.poll []) = some base) :
    App.MemoryOk
      { app.setPool name { app.pools name with base := base } with
        point := .results name (pthpoolPoll (app.pools name).base.pool []).1 } := by
  obtain ⟨hentries, haccepted, -⟩ := PoolState.entries_poll hbase
  have hnil : ∀ name, app.left name = [] := App.left_eq_nil fun name left hcon => by
    cases hpoint.symm.trans hcon
  refine h.of_perm (fun name' => ?_) (fun name' => (pools_of_accepted haccepted name').1)
    (fun name' => (pools_of_accepted haccepted name').2) rfl rfl rfl
  rw [App.entries, App.entries, hnil, List.map_nil, List.append_nil]
  by_cases hname : name' = name
  · subst hname
    rw [App.left_self rfl]
    show (((app.setPool name' _).pools name').base.pool.entries ++ _).Perm _
    rw [App.setPool_pools_self, hentries]
  · rw [App.left_of_ne rfl hname, List.map_nil, List.append_nil]
    show ((app.setPool name _).pools name').base.pool.entries.Perm _
    rw [App.setPool_pools_of_ne _ _ hname]

/-- **Every step keeps the memory in order.** -/
theorem step (h : app.MemoryOk) (hmove : AppMove app app') : app'.MemoryOk := by
  cases hmove with
  | quit hpoint =>
      refine h.quiet rfl (fun name => ?_) rfl rfl rfl
      rw [App.left, App.left, hpoint]
  | @polls round res server hpoint =>
      refine h.quiet rfl (fun name => ?_) rfl rfl rfl
      unfold App.left
      dsimp only
      rw [hpoint]
      split_ifs <;> rfl
  | reads hpoint =>
      refine h.quiet rfl (fun name => ?_) rfl rfl rfl
      unfold App.left
      dsimp only
      rw [hpoint]
      cases (eventsRead app.server.events).1 <;> rfl
  | passes hpoint =>
      refine h.quiet rfl (fun name => ?_) rfl rfl rfl
      rw [App.left, App.left, hpoint]
  | @turns name hpoint =>
      refine h.quiet rfl (fun name' => ?_) rfl rfl rfl
      unfold App.left
      dsimp only
      rw [hpoint]
      cases name <;> exact (ite_self _).symm
  | adds hpoint hfree hjob hbase => exact h.addTask hpoint hfree hjob hbase
  | takes hpoint hbase => exact h.takeFinished hpoint hbase
  | @sends name result left data userdata omessages sends r ended server hpoint hlate hret hdata =>
      exact h.handle hpoint rfl hret hdata (fun name' => record_base (app.store data none) name name' _)
        (fun name' => record_jobs (app.store data none) name name' _) rfl rfl rfl
  | drops hpoint hlate =>
      -- no task is late
      obtain ⟨job, hstands, -⟩ := h.result hpoint
      cases hlate.symm.trans hstands.isTimeout
  | works hbase =>
      obtain ⟨hentries, hends⟩ := PoolState.entries_worker hbase
      exact h.move hentries hends
  | skips htask hbase hlate =>
      obtain ⟨task, rest, htask', hentries, -⟩ := PoolState.entries_exec hbase
      obtain rfl := Worker.holding.inj (Option.some.inj (htask.symm.trans htask'))
      rw [h.called hentries] at hlate
      cases hlate
  | @calls name i now pp task base userdata r htask hbase hcalled hdata hfunc =>
      obtain ⟨task', rest, htask', hbefore, hafter, hends⟩ := PoolState.entries_exec hbase
      obtain rfl := Worker.holding.inj (Option.some.inj (htask.symm.trans htask'))
      rw [h.called hbefore] at hafter
      exact h.execute hbefore hafter hends hdata hfunc

end App.MemoryOk

end Ezgrpc2
