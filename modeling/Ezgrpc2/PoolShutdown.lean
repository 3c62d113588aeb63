import Ezgrpc2.PoolConservation

/-! # The end of a thread pool

A worker that sleeps must be woken when there is something to do, and what is left in the pool when
it is freed must be cleaned up. The first part shows that no wake-up is lost: the test of the queue
and the wait are one critical section, and whoever fills the queue or stops the pool signals all
workers. The second part models `ezgrpc2_pthpool_free`: its critical section is that of
`stop_and_join`, and when the workers have been joined two loops empty the lists. The first of them
calls `ret_cleanup` for every finished task, also for one that timed out and was never executed. -/

namespace Ezgrpc2

open StepRuns

/-! ## (1) No wake-up is lost -/

/-- **No wake-up is lost**: a worker that waits without having been signalled waits at an empty queue,
in a pool that is not to stop. -/
def Pthpool.NoLostWakeup (pool : Pthpool) : Prop :=
  ∀ w ∈ pool.threads, w = .waiting false → pool.queue = [] ∧ pool.stop = false

/-- Behind a broadcast every worker that waits is signalled. -/
theorem ne_waiting_of_mem_broadcast {threads : List Worker} :
    ∀ w ∈ broadcast threads, w ≠ .waiting false := by
  intro w hw
  obtain ⟨v, -, rfl⟩ := List.mem_map.mp hw
  cases v <;> simp

namespace Pthpool.NoLostWakeup

variable {pool : Pthpool}

/-- No wake-up is lost when all waiting workers are signalled. -/
theorem of_broadcast {threads : List Worker} (hthreads : pool.threads = broadcast threads) :
    pool.NoLostWakeup := by
  intro w hw heq
  rw [hthreads] at hw
  exact absurd heq (ne_waiting_of_mem_broadcast w hw)

/-- The workers are where they were, and the queue and the flag as well. -/
theorem of_same (h : pool.NoLostWakeup) {pool' : Pthpool} (hthreads : pool'.threads = pool.threads)
    (hqueue : pool'.queue = pool.queue) (hstop : pool'.stop = pool.stop) :
    pool'.NoLostWakeup := by
  rw [Pthpool.NoLostWakeup, hthreads, hqueue, hstop]
  exact h

/-- A worker moves, in a critical section that keeps an empty queue empty and the flag as it is. If it
goes to wait, the queue is empty and the pool is not to stop. -/
theorem set (h : pool.NoLostWakeup) {queue : List Task} (finished : List Task) (running live : ℤ)
    (i : ℕ) {w : Worker} (hqueue : pool.queue = [] → queue = [])
    (hw : w = .waiting false → queue = [] ∧ pool.stop = false) :
    Pthpool.NoLostWakeup
      { pool with
        queue := queue
        finished := finished
        running := running
        live := live
        threads := pool.threads.set i w } := by
  intro v hv heq
  rcases List.mem_or_eq_of_mem_set hv with hv | rfl
  · exact (h v hv heq).imp hqueue id
  · exact hw heq

/-- **A critical section of a worker.** Whoever goes to sleep has just found the queue empty. -/
theorem worker {st st' : PoolState} (h : st.pool.NoLostWakeup) {i : ℕ}
    (hmove : WorkerMove st i st') : st'.pool.NoLostWakeup := by
  cases hmove with
  | start hw => exact h.set _ _ _ i id (by simp)
  | leave hw htask hstop => exact h.set _ _ _ i id (by simp)
  | sleep hw htask hstop hqueue => exact h.set _ _ _ i id fun _ => ⟨hqueue, hstop⟩
  | take hw htask hqueue => exact h.set _ _ _ i (by simp [hqueue]) (by simp)
  | publish hw => exact h.set _ _ _ i id (by simp)

/-- A worker that executes its task loses no wake-up. -/
theorem exec {st st' : PoolState} (h : st.pool.NoLostWakeup) {i : ℕ} {ret : Option ℕ}
    {called : Bool} (hmove : TaskMove st i ret called st') : st'.pool.NoLostWakeup := by
  cases hmove with
  | late hw => exact h.set _ _ _ i id (by simp)
  | call hw => exact h.set _ _ _ i id (by simp)

/-- A call of `add_task2` signals all workers, or leaves the queue alone. -/
theorem addTask2 (h : pool.NoLostWakeup) (serial func userdata : ℕ)
    (retCleanup userdataCleanup : Option ℕ) (timeout : ℤ) (mem : Bool) :
    (pthpoolAddTask2 pool serial func userdata retCleanup userdataCleanup timeout
      mem).2.NoLostWakeup := by
  cases mem with
  | false => exact h
  | true => exact of_broadcast rfl

/-- **Every step loses no wake-up.** -/
theorem step {st st' : PoolState} (h : st.pool.NoLostWakeup) {a : PoolAction}
    (hstep : poolStep st a = some st') : st'.pool.NoLostWakeup := by
  cases a with
  | addTask func userdata retCleanup userdataCleanup mem =>
      obtain rfl := Option.some.inj hstep
      exact h.addTask2 _ _ _ _ _ _ _
  | addTask2 func userdata retCleanup userdataCleanup timeout mem =>
      obtain rfl := Option.some.inj hstep
      exact h.addTask2 _ _ _ _ _ _ _
  | poll l =>
      obtain rfl := Option.some.inj hstep
      exact h.of_same rfl rfl rfl
  | stop =>
      obtain rfl := Option.some.inj hstep
      exact of_broadcast rfl
  | worker i => exact h.worker (poolStep_worker hstep)
  | exec i now ret =>
      obtain ⟨task, -, hmove⟩ := poolStep_exec hstep
      exact h.exec hmove

end Pthpool.NoLostWakeup

/-- No worker of a new pool waits. -/
theorem poolStart_noLostWakeup (workers : ℕ) : (poolStart workers).pool.NoLostWakeup := by
  intro w hw heq
  have hstart := List.eq_of_mem_replicate hw
  simp [hstart] at heq

/-- **No wake-up is lost in any run**, with any number of workers, spurious wake-ups and any order of
the critical sections: while a worker sleeps unsignalled there is no task in the queue and no request
to stop. -/
theorem poolRun_noLostWakeup (workers : ℕ) {st : PoolState}
    (h : Reachable poolStep (poolStart workers) st) : st.pool.NoLostWakeup :=
  h.invariant (I := fun st => st.pool.NoLostWakeup) (poolStart_noLostWakeup workers)
    fun _ _ _ hinv hstep => hinv.step hstep

/-- Of two workers that were woken one took the task, and the other one sleeps again. -/
theorem poolRun_noLostWakeup_two_workers :
    let acts : List PoolAction :=
      [.worker 0, .worker 1, .worker 0, .worker 1, .addTask 1 10 none none true, .worker 1,
        .worker 0]
    ∃ st, run poolStep (poolStart 2) acts = some st ∧
      st.pool.threads[0]? = some (.waiting false) ∧ st.pool.NoLostWakeup := by
  intro acts
  exact ⟨_, rfl, rfl, poolRun_noLostWakeup 2 ⟨acts, rfl⟩⟩

/-! ## (2) `ezgrpc2_pthpool_free` -/

/-- A call of a cleanup handler. `serial`, that of the task, is not in the source. -/
inductive CleanupCall where
  /-- `userdata_cleanup` of a task, with its userdata. -/
  | userdata (serial handler userdata : ℕ)
  /-- `ret_cleanup` of a task, with its `ret`. -/
  | ret (serial handler : ℕ) (ret : Option ℕ)
deriving DecidableEq

/-- The call of `userdata_cleanup`, unless it is null. -/
def Task.cleanUserdata (d : Task) : List CleanupCall :=
  match d.userdataCleanup with
  | some handler => [.userdata d.serial handler d.userdata]
  | none => []

/-- The call of `ret_cleanup`, unless it is null. -/
def Task.cleanRet (d : Task) : List CleanupCall :=
  match d.retCleanup with
  | some handler => [.ret d.serial handler d.ret]
  | none => []

/-- The loop of `ezgrpc2_pthpool_free` that empties the finished list. -/
def drainFinished : List Task → List CleanupCall
  | [] => []
  | d :: finished => d.cleanUserdata ++ d.cleanRet ++ drainFinished finished

/-- The loop of `free` that empties the queue, with the cleanups it calls. -/
def drainQueue : List Task → List CleanupCall
  | [] => []
  | d :: queue => d.cleanUserdata ++ drainQueue queue

/-- The worker has left: it can be joined. -/
def Worker.hasExited : Worker → Bool
  | .exited => true
  | .start | .idle | .waiting _ | .holding _ | .executed _ => false

/-- `ezgrpc2_pthpool_free` behind its critical section, which is `pthpoolStop`: the workers are joined
and the lists are emptied. `none` while it waits for a worker. Behind `ezgrpc2_pthpool_stop_and_join`
this joins every worker a second time, which POSIX leaves undefined; here that join is taken to
return. -/
def pthpoolFree (pool : Pthpool) : Option (List CleanupCall) :=
  if pool.stop && pool.threads.all Worker.hasExited then
    some (drainFinished pool.finished ++ drainQueue pool.queue)
  else none

/-- A step up to the end of a pool. -/
inductive ShutdownAction where
  /-- A step of the pool, by the application or a worker. -/
  | pool (a : PoolAction)
  /-- The last part of `free`, behind its critical section. -/
  | free

/-- A pool with what the functions of its tasks have returned. -/
structure ShutdownState where
  /-- The pool and what has happened to its tasks. -/
  base : PoolState
  /-- What was returned, by the serial of the task, once for each call. -/
  returned : List (ℕ × Option ℕ)
  /-- The cleanups, when the pool has been freed. -/
  cleanups : Option (List CleanupCall)

/-- A new pool, whose functions have returned nothing. -/
def shutdownStart (workers : ℕ) : ShutdownState := ⟨poolStart workers, [], none⟩

/-- What a function returns in a step. -/
def PoolState.returns (st : PoolState) : PoolAction → List (ℕ × Option ℕ)
  | .exec i now ret =>
      match st.pool.threads[i]? with
      | some (.holding task) => if (workerExec now ret task).1 then [(task.serial, ret)] else []
      | _ => []
  | .addTask .. | .addTask2 .. | .poll _ | .stop | .worker _ => []

/-- One step. A pool that was freed makes none. -/
def shutdownStep (st : ShutdownState) (a : ShutdownAction) : Option ShutdownState :=
  if st.cleanups.isSome then none
  else
    match a with
    | .pool a =>
        (poolStep st.base a).map fun base =>
          { st with base := base, returned := st.returned ++ st.base.returns a }
    | .free =>
        (pthpoolFree st.base.pool).map fun calls => { st with cleanups := some calls }

/-! ## (3) What is cleaned up -/

/-- The calls of `userdata_cleanup` for a task: the handlers with what they get. -/
def userdataCalls (serial : ℕ) (calls : List CleanupCall) : List (ℕ × ℕ) :=
  calls.filterMap fun c => match c with
    | .userdata s handler userdata => if s = serial then some (handler, userdata) else none
    | .ret .. => none

/-- The calls of `ret_cleanup` for a task. -/
def retCalls (serial : ℕ) (calls : List CleanupCall) : List (ℕ × Option ℕ) :=
  calls.filterMap fun c => match c with
    | .userdata .. => none
    | .ret s handler ret => if s = serial then some (handler, ret) else none

/-- **The tasks are cleaned up**: nothing is called for a task that was handed out. For the others
`userdata_cleanup` is called once with the userdata, unless it is null, and so is `ret_cleanup` with
what the function returned, if it was called. -/
structure ShutdownState.CleanedUp (st : ShutdownState) (calls : List CleanupCall) : Prop where
  /-- A task that was handed out is left alone. -/
  handed : ∀ t ∈ st.base.handed,
    userdataCalls t.serial calls = [] ∧ retCalls t.serial calls = []
  /-- `userdata_cleanup` of a task that was not handed out. -/
  userdata : ∀ t ∈ st.base.accepted, t.serial ∉ st.base.handed.map Task.serial →
    userdataCalls t.serial calls = (t.userdataCleanup.map fun handler => (handler, t.userdata)).toList
  /-- `ret_cleanup` of one whose function was called. -/
  ret : ∀ t ∈ st.base.accepted, t.serial ∉ st.base.handed.map Task.serial →
    ∀ ret, (t.serial, ret) ∈ st.returned →
      retCalls t.serial calls = (t.retCleanup.map fun handler => (handler, ret)).toList
  /-- `ret_cleanup` of one whose function was not. -/
  unexecuted : ∀ t ∈ st.base.accepted, t.serial ∉ st.base.handed.map Task.serial →
    t.serial ∉ st.returned.map Prod.fst → retCalls t.serial calls = []

/-- What the calls of `userdata_cleanup` for a task get. -/
def Task.userdataCall (d : Task) : List (ℕ × ℕ) :=
  (d.userdataCleanup.map fun handler => (handler, d.userdata)).toList

/-- What the calls of `ret_cleanup` for a finished task get. -/
def Task.retCall (d : Task) : List (ℕ × Option ℕ) :=
  (d.retCleanup.map fun handler => (handler, d.ret)).toList

section Calls

variable (serial : ℕ)

@[simp] theorem userdataCalls_append (calls calls' : List CleanupCall) :
    userdataCalls serial (calls ++ calls')
      = userdataCalls serial calls ++ userdataCalls serial calls' := by
  simp [userdataCalls]

@[simp] theorem retCalls_append (calls calls' : List CleanupCall) :
    retCalls serial (calls ++ calls') = retCalls serial calls ++ retCalls serial calls' := by
  simp [retCalls]

@[simp] theorem userdataCalls_cleanUserdata (d : Task) : userdataCalls serial d.cleanUserdata
    = if d.serial = serial then d.userdataCall else [] := by
  cases h : d.userdataCleanup <;> by_cases heq : d.serial = serial <;>
    simp [userdataCalls, Task.cleanUserdata, Task.userdataCall, h, heq]

@[simp] theorem userdataCalls_cleanRet (d : Task) : userdataCalls serial d.cleanRet = [] := by
  cases h : d.retCleanup <;> simp [userdataCalls, Task.cleanRet, h]

@[simp] theorem retCalls_cleanUserdata (d : Task) : retCalls serial d.cleanUserdata = [] := by
  cases h : d.userdataCleanup <;> simp [retCalls, Task.cleanUserdata, h]

@[simp] theorem retCalls_cleanRet (d : Task) : retCalls serial d.cleanRet
    = if d.serial = serial then d.retCall else [] := by
  cases h : d.retCleanup <;> by_cases heq : d.serial = serial <;>
    simp [retCalls, Task.cleanRet, Task.retCall, h, heq]

/-- The loops call `userdata_cleanup` for what they find with this serial. -/
theorem userdataCalls_drain (finished queue : List Task) :
    userdataCalls serial (drainFinished finished ++ drainQueue queue)
      = ((finished ++ queue).filter fun d => d.serial = serial).flatMap Task.userdataCall := by
  have hqueue : userdataCalls serial (drainQueue queue)
      = (queue.filter fun d => d.serial = serial).flatMap Task.userdataCall := by
    induction queue with
    | nil => rfl
    | cons d queue ih => by_cases h : d.serial = serial <;> simp [drainQueue, ih, h]
  induction finished with
  | nil => exact hqueue
  | cons d finished ih =>
      rw [userdataCalls_append] at ih
      by_cases h : d.serial = serial <;> simp [drainFinished, ih, h]

/-- The calls of `ret_cleanup` are those of the first loop, over the finished tasks. -/
theorem retCalls_drain (finished queue : List Task) :
    retCalls serial (drainFinished finished ++ drainQueue queue)
      = (finished.filter fun d => d.serial = serial).flatMap Task.retCall := by
  have hqueue : retCalls serial (drainQueue queue) = [] := by
    induction queue with
    | nil => rfl
    | cons d queue ih => simp [drainQueue, ih]
  induction finished with
  | nil => exact hqueue
  | cons d finished ih =>
      rw [retCalls_append] at ih
      by_cases h : d.serial = serial <;> simp [drainFinished, ih, h]

end Calls

/-- A task is found by its serial. -/
theorem filter_serial_of_mem {l : List Task} (h : (l.map Task.serial).Nodup) {t : Task}
    (ht : t ∈ l) : (l.filter fun d => d.serial = t.serial) = [t] := by
  induction l with
  | nil => cases ht
  | cons d l ih =>
      rw [List.map_cons, List.nodup_cons] at h
      rcases List.mem_cons.mp ht with rfl | ht
      · have hnone : (l.filter fun d => d.serial = t.serial) = [] := by
          apply List.filter_eq_nil_iff.mpr
          intro d hd
          simp only [decide_eq_true_eq]
          exact fun heq => h.1 (heq ▸ List.mem_map_of_mem hd)
        simp [hnone]
      · have hne : d.serial ≠ t.serial := fun heq => h.1 (heq ▸ List.mem_map_of_mem ht)
        simp [hne, ih h.2 ht]

/-- A serial that is not in a list is not found. -/
theorem filter_serial_of_notMem {l : List Task} {serial : ℕ} (h : serial ∉ l.map Task.serial) :
    (l.filter fun d => d.serial = serial) = [] := by
  apply List.filter_eq_nil_iff.mpr
  intro d hd
  simp only [decide_eq_true_eq]
  exact fun heq => h (heq ▸ List.mem_map_of_mem hd)

/-! ## (4) The invariant -/

/-- The task has in `ret` what its function returned, unless it timed out. -/
def Task.HasReturned (t : Task) (returned : List (ℕ × Option ℕ)) : Prop :=
  t.isTimeout = false → (t.serial, t.ret) ∈ returned

namespace ShutdownState

/-- **The invariant**: besides that of the pool, the tasks that were executed have what was
returned. -/
structure Inv (st : ShutdownState) : Prop where
  /-- The invariant of the pool itself. -/
  base : st.base.Inv
  /-- Every call of a function has returned once. -/
  ran : st.returned.map Prod.fst = st.base.ran
  /-- A worker has an executed task. -/
  workers : ∀ t, .executed t ∈ st.base.pool.threads → t.HasReturned st.returned
  /-- The tasks that are done hold what their functions returned. -/
  done : ∀ t ∈ st.base.pool.finished ++ st.base.handed, t.HasReturned st.returned

/-- The invariant holds of a new pool. -/
theorem shutdownStart_inv (workers : ℕ) : (shutdownStart workers).Inv where
  base := poolStart_inv workers
  ran := rfl
  workers := fun t ht => by simpa using List.eq_of_mem_replicate ht
  done := fun t ht => by cases ht

variable {st : ShutdownState}

namespace Inv

/-- No task is executed in a step. -/
theorem keep (h : st.Inv) {base : PoolState} (hbase : base.Inv) (hran : base.ran = st.base.ran)
    (hworkers : ∀ t, .executed t ∈ base.pool.threads → .executed t ∈ st.base.pool.threads)
    (hdone : ∀ t ∈ base.pool.finished ++ base.handed,
      t ∈ st.base.pool.finished ++ st.base.handed ∨ .executed t ∈ st.base.pool.threads) :
    Inv { st with base := base } where
  base := hbase
  ran := h.ran.trans hran.symm
  workers := fun t ht => h.workers t (hworkers t ht)
  done := fun t ht => (hdone t ht).elim (h.done t) (h.workers t)

/-- A broadcast gives no worker a task. -/
theorem executed_of_mem_broadcast {threads : List Worker} {t : Task}
    (h : .executed t ∈ broadcast threads) : .executed t ∈ threads := by
  obtain ⟨w, hw, heq⟩ := List.mem_map.mp h
  cases w with
  | executed u =>
      cases heq
      exact hw
  | start | idle | waiting | holding | exited => cases heq

/-- A worker that goes to a point without an executed task leaves the others as they are. -/
theorem executed_of_mem_set {threads : List Worker} {i : ℕ} {w : Worker} {t : Task}
    (h : .executed t ∈ threads.set i w) (hw : w ≠ .executed t) : .executed t ∈ threads :=
  (List.mem_or_eq_of_mem_set h).resolve_right hw.symm

/-- A critical section of a worker keeps the invariant. -/
theorem worker (h : st.Inv) {i : ℕ} {base : PoolState} (hmove : WorkerMove st.base i base) :
    Inv { st with base := base } := by
  have hbase := h.base.worker hmove
  cases hmove with
  | start hw =>
      exact h.keep hbase rfl (fun t ht => executed_of_mem_set ht (by simp)) fun t => Or.inl
  | leave hw htask hstop =>
      exact h.keep hbase rfl (fun t ht => executed_of_mem_set ht (by simp)) fun t => Or.inl
  | sleep hw htask hstop hqueue =>
      exact h.keep hbase rfl (fun t ht => executed_of_mem_set ht (by simp)) fun t => Or.inl
  | take hw htask hqueue =>
      exact h.keep hbase rfl (fun t ht => executed_of_mem_set ht (by simp)) fun t => Or.inl
  | @publish task hw =>
      refine h.keep hbase rfl (fun t ht => executed_of_mem_set ht (by simp)) fun t ht => ?_
      -- the task comes from the worker, the others were done
      simp only [List.append_assoc, List.mem_append, List.mem_singleton] at ht ⊢
      rcases ht with ht | rfl | ht
      · exact Or.inl (Or.inl ht)
      · exact Or.inr (List.mem_of_getElem? hw)
      · exact Or.inl (Or.inr ht)

/-- The execution of a task: what is returned is in the task. -/
theorem exec (h : st.Inv) {i : ℕ} {ret : Option ℕ} {called : Bool} {base : PoolState} {task : Task}
    (hw : st.base.pool.threads[i]? = some (.holding task))
    (hmove : TaskMove st.base i ret called base) :
    Inv { st with
      base := base
      returned := st.returned ++ if called then [(task.serial, ret)] else [] } := by
  have hbase := h.base.exec hmove
  cases hmove with
  | late hw' =>
      simp only [Bool.false_eq_true, if_false, List.append_nil]
      refine ⟨hbase, h.ran, fun t ht => ?_, h.done⟩
      rcases List.mem_or_eq_of_mem_set ht with ht | heq
      · exact h.workers t ht
      · cases heq
        exact fun hfalse => by cases hfalse
  | @call task' hw' =>
      obtain rfl : task = task' := by simpa [hw] using hw'
      have hmono : ∀ t : Task, t.HasReturned st.returned →
          t.HasReturned (st.returned ++ [(task.serial, ret)]) :=
        fun t ht hrun => List.mem_append_left _ (ht hrun)
      simp only [if_true]
      refine ⟨hbase, ?_, fun t ht => ?_, fun t ht => hmono t (h.done t ht)⟩
      · simp [h.ran]
      · rcases List.mem_or_eq_of_mem_set ht with ht | heq
        · exact hmono t (h.workers t ht)
        · cases heq
          exact fun _ => by simp

/-- A call of `add_task2`, which may accept a task, keeps the invariant. -/
theorem addTask2 (h : st.Inv) (func userdata : ℕ) (retCleanup userdataCleanup : Option ℕ)
    (timeout : ℤ) (mem : Bool) :
    Inv
      { st with
        base := st.base.added (st.base.nextTask func userdata retCleanup userdataCleanup timeout)
          (pthpoolAddTask2 st.base.pool st.base.accepted.length func userdata retCleanup
            userdataCleanup timeout mem) } := by
  have hbase := h.base.addTask2 func userdata retCleanup userdataCleanup timeout mem
  cases mem with
  | false => exact h.keep hbase rfl (fun t => id) fun t => Or.inl
  | true => exact h.keep hbase rfl (fun t => executed_of_mem_broadcast) fun t => Or.inl

/-- **Every step of the pool keeps the invariant.** -/
theorem pool (h : st.Inv) {a : PoolAction} {base : PoolState}
    (hstep : poolStep st.base a = some base) :
    Inv { st with base := base, returned := st.returned ++ st.base.returns a } := by
  cases a with
  | addTask func userdata retCleanup userdataCleanup mem =>
      obtain rfl := Option.some.inj hstep
      simp only [PoolState.returns, List.append_nil]
      exact h.addTask2 func userdata retCleanup userdataCleanup 0 mem
  | addTask2 func userdata retCleanup userdataCleanup timeout mem =>
      obtain rfl := Option.some.inj hstep
      simp only [PoolState.returns, List.append_nil]
      exact h.addTask2 func userdata retCleanup userdataCleanup timeout mem
  | poll l =>
      have hbase := h.base.step hstep
      obtain rfl := Option.some.inj hstep
      simp only [PoolState.returns, List.append_nil]
      refine h.keep hbase rfl (fun t => id) fun t ht => Or.inl ?_
      -- what was finished is now handed out
      simpa [pthpoolPoll, or_comm] using ht
  | stop =>
      have hbase := h.base.step hstep
      obtain rfl := Option.some.inj hstep
      simp only [PoolState.returns, List.append_nil]
      exact h.keep hbase rfl (fun t => executed_of_mem_broadcast) fun t => Or.inl
  | worker i =>
      simp only [PoolState.returns, List.append_nil]
      exact h.worker (poolStep_worker hstep)
  | exec i now ret =>
      obtain ⟨task, hw, hmove⟩ := poolStep_exec hstep
      simp only [PoolState.returns, hw]
      exact h.exec hw hmove

/-- What was returned for a task was returned once. -/
theorem returned_unique (h : st.Inv) {serial : ℕ} {ret ret' : Option ℕ}
    (hret : (serial, ret) ∈ st.returned) (hret' : (serial, ret') ∈ st.returned) : ret = ret' := by
  have hnodup : (st.returned.map Prod.fst).Nodup := by
    rw [h.ran]
    exact List.nodup_iff_count_le_one.mpr h.base.count_le
  exact congrArg Prod.snd (List.inj_on_of_nodup_map hnodup hret hret' rfl)

/-- A task whose function was not called has nothing in `returned`. -/
theorem notMem_returned (h : st.Inv) {t : Task} (hcount : st.base.ran.count t.serial = 0) :
    t.serial ∉ st.returned.map Prod.fst := by
  rw [h.ran]
  exact List.count_eq_zero.mp hcount

/-- **Every step keeps the invariant**, the end of the pool included. -/
theorem step (h : st.Inv) {a : ShutdownAction} {st' : ShutdownState}
    (hstep : shutdownStep st a = some st') : st'.Inv := by
  unfold shutdownStep at hstep
  split at hstep
  · cases hstep
  · cases a with
    | pool a =>
        obtain ⟨base, hbase, rfl⟩ := Option.map_eq_some_iff.mp hstep
        exact h.pool hbase
    | free =>
        obtain ⟨calls, -, rfl⟩ := Option.map_eq_some_iff.mp hstep
        exact ⟨h.base, h.ran, h.workers, h.done⟩

end Inv

end ShutdownState

/-! ## (5) The pool is freed -/

/-- **What `free` does**: no worker holds a task any more, and the loops call the cleanups of what is
in the lists. -/
theorem pthpoolFree_eq_some {pool : Pthpool} {calls : List CleanupCall}
    (h : pthpoolFree pool = some calls) :
    pool.held = [] ∧ calls = drainFinished pool.finished ++ drainQueue pool.queue := by
  rw [pthpoolFree] at h
  split at h
  · next hexit =>
      simp only [Bool.and_eq_true, List.all_eq_true] at hexit
      refine ⟨List.filterMap_eq_nil_iff.mpr fun w hw => ?_, (Option.some.inj h).symm⟩
      have hexited := hexit.2 w hw
      cases w with
      | exited => rfl
      | start | idle | waiting | holding | executed => cases hexited
  · cases h

namespace ShutdownState.Inv

variable {st : ShutdownState}

/-- The tasks in the lists have serials of their own, and none was handed out. -/
theorem nodup_lists (h : st.Inv) :
    ((st.base.pool.finished ++ st.base.pool.queue).map Task.serial).Nodup ∧
      ∀ t ∈ st.base.handed,
        t.serial ∉ (st.base.pool.finished ++ st.base.pool.queue).map Task.serial := by
  have hnodup := h.base.nodup
  have hperm : st.base.places.Perm ((st.base.pool.finished ++ st.base.pool.queue) ++
      (st.base.pool.held ++ st.base.handed)) := by
    refine List.perm_iff_count.mpr fun t => ?_
    simp only [PoolState.places, List.count_append]
    omega
  rw [(hperm.map Task.serial).nodup_iff, List.map_append, List.nodup_append] at hnodup
  refine ⟨hnodup.1, fun t ht hmem => ?_⟩
  exact hnodup.2.2 _ hmem _ (List.mem_map_of_mem (List.mem_append_right _ ht)) rfl

/-- When no worker holds a task, a task accepted that was not handed out is in a list. -/
theorem mem_lists (h : st.Inv) (hheld : st.base.pool.held = []) {t : Task}
    (ht : t ∈ st.base.accepted) (hkept : t.serial ∉ st.base.handed.map Task.serial) :
    ∃ u, u.added = t ∧ (u ∈ st.base.pool.finished ∨ u ∈ st.base.pool.queue) := by
  obtain ⟨u, hu, rfl⟩ := List.mem_map.mp (h.base.perm.mem_iff.mpr ht)
  simp only [PoolState.places, hheld, List.append_nil, List.mem_append] at hu
  rcases hu with (hu | hu) | hu
  · exact ⟨u, rfl, Or.inr hu⟩
  · exact ⟨u, rfl, Or.inl hu⟩
  · exact absurd (List.mem_map_of_mem hu) hkept

/-- What is in the lists was accepted. -/
theorem added_mem (h : st.Inv) {t : Task} (ht : t ∈ st.base.pool.finished) :
    t.added ∈ st.base.accepted := by
  refine h.base.perm.mem_iff.mp (List.mem_map_of_mem ?_)
  simp [PoolState.places, ht]

section Drained

variable {calls : List CleanupCall}
  (hcalls : calls = drainFinished st.base.pool.finished ++ drainQueue st.base.pool.queue)

include hcalls

/-- `userdata_cleanup` of a task in the lists. -/
theorem userdataCalls_of_mem (h : st.Inv) {t : Task}
    (ht : t ∈ st.base.pool.finished ∨ t ∈ st.base.pool.queue) :
    userdataCalls t.serial calls = t.userdataCall := by
  rw [hcalls, userdataCalls_drain,
    filter_serial_of_mem h.nodup_lists.1 (List.mem_append.mpr ht)]
  simp

/-- The calls of `ret_cleanup` for a finished task are those of the task itself. -/
theorem retCalls_of_finished (h : st.Inv) {t : Task} (ht : t ∈ st.base.pool.finished) :
    retCalls t.serial calls = t.retCall := by
  have hnodup := h.nodup_lists.1
  rw [List.map_append] at hnodup
  rw [hcalls, retCalls_drain, filter_serial_of_mem hnodup.of_append_left ht]
  simp

/-- There is no call of `ret_cleanup` for a task that is still queued. -/
theorem retCalls_of_queued (h : st.Inv) {t : Task} (ht : t ∈ st.base.pool.queue) :
    retCalls t.serial calls = [] := by
  have hnodup := h.nodup_lists.1
  rw [List.map_append, List.nodup_append] at hnodup
  rw [hcalls, retCalls_drain, filter_serial_of_notMem]
  · rfl
  · exact fun hmem => hnodup.2.2 _ hmem _ (List.mem_map_of_mem ht) rfl

/-- Nothing is called for a task that is in no list. -/
theorem calls_of_handed (h : st.Inv) {t : Task} (ht : t ∈ st.base.handed) :
    userdataCalls t.serial calls = [] ∧ retCalls t.serial calls = [] := by
  have hnone := h.nodup_lists.2 t ht
  have hfinished : t.serial ∉ st.base.pool.finished.map Task.serial := by
    rw [List.map_append, List.mem_append, not_or] at hnone
    exact hnone.1
  rw [hcalls, userdataCalls_drain, retCalls_drain, filter_serial_of_notMem hnone,
    filter_serial_of_notMem hfinished]
  exact ⟨rfl, rfl⟩

/-- **The cleanups are as documented exactly when no task that timed out has a `ret_cleanup`.** -/
theorem cleanedUp_iff (h : st.Inv) (hheld : st.base.pool.held = []) :
    st.CleanedUp calls ↔
      ∀ t ∈ st.base.pool.finished, t.isTimeout = true → t.retCleanup = none := by
  constructor
  · intro hclean t ht htimeout
    -- a task that is left on the finished list was not handed out
    have hkept : t.serial ∉ st.base.handed.map Task.serial := by
      intro hmem
      obtain ⟨u, hu, heq⟩ := List.mem_map.mp hmem
      refine h.nodup_lists.2 u hu ?_
      rw [heq]
      exact List.mem_map_of_mem (List.mem_append_left _ ht)
    -- it timed out, so it was never executed and has no value to clean up
    have hcount : st.base.ran.count t.serial = 0 := by
      rcases h.base.done t (List.mem_append_left _ ht) with ⟨-, hfalse⟩ | ⟨hcount, -⟩
      · rw [htimeout] at hfalse
        cases hfalse
      · exact hcount
    have hnone := hclean.unexecuted _ (h.added_mem ht) hkept (h.notMem_returned hcount)
    have hcall := h.retCalls_of_finished hcalls ht
    rw [show t.added.serial = t.serial from rfl, hcall] at hnone
    cases hret : t.retCleanup with
    | none => rfl
    | some handler => simp [Task.retCall, hret] at hnone
  · intro hlate
    refine ⟨fun t ht => h.calls_of_handed hcalls ht, ?_, ?_, ?_⟩
    · intro t ht hkept
      obtain ⟨u, rfl, hu⟩ := h.mem_lists hheld ht hkept
      have hcall := h.userdataCalls_of_mem hcalls hu
      exact hcall
    · intro t ht hkept ret hret
      obtain ⟨u, rfl, hu | hu⟩ := h.mem_lists hheld ht hkept
      · rcases h.base.done u (List.mem_append_left _ hu) with ⟨-, hran⟩ | ⟨hcount, -⟩
        · have hown := h.done u (List.mem_append_left _ hu) hran
          obtain rfl := h.returned_unique hret hown
          exact h.retCalls_of_finished hcalls hu
        · exact absurd (List.mem_map_of_mem hret) (h.notMem_returned hcount)
      · -- a queued task was not executed
        exact absurd (List.mem_map_of_mem hret) (h.notMem_returned (h.base.queued u hu).count)
    · intro t ht hkept hnot
      obtain ⟨u, rfl, hu | hu⟩ := h.mem_lists hheld ht hkept
      · have hcall := h.retCalls_of_finished hcalls hu
        rcases h.base.done u (List.mem_append_left _ hu) with ⟨-, hran⟩ | ⟨-, htimeout⟩
        · have hown := h.done u (List.mem_append_left _ hu) hran
          exact absurd (List.mem_map_of_mem hown) hnot
        · -- it timed out and has no handler
          rw [show u.added.serial = u.serial from rfl, hcall, Task.retCall, hlate u hu htimeout]
          rfl
      · have hcall := h.retCalls_of_queued hcalls hu
        exact hcall

end Drained

end ShutdownState.Inv

/-- **When a freed pool has cleaned up**: after any run that ends with `free` the cleanups are as
documented exactly when no task that timed out was left on the finished list with a `ret_cleanup`. -/
theorem shutdownRun_cleanedUp_iff (workers : ℕ) {st st' : ShutdownState}
    (h : Reachable shutdownStep (shutdownStart workers) st)
    (hfree : shutdownStep st .free = some st') :
    (∃ calls, st'.cleanups = some calls ∧ st'.CleanedUp calls) ↔
      ∀ t ∈ st.base.pool.finished, t.isTimeout = true → t.retCleanup = none := by
  have hinv : st.Inv :=
    h.invariant (ShutdownState.shutdownStart_inv workers) fun _ _ _ hinv hstep => hinv.step hstep
  have hinv' := hinv.step hfree
  unfold shutdownStep at hfree
  split at hfree
  · cases hfree
  · obtain ⟨calls, hcalls, rfl⟩ := Option.map_eq_some_iff.mp hfree
    obtain ⟨hheld, hdrain⟩ := pthpoolFree_eq_some hcalls
    refine Iff.trans ?_
      (@ShutdownState.Inv.cleanedUp_iff { st with cleanups := some calls } calls hdrain hinv' hheld)
    constructor
    · rintro ⟨calls', hcalls', hclean⟩
      obtain rfl := Option.some.inj hcalls'
      exact hclean
    · exact fun hclean => ⟨calls, rfl, hclean⟩

/-- One worker and two tasks, the second of them late and without a `ret_cleanup`. -/
theorem shutdownRun_cleanedUp_iff_two_tasks :
    let acts : List ShutdownAction :=
      [.pool (.worker 0), .pool (.addTask 1 10 (some 3) (some 4) true),
        .pool (.addTask2 2 20 none (some 4) 5 true), .pool (.worker 0),
        .pool (.exec 0 4 (some 7)), .pool (.worker 0), .pool (.worker 0), .pool (.exec 0 9 none),
        .pool (.worker 0), .pool .stop, .pool (.worker 0)]
    ∃ st st', run shutdownStep (shutdownStart 1) acts = some st ∧
      shutdownStep st .free = some st' ∧
      st'.cleanups = some [.userdata 0 4 10, .ret 0 3 (some 7), .userdata 1 4 20] ∧
      ((∃ calls, st'.cleanups = some calls ∧ st'.CleanedUp calls) ↔
        ∀ t ∈ st.base.pool.finished, t.isTimeout = true → t.retCleanup = none) := by
  intro acts
  exact ⟨_, _, rfl, rfl, rfl, shutdownRun_cleanedUp_iff 1 ⟨acts, rfl⟩ rfl⟩

/-- **A task that timed out is not cleaned up as documented**: its function was not called, and its
`ret_cleanup` is called, with a null pointer. -/
theorem not_shutdownRun_cleanedUp :
    ¬∀ (workers : ℕ) (st st' : ShutdownState),
      Reachable shutdownStep (shutdownStart workers) st → shutdownStep st .free = some st' →
      ∃ calls, st'.cleanups = some calls ∧ st'.CleanedUp calls := by
  intro hall
  have hreach : Reachable shutdownStep (shutdownStart 1) _ :=
    ⟨[.pool (.worker 0), .pool (.addTask2 2 20 (some 3) (some 4) 5 true), .pool (.worker 0),
      .pool (.exec 0 9 none), .pool (.worker 0), .pool .stop, .pool (.worker 0)], rfl⟩
  obtain ⟨calls, hcalls, hclean⟩ := hall 1 _ _ hreach rfl
  obtain rfl := Option.some.inj hcalls
  have hnone := hclean.unexecuted (taskNew 0 2 20 (some 3) (some 4) 5) (by decide) (by decide)
    (by decide)
  exact absurd hnone (by decide)

end Ezgrpc2
