import Ezgrpc2.PoolConservation

/-! # One worker keeps the order

With a single worker a task cannot overtake another one: behind the tasks that polls have handed out
come the finished ones, the task of the worker and the queue, and this line is the tasks accepted in
the order they were added. `PoolState.InLine` says so and is kept by every step, wherever the
worker is; `poolRun_inOrder` draws the conclusions for every reachable state. -/

namespace Ezgrpc2

open StepRuns

/-! ## (1) The line of tasks -/

/-- The task a worker has executed and not yet put on the finished list. -/
def Worker.result : Worker → List Task
  | .executed task => [task]
  | .start | .idle | .waiting _ | .holding _ | .exited => []

/-- The function of the task was called: it has not timed out. -/
def Task.wasRun (t : Task) : Bool := !t.isTimeout

namespace PoolState

/-- **The tasks in line**, with the one worker at `w`. -/
structure InLine (st : PoolState) (w : Worker) : Prop where
  /-- The pool has one worker, and this is its state. -/
  threads : st.pool.threads = [w]
  /-- The line is the tasks accepted. -/
  line : (st.handed ++ st.pool.finished ++ w.task?.toList ++ st.pool.queue).map Task.added
    = st.accepted
  /-- The functions were called in the order of the line. -/
  ran : st.ran
    = ((st.handed ++ st.pool.finished ++ w.result).filter Task.wasRun).map Task.serial

/-- The line of a new pool with one worker is empty. -/
theorem poolStart_inLine : (poolStart 1).InLine .start := ⟨rfl, rfl, rfl⟩

namespace InLine

variable {st st' : PoolState} {w : Worker}

/-- A worker of the pool is the one worker. -/
theorem eq_of_getElem? (h : st.InLine w) {i : ℕ} {v : Worker}
    (hv : st.pool.threads[i]? = some v) :
    v = w ∧ ∀ w', st.pool.threads.set i w' = [w'] := by
  rw [h.threads] at hv ⊢
  exact eq_of_getElem?_singleton hv

/-- The worker goes to another point and takes no task along. -/
theorem move (h : st.InLine w) {threads : List Worker} {w' : Worker} (hthreads : threads = [w'])
    (htask : w'.task? = w.task?) (hresult : w'.result = w.result) (live : ℤ) (stop : Bool)
    (taken : List Task) :
    InLine
      { st with
        pool := { st.pool with live := live, stop := stop, threads := threads }
        taken := taken } w' where
  threads := hthreads
  line := by
    rw [htask]
    exact h.line
  ran := by
    rw [hresult]
    exact h.ran

/-! ## (2) Every step keeps the line -/

/-- The worker takes the front of the queue, which is next in line. -/
theorem take (h : st.InLine w) {task : Task} {queue : List Task} {threads : List Worker}
    (htask : w.task? = none) (hresult : w.result = []) (hqueue : st.pool.queue = task :: queue)
    (hthreads : threads = [.holding task]) (running : ℤ) (taken : List Task) :
    InLine
      { st with
        pool := { st.pool with queue := queue, running := running, threads := threads }
        taken := taken } (.holding task) where
  threads := hthreads
  line := by
    have hline := h.line
    rw [htask, hqueue] at hline
    rw [← hline]
    simp [Worker.task?]
  ran := by
    have hran := h.ran
    rw [hresult] at hran
    exact hran

/-- The worker finishes its task, which is the first one behind those that are. -/
theorem publish {task : Task} (h : st.InLine (.executed task)) {running : ℤ} {threads : List Worker}
    (hthreads : threads = [.idle]) (taken : List Task) :
    InLine
      { st with
        pool := { st.pool with
          finished := listPushBack st.pool.finished task
          running := running
          threads := threads }
        taken := taken } .idle where
  threads := hthreads
  line := by
    have hline := h.line
    simp only [Worker.task?, Option.toList_some, Option.toList_none, List.append_nil, listPushBack,
      List.append_assoc] at hline ⊢
    exact hline
  ran := by
    have hran := h.ran
    simp only [Worker.result, List.append_nil, listPushBack, List.append_assoc] at hran ⊢
    exact hran

/-- A critical section of the worker keeps the line in order. -/
theorem worker (h : st.InLine w) {i : ℕ} (hmove : WorkerMove st i st') : ∃ w', st'.InLine w' := by
  -- a worker without a task has no result either
  have hresult : w.task? = none → w.result = [] := by
    cases w <;> simp [Worker.task?, Worker.result]
  cases hmove with
  | start hw =>
      obtain ⟨rfl, hset⟩ := h.eq_of_getElem? hw
      exact ⟨_, h.move (hset .idle) rfl rfl _ _ _⟩
  | leave hw htask hstop =>
      obtain ⟨rfl, hset⟩ := h.eq_of_getElem? hw
      exact ⟨_, h.move (hset .exited) htask.symm (hresult htask).symm _ _ _⟩
  | sleep hw htask hstop hqueue =>
      obtain ⟨rfl, hset⟩ := h.eq_of_getElem? hw
      exact ⟨_, h.move (hset (.waiting false)) htask.symm (hresult htask).symm _ _ _⟩
  | take hw htask hqueue =>
      obtain ⟨rfl, hset⟩ := h.eq_of_getElem? hw
      exact ⟨_, h.take htask (hresult htask) hqueue (hset _) _ _⟩
  | publish hw =>
      obtain ⟨rfl, hset⟩ := h.eq_of_getElem? hw
      exact ⟨_, h.publish (hset _) _⟩

/-- The worker has executed its task; the tasks in front of it were executed before. -/
theorem execute {task task' : Task} (h : st.InLine (.holding task)) {threads : List Worker}
    (hthreads : threads = [.executed task']) (hadded : task'.added = task.added) {ran : List ℕ}
    (hcalled : ran = st.ran ++ ([task'].filter Task.wasRun).map Task.serial) :
    InLine { st with pool := { st.pool with threads := threads }, ran := ran }
      (.executed task') where
  threads := hthreads
  line := by
    have hline := h.line
    simp only [Worker.task?, Option.toList_some, List.map_append, List.map_cons,
      List.map_nil] at hline ⊢
    rw [hadded]
    exact hline
  ran := by
    have hran := h.ran
    rw [Worker.result, List.append_nil] at hran
    rw [Worker.result, List.filter_append, List.map_append, ← hran]
    exact hcalled

/-- The worker executes its task, or finds that it is late. -/
theorem exec (h : st.InLine w) (hinv : st.Inv) {i : ℕ} {ret : Option ℕ} {called : Bool}
    (hmove : TaskMove st i ret called st') : ∃ w', st'.InLine w' := by
  cases hmove with
  | @late task hw =>
      obtain ⟨rfl, hset⟩ := h.eq_of_getElem? hw
      exact ⟨_, h.execute (hset (.executed { task with isTimeout := true })) rfl
        (by simp [Task.wasRun])⟩
  | @call task hw =>
      obtain ⟨rfl, hset⟩ := h.eq_of_getElem? hw
      -- a task that was not executed has not timed out yet
      have hpending : task.Pending st.ran := hinv.workers _ (List.mem_of_getElem? hw)
      exact ⟨_, h.execute (hset (.executed { task with ret := ret })) rfl
        (by simp [Task.wasRun, hpending.isTimeout])⟩

/-- A task is accepted behind the queue. -/
theorem addTask2 (h : st.InLine w) (func userdata : ℕ) (retCleanup userdataCleanup : Option ℕ)
    (timeout : ℤ) (mem : Bool) :
    ∃ w', (st.added (st.nextTask func userdata retCleanup userdataCleanup timeout)
      (pthpoolAddTask2 st.pool st.accepted.length func userdata retCleanup userdataCleanup timeout
        mem)).InLine w' := by
  cases mem with
  | false => exact ⟨w, h⟩
  | true =>
      have hbroadcast : ∃ w', broadcast st.pool.threads = [w'] ∧ w'.task? = w.task? ∧
          w'.result = w.result := by
        rw [h.threads]
        cases w <;> exact ⟨_, rfl, rfl, rfl⟩
      obtain ⟨w', hthreads, htask, hresult⟩ := hbroadcast
      refine ⟨w', hthreads, ?_, ?_⟩
      · show (st.handed ++ st.pool.finished ++ w'.task?.toList ++ (st.pool.queue ++ [_])).map
          Task.added = st.accepted ++ [_]
        rw [htask, ← List.append_assoc, List.map_append, h.line]
        rfl
      · show st.ran = ((st.handed ++ st.pool.finished ++ w'.result).filter _).map _
        rw [hresult]
        exact h.ran

/-- A poll hands out the finished tasks: the line does not change. -/
theorem poll (h : st.InLine w) (l : List Task) :
    InLine
      { st with
        pool := (pthpoolPoll st.pool l).2
        handed := st.handed ++ (pthpoolPoll st.pool l).1.drop l.length } w := by
  rw [pthpoolPoll, listConcatAndEmptySrc_eq, List.drop_left]
  refine ⟨h.threads, ?_, ?_⟩
  · show (st.handed ++ st.pool.finished ++ [] ++ w.task?.toList ++ st.pool.queue).map _ = _
    rw [List.append_nil]
    exact h.line
  · show st.ran = ((st.handed ++ st.pool.finished ++ [] ++ w.result).filter _).map _
    rw [List.append_nil]
    exact h.ran

/-- **Every step keeps the line in order.** -/
theorem step (h : st.InLine w) (hinv : st.Inv) {a : PoolAction}
    (hstep : poolStep st a = some st') : ∃ w', st'.InLine w' := by
  cases a with
  | addTask func userdata retCleanup userdataCleanup mem =>
      obtain rfl := Option.some.inj hstep
      exact h.addTask2 func userdata retCleanup userdataCleanup 0 mem
  | addTask2 func userdata retCleanup userdataCleanup timeout mem =>
      obtain rfl := Option.some.inj hstep
      exact h.addTask2 func userdata retCleanup userdataCleanup timeout mem
  | poll l =>
      obtain rfl := Option.some.inj hstep
      exact ⟨w, h.poll l⟩
  | stop =>
      obtain rfl := Option.some.inj hstep
      have hthreads : broadcast st.pool.threads = broadcast [w] := by rw [h.threads]
      cases w <;> exact ⟨_, h.move hthreads rfl rfl _ _ _⟩
  | worker i => exact h.worker (poolStep_worker hstep)
  | exec i now ret =>
      obtain ⟨task, -, hmove⟩ := poolStep_exec hstep
      exact h.exec hinv hmove

end InLine

/-! ## (3) What follows -/

/-- **The pool keeps the order of its tasks.** -/
structure InOrder (st : PoolState) : Prop where
  /-- What polls have handed out so far is a prefix of the tasks accepted. -/
  handed : st.handed.map Task.added <+: st.accepted
  /-- A poll leaves what is in its list and appends the tasks that come next. -/
  poll : ∀ l, ∃ news, (pthpoolPoll st.pool l).1 = l ++ news ∧
    (st.handed ++ news).map Task.added <+: st.accepted
  /-- Functions are called in the order the tasks were added. -/
  ran : st.ran.Sublist (st.accepted.map Task.serial)
  /-- The results handed out come in the order of the calls. -/
  results : (st.handed.filter Task.wasRun).map Task.serial <+: st.ran
  /-- The tasks that have timed out come in the order they were added. -/
  timeouts : ((st.handed.filter Task.isTimeout).map Task.added).Sublist st.accepted

theorem InLine.inOrder {st : PoolState} {w : Worker} (h : st.InLine w) : st.InOrder := by
  have hline := h.line
  rw [List.append_assoc, List.map_append] at hline
  have hfinished : (st.handed ++ st.pool.finished).map Task.added <+: st.accepted := ⟨_, hline⟩
  have hhanded : st.handed.map Task.added <+: st.accepted := by
    rw [List.map_append] at hfinished
    exact (List.prefix_append _ _).trans hfinished
  refine ⟨hhanded, fun l => ⟨st.pool.finished, ?_, hfinished⟩, ?_, ?_, ?_⟩
  · rw [pthpoolPoll, listConcatAndEmptySrc_eq]
  · -- an executed task is in front of the queue
    have hresult : w.result.Sublist w.task?.toList := by
      cases w <;> simp [Worker.result, Worker.task?]
    have hserials : st.accepted.map Task.serial
        = (st.handed ++ st.pool.finished ++ (w.task?.toList ++ st.pool.queue)).map Task.serial := by
      rw [← h.line, List.map_map, List.append_assoc]
      rfl
    rw [h.ran, hserials]
    apply List.Sublist.map
    apply List.filter_sublist.trans
    exact List.Sublist.append_left (List.sublist_append_of_sublist_left hresult) _
  · rw [h.ran, List.append_assoc, List.filter_append, List.map_append]
    exact List.prefix_append _ _
  · exact (List.filter_sublist.map Task.added).trans hhanded.sublist

end PoolState

/-- **One worker keeps the order**, wherever polls and new tasks come in between its steps. -/
theorem poolRun_inOrder {st : PoolState} (h : Reachable poolStep (poolStart 1) st) :
    st.InOrder := by
  have hline : st.Inv ∧ ∃ w, st.InLine w := by
    apply h.invariant (I := fun st => st.Inv ∧ ∃ w, st.InLine w)
    · exact ⟨poolStart_inv 1, _, PoolState.poolStart_inLine⟩
    · rintro st a st' ⟨hinv, w, hw⟩ hstep
      exact ⟨hinv.step hstep, hw.step hinv hstep⟩
  obtain ⟨-, w, hw⟩ := hline
  exact hw.inOrder

/-- Three tasks, the second of them late; a poll while the worker has the second one. -/
theorem poolRun_inOrder_three_tasks :
    let acts : List PoolAction :=
      [.worker 0, .addTask 1 10 none none true, .addTask2 2 20 none none 5 true, .worker 0,
        .exec 0 4 (some 7), .worker 0, .worker 0, .exec 0 9 none, .poll [],
        .addTask 3 30 none none true, .worker 0, .worker 0, .exec 0 9 (some 8), .worker 0,
        .poll [taskNew 9 9 9 none none 9]]
    ∃ st, run poolStep (poolStart 1) acts = some st ∧
      st.handed.map Task.serial = [0, 1, 2] ∧ st.ran = [0, 2] ∧ st.InOrder := by
  intro acts
  exact ⟨_, rfl, rfl, rfl, poolRun_inOrder ⟨acts, rfl⟩⟩

end Ezgrpc2
