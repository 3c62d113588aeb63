import Ezgrpc2.EzList
import Ezgrpc2.Lib.Runs
import Mathlib.Data.Int.Notation

/-! # The thread pool

`ezgrpc2_pthpool.c`: a queue of tasks, a list of finished tasks and any number of workers under one
mutex. A critical section is one step; between two of them a worker is at a program point,
`Worker`. The order in which the threads get the mutex, spurious wake-ups, the time and what the
functions of the tasks return are chosen by the environment. The `assert`s on the mutex hold, and
nodes of lists can be allocated. -/

namespace Ezgrpc2

/-- A list of one entry has no other. -/
theorem eq_of_getElem?_singleton {α : Type*} {w v : α} {i : ℕ} (h : [w][i]? = some v) :
    v = w ∧ ∀ w', [w].set i w' = [w'] := by
  cases i with
  | zero => exact ⟨(Option.some.inj h).symm, fun _ => rfl⟩
  | succ i => cases h

/-! ## (1) The data -/

/-- `struct ezgrpc2_pthpool_result_t`, a task. `serial` is not in the source: it numbers the tasks
accepted, where the source has the address of the task. -/
structure Task where
  /-- The number of the task, by which it can be told from others. -/
  serial : ℕ
  /-- The task was due before it was executed. -/
  isTimeout : Bool
  /-- The time it is due, or 0. -/
  timeout : ℤ
  /-- The cleanup of `ret`, or null. -/
  retCleanup : Option ℕ
  /-- The cleanup of `userdata`, or null. -/
  userdataCleanup : Option ℕ
  /-- The address of the function that a worker is to call. -/
  func : ℕ
  /-- The argument that the function is called with. -/
  userdata : ℕ
  /-- The value that the function returned, or null. -/
  ret : Option ℕ
deriving DecidableEq

/-- The program points of a worker, between its critical sections. -/
inductive Worker where
  /-- In front of the first critical section. -/
  | start
  /-- In front of the critical section that takes a task. -/
  | idle
  /-- In `pthread_cond_wait`, and whether it was signalled since. -/
  | waiting (signalled : Bool)
  /-- With a task that is to be executed. -/
  | holding (task : Task)
  /-- With a task that is to be put on the finished list. -/
  | executed (task : Task)
  /-- Behind the loop, at the end of its thread. -/
  | exited

/-- The task that a worker holds, if it holds one. -/
def Worker.task? : Worker → Option Task
  | .holding task | .executed task => some task
  | .start | .idle | .waiting _ | .exited => none

/-- `struct ezgrpc2_pthpool`, as the build configures it: without the counts. -/
structure Pthpool where
  /-- The queue of tasks that no worker has taken. -/
  queue : List Task
  /-- The finished tasks, until they are handed out. -/
  finished : List Task
  /-- The workers of the pool, by their threads. -/
  threads : List Worker
  /-- The number of tasks under way. -/
  running : ℤ
  /-- The number of workers in their loop. -/
  live : ℤ
  /-- Whether the pool is to stop. -/
  stop : Bool

/-- `ezgrpc2_pthpool_new`, in front of the wait for its workers. -/
def pthpoolNew (workers : ℕ) : Pthpool where
  queue := []
  finished := []
  threads := List.replicate workers .start
  running := 0
  live := 0
  stop := false

/-- The tasks that the workers hold, in the order of the threads. -/
def Pthpool.held (pool : Pthpool) : List Task := pool.threads.filterMap Worker.task?

/-- `pthread_cond_broadcast`: the workers that wait are signalled. -/
def broadcast (threads : List Worker) : List Worker :=
  threads.map fun w => match w with
    | .waiting _ => .waiting true
    | w => w

/-! ## (2) The worker -/

/-- The first critical section of `worker`, in which it counts itself. -/
def workerStart (pool : Pthpool) : Pthpool × Worker := ({ pool with live := pool.live + 1 }, .idle)

/-- `worker` behind the inner loop, to the end of the critical section. -/
def workerTook (pool : Pthpool) (task : Option Task) : Pthpool × Worker :=
  if pool.stop then
    let queue := match task with
      | some task => listPushBack pool.queue task
      | none => pool.queue
    ({ pool with queue := queue, live := pool.live - 1 }, .exited)
  else
    match task with
    | some task => ({ pool with running := pool.running + 1 }, .holding task)
    | none => (pool, .idle)

/-- The inner loop of `worker`, from its test: it waits, or goes on with what it has popped. -/
def workerTake (pool : Pthpool) : Pthpool × Worker :=
  if pool.stop then workerTook pool none
  else
    match listPopFront pool.queue with
    | (none, queue) => ({ pool with queue := queue }, .waiting false)
    | (some task, queue) => workerTook { pool with queue := queue } (some task)

/-- The execution of a task: whether its function is called, and the task then. `now` is the time,
`ret` what the function returns. -/
def workerExec (now : ℤ) (ret : Option ℕ) (task : Task) : Bool × Task :=
  if task.timeout ≠ 0 ∧ now > task.timeout then (false, { task with isTimeout := true })
  else (true, { task with ret := ret })

/-- The last critical section of the loop: the task is finished. -/
def workerPublish (pool : Pthpool) (task : Task) : Pthpool × Worker :=
  ({ pool with finished := listPushBack pool.finished task, running := pool.running - 1 }, .idle)

/-- The critical section a worker is in front of. One that waits is in front of the test of the inner
loop, signalled or not: a wake-up may be spurious. -/
def workerSection (pool : Pthpool) : Worker → Option (Pthpool × Worker)
  | .start => some (workerStart pool)
  | .idle | .waiting _ => some (workerTake pool)
  | .executed task => some (workerPublish pool task)
  | .holding _ | .exited => none

/-- **What taking a task does**: a worker leaves a pool that stops, waits at an empty queue and
otherwise takes the front of the queue. Nothing is ever put back. -/
theorem workerTake_cases (pool : Pthpool) :
    (pool.stop = true ∧ workerTake pool = ({ pool with live := pool.live - 1 }, .exited)) ∨
    (pool.stop = false ∧ pool.queue = [] ∧ workerTake pool = (pool, .waiting false)) ∨
    (pool.stop = false ∧ ∃ task queue, pool.queue = task :: queue ∧
      workerTake pool
        = ({ pool with queue := queue, running := pool.running + 1 }, .holding task)) := by
  obtain ⟨queue, finished, threads, running, live, stop⟩ := pool
  cases stop with
  | true => exact Or.inl ⟨rfl, rfl⟩
  | false =>
      cases queue with
      | nil => exact Or.inr (Or.inl ⟨rfl, rfl, rfl⟩)
      | cons task queue => exact Or.inr (Or.inr ⟨rfl, task, queue, rfl, rfl⟩)

/-! ## (3) The calls -/

/-- A task as `add_task2` fills it in. -/
def taskNew (serial func userdata : ℕ) (retCleanup userdataCleanup : Option ℕ) (timeout : ℤ) :
    Task where
  serial := serial
  isTimeout := false
  timeout := timeout
  retCleanup := retCleanup
  userdataCleanup := userdataCleanup
  func := func
  userdata := userdata
  ret := none

/-- `ezgrpc2_pthpool_is_empty`: nothing is queued, running or finished. -/
def pthpoolIsEmpty (pool : Pthpool) : ℕ :=
  if pool.running = 0 ∧ (listPeekFront pool.finished).isNone ∧ (listPeekFront pool.queue).isNone
  then 1 else 0

/-- `ezgrpc2_pthpool_add_task2`; `mem` is whether memory for the task can be allocated. -/
def pthpoolAddTask2 (pool : Pthpool) (serial func userdata : ℕ)
    (retCleanup userdataCleanup : Option ℕ) (timeout : ℤ) (mem : Bool) : ℕ × Pthpool :=
  if !mem then (1, pool)
  else
    let task := taskNew serial func userdata retCleanup userdataCleanup timeout
    (0, { pool with
      queue := listPushBack pool.queue task
      threads := broadcast pool.threads })

/-- `ezgrpc2_pthpool_add_task`: a task without a deadline. -/
def pthpoolAddTask (pool : Pthpool) (serial func userdata : ℕ)
    (retCleanup userdataCleanup : Option ℕ) (mem : Bool) : ℕ × Pthpool :=
  pthpoolAddTask2 pool serial func userdata retCleanup userdataCleanup 0 mem

/-- `ezgrpc2_pthpool_poll`: the list given, and the pool. -/
def pthpoolPoll (pool : Pthpool) (l : List Task) : List Task × Pthpool :=
  let (l, finished) := listConcatAndEmptySrc l pool.finished
  (l, { pool with finished := finished })

/-- The critical section of `ezgrpc2_pthpool_stop_and_join`, in front of its joins. -/
def pthpoolStop (pool : Pthpool) : Pthpool :=
  { pool with stop := true, threads := broadcast pool.threads }

/-! ## (4) Runs -/

/-- A step of a pool, made by the application or by a worker. -/
inductive PoolAction where
  /-- A call of `add_task`; `mem` says whether `malloc` succeeds. -/
  | addTask (func userdata : ℕ) (retCleanup userdataCleanup : Option ℕ) (mem : Bool)
  /-- A call of `add_task2`, with the deadline of the task. -/
  | addTask2 (func userdata : ℕ) (retCleanup userdataCleanup : Option ℕ) (timeout : ℤ)
      (mem : Bool)
  /-- A call of `poll` with a list. -/
  | poll (l : List Task)
  /-- The critical section of `stop_and_join`, which signals all workers. -/
  | stop
  /-- The next critical section of a worker. -/
  | worker (i : ℕ)
  /-- The execution of the task a worker holds. -/
  | exec (i : ℕ) (now : ℤ) (ret : Option ℕ)

/-- A pool together with what has happened to its tasks. -/
structure PoolState where
  /-- The pool as the steps left it. -/
  pool : Pthpool
  /-- The tasks accepted with 0, as they were queued. -/
  accepted : List Task
  /-- The tasks that have left the queue. -/
  taken : List Task
  /-- The serials of the tasks whose function was called, once for each call. -/
  ran : List ℕ
  /-- The tasks that polls have handed out. -/
  handed : List Task

/-- A new pool, to which no task was added. -/
def poolStart (workers : ℕ) : PoolState := ⟨pthpoolNew workers, [], [], [], []⟩

/-- The task a call of `add_task2` makes. -/
def PoolState.nextTask (st : PoolState) (func userdata : ℕ)
    (retCleanup userdataCleanup : Option ℕ) (timeout : ℤ) : Task :=
  taskNew st.accepted.length func userdata retCleanup userdataCleanup timeout

/-- The state behind a call of `add_task2` that returned `r`. -/
def PoolState.added (st : PoolState) (task : Task) (r : ℕ × Pthpool) : PoolState :=
  { st with
    pool := r.2
    accepted := if r.1 = 0 then st.accepted ++ [task] else st.accepted }

/-- What has left the queue when a critical section brings a worker to `w`. -/
def PoolState.takenBy (st : PoolState) : Worker → List Task
  | .holding task => st.taken ++ [task]
  | .start | .idle | .waiting _ | .executed _ | .exited => st.taken

/-- One step; `none` where a worker has no such step to make. -/
def poolStep (st : PoolState) : PoolAction → Option PoolState
  | .addTask func userdata retCleanup userdataCleanup mem =>
      some (st.added (st.nextTask func userdata retCleanup userdataCleanup 0)
        (pthpoolAddTask st.pool st.accepted.length func userdata retCleanup userdataCleanup mem))
  | .addTask2 func userdata retCleanup userdataCleanup timeout mem =>
      some (st.added (st.nextTask func userdata retCleanup userdataCleanup timeout)
        (pthpoolAddTask2 st.pool st.accepted.length func userdata retCleanup userdataCleanup
          timeout mem))
  | .poll l =>
      let r := pthpoolPoll st.pool l
      some { st with pool := r.2, handed := st.handed ++ r.1.drop l.length }
  | .stop => some { st with pool := pthpoolStop st.pool }
  | .worker i => do
      let w ← st.pool.threads[i]?
      let (pool, w) ← workerSection st.pool w
      some
        { st with
          pool := { pool with threads := pool.threads.set i w }
          taken := st.takenBy w }
  | .exec i now ret =>
      match st.pool.threads[i]? with
      | some (.holding task) =>
          let (called, task) := workerExec now ret task
          some
            { st with
              pool := { st.pool with threads := st.pool.threads.set i (.executed task) }
              ran := if called then st.ran ++ [task.serial] else st.ran }
      | _ => none

/-! ## (5) What the workers do -/

/-- The workers, split at one of them. -/
theorem exists_threads_split {α : Type*} {threads : List α} {i : ℕ} {w : α}
    (h : threads[i]? = some w) :
    ∃ l₁ l₂, threads = l₁ ++ w :: l₂ ∧ ∀ w', threads.set i w' = l₁ ++ w' :: l₂ := by
  obtain ⟨hi, hw⟩ := List.getElem?_eq_some_iff.mp h
  refine ⟨threads.take i, threads.drop (i + 1), ?_, fun w' => ?_⟩
  · rw [← hw, ← List.drop_eq_getElem_cons hi, List.take_append_drop]
  · rw [List.set_eq_take_append_cons_drop, if_pos hi]

/-- What the workers hold, split at one of them. -/
theorem filterMap_split {α β : Type*} {task? : α → Option β} (l₁ l₂ : List α) (w : α) :
    (l₁ ++ w :: l₂).filterMap task?
      = l₁.filterMap task? ++ ((task? w).toList ++ l₂.filterMap task?) := by
  rw [List.filterMap_append, List.filterMap_cons]
  cases task? w <;> rfl

/-- **What a critical section of worker `i` can do**, by the point it is at. -/
inductive WorkerMove (st : PoolState) (i : ℕ) : PoolState → Prop
  /-- A worker that has just been created enters its loop. -/
  | start (hw : st.pool.threads[i]? = some .start) : WorkerMove st i
      { st with pool := { st.pool with
          live := st.pool.live + 1
          threads := st.pool.threads.set i .idle } }
  /-- A worker leaves a pool that is to stop. -/
  | leave {w : Worker} (hw : st.pool.threads[i]? = some w) (htask : w.task? = none)
      (hstop : st.pool.stop = true) : WorkerMove st i
      { st with pool := { st.pool with
          live := st.pool.live - 1
          threads := st.pool.threads.set i .exited } }
  /-- A worker goes to sleep at an empty queue. -/
  | sleep {w : Worker} (hw : st.pool.threads[i]? = some w) (htask : w.task? = none)
      (hstop : st.pool.stop = false) (hqueue : st.pool.queue = []) : WorkerMove st i
      { st with pool := { st.pool with threads := st.pool.threads.set i (.waiting false) } }
  /-- A worker takes the front of the queue. -/
  | take {w : Worker} {task : Task} {queue : List Task} (hw : st.pool.threads[i]? = some w)
      (htask : w.task? = none) (hqueue : st.pool.queue = task :: queue) : WorkerMove st i
      { st with
        pool := { st.pool with
          queue := queue
          running := st.pool.running + 1
          threads := st.pool.threads.set i (.holding task) }
        taken := st.taken ++ [task] }
  /-- A worker puts its task on the finished list. -/
  | publish {task : Task} (hw : st.pool.threads[i]? = some (.executed task)) : WorkerMove st i
      { st with pool := { st.pool with
          finished := st.pool.finished ++ [task]
          running := st.pool.running - 1
          threads := st.pool.threads.set i .idle } }

/-- A critical section of a worker is one of these moves. -/
theorem poolStep_worker {st st' : PoolState} {i : ℕ} (h : poolStep st (.worker i) = some st') :
    WorkerMove st i st' := by
  rw [poolStep, Option.bind_eq_bind, Option.bind_eq_some_iff] at h
  obtain ⟨w, hw, h⟩ := h
  obtain ⟨⟨pool, w'⟩, hsection, h⟩ := Option.bind_eq_some_iff.mp h
  obtain rfl := Option.some.inj h
  -- a worker that is about to take a task
  have htake : w.task? = none → workerTake st.pool = (pool, w') →
      WorkerMove st i { st with
        pool := { pool with threads := pool.threads.set i w' }
        taken := st.takenBy w' } := by
    intro htask htake
    rcases workerTake_cases st.pool with
      ⟨hstop, hres⟩ | ⟨hstop, hqueue, hres⟩ | ⟨-, task, queue, hqueue, hres⟩
    all_goals
      rw [htake, Prod.mk.injEq] at hres
      obtain ⟨rfl, rfl⟩ := hres
    · exact .leave hw htask hstop
    · exact .sleep hw htask hstop hqueue
    · exact .take hw htask hqueue
  cases w with
  | start =>
      cases hsection
      exact .start hw
  | idle => exact htake rfl (Option.some.inj hsection)
  | waiting signalled => exact htake rfl (Option.some.inj hsection)
  | executed task =>
      cases hsection
      exact .publish hw
  | holding task => cases hsection
  | exited => cases hsection

/-- **What the execution of a task can do**: the task was due, or its function is called and returns
`ret`. -/
inductive TaskMove (st : PoolState) (i : ℕ) (ret : Option ℕ) : Bool → PoolState → Prop
  /-- The task is late, and its function is not called. -/
  | late {task : Task} (hw : st.pool.threads[i]? = some (.holding task)) :
      TaskMove st i ret false
        { st with pool := { st.pool with
            threads := st.pool.threads.set i (.executed { task with isTimeout := true }) } }
  /-- The function is called, and what it returned is stored. -/
  | call {task : Task} (hw : st.pool.threads[i]? = some (.holding task)) :
      TaskMove st i ret true
        { st with
          pool := { st.pool with
            threads := st.pool.threads.set i (.executed { task with ret := ret }) }
          ran := st.ran ++ [task.serial] }

/-- The execution of a task is one of these moves. -/
theorem poolStep_exec {st st' : PoolState} {i : ℕ} {now : ℤ} {ret : Option ℕ}
    (h : poolStep st (.exec i now ret) = some st') :
    ∃ task, st.pool.threads[i]? = some (.holding task) ∧
      TaskMove st i ret (workerExec now ret task).1 st' := by
  rw [poolStep] at h
  split at h
  · next task hw =>
      refine ⟨task, hw, ?_⟩
      by_cases hdue : task.timeout ≠ 0 ∧ now > task.timeout
      · rw [workerExec, if_pos hdue] at h ⊢
        obtain rfl := Option.some.inj h
        exact .late hw
      · rw [workerExec, if_neg hdue] at h ⊢
        obtain rfl := Option.some.inj h
        exact .call hw
  · cases h

end Ezgrpc2
