import Ezgrpc2.Pthpool
import Mathlib.Data.List.Nodup
import Mathlib.Data.List.Perm.Basic

/-! # The pool of the logger

`thpool.c` is the pool of `ezgrpc2_pthpool.c` without finished tasks: a worker calls the function of a
task and frees the task, and what is in the queue when the pool is freed is handed to the cleanup
handlers. A handler is what it does with its `userdata` to a world `ω`. As in the other pool a
critical section is one step, and the order of the threads and spurious wake-ups are chosen by the
environment. -/

namespace Ezgrpc2

open StepRuns

/-! ## (1) The pool -/

/-- `struct task_t`. `serial` is not in the source: it numbers the tasks accepted. -/
structure ThTask (υ ω : Type) where
  /-- The number of the task, by which it can be told from others. -/
  serial : ℕ
  /-- The cleanup of `userdata`, or null. -/
  userdataCleanup : Option (υ → ω → ω)
  /-- The function that a worker is to call. -/
  func : υ → ω → ω
  /-- The argument that the function is called with. -/
  userdata : υ

/-- The program points of a worker, between its critical sections. -/
inductive ThWorker (υ ω : Type) where
  /-- In front of the first critical section. -/
  | start
  /-- In front of the critical section that takes a task. -/
  | idle
  /-- In `pthread_cond_wait`, and whether it was signalled since. -/
  | waiting (signalled : Bool)
  /-- With a task that is to be executed. -/
  | holding (task : ThTask υ ω)
  /-- Behind the loop, at the end of its thread. -/
  | exited

/-- `struct thpool`: the pool that the logger of the server uses. -/
structure Thpool (υ ω : Type) where
  /-- The queue of tasks that no worker has taken. -/
  queue : List (ThTask υ ω)
  /-- The workers of the pool, by their threads. -/
  threads : List (ThWorker υ ω)
  /-- The number of workers in their loop. -/
  live : ℤ
  /-- Whether the pool is to stop. -/
  stop : Bool

variable {υ ω : Type}

/-- The task that a worker holds, if it holds one. -/
def ThWorker.task? : ThWorker υ ω → Option (ThTask υ ω)
  | .holding task => some task
  | .start | .idle | .waiting _ | .exited => none

/-- The worker has left: it can be joined. -/
def ThWorker.hasExited : ThWorker υ ω → Bool
  | .exited => true
  | .start | .idle | .waiting _ | .holding _ => false

/-- The tasks that the workers hold, in the order of the threads. -/
def Thpool.held (pool : Thpool υ ω) : List (ThTask υ ω) := pool.threads.filterMap ThWorker.task?

/-- `thpool_init`, in front of the wait for its workers. -/
def thpoolInit (workers : ℕ) : Thpool υ ω where
  queue := []
  threads := List.replicate workers .start
  live := 0
  stop := false

/-- `pthread_cond_broadcast`: the workers that wait are signalled. -/
def thBroadcast (threads : List (ThWorker υ ω)) : List (ThWorker υ ω) :=
  threads.map fun w => match w with
    | .waiting _ => .waiting true
    | w => w

/-- `worker` behind the inner loop, to the end of the critical section. -/
def thWorkerTook (pool : Thpool υ ω) (task : Option (ThTask υ ω)) : Thpool υ ω × ThWorker υ ω :=
  if pool.stop then
    let queue := match task with
      | some task => listPushBack pool.queue task
      | none => pool.queue
    ({ pool with queue := queue, live := pool.live - 1 }, .exited)
  else
    match task with
    | some task => (pool, .holding task)
    | none => (pool, .idle)

/-- The inner loop of `worker`, from its test: it waits, or goes on with what it has popped. -/
def thWorkerTake (pool : Thpool υ ω) : Thpool υ ω × ThWorker υ ω :=
  if pool.stop then thWorkerTook pool none
  else
    match listPopFront pool.queue with
    | (none, queue) => ({ pool with queue := queue }, .waiting false)
    | (some task, queue) => thWorkerTook { pool with queue := queue } (some task)

/-- The critical section a worker is in front of. -/
def thWorkerSection (pool : Thpool υ ω) : ThWorker υ ω → Option (Thpool υ ω × ThWorker υ ω)
  | .start => some ({ pool with live := pool.live + 1 }, .idle)
  | .idle | .waiting _ => some (thWorkerTake pool)
  | .holding _ | .exited => none

/-- `thpool_add_task`; `mem` is whether memory for the task can be allocated. -/
def thpoolAddTask (pool : Thpool υ ω) (serial : ℕ) (func : υ → ω → ω) (userdata : υ)
    (userdataCleanup : Option (υ → ω → ω)) (mem : Bool) : ℕ × Thpool υ ω :=
  if !mem then (1, pool)
  else
    (0, { pool with
      queue := listPushBack pool.queue ⟨serial, userdataCleanup, func, userdata⟩
      threads := thBroadcast pool.threads })

/-- The critical section of `thpool_stop_and_join` and of `thpool_free`. -/
def thpoolStop (pool : Thpool υ ω) : Thpool υ ω :=
  { pool with stop := true, threads := thBroadcast pool.threads }

/-- The loop of `thpool_free`, which calls the cleanup of each task in the queue. -/
def thDrain : List (ThTask υ ω) → ω → ω
  | [], world => world
  | d :: queue, world =>
      match d.userdataCleanup with
      | some cleanup => thDrain queue (cleanup d.userdata world)
      | none => thDrain queue world

/-- `thpool_free` behind its critical section: the workers are joined and the queue is emptied. `none`
while it waits for a worker. Behind `thpool_stop_and_join` this joins every worker a second time,
which POSIX leaves undefined; here that join is taken to return. -/
def thpoolFree (pool : Thpool υ ω) (world : ω) : Option (Thpool υ ω × ω) :=
  if pool.stop && pool.threads.all ThWorker.hasExited then
    some ({ pool with queue := [] }, thDrain pool.queue world)
  else none

/-! ## (2) Runs -/

/-- A step of a pool, made by its owner or by a worker. -/
inductive ThAction (υ ω : Type) where
  /-- A call of `thpool_add_task`; `mem` says whether `malloc` succeeds. -/
  | addTask (func : υ → ω → ω) (userdata : υ) (userdataCleanup : Option (υ → ω → ω)) (mem : Bool)
  /-- The critical section of `thpool_stop_and_join` or `thpool_free`. -/
  | stop
  /-- The next critical section of a worker. -/
  | worker (i : ℕ)
  /-- The execution of the task a worker holds. -/
  | exec (i : ℕ)
  /-- The last part of `thpool_free`, behind its critical section. -/
  | free

/-- A pool together with the world and with what has happened to the tasks. -/
structure ThState (υ ω : Type) where
  /-- The pool as the steps left it. -/
  pool : Thpool υ ω
  /-- What the functions and cleanups of tasks act on. -/
  world : ω
  /-- Whether `thpool_free` has got through. -/
  freed : Bool
  /-- The tasks for which `thpool_add_task` returned 0. -/
  accepted : List (ThTask υ ω)
  /-- The tasks whose function was called, once for each call. -/
  ran : List (ThTask υ ω)
  /-- The tasks `thpool_free` found in the queue. -/
  drained : List (ThTask υ ω)

/-- The tasks whose `userdata_cleanup` was called. -/
def ThState.cleaned (st : ThState υ ω) : List (ThTask υ ω) :=
  st.drained.filter fun d => d.userdataCleanup.isSome

/-- A new pool, to which no task was added. -/
def thStart (workers : ℕ) (world : ω) : ThState υ ω := ⟨thpoolInit workers, world, false, [], [], []⟩

/-- One step; `none` where a worker has no such step to make, and behind `thpool_free`. -/
def thStep (st : ThState υ ω) (a : ThAction υ ω) : Option (ThState υ ω) :=
  if st.freed then none
  else
    match a with
    | .addTask func userdata userdataCleanup mem =>
        let r := thpoolAddTask st.pool st.accepted.length func userdata userdataCleanup mem
        some
          { st with
            pool := r.2
            accepted :=
              if r.1 = 0 then
                st.accepted ++ [⟨st.accepted.length, userdataCleanup, func, userdata⟩]
              else st.accepted }
    | .stop => some { st with pool := thpoolStop st.pool }
    | .worker i => do
        let w ← st.pool.threads[i]?
        let (pool, w) ← thWorkerSection st.pool w
        some { st with pool := { pool with threads := pool.threads.set i w } }
    | .exec i =>
        match st.pool.threads[i]? with
        | some (.holding task) =>
            some
              { st with
                pool := { st.pool with threads := st.pool.threads.set i .idle }
                world := task.func task.userdata st.world
                ran := st.ran ++ [task] }
        | _ => none
    | .free => do
        let (pool, world) ← thpoolFree st.pool st.world
        some { st with pool := pool, world := world, freed := true, drained := st.pool.queue }

/-- **What a step of the pool can do.** -/
inductive ThMove (st : ThState υ ω) : ThAction υ ω → ThState υ ω → Prop
  /-- There is no memory for the task. -/
  | refuse (func : υ → ω → ω) (userdata : υ) (userdataCleanup : Option (υ → ω → ω)) :
      ThMove st (.addTask func userdata userdataCleanup false) st
  /-- A task is accepted, and all waiting workers are signalled. -/
  | accept (func : υ → ω → ω) (userdata : υ) (userdataCleanup : Option (υ → ω → ω)) :
      ThMove st (.addTask func userdata userdataCleanup true)
        { st with
          pool := { st.pool with
            queue := st.pool.queue ++ [⟨st.accepted.length, userdataCleanup, func, userdata⟩]
            threads := thBroadcast st.pool.threads }
          accepted := st.accepted ++ [⟨st.accepted.length, userdataCleanup, func, userdata⟩] }
  /-- The pool is to stop, and all waiting workers are signalled. -/
  | stop : ThMove st .stop { st with pool := thpoolStop st.pool }
  /-- A worker without a task goes where it has none. -/
  | move {i : ℕ} {w : ThWorker υ ω} (hw : st.pool.threads[i]? = some w) (htask : w.task? = none)
      (w' : ThWorker υ ω) (htask' : w'.task? = none) (live : ℤ) :
      ThMove st (.worker i)
        { st with pool := { st.pool with
            live := live
            threads := st.pool.threads.set i w' } }
  /-- A worker takes the front of the queue. -/
  | take {i : ℕ} {w : ThWorker υ ω} {task : ThTask υ ω} {queue : List (ThTask υ ω)}
      (hw : st.pool.threads[i]? = some w) (htask : w.task? = none)
      (hqueue : st.pool.queue = task :: queue) :
      ThMove st (.worker i)
        { st with pool := { st.pool with
            queue := queue
            threads := st.pool.threads.set i (.holding task) } }
  /-- A worker calls the function of its task. -/
  | exec {i : ℕ} {task : ThTask υ ω} (hw : st.pool.threads[i]? = some (.holding task)) :
      ThMove st (.exec i)
        { st with
          pool := { st.pool with threads := st.pool.threads.set i .idle }
          world := task.func task.userdata st.world
          ran := st.ran ++ [task] }
  /-- The pool is freed: no worker holds a task, and the queue is emptied. -/
  | free (hheld : st.pool.held = []) :
      ThMove st .free
        { st with
          pool := { st.pool with queue := [] }
          world := thDrain st.pool.queue st.world
          freed := true
          drained := st.pool.queue }

/-- Taking a task: a worker leaves a pool that stops, waits at an empty queue and otherwise takes the
front of the queue. -/
theorem thWorkerTake_cases (pool : Thpool υ ω) :
    (pool.stop = true ∧ thWorkerTake pool = ({ pool with live := pool.live - 1 }, .exited)) ∨
    (pool.stop = false ∧ pool.queue = [] ∧ thWorkerTake pool = (pool, .waiting false)) ∨
    (pool.stop = false ∧ ∃ task queue, pool.queue = task :: queue ∧
      thWorkerTake pool = ({ pool with queue := queue }, .holding task)) := by
  obtain ⟨queue, threads, live, stop⟩ := pool
  cases stop with
  | true => exact Or.inl ⟨rfl, rfl⟩
  | false =>
      cases queue with
      | nil => exact Or.inr (Or.inl ⟨rfl, rfl, rfl⟩)
      | cons task queue => exact Or.inr (Or.inr ⟨rfl, task, queue, rfl, rfl⟩)

/-- **Every step is one of the moves**, and none is made behind `thpool_free`. -/
theorem thStep_move {st st' : ThState υ ω} {a : ThAction υ ω} (h : thStep st a = some st') :
    st.freed = false ∧ ThMove st a st' := by
  unfold thStep at h
  split at h
  · cases h
  next hfreed =>
  refine ⟨by simpa using hfreed, ?_⟩
  cases a with
  | addTask func userdata userdataCleanup mem =>
      obtain rfl := Option.some.inj h
      cases mem with
      | false => exact .refuse func userdata userdataCleanup
      | true => exact .accept func userdata userdataCleanup
  | stop =>
      obtain rfl := Option.some.inj h
      exact .stop
  | worker i =>
      obtain ⟨w, hw, h⟩ := Option.bind_eq_some_iff.mp h
      obtain ⟨⟨pool, w'⟩, hsection, h⟩ := Option.bind_eq_some_iff.mp h
      obtain rfl := Option.some.inj h
      -- a worker that is awake and holds nothing goes through the same critical section
      have htake : w.task? = none → thWorkerTake st.pool = (pool, w') →
          ThMove st (.worker i)
            { st with pool := { pool with threads := pool.threads.set i w' } } := by
        intro htask htake
        rcases thWorkerTake_cases st.pool with
          ⟨-, hres⟩ | ⟨-, -, hres⟩ | ⟨-, task, queue, hqueue, hres⟩
        all_goals
          rw [htake, Prod.mk.injEq] at hres
          obtain ⟨rfl, rfl⟩ := hres
        · exact .move hw htask .exited rfl _
        · exact .move hw htask (.waiting false) rfl _
        · exact .take hw htask hqueue
      cases w with
      | start =>
          cases hsection
          exact .move hw rfl .idle rfl _
      | idle => exact htake rfl (Option.some.inj hsection)
      | waiting signalled => exact htake rfl (Option.some.inj hsection)
      | holding task => cases hsection
      | exited => cases hsection
  | exec i =>
      simp only at h
      split at h
      · next task hw =>
          obtain rfl := Option.some.inj h
          exact .exec hw
      · cases h
  | free =>
      obtain ⟨⟨pool, world⟩, hfree, h⟩ := Option.bind_eq_some_iff.mp h
      obtain rfl := Option.some.inj h
      rw [thpoolFree] at hfree
      split at hfree
      · next hexit =>
          obtain ⟨rfl, rfl⟩ := Prod.mk.inj (Option.some.inj hfree)
          simp only [Bool.and_eq_true, List.all_eq_true] at hexit
          -- the workers were joined, so no task is held
          refine .free (List.filterMap_eq_nil_iff.mpr fun w hw => ?_)
          have hexited := hexit.2 w hw
          cases w with
          | exited => rfl
          | start | idle | waiting | holding => cases hexited
      · cases hfree

/-! ## (3) Tasks are conserved -/

/-- A broadcast does not touch the tasks. -/
theorem filterMap_task_thBroadcast (threads : List (ThWorker υ ω)) :
    (thBroadcast threads).filterMap ThWorker.task? = threads.filterMap ThWorker.task? := by
  rw [thBroadcast, List.filterMap_map]
  congr 1
  funext w
  cases w <;> rfl

namespace ThState

/-- **The tasks by where they are**: executed, held, queued, left in the queue. -/
def places (st : ThState υ ω) : List (ThTask υ ω) :=
  st.ran ++ st.pool.held ++ st.pool.queue ++ st.drained

/-- **The invariant of the pool**, which every step keeps. -/
structure Inv (st : ThState υ ω) : Prop where
  /-- The tasks accepted are in the places, each in one. -/
  perm : st.places.Perm st.accepted
  /-- The tasks accepted are numbered in the order of their acceptance. -/
  serials : st.accepted.map ThTask.serial = List.range st.accepted.length
  /-- Nothing is drained before the pool is freed. -/
  drained : st.freed = false → st.drained = []
  /-- Nothing is left in a pool that was freed. -/
  freed : st.freed = true → st.pool.held = [] ∧ st.pool.queue = []

/-- The invariant holds of a new pool. -/
theorem thStart_inv (workers : ℕ) (world : ω) : (thStart (υ := υ) workers world).Inv := by
  have hheld : (thStart (υ := υ) workers world).pool.held = [] := by
    apply List.filterMap_eq_nil_iff.mpr
    intro w hw
    rw [List.eq_of_mem_replicate hw]
    rfl
  refine ⟨?_, rfl, fun _ => rfl, fun h => by cases h⟩
  rw [places, hheld]
  exact List.Perm.refl _

/-- **Every step keeps the invariant**, whichever thread makes it. -/
theorem Inv.step {st st' : ThState υ ω} (h : st.Inv) {a : ThAction υ ω}
    (hstep : thStep st a = some st') : st'.Inv := by
  classical
  obtain ⟨hfreed, hmove⟩ := thStep_move hstep
  have hdrained := h.drained hfreed
  have hcount := fun t => h.perm.count_eq t
  simp only [places, List.count_append] at hcount
  -- the step was made on a pool that was not freed
  have hfalse : ∀ {P : Prop}, st.freed = true → P := fun h => by
    rw [hfreed] at h
    cases h
  cases hmove with
  | refuse func userdata userdataCleanup => exact h
  | accept func userdata userdataCleanup =>
      refine ⟨List.perm_iff_count.mpr fun t => ?_, ?_, h.drained, hfalse⟩
      · have ht := hcount t
        simp only [places, Thpool.held, filterMap_task_thBroadcast, List.count_append] at ht ⊢
        omega
      · simp [h.serials, List.range_succ]
  | stop =>
      refine ⟨?_, h.serials, h.drained, hfalse⟩
      have hperm := h.perm
      rw [places, Thpool.held] at hperm ⊢
      rw [thpoolStop, filterMap_task_thBroadcast]
      exact hperm
  | move hw htask w' htask' live =>
      obtain ⟨l₁, l₂, hsplit, hset⟩ := exists_threads_split hw
      refine ⟨?_, h.serials, h.drained, hfalse⟩
      have hperm := h.perm
      rw [places, Thpool.held, hsplit, filterMap_split, htask] at hperm
      rw [places, Thpool.held, hset, filterMap_split, htask']
      exact hperm
  | @take i w task queue hw htask hqueue =>
      obtain ⟨l₁, l₂, hsplit, hset⟩ := exists_threads_split hw
      refine ⟨List.perm_iff_count.mpr fun t => ?_, h.serials, h.drained, hfalse⟩
      have ht := hcount t
      -- the task leaves the queue for its worker: every task stands in as many places as before
      rw [Thpool.held, hsplit, filterMap_split, htask, hqueue] at ht
      rw [places, Thpool.held, hset, filterMap_split]
      simp only [ThWorker.task?, Option.toList_some, Option.toList_none, List.count_append,
        List.count_cons, List.count_nil] at ht ⊢
      omega
  | @exec i task hw =>
      obtain ⟨l₁, l₂, hsplit, hset⟩ := exists_threads_split hw
      refine ⟨List.perm_iff_count.mpr fun t => ?_, h.serials, h.drained, hfalse⟩
      have ht := hcount t
      rw [Thpool.held, hsplit, filterMap_split] at ht
      rw [places, Thpool.held, hset, filterMap_split]
      simp only [ThWorker.task?, Option.toList_some, Option.toList_none, List.count_append,
        List.count_cons, List.count_nil] at ht ⊢
      omega
  | free hheld =>
      refine ⟨?_, h.serials, fun h => (by cases h), fun _ => ⟨hheld, rfl⟩⟩
      have hperm := h.perm
      -- the queue that is left is drained, and nothing was drained before
      rw [places, hheld, hdrained, List.append_nil] at hperm
      show (st.ran ++ st.pool.held ++ [] ++ st.pool.queue).Perm st.accepted
      rw [hheld, List.append_nil]
      exact hperm

variable {st : ThState υ ω}

/-- The tasks are told apart by their serials. -/
theorem Inv.nodup (h : st.Inv) : (st.places.map ThTask.serial).Nodup := by
  rw [(h.perm.map ThTask.serial).nodup_iff, h.serials]
  exact List.nodup_range

/-- When the pool was freed, every task was executed or left in the queue. -/
theorem Inv.perm_of_freed (h : st.Inv) (hfreed : st.freed = true) :
    (st.ran ++ st.drained).Perm st.accepted := by
  have hperm := h.perm
  obtain ⟨hheld, hqueue⟩ := h.freed hfreed
  rw [places, hheld, hqueue, List.append_nil, List.append_nil] at hperm
  exact hperm

/-- The tasks that were executed or drained have serials of their own. -/
theorem Inv.nodup_done (h : st.Inv) : ((st.ran ++ st.cleaned).map ThTask.serial).Nodup := by
  have hsub : (st.ran ++ st.cleaned).Sublist st.places := by
    rw [places, List.append_assoc, List.append_assoc]
    exact List.Sublist.append_left
      ((List.filter_sublist.trans (List.sublist_append_right _ _)).trans
        (List.sublist_append_right _ _)) _
  exact h.nodup.sublist (hsub.map _)

/-- The function or the cleanup of a task is called, and no more than once. -/
theorem Inv.count_le (h : st.Inv) (serial : ℕ) :
    (st.ran.map ThTask.serial).count serial + (st.cleaned.map ThTask.serial).count serial ≤ 1 := by
  rw [← List.count_append, ← List.map_append]
  exact List.nodup_iff_count_le_one.mp h.nodup_done serial

/-- When the pool was freed, one of the two was, unless the task has no cleanup. -/
theorem Inv.count_eq (h : st.Inv) (hfreed : st.freed = true) {t : ThTask υ ω}
    (ht : t ∈ st.accepted) (hcleanup : t.userdataCleanup.isSome) :
    (st.ran.map ThTask.serial).count t.serial + (st.cleaned.map ThTask.serial).count t.serial
      = 1 := by
  have hmem : t ∈ st.ran ++ st.cleaned := by
    rw [List.mem_append, cleaned, List.mem_filter, and_iff_left hcleanup, ← List.mem_append]
    exact (h.perm_of_freed hfreed).mem_iff.mpr ht
  rw [← List.count_append, ← List.map_append]
  exact List.count_eq_one_of_mem h.nodup_done (List.mem_map_of_mem hmem)

end ThState

/-! ## (4) One worker keeps the order -/

namespace ThState

/-- **The tasks in line**, with the one worker at `w`: what was executed, what the worker holds, and
the queue or what `thpool_free` found in it. -/
structure InLine (st : ThState υ ω) (w : ThWorker υ ω) : Prop where
  /-- The pool has one worker, and this is its state. -/
  threads : st.pool.threads = [w]
  /-- The line is the tasks accepted. -/
  line : st.places = st.accepted

/-- The line of a new pool with one worker is empty. -/
theorem thStart_inLine (world : ω) : (thStart (υ := υ) 1 world).InLine .start := ⟨rfl, rfl⟩

variable {st st' : ThState υ ω} {w : ThWorker υ ω}

/-- The task in line is that of the one worker. -/
theorem InLine.held (h : st.InLine w) : st.pool.held = w.task?.toList := by
  rw [Thpool.held, h.threads]
  cases w <;> rfl

/-- A worker of the pool is the one worker. -/
theorem InLine.eq_of_getElem? (h : st.InLine w) {i : ℕ} {v : ThWorker υ ω}
    (hv : st.pool.threads[i]? = some v) :
    v = w ∧ ∀ w', st.pool.threads.set i w' = [w'] := by
  rw [h.threads] at hv ⊢
  exact eq_of_getElem?_singleton hv

/-- **Every step keeps the line in order.** -/
theorem InLine.step (h : st.InLine w) (hinv : st.Inv) {a : ThAction υ ω}
    (hstep : thStep st a = some st') : ∃ w', st'.InLine w' := by
  obtain ⟨hfreed, hmove⟩ := thStep_move hstep
  have hdrained := hinv.drained hfreed
  have hline := h.line
  -- a broadcast may wake the worker and changes nothing else
  have hbroadcast : ∃ w', thBroadcast st.pool.threads = [w'] := by
    rw [h.threads]
    exact ⟨_, rfl⟩
  rw [places, h.held, hdrained, List.append_nil] at hline
  cases hmove with
  | refuse func userdata userdataCleanup => exact ⟨w, h⟩
  | accept func userdata userdataCleanup =>
      obtain ⟨w', hthreads⟩ := hbroadcast
      refine ⟨w', hthreads, ?_⟩
      have hheld : (thBroadcast st.pool.threads).filterMap ThWorker.task? = w.task?.toList := by
        rw [filterMap_task_thBroadcast]
        exact h.held
      simp [places, Thpool.held, hheld, hdrained, ← hline]
  | stop =>
      obtain ⟨w', hthreads⟩ := hbroadcast
      refine ⟨w', hthreads, ?_⟩
      have hheld : (thBroadcast st.pool.threads).filterMap ThWorker.task? = w.task?.toList := by
        rw [filterMap_task_thBroadcast]
        exact h.held
      simp [places, Thpool.held, thpoolStop, hheld, hdrained, ← hline]
  | move hw htask w' htask' live =>
      obtain ⟨rfl, hset⟩ := h.eq_of_getElem? hw
      refine ⟨w', hset w', ?_⟩
      simp [places, Thpool.held, hset, htask', hdrained, ← hline, htask]
  | @take i v task queue hw htask hqueue =>
      obtain ⟨rfl, hset⟩ := h.eq_of_getElem? hw
      refine ⟨_, hset _, ?_⟩
      rw [htask, hqueue] at hline
      simp [places, Thpool.held, hset, ThWorker.task?, hdrained, ← hline]
  | @exec i task hw =>
      obtain ⟨rfl, hset⟩ := h.eq_of_getElem? hw
      refine ⟨_, hset _, ?_⟩
      simp [places, Thpool.held, hset, ThWorker.task?, hdrained, ← hline]
  | free hheld =>
      refine ⟨w, h.threads, ?_⟩
      show st.ran ++ st.pool.held ++ [] ++ st.pool.queue = st.accepted
      rw [h.held, List.append_nil]
      exact hline

/-- What one worker has executed is a prefix of the tasks accepted. -/
theorem InLine.ran_prefix (h : st.InLine w) : st.ran <+: st.accepted := by
  refine ⟨st.pool.held ++ st.pool.queue ++ st.drained, ?_⟩
  rw [← h.line, places]
  simp only [List.append_assoc]

end ThState

end Ezgrpc2
