import Ezgrpc2.PoolShutdown

/-! # The workers finish

A pool that is left alone comes to rest, whichever worker gets the mutex: `Pthpool.work` counts the
critical sections and executions that are left, every one of them lowers it by one, and as long as it
is positive some worker can go on without a spurious wake-up. At rest all tasks are done; in a pool
that is to stop all workers have left, so the joins of `stop_and_join` and `free` return. -/

namespace Ezgrpc2

open StepRuns

/-! ## (1) The work that is left -/

/-- The steps a worker makes until it sleeps or exits, if it gets no task. -/
def Worker.work : Worker → ℕ
  | .holding _ => 3
  | .start | .executed _ => 2
  | .idle => 1
  | .waiting signalled => if signalled then 1 else 0
  | .exited => 0

/-- The number of steps that all workers have left for what they hold. -/
def workersWork : List Worker → ℕ
  | [] => 0
  | w :: threads => w.work + workersWork threads

/-- The steps the workers make: three for a task in the queue, if the pool is not to stop. -/
def Pthpool.work (pool : Pthpool) : ℕ :=
  (if pool.stop then 0 else 3 * pool.queue.length) + workersWork pool.threads

/-- The worker sleeps, without having been signalled. -/
def Worker.sleeps : Worker → Bool
  | .waiting signalled => !signalled
  | .start | .idle | .holding _ | .executed _ | .exited => false

/-- **A step of a worker**, unless it wakes up without a signal. -/
def PoolState.Works (st : PoolState) : PoolAction → Prop
  | .worker i => st.pool.threads[i]?.map Worker.sleeps ≠ some true
  | .exec _ _ _ => True
  | .addTask _ _ _ _ _ | .addTask2 _ _ _ _ _ _ | .poll _ | .stop => False

instance (st : PoolState) : (a : PoolAction) → Decidable (st.Works a)
  | .worker i => inferInstanceAs (Decidable (st.pool.threads[i]?.map Worker.sleeps ≠ some true))
  | .exec _ _ _ => isTrue trivial
  | .addTask _ _ _ _ _ | .addTask2 _ _ _ _ _ _ | .poll _ | .stop => isFalse not_false

/-- A step of a pool that is left alone. -/
def workStep (st : PoolState) (a : PoolAction) : Option PoolState :=
  if st.Works a then poolStep st a else none

theorem workStep_eq_some {st st' : PoolState} {a : PoolAction} :
    workStep st a = some st' ↔ st.Works a ∧ poolStep st a = some st' := by
  rw [workStep]
  by_cases h : st.Works a
  · rw [if_pos h, and_iff_right h]
  · rw [if_neg h, iff_false_left nofun]
    exact fun hstep => h hstep.1

/-- When one worker moves, the sum changes by the difference of its own work. -/
theorem workersWork_set {threads : List Worker} {i : ℕ} {w : Worker} (hw : threads[i]? = some w)
    (w' : Worker) : workersWork (threads.set i w') + w.work = workersWork threads + w'.work := by
  induction threads generalizing i with
  | nil => cases hw
  | cons v threads ih =>
      cases i with
      | zero =>
          obtain rfl : v = w := Option.some.inj hw
          rw [List.set_cons_zero, workersWork, workersWork]
          omega
      | succ i =>
          have ih := ih hw
          rw [List.set_cons_succ, workersWork, workersWork]
          omega

/-- The sum is zero when all workers have come to rest. -/
theorem workersWork_eq_zero {threads : List Worker} :
    workersWork threads = 0 ↔ ∀ w ∈ threads, w.work = 0 := by
  induction threads with
  | nil => exact ⟨fun _ w hw => (by cases hw), fun _ => rfl⟩
  | cons v threads ih =>
      rw [workersWork, List.forall_mem_cons, ← ih]
      omega

/-- A worker moves, and neither takes a task nor stops. -/
theorem work_set {pool pool' : Pthpool} {i : ℕ} {w w' : Worker} (hw : pool.threads[i]? = some w)
    (hstop : pool'.stop = pool.stop) (hqueue : pool'.queue = pool.queue)
    (hthreads : pool'.threads = pool.threads.set i w') (hone : w.work = w'.work + 1) :
    pool.work = pool'.work + 1 := by
  have hset := workersWork_set hw w'
  rw [Pthpool.work, Pthpool.work, hstop, hqueue, hthreads]
  omega

/-- The test of the inner loop, by a worker that has one step left. -/
theorem work_workerTake {st : PoolState} {i : ℕ} {w : Worker} (hw : st.pool.threads[i]? = some w)
    (hone : w.work = 1) :
    st.pool.work = Pthpool.work { (workerTake st.pool).1 with
      threads := (workerTake st.pool).1.threads.set i (workerTake st.pool).2 } + 1 := by
  rcases workerTake_cases st.pool with
    ⟨hstop, htake⟩ | ⟨hstop, hqueue, htake⟩ | ⟨hstop, task, queue, hqueue, htake⟩
  · -- it leaves
    have hset := workersWork_set hw .exited
    rw [hone] at hset
    rw [htake]
    simp only [Pthpool.work, hstop, if_true, Worker.work] at hset ⊢
    omega
  · -- it sleeps
    rw [htake]
    exact work_set hw rfl rfl rfl hone
  · -- it takes a task from the queue
    have hset := workersWork_set hw (.holding task)
    rw [hone] at hset
    rw [htake]
    simp only [Pthpool.work, hstop, hqueue, Worker.work, List.length_cons, Bool.false_eq_true,
      if_false] at hset ⊢
    omega

/-- **A step of a worker lowers the work by one.** -/
theorem workStep_work {st st' : PoolState} {a : PoolAction} (h : workStep st a = some st') :
    st.pool.work = st'.pool.work + 1 := by
  obtain ⟨hworks, hstep⟩ := workStep_eq_some.mp h
  cases a with
  | addTask | addTask2 | poll | stop => exact hworks.elim
  | worker i =>
      obtain ⟨w, hw, hstep⟩ := Option.bind_eq_some_iff.mp hstep
      obtain ⟨r, hsection, hstep⟩ := Option.bind_eq_some_iff.mp hstep
      obtain rfl := Option.some.inj hstep
      cases w with
      | start =>
          obtain rfl := Option.some.inj hsection
          exact work_set hw rfl rfl rfl rfl
      | idle =>
          obtain rfl := Option.some.inj hsection
          exact work_workerTake hw rfl
      | waiting signalled =>
          cases signalled with
          | true =>
              obtain rfl := Option.some.inj hsection
              exact work_workerTake hw rfl
          | false => exact absurd (congrArg (Option.map Worker.sleeps) hw) hworks
      | executed task =>
          obtain rfl := Option.some.inj hsection
          exact work_set hw rfl rfl rfl rfl
      | holding task => cases hsection
      | exited => cases hsection
  | exec i now ret =>
      obtain ⟨task, hw, hmove⟩ := poolStep_exec hstep
      generalize (workerExec now ret task).1 = called at hmove
      cases hmove with
      | late hw => exact work_set hw rfl rfl rfl rfl
      | call hw => exact work_set hw rfl rfl rfl rfl

/-- Without work left nothing is queued and no worker has a task. -/
theorem nil_of_work_eq_zero {pool : Pthpool} (hstop : pool.stop = false) (hwork : pool.work = 0) :
    pool.queue = [] ∧ pool.held = [] := by
  rw [Pthpool.work, hstop, if_neg Bool.false_ne_true] at hwork
  refine ⟨?_, ?_⟩
  · rw [← List.length_eq_zero_iff]
    omega
  · rw [Pthpool.held, List.filterMap_eq_nil_iff]
    intro w hw
    have hzero : w.work = 0 := workersWork_eq_zero.mp (by omega) w hw
    cases w with
    | holding | executed => cases hzero
    | start | idle | waiting | exited => rfl

/-! ## (2) Some worker can go on -/

/-- **The workers are there**: no wake-up is lost, and none of them exits before the pool is to stop. -/
structure PoolState.Alive (st : PoolState) : Prop where
  /-- No wake-up is lost, so that no worker sleeps on work. -/
  wakeups : st.pool.NoLostWakeup
  /-- No worker has exited as long as the pool is not to stop. -/
  exited : st.pool.stop = false → ∀ w ∈ st.pool.threads, w ≠ .exited
  /-- The pool has at least one worker. -/
  workers : st.pool.threads ≠ []

namespace PoolState.Alive

variable {st st' : PoolState}

theorem start {workers : ℕ} (h : 0 < workers) : (poolStart workers).Alive where
  wakeups := poolStart_noLostWakeup workers
  exited _ w hw := by
    rw [List.eq_of_mem_replicate hw]
    exact nofun
  workers := by
    show List.replicate workers Worker.start ≠ []
    rw [Ne, List.replicate_eq_nil_iff]
    omega

/-- A worker moves; it does not exit unless the pool is to stop. -/
theorem exited_set (h : st.Alive) {i : ℕ} {w : Worker} (hw : st.pool.stop = false → w ≠ .exited) :
    st.pool.stop = false → ∀ v ∈ st.pool.threads.set i w, v ≠ .exited := by
  intro hstop v hv
  rcases List.mem_or_eq_of_mem_set hv with hv | rfl
  · exact h.exited hstop v hv
  · exact hw hstop

theorem threads_set_ne (h : st.Alive) (i : ℕ) (w : Worker) : st.pool.threads.set i w ≠ [] := by
  intro hnil
  apply h.workers
  rw [← List.length_eq_zero_iff] at hnil ⊢
  rwa [List.length_set] at hnil

/-- Broadcasts do not bring workers to exit. -/
theorem broadcast_threads (h : st.Alive) :
    (st.pool.stop = false → ∀ w ∈ broadcast st.pool.threads, w ≠ .exited) ∧
      broadcast st.pool.threads ≠ [] := by
  refine ⟨fun hstop w hw heq => ?_, fun hnil => h.workers (List.map_eq_nil_iff.mp hnil)⟩
  obtain ⟨v, hv, rfl⟩ := List.mem_map.mp hw
  have hexited : v = .exited := by
    cases v with
    | exited => rfl
    | start | idle | waiting | holding | executed => cases heq
  exact h.exited hstop v hv hexited

/-- A call of `add_task2` leaves the workers alive. -/
theorem addTask2 (h : st.Alive) (task : Task) (serial func userdata : ℕ)
    (retCleanup userdataCleanup : Option ℕ) (timeout : ℤ) (mem : Bool) :
    (st.added task (pthpoolAddTask2 st.pool serial func userdata retCleanup userdataCleanup timeout
      mem)).Alive := by
  have hwakeups := h.wakeups.addTask2 serial func userdata retCleanup userdataCleanup timeout mem
  cases mem with
  | false => exact ⟨hwakeups, h.exited, h.workers⟩
  | true => exact ⟨hwakeups, h.broadcast_threads.1, h.broadcast_threads.2⟩

/-- **Every step leaves the workers alive.** -/
theorem step (h : st.Alive) {a : PoolAction} (hstep : poolStep st a = some st') : st'.Alive := by
  have hwakeups := h.wakeups.step hstep
  cases a with
  | addTask func userdata retCleanup userdataCleanup mem =>
      obtain rfl := Option.some.inj hstep
      exact h.addTask2 _ _ _ _ _ _ _ _
  | addTask2 func userdata retCleanup userdataCleanup timeout mem =>
      obtain rfl := Option.some.inj hstep
      exact h.addTask2 _ _ _ _ _ _ _ _
  | poll l =>
      obtain rfl := Option.some.inj hstep
      exact ⟨hwakeups, h.exited, h.workers⟩
  | stop =>
      obtain rfl := Option.some.inj hstep
      exact ⟨hwakeups, fun hstop => (nomatch hstop), h.broadcast_threads.2⟩
  | worker i =>
      cases poolStep_worker hstep with
      | start hw => exact ⟨hwakeups, h.exited_set fun _ => nofun, h.threads_set_ne _ _⟩
      | leave hw htask hstop =>
          refine ⟨hwakeups, h.exited_set fun hgo => ?_, h.threads_set_ne _ _⟩
          cases hstop.symm.trans hgo
      | sleep hw => exact ⟨hwakeups, h.exited_set fun _ => nofun, h.threads_set_ne _ _⟩
      | take hw => exact ⟨hwakeups, h.exited_set fun _ => nofun, h.threads_set_ne _ _⟩
      | publish hw => exact ⟨hwakeups, h.exited_set fun _ => nofun, h.threads_set_ne _ _⟩
  | exec i now ret =>
      obtain ⟨task, -, hmove⟩ := poolStep_exec hstep
      generalize (workerExec now ret task).1 = called at hmove
      cases hmove with
      | late hw => exact ⟨hwakeups, h.exited_set fun _ => nofun, h.threads_set_ne _ _⟩
      | call hw => exact ⟨hwakeups, h.exited_set fun _ => nofun, h.threads_set_ne _ _⟩

/-- A worker with work left can go on. -/
theorem exists_workStep_of_worker {i : ℕ} {w : Worker} (hw : st.pool.threads[i]? = some w)
    (hwork : 0 < w.work) : ∃ a st', workStep st a = some st' := by
  have hworker : w.sleeps = false → ∀ r, workerSection st.pool w = some r →
      ∃ a st', workStep st a = some st' := by
    intro hsleeps r hr
    have hworks : st.Works (.worker i) := by
      show st.pool.threads[i]?.map Worker.sleeps ≠ some true
      rw [hw, Option.map_some, hsleeps]
      exact nofun
    have hstep : poolStep st (.worker i) = some
        { st with
          pool := { r.1 with threads := r.1.threads.set i r.2 }
          taken := st.takenBy r.2 } := by
      rw [poolStep, hw, Option.bind_eq_bind, Option.bind_some, hr]
      rfl
    exact ⟨.worker i, _, workStep_eq_some.mpr ⟨hworks, hstep⟩⟩
  cases w with
  | start => exact hworker rfl _ rfl
  | idle => exact hworker rfl _ rfl
  | waiting signalled =>
      cases signalled with
      | true => exact hworker rfl _ rfl
      | false => cases hwork
  | executed task => exact hworker rfl _ rfl
  | holding task =>
      obtain ⟨st', hstep⟩ : ∃ st', poolStep st (.exec i 0 none) = some st' := by
        rw [poolStep, hw]
        exact ⟨_, rfl⟩
      exact ⟨.exec i 0 none, st', workStep_eq_some.mpr ⟨trivial, hstep⟩⟩
  | exited => cases hwork

/-- **As long as work is left some worker can go on**, without a spurious wake-up. -/
theorem exists_workStep (h : st.Alive) (hwork : 0 < st.pool.work) :
    ∃ a st', workStep st a = some st' := by
  by_cases hsum : ∃ w ∈ st.pool.threads, 0 < w.work
  · obtain ⟨w, hw, hpos⟩ := hsum
    obtain ⟨i, hi⟩ := List.getElem?_of_mem hw
    exact exists_workStep_of_worker hi hpos
  · -- the queue is not empty, so nobody sleeps, and nobody has exited
    exfalso
    obtain ⟨w, hw⟩ := List.exists_mem_of_ne_nil _ h.workers
    have hnone : ∀ w ∈ st.pool.threads, w.work = 0 := fun w hw =>
      Nat.eq_zero_of_not_pos fun hpos => hsum ⟨w, hw, hpos⟩
    have hrest := workersWork_eq_zero.mpr hnone
    have hzero := hnone w hw
    rw [Pthpool.work] at hwork
    cases hstop : st.pool.stop with
    | true =>
        rw [hstop, if_pos rfl] at hwork
        omega
    | false =>
        rw [hstop, if_neg Bool.false_ne_true] at hwork
        cases w with
        | waiting signalled =>
            cases signalled with
            | true => cases hzero
            | false =>
                have hqueue := (h.wakeups _ hw rfl).1
                rw [hqueue, List.length_nil] at hwork
                omega
        | exited => exact h.exited hstop _ hw rfl
        | start | idle | holding | executed => cases hzero

end PoolState.Alive

/-! ## (3) At rest -/

/-- **The pool is at rest**: all tasks are done or, if it is to stop, all workers have exited. -/
structure PoolState.AtRest (st : PoolState) : Prop where
  /-- Every task was executed, or was late, and is on the finished list or was handed out. -/
  done : st.pool.stop = false → (∀ t ∈ st.accepted, ∃ t' ∈ st.pool.finished ++ st.handed,
    t'.added = t ∧ t'.Done st.ran) ∧ st.pool.running = 0
  /-- All workers of a pool that is to stop have exited, so that the joins return. -/
  joined : st.pool.stop = true → ∀ w ∈ st.pool.threads, w = .exited

/-- Without work left a pool is at rest. -/
theorem PoolState.Alive.atRest {st : PoolState} (h : st.Alive) (hinv : st.Inv)
    (hwork : st.pool.work = 0) : st.AtRest := by
  constructor
  · intro hstop
    obtain ⟨hqueue, hheld⟩ := nil_of_work_eq_zero hstop hwork
    refine ⟨fun t ht => ?_, ?_⟩
    · have hmem := hinv.perm.symm.subset ht
      rw [PoolState.places, hqueue, hheld] at hmem
      obtain ⟨t', ht', rfl⟩ := List.mem_map.mp hmem
      have ht' : t' ∈ st.pool.finished ++ st.handed := ht'
      exact ⟨t', ht', rfl, hinv.done t' ht'⟩
    · rw [hinv.running, hheld]
      rfl
  · intro hstop w hw
    have hzero : w.work = 0 := by
      rw [Pthpool.work] at hwork
      exact workersWork_eq_zero.mp (by omega) w hw
    cases w with
    | waiting signalled =>
        cases signalled with
        | true => cases hzero
        | false => cases hstop.symm.trans (h.wakeups _ hw rfl).2
    | exited => rfl
    | start | idle | holding | executed => cases hzero

/-- **A pool that is left alone comes to rest**, whichever worker gets the mutex. -/
structure PoolState.ComesToRest (st : PoolState) : Prop where
  /-- The workers make so many steps at most. -/
  bounded : ∀ acts st', run workStep st acts = some st' → acts.length ≤ st.pool.work
  /-- Before that some worker can go on. -/
  goesOn : ∀ acts st', run workStep st acts = some st' → acts.length < st.pool.work →
    ∃ a st'', workStep st' a = some st''
  /-- When so many steps are made the pool is at rest. -/
  atRest : ∀ acts st', run workStep st acts = some st' → acts.length = st.pool.work → st'.AtRest
  /-- A spurious wake-up changes nothing: the worker goes back to sleep. -/
  spurious : ∀ i st', st.pool.threads[i]? = some (.waiting false) →
    poolStep st (.worker i) = some st' → st' = st

/-- A worker that wakes up without a signal goes back to sleep. -/
theorem PoolState.Alive.spurious {st st' : PoolState} (h : st.Alive) {i : ℕ}
    (hw : st.pool.threads[i]? = some (.waiting false))
    (hstep : poolStep st (.worker i) = some st') : st' = st := by
  obtain ⟨hqueue, hstop⟩ := h.wakeups _ (List.mem_of_getElem? hw) rfl
  have htake : workerTake st.pool = (st.pool, .waiting false) := by
    rcases workerTake_cases st.pool with ⟨hstop', -⟩ | ⟨-, -, htake⟩ | ⟨-, task, queue, hqueue', -⟩
    · cases hstop.symm.trans hstop'
    · exact htake
    · cases hqueue.symm.trans hqueue'
  rw [poolStep, hw, Option.bind_eq_bind, Option.bind_some, workerSection, htake] at hstep
  obtain rfl := Option.some.inj hstep
  have hset : st.pool.threads.set i (.waiting false) = st.pool.threads := by
    obtain ⟨hi, hget⟩ := List.getElem?_eq_some_iff.mp hw
    rw [← hget, List.set_getElem_self]
  show { st with pool := { st.pool with threads := st.pool.threads.set i (.waiting false) } } = st
  rw [hset]

/-- **Every pool comes to rest**, from any state it can reach. -/
theorem poolRun_comesToRest {workers : ℕ} (hworkers : 0 < workers) {st : PoolState}
    (h : Reachable poolStep (poolStart workers) st) : st.ComesToRest := by
  have hstep : ∀ st a st', st.Alive ∧ st.Inv → workStep st a = some st' →
      (st'.Alive ∧ st'.Inv) ∧ st.pool.work = st'.pool.work + 1 := by
    rintro st a st' ⟨halive, hinv⟩ hwork
    obtain ⟨-, hpool⟩ := workStep_eq_some.mp hwork
    exact ⟨⟨halive.step hpool, hinv.step hpool⟩, workStep_work hwork⟩
  have hst : st.Alive ∧ st.Inv :=
    h.invariant (I := fun st => st.Alive ∧ st.Inv) ⟨.start hworkers, poolStart_inv workers⟩
      fun _ _ _ hinv hstep => ⟨hinv.1.step hstep, hinv.2.step hstep⟩
  have hrun : ∀ acts st', run workStep st acts = some st' →
      (st'.Alive ∧ st'.Inv) ∧ st.pool.work = st'.pool.work + acts.length := by
    intro acts st' hrun
    exact ⟨run_invariant workStep (fun st a st' hst ha => (hstep st a st' hst ha).1) hst hrun,
      run_variant hstep hst hrun⟩
  refine ⟨fun acts st' hacts => ?_, fun acts st' hacts hlt => ?_, fun acts st' hacts heq => ?_,
    fun i st' hw hpool => hst.1.spurious hw hpool⟩
  · have hcount := (hrun acts st' hacts).2
    omega
  · obtain ⟨hst', hcount⟩ := hrun acts st' hacts
    exact hst'.1.exists_workStep (by omega)
  · obtain ⟨hst', hcount⟩ := hrun acts st' hacts
    exact hst'.1.atRest hst'.2 (by omega)

/-- Two workers and a task, before any of them has run. -/
theorem poolRun_comesToRest_two_workers :
    ∃ st, run poolStep (poolStart 2) [.addTask 1 10 none none true] = some st ∧ st.pool.work = 7 ∧
      st.ComesToRest :=
  ⟨_, rfl, rfl, poolRun_comesToRest (Nat.succ_pos 1) ⟨[.addTask 1 10 none none true], rfl⟩⟩

end Ezgrpc2
