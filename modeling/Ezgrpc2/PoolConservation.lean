import Ezgrpc2.Pthpool
import Mathlib.Data.List.Nodup
import Mathlib.Data.List.Perm.Basic

/-! # Tasks are conserved

A task that was accepted is in the queue, held by a worker, on the finished list or handed out by a
poll. `PoolState.places` lists the tasks by where they are; `PoolState.Inv` says that these are the
tasks accepted, each once, and what has happened to a task by the place it is in. Every step keeps
it, whichever thread makes it; `poolRun_conserved` draws the conclusions for every reachable
state. -/

namespace Ezgrpc2

open StepRuns

/-! ## (1) The invariant -/

/-- A task as it was when it was accepted. -/
def Task.added (t : Task) : Task := { t with isTimeout := false, ret := none }

/-- The function of a task was not called and the task has not timed out. -/
structure Task.Pending (t : Task) (ran : List ℕ) : Prop where
  /-- The function of the task was not called yet. -/
  count : ran.count t.serial = 0
  /-- The task was not found late by a worker. -/
  isTimeout : t.isTimeout = false

/-- **A task is done**: its function was called once, or the task timed out and it was never
called. -/
def Task.Done (t : Task) (ran : List ℕ) : Prop :=
  (ran.count t.serial = 1 ∧ t.isTimeout = false) ∨ (ran.count t.serial = 0 ∧ t.isTimeout = true)

/-- What has happened to the task a worker holds. -/
def Worker.Ok (ran : List ℕ) : Worker → Prop
  | .holding task => task.Pending ran
  | .executed task => task.Done ran
  | .start | .idle | .waiting _ | .exited => True

namespace PoolState

/-- **The tasks by where they are**: queued, held, finished, handed out. -/
def places (st : PoolState) : List Task :=
  st.pool.queue ++ st.pool.held ++ st.pool.finished ++ st.handed

/-- **The invariant of a pool**, which every step keeps. -/
structure Inv (st : PoolState) : Prop where
  /-- The tasks accepted are in the places, each in one. -/
  perm : (st.places.map Task.added).Perm st.accepted
  /-- The tasks accepted are numbered in the order of their acceptance. -/
  serials : st.accepted.map Task.serial = List.range st.accepted.length
  /-- No queued task was executed or found late. -/
  queued : ∀ t ∈ st.pool.queue, t.Pending st.ran
  /-- A task that is held was executed or not, by the point its worker is at. -/
  workers : ∀ w ∈ st.pool.threads, w.Ok st.ran
  /-- A finished task was executed or timed out. -/
  done : ∀ t ∈ st.pool.finished ++ st.handed, t.Done st.ran
  /-- Only tasks that were accepted are executed. -/
  ran : ∀ i ∈ st.ran, i < st.accepted.length
  /-- Tasks leave the queue in the order they came. -/
  fifo : st.taken ++ st.pool.queue = st.accepted
  /-- `running` counts the tasks that are held. -/
  running : st.pool.running = st.pool.held.length

/-- The tasks are told apart by their serials. -/
theorem Inv.nodup {st : PoolState} (h : st.Inv) : (st.places.map Task.serial).Nodup := by
  have hserial : st.places.map Task.serial = (st.places.map Task.added).map Task.serial := by
    rw [List.map_map]
    rfl
  rw [hserial, (h.perm.map Task.serial).nodup_iff, h.serials]
  exact List.nodup_range

end PoolState

/-- A call adds one to the count of its task. -/
theorem count_ran_append {ran : List ℕ} {i j : ℕ} (h : i ≠ j) :
    (ran ++ [j]).count i = ran.count i := by
  rw [List.count_append, List.count_singleton, beq_false_of_ne (Ne.symm h)]
  rfl

/-- A call for another task changes nothing for this one. -/
theorem Task.Pending.append {t : Task} {ran : List ℕ} (h : t.Pending ran) {i : ℕ}
    (hne : t.serial ≠ i) : t.Pending (ran ++ [i]) where
  count := by rw [count_ran_append hne, h.count]
  isTimeout := h.isTimeout

theorem Task.Done.append {t : Task} {ran : List ℕ} (h : t.Done ran) {i : ℕ}
    (hne : t.serial ≠ i) : t.Done (ran ++ [i]) := by
  rw [Task.Done, count_ran_append hne]
  exact h

theorem Worker.Ok.append {w : Worker} {ran : List ℕ} (h : w.Ok ran) {i : ℕ}
    (hne : ∀ t, w.task? = some t → t.serial ≠ i) : w.Ok (ran ++ [i]) := by
  cases w with
  | holding t => exact Task.Pending.append h (hne t rfl)
  | executed t => exact Task.Done.append h (hne t rfl)
  | start | idle | waiting | exited => trivial

/-- The task of a worker was executed once at most. -/
theorem Worker.Ok.count_le {w : Worker} {ran : List ℕ} (h : w.Ok ran) {t : Task}
    (ht : w.task? = some t) : ran.count t.serial ≤ 1 := by
  cases w with
  | holding u =>
      obtain rfl := Option.some.inj ht
      have hcount := Task.Pending.count h
      omega
  | executed u =>
      obtain rfl := Option.some.inj ht
      rcases h with ⟨hcount, -⟩ | ⟨hcount, -⟩ <;> omega
  | start | idle | waiting | exited => cases ht

/-! ## (2) One worker moves -/

/-- A broadcast does not touch the tasks. -/
theorem filterMap_task_broadcast (threads : List Worker) :
    (broadcast threads).filterMap Worker.task? = threads.filterMap Worker.task? := by
  rw [broadcast, List.filterMap_map]
  congr 1
  funext w
  cases w <;> rfl

theorem ok_of_mem_broadcast {threads : List Worker} {ran : List ℕ}
    (h : ∀ w ∈ threads, w.Ok ran) : ∀ w ∈ broadcast threads, w.Ok ran := by
  intro w hw
  obtain ⟨v, hv, rfl⟩ := List.mem_map.mp hw
  have hok := h v hv
  cases v <;> exact hok

/-- No task is held in a new pool. -/
theorem poolStart_inv (workers : ℕ) : (poolStart workers).Inv := by
  have hheld : (poolStart workers).pool.held = [] := by
    apply List.filterMap_eq_nil_iff.mpr
    intro w hw
    rw [List.eq_of_mem_replicate hw]
    rfl
  refine ⟨?_, rfl, ?_, ?_, ?_, ?_, rfl, ?_⟩
  · rw [PoolState.places, hheld]
    exact List.Perm.refl _
  · intro t ht
    cases ht
  · intro w hw
    rw [List.eq_of_mem_replicate hw]
    trivial
  · intro t ht
    cases ht
  · intro i hi
    cases hi
  · rw [hheld]
    rfl

namespace PoolState.Inv

variable {st st' : PoolState}

/-- Steps that leave all tasks where they are keep the invariant. -/
theorem of_same (h : st.Inv) {pool : Pthpool} (hqueue : pool.queue = st.pool.queue)
    (hheld : pool.held = st.pool.held) (hfinished : pool.finished = st.pool.finished)
    (hrunning : pool.running = st.pool.running) (hworkers : ∀ w ∈ pool.threads, w.Ok st.ran) :
    PoolState.Inv { st with pool := pool } where
  perm := by
    rw [places, hqueue, hheld, hfinished]
    exact h.perm
  serials := h.serials
  queued := by
    rw [hqueue]
    exact h.queued
  workers := hworkers
  done := by
    rw [hfinished]
    exact h.done
  ran := h.ran
  fifo := by
    rw [hqueue]
    exact h.fifo
  running := by
    rw [hrunning, hheld]
    exact h.running

/-- A worker without a task goes to a point where it has none. -/
theorem move (h : st.Inv) {i : ℕ} {w w' : Worker} {live : ℤ} (hw : st.pool.threads[i]? = some w)
    (htask : w.task? = none) (htask' : w'.task? = none) (hok : w'.Ok st.ran) :
    PoolState.Inv
      { st with pool := { st.pool with live := live, threads := st.pool.threads.set i w' } } := by
  obtain ⟨l₁, l₂, hsplit, hset⟩ := exists_threads_split hw
  refine h.of_same rfl ?_ rfl rfl ?_
  · show (st.pool.threads.set i w').filterMap Worker.task? = st.pool.threads.filterMap Worker.task?
    rw [hset, hsplit, filterMap_split, filterMap_split, htask, htask']
  · intro v hv
    rcases List.mem_or_eq_of_mem_set hv with hv | rfl
    · exact h.workers v hv
    · exact hok

/-- A worker takes the front of the queue. -/
theorem take (h : st.Inv) {i : ℕ} {w : Worker} {task : Task} {queue : List Task}
    (hw : st.pool.threads[i]? = some w) (htask : w.task? = none)
    (hqueue : st.pool.queue = task :: queue) :
    PoolState.Inv
      { st with
        pool := { st.pool with
          queue := queue
          running := st.pool.running + 1
          threads := st.pool.threads.set i (.holding task) }
        taken := st.taken ++ [task] } := by
  obtain ⟨l₁, l₂, hsplit, hset⟩ := exists_threads_split hw
  -- the worker held nothing before and holds the task afterwards
  have hheld : st.pool.held = l₁.filterMap Worker.task? ++ l₂.filterMap Worker.task? := by
    rw [Pthpool.held, hsplit, filterMap_split, htask]
    rfl
  have hheld' : (st.pool.threads.set i (.holding task)).filterMap Worker.task?
      = l₁.filterMap Worker.task? ++ task :: l₂.filterMap Worker.task? := by
    rw [hset, filterMap_split]
    rfl
  refine ⟨?_, h.serials, ?_, ?_, h.done, h.ran, ?_, ?_⟩
  · -- the task goes from the front of the queue to its worker
    have hplaces := h.perm
    rw [places, hqueue, hheld] at hplaces
    refine List.Perm.trans (List.Perm.map _ ?_) hplaces
    show (queue ++ (st.pool.threads.set i (.holding task)).filterMap Worker.task? ++
      st.pool.finished ++ st.handed).Perm _
    rw [hheld']
    simp only [List.cons_append, List.append_assoc]
    rw [← List.append_assoc queue, ← List.append_assoc queue]
    exact List.perm_middle
  · intro t ht
    exact h.queued t (by rw [hqueue]; exact List.mem_cons_of_mem task ht)
  · intro v hv
    rcases List.mem_or_eq_of_mem_set hv with hv | rfl
    · exact h.workers v hv
    · exact h.queued task (by rw [hqueue]; exact List.mem_cons_self)
  · -- what was taken and what waits are still the accepted tasks in order
    show st.taken ++ [task] ++ queue = st.accepted
    rw [List.append_assoc, ← h.fifo, hqueue]
    rfl
  · show st.pool.running + 1 = ((st.pool.threads.set i _).filterMap Worker.task?).length
    rw [hheld', h.running, hheld, List.length_append, List.length_append, List.length_cons]
    omega

/-- A worker that finishes its task moves it to the finished list. -/
theorem publish (h : st.Inv) {i : ℕ} {task : Task}
    (hw : st.pool.threads[i]? = some (.executed task)) :
    PoolState.Inv
      { st with
        pool := { st.pool with
          finished := st.pool.finished ++ [task]
          running := st.pool.running - 1
          threads := st.pool.threads.set i .idle } } := by
  obtain ⟨l₁, l₂, hsplit, hset⟩ := exists_threads_split hw
  -- the worker held the task before and holds nothing afterwards
  have hheld : st.pool.held = l₁.filterMap Worker.task? ++ task :: l₂.filterMap Worker.task? := by
    rw [Pthpool.held, hsplit, filterMap_split]
    rfl
  have hheld' : (st.pool.threads.set i .idle).filterMap Worker.task?
      = l₁.filterMap Worker.task? ++ l₂.filterMap Worker.task? := by
    rw [hset, filterMap_split]
    rfl
  refine ⟨?_, h.serials, h.queued, ?_, ?_, h.ran, h.fifo, ?_⟩
  · -- the task goes from its worker to the back of the finished ones
    refine List.Perm.trans (List.Perm.map _ ?_) h.perm
    show (st.pool.queue ++ (st.pool.threads.set i .idle).filterMap Worker.task? ++
      (st.pool.finished ++ [task]) ++ st.handed).Perm st.places
    rw [hheld', places, hheld]
    simp only [List.append_assoc, List.cons_append, List.nil_append]
    refine List.Perm.append_left _ (List.Perm.append_left _ ?_)
    rw [← List.append_assoc, ← List.append_assoc]
    exact List.perm_middle
  · intro v hv
    rcases List.mem_or_eq_of_mem_set hv with hv | rfl
    · exact h.workers v hv
    · trivial
  · intro t ht
    rw [List.append_assoc, List.mem_append, List.mem_append, List.mem_singleton] at ht
    rcases ht with ht | rfl | ht
    · exact h.done t (List.mem_append_left _ ht)
    · exact h.workers _ (List.mem_of_getElem? hw)
    · exact h.done t (List.mem_append_right _ ht)
  · show st.pool.running - 1 = ((st.pool.threads.set i .idle).filterMap Worker.task?).length
    rw [hheld', h.running, hheld, List.length_append, List.length_append, List.length_cons]
    omega

/-- **A critical section of a worker keeps the invariant.** -/
theorem worker (h : st.Inv) {i : ℕ} (hmove : WorkerMove st i st') : st'.Inv := by
  cases hmove with
  | start hw => exact h.move hw rfl rfl trivial
  | leave hw htask hstop => exact h.move hw htask rfl trivial
  | sleep hw htask hstop hqueue => exact h.move hw htask rfl trivial
  | take hw htask hqueue => exact h.take hw htask hqueue
  | publish hw => exact h.publish hw

/-- The tasks in the other places have other serials than the task of a worker. -/
theorem serial_ne (h : st.Inv) {l₁ l₂ : List Worker} {w : Worker} {task : Task}
    (hsplit : st.pool.threads = l₁ ++ w :: l₂) (htask : w.task? = some task) {t : Task}
    (ht : t ∈ st.pool.queue ∨ t ∈ l₁.filterMap Worker.task? ∨ t ∈ l₂.filterMap Worker.task? ∨
      t ∈ st.pool.finished ++ st.handed) : t.serial ≠ task.serial := by
  intro heq
  have hplaces : st.places = (st.pool.queue ++ l₁.filterMap Worker.task?) ++
      task :: (l₂.filterMap Worker.task? ++ (st.pool.finished ++ st.handed)) := by
    rw [places, Pthpool.held, hsplit, filterMap_split, htask]
    simp only [Option.toList_some, List.append_assoc, List.cons_append, List.nil_append]
  have hnodup := h.nodup
  rw [hplaces, List.map_append, List.map_cons, List.nodup_middle, ← List.map_append] at hnodup
  refine (List.nodup_cons.mp hnodup).1 (heq ▸ List.mem_map_of_mem ?_)
  rw [List.mem_append, List.mem_append, List.mem_append, or_assoc]
  exact ht

/-- A task is executed where it is. The other tasks have other serials, so a call is not counted for
them. -/
theorem execute (h : st.Inv) {i : ℕ} {task task' : Task} {ran : List ℕ}
    (hw : st.pool.threads[i]? = some (.holding task)) (hadded : task'.added = task.added)
    (hran : ran = st.ran ∨ ran = st.ran ++ [task.serial]) (hdone : task'.Done ran) :
    PoolState.Inv
      { st with
        pool := { st.pool with threads := st.pool.threads.set i (.executed task') }
        ran := ran } := by
  obtain ⟨l₁, l₂, hsplit, hset⟩ := exists_threads_split hw
  have hne := fun t => h.serial_ne hsplit (w := .holding task) rfl (t := t)
  -- executing keeps the task in its place and changes only what it says
  have hheld : st.pool.held = l₁.filterMap Worker.task? ++ task :: l₂.filterMap Worker.task? := by
    rw [Pthpool.held, hsplit, filterMap_split]
    rfl
  have hheld' : (st.pool.threads.set i (.executed task')).filterMap Worker.task?
      = l₁.filterMap Worker.task? ++ task' :: l₂.filterMap Worker.task? := by
    rw [hset, filterMap_split]
    rfl
  refine ⟨?_, h.serials, ?_, ?_, ?_, ?_, h.fifo, ?_⟩
  · -- the task stays in its place
    have hplaces := h.perm
    rw [places, hheld] at hplaces
    show ((st.pool.queue ++ (st.pool.threads.set i _).filterMap Worker.task? ++
      st.pool.finished ++ st.handed).map Task.added).Perm st.accepted
    rw [hheld']
    simp only [List.map_append, List.map_cons, hadded] at hplaces ⊢
    exact hplaces
  · intro t ht
    rcases hran with rfl | rfl
    · exact h.queued t ht
    · exact (h.queued t ht).append (hne t (Or.inl ht))
  · intro v hv
    rw [hset, List.mem_append, List.mem_cons] at hv
    by_cases hexec : v = .executed task'
    · rw [hexec]
      exact hdone
    · -- one of the other workers
      have hv' : v ∈ l₁ ∨ v ∈ l₂ := by
        rcases hv with hv | hv | hv
        · exact Or.inl hv
        · exact absurd hv hexec
        · exact Or.inr hv
      have hmem : v ∈ st.pool.threads := by
        rw [hsplit, List.mem_append, List.mem_cons]
        exact hv'.imp id Or.inr
      rcases hran with rfl | rfl
      · exact h.workers v hmem
      · refine (h.workers v hmem).append fun t ht => hne t ?_
        rcases hv' with hv' | hv'
        · exact Or.inr (Or.inl (List.mem_filterMap.mpr ⟨v, hv', ht⟩))
        · exact Or.inr (Or.inr (Or.inl (List.mem_filterMap.mpr ⟨v, hv', ht⟩)))
  · intro t ht
    rcases hran with rfl | rfl
    · exact h.done t ht
    · exact (h.done t ht).append (hne t (Or.inr (Or.inr (Or.inr ht))))
  · -- the task was accepted
    have hserial : task.serial < st.accepted.length := by
      have hmem : task.added ∈ st.accepted := by
        refine h.perm.mem_iff.mp (List.mem_map_of_mem ?_)
        rw [places, hheld]
        simp only [List.mem_append, List.mem_cons, true_or, or_true]
      have hrange := List.mem_map_of_mem (f := Task.serial) hmem
      rw [h.serials, List.mem_range] at hrange
      exact hrange
    rcases hran with rfl | rfl
    · exact h.ran
    · intro j hj
      rcases List.mem_append.mp hj with hj | hj
      · exact h.ran j hj
      · rw [List.mem_singleton.mp hj]
        exact hserial
  · show st.pool.running = ((st.pool.threads.set i _).filterMap Worker.task?).length
    rw [hheld', h.running, hheld, List.length_append, List.length_append, List.length_cons,
      List.length_cons]

/-- **A worker executes its task**, or finds that it is late. -/
theorem exec (h : st.Inv) {i : ℕ} {ret : Option ℕ} {called : Bool}
    (hmove : TaskMove st i ret called st') : st'.Inv := by
  cases hmove with
  | @late task hw =>
      have hpending : task.Pending st.ran := h.workers _ (List.mem_of_getElem? hw)
      exact h.execute hw rfl (Or.inl rfl) (Or.inr ⟨hpending.count, rfl⟩)
  | @call task hw =>
      have hpending : task.Pending st.ran := h.workers _ (List.mem_of_getElem? hw)
      refine h.execute hw rfl (Or.inr rfl) (Or.inl ⟨?_, hpending.isTimeout⟩)
      show (st.ran ++ [task.serial]).count task.serial = 1
      rw [List.count_append, hpending.count, List.count_singleton_self]

/-! ## (3) The calls -/

/-- A call of `add_task2`, which may accept a task, keeps the invariant. -/
theorem addTask2 (h : st.Inv) (func userdata : ℕ) (retCleanup userdataCleanup : Option ℕ)
    (timeout : ℤ) (mem : Bool) :
    (st.added (st.nextTask func userdata retCleanup userdataCleanup timeout)
      (pthpoolAddTask2 st.pool st.accepted.length func userdata retCleanup userdataCleanup timeout
        mem)).Inv := by
  cases mem with
  | false => exact h
  | true =>
      have hheld : (broadcast st.pool.threads).filterMap Worker.task? = st.pool.held :=
        filterMap_task_broadcast _
      -- the new serial is above all serials in use, so the task was not called yet
      have hcount : st.ran.count st.accepted.length = 0 :=
        List.count_eq_zero.mpr fun hmem => Nat.lt_irrefl _ (h.ran _ hmem)
      refine ⟨?_, ?_, ?_, ok_of_mem_broadcast h.workers, h.done, ?_, ?_, ?_⟩
      · -- the new task is behind the queue on one side and behind all tasks on the other
        have hmove : ∀ t : Task, (st.pool.queue ++ [t] ++ st.pool.held ++ st.pool.finished ++
            st.handed).Perm (st.places ++ [t]) := by
          intro t
          have hcomm : ([t] ++ (st.pool.held ++ (st.pool.finished ++ st.handed))).Perm
              (st.pool.held ++ (st.pool.finished ++ st.handed) ++ [t]) := List.perm_append_comm
          rw [places]
          simp only [List.append_assoc] at hcomm ⊢
          exact List.Perm.append_left _ hcomm
        show ((st.pool.queue ++ [_] ++ (broadcast st.pool.threads).filterMap Worker.task? ++
          st.pool.finished ++ st.handed).map Task.added).Perm (st.accepted ++ [_])
        rw [hheld]
        refine ((hmove _).map Task.added).trans ?_
        rw [List.map_append]
        exact h.perm.append_right _
      · show (st.accepted ++ [_]).map Task.serial = List.range (st.accepted ++ [_]).length
        rw [List.map_append, h.serials, List.length_append, List.length_singleton, List.range_succ]
        rfl
      · intro t ht
        rcases List.mem_append.mp ht with ht | ht
        · exact h.queued t ht
        · rw [List.mem_singleton.mp ht]
          exact ⟨hcount, rfl⟩
      · intro j hj
        show j < (st.accepted ++ [_]).length
        rw [List.length_append]
        exact Nat.lt_add_right _ (h.ran j hj)
      · show st.taken ++ (st.pool.queue ++ [_]) = st.accepted ++ [_]
        rw [← List.append_assoc, h.fifo]
        rfl
      · show st.pool.running = ((broadcast st.pool.threads).filterMap Worker.task?).length
        rw [hheld]
        exact h.running

/-- Handing out the finished tasks keeps the invariant. -/
theorem poll (h : st.Inv) (l : List Task) :
    PoolState.Inv
      { st with
        pool := (pthpoolPoll st.pool l).2
        handed := st.handed ++ (pthpoolPoll st.pool l).1.drop l.length } := by
  have hpoll : pthpoolPoll st.pool l = (l ++ st.pool.finished, { st.pool with finished := [] }) := by
    rw [pthpoolPoll, listConcatAndEmptySrc_eq]
  rw [hpoll, List.drop_left]
  refine ⟨?_, h.serials, h.queued, h.workers, ?_, h.ran, h.fifo, h.running⟩
  · refine List.Perm.trans (List.Perm.map _ ?_) h.perm
    show (st.pool.queue ++ st.pool.held ++ [] ++ (st.handed ++ st.pool.finished)).Perm
      (st.pool.queue ++ st.pool.held ++ st.pool.finished ++ st.handed)
    rw [List.append_nil, List.append_assoc _ st.pool.finished]
    exact List.Perm.append_left _ List.perm_append_comm
  · intro t ht
    exact h.done t (List.perm_append_comm.mem_iff.mp ht)

/-- **Every step keeps the invariant**, whichever thread makes it. -/
theorem step (h : st.Inv) {a : PoolAction} (hstep : poolStep st a = some st') : st'.Inv := by
  cases a with
  | addTask func userdata retCleanup userdataCleanup mem =>
      obtain rfl := Option.some.inj hstep
      exact h.addTask2 func userdata retCleanup userdataCleanup 0 mem
  | addTask2 func userdata retCleanup userdataCleanup timeout mem =>
      obtain rfl := Option.some.inj hstep
      exact h.addTask2 func userdata retCleanup userdataCleanup timeout mem
  | poll l =>
      obtain rfl := Option.some.inj hstep
      exact h.poll l
  | stop =>
      obtain rfl := Option.some.inj hstep
      exact h.of_same rfl (filterMap_task_broadcast _) rfl rfl (ok_of_mem_broadcast h.workers)
  | worker i => exact h.worker (poolStep_worker hstep)
  | exec i now ret =>
      obtain ⟨task, -, hmove⟩ := poolStep_exec hstep
      exact h.exec hmove

end PoolState.Inv

/-! ## (4) What follows -/

namespace PoolState

/-- **Tasks are conserved**: each accepted task is in one place and executed at most once. -/
structure Conserved (st : PoolState) : Prop where
  /-- Every task accepted is in one place, otherwise as it was accepted. -/
  perm : (st.places.map Task.added).Perm st.accepted
  /-- No task is in two places, or twice in one. -/
  nodup : (st.places.map Task.serial).Nodup
  /-- The function of a task is called once at most. -/
  once : ∀ serial, st.ran.count serial ≤ 1
  /-- What is finished or handed out was executed once, or has timed out and was never executed. -/
  done : ∀ t ∈ st.pool.finished ++ st.handed, t.Done st.ran
  /-- The tasks that have left the queue are the first ones added, in this order. -/
  fifo : st.taken ++ st.pool.queue = st.accepted
  /-- `running` is the number of workers that hold a task. -/
  running : st.pool.running = (st.pool.threads.countP fun w => w.task?.isSome : ℕ)
  /-- The pool is empty exactly when all tasks accepted have been handed out. -/
  isEmpty : pthpoolIsEmpty st.pool = 1 ↔ ∀ t ∈ st.accepted, ∃ u ∈ st.handed, u.added = t

namespace Inv

variable {st : PoolState}

/-- The function of a task was called once at most, wherever the task is. -/
theorem count_le (h : st.Inv) (serial : ℕ) : st.ran.count serial ≤ 1 := by
  by_cases hmem : serial ∈ st.ran
  · -- the task with this serial is somewhere
    have hserial : serial ∈ st.accepted.map Task.serial := by
      rw [h.serials, List.mem_range]
      exact h.ran serial hmem
    obtain ⟨t, ht, rfl⟩ := List.mem_map.mp hserial
    obtain ⟨u, hu, rfl⟩ := List.mem_map.mp (h.perm.mem_iff.mpr ht)
    show st.ran.count u.serial ≤ 1
    rw [places, List.append_assoc, List.mem_append, List.mem_append] at hu
    rcases hu with (hu | hu) | hu
    · rw [(h.queued u hu).count]
      omega
    · obtain ⟨w, hw, hwu⟩ := List.mem_filterMap.mp hu
      exact (h.workers w hw).count_le hwu
    · rcases h.done u hu with ⟨hcount, -⟩ | ⟨hcount, -⟩ <;> omega
  · rw [List.count_eq_zero.mpr hmem]
    omega

/-- The test of `is_empty`: no task is in the pool. -/
theorem isEmpty_iff_nil (h : st.Inv) :
    pthpoolIsEmpty st.pool = 1 ↔ st.pool.queue ++ st.pool.held ++ st.pool.finished = [] := by
  have htest : pthpoolIsEmpty st.pool = 1 ↔
      st.pool.running = 0 ∧ st.pool.finished = [] ∧ st.pool.queue = [] := by
    simp only [pthpoolIsEmpty, listPeekFront, Option.isNone_iff_eq_none, List.head?_eq_none_iff]
    constructor
    · intro hone
      by_contra hcon
      rw [if_neg hcon] at hone
      cases hone
    · exact fun hall => if_pos hall
  rw [htest, h.running, List.append_eq_nil_iff, List.append_eq_nil_iff, Int.natCast_eq_zero,
    List.length_eq_zero_iff]
  tauto

/-- No task is in the pool exactly when all tasks accepted have been handed out. -/
theorem nil_iff_handed (h : st.Inv) :
    st.pool.queue ++ st.pool.held ++ st.pool.finished = [] ↔
      ∀ t ∈ st.accepted, ∃ u ∈ st.handed, u.added = t := by
  constructor
  · intro hnil t ht
    have hmem := h.perm.mem_iff.mpr ht
    rw [places, hnil, List.nil_append] at hmem
    exact List.mem_map.mp hmem
  · intro hall
    refine List.eq_nil_iff_forall_not_mem.mpr fun t ht => ?_
    -- a task in the pool would be in two places
    have hplace : t ∈ st.places := List.mem_append_left _ ht
    obtain ⟨u, hu, heq⟩ := hall _ (h.perm.mem_iff.mp (List.mem_map_of_mem hplace))
    have hnodup := h.nodup
    rw [places, List.map_append, List.nodup_append] at hnodup
    exact hnodup.2.2 _ (List.mem_map_of_mem ht) _ (List.mem_map_of_mem hu)
      (congrArg Task.serial heq).symm

/-- The number of tasks held is the number of workers holding one. -/
theorem length_held (pool : Pthpool) :
    pool.held.length = pool.threads.countP fun w => w.task?.isSome := by
  rw [Pthpool.held, List.length_filterMap_eq_countP]

theorem conserved (h : st.Inv) : st.Conserved where
  perm := h.perm
  nodup := h.nodup
  once := h.count_le
  done := h.done
  fifo := h.fifo
  running := by rw [h.running, length_held]
  isEmpty := h.isEmpty_iff_nil.trans h.nil_iff_handed

end Inv

end PoolState

/-- **Every reachable pool conserves its tasks**, with any number of workers, whichever of them gets
the mutex and whenever tasks are added, polled or the pool is stopped. -/
theorem poolRun_conserved (workers : ℕ) {st : PoolState}
    (h : Reachable poolStep (poolStart workers) st) : st.Conserved :=
  (h.invariant (poolStart_inv workers) fun _ _ _ hinv hstep => hinv.step hstep).conserved

/-- Two workers and two tasks, one of which is late; a poll in between, and a stop. -/
theorem poolRun_conserved_two_workers :
    let acts : List PoolAction :=
      [.worker 0, .worker 1, .addTask 1 10 none none true, .addTask2 2 20 none none 5 true,
        .worker 1, .worker 0, .exec 0 9 (some 7), .exec 1 9 (some 8), .worker 0, .poll [],
        .worker 1, .stop, .worker 0]
    ∃ st, run poolStep (poolStart 2) acts = some st ∧
      st.ran = [0] ∧ st.pool.running = 0 ∧ pthpoolIsEmpty st.pool = 0 ∧ st.Conserved := by
  intro acts
  exact ⟨_, rfl, rfl, rfl, rfl, poolRun_conserved 2 ⟨acts, rfl⟩⟩

end Ezgrpc2
