import Ezgrpc2.PoolConservation

/-! # The tasks under way

To the owner of a pool a task that was added is under way until a poll hands it out, and all that
matters of it is whether it was executed. `Pthpool.entries` is the pool seen like this, as a list
whose order does not count: whichever worker gets the mutex, a critical section leaves the entries as
they are, and the execution of a task marks one of them. -/

namespace Ezgrpc2

open StepRuns

/-- A task under way, and whether it was executed (or found to be late). -/
structure Entry where
  /-- Whether the function of the task was called. -/
  executed : Bool
  /-- The task as the worker or the list holds it. -/
  task : Task

/-- The task that a worker holds, if it holds one. -/
def Worker.entry? : Worker → Option Entry
  | .holding task => some ⟨false, task⟩
  | .executed task => some ⟨true, task⟩
  | .start | .idle | .waiting _ | .exited => none

/-- **The tasks under way**: in the queue, with a worker, on the finished list. -/
def Pthpool.entries (pool : Pthpool) : List Entry :=
  pool.queue.map (Entry.mk false) ++ pool.threads.filterMap Worker.entry?
    ++ pool.finished.map (Entry.mk true)

@[simp] theorem poolStart_entries (workers : ℕ) : (poolStart workers).pool.entries = [] := by
  show List.map _ [] ++ (List.replicate workers Worker.start).filterMap Worker.entry? ++ _ = []
  rw [List.filterMap_replicate_of_none rfl]
  rfl

/-- A worker without a task has no entry. -/
theorem Worker.entry?_of_task? {w : Worker} (h : w.task? = none) : w.entry? = none := by
  cases w with
  | holding | executed => cases h
  | start | idle | waiting | exited => rfl

/-- The entry of a worker is about its task. -/
theorem Worker.map_entry? (w : Worker) : w.entry?.map Entry.task = w.task? := by
  cases w <;> rfl

/-- The tasks of the entries are those of the pool. -/
theorem Pthpool.map_task_entries (pool : Pthpool) :
    pool.entries.map Entry.task = pool.queue ++ pool.held ++ pool.finished := by
  have hheld : (pool.threads.filterMap Worker.entry?).map Entry.task = pool.held := by
    rw [List.map_filterMap, Pthpool.held]
    congr 1
    funext w
    exact w.map_entry?
  simp [Pthpool.entries, hheld, Function.comp_def]

/-- A broadcast to the workers moves no task. -/
theorem filterMap_entry_broadcast (threads : List Worker) :
    (broadcast threads).filterMap Worker.entry? = threads.filterMap Worker.entry? := by
  rw [broadcast, List.filterMap_map]
  congr 1
  funext w
  cases w <;> rfl

/-- An entry in front of the others. -/
theorem perm_front {α : Type*} (queue rest finished : List α) (e : α) :
    (queue ++ e :: rest ++ finished).Perm (e :: (queue ++ rest ++ finished)) := by
  rw [List.append_assoc, List.append_assoc]
  exact List.perm_middle

/-- The entries of the workers behind a step of one of them. -/
theorem entries_set {threads : List Worker} {i : ℕ} {w : Worker} (hw : threads[i]? = some w) :
    ∃ rest, (threads.filterMap Worker.entry?).Perm (w.entry?.toList ++ rest) ∧
      ∀ w', ((threads.set i w').filterMap Worker.entry?).Perm (w'.entry?.toList ++ rest) := by
  obtain ⟨l₁, l₂, hsplit, hset⟩ := exists_threads_split hw
  refine ⟨l₁.filterMap Worker.entry? ++ l₂.filterMap Worker.entry?, ?_, fun w' => ?_⟩
  · rw [hsplit, filterMap_split, ← List.append_assoc, ← List.append_assoc]
    exact List.perm_append_comm.append_right _
  · rw [hset, filterMap_split, ← List.append_assoc, ← List.append_assoc]
    exact List.perm_append_comm.append_right _

namespace PoolState

variable {st st' : PoolState}

/-- The step neither accepts a task nor hands one out. -/
structure SameEnds (st st' : PoolState) : Prop where
  /-- The tasks accepted are as before the step. -/
  accepted : st'.accepted = st.accepted
  /-- The tasks handed out are as before the step. -/
  handed : st'.handed = st.handed

/-- **A critical section of a worker** moves a task at most. -/
theorem entries_worker {i : ℕ} (h : poolStep st (.worker i) = some st') :
    st'.pool.entries.Perm st.pool.entries ∧ st.SameEnds st' := by
  have hends : ∀ {queue finished : List Task} {threads : List Worker} {running live : ℤ}
      {stop : Bool} {taken : List Task},
      st.SameEnds { st with pool := ⟨queue, finished, threads, running, live, stop⟩, taken := taken } :=
    ⟨rfl, rfl⟩
  -- a worker that takes no task along
  have hmove : ∀ {w w' : Worker}, st.pool.threads[i]? = some w → w.entry? = none → w'.entry? = none →
      ((st.pool.threads.set i w').filterMap Worker.entry?).Perm
        (st.pool.threads.filterMap Worker.entry?) := by
    intro w w' hw hnone hnone'
    obtain ⟨rest, hbefore, hafter⟩ := entries_set hw
    rw [hnone] at hbefore
    have hafter := hafter w'
    rw [hnone'] at hafter
    exact hafter.trans hbefore.symm
  cases poolStep_worker h with
  | start hw =>
      refine ⟨?_, hends⟩
      exact (List.Perm.append_left _ (hmove hw rfl rfl)).append_right _
  | leave hw htask =>
      refine ⟨?_, hends⟩
      exact (List.Perm.append_left _ (hmove hw (Worker.entry?_of_task? htask) rfl)).append_right _
  | sleep hw htask =>
      refine ⟨?_, hends⟩
      exact (List.Perm.append_left _ (hmove hw (Worker.entry?_of_task? htask) rfl)).append_right _
  | @take w task queue hw htask hqueue =>
      refine ⟨?_, hends⟩
      obtain ⟨rest, hbefore, hafter⟩ := entries_set hw
      rw [Worker.entry?_of_task? htask] at hbefore
      refine List.Perm.append_right _ ?_
      rw [hqueue, List.map_cons, List.cons_append]
      refine (List.Perm.append_left _ (hafter (.holding task))).trans ?_
      refine List.perm_middle.trans ?_
      exact (List.Perm.append_left _ hbefore.symm).cons _
  | @publish task hw =>
      refine ⟨?_, hends⟩
      obtain ⟨rest, hbefore, hafter⟩ := entries_set hw
      show (st.pool.queue.map _ ++ (st.pool.threads.set i .idle).filterMap Worker.entry?
        ++ (st.pool.finished ++ [task]).map _).Perm _
      have hafter' := (List.Perm.append_left (st.pool.queue.map (Entry.mk false)) (hafter .idle)).append_right
        (st.pool.finished.map (Entry.mk true))
      have hbefore' := (List.Perm.append_left (st.pool.queue.map (Entry.mk false)) hbefore).append_right
        (st.pool.finished.map (Entry.mk true))
      rw [List.map_append, ← List.append_assoc]
      refine List.perm_append_comm.trans ?_
      refine (hafter'.cons ⟨true, task⟩).trans ?_
      exact (hbefore'.trans (perm_front _ _ _ _)).symm

/-- **The execution of a task** marks its entry. -/
theorem entries_exec {i : ℕ} {now : ℤ} {ret : Option ℕ} (h : poolStep st (.exec i now ret) = some st') :
    ∃ task rest, st.pool.threads[i]? = some (.holding task) ∧
      st.pool.entries.Perm (⟨false, task⟩ :: rest) ∧
      st'.pool.entries.Perm (⟨true, (workerExec now ret task).2⟩ :: rest) ∧ st.SameEnds st' := by
  rw [poolStep] at h
  split at h
  · next task hw =>
      obtain rfl := Option.some.inj h
      obtain ⟨rest, hbefore, hafter⟩ := entries_set hw
      refine ⟨task, st.pool.queue.map (Entry.mk false) ++ rest ++ st.pool.finished.map (Entry.mk true), hw,
        ?_, ?_, rfl, rfl⟩
      · exact ((List.Perm.append_left _ hbefore).append_right _).trans (perm_front _ _ _ _)
      · exact ((List.Perm.append_left _ (hafter _)).append_right _).trans (perm_front _ _ _ _)
  · cases h

/-- **A task that is added** is a new entry of the pool, one that was not executed. -/
theorem entries_addTask {func userdata : ℕ} {retCleanup userdataCleanup : Option ℕ}
    (h : poolStep st (.addTask func userdata retCleanup userdataCleanup true) = some st') :
    let task := st.nextTask func userdata retCleanup userdataCleanup 0
    st'.pool.entries.Perm (⟨false, task⟩ :: st.pool.entries) ∧
      st'.accepted = st.accepted ++ [task] ∧ st'.handed = st.handed := by
  intro task
  obtain rfl := Option.some.inj h
  refine ⟨?_, rfl, rfl⟩
  show ((st.pool.queue ++ [task]).map _ ++ (broadcast st.pool.threads).filterMap Worker.entry?
    ++ st.pool.finished.map _).Perm _
  rw [filterMap_entry_broadcast, List.map_append, List.append_assoc (st.pool.queue.map _)]
  exact perm_front _ _ _ _

/-- **A poll** hands out the finished tasks. -/
theorem entries_poll (h : poolStep st (.poll []) = some st') :
    st.pool.entries
        = st'.pool.entries ++ (pthpoolPoll st.pool []).1.map (Entry.mk true) ∧
      st'.accepted = st.accepted ∧ st'.handed = st.handed ++ (pthpoolPoll st.pool []).1 := by
  have hpoll : pthpoolPoll st.pool [] = (st.pool.finished, { st.pool with finished := [] }) := by
    rw [pthpoolPoll, listConcatAndEmptySrc_eq, List.nil_append]
  obtain rfl := Option.some.inj h
  rw [hpoll]
  refine ⟨?_, rfl, rfl⟩
  show _ = st.pool.queue.map _ ++ st.pool.threads.filterMap Worker.entry? ++ [].map _ ++ _
  rw [List.map_nil, List.append_nil]
  rfl

end PoolState

end Ezgrpc2
