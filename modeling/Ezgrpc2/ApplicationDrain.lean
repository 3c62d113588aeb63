import Ezgrpc2.ApplicationProgress
import Ezgrpc2.PoolProgress

/-! # The application answers what it has read

From any state it can reach but behind its loop, the process can go on by itself, with nothing more
coming in, until every request is answered and all userdata is freed (`appRun_settles`): `main` comes
back to the head of its loop, the workers finish their tasks, and one more turn of the loop sends the
results. `App.mainWork` counts the steps of `main` in a turn, `App.poolWork` those of the workers. -/

namespace Ezgrpc2

open FlatMemory Handles RequestReply StepRuns

/-! ## (1) The pools of the application -/

/-- What the process does to a pool in its loop: its tasks have no cleanups, and it does not stop it. -/
def PoolAction.ofMain : PoolAction → Bool
  | .addTask _ _ retCleanup userdataCleanup _ => retCleanup.isNone && userdataCleanup.isNone
  | .poll _ | .worker _ | .exec _ _ _ => true
  | .addTask2 _ _ _ _ _ _ | .stop => false

/-- **The pools are pools**: a step of the process is a step of each of them or leaves it alone. -/
theorem AppMove.pool_step {app app' : App} (hmove : AppMove app app') (name : PoolName) :
    (app'.pools name).base = (app.pools name).base ∨
      ∃ a, a.ofMain = true ∧ poolStep (app.pools name).base a = some (app'.pools name).base := by
  have hset : ∀ {app₁ : App} {name' : PoolName} {side : PoolSide} {a : PoolAction},
      app₁.pools = Function.update app.pools name' side →
      poolStep (app.pools name').base a = some side.base → a.ofMain = true →
      (app₁.pools name).base = (app.pools name).base ∨
        ∃ a, a.ofMain = true ∧ poolStep (app.pools name).base a = some (app₁.pools name).base := by
    intro app₁ name' side a hpools hstep ha
    rw [hpools]
    by_cases hname : name = name'
    · subst hname
      rw [Function.update_self]
      exact Or.inr ⟨a, ha, hstep⟩
    · rw [Function.update_of_ne hname]
      exact Or.inl rfl
  cases hmove with
  | quit | polls | reads | passes | drops | turns => exact Or.inl rfl
  | adds _ _ _ hbase => exact hset rfl hbase rfl
  | takes _ hbase => exact hset rfl hbase rfl
  | works hbase => exact hset rfl hbase rfl
  | skips _ hbase => exact hset rfl hbase rfl
  | calls _ hbase => exact hset rfl hbase rfl
  | @sends name' _ _ data => exact Or.inl (record_base (app.store data none) name' name _)

/-- No task that was accepted has a cleanup. -/
def PoolState.NoCleanups (st : PoolState) : Prop :=
  ∀ t ∈ st.accepted, t.retCleanup = none ∧ t.userdataCleanup = none

/-- A step of the loop neither stops a pool nor brings in cleanups. -/
theorem PoolState.NoCleanups.step {st st' : PoolState} {a : PoolAction} (h : st.NoCleanups)
    (ha : a.ofMain = true) (hstep : poolStep st a = some st') :
    st'.NoCleanups ∧ st'.pool.stop = st.pool.stop := by
  cases a with
  | addTask func userdata retCleanup userdataCleanup mem =>
      obtain rfl := Option.some.inj hstep
      obtain ⟨hret, huserdata⟩ := Bool.and_eq_true_iff.mp ha
      cases mem with
      | false => exact ⟨h, rfl⟩
      | true =>
          refine ⟨fun t ht => ?_, rfl⟩
          rcases List.mem_append.mp ht with ht | ht
          · exact h t ht
          · obtain rfl := List.mem_singleton.mp ht
            exact ⟨Option.isNone_iff_eq_none.mp hret, Option.isNone_iff_eq_none.mp huserdata⟩
  | addTask2 | stop => cases ha
  | poll =>
      obtain rfl := Option.some.inj hstep
      exact ⟨h, rfl⟩
  | worker i => cases poolStep_worker hstep <;> exact ⟨h, rfl⟩
  | exec i now ret =>
      obtain ⟨task, -, hmove⟩ := poolStep_exec hstep
      generalize (workerExec now ret task).1 = called at hmove
      cases hmove <;> exact ⟨h, rfl⟩

/-- **The workers of a pool are there**, and its tasks have no cleanups. -/
structure PoolState.Staffed (st : PoolState) : Prop where
  /-- The pool has a worker that has not left. -/
  alive : st.Alive
  /-- No task has a cleanup, so that emptying its lists calls nothing. -/
  cleanups : st.NoCleanups

/-- The pools are staffed, and neither is to stop. -/
def App.Staffed (app : App) : Prop :=
  ∀ name, (app.pools name).base.Staffed ∧ (app.pools name).base.pool.stop = false

theorem App.Staffed.step {app app' : App} (h : app.Staffed) (hmove : AppMove app app') :
    app'.Staffed := by
  intro name
  obtain ⟨hstaffed, hstop⟩ := h name
  rcases hmove.pool_step name with hsame | ⟨a, ha, hstep⟩
  · rw [hsame]
    exact ⟨hstaffed, hstop⟩
  · obtain ⟨hcleanups, hsame⟩ := hstaffed.cleanups.step ha hstep
    exact ⟨⟨hstaffed.alive.step hstep, hcleanups⟩, hsame.trans hstop⟩

theorem appStart_staffed (server : Server) : (appStart server).Staffed := by
  intro name
  cases name
  · exact ⟨⟨.start Nat.one_pos, fun _ ht => (nomatch ht)⟩, rfl⟩
  · exact ⟨⟨.start (Nat.succ_pos 1), fun _ ht => (nomatch ht)⟩, rfl⟩

/-! ## (2) What is left to do -/

/-- The steps of a turn that are left to `main` for a pool, from `ezgrpc2_pthpool_poll` on. -/
def App.turn (app : App) (name : PoolName) : ℕ := (app.pools name).base.pool.finished.length + 2

/-- **The steps that are left to `main`** up to the head of its loop. -/
def App.mainWork (app : App) : ℕ :=
  match app.point with
  | .loop | .exit => 0
  | .events left =>
      left.length + app.server.events.unread.length + app.server.events.bevents.length + 1
        + app.turn .ordered + app.turn .unordered
  | .poll .ordered => app.turn .ordered + app.turn .unordered
  | .results .ordered left => left.length + 1 + app.turn .unordered
  | .poll .unordered => app.turn .unordered
  | .results .unordered left => left.length + 1

/-- The steps that are left to the workers. -/
def App.poolWork (app : App) : ℕ :=
  (app.pools .ordered).base.pool.work + (app.pools .unordered).base.pool.work

/-- `main` has taken what a pool has finished: nothing finishes while the workers rest. -/
def App.Taken (app : App) : Prop :=
  match app.point with
  | .poll .ordered => True
  | .results .ordered _ | .poll .unordered => (app.pools .ordered).base.pool.finished = []
  | .results .unordered _ | .loop => ∀ name, (app.pools name).base.pool.finished = []
  | .events _ | .exit => False

/-- A record leaves the turns as they are. -/
theorem turn_record (app : App) (name name' : PoolName) (reply : Reply) :
    (app.record name reply).turn name' = app.turn name' := by
  rw [App.turn, record_base, App.turn]

/-- A poll takes all that is finished. -/
theorem pool_poll {st st' : PoolState} (h : poolStep st (.poll []) = some st') :
    st'.pool = { st.pool with finished := [] } ∧ (pthpoolPoll st.pool []).1 = st.pool.finished := by
  have hpoll : pthpoolPoll st.pool [] = (st.pool.finished, { st.pool with finished := [] }) := by
    rw [pthpoolPoll, listConcatAndEmptySrc_eq, List.nil_append]
  obtain rfl := Option.some.inj h
  rw [hpoll]
  exact ⟨rfl, rfl⟩

/-- A task is added behind those in the queue. -/
theorem finished_addTask {st st' : PoolState} {func userdata : ℕ} {mem : Bool}
    (h : poolStep st (.addTask func userdata none none mem) = some st') :
    st'.pool.finished = st.pool.finished := by
  obtain rfl := Option.some.inj h
  cases mem <;> rfl

/-- A pool that is as before has as much left. -/
theorem turn_congr {app app' : App} {name : PoolName}
    (h : (app'.pools name).base.pool.finished = (app.pools name).base.pool.finished) :
    app'.turn name = app.turn name := by
  rw [App.turn, App.turn, h]

/-- Handling an event lowers the work of `main` by one, if it leaves the turns of the pools. -/
theorem mainWork_events {app app' : App} {event : Event} {left : List Event}
    (hpoint : app.point = .events (event :: left)) (hpoint' : app'.point = .events left)
    (hevents : app'.server.events = app.server.events)
    (hturn : ∀ name, app'.turn name = app.turn name) : app.mainWork = app'.mainWork + 1 := by
  rw [App.mainWork, App.mainWork, hpoint, hpoint']
  dsimp only
  rw [hevents, hturn, hturn, List.length_cons]
  omega

/-- Handling a result lowers the work of `main` by one, if it leaves the turns of the pools. -/
theorem mainWork_results {app app' : App} {name : PoolName} {result : Task} {left : List Task}
    (hpoint : app.point = .results name (result :: left)) (hpoint' : app'.point = .results name left)
    (hturn : ∀ name, app'.turn name = app.turn name) : app.mainWork = app'.mainWork + 1 := by
  rw [App.mainWork, App.mainWork, hpoint, hpoint']
  cases name with
  | ordered =>
      dsimp only
      rw [hturn, List.length_cons]
      omega
  | unordered => rfl

/-- `main` has gone on: its point or the queue it reads has changed. -/
def App.GoesOn (app app' : App) : Prop :=
  app'.point ≠ app.point ∨ app'.server.events.bevents ≠ app.server.events.bevents

/-- A step that leaves the point of `main` and the server is none of `main`. -/
theorem App.GoesOn.elim {app app' : App} (h : app.GoesOn app') (hpoint : app'.point = app.point)
    (hserver : app'.server = app.server) : False := by
  rcases h with h | h
  · exact h hpoint
  · exact h (by rw [hserver])

/-- **A step of `main` in its turn lowers what is left to it by one.** -/
theorem AppMove.mainWork {app app' : App} (hmove : AppMove app app') (hloop : app.point ≠ .loop)
    (hmain : app.GoesOn app') : app.mainWork = app'.mainWork + 1 := by
  cases hmove with
  | quit hp => exact absurd hp hloop
  | polls hp => exact absurd hp hloop
  | works | skips | calls => exact (hmain.elim rfl rfl).elim
  | reads hp =>
      have hread := unread_eventsRead app.server.events
      have hblocks := bevents_eventsRead app.server.events
      rw [App.mainWork, App.mainWork, hp]
      cases hr : (eventsRead app.server.events).1 with
      | none =>
          have hnil := eventsRead_eq_none.mp hr
          rw [unread_eq_nil hnil, hnil]
          show _ = app.turn .ordered + app.turn .unordered + 1
          simp only [List.length_nil]
          omega
      | some r =>
          have hne : app.server.events.bevents ≠ [] := by
            intro hnil
            rw [eventsRead_eq_none.mpr hnil] at hr
            cases hr
          have hlen := List.length_tail_add_one _ (List.length_pos_iff.mpr hne)
          rw [hr] at hread
          show _ = (slice r.1 0 r.2).length + (eventsRead app.server.events).2.unread.length
            + (eventsRead app.server.events).2.bevents.length + 1 + app.turn .ordered
            + app.turn .unordered + 1
          rw [← List.length_append, show slice r.1 0 r.2 ++ _ = _ from hread, hblocks]
          simp only [List.length_nil]
          omega
  | @adds event left name job addr base hp hfree hjob hbase =>
      refine mainWork_events hp rfl rfl fun name' => turn_congr ?_
      show ((app.setPool name _).pools name').base.pool.finished = _
      by_cases hname : name' = name
      · subst hname
        rw [App.setPool_pools_self]
        exact finished_addTask hbase
      · rw [App.setPool_pools_of_ne _ _ hname]
  | @passes event left server hp hjob hserver =>
      refine mainWork_events hp rfl ?_ fun _ => rfl
      rcases hserver with ⟨-, rfl⟩ | ⟨_, _, _, _, r, -, -, hr, rfl⟩
      · rfl
      · exact (sessionStreamEnd_quiet hr).events
  | @takes name base hp hbase =>
      obtain ⟨hpool, htaken⟩ := pool_poll hbase
      rw [App.mainWork, App.mainWork, hp]
      dsimp only
      rw [htaken]
      cases name with
      | ordered =>
          have hother : App.turn
              { app.setPool .ordered { app.pools .ordered with base := base } with
                point := .results .ordered (app.pools .ordered).base.pool.finished } .unordered
              = app.turn .unordered := rfl
          dsimp only
          rw [hother, App.turn]
          omega
      | unordered => rfl
  | @sends name result left data userdata omessages sends r ended server hp =>
      exact mainWork_results hp rfl fun name' => turn_record (app.store data none) name name' _
  | drops hp => exact mainWork_results hp rfl fun _ => rfl
  | @turns name hp =>
      rw [App.mainWork, App.mainWork, hp]
      cases name with
      | ordered =>
          show 0 + 1 + app.turn .unordered = app.turn .unordered + 1
          omega
      | unordered => rfl

/-- The work of the pools depends only on that of each of them. -/
theorem poolWork_congr {app app' : App}
    (h : ∀ name, (app'.pools name).base.pool.work = (app.pools name).base.pool.work) :
    app'.poolWork = app.poolWork := by
  rw [App.poolWork, App.poolWork, h, h]

/-- What is counted in both pools, when a worker of one of them goes on. -/
theorem sum_pools_update {app app' : App} {name : PoolName} {side : PoolSide} (m : Pthpool → ℕ)
    (hpools : app'.pools = Function.update app.pools name side)
    (hwork : m (app.pools name).base.pool = m side.base.pool + 1) :
    m (app.pools .ordered).base.pool + m (app.pools .unordered).base.pool
      = m (app'.pools .ordered).base.pool + m (app'.pools .unordered).base.pool + 1 := by
  have hself : app'.pools name = side := by
    rw [hpools, Function.update_self]
  have hother : app'.pools name.other = app.pools name.other := by
    rw [hpools, Function.update_of_ne name.other_ne]
  have hboth : ∀ app : App,
      m (app.pools .ordered).base.pool + m (app.pools .unordered).base.pool
        = m (app.pools name).base.pool + m (app.pools name.other).base.pool := by
    intro app
    cases name with
    | ordered => rfl
    | unordered => exact Nat.add_comm _ _
  rw [hboth, hboth, hself, hother, hwork]
  omega

/-- The step of the pool in which a worker makes a critical section. -/
theorem worker_pool {app app' : App} {name : PoolName} {i : ℕ}
    (hstep : appStep app (.worker name i) = some app') :
    ∃ side, poolStep (app.pools name).base (.worker i) = some side.base ∧
      app'.pools = Function.update app.pools name side ∧ app'.server = app.server ∧
      app'.point = app.point ∧ app'.userdataCalls = app.userdataCalls := by
  obtain ⟨base, hbase, hstep⟩ := Option.bind_eq_some_iff.mp hstep
  obtain rfl := Option.some.inj hstep
  exact ⟨{ app.pools name with base := base }, hbase, rfl, rfl, rfl, rfl⟩

/-- The step of the pool in which a worker executes its task. -/
theorem exec_pool {app app' : App} {name : PoolName} {i : ℕ} {now : ℤ} {pp : Fin 5 → UInt32}
    (hexec : app.exec name i now pp = some app') :
    ∃ ret side, poolStep (app.pools name).base (.exec i now ret) = some side.base ∧
      app'.pools = Function.update app.pools name side := by
  rw [App.exec] at hexec
  dsimp only at hexec
  split at hexec
  · next task _ =>
      obtain ⟨base, hbase, hexec⟩ := Option.bind_eq_some_iff.mp hexec
      refine ⟨some task.userdata, { app.pools name with base := base }, hbase, ?_⟩
      split at hexec
      · obtain ⟨userdata, -, hexec⟩ := Option.bind_eq_some_iff.mp hexec
        obtain ⟨r, -, hexec⟩ := Option.bind_eq_some_iff.mp hexec
        obtain rfl := Option.some.inj hexec
        rfl
      · obtain rfl := Option.some.inj hexec
        rfl
  · cases hexec

/-- **While the workers rest `main` takes what is finished**, and leaves them nothing to do. -/
theorem AppMove.taken {app app' : App} (hmove : AppMove app app') (hloop : app.point ≠ .loop)
    (hmain : app.GoesOn app') (h : app.Taken) :
    app'.Taken ∧ app'.poolWork = app.poolWork := by
  rw [App.Taken] at h
  cases hmove with
  | quit hp => exact absurd hp hloop
  | polls hp => exact absurd hp hloop
  | works | skips | calls => exact (hmain.elim rfl rfl).elim
  | reads hp | adds hp | passes hp =>
      rw [hp] at h
      exact h.elim
  | @takes name base hp hbase =>
      obtain ⟨hpool, -⟩ := pool_poll hbase
      rw [hp] at h
      have hself : ((app.setPool name { app.pools name with base := base }).pools name).base.pool
          = { (app.pools name).base.pool with finished := [] } := by
        rw [App.setPool_pools_self]
        exact hpool
      have hother : ∀ name', name' ≠ name →
          ((app.setPool name { app.pools name with base := base }).pools name').base.pool
            = (app.pools name').base.pool := by
        intro name' hname
        rw [App.setPool_pools_of_ne _ _ hname]
      refine ⟨?_, poolWork_congr fun name' => ?_⟩
      · cases name with
        | ordered => exact congrArg Pthpool.finished hself
        | unordered =>
            intro name'
            cases name' with
            | ordered => exact (congrArg Pthpool.finished (hother .ordered nofun)).trans h
            | unordered => exact congrArg Pthpool.finished hself
      · by_cases hname : name' = name
        · subst hname
          have hwork := congrArg Pthpool.work hself
          exact hwork
        · exact congrArg Pthpool.work (hother name' hname)
  | @sends name result left data userdata omessages sends r ended server hp =>
      have hbase := fun name' => record_base (app.store data none) name name'
        ⟨result, userdata.sessionUuid, userdata.streamId, omessages, r.ret, ended⟩
      rw [hp] at h
      refine ⟨?_, poolWork_congr fun name' => congrArg (fun st => st.pool.work) (hbase name')⟩
      cases name with
      | ordered => exact (congrArg (fun st => st.pool.finished) (hbase .ordered)).trans h
      | unordered =>
          exact fun name' => (congrArg (fun st => st.pool.finished) (hbase name')).trans (h name')
  | @drops name result left userdata hp =>
      rw [hp] at h
      refine ⟨?_, rfl⟩
      cases name with
      | ordered => exact h
      | unordered => exact h
  | @turns name hp =>
      rw [hp] at h
      refine ⟨?_, rfl⟩
      cases name with
      | ordered => exact h
      | unordered => exact h

/-- Between two rounds no event is written, and `main` does not leave its loop. -/
theorem AppMove.written {app app' : App} (hmove : AppMove app app') (hloop : app.point ≠ .loop)
    (hexit : app.point ≠ .exit) : app'.written = app.written ∧ app'.point ≠ .exit := by
  cases hmove with
  | quit hp => exact absurd hp hloop
  | polls hp => exact absurd hp hloop
  | works | skips | calls => exact ⟨rfl, hexit⟩
  | reads =>
      refine ⟨rfl, ?_⟩
      cases hr : (eventsRead app.server.events).1 with
      | none =>
          rw [readPoint]
          exact nofun
      | some r =>
          rw [readPoint]
          exact nofun
  | adds | passes | takes | sends | drops => exact ⟨rfl, nofun⟩
  | @turns name => cases name <;> exact ⟨rfl, nofun⟩

/-! ## (3) Quiet runs -/

/-- Nothing comes in: `poll` finds nothing, and no signal is caught. -/
def AppAction.quiet : AppAction → Bool
  | .serverPoll round => round.ready == 0
  | .sigterm => false
  | .eventsRead | .event _ | .pthpoolPoll | .result _ | .resultsEnd | .worker _ _ | .exec _ _ _ _ => true

/-- A plain step of a process that is left alone. -/
def quietStep (app : App) (a : AppAction) : Option App :=
  if a.quiet = true ∧ app.Plain a then appStep app a else none

theorem quietStep_eq_some {app app' : App} {a : AppAction} : quietStep app a = some app' ↔
    (a.quiet = true ∧ app.Plain a) ∧ appStep app a = some app' := by
  rw [quietStep]
  by_cases h : a.quiet = true ∧ app.Plain a
  · rw [if_pos h, and_iff_right h]
  · rw [if_neg h, iff_false_left nofun]
    exact fun hstep => h hstep.1

/-- **The state of a process that is left alone**, with the events `written` before. -/
structure App.Quiet (written : List Event) (app : App) : Prop where
  /-- The process is sound, so that its plain steps go through. -/
  sound : app.Sound
  /-- Both pools have workers that have not left. -/
  staffed : app.Staffed
  /-- No event has come in since the clients fell silent. -/
  written : app.written = written
  /-- `main` is in its loop and has not left it. -/
  point : app.point ≠ .exit

/-- There is an address, or a handle, that is not in use. -/
theorem exists_notMem (l : List ℕ) : ∃ n, ∀ m ∈ l, m < n := by
  induction l with
  | nil => exact ⟨0, fun m hm => (nomatch hm)⟩
  | cons k l ih =>
      obtain ⟨n, hn⟩ := ih
      refine ⟨n + k + 1, fun m hm => ?_⟩
      rcases List.mem_cons.mp hm with rfl | hm
      · omega
      · have hlt := hn m hm
        omega

namespace App.Quiet

variable {app app' : App} {written : List Event}

/-- **A quiet step goes through** and leaves the process as quiet as before. -/
theorem exists_step (h : app.Quiet written) {a : AppAction} (hquiet : a.quiet = true)
    (hplain : app.Plain a) : ∃ app', quietStep app a = some app' ∧ app'.Quiet written ∧
      AppMove app app' := by
  obtain ⟨app', hstep, hsound⟩ := h.sound.exists_step hplain
  have hmove := appStep_move hstep
  have hsame : app'.written = app.written ∧ app'.point ≠ .exit := by
    by_cases hloop : app.point = .loop
    · cases a with
      | serverPoll round =>
          obtain ⟨-, hfresh, hround⟩ := hplain
          have hready : round.ready = 0 := eq_of_beq hquiet
          rw [appStep, hloop] at hstep
          obtain ⟨⟨res, server⟩, hpoll, hstep⟩ := Option.bind_eq_some_iff.mp hstep
          obtain rfl := Option.some.inj hstep
          -- the round returns 0 and writes nothing
          obtain ⟨hres, hsame⟩ := serverPoll_ret hpoll
          have hzero : res = 0 := hres.trans hready
          subst hzero
          refine ⟨?_, fun hexit => by cases hexit⟩
          show app.written ++ server.events.unread.drop app.server.events.unread.length = app.written
          rw [(hsame (le_refl 0)).1, List.drop_length, List.append_nil]
      | worker name i =>
          obtain ⟨base, -, hstep⟩ := Option.bind_eq_some_iff.mp hstep
          obtain rfl := Option.some.inj hstep
          exact ⟨rfl, h.point⟩
      | exec name i now pp =>
          obtain ⟨-, hwritten, hpoint, -⟩ := App.Sound.exec_same hstep
          rw [hpoint]
          exact ⟨hwritten, h.point⟩
      | sigterm => cases hquiet
      | event =>
          have hawaits := hplain.1
          rw [hloop] at hawaits
          cases hawaits
      | eventsRead | pthpoolPoll | result | resultsEnd =>
          have hawaits : app.point.awaits _ = true := hplain
          rw [hloop] at hawaits
          cases hawaits
    · exact hmove.written hloop h.point
  exact ⟨app', quietStep_eq_some.mpr ⟨⟨hquiet, hplain⟩, hstep⟩,
    ⟨hsound, h.staffed.step hmove, hsame.1.trans h.written, hsame.2⟩, hmove⟩

/-- **`main` can go on in its turn.** -/
theorem exists_mainStep (h : app.Quiet written) (hloop : app.point ≠ .loop) :
    ∃ a app', quietStep app a = some app' ∧ app'.Quiet written ∧ AppMove app app' ∧
      app.GoesOn app' := by
  have hstep : ∀ a, a.quiet = true → app.Plain a →
      (∀ app', appStep app a = some app' → app.GoesOn app') →
      ∃ a app', quietStep app a = some app' ∧ app'.Quiet written ∧ AppMove app app' ∧
        app.GoesOn app' := by
    intro a hquiet hplain hgoes
    obtain ⟨app', hstep, hquiet', hmove⟩ := h.exists_step hquiet hplain
    exact ⟨a, app', hstep, hquiet', hmove, hgoes app' (quietStep_eq_some.mp hstep).2⟩
  cases hpoint : app.point with
  | loop => exact absurd hpoint hloop
  | exit => exact absurd hpoint h.point
  | events left =>
      cases left with
      | nil =>
          refine hstep .eventsRead rfl ?_ fun app' happ => ?_
          · show app.point.awaits .eventsRead = true
            rw [hpoint]
            rfl
          · rw [appStep, hpoint] at happ
            obtain rfl := Option.some.inj happ
            cases hr : (eventsRead app.server.events).1 with
            | none =>
                refine Or.inl fun hsame => ?_
                cases hsame.trans hpoint
            | some r =>
                -- a block is gone
                refine Or.inr fun hsame => ?_
                have hsame : (eventsRead app.server.events).2.bevents = app.server.events.bevents := hsame
                rw [bevents_eventsRead] at hsame
                cases hblocks : app.server.events.bevents with
                | nil =>
                    rw [eventsRead_eq_none.mpr hblocks] at hr
                    cases hr
                | cons b bevents =>
                    rw [hblocks] at hsame
                    exact List.cons_ne_self b bevents hsame.symm
      | cons event left =>
          obtain ⟨addr, haddr⟩ := exists_notMem app.owners
          have hfree : app.heap addr = none := by
            rw [← Option.not_isSome_iff_eq_none, h.sound.inv.memory.owned.live]
            exact fun hmem => lt_irrefl addr (haddr addr hmem)
          refine hstep (.event ⟨addr, [], ⟨[], 0⟩⟩) rfl ⟨?_, hfree⟩ fun app' happ => ?_
          · rw [hpoint]
            rfl
          · rw [appStep, hpoint] at happ
            dsimp only at happ
            rw [if_pos hfree] at happ
            obtain ⟨app₁, -, happ⟩ := Option.bind_eq_some_iff.mp happ
            obtain rfl := Option.some.inj happ
            refine Or.inl fun hsame => ?_
            rw [hpoint] at hsame
            exact List.cons_ne_self event left (MainPoint.events.inj hsame).symm
  | poll name =>
      refine hstep .pthpoolPoll rfl ?_ fun app' happ => ?_
      · show app.point.awaits .pthpoolPoll = true
        rw [hpoint]
        rfl
      · rw [appStep, hpoint] at happ
        obtain ⟨base, -, happ⟩ := Option.bind_eq_some_iff.mp happ
        obtain rfl := Option.some.inj happ
        refine Or.inl fun hsame => ?_
        cases hsame.trans hpoint
  | results name left =>
      cases left with
      | nil =>
          refine hstep .resultsEnd rfl ?_ fun app' happ => ?_
          · show app.point.awaits .resultsEnd = true
            rw [hpoint]
            rfl
          · rw [appStep, hpoint] at happ
            obtain rfl := Option.some.inj happ
            refine Or.inl fun hsame => ?_
            cases name <;> cases hsame.trans hpoint
      | cons result left =>
          refine hstep (.result ⟨0, [], ⟨[], 0⟩⟩) rfl ?_ fun app' happ => ?_
          · show app.point.awaits _ = true
            rw [hpoint]
            rfl
          · rw [appStep, hpoint] at happ
            obtain ⟨app₁, -, happ⟩ := Option.bind_eq_some_iff.mp happ
            obtain rfl := Option.some.inj happ
            refine Or.inl fun hsame => ?_
            rw [hpoint] at hsame
            exact List.cons_ne_self result left (MainPoint.results.inj hsame).2.symm

/-- **A worker can go on as long as work is left.** -/
theorem exists_workerStep (h : app.Quiet written) (hwork : 0 < app.poolWork) :
    ∃ a app', quietStep app a = some app' ∧ app'.Quiet written ∧ app'.point = app.point ∧
      app.poolWork = app'.poolWork + 1 := by
  obtain ⟨name, hpos⟩ : ∃ name, 0 < (app.pools name).base.pool.work := by
    by_contra hnone
    have hzero : ∀ name, (app.pools name).base.pool.work = 0 := fun name =>
      Nat.eq_zero_of_not_pos fun hpos => hnone ⟨name, hpos⟩
    rw [App.poolWork, hzero, hzero] at hwork
    exact lt_irrefl 0 hwork
  obtain ⟨a, st', hstep⟩ := (h.staffed name).1.alive.exists_workStep hpos
  obtain ⟨hworks, hpool⟩ := workStep_eq_some.mp hstep
  cases a with
  | addTask | addTask2 | poll | stop => exact hworks.elim
  | worker i =>
      have hplain : app.Plain (.worker name i) := Option.isSome_iff_exists.mpr ⟨st', hpool⟩
      obtain ⟨app', happ, hquiet, -⟩ := h.exists_step rfl hplain
      refine ⟨_, app', happ, hquiet, ?_⟩
      obtain ⟨-, happ⟩ := quietStep_eq_some.mp happ
      obtain ⟨side, hside, hpools, -, hpoint, -⟩ := worker_pool happ
      obtain rfl : st' = side.base := Option.some.inj (hpool.symm.trans hside)
      exact ⟨hpoint, sum_pools_update Pthpool.work hpools (workStep_work hstep)⟩
  | exec i now ret =>
      have hplain : app.Plain (.exec name i 0 fun _ => 0) := by
        obtain ⟨task, htask, -⟩ := poolStep_exec hpool
        show (poolStep (app.pools name).base (.exec i 0 none)).isSome = true
        rw [poolStep, htask]
        rfl
      obtain ⟨app', happ, hquiet, -⟩ := h.exists_step rfl hplain
      refine ⟨_, app', happ, hquiet, ?_⟩
      obtain ⟨-, happ⟩ := quietStep_eq_some.mp happ
      obtain ⟨ret', side, hside, hpools⟩ := exec_pool happ
      have hworks : (app.pools name).base.Works (.exec i 0 ret') := trivial
      exact ⟨(App.Sound.exec_same happ).2.2.1, sum_pools_update Pthpool.work hpools
        (workStep_work (workStep_eq_some.mpr ⟨hworks, hside⟩))⟩

/-- **A round that finds nothing** takes `main` from the head of its loop to the poll of the first
pool. -/
theorem exists_round (h : app.Quiet written) (hpoint : app.point = .loop) :
    ∃ a app', quietStep app a = some app' ∧ app'.Quiet written ∧ app'.point = .poll .ordered ∧
      app'.poolWork = app.poolWork := by
  obtain ⟨uuid, huuid⟩ := exists_notMem (drawn app.written)
  let round : Round :=
    { ready := 0
      revents := fun _ => 0
      events := app.server.events
      ipv4 := ⟨0, false, false, false, uuid⟩
      ipv6 := ⟨0, false, false, false, uuid + 1⟩
      exchange := fun _ => ⟨false, false, [], 0, []⟩ }
  have hfresh : round.Fresh app.written := by
    refine ⟨fun hmem => ?_, fun hmem => ?_, Nat.succ_ne_self uuid⟩
    · exact lt_irrefl uuid (huuid uuid hmem)
    · exact absurd (huuid (uuid + 1) hmem) (by omega)
  have hplain : app.Plain (.serverPoll round) := by
    refine ⟨?_, hfresh, fun hready => (lt_irrefl 0 hready).elim⟩
    rw [hpoint]
    rfl
  obtain ⟨app', happ, hquiet, -⟩ := h.exists_step rfl hplain
  refine ⟨_, app', happ, hquiet, ?_⟩
  obtain ⟨-, happ⟩ := quietStep_eq_some.mp happ
  rw [appStep, hpoint] at happ
  obtain ⟨⟨res, server⟩, hpoll, happ⟩ := Option.bind_eq_some_iff.mp happ
  obtain rfl := Option.some.inj happ
  have hzero : res = 0 := (serverPoll_ret hpoll).1
  subst hzero
  exact ⟨rfl, rfl⟩

end App.Quiet

/-! ## (4) Nothing is left -/

/-- **What `app'` has answered, of what `app` has read.** -/
structure App.Settled (app app' : App) : Prop where
  /-- `main` is at the head of its loop. -/
  point : app'.point = .loop
  /-- No event has come in while the process settled. -/
  written : app'.written = app.written
  /-- Both pools report that they are empty. -/
  empty : ∀ name, pthpoolIsEmpty (app'.pools name).base.pool = 1
  /-- Every request has its reply, once. -/
  answered : ∀ name, (app'.service.answered name).Perm (List.range (app.service.requests name).length)
  /-- No userdata is allocated that was not freed. -/
  userdata : openAfter app'.userdataCalls = ∅

/-- With no step left `main` is at the head of its loop. -/
theorem App.point_eq_loop {app : App} (hwork : app.mainWork = 0) (hexit : app.point ≠ .exit) :
    app.point = .loop := by
  rw [App.mainWork] at hwork
  cases hpoint : app.point with
  | loop => rfl
  | exit => exact absurd hpoint hexit
  | events left =>
      rw [hpoint] at hwork
      cases hwork
  | poll name =>
      rw [hpoint] at hwork
      cases name <;> cases hwork
  | results name left =>
      rw [hpoint] at hwork
      cases name <;> cases hwork

namespace App.Quiet

variable {app : App} {written : List Event}

/-- `main` comes back to the head of its loop. -/
theorem exists_turn (h : app.Quiet written) : ∃ acts app', run quietStep app acts = some app' ∧
    app'.Quiet written ∧ app'.point = .loop := by
  obtain ⟨acts, app', hrun, h', hzero⟩ := exists_run_variant (m := App.mainWork)
    (fun app (hquiet : app.Quiet written) hpos => by
      have hloop : app.point ≠ .loop := by
        intro hpoint
        rw [App.mainWork, hpoint] at hpos
        exact lt_irrefl 0 hpos
      obtain ⟨a, app', hstep, hquiet', hmove, hmain⟩ := hquiet.exists_mainStep hloop
      exact ⟨a, app', hstep, hquiet', hmove.mainWork hloop hmain⟩) h
  exact ⟨acts, app', hrun, h', App.point_eq_loop hzero h'.point⟩

/-- The workers come to rest while `main` stays where it is. -/
theorem exists_rest (h : app.Quiet written) : ∃ acts app', run quietStep app acts = some app' ∧
    app'.Quiet written ∧ app'.point = app.point ∧ app'.poolWork = 0 := by
  obtain ⟨acts, app', hrun, ⟨h', hpoint⟩, hzero⟩ := exists_run_variant
    (I := fun app' => app'.Quiet written ∧ app'.point = app.point) (m := App.poolWork)
    (fun app₁ hinv hpos => by
      obtain ⟨a, app', hstep, hquiet', hpoint, hwork⟩ := hinv.1.exists_workerStep hpos
      exact ⟨a, app', hstep, ⟨hquiet', hpoint.trans hinv.2⟩, hwork⟩) ⟨h, rfl⟩
  exact ⟨acts, app', hrun, h', hpoint, hzero⟩

/-- A turn in which the workers rest takes all that is finished. -/
theorem exists_taken (h : app.Quiet written) (htaken : app.Taken) (hwork : app.poolWork = 0) :
    ∃ acts app', run quietStep app acts = some app' ∧ app'.Quiet written ∧ app'.point = .loop ∧
      app'.Taken ∧ app'.poolWork = 0 := by
  obtain ⟨acts, app', hrun, ⟨h', htaken', hwork'⟩, hzero⟩ := exists_run_variant
    (I := fun app => app.Quiet written ∧ app.Taken ∧ app.poolWork = 0) (m := App.mainWork)
    (fun app hinv hpos => by
      have hloop : app.point ≠ .loop := by
        intro hpoint
        rw [App.mainWork, hpoint] at hpos
        exact lt_irrefl 0 hpos
      obtain ⟨a, app', hstep, hquiet', hmove, hmain⟩ := hinv.1.exists_mainStep hloop
      obtain ⟨htaken', hsame⟩ := hmove.taken hloop hmain hinv.2.1
      exact ⟨a, app', hstep, ⟨hquiet', htaken', hsame.trans hinv.2.2⟩, hmove.mainWork hloop hmain⟩)
    ⟨h, htaken, hwork⟩
  exact ⟨acts, app', hrun, h', App.point_eq_loop hzero h'.point, htaken', hwork'⟩

/-- Where `main` has taken all results and no pool has work left, the process has settled. -/
theorem settled {app₀ : App} (h : app.Quiet app₀.written) (hpoint : app.point = .loop)
    (htaken : app.Taken) (hwork : app.poolWork = 0) : app₀.Settled app := by
  have hzero : ∀ name, (app.pools name).base.pool.work = 0 := by
    intro name
    rw [App.poolWork] at hwork
    cases name <;> omega
  rw [App.Taken, hpoint] at htaken
  have hempty : ∀ name, pthpoolIsEmpty (app.pools name).base.pool = 1 := by
    intro name
    obtain ⟨hqueue, hheld⟩ := nil_of_work_eq_zero (h.staffed name).2 (hzero name)
    rw [(h.sound.inv.pools.pool name).isEmpty_iff_nil, hqueue, hheld, htaken name]
    rfl
  refine ⟨hpoint, h.written, hempty, fun name => ?_, ?_⟩
  · have hanswered := h.sound.inv.placed.answered hpoint hempty name
    have hrequests : app.service.requests name = app₀.service.requests name := by
      rw [App.service, App.service, h.written]
    rw [← hrequests]
    exact hanswered
  · rw [Finset.eq_empty_iff_forall_notMem]
    intro addr hmem
    rw [h.sound.inv.memory.owned.opened, App.owners,
      h.sound.inv.entries_eq_nil hpoint (hempty .ordered),
      h.sound.inv.entries_eq_nil hpoint (hempty .unordered)] at hmem
    cases hmem

/-- **The process settles** when it is left alone: some quiet run ends in a settled state. -/
theorem exists_settled (h : app.Quiet app.written) :
    ∃ acts app', run quietStep app acts = some app' ∧ app.Settled app' := by
  obtain ⟨acts₁, app₁, hrun₁, h₁, hpoint₁⟩ := h.exists_turn
  obtain ⟨acts₂, app₂, hrun₂, h₂, hpoint₂, hwork₂⟩ := h₁.exists_rest
  obtain ⟨a, app₃, hstep, h₃, hpoint₃, hwork₃⟩ := h₂.exists_round (hpoint₂.trans hpoint₁)
  have htaken₃ : app₃.Taken := by
    rw [App.Taken, hpoint₃]
    trivial
  obtain ⟨acts₄, app₄, hrun₄, h₄, hpoint₄, htaken₄, hwork₄⟩ :=
    h₃.exists_taken htaken₃ (hwork₃.trans hwork₂)
  refine ⟨acts₁ ++ (acts₂ ++ a :: acts₄), app₄, ?_, h₄.settled hpoint₄ htaken₄ hwork₄⟩
  rw [run_append, hrun₁, Option.bind_some, run_append, hrun₂, Option.bind_some, run_cons, hstep,
    Option.bind_some, hrun₄]

end App.Quiet

/-! ## (5) Runs -/

/-- The state in which a run of plain steps ends. -/
theorem sound_of_run {ipv4Sockfd ipv6Sockfd : ℤ} {maxConnections initialWindowSize : ℕ}
    {maxPaths : MaxPaths} {acts : List AppAction} {app : App}
    (hplain : Along appStep App.Plain
      (appStart (mainServer ipv4Sockfd ipv6Sockfd maxConnections initialWindowSize maxPaths)) acts)
    (hrun : run appStep
      (appStart (mainServer ipv4Sockfd ipv6Sockfd maxConnections initialWindowSize maxPaths)) acts
        = some app) : app.Sound ∧ app.Staffed := by
  obtain ⟨app', hrun', h⟩ := hplain.exists_run (I := App.Sound)
    (fun _ _ _ hsound hplain => hsound.exists_step hplain)
    (appStart_sound ipv4Sockfd ipv6Sockfd maxConnections initialWindowSize maxPaths)
  obtain rfl : app = app' := Option.some.inj (hrun.symm.trans hrun')
  have hstaffed : app.Staffed := run_invariant appStep
    (fun _ _ _ hstaffed hstep => hstaffed.step (appStep_move hstep)) (appStart_staffed _) hrun
  exact ⟨h, hstaffed⟩

end Ezgrpc2
