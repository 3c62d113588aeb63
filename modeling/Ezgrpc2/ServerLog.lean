import Ezgrpc2.Lib.CStrings
import Ezgrpc2.Thpool

/-! # The log of the server

`ezgrpc2_server_log` writes a record and gives it to the pool of the logger, whose one worker calls
`logger`; a record still in the queue when the pool is freed is given to `log_free`. Either of them
frees the record. `LogState.Accounted` says that each does so for records of its own, so that every
record is freed once, and that the log is a prefix of what was submitted. -/

namespace Ezgrpc2

open StepRuns CStrings

/-! ## (1) Records -/

/-- `struct log_t`. `addr` stands for its address: it numbers the records allocated. -/
structure LogRecord where
  /-- The address of the record in memory. -/
  addr : ℕ
  /-- The text, an array with a terminator. -/
  str : List UInt8
  /-- The file that the message is written to. -/
  fp : ℕ
deriving DecidableEq

/-- A line in a log file: `[dt] str`. -/
structure LogLine where
  /-- The file that the line was written to. -/
  fp : ℕ
  /-- The time stamp in front of the line. -/
  dt : List UInt8
  /-- The text of the line, which is the formatted message. -/
  str : List UInt8
deriving DecidableEq

/-- What the handlers of the records act on. -/
structure LogWorld where
  /-- The time stamp that `ezgetdt` would give now. -/
  dt : List UInt8
  /-- The lines written, to all files. -/
  lines : List LogLine
  /-- The calls of `free` for records, with their texts. -/
  freed : List ℕ

/-- `log_new`: a record of a formatted message for a file. -/
def logNew (addr : ℕ) (str : List UInt8) (fp : ℕ) : LogRecord := ⟨addr, str, fp⟩

/-- `log_free`: the record is freed, and its address recorded. -/
def logFree (r : LogRecord) (world : LogWorld) : LogWorld :=
  { world with freed := world.freed ++ [r.addr] }

/-- `logger`: the line of a record is written, and the record freed. -/
def logger (l : LogRecord) (world : LogWorld) : LogWorld :=
  logFree l { world with lines := world.lines ++ [⟨l.fp, text world.dt, text l.str⟩] }

/-- `vsnprintf` into an array of `n` bytes, of a text already formatted: what there is room for, and
the terminator. -/
def vsnprintf (n : ℕ) (formatted : List UInt8) : List UInt8 := formatted.take (n - 1) ++ [0]

/-! ## (2) `ezgrpc2_server_log` -/

/-- `EZGRPC2_SERVER_LOG_NORMAL`, the level of ordinary messages. -/
def serverLogNormal : UInt32 := 1

/-- What the log depends on in the settings of the server. -/
structure LogSettings where
  /-- The levels that are written, as bits. -/
  loggingLevel : UInt32
  /-- The file that messages are written to. -/
  loggingFp : ℕ

/-- Whether a message of a level is written at all. -/
def LogSettings.writes (settings : LogSettings) (logLevel : UInt32) : Bool :=
  logLevel &&& serverLogNormal ≠ 0 || logLevel &&& settings.loggingLevel ≠ 0

/-- A step of the program and its logger. -/
inductive LogAction where
  /-- A call of `ezgrpc2_server_log`; `formatted` is the message with its arguments, `mem` whether
  memory for a task can be allocated. -/
  | log (logLevel : UInt32) (formatted : List UInt8) (mem : Bool)
  /-- Time passes, and `ezgetdt` gives another stamp. -/
  | tick (dt : List UInt8)
  /-- The critical section of `thpool_stop_and_join` or `thpool_free`. -/
  | stop
  /-- The next critical section of a worker. -/
  | worker (i : ℕ)
  /-- The execution of the task a worker holds. -/
  | exec (i : ℕ)
  /-- The last part of `thpool_free`, which empties the queue. -/
  | free

/-- The pool of the logger, and the number of records allocated. -/
structure LogState where
  /-- The pool of the logger, with the log that its tasks write. -/
  loggerThread : ThState LogRecord LogWorld
  /-- The number of records so far. -/
  nbRecords : ℕ

/-- The logger of a new server, with any number of workers: `ezgrpc2_server_new` starts one. -/
def logStart (workers : ℕ) : LogState := ⟨thStart workers ⟨[], [], []⟩, 0⟩

/-- `ezgrpc2_server_log`. What `thpool_add_task` returns is not looked at. -/
def serverLog (settings : LogSettings) (st : LogState) (logLevel : UInt32)
    (formatted : List UInt8) (mem : Bool) : Option LogState :=
  if !settings.writes logLevel then some st
  else
    let l := logNew st.nbRecords (vsnprintf 1024 formatted) settings.loggingFp
    (thStep st.loggerThread (.addTask logger l (some logFree) mem)).map fun pool =>
      ⟨pool, st.nbRecords + 1⟩

/-- One step, of a caller of the log, of the clock or of the pool. -/
def logStep (settings : LogSettings) (st : LogState) : LogAction → Option LogState
  | .log logLevel formatted mem => serverLog settings st logLevel formatted mem
  | .tick dt =>
      some { st with loggerThread := { st.loggerThread with world := { st.loggerThread.world with dt := dt } } }
  | .stop => (thStep st.loggerThread .stop).map fun pool => { st with loggerThread := pool }
  | .worker i => (thStep st.loggerThread (.worker i)).map fun pool => { st with loggerThread := pool }
  | .exec i => (thStep st.loggerThread (.exec i)).map fun pool => { st with loggerThread := pool }
  | .free => (thStep st.loggerThread .free).map fun pool => { st with loggerThread := pool }

/-- The pool makes a step of its own: nothing is submitted. -/
def ThAction.isOwn {υ ω : Type} : ThAction υ ω → Bool
  | .addTask .. => false
  | .stop | .worker _ | .exec _ | .free => true

/-- **What a step can do**: nothing, let time pass, submit a record, or let the pool make a step. -/
inductive LogMove (st : LogState) : LogState → Prop
  /-- A message of a level that is not written does nothing. -/
  | skip : LogMove st st
  /-- Time passes, and nothing else happens. -/
  | tick (dt : List UInt8) : LogMove st
      { st with loggerThread := { st.loggerThread with
          world := { st.loggerThread.world with dt := dt } } }
  /-- A record is made and submitted as a task. -/
  | submit {l : LogRecord} {mem : Bool} {pool : ThState LogRecord LogWorld}
      (haddr : l.addr = st.nbRecords)
      (hstep : thStep st.loggerThread (.addTask logger l (some logFree) mem) = some pool) :
      LogMove st ⟨pool, st.nbRecords + 1⟩
  /-- The pool makes a step of its own. -/
  | own {a : ThAction LogRecord LogWorld} {pool : ThState LogRecord LogWorld}
      (ha : a.isOwn = true) (hstep : thStep st.loggerThread a = some pool) :
      LogMove st { st with loggerThread := pool }

/-- Every step is one of these moves. -/
theorem logStep_move {settings : LogSettings} {st st' : LogState} {a : LogAction}
    (h : logStep settings st a = some st') : LogMove st st' := by
  have hown : ∀ {a : ThAction LogRecord LogWorld}, a.isOwn = true →
      ((thStep st.loggerThread a).map fun pool => { st with loggerThread := pool }) = some st' →
      LogMove st st' := by
    intro a ha h
    obtain ⟨pool, hpool, rfl⟩ := Option.map_eq_some_iff.mp h
    exact .own ha hpool
  cases a with
  | log logLevel formatted mem =>
      have h : serverLog settings st logLevel formatted mem = some st' := h
      unfold serverLog at h
      split at h
      · obtain rfl := Option.some.inj h
        exact .skip
      · obtain ⟨pool, hpool, rfl⟩ := Option.map_eq_some_iff.mp h
        exact .submit rfl hpool
  | tick dt =>
      obtain rfl := Option.some.inj h
      exact .tick dt
  | stop => exact hown rfl h
  | worker i => exact hown rfl h
  | exec i => exact hown rfl h
  | free => exact hown rfl h

/-! ## (3) The invariant -/

/-- The line a record gives, without the time. -/
def LogRecord.line (l : LogRecord) : ℕ × List UInt8 := (l.fp, text l.str)

namespace LogState

/-- **The invariant of the log**, over all messages and steps of its pool. -/
structure Inv (st : LogState) : Prop where
  /-- The invariant of the pool of the logger. -/
  pool : st.loggerThread.Inv
  /-- A task calls `logger` or `log_free`. -/
  handlers : ∀ t ∈ st.loggerThread.accepted,
    t.func = logger ∧ t.userdataCleanup = some logFree
  /-- The records of the tasks are records allocated, one after the other. -/
  records : (st.loggerThread.accepted.map fun t => t.userdata.addr).Sublist (List.range st.nbRecords)
  /-- The records freed are those of the tasks executed and of those drained. -/
  freed : st.loggerThread.world.freed
    = (st.loggerThread.ran ++ st.loggerThread.drained).map fun t => t.userdata.addr
  /-- The lines written are those of the tasks executed. -/
  lines : (st.loggerThread.world.lines.map fun line => (line.fp, line.str))
    = st.loggerThread.ran.map fun t => t.userdata.line

/-- The invariant holds of the logger of a new server. -/
theorem logStart_inv (workers : ℕ) : (logStart workers).Inv where
  pool := ThState.thStart_inv workers _
  handlers := fun t ht => by cases ht
  records := List.Sublist.refl _
  freed := rfl
  lines := rfl

/-- The loop of `thpool_free` frees the records. -/
theorem thDrain_logFree {queue : List (ThTask LogRecord LogWorld)} (world : LogWorld)
    (h : ∀ t ∈ queue, t.userdataCleanup = some logFree) :
    thDrain queue world
      = { world with freed := world.freed ++ queue.map fun t => t.userdata.addr } := by
  induction queue generalizing world with
  | nil => simp [thDrain]
  | cons d queue ih =>
      have hd := h d List.mem_cons_self
      simp [thDrain, hd, ih _ fun t ht => h t (List.mem_cons_of_mem d ht), logFree]

namespace Inv

variable {st : LogState}

/-- What is in a place has the handlers of the log. -/
theorem handlers_of_mem (h : st.Inv) {t : ThTask LogRecord LogWorld}
    (ht : t ∈ st.loggerThread.places) : t.func = logger ∧ t.userdataCleanup = some logFree :=
  h.handlers t (h.pool.perm.mem_iff.mp ht)

/-- The pool makes a step of its own. -/
theorem own (h : st.Inv) {a : ThAction LogRecord LogWorld} (ha : a.isOwn = true)
    {pool : ThState LogRecord LogWorld} (hstep : thStep st.loggerThread a = some pool) :
    Inv { st with loggerThread := pool } := by
  have hpool := h.pool.step hstep
  obtain ⟨hfreed, hmove⟩ := thStep_move hstep
  have hdrained := h.pool.drained hfreed
  cases hmove with
  | refuse func userdata userdataCleanup => cases ha
  | accept func userdata userdataCleanup => cases ha
  | stop => exact ⟨hpool, h.handlers, h.records, h.freed, h.lines⟩
  | move hw htask w' htask' live => exact ⟨hpool, h.handlers, h.records, h.freed, h.lines⟩
  | take hw htask hqueue => exact ⟨hpool, h.handlers, h.records, h.freed, h.lines⟩
  | @exec i task hw =>
      -- `logger` writes the record and frees it
      have hmem : task ∈ st.loggerThread.places := by
        have hheld : task ∈ st.loggerThread.pool.held :=
          List.mem_filterMap.mpr ⟨_, List.mem_of_getElem? hw, rfl⟩
        simp [ThState.places, hheld]
      obtain ⟨hfunc, -⟩ := h.handlers_of_mem hmem
      refine ⟨hpool, h.handlers, h.records, ?_, ?_⟩
      · simp [hfunc, logger, logFree, h.freed, hdrained]
      · simp [hfunc, logger, logFree, h.lines, LogRecord.line]
  | free hheld =>
      have hqueue : ∀ t ∈ st.loggerThread.pool.queue, t.userdataCleanup = some logFree :=
        fun t ht => (h.handlers_of_mem (by simp [ThState.places, ht])).2
      have hdrain := thDrain_logFree st.loggerThread.world hqueue
      refine ⟨hpool, h.handlers, h.records, ?_, ?_⟩
      · simp [hdrain, h.freed, hdrained]
      · simp [hdrain, h.lines]

/-- A record that is submitted has an address of its own, and keeps the invariant. -/
theorem submit (h : st.Inv) {l : LogRecord} {mem : Bool} (haddr : l.addr = st.nbRecords)
    {pool : ThState LogRecord LogWorld}
    (hstep : thStep st.loggerThread (.addTask logger l (some logFree) mem) = some pool) :
    Inv ⟨pool, st.nbRecords + 1⟩ := by
  have hpool := h.pool.step hstep
  obtain ⟨hfreed, hmove⟩ := thStep_move hstep
  have hrange : (List.range st.nbRecords).Sublist (List.range (st.nbRecords + 1)) := by
    rw [List.range_succ]
    exact List.sublist_append_left _ _
  cases hmove with
  | refuse => exact ⟨hpool, h.handlers, h.records.trans hrange, h.freed, h.lines⟩
  | accept =>
      refine ⟨hpool, fun t ht => ?_, ?_, h.freed, h.lines⟩
      · rcases List.mem_append.mp ht with ht | ht
        · exact h.handlers t ht
        · rw [List.mem_singleton.mp ht]
          exact ⟨rfl, rfl⟩
      · -- the record of the task is the last one allocated
        rw [List.map_append, List.range_succ]
        refine h.records.append ?_
        rw [List.map_singleton, haddr]

/-- **Every step keeps the invariant** of the log. -/
theorem step (h : st.Inv) {st' : LogState} (hmove : LogMove st st') : st'.Inv := by
  cases hmove with
  | skip => exact h
  | tick dt =>
      exact ⟨⟨h.pool.perm, h.pool.serials, h.pool.drained, h.pool.freed⟩, h.handlers, h.records,
        h.freed, h.lines⟩
  | submit haddr hstep => exact h.submit haddr hstep
  | own ha hstep => exact h.own ha hstep

/-- With one worker the tasks stay in line. -/
theorem inLine (h : st.Inv) {st' : LogState} (hmove : LogMove st st')
    (hline : ∃ w, st.loggerThread.InLine w) : ∃ w, st'.loggerThread.InLine w := by
  obtain ⟨w, hw⟩ := hline
  cases hmove with
  | skip => exact ⟨w, hw⟩
  | tick dt => exact ⟨w, hw.threads, hw.line⟩
  | submit haddr hstep => exact hw.step h.pool hstep
  | own ha hstep => exact hw.step h.pool hstep

end Inv

/-! ## (4) What follows -/

/-- **The records are accounted for**: each is freed once, by the worker that writes it or by the drain. -/
structure Accounted (st : LogState) (workers : ℕ) : Prop where
  /-- The function or the cleanup of a task is called, and no more than once. -/
  once : ∀ serial, (st.loggerThread.ran.map ThTask.serial).count serial
    + (st.loggerThread.cleaned.map ThTask.serial).count serial ≤ 1
  /-- When the pool was freed, one of the two was called for every task accepted. -/
  done : st.loggerThread.freed = true → ∀ t ∈ st.loggerThread.accepted,
    (st.loggerThread.ran.map ThTask.serial).count t.serial
      + (st.loggerThread.cleaned.map ThTask.serial).count t.serial = 1
  /-- No record is freed a second time. -/
  nodup : st.loggerThread.world.freed.Nodup
  /-- When the pool was freed, the records of the tasks accepted were. -/
  freed : st.loggerThread.freed = true → st.loggerThread.world.freed.Perm
    (st.loggerThread.accepted.map fun t => t.userdata.addr)
  /-- With one worker the lines written are those submitted first, in their order. -/
  order : workers = 1 → (st.loggerThread.world.lines.map fun line => (line.fp, line.str)) <+:
    st.loggerThread.accepted.map fun t => t.userdata.line

variable {st : LogState}

/-- Every task that was drained has a cleanup. -/
theorem Inv.cleaned (h : st.Inv) : st.loggerThread.cleaned = st.loggerThread.drained := by
  apply List.filter_eq_self.mpr
  intro t ht
  rw [(h.handlers_of_mem (by simp [ThState.places, ht])).2]
  rfl

theorem Inv.accounted (h : st.Inv) {workers : ℕ}
    (hline : workers = 1 → ∃ w, st.loggerThread.InLine w) : st.Accounted workers where
  once := h.pool.count_le
  done := fun hfreed t ht => h.pool.count_eq hfreed ht (by rw [(h.handlers t ht).2]; rfl)
  nodup := by
    -- the records of tasks that are done are records of tasks accepted, which are all different
    have hsub : (st.loggerThread.ran ++ st.loggerThread.drained).Sublist
        st.loggerThread.places := by
      rw [ThState.places, List.append_assoc, List.append_assoc]
      exact List.Sublist.append_left
        ((List.sublist_append_right _ _).trans (List.sublist_append_right _ _)) _
    have hperm := h.pool.perm.map fun t => t.userdata.addr
    rw [h.freed]
    refine List.Nodup.sublist (hsub.map _) (hperm.nodup_iff.mpr ?_)
    exact List.nodup_range.sublist h.records
  freed := fun hfreed => by
    rw [h.freed]
    exact (h.pool.perm_of_freed hfreed).map _
  order := fun hone => by
    obtain ⟨w, hw⟩ := hline hone
    rw [h.lines]
    exact hw.ran_prefix.map _

end LogState

/-- **Every record is accounted for**, whichever messages are logged in which state of the workers, and
whenever the pool is stopped and freed. What it says behind `thpool_free` is about the runs in which
that gets through: all workers have exited, and a second join of them returns. -/
theorem logRun_accounted (settings : LogSettings) (workers : ℕ) {st : LogState}
    (h : Reachable (logStep settings) (logStart workers) st) : st.Accounted workers := by
  have hall : st.Inv ∧ (workers = 1 → ∃ w, st.loggerThread.InLine w) := by
    apply h.invariant (I := fun st => st.Inv ∧ (workers = 1 → ∃ w, st.loggerThread.InLine w))
    · refine ⟨LogState.logStart_inv workers, fun hone => ?_⟩
      rw [hone]
      exact ⟨_, ThState.thStart_inLine _⟩
    · rintro st a st' ⟨hinv, hline⟩ hstep
      have hmove := logStep_move hstep
      exact ⟨hinv.step hmove, fun hone => hinv.inLine hmove (hline hone)⟩
  exact hall.1.accounted hall.2

/-- Three messages, one of a level that is not written; the pool is freed with the last one in the
queue. -/
theorem logRun_accounted_three_messages :
    let acts : List LogAction :=
      [.worker 0, .tick [49], .log 1 [104, 105] true, .log 8 [100] true, .worker 0,
        .log 2 [98, 121, 101] true, .stop, .exec 0, .worker 0, .free]
    ∃ st, run (logStep ⟨2, 5⟩) (logStart 1) acts = some st ∧
      st.loggerThread.world.lines = [⟨5, [49], [104, 105]⟩] ∧
      st.loggerThread.world.freed = [0, 1] ∧ st.Accounted 1 := by
  intro acts
  exact ⟨_, rfl, rfl, rfl, logRun_accounted ⟨2, 5⟩ 1 ⟨acts, rfl⟩⟩

end Ezgrpc2
