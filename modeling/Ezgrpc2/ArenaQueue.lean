import Ezgrpc2.Arena

/-! # The arenas as queues

What `malloc` returned is to be read back, in order and once; `count` is to be the number of regions
that were not read yet, and `read` looks at it to know whether there is one. Neither function `malloc`
counts what it returns: `arenaRun_fifo_iff` says that the arenas are queues for the sequences without
a `malloc`, and for no others. -/

namespace Ezgrpc2

open FlatMemory StepRuns

/-! ## (1) What a queue does -/

/-- The region a read of a message arena returns: the message and its payload. -/
def arenaMessageRegion (arena : Arena) : Option Region :=
  (arenaMessageRead arena).1.map fun msg => ⟨msg, messageRecord.sizeof + ureadU32 arena.buf msg⟩

/-- The region a read of an event arena returns. -/
def arenaEventRegion (arena : Arena) : Option Region :=
  (arenaEventRead arena).1.map fun ev => ⟨ev, eventRecord.sizeof⟩

/-- The calls on a message arena that are looked at: every `malloc` succeeds. -/
def MessageAction.Served (st : ArenaState) : MessageAction → Prop
  | .malloc size => (arenaMessageMalloc st.arena size).1 ≠ none
  | .read => True

/-- The calls on an event arena that are looked at: every `malloc` succeeds, and a reset comes when all
regions were read. -/
def EventAction.Served (st : ArenaState) : EventAction → Prop
  | .malloc => (arenaEventMalloc st.arena).1 ≠ none
  | .read => True
  | .reset => st.pending = []

/-- **A message arena as a queue**: a read returns the first region that was not read yet, `NULL` when
there is none, and after each call `count` is the number of regions not read. -/
structure MessageAction.FifoOk (st : ArenaState) (a : MessageAction) : Prop where
  /-- A read returns the oldest region that was not read. -/
  reads : a = .read → arenaMessageRegion st.arena = st.pending.head?
  /-- The count is the number of regions that were not read. -/
  counts : ∀ st', messageStep st a = some st' →
    arenaMessageCount st'.arena = st'.pending.length

/-- **An event arena as a queue**: what a call of it is to return. -/
structure EventAction.FifoOk (st : ArenaState) (a : EventAction) : Prop where
  /-- A read returns the oldest region that was not read. -/
  reads : a = .read → arenaEventRegion st.arena = st.pending.head?
  /-- The count is the number of regions that were not read. -/
  counts : ∀ st', eventStep st a = some st' → arenaEventCount st'.arena = st'.pending.length

/-- The action is a call of `ezgrpc2_arena_message_malloc`. -/
def MessageAction.IsMalloc : MessageAction → Prop
  | .malloc _ => True
  | .read => False

/-- The action is a call of `ezgrpc2_arena_event_malloc`. -/
def EventAction.IsMalloc : EventAction → Prop
  | .malloc => True
  | .read | .reset => False

/-! ## (2) What the arenas do -/

/-- The count of an arena that counts nothing. -/
theorem arenaMessageCount_of_eq_zero {arena : Arena} (h : arena.count = 0) :
    arenaMessageCount arena = 0 := by
  unfold arenaMessageCount
  rw [h]
  -- the numeral would be unfolded
  generalize 2 ^ 32 = m
  exact Int.zero_bmod

/-- **Nothing was allocated yet**, or everything was forgotten by a reset. -/
structure ArenaState.Drained (st : ArenaState) : Prop where
  /-- The arena counts no record. -/
  count_eq : st.arena.count = 0
  /-- There is no region left to read. -/
  pending_eq : st.pending = []

namespace ArenaState.Drained

variable {st st' : ArenaState}

/-- A `malloc` that succeeds leaves a region to be read, which is not counted. -/
theorem allocate (h : st.Drained) {arena : Arena} (hcount : arena.count = st.arena.count)
    {region : Option Region} (hsome : region ≠ none) :
    (st.allocate arena region).arena.count = 0 ∧ (st.allocate arena region).pending.length = 1 := by
  obtain ⟨r, rfl⟩ := Option.ne_none_iff_exists'.mp hsome
  refine ⟨hcount.trans h.count_eq, ?_⟩
  show (st.pending ++ [r]).length = 1
  rw [h.pending_eq]
  rfl

/-- Where no region is left to read, there is no first one, and taking it away changes nothing. -/
theorem read (h : st.Drained) :
    { st with pending := st.pending.tail } = st ∧ st.pending.head? = none := by
  obtain ⟨arena, returned, pending⟩ := st
  obtain rfl : pending = [] := h.pending_eq
  exact ⟨rfl, rfl⟩

/-- A read of a message arena finds nothing. -/
theorem message_read (h : st.Drained) :
    arenaMessageRegion st.arena = st.pending.head? ∧ messageStep st .read = some st := by
  have hread : arenaMessageRead st.arena = (none, st.arena) :=
    arenaRead_of_count_eq_zero h.count_eq
  obtain ⟨hsame, hhead⟩ := h.read
  rw [arenaMessageRegion, messageStep, hread, hhead, hsame]
  exact ⟨rfl, rfl⟩

/-- A read of an event arena finds nothing. -/
theorem event_read (h : st.Drained) :
    arenaEventRegion st.arena = st.pending.head? ∧ eventStep st .read = some st := by
  have hread : arenaEventRead st.arena = (none, st.arena) :=
    arenaRead_of_count_eq_zero h.count_eq
  obtain ⟨hsame, hhead⟩ := h.read
  rw [arenaEventRegion, eventStep, hread, hhead, hsame]
  exact ⟨rfl, rfl⟩

/-- **A message arena** from which nothing was allocated: a `malloc` breaks the queue, a read does
not. -/
theorem message_fifoOk_iff (h : st.Drained) {a : MessageAction} (hserved : a.Served st) :
    a.FifoOk st ↔ ¬a.IsMalloc := by
  cases a with
  | malloc size =>
      refine iff_of_false (fun hok => ?_) (not_not_intro trivial)
      obtain ⟨hfst, buf, hsnd⟩ := arenaMessageMalloc_eq st.arena size
      have hkeeps : (arenaMessageMalloc st.arena size).2.count = st.arena.count := by
        rw [hsnd]
        exact arenaMalloc_count
      obtain ⟨hcount, hlen⟩ := h.allocate hkeeps (mt Option.map_eq_none_iff.mp hserved)
      have hcounts := hok.counts _ rfl
      rw [arenaMessageCount_of_eq_zero hcount, hlen] at hcounts
      exact absurd hcounts (by decide)
  | read =>
      obtain ⟨hregion, hread⟩ := h.message_read
      refine iff_of_true ⟨fun _ => hregion, ?_⟩ id
      intro st' hstep
      rw [hread, Option.some.injEq] at hstep
      rw [← hstep, arenaMessageCount_of_eq_zero h.count_eq, h.pending_eq]
      rfl

/-- **An event arena** from which nothing was allocated. -/
theorem event_fifoOk_iff (h : st.Drained) {a : EventAction} (hserved : a.Served st) :
    a.FifoOk st ↔ ¬a.IsMalloc := by
  cases a with
  | malloc =>
      refine iff_of_false (fun hok => ?_) (not_not_intro trivial)
      have hkeeps : (arenaEventMalloc st.arena).2.count = st.arena.count := arenaMalloc_count
      obtain ⟨hcount, hlen⟩ := h.allocate hkeeps (mt Option.map_eq_none_iff.mp hserved)
      have hcounts := hok.counts _ rfl
      rw [arenaEventCount, hcount, hlen] at hcounts
      exact absurd hcounts (by decide)
  | read =>
      obtain ⟨hregion, hread⟩ := h.event_read
      refine iff_of_true ⟨fun _ => hregion, ?_⟩ id
      intro st' hstep
      rw [hread, Option.some.injEq] at hstep
      rw [← hstep, arenaEventCount, h.count_eq, h.pending_eq]
      rfl
  | reset =>
      refine iff_of_true ⟨fun hcon => ?_, ?_⟩ id
      · cases hcon
      · rintro st' hstep
        obtain rfl := Option.some.inj hstep
        rfl

/-- Reads of a message arena change nothing. -/
theorem message_step (h : st.Drained) {a : MessageAction} (hmalloc : ¬a.IsMalloc)
    (hstep : messageStep st a = some st') : st'.Drained := by
  cases a with
  | malloc => exact absurd trivial hmalloc
  | read =>
      rw [h.message_read.2, Option.some.injEq] at hstep
      exact hstep ▸ h

/-- Reads and resets of an event arena leave it drained. -/
theorem event_step (h : st.Drained) {a : EventAction} (hmalloc : ¬a.IsMalloc)
    (hstep : eventStep st a = some st') : st'.Drained := by
  cases a with
  | malloc => exact absurd trivial hmalloc
  | read =>
      rw [h.event_read.2, Option.some.injEq] at hstep
      exact hstep ▸ h
  | reset =>
      obtain rfl := Option.some.inj hstep
      exact ⟨rfl, rfl⟩

end ArenaState.Drained

/-! ## (3) Runs -/

/-- Every call on a message arena returns. -/
theorem messageStep_total (st : ArenaState) (a : MessageAction) :
    ∃ st', messageStep st a = some st' := by
  cases a <;> exact ⟨_, rfl⟩

/-- Every call on an event arena returns. -/
theorem eventStep_total (st : ArenaState) (a : EventAction) :
    ∃ st', eventStep st a = some st' := by
  cases a <;> exact ⟨_, rfl⟩

/-- **For which sequences the arenas are queues**: in every sequence of successful `malloc`s and of reads
on a message arena, and with resets of a drained arena on an event arena, the reads return the
regions in order and `count` is the number of those not read, exactly when nothing is allocated. -/
theorem arenaRun_fifo_iff (size size' : Size) (block : Block messageRecord)
    (block' : Block eventRecord) (acts : List MessageAction) (acts' : List EventAction)
    (hserved : Along messageStep (fun st a => a.Served st) (messageStart size block) acts)
    (hserved' : Along eventStep (fun st a => a.Served st) (eventStart size' block') acts') :
    (Along messageStep (fun st a => a.FifoOk st) (messageStart size block) acts ↔
      ∀ a ∈ acts, ¬a.IsMalloc) ∧
    (Along eventStep (fun st a => a.FifoOk st) (eventStart size' block') acts' ↔
      ∀ a ∈ acts', ¬a.IsMalloc) := by
  constructor
  · rw [← along_forall_iff messageStep_total (s := messageStart size block)]
    refine hserved.iff_of (I := ArenaState.Drained) ?_ ?_ ⟨rfl, rfl⟩
    · intro st a st' h hmalloc hstep
      exact h.message_step hmalloc hstep
    · intro st a h hserved
      exact h.message_fifoOk_iff hserved
  · rw [← along_forall_iff eventStep_total (s := eventStart size' block')]
    refine hserved'.iff_of (I := ArenaState.Drained) ?_ ?_ ⟨rfl, rfl⟩
    · intro st a st' h hmalloc hstep
      exact h.event_step hmalloc hstep
    · intro st a h hserved
      exact h.event_fifoOk_iff hserved

/-- A message that is allocated and read, and an event arena that is reset and read. -/
theorem arenaRun_fifo_examples :
    (¬Along messageStep (fun st a => a.FifoOk st)
      (messageStart ⟨64, by decide⟩ ⟨0, fun _ => 0, rfl⟩) [.malloc ⟨8, by decide⟩, .read]) ∧
    Along eventStep (fun st a => a.FifoOk st) (eventStart ⟨64, by decide⟩ ⟨0, fun _ => 0, rfl⟩)
      [.reset, .read] := by
  have hmalloc : (arenaMessageMalloc (arenaMessageNew 64 ⟨0, fun _ => 0, rfl⟩) 8).1 ≠ none := by
    decide +kernel
  obtain ⟨hmessage, hevent⟩ := arenaRun_fifo_iff ⟨64, by decide⟩ ⟨64, by decide⟩
    ⟨0, fun _ => 0, rfl⟩ ⟨0, fun _ => 0, rfl⟩ [.malloc ⟨8, by decide⟩, .read] [.reset, .read]
    ⟨hmalloc, fun _ _ => ⟨trivial, fun _ _ => trivial⟩⟩
    ⟨rfl, fun _ _ => ⟨trivial, fun _ _ => trivial⟩⟩
  constructor
  · intro hfifo
    exact hmessage.mp hfifo _ List.mem_cons_self trivial
  · refine hevent.mpr ?_
    rintro a ha
    rcases List.mem_pair.mp ha with rfl | rfl
    · exact id
    · exact id

/-- **After one `malloc`** of 8 bytes from an arena of 64 the count is still 0. -/
theorem not_arenaRun_fifo :
    ¬∀ (size : Size) (block : Block messageRecord) (acts : List MessageAction),
      Along messageStep (fun st a => a.Served st) (messageStart size block) acts →
        Along messageStep (fun st a => a.FifoOk st) (messageStart size block) acts := by
  intro hall
  have hmalloc : (arenaMessageMalloc (arenaMessageNew 64 ⟨0, fun _ => 0, rfl⟩) 8).1 ≠ none := by
    decide +kernel
  have hrun := hall ⟨64, by decide⟩ ⟨0, fun _ => 0, rfl⟩ [.malloc ⟨8, by decide⟩]
    ⟨hmalloc, fun _ _ => trivial⟩
  have hcounts := hrun.1.counts _ rfl
  exact absurd hcounts (by decide +kernel)

end Ezgrpc2
