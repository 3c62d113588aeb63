import Ezgrpc2.Events
import Ezgrpc2.Lib.Runs

/-! # Reading the event queue

`ezgrpc2_events_read` hands out the first block. How many of its cells are events is not stored with
the block: it is 64, unless no block is left behind it; then it is `windex`, which the read sets back
to 64, the mark of a queue without an open block. `queueRun_exact` says that over any run of writes
and reads what was read is a prefix of what was written, and what remains is what further reads
return. -/

namespace Ezgrpc2

open FlatMemory StepRuns

/-! ## (1) One read -/

/-- `ezgrpc2_events_read`: the array with the value stored in `*len`, or a null pointer, and the
queue. -/
def eventsRead (events : Events) : Option ((ℕ → Event) × ℕ) × Events :=
  match listPopFront events.bevents with
  | (none, _) => (none, events)
  | (some arrevents, bevents) =>
      if hcount : bevents.length = 0 then
        (some (arrevents, events.windex),
          { bevents := bevents
            windex := eventsBlock
            windex_le := Nat.le_refl _
            windex_of_nil := fun _ => rfl })
      else
        (some (arrevents, eventsBlock),
          { bevents := bevents
            windex := events.windex
            windex_le := events.windex_le
            windex_of_nil := fun hnil => absurd (hnil ▸ List.length_nil) hcount })

/-- The events of a read: the array cut at its length. -/
def readEvents : Option ((ℕ → Event) × ℕ) → List Event
  | none => []
  | some (arrevents, len) => slice arrevents 0 len

/-- **A read takes its events off the front** of the unread ones. -/
theorem unread_eventsRead (events : Events) :
    readEvents (eventsRead events).1 ++ (eventsRead events).2.unread = events.unread := by
  obtain ⟨bevents, windex, hle, hnil⟩ := events
  cases bevents with
  | nil => rfl
  | cons arrevents bevents =>
      cases bevents with
      | nil =>
          -- the last block: its length is `windex`
          show slice arrevents 0 windex ++ [] = slice arrevents 0 windex
          rw [List.append_nil]
      | cons b bs => rfl

/-- A read returns a null pointer exactly when there is no block. -/
theorem eventsRead_eq_none {events : Events} :
    (eventsRead events).1 = none ↔ events.bevents = [] := by
  obtain ⟨bevents, windex, hle, hnil⟩ := events
  cases bevents with
  | nil => exact ⟨fun _ => rfl, fun _ => rfl⟩
  | cons arrevents bevents =>
      constructor
      · intro h
        unfold eventsRead at h
        simp only [listPopFront] at h
        split at h <;> cases h
      · intro h
        cases h

/-- What is handed out fits into a block. -/
theorem eventsRead_le {events : Events} {arrevents : ℕ → Event} {len : ℕ}
    (h : (eventsRead events).1 = some (arrevents, len)) : len ≤ eventsBlock := by
  unfold eventsRead at h
  split at h
  · cases h
  · split at h
    · cases h
      exact events.windex_le
    · cases h
      exact Nat.le_refl _

/-- A read takes a block off, if there is one. -/
theorem bevents_eventsRead (events : Events) :
    (eventsRead events).2.bevents = events.bevents.tail := by
  obtain ⟨bevents, windex, hle, hnil⟩ := events
  cases bevents with
  | nil => rfl
  | cons arrevents bevents =>
      unfold eventsRead
      simp only [listPopFront]
      split <;> rfl

/-- A queue without blocks holds no event. -/
theorem unread_eq_nil {events : Events} (h : events.bevents = []) : events.unread = [] := by
  rw [Events.unread, h]
  rfl

/-! ## (2) Runs -/

/-- A call that the server or the application makes on an event queue. -/
inductive QueueCall where
  /-- A call of `ezgrpc2_events_write` with an event. -/
  | write (event : Event)
  /-- A call of `ezgrpc2_events_read`, for the next block of events. -/
  | read

/-- A queue with what was written to it and what its reads returned. -/
structure QueueState where
  /-- The queue as the calls left it. -/
  events : Events
  /-- All events that were written, in order. -/
  written : List Event
  /-- The arrays returned, each cut at its length, one behind the other. -/
  returned : List Event

/-- One call on the queue, with the events written and read so far. -/
def queueStep (st : QueueState) : QueueCall → Option QueueState
  | .write event =>
      some { st with events := eventsWrite st.events event, written := st.written ++ [event] }
  | .read =>
      some
        { st with
          events := (eventsRead st.events).2
          returned := st.returned ++ readEvents (eventsRead st.events).1 }

/-- A new queue, on which nothing was written or read. -/
def queueStart : QueueState := ⟨eventsNew, [], []⟩

/-- **The invariant**: what was returned and what is unread make up what was written. -/
def QueueState.Ok (st : QueueState) : Prop := st.returned ++ st.events.unread = st.written

/-- Every call keeps the invariant of the queue. -/
theorem QueueState.Ok.step {st st' : QueueState} (h : st.Ok) {c : QueueCall}
    (hstep : queueStep st c = some st') : st'.Ok := by
  cases c with
  | write event =>
      cases hstep
      unfold QueueState.Ok at h ⊢
      rw [unread_eventsWrite, ← List.append_assoc, h]
  | read =>
      cases hstep
      unfold QueueState.Ok at h ⊢
      rw [List.append_assoc, unread_eventsRead, h]

/-- Reading until no block is left, and once more. -/
theorem run_reads (n : ℕ) {st : QueueState} (h : st.events.bevents.length ≤ n) :
    ∃ st', run queueStep st (List.replicate n .read) = some st' ∧ st'.written = st.written ∧
      (eventsRead st'.events).1 = none ∧ st'.returned = st.returned ++ st.events.unread := by
  induction n generalizing st with
  | zero =>
      have hnil := List.length_eq_zero_iff.mp (Nat.le_zero.mp h)
      refine ⟨st, rfl, rfl, eventsRead_eq_none.mpr hnil, ?_⟩
      rw [unread_eq_nil hnil, List.append_nil]
  | succ n ih =>
      have hlen : (eventsRead st.events).2.bevents.length ≤ n := by
        rw [bevents_eventsRead, List.length_tail]
        omega
      obtain ⟨st', hrun, hwritten, hnone, hreturned⟩ :=
        @ih ⟨(eventsRead st.events).2, st.written,
          st.returned ++ readEvents (eventsRead st.events).1⟩ hlen
      refine ⟨st', hrun, hwritten, hnone, ?_⟩
      rw [hreturned, List.append_assoc, unread_eventsRead]

/-- **The queue is exact**: what was read and what is unread are together what was written, in
order. -/
structure QueueState.Exact (st : QueueState) : Prop where
  /-- What was returned is a prefix of what was written. -/
  returned : st.returned <+: st.written
  /-- No read hands out more than a block. -/
  len_le : ∀ arrevents len, (eventsRead st.events).1 = some (arrevents, len) → len ≤ eventsBlock
  /-- A null pointer means that everything written was returned. -/
  null : (eventsRead st.events).1 = none → st.returned = st.written
  /-- Further reads return the rest of what was written, and then a null pointer. -/
  remainder : ∃ n st', run queueStep st (List.replicate n .read) = some st' ∧
    st'.returned = st.written ∧ (eventsRead st'.events).1 = none

/-- **No event is lost, duplicated, reordered or read beyond what was written**, in any interleaving
of writes and reads and whatever the number of events is to the size of a block. -/
theorem queueRun_exact {st : QueueState} (h : Reachable queueStep queueStart st) : st.Exact := by
  have hok : st.Ok := h.invariant (rfl : queueStart.Ok) fun _ _ _ hinv hstep => hinv.step hstep
  refine ⟨⟨st.events.unread, hok⟩, fun _ _ => eventsRead_le, ?_, ?_⟩
  · intro hnone
    have hnil := unread_eq_nil (eventsRead_eq_none.mp hnone)
    rw [← hok, hnil, List.append_nil]
  · obtain ⟨st', hrun, -, hnone, hreturned⟩ := run_reads _ (Nat.le_refl st.events.bevents.length)
    exact ⟨_, st', hrun, hreturned.trans hok, hnone⟩

/-- A block that is exactly full, read before the next event comes. -/
theorem queueRun_exact_full_block :
    ∃ st, run queueStep queueStart
        (List.replicate 64 (.write eventUnset) ++ [.read, .write eventUnset]) = some st ∧
      st.returned.length = 64 ∧ st.events.unread.length = 1 ∧ st.Exact := by
  have hlen : (run queueStep queueStart
      (List.replicate 64 (.write eventUnset) ++ [.read, .write eventUnset])).map (fun st =>
        (st.returned.length, st.events.unread.length)) = some (64, 1) := by
    decide +kernel
  obtain ⟨st, hrun, hlen⟩ := Option.map_eq_some_iff.mp hlen
  rw [Prod.mk.injEq] at hlen
  exact ⟨st, hrun, hlen.1, hlen.2, queueRun_exact ⟨_, hrun⟩⟩

end Ezgrpc2
