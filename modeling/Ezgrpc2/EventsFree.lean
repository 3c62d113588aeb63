import Ezgrpc2.EventQueue

/-! # Freeing the event queue

`ezgrpc2_events_free` reads until no block is left and frees the messages of what it reads. The test
behind its loop is the one that ends the loop, so it returns there: the queue is not freed, and neither
are the arrays. Of the lists of messages none is lost and none is freed twice, whatever was read before
(`queueRun_eventsFree`). -/

namespace Ezgrpc2

open FlatMemory StepRuns

/-! ## (1) The call -/

/-- The messages of an event, when its type is `EZGRPC2_EVENT_MESSAGE`. -/
def Event.message? (event : Event) : Option (List Message) :=
  match event.kind with
  | .message messages _ _ => some messages
  | .dataloss _ | .cancel _ | .connect | .disconnect => none

/-- What `ezgrpc2_events_free` leaves, with what it has freed. -/
structure EventsFree where
  /-- The queue as its reads left it. -/
  events : Events
  /-- The lists of messages it has freed, in this order. -/
  messages : List (List Message)
  /-- The arrays it has read, none of which it has freed. -/
  arrays : List (ℕ → Event)
  /-- Whether the queue itself is freed. -/
  isFreed : Bool

/-- The loop of `ezgrpc2_events_free`, with the last value of `arrevents`. -/
def eventsFreeLoop (r : EventsFree) : EventsFree × Option (ℕ → Event) :=
  match _h : (eventsRead r.events).1 with
  | none => ({ r with events := (eventsRead r.events).2 }, none)
  | some (arrevents, nbEvent) =>
      eventsFreeLoop
        { r with
          events := (eventsRead r.events).2
          messages := r.messages ++ (slice arrevents 0 nbEvent).filterMap Event.message?
          arrays := r.arrays ++ [arrevents] }
termination_by r.events.bevents.length
decreasing_by
  have hne : r.events.bevents ≠ [] := by
    intro hnil
    rw [eventsRead_eq_none.mpr hnil] at _h
    cases _h
  have hlen := List.length_tail_add_one _ (List.length_pos_iff.mpr hne)
  rw [bevents_eventsRead]
  omega

/-- `ezgrpc2_events_free`: the loop, and the free of the queue where the loop leaves an array. -/
def eventsFree (events : Events) : EventsFree :=
  let (r, arrevents) := eventsFreeLoop ⟨events, [], [], false⟩
  if arrevents.isNone then r else { r with isFreed := true }

/-- A read hands out the first block. -/
theorem bevents_eq_cons {events : Events} {arrevents : ℕ → Event} {len : ℕ}
    (h : (eventsRead events).1 = some (arrevents, len)) :
    events.bevents = arrevents :: (eventsRead events).2.bevents := by
  rw [bevents_eventsRead]
  unfold eventsRead at h
  cases hblocks : events.bevents with
  | nil =>
      simp only [hblocks, listPopFront] at h
      cases h
  | cons b bs =>
      simp only [hblocks, listPopFront] at h
      split at h
      all_goals
        obtain ⟨rfl, -⟩ := Prod.mk.inj (Option.some.inj h)
        rfl

/-- The loop frees the messages of all events that were not read, and ends with a null pointer. -/
theorem eventsFreeLoop_spec (r : EventsFree) :
    (eventsFreeLoop r).2 = none ∧ (eventsFreeLoop r).1.events.bevents = [] ∧
      (eventsFreeLoop r).1.messages = r.messages ++ r.events.unread.filterMap Event.message? ∧
      (eventsFreeLoop r).1.arrays = r.arrays ++ r.events.bevents ∧
      (eventsFreeLoop r).1.isFreed = r.isFreed := by
  fun_induction eventsFreeLoop r with
  | case1 r h =>
      have hnil := eventsRead_eq_none.mp h
      refine ⟨rfl, ?_, ?_, ?_, rfl⟩
      · rw [bevents_eventsRead, hnil]
        rfl
      · rw [unread_eq_nil hnil]
        exact (List.append_nil _).symm
      · rw [hnil]
        exact (List.append_nil _).symm
  | case2 r arrevents nbEvent h ih =>
      obtain ⟨hnull, hblocks, hmessages, harrays, hfreed⟩ := ih
      have hunread := unread_eventsRead r.events
      rw [h] at hunread
      refine ⟨hnull, hblocks, ?_, ?_, hfreed⟩
      · rw [hmessages, ← hunread, List.filterMap_append, List.append_assoc]
        rfl
      · rw [harrays, bevents_eq_cons h, List.append_assoc]
        rfl

/-- **`ezgrpc2_events_free` frees the messages of the events that were not read**, and returns before it
frees the queue. -/
theorem eventsFree_spec (events : Events) :
    (eventsFree events).events.unread = [] ∧
      (eventsFree events).messages = events.unread.filterMap Event.message? ∧
      (eventsFree events).arrays = events.bevents ∧ (eventsFree events).isFreed = false := by
  obtain ⟨hnull, hblocks, hmessages, harrays, hfreed⟩ := eventsFreeLoop_spec ⟨events, [], [], false⟩
  have heq : eventsFree events = (eventsFreeLoop ⟨events, [], [], false⟩).1 := by
    rw [eventsFree]
    dsimp only
    rw [hnull]
    rfl
  rw [heq]
  exact ⟨unread_eq_nil hblocks, hmessages, harrays, hfreed⟩

/-! ## (2) Runs -/

/-- **The lists of messages are accounted for.** -/
structure QueueState.FreedOnce (st : QueueState) : Prop where
  /-- Each list that was written was returned by a read before, or is freed now. -/
  messages : st.written.filterMap Event.message?
    = st.returned.filterMap Event.message? ++ (eventsFree st.events).messages
  /-- No event is left unread in the queue. -/
  unread : (eventsFree st.events).events.unread = []
  /-- The arrays that were not read are lost. -/
  arrays : (eventsFree st.events).arrays = st.events.bevents
  /-- The queue itself is not freed. -/
  queue : (eventsFree st.events).isFreed = false

/-- **No list of messages is lost or freed twice**, in any interleaving of writes and reads before
`ezgrpc2_events_free`; but the queue and the arrays left in it are. -/
theorem queueRun_eventsFree {st : QueueState} (h : Reachable queueStep queueStart st) :
    st.FreedOnce := by
  have hok : st.Ok := h.invariant (rfl : queueStart.Ok) fun _ _ _ hinv hstep => hinv.step hstep
  obtain ⟨hunread, hmessages, harrays, hfreed⟩ := eventsFree_spec st.events
  refine ⟨?_, hunread, harrays, hfreed⟩
  rw [hmessages, ← List.filterMap_append]
  exact congrArg _ hok.symm

/-- A block is read, and one more event comes. -/
theorem queueRun_eventsFree_full_block :
    ∃ st, run queueStep queueStart (List.replicate 64 (.write ⟨⟨0, 0⟩, some 1, .message [] 1 false⟩)
        ++ [.read, .write ⟨⟨0, 0⟩, some 1, .message [] 1 true⟩]) = some st ∧
      st.returned.length = 64 ∧ st.events.unread.length = 1 ∧ st.FreedOnce := by
  have hlen : (run queueStep queueStart
      (List.replicate 64 (.write ⟨⟨0, 0⟩, some 1, .message [] 1 false⟩)
        ++ [.read, .write ⟨⟨0, 0⟩, some 1, .message [] 1 true⟩])).map (fun st =>
          (st.returned.length, st.events.unread.length)) = some (64, 1) := by
    decide +kernel
  obtain ⟨st, hrun, hlen⟩ := Option.map_eq_some_iff.mp hlen
  obtain ⟨hreturned, hunread⟩ := Prod.mk.inj hlen
  exact ⟨st, hrun, hreturned, hunread, queueRun_eventsFree ⟨_, hrun⟩⟩

end Ezgrpc2
