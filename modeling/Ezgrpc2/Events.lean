import Ezgrpc2.EzList
import Ezgrpc2.Message
import Mathlib.Data.Int.Notation

/-! # Events and the event queue

`struct ezgrpc2_events` is a list of blocks of 64 events; `windex` is the first free cell of the last
block, and 64 also when there is no block. `Events` carries what keeps a write inside a block, so
`eventsWrite` is total. `Events.unread` is the sequence of events the queue stands for, and
`unread_eventsWrite` says that a write appends to it. Allocations succeed throughout the model. -/

namespace Ezgrpc2

open FlatMemory

/-- `struct ezgrpc2_session_uuid`: a random 128-bit number and the session's slot. -/
structure SessionUuid where
  /-- The random part, a `uuid_t`. -/
  uuid : ℕ
  /-- The index of the cell that the session is in. -/
  index : ℕ
deriving DecidableEq

/-- The type of an event together with its member of the union. -/
inductive EventKind where
  /-- `EZGRPC2_EVENT_CONNECT`: a session has been accepted. -/
  | connect
  /-- `EZGRPC2_EVENT_DISCONNECT`: a session has been freed. -/
  | disconnect
  /-- `EZGRPC2_EVENT_MESSAGE`: messages of a stream, with `end_stream` where they are its last
  ones. -/
  | message (messages : List Message) (streamId : ℤ) (endStream : Bool)
  /-- `EZGRPC2_EVENT_CANCEL`: a stream was cancelled; no function writes it. -/
  | cancel (streamId : ℤ)
  /-- `EZGRPC2_EVENT_DATALOSS`: a stream has ended inside a message. -/
  | dataloss (streamId : ℤ)
deriving DecidableEq

/-- `struct ezgrpc2_event`: the session, the userdata of the path and the kind. -/
structure Event where
  /-- The session the event is about. -/
  sessionUuid : SessionUuid
  /-- The userdata of the path of the stream; `none` where the code leaves the field unset. -/
  userdata : Option ℕ
  /-- The type and the member of the union. -/
  kind : EventKind
deriving DecidableEq

/-- The stream an event is about; `CONNECT` and `DISCONNECT` are about the session only. -/
def EventKind.streamId? : EventKind → Option ℤ
  | .connect | .disconnect => none
  | .message _ streamId _ | .cancel streamId | .dataloss streamId => some streamId

/-- A MESSAGE or a DATALOSS, what a DATA frame makes the code write. -/
def EventKind.ofFrame : EventKind → Bool
  | .message _ _ _ | .dataloss _ => true
  | .connect | .disconnect | .cancel _ => false

/-- The event belongs to the stream `streamId` of the session `uuid`. -/
def Event.BelongsTo (e : Event) (uuid : SessionUuid) (streamId : ℤ) : Prop :=
  e.sessionUuid = uuid ∧ e.kind.streamId? = some streamId

instance (e : Event) (uuid : SessionUuid) (streamId : ℤ) : Decidable (e.BelongsTo uuid streamId) :=
  inferInstanceAs (Decidable (_ ∧ _))

/-! ## (1) The queue -/

/-- `EZGRPC2_EVENTS_BLOCK`, the number of events in a block. -/
def eventsBlock : ℕ := 64

/-- The cells of a new block hold nothing in particular. -/
def eventUnset : Event := ⟨⟨0, 0⟩, none, .connect⟩

/-- `struct ezgrpc2_events`: blocks of events, of which the first is read and the last written. -/
structure Events where
  /-- The blocks, the one written to last. -/
  bevents : List (ℕ → Event)
  /-- The first free cell of the last block. -/
  windex : ℕ
  /-- The last block has no cell behind the end. -/
  windex_le : windex ≤ eventsBlock
  /-- Without a block there is no free cell. -/
  windex_of_nil : bevents = [] → windex = eventsBlock

/-- `ezgrpc2_events_new`: a queue that has no blocks. -/
def eventsNew : Events where
  bevents := []
  windex := eventsBlock
  windex_le := Nat.le_refl _
  windex_of_nil _ := rfl

/-- The blocks with the last one changed. -/
def modifyBack (f : (ℕ → Event) → ℕ → Event) : List (ℕ → Event) → List (ℕ → Event)
  | [] => []
  | [b] => [f b]
  | b :: b' :: bs => b :: modifyBack f (b' :: bs)

theorem modifyBack_ne_nil {f : (ℕ → Event) → ℕ → Event} {bs : List (ℕ → Event)} (h : bs ≠ []) :
    modifyBack f bs ≠ [] := by
  match bs, h with
  | [_], _ => exact List.cons_ne_nil _ _
  | _ :: _ :: _, _ => exact List.cons_ne_nil _ _

/-- The blocks and the free cell `ezgrpc2_events_write` writes to: a full queue gets a new block. -/
def Events.room (events : Events) : List (ℕ → Event) × ℕ :=
  if events.windex = eventsBlock then (listPushBack events.bevents fun _ => eventUnset, 0)
  else (events.bevents, events.windex)

theorem Events.room_ne_nil (events : Events) : events.room.1 ≠ [] := by
  rw [Events.room]
  by_cases h : events.windex = eventsBlock
  · rw [if_pos h]
    exact List.append_ne_nil_of_right_ne_nil _ (List.cons_ne_nil _ _)
  · rw [if_neg h]
    exact fun hnil => h (events.windex_of_nil hnil)

theorem Events.room_lt (events : Events) : events.room.2 < eventsBlock := by
  rw [Events.room]
  by_cases h : events.windex = eventsBlock
  · rw [if_pos h]
    show 0 < eventsBlock
    decide
  · rw [if_neg h]
    exact Nat.lt_of_le_of_ne events.windex_le h

/-- `ezgrpc2_events_write`: `arrevents[events->windex++] = event` in the last block. -/
def eventsWrite (events : Events) (event : Event) : Events where
  bevents := modifyBack (fun arrevents => write arrevents events.room.2 [event]) events.room.1
  windex := events.room.2 + 1
  windex_le := events.room_lt
  windex_of_nil h := absurd h (modifyBack_ne_nil events.room_ne_nil)

/-! ## (2) What the queue stands for -/

/-- The events in a list of blocks, of the last of which `windex` cells are in use. -/
def unreadBlocks (windex : ℕ) : List (ℕ → Event) → List Event
  | [] => []
  | [b] => slice b 0 windex
  | b :: b' :: bs => slice b 0 eventsBlock ++ unreadBlocks windex (b' :: bs)

/-- **The unread events** of a queue, in the order they were written. -/
def Events.unread (events : Events) : List Event := unreadBlocks events.windex events.bevents

@[simp] theorem unread_eventsNew : eventsNew.unread = [] := rfl

/-- The unread events of blocks, the last of which is partly written behind full ones. -/
theorem unreadBlocks_append_singleton (bs : List (ℕ → Event)) (b : ℕ → Event) (windex : ℕ) :
    unreadBlocks windex (bs ++ [b]) = unreadBlocks eventsBlock bs ++ slice b 0 windex := by
  induction bs with
  | nil => rfl
  | cons b₁ bs ih =>
      cases bs with
      | nil => rfl
      | cons b₂ bs =>
          rw [List.cons_append] at ih ⊢
          rw [List.cons_append, unreadBlocks, unreadBlocks, ih, List.append_assoc]

/-- Writing the first free cell of the last block appends an event. -/
theorem unreadBlocks_modifyBack (windex : ℕ) (e : Event) {bs : List (ℕ → Event)} (h : bs ≠ []) :
    unreadBlocks (windex + 1) (modifyBack (fun b => write b windex [e]) bs)
      = unreadBlocks windex bs ++ [e] := by
  induction bs with
  | nil => exact absurd rfl h
  | cons b bs ih =>
      cases bs with
      | nil => exact slice_write_append b windex [e]
      | cons b' bs =>
          have htail := ih (List.cons_ne_nil _ _)
          rw [modifyBack, unreadBlocks, List.append_assoc, ← htail]
          cases bs with
          | nil => rfl
          | cons b'' bs => rfl

/-- Making room leaves the unread events as they are. -/
theorem Events.unreadBlocks_room (events : Events) :
    unreadBlocks events.room.2 events.room.1 = events.unread := by
  rw [Events.room]
  by_cases h : events.windex = eventsBlock
  · rw [if_pos h, listPushBack, unreadBlocks_append_singleton, slice_zero, List.append_nil,
      Events.unread, h]
  · rw [if_neg h, Events.unread]

/-- **A write appends its event** to the unread ones. -/
@[simp] theorem unread_eventsWrite (events : Events) (event : Event) :
    (eventsWrite events event).unread = events.unread ++ [event] := by
  rw [← events.unreadBlocks_room]
  exact unreadBlocks_modifyBack _ event events.room_ne_nil

end Ezgrpc2
