import Ezgrpc2.Lib.Regions
import Ezgrpc2.Lib.Runs
import Ezgrpc2.Message
import Ezgrpc2.SizeT

/-! # The arenas

`ezgrpc2_arena_message` and `ezgrpc2_arena_event` hand out records from one buffer: `malloc` moves the
cursor `write` up, `read` is to follow with the cursor `read`, and `count` is to say how many records
lie between the two. The functions of the two arenas are the same up to the type of the record, and
that a message is followed by its payload. All arithmetic is that of `size_t`. -/

namespace Ezgrpc2

open FlatMemory StepRuns

/-! ## (1) The code -/

/-- The type of the records of an arena. -/
structure RecordType where
  /-- The size of a record, its `sizeof`. -/
  sizeof : ℕ
  /-- The alignment of a record, its `alignof`. -/
  alignof : ℕ

/-- `ezgrpc2_message`: a `uint32_t`, a `uint8_t` and the payload behind them. -/
def messageRecord : RecordType := ⟨8, 4⟩

/-- `ezgrpc2_event`: the handle with its 24 bytes, the union with 16, a pointer and the type. -/
def eventRecord : RecordType := ⟨56, 8⟩

/-- `struct ezgrpc2_arena_message` and `struct ezgrpc2_arena_event`, which have the same fields. -/
structure Arena where
  /-- The address of the buffer `buf`. -/
  bufAddr : ℕ
  /-- The cursor of `malloc`, an offset into the buffer. -/
  write : ℕ
  /-- The cursor of `read`, an offset into the buffer. -/
  read : ℕ
  /-- The number of records, as the calls count them. -/
  count : ℕ
  /-- The size of the buffer in bytes. -/
  size : ℕ
  /-- The bytes of memory from `buf` on. -/
  buf : ℕ → UInt8

/-- `offsetof(struct ezgrpc2_arena_message, buf)`, which is also the `sizeof`: four `size_t`s. -/
def arenaHeader : ℕ := 32

/-- A block `malloc` returned for an arena: its memory from `buf` on, at an address that is aligned for
the records. -/
structure Block (record : RecordType) where
  /-- The address of the block, which becomes `buf`. -/
  bufAddr : ℕ
  /-- The bytes of memory from that address on. -/
  mem : ℕ → UInt8
  /-- `malloc` aligns blocks for every type, and `buf` is 32 bytes behind. -/
  aligned : bufAddr % record.alignof = 0

/-- What the two functions `new` make of a block. -/
def arenaNew {record : RecordType} (size : ℕ) (block : Block record) : Arena where
  bufAddr := block.bufAddr
  write := 0
  read := 0
  count := 0
  size := size
  buf := block.mem

/-- The number of bytes `ezgrpc2_arena_message_new` asks `malloc` for. -/
def arenaMessageRequest (size : ℕ) : ℕ := sizeT (arenaHeader + size)

/-- `ezgrpc2_arena_message_new`: the arena on a block that `malloc` returns. -/
def arenaMessageNew (size : ℕ) (block : Block messageRecord) : Arena := arenaNew size block

/-- The number of bytes `ezgrpc2_arena_event_new` asks `malloc` for. -/
def arenaEventRequest (size : ℕ) : ℕ := size

/-- `ezgrpc2_arena_event_new`: the arena on a block that `malloc` returns. -/
def arenaEventNew (size : ℕ) (block : Block eventRecord) : Arena := arenaNew size block

/-- The number of bytes that are skipped at an index of `buf`: the remainder of its address. -/
def Arena.alignment (record : RecordType) (arena : Arena) (index : ℕ) : ℕ :=
  sizeT (arena.bufAddr + index) % record.alignof

/-- The two functions `malloc`, for a record with `size` bytes behind it: the index of the record in
`buf`, and the arena. -/
def arenaMalloc (record : RecordType) (arena : Arena) (size : ℕ) : Option ℕ × Arena :=
  let alignment := arena.alignment record arena.write
  if sizeT (arena.write + record.sizeof + size + alignment) > arena.size then (none, arena)
  else
    (some (sizeT (alignment + arena.write)),
      { arena with write := sizeT (arena.write + (alignment + record.sizeof + size)) })

/-- `ezgrpc2_arena_message_malloc`. The length is stored in the `uint32_t` of the message. -/
def arenaMessageMalloc (arena : Arena) (size : ℕ) : Option ℕ × Arena :=
  match arenaMalloc messageRecord arena size with
  | (none, arena) => (none, arena)
  | (some msg, arena) =>
      (some msg, { arena with buf := FlatMemory.write arena.buf msg (u32Bytes size) })

/-- `ezgrpc2_arena_event_malloc`: the offset of the record, or none where it does not fit. -/
def arenaEventMalloc (arena : Arena) : Option ℕ × Arena := arenaMalloc eventRecord arena 0

/-- The two functions `read`; `len` is the number of bytes behind the record at an index. -/
def arenaRead (record : RecordType) (len : (ℕ → UInt8) → ℕ → ℕ) (arena : Arena) :
    Option ℕ × Arena :=
  if arena.count = 0 then (none, arena)
  else
    let alignment := arena.alignment record arena.read
    let index := sizeT (alignment + arena.read)
    (some index,
      { arena with
        read := sizeT (arena.read + (alignment + record.sizeof + len arena.buf index))
        count := sizePred arena.count })

/-- `ezgrpc2_arena_message_read`: the payload has `msg->len` bytes. -/
def arenaMessageRead (arena : Arena) : Option ℕ × Arena := arenaRead messageRecord ureadU32 arena

/-- `ezgrpc2_arena_event_read`: the offset of the record, or none where there is no more. -/
def arenaEventRead (arena : Arena) : Option ℕ × Arena := arenaRead eventRecord (fun _ _ => 0) arena

/-- `ezgrpc2_arena_event_reset`: both cursors and the count go back to 0. -/
def arenaEventReset (arena : Arena) : Arena := { arena with write := 0, read := 0, count := 0 }

/-- `ezgrpc2_arena_message_count`, which returns the count as an `int`. -/
def arenaMessageCount (arena : Arena) : ℤ := (arena.count : ℤ).bmod (2 ^ 32)

/-- `ezgrpc2_arena_event_count`, which returns the count as it is. -/
def arenaEventCount (arena : Arena) : ℕ := arena.count

/-! ## (2) What `malloc` and `read` do -/

section Calls

variable {record : RecordType} {arena : Arena} {size : ℕ}

/-- The sum of the capacity test, as a number. -/
def Arena.total (record : RecordType) (arena : Arena) (size : ℕ) : ℕ :=
  arena.write + record.sizeof + size + arena.alignment record arena.write

/-- A request for which there is no room is refused and leaves the arena. -/
theorem arenaMalloc_of_gt (h : sizeT (arena.total record size) > arena.size) :
    arenaMalloc record arena size = (none, arena) := if_pos h

/-- **There is room**, as far as the capacity test can tell. -/
theorem arenaMalloc_of_le (h : sizeT (arena.total record size) ≤ arena.size) :
    arenaMalloc record arena size
      = (some (sizeT (arena.alignment record arena.write + arena.write)),
        { arena with write := sizeT (arena.total record size) }) := by
  have hsum : arena.write + (arena.alignment record arena.write + record.sizeof + size)
      = arena.total record size := by
    rw [Arena.total]
    omega
  rw [arenaMalloc, hsum]
  exact if_neg (Nat.not_lt.mpr h)

/-- A message is stored in a buffer that is otherwise as before. -/
theorem arenaMessageMalloc_eq (arena : Arena) (size : ℕ) :
    (arenaMessageMalloc arena size).1 = (arenaMalloc messageRecord arena size).1 ∧
      ∃ buf, (arenaMessageMalloc arena size).2
        = { (arenaMalloc messageRecord arena size).2 with buf := buf } := by
  rw [arenaMessageMalloc]
  split
  · next heq =>
      rw [heq]
      exact ⟨rfl, _, rfl⟩
  · next heq =>
      rw [heq]
      exact ⟨rfl, _, rfl⟩

/-- Neither function `malloc` counts the record that it returns. -/
theorem arenaMalloc_count : (arenaMalloc record arena size).2.count = arena.count := by
  rw [arenaMalloc]
  split <;> rfl

/-- Without a record that is counted there is nothing to read. -/
theorem arenaRead_of_count_eq_zero {len : (ℕ → UInt8) → ℕ → ℕ} (h : arena.count = 0) :
    arenaRead record len arena = (none, arena) := if_pos h

end Calls

/-- A read moves its own cursor, and counts down. -/
theorem arenaRead_frame (record : RecordType) (len : (ℕ → UInt8) → ℕ → ℕ) (arena : Arena) :
    ∃ read count, (arenaRead record len arena).2
      = { arena with read := read, count := count } := by
  rw [arenaRead]
  split
  · exact ⟨arena.read, arena.count, rfl⟩
  · exact ⟨_, _, rfl⟩

/-! ## (3) Runs -/

/-- An arena, with the regions `malloc` has returned since it was new or reset, and those of them that
were not read yet, both in order. -/
structure ArenaState where
  /-- The arena as the calls left it. -/
  arena : Arena
  /-- The regions that `malloc` returned, in order. -/
  returned : List Region
  /-- The regions that were returned and not read since. -/
  pending : List Region

/-- The state behind a call of `malloc`, with the region it returned. -/
def ArenaState.allocate (st : ArenaState) (arena : Arena) (region : Option Region) : ArenaState where
  arena := arena
  returned := st.returned ++ region.toList
  pending := st.pending ++ region.toList

/-- A call that returns no region leaves the two lists of regions. -/
theorem ArenaState.allocate_none (st : ArenaState) : st.allocate st.arena none = st := by
  show ArenaState.mk st.arena (st.returned ++ []) (st.pending ++ []) = st
  rw [List.append_nil, List.append_nil]

/-- A call that the owner of a message arena makes. -/
inductive MessageAction where
  /-- A call of `ezgrpc2_arena_message_malloc` for so many bytes. -/
  | malloc (size : Size)
  /-- A call of `ezgrpc2_arena_message_read`. -/
  | read

/-- One call on a message arena; every call goes through. -/
def messageStep (st : ArenaState) : MessageAction → Option ArenaState
  | .malloc size =>
      let r := arenaMessageMalloc st.arena size
      some (st.allocate r.2 (r.1.map fun msg => ⟨msg, messageRecord.sizeof + size⟩))
  | .read =>
      some { st with arena := (arenaMessageRead st.arena).2, pending := st.pending.tail }

/-- A new message arena, of which nothing was returned. -/
def messageStart (size : Size) (block : Block messageRecord) : ArenaState :=
  ⟨arenaMessageNew size block, [], []⟩

/-- A call that the owner of an event arena makes. -/
inductive EventAction where
  /-- A call of `ezgrpc2_arena_event_malloc`. -/
  | malloc
  /-- A call of `ezgrpc2_arena_event_read`. -/
  | read
  /-- A call of `ezgrpc2_arena_event_reset`, after which all events are forgotten. -/
  | reset

/-- One call on an event arena; every call goes through. -/
def eventStep (st : ArenaState) : EventAction → Option ArenaState
  | .malloc =>
      let r := arenaEventMalloc st.arena
      some (st.allocate r.2 (r.1.map fun ev => ⟨ev, eventRecord.sizeof⟩))
  | .read => some { st with arena := (arenaEventRead st.arena).2, pending := st.pending.tail }
  | .reset => some ⟨arenaEventReset st.arena, [], []⟩

/-- A new event arena, of which nothing was returned. -/
def eventStart (size : Size) (block : Block eventRecord) : ArenaState :=
  ⟨arenaEventNew size block, [], []⟩

end Ezgrpc2
