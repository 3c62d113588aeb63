import Ezgrpc2.Arena

/-! # What the arenas hand out

The regions an arena returns are to lie in its buffer, aligned and apart. The cursor of `malloc` takes
care of the last; the other two depend on numbers. `ezgrpc2_arena_message_malloc` skips the remainder
of the address where it would have to skip what is missing, and its capacity test is a sum that can
wrap around: `messageRun_regions_iff` says for which requests the regions are right. The capacity
test of `ezgrpc2_arena_event_malloc` takes the size of the whole block for that of the buffer:
`eventRun_regions_iff` says for which sizes, and how many events, this shows. -/

namespace Ezgrpc2

open FlatMemory StepRuns

/-! ## (1) Messages -/

/-- The number of bytes of the buffer of a message arena: what `malloc` was asked for, without the
fields in front. -/
def arenaMessageBuf (size : ℕ) : ℕ := arenaMessageRequest size - arenaHeader

/-- Where the request for `malloc` wraps around, the block has no room behind the fields. -/
theorem arenaMessageBuf_eq {size : ℕ} (hsize : size < 2 ^ 64) :
    arenaMessageBuf size = if size + arenaHeader < 2 ^ 64 then size else 0 := by
  rw [arenaMessageBuf, arenaMessageRequest, sizeT_eq, arenaHeader]
  split <;> omega

/-- **What a request is to do**: a region that is returned lies in the buffer, is aligned, and is disjoint
from the regions returned before; a request that returns `NULL` leaves the arena as it is. -/
structure MessageMallocOk (size : ℕ) (st : ArenaState) (request : ℕ) : Prop where
  /-- The region lies in the buffer. -/
  within : ∀ msg, (arenaMessageMalloc st.arena request).1 = some msg →
    Region.stop ⟨msg, messageRecord.sizeof + request⟩ ≤ arenaMessageBuf size
  /-- The region returned is aligned for a message. -/
  aligned : ∀ msg, (arenaMessageMalloc st.arena request).1 = some msg →
    (st.arena.bufAddr + msg) % messageRecord.alignof = 0
  /-- The region returned is disjoint from the ones before. -/
  disjoint : ∀ msg, (arenaMessageMalloc st.arena request).1 = some msg →
    ∀ r ∈ st.returned, Region.Disjoint ⟨msg, messageRecord.sizeof + request⟩ r
  /-- A call that returns no region leaves the arena as it is. -/
  refused : (arenaMessageMalloc st.arena request).1 = none →
    (arenaMessageMalloc st.arena request).2 = st.arena

/-- The calls of a run: the requests are to be right. -/
def MessageAction.RegionOk (size : ℕ) (st : ArenaState) : MessageAction → Prop
  | .malloc request => MessageMallocOk size st request
  | .read => True

/-- **The requests that miss the defects.** A request that passes the capacity test does so without its
sum wrapping around, and behind requests of even sizes only; and the size of the arena leaves room
for the fields in front of the buffer. -/
def MessageAction.Clean (st : ArenaState) : MessageAction → Prop
  | .malloc request => sizeT (st.arena.total messageRecord request) ≤ st.arena.size →
      st.arena.size + arenaHeader < 2 ^ 64 ∧ st.arena.total messageRecord request < 2 ^ 64 ∧
        ∀ r ∈ st.returned, r.len % 2 = 0
  | .read => True

/-- **The invariant of a message arena**: the cursor is behind the regions, and even as long as they
are. -/
structure MessageInv (size : ℕ) (st : ArenaState) : Prop where
  /-- The size is as it was set. -/
  size_eq : st.arena.size = size
  /-- The buffer is aligned for messages. -/
  aligned : st.arena.bufAddr % 4 = 0
  /-- The cursor is in the buffer. -/
  write_le : st.arena.write ≤ size
  /-- The regions are in front of it. -/
  below : Below st.returned st.arena.write
  /-- The cursor is even exactly behind regions of even lengths. -/
  even_iff : st.arena.write % 2 = 0 ↔ ∀ r ∈ st.returned, r.len % 2 = 0

namespace MessageInv

variable {size : ℕ} {st : ArenaState} {request : ℕ}

/-- The bytes that are skipped in front of a message align the cursor. -/
theorem alignment_eq (h : MessageInv size st) :
    st.arena.alignment messageRecord st.arena.write = st.arena.write % 4 := by
  have haligned := h.aligned
  rw [Arena.alignment, sizeT_eq]
  show (st.arena.bufAddr + st.arena.write) % 2 ^ 64 % 4 = _
  omega

/-- The sum that the capacity test of a message compares with the size. -/
theorem total_eq (h : MessageInv size st) (request : ℕ) :
    st.arena.total messageRecord request = st.arena.write + 8 + request + st.arena.write % 4 := by
  rw [Arena.total, h.alignment_eq]
  rfl

/-- A request that passes the capacity test is served behind the cursor. -/
theorem served (h : MessageInv size st)
    (hroom : sizeT (st.arena.total messageRecord request) ≤ st.arena.size) :
    (arenaMessageMalloc st.arena request).1 = some (sizeT (st.arena.write % 4 + st.arena.write)) ∧
      ∃ buf, (arenaMessageMalloc st.arena request).2
        = { st.arena with
            write := sizeT (st.arena.total messageRecord request)
            buf := buf } := by
  have hmalloc := arenaMalloc_of_le hroom
  obtain ⟨hfst, buf, hsnd⟩ := arenaMessageMalloc_eq st.arena request
  rw [hmalloc, h.alignment_eq] at hfst
  rw [hmalloc] at hsnd
  exact ⟨hfst, buf, hsnd⟩

/-- A request that does not pass it. -/
theorem refused (hfull : st.arena.size < sizeT (st.arena.total messageRecord request)) :
    arenaMessageMalloc st.arena request = (none, st.arena) := by
  rw [arenaMessageMalloc, arenaMalloc_of_gt hfull]

/-- A request that is refused is right. -/
theorem mallocOk_of_full (hfull : st.arena.size < sizeT (st.arena.total messageRecord request)) :
    MessageMallocOk size st request := by
  have hnone := refused hfull
  have hno : ∀ msg, (arenaMessageMalloc st.arena request).1 ≠ some msg := by
    intro msg hcon
    rw [hnone] at hcon
    cases hcon
  exact ⟨fun msg hcon => absurd hcon (hno msg), fun msg hcon => absurd hcon (hno msg),
    fun msg hcon => absurd hcon (hno msg), fun _ => congrArg Prod.snd hnone⟩

/-- **A region that is right** is in a buffer that was not cut, the sum did not wrap around, and the
cursor was even. -/
theorem of_mallocOk (h : MessageInv size st) (hsize : size < 2 ^ 64) {request : Size}
    (hroom : sizeT (st.arena.total messageRecord request) ≤ st.arena.size)
    (hok : MessageMallocOk size st request) :
    size + arenaHeader < 2 ^ 64 ∧ st.arena.total messageRecord request < 2 ^ 64 ∧
      st.arena.write % 2 = 0 := by
  obtain ⟨hmsg, -⟩ := h.served hroom
  have haligned := h.aligned
  have hle := h.write_le
  rw [h.total_eq request]
  have hwithin : sizeT (st.arena.write % 4 + st.arena.write) + (8 + request)
      ≤ arenaMessageBuf size := hok.within _ hmsg
  have halign : (st.arena.bufAddr + sizeT (st.arena.write % 4 + st.arena.write)) % 4 = 0 :=
    hok.aligned _ hmsg
  rw [arenaMessageBuf_eq hsize] at hwithin
  -- a wrapped block has no buffer at all
  have hheader : size + arenaHeader < 2 ^ 64 := by
    by_contra hcon
    rw [if_neg hcon] at hwithin
    omega
  have hroomy : size + 32 < 2 ^ 64 := hheader
  rw [if_pos hheader] at hwithin
  rw [sizeT_of_lt (by omega)] at hwithin halign
  refine ⟨hheader, ?_, ?_⟩ <;> omega

/-- **A region behind an even cursor**, of a sum that did not wrap around, is right. -/
theorem mallocOk (h : MessageInv size st) (hsize : size < 2 ^ 64) {request : Size}
    (hroom : sizeT (st.arena.total messageRecord request) ≤ st.arena.size)
    (hheader : size + arenaHeader < 2 ^ 64) (hlt : st.arena.total messageRecord request < 2 ^ 64)
    (heven : st.arena.write % 2 = 0) : MessageMallocOk size st request := by
  obtain ⟨hmsg, -⟩ := h.served hroom
  have haligned := h.aligned
  have htotal := h.total_eq request
  rw [h.size_eq, sizeT_of_lt hlt] at hroom
  have hoff : ∀ msg, (arenaMessageMalloc st.arena request).1 = some msg →
      msg = st.arena.write % 4 + st.arena.write := by
    intro msg hcon
    rw [hmsg, Option.some.injEq, sizeT_of_lt (by rw [htotal] at hlt; omega)] at hcon
    exact hcon.symm
  refine ⟨fun msg hcon => ?_, fun msg hcon => ?_, fun msg hcon => ?_, fun hcon => ?_⟩
  · rw [hoff msg hcon, arenaMessageBuf_eq hsize, if_pos hheader]
    show st.arena.write % 4 + st.arena.write + (8 + request) ≤ size
    omega
  · -- an even remainder is what is missing, too
    rw [hoff msg hcon]
    show (st.arena.bufAddr + (st.arena.write % 4 + st.arena.write)) % 4 = 0
    omega
  · rw [hoff msg hcon]
    exact h.below.disjoint (Nat.le_add_left _ _)
  · rw [hmsg] at hcon
    cases hcon

/-- **A request is right exactly when it is clean.** -/
theorem mallocOk_iff (h : MessageInv size st) (hsize : size < 2 ^ 64) (request : Size) :
    MessageMallocOk size st request ↔ (MessageAction.malloc request).Clean st := by
  rw [MessageAction.Clean, h.size_eq, ← h.even_iff]
  rcases Nat.lt_or_ge size (sizeT (st.arena.total messageRecord request)) with hfull | hroom
  · refine iff_of_true (mallocOk_of_full (h.size_eq.symm ▸ hfull)) fun hroom => ?_
    exact absurd hfull (Nat.not_lt.mpr hroom)
  · have hroom' := h.size_eq.symm ▸ hroom
    constructor
    · exact fun hok _ => h.of_mallocOk hsize hroom' hok
    · intro hclean
      obtain ⟨hheader, hlt, heven⟩ := hclean hroom
      exact h.mallocOk hsize hroom' hheader hlt heven

/-- **A clean request keeps the invariant.** -/
theorem malloc (h : MessageInv size st) {request : Size}
    (hclean : (MessageAction.malloc request).Clean st) {st' : ArenaState}
    (hstep : messageStep st (.malloc request) = some st') : MessageInv size st' := by
  rcases Nat.lt_or_ge st.arena.size (sizeT (st.arena.total messageRecord request)) with hfull | hroom
  · have hsame : st' = st := by
      rw [messageStep, refused hfull] at hstep
      exact (Option.some.inj hstep).symm.trans st.allocate_none
    exact hsame ▸ h
  · obtain ⟨hmsg, buf, hnext⟩ := h.served hroom
    obtain ⟨-, hlt, heven⟩ := hclean hroom
    rw [sizeT_of_lt hlt] at hnext hroom
    have htotal := h.total_eq request
    rw [sizeT_of_lt (by rw [htotal] at hlt; omega)] at hmsg
    have hstep' : st' = st.allocate
        { st.arena with write := st.arena.total messageRecord request, buf := buf }
        (some ⟨st.arena.write % 4 + st.arena.write, 8 + request⟩) := by
      rw [messageStep, hmsg, hnext] at hstep
      exact (Option.some.inj hstep).symm
    subst hstep'
    -- behind an even cursor two bytes are skipped, or none
    have hwrite := h.even_iff.mpr heven
    refine ⟨h.size_eq, h.aligned, h.size_eq ▸ hroom, ?_, ?_⟩
    · -- the cursor is moved to the end of the region
      have hpush := h.below.push (r := ⟨st.arena.write % 4 + st.arena.write, 8 + request⟩)
        (Nat.le_add_left _ _)
      show Below _ (st.arena.total messageRecord request)
      rw [htotal, show st.arena.write + 8 + request + st.arena.write % 4
        = st.arena.write % 4 + st.arena.write + (8 + request) by omega]
      exact hpush
    · show st.arena.total messageRecord request % 2 = 0 ↔
        ∀ r ∈ st.returned ++ [⟨st.arena.write % 4 + st.arena.write, 8 + request⟩], r.len % 2 = 0
      rw [List.forall_mem_append, and_iff_right heven, List.forall_mem_singleton, htotal]
      show _ ↔ (8 + (request : ℕ)) % 2 = 0
      omega

/-- A read leaves the cursor of `malloc` alone. -/
theorem read (h : MessageInv size st) {st' : ArenaState}
    (hstep : messageStep st .read = some st') : MessageInv size st' := by
  obtain rfl := Option.some.inj hstep
  obtain ⟨read, count, hread⟩ := arenaRead_frame messageRecord ureadU32 st.arena
  rw [arenaMessageRead, hread]
  exact ⟨h.size_eq, h.aligned, h.write_le, h.below, h.even_iff⟩

end MessageInv

/-- The invariant holds of a new message arena. -/
theorem messageStart_inv (size : Size) (block : Block messageRecord) :
    MessageInv size (messageStart size block) where
  size_eq := rfl
  aligned := block.aligned
  write_le := Nat.zero_le _
  below := below_nil 0
  even_iff := ⟨fun _ _ hr => absurd hr List.not_mem_nil, fun _ => rfl⟩

/-- **For which requests the regions are right**: in every run on a message arena of any size each request
gets a region of the buffer, aligned and disjoint from the others, or leaves the arena as it is,
exactly when all requests are clean. -/
theorem messageRun_regions_iff (size : Size) (block : Block messageRecord)
    (acts : List MessageAction) :
    Along messageStep (fun st a => a.RegionOk size st) (messageStart size block) acts ↔
      Along messageStep (fun st a => a.Clean st) (messageStart size block) acts := by
  refine along_iff (I := MessageInv size) ?_ ?_ (messageStart_inv size block) acts
  · intro st a st' h hclean hstep
    cases a with
    | malloc request => exact h.malloc hclean hstep
    | read => exact h.read hstep
  · intro st a h
    cases a with
    | malloc request => exact h.mallocOk_iff size.2 request
    | read => exact Iff.rfl

/-- **Behind a request of one byte** the next message is at an address that is not aligned. -/
theorem not_messageRun_regions :
    ¬∀ (size : Size) (block : Block messageRecord) (acts : List MessageAction),
      Along messageStep (fun st a => a.RegionOk size st) (messageStart size block) acts := by
  intro hall
  let block : Block messageRecord := ⟨0, fun _ => 0, rfl⟩
  have hrun := hall ⟨64, by decide⟩ block [.malloc ⟨1, by decide⟩, .malloc ⟨0, by decide⟩]
  have hsecond : MessageMallocOk 64 _ 0 := (hrun.2 _ rfl).1
  have haligned := hsecond.aligned 10 (by decide +kernel)
  exact absurd haligned (by decide +kernel)

/-! ## (2) Events -/

/-- **What a request is to do**: an event that is returned lies in the block that was allocated, behind the
fields in front of the buffer, and is disjoint from the events returned since the last reset. -/
def EventAction.RegionOk (size : ℕ) (st : ArenaState) : EventAction → Prop
  | .malloc => ∀ ev, (arenaEventMalloc st.arena).1 = some ev →
      arenaHeader + ev + eventRecord.sizeof ≤ arenaEventRequest size ∧
        ∀ r ∈ st.returned, Region.Disjoint ⟨ev, eventRecord.sizeof⟩ r
  | .read | .reset => True

/-- The largest number of `malloc`s without a `reset` between them; `n` were made before. -/
def mallocPeak (n : ℕ) : List EventAction → ℕ
  | [] => n
  | .malloc :: acts => mallocPeak (n + 1) acts
  | .read :: acts => mallocPeak n acts
  | .reset :: acts => max n (mallocPeak 0 acts)

/-- The size is none for which the capacity test matters. -/
def RoomyRest (size : ℕ) : Prop :=
  size < eventRecord.sizeof ∨ arenaHeader ≤ size % eventRecord.sizeof

/-- **The events that are in the block**: all of them, or those that leave room for one more. -/
def EventAction.Clean (size : ℕ) (st : ArenaState) : EventAction → Prop
  | .malloc => RoomyRest size ∨ st.returned.length + 1 < size / eventRecord.sizeof
  | .read | .reset => True

/-- **The invariant of an event arena**: the events are in front of the cursor, one behind the other, and
all of them were clean. -/
structure EventInv (size : ℕ) (st : ArenaState) : Prop where
  /-- The size is as it was set. -/
  size_eq : st.arena.size = size
  /-- The buffer is aligned for events. -/
  aligned : st.arena.bufAddr % 8 = 0
  /-- The cursor counts the events: each takes 56 bytes. -/
  write_eq : st.arena.write = 56 * st.returned.length
  /-- The events are in front of it. -/
  below : Below st.returned st.arena.write
  /-- The events returned fit in the buffer. -/
  length_le : st.returned.length ≤ size / 56
  /-- There is room for one more, unless the size is harmless. -/
  clean : RoomyRest size ∨ st.returned.length < size / 56

namespace EventInv

variable {size : ℕ} {st st' : ArenaState}

/-- Nothing is skipped in front of an event. -/
theorem alignment_eq (h : EventInv size st) :
    st.arena.alignment eventRecord st.arena.write = 0 := by
  have haligned := h.aligned
  have hwrite := h.write_eq
  rw [Arena.alignment, sizeT_eq]
  show (st.arena.bufAddr + st.arena.write) % 2 ^ 64 % 8 = 0
  omega

/-- The sum that the capacity test of an event compares with the size. -/
theorem total_eq (h : EventInv size st) :
    st.arena.total eventRecord 0 = 56 * st.returned.length + 56 := by
  rw [Arena.total, h.alignment_eq, h.write_eq]
  rfl

/-- **There is room for another event**, which is served at the cursor. -/
theorem served (h : EventInv size st) (hsize : size < 2 ^ 64)
    (hroom : st.returned.length < size / 56) :
    arenaEventMalloc st.arena = (some (56 * st.returned.length),
      { st.arena with write := 56 * st.returned.length + 56 }) := by
  have htotal := h.total_eq
  have hle : sizeT (st.arena.total eventRecord 0) ≤ st.arena.size := by
    rw [htotal, h.size_eq, sizeT_of_lt (by omega)]
    omega
  rw [arenaEventMalloc, arenaMalloc_of_le hle, h.alignment_eq, htotal, Nat.zero_add, h.write_eq,
    sizeT_of_lt (by omega), sizeT_of_lt (by omega)]

/-- **The buffer is full.** The sum of the capacity test would wrap around only for sizes that are not
harmless, and then an earlier event was not clean. -/
theorem refused (h : EventInv size st) (hsize : size < 2 ^ 64)
    (hfull : ¬st.returned.length < size / 56) :
    RoomyRest size ∧ arenaEventMalloc st.arena = (none, st.arena) := by
  have hroomy := h.clean.resolve_right hfull
  have hle := h.length_le
  refine ⟨hroomy, arenaMalloc_of_gt ?_⟩
  have hrest : size < 56 ∨ 32 ≤ size % 56 := hroomy
  rw [h.total_eq, h.size_eq, sizeT_of_lt (by omega)]
  omega

/-- **An event is right exactly when it is clean.** -/
theorem regionOk_iff (h : EventInv size st) (hsize : size < 2 ^ 64) :
    EventAction.malloc.RegionOk size st ↔ EventAction.malloc.Clean size st := by
  rw [EventAction.RegionOk, EventAction.Clean]
  by_cases hroom : st.returned.length < size / 56
  · have hrest : RoomyRest size ↔ size < 56 ∨ 32 ≤ size % 56 := Iff.rfl
    rw [h.served hsize hroom, hrest]
    constructor
    · intro hok
      have hwithin : 32 + 56 * st.returned.length + 56 ≤ size := (hok _ rfl).1
      show _ ∨ st.returned.length + 1 < size / 56
      omega
    · rintro hclean ev ⟨⟩
      refine ⟨?_, h.below.disjoint (Nat.le_of_eq h.write_eq)⟩
      show 32 + 56 * st.returned.length + 56 ≤ size
      have hclean : (size < 56 ∨ 32 ≤ size % 56) ∨ st.returned.length + 1 < size / 56 := hclean
      omega
  · obtain ⟨hroomy, hnone⟩ := h.refused hsize hroom
    rw [hnone]
    refine iff_of_true ?_ (Or.inl hroomy)
    rintro ev ⟨⟩

/-- **A clean `malloc` keeps the invariant**; it counts its event, or the size is harmless. -/
theorem malloc (h : EventInv size st) (hsize : size < 2 ^ 64)
    (hclean : EventAction.malloc.Clean size st) (hstep : eventStep st .malloc = some st') :
    EventInv size st' ∧ (RoomyRest size ∨ st'.returned.length = st.returned.length + 1) := by
  by_cases hroom : st.returned.length < size / 56
  · have hstep' : st' = st.allocate { st.arena with write := 56 * st.returned.length + 56 }
        (some ⟨56 * st.returned.length, 56⟩) := by
      rw [eventStep, h.served hsize hroom] at hstep
      exact (Option.some.inj hstep).symm
    subst hstep'
    have hlen : (st.returned ++ [Region.mk (56 * st.returned.length) 56]).length
        = st.returned.length + 1 := List.length_append
    refine ⟨⟨h.size_eq, h.aligned, ?_, ?_, ?_, ?_⟩, Or.inr hlen⟩
    · show 56 * st.returned.length + 56 = 56 * (st.returned ++ [_]).length
      rw [hlen]
      omega
    · exact h.below.push (r := ⟨56 * st.returned.length, 56⟩) (Nat.le_of_eq h.write_eq)
    · show (st.returned ++ [_]).length ≤ size / 56
      rw [hlen]
      exact hroom
    · show RoomyRest size ∨ (st.returned ++ [_]).length < size / 56
      rw [hlen]
      exact hclean
  · obtain ⟨hroomy, hnone⟩ := h.refused hsize hroom
    have hsame : st' = st := by
      rw [eventStep, hnone] at hstep
      exact (Option.some.inj hstep).symm.trans st.allocate_none
    exact ⟨hsame ▸ h, Or.inl hroomy⟩

/-- A read leaves the cursor of `malloc` alone. -/
theorem read (h : EventInv size st) (hstep : eventStep st .read = some st') :
    EventInv size st' ∧ st'.returned = st.returned := by
  obtain rfl := Option.some.inj hstep
  obtain ⟨read, count, hread⟩ := arenaRead_frame eventRecord (fun _ _ => 0) st.arena
  rw [arenaEventRead, hread]
  exact ⟨⟨h.size_eq, h.aligned, h.write_eq, h.below, h.length_le, h.clean⟩, rfl⟩

/-- The invariant holds of an arena without events. -/
theorem empty (hsize : st.arena.size = size) (haligned : st.arena.bufAddr % 8 = 0)
    (hwrite : st.arena.write = 0) (hreturned : st.returned = []) : EventInv size st := by
  refine ⟨hsize, haligned, ?_, ?_, ?_, ?_⟩
  · rw [hwrite, hreturned]
    rfl
  · rw [hreturned]
    exact below_nil _
  · rw [hreturned]
    exact Nat.zero_le _
  · rw [hreturned]
    show (size < 56 ∨ 32 ≤ size % 56) ∨ 0 < size / 56
    omega

/-- A reset forgets the events and keeps the invariant. -/
theorem reset (h : EventInv size st) (hstep : eventStep st .reset = some st') :
    EventInv size st' ∧ st'.returned = [] := by
  obtain rfl := Option.some.inj hstep
  exact ⟨empty h.size_eq h.aligned rfl rfl, rfl⟩

end EventInv

/-- The peak is at least the number there is at the start. -/
theorem le_mallocPeak (n : ℕ) (acts : List EventAction) : n ≤ mallocPeak n acts := by
  induction acts generalizing n with
  | nil => exact Nat.le_refl n
  | cons a acts ih =>
      cases a with
      | malloc => exact Nat.le_trans (Nat.le_succ n) (ih (n + 1))
      | read => exact ih n
      | reset => exact Nat.le_max_left n _

/-- **All `malloc`s of a run are clean** exactly when the size is harmless or there are too few of them
in a row. -/
theorem along_clean_iff {size : ℕ} (hsize : size < 2 ^ 64) {st : ArenaState}
    (h : EventInv size st) (acts : List EventAction) :
    Along eventStep (fun st a => a.Clean size st) st acts ↔
      RoomyRest size ∨ mallocPeak st.returned.length acts < size / eventRecord.sizeof := by
  induction acts generalizing st with
  | nil => exact iff_of_true trivial h.clean
  | cons a acts ih =>
      cases a with
      | malloc =>
          by_cases hclean : EventAction.malloc.Clean size st
          · obtain ⟨h', hlen⟩ := h.malloc hsize hclean rfl
            rw [along_cons_of_step rfl, and_iff_right hclean, ih h', mallocPeak]
            rcases hlen with hroomy | hlen
            · exact iff_of_true (Or.inl hroomy) (Or.inl hroomy)
            · rw [hlen]
          · -- the run breaks here, and the peak is no less than what was allocated
            have hpeak := le_mallocPeak (st.returned.length + 1) acts
            refine iff_of_false (fun hcon => hclean hcon.1) ?_
            rintro (hroomy | hlt)
            · exact hclean (Or.inl hroomy)
            · exact hclean (Or.inr (Nat.lt_of_le_of_lt hpeak hlt))
      | read =>
          obtain ⟨h', hreturned⟩ := h.read rfl
          have hclean : EventAction.read.Clean size st := trivial
          rw [along_cons_of_step rfl, and_iff_right hclean, ih h', hreturned, mallocPeak]
      | reset =>
          obtain ⟨h', hreturned⟩ := h.reset rfl
          have hclean : EventAction.reset.Clean size st := trivial
          rw [along_cons_of_step rfl, and_iff_right hclean, ih h', hreturned, mallocPeak,
            List.length_nil, Nat.max_lt]
          -- what was allocated before the reset was clean
          have hbefore := h.clean
          constructor
          · rintro (hroomy | hlt)
            · exact Or.inl hroomy
            · exact hbefore.imp id fun hlt' => ⟨hlt', hlt⟩
          · exact Or.imp id And.right

/-- **For which sizes the events are in the block**: in every run on an event arena all events returned
lie in the block that was allocated, and are disjoint from those since the last reset, exactly when
the size is below that of an event, or leaves a rest of 32 bytes or more when it is divided by it,
or fewer events are allocated in a row than the size is worth. -/
theorem eventRun_regions_iff (size : Size) (block : Block eventRecord) (acts : List EventAction) :
    Along eventStep (fun st a => a.RegionOk size st) (eventStart size block) acts ↔
      (size : ℕ) < eventRecord.sizeof ∨ arenaHeader ≤ size % eventRecord.sizeof ∨
        mallocPeak 0 acts < size / eventRecord.sizeof := by
  have hstart : EventInv size (eventStart size block) := .empty rfl block.aligned rfl rfl
  rw [← or_assoc]
  refine Iff.trans (along_iff (I := EventInv size) ?_ ?_ hstart acts)
    (along_clean_iff size.2 hstart acts)
  · intro st a st' h hclean hstep
    cases a with
    | malloc => exact (h.malloc size.2 hclean hstep).1
    | read => exact (h.read hstep).1
    | reset => exact (h.reset hstep).1
  · intro st a h
    cases a with
    | malloc => exact h.regionOk_iff size.2
    | read => exact Iff.rfl
    | reset => exact Iff.rfl

/-- **An arena of 56 bytes** has room for the fields and 24 bytes of an event. -/
theorem not_eventRun_regions :
    ¬∀ (size : Size) (block : Block eventRecord) (acts : List EventAction),
      Along eventStep (fun st a => a.RegionOk size st) (eventStart size block) acts := by
  intro hall
  have hrun := hall ⟨56, by decide⟩ ⟨0, fun _ => 0, rfl⟩ [.malloc]
  have hwithin := (hrun.1 0 (by decide +kernel)).1
  exact absurd hwithin (by decide)

end Ezgrpc2
