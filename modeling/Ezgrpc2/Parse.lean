import Ezgrpc2.Message

/-! # `parse_grpc_message`

The parser of the receive buffer. It keeps two cursors, `seek` and `lseek`; both are moved past a
header, neither is moved past the payload behind it. So a round of its loop reads the frame at
`seek` and goes on five bytes later, which is what the `Reader` `headerReader` does
(`parseLoop_eq`). `parseGrpcMessage_parsesFrames_iff` compares this with the longest frame prefix of
the buffer: they agree exactly on the buffers whose complete frames are all empty. -/

namespace Ezgrpc2

open FlatMemory Framing

/-! ## (1) The code -/

/-- The `while` loop of `parse_grpc_message`. `*messages` is `none` as long as nothing was stored
there; `size_t` sums of in-bounds offsets and a `u32` do not wrap. -/
def parseLoop (wire : ℕ → UInt8) (len seek lseek : ℕ) (messages : Option (List Message)) :
    ℕ × Option (List Message) :=
  if seek < len then
    if seek + 5 > len then (lseek, messages)
    else
      let cflag := wire seek
      let msgLen := ntohl (ureadU32 wire (seek + 1))
      let msgData := seek + 5
      if msgData + msgLen > len then (lseek, messages)
      else
        -- `lseek = seek` and the next round both start at the payload just stored
        parseLoop wire len msgData msgData
          (messages.map (· ++ [messageNew cflag (slice wire msgData msgLen)]))
  else (lseek, messages)
termination_by len - seek

/-- `parse_grpc_message` on the `len` bytes at `wire`: the value returned, and `*messages` when the
function stored a list there. The sum in the quick check is a `uint32_t`. -/
def parseGrpcMessage (wire : ℕ → UInt8) (len : ℕ) : ℕ × Option (List Message) :=
  if len < 4 then (0, none)
  else
    let messages := if len ≥ (ntohl (ureadU32 wire 1) + 5) % 2 ^ 32 then some [] else none
    parseLoop wire len 0 0 messages

/-! ## (2) The code as a reader

`headerReader` finds the frame `grpcFrame` finds and moves past its header only. -/

/-- **The reader `parse_grpc_message` runs**: the frame at the head, a step of five bytes. -/
def headerReader : Reader UInt8 Frame where
  read w := (readFrame w).map fun p => (p.1, 5)
  step_pos h := by
    obtain ⟨⟨f, k⟩, hread, heq⟩ := Option.map_eq_some_iff.mp h
    obtain ⟨b₀, b₁, b₂, b₃, rest, rfl, -, -⟩ := readFrame_eq_some hread
    simp only [Prod.mk.injEq] at heq
    simp only [List.length_cons]
    omega
  stable v h := by
    obtain ⟨⟨f, k⟩, hread, heq⟩ := Option.map_eq_some_iff.mp h
    have hst := grpcFrame.stable v hread
    rw [grpcFrame_read] at hst
    rw [hst, Option.map_some, heq]

theorem headerReader_read (w : Bytes) :
    headerReader.read w = (readFrame w).map fun p => (p.1, 5) := rfl

/-- A slice of at least five bytes is a header and the bytes behind it. -/
theorem slice_header (wire : ℕ → UInt8) (seek n : ℕ) :
    slice wire seek (n + 5) = wire seek :: wire (seek + 1) :: wire (seek + 2) :: wire (seek + 3) ::
      wire (seek + 4) :: slice wire (seek + 5) n := by
  rw [slice_succ, slice_succ, slice_succ, slice_succ, slice_succ]

/-- **One round of the loop**, on the unread bytes: stop where no frame is complete, else read the
frame and go on behind its header. -/
theorem readFrame_slice (wire : ℕ → UInt8) {seek len : ℕ} (hseek : seek ≤ len) :
    readFrame (slice wire seek (len - seek)) =
      if h : seek + 5 + ntohl (ureadU32 wire (seek + 1)) ≤ len then
        some (⟨wire seek, slice wire (seek + 5) (ntohl (ureadU32 wire (seek + 1))), by
          rw [length_slice, ntohl_ureadU32]; exact be32_lt _ _ _ _⟩,
          5 + ntohl (ureadU32 wire (seek + 1)))
      else none := by
  by_cases h5 : len - seek < 5
  · rw [readFrame_of_length_lt (by rw [length_slice]; exact h5), dif_neg (by omega)]
  · obtain ⟨n, hn⟩ : ∃ n, len - seek = n + 5 := ⟨len - seek - 5, by omega⟩
    have hL := (ntohl_ureadU32 wire (seek + 1)).symm
    rw [hn, slice_header]
    by_cases hle : seek + 5 + ntohl (ureadU32 wire (seek + 1)) ≤ len
    · have htake := take_slice wire (seek + 5) n (ntohl (ureadU32 wire (seek + 1))) (by omega)
      have hread := readFrame_of_le (wire seek) (slice wire (seek + 5) n) hL
        (by rw [length_slice]; omega) (by
          rw [htake, length_slice, ntohl_ureadU32]; exact be32_lt _ _ _ _)
      rw [dif_pos hle, hread]
      simp only [htake]
    · rw [dif_neg hle, readFrame_of_lt (by rw [length_slice, hL]; omega)]

/-- The loop stops at a header that is cut or whose payload is. -/
theorem parseLoop_of_cut (wire : ℕ → UInt8) {len seek : ℕ} (lseek : ℕ)
    (messages : Option (List Message))
    (h : ¬seek + 5 + ntohl (ureadU32 wire (seek + 1)) ≤ len) :
    parseLoop wire len seek lseek messages = (lseek, messages) := by
  rw [parseLoop]
  by_cases hlt : seek < len
  · rw [if_pos hlt]
    by_cases h5 : seek + 5 > len
    · rw [if_pos h5]
    · rw [if_neg h5, if_pos (Nat.lt_of_not_le h)]
  · rw [if_neg hlt]

/-- The loop stores the message of a complete frame and goes on behind its header. -/
theorem parseLoop_of_frame (wire : ℕ → UInt8) {len seek : ℕ} (lseek : ℕ)
    (messages : Option (List Message))
    (h : seek + 5 + ntohl (ureadU32 wire (seek + 1)) ≤ len) :
    parseLoop wire len seek lseek messages =
      parseLoop wire len (seek + 5) (seek + 5) (messages.map (· ++ [messageNew (wire seek)
        (slice wire (seek + 5) (ntohl (ureadU32 wire (seek + 1))))])) := by
  rw [parseLoop, if_pos (by omega), if_neg (by omega), if_neg (by omega)]

/-- **The loop runs `headerReader`.** From a cursor inside the buffer it appends the messages of the
frames `headerReader` finds in the unread bytes, and returns the offset behind the last header, or
the `lseek` it was given when there is none. -/
theorem parseLoop_eq (wire : ℕ → UInt8) (len : ℕ) :
    ∀ (n seek lseek : ℕ) (messages : Option (List Message)) (fs : List Frame),
      len - seek = n → seek ≤ len → (headerReader.parse (slice wire seek n)).1 = fs →
      parseLoop wire len seek lseek messages =
        (if fs = [] then lseek else seek + 5 * fs.length,
          messages.map (· ++ fs.map Frame.message)) := by
  intro n
  induction n using Nat.strongRecOn with
  | ind n ih =>
    rintro seek lseek messages fs rfl hseek rfl
    have hread := headerReader_read (slice wire seek (len - seek))
    rw [readFrame_slice wire hseek] at hread
    by_cases hle : seek + 5 + ntohl (ureadU32 wire (seek + 1)) ≤ len
    · -- a complete frame: the rest of the run is the one from behind its header
      rw [dif_pos hle, Option.map_some] at hread
      rw [parseLoop_of_frame wire lseek messages hle, headerReader.parse_of_some hread,
        drop_slice wire seek (len - seek) 5 (by omega)]
      -- the induction is on the bytes left, and a header takes five of them
      generalize hgs : (headerReader.parse (slice wire (seek + 5) (len - seek - 5))).1 = gs
      rw [ih (len - seek - 5) (by omega) (seek + 5) _ _ gs (by omega) (by omega) hgs]
      simp only [reduceCtorEq, if_false, List.length_cons, List.map_cons, Option.map_map,
        Prod.mk.injEq]
      constructor
      · by_cases hnil : gs = []
        · rw [if_pos hnil, hnil, List.length_nil]
        · rw [if_neg hnil]
          omega
      · congr 1
        funext ms
        simp only [Function.comp_apply, Frame.message, List.append_assoc, List.cons_append,
          List.nil_append]
    · rw [dif_neg hle, Option.map_none] at hread
      rw [parseLoop_of_cut wire lseek messages hle, headerReader.parse_of_none hread]
      simp

/-- **What `parse_grpc_message` computes**: with `fs` the frames `headerReader` finds, five bytes
for each of them, and their messages when there are any. -/
theorem parseGrpcMessage_eq (wire : ℕ → UInt8) (len : ℕ) (fs : List Frame)
    (hfs : (headerReader.parse (slice wire 0 len)).1 = fs) :
    (parseGrpcMessage wire len).1 = 5 * fs.length ∧
      (fs ≠ [] → (parseGrpcMessage wire len).2 = some (fs.map Frame.message)) := by
  have hread := headerReader_read (slice wire 0 len)
  by_cases h4 : len < 4
  · rw [readFrame_of_length_lt (by rw [length_slice]; omega), Option.map_none] at hread
    rw [headerReader.parse_of_none hread] at hfs
    subst hfs
    rw [parseGrpcMessage, if_pos h4]
    exact ⟨rfl, fun h => absurd rfl h⟩
  · rw [parseGrpcMessage, if_neg h4]
    simp only
    rw [parseLoop_eq wire len len 0 0 _ fs (Nat.sub_zero len) (Nat.zero_le _) hfs]
    refine ⟨?_, fun hne => ?_⟩
    · by_cases hnil : fs = []
      · rw [if_pos hnil, hnil, List.length_nil]
      · rw [if_neg hnil, Nat.zero_add]
    · -- a frame was found, so the first length fits and the quick check stored a list
      have hfits : 0 + 5 + ntohl (ureadU32 wire (0 + 1)) ≤ len := by
        by_contra hcon
        have hslice := readFrame_slice wire (Nat.zero_le len)
        rw [Nat.sub_zero, dif_neg hcon] at hslice
        rw [hslice, Option.map_none] at hread
        rw [headerReader.parse_of_none hread] at hfs
        exact hne hfs.symm
      rw [Nat.zero_add, Nat.zero_add] at hfits
      have hquick : len ≥ (ntohl (ureadU32 wire 1) + 5) % 2 ^ 32 :=
        Nat.le_trans (Nat.mod_le _ _) (by omega)
      rw [if_pos hquick, Option.map_some, List.nil_append]

/-! ## (3) Against the wire format -/

/-- **The contract of the parser**: the value returned is the length of the longest prefix of `w`
that is a concatenation of complete frames, and when it is not zero `*messages` holds the
`(flag, payload)` pairs of those frames in order. -/
def ParsesFrames (w : Bytes) (res : ℕ × Option (List Message)) : Prop :=
  ∃ fs, grpcFrame.LongestPrefix w fs ∧ res.1 = (grpcFrame.encAll fs).length ∧
    (res.1 ≠ 0 → res.2.map (·.map Message.frame) = some fs)

/-- The contract on a stream that is cut inside a frame: the frames in front of the cut are parsed
and exactly their encodings are consumed. -/
theorem ParsesFrames.of_cut {fs : List Frame} {p : Bytes} {f : Frame}
    {res : ℕ × Option (List Message)} (hpre : p <+: encFrame f) (hne : p ≠ encFrame f)
    (h : ParsesFrames (grpcFrame.encAll fs ++ p) res) :
    res.1 = (grpcFrame.encAll fs).length ∧
      (res.1 ≠ 0 → res.2.map (·.map Message.frame) = some fs) := by
  obtain ⟨gs, hgs, hlen, hpairs⟩ := h
  have hfs := grpcFrame.longestPrefix_encAll_append fs (grpcFrame.read_of_prefix hpre hne)
  obtain rfl : fs = gs := by
    rw [grpcFrame.longestPrefix_iff.mp hfs, grpcFrame.longestPrefix_iff.mp hgs]
  exact ⟨hlen, hpairs⟩

/-- The bytes of a list of frames: five for each and the payloads. -/
theorem length_encAll_grpcFrame (fs : List Frame) :
    (grpcFrame.encAll fs).length = 5 * fs.length + (fs.map (·.payload.length)).sum := by
  induction fs with
  | nil => rfl
  | cons f fs ih =>
      rw [grpcFrame.encAll_cons, List.length_append, ih, grpcFrame_enc, length_encFrame,
        List.map_cons, List.sum_cons, List.length_cons]
      omega

/-- **On empty frames the two readers agree**: where every frame of a parse is empty, reading past
the headers only is reading past the frames. -/
theorem headerReader_parse_of_empty (w : Bytes)
    (h : ∀ f ∈ (grpcFrame.parse w).1, f.payload = []) :
    headerReader.parse w = grpcFrame.parse w := by
  induction w using grpcFrame.parse_induction with
  | stop w hnone =>
      have hread := headerReader_read w
      rw [grpcFrame_read] at hnone
      rw [hnone, Option.map_none] at hread
      rw [headerReader.parse_of_none hread, grpcFrame.parse_of_none (by rw [grpcFrame_read, hnone])]
  | frame w f k hsome ih =>
      have hread := headerReader_read w
      have hparse := grpcFrame.parse_of_some hsome
      have hk := grpcFrame.step_eq_length hsome
      rw [grpcFrame_read] at hsome
      rw [hparse] at h ⊢
      have hf : f.payload = [] := h f List.mem_cons_self
      rw [grpcFrame_enc, length_encFrame, hf, List.length_nil] at hk
      subst hk
      rw [hsome, Option.map_some] at hread
      rw [headerReader.parse_of_some hread,
        ih fun g hg => h g (List.mem_cons_of_mem f hg)]

/-- **When `parse_grpc_message` meets its contract**: exactly on the buffers all of whose complete
frames have an empty payload. -/
theorem parseGrpcMessage_parsesFrames_iff (wire : ℕ → UInt8) (len : ℕ) :
    ParsesFrames (slice wire 0 len) (parseGrpcMessage wire len) ↔
      ∀ fs, grpcFrame.LongestPrefix (slice wire 0 len) fs → ∀ f ∈ fs, f.payload = [] := by
  obtain ⟨hret, hmsgs⟩ := parseGrpcMessage_eq wire len _ rfl
  generalize slice wire 0 len = w at *
  constructor
  · rintro ⟨fs, hfs, hlen, hpairs⟩ gs hgs f hf
    obtain rfl : gs = fs := by
      rw [grpcFrame.longestPrefix_iff.mp hgs, grpcFrame.longestPrefix_iff.mp hfs]
    rw [length_encAll_grpcFrame, hret] at hlen
    -- both lists have the same length, so the payloads add up to nothing
    have hcount : (headerReader.parse w).1.length = gs.length := by
      by_cases hnil : (headerReader.parse w).1 = []
      · rw [hnil, List.length_nil] at hlen ⊢
        omega
      · have hpos := List.length_pos_iff.mpr hnil
        have hsome := hpairs (by omega)
        rw [hmsgs hnil, Option.map_some, Option.some.injEq, List.map_map] at hsome
        rw [← hsome, List.length_map]
    have hsum : (gs.map (·.payload.length)).sum = 0 := by omega
    have hzero := List.sum_eq_zero_iff_forall_eq_nat.mp hsum _ (List.mem_map_of_mem hf)
    exact List.length_eq_zero_iff.mp hzero
  · intro hempty
    have hlongest := grpcFrame.longestPrefix_iff.mpr (rfl : (grpcFrame.parse w).1 = _)
    have hpay := hempty _ hlongest
    have heq := headerReader_parse_of_empty w hpay
    refine ⟨_, hlongest, ?_, fun hne => ?_⟩
    · have hsum : ((grpcFrame.parse w).1.map (·.payload.length)).sum = 0 := by
        apply List.sum_eq_zero_iff_forall_eq_nat.mpr
        intro n hn
        obtain ⟨f, hf, rfl⟩ := List.mem_map.mp hn
        rw [hpay f hf, List.length_nil]
      rw [hret, length_encAll_grpcFrame, hsum, heq, Nat.add_zero]
    · have hnil : (headerReader.parse w).1 ≠ [] := by
        intro hnil
        rw [hret, hnil] at hne
        exact hne rfl
      rw [hmsgs hnil, Option.map_some, List.map_map, heq]
      simp [Function.comp_def]

/-- One message with the payload `[1]`: the parser consumes the five header bytes of the six. -/
theorem parseGrpcMessage_not_parsesFrames :
    ¬ParsesFrames [0, 0, 0, 0, 1, 1]
      (parseGrpcMessage (fun i => [0, 0, 0, 0, 1, 1].getD i 0) 6) := by
  rintro ⟨fs, hfs, hlen, -⟩
  have hread : grpcFrame.read [0, 0, 0, 0, 1, 1] = some (⟨0, [1], by decide⟩, 6) := by
    decide
  have hstop : grpcFrame.read [] = none := by decide
  rw [grpcFrame.longestPrefix_iff, grpcFrame.parse_of_some hread] at hfs
  simp only [List.drop_succ_cons, List.drop_zero, grpcFrame.parse_of_none hstop] at hfs
  have hret := (parseGrpcMessage_eq (fun i => [0, 0, 0, 0, 1, 1].getD i 0) 6 _ rfl).1
  have hslice : slice (fun i => ([0, 0, 0, 0, 1, 1] : Bytes).getD i 0) 0 6 = [0, 0, 0, 0, 1, 1] :=
    rfl
  have hhead : headerReader.read [0, 0, 0, 0, 1, 1] = some (⟨0, [1], by decide⟩, 5) := by
    decide
  have hhead' : headerReader.read [1] = none := by decide
  rw [hslice, headerReader.parse_of_some hhead] at hret
  simp only [List.drop_succ_cons, List.drop_zero, headerReader.parse_of_none hhead'] at hret
  rw [hret, hfs] at hlen
  exact absurd hlen (by decide)

end Ezgrpc2
