import Ezgrpc2.StreamRegistry

/-! # The bounds of the receive buffer

`parse_grpc_message` gets a buffer and a length, and what it reads must lie in front of that length.
`parseGrpcMessageReads` is the parser with the offsets it reads: the guard of its quick check lets a
buffer of four bytes through, whose fifth byte it then reads. The quick check also adds in 32 bits,
so that it disagrees with the loop on lengths near `2 ^ 32`; and what the parser leaves is moved to
the front by a `memcpy` whose ranges overlap as soon as more is left than was read. -/

namespace Ezgrpc2

open FlatMemory StepRuns

/-! ## (1) What is read -/

/-- The offsets that `uread_u32` reads at an offset. -/
def ureadU32Reads (p : ℕ) : List ℕ := [p, p + 1, p + 2, p + 3]

/-- `parseLoop` with the offsets read so far: those of a header, and those of a payload that is handed
to `ezgrpc2_message_new`. -/
def parseLoopReads (wire : ℕ → UInt8) (len seek lseek : ℕ) (messages : Option (List Message))
    (reads : List ℕ) : (ℕ × Option (List Message)) × List ℕ :=
  if seek < len then
    if seek + 5 > len then ((lseek, messages), reads)
    else
      let cflag := wire seek
      let msgLen := ntohl (ureadU32 wire (seek + 1))
      let reads := reads ++ seek :: ureadU32Reads (seek + 1)
      let msgData := seek + 5
      if msgData + msgLen > len then ((lseek, messages), reads)
      else
        parseLoopReads wire len msgData msgData
          (messages.map (· ++ [messageNew cflag (slice wire msgData msgLen)]))
          (reads ++ List.range' msgData msgLen)
  else ((lseek, messages), reads)
termination_by len - seek

/-- `parse_grpc_message` with the offsets it reads. -/
def parseGrpcMessageReads (wire : ℕ → UInt8) (len : ℕ) :
    (ℕ × Option (List Message)) × List ℕ :=
  if len < 4 then ((0, none), [])
  else
    let messages := if len ≥ (ntohl (ureadU32 wire 1) + 5) % 2 ^ 32 then some [] else none
    parseLoopReads wire len 0 0 messages (ureadU32Reads 1)

/-- Without the offsets this is the loop. -/
theorem parseLoopReads_fst (wire : ℕ → UInt8) (len seek lseek : ℕ)
    (messages : Option (List Message)) (reads : List ℕ) :
    (parseLoopReads wire len seek lseek messages reads).1
      = parseLoop wire len seek lseek messages := by
  fun_induction parseLoopReads wire len seek lseek messages reads with
  | case1 seek lseek messages reads hlt hcut => rw [parseLoop, if_pos hlt, if_pos hcut]
  | case2 seek lseek messages reads hlt hcut msgLen reads' msgData hlong =>
      rw [parseLoop, if_pos hlt, if_neg hcut, if_pos hlong]
  | case3 seek lseek messages reads hlt hcut cflag msgLen reads' msgData hfits ih =>
      rw [parseLoop, if_pos hlt, if_neg hcut, if_neg hfits, ih]
  | case4 seek lseek messages reads hle => rw [parseLoop, if_neg hle]

/-- **The reads are those of the parser.** -/
theorem parseGrpcMessageReads_fst (wire : ℕ → UInt8) (len : ℕ) :
    (parseGrpcMessageReads wire len).1 = parseGrpcMessage wire len := by
  by_cases h : len < 4
  · rw [parseGrpcMessageReads, parseGrpcMessage, if_pos h, if_pos h]
  · rw [parseGrpcMessageReads, parseGrpcMessage, if_neg h, if_neg h]
    exact parseLoopReads_fst _ _ _ _ _ _

/-- **The loop reads in front of `len` only**, and its cursor does not leave the buffer. -/
theorem parseLoopReads_lt {wire : ℕ → UInt8} {len seek lseek : ℕ}
    {messages : Option (List Message)} {reads : List ℕ} (hreads : ∀ i ∈ reads, i < len)
    (hlseek : lseek ≤ len) :
    (∀ i ∈ (parseLoopReads wire len seek lseek messages reads).2, i < len) ∧
      (parseLoopReads wire len seek lseek messages reads).1.1 ≤ len := by
  -- the header that the loop reads in a round
  have hheader : ∀ {seek : ℕ} {reads : List ℕ}, (∀ i ∈ reads, i < len) → ¬seek + 5 > len →
      ∀ i ∈ reads ++ seek :: ureadU32Reads (seek + 1), i < len := by
    intro seek reads hreads hcut i hi
    simp only [ureadU32Reads, List.mem_append, List.mem_cons, List.not_mem_nil, or_false] at hi
    rcases hi with hi | hi
    · exact hreads i hi
    · omega
  fun_induction parseLoopReads wire len seek lseek messages reads with
  | case1 => exact ⟨hreads, hlseek⟩
  | case2 seek lseek messages reads hlt hcut => exact ⟨hheader hreads hcut, hlseek⟩
  | case3 seek lseek messages reads hlt hcut cflag msgLen reads' msgData hfits ih =>
      refine ih (fun i hi => ?_) (by omega)
      rcases List.mem_append.mp hi with hi | hi
      · exact hheader hreads hcut i hi
      · rw [List.mem_range'_1] at hi
        omega
  | case4 => exact ⟨hreads, hlseek⟩

/-- The loop forgets no read that was recorded before it. -/
theorem mem_parseLoopReads {wire : ℕ → UInt8} {len seek lseek : ℕ}
    {messages : Option (List Message)} {reads : List ℕ} {i : ℕ} (hi : i ∈ reads) :
    i ∈ (parseLoopReads wire len seek lseek messages reads).2 := by
  fun_induction parseLoopReads wire len seek lseek messages reads with
  | case1 => exact hi
  | case2 => exact List.mem_append_left _ hi
  | case3 seek lseek messages reads hlt hcut cflag msgLen reads' msgData hfits ih =>
      exact ih (List.mem_append_left _ (List.mem_append_left _ hi))
  | case4 => exact hi

/-- **When the parser stays in its buffer**: for every length but 4. -/
theorem parseGrpcMessage_inBounds_iff (wire : ℕ → UInt8) (len : ℕ) :
    ((∀ i ∈ (parseGrpcMessageReads wire len).2, i < len) ∧ (parseGrpcMessage wire len).1 ≤ len) ↔
      len ≠ 4 := by
  rw [← parseGrpcMessageReads_fst]
  by_cases h : len < 4
  · rw [parseGrpcMessageReads, if_pos h]
    exact iff_of_true ⟨fun i hi => (by cases hi), Nat.zero_le len⟩ (by omega)
  · rw [parseGrpcMessageReads, if_neg h]
    constructor
    · rintro ⟨hreads, -⟩ rfl
      -- the quick check reads the bytes 1 to 4
      have hmem : 4 ∈ ureadU32Reads 1 := by decide
      exact absurd (hreads 4 (mem_parseLoopReads hmem)) (Nat.lt_irrefl 4)
    · intro hlen
      refine parseLoopReads_lt (fun i hi => ?_) (Nat.zero_le len)
      simp only [ureadU32Reads, List.mem_cons, List.not_mem_nil, or_false] at hi
      omega

/-- **Four bytes are read one too far.** -/
theorem not_parseGrpcMessage_inBounds :
    ¬∀ (wire : ℕ → UInt8) (len : ℕ), (∀ i ∈ (parseGrpcMessageReads wire len).2, i < len) ∧
      (parseGrpcMessage wire len).1 ≤ len := by
  intro hall
  have hmem : 4 ∈ (parseGrpcMessageReads (fun _ => 0) 4).2 := by decide +kernel
  exact absurd ((hall (fun _ => 0) 4).1 4 hmem) (Nat.lt_irrefl 4)

/-! ## (2) The list of messages -/

/-- The payload length that the first header announces. -/
def firstLen (wire : ℕ → UInt8) : ℕ := ntohl (ureadU32 wire 1)

/-- **The list is made exactly when it is used**: `*messages` is assigned when something is returned,
and then holds a message. -/
def ListMade (res : ℕ × Option (List Message)) : Prop :=
  (res.2.isSome = true ↔ res.1 ≠ 0) ∧ (res.1 ≠ 0 → ∃ l, res.2 = some l ∧ l ≠ [])

/-- The parser finds something exactly when the first frame is complete. -/
theorem parseGrpcMessage_ne_zero_iff (wire : ℕ → UInt8) (len : ℕ) :
    (parseGrpcMessage wire len).1 ≠ 0 ↔ firstLen wire + 5 ≤ len := by
  obtain ⟨hret, -⟩ := parseGrpcMessage_eq wire len _ rfl
  have hread := readFrame_slice wire (Nat.zero_le len)
  rw [Nat.sub_zero, Nat.zero_add, Nat.zero_add, Nat.add_comm 5] at hread
  rw [hret, firstLen]
  by_cases hfits : ntohl (ureadU32 wire 1) + 5 ≤ len
  · rw [dif_pos hfits] at hread
    refine iff_of_true ?_ hfits
    rw [headerReader.parse_of_some (by rw [headerReader_read, hread]; rfl), List.length_cons]
    omega
  · rw [dif_neg hfits] at hread
    refine iff_of_false (fun hne => hne ?_) hfits
    rw [headerReader.parse_of_none (by rw [headerReader_read, hread]; rfl)]
    rfl

/-- The loop makes no list and drops none. -/
theorem parseLoop_isSome (wire : ℕ → UInt8) (len seek lseek : ℕ)
    (messages : Option (List Message)) :
    (parseLoop wire len seek lseek messages).2.isSome = messages.isSome := by
  fun_induction parseLoop wire len seek lseek messages with
  | case1 => rfl
  | case2 => rfl
  | case3 seek lseek messages hlt hcut cflag msgLen msgData hfits ih =>
      rw [ih, Option.isSome_map]
  | case4 => rfl

/-- **When the quick check and the loop agree**: as long as the length of the first message does not
wrap in 32 bits, or its frame is complete. -/
theorem parseGrpcMessage_listMade_iff (wire : ℕ → UInt8) {len : ℕ} (hlen : 5 ≤ len) :
    ListMade (parseGrpcMessage wire len) ↔
      firstLen wire + 5 < 2 ^ 32 ∨ firstLen wire + 5 ≤ len := by
  have hne := parseGrpcMessage_ne_zero_iff wire len
  have hsome : (parseGrpcMessage wire len).2.isSome = true ↔
      (firstLen wire + 5) % 2 ^ 32 ≤ len := by
    rw [parseGrpcMessage, if_neg (by omega)]
    simp only [parseLoop_isSome, firstLen, ge_iff_le]
    split <;> simp_all
  have hlist : (parseGrpcMessage wire len).1 ≠ 0 →
      ∃ l, (parseGrpcMessage wire len).2 = some l ∧ l ≠ [] := by
    intro hret
    obtain ⟨hret', hmsgs⟩ := parseGrpcMessage_eq wire len _ rfl
    have hfs : (headerReader.parse (slice wire 0 len)).1 ≠ [] := by
      intro hnil
      rw [hret', hnil] at hret
      exact hret rfl
    exact ⟨_, hmsgs hfs, by simpa using hfs⟩
  have hlt : firstLen wire < 2 ^ 32 := by
    rw [firstLen, ntohl_ureadU32]
    exact be32_lt _ _ _ _
  rw [ListMade, and_iff_left hlist, hsome, hne]
  -- a sum that wraps is at most 4
  omega

/-- A message of one byte, of which the header is there. -/
theorem parseGrpcMessage_listMade_iff_five :
    ListMade (parseGrpcMessage (fun i => [0, 0, 0, 0, 1].getD i 0) 5) ↔
      firstLen (fun i => [0, 0, 0, 0, 1].getD i 0) + 5 < 2 ^ 32 ∨
        firstLen (fun i => [0, 0, 0, 0, 1].getD i 0) + 5 ≤ 5 :=
  parseGrpcMessage_listMade_iff _ (by decide)

/-- **A length of `2 ^ 32 - 5` makes a list that nobody frees**: the sum wraps to 0, and nothing is
returned. -/
theorem not_parseGrpcMessage_listMade :
    ¬∀ (wire : ℕ → UInt8) (len : ℕ), 5 ≤ len → ListMade (parseGrpcMessage wire len) := by
  intro hall
  have hmade := (hall (fun i => [0, 0xff, 0xff, 0xff, 0xfb].getD i 0) 5 (by decide)).1
  have hsome : (parseGrpcMessage (fun i => [0, 0xff, 0xff, 0xff, 0xfb].getD i 0) 5)
      = (0, some []) := by
    decide +kernel
  rw [hsome] at hmade
  exact hmade.mp rfl rfl

/-! ## (3) The `memcpy` of the left-over -/

/-- The `memcpy` in `on_frame_recv_data` on a stream, by where it goes to, where it comes from and how
much it copies; `none` when the function does not come to it. -/
def Stream.memcpyLeft (s : Stream) (endStream : Bool) : Option (ℕ × ℕ × ℕ) :=
  if endStream && s.recvLen == 0 then none
  else
    let (lseek, _) := parseGrpcMessage s.recvData s.recvLen
    if lseek ≠ 0 then some (0, lseek, s.recvLen - lseek) else none

/-- The `memcpy` that a callback makes, if it makes one: destination, source and length. -/
def memcpyLeft (ez : Session) : ClientAction → Option (ℕ × ℕ × ℕ)
  | .frameRecv frame =>
      if frame.type = .data then do
        let ptr ← ez.userData frame.streamId
        let ezstream ← ez.objs ptr
        let _ ← ezstream.path
        ezstream.memcpyLeft frame.endStream
      else none
  | .beginHeaders .. | .header .. | .dataChunk .. | .streamClose _ => none

/-- It is made when the parser finds messages, and copies what lies behind their headers. -/
theorem Stream.memcpyLeft_eq (s : Stream) (endStream : Bool) :
    s.memcpyLeft endStream
      = if s.frames = [] then none
        else some (0, 5 * s.frames.length, s.recvLen - 5 * s.frames.length) := by
  obtain ⟨hret, -⟩ := parseGrpcMessage_eq s.recvData s.recvLen s.frames rfl
  have hle : 5 * s.frames.length ≤ s.recvLen := by
    rw [← Stream.length_recvBytes]
    exact (headerReader_parse_snd s.recvBytes).2
  have hlen := @List.length_eq_zero_iff _ s.frames
  rw [Stream.memcpyLeft]
  by_cases hend : endStream = true ∧ s.recvLen = 0
  · have hnil : s.frames = [] := hlen.mp (by omega)
    simp [hend, hnil]
  · rw [if_neg (by simpa using hend)]
    simp only [hret]
    by_cases hnil : s.frames = []
    · simp [hnil]
    · have hpos := List.length_pos_iff.mpr hnil
      rw [if_pos (by omega), if_neg hnil]

/-- **The `memcpy` is that of the callback**: where it is made, the stream is left with the bytes moved;
otherwise with its buffer as it was. -/
theorem onFrameRecvData_memcpyLeft {server : ServerShared} {ez : Session} {frame : FrameHd}
    {ptr path : ℕ} {s : Stream} (hptr : ez.userData frame.streamId = some ptr)
    (hobj : ez.objs ptr = some s) (hpath : s.path = some path) :
    ∃ r, onFrameRecvData server ez frame = some r ∧
      r.session.objs ptr = some (match s.memcpyLeft frame.endStream with
        | some (_, src, _) => s.compact src
        | none => s) := by
  refine ⟨_, onFrameRecvData_eq hptr hobj hpath, ?_⟩
  rw [Session.setObj_objs_self, s.memcpyLeft_eq, Stream.afterFrame]
  by_cases hnil : s.frames = []
  · rw [if_pos hnil, if_pos hnil]
  · rw [if_neg hnil, if_neg hnil]

/-- A callback calls `memcpy` with ranges that are apart. -/
def ClientAction.MemcpyApart (st : ClientState) (a : ClientAction) : Prop :=
  ∀ dst src n, memcpyLeft st.session a = some (dst, src, n) → Apart dst src n

/-- **At the end of a DATA frame no more is left than was parsed**: a stream with a path has at most ten
bytes in its buffer for every message the parser finds there, unless it finds none. -/
def ClientAction.LeavesLittle (st : ClientState) : ClientAction → Prop
  | .frameRecv frame => frame.type = .data → ∀ ptr s,
      st.session.userData frame.streamId = some ptr → st.session.objs ptr = some s →
      s.path.isSome = true → s.frames = [] ∨ s.recvLen ≤ 10 * s.frames.length
  | .beginHeaders .. | .header .. | .dataChunk .. | .streamClose _ => True

/-- The ranges of the `memcpy` behind a parse are apart exactly when few bytes are left over. -/
theorem Stream.apart_memcpyLeft_iff (s : Stream) (endStream : Bool) :
    (∀ dst src n, s.memcpyLeft endStream = some (dst, src, n) → Apart dst src n) ↔
      s.frames = [] ∨ s.recvLen ≤ 10 * s.frames.length := by
  rw [s.memcpyLeft_eq]
  by_cases hnil : s.frames = []
  · rw [if_pos hnil]
    exact iff_of_true (fun _ _ _ h => by cases h) (Or.inl hnil)
  · have hpos := List.length_pos_iff.mpr hnil
    rw [if_neg hnil, or_iff_right hnil]
    constructor
    · intro h
      have hapart := apart_iff.mp (h _ _ _ rfl)
      omega
    · intro h dst src n hcall
      obtain ⟨rfl, rfl, rfl⟩ : 0 = dst ∧ 5 * s.frames.length = src ∧ _ = n := by
        simpa using hcall
      rw [apart_iff]
      omega

/-- The `memcpy` of a callback has ranges that are apart exactly when it leaves few bytes. -/
theorem ClientAction.memcpyApart_iff (st : ClientState) (a : ClientAction) :
    a.MemcpyApart st ↔ a.LeavesLittle st := by
  cases a with
  | frameRecv frame =>
      by_cases htype : frame.type = .data
      · simp only [ClientAction.MemcpyApart, ClientAction.LeavesLittle, memcpyLeft, htype, if_true,
          true_implies, Option.bind_eq_bind, Option.bind_eq_some_iff]
        constructor
        · intro h ptr s hptr hobj hpath
          obtain ⟨path, hpath⟩ := Option.isSome_iff_exists.mp hpath
          refine (s.apart_memcpyLeft_iff frame.endStream).mp fun dst src n hcall => ?_
          exact h dst src n ⟨ptr, hptr, s, hobj, path, hpath, hcall⟩
        · rintro h dst src n ⟨ptr, hptr, s, hobj, path, hpath, hcall⟩
          have hlittle := h ptr s hptr hobj (by rw [hpath]; rfl)
          exact (s.apart_memcpyLeft_iff frame.endStream).mpr hlittle dst src n hcall
      · simp [ClientAction.MemcpyApart, ClientAction.LeavesLittle, memcpyLeft, htype]
  | beginHeaders | header | dataChunk | streamClose =>
      simp [ClientAction.MemcpyApart, ClientAction.LeavesLittle, memcpyLeft]

/-- **When every `memcpy` is legal**: in every run of callbacks on a new session, whatever its streams
receive, the ranges are apart each time exactly when each DATA frame leaves little. -/
theorem clientRun_memcpyApart_iff (server : ServerShared) (uuid : SessionUuid) (sockfd : ℤ)
    (acts : List ClientAction) :
    Along clientStep (fun st a => a.MemcpyApart st) ⟨server, sessionNew uuid sockfd, [], []⟩ acts ↔
      Along clientStep (fun st a => a.LeavesLittle st)
        ⟨server, sessionNew uuid sockfd, [], []⟩ acts :=
  along_iff (I := fun _ => True) (fun _ _ _ _ _ _ => trivial)
    (fun st a _ => a.memcpyApart_iff st) trivial acts

/-- **A message of six bytes**: five bytes are parsed and six are left, so that one byte is in both
ranges. -/
theorem not_clientRun_memcpyApart :
    ¬∀ (server : ServerShared) (uuid : SessionUuid) (sockfd : ℤ) (acts : List ClientAction),
      Along clientStep (fun st a => a.MemcpyApart st)
        ⟨server, sessionNew uuid sockfd, [], []⟩ acts := by
  intro hall
  let server : ServerShared :=
    ⟨100, (serverRegisterPath pathTableTen ⟨[47, 97], by decide⟩ 9 0 0).2, eventsNew⟩
  let pre : List ClientAction :=
    [.beginHeaders 1 16 fun _ => 0,
      .header ⟨1, .headers, 0, 0⟩ (bytesOf ":path") (bytesOf "/a"),
      .dataChunk 1 [0, 0, 0, 0, 6, 1, 2, 3, 4, 5, 6]]
  have hcall : (run clientStep ⟨server, sessionNew ⟨7, 2⟩ 5, [], []⟩ pre).map
      (fun st => memcpyLeft st.session (.frameRecv ⟨1, .data, 0, 11⟩)) = some (some (0, 5, 6)) := by
    decide +kernel
  obtain ⟨st, hrun, hcall⟩ := Option.map_eq_some_iff.mp hcall
  have hrest := ((along_append pre [.frameRecv ⟨1, .data, 0, 11⟩]).mp
    (hall server ⟨7, 2⟩ 5 (pre ++ [.frameRecv ⟨1, .data, 0, 11⟩]))).2 st hrun
  exact absurd (hrest.1 0 5 6 hcall) (by decide)

end Ezgrpc2
