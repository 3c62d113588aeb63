import Ezgrpc2.Lib.Framing
import Ezgrpc2.Lib.Memory
import Mathlib.Algebra.Ring.Nat

/-! # gRPC messages and their wire format

`Message` is `struct ezgrpc2_message`, a compressed flag and the first `len` bytes of `data`. On
the wire a message is a **frame**: the flag byte, the length as four big-endian bytes and the
payload. `grpcFrame` is that format as a `FrameCode`, so the general facts about framed streams
(longest frame prefix, cutting into chunks) hold of it. The `u32` conversions `ntohl`/`htonl` and
the unaligned accesses around them are those of a little-endian host. -/

namespace Ezgrpc2

open FlatMemory Framing

/-- A string of bytes, as a list. -/
abbrev Bytes := List UInt8

/-! ## (1) Four-byte integers -/

/-- `uread_u32`: the `u32` a little-endian host loads from the four bytes at offset `p`. -/
def ureadU32 (wire : ℕ → UInt8) (p : ℕ) : ℕ :=
  (wire p).toNat + (wire (p + 1)).toNat * 2 ^ 8 + (wire (p + 2)).toNat * 2 ^ 16
    + (wire (p + 3)).toNat * 2 ^ 24

/-- `ntohl` on a little-endian host: the four bytes of a `u32` in the opposite order. -/
def ntohl (n : ℕ) : ℕ :=
  n % 2 ^ 8 * 2 ^ 24 + n / 2 ^ 8 % 2 ^ 8 * 2 ^ 16 + n / 2 ^ 16 % 2 ^ 8 * 2 ^ 8
    + n / 2 ^ 24 % 2 ^ 8

/-- `htonl` is the same permutation of bytes. -/
def htonl (n : ℕ) : ℕ := ntohl n

/-- The four bytes a little-endian host stores for a `u32`. -/
def u32Bytes (n : ℕ) : Bytes :=
  [UInt8.ofNat n, UInt8.ofNat (n / 2 ^ 8), UInt8.ofNat (n / 2 ^ 16), UInt8.ofNat (n / 2 ^ 24)]

/-- The number that four big-endian bytes spell. -/
def be32 (b₀ b₁ b₂ b₃ : UInt8) : ℕ :=
  b₀.toNat * 2 ^ 24 + b₁.toNat * 2 ^ 16 + b₂.toNat * 2 ^ 8 + b₃.toNat

/-- The four big-endian bytes of a `u32`. -/
def be32Bytes (n : ℕ) : Bytes :=
  [UInt8.ofNat (n / 2 ^ 24), UInt8.ofNat (n / 2 ^ 16), UInt8.ofNat (n / 2 ^ 8), UInt8.ofNat n]

@[simp] theorem length_be32Bytes (n : ℕ) : (be32Bytes n).length = 4 := rfl

theorem be32_lt (b₀ b₁ b₂ b₃ : UInt8) : be32 b₀ b₁ b₂ b₃ < 2 ^ 32 := by
  have h₀ := b₀.toNat_lt
  have h₁ := b₁.toNat_lt
  have h₂ := b₂.toNat_lt
  have h₃ := b₃.toNat_lt
  unfold be32
  omega

/-- The two spellings of a length agree: reading back what was spelled. -/
theorem be32_be32Bytes {n : ℕ} (h : n < 2 ^ 32) :
    be32 (UInt8.ofNat (n / 2 ^ 24)) (UInt8.ofNat (n / 2 ^ 16)) (UInt8.ofNat (n / 2 ^ 8))
      (UInt8.ofNat n) = n := by
  simp only [be32, UInt8.toNat_ofNat']
  omega

/-- The two spellings of a length agree: spelling what was read. -/
theorem be32Bytes_be32 (b₀ b₁ b₂ b₃ : UInt8) :
    be32Bytes (be32 b₀ b₁ b₂ b₃) = [b₀, b₁, b₂, b₃] := by
  have h₀ := b₀.toNat_lt
  have h₁ := b₁.toNat_lt
  have h₂ := b₂.toNat_lt
  have h₃ := b₃.toNat_lt
  have byte : ∀ (b : UInt8) (m : ℕ), m % 256 = b.toNat → UInt8.ofNat m = b := by
    intro b m hm
    apply UInt8.toNat_inj.mp
    rw [UInt8.toNat_ofNat']
    exact hm
  simp only [be32Bytes, be32, List.cons.injEq, and_true]
  exact ⟨byte _ _ (by omega), byte _ _ (by omega), byte _ _ (by omega), byte _ _ (by omega)⟩

/-- **`ntohl(uread_u32(p))` is the big-endian value** of the four bytes at `p`. -/
theorem ntohl_ureadU32 (wire : ℕ → UInt8) (p : ℕ) :
    ntohl (ureadU32 wire p) = be32 (wire p) (wire (p + 1)) (wire (p + 2)) (wire (p + 3)) := by
  have h₀ := (wire p).toNat_lt
  have h₁ := (wire (p + 1)).toNat_lt
  have h₂ := (wire (p + 2)).toNat_lt
  have h₃ := (wire (p + 3)).toNat_lt
  unfold ntohl ureadU32 be32
  omega

/-- **Storing `htonl(len)` spells the length big-endian.** -/
theorem u32Bytes_htonl (n : ℕ) : u32Bytes (htonl n) = be32Bytes n := by
  have byte : ∀ m m' : ℕ, m % 256 = m' % 256 → UInt8.ofNat m = UInt8.ofNat m' := by
    intro m m' hm
    apply UInt8.toNat_inj.mp
    rw [UInt8.toNat_ofNat', UInt8.toNat_ofNat']
    exact hm
  simp only [u32Bytes, be32Bytes, htonl, ntohl, List.cons.injEq, and_true]
  -- name the four bytes of `n`, so that each goal is linear in them
  have h₀ : n % 2 ^ 8 < 256 := Nat.mod_lt _ (by decide)
  have h₁ : n / 2 ^ 8 % 2 ^ 8 < 256 := Nat.mod_lt _ (by decide)
  have h₂ : n / 2 ^ 16 % 2 ^ 8 < 256 := Nat.mod_lt _ (by decide)
  have h₃ : n / 2 ^ 24 % 2 ^ 8 < 256 := Nat.mod_lt _ (by decide)
  refine ⟨byte _ _ ?_, byte _ _ ?_, byte _ _ ?_, byte _ _ ?_⟩
  · change _ = n / 2 ^ 24 % 2 ^ 8
    generalize n % 2 ^ 8 = a, n / 2 ^ 8 % 2 ^ 8 = b, n / 2 ^ 16 % 2 ^ 8 = c,
      n / 2 ^ 24 % 2 ^ 8 = d at *
    omega
  · change _ = n / 2 ^ 16 % 2 ^ 8
    generalize n % 2 ^ 8 = a, n / 2 ^ 8 % 2 ^ 8 = b, n / 2 ^ 16 % 2 ^ 8 = c,
      n / 2 ^ 24 % 2 ^ 8 = d at *
    omega
  · change _ = n / 2 ^ 8 % 2 ^ 8
    generalize n % 2 ^ 8 = a, n / 2 ^ 8 % 2 ^ 8 = b, n / 2 ^ 16 % 2 ^ 8 = c,
      n / 2 ^ 24 % 2 ^ 8 = d at *
    omega
  · change _ = n % 2 ^ 8
    generalize n % 2 ^ 8 = a, n / 2 ^ 8 % 2 ^ 8 = b, n / 2 ^ 16 % 2 ^ 8 = c,
      n / 2 ^ 24 % 2 ^ 8 = d at *
    omega

/-! ## (2) Frames -/

/-- **A gRPC frame**: a flag byte and a payload whose length fits the four length bytes. -/
structure Frame where
  /-- The compressed flag, the first byte of the frame. -/
  flag : UInt8
  /-- The bytes of the message, which follow the length. -/
  payload : Bytes
  /-- The length of the payload fits the `u32` it is written in. -/
  payload_lt : payload.length < 2 ^ 32
deriving DecidableEq

/-- The frame at the head of `w`, when its header and its payload are complete. -/
def readFrame : Bytes → Option (Frame × ℕ)
  | flag :: b₀ :: b₁ :: b₂ :: b₃ :: rest =>
      if h : be32 b₀ b₁ b₂ b₃ ≤ rest.length then
        some (⟨flag, rest.take (be32 b₀ b₁ b₂ b₃), by
          rw [List.length_take, Nat.min_eq_left h]; exact be32_lt b₀ b₁ b₂ b₃⟩,
          5 + be32 b₀ b₁ b₂ b₃)
      else none
  | _ => none

/-- Fewer than five bytes hold no header. -/
theorem readFrame_of_length_lt {w : Bytes} (h : w.length < 5) : readFrame w = none := by
  match w, h with
  | [], _ | [_], _ | [_, _], _ | [_, _, _], _ | [_, _, _, _], _ => rfl

/-- A frame is read off a header whose payload is there. -/
theorem readFrame_of_le (c : UInt8) (rest : Bytes) {b₀ b₁ b₂ b₃ : UInt8} {L : ℕ} (hL : be32 b₀ b₁ b₂ b₃ = L)
    (h : L ≤ rest.length) (hlt : (rest.take L).length < 2 ^ 32) :
    readFrame (c :: b₀ :: b₁ :: b₂ :: b₃ :: rest) = some (⟨c, rest.take L, hlt⟩, 5 + L) := by
  subst hL
  rw [readFrame, dif_pos h]

/-- No frame is read off a header whose payload is cut. -/
theorem readFrame_of_lt {c b₀ b₁ b₂ b₃ : UInt8} {rest : Bytes}
    (h : rest.length < be32 b₀ b₁ b₂ b₃) :
    readFrame (c :: b₀ :: b₁ :: b₂ :: b₃ :: rest) = none := by
  rw [readFrame, dif_neg (Nat.not_le.mpr h)]

/-- **What a read says**: the symbols are a header, the payload it announces and the rest. -/
theorem readFrame_eq_some {w : Bytes} {f : Frame} {k : ℕ} (h : readFrame w = some (f, k)) :
    ∃ b₀ b₁ b₂ b₃ rest, w = f.flag :: b₀ :: b₁ :: b₂ :: b₃ :: (f.payload ++ rest) ∧
      be32 b₀ b₁ b₂ b₃ = f.payload.length ∧ k = 5 + f.payload.length := by
  match w with
  | [] | [_] | [_, _] | [_, _, _] | [_, _, _, _] => cases h
  | c :: b₀ :: b₁ :: b₂ :: b₃ :: rest =>
      rw [readFrame] at h
      by_cases hle : be32 b₀ b₁ b₂ b₃ ≤ rest.length
      · rw [dif_pos hle] at h
        simp only [Option.some.injEq, Prod.mk.injEq] at h
        obtain ⟨rfl, rfl⟩ := h
        have hlen : (rest.take (be32 b₀ b₁ b₂ b₃)).length = be32 b₀ b₁ b₂ b₃ := by
          rw [List.length_take, Nat.min_eq_left hle]
        exact ⟨b₀, b₁, b₂, b₃, rest.drop (be32 b₀ b₁ b₂ b₃), by rw [List.take_append_drop],
          hlen.symm, by rw [hlen]⟩
      · rw [dif_neg hle] at h
        cases h

/-- The bytes of a frame: flag byte, big-endian length, payload. -/
def encFrame (f : Frame) : Bytes := f.flag :: (be32Bytes f.payload.length ++ f.payload)

/-- A frame takes five bytes and its payload. -/
@[simp] theorem length_encFrame (f : Frame) : (encFrame f).length = 5 + f.payload.length := by
  simp only [encFrame, List.length_cons, List.length_append, length_be32Bytes]
  omega

/-- A frame is read back from its bytes, whatever follows. -/
theorem readFrame_encFrame (f : Frame) (v : Bytes) :
    readFrame (encFrame f ++ v) = some (f, 5 + f.payload.length) := by
  obtain ⟨c, p, hp⟩ := f
  have htake : (p ++ v).take p.length = p := List.take_left
  have hread := readFrame_of_le c (p ++ v) (be32_be32Bytes hp)
    (by rw [List.length_append]; exact Nat.le_add_right _ _) (by rw [htake]; exact hp)
  simpa only [encFrame, be32Bytes, List.cons_append, List.nil_append, htake] using hread

/-- **The gRPC frame format** as a frame code. -/
def grpcFrame : FrameCode UInt8 Frame where
  read := readFrame
  step_pos h := by
    obtain ⟨b₀, b₁, b₂, b₃, rest, rfl, -, rfl⟩ := readFrame_eq_some h
    simp only [List.length_cons, List.length_append]
    omega
  stable v h := by
    obtain ⟨b₀, b₁, b₂, b₃, rest, rfl, hlen, rfl⟩ := readFrame_eq_some h
    rename_i f
    have htake : (f.payload ++ rest ++ v).take f.payload.length = f.payload := by
      rw [List.append_assoc, List.take_left]
    have hread := readFrame_of_le f.flag (f.payload ++ rest ++ v) hlen
      (by simp only [List.length_append]; omega) (by rw [htake]; exact f.payload_lt)
    simpa only [List.cons_append, htake] using hread
  enc := encFrame
  read_enc f v := by rw [readFrame_encFrame, length_encFrame]
  enc_of_read h := by
    obtain ⟨b₀, b₁, b₂, b₃, rest, rfl, hlen, rfl⟩ := readFrame_eq_some h
    rw [encFrame, ← hlen, be32Bytes_be32, hlen, ← List.drop_drop]
    simp only [List.drop_succ_cons, List.drop_zero, List.drop_left, List.cons_append,
      List.nil_append]

@[simp] theorem grpcFrame_read (w : Bytes) : grpcFrame.read w = readFrame w := rfl

@[simp] theorem grpcFrame_enc (f : Frame) : grpcFrame.enc f = encFrame f := rfl

/-! ## (3) Messages -/

/-- `struct ezgrpc2_message`: the `u32` length, the compressed flag, and the flexible array, which
holds at least the first `len` bytes. -/
structure Message where
  /-- The number of bytes of the payload, the field `len`. -/
  len : ℕ
  /-- The compressed flag, the field `cflag`. -/
  cflag : UInt8
  /-- The flexible array member `data`, with the payload. -/
  data : Bytes
  /-- The field `len` is a `u32`. -/
  len_lt : len < 2 ^ 32
  /-- The payload lies inside the array. -/
  len_le : len ≤ data.length
deriving DecidableEq

/-- `ezgrpc2_message_new`: a copy of the `data_len` bytes at `data`; the length field is a `u32`,
so it keeps `data_len` modulo `2 ^ 32` only. -/
def messageNew (cflag : UInt8) (data : Bytes) : Message where
  len := data.length % 2 ^ 32
  cflag := cflag
  data := data
  len_lt := Nat.mod_lt _ (by decide)
  len_le := Nat.mod_le _ _

namespace Message

/-- The `(flag, payload)` pair of a message, as a frame. -/
def frame (m : Message) : Frame where
  flag := m.cflag
  payload := m.data.take m.len
  payload_lt := by rw [List.length_take, Nat.min_eq_left m.len_le]; exact m.len_lt

@[simp] theorem length_frame_payload (m : Message) : m.frame.payload.length = m.len := by
  rw [frame, List.length_take, Nat.min_eq_left m.len_le]

end Message

/-- The message a frame is received as. -/
def Frame.message (f : Frame) : Message := messageNew f.flag f.payload

/-- A received message carries the frame it was received from. -/
@[simp] theorem Frame.frame_message (f : Frame) : f.message.frame = f := by
  cases f with
  | mk c p hp =>
    simp only [Frame.message, Message.frame, messageNew, Frame.mk.injEq, true_and]
    rw [Nat.mod_eq_of_lt hp, List.take_length]

/-- The bytes of a list of messages on the wire. -/
def encMessages (ms : List Message) : Bytes := grpcFrame.encAll (ms.map Message.frame)

@[simp] theorem encMessages_nil : encMessages [] = [] := rfl

@[simp] theorem encMessages_cons (m : Message) (ms : List Message) :
    encMessages (m :: ms) = encFrame m.frame ++ encMessages ms := rfl

theorem encMessages_append (ms ns : List Message) :
    encMessages (ms ++ ns) = encMessages ms ++ encMessages ns := by
  rw [encMessages, List.map_append, grpcFrame.encAll_append]
  rfl

end Ezgrpc2
