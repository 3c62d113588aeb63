import Mathlib.Data.List.Basic
import Mathlib.Data.Nat.Notation

/-! # Readers of framed streams

A `Reader` looks at the unread symbols of a stream and either finds a frame at their head, with the
number of symbols its cursor moves past, or finds none yet. The only law is *stability*: a frame
that was found stays found when more symbols arrive. `Reader.parse` reads as long as it can.
`parse_append` says that stopping anywhere and going on with the left-over symbols in front of
the new ones reads the same frames as one pass, and `feed_flatten` lifts this to any way of
cutting a stream into chunks.

A `FrameCode` is an encoding of frames together with the reader that inverts it; `parse` then
finds the longest prefix that is a concatenation of complete frames (`parse_longest`). -/

namespace Framing

variable {β φ : Type*}

/-- **A stable frame reader.** `read w` is the frame at the head of the unread symbols `w` and the
number of symbols the cursor moves past, or `none` when no frame is complete yet. -/
structure Reader (β φ : Type*) where
  /-- The frame at the head of the unread symbols, with the cursor's step. -/
  read : List β → Option (φ × ℕ)
  /-- The cursor moves on, and never past the symbols that are there. -/
  step_pos : ∀ {w f k}, read w = some (f, k) → 0 < k ∧ k ≤ w.length
  /-- More symbols do not change a frame that was found. -/
  stable : ∀ {w f k} (v : List β), read w = some (f, k) → read (w ++ v) = some (f, k)

namespace Reader

variable (R : Reader β φ)

/-- Read frames as long as one is complete: the frames, and the symbols left over. -/
def parse (w : List β) : List φ × List β :=
  match h : R.read w with
  | none => ([], w)
  | some (f, k) =>
      have := R.step_pos h
      (f :: (parse (w.drop k)).1, (parse (w.drop k)).2)
termination_by w.length
decreasing_by all_goals (rw [List.length_drop]; omega)

theorem parse_of_none {w : List β} (h : R.read w = none) : R.parse w = ([], w) := by
  rw [parse]
  split
  · rfl
  · simp_all

theorem parse_of_some {w : List β} {f : φ} {k : ℕ} (h : R.read w = some (f, k)) :
    R.parse w = (f :: (R.parse (w.drop k)).1, (R.parse (w.drop k)).2) := by
  rw [parse]
  split
  · simp_all
  · rename_i f' k' h'
    obtain ⟨rfl, rfl⟩ : f = f' ∧ k = k' := by simpa [h] using h'
    rfl

/-- **Induction along a parse**: a property of the unread symbols holds if it holds where no frame
is complete, and passes from behind a frame to in front of it. -/
theorem parse_induction {P : List β → Prop} (stop : ∀ w, R.read w = none → P w)
    (frame : ∀ w f k, R.read w = some (f, k) → P (w.drop k) → P w) (w : List β) : P w := by
  induction hn : w.length using Nat.strongRecOn generalizing w with
  | ind n ih =>
    match h : R.read w with
    | none => exact stop w h
    | some (f, k) =>
        have hk := R.step_pos h
        exact frame w f k h (ih _ (by rw [← hn, List.length_drop]; omega) (w.drop k) rfl)

/-- Nothing more is complete in what a parse leaves over. -/
theorem read_parse_snd (w : List β) : R.read (R.parse w).2 = none := by
  induction w using R.parse_induction with
  | stop w h => rw [R.parse_of_none h]; exact h
  | frame w f k h ih => rw [R.parse_of_some h]; exact ih

/-- **Stopping and resuming reads the same frames.** Parsing `w ++ v` gives the frames of `w`
followed by the frames of the left-over of `w` with `v` behind it, and the left-over of the latter. -/
theorem parse_append (w v : List β) :
    R.parse (w ++ v)
      = ((R.parse w).1 ++ (R.parse ((R.parse w).2 ++ v)).1, (R.parse ((R.parse w).2 ++ v)).2) := by
  induction w using R.parse_induction with
  | stop w h => rw [R.parse_of_none h, List.nil_append]
  | frame w f k h ih =>
      have hk := (R.step_pos h).2
      rw [R.parse_of_some (R.stable v h), R.parse_of_some h, List.drop_append_of_le_length hk, ih,
        List.cons_append]

/-- **Feed a stream chunk by chunk**: each chunk is put behind the left-over of the ones before and
what is complete is read off. -/
def feed : List β → List (List β) → List φ × List β
  | r, [] => ([], r)
  | r, c :: cs => ((R.parse (r ++ c)).1 ++ (feed (R.parse (r ++ c)).2 cs).1,
      (feed (R.parse (r ++ c)).2 cs).2)

/-- **Chunking does not matter.** Over a left-over in which nothing is complete, feeding chunks
reads what one pass over their concatenation reads. -/
theorem feed_flatten (r : List β) (hr : R.read r = none) (cs : List (List β)) :
    R.feed r cs = R.parse (r ++ cs.flatten) := by
  induction cs generalizing r with
  | nil => rw [feed, List.flatten_nil, List.append_nil, R.parse_of_none hr]
  | cons c cs ih =>
      rw [feed, ih _ (R.read_parse_snd _), List.flatten_cons, ← List.append_assoc,
        R.parse_append (r ++ c)]

end Reader

/-- **A frame code**: an encoding of frames and the reader that inverts it. -/
structure FrameCode (β φ : Type*) extends Reader β φ where
  /-- The symbols that one frame is written as. -/
  enc : φ → List β
  /-- The encoding of a frame is read back, whatever follows it. -/
  read_enc : ∀ f v, read (enc f ++ v) = some (f, (enc f).length)
  /-- A frame that is read is spelled out at the head of the symbols. -/
  enc_of_read : ∀ {w f k}, read w = some (f, k) → w = enc f ++ w.drop k

namespace FrameCode

variable (C : FrameCode β φ)

/-- The concatenation of the encodings of a list of frames. -/
def encAll (fs : List φ) : List β := (fs.map C.enc).flatten

@[simp] theorem encAll_nil : C.encAll [] = [] := rfl

@[simp] theorem encAll_cons (f : φ) (fs : List φ) : C.encAll (f :: fs) = C.enc f ++ C.encAll fs :=
  rfl

theorem encAll_append (fs gs : List φ) : C.encAll (fs ++ gs) = C.encAll fs ++ C.encAll gs := by
  simp [encAll]

/-- The step over a frame that was read is the length of its encoding. -/
theorem step_eq_length {w : List β} {f : φ} {k : ℕ} (h : C.read w = some (f, k)) :
    k = (C.enc f).length := by
  have hw := C.enc_of_read h
  have hread := C.read_enc f (w.drop k)
  rw [← hw, h] at hread
  simpa using hread

/-- A parse splits its input into the encoding of the frames it found and its left-over. -/
theorem encAll_parse (w : List β) : C.encAll (C.parse w).1 ++ (C.parse w).2 = w := by
  induction w using C.parse_induction with
  | stop w h => rw [C.parse_of_none h]; rfl
  | frame w f k h ih =>
      rw [C.parse_of_some h, encAll_cons, List.append_assoc, ih]
      exact (C.enc_of_read h).symm

/-- Encoded frames are parsed back, and the parse goes on behind them. -/
theorem parse_encAll_append (fs : List φ) (v : List β) :
    C.parse (C.encAll fs ++ v) = (fs ++ (C.parse v).1, (C.parse v).2) := by
  induction fs with
  | nil => rfl
  | cons f fs ih =>
      rw [encAll_cons, List.append_assoc, C.parse_of_some (C.read_enc f _),
        List.drop_left, ih, List.cons_append]

/-- **A parse finds the longest prefix made of complete frames**: any frames whose encodings are a
prefix of the input are a prefix of the frames found. -/
theorem parse_longest {w : List β} {gs : List φ} (h : C.encAll gs <+: w) : gs <+: (C.parse w).1 := by
  obtain ⟨v, rfl⟩ := h
  rw [C.parse_encAll_append]
  exact List.prefix_append _ _

/-- The frames of a parse encode to a prefix of the input. -/
theorem encAll_parse_prefix (w : List β) : C.encAll (C.parse w).1 <+: w :=
  ⟨_, C.encAll_parse w⟩

/-- A longer list of frames has the longer encoding. -/
theorem length_encAll_le {fs gs : List φ} (h : fs <+: gs) :
    (C.encAll fs).length ≤ (C.encAll gs).length := by
  obtain ⟨t, rfl⟩ := h
  rw [C.encAll_append, List.length_append]
  exact Nat.le_add_right _ _

/-- Two lists of frames, one a prefix of the other, with equally long encodings are equal. -/
theorem eq_of_prefix_of_length {fs gs : List φ} (h : fs <+: gs)
    (hlen : (C.encAll gs).length ≤ (C.encAll fs).length) : fs = gs := by
  obtain ⟨t, rfl⟩ := h
  cases t with
  | nil => rw [List.append_nil]
  | cons f t =>
      have hpos := (C.step_pos (C.read_enc f [])).1
      rw [C.encAll_append, List.length_append, encAll_cons, List.length_append] at hlen
      omega

/-- **`fs` spells the longest frame prefix of `w`**: its encoding is a prefix of `w`, and no list of
frames has a longer encoding that is one too. -/
def LongestPrefix (w : List β) (fs : List φ) : Prop :=
  C.encAll fs <+: w ∧ ∀ gs, C.encAll gs <+: w → (C.encAll gs).length ≤ (C.encAll fs).length

/-- The longest frame prefix is the one a parse finds, and there is only one. -/
theorem longestPrefix_iff {w : List β} {fs : List φ} :
    C.LongestPrefix w fs ↔ fs = (C.parse w).1 := by
  constructor
  · rintro ⟨hpre, hmax⟩
    exact C.eq_of_prefix_of_length (C.parse_longest hpre) (hmax _ (C.encAll_parse_prefix w))
  · rintro rfl
    exact ⟨C.encAll_parse_prefix w, fun gs hgs => C.length_encAll_le (C.parse_longest hgs)⟩

/-- A proper prefix of one encoded frame holds no complete frame. -/
theorem read_of_prefix {p : List β} {f : φ} (hpre : p <+: C.enc f) (hne : p ≠ C.enc f) :
    C.read p = none := by
  cases h : C.read p with
  | none => rfl
  | some gk =>
      obtain ⟨g, k⟩ := gk
      obtain ⟨v, hv⟩ := hpre
      have hst := C.stable v h
      have hread := C.read_enc f []
      rw [List.append_nil, ← hv, hst, hv] at hread
      obtain ⟨rfl, rfl⟩ : g = f ∧ k = (C.enc f).length := by simpa using hread
      have hk := (C.step_pos h).2
      have hlen := congrArg List.length hv
      rw [List.length_append] at hlen
      have hvnil : v = [] := List.length_eq_zero_iff.mp (by omega)
      rw [hvnil, List.append_nil] at hv
      exact absurd hv hne

/-- Encoded frames with an incomplete one behind them are the longest frame prefix. -/
theorem longestPrefix_encAll_append (fs : List φ) {p : List β} (hp : C.read p = none) :
    C.LongestPrefix (C.encAll fs ++ p) fs := by
  rw [C.longestPrefix_iff, C.parse_encAll_append, C.parse_of_none hp, List.append_nil]

end FrameCode

end Framing
