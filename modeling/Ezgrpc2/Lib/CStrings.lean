import Mathlib.Data.List.TakeWhile
import Mathlib.Data.Nat.Notation

/-! # C strings

The string functions of the C library on arrays of bytes. The string in an array ends in front of
its first zero byte (`text`); an array without one is read to its end only. `CString` is a string
as an argument: bytes none of which is zero. -/

namespace CStrings

/-- The string in an array of bytes. -/
def text (a : List UInt8) : List UInt8 := a.takeWhile (· ≠ 0)

/-- `strlen`: the number of bytes in front of the first zero. -/
def strlen (a : List UInt8) : ℕ := (text a).length

/-- Whether `strcmp` returns something else than 0. -/
def strcmp (a b : List UInt8) : Bool := text a != text b

/-- **A string**: bytes none of which is zero. -/
structure CString where
  /-- The bytes in front of the terminator. -/
  bytes : List UInt8
  /-- No byte is zero, as the terminator comes behind them. -/
  zero_notMem : 0 ∉ bytes
deriving DecidableEq

/-- `strncpy` into an array of `n` bytes: at most `n` bytes of the string, and zeros behind them. -/
def strncpy (src : CString) (n : ℕ) : List UInt8 :=
  src.bytes.take n ++ List.replicate (n - src.bytes.length) 0

/-- `strlen` with its reads, byte by byte: `none` when it goes on behind the array. -/
def strlenIn : List UInt8 → Option ℕ
  | [] => none
  | b :: a => if b = 0 then some 0 else (strlenIn a).map (· + 1)

/-- `strcmp` with its reads, byte by byte: `none` when it goes on behind one of the arrays. -/
def strcmpIn : List UInt8 → List UInt8 → Option Bool
  | b :: a, c :: d => if b ≠ c then some true else if b = 0 then some false else strcmpIn a d
  | _, _ => none

@[simp] theorem strcmp_eq_false {a b : List UInt8} : strcmp a b = false ↔ text a = text b := by
  rw [strcmp, bne_eq_false_iff_eq]

/-- Without a zero byte the whole array is the string. -/
theorem text_of_notMem {a : List UInt8} (h : 0 ∉ a) : text a = a := by
  rw [text, List.takeWhile_eq_self_iff]
  intro b hb
  rw [decide_eq_true_eq]
  rintro rfl
  exact h hb

@[simp] theorem text_bytes (s : CString) : text s.bytes = s.bytes := text_of_notMem s.zero_notMem

/-- A string that ends in front of a zero byte. -/
theorem text_append_zero {a : List UInt8} (h : 0 ∉ a) (b : List UInt8) :
    text (a ++ 0 :: b) = a := by
  have hall : ∀ c ∈ a, decide (c ≠ 0) = true := by
    intro c hc
    rw [decide_eq_true_eq]
    rintro rfl
    exact h hc
  rw [text, List.takeWhile_append_of_pos hall]
  simp

/-- The string in an array holds no zero byte. -/
theorem zero_notMem_text (a : List UInt8) : 0 ∉ text a := by
  intro h
  have hzero := List.mem_takeWhile_imp h
  rw [decide_eq_true_eq] at hzero
  exact hzero rfl

/-- Of a shorter string `strncpy` stores all, and its terminator. -/
@[simp] theorem text_strncpy {s : CString} {n : ℕ} (h : s.bytes.length < n) :
    text (strncpy s n) = s.bytes := by
  obtain ⟨k, hk⟩ : ∃ k, n - s.bytes.length = k + 1 := ⟨n - s.bytes.length - 1, by omega⟩
  rw [strncpy, List.take_of_length_le (Nat.le_of_lt h), hk, List.replicate_succ,
    text_append_zero s.zero_notMem]

@[simp] theorem length_strncpy (s : CString) (n : ℕ) : (strncpy s n).length = n := by
  rw [strncpy, List.length_append, List.length_take, List.length_replicate]
  omega

/-- An array of zeros holds the empty string. -/
@[simp] theorem text_replicate_zero (n : ℕ) : text (List.replicate n 0) = [] := by
  cases n with
  | zero => rfl
  | succ n => rfl

/-- The string in an array is empty exactly when the array is, or its first byte is zero. -/
theorem text_eq_nil {a : List UInt8} (h : a ≠ []) : text a = [] ↔ a.head? = some 0 := by
  cases a with
  | nil => exact absurd rfl h
  | cons b a => by_cases hb : b = 0 <;> simp [text, hb]

/-- **`strlen` stays in an array exactly when there is a terminator in it.** -/
theorem strlenIn_eq (a : List UInt8) : strlenIn a = if 0 ∈ a then some (strlen a) else none := by
  induction a with
  | nil => rfl
  | cons b a ih =>
      rw [strlenIn, strlen, text]
      by_cases hb : b = 0
      · simp [hb]
      · rw [if_neg hb, ih, List.takeWhile_cons_of_pos (by simpa using hb)]
        by_cases ha : 0 ∈ a
        · rw [if_pos ha, if_pos (List.mem_cons_of_mem b ha)]
          rfl
        · rw [if_neg ha, if_neg fun hcon => (List.mem_cons.mp hcon).elim (Ne.symm hb) ha]
          rfl

theorem strcmp_comm (a b : List UInt8) : strcmp a b = strcmp b a := bne_comm

/-- `strcmp` reads its two arrays side by side. -/
theorem strcmpIn_comm (a b : List UInt8) : strcmpIn a b = strcmpIn b a := by
  induction a generalizing b with
  | nil => cases b <;> rfl
  | cons x a ih =>
      cases b with
      | nil => rfl
      | cons y b =>
          rw [strcmpIn, strcmpIn, ih b]
          by_cases h : x = y
          · subst h
            rfl
          · rw [if_pos h, if_pos (Ne.symm h)]

/-- **`strcmp` on terminated arrays** stays in them and compares their strings. -/
theorem strcmpIn_append_zero {a : List UInt8} (ha : 0 ∈ a) (b : List UInt8) :
    strcmpIn a (b ++ [0]) = some (strcmp a b) := by
  induction a generalizing b with
  | nil => cases ha
  | cons x a ih =>
      cases b with
      | nil =>
          rw [List.nil_append, strcmpIn]
          by_cases hx : x = 0 <;> simp [hx, strcmp, text]
      | cons y b =>
          rw [List.cons_append, strcmpIn]
          by_cases hxy : x = y
          · subst hxy
            rw [if_neg (not_not.mpr rfl)]
            by_cases hx : x = 0
            · simp [hx, strcmp, text]
            · -- the same byte in front of both strings
              rw [if_neg hx, ih ((List.mem_cons.mp ha).resolve_left (Ne.symm hx))]
              simp [strcmp, text, hx, bne, List.cons_beq_cons]
          · rw [if_pos hxy]
            by_cases hx : x = 0 <;> by_cases hy : y = 0 <;> simp_all [strcmp, text]

end CStrings
