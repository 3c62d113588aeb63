import Ezgrpc2.Path

/-! # Paths of any length

A slot of the path table is an array of `CONFIG_PATH_MAX_LEN` bytes. `strncpy` fills it without a
terminator when the path is as long as the array or longer, and `strlen` then reads on behind it.
`findPathIn` is the lookup of `on_header_callback` with its reads, where `findPath` takes the end of
the array for the end of the string. `registerRun_lookup_iff` says for which registrations the lookup
stays in the arrays and finds what was registered: those whose paths are shorter.

With unregistrations `nb_paths` may also count slots that the table does not have. `lookupPath` is the
lookup with all its reads and `unregisterSlotIn` the scan of an unregistration with its own.
`lookupPath_of_stays` says when the lookup is `findPath`, the one the callbacks of the model make. -/

namespace Ezgrpc2

open CStrings StepRuns

/-! ## (1) The lookup and its reads -/

/-- The macro `EZSTRCMP` with its reads: `strcmp` is called only behind equal lengths. -/
def ezstrcmpIn (str1 str2 : Bytes) : Option Bool := do
  let len ← strlenIn str1
  if len == str2.length then do
    let cmp ← strcmpIn str1 (str2 ++ [0])
    some (!(!cmp))
  else some true

/-- The `:path` lookup of `on_header_callback` with its reads: `none` when one of them is behind the
array of a slot. -/
def findPathIn (t : PathTable) (value : Bytes) : Option (Option ℕ) :=
  go (List.range t.nbPaths)
where
  /-- The scan of the slots that are left. -/
  go : List ℕ → Option (Option ℕ)
    | [] => some none
    | i :: is => do
        let cmp ← ezstrcmpIn (t.paths i).path value
        if !cmp then some (some i) else go is

/-- The macro stays in the array exactly when there is a terminator in it. -/
theorem ezstrcmpIn_eq (str1 str2 : Bytes) :
    ezstrcmpIn str1 str2 = if 0 ∈ str1 then some (ezstrcmp str1 str2) else none := by
  rw [ezstrcmpIn, strlenIn_eq]
  by_cases h : 0 ∈ str1
  · rw [if_pos h, if_pos h, ezstrcmp, strcmpIn_append_zero h]
    simp only [Option.bind_eq_bind, Option.bind_some]
    cases strlen str1 == str2.length <;> rfl
  · rw [if_neg h, if_neg h]
    rfl

theorem ezstrcmp_eq_true {str1 str2 : Bytes} : ezstrcmp str1 str2 = true ↔ text str1 ≠ str2 := by
  rw [← Bool.not_eq_false, ezstrcmp_eq_false]

/-- A slot without a terminator ends the scan. -/
theorem findPathIn_go_cons (t : PathTable) (value : Bytes) (i : ℕ) (is : List ℕ) :
    findPathIn.go t value (i :: is) =
      if 0 ∈ (t.paths i).path then
        if t.pathAt i = value then some (some i) else findPathIn.go t value is
      else none := by
  rw [findPathIn.go, ezstrcmpIn_eq]
  by_cases h : 0 ∈ (t.paths i).path
  · rw [if_pos h, if_pos h, Option.bind_eq_bind, Option.bind_some]
    by_cases heq : t.pathAt i = value
    · rw [if_pos heq, ezstrcmp_eq_false.mpr heq]
      rfl
    · rw [if_neg heq, ezstrcmp_eq_true.mpr heq]
      rfl
  · rw [if_neg h, if_neg h]
    rfl

/-- **The lookup with its reads is the lookup**, as far as it stays in the arrays. -/
theorem findPath_eq_of_findPathIn {t : PathTable} {value : Bytes} {r : Option ℕ}
    (h : findPathIn t value = some r) : findPath t value = r := by
  have hscan : ∀ is, findPathIn.go t value is = some r →
      (is.find? fun i => !ezstrcmp (t.paths i).path value) = r := by
    intro is
    induction is with
    | nil =>
        rintro ⟨⟩
        rfl
    | cons i is ih =>
        rw [findPathIn_go_cons]
        split
        · split
          · next heq =>
              rintro ⟨⟩
              rw [List.find?_cons, ezstrcmp_eq_false.mpr heq]
              rfl
          · next hne =>
              intro hrest
              rw [List.find?_cons, ezstrcmp_eq_true.mpr hne]
              exact ih hrest
        · intro hcon
          cases hcon
  exact hscan _ h

/-- A scan of slots with terminators stays in the arrays. -/
theorem findPathIn_of_terminated {t : PathTable} {value : Bytes}
    (h : ∀ i, i < t.nbPaths → 0 ∈ (t.paths i).path) :
    findPathIn t value = some (findPath t value) := by
  have hscan : ∀ is : List ℕ, (∀ i ∈ is, 0 ∈ (t.paths i).path) →
      ∃ r, findPathIn.go t value is = some r := by
    intro is his
    induction is with
    | nil => exact ⟨none, rfl⟩
    | cons i is ih =>
        rw [findPathIn_go_cons, if_pos (his i List.mem_cons_self)]
        split
        · exact ⟨some i, rfl⟩
        · exact ih fun j hj => his j (List.mem_cons_of_mem i hj)
  obtain ⟨r, hr⟩ := hscan (List.range t.nbPaths) fun i hi => h i (List.mem_range.mp hi)
  rw [findPath_eq_of_findPathIn hr]
  exact hr

/-- **A slot without a terminator** is read behind its end by the lookup of every value that is in no
slot before. -/
theorem findPathIn_of_unterminated {t : PathTable} {value : Bytes} {n : ℕ} (hn : n < t.nbPaths)
    (hbefore : ∀ i, i < n → t.pathAt i ≠ value) (hslot : 0 ∉ (t.paths n).path) :
    findPathIn t value = none := by
  have hscan : ∀ is rest : List ℕ, (∀ i ∈ is, t.pathAt i ≠ value) →
      findPathIn.go t value (is ++ n :: rest) = none := by
    intro is rest his
    induction is with
    | nil => rw [List.nil_append, findPathIn_go_cons, if_neg hslot]
    | cons i is ih =>
        rw [List.cons_append, findPathIn_go_cons]
        split
        · rw [if_neg (his i List.mem_cons_self)]
          exact ih fun j hj => his j (List.mem_cons_of_mem i hj)
        · rfl
  obtain ⟨d, hd⟩ := Nat.exists_eq_add_of_lt hn
  have hsplit : List.range t.nbPaths
      = List.range n ++ n :: ((List.range d).map Nat.succ).map (n + ·) := by
    rw [hd, Nat.add_assoc, List.range_add, List.range_succ_eq_map]
    rfl
  rw [findPathIn, hsplit]
  exact hscan _ _ fun i hi => hbefore i (List.mem_range.mp hi)

/-! ## (2) All reads of the table -/

/-- The `:path` lookup of `on_header_callback` with all its reads: `none` when it comes to a slot
behind those of the table, which `nb_paths` may count, or reads behind the array of a slot. -/
def lookupPath (t : PathTable) (value : Bytes) : Option (Option ℕ) :=
  go (List.range' 0 t.nbPaths)
where
  /-- The scan of the slots that are left. -/
  go : List ℕ → Option (Option ℕ)
    | [] => some none
    | i :: is =>
        if i < t.maxPaths then do
          let cmp ← ezstrcmpIn (t.paths i).path value
          if !cmp then some (some i) else go is
        else none

/-- **The lookup of `value` stays in the table**: every slot it comes to, that is, one with no slot in
front of it that holds `value`, is a slot of the table and has a terminator. -/
def PathTable.LookupStays (t : PathTable) (value : Bytes) : Prop :=
  ∀ i, i < t.nbPaths → (∀ j, j < i → t.pathAt j ≠ value) →
    i < t.maxPaths ∧ 0 ∈ (t.paths i).path

/-- A slot that the lookup cannot read ends it. -/
theorem lookupPath_go_cons (t : PathTable) (value : Bytes) (i : ℕ) (is : List ℕ) :
    lookupPath.go t value (i :: is) =
      if i < t.maxPaths ∧ 0 ∈ (t.paths i).path then
        if t.pathAt i = value then some (some i) else lookupPath.go t value is
      else none := by
  rw [lookupPath.go, ezstrcmpIn_eq]
  by_cases hi : i < t.maxPaths
  · by_cases h : 0 ∈ (t.paths i).path
    · rw [if_pos hi, if_pos h, if_pos ⟨hi, h⟩, Option.bind_eq_bind, Option.bind_some]
      by_cases heq : t.pathAt i = value
      · rw [if_pos heq, ezstrcmp_eq_false.mpr heq]
        rfl
      · rw [if_neg heq, ezstrcmp_eq_true.mpr heq]
        rfl
    · rw [if_pos hi, if_neg h, if_neg fun hcon => h hcon.2]
      rfl
  · rw [if_neg hi, if_neg fun hcon => hi hcon.1]

/-- The lookup from slot `k` on, behind slots that do not hold the value. -/
theorem lookupPath_go (t : PathTable) (value : Bytes) (k n : ℕ) :
    ((∀ i, k ≤ i → i < k + n → (∀ j, k ≤ j → j < i → t.pathAt j ≠ value) →
        i < t.maxPaths ∧ 0 ∈ (t.paths i).path) ↔
      (lookupPath.go t value (List.range' k n)).isSome = true) ∧
    ∀ r, lookupPath.go t value (List.range' k n) = some r →
      ((List.range' k n).find? fun i => !ezstrcmp (t.paths i).path value) = r := by
  induction n generalizing k with
  | zero => exact ⟨iff_of_true (fun i hi hlt => by omega) rfl, fun r hr => Option.some.inj hr⟩
  | succ n ih =>
      obtain ⟨ih₁, ih₂⟩ := ih (k + 1)
      rw [List.range'_succ, lookupPath_go_cons]
      by_cases hslot : k < t.maxPaths ∧ 0 ∈ (t.paths k).path
      · rw [if_pos hslot]
        by_cases heq : t.pathAt k = value
        · -- found: no slot behind is read
          rw [if_pos heq]
          refine ⟨iff_of_true (fun i hki hlt hbefore => ?_) rfl, ?_⟩
          · rcases Nat.eq_or_lt_of_le hki with rfl | hlt'
            · exact hslot
            · exact absurd heq (hbefore k le_rfl hlt')
          · rintro r ⟨⟩
            rw [List.find?_cons, ezstrcmp_eq_false.mpr heq]
            rfl
        · rw [if_neg heq, ← ih₁]
          refine ⟨⟨fun hall i hki hlt hbefore => ?_, fun hall i hki hlt hbefore => ?_⟩, ?_⟩
          · refine hall i (by omega) (by omega) fun j hkj hji => ?_
            rcases Nat.eq_or_lt_of_le hkj with rfl | hlt'
            · exact heq
            · exact hbefore j hlt' hji
          · rcases Nat.eq_or_lt_of_le hki with rfl | hlt'
            · exact hslot
            · exact hall i hlt' (by omega) fun j hkj hji => hbefore j (by omega) hji
          · intro r hr
            rw [List.find?_cons, ezstrcmp_eq_true.mpr heq]
            exact ih₂ r hr
      · rw [if_neg hslot]
        refine ⟨iff_of_false (fun hall => hslot ?_) Bool.false_ne_true, fun r hr => (nomatch hr)⟩
        exact hall k le_rfl (by omega) fun j hkj hjk => by omega

/-- **A lookup that stays in the table** finds what `findPath` finds. -/
theorem lookupPath_of_stays {t : PathTable} {value : Bytes} (h : t.LookupStays value) :
    lookupPath t value = some (findPath t value) := by
  obtain ⟨hstays, hfind⟩ := lookupPath_go t value 0 t.nbPaths
  have hsome := hstays.mp fun i _ hi hbefore =>
    h i (by omega) fun j hj => hbefore j (Nat.zero_le j) hj
  obtain ⟨r, hr⟩ := Option.isSome_iff_exists.mp hsome
  rw [lookupPath, hr, findPath, List.range_eq_range', hfind r hr]

/-- Any other lookup reads what is not in it. -/
theorem lookupPath_eq_none {t : PathTable} {value : Bytes} :
    lookupPath t value = none ↔ ¬t.LookupStays value := by
  rw [lookupPath, ← Option.not_isSome_iff_eq_none, ← (lookupPath_go t value 0 t.nbPaths).1,
    not_iff_not]
  constructor
  · exact fun h i hi hbefore =>
      h i (Nat.zero_le i) (by omega) fun j _ hj => hbefore j hj
  · exact fun h i _ hi hbefore =>
      h i (by omega) fun j hj => hbefore j (Nat.zero_le j) hj

/-- The scan of `ezgrpc2_server_unregister_path` with its reads: `none` when `strcmp` reads behind the
array of a slot. -/
def unregisterSlotIn (t : PathTable) (path : CString) : Option (Option ℕ) :=
  go (List.range t.maxPaths)
where
  /-- The scan of the slots that are left. -/
  go : List ℕ → Option (Option ℕ)
    | [] => some none
    | i :: is =>
        if (t.paths 0).path.headD 0 != 0 then do
          let cmp ← strcmpIn (path.bytes ++ [0]) (t.paths i).path
          if !cmp then some (some i) else go is
        else go is

/-- Where all slots have terminators the scan stays in them, and ends where `unregisterSlot` says. -/
theorem unregisterSlotIn_of_terminated {t : PathTable} (path : CString)
    (h : ∀ i, 0 ∈ (t.paths i).path) : unregisterSlotIn t path = some (unregisterSlot t path) := by
  have hscan : ∀ is : List ℕ, unregisterSlotIn.go t path is
      = some (is.find? fun i =>
          (t.paths 0).path.headD 0 != 0 && !strcmp path.bytes (t.paths i).path) := by
    intro is
    induction is with
    | nil => rfl
    | cons i is ih =>
        rw [unregisterSlotIn.go, strcmpIn_comm, strcmpIn_append_zero (h i), strcmp_comm, ih,
          List.find?_cons]
        cases (t.paths 0).path.headD 0 != 0 with
        | false => rfl
        | true =>
            simp only [if_true, Option.bind_eq_bind, Option.bind_some, Bool.true_and]
            cases strcmp path.bytes (t.paths i).path <;> rfl
  exact hscan _

/-- The slot of a path: the end of the string is in it exactly when the string is shorter. -/
theorem zero_mem_strncpy (s : CString) (n : ℕ) : 0 ∈ strncpy s n ↔ s.bytes.length < n := by
  rw [strncpy, List.mem_append, List.mem_replicate]
  constructor
  · rintro (htake | ⟨hlen, -⟩)
    · exact absurd (List.mem_of_mem_take htake) s.zero_notMem
    · omega
  · exact fun h => Or.inr ⟨by omega, rfl⟩

/-- The call registers no path that fills its slot. -/
def PathCall.Short : PathCall → Prop
  | .register path _ _ _ => path.bytes.length < configPathMaxLen
  | .unregister _ => True

instance : (c : PathCall) → Decidable c.Short
  | .register path _ _ _ => inferInstanceAs (Decidable (path.bytes.length < configPathMaxLen))
  | .unregister _ => inferInstanceAs (Decidable True)

/-- A slot of zeros has a terminator. -/
theorem zero_mem_pathZero : 0 ∈ pathZero.path :=
  List.mem_replicate.mpr ⟨by decide, rfl⟩

/-- **Calls with short paths leave a terminator in every slot.** -/
theorem PathTable.terminated_call {t : PathTable} {c : PathCall} (h : ∀ i, 0 ∈ (t.paths i).path)
    (hshort : c.Short) (i : ℕ) : 0 ∈ ((t.call c).2.paths i).path := by
  have hset : ∀ k (p : Path), 0 ∈ p.path → 0 ∈ ((t.setSlot k p).paths i).path := by
    intro k p hp
    by_cases hi : i = k
    · rw [show (t.setSlot k p).paths i = p from if_pos hi]
      exact hp
    · rw [show (t.setSlot k p).paths i = t.paths i from if_neg hi]
      exact h i
  cases c with
  | register path userdata enc type =>
      rw [PathTable.call, serverRegisterPath]
      split
      · exact h i
      · exact hset _ _ ((zero_mem_strncpy path configPathMaxLen).mpr hshort)
  | unregister path =>
      rw [PathTable.call]
      cases hslot : unregisterSlot t path with
      | none =>
          rw [serverUnregisterPath_of_none hslot]
          exact h i
      | some k =>
          rw [serverUnregisterPath_of_some hslot]
          exact hset k pathZero zero_mem_pathZero

/-- In a table whose slots have terminators and which `nb_paths` does not go beyond, every lookup
stays. -/
theorem PathTable.lookupStays_of_terminated {t : PathTable} (h : ∀ i, 0 ∈ (t.paths i).path)
    (hle : t.nbPaths ≤ t.maxPaths) (value : Bytes) : t.LookupStays value :=
  fun i hi _ => ⟨hi.trans_le hle, h i⟩

/-! ## (3) Registrations -/

/-- A call of `ezgrpc2_server_register_path`, with its arguments. -/
structure Registration where
  /-- The path, a string of any length. -/
  path : CString
  /-- The pointer of the user that is registered with the path. -/
  userdata : ℕ
  /-- The content encodings that are accepted. -/
  acceptContentEncoding : ℕ
  /-- The content types that are accepted. -/
  acceptContentType : ℕ

/-- The call made on a path table. -/
def Registration.call (c : Registration) (t : PathTable) : ℕ × PathTable :=
  serverRegisterPath t c.path c.userdata c.acceptContentEncoding c.acceptContentType

/-- The table, and the strings of the calls that returned 0, in order. -/
structure RegisterState where
  /-- The path table as the calls left it. -/
  table : PathTable
  /-- The strings whose registration returned 0, in order. -/
  registered : List Bytes

/-- The state behind one more registration. -/
def RegisterState.after (st : RegisterState) (c : Registration) : RegisterState where
  table := (c.call st.table).2
  registered := if (c.call st.table).1 = 0 then st.registered ++ [c.path.bytes] else st.registered

/-- One registration; every call goes through. -/
def registerStep (st : RegisterState) (c : Registration) : Option RegisterState := some (st.after c)

/-- A new path table, for which nothing is registered. -/
def registerStart (maxPaths : MaxPaths) : RegisterState := ⟨pathTableNew maxPaths, []⟩

/-- The lookup of the value stays in the arrays and finds a slot. -/
def PathTable.Resolves (t : PathTable) (value : Bytes) : Prop :=
  ∃ i, findPathIn t value = some (some i)

/-- **What a registration is to do**: when it returns 0 it makes its own string resolvable and no other;
and every lookup behind it stays in the arrays and ends at the first entry that was registered with
the value looked up. -/
structure Registration.Registers (c : Registration) (st : RegisterState) : Prop where
  /-- A value resolves that did before, or that is the string registered. -/
  own : (c.call st.table).1 = 0 → ∀ value,
    (st.after c).table.Resolves value ↔ st.table.Resolves value ∨ value = c.path.bytes
  /-- The lookups find the strings that are registered, and read in the slots only. -/
  lookup : ∀ value, findPathIn (st.after c).table value
    = some ((st.after c).registered.findIdx? (· == value))

/-- **The invariant of short paths**: the slots in use hold the strings registered, with terminators. -/
structure RegisterState.Inv (st : RegisterState) : Prop where
  /-- Each registered string has one slot. -/
  nbPaths_eq : st.table.nbPaths = st.registered.length
  /-- There are slots for the strings that are registered. -/
  nbPaths_le : st.table.nbPaths ≤ st.table.maxPaths
  /-- The slots hold the registered strings, in order. -/
  pathAt_eq : ∀ i, i < st.table.nbPaths → st.registered[i]? = some (st.table.pathAt i)
  /-- The slots in use have terminators in their arrays. -/
  terminated : ∀ i, i < st.table.nbPaths → 0 ∈ (st.table.paths i).path

namespace RegisterState

variable {st : RegisterState} {c : Registration}

/-- Under the invariant every lookup is right. -/
theorem Inv.findPathIn (h : st.Inv) (value : Bytes) :
    findPathIn st.table value = some (st.registered.findIdx? (· == value)) := by
  rw [findPathIn_of_terminated h.terminated, Option.some.injEq]
  have hlt : ∀ i (hi : i < st.registered.length), st.registered[i] = st.table.pathAt i := by
    intro i hi
    have hslot := h.pathAt_eq i (h.nbPaths_eq ▸ hi)
    rwa [List.getElem?_eq_getElem hi, Option.some.injEq] at hslot
  cases hidx : st.registered.findIdx? (· == value) with
  | none =>
      rw [findPath_eq_none]
      rintro i hi heq
      rw [h.nbPaths_eq] at hi
      have hne := List.findIdx?_eq_none_iff.mp hidx _ (List.getElem_mem hi)
      rw [hlt i hi, heq, beq_self_eq_true] at hne
      cases hne
  | some i =>
      obtain ⟨hi, heq, hbefore⟩ := List.findIdx?_eq_some_iff_getElem.mp hidx
      rw [beq_iff_eq, hlt i hi] at heq
      refine findPath_eq_some.mpr ⟨h.nbPaths_eq.symm ▸ hi, heq, fun j hj hcon => ?_⟩
      have hne := hbefore j hj
      rw [hlt j (hj.trans hi), hcon, beq_self_eq_true] at hne
      exact hne rfl

/-- Under the invariant a value resolves exactly when it was registered. -/
theorem Inv.resolves_iff (h : st.Inv) (value : Bytes) :
    st.table.Resolves value ↔ value ∈ st.registered := by
  rw [PathTable.Resolves, h.findPathIn]
  simp only [Option.some.injEq, ← Option.isSome_iff_exists, List.findIdx?_isSome, List.any_eq_true,
    beq_iff_eq, exists_eq_right]

end RegisterState

/-- A table without a free slot refuses a path. -/
theorem Registration.call_of_full (c : Registration) {t : PathTable} (hfull : t.nbPaths = t.maxPaths) :
    c.call t = (1, t) := by
  have hmax := t.maxPaths_lt
  rw [Registration.call, serverRegisterPath, sizeT_of_lt (by omega), if_pos (by omega)]

/-- The slot as a registration fills it. -/
def Registration.slot (c : Registration) : Path where
  path := strncpy c.path configPathMaxLen
  userdata := c.userdata
  acceptContentEncoding := c.acceptContentEncoding
  acceptContentType := c.acceptContentType
  length_path := length_strncpy c.path configPathMaxLen

/-- A table with room stores it in the first free slot. -/
theorem Registration.call_of_free (c : Registration) {t : PathTable} (hfree : t.nbPaths < t.maxPaths) :
    c.call t = (0, { t.setSlot t.nbPaths c.slot with nbPaths := t.nbPaths + 1 }) := by
  have hmax := t.maxPaths_lt
  rw [Registration.call, serverRegisterPath, sizeT_of_lt (by omega), if_neg (by omega)]
  rfl

namespace RegisterState

variable {st : RegisterState} {c : Registration}

/-- A call that is refused changes nothing. -/
theorem after_of_full (c : Registration) (hfull : st.table.nbPaths = st.table.maxPaths) :
    st.after c = st := by
  rw [after, c.call_of_full hfull]
  rfl

/-- A registration that is not refused fills the next slot. -/
theorem after_of_free (c : Registration) (hfree : st.table.nbPaths < st.table.maxPaths) :
    st.after c = ⟨{ st.table.setSlot st.table.nbPaths c.slot with nbPaths := st.table.nbPaths + 1 },
      st.registered ++ [c.path.bytes]⟩ := by
  rw [after, c.call_of_free hfree]
  rfl

/-- The call stores a path that fits its slot with a terminator, if it stores one. -/
def Fits (st : RegisterState) (c : Registration) : Prop :=
  st.table.nbPaths < st.table.maxPaths → c.path.bytes.length < configPathMaxLen

/-- **A registration of a short path keeps the invariant.** -/
theorem Inv.after (h : st.Inv) (hfits : st.Fits c) : (st.after c).Inv := by
  rcases Nat.lt_or_eq_of_le h.nbPaths_le with hfree | hfull
  · have hlen := hfits hfree
    rw [after_of_free c hfree]
    have hold : ∀ i, i < st.table.nbPaths → (st.table.setSlot st.table.nbPaths c.slot).paths i
        = st.table.paths i := fun i hi => if_neg (Nat.ne_of_lt hi)
    have hnew : (st.table.setSlot st.table.nbPaths c.slot).paths st.table.nbPaths = c.slot :=
      if_pos rfl
    refine ⟨?_, Nat.succ_le_of_lt hfree, fun i hi => ?_, fun i hi => ?_⟩
    · show st.table.nbPaths + 1 = (st.registered ++ [c.path.bytes]).length
      rw [List.length_append, h.nbPaths_eq]
      rfl
    · show (st.registered ++ [c.path.bytes])[i]?
        = some (text ((st.table.setSlot st.table.nbPaths c.slot).paths i).path)
      rcases Nat.lt_succ_iff_lt_or_eq.mp hi with hi | rfl
      · rw [hold i hi, List.getElem?_append_left (h.nbPaths_eq ▸ hi), h.pathAt_eq i hi]
        rfl
      · rw [hnew, h.nbPaths_eq, List.getElem?_concat_length]
        exact congrArg some (text_strncpy hlen).symm
    · show 0 ∈ ((st.table.setSlot st.table.nbPaths c.slot).paths i).path
      rcases Nat.lt_succ_iff_lt_or_eq.mp hi with hi | rfl
      · rw [hold i hi]
        exact h.terminated i hi
      · rw [hnew]
        exact (zero_mem_strncpy c.path configPathMaxLen).mpr hlen
  · rw [after_of_full c hfull]
    exact h

/-- **A path that does not fit** is not found: its own lookup reads on behind the slot. -/
theorem Inv.not_registers (h : st.Inv) (hfits : ¬st.Fits c) : ¬c.Registers st := by
  obtain ⟨hfree, hlen⟩ := Classical.not_imp.mp hfits
  intro hreg
  have hlookup := hreg.lookup c.path.bytes
  rw [after_of_free c hfree] at hlookup
  have hnone : Ezgrpc2.findPathIn
      { st.table.setSlot st.table.nbPaths c.slot with nbPaths := st.table.nbPaths + 1 }
      c.path.bytes = none := by
    refine findPathIn_of_unterminated (Nat.lt_succ_self st.table.nbPaths) ?_ ?_
    · -- the paths in front of it are shorter
      intro i hi
      show text ((st.table.setSlot st.table.nbPaths c.slot).paths i).path ≠ c.path.bytes
      rw [show (st.table.setSlot st.table.nbPaths c.slot).paths i = st.table.paths i from
        if_neg (Nat.ne_of_lt hi)]
      intro heq
      have hterm := h.terminated i hi
      have hlt : (text (st.table.paths i).path).length < (st.table.paths i).path.length := by
        refine (List.takeWhile_prefix _).length_le.lt_of_ne fun hcon => ?_
        rw [← (List.takeWhile_prefix _).eq_of_length hcon] at hterm
        exact zero_notMem_text _ hterm
      rw [heq, (st.table.paths i).length_path] at hlt
      exact hlen hlt
    · show 0 ∉ ((st.table.setSlot st.table.nbPaths c.slot).paths st.table.nbPaths).path
      rw [show (st.table.setSlot st.table.nbPaths c.slot).paths st.table.nbPaths = c.slot from
        if_pos rfl]
      exact fun hcon => hlen ((zero_mem_strncpy c.path configPathMaxLen).mp hcon)
  rw [hnone] at hlookup
  cases hlookup

/-- **Under the invariant a call registers its path exactly when it fits.** -/
theorem Inv.registers_iff (h : st.Inv) : c.Registers st ↔ st.Fits c := by
  refine ⟨fun hreg => not_not.mp fun hfits => h.not_registers hfits hreg, fun hfits => ?_⟩
  have h' := h.after hfits
  refine ⟨fun hret value => ?_, h'.findPathIn⟩
  rw [h'.resolves_iff, h.resolves_iff, RegisterState.after, if_pos hret, List.mem_append,
    List.mem_singleton]

end RegisterState

/-- The invariant holds of a new path table. -/
theorem registerStart_inv (maxPaths : MaxPaths) : (registerStart maxPaths).Inv where
  nbPaths_eq := rfl
  nbPaths_le := Nat.zero_le _
  pathAt_eq _ hi := absurd hi (Nat.not_lt_zero _)
  terminated _ hi := absurd hi (Nat.not_lt_zero _)

/-- The calls that find room are the first ones. -/
theorem along_fits_iff (st : RegisterState) (hle : st.table.nbPaths ≤ st.table.maxPaths)
    (calls : List Registration) :
    Along registerStep RegisterState.Fits st calls ↔
      ∀ c ∈ calls.take (st.table.maxPaths - st.table.nbPaths),
        c.path.bytes.length < configPathMaxLen := by
  induction calls generalizing st with
  | nil => simp [Along]
  | cons c calls ih =>
      rw [along_cons_of_step rfl]
      rcases Nat.lt_or_eq_of_le hle with hfree | hfull
      · obtain ⟨n, hn⟩ : ∃ n, st.table.maxPaths - st.table.nbPaths = n + 1 :=
          ⟨st.table.maxPaths - st.table.nbPaths - 1, by omega⟩
        have hrest := ih (st.after c) (by
          rw [RegisterState.after_of_free c hfree]
          exact Nat.succ_le_of_lt hfree)
        have hroom : (st.after c).table.maxPaths - (st.after c).table.nbPaths = n := by
          rw [RegisterState.after_of_free c hfree]
          show st.table.maxPaths - (st.table.nbPaths + 1) = n
          omega
        rw [hroom] at hrest
        rw [hrest, hn, List.take_succ_cons, List.forall_mem_cons, RegisterState.Fits]
        exact and_congr_left fun _ => ⟨fun hfits => hfits hfree, fun hlen _ => hlen⟩
      · have hrest := ih st hle
        rw [hfull, Nat.sub_self, List.take_zero] at hrest
        rw [RegisterState.after_of_full c hfull, hrest, hfull, Nat.sub_self, List.take_zero]
        exact and_iff_right fun hcon => absurd hfull (Nat.ne_of_lt hcon)

/-- **For which registrations the table works**: each call that returns 0 makes its own string
resolvable and no other, and all lookups stay in the slots and find the first entry, exactly when the
paths that are stored, those of the first `max_paths` calls, are shorter than a slot. -/
theorem registerRun_lookup_iff (maxPaths : MaxPaths) (calls : List Registration) :
    Along registerStep (fun st c => c.Registers st) (registerStart maxPaths) calls ↔
      ∀ c ∈ calls.take maxPaths, c.path.bytes.length < configPathMaxLen := by
  rw [← show (registerStart maxPaths).table.maxPaths - (registerStart maxPaths).table.nbPaths
    = maxPaths from Nat.sub_zero _, ← along_fits_iff _ (Nat.zero_le _)]
  refine along_iff (I := RegisterState.Inv) ?_ (fun st c h => h.registers_iff)
    (registerStart_inv maxPaths) calls
  rintro st c st' h hfits ⟨⟩
  exact h.after hfits

/-- **A path of 64 bytes** fills its slot, and is not found. -/
theorem not_registerRun_lookup :
    ¬∀ (maxPaths : MaxPaths) (calls : List Registration),
      Along registerStep (fun st c => c.Registers st) (registerStart maxPaths) calls := by
  intro hall
  let c : Registration := ⟨⟨List.replicate 64 97, by decide⟩, 9, 0, 0⟩
  have hreg := (hall ⟨1, by decide⟩ [c]).1
  have hlookup := hreg.lookup c.path.bytes
  have hnone : Ezgrpc2.findPathIn ((registerStart ⟨1, by decide⟩).after c).table c.path.bytes
      = none := by
    decide +kernel
  rw [hnone] at hlookup
  cases hlookup

end Ezgrpc2
