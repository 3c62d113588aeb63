import Ezgrpc2.Lib.CStrings
import Ezgrpc2.Lib.Runs
import Ezgrpc2.Message
import Ezgrpc2.SizeT
import Mathlib.Data.List.AList

/-! # The path table

`ezgrpc2_server_register_path`, `ezgrpc2_server_unregister_path` and the `:path` lookup of
`on_header_callback` share one array of slots. The abstract table is a finite map from paths to
userdata, an `AList`; `PathTable.Represents` says that a table behaves as such a map.

Registration writes the slot at `nb_paths` and the lookup scans the slots below it, but
unregistration blanks a slot in place and its guard looks at slot 0. `pathRun_agrees_iff` says
for which runs of calls the table is a finite map all the same. -/

namespace Ezgrpc2

open CStrings StepRuns

/-! ## (1) The code -/

/-- `CONFIG_PATH_MAX_LEN`, as the build configures it. -/
def configPathMaxLen : ℕ := 64

/-- `struct ezgrpc2_path`, a slot of the table. A `void *` is an address, 0 the null pointer. -/
structure Path where
  /-- The array the path is stored in. -/
  path : Bytes
  /-- The pointer of the user that is registered with the path. -/
  userdata : ℕ
  /-- The content encodings that are accepted, which no callback reads. -/
  acceptContentEncoding : ℕ
  /-- The content types that are accepted, which no callback reads. -/
  acceptContentType : ℕ
  /-- The array of the path has `CONFIG_PATH_MAX_LEN` bytes. -/
  length_path : path.length = configPathMaxLen

/-- A slot of zeros, as `calloc` and `memset` leave it. -/
def pathZero : Path where
  path := List.replicate configPathMaxLen 0
  userdata := 0
  acceptContentEncoding := 0
  acceptContentType := 0
  length_path := List.length_replicate

/-- The fields of `struct ezgrpc2_server` that make up the path table. -/
structure PathTable where
  /-- `http2_settings.max_paths`, the number of slots. -/
  maxPaths : ℕ
  /-- `nb_paths`, the number of paths as the calls count them. -/
  nbPaths : ℕ
  /-- The slots of the table, by their indices. -/
  paths : ℕ → Path
  /-- The array was allocated: its size in bytes is a `size_t`. -/
  size_lt : maxPaths * configPathMaxLen < 2 ^ 64

/-- A value of `max_paths` whose table can be allocated. -/
abbrev MaxPaths := {n : ℕ // n * configPathMaxLen < 2 ^ 64}

/-- The table of `ezgrpc2_server_new`: `max_paths` slots of zeros. -/
def pathTableNew (maxPaths : MaxPaths) : PathTable where
  maxPaths := maxPaths
  nbPaths := 0
  paths := fun _ => pathZero
  size_lt := maxPaths.2

/-- An empty table of ten slots. -/
def pathTableTen : PathTable := pathTableNew ⟨10, by decide⟩

/-- The table with one slot overwritten. -/
def PathTable.setSlot (t : PathTable) (i : ℕ) (p : Path) : PathTable :=
  { t with paths := fun j => if j = i then p else t.paths j }

/-- `ezgrpc2_server_register_path`: the value returned and the table; `nb_paths` is a `size_t`. -/
def serverRegisterPath (t : PathTable) (path : CString) (userdata acceptContentEncoding
    acceptContentType : ℕ) : ℕ × PathTable :=
  if sizeT (t.nbPaths + 1) > t.maxPaths then (1, t)
  else
    let slot : Path :=
      { path := strncpy path configPathMaxLen
        userdata := userdata
        acceptContentEncoding := acceptContentEncoding
        acceptContentType := acceptContentType
        length_path := length_strncpy path configPathMaxLen }
    (0, { t.setSlot t.nbPaths slot with nbPaths := sizeT (t.nbPaths + 1) })

/-- The slot the loop of `ezgrpc2_server_unregister_path` stops at. The first test of its condition
reads slot 0, whatever slot the loop is at. -/
def unregisterSlot (t : PathTable) (path : CString) : Option ℕ :=
  (List.range t.maxPaths).find? fun i =>
    (t.paths 0).path.headD 0 != 0 && !strcmp path.bytes (t.paths i).path

/-- `ezgrpc2_server_unregister_path`: the pointer returned and the table. -/
def serverUnregisterPath (t : PathTable) (path : CString) : ℕ × PathTable :=
  match unregisterSlot t path with
  | some i =>
      ((t.paths i).userdata,
        { t.setSlot i pathZero with nbPaths := sizePred t.nbPaths })
  | none => (0, t)

/-- The macro `EZSTRCMP` of `on_header_callback`: 0 when the string `str1` and the `str2len` bytes
at `str2`, which a zero byte follows, are the same. -/
def ezstrcmp (str1 str2 : Bytes) : Bool :=
  !(strlen str1 == str2.length && !strcmp str1 str2)

/-- The `:path` lookup of `on_header_callback`: the first slot below `nb_paths` that holds `value`. It
takes the end of a slot for the end of the string there, so it is the code's lookup as long as that
comes to slots with terminators only; `lookupPath` is the one with the reads. -/
def findPath (t : PathTable) (value : Bytes) : Option ℕ :=
  (List.range t.nbPaths).find? fun i => !ezstrcmp (t.paths i).path value

/-! ## (2) What the scans find -/

/-- The path in a slot, up to its terminator or the end of the array. -/
def PathTable.pathAt (t : PathTable) (i : ℕ) : Bytes := text (t.paths i).path

/-- The userdata in a slot, null where it is blank. -/
def PathTable.userdataAt (t : PathTable) (i : ℕ) : ℕ := (t.paths i).userdata

/-- The macro returns 0 exactly when the strings are the same. -/
theorem ezstrcmp_eq_false {str1 str2 : Bytes} :
    ezstrcmp str1 str2 = false ↔ text str1 = str2 := by
  rw [ezstrcmp, Bool.not_eq_false', Bool.and_eq_true, beq_iff_eq, Bool.not_eq_true',
    strcmp_eq_false, strlen]
  constructor
  · rintro ⟨hlen, heq⟩
    -- equally long, so `str2` has no inner zero byte
    have hpre : text str2 <+: str2 := List.takeWhile_prefix _
    rw [heq] at hlen ⊢
    exact hpre.eq_of_length hlen
  · rintro rfl
    exact ⟨rfl, (text_of_notMem (zero_notMem_text str1)).symm⟩

/-- The guard of the unregistration: slot 0 holds a path that is not empty. -/
theorem headD_path_ne_zero (t : PathTable) :
    ((t.paths 0).path.headD 0 != 0) = true ↔ t.pathAt 0 ≠ [] := by
  have hlen := (t.paths 0).length_path
  rw [PathTable.pathAt, Ne, text_eq_nil (by intro h; rw [h] at hlen; cases hlen)]
  cases hp : (t.paths 0).path with
  | nil => rw [hp] at hlen; cases hlen
  | cons b a => simp

/-- Where the lookup of a value ends. -/
theorem findPath_eq_some {t : PathTable} {value : Bytes} {i : ℕ} :
    findPath t value = some i ↔
      i < t.nbPaths ∧ t.pathAt i = value ∧ ∀ j, j < i → t.pathAt j ≠ value := by
  rw [findPath, List.find?_range_eq_some, List.mem_range]
  simp only [Bool.not_eq_true', ezstrcmp_eq_false, Bool.not_not, PathTable.pathAt]
  constructor
  · rintro ⟨hi, hlt, hj⟩
    refine ⟨hlt, hi, fun j hji heq => ?_⟩
    have hne := hj j hji
    rw [ezstrcmp_eq_false.mpr heq] at hne
    cases hne
  · rintro ⟨hlt, hi, hj⟩
    refine ⟨hi, hlt, fun j hji => ?_⟩
    by_contra hcon
    exact hj j hji (ezstrcmp_eq_false.mp (by simpa using hcon))

/-- No slot in use holds a value that is not found. -/
theorem findPath_eq_none {t : PathTable} {value : Bytes} :
    findPath t value = none ↔ ∀ i, i < t.nbPaths → t.pathAt i ≠ value := by
  rw [findPath, List.find?_range_eq_none]
  refine forall_congr' fun i => imp_congr_right fun _ => ?_
  rw [Bool.not_not, Ne, PathTable.pathAt, ← ezstrcmp_eq_false, Bool.not_eq_false]

/-- The test of the loop of an unregistration: slot 0 is not blank, and this slot holds the path. -/
theorem unregister_test {t : PathTable} {path : CString} {i : ℕ} :
    ((t.paths 0).path.headD 0 != 0 && !strcmp path.bytes (t.paths i).path) = true ↔
      t.pathAt 0 ≠ [] ∧ t.pathAt i = path.bytes := by
  rw [Bool.and_eq_true, headD_path_ne_zero, Bool.not_eq_true', strcmp_eq_false, text_bytes]
  exact and_congr_right fun _ => eq_comm

/-- Where the unregistration of a path ends. -/
theorem unregisterSlot_eq_some {t : PathTable} {path : CString} {i : ℕ} :
    unregisterSlot t path = some i ↔
      i < t.maxPaths ∧ t.pathAt 0 ≠ [] ∧ t.pathAt i = path.bytes ∧
        ∀ j, j < i → t.pathAt j ≠ path.bytes := by
  rw [unregisterSlot, List.find?_range_eq_some, List.mem_range, unregister_test]
  constructor
  · rintro ⟨⟨h0, hi⟩, hlt, hj⟩
    refine ⟨hlt, h0, hi, fun j hji heq => ?_⟩
    have hne := hj j hji
    rw [unregister_test.mpr ⟨h0, heq⟩] at hne
    cases hne
  · rintro ⟨hlt, h0, hi, hj⟩
    refine ⟨⟨h0, hi⟩, hlt, fun j hji => ?_⟩
    by_contra hcon
    rw [Bool.not_eq_true', Bool.not_eq_false] at hcon
    exact hj j hji (unregister_test.mp hcon).2

/-- An unregistration finds no slot when slot 0 is blank or no slot holds the path. -/
theorem unregisterSlot_eq_none {t : PathTable} {path : CString} :
    unregisterSlot t path = none ↔
      (t.pathAt 0 ≠ [] → ∀ i, i < t.maxPaths → t.pathAt i ≠ path.bytes) := by
  rw [unregisterSlot, List.find?_range_eq_none]
  constructor
  · intro h h0 i hi heq
    have hne := h i hi
    rw [unregister_test.mpr ⟨h0, heq⟩] at hne
    cases hne
  · intro h i hi
    rw [Bool.not_eq_true', ← Bool.not_eq_true]
    intro hcon
    obtain ⟨h0, heq⟩ := unregister_test.mp hcon
    exact h h0 i hi heq

/-! ## (3) Updates of the table -/

/-- The number of slots is far below the end of `size_t`. -/
theorem PathTable.maxPaths_lt (t : PathTable) : t.maxPaths < 2 ^ 58 := by
  have h := t.size_lt
  rw [configPathMaxLen] at h
  omega

/-- The table with slot `i` zeroed and one path less counted, as an unregistration leaves it. -/
def PathTable.blankSlot (t : PathTable) (i : ℕ) : PathTable :=
  { t.setSlot i pathZero with nbPaths := sizePred t.nbPaths }

theorem serverUnregisterPath_of_some {t : PathTable} {path : CString} {i : ℕ}
    (h : unregisterSlot t path = some i) :
    serverUnregisterPath t path = (t.userdataAt i, t.blankSlot i) := by
  rw [serverUnregisterPath, h]
  rfl

theorem serverUnregisterPath_of_none {t : PathTable} {path : CString}
    (h : unregisterSlot t path = none) : serverUnregisterPath t path = (0, t) := by
  rw [serverUnregisterPath, h]

section Update

variable (t : PathTable) (i j : ℕ)

theorem PathTable.pathAt_blankSlot :
    (t.blankSlot i).pathAt j = if j = i then [] else t.pathAt j := by
  by_cases h : j = i
  · rw [if_pos h, PathTable.pathAt, PathTable.blankSlot, PathTable.setSlot]
    simp only [if_pos h]
    exact text_replicate_zero _
  · rw [if_neg h, PathTable.pathAt, PathTable.blankSlot, PathTable.setSlot]
    simp only [if_neg h]
    rfl

theorem PathTable.userdataAt_blankSlot :
    (t.blankSlot i).userdataAt j = if j = i then 0 else t.userdataAt j := by
  by_cases h : j = i
  · rw [if_pos h, PathTable.userdataAt, PathTable.blankSlot, PathTable.setSlot]
    simp only [if_pos h]
    rfl
  · rw [if_neg h, PathTable.userdataAt, PathTable.blankSlot, PathTable.setSlot]
    simp only [if_neg h]
    rfl

theorem PathTable.maxPaths_blankSlot : (t.blankSlot i).maxPaths = t.maxPaths := rfl

theorem PathTable.nbPaths_blankSlot (h0 : 0 < t.nbPaths) :
    (t.blankSlot i).nbPaths = t.nbPaths - 1 := sizePred_of_pos h0

end Update

/-! ## (4) The abstract table -/

/-- **The abstract table**: the registered paths with their userdata. -/
abbrev PathMap := AList fun _ : Bytes => ℕ

theorem PathMap.length_keys_insert {m : PathMap} {p : Bytes} (h : p ∉ m) (u : ℕ) :
    (m.insert p u).keys.length = m.keys.length + 1 := by
  rw [AList.insert_of_notMem h]
  rfl

theorem PathMap.length_keys_erase {m : PathMap} {p : Bytes} (h : p ∈ m) :
    (m.erase p).keys.length = m.keys.length - 1 := by
  rw [AList.keys_erase]
  exact @List.length_erase_of_mem _ instBEqOfDecidableEq inferInstance _ _ (AList.mem_keys.mp h)

/-- **The table behaves as the finite map `m`**: the lookup resolves the paths of `m` to their
userdata and nothing else, and `nb_paths` counts them. -/
structure PathTable.Represents (t : PathTable) (m : PathMap) : Prop where
  /-- `nb_paths` is the number of registered paths. -/
  nbPaths_eq : t.nbPaths = m.keys.length
  /-- The lookup is that of the map. -/
  findPath_eq : ∀ value, (findPath t value).map t.userdataAt = m.lookup value

/-- A call of the application on the path table. -/
inductive PathCall where
  /-- A call of `ezgrpc2_server_register_path` with its arguments. -/
  | register (path : CString) (userdata acceptContentEncoding acceptContentType : ℕ)
  /-- A call of `ezgrpc2_server_unregister_path` for a path. -/
  | unregister (path : CString)

/-- What the callers keep to: paths shorter than the array, and none registered twice. -/
def PathCall.Legal (m : PathMap) : PathCall → Prop
  | .register path _ _ _ => path.bytes.length < configPathMaxLen ∧ path.bytes ∉ m
  | .unregister path => path.bytes.length < configPathMaxLen

instance (m : PathMap) : (c : PathCall) → Decidable (c.Legal m)
  | .register path _ _ _ =>
      inferInstanceAs (Decidable (path.bytes.length < configPathMaxLen ∧ path.bytes ∉ m))
  | .unregister path => inferInstanceAs (Decidable (path.bytes.length < configPathMaxLen))

/-- A call in the code: the value returned and the table. -/
def PathTable.call (t : PathTable) : PathCall → ℕ × PathTable
  | .register path userdata enc type => serverRegisterPath t path userdata enc type
  | .unregister path => serverUnregisterPath t path

/-- A call on the finite map: registering fails exactly when `maxPaths` paths are registered, and
unregistering returns the userdata of a path that is there and the null pointer otherwise. -/
def PathMap.call (maxPaths : ℕ) (m : PathMap) : PathCall → ℕ × PathMap
  | .register path userdata _ _ =>
      if m.keys.length = maxPaths then (1, m) else (0, m.insert path.bytes userdata)
  | .unregister path => ((m.lookup path.bytes).getD 0, m.erase path.bytes)

/-- The table and the map of a run of calls. -/
structure PathState where
  /-- The path table as the calls of the code left it. -/
  table : PathTable
  /-- The paths registered and not unregistered since. -/
  registered : PathMap

/-- One call, made on both; the callers make legal calls only. -/
def pathStep (s : PathState) (c : PathCall) : Option PathState :=
  if c.Legal s.registered then
    some ⟨(s.table.call c).2, (PathMap.call s.table.maxPaths s.registered c).2⟩
  else none

/-- **A call behaves as on a finite map**: it returns what it returns there, leaves a table that
represents the map left there, and changes nothing when it unregisters a path that is not there. -/
def PathState.Agrees (s : PathState) (c : PathCall) : Prop :=
  c.Legal s.registered →
    (s.table.call c).1 = (PathMap.call s.table.maxPaths s.registered c).1 ∧
    (s.table.call c).2.Represents (PathMap.call s.table.maxPaths s.registered c).2 ∧
    ∀ path, c = .unregister path → path.bytes ∉ s.registered → (s.table.call c).2 = s.table

/-- **The calls that miss the defect.** A path that is registered is unregistered while slot 0 holds
a path that is not empty, and it is the one in the last slot in use (or blanking its slot puts
there what the last slot holds: the empty path without userdata). The empty path, when it is not
registered, is not unregistered while slot 0 holds another path and some slot is free. -/
def PathState.Clean (s : PathState) : PathCall → Prop
  | .register _ _ _ _ => True
  | .unregister path =>
      if path.bytes ∈ s.registered then
        s.table.pathAt 0 ≠ [] ∧
          (s.table.pathAt (s.table.nbPaths - 1) = path.bytes ∨
            s.table.pathAt (s.table.nbPaths - 1) = [] ∧
              s.table.userdataAt (s.table.nbPaths - 1) = 0)
      else
        s.table.pathAt 0 ≠ [] → path.bytes = [] → s.table.nbPaths = s.table.maxPaths

/-- **What clean calls keep**: the slots below `nb_paths` hold the registered paths, each once, and
the slots above are blank. -/
structure PathState.Inv (s : PathState) : Prop where
  /-- `nb_paths` is the number of registered paths. -/
  nbPaths_eq : s.table.nbPaths = s.registered.keys.length
  /-- The slots in use are slots. -/
  nbPaths_le : s.table.nbPaths ≤ s.table.maxPaths
  /-- A slot in use holds a registered path with its userdata. -/
  slot : ∀ i, i < s.table.nbPaths →
    s.registered.lookup (s.table.pathAt i) = some (s.table.userdataAt i)
  /-- A registered path is in a slot in use. -/
  held : ∀ p, p ∈ s.registered → ∃ i, i < s.table.nbPaths ∧ s.table.pathAt i = p
  /-- No path is in two slots. -/
  inj : ∀ i j, i < s.table.nbPaths → j < s.table.nbPaths →
    s.table.pathAt i = s.table.pathAt j → i = j
  /-- The slots from `nb_paths` on are blank. -/
  blank : ∀ i, s.table.nbPaths ≤ i → i < s.table.maxPaths → s.table.pathAt i = []

/-- A table with the invariant represents its map. -/
theorem PathState.Inv.represents {s : PathState} (h : s.Inv) :
    s.table.Represents s.registered := by
  refine ⟨h.nbPaths_eq, fun value => ?_⟩
  by_cases hmem : value ∈ s.registered
  · obtain ⟨i, hi, heq⟩ := h.held value hmem
    have hfind : findPath s.table value = some i := by
      rw [findPath_eq_some]
      refine ⟨hi, heq, fun j hj hcon => ?_⟩
      have hji := h.inj j i (hj.trans hi) hi (hcon.trans heq.symm)
      omega
    rw [hfind, Option.map_some, ← heq, h.slot i hi]
  · have hnone : findPath s.table value = none := by
      rw [findPath_eq_none]
      rintro i hi rfl
      have hslot := h.slot i hi
      rw [AList.lookup_eq_none.mpr hmem] at hslot
      cases hslot
    rw [hnone, AList.lookup_eq_none.mpr hmem, Option.map_none]

/-! ## (5) Registering -/

section Register

variable {s : PathState} {path : CString} {userdata enc type : ℕ}

/-- A table without a free slot refuses a path and stays as it is. -/
theorem serverRegisterPath_of_full (hfull : s.table.nbPaths = s.table.maxPaths) :
    serverRegisterPath s.table path userdata enc type = (1, s.table) := by
  have hmax := s.table.maxPaths_lt
  rw [serverRegisterPath, sizeT_of_lt (by omega), if_pos (by omega)]

/-- **Registering on a table with a free slot** fills the first one. -/
theorem serverRegisterPath_of_free (userdata enc type : ℕ) (h : s.Inv)
    (hfree : s.table.nbPaths ≠ s.table.maxPaths)
    (hlen : path.bytes.length < configPathMaxLen) :
    (serverRegisterPath s.table path userdata enc type).1 = 0 ∧
      (serverRegisterPath s.table path userdata enc type).2.maxPaths = s.table.maxPaths ∧
      (serverRegisterPath s.table path userdata enc type).2.nbPaths = s.table.nbPaths + 1 ∧
      ∀ i, (serverRegisterPath s.table path userdata enc type).2.pathAt i
          = (if i = s.table.nbPaths then path.bytes else s.table.pathAt i) ∧
        (serverRegisterPath s.table path userdata enc type).2.userdataAt i
          = (if i = s.table.nbPaths then userdata else s.table.userdataAt i) := by
  have hmax := s.table.maxPaths_lt
  have hle := h.nbPaths_le
  rw [serverRegisterPath, sizeT_of_lt (by omega), if_neg (by omega)]
  refine ⟨rfl, rfl, rfl, fun i => ?_⟩
  · simp only [PathTable.pathAt, PathTable.userdataAt, PathTable.setSlot]
    by_cases hi : i = s.table.nbPaths
    · simp only [if_pos hi]
      exact ⟨text_strncpy hlen, trivial⟩
    · simp only [if_neg hi]
      exact ⟨trivial, trivial⟩

/-- Registering a new path keeps the invariant. -/
theorem PathState.Inv.register (h : s.Inv) (hlen : path.bytes.length < configPathMaxLen)
    (hnew : path.bytes ∉ s.registered) (hfree : s.table.nbPaths ≠ s.table.maxPaths) :
    PathState.Inv ⟨(serverRegisterPath s.table path userdata enc type).2,
      s.registered.insert path.bytes userdata⟩ := by
  obtain ⟨-, hmax, hnb, hslots⟩ := serverRegisterPath_of_free userdata enc type h hfree hlen
  generalize (serverRegisterPath s.table path userdata enc type).2 = t' at *
  have hle := h.nbPaths_le
  -- the slots in use held other paths
  have hother : ∀ i, i < s.table.nbPaths → s.table.pathAt i ≠ path.bytes := by
    intro i hi heq
    have hslot := h.slot i hi
    rw [heq, AList.lookup_eq_none.mpr hnew] at hslot
    cases hslot
  constructor
  · show t'.nbPaths = (s.registered.insert path.bytes userdata).keys.length
    rw [hnb, PathMap.length_keys_insert hnew, h.nbPaths_eq]
  · show t'.nbPaths ≤ t'.maxPaths
    omega
  · intro i hi
    show (s.registered.insert path.bytes userdata).lookup (t'.pathAt i) = some (t'.userdataAt i)
    rw [(hslots i).1, (hslots i).2]
    by_cases hlast : i = s.table.nbPaths
    · rw [if_pos hlast, if_pos hlast, AList.lookup_insert]
    · have hlt : i < s.table.nbPaths := by
        have hi' : i < t'.nbPaths := hi
        omega
      rw [if_neg hlast, if_neg hlast, AList.lookup_insert_ne (hother i hlt), h.slot i hlt]
  · intro p hp
    show ∃ i, i < t'.nbPaths ∧ t'.pathAt i = p
    rcases (AList.mem_insert s.registered).mp hp with rfl | hold
    · refine ⟨s.table.nbPaths, by omega, ?_⟩
      rw [(hslots _).1, if_pos rfl]
    · obtain ⟨i, hi, heq⟩ := h.held p hold
      refine ⟨i, by omega, ?_⟩
      rw [(hslots i).1, if_neg (by omega), heq]
  · intro i j hi hj
    show t'.pathAt i = t'.pathAt j → i = j
    have hi' : i < t'.nbPaths := hi
    have hj' : j < t'.nbPaths := hj
    rw [(hslots i).1, (hslots j).1]
    by_cases hil : i = s.table.nbPaths <;> by_cases hjl : j = s.table.nbPaths
    · exact fun _ => hil.trans hjl.symm
    · rw [if_pos hil, if_neg hjl]
      exact fun heq => absurd heq.symm (hother j (by omega))
    · rw [if_neg hil, if_pos hjl]
      exact fun heq => absurd heq (hother i (by omega))
    · rw [if_neg hil, if_neg hjl]
      exact h.inj i j (by omega) (by omega)
  · intro i hi hlt
    have hi' : t'.nbPaths ≤ i := hi
    have hlt' : i < t'.maxPaths := hlt
    show t'.pathAt i = []
    rw [(hslots i).1, if_neg (by omega), h.blank i (by omega) (by omega)]

end Register

/-! ## (6) Unregistering -/

section Unregister

variable {s : PathState} {path : CString} {k : ℕ}

/-- A slot is in use when it holds a path that is registered or not empty. -/
theorem PathState.Inv.lt_nbPaths (h : s.Inv) {i : ℕ} (hi : i < s.table.maxPaths)
    (hne : s.table.pathAt i ≠ []) : i < s.table.nbPaths := by
  by_contra hcon
  exact hne (h.blank i (Nat.le_of_not_lt hcon) hi)

/-- A registered path is unregistered at its own slot, unless slot 0 holds the empty path. -/
theorem PathState.Inv.unregisterSlot_of_mem (h : s.Inv) (hmem : path.bytes ∈ s.registered)
    (h0 : s.table.pathAt 0 ≠ []) :
    ∃ k, k < s.table.nbPaths ∧ s.table.pathAt k = path.bytes ∧
      unregisterSlot s.table path = some k := by
  obtain ⟨k, hk, heq⟩ := h.held _ hmem
  refine ⟨k, hk, heq, ?_⟩
  rw [unregisterSlot_eq_some]
  refine ⟨hk.trans_le h.nbPaths_le, h0, heq, fun j hj hcon => ?_⟩
  have hjk := h.inj j k (hj.trans hk) hk (hcon.trans heq.symm)
  omega

/-- The userdata of a registered path is in its slot. -/
theorem PathState.Inv.lookup_of_slot (h : s.Inv) (hk : k < s.table.nbPaths)
    (heq : s.table.pathAt k = path.bytes) :
    s.registered.lookup path.bytes = some (s.table.userdataAt k) := by
  rw [← heq]
  exact h.slot k hk

/-- A path that is not registered stops at no slot, unless it is the empty one and a blank slot lies
behind a slot 0 in use. -/
theorem PathState.Inv.unregisterSlot_of_notMem (h : s.Inv) (hmem : path.bytes ∉ s.registered)
    (hclean : s.table.pathAt 0 ≠ [] → path.bytes = [] → s.table.nbPaths = s.table.maxPaths) :
    unregisterSlot s.table path = none := by
  rw [unregisterSlot_eq_none]
  intro h0 i hi heq
  have hused : s.table.nbPaths ≤ i := by
    by_contra hcon
    have hlookup := h.lookup_of_slot (Nat.lt_of_not_le hcon) heq
    rw [AList.lookup_eq_none.mpr hmem] at hlookup
    cases hlookup
  have hfull := hclean h0 (heq.symm.trans (h.blank i hused hi))
  omega

/-- **What lets the slot of `path` be blanked**: the last slot in use holds `path`, or what blanking puts in
the slot of `path`. -/
def PathState.LastYields (s : PathState) (path : CString) : Prop :=
  s.table.pathAt (s.table.nbPaths - 1) = path.bytes ∨
    s.table.pathAt (s.table.nbPaths - 1) = [] ∧ s.table.userdataAt (s.table.nbPaths - 1) = 0

/-- Either the slot is the last one in use, or the last slot holds the empty path without userdata. -/
theorem PathState.Inv.lastYields_cases (h : s.Inv) (hk : k < s.table.nbPaths)
    (heq : s.table.pathAt k = path.bytes) (hlast : s.LastYields path) :
    k = s.table.nbPaths - 1 ∨ k < s.table.nbPaths - 1 ∧
      s.table.pathAt (s.table.nbPaths - 1) = [] ∧
        s.table.userdataAt (s.table.nbPaths - 1) = 0 := by
  rcases hlast with hpath | hempty
  · exact Or.inl (h.inj _ _ hk (by omega) (heq.trans hpath.symm))
  · rcases Nat.lt_or_ge k (s.table.nbPaths - 1) with hlt | hge
    · exact Or.inr ⟨hlt, hempty⟩
    · exact Or.inl (by omega)

/-- Of the slots in use only one holds the path. -/
theorem PathState.Inv.pathAt_ne (h : s.Inv) (hk : k < s.table.nbPaths)
    (heq : s.table.pathAt k = path.bytes) {i : ℕ} (hi : i < s.table.nbPaths) (hik : i ≠ k) :
    s.table.pathAt i ≠ path.bytes :=
  fun hcon => hik (h.inj i k hi hk (hcon.trans heq.symm))

/-- The slots that stay in use hold what is still registered. -/
theorem PathState.Inv.slot_blankSlot (h : s.Inv) (hk : k < s.table.nbPaths)
    (heq : s.table.pathAt k = path.bytes) (hlast : s.LastYields path) {i : ℕ}
    (hi : i < s.table.nbPaths - 1) :
    (s.registered.erase path.bytes).lookup ((s.table.blankSlot k).pathAt i)
      = some ((s.table.blankSlot k).userdataAt i) := by
  rw [PathTable.pathAt_blankSlot, PathTable.userdataAt_blankSlot]
  by_cases hik : i = k
  · -- the slot is blanked: it holds what the last one held
    rcases h.lastYields_cases hk heq hlast with hkl | ⟨hlt, hnil, hzero⟩
    · omega
    · have hne : ([] : Bytes) ≠ path.bytes := by
        rw [← hnil]
        exact h.pathAt_ne hk heq (by omega) (by omega)
      have hslot := h.slot _ (by omega : s.table.nbPaths - 1 < s.table.nbPaths)
      rw [hnil, hzero] at hslot
      rw [if_pos hik, if_pos hik, AList.lookup_erase_ne hne, hslot]
  · rw [if_neg hik, if_neg hik, AList.lookup_erase_ne (h.pathAt_ne hk heq (by omega) hik),
      h.slot i (by omega)]

/-- What is still registered is in a slot that stays in use. -/
theorem PathState.Inv.held_blankSlot (h : s.Inv) (hk : k < s.table.nbPaths)
    (heq : s.table.pathAt k = path.bytes) (hlast : s.LastYields path) {p : Bytes}
    (hp : p ∈ s.registered.erase path.bytes) :
    ∃ i, i < s.table.nbPaths - 1 ∧ (s.table.blankSlot k).pathAt i = p := by
  obtain ⟨hpne, hpmem⟩ := AList.mem_erase.mp hp
  obtain ⟨i, hi, hpi⟩ := h.held p hpmem
  have hik : i ≠ k := by
    rintro rfl
    exact hpne (hpi.symm.trans heq)
  by_cases hil : i < s.table.nbPaths - 1
  · refine ⟨i, hil, ?_⟩
    rw [PathTable.pathAt_blankSlot, if_neg hik, hpi]
  · -- the path of the last slot: it is now found in the blanked one
    obtain rfl : i = s.table.nbPaths - 1 := by omega
    rcases h.lastYields_cases hk heq hlast with hkl | ⟨hlt, hnil, -⟩
    · exact absurd hkl.symm hik
    · refine ⟨k, hlt, ?_⟩
      rw [PathTable.pathAt_blankSlot, if_pos rfl, ← hpi, hnil]

/-- The slots that stay in use hold different paths. -/
theorem PathState.Inv.inj_blankSlot (h : s.Inv) (hk : k < s.table.nbPaths)
    (heq : s.table.pathAt k = path.bytes) (hlast : s.LastYields path) {i j : ℕ}
    (hi : i < s.table.nbPaths - 1) (hj : j < s.table.nbPaths - 1) :
    (s.table.blankSlot k).pathAt i = (s.table.blankSlot k).pathAt j → i = j := by
  rw [PathTable.pathAt_blankSlot, PathTable.pathAt_blankSlot]
  -- a slot that holds the empty path besides the blanked one would be the last one
  have hblank : ∀ l, l < s.table.nbPaths - 1 → k < s.table.nbPaths - 1 →
      s.table.pathAt l ≠ [] := by
    intro l hl hkl hcon
    rcases h.lastYields_cases hk heq hlast with hkl' | ⟨-, hnil, -⟩
    · omega
    · have hll := h.inj l _ (by omega) (by omega) (hcon.trans hnil.symm)
      omega
  by_cases hik : i = k <;> by_cases hjk : j = k
  · exact fun _ => hik.trans hjk.symm
  · rw [if_pos hik, if_neg hjk]
    exact fun hcon => absurd hcon.symm (hblank j (by omega) (by omega))
  · rw [if_neg hik, if_pos hjk]
    exact fun hcon => absurd hcon (hblank i (by omega) (by omega))
  · rw [if_neg hik, if_neg hjk]
    exact h.inj i j (by omega) (by omega)

/-- Behind an unregistration of the last path the slots from `nb_paths` on are blank. -/
theorem PathState.Inv.blank_blankSlot (h : s.Inv) (hk : k < s.table.nbPaths)
    (heq : s.table.pathAt k = path.bytes) (hlast : s.LastYields path) {i : ℕ}
    (hi : s.table.nbPaths - 1 ≤ i) (hlt : i < s.table.maxPaths) :
    (s.table.blankSlot k).pathAt i = [] := by
  rw [PathTable.pathAt_blankSlot]
  by_cases hik : i = k
  · rw [if_pos hik]
  · rw [if_neg hik]
    by_cases hil : i = s.table.nbPaths - 1
    · rcases h.lastYields_cases hk heq hlast with hkl | ⟨-, hnil, -⟩
      · omega
      · rw [hil, hnil]
    · exact h.blank i (by omega) hlt

/-- **Blanking the slot of `path` keeps the invariant** when the last slot in use holds `path`, or
what blanking puts in the slot of `path`. -/
theorem PathState.Inv.unregister (h : s.Inv) (hk : k < s.table.nbPaths)
    (heq : s.table.pathAt k = path.bytes) (hlast : s.LastYields path) :
    PathState.Inv ⟨s.table.blankSlot k, s.registered.erase path.bytes⟩ := by
  have hmem : path.bytes ∈ s.registered := by
    rw [← AList.lookup_isSome, h.lookup_of_slot hk heq]
    rfl
  have hnb : (s.table.blankSlot k).nbPaths = s.table.nbPaths - 1 :=
    s.table.nbPaths_blankSlot k (by omega)
  have hle := h.nbPaths_le
  constructor
  · show (s.table.blankSlot k).nbPaths = (s.registered.erase path.bytes).keys.length
    rw [hnb, PathMap.length_keys_erase hmem, h.nbPaths_eq]
  · show (s.table.blankSlot k).nbPaths ≤ (s.table.blankSlot k).maxPaths
    rw [hnb, PathTable.maxPaths_blankSlot]
    omega
  · exact fun i hi => h.slot_blankSlot hk heq hlast (hnb ▸ hi)
  · intro p hp
    obtain ⟨i, hi, hpi⟩ := h.held_blankSlot hk heq hlast hp
    exact ⟨i, hnb.symm ▸ hi, hpi⟩
  · exact fun i j hi hj => h.inj_blankSlot hk heq hlast (hnb ▸ hi) (hnb ▸ hj)
  · intro i hi hlt
    exact h.blank_blankSlot hk heq hlast (hnb ▸ hi) (PathTable.maxPaths_blankSlot s.table k ▸ hlt)

/-- **Blanking any other slot loses a path**: what the last slot in use holds is not resolved any
more. -/
theorem PathState.Inv.last_of_represents (h : s.Inv) (hk : k < s.table.nbPaths)
    (hrep : (s.table.blankSlot k).Represents (s.registered.erase path.bytes)) :
    s.LastYields path := by
  by_cases hlast : s.table.pathAt (s.table.nbPaths - 1) = path.bytes
  · exact Or.inl hlast
  · right
    have hnb : (s.table.blankSlot k).nbPaths = s.table.nbPaths - 1 :=
      s.table.nbPaths_blankSlot k (by omega)
    -- the path of the last slot is still registered, so some slot below must resolve it
    have hfind := hrep.findPath_eq (s.table.pathAt (s.table.nbPaths - 1))
    rw [AList.lookup_erase_ne hlast, h.slot _ (by omega)] at hfind
    obtain ⟨i, hi, hdata⟩ := Option.map_eq_some_iff.mp hfind
    obtain ⟨hlt, hpath, -⟩ := findPath_eq_some.mp hi
    rw [hnb] at hlt
    rw [PathTable.pathAt_blankSlot] at hpath
    rw [PathTable.userdataAt_blankSlot] at hdata
    by_cases hik : i = k
    · rw [if_pos hik] at hpath hdata
      exact ⟨hpath.symm, hdata.symm⟩
    · rw [if_neg hik] at hpath
      have hil := h.inj i _ (by omega) (by omega) hpath
      omega

end Unregister

/-! ## (7) Runs -/

/-- A clean legal call keeps the invariant. -/
theorem PathState.Inv.step {s s' : PathState} {c : PathCall} (h : s.Inv) (hclean : s.Clean c)
    (hstep : pathStep s c = some s') : s'.Inv := by
  rw [pathStep] at hstep
  by_cases hlegal : c.Legal s.registered
  · rw [if_pos hlegal] at hstep
    obtain rfl := Option.some.inj hstep
    cases c with
    | register path userdata enc type =>
        obtain ⟨hlen, hnew⟩ := hlegal
        simp only [PathTable.call, PathMap.call, ← h.nbPaths_eq]
        -- a full table refuses the path, and the map does too
        by_cases hfull : s.table.nbPaths = s.table.maxPaths
        · rw [serverRegisterPath_of_full hfull, if_pos hfull]
          exact h
        · rw [if_neg hfull]
          exact h.register hlen hnew hfull
    | unregister path =>
        simp only [PathTable.call, PathMap.call]
        rw [PathState.Clean] at hclean
        by_cases hmem : path.bytes ∈ s.registered
        · rw [if_pos hmem] at hclean
          -- slot 0 is not empty, so the scan reaches the slot of the path
          obtain ⟨k, hk, heq, hslot⟩ := h.unregisterSlot_of_mem hmem hclean.1
          rw [serverUnregisterPath_of_some hslot]
          exact h.unregister hk heq hclean.2
        · rw [if_neg hmem] at hclean
          rw [serverUnregisterPath_of_none (h.unregisterSlot_of_notMem hmem hclean)]
          -- nothing is found, and the map has nothing to erase
          have herase : s.registered.erase path.bytes = s.registered := by
            apply AList.ext
            exact List.kerase_of_notMem_keys (fun hcon => hmem (AList.mem_keys.mpr hcon))
          rw [herase]
          exact h
  · rw [if_neg hlegal] at hstep
    cases hstep

/-- **Under the invariant a call is right exactly when it is clean.** -/
theorem PathState.Inv.agrees_iff {s : PathState} (h : s.Inv) (c : PathCall) :
    s.Agrees c ↔ (c.Legal s.registered → s.Clean c) := by
  refine forall_congr' fun hlegal => ?_
  cases c with
  | register path userdata enc type =>
      obtain ⟨hlen, hnew⟩ := hlegal
      simp only [PathTable.call, PathMap.call, ← h.nbPaths_eq, PathState.Clean, iff_true]
      by_cases hfull : s.table.nbPaths = s.table.maxPaths
      · rw [serverRegisterPath_of_full hfull, if_pos hfull]
        exact ⟨rfl, h.represents, fun _ hcon => nomatch hcon⟩
      · rw [if_neg hfull]
        exact ⟨(serverRegisterPath_of_free userdata enc type h hfull hlen).1, (h.register hlen hnew hfull).represents,
          fun _ hcon => nomatch hcon⟩
  | unregister path =>
      simp only [PathTable.call, PathMap.call, PathState.Clean, PathCall.unregister.injEq,
        forall_eq']
      by_cases hmem : path.bytes ∈ s.registered
      · simp only [hmem, not_true_eq_false, false_implies, and_true, if_true]
        by_cases h0 : s.table.pathAt 0 = []
        · -- the guard looks at slot 0 and gives up: `nb_paths` counts the path still
          have hnone := unregisterSlot_eq_none.mpr
            (fun hcon => absurd h0 hcon : s.table.pathAt 0 ≠ [] →
              ∀ i, i < s.table.maxPaths → s.table.pathAt i ≠ path.bytes)
          rw [serverUnregisterPath_of_none hnone]
          constructor
          · rintro ⟨-, hrep⟩
            obtain ⟨i, hi, -⟩ := h.held _ hmem
            have hnb : s.table.nbPaths = (s.registered.erase path.bytes).keys.length :=
              hrep.nbPaths_eq
            rw [PathMap.length_keys_erase hmem, ← h.nbPaths_eq] at hnb
            omega
          · rintro ⟨hcon, -⟩
            exact absurd h0 hcon
        · obtain ⟨k, hk, heq, hslot⟩ := h.unregisterSlot_of_mem hmem h0
          rw [serverUnregisterPath_of_some hslot, h.lookup_of_slot hk heq]
          constructor
          · rintro ⟨-, hrep⟩
            exact ⟨h0, h.last_of_represents hk hrep⟩
          · rintro ⟨-, hlast⟩
            exact ⟨rfl, (h.unregister hk heq hlast).represents⟩
      · simp only [hmem, not_false_eq_true, true_implies, if_false]
        constructor
        · rintro ⟨-, -, hsame⟩ h0 hnil
          by_contra hfull
          -- the first blank slot would be blanked again, and the count would drop
          have hle := h.nbPaths_le
          cases hslot : unregisterSlot s.table path with
          | none =>
              refine unregisterSlot_eq_none.mp hslot h0 s.table.nbPaths (by omega) ?_
              rw [hnil]
              exact h.blank _ (Nat.le_refl _) (by omega)
          | some k =>
              have hpos := h.lt_nbPaths (by omega : 0 < s.table.maxPaths) h0
              have hnb := s.table.nbPaths_blankSlot k hpos
              rw [serverUnregisterPath_of_some hslot] at hsame
              rw [show s.table.blankSlot k = s.table from hsame] at hnb
              omega
        · intro hclean
          have hnone := h.unregisterSlot_of_notMem hmem hclean
          have hclean' : s.Clean (.unregister path) := by
            rw [PathState.Clean, if_neg hmem]
            exact hclean
          have hstep : pathStep s (.unregister path)
              = some ⟨s.table, s.registered.erase path.bytes⟩ := by
            rw [pathStep, if_pos hlegal]
            simp only [PathTable.call, PathMap.call, serverUnregisterPath_of_none hnone]
          rw [serverUnregisterPath_of_none hnone, AList.lookup_eq_none.mpr hmem]
          exact ⟨rfl, (h.step hclean' hstep).represents, rfl⟩

/-- The empty table represents the empty map. -/
theorem pathTableNew_inv (maxPaths : MaxPaths) : PathState.Inv ⟨pathTableNew maxPaths, ∅⟩ where
  nbPaths_eq := rfl
  nbPaths_le := Nat.zero_le _
  slot i hi := absurd hi (Nat.not_lt_zero i)
  held p hp := absurd hp (AList.notMem_empty p)
  inj i _ hi _ _ := absurd hi (Nat.not_lt_zero i)
  blank _ _ _ := text_replicate_zero configPathMaxLen

/-- **When the path table is a finite map.** In every run of legal calls on an empty table, all
calls behave as on a finite map exactly when all of them are clean. -/
theorem pathRun_agrees_iff (maxPaths : MaxPaths) (calls : List PathCall) :
    Along pathStep PathState.Agrees ⟨pathTableNew maxPaths, ∅⟩ calls ↔
      Along pathStep (fun s c => c.Legal s.registered → s.Clean c)
        ⟨pathTableNew maxPaths, ∅⟩ calls := by
  have hkeep : ∀ s c s', PathState.Inv s → (c.Legal s.registered → s.Clean c) →
      pathStep s c = some s' → s'.Inv := by
    intro s c s' hs hclean hstep
    refine hs.step (hclean ?_) hstep
    by_contra hcon
    rw [pathStep, if_neg hcon] at hstep
    cases hstep
  exact along_iff hkeep (fun s c hs => hs.agrees_iff c) (pathTableNew_inv maxPaths) calls

/-- Two paths are registered and the first is unregistered: the second is not resolved any more. -/
theorem pathRun_not_agrees :
    ¬Along pathStep PathState.Agrees ⟨pathTableNew ⟨10, by decide⟩, ∅⟩
      [.register ⟨[47, 97], by decide⟩ 1 0 0, .register ⟨[47, 98], by decide⟩ 2 0 0,
        .unregister ⟨[47, 97], by decide⟩] := by
  rintro ⟨-, h⟩
  obtain ⟨-, h⟩ := h _ rfl
  obtain ⟨h, -⟩ := h _ rfl
  obtain ⟨-, hrep, -⟩ := h (by decide)
  have hfind := hrep.findPath_eq [47, 98]
  revert hfind
  decide +kernel

end Ezgrpc2
