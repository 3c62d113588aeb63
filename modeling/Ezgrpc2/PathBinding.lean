import Ezgrpc2.PathLookup
import Ezgrpc2.StreamPath

/-! # The userdata of an event

A stream points into the path table, and each DATA frame reads the userdata out of the slot then. In
between the application may call on the table: `ezgrpc2_server_unregister_path` zeroes a slot, and
`ezgrpc2_server_register_path` writes the one at `nb_paths`, which an unregistration may have put in
front of a slot in use. A path that fills its slot is stored without its terminator, and the lookups
then read on behind it. `RequestState` remembers what was registered and what a stream requested, and
`requestRun_carries` says when its events carry that. -/

namespace Ezgrpc2

open CStrings StepRuns

/-! ## (1) What a call on the path table writes -/

/-- The slot a call on the path table writes. -/
def PathTable.writes (t : PathTable) : PathCall → Option ℕ
  | .register _ _ _ _ => if sizeT (t.nbPaths + 1) > t.maxPaths then none else some t.nbPaths
  | .unregister path => unregisterSlot t path

/-- The path a call registers, as it is passed to it, with its userdata; `none` when the call fails or
unregisters. -/
def PathTable.registers (t : PathTable) : PathCall → Option (Bytes × ℕ)
  | .register path userdata _ _ =>
      if sizeT (t.nbPaths + 1) > t.maxPaths then none else some (path.bytes, userdata)
  | .unregister _ => none

/-- A call leaves every slot that it does not write. -/
theorem PathTable.paths_call {t : PathTable} {call : PathCall} {slot : ℕ}
    (h : t.writes call ≠ some slot) : (t.call call).2.paths slot = t.paths slot := by
  cases call with
  | register path userdata enc type =>
      rw [PathTable.writes] at h
      rw [PathTable.call, serverRegisterPath]
      split
      · rfl
      · next hfree =>
          rw [if_neg hfree, Ne, Option.some.injEq] at h
          exact if_neg (Ne.symm h)
  | unregister path =>
      rw [PathTable.writes] at h
      rw [PathTable.call]
      cases hslot : unregisterSlot t path with
      | none => rw [serverUnregisterPath_of_none hslot]
      | some i =>
          rw [hslot, Ne, Option.some.injEq] at h
          rw [serverUnregisterPath_of_some hslot]
          exact if_neg (Ne.symm h)

/-- The slot that is written holds what was registered, if that is short enough, or nothing. -/
theorem PathTable.pathAt_call_of_writes {t : PathTable} {call : PathCall} {slot : ℕ}
    (hshort : call.Short) (h : t.writes call = some slot) :
    (t.call call).2.pathAt slot = [] ∨
      t.registers call = some ((t.call call).2.pathAt slot, (t.call call).2.userdataAt slot) := by
  cases call with
  | register path userdata enc type =>
      rw [PathTable.writes] at h
      rw [PathTable.call, serverRegisterPath, PathTable.registers]
      split at h
      · cases h
      · next hfree =>
          cases h
          refine Or.inr ?_
          rw [if_neg hfree, if_neg hfree, ← text_strncpy hshort]
          simp only [PathTable.pathAt, PathTable.userdataAt, PathTable.setSlot, if_true]
  | unregister path =>
      rw [PathTable.call, serverUnregisterPath_of_some h, PathTable.pathAt_blankSlot, if_pos rfl]
      exact Or.inl rfl

/-- **A call keeps the lookups in the table**: a path that it registers is shorter than a slot, and when
it zeroes a slot `nb_paths` is not 0. -/
def PathTable.KeepsLookups (t : PathTable) (call : PathCall) : Prop :=
  call.Short ∧ ∀ path, call = .unregister path → (unregisterSlot t path).isSome = true → 0 < t.nbPaths

/-- Such a call leaves at most as many paths as there are slots. -/
theorem PathTable.nbPaths_call_le {t : PathTable} {call : PathCall} (hle : t.nbPaths ≤ t.maxPaths)
    (h : t.KeepsLookups call) : (t.call call).2.nbPaths ≤ (t.call call).2.maxPaths := by
  cases call with
  | register path userdata enc type =>
      rw [PathTable.call, serverRegisterPath]
      split
      · exact hle
      · next hfree => exact Nat.not_lt.mp hfree
  | unregister path =>
      rw [PathTable.call]
      cases hslot : unregisterSlot t path with
      | none =>
          rw [serverUnregisterPath_of_none hslot]
          exact hle
      | some i =>
          have hpos := h.2 path rfl (by rw [hslot]; rfl)
          rw [serverUnregisterPath_of_some hslot, PathTable.nbPaths_blankSlot t i hpos,
            PathTable.maxPaths_blankSlot]
          omega

/-! ## (2) What was requested -/

/-- The `:path` that resolves, with the userdata registered for it. -/
def PathTable.resolve (t : PathTable) (value : Bytes) : Option (Bytes × ℕ) :=
  (findPath t value).map fun slot => (value, t.userdataAt slot)

/-- The sessions with what has been registered and requested. -/
structure RequestState where
  /-- The server with all its sessions. -/
  hub : Hub
  /-- The paths registered so far, as the calls were given them, with their userdata. -/
  registered : List (Bytes × ℕ)
  /-- **What an open stream requested**: the `:path` that resolved when its headers were processed, with
  the userdata registered for it then. -/
  requested : ℕ → ℤ → Option (Bytes × ℕ)

/-- The action brings no empty `:path`; nghttp2 delivers none. -/
def ClientAction.NamesPath : ClientAction → Prop
  | .header _ name value => name = bytesOf ":path" → value ≠ []
  | .beginHeaders _ _ _ | .frameRecv _ | .dataChunk _ _ | .streamClose _ => True

instance : (a : ClientAction) → Decidable a.NamesPath
  | .header _ name value => inferInstanceAs (Decidable (name = bytesOf ":path" → value ≠ []))
  | .beginHeaders _ _ _ | .frameRecv _ | .dataChunk _ _ | .streamClose _ =>
      inferInstanceAs (Decidable True)

/-- One action, with what it registers and requests. -/
def requestStep (st : RequestState) : HubAction → Option RequestState
  | .client i a =>
      if a.NamesPath then do
        let hub ← hubAct st.hub (.client i a)
        let r ← a.callback st.hub.server (st.hub.sessions i)
        some
          { hub := hub
            registered := st.registered
            requested := fun j id =>
              if j = i ∧ id = a.streamId then
                a.pathAfter st.hub.server.table.resolve r.ret (st.requested j id)
              else st.requested j id }
      else none
  | .pathCall call => do
      let hub ← hubAct st.hub (.pathCall call)
      some
        { st with
          hub := hub
          registered := st.registered ++ (st.hub.server.table.registers call).toList }

/-- Nothing is registered at a new server, and nothing requested. -/
def requestStart (initialWindowSize : ℕ) (maxPaths : MaxPaths) (handles : ℕ → SessionUuid)
    (sockfds : ℕ → ℤ) : RequestState where
  hub := hubNewSessions ⟨initialWindowSize, pathTableNew maxPaths, eventsNew⟩ handles sockfds
  registered := []
  requested := fun _ _ => none

namespace RequestState

/-- **Events carry what their stream requested**: the userdata that was registered for the `:path` when
the headers of the stream were processed. -/
def Carries (st : RequestState) : HubAction → Prop
  | .client i a => ∀ r es, a.callback st.hub.server (st.hub.sessions i) = some r →
      r.events.unread = st.hub.server.events.unread ++ es →
      ∀ e ∈ es, ∀ id, e.kind.streamId? = some id →
        ∃ path userdata, st.requested i id = some (path, userdata) ∧
          (path, userdata) ∈ st.registered ∧ e.userdata = some userdata
  | .pathCall _ => True

/-- **A call on the path table spares the open streams**: it writes no slot that one of them points to. -/
def Spares (st : RequestState) : HubAction → Prop
  | .client _ _ => True
  | .pathCall call => ∀ slot, st.hub.server.table.writes call = some slot →
      ∀ i id, (st.hub.sessions i).pathOf id ≠ some slot

/-- **The lookups stay in the table**: the lookup of no value reads what is not in a slot of the table,
so that it is the one the callbacks of the model make. -/
def LookupsStay (st : RequestState) : Prop :=
  ∀ value, lookupPath st.hub.server.table value = some (findPath st.hub.server.table value)

/-- A call on the path table keeps the lookups in it. -/
def KeepsLookups (st : RequestState) : HubAction → Prop
  | .client _ _ => True
  | .pathCall call => st.hub.server.table.KeepsLookups call

/-- The slot holds what was requested, and that was registered. -/
def Holds (st : RequestState) (slot : ℕ) (q : Bytes × ℕ) : Prop :=
  q = (st.hub.server.table.pathAt slot, st.hub.server.table.userdataAt slot) ∧ q ∈ st.registered

/-- **The invariant**: slots have terminators, those that are not blank were registered, and a stream
points to a slot that still holds what it requested. -/
structure Ok (st : RequestState) : Prop where
  /-- The user data of a stream is its object. -/
  userData : ∀ i, (st.hub.sessions i).UserDataOk
  /-- Every slot has a terminator in its array. -/
  terminated : ∀ slot, 0 ∈ (st.hub.server.table.paths slot).path
  /-- `nb_paths` counts slots of the table. -/
  nbPaths_le : st.hub.server.table.nbPaths ≤ st.hub.server.table.maxPaths
  /-- What a slot holds was registered with the userdata there. -/
  stored : ∀ slot, st.hub.server.table.pathAt slot ≠ [] →
    (st.hub.server.table.pathAt slot, st.hub.server.table.userdataAt slot) ∈ st.registered
  /-- The slot of a stream holds what the stream requested. -/
  bound : ∀ i id slot, (st.hub.sessions i).pathOf id = some slot →
    ∃ q, st.requested i id = some q ∧ st.Holds slot q

variable {st st' : RequestState} {act : HubAction}

/-- A stream is bound to a slot and to what it holds at once. -/
theorem pathAfter_resolve {R : ℕ → Bytes × ℕ → Prop} {table : PathTable} {a : ClientAction} {ret : ℕ}
    {bound : Option ℕ} {requested : Option (Bytes × ℕ)} (hnames : a.NamesPath)
    (hresolve : ∀ value slot, value ≠ [] → findPath table value = some slot →
      R slot (value, table.userdataAt slot))
    (hbound : ∀ slot, bound = some slot → ∃ q, requested = some q ∧ R slot q) {slot : ℕ}
    (h : a.pathAfter (findPath table) ret bound = some slot) :
    ∃ q, a.pathAfter table.resolve ret requested = some q ∧ R slot q := by
  cases a with
  | beginHeaders _ _ _ | streamClose _ => cases h
  | frameRecv _ | dataChunk _ _ => exact hbound slot h
  | header frame name value =>
      rw [ClientAction.pathAfter] at h ⊢
      by_cases hpath : ret = 0 ∧ frame.type = .headers ∧ name = bytesOf ":path"
      · rw [if_pos hpath] at h ⊢
        rw [PathTable.resolve]
        cases hfind : findPath table value with
        | none =>
            rw [hfind, Option.none_or] at h
            exact hbound slot h
        | some i =>
            rw [hfind, Option.some_or, Option.some.injEq] at h
            subst h
            exact ⟨_, rfl, hresolve value i (hnames hpath.2.2) hfind⟩
      · rw [if_neg hpath] at h ⊢
        exact hbound slot h

/-- What a callback makes of the state. -/
theorem requestStep_client {i : ℕ} {a : ClientAction}
    (h : requestStep st (.client i a) = some st') :
    a.NamesPath ∧ ∃ r, a.callback st.hub.server (st.hub.sessions i) = some r ∧
      hubAct st.hub (.client i a) = some st'.hub ∧ st'.registered = st.registered ∧
      ∀ j id, st'.requested j id = if j = i ∧ id = a.streamId then
        a.pathAfter st.hub.server.table.resolve r.ret (st.requested j id) else st.requested j id := by
  rw [requestStep] at h
  split at h
  · next hnames =>
      obtain ⟨hub, hhub, h⟩ := Option.bind_eq_some_iff.mp h
      obtain ⟨r, hr, h⟩ := Option.bind_eq_some_iff.mp h
      cases h
      exact ⟨hnames, r, hr, hhub, rfl, fun _ _ => rfl⟩
  · cases h

/-- The invariant holds of a new server. -/
theorem Ok.start (initialWindowSize : ℕ) (maxPaths : MaxPaths) (handles : ℕ → SessionUuid)
    (sockfds : ℕ → ℤ) : (requestStart initialWindowSize maxPaths handles sockfds).Ok where
  userData i := (Session.registryOk_sessionNew (handles i) (sockfds i)).userDataOk
  terminated _ := zero_mem_pathZero
  nbPaths_le := Nat.zero_le _
  stored slot hne := absurd (text_replicate_zero _) hne
  bound i id slot h := by cases h

/-- **Every callback keeps the invariant.** -/
theorem Ok.client (h : st.Ok) {i : ℕ} {a : ClientAction}
    (hstep : requestStep st (.client i a) = some st') : st'.Ok := by
  obtain ⟨hnames, r, hr, hhub, hregistered, hrequested⟩ := requestStep_client hstep
  have htable : st'.hub.server.table = st.hub.server.table := by
    obtain ⟨-, r', -, hafter⟩ := hubAct_client hhub
    rw [hafter]
    rfl
  have hholds : ∀ slot q, st'.Holds slot q ↔ st.Holds slot q := by
    intro slot q
    rw [Holds, Holds, htable, hregistered]
  refine ⟨fun j => (hubAct_userDataOk h.userData hhub j).1, ?_, ?_, ?_, ?_⟩
  · rw [htable]
    exact h.terminated
  · rw [htable]
    exact h.nbPaths_le
  · rw [htable, hregistered]
    exact h.stored
  · intro j id slot hslot
    rw [hubAct_pathOf h.userData hhub hr] at hslot
    simp only [hholds, hrequested]
    by_cases hown : j = i ∧ id = a.streamId
    · rw [if_pos hown] at hslot ⊢
      -- `:path` resolves to a slot that is not blank
      refine pathAfter_resolve hnames (fun value slot hne hfind => ?_) (h.bound j id) hslot
      obtain ⟨-, heq, -⟩ := findPath_eq_some.mp hfind
      subst heq
      exact ⟨rfl, h.stored slot hne⟩
    · rw [if_neg hown] at hslot ⊢
      exact h.bound j id slot hslot

/-- **A call on the path table keeps it**, when it spares the open streams and keeps the lookups in the
table. -/
theorem Ok.pathCall (h : st.Ok) {call : PathCall} (hspares : st.Spares (.pathCall call))
    (hkeeps : st.KeepsLookups (.pathCall call))
    (hstep : requestStep st (.pathCall call) = some st') : st'.Ok := by
  cases hstep
  -- a call writes at most one slot
  have hother : ∀ slot, st.hub.server.table.writes call ≠ some slot →
      (st.hub.server.table.call call).2.pathAt slot = st.hub.server.table.pathAt slot ∧
      (st.hub.server.table.call call).2.userdataAt slot = st.hub.server.table.userdataAt slot := by
    intro slot hslot
    have hpaths := PathTable.paths_call hslot
    exact ⟨congrArg (fun p : Path => text p.path) hpaths, congrArg Path.userdata hpaths⟩
  refine ⟨h.userData, PathTable.terminated_call h.terminated hkeeps.1,
    PathTable.nbPaths_call_le h.nbPaths_le hkeeps, ?_, ?_⟩
  · intro slot hne
    by_cases hslot : st.hub.server.table.writes call = some slot
    · rcases PathTable.pathAt_call_of_writes hkeeps.1 hslot with hblank | hregisters
      · exact absurd hblank hne
      · apply List.mem_append_right
        rw [hregisters]
        exact List.mem_singleton_self _
    · obtain ⟨hpath, huserdata⟩ := hother slot hslot
      have hold := h.stored slot (hpath ▸ hne)
      rw [← hpath, ← huserdata] at hold
      exact List.mem_append_left _ hold
  · intro i id slot hslot
    -- no open stream is on the slot that is written
    have hspared : st.hub.server.table.writes call ≠ some slot :=
      fun hwrites => hspares slot hwrites i id hslot
    obtain ⟨hpath, huserdata⟩ := hother slot hspared
    obtain ⟨q, hq, heq, hmem⟩ := h.bound i id slot hslot
    refine ⟨q, hq, ?_, List.mem_append_left _ hmem⟩
    rw [heq, ← hpath, ← huserdata]

/-- **Under the invariant events carry what was requested.** -/
theorem Ok.carries (h : st.Ok) : st.Carries act := by
  cases act with
  | pathCall call => trivial
  | client i a =>
      intro r es hr hunread e he id hid
      rw [unread_callback hr, List.append_cancel_left_eq] at hunread
      subst hunread
      obtain ⟨frame, slot, s, kind, rfl, -, hpath, hsid, hkind, rfl⟩ := of_mem_events (h.userData i) he
      obtain ⟨q, hq, heq, hmem⟩ := h.bound i frame.streamId slot hpath
      have hframe := Stream.streamId_of_mem_frameEvents hsid hkind
      rw [hid, Option.some.injEq] at hframe
      subst hframe
      exact ⟨q.1, q.2, hq, hmem, by rw [heq]⟩

/-- **Under the invariant the lookups stay in the table.** -/
theorem Ok.lookupsStay (h : st.Ok) : st.LookupsStay :=
  fun value => lookupPath_of_stays
    (PathTable.lookupStays_of_terminated h.terminated h.nbPaths_le value)

end RequestState

/-- A server with a window of 100 bytes and room for ten paths, on which no session has a stream. -/
def requestNew : RequestState where
  hub := hubNewSessions ⟨100, pathTableTen, eventsNew⟩ (fun i => ⟨7, i⟩) fun _ => 9
  registered := []
  requested := fun _ _ => none

/-- A path of two bytes, a slash and another one. -/
def slash (c : UInt8) (hc : 0 ≠ c) : CString := ⟨[47, c], by simp [hc]⟩

/-- A chunk of stream 1 with an empty message. -/
def bodyChunk : HubAction := .client 0 (.dataChunk 1 [0, 0, 0, 0, 0])

/-- The DATA frame that ends the body of stream 1. -/
def endOfBody : HubAction := .client 0 (.frameRecv ⟨1, .data, 1, 5⟩)

/-- The end of a body, as the application sees it. -/
structure BodyEnd where
  /-- The userdata registered for what stream 1 requested. -/
  requested : Option ℕ
  /-- The number of events so far. -/
  before : ℕ
  /-- The streams and the userdata of the events behind the end of the body. -/
  events : Option (List (Option ℤ × Option ℕ))
deriving DecidableEq

/-- What the end of the body does in a state. -/
def RequestState.bodyEnd (st : RequestState) : BodyEnd where
  requested := (st.requested 0 1).map Prod.snd
  before := st.hub.server.events.unread.length
  events :=
    ((ClientAction.frameRecv ⟨1, .data, 1, 5⟩).callback st.hub.server (st.hub.sessions 0)).map
      fun r => r.events.unread.map fun e => (e.kind.streamId?, e.userdata)

/-- An event with another userdata than requested. -/
theorem not_carries {acts : List HubAction} (requested userdata : ℕ)
    (hrun : (run requestStep requestNew acts).map RequestState.bodyEnd
      = some ⟨some requested, 0, some [(some 1, some userdata)]⟩)
    (hne : requested ≠ userdata) :
    ¬Along requestStep (fun st act => st.Carries act) requestNew (acts ++ [endOfBody]) := by
  intro h
  obtain ⟨st, hst, hbody⟩ := Option.map_eq_some_iff.mp hrun
  obtain ⟨hrequested, hunread, hevents⟩ := BodyEnd.mk.inj hbody
  obtain ⟨r, hr, hes⟩ := Option.map_eq_some_iff.mp hevents
  obtain ⟨e, he, heq⟩ : ∃ e ∈ r.events.unread, (e.kind.streamId?, e.userdata) = (some 1, some userdata) :=
    List.mem_map.mp (by rw [hes]; exact List.mem_singleton_self _)
  obtain ⟨hid, huserdata⟩ := Prod.mk.inj heq
  obtain ⟨path, u, hq, -, hu⟩ := (((along_append _ _).mp h).2 st hst).1 r r.events.unread hr
    (by rw [List.eq_nil_of_length_eq_zero hunread, List.nil_append]) e he 1 hid
  rw [hq, Option.map_some, Option.some.injEq] at hrequested
  rw [huserdata, Option.some.injEq] at hu
  exact hne (hrequested.symm.trans hu.symm)

/-- Callbacks make no call on the table, so a run of them meets the condition. -/
theorem along_spares_client (i : ℕ) (st : RequestState) (acts : List ClientAction) :
    Along requestStep (fun st act => st.Spares act ∧ st.KeepsLookups act) st
      (acts.map (HubAction.client i)) := by
  induction acts generalizing st with
  | nil => trivial
  | cons a acts ih => exact ⟨⟨trivial, trivial⟩, fun st' _ => ih st'⟩

end Ezgrpc2
