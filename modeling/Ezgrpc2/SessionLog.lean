import Ezgrpc2.ServerPoll

/-! # What a session writes

The events of the server, in the order they are written, are its log. A callback and an exchange
with a client write MESSAGE and DATALOSS events of their own session only. `Connected` says which
sessions are under way by the log, and `Lifecycle` what the events of one session look like: a
CONNECT, events of its streams, a DISCONNECT. The lemmas of (2) and (3) say what becomes of both
when a CONNECT, events of streams or a DISCONNECT are appended. -/

namespace Ezgrpc2

open StepRuns

/-! ## (1) What a session writes -/

/-- The events of streams of the session `uuid`: MESSAGE and DATALOSS. -/
def OfStreams (uuid : SessionUuid) (es : List Event) : Prop :=
  ∀ e ∈ es, e.sessionUuid = uuid ∧ e.kind.ofFrame = true

/-- `ez'` is `ez` at another time: the handle and the socket are the same. -/
structure Session.Same (ez ez' : Session) : Prop where
  /-- The handle of the session is as before. -/
  sessionUuid : ez'.sessionUuid = ez.sessionUuid
  /-- The socket of the session is as before. -/
  sockfd : ez'.sockfd = ez.sockfd

theorem Session.Same.refl (ez : Session) : ez.Same ez := ⟨rfl, rfl⟩

theorem Session.Same.trans {ez ez₁ ez₂ : Session} (h : ez.Same ez₁) (h' : ez₁.Same ez₂) :
    ez.Same ez₂ := ⟨h'.sessionUuid.trans h.sessionUuid, h'.sockfd.trans h.sockfd⟩

/-- A callback keeps the handle and the socket of its session and writes events of its streams. -/
structure CallbackResult.Emits (r : CallbackResult) (server : ServerShared) (ez : Session) :
    Prop where
  /-- The session is the same one as before. -/
  same : ez.Same r.session
  /-- The events written are those of streams of the session. -/
  unread : ∃ es, r.events.unread = server.events.unread ++ es ∧ OfStreams ez.sessionUuid es

section Emits

variable {server : ServerShared} {ez : Session} {r : CallbackResult}

theorem CallbackResult.Emits.of_eq (hsame : ez.Same r.session)
    (hevents : r.events = server.events) : r.Emits server ez where
  same := hsame
  unread := ⟨[], by rw [hevents, List.append_nil], fun _ he => (nomatch he)⟩

/-- **A callback writes events of its own session only.** -/
theorem clientCallback_emits {st : ClientState} {a : ClientAction}
    (h : clientCallback st a = some r) : r.Emits st.server st.session := by
  cases clientCallback_effect h with
  | begins | skipsHeader | refusesHeader | storesHeader | skipsChunk | refusesChunk | storesChunk
  | closes => exact .of_eq ⟨rfl, rfl⟩ rfl
  | answers subs =>
      rw [Session.submitAll_eq]
      exact .of_eq ⟨rfl, rfl⟩ rfl
  | parses =>
      refine ⟨⟨rfl, rfl⟩, _, unread_eventsWriteAll _ _, ?_⟩
      intro e he
      obtain ⟨kind, hkind, rfl⟩ := List.mem_map.mp he
      exact ⟨rfl, Stream.ofFrame_of_mem_frameEvents hkind⟩

end Emits

/-- A run of callbacks leaves the session the same one, and writes events of its streams. -/
theorem clientRun_emits {st st' : ClientState} {acts : List ClientAction}
    (h : run clientStep st acts = some st') :
    st.session.Same st'.session ∧
      ∃ es, st'.server.events.unread = st.server.events.unread ++ es ∧
        OfStreams st.session.sessionUuid es := by
  refine run_invariant clientStep (I := fun t =>
    st.session.Same t.session ∧
      ∃ es, t.server.events.unread = st.server.events.unread ++ es ∧
        OfStreams st.session.sessionUuid es) ?_ ⟨.refl _, [], ?_, ?_⟩ h
  · rintro t a t' ⟨hsame, es, hunread, hes⟩ hstep
    rw [clientStep] at hstep
    split at hstep
    · obtain ⟨r, hr, rfl⟩ := Option.map_eq_some_iff.mp hstep
      obtain ⟨hsame', es', hunread', hes'⟩ := clientCallback_emits hr
      refine ⟨hsame.trans hsame', es ++ es', ?_, ?_⟩
      · show r.events.unread = _
        rw [hunread', hunread, List.append_assoc]
      · intro e he
        rcases List.mem_append.mp he with he | he
        · exact hes e he
        · rw [← hsame.sessionUuid]
          exact hes' e he
    · cases hstep
  · rw [List.append_nil]
  · intro e he
    cases he

/-- nghttp2 writing does not touch the handle and the socket. -/
theorem ngWrite_same {server : ServerShared} {ez ez' : Session} {w : NgWrite}
    {outs : List DataOut} (h : ngWrite server ez w = some (ez', outs)) : ez.Same ez' := by
  cases ngWrite_effect h with
  | skipsRead | reads | detaches | skipsClose => exact ⟨rfl, rfl⟩
  | closes _ hr =>
      obtain ⟨p, l, -, rfl⟩ := streamClose_eq_some hr
      exact ⟨rfl, rfl⟩

theorem ngWrites_same {server : ServerShared} {ez ez' : Session} {ws : List NgWrite}
    {outs : List DataOut} (h : ngWrites server ez ws = some (ez', outs)) : ez.Same ez' :=
  ngWrites_invariant (I := ez.Same) (fun _ _ _ _ hsame hw => hsame.trans (ngWrite_same hw)) (.refl ez) h

theorem sendLoop_same {server : ServerShared} {ez ez' : Session} {sends : List NgSend}
    {ret : ℕ} {outs : List DataOut} (h : sendLoop server ez sends = some (ret, ez', outs)) :
    ez.Same ez' := ngWrites_same (sendLoop_eq_some h).1

/-- **An exchange** keeps the handle and the socket of the session and writes events of its streams. -/
theorem sessionEvents_emits {server : ServerShared} {ez ez' : Session} {x : Exchange} {ret : ℕ}
    {events : Events} (h : sessionEvents server ez x = some (ret, events, ez')) :
    ez.Same ez' ∧
      ∃ es, events.unread = server.events.unread ++ es ∧ OfStreams ez.sessionUuid es := by
  rw [sessionEvents] at h
  split at h
  · cases h
    exact ⟨.refl ez, [], by rw [List.append_nil], fun _ he => (nomatch he)⟩
  · obtain ⟨st, hrun, h⟩ := Option.bind_eq_some_iff.mp h
    have hemits := clientRun_emits hrun
    split at h
    · cases h
      exact hemits
    · obtain ⟨⟨ret', ez₁, outs⟩, hloop, h⟩ := Option.bind_eq_some_iff.mp h
      cases h
      exact ⟨hemits.1.trans (sendLoop_same hloop), hemits.2⟩

/-! ## (2) Connected sessions -/

/-- **The session that `uuid` was issued to is connected**: its CONNECT was written and its
DISCONNECT was not. -/
def Connected (log : List Event) (uuid : SessionUuid) : Prop :=
  connectEvent uuid ∈ log ∧ disconnectEvent uuid ∉ log

/-- The random parts of the handles published so far. -/
def drawn (log : List Event) : List ℕ := log.map fun e => e.sessionUuid.uuid

/-- The events of streams connect and disconnect nobody. -/
theorem connected_append_ofStreams (log : List Event) {es : List Event} {uuid : SessionUuid}
    (hes : OfStreams uuid es) (v : SessionUuid) :
    Connected (log ++ es) v ↔ Connected log v := by
  have hconnect : connectEvent v ∉ es := fun he => nomatch (hes _ he).2
  have hdisconnect : disconnectEvent v ∉ es := fun he => nomatch (hes _ he).2
  rw [Connected, Connected, List.mem_append, List.mem_append]
  tauto

/-- A CONNECT connects its session, when its handle is new. -/
theorem connected_append_connect {log : List Event} {uuid : SessionUuid}
    (hnew : uuid.uuid ∉ drawn log) (v : SessionUuid) :
    Connected (log ++ [connectEvent uuid]) v ↔ Connected log v ∨ v = uuid := by
  have hold : disconnectEvent uuid ∉ log := fun he =>
    hnew (List.mem_map_of_mem (f := fun e : Event => e.sessionUuid.uuid) he)
  have hconnect : connectEvent v = connectEvent uuid ↔ v = uuid :=
    ⟨fun h => congrArg Event.sessionUuid h, fun h => congrArg connectEvent h⟩
  have hdisconnect : disconnectEvent v ≠ connectEvent uuid := fun h => nomatch congrArg Event.kind h
  rw [Connected, Connected, List.mem_append, List.mem_append, List.mem_singleton,
    List.mem_singleton, hconnect]
  constructor
  · rintro ⟨hin | rfl, hout⟩
    · exact Or.inl ⟨hin, fun h => hout (Or.inl h)⟩
    · exact Or.inr rfl
  · rintro (⟨hin, hout⟩ | rfl)
    · exact ⟨Or.inl hin, fun h => h.elim hout hdisconnect⟩
    · exact ⟨Or.inr rfl, fun h => h.elim hold hdisconnect⟩

/-- Behind its DISCONNECT a session is not connected, and the others are as before. -/
theorem connected_append_disconnect (log : List Event) (uuid v : SessionUuid) :
    Connected (log ++ [disconnectEvent uuid]) v ↔ Connected log v ∧ v ≠ uuid := by
  have hconnect : connectEvent v ≠ disconnectEvent uuid := fun h => nomatch congrArg Event.kind h
  have hdisconnect : disconnectEvent v = disconnectEvent uuid ↔ v = uuid :=
    ⟨fun h => congrArg Event.sessionUuid h, fun h => congrArg disconnectEvent h⟩
  rw [Connected, Connected, List.mem_append, List.mem_append, List.mem_singleton,
    List.mem_singleton, hdisconnect]
  tauto

/-! ## (3) The life of a session -/

/-- The events of one session, in the order they were written. -/
def eventsOf (uuid : SessionUuid) (log : List Event) : List Event :=
  log.filter fun e => e.sessionUuid = uuid

@[simp] theorem eventsOf_append (uuid : SessionUuid) (log es : List Event) :
    eventsOf uuid (log ++ es) = eventsOf uuid log ++ eventsOf uuid es := List.filter_append log es

theorem mem_eventsOf {uuid : SessionUuid} {log : List Event} {e : Event} :
    e ∈ eventsOf uuid log ↔ e ∈ log ∧ e.sessionUuid = uuid := by
  rw [eventsOf, List.mem_filter, decide_eq_true_eq]

/-- All events are those of one session. -/
theorem eventsOf_self {uuid : SessionUuid} {es : List Event} (h : ∀ e ∈ es, e.sessionUuid = uuid) :
    eventsOf uuid es = es := by
  apply List.filter_eq_self.mpr
  intro e he
  exact decide_eq_true (h e he)

/-- No event is one of another session. -/
theorem eventsOf_of_ne {uuid v : SessionUuid} {es : List Event}
    (h : ∀ e ∈ es, e.sessionUuid = uuid) (hne : v ≠ uuid) : eventsOf v es = [] := by
  apply List.filter_eq_nil_iff.mpr
  intro e he heq
  exact hne ((of_decide_eq_true heq).symm.trans (h e he))

/-- **The events of a session, over its life**: none before it is connected, then a CONNECT and
events of streams, and a DISCONNECT in the end. -/
inductive Lifecycle (uuid : SessionUuid) : List Event → Prop
  /-- The handle was not issued, and has no events. -/
  | unborn : Lifecycle uuid []
  /-- The session is connected, and has events of its streams behind its CONNECT. -/
  | live {es : List Event} : OfStreams uuid es → Lifecycle uuid (connectEvent uuid :: es)
  /-- The session is gone: its DISCONNECT is the last of its events. -/
  | dead {es : List Event} : OfStreams uuid es →
      Lifecycle uuid (connectEvent uuid :: es ++ [disconnectEvent uuid])

/-- A session that is connected is in the middle of its life. -/
theorem Lifecycle.of_connected {uuid : SessionUuid} {log : List Event}
    (h : Lifecycle uuid (eventsOf uuid log)) (hcon : Connected log uuid) :
    ∃ es, OfStreams uuid es ∧ eventsOf uuid log = connectEvent uuid :: es := by
  have hconnect : connectEvent uuid ∈ eventsOf uuid log := mem_eventsOf.mpr ⟨hcon.1, rfl⟩
  have hdisconnect : disconnectEvent uuid ∉ eventsOf uuid log :=
    fun hmem => hcon.2 (mem_eventsOf.mp hmem).1
  revert hconnect hdisconnect
  generalize eventsOf uuid log = own at h ⊢
  intro hconnect hdisconnect
  cases h with
  | unborn => cases hconnect
  | live hes => exact ⟨_, hes, rfl⟩
  | dead hes => exact absurd (List.mem_append_right _ List.mem_cons_self) hdisconnect

/-- Every session has lived in this order. -/
def Lives (log : List Event) : Prop := ∀ uuid, Lifecycle uuid (eventsOf uuid log)

/-- In an empty log no session has lived. -/
theorem lives_nil : Lives [] := fun _ => .unborn

/-- A CONNECT with a new handle begins a life, and leaves the others. -/
theorem Lives.connect {log : List Event} (h : Lives log) {uuid : SessionUuid}
    (hnew : uuid.uuid ∉ drawn log) : Lives (log ++ [connectEvent uuid]) := by
  intro v
  have hown : ∀ e ∈ [connectEvent uuid], e.sessionUuid = uuid := by
    intro e he
    rw [List.mem_singleton.mp he]
    rfl
  rw [eventsOf_append]
  by_cases hv : v = uuid
  · have hnone : eventsOf uuid log = [] := by
      apply List.eq_nil_iff_forall_not_mem.mpr
      intro e he
      obtain ⟨hmem, heq⟩ := mem_eventsOf.mp he
      exact hnew (List.mem_map.mpr ⟨e, hmem, by rw [heq]⟩)
    rw [hv, hnone, eventsOf_self hown]
    exact .live fun e he => (nomatch he)
  · rw [eventsOf_of_ne hown hv, List.append_nil]
    exact h v

/-- A connected session writes events of its streams. -/
theorem Lives.serve {log : List Event} (h : Lives log) {uuid : SessionUuid}
    (hcon : Connected log uuid) {es : List Event} (hes : OfStreams uuid es) :
    Lives (log ++ es) := by
  intro v
  have hown : ∀ e ∈ es, e.sessionUuid = uuid := fun e he => (hes e he).1
  rw [eventsOf_append]
  by_cases hv : v = uuid
  · obtain ⟨old, hold, heq⟩ := (h uuid).of_connected hcon
    rw [hv, heq, eventsOf_self hown, List.cons_append]
    apply Lifecycle.live
    intro e he
    rcases List.mem_append.mp he with he | he
    · exact hold e he
    · exact hes e he
  · rw [eventsOf_of_ne hown hv, List.append_nil]
    exact h v

/-- A DISCONNECT of a connected session ends its life, and leaves the others. -/
theorem Lives.disconnect {log : List Event} (h : Lives log) {uuid : SessionUuid}
    (hcon : Connected log uuid) : Lives (log ++ [disconnectEvent uuid]) := by
  intro v
  have hown : ∀ e ∈ [disconnectEvent uuid], e.sessionUuid = uuid := by
    intro e he
    rw [List.mem_singleton.mp he]
    rfl
  rw [eventsOf_append]
  by_cases hv : v = uuid
  · obtain ⟨old, hold, heq⟩ := (h uuid).of_connected hcon
    rw [hv, heq, eventsOf_self hown]
    exact .dead hold
  · rw [eventsOf_of_ne hown hv, List.append_nil]
    exact h v

end Ezgrpc2
