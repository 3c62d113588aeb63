import Ezgrpc2.SessionTable

/-! # The sockets of the clients

A socket is accepted in `session_add`, and closed there when there is no room or no session for it, in
the loop when the exchange with the client fails, or in `ezgrpc2_server_free`. The branch of the loop
for a hang-up frees the session and forgets the socket without closing it. `Ledger` accounts for the
sockets that are open: they are stored in `fds`, or they are lost. A round loses sockets exactly when
`poll` finds a hang-up at one that is in use; `serverRun_sockets_iff` says what that means for
runs. -/

namespace Ezgrpc2

open StepRuns Handles

/-! ## (1) The ledger -/

/-- A client's cell of `fds` holds the socket. -/
def Server.Stores (server : Server) (fd : ℤ) : Prop :=
  fd ≠ -1 ∧ ∃ i, 2 ≤ i ∧ i < server.nbFds ∧ (server.fds i).fd = fd

/-- **The sockets are accounted for**, with the sockets `lost`. -/
structure Ledger (server : Server) (lost : Finset ℤ) : Prop where
  /-- A socket is in one cell. -/
  distinct : ∀ i j, 2 ≤ i → i < server.nbFds → 2 ≤ j → j < server.nbFds →
    (server.fds i).fd = (server.fds j).fd → (server.fds i).fd ≠ -1 → i = j
  /-- A session has the socket of its cell. -/
  sockfd : ∀ i ez, (server.sessions i).session = some ez → ez.sockfd = (server.fds i).fd
  /-- A socket that is open is stored or lost. -/
  mem_openAfter : ∀ fd, fd ∈ openAfter server.socketCalls ↔ fd ∈ lost ∨ server.Stores fd
  /-- What is lost is in no cell. -/
  lost : ∀ fd ∈ lost, ¬server.Stores fd
  /-- No socket was closed twice, or without having been accepted. -/
  releasesOpen : ReleasesOpen server.socketCalls

namespace Ledger

variable {server server' : Server} {lost : Finset ℤ} {i : ℕ} {fd : ℤ} {session : Option Session}
  {log : List Event}

/-- The socket of a cell in use is stored. -/
theorem stores (hi : 2 ≤ i) (hlt : i < server.nbFds) (hfd : (server.fds i).fd ≠ -1) :
    server.Stores (server.fds i).fd := ⟨hfd, i, hi, hlt, rfl⟩

/-- What is stored when one cell changes. -/
theorem stores_cellSet (h : Ledger server lost) (hi : 2 ≤ i) (hlt : i < server.nbFds)
    (hcell : server.CellSet server' i fd session) (x : ℤ) :
    server'.Stores x ↔ (x ≠ -1 ∧ x = fd) ∨ (server.Stores x ∧ x ≠ (server.fds i).fd) := by
  unfold Server.Stores
  rw [hcell.nbFds]
  constructor
  · rintro ⟨hx, j, hj, hjlt, hfd⟩
    rw [hcell.fd] at hfd
    by_cases hji : j = i
    · rw [if_pos hji] at hfd
      exact Or.inl ⟨hx, hfd.symm⟩
    · rw [if_neg hji] at hfd
      refine Or.inr ⟨⟨hx, j, hj, hjlt, hfd⟩, fun heq => hji ?_⟩
      exact h.distinct j i hj hjlt hi hlt (hfd.trans heq) (hfd ▸ hx)
  · rintro (⟨hx, rfl⟩ | ⟨⟨hx, j, hj, hjlt, hfd⟩, hne⟩)
    · exact ⟨hx, i, hi, hlt, by rw [hcell.fd, if_pos rfl]⟩
    · refine ⟨hx, j, hj, hjlt, ?_⟩
      rw [hcell.fd, if_neg fun heq => hne (by rw [← hfd, heq])]
      exact hfd

/-- One cell changes: its socket is dropped, kept or a new one. -/
theorem of_cellSet (h : Ledger server lost) (hi : 2 ≤ i) (hlt : i < server.nbFds)
    (hcell : server.CellSet server' i fd session)
    (hnew : fd = -1 ∨ fd = (server.fds i).fd ∨ ¬server.Stores fd)
    (hsockfd : ∀ ez, session = some ez → ez.sockfd = fd) {lost' : Finset ℤ}
    (hmem : ∀ x, x ∈ openAfter server'.socketCalls ↔
      x ∈ lost' ∨ (x ≠ -1 ∧ x = fd) ∨ (server.Stores x ∧ x ≠ (server.fds i).fd))
    (hlost : ∀ x ∈ lost', ¬((x ≠ -1 ∧ x = fd) ∨ (server.Stores x ∧ x ≠ (server.fds i).fd)))
    (hreleases : ReleasesOpen server'.socketCalls) : Ledger server' lost' := by
  -- the new socket is in no other cell
  have hother : ∀ j, 2 ≤ j → j < server.nbFds → j ≠ i → (server.fds j).fd = fd → fd = -1 := by
    intro j hj hjlt hji hfd
    by_contra hne
    rcases hnew with hnew | hnew | hnew
    · exact hne hnew
    · exact hji (h.distinct j i hj hjlt hi hlt (hfd.trans hnew) (hfd ▸ hne))
    · exact hnew ⟨hne, j, hj, hjlt, hfd⟩
  constructor
  · intro a b ha halt hb hblt heq hne
    rw [hcell.nbFds] at halt hblt
    rw [hcell.fd, hcell.fd] at heq
    rw [hcell.fd] at hne
    by_cases hai : a = i
    · by_cases hbi : b = i
      · rw [hai, hbi]
      · rw [if_pos hai] at hne
        rw [if_pos hai, if_neg hbi] at heq
        exact absurd (hother b hb hblt hbi heq.symm) hne
    · rw [if_neg hai] at heq hne
      by_cases hbi : b = i
      · rw [if_pos hbi] at heq
        exact absurd (heq.trans (hother a ha halt hai heq)) hne
      · rw [if_neg hbi] at heq
        exact h.distinct a b ha halt hb hblt heq hne
  · intro j ez hj
    rw [hcell.session] at hj
    rw [hcell.fd]
    by_cases hji : j = i
    · rw [if_pos hji] at hj ⊢
      exact hsockfd ez hj
    · rw [if_neg hji] at hj ⊢
      exact h.sockfd j ez hj
  · intro x
    rw [hmem, h.stores_cellSet hi hlt hcell]
  · intro x hx
    rw [h.stores_cellSet hi hlt hcell]
    exact hlost x hx
  · exact hreleases

/-- Steps that leave the cells and the open sockets keep the ledger. -/
theorem congr (h : Ledger server lost) (hcells : server.SameCells server')
    (hcalls : openAfter server'.socketCalls = openAfter server.socketCalls)
    (hreleases : ReleasesOpen server'.socketCalls) : Ledger server' lost := by
  have hstores : ∀ x, server'.Stores x ↔ server.Stores x := by
    intro x
    unfold Server.Stores
    simp only [hcells.nbFds, hcells.fd]
  constructor
  · intro a b
    rw [hcells.nbFds, hcells.fd, hcells.fd]
    exact h.distinct a b
  · intro j ez
    rw [hcells.session, hcells.fd]
    exact h.sockfd j ez
  · intro x
    rw [hcalls, hstores]
    exact h.mem_openAfter x
  · intro x hx
    rw [hstores]
    exact h.lost x hx
  · exact hreleases

/-! ## (2) The parts of a round -/

/-- A socket that was not open is in no cell. -/
theorem not_stores (h : Ledger server lost) (hfd : fd ∉ openAfter server.socketCalls) :
    ¬server.Stores fd := fun hstores => hfd ((h.mem_openAfter fd).mpr (Or.inr hstores))

/-- An accept finds no room: the socket is closed at once. -/
theorem refused (h : Ledger server lost) {acc : Accept} (hrefused : Refused server server' acc)
    (hfresh : AcquiresFresh server'.socketCalls) : Ledger server' lost := by
  rw [hrefused.calls] at hfresh
  have hnot := ((along_handleStep_concat _ _).mp hfresh.of_append).2
  apply h.congr hrefused.cells
  · rw [hrefused.calls, openAfter_release, openAfter_acquire, Finset.erase_insert hnot]
  · rw [hrefused.calls]
    refine (along_handleStep_concat _ _).mpr ⟨(along_handleStep_concat _ _).mpr ⟨?_, trivial⟩, ?_⟩
    · exact h.releasesOpen
    · rw [openAfter_acquire]
      exact Finset.mem_insert_self _ _

/-- A session is added: its socket is stored. -/
theorem added (h : Ledger server lost) {acc : Accept} {ez : Session}
    (hconfd : acc.confd ≠ -1) (hadded : Added server server' acc i ez)
    (hfresh : AcquiresFresh server'.socketCalls) : Ledger server' lost := by
  rw [hadded.calls] at hfresh
  have hnot := ((along_handleStep_concat _ _).mp hfresh).2
  -- a socket that was just acquired was not open before, so no cell stores it and it is not lost
  have hstores := h.not_stores hnot
  have hlost : acc.confd ∉ lost := fun hin => hnot ((h.mem_openAfter _).mpr (Or.inl hin))
  refine h.of_cellSet hadded.two_le hadded.lt hadded.cell (Or.inr (Or.inr hstores)) ?_ ?_ ?_ ?_
  · intro ez' hez'
    rw [← Option.some.inj hez']
    exact hadded.sockfd
  · intro x
    have hfree : server.Stores x → x ≠ (server.fds i).fd := by
      intro hx
      rw [hadded.free]
      exact hx.1
    rw [hadded.calls, openAfter_acquire, Finset.mem_insert, h.mem_openAfter]
    constructor
    · rintro (rfl | hx | hx)
      · exact Or.inr (Or.inl ⟨hconfd, rfl⟩)
      · exact Or.inl hx
      · exact Or.inr (Or.inr ⟨hx, hfree hx⟩)
    · rintro (hx | ⟨-, hx⟩ | ⟨hx, -⟩)
      · exact Or.inr (Or.inl hx)
      · exact Or.inl hx
      · exact Or.inr (Or.inr hx)
  · rintro x hx (⟨-, rfl⟩ | ⟨hstore, -⟩)
    · exact hlost hx
    · exact h.lost x hx hstore
  · rw [hadded.calls]
    exact (along_handleStep_concat _ _).mpr ⟨h.releasesOpen, trivial⟩

/-- **The client hung up**: its socket is lost. -/
theorem hungUp (h : Ledger server lost) (hi : 2 ≤ i) (hlt : i < server.nbFds) {ez : Session}
    (hfd : (server.fds i).fd ≠ -1) (hhung : HungUp server server' i ez) :
    Ledger server' (insert (server.fds i).fd lost) := by
  refine h.of_cellSet hi hlt hhung.cell (Or.inl rfl) (fun _ hnone => (nomatch hnone)) ?_ ?_ ?_
  · intro x
    have hstore := stores hi hlt hfd
    rw [hhung.calls, h.mem_openAfter, Finset.mem_insert]
    by_cases hx : x = (server.fds i).fd
    · rw [hx]
      exact ⟨fun _ => Or.inl (Or.inl rfl), fun _ => Or.inr hstore⟩
    · constructor
      · rintro (hin | hin)
        · exact Or.inl (Or.inr hin)
        · exact Or.inr (Or.inr ⟨hin, hx⟩)
      · rintro ((heq | hin) | ⟨hne, heq⟩ | ⟨hin, -⟩)
        · exact absurd heq hx
        · exact Or.inl hin
        · exact absurd heq hne
        · exact Or.inr hin
  · rintro x hx (⟨hne, heq⟩ | ⟨hstore, hne⟩)
    · exact hne heq
    · rcases Finset.mem_insert.mp hx with heq | hin
      · exact hne heq
      · exact h.lost x hin hstore
  · rw [hhung.calls]
    exact h.releasesOpen

/-- A session changes and keeps its socket. -/
theorem kept (h : Ledger server lost) (hi : 2 ≤ i) (hlt : i < server.nbFds) {ez ez' : Session}
    (hslot : (server.sessions i).session = some ez) (hsame : ez.Same ez')
    (hcell : server.CellSet server' i (server.fds i).fd (some ez'))
    (hcalls : server'.socketCalls = server.socketCalls) : Ledger server' lost := by
  -- storing again what the cell stored changes nothing
  have hall : ∀ x, ((x ≠ -1 ∧ x = (server.fds i).fd) ∨
      (server.Stores x ∧ x ≠ (server.fds i).fd)) ↔ server.Stores x := by
    intro x
    by_cases hx : x = (server.fds i).fd
    · constructor
      · rintro (⟨hne, -⟩ | ⟨-, hne⟩)
        · rw [hx] at hne ⊢
          exact stores hi hlt hne
        · exact absurd hx hne
      · exact fun hstore => Or.inl ⟨hstore.1, hx⟩
    · constructor
      · rintro (⟨-, heq⟩ | ⟨hstore, -⟩)
        · exact absurd heq hx
        · exact hstore
      · exact fun hstore => Or.inr ⟨hstore, hx⟩
  refine h.of_cellSet hi hlt hcell (Or.inr (Or.inl rfl)) ?_ ?_ ?_ ?_
  · intro ez₁ hez₁
    rw [← Option.some.inj hez₁, hsame.sockfd]
    exact h.sockfd i ez hslot
  · intro x
    rw [hall, hcalls]
    exact h.mem_openAfter x
  · intro x hx
    rw [hall]
    exact h.lost x hx
  · rw [hcalls]
    exact h.releasesOpen

/-- A session ends: its socket is closed. -/
theorem ended (h : Ledger server lost) (hi : 2 ≤ i) (hlt : i < server.nbFds) {ez : Session}
    {es : List Event} (hslot : (server.sessions i).session = some ez)
    (hfd : (server.fds i).fd ≠ -1) (hended : Ended server server' i ez es) :
    Ledger server' lost := by
  have hstore := stores hi hlt hfd
  have hlost : (server.fds i).fd ∉ lost := fun hin => h.lost _ hin hstore
  have hcalls : server'.socketCalls = server.socketCalls ++ [.release (server.fds i).fd] := by
    rw [hended.calls, h.sockfd i ez hslot]
  refine h.of_cellSet hi hlt hended.cell (Or.inl rfl) (fun _ hnone => (nomatch hnone)) ?_ ?_ ?_
  · intro x
    rw [hcalls, openAfter_release, Finset.mem_erase, h.mem_openAfter]
    constructor
    · rintro ⟨hne, hin | hin⟩
      · exact Or.inl hin
      · exact Or.inr (Or.inr ⟨hin, hne⟩)
    · rintro (hin | ⟨hne, heq⟩ | ⟨hin, hne⟩)
      · exact ⟨fun heq => hlost (heq ▸ hin), Or.inl hin⟩
      · exact absurd heq hne
      · exact ⟨hne, Or.inr hin⟩
  · rintro x hx (⟨hne, heq⟩ | ⟨hstore', -⟩)
    · exact hne heq
    · exact h.lost x hx hstore'
  · rw [hcalls]
    refine (along_handleStep_concat _ _).mpr ⟨h.releasesOpen, ?_⟩
    exact (h.mem_openAfter _).mpr (Or.inr hstore)

/-! ## (3) A round -/

/-- A hang-up at a cell depends on what is in that cell of `fds`. -/
theorem hangsUp_congr {j : ℕ} (hfd : (server'.fds j).fd = (server.fds j).fd)
    (hrevents : (server'.fds j).revents = (server.fds j).revents) :
    server'.HangsUp j ↔ server.HangsUp j := by
  rw [Server.HangsUp, Server.HangsUp, hfd, hrevents]

/-- A cell changes, and no other one hangs up for it. -/
theorem hangsUp_cellSet (hcell : server.CellSet server' i fd session) {j : ℕ} (hj : j ≠ i) :
    server'.HangsUp j ↔ server.HangsUp j :=
  hangsUp_congr (by rw [hcell.fd, if_neg hj]) (hcell.revents j hj)

/-- What `poll` finds at a free cell: nothing. -/
def Quiet (server : Server) : Prop :=
  ∀ i, i < server.nbFds → (server.fds i).fd = -1 → (server.fds i).revents = 0

/-- **A listener.** No socket is lost, and a session that is added does not hang up at once. -/
theorem pollListener (h : Ledger server lost) (hquiet : Quiet server) {acc : Accept}
    (hpoll : Ezgrpc2.pollListener server i acc = some server')
    (hfresh : AcquiresFresh server'.socketCalls) :
    Ledger server' lost ∧ Quiet server' ∧ ∀ j, server'.HangsUp j ↔ server.HangsUp j := by
  rcases pollListener_cases hpoll with rfl | ⟨hconfd, hrefused | ⟨k, hadded⟩⟩
  · exact ⟨h, hquiet, fun _ => Iff.rfl⟩
  · refine ⟨h.refused hrefused hfresh, fun j hjlt hj => ?_, fun j => ?_⟩
    · rw [hrefused.revents]
      exact hquiet j (hrefused.cells.nbFds ▸ hjlt) ((hrefused.cells.fd j).symm.trans hj)
    · exact hangsUp_congr (hrefused.cells.fd j) (hrefused.revents j)
  · have hrevents : ∀ j, (server'.fds j).revents = (server.fds j).revents := by
      intro j
      by_cases hj : j = k
      · rw [hj, hadded.revents]
      · exact hadded.cell.revents j hj
    refine ⟨h.added hconfd hadded hfresh, fun j hjlt hj => ?_, fun j => ?_⟩
    · rw [hrevents]
      apply hquiet j (hadded.cell.nbFds ▸ hjlt)
      rw [hadded.cell.fd] at hj
      by_cases hjk : j = k
      · rw [hjk, hadded.free]
      · rwa [if_neg hjk] at hj
    · by_cases hjk : j = k
      · -- the cell was free, so nothing was found there
        have hzero : (server.fds k).revents = 0 := hquiet k hadded.lt hadded.free
        rw [hjk, Server.HangsUp, Server.HangsUp, hrevents, hzero, Nat.zero_and]
        tauto
      · exact hangsUp_cellSet hadded.cell hjk

/-- A cell of the loop: its socket is lost exactly when the client hung up. -/
theorem pollCell (h : Ledger server lost) (htable : TableOk server log) (hi : 2 ≤ i)
    (hlt : i < server.nbFds) {round : Round}
    (hpoll : Ezgrpc2.pollCell round server i = some server') :
    ∃ lost', Ledger server' lost' ∧ lost ⊆ lost' ∧ (lost' = lost ↔ ¬server.HangsUp i) ∧
      server'.nbFds = server.nbFds ∧ ∀ j, j ≠ i → (server'.HangsUp j ↔ server.HangsUp j) := by
  have hinuse : ∀ ez, (server.sessions i).session = some ez → (server.fds i).fd ≠ -1 := by
    intro ez hslot
    refine (htable.fd i hi (htable.nbFds ▸ hlt)).mpr ?_
    rw [hslot]
    rfl
  rcases pollCell_cases hpoll with
    ⟨hhang, ez, hslot, hhung⟩ | ⟨hhang, ⟨-, rfl⟩ | ⟨ez, hslot, ⟨ez', es, hserved⟩ | ⟨es, hended⟩⟩⟩
  · have hnot : (server.fds i).fd ∉ lost :=
      fun hin => h.lost _ hin (stores hi hlt (hinuse ez hslot))
    refine ⟨_, h.hungUp hi hlt (hinuse ez hslot) hhung, Finset.subset_insert _ _, ?_,
      hhung.cell.nbFds, fun j hj => hangsUp_cellSet hhung.cell hj⟩
    constructor
    · exact fun heq => absurd (heq ▸ Finset.mem_insert_self _ _) hnot
    · exact fun hcon => absurd hhang hcon
  · exact ⟨lost, h, fun _ hx => hx, ⟨fun _ => hhang, fun _ => rfl⟩, rfl, fun _ _ => Iff.rfl⟩
  · exact ⟨lost, h.kept hi hlt hslot hserved.same hserved.cell hserved.calls, fun _ hx => hx,
      ⟨fun _ => hhang, fun _ => rfl⟩, hserved.cell.nbFds,
      fun j hj => hangsUp_cellSet hserved.cell hj⟩
  · exact ⟨lost, h.ended hi hlt hslot (hinuse ez hslot) hended, fun _ hx => hx,
      ⟨fun _ => hhang, fun _ => rfl⟩, hended.cell.nbFds,
      fun j hj => hangsUp_cellSet hended.cell hj⟩

/-- **The loop**: sockets are lost exactly when one of the clients hung up. -/
theorem pollCells (h : Ledger server lost) (htable : TableOk server log) {round : Round}
    {is : List ℕ} (hnodup : is.Nodup) (his : ∀ i ∈ is, 2 ≤ i ∧ i < server.nbFds)
    (hpoll : Ezgrpc2.pollCells round server is = some server') :
    ∃ lost', Ledger server' lost' ∧ lost ⊆ lost' ∧ (lost' = lost ↔ ∀ i ∈ is, ¬server.HangsUp i) := by
  induction is generalizing server lost log with
  | nil =>
      cases hpoll
      exact ⟨lost, h, fun _ hx => hx, fun _ _ hi => (nomatch hi), fun _ => rfl⟩
  | cons i is ih =>
      obtain ⟨server₁, hcell, hrest⟩ := Option.bind_eq_some_iff.mp hpoll
      obtain ⟨hi, hlt⟩ := his i List.mem_cons_self
      obtain ⟨hni, hnodup'⟩ := List.nodup_cons.mp hnodup
      obtain ⟨lost₁, h₁, hsub₁, hiff₁, hnb, hhang⟩ := h.pollCell htable hi hlt hcell
      obtain ⟨es, hleads⟩ := htable.pollCell hcell
      have his' : ∀ j ∈ is, 2 ≤ j ∧ j < server₁.nbFds := by
        intro j hj
        rw [hnb]
        exact his j (List.mem_cons_of_mem _ hj)
      obtain ⟨lost', h', hsub', hiff'⟩ := ih h₁ hleads.table hnodup' his' hrest
      refine ⟨lost', h', hsub₁.trans hsub', ?_⟩
      -- `lost` only grows, so nothing is lost by the loop exactly when neither part loses anything
      have hsame : lost' = lost ↔ lost₁ = lost ∧ lost' = lost₁ := by
        constructor
        · rintro rfl
          have heq : lost₁ = lost' := Finset.Subset.antisymm hsub' hsub₁
          exact ⟨heq, heq.symm⟩
        · rintro ⟨rfl, rfl⟩
          rfl
      rw [hsame, hiff₁, hiff', List.forall_mem_cons]
      apply and_congr Iff.rfl
      apply forall₂_congr
      intro j hj
      -- an earlier cell of the loop does not touch what was found at a later one
      rw [hhang j fun heq => hni (heq ▸ hj)]

/-- The calls of a listener come behind the earlier ones. -/
theorem calls_pollListener {acc : Accept}
    (hpoll : Ezgrpc2.pollListener server i acc = some server') :
    ∃ cs, server'.socketCalls = server.socketCalls ++ cs := by
  rcases pollListener_cases hpoll with heq | ⟨-, hrefused | ⟨k, hadded⟩⟩
  · exact ⟨[], by rw [heq, List.append_nil]⟩
  · exact ⟨_, hrefused.calls.trans (List.append_assoc _ _ _)⟩
  · exact ⟨_, hadded.calls⟩

/-- The socket calls of the loop come behind those made before it. -/
theorem calls_pollCells {round : Round} {is : List ℕ}
    (hpoll : Ezgrpc2.pollCells round server is = some server') :
    ∃ cs, server'.socketCalls = server.socketCalls ++ cs := by
  induction is generalizing server with
  | nil =>
      cases hpoll
      exact ⟨[], (List.append_nil _).symm⟩
  | cons i is ih =>
      obtain ⟨server₁, hcell, hrest⟩ := Option.bind_eq_some_iff.mp hpoll
      obtain ⟨cs', hcs'⟩ := ih hrest
      have hcs : ∃ cs, server₁.socketCalls = server.socketCalls ++ cs := by
        rcases pollCell_cases hcell with
          ⟨-, ez, -, hhung⟩ | ⟨-, ⟨-, rfl⟩ | ⟨ez, -, ⟨ez', es, hserved⟩ | ⟨es, hended⟩⟩⟩
        · exact ⟨[], by rw [hhung.calls, List.append_nil]⟩
        · exact ⟨[], (List.append_nil _).symm⟩
        · exact ⟨[], by rw [hserved.calls, List.append_nil]⟩
        · exact ⟨_, hended.calls⟩
      obtain ⟨cs, hcs⟩ := hcs
      exact ⟨cs ++ cs', by rw [hcs', hcs, List.append_assoc]⟩

end Ledger

/-- The server with what `poll` found. -/
def Server.polled (server : Server) (revents : ℕ → ℕ) : Server :=
  { server with fds := fun i => { server.fds i with revents := revents i } }

/-- The clients of a round: `poll` finds a hang-up or an error at a socket that is in use. -/
def Round.HangUp (round : Round) (server : Server) : Prop :=
  0 < round.ready ∧ ∃ i ∈ List.range' 2 (server.nbFds - 2), (server.polled round.revents).HangsUp i

instance (round : Round) (server : Server) : Decidable (round.HangUp server) :=
  inferInstanceAs (Decidable (_ ∧ _))

/-- `poll` finds nothing at a cell without a socket. -/
def Round.Polled (round : Round) (server : Server) : Prop :=
  0 < round.ready → ∀ i, i < server.nbFds → (server.fds i).fd = -1 → round.revents i = 0

instance (round : Round) (server : Server) : Decidable (round.Polled server) :=
  inferInstanceAs (Decidable (_ → _))

namespace Ledger

variable {server server' : Server} {lost : Finset ℤ} {log : List Event}

/-- **A round** loses sockets exactly when a client hung up. -/
theorem serverPoll (h : Ledger server lost) (htable : TableOk server log) {round : Round} {ret : ℤ}
    (hnew4 : round.ipv4.uuid ∉ drawn log) (hnew6 : round.ipv6.uuid ∉ drawn log)
    (hne : round.ipv6.uuid ≠ round.ipv4.uuid) (hpolled : round.Polled server)
    (hpoll : Ezgrpc2.serverPoll server round = some (ret, server'))
    (hfresh : AcquiresFresh server'.socketCalls) :
    ∃ lost', Ledger server' lost' ∧ (lost' = lost ↔ ¬round.HangUp server) := by
  rw [Ezgrpc2.serverPoll] at hpoll
  dsimp only at hpoll
  by_cases hready : round.ready ≤ 0
  · rw [if_pos hready] at hpoll
    cases hpoll
    refine ⟨lost, h.congr ⟨rfl, rfl, fun _ => rfl, fun _ => rfl⟩ rfl h.releasesOpen, ?_⟩
    exact ⟨fun _ hhang => absurd hhang.1 (Int.not_lt.mpr hready), fun _ => rfl⟩
  · rw [if_neg hready] at hpoll
    have hpos : 0 < round.ready := Int.not_le.mp hready
    obtain ⟨server₁, hlisten4, hpoll⟩ := Option.bind_eq_some_iff.mp hpoll
    obtain ⟨server₂, hlisten6, hpoll⟩ := Option.bind_eq_some_iff.mp hpoll
    obtain ⟨server₃, hcells, hpoll⟩ := Option.bind_eq_some_iff.mp hpoll
    cases hpoll
    -- the calls of each part come behind those of the parts in front of it
    obtain ⟨cs₂, hcs₂⟩ := calls_pollListener hlisten6
    obtain ⟨cs₃, hcs₃⟩ := calls_pollCells hcells
    have hfresh₂ : AcquiresFresh server₂.socketCalls := by
      rw [hcs₃] at hfresh
      exact hfresh.of_append
    have hfresh₁ : AcquiresFresh server₁.socketCalls := by
      rw [hcs₂] at hfresh₂
      exact hfresh₂.of_append
    have hsame : server.SameCells { server.polled round.revents with events := round.events } :=
      ⟨rfl, rfl, fun _ => rfl, fun _ => rfl⟩
    have h₀ := h.congr hsame rfl h.releasesOpen
    have htable₀ := htable.congr hsame
    have hquiet₀ : Quiet { server.polled round.revents with events := round.events } :=
      fun i hlt hfd => hpolled hpos i hlt hfd
    obtain ⟨h₁, hquiet₁, hhang₁⟩ := h₀.pollListener hquiet₀ hlisten4 hfresh₁
    obtain ⟨h₂, -, hhang₂⟩ := h₁.pollListener hquiet₁ hlisten6 hfresh₂
    obtain ⟨es, hleads⟩ := htable₀.pollListeners hnew4 hnew6 hne hlisten4 hlisten6
    have hnbFds : server₂.nbFds = server.nbFds := by
      rw [hleads.table.nbFds, hleads.nbSessions]
      exact htable₀.nbFds.symm
    have his : ∀ i ∈ List.range' 2 (server₂.nbFds - 2), 2 ≤ i ∧ i < server₂.nbFds := by
      intro i hi
      rw [List.mem_range'_1] at hi
      omega
    obtain ⟨lost', h', -, hiff⟩ := h₂.pollCells hleads.table List.nodup_range' his hcells
    refine ⟨lost', h', hiff.trans ?_⟩
    rw [Round.HangUp, hnbFds]
    have hhang : ∀ i, server₂.HangsUp i ↔ (server.polled round.revents).HangsUp i :=
      fun i => (hhang₂ i).trans (hhang₁ i)
    simp only [hhang]
    constructor
    · rintro hall ⟨-, i, hi, hup⟩
      exact hall i hi hup
    · exact fun hnot i hi hup => hnot ⟨hpos, i, hi, hup⟩

/-- A call of the application keeps the sockets. -/
theorem call (h : Ledger server lost) (htable : TableOk server log)
    (hcases : server' = server ∨ ∃ i ez ez', (server.sessions i).session = some ez ∧ ez.Same ez' ∧
      server' = server.setSession i ez') : Ledger server' lost := by
  rcases hcases with rfl | ⟨i, ez, ez', hslot, hsame, rfl⟩
  · exact h
  · obtain ⟨-, hi, hlt, -⟩ := htable.slot i ez hslot
    exact h.kept hi (htable.nbFds ▸ hlt) hslot hsame (server.cellSet_setSession i ez') rfl

/-! ## (4) The end -/

/-- The loop of `ezgrpc2_server_free`: the sockets of the cells that are left are closed. -/
theorem freeCells {is : List ℕ} (hnodup : is.Nodup)
    (hdistinct : ∀ i ∈ is, ∀ j ∈ is, (server.fds i).fd = (server.fds j).fd →
      (server.fds i).fd ≠ -1 → i = j)
    (hmem : ∀ fd, fd ∈ openAfter server.socketCalls ↔
      fd ∈ lost ∨ (fd ≠ -1 ∧ ∃ i ∈ is, (server.fds i).fd = fd))
    (hlost : ∀ fd ∈ lost, ¬(fd ≠ -1 ∧ ∃ i ∈ is, (server.fds i).fd = fd))
    (hreleases : ReleasesOpen server.socketCalls)
    (hfree : Ezgrpc2.freeCells server is = some server') :
    openAfter server'.socketCalls = lost ∧ ReleasesOpen server'.socketCalls := by
  induction is generalizing server with
  | nil =>
      cases hfree
      refine ⟨Finset.ext fun fd => (hmem fd).trans ?_, hreleases⟩
      constructor
      · rintro (hin | ⟨-, i, hi, -⟩)
        · exact hin
        · cases hi
      · exact Or.inl
  | cons i is ih =>
      obtain ⟨hni, hnodup'⟩ := List.nodup_cons.mp hnodup
      obtain ⟨server₁, hcell, hrest⟩ := Option.bind_eq_some_iff.mp hfree
      have hdistinct' : ∀ j ∈ is, ∀ k ∈ is, (server.fds j).fd = (server.fds k).fd →
          (server.fds j).fd ≠ -1 → j = k := fun j hj k hk =>
        hdistinct j (List.mem_cons_of_mem i hj) k (List.mem_cons_of_mem i hk)
      by_cases hfd : (server.fds i).fd ≠ -1
      · -- the socket of the cell is closed
        rw [if_pos hfd] at hcell
        obtain ⟨ez, -, rfl⟩ := sessionFree_eq_some hcell
        -- no other cell stores this socket, so closing it takes nothing from them
        have hother : ∀ j ∈ is, (server.fds j).fd ≠ (server.fds i).fd := by
          intro j hj heq
          have hji := hdistinct j (List.mem_cons_of_mem i hj) i List.mem_cons_self heq (heq ▸ hfd)
          exact hni (hji ▸ hj)
        refine ih hnodup' ?_ ?_ ?_ ?_ hrest
        · exact hdistinct'
        · intro fd
          show fd ∈ openAfter (server.socketCalls ++ [.release (server.fds i).fd]) ↔
            fd ∈ lost ∨ (fd ≠ -1 ∧ ∃ j ∈ is, (server.fds j).fd = fd)
          rw [openAfter_release, Finset.mem_erase, hmem]
          constructor
          -- what is still open is lost or stored in a later cell
          · rintro ⟨hne, hin | ⟨hfd', j, hj, heq⟩⟩
            · exact Or.inl hin
            · rcases List.mem_cons.mp hj with rfl | hj
              · exact absurd heq.symm hne
              · exact Or.inr ⟨hfd', j, hj, heq⟩
          · rintro (hin | ⟨hfd', j, hj, heq⟩)
            · refine ⟨fun heq => ?_, Or.inl hin⟩
              exact hlost fd hin ⟨heq ▸ hfd, i, List.mem_cons_self, heq.symm⟩
            · exact ⟨heq ▸ hother j hj, Or.inr ⟨hfd', j, List.mem_cons_of_mem i hj, heq⟩⟩
        · rintro fd hin ⟨hfd', j, hj, heq⟩
          exact hlost fd hin ⟨hfd', j, List.mem_cons_of_mem i hj, heq⟩
        · refine (along_handleStep_concat _ _).mpr ⟨hreleases, ?_⟩
          exact (hmem _).mpr (Or.inr ⟨hfd, i, List.mem_cons_self, rfl⟩)
      · -- the cell is free
        rw [if_neg hfd, Option.some.injEq] at hcell
        subst hcell
        have hcons : ∀ fd, (fd ≠ -1 ∧ ∃ j ∈ i :: is, (server.fds j).fd = fd) ↔
            (fd ≠ -1 ∧ ∃ j ∈ is, (server.fds j).fd = fd) := by
          intro fd
          apply and_congr_right
          intro hfd'
          rw [List.exists_mem_cons_iff]
          exact or_iff_right fun heq => hfd (heq ▸ hfd')
        apply ih hnodup' hdistinct' _ _ hreleases hrest
        · intro fd
          rw [hmem, hcons]
        · intro fd hin
          rw [← hcons]
          exact hlost fd hin

/-- **`ezgrpc2_server_free`** closes the sockets that are stored, each once. -/
theorem serverFree (h : Ledger server lost) (hfree : Ezgrpc2.serverFree server = some server') :
    openAfter server'.socketCalls = lost ∧ ReleasesOpen server'.socketCalls := by
  have hcells : ∀ fd, (fd ≠ -1 ∧ ∃ i ∈ List.range' 2 (server.nbFds - 2), (server.fds i).fd = fd) ↔
      server.Stores fd := by
    intro fd
    unfold Server.Stores
    apply and_congr_right
    intro _
    constructor
    · rintro ⟨i, hi, heq⟩
      rw [List.mem_range'_1] at hi
      exact ⟨i, hi.1, by omega, heq⟩
    · rintro ⟨i, hi, hlt, heq⟩
      exact ⟨i, by rw [List.mem_range'_1]; omega, heq⟩
  apply freeCells List.nodup_range' _ _ _ h.releasesOpen hfree
  · intro i hi j hj heq hne
    rw [List.mem_range'_1] at hi hj
    exact h.distinct i j hi.1 (by omega) hj.1 (by omega) heq hne
  · intro fd
    rw [hcells]
    exact h.mem_openAfter fd
  · intro fd hin
    rw [hcells]
    exact h.lost fd hin

end Ledger

/-! ## (5) Runs -/

/-- `poll` finds nothing at free cells in the round, if it is one. -/
def ServerAction.Polled (server : Server) : ServerAction → Prop
  | .poll round => round.Polled server
  | .streamSend _ _ _ _ | .streamEnd _ _ _ _ | .pathCall _ => True

/-- A client hangs up in the round, if it is one. -/
def ServerAction.HangUp (server : Server) : ServerAction → Prop
  | .poll round => round.HangUp server
  | .streamSend _ _ _ _ | .streamEnd _ _ _ _ | .pathCall _ => False

instance (server : Server) : (a : ServerAction) → Decidable (a.Polled server)
  | .poll round => inferInstanceAs (Decidable (round.Polled server))
  | .streamSend _ _ _ _ | .streamEnd _ _ _ _ | .pathCall _ => isTrue trivial

instance (server : Server) : (a : ServerAction) → Decidable (a.HangUp server)
  | .poll round => inferInstanceAs (Decidable (round.HangUp server))
  | .streamSend _ _ _ _ | .streamEnd _ _ _ _ | .pathCall _ => isFalse not_false

/-- A step in which the system does what it should: `accept` returns no socket that is open, and
`poll` finds nothing at a cell without a socket. -/
def socketStep (st : ServerState) (a : ServerAction) : Option ServerState :=
  if a.Polled st.server then
    (serverStep st a).filter fun st' => decide (AcquiresFresh st'.server.socketCalls)
  else none

/-- **The sockets are in order**: each one accepted is stored or closed, and closed once. -/
structure ServerState.SocketsOk (st : ServerState) : Prop where
  /-- The sockets accepted and not yet closed are those stored in the clients' cells of `fds`. -/
  stored : ∀ fd, fd ∈ openAfter st.server.socketCalls ↔ st.server.Stores fd
  /-- No socket was closed twice, or without having been accepted. -/
  once : ReleasesOpen st.server.socketCalls
  /-- `ezgrpc2_server_free` closes those that are left, each once. -/
  freed : ∀ server', serverFree st.server = some server' →
    openAfter server'.socketCalls = ∅ ∧ ReleasesOpen server'.socketCalls

/-- The sockets are in order exactly when none is lost. -/
theorem Ledger.socketsOk_iff {st : ServerState} {lost : Finset ℤ} (h : Ledger st.server lost) :
    st.SocketsOk ↔ lost = ∅ := by
  constructor
  · intro hok
    apply Finset.eq_empty_of_forall_notMem
    intro fd hin
    exact h.lost fd hin ((hok.stored fd).mp ((h.mem_openAfter fd).mpr (Or.inl hin)))
  · rintro rfl
    refine ⟨fun fd => ?_, h.releasesOpen, fun server' hfree => h.serverFree hfree⟩
    rw [h.mem_openAfter]
    exact or_iff_right (Finset.notMem_empty fd)

/-- **A step** loses sockets exactly when it is a round in which a client hung up. -/
theorem Ledger.step {st st' : ServerState} {lost : Finset ℤ} (h : Ledger st.server lost)
    (htable : TableOk st.server st.log) {a : ServerAction} (hstep : socketStep st a = some st') :
    (TableOk st'.server st'.log) ∧
      ∃ lost', Ledger st'.server lost' ∧ (lost' = lost ↔ ¬a.HangUp st.server) := by
  rw [socketStep] at hstep
  split at hstep
  · next hpolled =>
      obtain ⟨hstep, hfresh⟩ := Option.filter_eq_some_iff.mp hstep
      have hfresh := of_decide_eq_true hfresh
      refine ⟨(htable.step hstep).1, ?_⟩
      cases a with
      -- only a round closes or loses sockets, the other actions touch none
      | poll round =>
          rw [serverStep] at hstep
          split at hstep
          · next hnew =>
              obtain ⟨⟨ret, server⟩, hpoll, hstep⟩ := Option.bind_eq_some_iff.mp hstep
              cases hstep
              obtain ⟨hnew4, hnew6, hne⟩ := hnew
              exact h.serverPoll htable hnew4 hnew6 hne hpolled hpoll hfresh
          · cases hstep
      | streamSend uuid streamId messages sends =>
          obtain ⟨r, hr, hstep⟩ := Option.bind_eq_some_iff.mp hstep
          cases hstep
          exact ⟨lost, h.call htable (sessionStreamSend_cases hr), fun _ hcon => hcon, fun _ => rfl⟩
      | streamEnd uuid streamId status send =>
          obtain ⟨r, hr, hstep⟩ := Option.bind_eq_some_iff.mp hstep
          cases hstep
          exact ⟨lost, h.call htable (sessionStreamEnd_cases hr), fun _ hcon => hcon, fun _ => rfl⟩
      | pathCall call =>
          cases hstep
          exact ⟨lost, h.congr ⟨rfl, rfl, fun _ => rfl, fun _ => rfl⟩ rfl h.releasesOpen,
            fun _ hcon => hcon, fun _ => rfl⟩
  · cases hstep

/-- No socket was accepted by a new server. -/
theorem serverStart_ledger (ipv4Sockfd ipv6Sockfd : ℤ) (maxConnections initialWindowSize : ℕ)
    (maxPaths : MaxPaths) :
    Ledger (serverNew ipv4Sockfd ipv6Sockfd maxConnections initialWindowSize maxPaths) ∅ := by
  have hfd : ∀ i, 2 ≤ i →
      ((serverNew ipv4Sockfd ipv6Sockfd maxConnections initialWindowSize maxPaths).fds i).fd = -1 := by
    intro i hi
    show (if i = 0 then ipv4Sockfd else if i = 1 then ipv6Sockfd else -1) = -1
    rw [if_neg (by omega), if_neg (by omega)]
  constructor
  · intro i j hi _ _ _ _ hne
    exact absurd (hfd i hi) hne
  · intro i ez hslot
    cases hslot
  · intro fd
    constructor
    · intro hin
      exact absurd hin (Finset.notMem_empty fd)
    · rintro (hin | ⟨hne, i, hi, -, heq⟩)
      · exact hin
      · exact absurd (heq.symm.trans (hfd i hi)) hne
  · intro fd hin
    exact absurd hin (Finset.notMem_empty fd)
  · trivial

/-- **Sockets leak exactly by hang-ups.** In a run of rounds, calls of the application and the end of
the server, the open sockets are those in `fds` at all times, none is closed twice and the end leaves
none open, if and only if `poll` never finds a hang-up or an error at the socket of a client. -/
theorem serverRun_sockets_iff (ipv4Sockfd ipv6Sockfd : ℤ) (maxConnections initialWindowSize : ℕ)
    (maxPaths : MaxPaths) {acts : List ServerAction} {st : ServerState}
    (hrun : run socketStep
      (serverStart ipv4Sockfd ipv6Sockfd maxConnections initialWindowSize maxPaths) acts = some st) :
    Throughout socketStep ServerState.SocketsOk
        (serverStart ipv4Sockfd ipv6Sockfd maxConnections initialWindowSize maxPaths) acts ↔
      Along socketStep (fun st a => ¬a.HangUp st.server)
        (serverStart ipv4Sockfd ipv6Sockfd maxConnections initialWindowSize maxPaths) acts := by
  apply throughout_iff (I := fun st => TableOk st.server st.log ∧ Ledger st.server ∅) _ _ _
    ⟨serverStart_ok _ _ _ _ _, serverStart_ledger _ _ _ _ _⟩ hrun
  · exact fun st h => h.2.socketsOk_iff.mpr rfl
  · rintro st a st' ⟨htable, h⟩ hquiet hstep
    obtain ⟨htable', lost', h', hiff⟩ := h.step htable hstep
    exact ⟨htable', hiff.mpr hquiet ▸ h'⟩
  · rintro st a st' ⟨htable, h⟩ hhang hstep hok
    obtain ⟨-, lost', h', hiff⟩ := h.step htable hstep
    exact hhang (hiff.mp (h'.socketsOk_iff.mp hok))

/-- A client connects and hangs up. Its socket is open, in no cell, and stays open when the server is
freed. -/
theorem serverRun_not_socketsOk :
    ∃ st, run socketStep (serverStart 3 (-1) 1 100 ⟨10, by decide⟩)
        [roundOne 20 0 pollin true, roundOne 22 2 pollrdhup true] = some st ∧
      openAfter st.server.socketCalls = {9} ∧ (st.server.fds 2).fd = -1 ∧ ¬st.SocketsOk := by
  have hvalue : (run socketStep (serverStart 3 (-1) 1 100 ⟨10, by decide⟩)
      [roundOne 20 0 pollin true, roundOne 22 2 pollrdhup true]).map (fun st =>
        (openAfter st.server.socketCalls, st.server.nbFds, (st.server.fds 2).fd))
      = some ({9}, 3, -1) := by
    decide +kernel
  obtain ⟨st, hrun, hvalue⟩ := Option.map_eq_some_iff.mp hvalue
  rw [Prod.mk.injEq, Prod.mk.injEq] at hvalue
  obtain ⟨hopen, hnbFds, hfd⟩ := hvalue
  refine ⟨st, hrun, hopen, hfd, fun hok => ?_⟩
  have hin : (9 : ℤ) ∈ openAfter st.server.socketCalls := by
    rw [hopen]
    exact Finset.mem_singleton_self 9
  obtain ⟨-, i, hi, hlt, heq⟩ := (hok.stored 9).mp hin
  obtain rfl : i = 2 := by omega
  rw [hfd] at heq
  cases heq

/-- Three clients and one cell: the second is refused, and the third comes when the exchange with the
first has failed; its socket has the number of the first one. -/
theorem serverRun_sockets_three_clients :
    ∃ acts st, run socketStep (serverStart 3 (-1) 1 100 ⟨10, by decide⟩) acts = some st ∧
      st.server.socketCalls
        = [.acquire 9, .acquire 8, .release 8, .release 9, .acquire 9] ∧
      Throughout socketStep ServerState.SocketsOk (serverStart 3 (-1) 1 100 ⟨10, by decide⟩) acts := by
  let failing : ServerAction := .poll
    { ready := 1
      revents := fun j => if j = 2 then pollin else 0
      events := eventsNew
      ipv4 := ⟨9, true, true, true, 24⟩
      ipv6 := ⟨9, true, true, true, 25⟩
      exchange := fun _ => ⟨true, false, [], -1, []⟩ }
  let full : ServerAction := .poll
    { ready := 1
      revents := fun j => if j = 0 then pollin else 0
      events := eventsNew
      ipv4 := ⟨8, true, true, true, 22⟩
      ipv6 := ⟨8, true, true, true, 23⟩
      exchange := fun _ => ⟨true, false, [], 0, []⟩ }
  let acts := [roundOne 20 0 pollin true, full, failing, roundOne 26 0 pollin true]
  have hcalls : (run socketStep (serverStart 3 (-1) 1 100 ⟨10, by decide⟩) acts).map (fun st =>
      st.server.socketCalls)
      = some [.acquire 9, .acquire 8, .release 8, .release 9, .acquire 9] := by
    decide +kernel
  obtain ⟨st, hrun, hcalls⟩ := Option.map_eq_some_iff.mp hcalls
  exact ⟨acts, st, hrun, hcalls, (serverRun_sockets_iff 3 (-1) 1 100 ⟨10, by decide⟩ hrun).mpr
    (by decide +kernel)⟩

end Ezgrpc2
