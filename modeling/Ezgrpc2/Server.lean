import Ezgrpc2.Lib.Handles
import Ezgrpc2.StreamRegistry

/-! # The server

`Server` is `struct ezgrpc2_server`: the table of sessions and, in parallel to it, the array given to
`poll`. Cells 0 and 1 are the listeners; a session lives in the cell its handle names. A cell of
`sessions` is `Slot`: memory that `calloc` or `session_free` zeroed, or a session. Beside the fields
of the source a `Server` records the calls of `accept` and `close` on the sockets of clients. -/

namespace Ezgrpc2

open Handles

/-! ## (1) The arrays -/

/-- `struct pollfd`, without the events asked for. -/
structure Pollfd where
  /-- The socket; -1 marks a free cell. -/
  fd : ℤ
  /-- The events that `poll` found on the socket. -/
  revents : ℕ

/-- `POLLIN`: there is something to read. -/
def pollin : ℕ := 0x001

/-- `POLLERR`: there is an error on the socket. -/
def pollerr : ℕ := 0x008

/-- `POLLRDHUP`: the peer has closed its side. -/
def pollrdhup : ℕ := 0x2000

/-- A cell of `sessions`, with a session or none. -/
structure Slot where
  /-- The pointer back to the server is set. -/
  server : Bool
  /-- The session, unless the rest of the cell is zeroed. -/
  session : Option Session

/-- A zeroed cell, in which there is no session. -/
def slotZero : Slot := ⟨false, none⟩

/-- The `session_uuid` of a cell, zero in a zeroed one. -/
def Slot.sessionUuid (slot : Slot) : SessionUuid :=
  match slot.session with
  | some ezsession => ezsession.sessionUuid
  | none => ⟨0, 0⟩

/-- `struct ezgrpc2_server`, with the calls made on sockets. -/
structure Server extends ServerShared where
  /-- The number of cells of `fds`. -/
  nbFds : ℕ
  /-- The cells given to `poll`, two listeners and the clients. -/
  fds : ℕ → Pollfd
  /-- The number of cells of `sessions`. -/
  nbSessions : ℕ
  /-- The cells for the sessions of the clients. -/
  sessions : ℕ → Slot
  /-- The sockets `accept` returned and `close` was called on so far, the listeners aside. -/
  socketCalls : List (Call ℤ)

namespace Server

/-- `accept` returns a socket, and the call is recorded. -/
def accept (server : Server) (fd : ℤ) : Server :=
  { server with socketCalls := server.socketCalls ++ [.acquire fd] }

/-- `close` is called on a socket, and the call is recorded. -/
def close (server : Server) (fd : ℤ) : Server :=
  { server with socketCalls := server.socketCalls ++ [.release fd] }

/-- Writes a cell of `sessions` and leaves the others. -/
def setSlot (server : Server) (i : ℕ) (slot : Slot) : Server :=
  { server with sessions := fun j => if j = i then slot else server.sessions j }

/-- The session of a cell changes in place. -/
def setSession (server : Server) (i : ℕ) (ezsession : Session) : Server :=
  server.setSlot i { server.sessions i with session := some ezsession }

/-- Writes a cell of `fds` and leaves the others. -/
def setFd (server : Server) (i : ℕ) (pollfd : Pollfd) : Server :=
  { server with fds := fun j => if j = i then pollfd else server.fds j }

@[simp] theorem setSlot_self (server : Server) (i : ℕ) (slot : Slot) :
    (server.setSlot i slot).sessions i = slot := if_pos rfl

theorem setSlot_of_ne {server : Server} {i j : ℕ} (slot : Slot) (h : j ≠ i) :
    (server.setSlot i slot).sessions j = server.sessions j := if_neg h

@[simp] theorem setSession_self (server : Server) (i : ℕ) (ezsession : Session) :
    ((server.setSession i ezsession).sessions i).session = some ezsession := by
  rw [setSession, setSlot_self]

theorem setSession_of_ne {server : Server} {i j : ℕ} (ezsession : Session) (h : j ≠ i) :
    (server.setSession i ezsession).sessions j = server.sessions j := setSlot_of_ne _ h

end Server

/-! ## (2) Finding a session -/

/-- `ezgrpc2_session_uuid_is_equal`, which compares both parts of the handles. -/
def sessionUuidIsEqual (uuid1 uuid2 : SessionUuid) : Bool :=
  uuid1.index == uuid2.index && uuid1.uuid == uuid2.uuid

/-- The two handles are compared in full. -/
theorem sessionUuidIsEqual_iff (uuid1 uuid2 : SessionUuid) :
    sessionUuidIsEqual uuid1 uuid2 = true ↔ uuid1 = uuid2 := by
  cases uuid1
  cases uuid2
  simp [sessionUuidIsEqual, and_comm]

/-- `session_find`: the cell found. The outer `none` is the failed assertion on the index. -/
def sessionFind (sessions : ℕ → Slot) (nbSessions : ℕ) (sessionUuid : SessionUuid) :
    Option (Option ℕ) :=
  if ¬sessionUuid.index < nbSessions then none
  else if sessionUuidIsEqual sessionUuid (sessions sessionUuid.index).sessionUuid then
    some (some sessionUuid.index)
  else some none

/-- What is found is the cell the handle names. -/
theorem sessionFind_eq_some {sessions : ℕ → Slot} {nbSessions i : ℕ} {uuid : SessionUuid}
    (h : sessionFind sessions nbSessions uuid = some (some i)) :
    i = uuid.index ∧ (sessions i).sessionUuid = uuid := by
  rw [sessionFind] at h
  by_cases hlt : uuid.index < nbSessions
  · rw [if_neg (not_not.mpr hlt)] at h
    by_cases heq : sessionUuidIsEqual uuid (sessions uuid.index).sessionUuid = true
    · rw [if_pos heq, Option.some.injEq, Option.some.injEq] at h
      subst h
      exact ⟨rfl, ((sessionUuidIsEqual_iff _ _).mp heq).symm⟩
    · rw [if_neg heq] at h
      cases h
  · rw [if_pos hlt] at h
    cases h

end Ezgrpc2
