import Ezgrpc2.ServerPoll

/-! # The write loops

`session_events` and `ezgrpc2_server_session_stream_send` end with the same loop: they call
`nghttp2_session_send` as long as `nghttp2_session_want_write` says so. The socket is non-blocking.
When it is full `ngsend_callback` returns `NGHTTP2_ERR_WOULDBLOCK`, nghttp2 keeps the frame and
`nghttp2_session_send` returns 0, so the loop calls it again. nghttp2 is a parameter here:
`Nghttp2` has the two functions, `Outbound` what its documentation says about them. DATA that the
client's window does not let through makes nghttp2 want to write although there is nothing for the
send callback; `nghttp2_session_send` then sets it aside and returns 0, and the loop ends.

`writeLoops_return_iff` says when the loops return 0: when they are not entered, or `send` takes all
that nghttp2 has to write before it fails. A socket that stays full keeps the server in the loop
(`writeLoop_full`). -/

namespace Ezgrpc2

/-! ## (1) The socket -/

/-- What a call of `send` on a non-blocking socket returns. -/
inductive SendResult where
  /-- The socket took so many bytes. -/
  | sent (n : ℕ)
  /-- The call returned -1 with `EAGAIN` or `EWOULDBLOCK`. -/
  | wouldBlock
  /-- The call returned -1 with any other error. -/
  | failed
deriving DecidableEq

/-- A socket: what its calls of `send` return, each for the length it is given. `send` takes a byte
at least, and no more than it is given. -/
structure Socket where
  /-- The result of a call, by its number and its length. -/
  send : ℕ → ℕ → SendResult
  /-- A call that takes bytes takes at least one. -/
  pos : ∀ k length n, length ≠ 0 → send k length = .sent n → 0 < n
  /-- The bytes taken are among those given. -/
  le : ∀ k length n, send k length = .sent n → n ≤ length

/-- `NGHTTP2_ERR_WOULDBLOCK`, the result of the send callback on a full socket. -/
def nghttp2ErrWouldblock : ℤ := -504

/-- `NGHTTP2_ERR_CALLBACK_FAILURE`, the result of the send callback on any other error. -/
def nghttp2ErrCallbackFailure : ℤ := -902

/-- `ngsend_callback`: what it returns for a result of `send`. -/
def ngsendCallback : SendResult → ℤ
  | .sent n => n
  | .wouldBlock => nghttp2ErrWouldblock
  | .failed => nghttp2ErrCallbackFailure

/-- The send callback of a session after `calls` calls of `send`. -/
def Socket.callback (socket : Socket) (calls : ℕ) (k length : ℕ) : ℤ :=
  ngsendCallback (socket.send (calls + k) length)

/-- The callback when `send` was called once more. -/
theorem Socket.callback_succ (socket : Socket) (calls : ℕ) :
    (fun k => socket.callback calls (k + 1)) = socket.callback (calls + 1) := by
  funext k length
  unfold Socket.callback
  rw [Nat.add_assoc, Nat.add_comm 1 k]

/-! ## (2) nghttp2 -/

/-- What a call of `nghttp2_session_send` leaves behind. -/
structure SendOutcome (σ : Type) where
  /-- The session of nghttp2 behind the call. -/
  state : σ
  /-- What nghttp2 did and the value returned. -/
  send : NgSend
  /-- How often it called the send callback. -/
  calls : ℕ

/-- The functions of nghttp2 the loops call, over the states `σ` of its session. -/
structure Nghttp2 (σ : Type) where
  /-- `nghttp2_session_want_write`, as a function of the session. -/
  wantWrite : σ → Bool
  /-- `nghttp2_session_send`, with what the send callback returns to its calls in turn, each for the
  length it is given. -/
  sessionSend : σ → (ℕ → ℕ → ℤ) → SendOutcome σ

/-- What nghttp2 has to write in each state, and what becomes of it. -/
structure Outbound (σ : Type) where
  /-- The length of what it hands to the send callback next, 0 when it has nothing for the callback:
  nothing is submitted, or only DATA that the client's window does not let through. `none` when it
  fails before, for want of memory or in another callback. -/
  next : σ → Option ℕ
  /-- The state when the callback has taken so many bytes of it. -/
  took : σ → ℕ → σ
  /-- The state when the callback would block. -/
  kept : σ → σ
  /-- The state when there is nothing for the callback: DATA that waits for the client's window is set
  aside. -/
  settled : σ → σ
  /-- The bytes it hands to the callback until it has nothing more for it. `none` when it fails
  first. -/
  pending : σ → Option ℕ

/-- **What is documented of nghttp2.** `nghttp2_session_send` hands its frames to the send callback
until there is nothing to write, the callback would block or something fails; it keeps the frame for
which the callback would block, and then still wants to write. A state in which it has nothing for
the callback need not be one in which it does not want to write: DATA is set aside by the call. -/
structure Nghttp2.Documented {σ : Type} (ng : Nghttp2 σ) (out : Outbound σ) : Prop where
  /-- With nothing for the callback 0 is returned, and there is nothing left that it wants to write. -/
  settles : ∀ s callback, out.next s = some 0 →
    (ng.sessionSend s callback).state = out.settled s ∧ (ng.sessionSend s callback).send.res = 0 ∧
      (ng.sessionSend s callback).calls = 0 ∧ ng.wantWrite (out.settled s) = false
  /-- A failure of its own is returned. -/
  fails : ∀ s callback, out.next s = none → (ng.sessionSend s callback).send.res ≠ 0
  /-- **When the callback would block it returns 0, keeps the frame and still wants to write.** -/
  wouldBlock : ∀ s callback length, out.next s = some length → length ≠ 0 →
    callback 0 length = nghttp2ErrWouldblock →
    (ng.sessionSend s callback).state = out.kept s ∧ (ng.sessionSend s callback).send.res = 0 ∧
      (ng.sessionSend s callback).calls = 1 ∧ ng.wantWrite (out.kept s) = true
  /-- A failure of the callback is returned. -/
  callbackFailure : ∀ s callback length, out.next s = some length → length ≠ 0 →
    callback 0 length = nghttp2ErrCallbackFailure → (ng.sessionSend s callback).send.res ≠ 0
  /-- When the callback has taken bytes it goes on with the rest. -/
  sent : ∀ s callback length n, out.next s = some length → 0 < n → n ≤ length →
    callback 0 length = (n : ℤ) →
    let rest := ng.sessionSend (out.took s n) fun k => callback (k + 1)
    (ng.sessionSend s callback).state = rest.state ∧
      (ng.sessionSend s callback).send.res = rest.send.res ∧
      (ng.sessionSend s callback).calls = rest.calls + 1
  /-- Nothing is pending exactly when there is nothing for the callback. -/
  pending_eq_zero : ∀ s, out.pending s = some 0 ↔ out.next s = some 0
  /-- Setting DATA aside makes nothing pending. -/
  pending_settled : ∀ s, out.next s = some 0 → out.pending (out.settled s) = some 0
  /-- nghttp2 does not write all that it has when it fails first. -/
  pending_of_fails : ∀ s, out.next s = none → out.pending s = none
  /-- The bytes taken are no longer pending. -/
  pending_took : ∀ s length n, out.next s = some length → 0 < n → n ≤ length →
    out.pending s = (out.pending (out.took s n)).map (· + n)
  /-- The bytes of a frame that is kept are still pending. -/
  pending_kept : ∀ s, out.pending (out.kept s) = out.pending s

/-! ## (3) The loops -/

/-- What a write loop leaves behind. -/
structure WriteResult (σ : Type) where
  /-- The value that the caller of the loop returns. -/
  ret : ℕ
  /-- The session of nghttp2 behind the loop. -/
  state : σ
  /-- The calls of `nghttp2_session_send`, in order. -/
  sends : List NgSend
  /-- The calls of `send`, those before the loop included. -/
  calls : ℕ

variable {σ : Type}

/-- The loop `while (nghttp2_session_want_write(..))`, with the value its caller returns on a failure,
after `calls` calls of `send`. `none` when it has not ended after `fuel` tests of its condition. -/
def writeLoop (ng : Nghttp2 σ) (socket : Socket) (failed : ℕ) :
    ℕ → σ → ℕ → Option (WriteResult σ)
  | 0, _, _ => none
  | fuel + 1, s, calls =>
      if ng.wantWrite s then
        let o := ng.sessionSend s (socket.callback calls)
        if o.send.res ≠ 0 then some ⟨failed, o.state, [o.send], calls + o.calls⟩
        else (writeLoop ng socket failed fuel o.state (calls + o.calls)).map fun r =>
          { r with sends := o.send :: r.sends }
      else some ⟨0, s, [], calls⟩

/-- The loop of `session_events`, which returns 1 where nghttp2 fails. -/
def sessionEventsLoop (ng : Nghttp2 σ) (socket : Socket) (fuel : ℕ) (s : σ) :
    Option (WriteResult σ) := writeLoop ng socket 1 fuel s 0

/-- The loop of `ezgrpc2_server_session_stream_send`, which returns 3 where nghttp2 fails. -/
def streamSendLoop (ng : Nghttp2 σ) (socket : Socket) (fuel : ℕ) (s : σ) :
    Option (WriteResult σ) := writeLoop ng socket 3 fuel s 0

/-- The bytes the next `n` calls of `send` take, the first of them being call number `k`. `none` when
one of them fails. -/
def takenBy (out : Outbound σ) (socket : Socket) : ℕ → σ → ℕ → Option ℕ
  | 0, _, _ => some 0
  | n + 1, s, k => do
      let length ← out.next s
      match socket.send k length with
      | .sent m => (takenBy out socket n (out.took s m) (k + 1)).map (· + m)
      | .wouldBlock => takenBy out socket n (out.kept s) (k + 1)
      | .failed => none

/-- **The loop returns with the rest still queued**: it ends after finitely many iterations, it returns
0, and of what was pending only the bytes that `send` took are gone. -/
def Returns (out : Outbound σ) (socket : Socket) (loop : ℕ → σ → Option (WriteResult σ)) (s : σ) :
    Prop :=
  ∃ fuel r, loop fuel s = some r ∧ r.ret = 0 ∧ ∃ bytes, takenBy out socket r.calls s 0 = some bytes ∧
    out.pending s = (out.pending r.state).map (· + bytes)

/-- **The socket takes all**: before one of them fails, the calls of `send` take the bytes nghttp2 has
to write. -/
def TakesAll (out : Outbound σ) (socket : Socket) (s : σ) : Prop :=
  ∃ n bytes, takenBy out socket n s 0 = some bytes ∧ out.pending s = some bytes

/-! ## (4) When they return 0 -/

section

variable {ng : Nghttp2 σ} {out : Outbound σ} {socket : Socket}

/-- What is left of a state `s` with `k` calls of `send` made: of what was pending only the bytes
that `send` took since are gone. -/
def RestQueued (out : Outbound σ) (socket : Socket) (s : σ) (k : ℕ) (r : WriteResult σ) : Prop :=
  ∃ n bytes, k + n = r.calls ∧ takenBy out socket n s k = some bytes ∧
    out.pending s = (out.pending r.state).map (· + bytes)

/-- What holds of the rest when bytes are taken holds of the whole. -/
theorem RestQueued.of_took (hdoc : ng.Documented out) {s : σ} {k length m : ℕ} {r : WriteResult σ}
    (hnext : out.next s = some length) (hlength : length ≠ 0) (hsend : socket.send k length = .sent m)
    (h : RestQueued out socket (out.took s m) (k + 1) r) : RestQueued out socket s k r := by
  obtain ⟨n, bytes, hcalls, htaken, hpending⟩ := h
  refine ⟨n + 1, bytes + m, by omega, ?_, ?_⟩
  · rw [takenBy, hnext]
    simp only [Option.bind_eq_bind, Option.bind_some, hsend, htaken, Option.map_some]
  · rw [hdoc.pending_took s length m hnext (socket.pos k length m hlength hsend)
      (socket.le k length m hsend), hpending, Option.map_map]
    congr 1
    funext rest
    exact Nat.add_assoc rest bytes m

/-- What holds behind a call on a full socket holds before it, as the frame is kept. -/
theorem RestQueued.of_kept (hdoc : ng.Documented out) {s : σ} {k length : ℕ} {r : WriteResult σ}
    (hnext : out.next s = some length) (hsend : socket.send k length = .wouldBlock)
    (h : RestQueued out socket (out.kept s) (k + 1) r) : RestQueued out socket s k r := by
  obtain ⟨n, bytes, hcalls, htaken, hpending⟩ := h
  refine ⟨n + 1, bytes, by omega, ?_, ?_⟩
  · rw [takenBy, hnext]
    simp only [Option.bind_eq_bind, Option.bind_some, hsend, htaken]
  · rw [← hdoc.pending_kept s, hpending]

/-- **What a call of `nghttp2_session_send` that returns 0 can do**, by what nghttp2 hands to its first
call of `send` and what becomes of that. -/
theorem Nghttp2.Documented.cases (hdoc : ng.Documented out) {s : σ} {k : ℕ} {o : SendOutcome σ}
    (ho : ng.sessionSend s (socket.callback k) = o) (hres : o.send.res = 0) :
    (out.next s = some 0 ∧ o.state = out.settled s ∧ o.calls = 0 ∧ ng.wantWrite o.state = false) ∨
      ∃ length, out.next s = some length ∧ length ≠ 0 ∧
        ((socket.send k length = .wouldBlock ∧ o.state = out.kept s ∧ o.calls = 1 ∧
            ng.wantWrite o.state = true) ∨
          ∃ m rest, socket.send k length = .sent m ∧
            ng.sessionSend (out.took s m) (socket.callback (k + 1)) = rest ∧ rest.send.res = 0 ∧
            o.state = rest.state ∧ o.calls = rest.calls + 1) := by
  subst ho
  cases hnext : out.next s with
  | none => exact absurd hres (hdoc.fails s _ hnext)
  | some length =>
      by_cases hlength : length = 0
      · subst hlength
        obtain ⟨hstate, -, hcalls, hidle⟩ := hdoc.settles s (socket.callback k) hnext
        rw [← hstate] at hidle
        exact Or.inl ⟨rfl, hstate, hcalls, hidle⟩
      · refine Or.inr ⟨length, rfl, hlength, ?_⟩
        -- nghttp2 hands `send` its next bytes, and the result decides
        have hcallback : socket.callback k 0 length = ngsendCallback (socket.send k length) := rfl
        cases hsend : socket.send k length with
        | sent m =>
            rw [hsend] at hcallback
            obtain ⟨hstate, hres', hcalls⟩ := hdoc.sent s (socket.callback k) length m hnext
              (socket.pos k length m hlength hsend) (socket.le k length m hsend) hcallback
            rw [Socket.callback_succ] at hstate hres' hcalls
            exact Or.inr ⟨m, _, rfl, rfl, hres'.symm.trans hres, hstate, hcalls⟩
        | wouldBlock =>
            rw [hsend] at hcallback
            obtain ⟨hstate, -, hcalls, hwant⟩ :=
              hdoc.wouldBlock s (socket.callback k) length hnext hlength hcallback
            rw [← hstate] at hwant
            exact Or.inl ⟨rfl, hstate, hcalls, hwant⟩
        | failed =>
            rw [hsend] at hcallback
            exact absurd hres (hdoc.callbackFailure s _ length hnext hlength hcallback)

/-- **A call of `nghttp2_session_send` that returns 0** loses nothing, when the loop stops behind it or
loses nothing from there on. The induction is on the number of times it calls `send`. -/
theorem RestQueued.of_sessionSend (hdoc : ng.Documented out) {s : σ} {k : ℕ} {o : SendOutcome σ}
    {r : WriteResult σ} (ho : ng.sessionSend s (socket.callback k) = o) (hres : o.send.res = 0)
    (hstop : ng.wantWrite o.state = false → r.state = o.state ∧ r.calls = k + o.calls)
    (h : RestQueued out socket o.state (k + o.calls) r) : RestQueued out socket s k r := by
  induction hcount : o.calls generalizing s k o with
  | zero =>
      rcases hdoc.cases ho hres with
        ⟨hnext, hstate, -, hidle⟩ |
          ⟨length, -, -, ⟨-, -, hcalls, -⟩ | ⟨_, _, -, -, -, -, hcalls⟩⟩
      · -- nothing was handed to `send`, and the loop is over
        obtain ⟨hlast, hcalls⟩ := hstop hidle
        refine ⟨0, 0, by omega, rfl, ?_⟩
        rw [hlast, hstate, hdoc.pending_settled s hnext, (hdoc.pending_eq_zero s).mpr hnext]
        rfl
      · omega
      · omega
  | succ c ih =>
      rcases hdoc.cases ho hres with
        ⟨-, -, hcalls, -⟩ | ⟨length, hnext, hlength, ⟨hsend, hstate, hcalls, -⟩ |
          ⟨m, rest, hsend, hrest, hres', hstate, hcalls⟩⟩
      · omega
      · rw [hstate, hcalls] at h
        exact h.of_kept hdoc hnext hsend
      · have hrestCalls : rest.calls = c := by omega
        have hshift : k + o.calls = k + 1 + rest.calls := by omega
        rw [hstate, hshift] at h hstop
        exact RestQueued.of_took hdoc hnext hlength hsend (ih hrest hres' hstop h hrestCalls)

/-- A call of `nghttp2_session_send` behind which nghttp2 does not want to write leaves nothing
pending. -/
theorem Nghttp2.Documented.pending_of_sessionSend (hdoc : ng.Documented out) {s : σ} {k : ℕ}
    {o : SendOutcome σ} (ho : ng.sessionSend s (socket.callback k) = o) (hres : o.send.res = 0)
    (hidle : ng.wantWrite o.state = false) : out.pending o.state = some 0 := by
  induction hcount : o.calls generalizing s k o with
  | zero =>
      rcases hdoc.cases ho hres with
        ⟨hnext, hstate, -, -⟩ |
          ⟨length, -, -, ⟨-, -, hcalls, -⟩ | ⟨_, _, -, -, -, -, hcalls⟩⟩
      · rw [hstate]
        exact hdoc.pending_settled s hnext
      · omega
      · omega
  | succ c ih =>
      rcases hdoc.cases ho hres with
        ⟨-, -, hcalls, -⟩ | ⟨length, -, -, ⟨-, -, -, hwant⟩ |
          ⟨m, rest, -, hrest, hres', hstate, hcalls⟩⟩
      · omega
      · exact Bool.noConfusion (hidle.symm.trans hwant)
      · rw [hstate] at hidle ⊢
        exact ih hrest hres' hidle (by omega)

/-- A loop that is not entered returns 0 at once. -/
theorem writeLoop_of_not_wants {failed fuel k : ℕ} {s : σ} {r : WriteResult σ}
    (hidle : ng.wantWrite s = false) (h : writeLoop ng socket failed fuel s k = some r) :
    r = ⟨0, s, [], k⟩ := by
  cases fuel with
  | zero => cases h
  | succ fuel =>
      rw [writeLoop, hidle, if_neg Bool.false_ne_true] at h
      exact (Option.some.inj h).symm

/-- A loop that returns 0 has lost nothing, and if it was entered it ends with nothing pending. -/
theorem writeLoop_eq_zero (hdoc : ng.Documented out) {failed fuel : ℕ} (hfailed : failed ≠ 0) {s : σ}
    {k : ℕ} {r : WriteResult σ} (h : writeLoop ng socket failed fuel s k = some r) (hret : r.ret = 0) :
    RestQueued out socket s k r ∧ (ng.wantWrite s = true → out.pending r.state = some 0) := by
  induction fuel generalizing s k r with
  | zero => cases h
  | succ fuel ih =>
      cases hwant : ng.wantWrite s with
      | false =>
          obtain rfl := writeLoop_of_not_wants hwant h
          refine ⟨⟨0, 0, rfl, rfl, ?_⟩, fun hcon => Bool.noConfusion hcon⟩
          exact Option.map_id'.symm
      | true =>
          rw [writeLoop, if_pos hwant] at h
          dsimp only at h
          by_cases hres : (ng.sessionSend s (socket.callback k)).send.res ≠ 0
          · rw [if_pos hres] at h
            cases h
            exact absurd hret hfailed
          · rw [if_neg hres] at h
            obtain ⟨r', hloop, rfl⟩ := Option.map_eq_some_iff.mp h
            obtain ⟨hrest, hpending⟩ := ih hloop hret
            have hzero := of_not_not hres
            generalize ho : ng.sessionSend s (socket.callback k) = o at *
            refine ⟨RestQueued.of_sessionSend hdoc ho hzero ?_ hrest, fun _ => ?_⟩
            · intro hidle
              obtain rfl := writeLoop_of_not_wants hidle hloop
              exact ⟨rfl, rfl⟩
            · cases hnext : ng.wantWrite o.state with
              | true => exact hpending hnext
              | false =>
                  obtain rfl := writeLoop_of_not_wants hnext hloop
                  exact hdoc.pending_of_sessionSend ho hzero hnext

/-- **The loop ends with 0**, entered in the state `s` behind `k` calls of `send`. -/
def EndsWithZero (ng : Nghttp2 σ) (socket : Socket) (failed : ℕ) (s : σ) (k : ℕ) : Prop :=
  ∃ fuel r, writeLoop ng socket failed fuel s k = some r ∧ r.ret = 0

/-- The call of `nghttp2_session_send` in the state `s` returns 0 and the loop ends with 0 behind it. -/
def SendEnds (ng : Nghttp2 σ) (socket : Socket) (failed : ℕ) (s : σ) (k : ℕ) : Prop :=
  ∃ o, ng.sessionSend s (socket.callback k) = o ∧ o.send.res = 0 ∧
    EndsWithZero ng socket failed o.state (k + o.calls)

/-- A loop that nghttp2 does not want to enter ends with 0. -/
theorem EndsWithZero.of_not_wants {failed : ℕ} {s : σ} {k : ℕ} (hidle : ng.wantWrite s = false) :
    EndsWithZero ng socket failed s k := by
  refine ⟨1, ⟨0, s, [], k⟩, ?_, rfl⟩
  rw [writeLoop, hidle]
  rfl

/-- A loop ends with 0 when it does so behind the call of `nghttp2_session_send` it may make first. -/
theorem SendEnds.endsWithZero {failed : ℕ} {s : σ} {k : ℕ} (h : SendEnds ng socket failed s k) :
    EndsWithZero ng socket failed s k := by
  cases hwant : ng.wantWrite s with
  | false => exact EndsWithZero.of_not_wants hwant
  | true =>
      obtain ⟨o, ho, hres, fuel, r, hloop, hret⟩ := h
      refine ⟨fuel + 1, { r with sends := o.send :: r.sends }, ?_, hret⟩
      rw [writeLoop, if_pos hwant, ho]
      dsimp only
      rw [if_neg (not_not.mpr hres), hloop]
      rfl

/-- With nothing for `send` the call sets aside what waits for the client's window, and that ends the
loop. -/
theorem SendEnds.of_idle (hdoc : ng.Documented out) {failed : ℕ} {s : σ} {k : ℕ}
    (hnext : out.next s = some 0) : SendEnds ng socket failed s k := by
  obtain ⟨hstate, hres, -, hidle⟩ := hdoc.settles s (socket.callback k) hnext
  refine ⟨_, rfl, hres, EndsWithZero.of_not_wants ?_⟩
  rw [hstate]
  exact hidle

/-- When the socket is full the loop makes the next call. -/
theorem SendEnds.of_kept (hdoc : ng.Documented out) {failed : ℕ} {s : σ} {k length : ℕ}
    (hnext : out.next s = some length) (hlength : length ≠ 0)
    (hsend : socket.send k length = .wouldBlock)
    (h : SendEnds ng socket failed (out.kept s) (k + 1)) : SendEnds ng socket failed s k := by
  have hcallback : socket.callback k 0 length = nghttp2ErrWouldblock := by
    rw [Socket.callback, Nat.add_zero, hsend]
    rfl
  obtain ⟨hstate, hres, hcalls, -⟩ :=
    hdoc.wouldBlock s (socket.callback k) length hnext hlength hcallback
  refine ⟨_, rfl, hres, ?_⟩
  rw [hstate, hcalls]
  exact h.endsWithZero

/-- When it takes bytes the same call of `nghttp2_session_send` goes on. -/
theorem SendEnds.of_took (hdoc : ng.Documented out) {failed : ℕ} {s : σ} {k length m : ℕ}
    (hnext : out.next s = some length) (hlength : length ≠ 0)
    (hsend : socket.send k length = .sent m)
    (h : SendEnds ng socket failed (out.took s m) (k + 1)) : SendEnds ng socket failed s k := by
  have hcallback : socket.callback k 0 length = (m : ℤ) := by
    rw [Socket.callback, Nat.add_zero, hsend]
    rfl
  obtain ⟨hstate, hres, hcalls⟩ := hdoc.sent s (socket.callback k) length m hnext
    (socket.pos k length m hlength hsend) (socket.le k length m hsend) hcallback
  rw [Socket.callback_succ] at hstate hres hcalls
  obtain ⟨o, rfl, hzero, hends⟩ := h
  refine ⟨_, rfl, hres.trans hzero, ?_⟩
  rw [hstate, hcalls, ← Nat.add_assoc, Nat.add_right_comm]
  exact hends

/-- **The loop ends with 0 when all is taken.** The induction is on the number of calls of `send`. -/
theorem SendEnds.of_takenBy (hdoc : ng.Documented out) {failed n bytes : ℕ} {s : σ} {k : ℕ}
    (htaken : takenBy out socket n s k = some bytes) (hpending : out.pending s = some bytes) :
    SendEnds ng socket failed s k := by
  induction n generalizing s k bytes with
  | zero =>
      cases htaken
      exact SendEnds.of_idle hdoc ((hdoc.pending_eq_zero s).mp hpending)
  | succ n ih =>
      obtain ⟨length, hnext, htaken⟩ := Option.bind_eq_some_iff.mp htaken
      by_cases hlength : length = 0
      · subst hlength
        exact SendEnds.of_idle hdoc hnext
      · cases hsend : socket.send k length with
        | sent m =>
            simp only [hsend] at htaken
            obtain ⟨bytes', htaken', rfl⟩ := Option.map_eq_some_iff.mp htaken
            rw [hdoc.pending_took s length m hnext (socket.pos k length m hlength hsend)
              (socket.le k length m hsend), Option.map_eq_some_iff] at hpending
            obtain ⟨rest, hpending, hrest⟩ := hpending
            -- what is pending behind the bytes taken is what the socket takes from there on
            obtain rfl : rest = bytes' := by omega
            exact SendEnds.of_took hdoc hnext hlength hsend (ih htaken' hpending)
        | wouldBlock =>
            simp only [hsend] at htaken
            exact SendEnds.of_kept hdoc hnext hlength hsend
              (ih htaken ((hdoc.pending_kept s).trans hpending))
        | failed =>
            simp only [hsend] at htaken
            cases htaken

/-- A write loop returns with the rest queued exactly when it is not entered or the socket takes all. -/
theorem returns_iff_takesAll (hdoc : ng.Documented out) {failed : ℕ} (hfailed : failed ≠ 0) (s : σ) :
    Returns out socket (fun fuel s => writeLoop ng socket failed fuel s 0) s ↔
      ng.wantWrite s = false ∨ TakesAll out socket s := by
  have hends : EndsWithZero ng socket failed s 0 →
      Returns out socket (fun fuel s => writeLoop ng socket failed fuel s 0) s := by
    rintro ⟨fuel, r, hloop, hret⟩
    obtain ⟨⟨n, bytes, hcalls, htaken, hrest⟩, -⟩ := writeLoop_eq_zero hdoc hfailed hloop hret
    rw [Nat.zero_add] at hcalls
    subst hcalls
    exact ⟨fuel, r, hloop, hret, bytes, htaken, hrest⟩
  constructor
  · rintro ⟨fuel, r, hloop, hret, bytes, htaken, hpending⟩
    cases hwant : ng.wantWrite s with
    | false => exact Or.inl rfl
    | true =>
        rw [(writeLoop_eq_zero hdoc hfailed hloop hret).2 hwant, Option.map_some,
          Nat.zero_add] at hpending
        exact Or.inr ⟨r.calls, bytes, htaken, hpending⟩
  · rintro (hidle | ⟨n, bytes, htaken, hpending⟩)
    · exact hends (EndsWithZero.of_not_wants hidle)
    · exact hends (SendEnds.of_takenBy hdoc htaken hpending).endsWithZero

/-- **When the write loops return.** Whatever the state of the session and the results of `send`, the
loops of `session_events` and `stream_send` end with 0 and the rest queued exactly when nghttp2 does
not want to write at all or the socket takes all that nghttp2 has to write. -/
theorem writeLoops_return_iff (hdoc : ng.Documented out) (socket : Socket) (s : σ) :
    (Returns out socket (sessionEventsLoop ng socket) s ↔
      ng.wantWrite s = false ∨ TakesAll out socket s) ∧
    (Returns out socket (streamSendLoop ng socket) s ↔
      ng.wantWrite s = false ∨ TakesAll out socket s) :=
  ⟨returns_iff_takesAll hdoc Nat.one_ne_zero s, returns_iff_takesAll hdoc (Nat.succ_ne_zero 2) s⟩

/-- **A socket that stays full** keeps the server in a loop that it has entered for ever. -/
theorem writeLoop_full (hdoc : ng.Documented out) (failed fuel : ℕ) {s : σ} {k bytes : ℕ}
    (hwant : ng.wantWrite s = true) (hpending : out.pending s = some bytes) (hbytes : bytes ≠ 0)
    (hfull : ∀ j length, k ≤ j → socket.send j length = .wouldBlock) :
    writeLoop ng socket failed fuel s k = none := by
  induction fuel generalizing s k with
  | zero => rfl
  | succ fuel ih =>
      have hnext : ∃ length, out.next s = some length ∧ length ≠ 0 := by
        cases hnext : out.next s with
        | none =>
            rw [hdoc.pending_of_fails s hnext] at hpending
            cases hpending
        | some length =>
            refine ⟨length, rfl, ?_⟩
            rintro rfl
            rw [(hdoc.pending_eq_zero s).mpr hnext, Option.some.injEq] at hpending
            exact hbytes hpending.symm
      obtain ⟨length, hnext, hlength⟩ := hnext
      have hcallback : socket.callback k 0 length = nghttp2ErrWouldblock := by
        rw [Socket.callback, Nat.add_zero, hfull k length le_rfl]
        rfl
      obtain ⟨hstate, hres, hcalls, hkept⟩ :=
        hdoc.wouldBlock s (socket.callback k) length hnext hlength hcallback
      -- nothing is taken, so the next turn starts with the same bytes pending
      rw [writeLoop, if_pos hwant]
      dsimp only
      rw [if_neg (not_not.mpr hres), hstate, hcalls,
        ih hkept ((hdoc.pending_kept s).trans hpending)
          fun j length hj => hfull j length (Nat.le_of_succ_le hj)]
      rfl

end

/-! ## (5) An nghttp2 with one frame -/

/-- An nghttp2 with at most one frame to write, and with DATA behind it. -/
structure OneFrame where
  /-- The bytes of the frame that are left to write. -/
  frame : ℕ
  /-- DATA was submitted that the client's window does not let through. -/
  blocked : Bool

/-- `nghttp2_session_send`: the frame, and when it is written the DATA is set aside. -/
def oneFrameSend (s : OneFrame) (callback : ℕ → ℕ → ℤ) : SendOutcome OneFrame :=
  if s.frame = 0 then ⟨⟨0, false⟩, ⟨[], 0⟩, 0⟩
  else if callback 0 s.frame = nghttp2ErrWouldblock then ⟨s, ⟨[], 0⟩, 1⟩
  else if hret : callback 0 s.frame ≤ 0 then ⟨s, ⟨[], nghttp2ErrCallbackFailure⟩, 1⟩
  else
    let rest :=
      oneFrameSend ⟨s.frame - (callback 0 s.frame).toNat, s.blocked⟩ fun k => callback (k + 1)
    { rest with calls := rest.calls + 1 }
termination_by s.frame
decreasing_by
  show s.frame - _ < s.frame
  omega

/-- Its functions: it wants to write the frame, and the DATA until that was set aside. -/
def oneFrame : Nghttp2 OneFrame := ⟨fun s => s.frame != 0 || s.blocked, oneFrameSend⟩

/-- What it has to write is its frame. -/
def oneFrameOutbound : Outbound OneFrame where
  next s := some s.frame
  took s n := ⟨s.frame - n, s.blocked⟩
  kept s := s
  settled _ := ⟨0, false⟩
  pending s := some s.frame

theorem oneFrame_documented : oneFrame.Documented oneFrameOutbound where
  settles s callback hnext := by
    have hframe : s.frame = 0 := Option.some.inj hnext
    simp [oneFrame, oneFrameSend, oneFrameOutbound, hframe]
  fails s callback hnext := nomatch hnext
  wouldBlock s callback length hnext hlength hcallback := by
    obtain rfl : s.frame = length := Option.some.inj hnext
    simp [oneFrame, oneFrameSend, oneFrameOutbound, hlength, hcallback]
  callbackFailure s callback length hnext hlength hcallback := by
    obtain rfl : s.frame = length := Option.some.inj hnext
    simp [oneFrame, oneFrameSend, hlength, hcallback, nghttp2ErrCallbackFailure,
      nghttp2ErrWouldblock]
  sent s callback length n hnext hpos hle hcallback := by
    obtain rfl : s.frame = length := Option.some.inj hnext
    have hframe : s.frame ≠ 0 := by omega
    have hblock : callback 0 s.frame ≠ nghttp2ErrWouldblock := by
      rw [hcallback, nghttp2ErrWouldblock]
      omega
    have hret : ¬callback 0 s.frame ≤ 0 := by omega
    have hn : (callback 0 s.frame).toNat = n := by omega
    have hsend : oneFrame.sessionSend s callback = oneFrameSend s callback := rfl
    rw [hsend, oneFrameSend, if_neg hframe, if_neg hblock, dif_neg hret, hn]
    exact ⟨rfl, rfl, rfl⟩
  pending_eq_zero _ := Iff.rfl
  pending_settled _ _ := rfl
  pending_of_fails _ hnext := nomatch hnext
  pending_took s length n hnext hpos hle := by
    obtain rfl : s.frame = length := Option.some.inj hnext
    show some s.frame = some (s.frame - n + n)
    rw [Nat.sub_add_cancel hle]
  pending_kept _ := rfl

/-- A socket that is full at first and then takes four bytes at a time. -/
def slowSocket : Socket where
  send k length := if k = 0 then .wouldBlock else .sent (min length 4)
  pos k length n hlength hsend := by
    split at hsend
    · cases hsend
    · cases hsend
      omega
  le k length n hsend := by
    split at hsend
    · cases hsend
    · cases hsend
      exact min_le_left length 4

/-- Over that socket the loops return: they write a frame of 14 bytes in four parts, and the DATA behind
it waits for the client's window. -/
theorem writeLoops_return_iff_slowSocket :
    Returns oneFrameOutbound slowSocket (sessionEventsLoop oneFrame slowSocket) ⟨14, true⟩ ∧
      Returns oneFrameOutbound slowSocket (streamSendLoop oneFrame slowSocket) ⟨14, true⟩ := by
  have htakes : TakesAll oneFrameOutbound slowSocket ⟨14, true⟩ := ⟨5, 14, rfl, rfl⟩
  obtain ⟨hevents, hsend⟩ := writeLoops_return_iff oneFrame_documented slowSocket ⟨14, true⟩
  exact ⟨hevents.mpr (Or.inr htakes), hsend.mpr (Or.inr htakes)⟩

/-- The socket of a client that does not read. -/
def fullSocket : Socket where
  send _ _ := .wouldBlock
  pos _ _ _ _ hsend := nomatch hsend
  le _ _ _ hsend := nomatch hsend

/-- Over that one they never end with a frame to write, and so do not return. -/
theorem not_writeLoops_return :
    oneFrame.Documented oneFrameOutbound ∧
      (∀ fuel, sessionEventsLoop oneFrame fullSocket fuel ⟨14, false⟩ = none ∧
        streamSendLoop oneFrame fullSocket fuel ⟨14, false⟩ = none) ∧
      ¬Returns oneFrameOutbound fullSocket (sessionEventsLoop oneFrame fullSocket) ⟨14, false⟩ ∧
      ¬Returns oneFrameOutbound fullSocket (streamSendLoop oneFrame fullSocket) ⟨14, false⟩ := by
  have hnone : ∀ failed fuel, writeLoop oneFrame fullSocket failed fuel ⟨14, false⟩ 0 = none :=
    fun failed fuel =>
      writeLoop_full oneFrame_documented failed fuel rfl rfl (by decide) fun _ _ _ => rfl
  refine ⟨oneFrame_documented, fun fuel => ⟨hnone 1 fuel, hnone 3 fuel⟩, ?_, ?_⟩
  · rintro ⟨fuel, r, hloop, -⟩
    exact Option.some_ne_none r (hloop.symm.trans (hnone 1 fuel))
  · rintro ⟨fuel, r, hloop, -⟩
    exact Option.some_ne_none r (hloop.symm.trans (hnone 3 fuel))

/-! ## (6) The loops in their functions -/

/-- A write loop ends with 0 when none of its calls of `nghttp2_session_send` fails. -/
theorem writeLoop_ret {ng : Nghttp2 σ} {socket : Socket} {failed fuel k : ℕ} {s : σ}
    {r : WriteResult σ} (h : writeLoop ng socket failed fuel s k = some r) :
    r.ret = if ∀ send ∈ r.sends, send.res = 0 then 0 else failed := by
  induction fuel generalizing s k r with
  | zero => cases h
  | succ fuel ih =>
      rw [writeLoop] at h
      by_cases hwant : ng.wantWrite s = true
      · rw [if_pos hwant] at h
        dsimp only at h
        by_cases hres : (ng.sessionSend s (socket.callback k)).send.res ≠ 0
        · rw [if_pos hres] at h
          cases h
          rw [if_neg fun hall => hres (hall _ List.mem_cons_self)]
        · rw [if_neg hres] at h
          obtain ⟨r', hrest, rfl⟩ := Option.map_eq_some_iff.mp h
          simp only [List.forall_mem_cons, of_not_not hres, true_and]
          exact ih hrest
      · rw [if_neg hwant] at h
        cases h
        rfl

/-- `stream_send` returns the value of its loop when it finds the stream. -/
theorem sessionStreamSend_ret {ng : Nghttp2 σ} {socket : Socket} {fuel : ℕ} {s : σ}
    {r : WriteResult σ} (hloop : streamSendLoop ng socket fuel s = some r) {server : Server}
    {uuid : SessionUuid} {streamId : ℤ} {found : ℕ × Session × ℕ}
    (hfind : locate server uuid streamId = some (.ok found)) {messages : List Message} {c : CallResult}
    (h : sessionStreamSend server uuid streamId messages r.sends = some c) : c.ret = r.ret := by
  rcases sessionStreamSend_eq_some h with
    ⟨ret, hnot, -⟩ | ⟨ez, ptr, stream, ret, ez', outs, -, -, -, -, hsends, rfl⟩
  · cases hfind.symm.trans hnot
  · rw [writeLoop_ret hloop]
    exact (sendLoop_eq_some hsends).2

/-- `session_events` returns the value of its loop when nghttp2 has read what there was to read. -/
theorem sessionEvents_ret {ng : Nghttp2 σ} {socket : Socket} {fuel : ℕ} {s : σ} {r : WriteResult σ}
    (hloop : sessionEventsLoop ng socket fuel s = some r) {server : ServerShared} {ez ez' : Session}
    {x : Exchange} (hwant : x.wantRead = true ∨ x.wantWrite = true) (hread : x.res = 0)
    (hsends : x.sends = r.sends) {ret : ℕ} {events : Events}
    (h : sessionEvents server ez x = some (ret, events, ez')) : ret = r.ret := by
  rw [sessionEvents] at h
  rw [if_neg (by rcases hwant with hwant | hwant <;> rw [hwant] <;> simp)] at h
  obtain ⟨st, -, h⟩ := Option.bind_eq_some_iff.mp h
  rw [if_neg fun hcon => hcon.2 hread] at h
  obtain ⟨⟨ret', ez₁, outs⟩, hsends', h⟩ := Option.bind_eq_some_iff.mp h
  cases h
  rw [hsends] at hsends'
  rw [writeLoop_ret hloop, (sendLoop_eq_some hsends').2]
  split <;> rfl

end Ezgrpc2
