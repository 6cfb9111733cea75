import Pktauth.Socket.PollRecv

set_option autoImplicit false

namespace Pktauth.Socket

open Rust Auth

def authentic (aes : Cipher UInt8) (authenticator : Option Authenticator) (bytes : List UInt8) (addr : SocketAddr) : Bool :=
  match authenticator with
  | none => true
  | some authenticator => decide (authenticator.check aes bytes addr.ip = .ok (.ok ()))

def RecvState.read (state : RecvState) (buf bytes : List UInt8) : RecvState :=
  { state with
    bufs := state.bufs.set state.filled (bytes.take buf.length ++ buf.drop (min bytes.length buf.length))
    updates := state.updates ++ [⟨.received, 1⟩, ⟨.receivedBytes, min bytes.length buf.length⟩] }

def RecvState.reject (state : RecvState) (buf bytes : List UInt8) : RecvState :=
  { state.read buf bytes with updates := (state.read buf bytes).updates ++ [⟨.rejected, 1⟩] }

def RecvState.accept (state : RecvState) (buf bytes : List UInt8) (addr : SocketAddr) : RecvState :=
  let len := min bytes.length buf.length
  { state.read buf bytes with metas := state.metas.set state.filled ⟨addr, len, len⟩, filled := state.filled + 1 }

variable (aes : Cipher UInt8) (authenticator : Option Authenticator)

-- Everything one pass through the loop body can do.
inductive Received (buf : List UInt8) (state : RecvState) : RecvOutcome → Flow → RecvState → Prop where
  | accepted (bytes : List UInt8) (addr : SocketAddr)
      (genuine : authentic aes authenticator (bytes.take buf.length) addr = true) (slot : state.filled < state.metas.length) :
      Received buf state (.datagram bytes addr) .next (state.accept buf bytes addr)
  | unplaced (bytes : List UInt8) (addr : SocketAddr)
      (genuine : authentic aes authenticator (bytes.take buf.length) addr = true) (noSlot : state.metas.length ≤ state.filled) :
      Received buf state (.datagram bytes addr) .leave (state.read buf bytes)
  | rejected (bytes : List UInt8) (addr : SocketAddr)
      (forged : authentic aes authenticator (bytes.take buf.length) addr = false) :
      Received buf state (.datagram bytes addr) .next (state.reject buf bytes)
  | drained (error : ErrorKind) (soft : error = .wouldBlock ∨ isTransient error = true ∨ 0 < state.filled) :
      Received buf state (.failed error) .leave state
  | fatal (error : ErrorKind) (hard : error ≠ .wouldBlock ∧ isTransient error = false) (empty : state.filled = 0) :
      Received buf state (.failed error) (.fail error) state

theorem authenticate_eq (buf bytes : List UInt8) (addr : SocketAddr) :
    authenticate aes authenticator (bytes.take buf.length ++ buf.drop (min bytes.length buf.length)) (min bytes.length buf.length)
      addr = .ok (authentic aes authenticator (bytes.take buf.length) addr) := by
  cases authenticator with
  | none => rfl
  | some authenticator =>
      have contentLength : (bytes.take buf.length).length = min bytes.length buf.length := by
        rw [List.length_take, Nat.min_comm]
      have content : sliceGet (bytes.take buf.length ++ buf.drop (min bytes.length buf.length)) 0
          (min bytes.length buf.length) = some (bytes.take buf.length) := by
        simpa only [List.nil_append, List.length_nil, Nat.zero_add, contentLength] using
          slice_get_append [] (bytes.take buf.length) (buf.drop (min bytes.length buf.length))
      obtain ⟨result, checked⟩ := check_total aes authenticator (bytes.take buf.length) addr.ip
      simp only [authenticate, content, expect_some, exec_bind_ok, checked, authentic]
      cases result with
      | error error => simp
      | ok => simp

theorem receive_spec (buf : List UInt8) (outcome : RecvOutcome) (state : RecvState) :
    ∃ flow next, receive aes authenticator buf outcome state = .ok (flow, next) ∧
      Received aes authenticator buf state outcome flow next := by
  cases outcome with
  | datagram bytes addr =>
      simp only [receive, tryRecvFrom, authenticate_eq, exec_bind_ok]
      cases genuine : authentic aes authenticator (bytes.take buf.length) addr with
      | false => exact ⟨_, _, rfl, .rejected bytes addr genuine⟩
      | true =>
          by_cases slot : state.filled < state.metas.length
          · rw [if_pos rfl, List.getElem?_eq_getElem slot]
            exact ⟨_, _, rfl, .accepted bytes addr genuine slot⟩
          · have noSlot := Nat.le_of_not_lt slot
            rw [if_pos rfl, List.getElem?_eq_none noSlot]
            exact ⟨_, _, rfl, .unplaced bytes addr genuine noSlot⟩
  | failed error =>
      simp only [receive, tryRecvFrom]
      by_cases drained : error = .wouldBlock
      · rw [if_pos drained]
        exact ⟨_, _, rfl, .drained error (.inl drained)⟩
      · by_cases transient : isTransient error = true
        · rw [if_neg drained, if_pos transient]
          exact ⟨_, _, rfl, .drained error (.inr (.inl transient))⟩
        · by_cases batch : state.filled > 0
          · rw [if_neg drained, if_neg transient, if_pos batch]
            exact ⟨_, _, rfl, .drained error (.inr (.inr batch))⟩
          · rw [if_neg drained, if_neg transient, if_neg batch]
            exact ⟨_, _, rfl, .fatal error ⟨drained, by simpa using transient⟩ (by omega)⟩

theorem recv_loop_next (outcome : RecvOutcome) (recv : List RecvOutcome) (state after : RecvState) (buf : List UInt8)
    (slot : state.bufs[state.filled]? = some buf)
    (received : receive aes authenticator buf outcome state = .ok (.next, after)) :
    recvLoop aes authenticator (outcome :: recv) state = recvLoop aes authenticator recv after := by
  rw [recvLoop]
  simp only [slot, received, exec_bind_ok]

theorem recv_loop_exit (outcome : RecvOutcome) (recv : List RecvOutcome) (state after : RecvState) (buf : List UInt8)
    (flow : Flow) (slot : state.bufs[state.filled]? = some buf) (stops : flow ≠ .next)
    (received : receive aes authenticator buf outcome state = .ok (flow, after)) :
    recvLoop aes authenticator (outcome :: recv) state = .ok (some (flow, after, recv)) := by
  rw [recvLoop]
  simp only [slot, received, exec_bind_ok]

theorem recv_loop_full (recv : List RecvOutcome) (state : RecvState) (full : state.bufs[state.filled]? = none) :
    recvLoop aes authenticator recv state = .ok (some (.leave, state, recv)) := by
  rw [recvLoop.eq_def]
  simp only [full]

-- The rule for the inner loop. An invariant kept by every pass that goes on to
-- the next holds where the loop stops, for one of three reasons: the answers
-- are used up, the buffers are full, or a pass broke out.
theorem recv_loop_rule (In : List RecvOutcome → RecvState → Prop)
    (next : ∀ used state buf outcome after, In used state → state.bufs[state.filled]? = some buf →
      Received aes authenticator buf state outcome .next after → In (used ++ [outcome]) after)
    (recv used : List RecvOutcome) (state : RecvState) (start : In used state) :
    ∃ (read : List RecvOutcome) (stop : RecvState), In (used ++ read) stop ∧
      ((recvLoop aes authenticator recv state = .ok none ∧ recv = read ∧ ∃ buf, stop.bufs[stop.filled]? = some buf) ∨
        (∃ rest, recvLoop aes authenticator recv state = .ok (some (.leave, stop, rest)) ∧ recv = read ++ rest ∧
          stop.bufs[stop.filled]? = none) ∨
        (∃ rest buf outcome flow after, recvLoop aes authenticator recv state = .ok (some (flow, after, rest)) ∧
          recv = read ++ outcome :: rest ∧ stop.bufs[stop.filled]? = some buf ∧
          Received aes authenticator buf stop outcome flow after ∧ flow ≠ .next)) := by
  induction recv generalizing used state with
  | nil =>
      refine ⟨[], state, by simpa using start, ?_⟩
      cases slot : state.bufs[state.filled]? with
      | none => exact .inr (.inl ⟨[], recv_loop_full aes authenticator [] state slot, rfl, rfl⟩)
      | some buf => exact .inl ⟨by rw [recvLoop]; simp only [slot], rfl, buf, rfl⟩
  | cons outcome recv ih =>
      cases slot : state.bufs[state.filled]? with
      | none =>
          have full := recv_loop_full aes authenticator (outcome :: recv) state slot
          exact ⟨[], state, by simpa using start, .inr (.inl ⟨outcome :: recv, full, rfl, slot⟩)⟩
      | some buf =>
          obtain ⟨flow, after, received, step⟩ := receive_spec aes authenticator buf outcome state
          by_cases goesOn : flow = .next
          · subst goesOn
            obtain ⟨read, stop, holds, ends⟩ := ih (used ++ [outcome]) after (next used state buf outcome after start slot step)
            refine ⟨outcome :: read, stop, by simpa using holds, ?_⟩
            rw [recv_loop_next aes authenticator outcome recv state after buf slot received]
            simpa using ends
          · have exits := recv_loop_exit aes authenticator outcome recv state after buf flow slot goesOn received
            exact ⟨[], state, by simpa using start, .inr (.inr ⟨recv, buf, outcome, flow, after, exits, rfl, slot, step, goesOn⟩)⟩

inductive Ends (Top In : Nat → List RecvOutcome → RecvState → Prop) (cycles : Nat) (used : List RecvOutcome)
    (ready : List Readiness) (recv : List RecvOutcome) : Option RecvReturn → Prop where
  | awaitsReady (read rest : List RecvOutcome) (state : RecvState) (consumed : recv = read ++ rest)
      (allReady : ∀ answer ∈ ready, answer = .ready)
      (top : Top (cycles + ready.length) (used ++ read) state) : Ends Top In cycles used ready recv none
  | awaitsDatagram (polled rest : List Readiness) (state : RecvState) (consumed : ready = polled ++ rest)
      (allReady : ∀ answer ∈ polled, answer = .ready)
      (inside : In (cycles + polled.length) (used ++ recv) state) (slot : ∃ buf, state.bufs[state.filled]? = some buf) :
      Ends Top In cycles used ready recv none
  | notReady (polled rest : List Readiness) (read left : List RecvOutcome) (state : RecvState)
      (readyConsumed : ready = polled ++ .notReady :: rest) (recvConsumed : recv = read ++ left)
      (top : Top (cycles + polled.length) (used ++ read) state) :
      Ends Top In cycles used ready recv (some ⟨.pending, state, rest, left⟩)
  | readyFailed (error : ErrorKind) (polled rest : List Readiness) (read left : List RecvOutcome) (state : RecvState)
      (readyConsumed : ready = polled ++ .failed error :: rest) (recvConsumed : recv = read ++ left)
      (top : Top (cycles + polled.length) (used ++ read) state) :
      Ends Top In cycles used ready recv (some ⟨.ready (.error error), state, rest, left⟩)
  | batchFull (polled rest : List Readiness) (read left : List RecvOutcome) (state : RecvState)
      (readyConsumed : ready = polled ++ rest) (recvConsumed : recv = read ++ left)
      (inside : In (cycles + polled.length) (used ++ read) state) (full : state.bufs[state.filled]? = none)
      (batch : 0 < state.filled) :
      Ends Top In cycles used ready recv (some ⟨.ready (.ok state.filled), state, rest, left⟩)
  | batchCut (polled rest : List Readiness) (read left : List RecvOutcome) (outcome : RecvOutcome) (buf : List UInt8)
      (state after : RecvState) (readyConsumed : ready = polled ++ rest) (recvConsumed : recv = read ++ outcome :: left)
      (inside : In (cycles + polled.length) (used ++ read) state) (slot : state.bufs[state.filled]? = some buf)
      (step : Received aes authenticator buf state outcome .leave after) (batch : 0 < after.filled) :
      Ends Top In cycles used ready recv (some ⟨.ready (.ok after.filled), after, rest, left⟩)
  | recvFailed (error : ErrorKind) (polled rest : List Readiness) (read left : List RecvOutcome) (outcome : RecvOutcome)
      (buf : List UInt8) (state after : RecvState) (readyConsumed : ready = polled ++ rest)
      (recvConsumed : recv = read ++ outcome :: left) (inside : In (cycles + polled.length) (used ++ read) state)
      (slot : state.bufs[state.filled]? = some buf) (step : Received aes authenticator buf state outcome (.fail error) after) :
      Ends Top In cycles used ready recv (some ⟨.ready (.error error), after, rest, left⟩)

theorem ends_turn (Top In : Nat → List RecvOutcome → RecvState → Prop) (cycles : Nat) (used front : List RecvOutcome)
    (ready : List Readiness) (recv : List RecvOutcome) (answer : Option RecvReturn)
    (ends : Ends aes authenticator Top In (cycles + 1) (used ++ front) ready recv answer) :
    Ends aes authenticator Top In cycles used (.ready :: ready) (front ++ recv) answer := by
  have turns (n : Nat) : cycles + 1 + n = cycles + (n + 1) := by omega
  have allTurns (polled : List Readiness) (allReady : ∀ answer ∈ polled, answer = .ready) :
      ∀ answer ∈ Readiness.ready :: polled, answer = .ready := by
    simpa using allReady
  cases ends with
  | awaitsReady read rest state consumed allReady top =>
      refine .awaitsReady (front ++ read) rest state (by simp [consumed]) (allTurns ready allReady) ?_
      simpa only [List.append_assoc, List.length_cons, turns] using top
  | awaitsDatagram polled rest state consumed allReady inside slot =>
      refine .awaitsDatagram (.ready :: polled) rest state (by simp [consumed]) (allTurns polled allReady) ?_ slot
      simpa only [List.append_assoc, List.length_cons, turns] using inside
  | notReady polled rest read left state readyConsumed recvConsumed top =>
      refine .notReady (.ready :: polled) rest (front ++ read) left state (by simp [readyConsumed]) (by simp [recvConsumed]) ?_
      simpa only [List.append_assoc, List.length_cons, turns] using top
  | readyFailed error polled rest read left state readyConsumed recvConsumed top =>
      refine .readyFailed error (.ready :: polled) rest (front ++ read) left state (by simp [readyConsumed])
        (by simp [recvConsumed]) ?_
      simpa only [List.append_assoc, List.length_cons, turns] using top
  | batchFull polled rest read left state readyConsumed recvConsumed inside full batch =>
      refine .batchFull (.ready :: polled) rest (front ++ read) left state (by simp [readyConsumed]) (by simp [recvConsumed])
        ?_ full batch
      simpa only [List.append_assoc, List.length_cons, turns] using inside
  | batchCut polled rest read left outcome buf state after readyConsumed recvConsumed inside slot step batch =>
      refine .batchCut (.ready :: polled) rest (front ++ read) left outcome buf state after (by simp [readyConsumed])
        (by simp [recvConsumed]) ?_ slot step batch
      simpa only [List.append_assoc, List.length_cons, turns] using inside
  | recvFailed error polled rest read left outcome buf state after readyConsumed recvConsumed inside slot step =>
      refine .recvFailed error (.ready :: polled) rest (front ++ read) left outcome buf state after (by simp [readyConsumed])
        (by simp [recvConsumed]) ?_ slot step
      simpa only [List.append_assoc, List.length_cons, turns] using inside

-- The rule for the whole call: Top holds when readiness is polled, after the
-- given number of polls, and In holds at each pass of the inner loop.
theorem poll_recv_rule (Top In : Nat → List RecvOutcome → RecvState → Prop)
    (enter : ∀ cycles used state, Top cycles used state → In (cycles + 1) used { state with filled := 0 })
    (next : ∀ cycles used state buf outcome after, In cycles used state → state.bufs[state.filled]? = some buf →
      Received aes authenticator buf state outcome .next after → In cycles (used ++ [outcome]) after)
    (leave : ∀ cycles used state buf outcome after, In cycles used state → state.bufs[state.filled]? = some buf →
      Received aes authenticator buf state outcome .leave after → after.filled = 0 → Top cycles (used ++ [outcome]) after)
    (empty : ∀ cycles used state, In cycles used state → state.bufs[state.filled]? = none → state.filled = 0 →
      Top cycles used state)
    (ready : List Readiness) (recv used : List RecvOutcome) (cycles : Nat) (state : RecvState)
    (start : Top cycles used state) :
    ∃ answer, pollRecv aes authenticator ready recv state = .ok answer ∧
      Ends aes authenticator Top In cycles used ready recv answer := by
  induction ready generalizing recv used cycles state with
  | nil => exact ⟨none, rfl, .awaitsReady [] recv state rfl (by simp) (by simpa using start)⟩
  | cons head ready ih =>
      cases head with
      | notReady => exact ⟨_, rfl, .notReady [] ready [] recv state rfl rfl (by simpa using start)⟩
      | failed error => exact ⟨_, rfl, .readyFailed error [] ready [] recv state rfl rfl (by simpa using start)⟩
      | ready =>
          have entered := enter cycles used state start
          obtain ⟨read, stop, inside, stopped⟩ := recv_loop_rule aes authenticator (In (cycles + 1))
            (next (cycles + 1)) recv used { state with filled := 0 } entered
          rcases stopped with ⟨looped, rfl, slot⟩ | ⟨rest, looped, rfl, full⟩ |
            ⟨rest, buf, outcome, flow, after, looped, rfl, slot, step, stops⟩
          · exact ⟨none, by simp only [pollRecv, looped, exec_bind_ok],
              .awaitsDatagram [.ready] ready stop rfl (by simp) (by simpa using inside) slot⟩
          · by_cases batch : stop.filled > 0
            · exact ⟨_, by simp only [pollRecv, looped, exec_bind_ok, if_pos batch],
                .batchFull [.ready] ready read rest stop rfl rfl (by simpa using inside) full batch⟩
            · obtain ⟨answer, polled, ends⟩ := ih rest (used ++ read) (cycles + 1) stop
                (empty (cycles + 1) _ stop inside full (by omega))
              exact ⟨answer, by simpa only [pollRecv, looped, exec_bind_ok, if_neg batch] using polled,
                ends_turn aes authenticator Top In cycles used read ready rest answer ends⟩
          · cases flow with
            | next => exact absurd rfl stops
            | fail error =>
                exact ⟨_, by simp only [pollRecv, looped, exec_bind_ok],
                  .recvFailed error [.ready] ready read rest outcome buf stop after rfl rfl (by simpa using inside) slot step⟩
            | leave =>
                by_cases batch : after.filled > 0
                · exact ⟨_, by simp only [pollRecv, looped, exec_bind_ok, if_pos batch],
                    .batchCut [.ready] ready read rest outcome buf stop after rfl rfl (by simpa using inside) slot step batch⟩
                · have top := leave (cycles + 1) _ stop buf outcome after inside slot step (by omega)
                  obtain ⟨answer, polled, ends⟩ := ih rest (used ++ (read ++ [outcome])) (cycles + 1) after
                    (by simpa only [List.append_assoc] using top)
                  have turned := ends_turn aes authenticator Top In cycles used (read ++ [outcome]) ready rest answer ends
                  exact ⟨answer, by simpa only [pollRecv, looped, exec_bind_ok, if_neg batch] using polled,
                    by simpa only [List.append_assoc, List.singleton_append] using turned⟩

theorem poll_recv_total (ready : List Readiness) (recv : List RecvOutcome) (state : RecvState) :
    ∃ answer, pollRecv aes authenticator ready recv state = .ok answer := by
  obtain ⟨answer, polled, _⟩ := poll_recv_rule aes authenticator (fun _ _ _ => True) (fun _ _ _ => True)
    (fun _ _ _ _ => trivial) (fun _ _ _ _ _ _ _ _ _ => trivial) (fun _ _ _ _ _ _ _ _ _ _ => trivial)
    (fun _ _ _ _ _ _ => trivial) ready recv [] 0 state trivial
  exact ⟨answer, polled⟩

-- The ways a call returns, given the answers it has consumed.
inductive CallResult (polled : List Readiness) (read : List RecvOutcome) (state : RecvState) :
    Poll (Except ErrorKind Nat) → Prop where
  | pending (empty : state.filled = 0) : CallResult polled read state .pending
  | readyFailed (error : ErrorKind) (last : polled.getLast? = some (.failed error)) (empty : state.filled = 0) :
      CallResult polled read state (.ready (.error error))
  | recvFailed (error : ErrorKind) (last : read.getLast? = some (.failed error))
      (hard : error ≠ .wouldBlock ∧ isTransient error = false) (empty : state.filled = 0) :
      CallResult polled read state (.ready (.error error))
  | batch (nonempty : 0 < state.filled) : CallResult polled read state (.ready (.ok state.filled))

-- The rule for a call that returned, for an invariant every pass keeps.
theorem poll_recv_returned (Inv : List RecvOutcome → RecvState → Prop)
    (kept : ∀ used state buf outcome flow after, Inv used state → state.bufs[state.filled]? = some buf →
      Received aes authenticator buf state outcome flow after → Inv (used ++ [outcome]) after)
    (ready : List Readiness) (recv : List RecvOutcome) (state : RecvState) (start : Inv [] state) (empty : state.filled = 0)
    (returned : RecvReturn) (returns : pollRecv aes authenticator ready recv state = .ok (some returned)) :
    ∃ polled read, ready = polled ++ returned.ready ∧ recv = read ++ returned.recv ∧ Inv read returned.state ∧
      CallResult polled read returned.state returned.result := by
  have enter (cycles : Nat) (used : List RecvOutcome) (state : RecvState) (top : Inv used state ∧ state.filled = 0) :
      Inv used { state with filled := 0 } := by
    obtain ⟨_, _, _, _⟩ := state
    obtain ⟨holds, rfl⟩ := top
    exact holds
  obtain ⟨answer, played, ends⟩ := poll_recv_rule aes authenticator (fun _ used state => Inv used state ∧ state.filled = 0)
    (fun _ => Inv) enter (fun _ used state buf outcome after inside slot step => kept used state buf outcome _ after inside slot step)
    (fun _ used state buf outcome after inside slot step empty => ⟨kept used state buf outcome _ after inside slot step, empty⟩)
    (fun _ used state inside _ empty => ⟨inside, empty⟩) ready recv [] 0 state ⟨start, empty⟩
  rw [returns, Except.ok.injEq] at played
  subst played
  cases ends with
  | notReady polled rest read left state readyConsumed recvConsumed top =>
      exact ⟨polled ++ [.notReady], read, by simpa using readyConsumed, recvConsumed, top.1, .pending top.2⟩
  | readyFailed error polled rest read left state readyConsumed recvConsumed top =>
      exact ⟨polled ++ [.failed error], read, by simpa using readyConsumed, recvConsumed, top.1,
        .readyFailed error (by simp) top.2⟩
  | batchFull polled rest read left state readyConsumed recvConsumed inside full batch =>
      exact ⟨polled, read, readyConsumed, recvConsumed, inside, .batch batch⟩
  | batchCut polled rest read left outcome buf state after readyConsumed recvConsumed inside slot step batch =>
      exact ⟨polled, read ++ [outcome], readyConsumed, by simpa using recvConsumed,
        kept read state buf outcome _ after inside slot step, .batch batch⟩
  | recvFailed error polled rest read left outcome buf state after readyConsumed recvConsumed inside slot step =>
      have holds := kept read state buf outcome _ after inside slot step
      cases step with
      | fatal _ hard empty =>
          exact ⟨polled, read ++ [.failed error], readyConsumed, by simpa using recvConsumed, holds,
            .recvFailed error (by simp) hard empty⟩

end Pktauth.Socket
