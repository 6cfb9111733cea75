import Pktauth.Socket.PollSend

set_option autoImplicit false

namespace Pktauth.Socket

open Rust Auth

def SendState.took (state : SendState) (datagrams : List Sent) : SendState :=
  { state with
    wire := state.wire ++ datagrams
    updates := state.updates ++ datagrams.flatMap (fun sent => [⟨.sent, 1⟩, ⟨.sentBytes, sent.datagram.bytes.length⟩]) }

-- Everything one try_send can do with the datagrams of a transmit, and the
-- answers it uses up.
inductive Attempted (datagrams : List Sent) (state : SendState) :
    List SendOutcome → Except ErrorKind Unit → SendState → Prop where
  | whole : Attempted datagrams state (List.replicate datagrams.length .accepted) (.ok ()) (state.took datagrams)
  | cut (count : Nat) (error : ErrorKind) (short : count < datagrams.length) :
      Attempted datagrams state (List.replicate count .accepted ++ [.failed error]) (.error error)
        (state.took (datagrams.take count))

theorem took_nil (state : SendState) : state.took [] = state := by
  simp [SendState.took]

theorem took_cons (state : SendState) (sent : Sent) (datagrams : List Sent) :
    (state.took [sent]).took datagrams = state.took (sent :: datagrams) := by
  simp [SendState.took]

theorem attempted_cons (sent : Sent) (datagrams : List Sent) (state after : SendState) (used : List SendOutcome)
    (result : Except ErrorKind Unit) (rest : Attempted datagrams (state.took [sent]) used result after) :
    Attempted (sent :: datagrams) state (.accepted :: used) result after := by
  cases rest with
  | whole =>
      rw [took_cons]
      exact .whole
  | cut count error short =>
      rw [took_cons, ← List.take_succ_cons, ← List.cons_append, ← List.replicate_succ]
      exact .cut (count + 1) error (Nat.succ_lt_succ short)

theorem send_segments_spec (destination : SocketAddr) (datagrams : List (Chunk UInt8)) (sends : List SendOutcome)
    (state : SendState) :
    sendSegments destination datagrams sends state = none ∨
      ∃ used rest result after, sendSegments destination datagrams sends state = some (result, after, rest) ∧
        sends = used ++ rest ∧ Attempted (datagrams.map (Sent.mk destination)) state used result after := by
  induction datagrams generalizing sends state with
  | nil =>
      refine .inr ⟨[], sends, .ok (), state, rfl, rfl, ?_⟩
      have nothing : Attempted [] state _ _ _ := .whole
      simpa only [took_nil, List.map_nil, List.length_nil, List.replicate_zero] using nothing
  | cons datagram datagrams ih =>
      cases sends with
      | nil => exact .inl rfl
      | cons outcome sends =>
          cases outcome with
          | failed error =>
              refine .inr ⟨[.failed error], sends, .error error, state, rfl, rfl, ?_⟩
              have first : Attempted ((datagram :: datagrams).map (Sent.mk destination)) state _ _ _ := .cut 0 error (by simp)
              simpa only [List.take_zero, took_nil, List.replicate_zero, List.nil_append] using first
          | accepted =>
              rcases ih sends (state.took [⟨destination, datagram⟩]) with waiting | ⟨used, rest, result, after, sent, split, tried⟩
              · exact .inl waiting
              · refine .inr ⟨.accepted :: used, rest, result, after, sent, ?_, attempted_cons _ _ _ _ _ _ tried⟩
                rw [split, List.cons_append]

theorem try_send_spec (transmit : Transmit) (datagrams : List Sent) (split : segments transmit = .ok datagrams)
    (sends : List SendOutcome) (state : SendState) :
    trySend transmit sends state = .ok none ∨
      ∃ used rest result after, trySend transmit sends state = .ok (some (result, after, rest)) ∧
        sends = used ++ rest ∧ Attempted datagrams state used result after := by
  cases segmented : transmit.segmentSize with
  | none =>
      simp only [segments, segmented, exec_bind_ok, Except.ok.injEq] at split
      subst split
      have single : trySend transmit sends state =
          .ok (sendSegments transmit.destination [⟨0, transmit.contents⟩] sends state) := by
        cases sends with
        | nil => simp [trySend, segmented, sendSegments]
        | cons outcome sends => cases outcome <;> simp [trySend, segmented, sendSegments, sendDatagram, trySendTo]
      rw [single]
      simpa using send_segments_spec transmit.destination [⟨0, transmit.contents⟩] sends state
  | some size =>
      simp only [segments, segmented] at split
      cases cut : chunks transmit.contents size with
      | error panic => simp [cut] at split
      | ok list =>
          simp only [cut, exec_bind_ok, Except.ok.injEq] at split
          subst split
          simp only [trySend, segmented, cut, exec_bind_ok, Except.ok.injEq]
          exact send_segments_spec transmit.destination list sends state

def Pollable (writable : Option WritableFuture) : Prop := ∀ future, writable = some future → future = ⟨false⟩

theorem pollable_installed (writable : Option WritableFuture) (pollable : Pollable writable) :
    (if writable.isNone then some ⟨false⟩ else writable) = some (⟨false⟩ : WritableFuture) := by
  cases writable with
  | none => rfl
  | some future => simp [pollable future rfl]

inductive SendEnds (datagrams : List Sent) (Top : List SendOutcome → SendState → Prop) (writability : List Writability) :
    List SendOutcome → Poll (Except ErrorKind Unit) → SendState → Prop where
  | pending (used : List SendOutcome) (state : SendState) (top : Top used state) :
      SendEnds datagrams Top writability used .pending { state with writable := some ⟨false⟩ }
  | readyFailed (used : List SendOutcome) (state : SendState) (error : ErrorKind) (top : Top used state)
      (answered : .failed error ∈ writability) :
      SendEnds datagrams Top writability used (.ready (.error error)) { state with writable := none }
  | sent (used tried : List SendOutcome) (state after : SendState) (top : Top used state)
      (attempt : Attempted datagrams { state with writable := none } tried (.ok ()) after) :
      SendEnds datagrams Top writability (used ++ tried) (.ready (.ok ())) after
  | dropped (used tried : List SendOutcome) (state after : SendState) (error : ErrorKind) (top : Top used state)
      (attempt : Attempted datagrams { state with writable := none } tried (.error error) after)
      (hard : error ≠ .wouldBlock) :
      SendEnds datagrams Top writability (used ++ tried) (.ready (.ok ())) after

theorem send_ends_cons (datagrams : List Sent) (Top : List SendOutcome → SendState → Prop) (answer : Writability)
    (writability : List Writability) (used : List SendOutcome) (result : Poll (Except ErrorKind Unit)) (state : SendState)
    (ends : SendEnds datagrams Top writability used result state) :
    SendEnds datagrams Top (answer :: writability) used result state := by
  cases ends with
  | pending _ state top => exact .pending used state top
  | readyFailed _ state error top answered => exact .readyFailed used state error top (List.mem_cons_of_mem answer answered)
  | sent used tried state _ top attempt => exact .sent used tried state _ top attempt
  | dropped used tried state _ error top attempt hard => exact .dropped used tried state _ error top attempt hard

theorem send_ends_pending (datagrams : List Sent) (Top : List SendOutcome → SendState → Prop) (writability : List Writability)
    (used : List SendOutcome) (final : SendState) (ends : SendEnds datagrams Top writability used .pending final) :
    ∃ state, Top used state ∧ final = { state with writable := some ⟨false⟩ } := by
  cases ends with
  | pending _ state top => exact ⟨state, top, rfl⟩

-- The rule for poll_send. An invariant kept by every attempt that ends in
-- WouldBlock holds wherever the call stops, and no call panics.
theorem poll_send_rule (transmit : Transmit) (datagrams : List Sent) (split : segments transmit = .ok datagrams)
    (Top : List SendOutcome → SendState → Prop)
    (again : ∀ used tried state after, Top used state →
      Attempted datagrams { state with writable := none } tried (.error .wouldBlock) after → Top (used ++ tried) after)
    (writability : List Writability) (sends used : List SendOutcome) (state : SendState) (top : Top used state)
    (pollable : Pollable state.writable) :
    ∃ answer, pollSend transmit writability sends state = .ok answer ∧
      ∀ returned, answer = some returned → ∃ read, sends = read ++ returned.sends ∧
        SendEnds datagrams Top writability (used ++ read) returned.result returned.state := by
  induction writability generalizing sends used state with
  | nil => exact ⟨none, rfl, by simp⟩
  | cons answer writability ih =>
      have installed := pollable_installed state.writable pollable
      rw [pollSend]
      simp only [installed, expect_some, exec_bind_ok]
      cases answer with
      | pending =>
          refine ⟨_, rfl, ?_⟩
          rintro returned ⟨⟩
          exact ⟨[], rfl, by rw [List.append_nil]; exact .pending used state top⟩
      | failed error =>
          refine ⟨_, rfl, ?_⟩
          rintro returned ⟨⟩
          exact ⟨[], rfl, by rw [List.append_nil]; exact .readyFailed used state error top List.mem_cons_self⟩
      | ready =>
          simp only [WritableFuture.poll, Bool.false_eq_true, if_false, exec_bind_ok]
          rcases try_send_spec transmit datagrams split sends { state with writable := none } with
            waiting | ⟨tried, rest, result, after, attempted, parts, attempt⟩
          · rw [waiting]
            exact ⟨none, rfl, by simp⟩
          · rw [attempted, exec_bind_ok, parts]
            cases result with
            | ok =>
                refine ⟨_, rfl, ?_⟩
                rintro returned ⟨⟩
                exact ⟨tried, rfl, .sent used tried state after top attempt⟩
            | error error =>
                by_cases blocked : error = .wouldBlock
                · subst blocked
                  have idle : Pollable after.writable := by
                    cases attempt with
                    | cut count error short => simp [Pollable, SendState.took]
                  obtain ⟨answer, polled, ends⟩ := ih rest (used ++ tried) after (again used tried state after top attempt) idle
                  refine ⟨answer, by simpa using polled, ?_⟩
                  intro returned isReturned
                  obtain ⟨read, split, ended⟩ := ends returned isReturned
                  refine ⟨tried ++ read, by rw [split, List.append_assoc], ?_⟩
                  rw [← List.append_assoc]
                  exact send_ends_cons datagrams Top .ready writability _ _ _ ended
                · simp only [if_neg blocked]
                  refine ⟨_, rfl, ?_⟩
                  rintro returned ⟨⟩
                  exact ⟨tried, rfl, .dropped used tried state after error top attempt blocked⟩

theorem poll_send_pollable (transmit : Transmit) (writability : List Writability) (sends : List SendOutcome) (state : SendState)
    (returned : SendReturn) (polled : pollSend transmit writability sends state = .ok (some returned)) :
    Pollable state.writable := by
  intro future stored
  obtain ⟨completed⟩ := future
  cases completed with
  | false => rfl
  | true =>
      cases writability with
      | nil => simp [pollSend] at polled
      | cons answer writability =>
          rw [pollSend] at polled
          simp [stored, WritableFuture.poll] at polled

end Pktauth.Socket
