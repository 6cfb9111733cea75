import Mathlib.Algebra.Ring.Nat
import Pktauth.Socket.Segments

set_option autoImplicit false

namespace Pktauth.Socket

open Rust Auth

def ValidTransmit (transmit : Transmit) : Prop := ∀ size, transmit.segmentSize = some size → 1 ≤ size

theorem segments_total (transmit : Transmit) (valid : ValidTransmit transmit) :
    ∃ datagrams, segments transmit = .ok datagrams := by
  cases segmented : transmit.segmentSize with
  | none => exact ⟨_, by simp only [segments, segmented, exec_bind_ok]; rfl⟩
  | some size =>
      have positive := valid size segmented
      simp only [segments, segmented, chunks, if_neg (show ¬ size = 0 by omega), exec_bind_ok]
      exact ⟨_, rfl⟩

-- The readiness answer a call must have ended on to return what it returns.
def endingAnswer : Poll (Except ErrorKind Unit) → Writability
  | .pending => .pending
  | .ready (.error error) => .failed error
  | .ready (.ok ()) => .ready

theorem poll_send_ending (transmit : Transmit) (writability : List Writability) (sends : List SendOutcome) (state : SendState)
    (returned : SendReturn) (polled : pollSend transmit writability sends state = .ok (some returned)) :
    ∃ earlier, writability = earlier ++ endingAnswer returned.result :: returned.writability := by
  induction writability generalizing sends state with
  | nil => cases polled
  | cons answer writability ih =>
      have installed := pollable_installed state.writable
        (poll_send_pollable transmit (answer :: writability) sends state returned polled)
      rw [pollSend] at polled
      simp only [installed, expect_some, exec_bind_ok] at polled
      cases answer with
      | pending =>
          cases polled
          exact ⟨[], rfl⟩
      | failed error =>
          cases polled
          exact ⟨[], rfl⟩
      | ready =>
          simp only [WritableFuture.poll, Bool.false_eq_true, if_false, exec_bind_ok] at polled
          cases attempt : trySend transmit sends { state with writable := none } with
          | error panic =>
              rw [attempt] at polled
              cases polled
          | ok tried =>
              rw [attempt, exec_bind_ok] at polled
              cases tried with
              | none => cases polled
              | some tried =>
                  obtain ⟨result, after, rest⟩ := tried
                  cases result with
                  | ok =>
                      cases polled
                      exact ⟨[], rfl⟩
                  | error error =>
                      by_cases blocked : error = .wouldBlock
                      · simp only [if_pos blocked] at polled
                        obtain ⟨earlier, split⟩ := ih rest after polled
                        exact ⟨.ready :: earlier, by rw [split, List.cons_append]⟩
                      · simp only [if_neg blocked] at polled
                        cases polled
                        exact ⟨[], rfl⟩

def bookings (taken : List Sent) : List FetchAdd :=
  taken.flatMap (fun sent => [⟨.sent, 1⟩, ⟨.sentBytes, sent.datagram.bytes.length⟩])

theorem bookings_sent (taken : List Sent) : total .sent (bookings taken) = taken.length := by
  induction taken with
  | nil => rfl
  | cons sent taken ih =>
      have split : bookings (sent :: taken) = [⟨.sent, 1⟩, ⟨.sentBytes, sent.datagram.bytes.length⟩] ++ bookings taken := rfl
      rw [split, total_append, ih, List.length_cons, Nat.add_comm]
      rfl

theorem bookings_bytes (taken : List Sent) :
    total .sentBytes (bookings taken) = (taken.map (fun sent => sent.datagram.bytes.length)).sum := by
  induction taken with
  | nil => rfl
  | cons sent taken ih =>
      have split : bookings (sent :: taken) = [⟨.sent, 1⟩, ⟨.sentBytes, sent.datagram.bytes.length⟩] ++ bookings taken := rfl
      rw [split, total_append, ih]
      simp [total]

-- The invariant of one call: every datagram taken is booked, as many are taken
-- as sends were answered with success, and only a transmit with datagrams can
-- have used an answer.
structure Kept (datagrams : List Sent) (used : List SendOutcome) (state : SendState) : Prop where
  booked : state.updates = bookings state.wire
  taken : state.wire.length = used.count .accepted
  offered : used = [] ∨ datagrams ≠ []

theorem kept_took (datagrams some : List Sent) (used tried : List SendOutcome) (state : SendState)
    (holds : Kept datagrams used state) (answers : tried.count .accepted = some.length)
    (offered : used ++ tried = [] ∨ datagrams ≠ []) :
    Kept datagrams (used ++ tried) (SendState.took { state with writable := none } some) := by
  constructor
  · simp only [SendState.took, holds.booked, bookings, List.flatMap_append]
  · simp only [SendState.took, List.length_append, List.count_append, holds.taken, answers]
  · exact offered

theorem kept_attempt (datagrams : List Sent) (used tried : List SendOutcome) (state after : SendState)
    (result : Except ErrorKind Unit) (holds : Kept datagrams used state)
    (attempt : Attempted datagrams { state with writable := none } tried result after) :
    Kept datagrams (used ++ tried) after := by
  cases attempt with
  | whole =>
      apply kept_took datagrams datagrams used _ state holds (by simp)
      by_cases empty : datagrams = []
      · simpa [empty] using holds.offered
      · exact .inr empty
  | cut count error short =>
      apply kept_took datagrams (datagrams.take count) used _ state holds
      · simp [List.count_append]
        omega
      · right
        intro empty
        simp [empty] at short

theorem attempted_idle (datagrams : List Sent) (tried : List SendOutcome) (state after : SendState)
    (result : Except ErrorKind Unit) (attempt : Attempted datagrams { state with writable := none } tried result after) :
    after.writable = none := by
  cases attempt <;> rfl

theorem whole_ends_unblocked (datagrams : List Sent) (used : List SendOutcome) (offered : used = [] ∨ datagrams ≠ []) :
    (used ++ List.replicate datagrams.length SendOutcome.accepted).getLast? ≠ some (.failed .wouldBlock) := by
  rcases List.eq_nil_or_concat datagrams with rfl | ⟨front, last, rfl⟩
  · rcases offered with rfl | nonempty
    · simp
    · exact absurd rfl nonempty
  · simp [List.replicate_add, ← List.append_assoc]

-- What one returned call leaves behind, and why it returned.
structure SoundCall (call : SendCall) (returned : SendReturn) : Prop where
  waiting : returned.result = .pending → returned.state.writable = some ⟨false⟩
  idle : ∀ result, returned.result = .ready result → returned.state.writable = none
  ending : call.writability.getLast? = some (endingAnswer returned.result)
  unblocked : returned.result = .ready (.ok ()) → call.sends.getLast? ≠ some (.failed .wouldBlock)
  booked : returned.state.updates = bookings returned.state.wire
  taken : returned.state.wire.length = call.sends.count .accepted

theorem ends_kept (datagrams : List Sent) (writability : List Writability) (sends : List SendOutcome)
    (result : Poll (Except ErrorKind Unit)) (final : SendState)
    (ends : SendEnds datagrams (Kept datagrams) writability sends result final) : Kept datagrams sends final := by
  cases ends with
  | pending _ state top => exact ⟨top.booked, top.taken, top.offered⟩
  | readyFailed _ state error top answered => exact ⟨top.booked, top.taken, top.offered⟩
  | sent used tried state _ top attempt => exact kept_attempt datagrams used tried state _ _ top attempt
  | dropped used tried state _ error top attempt hard => exact kept_attempt datagrams used tried state _ _ top attempt

theorem ends_writable (datagrams : List Sent) (Top : List SendOutcome → SendState → Prop) (writability : List Writability)
    (sends : List SendOutcome) (result : Poll (Except ErrorKind Unit)) (final : SendState)
    (ends : SendEnds datagrams Top writability sends result final) :
    (result = .pending → final.writable = some ⟨false⟩) ∧ (∀ answer, result = .ready answer → final.writable = none) := by
  cases ends with
  | pending _ state top => exact ⟨fun _ => rfl, nofun⟩
  | readyFailed _ state error top answered => exact ⟨nofun, fun _ _ => rfl⟩
  | sent used tried state _ top attempt => exact ⟨nofun, fun _ _ => attempted_idle datagrams tried state _ _ attempt⟩
  | dropped used tried state _ error top attempt hard =>
      exact ⟨nofun, fun _ _ => attempted_idle datagrams tried state _ _ attempt⟩

theorem ends_unblocked (datagrams : List Sent) (writability : List Writability) (sends : List SendOutcome) (final : SendState)
    (ends : SendEnds datagrams (Kept datagrams) writability sends (.ready (.ok ())) final) :
    sends.getLast? ≠ some (.failed .wouldBlock) := by
  cases ends with
  | sent used tried state _ top attempt =>
      cases attempt with
      | whole => exact whole_ends_unblocked datagrams used top.offered
  | dropped used tried state _ error top attempt hard =>
      cases attempt with
      | cut count _ short =>
          rw [← List.append_assoc, List.getLast?_concat]
          simpa using hard

theorem sound_call (call : SendCall) (valid : ValidTransmit call.transmit) (writable : Option WritableFuture)
    (returned : SendReturn) (polled : pollSend call.transmit call.writability call.sends ⟨writable, [], []⟩ = .ok (some returned))
    (consumed : returned.writability = [] ∧ returned.sends = []) : SoundCall call returned := by
  obtain ⟨datagrams, split⟩ := segments_total call.transmit valid
  obtain ⟨earlier, answers⟩ := poll_send_ending call.transmit call.writability call.sends _ returned polled
  rw [consumed.1] at answers
  have ending : call.writability.getLast? = some (endingAnswer returned.result) := by
    rw [answers, List.getLast?_concat]
  have again (used tried : List SendOutcome) (state after : SendState) (holds : Kept datagrams used state)
      (attempt : Attempted datagrams { state with writable := none } tried (.error .wouldBlock) after) :
      Kept datagrams (used ++ tried) after :=
    kept_attempt datagrams used tried state after _ holds attempt
  obtain ⟨answer, played, ends⟩ := poll_send_rule call.transmit datagrams split (Kept datagrams) again call.writability call.sends
    [] ⟨writable, [], []⟩ ⟨rfl, rfl, .inl rfl⟩ (poll_send_pollable _ _ _ ⟨writable, [], []⟩ returned polled)
  rw [polled, Except.ok.injEq] at played
  obtain ⟨read, all, ended⟩ := ends returned played.symm
  rw [consumed.2, List.append_nil] at all
  rw [List.nil_append, ← all] at ended
  have kept := ends_kept datagrams _ _ _ _ ended
  have future := ends_writable datagrams _ _ _ _ _ ended
  refine ⟨future.1, future.2, ending, ?_, kept.booked, kept.taken⟩
  intro ready
  rw [ready] at ended
  exact ends_unblocked datagrams _ _ _ ended

theorem sound_pollable (call : SendCall) (returned : SendReturn) (sound : SoundCall call returned) :
    Pollable returned.state.writable := by
  intro future stored
  cases answered : returned.result with
  | pending =>
      rw [sound.waiting answered, Option.some.injEq] at stored
      exact stored.symm
  | ready result =>
      rw [sound.idle result answered] at stored
      cases stored

theorem send_run_sound (sender final : PacketSender) (calls : List SendCall) (returns : List SendReturn)
    (run : SendRun sender calls final returns) (valid : ∀ call ∈ calls, ValidTransmit call.transmit)
    (start : Pollable sender.writable) : List.Forall₂ SoundCall calls returns ∧ Pollable final.writable := by
  induction run with
  | nil sender => exact ⟨.nil, start⟩
  | cons sender final call calls returned returns polled consumed rest ih =>
      have sound := sound_call call (valid call List.mem_cons_self) sender.writable returned polled consumed
      obtain ⟨later, pollable⟩ := ih (fun other member => valid other (List.mem_cons_of_mem call member))
        (sound_pollable call returned sound)
      exact ⟨.cons sound later, pollable⟩

theorem wire_cons (returned : SendReturn) (returns : List SendReturn) :
    wire (returned :: returns) = returned.state.wire ++ wire returns := rfl

theorem send_run_counters (sender final : PacketSender) (calls : List SendCall) (returns : List SendReturn) (counter : Counter)
    (run : SendRun sender calls final returns) (sound : List.Forall₂ SoundCall calls returns) :
    final.socket.counters.load counter =
      sender.socket.counters.load counter + UInt64.ofNat (total counter (bookings (wire returns))) := by
  induction run with
  | nil sender => simp [wire, bookings, total]
  | cons sender final call calls returned returns polled consumed rest ih =>
      cases sound with
      | cons first later =>
          have split : bookings (wire (returned :: returns)) = returned.state.updates ++ bookings (wire returns) := by
            rw [wire_cons, first.booked, bookings, bookings, bookings, List.flatMap_append]
          rw [ih later, split, total_append, UInt64.ofNat_add, ← UInt64.add_assoc]
          simp only [PacketSocket.record, load_after]

theorem send_run_taken (calls : List SendCall) (returns : List SendReturn) (sound : List.Forall₂ SoundCall calls returns) :
    (wire returns).length = (sendOutcomes calls).count .accepted := by
  induction sound with
  | nil => rfl
  | @cons call returned calls returns first later ih =>
      have outcomes : sendOutcomes (call :: calls) = call.sends ++ sendOutcomes calls := rfl
      rw [wire_cons, outcomes, List.length_append, List.count_append, first.taken, ih]

theorem sender_readiness_sound (authenticator : Option Authenticator) (calls : List SendCall) (final : PacketSender)
    (returns : List SendReturn) (run : SendRun (createSender (PacketSocket.bind authenticator)) calls final returns)
    (valid : ∀ call ∈ calls, ValidTransmit call.transmit) :
    (∀ (transmit : Transmit) (writability : List Writability) (sends : List SendOutcome), ValidTransmit transmit →
      ∃ answer, pollSend transmit writability sends ⟨final.writable, [], []⟩ = .ok answer) ∧
    List.Forall₂ SoundCall calls returns ∧
    final.socket.counters.sent = UInt64.ofNat (wire returns).length ∧
    final.socket.counters.sentBytes = UInt64.ofNat ((wire returns).map (fun sent => sent.datagram.bytes.length)).sum ∧
    (wire returns).length = (sendOutcomes calls).count .accepted := by
  obtain ⟨sound, pollable⟩ := send_run_sound _ final calls returns run valid nofun
  refine ⟨?_, sound, ?_, ?_, send_run_taken calls returns sound⟩
  · intro transmit writability sends allowed
    obtain ⟨datagrams, split⟩ := segments_total transmit allowed
    obtain ⟨answer, polled, _⟩ := poll_send_rule transmit datagrams split (fun _ _ => True) (fun _ _ _ _ _ _ => trivial)
      writability sends [] ⟨final.writable, [], []⟩ trivial pollable
    exact ⟨answer, polled⟩
  · have counted := send_run_counters _ final calls returns .sent run sound
    rw [bookings_sent] at counted
    simpa [Counters.load, createSender, PacketSocket.bind] using counted
  · have counted := send_run_counters _ final calls returns .sentBytes run sound
    rw [bookings_bytes] at counted
    simpa [Counters.load, createSender, PacketSocket.bind] using counted

-- The second segment meets a hard error after the first was accepted, and the
-- next call waits.
theorem sender_readiness_sound_sample :
    ∃ final returns, SendRun sampleSender
        [⟨sampleTransmit, [.ready, .ready], [.failed .wouldBlock, .accepted, .failed .networkUnreachable]⟩,
          ⟨sampleTransmit, [.pending], []⟩] final returns ∧
      final.writable = some ⟨false⟩ ∧ final.socket.counters.sent = 1 ∧
      ∃ answer, pollSend sampleTransmit [.ready] [.accepted, .accepted] ⟨final.writable, [], []⟩ = .ok answer := by
  have run : SendRun sampleSender
      [⟨sampleTransmit, [.ready, .ready], [.failed .wouldBlock, .accepted, .failed .networkUnreachable]⟩,
        ⟨sampleTransmit, [.pending], []⟩] _
      [⟨.ready (.ok ()), ⟨none, [sampleSegment 0 1], sampleUpdates⟩, [], []⟩, ⟨.pending, ⟨some ⟨false⟩, [], []⟩, [], []⟩] :=
    .cons _ _ _ _ _ _ (by decide) ⟨rfl, rfl⟩ (.cons _ _ _ _ _ _ (by decide) ⟨rfl, rfl⟩ (.nil _))
  have valid : ValidTransmit sampleTransmit := by
    intro size segmented
    cases segmented
    exact Nat.le_refl 1
  have sound := sender_readiness_sound none _ _ _ run (by
    intro call member
    rcases List.mem_pair.mp member with rfl | rfl
    · exact valid
    · exact valid)
  exact ⟨_, _, run, rfl, sound.2.2.1, sound.1 sampleTransmit _ _ valid⟩

end Pktauth.Socket
