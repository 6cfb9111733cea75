import Pktauth.Lib.Run
import Pktauth.Echo.Exchange

set_option autoImplicit false

namespace Pktauth.Echo

open Rust Network

structure Served where
  exchange : Exchange
  lost : Option ConnectionError

-- A stream that the server has just accepted, with whatever the client has
-- sent on it by then.
def Served.start (request : Pipe UInt8) : Served := ⟨⟨.opening, .reading [], request, .empty⟩, none⟩

-- The client's end follows no program here: it may write, finish, reset, read
-- and refuse at will, in any order.
inductive HostileStep (window : Nat) : Served → Served → Prop where
  | server (served : Served) (x : Exchange) (step : EchoStep window served.lost served.exchange x) :
      HostileStep window served { served with exchange := x }
  | client (served : Served) (request response : Pipe UInt8) (grows : Pipe.Grows served.exchange.request request)
      (consumed : Pipe.Consumed served.exchange.response response) :
      HostileStep window served { served with exchange := { served.exchange with request := request, response := response } }
  | lose (served : Served) (error : ConnectionError) (connected : served.lost = none) :
      HostileStep window served { served with lost := some error }

-- The bytes of the payload that echo_stream holds at a point: what it has read
-- so far, then all of it until it returns.
def EchoPoint.buffered : EchoPoint → List UInt8
  | .reading soFar => soFar
  | .writing payload _ | .finishing payload => payload
  | .queued | .returned _ => []

section Hostile

variable (window : Nat)

def Contained (served : Served) : Prop :=
  Echoing served.lost served.exchange.echo served.exchange.request served.exchange.response

theorem contained_start (request : Pipe UInt8) (unread : request.taken = 0) (taking : request.stopped = false) :
    Contained (Served.start request) := by
  have nothing : request.seen = [] := by rw [Pipe.seen, unread, List.take_zero]
  rw [Contained, Served.start, ← nothing]
  exact .reading request .empty (by omega) rfl rfl taking

theorem contained_step (served after : Served) (contained : Contained served) (step : HostileStep window served after) :
    Contained after := by
  cases step with
  | server x step => exact (echo_step_echoed window served.lost served.exchange x contained step).echoing
  | client request response grows consumed =>
      exact echoing_frame served.lost served.exchange.echo _ _ _ _ contained grows consumed
  | lose error connected =>
      rw [Contained, connected] at contained
      exact echoing_lost error _ _ _ contained

theorem contained_buffer (served : Served) (contained : Contained served) :
    served.exchange.echo.buffered.length ≤ maxPingBytes := by
  obtain ⟨⟨ping, echo, request, response⟩, lost⟩ := served
  change Echoing lost echo request response at contained
  cases contained with
  | reading _ _ bounded silent unfinished taking =>
      simp only [EchoPoint.buffered, Pipe.seen_length]
      exact bounded
  | writing rest _ _ copies drained bounded unfinished taking => exact bounded
  | finishing _ _ copied drained bounded unfinished taking => exact bounded
  | queued => exact Nat.zero_le _
  | echoed => exact Nat.zero_le _
  | tooLong => exact Nat.zero_le _
  | aborted => exact Nat.zero_le _
  | stopped => exact Nat.zero_le _
  | unread => exact Nat.zero_le _
  | unsent => exact Nat.zero_le _

theorem response_waits (served : Served) (contained : Contained served) (speaks : served.exchange.response.written ≠ []) :
    served.exchange.request.drained := by
  obtain ⟨⟨ping, echo, request, response⟩, lost⟩ := served
  change Echoing lost echo request response at contained
  cases contained with
  | queued _ _ untouched silent unfinished taking => exact absurd silent speaks
  | reading _ _ bounded silent unfinished taking => exact absurd silent speaks
  | writing rest _ _ copies drained bounded unfinished taking => exact drained
  | finishing _ _ copied drained bounded unfinished taking => exact drained
  | echoed _ _ copied drained bounded sealed taking => exact drained
  | tooLong _ _ exceeds silent => exact absurd silent speaks
  | aborted _ _ abandoned silent taking => exact absurd silent speaks
  | stopped _ _ front drained bounded refused taking => exact drained
  | unread error _ _ gone bounded silent unfinished taking => exact absurd silent speaks
  | unsent error _ _ gone front drained bounded unfinished taking => exact drained

theorem hostile_client_contained (request : Pipe UInt8) (unread : request.taken = 0) (taking : request.stopped = false)
    (served : Served) (reach : Relation.ReflTransGen (HostileStep window) (Served.start request) served) :
    served.exchange.echo.buffered.length ≤ maxPingBytes ∧
      served.exchange.response.written <+: served.exchange.request.written ∧
      served.exchange.response.written.length ≤ maxPingBytes ∧
      (served.exchange.response.written ≠ [] → served.exchange.request.drained) ∧
      (served.exchange.request.stopped = true → maxPingBytes < served.exchange.request.written.length) := by
  have contained := Run.invariant (HostileStep window) Contained (Served.start request)
    (contained_start request unread taking) (contained_step window) served reach
  have copies := response_copies _ _ _ _ contained
  exact ⟨contained_buffer served contained, copies.1, copies.2, response_waits served contained,
    stopped_request_exceeds _ _ _ _ contained⟩

-- The client sends one byte and resets the stream while the server waits for
-- the rest.
theorem hostile_client_contained_sample :
    ∃ served, Relation.ReflTransGen (HostileStep 1) (Served.start ⟨[7], 0, false, false, false, by decide⟩) served ∧
      served.exchange.echo = .returned (.error (.read .reset)) ∧
      served.exchange.response.written <+: served.exchange.request.written := by
  have reach := Relation.ReflTransGen.refl (r := HostileStep 1) (a := Served.start ⟨[7], 0, false, false, false, by decide⟩)
    |>.tail (.server _ _ (.read _ [] _ _ rfl (.chunk [] _ 1 (by decide) (by decide) (by decide))))
    |>.tail (.client _ _ _ (Pipe.grows_abandon _) (Pipe.consumed_refl _))
    |>.tail (.server _ _ (.read _ [7] _ _ rfl (.reset [7] _ rfl)))
  exact ⟨_, reach, rfl, (hostile_client_contained 1 ⟨[7], 0, false, false, false, by decide⟩ rfl rfl _ reach).2.1⟩

end Hostile

end Pktauth.Echo
