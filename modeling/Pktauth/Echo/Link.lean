import Mathlib.Logic.Function.Basic
import Pktauth.Lib.Run
import Pktauth.Echo.Exchange

set_option autoImplicit false

namespace Pktauth.Echo

open Rust Network

-- One connection with any number of pings on it, in any order and at the same
-- time: the stream of each, the streams in the order of their opening, how
-- many of them serve_connection has taken, what it returned, and the error
-- with which each end has lost the connection.
structure Link (ι : Type) where
  exchanges : ι → Exchange
  opened : List ι
  accepted : Nat
  service : Option (Except Error Unit)
  clientLost : Option ConnectionError
  serverLost : Option ConnectionError

def Link.start {ι : Type} : Link ι := ⟨fun _ => .start, [], 0, none, none, none⟩

def Exchange.closed (x : Exchange) : Bool := x.request.closed && x.response.closed

-- The streams that still count against the peer's limit.
def Link.active {ι : Type} (link : Link ι) : List ι := link.opened.filter (fun i => !(link.exchanges i).closed)

section Steps

variable {ι : Type} [DecidableEq ι] (window streams : Nat) (payload : ι → List UInt8)

def Link.put (link : Link ι) (i : ι) (x : Exchange) : Link ι :=
  { link with exchanges := Function.update link.exchanges i x }

def Link.enqueue (link : Link ι) (i : ι) : Link ι := { link with opened := link.opened ++ [i] }

def Link.dequeue (link : Link ι) : Link ι := { link with accepted := link.accepted + 1 }

-- What the two programs do over the connection.
inductive Work : Link ι → Link ι → Prop where
  | opened (link : Link ι) (i : ι) (stage : (link.exchanges i).ping = .opening) (connected : link.clientLost = none)
      (credit : link.active.length < streams) :
      Work link ((link.put i { link.exchanges i with ping := .opened (payload i) (.ok ()) }).enqueue i)
  | unopened (link : Link ι) (i : ι) (error : ConnectionError) (stage : (link.exchanges i).ping = .opening)
      (gone : link.clientLost = some error) :
      Work link (link.put i { link.exchanges i with ping := .opened (payload i) (.error error) })
  | client (link : Link ι) (i : ι) (x : Exchange)
      (step : PingStep window (payload i) link.clientLost (link.exchanges i) x) : Work link (link.put i x)
  | server (link : Link ι) (i : ι) (x : Exchange) (step : EchoStep window link.serverLost (link.exchanges i) x) :
      Work link (link.put i x)
  | accept (link : Link ι) (i : ι) (serving : link.service = none) (next : link.opened[link.accepted]? = some i)
      (turn : serveTurn (.ok i) = .spawn i) :
      Work link (link.put i { link.exchanges i with echo := .reading [] }).dequeue
  | leave (link : Link ι) (error : ConnectionError) (result : Except Error Unit) (serving : link.service = none)
      (idle : link.accepted = link.opened.length) (gone : link.serverLost = some error)
      (turn : serveTurn (.error error : Except ConnectionError ι) = .leave result) :
      Work link { link with service := some result }

-- Either end may find the connection gone at any time and for any reason.
inductive LinkStep : Link ι → Link ι → Prop where
  | work (link after : Link ι) (step : Work window streams payload link after) : LinkStep link after
  | loseClient (link : Link ι) (error : ConnectionError) (connected : link.clientLost = none) :
      LinkStep link { link with clientLost := some error }
  | loseServer (link : Link ι) (error : ConnectionError) (connected : link.serverLost = none) :
      LinkStep link { link with serverLost := some error }

def PingPoint.outside : PingPoint → Prop
  | .opening | .returned _ => True
  | .writing _ | .finishing | .reading _ | .timing _ => False

-- Which streams have a task on the server: exactly those taken so far, each
-- taken once and in order.
structure LinkSound (link : Link ι) : Prop where
  exchanges : ∀ i, Sound (payload i) link.clientLost link.serverLost (link.exchanges i)
  distinct : link.opened.Nodup
  begun : ∀ i ∈ link.opened, (link.exchanges i).ping ≠ .opening
  outside : ∀ i ∉ link.opened, (link.exchanges i).ping.outside
  queued : ∀ i, (link.exchanges i).echo = .queued ↔ i ∉ link.opened.take link.accepted
  bound : link.accepted ≤ link.opened.length
  service : ∀ result, link.service = some result →
    ∃ error, link.serverLost = some error ∧ serveTurn (.error error : Except ConnectionError ι) = .leave result

omit [DecidableEq ι] in
theorem link_start : LinkSound payload (Link.start : Link ι) := by
  have untouched (i : ι) : Sound (payload i) none none Exchange.start :=
    ⟨.opening, .queued _ _ rfl rfl rfl rfl, fun _ => rfl, rfl, rfl⟩
  exact ⟨untouched, List.nodup_nil, by simp [Link.start], fun _ _ => trivial, by simp [Link.start, Exchange.start],
    Nat.le_refl 0, nofun⟩

theorem put_sound (link : Link ι) (i : ι) (x : Exchange) (sound : LinkSound payload link)
    (kept : Sound (payload i) link.clientLost link.serverLost x) (begun : i ∈ link.opened → x.ping ≠ .opening)
    (outside : i ∉ link.opened → x.ping.outside) (queued : x.echo = .queued ↔ (link.exchanges i).echo = .queued) :
    LinkSound payload (link.put i x) := by
  refine ⟨?_, sound.distinct, ?_, ?_, ?_, sound.bound, sound.service⟩
  · exact (Function.forall_update_iff link.exchanges (fun i x => Sound (payload i) link.clientLost link.serverLost x)).mpr
      ⟨kept, fun other _ => sound.exchanges other⟩
  · exact (Function.forall_update_iff link.exchanges (fun i x => i ∈ link.opened → x.ping ≠ .opening)).mpr
      ⟨begun, fun other _ => sound.begun other⟩
  · exact (Function.forall_update_iff link.exchanges (fun i x => i ∉ link.opened → x.ping.outside)).mpr
      ⟨outside, fun other _ => sound.outside other⟩
  · exact (Function.forall_update_iff link.exchanges
      (fun i x => x.echo = .queued ↔ i ∉ link.opened.take link.accepted)).mpr
      ⟨queued.trans (sound.queued i), fun other _ => sound.queued other⟩

theorem opened_sound (link : Link ι) (i : ι) (sound : LinkSound payload link) (stage : (link.exchanges i).ping = .opening) :
    LinkSound payload ((link.put i { link.exchanges i with ping := .opened (payload i) (.ok ()) }).enqueue i) := by
  have fresh : i ∉ link.opened := fun member => sound.begun i member stage
  have kept := open_sound (payload i) _ _ _ (.ok ()) (sound.exchanges i) stage nofun
  refine ⟨?_, ?_, ?_, ?_, ?_, ?_, sound.service⟩
  · exact (Function.forall_update_iff link.exchanges (fun i x => Sound (payload i) link.clientLost link.serverLost x)).mpr
      ⟨kept, fun other _ => sound.exchanges other⟩
  · exact sound.distinct.append (List.nodup_singleton i) (by simpa using fresh)
  · refine (Function.forall_update_iff link.exchanges (fun j x => j ∈ link.opened ++ [i] → x.ping ≠ .opening)).mpr
      ⟨fun _ => nofun, fun other different member => ?_⟩
    exact sound.begun other (by simpa [different] using member)
  · refine (Function.forall_update_iff link.exchanges (fun j x => j ∉ link.opened ++ [i] → x.ping.outside)).mpr
      ⟨fun absent => absurd (by simp) absent, fun other _ absent => ?_⟩
    exact sound.outside other (fun member => absent (List.mem_append_left _ member))
  · change ∀ j, _ ↔ j ∉ (link.opened ++ [i]).take link.accepted
    rw [List.take_append_of_le_length sound.bound]
    exact (Function.forall_update_iff link.exchanges
      (fun i x => x.echo = .queued ↔ i ∉ link.opened.take link.accepted)).mpr
      ⟨sound.queued i, fun other _ => sound.queued other⟩
  · change link.accepted ≤ (link.opened ++ [i]).length
    exact Nat.le_trans sound.bound (by simp)

omit [DecidableEq ι] in
theorem taken_next (link : Link ι) (i : ι) (next : link.opened[link.accepted]? = some i) :
    link.opened.take (link.accepted + 1) = link.opened.take link.accepted ++ [i] := by
  rw [List.take_add_one, next]
  rfl

omit [DecidableEq ι] in
theorem next_queued (link : Link ι) (i : ι) (sound : LinkSound payload link) (next : link.opened[link.accepted]? = some i) :
    (link.exchanges i).echo = .queued := by
  have distinct := sound.distinct.sublist (List.take_sublist (link.accepted + 1) link.opened)
  rw [taken_next link i next] at distinct
  exact (sound.queued i).mpr (fun earlier => (List.nodup_append.mp distinct).2.2 i earlier i (by simp) rfl)

theorem accept_step_sound (link : Link ι) (i : ι) (sound : LinkSound payload link)
    (next : link.opened[link.accepted]? = some i) :
    LinkSound payload (link.put i { link.exchanges i with echo := .reading [] }).dequeue := by
  have taken := taken_next link i next
  obtain ⟨bound, _⟩ := List.getElem?_eq_some_iff.mp next
  have member := List.mem_of_getElem? next
  have kept := accept_sound (payload i) _ _ _ (sound.exchanges i) (sound.begun i member)
    (next_queued payload link i sound next)
  refine ⟨?_, sound.distinct, ?_, ?_, ?_, bound, sound.service⟩
  · exact (Function.forall_update_iff link.exchanges (fun i x => Sound (payload i) link.clientLost link.serverLost x)).mpr
      ⟨kept, fun other _ => sound.exchanges other⟩
  · exact (Function.forall_update_iff link.exchanges (fun i x => i ∈ link.opened → x.ping ≠ .opening)).mpr
      ⟨sound.begun i, fun other _ => sound.begun other⟩
  · exact (Function.forall_update_iff link.exchanges (fun i x => i ∉ link.opened → x.ping.outside)).mpr
      ⟨sound.outside i, fun other _ => sound.outside other⟩
  · refine (Function.forall_update_iff link.exchanges
      (fun i x => x.echo = .queued ↔ i ∉ link.opened.take (link.accepted + 1))).mpr ⟨?_, ?_⟩
    · simp [taken]
    · intro other different
      rw [taken, sound.queued other]
      simp [different]

omit [DecidableEq ι] in
theorem ping_step_outside (i : ι) (lost : Option ConnectionError) (x after : Exchange)
    (step : PingStep window (payload i) lost x after) (outside : x.ping.outside) : after.ping.outside := by
  cases step with
  | write rest progress request stage moved => simp [stage, PingPoint.outside] at outside
  | finish stage => simp [stage, PingPoint.outside] at outside
  | read soFar progress response stage moved => simp [stage, PingPoint.outside] at outside
  | elapsed echoed rtt stage => simp [stage, PingPoint.outside] at outside
  | dropSend result stage connected unfinished => exact outside
  | dropRecv result stage connected unread running heard => exact outside

theorem work_sound (link after : Link ι) (sound : LinkSound payload link) (step : Work window streams payload link after) :
    LinkSound payload after := by
  cases step with
  | opened i stage connected credit => exact opened_sound payload link i sound stage
  | unopened i error stage gone =>
      have kept := open_sound (payload i) _ _ _ (.error error) (sound.exchanges i) stage (by rintro _ ⟨⟩; exact gone)
      exact put_sound payload link i _ sound kept (fun _ => by nofun) (fun _ => trivial) Iff.rfl
  | client i x step =>
      have asked := ping_step_asked window (payload i) _ _ _ x (sound.exchanges i) step
      have kept := ping_step_sound window (payload i) _ _ _ x (sound.exchanges i) step
      exact put_sound payload link i x sound kept (fun _ => asked.opened)
        (fun absent => ping_step_outside window payload i _ _ x step (sound.outside i absent)) (by rw [asked.echo])
  | server i x step =>
      have echoed := echo_step_echoed window _ _ x (sound.exchanges i).echoing step
      have kept := echo_step_sound window (payload i) _ _ _ x (sound.exchanges i) step
      have accepted := echo_step_accepted window _ _ x step
      have working := echo_step_working window _ _ x step
      exact put_sound payload link i x sound kept (by rw [echoed.ping]; exact sound.begun i)
        (by rw [echoed.ping]; exact sound.outside i) (iff_of_false working accepted)
  | accept i serving next turn => exact accept_step_sound payload link i sound next
  | leave error result serving idle gone turn =>
      refine ⟨sound.exchanges, sound.distinct, sound.begun, sound.outside, sound.queued, sound.bound, ?_⟩
      rintro other ⟨⟩
      exact ⟨error, gone, turn⟩

theorem link_step (link after : Link ι) (sound : LinkSound payload link) (step : LinkStep window streams payload link after) :
    LinkSound payload after := by
  cases step with
  | work _ step => exact work_sound window streams payload link after sound step
  | loseClient error connected =>
      refine ⟨fun i => ?_, sound.distinct, sound.begun, sound.outside, sound.queued, sound.bound, sound.service⟩
      have kept := sound.exchanges i
      rw [connected] at kept
      exact ⟨asking_lost (payload i) error _ _ _ kept.asking, kept.echoing, kept.unopened, kept.intact⟩
  | loseServer error connected =>
      refine ⟨fun i => ?_, sound.distinct, sound.begun, sound.outside, sound.queued, sound.bound, ?_⟩
      · have kept := sound.exchanges i
        rw [connected] at kept
        exact ⟨kept.asking, echoing_lost error _ _ _ kept.echoing, kept.unopened, kept.intact⟩
      · intro result ended
        obtain ⟨_, gone, _⟩ := sound.service result ended
        rw [connected] at gone
        cases gone

theorem link_reachable (link : Link ι)
    (reach : Relation.ReflTransGen (LinkStep window streams payload) Link.start link) : LinkSound payload link :=
  Run.invariant (LinkStep window streams payload) (LinkSound payload) Link.start (link_start payload)
    (link_step window streams payload) link reach

end Steps

section Facts

variable (payload : List UInt8) (lost : Option ConnectionError) (ping : PingPoint) (request response : Pipe UInt8)
  (asking : Asking payload lost ping request response)

include asking

theorem request_front : request.written <+: payload := by
  cases asking with
  | opening => exact List.nil_prefix
  | writing rest _ _ split unfinished unread heard => exact ⟨rest, split⟩
  | finishing _ _ whole unfinished unread heard => simp [whole]
  | reading _ _ whole sealed heard => simp [whole]
  | timing _ _ whole sealed drained heard => simp [whole]
  | returned result _ _ outcome front cut left quiet answered => exact front

theorem finished_request (ended : request.finished = true) :
    request.written = payload ∨ maxPingBytes < request.written.length := by
  cases asking with
  | opening => cases ended
  | writing rest _ _ split unfinished unread heard => simp [unfinished] at ended
  | finishing _ _ whole unfinished unread heard => exact .inl whole
  | reading _ _ whole sealed heard => exact .inl whole
  | timing _ _ whole sealed drained heard => exact .inl whole
  | returned result _ _ outcome front cut left quiet answered =>
      rcases cut with whole | exceeds | ⟨_, unfinished⟩
      · exact .inl whole
      · exact .inr exceeds
      · simp [unfinished] at ended

theorem stopped_response (refused : response.stopped = true) : maxPingBytes < request.written.length := by
  cases asking with
  | opening => cases refused
  | writing rest _ _ split unfinished unread heard => simp [heard] at refused
  | finishing _ _ whole unfinished unread heard => simp [heard] at refused
  | reading _ _ whole sealed heard => simp [heard] at refused
  | timing _ _ whole sealed drained heard => simp [heard] at refused
  | returned result _ _ outcome front cut left quiet answered => exact quiet refused

end Facts

theorem outcome_ok (payload : List UInt8) (lost : Option ConnectionError) (result : Except Error Duration)
    (outcome : Outcome payload lost result) (connected : lost = none) (small : payload.length ≤ maxPingBytes) :
    ∃ rtt, result = .ok rtt := by
  cases outcome with
  | echoed rtt _ => exact ⟨rtt, rfl⟩
  | refused large => omega
  | stopped large => omega
  | unopened error gone => simp [connected] at gone
  | unsent error gone => simp [connected] at gone
  | unread error gone => simp [connected] at gone

inductive EchoOutcome (payload : List UInt8) (lost : Option ConnectionError) (response : Pipe UInt8) :
    Except Error Unit → Prop where
  | echoed (small : payload.length ≤ maxPingBytes) (copied : response.written = payload) (sealed : response.finished = true) :
      EchoOutcome payload lost response (.ok ())
  | tooLong (large : maxPingBytes < payload.length) (silent : response.written = []) :
      EchoOutcome payload lost response (.error (.read .tooLong))
  | unread (error : ConnectionError) (gone : lost = some error) :
      EchoOutcome payload lost response (.error (.read (.lost error)))
  | unsent (error : ConnectionError) (gone : lost = some error) :
      EchoOutcome payload lost response (.error (.write (.lost error)))

def samplePayload : Unit → List UInt8 := fun _ => [7]
def sampleRtt : Duration := ⟨1500000, by decide⟩

-- One ping of one byte, echoed over a window of one byte.
theorem sample_link :
    ∃ link : Link Unit, Relation.ReflTransGen (LinkStep 1 1 samplePayload) Link.start link ∧
      (link.exchanges ()).ping = .returned (.ok sampleRtt) ∧ (link.exchanges ()).echo = .returned (.ok ()) ∧
      link.clientLost = none := by
  have reach := Relation.ReflTransGen.refl (r := LinkStep 1 1 samplePayload) (a := Link.start)
    |>.tail (.work _ _ (.opened _ () rfl rfl (by decide)))
    |>.tail (.work _ _ (.client _ () _ (.write _ [7] _ _ rfl (.chunk [7] [] _ (by simp) rfl (by decide)))))
    |>.tail (.work _ _ (.client _ () _ (.write _ [] _ _ rfl (.done _))))
    |>.tail (.work _ _ (.client _ () _ (.finish _ rfl)))
    |>.tail (.work _ _ (.accept _ () rfl rfl rfl))
    |>.tail (.work _ _ (.server _ () _ (.read _ [] _ _ rfl (.chunk [] _ 1 (by decide) (by decide) (by decide)))))
    |>.tail (.work _ _ (.server _ () _ (.read _ [7] _ _ rfl (.ended [7] _ ⟨rfl, rfl⟩))))
    |>.tail (.work _ _ (.server _ () _ (.write _ [7] [7] _ _ rfl (.chunk [7] [] _ (by simp) rfl (by decide)))))
    |>.tail (.work _ _ (.server _ () _ (.write _ [7] [] _ _ rfl (.done _))))
    |>.tail (.work _ _ (.server _ () _ (.finish _ [7] rfl)))
    |>.tail (.work _ _ (.client _ () _ (.read _ [] _ _ rfl (.chunk [] _ 1 (by decide) (by decide) (by decide)))))
    |>.tail (.work _ _ (.client _ () _ (.read _ [7] _ _ rfl (.ended [7] _ ⟨rfl, rfl⟩))))
    |>.tail (.work _ _ (.client _ () _ (.elapsed _ [7] sampleRtt rfl)))
  exact ⟨_, reach, rfl, rfl, rfl⟩

section Results

variable {ι : Type} [DecidableEq ι] (window streams : Nat) (payload : ι → List UInt8)

-- Every point that a connection reaches is one of ping's, and one of
-- echo_stream's once the stream has a task.
structure Programmed (link : Link ι) : Prop where
  ping : ∀ i, ∃ routine, Relation.ReflTransGen Proceeds (ping (payload i)) routine ∧
    Routine.Implements (PingPoint.next (payload i)) routine (link.exchanges i).ping
  echo : ∀ i, (link.exchanges i).echo = .queued ∨ ∃ routine, Relation.ReflTransGen Proceeds echoStream routine ∧
    Routine.Implements EchoPoint.next routine (link.exchanges i).echo

omit [DecidableEq ι] in
theorem programmed_start : Programmed payload (Link.start : Link ι) :=
  ⟨fun i => ⟨_, .refl, ping_points (payload i)⟩, fun _ => .inl rfl⟩

theorem put_programmed (link : Link ι) (i : ι) (x : Exchange) (holds : Programmed payload link)
    (ping : ∃ routine, Relation.ReflTransGen Proceeds (ping (payload i)) routine ∧
      Routine.Implements (PingPoint.next (payload i)) routine x.ping)
    (echo : x.echo = .queued ∨ ∃ routine, Relation.ReflTransGen Proceeds echoStream routine ∧
      Routine.Implements EchoPoint.next routine x.echo) : Programmed payload (link.put i x) := by
  constructor
  · exact (Function.forall_update_iff link.exchanges (fun i x => ∃ routine, Relation.ReflTransGen Proceeds
      (Pktauth.Echo.ping (payload i)) routine ∧ Routine.Implements (PingPoint.next (payload i)) routine x.ping)).mpr
      ⟨ping, fun other _ => holds.ping other⟩
  · exact (Function.forall_update_iff link.exchanges (fun _ x => x.echo = .queued ∨ ∃ routine,
      Relation.ReflTransGen Proceeds echoStream routine ∧ Routine.Implements EchoPoint.next routine x.echo)).mpr
      ⟨echo, fun other _ => holds.echo other⟩

theorem opened_programmed (link : Link ι) (i : ι) (answer : Except ConnectionError Unit) (holds : Programmed payload link)
    (stage : (link.exchanges i).ping = .opening) :
    Programmed payload (link.put i { link.exchanges i with ping := .opened (payload i) answer }) := by
  obtain ⟨routine, run, implements⟩ := holds.ping i
  rw [stage] at implements
  obtain ⟨later, more, goesOn⟩ := proceeds_answered _ routine _ .openBi (PingPoint.opened (payload i)) implements rfl answer
  exact put_programmed payload link i _ holds ⟨later, run.trans more, goesOn⟩ (holds.echo i)

theorem link_step_programmed (link after : Link ι) (holds : Programmed payload link)
    (step : LinkStep window streams payload link after) : Programmed payload after := by
  cases step with
  | loseClient error connected => exact ⟨holds.ping, holds.echo⟩
  | loseServer error connected => exact ⟨holds.ping, holds.echo⟩
  | work _ step =>
      cases step with
      | opened i stage connected credit =>
          have opened := opened_programmed payload link i (.ok ()) holds stage
          exact ⟨opened.ping, opened.echo⟩
      | unopened i error stage gone => exact opened_programmed payload link i (.error error) holds stage
      | client i x step =>
          obtain ⟨routine, run, implements⟩ := holds.ping i
          obtain ⟨later, more, goesOn⟩ := ping_step_proceeds window (payload i) _ _ x step routine implements
          refine put_programmed payload link i x holds ⟨later, run.trans more, goesOn⟩ ?_
          rw [ping_step_echo window (payload i) _ _ x step]
          exact holds.echo i
      | server i x step =>
          refine put_programmed payload link i x holds ?_ ?_
          · rw [echo_step_ping window _ _ x step]
            exact holds.ping i
          · rcases holds.echo i with queued | ⟨routine, run, implements⟩
            · exact absurd queued (echo_step_accepted window _ _ x step)
            · obtain ⟨later, more, goesOn⟩ := echo_step_proceeds window _ _ x step routine implements
              exact .inr ⟨later, run.trans more, goesOn⟩
      | accept i serving next turn =>
          have spawned := put_programmed payload link i { link.exchanges i with echo := .reading [] } holds (holds.ping i)
            (.inr ⟨_, .refl, echo_stream_points⟩)
          exact ⟨spawned.ping, spawned.echo⟩
      | leave error result serving idle gone turn => exact ⟨holds.ping, holds.echo⟩

theorem link_programmed (link : Link ι) (reach : Relation.ReflTransGen (LinkStep window streams payload) Link.start link) :
    Programmed payload link :=
  Run.invariant (LinkStep window streams payload) (Programmed payload) Link.start (programmed_start payload)
    (link_step_programmed window streams payload) link reach

theorem returned_outcome (link : Link ι) (reach : Relation.ReflTransGen (LinkStep window streams payload) Link.start link) (i : ι)
    (result : Except Error Duration) (returned : (link.exchanges i).ping = .returned result) :
    Outcome (payload i) link.clientLost result ∧ ∀ rtt, result = .ok rtt →
      (link.exchanges i).response.drained ∧ (link.exchanges i).response.written = payload i := by
  have asking := ((link_reachable window streams payload link reach).exchanges i).asking
  rw [returned] at asking
  cases asking with
  | returned _ _ _ outcome front cut left quiet answered => exact ⟨outcome, answered⟩

omit [DecidableEq ι] in
theorem outcome_iff (i : ι) (result : Except Error Duration) (outcome : Outcome (payload i) none result) :
    (∃ rtt, result = .ok rtt) ↔ (payload i).length ≤ maxPingBytes := by
  refine ⟨?_, outcome_ok (payload i) none result outcome rfl⟩
  rintro ⟨rtt, rfl⟩
  cases outcome with
  | echoed _ small => exact small

theorem ping_result (link : Link ι) (reach : Relation.ReflTransGen (LinkStep window streams payload) Link.start link) (i : ι)
    (result : Except Error Duration) (returned : (link.exchanges i).ping = .returned result) :
    Relation.ReflTransGen Proceeds (ping (payload i)) (.done result) ∧
      Outcome (payload i) link.clientLost result ∧
      (∀ rtt, result = .ok rtt →
        (link.exchanges i).response.drained ∧ (link.exchanges i).response.written = payload i) ∧
      (link.clientLost = none → ((∃ rtt, result = .ok rtt) ↔ (payload i).length ≤ maxPingBytes)) := by
  obtain ⟨outcome, answered⟩ := returned_outcome window streams payload link reach i result returned
  obtain ⟨routine, run, implements⟩ := (link_programmed window streams payload link reach).ping i
  rw [returned] at implements
  rw [Routine.implements_done _ routine _ result implements rfl] at run
  exact ⟨run, outcome, answered, fun connected => outcome_iff payload i result (connected ▸ outcome)⟩

theorem ping_result_sample :
    ∃ link : Link Unit, Relation.ReflTransGen (LinkStep 1 1 samplePayload) Link.start link ∧
      (link.exchanges ()).ping = .returned (.ok sampleRtt) ∧ Outcome [7] none (.ok sampleRtt) ∧
      (link.exchanges ()).response.written = [7] := by
  obtain ⟨link, reach, returned, _, connected⟩ := sample_link
  obtain ⟨_, outcome, answered, _⟩ := ping_result 1 1 samplePayload link reach () (.ok sampleRtt) returned
  rw [connected] at outcome
  exact ⟨link, reach, returned, outcome, (answered sampleRtt rfl).2⟩

theorem echo_result (link : Link ι) (reach : Relation.ReflTransGen (LinkStep window streams payload) Link.start link) (i : ι)
    (result : Except Error Unit) (returned : (link.exchanges i).echo = .returned result) :
    Relation.ReflTransGen Proceeds echoStream (.done result) ∧
      EchoOutcome (payload i) link.serverLost (link.exchanges i).response result := by
  have sound := (link_reachable window streams payload link reach).exchanges i
  have echoing := sound.echoing
  rw [returned] at echoing
  constructor
  · rcases (link_programmed window streams payload link reach).echo i with queued | ⟨routine, run, implements⟩
    · simp [returned] at queued
    · rw [returned] at implements
      rwa [Routine.implements_done _ routine _ result implements rfl] at run
  · have front := (request_front _ _ _ _ _ sound.asking).length_le
    cases echoing with
    | echoed _ _ copied drained bounded sealed taking =>
        rcases finished_request _ _ _ _ _ sound.asking drained.1 with whole | exceeds
        · rw [whole] at bounded copied
          exact .echoed bounded copied sealed
        · omega
    | tooLong _ _ exceeds silent => exact .tooLong (by omega) silent
    | aborted _ _ abandoned silent taking => simp [sound.intact.1] at abandoned
    | stopped _ _ _ drained bounded refused taking =>
        have exceeds := stopped_response _ _ _ _ _ sound.asking refused
        omega
    | unread error _ _ gone bounded silent unfinished taking => exact .unread error gone
    | unsent error _ _ gone _ drained bounded unfinished taking => exact .unsent error gone

theorem echo_result_sample :
    ∃ link : Link Unit, Relation.ReflTransGen (LinkStep 1 1 samplePayload) Link.start link ∧
      EchoOutcome [7] link.serverLost (link.exchanges ()).response (.ok ()) := by
  obtain ⟨link, reach, _, echoed, _⟩ := sample_link
  exact ⟨link, reach, (echo_result 1 1 samplePayload link reach () (.ok ()) echoed).2⟩

end Results

end Pktauth.Echo
