import Mathlib.Algebra.Order.BigOperators.Group.Finset
import Mathlib.Data.Fintype.Basic
import Pktauth.Echo.Link

set_option autoImplicit false

namespace Pktauth.Echo

open Rust Network

-- What is left to do. A byte of the payload is written, read, written back and
-- read again, so it weighs four before the first of these and loses one at each.
def PingPoint.weight (payload : List UInt8) : PingPoint → Nat
  | .opening => 4 * payload.length + 5
  | .writing rest => 4 * rest.length + 4
  | .finishing => 3
  | .reading _ => 2
  | .timing _ => 1
  | .returned _ => 0

def EchoPoint.weight : EchoPoint → Nat
  | .queued => 4
  | .reading soFar => 2 * soFar.length + 3
  | .writing _ rest => 2 * rest.length + 2
  | .finishing _ => 1
  | .returned _ => 0

def flag (pipe : Pipe UInt8) : Nat := (!pipe.finished).toNat + (!pipe.stopped).toNat

def Exchange.weight (payload : List UInt8) (x : Exchange) : Nat :=
  x.ping.weight payload + x.echo.weight + (3 * x.request.unread + flag x.request) + (x.response.unread + flag x.response)

theorem flag_push (pipe : Pipe UInt8) (chunk : List UInt8) : flag (pipe.push chunk) = flag pipe := rfl

theorem flag_pull (pipe : Pipe UInt8) (count : Nat) (there : pipe.taken + count ≤ pipe.written.length) :
    flag (pipe.pull count there) = flag pipe := rfl

theorem flag_finish (pipe : Pipe UInt8) : flag pipe.finish ≤ flag pipe := by
  simp only [flag, Pipe.finish_finished, Pipe.finish_stopped, Bool.not_true, Bool.toNat_false]
  omega

theorem flag_finish_lt (pipe : Pipe UInt8) (unfinished : pipe.finished = false) : flag pipe.finish < flag pipe := by
  simp only [flag, Pipe.finish_finished, Pipe.finish_stopped, unfinished, Bool.not_true, Bool.toNat_false, Bool.not_false,
    Bool.toNat_true]
  omega

theorem flag_stop_lt (pipe : Pipe UInt8) (heard : pipe.stopped = false) : flag pipe.stop < flag pipe := by
  simp only [flag, Pipe.stop_finished, Pipe.stop_stopped, heard, Bool.not_true, Bool.toNat_false, Bool.not_false,
    Bool.toNat_true]
  omega

section Decrease

variable (window : Nat) (payload : List UInt8) (lost : Option ConnectionError)

theorem ping_step_lighter (x after : Exchange) (step : PingStep window payload lost x after) :
    after.weight payload < x.weight payload := by
  cases step with
  | write rest progress request stage moved =>
      simp only [Exchange.weight, stage]
      cases moved with
      | chunk front rest pipe nonempty connected room =>
          have positive := List.length_pos_iff.mpr nonempty
          have grown := Pipe.unread_push x.request front
          simp only [PingPoint.writes, PingPoint.weight, flag_push, List.length_append, grown]
          omega
      | done => simp [PingPoint.writes, PingPoint.wrote, PingPoint.weight]
      | stopped rest pipe refused => simp [PingPoint.writes, PingPoint.wrote, PingPoint.weight]
      | lost rest pipe error gone => simp [PingPoint.writes, PingPoint.wrote, PingPoint.weight]
  | finish stage =>
      have lighter := flag_finish x.request
      have same : x.request.finish.unread = x.request.unread := rfl
      have point : (PingPoint.sealed (finishAnswer x.request)).weight payload ≤ 2 := by
        simp only [finishAnswer]
        split <;> simp [PingPoint.sealed, PingPoint.weight]
      have before : x.ping.weight payload = 3 := by rw [stage, PingPoint.weight]
      simp only [Exchange.weight, before, same]
      omega
  | read soFar progress response stage moved =>
      simp only [Exchange.weight, stage]
      cases moved with
      | chunk count nonempty there fits =>
          have shrunk := Pipe.unread_pull x.response count there
          simp only [PingPoint.reads, PingPoint.weight, flag_pull]
          omega
      | excess count there exceeds =>
          have shrunk := Pipe.unread_pull x.response count there
          simp only [PingPoint.reads, PingPoint.read, PingPoint.weight, flag_pull]
          omega
      | ended drained => simp [PingPoint.reads, PingPoint.read, PingPoint.weight]
      | reset abandoned => simp [PingPoint.reads, PingPoint.read, PingPoint.weight]
      | lost error gone => simp [PingPoint.reads, PingPoint.read, PingPoint.weight]
  | elapsed echoed rtt stage =>
      have point : (PingPoint.timed payload echoed rtt).weight payload = 0 := by
        simp only [PingPoint.timed]
        split <;> rfl
      have before : x.ping.weight payload = 1 := by rw [stage, PingPoint.weight]
      simp only [Exchange.weight, before, point]
      omega
  | dropSend result stage connected unfinished =>
      have lighter := flag_finish_lt x.request unfinished
      have same : x.request.finish.unread = x.request.unread := rfl
      simp only [Exchange.weight, same]
      omega
  | dropRecv result stage connected unread running heard =>
      have lighter := flag_stop_lt x.response heard
      have same : x.response.stop.unread = x.response.unread := rfl
      simp only [Exchange.weight, same]
      omega

theorem echo_step_lighter (x after : Exchange) (step : EchoStep window lost x after) :
    after.weight payload < x.weight payload := by
  cases step with
  | read soFar progress request stage moved =>
      simp only [Exchange.weight, stage]
      cases moved with
      | chunk count nonempty there fits =>
          have shrunk := Pipe.unread_pull x.request count there
          have taken := Pipe.next_length x.request count there
          simp only [EchoPoint.reads, EchoPoint.weight, flag_pull, List.length_append, taken]
          omega
      | excess count there exceeds =>
          have shrunk := Pipe.unread_pull x.request count there
          simp only [EchoPoint.reads, EchoPoint.read, EchoPoint.weight, flag_pull]
          omega
      | ended drained => simp [EchoPoint.reads, EchoPoint.read, EchoPoint.weight]
      | reset abandoned => simp [EchoPoint.reads, EchoPoint.read, EchoPoint.weight]
      | lost error gone => simp [EchoPoint.reads, EchoPoint.read, EchoPoint.weight]
  | write payload rest progress response stage moved =>
      simp only [Exchange.weight, stage]
      cases moved with
      | chunk front rest pipe nonempty connected room =>
          have positive := List.length_pos_iff.mpr nonempty
          have grown := Pipe.unread_push x.response front
          simp only [EchoPoint.writes, EchoPoint.weight, flag_push, List.length_append, grown]
          omega
      | done => simp [EchoPoint.writes, EchoPoint.wrote, EchoPoint.weight]
      | stopped rest pipe refused => simp [EchoPoint.writes, EchoPoint.wrote, EchoPoint.weight]
      | lost rest pipe error gone => simp [EchoPoint.writes, EchoPoint.wrote, EchoPoint.weight]
  | finish payload stage =>
      have lighter := flag_finish x.response
      have same : x.response.finish.unread = x.response.unread := rfl
      have point : (EchoPoint.sealed (finishAnswer x.response)).weight = 0 := by
        simp only [finishAnswer]
        split <;> rfl
      have before : x.echo.weight = 1 := by rw [stage, EchoPoint.weight]
      simp only [Exchange.weight, before, same, point]
      omega
  | dropSend result stage connected unfinished =>
      have lighter := flag_finish_lt x.response unfinished
      have same : x.response.finish.unread = x.response.unread := rfl
      simp only [Exchange.weight, same]
      omega
  | dropRecv result stage connected unread running heard =>
      have lighter := flag_stop_lt x.request heard
      have same : x.request.stop.unread = x.request.unread := rfl
      simp only [Exchange.weight, same]
      omega

end Decrease

section Bound

variable {ι : Type} [DecidableEq ι] [Fintype ι] (window streams : Nat) (payload : ι → List UInt8)

def Link.weight (link : Link ι) : Nat :=
  ∑ i, (link.exchanges i).weight (payload i) +
    (link.service.isNone.toNat + link.clientLost.isNone.toNat + link.serverLost.isNone.toNat)

theorem put_lighter (link : Link ι) (i : ι) (x : Exchange)
    (lighter : x.weight (payload i) < (link.exchanges i).weight (payload i)) :
    ∑ j, ((link.put i x).exchanges j).weight (payload j) < ∑ j, (link.exchanges j).weight (payload j) := by
  have parts := (Function.forall_update_iff link.exchanges
    (fun j y => y.weight (payload j) ≤ (link.exchanges j).weight (payload j))).mpr
    ⟨Nat.le_of_lt lighter, fun _ _ => Nat.le_refl _⟩
  refine Finset.sum_lt_sum (fun j _ => parts j) ⟨i, Finset.mem_univ i, ?_⟩
  simpa only [Link.put, Function.update_self] using lighter

theorem work_lighter (link after : Link ι) (sound : LinkSound payload link) (step : Work window streams payload link after) :
    after.weight payload < link.weight payload := by
  cases step with
  | opened i stage connected credit =>
      have lighter := put_lighter payload link i { link.exchanges i with ping := .opened (payload i) (.ok ()) }
        (by simp [Exchange.weight, stage, PingPoint.opened, PingPoint.weight])
      exact Nat.add_lt_add_right lighter _
  | unopened i error stage gone =>
      have lighter := put_lighter payload link i { link.exchanges i with ping := .opened (payload i) (.error error) }
        (by simp [Exchange.weight, stage, PingPoint.opened, PingPoint.weight])
      exact Nat.add_lt_add_right lighter _
  | client i x step =>
      have lighter := put_lighter payload link i x (ping_step_lighter window (payload i) _ _ x step)
      exact Nat.add_lt_add_right lighter _
  | server i x step =>
      have lighter := put_lighter payload link i x (echo_step_lighter window (payload i) _ _ x step)
      exact Nat.add_lt_add_right lighter _
  | accept i serving next turn =>
      have lighter := put_lighter payload link i { link.exchanges i with echo := .reading [] }
        (by simp [Exchange.weight, next_queued payload link i sound next, EchoPoint.weight])
      exact Nat.add_lt_add_right lighter _
  | leave error result serving idle gone turn => simp [Link.weight, serving]

theorem link_step_lighter (link after : Link ι) (sound : LinkSound payload link) (step : LinkStep window streams payload link after) :
    after.weight payload < link.weight payload := by
  cases step with
  | work _ step => exact work_lighter window streams payload link after sound step
  | loseClient error connected => simp [Link.weight, connected]
  | loseServer error connected => simp [Link.weight, connected]

end Bound

-- Why an end that takes no step takes none, on a live connection: it waits for
-- the other end, or has nothing left to do.
inductive PingWaits (x : Exchange) : Prop where
  | forRoom (unfinished : x.request.finished = false) (taking : x.request.stopped = false)
      (unread : x.request.taken < x.request.written.length)
  | forResponse (sealed : x.request.finished = true) (unfinished : x.response.finished = false)
      (heard : x.response.stopped = false) (empty : x.response.taken = x.response.written.length)
  | done (result : Except Error Duration) (returned : x.ping = .returned result) (sealed : x.request.finished = true)
      (gone : x.response.drained ∨ x.response.stopped = true)

inductive EchoWaits (x : Exchange) : Prop where
  | forRequest (unfinished : x.request.finished = false) (taking : x.request.stopped = false)
      (empty : x.request.taken = x.request.written.length)
  | forRoom (sealed : x.request.finished = true) (unfinished : x.response.finished = false)
      (heard : x.response.stopped = false) (unread : x.response.taken < x.response.written.length)
  | done (sealed : x.response.finished = true) (gone : x.request.drained ∨ x.request.stopped = true)

section Waiting

variable (window : Nat) (positive : 0 < window) (payload : List UInt8)

include positive

theorem ping_moves (x : Exchange) (serverLost : Option ConnectionError) (sound : Sound payload none serverLost x)
    (opened : x.ping ≠ .opening) : (∃ after, PingStep window payload none x after) ∨ PingWaits x := by
  have asking := sound.asking
  cases point : x.ping with
  | opening => exact absurd point opened
  | writing rest =>
      rw [point] at asking
      cases asking with
      | writing _ _ _ split unfinished unread heard =>
          by_cases room : x.request.taken = x.request.written.length ∨ x.request.stopped = true
          · obtain ⟨progress, request, moved⟩ := Pipe.writes_ready (ε := ConnectionError) window positive rest x.request room
            exact .inl ⟨_, .write x rest progress request point moved⟩
          · rw [not_or, Bool.not_eq_true] at room
            exact .inr (.forRoom unfinished room.2 (Nat.lt_of_le_of_ne x.request.order room.1))
  | finishing => exact .inl ⟨_, .finish x point⟩
  | reading soFar =>
      rw [point] at asking
      cases asking with
      | reading _ _ whole sealed heard =>
          by_cases ready : x.response.taken < x.response.written.length ∨ x.response.finished = true
          · obtain ⟨progress, response, moved⟩ := Pipe.reads_ready maxPingBytes (none : Option ConnectionError)
              x.response.seen x.response ready
            exact .inl ⟨_, .read x _ progress response point moved⟩
          · rw [not_or, Bool.not_eq_true] at ready
            exact .inr (.forResponse sealed ready.2 heard (Nat.le_antisymm x.response.order (Nat.le_of_not_lt ready.1)))
  | timing echoed => exact .inl ⟨_, .elapsed x echoed ⟨0, Nat.zero_le _⟩ point⟩
  | returned result =>
      cases sealed : x.request.finished with
      | false => exact .inl ⟨_, .dropSend x result point rfl sealed⟩
      | true =>
          by_cases gone : x.response.drained ∨ x.response.stopped = true
          · exact .inr (.done result point sealed gone)
          · rw [not_or, Bool.not_eq_true] at gone
            rw [point] at asking
            have running : result ≠ .error (.read .reset) := by
              rintro rfl
              cases asking with
              | returned _ _ _ outcome front cut left quiet answered => cases outcome
            exact .inl ⟨_, .dropRecv x result point rfl gone.1 running gone.2⟩

theorem echo_moves (x : Exchange) (echoing : Echoing none x.echo x.request x.response) (intact : x.request.reset = false)
    (accepted : x.echo ≠ .queued) :
    (∃ after, EchoStep window none x after) ∨ EchoWaits x := by
  cases point : x.echo with
  | queued => exact absurd point accepted
  | reading soFar =>
      rw [point] at echoing
      cases echoing with
      | reading _ _ bounded silent unfinished taking =>
          by_cases ready : x.request.taken < x.request.written.length ∨ x.request.finished = true
          · obtain ⟨progress, request, moved⟩ := Pipe.reads_ready maxPingBytes (none : Option ConnectionError)
              x.request.seen x.request ready
            exact .inl ⟨_, .read x _ progress request point moved⟩
          · rw [not_or, Bool.not_eq_true] at ready
            exact .inr (.forRequest ready.2 taking (Nat.le_antisymm x.request.order (Nat.le_of_not_lt ready.1)))
  | writing payload rest =>
      rw [point] at echoing
      cases echoing with
      | writing _ _ _ copies drained bounded unfinished taking =>
          by_cases room : x.response.taken = x.response.written.length ∨ x.response.stopped = true
          · obtain ⟨progress, response, moved⟩ := Pipe.writes_ready (ε := ConnectionError) window positive rest x.response room
            exact .inl ⟨_, .write x _ rest progress response point moved⟩
          · rw [not_or, Bool.not_eq_true] at room
            exact .inr (.forRoom drained.1 unfinished room.2 (Nat.lt_of_le_of_ne x.response.order room.1))
  | finishing payload => exact .inl ⟨_, .finish x payload point⟩
  | returned result =>
      cases sealed : x.response.finished with
      | false => exact .inl ⟨_, .dropSend x result point rfl sealed⟩
      | true =>
          by_cases gone : x.request.drained ∨ x.request.stopped = true
          · exact .inr (.done sealed gone)
          · rw [not_or, Bool.not_eq_true] at gone
            rw [point] at echoing
            have running : result ≠ .error (.read .reset) := by
              rintro rfl
              cases echoing with
              | aborted _ _ abandoned silent taking => simp [intact] at abandoned
            exact .inl ⟨_, .dropRecv x result point rfl gone.1 running gone.2⟩

-- The two ends never wait for each other: the client has written all before
-- it reads, and the server has read all before it writes.
theorem exchange_moves (x : Exchange) (sound : Sound payload none none x) (opened : x.ping ≠ .opening)
    (accepted : x.echo ≠ .queued) :
    (∃ after, PingStep window payload none x after) ∨ (∃ after, EchoStep window none x after) ∨
      (∃ result, x.ping = .returned result) ∧ x.closed = true := by
  rcases ping_moves window positive payload x none sound opened with step | ping
  · exact .inl step
  · rcases echo_moves window positive x sound.echoing sound.intact.1 accepted with step | echo
    · exact .inr (.inl step)
    · cases ping with
      | forRoom unfinished taking unread =>
          cases echo with
          | forRequest _ _ empty => omega
          | forRoom sealed _ _ _ => simp [unfinished] at sealed
          | done _ gone => simp [Pipe.drained, unfinished, taking] at gone
      | forResponse sealed unfinished heard empty =>
          cases echo with
          | forRequest running _ _ => simp [sealed] at running
          | forRoom _ _ _ unread => omega
          | done ended _ => simp [unfinished] at ended
      | done result returned sealed gone =>
          cases echo with
          | forRequest running _ _ => simp [sealed] at running
          | forRoom _ unfinished heard _ => simp [Pipe.drained, unfinished, heard] at gone
          | done ended taken =>
              refine .inr (.inr ⟨⟨result, returned⟩, ?_⟩)
              rcases gone with ⟨_, all⟩ | refused <;> rcases taken with ⟨_, every⟩ | stopped <;>
                simp [Exchange.closed, Pipe.closed, *]

end Waiting

section Liveness

variable {ι : Type} [DecidableEq ι] (window streams : Nat) (payload : ι → List UInt8)

-- The step with which a ping leaves its first point.
def Opens (link after : Link ι) (i : ι) : Prop := (link.exchanges i).ping = .opening ∧ (after.exchanges i).ping ≠ .opening

theorem put_opens (link : Link ι) (i : ι) (x : Exchange) (j : ι) (opens : Opens link (link.put i x) j) :
    j = i ∧ (link.exchanges i).ping = .opening ∧ x.ping ≠ .opening := by
  by_cases own : j = i
  · subst own
    simpa [Opens, Link.put] using opens
  · simp [Opens, Link.put, own] at opens

theorem lost_ping_moves (link : Link ι) (error : ConnectionError) (gone : link.clientLost = some error) (i : ι)
    (waiting : ∀ result, (link.exchanges i).ping ≠ .returned result) :
    ∃ after, Work window streams payload link after ∧ ∀ j, Opens link after j → j = i := by
  have only (x : Exchange) (j : ι) (opens : Opens link (link.put i x) j) : j = i := (put_opens link i x j opens).1
  cases point : (link.exchanges i).ping with
  | opening => exact ⟨_, .unopened link i error point gone, only _⟩
  | writing rest => exact ⟨_, .client link i _ (.write _ rest _ _ point (.lost rest _ error gone)), only _⟩
  | finishing => exact ⟨_, .client link i _ (.finish _ point), only _⟩
  | reading soFar => exact ⟨_, .client link i _ (.read _ soFar _ _ point (.lost soFar _ error gone)), only _⟩
  | timing echoed => exact ⟨_, .client link i _ (.elapsed _ echoed ⟨0, Nat.zero_le _⟩ point), only _⟩
  | returned result => exact absurd point (waiting result)

-- Where all that could be done is to open another stream, the streams there are
-- have done their work.
theorem idle_link (positive : 0 < window) (link : Link ι) (sound : LinkSound payload link) (clientUp : link.clientLost = none)
    (serverUp : link.serverLost = none)
    (stuck : ∀ after, Work window streams payload link after → ∃ j, Opens link after j) :
    link.active = [] ∧ ∀ i ∈ link.opened, ∃ result, (link.exchanges i).ping = .returned result := by
  have serving : link.service = none := by
    cases ended : link.service with
    | none => rfl
    | some result =>
        obtain ⟨error, gone, _⟩ := sound.service result ended
        simp [serverUp] at gone
  have all : link.opened.take link.accepted = link.opened := by
    apply List.take_of_length_le
    by_contra more
    obtain ⟨i, next⟩ : ∃ i, link.opened[link.accepted]? = some i := ⟨_, List.getElem?_eq_getElem (Nat.lt_of_not_le more)⟩
    obtain ⟨j, opens⟩ := stuck _ (.accept link i serving next rfl)
    exact (put_opens link i _ j opens).2.2 (put_opens link i _ j opens).2.1
  have settled (i : ι) (member : i ∈ link.opened) :
      (∃ result, (link.exchanges i).ping = .returned result) ∧ (link.exchanges i).closed = true := by
    have accepted : (link.exchanges i).echo ≠ .queued := by
      intro queued
      exact (sound.queued i).mp queued (by rwa [all])
    have kept := sound.exchanges i
    rw [clientUp, serverUp] at kept
    rcases exchange_moves window positive (payload i) _ kept (sound.begun i member) accepted with
      ⟨after, step⟩ | ⟨after, step⟩ | settled
    · rw [← clientUp] at step
      obtain ⟨j, opens⟩ := stuck _ (.client link i after step)
      exact absurd (put_opens link i after j opens).2.1 (sound.begun i member)
    · rw [← serverUp] at step
      obtain ⟨j, opens⟩ := stuck _ (.server link i after step)
      exact absurd (put_opens link i after j opens).2.1 (sound.begun i member)
    · exact settled
  refine ⟨?_, fun i member => (settled i member).1⟩
  rw [Link.active, List.filter_eq_nil_iff]
  intro i member
  simp [(settled i member).2]

theorem link_moves (positive : 0 < window) (allowed : 0 < streams) (link : Link ι) (sound : LinkSound payload link)
    (noticed : link.serverLost = none ∨ link.clientLost ≠ none) (i : ι)
    (waiting : ∀ result, (link.exchanges i).ping ≠ .returned result) :
    ∃ after, Work window streams payload link after ∧ ∀ j, Opens link after j → j = i := by
  cases clientUp : link.clientLost with
  | some error => exact lost_ping_moves window streams payload link error clientUp i waiting
  | none =>
      have serverUp : link.serverLost = none := by
        rcases noticed with serverUp | lost
        · exact serverUp
        · exact absurd clientUp lost
      by_contra stuck
      rw [not_exists] at stuck
      have others (after : Link ι) (step : Work window streams payload link after) : ∃ j, Opens link after j := by
        by_contra closed
        exact stuck after ⟨step, fun j opens => absurd ⟨j, opens⟩ closed⟩
      obtain ⟨free, returned⟩ := idle_link window streams payload positive link sound clientUp serverUp others
      have absent : i ∉ link.opened := fun member => (returned i member).elim waiting
      have outside := sound.outside i absent
      cases point : (link.exchanges i).ping with
      | opening =>
          refine stuck _ ⟨.opened link i point clientUp (by rw [free]; exact allowed), fun j opens => ?_⟩
          exact (put_opens link i { link.exchanges i with ping := .opened (payload i) (.ok ()) } j opens).1
      | returned result => exact waiting result point
      | writing rest => simp [point, PingPoint.outside] at outside
      | finishing => simp [point, PingPoint.outside] at outside
      | reading soFar => simp [point, PingPoint.outside] at outside
      | timing echoed => simp [point, PingPoint.outside] at outside

variable [Fintype ι]

omit [DecidableEq ι] in
theorem start_weight : (Link.start : Link ι).weight payload = ∑ i, (4 * (payload i).length + 13) + 3 := by
  have each (i : ι) : Exchange.start.weight (payload i) = 4 * (payload i).length + 13 := by
    simp [Exchange.weight, Exchange.start, PingPoint.weight, EchoPoint.weight, flag, Pipe.unread, Pipe.empty]
  simp only [Link.weight, Link.start, each]
  rfl

omit [Fintype ι] in
theorem stuck_returned (positive : 0 < window) (allowed : 0 < streams) (link : Link ι) (sound : LinkSound payload link)
    (stuck : ∀ after, ¬ Work window streams payload link after) (noticed : link.serverLost = none ∨ link.clientLost ≠ none)
    (i : ι) : ∃ result, (link.exchanges i).ping = .returned result := by
  by_contra waiting
  rw [not_exists] at waiting
  obtain ⟨after, step, _⟩ := link_moves window streams payload positive allowed link sound noticed i waiting
  exact stuck after step

-- Left to themselves, the two programs bring every ping to its end.
theorem pings_complete :
    ∃ link, Relation.ReflTransGen (LinkStep window streams payload) Link.start link ∧
      (∀ after, ¬ Work window streams payload link after) ∧ link.clientLost = none ∧ link.serverLost = none := by
  obtain ⟨link, reach, stuck⟩ := Run.completes (Work window streams payload)
    (fun link => LinkSound payload link ∧ link.clientLost = none ∧ link.serverLost = none) (Link.weight payload)
    (fun before after holds step => ⟨work_sound window streams payload before after holds.1 step,
      by cases step <;> exact holds.2⟩)
    (fun before after holds step => work_lighter window streams payload before after holds.1 step)
    Link.start ⟨link_start payload, rfl, rfl⟩
  have holds := Run.invariant (Work window streams payload) (fun link => link.clientLost = none ∧ link.serverLost = none)
    Link.start ⟨rfl, rfl⟩ (fun before after holds step => by cases step <;> exact holds) link reach
  exact ⟨link, reach.lift id (fun before after step => .work before after step), stuck, holds⟩

theorem pings_terminate (positive : 0 < window) (allowed : 0 < streams) (states : Nat → Link ι) (start : states 0 = Link.start)
    (count : Nat) (run : ∀ n < count, LinkStep window streams payload (states n) (states (n + 1))) :
    count ≤ ∑ i, (4 * (payload i).length + 13) + 3 ∧
      ((∀ after, ¬ Work window streams payload (states count) after) →
        (states count).serverLost = none ∨ (states count).clientLost ≠ none →
          ∀ i, ∃ result, ((states count).exchanges i).ping = .returned result) := by
  obtain ⟨sound, steps⟩ := Run.bounded (LinkStep window streams payload) (LinkSound payload) (Link.weight payload)
    (link_step window streams payload) (link_step_lighter window streams payload) states
    (by rw [start]; exact link_start payload) count run
  refine ⟨?_, fun stuck noticed => stuck_returned window streams payload positive allowed _ sound stuck noticed⟩
  rw [start, start_weight payload] at steps
  omega

theorem pings_terminate_sample :
    ∃ (states : Nat → Link Unit) (count : Nat), states 0 = Link.start ∧
      (∀ n < count, LinkStep 1 1 samplePayload (states n) (states (n + 1))) ∧ count ≤ 20 ∧
      ∃ result, ((states count).exchanges ()).ping = .returned result := by
  obtain ⟨link, reach, stuck, _, serverUp⟩ := pings_complete 1 1 samplePayload
  obtain ⟨states, count, first, last, run⟩ := Run.indexed _ _ _ reach
  rw [← last] at stuck serverUp
  obtain ⟨bound, returned⟩ := pings_terminate 1 1 samplePayload (by decide) (by decide) states first count run
  exact ⟨states, count, first, run, bound, returned stuck (.inl serverUp) ()⟩

end Liveness

end Pktauth.Echo
