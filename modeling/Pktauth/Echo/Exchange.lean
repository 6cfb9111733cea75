import Pktauth.Echo.Stream

set_option autoImplicit false

namespace Pktauth.Echo

open Rust Network

-- A bidirectional stream, with the function that holds each of its ends.
structure Exchange where
  ping : PingPoint
  echo : EchoPoint
  request : Pipe UInt8
  response : Pipe UInt8

def Exchange.start : Exchange := ⟨.opening, .queued, .empty, .empty⟩

def PingPoint.writes : Pipe.Progress (List UInt8) (Except WriteError Unit) → PingPoint
  | .more rest => .writing rest
  | .answer result => .wrote result

def PingPoint.reads : Pipe.Progress (List UInt8) (Except ReadToEndError (List UInt8)) → PingPoint
  | .more soFar => .reading soFar
  | .answer result => .read result

def EchoPoint.writes (payload : List UInt8) : Pipe.Progress (List UInt8) (Except WriteError Unit) → EchoPoint
  | .more rest => .writing payload rest
  | .answer result => .wrote payload result

def EchoPoint.reads : Pipe.Progress (List UInt8) (Except ReadToEndError (List UInt8)) → EchoPoint
  | .more soFar => .reading soFar
  | .answer result => .read result

-- finish refuses a stream that was finished before.
def finishAnswer (pipe : Pipe UInt8) : Except Unit Unit := if pipe.finished then .error () else .ok ()

section Steps

variable (window : Nat) (payload : List UInt8)

-- The client's end once the stream is open. A function that has returned has
-- dropped its handles: dropping a send stream finishes it, dropping a receive
-- stream whose end or reset was not read asks the peer to stop. Neither
-- reaches the peer over a lost connection.
inductive PingStep (lost : Option ConnectionError) : Exchange → Exchange → Prop where
  | write (x : Exchange) (rest : List UInt8) (progress : Pipe.Progress (List UInt8) (Except WriteError Unit))
      (request : Pipe UInt8) (stage : x.ping = .writing rest) (moved : Pipe.Writes window lost rest x.request progress request) :
      PingStep lost x { x with ping := .writes progress, request := request }
  | finish (x : Exchange) (stage : x.ping = .finishing) :
      PingStep lost x { x with ping := .sealed (finishAnswer x.request), request := x.request.finish }
  | read (x : Exchange) (soFar : List UInt8) (progress : Pipe.Progress (List UInt8) (Except ReadToEndError (List UInt8)))
      (response : Pipe UInt8) (stage : x.ping = .reading soFar)
      (moved : Pipe.Reads maxPingBytes lost soFar x.response progress response) :
      PingStep lost x { x with ping := .reads progress, response := response }
  | elapsed (x : Exchange) (echoed : List UInt8) (rtt : Duration) (stage : x.ping = .timing echoed) :
      PingStep lost x { x with ping := .timed payload echoed rtt }
  | dropSend (x : Exchange) (result : Except Error Duration) (stage : x.ping = .returned result) (connected : lost = none)
      (unfinished : x.request.finished = false) : PingStep lost x { x with request := x.request.finish }
  | dropRecv (x : Exchange) (result : Except Error Duration) (stage : x.ping = .returned result) (connected : lost = none)
      (unread : ¬ x.response.drained) (running : result ≠ .error (.read .reset)) (heard : x.response.stopped = false) :
      PingStep lost x { x with response := x.response.stop }

inductive EchoStep (lost : Option ConnectionError) : Exchange → Exchange → Prop where
  | read (x : Exchange) (soFar : List UInt8) (progress : Pipe.Progress (List UInt8) (Except ReadToEndError (List UInt8)))
      (request : Pipe UInt8) (stage : x.echo = .reading soFar)
      (moved : Pipe.Reads maxPingBytes lost soFar x.request progress request) :
      EchoStep lost x { x with echo := .reads progress, request := request }
  | write (x : Exchange) (payload rest : List UInt8) (progress : Pipe.Progress (List UInt8) (Except WriteError Unit))
      (response : Pipe UInt8) (stage : x.echo = .writing payload rest)
      (moved : Pipe.Writes window lost rest x.response progress response) :
      EchoStep lost x { x with echo := .writes payload progress, response := response }
  | finish (x : Exchange) (payload : List UInt8) (stage : x.echo = .finishing payload) :
      EchoStep lost x { x with echo := .sealed (finishAnswer x.response), response := x.response.finish }
  | dropSend (x : Exchange) (result : Except Error Unit) (stage : x.echo = .returned result) (connected : lost = none)
      (unfinished : x.response.finished = false) : EchoStep lost x { x with response := x.response.finish }
  | dropRecv (x : Exchange) (result : Except Error Unit) (stage : x.echo = .returned result) (connected : lost = none)
      (unread : ¬ x.request.drained) (running : result ≠ .error (.read .reset)) (heard : x.request.stopped = false) :
      EchoStep lost x { x with request := x.request.stop }

end Steps

-- What a ping may have ended with, given its payload and the error with which
-- the client lost the connection, if it did.
inductive Outcome (payload : List UInt8) (lost : Option ConnectionError) : Except Error Duration → Prop where
  | echoed (rtt : Duration) (small : payload.length ≤ maxPingBytes) : Outcome payload lost (.ok rtt)
  | refused (large : maxPingBytes < payload.length) : Outcome payload lost (.error (.echoMismatch payload []))
  | stopped (large : maxPingBytes < payload.length) : Outcome payload lost (.error (.write .stopped))
  | unopened (error : ConnectionError) (gone : lost = some error) : Outcome payload lost (.error (.connection error))
  | unsent (error : ConnectionError) (gone : lost = some error) : Outcome payload lost (.error (.write (.lost error)))
  | unread (error : ConnectionError) (gone : lost = some error) : Outcome payload lost (.error (.read (.lost error)))

inductive Asking (payload : List UInt8) (lost : Option ConnectionError) : PingPoint → Pipe UInt8 → Pipe UInt8 → Prop where
  | opening : Asking payload lost .opening .empty .empty
  | writing (rest : List UInt8) (request response : Pipe UInt8) (split : request.written ++ rest = payload)
      (unfinished : request.finished = false) (unread : response.taken = 0) (heard : response.stopped = false) :
      Asking payload lost (.writing rest) request response
  | finishing (request response : Pipe UInt8) (whole : request.written = payload) (unfinished : request.finished = false)
      (unread : response.taken = 0) (heard : response.stopped = false) : Asking payload lost .finishing request response
  | reading (request response : Pipe UInt8) (whole : request.written = payload) (sealed : request.finished = true)
      (heard : response.stopped = false) : Asking payload lost (.reading response.seen) request response
  | timing (request response : Pipe UInt8) (whole : request.written = payload) (sealed : request.finished = true)
      (drained : response.drained) (heard : response.stopped = false) :
      Asking payload lost (.timing response.written) request response
  | returned (result : Except Error Duration) (request response : Pipe UInt8) (outcome : Outcome payload lost result)
      (front : request.written <+: payload)
      (cut : request.written = payload ∨ maxPingBytes < request.written.length ∨ lost ≠ none ∧ request.finished = false)
      (left : response.drained ∨ maxPingBytes < request.written.length ∨ lost ≠ none)
      (heard : response.stopped = true → maxPingBytes < request.written.length)
      (answered : ∀ rtt, result = .ok rtt → response.drained ∧ response.written = payload) :
      Asking payload lost (.returned result) request response

-- The server's end. Whatever the client does with its own, the response is a
-- copy of the request, and is only begun when all of the request was read.
inductive Echoing (lost : Option ConnectionError) : EchoPoint → Pipe UInt8 → Pipe UInt8 → Prop where
  | queued (request response : Pipe UInt8) (untouched : request.taken = 0) (silent : response.written = [])
      (unfinished : response.finished = false) (taking : request.stopped = false) : Echoing lost .queued request response
  | reading (request response : Pipe UInt8) (bounded : request.taken ≤ maxPingBytes) (silent : response.written = [])
      (unfinished : response.finished = false) (taking : request.stopped = false) :
      Echoing lost (.reading request.seen) request response
  | writing (rest : List UInt8) (request response : Pipe UInt8) (copies : response.written ++ rest = request.written)
      (drained : request.drained) (bounded : request.written.length ≤ maxPingBytes) (unfinished : response.finished = false)
      (taking : request.stopped = false) :
      Echoing lost (.writing request.written rest) request response
  | finishing (request response : Pipe UInt8) (copied : response.written = request.written) (drained : request.drained)
      (bounded : request.written.length ≤ maxPingBytes) (unfinished : response.finished = false)
      (taking : request.stopped = false) : Echoing lost (.finishing request.written) request response
  | echoed (request response : Pipe UInt8) (copied : response.written = request.written) (drained : request.drained)
      (bounded : request.written.length ≤ maxPingBytes) (sealed : response.finished = true)
      (taking : request.stopped = false) : Echoing lost (.returned (.ok ())) request response
  | tooLong (request response : Pipe UInt8) (exceeds : maxPingBytes < request.written.length) (silent : response.written = []) :
      Echoing lost (.returned (.error (.read .tooLong))) request response
  | aborted (request response : Pipe UInt8) (abandoned : request.reset = true) (silent : response.written = [])
      (taking : request.stopped = false) : Echoing lost (.returned (.error (.read .reset))) request response
  | stopped (request response : Pipe UInt8) (front : response.written <+: request.written) (drained : request.drained)
      (bounded : request.written.length ≤ maxPingBytes) (refused : response.stopped = true) (taking : request.stopped = false) :
      Echoing lost (.returned (.error (.write .stopped))) request response
  | unread (error : ConnectionError) (request response : Pipe UInt8) (gone : lost = some error)
      (bounded : request.taken ≤ maxPingBytes) (silent : response.written = []) (unfinished : response.finished = false)
      (taking : request.stopped = false) : Echoing lost (.returned (.error (.read (.lost error)))) request response
  | unsent (error : ConnectionError) (request response : Pipe UInt8) (gone : lost = some error)
      (front : response.written <+: request.written) (drained : request.drained)
      (bounded : request.written.length ≤ maxPingBytes) (unfinished : response.finished = false)
      (taking : request.stopped = false) : Echoing lost (.returned (.error (.write (.lost error)))) request response

structure Sound (payload : List UInt8) (clientLost serverLost : Option ConnectionError) (x : Exchange) : Prop where
  asking : Asking payload clientLost x.ping x.request x.response
  echoing : Echoing serverLost x.echo x.request x.response
  unopened : x.ping = .opening → x.echo = .queued
  intact : x.request.reset = false ∧ x.response.reset = false

section Frames

variable (payload : List UInt8) (clientLost serverLost : Option ConnectionError)

-- Neither end's account of the exchange is upset by what the other end does.
theorem echoing_frame (echo : EchoPoint) (request response request' response' : Pipe UInt8)
    (echoing : Echoing serverLost echo request response) (grows : Pipe.Grows request request')
    (consumed : Pipe.Consumed response response') : Echoing serverLost echo request' response' := by
  have drained := Pipe.grows_drained request request' grows
  have longer := grows.written.length_le
  cases echoing with
  | queued _ _ untouched silent unfinished taking =>
      exact .queued _ _ (grows.taken.trans untouched) (consumed.written.trans silent) (consumed.finished.trans unfinished)
        (grows.stopped.trans taking)
  | reading _ _ bounded silent unfinished taking =>
      rw [← Pipe.grows_seen request request' grows]
      exact .reading _ _ (by rw [grows.taken]; exact bounded) (consumed.written.trans silent)
        (consumed.finished.trans unfinished) (grows.stopped.trans taking)
  | writing rest _ _ copies all bounded unfinished taking =>
      have same := (grows.frozen all.1).1
      rw [← same]
      exact .writing rest _ _ (by rw [consumed.written, same]; exact copies) (drained all) (by rw [same]; exact bounded)
        (consumed.finished.trans unfinished) (grows.stopped.trans taking)
  | finishing _ _ copied all bounded unfinished taking =>
      have same := (grows.frozen all.1).1
      rw [← same]
      exact .finishing _ _ (by rw [consumed.written, same]; exact copied) (drained all) (by rw [same]; exact bounded)
        (consumed.finished.trans unfinished) (grows.stopped.trans taking)
  | echoed _ _ copied all bounded sealed taking =>
      have same := (grows.frozen all.1).1
      exact .echoed _ _ (by rw [consumed.written, same]; exact copied) (drained all) (by rw [same]; exact bounded)
        (consumed.finished.trans sealed) (grows.stopped.trans taking)
  | tooLong _ _ exceeds silent => exact .tooLong _ _ (by omega) (consumed.written.trans silent)
  | aborted _ _ abandoned silent taking =>
      exact .aborted _ _ (grows.reset abandoned) (consumed.written.trans silent) (grows.stopped.trans taking)
  | stopped _ _ front all bounded refused taking =>
      have same := (grows.frozen all.1).1
      exact .stopped _ _ (by rw [consumed.written, same]; exact front) (drained all) (by rw [same]; exact bounded)
        (consumed.stopped refused) (grows.stopped.trans taking)
  | unread error _ _ gone bounded silent unfinished taking =>
      exact .unread error _ _ gone (by rw [grows.taken]; exact bounded) (consumed.written.trans silent)
        (consumed.finished.trans unfinished) (grows.stopped.trans taking)
  | unsent error _ _ gone front all bounded unfinished taking =>
      have same := (grows.frozen all.1).1
      exact .unsent error _ _ gone (by rw [consumed.written, same]; exact front) (drained all) (by rw [same]; exact bounded)
        (consumed.finished.trans unfinished) (grows.stopped.trans taking)

theorem asking_frame (ping : PingPoint) (request response request' response' : Pipe UInt8)
    (asking : Asking payload clientLost ping request response) (opened : ping ≠ .opening)
    (grows : Pipe.Grows response response') (consumed : Pipe.Consumed request request') :
    Asking payload clientLost ping request' response' := by
  cases asking with
  | opening => exact absurd rfl opened
  | writing rest _ _ split unfinished unread heard =>
      exact .writing rest _ _ (by rw [consumed.written]; exact split) (consumed.finished.trans unfinished)
        (grows.taken.trans unread) (grows.stopped.trans heard)
  | finishing _ _ whole unfinished unread heard =>
      exact .finishing _ _ (consumed.written.trans whole) (consumed.finished.trans unfinished) (grows.taken.trans unread)
        (grows.stopped.trans heard)
  | reading _ _ whole sealed heard =>
      rw [← Pipe.grows_seen response response' grows]
      exact .reading _ _ (consumed.written.trans whole) (consumed.finished.trans sealed) (grows.stopped.trans heard)
  | timing _ _ whole sealed drained heard =>
      rw [← (grows.frozen drained.1).1]
      exact .timing _ _ (consumed.written.trans whole) (consumed.finished.trans sealed)
        (Pipe.grows_drained response response' grows drained) (grows.stopped.trans heard)
  | returned result _ _ outcome front cut left heard answered =>
      refine .returned result _ _ outcome (by rw [consumed.written]; exact front) ?_ ?_ ?_ ?_
      · rw [consumed.written, consumed.finished]
        exact cut
      · rw [consumed.written]
        exact left.imp_left (Pipe.grows_drained response response' grows)
      · rw [consumed.written, grows.stopped]
        exact heard
      · intro rtt same
        obtain ⟨drained, whole⟩ := answered rtt same
        exact ⟨Pipe.grows_drained response response' grows drained, (grows.frozen drained.1).1.trans whole⟩

end Frames

section Facts

variable (lost : Option ConnectionError) (echo : EchoPoint) (request response : Pipe UInt8)
  (echoing : Echoing lost echo request response)

include echoing

theorem response_copies : response.written <+: request.written ∧ response.written.length ≤ maxPingBytes := by
  cases echoing with
  | queued _ _ untouched silent unfinished taking => simp [silent]
  | reading _ _ bounded silent unfinished taking => simp [silent]
  | writing rest _ _ copies drained bounded unfinished taking =>
      have front : response.written <+: request.written := ⟨rest, copies⟩
      exact ⟨front, Nat.le_trans front.length_le bounded⟩
  | finishing _ _ copied drained bounded unfinished taking =>
      rw [copied]
      exact ⟨List.prefix_refl _, bounded⟩
  | echoed _ _ copied drained bounded sealed taking =>
      rw [copied]
      exact ⟨List.prefix_refl _, bounded⟩
  | tooLong _ _ exceeds silent => simp [silent]
  | aborted _ _ abandoned silent taking => simp [silent]
  | stopped _ _ front drained bounded refused taking => exact ⟨front, Nat.le_trans front.length_le bounded⟩
  | unread error _ _ gone bounded silent unfinished taking => simp [silent]
  | unsent error _ _ gone front drained bounded unfinished taking => exact ⟨front, Nat.le_trans front.length_le bounded⟩

theorem stopped_request_exceeds (refused : request.stopped = true) : maxPingBytes < request.written.length := by
  cases echoing with
  | tooLong _ _ exceeds silent => exact exceeds
  | aborted _ _ abandoned silent taking => simp [taking] at refused
  | queued _ _ untouched silent unfinished taking => simp [taking] at refused
  | reading _ _ bounded silent unfinished taking => simp [taking] at refused
  | writing rest _ _ copies drained bounded unfinished taking => simp [taking] at refused
  | finishing _ _ copied drained bounded unfinished taking => simp [taking] at refused
  | echoed _ _ copied drained bounded sealed taking => simp [taking] at refused
  | stopped _ _ front drained bounded _ taking => simp [taking] at refused
  | unread error _ _ gone bounded silent unfinished taking => simp [taking] at refused
  | unsent error _ _ gone front drained bounded unfinished taking => simp [taking] at refused

theorem finished_response (ended : response.finished = true) (heard : response.stopped = false)
    (intact : request.reset = false) :
    response.written = request.written ∧ request.written.length ≤ maxPingBytes ∨
      response.written = [] ∧ maxPingBytes < request.written.length := by
  cases echoing with
  | echoed _ _ copied drained bounded sealed taking => exact .inl ⟨copied, bounded⟩
  | tooLong _ _ exceeds silent => exact .inr ⟨silent, exceeds⟩
  | aborted _ _ abandoned silent taking => simp [intact] at abandoned
  | queued _ _ untouched silent unfinished taking => simp [unfinished] at ended
  | reading _ _ bounded silent unfinished taking => simp [unfinished] at ended
  | writing rest _ _ copies drained bounded unfinished taking => simp [unfinished] at ended
  | finishing _ _ copied drained bounded unfinished taking => simp [unfinished] at ended
  | stopped _ _ front drained bounded refused taking => simp [refused] at heard
  | unread error _ _ gone bounded silent unfinished taking => simp [unfinished] at ended
  | unsent error _ _ gone front drained bounded unfinished taking => simp [unfinished] at ended

end Facts

section Preservation

variable (window : Nat) (payload : List UInt8) (clientLost serverLost : Option ConnectionError)

structure Asked (x after : Exchange) : Prop where
  asking : Asking payload clientLost after.ping after.request after.response
  grows : Pipe.Grows x.request after.request
  intact : after.request.reset = x.request.reset
  consumed : Pipe.Consumed x.response after.response
  echo : after.echo = x.echo
  opened : after.ping ≠ .opening

theorem write_asked (x : Exchange) (rest : List UInt8) (progress : Pipe.Progress (List UInt8) (Except WriteError Unit))
    (request : Pipe UInt8) (sound : Sound payload clientLost serverLost x) (stage : x.ping = .writing rest)
    (moved : Pipe.Writes window clientLost rest x.request progress request) :
    Asked payload clientLost x { x with ping := .writes progress, request := request } := by
  have asking := sound.asking
  rw [stage] at asking
  cases asking with
  | writing _ _ _ split unfinished unread heard =>
      have grows := Pipe.writes_grows window clientLost rest x.request request progress unfinished moved
      have front : x.request.written <+: payload := ⟨rest, split⟩
      refine ⟨?_, grows.1, grows.2, Pipe.consumed_refl _, rfl, by cases moved <;> nofun⟩
      cases moved with
      | chunk chunk rest nonempty connected room =>
          exact .writing rest _ _ (by rw [Pipe.push_written, List.append_assoc]; exact split) unfinished unread heard
      | done => exact .finishing _ _ (by simpa using split) unfinished unread heard
      | stopped _ _ refused =>
          have exceeds := stopped_request_exceeds _ _ _ _ sound.echoing refused
          exact .returned _ _ _ (.stopped (Nat.lt_of_lt_of_le exceeds front.length_le)) front (.inr (.inl exceeds))
            (.inr (.inl exceeds)) (fun _ => exceeds) nofun
      | lost _ _ error gone =>
          exact .returned _ _ _ (.unsent error gone) front (.inr (.inr ⟨by simp [gone], unfinished⟩))
            (.inr (.inr (by simp [gone]))) (by simp [heard]) nofun

theorem read_asked (x : Exchange) (soFar : List UInt8)
    (progress : Pipe.Progress (List UInt8) (Except ReadToEndError (List UInt8))) (response : Pipe UInt8)
    (sound : Sound payload clientLost serverLost x) (stage : x.ping = .reading soFar)
    (moved : Pipe.Reads maxPingBytes clientLost soFar x.response progress response) :
    Asked payload clientLost x { x with ping := .reads progress, response := response } := by
  have asking := sound.asking
  rw [stage] at asking
  cases asking with
  | reading _ _ whole sealed heard =>
      have consumed := Pipe.reads_consumed maxPingBytes clientLost x.response.seen x.response response progress moved
      refine ⟨?_, Pipe.grows_refl _, rfl, consumed.1, rfl, by cases moved <;> simp [PingPoint.reads, PingPoint.read]⟩
      cases moved with
      | chunk count nonempty there fits =>
          have seen := Pipe.seen_pull x.response count there
          simp only [PingPoint.reads, ← seen]
          exact .reading _ _ whole sealed heard
      | excess count there exceeds =>
          -- The server never answers with more than it may have read.
          have bounded := (response_copies _ _ _ _ sound.echoing).2
          rw [Pipe.seen_length] at exceeds
          omega
      | ended drained =>
          have all := Pipe.seen_drained x.response drained
          simp only [PingPoint.reads, PingPoint.read, all]
          exact .timing _ _ whole sealed drained heard
      | reset abandoned => simp [sound.intact.2] at abandoned
      | lost error gone =>
          exact .returned _ _ _ (.unread error gone) (by simp [whole]) (.inl whole) (.inr (.inr (by simp [gone])))
            (by simp [heard]) (by simp)

theorem elapsed_asked (x : Exchange) (echoed : List UInt8) (rtt : Duration) (sound : Sound payload clientLost serverLost x)
    (stage : x.ping = .timing echoed) : Asked payload clientLost x { x with ping := .timed payload echoed rtt } := by
  have asking := sound.asking
  rw [stage] at asking
  cases asking with
  | timing _ _ whole sealed drained heard =>
      have settled := finished_response _ _ _ _ sound.echoing drained.1 heard sound.intact.1
      rw [whole] at settled
      refine ⟨?_, Pipe.grows_refl _, rfl, Pipe.consumed_refl _, rfl, ?_⟩
      · rcases settled with ⟨copied, small⟩ | ⟨silent, large⟩
        · simp only [PingPoint.timed, copied, ne_eq, not_true_eq_false, if_false]
          exact .returned _ _ _ (.echoed rtt small) (by simp [whole]) (.inl whole) (.inl drained) (by simp [heard])
            (fun _ _ => ⟨drained, copied⟩)
        · have changed : [] ≠ payload := by
            intro empty
            simp [← empty] at large
          simp only [PingPoint.timed, silent, if_pos changed]
          exact .returned _ _ _ (.refused large) (by simp [whole]) (.inl whole) (.inl drained) (by simp [heard])
            (by simp)
      · simp only [PingPoint.timed]
        split <;> simp

theorem ping_step_asked (x after : Exchange) (sound : Sound payload clientLost serverLost x)
    (step : PingStep window payload clientLost x after) : Asked payload clientLost x after := by
  cases step with
  | write rest progress request stage moved =>
      exact write_asked window payload clientLost serverLost x rest progress request sound stage moved
  | read soFar progress response stage moved =>
      exact read_asked payload clientLost serverLost x soFar progress response sound stage moved
  | elapsed echoed rtt stage => exact elapsed_asked payload clientLost serverLost x echoed rtt sound stage
  | finish stage =>
      have asking := sound.asking
      rw [stage] at asking
      cases asking with
      | finishing _ _ whole unfinished unread heard =>
          have answer : finishAnswer x.request = .ok () := by simp [finishAnswer, unfinished]
          have nothing : x.response.seen = [] := by rw [Pipe.seen, unread, List.take_zero]
          refine ⟨?_, Pipe.grows_finish _, rfl, Pipe.consumed_refl _, rfl, by simp [answer, PingPoint.sealed]⟩
          simp only [answer, PingPoint.sealed, ← nothing]
          exact .reading _ _ whole rfl heard
  | dropSend result stage connected unfinished =>
      have asking := sound.asking
      rw [stage] at asking
      cases asking with
      | returned _ _ _ outcome front cut left quiet answered =>
          refine ⟨?_, Pipe.grows_finish _, rfl, Pipe.consumed_refl _, rfl, by simp [stage]⟩
          rw [stage]
          refine .returned result _ _ outcome front ?_ left quiet answered
          rcases cut with whole | exceeds | ⟨gone, _⟩
          · exact .inl whole
          · exact .inr (.inl exceeds)
          · exact absurd connected gone
  | dropRecv result stage connected unread running heard =>
      have asking := sound.asking
      rw [stage] at asking
      cases asking with
      | returned _ _ _ outcome front cut left quiet answered =>
          have exceeds : maxPingBytes < x.request.written.length := by
            rcases left with drained | exceeds | gone
            · exact absurd drained unread
            · exact exceeds
            · exact absurd connected gone
          refine ⟨?_, Pipe.grows_refl _, rfl, Pipe.consumed_stop _, rfl, by simp [stage]⟩
          rw [stage]
          exact .returned result _ _ outcome front cut (.inr (.inl exceeds)) (fun _ => exceeds) answered

theorem ping_step_sound (x after : Exchange) (sound : Sound payload clientLost serverLost x)
    (step : PingStep window payload clientLost x after) : Sound payload clientLost serverLost after := by
  have asked := ping_step_asked window payload clientLost serverLost x after sound step
  refine ⟨asked.asking, ?_, fun opening => absurd opening asked.opened, asked.intact.trans sound.intact.1,
    asked.consumed.reset.trans sound.intact.2⟩
  rw [asked.echo]
  exact echoing_frame serverLost x.echo _ _ _ _ sound.echoing asked.grows asked.consumed

structure Echoed (x after : Exchange) : Prop where
  echoing : Echoing serverLost after.echo after.request after.response
  grows : Pipe.Grows x.response after.response
  intact : after.response.reset = x.response.reset
  consumed : Pipe.Consumed x.request after.request
  ping : after.ping = x.ping

theorem read_echoed (x : Exchange) (soFar : List UInt8)
    (progress : Pipe.Progress (List UInt8) (Except ReadToEndError (List UInt8))) (request : Pipe UInt8)
    (echoing : Echoing serverLost x.echo x.request x.response) (stage : x.echo = .reading soFar)
    (moved : Pipe.Reads maxPingBytes serverLost soFar x.request progress request) :
    Echoed serverLost x { x with echo := .reads progress, request := request } := by
  rw [stage] at echoing
  cases echoing with
  | reading _ _ bounded silent unfinished taking =>
      have consumed := Pipe.reads_consumed maxPingBytes serverLost x.request.seen x.request request progress moved
      refine ⟨?_, Pipe.grows_refl _, rfl, consumed.1, rfl⟩
      cases moved with
      | chunk count nonempty there fits =>
          have seen := Pipe.seen_pull x.request count there
          rw [Pipe.seen_length] at fits
          simp only [EchoPoint.reads, ← seen]
          exact .reading _ _ fits silent unfinished taking
      | excess count there exceeds =>
          rw [Pipe.seen_length] at exceeds
          exact .tooLong _ _ (Nat.lt_of_lt_of_le exceeds there) silent
      | ended drained =>
          have all := Pipe.seen_drained x.request drained
          simp only [EchoPoint.reads, EchoPoint.read, all]
          exact .writing _ _ _ (by rw [silent, List.nil_append]) drained (by rw [← drained.2]; exact bounded) unfinished taking
      | reset abandoned => exact .aborted _ _ abandoned silent taking
      | lost error gone => exact .unread error _ _ gone bounded silent unfinished taking

theorem write_echoed (x : Exchange) (payload rest : List UInt8) (progress : Pipe.Progress (List UInt8) (Except WriteError Unit))
    (response : Pipe UInt8) (echoing : Echoing serverLost x.echo x.request x.response) (stage : x.echo = .writing payload rest)
    (moved : Pipe.Writes window serverLost rest x.response progress response) :
    Echoed serverLost x { x with echo := .writes payload progress, response := response } := by
  rw [stage] at echoing
  cases echoing with
  | writing _ _ _ copies drained bounded unfinished taking =>
      have grows := Pipe.writes_grows window serverLost rest x.response response progress unfinished moved
      have front : x.response.written <+: x.request.written := ⟨rest, copies⟩
      refine ⟨?_, grows.1, grows.2, Pipe.consumed_refl _, rfl⟩
      cases moved with
      | chunk chunk rest nonempty connected room =>
          exact .writing rest _ _ (by rw [Pipe.push_written, List.append_assoc]; exact copies) drained bounded unfinished taking
      | done => exact .finishing _ _ (by simpa using copies) drained bounded unfinished taking
      | stopped _ _ refused => exact .stopped _ _ front drained bounded refused taking
      | lost _ _ error gone => exact .unsent error _ _ gone front drained bounded unfinished taking

-- A handle dropped over a live connection: the function has either answered
-- in full, or given up for a reason that leaves the connection alive.
theorem drop_send_echoed (x : Exchange) (result : Except Error Unit)
    (echoing : Echoing serverLost x.echo x.request x.response) (stage : x.echo = .returned result) (connected : serverLost = none) :
    Echoed serverLost x { x with response := x.response.finish } := by
  refine ⟨?_, Pipe.grows_finish _, rfl, Pipe.consumed_refl _, rfl⟩
  rw [stage] at echoing ⊢
  cases echoing with
  | echoed _ _ copied drained bounded sealed taking => exact .echoed _ _ copied drained bounded rfl taking
  | tooLong _ _ exceeds silent => exact .tooLong _ _ exceeds silent
  | aborted _ _ abandoned silent taking => exact .aborted _ _ abandoned silent taking
  | stopped _ _ front drained bounded refused taking => exact .stopped _ _ front drained bounded refused taking
  | unread error _ _ gone bounded silent unfinished taking => simp [connected] at gone
  | unsent error _ _ gone front drained bounded unfinished taking => simp [connected] at gone

theorem drop_recv_echoed (x : Exchange) (result : Except Error Unit)
    (echoing : Echoing serverLost x.echo x.request x.response) (stage : x.echo = .returned result) (connected : serverLost = none)
    (unread : ¬ x.request.drained) (running : result ≠ .error (.read .reset)) :
    Echoed serverLost x { x with request := x.request.stop } := by
  refine ⟨?_, Pipe.grows_refl _, rfl, Pipe.consumed_stop _, rfl⟩
  rw [stage] at echoing ⊢
  cases echoing with
  | echoed _ _ copied drained bounded sealed taking => exact absurd drained unread
  | tooLong _ _ exceeds silent => exact .tooLong _ _ exceeds silent
  | aborted _ _ abandoned silent taking => exact absurd rfl running
  | stopped _ _ front drained bounded refused taking => exact absurd drained unread
  | unread error _ _ gone bounded silent unfinished taking => simp [connected] at gone
  | unsent error _ _ gone front drained bounded unfinished taking => simp [connected] at gone

theorem echo_step_echoed (x after : Exchange) (echoing : Echoing serverLost x.echo x.request x.response)
    (step : EchoStep window serverLost x after) : Echoed serverLost x after := by
  cases step with
  | read soFar progress request stage moved => exact read_echoed serverLost x soFar progress request echoing stage moved
  | write payload rest progress response stage moved =>
      exact write_echoed window serverLost x payload rest progress response echoing stage moved
  | dropSend result stage connected unfinished => exact drop_send_echoed serverLost x result echoing stage connected
  | dropRecv result stage connected unread running heard =>
      exact drop_recv_echoed serverLost x result echoing stage connected unread running
  | finish payload stage =>
      rw [stage] at echoing
      cases echoing with
      | finishing _ _ copied drained bounded unfinished taking =>
          have answer : finishAnswer x.response = .ok () := by simp [finishAnswer, unfinished]
          refine ⟨?_, Pipe.grows_finish _, rfl, Pipe.consumed_refl _, rfl⟩
          simp only [answer, EchoPoint.sealed]
          exact .echoed _ _ copied drained bounded rfl taking

theorem echo_step_accepted (x after : Exchange) (step : EchoStep window serverLost x after) : x.echo ≠ .queued := by
  cases step with
  | read soFar progress request stage moved => simp [stage]
  | write payload rest progress response stage moved => simp [stage]
  | finish payload stage => simp [stage]
  | dropSend result stage connected unfinished => simp [stage]
  | dropRecv result stage connected unread running heard => simp [stage]

theorem echo_step_working (x after : Exchange) (step : EchoStep window serverLost x after) : after.echo ≠ .queued := by
  cases step with
  | read soFar progress request stage moved => cases moved <;> nofun
  | write payload rest progress response stage moved => cases moved <;> nofun
  | finish payload stage =>
      simp only [finishAnswer]
      split <;> nofun
  | dropSend result stage connected unfinished => simp [stage]
  | dropRecv result stage connected unread running heard => simp [stage]

theorem echo_step_sound (x after : Exchange) (sound : Sound payload clientLost serverLost x)
    (step : EchoStep window serverLost x after) : Sound payload clientLost serverLost after := by
  have echoed := echo_step_echoed window serverLost x after sound.echoing step
  have opened : x.ping ≠ .opening := fun opening =>
    echo_step_accepted window serverLost x after step (sound.unopened opening)
  refine ⟨?_, echoed.echoing, ?_, echoed.consumed.reset.trans sound.intact.1, echoed.intact.trans sound.intact.2⟩
  · rw [echoed.ping]
    exact asking_frame payload clientLost x.ping _ _ _ _ sound.asking opened echoed.grows echoed.consumed
  · rw [echoed.ping]
    exact fun opening => absurd opening opened

theorem open_sound (x : Exchange) (answer : Except ConnectionError Unit) (sound : Sound payload clientLost serverLost x)
    (stage : x.ping = .opening) (refused : ∀ error, answer = .error error → clientLost = some error) :
    Sound payload clientLost serverLost { x with ping := .opened payload answer } := by
  have asking := sound.asking
  rw [stage] at asking
  obtain ⟨ping, echo, request, response⟩ := x
  cases asking
  refine ⟨?_, sound.echoing, fun opening => (by cases answer <;> cases opening), sound.intact⟩
  cases answer with
  | ok => exact .writing payload _ _ rfl rfl rfl rfl
  | error error =>
      have gone := refused error rfl
      exact .returned _ _ _ (.unopened error gone) List.nil_prefix (.inr (.inr ⟨by simp [gone], rfl⟩))
        (.inr (.inr (by simp [gone]))) nofun nofun

theorem accept_sound (x : Exchange) (sound : Sound payload clientLost serverLost x) (opened : x.ping ≠ .opening)
    (stage : x.echo = .queued) : Sound payload clientLost serverLost { x with echo := .reading [] } := by
  have echoing := sound.echoing
  rw [stage] at echoing
  cases echoing with
  | queued _ _ untouched silent unfinished taking =>
      have nothing : x.request.seen = [] := by rw [Pipe.seen, untouched, List.take_zero]
      refine ⟨sound.asking, ?_, fun opening => absurd opening opened, sound.intact⟩
      simp only [← nothing]
      exact .reading _ _ (by omega) silent unfinished taking

end Preservation

-- The steps are those of the two functions as they are written: each takes the
-- point of a routine to the point of one that it can go on as.
section Program

variable (window : Nat) (payload : List UInt8) (lost : Option ConnectionError)

theorem ping_step_proceeds (x after : Exchange) (step : PingStep window payload lost x after)
    (routine : Routine Op Op.Answer (Except Error Duration))
    (implements : Routine.Implements (PingPoint.next payload) routine x.ping) :
    ∃ later, Relation.ReflTransGen Proceeds routine later ∧
      Routine.Implements (PingPoint.next payload) later after.ping := by
  cases step with
  | write rest progress request stage moved =>
      rw [stage] at implements
      cases moved with
      | chunk front rest nonempty connected room =>
          exact proceeds_wrote _ routine _ (.writing rest) front rest PingPoint.wrote implements rfl rfl
      | done => exact proceeds_answered _ routine _ (.writeAll []) PingPoint.wrote implements rfl (.ok ())
      | stopped _ _ refused => exact proceeds_answered _ routine _ (.writeAll rest) PingPoint.wrote implements rfl (.error .stopped)
      | lost _ _ error gone => exact proceeds_answered _ routine _ (.writeAll rest) PingPoint.wrote implements rfl (.error (.lost error))
  | finish stage =>
      rw [stage] at implements
      exact proceeds_answered _ routine _ .finish PingPoint.sealed implements rfl (finishAnswer x.request)
  | read soFar progress response stage moved =>
      rw [stage] at implements
      cases progress with
      | more more =>
          obtain ⟨resume, rfl, goesOn⟩ := Routine.implements_call _ routine _ (.readToEnd maxPingBytes) PingPoint.read implements rfl
          exact ⟨_, .refl, PingPoint.read, rfl, goesOn⟩
      | answer result => exact proceeds_answered _ routine _ (.readToEnd maxPingBytes) PingPoint.read implements rfl result
  | elapsed echoed rtt stage =>
      rw [stage] at implements
      exact proceeds_answered _ routine _ .elapsed (PingPoint.timed payload echoed) implements rfl rtt
  | dropSend result stage connected unfinished => exact ⟨routine, .refl, implements⟩
  | dropRecv result stage connected unread running heard => exact ⟨routine, .refl, implements⟩

theorem ping_step_echo (x after : Exchange) (step : PingStep window payload lost x after) : after.echo = x.echo := by
  cases step <;> rfl

theorem echo_step_ping (x after : Exchange) (step : EchoStep window lost x after) : after.ping = x.ping := by
  cases step <;> rfl

theorem echo_step_proceeds (x after : Exchange) (step : EchoStep window lost x after)
    (routine : Routine Op Op.Answer (Except Error Unit)) (implements : Routine.Implements EchoPoint.next routine x.echo) :
    ∃ later, Relation.ReflTransGen Proceeds routine later ∧ Routine.Implements EchoPoint.next later after.echo := by
  cases step with
  | read soFar progress request stage moved =>
      rw [stage] at implements
      cases progress with
      | more more =>
          obtain ⟨resume, rfl, goesOn⟩ := Routine.implements_call _ routine _ (.readToEnd maxPingBytes) EchoPoint.read implements rfl
          exact ⟨_, .refl, EchoPoint.read, rfl, goesOn⟩
      | answer result => exact proceeds_answered _ routine _ (.readToEnd maxPingBytes) EchoPoint.read implements rfl result
  | write payload rest progress response stage moved =>
      rw [stage] at implements
      cases moved with
      | chunk front rest nonempty connected room =>
          exact proceeds_wrote _ routine _ (.writing payload rest) front rest (EchoPoint.wrote payload) implements rfl rfl
      | done => exact proceeds_answered _ routine _ (.writeAll []) (EchoPoint.wrote payload) implements rfl (.ok ())
      | stopped _ _ refused => exact proceeds_answered _ routine _ (.writeAll rest) (EchoPoint.wrote payload) implements rfl (.error .stopped)
      | lost _ _ error gone =>
          exact proceeds_answered _ routine _ (.writeAll rest) (EchoPoint.wrote payload) implements rfl (.error (.lost error))
  | finish payload stage =>
      rw [stage] at implements
      exact proceeds_answered _ routine _ .finish EchoPoint.sealed implements rfl (finishAnswer x.response)
  | dropSend result stage connected unfinished => exact ⟨routine, .refl, implements⟩
  | dropRecv result stage connected unread running heard => exact ⟨routine, .refl, implements⟩

end Program

section Losses

variable (payload : List UInt8) (clientLost serverLost : Option ConnectionError) (error : ConnectionError)

theorem asking_lost (ping : PingPoint) (request response : Pipe UInt8) (asking : Asking payload none ping request response) :
    Asking payload (some error) ping request response := by
  cases asking with
  | opening => exact .opening
  | writing rest _ _ split unfinished unread heard => exact .writing rest _ _ split unfinished unread heard
  | finishing _ _ whole unfinished unread heard => exact .finishing _ _ whole unfinished unread heard
  | reading _ _ whole sealed heard => exact .reading _ _ whole sealed heard
  | timing _ _ whole sealed drained heard => exact .timing _ _ whole sealed drained heard
  | returned result _ _ outcome front cut left quiet answered =>
      refine .returned result _ _ ?_ front ?_ ?_ quiet answered
      · cases outcome with
        | echoed rtt small => exact .echoed rtt small
        | refused large => exact .refused large
        | stopped large => exact .stopped large
        | unopened error gone => cases gone
        | unsent error gone => cases gone
        | unread error gone => cases gone
      · rcases cut with whole | exceeds | ⟨gone, _⟩
        · exact .inl whole
        · exact .inr (.inl exceeds)
        · exact absurd rfl gone
      · rcases left with drained | exceeds | gone
        · exact .inl drained
        · exact .inr (.inl exceeds)
        · exact absurd rfl gone

theorem echoing_lost (echo : EchoPoint) (request response : Pipe UInt8) (echoing : Echoing none echo request response) :
    Echoing (some error) echo request response := by
  cases echoing with
  | queued _ _ untouched silent unfinished taking => exact .queued _ _ untouched silent unfinished taking
  | reading _ _ bounded silent unfinished taking => exact .reading _ _ bounded silent unfinished taking
  | writing rest _ _ copies drained bounded unfinished taking =>
      exact .writing rest _ _ copies drained bounded unfinished taking
  | finishing _ _ copied drained bounded unfinished taking => exact .finishing _ _ copied drained bounded unfinished taking
  | echoed _ _ copied drained bounded sealed taking => exact .echoed _ _ copied drained bounded sealed taking
  | tooLong _ _ exceeds silent => exact .tooLong _ _ exceeds silent
  | aborted _ _ abandoned silent taking => exact .aborted _ _ abandoned silent taking
  | stopped _ _ front drained bounded refused taking => exact .stopped _ _ front drained bounded refused taking
  | unread error _ _ gone bounded silent unfinished taking => cases gone
  | unsent error _ _ gone front drained bounded unfinished taking => cases gone

end Losses

end Pktauth.Echo
