import Mathlib.Logic.Relation
import Pktauth.Lib.Pipe
import Pktauth.Lib.Routine
import Pktauth.Network.Setup
import Pktauth.Rust.Duration

set_option autoImplicit false

namespace Pktauth.Echo

open Rust Network

inductive ConnectionError where
  | versionMismatch
  | transportError
  | connectionClosed
  | applicationClosed
  | reset
  | timedOut
  | locallyClosed
  | cidsExhausted
deriving DecidableEq, Repr

-- Of Quinn's stream errors, those a stream of this crate can meet: no end
-- sends before the handshake is complete.
abbrev WriteError := Pipe.WriteFailure ConnectionError
abbrev ReadToEndError := Pipe.ReadFailure ConnectionError

inductive Error where
  | connection (error : ConnectionError)
  | write (error : WriteError)
  | read (error : ReadToEndError)
  | closedStream
  | echoMismatch (sent echoed : List UInt8)
deriving DecidableEq

-- What the two ends of a stream ask of Quinn and of the clock. The handles are
-- those of the one stream the function holds.
inductive Op where
  | openBi
  | writeAll (bytes : List UInt8)
  | finish
  | readToEnd (limit : Nat)
  | elapsed

def Op.Answer : Op → Type
  | .openBi => Except ConnectionError Unit
  | .writeAll _ => Except WriteError Unit
  | .finish => Except Unit Unit
  | .readToEnd _ => Except ReadToEndError (List UInt8)
  | .elapsed => Duration

abbrev Stream (α : Type) := ExceptT Error (Routine Op Op.Answer) α

def openBi : Stream Unit := Routine.attempt .openBi (Except.mapError Error.connection)
def writeAll (bytes : List UInt8) : Stream Unit := Routine.attempt (.writeAll bytes) (Except.mapError Error.write)
def finish : Stream Unit := Routine.attempt .finish (Except.mapError (fun _ => Error.closedStream))
def readToEnd (limit : Nat) : Stream (List UInt8) := Routine.attempt (.readToEnd limit) (Except.mapError Error.read)
def elapsed : Stream Duration := Routine.attempt .elapsed Except.ok

def echoStream : Stream Unit := do
  let payload ← readToEnd maxPingBytes
  writeAll payload
  finish

def ping (payload : List UInt8) : Stream Duration := do
  openBi
  writeAll payload
  finish
  let echoed ← readToEnd maxPingBytes
  let rtt ← elapsed
  if echoed ≠ payload then throw (.echoMismatch payload echoed)
  else return rtt

-- The loop of serve_connection: a stream goes to a task of its own, an error
-- ends the service. A connection that was closed in order is no failure.
inductive Turn (σ : Type) where
  | spawn (streams : σ)
  | leave (result : Except Error Unit)

def serveTurn {σ : Type} : Except ConnectionError σ → Turn σ
  | .ok streams => .spawn streams
  | .error .applicationClosed | .error .connectionClosed | .error .locallyClosed => .leave (.ok ())
  | .error error => .leave (.error (.connection error))

-- The points at which the two functions wait. A write and a read go on in
-- pieces, so their points carry what is left to write and what was read. The
-- payload is echo_stream's own from the end of its read until it returns.
inductive PingPoint where
  | opening
  | writing (rest : List UInt8)
  | finishing
  | reading (soFar : List UInt8)
  | timing (echoed : List UInt8)
  | returned (result : Except Error Duration)

inductive EchoPoint where
  | queued
  | reading (soFar : List UInt8)
  | writing (payload rest : List UInt8)
  | finishing (payload : List UInt8)
  | returned (result : Except Error Unit)

section Resume

variable (payload : List UInt8)

def PingPoint.opened : Except ConnectionError Unit → PingPoint
  | .ok () => .writing payload
  | .error error => .returned (.error (.connection error))

def PingPoint.wrote : Except WriteError Unit → PingPoint
  | .ok () => .finishing
  | .error error => .returned (.error (.write error))

def PingPoint.sealed : Except Unit Unit → PingPoint
  | .ok () => .reading []
  | .error () => .returned (.error .closedStream)

def PingPoint.read : Except ReadToEndError (List UInt8) → PingPoint
  | .ok echoed => .timing echoed
  | .error error => .returned (.error (.read error))

def PingPoint.timed (echoed : List UInt8) (rtt : Duration) : PingPoint :=
  if echoed ≠ payload then .returned (.error (.echoMismatch payload echoed)) else .returned (.ok rtt)

def PingPoint.next : PingPoint → Routine.Next Op Op.Answer (Except Error Duration) PingPoint
  | .opening => .call .openBi (PingPoint.opened payload)
  | .writing rest => .call (.writeAll rest) PingPoint.wrote
  | .finishing => .call .finish PingPoint.sealed
  | .reading _ => .call (.readToEnd maxPingBytes) PingPoint.read
  | .timing echoed => .call .elapsed (PingPoint.timed payload echoed)
  | .returned result => .done result

def EchoPoint.read : Except ReadToEndError (List UInt8) → EchoPoint
  | .ok payload => .writing payload payload
  | .error error => .returned (.error (.read error))

def EchoPoint.wrote : Except WriteError Unit → EchoPoint
  | .ok () => .finishing payload
  | .error error => .returned (.error (.write error))

def EchoPoint.sealed : Except Unit Unit → EchoPoint
  | .ok () => .returned (.ok ())
  | .error () => .returned (.error .closedStream)

-- A queued stream has no task yet: nothing has asked for it.
def EchoPoint.next : EchoPoint → Routine.Next Op Op.Answer (Except Error Unit) EchoPoint
  | .queued | .reading _ => .call (.readToEnd maxPingBytes) EchoPoint.read
  | .writing payload rest => .call (.writeAll rest) (EchoPoint.wrote payload)
  | .finishing _ => .call .finish EchoPoint.sealed
  | .returned result => .done result

end Resume

-- One move of such a function: a piece of what it writes is gone, or the
-- operation it waits for is answered. A piece that it reads changes nothing.
inductive Proceeds {α : Type} : Routine Op Op.Answer α → Routine Op Op.Answer α → Prop where
  | wrote (front rest : List UInt8) (resume : Except WriteError Unit → Routine Op Op.Answer α) :
      Proceeds (.call (.writeAll (front ++ rest)) resume) (.call (.writeAll rest) resume)
  | answered (op : Op) (resume : op.Answer → Routine Op Op.Answer α) (answer : op.Answer) :
      Proceeds (.call op resume) (resume answer)

theorem proceeds_answered {α π : Type} (machine : π → Routine.Next Op Op.Answer α π) (routine : Routine Op Op.Answer α)
    (point : π) (op : Op) (go : op.Answer → π) (implements : Routine.Implements machine routine point)
    (asks : machine point = .call op go) (answer : op.Answer) :
    ∃ later, Relation.ReflTransGen Proceeds routine later ∧ Routine.Implements machine later (go answer) := by
  obtain ⟨resume, rfl, goesOn⟩ := Routine.implements_call machine routine point op go implements asks
  exact ⟨resume answer, .single (.answered op resume answer), goesOn answer⟩

theorem proceeds_wrote {α π : Type} (machine : π → Routine.Next Op Op.Answer α π) (routine : Routine Op Op.Answer α)
    (point left : π) (front rest : List UInt8) (go : Except WriteError Unit → π)
    (implements : Routine.Implements machine routine point) (asks : machine point = .call (.writeAll (front ++ rest)) go)
    (asksLeft : machine left = .call (.writeAll rest) go) :
    ∃ later, Relation.ReflTransGen Proceeds routine later ∧ Routine.Implements machine later left := by
  obtain ⟨resume, rfl, goesOn⟩ := Routine.implements_call machine routine point (.writeAll (front ++ rest)) go implements asks
  exact ⟨.call (.writeAll rest) resume, .single (.wrote front rest resume), go, asksLeft, goesOn⟩

theorem echo_stream_points : Routine.Implements EchoPoint.next echoStream (.reading []) := by
  refine Routine.implements_attempt _ _ _ _ _ EchoPoint.read rfl ?_ ?_
  · rintro (_ | payload) _ ⟨⟩
    refine Routine.implements_attempt _ _ _ _ _ (EchoPoint.wrote payload) rfl ?_ ?_
    · rintro (_ | _) _ ⟨⟩
      refine Routine.implements_last _ _ _ _ EchoPoint.sealed rfl ?_
      rintro (_ | _) <;> rfl
    · rintro (_ | _) _ ⟨⟩
      rfl
  · rintro (_ | _) _ ⟨⟩
    rfl

theorem ping_points (payload : List UInt8) :
    Routine.Implements (PingPoint.next payload) (ping payload) .opening := by
  refine Routine.implements_attempt _ _ _ _ _ (PingPoint.opened payload) rfl ?_ ?_
  · rintro (_ | _) _ ⟨⟩
    refine Routine.implements_attempt _ _ _ _ _ PingPoint.wrote rfl ?_ ?_
    · rintro (_ | _) _ ⟨⟩
      refine Routine.implements_attempt _ _ _ _ _ PingPoint.sealed rfl ?_ ?_
      · rintro (_ | _) _ ⟨⟩
        refine Routine.implements_attempt _ _ _ _ _ PingPoint.read rfl ?_ ?_
        · rintro (_ | echoed) _ ⟨⟩
          refine Routine.implements_attempt _ _ _ _ _ (PingPoint.timed payload echoed) rfl ?_ nofun
          rintro rtt _ ⟨⟩
          by_cases changed : echoed ≠ payload
          · simp only [PingPoint.timed, if_pos changed]
            rfl
          · simp only [PingPoint.timed, if_neg changed]
            rfl
        · rintro (_ | _) _ ⟨⟩
          rfl
      · rintro (_ | _) _ ⟨⟩
        rfl
    · rintro (_ | _) _ ⟨⟩
      rfl
  · rintro (_ | _) _ ⟨⟩
    rfl

end Pktauth.Echo
