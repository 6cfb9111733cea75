import Pktauth.Socket.PacketSocket

set_option autoImplicit false

namespace Pktauth.Socket

open Rust Auth

-- Transmit without ecn and src_ip, which the socket does not look at.
structure Transmit where
  destination : SocketAddr
  contents : List UInt8
  segmentSize : Option Nat
deriving DecidableEq

-- What the environment answers: polling the writable future, and try_send_to.
-- A datagram is accepted whole or not at all.
inductive Writability where
  | pending
  | ready
  | failed (error : ErrorKind)
deriving DecidableEq

inductive SendOutcome where
  | accepted
  | failed (error : ErrorKind)
deriving DecidableEq

-- The async block around io.writable(): once it has completed, polling it
-- again panics.
structure WritableFuture where
  completed : Bool
deriving DecidableEq

def WritableFuture.poll (future : WritableFuture) (answer : Writability) :
    Exec (Poll (Except ErrorKind Unit) × WritableFuture) :=
  if future.completed then .error .resumed
  else
    match answer with
    | .pending => .ok (.pending, future)
    | .ready => .ok (.ready (.ok ()), ⟨true⟩)
    | .failed error => .ok (.ready (.error error), ⟨true⟩)

structure Sent where
  destination : SocketAddr
  datagram : Chunk UInt8
deriving DecidableEq

structure SendState where
  writable : Option WritableFuture
  wire : List Sent
  updates : List FetchAdd
deriving DecidableEq

def trySendTo (destination : SocketAddr) (datagram : Chunk UInt8) (wire : List Sent) :
    SendOutcome → Except ErrorKind Nat × List Sent
  | .accepted => (.ok datagram.bytes.length, wire ++ [⟨destination, datagram⟩])
  | .failed error => (.error error, wire)

def sendDatagram (destination : SocketAddr) (datagram : Chunk UInt8) (outcome : SendOutcome) (state : SendState) :
    Except ErrorKind Unit × SendState :=
  match trySendTo destination datagram state.wire outcome with
  | (.ok sent, wire) =>
      (.ok (), { state with wire := wire, updates := state.updates ++ [⟨.sent, 1⟩, ⟨.sentBytes, sent⟩] })
  | (.error error, wire) => (.error error, { state with wire := wire })

-- The for loop over the segments, with an early return on the first error.
-- As for the receive loops, none means that the call asks for one more answer.
def sendSegments (destination : SocketAddr) (datagrams : List (Chunk UInt8)) (sends : List SendOutcome) (state : SendState) :
    Option (Except ErrorKind Unit × SendState × List SendOutcome) :=
  match datagrams with
  | [] => some (.ok (), state, sends)
  | datagram :: datagrams =>
      match sends with
      | [] => none
      | outcome :: sends =>
          match sendDatagram destination datagram outcome state with
          | (.ok (), state) => sendSegments destination datagrams sends state
          | (.error error, state) => some (.error error, state, sends)

-- Without a segment size the whole contents are the one datagram, even when
-- they are empty.
def trySend (transmit : Transmit) (sends : List SendOutcome) (state : SendState) :
    Exec (Option (Except ErrorKind Unit × SendState × List SendOutcome)) :=
  match transmit.segmentSize with
  | none =>
      match sends with
      | [] => .ok none
      | outcome :: sends =>
          let (result, state) := sendDatagram transmit.destination ⟨0, transmit.contents⟩ outcome state
          .ok (some (result, state, sends))
  | some segmentSize => do
      let datagrams ← chunks transmit.contents segmentSize
      .ok (sendSegments transmit.destination datagrams sends state)

structure SendReturn where
  result : Poll (Except ErrorKind Unit)
  state : SendState
  writability : List Writability
  sends : List SendOutcome
deriving DecidableEq

def pollSend (transmit : Transmit) (writability : List Writability) (sends : List SendOutcome) (state : SendState) :
    Exec (Option SendReturn) :=
  match writability with
  | [] => .ok none
  | answer :: writability => do
      let installed := if state.writable.isNone then some ⟨false⟩ else state.writable
      let future ← expect "the writable future was just installed" installed
      let (polled, future) ← future.poll answer
      match polled with
      | .pending => .ok (some ⟨.pending, { state with writable := some future }, writability, sends⟩)
      | .ready (.error error) =>
          .ok (some ⟨.ready (.error error), { state with writable := none }, writability, sends⟩)
      | .ready (.ok ()) =>
          match ← trySend transmit sends { state with writable := none } with
          | none => .ok none
          | some (.ok (), state, sends) => .ok (some ⟨.ready (.ok ()), state, writability, sends⟩)
          | some (.error error, state, sends) =>
              if error = .wouldBlock then pollSend transmit writability sends state
              else .ok (some ⟨.ready (.ok ()), state, writability, sends⟩)

def segments (transmit : Transmit) : Exec (List Sent) := do
  let datagrams ← match transmit.segmentSize with
    | none => .ok [⟨0, transmit.contents⟩]
    | some segmentSize => chunks transmit.contents segmentSize
  .ok (datagrams.map (Sent.mk transmit.destination))

end Pktauth.Socket
