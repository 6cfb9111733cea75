import Pktauth.Socket.PacketSocket

set_option autoImplicit false

namespace Pktauth.Socket

open Rust Auth

-- RecvMeta without the fields that plain recv_from cannot fill in: those stay
-- at their defaults and nothing reads them.
structure RecvMeta where
  addr : SocketAddr
  len : Nat
  stride : Nat
deriving DecidableEq

def RecvMeta.default : RecvMeta := ⟨⟨.v6 (filled 16 0), 0⟩, 0, 0⟩

inductive Readiness where
  | notReady
  | ready
  | failed (error : ErrorKind)
deriving DecidableEq

inductive RecvOutcome where
  | datagram (bytes : List UInt8) (addr : SocketAddr)
  | failed (error : ErrorKind)
deriving DecidableEq

-- A datagram longer than the buffer loses its tail, as recvfrom truncates.
def tryRecvFrom (buf : List UInt8) : RecvOutcome → Except ErrorKind (Nat × SocketAddr) × List UInt8
  | .datagram bytes addr =>
      let len := min bytes.length buf.length
      (.ok (len, addr), bytes.take buf.length ++ buf.drop len)
  | .failed error => (.error error, buf)

structure RecvState where
  bufs : List (List UInt8)
  metas : List RecvMeta
  filled : Nat
  updates : List FetchAdd
deriving DecidableEq

inductive Flow where
  | next
  | leave
  | fail (error : ErrorKind)
deriving DecidableEq

variable (aes : Cipher UInt8) (authenticator : Option Authenticator)

-- The check inside the Ok arm. A socket without an authenticator skips it.
def authenticate (buf : List UInt8) (len : Nat) (addr : SocketAddr) : Exec Bool :=
  match authenticator with
  | none => .ok true
  | some authenticator => do
      let datagram ← expect "try_recv_from cannot report more bytes than the buffer holds" (sliceGet buf 0 len)
      let result ← authenticator.check aes datagram addr.ip
      match result with
      | .error _ => .ok false
      | .ok () => .ok true

def receive (buf : List UInt8) (outcome : RecvOutcome) (state : RecvState) : Exec (Flow × RecvState) :=
  match tryRecvFrom buf outcome with
  | (.ok (len, addr), buf) => do
      let state := { state with
        bufs := state.bufs.set state.filled buf
        updates := state.updates ++ [⟨.received, 1⟩, ⟨.receivedBytes, len⟩] }
      if ← authenticate aes authenticator buf len addr then
        match state.metas[state.filled]? with
        | none => .ok (.leave, state)
        | some _ =>
            let entry := { RecvMeta.default with addr := addr, len := len, stride := len }
            .ok (.next, { state with metas := state.metas.set state.filled entry, filled := state.filled + 1 })
      else .ok (.next, { state with updates := state.updates ++ [⟨.rejected, 1⟩] })
  | (.error error, _) =>
      if error = .wouldBlock then .ok (.leave, state)
      else if isTransient error then .ok (.leave, state)
      else if state.filled > 0 then .ok (.leave, state)
      else .ok (.fail error, state)

-- The loops run on the answers given so far. None means that the call has
-- used them all up and is asking for one more: it has not returned.
def recvLoop (recv : List RecvOutcome) (state : RecvState) : Exec (Option (Flow × RecvState × List RecvOutcome)) :=
  match state.bufs[state.filled]? with
  | none => .ok (some (.leave, state, recv))
  | some buf =>
      match recv with
      | [] => .ok none
      | outcome :: recv => do
          match ← receive aes authenticator buf outcome state with
          | (.next, state) => recvLoop recv state
          | (flow, state) => .ok (some (flow, state, recv))

structure RecvReturn where
  result : Poll (Except ErrorKind Nat)
  state : RecvState
  ready : List Readiness
  recv : List RecvOutcome
deriving DecidableEq

def pollRecv (ready : List Readiness) (recv : List RecvOutcome) (state : RecvState) : Exec (Option RecvReturn) :=
  match ready with
  | [] => .ok none
  | .notReady :: ready => .ok (some ⟨.pending, state, ready, recv⟩)
  | .failed error :: ready => .ok (some ⟨.ready (.error error), state, ready, recv⟩)
  | .ready :: ready => do
      match ← recvLoop aes authenticator recv { state with filled := 0 } with
      | none => .ok none
      | some (.fail error, state, recv) => .ok (some ⟨.ready (.error error), state, ready, recv⟩)
      | some (_, state, recv) =>
          if state.filled > 0 then .ok (some ⟨.ready (.ok state.filled), state, ready, recv⟩)
          else pollRecv ready recv state

end Pktauth.Socket
