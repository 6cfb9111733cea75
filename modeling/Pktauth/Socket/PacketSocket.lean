import Pktauth.Auth.Verify

set_option autoImplicit false

namespace Pktauth.Socket

open Rust Auth

inductive ErrorKind where
  | wouldBlock
  | connectionRefused
  | connectionReset
  | hostUnreachable
  | networkUnreachable
  | other (code : Nat)
deriving DecidableEq, Repr

def isTransient : ErrorKind → Bool
  | .connectionRefused | .connectionReset | .hostUnreachable | .networkUnreachable => true
  | .wouldBlock | .other _ => false

inductive Poll (α : Type) where
  | pending
  | ready (value : α)
deriving DecidableEq

inductive Counter where
  | sent
  | sentBytes
  | received
  | receivedBytes
  | rejected
deriving DecidableEq, Repr

structure Counters where
  sent : UInt64 := 0
  sentBytes : UInt64 := 0
  received : UInt64 := 0
  receivedBytes : UInt64 := 0
  rejected : UInt64 := 0
deriving DecidableEq, Repr

def Counters.load (counters : Counters) : Counter → UInt64
  | .sent => counters.sent
  | .sentBytes => counters.sentBytes
  | .received => counters.received
  | .receivedBytes => counters.receivedBytes
  | .rejected => counters.rejected

-- One fetch_add on one of the atomic counters. The calls below record theirs
-- in program order; the counters are what the recorded updates add up to.
structure FetchAdd where
  counter : Counter
  amount : Nat
deriving DecidableEq, Repr

def Counters.fetchAdd (counters : Counters) (update : FetchAdd) : Counters :=
  let amount := UInt64.ofNat update.amount
  match update.counter with
  | .sent => { counters with sent := counters.sent + amount }
  | .sentBytes => { counters with sentBytes := counters.sentBytes + amount }
  | .received => { counters with received := counters.received + amount }
  | .receivedBytes => { counters with receivedBytes := counters.receivedBytes + amount }
  | .rejected => { counters with rejected := counters.rejected + amount }

def Counters.after (counters : Counters) (updates : List FetchAdd) : Counters := updates.foldl Counters.fetchAdd counters

def total (counter : Counter) : List FetchAdd → Nat
  | [] => 0
  | update :: rest => (if update.counter = counter then update.amount else 0) + total counter rest

theorem load_fetch_add (counters : Counters) (update : FetchAdd) (counter : Counter) :
    (counters.fetchAdd update).load counter =
      counters.load counter + UInt64.ofNat (if update.counter = counter then update.amount else 0) := by
  obtain ⟨target, amount⟩ := update
  cases target <;> cases counter <;> simp [Counters.fetchAdd, Counters.load]

theorem load_after (counters : Counters) (updates : List FetchAdd) (counter : Counter) :
    (counters.after updates).load counter = counters.load counter + UInt64.ofNat (total counter updates) := by
  induction updates generalizing counters with
  | nil => simp [Counters.after, total]
  | cons update rest ih =>
      have next := ih (counters.fetchAdd update)
      simp only [Counters.after, List.foldl_cons] at next ⊢
      rw [next, load_fetch_add, total, UInt64.ofNat_add, UInt64.add_assoc]

theorem total_append (counter : Counter) (a b : List FetchAdd) : total counter (a ++ b) = total counter a + total counter b := by
  induction a with
  | nil => simp [total]
  | cons update rest ih => simp [total, ih, Nat.add_assoc]

-- The socket as the crate sees it: the file descriptor is the environment.
structure PacketSocket where
  authenticator : Option Authenticator
  counters : Counters
deriving DecidableEq

def PacketSocket.bind (authenticator : Option Authenticator) : PacketSocket := ⟨authenticator, {}⟩

def PacketSocket.record (socket : PacketSocket) (updates : List FetchAdd) : PacketSocket :=
  { socket with counters := socket.counters.after updates }

end Pktauth.Socket
