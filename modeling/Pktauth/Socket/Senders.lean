import Pktauth.Lib.Caller
import Pktauth.Socket.Crossing

set_option autoImplicit false

namespace Pktauth.Socket

open Rust Auth

-- One datagram of a sender, answer by answer.
section Answers

variable (transmit : Transmit) (more : List Writability) (sends : List SendOutcome) (state : SendState)
  (pollable : Pollable state.writable)

include pollable

theorem poll_send_waits :
    pollSend transmit (.pending :: more) sends state =
      .ok (some ⟨.pending, { state with writable := some ⟨false⟩ }, more, sends⟩) := by
  rw [pollSend]
  simp only [pollable_installed state.writable pollable, expect_some, exec_bind_ok]
  rfl

variable (single : transmit.segmentSize = none)

include single

theorem poll_send_asks : pollSend transmit (.ready :: more) [] state = .ok none := by
  rw [pollSend]
  simp only [pollable_installed state.writable pollable, expect_some, exec_bind_ok, WritableFuture.poll, Bool.false_eq_true,
    if_false, trySend, single]

theorem poll_send_accepted :
    pollSend transmit (.ready :: more) (.accepted :: sends) state =
      .ok (some ⟨.ready (.ok ()), SendState.took { state with writable := none } [⟨transmit.destination, ⟨0, transmit.contents⟩⟩],
        more, sends⟩) := by
  rw [pollSend]
  simp only [pollable_installed state.writable pollable, expect_some, exec_bind_ok, WritableFuture.poll, Bool.false_eq_true,
    if_false, trySend, single, sendDatagram, trySendTo]
  rfl

theorem poll_send_blocked :
    pollSend transmit (.ready :: more) (.failed .wouldBlock :: sends) state =
      pollSend transmit more sends { state with writable := none } := by
  rw [pollSend]
  simp only [pollable_installed state.writable pollable, expect_some, exec_bind_ok, WritableFuture.poll, Bool.false_eq_true,
    if_false, trySend, single, sendDatagram, trySendTo, if_true]

theorem poll_send_dropped (error : ErrorKind) (hard : error ≠ .wouldBlock) :
    pollSend transmit (.ready :: more) (.failed error :: sends) state =
      .ok (some ⟨.ready (.ok ()), { state with writable := none }, more, sends⟩) := by
  rw [pollSend]
  simp only [pollable_installed state.writable pollable, expect_some, exec_bind_ok, WritableFuture.poll, Bool.false_eq_true,
    if_false, trySend, single, sendDatagram, trySendTo, if_neg hard]

end Answers

def writability : Bool → Writability
  | true => .ready
  | false => .pending

def sendAnswer : Option SendOutcome → SendOutcome
  | some outcome => outcome
  | none => .failed .wouldBlock

structure Pending where
  transmit : Transmit
  writable : Option WritableFuture

def Pending.state (pending : Pending) : SendState := ⟨pending.writable, [], []⟩

-- The two questions of a call for one datagram. At the second it is where it
-- was at the first, with the answer that the socket is writable before it.
def AtWritable (pending : Pending) (ready : List Bool) (got : List (Option SendOutcome)) : Prop :=
  pending.transmit.segmentSize = none ∧ ∃ state, Pollable state.writable ∧ ∀ more sends,
    pollSend pending.transmit (ready.map writability ++ more) (got.map sendAnswer ++ sends) pending.state =
      pollSend pending.transmit more sends state

def AtSend (pending : Pending) (ready : List Bool) (got : List (Option SendOutcome)) : Prop :=
  pending.transmit.segmentSize = none ∧ ∃ state, Pollable state.writable ∧ ∀ more sends,
    pollSend pending.transmit (ready.map writability ++ more) (got.map sendAnswer ++ sends) pending.state =
      pollSend pending.transmit (.ready :: more) sends state

structure Sending where
  todo : List Transmit
  writable : Option WritableFuture
  past : List (SendCall × SendReturn)

def Sending.calls (sending : Sending) : List SendCall := sending.past.map Prod.fst

def Sending.returns (sending : Sending) : List SendReturn := sending.past.map Prod.snd

-- The task goes on to the next transmit when the call for this one is ready,
-- and calls again for the same one when it was pending.
def sending : Client Sending Pending SendOutcome SendReturn where
  call sending := sending.todo.head?.map (fun transmit => ⟨transmit, sending.writable⟩)
  play pending ready got :=
    match pollSend pending.transmit (ready.map writability) (got.map sendAnswer) pending.state with
    | .ok (some returned) => if returned.writability = [] ∧ returned.sends = [] then some returned else none
    | .ok none | .error _ => none
  pending returned := decide (returned.result = .pending)
  advance sending ready got returned :=
    match sending.todo with
    | [] => sending
    | transmit :: rest =>
        ⟨if returned.result = .pending then transmit :: rest else rest, returned.state.writable,
          sending.past ++ [(⟨transmit, ready.map writability, got.map sendAnswer⟩, returned)]⟩

-- The kernel's side: how many more datagrams the send buffer takes. Any send
-- may also fail for a reason of its own.
def Full (room : Nat) : Prop := room = 0

inductive Accept : Nat → SendOutcome → Nat → Prop where
  | take (room : Nat) : Accept (room + 1) .accepted room
  | drop (room : Nat) (error : ErrorKind) (hard : error ≠ .wouldBlock) : Accept room (.failed error) room

inductive Drain (capacity : Nat) : Nat → Nat → Prop where
  | one (room : Nat) (occupied : room < capacity) : Drain capacity room (room + 1)

def Sending.finished (sending : Sending) : List Transmit :=
  (sending.past.filter (fun pair => pair.2.result ≠ .pending)).map (fun pair => pair.1.transmit)

structure Sending.Sound (socket : PacketSocket) (sending : Sending) : Prop where
  run : ∃ final, SendRun (createSender socket) sending.calls final sending.returns ∧ final.writable = sending.writable
  pollable : Pollable sending.writable
  single : (∀ transmit ∈ sending.todo, transmit.segmentSize = none) ∧ ∀ call ∈ sending.calls, call.Single
  answers : ∀ returned ∈ sending.returns, returned.result = .pending ∨ returned.result = .ready (.ok ())

def Sending.Told (sending : Sending) : Prop := ∃ last, sending.returns.getLast? = some last ∧ last.result = .pending

theorem sending_calls (state : Sending) (pending : Pending) (calls : sending.call state = some pending) :
    ∃ rest, state.todo = pending.transmit :: rest ∧ pending.writable = state.writable := by
  simp only [sending, Option.map_eq_some_iff] at calls
  obtain ⟨transmit, first, rfl⟩ := calls
  cases todo : state.todo with
  | nil => simp [todo] at first
  | cons head rest =>
      rw [todo, List.head?_cons, Option.some.injEq] at first
      exact ⟨rest, by rw [first], rfl⟩

theorem sending_returned (pending : Pending) (ready : List Bool) (got : List (Option SendOutcome)) (returned : SendReturn)
    (played : sending.play pending ready got = some returned) :
    pollSend pending.transmit (ready.map writability) (got.map sendAnswer) pending.state = .ok (some returned) ∧
      returned.writability = [] ∧ returned.sends = [] := by
  simp only [sending] at played
  split at played
  · next value polled =>
      by_cases used : value.writability = [] ∧ value.sends = []
      · rw [if_pos used, Option.some.injEq] at played
        subst played
        exact ⟨polled, used⟩
      · rw [if_neg used] at played
        cases played
  · cases played
  · cases played

theorem returned_sending (pending : Pending) (ready : List Bool) (got : List (Option SendOutcome))
    (result : Poll (Except ErrorKind Unit)) (state : SendState)
    (polled : pollSend pending.transmit (ready.map writability) (got.map sendAnswer) pending.state =
      .ok (some ⟨result, state, [], []⟩)) : sending.play pending ready got = some ⟨result, state, [], []⟩ := by
  simp only [sending, polled, and_self, if_true]

theorem unreturned_sending (pending : Pending) (ready : List Bool) (got : List (Option SendOutcome))
    (polled : pollSend pending.transmit (ready.map writability) (got.map sendAnswer) pending.state = .ok none) :
    sending.play pending ready got = none := by
  simp only [sending, polled]

theorem at_writable_waits (pending : Pending) (ready : List Bool) (got : List (Option SendOutcome))
    (polling : AtWritable pending ready got) :
    ∃ state, sending.play pending (ready ++ [false]) got = some ⟨.pending, state, [], []⟩ := by
  obtain ⟨_, state, pollable, goesOn⟩ := polling
  refine ⟨{ state with writable := some ⟨false⟩ }, returned_sending pending _ got .pending _ ?_⟩
  rw [List.map_append, ← List.append_nil (got.map sendAnswer), goesOn]
  exact poll_send_waits pending.transmit [] [] state pollable

theorem at_writable_passes (pending : Pending) (ready : List Bool) (got : List (Option SendOutcome))
    (polling : AtWritable pending ready got) : AtSend pending (ready ++ [true]) got := by
  obtain ⟨single, state, pollable, goesOn⟩ := polling
  refine ⟨single, state, pollable, ?_⟩
  intro more sends
  rw [List.map_append, List.append_assoc, goesOn]
  rfl

theorem at_send_asks (pending : Pending) (ready : List Bool) (more : List Writability) (got : List (Option SendOutcome))
    (reading : AtSend pending ready got) :
    pollSend pending.transmit (ready.map writability ++ more) (got.map sendAnswer) pending.state = .ok none := by
  obtain ⟨single, state, pollable, goesOn⟩ := reading
  rw [← List.append_nil (got.map sendAnswer), goesOn]
  exact poll_send_asks pending.transmit more state pollable single

theorem at_send_blocked (pending : Pending) (ready : List Bool) (got : List (Option SendOutcome))
    (reading : AtSend pending ready got) : AtWritable pending ready (got ++ [none]) := by
  obtain ⟨single, state, pollable, goesOn⟩ := reading
  refine ⟨single, { state with writable := none }, nofun, ?_⟩
  intro more sends
  rw [List.map_append, List.append_assoc, goesOn]
  exact poll_send_blocked pending.transmit more sends state pollable single

theorem at_send_served (pending : Pending) (ready : List Bool) (got : List (Option SendOutcome)) (room next : Nat)
    (outcome : SendOutcome) (reading : AtSend pending ready got) (served : Accept room outcome next) :
    ∃ state, sending.play pending ready (got ++ [some outcome]) = some ⟨.ready (.ok ()), state, [], []⟩ := by
  obtain ⟨single, state, pollable, goesOn⟩ := reading
  have answered (final : SendState) (polled : pollSend pending.transmit [.ready] [outcome] state =
      .ok (some ⟨.ready (.ok ()), final, [], []⟩)) :
      sending.play pending ready (got ++ [some outcome]) = some ⟨.ready (.ok ()), final, [], []⟩ := by
    apply returned_sending
    rw [List.map_append, ← List.append_nil (ready.map writability), goesOn]
    exact polled
  cases served with
  | take => exact ⟨_, answered _ (poll_send_accepted pending.transmit [] [] state pollable single)⟩
  | drop _ error hard => exact ⟨_, answered _ (poll_send_dropped pending.transmit [] [] state pollable single error hard)⟩

theorem at_writable_asks (pending : Pending) (ready : List Bool) (got : List (Option SendOutcome))
    (polling : AtWritable pending ready got) : sending.play pending ready got = none := by
  obtain ⟨_, state, pollable, goesOn⟩ := polling
  apply unreturned_sending
  rw [← List.append_nil (ready.map writability), ← List.append_nil (got.map sendAnswer), goesOn, pollSend]

-- A call never returns Pending on what try_send_to told it.
theorem at_send_answered (pending : Pending) (ready : List Bool) (got : List (Option SendOutcome)) (outcome : Option SendOutcome)
    (reading : AtSend pending ready got) :
    (∃ state, sending.play pending ready (got ++ [outcome]) = some ⟨.ready (.ok ()), state, [], []⟩) ∨
      AtWritable pending ready (got ++ [outcome]) := by
  have blocked := at_send_blocked pending ready got reading
  cases outcome with
  | none => exact .inr blocked
  | some outcome =>
      cases outcome with
      | accepted => exact .inl (at_send_served pending ready got 1 0 .accepted reading (.take 0))
      | failed error =>
          by_cases full : error = .wouldBlock
          · subst full
            right
            simpa only [AtWritable, List.map_append, List.map_cons, List.map_nil, sendAnswer] using blocked
          · exact .inl (at_send_served pending ready got 0 0 (.failed error) reading (.drop 0 error full))

theorem send_run_snoc (sender final : PacketSender) (calls : List SendCall) (returns : List SendReturn) (call : SendCall)
    (returned : SendReturn) (run : SendRun sender calls final returns)
    (polled : pollSend call.transmit call.writability call.sends ⟨final.writable, [], []⟩ = .ok (some returned))
    (consumed : returned.writability = [] ∧ returned.sends = []) :
    SendRun sender (calls ++ [call]) ⟨final.socket.record returned.state.updates, returned.state.writable⟩
      (returns ++ [returned]) := by
  induction run with
  | nil sender => exact .cons _ _ call [] returned [] polled consumed (.nil _)
  | cons sender final first calls answered returns earlier all rest ih =>
      exact .cons _ _ first _ answered _ earlier all (ih polled)

-- The readiness of a socket whose reactor runs does not fail.
theorem sound_answer (call : SendCall) (returned : SendReturn) (sound : SoundCall call returned) (ready : List Bool)
    (answered : call.writability = ready.map writability) : returned.result = .pending ∨ returned.result = .ready (.ok ()) := by
  have ending := List.mem_of_getLast? sound.ending
  rw [answered, List.mem_map] at ending
  obtain ⟨up, _, last⟩ := ending
  cases result : returned.result with
  | pending => exact .inl rfl
  | ready value =>
      cases value with
      | ok => exact .inr rfl
      | error error =>
          rw [result] at last
          cases up <;> cases last

section Sharing

variable (socket : PacketSocket)

theorem sending_sound (state : Sending) (pending : Pending) (ready : List Bool) (got : List (Option SendOutcome))
    (returned : SendReturn) (sound : state.Sound socket) (calls : sending.call state = some pending)
    (played : sending.play pending ready got = some returned) : (sending.advance state ready got returned).Sound socket := by
  obtain ⟨rest, todo, stored⟩ := sending_calls state pending calls
  obtain ⟨polled, consumed⟩ := sending_returned pending ready got returned played
  obtain ⟨⟨final, run, same⟩, _, ⟨todoSingle, callsSingle⟩, answers⟩ := sound
  have single := todoSingle pending.transmit (by rw [todo]; exact List.mem_cons_self)
  rw [Pending.state, stored, ← same] at polled
  have called := sound_call ⟨pending.transmit, ready.map writability, got.map sendAnswer⟩
    (fun size segmented => by rw [single] at segmented; cases segmented) final.writable returned polled consumed
  simp only [sending, todo]
  refine ⟨⟨⟨final.socket.record returned.state.updates, returned.state.writable⟩, ?_, rfl⟩, sound_pollable _ returned called,
    ⟨?_, ?_⟩, ?_⟩
  · simpa only [Sending.calls, Sending.returns, List.map_append, List.map_cons, List.map_nil] using
      send_run_snoc _ final _ _ _ returned run polled consumed
  · intro transmit member
    apply todoSingle
    rw [todo]
    split at member
    · exact member
    · exact List.mem_cons_of_mem _ member
  · intro call member
    simp only [Sending.calls, List.map_append, List.map_cons, List.map_nil, List.mem_append, List.mem_singleton] at member
    rcases member with earlier | rfl
    · exact callsSingle call earlier
    · exact single
  · intro other member
    simp only [Sending.returns, List.map_append, List.map_cons, List.map_nil, List.mem_append, List.mem_singleton] at member
    rcases member with earlier | rfl
    · exact answers other earlier
    · exact sound_answer _ _ called ready rfl

theorem sending_alternates : sending.Alternates (Sending.Sound socket) Sending.Told AtWritable AtSend := by
  constructor
  · intro state pending sound calls
    obtain ⟨rest, todo, stored⟩ := sending_calls state pending calls
    refine ⟨sound.single.1 pending.transmit (by rw [todo]; exact List.mem_cons_self), pending.state, ?_, fun more sends => rfl⟩
    rw [Pending.state, stored]
    exact sound.pollable
  · intro pending ready got polling
    obtain ⟨state, played⟩ := at_writable_waits pending ready got polling
    exact ⟨_, played, by simp [sending]⟩
  · intro pending ready got reading
    apply unreturned_sending
    rw [List.map_append]
    exact at_send_asks pending ready _ got reading
  · intro pending ready got polling
    have reading := at_writable_passes pending ready got polling
    refine ⟨unreturned_sending pending _ got ?_, reading⟩
    simpa only [List.append_nil] using at_send_asks pending (ready ++ [true]) [] got reading
  · intro pending ready got reading silent
    exact at_send_blocked pending ready got reading
  · intro pending ready got outcome reading silent
    rcases at_send_answered pending ready got (some outcome) reading with ⟨state, played⟩ | polling
    · rw [played] at silent
      cases silent
    · exact .inl polling
  · intro pending ready got outcome returned reading played
    rcases at_send_answered pending ready got outcome reading with ⟨state, answered⟩ | polling
    · rw [answered, Option.some.injEq] at played
      subst played
      simp [sending]
    · rw [at_writable_asks pending ready _ polling] at played
      cases played
  · intro state pending ready got returned sound calls played
    exact sending_sound socket state pending ready got returned sound calls played
  · intro state pending ready got returned sound calls played told
    obtain ⟨rest, todo, _⟩ := sending_calls state pending calls
    exact ⟨returned, by simp [sending, todo, Sending.returns], by simpa [sending] using told⟩

variable {ι : Type} [DecidableEq ι] (capacity : Nat) (transmits : ι → List Transmit)

def senders {ω : Type} (room : Nat) : Reactor ι ω (Caller Sending SendOutcome) Nat :=
  Reactor.start (fun i => .start ⟨transmits i, none, []⟩) room

variable [Fintype ι]

end Sharing

theorem sending_waits (todo : List Transmit) (busy : todo ≠ []) (single : ∀ transmit ∈ todo, transmit.segmentSize = none) :
    ∃ resume state, sending.turn (.start ⟨todo, none, []⟩) = .poll resume ∧
      sending.turn (resume false) = .yield (.start state) ∧ state.todo = todo := by
  obtain ⟨transmit, rest, rfl⟩ := List.exists_cons_of_ne_nil busy
  obtain ⟨resume, returned, polls, _, pending, yields⟩ := Client.fresh_waits sending _ _ _ _
    (sending_alternates (PacketSocket.bind none)) ⟨transmit :: rest, none, []⟩
    ⟨⟨_, .nil _, rfl⟩, nofun, ⟨single, nofun⟩, nofun⟩ ⟨transmit, none⟩ rfl
  refine ⟨resume, _, polls, yields, ?_⟩
  simp only [sending, decide_eq_true_eq] at pending
  simp [sending, pending]

-- What the one future per sender is for: with a readiness slot between two of
-- them, the waker of the second takes the place of the first one's, and the
-- first may sleep on for ever, however much the buffer drains.
theorem shared_slot_strands_sender {ι ω : Type} [DecidableEq ι] [DecidableEq ω] (slot : ι → ω) (i j : ι) (apart : i ≠ j)
    (same : slot i = slot j) (capacity room : Nat) (transmits : ι → List Transmit) (asks : transmits i ≠ [])
    (asksToo : transmits j ≠ []) (single : ∀ i, ∀ transmit ∈ transmits i, transmit.segmentSize = none) :
    ∃ reactor, Relation.ReflTransGen (Reactor.Step slot sending.turn Full Accept (Drain capacity)) (senders transmits room) reactor ∧
      ∀ after, Relation.ReflTransGen (Reactor.Step slot sending.turn Full Accept (Drain capacity)) reactor after →
        after.status i = .parked ∧ (after.tasks i).state.todo = transmits i := by
  obtain ⟨first, state, polls, yields, todo⟩ := sending_waits (transmits i) asks (single i)
  obtain ⟨second, _, pollsToo, _⟩ := sending_waits (transmits j) asksToo (single j)
  obtain ⟨reactor, reach, lost⟩ := Reactor.shared_slot_loses slot sending.turn Full Accept (Drain capacity) i j apart same
    (senders transmits room) rfl (fun _ => rfl) rfl rfl first second _ polls pollsToo yields
  refine ⟨reactor, reach, ?_⟩
  intro after goesOn
  obtain ⟨⟨parked, _⟩, held⟩ := Run.invariant _ (fun reactor => Reactor.Lost i reactor ∧ reactor.tasks i = _) reactor lost
    (Reactor.lost_step slot sending.turn Full Accept (Drain capacity) i _) after goesOn
  exact ⟨parked, by rw [held, Caller.start, todo]⟩

end Pktauth.Socket
