import Mathlib.Data.List.ReduceOption
import Pktauth.Lib.Caller
import Pktauth.Socket.Flood
import Pktauth.Socket.Transparency

set_option autoImplicit false

namespace Pktauth.Socket

open Rust Auth

section Positions

variable (aes : Cipher UInt8) (authenticator : Option Authenticator)

-- What is left of a call that is inside the inner loop.
def readOn (ready : List Readiness) (recv : List RecvOutcome) (state : RecvState) : Exec (Option RecvReturn) := do
  match ← recvLoop aes authenticator recv state with
  | none => .ok none
  | some (.fail error, state, recv) => .ok (some ⟨.ready (.error error), state, ready, recv⟩)
  | some (_, state, recv) =>
      if state.filled > 0 then .ok (some ⟨.ready (.ok state.filled), state, ready, recv⟩)
      else pollRecv aes authenticator ready recv state

theorem poll_recv_ready (ready : List Readiness) (recv : List RecvOutcome) (state : RecvState) :
    pollRecv aes authenticator (.ready :: ready) recv state = readOn aes authenticator ready recv { state with filled := 0 } := by
  rw [pollRecv]
  rfl

theorem read_on_asks (ready : List Readiness) (state : RecvState) (buf : List UInt8) (slot : state.bufs[state.filled]? = some buf) :
    readOn aes authenticator ready [] state = .ok none := by
  have asks : recvLoop aes authenticator [] state = .ok none := by
    rw [recvLoop]
    simp only [slot]
  rw [readOn, asks, exec_bind_ok]

theorem read_on_answer (ready : List Readiness) (recv : List RecvOutcome) (outcome : RecvOutcome) (state after : RecvState)
    (buf : List UInt8) (flow : Flow) (slot : state.bufs[state.filled]? = some buf)
    (received : receive aes authenticator buf outcome state = .ok (flow, after)) :
    readOn aes authenticator ready (outcome :: recv) state =
      match flow with
      | .next => readOn aes authenticator ready recv after
      | .fail error => .ok (some ⟨.ready (.error error), after, ready, recv⟩)
      | .leave =>
          if after.filled > 0 then .ok (some ⟨.ready (.ok after.filled), after, ready, recv⟩)
          else pollRecv aes authenticator ready recv after := by
  cases flow with
  | next => rw [readOn, recv_loop_next aes authenticator outcome recv state after buf slot received, readOn]
  | leave => rw [readOn, recv_loop_exit aes authenticator outcome recv state after buf .leave slot (by simp) received, exec_bind_ok]
  | fail error =>
      rw [readOn, recv_loop_exit aes authenticator outcome recv state after buf (.fail error) slot (by simp) received,
        exec_bind_ok]

theorem read_on_full (ready : List Readiness) (recv : List RecvOutcome) (state : RecvState)
    (full : state.bufs[state.filled]? = none) :
    readOn aes authenticator ready recv state =
      if state.filled > 0 then .ok (some ⟨.ready (.ok state.filled), state, ready, recv⟩)
      else pollRecv aes authenticator ready recv state := by
  rw [readOn, recv_loop_full aes authenticator recv state full, exec_bind_ok]

structure Slots where
  bufs : List (List UInt8)
  metas : List RecvMeta

def Slots.call (slots : Slots) (ready : List Readiness) (recv : List RecvOutcome) : RecvCall :=
  ⟨slots.bufs, slots.metas, ready, recv⟩

def Slots.state (slots : Slots) : RecvState := ⟨slots.bufs, slots.metas, 0, []⟩

def readiness : Bool → Readiness
  | true => .ready
  | false => .notReady

def answer : Option RecvOutcome → RecvOutcome
  | some outcome => outcome
  | none => .failed .wouldBlock

-- The call at its two questions, as what it makes of any further answers.
def AtReady (slots : Slots) (ready : List Bool) (got : List (Option RecvOutcome)) : Prop :=
  ∃ state, 0 < state.bufs.length ∧ ∀ more recv,
    pollRecv aes authenticator (ready.map readiness ++ more) (got.map answer ++ recv) slots.state =
      pollRecv aes authenticator more recv state

def AtRecv (slots : Slots) (ready : List Bool) (got : List (Option RecvOutcome)) : Prop :=
  ∃ state buf, state.bufs[state.filled]? = some buf ∧ ∀ more recv,
    pollRecv aes authenticator (ready.map readiness ++ more) (got.map answer ++ recv) slots.state =
      readOn aes authenticator more recv state

theorem at_ready_passes (slots : Slots) (ready : List Bool) (got : List (Option RecvOutcome))
    (polling : AtReady aes authenticator slots ready got) : AtRecv aes authenticator slots (ready ++ [true]) got := by
  obtain ⟨state, buffers, goesOn⟩ := polling
  refine ⟨{ state with filled := 0 }, state.bufs[0], List.getElem?_eq_getElem buffers, ?_⟩
  intro more recv
  rw [List.map_append, List.append_assoc, goesOn, ← poll_recv_ready]
  rfl

theorem received_buffers (buf : List UInt8) (state after : RecvState) (outcome : RecvOutcome) (flow : Flow)
    (step : Received aes authenticator buf state outcome flow after) : after.bufs.length = state.bufs.length := by
  cases step <;> simp [RecvState.accept, RecvState.read, RecvState.reject]

theorem leaves_inner (slots : Slots) (ready : List Bool) (got : List (Option RecvOutcome)) (after : RecvState)
    (buffers : 0 < after.bufs.length)
    (goesOn : ∀ more recv, pollRecv aes authenticator (ready.map readiness ++ more) (got.map answer ++ recv) slots.state =
      if after.filled > 0 then .ok (some ⟨.ready (.ok after.filled), after, more, recv⟩)
      else pollRecv aes authenticator more recv after) :
    (∃ value state, pollRecv aes authenticator (ready.map readiness) (got.map answer) slots.state =
      .ok (some ⟨.ready value, state, [], []⟩)) ∨ AtReady aes authenticator slots ready got := by
  by_cases batch : after.filled > 0
  · left
    refine ⟨.ok after.filled, after, ?_⟩
    simpa only [List.append_nil, if_pos batch] using goesOn [] []
  · right
    refine ⟨after, buffers, ?_⟩
    intro more recv
    rw [goesOn, if_neg batch]

-- A call never returns Pending on what try_recv_from told it.
theorem at_recv_answered (slots : Slots) (ready : List Bool) (got : List (Option RecvOutcome)) (outcome : Option RecvOutcome)
    (reading : AtRecv aes authenticator slots ready got) :
    ((∃ value state, pollRecv aes authenticator (ready.map readiness) ((got ++ [outcome]).map answer) slots.state =
      .ok (some ⟨.ready value, state, [], []⟩)) ∨ AtReady aes authenticator slots ready (got ++ [outcome])) ∨
    (outcome ≠ none ∧ AtRecv aes authenticator slots ready (got ++ [outcome])) := by
  obtain ⟨state, buf, slot, goesOn⟩ := reading
  obtain ⟨flow, after, received, step⟩ := receive_spec aes authenticator buf (answer outcome) state
  have answered (more : List Readiness) (recv : List RecvOutcome) :
      pollRecv aes authenticator (ready.map readiness ++ more) ((got ++ [outcome]).map answer ++ recv) slots.state =
        readOn aes authenticator more (answer outcome :: recv) state := by
    rw [List.map_append, List.append_assoc, ← goesOn]
    rfl
  have buffers : 0 < after.bufs.length := by
    have inside := (List.getElem?_eq_some_iff.mp slot).1
    rw [received_buffers aes authenticator buf state after _ flow step]
    omega
  have moves (more : List Readiness) (recv : List RecvOutcome) :=
    (answered more recv).trans (read_on_answer aes authenticator more recv (answer outcome) state after buf flow slot received)
  cases flow with
  | leave => exact .inl (leaves_inner aes authenticator slots ready _ after buffers moves)
  | fail error => exact .inl (.inl ⟨.error error, after, by simpa only [List.append_nil] using moves [] []⟩)
  | next =>
      cases next : after.bufs[after.filled]? with
      | none =>
          left
          apply leaves_inner aes authenticator slots ready _ after buffers
          intro more recv
          rw [moves, read_on_full aes authenticator more recv after next]
      | some buffer =>
          -- WouldBlock ends the inner loop.
          refine .inr ⟨?_, after, buffer, next, moves⟩
          rintro rfl
          cases step

end Positions

-- The endpoint driver: the calls it has made, and what they returned.
structure Driver where
  calls : List RecvCall
  returns : List RecvReturn

def RecvReturn.failed (returned : RecvReturn) : Bool :=
  match returned.result with
  | .ready (.error _) => true
  | .ready (.ok _) | .pending => false

section Driver

variable (aes : Cipher UInt8) (authenticator : Option Authenticator) (buffers : Nat → Slots)

def Driver.slots (driver : Driver) : Slots := buffers driver.calls.length

-- Quinn calls again as long as the socket does not fail, with whatever buffers
-- it has by then.
def driver : Client Driver Slots RecvOutcome RecvReturn where
  call driver := if driver.returns.any RecvReturn.failed then none else some (driver.slots buffers)
  play slots ready got :=
    match pollRecv aes authenticator (ready.map readiness) (got.map answer) slots.state with
    | .ok (some returned) => if returned.ready = [] ∧ returned.recv = [] then some returned else none
    | .ok none | .error _ => none
  pending returned := decide (returned.result = .pending)
  advance driver ready got returned :=
    ⟨driver.calls ++ [(driver.slots buffers).call (ready.map readiness) (got.map answer)], driver.returns ++ [returned]⟩

-- The kernel's side: what will still arrive, and what lies in the queue.
structure Inbox where
  coming : List RecvOutcome
  queue : List RecvOutcome

def Inbox.Idle (inbox : Inbox) : Prop := inbox.queue = []

inductive Inbox.Serve : Inbox → RecvOutcome → Inbox → Prop where
  | pop (coming queue : List RecvOutcome) (outcome : RecvOutcome) : Serve ⟨coming, outcome :: queue⟩ outcome ⟨coming, queue⟩

inductive Inbox.Supply : Inbox → Inbox → Prop where
  | arrive (coming queue : List RecvOutcome) (outcome : RecvOutcome) :
      Supply ⟨outcome :: coming, queue⟩ ⟨coming, queue ++ [outcome]⟩

def Inbox.burden (inbox : Inbox) : Nat := 2 * inbox.coming.length + inbox.queue.length

structure Driver.Sound (capacity : Nat) (driver : Driver) : Prop where
  run : ∃ final, RecvRun aes (PacketSocket.bind authenticator) driver.calls final driver.returns
  regular : ∀ call ∈ driver.calls, call.Regular capacity
  polled : ∀ call ∈ driver.calls, ∀ error, .failed error ∉ call.ready

def Driver.Told (driver : Driver) : Prop := ∃ last, driver.returns.getLast? = some last ∧ last.result = .pending

theorem play_returned (slots : Slots) (ready : List Bool) (got : List (Option RecvOutcome)) (returned : RecvReturn)
    (played : (driver aes authenticator buffers).play slots ready got = some returned) :
    pollRecv aes authenticator (ready.map readiness) (got.map answer) slots.state = .ok (some returned) ∧ returned.recv = [] := by
  simp only [driver] at played
  split at played
  · next value polled =>
      by_cases used : value.ready = [] ∧ value.recv = []
      · rw [if_pos used, Option.some.injEq] at played
        subst played
        exact ⟨polled, used.2⟩
      · rw [if_neg used] at played
        cases played
  · cases played
  · cases played

theorem returned_plays (slots : Slots) (ready : List Bool) (got : List (Option RecvOutcome)) (result : Poll (Except ErrorKind Nat))
    (state : RecvState)
    (polled : pollRecv aes authenticator (ready.map readiness) (got.map answer) slots.state = .ok (some ⟨result, state, [], []⟩)) :
    (driver aes authenticator buffers).play slots ready got = some ⟨result, state, [], []⟩ := by
  simp only [driver, polled, and_self, if_true]

theorem unreturned_plays (slots : Slots) (ready : List Bool) (got : List (Option RecvOutcome))
    (polled : pollRecv aes authenticator (ready.map readiness) (got.map answer) slots.state = .ok none) :
    (driver aes authenticator buffers).play slots ready got = none := by
  simp only [driver, polled]

theorem asking_plays (slots : Slots) (ready : List Bool) (got : List (Option RecvOutcome))
    (asking : AtReady aes authenticator slots ready got ∨ AtRecv aes authenticator slots ready got) :
    (driver aes authenticator buffers).play slots ready got = none := by
  apply unreturned_plays
  rcases asking with ⟨state, _, goesOn⟩ | ⟨state, buf, slot, goesOn⟩
  · rw [← List.append_nil (got.map answer), ← List.append_nil (ready.map readiness), goesOn, pollRecv]
  · rw [← List.append_nil (got.map answer), ← List.append_nil (ready.map readiness), goesOn,
      read_on_asks aes authenticator _ state buf slot]

theorem at_recv_ready (slots : Slots) (ready : List Bool) (got : List (Option RecvOutcome)) (outcome : Option RecvOutcome)
    (returned : RecvReturn) (reading : AtRecv aes authenticator slots ready got)
    (played : (driver aes authenticator buffers).play slots ready (got ++ [outcome]) = some returned) :
    (driver aes authenticator buffers).pending returned = false := by
  have asking (place : AtReady aes authenticator slots ready (got ++ [outcome]) ∨
      AtRecv aes authenticator slots ready (got ++ [outcome])) : False := by
    rw [asking_plays aes authenticator buffers slots ready _ place] at played
    cases played
  rcases at_recv_answered aes authenticator slots ready got outcome reading with (⟨value, state, polled⟩ | polling) | ⟨_, again⟩
  · rw [returned_plays aes authenticator buffers slots ready _ _ state polled, Option.some.injEq] at played
    subst played
    simp [driver]
  · exact absurd (.inl polling) asking
  · exact absurd (.inr again) asking

theorem driver_calls (state : Driver) (slots : Slots) (calls : (driver aes authenticator buffers).call state = some slots) :
    slots = state.slots buffers := by
  simp only [driver] at calls
  split at calls
  · cases calls
  · exact (Option.some.inj calls).symm

theorem recv_run_snoc (socket final : PacketSocket) (calls : List RecvCall) (returns : List RecvReturn) (call : RecvCall)
    (returned : RecvReturn) (run : RecvRun aes socket calls final returns)
    (polled : pollRecv aes socket.authenticator call.ready call.recv ⟨call.bufs, call.metas, 0, []⟩ = .ok (some returned))
    (consumed : returned.recv = []) :
    RecvRun aes socket (calls ++ [call]) (final.record returned.state.updates) (returns ++ [returned]) := by
  induction run with
  | nil socket => exact .cons _ _ call [] returned [] polled consumed (.nil _)
  | cons socket final first calls answered returns earlier all rest ih =>
      exact .cons _ _ first _ answered _ earlier all (ih polled)

variable (capacity : Nat) (regular : ∀ count, ((buffers count).call [] []).Regular capacity)

include regular

theorem sound_advance (state : Driver) (ready : List Bool) (got : List (Option RecvOutcome)) (returned : RecvReturn)
    (sound : state.Sound aes authenticator capacity)
    (played : (driver aes authenticator buffers).play (state.slots buffers) ready got = some returned) :
    ((driver aes authenticator buffers).advance state ready got returned).Sound aes authenticator capacity := by
  obtain ⟨polled, consumed⟩ := play_returned aes authenticator buffers _ ready got returned played
  obtain ⟨final, run⟩ := sound.run
  refine ⟨⟨_, recv_run_snoc aes _ final state.calls state.returns _ returned run polled consumed⟩, ?_, ?_⟩
  · intro call member
    rcases List.mem_append.mp member with earlier | last
    · exact sound.regular call earlier
    · have even := regular state.calls.length
      rw [List.mem_singleton.mp last]
      exact ⟨even.buffers, even.slots, even.uniform⟩
  · intro call member error
    rcases List.mem_append.mp member with earlier | last
    · exact sound.polled call earlier error
    · rw [List.mem_singleton.mp last]
      simp only [Slots.call, List.mem_map, not_exists, not_and]
      intro up _
      cases up <;> simp [readiness]

theorem driver_alternates :
    (driver aes authenticator buffers).Alternates (Driver.Sound aes authenticator capacity) Driver.Told
      (AtReady aes authenticator) (AtRecv aes authenticator) := by
  constructor
  · intro state call sound calls
    rw [driver_calls aes authenticator buffers state call calls]
    exact ⟨_, (regular state.calls.length).buffers, fun more recv => rfl⟩
  · intro slots ready got polling
    obtain ⟨state, _, goesOn⟩ := polling
    refine ⟨_, returned_plays aes authenticator buffers slots (ready ++ [false]) got .pending state ?_, by simp [driver]⟩
    rw [List.map_append, ← List.append_nil (got.map answer), goesOn]
    rfl
  · intro slots ready got reading
    obtain ⟨state, buf, slot, goesOn⟩ := reading
    apply unreturned_plays
    rw [List.map_append, ← List.append_nil (got.map answer), goesOn, read_on_asks aes authenticator _ state buf slot]
  · intro slots ready got polling
    have reading := at_ready_passes aes authenticator slots ready got polling
    exact ⟨asking_plays aes authenticator buffers slots _ got (.inr reading), reading⟩
  · intro slots ready got reading silent
    rcases at_recv_answered aes authenticator slots ready got none reading with (⟨value, state, polled⟩ | polling) | ⟨other, _⟩
    · rw [returned_plays aes authenticator buffers slots ready _ _ state polled] at silent
      cases silent
    · exact polling
    · exact absurd rfl other
  · intro slots ready got outcome reading silent
    rcases at_recv_answered aes authenticator slots ready got (some outcome) reading with
      (⟨value, state, polled⟩ | polling) | ⟨_, again⟩
    · rw [returned_plays aes authenticator buffers slots ready _ _ state polled] at silent
      cases silent
    · exact .inl polling
    · exact .inr again
  · intro slots ready got outcome returned reading played
    exact at_recv_ready aes authenticator buffers slots ready got outcome returned reading played
  · intro state call ready got returned sound calls played
    rw [driver_calls aes authenticator buffers state call calls] at played
    exact sound_advance aes authenticator buffers capacity regular state ready got returned sound played
  · intro state call ready got returned sound calls played pending
    exact ⟨returned, by simp [driver], by simpa [driver] using pending⟩

omit regular

theorem soft_run_unfailing (socket final : PacketSocket) (calls : List RecvCall) (returns : List RecvReturn)
    (run : RecvRun aes socket calls final returns) (polled : ∀ call ∈ calls, ∀ error, .failed error ∉ call.ready)
    (soft : ∀ call ∈ calls, ∀ error, .failed error ∈ call.recv → Soft error) : returns.any RecvReturn.failed = false := by
  induction run with
  | nil socket => rfl
  | cons socket final call calls returned returns played consumed rest ih =>
      have later := ih (fun other member => polled other (List.mem_cons_of_mem call member))
        (fun other member => soft other (List.mem_cons_of_mem call member))
      obtain ⟨asked, read, readyAll, recvAll, _, result⟩ := poll_recv_returned aes socket.authenticator (fun _ _ => True)
        (fun _ _ _ _ _ _ _ _ _ => trivial) call.ready call.recv _ trivial rfl returned played
      have first : returned.failed = false := by
        rw [RecvReturn.failed]
        cases ended : returned.result with
        | pending => rfl
        | ready value =>
            rw [ended] at result
            cases result with
            | batch filled => rfl
            | readyFailed error last empty =>
                refine absurd ?_ (polled call List.mem_cons_self error)
                rw [readyAll]
                exact List.mem_append_left _ (List.mem_of_getLast? last)
            | recvFailed error last hard empty =>
                have calm := soft call List.mem_cons_self error (by
                  rw [recvAll]
                  exact List.mem_append_left _ (List.mem_of_getLast? last))
                rcases calm with blocked | transient
                · exact absurd blocked hard.1
                · simp [hard.2] at transient
      simp [first, later]

-- What the driver has been given, in the order in which it arrived.
def taken (caller : Caller Driver RecvOutcome) : List RecvOutcome := arrivals caller.state.calls ++ caller.got.reduceOption

theorem answers_taken (got : List (Option RecvOutcome)) (real : ∀ outcome ∈ got.reduceOption, outcome ≠ .failed .wouldBlock) :
    (got.map answer).filter (fun outcome => outcome ≠ .failed .wouldBlock) = got.reduceOption := by
  induction got with
  | nil => rfl
  | cons first got ih =>
      cases first with
      | none => simpa [answer] using ih (by simpa using real)
      | some outcome =>
          simp only [List.reduceOption_cons_of_some, List.mem_cons, forall_eq_or_imp] at real
          simpa [answer, real.1] using ih real.2

theorem settle_taken (state : Driver) (slots : Slots) (ready : List Bool) (got : List (Option RecvOutcome))
    (real : ∀ outcome ∈ got.reduceOption, outcome ≠ .failed .wouldBlock) :
    taken ((driver aes authenticator buffers).settle state slots ready got) = arrivals state.calls ++ got.reduceOption := by
  cases played : (driver aes authenticator buffers).play slots ready got with
  | none => rw [Client.settle_none _ _ _ _ _ played, taken]
  | some returned =>
      rw [Client.settle_some _ _ _ _ _ returned played]
      simp only [taken, driver, arrivals, List.flatMap_append, List.filter_append, List.flatMap_singleton, Slots.call,
        answers_taken got real, List.reduceOption_nil, List.append_nil]

def Conserved (all : List RecvOutcome) (tasks : Unit → Caller Driver RecvOutcome) (inbox : Inbox) : Prop :=
  taken (tasks ()) ++ inbox.queue ++ inbox.coming = all

theorem conserved_keeps (all : List RecvOutcome) (real : ∀ outcome ∈ all, outcome ≠ .failed .wouldBlock) :
    Reactor.Keeps (driver aes authenticator buffers).turn Inbox.Serve Inbox.Supply (Conserved all) := by
  have unblocked (tasks : Unit → Caller Driver RecvOutcome) (inbox : Inbox) (conserved : Conserved all tasks inbox) :
      ∀ outcome ∈ (tasks ()).got.reduceOption, outcome ≠ .failed .wouldBlock := by
    intro outcome member
    apply real
    rw [← conserved, taken]
    simp [member]
  constructor
  · intro tasks inbox i resume up conserved asks
    obtain ⟨slots, returned, _, _, rfl⟩ := Client.turn_poll _ (tasks i) resume asks
    rw [Conserved, Function.update_self, settle_taken aes authenticator buffers _ _ _ _ (unblocked tasks inbox conserved)]
    exact conserved
  · intro tasks inbox i resume conserved tries
    obtain ⟨slots, _, _, rfl⟩ := Client.turn_attempt _ (tasks i) resume tries
    have same : ((tasks ()).got ++ [none]).reduceOption = (tasks ()).got.reduceOption := by simp [List.reduceOption_append]
    rw [Conserved, Function.update_self, settle_taken aes authenticator buffers _ _ _ _ (same ▸ unblocked tasks inbox conserved),
      same]
    exact conserved
  · intro tasks inbox i resume outcome next conserved tries served
    obtain ⟨slots, _, _, rfl⟩ := Client.turn_attempt _ (tasks i) resume tries
    cases served with
    | pop coming queue =>
        have longer : ((tasks ()).got ++ [some outcome]).reduceOption = (tasks ()).got.reduceOption ++ [outcome] := by
          simp [List.reduceOption_append]
        have kept : arrivals (tasks ()).state.calls ++ ((tasks ()).got ++ [some outcome]).reduceOption ++ queue ++ coming = all := by
          rw [longer, ← conserved, taken]
          simp
        rw [Conserved, Function.update_self, settle_taken aes authenticator buffers]
        · exact kept
        · intro other member
          apply real
          rw [← kept]
          simp [member]
  · intro tasks inbox i resume conserved yields
    obtain ⟨_, rfl⟩ := Client.turn_yield _ (tasks i) resume yields
    rw [Conserved, Function.update_self]
    exact conserved
  · intro tasks inbox next conserved supplied
    cases supplied with
    | arrive coming queue outcome =>
        rw [Conserved, ← conserved]
        simp

-- The socket's reactor as tokio documents it: readiness lasts until an attempt
-- meets WouldBlock, and a poll that finds none leaves the task's waker in the
-- slot the socket has for its reader.
def DriverStep :
    Reactor Unit Unit (Caller Driver RecvOutcome) Inbox → Reactor Unit Unit (Caller Driver RecvOutcome) Inbox → Prop :=
  Reactor.Step id (driver aes authenticator buffers).turn Inbox.Idle Inbox.Serve Inbox.Supply

def DriverMove :
    Reactor Unit Unit (Caller Driver RecvOutcome) Inbox → Reactor Unit Unit (Caller Driver RecvOutcome) Inbox → Prop :=
  Reactor.Move id (driver aes authenticator buffers).turn Inbox.Idle Inbox.Serve Inbox.Supply

def receiving (all : List RecvOutcome) : Reactor Unit Unit (Caller Driver RecvOutcome) Inbox :=
  Reactor.start (fun _ => .start ⟨[], []⟩) ⟨all, []⟩

structure Receiving (all : List RecvOutcome) (reactor : Reactor Unit Unit (Caller Driver RecvOutcome) Inbox) : Prop where
  calling : (driver aes authenticator buffers).Calling id Inbox.Idle (Driver.Sound aes authenticator capacity) Driver.Told
    (AtReady aes authenticator) (AtRecv aes authenticator) reactor
  conserved : Conserved all reactor.tasks reactor.resource

include regular

theorem driver_paced :
    Reactor.Paced (driver aes authenticator buffers).turn Inbox.Serve Inbox.Supply
      ((driver aes authenticator buffers).Placed (Driver.Sound aes authenticator capacity) Driver.Told
        (AtReady aes authenticator) (AtRecv aes authenticator)) (fun _ => 0) Inbox.burden := by
  apply Client.callers_paced _ _ _ _ _ (driver_alternates aes authenticator buffers capacity regular) _ _ (fun _ => 0)
  · intro state call ready got returned sound calls played
    exact Nat.le_refl 0
  · intro state call ready got inbox outcome next sound calls reading served
    cases served with
    | pop coming queue => simp [Inbox.burden]
  · intro inbox next supplied
    cases supplied with
    | arrive coming queue outcome =>
        simp only [Inbox.burden, List.length_cons, List.length_append, List.length_nil]
        omega

theorem receiving_start (all : List RecvOutcome) : Receiving aes authenticator buffers capacity all (receiving all) := by
  have fresh : (⟨[], []⟩ : Driver).Sound aes authenticator capacity := ⟨⟨_, .nil _⟩, nofun, nofun⟩
  exact ⟨Client.calling_start _ _ _ _ _ _ _ (driver_alternates aes authenticator buffers capacity regular) _ (fun _ => fresh) _,
    rfl⟩

theorem receiving_move (all : List RecvOutcome) (real : ∀ outcome ∈ all, outcome ≠ .failed .wouldBlock)
    (before after : Reactor Unit Unit (Caller Driver RecvOutcome) Inbox)
    (holds : Receiving aes authenticator buffers capacity all before) (move : DriverMove aes authenticator buffers before after) :
    Receiving aes authenticator buffers capacity all after := by
  constructor
  · exact Client.calling_move _ _ _ _ _ _ _ _ _ Function.injective_id _ _
      (driver_paced aes authenticator buffers capacity regular) before after holds.calling move
  · exact Reactor.keeps_move _ _ _ _ _ _ (conserved_keeps aes authenticator buffers all real) before after holds.conserved move

omit regular

theorem receiving_stuck (all : List RecvOutcome) (soft : ∀ error, .failed error ∈ all → isTransient error = true)
    (final : Reactor Unit Unit (Caller Driver RecvOutcome) Inbox) (holds : Receiving aes authenticator buffers capacity all final)
    (stuck : ∀ after, ¬ DriverStep aes authenticator buffers final after) :
    final.status () = .parked ∧ arrivals (final.tasks ()).state.calls = all := by
  obtain ⟨sound, _⟩ := holds.calling.placed ()
  obtain ⟨last, run⟩ := sound.run
  have able (inbox : Inbox) (busy : ¬ inbox.Idle) : ∃ outcome next, Inbox.Serve inbox outcome next := by
    obtain ⟨coming, queue⟩ := inbox
    cases queue with
    | nil => exact absurd rfl busy
    | cons outcome queue => exact ⟨outcome, _, .pop coming queue outcome⟩
  have known (outcome : RecvOutcome) (member : outcome ∈ arrivals (final.tasks ()).state.calls) : outcome ∈ all := by
    rw [← holds.conserved, taken]
    simp [member]
  have unfailing := soft_run_unfailing aes _ last _ _ run sound.polled (by
    intro call member error read
    by_cases blocked : error = .wouldBlock
    · exact .inl blocked
    · refine .inr (soft error (known _ ?_))
      simp only [arrivals, List.mem_filter, List.mem_flatMap]
      exact ⟨⟨call, member, read⟩, by simpa using blocked⟩)
  obtain ⟨complete, waiting⟩ := Reactor.stuck_waits _ _ _ _ _ able final holds.calling.attentive stuck
  rcases waiting () with done | ⟨parked, idle⟩
  · have ended := Client.turn_done _ _ done
    simp only [driver, unfailing, Bool.false_eq_true, if_false] at ended
    cases ended
  · have nothing : final.resource.coming = [] := by
      cases coming : final.resource.coming with
      | nil => rfl
      | cons outcome rest =>
          refine absurd ?_ (complete ⟨rest, final.resource.queue ++ [outcome]⟩)
          obtain ⟨tasks, status, wakers, flag, event, inbox⟩ := final
          obtain ⟨_, queue⟩ := inbox
          cases coming
          exact .arrive rest queue outcome
    have fresh := (holds.calling.dormant () (by rw [parked]; rfl)).1
    have all := holds.conserved
    rw [Conserved, taken, fresh, idle, nothing] at all
    exact ⟨parked, by simpa using all⟩

include regular

section Arrivals

variable (all : List RecvOutcome) (soft : ∀ error, .failed error ∈ all → isTransient error = true)
  (reactor : Reactor Unit Unit (Caller Driver RecvOutcome) Inbox)

include soft

theorem receiving_reached (reach : Relation.ReflTransGen (DriverMove aes authenticator buffers) (receiving all) reactor) :
    Receiving aes authenticator buffers capacity all reactor := by
  have real : ∀ outcome ∈ all, outcome ≠ .failed .wouldBlock := by
    rintro outcome member rfl
    have transient := soft _ member
    simp [isTransient] at transient
  exact Run.invariant (DriverMove aes authenticator buffers) (Receiving aes authenticator buffers capacity all)
    (receiving all) (receiving_start aes authenticator buffers capacity regular all)
    (receiving_move aes authenticator buffers capacity regular all real) reactor reach

omit soft in
theorem receiving_bounded (holds : Receiving aes authenticator buffers capacity all reactor)
    (states : Nat → Reactor Unit Unit (Caller Driver RecvOutcome) Inbox) (count : Nat) (first : states 0 = reactor)
    (run : ∀ n < count, DriverStep aes authenticator buffers (states n) (states (n + 1))) :
    count ≤ 19 * (2 * reactor.resource.coming.length + reactor.resource.queue.length) + 19 := by
  subst first
  have bound := Reactor.rests _ _ _ _ _ _ _ _ (driver_paced aes authenticator buffers capacity regular) states
    holds.calling.placed count run
  simpa [Reactor.work, Inbox.burden] using bound

theorem receiving_rests (reach : Relation.ReflTransGen (DriverMove aes authenticator buffers) (receiving all) reactor)
    (stuck : ∀ after, ¬ DriverStep aes authenticator buffers reactor after) :
    reactor.status () = .parked ∧ arrivals (reactor.tasks ()).state.calls = all ∧
      (∀ call ∈ (reactor.tasks ()).state.calls, call.Regular capacity) ∧
      ∃ last, RecvRun aes (PacketSocket.bind authenticator) (reactor.tasks ()).state.calls last
        (reactor.tasks ()).state.returns := by
  have holds := receiving_reached aes authenticator buffers capacity regular all soft reactor reach
  obtain ⟨parked, read⟩ := receiving_stuck aes authenticator buffers capacity all soft reactor holds stuck
  obtain ⟨⟨run, even, _⟩, _⟩ := holds.calling.placed ()
  exact ⟨parked, read, even, run⟩

-- The comments in poll_recv say that looping re-registers the waker and that
-- an ICMP error says nothing about the socket. Together: no datagram is left
-- lying in the queue of a driver that sleeps.
theorem receiver_drains_queue
    (reach : Relation.ReflTransGen (DriverMove aes authenticator buffers) (receiving all) reactor) :
    (Reactor.Asleep (driver aes authenticator buffers).turn reactor () → (reactor.tasks ()).state.Told ∧
      (reactor.resource.queue ≠ [] → reactor.event = true ∧ reactor.wakers () = some ())) ∧
    (∀ (states : Nat → Reactor Unit Unit (Caller Driver RecvOutcome) Inbox) (count : Nat), states 0 = reactor →
      (∀ n < count, DriverStep aes authenticator buffers (states n) (states (n + 1))) →
      count ≤ 19 * (2 * reactor.resource.coming.length + reactor.resource.queue.length) + 19) ∧
    (∀ final, Relation.ReflTransGen (DriverStep aes authenticator buffers) reactor final →
      (∀ after, ¬ DriverStep aes authenticator buffers final after) →
      final.status () = .parked ∧ arrivals (final.tasks ()).state.calls = all ∧
      (∃ last, RecvRun aes (PacketSocket.bind authenticator) (final.tasks ()).state.calls last (final.tasks ()).state.returns) ∧
      handedOver (final.tasks ()).state.returns = all.filterMap (passes aes authenticator capacity)) := by
  have holds := receiving_reached aes authenticator buffers capacity regular all soft reactor reach
  refine ⟨?_, receiving_bounded aes authenticator buffers capacity regular all reactor holds, ?_⟩
  · intro asleep
    exact Client.calling_asleep _ _ _ _ _ _ _ reactor holds.calling () asleep
  · intro final goesOn stuck
    have still := reach.trans (goesOn.lift id (fun before after step => Reactor.Move.step before after step))
    obtain ⟨parked, read, even, last, run⟩ :=
      receiving_rests aes authenticator buffers capacity regular all soft final still stuck
    refine ⟨parked, read, ⟨last, run⟩, ?_⟩
    rw [run_filters aes capacity _ last _ _ run even, read]
    rfl

end Arrivals

end Driver

def sampleSlots : Slots := ⟨[sampleBuffer], [RecvMeta.default]⟩

def sampleArrivals : List RecvOutcome :=
  [.datagram [0x40] sampleSource, .failed .connectionRefused, .datagram sampleDatagram sampleSource]

theorem receiver_drains_queue_sample :
    ∃ final, Relation.ReflTransGen (DriverStep sampleCipher (some sampleAuthenticator) (fun _ => sampleSlots))
        (receiving sampleArrivals) final ∧
      final.status () = .parked ∧ handedOver (final.tasks ()).state.returns = [(sampleDatagram, sampleSource)] := by
  have regular (count : Nat) : (sampleSlots.call [] []).Regular 32 :=
    ⟨by decide, by decide, by simp [sampleSlots, Slots.call, sampleBuffer]⟩
  have soft : ∀ error, .failed error ∈ sampleArrivals → isTransient error = true := by
    intro error member
    simp [sampleArrivals] at member
    simp [member, isTransient]
  obtain ⟨final, reach, stuck⟩ := Reactor.comes_to_rest id _ Inbox.Idle Inbox.Serve Inbox.Supply _ _ _
    (driver_paced sampleCipher (some sampleAuthenticator) (fun _ => sampleSlots) 32 regular) (receiving sampleArrivals)
    (receiving_start sampleCipher (some sampleAuthenticator) (fun _ => sampleSlots) 32 regular sampleArrivals).calling.placed
  obtain ⟨_, _, ends⟩ := receiver_drains_queue sampleCipher (some sampleAuthenticator) (fun _ => sampleSlots) 32 regular
    sampleArrivals soft (receiving sampleArrivals) .refl
  obtain ⟨parked, _, _, handed⟩ := ends final reach stuck
  exact ⟨final, reach, parked, by rw [handed]; decide +kernel⟩

end Pktauth.Socket
