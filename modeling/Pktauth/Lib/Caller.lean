import Pktauth.Lib.Reactor

set_option autoImplicit false

-- A client that makes one nonblocking call after another. A call is a function
-- of the answers it has been given so far, whether the resource was ready and
-- what each attempt got, and has no value while it asks for one more. Some of
-- what it returns tells the client to wait.
structure Client (τ γ β ρ : Type) where
  call : τ → Option γ
  play : γ → List Bool → List (Option β) → Option ρ
  pending : ρ → Bool
  advance : τ → List Bool → List (Option β) → ρ → τ

structure Caller (τ β : Type) where
  state : τ
  ready : List Bool
  got : List (Option β)
  waiting : Bool

def Caller.start {τ β : Type} (state : τ) : Caller τ β := ⟨state, [], [], false⟩

namespace Client

variable {τ γ β ρ κ : Type} (client : Client τ γ β ρ)

def settle (state : τ) (call : γ) (ready : List Bool) (got : List (Option β)) : Caller τ β :=
  match client.play call ready got with
  | none => ⟨state, ready, got, false⟩
  | some returned => ⟨client.advance state ready got returned, [], [], client.pending returned⟩

-- A client that was told to wait gives up its thread, whether or not the call
-- has left a waker behind. Only a call that asks whether the resource is ready
-- returns on being told that it is not.
def turn (caller : Caller τ β) : Turn β (Caller τ β) :=
  if caller.waiting then .yield { caller with waiting := false }
  else
    match client.call caller.state with
    | none => .done
    | some call =>
        if (client.play call (caller.ready ++ [false]) caller.got).isSome then
          .poll (fun up => client.settle caller.state call (caller.ready ++ [up]) caller.got)
        else .attempt (fun answer => client.settle caller.state call caller.ready (caller.got ++ [answer]))

theorem turn_waiting (caller : Caller τ β) (waiting : caller.waiting = true) :
    client.turn caller = .yield { caller with waiting := false } := by
  rw [turn, if_pos waiting]

theorem turn_yield (caller : Caller τ β) (resume : Caller τ β) (yields : client.turn caller = .yield resume) :
    caller.waiting = true ∧ resume = { caller with waiting := false } := by
  cases waiting : caller.waiting with
  | true =>
      rw [client.turn_waiting caller waiting, Turn.yield.injEq] at yields
      exact ⟨rfl, yields.symm⟩
  | false =>
      simp only [turn, waiting, Bool.false_eq_true, if_false] at yields
      split at yields
      · cases yields
      · split at yields <;> cases yields

theorem working (caller : Caller τ β) (called : ∀ resume, client.turn caller ≠ .yield resume) : caller.waiting = false := by
  cases waiting : caller.waiting with
  | true => exact absurd (client.turn_waiting caller waiting) (called _)
  | false => rfl

theorem turn_done (caller : Caller τ β) (done : client.turn caller = .done) : client.call caller.state = none := by
  have calling := client.working caller (by simp [done])
  cases calls : client.call caller.state with
  | none => rfl
  | some call =>
      simp only [turn, calling, Bool.false_eq_true, if_false, calls] at done
      split at done <;> cases done

theorem turn_poll (caller : Caller τ β) (resume : Bool → Caller τ β) (asks : client.turn caller = .poll resume) :
    ∃ call returned, client.call caller.state = some call ∧
      client.play call (caller.ready ++ [false]) caller.got = some returned ∧
      resume = fun up => client.settle caller.state call (caller.ready ++ [up]) caller.got := by
  have calling := client.working caller (by simp [asks])
  cases calls : client.call caller.state with
  | none => simp [turn, calling, calls] at asks
  | some call =>
      cases played : client.play call (caller.ready ++ [false]) caller.got with
      | none => simp [turn, calling, calls, played] at asks
      | some returned =>
          simp only [turn, calling, Bool.false_eq_true, if_false, calls, played, Option.isSome_some, if_true,
            Turn.poll.injEq] at asks
          exact ⟨call, returned, rfl, played, asks.symm⟩

theorem turn_attempt (caller : Caller τ β) (resume : Option β → Caller τ β) (tries : client.turn caller = .attempt resume) :
    ∃ call, client.call caller.state = some call ∧ client.play call (caller.ready ++ [false]) caller.got = none ∧
      resume = fun answer => client.settle caller.state call caller.ready (caller.got ++ [answer]) := by
  have calling := client.working caller (by simp [tries])
  cases calls : client.call caller.state with
  | none => simp [turn, calling, calls] at tries
  | some call =>
      cases played : client.play call (caller.ready ++ [false]) caller.got with
      | some returned => simp [turn, calling, calls, played] at tries
      | none =>
          simp only [turn, calling, calls, played, Option.isSome_none, Bool.false_eq_true, if_false,
            Turn.attempt.injEq] at tries
          exact ⟨call, rfl, played, tries.symm⟩

theorem settle_none (state : τ) (call : γ) (ready : List Bool) (got : List (Option β))
    (played : client.play call ready got = none) : client.settle state call ready got = ⟨state, ready, got, false⟩ := by
  rw [settle, played]

theorem settle_some (state : τ) (call : γ) (ready : List Bool) (got : List (Option β)) (returned : ρ)
    (played : client.play call ready got = some returned) :
    client.settle state call ready got = ⟨client.advance state ready got returned, [], [], client.pending returned⟩ := by
  rw [settle, played]

section Alternation

variable (Good Paused : τ → Prop) (Polling Reading : γ → List Bool → List (Option β) → Prop)

-- The two places a call can be at while it asks. It tells its client to wait
-- when it has been told so itself, and at no other time.
structure Alternates : Prop where
  fresh : ∀ state call, Good state → client.call state = some call → Polling call [] []
  waits : ∀ call ready got, Polling call ready got →
    ∃ returned, client.play call (ready ++ [false]) got = some returned ∧ client.pending returned = true
  tries : ∀ call ready got, Reading call ready got → client.play call (ready ++ [false]) got = none
  passed : ∀ call ready got, Polling call ready got →
    client.play call (ready ++ [true]) got = none ∧ Reading call (ready ++ [true]) got
  refused : ∀ call ready got, Reading call ready got → client.play call ready (got ++ [none]) = none →
    Polling call ready (got ++ [none])
  served : ∀ call ready got answer, Reading call ready got → client.play call ready (got ++ [some answer]) = none →
    Polling call ready (got ++ [some answer]) ∨ Reading call ready (got ++ [some answer])
  answers : ∀ call ready got answer returned, Reading call ready got → client.play call ready (got ++ [answer]) = some returned →
    client.pending returned = false
  returns : ∀ state call ready got returned, Good state → client.call state = some call →
    client.play call ready got = some returned → Good (client.advance state ready got returned)
  pauses : ∀ state call ready got returned, Good state → client.call state = some call →
    client.play call ready got = some returned → client.pending returned = true →
    Paused (client.advance state ready got returned)

structure Placed (caller : Caller τ β) : Prop where
  good : Good caller.state
  place : ∀ call, client.call caller.state = some call →
    Polling call caller.ready caller.got ∨ Reading call caller.ready caller.got
  paused : caller.waiting = true → (caller.ready = [] ∧ caller.got = []) ∧ Paused caller.state

theorem placed_rests (caller resume : Caller τ β) (placed : client.Placed Good Paused Polling Reading caller)
    (yields : client.turn caller = .yield resume) : resume.got = [] ∧ Paused resume.state := by
  obtain ⟨waiting, rfl⟩ := client.turn_yield caller resume yields
  exact ⟨(placed.paused waiting).1.2, (placed.paused waiting).2⟩

variable (alternates : client.Alternates Good Paused Polling Reading)

include alternates

theorem placed_start (state : τ) (good : Good state) : client.Placed Good Paused Polling Reading (.start state) :=
  ⟨good, fun call calls => .inl (alternates.fresh state call good calls), nofun⟩

theorem fresh_waits (state : τ) (good : Good state) (call : γ) (calls : client.call state = some call) :
    ∃ resume returned, client.turn (.start state) = .poll resume ∧ client.play call [false] [] = some returned ∧
      client.pending returned = true ∧
      client.turn (resume false) = .yield (.start (client.advance state [false] [] returned)) := by
  obtain ⟨returned, played, pending⟩ := alternates.waits call [] [] (alternates.fresh state call good calls)
  refine ⟨fun up => client.settle state call ([] ++ [up]) [], returned, ?_, played, pending, ?_⟩
  · simp only [turn, Caller.start, Bool.false_eq_true, if_false, calls, played, Option.isSome_some, if_true]
  · beta_reduce
    rw [client.settle_some _ _ _ _ returned played]
    exact client.turn_waiting _ pending

theorem polling_rests (caller : Caller τ β) (call : γ) (calls : client.call caller.state = some call)
    (polling : Polling call caller.ready caller.got) : ∀ go, client.turn caller ≠ .attempt go := by
  intro go tries
  obtain ⟨other, same, silent, _⟩ := client.turn_attempt caller go tries
  obtain rfl : call = other := Option.some.inj (calls.symm.trans same)
  obtain ⟨returned, played, _⟩ := alternates.waits call _ _ polling
  rw [played] at silent
  cases silent

theorem fresh_rests (caller : Caller τ β) (good : Good caller.state) (ready : caller.ready = []) (got : caller.got = []) :
    ∀ go, client.turn caller ≠ .attempt go := by
  intro go tries
  obtain ⟨call, calls, _⟩ := client.turn_attempt caller go tries
  have polling : Polling call caller.ready caller.got := by
    rw [ready, got]
    exact alternates.fresh caller.state call good calls
  exact client.polling_rests Good Paused Polling Reading alternates caller call calls polling go tries

theorem reading_tries (caller : Caller τ β) (calling : caller.waiting = false) (call : γ)
    (calls : client.call caller.state = some call) (reading : Reading call caller.ready caller.got) :
    ∃ go, client.turn caller = .attempt go := by
  have silent := alternates.tries call _ _ reading
  exact ⟨_, by simp only [turn, calling, calls, silent, Option.isSome_none, Bool.false_eq_true, if_false]; rfl⟩

theorem placed_polling (caller : Caller τ β) (placed : client.Placed Good Paused Polling Reading caller) (call : γ)
    (returned : ρ) (calls : client.call caller.state = some call)
    (played : client.play call (caller.ready ++ [false]) caller.got = some returned) :
    Polling call caller.ready caller.got := by
  rcases placed.place call calls with polling | reading
  · exact polling
  · rw [alternates.tries call _ _ reading] at played
    cases played

theorem placed_reading (caller : Caller τ β) (placed : client.Placed Good Paused Polling Reading caller) (call : γ)
    (calls : client.call caller.state = some call)
    (silent : client.play call (caller.ready ++ [false]) caller.got = none) :
    Reading call caller.ready caller.got := by
  rcases placed.place call calls with polling | reading
  · obtain ⟨returned, played, _⟩ := alternates.waits call _ _ polling
    rw [played] at silent
    cases silent
  · exact reading

theorem placed_settle (state : τ) (good : Good state) (call : γ) (calls : client.call state = some call) (ready : List Bool)
    (got : List (Option β)) (place : client.play call ready got = none → Polling call ready got ∨ Reading call ready got) :
    client.Placed Good Paused Polling Reading (client.settle state call ready got) := by
  cases played : client.play call ready got with
  | none =>
      rw [client.settle_none _ _ _ _ played]
      refine ⟨good, ?_, nofun⟩
      intro other same
      obtain rfl : call = other := Option.some.inj (calls.symm.trans same)
      exact place played
  | some returned =>
      rw [client.settle_some _ _ _ _ returned played]
      have kept := alternates.returns state call ready got returned good calls played
      exact ⟨kept, fun next again => .inl (alternates.fresh _ next kept again),
        fun pending => ⟨⟨rfl, rfl⟩, alternates.pauses state call ready got returned good calls played pending⟩⟩

-- A call that has just made an attempt leaves no waker, so it must not tell
-- its client to wait.
theorem answered_works (state : τ) (call : γ) (ready : List Bool) (got : List (Option β)) (answer : Option β)
    (reading : Reading call ready got) :
    ∀ rest, client.turn (client.settle state call ready (got ++ [answer])) ≠ .yield rest := by
  intro rest yields
  obtain ⟨waiting, _⟩ := client.turn_yield _ rest yields
  cases played : client.play call ready (got ++ [answer]) with
  | none =>
      rw [client.settle_none _ _ _ _ played] at waiting
      cases waiting
  | some returned =>
      rw [client.settle_some _ _ _ _ returned played] at waiting
      rw [alternates.answers call ready got answer returned reading played] at waiting
      cases waiting

theorem callers_paced (Serve : κ → β → κ → Prop) (Supply : κ → κ → Prop) (left : τ → Nat) (burden : κ → Nat)
    (steady : ∀ state call ready got returned, Good state → client.call state = some call →
      client.play call ready got = some returned → left (client.advance state ready got returned) ≤ left state)
    (spent : ∀ state call ready got resource answer next, Good state → client.call state = some call →
      Reading call ready got → Serve resource answer next →
      left (client.settle state call ready (got ++ [some answer])).state + burden next < left state + burden resource)
    (supplied : ∀ resource next, Supply resource next → burden next < burden resource) :
    Reactor.Paced client.turn Serve Supply (client.Placed Good Paused Polling Reading) (fun caller => left caller.state) burden := by
  have settles (state : τ) (call : γ) (ready : List Bool) (got : List (Option β)) (good : Good state)
      (calls : client.call state = some call) : left (client.settle state call ready got).state ≤ left state := by
    cases played : client.play call ready got with
    | none => rw [client.settle_none _ _ _ _ played]
    | some returned =>
        rw [client.settle_some _ _ _ _ returned played]
        exact steady state call ready got returned good calls played
  constructor
  · intro caller resume placed asks
    obtain ⟨call, returned, calls, played, rfl⟩ := client.turn_poll caller resume asks
    obtain ⟨silent, reading⟩ := alternates.passed call _ _
      (client.placed_polling Good Paused Polling Reading alternates caller placed call returned calls played)
    have next := client.placed_settle Good Paused Polling Reading alternates _ placed.good call calls _ _ (fun _ => .inr reading)
    simp only [client.settle_none _ _ _ _ silent] at next ⊢
    exact ⟨next, client.reading_tries Good Paused Polling Reading alternates _ rfl call calls reading, Nat.le_refl _⟩
  · intro caller resume placed asks
    obtain ⟨call, returned, calls, played, rfl⟩ := client.turn_poll caller resume asks
    have polling := client.placed_polling Good Paused Polling Reading alternates caller placed call returned calls played
    obtain ⟨told, again, pending⟩ := alternates.waits call _ _ polling
    refine ⟨client.placed_settle Good Paused Polling Reading alternates _ placed.good call calls _ _ ?_, ?_,
      settles _ _ _ _ placed.good calls⟩
    · intro silent
      rw [again] at silent
      cases silent
    · simp only [client.settle_some _ _ _ _ told again]
      exact ⟨_, client.turn_waiting _ pending⟩
  · intro caller resume placed tries
    obtain ⟨call, calls, silent, rfl⟩ := client.turn_attempt caller resume tries
    have reading := client.placed_reading Good Paused Polling Reading alternates caller placed call calls silent
    refine ⟨client.placed_settle Good Paused Polling Reading alternates _ placed.good call calls _ _
      (fun asked => .inl (alternates.refused call _ _ reading asked)), ?_,
      client.answered_works Good Paused Polling Reading alternates _ call _ _ none reading, settles _ _ _ _ placed.good calls⟩
    beta_reduce
    cases played : client.play call caller.ready (caller.got ++ [none]) with
    | none =>
        rw [client.settle_none _ _ _ _ played]
        exact client.polling_rests Good Paused Polling Reading alternates _ call calls (alternates.refused call _ _ reading played)
    | some returned =>
        rw [client.settle_some _ _ _ _ returned played]
        exact client.fresh_rests Good Paused Polling Reading alternates _
          (alternates.returns _ call _ _ returned placed.good calls played) rfl rfl
  · intro caller resume resource answer next placed tries served
    obtain ⟨call, calls, silent, rfl⟩ := client.turn_attempt caller resume tries
    have reading := client.placed_reading Good Paused Polling Reading alternates caller placed call calls silent
    exact ⟨client.placed_settle Good Paused Polling Reading alternates _ placed.good call calls _ _
        (alternates.served call _ _ answer reading),
      client.answered_works Good Paused Polling Reading alternates _ call _ _ (some answer) reading,
      spent _ call _ _ resource answer next placed.good calls reading served⟩
  · intro caller resume placed yields
    obtain ⟨waiting, rfl⟩ := client.turn_yield caller resume yields
    obtain ⟨⟨ready, got⟩, _⟩ := placed.paused waiting
    refine ⟨⟨placed.good, placed.place, nofun⟩,
      client.fresh_rests Good Paused Polling Reading alternates _ placed.good ready got, ?_, Nat.le_refl _⟩
    intro rest again
    cases (client.turn_yield _ rest again).1
  · exact supplied

end Alternation

-- Any number of such clients in one reactor.
section Calling

variable {ι ω : Type} (slot : ι → ω) (Idle : κ → Prop) (Good Paused : τ → Prop)
  (Polling Reading : γ → List Bool → List (Option β) → Prop)

structure Calling (reactor : Reactor ι ω (Caller τ β) κ) : Prop where
  attentive : Reactor.Attentive slot client.turn Idle reactor
  dormant : Reactor.Dormant (fun caller => caller.got = [] ∧ Paused caller.state) reactor
  placed : ∀ i, client.Placed Good Paused Polling Reading (reactor.tasks i)

theorem calling_start (alternates : client.Alternates Good Paused Polling Reading) (states : ι → τ) (good : ∀ i, Good (states i))
    (resource : κ) :
    client.Calling slot Idle Good Paused Polling Reading (Reactor.start (fun i => .start (states i)) resource) := by
  refine ⟨Reactor.attentive_start _ _ _ _ _ ?_, Reactor.dormant_start _ _ _, ?_⟩
  · intro i rest yields
    cases (client.turn_yield _ rest yields).1
  · intro i
    exact client.placed_start Good Paused Polling Reading alternates (states i) (good i)

-- Who sleeps was told to, and with something to do there is woken.
theorem calling_asleep (reactor : Reactor ι ω (Caller τ β) κ) (calling : client.Calling slot Idle Good Paused Polling Reading reactor)
    (i : ι) (asleep : Reactor.Asleep client.turn reactor i) :
    Paused (reactor.tasks i).state ∧
      (¬ Idle reactor.resource → reactor.event = true ∧ reactor.wakers (slot i) = some i) := by
  refine ⟨?_, Reactor.wake_up_due slot client.turn Idle reactor calling.attentive i asleep⟩
  rcases asleep with parked | ⟨_, rest, yields⟩
  · exact (calling.dormant i (by rw [parked]; rfl)).2
  · exact ((calling.placed i).paused (client.turn_yield _ rest yields).1).2

variable [DecidableEq ι] [DecidableEq ω] (Serve : κ → β → κ → Prop) (Supply : κ → κ → Prop)

theorem calling_move (separate : Function.Injective slot) (effort : Caller τ β → Nat) (burden : κ → Nat)
    (paced : Reactor.Paced client.turn Serve Supply (client.Placed Good Paused Polling Reading) effort burden)
    (reactor after : Reactor ι ω (Caller τ β) κ) (calling : client.Calling slot Idle Good Paused Polling Reading reactor)
    (move : Reactor.Move slot client.turn Idle Serve Supply reactor after) :
    client.Calling slot Idle Good Paused Polling Reading after := by
  constructor
  · exact Reactor.attentive_move _ _ _ _ _ separate _ _ _ paced reactor after calling.placed calling.attentive move
  · exact Reactor.dormant_move _ _ _ _ _ _ _ (client.placed_rests Good Paused Polling Reading) reactor after calling.placed
      calling.dormant move
  · exact Reactor.keeps_move _ _ _ _ _ _ (Reactor.paced_keeps _ _ _ _ _ _ paced) reactor after calling.placed move

end Calling

end Client
