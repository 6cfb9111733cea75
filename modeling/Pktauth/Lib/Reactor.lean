import Mathlib.Algebra.Order.BigOperators.Group.Finset
import Mathlib.Algebra.Ring.Nat
import Mathlib.Data.Fintype.Basic
import Mathlib.Logic.Function.Basic
import Pktauth.Lib.Run

set_option autoImplicit false

-- What a task does next: ask whether the resource is ready, attempt an
-- operation that may find nothing to do, give up its thread until something
-- wakes it, or no more at all.
inductive Turn (β σ : Type) where
  | poll (resume : Bool → σ)
  | attempt (resume : Option β → σ)
  | yield (resume : σ)
  | done

-- A task that is woken while it still runs is run again as soon as it gives up
-- its thread. A parked one is not run again before it is woken.
inductive Status where
  | running
  | notified
  | parked
  | scheduled
deriving DecidableEq

def Status.active : Status → Bool
  | .running | .notified => true
  | .parked | .scheduled => false

def Status.wake : Status → Status
  | .running | .notified => .notified
  | .parked | .scheduled => .scheduled

def Status.suspend : Status → Status
  | .running | .parked => .parked
  | .notified | .scheduled => .scheduled

-- Tasks that share a nonblocking resource. The flag is what the reactor
-- believes of the resource: it goes up some time after the resource has raised
-- an event, and comes down when an attempt has found nothing. Whose poll finds
-- it down leaves a waker in a slot, in place of any waker already there.
structure Reactor (ι ω σ κ : Type) where
  tasks : ι → σ
  status : ι → Status
  wakers : ω → Option ι
  flag : Bool
  event : Bool
  resource : κ

namespace Reactor

variable {ι ω σ κ β : Type} [DecidableEq ι]

def start (tasks : ι → σ) (resource : κ) : Reactor ι ω σ κ := ⟨tasks, fun _ => .running, fun _ => none, false, true, resource⟩

def put (reactor : Reactor ι ω σ κ) (i : ι) (task : σ) : Reactor ι ω σ κ :=
  { reactor with tasks := Function.update reactor.tasks i task }

def mark (reactor : Reactor ι ω σ κ) (i : ι) (status : Status) : Reactor ι ω σ κ :=
  { reactor with status := Function.update reactor.status i status }

section Steps

variable [DecidableEq ω] (slot : ι → ω) (turn : σ → Turn β σ) (Idle : κ → Prop) (Serve : κ → β → κ → Prop) (Supply : κ → κ → Prop)

def register (reactor : Reactor ι ω σ κ) (i : ι) : Reactor ι ω σ κ :=
  { reactor with wakers := Function.update reactor.wakers (slot i) (some i) }

-- An event takes every waker that is there and uses it up.
def dispatch (reactor : Reactor ι ω σ κ) : Reactor ι ω σ κ :=
  { reactor with
    flag := true
    event := false
    wakers := fun _ => none
    status := fun i => if reactor.wakers (slot i) = some i then (reactor.status i).wake else reactor.status i }

inductive Step : Reactor ι ω σ κ → Reactor ι ω σ κ → Prop where
  | pass (reactor : Reactor ι ω σ κ) (i : ι) (resume : Bool → σ) (runs : (reactor.status i).active = true)
      (asks : turn (reactor.tasks i) = .poll resume) (up : reactor.flag = true) : Step reactor (reactor.put i (resume true))
  | wait (reactor : Reactor ι ω σ κ) (i : ι) (resume : Bool → σ) (runs : (reactor.status i).active = true)
      (asks : turn (reactor.tasks i) = .poll resume) (down : reactor.flag = false) :
      Step reactor ((reactor.put i (resume false)).register slot i)
  | refuse (reactor : Reactor ι ω σ κ) (i : ι) (resume : Option β → σ) (runs : (reactor.status i).active = true)
      (tries : turn (reactor.tasks i) = .attempt resume) (down : reactor.flag = false) :
      Step reactor (reactor.put i (resume none))
  | exhaust (reactor : Reactor ι ω σ κ) (i : ι) (resume : Option β → σ) (runs : (reactor.status i).active = true)
      (tries : turn (reactor.tasks i) = .attempt resume) (up : reactor.flag = true) (idle : Idle reactor.resource) :
      Step reactor { reactor.put i (resume none) with flag := false }
  | serve (reactor : Reactor ι ω σ κ) (i : ι) (resume : Option β → σ) (answer : β) (next : κ)
      (runs : (reactor.status i).active = true) (tries : turn (reactor.tasks i) = .attempt resume) (up : reactor.flag = true)
      (served : Serve reactor.resource answer next) :
      Step reactor { reactor.put i (resume (some answer)) with resource := next }
  | yield (reactor : Reactor ι ω σ κ) (i : ι) (resume : σ) (runs : (reactor.status i).active = true)
      (yields : turn (reactor.tasks i) = .yield resume) :
      Step reactor ((reactor.put i resume).mark i (reactor.status i).suspend)
  | dispatch (reactor : Reactor ι ω σ κ) (raised : reactor.event = true) : Step reactor (reactor.dispatch slot)
  | run (reactor : Reactor ι ω σ κ) (i : ι) (woken : reactor.status i = .scheduled) : Step reactor (reactor.mark i .running)
  | supply (reactor : Reactor ι ω σ κ) (next : κ) (supplied : Supply reactor.resource next) :
      Step reactor { reactor with resource := next, event := true }

-- A task may also be woken for a reason of its own, told that the resource is
-- ready when it no longer is, and told to wait its turn although the flag is
-- up, with its wake-up already on the way and no waker left behind.
inductive Move : Reactor ι ω σ κ → Reactor ι ω σ κ → Prop where
  | step (reactor after : Reactor ι ω σ κ) (works : Step slot turn Idle Serve Supply reactor after) : Move reactor after
  | nudge (reactor : Reactor ι ω σ κ) (i : ι) : Move reactor (reactor.mark i (reactor.status i).wake)
  | mislead (reactor : Reactor ι ω σ κ) (i : ι) (resume : Bool → σ) (runs : (reactor.status i).active = true)
      (asks : turn (reactor.tasks i) = .poll resume) : Move reactor (reactor.put i (resume true))
  | defer (reactor : Reactor ι ω σ κ) (i : ι) (resume : Bool → σ) (runs : (reactor.status i).active = true)
      (asks : turn (reactor.tasks i) = .poll resume) : Move reactor ((reactor.put i (resume false)).mark i .notified)

-- What is asked of the tasks, of which Fit holds throughout. A task gives up
-- its thread where a poll has just been refused and nowhere else: any other
-- place to do so has no waker behind it. And polls and fruitless attempts take
-- turns, while every operation that is served and everything that is supplied
-- leaves less to do.
structure Paced (Fit : σ → Prop) (effort : σ → Nat) (burden : κ → Nat) : Prop where
  passed : ∀ task resume, Fit task → turn task = .poll resume →
    Fit (resume true) ∧ (∃ go, turn (resume true) = .attempt go) ∧ effort (resume true) ≤ effort task
  waited : ∀ task resume, Fit task → turn task = .poll resume →
    Fit (resume false) ∧ (∃ rest, turn (resume false) = .yield rest) ∧ effort (resume false) ≤ effort task
  refused : ∀ task resume, Fit task → turn task = .attempt resume →
    Fit (resume none) ∧ (∀ go, turn (resume none) ≠ .attempt go) ∧ (∀ rest, turn (resume none) ≠ .yield rest) ∧
      effort (resume none) ≤ effort task
  served : ∀ task resume resource answer next, Fit task → turn task = .attempt resume → Serve resource answer next →
    Fit (resume (some answer)) ∧ (∀ rest, turn (resume (some answer)) ≠ .yield rest) ∧
      effort (resume (some answer)) + burden next < effort task + burden resource
  yielded : ∀ task resume, Fit task → turn task = .yield resume →
    Fit resume ∧ (∀ go, turn resume ≠ .attempt go) ∧ (∀ rest, turn resume ≠ .yield rest) ∧ effort resume ≤ effort task
  supplied : ∀ resource next, Supply resource next → burden next < burden resource

structure Keeps (Inv : (ι → σ) → κ → Prop) : Prop where
  polled : ∀ tasks resource i resume up, Inv tasks resource → turn (tasks i) = .poll resume →
    Inv (Function.update tasks i (resume up)) resource
  refused : ∀ tasks resource i resume, Inv tasks resource → turn (tasks i) = .attempt resume →
    Inv (Function.update tasks i (resume none)) resource
  served : ∀ tasks resource i resume answer next, Inv tasks resource → turn (tasks i) = .attempt resume →
    Serve resource answer next → Inv (Function.update tasks i (resume (some answer))) next
  yielded : ∀ tasks resource i resume, Inv tasks resource → turn (tasks i) = .yield resume →
    Inv (Function.update tasks i resume) resource
  supplied : ∀ tasks resource next, Inv tasks resource → Supply resource next → Inv tasks next

theorem keeps_step (Inv : (ι → σ) → κ → Prop) (keeps : Keeps turn Serve Supply Inv) (reactor after : Reactor ι ω σ κ)
    (holds : Inv reactor.tasks reactor.resource) (step : Step slot turn Idle Serve Supply reactor after) :
    Inv after.tasks after.resource := by
  cases step with
  | pass i resume runs asks up => exact keeps.polled _ _ i resume true holds asks
  | wait i resume runs asks down => exact keeps.polled _ _ i resume false holds asks
  | refuse i resume runs tries down => exact keeps.refused _ _ i resume holds tries
  | exhaust i resume runs tries up idle => exact keeps.refused _ _ i resume holds tries
  | serve i resume answer next runs tries up served => exact keeps.served _ _ i resume answer next holds tries served
  | yield i resume runs yields => exact keeps.yielded _ _ i resume holds yields
  | dispatch raised => exact holds
  | run i woken => exact holds
  | supply next supplied => exact keeps.supplied _ _ next holds supplied

theorem keeps_move (Inv : (ι → σ) → κ → Prop) (keeps : Keeps turn Serve Supply Inv) (reactor after : Reactor ι ω σ κ)
    (holds : Inv reactor.tasks reactor.resource) (move : Move slot turn Idle Serve Supply reactor after) :
    Inv after.tasks after.resource := by
  cases move with
  | step _ works => exact keeps_step slot turn Idle Serve Supply Inv keeps reactor after holds works
  | nudge i => exact holds
  | mislead i resume runs asks => exact keeps.polled _ _ i resume true holds asks
  | defer i resume runs asks => exact keeps.polled _ _ i resume false holds asks

end Steps

section Attention

variable (slot : ι → ω) (turn : σ → Turn β σ) (Idle : κ → Prop) (Serve : κ → β → κ → Prop) (Supply : κ → κ → Prop)

-- Who will see to it that a task runs again: itself, as long as it has not
-- given up its thread or is to be run again at once, and else its waker.
def covered (registered yields : Prop) : Status → Prop
  | .running => yields → registered
  | .notified => True
  | .parked => registered ∧ ¬ yields
  | .scheduled => ¬ yields

def Covered (reactor : Reactor ι ω σ κ) (i : ι) : Prop :=
  covered (reactor.wakers (slot i) = some i) (∃ rest, turn (reactor.tasks i) = .yield rest) (reactor.status i)

-- A resource with something to do is on the flag or on its way there, and a
-- waker is only left behind by who has found the flag down.
structure Attentive (reactor : Reactor ι ω σ κ) : Prop where
  noticed : ¬ Idle reactor.resource → reactor.flag = true ∨ reactor.event = true
  registered : ∀ place, reactor.wakers place ≠ none → reactor.flag = false
  covered : ∀ i, Covered slot turn reactor i

omit [DecidableEq ι] in
theorem attentive_start (tasks : ι → σ) (resource : κ) (fresh : ∀ i rest, turn (tasks i) ≠ .yield rest) :
    Attentive slot turn Idle (start tasks resource) :=
  ⟨fun _ => .inr rfl, fun _ taken => absurd rfl taken, fun i ⟨rest, yields⟩ => absurd yields (fresh i rest)⟩

omit [DecidableEq ι] in
theorem covered_frame (reactor after : Reactor ι ω σ κ) (i : ι) (holds : Covered slot turn reactor i)
    (task : after.tasks i = reactor.tasks i) (status : after.status i = reactor.status i)
    (waker : after.wakers (slot i) = reactor.wakers (slot i)) : Covered slot turn after i := by
  rw [Covered, task, status, waker]
  exact holds

omit [DecidableEq ι] in
theorem covered_working (reactor : Reactor ι ω σ κ) (i : ι) (runs : (reactor.status i).active = true)
    (goesOn : ∀ rest, turn (reactor.tasks i) ≠ .yield rest) : Covered slot turn reactor i := by
  rw [Covered]
  cases status : reactor.status i with
  | running => exact fun ⟨rest, yields⟩ => absurd yields (goesOn rest)
  | notified => trivial
  | parked | scheduled => simp [status, Status.active] at runs

theorem covered_put (reactor : Reactor ι ω σ κ) (holds : ∀ i, Covered slot turn reactor i) (i : ι) (task : σ)
    (runs : (reactor.status i).active = true) (goesOn : ∀ rest, turn task ≠ .yield rest) (j : ι) :
    Covered slot turn (reactor.put i task) j := by
  by_cases own : j = i
  · subst own
    exact covered_working slot turn (reactor.put j task) j runs (by simpa [put] using goesOn)
  · exact covered_frame slot turn reactor _ j (holds j) (by simp [put, own]) rfl rfl

theorem covered_yield (reactor : Reactor ι ω σ κ) (holds : ∀ i, Covered slot turn reactor i) (i : ι) (resume : σ)
    (runs : (reactor.status i).active = true) (yields : turn (reactor.tasks i) = .yield resume)
    (goesOn : ∀ rest, turn resume ≠ .yield rest) (j : ι) :
    Covered slot turn ((reactor.put i resume).mark i (reactor.status i).suspend) j := by
  by_cases own : j = i
  · subst own
    have before := holds j
    rw [Covered] at before ⊢
    cases status : reactor.status j with
    | running =>
        rw [status] at before
        simpa [covered, put, mark, Status.suspend, goesOn] using before ⟨resume, yields⟩
    | notified => simpa [covered, put, mark, Status.suspend] using goesOn
    | parked | scheduled => simp [status, Status.active] at runs
  · exact covered_frame slot turn reactor _ j (holds j) (by simp [put, mark, own]) (by simp [put, mark, own]) rfl

theorem covered_dispatch (reactor : Reactor ι ω σ κ) (holds : ∀ i, Covered slot turn reactor i) (i : ι) :
    Covered slot turn (reactor.dispatch slot) i := by
  have before := holds i
  simp only [Covered, dispatch] at before ⊢
  by_cases registered : reactor.wakers (slot i) = some i
  · rw [if_pos registered]
    cases status : reactor.status i with
    | running => trivial
    | notified => trivial
    | parked =>
        rw [status] at before
        exact before.2
    | scheduled =>
        rw [status] at before
        exact before
  · rw [if_neg registered]
    cases status : reactor.status i with
    | running =>
        rw [status] at before
        exact fun yields => absurd (before yields) registered
    | notified => trivial
    | parked =>
        rw [status] at before
        exact absurd before.1 registered
    | scheduled =>
        rw [status] at before
        exact before

theorem covered_run (reactor : Reactor ι ω σ κ) (holds : ∀ i, Covered slot turn reactor i) (i : ι)
    (woken : reactor.status i = .scheduled) (j : ι) : Covered slot turn (reactor.mark i .running) j := by
  by_cases own : j = i
  · subst own
    have before := holds j
    rw [Covered, woken] at before
    simp only [Covered, mark, Function.update_self]
    exact fun yields => absurd yields before
  · exact covered_frame slot turn reactor _ j (holds j) rfl (by simp [mark, own]) rfl

theorem covered_nudge (reactor : Reactor ι ω σ κ) (holds : ∀ i, Covered slot turn reactor i) (i j : ι) :
    Covered slot turn (reactor.mark i (reactor.status i).wake) j := by
  by_cases own : j = i
  · subst own
    have before := holds j
    simp only [Covered, mark, Function.update_self] at before ⊢
    cases status : reactor.status j with
    | running => trivial
    | notified => trivial
    | parked =>
        rw [status] at before
        exact before.2
    | scheduled =>
        rw [status] at before
        exact before
  · exact covered_frame slot turn reactor _ j (holds j) rfl (by simp [mark, own]) rfl

-- It has given up its thread, or is about to, and nothing has woken it since
-- it last asked.
def Asleep (reactor : Reactor ι ω σ κ) (i : ι) : Prop :=
  reactor.status i = .parked ∨ (reactor.status i = .running ∧ ∃ rest, turn (reactor.tasks i) = .yield rest)

omit [DecidableEq ι] in
-- No wake-up is lost: the waker of a task that sleeps is where the event will
-- find it.
theorem wake_up_due (reactor : Reactor ι ω σ κ) (attentive : Attentive slot turn Idle reactor) (i : ι)
    (asleep : Asleep turn reactor i) (busy : ¬ Idle reactor.resource) :
    reactor.event = true ∧ reactor.wakers (slot i) = some i := by
  have waits := attentive.covered i
  have registered : reactor.wakers (slot i) = some i := by
    rw [Covered] at waits
    rcases asleep with parked | ⟨running, yields⟩
    · rw [parked] at waits
      exact waits.1
    · rw [running] at waits
      exact waits yields
  refine ⟨?_, registered⟩
  rcases attentive.noticed busy with up | raised
  · have down := attentive.registered (slot i) (by simp [registered])
    rw [up] at down
    cases down
  · exact raised

variable [DecidableEq ω]

theorem covered_register (separate : Function.Injective slot) (reactor : Reactor ι ω σ κ)
    (holds : ∀ i, Covered slot turn reactor i) (i : ι) (task : σ) (runs : (reactor.status i).active = true) (j : ι) :
    Covered slot turn ((reactor.put i task).register slot i) j := by
  by_cases own : j = i
  · subst own
    rw [Covered]
    cases status : reactor.status j with
    | running => simp [covered, put, register, status]
    | notified => simp [covered, put, register, status]
    | parked | scheduled => simp [status, Status.active] at runs
  · have apart : slot j ≠ slot i := fun same => own (separate same)
    exact covered_frame slot turn reactor _ j (holds j) (by simp [put, register, own]) rfl (by simp [put, register, apart])

variable (separate : Function.Injective slot) (Fit : σ → Prop) (effort : σ → Nat) (burden : κ → Nat)
  (paced : Paced turn Serve Supply Fit effort burden)

include separate paced

theorem attentive_step (reactor after : Reactor ι ω σ κ) (fit : ∀ i, Fit (reactor.tasks i))
    (attentive : Attentive slot turn Idle reactor) (step : Step slot turn Idle Serve Supply reactor after) :
    Attentive slot turn Idle after := by
  obtain ⟨noticed, registered, holds⟩ := attentive
  cases step with
  | pass i resume runs asks up =>
      obtain ⟨_, ⟨go, tries⟩, _⟩ := paced.passed _ resume (fit i) asks
      exact ⟨noticed, registered, covered_put slot turn reactor holds i _ runs (by simp [tries])⟩
  | wait i resume runs asks down =>
      exact ⟨noticed, fun _ _ => down, covered_register slot turn separate reactor holds i _ runs⟩
  | refuse i resume runs tries down =>
      obtain ⟨_, _, goesOn, _⟩ := paced.refused _ resume (fit i) tries
      exact ⟨noticed, registered, covered_put slot turn reactor holds i _ runs goesOn⟩
  | exhaust i resume runs tries up idle =>
      obtain ⟨_, _, goesOn, _⟩ := paced.refused _ resume (fit i) tries
      exact ⟨fun busy => absurd idle busy, fun _ _ => rfl, covered_put slot turn reactor holds i _ runs goesOn⟩
  | serve i resume answer next runs tries up served =>
      obtain ⟨_, goesOn, _⟩ := paced.served _ resume _ answer next (fit i) tries served
      exact ⟨fun _ => .inl up, registered, covered_put slot turn reactor holds i _ runs goesOn⟩
  | yield i resume runs yields =>
      obtain ⟨_, _, goesOn, _⟩ := paced.yielded _ resume (fit i) yields
      exact ⟨noticed, registered, covered_yield slot turn reactor holds i resume runs yields goesOn⟩
  | dispatch raised =>
      exact ⟨fun _ => .inl rfl, fun _ taken => absurd rfl taken, covered_dispatch slot turn reactor holds⟩
  | run i woken => exact ⟨noticed, registered, covered_run slot turn reactor holds i woken⟩
  | supply next supplied => exact ⟨fun _ => .inr rfl, registered, holds⟩

theorem attentive_move (reactor after : Reactor ι ω σ κ) (fit : ∀ i, Fit (reactor.tasks i))
    (attentive : Attentive slot turn Idle reactor) (move : Move slot turn Idle Serve Supply reactor after) :
    Attentive slot turn Idle after := by
  cases move with
  | step _ works =>
      exact attentive_step slot turn Idle Serve Supply separate Fit effort burden paced reactor after fit attentive works
  | nudge i => exact ⟨attentive.noticed, attentive.registered, covered_nudge slot turn reactor attentive.covered i⟩
  | mislead i resume runs asks =>
      obtain ⟨_, ⟨go, tries⟩, _⟩ := paced.passed _ resume (fit i) asks
      exact ⟨attentive.noticed, attentive.registered,
        covered_put slot turn reactor attentive.covered i _ runs (by simp [tries])⟩
  | defer i resume runs asks =>
      refine ⟨attentive.noticed, attentive.registered, fun j => ?_⟩
      by_cases own : j = i
      · subst own
        simp [Covered, covered, mark]
      · exact covered_frame slot turn reactor _ j (attentive.covered j) (by simp [put, mark, own]) (by simp [put, mark, own]) rfl

omit separate paced in
theorem stuck_waits (able : ∀ resource, ¬ Idle resource → ∃ answer next, Serve resource answer next)
    (reactor : Reactor ι ω σ κ) (attentive : Attentive slot turn Idle reactor)
    (stuck : ∀ after, ¬ Step slot turn Idle Serve Supply reactor after) :
    (∀ next, ¬ Supply reactor.resource next) ∧
      ∀ i, turn (reactor.tasks i) = .done ∨ (reactor.status i = .parked ∧ Idle reactor.resource) := by
  refine ⟨fun next supplied => stuck _ (.supply reactor next supplied), ?_⟩
  intro i
  have working (runs : (reactor.status i).active = true) : turn (reactor.tasks i) = .done := by
    cases next : turn (reactor.tasks i) with
    | done => rfl
    | yield resume => exact absurd (.yield reactor i resume runs next) (stuck _)
    | poll resume =>
        cases flag : reactor.flag with
        | true => exact absurd (.pass reactor i resume runs next flag) (stuck _)
        | false => exact absurd (.wait reactor i resume runs next flag) (stuck _)
    | attempt resume =>
        cases flag : reactor.flag with
        | false => exact absurd (.refuse reactor i resume runs next flag) (stuck _)
        | true =>
            by_cases idle : Idle reactor.resource
            · exact absurd (.exhaust reactor i resume runs next flag idle) (stuck _)
            · obtain ⟨answer, after, served⟩ := able reactor.resource idle
              exact absurd (.serve reactor i resume answer after runs next flag served) (stuck _)
  cases status : reactor.status i with
  | running => exact .inl (working (by rw [status]; rfl))
  | notified => exact .inl (working (by rw [status]; rfl))
  | scheduled => exact absurd (.run reactor i status) (stuck _)
  | parked =>
      right
      refine ⟨rfl, ?_⟩
      by_contra busy
      exact stuck _ (.dispatch reactor (wake_up_due slot turn Idle reactor attentive i (.inl status) busy).1)

end Attention

section Dormancy

variable (slot : ι → ω) (turn : σ → Turn β σ) (Idle : κ → Prop) (Serve : κ → β → κ → Prop) (Supply : κ → κ → Prop)

-- A task that does not run is where it was when it gave up its thread.
def Dormant (Rested : σ → Prop) (reactor : Reactor ι ω σ κ) : Prop :=
  ∀ i, (reactor.status i).active = false → Rested (reactor.tasks i)

omit [DecidableEq ι] in
theorem dormant_start (Rested : σ → Prop) (tasks : ι → σ) (resource : κ) :
    Dormant Rested (start tasks resource : Reactor ι ω σ κ) :=
  fun _ asleep => by cases asleep

omit [DecidableEq ι] in
theorem dormant_working (Rested : σ → Prop) (reactor after : Reactor ι ω σ κ) (dormant : Dormant Rested reactor) (i : ι)
    (runs : (reactor.status i).active = true) (status : after.status = reactor.status)
    (others : ∀ other, other ≠ i → after.tasks other = reactor.tasks other) : Dormant Rested after := by
  intro other asleep
  rw [status] at asleep
  have apart : other ≠ i := by
    rintro rfl
    rw [runs] at asleep
    cases asleep
  rw [others other apart]
  exact dormant other asleep

omit [DecidableEq ι] in
theorem dormant_marked (Rested : σ → Prop) (reactor after : Reactor ι ω σ κ) (dormant : Dormant Rested reactor) (i : ι)
    (others : ∀ other, other ≠ i → after.tasks other = reactor.tasks other ∧ after.status other = reactor.status other)
    (own : (after.status i).active = false → Rested (after.tasks i)) : Dormant Rested after := by
  intro other asleep
  by_cases same : other = i
  · subst same
    exact own asleep
  · rw [(others other same).1]
    exact dormant other ((others other same).2 ▸ asleep)

variable [DecidableEq ω]

theorem wake_active (status : Status) : status.wake.active = status.active := by
  cases status <;> rfl

theorem dormant_step (Fit Rested : σ → Prop) (rests : ∀ task resume, Fit task → turn task = .yield resume → Rested resume)
    (reactor after : Reactor ι ω σ κ) (fit : ∀ i, Fit (reactor.tasks i)) (dormant : Dormant Rested reactor)
    (step : Step slot turn Idle Serve Supply reactor after) : Dormant Rested after := by
  cases step with
  | pass i resume runs asks up =>
      exact dormant_working Rested reactor _ dormant i runs rfl (fun other apart => by simp [put, apart])
  | wait i resume runs asks down =>
      exact dormant_working Rested reactor _ dormant i runs rfl (fun other apart => by simp [put, register, apart])
  | refuse i resume runs tries down =>
      exact dormant_working Rested reactor _ dormant i runs rfl (fun other apart => by simp [put, apart])
  | exhaust i resume runs tries up idle =>
      exact dormant_working Rested reactor _ dormant i runs rfl (fun other apart => by simp [put, apart])
  | serve i resume answer next runs tries up served =>
      exact dormant_working Rested reactor _ dormant i runs rfl (fun other apart => by simp [put, apart])
  | yield i resume runs yields =>
      exact dormant_marked Rested reactor _ dormant i (fun other apart => by simp [put, mark, apart])
        (fun _ => by simpa [put, mark] using rests _ resume (fit i) yields)
  | dispatch raised =>
      intro i asleep
      apply dormant i
      simp only [dispatch] at asleep
      split at asleep
      · rwa [wake_active] at asleep
      · exact asleep
  | run i woken =>
      exact dormant_marked Rested reactor _ dormant i (fun other apart => by simp [mark, apart])
        (fun asleep => by simp [mark, Status.active] at asleep)
  | supply next supplied => exact dormant

theorem dormant_move (Fit Rested : σ → Prop) (rests : ∀ task resume, Fit task → turn task = .yield resume → Rested resume)
    (reactor after : Reactor ι ω σ κ) (fit : ∀ i, Fit (reactor.tasks i)) (dormant : Dormant Rested reactor)
    (move : Move slot turn Idle Serve Supply reactor after) : Dormant Rested after := by
  cases move with
  | step _ works => exact dormant_step slot turn Idle Serve Supply Fit Rested rests reactor after fit dormant works
  | nudge i =>
      refine dormant_marked Rested reactor _ dormant i (fun other apart => by simp [mark, apart]) (fun asleep => ?_)
      simp only [mark, Function.update_self, wake_active] at asleep
      exact dormant i asleep
  | mislead i resume runs asks =>
      exact dormant_working Rested reactor _ dormant i runs rfl (fun other apart => by simp [put, apart])
  | defer i resume runs asks =>
      exact dormant_marked Rested reactor _ dormant i (fun other apart => by simp [put, mark, apart])
        (fun asleep => by simp [mark, Status.active] at asleep)

end Dormancy

section Loss

variable [DecidableEq ω] (slot : ι → ω) (turn : σ → Turn β σ) (Idle : κ → Prop) (Serve : κ → β → κ → Prop)
  (Supply : κ → κ → Prop)

def Lost (i : ι) (reactor : Reactor ι ω σ κ) : Prop := reactor.status i = .parked ∧ ∀ place, reactor.wakers place ≠ some i

omit [DecidableEq ι] [DecidableEq ω] in
theorem lost_frame (i : ι) (task : σ) (reactor after : Reactor ι ω σ κ) (lost : Lost i reactor ∧ reactor.tasks i = task) (j : ι)
    (runs : reactor.status j ≠ .parked) (tasks : ∀ other, other ≠ j → after.tasks other = reactor.tasks other)
    (status : ∀ other, other ≠ j → after.status other = reactor.status other)
    (wakers : ∀ place, after.wakers place = reactor.wakers place ∨ after.wakers place = some j) :
    Lost i after ∧ after.tasks i = task := by
  obtain ⟨⟨parked, gone⟩, held⟩ := lost
  have apart : i ≠ j := by
    rintro rfl
    exact runs parked
  refine ⟨⟨(status i apart).trans parked, ?_⟩, (tasks i apart).trans held⟩
  intro place left
  rcases wakers place with same | other
  · exact gone place (same.symm.trans left)
  · exact apart (Option.some.inj (left.symm.trans other))

-- A task that sleeps without a waker is never run again, whatever is supplied.
theorem lost_step (i : ι) (task : σ) (reactor after : Reactor ι ω σ κ) (lost : Lost i reactor ∧ reactor.tasks i = task)
    (step : Step slot turn Idle Serve Supply reactor after) : Lost i after ∧ after.tasks i = task := by
  have awake (j : ι) (runs : (reactor.status j).active = true) : reactor.status j ≠ .parked := by
    intro parked
    rw [parked] at runs
    cases runs
  cases step with
  | pass j resume runs asks up =>
      exact lost_frame i task reactor _ lost j (awake j runs) (fun other apart => by simp [put, apart]) (fun _ _ => rfl)
        (fun _ => .inl rfl)
  | wait j resume runs asks down =>
      refine lost_frame i task reactor _ lost j (awake j runs) (fun other apart => by simp [put, register, apart]) (fun _ _ => rfl)
        (fun place => ?_)
      by_cases own : place = slot j
      · exact .inr (by simp [put, register, own])
      · exact .inl (by simp [put, register, own])
  | refuse j resume runs tries down =>
      exact lost_frame i task reactor _ lost j (awake j runs) (fun other apart => by simp [put, apart]) (fun _ _ => rfl)
        (fun _ => .inl rfl)
  | exhaust j resume runs tries up idle =>
      exact lost_frame i task reactor _ lost j (awake j runs) (fun other apart => by simp [put, apart]) (fun _ _ => rfl)
        (fun _ => .inl rfl)
  | serve j resume answer next runs tries up served =>
      exact lost_frame i task reactor _ lost j (awake j runs) (fun other apart => by simp [put, apart]) (fun _ _ => rfl)
        (fun _ => .inl rfl)
  | yield j resume runs yields =>
      exact lost_frame i task reactor _ lost j (awake j runs) (fun other apart => by simp [put, mark, apart])
        (fun other apart => by simp [put, mark, apart]) (fun _ => .inl rfl)
  | dispatch raised =>
      obtain ⟨⟨parked, gone⟩, held⟩ := lost
      exact ⟨⟨by simp [dispatch, gone, parked], by simp [dispatch]⟩, held⟩
  | run j woken =>
      exact lost_frame i task reactor _ lost j (by simp [woken]) (fun _ _ => rfl) (fun other apart => by simp [mark, apart])
        (fun _ => .inl rfl)
  | supply next supplied => exact lost

-- Of two tasks with one slot between them, the second to ask takes the place
-- of the first.
theorem shared_slot_loses (i j : ι) (apart : i ≠ j) (same : slot i = slot j) (reactor : Reactor ι ω σ κ)
    (down : reactor.flag = false) (vacant : ∀ place, reactor.wakers place = none)
    (running : reactor.status i = .running) (works : reactor.status j = .running) (first second : Bool → σ) (rest : σ)
    (asks : turn (reactor.tasks i) = .poll first) (asksToo : turn (reactor.tasks j) = .poll second)
    (yields : turn (first false) = .yield rest) :
    ∃ after, Relation.ReflTransGen (Step slot turn Idle Serve Supply) reactor after ∧ Lost i after ∧ after.tasks i = rest := by
  let waiting := (reactor.put i (first false)).register slot i
  let sleeping := (waiting.put i rest).mark i (reactor.status i).suspend
  have waits : Step slot turn Idle Serve Supply reactor waiting := .wait reactor i first (by rw [running]; rfl) asks down
  have sleeps : Step slot turn Idle Serve Supply waiting sleeping :=
    .yield waiting i rest (by rw [show waiting.status i = .running from running]; rfl)
      (by simpa [waiting, put, register] using yields)
  have clobbers : Step slot turn Idle Serve Supply sleeping ((sleeping.put j (second false)).register slot j) := by
    refine .wait sleeping j second ?_ ?_ down
    · simp [sleeping, waiting, put, register, mark, apart.symm, works, Status.active]
    · simpa [sleeping, waiting, put, register, mark, apart.symm] using asksToo
  refine ⟨_, .tail (.tail (.single waits) sleeps) clobbers, ⟨?_, ?_⟩, ?_⟩
  · simp [sleeping, waiting, put, register, mark, running, Status.suspend]
  · intro place
    by_cases own : place = slot j
    · simp [put, register, own, apart.symm]
    · simp [sleeping, waiting, put, register, mark, same, own, vacant]
  · simp [sleeping, waiting, put, register, mark, apart]

end Loss

-- How far a task is from rest, while nothing is served.
def pace (flag : Bool) : Turn β σ → Nat
  | .done => 0
  | .yield _ => 1
  | .attempt _ => 3
  | .poll _ => if flag then 4 else 2

def rank (turn : σ → Turn β σ) (flag : Bool) (task : σ) : Status → Nat
  | .running => pace flag (turn task)
  | .notified => pace flag (turn task) + 5
  | .parked => 0
  | .scheduled => pace flag (turn task) + 1

theorem pace_refused (next : Turn β σ) (other : ∀ go, next ≠ .attempt go) : pace false next < 3 := by
  cases next with
  | done => simp [pace]
  | attempt resume => exact absurd rfl (other resume)
  | yield resume => simp [pace]
  | poll resume => simp [pace]

theorem pace_bound (flag : Bool) (next : Turn β σ) : pace flag next ≤ 4 := by
  cases next <;> cases flag <;> simp [pace]

theorem pace_down (flag : Bool) (next : Turn β σ) : pace false next ≤ pace flag next := by
  cases next with
  | done | attempt resume | yield resume => exact Nat.le_refl _
  | poll resume => cases flag <;> simp [pace]

theorem rank_down (turn : σ → Turn β σ) (flag : Bool) (task : σ) (status : Status) :
    rank turn false task status ≤ rank turn flag task status := by
  have down := pace_down flag (turn task)
  cases status <;> simp only [rank] <;> omega

theorem rank_bound (turn : σ → Turn β σ) (flag : Bool) (task : σ) (status : Status) : rank turn flag task status ≤ 9 := by
  have bound := pace_bound flag (turn task)
  cases status <;> simp only [rank] <;> omega

theorem rank_nearer (turn : σ → Turn β σ) (flag flag' : Bool) (task task' : σ) (status : Status)
    (runs : status.active = true) (nearer : pace flag' (turn task') < pace flag (turn task)) :
    rank turn flag' task' status < rank turn flag task status := by
  cases status with
  | running => exact nearer
  | notified => exact Nat.add_lt_add_right nearer 5
  | parked | scheduled => cases runs

-- A task that was woken in the meantime gives up its thread only to be run
-- again.
theorem rank_suspended (turn : σ → Turn β σ) (flag : Bool) (task resume : σ) (status : Status)
    (runs : status.active = true) (yields : turn task = .yield resume) :
    rank turn flag resume status.suspend < rank turn flag task status := by
  have bound := pace_bound flag (turn resume)
  cases status with
  | running => simp [rank, Status.suspend, yields, pace]
  | notified =>
      have one : pace flag (turn task) = 1 := by rw [yields, pace]
      simp only [rank, Status.suspend]
      omega
  | parked | scheduled => cases runs

theorem sum_changed [Fintype ι] (before after : ι → Nat) (i : ι) (others : ∀ other, other ≠ i → after other ≤ before other) :
    ∑ j, after j + before i ≤ ∑ j, before j + after i := by
  have rest : ∑ j ∈ Finset.univ.erase i, after j ≤ ∑ j ∈ Finset.univ.erase i, before j :=
    Finset.sum_le_sum (fun other member => others other (Finset.ne_of_mem_erase member))
  have split (amount : ι → Nat) := Finset.add_sum_erase Finset.univ amount (Finset.mem_univ i)
  rw [← split after, ← split before]
  omega

section Weight

variable (slot : ι → ω) (turn : σ → Turn β σ) (Idle : κ → Prop) (Serve : κ → β → κ → Prop) (Supply : κ → κ → Prop)
  (Fit : σ → Prop) (effort : σ → Nat) (burden : κ → Nat)

variable (paced : Paced turn Serve Supply Fit effort burden)

include paced in
theorem paced_keeps : Keeps turn Serve Supply (fun (tasks : ι → σ) _ => ∀ i, Fit (tasks i)) := by
  constructor
  · intro tasks resource i resume up fit asks
    have resumed : Fit (resume up) := by
      cases up with
      | true => exact (paced.passed _ resume (fit i) asks).1
      | false => exact (paced.waited _ resume (fit i) asks).1
    exact (Function.forall_update_iff tasks (fun _ => Fit)).mpr ⟨resumed, fun other _ => fit other⟩
  · intro tasks resource i resume fit tries
    exact (Function.forall_update_iff tasks (fun _ => Fit)).mpr ⟨(paced.refused _ resume (fit i) tries).1, fun other _ => fit other⟩
  · intro tasks resource i resume answer next fit tries served
    exact (Function.forall_update_iff tasks (fun _ => Fit)).mpr
      ⟨(paced.served _ resume resource answer next (fit i) tries served).1, fun other _ => fit other⟩
  · intro tasks resource i resume fit yields
    exact (Function.forall_update_iff tasks (fun _ => Fit)).mpr ⟨(paced.yielded _ resume (fit i) yields).1, fun other _ => fit other⟩
  · intro tasks resource next fit supplied
    exact fit

variable [Fintype ι]

def work (reactor : Reactor ι ω σ κ) : Nat := ∑ i, effort (reactor.tasks i) + burden reactor.resource

def unrest (reactor : Reactor ι ω σ κ) : Nat :=
  (if reactor.event then 9 * Fintype.card ι + 1 else 0) + ∑ i, rank turn reactor.flag (reactor.tasks i) (reactor.status i)

-- An event can wake every task there is, so a unit of work outweighs that.
def weight (reactor : Reactor ι ω σ κ) : Nat :=
  (9 * Fintype.card ι + 10) * work effort burden reactor + unrest turn reactor

theorem work_changed (reactor after : Reactor ι ω σ κ) (i : ι) (others : ∀ other, other ≠ i → after.tasks other = reactor.tasks other) :
    work effort burden after + (effort (reactor.tasks i) + burden reactor.resource) ≤
      work effort burden reactor + (effort (after.tasks i) + burden after.resource) := by
  have changed := sum_changed (fun j => effort (reactor.tasks j)) (fun j => effort (after.tasks j)) i
    (fun other apart => by rw [others other apart])
  simp only [work]
  omega

theorem unrest_changed (reactor after : Reactor ι ω σ κ) (i : ι) (same : after.event = reactor.event)
    (others : ∀ other, other ≠ i → rank turn after.flag (after.tasks other) (after.status other) ≤
      rank turn reactor.flag (reactor.tasks other) (reactor.status other)) :
    unrest turn after + rank turn reactor.flag (reactor.tasks i) (reactor.status i) ≤
      unrest turn reactor + rank turn after.flag (after.tasks i) (after.status i) := by
  have changed := sum_changed (fun j => rank turn reactor.flag (reactor.tasks j) (reactor.status j))
    (fun j => rank turn after.flag (after.tasks j) (after.status j)) i others
  simp only [unrest, same]
  omega

omit [DecidableEq ι] in
theorem lighter_at_work (reactor after : Reactor ι ω σ κ) (less : work effort burden after < work effort burden reactor)
    (stirred : unrest turn after ≤ unrest turn reactor + (9 * Fintype.card ι + 9)) :
    weight turn effort burden after < weight turn effort burden reactor := by
  have scaled := Nat.mul_le_mul_left (9 * Fintype.card ι + 10) less
  rw [Nat.mul_succ] at scaled
  simp only [weight]
  omega

theorem lighter_at_rest (reactor after : Reactor ι ω σ κ) (i : ι) (event : after.event = reactor.event)
    (resource : after.resource = reactor.resource) (others : ∀ other, other ≠ i → after.tasks other = reactor.tasks other)
    (calm : ∀ other, other ≠ i → rank turn after.flag (after.tasks other) (after.status other) ≤
      rank turn reactor.flag (reactor.tasks other) (reactor.status other))
    (less : effort (after.tasks i) ≤ effort (reactor.tasks i))
    (nearer : rank turn after.flag (after.tasks i) (after.status i) <
      rank turn reactor.flag (reactor.tasks i) (reactor.status i)) :
    weight turn effort burden after < weight turn effort burden reactor := by
  have worked := work_changed effort burden reactor after i others
  have moved := unrest_changed turn reactor after i event calm
  have scaled : (9 * Fintype.card ι + 10) * work effort burden after ≤ (9 * Fintype.card ι + 10) * work effort burden reactor := by
    rw [resource] at worked
    exact Nat.mul_le_mul_left _ (by omega)
  simp only [weight]
  omega

-- A task that goes on brings the others no nearer to work than they were,
-- whether it leaves the flag or takes it down.
theorem turn_lighter (reactor after : Reactor ι ω σ κ) (i : ι) (event : after.event = reactor.event)
    (resource : after.resource = reactor.resource) (status : after.status = reactor.status)
    (others : ∀ other, other ≠ i → after.tasks other = reactor.tasks other)
    (flag : after.flag = reactor.flag ∨ after.flag = false) (runs : (reactor.status i).active = true)
    (less : effort (after.tasks i) ≤ effort (reactor.tasks i))
    (nearer : pace after.flag (turn (after.tasks i)) < pace reactor.flag (turn (reactor.tasks i))) :
    weight turn effort burden after < weight turn effort burden reactor := by
  apply lighter_at_rest turn effort burden reactor after i event resource others
  · intro other apart
    rw [status, others other apart]
    rcases flag with same | down
    · rw [same]
    · rw [down]
      exact rank_down turn reactor.flag _ _
  · exact less
  · rw [status]
    exact rank_nearer turn _ _ _ _ _ runs nearer

theorem serve_lighter (reactor : Reactor ι ω σ κ) (i : ι) (task : σ) (next : κ)
    (less : effort task + burden next < effort (reactor.tasks i) + burden reactor.resource) :
    weight turn effort burden { reactor.put i task with resource := next } < weight turn effort burden reactor := by
  have others (other : ι) (apart : other ≠ i) : (reactor.put i task).tasks other = reactor.tasks other := by simp [put, apart]
  have worked := work_changed effort burden reactor { reactor.put i task with resource := next } i others
  have moved := unrest_changed turn reactor { reactor.put i task with resource := next } i rfl
    (fun other apart => by simp [put, apart])
  have bound := rank_bound turn reactor.flag task (reactor.status i)
  simp only [put, Function.update_self] at worked moved ⊢
  apply lighter_at_work
  · omega
  · omega

theorem dispatch_lighter (reactor : Reactor ι ω σ κ) (raised : reactor.event = true) :
    weight turn effort burden (reactor.dispatch slot) < weight turn effort burden reactor := by
  have woken := Finset.sum_le_card_nsmul Finset.univ (fun i => rank turn true (reactor.tasks i) ((reactor.dispatch slot).status i)) 9
    (fun i _ => rank_bound turn true (reactor.tasks i) ((reactor.dispatch slot).status i))
  rw [Finset.card_univ, Nat.nsmul_eq_mul] at woken
  have same : work effort burden (reactor.dispatch slot) = work effort burden reactor := rfl
  rw [weight, weight, same]
  simp only [unrest, dispatch, raised, if_true, Bool.false_eq_true, if_false] at woken ⊢
  omega

omit [DecidableEq ι] in
theorem unrest_bound (reactor : Reactor ι ω σ κ) : unrest turn reactor ≤ 18 * Fintype.card ι + 1 := by
  have ranks := Finset.sum_le_card_nsmul Finset.univ (fun i => rank turn reactor.flag (reactor.tasks i) (reactor.status i)) 9
    (fun i _ => rank_bound turn reactor.flag (reactor.tasks i) (reactor.status i))
  rw [Finset.card_univ, Nat.nsmul_eq_mul] at ranks
  simp only [unrest]
  split <;> omega

variable [DecidableEq ω]

include paced

theorem step_lighter (reactor after : Reactor ι ω σ κ) (fit : ∀ i, Fit (reactor.tasks i))
    (step : Step slot turn Idle Serve Supply reactor after) :
    weight turn effort burden after < weight turn effort burden reactor := by
  cases step with
  | pass i resume runs asks up =>
      obtain ⟨_, ⟨go, tries⟩, less⟩ := paced.passed _ resume (fit i) asks
      apply turn_lighter turn effort burden reactor (reactor.put i (resume true)) i rfl rfl rfl
        (fun other apart => by simp [put, apart]) (.inl rfl) runs
      · simpa [put] using less
      · simp [put, asks, tries, pace, up]
  | wait i resume runs asks down =>
      obtain ⟨_, ⟨rest, yields⟩, less⟩ := paced.waited _ resume (fit i) asks
      apply turn_lighter turn effort burden reactor ((reactor.put i (resume false)).register slot i) i rfl rfl rfl
        (fun other apart => by simp [put, register, apart]) (.inl rfl) runs
      · simpa [put, register] using less
      · simp [put, register, asks, yields, pace, down]
  | refuse i resume runs tries down =>
      obtain ⟨_, settled, _, less⟩ := paced.refused _ resume (fit i) tries
      have nearer := pace_refused (turn (resume none)) settled
      apply turn_lighter turn effort burden reactor (reactor.put i (resume none)) i rfl rfl rfl
        (fun other apart => by simp [put, apart]) (.inl rfl) runs
      · simpa [put] using less
      · simpa [put, tries, pace, down] using nearer
  | exhaust i resume runs tries up idle =>
      obtain ⟨_, settled, _, less⟩ := paced.refused _ resume (fit i) tries
      have nearer := pace_refused (turn (resume none)) settled
      apply turn_lighter turn effort burden reactor { reactor.put i (resume none) with flag := false } i rfl rfl rfl
        (fun other apart => by simp [put, apart]) (.inr rfl) runs
      · simpa [put] using less
      · simpa [put, tries, pace] using nearer
  | yield i resume runs yields =>
      obtain ⟨_, _, _, less⟩ := paced.yielded _ resume (fit i) yields
      apply lighter_at_rest turn effort burden reactor ((reactor.put i resume).mark i (reactor.status i).suspend) i rfl rfl
      · intro other apart
        simp [put, mark, apart]
      · intro other apart
        simp [put, mark, apart]
      · simpa [put, mark] using less
      · simp only [put, mark, Function.update_self]
        exact rank_suspended turn _ _ resume _ runs yields
  | serve i resume answer next runs tries up served =>
      exact serve_lighter turn effort burden reactor i _ next (paced.served _ resume _ answer next (fit i) tries served).2.2
  | dispatch raised => exact dispatch_lighter slot turn effort burden reactor raised
  | run i woken =>
      apply lighter_at_rest turn effort burden reactor (reactor.mark i .running) i rfl rfl
      · intro other apart
        rfl
      · intro other apart
        simp [mark, apart]
      · exact Nat.le_refl _
      · simp [mark, rank, woken]
  | supply next supplied =>
      have less := paced.supplied _ next supplied
      apply lighter_at_work
      · simp only [work]
        omega
      · simp only [unrest, if_true]
        omega

theorem rests (states : Nat → Reactor ι ω σ κ) (fit : ∀ i, Fit ((states 0).tasks i)) (count : Nat)
    (run : ∀ n < count, Step slot turn Idle Serve Supply (states n) (states (n + 1))) :
    count ≤ (9 * Fintype.card ι + 10) * work effort burden (states 0) + (18 * Fintype.card ι + 1) := by
  have bounded := Run.bounded (Step slot turn Idle Serve Supply) (fun reactor => ∀ i, Fit (reactor.tasks i)) (weight turn effort burden)
    (fun before after => keeps_step slot turn Idle Serve Supply _ (paced_keeps turn Serve Supply Fit effort burden paced) before after)
    (step_lighter slot turn Idle Serve Supply Fit effort burden paced) states fit count run
  have calm := unrest_bound turn (states 0)
  rw [weight, weight] at bounded
  omega

theorem comes_to_rest (reactor : Reactor ι ω σ κ) (fit : ∀ i, Fit (reactor.tasks i)) :
    ∃ final, Relation.ReflTransGen (Step slot turn Idle Serve Supply) reactor final ∧
      ∀ after, ¬ Step slot turn Idle Serve Supply final after :=
  Run.completes (Step slot turn Idle Serve Supply) (fun reactor => ∀ i, Fit (reactor.tasks i)) (weight turn effort burden)
    (fun before after => keeps_step slot turn Idle Serve Supply _ (paced_keeps turn Serve Supply Fit effort burden paced) before after)
    (step_lighter slot turn Idle Serve Supply Fit effort burden paced) reactor fit

end Weight

end Reactor
