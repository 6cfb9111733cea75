import Mathlib.Data.List.OfFn
import Pktauth.Client.Ping
import Pktauth.Echo.Payload
import Pktauth.Echo.Progress

set_option autoImplicit false

namespace Pktauth.Echo

open Rust Network Pktauth.Client

theorem client_main_size (display : IpAddr → String) (args : ClientArgs) (setup : ClientSetup)
    (accepted : clientMain display args = .ok setup) : args.size ≤ maxPingBytes := by
  by_contra large
  rw [clientMain, if_pos (Nat.lt_of_not_le large)] at accepted
  cases accepted

theorem echoes_all {ε : Type} (rtts : List Duration) : echoes (rtts.map (Except.ok : Duration → Except ε Duration)) = rtts := by
  induction rtts with
  | nil => rfl
  | cons rtt rtts ih => rw [List.map_cons, echoes, ih]

-- The ping loop of the client over a connection that is never lost. One call of
-- ping has returned and is booked before the next is made; the sleep between
-- them changes nothing.
structure Session (count : UInt64) where
  link : Link (Fin count.toNat)
  state : PingState

def Session.start (count : UInt64) : Session count := ⟨.start, {}⟩

section Steps

variable {count : UInt64} (window streams : Nat) (payload : Fin count.toNat → List UInt8)

inductive SessionStep : Session count → Session count → Prop where
  | work (session : Session count) (link : Link (Fin count.toNat)) (step : Work window streams payload session.link link)
      (called : ∀ i, Opens session.link link i → i.val = session.state.seq.toNat) :
      SessionStep session { session with link := link }
  | book (session : Session count) (i : Fin count.toNat) (result : Except Error Duration) (state : PingState)
      (called : i.val = session.state.seq.toNat) (returned : (session.link.exchanges i).ping = .returned result)
      (booked : pingStep result session.state = .ok state) : SessionStep session { session with state := state }

structure SessionSound (session : Session count) : Prop where
  link : LinkSound payload session.link
  connected : session.link.clientLost = none ∧ session.link.serverLost = none
  lost : session.state.lost = 0
  seq : session.state.seq.toNat = session.state.rtts.length
  bound : session.state.rtts.length ≤ count.toNat
  booked : ∀ (i : Fin count.toNat) rtt, session.state.rtts[i.val]? = some rtt →
    (session.link.exchanges i).ping = .returned (.ok rtt)
  ahead : ∀ i : Fin count.toNat, session.state.rtts.length < i.val → (session.link.exchanges i).ping = .opening

theorem session_start : SessionSound payload (Session.start count) :=
  ⟨link_start payload, ⟨rfl, rfl⟩, rfl, rfl, Nat.zero_le _, nofun, fun _ _ => rfl⟩

theorem ping_step_returned (i : Fin count.toNat) (lost : Option ConnectionError) (x after : Exchange)
    (step : PingStep window (payload i) lost x after) (result : Except Error Duration) (returned : x.ping = .returned result) :
    after.ping = .returned result := by
  cases step with
  | write rest progress request stage moved => simp [returned] at stage
  | finish stage => simp [returned] at stage
  | read soFar progress response stage moved => simp [returned] at stage
  | elapsed echoed rtt stage => simp [returned] at stage
  | dropSend other stage connected unfinished => exact returned
  | dropRecv other stage connected unread running heard => exact returned

-- What a ping has returned, no later step changes.
theorem work_returned (link after : Link (Fin count.toNat)) (step : Work window streams payload link after)
    (i : Fin count.toNat) (result : Except Error Duration) (returned : (link.exchanges i).ping = .returned result) :
    (after.exchanges i).ping = .returned result := by
  have put_kept (j : Fin count.toNat) (x : Exchange)
      (own : (link.exchanges j).ping = .returned result → x.ping = .returned result) :
      ((link.put j x).exchanges i).ping = .returned result := by
    by_cases same : i = j
    · subst same
      simpa [Link.put] using own returned
    · simpa [Link.put, same] using returned
  cases step with
  | opened j stage connected credit => exact put_kept j _ (fun ended => by simp [stage] at ended)
  | unopened j error stage gone => exact put_kept j _ (fun ended => by simp [stage] at ended)
  | client j x step => exact put_kept j x (ping_step_returned window payload j _ _ x step result)
  | server j x step => exact put_kept j x (fun ended => (echo_step_ping window _ _ x step).trans ended)
  | accept j serving next turn => exact put_kept j { link.exchanges j with echo := .reading [] } id
  | leave error result serving idle gone turn => exact returned

theorem session_work (session : Session count) (link : Link (Fin count.toNat)) (sound : SessionSound payload session)
    (step : Work window streams payload session.link link)
    (called : ∀ i, Opens session.link link i → i.val = session.state.seq.toNat) :
    SessionSound payload { session with link := link } := by
  refine ⟨work_sound window streams payload session.link link sound.link step, by cases step <;> exact sound.connected,
    sound.lost, sound.seq, sound.bound, ?_, ?_⟩
  · intro i rtt entry
    exact work_returned window streams payload session.link link step i _ (sound.booked i rtt entry)
  · intro i later
    by_contra opened
    have current := called i ⟨sound.ahead i later, opened⟩
    rw [sound.seq] at current
    exact Nat.ne_of_gt later current

-- The loop is never held up: the ping it waits for goes on or has returned.
theorem session_moves (positive : 0 < window) (allowed : 0 < streams) (session : Session count)
    (sound : SessionSound payload session) (stuck : ∀ after, ¬ SessionStep window streams payload session after) :
    count.toNat ≤ session.state.rtts.length := by
  by_contra short
  have below : session.state.rtts.length < count.toNat := Nat.lt_of_not_le short
  have waiting (result : Except Error Duration) :
      (session.link.exchanges ⟨session.state.rtts.length, below⟩).ping ≠ .returned result := by
    intro returned
    have earlier : session.state.seq < count := UInt64.lt_iff_toNat_lt.mpr (by rw [sound.seq]; exact below)
    have order : session.state.lost ≤ session.state.seq := by
      rw [sound.lost]
      exact UInt64.zero_le
    obtain ⟨next, booked, _⟩ := ping_step_spec count result session.state earlier order
    exact stuck _ (.book session _ result next sound.seq.symm returned booked)
  obtain ⟨link, step, only⟩ := link_moves window streams payload positive allowed session.link sound.link
    (.inl sound.connected.2) _ waiting
  refine stuck _ (.work session link step (fun i opens => ?_))
  rw [only i opens, sound.seq]

theorem session_ends (positive : 0 < window) (allowed : 0 < streams) (session : Session count) (least : 1 ≤ count)
    (sound : SessionSound payload session) (stuck : ∀ after, ¬ SessionStep window streams payload session after) :
    ∃ rtts : Fin count.toNat → Duration,
      (∀ seq, (session.link.exchanges seq).ping = .returned (.ok (rtts seq))) ∧
      session.state.seq = count ∧ session.state.lost = 0 ∧ session.state.rtts = List.ofFn rtts ∧
      pingLoop count (List.ofFn (fun seq => (.ok (rtts seq) : Except Error Duration))) {} = .ok (some session.state) := by
  have all : session.state.rtts.length = count.toNat :=
    Nat.le_antisymm sound.bound (session_moves window streams payload positive allowed session sound stuck)
  have done : session.state.seq = count := UInt64.toNat_inj.mp (sound.seq.trans all)
  have listed : session.state.rtts = List.ofFn (fun seq : Fin count.toNat => session.state.rtts.get (seq.cast all.symm)) :=
    List.ext_getElem (by simp [all]) (by simp)
  refine ⟨fun seq => session.state.rtts.get (seq.cast all.symm), fun seq => ?_, done, sound.lost, listed, ?_⟩
  · exact sound.booked seq _ (List.getElem?_eq_getElem (by rw [all]; exact seq.isLt))
  · obtain ⟨final, looped, finished, recorded, total⟩ := ping_loop_ends count least
      (List.ofFn (fun seq : Fin count.toNat => (.ok (session.state.rtts.get (seq.cast all.symm)) : Except Error Duration)))
      (by simp)
    have outcomes : List.ofFn (fun seq : Fin count.toNat =>
        (.ok (session.state.rtts.get (seq.cast all.symm)) : Except Error Duration)) = session.state.rtts.map Except.ok := by
      conv_rhs => rw [listed, List.map_ofFn]
      rfl
    rw [outcomes, echoes_all] at recorded
    have unlost : final.lost = session.state.lost := by
      rw [sound.lost]
      rw [recorded, all] at total
      exact UInt64.toNat_inj.mp (by simpa using total)
    rw [looped, PingState.ext recorded unlost (finished.trans done.symm)]

variable (small : ∀ i, (payload i).length ≤ maxPingBytes)

include small

theorem session_book (session : Session count) (i : Fin count.toNat) (result : Except Error Duration) (state : PingState)
    (sound : SessionSound payload session) (called : i.val = session.state.seq.toNat)
    (returned : (session.link.exchanges i).ping = .returned result) (booked : pingStep result session.state = .ok state) :
    SessionSound payload { session with state := state } ∧ state.seq.toNat = session.state.seq.toNat + 1 := by
  have earlier : session.state.seq < count := UInt64.lt_iff_toNat_lt.mpr (called ▸ i.isLt)
  have order : session.state.lost ≤ session.state.seq := by
    rw [sound.lost]
    exact UInt64.zero_le
  have asking := (sound.link.exchanges i).asking
  rw [returned] at asking
  cases asking with
  | returned _ _ _ outcome front cut left quiet answered =>
      obtain ⟨rtt, rfl⟩ := outcome_ok (payload i) _ result outcome sound.connected.1 (small i)
      obtain ⟨next, stepped, rtts, lost, seq⟩ := ping_step_spec count (.ok rtt : Except Error Duration) session.state earlier order
      rw [booked, Except.ok.injEq] at stepped
      subst stepped
      have longer : state.rtts = session.state.rtts ++ [rtt] := rtts
      have current : session.state.rtts.length = i.val := by rw [called, sound.seq]
      have below := i.isLt
      refine ⟨⟨sound.link, sound.connected, ?_, ?_, ?_, ?_, ?_⟩, seq⟩
      · rw [sound.lost] at lost
        exact UInt64.toNat_inj.mp lost
      · rw [longer, List.length_append, List.length_singleton, seq, sound.seq]
      · rw [longer, List.length_append, List.length_singleton]
        omega
      · intro j other entry
        simp only [longer, List.getElem?_append] at entry
        split at entry
        · exact sound.booked j other entry
        · have last : j.val - session.state.rtts.length = 0 := by
            by_contra beyond
            rw [List.getElem?_eq_none (by simp only [List.length_singleton]; omega)] at entry
            cases entry
          have same : j = i := Fin.ext (by omega)
          rw [last, List.getElem?_cons_zero, Option.some.injEq] at entry
          rw [same, ← entry]
          exact returned
      · intro j later
        simp only [longer, List.length_append, List.length_singleton] at later
        exact sound.ahead j (by omega)

theorem session_step (session after : Session count) (sound : SessionSound payload session)
    (step : SessionStep window streams payload session after) : SessionSound payload after := by
  cases step with
  | work link step called => exact session_work window streams payload session link sound step called
  | book i result state called returned booked =>
      exact (session_book payload small session i result state sound called returned booked).1

def Session.weight (session : Session count) : Nat :=
  session.link.weight payload + (count.toNat - session.state.seq.toNat)

theorem session_lighter (session after : Session count) (sound : SessionSound payload session)
    (step : SessionStep window streams payload session after) : after.weight payload < session.weight payload := by
  cases step with
  | work link step called =>
      exact Nat.add_lt_add_right (work_lighter window streams payload session.link link sound.link step) _
  | book i result state called returned booked =>
      have further := (session_book payload small session i result state sound called returned booked).2
      have below := i.isLt
      simp only [Session.weight]
      omega

end Steps

section Result

variable {count : UInt64} (window streams : Nat) (payload : Fin count.toNat → List UInt8)

theorem session_start_weight (size : Nat) (sized : ∀ i, (payload i).length = size) :
    (Session.start count).weight payload = count.toNat * (4 * size + 14) + 3 := by
  have left : (Session.start count).weight payload = ∑ i, (4 * (payload i).length + 13) + 3 + count.toNat :=
    congrArg (· + count.toNat) (start_weight payload)
  have bytes : ∑ i, (4 * (payload i).length + 13) = count.toNat * (4 * size + 13) := by
    rw [Finset.sum_const_nat (fun i _ => by rw [sized i]), Finset.card_univ, Fintype.card_fin]
  rw [left, bytes, Nat.mul_add, Nat.mul_add]
  omega

theorem session_echoes_all (positive : 0 < window) (allowed : 0 < streams) (display : IpAddr → String) (args : ClientArgs)
    (setup : ClientSetup) (accepted : clientMain display args = .ok setup) (least : 1 ≤ count)
    (built : ∀ seq : Fin count.toNat, pingPayload (UInt64.ofNat seq) args.size = .ok (payload seq))
    (sessions : Nat → Session count) (start : sessions 0 = Session.start count) (steps : Nat)
    (run : ∀ n < steps, SessionStep window streams payload (sessions n) (sessions (n + 1))) :
    steps ≤ count.toNat * (4 * args.size + 14) + 3 ∧
    (∀ seq : Fin count.toNat, (sessions steps).state.seq.toNat < seq.val →
      ((sessions steps).link.exchanges seq).ping = .opening) ∧
    ((∀ after, ¬ SessionStep window streams payload (sessions steps) after) →
      ∃ rtts : Fin count.toNat → Duration,
        (∀ seq, ((sessions steps).link.exchanges seq).ping = .returned (.ok (rtts seq))) ∧
        (sessions steps).state.seq = count ∧ (sessions steps).state.lost = 0 ∧
        (sessions steps).state.rtts = List.ofFn rtts ∧
        pingLoop count (List.ofFn (fun seq => (.ok (rtts seq) : Except Error Duration))) {} =
          .ok (some (sessions steps).state)) := by
  have sized (seq : Fin count.toNat) : (payload seq).length = args.size := by
    have same := built seq
    rw [ping_payload_eq, Except.ok.injEq] at same
    rw [← same, payload_length]
  have small (seq : Fin count.toNat) : (payload seq).length ≤ maxPingBytes := by
    rw [sized seq]
    exact client_main_size display args setup accepted
  obtain ⟨sound, bounded⟩ := Run.bounded (SessionStep window streams payload) (SessionSound payload) (Session.weight payload)
    (session_step window streams payload small) (session_lighter window streams payload small) sessions
    (by rw [start]; exact session_start payload) steps run
  rw [start, session_start_weight payload args.size sized] at bounded
  refine ⟨by omega, fun seq later => sound.ahead seq (by rw [← sound.seq]; exact later), ?_⟩
  exact session_ends window streams payload positive allowed (sessions steps) least sound

end Result

def threePayloads (seq : Fin (3 : UInt64).toNat) : List UInt8 := payloadOf (UInt64.ofNat seq) 64

theorem session_echoes_all_sample :
    ∃ (sessions : Nat → Session 3) (steps : Nat), sessions 0 = Session.start 3 ∧
      (∀ n < steps, SessionStep 16 1 threePayloads (sessions n) (sessions (n + 1))) ∧ steps ≤ 813 ∧
      (sessions steps).state.lost = 0 ∧ (sessions steps).state.seq = 3 ∧ (sessions steps).state.rtts.length = 3 := by
  have small (seq : Fin (3 : UInt64).toNat) : (threePayloads seq).length ≤ maxPingBytes := by
    rw [threePayloads, payload_length]
    decide
  obtain ⟨session, reach, stuck⟩ := Run.completes (SessionStep 16 1 threePayloads) (SessionSound threePayloads)
    (Session.weight threePayloads) (session_step 16 1 threePayloads small) (session_lighter 16 1 threePayloads small)
    (Session.start 3) (session_start threePayloads)
  obtain ⟨sessions, steps, first, last, run⟩ := Run.indexed _ _ _ reach
  obtain ⟨bound, _, ends⟩ := session_echoes_all 16 1 threePayloads (by decide) (by decide) (fun _ => "::1") {} _ rfl
    (by decide) (fun seq => ping_payload_eq _ 64) sessions first steps run
  obtain ⟨rtts, _, seq, lost, times, _⟩ := ends (by rw [last]; exact stuck)
  exact ⟨sessions, steps, first, run, bound, lost, seq, by rw [times, List.length_ofFn]; rfl⟩

end Pktauth.Echo
