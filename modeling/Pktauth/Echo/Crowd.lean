import Mathlib.Algebra.Order.BigOperators.Group.Finset
import Pktauth.Echo.Hostile

set_option autoImplicit false

namespace Pktauth.Echo

open Rust Network

-- All the streams of a connection whose client follows no program.
structure Crowd (ι : Type) where
  exchanges : ι → Exchange
  opened : List ι
  lost : Option ConnectionError

def Crowd.start {ι : Type} : Crowd ι := ⟨fun _ => .start, [], none⟩

-- The streams the server's own end keeps open. Quinn may grant the client a
-- new stream only for one that is not among them.
def Crowd.busy {ι : Type} (crowd : Crowd ι) : List ι :=
  crowd.opened.filter (fun i => !(crowd.exchanges i).response.finished)

section Crowd

variable {ι : Type} [DecidableEq ι] (window streams : Nat)

def Crowd.put (crowd : Crowd ι) (i : ι) (x : Exchange) : Crowd ι :=
  { crowd with exchanges := Function.update crowd.exchanges i x }

-- Streams are accepted in any order here, and also after the connection is
-- lost: serve_connection does less.
inductive CrowdStep : Crowd ι → Crowd ι → Prop where
  | opened (crowd : Crowd ι) (i : ι) (fresh : i ∉ crowd.opened) (credit : crowd.busy.length < streams) :
      CrowdStep crowd { crowd with opened := crowd.opened ++ [i] }
  | client (crowd : Crowd ι) (i : ι) (request response : Pipe UInt8) (there : i ∈ crowd.opened)
      (grows : Pipe.Grows (crowd.exchanges i).request request)
      (consumed : Pipe.Consumed (crowd.exchanges i).response response) :
      CrowdStep crowd (crowd.put i { crowd.exchanges i with request := request, response := response })
  | accept (crowd : Crowd ι) (i : ι) (there : i ∈ crowd.opened) (stage : (crowd.exchanges i).echo = .queued)
      (turn : serveTurn (.ok i) = .spawn i) :
      CrowdStep crowd (crowd.put i { crowd.exchanges i with echo := .reading [] })
  | server (crowd : Crowd ι) (i : ι) (x : Exchange) (step : EchoStep window crowd.lost (crowd.exchanges i) x) :
      CrowdStep crowd (crowd.put i x)
  | lose (crowd : Crowd ι) (error : ConnectionError) (connected : crowd.lost = none) :
      CrowdStep crowd { crowd with lost := some error }

structure CrowdSound (crowd : Crowd ι) : Prop where
  echoing : ∀ i, Echoing crowd.lost (crowd.exchanges i).echo (crowd.exchanges i).request (crowd.exchanges i).response
  unopened : ∀ i ∉ crowd.opened, (crowd.exchanges i).echo = .queued
  credit : crowd.busy.length ≤ streams

theorem busy_put (crowd : Crowd ι) (i : ι) (x : Exchange)
    (kept : (crowd.exchanges i).response.finished = true → x.response.finished = true) :
    (crowd.put i x).busy.length ≤ crowd.busy.length := by
  refine (List.monotone_filter_right crowd.opened ?_).length_le
  intro other waiting
  by_cases own : other = i
  · subst own
    cases finished : (crowd.exchanges other).response.finished with
    | false => rfl
    | true => simp [Crowd.put, kept finished] at waiting
  · simpa [Crowd.put, own] using waiting

theorem put_crowd (crowd : Crowd ι) (i : ι) (x : Exchange) (sound : CrowdSound streams crowd) (there : i ∈ crowd.opened)
    (echoing : Echoing crowd.lost x.echo x.request x.response)
    (kept : (crowd.exchanges i).response.finished = true → x.response.finished = true) : CrowdSound streams (crowd.put i x) := by
  refine ⟨?_, ?_, Nat.le_trans (busy_put crowd i x kept) sound.credit⟩
  · exact (Function.forall_update_iff crowd.exchanges
      (fun _ x => Echoing crowd.lost x.echo x.request x.response)).mpr ⟨echoing, fun other _ => sound.echoing other⟩
  · intro other absent
    have different : other ≠ i := fun same => absent (same ▸ there)
    simpa [Crowd.put, different] using sound.unopened other absent

theorem crowd_step (crowd after : Crowd ι) (sound : CrowdSound streams crowd) (step : CrowdStep window streams crowd after) :
    CrowdSound streams after := by
  cases step with
  | opened i fresh credit =>
      refine ⟨sound.echoing, fun other absent => sound.unopened other (fun member => absent (by simp [member])), ?_⟩
      have last : ([i].filter (fun i => !(crowd.exchanges i).response.finished)).length ≤ 1 := List.length_filter_le _ [i]
      simp only [Crowd.busy, List.filter_append, List.length_append] at credit ⊢
      omega
  | client i request response there grows consumed =>
      refine put_crowd streams crowd i _ sound there ?_ (fun finished => consumed.finished.trans finished)
      exact echoing_frame crowd.lost (crowd.exchanges i).echo _ _ _ _ (sound.echoing i) grows consumed
  | accept i there stage turn =>
      refine put_crowd streams crowd i _ sound there ?_ id
      have echoing := sound.echoing i
      rw [stage] at echoing
      cases echoing with
      | queued _ _ untouched silent unfinished taking =>
          have nothing : (crowd.exchanges i).request.seen = [] := by rw [Pipe.seen, untouched, List.take_zero]
          rw [← nothing]
          exact .reading _ _ (by omega) silent unfinished taking
  | server i x step =>
      have there : i ∈ crowd.opened := by
        by_contra absent
        exact echo_step_accepted window crowd.lost _ x step (sound.unopened i absent)
      have echoed := echo_step_echoed window crowd.lost _ x (sound.echoing i) step
      exact put_crowd streams crowd i x sound there echoed.echoing (fun finished => (echoed.grows.frozen finished).2)
  | lose error connected =>
      refine ⟨fun i => ?_, sound.unopened, sound.credit⟩
      have echoing := sound.echoing i
      rw [connected] at echoing
      exact echoing_lost error _ _ _ echoing

omit [DecidableEq ι] in
theorem crowd_start : CrowdSound streams (Crowd.start : Crowd ι) :=
  ⟨fun _ => .queued _ _ rfl rfl rfl rfl, fun _ _ => rfl, Nat.zero_le streams⟩

-- Whoever holds bytes has not ended its response.
omit [DecidableEq ι] in
theorem buffered_busy (crowd : Crowd ι) (sound : CrowdSound streams crowd) (i : ι)
    (holds : (crowd.exchanges i).echo.buffered.length ≠ 0) : i ∈ crowd.busy := by
  have echoing := sound.echoing i
  have there : i ∈ crowd.opened := by
    by_contra absent
    simp [sound.unopened i absent, EchoPoint.buffered] at holds
  have unfinished : (crowd.exchanges i).response.finished = false := by
    cases point : (crowd.exchanges i).echo with
    | queued | returned result => simp [point, EchoPoint.buffered] at holds
    | reading soFar =>
        rw [point] at echoing
        cases echoing with
        | reading _ _ bounded silent unfinished taking => exact unfinished
    | writing payload rest =>
        rw [point] at echoing
        cases echoing with
        | writing _ _ _ copies drained bounded unfinished taking => exact unfinished
    | finishing payload =>
        rw [point] at echoing
        cases echoing with
        | finishing _ _ copied drained bounded unfinished taking => exact unfinished
  simp [Crowd.busy, there, unfinished]

theorem crowd_reachable (crowd : Crowd ι) (reach : Relation.ReflTransGen (CrowdStep window streams) Crowd.start crowd) :
    CrowdSound streams crowd :=
  Run.invariant (CrowdStep window streams) (CrowdSound streams) Crowd.start (crowd_start streams) (crowd_step window streams)
    crowd reach

theorem crowd_held (crowd : Crowd ι) (reach : Relation.ReflTransGen (CrowdStep window streams) Crowd.start crowd)
    (among : Finset ι) : ∑ i ∈ among, (crowd.exchanges i).echo.buffered.length ≤ streams * maxPingBytes := by
  have sound := crowd_reachable window streams crowd reach
  have each (i : ι) : (crowd.exchanges i).echo.buffered.length ≤ maxPingBytes :=
    contained_buffer ⟨crowd.exchanges i, crowd.lost⟩ (sound.echoing i)
  calc ∑ i ∈ among, (crowd.exchanges i).echo.buffered.length
      = ∑ i ∈ among with (crowd.exchanges i).echo.buffered.length ≠ 0, (crowd.exchanges i).echo.buffered.length :=
        (Finset.sum_filter_ne_zero among).symm
    _ ≤ ∑ i ∈ crowd.busy.toFinset, (crowd.exchanges i).echo.buffered.length := by
        refine Finset.sum_le_sum_of_subset (fun i member => ?_)
        exact List.mem_toFinset.mpr (buffered_busy streams crowd sound i (Finset.mem_filter.mp member).2)
    _ ≤ crowd.busy.toFinset.card * maxPingBytes := Finset.sum_le_card_nsmul _ _ _ (fun i _ => each i)
    _ ≤ streams * maxPingBytes :=
        Nat.mul_le_mul_right _ (Nat.le_trans (List.toFinset_card_le crowd.busy) sound.credit)

theorem connection_buffers_bounded (crowd : Crowd ι)
    (reach : Relation.ReflTransGen (CrowdStep window streams) Crowd.start crowd) (among : Finset ι) :
    ∑ i ∈ among, (crowd.exchanges i).echo.buffered.length ≤ streams * maxPingBytes ∧
      ∑ i ∈ among, (crowd.exchanges i).response.written.length ≤ ∑ i ∈ among, (crowd.exchanges i).request.written.length := by
  refine ⟨crowd_held window streams crowd reach among, Finset.sum_le_sum (fun i _ => ?_)⟩
  exact (response_copies _ _ _ _ ((crowd_reachable window streams crowd reach).echoing i)).1.length_le

-- With one stream allowed, a client that never ends its request ties it up.
theorem connection_buffers_bounded_sample :
    ∃ crowd : Crowd Unit, Relation.ReflTransGen (CrowdStep 16 1) Crowd.start crowd ∧
      (crowd.exchanges ()).echo.buffered = [7, 7] ∧
      ∑ i ∈ {()}, (crowd.exchanges i).echo.buffered.length ≤ 1 * maxPingBytes := by
  have reach := Relation.ReflTransGen.refl (r := CrowdStep 16 1) (a := (Crowd.start : Crowd Unit))
    |>.tail (.opened _ () (by simp [Crowd.start]) (by simp [Crowd.start, Crowd.busy]))
    |>.tail (.client _ () _ _ (by simp) (Pipe.grows_push _ [7, 7] rfl) (Pipe.consumed_refl _))
    |>.tail (.accept _ () (by simp [Crowd.put]) rfl rfl)
    |>.tail (.server _ () _ (.read _ [] _ _ rfl (.chunk [] _ 2 (by decide) (by decide) (by decide))))
  exact ⟨_, reach, rfl, (connection_buffers_bounded 16 1 _ reach {()}).1⟩

end Crowd

end Pktauth.Echo
