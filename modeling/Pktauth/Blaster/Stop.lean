import Pktauth.Blaster.Campaign

set_option autoImplicit false

namespace Pktauth.Blaster

open Rust Socket

-- An upper bound on the steps blast still takes once the flag is down.
def BlastPoint.weight : BlastPoint → Nat
  | .binding => 4
  | .connecting => 3
  | .building => 2
  | .checking _ => 1
  | .sending _ index => 3 * (batch - index) + 5
  | .booking _ index _ => 3 * (batch - index) + 4
  | .sizing _ index _ | .failing _ index => 3 * (batch - index) + 3
  | .pacing _ => 2
  | .returned _ | .panicked _ => 0

-- The datagrams it may still send by then.
def BlastPoint.budget : BlastPoint → Nat
  | .sending _ index => batch - index
  | .booking _ index _ | .sizing _ index _ | .failing _ index => batch - (index + 1)
  | _ => 0

section Workers

variable (endian : Endian) (size : Nat) (pps seed : UInt64) (worker after : Worker) (entry : Option StatAdd)

theorem turn_lighter (locals : Locals) (index : Nat) : (BlastPoint.turn locals index).weight < 3 * (batch - index) + 3 := by
  unfold BlastPoint.turn
  split
  · simp only [BlastPoint.weight]
    omega
  · split
    · simp only [BlastPoint.weight]
      omega
    · simp only [BlastPoint.weight]
      omega

theorem paced_lighter (locals : Locals) : (BlastPoint.paced pps locals).weight < 2 := by
  unfold BlastPoint.paced
  split
  · split <;> simp [BlastPoint.weight]
  · simp [BlastPoint.weight]

theorem blast_step_lighter (step : BlastStep endian size pps seed false worker entry after) :
    after.point.weight < worker.point.weight := by
  cases step with
  | bind answer stage | connect answer stage => cases answer <;> simp [stage, BlastPoint.called, BlastPoint.weight]
  | build stage =>
      rw [stage]
      match InitialTemplate.new size with
      | .ok (.ok template) | .ok (.error message) | .error panic => simp [BlastPoint.built, BlastPoint.weight]
  | check locals stage => simp [stage, BlastPoint.checked, BlastPoint.weight]
  | send locals index outcome stage =>
      rw [stage]
      cases locals.template.randomizeDcid endian locals.rng with
      | error panic => simp [Worker.send, BlastPoint.weight]
      | ok drawn => cases outcome <;> simp [Worker.send, BlastPoint.sent, BlastPoint.weight]
  | book locals index bytes stage => simp [stage, BlastPoint.weight]
  | size locals index bytes stage | fail locals index stage =>
      rw [stage]
      exact turn_lighter locals index
  | pace locals stage =>
      rw [stage]
      exact paced_lighter pps locals

theorem turn_budget (locals : Locals) (index : Nat) : (BlastPoint.turn locals index).budget ≤ batch - (index + 1) := by
  unfold BlastPoint.turn
  split
  · exact Nat.le_refl _
  · split <;> exact Nat.zero_le _

theorem blast_step_budget (inside : ∀ locals index, worker.point = .sending locals index → index < batch)
    (step : BlastStep endian size pps seed false worker entry after) :
    after.tried.length + after.point.budget ≤ worker.tried.length + worker.point.budget := by
  cases step with
  | bind answer stage | connect answer stage => cases answer <;> simp [BlastPoint.called, BlastPoint.budget]
  | build stage =>
      match InitialTemplate.new size with
      | .ok (.ok template) | .ok (.error message) | .error panic => simp [BlastPoint.built, BlastPoint.budget]
  | check locals stage => simp [BlastPoint.checked, BlastPoint.budget]
  | send locals index outcome stage =>
      have bound := inside locals index stage
      rw [stage]
      cases locals.template.randomizeDcid endian locals.rng with
      | error panic => simp [Worker.send, BlastPoint.budget]
      | ok drawn =>
          cases outcome <;> simp only [Worker.send, BlastPoint.sent, BlastPoint.budget, List.length_append, List.length_singleton] <;>
            omega
  | book locals index bytes stage => simp [stage, BlastPoint.budget]
  | size locals index bytes stage | fail locals index stage =>
      rw [stage]
      exact Nat.add_le_add_left (turn_budget locals index) _
  | pace locals stage =>
      have quiet : (BlastPoint.paced pps locals).budget = 0 := by
        unfold BlastPoint.paced
        split
        · split <;> rfl
        · rfl
      simp [quiet]

omit after entry in
theorem blast_moves (running : Bool) (live : worker.point.ended = false) :
    ∃ entry after, BlastStep endian size pps seed running worker entry after := by
  cases stage : worker.point with
  | binding => exact ⟨_, _, .bind worker (.ok ()) stage⟩
  | connecting => exact ⟨_, _, .connect worker (.ok ()) stage⟩
  | building => exact ⟨_, _, .build worker stage⟩
  | checking locals => exact ⟨_, _, .check worker locals stage⟩
  | sending locals index => exact ⟨_, _, .send worker locals index .accepted stage⟩
  | booking locals index bytes => exact ⟨_, _, .book worker locals index bytes stage⟩
  | sizing locals index bytes => exact ⟨_, _, .size worker locals index bytes stage⟩
  | failing locals index => exact ⟨_, _, .fail worker locals index stage⟩
  | pacing locals => exact ⟨_, _, .pace worker locals stage⟩
  | returned result | panicked panic => simp [stage, BlastPoint.ended] at live

end Workers

def ReportPoint.weight : ReportPoint → Nat
  | .loading => 2
  | .loaded _ => 1
  | .sleeping | .panicked _ => 0

def MainPoint.weight (threads : Nat) : MainPoint → Nat
  | .waiting => threads + 5
  | .aborting => threads + 4
  | .joining next => threads - next + 3
  | .loadingBytes _ => 2
  | .loadingErrors _ _ => 1
  | .returned _ => 0

-- The stop flag and the abort, as main has left them where it is.
def MainPoint.flags : MainPoint → Bool × Bool
  | .waiting | .returned (.error _) => (true, false)
  | .aborting => (false, false)
  | .joining _ | .loadingBytes _ | .loadingErrors _ _ | .returned (.ok _) => (false, true)

section Stop

variable {threads : Nat} (endian : Endian) (size : Nat) (pps : UInt64)

def Campaign.weight (campaign : Campaign threads) : Nat :=
  (∑ i, (campaign.writers i).point.weight) + campaign.others.reporter.point.weight + campaign.others.main.weight threads

def Campaign.Down (campaign : Campaign threads) : Prop := campaign.others.running = false ∧ campaign.others.aborted = true

theorem down_step (before after : Campaign threads) (down : before.Down) (step : CampaignStep endian size pps before after) :
    after.Down := by
  cases step with
  | work i next works => exact down
  | post i entry next posts => exact down
  | move next moves => cases moves <;> simp_all [Campaign.Down]

theorem running_step (before after : Campaign threads) (stopped : before.others.running = false)
    (step : CampaignStep endian size pps before after) : after.others.running = false := by
  cases step with
  | work i next works => exact stopped
  | post i entry next posts => exact stopped
  | move next moves => cases moves <;> first | exact stopped | rfl

theorem flags_step (before after : Campaign threads)
    (holds : (before.others.running, before.others.aborted) = before.others.main.flags)
    (step : CampaignStep endian size pps before after) :
    (after.others.running, after.others.aborted) = after.others.main.flags := by
  cases step with
  | work i next works => exact holds
  | post i entry next posts => exact holds
  | move next moves => cases moves <;> simp_all [MainPoint.flags]

theorem workers_lighter (workers : Fin threads → Worker) (i : Fin threads) (next : Worker)
    (lighter : next.point.weight < (workers i).point.weight) :
    ∑ other, (Function.update workers i next other).point.weight < ∑ other, (workers other).point.weight := by
  apply Finset.sum_lt_sum
  · intro other _
    by_cases own : other = i
    · subst own
      simpa using Nat.le_of_lt lighter
    · simp [own]
  · exact ⟨i, Finset.mem_univ i, by simpa using lighter⟩

theorem down_lighter (before after : Campaign threads) (down : before.Down) (step : CampaignStep endian size pps before after) :
    after.weight < before.weight := by
  obtain ⟨stopped, aborted⟩ := down
  cases step with
  | work i next works =>
      rw [stopped] at works
      have lighter := workers_lighter before.writers i next (blast_step_lighter endian size _ _ _ _ _ works)
      simp only [Campaign.weight]
      omega
  | post i entry next posts =>
      rw [stopped] at posts
      have lighter := workers_lighter before.writers i next (blast_step_lighter endian size _ _ _ _ _ posts)
      simp only [Campaign.weight]
      omega
  | move next moves =>
      cases moves with
      | stop stage | signalFailed error stage | abort stage | loadSent stage | loadBytes sent stage | loadErrors sent bytes stage =>
          simp [Campaign.weight, stage, MainPoint.weight]
      | join next stage ended =>
          have bound := next.2
          simp only [Campaign.weight, stage, MainPoint.weight]
          omega
      | wake stage live => simp [aborted] at live
      | reportSent stage => simp [Campaign.weight, stage, ReportPoint.weight]
      | reportBytes sent stage =>
          have quiet : (before.others.reporter.print sent (before.cells.load .bytes)).point.weight = 0 := by
            unfold Reporter.print
            dsimp only
            split <;> rfl
          have loaded : (ReportPoint.loaded sent).weight = 1 := rfl
          simp [Campaign.weight, stage, quiet, loaded]

theorem campaign_moves (campaign : Campaign threads)
    (reach : Relation.ReflTransGen (CampaignStep endian size pps) Campaign.start campaign)
    (stopped : campaign.others.running = false) :
    (∃ after, CampaignStep endian size pps campaign after) ∨ ∃ totals, campaign.others.main = .returned (.ok totals) := by
  have flags := Run.invariant (CampaignStep endian size pps)
    (fun campaign => (campaign.others.running, campaign.others.aborted) = campaign.others.main.flags) Campaign.start rfl
    (flags_step endian size pps) campaign reach
  have joined := main_sound endian size pps campaign reach
  cases stage : campaign.others.main with
  | waiting => simp [stage, stopped, MainPoint.flags] at flags
  | aborting => exact .inl ⟨_, .move campaign _ (.abort _ _ _ stage)⟩
  | joining next =>
      rw [stage] at joined
      by_cases all : next = threads
      · exact .inl ⟨_, .move campaign _ (.loadSent _ _ _ (all ▸ stage))⟩
      · have bound : next < threads := Nat.lt_of_le_of_ne joined.1 all
        cases ended : (campaign.writers ⟨next, bound⟩).point.ended with
        | true => exact .inl ⟨_, .move campaign _ (.join _ _ _ ⟨next, bound⟩ stage ended)⟩
        | false =>
            obtain ⟨entry, after, step⟩ := blast_moves endian size (perThreadPps pps threads) (seedOf ⟨next, bound⟩) _
              campaign.others.running ended
            cases entry with
            | none => exact .inl ⟨_, .work campaign ⟨next, bound⟩ after step⟩
            | some entry => exact .inl ⟨_, .post campaign ⟨next, bound⟩ entry after step⟩
  | loadingBytes sent => exact .inl ⟨_, .move campaign _ (.loadBytes _ _ _ sent stage)⟩
  | loadingErrors sent bytes => exact .inl ⟨_, .move campaign _ (.loadErrors _ _ _ sent bytes stage)⟩
  | returned result =>
      cases result with
      | error error => simp [stage, stopped, MainPoint.flags] at flags
      | ok totals => exact .inr ⟨totals, rfl⟩

theorem point_weight_bound (point : BlastPoint) : point.weight ≤ 197 := by
  cases point <;> simp only [BlastPoint.weight, batch] <;> omega

theorem down_weight_bound (campaign : Campaign threads) (flags : campaign.others.main.flags.2 = true) :
    campaign.weight ≤ 198 * threads + 5 := by
  have workers : ∑ i, (campaign.writers i).point.weight ≤ ∑ _i : Fin threads, 197 :=
    Finset.sum_le_sum (fun i _ => point_weight_bound _)
  have reporter : campaign.others.reporter.point.weight ≤ 2 := by
    cases campaign.others.reporter.point <;> simp [ReportPoint.weight]
  have main : campaign.others.main.weight threads ≤ threads + 3 := by
    cases point : campaign.others.main <;> simp_all [MainPoint.weight, MainPoint.flags]
  rw [Finset.sum_const_nat (fun _ _ => rfl), Finset.card_univ, Fintype.card_fin] at workers
  simp only [Campaign.weight]
  omega

section Sends

variable (template : InitialTemplate) (built : InitialTemplate.new size = .ok (.ok template))

include built

theorem worker_budget (before after : Campaign threads)
    (reach : Relation.ReflTransGen (CampaignStep endian size pps) Campaign.start before) (stopped : before.others.running = false)
    (step : CampaignStep endian size pps before after) (i : Fin threads) :
    (after.writers i).tried.length + (after.writers i).point.budget ≤
      (before.writers i).tried.length + (before.writers i).point.budget := by
  have inside (other : Fin threads) (locals : Locals) (index : Nat)
      (stage : (before.writers other).point = .sending locals index) : index < batch := by
    have point := (worker_sound endian size pps template built before reach other).point
    rw [stage] at point
    cases point with
    | sending _ _ bound inBatch => exact bound
  have own (other : Fin threads) (entry : Option StatAdd) (next : Worker)
      (moved : BlastStep endian size (perThreadPps pps threads) (seedOf other) before.others.running (before.writers other) entry next) :
      (Function.update before.writers other next i).tried.length + (Function.update before.writers other next i).point.budget ≤
        (before.writers i).tried.length + (before.writers i).point.budget := by
    by_cases same : i = other
    · subst same
      rw [stopped] at moved
      simpa using blast_step_budget endian size _ _ _ next entry (inside i) moved
    · simp [same]
  cases step with
  | work other next works => exact own other none next works
  | post other entry next posts => exact own other (some entry) next posts
  | move next moves => exact Nat.le_refl _

theorem sends_bounded (campaign later : Campaign threads)
    (reach : Relation.ReflTransGen (CampaignStep endian size pps) Campaign.start campaign)
    (stopped : campaign.others.running = false) (more : Relation.ReflTransGen (CampaignStep endian size pps) campaign later)
    (i : Fin threads) : (later.writers i).tried.length ≤ (campaign.writers i).tried.length + batch := by
  have kept := Run.invariant (CampaignStep endian size pps)
    (fun later => Relation.ReflTransGen (CampaignStep endian size pps) Campaign.start later ∧ later.others.running = false ∧
      (later.writers i).tried.length + (later.writers i).point.budget ≤
        (campaign.writers i).tried.length + (campaign.writers i).point.budget) campaign
    ⟨reach, stopped, Nat.le_refl _⟩
    (fun before after holds step => ⟨holds.1.tail step, running_step endian size pps before after holds.2.1 step,
      Nat.le_trans (worker_budget endian size pps template built before after holds.1 holds.2.1 step i) holds.2.2⟩) later more
  have allowance : (campaign.writers i).point.budget ≤ batch := by
    cases (campaign.writers i).point <;> simp [BlastPoint.budget]
  omega

end Sends

theorem campaign_finishes (campaign : Campaign threads)
    (reach : Relation.ReflTransGen (CampaignStep endian size pps) Campaign.start campaign) (down : campaign.Down) :
    ∃ final totals, Relation.ReflTransGen (CampaignStep endian size pps) campaign final ∧
      (∀ after, ¬ CampaignStep endian size pps final after) ∧ final.others.main = .returned (.ok totals) := by
  obtain ⟨final, more, stuck⟩ := Run.completes (CampaignStep endian size pps) Campaign.Down Campaign.weight (down_step endian size pps)
    (down_lighter endian size pps) campaign down
  have still := Run.invariant (CampaignStep endian size pps) (fun campaign => campaign.others.running = false) campaign down.1
    (running_step endian size pps) final more
  rcases campaign_moves endian size pps final (reach.trans more) still with ⟨after, step⟩ | ⟨totals, finished⟩
  · exact absurd step (stuck after)
  · exact ⟨final, totals, more, stuck, finished⟩

theorem stop_is_prompt (template : InitialTemplate) (built : InitialTemplate.new size = .ok (.ok template))
    (campaign : Campaign threads) (reach : Relation.ReflTransGen (CampaignStep endian size pps) Campaign.start campaign)
    (stopped : campaign.others.running = false) (states : Nat → Campaign threads) (start : states 0 = campaign) (count : Nat)
    (run : ∀ n < count, CampaignStep endian size pps (states n) (states (n + 1))) :
    (∀ i, ((states count).writers i).tried.length ≤ (campaign.writers i).tried.length + 64) ∧
      (campaign.others.aborted = true → count ≤ 198 * threads + 5) ∧
      ((∀ after, ¬ CampaignStep endian size pps (states count) after) →
        ∃ totals, (states count).others.main = .returned (.ok totals)) := by
  have flags := Run.invariant (CampaignStep endian size pps)
    (fun campaign => (campaign.others.running, campaign.others.aborted) = campaign.others.main.flags) Campaign.start rfl
    (flags_step endian size pps) campaign reach
  have more := Run.chained (CampaignStep endian size pps) states count run
  rw [start] at more
  have still := Run.invariant (CampaignStep endian size pps) (fun campaign => campaign.others.running = false) campaign stopped
    (running_step endian size pps) (states count) more
  refine ⟨?_, ?_, ?_⟩
  · intro i
    exact sends_bounded endian size pps template built campaign (states count) reach stopped more i
  · intro aborted
    have down : (states 0).Down := by
      rw [start]
      exact ⟨stopped, aborted⟩
    obtain ⟨_, bound⟩ := Run.bounded (CampaignStep endian size pps) Campaign.Down Campaign.weight (down_step endian size pps)
      (down_lighter endian size pps) states down count run
    have limit := down_weight_bound campaign (flags ▸ aborted)
    rw [start] at bound
    omega
  · intro stuck
    rcases campaign_moves endian size pps (states count) (reach.trans more) still with ⟨after, step⟩ | returned
    · exact absurd step (stuck after)
    · exact returned

end Stop

-- A thread that main stops in front of the first datagram of a batch, while
-- the reporter is about to print.
theorem stopped_in_batch (endian : Endian) (size : Nat) (pps : UInt64) (template : InitialTemplate)
    (built : InitialTemplate.new size = .ok (.ok template)) :
    ∃ campaign : Campaign 1, Relation.ReflTransGen (CampaignStep endian size pps) Campaign.start campaign ∧ campaign.Down ∧
      (campaign.writers 0).tried = [] ∧ ∃ locals, (campaign.writers 0).point = .sending locals 0 := by
  have reach := Relation.ReflTransGen.refl (r := CampaignStep endian size pps) (a := (Campaign.start : Campaign 1))
    |>.tail (.work _ 0 _ (.bind _ (.ok ()) rfl)) |>.tail (.work _ 0 _ (.connect _ (.ok ()) rfl))
    |>.tail (.work _ 0 _ (.build _ rfl)) |>.tail (.move _ _ (.wake _ _ _ rfl rfl))
    |>.tail (.move _ _ (.reportSent _ _ _ rfl))
  have point : BlastPoint.built (seedOf (0 : Fin 1)) (InitialTemplate.new size) =
      .checking ⟨template, ⟨seedOf (0 : Fin 1)⟩, 0⟩ := by rw [built]; rfl
  have stopped := reach |>.tail (.work _ 0 _ (.check _ _ point)) |>.tail (.move _ _ (.stop _ _ _ rfl))
    |>.tail (.move _ _ (.abort _ _ _ rfl))
  exact ⟨_, stopped, ⟨rfl, rfl⟩, rfl, _, rfl⟩

theorem stop_is_prompt_sample :
    ∃ (final : Campaign 1) (totals : Totals), Relation.ReflTransGen (CampaignStep .little 1200 1000) Campaign.start final ∧
      final.others.main = .returned (.ok totals) ∧ (final.writers 0).tried.length ≤ 64 := by
  have built := new_fits 1200 (by decide) (by decide)
  obtain ⟨campaign, reach, down, unsent, _⟩ := stopped_in_batch .little 1200 1000 _ built
  obtain ⟨final, _, more, stuck, _⟩ := campaign_finishes .little 1200 1000 campaign reach down
  obtain ⟨states, count, first, last, run⟩ := Run.indexed _ _ _ more
  obtain ⟨sends, _, ends⟩ := stop_is_prompt .little 1200 1000 _ built campaign reach down.1 states first count run
  rw [last] at sends ends
  obtain ⟨totals, finished⟩ := ends stuck
  refine ⟨final, totals, reach.trans more, finished, ?_⟩
  simpa [unsent] using sends 0

end Pktauth.Blaster
