import Pktauth.Blaster.Stop

set_option autoImplicit false

namespace Pktauth.Blaster

open Rust Socket

-- What the reporter knows, as long as neither counter that it reads has gone
-- past its 64 bits.
structure ReportSound (sofar : List StatAdd) (reporter : Reporter) : Prop where
  sent : reporter.lastSent.toNat ≤ posts .sent sofar
  bytes : reporter.lastBytes.toNat ≤ posts .bytes sofar
  loaded : ∀ sent, reporter.point = .loaded sent → reporter.lastSent ≤ sent ∧ sent.toNat ≤ posts .sent sofar
  alive : ∀ panic, reporter.point ≠ .panicked panic
  running : ∀ front line rest, reporter.lines = front ++ line :: rest →
    line.total.toNat = (front.map (fun line => line.packets.toNat)).sum + line.packets.toNat
  packets : (reporter.lines.map (fun line => line.packets.toNat)).sum = reporter.lastSent.toNat
  amounts : (reporter.lines.map (fun line => line.bytes.toNat)).sum = reporter.lastBytes.toNat

theorem posts_concat (stat : Stat) (sofar : List StatAdd) (entry : StatAdd) : posts stat sofar ≤ posts stat (sofar ++ [entry]) := by
  simp [posts]

theorem report_grows (sofar : List StatAdd) (entry : StatAdd) (reporter : Reporter) (sound : ReportSound sofar reporter) :
    ReportSound (sofar ++ [entry]) reporter :=
  { sound with
    sent := Nat.le_trans sound.sent (posts_concat _ _ _)
    bytes := Nat.le_trans sound.bytes (posts_concat _ _ _)
    loaded := fun sent stage => ⟨(sound.loaded sent stage).1, Nat.le_trans (sound.loaded sent stage).2 (posts_concat _ _ _)⟩ }

theorem stat_value (sofar : List StatAdd) (stat : Stat) (bounded : posts stat sofar < UInt64.size) :
    ((sofar.foldl Stats.fetchAdd {}).load stat).toNat = posts stat sofar := by
  have zero : ({} : Stats).load stat = 0 := by cases stat <;> rfl
  rw [load_stats, zero, UInt64.zero_add]
  exact UInt64.toNat_ofNat_of_lt' bounded

theorem u64_sub_le (a b : UInt64) (below : b ≤ a) : u64Sub a b = .ok (a - b) ∧ (a - b).toNat + b.toNat = a.toNat := by
  have order := UInt64.le_iff_toNat_le.mp below
  refine ⟨by rw [u64Sub, if_pos below], ?_⟩
  rw [UInt64.toNat_sub_of_le a b below]
  omega

-- The line of an iteration says what was added since the line before it.
theorem print_sound (sofar : List StatAdd) (reporter : Reporter) (sent bytes : UInt64) (sound : ReportSound sofar reporter)
    (stage : reporter.point = .loaded sent) (value : bytes.toNat = posts .bytes sofar) :
    ReportSound sofar (reporter.print sent bytes) := by
  obtain ⟨forward, known⟩ := sound.loaded sent stage
  have forwardBytes : reporter.lastBytes ≤ bytes := by
    rw [UInt64.le_iff_toNat_le, value]
    exact sound.bytes
  obtain ⟨packets, added⟩ := u64_sub_le sent reporter.lastSent forward
  obtain ⟨amount, addedBytes⟩ := u64_sub_le bytes reporter.lastBytes forwardBytes
  have printed : reporter.print sent bytes =
      ⟨.sleeping, sent, bytes, reporter.lines ++ [⟨sent - reporter.lastSent, bytes - reporter.lastBytes, sent⟩]⟩ := by
    simp only [Reporter.print, packets, amount, exec_bind_ok]
  have before := sound.packets
  have beforeBytes := sound.amounts
  rw [printed]
  refine ⟨known, Nat.le_of_eq value, nofun, nofun, ?_, ?_, ?_⟩
  · intro front line rest split
    rcases List.eq_nil_or_concat rest with rfl | ⟨middle, last, rfl⟩
    · obtain ⟨rfl, isLast⟩ := List.append_inj' split rfl
      rw [List.cons.injEq] at isLast
      rw [← isLast.1, before]
      dsimp only
      omega
    · rw [List.concat_eq_append, ← List.cons_append, ← List.append_assoc] at split
      exact sound.running front line middle (List.append_inj' split rfl).1
  · simp only [List.map_append, List.sum_append, List.map_singleton, List.sum_singleton, before]
    omega
  · simp only [List.map_append, List.sum_append, List.map_singleton, List.sum_singleton, beforeBytes]
    omega

section Report

variable {threads : Nat} (endian : Endian) (size : Nat) (pps : UInt64)

theorem control_report (workers : Fin threads → Worker) (control next : Control) (sofar : List StatAdd)
    (bounded : ∀ stat, stat ≠ .errors → posts stat sofar < UInt64.size) (sound : ReportSound sofar control.reporter)
    (step : ControlStep workers (sofar.foldl Stats.fetchAdd {}) control next) : ReportSound sofar next.reporter := by
  cases step with
  | stop stage | signalFailed error stage | abort stage | join joined stage ended | loadSent stage | loadBytes sent stage
  | loadErrors sent bytes stage => exact sound
  | wake stage live => exact { sound with loaded := nofun, alive := nofun }
  | reportSent stage =>
      refine { sound with loaded := ?_, alive := nofun }
      intro sent loaded
      have value := stat_value sofar .sent (bounded .sent (by decide))
      rw [ReportPoint.loaded.injEq] at loaded
      rw [← loaded, UInt64.le_iff_toNat_le, value]
      exact ⟨sound.sent, Nat.le_refl _⟩
  | reportBytes sent stage => exact print_sound sofar _ sent _ sound stage (stat_value sofar .bytes (bounded .bytes (by decide)))

theorem report_sound (campaign : Campaign threads)
    (reach : Relation.ReflTransGen (CampaignStep endian size pps) Campaign.start campaign)
    (bounded : ∀ stat, stat ≠ .errors → posts stat campaign.entries < UInt64.size) :
    ReportSound campaign.entries campaign.others.reporter := by
  refine Ledger.others_keep Stats.fetchAdd
    (fun control i => BlastStep endian size (perThreadPps pps threads) (seedOf i) control.running) ControlStep
    Campaign.start rfl
    (fun control sofar => (∀ stat, stat ≠ .errors → posts stat sofar < UInt64.size) → ReportSound sofar control.reporter)
    ?_ ?_ ?_ campaign reach bounded
  · intro _
    exact ⟨Nat.zero_le _, Nat.zero_le _, nofun, nofun, by simp [Campaign.start], rfl, rfl⟩
  · intro control sofar entry sound bounded
    exact report_grows sofar entry _
      (sound (fun stat read => Nat.lt_of_le_of_lt (posts_concat stat sofar entry) (bounded stat read)))
  · intro workers control next sofar sound step bounded
    exact control_report workers control next sofar bounded (sound bounded) step

theorem summary_accounts_all (template : InitialTemplate) (built : InitialTemplate.new size = .ok (.ok template))
    (campaign : Campaign threads) (reach : Relation.ReflTransGen (CampaignStep endian size pps) Campaign.start campaign)
    (totals : Totals) (finished : campaign.others.main = .returned (.ok totals)) :
    totals.sent = UInt64.ofNat (∑ i, taken (campaign.writers i).tried) ∧
      totals.errors = UInt64.ofNat (∑ i, refused (campaign.writers i).tried) ∧
      totals.bytes = totals.sent * UInt64.ofNat size ∧
      ∀ i, (∀ (index : Nat) (attempt : List UInt8 × SendOutcome), (campaign.writers i).tried[index]? = some attempt →
          attempt.1 = (layout size (dcidAfter endian (seedOf i) (3 * index))).bytes) ∧
        ((campaign.writers i).point = .returned (.ok ()) ∧ 64 ∣ (campaign.writers i).tried.length ∨
          (∃ error, (campaign.writers i).point = .returned (.error (.io error)) ∧ (campaign.writers i).tried = []) ∨
          (campaign.writers i).point = .panicked .overflow ∧ UInt64.size ≤ (campaign.writers i).tried.length ∨
          ∃ panic, (campaign.writers i).point = .panicked panic ∧ perThreadPps pps threads = 1 ∧
            2 ^ 64 - 1024 ≤ (campaign.writers i).tried.length) := by
  have sound (i : Fin threads) := worker_sound endian size pps template built campaign reach i
  have joined := main_sound endian size pps campaign reach
  rw [finished] at joined
  obtain ⟨ended, rfl⟩ := joined
  have settled (i : Fin threads) : Ledger.posted i campaign.log = books (campaign.writers i).tried := by
    have booked := (sound i).booked
    have last := ended i
    cases point : (campaign.writers i).point <;> simp_all [BlastPoint.ended, BlastPoint.owed]
  have total (stat : Stat) := stat_total endian size pps campaign reach stat
  have amounts (i : Fin threads) := books_amounts size (campaign.writers i).tried
    (worker_sized endian size pps template built campaign reach i)
  simp only [settled] at total
  have sent := total .sent
  have bytes := total .bytes
  have errors := total .errors
  simp only [amounts, Stats.load] at sent bytes errors
  refine ⟨sent, errors, ?_, ?_⟩
  · rw [bytes, ← Finset.sum_mul, UInt64.ofNat_mul, sent]
  · intro i
    refine ⟨(sound i).stream, ?_⟩
    have point := (sound i).point
    have last := ended i
    generalize (campaign.writers i).point = place at point last ⊢
    cases point with
    | stopped whole => exact .inl ⟨rfl, whole⟩
    | refused error unsent => exact .inr (.inl ⟨error, rfl, unsent⟩)
    | overflowed many => exact .inr (.inr (.inl ⟨rfl, many⟩))
    | late panic slow many => exact .inr (.inr (.inr ⟨panic, rfl, slow, many⟩))
    | binding _ | connecting _ | building _ | checking _ _ | sending _ _ _ _ | booking _ _ _ _ _ | sizing _ _ _ _ _
    | failing _ _ _ _ | pacing _ _ => cases last

theorem summary_accounts_all_sample :
    ∃ (final : Campaign 1) (totals : Totals), Relation.ReflTransGen (CampaignStep .little 1200 1000) Campaign.start final ∧
      final.others.main = .returned (.ok totals) ∧ totals.sent = UInt64.ofNat (∑ i, taken (final.writers i).tried) ∧
      totals.bytes = totals.sent * 1200 := by
  have built := new_fits 1200 (by decide) (by decide)
  obtain ⟨campaign, reach, down, _⟩ := stopped_in_batch .little 1200 1000 _ built
  obtain ⟨final, totals, more, _, finished⟩ := campaign_finishes .little 1200 1000 campaign reach down
  obtain ⟨sent, _, bytes, _⟩ := summary_accounts_all .little 1200 1000 _ built final (reach.trans more) totals finished
  exact ⟨final, totals, reach.trans more, finished, sent, bytes⟩

theorem posts_taken (template : InitialTemplate) (built : InitialTemplate.new size = .ok (.ok template))
    (campaign : Campaign threads) (reach : Relation.ReflTransGen (CampaignStep endian size pps) Campaign.start campaign)
    (stat : Stat) (read : stat ≠ .errors) :
    posts stat campaign.entries ≤ (∑ i, taken (campaign.writers i).tried) * size := by
  obtain ⟨large, _, _⟩ := new_ok size template built
  rw [entries_posts, Finset.sum_mul]
  refine Finset.sum_le_sum (fun i _ => ?_)
  have sized := worker_sized endian size pps template built campaign reach i
  have booked := (worker_sound endian size pps template built campaign reach i).booked
  obtain ⟨sent, _, bytes⟩ := books_amounts size (campaign.writers i).tried sized
  have wide := Nat.le_mul_of_pos_right (taken (campaign.writers i).tried) (show 0 < size by omega)
  have part : posts stat (Ledger.posted i campaign.log) ≤ posts stat (books (campaign.writers i).tried) := by
    rw [← booked]
    simp [posts]
  refine Nat.le_trans part ?_
  cases stat with
  | sent => exact Nat.le_trans (Nat.le_of_eq sent) wide
  | errors => exact absurd rfl read
  | bytes => exact Nat.le_of_eq bytes

theorem reports_telescope (template : InitialTemplate) (built : InitialTemplate.new size = .ok (.ok template))
    (campaign : Campaign threads) (reach : Relation.ReflTransGen (CampaignStep endian size pps) Campaign.start campaign)
    (bounded : (∑ i, taken (campaign.writers i).tried) * size < UInt64.size) :
    (∀ panic, campaign.others.reporter.point ≠ .panicked panic) ∧
      (∀ front line rest, campaign.others.reporter.lines = front ++ line :: rest →
        line.total.toNat = (front.map (fun line => line.packets.toNat)).sum + line.packets.toNat ∧
          line.total ≤ campaign.cells.sent) ∧
      (campaign.others.reporter.lines.map (fun line => line.bytes.toNat)).sum ≤ campaign.cells.bytes.toNat ∧
      ∀ totals, campaign.others.main = .returned (.ok totals) →
        totals = ⟨campaign.cells.sent, campaign.cells.bytes, campaign.cells.errors⟩ := by
  have small (stat : Stat) (read : stat ≠ .errors) : posts stat campaign.entries < UInt64.size :=
    Nat.lt_of_le_of_lt (posts_taken endian size pps template built campaign reach stat read) bounded
  have sound := report_sound endian size pps campaign reach small
  have cells := Ledger.cells_posted Stats.fetchAdd _ _ _ rfl campaign reach
  have value (stat : Stat) (read : stat ≠ .errors) : (campaign.cells.load stat).toNat = posts stat campaign.entries := by
    rw [cells]
    exact stat_value campaign.entries stat (small stat read)
  have sent := value .sent (by decide)
  have bytes := value .bytes (by decide)
  simp only [Stats.load] at sent bytes
  refine ⟨sound.alive, ?_, ?_, ?_⟩
  · intro front line rest split
    have total := sound.running front line rest split
    refine ⟨total, ?_⟩
    have known := sound.sent
    have all := sound.packets
    simp only [split, List.map_append, List.map_cons, List.sum_append, List.sum_cons] at all
    rw [UInt64.le_iff_toNat_le, sent]
    omega
  · rw [bytes, sound.amounts]
    exact sound.bytes
  · intro totals finished
    have joined := main_sound endian size pps campaign reach
    rw [finished] at joined
    exact joined.2

theorem reports_telescope_sample :
    ∃ final : Campaign 1, Relation.ReflTransGen (CampaignStep .little 1200 1000) Campaign.start final ∧
      (∃ totals, final.others.main = .returned (.ok totals)) ∧ ∀ panic, final.others.reporter.point ≠ .panicked panic := by
  have built := new_fits 1200 (by decide) (by decide)
  obtain ⟨campaign, reach, down, unsent, _⟩ := stopped_in_batch .little 1200 1000 _ built
  obtain ⟨final, totals, more, _, finished⟩ := campaign_finishes .little 1200 1000 campaign reach down
  have sends := sends_bounded .little 1200 1000 _ built campaign final reach down.1 more 0
  have bounded : (∑ i, taken (final.writers i).tried) * 1200 < UInt64.size := by
    have accepted : taken (final.writers 0).tried ≤ (final.writers 0).tried.length := List.countP_le_length
    simp only [unsent, List.length_nil, batch] at sends
    simp only [Finset.univ_unique, Fin.default_eq_zero, Finset.sum_singleton, UInt64.size]
    omega
  exact ⟨final, reach.trans more, ⟨totals, finished⟩,
    (reports_telescope .little 1200 1000 _ built final (reach.trans more) bounded).1⟩

end Report

end Pktauth.Blaster
