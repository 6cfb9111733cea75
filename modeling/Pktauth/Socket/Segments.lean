import Pktauth.Lib.Sequence
import Pktauth.Socket.SendLoop

set_option autoImplicit false

namespace Pktauth.Socket

open Rust Auth Sequence

structure SendCall where
  transmit : Transmit
  writability : List Writability
  sends : List SendOutcome

structure PacketSender where
  socket : PacketSocket
  writable : Option WritableFuture

def createSender (socket : PacketSocket) : PacketSender := ⟨socket, none⟩

inductive SendRun : PacketSender → List SendCall → PacketSender → List SendReturn → Prop where
  | nil (sender : PacketSender) : SendRun sender [] sender []
  | cons (sender final : PacketSender) (call : SendCall) (calls : List SendCall) (returned : SendReturn)
      (returns : List SendReturn)
      (polled : pollSend call.transmit call.writability call.sends ⟨sender.writable, [], []⟩ = .ok (some returned))
      (consumed : returned.writability = [] ∧ returned.sends = [])
      (rest : SendRun ⟨sender.socket.record returned.state.updates, returned.state.writable⟩ calls final returns) :
      SendRun sender (call :: calls) final (returned :: returns)

def wire (returns : List SendReturn) : List Sent := returns.flatMap (fun returned => returned.state.wire)

def sendOutcomes (calls : List SendCall) : List SendOutcome := calls.flatMap SendCall.sends

structure TransmitRun (transmit : Transmit) (sender : PacketSender) (calls : List SendCall) (final : PacketSender)
    (returns : List SendReturn) : Prop where
  run : SendRun sender calls final returns
  same : ∀ call ∈ calls, call.transmit = transmit
  waiting : ∀ returned ∈ returns.dropLast, returned.result = .pending
  finished : ∃ last result, returns.getLast? = some last ∧ last.result = .ready result

def OnlyBlocked (calls : List SendCall) : Prop :=
  ∀ call ∈ calls, (∀ outcome ∈ call.sends, outcome = .accepted ∨ outcome = .failed .wouldBlock) ∧
    ∀ answer ∈ call.writability, answer = .pending ∨ answer = .ready

-- A WouldBlock with accepted sends on both sides of it.
def Resumed (outcomes : List SendOutcome) : Prop := [.accepted, .failed .wouldBlock, .accepted].Sublist outcomes

instance (outcomes : List SendOutcome) : Decidable (Resumed outcomes) :=
  inferInstanceAs (Decidable (List.Sublist _ _))

-- Where the retry loop stands: nothing taken yet, some of the segments taken
-- and the next one blocked, or segments sent over again.
inductive Progress (datagrams : List Sent) (used : List SendOutcome) : List Sent → Prop where
  | untouched (unsent : .accepted ∉ used) : Progress datagrams used []
  | blocked (count : Nat) (positive : 0 < count) (short : count < datagrams.length)
      (stopped : [.accepted, .failed .wouldBlock].Sublist used) (once : ¬ Resumed used) :
      Progress datagrams used (datagrams.take count)
  | repeated (taken : List Sent) (twice : ¬ taken <+: datagrams) (resumed : Resumed used) : Progress datagrams used taken

theorem first_attempt_resumes_not (used tail : List SendOutcome) (count : Nat) (before : .accepted ∉ used)
    (after : .accepted ∉ tail) : ¬ Resumed (used ++ (List.replicate count .accepted ++ tail)) := by
  intro resumed
  have later := sublist_skip_left _ _ used _ before resumed
  have within := sublist_skip_right SendOutcome.accepted [.accepted, .failed .wouldBlock] (List.replicate count .accepted) tail
    after later
  have blocked : (.failed .wouldBlock : SendOutcome) ∈ List.replicate count .accepted := within.subset (by simp)
  simp [List.mem_replicate] at blocked

theorem idle_attempt_resumes_iff (used tail : List SendOutcome) (after : .accepted ∉ tail) :
    Resumed (used ++ tail) ↔ Resumed used := by
  constructor
  · exact sublist_skip_right .accepted [.accepted, .failed .wouldBlock] used tail after
  · exact fun resumed => resumed.trans (List.sublist_append_left used tail)

theorem second_attempt_resumes (used tail : List SendOutcome) (count : Nat) (positive : 0 < count)
    (stopped : [.accepted, .failed .wouldBlock].Sublist used) :
    Resumed (used ++ (List.replicate count .accepted ++ tail)) := by
  have one : [SendOutcome.accepted].Sublist (List.replicate count .accepted ++ tail) := by
    rw [List.singleton_sublist, List.mem_append]
    exact .inl (List.mem_replicate.mpr ⟨Nat.ne_of_gt positive, rfl⟩)
  exact stopped.append one

theorem second_attempt_repeats (datagrams : List Sent) (distinct : datagrams.Nodup) (first second : Nat) (positive : 0 < first)
    (again : 0 < second) (nonempty : 0 < datagrams.length) : ¬ datagrams.take first ++ datagrams.take second <+: datagrams := by
  intro initial
  have separate := List.nodup_append.mp (initial.sublist.nodup distinct)
  obtain ⟨head, rest, cons⟩ := List.exists_cons_of_length_pos nonempty
  have inFirst : head ∈ datagrams.take first := by
    rw [cons, ← Nat.succ_pred_eq_of_pos positive, List.take_succ_cons]
    exact List.mem_cons_self
  have inSecond : head ∈ datagrams.take second := by
    rw [cons, ← Nat.succ_pred_eq_of_pos again, List.take_succ_cons]
    exact List.mem_cons_self
  exact separate.2.2 head inFirst head inSecond rfl

theorem progress_attempt (datagrams : List Sent) (distinct : datagrams.Nodup) (used tail : List SendOutcome) (taken : List Sent)
    (count : Nat) (progress : Progress datagrams used taken) (after : .accepted ∉ tail) (bound : count ≤ datagrams.length) :
    taken ++ datagrams.take count <+: datagrams ↔ ¬ Resumed (used ++ (List.replicate count .accepted ++ tail)) := by
  cases progress with
  | untouched unsent =>
      exact iff_of_true (List.take_prefix count datagrams) (first_attempt_resumes_not used tail count unsent after)
  | blocked earlier positive short stopped once =>
      by_cases idle : count = 0
      · subst idle
        rw [List.replicate_zero, List.nil_append, idle_attempt_resumes_iff used tail after, List.take_zero, List.append_nil]
        exact iff_of_true (List.take_prefix earlier datagrams) once
      · have again := Nat.pos_of_ne_zero idle
        exact iff_of_false (second_attempt_repeats datagrams distinct earlier count positive again (by omega))
          (not_not_intro (second_attempt_resumes used tail count again stopped))
  | repeated _ twice resumed =>
      refine iff_of_false ?_ (not_not_intro (resumed.trans (List.sublist_append_left used _)))
      exact fun initial => twice ((List.prefix_append taken _).trans initial)

theorem progress_blocked (datagrams : List Sent) (distinct : datagrams.Nodup) (used : List SendOutcome) (taken : List Sent)
    (count : Nat) (progress : Progress datagrams used taken) (short : count < datagrams.length) :
    Progress datagrams (used ++ (List.replicate count .accepted ++ [.failed .wouldBlock])) (taken ++ datagrams.take count) := by
  have verdict := progress_attempt datagrams distinct used [.failed .wouldBlock] taken count progress (by simp)
    (Nat.le_of_lt short)
  by_cases resumed : Resumed (used ++ (List.replicate count .accepted ++ [.failed .wouldBlock]))
  · exact .repeated _ (fun initial => verdict.mp initial resumed) resumed
  · cases progress with
    | untouched unsent =>
        by_cases idle : count = 0
        · subst idle
          exact .untouched (by simp [unsent])
        · refine .blocked count (Nat.pos_of_ne_zero idle) short ?_ resumed
          refine List.Sublist.trans ?_ (List.sublist_append_right used _)
          refine List.Sublist.append (List.singleton_sublist.mpr ?_) (List.Sublist.refl [SendOutcome.failed .wouldBlock])
          exact List.mem_replicate.mpr ⟨idle, rfl⟩
    | blocked earlier positive earlierShort stopped once =>
        by_cases idle : count = 0
        · subst idle
          rw [List.take_zero, List.append_nil]
          exact .blocked earlier positive earlierShort (stopped.trans (List.sublist_append_left used _)) resumed
        · exact absurd (second_attempt_resumes used _ count (Nat.pos_of_ne_zero idle) stopped) resumed
    | repeated _ twice resumedBefore =>
        exact absurd (resumedBefore.trans (List.sublist_append_left used _)) resumed

theorem poll_send_progress (transmit : Transmit) (datagrams : List Sent) (split : segments transmit = .ok datagrams)
    (distinct : datagrams.Nodup) (writability : List Writability) (sends : List SendOutcome) (writable : Option WritableFuture)
    (returned : SendReturn) (polled : pollSend transmit writability sends ⟨writable, [], []⟩ = .ok (some returned))
    (consumed : returned.sends = []) (used : List SendOutcome) (taken : List Sent) (progress : Progress datagrams used taken) :
    SendEnds datagrams (fun sends state => Progress datagrams (used ++ sends) (taken ++ state.wire)) writability sends
      returned.result returned.state := by
  obtain ⟨answer, played, ends⟩ := poll_send_rule transmit datagrams split
    (fun sends state => Progress datagrams (used ++ sends) (taken ++ state.wire))
    (fun earlier tried state after top attempt => by
      cases attempt with
      | cut count error short =>
          simpa only [SendState.took, List.append_assoc] using
            progress_blocked datagrams distinct (used ++ earlier) (taken ++ state.wire) count top short)
    writability sends [] ⟨writable, [], []⟩ (by simpa using progress)
    (poll_send_pollable transmit writability sends ⟨writable, [], []⟩ returned polled)
  rw [polled, Except.ok.injEq] at played
  obtain ⟨read, all, ended⟩ := ends returned played.symm
  rw [consumed, List.append_nil] at all
  simpa only [all, List.nil_append] using ended

theorem last_call (datagrams : List Sent) (distinct : datagrams.Nodup) (writability : List Writability)
    (sends used : List SendOutcome) (taken : List Sent) (result : Except ErrorKind Unit) (final : SendState)
    (ends : SendEnds datagrams (fun sends state => Progress datagrams (used ++ sends) (taken ++ state.wire)) writability sends
      (.ready result) final) :
    (taken ++ final.wire <+: datagrams ↔ ¬ Resumed (used ++ sends)) ∧
      ((∀ outcome ∈ sends, outcome = .accepted ∨ outcome = .failed .wouldBlock) →
        (∀ answer ∈ writability, answer = .pending ∨ answer = .ready) → ∃ before, taken ++ final.wire = before ++ datagrams) := by
  cases ends with
  | readyFailed _ state error top answered =>
      have verdict := progress_attempt datagrams distinct (used ++ sends) [] (taken ++ state.wire) 0 top (by simp) (Nat.zero_le _)
      refine ⟨by simpa using verdict, ?_⟩
      intro _ ready
      simpa using ready _ answered
  | sent earlier tried state _ top attempt =>
      cases attempt with
      | whole =>
          have verdict := progress_attempt datagrams distinct (used ++ earlier) [] (taken ++ state.wire) datagrams.length top
            (by simp) (Nat.le_refl _)
          refine ⟨by simpa [SendState.took] using verdict, ?_⟩
          intro _ _
          exact ⟨taken ++ state.wire, by simp [SendState.took]⟩
  | dropped earlier tried state _ error top attempt hard =>
      cases attempt with
      | cut count error short =>
          have verdict := progress_attempt datagrams distinct (used ++ earlier) [.failed error] (taken ++ state.wire) count top
            (by simp) (Nat.le_of_lt short)
          refine ⟨by simpa [SendState.took] using verdict, ?_⟩
          intro soft _
          have met := soft (.failed error) (by simp)
          simp [hard] at met

theorem run_progress (transmit : Transmit) (datagrams : List Sent) (split : segments transmit = .ok datagrams)
    (distinct : datagrams.Nodup) (sender final : PacketSender) (calls : List SendCall) (returns : List SendReturn)
    (transmitted : TransmitRun transmit sender calls final returns) (used : List SendOutcome) (taken : List Sent)
    (progress : Progress datagrams used taken) :
    (taken ++ wire returns <+: datagrams ↔ ¬ Resumed (used ++ sendOutcomes calls)) ∧
      (OnlyBlocked calls → ∃ before, taken ++ wire returns = before ++ datagrams) := by
  obtain ⟨run, same, waiting, finished⟩ := transmitted
  induction run generalizing used taken with
  | nil sender => simp at finished
  | cons sender final call calls returned returns polled consumed rest ih =>
      rw [same call List.mem_cons_self] at polled
      have ends := poll_send_progress transmit datagrams split distinct call.writability call.sends sender.writable returned polled
        consumed.2 used taken progress
      have isWire : wire (returned :: returns) = returned.state.wire ++ wire returns := by simp [wire]
      have areOutcomes : sendOutcomes (call :: calls) = call.sends ++ sendOutcomes calls := by simp [sendOutcomes]
      rw [isWire, areOutcomes, ← List.append_assoc, ← List.append_assoc]
      cases returns with
      | nil =>
          obtain ⟨last, result, isLast, ready⟩ := finished
          rw [List.getLast?_singleton, Option.some.injEq] at isLast
          subst isLast
          rw [ready] at ends
          obtain ⟨once, whole⟩ := last_call datagrams distinct call.writability call.sends used taken result returned.state ends
          cases rest
          refine ⟨by simpa [wire, sendOutcomes] using once, ?_⟩
          intro blocked
          obtain ⟨sends, writability⟩ := blocked call List.mem_cons_self
          simpa [wire] using whole sends writability
      | cons next returns =>
          rw [waiting returned (by simp)] at ends
          obtain ⟨state, top, left⟩ := send_ends_pending _ _ _ _ _ ends
          obtain ⟨once, whole⟩ := ih _ _ top (fun other member => same other (List.mem_cons_of_mem call member))
            (fun other member => waiting other (by simp [member])) (by simpa using finished)
          rw [left]
          exact ⟨once, fun blocked => whole (fun other member => blocked other (List.mem_cons_of_mem call member))⟩

theorem segments_sent_once_iff (transmit : Transmit) (size : Nat) (positive : 1 ≤ size)
    (segmented : transmit.segmentSize = some size) (sender final : PacketSender) (calls : List SendCall)
    (returns : List SendReturn) (transmitted : TransmitRun transmit sender calls final returns) :
    ∃ datagrams, chunks transmit.contents size = .ok datagrams ∧
      ((wire returns <+: datagrams.map (Sent.mk transmit.destination) ∧
          (OnlyBlocked calls → wire returns = datagrams.map (Sent.mk transmit.destination))) ↔
        ¬ Resumed (sendOutcomes calls)) := by
  obtain ⟨datagrams, split⟩ : ∃ datagrams, chunks transmit.contents size = .ok datagrams := by
    rw [chunks, if_neg (by omega)]
    exact ⟨_, rfl⟩
  have offered : segments transmit = .ok (datagrams.map (Sent.mk transmit.destination)) := by
    simp only [segments, segmented, split, exec_bind_ok]
  have distinct : (datagrams.map (Sent.mk transmit.destination)).Nodup := by
    refine List.Nodup.map ?_ (chunks_distinct transmit.contents size datagrams split)
    intro a b same
    exact congrArg Sent.datagram same
  obtain ⟨once, whole⟩ := run_progress transmit _ offered distinct sender final calls returns transmitted [] []
    (.untouched (by simp))
  rw [List.nil_append, List.nil_append] at once
  rw [List.nil_append] at whole
  refine ⟨datagrams, split, ?_⟩
  constructor
  · exact fun sound => once.mp sound.1
  · intro steady
    refine ⟨once.mpr steady, ?_⟩
    intro blocked
    obtain ⟨before, all⟩ := whole blocked
    rw [all] at once ⊢
    exact whole_of_initial before _ (once.mpr steady)

def sampleTransmit : Transmit := ⟨⟨.v4 ⟨10, 0, 0, 2⟩, 4433⟩, [1, 2], some 1⟩
def sampleSegment (offset : Nat) (byte : UInt8) : Sent := ⟨sampleTransmit.destination, ⟨offset, [byte]⟩⟩
def sampleSender : PacketSender := createSender (PacketSocket.bind none)
def sampleUpdates : List FetchAdd := [⟨.sent, 1⟩, ⟨.sentBytes, 1⟩]

theorem segments_sent_once_iff_sample :
    ∃ calls final returns, TransmitRun sampleTransmit sampleSender calls final returns ∧
      wire returns = [sampleSegment 0 1, sampleSegment 1 2] ∧ ¬ Resumed (sendOutcomes calls) := by
  have run : TransmitRun sampleTransmit sampleSender
      [⟨sampleTransmit, [.ready, .pending], [.failed .wouldBlock]⟩, ⟨sampleTransmit, [.ready], [.accepted, .accepted]⟩] _
      [⟨.pending, ⟨some ⟨false⟩, [], []⟩, [], []⟩,
        ⟨.ready (.ok ()), ⟨none, [sampleSegment 0 1, sampleSegment 1 2], sampleUpdates ++ sampleUpdates⟩, [], []⟩] :=
    ⟨.cons _ _ _ _ _ _ (by decide) ⟨rfl, rfl⟩ (.cons _ _ _ _ _ _ (by decide) ⟨rfl, rfl⟩ (.nil _)), by simp, by simp,
      _, .ok (), rfl, rfl⟩
  obtain ⟨datagrams, split, sound⟩ := segments_sent_once_iff sampleTransmit 1 (Nat.le_refl 1) rfl _ _ _ _ run
  have steady : ¬ Resumed (sendOutcomes
      [⟨sampleTransmit, [.ready, .pending], [.failed .wouldBlock]⟩, ⟨sampleTransmit, [.ready], [.accepted, .accepted]⟩]) := by
    decide
  have cut : chunks sampleTransmit.contents 1 = .ok [⟨0, [1]⟩, ⟨1, [2]⟩] := by decide
  rw [cut, Except.ok.injEq] at split
  subst split
  refine ⟨_, _, _, run, (sound.mpr steady).2 ?_, steady⟩
  simp [OnlyBlocked]

-- The first segment is accepted and the second one blocks: the retry starts
-- over and sends the first one again.
theorem segment_sent_twice :
    ∃ calls final returns, TransmitRun sampleTransmit sampleSender calls final returns ∧ OnlyBlocked calls ∧
      ∃ datagrams, chunks sampleTransmit.contents 1 = .ok datagrams ∧
        wire returns = [sampleSegment 0 1, sampleSegment 0 1, sampleSegment 1 2] ∧
        ¬ wire returns <+: datagrams.map (Sent.mk sampleTransmit.destination) := by
  have run : TransmitRun sampleTransmit sampleSender
      [⟨sampleTransmit, [.ready, .ready], [.accepted, .failed .wouldBlock, .accepted, .accepted]⟩] _
      [⟨.ready (.ok ()), ⟨none, [sampleSegment 0 1, sampleSegment 0 1, sampleSegment 1 2],
        sampleUpdates ++ sampleUpdates ++ sampleUpdates⟩, [], []⟩] :=
    ⟨.cons _ _ _ _ _ _ (by decide) ⟨rfl, rfl⟩ (.nil _), by simp, by simp, _, .ok (), rfl, rfl⟩
  exact ⟨_, _, _, run, by simp [OnlyBlocked], [⟨0, [1]⟩, ⟨1, [2]⟩], by decide, rfl, by decide⟩

end Pktauth.Socket
