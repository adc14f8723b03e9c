/-
How many events a run uses up.

Every byte of a transcript is an event: what is sent waits for an answer, and
what comes in is waited for.  Unless it is disturbed, a run uses its events up
one at a time, or two where the first byte comes along with the answer to the
address that asked for it, and it is done when none is left and not before.
-/
import TwoWire.Bench
import TwoWire.Bench.Script
import TwoWire.Proofs.History

namespace TwoWire

open Sequence (Kind Slot Stage)

def Call.movesByte : Call → Bool
  | .writeAddress _ | .writeData _ | .readData => true
  | _ => false

namespace Sequence

theorem countP_takes (count : Nat) :
    (takes count).countP Call.movesByte = count := by
  fun_induction takes count with
  | case1 => rfl
  | case2 => rfl
  | case3 rest ih =>
      rw [List.countP_cons_of_pos rfl, List.countP_cons_of_neg (by decide),
        ih]

/-- There is an event for every byte of the transcript. -/
theorem eventCount_eq_countP (sequence : Sequence) (kind : Kind) :
    sequence.eventCount kind =
      (sequence.transcript kind).countP Call.movesByte := by
  have hsent : ((sequence.sent kind).map Call.writeData).countP
      Call.movesByte = (sequence.sent kind).length := by
    rw [List.countP_map]
    exact List.countP_eq_length.mpr fun _ _ => rfl
  have hopening : (sequence.opening kind).countP Call.movesByte =
      1 + if sequence.isTenBit then 1 else 0 := by
    rw [opening]
    split <;> rfl
  have hreopening : (sequence.reopening kind).countP Call.movesByte =
      if sequence.readdresses kind then 1 else 0 := by
    rw [reopening]
    split <;> rfl
  have hstop : [Call.stop].countP Call.movesByte = 0 := rfl
  simp only [transcript, List.countP_append, hsent, hopening, hreopening,
    hstop, countP_takes, eventCount, addressLength]
  omega

/-- Whether what is awaited in a phase is the answer to an address that asks
for data. -/
def turnsIn (sequence : Sequence) (kind : Kind) : Transfer.Phase → Bool
  | .readdress => true
  | .address => sequence.readsAtOnce kind
  | _ => false

@[simp]
theorem filled_turnsIn {sequence : Sequence} {kind : Kind}
    {received : List UInt8} (phase : Transfer.Phase) :
    (sequence.filled kind received).turnsIn kind phase =
      sequence.turnsIn kind phase := by
  cases phase with
  | address => simp only [turnsIn, readsAtOnce, filled_isTenBit]
  | _ => rfl

end Sequence

namespace Transfer

/-- The flag that takes a transfer on. -/
def awaited (transfer : Transfer) : Interrupt :=
  if transfer.phase = .receive then .dataReceived else .ackReceived

variable {transfer : Transfer} {sequence : Sequence} {kind : Kind}
  {received : List UInt8} {phase : Phase} {slot : Slot} {index position : Nat}
  {stage : Stage} {status : Interrupts} {reaction : Reaction}

theorem Stands.turnsIn_iff
    (h : Stands sequence kind phase slot index stage) :
    sequence.turnsIn kind phase = true ↔ stage = .turned := by
  cases h with
  | opening hwide => simp [Sequence.turnsIn, Sequence.readsAtOnce, hwide]
  | addressed hwide hkind =>
      simp [Sequence.turnsIn, Sequence.readsAtOnce, hkind]
  | asked hwide hkind =>
      simp [Sequence.turnsIn, Sequence.readsAtOnce, hwide, hkind]
  | _ => simp [Sequence.turnsIn]

/-- Nothing that is shown would end the transfer. -/
def Calm (transfer : Transfer) (status : Interrupts) : Prop :=
  Quiet status ∧ (transfer.phase ≠ .receive → .nackReceived ∉ status)

instance : Decidable (transfer.Calm status) :=
  inferInstanceAs (Decidable ((_ ∧ _) ∧ (_ → _)))

theorem Taking.consumed
    (h : Taking transfer sequence status index reaction) :
    Call.consumed reaction.calls =
      if .dataReceived ∈ status then 1 else 0 := by
  cases h with
  | none hdata =>
      rw [if_neg hdata]
      split
      · rfl
      · rfl
  | more hdata hmore =>
      rw [if_pos hdata]
      rfl
  | last hdata hlast =>
      rw [if_pos hdata]
      rfl

theorem Onward.consumed (h : Onward sequence kind position reaction) :
    Call.consumed reaction.calls = 0 := by
  cases h with
  | sent hbyte hnext => rfl
  | turned hlast hreaddress hnext => rfl
  | ended hlast hreaddress hkind hheld hnextKind => rfl

/-- Without the flag that it awaits, a transfer goes on waiting. -/
theorem Handles.of_not_awaited
    (h : Handles transfer sequence status stage reaction)
    (hflight : transfer.InFlight sequence stage) (hcalm : transfer.Calm status)
    (hawaited : transfer.awaited ∉ status) :
    reaction = transfer.wait
      (if transfer.phase = .receive ∧ .nackReceived ∈ status then
        [.clearInterrupts {Interrupt.nackReceived}] else []) := by
  have hreceive := hflight.stands.phase_eq_receive_iff
  have hack : transfer.phase ≠ .receive → .ackReceived ∉ status := by
    intro hphase
    rwa [awaited, if_neg hphase] at hawaited
  cases h with
  | lost hlost => exact absurd hlost hcalm.1.1
  | broken hlost hbroken => exact absurd hbroken hcalm.1.2
  | refused hquiet hphase hnack => exact absurd hnack (hcalm.2 hphase)
  | unanswered hquiet hphase hnack hnone =>
      rw [if_neg fun hboth => hphase hboth.1]
  | opened hacked hnext =>
      exact absurd hacked.2.2 (hack (mt hreceive.mp nofun))
  | onward hacked honward =>
      exact absurd hacked.2.2 (hack (mt hreceive.mp nofun))
  | turned hacked hnext htaking =>
      exact absurd hacked.2.2 (hack (mt hreceive.mp nofun))
  | received hquiet htaking =>
      have hphase := hreceive.mpr ⟨_, rfl⟩
      rw [awaited, if_pos hphase] at hawaited
      cases htaking with
      | none hdata => simp only [hphase, true_and]
      | more hdata hmore => exact absurd hdata hawaited
      | last hdata hlast => exact absurd hdata hawaited

/-- With the flag that it awaits, a transfer uses up an event, and a second one
if data has come along with the answer to a request for it. -/
theorem Handles.consumed_of_awaited
    (h : Handles transfer sequence status stage reaction)
    (hflight : transfer.InFlight sequence stage) (hcalm : transfer.Calm status)
    (hawaited : transfer.awaited ∈ status) :
    Call.consumed reaction.calls =
      if sequence.turnsIn transfer.kind transfer.phase = true ∧
        .dataReceived ∈ status then 2 else 1 := by
  have hreceive := hflight.stands.phase_eq_receive_iff
  have hnot : stage ≠ .turned →
      ¬ (sequence.turnsIn transfer.kind transfer.phase = true ∧
        .dataReceived ∈ status) := by
    intro hstage hboth
    exact hstage (hflight.stands.turnsIn_iff.mp hboth.1)
  have hack : Call.consumed [.clearInterrupts {Interrupt.ackReceived}] = 1 :=
    rfl
  cases h with
  | lost hlost => exact absurd hlost hcalm.1.1
  | broken hlost hbroken => exact absurd hbroken hcalm.1.2
  | refused hquiet hphase hnack => exact absurd hnack (hcalm.2 hphase)
  | unanswered hquiet hphase hnack hnone =>
      rw [awaited, if_neg hphase] at hawaited
      exact absurd hawaited hnone
  | opened hacked hnext =>
      rw [if_neg (hnot (by simp))]
      rfl
  | onward hacked honward =>
      rw [if_neg (hnot (by simp)), Reaction.after, Call.consumed_append, hack,
        honward.consumed]
  | turned hacked hnext htaking =>
      rw [Reaction.after, Call.consumed_append, hack, htaking.consumed]
      simp only [hflight.stands.turnsIn_iff.mpr rfl, true_and]
      split
      · rfl
      · rfl
  | received hquiet htaking =>
      rw [awaited, if_pos (hreceive.mpr ⟨_, rfl⟩)] at hawaited
      rw [if_neg (hnot (by simp)), htaking.consumed, if_pos hawaited]

/-- A transfer in flight that fails was disturbed, and uses up nothing. -/
theorem Handles.consumed_of_failed
    (h : Handles transfer sequence status stage reaction)
    (hgoes : reaction.outcome ≠ .inProgress)
    (hdone : reaction.outcome ≠ .done) :
    ¬ transfer.Calm status ∧ Call.consumed reaction.calls = 0 := by
  have hsound : ¬ (reaction.outcome = .inProgress ∨
      reaction.outcome = .done) :=
    not_or_intro hgoes hdone
  cases h with
  | lost hlost => exact ⟨fun hcalm => hcalm.1.1 hlost, rfl⟩
  | broken hlost hbroken => exact ⟨fun hcalm => hcalm.1.2 hbroken, rfl⟩
  | refused hquiet hphase hnack =>
      exact ⟨fun hcalm => hcalm.2 hphase hnack, rfl⟩
  | unanswered hquiet hphase hnack hack => exact absurd rfl hgoes
  | opened hacked hnext => exact absurd rfl hgoes
  | onward hacked honward => exact absurd honward.sound hsound
  | turned hacked hnext htaking => exact absurd htaking.sound hsound
  | received hquiet htaking => exact absurd htaking.sound hsound

end Transfer

namespace Progress

variable {σ : Type} {progress : Progress (Recorder σ)} {sequence : Sequence}
  {kind : Kind} {undisturbed : Prop}

def consumed (progress : Progress (Recorder σ)) : Nat :=
  Call.consumed progress.host.calls

theorem Makes.consumed_eq {before : Recorder σ} {reaction : Reaction}
    {bytes : List UInt8} (h : progress.Makes before reaction bytes) :
    progress.consumed =
      Call.consumed before.calls + Call.consumed reaction.calls := by
  rw [consumed, h.calls, Call.consumed_append]

/-- Where a run of `sequence` stands among its events; `undisturbed` says that
nothing it was shown could end it early. -/
inductive Tallies (sequence : Sequence) (kind : Kind) (undisturbed : Prop)
    (progress : Progress (Recorder σ)) : Prop where
  | running {received : List UInt8} {stage : Stage} :
      progress.outcome = .inProgress →
      progress.transfer.Runs sequence kind received stage →
      progress.consumed + sequence.eventsLeft kind stage =
        sequence.eventCount kind →
      Tallies sequence kind undisturbed progress
  | ended : progress.outcome ≠ .inProgress → progress.transfer.phase = .idle →
      progress.consumed ≤ sequence.eventCount kind →
      (undisturbed → progress.consumed = sequence.eventCount kind) →
      Tallies sequence kind undisturbed progress

theorem Tallies.mono {weaker : Prop}
    (h : progress.Tallies sequence kind undisturbed)
    (hweaker : weaker → undisturbed) :
    progress.Tallies sequence kind weaker := by
  cases h with
  | running hrunning hruns hevents => exact .running hrunning hruns hevents
  | ended hover hidle hbound hall =>
      exact .ended hover hidle hbound fun hcalm => hall (hweaker hcalm)

theorem Tallies.consumed_le (h : progress.Tallies sequence kind undisturbed) :
    progress.consumed ≤ sequence.eventCount kind := by
  cases h with
  | running hrunning hruns hevents => omega
  | ended hover hidle hbound hall => exact hbound

/-- An undisturbed run goes on as long as it has events to come. -/
theorem Tallies.inProgress_iff
    (h : progress.Tallies sequence kind undisturbed) (hcalm : undisturbed) :
    progress.outcome = .inProgress ↔
      progress.consumed < sequence.eventCount kind := by
  cases h with
  | running hrunning hruns hevents =>
      have hpos := hruns.eventsLeft_pos
      exact iff_of_true hrunning (by omega)
  | ended hover hidle hbound hall =>
      have hfull := hall hcalm
      exact iff_of_false hover (by omega)

variable [Device σ]

def Undisturbed (progress : Progress (Recorder σ)) : Prop :=
  progress.transfer.phase ≠ .idle → progress.transfer.Calm progress.seen

instance : Decidable progress.Undisturbed :=
  inferInstanceAs (Decidable (_ → _))

theorem next_of_not_awaited {received : List UInt8} {stage : Stage}
    (hruns : progress.transfer.Runs sequence kind received stage)
    (hcalm : progress.Undisturbed)
    (hawaited : progress.transfer.awaited ∉ progress.seen) :
    progress.next.outcome = .inProgress ∧
      progress.next.transfer = progress.transfer ∧
      progress.next.host.calls = progress.host.calls ++
        if progress.transfer.phase = .receive ∧
            .nackReceived ∈ progress.seen then
          [.clearInterrupts {Interrupt.nackReceived}]
        else [] := by
  have hactive := hruns.inFlight.stands.phase_ne_idle
  obtain ⟨bytes, hmakes⟩ := next_makes_of_active hactive
  have hwaits := (hruns.inFlight.react_handles progress.seen).of_not_awaited
    hruns.inFlight (hcalm hactive) hawaited
  rw [hwaits] at hmakes
  obtain rfl : bytes = [] := by
    apply List.eq_nil_of_length_eq_zero
    rw [hmakes.count]
    split
    · rfl
    · rfl
  exact ⟨hmakes.outcome, hmakes.transfer, hmakes.calls⟩

theorem next_consumed_of_awaited {received : List UInt8} {stage : Stage}
    (hruns : progress.transfer.Runs sequence kind received stage)
    (hcalm : progress.Undisturbed)
    (hawaited : progress.transfer.awaited ∈ progress.seen) :
    progress.next.consumed = progress.consumed +
      if sequence.turnsIn kind progress.transfer.phase = true ∧
        .dataReceived ∈ progress.seen then 2 else 1 := by
  have hactive := hruns.inFlight.stands.phase_ne_idle
  obtain ⟨bytes, hmakes⟩ := next_makes_of_active hactive
  have hused :=
    (hruns.inFlight.react_handles progress.seen).consumed_of_awaited
      hruns.inFlight (hcalm hactive) hawaited
  rw [hruns.kind_eq, Sequence.filled_turnsIn] at hused
  rw [hmakes.consumed_eq, hused]
  rfl

theorem next_outcome_of_undisturbed {received : List UInt8} {stage : Stage}
    (hruns : progress.transfer.Runs sequence kind received stage)
    (hcalm : progress.Undisturbed) :
    progress.next.outcome = .inProgress ∨ progress.next.outcome = .done := by
  have hactive := hruns.inFlight.stands.phase_ne_idle
  obtain ⟨bytes, hmakes⟩ := next_makes_of_active hactive
  have hhandles := hruns.inFlight.react_handles progress.seen
  rw [hmakes.outcome]
  by_cases hgoes : (progress.transfer.react progress.seen).outcome = .inProgress
  · exact Or.inl hgoes
  by_cases hdone : (progress.transfer.react progress.seen).outcome = .done
  · exact Or.inr hdone
  · have hdisturbed := (hhandles.consumed_of_failed hgoes hdone).1
    exact absurd (hcalm hactive) hdisturbed

theorem tallies_next_of_runs {received : List UInt8} {stage : Stage}
    (hruns : progress.transfer.Runs sequence kind received stage)
    (hevents : progress.consumed + sequence.eventsLeft kind stage =
      sequence.eventCount kind) :
    progress.next.Tallies sequence kind progress.Undisturbed := by
  have hactive := hruns.inFlight.stands.phase_ne_idle
  obtain ⟨bytes, hmakes⟩ := next_makes_of_active hactive
  have hhandles := hruns.inFlight.react_handles progress.seen
  have hconsumed : progress.next.consumed = progress.consumed + _ :=
    hmakes.consumed_eq
  by_cases hgoes : (progress.transfer.react progress.seen).outcome = .inProgress
  · obtain ⟨later, hlater, hleads⟩ := hhandles.runs hruns hgoes hmakes.count
    refine .running (hmakes.outcome.trans hgoes) (hmakes.transfer ▸ hlater) ?_
    have hused := hleads.events
    omega
  have hover : progress.next.outcome ≠ .inProgress := hmakes.outcome ▸ hgoes
  by_cases hdone : (progress.transfer.react progress.seen).outcome = .done
  · obtain ⟨hended, _, hcompletes⟩ := hhandles.done hruns hdone hmakes.count
    have hused := hcompletes.events
    refine .ended hover (hmakes.transfer ▸ hended.phase) ?_ ?_
    · omega
    · intro _
      omega
  · obtain ⟨_, hended, _⟩ := hhandles.failed hruns hgoes hdone hmakes.count
    obtain ⟨hdisturbed, hunused⟩ := hhandles.consumed_of_failed hgoes hdone
    refine .ended hover (hmakes.transfer ▸ hended.phase) ?_ ?_
    · omega
    · intro hcalm
      exact absurd (hcalm hactive) hdisturbed

theorem Tallies.next (h : progress.Tallies sequence kind undisturbed) :
    progress.next.Tallies sequence kind
      (undisturbed ∧ progress.Undisturbed) := by
  cases h with
  | running hrunning hruns hevents =>
      exact (tallies_next_of_runs hruns hevents).mono And.right
  | ended hover hidle hbound hall =>
      have hmakes := next_of_idle hidle
      have hsame : progress.next.consumed = progress.consumed :=
        hmakes.consumed_eq
      refine .ended ?_ ?_ ?_ ?_
      · rw [hmakes.outcome]
        exact nofun
      · rw [hmakes.transfer]
        rfl
      · rw [hsame]
        exact hbound
      · intro hcalm
        exact hsame.trans (hall hcalm.1)

/-- The step of an undisturbed run that is done is the one that uses up the
last event. -/
theorem Tallies.next_done_iff (h : progress.Tallies sequence kind undisturbed)
    (hcalm : undisturbed) (hnext : progress.Undisturbed) :
    progress.next.outcome = .done ↔
      progress.consumed < sequence.eventCount kind ∧
        progress.next.consumed = sequence.eventCount kind := by
  have hbefore := h.inProgress_iff hcalm
  have hafter := h.next.inProgress_iff ⟨hcalm, hnext⟩
  cases h with
  | running hrunning hruns hevents =>
      have hleft := hbefore.mp hrunning
      rcases next_outcome_of_undisturbed hruns hnext with hgoes | hdone
      · have hmore := hafter.mp hgoes
        rw [hgoes]
        exact iff_of_false nofun fun hall => Nat.ne_of_lt hmore hall.2
      · have hbound := (tallies_next_of_runs hruns hevents).consumed_le
        have hfull : ¬ progress.next.consumed < sequence.eventCount kind := by
          rw [← hafter, hdone]
          exact nofun
        exact iff_of_true hdone ⟨hleft, by omega⟩
  | ended hover hidle hbound hall =>
      have hfault : progress.next.outcome = .softwareFault :=
        (next_of_idle hidle).outcome
      rw [hfault]
      exact iff_of_false nofun fun hleft =>
        Nat.ne_of_lt hleft.1 (hall hcalm)

end Progress

namespace Transfer

variable {σ : Type} [Device σ] {sequence : Sequence} {kind : Kind}

theorem run_zero_consumed (h : sequence.kind? = some kind)
    (transfer : Transfer) (device : σ) :
    (transfer.run sequence device 0).consumed = 0 := by
  rw [Progress.consumed, transfer.run_zero_calls h]
  cases Device.busy device <;> rfl

theorem run_tallies (h : sequence.kind? = some kind) (transfer : Transfer)
    (device : σ) (count : Nat) :
    (transfer.run sequence device count).Tallies sequence kind
      (∀ step < count, (transfer.run sequence device step).Undisturbed) := by
  induction count with
  | zero =>
      obtain ⟨reaction, hmakes, houtcome, hruns, _⟩ :=
        Progress.start_makes h transfer ({ device } : Recorder σ)
      refine .running (hmakes.outcome.trans houtcome)
        (hmakes.transfer ▸ hruns) ?_
      rw [run_zero_consumed h, Nat.zero_add, Sequence.eventsLeft_firstStage]
  | succ count ih =>
      refine ih.next.mono ?_
      intro hcalm
      refine ⟨?_, hcalm count (Nat.lt_succ_self count)⟩
      intro step hstep
      exact hcalm step (Nat.lt_succ_of_lt hstep)

/-- A run never uses up more events than its sequence has.  Unless it is
disturbed, a step without the flag that is awaited changes nothing, every other
step uses up an event, or two where data comes along with the answer to an
address that asks for it, and the step that reports success is the one that
uses up the last event. -/
theorem run_consumes (h : sequence.kind? = some kind) (transfer : Transfer)
    (device : σ) :
    let run := transfer.run sequence device
    let total := sequence.eventCount kind
    total = (sequence.transcript kind).countP Call.movesByte ∧
    (run 0).consumed = 0 ∧ (∀ count, (run count).consumed ≤ total) ∧
    ∀ count, (∀ step ≤ count, (run step).Undisturbed) →
      ((run count).outcome = .inProgress →
        (run count).transfer.awaited ∉ (run count).seen →
          (run (count + 1)).outcome = .inProgress ∧
          (run (count + 1)).transfer = (run count).transfer ∧
          (run (count + 1)).host.calls = (run count).host.calls ++
            if (run count).transfer.phase = .receive ∧
                .nackReceived ∈ (run count).seen then
              [.clearInterrupts {Interrupt.nackReceived}]
            else []) ∧
      ((run count).outcome = .inProgress →
        (run count).transfer.awaited ∈ (run count).seen →
          (run (count + 1)).consumed = (run count).consumed +
            if sequence.turnsIn kind (run count).transfer.phase = true ∧
              .dataReceived ∈ (run count).seen then 2 else 1) ∧
      ((run count).outcome = .inProgress ↔ (run count).consumed < total) ∧
      ((run (count + 1)).outcome = .done ↔
        (run count).consumed < total ∧ (run (count + 1)).consumed = total) := by
  intro run total
  have htallies := run_tallies h transfer device
  refine ⟨sequence.eventCount_eq_countP kind,
    run_zero_consumed h transfer device,
    fun count => (htallies count).consumed_le, ?_⟩
  intro count hcalm
  have hbefore := (htallies count).inProgress_iff
    fun step hstep => hcalm step (Nat.le_of_lt hstep)
  have hruns : (run count).outcome = .inProgress → ∃ received stage,
      (run count).transfer.Runs sequence kind received stage := by
    intro hrunning
    obtain ⟨received, stage, hruns, _⟩ :=
      (transfer.run_follows h device count).of_inProgress hrunning
    exact ⟨received, stage, hruns⟩
  refine ⟨?_, ?_, hbefore, ?_⟩
  · intro hrunning hawaited
    obtain ⟨received, stage, hstands⟩ := hruns hrunning
    exact Progress.next_of_not_awaited hstands (hcalm count (Nat.le_refl _))
      hawaited
  · intro hrunning hawaited
    obtain ⟨received, stage, hstands⟩ := hruns hrunning
    exact Progress.next_consumed_of_awaited hstands
      (hcalm count (Nat.le_refl _)) hawaited
  · exact (htallies count).next_done_iff
      (fun step hstep => hcalm step (Nat.le_of_lt hstep))
      (hcalm count (Nat.le_refl _))

/-- A write and a read with two steps that see nothing, a first byte that comes
along with the answer to its request, and a refusal while data comes in. -/
theorem run_consumes_idling :
    let device : Scripted Bench :=
      ⟨{}, [∅, {Interrupt.ackReceived}, ∅, {Interrupt.ackReceived},
        {Interrupt.ackReceived, Interrupt.dataReceived},
        {Interrupt.nackReceived}, {Interrupt.dataReceived}]⟩
    let sequence := Sequence.writeRead 0x50 [0x10] [0, 0]
    let run := ({} : Transfer).run sequence device
    sequence.kind? = some .writeRead ∧ sequence.eventCount .writeRead = 5 ∧
      (∀ step ≤ 6, (run step).Undisturbed) ∧ (run 6).consumed = 4 ∧
      (run 7).consumed = 5 ∧ (run 7).outcome = .done := by
  intro device sequence run
  have hkind : sequence.kind? = some .writeRead := by decide
  have htotal : sequence.eventCount .writeRead = 5 := by decide
  have hcalm : ∀ step ≤ 6, (run step).Undisturbed := by decide
  have hbefore : (run 6).consumed = 4 := by decide
  have hafter : (run 7).consumed = 5 := by decide
  obtain ⟨_, _, _, hsteps⟩ := run_consumes hkind {} device
  have hleft : (run 6).consumed < sequence.eventCount .writeRead := by omega
  have hdone := (hsteps 6 hcalm).2.2.2.mpr ⟨hleft, hafter.trans htotal.symm⟩
  exact ⟨hkind, htotal, hcalm, hbefore, hafter, hdone⟩

end Transfer

end TwoWire
