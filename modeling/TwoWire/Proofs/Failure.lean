/-
How a failed transfer leaves the bus.

What went out before the failure is the front of the transcript, without the
refusal of a last byte and without the stop condition.  What follows depends on
whose bus it is: a transfer that was refused stops, one that met a bus error
gives the bus up, and one that lost the bus does not touch it again.
-/
import TwoWire.Bench.Script
import TwoWire.Proofs.Wire

namespace TwoWire

open Sequence (Kind Stage)

/-- A call that bears on the bus: it goes over the wires, or gives the bus
up. -/
def Call.isOnBus (call : Call) : Bool :=
  call.isOnWire || call = .abort

def Call.bus (calls : List Call) : List Call :=
  calls.filter Call.isOnBus

theorem Call.bus_append (calls more : List Call) :
    bus (calls ++ more) = bus calls ++ bus more :=
  List.filter_append ..

theorem Call.bus_of_abort_not_mem {calls : List Call}
    (h : .abort ∉ calls) : bus calls = wire calls := by
  apply List.filter_congr
  intro call hcall
  have hne : call ≠ .abort := by
    rintro rfl
    exact h hcall
  simp [isOnBus, hne]

/-- What a failed transfer still does to the bus. -/
def Outcome.parting : Outcome → List Call
  | .nack => [.stop]
  | .busError => [.abort]
  | _ => []

namespace Sequence

variable {sequence : Sequence} {kind : Kind}

theorem count_nack_takes (count : Nat) :
    (takes count).count .nack = min 1 count := by
  fun_induction takes count with
  | case1 => rfl
  | case2 => rfl
  | case3 rest ih =>
      simp [ih]

theorem count_stop_takes (count : Nat) : (takes count).count .stop = 0 := by
  rw [List.count_eq_zero]
  intro hstop
  simpa using eq_of_mem_takes hstop

/-- What is remaining ends with the bytes that come in and a stop condition;
before them nothing is refused and nothing stops. -/
theorem count_remaining (stage : Stage) {call : Call}
    (hcall : call = .nack ∨ call = .stop) :
    (sequence.remaining kind stage).count call =
      (takes (sequence.receiveLength kind - stage.taken)).count call +
        [Call.stop].count call := by
  have hlow : .writeAddress sequence.lowAddress ≠ call := by
    rintro rfl
    simp at hcall
  have hsent : ∀ bytes : List UInt8, (bytes.map Call.writeData).count call = 0 := by
    intro bytes
    rw [List.count_eq_zero, List.mem_map]
    rintro ⟨byte, _, rfl⟩
    simp at hcall
  have hreopening : (sequence.reopening kind).count call = 0 := by
    rw [reopening, List.count_eq_zero]
    split
    · rcases hcall with rfl | rfl
      · simp
      · simp
    · exact List.not_mem_nil
  cases stage with
  | opening =>
      simp only [remaining, List.count_cons_of_ne hlow, List.count_append,
        hsent, hreopening, Nat.zero_add]
      rfl
  | sending position =>
      simp only [remaining, List.count_append, hsent, hreopening, Nat.zero_add]
      rfl
  | turned => exact List.count_append
  | receiving index => exact List.count_append

theorem count_nack_remaining (stage : Stage) :
    (sequence.remaining kind stage).count .nack =
      min 1 (sequence.receiveLength kind - stage.taken) := by
  rw [count_remaining stage (Or.inl rfl), count_nack_takes]
  rfl

theorem count_stop_remaining (stage : Stage) :
    (sequence.remaining kind stage).count .stop = 1 := by
  rw [count_remaining stage (Or.inr rfl), count_stop_takes]
  rfl

/-- As long as anything is to come, so are the stop condition and the refusal
of the last byte. -/
theorem not_mem_of_append {front : List Call} {stage : Stage}
    (h : front ++ sequence.remaining kind stage = sequence.transcript kind)
    (hroom : 0 < sequence.receiveLength kind →
      stage.taken < sequence.receiveLength kind) :
    .nack ∉ front ∧ .stop ∉ front := by
  have hcount : ∀ call, call = .nack ∨ call = .stop →
      front.count call + (sequence.remaining kind stage).count call =
        (sequence.remaining kind (sequence.firstStage kind)).count call := by
    intro call hcall
    have htotal := congrArg (List.count call) h
    rw [List.count_append, transcript_eq, List.count_append] at htotal
    rw [htotal]
    rcases hcall with rfl | rfl
    · simp
    · simp
  constructor
  · have hnack := hcount .nack (Or.inl rfl)
    rw [count_nack_remaining, count_nack_remaining] at hnack
    exact List.not_mem_of_count_eq_zero (by omega)
  · have hstop := hcount .stop (Or.inr rfl)
    rw [count_stop_remaining, count_stop_remaining] at hstop
    exact List.not_mem_of_count_eq_zero (by omega)

end Sequence

/-- Steps after the end leave the bus alone. -/
theorem Progress.bus_steps_of_idle {σ : Type} [Device σ]
    {progress : Progress (Recorder σ)}
    (hidle : progress.transfer.phase = .idle)
    (hclosing : Transfer.closing <:+ progress.host.calls) (count : Nat) :
    (progress.steps count).transfer.phase = .idle ∧
      Transfer.closing <:+ (progress.steps count).host.calls ∧
      Call.bus (progress.steps count).host.calls =
        Call.bus progress.host.calls := by
  induction count with
  | zero => exact ⟨hidle, hclosing, rfl⟩
  | succ count ih =>
      obtain ⟨hphase, _, hbus⟩ := ih
      have hmakes := next_of_idle hphase
      rw [steps, hmakes.transfer, hmakes.calls]
      refine ⟨rfl, List.suffix_append _ _, ?_⟩
      rw [Call.bus_append, hbus]
      exact List.append_nil _

namespace Transfer

variable {transfer : Transfer} {sequence : Sequence} {kind : Kind}
  {received : List UInt8} {stage : Stage} {status : Interrupts}
  {reaction : Reaction}

theorem Runs.taken_lt (h : transfer.Runs sequence kind received stage)
    (hreceives : 0 < sequence.receiveLength kind) :
    stage.taken < sequence.receiveLength kind := by
  cases stage with
  | receiving index => exact h.room_of_receiving.2
  | _ => exact hreceives

/-- A transfer in flight fails in one of three ways.  It parts with the bus,
and then its interrupts are quieted. -/
theorem Handles.parts
    (h : Handles transfer sequence status stage reaction)
    (hfailed : reaction.outcome.isFailure = true) :
    reaction.outcome ∈ [Outcome.nack, .busError, .arbitrationLost] ∧
      Call.bus reaction.calls = reaction.outcome.parting ∧
      closing <:+ reaction.calls := by
  have hsound : ¬ (reaction.outcome = .inProgress ∨
      reaction.outcome = .done) :=
    not_or.mpr (Outcome.isFailure_iff.mp hfailed)
  cases h with
  | lost hlost => exact ⟨by simp [finish], rfl, List.suffix_append _ _⟩
  | broken hlost hbroken =>
      exact ⟨by simp [finish], rfl, List.suffix_append _ _⟩
  | refused hquiet hphase hnack =>
      exact ⟨by simp [Transfer.refused, finish], rfl, List.suffix_append _ _⟩
  | unanswered hquiet hphase hnack hack => exact absurd (Or.inl rfl) hsound
  | opened hacked hnext => exact absurd (Or.inl rfl) hsound
  | onward hacked honward => exact absurd honward.sound hsound
  | turned hacked hnext htaking => exact absurd htaking.sound hsound
  | received hquiet htaking => exact absurd htaking.sound hsound

variable {σ : Type} [Device σ]

/-- A step that takes a run on does nothing to the bus but what goes over the
wires. -/
theorem bus_next_of_inProgress {progress : Progress (Recorder σ)}
    (hruns : progress.transfer.Runs sequence kind received stage)
    (hgoes : progress.next.outcome = .inProgress) :
    ∃ more, progress.next.wire = progress.wire ++ more ∧
      Call.bus progress.next.host.calls =
        Call.bus progress.host.calls ++ more := by
  obtain ⟨status, bytes, hmakes⟩ := progress.next_makes
  rw [hmakes.outcome] at hgoes
  obtain ⟨later, _, hleads⟩ :=
    (hruns.inFlight.react_handles status).runs hruns hgoes hmakes.count
  refine ⟨Call.wire (progress.transfer.react status).calls, ?_, ?_⟩
  · rw [hmakes.wire_eq, Progress.wire_eq]
  · rw [hmakes.calls, Call.bus_append, Call.bus_of_abort_not_mem hleads.abort]

/-- As long as a run goes on, only before it began may a bus have been given
up. -/
theorem start_bus_of_inProgress (h : sequence.kind? = some kind)
    (transfer : Transfer) (recorder : Recorder σ) {count : Nat}
    (hrunning : ∀ step ≤ count,
      ((transfer.start sequence recorder).steps step).outcome = .inProgress) :
    let progress := (transfer.start sequence recorder).steps count
    let first := Call.writeAddress
      (sequence.header (sequence.readsAtOnce kind))
    ∃ later,
      progress.wire = Call.wire recorder.calls ++ ([first, .start] ++ later) ∧
      Call.bus progress.host.calls = Call.bus recorder.calls ++
        ((if Device.busy recorder then [.abort] else []) ++
          ([first, .start] ++ later)) := by
  intro progress first
  obtain ⟨hbegun, hfirst, hfollows⟩ :=
    Progress.follows_start h transfer recorder
  induction count with
  | zero =>
      obtain ⟨reaction, hmakes, _, _, hcalls⟩ :=
        Progress.start_makes h transfer recorder
      refine ⟨[], hfirst, ?_⟩
      have hall : progress.host.calls = _ := hmakes.calls
      rw [hall, hcalls, Call.bus_append]
      cases Device.busy recorder <;> rfl
  | succ count ih =>
      obtain ⟨later, hwire, hbus⟩ :=
        ih fun step hstep => hrunning step (Nat.le_succ_of_le hstep)
      obtain ⟨received, stage, hruns, _⟩ := (hfollows.steps hbegun
        count).of_inProgress (hrunning count (Nat.le_succ count))
      obtain ⟨more, hmoreWire, hmoreBus⟩ :=
        bus_next_of_inProgress hruns (hrunning (count + 1) (Nat.le_refl _))
      refine ⟨later ++ more, hmoreWire.trans ?_, hmoreBus.trans ?_⟩
      · rw [hwire]
        simp only [List.append_assoc, first]
      · rw [hbus]
        simp only [List.append_assoc, first]

theorem run_bus_of_inProgress (h : sequence.kind? = some kind)
    (transfer : Transfer) (device : σ) {count : Nat}
    (hrunning : ∀ step ≤ count,
      (transfer.run sequence device step).outcome = .inProgress) :
    Call.bus (transfer.run sequence device count).host.calls =
      (if Device.busy device then [.abort] else []) ++
        (transfer.run sequence device count).wire := by
  obtain ⟨later, hwire, hbus⟩ :=
    start_bus_of_inProgress h transfer ({ device } : Recorder σ) hrunning
  exact hbus.trans (congrArg (_ ++ ·) hwire.symm)

/-- A run has begun before it fails. -/
theorem exists_last_of_failed (h : sequence.kind? = some kind)
    {transfer : Transfer} {device : σ} {ended : Nat}
    (hrunning : ∀ step < ended,
      (transfer.run sequence device step).outcome = .inProgress)
    (hfailed :
      (transfer.run sequence device ended).outcome.isFailure = true) :
    ∃ last, ended = last + 1 ∧ ∀ step ≤ last,
      (transfer.run sequence device step).outcome = .inProgress := by
  cases ended with
  | zero =>
      have hstart := (Progress.follows_start h transfer
        ({ device } : Recorder σ)).1
      exact absurd hstart (Outcome.isFailure_iff.mp hfailed).1
  | succ last =>
      refine ⟨last, rfl, ?_⟩
      intro step hstep
      exact hrunning step (Nat.lt_succ_of_le hstep)

/-- A run that fails has put a front of its transcript on the wires.  It then
stops if it was refused, gives the bus up after a bus error, and does nothing
more if the bus was lost.  Its last calls quiet its interrupts. -/
theorem run_parts_with_bus (h : sequence.kind? = some kind)
    (transfer : Transfer) (device : σ) {ended : Nat}
    (hrunning : ∀ step < ended,
      (transfer.run sequence device step).outcome = .inProgress)
    (hfailed :
      (transfer.run sequence device ended).outcome.isFailure = true) :
    let outcome := (transfer.run sequence device ended).outcome
    outcome ∈ [Outcome.nack, .busError, .arbitrationLost] ∧
      ∃ front, sequence.Begins kind front ∧ .nack ∉ front ∧ .stop ∉ front ∧
        ∀ count ≥ ended,
          let calls := (transfer.run sequence device count).host.calls
          Call.bus calls = (if Device.busy device then [.abort] else []) ++
              (front ++ outcome.parting) ∧
            [.disableInterrupts .transfer, .clearInterrupts .transfer] <:+
              calls := by
  intro outcome
  obtain ⟨last, rfl, hgoing⟩ := exists_last_of_failed h hrunning hfailed
  obtain ⟨received, stage, hruns, hwire, _⟩ :=
    (transfer.run_follows h device last).of_inProgress
      (hgoing last (Nat.le_refl last))
  obtain ⟨status, bytes, hmakes⟩ :=
    (transfer.run sequence device last).next_makes
  have houtcome : outcome = _ := hmakes.outcome
  obtain ⟨hways, hparting, hclosing⟩ :=
    (hruns.inFlight.react_handles status).parts (houtcome ▸ hfailed)
  obtain ⟨hnack, hstop⟩ := Sequence.not_mem_of_append hwire hruns.taken_lt
  refine ⟨houtcome ▸ hways, _, Sequence.begins_of_append hwire, hnack, hstop,
    ?_⟩
  intro count hcount
  obtain ⟨later, rfl⟩ := Nat.exists_eq_add_of_le hcount
  have hlater : transfer.run sequence device (last + 1 + later) =
      (transfer.run sequence device (last + 1)).steps later :=
    Progress.steps_add _ _ _
  have hidle : (transfer.run sequence device (last + 1)).transfer.phase =
      .idle := by
    apply (transfer.run_follows h device (last + 1)).idle_iff.mpr
    exact (Outcome.isFailure_iff.mp hfailed).1
  have hcalls : (transfer.run sequence device (last + 1)).host.calls = _ :=
    hmakes.calls
  have hends : closing <:+
      (transfer.run sequence device (last + 1)).host.calls := by
    rw [hcalls]
    exact hclosing.trans (List.suffix_append _ _)
  obtain ⟨_, hlast, hbus⟩ := Progress.bus_steps_of_idle hidle hends later
  rw [hlater]
  refine ⟨?_, hlast⟩
  rw [hbus, hcalls, Call.bus_append, hparting,
    run_bus_of_inProgress h transfer device hgoing, List.append_assoc, houtcome]

/-- A read that meets a bus error with its second byte, on a bus that was left
busy: the bus is given up twice. -/
theorem run_parts_with_bus_broken :
    let device : Scripted Bench :=
      ⟨{ Bench.withResponder [7, 8] with busy := true },
        [∅, {Interrupt.busError}]⟩
    let sequence := Sequence.read 0x50 [1, 2]
    let run := ({} : Transfer).run sequence device
    sequence.kind? = some .read ∧
      (∀ step < 2, (run step).outcome = .inProgress) ∧
      (run 2).outcome = .busError ∧
      ∃ front, sequence.Begins .read front ∧ .nack ∉ front ∧ .stop ∉ front ∧
        Call.bus (run 3).host.calls = [.abort] ++ (front ++ [.abort]) := by
  intro device sequence run
  have hkind : sequence.kind? = some .read := by decide
  have hrunning : ∀ step < 2, (run step).outcome = .inProgress := by decide
  have hbroken : (run 2).outcome = .busError := by decide
  obtain ⟨_, front, hbegins, hnack, hstop, hlater⟩ :=
    run_parts_with_bus hkind {} device hrunning (by rw [hbroken]; rfl)
  have hbus := (hlater 3 (by decide)).1
  rw [hbroken] at hbus
  exact ⟨hkind, hrunning, hbroken, front, hbegins, hnack, hstop, hbus⟩

end Transfer

end TwoWire
