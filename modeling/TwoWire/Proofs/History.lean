/-
Whole runs, on a device that records its calls.

`Follows` is the invariant of a run that was begun on a recorder: what is on the
record and what is still to come make up the transcript, and the bytes that were
taken are the ones in the buffer.
-/
import TwoWire.Bench.Recorder
import TwoWire.Proofs.Event
import TwoWire.Transfer.Run

namespace TwoWire

open Sequence (Kind Stage)

variable {σ : Type} [Device σ]

theorem Device.length_run (calls : List Call) (device : σ) :
    (run calls device).1.length = calls.count .readData := by
  induction calls generalizing device with
  | nil => rfl
  | cons call rest ih =>
      by_cases hcall : call = .readData
      · simp [run, hcall, ih]
      · simp [run, hcall, ih]

namespace Recorder

def taken (recorder : Recorder σ) : List UInt8 :=
  recorder.entries.toList.filterMap Entry.byte

theorem calls_run (calls : List Call) (recorder : Recorder σ) :
    (Device.run calls recorder).2.calls = recorder.calls ++ calls := by
  induction calls generalizing recorder with
  | nil => simp
  | cons call rest ih =>
      rw [Device.run, ih]
      simp [Device.perform, Recorder.calls]

/-- The record changes nothing about the device. -/
theorem run_device (calls : List Call) (recorder : Recorder σ) :
    (Device.run calls recorder).1 = (Device.run calls recorder.device).1 ∧
      (Device.run calls recorder).2.device =
        (Device.run calls recorder.device).2 := by
  induction calls generalizing recorder with
  | nil => exact ⟨rfl, rfl⟩
  | cons call rest ih =>
      obtain ⟨hbytes, hdevice⟩ := ih (Device.perform call recorder)
      refine ⟨?_, hdevice⟩
      simp only [Device.run, hbytes]
      rfl

theorem taken_run (calls : List Call) (recorder : Recorder σ) :
    (Device.run calls recorder).2.taken =
      recorder.taken ++ (Device.run calls recorder).1 := by
  induction calls generalizing recorder with
  | nil => simp
  | cons call rest ih =>
      rw [Device.run, ih]
      by_cases hcall : call = .readData
      · simp [Device.perform, Device.received, taken, hcall]
      · simp [Device.perform, taken, hcall]

end Recorder

namespace Progress

def next (progress : Progress σ) : Progress σ :=
  progress.transfer.step progress.host

def steps : Nat → Progress σ → Progress σ
  | 0, progress => progress
  | count + 1, progress => (progress.steps count).next

theorem steps_add (progress : Progress σ) (count more : Nat) :
    progress.steps (count + more) = (progress.steps count).steps more := by
  induction more with
  | zero => rfl
  | succ more ih => exact congrArg next ih

/-- How things stand after a reaction of a transfer on the recorder `before`,
when `bytes` came in with its calls. -/
structure Makes (progress : Progress (Recorder σ)) (before : Recorder σ)
    (reaction : Reaction) (bytes : List UInt8) : Prop where
  count : bytes.length = reaction.calls.count .readData
  outcome : progress.outcome = reaction.outcome
  transfer : progress.transfer = reaction.settle bytes
  calls : progress.host.calls = before.calls ++ reaction.calls
  taken : progress.host.taken = before.taken ++ bytes

theorem perform_makes (reaction : Reaction) (recorder : Recorder σ) :
    ∃ bytes, (Transfer.perform reaction recorder).Makes recorder reaction
      bytes :=
  ⟨(Device.run reaction.calls recorder).1, Device.length_run _ _, rfl, rfl,
    Recorder.calls_run _ _, Recorder.taken_run _ _⟩

/-- The flags that the next step is shown. -/
def seen (progress : Progress σ) : Interrupts :=
  (Device.status progress.host).1

theorem next_makes_of_active {progress : Progress (Recorder σ)}
    (hactive : progress.transfer.phase ≠ .idle) :
    ∃ bytes, progress.next.Makes progress.host
      (progress.transfer.react progress.seen) bytes := by
  rw [next, Transfer.step_of_active hactive]
  obtain ⟨bytes, hmakes⟩ := perform_makes
    (progress.transfer.react progress.seen) (Device.status progress.host).2
  exact ⟨bytes, hmakes.count, hmakes.outcome, hmakes.transfer, hmakes.calls,
    hmakes.taken⟩

theorem next_makes (progress : Progress (Recorder σ)) :
    ∃ status bytes, progress.next.Makes progress.host
      (progress.transfer.react status) bytes := by
  by_cases hidle : progress.transfer.phase = .idle
  · rw [next, Transfer.step_of_idle hidle]
    exact ⟨_, perform_makes _ _⟩
  · exact ⟨_, next_makes_of_active hidle⟩

def wire (progress : Progress (Recorder σ)) : List Call :=
  progress.host.onWire.map Entry.call

omit [Device σ] in
theorem wire_eq (progress : Progress (Recorder σ)) :
    progress.wire = Call.wire progress.host.calls := by
  rw [wire, Recorder.onWire, Call.wire, Recorder.calls, List.filter_map]
  rfl

omit [Device σ] in
theorem Makes.wire_eq {progress : Progress (Recorder σ)}
    {before : Recorder σ} {reaction : Reaction} {bytes : List UInt8}
    (h : progress.Makes before reaction bytes) :
    progress.wire = Call.wire before.calls ++ Call.wire reaction.calls := by
  rw [Progress.wire_eq, h.calls, Call.wire_append]

/-- Where a run of `sequence` stands that was begun on the recorder `start`;
`done` says whether a step of it has reported success. -/
inductive Follows (sequence : Sequence) (kind : Kind) (start : Recorder σ)
    (progress : Progress (Recorder σ)) : Prop → Prop where
  | running {done : Prop} {received : List UInt8} {stage : Stage} : ¬ done →
      progress.outcome = .inProgress →
      progress.transfer.Runs sequence kind received stage →
      progress.wire ++ sequence.remaining kind stage =
        Call.wire start.calls ++ sequence.transcript kind →
      progress.host.taken = start.taken ++ received →
      Follows sequence kind start progress done
  | complete {done : Prop} {received : List UInt8} : done →
      progress.outcome = .done ∨ progress.outcome = .softwareFault →
      progress.transfer.Ended sequence kind received →
      received.length = sequence.receiveLength kind →
      progress.wire = Call.wire start.calls ++ sequence.transcript kind →
      progress.host.taken = start.taken ++ received →
      Follows sequence kind start progress done
  | failed {done : Prop} {received : List UInt8} {stage : Stage}
      {outcome : Outcome} {front last : List Call} : ¬ done →
      outcome.Fails last →
      progress.outcome = outcome ∨ progress.outcome = .softwareFault →
      progress.transfer.Ended sequence kind received →
      (∀ slot, kind.receivesInto = some slot →
        received.length < sequence.receiveLength kind) →
      front ++ sequence.remaining kind stage =
        Call.wire start.calls ++ sequence.transcript kind →
      progress.wire = front ++ last →
      progress.host.taken = start.taken ++ received →
      Follows sequence kind start progress done

variable {sequence : Sequence} {kind : Kind} {start : Recorder σ}
  {progress : Progress (Recorder σ)} {done : Prop} {received : List UInt8}
  {stage : Stage}

omit [Device σ] in
/-- A run is in flight while it reports so, and over once it reports anything
else. -/
theorem Follows.idle_iff (h : Follows sequence kind start progress done) :
    progress.transfer.phase = .idle ↔ progress.outcome ≠ .inProgress := by
  cases h with
  | running hdone hrunning hruns hwire htaken =>
      exact iff_of_false hruns.inFlight.stands.phase_ne_idle
        (not_not_intro hrunning)
  | complete hdone hover hended hlength hwire htaken =>
      refine iff_of_true hended.phase ?_
      rcases hover with houtcome | houtcome
      · simp [houtcome]
      · simp [houtcome]
  | failed hdone hfails hover hended hroom hfront hwire htaken =>
      refine iff_of_true hended.phase ?_
      rcases hover with houtcome | houtcome
      · rw [houtcome]
        exact hfails.ne_inProgress
      · simp [houtcome]

omit [Device σ] in
/-- All that there is to know about a run that is done. -/
theorem Follows.of_done (h : Follows sequence kind start progress done)
    (hdone : done) :
    (progress.outcome = .done ∨ progress.outcome = .softwareFault) ∧
      ∃ received, progress.transfer.Ended sequence kind received ∧
        received.length = sequence.receiveLength kind ∧
        progress.wire = Call.wire start.calls ++ sequence.transcript kind ∧
        progress.host.taken = start.taken ++ received := by
  cases h with
  | running hnot hrunning hruns hwire htaken => exact absurd hdone hnot
  | complete _ hover hended hlength hwire htaken =>
      exact ⟨hover, _, hended, hlength, hwire, htaken⟩
  | failed hnot hfails hover hended hroom hfront hwire htaken =>
      exact absurd hdone hnot

omit [Device σ] in
/-- All that there is to know about a run that goes on. -/
theorem Follows.of_inProgress
    (h : Follows sequence kind start progress done)
    (hrunning : progress.outcome = .inProgress) :
    ∃ received stage, progress.transfer.Runs sequence kind received stage ∧
      progress.wire ++ sequence.remaining kind stage =
        Call.wire start.calls ++ sequence.transcript kind ∧
      progress.host.taken = start.taken ++ received := by
  have hactive := mt h.idle_iff.mp (not_not_intro hrunning)
  cases h with
  | running hdone _ hruns hwire htaken =>
      exact ⟨_, _, hruns, hwire, htaken⟩
  | complete hdone hover hended hlength hwire htaken =>
      exact absurd hended.phase hactive
  | failed hdone hfails hover hended hroom hfront hwire htaken =>
      exact absurd hended.phase hactive

theorem follows_next_of_runs (hdone : ¬ done)
    (hruns : progress.transfer.Runs sequence kind received stage)
    (hwire : progress.wire ++ sequence.remaining kind stage =
      Call.wire start.calls ++ sequence.transcript kind)
    (htaken : progress.host.taken = start.taken ++ received) :
    Follows sequence kind start progress.next
      (done ∨ progress.next.outcome = .done) := by
  obtain ⟨status, bytes, hmakes⟩ := progress.next_makes
  have hhandles := hruns.inFlight.react_handles status
  have hbytes := hmakes.count
  have hwireNext := hmakes.wire_eq
  rw [← Progress.wire_eq] at hwireNext
  have htakenNext : progress.next.host.taken =
      start.taken ++ (received ++ bytes) := by
    rw [hmakes.taken, htaken, List.append_assoc]
  by_cases hrunning : (progress.transfer.react status).outcome = .inProgress
  · obtain ⟨later, hlater, hleads⟩ := hhandles.runs hruns hrunning hbytes
    have hnext := hmakes.outcome.trans hrunning
    refine .running ?_ hnext (hmakes.transfer ▸ hlater) ?_ htakenNext
    · simp [hdone, hnext]
    · rw [hwireNext, List.append_assoc, ← hleads.wire, hwire]
  by_cases hfinished : (progress.transfer.react status).outcome = .done
  · obtain ⟨hended, hlength, hcompletes⟩ :=
      hhandles.done hruns hfinished hbytes
    have hnext := hmakes.outcome.trans hfinished
    refine .complete (Or.inr hnext) (Or.inl hnext) (hmakes.transfer ▸ hended)
      hlength ?_ htakenNext
    rw [hwireNext, hcompletes.wire, hwire]
  · obtain ⟨rfl, hended, hfails⟩ :=
      hhandles.failed hruns hrunning hfinished hbytes
    rw [List.append_nil] at htakenNext
    refine .failed ?_ hfails (Or.inl hmakes.outcome) (hmakes.transfer ▸ hended)
      (fun slot hslot => hruns.length_lt hslot) hwire hwireNext htakenNext
    rw [hmakes.outcome]
    exact fun hor => hor.elim hdone hfinished

/-- A step of a run that is not over does not fault. -/
theorem next_outcome_ne_of_runs
    (hruns : progress.transfer.Runs sequence kind received stage) :
    progress.next.outcome ≠ .softwareFault ∧
      progress.next.outcome ≠ .usageFault := by
  obtain ⟨status, bytes, hmakes⟩ := progress.next_makes
  rw [hmakes.outcome]
  exact (hruns.inFlight.react_handles status).outcome_ne

/-- Stepping a transfer that is not in flight reports a fault, and quiets its
interrupts once more. -/
theorem next_of_idle (hidle : progress.transfer.phase = .idle) :
    progress.next.Makes progress.host
      (progress.transfer.finish .softwareFault []) [] := by
  obtain ⟨status, bytes, hmakes⟩ := progress.next_makes
  rw [Transfer.react_of_idle hidle] at hmakes
  obtain rfl : bytes = [] := List.eq_nil_of_length_eq_zero hmakes.count
  exact hmakes

/-- Stepping what is left of a finished transfer reports a fault, and changes
nothing but the interrupts. -/
theorem next_of_ended
    (hended : progress.transfer.Ended sequence kind received) :
    progress.next.outcome = .softwareFault ∧
      progress.next.transfer.Ended sequence kind received ∧
      progress.next.wire = progress.wire ∧
      progress.next.host.taken = progress.host.taken := by
  have hmakes := next_of_idle hended.phase
  refine ⟨hmakes.outcome, ?_, ?_, ?_⟩
  · rw [hmakes.transfer]
    exact ⟨rfl, nofun, hended.held⟩
  · rw [hmakes.wire_eq, Progress.wire_eq]
    exact List.append_nil _
  · rw [hmakes.taken, List.append_nil]

theorem Follows.next (h : Follows sequence kind start progress done) :
    Follows sequence kind start progress.next
      (done ∨ progress.next.outcome = .done) := by
  cases h with
  | running hdone hrunning hruns hwire htaken =>
      exact follows_next_of_runs hdone hruns hwire htaken
  | complete hdone hover hended hlength hwire htaken =>
      obtain ⟨hfault, hended, hwireNext, htakenNext⟩ := next_of_ended hended
      exact .complete (Or.inl hdone) (Or.inr hfault) hended hlength
        (hwireNext.trans hwire) (htakenNext.trans htaken)
  | failed hdone hfails hover hended hroom hfront hwire htaken =>
      obtain ⟨hfault, hended, hwireNext, htakenNext⟩ := next_of_ended hended
      exact .failed (by simp [hdone, hfault]) hfails (Or.inr hfault) hended
        hroom hfront (hwireNext.trans hwire) (htakenNext.trans htaken)

/-- Some step up to the given one has reported success. -/
def DoneBy (progress : Progress σ) (count : Nat) : Prop :=
  ∃ step ≤ count, (progress.steps step).outcome = .done

theorem doneBy_succ (progress : Progress σ) (count : Nat) :
    progress.DoneBy (count + 1) ↔
      progress.DoneBy count ∨
        (progress.steps (count + 1)).outcome = .done := by
  constructor
  · rintro ⟨step, hle, hstep⟩
    rcases Nat.le_succ_iff.mp hle with hle | rfl
    · exact Or.inl ⟨step, hle, hstep⟩
    · exact Or.inr hstep
  · rintro (⟨step, hle, hstep⟩ | hstep)
    · exact ⟨step, Nat.le_succ_of_le hle, hstep⟩
    · exact ⟨count + 1, Nat.le_refl _, hstep⟩

theorem Follows.steps (h : Follows sequence kind start progress False)
    (hrunning : progress.outcome = .inProgress) (count : Nat) :
    Follows sequence kind start (progress.steps count)
      (progress.DoneBy count) := by
  induction count with
  | zero =>
      have hnot : progress.DoneBy 0 ↔ False := by
        simp [DoneBy, Progress.steps, hrunning]
      rw [hnot]
      exact h
  | succ count ih =>
      rw [doneBy_succ]
      exact ih.next

/-- A sequence that can be run is begun, and nothing comes in. -/
theorem start_makes (h : sequence.kind? = some kind) (transfer : Transfer)
    (recorder : Recorder σ) :
    ∃ reaction, (transfer.start sequence recorder).Makes recorder reaction [] ∧
      reaction.outcome = .inProgress ∧
      (reaction.settle []).Runs sequence kind [] (sequence.firstStage kind) ∧
      reaction.calls = Call.beginning (Device.busy recorder)
        (sequence.header (sequence.readsAtOnce kind)) := by
  obtain ⟨reaction, hbegin, houtcome, hruns, hcalls⟩ :=
    Transfer.begin?_of_valid h (Device.busy recorder)
  obtain ⟨bytes, hmakes⟩ := perform_makes reaction recorder
  obtain rfl : bytes = [] := by
    apply List.eq_nil_of_length_eq_zero
    rw [hmakes.count, hcalls, List.count_eq_zero]
    exact Call.readData_not_mem_beginning _ _
  refine ⟨reaction, ?_, houtcome, hruns, hcalls⟩
  rw [Transfer.start, hbegin]
  exact hmakes

/-- A run begins with the first address byte and a start condition, and its
transcript is still to come. -/
theorem follows_start (h : sequence.kind? = some kind) (transfer : Transfer)
    (recorder : Recorder σ) :
    (transfer.start sequence recorder).outcome = .inProgress ∧
      (transfer.start sequence recorder).wire =
        Call.wire recorder.calls ++
          [.writeAddress (sequence.header (sequence.readsAtOnce kind)),
            .start] ∧
      Follows sequence kind recorder (transfer.start sequence recorder)
        False := by
  obtain ⟨reaction, hmakes, houtcome, hruns, hcalls⟩ :=
    start_makes h transfer recorder
  have hfirst := hmakes.wire_eq
  rw [hcalls, Call.wire_beginning] at hfirst
  refine ⟨hmakes.outcome.trans houtcome, hfirst, ?_⟩
  refine .running not_false (hmakes.outcome.trans houtcome)
    (hmakes.transfer ▸ hruns) ?_ hmakes.taken
  rw [hfirst, Sequence.transcript_eq, List.append_assoc]

end Progress

/-- A run of `sequence` after so many steps, on a device whose record was
empty. -/
def Transfer.run (transfer : Transfer) (sequence : Sequence) (device : σ)
    (count : Nat) : Progress (Recorder σ) :=
  (transfer.start sequence ({ device } : Recorder σ)).steps count

/-- What a run asks for to begin with. -/
theorem Transfer.run_zero_calls {sequence : Sequence} {kind : Kind}
    (h : sequence.kind? = some kind) (transfer : Transfer) (device : σ) :
    (transfer.run sequence device 0).host.calls =
      Call.beginning (Device.busy device)
        (sequence.header (sequence.readsAtOnce kind)) := by
  obtain ⟨reaction, hmakes, _, _, hcalls⟩ :=
    Progress.start_makes h transfer ({ device } : Recorder σ)
  exact hmakes.calls.trans hcalls

theorem Transfer.run_follows {sequence : Sequence} {kind : Kind}
    (h : sequence.kind? = some kind) (transfer : Transfer) (device : σ)
    (count : Nat) :
    Progress.Follows sequence kind ({ device } : Recorder σ)
      (transfer.run sequence device count)
      ((transfer.run sequence device 0).DoneBy count) := by
  obtain ⟨hrunning, _, hfollows⟩ :=
    Progress.follows_start h transfer ({ device } : Recorder σ)
  exact hfollows.steps hrunning count

end TwoWire
