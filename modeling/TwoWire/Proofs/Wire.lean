/-
What goes over the wires.

Whatever a device answers, a run never puts anything on the wires but the front
of its transcript, and a stop condition where a byte was refused.
-/
import TwoWire.Bench
import TwoWire.Proofs.History

namespace TwoWire

open Sequence (Kind Stage)

namespace Sequence

variable {sequence : Sequence} {kind : Kind}

/-- The calls begin the transcript and there are more to come. -/
def Begins (sequence : Sequence) (kind : Kind) (calls : List Call) : Prop :=
  calls <+: sequence.transcript kind ∧ calls ≠ sequence.transcript kind

instance (calls : List Call) : Decidable (sequence.Begins kind calls) :=
  inferInstanceAs (Decidable (_ ∧ _))

theorem begins_of_append {front : List Call} {stage : Stage}
    (h : front ++ sequence.remaining kind stage = sequence.transcript kind) :
    sequence.Begins kind front := by
  refine ⟨⟨_, h⟩, fun hall => sequence.remaining_ne_nil kind stage ?_⟩
  rw [hall] at h
  exact List.append_right_eq_self.mp h

/-- What is on the wires when a step of a run reports an outcome. -/
def Shows (sequence : Sequence) (kind : Kind) (calls : List Call) :
    Outcome → Prop
  | .inProgress | .busError | .arbitrationLost => sequence.Begins kind calls
  | .done => calls = sequence.transcript kind
  | .nack => ∃ front, sequence.Begins kind front ∧ calls = front ++ [.stop]
  | .usageFault | .softwareFault => False

theorem shows_of_fails {front last : List Call} {outcome : Outcome}
    (hbegins : sequence.Begins kind front) (hfails : outcome.Fails last) :
    sequence.Shows kind (front ++ last) outcome := by
  cases hfails with
  | nack => exact ⟨front, hbegins, rfl⟩
  | busError => exact (List.append_nil front).symm ▸ hbegins
  | arbitrationLost => exact (List.append_nil front).symm ▸ hbegins

end Sequence

def Call.data? : Call → Option UInt8
  | .writeData byte => some byte
  | _ => none

theorem Call.filterMap_wire (calls : List Call) :
    (wire calls).filterMap data? = calls.filterMap data? := by
  rw [wire, List.filterMap_filter]
  congr 1
  funext call
  cases call <;> rfl

namespace Sequence

theorem filterMap_takes (count : Nat) :
    (takes count).filterMap Call.data? = [] := by
  fun_induction takes count with
  | case1 => rfl
  | case2 => rfl
  | case3 rest ih => exact ih

/-- The data bytes of a transcript are the ones to send. -/
theorem filterMap_transcript (sequence : Sequence) (kind : Kind) :
    (sequence.transcript kind).filterMap Call.data? = sequence.sent kind := by
  have hopening : (sequence.opening kind).filterMap Call.data? = [] := by
    rw [opening]
    split <;> rfl
  have hreopening : (sequence.reopening kind).filterMap Call.data? = [] := by
    rw [reopening]
    split <;> rfl
  have hsent : ((sequence.sent kind).map Call.writeData).filterMap Call.data? =
      sequence.sent kind := by
    rw [List.filterMap_map]
    exact List.filterMap_some
  have hstop : [Call.stop].filterMap Call.data? = [] := rfl
  simp only [transcript, List.filterMap_append, hopening, hsent, hreopening,
    filterMap_takes, hstop, List.append_nil, List.nil_append]

end Sequence

variable {σ : Type} {sequence : Sequence} {kind : Kind}

theorem Progress.dataWrites_eq (progress : Progress (Recorder σ)) :
    progress.host.dataWrites = progress.wire.filterMap Call.data? := by
  rw [Progress.wire_eq, Call.filterMap_wire]
  rfl

theorem Progress.Follows.shows {progress : Progress (Recorder σ)} {device : σ}
    {done : Prop}
    (h : progress.Follows sequence kind ({ device } : Recorder σ) done)
    (hfault : progress.outcome ≠ .softwareFault) :
    sequence.Shows kind progress.wire progress.outcome := by
  cases h with
  | running hdone hrunning hruns hwire htaken =>
      rw [hrunning]
      exact Sequence.begins_of_append hwire
  | complete hdone hover hended hlength hwire htaken =>
      rw [hover.resolve_right hfault]
      exact hwire
  | failed hdone hfails hover hended hroom hfront hwire htaken =>
      rw [hover.resolve_right hfault, hwire]
      exact Sequence.shows_of_fails (Sequence.begins_of_append hfront) hfails

variable [Device σ]

/-- A step that faults comes after the end of the run, and leaves the wires
alone. -/
theorem Progress.Follows.next_wire {progress : Progress (Recorder σ)}
    {start : Recorder σ} {done : Prop}
    (h : progress.Follows sequence kind start done)
    (hfault : progress.next.outcome = .softwareFault) :
    progress.outcome ≠ .inProgress ∧ progress.next.wire = progress.wire := by
  have hover := h.idle_iff
  cases h with
  | running hdone hrunning hruns hwire htaken =>
      exact absurd hfault (next_outcome_ne_of_runs hruns).1
  | complete hdone houtcome hended hlength hwire htaken =>
      exact ⟨hover.mp hended.phase, (next_of_ended hended).2.2.1⟩
  | failed hdone hfails houtcome hended hroom hfront hwire htaken =>
      exact ⟨hover.mp hended.phase, (next_of_ended hended).2.2.1⟩

namespace Transfer

/-- Once a step has faulted, the wires are as the last step of the transfer
left them. -/
theorem run_of_softwareFault (h : sequence.kind? = some kind)
    (transfer : Transfer) (device : σ) {count : Nat}
    (hfault : (transfer.run sequence device count).outcome = .softwareFault) :
    ∃ last < count,
      (transfer.run sequence device last).outcome ≠ .inProgress ∧
      (transfer.run sequence device last).outcome ≠ .softwareFault ∧
      (transfer.run sequence device count).wire =
        (transfer.run sequence device last).wire := by
  induction count with
  | zero =>
      have hrunning := (Progress.follows_start h transfer
        ({ device } : Recorder σ)).1
      have hclash : Outcome.inProgress = .softwareFault :=
        hrunning.symm.trans hfault
      contradiction
  | succ count ih =>
      obtain ⟨hover, hwire⟩ :=
        (transfer.run_follows h device count).next_wire hfault
      by_cases hearlier :
          (transfer.run sequence device count).outcome = .softwareFault
      · obtain ⟨last, hlast, hends, hsound, hsame⟩ := ih hearlier
        exact ⟨last, Nat.lt_succ_of_lt hlast, hends, hsound, hwire.trans hsame⟩
      · exact ⟨count, Nat.lt_succ_self count, hover, hearlier, hwire⟩

/-- A run puts its transcript on the wires, call by call, until it ends. -/
theorem run_shows_transcript (h : sequence.kind? = some kind)
    (transfer : Transfer) (device : σ) :
    (transfer.run sequence device 0).outcome = .inProgress ∧
      (transfer.run sequence device 0).wire =
        [.writeAddress (sequence.header (sequence.readsAtOnce kind)),
          .start] ∧
      (∀ count, let run := transfer.run sequence device count
        sequence.Shows kind run.wire run.outcome ∨
          run.outcome = .softwareFault ∧
            ∃ last < count, let ended := transfer.run sequence device last
              ended.outcome ≠ .inProgress ∧
                sequence.Shows kind ended.wire ended.outcome ∧
                run.wire = ended.wire) ∧
      (∀ reading, (sequence.header reading).toNat =
        (if sequence.isTenBit then 0xf0 + sequence.address.toNat / 256 * 2
          else sequence.address.toNat * 2) + reading.toNat) ∧
      sequence.lowAddress.toNat = sequence.address.toNat % 256 := by
  obtain ⟨hrunning, hfirst, _⟩ :=
    Progress.follows_start h transfer ({ device } : Recorder σ)
  refine ⟨hrunning, hfirst, ?_, Sequence.header_toNat h,
    sequence.lowAddress_toNat⟩
  intro count
  have hfollows := transfer.run_follows h device
  by_cases hfault :
      (transfer.run sequence device count).outcome = .softwareFault
  · obtain ⟨last, hlast, hover, hsound, hwire⟩ :=
      transfer.run_of_softwareFault h device hfault
    exact Or.inr
      ⟨hfault, last, hlast, hover, (hfollows last).shows hsound, hwire⟩
  · exact Or.inl ((hfollows count).shows hfault)

/-- A write and a read with a ten-bit address, on a target that answers. -/
theorem run_shows_transcript_tenBit :
    let sequence := (Sequence.writeRead 0x2a5 [0x10] [0, 0]).toTenBit
    let run := ({} : Transfer).run sequence (Bench.withResponder [7, 8]) 5
    sequence.kind? = some .writeRead ∧ run.outcome = .done ∧
      run.wire = sequence.transcript .writeRead := by
  have hkind : (Sequence.writeRead 0x2a5 [0x10] [0, 0]).toTenBit.kind? =
      some .writeRead := by
    decide
  have hdone : (({} : Transfer).run
      (Sequence.writeRead 0x2a5 [0x10] [0, 0]).toTenBit
      (Bench.withResponder [7, 8]) 5).outcome = .done := by
    decide
  have hshows := (run_shows_transcript hkind {}
    (Bench.withResponder [7, 8])).2.2.1 5
  simp only [hdone] at hshows
  exact ⟨hkind, hdone, hshows.resolve_right nofun⟩

end Transfer

end TwoWire
