/-
What a run leaves in the buffer it fills.

At every moment the bytes that came in stand at the front of the buffer and the
rest of it is what the caller put there, whatever the run comes to.
-/
import TwoWire.Bench
import TwoWire.Bench.Script
import TwoWire.Proofs.History

namespace TwoWire

open Sequence (Kind Slot)

variable {σ : Type} {sequence : Sequence} {kind : Kind} {slot : Slot}

namespace Progress

variable {progress : Progress (Recorder σ)} {device : σ} {done : Prop}

theorem Follows.held
    (h : progress.Follows sequence kind ({ device } : Recorder σ) done) :
    progress.transfer.held =
      some (sequence.filled kind progress.host.taken) := by
  cases h with
  | running hdone hrunning hruns hwire htaken =>
      rw [htaken]
      exact hruns.inFlight.held
  | complete hdone hover hended hlength hwire htaken =>
      rw [htaken]
      exact hended.held
  | failed hdone hfails hover hended hroom hfront hwire htaken =>
      rw [htaken]
      exact hended.held

/-- The buffer is never overrun, and it is full when the run is done and not
before. -/
theorem Follows.taken_length
    (h : progress.Follows sequence kind ({ device } : Recorder σ) done)
    (hslot : kind.receivesInto = some slot) :
    progress.host.taken.length ≤ sequence.receiveLength kind ∧
      (progress.host.taken.length = sequence.receiveLength kind ↔ done) := by
  cases h with
  | running hdone hrunning hruns hwire htaken =>
      rw [htaken]
      have hlt := hruns.length_lt hslot
      exact ⟨Nat.le_of_lt hlt, iff_of_false (Nat.ne_of_lt hlt) hdone⟩
  | complete hdone hover hended hlength hwire htaken =>
      rw [htaken]
      exact ⟨Nat.le_of_eq hlength, iff_of_true hlength hdone⟩
  | failed hdone hfails hover hended hroom hfront hwire htaken =>
      rw [htaken]
      have hlt := hroom slot hslot
      exact ⟨Nat.le_of_lt hlt, iff_of_false (Nat.ne_of_lt hlt) hdone⟩

/-- Every byte that is taken is kept. -/
theorem Makes.count_readData {before : Recorder σ} {reaction : Reaction}
    {bytes : List UInt8} (h : progress.Makes before reaction bytes)
    (hbefore : before.calls.count .readData = before.taken.length) :
    progress.host.calls.count .readData = progress.host.taken.length := by
  rw [h.calls, h.taken, List.count_append, List.length_append, hbefore, h.count]

end Progress

namespace Transfer

variable [Device σ]

theorem run_count_readData (transfer : Transfer) (sequence : Sequence)
    (device : σ) (count : Nat) :
    (transfer.run sequence device count).host.calls.count .readData =
      (transfer.run sequence device count).host.taken.length := by
  induction count with
  | zero =>
      have hempty : ({ device } : Recorder σ).calls.count .readData =
          ({ device } : Recorder σ).taken.length :=
        rfl
      rw [run, Progress.steps, start]
      cases begin? sequence (Device.busy ({ device } : Recorder σ)) with
      | none => exact hempty
      | some reaction =>
          obtain ⟨bytes, hmakes⟩ :=
            Progress.perform_makes reaction ({ device } : Recorder σ)
          exact hmakes.count_readData hempty
  | succ count ih =>
      obtain ⟨status, bytes, hmakes⟩ :=
        (transfer.run sequence device count).next_makes
      exact hmakes.count_readData ih

/-- Whatever becomes of a run, the caller gets the sequence back as it was but
for the bytes that came in. -/
theorem run_receives (h : sequence.kind? = some kind)
    (hslot : kind.receivesInto = some slot) (transfer : Transfer) (device : σ)
    (count : Nat) :
    let run := transfer.run sequence device count
    let received := run.host.taken
    ∃ initial, sequence.buffer slot = .receive initial ∧
      run.host.calls.count .readData = received.length ∧
      received.length ≤ initial.length ∧
      let after := sequence.setBuffer slot
        (.receive (received ++ initial.drop received.length))
      run.transfer.held = some after ∧
      (received.length = initial.length ↔
        ∃ step ≤ count,
          (transfer.run sequence device step).outcome = .done) ∧
      (run.outcome ≠ .softwareFault →
        (received.length = initial.length ↔ run.outcome = .done)) ∧
      (run.outcome = .inProgress →
        run.transfer.release = (none, run.transfer)) ∧
      (run.outcome ≠ .inProgress →
        ∃ rest, run.transfer.release = (some after, rest) ∧
          rest.release = (none, rest)) := by
  intro run received
  obtain ⟨initial, hinitial, _⟩ := Sequence.buffer_of_receivesInto h hslot
  have hfollows := transfer.run_follows h device count
  have hreceive : sequence.receiveLength kind = initial.length := by
    rw [Sequence.receiveLength_of_receivesInto hslot, hinitial]
    rfl
  obtain ⟨hlength, hfull⟩ := hfollows.taken_length hslot
  rw [hreceive] at hlength hfull
  have hheld := hfollows.held
  rw [Sequence.filled_of_receivesInto hslot, hinitial] at hheld
  refine ⟨initial, hinitial, run_count_readData .., hlength, hheld, hfull,
    ?_, ?_, ?_⟩
  · intro hfault
    rw [hfull]
    constructor
    · intro hdone
      exact (hfollows.of_done hdone).1.resolve_right hfault
    · intro houtcome
      exact ⟨count, Nat.le_refl count, houtcome⟩
  · intro hrunning
    apply release_of_active
    intro hidle
    exact hfollows.idle_iff.mp hidle hrunning
  · intro hover
    have hidle := hfollows.idle_iff.mpr hover
    exact ⟨_, (release_of_idle hidle).trans (congrArg (Prod.mk · _) hheld),
      release_of_idle hidle⟩

/-- A read that loses the bus after its first byte: that byte is in the buffer
and the second is still the caller's. -/
theorem run_receives_lost :
    let bench : Scripted Bench :=
      ⟨Bench.withResponder [7, 8], [∅, {Interrupt.arbitrationLost}]⟩
    let run := ({} : Transfer).run (.read 0x50 [1, 2]) bench 2
    (Sequence.read 0x50 [1, 2]).kind? = some .read ∧
      Kind.receivesInto .read = some .first ∧
      run.outcome = .arbitrationLost ∧
      run.transfer.release.1 = some (.read 0x50 [7, 2]) ∧
      run.transfer.release.2.release.1 = none := by
  intro bench run
  have hkind : (Sequence.read 0x50 [1, 2]).kind? = some .read := by decide
  have houtcome : run.outcome = .arbitrationLost := by decide
  obtain ⟨initial, hinitial, _, _, _, _, _, _, hrelease⟩ :=
    run_receives hkind rfl {} bench 2
  obtain ⟨rest, hfirst, hagain⟩ := hrelease (by rw [houtcome]; nofun)
  obtain rfl := Sequence.Buffer.receive.inj hinitial
  have htaken : run.host.taken = [7] := by decide
  refine ⟨hkind, rfl, houtcome, ?_, ?_⟩
  · rw [hfirst, htaken]
    rfl
  · rw [hfirst, hagain]

end Transfer

end TwoWire
