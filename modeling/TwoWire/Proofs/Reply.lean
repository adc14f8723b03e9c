/-
What any reaction is made of.

A transfer that is shown flags makes only calls of a few kinds, and whatever
state it is in, sound or not, one of two things comes of it: it waits for the
next event, or it ends and quiets its sources.  The flags that no transfer is
driven by make no difference.
-/
import TwoWire.Proofs.Event
import TwoWire.Transfer.Run

namespace TwoWire

open Sequence (Slot)

/-- A call that a transfer makes once it has begun.  None of them begins another
transfer, sets the device up or changes which sources may interrupt. -/
def Call.isReply : Call → Bool
  | .clearInterrupts _ | .writeAddress _ | .writeData _ | .readData
  | .repeatedStart | .stop | .ack | .nack | .abort => true
  | _ => false

/-- Calls that a transfer can make at one event: it takes one byte at most. -/
def Call.Replies (calls : List Call) : Prop :=
  (∀ call ∈ calls, call.isReply = true) ∧ calls.count .readData ≤ 1

instance (calls : List Call) : Decidable (Call.Replies calls) :=
  inferInstanceAs (Decidable (_ ∧ _))

/-- A reaction of a transfer that goes on, or of one that is over. -/
inductive Reaction.Regular : Reaction → Prop where
  | waits {next : Transfer} {calls : List Call} : next.phase ≠ .idle →
      Call.Replies calls → Regular (next.wait calls)
  | ends {transfer : Transfer} {outcome : Outcome} {calls : List Call} :
      outcome ≠ .inProgress → Call.Replies calls →
      Regular (transfer.finish outcome calls)

namespace Reaction.Regular

variable {reaction : Reaction}

/-- A transfer replies, and at its end disables its sources. -/
theorem isReply_or_eq (h : reaction.Regular) {call : Call}
    (hcall : call ∈ reaction.calls) :
    call.isReply = true ∨ call = .disableInterrupts .transfer := by
  cases h with
  | waits hactive hcalls => exact Or.inl (hcalls.1 call hcall)
  | ends hover hcalls =>
      rcases List.mem_append.mp hcall with hcall | hcall
      · exact Or.inl (hcalls.1 call hcall)
      · simp only [Transfer.closing, List.mem_cons, List.not_mem_nil,
          or_false] at hcall
        rcases hcall with rfl | rfl
        · exact Or.inr rfl
        · exact Or.inl rfl

theorem count_readData_le (h : reaction.Regular) :
    reaction.calls.count .readData ≤ 1 := by
  cases h with
  | waits hactive hcalls => exact hcalls.2
  | ends hover hcalls =>
      have hclosing : Transfer.closing.count .readData = 0 := rfl
      have hcount := hcalls.2
      simp only [Transfer.finish, List.count_append]
      omega

end Reaction.Regular

namespace Transfer

variable {transfer : Transfer} {sequence : Sequence} {status : Interrupts}
  {reaction : Reaction}

/-- Taking down a flag first makes no difference. -/
theorem regular_after (h : reaction.Regular) (set : Interrupts) :
    (reaction.after [.clearInterrupts set]).Regular := by
  have hfirst : ∀ calls, Call.Replies calls →
      Call.Replies (.clearInterrupts set :: calls) := by
    rintro calls ⟨hcalls, hcount⟩
    exact ⟨List.forall_mem_cons.mpr ⟨rfl, hcalls⟩, by simpa using hcount⟩
  cases h with
  | waits hactive hcalls => exact .waits hactive (hfirst _ hcalls)
  | ends hover hcalls => exact .ends hover (hfirst _ hcalls)

theorem receive_regular (hactive : transfer.phase ≠ .idle) :
    (transfer.receive sequence status).Regular := by
  rw [receive]
  split
  · split
    · exact .ends (by decide) (by decide)
    · exact .ends (by decide) (by decide)
    · exact .waits hactive (by decide)
  · split
    · exact .waits hactive (by decide)
    · exact .waits hactive (by decide)

theorem restart_regular : (transfer.restart sequence).Regular := by
  apply Reaction.Regular.waits
  · simp
  · exact of_decide_eq_true rfl

theorem sendOr_regular {otherwise : Reaction} (h : otherwise.Regular) :
    (transfer.sendOr sequence otherwise).Regular := by
  rw [sendOr]
  split
  · exact .ends (by decide) (by decide)
  · split
    · exact h
    · apply Reaction.Regular.waits
      · simp
      · exact of_decide_eq_true rfl

theorem send_regular : (transfer.send sequence).Regular := by
  apply sendOr_regular
  split
  · exact sendOr_regular (.ends (by decide) (by decide))
  · exact restart_regular
  · exact .ends (by decide) (by decide)

theorem acknowledged_regular :
    (transfer.acknowledged sequence status).Regular := by
  rw [acknowledged]
  split
  · split
    · apply Reaction.Regular.waits
      · simp
      · exact of_decide_eq_true rfl
    · split
      · exact receive_regular (by simp)
      · exact send_regular
  · exact restart_regular
  · exact receive_regular (by simp)
  · exact send_regular

theorem react_of_none (h : transfer.held = none) (status : Interrupts) :
    transfer.react status = transfer.finish .softwareFault [] := by
  cases hphase : transfer.phase <;> simp [react, hphase, h]

theorem react_regular (transfer : Transfer) (status : Interrupts) :
    (transfer.react status).Regular := by
  by_cases hidle : transfer.phase = .idle
  · rw [react_of_idle hidle]
    exact .ends (by decide) (by decide)
  cases hheld : transfer.held with
  | none =>
      rw [react_of_none hheld]
      exact .ends (by decide) (by decide)
  | some sequence =>
      rw [react_of_held hidle hheld]
      split
      · exact .ends (by decide) (by decide)
      · split
        · exact .ends (by decide) (by decide)
        · split
          · exact receive_regular hidle
          · split
            · exact .ends (by decide) (by decide)
            · split
              · exact regular_after acknowledged_regular _
              · exact .waits hidle (by decide)

/-- Two words with the same sources of a transfer get the same reaction. -/
theorem react_congr {other : Interrupts}
    (h : ∀ source ∈ Interrupts.transfer, source ∈ status ↔ source ∈ other)
    (transfer : Transfer) : transfer.react status = transfer.react other := by
  have hsource : ∀ source, source = .ackReceived ∨ source = .nackReceived ∨
      source = .dataReceived ∨ source = .arbitrationLost ∨
        source = .busError → (source ∈ status ↔ source ∈ other) := by
    intro source hsource
    exact h source (Interrupts.mem_transfer.mpr hsource)
  have hack := hsource .ackReceived (by simp)
  have hnack := hsource .nackReceived (by simp)
  have hdata := hsource .dataReceived (by simp)
  have hlost := hsource .arbitrationLost (by simp)
  have hbroken := hsource .busError (by simp)
  simp only [react, acknowledged, receive, hack, hnack, hdata, hlost, hbroken]

/-- A step is the reaction to the flags that are up, in flight or not, on a
device that keeps them for the next look. -/
theorem step_of_status {σ : Type} [Device σ] {device : σ}
    (h : Device.status device = (status, device)) (transfer : Transfer) :
    transfer.step device = perform (transfer.react status) device := by
  by_cases hidle : transfer.phase = .idle
  · rw [step_of_idle hidle, react_of_idle hidle, react_of_idle hidle]
  · rw [step_of_active hidle, h]

end Transfer

end TwoWire
