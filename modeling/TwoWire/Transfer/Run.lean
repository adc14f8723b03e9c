/-
Transfers on a device: its flags are the events, and it makes the calls that
the reactions ask for.
-/
import TwoWire.Device
import TwoWire.Transfer

namespace TwoWire

/-- How things stand after a step of a transfer that runs on `host`. -/
structure Progress (α : Type) where
  outcome : Outcome
  transfer : Transfer
  host : α
deriving Repr

/-- What the transfer came to, once it has ended. -/
def Progress.result? {α : Type} (progress : Progress α) :
    Option (Except Error Unit) :=
  match Error.ofOutcome? progress.outcome progress.transfer.nackSource with
  | some error => some (.error error)
  | none => if progress.outcome.isTerminal then some (.ok ()) else none

namespace Transfer

variable {σ : Type} [Device σ]

/-- Makes the calls of a reaction and keeps the bytes that came in. -/
def perform (reaction : Reaction) (device : σ) : Progress σ :=
  let (bytes, after) := Device.run reaction.calls device
  ⟨reaction.outcome, bytes.foldl store reaction.next, after⟩

/-- Begins `sequence` in place of `transfer`.  A sequence that cannot be run
touches neither the device nor a transfer in flight. -/
def start (transfer : Transfer) (sequence : Sequence) (device : σ) :
    Progress σ :=
  match begin? sequence (Device.busy device) with
  | none => ⟨.usageFault, transfer, device⟩
  | some reaction => perform reaction device

/-- Handles one event.  The flags are looked at only by a transfer in
flight. -/
def step (transfer : Transfer) (device : σ) : Progress σ :=
  if transfer.isActive then
    let (status, seen) := Device.status device
    perform (transfer.react status) seen
  else perform (transfer.react ∅) device

variable {transfer : Transfer}

theorem step_of_active (h : transfer.phase ≠ .idle) (device : σ) :
    transfer.step device =
      perform (transfer.react (Device.status device).1)
        (Device.status device).2 :=
  if_pos (isActive_iff.mpr h)

theorem step_of_idle (h : transfer.phase = .idle) (device : σ) :
    transfer.step device = perform (transfer.react ∅) device :=
  if_neg fun hactive => isActive_iff.mp hactive h

end Transfer

end TwoWire
