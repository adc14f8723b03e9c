/-
A device whose flags are seen together with those of a script.

Each look at the status takes the next set of the script.  The device itself
knows nothing of it.
-/
import TwoWire.Device

namespace TwoWire

structure Scripted (σ : Type) where
  device : σ
  script : List Interrupts := []
deriving Repr

namespace Scripted

variable {σ : Type}

instance [Device σ] : Device (Scripted σ) where
  perform call scripted :=
    { scripted with device := Device.perform call scripted.device }
  received scripted := Device.received scripted.device
  clockRatio scripted := Device.clockRatio scripted.device
  clockDivider scripted := Device.clockDivider scripted.device
  referenceClock scripted := Device.referenceClock scripted.device
  enabled scripted := Device.enabled scripted.device
  pending scripted := Device.pending scripted.device
  busy scripted := Device.busy scripted.device
  status scripted :=
    let (status, device) := Device.status scripted.device
    (status ∪ scripted.script.headD ∅, ⟨device, scripted.script.tail⟩)

end Scripted

end TwoWire
