/-
Devices: whatever performs calls and can be asked how it stands.

The sequencing logic is written against this interface alone, so one proof
about it covers register blocks, test benches and recorders alike.
-/
import TwoWire.Call

namespace TwoWire

class Device (σ : Type) where
  perform : Call → σ → σ
  /-- The byte that a `readData` performed now takes. -/
  received : σ → UInt8
  clockRatio : σ → ClockRatio
  clockDivider : σ → UInt16
  /-- The clock that feeds the peripheral. -/
  referenceClock : σ → Hertz
  /-- The sources that may interrupt. -/
  enabled : σ → Interrupts
  /-- The sources whose flag is up, whether they may interrupt or not. -/
  pending : σ → Interrupts
  busy : σ → Bool
  /-- What a transfer sees of the flags.  Looking may use something up. -/
  status : σ → Interrupts × σ := fun device => (pending device, device)

namespace Device

variable {σ : Type} [Device σ]

/-- The flags that reach the interrupt handler. -/
def enabledPending (device : σ) : Interrupts :=
  pending device ∩ enabled device

/-- Performs calls in order and gives the bytes that came in. -/
def run : List Call → σ → List UInt8 × σ
  | [], device => ([], device)
  | call :: rest, device =>
    let (bytes, after) := run rest (perform call device)
    (if call = .readData then received device :: bytes else bytes, after)

@[simp]
theorem run_nil (device : σ) : run [] device = ([], device) :=
  rfl

theorem run_append (calls more : List Call) (device : σ) :
    run (calls ++ more) device =
      ((run calls device).1 ++ (run more (run calls device).2).1,
        (run more (run calls device).2).2) := by
  induction calls generalizing device with
  | nil => rfl
  | cons call rest ih =>
      by_cases h : call = .readData <;> simp [run, ih, h]

end Device

end TwoWire
