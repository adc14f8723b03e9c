/-
The bus frequency that is set and the one that is read back.

Setting a frequency is two calls.  A device that holds its clock reads back
what they gave it, whatever it held before: the bench does, and so do the
registers of both generations, whose fields have room for every ratio and for
every divider that is ever chosen.  What SCL comes to is then a matter of the
reference clock and the divider alone.
-/
import TwoWire.Bench.Recorder
import TwoWire.Controller
import TwoWire.Proofs.Divider
import TwoWire.Proofs.Silicon

namespace TwoWire

open Log (Logger)

/-- The calls that make SCL what it should be. -/
def Clock.tuning (ratio : ClockRatio) (divider : UInt16) : List Call :=
  [.setClockRatio ratio, .setClockDivider divider]

def Device.tuned {σ : Type} [Device σ] (ratio : ClockRatio)
    (divider : UInt16) (device : σ) : σ :=
  (Device.run (Clock.tuning ratio divider) device).2

/-- What is read back of the clock is what it was set to, and the clock that
feeds the device is none of it. -/
structure Device.HoldsClock (σ : Type) [Device σ] : Prop where
  ratio : ∀ ratio divider (device : σ),
    Device.clockRatio (Device.tuned ratio divider device) = ratio
  divider : ∀ ratio divider (device : σ), divider ≤ Clock.maxDivider →
    Device.clockDivider (Device.tuned ratio divider device) = divider
  reference : ∀ ratio divider (device : σ),
    Device.referenceClock (Device.tuned ratio divider device) =
      Device.referenceClock device

theorem Bench.holdsClock : Device.HoldsClock Bench where
  ratio _ _ _ := rfl
  divider _ _ _ _ := rfl
  reference _ _ _ := rfl

theorem Recorder.holdsClock {σ : Type} [Device σ]
    (h : Device.HoldsClock σ) : Device.HoldsClock (Recorder σ) where
  ratio ratio divider recorder := h.ratio ratio divider recorder.device
  divider ratio divider recorder := h.divider ratio divider recorder.device
  reference ratio divider recorder := h.reference ratio divider recorder.device

/-- Whatever else was in the registers. -/
theorem Registers.Block.holdsClock (series : Series) :
    Device.HoldsClock (Block series) where
  ratio ratio divider block := by
    cases series with
    | one => exact ratioOf_putRatio ratio _
    | two => exact ratioOf_putRatio ratio _
  divider ratio divider block hroom := by
    apply UInt16.toBitVec_inj.mp
    cases series with
    | one => exact setWidth_dividerField hroom
    | two => exact setWidth_dividerField hroom
  reference _ _ _ := rfl

namespace Controller

variable {σ ℓ : Type} [Device σ] (controller : Controller σ ℓ)

def dividerFor (target : Hertz) : UInt16 :=
  Clock.divider controller.referenceClock target controller.config.ratio

theorem setBusFrequency_device (target : Hertz) :
    (controller.setBusFrequency target).device =
      Device.tuned controller.config.ratio (controller.dividerFor target)
        controller.device :=
  rfl

theorem clockRatio_setBusFrequency (h : Device.HoldsClock σ)
    (target : Hertz) :
    Device.clockRatio (controller.setBusFrequency target).device =
      controller.config.ratio :=
  h.ratio _ _ controller.device

theorem clockDivider_setBusFrequency (h : Device.HoldsClock σ)
    (target : Hertz) :
    Device.clockDivider (controller.setBusFrequency target).device =
      controller.dividerFor target :=
  h.divider _ _ controller.device (Clock.divider_le_max _ _ _)

theorem referenceClock_setBusFrequency (h : Device.HoldsClock σ)
    (target : Hertz) :
    (controller.setBusFrequency target).referenceClock =
      controller.referenceClock := by
  have hdevice := h.reference controller.config.ratio
    (controller.dividerFor target) controller.device
  rw [← setBusFrequency_device] at hdevice
  rw [referenceClock, hdevice]
  rfl

theorem busFrequency_setBusFrequency (h : Device.HoldsClock σ)
    (target : Hertz) :
    (controller.setBusFrequency target).busFrequency =
      Clock.frequency controller.referenceClock
        (controller.dividerFor target) controller.config.ratio := by
  rw [busFrequency, controller.referenceClock_setBusFrequency h,
    controller.clockDivider_setBusFrequency h,
    controller.clockRatio_setBusFrequency h]

/-- What becomes of every frequency that a controller is asked for, if
`reference` is the clock that it starts from. -/
structure Tunes (controller : Controller σ ℓ) (reference : Hertz) : Prop where
  ratio : ∀ target,
    Device.clockRatio (controller.setBusFrequency target).device =
      controller.config.ratio
  divider : ∀ target,
    Device.clockDivider (controller.setBusFrequency target).device =
      Clock.divider reference target controller.config.ratio
  /-- SCL is the reference clock divided by the length of a period. -/
  frequency : ∀ target,
    (controller.setBusFrequency target).busFrequency.toNat =
      reference.toNat / Clock.period
        (Clock.divider reference target controller.config.ratio).toNat
        controller.config.ratio
  bounded : ∀ target, target ≠ 0 →
    reference.toNat ≤ target.toNat *
      Clock.period Clock.maxDivider.toNat controller.config.ratio →
    (controller.setBusFrequency target).busFrequency ≤ target
  /-- Where the bound does not hold, SCL is as slow as it gets. -/
  slowest : ∀ target, target = 0 ∨ target.toNat *
      Clock.period Clock.maxDivider.toNat controller.config.ratio <
        reference.toNat →
    Device.clockDivider (controller.setBusFrequency target).device =
      Clock.maxDivider
  mono : ∀ target faster, target ≠ 0 → target ≤ faster →
    (controller.setBusFrequency target).busFrequency ≤
      (controller.setBusFrequency faster).busFrequency
  least : ∀ target, (controller.setBusFrequency 0).busFrequency ≤
    (controller.setBusFrequency target).busFrequency

/-- A device that holds its clock is all that this takes. -/
theorem tunes_of_holdsClock (h : Device.HoldsClock σ) :
    controller.Tunes controller.referenceClock where
  ratio := controller.clockRatio_setBusFrequency h
  divider := controller.clockDivider_setBusFrequency h
  frequency target := by
    rw [controller.busFrequency_setBusFrequency h]
    exact Clock.toNat_frequency _ _ _
  bounded target htarget hreach := by
    rw [controller.busFrequency_setBusFrequency h]
    exact Clock.frequency_divider_le htarget hreach
  slowest target hout := by
    rw [controller.clockDivider_setBusFrequency h]
    by_cases hzero : target = 0
    · rw [hzero]
      exact Clock.divider_zero _ _
    · exact Clock.divider_eq_max_of_lt hzero (hout.resolve_left hzero)
  mono target faster htarget hfaster := by
    rw [controller.busFrequency_setBusFrequency h,
      controller.busFrequency_setBusFrequency h]
    exact Clock.frequency_divider_mono htarget hfaster
  least target := by
    rw [controller.busFrequency_setBusFrequency h,
      controller.busFrequency_setBusFrequency h]
    exact Clock.frequency_divider_zero_le _ _ _

open Registers (Block) in
/-- The frequency that is set is the one that is read back.  Whatever is
configured and whatever the device held before, it holds the configured ratio
and the divider that was chosen, and SCL is what these make of the reference
clock: the configured one, or the device's own if that is zero.  It is not
faster than it should be, unless it should stand still or no divider makes it
slow enough.  Asking for more does not make it slower, and asking for nothing
makes it as slow as can be. -/
theorem setBusFrequency_tunes (config : Config) (log : ℓ) :
    (∀ recorder : Recorder Bench, Tunes ⟨recorder, config, log⟩
      (if config.reference = 0 then recorder.device.referenceClock
        else config.reference)) ∧
      ∀ (series : Series) (block : Block series),
        Tunes ⟨block, config, log⟩
          (if config.reference = 0 then block.referenceClock
            else config.reference) := by
  constructor
  · intro recorder
    exact tunes_of_holdsClock _ (Recorder.holdsClock Bench.holdsClock)
  · intro series block
    exact tunes_of_holdsClock _ (Block.holdsClock series)

end Controller

end TwoWire
