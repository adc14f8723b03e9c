/-
A controller: a device with its configuration and a log.

Its transfers can be driven from an interrupt handler, one `advance` an event,
by polling, or to completion by `runSequence`, which polls by itself.
-/
import TwoWire.Config
import TwoWire.Log.Notice
import TwoWire.Transfer.Run

namespace TwoWire

structure Controller (σ ℓ : Type) where
  device : σ
  config : Config
  log : ℓ
deriving Repr

/-- The end of an operation that had something to hand back. -/
structure Completion (α σ ℓ : Type) where
  result : Except Error Unit
  handedBack : α
  controller : Controller σ ℓ

namespace Controller

open Log (Logger Notice)

variable {σ ℓ : Type} [Device σ] [Logger ℓ]

def perform (controller : Controller σ ℓ) (calls : List Call) :
    Controller σ ℓ :=
  { controller with device := (Device.run calls controller.device).2 }

def note (controller : Controller σ ℓ) (notice : Notice) : Controller σ ℓ :=
  { controller with log := Log.note notice controller.log }

/-- The configured reference clock, or the device's own. -/
def referenceClock (controller : Controller σ ℓ) : Hertz :=
  if controller.config.reference = 0 then
    Device.referenceClock controller.device
  else controller.config.reference

/-- Makes SCL as fast as `target` allows, at the configured ratio. -/
def setBusFrequency (controller : Controller σ ℓ) (target : Hertz) :
    Controller σ ℓ :=
  let ratio := controller.config.ratio
  let divider := Clock.divider controller.referenceClock target ratio
  controller.perform [.setClockRatio ratio, .setClockDivider divider]

def busFrequency (controller : Controller σ ℓ) : Hertz :=
  Clock.frequency controller.referenceClock
    (Device.clockDivider controller.device)
    (Device.clockRatio controller.device)

/-- Sets the device up as configured.  It is off meanwhile, and whatever ran
before can raise no more events. -/
def bringUp (controller : Controller σ ℓ) : Controller σ ℓ :=
  let config := controller.config
  let quiet := controller.perform
    [.enable false, .disableInterrupts .all, .clearInterrupts .all,
      .setControllerMode config.controllerMode]
  let ready := (quiet.setBusFrequency config.target).perform
    [.enable config.enable]
  ready.note (.busFrequency ready.busFrequency)

/-- Begins `sequence` in place of `transfer`, if it can be run. -/
def start (controller : Controller σ ℓ) (transfer : Transfer)
    (sequence : Sequence) : Progress (Controller σ ℓ) :=
  let begun := transfer.start sequence controller.device
  let notice : Notice :=
    if begun.outcome = .usageFault then
      .rejected sequence.address sequence.flags
    else .started sequence.address sequence.flags
  { begun with host := { controller with device := begun.host }.note notice }

/-- Handles one event of `transfer`, and notes it if that was the last. -/
def advance (controller : Controller σ ℓ) (transfer : Transfer) :
    Progress (Controller σ ℓ) :=
  let stepped := transfer.step controller.device
  let host := { controller with device := stepped.host }
  { stepped with
    host :=
      match stepped.outcome with
      | .inProgress => host
      | .done => host.note .finished
      | outcome => host.note (.failed outcome) }

/-- Leaves a transfer that does not come to an end. -/
def giveUp (controller : Controller σ ℓ) : Controller σ ℓ :=
  (controller.perform (.abort :: Transfer.closing)).note .timedOut

/-- Polls until the transfer ends or as many polls as `budget` allows were in
vain; at least one is made.  Nothing comes back if `patience` polls do not
settle it. -/
def drive (budget : Option UInt32) :
    Nat → UInt32 → Transfer → Controller σ ℓ →
      Option (Completion Transfer σ ℓ)
  | 0, _, _, _ => none
  | patience + 1, polls, transfer, controller =>
    let polled := controller.advance transfer
    match polled.result? with
    | some result => some ⟨result, polled.transfer, polled.host⟩
    | none =>
      match budget with
      | none => drive budget patience polls polled.transfer polled.host
      | some limit =>
        if polls + 1 ≥ limit then
          some ⟨.error .timeout, polled.transfer, polled.host.giveUp⟩
        else drive budget patience (polls + 1) polled.transfer polled.host

/-- Runs `sequence` to its end on a transfer of its own and hands it back with
whatever was received.  `patience` bounds the polls of a caller that has set
no budget. -/
def runSequence (controller : Controller σ ℓ) (patience : Nat)
    (budget : Option UInt32) (sequence : Sequence) :
    Option (Completion Sequence σ ℓ) :=
  let begun := controller.start {} sequence
  match Error.ofOutcome? begun.outcome begun.transfer.nackSource with
  | some error => some ⟨.error error, sequence, begun.host⟩
  | none =>
    (drive budget patience 0 begun.transfer begun.host).map fun ended =>
      { ended with handedBack := ended.handedBack.held.getD sequence }

end Controller

end TwoWire
