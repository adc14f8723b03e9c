/-
A simulated peripheral for trying things out without silicon.

By itself the bench raises no flags: whoever uses it does.  With a responder it
plays a target too.  Every byte sent is acknowledged, except the addresses and
the one data byte it was told to refuse, and the bytes to be read are offered
one at a time.
-/
import TwoWire.Device

namespace TwoWire

structure Bench where
  pending : Interrupts := ∅
  enabled : Interrupts := ∅
  /-- Bytes that the target has to give, next first. -/
  received : List UInt8 := []
  busy : Bool := false
  ratio : ClockRatio := .standard
  divider : UInt16 := 0
  referenceClock : Hertz := 38400000
  /-- Whether a target answers. -/
  responder : Bool := false
  /-- Address bytes that the target refuses, direction bit included. -/
  refusedAddresses : List UInt8 := []
  /-- Position of the data byte that the target refuses. -/
  refusedData : Option Nat := none
  /-- Data bytes that the target was sent so far. -/
  dataWritten : Nat := 0
deriving DecidableEq, Repr

namespace Bench

/-- What the target gives when it has nothing to give: nobody pulls the data
line low. -/
def idleByte : UInt8 :=
  0xff

/-- A bench whose target gives the bytes of `received`. -/
def withResponder (received : List UInt8) : Bench :=
  { responder := true, received }

def raise (bench : Bench) (set : Interrupts) : Bench :=
  { bench with pending := bench.pending ∪ set }

def lower (bench : Bench) (set : Interrupts) : Bench :=
  { bench with pending := bench.pending \ set }

/-- The target puts its next byte on the bus, if it has one. -/
def offer (bench : Bench) : Bench :=
  if bench.responder && !bench.received.isEmpty then
    bench.raise {Interrupt.dataReceived}
  else bench

def answer (bench : Bench) (refuse : Bool) : Bench :=
  bench.raise
    (if refuse then {Interrupt.nackReceived} else {Interrupt.ackReceived})

/-- The target is addressed, and begins to give where it is asked to. -/
def takeAddress (bench : Bench) (byte : UInt8) : Bench :=
  if !bench.responder then bench
  else if byte ∈ bench.refusedAddresses then bench.answer true
  else if byte &&& 1 = 1 then (bench.answer false).offer
  else bench.answer false

def takeData (bench : Bench) : Bench :=
  if !bench.responder then bench
  else
    { bench with dataWritten := bench.dataWritten + 1 }.answer
      (bench.refusedData = some bench.dataWritten)

def perform (call : Call) (bench : Bench) : Bench :=
  match call with
  | .enable _ | .setControllerMode _ => bench
  | .reset =>
    { bench with pending := ∅, enabled := ∅, divider := 0, ratio := .standard }
  | .setClockRatio ratio => { bench with ratio }
  | .setClockDivider divider => { bench with divider }
  | .enableInterrupts set => { bench with enabled := bench.enabled ∪ set }
  | .disableInterrupts set => { bench with enabled := bench.enabled \ set }
  | .clearInterrupts set => bench.lower set
  | .setInterrupts set => bench.raise set
  | .writeAddress byte => bench.takeAddress byte
  | .writeData _ => bench.takeData
  | .readData =>
    { bench with received := bench.received.tail }.lower
      {Interrupt.dataReceived}
  | .start => { bench with busy := true }
  | .stop | .abort => { bench with busy := false }
  | .ack => bench.offer
  | .repeatedStart | .nack | .clearTransmit => bench

instance : Device Bench where
  perform := perform
  received bench := bench.received.headD idleByte
  clockRatio := ratio
  clockDivider := divider
  referenceClock := referenceClock
  enabled := enabled
  pending := pending
  busy := busy

end Bench

end TwoWire
