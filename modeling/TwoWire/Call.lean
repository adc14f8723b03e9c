/-
What can be asked of a bus controller, as data.

The sequencing logic answers with lists of calls instead of acting, and a
device is whatever knows how to perform them.
-/
import TwoWire.Clock
import TwoWire.Interrupt

namespace TwoWire

inductive Call where
  | enable (on : Bool)
  /-- Puts every register back to what it holds after power-up. -/
  | reset
  | setControllerMode (on : Bool)
  | setClockRatio (ratio : ClockRatio)
  | setClockDivider (divider : UInt16)
  | enableInterrupts (set : Interrupts)
  | disableInterrupts (set : Interrupts)
  | clearInterrupts (set : Interrupts)
  /-- Raises flags as if the hardware had. -/
  | setInterrupts (set : Interrupts)
  /-- Loads an address byte, direction bit included. -/
  | writeAddress (byte : UInt8)
  | writeData (byte : UInt8)
  /-- Takes the byte that came in. -/
  | readData
  | start
  /-- A start condition while the bus is ours. -/
  | repeatedStart
  | stop
  | ack
  | nack
  /-- Gives up what is being transmitted, and the bus. -/
  | abort
  /-- Drops what waits to be transmitted. -/
  | clearTransmit
deriving DecidableEq, Repr

/-- A call that bears on what goes over the wires: a condition, a byte or the
answer to one. -/
def Call.isOnWire : Call → Bool
  | .writeAddress _ | .writeData _ | .readData | .start | .repeatedStart
  | .stop | .ack | .nack => true
  | _ => false

end TwoWire
