/-
Where the registers of the controller lie, and what their bits mean.

The second generation gave the enable bit a register of its own and a window
each for setting and for clearing the bits of every register.  The first has
separate words that raise and clear flags, and no way to change some enable
bits without writing them all.
-/
import TwoWire.Series

namespace TwoWire.Registers

abbrev Word := BitVec 32

/-- Byte offsets of the registers that both generations have. -/
structure Layout where
  control : Nat
  command : Nat
  state : Nat
  clockDivider : Nat
  receiveData : Nat
  transmitData : Nat
  flags : Nat
  enables : Nat
deriving DecidableEq, Repr

def layout : Series → Layout
  | .one =>
    { control := 0x00
      command := 0x04
      state := 0x08
      clockDivider := 0x10
      receiveData := 0x1c
      transmitData := 0x2c
      flags := 0x34
      enables := 0x40 }
  | .two =>
    { control := 0x08
      command := 0x0c
      state := 0x10
      clockDivider := 0x18
      receiveData := 0x24
      transmitData := 0x34
      flags := 0x3c
      enables := 0x40 }

/-- First generation: bits written here are raised in the flags. -/
def flagSet : Nat :=
  0x38

/-- First generation: bits written here are cleared in the flags. -/
def flagClear : Nat :=
  0x3c

/-- Second generation: the register of the enable bit. -/
def enableRegister : Nat :=
  0x04

/-- Second generation: distance to the window that sets bits. -/
def setWindow : Nat :=
  0x1000

/-- Second generation: distance to the window that clears bits. -/
def clearWindow : Nat :=
  0x2000

namespace Control

/-- First generation only. -/
def enable : Word :=
  0x001

/-- The peripheral is a target, not the controller. -/
def target : Word :=
  0x002

def ratio : Word :=
  0x300

end Control

namespace Command

def start : Word :=
  0x01

def stop : Word :=
  0x02

def ack : Word :=
  0x04

def nack : Word :=
  0x08

def abort : Word :=
  0x20

def clearTransmit : Word :=
  0x40

/-- Drops commands that wait for the bus. -/
def clearPending : Word :=
  0x80

end Command

def busyState : Word :=
  0x1

def dividerField : Word :=
  0x1ff

def dataField : Word :=
  0xff

/-- Sets or clears the bits of `mask`. -/
def putBits (mask : Word) (on : Bool) (word : Word) : Word :=
  if on then word ||| mask else word &&& ~~~mask

/-- The control word with another clock ratio. -/
def putRatio (ratio : ClockRatio) (word : Word) : Word :=
  (word &&& ~~~Control.ratio) ||| (BitVec.ofNat 32 ratio.code <<< 8)

/-- The clock ratio of a control word.  The code that means nothing counts as
the fast one. -/
def ratioOf (word : Word) : ClockRatio :=
  match ((word &&& Control.ratio) >>> 8).toNat with
  | 0 => .standard
  | 1 => .asymmetric
  | _ => .fast

end TwoWire.Registers
