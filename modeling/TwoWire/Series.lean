/-
The two silicon generations that carry the controller.  They run the same
protocol and differ in where their registers lie and how fast their standard
mode is.
-/
import TwoWire.Clock

namespace TwoWire

inductive Series where
  | one
  | two
deriving DecidableEq, Repr

namespace Series

/-- The fastest standard mode clock.  The first generation is characterised
a little below the bus limit. -/
def standardMode : Series → Hertz
  | one => 92000
  | two => 100000

/-- The fastest fast mode clock, at the asymmetric ratio. -/
def fastMode : Hertz :=
  392157

/-- The fastest fast mode plus clock, at the fast ratio. -/
def fastModePlus : Hertz :=
  987167

/-- Where the two instances of the peripheral are mapped. -/
def baseAddresses : Series → List Nat
  | one => [0x4000c000, 0x4000c400]
  | two => [0x4a010000, 0x40068000]

end Series

end TwoWire
