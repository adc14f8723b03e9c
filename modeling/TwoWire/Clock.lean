/-
How the controller makes its bus clock.

A period of SCL takes a low and a high phase of `divider + 1` rounds each, and
eight cycles of the reference clock that synchronise the bus:

  scl = reference / (cycles * (divider + 1) + 8).

`Clock.divider` goes the other way: the least divider that keeps SCL at or
under a requested frequency, within the nine bits the register has for it.
-/

namespace TwoWire

abbrev Hertz := UInt32

/-- How SCL splits its period into a low and a high phase. -/
inductive ClockRatio where
  /-- Low and high are equally long, 4:4. -/
  | standard
  /-- Low is twice as long as high, 6:3. -/
  | asymmetric
  /-- Low and high stand 11:6, for the fastest buses. -/
  | fast
deriving DecidableEq, Repr

/-- The code of a ratio in the control register. -/
def ClockRatio.code : ClockRatio → Nat
  | standard => 0
  | asymmetric => 1
  | fast => 2

/-- Divided clock cycles in one period of SCL. -/
def ClockRatio.cycles : ClockRatio → UInt32
  | standard => 8
  | asymmetric => 9
  | fast => 17

namespace Clock

def maxDivider : UInt16 :=
  0x1ff

/-- Reference cycles in a period that no divider stretches. -/
def syncCycles : UInt32 :=
  8

def ceilDiv (a b : UInt64) : UInt64 :=
  if a % b = 0 then a / b else a / b + 1

/-- The least divider with which SCL does not exceed `scl`.  A request for no
clock at all gets the slowest there is, as does one that the largest divider
cannot meet. -/
def divider (reference scl : Hertz) (ratio : ClockRatio) : UInt16 :=
  let sync := syncCycles.toUInt64 * scl.toUInt64
  if scl = 0 then maxDivider
  else if reference.toUInt64 < sync then 0
  else
    let rounds := ceilDiv (reference.toUInt64 - sync)
      (ratio.cycles.toUInt64 * scl.toUInt64)
    let least := if rounds = 0 then 0 else rounds - 1
    if least < maxDivider.toUInt64 then least.toUInt16 else maxDivider

/-- SCL with a given divider, rounded down to whole hertz. -/
def frequency (reference : Hertz) (divider : UInt16) (ratio : ClockRatio) :
    Hertz :=
  reference / (ratio.cycles * (divider.toUInt32 + 1) + syncCycles)

end Clock

end TwoWire
