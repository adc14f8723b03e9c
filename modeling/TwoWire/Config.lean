/-
What a controller is asked to be: its role, whether it runs, and its clock.
-/
import TwoWire.Series

namespace TwoWire

structure Config where
  /-- Whether the peripheral runs once it is brought up. -/
  enable : Bool := true
  /-- Controller of the bus, or one of its targets. -/
  controllerMode : Bool := true
  /-- The clock that the divider starts from; zero leaves it to the device. -/
  reference : Hertz := 0
  /-- What SCL must not exceed. -/
  target : Hertz
  ratio : ClockRatio := .standard
deriving DecidableEq, Repr

namespace Config

/-- Standard mode on a running controller. -/
def standard (series : Series) : Config where
  target := series.standardMode

def inFastMode (config : Config) : Config :=
  { config with ratio := .asymmetric, target := Series.fastMode }

end Config

end TwoWire
