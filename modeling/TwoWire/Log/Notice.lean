/-
What a controller has to say in its log.
-/
import TwoWire.Clock
import TwoWire.Log.Basic
import TwoWire.Outcome
import TwoWire.Sequence

namespace TwoWire.Log

inductive Notice where
  | busFrequency (scl : Hertz)
  | started (address : UInt16) (flags : Sequence.Flags)
  /-- A sequence that cannot be run. -/
  | rejected (address : UInt16) (flags : Sequence.Flags)
  | finished
  | failed (outcome : Outcome)
  | timedOut
  | unsupported
deriving DecidableEq, Repr

namespace Notice

/-- Lower-case hexadecimal digits after `0x`. -/
def hex (number : Nat) : String :=
  "0x" ++ String.ofList (Nat.toDigits 16 number)

def level : Notice → Level
  | busFrequency _ => .info
  | started .. | finished => .debug
  | rejected .. | failed _ | timedOut | unsupported => .error

def text : Notice → String
  | busFrequency scl => "i2c: scl " ++ toString scl.toNat ++ " Hz"
  | started address flags => "i2c: start " ++ target address flags
  | rejected address flags => "i2c: bad sequence " ++ target address flags
  | finished => "i2c: done"
  | failed outcome => "i2c: failed " ++ outcome.name
  | timedOut => "i2c: timeout"
  | unsupported => "i2c: unsupported operations"
where
  target (address : UInt16) (flags : Sequence.Flags) : String :=
    hex address.toNat ++ " " ++ hex flags.bits.toNat

end Notice

/-- Hands a notice to a logger. -/
def note {ℓ : Type} [Logger ℓ] (notice : Notice) (logger : ℓ) : ℓ :=
  Logger.log notice.level notice.text logger

end TwoWire.Log
