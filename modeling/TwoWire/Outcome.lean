/-
What comes of a transfer.

An `Outcome` is what a step reports: the transfer goes on, is done, or failed
in one of five ways.  An `Error` is what a caller of a whole operation gets: a
failed outcome, or one of the two failures that only whole operations have.
-/

namespace TwoWire

/-- What was on the bus when the target did not acknowledge it. -/
inductive NackSource where
  | address
  | data
  | unknown
deriving DecidableEq, Repr

def NackSource.name : NackSource → String
  | address => "Address"
  | data => "Data"
  | unknown => "Unknown"

/-- What one step of a transfer reports. -/
inductive Outcome where
  | inProgress
  | done
  /-- The target did not acknowledge a byte. -/
  | nack
  /-- A start or stop condition where none belongs. -/
  | busError
  /-- Another controller won the bus. -/
  | arbitrationLost
  /-- The sequence is not one that can be run. -/
  | usageFault
  /-- There was no transfer to step. -/
  | softwareFault
deriving DecidableEq, Repr

namespace Outcome

/-- Positive while the transfer goes on, zero for success, negative for a
failure. -/
def code : Outcome → Int
  | inProgress => 1
  | done => 0
  | nack => -1
  | busError => -2
  | arbitrationLost => -3
  | usageFault => -4
  | softwareFault => -5

def name : Outcome → String
  | inProgress => "InProgress"
  | done => "Done"
  | nack => "Nack"
  | busError => "BusErr"
  | arbitrationLost => "ArbLost"
  | usageFault => "UsageFault"
  | softwareFault => "SwFault"

/-- No further step belongs to the transfer. -/
def isTerminal (outcome : Outcome) : Bool :=
  outcome.code ≤ 0

def isFailure (outcome : Outcome) : Bool :=
  outcome.code < 0

variable {outcome : Outcome}

theorem isTerminal_iff : outcome.isTerminal = true ↔ outcome ≠ .inProgress := by
  cases outcome <;> decide

theorem isFailure_iff :
    outcome.isFailure = true ↔ outcome ≠ .inProgress ∧ outcome ≠ .done := by
  cases outcome <;> decide

end Outcome

/-- Why an operation on the bus failed. -/
inductive Error where
  | nack (source : NackSource)
  | busError
  | arbitrationLost
  | usageFault
  | softwareFault
  /-- The polls that the caller allowed ran out. -/
  | timeout
  /-- No sequence does what the list of operations asks for. -/
  | unsupportedOperation
deriving DecidableEq, Repr

namespace Error

/-- The broad class of an error, for callers that know nothing of this
controller. -/
inductive Kind where
  | noAcknowledge (source : NackSource)
  | bus
  | arbitrationLoss
  | other
deriving DecidableEq, Repr

def kind : Error → Kind
  | nack source => .noAcknowledge source
  | busError => .bus
  | arbitrationLost => .arbitrationLoss
  | _ => .other

def message : Error → String
  | nack source => "nack (" ++ source.name ++ ")"
  | busError => "bus error"
  | arbitrationLost => "arbitration lost"
  | usageFault => "invalid transfer sequence"
  | softwareFault => "no active transfer"
  | timeout => "transfer timed out"
  | unsupportedOperation => "unsupported operation sequence"

/-- The error of a failed outcome; `source` is where a missing acknowledge was
noticed. -/
def ofOutcome? (outcome : Outcome) (source : NackSource) : Option Error :=
  match outcome with
  | .inProgress | .done => none
  | .nack => some (.nack source)
  | .busError => some .busError
  | .arbitrationLost => some .arbitrationLost
  | .usageFault => some .usageFault
  | .softwareFault => some .softwareFault

theorem ofOutcome?_isSome (outcome : Outcome) (source : NackSource) :
    (ofOutcome? outcome source).isSome = outcome.isFailure := by
  cases outcome <;> rfl

end Error

end TwoWire
