/-
Log records, and the interface to whatever takes them.
-/

namespace TwoWire.Log

/-- How much a record matters, in ascending order. -/
inductive Level where
  | debug
  | info
  | error
deriving DecidableEq, Repr

def Level.rank : Level → Nat
  | debug => 0
  | info => 1
  | error => 2

structure Record where
  level : Level
  message : String
deriving DecidableEq, Repr

/-- Something that takes log records and may keep them. -/
class Logger (ℓ : Type) where
  log : Level → String → ℓ → ℓ

namespace Logger

variable {ℓ : Type} [Logger ℓ]

def debug (message : String) (logger : ℓ) : ℓ :=
  log .debug message logger

def info (message : String) (logger : ℓ) : ℓ :=
  log .info message logger

def error (message : String) (logger : ℓ) : ℓ :=
  log .error message logger

end Logger

/-- The logger that keeps nothing. -/
structure Silent where
deriving DecidableEq, Repr

instance : Logger Silent where
  log _ _ logger := logger

/-- A logger on loan.  Whatever it is given goes to its owner's. -/
structure Lent (ℓ : Type) where
  owned : ℓ
deriving Repr

instance {ℓ : Type} [Logger ℓ] : Logger (Lent ℓ) where
  log level message lent := { owned := Logger.log level message lent.owned }

end TwoWire.Log
