/-
Lists of operations on one target, as portable code asks for them.

A transaction with one of four shapes is a sequence and runs as such.  Any
other shape is turned down before the bus sees anything of it.
-/
import TwoWire.Controller

namespace TwoWire

/-- Whom a transaction is with; the width of the address is the target's. -/
inductive Target where
  | sevenBit (address : UInt8)
  | tenBit (address : UInt16)
deriving DecidableEq, Repr

inductive Operation where
  | write (bytes : List UInt8)
  | read (buffer : List UInt8)
deriving DecidableEq, Repr

/-- The sequence that does what the operations say. -/
def Sequence.ofOperations? (address : UInt16) :
    List Operation → Option Sequence
  | [.write bytes] => some (.write address bytes)
  | [.read buffer] => some (.read address buffer)
  | [.write bytes, .read buffer] => some (.writeRead address bytes buffer)
  | [.write bytes, .write more] => some (.writeWrite address bytes more)
  | _ => none

/-- The sequence that does what the operations say to this target. -/
def Target.sequence? (operations : List Operation) :
    Target → Option Sequence
  | sevenBit address => Sequence.ofOperations? address.toUInt16 operations
  | tenBit address =>
    (Sequence.ofOperations? address operations).map Sequence.toTenBit

/-- The operation that a buffer was made for. -/
def Operation.ofBuffer : Sequence.Buffer → Operation
  | .transmit bytes => .write bytes
  | .receive buffer => .read buffer

/-- The first operations of a sequence, as many as it was made from. -/
def Sequence.operations (sequence : Sequence) (count : Nat) : List Operation :=
  [sequence.first, sequence.second].take count |>.map Operation.ofBuffer

theorem Sequence.operations_of_ofOperations? {address : UInt16}
    {operations : List Operation} {sequence : Sequence}
    (h : ofOperations? address operations = some sequence) :
    sequence.operations operations.length = operations := by
  unfold ofOperations? at h
  split at h <;> cases h <;> rfl

namespace Controller

open Log (Logger)

variable {σ ℓ : Type} [Device σ] [Logger ℓ]

/-- Runs the operations in one go and hands them back with what was read.  No
operations need no bus. -/
def transaction (controller : Controller σ ℓ) (patience : Nat)
    (target : Target) (operations : List Operation) :
    Option (Completion (List Operation) σ ℓ) :=
  if operations = [] then some ⟨.ok (), [], controller⟩
  else
    match target.sequence? operations with
    | none =>
      some ⟨.error .unsupportedOperation, operations,
        controller.note .unsupported⟩
    | some sequence =>
      (controller.runSequence patience none sequence).map fun ended =>
        { ended with
          handedBack := ended.handedBack.operations operations.length }

def read (controller : Controller σ ℓ) (patience : Nat) (target : Target)
    (buffer : List UInt8) : Option (Completion (List Operation) σ ℓ) :=
  controller.transaction patience target [.read buffer]

def write (controller : Controller σ ℓ) (patience : Nat) (target : Target)
    (bytes : List UInt8) : Option (Completion (List Operation) σ ℓ) :=
  controller.transaction patience target [.write bytes]

def writeRead (controller : Controller σ ℓ) (patience : Nat) (target : Target)
    (bytes buffer : List UInt8) : Option (Completion (List Operation) σ ℓ) :=
  controller.transaction patience target [.write bytes, .read buffer]

end Controller

end TwoWire
