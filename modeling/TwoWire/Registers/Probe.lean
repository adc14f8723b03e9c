/-
A register block under observation.

The probe stands between a caller and a block of plain memory.  It lists the
words that each call changed, and feeds the receive register before each read.
Registers that only take writes hold a marker at every call, so that a write
shows even where it repeats the one before.
-/
import TwoWire.Registers.Block

namespace TwoWire.Registers

/-- What a register that only takes writes holds before a call. -/
def marker : Word :=
  0xdeadbeef

/-- Whether a word only takes writes: commands, data to send, and the words
that set or clear bits elsewhere. -/
def takesOnlyWrites (offset : Nat) : Series → Bool
  | .one =>
    [(layout .one).command, (layout .one).transmitData, flagSet,
      flagClear].contains offset
  | .two =>
    [(layout .two).command, (layout .two).transmitData].contains offset ||
      setWindow ≤ offset

/-- The memory as a call finds it. -/
def Memory.marked (memory : Memory) (series : Series) : Memory :=
  fun offset => if takesOnlyWrites offset series then marker else memory offset

/-- Puts a write where its offset belongs, over an earlier one to the same
word. -/
def Write.insertInto (write : Write) : List Write → List Write
  | [] => [write]
  | other :: rest =>
    if write.offset < other.offset then write :: other :: rest
    else if write.offset = other.offset then write :: rest
    else other :: insertInto write rest

/-- The words that `writes` changes, in ascending order. -/
def Memory.changes (memory : Memory) (writes : List Write) : List Write :=
  (writes.foldl (fun kept write => write.insertInto kept) []).filter
    fun write => write.value ≠ memory write.offset

/-- One call, the byte that it took, and the words that it changed. -/
structure Access where
  call : Call
  byte : Option UInt8
  changes : List Write
deriving DecidableEq, Repr

structure Probe (series : Series) where
  block : Block series
  /-- Words yet to come in, for one read each. -/
  feed : List Word := []
  /-- What was done to the block, in order. -/
  accesses : Array Access := #[]

namespace Probe

variable {series : Series}

/-- Stores one word of the block from outside. -/
def poke (offset : Nat) (value : Word) (probe : Probe series) : Probe series :=
  { probe with
    block.memory := probe.block.memory.store ⟨offset, value⟩ }

/-- Lets the next word that was fed come in. -/
def refill (probe : Probe series) : Probe series :=
  match probe.feed with
  | [] => probe
  | word :: rest =>
    { probe.poke (layout series).receiveData word with feed := rest }

/-- Readies the block for a call. -/
def before (call : Call) (probe : Probe series) : Probe series :=
  if call = .readData then probe.refill else probe

def perform (call : Call) (probe : Probe series) : Probe series :=
  let ready := probe.before call
  let memory := ready.block.memory.marked series
  let byte := if call = .readData then some (Device.received ready.block)
    else none
  let access := ⟨call, byte, memory.changes (writes series memory call)⟩
  { ready with
    block := Device.perform call ready.block
    accesses := ready.accesses.push access }

instance : Device (Probe series) where
  perform := perform
  received probe := Device.received (probe.before .readData).block
  clockRatio probe := Device.clockRatio probe.block
  clockDivider probe := Device.clockDivider probe.block
  referenceClock probe := Device.referenceClock probe.block
  enabled probe := Device.enabled probe.block
  pending probe := Device.pending probe.block
  busy probe := Device.busy probe.block

end Probe

end TwoWire.Registers
