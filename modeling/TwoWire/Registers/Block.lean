/-
The controller as a block of memory-mapped registers.

Every call is a list of words to write, computed from what the block holds
before the call; performing it stores them in order.  The memory is plain: a
word keeps what was written to it, and what the hardware would make of that is
not simulated.
-/
import TwoWire.Device
import TwoWire.Registers.Layout

namespace TwoWire.Registers

/-- The word at each byte offset. -/
abbrev Memory := Nat → Word

/-- One word on its way to the block. -/
structure Write where
  offset : Nat
  value : Word
deriving DecidableEq, Repr

def Memory.store (memory : Memory) (write : Write) : Memory :=
  fun offset => if offset = write.offset then write.value else memory offset

def Memory.storeAll (memory : Memory) (writes : List Write) : Memory :=
  writes.foldl Memory.store memory

@[simp]
theorem Memory.store_apply (memory : Memory) (write : Write) (offset : Nat) :
    memory.store write offset =
      if offset = write.offset then write.value else memory offset :=
  rfl

theorem Memory.storeAll_of_forall_ne {memory : Memory} {writes : List Write}
    {offset : Nat} (h : ∀ write ∈ writes, offset ≠ write.offset) :
    memory.storeAll writes offset = memory offset := by
  induction writes generalizing memory with
  | nil => rfl
  | cons write rest ih =>
      rw [storeAll, List.foldl_cons, ← storeAll,
        ih fun other hother => h other (List.mem_cons_of_mem write hother),
        store_apply, if_neg (h write List.mem_cons_self)]

/-- Turns the peripheral on or off. -/
def putEnabled (on : Bool) (memory : Memory) : Series → Write
  | .one =>
    let control := (layout .one).control
    ⟨control, putBits Control.enable on (memory control)⟩
  | .two => ⟨enableRegister, if on then 1 else 0⟩

/-- Enables or disables interrupt sources, and leaves the others alone. -/
def putSources (mask : Word) (on : Bool) (memory : Memory) : Series → Write
  | .one =>
    let enables := (layout .one).enables
    ⟨enables, putBits mask on (memory enables)⟩
  | .two =>
    ⟨(layout .two).enables + if on then setWindow else clearWindow, mask⟩

/-- Raises or clears interrupt flags, and leaves the others alone. -/
def putFlags (mask : Word) (on : Bool) : Series → Write
  | .one => ⟨if on then flagSet else flagClear, mask⟩
  | .two =>
    ⟨(layout .two).flags + if on then setWindow else clearWindow, mask⟩

/-- What a call writes to a block that holds `memory`. -/
def writes (series : Series) (memory : Memory) (call : Call) : List Write :=
  let registers := layout series
  let control (change : Word → Word) : Write :=
    ⟨registers.control, change (memory registers.control)⟩
  let command (word : Word) : Write := ⟨registers.command, word⟩
  let transmit (byte : UInt8) : Write :=
    ⟨registers.transmitData, byte.toBitVec.setWidth 32⟩
  match call with
  | .enable on => [putEnabled on memory series]
  | .reset =>
    [putEnabled false memory series,
      putSources Interrupts.all.bits false memory series,
      putFlags Interrupts.all.bits false series,
      ⟨registers.control, 0⟩,
      ⟨registers.clockDivider, 0⟩,
      command (Command.abort ||| Command.clearTransmit ||| Command.clearPending)]
  | .setControllerMode on => [control (putBits Control.target (!on))]
  | .setClockRatio ratio => [control (putRatio ratio)]
  | .setClockDivider divider =>
    [⟨registers.clockDivider, divider.toBitVec.setWidth 32 &&& dividerField⟩]
  | .enableInterrupts set => [putSources set.bits true memory series]
  | .disableInterrupts set => [putSources set.bits false memory series]
  | .clearInterrupts set => [putFlags set.bits false series]
  | .setInterrupts set => [putFlags set.bits true series]
  | .writeAddress byte => [transmit byte]
  | .writeData byte => [transmit byte]
  | .readData => []
  | .start => [command Command.start]
  | .repeatedStart => [command Command.start]
  | .stop => [command Command.stop]
  | .ack => [command Command.ack]
  | .nack => [command Command.nack]
  | .abort => [command Command.abort]
  | .clearTransmit => [command Command.clearTransmit]

/-- The registers of one peripheral. -/
structure Block (series : Series) where
  memory : Memory := fun _ => 0
  /-- The clock that the clock tree feeds it. -/
  referenceClock : Hertz

namespace Block

variable {series : Series}

/-- The registers of the instances that a chip of this generation has. -/
def instances (series : Series) (referenceClock : Hertz) :
    List (Nat × Block series) :=
  series.baseAddresses.map fun base => (base, { referenceClock })

instance : Device (Block series) where
  perform call block :=
    { block with
      memory := block.memory.storeAll (writes series block.memory call) }
  received block :=
    ⟨(block.memory (layout series).receiveData &&& dataField).setWidth 8⟩
  clockRatio block := ratioOf (block.memory (layout series).control)
  clockDivider block :=
    ⟨(block.memory (layout series).clockDivider &&& dividerField).setWidth 16⟩
  referenceClock block := block.referenceClock
  enabled block := .ofWord (block.memory (layout series).enables)
  pending block := .ofWord (block.memory (layout series).flags)
  busy block := block.memory (layout series).state &&& busyState ≠ 0

end Block

end TwoWire.Registers
