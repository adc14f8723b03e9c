/-
Descriptions of what to do on the bus between a start and a stop condition.

A sequence has an address, flags that give its kind and the width of the
address, and two buffers.  Nothing keeps a caller from describing something
that cannot be run: `Sequence.kind?` is the judge of that.
-/

namespace TwoWire

namespace Sequence

/-- The four things a sequence can do. -/
inductive Kind where
  /-- Send the first buffer. -/
  | write
  /-- Fill the first buffer. -/
  | read
  /-- Send the first buffer, start again and fill the second. -/
  | writeRead
  /-- Send the first buffer and go on with the second. -/
  | writeWrite
deriving DecidableEq, Repr

/-- Kind and address width as a word.  Not every word means something. -/
@[ext]
structure Flags where
  bits : BitVec 16
deriving DecidableEq, Repr

namespace Flags

instance : Union Flags where
  union a b := ⟨a.bits ||| b.bits⟩

def ofKind : Kind → Flags
  | .write => ⟨0x01⟩
  | .read => ⟨0x02⟩
  | .writeRead => ⟨0x04⟩
  | .writeWrite => ⟨0x08⟩

def tenBitAddress : Flags :=
  ⟨0x10⟩

/-- Every bit with a meaning. -/
def all : Flags :=
  ⟨0x1f⟩

/-- The bits that give the kind. -/
def kinds : Flags :=
  ⟨0x0f⟩

/-- The kind, if exactly one kind and nothing unknown is set. -/
def kind? (flags : Flags) : Option Kind :=
  if flags.bits &&& ~~~all.bits = 0 then
    [Kind.write, .read, .writeRead, .writeWrite].find? fun kind =>
      flags.bits &&& kinds.bits = (ofKind kind).bits
  else none

def isTenBit (flags : Flags) : Bool :=
  flags.bits &&& tenBitAddress.bits = tenBitAddress.bits

end Flags

/-- Bytes to send, or room for bytes to come. -/
inductive Buffer where
  | transmit (bytes : List UInt8)
  | receive (bytes : List UInt8)
deriving DecidableEq, Repr

namespace Buffer

def bytes : Buffer → List UInt8
  | transmit bytes => bytes
  | receive bytes => bytes

def empty : Buffer :=
  .transmit []

def isTransmit : Buffer → Bool
  | transmit _ => true
  | receive _ => false

def canReceive : Buffer → Bool
  | transmit _ => false
  | receive bytes => !bytes.isEmpty

end Buffer

/-- Which of the two buffers. -/
inductive Slot where
  | first
  | second
deriving DecidableEq, Repr

end Sequence

open Sequence in
structure Sequence where
  address : UInt16
  flags : Flags
  first : Buffer := .empty
  second : Buffer := .empty
deriving DecidableEq, Repr

namespace Sequence

def write (address : UInt16) (bytes : List UInt8) : Sequence where
  address
  flags := .ofKind .write
  first := .transmit bytes

def read (address : UInt16) (buffer : List UInt8) : Sequence where
  address
  flags := .ofKind .read
  first := .receive buffer

def writeRead (address : UInt16) (bytes buffer : List UInt8) : Sequence where
  address
  flags := .ofKind .writeRead
  first := .transmit bytes
  second := .receive buffer

def writeWrite (address : UInt16) (bytes more : List UInt8) : Sequence where
  address
  flags := .ofKind .writeWrite
  first := .transmit bytes
  second := .transmit more

/-- The same sequence to a target with a ten-bit address. -/
def toTenBit (sequence : Sequence) : Sequence :=
  { sequence with flags := sequence.flags ∪ .tenBitAddress }

def isTenBit (sequence : Sequence) : Bool :=
  sequence.flags.isTenBit

/-- The largest address of the width in use. -/
def maxAddress (sequence : Sequence) : UInt16 :=
  if sequence.isTenBit then 0x3ff else 0x7f

/-- Whether the buffers are what a sequence of this kind needs. -/
def fits (sequence : Sequence) : Kind → Bool
  | .write => sequence.first.isTransmit
  | .read => sequence.first.canReceive
  | .writeRead => sequence.first.isTransmit && sequence.second.canReceive
  | .writeWrite => sequence.first.isTransmit && sequence.second.isTransmit

/-- The kind of a sequence that can be run, and nothing for any other. -/
def kind? (sequence : Sequence) : Option Kind :=
  sequence.flags.kind?.filter fun kind =>
    sequence.address ≤ sequence.maxAddress && sequence.fits kind

/-- The byte after a start condition.  A ten-bit address begins with `11110`
and its two high bits; `reading` sets the direction bit. -/
def header (sequence : Sequence) (reading : Bool) : UInt8 :=
  let direction := reading.toUInt8
  if sequence.isTenBit then
    (0xf0 : UInt8) ||| ((sequence.address >>> 7) &&& 6).toUInt8 ||| direction
  else ((sequence.address &&& 0x7f).toUInt8 <<< 1) ||| direction

/-- The rest of a ten-bit address. -/
def lowAddress (sequence : Sequence) : UInt8 :=
  (sequence.address &&& 0xff).toUInt8

def buffer (sequence : Sequence) : Slot → Buffer
  | .first => sequence.first
  | .second => sequence.second

/-- Puts another buffer into a slot. -/
def setBuffer (sequence : Sequence) (slot : Slot) (buffer : Buffer) : Sequence :=
  match slot with
  | .first => { sequence with first := buffer }
  | .second => { sequence with second := buffer }

@[simp]
theorem buffer_setBuffer_self (sequence : Sequence) (slot : Slot)
    (buffer : Buffer) : (sequence.setBuffer slot buffer).buffer slot = buffer := by
  cases slot <;> rfl

end Sequence

end TwoWire
