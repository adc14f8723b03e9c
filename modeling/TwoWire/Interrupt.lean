/-
Interrupt sources of the bus controller and sets of them.

A set is the word that the flag and enable registers hold, one bit a source.
Membership is a bit test, so a statement about a status word talks about the
sources in it.  A word may carry bits of no source: union, intersection and
membership keep them, a difference drops them.
-/

namespace TwoWire

/-- What the controller can raise an interrupt for, in the order of the flag
bits. -/
inductive Interrupt where
  | startSent
  | repeatedStartSent
  | addressMatched
  | transmitComplete
  | transmitBufferLow
  | dataReceived
  | ackReceived
  | nackReceived
  | stopSent
  | arbitrationLost
  | busError
  | busHeld
  | transmitOverflow
  | receiveUnderflow
  | busIdleTimeout
  | clockLowTimeout
  | targetStop
  | receiveBufferFull
  | clockLowError
deriving DecidableEq, Repr

def Interrupt.bit : Interrupt → Nat
  | startSent => 0
  | repeatedStartSent => 1
  | addressMatched => 2
  | transmitComplete => 3
  | transmitBufferLow => 4
  | dataReceived => 5
  | ackReceived => 6
  | nackReceived => 7
  | stopSent => 8
  | arbitrationLost => 9
  | busError => 10
  | busHeld => 11
  | transmitOverflow => 12
  | receiveUnderflow => 13
  | busIdleTimeout => 14
  | clockLowTimeout => 15
  | targetStop => 16
  | receiveBufferFull => 17
  | clockLowError => 18

theorem Interrupt.bit_lt (source : Interrupt) : source.bit < 19 := by
  cases source <;> decide

/-- A set of interrupt sources, with whatever else the word holds. -/
@[ext]
structure Interrupts where
  bits : BitVec 32
deriving DecidableEq, Repr

namespace Interrupts

instance : Membership Interrupt Interrupts where
  mem set source := set.bits.getLsbD source.bit = true

instance (source : Interrupt) (set : Interrupts) : Decidable (source ∈ set) :=
  inferInstanceAs (Decidable (set.bits.getLsbD source.bit = true))

theorem mem_def {source : Interrupt} {set : Interrupts} :
    source ∈ set ↔ set.bits.getLsbD source.bit = true :=
  Iff.rfl

instance : EmptyCollection Interrupts where
  emptyCollection := ⟨0⟩

instance : Singleton Interrupt Interrupts where
  singleton source := ⟨BitVec.twoPow 32 source.bit⟩

instance : Union Interrupts where
  union a b := ⟨a.bits ||| b.bits⟩

instance : Inter Interrupts where
  inter a b := ⟨a.bits &&& b.bits⟩

instance : Insert Interrupt Interrupts where
  insert source set := {source} ∪ set

def all : Interrupts :=
  ⟨0x7ffff⟩

/-- The conditions after which the bus is no longer ours to use. -/
def fatal : Interrupts :=
  {.arbitrationLost, .busError}

/-- The sources a transfer is driven by. -/
def transfer : Interrupts :=
  {.ackReceived, .nackReceived, .dataReceived} ∪ fatal

/-- The sources that are not in `set`. -/
def complement (set : Interrupts) : Interrupts :=
  ⟨~~~set.bits⟩ ∩ all

/-- Bits of no source do not survive a difference. -/
instance : SDiff Interrupts where
  sdiff a b := a ∩ b.complement

/-- The sources among the bits of a register. -/
def ofWord (word : BitVec 32) : Interrupts :=
  ⟨word⟩ ∩ all

@[simp]
theorem not_mem_empty (source : Interrupt) : source ∉ (∅ : Interrupts) := by
  simp [mem_def, EmptyCollection.emptyCollection]

@[simp]
theorem mem_singleton {source other : Interrupt} :
    source ∈ ({other} : Interrupts) ↔ source = other := by
  cases source <;> cases other <;> decide

@[simp]
theorem mem_union {source : Interrupt} {a b : Interrupts} :
    source ∈ a ∪ b ↔ source ∈ a ∨ source ∈ b := by
  simp [mem_def, Union.union]

@[simp]
theorem mem_inter {source : Interrupt} {a b : Interrupts} :
    source ∈ a ∩ b ↔ source ∈ a ∧ source ∈ b := by
  simp [mem_def, Inter.inter]

@[simp]
theorem mem_insert {source other : Interrupt} {set : Interrupts} :
    source ∈ insert other set ↔ source = other ∨ source ∈ set := by
  have h : insert other set = ({other} : Interrupts) ∪ set := rfl
  simp [h]

@[simp]
theorem mem_all (source : Interrupt) : source ∈ all := by
  cases source <;> decide

@[simp]
theorem mem_complement {source : Interrupt} {set : Interrupts} :
    source ∈ set.complement ↔ source ∉ set := by
  have hbit : source.bit < 32 := Nat.lt_trans source.bit_lt (by decide)
  have hnot : source ∈ (⟨~~~set.bits⟩ : Interrupts) ↔ source ∉ set := by
    simp [mem_def, hbit]
  rw [complement, mem_inter, and_iff_left (mem_all source), hnot]

@[simp]
theorem mem_sdiff {source : Interrupt} {a b : Interrupts} :
    source ∈ a \ b ↔ source ∈ a ∧ source ∉ b := by
  have h : a \ b = a ∩ b.complement := rfl
  simp [h]

@[simp]
theorem mem_ofWord {source : Interrupt} {word : BitVec 32} :
    source ∈ ofWord word ↔ word.getLsbD source.bit = true := by
  rw [ofWord, mem_inter, and_iff_left (mem_all source), mem_def]

theorem mem_transfer {source : Interrupt} :
    source ∈ transfer ↔
      source = .ackReceived ∨ source = .nackReceived ∨ source = .dataReceived ∨
        source = .arbitrationLost ∨ source = .busError := by
  simp [transfer, fatal, or_assoc]

end Interrupts

end TwoWire
