/-
Sequences part of whose receive buffer is filled.

What has come in stands at the front of the buffer and nothing else changes, so
a sequence goes over the wires the same way however much of it is filled.
-/
import TwoWire.Proofs.Stage

namespace TwoWire.Sequence

/-- The sequence after `received` came in. -/
def filled (sequence : Sequence) (kind : Kind) (received : List UInt8) :
    Sequence :=
  match kind.receivesInto with
  | none => sequence
  | some slot =>
    sequence.setBuffer slot (.receive
      (received ++ (sequence.buffer slot).bytes.drop received.length))

variable {sequence : Sequence} {kind : Kind} {slot : Slot}
  {received : List UInt8}

theorem filled_of_receivesInto (hslot : kind.receivesInto = some slot) :
    sequence.filled kind received =
      sequence.setBuffer slot (.receive
        (received ++ (sequence.buffer slot).bytes.drop received.length)) := by
  rw [filled, hslot]

@[simp]
theorem setBuffer_buffer (sequence : Sequence) (slot : Slot) :
    sequence.setBuffer slot (sequence.buffer slot) = sequence := by
  cases slot <;> rfl

@[simp]
theorem setBuffer_setBuffer (sequence : Sequence) (slot : Slot)
    (buffer later : Buffer) :
    (sequence.setBuffer slot buffer).setBuffer slot later =
      sequence.setBuffer slot later := by
  cases slot <;> rfl

theorem filled_nil (h : sequence.kind? = some kind) :
    sequence.filled kind [] = sequence := by
  cases hslot : kind.receivesInto with
  | none => rw [filled, hslot]
  | some slot =>
      obtain ⟨bytes, hbuffer, _⟩ := buffer_of_receivesInto h hslot
      rw [filled_of_receivesInto hslot, hbuffer]
      simp only [Buffer.bytes, List.nil_append, List.length_nil, List.drop_zero]
      rw [← hbuffer, setBuffer_buffer]

/-- A full buffer holds what came in and nothing else. -/
theorem filled_of_length
    (hlength : received.length = sequence.receiveLength kind) :
    sequence.filled kind received =
      kind.receivesInto.elim sequence fun slot =>
        sequence.setBuffer slot (.receive received) := by
  cases hslot : kind.receivesInto with
  | none =>
      rw [filled, hslot]
      rfl
  | some slot =>
      rw [receiveLength_of_receivesInto hslot] at hlength
      rw [filled_of_receivesInto hslot, hlength, List.drop_length,
        List.append_nil]
      rfl

@[simp]
theorem filled_address :
    (sequence.filled kind received).address = sequence.address := by
  cases kind <;> rfl

@[simp]
theorem filled_flags :
    (sequence.filled kind received).flags = sequence.flags := by
  cases kind <;> rfl

@[simp]
theorem filled_isTenBit :
    (sequence.filled kind received).isTenBit = sequence.isTenBit := by
  rw [isTenBit, filled_flags, isTenBit]

@[simp]
theorem filled_header (reading : Bool) :
    (sequence.filled kind received).header reading =
      sequence.header reading := by
  rw [header, header, filled_isTenBit, filled_address]

@[simp]
theorem filled_lowAddress :
    (sequence.filled kind received).lowAddress = sequence.lowAddress := by
  rw [lowAddress, lowAddress, filled_address]

@[simp]
theorem filled_sent :
    (sequence.filled kind received).sent kind = sequence.sent kind := by
  cases kind <;> rfl

@[simp]
theorem filled_readdresses :
    (sequence.filled kind received).readdresses kind =
      sequence.readdresses kind := by
  cases kind with
  | read => exact filled_isTenBit
  | _ => rfl

theorem filled_buffer (hslot : kind.receivesInto = some slot) :
    (sequence.filled kind received).buffer slot =
      .receive
        (received ++ (sequence.buffer slot).bytes.drop received.length) := by
  rw [filled_of_receivesInto hslot, buffer_setBuffer_self]

theorem filled_receiveLength
    (hlength : received.length ≤ sequence.receiveLength kind) :
    (sequence.filled kind received).receiveLength kind =
      sequence.receiveLength kind := by
  cases hslot : kind.receivesInto with
  | none => rw [filled, hslot]
  | some slot =>
      rw [receiveLength_of_receivesInto hslot] at hlength
      rw [receiveLength_of_receivesInto hslot,
        receiveLength_of_receivesInto hslot, filled_buffer hslot]
      simp only [Buffer.bytes, List.length_append, List.length_drop] at hlength ⊢
      omega

theorem fits_filled (h : sequence.kind? = some kind)
    (hlength : received.length ≤ sequence.receiveLength kind) :
    (sequence.filled kind received).fits kind = true := by
  have hfits := (kind?_eq_some_iff.mp h).2.2
  have hroom : ∀ slot, kind.receivesInto = some slot →
      ((sequence.filled kind received).buffer slot).canReceive = true := by
    intro slot hslot
    have hpos := receiveLength_pos h hslot
    rw [← filled_receiveLength hlength, receiveLength_of_receivesInto hslot,
      filled_buffer hslot] at hpos
    rw [filled_buffer hslot, Buffer.canReceive, Bool.not_eq_true',
      List.isEmpty_eq_false_iff]
    exact List.length_pos_iff.mp hpos
  cases kind with
  | write => exact hfits
  | read => exact hroom .first rfl
  | writeRead =>
      exact Bool.and_eq_true_iff.mpr
        ⟨(Bool.and_eq_true_iff.mp hfits).1, hroom .second rfl⟩
  | writeWrite => exact hfits

theorem filled_kind? (h : sequence.kind? = some kind)
    (hlength : received.length ≤ sequence.receiveLength kind) :
    (sequence.filled kind received).kind? = some kind := by
  obtain ⟨hflags, haddress, _⟩ := kind?_eq_some_iff.mp h
  refine kind?_eq_some_iff.mpr ⟨?_, ?_, fits_filled h hlength⟩
  · rw [filled_flags, hflags]
  · rw [maxAddress, filled_isTenBit, filled_address]
    exact haddress

theorem set_append_drop {bytes : List UInt8}
    (hlength : received.length < bytes.length) (byte : UInt8) :
    (received ++ bytes.drop received.length).set received.length byte =
      (received ++ [byte]) ++ bytes.drop (received ++ [byte]).length := by
  rw [List.set_append_right _ _ (Nat.le_refl _), Nat.sub_self,
    List.drop_eq_getElem_cons hlength, List.set_cons_zero, List.length_append,
    List.append_assoc]
  rfl

/-- One more byte goes behind those that are there. -/
theorem setBuffer_filled {bytes : List UInt8}
    (hslot : kind.receivesInto = some slot)
    (hbuffer : (sequence.filled kind received).buffer slot = .receive bytes)
    (hlength : received.length < sequence.receiveLength kind) (byte : UInt8) :
    (sequence.filled kind received).setBuffer slot
      (.receive (bytes.set received.length byte)) =
        sequence.filled kind (received ++ [byte]) := by
  rw [receiveLength_of_receivesInto hslot] at hlength
  rw [filled_buffer hslot] at hbuffer
  rw [← Buffer.receive.inj hbuffer, filled_of_receivesInto hslot,
    setBuffer_setBuffer, set_append_drop hlength, filled_of_receivesInto hslot]

end TwoWire.Sequence
