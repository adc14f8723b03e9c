/-
What a sequence that can be run looks like: which buffers it sends from, which
one it fills, and what its address bytes are.
-/
import TwoWire.Sequence.Transcript

namespace TwoWire.Sequence

def Kind.receivesInto : Kind → Option Slot
  | .read => some .first
  | .writeRead => some .second
  | .write | .writeWrite => none

theorem Kind.receivesInto_eq_some_iff {kind : Kind} {slot : Slot} :
    kind.receivesInto = some slot ↔
      kind = .read ∧ slot = .first ∨ kind = .writeRead ∧ slot = .second := by
  cases kind <;> cases slot <;> decide

theorem kind?_eq_some_iff {sequence : Sequence} {kind : Kind} :
    sequence.kind? = some kind ↔
      sequence.flags.kind? = some kind ∧
        sequence.address ≤ sequence.maxAddress ∧ sequence.fits kind = true := by
  simp [kind?, Option.filter_eq_some_iff]

variable {sequence : Sequence} {kind : Kind} {slot : Slot}

theorem exists_bytes_of_isTransmit {buffer : Buffer}
    (h : buffer.isTransmit = true) : ∃ bytes, buffer = .transmit bytes := by
  cases buffer with
  | transmit bytes => exact ⟨bytes, rfl⟩
  | receive bytes => cases h

theorem exists_bytes_of_canReceive {buffer : Buffer}
    (h : buffer.canReceive = true) :
    ∃ bytes, buffer = .receive bytes ∧ 0 < bytes.length := by
  cases buffer with
  | transmit bytes => cases h
  | receive bytes =>
      refine ⟨bytes, rfl, List.length_pos_iff.mpr ?_⟩
      simpa [Buffer.canReceive] using h

theorem first_of_ne_read (h : sequence.kind? = some kind)
    (hkind : kind ≠ .read) : ∃ bytes, sequence.first = .transmit bytes := by
  have hfits := (kind?_eq_some_iff.mp h).2.2
  apply exists_bytes_of_isTransmit
  cases kind with
  | write => exact hfits
  | read => exact absurd rfl hkind
  | writeRead => exact (Bool.and_eq_true_iff.mp hfits).1
  | writeWrite => exact (Bool.and_eq_true_iff.mp hfits).1

theorem second_of_writeWrite (h : sequence.kind? = some .writeWrite) :
    ∃ bytes, sequence.second = .transmit bytes :=
  exists_bytes_of_isTransmit
    (Bool.and_eq_true_iff.mp (kind?_eq_some_iff.mp h).2.2).2

/-- A buffer to fill is one for receiving, and has room. -/
theorem buffer_of_receivesInto (h : sequence.kind? = some kind)
    (hslot : kind.receivesInto = some slot) :
    ∃ bytes, sequence.buffer slot = .receive bytes ∧ 0 < bytes.length := by
  have hfits := (kind?_eq_some_iff.mp h).2.2
  apply exists_bytes_of_canReceive
  cases kind with
  | write => cases hslot
  | read =>
      cases hslot
      exact hfits
  | writeRead =>
      cases hslot
      exact (Bool.and_eq_true_iff.mp hfits).2
  | writeWrite => cases hslot

theorem receiveLength_of_receivesInto (hslot : kind.receivesInto = some slot) :
    sequence.receiveLength kind = (sequence.buffer slot).bytes.length := by
  cases kind <;> cases hslot <;> rfl

theorem receiveLength_pos (h : sequence.kind? = some kind)
    (hslot : kind.receivesInto = some slot) :
    0 < sequence.receiveLength kind := by
  obtain ⟨bytes, hbuffer, hroom⟩ := buffer_of_receivesInto h hslot
  rw [receiveLength_of_receivesInto hslot, hbuffer]
  exact hroom

theorem receiveLength_of_not_readdresses
    (hreaddress : sequence.readdresses kind = false) (hkind : kind ≠ .read) :
    sequence.receiveLength kind = 0 := by
  cases kind with
  | write => rfl
  | read => exact absurd rfl hkind
  | writeRead => cases hreaddress
  | writeWrite => rfl

/-- A target is addressed again only to be read from. -/
theorem exists_receivesInto_of_readdresses
    (h : sequence.readdresses kind = true) :
    ∃ slot, kind.receivesInto = some slot := by
  cases kind with
  | write => cases h
  | read => exact ⟨.first, rfl⟩
  | writeRead => exact ⟨.second, rfl⟩
  | writeWrite => cases h

theorem toNat_toUInt8 (reading : Bool) :
    reading.toUInt8.toNat = reading.toNat := by
  cases reading <;> rfl

/-- A ten-bit address begins with `11110`, its two high bits and the
direction. -/
theorem header_toNat_of_tenBit (hwide : sequence.isTenBit = true)
    (haddress : sequence.address.toNat < 0x400) (reading : Bool) :
    (sequence.header reading).toNat =
      0xf0 + sequence.address.toNat / 256 * 2 + reading.toNat := by
  have hbits : ∀ high < 8, ∀ reading : Bool,
      (0xf0 ||| high % 256 &&& 6 ||| reading.toNat) =
        0xf0 + high / 2 * 2 + reading.toNat := by
    decide
  have hhigh := hbits (sequence.address.toNat / 128) (by omega) reading
  rw [Nat.div_div_eq_div_mul] at hhigh
  simpa [header, hwide, toNat_toUInt8, Nat.shiftRight_eq_div_pow] using hhigh

/-- A short address stands above the direction bit. -/
theorem header_toNat_of_not_tenBit (hwide : sequence.isTenBit = false)
    (haddress : sequence.address.toNat < 0x80) (reading : Bool) :
    (sequence.header reading).toNat =
      sequence.address.toNat * 2 + reading.toNat := by
  have hlow : (sequence.address.toNat % 256 &&& 127) <<< 1 % 256 =
      sequence.address.toNat <<< 1 := by
    rw [Nat.and_two_pow_sub_one_eq_mod _ 7, Nat.shiftLeft_eq, Nat.shiftLeft_eq]
    omega
  have hdirection : reading.toNat < 2 ^ 1 := Bool.toNat_lt reading
  have hsum : sequence.address.toNat <<< 1 ||| reading.toNat =
      sequence.address.toNat * 2 + reading.toNat := by
    rw [← Nat.shiftLeft_add_eq_or_of_lt hdirection, Nat.shiftLeft_eq]
  simp [header, hwide, toNat_toUInt8, hlow, hsum]

theorem header_toNat (h : sequence.kind? = some kind) (reading : Bool) :
    (sequence.header reading).toNat =
      (if sequence.isTenBit then 0xf0 + sequence.address.toNat / 256 * 2
        else sequence.address.toNat * 2) + reading.toNat := by
  have haddress := UInt16.le_iff_toNat_le.mp (kind?_eq_some_iff.mp h).2.1
  cases hwide : sequence.isTenBit with
  | true =>
      have hbound : sequence.address.toNat ≤ 0x3ff := by
        simpa [maxAddress, hwide] using haddress
      exact header_toNat_of_tenBit hwide (by omega) reading
  | false =>
      have hbound : sequence.address.toNat ≤ 0x7f := by
        simpa [maxAddress, hwide] using haddress
      exact header_toNat_of_not_tenBit hwide (by omega) reading

theorem header_true_odd (h : sequence.kind? = some kind) :
    sequence.header true &&& 1 = 1 := by
  have hheader := header_toNat h true
  have hodd : (sequence.header true).toNat % 2 = 1 := by
    rw [hheader]
    cases sequence.isTenBit with
    | true =>
        rw [if_pos rfl, Bool.toNat_true]
        omega
    | false =>
        rw [if_neg Bool.false_ne_true, Bool.toNat_true]
        omega
  rw [← UInt8.toNat_inj, UInt8.toNat_and]
  exact (Nat.and_one_is_mod _).trans hodd

theorem lowAddress_toNat (sequence : Sequence) :
    sequence.lowAddress.toNat = sequence.address.toNat % 256 := by
  have hlow : sequence.address.toNat % 256 &&& 255 =
      sequence.address.toNat % 256 := by
    rw [Nat.and_two_pow_sub_one_eq_mod _ 8, Nat.mod_mod]
  simpa [lowAddress] using hlow

end TwoWire.Sequence
