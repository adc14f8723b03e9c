/-
Sequences that are turned down.

A sequence is proper if its flags name one kind and nothing unknown, its address
has the width that they say, and its buffers are the ones that the kind needs.
Any other is turned down, and nothing else comes of it: the device is not
touched and the transfer stays as it was, in flight or not.  Requests to begin
such a sequence can therefore be dropped from a session or put into it, and
whatever else was asked for is answered as before.
-/
import TwoWire.Bench
import TwoWire.Bench.Recorder
import TwoWire.Proofs.Reachable
import TwoWire.Proofs.Silence

namespace TwoWire

open Log (Logger Silent)

namespace Sequence

def Kind.bit : Kind → Nat
  | write => 0
  | read => 1
  | writeRead => 2
  | writeWrite => 3

theorem Kind.bit_lt (kind : Kind) : kind.bit < 4 := by
  cases kind <;> decide

theorem Kind.bit_inj {a b : Kind} : a.bit = b.bit ↔ a = b := by
  constructor
  · cases a <;> cases b <;> decide
  · exact congrArg Kind.bit

theorem Kind.exists_bit_eq {bit : Nat} (h : bit < 4) :
    ∃ kind : Kind, kind.bit = bit := by
  have hbits : bit = 0 ∨ bit = 1 ∨ bit = 2 ∨ bit = 3 := by omega
  rcases hbits with rfl | rfl | rfl | rfl
  · exact ⟨.write, rfl⟩
  · exact ⟨.read, rfl⟩
  · exact ⟨.writeRead, rfl⟩
  · exact ⟨.writeWrite, rfl⟩

/-- The buffers that a sequence of some kind uses have the right direction, and
room where they are to be filled.  A second buffer that is not used may be
anything. -/
def Provides (sequence : Sequence) : Kind → Prop
  | .write => ∃ bytes, sequence.first = .transmit bytes
  | .read => ∃ bytes, sequence.first = .receive bytes ∧ bytes ≠ []
  | .writeRead =>
    (∃ bytes, sequence.first = .transmit bytes) ∧
      ∃ bytes, sequence.second = .receive bytes ∧ bytes ≠ []
  | .writeWrite =>
    (∃ bytes, sequence.first = .transmit bytes) ∧
      ∃ bytes, sequence.second = .transmit bytes

structure Proper (sequence : Sequence) : Prop where
  known : ∀ bit, 5 ≤ bit → sequence.flags.bits.getLsbD bit = false
  oneKind : ∃! kind : Kind, sequence.flags.bits.getLsbD kind.bit = true
  address : sequence.address.toNat ≤
    if sequence.flags.bits.getLsbD 4 then 0x3ff else 0x7f
  buffers : ∀ kind : Kind, sequence.flags.bits.getLsbD kind.bit = true →
    sequence.Provides kind

namespace Flags

variable {flags : Flags} {kind : Kind}

theorem getLsbD_low {mask : BitVec 16} {width : Nat} (hwidth : width ≤ 16)
    (h : ∀ bit < 16, mask.getLsbD bit = decide (bit < width)) (bit : Nat) :
    mask.getLsbD bit = decide (bit < width) := by
  by_cases hin : bit < 16
  · exact h bit hin
  · rw [BitVec.getLsbD_of_ge _ _ (Nat.le_of_not_gt hin)]
    exact (decide_eq_false (by omega)).symm

theorem getLsbD_ofKind (kind : Kind) (bit : Nat) :
    (ofKind kind).bits.getLsbD bit = decide (kind.bit = bit) := by
  have hkind : (ofKind kind).bits = BitVec.twoPow 16 kind.bit := by
    cases kind <;> rfl
  have hin : kind.bit < 16 := Nat.lt_of_lt_of_le kind.bit_lt (by decide)
  rw [hkind, BitVec.getLsbD_twoPow, decide_eq_true hin, Bool.true_and]

/-- No unknown bit is set. -/
theorem and_not_all_eq_zero_iff :
    flags.bits &&& ~~~all.bits = 0 ↔
      ∀ bit, 5 ≤ bit → flags.bits.getLsbD bit = false := by
  have hall : ∀ bit, all.bits.getLsbD bit = decide (bit < 5) :=
    getLsbD_low (by decide) (by decide)
  constructor
  · intro h bit hbit
    have hzero := congrArg (BitVec.getLsbD · bit) h
    by_cases hin : bit < 16
    · simpa only [BitVec.getLsbD_and, BitVec.getLsbD_not, hin, hall,
        decide_eq_false (Nat.not_lt.mpr hbit), decide_true, Bool.not_false,
        Bool.and_true, BitVec.ofNat_eq_ofNat, BitVec.getLsbD_zero] using hzero
    · exact BitVec.getLsbD_of_ge _ _ (Nat.le_of_not_gt hin)
  · intro h
    apply BitVec.eq_of_getLsbD_eq
    intro bit hin
    rw [BitVec.getLsbD_and, BitVec.getLsbD_not, hall]
    by_cases hbit : bit < 5
    · simp [hbit]
    · simp [h bit (Nat.le_of_not_gt hbit)]

/-- One kind is set and no other. -/
theorem and_kinds_eq_iff :
    flags.bits &&& kinds.bits = (ofKind kind).bits ↔
      ∀ other : Kind, flags.bits.getLsbD other.bit = true ↔ other = kind := by
  have hkinds : ∀ bit, kinds.bits.getLsbD bit = decide (bit < 4) :=
    getLsbD_low (by decide) (by decide)
  constructor
  · intro h other
    have hbit := congrArg (BitVec.getLsbD · other.bit) h
    simp only [BitVec.getLsbD_and, hkinds, decide_eq_true other.bit_lt,
      Bool.and_true, getLsbD_ofKind] at hbit
    rw [hbit, decide_eq_true_eq, Kind.bit_inj]
    exact eq_comm
  · intro h
    apply BitVec.eq_of_getLsbD_eq
    intro bit _
    rw [BitVec.getLsbD_and, hkinds, getLsbD_ofKind, Bool.eq_iff_iff]
    by_cases hbit : bit < 4
    · obtain ⟨other, rfl⟩ := Kind.exists_bit_eq hbit
      rw [decide_eq_true hbit, Bool.and_true, h, decide_eq_true_eq,
        Kind.bit_inj]
      exact eq_comm
    · have hne : kind.bit ≠ bit := fun heq => hbit (heq ▸ kind.bit_lt)
      simp [hbit, hne]

theorem kind?_eq_some_iff :
    flags.kind? = some kind ↔
      (∀ bit, 5 ≤ bit → flags.bits.getLsbD bit = false) ∧
        ∀ other : Kind,
          flags.bits.getLsbD other.bit = true ↔ other = kind := by
  rw [← and_not_all_eq_zero_iff, ← and_kinds_eq_iff, kind?]
  constructor
  · intro h
    split at h
    · rename_i hknown
      have hfound := List.find?_some h
      exact ⟨hknown, by simpa using hfound⟩
    · cases h
  · rintro ⟨hknown, hkind⟩
    rw [if_pos hknown, hkind]
    cases kind <;> decide

theorem isTenBit_eq (flags : Flags) :
    flags.isTenBit = flags.bits.getLsbD 4 := by
  have hbit : tenBitAddress.bits = BitVec.twoPow 16 4 := rfl
  rw [isTenBit, hbit, BitVec.and_twoPow]
  cases flags.bits.getLsbD 4 <;> decide

end Flags

variable {sequence : Sequence} {kind : Kind}

theorem maxAddress_toNat (sequence : Sequence) :
    sequence.maxAddress.toNat =
      if sequence.flags.bits.getLsbD 4 then 0x3ff else 0x7f := by
  rw [maxAddress, isTenBit, Flags.isTenBit_eq]
  split <;> rfl

theorem fits_iff : sequence.fits kind = true ↔ sequence.Provides kind := by
  have hsends : ∀ buffer : Buffer,
      buffer.isTransmit = true ↔ ∃ bytes, buffer = .transmit bytes := by
    intro buffer
    cases buffer <;> simp [Buffer.isTransmit]
  have hfills : ∀ buffer : Buffer, buffer.canReceive = true ↔
      ∃ bytes, buffer = .receive bytes ∧ bytes ≠ [] := by
    intro buffer
    cases buffer <;> simp [Buffer.canReceive]
  cases kind <;> simp only [fits, Provides, Bool.and_eq_true, hsends, hfills]

theorem proper_iff : sequence.Proper ↔ ∃ kind, sequence.kind? = some kind := by
  simp only [Sequence.kind?_eq_some_iff, Flags.kind?_eq_some_iff,
    UInt16.le_iff_toNat_le, maxAddress_toNat, fits_iff]
  constructor
  · rintro ⟨hknown, ⟨kind, hkind, honly⟩, haddress, hbuffers⟩
    refine ⟨kind, ⟨hknown, fun other => ⟨honly other, ?_⟩⟩, haddress,
      hbuffers kind hkind⟩
    rintro rfl
    exact hkind
  · rintro ⟨kind, ⟨hknown, hkind⟩, haddress, hbuffers⟩
    refine ⟨hknown, ⟨kind, (hkind kind).mpr rfl, fun other => (hkind other).mp⟩,
      haddress, fun other hother => ?_⟩
    rw [(hkind other).mp hother]
    exact hbuffers

instance : Decidable sequence.Proper :=
  decidable_of_iff (sequence.kind?.isSome = true)
    (Option.isSome_iff_exists.trans proper_iff.symm)

theorem kind?_eq_none (h : ¬ sequence.Proper) : sequence.kind? = none := by
  cases hkind : sequence.kind? with
  | none => rfl
  | some kind => exact absurd (proper_iff.mpr ⟨kind, hkind⟩) h

end Sequence

/-- A sequence is begun exactly if it is proper.  If it is not, transfer and
device stay as they were. -/
theorem Transfer.start_iff_proper {σ : Type} [Device σ] (transfer : Transfer)
    (sequence : Sequence) (device : σ) :
    let begun := transfer.start sequence device
    (begun.outcome = .usageFault ↔ ¬ sequence.Proper) ∧
      (begun.outcome = .inProgress ↔ sequence.Proper) ∧
      (begun.outcome = .usageFault →
        begun.transfer = transfer ∧ begun.host = device) := by
  intro begun
  by_cases hproper : sequence.Proper
  · obtain ⟨kind, hkind⟩ := Sequence.proper_iff.mp hproper
    have houtcome : begun.outcome = .inProgress :=
      start_of_valid hkind transfer device
    rw [houtcome]
    exact ⟨iff_of_false nofun (not_not_intro hproper), iff_of_true rfl hproper,
      nofun⟩
  · have hbegun : begun = ⟨.usageFault, transfer, device⟩ :=
      start_of_invalid (Sequence.kind?_eq_none hproper) transfer device
    rw [hbegun]
    exact ⟨iff_of_true rfl hproper, iff_of_false nofun hproper,
      fun _ => ⟨rfl, rfl⟩⟩

def Request.isRejected {σ : Type} : Request σ → Bool
  | .start _ sequence => ¬ sequence.Proper
  | _ => false

namespace Session

variable {σ ℓ : Type} [Device σ] [Logger ℓ]

/-- The requests that were answered, apart from the rejected ones, each with its
answer. -/
def answers (session : Session σ ℓ) (requests : List (Request σ)) :
    List (Request σ × Response) :=
  (requests.zip (handleAll requests session).1).filter fun answered =>
    !answered.1.isRejected

theorem answers_silence (session : Session σ ℓ) (requests : List (Request σ)) :
    session.silence.answers requests = session.answers requests := by
  rw [answers, answers, ← silence_handleAll]
  rfl

/-- A rejected request leaves everything but the log as it was. -/
theorem handle_of_isRejected (session : Session σ Silent) {request : Request σ}
    (h : request.isRejected = true) :
    session.handle request = (.outcome .usageFault, session) := by
  cases request with
  | start number sequence =>
      have hkind := Sequence.kind?_eq_none (of_decide_eq_true h)
      simp only [handle, Controller.start, Transfer.start_of_invalid hkind]
      rw [keep, Function.update_eq_self]
      rfl
  | _ => cases h

/-- Without its rejected requests a session runs as with them. -/
theorem handleAll_filter (session : Session σ Silent)
    (requests : List (Request σ)) :
    let kept := requests.filter fun request => !request.isRejected
    session.answers requests = kept.zip (handleAll kept session).1 ∧
      (handleAll requests session).2 = (handleAll kept session).2 := by
  intro kept
  induction requests generalizing session with
  | nil => exact ⟨rfl, rfl⟩
  | cons request rest ih =>
      by_cases hrejected : request.isRejected = true
      · have hkept : kept = rest.filter fun request => !request.isRejected :=
          List.filter_cons_of_neg (by simp [hrejected])
        obtain ⟨hanswers, hlast⟩ := ih session
        rw [hkept, answers, handleAll, session.handle_of_isRejected hrejected]
        refine ⟨?_, hlast⟩
        rw [List.zip_cons_cons, List.filter_cons_of_neg (by simp [hrejected])]
        exact hanswers
      · have hkept : kept =
            request :: rest.filter fun request => !request.isRejected :=
          List.filter_cons_of_pos (by simp [hrejected])
        rw [hkept, answers, handleAll, handleAll]
        obtain ⟨response, after⟩ := session.handle request
        obtain ⟨hanswers, hlast⟩ := ih after
        cases response with
        | waiting => simp [hrejected]
        | _ =>
            refine ⟨?_, hlast⟩
            rw [List.zip_cons_cons, List.zip_cons_cons,
              List.filter_cons_of_pos (by simp [hrejected])]
            exact congrArg (List.cons _) hanswers

/-- A sequence is turned down exactly if it is not proper, whatever the
transfer does and whatever the device is; neither of them changes then.  So no
rejected request makes a difference: if two lists of requests have the same ones
apart from those, however many there are and wherever they stand, then all
others are answered alike, the same calls are made, and devices, configurations,
transfers and buffers end up alike. -/
theorem handleAll_ignores_rejected :
    (∀ {σ : Type} [Device σ] (transfer : Transfer) (sequence : Sequence)
      (device : σ),
      let begun := transfer.start sequence device
      (begun.outcome = .usageFault ↔ ¬ sequence.Proper) ∧
        (begun.outcome = .inProgress ↔ sequence.Proper) ∧
        (begun.outcome = .usageFault →
          begun.transfer = transfer ∧ begun.host = device)) ∧
      ∀ {σ ℓ : Type} [Device σ] [Logger ℓ] (session : Session (Recorder σ) ℓ)
        {requests others : List (Request (Recorder σ))},
        (requests.filter fun request => !request.isRejected) =
            (others.filter fun request => !request.isRejected) →
          let one := (handleAll requests session).2
          let two := (handleAll others session).2
          session.answers requests = session.answers others ∧
            one.controller.device.calls = two.controller.device.calls ∧
            one.controller.device = two.controller.device ∧
            one.controller.config = two.controller.config ∧
            one.transfers = two.transfers := by
  refine ⟨Transfer.start_iff_proper, ?_⟩
  intro σ ℓ _ _ session requests others hsame one two
  obtain ⟨hanswers, hlast⟩ := handleAll_filter session.silence requests
  obtain ⟨hothers, hlastOther⟩ := handleAll_filter session.silence others
  rw [answers_silence, hsame, ← hothers, answers_silence] at hanswers
  have hsilence : one.silence = two.silence := by
    have hone := congrArg Prod.snd (session.silence_handleAll requests)
    have htwo := congrArg Prod.snd (session.silence_handleAll others)
    rw [hlast, hsame, ← hlastOther] at hone
    exact hone.trans htwo.symm
  have hdevice : one.controller.device = two.controller.device :=
    congrArg (fun session => session.controller.device) hsilence
  exact ⟨hanswers, congrArg Recorder.calls hdevice, hdevice,
    congrArg (fun session => session.controller.config) hsilence,
    congrArg (fun session => session.transfers) hsilence⟩

/-- Four sequences that cannot be run come between the events of a read: one
with an unknown bit, one of two kinds, one with too long an address and one
without room. -/
theorem handleAll_ignores_rejected_reading :
    let bench : Recorder Bench := { device := Bench.withResponder [7, 8] }
    let session : Session (Recorder Bench) Silent :=
      { controller := ⟨bench, .standard .one, {}⟩ }
    let unknown : Sequence := ⟨0x50, ⟨0x21⟩, .transmit [1], .empty⟩
    let ambiguous : Sequence := ⟨0x50, ⟨0x03⟩, .receive [0], .empty⟩
    let requests : List (Request (Recorder Bench)) :=
      [.start 0 (.read 0x50 [0, 0]), .advance 0, .advance 0]
    let others : List (Request (Recorder Bench)) :=
      [.start 0 unknown, .start 0 (.read 0x50 [0, 0]), .start 0 ambiguous,
        .start 0 (.write 0x80 [1]), .advance 0, .start 0 (.read 0x50 []),
        .advance 0]
    let last := (handleAll others session).2
    session.answers requests = session.answers others ∧
      (last.transfers 0).held = some (.read 0x50 [7, 8]) ∧
      last.controller.device.count .abort = 0 := by
  intro bench session unknown ambiguous requests others last
  have hgood : (Sequence.read 0x50 [0, 0]).Proper := by decide
  have hbad : ¬ unknown.Proper ∧ ¬ ambiguous.Proper ∧
      ¬ (Sequence.write 0x80 [1]).Proper ∧
      ¬ (Sequence.read 0x50 []).Proper := by
    decide
  have hsame : (requests.filter fun request => !request.isRejected) =
      (others.filter fun request => !request.isRejected) := by
    simp [requests, others, Request.isRejected, hgood, hbad]
  obtain ⟨hanswers, hcalls, _, _, htransfers⟩ :=
    handleAll_ignores_rejected.2 session hsame
  refine ⟨hanswers, ?_, ?_⟩
  · rw [← htransfers]
    decide
  · rw [Recorder.count, ← hcalls]
    decide

end Session

end TwoWire
