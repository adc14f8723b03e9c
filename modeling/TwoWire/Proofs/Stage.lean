/-
How far a sequence has come, apart from how a transfer keeps count of it.

A run consumes awaited events one by one: acknowledgements while addresses and
data go out, bytes while data comes in.  A `Stage` says which event is next;
what is still to go over the wires and how many events are still to come follow
from the stage and the sequence alone.
-/
import TwoWire.Proofs.Shape

namespace TwoWire.Sequence

/-- What a run of a sequence waits for. -/
inductive Stage where
  /-- The answer to the first half of a ten-bit address. -/
  | opening
  /-- The answer to the byte before the data byte at `position`. -/
  | sending (position : Nat)
  /-- The answer to an address that asks for data. -/
  | turned
  /-- The data byte at `index`. -/
  | receiving (index : Nat)
deriving DecidableEq, Repr

variable {sequence : Sequence} {kind : Kind}

def firstStage (sequence : Sequence) (kind : Kind) : Stage :=
  if sequence.isTenBit then .opening
  else if kind = .read then .turned
  else .sending 0

/-- What is still to go over the wires. -/
def remaining (sequence : Sequence) (kind : Kind) : Stage → List Call
  | .opening =>
    .writeAddress sequence.lowAddress ::
      ((sequence.sent kind).map Call.writeData ++ (sequence.reopening kind ++
        (takes (sequence.receiveLength kind) ++ [.stop])))
  | .sending position =>
    ((sequence.sent kind).drop position).map Call.writeData ++
      (sequence.reopening kind ++
        (takes (sequence.receiveLength kind) ++ [.stop]))
  | .turned => takes (sequence.receiveLength kind) ++ [.stop]
  | .receiving index =>
    takes (sequence.receiveLength kind - index) ++ [.stop]

def eventsLeft (sequence : Sequence) (kind : Kind) : Stage → Nat
  | .opening =>
    2 + (sequence.sent kind).length +
      (if sequence.readdresses kind then 1 else 0) + sequence.receiveLength kind
  | .sending position =>
    1 + ((sequence.sent kind).length - position) +
      (if sequence.readdresses kind then 1 else 0) + sequence.receiveLength kind
  | .turned => 1 + sequence.receiveLength kind
  | .receiving index => sequence.receiveLength kind - index

theorem transcript_eq (sequence : Sequence) (kind : Kind) :
    sequence.transcript kind =
      [.writeAddress (sequence.header (sequence.readsAtOnce kind)), .start] ++
        sequence.remaining kind (sequence.firstStage kind) := by
  by_cases hwide : sequence.isTenBit = true
  · simp [transcript, opening, firstStage, remaining, hwide]
  · by_cases hread : kind = .read
    · subst kind
      simp [transcript, opening, reopening, firstStage, remaining, sent,
        readdresses, hwide]
    · simp [transcript, opening, firstStage, remaining, hwide, hread]

/-- A read with a ten-bit address first goes out as a write. -/
example :
    (Sequence.read 0x2a5 [0, 0]).toTenBit.transcript .read =
      [.writeAddress 0xf4, .start, .writeAddress 0xa5, .repeatedStart,
        .writeAddress 0xf5, .readData, .ack, .readData, .nack, .stop] := by
  decide

theorem eventsLeft_firstStage (sequence : Sequence) (kind : Kind) :
    sequence.eventsLeft kind (sequence.firstStage kind) =
      sequence.eventCount kind := by
  by_cases hwide : sequence.isTenBit = true
  · simp [firstStage, eventsLeft, eventCount, addressLength, hwide]
    omega
  · by_cases hread : kind = .read
    · subst kind
      simp [firstStage, eventsLeft, eventCount, addressLength, sent,
        readdresses, hwide]
    · simp [firstStage, eventsLeft, eventCount, addressLength, hwide, hread]
      omega

theorem remaining_ne_nil (sequence : Sequence) (kind : Kind) (stage : Stage) :
    sequence.remaining kind stage ≠ [] := by
  cases stage <;> simp [remaining]

theorem takes_of_one_lt {count : Nat} (h : 1 < count) :
    takes count = .readData :: .ack :: takes (count - 1) := by
  obtain ⟨rest, rfl⟩ : ∃ rest, count = rest + 2 := ⟨count - 2, by omega⟩
  rfl

theorem remaining_opening (sequence : Sequence) (kind : Kind) :
    sequence.remaining kind .opening =
      .writeAddress sequence.lowAddress ::
        sequence.remaining kind (.sending 0) :=
  rfl

theorem remaining_sending_of_some {position : Nat} {byte : UInt8}
    (h : (sequence.sent kind)[position]? = some byte) :
    sequence.remaining kind (.sending position) =
      .writeData byte :: sequence.remaining kind (.sending (position + 1)) := by
  obtain ⟨hlength, rfl⟩ := List.getElem?_eq_some_iff.mp h
  rw [remaining, List.drop_eq_getElem_cons hlength]
  rfl

theorem remaining_sending_of_none {position : Nat}
    (h : (sequence.sent kind)[position]? = none) :
    sequence.remaining kind (.sending position) =
      sequence.reopening kind ++ sequence.remaining kind .turned := by
  rw [remaining, List.drop_eq_nil_of_le (List.getElem?_eq_none_iff.mp h)]
  rfl

theorem remaining_receiving_of_lt {index : Nat}
    (h : index + 1 < sequence.receiveLength kind) :
    sequence.remaining kind (.receiving index) =
      .readData :: .ack :: sequence.remaining kind (.receiving (index + 1)) := by
  rw [remaining, takes_of_one_lt (by omega), Nat.sub_sub]
  rfl

theorem remaining_receiving_of_eq {index : Nat}
    (h : index + 1 = sequence.receiveLength kind) :
    sequence.remaining kind (.receiving index) =
      [.readData, .nack, .stop] := by
  rw [remaining, ← h, Nat.add_sub_cancel_left]
  rfl

/-- A sequence that only sends has nothing to come after its last byte but the
stop condition. -/
theorem remaining_turned_of_not_readdresses
    (hreaddress : sequence.readdresses kind = false) (hkind : kind ≠ .read) :
    sequence.remaining kind .turned = [.stop] := by
  rw [remaining, receiveLength_of_not_readdresses hreaddress hkind]
  rfl

theorem eventsLeft_opening (sequence : Sequence) (kind : Kind) :
    sequence.eventsLeft kind .opening =
      sequence.eventsLeft kind (.sending 0) + 1 := by
  simp only [eventsLeft]
  omega

theorem eventsLeft_sending_of_some {position : Nat} {byte : UInt8}
    (h : (sequence.sent kind)[position]? = some byte) :
    sequence.eventsLeft kind (.sending position) =
      sequence.eventsLeft kind (.sending (position + 1)) + 1 := by
  obtain ⟨hlength, _⟩ := List.getElem?_eq_some_iff.mp h
  simp only [eventsLeft]
  omega

theorem eventsLeft_sending_of_none {position : Nat}
    (h : (sequence.sent kind)[position]? = none)
    (hreaddress : sequence.readdresses kind = true) :
    sequence.eventsLeft kind (.sending position) =
      sequence.eventsLeft kind .turned + 1 := by
  have hlength := List.getElem?_eq_none_iff.mp h
  simp only [eventsLeft, hreaddress, if_true]
  omega

theorem eventsLeft_turned (sequence : Sequence) (kind : Kind) :
    sequence.eventsLeft kind .turned =
      sequence.eventsLeft kind (.receiving 0) + 1 := by
  simp only [eventsLeft]
  omega

theorem eventsLeft_receiving_of_lt {index : Nat}
    (h : index + 1 < sequence.receiveLength kind) :
    sequence.eventsLeft kind (.receiving index) =
      sequence.eventsLeft kind (.receiving (index + 1)) + 1 := by
  simp only [eventsLeft]
  omega

end TwoWire.Sequence
