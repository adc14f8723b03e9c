/-
What a sequence puts on the wires when nothing goes wrong.

The transcript follows from the description alone: who is addressed and how
often, what is sent, how many bytes come in and how each is answered.
-/
import TwoWire.Call
import TwoWire.Sequence

namespace TwoWire.Sequence

/-- The data bytes that a sequence of this kind sends. -/
def sent (sequence : Sequence) : Kind → List UInt8
  | .write | .writeRead => sequence.first.bytes
  | .writeWrite => sequence.first.bytes ++ sequence.second.bytes
  | .read => []

/-- How many bytes come in. -/
def receiveLength (sequence : Sequence) : Kind → Nat
  | .read => sequence.first.bytes.length
  | .writeRead => sequence.second.bytes.length
  | .write | .writeWrite => 0

/-- Whether the very first byte asks for data.  A ten-bit address goes out as
a write even where only reading is meant. -/
def readsAtOnce (sequence : Sequence) (kind : Kind) : Bool :=
  kind = .read && !sequence.isTenBit

/-- Whether the target has to be addressed again before it gives anything. -/
def readdresses (sequence : Sequence) : Kind → Bool
  | .writeRead => true
  | .read => sequence.isTenBit
  | .write | .writeWrite => false

/-- Takes `count` bytes and refuses any after the last. -/
def takes : Nat → List Call
  | 0 => []
  | 1 => [.readData, .nack]
  | rest + 2 => .readData :: .ack :: takes (rest + 1)

/-- The address bytes after the start condition. -/
def opening (sequence : Sequence) (kind : Kind) : List Call :=
  [.writeAddress (sequence.header (sequence.readsAtOnce kind)), .start] ++
    if sequence.isTenBit then [.writeAddress sequence.lowAddress] else []

/-- The second addressing, where there is one. -/
def reopening (sequence : Sequence) (kind : Kind) : List Call :=
  if sequence.readdresses kind then
    [.repeatedStart, .writeAddress (sequence.header true)]
  else []

def transcript (sequence : Sequence) (kind : Kind) : List Call :=
  sequence.opening kind ++ (sequence.sent kind).map Call.writeData ++
    sequence.reopening kind ++ takes (sequence.receiveLength kind) ++ [.stop]

def addressLength (sequence : Sequence) (kind : Kind) : Nat :=
  1 + (if sequence.isTenBit then 1 else 0) +
    if sequence.readdresses kind then 1 else 0

/-- The answers and bytes that a whole run waits for. -/
def eventCount (sequence : Sequence) (kind : Kind) : Nat :=
  sequence.addressLength kind + (sequence.sent kind).length +
    sequence.receiveLength kind

theorem eq_of_mem_takes {count : Nat} {call : Call} (h : call ∈ takes count) :
    call = .readData ∨ call = .ack ∨ call = .nack := by
  fun_induction takes count with
  | case1 => exact absurd h List.not_mem_nil
  | case2 =>
      simp only [List.mem_cons, List.not_mem_nil, or_false] at h
      exact h.imp_right Or.inr
  | case3 rest ih =>
      simp only [List.mem_cons] at h
      rcases h with hread | hack | hrest
      · exact Or.inl hread
      · exact Or.inr (Or.inl hack)
      · exact ih hrest

theorem isOnWire_of_mem_takes {count : Nat} {call : Call}
    (h : call ∈ takes count) : call.isOnWire = true := by
  rcases eq_of_mem_takes h with rfl | rfl | rfl
  · rfl
  · rfl
  · rfl

theorem isOnWire_of_mem_transcript {sequence : Sequence} {kind : Kind}
    {call : Call} (h : call ∈ sequence.transcript kind) :
    call.isOnWire = true := by
  simp only [transcript, opening, reopening, List.mem_append, List.mem_map,
    List.mem_cons, List.not_mem_nil, or_false] at h
  rcases h with (((((rfl | rfl) | h) | ⟨byte, _, rfl⟩) | h) | h) | rfl
  · rfl
  · rfl
  · split at h
    · rw [List.mem_singleton.mp h]
      rfl
    · exact absurd h List.not_mem_nil
  · rfl
  · split at h
    · simp only [List.mem_cons, List.not_mem_nil, or_false] at h
      rcases h with rfl | rfl
      · rfl
      · rfl
    · exact absurd h List.not_mem_nil
  · exact isOnWire_of_mem_takes h
  · rfl

end TwoWire.Sequence
