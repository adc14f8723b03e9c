/-
The same transfer on every device.

A transfer learns little from a device: whether the bus is busy when it begins,
and at a step the flags that are up and the byte that comes in.  Registers of
either generation and a bench that give the same answers take it through the
same course.  The words that then go to the registers of the bus are, one for
one, the calls that the bench has on record.
-/
import TwoWire.Proofs.Reachable
import TwoWire.Proofs.Reply
import TwoWire.Proofs.Target
import TwoWire.Registers.Block

namespace TwoWire

/-- Calls that read once at most take the byte that waits beforehand, on a
device where only a read changes it. -/
theorem Device.run_fst_of_steady {σ : Type} [Device σ]
    (hsteady : ∀ (call : Call) (device : σ), call ≠ .readData →
      received (perform call device) = received device)
    {calls : List Call} (hcount : calls.count .readData ≤ 1) (device : σ) :
    (run calls device).1 =
      List.replicate (calls.count .readData) (received device) := by
  induction calls generalizing device with
  | nil => rfl
  | cons call rest ih =>
      by_cases hcall : call = .readData
      · subst hcall
        rw [List.count_cons_self] at hcount
        have hnone : rest.count .readData = 0 := by omega
        have hrest : (run rest (perform .readData device)).1 = [] := by
          apply List.eq_nil_of_length_eq_zero
          rw [length_run, hnone]
        simp [run, hrest, hnone]
      · rw [List.count_cons_of_ne hcall] at hcount
        simp [run, hcall, ih hcount, hsteady call device hcall]

/-- What a device tells a transfer at a step: the flags that are up, and the
word that a byte is read from.  A step reads once at most, so that the words
of the steps are the words of the reads. -/
structure Answer where
  flags : BitVec 32
  data : BitVec 32

namespace Answer

def byte (answer : Answer) : UInt8 :=
  ⟨answer.data.setWidth 8⟩

def ofBench (answer : Answer) (recorder : Recorder Bench) : Recorder Bench :=
  { recorder with
    device.pending := ⟨answer.flags⟩
    device.received := [answer.byte] }

end Answer

namespace Registers

/-- A block with the words that were written to it, in order. -/
structure Traced (series : Series) where
  block : Block series
  stream : List Write := []

variable {series : Series}

namespace Traced

instance : Device (Traced series) where
  perform call traced :=
    { block := Device.perform call traced.block
      stream := traced.stream ++ writes series traced.block.memory call }
  received traced := Device.received traced.block
  clockRatio traced := Device.clockRatio traced.block
  clockDivider traced := Device.clockDivider traced.block
  referenceClock traced := Device.referenceClock traced.block
  enabled traced := Device.enabled traced.block
  pending traced := Device.pending traced.block
  busy traced := Device.busy traced.block

def give (answer : Answer) (traced : Traced series) : Traced series :=
  let flags := ⟨(layout series).flags, answer.flags⟩
  let data := ⟨(layout series).receiveData, answer.data⟩
  { traced with
    block.memory := (traced.block.memory.store flags).store data }

theorem pending_give (answer : Answer) (traced : Traced series) :
    Device.pending (traced.give answer) = .ofWord answer.flags := by
  have hne : (layout series).flags ≠ (layout series).receiveData := by
    cases series <;> decide
  simp [Device.pending, give, hne]

theorem received_give (answer : Answer) (traced : Traced series) :
    Device.received (traced.give answer) = answer.byte := by
  have hbyte : (answer.data &&& dataField).setWidth 8 =
      answer.data.setWidth 8 := by
    have hfield : dataField.setWidth 8 = BitVec.allOnes 8 := rfl
    rw [BitVec.setWidth_and, hfield, BitVec.and_allOnes]
  simp [Device.received, give, Answer.byte, hbyte]

end Traced

/-- A word for the bus: a command, or a byte to send. -/
def Write.isOnBus (series : Series) (write : Write) : Bool :=
  write.offset = (layout series).command ||
    write.offset = (layout series).transmitData

def busWrite? (series : Series) (call : Call) : Option Write :=
  let command (word : Word) : Write := ⟨(layout series).command, word⟩
  match call with
  | .writeAddress byte | .writeData byte =>
    some ⟨(layout series).transmitData, byte.toBitVec.setWidth 32⟩
  | .start | .repeatedStart => some (command 0x01)
  | .stop => some (command 0x02)
  | .ack => some (command 0x04)
  | .nack => some (command 0x08)
  | .abort => some (command 0x20)
  | .clearTransmit => some (command 0x40)
  | _ => none

/-- Only a reset sends a word to the bus besides. -/
theorem filter_writes {call : Call} (h : call ≠ .reset) (memory : Memory) :
    (writes series memory call).filter (Write.isOnBus series) =
      (busWrite? series call).toList := by
  cases series with
  | one =>
      cases call with
      | reset => exact absurd rfl h
      | _ => rfl
  | two =>
      cases call with
      | reset => exact absurd rfl h
      | _ => rfl

/-- No call touches the word that bytes are read from. -/
theorem receiveData_not_mem_writes (memory : Memory) (call : Call) :
    (layout series).receiveData ∉
      (writes series memory call).map Write.offset := by
  cases series with
  | one =>
      cases call <;>
        simp [writes, putEnabled, putSources, putFlags, layout, flagSet,
          flagClear]
  | two =>
      cases call <;>
        simp [writes, putEnabled, putSources, putFlags, layout, enableRegister,
          setWindow, clearWindow]

theorem Traced.run_block (calls : List Call) (traced : Traced series) :
    (Device.run calls traced).1 = (Device.run calls traced.block).1 ∧
      (Device.run calls traced).2.block =
        (Device.run calls traced.block).2 := by
  induction calls generalizing traced with
  | nil => exact ⟨rfl, rfl⟩
  | cons call rest ih =>
      obtain ⟨hbytes, hblock⟩ := ih (Device.perform call traced)
      refine ⟨?_, hblock⟩
      simp only [Device.run, hbytes]
      rfl

theorem Traced.stream_run {calls : List Call} (h : .reset ∉ calls)
    (traced : Traced series) :
    (Device.run calls traced).2.stream.filter (Write.isOnBus series) =
      traced.stream.filter (Write.isOnBus series) ++
        calls.filterMap (busWrite? series) := by
  induction calls generalizing traced with
  | nil => simp
  | cons call rest ih =>
      rw [List.mem_cons, not_or] at h
      have hstream : (Device.perform call traced).stream =
          traced.stream ++ writes series traced.block.memory call := rfl
      rw [Device.run, ih h.2, hstream, List.filter_append,
        filter_writes (Ne.symm h.1), List.append_assoc, List.filterMap_cons]
      cases busWrite? series call with
      | none => rfl
      | some write => rfl

theorem received_perform (call : Call) (block : Block series) :
    Device.received (Device.perform call block) = Device.received block := by
  have hkept : block.memory.storeAll (writes series block.memory call)
      (layout series).receiveData =
        block.memory (layout series).receiveData := by
    apply Memory.storeAll_of_forall_ne
    intro write hwrite hoffset
    apply receiveData_not_mem_writes block.memory call
    rw [hoffset]
    exact List.mem_map_of_mem hwrite
  simp only [Device.received, Device.perform, hkept]

/-- Whatever goes to the bus is one command, or one byte. -/
structure Write.IsSingle (series : Series) (write : Write) : Prop where
  command : write.offset = (layout series).command →
    ∃ bit < 32, write.value = BitVec.twoPow 32 bit
  byte : write.offset = (layout series).transmitData → write.value ≤ 0xff

theorem Write.isSingle_command {bit : Nat} (h : bit < 32) :
    (⟨(layout series).command, BitVec.twoPow 32 bit⟩ : Write).IsSingle
      series := by
  refine ⟨fun _ => ⟨bit, h, rfl⟩, ?_⟩
  cases series <;> exact nofun

theorem Write.isSingle_byte (byte : UInt8) :
    (⟨(layout series).transmitData, byte.toBitVec.setWidth 32⟩ : Write).IsSingle
      series := by
  constructor
  · cases series <;> exact nofun
  · intro _
    have hlt := byte.toBitVec.isLt
    have hword : (byte.toBitVec.setWidth 32).toNat = byte.toBitVec.toNat := by
      rw [BitVec.toNat_setWidth]
      omega
    have hlimit : (0xff : Word).toNat = 0xff := rfl
    rw [BitVec.le_def, hword, hlimit]
    omega

theorem isSingle_of_busWrite?_eq_some {call : Call} {write : Write}
    (h : busWrite? series call = some write) : write.IsSingle series := by
  have hcommand : ∀ bit < 32,
      some ⟨(layout series).command, BitVec.twoPow 32 bit⟩ = some write →
        write.IsSingle series := by
    rintro bit hbit ⟨⟩
    exact Write.isSingle_command hbit
  have hbyte : ∀ byte : UInt8,
      some ⟨(layout series).transmitData, byte.toBitVec.setWidth 32⟩ =
        some write → write.IsSingle series := by
    rintro byte ⟨⟩
    exact Write.isSingle_byte byte
  cases call with
  | writeAddress byte => exact hbyte byte h
  | writeData byte => exact hbyte byte h
  | start => exact hcommand 0 (by decide) h
  | repeatedStart => exact hcommand 0 (by decide) h
  | stop => exact hcommand 1 (by decide) h
  | ack => exact hcommand 2 (by decide) h
  | nack => exact hcommand 3 (by decide) h
  | abort => exact hcommand 5 (by decide) h
  | clearTransmit => exact hcommand 6 (by decide) h
  | _ => exact absurd h nofun

end Registers

theorem Bench.received_perform {call : Call} (h : call ≠ .readData)
    (bench : Bench) :
    Device.received (Device.perform call bench) = Device.received bench := by
  have hkept := (Bench.perform_keeps call bench).2
  rw [if_neg h] at hkept
  exact congrArg (List.headD · Bench.idleByte) hkept

namespace Progress

open Registers (Traced Write busWrite?)

variable {series : Series}

/-- Steps, before each of which the device gives an answer. -/
def answered {σ : Type} [Device σ] (give : Answer → σ → σ) :
    List Answer → Progress σ → Progress σ
  | [], progress => progress
  | answer :: rest, progress =>
    answered give rest
      { progress with host := give answer progress.host }.next

/-- A run on registers stands where a run on a bench does, and has put the
same on the bus. -/
structure Alike (chip : Progress (Traced series))
    (mock : Progress (Recorder Bench)) : Prop where
  outcome : chip.outcome = mock.outcome
  transfer : chip.transfer = mock.transfer
  stream : chip.host.stream.filter (Write.isOnBus series) =
    mock.host.calls.filterMap (busWrite? series)

theorem perform_alike {traced : Traced series} {recorder : Recorder Bench}
    {reaction : Reaction} (hreset : .reset ∉ reaction.calls)
    (hbytes : (Device.run reaction.calls traced.block).1 =
      (Device.run reaction.calls recorder.device).1)
    (hstream : traced.stream.filter (Write.isOnBus series) =
      recorder.calls.filterMap (busWrite? series)) :
    (Transfer.perform reaction traced).Alike
      (Transfer.perform reaction recorder) := by
  have hsame : (Device.run reaction.calls traced).1 =
      (Device.run reaction.calls recorder).1 := by
    rw [(Traced.run_block _ traced).1, (Recorder.run_device _ recorder).1,
      hbytes]
  refine ⟨rfl, ?_, ?_⟩
  · simp only [Transfer.perform, hsame]
  · simp only [Transfer.perform]
    rw [Traced.stream_run hreset, hstream, Recorder.calls_run,
      List.filterMap_append]

/-- Begun alike, wherever the bus is busy on both sides or on neither. -/
theorem start_alike {block : Registers.Block series} {bench : Bench}
    (hbusy : Device.busy block = Device.busy bench) (transfer : Transfer)
    (sequence : Sequence) :
    (transfer.start sequence ({ block } : Traced series)).Alike
      (transfer.start sequence ({ device := bench } : Recorder Bench)) := by
  have hsame : Device.busy ({ block } : Traced series) =
      Device.busy ({ device := bench } : Recorder Bench) := hbusy
  cases hkind : sequence.kind? with
  | none =>
      rw [Transfer.start_of_invalid hkind, Transfer.start_of_invalid hkind]
      exact ⟨rfl, rfl, rfl⟩
  | some kind =>
      obtain ⟨reaction, hbegin, _, _, hcalls⟩ :=
        Transfer.begin?_of_valid hkind (Device.busy bench)
      have hreset : .reset ∉ reaction.calls := by
        rw [hcalls, Call.beginning]
        cases Device.busy bench <;> simp
      have hnone : reaction.calls.count .readData = 0 := by
        rw [hcalls, List.count_eq_zero]
        exact Call.readData_not_mem_beginning _ _
      have hbytes : (Device.run reaction.calls block).1 =
          (Device.run reaction.calls bench).1 := by
        have hblock := Device.length_run reaction.calls block
        have hbench := Device.length_run reaction.calls bench
        rw [hnone] at hblock hbench
        rw [List.eq_nil_of_length_eq_zero hblock,
          List.eq_nil_of_length_eq_zero hbench]
      have hchip : Transfer.begin? sequence
          (Device.busy ({ block } : Traced series)) = some reaction := by
        rw [hsame]
        exact hbegin
      have hmock : Transfer.begin? sequence (Device.busy
          ({ device := bench } : Recorder Bench)) = some reaction := hbegin
      rw [Transfer.start_of_begin? hchip, Transfer.start_of_begin? hmock]
      exact perform_alike hreset hbytes rfl

/-- The calls of a reaction take the one byte that waits, on either side. -/
theorem regular_alike {traced : Traced series} {recorder : Recorder Bench}
    {reaction : Reaction} (h : reaction.Regular)
    (hbyte : Device.received traced = Device.received recorder)
    (hstream : traced.stream.filter (Write.isOnBus series) =
      recorder.calls.filterMap (busWrite? series)) :
    (Transfer.perform reaction traced).Alike
      (Transfer.perform reaction recorder) := by
  apply perform_alike _ _ hstream
  · intro hreset
    exact (h.isReply_or_eq hreset).elim nofun nofun
  · have hchip := Device.run_fst_of_steady
      (fun call block _ => Registers.received_perform call block)
      h.count_readData_le traced.block
    have hmock := Device.run_fst_of_steady
      (fun _ bench hcall => Bench.received_perform hcall bench)
      h.count_readData_le recorder.device
    have hsame : Device.received traced.block =
      Device.received recorder.device := hbyte
    rw [hchip, hmock, hsame]

theorem next_alike {chip : Progress (Traced series)}
    {mock : Progress (Recorder Bench)} (h : chip.Alike mock)
    (answer : Answer) :
    { chip with host := chip.host.give answer }.next.Alike
      { mock with host := answer.ofBench mock.host }.next := by
  obtain ⟨_, htransfer, hstream⟩ := h
  have hbyte : Device.received (chip.host.give answer) =
      Device.received (answer.ofBench mock.host) :=
    Traced.received_give answer chip.host
  -- The bench shows the whole word, the registers its known sources.
  have hreact : mock.transfer.react (.ofWord answer.flags) =
      mock.transfer.react ⟨answer.flags⟩ := by
    apply Transfer.react_congr
    intro source _
    rw [Interrupts.mem_ofWord, Interrupts.mem_def]
  have hstatus : Device.status (chip.host.give answer) =
      (.ofWord answer.flags, chip.host.give answer) := by
    rw [← Traced.pending_give answer chip.host]
    rfl
  have hshown : Device.status (answer.ofBench mock.host) =
      (⟨answer.flags⟩, answer.ofBench mock.host) := rfl
  rw [next, next, Transfer.step_of_status hstatus,
    Transfer.step_of_status hshown, htransfer, ← hreact]
  exact regular_alike (Transfer.react_regular _ _) hbyte hstream

theorem answered_alike {chip : Progress (Traced series)}
    {mock : Progress (Recorder Bench)} (h : chip.Alike mock)
    (answers : List Answer) :
    (chip.answered Traced.give answers).Alike
      (mock.answered Answer.ofBench answers) := by
  induction answers generalizing chip mock with
  | nil => exact h
  | cons answer rest ih => exact ih (next_alike h answer)

/-- What the transfer reports to begin with and at every step, in order. -/
def outcomes {σ : Type} [Device σ] (give : Answer → σ → σ) :
    List Answer → Progress σ → List Outcome
  | [], progress => [progress.outcome]
  | answer :: rest, progress =>
    progress.outcome :: outcomes give rest
      { progress with host := give answer progress.host }.next

theorem outcomes_alike {chip : Progress (Traced series)}
    {mock : Progress (Recorder Bench)} (h : chip.Alike mock)
    (answers : List Answer) :
    chip.outcomes Traced.give answers =
      mock.outcomes Answer.ofBench answers := by
  induction answers generalizing chip mock with
  | nil => rw [outcomes, outcomes, h.outcome]
  | cons answer rest ih =>
      rw [outcomes, outcomes, ih (next_alike h answer), h.outcome]

end Progress

namespace Transfer

open Registers (Block Traced Write busWrite?)

/-- Registers of either generation and a bench that answer alike take a
transfer through the same course, from any state of theirs.  Every step reports
the same and leaves the same transfer, with the same bytes in its buffers.  The
words for the bus are the calls on record, and each is one command or one
byte. -/
theorem run_alike {series : Series} {block : Block series} {bench : Bench}
    (h : Device.busy block = Device.busy bench) (transfer : Transfer)
    (sequence : Sequence) (answers : List Answer) :
    let begun := transfer.start sequence ({ block } : Traced series)
    let played := transfer.start sequence ({ device := bench } : Recorder Bench)
    let chip := begun.answered Traced.give answers
    let mock := played.answered Answer.ofBench answers
    let words := chip.host.stream.filter (Write.isOnBus series)
    begun.outcomes Traced.give answers =
      played.outcomes Answer.ofBench answers ∧
      chip.transfer = mock.transfer ∧
      words = mock.host.calls.filterMap (busWrite? series) ∧
      ∀ word ∈ words, word.IsSingle series := by
  intro begun played chip mock words
  have hbegun : begun.Alike played :=
    Progress.start_alike h transfer sequence
  have hrun : chip.Alike mock := Progress.answered_alike hbegun answers
  refine ⟨Progress.outcomes_alike hbegun answers, hrun.transfer,
    hrun.stream, ?_⟩
  intro word hword
  have hwords : words = mock.host.calls.filterMap (busWrite? series) :=
    hrun.stream
  rw [hwords] at hword
  obtain ⟨call, _, hcall⟩ := List.mem_filterMap.mp hword
  exact Registers.isSingle_of_busWrite?_eq_some hcall

/-- A read of two bytes on registers that start with a busy bus.  Of the words
that come in only the low byte is kept. -/
theorem run_alike_read :
    let memory : Registers.Memory := fun offset =>
      if offset = 0x10 then 1 else 0
    let block : Block .two := { memory, referenceClock := 38400000 }
    let answers : List Answer :=
      [⟨0x40, 0⟩, ⟨0xfff80020, 0x15a⟩, ⟨0x80, 7⟩, ⟨0x20, 0xffffffa5⟩]
    let begun := ({} : Transfer).start (.read 0x50 [0, 0])
      ({ block } : Traced .two)
    let chip := begun.answered Traced.give answers
    Device.busy block = Device.busy ({ busy := true } : Bench) ∧
      begun.outcomes Traced.give answers =
        [.inProgress, .inProgress, .inProgress, .inProgress, .done] ∧
      chip.transfer.held = some (.read 0x50 [0x5a, 0xa5]) ∧
      chip.host.stream.filter (Write.isOnBus .two) =
        [⟨0x0c, 0x20⟩, ⟨0x0c, 0x40⟩, ⟨0x34, 0xa1⟩, ⟨0x0c, 0x01⟩, ⟨0x0c, 0x04⟩,
          ⟨0x0c, 0x08⟩, ⟨0x0c, 0x02⟩] := by
  intro memory block answers
  have hbusy : Device.busy block = Device.busy ({ busy := true } : Bench) := by
    decide
  obtain ⟨houtcomes, htransfer, hwords, _⟩ :=
    run_alike hbusy {} (.read 0x50 [0, 0]) answers
  dsimp only
  rw [houtcomes, htransfer, hwords]
  exact ⟨hbusy, by decide, by decide, by decide⟩

end Transfer

end TwoWire
