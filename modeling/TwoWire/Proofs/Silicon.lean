/-
The two register layouts in silicon.

A block of plain memory keeps the words that are written to it.  In silicon
some words stand for others: the first generation raises and clears flags
through two words of their own, the second sets and clears the bits of any
register through its windows.  `Silicon` is a block whose words have that
effect.  However a device is set up, both generations and the bench then read
back the same.
-/
import TwoWire.Bench
import TwoWire.Registers.Block

namespace TwoWire

/-- A call that sets a device up rather than drives the bus.  A divider has to
fit its register. -/
def Call.setsUp : Call → Bool
  | .setClockDivider divider => divider ≤ Clock.maxDivider
  | .enable _ | .reset | .setControllerMode _ | .setClockRatio _
  | .enableInterrupts _ | .disableInterrupts _ | .clearInterrupts _
  | .setInterrupts _ => true
  | _ => false

def Interrupt.sources : List Interrupt :=
  [startSent, repeatedStartSent, addressMatched, transmitComplete,
    transmitBufferLow, dataReceived, ackReceived, nackReceived, stopSent,
    arbitrationLost, busError, busHeld, transmitOverflow, receiveUnderflow,
    busIdleTimeout, clockLowTimeout, targetStop, receiveBufferFull,
    clockLowError]

theorem Interrupt.exists_bit_eq {index : Nat} (h : index < 19) :
    ∃ source : Interrupt, source.bit = index := by
  have hsources : sources.map bit = List.range 19 := rfl
  have hmem : index ∈ sources.map bit := by
    rw [hsources]
    exact List.mem_range.mpr h
  obtain ⟨source, _, hbit⟩ := List.mem_map.mp hmem
  exact ⟨source, hbit⟩

namespace Interrupts

theorem getLsbD_all (index : Nat) :
    all.bits.getLsbD index = decide (index < 19) := by
  have hall : all.bits = (BitVec.allOnes 19).setWidth 32 := rfl
  rw [hall, BitVec.getLsbD_setWidth, BitVec.getLsbD_allOnes]
  by_cases hindex : index < 19
  · have hwidth : index < 32 := Nat.lt_trans hindex (by decide)
    simp [hindex, hwidth]
  · simp [hindex]

/-- The sources of a word are all that is left of it once its other bits are
dropped. -/
theorem inter_all_eq_iff {a b : Interrupts} :
    a ∩ all = b ∩ all ↔ ∀ source, source ∈ a ↔ source ∈ b := by
  constructor
  · intro h source
    have hsource : source ∈ a ∩ all ↔ source ∈ b ∩ all := by rw [h]
    simpa using hsource
  · intro h
    apply Interrupts.ext
    apply BitVec.eq_of_getLsbD_eq
    intro index _
    have hinter : ∀ set : Interrupts, (set ∩ all).bits.getLsbD index =
        (set.bits.getLsbD index && decide (index < 19)) := by
      intro set
      rw [← getLsbD_all]
      exact BitVec.getLsbD_and
    rw [hinter, hinter]
    by_cases hindex : index < 19
    · obtain ⟨source, rfl⟩ := Interrupt.exists_bit_eq hindex
      have hsource := h source
      rw [mem_def, mem_def] at hsource
      rw [Bool.eq_iff_iff.mpr hsource]
    · simp [hindex]

theorem inter_all_inter (a b : Interrupts) :
    (a ∩ all) ∩ (b ∩ all) = (a ∩ b) ∩ all := by
  apply Interrupts.ext
  have hbits : (a.bits &&& all.bits) &&& (b.bits &&& all.bits) =
      (a.bits &&& b.bits) &&& (all.bits &&& all.bits) := by ac_rfl
  rw [BitVec.and_self] at hbits
  exact hbits

end Interrupts

namespace Registers

/-- The block after a word was written to it. -/
def Memory.latch (memory : Memory) (write : Write) : Series → Memory
  | .one =>
    let flags := (layout .one).flags
    if write.offset = flagSet then
      memory.store ⟨flags, memory flags ||| write.value⟩
    else if write.offset = flagClear then
      memory.store ⟨flags, memory flags &&& ~~~write.value⟩
    else memory.store write
  | .two =>
    if write.offset < setWindow then memory.store write
    else if write.offset < clearWindow then
      let register := write.offset - setWindow
      memory.store ⟨register, memory register ||| write.value⟩
    else
      let register := write.offset - clearWindow
      memory.store ⟨register, memory register &&& ~~~write.value⟩

def Memory.latchAll (memory : Memory) (writes : List Write)
    (series : Series) : Memory :=
  writes.foldl (fun memory write => memory.latch write series) memory

/-- A block whose words have the effect that the hardware gives them. -/
structure Silicon (series : Series) where
  block : Block series

namespace Silicon

variable {series : Series}

def powerUp (series : Series) (referenceClock : Hertz) : Silicon series :=
  ⟨{ referenceClock }⟩

def perform (call : Call) (silicon : Silicon series) : Silicon series :=
  let memory := silicon.block.memory
  ⟨{ silicon.block with
    memory := memory.latchAll (writes series memory call) series }⟩

instance : Device (Silicon series) where
  perform := perform
  received silicon := Device.received silicon.block
  clockRatio silicon := Device.clockRatio silicon.block
  clockDivider silicon := Device.clockDivider silicon.block
  referenceClock silicon := Device.referenceClock silicon.block
  enabled silicon := Device.enabled silicon.block
  pending silicon := Device.pending silicon.block
  busy silicon := Device.busy silicon.block

end Silicon

variable {memory later : Memory} {series : Series} {bench : Bench}
  {source : Interrupt}

/-- Both generations change the enabled sources alike, as long as nothing else
has changed them since the word was made. -/
theorem latch_putSources (mask : Word) (on : Bool)
    (h : later (layout series).enables = memory (layout series).enables) :
    later.latch (putSources mask on memory series) series =
      later.store ⟨(layout series).enables,
        putBits mask on (later (layout series).enables)⟩ := by
  cases series with
  | one =>
      rw [h]
      rfl
  | two =>
      cases on with
      | true =>
          simp [putSources, Memory.latch, layout, setWindow, clearWindow,
            putBits]
      | false =>
          simp [putSources, Memory.latch, layout, setWindow, clearWindow,
            putBits]

theorem latch_putFlags (mask : Word) (on : Bool) :
    memory.latch (putFlags mask on series) series =
      memory.store ⟨(layout series).flags,
        putBits mask on (memory (layout series).flags)⟩ := by
  cases series with
  | one =>
      cases on with
      | true => rfl
      | false => rfl
  | two =>
      cases on with
      | true =>
          simp [putFlags, Memory.latch, layout, setWindow, clearWindow,
            putBits]
      | false =>
          simp [putFlags, Memory.latch, layout, setWindow, clearWindow,
            putBits]

/-- The words that keep what is written to them and that a set-up uses. -/
def IsPlain (series : Series) (offset : Nat) : Prop :=
  offset = (layout series).control ∨ offset = (layout series).command ∨
    offset = (layout series).clockDivider ∨
    series = .two ∧ offset = enableRegister

theorem latch_of_isPlain {offset : Nat} (h : IsPlain series offset)
    (value : Word) :
    memory.latch ⟨offset, value⟩ series = memory.store ⟨offset, value⟩ := by
  cases series with
  | one =>
      rcases h with h | h | h | ⟨h, _⟩
      · simp [Memory.latch, h, layout, flagSet, flagClear]
      · simp [Memory.latch, h, layout, flagSet, flagClear]
      · simp [Memory.latch, h, layout, flagSet, flagClear]
      · cases h
  | two =>
      rcases h with h | h | h | ⟨_, h⟩
      · simp [Memory.latch, h, layout, setWindow]
      · simp [Memory.latch, h, layout, setWindow]
      · simp [Memory.latch, h, layout, setWindow]
      · simp [Memory.latch, h, enableRegister, setWindow]

theorem putBits_and {mask field : Word} (h : mask &&& field = 0) (on : Bool)
    (word : Word) : putBits mask on word &&& field = word &&& field := by
  have hnot : ~~~mask &&& field = field := by
    apply BitVec.eq_of_getLsbD_eq
    intro index hindex
    have hbit : (mask &&& field).getLsbD index = false := by simp [h]
    rw [BitVec.getLsbD_and] at hbit
    rw [BitVec.getLsbD_and, BitVec.getLsbD_not]
    cases hmask : mask.getLsbD index <;> simp_all
  cases on with
  | true => simp [putBits, BitVec.and_or_distrib_right, h]
  | false => simp [putBits, BitVec.and_assoc, hnot]

theorem ratioOf_putBits {mask : Word} (h : mask &&& Control.ratio = 0)
    (on : Bool) (word : Word) :
    ratioOf (putBits mask on word) = ratioOf word := by
  rw [ratioOf, putBits_and h, ratioOf]

theorem ratioOf_putRatio (ratio : ClockRatio) (word : Word) :
    ratioOf (putRatio ratio word) = ratio := by
  have hfield : putRatio ratio word &&& Control.ratio =
      (BitVec.ofNat 32 ratio.code <<< 8) &&& Control.ratio := by
    have hnone : ~~~Control.ratio &&& Control.ratio = 0 := by decide
    rw [putRatio, BitVec.and_or_distrib_right, BitVec.and_assoc, hnone]
    simp
  rw [ratioOf, hfield]
  cases ratio with
  | standard => rfl
  | asymmetric => rfl
  | fast => rfl

theorem mem_putBits {mask word : Word} {on : Bool} {source : Interrupt} :
    (putBits mask on word).getLsbD source.bit = true ↔
      if on then word.getLsbD source.bit = true ∨ source ∈ Interrupts.mk mask
      else word.getLsbD source.bit = true ∧ source ∉ Interrupts.mk mask := by
  have hbit : source.bit < 32 := Nat.lt_trans source.bit_lt (by decide)
  cases on with
  | true => simp [putBits, Interrupts.mem_def]
  | false => simp [putBits, Interrupts.mem_def, hbit]

/-- A divider that the register has room for comes back whole. -/
theorem setWidth_dividerField {divider : UInt16}
    (h : divider ≤ Clock.maxDivider) :
    ((divider.toBitVec.setWidth 32 &&& dividerField) &&&
      dividerField).setWidth 16 = divider.toBitVec := by
  have hle : divider.toNat ≤ 511 := UInt16.le_iff_toNat_le.mp h
  have hfield : dividerField.toNat = 2 ^ 9 - 1 := rfl
  have hwide : divider.toNat < 2 ^ 32 := Nat.lt_of_le_of_lt hle (by decide)
  have hnarrow : divider.toNat < 2 ^ 16 := Nat.lt_of_le_of_lt hle (by decide)
  have hnine : divider.toNat < 2 ^ 9 := Nat.lt_of_le_of_lt hle (by decide)
  apply BitVec.eq_of_toNat_eq
  rw [BitVec.and_assoc, BitVec.and_self, BitVec.toNat_setWidth,
    BitVec.toNat_and, BitVec.toNat_setWidth, hfield, UInt16.toNat_toBitVec,
    Nat.mod_eq_of_lt hwide, Nat.and_two_pow_sub_one_eq_mod,
    Nat.mod_eq_of_lt hnine, Nat.mod_eq_of_lt hnarrow]

/-- What is read back from the registers, up to the bits of no source. -/
structure Reads (memory : Memory) (series : Series) (ratio : ClockRatio)
    (divider : UInt16) (enabled pending : Interrupts) : Prop where
  ratio : ratioOf (memory (layout series).control) = ratio
  divider : (memory (layout series).clockDivider &&& dividerField).setWidth 16 =
    divider.toBitVec
  enabled : ∀ source : Interrupt,
    (memory (layout series).enables).getLsbD source.bit = true ↔
      source ∈ enabled
  pending : ∀ source : Interrupt,
    (memory (layout series).flags).getLsbD source.bit = true ↔
      source ∈ pending

namespace Reads

variable {ratio : ClockRatio} {divider : UInt16} {enabled pending : Interrupts}

theorem control (h : Reads memory series ratio divider enabled pending)
    {word : Word} {other : ClockRatio} (hratio : ratioOf word = other) :
    Reads (memory.latch ⟨(layout series).control, word⟩ series) series other
      divider enabled pending := by
  rw [latch_of_isPlain (Or.inl rfl)]
  cases series with
  | one => exact ⟨hratio, h.divider, h.enabled, h.pending⟩
  | two => exact ⟨hratio, h.divider, h.enabled, h.pending⟩

theorem clockDivider (h : Reads memory series ratio divider enabled pending)
    {word : Word} {other : UInt16}
    (hword : (word &&& dividerField).setWidth 16 = other.toBitVec) :
    Reads (memory.latch ⟨(layout series).clockDivider, word⟩ series) series
      ratio other enabled pending := by
  rw [latch_of_isPlain (Or.inr (Or.inr (Or.inl rfl)))]
  cases series with
  | one => exact ⟨h.ratio, hword, h.enabled, h.pending⟩
  | two => exact ⟨h.ratio, hword, h.enabled, h.pending⟩

/-- A command is nothing that is read back. -/
theorem command (h : Reads memory series ratio divider enabled pending)
    (word : Word) :
    Reads (memory.latch ⟨(layout series).command, word⟩ series) series ratio
      divider enabled pending := by
  rw [latch_of_isPlain (Or.inr (Or.inl rfl))]
  cases series with
  | one => exact ⟨h.ratio, h.divider, h.enabled, h.pending⟩
  | two => exact ⟨h.ratio, h.divider, h.enabled, h.pending⟩

/-- Nor is the enable bit, although the first generation has it in the control
word. -/
theorem putEnabled (h : Reads memory series ratio divider enabled pending)
    (on : Bool) :
    Reads (memory.latch (putEnabled on memory series) series) series ratio
      divider enabled pending := by
  cases series with
  | one => exact h.control ((ratioOf_putBits (by decide) on _).trans h.ratio)
  | two =>
      rw [Registers.putEnabled,
        latch_of_isPlain (Or.inr (Or.inr (Or.inr ⟨rfl, rfl⟩)))]
      exact ⟨h.ratio, h.divider, h.enabled, h.pending⟩

theorem putSources (h : Reads later series ratio divider enabled pending)
    (set : Interrupts) (on : Bool)
    (hsame : later (layout series).enables = memory (layout series).enables) :
    Reads (later.latch (putSources set.bits on memory series) series) series
      ratio divider (if on then enabled ∪ set else enabled \ set) pending := by
  have hbits : ∀ source : Interrupt, (putBits set.bits on
      (later (layout series).enables)).getLsbD source.bit = true ↔
        source ∈ if on then enabled ∪ set else enabled \ set := by
    intro source
    rw [mem_putBits, h.enabled]
    cases on with
    | true => exact Interrupts.mem_union.symm
    | false => exact Interrupts.mem_sdiff.symm
  rw [latch_putSources set.bits on hsame]
  cases series with
  | one => exact ⟨h.ratio, h.divider, hbits, h.pending⟩
  | two => exact ⟨h.ratio, h.divider, hbits, h.pending⟩

theorem putFlags (h : Reads memory series ratio divider enabled pending)
    (set : Interrupts) (on : Bool) :
    Reads (memory.latch (putFlags set.bits on series) series) series ratio
      divider enabled (if on then pending ∪ set else pending \ set) := by
  have hbits : ∀ source : Interrupt, (putBits set.bits on
      (memory (layout series).flags)).getLsbD source.bit = true ↔
        source ∈ if on then pending ∪ set else pending \ set := by
    intro source
    rw [mem_putBits, h.pending]
    cases on with
    | true => exact Interrupts.mem_union.symm
    | false => exact Interrupts.mem_sdiff.symm
  rw [latch_putFlags]
  cases series with
  | one => exact ⟨h.ratio, h.divider, h.enabled, hbits⟩
  | two => exact ⟨h.ratio, h.divider, h.enabled, hbits⟩

theorem reset (h : Reads memory series ratio divider enabled pending) :
    Reads (memory.latchAll (writes series memory .reset) series) series
      .standard 0 ∅ ∅ := by
  have hkept : memory.latch (Registers.putEnabled false memory series) series
      (layout series).enables = memory (layout series).enables := by
    cases series with
    | one => rfl
    | two => rfl
  have hratio : ratioOf 0 = .standard := rfl
  have hdivider : ((0 : Word) &&& dividerField).setWidth 16 =
      (0 : UInt16).toBitVec := rfl
  have hquiet := ((h.putEnabled false).putSources .all false hkept).putFlags
    .all false
  have hlast := ((hquiet.control hratio).clockDivider hdivider).command
    (Command.abort ||| Command.clearTransmit ||| Command.clearPending)
  refine ⟨hlast.ratio, hlast.divider, ?_, ?_⟩
  · intro source
    refine (hlast.enabled source).trans ?_
    simp
  · intro source
    refine (hlast.pending source).trans ?_
    simp

end Reads

/-- The registers read back what the bench knows. -/
def Mirrors (memory : Memory) (series : Series) (bench : Bench) : Prop :=
  Reads memory series bench.ratio bench.divider bench.enabled bench.pending

theorem Mirrors.perform (h : Mirrors memory series bench) {call : Call}
    (hcall : call.setsUp = true) :
    Mirrors (memory.latchAll (writes series memory call) series) series
      (Bench.perform call bench) := by
  cases call with
  | enable on => exact Reads.putEnabled h on
  | reset => exact Reads.reset h
  | setControllerMode on =>
      exact Reads.control h ((ratioOf_putBits (by decide) _ _).trans h.ratio)
  | setClockRatio ratio => exact Reads.control h (ratioOf_putRatio ratio _)
  | setClockDivider divider =>
      have hroom : divider ≤ Clock.maxDivider := of_decide_eq_true hcall
      exact Reads.clockDivider h (setWidth_dividerField hroom)
  | enableInterrupts set => exact Reads.putSources h set true rfl
  | disableInterrupts set => exact Reads.putSources h set false rfl
  | clearInterrupts set => exact Reads.putFlags h set false
  | setInterrupts set => exact Reads.putFlags h set true
  | _ => cases hcall

/-- Registers and bench stay in step through any set-up. -/
theorem Mirrors.run {calls : List Call}
    (hcalls : ∀ call ∈ calls, call.setsUp = true) {silicon : Silicon series}
    (h : Mirrors silicon.block.memory series bench) :
    Mirrors (Device.run calls silicon).2.block.memory series
      (Device.run calls bench).2 := by
  induction calls generalizing silicon bench with
  | nil => exact h
  | cons call rest ih =>
      rw [List.forall_mem_cons] at hcalls
      exact ih hcalls.2 (h.perform hcalls.1)

theorem mirrors_powerUp (series : Series) (referenceClock : Hertz) :
    Mirrors (Silicon.powerUp series referenceClock).block.memory series
      {} where
  ratio := by
    have hzero : ratioOf 0 = .standard := by decide
    exact hzero
  divider := by
    have hzero : ((0 : Word) &&& dividerField).setWidth 16 =
        (0 : UInt16).toBitVec := by decide
    exact hzero
  enabled source := by simp [Silicon.powerUp]
  pending source := by simp [Silicon.powerUp]

/-- Both generations and the bench are one device: after any calls that set
them up, from power-up on, the same is read back from all of them, but for the
bits of no source that a bench may keep. -/
theorem run_reads_alike {calls : List Call}
    (h : ∀ call ∈ calls, call.setsUp = true) (series : Series)
    (referenceClock : Hertz) :
    let silicon :=
      (Device.run calls (Silicon.powerUp series referenceClock)).2
    let bench := (Device.run calls ({} : Bench)).2
    Device.clockRatio silicon = Device.clockRatio bench ∧
      Device.clockDivider silicon = Device.clockDivider bench ∧
      Device.enabled silicon = Device.enabled bench ∩ .all ∧
      Device.pending silicon = Device.pending bench ∩ .all ∧
      Device.enabledPending silicon = Device.enabledPending bench ∩ .all := by
  intro silicon bench
  have hmirrors : Mirrors silicon.block.memory series bench :=
    (mirrors_powerUp series referenceClock).run h
  have henabled : Device.enabled silicon = Device.enabled bench ∩ .all :=
    Interrupts.inter_all_eq_iff.mpr hmirrors.enabled
  have hpending : Device.pending silicon = Device.pending bench ∩ .all :=
    Interrupts.inter_all_eq_iff.mpr hmirrors.pending
  refine ⟨hmirrors.ratio, UInt16.toBitVec_inj.mp hmirrors.divider,
    henabled, hpending, ?_⟩
  rw [Device.enabledPending, Device.enabledPending, henabled, hpending,
    Interrupts.inter_all_inter]

/-- Unknown bits in a mask, a flag that is raised and cleared again, and a
reset on the way. -/
theorem run_reads_alike_reset :
    let calls : List Call :=
      [.setInterrupts ⟨0xffffffff⟩, .setClockRatio .asymmetric, .reset,
        .enable true, .setControllerMode false, .enableInterrupts ⟨0x80000fff⟩,
        .disableInterrupts {Interrupt.ackReceived}, .setClockRatio .fast,
        .setClockDivider 0x1ff, .setInterrupts ⟨0xc0000041⟩,
        .clearInterrupts {Interrupt.startSent}]
    (∀ call ∈ calls, call.setsUp = true) ∧ ∀ series,
      let silicon := (Device.run calls (Silicon.powerUp series 38400000)).2
      Device.clockRatio silicon = .fast ∧
        Device.clockDivider silicon = 0x1ff ∧
        Device.enabled silicon = ⟨0xfbf⟩ ∧
        Device.pending silicon = ⟨0x40⟩ ∧
        Device.enabledPending silicon = ⟨0⟩ := by
  intro calls
  have hcalls : ∀ call ∈ calls, call.setsUp = true := by decide
  refine ⟨hcalls, ?_⟩
  intro series silicon
  obtain ⟨hratio, hdivider, henabled, hpending, hboth⟩ :=
    run_reads_alike hcalls series 38400000
  exact ⟨hratio, hdivider, henabled.trans (by decide),
    hpending.trans (by decide), hboth.trans (by decide)⟩

end Registers

end TwoWire
