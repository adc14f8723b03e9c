/-
How a register block is brought up.

The first call turns the peripheral off and only the last can turn it on again,
so it is off whenever anything else is programmed.  What the registers hold in
the end is what was configured; of what they held before, nothing remains but
the bits that no setting uses.  So to bring a block up twice is the same as to
bring it up once.
-/
import TwoWire.Proofs.Field
import TwoWire.Proofs.Tuning

namespace TwoWire

open Log (Logger)

/-- The calls that program a device, from the one that turns it off. -/
def Config.programming (config : Config) (divider : UInt16) : List Call :=
  [.enable false, .disableInterrupts .all, .clearInterrupts .all,
    .setControllerMode config.controllerMode] ++
    Clock.tuning config.ratio divider

def Config.bringingUp (config : Config) (divider : UInt16) : List Call :=
  config.programming divider ++ [.enable config.enable]

theorem Config.bringingUp_eq (config : Config) (divider : UInt16) :
    config.bringingUp divider =
      [.enable false, .disableInterrupts .all, .clearInterrupts .all,
        .setControllerMode config.controllerMode, .setClockRatio config.ratio,
        .setClockDivider divider, .enable config.enable] :=
  rfl

theorem Interrupts.ofWord_eq_empty {word : BitVec 32}
    (h : ∀ source : Interrupt, ¬ word.getLsbD source.bit = true) :
    ofWord word = ∅ := by
  have hempty : (⟨word⟩ : Interrupts) ∩ all = ∅ ∩ all := by
    apply inter_all_eq_iff.mpr
    intro source
    exact iff_of_false (h source) (not_mem_empty source)
  exact hempty.trans (by decide)

namespace Registers

variable {series : Series} {config : Config} {divider : UInt16}
  {before after later : Memory}

/-- The words through which sources are disabled and flags are cleared. -/
def silencers : Series → List Nat
  | .one => [(layout .one).enables, flagClear]
  | .two => [(layout .two).enables + clearWindow,
      (layout .two).flags + clearWindow]

/-- Every source was disabled and its flag was cleared: in the first generation
their bits are gone from the enables, and there is a word for the flags; the
second has a word for either. -/
def Silenced (before after : Memory) : Series → Prop
  | .one =>
    let enables := (layout .one).enables
    after enables = before enables &&& ~~~Interrupts.all.bits ∧
      after flagClear = Interrupts.all.bits
  | .two =>
    after ((layout .two).enables + clearWindow) = Interrupts.all.bits ∧
      after ((layout .two).flags + clearWindow) = Interrupts.all.bits

/-- What the registers of a block hold once it was brought up, and what they
held before. -/
structure BroughtUp (series : Series) (config : Config) (divider : UInt16)
    (before after : Memory) : Prop where
  enable : (Field.enable series).read after = if config.enable then 1 else 0
  target : (Field.target series).read after =
    if config.controllerMode then 0 else Control.target
  ratio : (Field.ratio series).read after =
    BitVec.ofNat 32 config.ratio.code <<< 8
  /-- All that the control word has besides. -/
  spare : (Field.spare series).read after = (Field.spare series).read before
  divider : after (layout series).clockDivider =
    BitVec.ofNat 32 divider.toNat
  silenced : Silenced before after series
  frame : ∀ offset, (∀ field ∈ fields series, offset ≠ field.offset) →
    offset ∉ silencers series → after offset = before offset

theorem mem_silencers_of_mem_writes {call : Call} {memory : Memory}
    (h : call = .disableInterrupts .all ∨ call = .clearInterrupts .all)
    {write : Write} (hwrite : write ∈ writes series memory call) :
    write.offset ∈ silencers series := by
  rcases h with rfl | rfl
  · rw [List.mem_singleton.mp hwrite]
    cases series with
    | one => exact List.mem_cons_self
    | two => exact List.mem_cons_self
  · rw [List.mem_singleton.mp hwrite]
    cases series with
    | one => exact List.mem_cons_of_mem _ List.mem_cons_self
    | two => exact List.mem_cons_of_mem _ List.mem_cons_self

theorem settingOf_of_mem_bringingUp {call : Call}
    (h : call ∈ config.bringingUp divider) :
    (settingOf call).isSome ∨ call = .disableInterrupts .all ∨
      call = .clearInterrupts .all := by
  rw [Config.bringingUp_eq] at h
  simp only [List.mem_cons, List.not_mem_nil, or_false] at h
  rcases h with rfl | rfl | rfl | rfl | rfl | rfl | rfl <;> simp [settingOf]

theorem broughtUp_run (hdivider : divider ≤ Clock.maxDivider)
    (block : Block series) :
    BroughtUp series config divider block.memory
      (Device.run (config.bringingUp divider) block).2.memory where
  enable := Field.read_run (by simp [fields]) _ block
  target := Field.read_run (by simp [fields]) _ block
  ratio := Field.read_run (by simp [fields]) _ block
  spare := Field.read_run (by simp [fields]) _ block
  divider := by
    have hroom : divider.toNat % 512 = divider.toNat :=
      Nat.mod_eq_of_lt (Nat.lt_succ_of_le (UInt16.le_iff_toNat_le.mp hdivider))
    have hfield : Field.divider series ∈ fields series := by simp [fields]
    have hread := Field.read_run hfield (config.bringingUp divider) block
    rw [← hroom]
    exact BitVec.and_allOnes.symm.trans hread
  silenced := by
    -- Of the seven calls only the second and the third write these words.
    cases series with
    | one =>
        simp [Silenced, Config.bringingUp_eq, Device.run, Device.perform,
          writes, putEnabled, putSources, putFlags, putBits, Memory.storeAll,
          layout, flagClear]
    | two =>
        simp [Silenced, Config.bringingUp_eq, Device.run, Device.perform,
          writes, putEnabled, putSources, putFlags, Memory.storeAll, layout,
          enableRegister, clearWindow]
  frame offset hfields hsilencers := by
    apply memory_run_of_forall_ne
    rintro call hcall memory write hwrite rfl
    rcases settingOf_of_mem_bringingUp hcall with hsetting | hsilencing
    · obtain ⟨field, hfield, heq⟩ :=
        exists_field_of_mem_writes hsetting hwrite
      exact hfields field hfield heq.symm
    · exact hsilencers (mem_silencers_of_mem_writes hsilencing hwrite)

/-- Once brought up, a block does not change when it is brought up again. -/
theorem BroughtUp.later_eq (h : BroughtUp series config divider before after)
    (hlater : BroughtUp series config divider after later) : later = after := by
  have hread : ∀ field ∈ fields series, field.read later = field.read after := by
    intro field hfield
    simp only [fields, List.mem_cons, List.not_mem_nil, or_false] at hfield
    rcases hfield with rfl | rfl | rfl | rfl | rfl
    · exact hlater.enable.trans h.enable.symm
    · exact hlater.target.trans h.target.symm
    · exact hlater.ratio.trans h.ratio.symm
    · exact hlater.spare
    · exact congrArg (· &&& _) (hlater.divider.trans h.divider.symm)
  have hsilenced : ∀ offset ∈ silencers series, later offset = after offset := by
    have hnow := h.silenced
    have hagain := hlater.silenced
    cases series with
    | one =>
        -- Bits that are gone cannot go again.
        have henables := hagain.1
        rw [hnow.1, BitVec.and_assoc, BitVec.and_self, ← hnow.1] at henables
        simpa [silencers, henables] using hagain.2.trans hnow.2.symm
    | two =>
        simpa [silencers] using
          And.intro (hagain.1.trans hnow.1.symm) (hagain.2.trans hnow.2.symm)
  funext offset
  by_cases hfield : ∃ field ∈ fields series, field.offset = offset
  · obtain ⟨field, hmem, rfl⟩ := hfield
    exact eq_of_fields_eq hmem hread
  · by_cases hoffset : offset ∈ silencers series
    · exact hsilenced offset hoffset
    · exact hlater.frame offset
        (fun field hmem heq => hfield ⟨field, hmem, heq.symm⟩) hoffset

/-- Between the first call and the last the peripheral is off. -/
theorem enable_read_take (block : Block series) {count : Nat}
    (hfirst : 0 < count)
    (hlast : count < (config.bringingUp divider).length) :
    (Field.enable series).read
      (Device.run ((config.bringingUp divider).take count) block).2.memory =
        0 := by
  have hcount : count ≤ (config.programming divider).length :=
    Nat.le_of_lt_succ hlast
  obtain ⟨rest, rfl⟩ : ∃ rest, count = rest + 1 :=
    Nat.exists_eq_add_one_of_ne_zero (Nat.ne_of_gt hfirst)
  -- None but the first of these calls is for the enable bit.
  have hnone : ∀ call ∈ ((config.programming divider).drop 1).take rest,
      (Field.enable series).given call = none := by
    intro call hcall
    have hmem := List.mem_of_mem_take hcall
    simp only [Config.programming, Clock.tuning, List.cons_append,
      List.nil_append, List.drop_succ_cons, List.drop_zero, List.mem_cons,
      List.not_mem_nil, or_false] at hmem
    rcases hmem with rfl | rfl | rfl | rfl | rfl <;> rfl
  have htake : (config.bringingUp divider).take (rest + 1) =
      .enable false :: ((config.programming divider).drop 1).take rest := by
    rw [Config.bringingUp, List.take_append_of_le_length hcount]
    rfl
  rw [htake, Field.read_run (by simp [fields]), Field.last_cons, Field.last,
    List.filterMap_eq_nil_iff.mpr hnone]
  rfl

/-- Whatever is in the registers, some bench knows it. -/
theorem exists_mirrors (memory : Memory) (series : Series) :
    ∃ bench, Mirrors memory series bench :=
  ⟨{ ratio := ratioOf (memory (layout series).control)
     divider :=
      ⟨(memory (layout series).clockDivider &&& dividerField).setWidth 16⟩
     enabled := ⟨memory (layout series).enables⟩
     pending := ⟨memory (layout series).flags⟩ },
    rfl, rfl, fun _ => Iff.rfl, fun _ => Iff.rfl⟩

theorem bringingUp_setsUp (config : Config)
    (hdivider : divider ≤ Clock.maxDivider) :
    ∀ call ∈ config.bringingUp divider, call.setsUp = true := by
  rw [Config.bringingUp_eq]
  simp only [List.forall_mem_cons]
  exact ⟨rfl, rfl, rfl, rfl, rfl, decide_eq_true hdivider, rfl, nofun⟩

/-- No source is enabled, and no flag is up. -/
theorem Silicon.quiet_run (hdivider : divider ≤ Clock.maxDivider)
    (silicon : Silicon series) :
    let after := (Device.run (config.bringingUp divider) silicon).2
    Device.enabled after = ∅ ∧ Device.pending after = ∅ := by
  intro after
  obtain ⟨bench, hbench⟩ := exists_mirrors silicon.block.memory series
  have hmirrors := hbench.run (bringingUp_setsUp config hdivider)
  have henabled : (Device.run (config.bringingUp divider) bench).2.enabled =
      bench.enabled \ .all := rfl
  have hpending : (Device.run (config.bringingUp divider) bench).2.pending =
      bench.pending \ .all := rfl
  constructor
  · apply Interrupts.ofWord_eq_empty
    intro source
    rw [hmirrors.enabled, henabled]
    simp
  · apply Interrupts.ofWord_eq_empty
    intro source
    rw [hmirrors.pending, hpending]
    simp

end Registers

namespace Controller

open Registers

variable {series : Series} {ℓ : Type} [Logger ℓ]

/-- Bringing a register block up leaves its registers as configured, with the
divider that the reference clock asks for: the configured one, or the block's
own if that is zero.  Of what they held before, only bits that belong to no
setting are left, and words that have none.  After every call but the last the
peripheral is off.  Bringing the block up again changes nothing.  In silicon no
source is enabled afterwards, and no flag is up. -/
theorem bringUp_registers (config : Config) (log : ℓ) (block : Block series) :
    let reference :=
      if config.reference = 0 then block.referenceClock else config.reference
    let divider := Clock.divider reference config.target config.ratio
    let up := (⟨block, config, log⟩ : Controller (Block series) ℓ).bringUp
    let recorded : Controller (Recorder (Block series)) ℓ :=
      ⟨{ device := block }, config, log⟩
    let calls := recorded.bringUp.device.calls
    BroughtUp series config divider block.memory up.device.memory ∧
      up.device = (Device.run calls block).2 ∧
      (∀ count, 0 < count → count < calls.length →
        (Field.enable series).read
          (Device.run (calls.take count) block).2.memory = 0) ∧
      up.bringUp.device = up.device ∧
      ∀ silicon : Silicon series,
        let quiet :=
          (⟨silicon, config, log⟩ : Controller (Silicon series) ℓ).bringUp
        Device.enabled quiet.device = ∅ ∧ Device.pending quiet.device = ∅ := by
  intro reference divider up recorded calls
  have hdivider : divider ≤ Clock.maxDivider := Clock.divider_le_max _ _ _
  have hcalls : calls = config.bringingUp divider := rfl
  have hup : up.device = (Device.run calls block).2 := rfl
  have hregisters : BroughtUp series config divider block.memory
      up.device.memory := broughtUp_run hdivider block
  have hagain : BroughtUp series config divider up.device.memory
      up.bringUp.device.memory := broughtUp_run hdivider up.device
  refine ⟨hregisters, hup, ?_, ?_, ?_⟩
  · intro count hfirst hlast
    rw [hcalls] at hlast ⊢
    exact enable_read_take block hfirst hlast
  · have hmemory := hregisters.later_eq hagain
    exact congrArg (fun memory => { up.device with memory }) hmemory
  · intro silicon quiet
    exact Silicon.quiet_run (Clock.divider_le_max _ _ _) silicon

/-- A block of the first generation all of whose bits are set, the ratio code
that means nothing among them, brought up for fast mode but not turned on. -/
theorem bringUp_registers_dirty :
    let block : Block .one :=
      { memory := fun _ => 0xffffffff, referenceClock := 38400000 }
    let config : Config :=
      { (Config.standard .one).inFastMode with enable := false }
    let up :=
      (⟨block, config, {}⟩ : Controller (Block .one) Log.Silent).bringUp
    up.device.memory (layout .one).control = 0xfffffdfc ∧
      up.device.memory (layout .one).clockDivider = 9 ∧
      up.device.memory (layout .one).enables = 0xfff80000 ∧
      up.device.memory flagClear = 0x7ffff ∧
      up.device.memory (layout .one).flags = 0xffffffff ∧
      up.bringUp.device = up.device := by
  intro block config up
  obtain ⟨hregisters, _, _, hagain, _⟩ :=
    bringUp_registers config ({} : Log.Silent) block
  have hflags := hregisters.frame (layout .one).flags (by decide) (by decide)
  obtain ⟨henables, hclear⟩ := hregisters.silenced
  refine ⟨by decide, ?_, henables.trans (by decide), hclear, hflags, hagain⟩
  exact hregisters.divider.trans (by decide)

end Controller

end TwoWire
