/-
What calls do to the registers.

Most registers that a call writes take a whole word.  The control word is
shared: each of its fields has a call of its own, which writes the other fields
back as it found them.  So a field holds what the last call for it has put
there, whatever else was called in between, and what has no call keeps its
value until a reset.  Calls for different fields may trade places.
-/
import TwoWire.Proofs.Backend
import TwoWire.Proofs.Silicon

namespace TwoWire.Registers

variable {series : Series} {memory : Memory} {call : Call}

def writable (series : Series) : List Nat :=
  let registers := layout series
  [registers.control, registers.command, registers.clockDivider,
    registers.transmitData] ++
    match series with
    | .one => [flagSet, flagClear, registers.enables]
    | .two =>
      [enableRegister, registers.flags + setWindow,
        registers.flags + clearWindow, registers.enables + setWindow,
        registers.enables + clearWindow]

def readOnly (series : Series) : List Nat :=
  let registers := layout series
  [registers.flags, registers.state, registers.receiveData] ++
    match series with
    | .one => []
    | .two => [registers.enables]

theorem offset_mem_writable (series : Series) (memory : Memory)
    (call : Call) :
    ∀ write ∈ writes series memory call, write.offset ∈ writable series := by
  cases series with
  | one =>
      cases call <;>
        simp [writes, writable, putEnabled, putSources, putFlags, layout,
          flagSet, flagClear]
  | two =>
      cases call <;>
        simp [writes, writable, putEnabled, putSources, putFlags, layout,
          enableRegister, setWindow, clearWindow]

theorem not_mem_writable_of_readOnly {offset : Nat}
    (h : offset ∈ readOnly series) : offset ∉ writable series := by
  cases series with
  | one => revert h offset; decide
  | two => revert h offset; decide

/-- The control word after a call.  Only the first generation has the enable
bit in it. -/
def controlAfter (series : Series) (word : Word) : Call → Word
  | .enable on =>
    match series with
    | .one => putBits Control.enable on word
    | .two => word
  | .reset => 0
  | .setControllerMode on => putBits Control.target (!on) word
  | .setClockRatio ratio => putRatio ratio word
  | _ => word

theorem storeAll_writes_control (series : Series) (memory : Memory)
    (call : Call) :
    memory.storeAll (writes series memory call) (layout series).control =
      controlAfter series (memory (layout series).control) call := by
  cases series with
  | one => cases call <;> rfl
  | two => cases call <;> rfl

theorem storeAll_writes_clockDivider (series : Series) (memory : Memory)
    (call : Call) :
    memory.storeAll (writes series memory call) (layout series).clockDivider =
      match call with
      | .setClockDivider divider =>
        divider.toBitVec.setWidth 32 &&& dividerField
      | .reset => 0
      | _ => memory (layout series).clockDivider := by
  cases series with
  | one => cases call <;> rfl
  | two => cases call <;> rfl

theorem storeAll_writes_enableRegister (memory : Memory) (call : Call) :
    memory.storeAll (writes .two memory call) enableRegister =
      match call with
      | .enable on => if on then 1 else 0
      | .reset => 0
      | _ => memory enableRegister := by
  cases call <;> rfl

/-- A setting that has a field of its own. -/
inductive Setting where
  | enable
  | role
  | ratio
  | divider
deriving DecidableEq

def settingOf : Call → Option Setting
  | .enable _ => some .enable
  | .setControllerMode _ => some .role
  | .setClockRatio _ => some .ratio
  | .setClockDivider _ => some .divider
  | _ => none

/-- A part of a word, and what calls put into it. -/
structure Field where
  offset : Nat
  mask : Word
  given : Call → Option Word

namespace Field

def read (field : Field) (memory : Memory) : Word :=
  memory field.offset &&& field.mask

/-- The second generation has a register for it. -/
def enable (series : Series) : Field where
  offset :=
    match series with
    | .one => (layout .one).control
    | .two => enableRegister
  mask :=
    match series with
    | .one => Control.enable
    | .two => BitVec.allOnes 32
  given
    | .enable on => some (if on then 1 else 0)
    | .reset => some 0
    | _ => none

/-- A controller is no target. -/
def target (series : Series) : Field where
  offset := (layout series).control
  mask := Control.target
  given
    | .setControllerMode on => some (if on then 0 else Control.target)
    | .reset => some 0
    | _ => none

/-- Two bits, which hold the code of the ratio. -/
def ratio (series : Series) : Field where
  offset := (layout series).control
  mask := Control.ratio
  given
    | .setClockRatio ratio => some (BitVec.ofNat 32 ratio.code <<< 8)
    | .reset => some 0
    | _ => none

/-- What the control word has besides, which only a reset changes. -/
def spare (series : Series) : Field where
  offset := (layout series).control
  mask :=
    match series with
    | .one => ~~~(Control.enable ||| Control.target ||| Control.ratio)
    | .two => ~~~(Control.target ||| Control.ratio)
  given
    | .reset => some 0
    | _ => none

/-- A register of its own, nine bits of which are ever used. -/
def divider (series : Series) : Field where
  offset := (layout series).clockDivider
  mask := BitVec.allOnes 32
  given
    | .setClockDivider divider =>
      some (BitVec.ofNat 32 (divider.toNat % 512))
    | .reset => some 0
    | _ => none

end Field

def fields (series : Series) : List Field :=
  [.enable series, .target series, .ratio series, .spare series,
    .divider series]

theorem putBits_and_self (mask : Word) (on : Bool) (word : Word) :
    putBits mask on word &&& mask = if on then mask else 0 := by
  apply BitVec.eq_of_getLsbD_eq
  intro index hindex
  cases on with
  | true => cases h : mask.getLsbD index <;> simp [putBits, h]
  | false => cases h : mask.getLsbD index <;> simp [putBits, h]

theorem ratio_code_and (ratio : ClockRatio) :
    BitVec.ofNat 32 ratio.code <<< 8 &&& Control.ratio =
      BitVec.ofNat 32 ratio.code <<< 8 := by
  cases ratio with
  | standard => rfl
  | asymmetric => rfl
  | fast => rfl

theorem putRatio_and {field : Word} (h : Control.ratio &&& field = 0)
    (ratio : ClockRatio) (word : Word) :
    putRatio ratio word &&& field = word &&& field := by
  have hcode : BitVec.ofNat 32 ratio.code <<< 8 &&& field = 0 := by
    rw [← ratio_code_and, BitVec.and_assoc, h]
    exact BitVec.and_zero
  rw [putRatio, BitVec.and_or_distrib_right, hcode]
  exact (BitVec.or_zero).trans (putBits_and h false word)

theorem putRatio_and_self (ratio : ClockRatio) (word : Word) :
    putRatio ratio word &&& Control.ratio =
      BitVec.ofNat 32 ratio.code <<< 8 := by
  have hcleared : word &&& ~~~Control.ratio &&& Control.ratio = 0 :=
    putBits_and_self Control.ratio false word
  rw [putRatio, BitVec.and_or_distrib_right, hcleared, ratio_code_and]
  exact BitVec.zero_or

def controlBits (series : Series) : Setting → Word
  | .enable =>
    match series with
    | .one => Control.enable
    | .two => 0
  | .role => Control.target
  | .ratio => Control.ratio
  | .divider => 0

/-- Only a reset changes more than the bits of one setting. -/
theorem controlAfter_and (hreset : call ≠ .reset) {field : Word}
    (h : ∀ setting, settingOf call = some setting →
      controlBits series setting &&& field = 0) (word : Word) :
    controlAfter series word call &&& field = word &&& field := by
  cases call with
  | enable on =>
      cases series with
      | one => exact putBits_and (h .enable rfl) on word
      | two => rfl
  | reset => exact absurd rfl hreset
  | setControllerMode on => exact putBits_and (h .role rfl) _ word
  | setClockRatio ratio => exact putRatio_and (h .ratio rfl) ratio word
  | _ => rfl

theorem setWidth_and_dividerField (divider : UInt16) :
    divider.toBitVec.setWidth 32 &&& dividerField =
      BitVec.ofNat 32 (divider.toNat % 512) := by
  have hfield : dividerField.toNat = 2 ^ 9 - 1 := rfl
  have hwide : divider.toNat < 2 ^ 32 :=
    Nat.lt_trans divider.toNat_lt (by decide)
  have hnine : divider.toNat % 512 < 2 ^ 32 := by omega
  apply BitVec.eq_of_toNat_eq
  rw [BitVec.toNat_and, BitVec.toNat_setWidth, hfield,
    UInt16.toNat_toBitVec, Nat.mod_eq_of_lt hwide,
    Nat.and_two_pow_sub_one_eq_mod, BitVec.toNat_ofNat,
    Nat.mod_eq_of_lt hnine]

namespace Field

/-- What calls put into the field is what becomes of it. -/
def Obeyed (field : Field) (series : Series) : Prop :=
  ∀ memory call, field.read (memory.storeAll (writes series memory call)) =
    (field.given call).getD (field.read memory)

theorem enable_obeyed (series : Series) : (enable series).Obeyed series := by
  intro memory call
  cases series with
  | one =>
      refine (congrArg (· &&& Control.enable)
        (storeAll_writes_control .one memory call)).trans ?_
      cases call with
      | enable on => exact putBits_and_self _ on _
      | reset => exact BitVec.zero_and
      | _ =>
          apply controlAfter_and
          · nofun
          · rintro _ ⟨⟩ <;> decide
  | two =>
      refine (congrArg (· &&& BitVec.allOnes 32)
        (storeAll_writes_enableRegister memory call)).trans ?_
      cases call with
      | enable on => exact BitVec.and_allOnes
      | reset => exact BitVec.zero_and
      | _ => rfl

theorem target_obeyed (series : Series) : (target series).Obeyed series := by
  intro memory call
  refine (congrArg (· &&& Control.target)
    (storeAll_writes_control series memory call)).trans ?_
  cases call with
  | setControllerMode on =>
      refine (putBits_and_self _ _ _).trans ?_
      cases on <;> rfl
  | reset => exact BitVec.zero_and
  | _ =>
      apply controlAfter_and
      · nofun
      · rintro _ ⟨⟩ <;> cases series <;> decide

theorem ratio_obeyed (series : Series) : (ratio series).Obeyed series := by
  intro memory call
  refine (congrArg (· &&& Control.ratio)
    (storeAll_writes_control series memory call)).trans ?_
  cases call with
  | setClockRatio ratio => exact putRatio_and_self _ _
  | reset => exact BitVec.zero_and
  | _ =>
      apply controlAfter_and
      · nofun
      · rintro _ ⟨⟩ <;> cases series <;> decide

theorem spare_obeyed (series : Series) : (spare series).Obeyed series := by
  intro memory call
  refine (congrArg (· &&& (spare series).mask)
    (storeAll_writes_control series memory call)).trans ?_
  cases call with
  | reset => exact BitVec.zero_and
  | _ =>
      apply controlAfter_and
      · nofun
      · rintro _ ⟨⟩ <;> cases series <;> decide

theorem divider_obeyed (series : Series) : (divider series).Obeyed series := by
  intro memory call
  refine (congrArg (· &&& BitVec.allOnes 32)
    (storeAll_writes_clockDivider series memory call)).trans ?_
  cases call with
  | setClockDivider divider =>
      exact BitVec.and_allOnes.trans (setWidth_and_dividerField divider)
  | reset => exact BitVec.zero_and
  | _ => rfl

theorem obeyed_of_mem {field : Field} (h : field ∈ fields series) :
    field.Obeyed series := by
  simp only [fields, List.mem_cons, List.not_mem_nil, or_false] at h
  rcases h with rfl | rfl | rfl | rfl | rfl
  · exact enable_obeyed series
  · exact target_obeyed series
  · exact ratio_obeyed series
  · exact spare_obeyed series
  · exact divider_obeyed series

/-- What calls leave in the field: the last thing that was put into it, or
what it held before. -/
def last (field : Field) (calls : List Call) (before : Word) : Word :=
  (calls.filterMap field.given).getLast?.getD before

theorem last_cons (field : Field) (call : Call) (rest : List Call)
    (before : Word) :
    field.last (call :: rest) before =
      field.last rest ((field.given call).getD before) := by
  cases h : field.given call with
  | none => simp [last, h]
  | some value => simp [last, h, List.getLast?_cons]

theorem read_run {field : Field} (h : field ∈ fields series)
    (calls : List Call) (block : Block series) :
    field.read (Device.run calls block).2.memory =
      field.last calls (field.read block.memory) := by
  induction calls generalizing block with
  | nil => rfl
  | cons call rest ih =>
      rw [last_cons, ← obeyed_of_mem h block.memory call]
      exact ih (Device.perform call block)

end Field

/-- What no call writes stays. -/
theorem memory_run_of_forall_ne {calls : List Call} {offset : Nat}
    (h : ∀ call ∈ calls, ∀ memory, ∀ write ∈ writes series memory call,
      offset ≠ write.offset) (block : Block series) :
    (Device.run calls block).2.memory offset = block.memory offset := by
  induction calls generalizing block with
  | nil => rfl
  | cons call rest ih =>
      rw [List.forall_mem_cons] at h
      refine (ih h.2 (Device.perform call block)).trans ?_
      exact Memory.storeAll_of_forall_ne (h.1 block.memory)

theorem memory_run_of_not_mem {offset : Nat} (h : offset ∉ writable series)
    (calls : List Call) (block : Block series) :
    (Device.run calls block).2.memory offset = block.memory offset := by
  apply memory_run_of_forall_ne
  rintro call _ memory write hwrite rfl
  exact h (offset_mem_writable series memory call write hwrite)

theorem Traced.offset_mem_writable_of_mem_run (calls : List Call)
    {traced : Traced series}
    (h : ∀ write ∈ traced.stream, write.offset ∈ writable series) :
    ∀ write ∈ (Device.run calls traced).2.stream,
      write.offset ∈ writable series := by
  induction calls generalizing traced with
  | nil => exact h
  | cons call rest ih =>
      apply ih
      intro write hwrite
      rcases List.mem_append.mp hwrite with hearlier | hnew
      · exact h write hearlier
      · exact offset_mem_writable series traced.block.memory call write hnew

/-- Of all settings one at most goes into a field. -/
theorem Field.exists_setting {field : Field} (h : field ∈ fields series) :
    ∃ own : Option Setting, ∀ call setting, settingOf call = some setting →
      field.given call ≠ none → own = some setting := by
  simp only [fields, List.mem_cons, List.not_mem_nil, or_false] at h
  rcases h with rfl | rfl | rfl | rfl | rfl
  · refine ⟨some .enable, fun call setting hsetting hgiven => ?_⟩
    cases call with
    | enable on => exact hsetting
    | reset => cases hsetting
    | _ => exact absurd rfl hgiven
  · refine ⟨some .role, fun call setting hsetting hgiven => ?_⟩
    cases call with
    | setControllerMode on => exact hsetting
    | reset => cases hsetting
    | _ => exact absurd rfl hgiven
  · refine ⟨some .ratio, fun call setting hsetting hgiven => ?_⟩
    cases call with
    | setClockRatio ratio => exact hsetting
    | reset => cases hsetting
    | _ => exact absurd rfl hgiven
  · refine ⟨none, fun call setting hsetting hgiven => ?_⟩
    cases call with
    | reset => cases hsetting
    | _ => exact absurd rfl hgiven
  · refine ⟨some .divider, fun call setting hsetting hgiven => ?_⟩
    cases call with
    | setClockDivider divider => exact hsetting
    | reset => cases hsetting
    | _ => exact absurd rfl hgiven

theorem Field.last_swap {field : Field} {one other : Call}
    (h : field.given one = none ∨ field.given other = none) (before : Word) :
    field.last [one, other] before = field.last [other, one] before := by
  rcases h with h | h <;> simp [last_cons, h]

/-- A setting goes nowhere but into fields. -/
theorem exists_field_of_mem_writes {call : Call}
    (h : (settingOf call).isSome) {write : Write}
    (hwrite : write ∈ writes series memory call) :
    ∃ field ∈ fields series, field.offset = write.offset := by
  cases call with
  | enable on =>
      rw [List.mem_singleton.mp hwrite]
      refine ⟨.enable series, by simp [fields], ?_⟩
      cases series with
      | one => rfl
      | two => rfl
  | setControllerMode on =>
      rw [List.mem_singleton.mp hwrite]
      exact ⟨.target series, by simp [fields], rfl⟩
  | setClockRatio ratio =>
      rw [List.mem_singleton.mp hwrite]
      exact ⟨.ratio series, by simp [fields], rfl⟩
  | setClockDivider divider =>
      rw [List.mem_singleton.mp hwrite]
      exact ⟨.divider series, by simp [fields], rfl⟩
  | _ => cases h

theorem and_or_congr {word other : Word} {masks : List Word}
    (h : ∀ mask ∈ masks, word &&& mask = other &&& mask) :
    word &&& masks.foldr (· ||| ·) 0 = other &&& masks.foldr (· ||| ·) 0 := by
  induction masks with
  | nil => exact BitVec.and_zero.trans BitVec.and_zero.symm
  | cons mask rest ih =>
      rw [List.forall_mem_cons] at h
      rw [List.foldr_cons, BitVec.and_or_distrib_left,
        BitVec.and_or_distrib_left, h.1, ih h.2]

def masksAt (series : Series) (offset : Nat) : List Word :=
  ((fields series).filter (·.offset = offset)).map Field.mask

/-- No bit of a word with a field is left out. -/
theorem masksAt_cover {field : Field} (h : field ∈ fields series) :
    (masksAt series field.offset).foldr (· ||| ·) 0 = BitVec.allOnes 32 := by
  cases series with
  | one => revert h field; decide
  | two => revert h field; decide

theorem eq_of_fields_eq {later : Memory} {field : Field}
    (hfield : field ∈ fields series)
    (h : ∀ field ∈ fields series, field.read later = field.read memory) :
    later field.offset = memory field.offset := by
  have hmasks : ∀ mask ∈ masksAt series field.offset,
      later field.offset &&& mask = memory field.offset &&& mask := by
    intro mask hmask
    obtain ⟨other, hother, rfl⟩ := List.mem_map.mp hmask
    obtain ⟨hmem, hoffset⟩ := List.mem_filter.mp hother
    rw [← of_decide_eq_true hoffset]
    exact h other hmem
  have hwhole := and_or_congr hmasks
  rwa [masksAt_cover hfield, BitVec.and_allOnes, BitVec.and_allOnes] at hwhole

/-- Settings touch no word outside their fields. -/
theorem memory_run_of_forall_settingOf {calls : List Call}
    (h : ∀ call ∈ calls, (settingOf call).isSome) {offset : Nat}
    (hoffset : ∀ field ∈ fields series, offset ≠ field.offset)
    (block : Block series) :
    (Device.run calls block).2.memory offset = block.memory offset := by
  apply memory_run_of_forall_ne
  rintro call hcall memory write hwrite rfl
  obtain ⟨field, hfield, heq⟩ := exists_field_of_mem_writes (h call hcall) hwrite
  exact hoffset field hfield heq.symm

theorem ne_readData_of_settingOf {call : Call} {setting : Setting}
    (h : settingOf call = some setting) : call ≠ .readData := by
  rintro rfl
  cases h

theorem given_eq_none_or_of_ne {field : Field} (hfield : field ∈ fields series)
    {one other : Call} {setting another : Setting}
    (hone : settingOf one = some setting)
    (hother : settingOf other = some another) (hne : setting ≠ another) :
    field.given one = none ∨ field.given other = none := by
  obtain ⟨own, hown⟩ := Field.exists_setting hfield
  by_cases hfirst : field.given one = none
  · exact Or.inl hfirst
  · refine Or.inr (Decidable.of_not_not fun hsecond => hne ?_)
    have hsetting := hown one setting hone hfirst
    have hanother := hown other another hother hsecond
    exact Option.some.inj (hsetting.symm.trans hanother)

theorem run_swap {one other : Call} {setting another : Setting}
    (hone : settingOf one = some setting)
    (hother : settingOf other = some another) (hne : setting ≠ another)
    (block : Block series) :
    Device.run [one, other] block = Device.run [other, one] block := by
  have hmemory : (Device.run [one, other] block).2.memory =
      (Device.run [other, one] block).2.memory := by
    funext offset
    -- A word that has fields is what they are, and no other word is written.
    by_cases h : ∃ field ∈ fields series, field.offset = offset
    · obtain ⟨field, hfield, rfl⟩ := h
      apply eq_of_fields_eq hfield
      intro part hpart
      rw [Field.read_run hpart, Field.read_run hpart]
      exact Field.last_swap (given_eq_none_or_of_ne hpart hone hother hne) _
    · have houtside : ∀ field ∈ fields series, offset ≠ field.offset :=
        fun field hfield heq => h ⟨field, hfield, heq.symm⟩
      have hsome : ∀ call, call = one ∨ call = other →
          (settingOf call).isSome := by
        rintro call (rfl | rfl)
        · exact Option.isSome_of_eq_some hone
        · exact Option.isSome_of_eq_some hother
      rw [memory_run_of_forall_settingOf (by simpa using hsome) houtside,
        memory_run_of_forall_settingOf _ houtside]
      simpa [or_comm] using hsome
  simp only [Device.run, ne_readData_of_settingOf hone,
    ne_readData_of_settingOf hother, if_false]
  exact congrArg (fun memory => ([], { block with memory })) hmemory

/-- Of the registers, calls change the writable ones at most, and none that are
only read.  Each field holds what the last call for it has put there, which is
nothing after a reset, or else what it held before, whatever the registers held
at the start.  Calls for different settings trade places. -/
theorem run_keeps_fields (calls : List Call) (block : Block series) :
    let after := (Device.run calls block).2
    (∀ write ∈ (Device.run calls ({ block } : Traced series)).2.stream,
      write.offset ∈ writable series) ∧
      (∀ offset ∈ readOnly series, offset ∉ writable series) ∧
      (∀ offset ∉ writable series,
        after.memory offset = block.memory offset) ∧
      (∀ field ∈ fields series, field.read after.memory =
        field.last calls (field.read block.memory)) ∧
      ∀ one other setting another, settingOf one = some setting →
        settingOf other = some another → setting ≠ another →
        Device.run [one, other] after = Device.run [other, one] after := by
  intro after
  refine ⟨?_, fun _ => not_mem_writable_of_readOnly, ?_, ?_, ?_⟩
  · exact Traced.offset_mem_writable_of_mem_run calls nofun
  · exact fun offset h => memory_run_of_not_mem h calls block
  · exact fun field h => Field.read_run h calls block
  · exact fun one other setting another hone hother hne =>
      run_swap hone hother hne after

example :
    let blank : Block .one :=
      { memory := fun _ => 0, referenceClock := 38400000 }
    (Device.run [.setClockRatio .fast] blank).2.memory (layout .one).control =
      0x200 := by
  decide

end TwoWire.Registers
