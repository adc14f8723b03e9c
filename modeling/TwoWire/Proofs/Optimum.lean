/-
Why no other divider would do better.

To the last fraction of a hertz, the divider that is chosen is the least one
that keeps SCL from exceeding the frequency that was asked for.  It is found in
words of 64 bits; the same search with every operation checked comes to the
same divider, so nothing overflows, is divided by zero or cut off on the way.

A frequency that is read back is rounded down to whole hertz.  One step faster
SCL is too fast, but by less than a hertz it may not look so.
-/
import Mathlib.Algebra.Order.Field.Rat
import Mathlib.Algebra.Order.Floor.Semifield
import Mathlib.Data.Rat.Floor
import Mathlib.Order.Bounds.Defs
import TwoWire.Proofs.Divider

namespace TwoWire

namespace Checked

/-- The word that stands for a number, if there is one. -/
def word? (number : Nat) : Option UInt64 :=
  if number < UInt64.size then some (.ofNat number) else none

def add? (a b : UInt64) : Option UInt64 :=
  word? (a.toNat + b.toNat)

def sub? (a b : UInt64) : Option UInt64 :=
  if b.toNat ≤ a.toNat then word? (a.toNat - b.toNat) else none

def mul? (a b : UInt64) : Option UInt64 :=
  word? (a.toNat * b.toNat)

def div? (a b : UInt64) : Option UInt64 :=
  if 0 < b.toNat then word? (a.toNat / b.toNat) else none

def mod? (a b : UInt64) : Option UInt64 :=
  if 0 < b.toNat then word? (a.toNat % b.toNat) else none

/-- The same number in a shorter word, if it has room for it. -/
def shorten? (word : UInt64) : Option UInt16 :=
  if word.toNat < UInt16.size then some (.ofNat word.toNat) else none

variable {a b word : UInt64} {number : Nat}

theorem word?_of_toNat_eq (h : word.toNat = number) :
    word? number = some word := by
  rw [← h, word?, if_pos word.toNat_lt, UInt64.ofNat_toNat]

theorem sub?_eq (h : b ≤ a) : sub? a b = some (a - b) := by
  rw [sub?, if_pos (UInt64.le_iff_toNat_le.mp h)]
  exact word?_of_toNat_eq (UInt64.toNat_sub_of_le _ _ h)

theorem div?_eq (h : 0 < b.toNat) : div? a b = some (a / b) := by
  rw [div?, if_pos h]
  exact word?_of_toNat_eq (UInt64.toNat_div a b)

theorem mod?_eq (h : 0 < b.toNat) : mod? a b = some (a % b) := by
  rw [mod?, if_pos h]
  exact word?_of_toNat_eq (UInt64.toNat_mod a b)

theorem shorten?_eq (h : word.toNat < UInt16.size) :
    shorten? word = some word.toUInt16 :=
  if_pos h

end Checked

namespace Clock

open Checked

variable {reference scl : Hertz} {ratio : ClockRatio}

/-- Division that rounds up, with every operation checked. -/
def ceilDiv? (a b : UInt64) : Option UInt64 := do
  let quotient ← div? a b
  let rest ← mod? a b
  if rest = 0 then pure quotient else add? quotient 1

def pred? (rounds : UInt64) : Option UInt64 :=
  if rounds = 0 then some 0 else sub? rounds 1

def fit? (least : UInt64) : Option UInt16 :=
  if least < maxDivider.toUInt64 then shorten? least else some maxDivider

/-- The search for a divider, with every operation checked. -/
def divider? (reference scl : Hertz) (ratio : ClockRatio) : Option UInt16 := do
  let sync ← mul? syncCycles.toUInt64 scl.toUInt64
  if scl = 0 then return maxDivider
  else if reference.toUInt64 < sync then return 0
  else
    let budget ← sub? reference.toUInt64 sync
    let round ← mul? ratio.cycles.toUInt64 scl.toUInt64
    let rounds ← ceilDiv? budget round
    let least ← pred? rounds
    fit? least

theorem ceilDiv?_eq {a b : UInt64} (h : 0 < b.toNat) :
    ceilDiv? a b = some (ceilDiv a b) := by
  rw [ceilDiv?, div?_eq h, mod?_eq h, ceilDiv]
  by_cases hexact : a % b = 0
  · simp [hexact]
  · have hadd : add? (a / b) 1 = some (a / b + 1) := by
      apply word?_of_toNat_eq
      rw [toNat_div_add_one h hexact, UInt64.toNat_div]
      rfl
    simp [hexact, hadd]

theorem pred?_eq (rounds : UInt64) :
    pred? rounds = some (if rounds = 0 then 0 else rounds - 1) := by
  rw [pred?]
  split
  case isTrue hzero => rfl
  case isFalse hsome => exact sub?_eq (one_le_of_ne_zero hsome)

theorem fit?_eq (least : UInt64) :
    fit? least = some (if least < maxDivider.toUInt64 then least.toUInt16
      else maxDivider) := by
  rw [fit?]
  split
  case isTrue hless =>
    have hroom : maxDivider.toUInt64.toNat < UInt16.size := by decide
    exact shorten?_eq (Nat.lt_trans (UInt64.lt_iff_toNat_lt.mp hless) hroom)
  case isFalse hmore => rfl

/-- None of the checks fails. -/
theorem divider?_eq (reference scl : Hertz) (ratio : ClockRatio) :
    divider? reference scl ratio = some (divider reference scl ratio) := by
  have hsync : mul? syncCycles.toUInt64 scl.toUInt64 =
      some (syncCycles.toUInt64 * scl.toUInt64) :=
    word?_of_toNat_eq (toNat_sync scl)
  have hround : mul? ratio.cycles.toUInt64 scl.toUInt64 =
      some (ratio.cycles.toUInt64 * scl.toUInt64) :=
    word?_of_toNat_eq (toNat_cycles_mul ratio scl)
  rw [divider?, divider, hsync, hround]
  by_cases hzero : scl = 0
  · simp [hzero]
  by_cases hfast : reference.toUInt64 < syncCycles.toUInt64 * scl.toUInt64
  · simp [hzero, hfast]
  have hbudget := sub?_eq (UInt64.not_lt.mp hfast)
  have hpositive := toNat_cycles_mul_pos hzero ratio
  simp [hzero, hfast, hbudget, ceilDiv?_eq hpositive, pred?_eq, fit?_eq]

/-- SCL with a divider, to the last fraction of a hertz. -/
def exactFrequency (reference : Hertz) (divider : Nat) (ratio : ClockRatio) :
    ℚ :=
  reference.toNat / period divider ratio

/-- The dividers that the register has room for and that keep SCL from
exceeding a frequency. -/
def sufficient (reference scl : Hertz) (ratio : ClockRatio) : Set Nat :=
  {divider | divider ≤ maxDivider.toNat ∧
    exactFrequency reference divider ratio ≤ scl.toNat}

theorem exactFrequency_le_iff {divider count : Nat} :
    exactFrequency reference divider ratio ≤ count ↔
      reference.toNat ≤ count * period divider ratio := by
  have hperiod : (0 : ℚ) < period divider ratio :=
    Nat.cast_pos.mpr (period_pos divider ratio)
  rw [exactFrequency, div_le_iff₀ hperiod]
  exact_mod_cast Iff.rfl

theorem mem_sufficient {divider : Nat} :
    divider ∈ sufficient reference scl ratio ↔
      divider ≤ maxDivider.toNat ∧
        reference.toNat ≤ scl.toNat * period divider ratio :=
  and_congr_right fun _ => exactFrequency_le_iff

/-- The slowest divider is sufficient if any is. -/
theorem sufficient_nonempty_iff :
    (sufficient reference scl ratio).Nonempty ↔
      reference.toNat ≤ scl.toNat * period maxDivider.toNat ratio := by
  constructor
  · rintro ⟨divider, hdivider⟩
    obtain ⟨hroom, hslow⟩ := mem_sufficient.mp hdivider
    exact Nat.le_trans hslow
      (Nat.mul_le_mul_left _ (period_mono ratio hroom))
  · intro hmax
    exact ⟨_, mem_sufficient.mpr ⟨Nat.le_refl _, hmax⟩⟩

theorem divider_mem_sufficient (hscl : scl ≠ 0)
    (h : (sufficient reference scl ratio).Nonempty) :
    (divider reference scl ratio).toNat ∈ sufficient reference scl ratio := by
  have hroom : (divider reference scl ratio).toNat ≤ maxDivider.toNat :=
    UInt16.le_iff_toNat_le.mp (divider_le_max reference scl ratio)
  have hslow := reference_le_of_divider hscl (sufficient_nonempty_iff.mp h)
  exact mem_sufficient.mpr ⟨hroom, hslow⟩

theorem divider_le_of_mem_sufficient (hscl : scl ≠ 0) {other : Nat}
    (h : other ∈ sufficient reference scl ratio) :
    (divider reference scl ratio).toNat ≤ other := by
  apply Nat.le_of_not_lt
  intro hless
  obtain ⟨_, htoo⟩ := (lt_divider_iff hscl other).mp hless
  exact Nat.not_le.mpr htoo (mem_sufficient.mp h).2

/-- The divider that is chosen is the least of those that keep SCL from
exceeding `scl`, and the largest there is if none of them does, or if `scl` is
zero.  What SCL is with a divider is meant exactly, not rounded to whole hertz.
Nothing that is computed on the way overflows or is cut off, and nothing is
divided by zero. -/
theorem divider_isLeast (reference scl : Hertz) (ratio : ClockRatio) :
    (scl ≠ 0 → (sufficient reference scl ratio).Nonempty →
      IsLeast (sufficient reference scl ratio)
        (divider reference scl ratio).toNat) ∧
      (¬ (sufficient reference scl ratio).Nonempty →
        divider reference scl ratio = maxDivider) ∧
      divider reference 0 ratio = maxDivider ∧
      (∀ divider, divider ∈ sufficient reference scl ratio ↔
        divider ≤ maxDivider.toNat ∧ reference.toNat ≤
          scl.toNat * (ratio.cycles.toNat * (divider + 1) + 8)) ∧
      divider? reference scl ratio = some (divider reference scl ratio) := by
  refine ⟨?_, ?_, divider_zero reference ratio, fun _ => mem_sufficient,
    divider?_eq reference scl ratio⟩
  · intro hscl hsome
    exact ⟨divider_mem_sufficient hscl hsome,
      fun _ => divider_le_of_mem_sufficient hscl⟩
  · intro hnone
    by_cases hscl : scl = 0
    · rw [hscl]
      exact divider_zero reference ratio
    · apply divider_eq_max_of_lt hscl
      exact Nat.lt_of_not_le (mt sufficient_nonempty_iff.mpr hnone)

/-- A hundred kilohertz, and a hundred hertz, which are out of reach. -/
theorem divider_isLeast_standard :
    (100000 : Hertz) ≠ 0 ∧
      (sufficient 38400000 100000 .standard).Nonempty ∧
      IsLeast (sufficient 38400000 100000 .standard) 46 ∧
      ¬ (sufficient 38400000 100 .standard).Nonempty ∧
      divider 38400000 100 .standard = maxDivider := by
  have hscl : (100000 : Hertz) ≠ 0 := by decide
  have hsome : (sufficient 38400000 100000 .standard).Nonempty :=
    sufficient_nonempty_iff.mpr (by decide)
  have hnone : ¬ (sufficient 38400000 100 .standard).Nonempty :=
    mt sufficient_nonempty_iff.mp (by decide)
  have hleast := (divider_isLeast 38400000 100000 .standard).1 hscl hsome
  have hchosen : (divider 38400000 100000 .standard).toNat = 46 := by decide
  rw [hchosen] at hleast
  exact ⟨hscl, hsome, hleast, hnone,
    (divider_isLeast 38400000 100 .standard).2.1 hnone⟩

/-- A frequency that is read back is the exact one, rounded down. -/
theorem toNat_frequency_eq_floor (reference : Hertz) (divider : UInt16)
    (ratio : ClockRatio) :
    (frequency reference divider ratio).toNat =
      ⌊exactFrequency reference divider.toNat ratio⌋₊ := by
  rw [toNat_frequency, exactFrequency, Nat.floor_div_eq_div]

theorem le_toNat_frequency_iff {divider : UInt16} {count : Nat} :
    count ≤ (frequency reference divider ratio).toNat ↔
      count ≤ exactFrequency reference divider.toNat ratio := by
  have hpositive : 0 ≤ exactFrequency reference divider.toNat ratio :=
    div_nonneg (Nat.cast_nonneg _) (Nat.cast_nonneg _)
  rw [toNat_frequency_eq_floor, Nat.le_floor_iff hpositive]

theorem lt_exactFrequency_of_lt_divider (hscl : scl ≠ 0) {smaller : Nat}
    (h : smaller < (divider reference scl ratio).toNat) :
    scl.toNat < exactFrequency reference smaller ratio := by
  obtain ⟨_, htoo⟩ := (lt_divider_iff hscl smaller).mp h
  exact not_le.mp fun hle => Nat.not_le.mpr htoo (exactFrequency_le_iff.mp hle)

/-- With any smaller divider SCL is faster than `scl`.  Read back in whole
hertz it is not slower, but it looks faster only if it is so by a hertz or
more. -/
theorem frequency_of_lt_divider (hscl : scl ≠ 0) {smaller : UInt16}
    (h : smaller < divider reference scl ratio) :
    scl.toNat < exactFrequency reference smaller.toNat ratio ∧
      scl ≤ frequency reference smaller ratio ∧
      (scl < frequency reference smaller ratio ↔
        scl.toNat + 1 ≤ exactFrequency reference smaller.toNat ratio) := by
  have hfast : scl.toNat < exactFrequency reference smaller.toNat ratio :=
    lt_exactFrequency_of_lt_divider hscl (UInt16.lt_iff_toNat_lt.mp h)
  refine ⟨hfast, ?_, ?_⟩
  · rw [UInt32.le_iff_toNat_le, le_toNat_frequency_iff]
    exact le_of_lt hfast
  · rw [UInt32.lt_iff_toNat_lt, ← Nat.succ_le_iff, le_toNat_frequency_iff,
      Nat.cast_succ]

/-- A reference clock of which a hundred kilohertz are no whole fraction: 47 is
chosen, although with 46 SCL is read back as a hundred kilohertz. -/
theorem frequency_of_lt_divider_level :
    (100000 : Hertz) ≠ 0 ∧ 46 < divider 38400100 100000 .standard ∧
      100000 < exactFrequency 38400100 46 .standard ∧
      frequency 38400100 46 .standard = 100000 ∧
      ¬ (100000 + 1 : ℚ) ≤ exactFrequency 38400100 46 .standard := by
  have hscl : (100000 : Hertz) ≠ 0 := by decide
  have hless : 46 < divider 38400100 100000 .standard := by decide
  have hlevel : frequency 38400100 46 .standard = 100000 := by decide
  obtain ⟨hfast, _, hstrict⟩ := frequency_of_lt_divider hscl hless
  refine ⟨hscl, hless, by exact_mod_cast hfast, hlevel, ?_⟩
  intro hmore
  have hlooks := hstrict.mpr (by exact_mod_cast hmore)
  rw [hlevel] at hlooks
  exact absurd hlooks (by decide)

/-- So a divider that is one less does not always look too fast. -/
theorem not_forall_lt_frequency_pred :
    ¬ ∀ (reference scl : Hertz) (ratio : ClockRatio), scl ≠ 0 →
      0 < divider reference scl ratio →
      scl < frequency reference (divider reference scl ratio - 1) ratio := by
  intro h
  have hlooks := h 38400100 100000 .standard (by decide) (by decide)
  exact absurd hlooks (by decide)

end Clock

end TwoWire
