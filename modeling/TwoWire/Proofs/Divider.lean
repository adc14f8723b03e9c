/-
Which divider a frequency asks for.

A divider is too small for a frequency exactly if the period that it makes,
taken that many times a second, is more than the reference clock gives.  The
divider that is chosen is the first one that is not too small, or the largest
if all of them are.  No product that leads to it outgrows its word.
-/
import Mathlib.Tactic.Ring
import TwoWire.Clock

namespace TwoWire

theorem ClockRatio.cycles_pos (ratio : ClockRatio) : 0 < ratio.cycles.toNat := by
  cases ratio with
  | standard => decide
  | asymmetric => decide
  | fast => decide

theorem ClockRatio.cycles_le (ratio : ClockRatio) :
    ratio.cycles.toNat ≤ 17 := by
  cases ratio with
  | standard => decide
  | asymmetric => decide
  | fast => decide

namespace Clock

/-- Reference cycles in a period of SCL. -/
def period (divider : Nat) (ratio : ClockRatio) : Nat :=
  ratio.cycles.toNat * (divider + 1) + 8

variable {reference scl faster : Hertz} {ratio : ClockRatio}

theorem period_pos (divider : Nat) (ratio : ClockRatio) :
    0 < period divider ratio :=
  Nat.add_pos_right _ (by decide)

theorem period_mono (ratio : ClockRatio) {divider larger : Nat}
    (h : divider ≤ larger) : period divider ratio ≤ period larger ratio :=
  Nat.add_le_add_right (Nat.mul_le_mul_left _ (Nat.succ_le_succ h)) 8

/-- Rounding up does not overflow. -/
theorem toNat_div_add_one {a b : UInt64} (hb : 0 < b.toNat)
    (hover : a % b ≠ 0) : (a / b + 1).toNat = a.toNat / b.toNat + 1 := by
  have hrest : a.toNat % b.toNat ≠ 0 := by
    rw [← UInt64.toNat_mod]
    exact fun hzero => hover (UInt64.toNat_inj.mp hzero)
  -- Nothing is left over by one, so the divisor is at least two.
  have htwo : 2 ≤ b.toNat := by
    have := Nat.mod_lt a.toNat hb
    omega
  have hsmall : a.toNat / b.toNat + 1 < 2 ^ 64 := by
    have hhalf : a.toNat / b.toNat ≤ a.toNat / 2 :=
      Nat.div_le_div_left htwo (by decide)
    have hbound := a.toNat_lt
    omega
  have hone : (1 : UInt64).toNat = 1 := rfl
  rw [UInt64.toNat_add, UInt64.toNat_div, hone, Nat.mod_eq_of_lt hsmall]

/-- A quotient that is rounded up is the least one that is large enough. -/
theorem ceilDiv_le_iff {a b : UInt64} (hb : 0 < b.toNat) (count : Nat) :
    (ceilDiv a b).toNat ≤ count ↔ a.toNat ≤ count * b.toNat := by
  have hmod : (a % b).toNat = a.toNat % b.toNat := UInt64.toNat_mod a b
  have hquotient : (a / b).toNat = a.toNat / b.toNat := UInt64.toNat_div a b
  rw [ceilDiv]
  split
  case isTrue hexact =>
    have hdvd : b.toNat ∣ a.toNat := by
      apply Nat.dvd_of_mod_eq_zero
      rw [← hmod, hexact]
      rfl
    rw [hquotient, Nat.div_le_iff_le_mul_of_dvd (Nat.ne_of_gt hb) hdvd]
  case isFalse hover =>
    have hrest : a.toNat % b.toNat ≠ 0 := by
      rw [← hmod]
      exact fun hzero => hover (UInt64.toNat_inj.mp hzero)
    rw [toNat_div_add_one hb hover, Nat.succ_le_iff,
      Nat.div_lt_iff_lt_mul hb]
    constructor
    · exact Nat.le_of_lt
    · intro hle
      apply Nat.lt_of_le_of_ne hle
      intro heq
      rw [heq, Nat.mul_mod_left] at hrest
      exact hrest rfl

theorem toNat_sync (scl : Hertz) :
    (syncCycles.toUInt64 * scl.toUInt64).toNat = 8 * scl.toNat := by
  have hscl := scl.toNat_lt
  have hsync : syncCycles.toUInt64.toNat = 8 := rfl
  rw [UInt64.toNat_mul, hsync, UInt32.toNat_toUInt64]
  exact Nat.mod_eq_of_lt (by omega)

theorem toNat_cycles_mul (ratio : ClockRatio) (scl : Hertz) :
    (ratio.cycles.toUInt64 * scl.toUInt64).toNat =
      ratio.cycles.toNat * scl.toNat := by
  have hscl := scl.toNat_lt
  have hbound : ratio.cycles.toNat * scl.toNat ≤ 17 * scl.toNat :=
    Nat.mul_le_mul_right _ ratio.cycles_le
  rw [UInt64.toNat_mul, UInt32.toNat_toUInt64, UInt32.toNat_toUInt64]
  exact Nat.mod_eq_of_lt (by omega)

theorem toNat_cycles_mul_pos (hscl : scl ≠ 0) (ratio : ClockRatio) :
    0 < (ratio.cycles.toUInt64 * scl.toUInt64).toNat := by
  rw [toNat_cycles_mul]
  apply Nat.mul_pos ratio.cycles_pos
  exact Nat.pos_of_ne_zero fun hzero => hscl (UInt32.toNat_inj.mp hzero)

theorem one_le_of_ne_zero {rounds : UInt64} (h : rounds ≠ 0) : 1 ≤ rounds := by
  rw [UInt64.le_iff_toNat_le]
  exact Nat.pos_of_ne_zero fun hzero => h (UInt64.toNat_inj.mp hzero)

theorem toNat_pred (rounds : UInt64) :
    (if rounds = 0 then 0 else rounds - 1).toNat = rounds.toNat - 1 := by
  split
  case isTrue hzero =>
    rw [hzero]
    rfl
  case isFalse hsome =>
    exact UInt64.toNat_sub_of_le _ _ (one_le_of_ne_zero hsome)

theorem toNat_fit (least : UInt64) :
    (if least < maxDivider.toUInt64 then least.toUInt16
      else maxDivider).toNat = min least.toNat maxDivider.toNat := by
  have hmax : maxDivider.toUInt64.toNat = maxDivider.toNat := rfl
  split
  case isTrue hless =>
    rw [UInt64.lt_iff_toNat_lt, hmax] at hless
    have hroom := maxDivider.toNat_lt
    rw [UInt64.toNat_toUInt16, Nat.mod_eq_of_lt (Nat.lt_trans hless hroom),
      Nat.min_eq_left (Nat.le_of_lt hless)]
  case isFalse hmore =>
    rw [UInt64.lt_iff_toNat_lt, hmax, Nat.not_lt] at hmore
    rw [Nat.min_eq_right hmore]

theorem divider_zero (reference : Hertz) (ratio : ClockRatio) :
    divider reference 0 ratio = maxDivider :=
  rfl

theorem divider_le_max (reference scl : Hertz) (ratio : ClockRatio) :
    divider reference scl ratio ≤ maxDivider := by
  rw [UInt16.le_iff_toNat_le, divider]
  split
  · exact Nat.le_refl _
  · split
    · exact Nat.zero_le _
    · simp only [toNat_fit]
      exact Nat.min_le_right _ _

/-- What is chosen for a clock that is not too slow: one round less than it
takes, as far as the register has room. -/
theorem exists_rounds (hscl : scl ≠ 0)
    (hslow : 8 * scl.toNat ≤ reference.toNat) (ratio : ClockRatio) :
    ∃ rounds : Nat,
      (∀ count, rounds ≤ count ↔
        reference.toNat ≤ scl.toNat * (ratio.cycles.toNat * count + 8)) ∧
      (divider reference scl ratio).toNat =
        min (rounds - 1) maxDivider.toNat := by
  have hsync : ¬ reference.toUInt64 < syncCycles.toUInt64 * scl.toUInt64 := by
    rw [UInt64.lt_iff_toNat_lt, toNat_sync, UInt32.toNat_toUInt64]
    exact Nat.not_lt.mpr hslow
  let budget := reference.toUInt64 - syncCycles.toUInt64 * scl.toUInt64
  let round := ratio.cycles.toUInt64 * scl.toUInt64
  have hbudget : budget.toNat = reference.toNat - 8 * scl.toNat := by
    rw [UInt64.toNat_sub_of_le _ _ (UInt64.not_lt.mp hsync), toNat_sync,
      UInt32.toNat_toUInt64]
  have hround : round.toNat = ratio.cycles.toNat * scl.toNat :=
    toNat_cycles_mul ratio scl
  have hroundPos : 0 < round.toNat := toNat_cycles_mul_pos hscl ratio
  refine ⟨(ceilDiv budget round).toNat, ?_, ?_⟩
  · intro count
    have hproduct : scl.toNat * (ratio.cycles.toNat * count + 8) =
        count * (ratio.cycles.toNat * scl.toNat) + 8 * scl.toNat := by
      ring
    rw [ceilDiv_le_iff hroundPos, hbudget, hround, hproduct]
    exact Nat.sub_le_iff_le_add
  · rw [divider, if_neg hscl, if_neg hsync, toNat_fit, toNat_pred]

/-- The dividers below the one that is chosen are those that the register has
room beyond and that make SCL too fast. -/
theorem lt_divider_iff (hscl : scl ≠ 0) (smaller : Nat) :
    smaller < (divider reference scl ratio).toNat ↔
      smaller < maxDivider.toNat ∧
        scl.toNat * period smaller ratio < reference.toNat := by
  by_cases hslow : 8 * scl.toNat ≤ reference.toNat
  · obtain ⟨rounds, hrounds, hdivider⟩ := exists_rounds hscl hslow ratio
    have hfast := (hrounds (smaller + 1)).not
    rw [Nat.not_le, Nat.not_le] at hfast
    rw [hdivider, Nat.lt_min, Nat.lt_sub_iff_add_lt, hfast, and_comm, period]
  · have hzero : divider reference scl ratio = 0 := by
      have hsync : reference.toUInt64 <
          syncCycles.toUInt64 * scl.toUInt64 := by
        rw [UInt64.lt_iff_toNat_lt, toNat_sync, UInt32.toNat_toUInt64]
        exact Nat.not_le.mp hslow
      rw [divider, if_neg hscl, if_pos hsync]
    have hshort : 8 * scl.toNat ≤ scl.toNat * period smaller ratio := by
      rw [Nat.mul_comm]
      exact Nat.mul_le_mul_left _ (Nat.le_add_left 8 _)
    rw [hzero]
    refine iff_of_false (Nat.not_lt_zero smaller) ?_
    rintro ⟨_, htoo⟩
    exact hslow (Nat.le_trans hshort (Nat.le_of_lt htoo))

/-- A faster clock takes no larger divider. -/
theorem divider_anti (hscl : scl ≠ 0) (hfaster : scl ≤ faster) :
    divider reference faster ratio ≤ divider reference scl ratio := by
  have hle : scl.toNat ≤ faster.toNat := UInt32.le_iff_toNat_le.mp hfaster
  have hfasterPos : faster ≠ 0 := by
    rintro rfl
    exact hscl (UInt32.toNat_inj.mp (Nat.eq_zero_of_le_zero hle))
  rw [UInt16.le_iff_toNat_le]
  apply Nat.le_of_not_lt
  intro hmore
  obtain ⟨hroom, htoo⟩ := (lt_divider_iff hfasterPos _).mp hmore
  have hsame := Nat.lt_of_le_of_lt (Nat.mul_le_mul_right _ hle) htoo
  exact Nat.lt_irrefl _ ((lt_divider_iff hscl _).mpr ⟨hroom, hsame⟩)

/-- A clock that the largest divider does not keep down gets that divider. -/
theorem divider_eq_max_of_lt (hscl : scl ≠ 0)
    (h : scl.toNat * period maxDivider.toNat ratio < reference.toNat) :
    divider reference scl ratio = maxDivider := by
  have hbelow : scl.toNat * period 510 ratio < reference.toNat :=
    Nat.lt_of_le_of_lt (Nat.mul_le_mul_left _ (period_mono ratio (by decide))) h
  have hlast : 510 < (divider reference scl ratio).toNat :=
    (lt_divider_iff hscl 510).mpr ⟨by decide, hbelow⟩
  exact UInt16.le_antisymm (divider_le_max reference scl ratio)
    (UInt16.le_iff_toNat_le.mpr hlast)

/-- Any other clock is kept down by the divider that is chosen. -/
theorem reference_le_of_divider (hscl : scl ≠ 0)
    (h : reference.toNat ≤ scl.toNat * period maxDivider.toNat ratio) :
    reference.toNat ≤
      scl.toNat * period (divider reference scl ratio).toNat ratio := by
  apply Nat.le_of_not_lt
  intro htoo
  have hroom : (divider reference scl ratio).toNat < maxDivider.toNat := by
    apply Nat.lt_of_le_of_ne
      (UInt16.le_iff_toNat_le.mp (divider_le_max reference scl ratio))
    intro hmax
    rw [hmax] at htoo
    exact Nat.not_le.mpr htoo h
  exact Nat.lt_irrefl _ ((lt_divider_iff hscl _).mpr ⟨hroom, htoo⟩)

/-- No divider makes the period overflow. -/
theorem toNat_frequency (reference : Hertz) (divider : UInt16)
    (ratio : ClockRatio) :
    (frequency reference divider ratio).toNat =
      reference.toNat / period divider.toNat ratio := by
  have hdivider := divider.toNat_lt
  have hcycles := ratio.cycles_le
  have hone : (1 : UInt32).toNat = 1 := rfl
  have hsync : syncCycles.toNat = 8 := rfl
  have hrounds : (divider.toUInt32 + 1).toNat = divider.toNat + 1 := by
    rw [UInt32.toNat_add, UInt16.toNat_toUInt32, hone]
    exact Nat.mod_eq_of_lt (by omega)
  have hproduct : ratio.cycles.toNat * (divider.toNat + 1) ≤ 17 * 2 ^ 16 :=
    Nat.mul_le_mul hcycles hdivider
  have hstretched : (ratio.cycles * (divider.toUInt32 + 1)).toNat =
      ratio.cycles.toNat * (divider.toNat + 1) := by
    rw [UInt32.toNat_mul, hrounds]
    exact Nat.mod_eq_of_lt (by omega)
  have hperiod : (ratio.cycles * (divider.toUInt32 + 1) + syncCycles).toNat =
      period divider.toNat ratio := by
    rw [UInt32.toNat_add, hstretched, hsync]
    exact Nat.mod_eq_of_lt (by omega)
  rw [frequency, UInt32.toNat_div, hperiod]

theorem frequency_anti (reference : Hertz) (ratio : ClockRatio)
    {divider larger : UInt16} (h : divider ≤ larger) :
    frequency reference larger ratio ≤ frequency reference divider ratio := by
  rw [UInt32.le_iff_toNat_le, toNat_frequency, toNat_frequency]
  exact Nat.div_le_div_left (period_mono ratio (UInt16.le_iff_toNat_le.mp h))
    (period_pos _ ratio)

/-- SCL is what was asked for or less, unless no divider makes it so. -/
theorem frequency_divider_le (hscl : scl ≠ 0)
    (h : reference.toNat ≤ scl.toNat * period maxDivider.toNat ratio) :
    frequency reference (divider reference scl ratio) ratio ≤ scl := by
  rw [UInt32.le_iff_toNat_le, toNat_frequency]
  apply Nat.div_le_of_le_mul
  rw [Nat.mul_comm]
  exact reference_le_of_divider hscl h

/-- Whoever asks for more does not get less. -/
theorem frequency_divider_mono (hscl : scl ≠ 0) (hfaster : scl ≤ faster) :
    frequency reference (divider reference scl ratio) ratio ≤
      frequency reference (divider reference faster ratio) ratio :=
  frequency_anti reference ratio (divider_anti hscl hfaster)

/-- Nothing is slower than what those get who ask for no clock at all. -/
theorem frequency_divider_zero_le (reference scl : Hertz)
    (ratio : ClockRatio) :
    frequency reference (divider reference 0 ratio) ratio ≤
      frequency reference (divider reference scl ratio) ratio := by
  rw [divider_zero]
  exact frequency_anti reference ratio (divider_le_max reference scl ratio)

end Clock

end TwoWire
