/-
Running a sequence to its end, with or without a budget.

`runSequence` makes the run that somebody would make who starts the sequence on
a new transfer and polls it by hand.  It stops at the poll that settles the
transfer, or gives up after the last poll that the budget allows.
-/
import TwoWire.Bench
import TwoWire.Proofs.Drive
import TwoWire.Proofs.Reachable

namespace TwoWire

open Sequence (Kind)
open Log (Logger)

namespace Progress

variable {σ ℓ : Type} [Device σ] [Logger ℓ]

/-- The start and as many polls leave the transfer in flight. -/
def Unsettled (begun : Progress (Controller σ ℓ)) (count : Nat) : Prop :=
  ∀ step ≤ count, (begun.polled step).outcome = .inProgress

instance (begun : Progress (Controller σ ℓ)) (count : Nat) :
    Decidable (begun.Unsettled count) :=
  inferInstanceAs (Decidable (∀ step ≤ count, _))

/-- Of all polls, counted from one, the last is the first that ends the
transfer. -/
structure SettlesAt (begun : Progress (Controller σ ℓ)) (last : Nat) :
    Prop where
  pos : 0 < last
  before : begun.Unsettled (last - 1)
  ended : (begun.polled last).outcome ≠ .inProgress

/-- What a caller is told about a transfer that has ended. -/
def Reports {α : Type} (progress : Progress α) (result : Except Error Unit) :
    Prop :=
  progress.outcome = .done ∧ result = .ok () ∨
    ∃ error, Error.ofOutcome? progress.outcome progress.transfer.nackSource =
      some error ∧ result = .error error

theorem Reports.result?_eq {α : Type} {progress : Progress α}
    {result : Except Error Unit} (h : progress.Reports result) :
    progress.result? = some result := by
  rcases h with ⟨hdone, rfl⟩ | ⟨error, herror, rfl⟩
  · exact result?_of_done hdone
  · rw [result?, herror]

theorem exists_reports {α : Type} {progress : Progress α}
    (h : progress.outcome ≠ .inProgress) :
    ∃ result, progress.Reports result := by
  by_cases hdone : progress.outcome = .done
  · exact ⟨.ok (), Or.inl ⟨hdone, rfl⟩⟩
  have hfailure := Outcome.isFailure_iff.mpr ⟨h, hdone⟩
  rw [← Error.ofOutcome?_isSome _ progress.transfer.nackSource] at hfailure
  obtain ⟨error, herror⟩ := Option.isSome_iff_exists.mp hfailure
  exact ⟨.error error, Or.inr ⟨error, herror, rfl⟩⟩

theorem result?_eq_some_iff {α : Type} {progress : Progress α}
    {result : Except Error Unit} :
    progress.result? = some result ↔ progress.Reports result := by
  refine ⟨?_, Reports.result?_eq⟩
  intro h
  have hended : progress.outcome ≠ .inProgress := by
    intro hrunning
    rw [result?_of_inProgress hrunning] at h
    cases h
  obtain ⟨reported, hreports⟩ := exists_reports hended
  have hsame := hreports.result?_eq.symm.trans h
  rwa [Option.some.inj hsame] at hreports

/-- Polling either settles a transfer or does not. -/
theorem settles_or_unsettled {begun : Progress (Controller σ ℓ)}
    (hrunning : begun.outcome = .inProgress) (count : Nat) :
    (∃ last ≤ count, begun.SettlesAt last) ∨ begun.Unsettled count := by
  induction count with
  | zero =>
      apply Or.inr
      intro step hstep
      obtain rfl := Nat.le_zero.mp hstep
      exact hrunning
  | succ count ih =>
      rcases ih with ⟨last, hlast, hsettles⟩ | hunsettled
      · exact Or.inl ⟨last, Nat.le_succ_of_le hlast, hsettles⟩
      by_cases hnext : (begun.polled (count + 1)).outcome = .inProgress
      · apply Or.inr
        intro step hstep
        rcases Nat.le_succ_iff.mp hstep with hstep | rfl
        · exact hunsettled step hstep
        · exact hnext
      · exact Or.inl ⟨count + 1, Nat.le_refl _,
          Nat.succ_pos count, hunsettled, hnext⟩

theorem Unsettled.result?_eq_none {begun : Progress (Controller σ ℓ)}
    {count : Nat} (h : begun.Unsettled count) :
    ∀ step < count, (begun.polled (step + 1)).result? = none := by
  intro step hstep
  exact result?_of_inProgress (h (step + 1) hstep)

end Progress

namespace Controller

variable {σ ℓ : Type} [Device σ] [Logger ℓ] {sequence : Sequence}
  {limit : UInt32} {count last patience : Nat}

/-- The polls that a limit allows: even a limit of none allows one. -/
def allowance (limit : UInt32) : Nat :=
  max limit.toNat 1

theorem allowance_lt (limit : UInt32) : allowance limit < UInt32.size :=
  Nat.max_lt.mpr ⟨limit.toNat_lt, by decide⟩

/-- Up to the last poll that the limit allows, the counter of the loop is the
number of polls made, and has room for one more. -/
theorem drive_counts (progress : Progress (Controller σ ℓ))
    (hnone : ∀ step < count, (progress.polled (step + 1)).result? = none)
    (hcount : count < allowance limit) :
    ∃ polls : UInt32, polls.toNat = count ∧ (polls + 1).toNat = count + 1 ∧
      ∀ patience, drive (some limit) (patience + count) 0 progress.transfer
          progress.host =
        drive (some limit) patience polls (progress.polled count).transfer
          (progress.polled count).host := by
  have hbudget : ∀ bound ∈ some limit,
      count = 0 ∨ (0 : UInt32).toNat + count < bound.toNat := by
    rintro bound ⟨⟩
    rw [allowance] at hcount
    rw [UInt32.toNat_zero]
    omega
  obtain ⟨polls, hpolls, hdrive⟩ := drive_polled progress hnone hbudget
  have hvalue : polls.toNat = count := by
    rw [hpolls limit rfl, UInt32.toNat_zero, Nat.zero_add]
  have hsize : count + 1 < 2 ^ 32 :=
    Nat.lt_of_le_of_lt hcount (allowance_lt limit)
  refine ⟨polls, hvalue, ?_, hdrive⟩
  rw [UInt32.toNat_add, hvalue]
  exact Nat.mod_eq_of_lt hsize

/-- When all the polls that the limit allows are in vain, the transfer is left
as it is. -/
theorem drive_of_unsettled {progress : Progress (Controller σ ℓ)}
    (h : progress.Unsettled (allowance limit))
    (hpatience : allowance limit ≤ patience) :
    drive (some limit) patience 0 progress.transfer progress.host =
      some ⟨.error .timeout, (progress.polled (allowance limit)).transfer,
        (progress.polled (allowance limit)).host.giveUp⟩ := by
  obtain ⟨count, hcount⟩ : ∃ count, allowance limit = count + 1 :=
    Nat.exists_eq_add_one.mpr (Nat.lt_of_lt_of_le Nat.one_pos
      (Nat.le_max_right limit.toNat 1))
  rw [hcount] at h hpatience ⊢
  obtain ⟨rest, rfl⟩ : ∃ rest, patience = rest + 1 + count :=
    ⟨patience - count - 1, by omega⟩
  have hnone := h.result?_eq_none
  have hallowed : count < allowance limit := Nat.le_of_eq hcount.symm
  obtain ⟨polls, _, hnext, hdrive⟩ := drive_counts progress
    (fun step hstep => hnone step (Nat.lt_succ_of_lt hstep)) hallowed
  have hlast := hnone count (Nat.lt_succ_self count)
  have hspent : polls + 1 ≥ limit := by
    rw [ge_iff_le, UInt32.le_iff_toNat_le, hnext, ← hcount]
    exact Nat.le_max_left limit.toNat 1
  rw [Progress.polled_succ] at hlast ⊢
  rw [hdrive (rest + 1)]
  simp only [drive, hlast, if_pos hspent]

/-- A sequence that the budget does not last for is given up where the steps of
a new transfer have brought it. -/
theorem runSequence_of_unsettled (controller : Controller σ ℓ)
    {begun : Progress σ}
    (hbegun : begun = ({} : Transfer).start sequence controller.device)
    (hrunning : ∀ step ≤ allowance limit,
      (begun.steps step).outcome = .inProgress)
    (hpatience : allowance limit ≤ patience) :
    ∃ completion,
      controller.runSequence patience (some limit) sequence =
        some completion ∧
      completion.result = .error .timeout ∧
      completion.handedBack =
        (begun.steps (allowance limit)).transfer.held.getD sequence ∧
      completion.controller.device =
        (Device.run (.abort :: Transfer.closing)
          (begun.steps (allowance limit)).host).2 := by
  obtain rfl := hbegun.trans (controller.bare_start {} sequence).symm
  have hunsettled : (controller.start {} sequence).Unsettled
      (allowance limit) := by
    intro step hstep
    have hpolled := (controller.start {} sequence).bare_polled step
    exact (congrArg Progress.outcome hpolled).trans (hrunning step hstep)
  have hfirst := hunsettled 0 (Nat.zero_le _)
  rw [controller.runSequence_of_inProgress patience (some limit) hfirst,
    drive_of_unsettled hunsettled hpatience,
    ← (controller.start {} sequence).bare_polled (allowance limit)]
  exact ⟨_, rfl, rfl, rfl, rfl⟩

theorem drive_of_settlesAt {progress : Progress (Controller σ ℓ)}
    {budget : Option UInt32} (h : progress.SettlesAt last)
    (hbudget : ∀ limit ∈ budget, last ≤ allowance limit)
    (hpatience : last ≤ patience) :
    ∃ result, (progress.polled last).Reports result ∧
      drive budget patience 0 progress.transfer progress.host =
        some ⟨result, (progress.polled last).transfer,
          (progress.polled last).host⟩ := by
  obtain ⟨hpos, hbefore, hended⟩ := h
  obtain ⟨count, rfl⟩ := Nat.exists_eq_add_one.mpr hpos
  obtain ⟨result, hreports⟩ := Progress.exists_reports hended
  have hroom : ∀ limit ∈ budget,
      count = 0 ∨ (0 : UInt32).toNat + count < limit.toNat := by
    intro limit hlimit
    have hallowed := hbudget limit hlimit
    rw [allowance] at hallowed
    rw [UInt32.toNat_zero]
    omega
  exact ⟨result, hreports,
    drive_of_polled progress hbefore.result?_eq_none hreports.result?_eq
      hpatience hroom⟩

/-- A sequence that is turned down costs the device no call. -/
theorem runSequence_of_rejected {controller : Controller σ ℓ}
    (h : (controller.start {} sequence).outcome = .usageFault)
    (patience : Nat) (budget : Option UInt32) :
    ∃ completion,
      controller.runSequence patience budget sequence = some completion ∧
      completion.result = .error .usageFault ∧
      completion.handedBack = sequence ∧
      completion.controller.device = controller.device := by
  have hrejected : (({} : Transfer).start sequence
      controller.device).outcome = .usageFault := h
  have hdevice : (controller.start {} sequence).host.device =
      controller.device := by
    cases hkind : sequence.kind? with
    | none =>
        have hstart := Transfer.start_of_invalid hkind {} controller.device
        exact congrArg Progress.host hstart
    | some kind =>
        rw [Transfer.start_of_valid hkind] at hrejected
        contradiction
  refine ⟨⟨.error .usageFault, sequence, (controller.start {} sequence).host⟩,
    ?_, rfl, rfl, hdevice⟩
  rw [runSequence, h]
  rfl

theorem start_outcome (controller : Controller σ ℓ) (sequence : Sequence) :
    (controller.start {} sequence).outcome = .usageFault ∨
      (controller.start {} sequence).outcome = .inProgress := by
  cases hkind : sequence.kind? with
  | none =>
      have hstart := Transfer.start_of_invalid hkind {} controller.device
      exact Or.inl (congrArg Progress.outcome hstart)
  | some kind =>
      exact Or.inr (Transfer.start_of_valid hkind {} controller.device)

/-- With a budget there is always an end. -/
theorem runSequence_isSome (controller : Controller σ ℓ) (sequence : Sequence)
    (hpatience : allowance limit ≤ patience) :
    (controller.runSequence patience (some limit) sequence).isSome = true := by
  rcases controller.start_outcome sequence with hrejected | hrunning
  · obtain ⟨completion, hrun, _⟩ :=
      runSequence_of_rejected hrejected patience (some limit)
    rw [hrun]
    rfl
  rw [controller.runSequence_of_inProgress patience (some limit) hrunning]
  rcases Progress.settles_or_unsettled hrunning (allowance limit) with
    ⟨last, hlast, hsettles⟩ | hunsettled
  · have hbudget : ∀ bound ∈ some limit, last ≤ allowance bound := by
      rintro bound ⟨⟩
      exact hlast
    obtain ⟨result, _, hdrive⟩ := drive_of_settlesAt hsettles hbudget
      (Nat.le_trans hlast hpatience)
    rw [hdrive]
    rfl
  · rw [drive_of_unsettled hunsettled hpatience]
    rfl

/-- Running a sequence is polling it by hand.  It makes the same calls up to
the poll that settles it, or up to the last one that the budget allows and then
those that give it up; and with a budget it always comes to an end, with a
counter that does not overflow. -/
theorem runSequence_polls (controller : Controller (Recorder σ) ℓ)
    (sequence : Sequence) :
    let begun := controller.start {} sequence
    (begun.outcome = .usageFault → ∀ patience budget, ∃ completion,
      controller.runSequence patience budget sequence = some completion ∧
      completion.result = .error .usageFault ∧
      completion.controller.device = controller.device) ∧
    (∀ last, begun.SettlesAt last → ∀ budget : Option UInt32,
      (∀ limit ∈ budget, last ≤ allowance limit) → ∀ patience ≥ last,
      ∃ completion,
        controller.runSequence patience budget sequence = some completion ∧
        (begun.polled last).Reports completion.result ∧
        completion.controller = (begun.polled last).host ∧
        completion.handedBack =
          (begun.polled last).transfer.held.getD sequence) ∧
    (∀ limit, begun.Unsettled (allowance limit) →
      ∀ patience ≥ allowance limit, ∃ completion,
        controller.runSequence patience (some limit) sequence =
          some completion ∧
        completion.result = .error .timeout ∧
        completion.controller.device.calls =
          (begun.polled (allowance limit)).host.device.calls ++
            [.abort, .disableInterrupts .transfer,
              .clearInterrupts .transfer]) ∧
    (∀ limit, ∀ patience ≥ allowance limit,
      (controller.runSequence patience (some limit) sequence).isSome = true) ∧
    ∀ limit, ∀ count < allowance limit, begun.Unsettled count →
      ∃ polls : UInt32, polls.toNat = count ∧ (polls + 1).toNat = count + 1 ∧
        ∀ patience, drive (some limit) (patience + count) 0 begun.transfer
            begun.host =
          drive (some limit) patience polls (begun.polled count).transfer
            (begun.polled count).host := by
  intro begun
  refine ⟨?_, ?_, ?_, ?_, ?_⟩
  · intro hrejected patience budget
    obtain ⟨completion, hrun, hresult, _, hdevice⟩ :=
      runSequence_of_rejected hrejected patience budget
    exact ⟨completion, hrun, hresult, hdevice⟩
  · intro last hsettles budget hbudget patience hpatience
    obtain ⟨result, hreports, hdrive⟩ :=
      drive_of_settlesAt hsettles hbudget hpatience
    have hrunning := hsettles.before 0 (Nat.zero_le _)
    rw [controller.runSequence_of_inProgress patience budget hrunning, hdrive]
    exact ⟨_, rfl, hreports, rfl, rfl⟩
  · intro limit hunsettled patience hpatience
    have hrunning := hunsettled 0 (Nat.zero_le _)
    rw [controller.runSequence_of_inProgress patience (some limit) hrunning,
      drive_of_unsettled hunsettled hpatience]
    exact ⟨_, rfl, rfl, Recorder.calls_run _ _⟩
  · intro limit patience hpatience
    exact controller.runSequence_isSome sequence hpatience
  · intro limit count hcount hunsettled
    exact drive_counts begun hunsettled.result?_eq_none hcount

/-- One byte for three targets.  One is not there, and with a budget of no polls
at all one poll is made before the bus is given up.  One takes the byte, and one
refuses it: the second poll tells. -/
theorem runSequence_polls_targets :
    let write : Sequence := .write 0x50 [1]
    let controller (bench : Bench) : Controller (Recorder Bench) Log.Silent :=
      ⟨{ device := bench }, .standard .one, {}⟩
    let begun (bench : Bench) := (controller bench).start {} write
    let absent : Bench := {}
    let taking := Bench.withResponder []
    let refusing := { taking with refusedData := some 0 }
    ((begun absent).Unsettled (allowance 0) ∧ ∃ completion,
      (controller absent).runSequence 1 (some 0) write = some completion ∧
        completion.result = .error .timeout ∧
        completion.controller.device.calls =
          [.clearTransmit, .clearInterrupts .all, .enableInterrupts .transfer,
            .writeAddress 0xa0, .start, .abort, .disableInterrupts .transfer,
            .clearInterrupts .transfer]) ∧
      ((begun taking).SettlesAt 2 ∧ ∃ completion,
        (controller taking).runSequence 2 none write = some completion ∧
          completion.result = .ok () ∧ completion.handedBack = write) ∧
      (begun refusing).SettlesAt 2 ∧ ∃ completion,
        (controller refusing).runSequence 2 (some 2) write = some completion ∧
          completion.result = .error (.nack .data) ∧
          completion.handedBack = write := by
  intro write controller begun absent taking refusing
  refine ⟨?_, ?_, ?_⟩
  · have hunsettled : (begun absent).Unsettled (allowance 0) := by decide
    obtain ⟨completion, hrun, hresult, hcalls⟩ :=
      (runSequence_polls (controller absent) write).2.2.1 0 hunsettled 1
        (Nat.le_refl 1)
    exact ⟨hunsettled, completion, hrun, hresult, hcalls.trans (by decide)⟩
  · have hsettles : (begun taking).SettlesAt 2 :=
      ⟨by decide, by decide, by decide⟩
    obtain ⟨completion, hrun, hreports, _, hback⟩ :=
      (runSequence_polls (controller taking) write).2.1 2 hsettles none nofun 2
        (Nat.le_refl 2)
    have hdone : ((begun taking).polled 2).outcome = .done := by decide
    have hresult :=
      hreports.result?_eq.symm.trans (Progress.result?_of_done hdone)
    exact ⟨hsettles, completion, hrun, Option.some.inj hresult,
      hback.trans (by decide)⟩
  · have hsettles : (begun refusing).SettlesAt 2 :=
      ⟨by decide, by decide, by decide⟩
    have hbudget : ∀ limit ∈ some (2 : UInt32), 2 ≤ allowance limit := by
      rintro limit ⟨⟩
      decide
    obtain ⟨completion, hrun, hreports, _, hback⟩ :=
      (runSequence_polls (controller refusing) write).2.1 2 hsettles (some 2)
        hbudget 2 (Nat.le_refl 2)
    have hnack : ((begun refusing).polled 2).outcome = .nack := by decide
    have hsource : ((begun refusing).polled 2).transfer.nackSource = .data := by
      decide
    have hresult :=
      hreports.result?_eq.symm.trans (Progress.result?_of_nack hnack)
    rw [hsource] at hresult
    exact ⟨hsettles, completion, hrun, Option.some.inj hresult,
      hback.trans (by decide)⟩

end Controller

end TwoWire
