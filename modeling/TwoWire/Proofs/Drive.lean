/-
What a driven transfer comes to.

A controller adds nothing to the steps of a transfer but its log, so polling
one to its end gives what stepping it gives, as long as neither patience nor
budget runs out first.
-/
import TwoWire.Controller
import TwoWire.Proofs.History

namespace TwoWire

open Log (Logger)

namespace Progress

variable {σ ℓ : Type} [Device σ] [Logger ℓ]

theorem steps_succ (progress : Progress σ) (count : Nat) :
    progress.steps (count + 1) = progress.next.steps count := by
  induction count with
  | zero => rfl
  | succ count ih => exact congrArg next ih

/-- A step that goes on, and those that go on behind it. -/
theorem steps_inProgress_succ {progress : Progress σ} {count : Nat}
    (hfirst : progress.outcome = .inProgress)
    (hlater : ∀ step ≤ count, (progress.next.steps step).outcome = .inProgress) :
    ∀ step ≤ count + 1, (progress.steps step).outcome = .inProgress := by
  intro step hstep
  cases step with
  | zero => exact hfirst
  | succ step =>
      rw [steps_succ]
      exact hlater step (Nat.le_of_succ_le_succ hstep)

/-- The same without configuration and log. -/
def bare (progress : Progress (Controller σ ℓ)) : Progress σ :=
  ⟨progress.outcome, progress.transfer, progress.host.device⟩

def polled : Nat → Progress (Controller σ ℓ) → Progress (Controller σ ℓ)
  | 0, progress => progress
  | count + 1, progress =>
    polled count (progress.host.advance progress.transfer)

theorem polled_succ (progress : Progress (Controller σ ℓ)) (count : Nat) :
    progress.polled (count + 1) =
      (progress.polled count).host.advance (progress.polled count).transfer := by
  induction count generalizing progress with
  | zero => rfl
  | succ count ih => exact ih (progress.host.advance progress.transfer)

theorem bare_advance (progress : Progress (Controller σ ℓ)) :
    (progress.host.advance progress.transfer).bare = progress.bare.next := by
  rw [Controller.advance, bare, bare, next]
  split
  · rfl
  · rfl
  · rfl

theorem bare_polled (progress : Progress (Controller σ ℓ)) (count : Nat) :
    (progress.polled count).bare = progress.bare.steps count := by
  induction count generalizing progress with
  | zero => rfl
  | succ count ih =>
      rw [polled, ih, bare_advance, steps_succ]

omit [Device σ] [Logger ℓ] in
theorem bare_result? (progress : Progress (Controller σ ℓ)) :
    progress.bare.result? = progress.result? :=
  rfl

theorem polled_result? (progress : Progress (Controller σ ℓ)) (count : Nat) :
    (progress.polled count).result? = (progress.bare.steps count).result? := by
  rw [← bare_result?, bare_polled]

theorem result?_of_inProgress {α : Type} {progress : Progress α}
    (h : progress.outcome = .inProgress) : progress.result? = none := by
  rw [result?, h]
  rfl

theorem result?_of_done {α : Type} {progress : Progress α}
    (h : progress.outcome = .done) : progress.result? = some (.ok ()) := by
  rw [result?, h]
  rfl

theorem result?_of_nack {α : Type} {progress : Progress α}
    (h : progress.outcome = .nack) :
    progress.result? = some (.error (.nack progress.transfer.nackSource)) := by
  rw [result?, h]
  rfl

end Progress

namespace Controller

variable {σ ℓ : Type} [Device σ] [Logger ℓ] {transfer : Transfer}
  {controller : Controller σ ℓ} {budget : Option UInt32}
  {patience count : Nat} {polls : UInt32} {result : Except Error Unit}

/-- Polling goes on as long as nothing is settled.  It comes back with what the
poll that settles the transfer makes of it, or with what giving up does. -/
theorem drive_elim (P : Transfer → Controller σ ℓ → Prop)
    (Q : Completion Transfer σ ℓ → Prop)
    (hpoll : ∀ transfer controller, P transfer controller →
      (controller.advance transfer).result? = none →
        P (controller.advance transfer).transfer
          (controller.advance transfer).host)
    (hsettled : ∀ transfer controller result, P transfer controller →
      (controller.advance transfer).result? = some result →
        Q ⟨result, (controller.advance transfer).transfer,
          (controller.advance transfer).host⟩)
    (hgiveUp : ∀ transfer controller, P transfer controller →
      Q ⟨.error .timeout, transfer, controller.giveUp⟩)
    {ended : Completion Transfer σ ℓ} (hfirst : P transfer controller)
    (hended : drive budget patience polls transfer controller = some ended) :
    Q ended := by
  induction patience generalizing polls transfer controller with
  | zero => exact absurd hended.symm (Option.some_ne_none ended)
  | succ patience ih =>
      simp only [drive] at hended
      split at hended
      case h_1 result hresult =>
        obtain rfl := Option.some.inj hended
        exact hsettled transfer controller result hfirst hresult
      case h_2 hnone =>
        have hpolled := hpoll transfer controller hfirst hnone
        split at hended
        · exact ih hpolled hended
        · split at hended
          · obtain rfl := Option.some.inj hended
            exact hgiveUp _ _ hpolled
          · exact ih hpolled hended

/-- What every poll keeps as long as nothing is settled, and what the last one
or giving up makes of it. -/
theorem drive_induction (P Q : Controller σ ℓ → Prop)
    (hpoll : ∀ controller transfer, P controller →
      P (controller.advance transfer).host)
    (hsettled : ∀ controller transfer, P controller →
      (controller.advance transfer).result? ≠ none →
        Q (controller.advance transfer).host)
    (hgiveUp : ∀ controller, P controller → Q controller.giveUp)
    {ended : Completion Transfer σ ℓ} (hfirst : P controller)
    (hended : drive budget patience polls transfer controller = some ended) :
    Q ended.controller := by
  refine drive_elim (fun _ => P) (fun ended => Q ended.controller) ?_ ?_ ?_
    hfirst hended
  · intro transfer controller hkeeps _
    exact hpoll controller transfer hkeeps
  · intro transfer controller result hkeeps hresult
    apply hsettled controller transfer hkeeps
    rw [hresult]
    exact Option.some_ne_none result
  · intro transfer controller hkeeps
    exact hgiveUp controller hkeeps

/-- A poll that settles nothing is followed by another if the budget has room
for it. -/
theorem drive_succ
    (hnone : (controller.advance transfer).result? = none)
    (hbudget : ∀ limit ∈ budget, polls.toNat + 1 < limit.toNat) :
    ∃ later : UInt32,
      (∀ limit ∈ budget, later.toNat = polls.toNat + 1) ∧
      ∀ patience, drive budget (patience + 1) polls transfer controller =
        drive budget patience later (controller.advance transfer).transfer
          (controller.advance transfer).host := by
  cases budget with
  | none =>
      refine ⟨polls, nofun, ?_⟩
      intro patience
      simp only [drive, hnone]
  | some limit =>
      have hroom := hbudget limit rfl
      have hlater : (polls + 1).toNat = polls.toNat + 1 := by
        rw [UInt32.toNat_add]
        exact Nat.mod_eq_of_lt (Nat.lt_trans hroom limit.toNat_lt)
      have hcontinue : ¬ polls + 1 ≥ limit := by
        rw [ge_iff_le, UInt32.le_iff_toNat_le, hlater]
        exact Nat.not_le.mpr hroom
      refine ⟨polls + 1, fun _ _ => hlater, ?_⟩
      intro patience
      simp only [drive, hnone, if_neg hcontinue]

/-- Polls that settle nothing bring the loop as many polls further, and its
counter with it. -/
theorem drive_polled (progress : Progress (Controller σ ℓ))
    (hnone : ∀ step < count, (progress.polled (step + 1)).result? = none)
    (hbudget : ∀ limit ∈ budget,
      count = 0 ∨ polls.toNat + count < limit.toNat) :
    ∃ later : UInt32,
      (∀ limit ∈ budget, later.toNat = polls.toNat + count) ∧
      ∀ patience, drive budget (patience + count) polls progress.transfer
          progress.host =
        drive budget patience later (progress.polled count).transfer
          (progress.polled count).host := by
  induction count generalizing progress polls with
  | zero => exact ⟨polls, fun _ _ => rfl, fun _ => rfl⟩
  | succ count ih =>
      have hroom : ∀ limit ∈ budget,
          polls.toNat + (count + 1) < limit.toNat := by
        intro limit hlimit
        exact (hbudget limit hlimit).resolve_left (Nat.succ_ne_zero count)
      have hnext : ∀ limit ∈ budget, polls.toNat + 1 < limit.toNat := by
        intro limit hlimit
        have hlimitRoom := hroom limit hlimit
        omega
      obtain ⟨first, hfirst, hdrive⟩ :=
        drive_succ (hnone 0 (Nat.succ_pos count)) hnext
      have hrestNone : ∀ step < count, ((progress.host.advance
          progress.transfer).polled (step + 1)).result? = none := by
        intro step hstep
        exact hnone (step + 1) (Nat.succ_lt_succ hstep)
      have hrestRoom : ∀ limit ∈ budget,
          count = 0 ∨ first.toNat + count < limit.toNat := by
        intro limit hlimit
        have hlimitRoom := hroom limit hlimit
        rw [hfirst limit hlimit]
        omega
      obtain ⟨later, hlater, hrest⟩ := ih _ hrestNone hrestRoom
      refine ⟨later, ?_, ?_⟩
      · intro limit hlimit
        rw [hlater limit hlimit, hfirst limit hlimit]
        omega
      · intro patience
        exact (hdrive (patience + count)).trans (hrest patience)

/-- The first poll that settles a transfer is the last one that is made. -/
theorem drive_of_polled (progress : Progress (Controller σ ℓ))
    (hnone : ∀ step < count, (progress.polled (step + 1)).result? = none)
    (hresult : (progress.polled (count + 1)).result? = some result)
    (hpatience : count < patience)
    (hbudget : ∀ limit ∈ budget,
      count = 0 ∨ polls.toNat + count < limit.toNat) :
    drive budget patience polls progress.transfer progress.host =
      some ⟨result, (progress.polled (count + 1)).transfer,
        (progress.polled (count + 1)).host⟩ := by
  obtain ⟨rest, rfl⟩ : ∃ rest, patience = rest + 1 + count :=
    ⟨patience - count - 1, by omega⟩
  obtain ⟨later, _, hdrive⟩ := drive_polled progress hnone hbudget
  rw [Progress.polled_succ] at hresult ⊢
  rw [hdrive (rest + 1)]
  simp only [drive, hresult]

theorem bare_start (controller : Controller σ ℓ) (transfer : Transfer)
    (sequence : Sequence) :
    (controller.start transfer sequence).bare =
      transfer.start sequence controller.device :=
  rfl

theorem bare_advance (controller : Controller σ ℓ) (transfer : Transfer) :
    (controller.advance transfer).bare = transfer.step controller.device :=
  Progress.bare_advance ⟨.inProgress, transfer, controller⟩

/-- A sequence that can be begun is driven to its end. -/
theorem runSequence_of_inProgress (controller : Controller σ ℓ)
    {sequence : Sequence} (patience : Nat) (budget : Option UInt32)
    (hrunning : (controller.start {} sequence).outcome = .inProgress) :
    controller.runSequence patience budget sequence =
      (drive budget patience 0 (controller.start {} sequence).transfer
        (controller.start {} sequence).host).map fun ended =>
          { ended with handedBack := ended.handedBack.held.getD sequence } := by
  rw [runSequence, hrunning]
  rfl

/-- A sequence is run like the steps of a new transfer, up to the first that
settles it. -/
theorem runSequence_of_steps (controller : Controller σ ℓ)
    {sequence : Sequence} {begun : Progress σ}
    (hbegun : begun = ({} : Transfer).start sequence controller.device)
    (hrunning : ∀ step ≤ count, (begun.steps step).outcome = .inProgress)
    (hresult : (begun.steps (count + 1)).result? = some result)
    (hpatience : count < patience)
    (hbudget : ∀ limit ∈ budget, count = 0 ∨ count < limit.toNat) :
    ∃ completion,
      controller.runSequence patience budget sequence = some completion ∧
      completion.result = result ∧
      completion.handedBack =
        (begun.steps (count + 1)).transfer.held.getD sequence ∧
      completion.controller.device = (begun.steps (count + 1)).host := by
  obtain rfl := hbegun.trans (controller.bare_start {} sequence).symm
  have hfirst : (controller.start {} sequence).outcome = .inProgress :=
    hrunning 0 (Nat.zero_le count)
  have hnone : ∀ step < count,
      ((controller.start {} sequence).polled (step + 1)).result? = none := by
    intro step hstep
    rw [Progress.polled_result?]
    exact Progress.result?_of_inProgress (hrunning (step + 1) hstep)
  have hroom : ∀ limit ∈ budget,
      count = 0 ∨ (0 : UInt32).toNat + count < limit.toNat := by
    simpa using hbudget
  have hdrive := drive_of_polled _ hnone
    ((Progress.polled_result? _ _).trans hresult) hpatience hroom
  rw [controller.runSequence_of_inProgress patience budget hfirst, hdrive,
    ← (controller.start {} sequence).bare_polled (count + 1)]
  exact ⟨_, rfl, rfl, rfl, rfl⟩

end Controller

end TwoWire
