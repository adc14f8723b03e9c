/-
What can be made of one transfer.

A course is any order of starts, steps and releases, with whatever happens to
the device in between.  Once a transfer is over, nothing but a sequence that can
be run gets it going again.  A transfer in flight owes the bus at most one stop
condition, and beginning a sequence is the only way to owe another.
-/
import TwoWire.Proofs.Failure
import TwoWire.Proofs.Reachable

namespace TwoWire

open Sequence (Kind Stage)

/-- What can be done with a transfer, or happen to its device. -/
inductive Deed (ε : Type) where
  | meanwhile (event : ε)
  | start (sequence : Sequence)
  | step
  | release

namespace Deed

variable {ε : Type}

def begins : Deed ε → Bool
  | .start sequence => sequence.kind?.isSome
  | _ => false

def releases : Deed ε → Bool
  | .release => true
  | _ => false

/-- All that it asks of the device if the transfer is over. -/
def quieting : Deed ε → List Call
  | .step => Transfer.closing
  | _ => []

end Deed

namespace Progress

variable {σ ε : Type} [Device σ] {progress : Progress (Recorder σ)}
  {deed : Deed ε} {deeds : List (Deed ε)}

/-- How things stand after a deed; `befall` says what an event does to the
device. -/
def act (befall : ε → σ → σ) (progress : Progress (Recorder σ)) :
    Deed ε → Progress (Recorder σ)
  | .meanwhile event =>
    let device := befall event progress.host.device
    { progress with host := { progress.host with device } }
  | .start sequence => progress.transfer.start sequence progress.host
  | .step => progress.next
  | .release => { progress with transfer := progress.transfer.release.2 }

def course (befall : ε → σ → σ) (progress : Progress (Recorder σ))
    (deeds : List (Deed ε)) : Progress (Recorder σ) :=
  deeds.foldl (act befall) progress

theorem act_reachable (befall : ε → σ → σ)
    (h : progress.transfer.Reachable) (deed : Deed ε) :
    (progress.act befall deed).transfer.Reachable := by
  cases deed with
  | meanwhile event => exact h
  | start sequence => exact .start sequence progress.host h
  | step => exact .step progress.host h
  | release => exact .release h

theorem course_reachable (befall : ε → σ → σ)
    (h : progress.transfer.Reachable) (deeds : List (Deed ε)) :
    (progress.course befall deeds).transfer.Reachable := by
  induction deeds generalizing progress with
  | nil => exact h
  | cons deed rest ih => exact ih (act_reachable befall h deed)

/-- A transfer that is over stays so, and keeps its sequence until that is
handed back. -/
theorem act_of_idle (befall : ε → σ → σ)
    (hidle : progress.transfer.phase = .idle) (hbegins : deed.begins = false) :
    let after := progress.act befall deed
    after.transfer.phase = .idle ∧
      after.transfer.held =
        (if deed.releases then none else progress.transfer.held) ∧
      after.host.calls = progress.host.calls ++ deed.quieting := by
  intro after
  cases deed with
  | meanwhile event => exact ⟨hidle, rfl, (List.append_nil _).symm⟩
  | start sequence =>
      have hinvalid : sequence.kind? = none := by
        simpa [Deed.begins] using hbegins
      have hafter : after = ⟨.usageFault, progress.transfer, progress.host⟩ :=
        Transfer.start_of_invalid hinvalid _ _
      rw [hafter]
      exact ⟨hidle, rfl, (List.append_nil _).symm⟩
  | step =>
      have hmakes := next_of_idle hidle
      have hafter : after.transfer = _ := hmakes.transfer
      rw [hafter]
      exact ⟨rfl, rfl, hmakes.calls⟩
  | release =>
      have hafter : after.transfer = { progress.transfer with held := none } :=
        congrArg Prod.snd (Transfer.release_of_idle hidle)
      rw [hafter]
      exact ⟨hidle, rfl, (List.append_nil _).symm⟩

theorem course_of_idle (befall : ε → σ → σ)
    (hidle : progress.transfer.phase = .idle)
    (hbegins : ∀ deed ∈ deeds, deed.begins = false) :
    let after := progress.course befall deeds
    after.transfer.phase = .idle ∧
      after.transfer.held =
        (if deeds.any Deed.releases then none else progress.transfer.held) ∧
      after.host.calls =
        progress.host.calls ++ deeds.flatMap Deed.quieting := by
  induction deeds generalizing progress with
  | nil => exact ⟨hidle, rfl, (List.append_nil _).symm⟩
  | cons deed rest ih =>
      obtain ⟨hfirst, hrest⟩ := List.forall_mem_cons.mp hbegins
      obtain ⟨hphase, hheld, hcalls⟩ := act_of_idle befall hidle hfirst
      obtain ⟨hlastPhase, hlastHeld, hlastCalls⟩ := ih hphase hrest
      refine ⟨hlastPhase, hlastHeld.trans ?_, hlastCalls.trans ?_⟩
      · rw [hheld, List.any_cons]
        cases deed.releases <;> simp
      · rw [hcalls, List.flatMap_cons, List.append_assoc]

/-- The stop conditions so far, and the one that a transfer in flight still
owes the bus. -/
def stops (progress : Progress (Recorder σ)) : Nat :=
  progress.host.calls.count .stop +
    if progress.transfer.phase = .idle then 0 else 1

end Progress

/-- A sequence that can be run takes the place of the one that was held, and one
that cannot be run changes nothing. -/
theorem Transfer.start_takes_over {σ : Type} [Device σ] (transfer : Transfer)
    (sequence : Sequence) (device : σ) :
    let begun := transfer.start sequence device
    if sequence.kind?.isSome then
      begun.outcome = .inProgress ∧ begun.transfer.held = some sequence
    else begun = ⟨.usageFault, transfer, device⟩ := by
  cases hkind : sequence.kind? with
  | none => exact start_of_invalid hkind transfer device
  | some kind =>
      obtain ⟨houtcome, hruns⟩ := start_runs hkind transfer device
      have hheld := hruns.inFlight.held
      rw [Sequence.filled_nil hkind] at hheld
      exact ⟨houtcome, hheld⟩

theorem Call.count_stop_wire (calls : List Call) :
    (wire calls).count .stop = calls.count .stop :=
  List.count_filter rfl

theorem Outcome.Fails.count_stop_le {outcome : Outcome} {last : List Call}
    (h : outcome.Fails last) : last.count .stop ≤ 1 := by
  cases h with
  | nack => decide
  | busError => decide
  | arbitrationLost => decide

/-- A reaction of a run stops the bus only when it ends the run, and then
once. -/
theorem Transfer.Runs.count_stop_le {transfer : Transfer} {sequence : Sequence}
    {kind : Kind} {received bytes : List UInt8} {stage : Stage}
    {status : Interrupts}
    (h : transfer.Runs sequence kind received stage)
    (hbytes : bytes.length = (transfer.react status).calls.count .readData) :
    let settled := (transfer.react status).settle bytes
    (transfer.react status).calls.count .stop +
      (if settled.phase = .idle then 0 else 1) ≤ 1 := by
  intro settled
  have hhandles := h.inFlight.react_handles status
  rw [← Call.count_stop_wire]
  by_cases hrunning : (transfer.react status).outcome = .inProgress
  · obtain ⟨later, hlater, hleads⟩ := hhandles.runs h hrunning hbytes
    have hcount := congrArg (List.count .stop) hleads.wire
    rw [List.count_append, Sequence.count_stop_remaining,
      Sequence.count_stop_remaining] at hcount
    rw [if_neg hlater.inFlight.stands.phase_ne_idle]
    omega
  by_cases hdone : (transfer.react status).outcome = .done
  · obtain ⟨hended, _, hcompletes⟩ := hhandles.done h hdone hbytes
    have hcount := congrArg (List.count .stop) hcompletes.wire
    rw [Sequence.count_stop_remaining] at hcount
    rw [if_pos hended.phase]
    exact Nat.le_of_eq hcount
  · obtain ⟨_, hended, hfails⟩ := hhandles.failed h hrunning hdone hbytes
    rw [if_pos hended.phase]
    exact hfails.count_stop_le

namespace Progress

variable {σ ε : Type} [Device σ] {progress : Progress (Recorder σ)}
  {deeds : List (Deed ε)}

theorem stops_next (h : progress.transfer.Sound) :
    progress.next.stops ≤ progress.stops := by
  cases h with
  | idle hidle _ =>
      have hmakes := next_of_idle hidle
      have hphase : progress.next.transfer.phase = .idle :=
        congrArg Transfer.phase hmakes.transfer
      rw [stops, stops, hmakes.calls, List.count_append, if_pos hphase,
        if_pos hidle]
      exact Nat.le_refl _
  | running hruns =>
      obtain ⟨status, bytes, hmakes⟩ := progress.next_makes
      have hstops := hruns.count_stop_le hmakes.count
      rw [stops, stops, hmakes.calls, List.count_append, hmakes.transfer,
        if_neg hruns.inFlight.stands.phase_ne_idle, Nat.add_assoc]
      exact Nat.add_le_add_left hstops _

/-- Whatever was begun before owes nothing that what is begun does not owe as
well. -/
theorem stops_start_le (transfer : Transfer) (sequence : Sequence)
    (recorder : Recorder σ) :
    (transfer.start sequence recorder).stops ≤
      recorder.calls.count .stop + 1 := by
  cases hkind : sequence.kind? with
  | none =>
      rw [Transfer.start_of_invalid hkind, stops]
      refine Nat.add_le_add_left ?_ _
      split <;> simp
  | some kind =>
      obtain ⟨reaction, hmakes, _, hruns, hcalls⟩ :=
        start_makes hkind transfer recorder
      have hnone : reaction.calls.count .stop = 0 := by
        rw [hcalls, ← Call.count_stop_wire, Call.wire_beginning]
        rfl
      refine Nat.le_of_eq ?_
      rw [stops, hmakes.transfer, if_neg hruns.inFlight.stands.phase_ne_idle,
        hmakes.calls, List.count_append, hnone, Nat.add_zero]

theorem stops_act (befall : ε → σ → σ) (h : progress.transfer.Sound)
    (deed : Deed ε) :
    (progress.act befall deed).stops ≤ progress.stops + deed.begins.toNat := by
  cases deed with
  | meanwhile event => exact Nat.le_refl _
  | start sequence =>
      cases hvalid : sequence.kind? with
      | none =>
          rw [act, Transfer.start_of_invalid hvalid]
          exact Nat.le_add_right _ _
      | some kind =>
          rw [Deed.begins, Option.isSome_of_eq_some hvalid]
          exact Nat.le_trans
            (stops_start_le progress.transfer sequence progress.host)
            (Nat.add_le_add_right (Nat.le_add_right _ _) 1)
  | step => exact stops_next h
  | release =>
      have hphase : progress.transfer.release.2.phase =
          progress.transfer.phase := by
        rw [Transfer.release]
        split <;> rfl
      rw [act, stops, hphase]
      exact Nat.le_refl _

theorem stops_course (befall : ε → σ → σ)
    (h : progress.transfer.Reachable) (deeds : List (Deed ε)) :
    (progress.course befall deeds).stops ≤
      progress.stops + deeds.countP Deed.begins := by
  induction deeds generalizing progress with
  | nil => exact Nat.le_refl _
  | cons deed rest ih =>
      have hfirst := stops_act befall h.sound deed
      have hrest := ih (act_reachable befall h deed)
      have hcount : (deed :: rest).countP Deed.begins =
          rest.countP Deed.begins + deed.begins.toNat := by
        rw [List.countP_cons]
        cases deed.begins <;> rfl
      rw [hcount]
      exact Nat.le_trans hrest (by omega)

/-- Between two sequences that are begun there is at most one stop
condition. -/
theorem count_stop_course_le (befall : ε → σ → σ)
    (h : progress.transfer.Reachable)
    (hbegins : ∀ deed ∈ deeds, deed.begins = false) :
    (progress.course befall deeds).host.calls.count .stop ≤
      progress.stops := by
  have hstops := stops_course befall h deeds
  have hnone : deeds.countP Deed.begins = 0 := by
    rw [List.countP_eq_zero]
    intro deed hdeed
    simp [hbegins deed hdeed]
  rw [hnone, Nat.add_zero] at hstops
  exact Nat.le_trans (Nat.le_add_right _ _) hstops

/-- A transfer that is over is over for good.  Whatever is done with it, short
of beginning a sequence that can be run, a step of it reports a fault, asks for
nothing but quiet and leaves the sequence alone, which is there until it is
handed back.  No sequence that is begun puts more than one stop condition on the
bus. -/
theorem course_stays_over (befall : ε → σ → σ)
    (hreachable : progress.transfer.Reachable)
    (hidle : progress.transfer.phase = .idle) (deeds : List (Deed ε)) :
    let after := progress.course befall deeds
    ((∀ deed ∈ deeds, deed.begins = false) →
      after.transfer.phase = .idle ∧
      after.transfer.held =
        (if deeds.any Deed.releases then none else progress.transfer.held) ∧
      after.host.calls =
        progress.host.calls ++ deeds.flatMap Deed.quieting ∧
      (after.next.outcome = .softwareFault ∧
        after.next.transfer.phase = .idle ∧
        after.next.transfer.held = after.transfer.held ∧
        after.next.host.calls = after.host.calls ++
          [.disableInterrupts .transfer, .clearInterrupts .transfer]) ∧
      after.transfer.release =
        (after.transfer.held, { after.transfer with held := none }) ∧
      ∀ sequence, let begun := after.transfer.start sequence after.host
        if sequence.kind?.isSome then
          begun.outcome = .inProgress ∧ begun.transfer.held = some sequence
        else begun = ⟨.usageFault, after.transfer, after.host⟩) ∧
    after.host.calls.count .stop ≤
      progress.host.calls.count .stop + deeds.countP Deed.begins ∧
    ∀ sequence later, (∀ deed ∈ later, deed.begins = false) →
      let begun := after.transfer.start sequence after.host
      (begun.course befall later).host.calls.count .stop ≤
        after.host.calls.count .stop + 1 := by
  intro after
  have hafter : after.transfer.Reachable :=
    course_reachable befall hreachable deeds
  refine ⟨?_, ?_, ?_⟩
  · intro hbegins
    obtain ⟨hphase, hheld, hcalls⟩ := course_of_idle befall hidle hbegins
    have hstep := act_of_idle befall hphase
      (rfl : Deed.begins (.step : Deed ε) = false)
    exact ⟨hphase, hheld, hcalls, ⟨(next_of_idle hphase).outcome, hstep⟩,
      Transfer.release_of_idle hphase, fun sequence =>
        after.transfer.start_takes_over sequence after.host⟩
  · have hstops := stops_course befall hreachable deeds
    rw [stops, stops, if_pos hidle, Nat.add_zero] at hstops
    exact Nat.le_trans (Nat.le_add_right _ _) hstops
  · intro sequence later hlater begun
    have hbegun : begun.transfer.Reachable := .start sequence after.host hafter
    exact Nat.le_trans (count_stop_course_le befall hbegun hlater)
      (stops_start_le after.transfer sequence after.host)

/-- A read that lost the bus after its first byte.  Every flag comes up, and
somebody who thinks it still runs steps it, and tries to begin a sequence that
cannot be run. -/
theorem course_stays_over_lost :
    let befall (set : Interrupts) (bench : Bench) := bench.raise set
    let first : Progress (Recorder Bench) :=
      ⟨.done, {}, { device := Bench.withResponder [7, 8] }⟩
    let lost := first.course befall
      [.start (.read 0x50 [0, 0]), .step,
        .meanwhile {Interrupt.arbitrationLost}, .step]
    let deeds := [.meanwhile .all, .step, .start (.read 0x50 []), .step]
    let after := lost.course befall deeds
    lost.transfer.Reachable ∧ lost.outcome = .arbitrationLost ∧
      lost.transfer.phase = .idle ∧ (∀ deed ∈ deeds, deed.begins = false) ∧
      after.transfer.held = some (.read 0x50 [7, 0]) ∧
      after.host.calls =
        lost.host.calls ++ (Transfer.closing ++ Transfer.closing) ∧
      after.host.calls.count .stop = 0 := by
  intro befall first lost deeds after
  have hreachable : lost.transfer.Reachable := course_reachable befall .new _
  have hlost : lost.outcome = .arbitrationLost := by decide
  have hidle : lost.transfer.phase = .idle := by decide
  have hbegins : ∀ deed ∈ deeds, deed.begins = false := by decide
  have hheld : lost.transfer.held = some (.read 0x50 [7, 0]) := by decide
  have hnone : lost.host.calls.count .stop = 0 := by decide
  have hreleases : deeds.any Deed.releases = false := rfl
  have hcount : deeds.countP Deed.begins = 0 := rfl
  have hquieting : deeds.flatMap Deed.quieting =
      Transfer.closing ++ Transfer.closing := rfl
  obtain ⟨hover, hstops, _⟩ := course_stays_over befall hreachable hidle deeds
  obtain ⟨_, hkept, hcalls, _⟩ := hover hbegins
  rw [hquieting] at hcalls
  rw [hnone, hcount, Nat.add_zero, Nat.le_zero] at hstops
  refine ⟨hreachable, hlost, hidle, hbegins, ?_, hcalls, hstops⟩
  rw [hkept, hreleases, if_neg Bool.false_ne_true, hheld]

end Progress

end TwoWire
