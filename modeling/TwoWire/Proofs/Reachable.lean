/-
Transfers that can come about.

Whatever is asked of a transfer, and on whatever devices, it is either over or
runs a sequence that can be run, with a cursor that fits what it waits for.
-/
import TwoWire.Bench
import TwoWire.Proofs.History

namespace TwoWire

open Sequence (Kind Stage)

namespace Transfer

/-- The transfers that follow from a new one. -/
inductive Reachable : Transfer → Prop where
  | new : Reachable {}
  | start {σ : Type} [Device σ] {transfer : Transfer} (sequence : Sequence)
      (device : σ) : Reachable transfer →
      Reachable (transfer.start sequence device).transfer
  | step {σ : Type} [Device σ] {transfer : Transfer} (device : σ) :
      Reachable transfer → Reachable (transfer.step device).transfer
  | release {transfer : Transfer} : Reachable transfer →
      Reachable transfer.release.2

/-- The transfer is over, or runs something. -/
inductive Sound (transfer : Transfer) : Prop where
  | idle : transfer.phase = .idle → transfer.outcome ≠ .inProgress →
      Sound transfer
  | running {sequence : Sequence} {kind : Kind} {received : List UInt8}
      {stage : Stage} : transfer.Runs sequence kind received stage →
      Sound transfer

variable {σ : Type} [Device σ] {transfer : Transfer} {sequence : Sequence}
  {kind : Kind} {received bytes : List UInt8} {stage : Stage}
  {status : Interrupts} {reaction : Reaction}

theorem step_settles (transfer : Transfer) (device : σ) :
    ∃ status bytes,
      bytes.length = (transfer.react status).calls.count .readData ∧
      (transfer.step device).outcome = (transfer.react status).outcome ∧
      (transfer.step device).transfer =
        (transfer.react status).settle bytes := by
  by_cases hidle : transfer.phase = .idle
  · rw [step_of_idle hidle]
    exact ⟨_, _, Device.length_run _ device, rfl, rfl⟩
  · rw [step_of_active hidle]
    exact ⟨_, _, Device.length_run _ (Device.status device).2, rfl, rfl⟩

theorem Ended.sound (h : transfer.Ended sequence kind received) :
    transfer.Sound :=
  .idle h.phase h.outcome

theorem Runs.settle_sound (h : transfer.Runs sequence kind received stage)
    (hbytes : bytes.length = (transfer.react status).calls.count .readData) :
    ((transfer.react status).settle bytes).Sound := by
  have hhandles := h.inFlight.react_handles status
  by_cases hrunning : (transfer.react status).outcome = .inProgress
  · obtain ⟨later, hlater, _⟩ := hhandles.runs h hrunning hbytes
    exact .running hlater
  by_cases hdone : (transfer.react status).outcome = .done
  · exact (hhandles.done h hdone hbytes).1.sound
  · exact (hhandles.failed h hrunning hdone hbytes).2.1.sound

theorem step_sound (h : transfer.Sound) (device : σ) :
    (transfer.step device).transfer.Sound := by
  obtain ⟨status, bytes, hbytes, _, htransfer⟩ := transfer.step_settles device
  rw [htransfer]
  cases h with
  | idle hidle houtcome =>
      rw [react_of_idle hidle] at hbytes ⊢
      obtain rfl : bytes = [] := List.eq_nil_of_length_eq_zero hbytes
      exact .idle rfl nofun
  | running hruns => exact hruns.settle_sound hbytes

theorem start_of_invalid (h : sequence.kind? = none) (transfer : Transfer)
    (device : σ) :
    transfer.start sequence device = ⟨.usageFault, transfer, device⟩ := by
  rw [start, begin?, h]
  rfl

theorem start_of_begin? {reaction : Reaction} {device : σ}
    (h : begin? sequence (Device.busy device) = some reaction)
    (transfer : Transfer) :
    transfer.start sequence device = perform reaction device := by
  rw [start, h]

theorem start_runs (h : sequence.kind? = some kind) (transfer : Transfer)
    (device : σ) :
    (transfer.start sequence device).outcome = .inProgress ∧
      (transfer.start sequence device).transfer.Runs sequence kind []
        (sequence.firstStage kind) := by
  obtain ⟨reaction, hbegin, houtcome, hruns, hcalls⟩ :=
    begin?_of_valid h (Device.busy device)
  have hnone : (Device.run reaction.calls device).1 = [] := by
    apply List.eq_nil_of_length_eq_zero
    rw [Device.length_run, hcalls, List.count_eq_zero]
    exact Call.readData_not_mem_beginning _ _
  rw [start_of_begin? hbegin]
  simp only [perform, hnone]
  exact ⟨houtcome, hruns⟩

theorem start_of_valid (h : sequence.kind? = some kind) (transfer : Transfer)
    (device : σ) : (transfer.start sequence device).outcome = .inProgress :=
  (start_runs h transfer device).1

theorem start_sound (h : transfer.Sound) (sequence : Sequence) (device : σ) :
    (transfer.start sequence device).transfer.Sound := by
  cases hkind : sequence.kind? with
  | none =>
      rw [start_of_invalid hkind]
      exact h
  | some kind => exact .running (start_runs hkind transfer device).2

theorem release_sound (h : transfer.Sound) : transfer.release.2.Sound := by
  cases h with
  | idle hidle houtcome =>
      rw [release_of_idle hidle]
      exact .idle hidle houtcome
  | running hruns =>
      rw [release_of_active hruns.inFlight.stands.phase_ne_idle]
      exact .running hruns

/-- Nothing leads out of the sound transfers. -/
theorem Reachable.sound (h : transfer.Reachable) : transfer.Sound := by
  induction h with
  | new => exact .idle rfl nofun
  | start sequence device _ ih => exact start_sound ih sequence device
  | step device _ ih => exact step_sound ih device
  | release _ ih => exact release_sound ih

/-- The cursor fits what the transfer waits for. -/
def Fits (transfer : Transfer) (sequence : Sequence) : Prop :=
  match transfer.phase with
  | .idle => False
  | .address => transfer.slot = .first ∧ transfer.index = 0
  | .secondAddress =>
    sequence.isTenBit = true ∧ transfer.slot = .first ∧ transfer.index = 0
  | .readdress =>
    transfer.index = 0 ∧
      (transfer.kind = .read ∧ sequence.isTenBit = true ∧
          transfer.slot = .first ∨
        transfer.kind = .writeRead ∧ transfer.slot = .second)
  | .transmit =>
    ∃ bytes, sequence.buffer transfer.slot = .transmit bytes ∧
      1 ≤ transfer.index ∧ transfer.index ≤ bytes.length ∧
      (transfer.slot = .second → transfer.kind = .writeWrite)
  | .receive =>
    ∃ bytes, sequence.buffer transfer.slot = .receive bytes ∧
      transfer.index < bytes.length ∧
      (transfer.kind = .read ∧ transfer.slot = .first ∨
        transfer.kind = .writeRead ∧ transfer.slot = .second)

theorem InFlight.fits (h : transfer.InFlight sequence stage) :
    transfer.Fits sequence := by
  obtain ⟨held, kind, phase, slot, index, outcome, source⟩ := transfer
  obtain ⟨hheld, hvalid, houtcome, hstands⟩ := h
  simp only at hvalid hstands
  cases hstands with
  | opening hwide => exact ⟨rfl, rfl⟩
  | addressed hwide hkind => exact ⟨rfl, rfl⟩
  | asked hwide hkind => exact ⟨rfl, rfl⟩
  | opened hwide => exact ⟨hwide, rfl, rfl⟩
  | sent hkind hbuffer hslot hfirst hlast =>
      exact ⟨_, hbuffer, hfirst, hlast, hslot⟩
  | turned hslot hwide =>
      refine ⟨rfl, ?_⟩
      rcases Kind.receivesInto_eq_some_iff.mp hslot with
        ⟨hkind, hfirst⟩ | hsecond
      · exact Or.inl ⟨hkind, hwide hkind, hfirst⟩
      · exact Or.inr hsecond
  | receiving hslot hroom =>
      obtain ⟨bytes, hbuffer, _⟩ := Sequence.buffer_of_receivesInto hvalid hslot
      rw [Sequence.receiveLength_of_receivesInto hslot, hbuffer] at hroom
      exact ⟨bytes, hbuffer, hroom, Kind.receivesInto_eq_some_iff.mp hslot⟩

/-- A transfer whose next event is a byte, or may bring one along, has room
for it. -/
theorem InFlight.exists_room (h : transfer.InFlight sequence stage)
    (hstage : stage = .turned ∨ ∃ index, stage = .receiving index) :
    ∃ bytes, sequence.buffer transfer.slot = .receive bytes ∧
      transfer.index < bytes.length := by
  have hroom : transfer.kind.receivesInto = some transfer.slot ∧
      transfer.index < sequence.receiveLength transfer.kind := by
    obtain ⟨held, kind, phase, slot, index, outcome, source⟩ := transfer
    obtain ⟨hheld, hvalid, houtcome, hstands⟩ := h
    simp only at hvalid hstands ⊢
    cases hstands with
    | asked hwide hkind =>
        subst hkind
        exact ⟨rfl, Sequence.receiveLength_pos hvalid rfl⟩
    | turned hslot hwide =>
        exact ⟨hslot, Sequence.receiveLength_pos hvalid hslot⟩
    | receiving hslot hroom => exact ⟨hslot, hroom⟩
    | _ => exact absurd hstage (by simp)
  obtain ⟨hslot, hindex⟩ := hroom
  obtain ⟨bytes, hbuffer, _⟩ := Sequence.buffer_of_receivesInto h.valid hslot
  rw [Sequence.receiveLength_of_receivesInto hslot, hbuffer] at hindex
  exact ⟨bytes, hbuffer, hindex⟩

/-- Only a transfer that waits for data, or for the answer to an address that
asks for it, takes a byte. -/
theorem Handles.stage_of_readData
    (h : Handles transfer sequence status stage reaction)
    (hread : .readData ∈ reaction.calls) :
    stage = .turned ∨ ∃ index, stage = .receiving index := by
  cases h with
  | lost hlost => simp [finish, closing] at hread
  | broken hlost hbroken => simp [finish, closing] at hread
  | refused hquiet hphase hnack =>
      simp [Transfer.refused, finish, closing] at hread
  | unanswered hquiet hphase hnack hack => simp [wait] at hread
  | opened hacked hnext => simp [wait] at hread
  | onward hacked honward =>
      cases honward with
      | sent hbyte hnext => simp [Reaction.after, wait] at hread
      | turned hlast hreaddress hnext => simp [Reaction.after, wait] at hread
      | ended hlast hreaddress hkind hheld hnextKind =>
          simp [Reaction.after, finish, closing] at hread
  | turned hacked hnext htaking => exact Or.inl rfl
  | received hquiet htaking => exact Or.inr ⟨_, rfl⟩

/-- A transfer that can come about is in flight exactly while it reports so.
Then it holds a sequence that can be run, its cursor fits its phase, it reads
only into a slot that is there, and no step of it comes to a fault. -/
theorem reachable_fits (h : transfer.Reachable) :
    (transfer.phase = .idle ↔ transfer.outcome ≠ .inProgress) ∧
      (transfer.phase ≠ .idle →
        (∃ sequence, transfer.held = some sequence ∧
          sequence.kind? = some transfer.kind ∧ transfer.Fits sequence ∧
          ∀ status, .readData ∈ (transfer.react status).calls →
            ∃ bytes, sequence.buffer transfer.slot = .receive bytes ∧
              transfer.index < bytes.length) ∧
        (∀ status,
          (transfer.react status).outcome ≠ .softwareFault ∧
            (transfer.react status).outcome ≠ .usageFault) ∧
        ∀ {τ : Type} [Device τ] (device : τ),
          (transfer.step device).outcome ≠ .softwareFault ∧
            (transfer.step device).outcome ≠ .usageFault) := by
  cases h.sound with
  | idle hidle houtcome =>
      exact ⟨iff_of_true hidle houtcome, fun hphase => absurd hidle hphase⟩
  | running hruns =>
      have hflight := hruns.inFlight
      have hactive := hflight.stands.phase_ne_idle
      have hhandles := hflight.react_handles
      refine ⟨iff_of_false hactive (not_not_intro hflight.outcome),
        fun _ => ⟨⟨_, hflight.held, hflight.valid, hflight.fits, ?_⟩, ?_, ?_⟩⟩
      · intro status hread
        exact hflight.exists_room ((hhandles status).stage_of_readData hread)
      · exact fun status => (hhandles status).outcome_ne
      · intro τ _ device
        obtain ⟨status, _, _, houtcome, _⟩ := transfer.step_settles device
        rw [houtcome]
        exact (hhandles status).outcome_ne

/-- Half of a read, begun after a sequence that cannot be run was turned
down. -/
theorem reachable_fits_reading :
    let begun := (({} : Transfer).start (.read 0x50 []) ({} : Bench)).transfer
    let bench := Bench.withResponder [7, 8]
    let started := begun.start (.read 0x50 [0, 0]) bench
    let transfer := (started.transfer.step started.host).transfer
    transfer.Reachable ∧ transfer.phase = .receive ∧
      transfer.held = some (.read 0x50 [7, 0]) ∧
      transfer.Fits (.read 0x50 [7, 0]) ∧
      ∀ status, (transfer.react status).outcome ≠ .softwareFault := by
  intro begun bench started transfer
  have hreachable : transfer.Reachable :=
    .step started.host (.start _ bench (.start _ ({} : Bench) .new))
  have hphase : transfer.phase = .receive := by decide
  have hheld : transfer.held = some (.read 0x50 [7, 0]) := by decide
  obtain ⟨⟨sequence, hsequence, _, hfits, _⟩, hsound, _⟩ :=
    (reachable_fits hreachable).2 (by rw [hphase]; nofun)
  obtain rfl := Option.some.inj (hheld.symm.trans hsequence)
  exact ⟨hreachable, hphase, hheld, hfits, fun status => (hsound status).1⟩

end Transfer

end TwoWire
