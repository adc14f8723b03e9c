/-
What every step reports.

The flags rank: a lost bus comes before a bus error, a bus error before a
refused byte, and only where none of these is shown does it count how far the
transfer has come.  Then it is done if what arrives is the last thing that its
sequence waits for, which can be read off its phase and its cursor.  No other
flag makes a difference to anything.
-/
import TwoWire.Bench.Script
import TwoWire.Proofs.Reachable
import TwoWire.Proofs.Reply
import TwoWire.Proofs.Tally

namespace TwoWire

open Sequence (Kind Slot Stage)

/-- The event shown by `status` is the last one of a sequence at a stage. -/
def Sequence.EndsAt (sequence : Sequence) (kind : Kind)
    (status : Interrupts) : Stage → Prop
  | .opening => False
  | .sending position =>
    .ackReceived ∈ status ∧ (sequence.sent kind).length ≤ position ∧
      sequence.readdresses kind = false ∧ kind ≠ .read
  | .turned =>
    .ackReceived ∈ status ∧ .dataReceived ∈ status ∧
      sequence.receiveLength kind = 1
  | .receiving index =>
    .dataReceived ∈ status ∧ index + 1 = sequence.receiveLength kind

/-- Two words that a transfer cannot tell apart. -/
def Interrupts.ShowsAlike (status other : Interrupts) : Prop :=
  ∀ source ∈ Interrupts.transfer, source ∈ status ↔ source ∈ other

namespace Transfer

variable {transfer : Transfer} {sequence : Sequence} {kind : Kind}
  {phase : Phase} {slot : Slot} {index : Nat} {stage : Stage}
  {status : Interrupts} {outcome : Outcome} {reaction : Reaction}

/-- An acknowledgement would be the last event: the transfer only sends, and
has nothing left to send. -/
def SentAll (transfer : Transfer) (sequence : Sequence) : Prop :=
  (transfer.phase = .address ∧ sequence.isTenBit = false ∨
      transfer.phase = .secondAddress ∨ transfer.phase = .transmit) ∧
    (transfer.kind = .write ∨ transfer.kind = .writeWrite) ∧
    (sequence.buffer transfer.slot).bytes.length ≤ transfer.index ∧
    (transfer.kind = .writeWrite → transfer.slot = .first →
      sequence.second.bytes = [])

/-- A data byte would be the last event: it takes the only slot that is left. -/
def OneSlotLeft (transfer : Transfer) (sequence : Sequence) : Prop :=
  transfer.phase = .receive ∧
    transfer.index + 1 = (sequence.buffer transfer.slot).bytes.length

/-- The address of a read is answered, and a single byte is asked for. -/
def AsksForOne (transfer : Transfer) (sequence : Sequence) : Prop :=
  (transfer.phase = .readdress ∨
      transfer.phase = .address ∧ sequence.isTenBit = false ∧
        transfer.kind = .read) ∧
    (sequence.buffer transfer.slot).bytes.length = 1

/-- What is shown is all that the transfer still waits for. -/
def Finishes (transfer : Transfer) (sequence : Sequence)
    (status : Interrupts) : Prop :=
  .ackReceived ∈ status ∧ transfer.SentAll sequence ∨
    .dataReceived ∈ status ∧ transfer.OneSlotLeft sequence ∨
    .ackReceived ∈ status ∧ .dataReceived ∈ status ∧
      transfer.AsksForOne sequence

instance : Decidable (transfer.SentAll sequence) :=
  inferInstanceAs (Decidable (_ ∧ _ ∧ _ ∧ (_ → _ → _)))

instance : Decidable (transfer.OneSlotLeft sequence) :=
  inferInstanceAs (Decidable (_ ∧ _))

instance : Decidable (transfer.AsksForOne sequence) :=
  inferInstanceAs (Decidable (_ ∧ _))

instance : Decidable (transfer.Finishes sequence status) :=
  inferInstanceAs (Decidable (_ ∨ _ ∨ _))

structure Verdict (transfer : Transfer) (sequence : Sequence)
    (status : Interrupts) (outcome : Outcome) : Prop where
  arbitrationLost : outcome = .arbitrationLost ↔ .arbitrationLost ∈ status
  busError : outcome = .busError ↔
    .busError ∈ status ∧ .arbitrationLost ∉ status
  nack : outcome = .nack ↔
    (.arbitrationLost ∉ status ∧ .busError ∉ status) ∧
      .nackReceived ∈ status ∧ transfer.phase ≠ .receive
  done : outcome = .done ↔
    transfer.Calm status ∧ transfer.Finishes sequence status
  inProgress : outcome = .inProgress ↔
    transfer.Calm status ∧ ¬ transfer.Finishes sequence status

/-- The buffers are sent once the one in use is, and no other follows. -/
theorem length_sent_le_iff (hkind : kind ≠ .read)
    (hslot : slot = .second → kind = .writeWrite)
    (hindex : index ≤ (sequence.buffer slot).bytes.length) :
    (sequence.sent kind).length ≤ sequence.position slot index ∧
        sequence.readdresses kind = false ↔
      (kind = .write ∨ kind = .writeWrite) ∧
        (sequence.buffer slot).bytes.length ≤ index ∧
        (kind = .writeWrite → slot = .first →
          sequence.second.bytes = []) := by
  cases slot with
  | first =>
      cases kind with
      | write => simp [Sequence.sent, Sequence.position, Sequence.readdresses,
          Sequence.buffer]
      | read => exact absurd rfl hkind
      | writeRead => simp [Sequence.readdresses]
      | writeWrite =>
          have hfirst : index ≤ sequence.first.bytes.length := hindex
          simp only [Sequence.sent, Sequence.position, Sequence.readdresses,
            Sequence.buffer, List.length_append, ← List.length_eq_zero_iff,
            or_true, true_and, and_true, true_implies]
          omega
  | second =>
      rw [hslot rfl]
      simp [Sequence.sent, Sequence.position, Sequence.readdresses,
        Sequence.buffer]

/-- A sequence that has nothing at all to send. -/
theorem sent_eq_nil_iff (sequence : Sequence) (hkind : kind ≠ .read) :
    sequence.sent kind = [] ∧ sequence.readdresses kind = false ↔
      (kind = .write ∨ kind = .writeWrite) ∧
        (sequence.buffer .first).bytes = [] ∧
        (kind = .writeWrite → sequence.second.bytes = []) := by
  have hnone : 0 ≤ (sequence.buffer .first).bytes.length := Nat.zero_le _
  have hslot : Slot.first = .second → kind = .writeWrite := nofun
  simpa [Sequence.position] using length_sent_le_iff hkind hslot hnone

/-- Whether the next event is the last one can be read off the cursor. -/
theorem InFlight.finishes_iff (h : transfer.InFlight sequence stage) :
    transfer.Finishes sequence status ↔
      sequence.EndsAt transfer.kind status stage := by
  obtain ⟨held, kind, phase, slot, index, outcome, source⟩ := transfer
  obtain ⟨hheld, hvalid, houtcome, hstands⟩ := h
  simp only at hvalid hstands
  simp only [Finishes, SentAll, OneSlotLeft, AsksForOne]
  cases hstands with
  | opening hwide => simp [Sequence.EndsAt, hwide]
  | addressed hwide hkind =>
      simp [Sequence.EndsAt, hwide, hkind, ← sent_eq_nil_iff sequence hkind]
  | asked hwide hkind =>
      subst hkind
      simp [Sequence.EndsAt, hwide, Sequence.receiveLength, Sequence.buffer]
  | opened hwide =>
      by_cases hkind : kind = .read
      · simp [Sequence.EndsAt, hkind]
      · simp [Sequence.EndsAt, hkind, ← sent_eq_nil_iff sequence hkind]
  | sent hkind hbuffer hslot hfirst hlast =>
      have hindex : index ≤ (sequence.buffer slot).bytes.length :=
        hbuffer ▸ hlast
      simp [Sequence.EndsAt, hkind, ← length_sent_le_iff hkind hslot hindex]
  | turned hslot hwide =>
      simp [Sequence.EndsAt, Sequence.receiveLength_of_receivesInto hslot]
  | receiving hslot hroom =>
      simp [Sequence.EndsAt, Sequence.receiveLength_of_receivesInto hslot]

theorem Verdict.of_lost (hlost : .arbitrationLost ∈ status) :
    transfer.Verdict sequence status .arbitrationLost where
  arbitrationLost := iff_of_true rfl hlost
  busError := iff_of_false nofun fun h => h.2 hlost
  nack := iff_of_false nofun fun h => h.1.1 hlost
  done := iff_of_false nofun fun h => h.1.1.1 hlost
  inProgress := iff_of_false nofun fun h => h.1.1.1 hlost

theorem Verdict.of_broken (hlost : .arbitrationLost ∉ status)
    (hbroken : .busError ∈ status) :
    transfer.Verdict sequence status .busError where
  arbitrationLost := iff_of_false nofun hlost
  busError := iff_of_true rfl ⟨hbroken, hlost⟩
  nack := iff_of_false nofun fun h => h.1.2 hbroken
  done := iff_of_false nofun fun h => h.1.1.2 hbroken
  inProgress := iff_of_false nofun fun h => h.1.1.2 hbroken

theorem Verdict.of_refused (hquiet : Quiet status)
    (hphase : transfer.phase ≠ .receive) (hnack : .nackReceived ∈ status) :
    transfer.Verdict sequence status .nack where
  arbitrationLost := iff_of_false nofun hquiet.1
  busError := iff_of_false nofun fun h => hquiet.2 h.1
  nack := iff_of_true rfl ⟨hquiet, hnack, hphase⟩
  done := iff_of_false nofun fun h => h.1.2 hphase hnack
  inProgress := iff_of_false nofun fun h => h.1.2 hphase hnack

/-- Where nothing is wrong, all depends on whether something is still to
come. -/
theorem Verdict.of_calm (hcalm : transfer.Calm status)
    (hdone : transfer.Finishes sequence status → outcome = .done)
    (hgoes : ¬ transfer.Finishes sequence status → outcome = .inProgress) :
    transfer.Verdict sequence status outcome := by
  by_cases hfinishes : transfer.Finishes sequence status
  · rw [hdone hfinishes]
    exact
      { arbitrationLost := iff_of_false nofun hcalm.1.1
        busError := iff_of_false nofun fun h => hcalm.1.2 h.1
        nack := iff_of_false nofun fun h => hcalm.2 h.2.2 h.2.1
        done := iff_of_true rfl ⟨hcalm, hfinishes⟩
        inProgress := iff_of_false nofun fun h => h.2 hfinishes }
  · rw [hgoes hfinishes]
    exact
      { arbitrationLost := iff_of_false nofun hcalm.1.1
        busError := iff_of_false nofun fun h => hcalm.1.2 h.1
        nack := iff_of_false nofun fun h => hcalm.2 h.2.2 h.2.1
        done := iff_of_false nofun fun h => hfinishes h.2
        inProgress := iff_of_true rfl ⟨hcalm, hfinishes⟩ }

theorem Acked.calm (h : Acked status) : transfer.Calm status :=
  ⟨h.1, fun _ => h.2.1⟩

/-- Sending is over with the last byte of a sequence that only sends. -/
theorem Onward.outcome_eq {position : Nat} (hacked : Acked status)
    (h : Onward sequence kind position reaction) :
    (sequence.EndsAt kind status (.sending position) →
        reaction.outcome = .done) ∧
      (¬ sequence.EndsAt kind status (.sending position) →
        reaction.outcome = .inProgress) := by
  cases h with
  | sent hbyte hnext =>
      have hmore := (List.getElem?_eq_some_iff.mp hbyte).1
      exact ⟨fun hends => absurd hmore (Nat.not_lt.mpr hends.2.1), fun _ => rfl⟩
  | turned hlast hreaddress hnext =>
      refine ⟨fun hends => ?_, fun _ => rfl⟩
      exact absurd (hreaddress.symm.trans hends.2.2.1) nofun
  | ended hlast hreaddress hkind hheld hnextKind =>
      have hlength := List.getElem?_eq_none_iff.mp hlast
      refine ⟨fun _ => rfl, fun hends => ?_⟩
      exact absurd ⟨hacked.2.2, hlength, hreaddress, hkind⟩ hends

/-- Receiving is over with the byte for the last slot. -/
theorem Taking.outcome_eq
    (h : Taking transfer sequence status index reaction) :
    (.dataReceived ∈ status ∧
        index + 1 = sequence.receiveLength transfer.kind →
        reaction.outcome = .done) ∧
      (¬ (.dataReceived ∈ status ∧
          index + 1 = sequence.receiveLength transfer.kind) →
        reaction.outcome = .inProgress) := by
  cases h with
  | none hdata => exact ⟨fun hends => absurd hends.1 hdata, fun _ => rfl⟩
  | more hdata hmore =>
      exact ⟨fun hends => absurd hends.2 (Nat.ne_of_lt hmore), fun _ => rfl⟩
  | last hdata hlast =>
      exact ⟨fun _ => rfl, fun hends => absurd ⟨hdata, hlast⟩ hends⟩

theorem Handles.verdict
    (h : Handles transfer sequence status stage reaction)
    (hflight : transfer.InFlight sequence stage) :
    transfer.Verdict sequence status reaction.outcome := by
  have hreceive := hflight.stands.phase_eq_receive_iff
  cases h with
  | lost hlost => exact .of_lost hlost
  | broken hlost hbroken => exact .of_broken hlost hbroken
  | refused hquiet hphase hnack => exact .of_refused hquiet hphase hnack
  | unanswered hquiet hphase hnack hack =>
      apply Verdict.of_calm ⟨hquiet, fun _ => hnack⟩
      · rintro (⟨hacked, _⟩ | ⟨_, hlast⟩ | ⟨hacked, _⟩)
        · exact absurd hacked hack
        · exact absurd hlast.1 hphase
        · exact absurd hacked hack
      · exact fun _ => rfl
  | opened hacked hnext =>
      apply Verdict.of_calm hacked.calm
      · rw [hflight.finishes_iff]
        exact False.elim
      · exact fun _ => rfl
  | onward hacked honward =>
      apply Verdict.of_calm hacked.calm
      · rw [hflight.finishes_iff]
        exact (honward.outcome_eq hacked).1
      · rw [hflight.finishes_iff]
        exact (honward.outcome_eq hacked).2
  | turned hacked hnext htaking =>
      have houtcome := htaking.outcome_eq
      rw [hflight.kind_eq hnext, Nat.zero_add, eq_comm (a := 1)] at houtcome
      apply Verdict.of_calm hacked.calm
      · rw [hflight.finishes_iff]
        exact fun hends => houtcome.1 hends.2
      · rw [hflight.finishes_iff]
        exact fun hends => houtcome.2 fun hdata => hends ⟨hacked.2.2, hdata⟩
  | received hquiet htaking =>
      have hphase := hreceive.mpr ⟨_, rfl⟩
      apply Verdict.of_calm ⟨hquiet, fun hnot => absurd hphase hnot⟩
      · rw [hflight.finishes_iff]
        exact htaking.outcome_eq.1
      · rw [hflight.finishes_iff]
        exact htaking.outcome_eq.2

/-- In any transfer in flight that can come about, the flags that are shown
decide what the step reports, as the table says.  Nothing but the sources of a
transfer counts among them: words that agree on these get the same reaction,
and so the same step, with the same calls and the same transfer to follow. -/
theorem reachable_verdict (h : transfer.Reachable)
    (hactive : transfer.phase ≠ .idle) :
    ∃ sequence, transfer.held = some sequence ∧
      sequence.kind? = some transfer.kind ∧
      (∀ status,
        transfer.Verdict sequence status (transfer.react status).outcome ∧
          ∀ other, status.ShowsAlike other →
            transfer.react other = transfer.react status) ∧
      ∀ {σ : Type} [Device σ] {device seen : σ} {status : Interrupts},
        Device.status device = (status, seen) →
          transfer.Verdict sequence status (transfer.step device).outcome ∧
            ∀ {other : σ} {shown : Interrupts},
              Device.status other = (shown, seen) → status.ShowsAlike shown →
                transfer.step other = transfer.step device := by
  cases h.sound with
  | idle hidle houtcome => exact absurd hidle hactive
  | running hruns =>
      have hflight := hruns.inFlight
      have hverdict := fun status =>
        (hflight.react_handles status).verdict hflight
      refine ⟨_, hflight.held, hflight.valid, fun status => ⟨hverdict status,
        fun other halike => (react_congr halike transfer).symm⟩, ?_⟩
      intro σ _ device seen status hstatus
      have hstep : ∀ {device : σ} {status : Interrupts},
          Device.status device = (status, seen) →
            transfer.step device = perform (transfer.react status) seen := by
        intro device status hstatus
        rw [step_of_active hactive, hstatus]
      rw [hstep hstatus]
      refine ⟨hverdict status, fun hother halike => ?_⟩
      rw [hstep hother, react_congr halike transfer]

/-- A byte is out, and the second buffer has none to follow. -/
theorem reachable_verdict_writing :
    let shown (status : Interrupts) : Scripted Bench := ⟨{}, [status]⟩
    let started := ({} : Transfer).start (.writeWrite 0x50 [1] [])
      (shown {Interrupt.ackReceived})
    let transfer := (started.transfer.step started.host).transfer
    let outcome (status : Interrupts) := (transfer.step (shown status)).outcome
    transfer.Reachable ∧ transfer.phase = .transmit ∧
      outcome {.dataReceived} = .inProgress ∧
      outcome {.ackReceived, .dataReceived} = .done ∧
      outcome {.ackReceived, .nackReceived} = .nack ∧
      outcome {.nackReceived, .busError} = .busError ∧
      outcome .all = .arbitrationLost ∧
      transfer.step (shown {.ackReceived, .startSent, .stopSent}) =
        transfer.step (shown {.ackReceived}) := by
  intro shown started transfer outcome
  have hreachable : transfer.Reachable := .step _ (.start _ _ .new)
  have hphase : transfer.phase = .transmit := by decide
  have hheld : transfer.held = some (.writeWrite 0x50 [1] []) := by decide
  obtain ⟨sequence, hsequence, _, _, hstep⟩ :=
    reachable_verdict hreachable (by rw [hphase]; nofun)
  obtain rfl := Option.some.inj (hheld.symm.trans hsequence)
  have hshown : ∀ status, Device.status (shown status) =
      (∅ ∪ status, ({ device := {} } : Scripted Bench)) := fun _ => rfl
  refine ⟨hreachable, hphase, (hstep (hshown _)).1.inProgress.mpr (by decide),
    (hstep (hshown _)).1.done.mpr (by decide),
    (hstep (hshown _)).1.nack.mpr (by decide),
    (hstep (hshown _)).1.busError.mpr (by decide),
    (hstep (hshown _)).1.arbitrationLost.mpr (by decide),
    (hstep (hshown _)).2 (hshown _) ?_⟩
  intro source
  cases source <;> decide

end Transfer

end TwoWire
