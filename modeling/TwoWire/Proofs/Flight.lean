/-
Transfers in flight.

`Stands` relates the cursor of a transfer to the stage that its sequence is at;
it is the invariant of a transfer in flight.  `react_handles` is the one place
where a reaction is taken apart: it lists what a transfer at a given stage can
do, with the condition for each.
-/
import TwoWire.Proofs.Stage
import TwoWire.Transfer

namespace TwoWire

open Sequence (Kind Slot Stage)

/-- How many bytes of a sequence are sent when the cursor is here. -/
def Sequence.position (sequence : Sequence) : Slot → Nat → Nat
  | .first, index => index
  | .second, index => sequence.first.bytes.length + index

namespace Transfer

/-- Where the cursor can be in each phase, and what the sequence then waits
for. -/
inductive Stands (sequence : Sequence) (kind : Kind) :
    Phase → Slot → Nat → Stage → Prop where
  | opening : sequence.isTenBit = true →
      Stands sequence kind .address .first 0 .opening
  | addressed : sequence.isTenBit = false → kind ≠ .read →
      Stands sequence kind .address .first 0 (.sending 0)
  | asked : sequence.isTenBit = false → kind = .read →
      Stands sequence kind .address .first 0 .turned
  | opened : sequence.isTenBit = true →
      Stands sequence kind .secondAddress .first 0 (.sending 0)
  | sent {slot : Slot} {bytes : List UInt8} {index : Nat} : kind ≠ .read →
      sequence.buffer slot = .transmit bytes →
      (slot = .second → kind = .writeWrite) →
      1 ≤ index → index ≤ bytes.length →
      Stands sequence kind .transmit slot index
        (.sending (sequence.position slot index))
  | turned {slot : Slot} : kind.receivesInto = some slot →
      (kind = .read → sequence.isTenBit = true) →
      Stands sequence kind .readdress slot 0 .turned
  | receiving {slot : Slot} {index : Nat} : kind.receivesInto = some slot →
      index < sequence.receiveLength kind →
      Stands sequence kind .receive slot index (.receiving index)

/-- The transfer is in flight and runs `sequence`, which is at `stage`. -/
structure InFlight (transfer : Transfer) (sequence : Sequence)
    (stage : Stage) : Prop where
  held : transfer.held = some sequence
  valid : sequence.kind? = some transfer.kind
  outcome : transfer.outcome = .inProgress
  stands : Stands sequence transfer.kind transfer.phase transfer.slot
    transfer.index stage

variable {transfer next : Transfer} {sequence : Sequence} {kind : Kind}
  {phase : Phase} {slot : Slot} {index position : Nat} {stage : Stage}
  {status : Interrupts} {bytes : List UInt8}

theorem Stands.phase_ne_idle
    (h : Stands sequence kind phase slot index stage) : phase ≠ .idle := by
  rintro rfl
  cases h

theorem Stands.phase_eq_receive_iff
    (h : Stands sequence kind phase slot index stage) :
    phase = .receive ↔ ∃ index, stage = .receiving index := by
  cases h <;> simp

theorem InFlight.kind_eq {later : Stage}
    (h : transfer.InFlight sequence stage)
    (hnext : next.InFlight sequence later) : next.kind = transfer.kind :=
  Option.some.inj (hnext.valid.symm.trans h.valid)

/-- What a reaction at a sending stage comes to: the next byte, a second
addressing, or the end. -/
inductive Onward (sequence : Sequence) (kind : Kind) (position : Nat) :
    Reaction → Prop where
  | sent {byte : UInt8} {next : Transfer} :
      (sequence.sent kind)[position]? = some byte →
      next.InFlight sequence (.sending (position + 1)) →
      Onward sequence kind position (next.wait [.writeData byte])
  | turned {next : Transfer} :
      (sequence.sent kind)[position]? = none →
      sequence.readdresses kind = true →
      next.InFlight sequence .turned →
      Onward sequence kind position
        (next.wait [.repeatedStart, .writeAddress (sequence.header true)])
  | ended {next : Transfer} :
      (sequence.sent kind)[position]? = none →
      sequence.readdresses kind = false → kind ≠ .read →
      next.held = some sequence → next.kind = kind →
      Onward sequence kind position (next.finish .done [.stop])

/-- What becomes of the data byte at `index`. -/
inductive Taking (transfer : Transfer) (sequence : Sequence)
    (status : Interrupts) (index : Nat) : Reaction → Prop where
  | none : .dataReceived ∉ status →
      Taking transfer sequence status index
        (transfer.wait (if .nackReceived ∈ status then
          [.clearInterrupts {Interrupt.nackReceived}] else []))
  | more : .dataReceived ∈ status →
      index + 1 < sequence.receiveLength transfer.kind →
      Taking transfer sequence status index (transfer.wait [.readData, .ack])
  | last : .dataReceived ∈ status →
      index + 1 = sequence.receiveLength transfer.kind →
      Taking transfer sequence status index
        (transfer.finish .done [.readData, .nack, .stop])

theorem sendOr_of_some {byte : UInt8} (otherwise : Reaction)
    (hbuffer : sequence.buffer transfer.slot = .transmit bytes)
    (hbyte : bytes[transfer.index]? = some byte) :
    transfer.sendOr sequence otherwise =
      { transfer with
        phase := .transmit
        index := transfer.index + 1 : Transfer }.wait [.writeData byte] := by
  simp [sendOr, hbuffer, hbyte]

theorem sendOr_of_none (otherwise : Reaction)
    (hbuffer : sequence.buffer transfer.slot = .transmit bytes)
    (hbyte : bytes[transfer.index]? = none) :
    transfer.sendOr sequence otherwise = otherwise := by
  simp [sendOr, hbuffer, hbyte]

/-- The cursor is at a byte to send, or behind the last one of its buffer. -/
structure Sends (transfer : Transfer) (sequence : Sequence)
    (bytes : List UInt8) : Prop where
  held : transfer.held = some sequence
  valid : sequence.kind? = some transfer.kind
  outcome : transfer.outcome = .inProgress
  kind : transfer.kind ≠ .read
  buffer : sequence.buffer transfer.slot = .transmit bytes
  slot : transfer.slot = .second → transfer.kind = .writeWrite
  index : transfer.index ≤ bytes.length

namespace Sends

theorem sent_getElem? (h : transfer.Sends sequence bytes)
    (hindex : transfer.index < bytes.length) :
    (sequence.sent transfer.kind)[sequence.position transfer.slot
      transfer.index]? = bytes[transfer.index]? := by
  have hbuffer := h.buffer
  cases hslot : transfer.slot with
  | first =>
      rw [hslot] at hbuffer
      have hfirst : sequence.first.bytes = bytes :=
        congrArg Sequence.Buffer.bytes hbuffer
      cases hkind : transfer.kind with
      | write => simp [Sequence.sent, Sequence.position, hfirst]
      | read => exact absurd hkind h.kind
      | writeRead => simp [Sequence.sent, Sequence.position, hfirst]
      | writeWrite =>
          simp [Sequence.sent, Sequence.position, hfirst,
            List.getElem?_append_left hindex]
  | second =>
      rw [hslot] at hbuffer
      have hsecond : sequence.second.bytes = bytes :=
        congrArg Sequence.Buffer.bytes hbuffer
      rw [h.slot hslot]
      simp [Sequence.sent, Sequence.position, hsecond,
        List.getElem?_append_right]

theorem inFlight (h : transfer.Sends sequence bytes)
    (hindex : transfer.index < bytes.length) :
    { transfer with
      phase := .transmit
      index := transfer.index + 1 : Transfer }.InFlight sequence
        (.sending (sequence.position transfer.slot transfer.index + 1)) where
  held := h.held
  valid := h.valid
  outcome := h.outcome
  stands := by
    have hposition : sequence.position transfer.slot transfer.index + 1 =
        sequence.position transfer.slot (transfer.index + 1) := by
      cases transfer.slot <;> simp [Sequence.position, Nat.add_assoc]
    rw [hposition]
    exact .sent h.kind h.buffer h.slot (Nat.le_add_left 1 _) hindex

/-- As long as the buffer has a byte to send, that byte goes out. -/
theorem onward_of_lt (h : transfer.Sends sequence bytes) (otherwise : Reaction)
    (hindex : transfer.index < bytes.length) :
    Onward sequence transfer.kind
      (sequence.position transfer.slot transfer.index)
      (transfer.sendOr sequence otherwise) := by
  have hbyte := List.getElem?_eq_getElem hindex
  rw [sendOr_of_some otherwise h.buffer hbyte]
  exact .sent ((h.sent_getElem? hindex).trans hbyte) (h.inFlight hindex)

theorem second {second : List UInt8} (h : transfer.Sends sequence bytes)
    (hkind : transfer.kind = .writeWrite)
    (hsecond : sequence.second = .transmit second) :
    transfer.toSecond.Sends sequence second where
  held := h.held
  valid := h.valid
  outcome := h.outcome
  kind := h.kind
  buffer := hsecond
  slot := fun _ => hkind
  index := Nat.zero_le _

end Sends

/-- A transfer that is to read again stands at the beginning of the buffer it
fills. -/
theorem inFlight_readdress (transfer : Transfer)
    (hheld : transfer.held = some sequence)
    (hvalid : sequence.kind? = some transfer.kind)
    (houtcome : transfer.outcome = .inProgress)
    (hslot : transfer.kind.receivesInto = some transfer.slot)
    (hindex : transfer.index = 0)
    (hwide : transfer.kind = .read → sequence.isTenBit = true) :
    { transfer with phase := .readdress : Transfer }.InFlight sequence
      .turned where
  held := hheld
  valid := hvalid
  outcome := houtcome
  stands := by
    simp only [hindex]
    exact .turned hslot hwide

/-- The two buffers of a sequence go out as one run of bytes. -/
theorem Sends.onward (h : transfer.Sends sequence bytes) :
    Onward sequence transfer.kind
      (sequence.position transfer.slot transfer.index)
      (transfer.send sequence) := by
  by_cases hindex : transfer.index < bytes.length
  · exact h.onward_of_lt _ hindex
  have hlast : transfer.index = bytes.length :=
    Nat.le_antisymm h.index (Nat.le_of_not_gt hindex)
  have hnone : bytes[transfer.index]? = none := by
    simp [hlast]
  rw [send, sendOr_of_none _ h.buffer hnone]
  have hbuffer := h.buffer
  cases hslot : transfer.slot with
  | first =>
      rw [hslot] at hbuffer
      have hfirst : sequence.first.bytes = bytes :=
        congrArg Sequence.Buffer.bytes hbuffer
      cases hkind : transfer.kind with
      | write =>
          refine .ended ?_ rfl (by decide) h.held hkind
          simp [Sequence.sent, Sequence.position, hfirst, hlast]
      | read => exact absurd hkind h.kind
      | writeRead =>
          have hturned := inFlight_readdress transfer.toSecond h.held h.valid
            h.outcome (congrArg Kind.receivesInto hkind) rfl
            fun hread => absurd hread h.kind
          refine .turned ?_ rfl hturned
          simp [Sequence.sent, Sequence.position, hfirst, hlast]
      | writeWrite =>
          obtain ⟨second, hsecond⟩ :=
            Sequence.second_of_writeWrite (hkind ▸ h.valid)
          have hnext := h.second hkind hsecond
          have hnextKind : transfer.toSecond.kind = .writeWrite := hkind
          have hposition : sequence.position .first transfer.index =
              sequence.position .second 0 := by
            simp [Sequence.position, hfirst, hlast]
          rw [hposition]
          by_cases hmore : 0 < second.length
          · have honward := hnext.onward_of_lt
              (transfer.toSecond.finish .done [.stop]) hmore
            rw [hnextKind] at honward
            exact honward
          · have hempty : second = [] := by simpa using hmore
            rw [sendOr_of_none _ hnext.buffer (by simp [hempty])]
            refine .ended ?_ rfl (by decide) h.held hkind
            simp [Sequence.sent, Sequence.position, hsecond, hempty,
              Sequence.Buffer.bytes]
  | second =>
      rw [hslot] at hbuffer
      have hsecond : sequence.second.bytes = bytes :=
        congrArg Sequence.Buffer.bytes hbuffer
      have hkind := h.slot hslot
      rw [hkind]
      refine .ended ?_ rfl (by decide) h.held hkind
      simp [Sequence.sent, Sequence.position, hsecond, hlast]

theorem InFlight.cursor (h : transfer.InFlight sequence (.receiving index)) :
    transfer.kind.receivesInto = some transfer.slot ∧
      transfer.index = index ∧
      index < sequence.receiveLength transfer.kind := by
  have hstands := h.stands
  generalize transfer.phase = phase, transfer.slot = slot,
    transfer.index = cursor at hstands ⊢
  cases hstands with
  | receiving hslot hroom => exact ⟨hslot, rfl, hroom⟩

theorem InFlight.slotsLeft_eq
    (h : transfer.InFlight sequence (.receiving index)) :
    transfer.slotsLeft sequence =
      sequence.receiveLength transfer.kind - index := by
  obtain ⟨hslot, hindex, _⟩ := h.cursor
  obtain ⟨bytes, hbuffer, _⟩ := Sequence.buffer_of_receivesInto h.valid hslot
  rw [Sequence.receiveLength_of_receivesInto hslot, slotsLeft, hbuffer, hindex]
  rfl

theorem InFlight.taking (h : transfer.InFlight sequence (.receiving index))
    (status : Interrupts) :
    Taking transfer sequence status index
      (transfer.receive sequence status) := by
  have hroom := h.cursor.2.2
  by_cases hdata : .dataReceived ∈ status
  · rw [receive, if_pos hdata, h.slotsLeft_eq]
    by_cases hmore : index + 1 < sequence.receiveLength transfer.kind
    · obtain ⟨rest, hrest⟩ :
          ∃ rest, sequence.receiveLength transfer.kind - index = rest + 2 :=
        ⟨sequence.receiveLength transfer.kind - index - 2, by omega⟩
      rw [hrest]
      exact .more hdata hmore
    · have hlast : sequence.receiveLength transfer.kind - index = 1 := by
        omega
      rw [hlast]
      exact .last hdata (by omega)
  · have hnone : Taking transfer sequence status index (transfer.wait
        (if .nackReceived ∈ status then
          [.clearInterrupts {Interrupt.nackReceived}] else [])) := .none hdata
    by_cases hnack : .nackReceived ∈ status
    · simpa [receive, hdata, hnack] using hnone
    · simpa [receive, hdata, hnack] using hnone

/-- The bus is still ours. -/
def Quiet (status : Interrupts) : Prop :=
  .arbitrationLost ∉ status ∧ .busError ∉ status

/-- The byte that was sent is acknowledged, and nothing went wrong. -/
def Acked (status : Interrupts) : Prop :=
  Quiet status ∧ .nackReceived ∉ status ∧ .ackReceived ∈ status

/-- Everything that a transfer whose sequence is at a stage can do, and when
it does it. -/
inductive Handles (transfer : Transfer) (sequence : Sequence)
    (status : Interrupts) : Stage → Reaction → Prop where
  | lost {stage : Stage} : .arbitrationLost ∈ status →
      Handles transfer sequence status stage
        (transfer.finish .arbitrationLost [])
  | broken {stage : Stage} : .arbitrationLost ∉ status → .busError ∈ status →
      Handles transfer sequence status stage
        (transfer.finish .busError [.abort])
  | refused {stage : Stage} : Quiet status → transfer.phase ≠ .receive →
      .nackReceived ∈ status →
      Handles transfer sequence status stage transfer.refused
  | unanswered {stage : Stage} : Quiet status → transfer.phase ≠ .receive →
      .nackReceived ∉ status → .ackReceived ∉ status →
      Handles transfer sequence status stage (transfer.wait [])
  | opened {next : Transfer} : Acked status →
      next.InFlight sequence (.sending 0) →
      Handles transfer sequence status .opening
        (next.wait [.clearInterrupts {Interrupt.ackReceived},
          .writeAddress sequence.lowAddress])
  | onward {position : Nat} {reaction : Reaction} : Acked status →
      Onward sequence transfer.kind position reaction →
      Handles transfer sequence status (.sending position)
        (reaction.after [.clearInterrupts {Interrupt.ackReceived}])
  | turned {next : Transfer} {reaction : Reaction} : Acked status →
      next.InFlight sequence (.receiving 0) →
      Taking next sequence status 0 reaction →
      Handles transfer sequence status .turned
        (reaction.after [.clearInterrupts {Interrupt.ackReceived}])
  | received {index : Nat} {reaction : Reaction} : Quiet status →
      Taking transfer sequence status index reaction →
      Handles transfer sequence status (.receiving index) reaction

theorem Onward.sound {reaction : Reaction}
    (h : Onward sequence kind position reaction) :
    reaction.outcome = .inProgress ∨ reaction.outcome = .done := by
  cases h with
  | sent hbyte hnext => exact Or.inl rfl
  | turned hlast hreaddress hnext => exact Or.inl rfl
  | ended hlast hreaddress hkind hheld hnext => exact Or.inr rfl

theorem Taking.sound {reaction : Reaction}
    (h : Taking transfer sequence status index reaction) :
    reaction.outcome = .inProgress ∨ reaction.outcome = .done := by
  cases h with
  | none hdata => exact Or.inl rfl
  | more hdata hmore => exact Or.inl rfl
  | last hdata hlast => exact Or.inr rfl

/-- A transfer in flight is never at a loss. -/
theorem Handles.outcome_ne {reaction : Reaction}
    (h : Handles transfer sequence status stage reaction) :
    reaction.outcome ≠ .softwareFault ∧ reaction.outcome ≠ .usageFault := by
  have hsound : reaction.outcome = .inProgress ∨ reaction.outcome = .done →
      reaction.outcome ≠ .softwareFault ∧ reaction.outcome ≠ .usageFault := by
    rintro (houtcome | houtcome) <;> rw [houtcome] <;> exact ⟨nofun, nofun⟩
  cases h with
  | lost hlost => exact ⟨nofun, nofun⟩
  | broken hlost hbroken => exact ⟨nofun, nofun⟩
  | refused hquiet hphase hnack => exact ⟨nofun, nofun⟩
  | unanswered hquiet hphase hnack hack => exact ⟨nofun, nofun⟩
  | opened hacked hnext => exact ⟨nofun, nofun⟩
  | onward hacked honward => exact hsound honward.sound
  | turned hacked hnext htaking => exact hsound htaking.sound
  | received hquiet htaking => exact hsound htaking.sound

theorem acknowledged_of_address (hphase : transfer.phase = .address)
    (hwide : sequence.isTenBit = false) :
    transfer.acknowledged sequence status =
      if transfer.kind = .read then
        { transfer with phase := .receive : Transfer }.receive sequence status
      else transfer.send sequence := by
  simp [acknowledged, hphase, hwide]

theorem acknowledged_of_secondAddress
    (hphase : transfer.phase = .secondAddress) :
    transfer.acknowledged sequence status =
      if transfer.kind = .read then transfer.restart sequence
      else transfer.send sequence := by
  cases hkind : transfer.kind <;> simp [acknowledged, hphase, hkind]

/-- An address that asks for data is answered: the next event is the first
data byte, which may have come along. -/
theorem handles_receive (hacked : Acked status)
    (hheld : transfer.held = some sequence)
    (hvalid : sequence.kind? = some transfer.kind)
    (houtcome : transfer.outcome = .inProgress)
    (hslot : transfer.kind.receivesInto = some transfer.slot)
    (hindex : transfer.index = 0) :
    Handles transfer sequence status .turned
      (({ transfer with phase := .receive : Transfer }.receive sequence
        status).after [.clearInterrupts {Interrupt.ackReceived}]) := by
  have hnext : { transfer with phase := .receive : Transfer }.InFlight sequence
      (.receiving 0) := by
    refine ⟨hheld, hvalid, houtcome, ?_⟩
    simp only [hindex]
    exact .receiving hslot (Sequence.receiveLength_pos hvalid hslot)
  exact .turned hacked hnext (hnext.taking status)

/-- An address that announces data is answered: the first data byte goes
out. -/
theorem handles_send (hacked : Acked status)
    (hheld : transfer.held = some sequence)
    (hvalid : sequence.kind? = some transfer.kind)
    (houtcome : transfer.outcome = .inProgress)
    (hkind : transfer.kind ≠ .read) (hslot : transfer.slot = .first)
    (hindex : transfer.index = 0) :
    Handles transfer sequence status (.sending 0)
      ((transfer.send sequence).after
        [.clearInterrupts {Interrupt.ackReceived}]) := by
  obtain ⟨bytes, hfirst⟩ := Sequence.first_of_ne_read hvalid hkind
  have hsends : transfer.Sends sequence bytes :=
    ⟨hheld, hvalid, houtcome, hkind, hslot ▸ hfirst, by simp [hslot],
      by simp [hindex]⟩
  have honward := hsends.onward
  rw [hslot, hindex] at honward
  exact .onward hacked honward

theorem InFlight.acknowledged_handles (h : transfer.InFlight sequence stage)
    (hacked : Acked status) (hphase : transfer.phase ≠ .receive) :
    Handles transfer sequence status stage
      ((transfer.acknowledged sequence status).after
        [.clearInterrupts {Interrupt.ackReceived}]) := by
  obtain ⟨held, kind, phase, slot, index, outcome, source⟩ := transfer
  obtain ⟨hheld, hvalid, houtcome, hstands⟩ := h
  simp only at hheld hvalid houtcome hstands hphase
  cases hstands with
  | opening hwide =>
      simp only [acknowledged, hwide, if_true]
      exact .opened hacked ⟨hheld, hvalid, houtcome, .opened hwide⟩
  | addressed hwide hkind =>
      rw [acknowledged_of_address rfl hwide, if_neg hkind]
      exact handles_send hacked hheld hvalid houtcome hkind rfl rfl
  | asked hwide hkind =>
      rw [acknowledged_of_address rfl hwide, if_pos hkind]
      subst hkind
      exact handles_receive hacked hheld hvalid houtcome rfl rfl
  | opened hwide =>
      rw [acknowledged_of_secondAddress rfl]
      by_cases hkind : kind = .read
      · rw [if_pos hkind]
        subst hkind
        exact .onward hacked (.turned rfl hwide
          (inFlight_readdress _ hheld hvalid houtcome rfl rfl fun _ => hwide))
      · rw [if_neg hkind]
        exact handles_send hacked hheld hvalid houtcome hkind rfl rfl
  | sent hkind hbuffer hslot hfirst hlast =>
      exact .onward hacked (Sends.onward ⟨hheld, hvalid, houtcome, hkind,
        hbuffer, hslot, hlast⟩)
  | turned hslot hwide =>
      exact handles_receive hacked hheld hvalid houtcome hslot rfl
  | receiving hslot hroom => exact absurd rfl hphase

/-- What is left of a finished transfer only quiets its interrupts again. -/
theorem react_of_idle (h : transfer.phase = .idle) (status : Interrupts) :
    transfer.react status = transfer.finish .softwareFault [] := by
  simp [react, h]

theorem react_of_held (hphase : transfer.phase ≠ .idle)
    (hheld : transfer.held = some sequence) (status : Interrupts) :
    transfer.react status =
      if .arbitrationLost ∈ status then
        transfer.finish .arbitrationLost []
      else if .busError ∈ status then transfer.finish .busError [.abort]
      else if transfer.phase = .receive then
        transfer.receive sequence status
      else if .nackReceived ∈ status then transfer.refused
      else if .ackReceived ∈ status then
        (transfer.acknowledged sequence status).after
          [.clearInterrupts {Interrupt.ackReceived}]
      else transfer.wait [] := by
  cases hcase : transfer.phase <;> simp_all [react]

theorem InFlight.react_handles (h : transfer.InFlight sequence stage)
    (status : Interrupts) :
    Handles transfer sequence status stage (transfer.react status) := by
  rw [react_of_held h.stands.phase_ne_idle h.held]
  by_cases hlost : .arbitrationLost ∈ status
  · rw [if_pos hlost]
    exact .lost hlost
  by_cases hbroken : .busError ∈ status
  · rw [if_neg hlost, if_pos hbroken]
    exact .broken hlost hbroken
  rw [if_neg hlost, if_neg hbroken]
  by_cases hphase : transfer.phase = .receive
  · rw [if_pos hphase]
    obtain ⟨index, rfl⟩ := h.stands.phase_eq_receive_iff.mp hphase
    exact .received ⟨hlost, hbroken⟩ (h.taking status)
  rw [if_neg hphase]
  by_cases hnack : .nackReceived ∈ status
  · rw [if_pos hnack]
    exact .refused ⟨hlost, hbroken⟩ hphase hnack
  by_cases hack : .ackReceived ∈ status
  · rw [if_neg hnack, if_pos hack]
    exact h.acknowledged_handles ⟨⟨hlost, hbroken⟩, hnack, hack⟩ hphase
  · rw [if_neg hnack, if_neg hack]
    exact .unanswered ⟨hlost, hbroken⟩ hphase hnack hack

theorem release_of_active (h : transfer.phase ≠ .idle) :
    transfer.release = (none, transfer) := by
  simp [release, isActive, h]

theorem release_of_idle (h : transfer.phase = .idle) :
    transfer.release = (transfer.held, { transfer with held := none }) := by
  simp [release, isActive, h]

end Transfer

end TwoWire
