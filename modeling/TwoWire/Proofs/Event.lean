/-
What one event does to a run.

A run is a transfer in flight together with the sequence that it was begun with
and what came in since.  An event either takes the run on, and what it puts on
the wires is the front of what was remaining, or ends it.
-/
import TwoWire.Proofs.Filling
import TwoWire.Proofs.Flight

namespace TwoWire

open Sequence (Kind Slot Stage)

/-- The transfer once the calls of a reaction were made and `bytes` came in. -/
def Reaction.settle (reaction : Reaction) (bytes : List UInt8) : Transfer :=
  bytes.foldl Transfer.store reaction.next

/-- The calls that go over the wires. -/
def Call.wire (calls : List Call) : List Call :=
  calls.filter Call.isOnWire

@[simp]
theorem Call.wire_append (calls more : List Call) :
    wire (calls ++ more) = wire calls ++ wire more :=
  List.filter_append ..

/-- The calls that begin a run.  What was left on the bus is given up. -/
def Call.beginning (busy : Bool) (byte : UInt8) : List Call :=
  (if busy then [.abort] else []) ++
    [.clearTransmit, .clearInterrupts .all, .enableInterrupts .transfer,
      .writeAddress byte, .start]

@[simp]
theorem Call.wire_beginning (busy : Bool) (byte : UInt8) :
    wire (beginning busy byte) = [.writeAddress byte, .start] := by
  cases busy <;> rfl

theorem Call.readData_not_mem_beginning (busy : Bool) (byte : UInt8) :
    .readData ∉ beginning busy byte := by
  cases busy <;> simp [beginning]

/-- The events that calls use up.  An acknowledgement is used up when its flag
is taken down, a byte when it is taken. -/
def Call.consumed (calls : List Call) : Nat :=
  calls.count (.clearInterrupts {Interrupt.ackReceived}) +
    calls.count .readData

theorem Call.consumed_append (calls more : List Call) :
    consumed (calls ++ more) = consumed calls + consumed more := by
  simp only [consumed, List.count_append]
  omega

/-- The calls take a sequence from one stage to another: they put the front of
what was remaining on the wires, and use up the events that are no longer to
come. -/
structure Sequence.Leads (sequence : Sequence) (kind : Kind)
    (calls : List Call) (stage later : Stage) : Prop where
  wire : sequence.remaining kind stage =
    Call.wire calls ++ sequence.remaining kind later
  events : sequence.eventsLeft kind stage =
    Call.consumed calls + sequence.eventsLeft kind later
  abort : .abort ∉ calls

/-- The calls take a sequence from a stage to its end. -/
structure Sequence.Completes (sequence : Sequence) (kind : Kind)
    (calls : List Call) (stage : Stage) : Prop where
  wire : Call.wire calls = sequence.remaining kind stage
  events : Call.consumed calls = sequence.eventsLeft kind stage

/-- How a transfer in flight can fail, and what it then still puts on the
wires. -/
inductive Outcome.Fails : Outcome → List Call → Prop where
  | nack : Fails .nack [.stop]
  | busError : Fails .busError []
  | arbitrationLost : Fails .arbitrationLost []

theorem Outcome.Fails.ne_inProgress {outcome : Outcome} {last : List Call}
    (h : outcome.Fails last) : outcome ≠ .inProgress := by
  cases h with
  | nack => decide
  | busError => decide
  | arbitrationLost => decide

/-- How many bytes have come in when a sequence is at a stage. -/
def Sequence.Stage.taken : Stage → Nat
  | .receiving index => index
  | _ => 0

namespace Transfer

/-- The transfer runs `sequence`, of which `received` has come in. -/
structure Runs (transfer : Transfer) (sequence : Sequence) (kind : Kind)
    (received : List UInt8) (stage : Stage) : Prop where
  valid : sequence.kind? = some kind
  kind_eq : transfer.kind = kind
  inFlight : transfer.InFlight (sequence.filled kind received) stage
  taken : received.length = stage.taken
  room : received.length ≤ sequence.receiveLength kind

variable {transfer next : Transfer} {sequence : Sequence} {kind : Kind}
  {received bytes : List UInt8} {stage later : Stage} {status : Interrupts}
  {index position : Nat} {reaction : Reaction}

theorem stands_firstStage (sequence : Sequence) (kind : Kind) :
    Stands sequence kind .address .first 0 (sequence.firstStage kind) := by
  by_cases hwide : sequence.isTenBit = true
  · rw [Sequence.firstStage, if_pos hwide]
    exact .opening hwide
  rw [Sequence.firstStage, if_neg hwide]
  rw [Bool.not_eq_true] at hwide
  by_cases hkind : kind = .read
  · rw [if_pos hkind]
    exact .asked hwide hkind
  · rw [if_neg hkind]
    exact .addressed hwide hkind

theorem runs_firstStage (h : sequence.kind? = some kind) :
    { held := some sequence
      kind
      phase := .address
      outcome := .inProgress : Transfer }.Runs sequence kind []
        (sequence.firstStage kind) where
  valid := h
  kind_eq := rfl
  inFlight := by
    rw [Sequence.filled_nil h]
    exact ⟨rfl, h, rfl, stands_firstStage sequence kind⟩
  taken := by
    rw [Sequence.firstStage]
    split
    · rfl
    · split <;> rfl
  room := Nat.zero_le _

theorem begin?_of_valid (h : sequence.kind? = some kind) (busy : Bool) :
    ∃ reaction, begin? sequence busy = some reaction ∧
      reaction.outcome = .inProgress ∧
      reaction.next.Runs sequence kind [] (sequence.firstStage kind) ∧
      reaction.calls = Call.beginning busy
        (sequence.header (sequence.readsAtOnce kind)) := by
  rw [begin?, h, Option.map_some]
  exact ⟨_, rfl, rfl, runs_firstStage h, rfl⟩

theorem store_eq (transfer : Transfer) (byte : UInt8) :
    ∃ held index, transfer.store byte = { transfer with held, index } := by
  rw [store]
  split
  · exact ⟨_, _, rfl⟩
  · split
    · exact ⟨_, _, rfl⟩
    · split
      · exact ⟨_, _, rfl⟩
      · exact ⟨_, _, rfl⟩

theorem foldl_store_eq (bytes : List UInt8) (transfer : Transfer) :
    ∃ held index,
      bytes.foldl store transfer = { transfer with held, index } := by
  induction bytes generalizing transfer with
  | nil => exact ⟨transfer.held, transfer.index, rfl⟩
  | cons byte rest ih =>
      obtain ⟨held, index, hstore⟩ := transfer.store_eq byte
      obtain ⟨last, cursor, hrest⟩ := ih (transfer.store byte)
      refine ⟨last, cursor, ?_⟩
      rw [List.foldl_cons, hrest, hstore]

theorem store_of_held (hheld : transfer.held = some sequence)
    (hbuffer : sequence.buffer transfer.slot = .receive bytes)
    (hindex : transfer.index < bytes.length) (byte : UInt8) :
    transfer.store byte =
      { transfer with
        held := some (sequence.setBuffer transfer.slot
          (.receive (bytes.set transfer.index byte)))
        index := transfer.index + 1 } := by
  simp [store, hheld, hbuffer, hindex]

theorem store_filled
    (hheld : transfer.held = some (sequence.filled kind received))
    (hslot : kind.receivesInto = some transfer.slot)
    (hindex : transfer.index = received.length)
    (hroom : received.length < sequence.receiveLength kind) (byte : UInt8) :
    transfer.store byte =
      { transfer with
        held := some (sequence.filled kind (received ++ [byte]))
        index := transfer.index + 1 } := by
  have hbuffer : (sequence.filled kind received).buffer transfer.slot = _ :=
    Sequence.filled_buffer hslot
  have hlength : (sequence.filled kind received).receiveLength kind = _ :=
    Sequence.receiveLength_of_receivesInto hslot
  rw [Sequence.filled_receiveLength (Nat.le_of_lt hroom), hbuffer] at hlength
  rw [store_of_held hheld hbuffer (by rw [hindex]; exact hlength ▸ hroom),
    hindex, Sequence.setBuffer_filled hslot hbuffer hroom]

/-- A reaction that stays in flight without taking a byte. -/
theorem Runs.of_inFlight (h : transfer.Runs sequence kind received stage)
    (hnext : next.InFlight (sequence.filled kind received) later)
    (htaken : later.taken = stage.taken) :
    next.Runs sequence kind received later where
  valid := h.valid
  kind_eq := (h.inFlight.kind_eq hnext).trans h.kind_eq
  inFlight := hnext
  taken := h.taken.trans htaken.symm
  room := h.room

theorem Runs.settle_wait (h : transfer.Runs sequence kind received stage)
    (calls : List Call) :
    ((transfer.wait calls).settle []).Runs sequence kind (received ++ [])
      stage := by
  rw [List.append_nil]
  exact h

theorem Runs.room_of_receiving
    (h : transfer.Runs sequence kind received (.receiving index)) :
    received.length = index ∧ index < sequence.receiveLength kind := by
  have hroom := h.inFlight.cursor.2.2
  rw [h.kind_eq, Sequence.filled_receiveLength h.room] at hroom
  exact ⟨h.taken, hroom⟩

theorem Runs.store (h : transfer.Runs sequence kind received (.receiving index))
    (hmore : index + 1 < sequence.receiveLength kind) (byte : UInt8) :
    (transfer.store byte).Runs sequence kind (received ++ [byte])
      (.receiving (index + 1)) := by
  obtain ⟨hslot, hindex, _⟩ := h.inFlight.cursor
  obtain ⟨htaken, hroom⟩ := h.room_of_receiving
  have hphase := h.inFlight.stands.phase_eq_receive_iff.mpr ⟨index, rfl⟩
  have hlength : (received ++ [byte]).length ≤ sequence.receiveLength kind := by
    simp only [List.length_append, List.length_singleton]
    omega
  obtain rfl := h.kind_eq
  rw [store_filled h.inFlight.held hslot (hindex.trans htaken.symm)
    (htaken ▸ hroom)]
  refine ⟨h.valid, rfl, ⟨rfl, Sequence.filled_kind? h.valid hlength,
    h.inFlight.outcome, ?_⟩, ?_, hlength⟩
  · simp only [hphase, hindex]
    refine .receiving hslot ?_
    rw [Sequence.filled_receiveLength hlength]
    exact hmore
  · simp [Stage.taken, htaken]

/-- Calls for which a byte was acknowledged also take down its flag. -/
theorem leads_of_acked {calls : List Call}
    (hwire : sequence.remaining kind stage =
      Call.wire calls ++ sequence.remaining kind later)
    (hevents : sequence.eventsLeft kind stage =
      Call.consumed calls + sequence.eventsLeft kind later + 1)
    (habort : .abort ∉ calls) :
    sequence.Leads kind
      ([.clearInterrupts {Interrupt.ackReceived}] ++ calls) stage later where
  wire := hwire
  events := by
    have hack : Call.consumed
        [.clearInterrupts {Interrupt.ackReceived}] = 1 := rfl
    rw [Call.consumed_append, hack]
    omega
  abort := by simpa using habort

/-- A run whose next event is a data byte either takes it or goes on
waiting. -/
theorem Taking.runs
    (h : Taking transfer (sequence.filled kind received) status index reaction)
    (hruns : transfer.Runs sequence kind received (.receiving index))
    (houtcome : reaction.outcome = .inProgress)
    (hbytes : bytes.length = reaction.calls.count .readData) :
    ∃ later, (reaction.settle bytes).Runs sequence kind (received ++ bytes)
        later ∧
      sequence.Leads kind reaction.calls (.receiving index) later := by
  cases h with
  | none hdata =>
      obtain rfl : bytes = [] := by
        split at hbytes <;> simpa [wait] using hbytes
      refine ⟨_, hruns.settle_wait _, ?_⟩
      split
      · exact ⟨rfl, (Nat.zero_add _).symm, by simp [wait]⟩
      · exact ⟨rfl, (Nat.zero_add _).symm, List.not_mem_nil⟩
  | more hdata hmore =>
      obtain ⟨byte, rfl⟩ := List.length_eq_one_iff.mp hbytes
      rw [hruns.kind_eq, Sequence.filled_receiveLength hruns.room] at hmore
      refine ⟨_, hruns.store hmore byte, ?_⟩
      have hevents := Sequence.eventsLeft_receiving_of_lt hmore
      exact ⟨Sequence.remaining_receiving_of_lt hmore,
        hevents.trans (Nat.add_comm _ 1), by simp [wait]⟩
  | last hdata hlast => cases houtcome

theorem Onward.runs
    (h : Onward (sequence.filled kind received) kind position reaction)
    (hruns : transfer.Runs sequence kind received (.sending position))
    (houtcome : reaction.outcome = .inProgress)
    (hbytes : bytes.length = reaction.calls.count .readData) :
    ∃ later, (reaction.settle bytes).Runs sequence kind (received ++ bytes)
        later ∧
      sequence.Leads kind
        ([.clearInterrupts {Interrupt.ackReceived}] ++ reaction.calls)
        (.sending position) later := by
  cases h with
  | sent hbyte hnext =>
      obtain rfl : bytes = [] := List.eq_nil_of_length_eq_zero hbytes
      rw [Sequence.filled_sent] at hbyte
      refine ⟨_, (hruns.of_inFlight hnext rfl).settle_wait _, ?_⟩
      refine leads_of_acked (Sequence.remaining_sending_of_some hbyte) ?_ ?_
      · rw [Sequence.eventsLeft_sending_of_some hbyte]
        exact congrArg (· + 1) (Nat.zero_add _).symm
      · simp [wait]
  | turned hlast hreaddress hnext =>
      obtain rfl : bytes = [] := List.eq_nil_of_length_eq_zero hbytes
      rw [Sequence.filled_sent] at hlast
      rw [Sequence.filled_readdresses] at hreaddress
      refine ⟨.turned, (hruns.of_inFlight hnext rfl).settle_wait _, ?_⟩
      refine leads_of_acked ?_ ?_ ?_
      · rw [Sequence.remaining_sending_of_none hlast, Sequence.reopening,
          if_pos hreaddress, Sequence.filled_header]
        rfl
      · rw [Sequence.eventsLeft_sending_of_none hlast hreaddress]
        exact congrArg (· + 1) (Nat.zero_add _).symm
      · simp [wait]
  | ended => cases houtcome

/-- While a run goes on, its reactions lead its sequence from stage to
stage. -/
theorem Handles.runs
    (h : Handles transfer (sequence.filled kind received) status stage reaction)
    (hruns : transfer.Runs sequence kind received stage)
    (houtcome : reaction.outcome = .inProgress)
    (hbytes : bytes.length = reaction.calls.count .readData) :
    ∃ later, (reaction.settle bytes).Runs sequence kind (received ++ bytes)
        later ∧
      sequence.Leads kind reaction.calls stage later := by
  cases h with
  | lost hlost => cases houtcome
  | broken hlost hbroken => cases houtcome
  | refused hquiet hphase hnack => cases houtcome
  | unanswered hquiet hphase hnack hack =>
      obtain rfl : bytes = [] := List.eq_nil_of_length_eq_zero hbytes
      exact ⟨stage, hruns.settle_wait _, rfl, (Nat.zero_add _).symm,
        List.not_mem_nil⟩
  | opened hacked hnext =>
      obtain rfl : bytes = [] := List.eq_nil_of_length_eq_zero hbytes
      refine ⟨.sending 0, (hruns.of_inFlight hnext rfl).settle_wait _, ?_⟩
      refine leads_of_acked ?_ ?_ ?_
      · rw [Sequence.filled_lowAddress]
        exact Sequence.remaining_opening sequence kind
      · rw [Sequence.eventsLeft_opening]
        exact congrArg (· + 1) (Nat.zero_add _).symm
      · simp
  | onward hacked honward =>
      rw [hruns.kind_eq] at honward
      exact honward.runs hruns houtcome hbytes
  | turned hacked hnext htaking =>
      obtain ⟨later, hlater, hleads⟩ :=
        htaking.runs (hruns.of_inFlight hnext rfl) houtcome hbytes
      refine ⟨later, hlater, leads_of_acked hleads.wire ?_ hleads.abort⟩
      rw [Sequence.eventsLeft_turned, hleads.events]
  | received hquiet htaking => exact htaking.runs hruns houtcome hbytes

/-- The transfer is over, and holds `sequence` with what came in. -/
structure Ended (transfer : Transfer) (sequence : Sequence) (kind : Kind)
    (received : List UInt8) : Prop where
  phase : transfer.phase = .idle
  outcome : transfer.outcome ≠ .inProgress
  held : transfer.held = some (sequence.filled kind received)

/-- Before the end of a run there is room for another byte. -/
theorem Runs.length_lt (h : transfer.Runs sequence kind received stage)
    {slot : Slot} (hslot : kind.receivesInto = some slot) :
    received.length < sequence.receiveLength kind := by
  cases stage with
  | receiving index => exact h.taken ▸ h.room_of_receiving.2
  | _ => exact h.taken ▸ Sequence.receiveLength_pos h.valid hslot

/-- Before the end of a run there is an event to come. -/
theorem Runs.eventsLeft_pos (h : transfer.Runs sequence kind received stage) :
    0 < sequence.eventsLeft kind stage := by
  cases stage with
  | receiving index => exact Nat.sub_pos_of_lt h.room_of_receiving.2
  | _ =>
      simp only [Sequence.eventsLeft]
      omega

theorem Taking.ended
    (h : Taking transfer (sequence.filled kind received) status index reaction)
    (hruns : transfer.Runs sequence kind received (.receiving index))
    (houtcome : reaction.outcome ≠ .inProgress)
    (hbytes : bytes.length = reaction.calls.count .readData) :
    reaction.outcome = .done ∧
      (reaction.settle bytes).Ended sequence kind (received ++ bytes) ∧
      (received ++ bytes).length = sequence.receiveLength kind ∧
      sequence.Completes kind reaction.calls (.receiving index) := by
  cases h with
  | none hdata => exact absurd rfl houtcome
  | more hdata hmore => exact absurd rfl houtcome
  | last hdata hlast =>
      obtain ⟨byte, rfl⟩ := List.length_eq_one_iff.mp hbytes
      obtain ⟨hslot, hindex, _⟩ := hruns.inFlight.cursor
      obtain ⟨htaken, hroom⟩ := hruns.room_of_receiving
      rw [hruns.kind_eq] at hslot
      rw [hruns.kind_eq, Sequence.filled_receiveLength hruns.room] at hlast
      have hheld : ({ transfer with phase := .idle, outcome := .done } :
          Transfer).held = some (sequence.filled kind received) :=
        hruns.inFlight.held
      have hstore := store_filled hheld hslot (hindex.trans htaken.symm)
        (htaken ▸ hroom) byte
      refine ⟨rfl, ?_, ?_, ?_, ?_⟩
      · rw [Reaction.settle, finish, List.foldl_cons, hstore]
        exact ⟨rfl, nofun, rfl⟩
      · rw [List.length_append, htaken]
        exact hlast
      · exact (Sequence.remaining_receiving_of_eq hlast).symm
      · rw [Sequence.eventsLeft, ← hlast, Nat.add_sub_cancel_left]
        rfl

/-- A run that is done has put everything on the wires, used up every event
and filled its buffer. -/
theorem Handles.done
    (h : Handles transfer (sequence.filled kind received) status stage reaction)
    (hruns : transfer.Runs sequence kind received stage)
    (houtcome : reaction.outcome = .done)
    (hbytes : bytes.length = reaction.calls.count .readData) :
    (reaction.settle bytes).Ended sequence kind (received ++ bytes) ∧
      (received ++ bytes).length = sequence.receiveLength kind ∧
      sequence.Completes kind reaction.calls stage := by
  have hended : reaction.outcome ≠ .inProgress := by
    rw [houtcome]
    decide
  cases h with
  | lost hlost => cases houtcome
  | broken hlost hbroken => cases houtcome
  | refused hquiet hphase hnack => cases houtcome
  | unanswered hquiet hphase hnack hack => cases houtcome
  | opened hacked hnext => cases houtcome
  | onward hacked honward =>
      rw [hruns.kind_eq] at honward
      cases honward with
      | sent hbyte hnext => cases houtcome
      | turned hlast hreaddress hnext => cases houtcome
      | ended hlast hreaddress hkind hheld hnextKind =>
          obtain rfl : bytes = [] := List.eq_nil_of_length_eq_zero hbytes
          rw [Sequence.filled_sent] at hlast
          rw [Sequence.filled_readdresses] at hreaddress
          have hnone :=
            Sequence.receiveLength_of_not_readdresses hreaddress hkind
          rw [List.append_nil]
          refine ⟨⟨rfl, nofun, hheld⟩, ?_, ?_, ?_⟩
          · rw [hruns.taken, hnone]
            rfl
          · rw [Sequence.remaining_sending_of_none hlast, Sequence.reopening,
              hreaddress,
              Sequence.remaining_turned_of_not_readdresses hreaddress hkind]
            rfl
          · have hposition := List.getElem?_eq_none_iff.mp hlast
            rw [Sequence.eventsLeft, Nat.sub_eq_zero_of_le hposition,
              hreaddress, hnone]
            rfl
  | turned hacked hnext htaking =>
      obtain ⟨_, hover, hlength, hcompletes⟩ :=
        htaking.ended (hruns.of_inFlight hnext rfl) hended hbytes
      refine ⟨hover, hlength, hcompletes.wire, ?_⟩
      rw [Sequence.eventsLeft_turned, ← hcompletes.events, Reaction.after,
        Call.consumed_append]
      exact Nat.add_comm 1 _
  | received hquiet htaking => exact (htaking.ended hruns hended hbytes).2

/-- A run that fails takes no byte with its last event. -/
theorem Handles.failed
    (h : Handles transfer (sequence.filled kind received) status stage reaction)
    (hruns : transfer.Runs sequence kind received stage)
    (houtcome : reaction.outcome ≠ .inProgress)
    (hdone : reaction.outcome ≠ .done)
    (hbytes : bytes.length = reaction.calls.count .readData) :
    bytes = [] ∧ (reaction.settle bytes).Ended sequence kind received ∧
      reaction.outcome.Fails (Call.wire reaction.calls) := by
  cases h with
  | lost hlost =>
      obtain rfl : bytes = [] := List.eq_nil_of_length_eq_zero hbytes
      exact ⟨rfl, ⟨rfl, nofun, hruns.inFlight.held⟩, .arbitrationLost⟩
  | broken hlost hbroken =>
      obtain rfl : bytes = [] := List.eq_nil_of_length_eq_zero hbytes
      exact ⟨rfl, ⟨rfl, nofun, hruns.inFlight.held⟩, .busError⟩
  | refused hquiet hphase hnack =>
      obtain rfl : bytes = [] := List.eq_nil_of_length_eq_zero hbytes
      exact ⟨rfl, ⟨rfl, nofun, hruns.inFlight.held⟩, .nack⟩
  | unanswered hquiet hphase hnack hack => exact absurd rfl houtcome
  | opened hacked hnext => exact absurd rfl houtcome
  | onward hacked honward =>
      cases honward with
      | sent hbyte hnext => exact absurd rfl houtcome
      | turned hlast hreaddress hnext => exact absurd rfl houtcome
      | ended hlast hreaddress hkind hheld hnextKind => exact absurd rfl hdone
  | turned hacked hnext htaking =>
      have hruns' := hruns.of_inFlight hnext rfl
      exact absurd (htaking.ended hruns' houtcome hbytes).1 hdone
  | received hquiet htaking =>
      exact absurd (htaking.ended hruns houtcome hbytes).1 hdone

end Transfer

end TwoWire
