/-
Runs on a target that refuses nothing.

`Attended` ties a transfer to the bench it runs on: the flags that the transfer
waits for are up, and the target has the bytes that are still to come.  Every
poll then takes the run on, so it is done after as many polls as it has events.
-/
import TwoWire.Proofs.Drive
import TwoWire.Proofs.Target
import TwoWire.Proofs.Wire

namespace TwoWire

open Sequence (Kind Stage)

/-- What a stage waits for is up, and nothing that would end the run. -/
def Sequence.Stage.Shown (stage : Stage) (pending : Interrupts) : Prop :=
  match stage with
  | .opening | .sending _ => Transfer.Acked pending
  | .turned => Transfer.Acked pending ∧ .dataReceived ∈ pending
  | .receiving _ => Transfer.Quiet pending ∧ .dataReceived ∈ pending

/-- The target answers, refuses none of the calls and has `count` bytes. -/
structure Bench.Serves (bench : Bench) (calls : List Call) (count : Nat) :
    Prop where
  responder : bench.responder = true
  addresses : ∀ byte, .writeAddress byte ∈ calls →
    byte ∉ bench.refusedAddresses
  data : bench.refusedData = none
  supply : count ≤ bench.received.length

theorem Bench.Serves.of_terms {bench after : Bench} {calls later : List Call}
    {count rest : Nat} (h : bench.Serves calls count) (hlater : later ⊆ calls)
    (hterms : after.terms = bench.terms)
    (hsupply : rest ≤ after.received.length) : after.Serves later rest := by
  simp only [Bench.terms, Prod.mk.injEq] at hterms
  obtain ⟨hresponder, haddresses, hdata⟩ := hterms
  refine ⟨hresponder.trans h.responder, ?_, hdata.trans h.data, hsupply⟩
  intro byte hbyte
  rw [haddresses]
  exact h.addresses byte (hlater hbyte)

theorem Bench.Serves.run {bench after : Bench} {front later calls : List Call}
    {bytes : List UInt8} {count rest : Nat}
    (h : bench.Serves (front ++ later) count)
    (hrun : Device.run calls bench = (bytes, after))
    (hcount : bytes.length + rest ≤ count) : after.Serves later rest := by
  obtain ⟨rfl, rfl⟩ := Prod.mk.inj hrun.symm
  refine h.of_terms (List.subset_append_right front later)
    (bench.run_terms calls) ?_
  have hsupply := h.supply
  rw [Device.length_run] at hcount
  have hqueue := congrArg List.length
    (Bench.run_received (Nat.le_trans (Nat.le_of_add_right_le hcount) hsupply))
  rw [List.length_append, Device.length_run] at hqueue
  omega

theorem Bench.Serves.lower {bench : Bench} {calls : List Call} {count : Nat}
    (h : bench.Serves calls count) (set : Interrupts) :
    (bench.lower set).Serves calls count :=
  ⟨h.responder, h.addresses, h.data, h.supply⟩

namespace Transfer

/-- The transfer runs `sequence` on a target that serves what is remaining and
has answered what was sent. -/
structure Attended (transfer : Transfer) (bench : Bench) (sequence : Sequence)
    (kind : Kind) (received : List UInt8) (stage : Stage) : Prop where
  runs : transfer.Runs sequence kind received stage
  serves : bench.Serves (sequence.remaining kind stage)
    (sequence.receiveLength kind - received.length)
  shown : stage.Shown bench.pending

variable {transfer next : Transfer} {bench : Bench} {sequence : Sequence}
  {kind : Kind} {received bytes : List UInt8} {stage later : Stage}
  {reaction : Reaction} {before after status : Interrupts}
  {index position : Nat}

theorem Quiet.of_forall_mem (h : Quiet before)
    (hnew : ∀ source ∈ after, source ∈ before ∨ source = .ackReceived ∨
      source = .dataReceived) : Quiet after := by
  constructor
  · intro hlost
    rcases hnew _ hlost with hold | hack | hdata
    · exact h.1 hold
    · cases hack
    · cases hdata
  · intro hbroken
    rcases hnew _ hbroken with hold | hack | hdata
    · exact h.2 hold
    · cases hack
    · cases hdata

theorem Quiet.acked (h : Quiet before) (hnack : .nackReceived ∉ before)
    (hacked : .ackReceived ∈ after)
    (hnew : ∀ source ∈ after, source ∈ before ∨ source = .ackReceived ∨
      source = .dataReceived) : Acked after := by
  refine ⟨h.of_forall_mem hnew, ?_, hacked⟩
  intro hrefused
  rcases hnew _ hrefused with hold | hack | hdata
  · exact hnack hold
  · cases hack
  · cases hdata

theorem Quiet.lower (h : Quiet bench.pending) (set : Interrupts) :
    Quiet (bench.lower set).pending :=
  h.of_forall_mem fun _ hsource => Or.inl (Bench.mem_lower.mp hsource).1

theorem Acked.nack_not_mem_lower (h : Acked bench.pending) (set : Interrupts) :
    .nackReceived ∉ (bench.lower set).pending :=
  fun hnack => h.2.1 (Bench.mem_lower.mp hnack).1

theorem acked_takeAddress {calls : List Call} {count : Nat} {byte : UInt8}
    (hserves : bench.Serves calls count) (hcall : .writeAddress byte ∈ calls)
    (hquiet : Quiet bench.pending) (hnack : .nackReceived ∉ bench.pending) :
    Acked (bench.takeAddress byte).pending := by
  have hmem := fun source => @Bench.mem_takeAddress bench source byte
    hserves.responder (hserves.addresses byte hcall)
  refine hquiet.acked hnack ((hmem _).mpr (Or.inr (Or.inl rfl))) ?_
  intro source hsource
  rcases (hmem source).mp hsource with hold | hack | ⟨_, _, hdata⟩
  · exact Or.inl hold
  · exact Or.inr (Or.inl hack)
  · exact Or.inr (Or.inr hdata)

/-- An address that asks for data brings the first byte along. -/
theorem dataReceived_takeAddress {calls : List Call} {count : Nat}
    {byte : UInt8} (hserves : bench.Serves calls count)
    (hcall : .writeAddress byte ∈ calls) (hodd : byte &&& 1 = 1)
    (hcount : 0 < count) :
    .dataReceived ∈ (bench.takeAddress byte).pending := by
  have hmore : bench.received ≠ [] :=
    List.length_pos_iff.mp (Nat.lt_of_lt_of_le hcount hserves.supply)
  exact (Bench.mem_takeAddress hserves.responder
    (hserves.addresses byte hcall)).mpr (Or.inr (Or.inr ⟨hodd, hmore, rfl⟩))

theorem acked_takeData {calls : List Call} {count : Nat}
    (hserves : bench.Serves calls count) (hquiet : Quiet bench.pending)
    (hnack : .nackReceived ∉ bench.pending) : Acked bench.takeData.pending := by
  have hmem := fun source => @Bench.mem_takeData bench source hserves.responder
    hserves.data
  refine hquiet.acked hnack ((hmem _).mpr (Or.inr rfl)) ?_
  intro source hsource
  exact ((hmem source).mp hsource).imp_right Or.inl

/-- Taking a byte raises no flag but that of the next. -/
theorem Quiet.readData (h : Quiet bench.pending)
    (hresponder : bench.responder = true) :
    Quiet (Bench.perform .readData bench).offer.pending := by
  refine h.of_forall_mem ?_
  intro source hsource
  have hmem := @Bench.mem_offer (Bench.perform .readData bench) source
    hresponder
  rcases hmem.mp hsource with hold | ⟨_, hdata⟩
  · exact Or.inl (Bench.mem_lower.mp hold).1
  · exact Or.inr (Or.inr hdata)

/-- Taking a byte makes room for the next, which follows at once. -/
theorem shown_readData {calls : List Call} {count : Nat}
    (h : Quiet bench.pending) (hserves : bench.Serves calls (count + 2)) :
    Stage.Shown (.receiving index)
      (Bench.perform .readData bench).offer.pending := by
  have hmore : (Bench.perform .readData bench).received ≠ [] := by
    rw [(Bench.perform_keeps .readData bench).2, if_pos rfl]
    have hsupply := hserves.supply
    intro hempty
    have hlength := congrArg List.length hempty
    rw [List.length_tail, List.length_nil] at hlength
    omega
  have hmem := @Bench.mem_offer (Bench.perform .readData bench) .dataReceived
    hserves.responder
  exact ⟨h.readData hserves.responder, hmem.mpr (Or.inr ⟨hmore, rfl⟩)⟩

/-- A reaction on a bench takes the run on, or to a good end. -/
inductive Advances (reaction : Reaction) (bench : Bench) (sequence : Sequence)
    (kind : Kind) (received : List UInt8) (stage : Stage) : Prop where
  | onward {bytes : List UInt8} {after : Bench} {later : Stage} :
      Device.run reaction.calls bench = (bytes, after) →
      reaction.outcome = .inProgress →
      (reaction.settle bytes).Attended after sequence kind (received ++ bytes)
        later →
      sequence.eventsLeft kind later < sequence.eventsLeft kind stage →
      Advances reaction bench sequence kind received stage
  | last : reaction.outcome = .done →
      (Device.run reaction.calls bench).2.AtRest →
      Advances reaction bench sequence kind received stage

theorem Advances.after_clear
    (h : Advances reaction (bench.lower {Interrupt.ackReceived}) sequence kind
      received stage) :
    Advances (reaction.after [.clearInterrupts {Interrupt.ackReceived}]) bench
      sequence kind received stage := by
  cases h with
  | onward hrun houtcome hattended hevents =>
      refine .onward ?_ houtcome hattended hevents
      rw [Reaction.after, Device.run_append]
      exact hrun
  | last houtcome hrest => exact .last houtcome hrest

theorem Advances.turned
    (h : Advances reaction bench sequence kind received (.receiving 0)) :
    Advances reaction bench sequence kind received .turned := by
  cases h with
  | onward hrun houtcome hattended hevents =>
      refine .onward hrun houtcome hattended ?_
      rw [Sequence.eventsLeft_turned]
      exact Nat.lt_succ_of_lt hevents
  | last houtcome hrest => exact .last houtcome hrest

theorem Runs.advances {after : Bench}
    (hserves : bench.Serves (sequence.remaining kind stage)
      (sequence.receiveLength kind - received.length))
    (houtcome : reaction.outcome = .inProgress)
    (hrun : Device.run reaction.calls bench = (bytes, after))
    (hruns : (reaction.settle bytes).Runs sequence kind (received ++ bytes)
      later)
    (hremaining : sequence.remaining kind stage =
      Call.wire reaction.calls ++ sequence.remaining kind later)
    (hevents : sequence.eventsLeft kind stage =
      sequence.eventsLeft kind later + 1)
    (hshown : later.Shown after.pending) :
    Advances reaction bench sequence kind received stage := by
  refine .onward hrun houtcome ⟨hruns, ?_, hshown⟩ (by omega)
  have hroom := hruns.room
  rw [hremaining] at hserves
  refine hserves.run hrun ?_
  rw [List.length_append] at hroom ⊢
  omega

theorem Onward.advances
    (h : Onward (sequence.filled kind received) kind position reaction)
    (hattended : transfer.Attended bench sequence kind received
      (.sending position)) :
    Advances reaction (bench.lower {Interrupt.ackReceived}) sequence kind
      received (.sending position) := by
  obtain ⟨hruns, hserving, hshown⟩ := hattended
  have hserves := hserving.lower {Interrupt.ackReceived}
  have hquiet := hshown.1.lower {Interrupt.ackReceived}
  have hnack := hshown.nack_not_mem_lower {Interrupt.ackReceived}
  cases h with
  | sent hbyte hnext =>
      rw [Sequence.filled_sent] at hbyte
      refine Runs.advances hserves rfl rfl ?_
        (Sequence.remaining_sending_of_some hbyte)
        (Sequence.eventsLeft_sending_of_some hbyte)
        (acked_takeData hserves hquiet hnack)
      exact (hruns.of_inFlight hnext rfl).settle_wait _
  | turned hlast hreaddress hnext =>
      rw [Sequence.filled_sent] at hlast
      rw [Sequence.filled_readdresses] at hreaddress
      rw [Sequence.filled_header]
      have hremaining := Sequence.remaining_sending_of_none hlast
      rw [Sequence.reopening, if_pos hreaddress] at hremaining
      have hcall : .writeAddress (sequence.header true) ∈
          sequence.remaining kind (.sending position) := by
        simp [hremaining]
      obtain ⟨slot, hslot⟩ :=
        Sequence.exists_receivesInto_of_readdresses hreaddress
      have hroom := hruns.length_lt hslot
      refine Runs.advances hserves rfl rfl ?_ hremaining
        (Sequence.eventsLeft_sending_of_none hlast hreaddress)
        ⟨acked_takeAddress hserves hcall hquiet hnack,
          dataReceived_takeAddress hserves hcall
            (Sequence.header_true_odd hruns.valid) (Nat.sub_pos_of_lt hroom)⟩
      exact (hruns.of_inFlight hnext rfl).settle_wait _
  | ended hlast hreaddress hkind hheld hnextKind =>
      exact .last rfl (Bench.atRest_of_stop [] _)

theorem Taking.advances
    (h : Taking transfer (sequence.filled kind received) status index reaction)
    (hdata : .dataReceived ∈ status)
    (hruns : transfer.Runs sequence kind received (.receiving index))
    (hserves : bench.Serves (sequence.remaining kind (.receiving index))
      (sequence.receiveLength kind - received.length))
    (hquiet : Quiet bench.pending) :
    Advances reaction bench sequence kind received (.receiving index) := by
  cases h with
  | none hnone => exact absurd hdata hnone
  | more _ hmore =>
      rw [hruns.kind_eq, Sequence.filled_receiveLength hruns.room] at hmore
      obtain ⟨htaken, hroom⟩ := hruns.room_of_receiving
      obtain ⟨rest, hrest⟩ : ∃ rest,
          sequence.receiveLength kind - received.length = rest + 2 :=
        ⟨sequence.receiveLength kind - received.length - 2, by omega⟩
      exact Runs.advances hserves rfl rfl (hruns.store hmore _)
        (Sequence.remaining_receiving_of_lt hmore)
        (Sequence.eventsLeft_receiving_of_lt hmore)
        (shown_readData hquiet (hrest ▸ hserves))
  | last _ hlast => exact .last rfl (Bench.atRest_of_stop [.readData, .nack] _)

theorem Shown.quiet {pending : Interrupts} (h : stage.Shown pending) :
    Quiet pending := by
  cases stage with
  | opening => exact h.1
  | sending position => exact h.1
  | turned => exact h.1.1
  | receiving index => exact h.1

/-- A transfer that does not receive has been shown an acknowledgement. -/
theorem Attended.acked
    (h : transfer.Attended bench sequence kind received stage)
    (hphase : transfer.phase ≠ .receive) : Acked bench.pending := by
  have hstage := mt h.runs.inFlight.stands.phase_eq_receive_iff.mpr hphase
  have hshown := h.shown
  cases stage with
  | opening => exact hshown
  | sending position => exact hshown
  | turned => exact hshown.1
  | receiving index => exact absurd ⟨index, rfl⟩ hstage

/-- On a target that refuses nothing every reaction takes the run on. -/
theorem Handles.advances
    (h : Handles transfer (sequence.filled kind received) bench.pending stage
      reaction)
    (hattended : transfer.Attended bench sequence kind received stage) :
    Advances reaction bench sequence kind received stage := by
  have hquiet := Shown.quiet hattended.shown
  have hruns := hattended.runs
  cases h with
  | lost hlost => exact absurd hlost hquiet.1
  | broken hlost hbroken => exact absurd hbroken hquiet.2
  | refused _ hphase hnack => exact absurd hnack (hattended.acked hphase).2.1
  | unanswered _ hphase hnack hack =>
      exact absurd (hattended.acked hphase).2.2 hack
  | @opened next hacked hnext =>
      have hserves := hattended.serves.lower {Interrupt.ackReceived}
      have hremaining := Sequence.remaining_opening sequence kind
      have hcall : .writeAddress sequence.lowAddress ∈
          sequence.remaining kind .opening := by
        simp [hremaining]
      have hopened : Advances (next.wait [.writeAddress sequence.lowAddress])
          (bench.lower {Interrupt.ackReceived}) sequence kind received
          .opening := by
        refine Runs.advances hserves rfl rfl ?_ hremaining
          (Sequence.eventsLeft_opening sequence kind)
          (acked_takeAddress hserves hcall (hquiet.lower _)
            (hacked.nack_not_mem_lower _))
        exact (hruns.of_inFlight hnext rfl).settle_wait _
      rw [Sequence.filled_lowAddress]
      exact hopened.after_clear
  | onward hacked honward =>
      rw [hruns.kind_eq] at honward
      exact (honward.advances hattended).after_clear
  | turned hacked hnext htaking =>
      have hdata : .dataReceived ∈ bench.pending := hattended.shown.2
      have htaken := htaking.advances hdata (hruns.of_inFlight hnext rfl)
        (hattended.serves.lower {Interrupt.ackReceived}) (hquiet.lower _)
      exact htaken.turned.after_clear
  | received _ htaking =>
      exact htaking.advances hattended.shown.2 hruns hattended.serves hquiet

/-- The first address byte is answered, whatever was pending before. -/
theorem shown_firstStage (h : sequence.kind? = some kind)
    (hserves : bench.Serves (sequence.transcript kind)
      (sequence.receiveLength kind))
    (hempty : ∀ source, source ∉ bench.pending) :
    (sequence.firstStage kind).Shown (bench.takeAddress
      (sequence.header (sequence.readsAtOnce kind))).pending := by
  have hcall : .writeAddress (sequence.header (sequence.readsAtOnce kind)) ∈
      sequence.transcript kind := by
    simp [Sequence.transcript_eq]
  have hacked := acked_takeAddress hserves hcall ⟨hempty _, hempty _⟩ (hempty _)
  by_cases hwide : sequence.isTenBit = true
  · rw [Sequence.firstStage, if_pos hwide]
    exact hacked
  rw [Sequence.firstStage, if_neg hwide]
  by_cases hkind : kind = .read
  · rw [if_pos hkind]
    refine ⟨hacked, dataReceived_takeAddress hserves hcall ?_ ?_⟩
    · have hreading : sequence.readsAtOnce kind = true := by
        simp [Sequence.readsAtOnce, hkind, hwide]
      rw [hreading]
      exact Sequence.header_true_odd h
    · have hslot : kind.receivesInto = some .first := by rw [hkind]; rfl
      exact Sequence.receiveLength_pos h hslot
  · rw [if_neg hkind]
    exact hacked

theorem attended_begin (h : sequence.kind? = some kind)
    (hserves : bench.Serves (sequence.transcript kind)
      (sequence.receiveLength kind)) :
    ∃ reaction after, begin? sequence bench.busy = some reaction ∧
      reaction.outcome = .inProgress ∧
      Device.run reaction.calls bench = ([], after) ∧
      reaction.next.Attended after sequence kind []
        (sequence.firstStage kind) := by
  obtain ⟨quieted, after, hrun, hpending, hterms, hreceived, hempty⟩ :=
    bench.run_begin (sequence.header (sequence.readsAtOnce kind)) bench.busy
  have hquieted : quieted.Serves (sequence.transcript kind)
      (sequence.receiveLength kind) :=
    hserves.of_terms (List.Subset.refl _) hterms (hreceived ▸ hserves.supply)
  obtain ⟨reaction, hbegin, houtcome, hruns, hcalls⟩ :=
    begin?_of_valid h bench.busy
  rw [← hcalls] at hrun
  refine ⟨reaction, after, hbegin, houtcome, hrun, hruns, ?_, ?_⟩
  · rw [Sequence.transcript_eq] at hserves
    exact hserves.run hrun (Nat.le_of_eq (Nat.zero_add _))
  · rw [hpending]
    exact shown_firstStage h hquieted hempty

end Transfer

namespace Progress

variable {progress : Progress (Recorder Bench)} {sequence : Sequence}
  {kind : Kind} {received : List UInt8} {stage : Stage}

/-- A step on a bench is the reaction to the flags that are up, even if the
transfer is over and never looks at them. -/
theorem next_eq (progress : Progress (Recorder Bench)) :
    progress.next = Transfer.perform
      (progress.transfer.react progress.host.device.pending) progress.host := by
  rw [next]
  by_cases hidle : progress.transfer.phase = .idle
  · rw [Transfer.step_of_idle hidle, Transfer.react_of_idle hidle,
      Transfer.react_of_idle hidle]
  · exact Transfer.step_of_active hidle progress.host

theorem perform_of_run {reaction : Reaction} {recorder : Recorder Bench}
    {bytes : List UInt8} {after : Bench}
    (hrun : Device.run reaction.calls recorder.device = (bytes, after)) :
    (Transfer.perform reaction recorder).transfer = reaction.settle bytes ∧
      (Transfer.perform reaction recorder).host.device = after := by
  obtain ⟨hbytes, hdevice⟩ := Recorder.run_device reaction.calls recorder
  rw [hrun] at hbytes hdevice
  exact ⟨congrArg reaction.settle hbytes, hdevice⟩

/-- An attended run is done after as many steps as it has events, or fewer. -/
theorem exists_steps_done (hrunning : progress.outcome = .inProgress)
    (h : progress.transfer.Attended progress.host.device sequence kind received
      stage) :
    ∃ count < sequence.eventsLeft kind stage,
      (∀ step ≤ count, (progress.steps step).outcome = .inProgress) ∧
      (progress.steps (count + 1)).outcome = .done ∧
      (progress.steps (count + 1)).host.device.AtRest := by
  -- every step that is not the last one leaves fewer events to come
  induction hevents : sequence.eventsLeft kind stage using Nat.strongRecOn
    generalizing progress received stage with
  | _ events ih =>
      have hhandles := h.runs.inFlight.react_handles progress.host.device.pending
      have hnext := progress.next_eq
      cases hhandles.advances h with
      | onward hrun houtcome hattended hfewer =>
          obtain ⟨htransfer, hdevice⟩ := perform_of_run hrun
          rw [← hnext] at htransfer hdevice
          rw [← htransfer, ← hdevice] at hattended
          have hgoes : progress.next.outcome = .inProgress := by
            rw [hnext]
            exact houtcome
          obtain ⟨count, hcount, hsteps, hdone, hrest⟩ :=
            ih _ (hevents ▸ hfewer) hgoes hattended rfl
          refine ⟨count + 1, by omega, steps_inProgress_succ hrunning hsteps,
            ?_, ?_⟩
          · rw [steps_succ]
            exact hdone
          · rw [steps_succ]
            exact hrest
      | last houtcome hrest =>
          refine ⟨0, hevents ▸ h.runs.eventsLeft_pos, ?_, ?_, ?_⟩
          · intro step hstep
            obtain rfl := Nat.le_zero.mp hstep
            exact hrunning
          · rw [steps, steps, hnext]
            exact houtcome
          · rw [steps, steps, hnext, (perform_of_run rfl).2]
            exact hrest

/-- A bench loses no byte and makes none up, as long as it has enough. -/
theorem perform_supply (reaction : Reaction) (recorder : Recorder Bench)
    (h : (Transfer.perform reaction recorder).host.taken.length ≤
      recorder.taken.length + recorder.device.received.length) :
    (Transfer.perform reaction recorder).host.taken ++
        (Transfer.perform reaction recorder).host.device.received =
      recorder.taken ++ recorder.device.received := by
  obtain ⟨hbytes, hdevice⟩ := Recorder.run_device reaction.calls recorder
  have htaken : (Transfer.perform reaction recorder).host.taken =
      recorder.taken ++ (Device.run reaction.calls recorder.device).1 := by
    rw [← hbytes]
    exact Recorder.taken_run reaction.calls recorder
  rw [htaken, List.length_append, Device.length_run] at h
  rw [htaken, List.append_assoc]
  have hqueue := Bench.run_received (Nat.le_of_add_le_add_left h)
  rw [← hdevice] at hqueue
  exact congrArg (recorder.taken ++ ·) hqueue

theorem steps_supply (progress : Progress (Recorder Bench)) (count : Nat)
    (h : (progress.steps count).host.taken.length ≤
      progress.host.taken.length + progress.host.device.received.length) :
    (progress.steps count).host.taken ++
        (progress.steps count).host.device.received =
      progress.host.taken ++ progress.host.device.received := by
  induction count with
  | zero => rfl
  | succ count ih =>
      have hgrows : (progress.steps count).host.taken.length ≤
          (progress.steps (count + 1)).host.taken.length := by
        obtain ⟨_, bytes, hmakes⟩ := (progress.steps count).next_makes
        rw [steps, hmakes.taken, List.length_append]
        exact Nat.le_add_right _ _
      have hcount := ih (Nat.le_trans hgrows h)
      have htotal := congrArg List.length hcount
      rw [List.length_append, List.length_append] at htotal
      rw [steps, next_eq] at h ⊢
      exact (perform_supply _ _ (htotal ▸ h)).trans hcount

theorem attended_start (h : sequence.kind? = some kind)
    {recorder : Recorder Bench}
    (hserves : recorder.device.Serves (sequence.transcript kind)
      (sequence.receiveLength kind)) (transfer : Transfer) :
    let begun := transfer.start sequence recorder
    begun.outcome = .inProgress ∧
      begun.transfer.Attended begun.host.device sequence kind []
        (sequence.firstStage kind) ∧
      begun.host.taken ++ begun.host.device.received =
        recorder.taken ++ recorder.device.received := by
  intro begun
  obtain ⟨reaction, after, hbegin, houtcome, hrun, hattended⟩ :=
    Transfer.attended_begin h hserves
  have hbegun : begun = Transfer.perform reaction recorder := by
    have hbusy : Device.busy recorder = recorder.device.busy := rfl
    simp only [begun, Transfer.start, hbusy, hbegin]
  obtain ⟨htransfer, hdevice⟩ := perform_of_run hrun
  obtain ⟨bytes, hmakes⟩ := perform_makes reaction recorder
  obtain rfl : bytes = [] := by
    have hcount := Device.length_run reaction.calls recorder.device
    rw [hrun, ← hmakes.count] at hcount
    exact List.eq_nil_of_length_eq_zero hcount.symm
  rw [hbegun, htransfer, hdevice]
  refine ⟨hmakes.outcome.trans houtcome, hattended, ?_⟩
  rw [← hdevice]
  refine perform_supply reaction recorder ?_
  rw [hmakes.taken, List.append_nil]
  exact Nat.le_add_right _ _

/-- A run on a target that serves it is done within its events.  The buffer is
filled with the first bytes that the target had, and nothing is left over. -/
theorem steps_of_serves (h : sequence.kind? = some kind)
    {recorder : Recorder Bench}
    (hserves : recorder.device.Serves (sequence.transcript kind)
      (sequence.receiveLength kind)) (transfer : Transfer) :
    let begun := transfer.start sequence recorder
    let queue := recorder.device.received
    let length := sequence.receiveLength kind
    ∃ count < sequence.eventCount kind,
      (∀ step ≤ count, (begun.steps step).outcome = .inProgress) ∧
      let last := begun.steps (count + 1)
      last.outcome = .done ∧ last.host.device.AtRest ∧
        last.transfer.held = some (sequence.filled kind (queue.take length)) ∧
        last.host.device.received = queue.drop length ∧
        last.host.dataWrites = recorder.dataWrites ++ sequence.sent kind := by
  intro begun queue length
  obtain ⟨hrunning, hattended, hbegun⟩ := attended_start h hserves transfer
  obtain ⟨count, hcount, hsteps, hdone, hrest⟩ :=
    exists_steps_done hrunning hattended
  rw [Sequence.eventsLeft_firstStage] at hcount
  have hfollows := (follows_start h transfer recorder).2.2.steps hrunning
    (count + 1)
  obtain ⟨_, received, hended, hlength, hwire, htaken⟩ :=
    hfollows.of_done ⟨count + 1, Nat.le_refl _, hdone⟩
  -- what came in and what is left make up what the target had
  have hqueue : received ++ (begun.steps (count + 1)).host.device.received =
      queue := by
    have htotal := congrArg List.length hbegun
    rw [List.length_append, List.length_append] at htotal
    have hsupply := hserves.supply
    have hbound : (begun.steps (count + 1)).host.taken.length ≤
        begun.host.taken.length + begun.host.device.received.length := by
      rw [htaken, List.length_append, htotal]
      omega
    have hlast := steps_supply begun (count + 1) hbound
    rw [hbegun, htaken, List.append_assoc] at hlast
    exact List.append_cancel_left hlast
  refine ⟨count, hcount, hsteps, hdone, hrest, ?_, ?_, ?_⟩
  · rw [hended.held, ← hqueue]
    simp only [length, ← hlength, List.take_left]
  · rw [← hqueue]
    simp only [length, ← hlength, List.drop_left]
  · rw [dataWrites_eq, hwire, List.filterMap_append,
      Sequence.filterMap_transcript, Call.filterMap_wire]
    rfl

end Progress

namespace Controller

open Log (Logger)

variable {ℓ : Type} [Logger ℓ] {sequence : Sequence} {kind : Kind}

/-- A sequence runs to its end on a target that refuses none of its bytes and
has as many as it asks for, whatever state the bus was left in. -/
theorem runSequence_of_serves (h : sequence.kind? = some kind)
    (controller : Controller (Recorder Bench) ℓ)
    (hserves : controller.device.device.Serves (sequence.transcript kind)
      (sequence.receiveLength kind))
    {patience : Nat} (hpatience : sequence.eventCount kind ≤ patience)
    {budget : Option UInt32}
    (hbudget : ∀ limit ∈ budget, sequence.eventCount kind ≤ limit.toNat) :
    ∃ completion,
      controller.runSequence patience budget sequence = some completion ∧
      completion.result = .ok () ∧
      let queue := controller.device.device.received
      let length := sequence.receiveLength kind
      let after := completion.controller.device
      completion.handedBack =
        (kind.receivesInto.elim sequence fun slot =>
          sequence.setBuffer slot (.receive (queue.take length))) ∧
      after.device.received = queue.drop length ∧
      after.dataWrites = controller.device.dataWrites ++ sequence.sent kind ∧
      after.device.busy = false ∧
      (∀ source ∈ Interrupts.transfer,
        source ∉ after.device.pending ∧ source ∉ after.device.enabled) := by
  obtain ⟨count, hcount, hsteps, hdone, hrest, hheld, hqueue, hwrites⟩ :=
    Progress.steps_of_serves h hserves {}
  have hroom : ∀ limit ∈ budget, count = 0 ∨ count < limit.toNat := by
    intro limit hlimit
    exact Or.inr (Nat.lt_of_lt_of_le hcount (hbudget limit hlimit))
  obtain ⟨completion, hcompletion, hresult, hhanded, hdevice⟩ :=
    controller.runSequence_of_steps rfl hsteps
      (Progress.result?_of_done hdone) (Nat.lt_of_lt_of_le hcount hpatience)
      hroom
  have hfull : (controller.device.device.received.take
      (sequence.receiveLength kind)).length = sequence.receiveLength kind :=
    List.length_take_of_le hserves.supply
  rw [hheld, Option.getD_some, Sequence.filled_of_length hfull] at hhanded
  rw [← hdevice] at hrest hqueue hwrites
  refine ⟨completion, hcompletion, hresult, hhanded, hqueue, hwrites,
    hrest.busy, ?_⟩
  intro source hsource
  exact ⟨hrest.pending source hsource, hrest.enabled source hsource⟩

/-- Sending a byte and reading two with a ten-bit address, on a bus that was
left in disorder: there are six events to wait for. -/
theorem runSequence_of_serves_tenBit :
    let bench : Bench :=
      { Bench.withResponder [7, 8, 9] with pending := .all, busy := true }
    let controller : Controller (Recorder Bench) Log.Silent :=
      ⟨{ device := bench }, .standard .one, {}⟩
    let sequence := (Sequence.writeRead 0x2a5 [0x10] [0, 0]).toTenBit
    sequence.kind? = some .writeRead ∧ sequence.eventCount .writeRead = 6 ∧
      bench.Serves (sequence.transcript .writeRead) 2 ∧
      ∃ completion, controller.runSequence 6 (some 6) sequence =
          some completion ∧
        completion.result = .ok () ∧
        completion.handedBack = { sequence with second := .receive [7, 8] } ∧
        completion.controller.device.device.received = [9] := by
  intro bench controller sequence
  have hkind : sequence.kind? = some .writeRead := by decide
  have hcount : sequence.eventCount .writeRead = 6 := by decide
  have hserves : bench.Serves (sequence.transcript .writeRead) 2 :=
    ⟨rfl, fun _ _ => List.not_mem_nil, rfl, by decide⟩
  have hbudget : ∀ limit ∈ some (6 : UInt32),
      sequence.eventCount .writeRead ≤ limit.toNat := by
    rintro limit ⟨⟩
    exact Nat.le_of_eq hcount
  obtain ⟨completion, hrun, hresult, hhanded, hqueue, _⟩ :=
    runSequence_of_serves hkind controller hserves (Nat.le_of_eq hcount) hbudget
  exact ⟨hkind, hcount, hserves, completion, hrun, hresult, hhanded, hqueue⟩

end Controller

end TwoWire
