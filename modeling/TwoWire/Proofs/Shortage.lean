/-
Runs on a target that has too little to give.

The flag of a data byte is up on such a target exactly while it has one to
give, so whoever waits for the flag never takes a byte that is not there.  A
run takes what there is and then waits, until it is given up.
-/
import TwoWire.Proofs.Budget
import TwoWire.Proofs.Refusal

namespace TwoWire

open Sequence (Kind Slot Stage)

namespace Bench

variable {bench : Bench} {call : Call} {byte : UInt8}

/-- The target answers, and has a byte on the bus as long as it has one at
all. -/
structure Offers (bench : Bench) : Prop where
  responder : bench.responder = true
  quiet : Transfer.Quiet bench.pending
  offered : .dataReceived ∈ bench.pending ↔ bench.received ≠ []

theorem Offers.lower (h : bench.Offers) {set : Interrupts}
    (hset : .dataReceived ∉ set) : (bench.lower set).Offers where
  responder := h.responder
  quiet := h.quiet.lower set
  offered := by
    rw [mem_lower, h.offered]
    exact and_iff_left hset

theorem Offers.readData (h : bench.Offers) :
    (perform .readData bench).offer.Offers := by
  have hoffer := @mem_offer (perform .readData bench) .dataReceived h.responder
  obtain ⟨pending, hsame⟩ := (perform .readData bench).offer_eq
  have hdown : .dataReceived ∉ (perform .readData bench).pending := by
    intro hup
    exact (mem_lower.mp hup).2 (Interrupts.mem_singleton.mpr rfl)
  refine ⟨?_, h.quiet.readData h.responder, ?_⟩
  · rw [hsame]
    exact h.responder
  · rw [hoffer, hsame]
    simp [hdown]

/-- Only an address that asks for data brings a byte along. -/
theorem dataReceived_mem_perform (hresponder : bench.responder = true)
    (haccepted : ∀ byte, call = .writeAddress byte →
      byte ∉ bench.refusedAddresses)
    (hcall : call.nackSource ≠ .unknown) :
    .dataReceived ∈ (perform call bench).pending ↔
      .dataReceived ∈ bench.pending ∨
        (∃ byte, call = .writeAddress byte ∧ byte &&& 1 = 1) ∧
          bench.received ≠ [] := by
  cases call with
  | writeAddress byte =>
      rw [perform, mem_takeAddress hresponder (haccepted byte rfl)]
      simp
  | writeData byte =>
      rw [perform, takeData, if_neg (by simp [hresponder])]
      by_cases hrefused : bench.refusedData = some bench.dataWritten <;>
        simp [answer, raise, hrefused]
  | _ => exact absurd rfl hcall

end Bench

namespace Sequence

variable {sequence : Sequence} {kind : Kind} {stage : Stage}

/-- The stage waits for the answer to a byte behind which the target is
addressed for reading. -/
def Stage.leadsUp : Stage → Bool
  | .opening | .sending _ => true
  | .turned | .receiving _ => false

/-- What is remaining up to the second addressing. -/
theorem remaining_of_leadsUp (hreaddress : sequence.readdresses kind = true)
    (hstage : stage.leadsUp = true) :
    ∃ front, sequence.remaining kind stage =
      front ++ [.writeAddress (sequence.header true)] ++
        sequence.remaining kind .turned := by
  cases stage with
  | opening =>
      refine ⟨.writeAddress sequence.lowAddress ::
        ((sequence.sent kind).map Call.writeData ++ [.repeatedStart]), ?_⟩
      simp [remaining, reopening, hreaddress]
  | sending position =>
      refine ⟨((sequence.sent kind).drop position).map Call.writeData ++
        [.repeatedStart], ?_⟩
      simp [remaining, reopening, hreaddress]
  | turned => cases hstage
  | receiving index => cases hstage

theorem readsAtOnce_of_turned (h : sequence.firstStage kind = .turned) :
    sequence.readsAtOnce kind = true := by
  rw [firstStage] at h
  split at h
  case isTrue => cases h
  case isFalse hwide =>
    split at h
    case isTrue hread => simp [readsAtOnce, hread, hwide]
    case isFalse => cases h

theorem Stage.IsAnswerTo.leadsUp {call : Call} (h : stage.IsAnswerTo call)
    (hstage : stage ≠ .turned) : stage.leadsUp = true := by
  cases h with
  | turned => exact absurd rfl hstage
  | _ => rfl

end Sequence

namespace Transfer

variable {transfer : Transfer} {sequence : Sequence} {kind : Kind}
  {slot : Slot} {stage later : Stage} {received : List UInt8}
  {reaction : Reaction} {ahead : List Call} {call : Call}

theorem Stands.isTenBit_of_read {phase : Phase} {slot : Slot} {index : Nat}
    (h : Stands sequence kind phase slot index stage)
    (hstage : stage.leadsUp = true) (hkind : kind = .read) :
    sequence.isTenBit = true := by
  cases h with
  | opening hwide => exact hwide
  | addressed _ hwrites => exact absurd hkind hwrites
  | asked _ _ => cases hstage
  | opened hwide => exact hwide
  | sent hwrites => exact absurd hkind hwrites
  | turned _ _ => cases hstage
  | receiving _ _ => cases hstage

/-- A sequence that has something to send and then receives addresses its target
twice. -/
theorem Runs.readdresses (h : transfer.Runs sequence kind received stage)
    (hslot : kind.receivesInto = some slot) (hstage : stage.leadsUp = true) :
    sequence.readdresses kind = true := by
  rcases Kind.receivesInto_eq_some_iff.mp hslot with ⟨rfl, _⟩ | ⟨rfl, _⟩
  · have hwide := h.inFlight.stands.isTenBit_of_read hstage h.kind_eq
    rw [Sequence.filled_isTenBit] at hwide
    exact hwide
  · rfl

/-- Every byte that has not come in is an event to come. -/
theorem Runs.receiveLength_le (h : transfer.Runs sequence kind received stage) :
    sequence.receiveLength kind ≤
      sequence.eventsLeft kind stage + received.length := by
  cases stage with
  | receiving index =>
      have hroom := h.room_of_receiving
      rw [Sequence.eventsLeft]
      omega
  | _ =>
      simp only [Sequence.eventsLeft]
      omega

/-- The byte behind which data comes in is an address that asks for it. -/
theorem Continues.asks
    (h : Continues reaction sequence kind stage .turned ahead call)
    (hreaddress : sequence.readdresses kind = true)
    (hstage : stage.leadsUp = true) :
    call = .writeAddress (sequence.header true) := by
  obtain ⟨front, hfront⟩ := Sequence.remaining_of_leadsUp hreaddress hstage
  have hsame := List.append_cancel_right (h.remaining.symm.trans hfront)
  exact List.singleton_inj.mp (List.append_inj' hsame rfl).2

end Transfer

namespace Transfer

/-- A reaction on a bench takes `bytes` of what the target has, and waits for
more. -/
structure Gives (reaction : Reaction) (bench : Bench) (sequence : Sequence)
    (kind : Kind) (received bytes : List UInt8) (after : Bench) : Prop where
  run : Device.run reaction.calls bench = (bytes, after)
  outcome : reaction.outcome = .inProgress
  runs : (reaction.settle bytes).Runs sequence kind (received ++ bytes)
    (.receiving (received ++ bytes).length)
  offers : after.Offers
  supply : bytes ++ after.received = bench.received
  dry : bytes = [] → bench.received = []

variable {transfer : Transfer} {bench : Bench} {sequence : Sequence}
  {kind : Kind} {received : List UInt8} {status : Interrupts}
  {reaction : Reaction}

theorem Taking.gives
    (h : Taking transfer (sequence.filled kind received) status
      received.length reaction)
    (hruns : transfer.Runs sequence kind received
      (.receiving received.length))
    (hoffers : bench.Offers)
    (hstatus : .dataReceived ∈ status ↔ bench.received ≠ [])
    (hshort : received.length + bench.received.length <
      sequence.receiveLength kind) :
    ∃ bytes after, Gives reaction bench sequence kind received bytes after := by
  cases h with
  | none hnone =>
      have hempty : bench.received = [] :=
        Classical.not_not.mp (mt hstatus.mpr hnone)
      have hsame : received ++ [] = received := List.append_nil received
      by_cases hnack : .nackReceived ∈ status
      · rw [if_pos hnack]
        refine ⟨[], bench.lower {Interrupt.nackReceived}, rfl, rfl, ?_,
          hoffers.lower (by simp), rfl, fun _ => hempty⟩
        rw [hsame]
        exact hruns
      · rw [if_neg hnack]
        refine ⟨[], bench, rfl, rfl, ?_, hoffers, rfl, fun _ => hempty⟩
        rw [hsame]
        exact hruns
  | more hdata hmore =>
      rw [hruns.kind_eq, Sequence.filled_receiveLength hruns.room] at hmore
      obtain ⟨byte, rest, hqueue⟩ :=
        List.exists_cons_of_ne_nil (hstatus.mp hdata)
      refine ⟨[byte], (Bench.perform .readData bench).offer, ?_, rfl, ?_,
        hoffers.readData, ?_, nofun⟩
      · have hfirst : Device.received bench = byte :=
          congrArg (fun queue => queue.headD Bench.idleByte) hqueue
        rw [← hfirst]
        rfl
      · rw [List.length_append, List.length_singleton]
        exact hruns.store hmore byte
      · obtain ⟨pending, hsame⟩ := (Bench.perform .readData bench).offer_eq
        rw [hsame, (Bench.perform_keeps .readData bench).2, if_pos rfl, hqueue]
        rfl
  | last hdata hlast =>
      rw [hruns.kind_eq, Sequence.filled_receiveLength hruns.room] at hlast
      have hsome := List.length_pos_iff.mpr (hstatus.mp hdata)
      omega

theorem Handles.gives
    (h : Handles transfer (sequence.filled kind received) bench.pending
      (.receiving received.length) reaction)
    (hruns : transfer.Runs sequence kind received
      (.receiving received.length))
    (hoffers : bench.Offers)
    (hshort : received.length + bench.received.length <
      sequence.receiveLength kind) :
    ∃ bytes after, Gives reaction bench sequence kind received bytes after := by
  have hphase := hruns.inFlight.stands.phase_eq_receive_iff.mpr ⟨_, rfl⟩
  cases h with
  | lost hlost => exact absurd hlost hoffers.quiet.1
  | broken _ hbroken => exact absurd hbroken hoffers.quiet.2
  | refused _ hnot => exact absurd hphase hnot
  | unanswered _ hnot => exact absurd hphase hnot
  | received _ htaking =>
      exact htaking.gives hruns hoffers hoffers.offered hshort

/-- The answer to an address that asks for data, and the first byte if there is
one. -/
theorem Handles.gives_turned
    (h : Handles transfer (sequence.filled kind []) bench.pending .turned
      reaction)
    (hruns : transfer.Runs sequence kind [] .turned)
    (hacked : Acked bench.pending) (hoffers : bench.Offers)
    (hshort : bench.received.length < sequence.receiveLength kind) :
    ∃ bytes after, Gives reaction bench sequence kind [] bytes after := by
  cases h with
  | lost hlost => exact absurd hlost hoffers.quiet.1
  | broken _ hbroken => exact absurd hbroken hoffers.quiet.2
  | refused _ _ hnack => exact absurd hnack hacked.2.1
  | unanswered _ _ _ hack => exact absurd hacked.2.2 hack
  | turned _ hnext htaking =>
      have hlower : (bench.lower {Interrupt.ackReceived}).Offers :=
        hoffers.lower (by simp)
      have hroom : ([] : List UInt8).length + bench.received.length <
          sequence.receiveLength kind := by
        simpa using hshort
      obtain ⟨bytes, after, hgives⟩ := htaking.gives
        (hruns.of_inFlight hnext rfl) hlower hoffers.offered hroom
      exact ⟨bytes, after, hgives.run, hgives.outcome, hgives.runs,
        hgives.offers, hgives.supply, hgives.dry⟩

end Transfer

/-- The target answers, refuses no byte of the sequence and has fewer bytes to
give than it is asked for. -/
structure Bench.FallsShort (bench : Bench) (sequence : Sequence)
    (kind : Kind) : Prop where
  responder : bench.responder = true
  accepts : bench.Accepts (sequence.transcript kind)
  short : bench.received.length < sequence.receiveLength kind

namespace Progress

/-- A run that was begun on `start` still waits for answers.  The flag of a data
byte is not up without one, and is up with the answer behind which data comes
in. -/
structure Asking (progress : Progress (Recorder Bench))
    (start : Recorder Bench) (sequence : Sequence) (kind : Kind)
    (stage : Stage) (before : List Call) (call : Call) : Prop where
  awaits : progress.Awaits start sequence kind stage before call
  taken : progress.host.taken = start.taken
  honest : .dataReceived ∈ progress.host.device.pending →
    progress.host.device.received ≠ []
  offered : stage = .turned → progress.host.device.received ≠ [] →
    .dataReceived ∈ progress.host.device.pending

/-- A run that was begun on `start` has received some of what the target had. -/
structure Giving (progress : Progress (Recorder Bench))
    (start : Recorder Bench) (sequence : Sequence) (kind : Kind)
    (received : List UInt8) : Prop where
  outcome : progress.outcome = .inProgress
  runs : progress.transfer.Runs sequence kind received
    (.receiving received.length)
  offers : progress.host.device.Offers
  supply : received ++ progress.host.device.received = start.device.received
  taken : progress.host.taken = start.taken ++ received

/-- Where a run stands that gets less than it asks for. -/
inductive Underfed (progress : Progress (Recorder Bench))
    (start : Recorder Bench) (sequence : Sequence) (kind : Kind) :
    Stage → List UInt8 → Prop where
  | asking {stage : Stage} {before : List Call} {call : Call} :
      progress.Asking start sequence kind stage before call →
      Underfed progress start sequence kind stage []
  | giving {received : List UInt8} :
      progress.Giving start sequence kind received →
      Underfed progress start sequence kind (.receiving received.length)
        received

variable {progress : Progress (Recorder Bench)} {start : Recorder Bench}
  {sequence : Sequence} {kind : Kind} {slot : Slot} {stage : Stage}
  {before : List Call} {call : Call} {received bytes : List UInt8}

/-- No byte that is waited on was refused. -/
theorem Awaits.not_refuses
    (h : progress.Awaits start sequence kind stage before call)
    (haccepts : start.device.Accepts (sequence.transcript kind)) :
    ¬ start.device.Refuses before call :=
  haccepts before call ((Call.prefix_through before call).trans
    ⟨_, h.remaining⟩)

theorem next_giving {after : Bench}
    (hgives : Transfer.Gives
      (progress.transfer.react progress.host.device.pending)
      progress.host.device sequence kind received bytes after)
    (hsupply : received ++ progress.host.device.received =
      start.device.received)
    (htaken : progress.host.taken = start.taken ++ received) :
    progress.next.Giving start sequence kind (received ++ bytes) := by
  have hnext := progress.next_eq
  obtain ⟨htransfer, hdevice⟩ := perform_of_run hgives.run
  rw [← hnext] at htransfer hdevice
  constructor
  · rw [hnext]
    exact hgives.outcome
  · rw [htransfer]
    exact hgives.runs
  · rw [hdevice]
    exact hgives.offers
  · rw [hdevice, List.append_assoc, hgives.supply, hsupply]
  · have hbytes : (Device.run (progress.transfer.react
        progress.host.device.pending).calls progress.host).1 = bytes :=
      (Recorder.run_device _ _).1.trans (congrArg Prod.fst hgives.run)
    rw [hnext, ← List.append_assoc, ← htaken, ← hbytes]
    exact Recorder.taken_run _ _

/-- An answer up to the second addressing is followed by another byte. -/
theorem Asking.next (h : progress.Asking start sequence kind stage before call)
    (hslot : kind.receivesInto = some slot)
    (hfalls : start.device.FallsShort sequence kind)
    (hstage : stage ≠ .turned) :
    ∃ later front other,
      progress.next.Asking start sequence kind later front other ∧
      sequence.eventsLeft kind later < sequence.eventsLeft kind stage := by
  obtain ⟨hawaits, htaken, hhonest, _⟩ := h
  have hleads := hawaits.answer.leadsUp hstage
  -- the target is still to be addressed for reading, so a byte will follow
  have hreaddress := hawaits.runs.readdresses hslot hleads
  obtain ⟨front, hfront⟩ := Sequence.remaining_of_leadsUp hreaddress hleads
  have hmore : ∃ other ∈ sequence.remaining kind stage,
      other.nackSource ≠ .unknown :=
    ⟨.writeAddress (sequence.header true), by simp [hfront], nofun⟩
  obtain ⟨later, ahead, other, hnext, hcontinues, htakenNext, hdevice⟩ :=
    hawaits.next_continues hfalls.responder
      (hawaits.not_refuses hfalls.accepts) hmore
  have hterms := hawaits.since.terms
  simp only [Bench.terms, Prod.mk.injEq] at hterms
  have haccepted : ∀ byte, other = .writeAddress byte →
      byte ∉ progress.host.device.refusedAddresses := by
    rintro byte rfl
    rw [hterms.2.1]
    exact hnext.not_refuses hfalls.accepts
  have hqueue : progress.next.host.device.received =
      progress.host.device.received :=
    hnext.since.received.trans hawaits.since.received.symm
  have hdata := @Bench.dataReceived_mem_perform
    (progress.host.device.lower {Interrupt.ackReceived}) other
    (hterms.1.trans hfalls.responder) haccepted hcontinues.answer.nackSource_ne
  rw [← hdevice] at hdata
  refine ⟨later, _, other, ⟨hnext, htakenNext.trans htaken, ?_, ?_⟩,
    hcontinues.events⟩
  · intro hup
    rw [hqueue]
    rcases hdata.mp hup with hold | ⟨_, hsome⟩
    · exact hhonest (Bench.mem_lower.mp hold).1
    · exact hsome
  · rintro rfl hsome
    have hasks := hcontinues.asks hreaddress hleads
    have hodd := Sequence.header_true_odd hawaits.runs.valid
    exact hdata.mpr (Or.inr ⟨⟨_, hasks, hodd⟩, hqueue ▸ hsome⟩)

/-- The answer to the address that asks for data. -/
theorem Asking.next_turned
    (h : progress.Asking start sequence kind .turned before call)
    (hfalls : start.device.FallsShort sequence kind) :
    ∃ bytes, progress.next.Giving start sequence kind bytes := by
  obtain ⟨hawaits, htaken, hhonest, hoffered⟩ := h
  have hacked := hawaits.answers.acked (hawaits.not_refuses hfalls.accepts)
  have hqueue := hawaits.since.received
  have hoffers : progress.host.device.Offers :=
    ⟨hawaits.since.responder hfalls.responder, hacked.1, hhonest, hoffered rfl⟩
  obtain ⟨bytes, after, hgives⟩ :=
    (hawaits.runs.inFlight.react_handles _).gives_turned hawaits.runs hacked
      hoffers (hqueue ▸ hfalls.short)
  exact ⟨bytes, next_giving hgives hqueue
    (htaken.trans (List.append_nil _).symm)⟩

theorem Giving.next (h : progress.Giving start sequence kind received)
    (hfalls : start.device.FallsShort sequence kind) :
    ∃ bytes, progress.next.Giving start sequence kind (received ++ bytes) ∧
      (bytes = [] → received = start.device.received) := by
  have hlength := congrArg List.length h.supply
  rw [List.length_append] at hlength
  obtain ⟨bytes, after, hgives⟩ :=
    (h.runs.inFlight.react_handles _).gives h.runs h.offers
      (hlength ▸ hfalls.short)
  refine ⟨bytes, next_giving hgives h.supply h.taken, ?_⟩
  intro hnone
  rw [← h.supply, hgives.dry hnone, List.append_nil]

/-- Every step of a run that gets less than it asks for uses up an event, until
there is nothing more to take. -/
theorem Underfed.next (h : progress.Underfed start sequence kind stage received)
    (hslot : kind.receivesInto = some slot)
    (hfalls : start.device.FallsShort sequence kind) :
    ∃ later more,
      progress.next.Underfed start sequence kind later (received ++ more) ∧
      (sequence.eventsLeft kind later < sequence.eventsLeft kind stage ∨
        received = start.device.received) := by
  cases h with
  | @asking _ before call hasking =>
      by_cases hstage : stage = .turned
      · subst hstage
        obtain ⟨bytes, hnext⟩ := hasking.next_turned hfalls
        refine ⟨_, bytes, .giving hnext, Or.inl ?_⟩
        rw [Sequence.eventsLeft_turned]
        exact Nat.lt_succ_of_le (Nat.sub_le _ _)
      · obtain ⟨later, front, other, hnext, hfewer⟩ :=
          hasking.next hslot hfalls hstage
        exact ⟨later, [], .asking hnext, Or.inl hfewer⟩
  | giving hgiving =>
      obtain ⟨bytes, hnext, hdry⟩ := hgiving.next hfalls
      refine ⟨_, bytes, .giving hnext, ?_⟩
      by_cases hnone : bytes = []
      · exact Or.inr (hdry hnone)
      · have hroom := hgiving.runs.room_of_receiving.2
        have hsome := List.length_pos_iff.mpr hnone
        refine Or.inl (Nat.sub_lt_sub_left hroom ?_)
        rw [List.length_append]
        exact Nat.lt_add_of_pos_right hsome

/-- All that there is to know about a run that gets less than it asks for. -/
theorem Underfed.stands
    (h : progress.Underfed start sequence kind stage received) :
    progress.outcome = .inProgress ∧
      progress.transfer.Runs sequence kind received stage ∧
      received ++ progress.host.device.received = start.device.received ∧
      progress.host.taken = start.taken ++ received := by
  cases h with
  | asking hasking =>
      exact ⟨hasking.awaits.outcome, hasking.awaits.runs,
        hasking.awaits.since.received,
        hasking.taken.trans (List.append_nil _).symm⟩
  | giving hgiving =>
      exact ⟨hgiving.outcome, hgiving.runs, hgiving.supply, hgiving.taken⟩

theorem Underfed.steps
    (h : progress.Underfed start sequence kind stage received)
    (hslot : kind.receivesInto = some slot)
    (hfalls : start.device.FallsShort sequence kind) (count : Nat) :
    ∃ later now,
      (progress.steps count).Underfed start sequence kind later now ∧
      (sequence.eventsLeft kind later + count ≤
          sequence.eventsLeft kind stage ∨
        now = start.device.received) := by
  induction count with
  | zero => exact ⟨stage, received, h, Or.inl (Nat.le_refl _)⟩
  | succ count ih =>
      obtain ⟨middle, now, hmiddle, hbefore⟩ := ih
      obtain ⟨later, more, hnext, hafter⟩ := hmiddle.next hslot hfalls
      refine ⟨later, now ++ more, hnext, ?_⟩
      by_cases hdry : now = start.device.received
      · -- nothing is left that `more` could have come from
        have hsupply := congrArg List.length hnext.stands.2.2.1
        rw [← hdry, List.length_append, List.length_append] at hsupply
        have hnone : more = [] := List.eq_nil_of_length_eq_zero (by omega)
        rw [hnone, List.append_nil]
        exact Or.inr hdry
      · have hfewer := hafter.resolve_right hdry
        have hsum := hbefore.resolve_right hdry
        exact Or.inl (by omega)

theorem asking_start (h : sequence.kind? = some kind) (transfer : Transfer)
    (hfalls : start.device.FallsShort sequence kind) :
    (transfer.start sequence start).Asking start sequence kind
      (sequence.firstStage kind) []
      (.writeAddress (sequence.header (sequence.readsAtOnce kind))) := by
  have hawaits := awaits_start h transfer hfalls.responder
  obtain ⟨_, hmakes, _⟩ := start_makes h transfer start
  obtain ⟨quieted, after, hrun, hpending, hterms, hqueue, hempty⟩ :=
    start.device.run_begin (sequence.header (sequence.readsAtOnce kind))
      start.device.busy
  have hdevice : (transfer.start sequence start).host.device = after :=
    (start_device h transfer start).trans (congrArg Prod.snd hrun)
  simp only [Bench.terms, Prod.mk.injEq] at hterms
  have haccepted : ∀ byte,
      Call.writeAddress (sequence.header (sequence.readsAtOnce kind)) =
        .writeAddress byte → byte ∉ quieted.refusedAddresses := by
    rintro byte ⟨⟩
    rw [hterms.2.1]
    exact hawaits.not_refuses hfalls.accepts
  have hdata := Bench.dataReceived_mem_perform
    (hterms.1.trans hfalls.responder) haccepted hawaits.answer.nackSource_ne
  have hup : .dataReceived ∈ after.pending ↔ _ := hpending ▸ hdata
  rw [← hdevice, hqueue, ← hawaits.since.received] at hup
  refine ⟨hawaits, hmakes.taken.trans (List.append_nil _), ?_, ?_⟩
  · intro hmem
    exact ((hup.mp hmem).resolve_left (hempty _)).2
  · intro hstage hsome
    refine hup.mpr (Or.inr ⟨⟨_, rfl, ?_⟩, hsome⟩)
    rw [Sequence.readsAtOnce_of_turned hstage]
    exact Sequence.header_true_odd h

/-- After any number of steps, what has come in is the front of what the target
had, and all of it once there were enough steps. -/
theorem steps_of_fallsShort (h : sequence.kind? = some kind)
    (hslot : kind.receivesInto = some slot) (transfer : Transfer)
    (hfalls : start.device.FallsShort sequence kind) (count : Nat) :
    let progress := (transfer.start sequence start).steps count
    let queue := start.device.received
    progress.outcome = .inProgress ∧ ∃ taken ≤ queue.length,
      (sequence.addressLength kind + (sequence.sent kind).length +
          queue.length ≤ count → taken = queue.length) ∧
      progress.transfer.held =
        some (sequence.filled kind (queue.take taken)) ∧
      progress.host.device.received = queue.drop taken ∧
      progress.host.taken = start.taken ++ queue.take taken := by
  intro progress queue
  have hunderfed : (transfer.start sequence start).Underfed start sequence kind
      (sequence.firstStage kind) [] :=
    .asking (asking_start h transfer hfalls)
  obtain ⟨stage, received, hafter, hevents⟩ :=
    hunderfed.steps hslot hfalls count
  obtain ⟨houtcome, hruns, hsum, htaken⟩ := hafter.stands
  have hsupply : received ++ progress.host.device.received = queue := hsum
  have htake : queue.take received.length = received := by
    rw [← hsupply]
    exact List.take_left' rfl
  have hdrop : queue.drop received.length = progress.host.device.received := by
    rw [← hsupply]
    exact List.drop_left' rfl
  have hlength := congrArg List.length hsupply
  rw [List.length_append] at hlength
  refine ⟨houtcome, received.length, Nat.le_of_add_right_le
    (Nat.le_of_eq hlength), ?_, ?_, hdrop.symm, ?_⟩
  · intro henough
    rcases hevents with hevents | hdry
    · have hroom := hruns.receiveLength_le
      rw [Sequence.eventsLeft_firstStage, Sequence.eventCount] at hevents
      omega
    · exact congrArg List.length hdry
  · rw [htake]
    exact hruns.inFlight.held
  · rw [htake]
    exact htaken

/-- What a run that goes on has done to the bus: it has begun the transcript,
with neither a refusal nor a stop condition yet. -/
theorem bus_of_inProgress (h : sequence.kind? = some kind)
    (transfer : Transfer) (recorder : Recorder Bench) {count : Nat}
    (hrunning : ∀ step ≤ count,
      ((transfer.start sequence recorder).steps step).outcome = .inProgress) :
    let progress := (transfer.start sequence recorder).steps count
    let first := Call.writeAddress
      (sequence.header (sequence.readsAtOnce kind))
    ∃ later, sequence.Begins kind ([first, .start] ++ later) ∧
      (∀ call ∈ later, call ∉ [Call.abort, .stop, .nack]) ∧
      Call.bus progress.host.calls = Call.bus recorder.calls ++
        ((if Device.busy recorder then [.abort] else []) ++
          ([first, .start] ++ later)) := by
  intro progress first
  obtain ⟨hbegun, _, hfollows⟩ := follows_start h transfer recorder
  obtain ⟨later, hlater, hbus⟩ :=
    Transfer.start_bus_of_inProgress h transfer recorder hrunning
  obtain ⟨received, stage, hruns, hwire, _⟩ := (hfollows.steps hbegun
    count).of_inProgress (hrunning count (Nat.le_refl count))
  rw [hlater, List.append_assoc] at hwire
  have hfront := List.append_cancel_left hwire
  obtain ⟨hnack, hstop⟩ := Sequence.not_mem_of_append hfront hruns.taken_lt
  have hbegins := Sequence.begins_of_append hfront
  refine ⟨later, hbegins, ?_, hbus⟩
  intro call hcall hmem
  have hsent := List.mem_append_right [first, .start] hcall
  simp only [List.mem_cons, List.not_mem_nil, or_false] at hmem
  rcases hmem with rfl | rfl | rfl
  · have hon := Sequence.isOnWire_of_mem_transcript (hbegins.1.subset hsent)
    exact absurd hon (by decide)
  · exact hstop hsent
  · exact hnack hsent

end Progress

namespace Controller

open Log (Logger)

variable {ℓ : Type} [Logger ℓ] {sequence : Sequence} {kind : Kind} {slot : Slot}

/-- A read from a target that has fewer bytes than asked for is given up when
the budget is spent, and reported as such.  Only bytes that the target had are
taken, as many as the budget had room for, and put into the front of the buffer;
after the start the bus is given up once, with nothing refused and no stop
condition. -/
theorem runSequence_of_fallsShort (h : sequence.kind? = some kind)
    (hslot : kind.receivesInto = some slot)
    (controller : Controller (Recorder Bench) ℓ)
    (hfalls : controller.device.device.FallsShort sequence kind)
    (limit : UInt32) {patience : Nat} (hpatience : allowance limit ≤ patience) :
    let before := controller.device
    let queue := before.device.received
    let first := Call.writeAddress
      (sequence.header (sequence.readsAtOnce kind))
    ∃ initial completion,
      sequence.buffer slot = .receive initial ∧
      controller.runSequence patience (some limit) sequence =
        some completion ∧
      completion.result = .error .timeout ∧
      let after := completion.controller.device
      (∃ taken ≤ queue.length,
        (sequence.addressLength kind + (sequence.sent kind).length +
            queue.length ≤ limit.toNat → taken = queue.length) ∧
        completion.handedBack = sequence.setBuffer slot
          (.receive (queue.take taken ++ initial.drop taken)) ∧
        after.device.received = queue.drop taken ∧
        after.taken = before.taken ++ queue.take taken) ∧
      ∃ later, sequence.Begins kind ([first, .start] ++ later) ∧
        (∀ call ∈ later, call ∉ [Call.abort, .stop, .nack]) ∧
        Call.bus after.calls = Call.bus before.calls ++
          ((if before.device.busy then [.abort] else []) ++
            ([first, .start] ++ later) ++ [.abort]) := by
  intro before queue first
  have hrunning : ∀ step ≤ allowance limit,
      ((({} : Transfer).start sequence before).steps step).outcome =
        .inProgress := by
    intro step _
    exact (Progress.steps_of_fallsShort h hslot {} hfalls step).1
  obtain ⟨initial, hinitial, _⟩ := Sequence.buffer_of_receivesInto h hslot
  obtain ⟨_, taken, hle, henough, hheld, hqueue, htaken⟩ :=
    Progress.steps_of_fallsShort h hslot {} hfalls (allowance limit)
  obtain ⟨later, hbegins, hlater, hbus⟩ :=
    Progress.bus_of_inProgress h {} before hrunning
  obtain ⟨completion, hrun, hresult, hhanded, hdevice⟩ :=
    controller.runSequence_of_unsettled rfl hrunning hpatience
  have hfilled : sequence.filled kind (queue.take taken) =
      sequence.setBuffer slot
        (.receive (queue.take taken ++ initial.drop taken)) := by
    rw [Sequence.filled_of_receivesInto hslot, hinitial,
      List.length_take_of_le hle]
    rfl
  refine ⟨initial, completion, hinitial, hrun, hresult,
    ⟨taken, hle, ?_, ?_, ?_, ?_⟩, later, hbegins, hlater, ?_⟩
  · intro hbudget
    exact henough (Nat.le_trans hbudget (Nat.le_max_left limit.toNat 1))
  · rw [hhanded, hheld, Option.getD_some, hfilled]
  · rw [hdevice, ← hqueue]
    rfl
  · rw [hdevice, Recorder.taken_run, htaken]
    exact List.append_nil _
  · rw [hdevice, Recorder.calls_run, Call.bus_append, hbus,
      List.append_assoc]
    rfl

/-- Three bytes are asked for and there is one, at a ten-bit address whose
second half is odd.  Five polls are enough to get that far. -/
theorem runSequence_of_fallsShort_tenBit :
    let bench : Bench :=
      { Bench.withResponder [7] with
        busy := true
        refusedAddresses := [0xa1]
        refusedData := some 1 }
    let controller : Controller (Recorder Bench) Log.Silent :=
      ⟨{ device := bench }, .standard .one, {}⟩
    let sequence := (Sequence.writeRead 0x2a5 [0x10] [1, 2, 3]).toTenBit
    sequence.kind? = some .writeRead ∧
      bench.FallsShort sequence .writeRead ∧ allowance 5 ≤ 5 ∧
      ∃ completion,
        controller.runSequence 5 (some 5) sequence = some completion ∧
        completion.result = .error .timeout ∧
        completion.handedBack =
          (Sequence.writeRead 0x2a5 [0x10] [7, 2, 3]).toTenBit ∧
        completion.controller.device.device.received = [] ∧
        completion.controller.device.taken = [7] := by
  intro bench controller sequence
  have hkind : sequence.kind? = some .writeRead := by decide
  have hfalls : bench.FallsShort sequence .writeRead :=
    ⟨rfl, by decide, by decide⟩
  have hpatience : allowance 5 ≤ 5 := by decide
  obtain ⟨initial, completion, hinitial, hrun, hresult,
      ⟨taken, _, henough, hhanded, hqueue, htaken⟩, _⟩ :=
    runSequence_of_fallsShort hkind rfl controller hfalls 5 hpatience
  obtain rfl := henough (by decide)
  obtain rfl := Sequence.Buffer.receive.inj hinitial
  exact ⟨hkind, hfalls, hpatience, completion, hrun, hresult, hhanded, hqueue,
    htaken⟩

end Controller

end TwoWire
