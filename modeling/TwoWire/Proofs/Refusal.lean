/-
Runs on a target that refuses a byte.

The target answers each byte at once, so a run is always shown the answer to
the last byte that it sent.  `Awaits` is the invariant until the first refusal:
everything before that byte was accepted.  An accepted byte is followed by
another one as long as a refused one is still to come, and a refused byte ends
the run.
-/
import TwoWire.Proofs.Failure
import TwoWire.Proofs.Responder

namespace TwoWire

open Sequence (Kind Slot Stage)

/-- What is on the bus when the byte of a call is not acknowledged. -/
def Call.nackSource : Call → NackSource
  | .writeAddress _ => .address
  | .writeData _ => .data
  | _ => .unknown

/-- What has gone out once the byte of `call` has.  The first byte is followed
by the start condition. -/
def Call.through (before : List Call) (call : Call) : List Call :=
  before ++ call :: if before = [] then [.start] else []

theorem Call.through_of_ne_nil {before : List Call} (h : before ≠ [])
    (call : Call) : through before call = before ++ [call] := by
  rw [through, if_neg h]

theorem Call.prefix_through (before : List Call) (call : Call) :
    before ++ [call] <+: through before call :=
  ⟨_, (List.append_cons before call _).symm⟩

theorem Call.through_ne_nil (before : List Call) (call : Call) :
    through before call ≠ [] := by
  simp [through]

/-- The answer that a stage waits for is the answer to the byte of a call. -/
inductive Sequence.Stage.IsAnswerTo : Stage → Call → Prop where
  | opening {byte : UInt8} : IsAnswerTo .opening (.writeAddress byte)
  | addressed {byte : UInt8} : IsAnswerTo (.sending 0) (.writeAddress byte)
  | sent {position : Nat} {byte : UInt8} :
      IsAnswerTo (.sending (position + 1)) (.writeData byte)
  | turned {byte : UInt8} : IsAnswerTo .turned (.writeAddress byte)

/-- The first byte is an address in every sequence. -/
theorem Sequence.Stage.isAnswerTo_firstStage (sequence : Sequence) (kind : Kind)
    (byte : UInt8) :
    (sequence.firstStage kind).IsAnswerTo (.writeAddress byte) := by
  rw [firstStage]
  split
  · exact .opening
  · split
    · exact .turned
    · exact .addressed

theorem Sequence.Stage.IsAnswerTo.nackSource_ne {stage : Stage} {call : Call}
    (h : stage.IsAnswerTo call) : call.nackSource ≠ .unknown := by
  cases h <;> nofun

theorem Sequence.Stage.IsAnswerTo.ne_readData {stage : Stage} {call : Call}
    (h : stage.IsAnswerTo call) : call ≠ .readData := by
  rintro rfl
  exact h.nackSource_ne rfl

namespace Bench

variable {bench start : Bench} {before calls : List Call} {call : Call}

/-- The target does not acknowledge the byte of `call` if `before` is what went
out ahead of it. -/
def Refuses (bench : Bench) (before : List Call) : Call → Prop
  | .writeAddress byte => byte ∈ bench.refusedAddresses
  | .writeData _ => bench.refusedData =
      some (bench.dataWritten + (before.filterMap Call.data?).length)
  | _ => False

def Accepts (bench : Bench) (calls : List Call) : Prop :=
  ∀ before call, before ++ [call] <+: calls → ¬ bench.Refuses before call

/-- The first byte of the calls that the target does not acknowledge. -/
structure FirstRefuses (bench : Bench) (calls before : List Call)
    (call : Call) : Prop where
  begins : before ++ [call] <+: calls
  refused : bench.Refuses before call
  earlier : bench.Accepts before

instance : Decidable (bench.Refuses before call) :=
  match call with
  | .writeAddress byte => inferInstanceAs (Decidable (byte ∈ _))
  | .writeData _ => inferInstanceAs (Decidable (_ = _))
  | .enable _ | .reset | .setControllerMode _ | .setClockRatio _
  | .setClockDivider _ | .enableInterrupts _ | .disableInterrupts _
  | .clearInterrupts _ | .setInterrupts _ | .readData | .start | .repeatedStart
  | .stop | .ack | .nack | .abort | .clearTransmit => .isFalse id

theorem FirstRefuses.unique {front : List Call} {other : Call}
    (h : bench.FirstRefuses calls before call)
    (hother : bench.FirstRefuses calls front other) :
    front = before ∧ other = call := by
  have hnot : ¬ before ++ [call] <+: front := by
    intro hprefix
    exact hother.earlier before call hprefix h.refused
  have hnotOther : ¬ front ++ [other] <+: before := by
    intro hprefix
    exact h.earlier front other hprefix hother.refused
  have hsame : front ++ [other] = before ++ [call] := by
    rcases List.prefix_or_prefix_of_prefix h.begins hother.begins with
      hshort | hshort
    · exact ((List.prefix_concat_iff.mp hshort).resolve_right hnot).symm
    · exact (List.prefix_concat_iff.mp hshort).resolve_right hnotOther
  obtain ⟨hfront, hlast⟩ := List.append_inj' hsame rfl
  exact ⟨hfront, List.singleton_inj.mp hlast⟩

theorem Refuses.nackSource_ne (h : bench.Refuses before call) :
    call.nackSource ≠ .unknown := by
  cases call with
  | writeAddress byte => nofun
  | writeData byte => nofun
  | _ => exact h.elim

theorem accepts_nil (bench : Bench) : bench.Accepts [] := by
  intro before call hprefix
  simp at hprefix

/-- Only what went out ahead of a byte matters for whether it is accepted. -/
theorem accepts_iff :
    bench.Accepts calls ↔ ∀ (position : Nat) (h : position < calls.length),
      ¬ bench.Refuses (calls.take position) calls[position] := by
  constructor
  · intro haccepts position hposition
    apply haccepts
    rw [List.take_append_getElem]
    exact List.take_prefix _ _
  · rintro haccepts before call ⟨later, rfl⟩
    have hposition := haccepts before.length (by simp)
    simpa using hposition

instance : Decidable (bench.Accepts calls) :=
  decidable_of_iff _ accepts_iff.symm

theorem Accepts.concat (h : bench.Accepts before)
    (hcall : ¬ bench.Refuses before call) : bench.Accepts (before ++ [call]) := by
  intro front other hprefix
  rcases List.prefix_concat_iff.mp hprefix with hall | hfront
  · obtain ⟨rfl, hlast⟩ := List.append_inj' hall rfl
    obtain rfl := List.singleton_inj.mp hlast
    exact hcall
  · exact h front other hfront

/-- Conditions are not for the target to refuse. -/
theorem Accepts.condition (h : bench.Accepts before)
    (hcall : call.nackSource = .unknown) : bench.Accepts (before ++ [call]) :=
  h.concat fun hrefused => hrefused.nackSource_ne hcall

theorem Accepts.through (h : bench.Accepts before)
    (hcall : ¬ bench.Refuses before call) :
    bench.Accepts (Call.through before call) := by
  have hconcat := h.concat hcall
  rw [Call.through]
  split
  · rw [← List.singleton_append, ← List.append_assoc]
    exact hconcat.condition rfl
  · exact hconcat

/-- Behind what was accepted a refused byte is still to come. -/
theorem Accepts.exists_mem_of_not {front later : List Call}
    (h : bench.Accepts front) (hnot : ¬ bench.Accepts (front ++ later)) :
    ∃ call ∈ later, call.nackSource ≠ .unknown := by
  simp only [Accepts, Classical.not_forall, Classical.not_not] at hnot
  obtain ⟨before, call, hprefix, hrefused⟩ := hnot
  refine ⟨call, ?_, hrefused.nackSource_ne⟩
  have hfront : ¬ before ++ [call] <+: front := by
    intro hfront
    exact h before call hfront hrefused
  have hbehind : front <+: before ++ [call] :=
    (List.prefix_or_prefix_of_prefix hprefix
      (List.prefix_append front later)).resolve_left hfront
  rcases List.prefix_concat_iff.mp hbehind with hall | ⟨rest, rfl⟩
  · exact absurd (hall ▸ List.prefix_refl _) hfront
  · rw [List.append_assoc, List.prefix_append_right_inj] at hprefix
    exact hprefix.subset (List.mem_append_right rest (List.mem_singleton_self _))

/-- What a bench that has come from `start` remembers of the calls that went
out, none of which took a byte. -/
structure Since (bench start : Bench) (calls : List Call) : Prop where
  terms : bench.terms = start.terms
  received : bench.received = start.received
  dataWritten : bench.dataWritten =
    start.dataWritten + (calls.filterMap Call.data?).length

theorem since_self (bench : Bench) : bench.Since bench [] :=
  ⟨rfl, rfl, rfl⟩

theorem perform_dataWritten (hresponder : bench.responder = true)
    (call : Call) :
    (perform call bench).dataWritten =
      bench.dataWritten + ([call].filterMap Call.data?).length := by
  cases call with
  | writeAddress byte =>
      obtain ⟨pending, htake⟩ := bench.takeAddress_eq byte
      rw [perform, htake]
      rfl
  | writeData byte =>
      rw [perform, takeData, hresponder]
      rfl
  | ack =>
      obtain ⟨pending, hoffer⟩ := bench.offer_eq
      rw [perform, hoffer]
      rfl
  | _ => rfl

theorem Since.responder (h : bench.Since start before)
    (hresponder : start.responder = true) : bench.responder = true :=
  (congrArg Prod.fst h.terms).trans hresponder

theorem Since.concat (h : bench.Since start before)
    (hresponder : start.responder = true) (hcall : call ≠ .readData) :
    (perform call bench).Since start (before ++ [call]) := by
  obtain ⟨hterms, hreceived⟩ := perform_keeps call bench
  rw [if_neg hcall] at hreceived
  refine ⟨hterms.trans h.terms, hreceived.trans h.received, ?_⟩
  rw [perform_dataWritten (h.responder hresponder), h.dataWritten,
    List.filterMap_append, List.length_append, Nat.add_assoc]

theorem Since.run (h : bench.Since start before)
    (hresponder : start.responder = true) (hcalls : .readData ∉ calls) :
    (Device.run calls bench).2.Since start (before ++ calls) := by
  induction calls generalizing bench before with
  | nil =>
      rw [List.append_nil]
      exact h
  | cons call rest ih =>
      rw [List.mem_cons, not_or] at hcalls
      obtain ⟨hcall, hrest⟩ := hcalls
      rw [List.append_cons]
      exact ih (h.concat hresponder (Ne.symm hcall)) hrest

/-- Only data bytes are counted, and they go over the wires. -/
theorem Since.wire (h : bench.Since start calls) :
    bench.Since start (Call.wire calls) := by
  refine ⟨h.terms, h.received, ?_⟩
  rw [Call.filterMap_wire]
  exact h.dataWritten

/-- The flags of an answer are up, on a bus that is still ours. -/
structure Answers (bench : Bench) (refused : Prop) : Prop where
  quiet : Transfer.Quiet bench.pending
  nack : .nackReceived ∈ bench.pending ↔ refused
  ack : ¬ refused → .ackReceived ∈ bench.pending

theorem Answers.acked {refused : Prop} (h : bench.Answers refused)
    (haccepted : ¬ refused) : Transfer.Acked bench.pending :=
  ⟨h.quiet, mt h.nack.mp haccepted, h.ack haccepted⟩

theorem answers_answer (hquiet : Transfer.Quiet bench.pending)
    (hnack : .nackReceived ∉ bench.pending) (refuse : Bool) :
    (bench.answer refuse).Answers (refuse = true) := by
  obtain ⟨hlost, hbroken⟩ := hquiet
  cases refuse with
  | true =>
      constructor
      · simp [Transfer.Quiet, answer, raise, hlost, hbroken]
      · simp [answer, raise]
      · exact fun haccepted => absurd rfl haccepted
  | false =>
      constructor
      · simp [Transfer.Quiet, answer, raise, hlost, hbroken]
      · simp [answer, raise, hnack]
      · simp [answer, raise]

/-- A byte that comes along with an answer does not change it. -/
theorem Answers.offer {refused : Prop} (h : bench.Answers refused) :
    bench.offer.Answers refused := by
  rw [Bench.offer]
  split
  · obtain ⟨⟨hlost, hbroken⟩, hnack, hack⟩ := h
    constructor
    · simp [Transfer.Quiet, raise, hlost, hbroken]
    · simpa [raise] using hnack
    · simpa [raise] using hack
  · exact h

theorem answers_takeAddress (hresponder : bench.responder = true)
    (hquiet : Transfer.Quiet bench.pending)
    (hnack : .nackReceived ∉ bench.pending) (byte : UInt8) :
    (bench.takeAddress byte).Answers (byte ∈ bench.refusedAddresses) := by
  have hanswer := answers_answer hquiet hnack
  by_cases hrefused : byte ∈ bench.refusedAddresses
  · have hrefusal := hanswer true
    rw [eq_true hrefused]
    simpa [takeAddress, hresponder, hrefused] using hrefusal
  · have haccepted := hanswer false
    rw [eq_false hrefused]
    by_cases hodd : byte &&& 1 = 1
    · simpa [takeAddress, hresponder, hrefused, hodd] using haccepted.offer
    · simpa [takeAddress, hresponder, hrefused, hodd] using haccepted

theorem answers_takeData (hresponder : bench.responder = true)
    (hquiet : Transfer.Quiet bench.pending)
    (hnack : .nackReceived ∉ bench.pending) :
    bench.takeData.Answers (bench.refusedData = some bench.dataWritten) := by
  have hanswer := @answers_answer
    { bench with dataWritten := bench.dataWritten + 1 } hquiet hnack
    (bench.refusedData = some bench.dataWritten)
  rw [takeData, if_neg (by simp [hresponder])]
  simpa using hanswer

/-- Each byte is answered as the bench was set up to when the calls began. -/
theorem Since.answers (h : bench.Since start before)
    (hresponder : start.responder = true)
    (hquiet : Transfer.Quiet bench.pending)
    (hnack : .nackReceived ∉ bench.pending)
    (hcall : call.nackSource ≠ .unknown) :
    (perform call bench).Answers (start.Refuses before call) := by
  have hterms := h.terms
  simp only [Bench.terms, Prod.mk.injEq] at hterms
  obtain ⟨_, haddresses, hdata⟩ := hterms
  have hanswers := h.responder hresponder
  cases call with
  | writeAddress byte =>
      rw [Refuses, ← haddresses]
      exact answers_takeAddress hanswers hquiet hnack byte
  | writeData byte =>
      rw [Refuses, ← h.dataWritten, ← hdata]
      exact answers_takeData hanswers hquiet hnack
  | _ => exact absurd rfl hcall

theorem Answers.of_pending {after : Bench} {refused : Prop}
    (h : bench.Answers refused) (hpending : after.pending = bench.pending) :
    after.Answers refused := by
  obtain ⟨hquiet, hnack, hack⟩ := h
  rw [← hpending] at hquiet hnack hack
  exact ⟨hquiet, hnack, hack⟩

/-- The first address byte is answered, whatever was pending before. -/
theorem run_begin_answers (hresponder : bench.responder = true) (byte : UInt8)
    (busy : Bool) :
    let after := (Device.run (Call.beginning busy byte) bench).2
    after.Answers (bench.Refuses [] (.writeAddress byte)) ∧
      after.Since bench (Call.through [] (.writeAddress byte)) := by
  intro after
  obtain ⟨quieted, _, hrun, hpending, hterms, _, hempty⟩ :=
    bench.run_begin byte busy
  simp only [terms, Prod.mk.injEq] at hterms
  obtain ⟨hanswers, haddresses, _⟩ := hterms
  have hanswer := answers_takeAddress (hanswers.trans hresponder)
    ⟨hempty _, hempty _⟩ (hempty _) byte
  rw [haddresses] at hanswer
  constructor
  · apply hanswer.of_pending
    rw [← hpending]
    exact congrArg (fun run => run.2.pending) hrun
  · have hsince := (bench.since_self.run hresponder
      (Call.readData_not_mem_beginning busy byte)).wire
    rw [List.nil_append, Call.wire_beginning] at hsince
    exact hsince

end Bench

namespace Sequence

variable {sequence : Sequence} {kind : Kind} {call : Call}

/-- No byte is sent once data comes in. -/
theorem nackSource_of_mem_takes {count : Nat}
    (h : call ∈ takes count ++ [.stop]) : call.nackSource = .unknown := by
  rcases List.mem_append.mp h with htaken | hstop
  · rcases eq_of_mem_takes htaken with rfl | rfl | rfl
    · rfl
    · rfl
    · rfl
  · rw [List.mem_singleton.mp hstop]
    rfl

end Sequence

namespace Transfer

variable {transfer next : Transfer} {sequence : Sequence} {kind : Kind}
  {stage : Stage} {status : Interrupts} {reaction : Reaction} {call : Call}

/-- A transfer waits for the answer to a data byte in one phase only. -/
theorem Stands.phase_eq_transmit_iff {phase : Phase} {slot : Slot}
    {index : Nat} (h : Stands sequence kind phase slot index stage) :
    phase = .transmit ↔ ∃ position, stage = .sending (position + 1) := by
  cases h with
  | sent hkind hbuffer hslot hfirst hlast =>
      refine iff_of_true rfl ?_
      obtain ⟨rest, rfl⟩ := Nat.exists_eq_add_of_le' hfirst
      cases slot with
      | first => exact ⟨rest, rfl⟩
      | second => exact ⟨sequence.first.bytes.length + rest, rfl⟩
  | _ => simp

/-- A transfer knows what it sent last. -/
theorem InFlight.nackSource_eq (h : transfer.InFlight sequence stage)
    (hanswer : stage.IsAnswerTo call) :
    (if transfer.phase = .transmit then .data else .address) =
      call.nackSource := by
  have hphase := h.stands.phase_eq_transmit_iff
  cases hanswer with
  | sent => exact if_pos (hphase.mpr ⟨_, rfl⟩)
  | _ => exact if_neg (mt hphase.mp (by simp))

/-- A refusal is taken for one wherever an answer is waited for. -/
theorem Handles.eq_refused
    (h : Handles transfer sequence status stage reaction)
    (hanswer : stage.IsAnswerTo call) (hquiet : Quiet status)
    (hnack : .nackReceived ∈ status) : reaction = transfer.refused := by
  cases h with
  | lost hlost => exact absurd hlost hquiet.1
  | broken hlost hbroken => exact absurd hbroken hquiet.2
  | refused hquiet hphase hnack => rfl
  | unanswered hquiet hphase hnone hack => exact absurd hnack hnone
  | opened hacked hnext => exact absurd hnack hacked.2.1
  | onward hacked honward => exact absurd hnack hacked.2.1
  | turned hacked hnext htaking => exact absurd hnack hacked.2.1
  | received hquiet htaking => cases hanswer

/-- The reaction to an answer goes on to the byte of `call`. -/
structure Continues (reaction : Reaction) (sequence : Sequence) (kind : Kind)
    (stage later : Stage) (ahead : List Call) (call : Call) : Prop where
  outcome : reaction.outcome = .inProgress
  calls : reaction.calls =
    [.clearInterrupts {Interrupt.ackReceived}] ++ (ahead ++ [call])
  condition : ahead = [] ∨ ahead = [.repeatedStart]
  runs : reaction.next.Runs sequence kind [] later
  answer : later.IsAnswerTo call
  remaining : sequence.remaining kind stage =
    ahead ++ [call] ++ sequence.remaining kind later
  events : sequence.eventsLeft kind later < sequence.eventsLeft kind stage

theorem Continues.wire {later : Stage} {ahead : List Call}
    (h : Continues reaction sequence kind stage later ahead call) :
    Call.wire reaction.calls = ahead ++ [call] := by
  have hanswer := h.answer
  rw [h.calls]
  rcases h.condition with rfl | rfl
  · cases hanswer <;> rfl
  · cases hanswer <;> rfl

theorem Continues.not_mem {later : Stage} {ahead : List Call}
    (h : Continues reaction sequence kind stage later ahead call) :
    .readData ∉ reaction.calls := by
  rw [h.calls]
  rcases h.condition with rfl | rfl
  · simp [Ne.symm h.answer.ne_readData]
  · simp [Ne.symm h.answer.ne_readData]

/-- On a bench a condition does nothing, so a reaction takes the flag of the
answer down and sends its byte. -/
theorem Continues.run {later : Stage} {ahead : List Call}
    (h : Continues reaction sequence kind stage later ahead call)
    (bench : Bench) :
    (Device.run reaction.calls bench).2 =
      Bench.perform call (bench.lower {Interrupt.ackReceived}) := by
  rw [h.calls]
  rcases h.condition with rfl | rfl
  · rfl
  · rfl

theorem Continues.data {later : Stage} {ahead : List Call}
    (h : Continues reaction sequence kind stage later ahead call) :
    ahead.filterMap Call.data? = [] := by
  rcases h.condition with rfl | rfl
  · rfl
  · rfl

theorem Continues.accepts {later : Stage} {ahead front : List Call}
    (h : Continues reaction sequence kind stage later ahead call)
    {bench : Bench} (haccepts : bench.Accepts front) :
    bench.Accepts (front ++ ahead) := by
  rcases h.condition with rfl | rfl
  · rw [List.append_nil]
    exact haccepts
  · exact haccepts.condition rfl

theorem Onward.continues {position : Nat}
    (h : Onward (sequence.filled kind []) kind position reaction)
    (hruns : transfer.Runs sequence kind [] (.sending position))
    (hmore : ∃ other ∈ sequence.remaining kind (.sending position),
      other.nackSource ≠ .unknown) :
    ∃ later ahead call,
      Continues (reaction.after [.clearInterrupts {Interrupt.ackReceived}])
        sequence kind (.sending position) later ahead call := by
  cases h with
  | sent hbyte hnext =>
      rw [Sequence.filled_sent] at hbyte
      refine ⟨.sending (position + 1), [], .writeData _, rfl, rfl, Or.inl rfl,
        hruns.of_inFlight hnext rfl, .sent,
        Sequence.remaining_sending_of_some hbyte, ?_⟩
      rw [Sequence.eventsLeft_sending_of_some hbyte]
      exact Nat.lt_succ_self _
  | turned hlast hreaddress hnext =>
      rw [Sequence.filled_sent] at hlast
      rw [Sequence.filled_readdresses] at hreaddress
      refine ⟨.turned, [.repeatedStart], .writeAddress (sequence.header true),
        rfl, ?_, Or.inr rfl, hruns.of_inFlight hnext rfl, .turned, ?_, ?_⟩
      · rw [Sequence.filled_header]
        rfl
      · rw [Sequence.remaining_sending_of_none hlast, Sequence.reopening,
          if_pos hreaddress]
        rfl
      · rw [Sequence.eventsLeft_sending_of_none hlast hreaddress]
        exact Nat.lt_succ_self _
  | ended hlast hreaddress hkind hheld hnextKind =>
      rw [Sequence.filled_sent] at hlast
      rw [Sequence.filled_readdresses] at hreaddress
      rw [Sequence.remaining_sending_of_none hlast, Sequence.reopening,
        hreaddress] at hmore
      obtain ⟨other, hother, hsent⟩ := hmore
      exact absurd (Sequence.nackSource_of_mem_takes hother) hsent

/-- After an answer that is no refusal the next byte goes out, if there is one
that can be refused. -/
theorem Handles.continues
    (h : Handles transfer (sequence.filled kind []) status stage reaction)
    (hruns : transfer.Runs sequence kind [] stage) (hacked : Acked status)
    (hmore : ∃ other ∈ sequence.remaining kind stage,
      other.nackSource ≠ .unknown) :
    ∃ later ahead call,
      Continues reaction sequence kind stage later ahead call := by
  cases h with
  | lost hlost => exact absurd hlost hacked.1.1
  | broken hlost hbroken => exact absurd hbroken hacked.1.2
  | refused hquiet hphase hnack => exact absurd hnack hacked.2.1
  | unanswered hquiet hphase hnack hack => exact absurd hacked.2.2 hack
  | opened hacked hnext =>
      refine ⟨.sending 0, [], .writeAddress sequence.lowAddress, rfl, ?_,
        Or.inl rfl, hruns.of_inFlight hnext rfl, .addressed,
        Sequence.remaining_opening sequence kind, ?_⟩
      · rw [Sequence.filled_lowAddress]
        rfl
      · rw [Sequence.eventsLeft_opening]
        exact Nat.lt_succ_self _
  | onward hacked honward =>
      rw [hruns.kind_eq] at honward
      exact honward.continues hruns hmore
  | turned hacked hnext htaking =>
      obtain ⟨other, hother, hsent⟩ := hmore
      exact absurd (Sequence.nackSource_of_mem_takes hother) hsent
  | received hquiet htaking =>
      obtain ⟨other, hother, hsent⟩ := hmore
      exact absurd (Sequence.nackSource_of_mem_takes hother) hsent

end Transfer

namespace Progress

/-- A run that was begun on `start` waits for the answer to the byte of `call`.
It has sent `before`, all of which was accepted. -/
structure Awaits (progress : Progress (Recorder Bench))
    (start : Recorder Bench) (sequence : Sequence) (kind : Kind)
    (stage : Stage) (before : List Call) (call : Call) : Prop where
  outcome : progress.outcome = .inProgress
  runs : progress.transfer.Runs sequence kind [] stage
  answer : stage.IsAnswerTo call
  wire : progress.wire = Call.wire start.calls ++ Call.through before call
  remaining : Call.through before call ++ sequence.remaining kind stage =
    sequence.transcript kind
  accepted : start.device.Accepts before
  answers : progress.host.device.Answers (start.device.Refuses before call)
  since : progress.host.device.Since start.device (Call.through before call)

/-- A run that was begun on `start` has ended with the refusal of the byte of
`call`. -/
structure Refused (progress : Progress (Recorder Bench))
    (start : Recorder Bench) (sequence : Sequence) (kind : Kind)
    (before : List Call) (call : Call) : Prop where
  first : start.device.FirstRefuses (sequence.transcript kind) before call
  result : progress.result? = some (.error (.nack call.nackSource))
  held : progress.transfer.held = some sequence
  begins : sequence.Begins kind (Call.through before call)
  stop : .stop ∉ Call.through before call
  wire : progress.wire =
    Call.wire start.calls ++ (Call.through before call ++ [.stop])
  received : progress.host.device.received = start.device.received

variable {progress : Progress (Recorder Bench)} {start : Recorder Bench}
  {sequence : Sequence} {kind : Kind} {stage : Stage} {before : List Call}
  {call : Call}

/-- What a reaction that takes no byte does on a bench. -/
theorem perform_of_not_mem {reaction : Reaction}
    (hcalls : .readData ∉ reaction.calls) (recorder : Recorder Bench) :
    (Transfer.perform reaction recorder).Makes recorder reaction [] ∧
      (Transfer.perform reaction recorder).host.device =
        (Device.run reaction.calls recorder.device).2 := by
  obtain ⟨bytes, hmakes⟩ := perform_makes reaction recorder
  have hnone := hmakes.count
  rw [List.count_eq_zero.mpr hcalls] at hnone
  obtain rfl := List.eq_nil_of_length_eq_zero hnone
  exact ⟨hmakes, (Recorder.run_device reaction.calls recorder).2⟩

theorem Awaits.next_refused
    (h : progress.Awaits start sequence kind stage before call)
    (hresponder : start.device.responder = true)
    (hrefused : start.device.Refuses before call) :
    progress.next.Refused start sequence kind before call := by
  have hinFlight := h.runs.inFlight
  have hreact := (hinFlight.react_handles progress.host.device.pending).eq_refused
    h.answer h.answers.quiet (h.answers.nack.mpr hrefused)
  have hnext := progress.next_eq
  have hcalls : .readData ∉ progress.transfer.refused.calls := by
    simp [Transfer.refused, Transfer.finish, Transfer.closing]
  obtain ⟨hmakes, hdevice⟩ := perform_of_not_mem hcalls progress.host
  rw [← hreact, ← hnext, hreact] at hmakes hdevice
  have hsource : progress.next.transfer.nackSource = call.nackSource := by
    rw [hmakes.transfer]
    exact hinFlight.nackSource_eq h.answer
  constructor
  · exact ⟨(Call.prefix_through before call).trans ⟨_, h.remaining⟩, hrefused,
      h.accepted⟩
  · rw [result?_of_nack hmakes.outcome, hsource]
  · rw [hmakes.transfer, ← Sequence.filled_nil h.runs.valid]
    exact hinFlight.held
  · exact Sequence.begins_of_append h.remaining
  · exact (Sequence.not_mem_of_append h.remaining h.runs.taken_lt).2
  · rw [hmakes.wire_eq, ← Progress.wire_eq, h.wire, List.append_assoc]
    rfl
  · rw [hdevice]
    exact (h.since.run hresponder hcalls).received

theorem Awaits.next_continues
    (h : progress.Awaits start sequence kind stage before call)
    (hresponder : start.device.responder = true)
    (haccepted : ¬ start.device.Refuses before call)
    (hmore : ∃ other ∈ sequence.remaining kind stage,
      other.nackSource ≠ .unknown) :
    ∃ later ahead next,
      progress.next.Awaits start sequence kind later
        (Call.through before call ++ ahead) next ∧
      Transfer.Continues
        (progress.transfer.react progress.host.device.pending) sequence kind
        stage later ahead next ∧
      progress.next.host.taken = progress.host.taken ∧
      progress.next.host.device = Bench.perform next
        (progress.host.device.lower {Interrupt.ackReceived}) := by
  have hthrough := h.accepted.through haccepted
  have hacked := h.answers.acked haccepted
  obtain ⟨later, ahead, next, hcontinues⟩ :=
    (h.runs.inFlight.react_handles progress.host.device.pending).continues
      h.runs hacked hmore
  have hnext := progress.next_eq
  obtain ⟨hmakes, hdevice⟩ :=
    perform_of_not_mem hcontinues.not_mem progress.host
  rw [← hnext] at hmakes hdevice
  rw [hcontinues.run] at hdevice
  have hbehind : Call.through (Call.through before call ++ ahead) next =
      Call.through before call ++ (ahead ++ [next]) := by
    have hsent := List.append_ne_nil_of_left_ne_nil
      (Call.through_ne_nil before call) ahead
    rw [Call.through_of_ne_nil hsent, List.append_assoc]
  -- the flag of the answer is down again when the next byte goes out
  have hlower : (progress.host.device.lower {Interrupt.ackReceived}).Since
      start.device (Call.through before call ++ ahead) := by
    refine ⟨h.since.terms, h.since.received, ?_⟩
    rw [List.filterMap_append, hcontinues.data, List.append_nil]
    exact h.since.dataWritten
  refine ⟨later, ahead, next, ?_, hcontinues,
    hmakes.taken.trans (List.append_nil _), hdevice⟩
  constructor
  · exact hmakes.outcome.trans hcontinues.outcome
  · rw [hmakes.transfer]
    exact hcontinues.runs
  · exact hcontinues.answer
  · rw [hmakes.wire_eq, ← Progress.wire_eq, h.wire, hcontinues.wire, hbehind,
      List.append_assoc]
  · rw [hbehind, List.append_assoc, ← hcontinues.remaining, h.remaining]
  · exact hcontinues.accepts hthrough
  · rw [hdevice]
    exact hlower.answers hresponder (h.answers.quiet.lower _)
      (hacked.nack_not_mem_lower _) hcontinues.answer.nackSource_ne
  · rw [hdevice, hbehind, ← List.append_assoc]
    exact hlower.concat hresponder hcontinues.answer.ne_readData

/-- An accepted byte is followed by another, if one is still to be refused. -/
theorem Awaits.next_accepted
    (h : progress.Awaits start sequence kind stage before call)
    (hresponder : start.device.responder = true)
    (haccepted : ¬ start.device.Refuses before call)
    (hnot : ¬ start.device.Accepts (sequence.transcript kind)) :
    ∃ later ahead next,
      progress.next.Awaits start sequence kind later
        (Call.through before call ++ ahead) next ∧
      sequence.eventsLeft kind later < sequence.eventsLeft kind stage := by
  have hmore := (h.accepted.through haccepted).exists_mem_of_not
    (h.remaining ▸ hnot)
  obtain ⟨later, ahead, next, hnext, hcontinues, _⟩ :=
    h.next_continues hresponder haccepted hmore
  exact ⟨later, ahead, next, hnext, hcontinues.events⟩

/-- A run with a byte that is refused ends with the first refusal. -/
theorem Awaits.exists_steps_refused
    (h : progress.Awaits start sequence kind stage before call)
    (hresponder : start.device.responder = true)
    (hnot : ¬ start.device.Accepts (sequence.transcript kind)) :
    ∃ before call, ∃ count < sequence.eventsLeft kind stage,
      (∀ step ≤ count, (progress.steps step).outcome = .inProgress) ∧
      (progress.steps (count + 1)).Refused start sequence kind before call := by
  -- every byte that is accepted leaves fewer events to come
  induction hevents : sequence.eventsLeft kind stage using Nat.strongRecOn
    generalizing progress stage before call with
  | _ events ih =>
      by_cases hrefused : start.device.Refuses before call
      · refine ⟨before, call, 0, hevents ▸ h.runs.eventsLeft_pos, ?_,
          h.next_refused hresponder hrefused⟩
        intro step hstep
        obtain rfl := Nat.le_zero.mp hstep
        exact h.outcome
      · obtain ⟨later, ahead, next, hnext, hfewer⟩ :=
          h.next_accepted hresponder hrefused hnot
        obtain ⟨front, last, count, hcount, hsteps, hlast⟩ :=
          ih _ (hevents ▸ hfewer) hnext rfl
        refine ⟨front, last, count + 1, by omega,
          steps_inProgress_succ h.outcome hsteps, ?_⟩
        rw [steps_succ]
        exact hlast

theorem start_device (h : sequence.kind? = some kind) (transfer : Transfer)
    (recorder : Recorder Bench) :
    (transfer.start sequence recorder).host.device =
      (Device.run (Call.beginning recorder.device.busy
        (sequence.header (sequence.readsAtOnce kind))) recorder.device).2 := by
  rw [Transfer.start, Transfer.begin?, h]
  exact (Recorder.run_device _ recorder).2

theorem awaits_start (h : sequence.kind? = some kind) (transfer : Transfer)
    (hresponder : start.device.responder = true) :
    (transfer.start sequence start).Awaits start sequence kind
      (sequence.firstStage kind) []
      (.writeAddress (sequence.header (sequence.readsAtOnce kind))) := by
  obtain ⟨reaction, hmakes, houtcome, hruns, hcalls⟩ :=
    start_makes h transfer start
  have hdevice := start_device h transfer start
  obtain ⟨hanswers, hsince⟩ := Bench.run_begin_answers hresponder
    (sequence.header (sequence.readsAtOnce kind)) start.device.busy
  constructor
  · exact hmakes.outcome.trans houtcome
  · rw [hmakes.transfer]
    exact hruns
  · exact Stage.isAnswerTo_firstStage sequence kind _
  · rw [hmakes.wire_eq, hcalls, Call.wire_beginning]
    rfl
  · exact (Sequence.transcript_eq sequence kind).symm
  · exact Bench.accepts_nil _
  · rw [hdevice]
    exact hanswers
  · rw [hdevice]
    exact hsince

end Progress

namespace Controller

open Log (Logger)

variable {ℓ : Type} [Logger ℓ] {sequence : Sequence} {kind : Kind}

/-- On a target that answers but refuses some byte of a sequence, the sequence
runs up to the first such byte and then stops.  The error tells whether that
byte was an address or data, and nothing has come in. -/
theorem runSequence_of_refused (h : sequence.kind? = some kind)
    (controller : Controller (Recorder Bench) ℓ)
    (hresponder : controller.device.device.responder = true)
    (hrefused : ∃ before call, before ++ [call] <+: sequence.transcript kind ∧
      controller.device.device.Refuses before call)
    {patience : Nat} (hpatience : sequence.eventCount kind ≤ patience) :
    ∃ before call completion,
      controller.device.device.FirstRefuses (sequence.transcript kind) before
        call ∧
      controller.runSequence patience none sequence = some completion ∧
      completion.result = .error (.nack call.nackSource) ∧
      completion.handedBack = sequence ∧
      sequence.Begins kind (Call.through before call) ∧
      .stop ∉ Call.through before call ∧
      let after := completion.controller.device
      Call.wire after.calls = Call.wire controller.device.calls ++
          (Call.through before call ++ [.stop]) ∧
        after.device.received = controller.device.device.received := by
  obtain ⟨front, other, hprefix, hother⟩ := hrefused
  have hnot : ¬ controller.device.device.Accepts (sequence.transcript kind) :=
    fun haccepts => haccepts front other hprefix hother
  have hstart := Progress.awaits_start h {} hresponder
  obtain ⟨before, call, count, hcount, hsteps, hlast⟩ :=
    hstart.exists_steps_refused hresponder hnot
  rw [Sequence.eventsLeft_firstStage] at hcount
  obtain ⟨completion, hcompletion, hresult, hhanded, hdevice⟩ :=
    controller.runSequence_of_steps rfl hsteps hlast.result
      (Nat.lt_of_lt_of_le hcount hpatience)
      (fun limit hlimit => absurd hlimit (Option.not_mem_none limit))
  rw [hlast.held, Option.getD_some] at hhanded
  refine ⟨before, call, completion, hlast.first, hcompletion, hresult, hhanded,
    hlast.begins, hlast.stop, ?_⟩
  have hwire := hlast.wire
  rw [Progress.wire_eq, ← hdevice] at hwire
  have hreceived := hlast.received
  rw [← hdevice] at hreceived
  exact ⟨hwire, hreceived⟩

/-- The eighth data byte of the target's life is refused, the fourth one of this
sequence. -/
theorem runSequence_of_refused_data :
    let bench : Bench :=
      { Bench.withResponder [] with
        pending := .all
        busy := true
        refusedAddresses := [0xa1]
        refusedData := some 7
        dataWritten := 4 }
    let controller : Controller (Recorder Bench) Log.Silent :=
      ⟨{ device := bench }, .standard .one, {}⟩
    let sequence := Sequence.writeWrite 0x50 [1, 2] [3, 4, 5]
    let before : List Call := [.writeAddress 0xa0, .start, .writeData 1,
      .writeData 2, .writeData 3]
    sequence.kind? = some .writeWrite ∧
      bench.FirstRefuses (sequence.transcript .writeWrite) before
        (.writeData 4) ∧
      sequence.eventCount .writeWrite = 6 ∧
      ∃ completion,
        controller.runSequence 6 none sequence = some completion ∧
        completion.result = .error (.nack .data) ∧
        completion.handedBack = sequence ∧
        Call.wire completion.controller.device.calls =
          before ++ [.writeData 4, .stop] := by
  intro bench controller sequence before
  have hkind : sequence.kind? = some .writeWrite := by decide
  have hcount : sequence.eventCount .writeWrite = 6 := by decide
  have hearlier : bench.Accepts before :=
    (((((Bench.accepts_nil bench).concat (by decide)).concat
      (by decide)).concat (by decide)).concat (by decide)).concat (by decide)
  have hfirst : bench.FirstRefuses (sequence.transcript .writeWrite) before
      (.writeData 4) :=
    ⟨by decide, by decide, hearlier⟩
  obtain ⟨front, call, completion, hfront, hrun, hresult, hhanded, _, _, hwire,
      _⟩ :=
    runSequence_of_refused hkind controller rfl
      ⟨before, .writeData 4, hfirst.begins, hfirst.refused⟩
      (Nat.le_of_eq hcount)
  obtain ⟨rfl, rfl⟩ := hfirst.unique hfront
  exact ⟨hkind, hfirst, hcount, completion, hrun, hresult, hhanded, hwire⟩

end Controller

end TwoWire
