/-
Transactions and the sequences they stand for.

Four shapes of operation lists can be asked of a target, each as one sequence.
A transaction of such a shape is the run of its sequence, and gives its bytes
back operation by operation.  Everything else is turned down, with no call to
the device and every buffer as it was.
-/
import Mathlib.Data.List.Forall2
import TwoWire.Controller.Transaction
import TwoWire.Proofs.Budget

namespace TwoWire

open Sequence (Kind Stage)
open Log (Logger)

theorem Progress.outcome_of_result?_eq_none {α : Type} {progress : Progress α}
    (h : progress.result? = none) : progress.outcome = .inProgress := by
  obtain ⟨outcome, transfer, host⟩ := progress
  cases outcome with
  | inProgress => rfl
  | _ => cases h

/-- Only a usage fault is reported as one, and nothing that a step reports is an
unsupported operation. -/
theorem Progress.result?_of_ne_usageFault {α : Type} {progress : Progress α}
    {result : Except Error Unit} (h : progress.result? = some result)
    (houtcome : progress.outcome ≠ .usageFault) :
    result ≠ .error .usageFault ∧ result ≠ .error .unsupportedOperation := by
  obtain ⟨outcome, transfer, host⟩ := progress
  cases outcome with
  | inProgress => cases h
  | usageFault => exact absurd rfl houtcome
  | _ =>
      obtain rfl := Option.some.inj h
      exact ⟨by simp, by simp⟩

/-- A transfer holds `sequence`, with some of its buffer filled. -/
def Transfer.Carries (transfer : Transfer) (sequence : Sequence)
    (kind : Kind) : Prop :=
  ∃ received, received.length ≤ sequence.receiveLength kind ∧
    transfer.held = some (sequence.filled kind received)

namespace Transfer

variable {σ : Type} [Device σ] {transfer : Transfer} {sequence : Sequence}
  {kind : Kind} {received : List UInt8} {stage : Stage}

theorem Runs.carries (h : transfer.Runs sequence kind received stage) :
    transfer.Carries sequence kind :=
  ⟨received, h.room, h.inFlight.held⟩

theorem Runs.step (h : transfer.Runs sequence kind received stage)
    (device : σ) :
    let after := transfer.step device
    after.outcome ≠ .usageFault ∧ after.transfer.Carries sequence kind ∧
      (after.outcome = .inProgress → ∃ received stage,
        after.transfer.Runs sequence kind received stage) := by
  intro after
  obtain ⟨status, bytes, hbytes, houtcome, htransfer⟩ :=
    transfer.step_settles device
  have hhandles := h.inFlight.react_handles status
  rw [houtcome, htransfer]
  refine ⟨hhandles.outcome_ne.2, ?_⟩
  by_cases hrunning : (transfer.react status).outcome = .inProgress
  · obtain ⟨later, hlater, _⟩ := hhandles.runs h hrunning hbytes
    exact ⟨hlater.carries, fun _ => ⟨_, later, hlater⟩⟩
  refine ⟨?_, fun hgoes => absurd hgoes hrunning⟩
  by_cases hdone : (transfer.react status).outcome = .done
  · obtain ⟨hended, hlength, _⟩ := hhandles.done h hdone hbytes
    exact ⟨_, Nat.le_of_eq hlength, hended.held⟩
  · obtain ⟨_, hended, _⟩ := hhandles.failed h hrunning hdone hbytes
    exact ⟨received, h.room, hended.held⟩

end Transfer

namespace Controller

variable {σ ℓ : Type} [Device σ] [Logger ℓ] {controller : Controller σ ℓ}
  {patience : Nat} {budget : Option UInt32} {sequence : Sequence} {kind : Kind}

/-- What becomes of a sequence that can be run: some of its buffer is filled,
and it is not found fault with. -/
theorem drive_carries {transfer : Transfer} {received : List UInt8}
    {stage : Stage} {polls : UInt32} {ended : Completion Transfer σ ℓ}
    (hruns : transfer.Runs sequence kind received stage)
    (hended : drive budget patience polls transfer controller = some ended) :
    ended.handedBack.Carries sequence kind ∧
      ended.result ≠ .error .usageFault ∧
      ended.result ≠ .error .unsupportedOperation := by
  have hadvance : ∀ (transfer : Transfer) (controller : Controller σ ℓ),
      (∃ received stage, transfer.Runs sequence kind received stage) →
      let polled := controller.advance transfer
      polled.outcome ≠ .usageFault ∧
        polled.transfer.Carries sequence kind ∧
        (polled.outcome = .inProgress → ∃ received stage,
          polled.transfer.Runs sequence kind received stage) := by
    rintro transfer controller ⟨received, stage, hruns⟩ polled
    have hstep := hruns.step controller.device
    rw [← controller.bare_advance transfer] at hstep
    exact hstep
  refine drive_elim
    (fun transfer _ => ∃ received stage,
      transfer.Runs sequence kind received stage)
    (fun ended => ended.handedBack.Carries sequence kind ∧
      ended.result ≠ .error .usageFault ∧
      ended.result ≠ .error .unsupportedOperation)
    ?_ ?_ ?_ ⟨received, stage, hruns⟩ hended
  · intro transfer controller hruns hnone
    exact (hadvance transfer controller hruns).2.2
      (Progress.outcome_of_result?_eq_none hnone)
  · intro transfer controller result hruns hresult
    obtain ⟨houtcome, hcarries, _⟩ := hadvance transfer controller hruns
    exact ⟨hcarries, Progress.result?_of_ne_usageFault hresult houtcome⟩
  · rintro transfer controller ⟨received, stage, hruns⟩
    exact ⟨hruns.carries, nofun, nofun⟩

theorem runSequence_carries (h : sequence.kind? = some kind)
    {ran : Completion Sequence σ ℓ}
    (hran : controller.runSequence patience budget sequence = some ran) :
    (∃ received, received.length ≤ sequence.receiveLength kind ∧
      ran.handedBack = sequence.filled kind received) ∧
    ran.result ≠ .error .usageFault ∧
    ran.result ≠ .error .unsupportedOperation := by
  obtain ⟨hrunning, hruns⟩ := Transfer.start_runs h {} controller.device
  rw [controller.runSequence_of_inProgress patience budget hrunning,
    Option.map_eq_some_iff] at hran
  obtain ⟨ended, hended, rfl⟩ := hran
  obtain ⟨⟨received, hroom, hheld⟩, hresult⟩ := drive_carries hruns hended
  refine ⟨⟨received, hroom, ?_⟩, hresult⟩
  rw [hheld]
  rfl

end Controller

theorem Sequence.Flags.kind?_ofKind (kind : Kind) :
    (ofKind kind).kind? = some kind ∧ (ofKind kind).isTenBit = false := by
  cases kind <;> decide

theorem Sequence.Flags.kind?_tenBitAddress (kind : Kind) :
    (ofKind kind ∪ tenBitAddress).kind? = some kind ∧
      (ofKind kind ∪ tenBitAddress).isTenBit = true := by
  cases kind <;> decide

/-- What becomes of an operation: what was to be sent is as it was, and a buffer
to be filled is as long as it was. -/
inductive Operation.Refills : Operation → Operation → Prop where
  | write (bytes : List UInt8) : Refills (.write bytes) (.write bytes)
  | read {buffer filled : List UInt8} : filled.length = buffer.length →
      Refills (.read buffer) (.read filled)

namespace Target

variable {target : Target} {operations : List Operation} {sequence : Sequence}
  {kind : Kind} {received : List UInt8}

def address : Target → UInt16
  | sevenBit address => address.toUInt16
  | tenBit address => address

def isTenBit : Target → Bool
  | sevenBit _ => false
  | tenBit _ => true

def maxAddress : Target → UInt16
  | sevenBit _ => 0x7f
  | tenBit _ => 0x3ff

/-- The same sequence with an address as wide as that of the target. -/
def aim : Target → Sequence → Sequence
  | sevenBit _, sequence => sequence
  | tenBit _, sequence => sequence.toTenBit

inductive Asks (target : Target) : List Operation → Sequence → Prop where
  | write (bytes : List UInt8) :
      Asks target [.write bytes] (target.aim (.write target.address bytes))
  | read (buffer : List UInt8) :
      Asks target [.read buffer] (target.aim (.read target.address buffer))
  | writeRead (bytes buffer : List UInt8) :
      Asks target [.write bytes, .read buffer]
        (target.aim (.writeRead target.address bytes buffer))
  | writeWrite (bytes more : List UInt8) :
      Asks target [.write bytes, .write more]
        (target.aim (.writeWrite target.address bytes more))

theorem Asks.ne_nil (h : target.Asks operations sequence) :
    operations ≠ [] := by
  cases h <;> exact List.cons_ne_nil _ _

theorem sequence?_eq (target : Target) (operations : List Operation) :
    target.sequence? operations =
      (Sequence.ofOperations? target.address operations).map target.aim := by
  cases target with
  | sevenBit address => exact (congrFun Option.map_id _).symm
  | tenBit address => rfl

/-- Nothing else is run than what the operations ask for. -/
theorem sequence?_eq_some_iff :
    target.sequence? operations = some sequence ↔
      target.Asks operations sequence := by
  rw [sequence?_eq]
  constructor
  · intro h
    obtain ⟨plain, hplain, rfl⟩ := Option.map_eq_some_iff.mp h
    unfold Sequence.ofOperations? at hplain
    split at hplain
    · obtain rfl := Option.some.inj hplain
      exact .write _
    · obtain rfl := Option.some.inj hplain
      exact .read _
    · obtain rfl := Option.some.inj hplain
      exact .writeRead _ _
    · obtain rfl := Option.some.inj hplain
      exact .writeWrite _ _
    · cases hplain
  · intro h
    cases h <;> rfl

theorem sequence?_eq_none_iff :
    target.sequence? operations = none ↔
      ∀ sequence, ¬ target.Asks operations sequence := by
  simp only [← sequence?_eq_some_iff, Option.eq_none_iff_forall_ne_some]

theorem operations_aim (target : Target) (sequence : Sequence) (count : Nat) :
    (target.aim sequence).operations count = sequence.operations count := by
  cases target with
  | sevenBit address => rfl
  | tenBit address => rfl

/-- The sequence has the buffers of the operations, in their order. -/
theorem Asks.operations_eq (h : target.Asks operations sequence) :
    sequence.operations operations.length = operations := by
  rw [← sequence?_eq_some_iff, sequence?_eq, Option.map_eq_some_iff] at h
  obtain ⟨plain, hplain, rfl⟩ := h
  rw [operations_aim]
  exact Sequence.operations_of_ofOperations? hplain

theorem aim_buffers (target : Target) (sequence : Sequence) :
    (target.aim sequence).address = sequence.address ∧
      (target.aim sequence).first = sequence.first ∧
      (target.aim sequence).second = sequence.second := by
  cases target with
  | sevenBit address => exact ⟨rfl, rfl, rfl⟩
  | tenBit address => exact ⟨rfl, rfl, rfl⟩

/-- The width of the address does not change the kind. -/
theorem aim_flags (target : Target) (h : sequence.flags = .ofKind kind) :
    (target.aim sequence).flags.kind? = some kind ∧
      (target.aim sequence).isTenBit = target.isTenBit := by
  cases target with
  | sevenBit address =>
      rw [aim, Sequence.isTenBit, h]
      exact Sequence.Flags.kind?_ofKind kind
  | tenBit address =>
      rw [aim, Sequence.isTenBit, Sequence.toTenBit, h]
      exact Sequence.Flags.kind?_tenBitAddress kind

/-- What decides whether the sequence can be run is what the target and the
operations say. -/
theorem Asks.parts (h : target.Asks operations sequence) :
    ∃ kind, sequence.flags.kind? = some kind ∧
      sequence.address = target.address ∧
      sequence.isTenBit = target.isTenBit ∧
      (sequence.fits kind = true ↔ .read [] ∉ operations) := by
  -- only what the shape makes of the buffers differs from case to case
  have hparts : ∀ (kind : Kind) (plain : Sequence),
      plain.flags = .ofKind kind → plain.address = target.address →
      (plain.fits kind = true ↔ .read [] ∉ operations) →
      ∃ kind, (target.aim plain).flags.kind? = some kind ∧
        (target.aim plain).address = target.address ∧
        (target.aim plain).isTenBit = target.isTenBit ∧
        ((target.aim plain).fits kind = true ↔ .read [] ∉ operations) := by
    intro kind plain hflags haddress hfits
    obtain ⟨hkind, hwide⟩ := target.aim_flags hflags
    obtain ⟨hsame, hfirst, hsecond⟩ := target.aim_buffers plain
    refine ⟨kind, hkind, hsame.trans haddress, hwide, ?_⟩
    rw [← hfits]
    cases kind <;> simp only [Sequence.fits, hfirst, hsecond]
  cases h with
  | write bytes =>
      refine hparts .write _ rfl rfl (iff_of_true rfl ?_)
      simp
  | read buffer =>
      refine hparts .read _ rfl rfl ?_
      simp [Sequence.read, Sequence.fits, Sequence.Buffer.canReceive]
  | writeRead bytes buffer =>
      refine hparts .writeRead _ rfl rfl ?_
      simp [Sequence.writeRead, Sequence.fits, Sequence.Buffer.isTransmit,
        Sequence.Buffer.canReceive]
  | writeWrite bytes more =>
      refine hparts .writeWrite _ rfl rfl (iff_of_true rfl ?_)
      simp

theorem Asks.kind?_isSome_iff (h : target.Asks operations sequence) :
    sequence.kind?.isSome = true ↔
      target.address ≤ target.maxAddress ∧ .read [] ∉ operations := by
  obtain ⟨kind, hkind, haddress, hwide, hfits⟩ := h.parts
  have hmax : sequence.maxAddress = target.maxAddress := by
    rw [Sequence.maxAddress, hwide]
    cases target <;> rfl
  simp only [Option.isSome_iff_exists, Sequence.kind?_eq_some_iff, hkind,
    haddress, hmax, ← hfits]
  simp

theorem filled_aim (target : Target) (sequence : Sequence) (kind : Kind)
    (received : List UInt8) :
    (target.aim sequence).filled kind received =
      target.aim (sequence.filled kind received) := by
  cases target with
  | sevenBit address => rfl
  | tenBit address => cases kind <;> rfl

/-- What the sequence of some operations hands back is what the same operations
hand back, with as many bytes in every buffer as there were. -/
theorem Asks.filled (h : target.Asks operations sequence)
    (hkind : sequence.kind? = some kind)
    (hroom : received.length ≤ sequence.receiveLength kind) :
    let after := sequence.filled kind received
    target.Asks (after.operations operations.length) after ∧
      List.Forall₂ Operation.Refills operations
        (after.operations operations.length) := by
  have hflags := (Sequence.kind?_eq_some_iff.mp hkind).1
  have hlength : ∀ buffer : List UInt8, received.length ≤ buffer.length →
      (received ++ buffer.drop received.length).length = buffer.length := by
    intro buffer hle
    rw [List.length_append, List.length_drop]
    omega
  -- the kind that was found is the one that the shape stands for
  have hsame : ∀ (shape : Kind) (plain : Sequence),
      sequence = target.aim plain → plain.flags = .ofKind shape →
      kind = shape := by
    rintro shape plain rfl hplain
    exact Option.some.inj (hflags.symm.trans (target.aim_flags hplain).1)
  cases h with
  | write bytes =>
      obtain rfl := hsame .write _ rfl rfl
      simp only [filled_aim, operations_aim]
      exact ⟨.write bytes, .cons (.write bytes) .nil⟩
  | read buffer =>
      obtain rfl := hsame .read _ rfl rfl
      simp only [filled_aim, operations_aim]
      have hfits : received.length ≤ buffer.length := by
        cases target <;> exact hroom
      exact ⟨.read _, .cons (.read (hlength buffer hfits)) .nil⟩
  | writeRead bytes buffer =>
      obtain rfl := hsame .writeRead _ rfl rfl
      simp only [filled_aim, operations_aim]
      have hfits : received.length ≤ buffer.length := by
        cases target <;> exact hroom
      exact ⟨.writeRead bytes _,
        .cons (.write bytes) (.cons (.read (hlength buffer hfits)) .nil)⟩
  | writeWrite bytes more =>
      obtain rfl := hsame .writeWrite _ rfl rfl
      simp only [filled_aim, operations_aim]
      exact ⟨.writeWrite bytes more,
        .cons (.write bytes) (.cons (.write more) .nil)⟩

end Target

namespace Controller

variable {σ ℓ : Type} [Device σ] [Logger ℓ] {controller : Controller σ ℓ}
  {patience : Nat} {target : Target} {operations : List Operation}
  {sequence : Sequence}

theorem transaction_of_nil (controller : Controller σ ℓ) (patience : Nat)
    (target : Target) (h : operations = []) :
    controller.transaction patience target operations =
      some ⟨.ok (), [], controller⟩ :=
  if_pos h

theorem transaction_of_unsupported (controller : Controller σ ℓ)
    (patience : Nat) (hsome : operations ≠ [])
    (h : ∀ sequence, ¬ target.Asks operations sequence) :
    controller.transaction patience target operations =
      some ⟨.error .unsupportedOperation, operations,
        controller.note .unsupported⟩ := by
  rw [transaction, if_neg hsome, Target.sequence?_eq_none_iff.mpr h]

/-- A transaction of a known shape is the run of its sequence. -/
theorem transaction_of_asks (controller : Controller σ ℓ) (patience : Nat)
    (h : target.Asks operations sequence) :
    controller.transaction patience target operations =
      (controller.runSequence patience none sequence).map fun ended =>
        { ended with
          handedBack := ended.handedBack.operations operations.length } := by
  rw [transaction, if_neg h.ne_nil, Target.sequence?_eq_some_iff.mpr h]

theorem transaction_of_invalid (controller : Controller σ ℓ) (patience : Nat)
    (h : target.Asks operations sequence)
    (hnot : ¬ (target.address ≤ target.maxAddress ∧ .read [] ∉ operations)) :
    controller.transaction patience target operations =
      some ⟨.error .usageFault, operations,
        controller.note (.rejected sequence.address sequence.flags)⟩ := by
  have hinvalid : sequence.kind? = none := by
    rw [← Option.not_isSome_iff_eq_none, h.kind?_isSome_iff]
    exact hnot
  have hstart := Transfer.start_of_invalid hinvalid {} controller.device
  rw [transaction_of_asks _ _ h, runSequence, start, hstart]
  exact congrArg (fun handedBack => some (Completion.mk _ handedBack _))
    h.operations_eq

/-- What comes of a sequence that can be run comes of the operations that ask
for it. -/
theorem transaction_of_valid (h : target.Asks operations sequence)
    (hrunnable : target.address ≤ target.maxAddress ∧ .read [] ∉ operations)
    {ran : Completion Sequence σ ℓ}
    (hran : controller.runSequence patience none sequence = some ran) :
    ∃ handedBack,
      controller.transaction patience target operations =
        some ⟨ran.result, handedBack, ran.controller⟩ ∧
      target.Asks handedBack ran.handedBack ∧
      operations.Forall₂ Operation.Refills handedBack ∧
      ran.result ≠ .error .usageFault ∧
      ran.result ≠ .error .unsupportedOperation := by
  obtain ⟨kind, hkind⟩ :=
    Option.isSome_iff_exists.mp (h.kind?_isSome_iff.mpr hrunnable)
  obtain ⟨⟨received, hroom, hhanded⟩, hresult⟩ :=
    runSequence_carries hkind hran
  obtain ⟨hasks, hrefills⟩ := h.filled hkind hroom
  rw [← hhanded] at hasks hrefills
  refine ⟨_, ?_, hasks, hrefills, hresult⟩
  rw [transaction_of_asks _ _ h, hran]
  rfl

/-- Which of the two errors of a caller is reported, and when. -/
theorem transaction_error_iff {ended : Completion (List Operation) σ ℓ}
    (h : controller.transaction patience target operations = some ended) :
    let supported := ∃ sequence, target.Asks operations sequence
    let runnable :=
      target.address ≤ target.maxAddress ∧ .read [] ∉ operations
    (ended.result = .error .unsupportedOperation ↔
      operations ≠ [] ∧ ¬ supported) ∧
    (ended.result = .error .usageFault ↔ supported ∧ ¬ runnable) := by
  intro supported runnable
  by_cases hsupported : supported
  · obtain ⟨sequence, hasks⟩ := hsupported
    by_cases hrunnable : runnable
    · have hasked := transaction_of_asks controller patience hasks
      obtain ⟨ran, hran, rfl⟩ :=
        Option.map_eq_some_iff.mp (hasked.symm.trans h)
      obtain ⟨_, _, _, _, husage, hunsupported⟩ :=
        transaction_of_valid hasks hrunnable hran
      exact ⟨iff_of_false hunsupported fun hnot => hnot.2 ⟨sequence, hasks⟩,
        iff_of_false husage fun hnot => hnot.2 hrunnable⟩
    · have hinvalid :=
        transaction_of_invalid controller patience hasks hrunnable
      obtain rfl := Option.some.inj (hinvalid.symm.trans h)
      exact ⟨iff_of_false (by simp) fun hnot => hnot.2 ⟨sequence, hasks⟩,
        iff_of_true rfl ⟨⟨sequence, hasks⟩, hrunnable⟩⟩
  · by_cases hnil : operations = []
    · have hempty := transaction_of_nil controller patience target hnil
      obtain rfl := Option.some.inj (hempty.symm.trans h)
      exact ⟨iff_of_false nofun fun hsome => hsome.1 hnil,
        iff_of_false nofun fun hshape => hsupported hshape.1⟩
    · have hunsupported := transaction_of_unsupported controller patience
        hnil (not_exists.mp hsupported)
      obtain rfl := Option.some.inj (hunsupported.symm.trans h)
      exact ⟨iff_of_true rfl ⟨hnil, hsupported⟩,
        iff_of_false (by simp) fun hshape => hsupported hshape.1⟩

/-- A transaction is the sequence that its operations ask for, if there is one
and it can be run.  Nothing else gets as far as the device or changes a buffer,
and the error tells why. -/
theorem transaction_runs_sequence (controller : Controller σ ℓ)
    (patience : Nat) (target : Target) (operations : List Operation) :
    let transaction := controller.transaction patience target operations
    let supported := ∃ sequence, target.Asks operations sequence
    let runnable :=
      target.address ≤ target.maxAddress ∧ .read [] ∉ operations
    (operations = [] → transaction = some ⟨.ok (), [], controller⟩) ∧
    (operations ≠ [] → ¬ supported →
      transaction = some ⟨.error .unsupportedOperation, operations,
        { controller with log := Log.note .unsupported controller.log }⟩) ∧
    (∀ sequence, target.Asks operations sequence →
      sequence.isTenBit = target.isTenBit ∧
      (¬ runnable →
        let notice := .rejected sequence.address sequence.flags
        transaction = some ⟨.error .usageFault, operations,
          { controller with log := Log.note notice controller.log }⟩) ∧
      (runnable →
        let run := controller.runSequence patience none sequence
        (run = none → transaction = none) ∧
        ∀ ran, run = some ran → ∃ handedBack,
          transaction = some ⟨ran.result, handedBack, ran.controller⟩ ∧
          target.Asks handedBack ran.handedBack ∧
          operations.Forall₂ Operation.Refills handedBack)) ∧
    (∀ ended, transaction = some ended →
      (ended.result = .error .unsupportedOperation ↔
        operations ≠ [] ∧ ¬ supported) ∧
      (ended.result = .error .usageFault ↔ supported ∧ ¬ runnable)) ∧
    (∀ bytes, controller.write patience target bytes =
      controller.transaction patience target [.write bytes]) ∧
    (∀ buffer, controller.read patience target buffer =
      controller.transaction patience target [.read buffer]) ∧
    ∀ bytes buffer, controller.writeRead patience target bytes buffer =
      controller.transaction patience target [.write bytes, .read buffer] := by
  intro transaction supported runnable
  refine ⟨transaction_of_nil controller patience target, ?_, ?_,
    fun _ => transaction_error_iff, fun _ => rfl, fun _ => rfl,
    fun _ _ => rfl⟩
  · intro hsome hnot
    exact transaction_of_unsupported controller patience hsome
      (not_exists.mp hnot)
  · intro sequence hasks
    obtain ⟨_, _, _, hwide, _⟩ := hasks.parts
    refine ⟨hwide, ?_, ?_⟩
    · intro hnot
      exact transaction_of_invalid controller patience hasks hnot
    · intro hrunnable run
      refine ⟨?_, ?_⟩
      · intro hnone
        exact (transaction_of_asks controller patience hasks).trans
          (congrArg (Option.map _) hnone)
      · intro ran hran
        obtain ⟨handedBack, htransaction, hback, hrefills, _⟩ :=
          transaction_of_valid hasks hrunnable hran
        exact ⟨handedBack, htransaction, hback, hrefills⟩

/-- A register of a target with a ten-bit address is read. -/
theorem transaction_runs_sequence_tenBit :
    let controller : Controller Bench Log.Silent :=
      ⟨Bench.withResponder [7, 8], .standard .one, {}⟩
    let target := Target.tenBit 0x2a5
    let operations : List Operation := [.write [0x10], .read [0, 0]]
    let sequence := (Sequence.writeRead 0x2a5 [0x10] [0, 0]).toTenBit
    target.Asks operations sequence ∧ target.address ≤ target.maxAddress ∧
      .read [] ∉ operations ∧
      ∃ ran handedBack,
        controller.runSequence 6 none sequence = some ran ∧
        controller.transaction 6 target operations =
          some ⟨ran.result, handedBack, ran.controller⟩ ∧
        target.Asks handedBack ran.handedBack ∧
        operations.Forall₂ Operation.Refills handedBack := by
  intro controller target operations sequence
  have hasks : target.Asks operations sequence := .writeRead [0x10] [0, 0]
  have haddress : target.address ≤ target.maxAddress := by decide
  have hroom : .read [] ∉ operations := by decide
  have hends : (controller.runSequence 6 none sequence).isSome = true := by
    decide
  obtain ⟨ran, hran⟩ := Option.isSome_iff_exists.mp hends
  obtain ⟨_, hruns⟩ :=
    ((transaction_runs_sequence controller 6 target operations).2.2.1
      sequence hasks).2.2 ⟨haddress, hroom⟩
  obtain ⟨handedBack, htransaction, hback, hrefills⟩ := hruns ran hran
  exact ⟨hasks, haddress, hroom, ran, handedBack, hran, htransaction, hback,
    hrefills⟩

end Controller

end TwoWire
