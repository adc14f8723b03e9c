/-
Which sources may interrupt, and when.

A transfer enables its own five sources when it begins and disables them when it
ends, whichever way that is.  It never touches those that somebody else has
enabled.  What a device enables is a word here, so that one argument covers the
set of a bench and the register of a chip with whatever else is in it.
-/
import TwoWire.Bench.Script
import TwoWire.Controller.Transaction
import TwoWire.Proofs.Budget
import TwoWire.Proofs.Reply
import TwoWire.Proofs.Target
import TwoWire.Registers.Block

namespace TwoWire

open Sequence (Kind)
open Log (Logger)

def Call.changesSources : Call → Bool
  | .reset | .enableInterrupts _ | .disableInterrupts _ => true
  | _ => false

theorem Call.changesSources_of_isReply {call : Call}
    (h : call.isReply = true) : call.changesSources = false := by
  cases call with
  | reset => exact absurd h Bool.false_ne_true
  | enableInterrupts set => exact absurd h Bool.false_ne_true
  | disableInterrupts set => exact absurd h Bool.false_ne_true
  | _ => rfl

theorem Interrupts.not_transfer_and_transfer :
    ~~~transfer.bits &&& transfer.bits = 0#32 := by
  decide

theorem Interrupts.or_transfer_and_transfer (word : BitVec 32) :
    (word ||| transfer.bits) &&& transfer.bits = transfer.bits := by
  apply BitVec.eq_of_getLsbD_eq
  intro index _
  rw [BitVec.getLsbD_and, BitVec.getLsbD_or]
  cases word.getLsbD index with
  | false => exact Bool.and_self _
  | true => rfl

variable {σ : Type} [Device σ]

/-- The bits of `mask` are what the device has enabled.  Bits of no source
count if the device keeps them. -/
structure IsMask (mask : σ → BitVec 32) : Prop where
  enable : ∀ device,
    mask (Device.perform (.enableInterrupts .transfer) device) =
      mask device ||| Interrupts.transfer.bits
  disable : ∀ device,
    mask (Device.perform (.disableInterrupts .transfer) device) =
      mask device &&& ~~~Interrupts.transfer.bits
  other : ∀ call device, call.changesSources = false →
    mask (Device.perform call device) = mask device
  status : ∀ device, mask (Device.status device).2 = mask device

/-- The last calls that were made have quieted the sources of a transfer. -/
def Quieted (device : σ) : Prop :=
  ∃ before, device = (Device.run Transfer.closing before).2

namespace IsMask

variable {mask : σ → BitVec 32} {calls : List Call}

theorem run (h : IsMask mask)
    (hcalls : ∀ call ∈ calls, call.changesSources = false) (device : σ) :
    mask (Device.run calls device).2 = mask device := by
  induction calls generalizing device with
  | nil => rfl
  | cons call rest ih =>
      rw [List.forall_mem_cons] at hcalls
      exact (ih hcalls.2 _).trans (h.other call device hcalls.1)

theorem run_closing (h : IsMask mask) (device : σ) :
    mask (Device.run Transfer.closing device).2 =
      mask device &&& ~~~Interrupts.transfer.bits := by
  have hclear := h.other (.clearInterrupts .transfer)
    (Device.perform (.disableInterrupts .transfer) device) rfl
  exact hclear.trans (h.disable device)

theorem run_beginning (h : IsMask mask) (busy : Bool) (byte : UInt8)
    (device : σ) :
    mask (Device.run (Call.beginning busy byte) device).2 =
      mask device ||| Interrupts.transfer.bits := by
  let front : List Call := (if busy then [.abort] else []) ++
    [.clearTransmit, .clearInterrupts .all]
  let back : List Call := [.writeAddress byte, .start]
  have hsplit : Call.beginning busy byte =
      front ++ .enableInterrupts .transfer :: back := by
    simp [Call.beginning, front, back]
  have hfront : ∀ call ∈ front, call.changesSources = false := by
    cases busy <;> simp [front, Call.changesSources]
  have hback : ∀ call ∈ back, call.changesSources = false := by
    simp [back, Call.changesSources]
  rw [hsplit, Device.run_append]
  simp only [Device.run]
  rw [h.run hback, h.enable, h.run hfront]

theorem of_quieted (h : IsMask mask) {device : σ} (hquieted : Quieted device) :
    mask device &&& Interrupts.transfer.bits = 0#32 := by
  obtain ⟨before, rfl⟩ := hquieted
  rw [h.run_closing, BitVec.and_assoc, Interrupts.not_transfer_and_transfer,
    BitVec.and_zero]

end IsMask

def Bench.mask (bench : Bench) : BitVec 32 :=
  (bench.enabled ∩ .all).bits

/-- Flags come up without anybody's doing. -/
theorem Bench.mask_raise (bench : Bench) (set : Interrupts) :
    (bench.raise set).mask = bench.mask :=
  rfl

theorem Bench.enabled_perform {call : Call} (h : call.changesSources = false)
    (bench : Bench) : (perform call bench).enabled = bench.enabled := by
  cases call with
  | writeAddress byte =>
      obtain ⟨pending, htake⟩ := bench.takeAddress_eq byte
      rw [perform, htake]
  | writeData byte =>
      obtain ⟨pending, dataWritten, htake⟩ := bench.takeData_eq
      rw [perform, htake]
  | ack =>
      obtain ⟨pending, hoffer⟩ := bench.offer_eq
      rw [perform, hoffer]
  | reset => exact absurd rfl (ne_true_of_eq_false h)
  | enableInterrupts set => exact absurd rfl (ne_true_of_eq_false h)
  | disableInterrupts set => exact absurd rfl (ne_true_of_eq_false h)
  | _ => rfl

theorem Bench.isMask : IsMask mask := by
  have htransfer : Interrupts.transfer.bits &&& Interrupts.all.bits =
      Interrupts.transfer.bits := by decide
  constructor
  · intro bench
    have hbits : (bench.enabled.bits ||| Interrupts.transfer.bits) &&&
        Interrupts.all.bits =
          bench.enabled.bits &&& Interrupts.all.bits |||
            Interrupts.transfer.bits := by
      rw [BitVec.and_or_distrib_right, htransfer]
    exact hbits
  · intro bench
    have hbits : (bench.enabled.bits &&&
        (~~~Interrupts.transfer.bits &&& Interrupts.all.bits)) &&&
          Interrupts.all.bits =
        (bench.enabled.bits &&& Interrupts.all.bits) &&&
          ~~~Interrupts.transfer.bits := by
      rw [BitVec.and_assoc, BitVec.and_assoc, BitVec.and_self, BitVec.and_assoc,
        BitVec.and_comm Interrupts.all.bits]
    exact hbits
  · intro call bench h
    exact congrArg (fun set : Interrupts => (set ∩ .all).bits)
      (enabled_perform h bench)
  · exact fun _ => rfl

namespace Registers

/-- The enable register of the first generation, all of it. -/
def Block.mask (block : Block .one) : BitVec 32 :=
  block.memory (layout .one).enables

theorem Block.isMask : IsMask mask := by
  constructor
  · intro block
    rfl
  · intro block
    rfl
  · intro call block h
    apply Memory.storeAll_of_forall_ne
    cases call with
    | reset => exact absurd rfl (ne_true_of_eq_false h)
    | enableInterrupts set => exact absurd rfl (ne_true_of_eq_false h)
    | disableInterrupts set => exact absurd rfl (ne_true_of_eq_false h)
    | _ => simp [writes, putEnabled, putFlags, layout, flagSet, flagClear]
  · exact fun _ => rfl

end Registers

theorem Scripted.isMask {mask : σ → BitVec 32} (h : IsMask mask) :
    IsMask fun scripted : Scripted σ => mask scripted.device := by
  constructor
  · exact fun scripted => h.enable scripted.device
  · exact fun scripted => h.disable scripted.device
  · exact fun call scripted => h.other call scripted.device
  · exact fun scripted => h.status scripted.device

namespace Transfer

variable {mask : σ → BitVec 32} {transfer : Transfer} {sequence : Sequence}

theorem foldl_store_phase (bytes : List UInt8) (transfer : Transfer) :
    (bytes.foldl store transfer).phase = transfer.phase := by
  obtain ⟨_, _, hstored⟩ := foldl_store_eq bytes transfer
  rw [hstored]

/-- The transfer stays in flight, and what is enabled stays enabled. -/
structure GoesOn (mask : σ → BitVec 32) (before : BitVec 32)
    (progress : Progress σ) : Prop where
  outcome : progress.outcome = .inProgress
  phase : progress.transfer.phase ≠ .idle
  mask : mask progress.host = before

/-- The transfer is over, and so are its interrupts. -/
structure Closes (mask : σ → BitVec 32) (before : BitVec 32)
    (progress : Progress σ) : Prop where
  outcome : progress.outcome ≠ .inProgress
  phase : progress.transfer.phase = .idle
  quieted : Quieted progress.host
  mask : mask progress.host = before &&& ~~~Interrupts.transfer.bits

theorem perform_goesOn_or_closes (h : IsMask mask) {reaction : Reaction}
    (hregular : reaction.Regular) (device : σ) :
    GoesOn mask (mask device) (perform reaction device) ∨
      Closes mask (mask device) (perform reaction device) := by
  have hreplies : ∀ {calls : List Call}, Call.Replies calls →
      mask (Device.run calls device).2 = mask device := by
    intro calls hcalls
    apply h.run
    intro call hcall
    exact Call.changesSources_of_isReply (hcalls.1 call hcall)
  cases hregular with
  | waits hactive hcalls =>
      refine Or.inl ⟨rfl, ?_, hreplies hcalls⟩
      rw [perform, foldl_store_phase]
      exact hactive
  | @ends transfer outcome calls hover hcalls =>
      have hhost : (perform (transfer.finish outcome calls) device).host =
          (Device.run closing (Device.run calls device).2).2 := by
        simp only [perform, finish, Device.run_append]
      refine Or.inr ⟨hover, ?_, ⟨_, hhost⟩, ?_⟩
      · rw [perform, foldl_store_phase]
        rfl
      · rw [hhost, h.run_closing, hreplies hcalls]

/-- Whatever it is shown, a transfer goes on or quiets its sources. -/
theorem step_goesOn_or_closes (h : IsMask mask) (transfer : Transfer)
    (device : σ) :
    GoesOn mask (mask device) (transfer.step device) ∨
      Closes mask (mask device) (transfer.step device) := by
  rw [step]
  split
  · rw [← h.status device]
    exact perform_goesOn_or_closes h (transfer.react_regular _) _
  · exact perform_goesOn_or_closes h (transfer.react_regular _) _

theorem quieted_of_ended (h : IsMask mask) {device : σ}
    (hended : (transfer.step device).outcome ≠ .inProgress) :
    Quieted (transfer.step device).host := by
  rcases step_goesOn_or_closes h transfer device with hgoes | hcloses
  · exact absurd hgoes.outcome hended
  · exact hcloses.quieted

theorem step_outcome_of_idle (hidle : transfer.phase = .idle) (device : σ) :
    (transfer.step device).outcome = .softwareFault := by
  rw [step_of_idle hidle, react_of_idle hidle]
  rfl

theorem start_goesOn (h : IsMask mask) {kind : Kind}
    (hkind : sequence.kind? = some kind) (transfer : Transfer) (device : σ) :
    GoesOn mask (mask device ||| Interrupts.transfer.bits)
      (transfer.start sequence device) := by
  obtain ⟨reaction, hbegin, houtcome, hruns, hcalls⟩ :=
    begin?_of_valid hkind (Device.busy device)
  rw [start_of_begin? hbegin]
  refine ⟨houtcome, ?_, ?_⟩
  · rw [perform, foldl_store_phase]
    exact hruns.inFlight.stands.phase_ne_idle
  · rw [perform, hcalls, h.run_beginning]

end Transfer

/-- A device that one transfer drives, and that nobody else enables sources
of.  The flag tells whether a step has ended the transfer and none was begun
since. -/
inductive Driven (mask : σ → BitVec 32) (first : σ) :
    Bool → Transfer → σ → Prop where
  | new : Driven mask first false {} first
  /-- Whatever flags come up, and whatever else happens. -/
  | meanwhile {ended : Bool} {transfer : Transfer} {device : σ} (other : σ) :
      mask other = mask device → Driven mask first ended transfer device →
      Driven mask first ended transfer other
  | start {ended : Bool} {transfer : Transfer} {device : σ}
      {sequence : Sequence} {begun : Progress σ} :
      transfer.start sequence device = begun →
      Driven mask first ended transfer device →
      Driven mask first (ended && begun.outcome = .usageFault) begun.transfer
        begun.host
  | step {ended : Bool} {transfer : Transfer} {device : σ}
      {stepped : Progress σ} : transfer.step device = stepped →
      Driven mask first ended transfer device →
      Driven mask first (ended || stepped.outcome.isTerminal) stepped.transfer
        stepped.host
  | release {ended : Bool} {transfer : Transfer} {device : σ} :
      Driven mask first ended transfer device →
      Driven mask first ended transfer.release.2 device

/-- A transfer in flight has all its sources enabled, one that has ended has
none, and those of others are as they were at first. -/
structure Disciplined (transfer : Transfer) (ended : Bool)
    (first now : BitVec 32) : Prop where
  inFlight : transfer.phase ≠ .idle →
    now &&& Interrupts.transfer.bits = Interrupts.transfer.bits
  ended : ended = true → now &&& Interrupts.transfer.bits = 0#32
  others : now &&& ~~~Interrupts.transfer.bits =
    first &&& ~~~Interrupts.transfer.bits

namespace Disciplined

variable {transfer : Transfer} {ended : Bool} {first now : BitVec 32}

omit [Device σ] in
theorem goesOn {mask : σ → BitVec 32} {progress : Progress σ}
    (h : Disciplined transfer ended first now)
    (hactive : transfer.phase ≠ .idle)
    (hgoes : Transfer.GoesOn mask now progress) :
    Disciplined progress.transfer ended first (mask progress.host) := by
  rw [hgoes.mask]
  exact ⟨fun _ => h.inFlight hactive, h.ended, h.others⟩

theorem closes {mask : σ → BitVec 32} {progress : Progress σ}
    (h : Disciplined transfer ended first now) (later : Bool)
    (hcloses : Transfer.Closes mask now progress) :
    Disciplined progress.transfer later first (mask progress.host) := by
  rw [hcloses.mask]
  refine ⟨fun hphase => absurd hcloses.phase hphase, ?_, ?_⟩
  · intro _
    rw [BitVec.and_assoc, Interrupts.not_transfer_and_transfer,
      BitVec.and_zero]
  · rw [BitVec.and_assoc, BitVec.and_self]
    exact h.others

omit [Device σ] in
theorem begins {mask : σ → BitVec 32} {progress : Progress σ}
    (h : Disciplined transfer ended first now)
    (hgoes : Transfer.GoesOn mask (now ||| Interrupts.transfer.bits) progress) :
    Disciplined progress.transfer false first (mask progress.host) := by
  rw [hgoes.mask]
  refine ⟨?_, nofun, ?_⟩
  · intro _
    exact Interrupts.or_transfer_and_transfer now
  · rw [BitVec.and_or_distrib_right, BitVec.and_comm Interrupts.transfer.bits,
      Interrupts.not_transfer_and_transfer, BitVec.or_zero]
    exact h.others

end Disciplined

theorem Driven.disciplined {mask : σ → BitVec 32} (h : IsMask mask)
    {first device : σ} {ended : Bool} {transfer : Transfer}
    (hdriven : Driven mask first ended transfer device) :
    Disciplined transfer ended (mask first) (mask device) := by
  induction hdriven with
  | new => exact ⟨fun hphase => absurd rfl hphase, nofun, rfl⟩
  | meanwhile other hsame _ ih =>
      rw [hsame]
      exact ih
  | @start ended transfer device sequence begun hbegun _ ih =>
      subst hbegun
      cases hkind : sequence.kind? with
      | none =>
          rw [Transfer.start_of_invalid hkind]
          simpa using ih
      | some kind =>
          have hgoes := Transfer.start_goesOn h hkind transfer device
          have hended : (ended &&
              (transfer.start sequence device).outcome = .usageFault) =
                false := by
            simp [hgoes.outcome]
          rw [hended]
          exact ih.begins hgoes
  | @step ended transfer device stepped hstepped _ ih =>
      subst hstepped
      rcases Transfer.step_goesOn_or_closes h transfer device with
        hgoes | hcloses
      · have hended : (ended ||
            (transfer.step device).outcome.isTerminal) = ended := by
          simp [hgoes.outcome, Outcome.isTerminal, Outcome.code]
        rw [hended]
        apply ih.goesOn _ hgoes
        intro hidle
        have houtcome := Transfer.step_outcome_of_idle hidle device
        exact absurd (houtcome.symm.trans hgoes.outcome) nofun
      · exact ih.closes _ hcloses
  | @release ended transfer device _ ih =>
      by_cases hidle : transfer.phase = .idle
      · rw [Transfer.release_of_idle hidle]
        exact ⟨ih.inFlight, ih.ended, ih.others⟩
      · rw [Transfer.release_of_active hidle]
        exact ih

/-- Whether the bus saw something of an operation that came to this. -/
def reachedBus : Except Error Unit → Bool
  | .error .usageFault | .error .unsupportedOperation => false
  | _ => true

namespace Controller

variable {ℓ : Type} [Logger ℓ] {controller : Controller σ ℓ}
  {mask : σ → BitVec 32}

/-- A blocking operation came back with a result and left a device.  A
transaction of no operations does not block. -/
inductive CameBack (controller : Controller σ ℓ) :
    Except Error Unit → σ → Prop where
  | ran {patience : Nat} {budget : Option UInt32} {sequence : Sequence}
      {ended : Completion Sequence σ ℓ} :
      controller.runSequence patience budget sequence = some ended →
      CameBack controller ended.result ended.controller.device
  | transacted {patience : Nat} {target : Target} {operations : List Operation}
      {ended : Completion (List Operation) σ ℓ} : operations ≠ [] →
      controller.transaction patience target operations = some ended →
      CameBack controller ended.result ended.controller.device

/-- The last poll ends the transfer, or else it is given up. -/
theorem drive_quieted (h : IsMask mask) {budget : Option UInt32}
    {patience : Nat} {polls : UInt32} {transfer : Transfer}
    {ended : Completion Transfer σ ℓ}
    (hended : drive budget patience polls transfer controller = some ended) :
    Quieted ended.controller.device := by
  apply drive_induction (fun _ => True) (fun last => Quieted last.device)
    _ _ _ trivial hended
  · exact fun _ _ _ => trivial
  · intro polled transfer _ hresult
    have hbare := polled.bare_advance transfer
    have hquieted : Quieted (transfer.step polled.device).host := by
      apply Transfer.quieted_of_ended h
      rw [← hbare]
      exact fun hrunning => hresult (Progress.result?_of_inProgress hrunning)
    rwa [← hbare] at hquieted
  · exact fun _ _ => ⟨_, rfl⟩

theorem runSequence_quieted (h : IsMask mask) {patience : Nat}
    {budget : Option UInt32} {sequence : Sequence}
    {ended : Completion Sequence σ ℓ}
    (hended : controller.runSequence patience budget sequence = some ended)
    (hresult : reachedBus ended.result = true) :
    Quieted ended.controller.device := by
  rcases controller.start_outcome sequence with hrejected | hrunning
  · obtain ⟨completion, hrun, hfault, _⟩ :=
      runSequence_of_rejected hrejected patience budget
    obtain rfl := Option.some.inj (hrun.symm.trans hended)
    rw [hfault] at hresult
    exact absurd hresult Bool.false_ne_true
  · rw [controller.runSequence_of_inProgress patience budget hrunning] at hended
    obtain ⟨driven, hdriven, rfl⟩ := Option.map_eq_some_iff.mp hended
    exact drive_quieted h hdriven

theorem CameBack.quieted (h : IsMask mask) {result : Except Error Unit}
    {device : σ} (hback : controller.CameBack result device)
    (hresult : reachedBus result = true) : Quieted device := by
  cases hback with
  | ran hended => exact runSequence_quieted h hended hresult
  | @transacted patience target operations ended hsome hended =>
      rw [transaction, if_neg hsome] at hended
      cases hsequence : target.sequence? operations with
      | none =>
          rw [hsequence] at hended
          obtain rfl := Option.some.inj hended
          exact absurd hresult Bool.false_ne_true
      | some sequence =>
          rw [hsequence] at hended
          obtain ⟨ran, hran, rfl⟩ := Option.map_eq_some_iff.mp hended
          exact runSequence_quieted h hran hresult

end Controller

theorem Bench.not_mem_pending_of_quieted {bench : Bench} (h : Quieted bench) :
    ∀ source ∈ Interrupts.transfer, source ∉ bench.pending := by
  obtain ⟨before, rfl⟩ := h
  intro source hsource hpending
  exact (Interrupts.mem_sdiff.mp hpending).2 hsource

theorem Scripted.quieted {scripted : Scripted σ} (h : Quieted scripted) :
    Quieted scripted.device := by
  obtain ⟨before, rfl⟩ := h
  exact ⟨before.device, rfl⟩

/-- What is in the clearing register takes the flags of a transfer down. -/
theorem Registers.Block.flagClear_of_quieted {block : Block .one}
    (h : Quieted block) :
    block.memory flagClear = Interrupts.transfer.bits := by
  obtain ⟨before, rfl⟩ := h
  rfl

open Registers (Block flagClear) in
/-- A transfer has its five sources enabled while it is in flight and none of
them once a step has ended it, until the next one begins.  What else is enabled
stays as it was, on the first generation to the last bit of the register.  The
step that ends it also clears its flags: none is up on the bench then, and on
registers the word that clears them was the last one to go there.  The same is
true when a blocking operation comes back, whatever flags it met, unless the
bus saw nothing of it. -/
theorem driven_disciplined (ℓ : Type) [Logger ℓ] :
    (∀ {first bench : Bench} {ended : Bool} {transfer : Transfer},
      Driven Bench.mask first ended transfer bench →
        let stepped := transfer.step bench
        Disciplined transfer ended first.mask bench.mask ∧
          (stepped.outcome.isTerminal = true →
            ∀ source ∈ Interrupts.transfer, source ∉ stepped.host.pending)) ∧
      (∀ {first block : Block .one} {ended : Bool} {transfer : Transfer},
        Driven Block.mask first ended transfer block →
          let stepped := transfer.step block
          Disciplined transfer ended first.mask block.mask ∧
            (stepped.outcome.isTerminal = true →
              stepped.host.memory flagClear = Interrupts.transfer.bits)) ∧
      (∀ {controller : Controller (Scripted Bench) ℓ}
        {result : Except Error Unit} {scripted : Scripted Bench},
        controller.CameBack result scripted →
          reachedBus result = true →
            scripted.device.mask &&& Interrupts.transfer.bits = 0#32 ∧
              ∀ source ∈ Interrupts.transfer,
                source ∉ scripted.device.pending) ∧
      (∀ {controller : Controller (Scripted (Block .one)) ℓ}
        {result : Except Error Unit} {scripted : Scripted (Block .one)},
        controller.CameBack result scripted →
          reachedBus result = true →
            scripted.device.mask &&& Interrupts.transfer.bits = 0#32 ∧
              scripted.device.memory flagClear = Interrupts.transfer.bits) := by
  refine ⟨?_, ?_, ?_, ?_⟩
  · intro first bench ended transfer hdriven stepped
    refine ⟨hdriven.disciplined Bench.isMask, ?_⟩
    intro hterminal
    exact Bench.not_mem_pending_of_quieted
      (Transfer.quieted_of_ended Bench.isMask
        (Outcome.isTerminal_iff.mp hterminal))
  · intro first block ended transfer hdriven stepped
    refine ⟨hdriven.disciplined Registers.Block.isMask, ?_⟩
    intro hterminal
    exact Registers.Block.flagClear_of_quieted
      (Transfer.quieted_of_ended Registers.Block.isMask
        (Outcome.isTerminal_iff.mp hterminal))
  · intro controller result scripted hback hresult
    have hquieted := Scripted.quieted
      (hback.quieted (Scripted.isMask Bench.isMask) hresult)
    exact ⟨Bench.isMask.of_quieted hquieted,
      Bench.not_mem_pending_of_quieted hquieted⟩
  · intro controller result scripted hback hresult
    have hquieted := Scripted.quieted
      (hback.quieted (Scripted.isMask Registers.Block.isMask) hresult)
    exact ⟨Registers.Block.isMask.of_quieted hquieted,
      Registers.Block.flagClear_of_quieted hquieted⟩

open Registers (Block) in
/-- The sources of a transfer are the bits of `0x6e0`.  Somebody else's and a
bit of none are enabled.  A write loses the bus on the bench, another one is
under way on registers, and a blocking call times out on either. -/
theorem driven_disciplined_lost :
    let own : BitVec 32 := 0x6e0
    let bench : Bench := { enabled := ⟨0x80000103⟩ }
    let memory : Registers.Memory := fun offset =>
      if offset = 0x40 then 0x80000103 else 0
    let block : Block .one := { memory, referenceClock := 38400000 }
    let write : Sequence := .write 0x50 [1]
    let begun := ({} : Transfer).start write bench
    let lost := begun.host.raise {Interrupt.arbitrationLost}
    let stopped := begun.transfer.step lost
    let chip := ({} : Transfer).start write block
    let polled : Controller (Scripted Bench) Log.Silent :=
      ⟨⟨bench, [{Interrupt.ackReceived}]⟩, { target := 100000 }, {}⟩
    let mapped : Controller (Scripted (Block .one)) Log.Silent :=
      ⟨⟨block, []⟩, { target := 100000 }, {}⟩
    (stopped.host.mask &&& own = 0#32 ∧ stopped.host.mask &&& ~~~own = 0x103 ∧
        ∀ source ∈ [Interrupt.ackReceived, .nackReceived, .dataReceived,
          .arbitrationLost, .busError], source ∉ stopped.host.pending) ∧
      (chip.host.mask &&& own = own ∧
        chip.host.mask &&& ~~~own = 0x80000103) ∧
      (∃ ended, polled.runSequence 2 (some 2) write = some ended ∧
        ended.result = .error .timeout ∧
        ended.controller.device.device.mask &&& own = 0#32) ∧
      ∃ ended, mapped.runSequence 1 (some 1) write = some ended ∧
        ended.result = .error .timeout ∧
        ended.controller.device.device.mask &&& own = 0#32 := by
  intro own bench memory block write begun lost stopped chip polled mapped
  obtain ⟨honBench, honBlock, hpolled, hmapped⟩ :=
    driven_disciplined Log.Silent
  have hbegun : Driven Bench.mask bench false begun.transfer begun.host :=
    @Driven.start _ _ _ _ _ _ _ write begun rfl .new
  have hlost : Driven Bench.mask bench false begun.transfer lost :=
    .meanwhile lost (Bench.mask_raise _ _) hbegun
  have hended : stopped.outcome.isTerminal = true := by decide
  have hstopped :
      Driven Bench.mask bench true stopped.transfer stopped.host := by
    have hstep := Driven.step rfl hlost
    rwa [hended] at hstep
  have hchip : Driven Block.mask block false chip.transfer chip.host :=
    @Driven.start _ _ _ _ _ _ _ write chip rfl .new
  have hactive : chip.transfer.phase ≠ .idle := by decide
  have htransfer : Interrupts.transfer.bits = own := by decide
  have hsources : ∀ source ∈ [Interrupt.ackReceived, .nackReceived,
      .dataReceived, .arbitrationLost, .busError],
      source ∈ Interrupts.transfer := by decide
  have hpolls : (polled.runSequence 2 (some 2) write).map
      Completion.result = some (.error .timeout) := by
    dsimp only [polled, bench, write]
    rfl
  have hmaps : (mapped.runSequence 1 (some 1) write).map
      Completion.result = some (.error .timeout) := by
    dsimp only [mapped, block, memory, write]
    rfl
  obtain ⟨last, hlast, hresult⟩ := Option.map_eq_some_iff.mp hpolls
  obtain ⟨final, hfinal, houtcome⟩ := Option.map_eq_some_iff.mp hmaps
  obtain ⟨_, hnone, hbenchOthers⟩ := (honBench hstopped).1
  obtain ⟨hown, _, hblockOthers⟩ := (honBlock hchip).1
  rw [htransfer] at hnone hbenchOthers hown hblockOthers
  refine ⟨⟨hnone rfl, hbenchOthers.trans ?_, fun source hsource =>
      (honBench hlost).2 hended source (hsources source hsource)⟩,
    ⟨hown hactive, hblockOthers.trans ?_⟩,
    ⟨last, hlast, hresult, ?_⟩, final, hfinal, houtcome, ?_⟩
  · decide
  · decide
  · rw [← htransfer]
    exact (hpolled (.ran hlast) (by rw [hresult]; rfl)).1
  · rw [← htransfer]
    exact (hmapped (.ran hfinal) (by rw [houtcome]; rfl)).1

end TwoWire
