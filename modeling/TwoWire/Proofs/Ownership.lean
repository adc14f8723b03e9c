/-
Who has the bus.

Several transfers may share a controller, and any of them may begin while
another is still in flight.  Whoever begins looks first whether the bus is busy,
and then takes it away from the last one.  That is enough: the bus is busy
exactly while the last start has been followed by neither a stop nor an abort,
so that no two starts ever come without one of these between them.
-/
import Mathlib.Data.List.Chain
import Mathlib.Logic.Function.Basic
import TwoWire.Controller.Transaction
import TwoWire.Proofs.Drive
import TwoWire.Proofs.Reachable
import TwoWire.Proofs.Reply
import TwoWire.Proofs.Target

namespace TwoWire

open Log (Logger)

namespace Call

def isHandover : Call → Bool
  | .start | .stop | .abort => true
  | _ => false

def handovers (calls : List Call) : List Call :=
  calls.filter isHandover

/-- The bus was taken, and not given up since. -/
def Owned (calls : List Call) : Prop :=
  (handovers calls).getLast? = some .start

/-- Between any two starts, in whatever order they came, somebody gave the bus
up. -/
def StartsApart (calls : List Call) : Prop :=
  ∀ front middle back, calls = front ++ .start :: (middle ++ .start :: back) →
    .stop ∈ middle ∨ .abort ∈ middle

variable {calls : List Call} {call : Call}

theorem handovers_concat :
    handovers (calls ++ [call]) =
      handovers calls ++ if call.isHandover then [call] else [] := by
  rw [handovers, List.filter_append]
  cases h : call.isHandover with
  | false => simp [handovers, h]
  | true => simp [handovers, h]

theorem owned_concat :
    Owned (calls ++ [call]) ↔
      if call.isHandover then call = .start else Owned calls := by
  rw [Owned, handovers_concat]
  cases call.isHandover with
  | false => simp [Owned]
  | true => simp

/-- It is enough to look at neighbours. -/
theorem startsApart_of_isChain
    (h : (handovers calls).IsChain fun one next =>
      one = .start → next ≠ .start) : StartsApart calls := by
  rintro front middle back rfl
  by_contra hnone
  rw [not_or] at hnone
  -- Nothing but starts is left between the two.
  have hmiddle : ∀ call ∈ handovers middle, call = .start := by
    intro call hcall
    obtain ⟨hmem, hhandover⟩ := List.mem_filter.mp hcall
    cases call with
    | start => rfl
    | stop => exact absurd hmem hnone.1
    | abort => exact absurd hmem hnone.2
    | _ => exact absurd hhandover nofun
  have hsplit : handovers (front ++ .start :: (middle ++ .start :: back)) =
      handovers front ++
        .start :: (handovers middle ++ .start :: handovers back) := by
    simp [handovers, List.filter_cons, isHandover]
  rw [hsplit] at h
  cases hhandovers : handovers middle with
  | nil =>
      rw [hhandovers] at h
      exact (List.isChain_append_cons_cons.mp h).2.1 rfl rfl
  | cons first rest =>
      rw [hhandovers] at h
      rw [hhandovers, List.forall_mem_cons] at hmiddle
      exact (List.isChain_append_cons_cons.mp h).2.1 rfl hmiddle.1

end Call

theorem Bench.busy_perform (call : Call) (bench : Bench) :
    (perform call bench).busy =
      if call.isHandover then decide (call = .start) else bench.busy := by
  cases call with
  | writeAddress byte =>
      obtain ⟨pending, htake⟩ := bench.takeAddress_eq byte
      rw [perform, htake]
      rfl
  | writeData byte =>
      obtain ⟨pending, dataWritten, htake⟩ := bench.takeData_eq
      rw [perform, htake]
      rfl
  | ack =>
      obtain ⟨pending, hoffer⟩ := bench.offer_eq
      rw [perform, hoffer]
      rfl
  | _ => rfl

theorem Bench.busy_run {calls : List Call}
    (h : ∀ call ∈ calls, call.isHandover = false) (bench : Bench) :
    (Device.run calls bench).2.busy = bench.busy := by
  induction calls generalizing bench with
  | nil => rfl
  | cons call rest ih =>
      rw [List.forall_mem_cons] at h
      have hcall : (perform call bench).busy = bench.busy := by
        rw [busy_perform, h.1]
        rfl
      exact (ih h.2 _).trans hcall

namespace Recorder

theorem calls_perform (call : Call) (recorder : Recorder Bench) :
    (Device.perform call recorder).calls = recorder.calls ++ [call] :=
  calls_run [call] recorder

/-- The bench knows who has the bus. -/
def TellsOwner (recorder : Recorder Bench) : Prop :=
  recorder.device.busy = true ↔ Call.Owned recorder.calls

/-- However the calls come, and wherever they stop. -/
theorem TellsOwner.run {recorder : Recorder Bench} (h : recorder.TellsOwner)
    (calls : List Call) : (Device.run calls recorder).2.TellsOwner := by
  induction calls generalizing recorder with
  | nil => exact h
  | cons call rest ih =>
      apply ih
      rw [TellsOwner, calls_perform, Call.owned_concat]
      have hbusy : (Device.perform call recorder).device.busy = _ :=
        Bench.busy_perform call recorder.device
      rw [hbusy]
      cases call.isHandover with
      | false => exact h
      | true => simp

/-- So many starts, no two of them in a row. -/
structure Orderly (starts : Nat) (recorder : Recorder Bench) : Prop where
  owner : recorder.TellsOwner
  apart : (Call.handovers recorder.calls).IsChain fun one next =>
    one = .start → next ≠ .start
  count : recorder.calls.count .start = starts

namespace Orderly

variable {starts : Nat} {recorder : Recorder Bench} {calls : List Call}
  {call : Call}

/-- Only a start has to wait for the bus. -/
theorem perform (h : recorder.Orderly starts)
    (hfree : call = .start → recorder.device.busy = false) :
    (Device.perform call recorder).Orderly
      (starts + if call = .start then 1 else 0) := by
  refine ⟨h.owner.run [call], ?_, ?_⟩
  · rw [calls_perform, Call.handovers_concat]
    apply h.apart.append
    · split
      · exact List.isChain_singleton call
      · exact List.isChain_nil
    · rintro last hlast next hnext rfl rfl
      have hcall : call = .start := by
        split at hnext
        · exact Option.some.inj hnext
        · exact absurd hnext nofun
      have hbusy := h.owner.mpr hlast
      rw [hfree hcall] at hbusy
      exact absurd hbusy nofun
  · rw [calls_perform, List.count_append, h.count, List.count_singleton]
    simp only [beq_iff_eq]

theorem start (h : recorder.Orderly starts)
    (hfree : recorder.device.busy = false) :
    (Device.perform .start recorder).Orderly (starts + 1) := by
  have hperform := @perform _ _ .start h fun _ => hfree
  rwa [if_pos rfl] at hperform

theorem run (h : recorder.Orderly starts) (hcalls : .start ∉ calls) :
    (Device.run calls recorder).2.Orderly starts := by
  induction calls generalizing recorder with
  | nil => exact h
  | cons call rest ih =>
      rw [List.mem_cons, not_or] at hcalls
      have hcall : call ≠ .start := Ne.symm hcalls.1
      have hperform := h.perform (fun heq => absurd heq hcall)
      rw [if_neg hcall] at hperform
      exact ih hperform hcalls.2

/-- Whoever begins leaves the bus free for the start. -/
theorem begin (h : recorder.Orderly starts) (byte : UInt8) :
    (Device.run (Call.beginning (Device.busy recorder) byte)
      recorder).2.Orderly (starts + 1) := by
  let quiet : List Call := [.clearTransmit, .clearInterrupts .all,
    .enableInterrupts .transfer, .writeAddress byte]
  let front := (if Device.busy recorder then [.abort] else []) ++ quiet
  have hfront : .start ∉ front := by
    cases hbusy : Device.busy recorder <;> simp [front, quiet, hbusy]
  have hquiet : ∀ call ∈ quiet, call.isHandover = false := by
    simp [quiet, Call.isHandover]
  have hfree : (Device.run front recorder).2.device.busy = false := by
    rw [(run_device front recorder).2]
    cases hbusy : Device.busy recorder with
    | false =>
        simp only [front, hbusy]
        exact (Bench.busy_run hquiet _).trans hbusy
    | true =>
        simp only [front, hbusy]
        exact Bench.busy_run hquiet _
  have hsplit : Call.beginning (Device.busy recorder) byte =
      front ++ [.start] := by
    simp [Call.beginning, front, quiet]
  rw [hsplit, Device.run_append]
  exact (h.run hfront).start hfree

end Orderly

end Recorder

/-- One sequence more was begun, unless it was turned down. -/
def Outcome.begins (outcome : Outcome) : Nat :=
  if outcome = .usageFault then 0 else 1

namespace Transfer

variable {starts : Nat} {recorder : Recorder Bench}

/-- A sequence that is turned down starts nothing, and any other one starts
once. -/
theorem start_orderly (h : recorder.Orderly starts) (transfer : Transfer)
    (sequence : Sequence) :
    let begun := transfer.start sequence recorder
    begun.host.Orderly (starts + begun.outcome.begins) := by
  intro begun
  cases hkind : sequence.kind? with
  | none =>
      have hbegun : begun = ⟨.usageFault, transfer, recorder⟩ :=
        start_of_invalid hkind transfer recorder
      rw [hbegun]
      exact h
  | some kind =>
      obtain ⟨reaction, hbegin, houtcome, _, hcalls⟩ :=
        begin?_of_valid hkind (Device.busy recorder)
      have hbegun : begun = perform reaction recorder :=
        start_of_begin? hbegin transfer
      rw [hbegun]
      simp only [perform, houtcome, hcalls]
      exact h.begin _

/-- A transfer starts only when it begins. -/
theorem step_orderly (h : recorder.Orderly starts) (transfer : Transfer) :
    (transfer.step recorder).host.Orderly starts := by
  have hstatus : Device.status recorder = (recorder.device.pending, recorder) :=
    rfl
  rw [step_of_status hstatus]
  apply h.run
  intro hstart
  have hregular := transfer.react_regular recorder.device.pending
  exact (hregular.isReply_or_eq hstart).elim nofun nofun

end Transfer

namespace Controller

variable {ℓ : Type} [Logger ℓ] {starts : Nat}
  {controller : Controller (Recorder Bench) ℓ}

omit [Logger ℓ] in
theorem perform_orderly (h : controller.device.Orderly starts)
    {calls : List Call} (hcalls : .start ∉ calls) :
    (controller.perform calls).device.Orderly starts :=
  h.run hcalls

omit [Logger ℓ] in
theorem setBusFrequency_orderly (h : controller.device.Orderly starts)
    (target : Hertz) :
    (controller.setBusFrequency target).device.Orderly starts :=
  perform_orderly h (by simp)

theorem bringUp_orderly (h : controller.device.Orderly starts) :
    controller.bringUp.device.Orderly starts := by
  apply perform_orderly
  · apply setBusFrequency_orderly
    exact perform_orderly h (by simp)
  · simp

theorem start_orderly (h : controller.device.Orderly starts)
    (transfer : Transfer) (sequence : Sequence) :
    let begun := controller.start transfer sequence
    begun.host.device.Orderly (starts + begun.outcome.begins) :=
  Transfer.start_orderly h transfer sequence

theorem advance_orderly (h : controller.device.Orderly starts)
    (transfer : Transfer) :
    (controller.advance transfer).host.device.Orderly starts := by
  have hstep := Transfer.step_orderly h transfer
  rwa [← bare_advance] at hstep

theorem giveUp_orderly (h : controller.device.Orderly starts) :
    controller.giveUp.device.Orderly starts :=
  perform_orderly h (by decide)

/-- Polls start nothing, nor does giving up. -/
theorem drive_orderly {budget : Option UInt32} {patience : Nat}
    {polls : UInt32} {transfer : Transfer}
    {ended : Completion Transfer (Recorder Bench) ℓ}
    (h : controller.device.Orderly starts)
    (hended : drive budget patience polls transfer controller = some ended) :
    ended.controller.device.Orderly starts := by
  apply drive_induction (fun polled => polled.device.Orderly starts)
    (fun last => last.device.Orderly starts) _ _ _ h hended
  · exact fun _ transfer hpolled => advance_orderly hpolled transfer
  · exact fun _ transfer hpolled _ => advance_orderly hpolled transfer
  · exact fun _ hpolled => giveUp_orderly hpolled

theorem runSequence_orderly {budget : Option UInt32} {patience : Nat}
    {sequence : Sequence} {ended : Completion Sequence (Recorder Bench) ℓ}
    (h : controller.device.Orderly starts)
    (hended : controller.runSequence patience budget sequence = some ended) :
    ended.controller.device.Orderly
      (starts + (controller.start {} sequence).outcome.begins) := by
  have hbegun := start_orderly h {} sequence
  simp only [runSequence] at hended
  split at hended
  · obtain rfl := Option.some.inj hended
    exact hbegun
  · obtain ⟨driven, hdriven, rfl⟩ := Option.map_eq_some_iff.mp hended
    exact drive_orderly hbegun hdriven

def begins (controller : Controller (Recorder Bench) ℓ) (target : Target)
    (operations : List Operation) : Nat :=
  match target.sequence? operations with
  | none => 0
  | some sequence => (controller.start {} sequence).outcome.begins

theorem transaction_orderly {patience : Nat} {target : Target}
    {operations : List Operation}
    {ended : Completion (List Operation) (Recorder Bench) ℓ}
    (h : controller.device.Orderly starts)
    (hended : controller.transaction patience target operations =
      some ended) :
    ended.controller.device.Orderly
      (starts + controller.begins target operations) := by
  rw [transaction] at hended
  split at hended
  case isTrue hnone =>
    obtain rfl := Option.some.inj hended
    subst hnone
    cases target <;> exact h
  case isFalse =>
    cases hsequence : target.sequence? operations with
    | none =>
        rw [hsequence] at hended
        obtain rfl := Option.some.inj hended
        simp only [begins, hsequence]
        exact h
    | some sequence =>
        rw [hsequence] at hended
        obtain ⟨ran, hran, rfl⟩ := Option.map_eq_some_iff.mp hended
        simp only [begins, hsequence]
        exact runSequence_orderly h hran

end Controller

/-- A controller, the transfers that share it, and how many sequences were
begun so far. -/
structure Shared (ℓ : Type) where
  controller : Controller (Recorder Bench) ℓ
  transfers : Nat → Transfer := fun _ => {}
  begun : Nat := 0

/-- What can be done with a shared controller.  Transfers go by their number. -/
inductive Action where
  | bringUp
  | setBusFrequency (target : Hertz)
  /-- The bench stands like another one all of a sudden, whatever its flags
  are, but for the bus. -/
  | disturb (bench : Bench)
  | start (number : Nat) (sequence : Sequence)
  /-- Handles one event, or polls for it. -/
  | advance (number : Nat)
  | release (number : Nat)
  | runSequence (patience : Nat) (budget : Option UInt32)
    (sequence : Sequence)
  | transaction (patience : Nat) (target : Target)
    (operations : List Operation)

namespace Shared

variable {ℓ : Type} [Logger ℓ] {shared after : Shared ℓ}

def fresh (bench : Bench) (config : Config) (log : ℓ)
    (transfers : Nat → Transfer) : Shared ℓ where
  controller := ⟨{ device := bench }, config, log⟩
  transfers

def put (shared : Shared ℓ) (number : Nat)
    (progress : Progress (Controller (Recorder Bench) ℓ)) : Shared ℓ :=
  { shared with
    controller := progress.host
    transfers := Function.update shared.transfers number progress.transfer }

/-- Nothing comes back from a blocking operation that does not end. -/
def act (shared : Shared ℓ) : Action → Option (Shared ℓ)
  | .bringUp => some { shared with controller := shared.controller.bringUp }
  | .setBusFrequency target =>
    some { shared with
      controller := shared.controller.setBusFrequency target }
  | .disturb bench =>
    let busy := shared.controller.device.device.busy
    some { shared with controller.device.device := { bench with busy } }
  | .start number sequence =>
    let progress := shared.controller.start (shared.transfers number) sequence
    some { shared.put number progress with
      begun := shared.begun + progress.outcome.begins }
  | .advance number =>
    some (shared.put number
      (shared.controller.advance (shared.transfers number)))
  | .release number =>
    let (_, rest) := (shared.transfers number).release
    some { shared with
      transfers := Function.update shared.transfers number rest }
  | .runSequence patience budget sequence =>
    let begins := (shared.controller.start {} sequence).outcome.begins
    (shared.controller.runSequence patience budget sequence).map fun ended =>
      { shared with
        controller := ended.controller
        begun := shared.begun + begins }
  | .transaction patience target operations =>
    let begins := shared.controller.begins target operations
    (shared.controller.transaction patience target operations).map fun ended =>
      { shared with
        controller := ended.controller
        begun := shared.begun + begins }

def acts (actions : List Action) (shared : Shared ℓ) : Option (Shared ℓ) :=
  actions.foldlM act shared

/-- One start for every sequence that was begun. -/
def Orderly (shared : Shared ℓ) : Prop :=
  shared.controller.device.Orderly shared.begun

omit [Logger ℓ] in
theorem orderly_fresh {bench : Bench} (hfree : bench.busy = false)
    (config : Config) (log : ℓ) (transfers : Nat → Transfer) :
    (fresh bench config log transfers).Orderly := by
  refine ⟨iff_of_false ?_ nofun, List.isChain_nil, rfl⟩
  simp [fresh, hfree]

theorem Orderly.act {action : Action} (h : shared.Orderly)
    (hact : shared.act action = some after) : after.Orderly := by
  cases action with
  | bringUp =>
      obtain rfl := Option.some.inj hact
      exact Controller.bringUp_orderly h
  | setBusFrequency target =>
      obtain rfl := Option.some.inj hact
      exact Controller.setBusFrequency_orderly h target
  | disturb bench =>
      obtain rfl := Option.some.inj hact
      exact ⟨h.owner, h.apart, h.count⟩
  | start number sequence =>
      obtain rfl := Option.some.inj hact
      exact Controller.start_orderly h _ sequence
  | advance number =>
      obtain rfl := Option.some.inj hact
      exact Controller.advance_orderly h _
  | release number =>
      obtain rfl := Option.some.inj hact
      exact h
  | runSequence patience budget sequence =>
      obtain ⟨ended, hended, rfl⟩ := Option.map_eq_some_iff.mp hact
      exact Controller.runSequence_orderly h hended
  | transaction patience target operations =>
      obtain ⟨ended, hended, rfl⟩ := Option.map_eq_some_iff.mp hact
      exact Controller.transaction_orderly h hended

theorem Orderly.acts {actions : List Action} (h : shared.Orderly)
    (hacts : shared.acts actions = some after) : after.Orderly := by
  induction actions generalizing shared with
  | nil =>
      obtain rfl := Option.some.inj hacts
      exact h
  | cons action rest ih =>
      rw [Shared.acts, List.foldlM_cons] at hacts
      obtain ⟨next, hnext, hrest⟩ := Option.bind_eq_some_iff.mp hacts
      exact ih (h.act hnext) hrest

/-- Transfers may share a controller and interrupt one another in any order,
and the bench may stand in any way between the operations.  The bus is busy
exactly while the last call that took it or gave it up was a start, wherever
the calls of a further operation have come to.  Between two starts somebody has
given the bus up, and there is one start for every sequence that was begun. -/
theorem acts_hand_over {bench : Bench} {actions : List Action}
    (hfree : bench.busy = false) (config : Config) (log : ℓ)
    (transfers : Nat → Transfer)
    (hacts : (fresh bench config log transfers).acts actions = some after) :
    let recorder := after.controller.device
    (∀ more : List Call,
      let later := (Device.run more recorder).2
      Device.busy later = true ↔ Call.Owned later.calls) ∧
      Call.StartsApart recorder.calls ∧
      recorder.count .start = after.begun := by
  intro recorder
  have hafter := (orderly_fresh hfree config log transfers).acts hacts
  exact ⟨hafter.owner.run, Call.startsApart_of_isChain hafter.apart,
    hafter.count⟩

/-- Two transfers and a blocking call.  The first is overrun by the second,
which loses the bus and so leaves it taken; a sequence that cannot be run does
not count, and the blocking call times out. -/
theorem acts_hand_over_overrun :
    let actions : List Action :=
      [.bringUp, .start 0 (.write 0x50 [1, 2]), .start 1 (.read 0x51 [0]),
        .disturb { pending := .fatal }, .advance 1, .advance 0, .release 1,
        .start 1 (.read 0x51 []), .runSequence 2 (some 1) (.write 0x52 [3]),
        .transaction 1 (.tenBit 0x150) [.read [0], .read [0]],
        .setBusFrequency 100000, .start 0 (.write 0x53 [4])]
    ({} : Bench).busy = false ∧ ∃ after : Shared Log.Silent,
      (fresh {} { target := 100000 } {} fun _ => {}).acts actions =
        some after ∧
      after.controller.device.count .start = 4 ∧
      Call.Owned after.controller.device.calls := by
  intro actions
  let first : Shared Log.Silent :=
    fresh {} { target := 100000 } {} fun _ => {}
  have hrun : (first.acts actions).map (fun after =>
      (after.begun, after.controller.device.device.busy)) = some (4, true) := by
    decide
  obtain ⟨after, hacts, hafter⟩ := Option.map_eq_some_iff.mp hrun
  obtain ⟨hbegun, hbusy⟩ := Prod.mk.inj hafter
  obtain ⟨howner, _, hcount⟩ :=
    acts_hand_over rfl { target := 100000 } Log.Silent.mk _ hacts
  exact ⟨rfl, after, hacts, hcount.trans hbegun, (howner []).mp hbusy⟩

end Shared

end TwoWire
