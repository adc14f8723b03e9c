/-
Nobody can tell from a controller what becomes of its log.

The operations hand notices to the logger and look at it for nothing else, so a
logger that keeps nothing may stand in for any other.  What is left of an
operation then is the same whoever listens: its result, its calls to the device,
the transfers and their buffers.  Two controllers that differ in their loggers
alone therefore serve the same requests alike.
-/
import TwoWire.Controller.Transaction
import TwoWire.Proofs.Drive
import Mathlib.Logic.Function.Basic

namespace TwoWire

open Log (Logger Silent)

section

variable {σ ℓ α : Type}

def Controller.silence (controller : Controller σ ℓ) : Controller σ Silent :=
  ⟨controller.device, controller.config, {}⟩

def Progress.silence (progress : Progress (Controller σ ℓ)) :
    Progress (Controller σ Silent) :=
  { progress with host := progress.host.silence }

def Completion.silence (completion : Completion α σ ℓ) :
    Completion α σ Silent :=
  { completion with controller := completion.controller.silence }

end

namespace Controller

variable {σ ℓ : Type} [Device σ] [Logger ℓ]

theorem silence_start (controller : Controller σ ℓ) (transfer : Transfer)
    (sequence : Sequence) :
    (controller.start transfer sequence).silence =
      controller.silence.start transfer sequence :=
  rfl

theorem silence_advance (controller : Controller σ ℓ) (transfer : Transfer) :
    (controller.advance transfer).silence =
      controller.silence.advance transfer := by
  have hstep : transfer.step controller.silence.device =
      transfer.step controller.device := rfl
  simp only [advance, hstep]
  cases (transfer.step controller.device).outcome <;> rfl

theorem silence_polled (progress : Progress (Controller σ ℓ)) (count : Nat) :
    (progress.polled count).silence = progress.silence.polled count := by
  induction count generalizing progress with
  | zero => rfl
  | succ count ih =>
      refine (ih _).trans ?_
      exact congrArg (Progress.polled count) (silence_advance _ _)

theorem silence_drive (budget : Option UInt32) (patience : Nat)
    (polls : UInt32) (transfer : Transfer) (controller : Controller σ ℓ) :
    (drive budget patience polls transfer controller).map
        Completion.silence =
      drive budget patience polls transfer controller.silence := by
  induction patience generalizing polls transfer controller with
  | zero => rfl
  | succ patience ih =>
      simp only [drive, ← silence_advance]
      -- The same poll on either side settles both, or neither.
      generalize controller.advance transfer = polled
      have hresult : polled.silence.result? = polled.result? := rfl
      rw [hresult]
      cases polled.result? with
      | some result => rfl
      | none =>
          cases budget with
          | none => exact ih _ _ _
          | some limit =>
              simp only
              split
              · rfl
              · exact ih _ _ _

theorem silence_runSequence (controller : Controller σ ℓ) (patience : Nat)
    (budget : Option UInt32) (sequence : Sequence) :
    (controller.runSequence patience budget sequence).map Completion.silence =
      controller.silence.runSequence patience budget sequence := by
  rw [runSequence, runSequence, ← silence_start]
  generalize controller.start {} sequence = begun
  simp only [Progress.silence]
  cases Error.ofOutcome? begun.outcome begun.transfer.nackSource with
  | some error => rfl
  | none =>
      rw [← silence_drive, Option.map_map, Option.map_map]
      rfl

theorem silence_transaction (controller : Controller σ ℓ) (patience : Nat)
    (target : Target) (operations : List Operation) :
    (controller.transaction patience target operations).map
        Completion.silence =
      controller.silence.transaction patience target operations := by
  rw [transaction, transaction]
  split
  · rfl
  · cases target.sequence? operations with
    | none => rfl
    | some sequence =>
        simp only [← silence_runSequence, Option.map_map]
        rfl

/-- The controller after so many polls for a sequence, with the caller still
waiting for its end. -/
def waiting (controller : Controller σ ℓ) (patience : Nat)
    (sequence : Sequence) : Controller σ ℓ :=
  ((controller.start {} sequence).polled patience).host

theorem silence_waiting (controller : Controller σ ℓ) (patience : Nat)
    (sequence : Sequence) :
    (controller.waiting patience sequence).silence =
      controller.silence.waiting patience sequence :=
  congrArg Progress.host
    (silence_polled (controller.start {} sequence) patience)

end Controller

/-- A controller and the transfers that it serves. -/
structure Session (σ ℓ : Type) where
  controller : Controller σ ℓ
  transfers : Nat → Transfer := fun _ => {}

/-- What can be asked of a controller, and what may happen to it.  Transfers go
by their number. -/
inductive Request (σ : Type) where
  | bringUp
  | setBusFrequency (target : Hertz)
  | busFrequency
  | configure (config : Config)
  | start (number : Nat) (sequence : Sequence)
  | advance (number : Nat)
  | poll (number : Nat)
  | release (number : Nat)
  | runSequence (patience : Nat) (budget : Option UInt32)
    (sequence : Sequence)
  | transaction (patience : Nat) (target : Target)
    (operations : List Operation)
  | read (patience : Nat) (target : Target) (buffer : List UInt8)
  | write (patience : Nat) (target : Target) (bytes : List UInt8)
  | writeRead (patience : Nat) (target : Target) (bytes buffer : List UInt8)
  /-- Something happens on the bus, or is done to the device directly. -/
  | disturb (change : σ → σ)

inductive Response where
  | nothing
  | frequency (scl : Hertz)
  | outcome (outcome : Outcome)
  | polled (result : Option (Except Error Unit))
  | released (sequence : Option Sequence)
  | ran (result : Except Error Unit) (sequence : Sequence)
  | served (result : Except Error Unit) (operations : List Operation)
  /-- Nothing yet, at the end of all patience. -/
  | waiting

namespace Session

variable {σ ℓ : Type}

def silence (session : Session σ ℓ) : Session σ Silent :=
  { session with controller := session.controller.silence }

def put (session : Session σ ℓ) (controller : Controller σ ℓ) :
    Session σ ℓ :=
  { session with controller }

/-- How a transfer and the controller stand after an operation on both. -/
def keep (session : Session σ ℓ) (number : Nat)
    (progress : Progress (Controller σ ℓ)) : Session σ ℓ where
  controller := progress.host
  transfers := Function.update session.transfers number progress.transfer

/-- How a blocking operation leaves the session, whether it has come back or
not. -/
def settle {α : Type} (session : Session σ ℓ) (waiting : Controller σ ℓ)
    (respond : Except Error Unit → α → Response) :
    Option (Completion α σ ℓ) → Response × Session σ ℓ
  | some ended =>
    (respond ended.result ended.handedBack, session.put ended.controller)
  | none => (.waiting, session.put waiting)

variable [Device σ] [Logger ℓ]

def serve (session : Session σ ℓ) (patience : Nat) (target : Target)
    (operations : List Operation)
    (ended : Option (Completion (List Operation) σ ℓ)) :
    Response × Session σ ℓ :=
  let waiting :=
    match target.sequence? operations with
    | none => session.controller
    | some sequence => session.controller.waiting patience sequence
  session.settle waiting .served ended

def handle (session : Session σ ℓ) : Request σ → Response × Session σ ℓ
  | .bringUp => (.nothing, session.put session.controller.bringUp)
  | .setBusFrequency target =>
    (.nothing, session.put (session.controller.setBusFrequency target))
  | .busFrequency => (.frequency session.controller.busFrequency, session)
  | .configure config =>
    (.nothing, session.put { session.controller with config })
  | .start number sequence =>
    let progress :=
      session.controller.start (session.transfers number) sequence
    (.outcome progress.outcome, session.keep number progress)
  | .advance number =>
    let progress := session.controller.advance (session.transfers number)
    (.outcome progress.outcome, session.keep number progress)
  | .poll number =>
    let progress := session.controller.advance (session.transfers number)
    (.polled progress.result?, session.keep number progress)
  | .release number =>
    let (sequence, rest) := (session.transfers number).release
    (.released sequence,
      { session with
        transfers := Function.update session.transfers number rest })
  | .runSequence patience budget sequence =>
    let waiting := session.controller.waiting patience sequence
    session.settle waiting .ran
      (session.controller.runSequence patience budget sequence)
  | .transaction patience target operations =>
    session.serve patience target operations
      (session.controller.transaction patience target operations)
  | .read patience target buffer =>
    session.serve patience target [.read buffer]
      (session.controller.read patience target buffer)
  | .write patience target bytes =>
    session.serve patience target [.write bytes]
      (session.controller.write patience target bytes)
  | .writeRead patience target bytes buffer =>
    session.serve patience target [.write bytes, .read buffer]
      (session.controller.writeRead patience target bytes buffer)
  | .disturb change =>
    let controller := session.controller
    (.nothing, session.put { controller with device := change controller.device })

/-- One request after the other, up to one that keeps its caller waiting. -/
def handleAll : List (Request σ) → Session σ ℓ → List Response × Session σ ℓ
  | [], session => ([], session)
  | request :: rest, session =>
    match session.handle request with
    | (.waiting, after) => ([.waiting], after)
    | (response, after) =>
      let (responses, last) := handleAll rest after
      (response :: responses, last)

omit [Device σ] [Logger ℓ] in
theorem silence_settle {α : Type} (session : Session σ ℓ)
    (waiting : Controller σ ℓ) (respond : Except Error Unit → α → Response)
    (ended : Option (Completion α σ ℓ)) :
    (session.settle waiting respond ended).map id silence =
      session.silence.settle waiting.silence respond
        (ended.map Completion.silence) := by
  cases ended <;> rfl

theorem silence_serve (session : Session σ ℓ) (patience : Nat)
    (target : Target) (operations : List Operation) :
    (session.serve patience target operations
        (session.controller.transaction patience target operations)).map
          id silence =
      session.silence.serve patience target operations
        (session.silence.controller.transaction patience target
          operations) := by
  have hended := session.controller.silence_transaction patience target
    operations
  rw [serve, serve, silence_settle, hended]
  cases target.sequence? operations with
  | none => rfl
  | some sequence =>
      simp only [Controller.silence_waiting]
      rfl

theorem silence_handle (session : Session σ ℓ) (request : Request σ) :
    (session.handle request).map id silence =
      session.silence.handle request := by
  cases request with
  | advance number =>
      exact congrArg (fun progress => (Response.outcome progress.outcome,
        session.silence.keep number progress))
          (session.controller.silence_advance (session.transfers number))
  | poll number =>
      exact congrArg (fun progress => (Response.polled progress.result?,
        session.silence.keep number progress))
          (session.controller.silence_advance (session.transfers number))
  | runSequence patience budget sequence =>
      have hended := session.controller.silence_runSequence patience budget
        sequence
      refine (silence_settle ..).trans ?_
      rw [hended, Controller.silence_waiting]
      rfl
  | transaction patience target operations =>
      exact session.silence_serve patience target operations
  | read patience target buffer =>
      exact session.silence_serve patience target [.read buffer]
  | write patience target bytes =>
      exact session.silence_serve patience target [.write bytes]
  | writeRead patience target bytes buffer =>
      exact session.silence_serve patience target [.write bytes, .read buffer]
  | _ => rfl

theorem silence_handleAll (session : Session σ ℓ)
    (requests : List (Request σ)) :
    (handleAll requests session).map id silence =
      handleAll requests session.silence := by
  induction requests generalizing session with
  | nil => rfl
  | cons request rest ih =>
      rw [handleAll, handleAll, ← silence_handle]
      obtain ⟨response, after⟩ := session.handle request
      cases response with
      | waiting => rfl
      | _ =>
          exact congrArg (fun later => (_ :: later.1, later.2)) (ih after)

/-- Whatever is asked of two controllers that differ in their loggers alone, and
whatever happens to their devices meanwhile, they answer alike.  They make the
same calls, which stand on record, and leave devices, configurations, transfers
and buffers alike, even where a blocking operation has not come back. -/
theorem handleAll_ignores_log {σ ℓ κ : Type} [Device σ] [Logger ℓ] [Logger κ]
    (device : Recorder σ) (config : Config) (transfers : Nat → Transfer)
    (log : ℓ) (other : κ) (requests : List (Request (Recorder σ))) :
    let one := handleAll requests ⟨⟨device, config, log⟩, transfers⟩
    let two := handleAll requests ⟨⟨device, config, other⟩, transfers⟩
    one.1 = two.1 ∧
      one.2.controller.device.calls = two.2.controller.device.calls ∧
      one.2.controller.device = two.2.controller.device ∧
      one.2.controller.config = two.2.controller.config ∧
      one.2.transfers = two.2.transfers := by
  intro one two
  have hsame : one.map id silence = two.map id silence :=
    (silence_handleAll _ requests).trans
      (silence_handleAll ⟨⟨device, config, other⟩, transfers⟩ requests).symm
  have hdevice : one.2.controller.device = two.2.controller.device :=
    congrArg (fun run => run.2.controller.device) hsame
  exact ⟨congrArg (fun run => run.1) hsame, congrArg Recorder.calls hdevice,
    hdevice, congrArg (fun run => run.2.controller.config) hsame,
    congrArg (fun run => run.2.transfers) hsame⟩

end Session

end TwoWire
