/-
What a controller has logged of its failures.

A journal stands before any logger and keeps everything that goes there.  Every
operation that fails has its failure noted once, by the layer that finds it and
as the last thing before it comes back, and no layer above notes it again.  So
the errors in the journal are as many as the failures that callers were told of.
An event that does not end a transfer is not noted at all, however many there
are in one operation.
-/
import TwoWire.Proofs.Rejection
import TwoWire.Proofs.Transaction

namespace TwoWire

open Log (Logger Notice Record Silent)

namespace Log

/-- A logger with a record of everything that it was given. -/
structure Journal (ℓ : Type) where
  logger : ℓ
  /-- In the order of the calls. -/
  records : List Record := []
deriving Repr

instance {ℓ : Type} [Logger ℓ] : Logger (Journal ℓ) where
  log level message journal :=
    { logger := Logger.log level message journal.logger
      records := journal.records ++ [⟨level, message⟩] }

def Notice.record (notice : Notice) : Record :=
  ⟨notice.level, notice.text⟩

/-- What is noted of an operation, failed or not: a failure is noted last, and
nothing else is noted as an error. -/
inductive Tells : Bool → List Notice → Prop where
  | failed {front : List Notice} {last : Notice} :
      (∀ notice ∈ front, notice.level ≠ .error) → last.level = .error →
      Tells true (front ++ [last])
  | sound {notices : List Notice} :
      (∀ notice ∈ notices, notice.level ≠ .error) → Tells false notices

theorem Tells.nil : Tells false [] :=
  .sound nofun

theorem Tells.single {notice : Notice} {failed : Bool}
    (h : notice.level = .error ↔ failed = true) : Tells failed [notice] := by
  cases failed with
  | true =>
      have hfront : ∀ other ∈ ([] : List Notice), other.level ≠ .error := nofun
      exact .failed hfront (h.mpr rfl)
  | false =>
      apply Tells.sound
      intro other hother
      rw [List.mem_singleton.mp hother]
      exact fun herror => Bool.false_ne_true (h.mp herror)

/-- Something that is no error may be noted before. -/
theorem Tells.cons {notice : Notice} {failed : Bool} {notices : List Notice}
    (h : Tells failed notices) (hnotice : notice.level ≠ .error) :
    Tells failed (notice :: notices) := by
  cases h with
  | failed hfront hlast =>
      exact .failed (List.forall_mem_cons.mpr ⟨hnotice, hfront⟩) hlast
  | sound hnotices =>
      exact .sound (List.forall_mem_cons.mpr ⟨hnotice, hnotices⟩)

def errors (records : List Record) : Nat :=
  records.countP fun record => record.level = .error

theorem Tells.errors_eq {failed : Bool} {notices : List Notice}
    (h : Tells failed notices) :
    errors (notices.map Notice.record) = if failed then 1 else 0 := by
  have hnone : ∀ {front : List Notice},
      (∀ notice ∈ front, notice.level ≠ .error) →
        errors (front.map Notice.record) = 0 := by
    intro front hfront
    rw [errors, List.countP_map, List.countP_eq_zero]
    intro notice hnotice
    exact mt of_decide_eq_true (hfront notice hnotice)
  cases h with
  | failed hfront hlast =>
      have hfrontNone := hnone hfront
      rw [errors] at hfrontNone ⊢
      rw [List.map_append, List.countP_append, hfrontNone]
      simp [Notice.record, hlast]
  | sound hnotices => exact hnone hnotices

end Log

namespace Response

def isFailure : Response → Bool
  | .outcome report => report.isFailure
  | .polled (some result) | .ran result _ | .served result _ => !result.isOk
  | _ => false

def isPending : Response → Bool
  | .outcome .inProgress | .polled none => true
  | _ => false

end Response

/-- What an event is noted as: its end, if it is one. -/
def Outcome.notices : Outcome → List Notice
  | .inProgress => []
  | .done => [.finished]
  | outcome => [.failed outcome]

theorem Outcome.notices_tell (outcome : Outcome) :
    Log.Tells outcome.isFailure outcome.notices ∧
      ((Response.outcome outcome).isPending = true → outcome.notices = []) := by
  cases outcome with
  | inProgress => exact ⟨.nil, fun _ => rfl⟩
  | _ => exact ⟨.single (by decide), fun h => absurd h Bool.false_ne_true⟩

/-- An event that settles a transfer is noted, as an error if it is one. -/
theorem Progress.notices_of_result? {α : Type} {progress : Progress α}
    {result : Except Error Unit} (h : progress.result? = some result) :
    ∃ notice, progress.outcome.notices = [notice] ∧
      (notice.level = .error ↔ (!result.isOk) = true) := by
  rw [result?] at h
  cases houtcome : progress.outcome with
  | inProgress =>
      rw [houtcome] at h
      cases h
  | done =>
      rw [houtcome] at h
      cases h
      exact ⟨_, rfl, by decide⟩
  | _ =>
      rw [houtcome] at h
      cases h
      exact ⟨_, rfl, iff_of_true rfl rfl⟩

theorem Progress.notices_tell {α : Type} (progress : Progress α) :
    Log.Tells (Response.polled progress.result?).isFailure
        progress.outcome.notices ∧
      ((Response.polled progress.result?).isPending = true →
        progress.outcome.notices = []) := by
  cases hresult : progress.result? with
  | none =>
      rw [outcome_of_result?_eq_none hresult]
      exact ⟨.nil, fun _ => rfl⟩
  | some result =>
      obtain ⟨notice, hnotices, hlevel⟩ := notices_of_result? hresult
      rw [hnotices]
      exact ⟨.single hlevel, fun h => absurd h Bool.false_ne_true⟩

namespace Controller

variable {σ ℓ : Type} [Device σ] [Logger ℓ]
  {before after later : Controller σ (Log.Journal ℓ)}

/-- What was noted from one moment to another. -/
def Notes (before after : Controller σ (Log.Journal ℓ))
    (notices : List Notice) : Prop :=
  after.log.records = before.log.records ++ notices.map Notice.record

omit [Device σ] [Logger ℓ] in
theorem Notes.trans {notices more : List Notice}
    (h : before.Notes after notices) (hlater : after.Notes later more) :
    before.Notes later (notices ++ more) := by
  rw [Notes, hlater, h, List.map_append, List.append_assoc]

omit [Device σ] [Logger ℓ] in
theorem Notes.errors_eq {notices : List Notice} {failed : Bool}
    (h : before.Notes after notices) (htells : Log.Tells failed notices) :
    Log.errors after.log.records =
      Log.errors before.log.records + if failed then 1 else 0 := by
  rw [h, ← htells.errors_eq]
  exact List.countP_append

omit [Device σ] [Logger ℓ] in
theorem notes_nil (controller : Controller σ (Log.Journal ℓ)) :
    controller.Notes controller [] :=
  (List.append_nil _).symm

theorem start_notes (controller : Controller σ (Log.Journal ℓ))
    (transfer : Transfer) (sequence : Sequence) :
    ∃ notice, controller.Notes (controller.start transfer sequence).host
        [notice] ∧
      (notice.level = .error ↔
        (controller.start transfer sequence).outcome.isFailure = true) := by
  obtain ⟨hrejected, haccepted, _⟩ :=
    transfer.start_iff_proper sequence controller.device
  refine ⟨_, rfl, ?_⟩
  rw [start]
  by_cases hproper : sequence.Proper
  · simp only [haccepted.mpr hproper]
    exact iff_of_false (fun h => by cases h) Bool.false_ne_true
  · simp only [hrejected.mpr hproper]
    exact iff_of_true rfl rfl

theorem advance_notes (controller : Controller σ (Log.Journal ℓ))
    (transfer : Transfer) :
    controller.Notes (controller.advance transfer).host
      (controller.advance transfer).outcome.notices := by
  rw [advance]
  cases (transfer.step controller.device).outcome with
  | inProgress => exact (List.append_nil _).symm
  | _ => rfl

/-- Polls that settle nothing are not noted. -/
theorem advance_notes_of_result?_eq_none
    {controller : Controller σ (Log.Journal ℓ)} {transfer : Transfer}
    (h : (controller.advance transfer).result? = none) :
    controller.Notes (controller.advance transfer).host [] := by
  have hnotes := controller.advance_notes transfer
  rwa [Progress.outcome_of_result?_eq_none h] at hnotes

variable {budget : Option UInt32} {patience : Nat} {polls : UInt32}
  {transfer : Transfer} {controller : Controller σ (Log.Journal ℓ)}

/-- However often it polls, driving a transfer has its end noted and nothing
else. -/
theorem drive_notes {ended : Completion Transfer σ (Log.Journal ℓ)}
    (h : drive budget patience polls transfer controller = some ended) :
    ∃ notice, controller.Notes ended.controller [notice] ∧
      (notice.level = .error ↔ (!ended.result.isOk) = true) := by
  refine drive_elim (fun _ polled => controller.Notes polled [])
    (fun ended => ∃ notice, controller.Notes ended.controller [notice] ∧
      (notice.level = .error ↔ (!ended.result.isOk) = true))
    ?_ ?_ ?_ controller.notes_nil h
  · intro transfer polled hnone hresult
    exact hnone.trans (advance_notes_of_result?_eq_none hresult)
  · intro transfer polled result hnone hresult
    obtain ⟨notice, hnotices, hlevel⟩ := Progress.notices_of_result? hresult
    have hnotes := polled.advance_notes transfer
    rw [hnotices] at hnotes
    exact ⟨notice, hnone.trans hnotes, hlevel⟩
  · intro transfer polled hnone
    have htimedOut : polled.Notes polled.giveUp [.timedOut] := rfl
    exact ⟨.timedOut, hnone.trans htimedOut, iff_of_true rfl rfl⟩

/-- Nor are the polls noted that a caller still waits for. -/
theorem polled_notes {progress : Progress (Controller σ (Log.Journal ℓ))}
    (h : drive budget patience polls progress.transfer progress.host = none) :
    progress.host.Notes (progress.polled patience).host [] := by
  induction patience generalizing progress polls with
  | zero => exact progress.host.notes_nil
  | succ patience ih =>
      simp only [drive] at h
      split at h
      case h_1 result hresult => cases h
      case h_2 hresult =>
        have hpolled := advance_notes_of_result?_eq_none hresult
        split at h
        · exact hpolled.trans (ih h)
        · split at h
          · cases h
          · exact hpolled.trans (ih h)

/-- What a blocking operation on `sequence?` has noted when it comes back, and
what until then. -/
def Blocks {α : Type} (controller waiting : Controller σ (Log.Journal ℓ))
    (sequence? : Option Sequence) :
    Option (Completion α σ (Log.Journal ℓ)) → Prop
  | some ended => ∃ notices, controller.Notes ended.controller notices ∧
      Log.Tells (!ended.result.isOk) notices ∧
      ∀ sequence ∈ sequence?, sequence.Proper → notices.length = 2
  | none => ∃ notices, controller.Notes waiting notices ∧
      Log.Tells false notices

omit [Device σ] [Logger ℓ] in
/-- What is handed back makes no difference. -/
theorem Blocks.map {α β : Type} {waiting : Controller σ (Log.Journal ℓ)}
    {sequence? : Option Sequence}
    {ended : Option (Completion α σ (Log.Journal ℓ))}
    (h : controller.Blocks waiting sequence? ended) (convert : α → β) :
    controller.Blocks waiting sequence? (ended.map fun ended =>
      { ended with handedBack := convert ended.handedBack }) := by
  cases ended with
  | none => exact h
  | some ended => exact h

theorem runSequence_blocks (controller : Controller σ (Log.Journal ℓ))
    (patience : Nat) (budget : Option UInt32) (sequence : Sequence) :
    controller.Blocks (controller.waiting patience sequence) (some sequence)
      (controller.runSequence patience budget sequence) := by
  obtain ⟨notice, hnotes, hlevel⟩ := controller.start_notes {} sequence
  obtain ⟨hrejected, haccepted, _⟩ :=
    ({} : Transfer).start_iff_proper sequence controller.device
  by_cases hproper : sequence.Proper
  · have houtcome : (controller.start {} sequence).outcome = .inProgress :=
      haccepted.mpr hproper
    rw [houtcome] at hlevel
    have hsound : notice.level ≠ .error := mt hlevel.mp Bool.false_ne_true
    rw [controller.runSequence_of_inProgress patience budget houtcome]
    cases hended : drive budget patience 0
        (controller.start {} sequence).transfer
        (controller.start {} sequence).host with
    | none =>
        exact ⟨_, hnotes.trans (polled_notes hended), Log.Tells.nil.cons hsound⟩
    | some ended =>
        obtain ⟨last, hlast, hlastLevel⟩ := drive_notes hended
        exact ⟨_, hnotes.trans hlast,
          (Log.Tells.single hlastLevel).cons hsound, fun _ _ _ => rfl⟩
  · have houtcome : (controller.start {} sequence).outcome = .usageFault :=
      hrejected.mpr hproper
    rw [houtcome] at hlevel
    rw [runSequence, houtcome]
    refine ⟨_, hnotes, .single hlevel, ?_⟩
    intro other hother hgood
    exact absurd (Option.some.inj hother ▸ hgood) hproper

theorem transaction_blocks (controller : Controller σ (Log.Journal ℓ))
    (patience : Nat) (target : Target) (operations : List Operation) :
    controller.Blocks
      (match target.sequence? operations with
        | none => controller
        | some sequence => controller.waiting patience sequence)
      (target.sequence? operations)
      (controller.transaction patience target operations) := by
  rw [transaction]
  by_cases hnil : operations = []
  · have hnone : target.sequence? operations = none := by
      rw [hnil]
      cases target <;> rfl
    rw [if_pos hnil, hnone]
    exact ⟨[], controller.notes_nil, .nil,
      fun sequence hmem => absurd hmem (Option.not_mem_none sequence)⟩
  rw [if_neg hnil]
  cases target.sequence? operations with
  | none =>
      have hnotes : controller.Notes (controller.note .unsupported)
          [.unsupported] := rfl
      exact ⟨_, hnotes, .single (iff_of_true rfl rfl),
        fun sequence hmem => absurd hmem (Option.not_mem_none sequence)⟩
  | some sequence =>
      exact (controller.runSequence_blocks patience none sequence).map
        fun sequence => sequence.operations operations.length

end Controller

namespace Request

variable {σ : Type} {request : Request σ} {response : Response}
  {notices : List Notice}

def isEvent : Request σ → Bool
  | .advance _ | .poll _ => true
  | _ => false

def sequence? : Request σ → Option Sequence
  | .runSequence _ _ sequence => some sequence
  | .transaction _ target operations => target.sequence? operations
  | .read _ target buffer => target.sequence? [.read buffer]
  | .write _ target bytes => target.sequence? [.write bytes]
  | .writeRead _ target bytes buffer =>
    target.sequence? [.write bytes, .read buffer]
  | _ => none

/-- What is noted of a request by the time it is answered. -/
structure Noted (request : Request σ) (response : Response)
    (notices : List Notice) : Prop where
  /-- A failure is noted, once and last. -/
  failure : Log.Tells response.isFailure notices
  /-- An event that ends nothing is not noted. -/
  event : request.isEvent = true → response.isPending = true → notices = []
  /-- Of a run the beginning is noted and the end, and no poll between them. -/
  blocking : ∀ sequence ∈ request.sequence?, sequence.Proper →
    response ≠ .waiting → notices.length = 2

theorem Noted.of_not_blocking (hsequence : request.sequence? = none)
    (hfailure : Log.Tells response.isFailure notices)
    (hevent : request.isEvent = true → response.isPending = true →
      notices = []) : request.Noted response notices where
  failure := hfailure
  event := hevent
  blocking := by
    intro sequence hmem
    rw [hsequence] at hmem
    exact absurd hmem (Option.not_mem_none sequence)

theorem Noted.of_simple (hsequence : request.sequence? = none)
    (hnot : request.isEvent = false)
    (hfailure : Log.Tells response.isFailure notices) :
    request.Noted response notices := by
  refine .of_not_blocking hsequence hfailure fun hevent => ?_
  exact absurd (hnot.symm.trans hevent) Bool.false_ne_true

end Request

namespace Session

variable {σ ℓ : Type} [Device σ] [Logger ℓ]

omit [Device σ] [Logger ℓ] in
theorem settle_noted {α : Type} {session : Session σ (Log.Journal ℓ)}
    {request : Request σ} {waiting : Controller σ (Log.Journal ℓ)}
    {respond : Except Error Unit → α → Response}
    {ended : Option (Completion α σ (Log.Journal ℓ))}
    (hblocks : session.controller.Blocks waiting request.sequence? ended)
    (hrespond : ∀ result back, (respond result back).isFailure = !result.isOk)
    (hnot : request.isEvent = false) :
    let answered := session.settle waiting respond ended
    ∃ notices, session.controller.Notes answered.2.controller notices ∧
      request.Noted answered.1 notices := by
  have hevent : request.isEvent ≠ true := by
    rw [hnot]
    exact Bool.false_ne_true
  cases ended with
  | none =>
      obtain ⟨notices, hnotes, htells⟩ := hblocks
      exact ⟨notices, hnotes, htells, fun h => absurd h hevent,
        fun _ _ _ hcame => absurd rfl hcame⟩
  | some ended =>
      obtain ⟨notices, hnotes, htells, hlength⟩ := hblocks
      refine ⟨notices, hnotes, ?_, fun h => absurd h hevent,
        fun sequence hmem hproper _ => hlength sequence hmem hproper⟩
      exact (hrespond ended.result ended.handedBack).symm ▸ htells

theorem handle_noted (session : Session σ (Log.Journal ℓ))
    (request : Request σ) :
    ∃ notices,
      session.controller.Notes (session.handle request).2.controller notices ∧
      request.Noted (session.handle request).1 notices := by
  have hserved : ∀ {operations : List Operation} (patience : Nat)
      (target : Target), request.sequence? = target.sequence? operations →
      request.isEvent = false →
      let answered := session.serve patience target operations
        (session.controller.transaction patience target operations)
      ∃ notices,
        session.controller.Notes answered.2.controller notices ∧
          request.Noted answered.1 notices := by
    intro operations patience target hsequence hnot
    have hblocks :=
      session.controller.transaction_blocks patience target operations
    rw [← hsequence] at hblocks
    simp only [serve, ← hsequence]
    exact settle_noted hblocks (fun _ _ => rfl) hnot
  cases request with
  | bringUp =>
      have hnotes : session.controller.Notes session.controller.bringUp
          [.busFrequency session.controller.bringUp.busFrequency] := rfl
      have hlevel (scl : Hertz) : (Notice.busFrequency scl).level ≠ .error := by
        simp [Notice.level]
      exact ⟨_, hnotes, .of_simple rfl rfl (Log.Tells.nil.cons (hlevel _))⟩
  | start number sequence =>
      obtain ⟨notice, hnotes, hlevel⟩ :=
        session.controller.start_notes (session.transfers number) sequence
      exact ⟨_, hnotes, .of_simple rfl rfl (.single hlevel)⟩
  | advance number =>
      have hnotes :=
        session.controller.advance_notes (session.transfers number)
      obtain ⟨hfailure, hpending⟩ := Outcome.notices_tell
        (session.controller.advance (session.transfers number)).outcome
      exact ⟨_, hnotes, .of_not_blocking rfl hfailure fun _ => hpending⟩
  | poll number =>
      have hnotes :=
        session.controller.advance_notes (session.transfers number)
      obtain ⟨hfailure, hpending⟩ := Progress.notices_tell
        (session.controller.advance (session.transfers number))
      exact ⟨_, hnotes, .of_not_blocking rfl hfailure fun _ => hpending⟩
  | runSequence patience budget sequence =>
      exact settle_noted
        (session.controller.runSequence_blocks patience budget sequence)
        (fun _ _ => rfl) rfl
  | transaction patience target operations =>
      exact hserved patience target rfl rfl
  | read patience target buffer => exact hserved patience target rfl rfl
  | write patience target bytes => exact hserved patience target rfl rfl
  | writeRead patience target bytes buffer =>
      exact hserved patience target rfl rfl
  | _ =>
      exact ⟨[], session.controller.notes_nil, .of_simple rfl rfl .nil⟩

/-- Whatever is asked of a controller, and whatever its device does, a request
that fails is noted as an error once, as the last thing that is noted of it, and
one that does not fail never is.  Events that end nothing are not noted, so a
run that comes back leaves two records, however long it took.  After any
requests there are as many errors more on record as callers were told of
failures. -/
theorem handleAll_notes_failures {σ ℓ : Type} [Device σ] [Logger ℓ]
    (session : Session σ (Log.Journal ℓ)) :
    (∀ request, ∃ notices,
      session.controller.Notes (session.handle request).2.controller notices ∧
        request.Noted (session.handle request).1 notices) ∧
      ∀ requests,
        let run := handleAll requests session
        Log.errors run.2.controller.log.records =
          Log.errors session.controller.log.records +
            run.1.countP Response.isFailure := by
  refine ⟨session.handle_noted, ?_⟩
  intro requests
  induction requests generalizing session with
  | nil => rfl
  | cons request rest ih =>
      obtain ⟨notices, hnotes, hnoted⟩ := session.handle_noted request
      have hfirst := hnotes.errors_eq hnoted.failure
      rw [handleAll]
      generalize session.handle request = answered at hfirst ⊢
      obtain ⟨response, after⟩ := answered
      have hrest := ih after
      cases response with
      | waiting => exact hfirst
      | _ =>
          simp only [List.countP_cons] at hfirst hrest ⊢
          omega

/-- A sequence that is turned down, an event without a transfer, a transaction
that no sequence does, and a run that gives up. -/
example :
    let session : Session Bench (Log.Journal Silent) :=
      { controller := ⟨{}, .standard .one, { logger := {} }⟩ }
    let requests : List (Request Bench) :=
      [.start 0 (.read 0x50 []), .advance 0,
        .transaction 9 (.sevenBit 0x50) [.read [0], .read [0]],
        .runSequence 9 (some 3) (.write 0x50 [1])]
    let records :=
      (handleAll requests session).2.controller.log.records
    Log.errors records = 4 ∧ records.length = 5 := by
  decide

end Session

end TwoWire
