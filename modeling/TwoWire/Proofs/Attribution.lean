/-
Who is to blame for a missing acknowledge.

A transfer tells the source of a refusal by its phase alone.  What makes that
right is kept along every course of it: a transfer that waits for an answer
waits for the answer to the last byte that it has put on the bus since it was
begun, and its phase tells whether that byte was data.  What earlier transfers
left in the same place does not matter.  Of a transfer in flight nothing is
reported that only a fault in the controller could explain.
-/
import TwoWire.Bench
import TwoWire.Proofs.Budget
import TwoWire.Proofs.Journal
import TwoWire.Proofs.Refusal
import TwoWire.Proofs.Reply

namespace TwoWire

open Sequence (Kind Stage)
open Log (Logger Silent)

def Call.sendsByte : Call → Bool
  | .writeAddress _ | .writeData _ => true
  | _ => false

def Call.lastByte? (calls : List Call) : Option Call :=
  (calls.filter sendsByte).getLast?

theorem Call.lastByte?_append (calls more : List Call) :
    lastByte? (calls ++ more) = (lastByte? more).or (lastByte? calls) := by
  rw [lastByte?, List.filter_append, List.getLast?_append]
  rfl

namespace NackSource

/-- The source is that of the last byte which the calls put on the bus. -/
structure Blames (source : NackSource) (calls : List Call) : Prop where
  address : source = .address ↔
    ∃ byte, Call.lastByte? calls = some (.writeAddress byte)
  data : source = .data ↔
    ∃ byte, Call.lastByte? calls = some (.writeData byte)
  known : source ≠ .unknown

variable {source : NackSource} {calls more : List Call}

theorem blames_iff :
    source.Blames calls ↔
      ∃ call, Call.lastByte? calls = some call ∧ call.nackSource = source := by
  constructor
  · rintro ⟨haddress, hdata, hknown⟩
    cases source with
    | address =>
        obtain ⟨byte, hlast⟩ := haddress.mp rfl
        exact ⟨_, hlast, rfl⟩
    | data =>
        obtain ⟨byte, hlast⟩ := hdata.mp rfl
        exact ⟨_, hlast, rfl⟩
    | unknown => exact absurd rfl hknown
  · rintro ⟨call, hlast, rfl⟩
    have hsent : call.sendsByte = true :=
      (List.mem_filter.mp (List.mem_of_getLast? hlast)).2
    cases call with
    | writeAddress byte =>
        exact ⟨by simp [Call.nackSource, hlast],
          by simp [Call.nackSource, hlast], by simp [Call.nackSource]⟩
    | writeData byte =>
        exact ⟨by simp [Call.nackSource, hlast],
          by simp [Call.nackSource, hlast], by simp [Call.nackSource]⟩
    | _ => cases hsent

theorem blames_append_of_last {call : Call}
    (hlast : Call.lastByte? more = some call) (calls : List Call) :
    call.nackSource.Blames (calls ++ more) := by
  rw [blames_iff, Call.lastByte?_append, hlast]
  exact ⟨call, rfl, rfl⟩

/-- Calls that send nothing change nothing. -/
theorem Blames.append (h : source.Blames calls)
    (hmore : Call.lastByte? more = none) : source.Blames (calls ++ more) := by
  rw [blames_iff] at h ⊢
  rwa [Call.lastByte?_append, hmore, Option.none_or]

end NackSource

namespace Transfer

variable {transfer next : Transfer} {sequence : Sequence} {kind : Kind}
  {stage : Stage} {status : Interrupts} {index position : Nat}
  {reaction : Reaction} {calls : List Call}

/-- Whom the transfer would blame if the next answer were a refusal. -/
def blame (transfer : Transfer) : NackSource :=
  if transfer.phase = .transmit then .data else .address

/-- The answer that the transfer waits for is the one to the last byte of the
calls. -/
def Awaits (transfer : Transfer) (calls : List Call) : Prop :=
  transfer.phase ≠ .receive → transfer.blame.Blames calls

theorem InFlight.blame_eq (h : transfer.InFlight sequence stage) {call : Call}
    (hanswer : stage.IsAnswerTo call) : transfer.blame = call.nackSource :=
  h.nackSource_eq hanswer

theorem InFlight.awaits (h : next.InFlight sequence stage) {call : Call}
    {more : List Call} (hanswer : stage.IsAnswerTo call)
    (hlast : Call.lastByte? more = some call) (calls : List Call) :
    next.Awaits (calls ++ more) := by
  intro _
  rw [h.blame_eq hanswer]
  exact NackSource.blames_append_of_last hlast calls

/-- What a reaction leaves behind: a transfer that waits for the answer to the
last byte, or the blame for that byte. -/
structure Answers (reaction : Reaction) (calls : List Call) : Prop where
  awaits : reaction.outcome = .inProgress →
    reaction.next.Awaits (calls ++ reaction.calls)
  nack : reaction.outcome = .nack →
    reaction.next.nackSource.Blames (calls ++ reaction.calls)

theorem Taking.answers
    (h : Taking transfer sequence status index reaction)
    (hphase : transfer.phase = .receive) (calls : List Call) :
    Answers reaction calls := by
  cases h with
  | none hdata => exact ⟨fun _ hnot => absurd hphase hnot, nofun⟩
  | more hdata hmore => exact ⟨fun _ hnot => absurd hphase hnot, nofun⟩
  | last hdata hlast => exact ⟨nofun, nofun⟩

theorem Answers.after {first : List Call}
    (h : Answers reaction (calls ++ first)) :
    Answers (reaction.after first) calls := by
  obtain ⟨hawaits, hnack⟩ := h
  rw [List.append_assoc] at hawaits hnack
  exact ⟨hawaits, hnack⟩

theorem Onward.answers (h : Onward sequence kind position reaction)
    (calls : List Call) : Answers reaction calls := by
  cases h with
  | sent hbyte hnext => exact ⟨fun _ => hnext.awaits .sent rfl calls, nofun⟩
  | turned hlast hreaddress hnext =>
      exact ⟨fun _ => hnext.awaits .turned rfl calls, nofun⟩
  | ended hlast hreaddress hkind hheld hnextKind => exact ⟨nofun, nofun⟩

theorem Handles.answers
    (h : Handles transfer sequence status stage reaction)
    (hawaits : transfer.Awaits calls)
    (hreceive : transfer.phase = .receive ↔ ∃ index, stage = .receiving index) :
    Answers reaction calls := by
  cases h with
  | lost hlost => exact ⟨nofun, nofun⟩
  | broken hlost hbroken => exact ⟨nofun, nofun⟩
  | refused hquiet hphase hnack =>
      exact ⟨nofun, fun _ => (hawaits hphase).append rfl⟩
  | unanswered hquiet hphase hnack hack =>
      exact ⟨fun _ _ => (hawaits hphase).append rfl, nofun⟩
  | opened hacked hnext =>
      exact ⟨fun _ => hnext.awaits .addressed rfl calls, nofun⟩
  | onward hacked honward => exact (honward.answers _).after
  | turned hacked hnext htaking =>
      have hphase := hnext.stands.phase_eq_receive_iff.mpr ⟨0, rfl⟩
      exact (htaking.answers hphase _).after
  | received hquiet htaking =>
      exact htaking.answers (hreceive.mpr ⟨_, rfl⟩) calls

/-- What is known of a transfer that has made `calls` since it was begun. -/
structure Accounts (transfer : Transfer) (calls : List Call) : Prop where
  sound : transfer.Sound
  awaits : transfer.phase ≠ .idle → transfer.Awaits calls
  nack : transfer.outcome = .nack → transfer.nackSource.Blames calls

theorem accounts_new : ({} : Transfer).Accounts [] where
  sound := .idle rfl nofun
  awaits := fun hactive => absurd rfl hactive
  nack := nofun

theorem Accounts.release (h : transfer.Accounts calls) :
    transfer.release.2.Accounts calls := by
  by_cases hidle : transfer.phase = .idle
  · have hsound := release_sound h.sound
    rw [release_of_idle hidle] at hsound ⊢
    exact ⟨hsound, h.awaits, h.nack⟩
  · rw [release_of_active hidle]
    exact h

/-- A transfer that does not go on is over, and shows why. -/
theorem next_of_ne_inProgress (h : reaction.Regular)
    (hover : reaction.outcome ≠ .inProgress) :
    reaction.next.phase = .idle ∧ reaction.next.outcome = reaction.outcome := by
  cases h with
  | waits hactive hcalls => exact absurd rfl hover
  | ends hended hcalls => exact ⟨rfl, rfl⟩

theorem Accounts.answers (h : transfer.Accounts calls) (status : Interrupts) :
    Answers (transfer.react status) calls := by
  cases h.sound with
  | idle hidle houtcome =>
      rw [react_of_idle hidle]
      exact ⟨nofun, nofun⟩
  | running hruns =>
      have hstands := hruns.inFlight.stands
      exact (hruns.inFlight.react_handles status).answers
        (h.awaits hstands.phase_ne_idle) hstands.phase_eq_receive_iff

variable {σ : Type} [Device σ]

/-- A transfer shows the outcome of the step that was made last. -/
theorem step_outcome (h : transfer.Sound) (device : σ) :
    (transfer.step device).transfer.outcome =
      (transfer.step device).outcome := by
  obtain ⟨status, bytes, hbytes, houtcome, hafter⟩ :=
    transfer.step_settles device
  rw [houtcome, hafter]
  by_cases hrunning : (transfer.react status).outcome = .inProgress
  · cases h with
    | idle hidle hover =>
        rw [react_of_idle hidle] at hrunning
        cases hrunning
    | running hruns =>
        obtain ⟨later, hlater, _⟩ :=
          (hruns.inFlight.react_handles status).runs hruns hrunning hbytes
        rw [hlater.inFlight.outcome, hrunning]
  · obtain ⟨held, index, hstored⟩ :=
      foldl_store_eq bytes (transfer.react status).next
    rw [Reaction.settle, hstored]
    exact (next_of_ne_inProgress (transfer.react_regular status) hrunning).2

theorem Accounts.step (h : transfer.Accounts calls) (recorder : Recorder σ) :
    ∃ made,
      (transfer.step recorder).host.calls = recorder.calls ++ made ∧
      (transfer.step recorder).transfer.Accounts (calls ++ made) := by
  obtain ⟨status, bytes, hmakes⟩ :=
    Progress.next_makes ⟨.inProgress, transfer, recorder⟩
  have hanswers := h.answers status
  obtain ⟨held, index, hstored⟩ :=
    foldl_store_eq bytes (transfer.react status).next
  have hafter : (transfer.step recorder).transfer =
      { (transfer.react status).next with held, index } :=
    hmakes.transfer.trans hstored
  refine ⟨_, hmakes.calls, step_sound h.sound recorder, ?_, ?_⟩
  · rw [hafter]
    intro hactive
    refine hanswers.awaits ?_
    by_contra hover
    exact hactive
      (next_of_ne_inProgress (transfer.react_regular status) hover).1
  · rw [step_outcome h.sound, hafter]
    exact fun hnack => hanswers.nack (hmakes.outcome.symm.trans hnack)

/-- Nothing counts any more of what was before. -/
theorem accounts_start (h : sequence.kind? = some kind) (transfer : Transfer)
    (recorder : Recorder σ) :
    ∃ made,
      (transfer.start sequence recorder).host.calls = recorder.calls ++ made ∧
      (transfer.start sequence recorder).transfer.Accounts made := by
  obtain ⟨reaction, hmakes, _, hruns, hcalls⟩ :=
    Progress.start_makes h transfer recorder
  have hafter : (transfer.start sequence recorder).transfer = reaction.next :=
    hmakes.transfer
  refine ⟨_, hmakes.calls, ?_⟩
  rw [hafter]
  refine ⟨.running hruns, fun _ => ?_, ?_⟩
  · have hlast : Call.lastByte? reaction.calls = some (.writeAddress
        (sequence.header (sequence.readsAtOnce kind))) := by
      rw [hcalls]
      cases Device.busy recorder <;> rfl
    exact hruns.inFlight.awaits (Stage.isAnswerTo_firstStage sequence kind _)
      hlast []
  · intro hnack
    exact absurd (hruns.inFlight.outcome.symm.trans hnack) nofun

theorem Sound.phase_ne_idle (h : transfer.Sound)
    (houtcome : transfer.outcome = .inProgress) : transfer.phase ≠ .idle := by
  cases h with
  | idle hidle hover => exact absurd houtcome hover
  | running hruns => exact hruns.inFlight.stands.phase_ne_idle

/-- Only a transfer that is over is found not to be there. -/
theorem step_outcome_ne (h : transfer.Sound) (device : σ) :
    (transfer.step device).outcome ≠ .usageFault ∧
      (transfer.phase ≠ .idle →
        (transfer.step device).outcome ≠ .softwareFault) := by
  obtain ⟨status, bytes, hbytes, houtcome, hafter⟩ :=
    transfer.step_settles device
  rw [houtcome]
  cases h with
  | idle hidle hover =>
      rw [react_of_idle hidle]
      exact ⟨nofun, fun hactive => absurd hidle hactive⟩
  | running hruns =>
      obtain ⟨hfault, husage⟩ :=
        (hruns.inFlight.react_handles status).outcome_ne
      exact ⟨husage, fun _ => hfault⟩

end Transfer

/-- What an operation that made `calls` can come to: no refusal without a byte
to blame, and no fault of the controller. -/
structure Founded (result : Except Error Unit) (calls : List Call) : Prop where
  nack : ∀ source, result = .error (.nack source) → source.Blames calls
  softwareFault : result ≠ .error .softwareFault

theorem founded_ok (calls : List Call) : Founded (.ok ()) calls :=
  ⟨nofun, nofun⟩

/-- The failures that no event is needed for. -/
theorem founded_of_whole {error : Error}
    (h : error = .usageFault ∨ error = .timeout ∨
      error = .unsupportedOperation) (calls : List Call) :
    Founded (.error error) calls := by
  rcases h with rfl | rfl | rfl
  · exact ⟨nofun, nofun⟩
  · exact ⟨nofun, nofun⟩
  · exact ⟨nofun, nofun⟩

namespace Progress

variable {α : Type} {progress : Progress α} {calls : List Call} {error : Error}

theorem ofOutcome?_of_result?
    (h : progress.result? = some (.error error)) :
    Error.ofOutcome? progress.outcome progress.transfer.nackSource =
      some error := by
  rw [result?] at h
  split at h
  · rename_i failed hfailed
    cases h
    exact hfailed
  · split at h
    · cases h
    · cases h

theorem blames_of_result? {source : NackSource}
    (haccounts : progress.transfer.Accounts calls)
    (hshows : progress.transfer.outcome = progress.outcome)
    (h : progress.result? = some (.error (.nack source))) :
    source.Blames calls := by
  have herror := ofOutcome?_of_result? h
  have hnack := haccounts.nack
  rw [hshows] at hnack
  cases houtcome : progress.outcome with
  | nack =>
      rw [houtcome] at herror
      cases herror
      exact hnack houtcome
  | _ =>
      rw [houtcome] at herror
      cases herror

theorem outcome_of_softwareFault
    (h : progress.result? = some (.error .softwareFault)) :
    progress.outcome = .softwareFault := by
  have herror := ofOutcome?_of_result? h
  cases houtcome : progress.outcome with
  | softwareFault => rfl
  | _ =>
      rw [houtcome] at herror
      cases herror

end Progress

namespace Controller

variable {σ ℓ : Type} [Device σ] [Logger ℓ] {transfer : Transfer}
  {calls : List Call} {patience : Nat} {budget : Option UInt32}
  {sequence : Sequence}

/-- Polls carry the account of a transfer on. -/
theorem advance_accounts (h : transfer.Accounts calls)
    (controller : Controller (Recorder σ) ℓ) :
    let polled := controller.advance transfer
    polled.transfer.outcome = polled.outcome ∧
      polled.outcome ≠ .usageFault ∧
      (transfer.phase ≠ .idle → polled.outcome ≠ .softwareFault) ∧
      ∃ made,
        polled.host.device.calls = controller.device.calls ++ made ∧
        polled.transfer.Accounts (calls ++ made) := by
  intro polled
  have hbare : polled.bare = transfer.step controller.device :=
    controller.bare_advance transfer
  have hshows := Transfer.step_outcome h.sound controller.device
  have hfaults := Transfer.step_outcome_ne h.sound controller.device
  have haccounts := h.step controller.device
  rw [← hbare] at hshows hfaults haccounts
  exact ⟨hshows, hfaults.1, hfaults.2, haccounts⟩

/-- A transfer is driven on an account of its own. -/
theorem drive_founded {start : Recorder σ} {polls : UInt32}
    {controller : Controller (Recorder σ) ℓ}
    {ended : Completion Transfer (Recorder σ) ℓ}
    (hactive : transfer.phase ≠ .idle)
    (hcalls : controller.device.calls = start.calls ++ calls)
    (haccounts : transfer.Accounts calls)
    (hended : drive budget patience polls transfer controller = some ended) :
    ∃ made, ended.controller.device.calls = start.calls ++ made ∧
      Founded ended.result made := by
  refine drive_elim
    (fun transfer polled => transfer.phase ≠ .idle ∧ ∃ made,
      polled.device.calls = start.calls ++ made ∧ transfer.Accounts made)
    (fun ended => ∃ made,
      ended.controller.device.calls = start.calls ++ made ∧
      Founded ended.result made)
    ?_ ?_ ?_ ⟨hactive, calls, hcalls, haccounts⟩ hended
  · rintro transfer polled ⟨hactive, made, hcalls, haccounts⟩ hnone
    obtain ⟨hshows, _, _, more, hmore, hafter⟩ :=
      advance_accounts haccounts polled
    have hrunning := Progress.outcome_of_result?_eq_none hnone
    refine ⟨hafter.sound.phase_ne_idle (hshows.trans hrunning), made ++ more,
      ?_, hafter⟩
    rw [hmore, hcalls, List.append_assoc]
  · rintro transfer polled result ⟨hactive, made, hcalls, haccounts⟩ hresult
    obtain ⟨hshows, _, hfault, more, hmore, hafter⟩ :=
      advance_accounts haccounts polled
    refine ⟨made ++ more, ?_, ?_⟩
    · rw [hmore, hcalls, List.append_assoc]
    · constructor
      · rintro source rfl
        exact Progress.blames_of_result? hafter hshows hresult
      · rintro rfl
        exact hfault hactive (Progress.outcome_of_softwareFault hresult)
  · rintro transfer polled ⟨_, made, hcalls, _⟩
    refine ⟨made ++ .abort :: Transfer.closing, ?_, ?_⟩
    · rw [← List.append_assoc, ← hcalls]
      exact Recorder.calls_run _ polled.device
    · exact founded_of_whole (Or.inr (Or.inl rfl)) _

theorem runSequence_founded (controller : Controller (Recorder σ) ℓ)
    {ran : Completion Sequence (Recorder σ) ℓ}
    (hran : controller.runSequence patience budget sequence = some ran) :
    ∃ made,
      ran.controller.device.calls = controller.device.calls ++ made ∧
      Founded ran.result made := by
  cases hkind : sequence.kind? with
  | none =>
      have hrejected : (controller.start {} sequence).outcome = .usageFault :=
        congrArg Progress.outcome
          (Transfer.start_of_invalid hkind {} controller.device)
      obtain ⟨completion, hcompletion, hresult, _, hdevice⟩ :=
        runSequence_of_rejected hrejected patience budget
      obtain rfl := Option.some.inj (hcompletion.symm.trans hran)
      refine ⟨[], ?_, ?_⟩
      · rw [hdevice, List.append_nil]
      · rw [hresult]
        exact founded_of_whole (Or.inl rfl) _
  | some kind =>
      obtain ⟨hrunning, hruns⟩ := Transfer.start_runs hkind {} controller.device
      obtain ⟨made, hcalls, haccounts⟩ :=
        Transfer.accounts_start hkind {} controller.device
      rw [controller.runSequence_of_inProgress patience budget hrunning,
        Option.map_eq_some_iff] at hran
      obtain ⟨ended, hended, rfl⟩ := hran
      exact drive_founded hruns.inFlight.stands.phase_ne_idle hcalls haccounts
        hended

theorem transaction_founded (controller : Controller (Recorder σ) ℓ)
    {target : Target} {operations : List Operation}
    {ran : Completion (List Operation) (Recorder σ) ℓ}
    (hran : controller.transaction patience target operations = some ran) :
    ∃ made,
      ran.controller.device.calls = controller.device.calls ++ made ∧
      Founded ran.result made := by
  rw [transaction] at hran
  split at hran
  · obtain rfl := Option.some.inj hran
    exact ⟨[], (List.append_nil _).symm, founded_ok _⟩
  · split at hran
    · obtain rfl := Option.some.inj hran
      exact ⟨[], (List.append_nil _).symm,
        founded_of_whole (Or.inr (Or.inr rfl)) _⟩
    · obtain ⟨ended, hended, rfl⟩ := Option.map_eq_some_iff.mp hran
      exact controller.runSequence_founded hended

end Controller

/-- What the caller is told of an operation that has come to an end. -/
def Response.result? : Response → Option (Except Error Unit)
  | .polled result => result
  | .ran result _ | .served result _ => some result
  | _ => none

namespace Session

variable {σ ℓ : Type} [Device σ] [Logger ℓ]
  {session : Session (Recorder σ) ℓ} {account : Nat → List Call}
  {request : Request (Recorder σ)}

def made (session : Session (Recorder σ) ℓ)
    (request : Request (Recorder σ)) : List Call :=
  (session.handle request).2.controller.device.calls.drop
    session.controller.device.calls.length

/-- The calls of the transfer that a request is about, from its beginning to the
end of the request; `account` has those that were made before, by the number of
the transfer. -/
def callsOf (session : Session (Recorder σ) ℓ) (account : Nat → List Call)
    (request : Request (Recorder σ)) : List Call :=
  match request with
  | .advance number | .poll number => account number ++ session.made request
  | _ => session.made request

def enter (session : Session (Recorder σ) ℓ) (account : Nat → List Call)
    (request : Request (Recorder σ)) : Nat → List Call :=
  match request with
  | .start number sequence =>
    if sequence.Proper then
      Function.update account number (session.callsOf account request)
    else account
  | .advance number | .poll number =>
    Function.update account number (session.callsOf account request)
  | _ => account

def enterAll : List (Request (Recorder σ)) → Session (Recorder σ) ℓ →
    (Nat → List Call) → Nat → List Call
  | [], _, account => account
  | request :: rest, session, account =>
    let entered := session.enter account request
    match session.handle request with
    | (.waiting, _) => entered
    | (_, after) => enterAll rest after entered

/-- Every transfer is on account. -/
def Accounted (session : Session (Recorder σ) ℓ)
    (account : Nat → List Call) : Prop :=
  ∀ number, (session.transfers number).Accounts (account number)

structure Truthful (session : Session (Recorder σ) ℓ)
    (account : Nat → List Call) (request : Request (Recorder σ))
    (response : Response) : Prop where
  /-- A refusal is told with the source of the last byte. -/
  nack : ∀ source, response.result? = some (.error (.nack source)) →
    source.Blames (session.callsOf account request)
  /-- Only a poll finds a transfer missing, and only one that is over. -/
  softwareFault : response.result? = some (.error .softwareFault) →
    ∃ number, request = .poll number ∧
      (session.transfers number).phase = .idle
  /-- A poll tells just what the event came to. -/
  poll : ∀ number, request = .poll number →
    let polled := session.controller.advance (session.transfers number)
    response.result? ≠ some (.error .usageFault) ∧
      (polled.outcome = .inProgress ∧ response = .polled none ∨
        ∃ result, response = .polled (some result) ∧ polled.Reports result)

theorem made_eq {calls : List Call}
    (h : (session.handle request).2.controller.device.calls =
      session.controller.device.calls ++ calls) :
    session.made request = calls := by
  rw [made, h, List.drop_left]

/-- What is known of a transfer that is polled for a request. -/
theorem Accounted.polled (h : session.Accounted account) (number : Nat)
    (request : Request (Recorder σ))
    (hafter : (session.handle request).2 = session.keep number
      (session.controller.advance (session.transfers number))) :
    let polled := session.controller.advance (session.transfers number)
    polled.transfer.outcome = polled.outcome ∧
      polled.outcome ≠ .usageFault ∧
      ((session.transfers number).phase ≠ .idle →
        polled.outcome ≠ .softwareFault) ∧
      polled.transfer.Accounts (account number ++ session.made request) := by
  intro polled
  obtain ⟨hshows, husage, hfault, calls, hcalls, haccounts⟩ :=
    Controller.advance_accounts (h number) session.controller
  have hmade : session.made request = calls := by
    apply made_eq
    rw [hafter]
    exact hcalls
  rw [hmade]
  exact ⟨hshows, husage, hfault, haccounts⟩

omit [Device σ] [Logger ℓ] in
/-- One transfer is put in place of another, and its account with it. -/
theorem Accounted.update (h : session.Accounted account) (number : Nat)
    {calls : List Call} {transfer : Transfer}
    (haccounts : transfer.Accounts calls) (other : Nat) :
    (Function.update session.transfers number transfer other).Accounts
      (Function.update account number calls other) := by
  by_cases hother : other = number
  · subst hother
    rw [Function.update_self, Function.update_self]
    exact haccounts
  · rw [Function.update_of_ne hother, Function.update_of_ne hother]
    exact h other

omit [Device σ] [Logger ℓ] in
theorem Accounted.settle {α : Type} (h : session.Accounted account)
    (waiting : Controller (Recorder σ) ℓ)
    (respond : Except Error Unit → α → Response)
    (ended : Option (Completion α (Recorder σ) ℓ)) :
    (session.settle waiting respond ended).2.Accounted account := by
  cases ended with
  | none => exact h
  | some ended => exact h

theorem Accounted.handle (h : session.Accounted account)
    (request : Request (Recorder σ)) :
    (session.handle request).2.Accounted (session.enter account request) := by
  cases request with
  | start number sequence =>
      by_cases hproper : sequence.Proper
      · obtain ⟨kind, hkind⟩ := Sequence.proper_iff.mp hproper
        obtain ⟨calls, hcalls, haccounts⟩ := Transfer.accounts_start hkind
          (session.transfers number) session.controller.device
        have hmade : session.callsOf account (.start number sequence) = calls :=
          made_eq hcalls
        rw [enter, if_pos hproper, hmade]
        exact h.update number haccounts
      · have hsame : (session.handle (.start number sequence)).2.transfers =
            session.transfers := by
          have hkind := Sequence.kind?_eq_none hproper
          simp only [Session.handle, Controller.start, Session.keep,
            Transfer.start_of_invalid hkind, Function.update_eq_self]
        rw [enter, if_neg hproper]
        intro number
        rw [hsame]
        exact h number
  | advance number =>
      obtain ⟨_, _, _, haccounts⟩ := h.polled number (.advance number) rfl
      exact h.update number haccounts
  | poll number =>
      obtain ⟨_, _, _, haccounts⟩ := h.polled number (.poll number) rfl
      exact h.update number haccounts
  | release number =>
      have hreleased := h.update number (h number).release
      rw [Function.update_eq_self] at hreleased
      exact hreleased
  | runSequence patience budget sequence => exact h.settle _ _ _
  | transaction patience target operations => exact h.settle _ _ _
  | read patience target buffer => exact h.settle _ _ _
  | write patience target bytes => exact h.settle _ _ _
  | writeRead patience target bytes buffer => exact h.settle _ _ _
  | _ => exact h

theorem Accounted.poll_truthful (h : session.Accounted account)
    (number : Nat) :
    session.Truthful account (.poll number)
      (session.handle (.poll number)).1 := by
  obtain ⟨hshows, husage, hfault, haccounts⟩ :=
    h.polled number (.poll number) rfl
  refine ⟨fun source => Progress.blames_of_result? haccounts hshows, ?_, ?_⟩
  · intro hresult
    refine ⟨number, rfl, ?_⟩
    by_contra hactive
    exact hfault hactive (Progress.outcome_of_softwareFault hresult)
  · rintro _ ⟨⟩ polled
    refine ⟨fun hresult => ?_, ?_⟩
    · exact (Progress.result?_of_ne_usageFault hresult husage).1 rfl
    · cases hresult : polled.result? with
      | none =>
          exact Or.inl ⟨Progress.outcome_of_result?_eq_none hresult,
            congrArg Response.polled hresult⟩
      | some result =>
          exact Or.inr ⟨result, congrArg Response.polled hresult,
            Progress.result?_eq_some_iff.mp hresult⟩

/-- A blocking operation has only its own calls to answer for. -/
theorem settle_truthful {α : Type} {waiting : Controller (Recorder σ) ℓ}
    {respond : Except Error Unit → α → Response}
    {ended : Option (Completion α (Recorder σ) ℓ)}
    (hhandle : session.handle request = session.settle waiting respond ended)
    (hcalls : session.callsOf account request = session.made request)
    (hpoll : ∀ number, request ≠ .poll number)
    (hrespond : ∀ result back, (respond result back).result? = some result)
    (hfounded : ∀ {ran}, ended = some ran → ∃ made,
      ran.controller.device.calls = session.controller.device.calls ++ made ∧
      Founded ran.result made) :
    session.Truthful account request (session.handle request).1 := by
  rw [hhandle]
  cases ended with
  | none => exact ⟨nofun, nofun, fun number h => absurd h (hpoll number)⟩
  | some ran =>
      obtain ⟨made, hmade, hnack, hfault⟩ := hfounded rfl
      have hsame : session.made request = made := by
        apply made_eq
        rw [hhandle]
        exact hmade
      rw [settle]
      refine ⟨?_, ?_, fun number h => absurd h (hpoll number)⟩
      · rw [hrespond, hcalls, hsame]
        exact fun source hresult => hnack source (Option.some.inj hresult)
      · rw [hrespond]
        exact fun hresult => absurd (Option.some.inj hresult) hfault

theorem Accounted.truthful (h : session.Accounted account)
    (request : Request (Recorder σ)) :
    session.Truthful account request (session.handle request).1 := by
  cases request with
  | poll number => exact h.poll_truthful number
  | runSequence patience budget sequence =>
      exact settle_truthful rfl rfl nofun (fun _ _ => rfl)
        session.controller.runSequence_founded
  | transaction patience target operations =>
      exact settle_truthful rfl rfl nofun (fun _ _ => rfl)
        session.controller.transaction_founded
  | read patience target buffer =>
      exact settle_truthful rfl rfl nofun (fun _ _ => rfl)
        session.controller.transaction_founded
  | write patience target bytes =>
      exact settle_truthful rfl rfl nofun (fun _ _ => rfl)
        session.controller.transaction_founded
  | writeRead patience target bytes buffer =>
      exact settle_truthful rfl rfl nofun (fun _ _ => rfl)
        session.controller.transaction_founded
  | _ => exact ⟨nofun, nofun, nofun⟩

theorem Accounted.handleAll (h : session.Accounted account)
    (requests : List (Request (Recorder σ))) :
    (Session.handleAll requests session).2.Accounted
      (enterAll requests session account) := by
  induction requests generalizing session account with
  | nil => exact h
  | cons request rest ih =>
      have hnext := h.handle request
      rw [Session.handleAll, enterAll]
      generalize session.handle request = answered at hnext ⊢
      obtain ⟨response, after⟩ := answered
      cases response with
      | waiting => exact hnext
      | _ => exact ih hnext

/-- After whatever was asked of a controller, on whatever device, a transfer
that has ended with a refusal blames the last byte that it put on the bus since
it was begun.  So does every answer that tells of a refusal, by whatever
operation it was met.  No answer tells of a fault of the controller, except that
a poll finds nothing to do for a transfer that is over. -/
theorem handleAll_blames {σ ℓ : Type} [Device σ] [Logger ℓ]
    (controller : Controller (Recorder σ) ℓ)
    (requests : List (Request (Recorder σ))) :
    let begun : Session (Recorder σ) ℓ := { controller }
    let session := (handleAll requests begun).2
    let account := enterAll requests begun fun _ => []
    (∀ number, (session.transfers number).outcome = .nack →
      (session.transfers number).nackSource.Blames (account number)) ∧
      ∀ request,
        session.Truthful account request (session.handle request).1 := by
  intro begun session account
  have hbegun : begun.Accounted fun _ => [] := fun _ => Transfer.accounts_new
  have haccounts : session.Accounted account := hbegun.handleAll requests
  exact ⟨fun number => (haccounts number).nack, haccounts.truthful⟩

/-- One transfer is refused its address, and then in its second life a byte of
data. -/
example :
    let bench := { Bench.withResponder [] with
      refusedAddresses := [0xa2], refusedData := some 1 }
    let begun : Session (Recorder Bench) Silent :=
      { controller := ⟨{ device := bench }, .standard .one, {}⟩ }
    let requests : List (Request (Recorder Bench)) :=
      [.start 0 (.write 0x51 [1]), .advance 0]
    let more : List (Request (Recorder Bench)) :=
      [.start 0 (.write 0x50 [1, 2, 3]), .advance 0, .advance 0, .advance 0]
    let source (requests : List (Request (Recorder Bench))) :=
      ((handleAll requests begun).2.transfers 0).nackSource
    let last? (requests : List (Request (Recorder Bench))) :=
      Call.lastByte? (enterAll requests begun (fun _ => []) 0)
    source requests = .address ∧
      last? requests = some (.writeAddress 0xa2) ∧
      source (requests ++ more) = .data ∧
      last? (requests ++ more) = some (.writeData 2) := by
  decide

end Session

end TwoWire
