/-
Nothing is left of earlier transfers.

Beginning a sequence takes every flag down, gives up a bus that was busy and
sets the transfer up anew.  From then on a run depends on the bytes of the
target and on how it answers, and on the flags that come up later: two runs on
targets that are alike make the same calls and come to the same results.
-/
import TwoWire.Proofs.Course
import TwoWire.Proofs.Responder

namespace TwoWire

open Sequence (Kind)

namespace Bench

variable {bench one other : Bench}

/-- The bench without what transfers never look at. -/
def visible (bench : Bench) : Bench :=
  { bench with
    enabled := ∅
    ratio := .standard
    divider := 0
    referenceClock := 0 }

def stir (change : Interrupts → Interrupts) (bench : Bench) : Bench :=
  { bench with pending := change bench.pending }

theorem visible_offer (bench : Bench) :
    bench.offer.visible = bench.visible.offer := by
  rw [offer, apply_ite visible]
  rfl

theorem visible_takeAddress (bench : Bench) (byte : UInt8) :
    (bench.takeAddress byte).visible = bench.visible.takeAddress byte := by
  simp only [takeAddress, apply_ite visible, visible_offer]
  rfl

theorem visible_takeData (bench : Bench) :
    bench.takeData.visible = bench.visible.takeData := by
  rw [takeData, apply_ite visible]
  rfl

/-- No call lets what is invisible be seen. -/
theorem visible_perform (call : Call) (bench : Bench) :
    (perform call bench).visible = (perform call bench.visible).visible := by
  cases call with
  | writeAddress byte =>
      exact (bench.visible_takeAddress byte).trans
        (bench.visible.visible_takeAddress byte).symm
  | writeData byte =>
      exact bench.visible_takeData.trans bench.visible.visible_takeData.symm
  | ack => exact bench.visible_offer.trans bench.visible.visible_offer.symm
  | _ => rfl

theorem perform_congr (h : one.visible = other.visible) (call : Call) :
    (perform call one).visible = (perform call other).visible := by
  rw [visible_perform, h, ← visible_perform]

theorem stir_congr (h : one.visible = other.visible)
    (change : Interrupts → Interrupts) :
    (one.stir change).visible = (other.stir change).visible :=
  congrArg (stir change) h

end Bench

/-- Benches that look alike, with the same record but for the beginning, which
is `front` on one and `back` on the other. -/
structure Recorder.Parallels (one other : Recorder Bench)
    (front back : List Entry) : Prop where
  visible : one.device.visible = other.device.visible
  entries : ∃ common, one.entries.toList = front ++ common ∧
    other.entries.toList = back ++ common

namespace Recorder.Parallels

variable {one other : Recorder Bench} {front back : List Entry}

theorem received (h : one.Parallels other front back) :
    Device.received one = Device.received other := by
  have hqueue := congrArg Bench.received h.visible
  exact congrArg (fun queue => queue.headD Bench.idleByte) hqueue

theorem pending (h : one.Parallels other front back) :
    one.device.pending = other.device.pending := by
  have hpending := congrArg Bench.pending h.visible
  exact hpending

theorem busy (h : one.Parallels other front back) :
    Device.busy one = Device.busy other := by
  have hbusy := congrArg Bench.busy h.visible
  exact hbusy

theorem perform (h : one.Parallels other front back) (call : Call) :
    (Device.perform call one).Parallels (Device.perform call other) front
      back := by
  refine ⟨Bench.perform_congr h.visible call, ?_⟩
  obtain ⟨common, hone, hother⟩ := h.entries
  let byte := if call = .readData then some (Device.received one) else none
  have hbyte : byte =
      if call = .readData then some (Device.received other) else none := by
    rw [← h.received]
  refine ⟨common ++ [⟨call, byte⟩], ?_, ?_⟩
  · rw [← List.append_assoc, ← hone]
    exact Array.toList_push
  · rw [← List.append_assoc, ← hother, hbyte]
    exact Array.toList_push

theorem run (h : one.Parallels other front back) (calls : List Call) :
    (Device.run calls one).1 = (Device.run calls other).1 ∧
      (Device.run calls one).2.Parallels (Device.run calls other).2 front
        back := by
  induction calls generalizing one other with
  | nil => exact ⟨rfl, h⟩
  | cons call rest ih =>
      obtain ⟨hbytes, hafter⟩ := ih (h.perform call)
      refine ⟨?_, hafter⟩
      simp only [Device.run, hbytes, h.received]

end Recorder.Parallels

namespace Progress

/-- Two runs that cannot be told apart, on recorders that run side by side. -/
structure Parallels (one other : Progress (Recorder Bench))
    (front back : List Entry) : Prop where
  outcome : one.outcome = other.outcome
  transfer : one.transfer = other.transfer
  host : one.host.Parallels other.host front back

variable {one other : Progress (Recorder Bench)} {front back : List Entry}

theorem perform_parallels {one other : Recorder Bench}
    (h : one.Parallels other front back) (reaction : Reaction) :
    (Transfer.perform reaction one).Parallels (Transfer.perform reaction other)
      front back := by
  obtain ⟨hbytes, hafter⟩ := h.run reaction.calls
  refine ⟨rfl, ?_, hafter⟩
  exact congrArg (fun bytes => bytes.foldl Transfer.store reaction.next) hbytes

theorem Parallels.next (h : one.Parallels other front back) :
    one.next.Parallels other.next front back := by
  rw [next_eq, next_eq, h.transfer, h.host.pending]
  exact perform_parallels h.host _

theorem Parallels.start (h : one.Parallels other front back)
    (sequence : Sequence) :
    (one.transfer.start sequence one.host).Parallels
      (other.transfer.start sequence other.host) front back := by
  rw [Transfer.start, Transfer.start, h.host.busy]
  cases Transfer.begin? sequence (Device.busy other.host) with
  | none => exact ⟨rfl, h.transfer, h.host⟩
  | some reaction => exact perform_parallels h.host reaction

theorem Parallels.act (h : one.Parallels other front back)
    (deed : Deed (Interrupts → Interrupts)) :
    (one.act Bench.stir deed).Parallels (other.act Bench.stir deed) front
      back := by
  cases deed with
  | meanwhile change =>
      exact ⟨h.outcome, h.transfer, Bench.stir_congr h.host.visible change,
        h.host.entries⟩
  | start sequence => exact h.start sequence
  | step => exact h.next
  | release =>
      refine ⟨h.outcome, ?_, h.host⟩
      exact congrArg (fun transfer => transfer.release.2) h.transfer

theorem Parallels.course (h : one.Parallels other front back)
    (deeds : List (Deed (Interrupts → Interrupts))) :
    (one.course Bench.stir deeds).Parallels (other.course Bench.stir deeds)
      front back := by
  induction deeds generalizing one other with
  | nil => exact h
  | cons deed rest ih => exact ih (h.act deed)

end Progress

theorem Interrupts.sdiff_all (set : Interrupts) : set \ all = ∅ := by
  have hnone : all.complement = ∅ := by decide
  have hsdiff : set \ all = set ∩ ∅ := congrArg (set ∩ ·) hnone
  rw [hsdiff]
  exact Interrupts.ext BitVec.and_zero

namespace Recorder

/-- The call that gives up what the bus is still busy with. -/
def abandoning (recorder : Recorder Bench) : List Entry :=
  if recorder.device.busy then [⟨.abort, none⟩] else []

/-- What a sequence is begun with, before the first address byte goes out. -/
def calming (busy : Bool) : List Call :=
  (if busy then [.abort] else []) ++ [.clearTransmit, .clearInterrupts .all]

/-- No flag is up any more, not even one without a name, and the bus is free. -/
theorem run_calming (recorder : Recorder Bench) :
    let calm := (Device.run (calming recorder.device.busy) recorder).2
    calm.device.visible =
        { recorder.device.visible with pending := ∅, busy := false } ∧
      calm.entries.toList = recorder.entries.toList ++ recorder.abandoning ++
        [⟨.clearTransmit, none⟩, ⟨.clearInterrupts .all, none⟩] := by
  have hnone : recorder.device.pending \ .all = ∅ :=
    Interrupts.sdiff_all recorder.device.pending
  cases hbusy : recorder.device.busy with
  | true =>
      simp [calming, abandoning, hbusy, Device.run, Device.perform,
        Bench.perform, Bench.lower, hnone, Bench.visible]
  | false =>
      simp [calming, abandoning, hbusy, Device.run, Device.perform,
        Bench.perform, Bench.lower, hnone, Bench.visible]

end Recorder

namespace Transfer

variable {sequence : Sequence} {kind : Kind}

def opening (sequence : Sequence) (kind : Kind) : List Call :=
  [.enableInterrupts .transfer,
    .writeAddress (sequence.header (sequence.readsAtOnce kind)), .start]

/-- A transfer that is begun has nothing of the one it takes the place of. -/
theorem start_eq (h : sequence.kind? = some kind) (transfer : Transfer)
    (recorder : Recorder Bench) :
    transfer.start sequence recorder =
      { outcome := .inProgress
        transfer :=
          { held := some sequence
            kind
            phase := .address
            outcome := .inProgress }
        host :=
          let calming := Recorder.calming recorder.device.busy
          (Device.run (opening sequence kind)
            (Device.run calming recorder).2).2 } := by
  have hbusy : Device.busy recorder = recorder.device.busy := rfl
  rw [start, begin?, h, hbusy]
  cases recorder.device.busy with
  | true => rfl
  | false => rfl

theorem start_parallels {one other : Recorder Bench}
    (h : sequence.kind? = some kind)
    (hterms : one.device.terms = other.device.terms)
    (hreceived : one.device.received = other.device.received)
    (hdata : one.device.dataWritten = other.device.dataWritten)
    (transfer another : Transfer) :
    (transfer.start sequence one).Parallels (another.start sequence other)
      (one.entries.toList ++ one.abandoning)
      (other.entries.toList ++ other.abandoning) := by
  obtain ⟨hone, honeEntries⟩ := one.run_calming
  obtain ⟨hother, hotherEntries⟩ := other.run_calming
  have hvisible : { one.device.visible with pending := ∅, busy := false } =
      { other.device.visible with pending := ∅, busy := false } := by
    simp only [Bench.terms, Prod.mk.injEq] at hterms
    simp [Bench.visible, hterms, hreceived, hdata]
  -- calm benches look alike, before the first address byte can raise a flag
  have hcalm := (Recorder.Parallels.mk (hone.trans (hvisible.trans hother.symm))
    ⟨_, honeEntries, hotherEntries⟩).run (opening sequence kind)
  rw [start_eq h, start_eq h]
  exact ⟨rfl, rfl, hcalm.2⟩

end Transfer

namespace Progress

/-- Nothing of earlier transfers is left in a run.  Take any two transfers, on
benches whose targets have the same bytes to give and answer alike, and begin
the same sequence on both.  Whatever is done with them then and whatever flags
come up, the two make the same calls, take the same bytes and come to the same
results, in this run and in those that follow.  All that tells them apart is
that a bus that was busy is given up at first. -/
theorem course_forgets {sequence : Sequence} {kind : Kind}
    (h : sequence.kind? = some kind) {one other : Recorder Bench}
    (hterms : one.device.terms = other.device.terms)
    (hreceived : one.device.received = other.device.received)
    (hdata : one.device.dataWritten = other.device.dataWritten)
    (transfer another : Transfer)
    (deeds : List (Deed (Interrupts → Interrupts))) :
    let begun := transfer.start sequence one
    let again := another.start sequence other
    let after := begun.course Bench.stir deeds
    let twin := again.course Bench.stir deeds
    begun.transfer = again.transfer ∧
      after.outcome = twin.outcome ∧
      after.transfer = twin.transfer ∧
      after.host.device.visible = twin.host.device.visible ∧
      ∃ common,
        after.host.entries.toList = one.entries.toList ++
          (if one.device.busy then [⟨.abort, none⟩] else []) ++ common ∧
        twin.host.entries.toList = other.entries.toList ++
          (if other.device.busy then [⟨.abort, none⟩] else []) ++ common := by
  intro begun again after twin
  have hbegun := Transfer.start_parallels h hterms hreceived hdata transfer
    another
  have hafter := hbegun.course deeds
  exact ⟨hbegun.transfer, hafter.outcome, hafter.transfer, hafter.host.visible,
    hafter.host.entries⟩

/-- A read that meets a bus error, once from scratch and once begun in the
middle of a write, on a busy bus with every bit of the flag word set. -/
theorem course_forgets_stale :
    let fresh : Recorder Bench := { device := Bench.withResponder [7, 8] }
    let stale : Recorder Bench :=
      { device :=
          { Bench.withResponder [7, 8] with
            pending := ⟨0xffffffff⟩, enabled := .all, busy := true }
        entries := #[⟨.writeData 1, none⟩] }
    let sequence := Sequence.read 0x50 [0, 0]
    let stopped :=
      (({} : Transfer).start (.write 0x21 [1]) ({} : Bench)).transfer
    let deeds : List (Deed (Interrupts → Interrupts)) :=
      [.step, .meanwhile (· ∪ {Interrupt.busError}), .step]
    let after := (({} : Transfer).start sequence fresh).course Bench.stir deeds
    let twin := (stopped.start sequence stale).course Bench.stir deeds
    sequence.kind? = some .read ∧
      fresh.device.terms = stale.device.terms ∧
      fresh.device.received = stale.device.received ∧
      fresh.device.dataWritten = stale.device.dataWritten ∧
      stopped.phase = .address ∧ after.outcome = .busError ∧
      twin.outcome = .busError ∧ after.transfer = twin.transfer ∧
      ∃ common, after.host.entries.toList = common ∧
        twin.host.entries.toList =
          [⟨.writeData 1, none⟩, ⟨.abort, none⟩] ++ common := by
  intro fresh stale sequence stopped deeds after twin
  have hkind : sequence.kind? = some .read := by decide
  have hterms : fresh.device.terms = stale.device.terms := rfl
  have hreceived : fresh.device.received = stale.device.received := rfl
  have hdata : fresh.device.dataWritten = stale.device.dataWritten := rfl
  have hbroken : after.outcome = .busError := by decide
  obtain ⟨_, houtcome, htransfer, _, common, hfresh, hstale⟩ :=
    course_forgets hkind hterms hreceived hdata {} stopped deeds
  exact ⟨hkind, hterms, hreceived, hdata, rfl, hbroken,
    houtcome.symm.trans hbroken, htransfer, common, hfresh, hstale⟩

end Progress

end TwoWire
