/-
What the target of a bench does.

Each call is described by the flags it leaves and by the bytes that remain to
be given; how the target answers never changes.
-/
import TwoWire.Bench
import TwoWire.Proofs.Event

namespace TwoWire.Bench

variable {bench : Bench} {source : Interrupt} {byte : UInt8}
  {calls more : List Call} {count : Nat}

/-- What decides how the target answers. -/
def terms (bench : Bench) : Bool × List UInt8 × Option Nat :=
  (bench.responder, bench.refusedAddresses, bench.refusedData)

theorem offer_eq (bench : Bench) :
    ∃ pending, bench.offer = { bench with pending } := by
  rw [offer]
  split
  · exact ⟨_, rfl⟩
  · exact ⟨_, rfl⟩

/-- An address is answered with flags, and nothing else changes. -/
theorem takeAddress_eq (bench : Bench) (byte : UInt8) :
    ∃ pending, bench.takeAddress byte = { bench with pending } := by
  rw [takeAddress]
  split
  · exact ⟨_, rfl⟩
  · split
    · exact ⟨_, rfl⟩
    · split
      · exact offer_eq (bench.answer false)
      · exact ⟨_, rfl⟩

theorem takeData_eq (bench : Bench) :
    ∃ pending dataWritten,
      bench.takeData = { bench with pending, dataWritten } := by
  rw [takeData]
  split
  · exact ⟨_, _, rfl⟩
  · exact ⟨_, _, rfl⟩

/-- The target gives bytes to those who read, and changes its mind for
nobody. -/
theorem perform_keeps (call : Call) (bench : Bench) :
    (perform call bench).terms = bench.terms ∧
      (perform call bench).received =
        if call = .readData then bench.received.tail else bench.received := by
  cases call with
  | writeAddress byte =>
      obtain ⟨pending, htake⟩ := bench.takeAddress_eq byte
      rw [perform, htake]
      exact ⟨rfl, rfl⟩
  | writeData byte =>
      obtain ⟨pending, dataWritten, htake⟩ := bench.takeData_eq
      rw [perform, htake]
      exact ⟨rfl, rfl⟩
  | ack =>
      obtain ⟨pending, hoffer⟩ := bench.offer_eq
      rw [perform, hoffer]
      exact ⟨rfl, rfl⟩
  | _ => exact ⟨rfl, rfl⟩

theorem run_terms (calls : List Call) (bench : Bench) :
    (Device.run calls bench).2.terms = bench.terms := by
  induction calls generalizing bench with
  | nil => rfl
  | cons call rest ih => exact (ih _).trans (perform_keeps call bench).1

/-- The bytes that come in are the next ones that the target has. -/
theorem run_received (h : calls.count .readData ≤ bench.received.length) :
    (Device.run calls bench).1 ++ (Device.run calls bench).2.received =
      bench.received := by
  induction calls generalizing bench with
  | nil => rfl
  | cons call rest ih =>
      have hperform := (perform_keeps call bench).2
      by_cases hcall : call = .readData
      · subst hcall
        rw [List.count_cons_self] at h
        obtain ⟨head, tail, hqueue⟩ :=
          List.exists_cons_of_length_pos (Nat.zero_lt_of_lt h)
        rw [if_pos rfl, hqueue, List.tail_cons] at hperform
        have hrest := @ih (perform .readData bench) (by
          rw [hperform]
          rw [hqueue] at h
          exact Nat.le_of_succ_le_succ h)
        rw [hperform] at hrest
        rw [hqueue, ← hrest]
        simp [Device.run, Device.perform, Device.received, hqueue]
      · rw [if_neg hcall] at hperform
        rw [List.count_cons_of_ne hcall] at h
        have hrest := @ih (perform call bench) (hperform ▸ h)
        rw [hperform] at hrest
        simpa [Device.run, Device.perform, hcall] using hrest

/-- Before the first address byte goes out, every flag is taken down. -/
theorem run_begin (bench : Bench) (byte : UInt8) (busy : Bool) :
    ∃ quieted after : Bench,
      Device.run (Call.beginning busy byte) bench = ([], after) ∧
      after.pending = (quieted.takeAddress byte).pending ∧
      quieted.terms = bench.terms ∧ quieted.received = bench.received ∧
      ∀ source, source ∉ quieted.pending := by
  have hnone : ∀ source, source ∉ (bench.lower .all).pending := by
    simp [lower]
  cases busy with
  | true =>
      exact ⟨{ bench.lower .all with
        enabled := bench.enabled ∪ .transfer, busy := false }, _, rfl, rfl,
        rfl, rfl, hnone⟩
  | false =>
      exact ⟨{ bench.lower .all with enabled := bench.enabled ∪ .transfer }, _,
        rfl, rfl, rfl, rfl, hnone⟩

theorem mem_offer (hresponder : bench.responder = true) :
    source ∈ bench.offer.pending ↔
      source ∈ bench.pending ∨
        bench.received ≠ [] ∧ source = .dataReceived := by
  by_cases hempty : bench.received = []
  · simp [offer, hempty]
  · simp [offer, raise, hresponder, hempty]

/-- An address that is not refused is acknowledged, and if it asks for data the
first byte comes along. -/
theorem mem_takeAddress (hresponder : bench.responder = true)
    (haccepted : byte ∉ bench.refusedAddresses) :
    source ∈ (bench.takeAddress byte).pending ↔
      source ∈ bench.pending ∨ source = .ackReceived ∨
        byte &&& 1 = 1 ∧ bench.received ≠ [] ∧ source = .dataReceived := by
  by_cases hodd : byte &&& 1 = 1
  · have hoffer := @mem_offer (bench.answer false) source hresponder
    simpa [takeAddress, hresponder, haccepted, hodd, answer, raise, or_assoc]
      using hoffer
  · simp [takeAddress, hresponder, haccepted, hodd, answer, raise]

theorem mem_takeData (hresponder : bench.responder = true)
    (hdata : bench.refusedData = none) :
    source ∈ bench.takeData.pending ↔
      source ∈ bench.pending ∨ source = .ackReceived := by
  simp [takeData, hresponder, hdata, answer, raise]

theorem mem_lower {set : Interrupts} :
    source ∈ (bench.lower set).pending ↔
      source ∈ bench.pending ∧ source ∉ set := by
  simp [lower]

/-- The bus is free, and nothing that drives a transfer is left over. -/
structure AtRest (bench : Bench) : Prop where
  busy : bench.busy = false
  pending : ∀ source ∈ Interrupts.transfer, source ∉ bench.pending
  enabled : ∀ source ∈ Interrupts.transfer, source ∉ bench.enabled

theorem atRest_of_stop (calls : List Call) (bench : Bench) :
    (Device.run (calls ++ .stop :: Transfer.closing) bench).2.AtRest := by
  rw [Device.run_append]
  constructor
  · rfl
  · intro source hsource hpending
    exact (Interrupts.mem_sdiff.mp hpending).2 hsource
  · intro source hsource henabled
    exact (Interrupts.mem_sdiff.mp henabled).2 hsource

end TwoWire.Bench
