/-
What becomes of the records of a ring.

A record that gets in stays until it is taken out or evicted, and either happens
at the front.  So books of what came in and of what left, begun anew whenever
the ring is emptied, come out even: the ring holds the newest records, all
others have left in the order they came, and the counter of the ring says how
many of them were evicted, as far as it can count.
-/
import TwoWire.Log.Ring

namespace TwoWire.Log

/-- A message for a logger, by any of the ways there are to hand one over. -/
inductive Submission where
  | log (level : Level) (message : String)
  | debug (message : String)
  | info (message : String)
  | error (message : String)
deriving DecidableEq, Repr

namespace Submission

def level : Submission → Level
  | log level _ => level
  | debug _ => .debug
  | info _ => .info
  | error _ => .error

def message : Submission → String
  | log _ message | debug message | info message | error message => message

def deliver {ℓ : Type} [Logger ℓ] (logger : ℓ) : Submission → ℓ
  | log level message => Logger.log level message logger
  | debug message => Logger.debug message logger
  | info message => Logger.info message logger
  | error message => Logger.error message logger

/-- Hands a message over to a logger that is lent on so many times. -/
def deliverVia (submission : Submission) :
    (loans : Nat) → {ℓ : Type} → [Logger ℓ] → ℓ → ℓ
  | 0, _, _, logger => submission.deliver logger
  | loans + 1, ℓ, _, logger =>
    (deliverVia submission loans ({ owned := logger } : Lent ℓ)).owned

/-- Whichever way a message takes, it arrives. -/
theorem deliverVia_eq (submission : Submission) (loans : Nat) {ℓ : Type}
    [Logger ℓ] (logger : ℓ) :
    submission.deliverVia loans logger =
      Logger.log submission.level submission.message logger := by
  induction loans generalizing ℓ with
  | zero => cases submission <;> rfl
  | succ loans ih => exact congrArg Lent.owned (ih (⟨logger⟩ : Lent ℓ))

def record (submission : Submission) : Record :=
  ⟨submission.level, clip submission.message⟩

def accepted (minLevel : Level) (submission : Submission) : List Record :=
  if minLevel.rank ≤ submission.level.rank then [submission.record] else []

end Submission

inductive Use where
  | submit (loans : Nat) (submission : Submission)
  | pop
  | clear
deriving DecidableEq, Repr

namespace Ring

variable {ring : Ring}

def act (ring : Ring) : Use → Ring
  | .submit loans submission => submission.deliverVia loans ring
  | .pop => ring.popOldest.2
  | .clear => ring.clear

theorem act_settings (ring : Ring) (use : Use) :
    (ring.act use).capacity = ring.capacity ∧
      (ring.act use).minLevel = ring.minLevel := by
  cases use with
  | submit loans submission =>
      rw [act, submission.deliverVia_eq]
      simp only [Logger.log, log, makeRoom]
      split
      · split <;> exact ⟨rfl, rfl⟩
      · exact ⟨rfl, rfl⟩
  | pop => exact ⟨rfl, rfl⟩
  | clear => exact ⟨rfl, rfl⟩

theorem toNat_countUp (count : UInt32) :
    (countUp count).toNat = min (count.toNat + 1) 0xffffffff := by
  have hlt := count.toNat_lt
  have hmax : (-1 : UInt32).toNat = 0xffffffff := by decide
  by_cases h : count = -1
  · rw [countUp, if_pos h, h, hmax]
    rfl
  · have hne : count.toNat ≠ 0xffffffff := by
      rw [← hmax]
      exact fun heq => h (UInt32.toNat_inj.mp heq)
    have hone : (1 : UInt32).toNat = 1 := rfl
    rw [countUp, if_neg h, UInt32.toNat_add]
    omega

theorem popOldest_append (ring : Ring) :
    ring.popOldest.1.toList ++ ring.popOldest.2.records = ring.records := by
  cases h : ring.records <;> simp [popOldest, h]

/-- The records that a message displaces: so many at the front that the others
and what comes in are all there is afterwards. -/
def displaced (ring : Ring) (loans : Nat) (submission : Submission) :
    List Record :=
  let incoming := submission.accepted ring.minLevel
  let after := ring.act (.submit loans submission)
  ring.records.take (ring.size + incoming.length - after.size)

/-- What a message may do to a ring, and the records that it may displace. -/
inductive Admission (ring : Ring) (submission : Submission) :
    Ring → List Record → Prop where
  | filtered (hnone : submission.accepted ring.minLevel = []) :
    Admission ring submission ring []
  | stored {record : Record}
    (hone : submission.accepted ring.minLevel = [record])
    (hfree : ring.size < ring.capacity) :
    Admission ring submission
      { ring with records := ring.records ++ [record] } []
  | crowded {record oldest : Record} {kept : List Record}
    (hone : submission.accepted ring.minLevel = [record])
    (hfull : ring.size = ring.capacity)
    (hrecords : ring.records = oldest :: kept) :
    Admission ring submission
      { ring with
        records := kept ++ [record]
        dropped := countUp ring.dropped } [oldest]

theorem act_submit_eq (ring : Ring) (loans : Nat) (submission : Submission) :
    ring.act (.submit loans submission) =
      ring.log submission.level submission.message :=
  submission.deliverVia_eq loans ring

theorem act_of_lt {submission : Submission}
    (h : submission.level.rank < ring.minLevel.rank) (loans : Nat) :
    ring.act (.submit loans submission) = ring := by
  have hlow : ¬ ring.minLevel.rank ≤ submission.level.rank :=
    Nat.not_le_of_lt h
  rw [act_submit_eq, Ring.log, if_neg]
  simp [accepts, hlow]

theorem act_of_le {submission : Submission}
    (h : ring.minLevel.rank ≤ submission.level.rank)
    (hroom : 0 < ring.capacity) (loans : Nat) :
    ring.act (.submit loans submission) =
      { ring.makeRoom with
        records := ring.makeRoom.records ++ [submission.record] } := by
  have hpositive : ring.capacity ≠ 0 := Nat.ne_of_gt hroom
  rw [act_submit_eq, Ring.log, if_pos]
  · rfl
  · simp [accepts, h, hpositive]

theorem exists_cons_of_full (hroom : 0 < ring.capacity)
    (hfull : ring.size = ring.capacity) :
    ∃ oldest kept, ring.records = oldest :: kept := by
  apply List.exists_cons_of_length_pos
  rw [← size, hfull]
  exact hroom

theorem admission (hroom : 0 < ring.capacity) (hsize : ring.size ≤ ring.capacity)
    (loans : Nat) (submission : Submission) :
    ring.Admission submission (ring.act (.submit loans submission))
      (ring.displaced loans submission) := by
  by_cases hlevel : ring.minLevel.rank ≤ submission.level.rank
  · have hone : submission.accepted ring.minLevel = [submission.record] :=
      if_pos hlevel
    have hafter := act_of_le hlevel hroom loans
    by_cases hfree : ring.size < ring.capacity
    · rw [makeRoom, if_pos hfree] at hafter
      have hnobody : ring.displaced loans submission = [] := by
        simp [displaced, hafter, hone, size]
      rw [hafter, hnobody]
      exact .stored hone hfree
    · rw [makeRoom, if_neg hfree] at hafter
      have hfull : ring.size = ring.capacity := by omega
      obtain ⟨oldest, kept, hrecords⟩ := exists_cons_of_full hroom hfull
      have holdest : ring.displaced loans submission = [oldest] := by
        simp [displaced, hafter, hone, size, hrecords]
      rw [hafter, holdest, hrecords]
      exact .crowded hone hfull hrecords
  · have hnone : submission.accepted ring.minLevel = [] := if_neg hlevel
    have hafter := act_of_lt (Nat.lt_of_not_le hlevel) loans
    have hnobody : ring.displaced loans submission = [] := by
      simp [displaced, hafter, hnone]
    rw [hafter, hnobody]
    exact .filtered hnone

theorem Admission.of_displaced {submission : Submission} {after : Ring}
    {displaced : List Record} (h : ring.Admission submission after displaced)
    (hdisplaced : displaced ≠ []) :
    ring.size = ring.capacity ∧ ∃ oldest kept,
      ring.records = oldest :: kept ∧ displaced = [oldest] ∧
      after.records = kept ++ submission.accepted ring.minLevel := by
  cases h with
  | filtered hnone => exact absurd rfl hdisplaced
  | stored hone hfree => exact absurd rfl hdisplaced
  | crowded hone hfull hrecords =>
      rw [hone]
      exact ⟨hfull, _, _, hrecords, rfl, rfl⟩

end Ring

inductive Exit where
  | taken
  | evicted
deriving DecidableEq, Repr

structure Departure where
  record : Record
  exit : Exit
deriving DecidableEq, Repr

/-- A ring with the books since it was last emptied. -/
structure Ledger where
  ring : Ring
  /-- The records that came in. -/
  accepted : List Record := []
  /-- The records that left. -/
  gone : List Departure := []

namespace Ledger

variable {ledger : Ledger}

def act (ledger : Ledger) (use : Use) : Ledger :=
  let ring := ledger.ring
  match use with
  | .submit loans submission =>
    let evicted := ring.displaced loans submission
    { ring := ring.act use
      accepted := ledger.accepted ++ submission.accepted ring.minLevel
      gone := ledger.gone ++ evicted.map (⟨·, .evicted⟩) }
  | .pop =>
    let taken := ring.popOldest.1.toList
    { ledger with
      ring := ring.act use
      gone := ledger.gone ++ taken.map (⟨·, .taken⟩) }
  | .clear => { ring := ring.act use }

def run (uses : List Use) (ledger : Ledger) : Ledger :=
  uses.foldl act ledger

def count (ledger : Ledger) (exit : Exit) : Nat :=
  ledger.gone.countP fun departure => departure.exit = exit

theorem act_ring (ledger : Ledger) (use : Use) :
    (ledger.act use).ring = ledger.ring.act use := by
  cases use <;> rfl

theorem run_ring (uses : List Use) (ledger : Ledger) :
    (ledger.run uses).ring = uses.foldl Ring.act ledger.ring := by
  induction uses generalizing ledger with
  | nil => rfl
  | cons use rest ih => exact (ih (ledger.act use)).trans (by rw [act_ring]; rfl)

theorem run_settings (uses : List Use) (ledger : Ledger) :
    (ledger.run uses).ring.capacity = ledger.ring.capacity ∧
      (ledger.run uses).ring.minLevel = ledger.ring.minLevel := by
  induction uses generalizing ledger with
  | nil => exact ⟨rfl, rfl⟩
  | cons use rest ih =>
      have hkept := ledger.ring.act_settings use
      rw [← act_ring] at hkept
      exact ⟨(ih _).1.trans hkept.1, (ih _).2.trans hkept.2⟩

theorem count_add_count (ledger : Ledger) :
    ledger.count .taken + ledger.count .evicted = ledger.gone.length := by
  rw [count, count, List.length_eq_countP_add_countP
    (fun departure : Departure => departure.exit = .taken)]
  congr 2
  funext departure
  cases departure.exit <;> rfl

/-- The books come out even. -/
structure Balanced (ledger : Ledger) : Prop where
  size_le : ledger.ring.size ≤ ledger.ring.capacity
  accepted : ledger.accepted =
    ledger.gone.map Departure.record ++ ledger.ring.records
  dropped : ledger.ring.dropped.toNat =
    min (ledger.count .evicted) 0xffffffff

namespace Balanced

theorem submit (h : ledger.Balanced) {submission : Submission} {after : Ring}
    {evicted : List Record}
    (hadmission : ledger.ring.Admission submission after evicted) :
    Balanced
      { ring := after
        accepted :=
          ledger.accepted ++ submission.accepted ledger.ring.minLevel
        gone := ledger.gone ++ evicted.map (⟨·, .evicted⟩) } := by
  cases hadmission with
  | filtered hnone => simpa [hnone] using h
  | stored hone hfree =>
      constructor
      · simpa [Ring.size] using Nat.succ_le_of_lt hfree
      · simp [hone, h.accepted]
      · simpa [count] using h.dropped
  | crowded hone hfull hrecords =>
      -- The oldest record changes sides, so the order is as it was.
      constructor
      · simpa [Ring.size, hrecords] using Nat.le_of_eq hfull
      · simp [hone, h.accepted, hrecords]
      · have hdropped := h.dropped
        simp only [count, List.map_singleton, List.countP_append,
          List.countP_singleton, decide_true, if_true, Ring.toNat_countUp]
          at hdropped ⊢
        omega

theorem pop (h : ledger.Balanced) : (ledger.act .pop).Balanced := by
  constructor
  · have hsize := h.size_le
    simp only [Ring.size, Ledger.act, Ring.act, Ring.popOldest,
      List.length_tail] at hsize ⊢
    omega
  · refine h.accepted.trans ?_
    rw [← ledger.ring.popOldest_append]
    simp [Ledger.act, Ring.act, Function.comp_def]
  · simpa [Ledger.act, Ring.act, Ring.popOldest, count, Function.comp_def]
      using h.dropped

theorem act (h : ledger.Balanced) (hroom : 0 < ledger.ring.capacity)
    (use : Use) : (ledger.act use).Balanced := by
  cases use with
  | submit loans submission =>
      exact h.submit (Ring.admission hroom h.size_le loans submission)
  | pop => exact h.pop
  | clear => exact ⟨Nat.zero_le _, rfl, rfl⟩

theorem run (h : ledger.Balanced) (hroom : 0 < ledger.ring.capacity)
    (uses : List Use) : (ledger.run uses).Balanced := by
  induction uses generalizing ledger with
  | nil => exact h
  | cons use rest ih =>
      apply ih (h.act hroom use)
      rwa [act_ring, (ledger.ring.act_settings use).1]

end Balanced

/-- A ring that was begun empty holds the newest of the records that it has
accepted since it was last emptied, as many as fit at most.  All others were
taken out or evicted, in the order they came and none of them twice, and the
counter of the ring says how many were evicted, or the most that it can say.
Only a ring that is full evicts, and then the oldest record.  A message below
the level of interest changes nothing. -/
theorem run_keeps_newest {capacity : Nat} (hroom : 0 < capacity)
    (minLevel : Level) (uses : List Use) :
    let ring := uses.foldl Ring.act { capacity, minLevel }
    let ledger := run uses { ring := { capacity, minLevel } }
    ledger.ring = ring ∧
      ring.records <:+ ledger.accepted ∧
      ring.size ≤ capacity ∧
      ledger.accepted = ledger.gone.map Departure.record ++ ring.records ∧
      ledger.accepted.length =
        ledger.count .taken + ledger.count .evicted + ring.size ∧
      ring.dropped.toNat = min (ledger.count .evicted) 0xffffffff ∧
      ∀ loans submission,
        let after := ring.act (.submit loans submission)
        (submission.level.rank < minLevel.rank → after = ring) ∧
          (ring.displaced loans submission ≠ [] →
            ring.size = capacity ∧ ∃ oldest kept,
              ring.records = oldest :: kept ∧
              ring.displaced loans submission = [oldest] ∧
              after.records = kept ++ submission.accepted minLevel) := by
  intro ring ledger
  have hring : ledger.ring = ring := run_ring uses _
  have hstart : Balanced { ring := { capacity, minLevel } } :=
    ⟨Nat.zero_le _, rfl, rfl⟩
  have hbalanced : ledger.Balanced := hstart.run hroom uses
  obtain ⟨hcapacity, hlevel⟩ :
      ledger.ring.capacity = capacity ∧ ledger.ring.minLevel = minLevel :=
    run_settings uses _
  have hsize := hbalanced.size_le
  have haccepted := hbalanced.accepted
  have hdropped := hbalanced.dropped
  rw [hring] at hcapacity hlevel hsize haccepted hdropped
  refine ⟨hring, ?_, hcapacity ▸ hsize, haccepted, ?_, hdropped, ?_⟩
  · rw [haccepted]
    exact List.suffix_append _ _
  · rw [count_add_count, haccepted, List.length_append, List.length_map]
    rfl
  · intro loans submission after
    constructor
    · intro hlow
      exact Ring.act_of_lt (by rwa [hlevel]) loans
    · intro hdisplaced
      have hadmission :=
        Ring.admission (by rwa [hcapacity]) hsize loans submission
      have hcrowded := hadmission.of_displaced hdisplaced
      rwa [hcapacity, hlevel] at hcrowded

/-- A ring of two that was emptied once, with a message too minor for it, a
record that is taken out and then one more than it has room for.  Of a message
of fifty characters the first 48 are on record. -/
theorem run_keeps_newest_two :
    let fifty := String.ofList (List.replicate 50 'c')
    let clipped : Record := ⟨.error, String.ofList (List.replicate 48 'c')⟩
    let uses : List Use :=
      [.submit 0 (.info "lost"), .clear, .submit 0 (.info "a"),
        .submit 1 (.error "b"), .submit 2 (.debug "minor"), .pop,
        .submit 0 (.log .error fifty), .submit 0 (.info "d")]
    let ring := uses.foldl Ring.act { capacity := 2, minLevel := .info }
    let ledger := run uses { ring := { capacity := 2, minLevel := .info } }
    0 < 2 ∧ ledger.accepted =
        [⟨.info, "a"⟩, ⟨.error, "b"⟩, clipped, ⟨.info, "d"⟩] ∧
      ledger.gone = [⟨⟨.info, "a"⟩, .taken⟩, ⟨⟨.error, "b"⟩, .evicted⟩] ∧
      ring.records = [clipped, ⟨.info, "d"⟩] ∧
      ring.records <:+ ledger.accepted ∧ ring.dropped.toNat = 1 := by
  intro fifty clipped uses ring ledger
  have hrun := run_keeps_newest (by decide : 0 < 2) .info uses
  have haccepted : ledger.accepted =
      [⟨.info, "a"⟩, ⟨.error, "b"⟩, clipped, ⟨.info, "d"⟩] := by decide
  have hgone : ledger.gone =
      [⟨⟨.info, "a"⟩, .taken⟩, ⟨⟨.error, "b"⟩, .evicted⟩] := by decide
  have hrecords : ring.records = [clipped, ⟨.info, "d"⟩] := by decide
  refine ⟨by decide, haccepted, hgone, hrecords, hrun.2.1, ?_⟩
  refine hrun.2.2.2.2.2.1.trans ?_
  decide

end Ledger

end TwoWire.Log
