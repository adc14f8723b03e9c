/-
What a record keeps of a message.

A message is kept as far as it fits, in whole characters: of all its beginnings
that fit, the longest.  That is also what it comes to if its characters are
appended one after the other until one does not fit any more.  A character
takes four bytes at most, so no more than three bytes of the room stay empty
when something is left out.
-/
import TwoWire.Log.Ring

namespace TwoWire.Log

def encodedSize (chars : List Char) : Nat :=
  (String.ofList chars).utf8ByteSize

theorem encodedSize_append (front rest : List Char) :
    encodedSize (front ++ rest) = encodedSize front + encodedSize rest := by
  rw [encodedSize, String.ofList_append, String.utf8ByteSize_append]
  rfl

theorem encodedSize_singleton (char : Char) :
    encodedSize [char] = char.utf8Size := by
  rw [encodedSize, ← String.singleton_eq_ofList, String.utf8ByteSize_singleton]

theorem encodedSize_cons (char : Char) (rest : List Char) :
    encodedSize (char :: rest) = char.utf8Size + encodedSize rest := by
  rw [← List.singleton_append, encodedSize_append, encodedSize_singleton]

theorem encodedSize_toList (text : String) :
    encodedSize text.toList = text.utf8ByteSize := by
  rw [encodedSize, String.ofList_toList]

variable {room : Nat} {chars front : List Char}

theorem encodedSize_clipChars_le (room : Nat) (chars : List Char) :
    encodedSize (clipChars room chars) ≤ room := by
  induction chars generalizing room with
  | nil => exact Nat.zero_le room
  | cons char rest ih =>
      rw [clipChars]
      split
      case isTrue hfits =>
        have hrest := ih (room - char.utf8Size)
        rw [encodedSize_cons]
        omega
      case isFalse => exact Nat.zero_le room

theorem clipChars_isPrefix (room : Nat) (chars : List Char) :
    clipChars room chars <+: chars := by
  induction chars generalizing room with
  | nil => exact List.nil_prefix
  | cons char rest ih =>
      rw [clipChars]
      split
      case isTrue hfits => exact List.cons_prefix_cons.mpr ⟨rfl, ih _⟩
      case isFalse => exact List.nil_prefix

/-- A beginning that fits is not longer than what is kept. -/
theorem prefix_clipChars (h : front <+: chars) (hfits : encodedSize front ≤ room) :
    front <+: clipChars room chars := by
  induction chars generalizing room front with
  | nil => rw [List.prefix_nil.mp h]; exact List.nil_prefix
  | cons char rest ih =>
      cases front with
      | nil => exact List.nil_prefix
      | cons first more =>
          obtain ⟨rfl, hmore⟩ := List.cons_prefix_cons.mp h
          rw [encodedSize_cons] at hfits
          rw [clipChars, if_pos (Nat.le_of_add_right_le hfits)]
          exact List.cons_prefix_cons.mpr ⟨rfl, ih hmore (by omega)⟩

/-- `kept` is the longest beginning of `message` that `room` bytes hold. -/
structure Abridges (room : Nat) (message kept : String) : Prop where
  begins : kept.toList <+: message.toList
  fits : kept.utf8ByteSize ≤ room
  longest : ∀ front, front <+: message.toList → encodedSize front ≤ room →
    front <+: kept.toList

namespace Abridges

variable {message kept : String}

theorem exists_rest (h : Abridges room message kept) :
    ∃ rest, message = kept ++ rest := by
  obtain ⟨rest, hrest⟩ := h.begins
  refine ⟨String.ofList rest, ?_⟩
  rw [← String.ofList_toList (s := message), ← hrest, String.ofList_append,
    String.ofList_toList]

theorem eq_iff (h : Abridges room message kept) :
    kept = message ↔ message.utf8ByteSize ≤ room := by
  constructor
  · rintro rfl
    exact h.fits
  · intro hfits
    have hwhole : message.toList <+: kept.toList :=
      h.longest _ List.prefix_rfl (by rwa [encodedSize_toList])
    exact String.toList_inj.mp
      (h.begins.eq_of_length_le hwhole.length_le)

/-- What comes next in the message does not fit, however small anything after
it may be. -/
theorem lt_of_next (h : Abridges room message kept) {next : Char}
    {rest : List Char} (hnext : message.toList = kept.toList ++ next :: rest) :
    room < kept.utf8ByteSize + next.utf8Size := by
  apply Nat.lt_of_not_le
  intro hfits
  have hlonger : kept.toList ++ [next] <+: kept.toList := by
    apply h.longest
    · rw [hnext, List.append_cons _ next rest]
      exact List.prefix_append _ _
    · rwa [encodedSize_append, encodedSize_toList, encodedSize_singleton]
  have hlength := hlonger.length_le
  rw [List.length_append] at hlength
  exact Nat.not_succ_le_self _ hlength

/-- A character takes four bytes at most. -/
theorem le_add_three (h : Abridges room message kept)
    (hlong : room < message.utf8ByteSize) : room ≤ kept.utf8ByteSize + 3 := by
  obtain ⟨rest, hrest⟩ := h.begins
  cases rest with
  | nil =>
      rw [List.append_nil] at hrest
      have hsize := h.fits
      rw [String.toList_inj.mp hrest] at hsize
      exact absurd hsize (Nat.not_le.mpr hlong)
  | cons next rest =>
      have hnext := h.lt_of_next hrest.symm
      have hfour := next.utf8Size_le_four
      omega

/-- The bytes that are kept are the first ones of the message. -/
theorem toByteArray_eq (h : Abridges room message kept) :
    kept.toByteArray = message.toByteArray.extract 0 kept.utf8ByteSize := by
  obtain ⟨rest, rfl⟩ := h.exists_rest
  rw [String.toByteArray_append]
  exact (ByteArray.extract_append_eq_left rfl).symm

end Abridges

theorem clip_abridges (message : String) :
    Abridges messageCapacity message (clip message) where
  begins := by
    rw [clip, String.toList_ofList]
    exact clipChars_isPrefix _ _
  fits := encodedSize_clipChars_le _ _
  longest front hfront hfits := by
    rw [clip, String.toList_ofList]
    exact prefix_clipChars hfront hfits

def push? (room : Nat) (text : String) (char : Char) : Option String :=
  if text.utf8ByteSize + char.utf8Size ≤ room then some (text.push char)
  else none

/-- Appends characters until one does not fit. -/
def fill (room : Nat) (text : String) : List Char → String
  | [] => text
  | char :: rest =>
    match push? room text char with
    | some longer => fill room longer rest
    | none => text

theorem fill_eq (room : Nat) (text : String) (chars : List Char) :
    fill room text chars =
      text ++ String.ofList (clipChars (room - text.utf8ByteSize) chars) := by
  induction chars generalizing text with
  | nil => simp [fill, clipChars]
  | cons char rest ih =>
      have hpositive := char.utf8Size_pos
      by_cases hfits : text.utf8ByteSize + char.utf8Size ≤ room
      · have hchar : char.utf8Size ≤ room - text.utf8ByteSize := by omega
        rw [fill, push?, if_pos hfits, clipChars, if_pos hchar]
        simp [ih, ← String.toList_inj, Nat.sub_sub]
      · have hchar : ¬ char.utf8Size ≤ room - text.utf8ByteSize := by omega
        rw [fill, push?, if_neg hfits, clipChars, if_neg hchar]
        simp

/-- A ring that takes a message in stores the longest beginning of it that fits
into a record: whole characters, appended one after the other until one does
not fit.  Nothing after that one is stored.  What is stored are the first bytes
of the message, and they are a valid encoding; it is the whole message if that
fits, and short of the room by three bytes at most if not.  It would be stored
as it is. -/
theorem Ring.log_abridges {ring : Ring} {level : Level}
    (h : ring.accepts level = true) (message : String) :
    ∃ kept, (ring.log level message).records.getLast? = some ⟨level, kept⟩ ∧
      kept = fill 48 "" message.toList ∧
      Abridges 48 message kept ∧
      kept.toByteArray = message.toByteArray.extract 0 kept.utf8ByteSize ∧
      kept.toByteArray.validateUTF8 = true ∧
      (kept = message ↔ message.utf8ByteSize ≤ 48) ∧
      (∀ next rest, message.toList = kept.toList ++ next :: rest →
        48 < kept.utf8ByteSize + next.utf8Size) ∧
      (48 < message.utf8ByteSize →
        45 ≤ kept.utf8ByteSize ∧ kept.utf8ByteSize ≤ 48) ∧
      clip kept = kept := by
  have habridges : Abridges 48 message (clip message) := clip_abridges message
  refine ⟨clip message, ?_, ?_, habridges, habridges.toByteArray_eq, ?_,
    habridges.eq_iff, fun _ _ => habridges.lt_of_next, ?_, ?_⟩
  · rw [Ring.log, if_pos h]
    exact List.getLast?_concat
  · rw [fill_eq, String.empty_append]
    rfl
  · exact ByteArray.validateUTF8_eq_true_iff.mpr (clip message).isValidUTF8
  · intro hlong
    have hshort := habridges.le_add_three hlong
    exact ⟨by omega, habridges.fits⟩
  · exact (clip_abridges (clip message)).eq_iff.mpr habridges.fits

/-- Of 45 narrow characters, one of four bytes and another narrow one, only the
first 45 are stored, though the last would still fit. -/
theorem Ring.log_abridges_wide :
    let ring : Ring := { capacity := 1, records := [⟨.error, "before"⟩] }
    let narrow := List.replicate 45 'x'
    let message := String.ofList (narrow ++ ['😀', 'y'])
    ring.accepts .info = true ∧ 48 < message.utf8ByteSize ∧ ∃ kept,
      (ring.log .info message).records.getLast? = some ⟨.info, kept⟩ ∧
        kept.toList = narrow ∧ 45 ≤ kept.utf8ByteSize ∧ clip kept = kept := by
  intro ring narrow message
  have haccepts : ring.accepts .info = true := by decide
  have hlong : 48 < message.utf8ByteSize := by decide
  obtain ⟨kept, hlast, hfill, _, _, _, _, _, hsize, hagain⟩ :=
    Ring.log_abridges haccepts message
  refine ⟨haccepts, hlong, kept, hlast, ?_, (hsize hlong).1, hagain⟩
  rw [hfill]
  decide

end TwoWire.Log
