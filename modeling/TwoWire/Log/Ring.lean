/-
A logger that keeps the newest records in a fixed room, for boards that have
nowhere to print them.

Records below a level of interest never get in.  Once the room is full the
oldest record makes way for the newest, and a counter tells how often that
happened.  A record has a fixed room too: its message is clipped at a character
boundary.
-/
import TwoWire.Log.Basic

namespace TwoWire.Log

/-- Bytes that a record has for its message. -/
def messageCapacity : Nat :=
  48

/-- The longest prefix whose encoding takes at most `room` bytes. -/
def clipChars (room : Nat) : List Char → List Char
  | [] => []
  | char :: rest =>
    if char.utf8Size ≤ room then char :: clipChars (room - char.utf8Size) rest
    else []

/-- A message as a record keeps it. -/
def clip (message : String) : String :=
  String.ofList (clipChars messageCapacity message.toList)

/-- The newest records at or above a level. -/
structure Ring where
  capacity : Nat
  minLevel : Level := .debug
  /-- Oldest first. -/
  records : List Record := []
  /-- Records that made way for newer ones. -/
  dropped : UInt32 := 0
deriving Repr

namespace Ring

def size (ring : Ring) : Nat :=
  ring.records.length

def accepts (ring : Ring) (level : Level) : Bool :=
  ring.minLevel.rank ≤ level.rank && ring.capacity ≠ 0

/-- Counts one more, and stays at the largest count there is. -/
def countUp (count : UInt32) : UInt32 :=
  if count = -1 then count else count + 1

/-- Frees a place if there is none. -/
def makeRoom (ring : Ring) : Ring :=
  if ring.size < ring.capacity then ring
  else
    { ring with
      records := ring.records.tail
      dropped := countUp ring.dropped }

def log (level : Level) (message : String) (ring : Ring) : Ring :=
  if ring.accepts level then
    let ring := ring.makeRoom
    { ring with records := ring.records ++ [⟨level, clip message⟩] }
  else ring

def popOldest (ring : Ring) : Option Record × Ring :=
  (ring.records.head?, { ring with records := ring.records.tail })

/-- Empties the ring and starts to count anew. -/
def clear (ring : Ring) : Ring :=
  { ring with records := [], dropped := 0 }

end Ring

instance : Logger Ring where
  log := Ring.log

end TwoWire.Log
