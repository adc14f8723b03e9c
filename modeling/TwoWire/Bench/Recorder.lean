/-
A device with a record of every call made to it.
-/
import TwoWire.Device

namespace TwoWire

/-- One call, and the byte that it took. -/
structure Entry where
  call : Call
  byte : Option UInt8
deriving DecidableEq, Repr

structure Recorder (σ : Type) where
  device : σ
  /-- In the order of the calls. -/
  entries : Array Entry := #[]
deriving Repr

namespace Recorder

variable {σ : Type}

instance [Device σ] : Device (Recorder σ) where
  perform call recorder :=
    let byte := if call = .readData then some (Device.received recorder.device)
      else none
    { device := Device.perform call recorder.device
      entries := recorder.entries.push ⟨call, byte⟩ }
  received recorder := Device.received recorder.device
  clockRatio recorder := Device.clockRatio recorder.device
  clockDivider recorder := Device.clockDivider recorder.device
  referenceClock recorder := Device.referenceClock recorder.device
  enabled recorder := Device.enabled recorder.device
  pending recorder := Device.pending recorder.device
  busy recorder := Device.busy recorder.device
  status recorder :=
    let (status, device) := Device.status recorder.device
    (status, { recorder with device })

def clear (recorder : Recorder σ) : Recorder σ :=
  { recorder with entries := #[] }

def calls (recorder : Recorder σ) : List Call :=
  recorder.entries.toList.map Entry.call

def dataWrites (recorder : Recorder σ) : List UInt8 :=
  recorder.calls.filterMap fun
    | .writeData byte => some byte
    | _ => none

def addressWrites (recorder : Recorder σ) : List UInt8 :=
  recorder.calls.filterMap fun
    | .writeAddress byte => some byte
    | _ => none

/-- What went over the wires. -/
def onWire (recorder : Recorder σ) : List Entry :=
  recorder.entries.toList.filter fun entry => entry.call.isOnWire

def count (recorder : Recorder σ) (call : Call) : Nat :=
  recorder.calls.count call

/-- When a call was first made. -/
def position? (recorder : Recorder σ) (call : Call) : Option Nat :=
  recorder.calls.idxOf? call

end Recorder

end TwoWire
