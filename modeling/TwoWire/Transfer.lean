/-
One transfer, from the start condition to the stop.

A transfer is a value that reacts to the flags it is shown.  Its reaction is
plain data: what to report, which calls to make, and the transfer that waits
for the next event.  Bytes come in while the calls are made, so they are put
into the buffer afterwards, by `Transfer.store`.

  address -> [second address byte] -> transmit or receive
          -> [repeated start, address again -> receive] -> idle
-/
import TwoWire.Call
import TwoWire.Outcome
import TwoWire.Sequence

namespace TwoWire

open Sequence (Kind Slot)

namespace Transfer

/-- What a transfer waits for. -/
inductive Phase where
  /-- Nothing: there is no transfer in flight. -/
  | idle
  /-- The answer to the byte after the start condition. -/
  | address
  /-- The answer to the second byte of a ten-bit address. -/
  | secondAddress
  /-- The answer to the address after a repeated start. -/
  | readdress
  /-- The answer to a data byte. -/
  | transmit
  /-- A data byte. -/
  | receive
deriving DecidableEq, Repr

end Transfer

/-- A transfer in flight, or what is left of the last one. -/
structure Transfer where
  held : Option Sequence := none
  kind : Kind := .write
  phase : Transfer.Phase := .idle
  /-- The buffer in use. -/
  slot : Slot := .first
  /-- Bytes of that buffer already moved. -/
  index : Nat := 0
  /-- What the last step reported. -/
  outcome : Outcome := .done
  nackSource : NackSource := .unknown
deriving DecidableEq, Repr

/-- What a transfer makes of an event. -/
structure Reaction where
  outcome : Outcome
  calls : List Call
  next : Transfer
deriving DecidableEq, Repr

/-- The same reaction with other calls before its own. -/
def Reaction.after (reaction : Reaction) (calls : List Call) : Reaction :=
  { reaction with calls := calls ++ reaction.calls }

namespace Transfer

def isActive (transfer : Transfer) : Bool :=
  transfer.phase ≠ .idle

theorem isActive_iff {transfer : Transfer} :
    transfer.isActive = true ↔ transfer.phase ≠ .idle :=
  decide_eq_true_iff

/-- Stays in flight. -/
def wait (transfer : Transfer) (calls : List Call) : Reaction :=
  ⟨.inProgress, calls, transfer⟩

/-- However a transfer ends, none of its sources may interrupt afterwards. -/
def closing : List Call :=
  [.disableInterrupts .transfer, .clearInterrupts .transfer]

/-- Ends the transfer; the cursor stays where it was. -/
def finish (transfer : Transfer) (outcome : Outcome) (calls : List Call) :
    Reaction :=
  ⟨outcome, calls ++ closing, { transfer with phase := .idle, outcome }⟩

/-- Ends the transfer because the target did not acknowledge. -/
def refused (transfer : Transfer) : Reaction :=
  let nackSource : NackSource :=
    if transfer.phase = .transmit then .data else .address
  { transfer with nackSource }.finish .nack
    [.clearInterrupts {Interrupt.nackReceived}, .stop]

/-- Addresses the target again, for reading. -/
def restart (transfer : Transfer) (sequence : Sequence) : Reaction :=
  { transfer with phase := .readdress }.wait
    [.repeatedStart, .writeAddress (sequence.header true)]

def slotsLeft (transfer : Transfer) (sequence : Sequence) : Nat :=
  match sequence.buffer transfer.slot with
  | .transmit _ => 0
  | .receive bytes => bytes.length - transfer.index

/-- Takes a byte if there is one, and refuses any after the last.  That
refusal raises a flag of its own, which is no failure. -/
def receive (transfer : Transfer) (sequence : Sequence) (status : Interrupts) :
    Reaction :=
  if .dataReceived ∈ status then
    match transfer.slotsLeft sequence with
    | 0 => transfer.finish .softwareFault [.readData]
    | 1 => transfer.finish .done [.readData, .nack, .stop]
    | _ + 2 => transfer.wait [.readData, .ack]
  else if .nackReceived ∈ status then
    transfer.wait [.clearInterrupts {Interrupt.nackReceived}]
  else transfer.wait []

/-- Sends the byte at the cursor, or does what comes after the last one. -/
def sendOr (transfer : Transfer) (sequence : Sequence) (otherwise : Reaction) :
    Reaction :=
  match sequence.buffer transfer.slot with
  | .receive _ => transfer.finish .softwareFault []
  | .transmit bytes =>
    match bytes[transfer.index]? with
    | none => otherwise
    | some byte =>
      { transfer with phase := .transmit, index := transfer.index + 1 }.wait
        [.writeData byte]

def toSecond (transfer : Transfer) : Transfer :=
  { transfer with slot := .second, index := 0 }

/-- Sends the next byte of the sequence.  After the last of the first buffer
comes the second one, for which a read has to address the target again. -/
def send (transfer : Transfer) (sequence : Sequence) : Reaction :=
  transfer.sendOr sequence <|
    match transfer.slot, transfer.kind with
    | .first, .writeWrite =>
      transfer.toSecond.sendOr sequence (transfer.toSecond.finish .done [.stop])
    | .first, .writeRead => transfer.toSecond.restart sequence
    | _, _ => transfer.finish .done [.stop]

/-- What an acknowledged byte leads to.  Data may have come along with the
acknowledgement of a read address. -/
def acknowledged (transfer : Transfer) (sequence : Sequence)
    (status : Interrupts) : Reaction :=
  match transfer.phase, transfer.kind with
  | .address, kind =>
    if sequence.isTenBit then
      { transfer with phase := .secondAddress }.wait
        [.writeAddress sequence.lowAddress]
    else if kind = .read then
      { transfer with phase := .receive }.receive sequence status
    else transfer.send sequence
  | .secondAddress, .read => transfer.restart sequence
  | .readdress, _ => { transfer with phase := .receive }.receive sequence status
  | _, _ => transfer.send sequence

/-- The reaction of a transfer to the flags it is shown.  A bus that was lost
gets no stop condition, for it is another controller's now. -/
def react (transfer : Transfer) (status : Interrupts) : Reaction :=
  match transfer.phase, transfer.held with
  | .idle, _ | _, none => transfer.finish .softwareFault []
  | phase, some sequence =>
    if .arbitrationLost ∈ status then transfer.finish .arbitrationLost []
    else if .busError ∈ status then transfer.finish .busError [.abort]
    else if phase = .receive then transfer.receive sequence status
    else if .nackReceived ∈ status then transfer.refused
    else if .ackReceived ∈ status then
      (transfer.acknowledged sequence status).after
        [.clearInterrupts {Interrupt.ackReceived}]
    else transfer.wait []

/-- Begins a sequence that can be run.  What an earlier transfer left on the
bus is given up first.  Only a read with a short address can ask for data in
its first byte. -/
def begin? (sequence : Sequence) (busy : Bool) : Option Reaction :=
  sequence.kind?.map fun kind =>
    let reading := kind = .read && !sequence.isTenBit
    { held := some sequence
      kind
      phase := .address
      outcome := .inProgress : Transfer }.wait <|
      (if busy then [.abort] else []) ++
        [.clearTransmit, .clearInterrupts .all, .enableInterrupts .transfer,
          .writeAddress (sequence.header reading), .start]

/-- Puts a byte that came in into the slot at the cursor, if that is one. -/
def store (transfer : Transfer) (byte : UInt8) : Transfer :=
  match transfer.held with
  | none => transfer
  | some sequence =>
    match sequence.buffer transfer.slot with
    | .transmit _ => transfer
    | .receive bytes =>
      if transfer.index < bytes.length then
        let filled := .receive (bytes.set transfer.index byte)
        { transfer with
          held := some (sequence.setBuffer transfer.slot filled)
          index := transfer.index + 1 }
      else transfer

/-- Hands the sequence back, with whatever was received, unless it is in use. -/
def release (transfer : Transfer) : Option Sequence × Transfer :=
  if transfer.isActive then (none, transfer)
  else (transfer.held, { transfer with held := none })

end Transfer

end TwoWire
