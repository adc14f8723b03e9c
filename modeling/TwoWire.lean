import TwoWire.Bench
import TwoWire.Bench.Recorder
import TwoWire.Bench.Script
import TwoWire.Controller.Transaction
import TwoWire.Log.Ring
import TwoWire.Registers.Probe
import TwoWire.Sequence.Transcript
import TwoWire.Proofs.Shape
import TwoWire.Proofs.Stage
import TwoWire.Proofs.Flight
import TwoWire.Proofs.Filling
import TwoWire.Proofs.Event
import TwoWire.Proofs.History
import TwoWire.Proofs.Wire
import TwoWire.Proofs.Reachable
import TwoWire.Proofs.Reception
import TwoWire.Proofs.Drive
import TwoWire.Proofs.Target
import TwoWire.Proofs.Responder
import TwoWire.Proofs.Budget
import TwoWire.Proofs.Failure
import TwoWire.Proofs.Tally
import TwoWire.Proofs.Refusal
import TwoWire.Proofs.Silicon
import TwoWire.Proofs.Reply
import TwoWire.Proofs.Backend
import TwoWire.Proofs.Ownership
import TwoWire.Proofs.Enabling
import TwoWire.Proofs.Course
import TwoWire.Proofs.Residue
import TwoWire.Proofs.Transaction
import TwoWire.Proofs.Shortage
import TwoWire.Proofs.Divider
import TwoWire.Proofs.Tuning
import TwoWire.Proofs.Field
import TwoWire.Proofs.Ledger
import TwoWire.Proofs.Silence
import TwoWire.Proofs.Verdict
import TwoWire.Proofs.Rejection
import TwoWire.Proofs.Journal
import TwoWire.Proofs.Attribution
import TwoWire.Proofs.Optimum
import TwoWire.Proofs.BringUp
import TwoWire.Proofs.Clip
