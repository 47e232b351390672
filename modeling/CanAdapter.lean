import CanAdapter.Bench.Session
import CanAdapter.Message.Encoding
import CanAdapter.Message.Normal
import CanAdapter.Proofs.Acceptance
import CanAdapter.Proofs.Accounting
import CanAdapter.Proofs.Alike
import CanAdapter.Proofs.AlikeLanes
import CanAdapter.Proofs.BankMoves
import CanAdapter.Proofs.BankSizes
import CanAdapter.Proofs.BoundedQueue
import CanAdapter.Proofs.BusStatus
import CanAdapter.Proofs.ByteStream
import CanAdapter.Proofs.CleanBytes
import CanAdapter.Proofs.Codec
import CanAdapter.Proofs.CommandAnswers
import CanAdapter.Proofs.Conservation
import CanAdapter.Proofs.CreditBound
import CanAdapter.Proofs.Credits
import CanAdapter.Proofs.Faultless
import CanAdapter.Proofs.FifoDrain
import CanAdapter.Proofs.FrameTime
import CanAdapter.Proofs.Framing
import CanAdapter.Proofs.Greeting
import CanAdapter.Proofs.Handshake
import CanAdapter.Proofs.InFlight
import CanAdapter.Proofs.Isolation
import CanAdapter.Proofs.LossReports
import CanAdapter.Proofs.Modes
import CanAdapter.Proofs.Negotiation
import CanAdapter.Proofs.PushOutcome
import CanAdapter.Proofs.ReadBack
import CanAdapter.Proofs.Schedule
import CanAdapter.Proofs.Separation
import CanAdapter.Proofs.StatusLight
import CanAdapter.Proofs.Stranded
import CanAdapter.Proofs.TransferParts
import CanAdapter.Proofs.TwoRuns
import CanAdapter.Proofs.WakeSignal
import CanAdapter.Proofs.Walk
import CanAdapter.Proofs.WellFormed
import CanAdapter.Ring.Lemmas
import CanAdapter.Ring.Queue
import CanAdapter.Ring.Script
