import StreamLink.Echo
import StreamLink.Outage
import StreamLink.Proofs.Residents
import StreamLink.Proofs.Turns
import StreamLink.Proofs.SocketStep
import StreamLink.Proofs.Effects
import StreamLink.Proofs.Moves
import StreamLink.Proofs.Conduct
import StreamLink.Proofs.Conservation
import StreamLink.Proofs.Agreement
import StreamLink.Proofs.SecondTurn
import StreamLink.Proofs.Lives
import StreamLink.Proofs.OutboundOrder
import StreamLink.Proofs.QueueConsistency
import StreamLink.Proofs.Coherence
import StreamLink.Proofs.RingQueue
import StreamLink.Proofs.Fifo
import StreamLink.Proofs.InboundOrder
import StreamLink.Proofs.Endings
import StreamLink.Proofs.EarlyAnswers
import StreamLink.Proofs.WakeUps
import StreamLink.Proofs.Movement
import StreamLink.Proofs.OneWake
import StreamLink.Proofs.Isolation
import StreamLink.Proofs.Progress
import StreamLink.Proofs.LateData
import StreamLink.Proofs.Framing
import StreamLink.Proofs.Directory
import StreamLink.Proofs.Buffering
import StreamLink.Proofs.Shutdown
import StreamLink.Proofs.Splitting
import StreamLink.Proofs.Intake
import StreamLink.Proofs.Polling
import StreamLink.Proofs.TwoPaths
import StreamLink.Proofs.Misuse
import StreamLink.Proofs.Discards
import StreamLink.Proofs.Refusals
import StreamLink.Proofs.Reading
import StreamLink.Proofs.CleanEnds
import StreamLink.Proofs.Rotation
import StreamLink.Proofs.Answers
import StreamLink.Proofs.Totals
