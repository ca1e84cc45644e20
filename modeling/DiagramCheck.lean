import DiagramCheck.Diagram.Agreement
import DiagramCheck.Main
import DiagramCheck.Proofs.Grammar.Unambiguity
import DiagramCheck.Proofs.Reading
import DiagramCheck.Proofs.Writing
import DiagramCheck.Proofs.Acceptance
import DiagramCheck.Proofs.Depth
import DiagramCheck.Proofs.FirstFault
import DiagramCheck.Proofs.Findings
import DiagramCheck.Proofs.Collecting
import DiagramCheck.Proofs.Verdict
import DiagramCheck.Proofs.Places
import DiagramCheck.Proofs.Tokenization
import DiagramCheck.Proofs.Concatenation
import DiagramCheck.Proofs.CanonicalText
import DiagramCheck.Proofs.Grammar.Placed
import DiagramCheck.Proofs.Accounting
import DiagramCheck.Proofs.Warnings
import DiagramCheck.Proofs.Closing
import DiagramCheck.Proofs.Enclosure
import DiagramCheck.Proofs.Labels
import DiagramCheck.Proofs.Alike
import DiagramCheck.Proofs.Respacing
import DiagramCheck.Proofs.Tracing
import DiagramCheck.Proofs.Reporting
import DiagramCheck.Proofs.NestingLimit
import DiagramCheck.Proofs.FindingsAlike
import DiagramCheck.Proofs.Interchange
import DiagramCheck.Proofs.Respelling
import DiagramCheck.Proofs.Positions
import DiagramCheck.Proofs.Driving
import DiagramCheck.Proofs.Repairs
import DiagramCheck.Proofs.Rearrangement
import DiagramCheck.Proofs.Outlines
import DiagramCheck.Proofs.Discovery
import DiagramCheck.Proofs.Redisplay
import DiagramCheck.Proofs.Termination
import DiagramCheck.Proofs.Events
