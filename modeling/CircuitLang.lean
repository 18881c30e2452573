import CircuitLang.Main
import CircuitLang.FileTree
import CircuitLang.Program.Checked
import CircuitLang.Proofs.Forms
import CircuitLang.Proofs.Grammar
import CircuitLang.Proofs.Cut
import CircuitLang.Proofs.Spans
import CircuitLang.Proofs.Policies
import CircuitLang.Proofs.Moving
import CircuitLang.Proofs.Restart
import CircuitLang.Proofs.Joining
import CircuitLang.Proofs.Reformatting
import CircuitLang.Proofs.Diagnosis
import CircuitLang.Proofs.Lines
import CircuitLang.Proofs.Command
import CircuitLang.Proofs.Observing
import CircuitLang.Proofs.Verdict
import CircuitLang.Proofs.Refusal
import CircuitLang.Proofs.Segmentation
import CircuitLang.Proofs.Modes
import CircuitLang.Proofs.Listing
import CircuitLang.Proofs.LineEnds
import CircuitLang.Proofs.Stepwise
import CircuitLang.Proofs.Tables
import CircuitLang.Proofs.Blindness
import CircuitLang.Proofs.ByteOffsets
import CircuitLang.Proofs.Accesses
import CircuitLang.Proofs.DefaultOutput
import CircuitLang.Proofs.Stopping
import CircuitLang.Proofs.Arguments
import CircuitLang.Proofs.Rendering
import CircuitLang.Proofs.Messages
