import ByteInspector.CommandLine.Grammar
import ByteInspector.Main
import ByteInspector.Proofs.CommandLine.Variable
import ByteInspector.Proofs.Delivery.Decision
import ByteInspector.Proofs.Hex.Search
import ByteInspector.Proofs.Inspection.Spelling
import ByteInspector.Proofs.Program.Outcome
import ByteInspector.Proofs.Rendering.Concatenation
import ByteInspector.Proofs.Rendering.Marks
import ByteInspector.Proofs.Report.Document
import ByteInspector.Proofs.Report.Failures
import ByteInspector.Proofs.Session.History
import ByteInspector.Proofs.Text.Names
import ByteInspector.Session
