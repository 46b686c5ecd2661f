import DiagnosticLens.Config.Load
import DiagnosticLens.Inspection
import DiagnosticLens.Json.Printer
import DiagnosticLens.Proofs.Turns
import DiagnosticLens.Proofs.SnapshotVerification
import DiagnosticLens.Scripted
import DiagnosticLens.Wire.Remedy
import DiagnosticLens.Proofs.PassContent
import DiagnosticLens.Proofs.Interleaving
import DiagnosticLens.Proofs.PassCurrent
import DiagnosticLens.Proofs.FileUri
import DiagnosticLens.Proofs.ManagerHistory
import DiagnosticLens.Proofs.Delivery
import DiagnosticLens.Proofs.Claimants
import DiagnosticLens.Proofs.Consulted
import DiagnosticLens.Proofs.Delegation
import DiagnosticLens.Proofs.Alike
import DiagnosticLens.Proofs.AbortConditions
import DiagnosticLens.Proofs.Isolation
import DiagnosticLens.Proofs.OffsetOrder
import DiagnosticLens.Proofs.RequestContext
import DiagnosticLens.Proofs.Records
import DiagnosticLens.Proofs.WireRoundTrip
import DiagnosticLens.Proofs.ForeignUri
import DiagnosticLens.Proofs.UriSpelling
import DiagnosticLens.Proofs.LineDivision
import DiagnosticLens.Proofs.Columns
import DiagnosticLens.Proofs.Addresses
import DiagnosticLens.Proofs.SpanOrder
import DiagnosticLens.Proofs.Excerpts
import DiagnosticLens.Proofs.ProposalKinds
import DiagnosticLens.Proofs.AnswerRemedies
import DiagnosticLens.Proofs.EchoedDiagnostics
import DiagnosticLens.Proofs.LineEndings
import DiagnosticLens.Proofs.Accounting
import DiagnosticLens.Proofs.ByteOrder
import DiagnosticLens.Proofs.LeastClaimant
import DiagnosticLens.Proofs.EncodedPaths
import DiagnosticLens.Proofs.PathRoundTrip
import DiagnosticLens.Proofs.LateClaims
import DiagnosticLens.Proofs.LineTable
import DiagnosticLens.Proofs.FaultFree
