import PseudocodeLint.Main
import PseudocodeLint.Proofs.ItemShape
import PseudocodeLint.Proofs.Segmentation
import PseudocodeLint.Proofs.LineRun
import PseudocodeLint.Proofs.Opening
import PseudocodeLint.Proofs.BlockScan
import PseudocodeLint.Proofs.LineFindings
import PseudocodeLint.Proofs.Coverage
import PseudocodeLint.Proofs.HeaderShape
import PseudocodeLint.Proofs.Continuation
import PseudocodeLint.Proofs.Recutting
import PseudocodeLint.Proofs.Seam
import PseudocodeLint.Proofs.Verdict
import PseudocodeLint.Proofs.LineTail
import PseudocodeLint.Proofs.SeparateTexts
import PseudocodeLint.Proofs.FinalNewline
import PseudocodeLint.Proofs.TrailingBlanks
import PseudocodeLint.Proofs.BracePairs
import PseudocodeLint.Proofs.LiteralShape
import PseudocodeLint.Proofs.LiteralSpans
import PseudocodeLint.Proofs.BareCall
import PseudocodeLint.Proofs.PathLookup
import PseudocodeLint.Proofs.PathOrder
import PseudocodeLint.Proofs.SelectedFiles
import PseudocodeLint.Proofs.RunOutput
import PseudocodeLint.Proofs.Recognition
import PseudocodeLint.Proofs.ColonIndent
import PseudocodeLint.Proofs.DiagnosticOrder
import PseudocodeLint.Proofs.BlankRuns
import PseudocodeLint.Proofs.Rewrapping
import PseudocodeLint.Proofs.Production
import PseudocodeLint.Proofs.MissingBlank
import PseudocodeLint.Proofs.CheckedAccess
import PseudocodeLint.Proofs.Quotation
import PseudocodeLint.Proofs.BareKeyword
import PseudocodeLint.Proofs.ItemPatterns
