import EncodingLint.ClassPath.Platform
import EncodingLint.CodeAction
import EncodingLint.Log.Output
import EncodingLint.Proofs.ActionEdits
import EncodingLint.Proofs.CharsetChange
import EncodingLint.Proofs.DeclarationOrder
import EncodingLint.Proofs.EditConflicts
import EncodingLint.Proofs.EditList
import EncodingLint.Proofs.ExclusiveRules
import EncodingLint.Proofs.ExplicitEncoding
import EncodingLint.Proofs.FixOutcome
import EncodingLint.Proofs.InsertedCharset
import EncodingLint.Proofs.KnownArguments
import EncodingLint.Proofs.LineBreaks
import EncodingLint.Proofs.LineDecomposition
import EncodingLint.Proofs.LiteralMeaning
import EncodingLint.Proofs.NearestClass
import EncodingLint.Proofs.RenderedKeys
import EncodingLint.Proofs.RepeatedFixes
import EncodingLint.Proofs.ReportOrder
import EncodingLint.Proofs.ResolvedTarget
import EncodingLint.Proofs.RuleConjunction
import EncodingLint.Proofs.SecondFix
import EncodingLint.Proofs.Selections
import EncodingLint.Proofs.SeparateFixes
import EncodingLint.Proofs.SessionRuns
import EncodingLint.Proofs.SilencedRule
import EncodingLint.Proofs.SkippedRules
import EncodingLint.Proofs.SubtypePreorder
import EncodingLint.Proofs.TrailingTrivia
import EncodingLint.Proofs.UnknownKeys
import EncodingLint.Session
import EncodingLint.Settings.Workspace
