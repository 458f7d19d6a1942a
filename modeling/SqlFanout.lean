import SqlFanout.Builder.Review
import SqlFanout.Builder.RoundTrip
import SqlFanout.Main
import SqlFanout.Proofs.CodeRoundTrip
import SqlFanout.Proofs.ReferredTables
import SqlFanout.Proofs.UnionBranches
import SqlFanout.Proofs.Generators
import SqlFanout.Proofs.CleanMessages
import SqlFanout.Proofs.Decoding
import SqlFanout.Proofs.ExitStatus
import SqlFanout.Proofs.RenamingBack
import SqlFanout.Proofs.Occurrences
import SqlFanout.Proofs.QuotedLiterals
import SqlFanout.Proofs.FieldList
import SqlFanout.Proofs.ProtectedLiterals
import SqlFanout.Proofs.BranchEnds
import SqlFanout.Proofs.DerivedLabels
import SqlFanout.Proofs.CodeReview
import SqlFanout.Proofs.GuessedLanguage
import SqlFanout.Proofs.Spacing
import SqlFanout.Proofs.CallChains
import SqlFanout.Proofs.Assignments
import SqlFanout.Proofs.LineCounts
import SqlFanout.Proofs.CalendarMonths
import SqlFanout.Proofs.TimeLimits
import SqlFanout.Proofs.TableCounts
import SqlFanout.Proofs.Placeholders
