import CaseDict.Main
import CaseDict.Proofs.Acceptance
import CaseDict.Proofs.Arena
import CaseDict.Proofs.Atomic
import CaseDict.Proofs.Completeness
import CaseDict.Proofs.Effects
import CaseDict.Proofs.Follows
import CaseDict.Proofs.Grammar
import CaseDict.Proofs.Hereditary
import CaseDict.Proofs.Legible
import CaseDict.Proofs.Lexing
import CaseDict.Proofs.Merging
import CaseDict.Proofs.Number.Text
import CaseDict.Proofs.Placing
import CaseDict.Proofs.Planting
import CaseDict.Proofs.Rereading
import CaseDict.Proofs.RoundTrip
import CaseDict.Proofs.Run
import CaseDict.Proofs.Sequences
import CaseDict.Proofs.Soundness
import CaseDict.Proofs.Steps
import CaseDict.Proofs.Stored
import CaseDict.Proofs.Writing
import CaseDict.Session
import CaseDict.TokenStream
import CaseDict.Proofs.Contexts
import CaseDict.Proofs.Courses
import CaseDict.Proofs.Sharing
import CaseDict.Proofs.Literal
import CaseDict.Proofs.Limits
import CaseDict.Proofs.Modes
import CaseDict.Proofs.Fuelled
import CaseDict.Proofs.Termination
import CaseDict.Proofs.Circular
import CaseDict.Proofs.Watched
import CaseDict.Proofs.Correspondence
import CaseDict.Proofs.Framing
import CaseDict.Proofs.Distinct
import CaseDict.Proofs.Shadowing
import CaseDict.Proofs.Overwriting
import CaseDict.Proofs.Hosting
import CaseDict.Proofs.Paths
import CaseDict.Proofs.Onward
import CaseDict.Proofs.Inclusion
import CaseDict.Proofs.Joining
import CaseDict.Proofs.Sequels
import CaseDict.Proofs.Endings
import CaseDict.Proofs.Continuing
import CaseDict.Proofs.Appending
import CaseDict.Proofs.Fallback
import CaseDict.Proofs.Tracking
import CaseDict.Proofs.Abutting
import CaseDict.Proofs.Alternatives
import CaseDict.Proofs.Contracts
import CaseDict.Proofs.Guarded
import CaseDict.Proofs.LiteralRegime
import CaseDict.Proofs.Bracketed
import CaseDict.Proofs.ProperTrees
import CaseDict.Proofs.Located
import CaseDict.Proofs.Taxonomy
import CaseDict.Proofs.Spelling
import CaseDict.Proofs.Respelling
import CaseDict.Proofs.Enclosing
import CaseDict.Proofs.Transparent
import CaseDict.Proofs.Streaming
import CaseDict.Proofs.Copying
import CaseDict.Proofs.Substituting
import CaseDict.Proofs.DeepMerge
import CaseDict.Proofs.MergeLevels
import CaseDict.Proofs.ExactLimits
import CaseDict.Proofs.EnvironmentValues
import CaseDict.Proofs.Ignoring
import CaseDict.Proofs.ValuePaths
import CaseDict.Proofs.DictionaryPaths
import CaseDict.Proofs.Independence
import CaseDict.Proofs.Calc.Calculations
import CaseDict.Proofs.Forest
import CaseDict.Proofs.Arguments
import CaseDict.Proofs.Filling
import CaseDict.Proofs.Comparing
import CaseDict.Proofs.Quoting
