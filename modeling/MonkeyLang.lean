import MonkeyLang.Main
import MonkeyLang.Syntax.Replacement
import MonkeyLang.Proofs.Syntax.Traversing
import MonkeyLang.Proofs.Syntax.Order
import MonkeyLang.Proofs.Syntax.Recording
import MonkeyLang.Proofs.Syntax.Replacing
import MonkeyLang.Proofs.Value.Tables
import MonkeyLang.Proofs.Value.Hashes
import MonkeyLang.Proofs.Value.Equality
import MonkeyLang.Proofs.Value.Comparison
import MonkeyLang.Proofs.Value.Arithmetic
import MonkeyLang.Proofs.Scanning.Step
import MonkeyLang.Proofs.Scanning.Literals
import MonkeyLang.Proofs.Scanning.Layout
import MonkeyLang.Proofs.Scanning.Coverage
import MonkeyLang.Proofs.Scanning.Joining
import MonkeyLang.Proofs.Parsing.Outcome
import MonkeyLang.Proofs.Parsing.Production
import MonkeyLang.Proofs.Parsing.Spelling
import MonkeyLang.Proofs.Parsing.Completeness
import MonkeyLang.Proofs.Parsing.Separation
import MonkeyLang.Proofs.Parsing.Guarantee
import MonkeyLang.Proofs.Parsing.Locality
import MonkeyLang.Proofs.Parsing.Boundary
import MonkeyLang.Proofs.Parsing.Isolation
import MonkeyLang.Proofs.Parsing.Nesting
import MonkeyLang.Proofs.Parsing.Recovery
import MonkeyLang.Proofs.Parsing.Causes
import MonkeyLang.Proofs.Parsing.Discipline
import MonkeyLang.Proofs.Parsing.Diagnosis
import MonkeyLang.Proofs.Parsing.Renderability
import MonkeyLang.Proofs.Parsing.Yield
import MonkeyLang.Proofs.Parsing.Justification
import MonkeyLang.Proofs.Parsing.Soundness
import MonkeyLang.Proofs.Rendering.Renderable
import MonkeyLang.Proofs.Rendering.Tokens
import MonkeyLang.Proofs.Rendering.RoundTrip
import MonkeyLang.Proofs.Rendering.Conservation
import MonkeyLang.Proofs.Store.Extension
import MonkeyLang.Proofs.Store.History
import MonkeyLang.Proofs.Evaluation.Sequencing
import MonkeyLang.Proofs.Evaluation.Depth
import MonkeyLang.Proofs.Evaluation.Completion
import MonkeyLang.Proofs.Evaluation.HashLiterals
import MonkeyLang.Proofs.Evaluation.Points
import MonkeyLang.Proofs.Evaluation.Attaining
import MonkeyLang.Proofs.Evaluation.HigherOrder
import MonkeyLang.Proofs.Evaluation.Descent
import MonkeyLang.Proofs.Evaluation.Parts
import MonkeyLang.Proofs.Evaluation.Unquoting
import MonkeyLang.Proofs.Evaluation.FrameEffects
import MonkeyLang.Proofs.Evaluation.Correspondence
import MonkeyLang.Proofs.Evaluation.CorrespondingRuns
import MonkeyLang.Proofs.Evaluation.CorrespondingEvaluation
import MonkeyLang.Proofs.Evaluation.Reachability
import MonkeyLang.Proofs.Evaluation.ErrorFreedom
import MonkeyLang.Proofs.Evaluation.Agreement
import MonkeyLang.Proofs.Evaluation.Unmentioned
import MonkeyLang.Proofs.Expansion.Template
import MonkeyLang.Proofs.Expansion.Substitution
import MonkeyLang.Proofs.Expansion.Definitions
import MonkeyLang.Proofs.Expansion.Effects
import MonkeyLang.Proofs.Expansion.Depth
import MonkeyLang.Proofs.Expansion.Leftovers
import MonkeyLang.Proofs.Evaluation.Returning
import MonkeyLang.Proofs.Expansion.CorrespondingExpansions
import MonkeyLang.Proofs.Session.Reading
import MonkeyLang.Proofs.Session.Arithmetic
import MonkeyLang.Proofs.Session.Frames
import MonkeyLang.Proofs.Session.Limits
import MonkeyLang.Proofs.Session.HeldSyntax
import MonkeyLang.Proofs.Session.AbruptCompletion
import MonkeyLang.Proofs.Session.OneByOne
import MonkeyLang.Proofs.Session.Phases
import MonkeyLang.Proofs.Session.MapAndReduce
import MonkeyLang.Proofs.Session.Lines
import MonkeyLang.Proofs.Session.Conversation
