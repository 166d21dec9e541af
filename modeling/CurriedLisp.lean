import CurriedLisp.Files.Tree
import CurriedLisp.Main
import CurriedLisp.Store.Inspect
import CurriedLisp.Store.Lemmas
import CurriedLisp.Value.Conversion
import CurriedLisp.Value.Node
import CurriedLisp.Proofs.Store.Chains
import CurriedLisp.Proofs.Value.Parts
import CurriedLisp.Proofs.Store.Growth
import CurriedLisp.Proofs.Eval.Contracts
import CurriedLisp.Proofs.Eval.Discipline
import CurriedLisp.Proofs.Eval.Runs
import CurriedLisp.Proofs.Eval.Actions
import CurriedLisp.Proofs.Eval.Preserves
import CurriedLisp.Proofs.Eval.Soundness
import CurriedLisp.Proofs.Session.Reachable
import CurriedLisp.Proofs.Session.NormalForms
import CurriedLisp.Proofs.Session.ScopeChain
import CurriedLisp.Proofs.Number.Nearest
import CurriedLisp.Proofs.Number.Numerals
import CurriedLisp.Proofs.Syntax.Lexing
import CurriedLisp.Proofs.Syntax.Coverage
import CurriedLisp.Proofs.Syntax.Layout
import CurriedLisp.Proofs.Syntax.Grammar
import CurriedLisp.Proofs.Value.Nodes
import CurriedLisp.Proofs.Value.Readable
import CurriedLisp.Proofs.Value.Sameness
import CurriedLisp.Proofs.Value.RoundTrip
import CurriedLisp.Proofs.Eval.Moments
import CurriedLisp.Proofs.Session.FrameEffect
import CurriedLisp.Proofs.Syntax.Parsing
import CurriedLisp.Proofs.Syntax.Continuation
import CurriedLisp.Proofs.Eval.Binding
import CurriedLisp.Proofs.Eval.Follows
import CurriedLisp.Proofs.Eval.Room
import CurriedLisp.Proofs.Eval.Currying
import CurriedLisp.Proofs.Eval.Equations
import CurriedLisp.Proofs.Eval.Contexts
import CurriedLisp.Proofs.Eval.Composition
import CurriedLisp.Proofs.Eval.Transcripts
import CurriedLisp.Proofs.Session.Loading
import CurriedLisp.Proofs.Eval.Faults
import CurriedLisp.Proofs.Session.FileLoading
import CurriedLisp.Proofs.Eval.Attempts
import CurriedLisp.Proofs.Eval.TrustingActions
import CurriedLisp.Proofs.Eval.TrustingEvaluation
import CurriedLisp.Proofs.Eval.Recapture
import CurriedLisp.Proofs.Eval.Watch
import CurriedLisp.Proofs.Eval.Mirrors
import CurriedLisp.Proofs.Session.BundledPrelude
import CurriedLisp.Proofs.Session.ScopingAgreement
import CurriedLisp.Proofs.Syntax.Concatenation
import CurriedLisp.Proofs.Session.PartwiseLoading
import CurriedLisp.Proofs.Store.Rebinding
import CurriedLisp.Proofs.Eval.LambdaList
import CurriedLisp.Proofs.Eval.BuiltinEffects
import CurriedLisp.Proofs.Session.Conversation
import CurriedLisp.Proofs.Value.Words
import CurriedLisp.Proofs.Eval.Wording
import CurriedLisp.Proofs.Value.Typed
import CurriedLisp.Proofs.Session.Vocabulary
import CurriedLisp.Proofs.Session.Retyping
import CurriedLisp.Proofs.Eval.Quiet
import CurriedLisp.Proofs.Number.Counting
import CurriedLisp.Proofs.Prelude.InForce
import CurriedLisp.Proofs.Prelude.Calls
import CurriedLisp.Proofs.Prelude.Lists
import CurriedLisp.Proofs.Store.Writes
import CurriedLisp.Proofs.Store.Naming
import CurriedLisp.Proofs.Prelude.Folding
import CurriedLisp.Proofs.Prelude.Sequence
import CurriedLisp.Proofs.Eval.Definitions
import CurriedLisp.Proofs.Session.Enclosing
import CurriedLisp.Proofs.Syntax.Relayout
import CurriedLisp.Proofs.Syntax.Streaming
import CurriedLisp.Proofs.Number.Conversion
import CurriedLisp.Proofs.Syntax.Atoms
