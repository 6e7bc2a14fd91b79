import Lox.Main
import Lox.Proofs.Grammar.Derivation
import Lox.Proofs.Grammar.Outcome
import Lox.Proofs.Grammar.Reading.Expression
import Lox.Proofs.Grammar.Reading.Statement
import Lox.Proofs.Grammar.Acceptance.Boundary
import Lox.Proofs.Grammar.Acceptance.Expression
import Lox.Proofs.Grammar.Acceptance.Statement
import Lox.Proofs.Grammar.Attachment
import Lox.Proofs.Grammar.Exactness
import Lox.Proofs.Grammar.Product
import Lox.Proofs.Grammar.Numbering
import Lox.Proofs.Binding.Effect
import Lox.Proofs.Binding.Walk
import Lox.Proofs.Binding.Known
import Lox.Proofs.Lexical.Evaluation
import Lox.Proofs.Lexical.Session
import Lox.Proofs.Lexical.Correspondence
import Lox.Proofs.Lexical.State
import Lox.Proofs.Lexical.Agreement
import Lox.Proofs.Lexical.Names
import Lox.Proofs.Lexical.Declarations
import Lox.Proofs.Lexical.Simulation
import Lox.Proofs.Lexical.Program
import Lox.Proofs.Grammar.Source
import Lox.Proofs.Binding.Numbering
import Lox.Proofs.Session.Turn
import Lox.Proofs.Lexical.Linked
import Lox.Proofs.Lexical.Equivalence
import Lox.Proofs.Session.Rejection
import Lox.Proofs.Binding.Places
import Lox.Proofs.Lexical.Moments
import Lox.Proofs.Session.Depth
import Lox.Proofs.Token.Lexeme
import Lox.Proofs.Token.LongestMatch
import Lox.Proofs.Tree.Likeness
import Lox.Proofs.Tree.Rendering
import Lox.Proofs.Grammar.Likeness
import Lox.Proofs.Grammar.Rendering
import Lox.Proofs.Binding.Naming
import Lox.Proofs.Binding.Renaming
import Lox.Proofs.Lexical.Alike
import Lox.Proofs.Lexical.Renaming
import Lox.Proofs.Session.Checks
import Lox.Proofs.Session.Renaming
import Lox.Proofs.Token.Seam
import Lox.Proofs.Tree.Sign
import Lox.Proofs.Grammar.Seam
import Lox.Proofs.Binding.Seam
import Lox.Proofs.Lexical.Seam
import Lox.Proofs.Session.Seam
import Lox.Proofs.Machine.Law
import Lox.Proofs.Machine.Ledger
import Lox.Proofs.Session.Account
import Lox.Proofs.Machine.Fuel
import Lox.Proofs.Grammar.Printed
import Lox.Proofs.Session.Printed
import Lox.Proofs.Binding.Sites
import Lox.Proofs.Binding.Tracks
import Lox.Proofs.Binding.Resolved
import Lox.Proofs.Machine.Opposite
import Lox.Proofs.Spelling.Tree
import Lox.Proofs.Spelling.Tokens
import Lox.Proofs.Spelling.Derivation
import Lox.Proofs.Spelling.State
import Lox.Proofs.Spelling.Simulation
import Lox.Proofs.Spelling.Session
import Lox.Proofs.Session.Frame
import Lox.Proofs.Machine.Activation
import Lox.Proofs.Session.Return
import Lox.Proofs.Grammar.Surroundings
import Lox.Proofs.Grammar.Containment
import Lox.Proofs.Grammar.Recovery
import Lox.Proofs.Grammar.Loop
import Lox.Proofs.Lexical.Fuel
import Lox.Proofs.Lexical.Loop
import Lox.Proofs.Session.Loop
import Lox.Proofs.Grammar.Script
import Lox.Proofs.Grammar.Trace
import Lox.Proofs.Grammar.Descent
import Lox.Proofs.Grammar.Cursor
import Lox.Proofs.Tree.Sound
import Lox.Proofs.Grammar.Sound
import Lox.Proofs.Machine.Sound
import Lox.Proofs.Session.Sound
import Lox.Proofs.Grammar.Building
import Lox.Proofs.Session.Numbers
import Lox.Proofs.Grammar.Ebnf
import Lox.Proofs.Grammar.Lookahead
import Lox.Proofs.Grammar.Prediction
import Lox.Proofs.Grammar.Diagnosis
import Lox.Proofs.Store.Chain
import Lox.Proofs.Token.Line
import Lox.Proofs.Token.Joined
import Lox.Proofs.Number.Text
import Lox.Proofs.Tree.Form
import Lox.Proofs.Tree.Spelled
import Lox.Proofs.Tree.Resemblance
import Lox.Proofs.Grammar.Spelled
import Lox.Proofs.Number.Listed
import Lox.Proofs.Document
import Lox.Proofs.Tree.Sameness
import Lox.Proofs.Tree.Serialized
