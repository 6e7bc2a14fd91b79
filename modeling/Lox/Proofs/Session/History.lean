import Lox.Session
import Lox.Proofs.Tree.Shape

/-! Histories of sessions: steps in any order, and what can be seen of each. -/

namespace Lox

/-- What is done to a session: a source text is run or evaluated, or the faults that
are held are forgotten. -/
inductive Step where
  | run (source : String)
  | evaluate (source : String)
  | forget
  deriving DecidableEq, Repr

/-- A value without what it captured and without the numbers of nodes. -/
def ValueOver.outline {Capture : Type} : ValueOver Capture → ValueOver Unit
  | .nil => .nil
  | .bool value => .bool value
  | .number value => .number value
  | .string text => .string text
  | .callable identity (.native function) => .callable identity (.native function)
  | .callable identity (.closure procedure _) =>
      .callable identity (.closure procedure.bare ())

/-- What can be seen of a step: its outcome if it has one, the text it printed, the
faults held after it, and the global names with their values. -/
structure Answer where
  outcome : Option Outcome
  output : String
  faults : List Fault
  globals : List (String × ValueOver Unit)

namespace Session

def globals (session : Session) : List (String × Value) :=
  match session.machine.store.scope? Machine.globals with
  | some scope => scope.bindings
  | none => []

def answered (session : Session) (outcome : Option Outcome) : Answer × Session :=
  let (output, after) := session.takeOutput
  (⟨outcome, output, after.report.faults,
    after.globals.map fun binding => (binding.1, binding.2.outline)⟩, after)

/-- One step. Without enough fuel there is no answer. -/
def step (session : Session) (fuel : Nat) : Step → Option (Answer × Session)
  | .run source => (session.run fuel source).map fun ended => ended.2.answered (some ended.1)
  | .evaluate source =>
      (session.evaluate fuel source).map fun ended => ended.2.answered (some ended.1)
  | .forget => some (session.forget.answered none)

/-- The answers to steps in order, all or none. -/
def play (session : Session) (fuel : Nat) : List Step → Option (List Answer)
  | [] => some []
  | step :: rest =>
      match session.step fuel step with
      | some (answer, after) => (after.play fuel rest).map fun answers => answer :: answers
      | none => none

end Session

end Lox
