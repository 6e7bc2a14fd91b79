import Lox.Token.Stream
import Lox.Grammar.Program
import Lox.Binding
import Lox.Machine.Evaluation
import Lox.Report

/-! Sessions. A session takes one source text after another; the globals stay, and
so do the faults until they are forgotten. As long as a fault is held that was
found before a run, nothing runs. -/

namespace Lox

inductive Outcome where
  | success
  | staticError
  | runtimeError
  deriving DecidableEq, Repr

namespace Outcome

def name : Outcome → String
  | .success => "Success"
  | .staticError => "StaticError"
  | .runtimeError => "RuntimeError"

def exitCode : Outcome → Nat
  | .success => 0
  | .staticError => 65
  | .runtimeError => 70

end Outcome

/-- Node numbers are never used twice in a session. -/
structure Session where
  machine : Machine
  report : Report
  nextId : NodeId

namespace Session

def initial (console : Console) (readings : Nat → Float) : Session :=
  { machine := Machine.initial [.clock] console readings
    report := Report.empty
    nextId := 0 }

def forget (session : Session) : Session := { session with report := Report.empty }

def hold (session : Session) (faults : List Fault) : Session :=
  { session with report := session.report.add faults }

def read {α : Type} (session : Session) (source : String)
    (rule : List Token → NodeId → Grammar.Reading α) : α × Session :=
  let items := Stream.ofSource source
  let reading := rule (Stream.tokens items) session.nextId
  (reading.tree,
    { session.hold (Stream.faults items ++ reading.faults) with nextId := reading.nextId })

/-- Records the distances of a walk and holds its faults. -/
def bind (session : Session) (walk : Binding.Analysis → Binding.Analysis) : Session :=
  let analysis := walk (Binding.Analysis.initial session.machine.distances)
  { session.hold analysis.faults with
    machine := { session.machine with distances := analysis.distances } }

def finish (session : Session) (ended : Machine × List Fault) : Outcome × Session :=
  let session := { session.hold ended.2 with machine := ended.1 }
  (if session.report.holdsRuntime then .runtimeError else .success, session)

/-- Takes a source text as a program. Without enough fuel there is no answer. -/
def run (session : Session) (fuel : Nat) (source : String) : Option (Outcome × Session) :=
  let (statements, session) := session.read source Grammar.readProgram
  if session.report.holdsStatic then some (.staticError, session)
  else
    let session := session.bind (Binding.bindStatements statements)
    if session.report.holdsStatic then some (.staticError, session)
    else (session.machine.runProgram fuel statements).map session.finish

/-- Takes a source text as one expression and prints its value. -/
def evaluate (session : Session) (fuel : Nat) (source : String) : Option (Outcome × Session) :=
  let (tree, session) := session.read source Grammar.readExpression
  match tree with
  | none => some (.staticError, session)
  | some expression =>
      if session.report.holdsStatic then some (.staticError, session)
      else
        let session := session.bind (Binding.bindExpression expression)
        if session.report.holdsStatic then some (.staticError, session)
        else (session.machine.printValue fuel expression).map session.finish

def takeOutput (session : Session) : String × Session :=
  let (output, machine) := session.machine.takeOutput
  (output, { session with machine := machine })

end Session

/-- Fuel for more steps than any run can take in the lifetime of a machine. -/
def ampleFuel : Nat := 1 <<< 62

end Lox
