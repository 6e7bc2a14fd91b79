import Lox.Proofs.Lexical.Evaluation
import Lox.Proofs.Session.Turn

/-! Sessions with lexical scope. Source texts are read and checked as in any session,
but no number of a node and no distance is kept. -/

namespace Lox.Lexical

def Machine.perform (machine : Machine) (fuel : Nat) : Task → Option (Machine × List Fault)
  | .program statements => machine.runProgram fuel statements
  | .value tree => machine.printValue fuel tree

structure Session where
  machine : Machine
  report : Report

namespace Session

def initial (console : Console) (readings : Nat → Float) : Session :=
  ⟨Machine.initial [.clock] console readings, Report.empty⟩

def forget (session : Session) : Session := { session with report := Report.empty }

def hold (session : Session) (faults : List Fault) : Session :=
  { session with report := session.report.add faults }

def check (session : Session) (walk : Binding.Analysis → Binding.Analysis) : Session :=
  session.hold (walk (Binding.Analysis.initial Distances.empty)).faults

def finish (session : Session) (ended : Machine × List Fault) : Outcome × Session :=
  let session := { session.hold ended.2 with machine := ended.1 }
  (if session.report.holdsRuntime then .runtimeError else .success, session)

def accept (session : Session) (task : Task) : Option Task × Session :=
  if session.report.holdsStatic then (none, session)
  else
    let checked := session.check task.walk.bind
    (if checked.report.holdsStatic then none else some task, checked)

theorem accept_held {session : Session} (held : session.report.holdsStatic = true) (task : Task) :
    session.accept task = (none, session) := by
  rw [accept, if_pos held]

theorem accept_rejected {session : Session} {task : Task}
    (quiet : session.report.holdsStatic = false)
    (found : (session.check task.walk.bind).report.holdsStatic = true) :
    session.accept task = (none, session.check task.walk.bind) := by
  rw [accept, if_neg (Bool.eq_false_iff.1 quiet)]
  exact congrArg (·, _) (if_pos found)

theorem accept_passed {session : Session} {task : Task}
    (quiet : session.report.holdsStatic = false)
    (silent : (session.check task.walk.bind).report.holdsStatic = false) :
    session.accept task = (some task, session.check task.walk.bind) := by
  rw [accept, if_neg (Bool.eq_false_iff.1 quiet)]
  exact congrArg (·, _) (if_neg (Bool.eq_false_iff.1 silent))

def checked (session : Session) : Step → Option Task × Session
  | .run source =>
      let items := Stream.ofSource source
      let reading := Grammar.readProgram (Stream.tokens items) 0
      let read := session.hold (Stream.faults items ++ reading.faults)
      read.accept (.program (bareBody reading.tree))
  | .evaluate source =>
      let items := Stream.ofSource source
      let reading := Grammar.readExpression (Stream.tokens items) 0
      let read := session.hold (Stream.faults items ++ reading.faults)
      match bare? reading.tree with
      | none => (none, read)
      | some expression => read.accept (.value expression)
  | .forget => (none, session.forget)

def proceed (fuel : Nat) : Option Task × Session → Option (Outcome × Session)
  | (none, session) => some (.staticError, session)
  | (some task, session) => (session.machine.perform fuel task).map session.finish

def takeOutput (session : Session) : String × Session :=
  let console := session.machine.console
  (console.text,
    { session with machine := { session.machine with console := { console with text := "" } } })

def answered (session : Session) (outcome : Option Outcome) : Answer × Session :=
  let (output, after) := session.takeOutput
  (⟨outcome, output, after.report.faults,
    after.machine.globals.map fun binding => (binding.1, binding.2.outline)⟩, after)

def step (session : Session) (fuel : Nat) (step : Step) : Option (Answer × Session) :=
  match step with
  | .forget => some (session.forget.answered none)
  | .run _ | .evaluate _ =>
      (proceed fuel (session.checked step)).map fun ended => ended.2.answered (some ended.1)

def play (session : Session) (fuel : Nat) : List Step → Option (List Answer)
  | [] => some []
  | step :: rest =>
      match session.step fuel step with
      | some (answer, after) => (after.play fuel rest).map fun answers => answer :: answers
      | none => none

end Session

end Lox.Lexical
