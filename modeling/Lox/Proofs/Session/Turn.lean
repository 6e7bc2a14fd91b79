import Lox.Proofs.Binding.Walk
import Lox.Proofs.Machine.Visits
import Lox.Proofs.Session.History

/-! A step of a session in two parts: the source text is checked, and what passes all
checks is run. -/

namespace Lox

inductive Task where
  | program (statements : List Statement)
  | value (tree : Expression)

namespace Task

def walk : Task → Binding.Walk
  | .program statements => .statements statements
  | .value tree => .expression tree

def bare : Task → Task
  | .program statements => .program (bareBody statements)
  | .value tree => .value tree.bare

def Reaches (task : Task) (fuel : Nat) (machine : Machine) (moment : Moment) : Prop :=
  match task with
  | .program statements => ProgramReaches fuel statements machine moment
  | .value tree => Lox.Reaches ⟨fuel, .expression tree, machine⟩ moment

end Task

def Machine.perform (machine : Machine) (fuel : Nat) : Task → Option (Machine × List Fault)
  | .program statements => machine.runProgram fuel statements
  | .value tree => machine.printValue fuel tree

namespace Session

def accept (session : Session) (task : Task) : Option Task × Session :=
  if session.report.holdsStatic then (none, session)
  else
    let bound := session.bind task.walk.bind
    (if bound.report.holdsStatic then none else some task, bound)

theorem accept_held {session : Session} (held : session.report.holdsStatic = true) (task : Task) :
    session.accept task = (none, session) := by
  rw [accept, if_pos held]

theorem accept_rejected {session : Session} {task : Task}
    (quiet : session.report.holdsStatic = false)
    (found : (session.bind task.walk.bind).report.holdsStatic = true) :
    session.accept task = (none, session.bind task.walk.bind) := by
  rw [accept, if_neg (Bool.eq_false_iff.1 quiet)]
  exact congrArg (·, _) (if_pos found)

theorem accept_passed {session : Session} {task : Task}
    (quiet : session.report.holdsStatic = false)
    (silent : (session.bind task.walk.bind).report.holdsStatic = false) :
    session.accept task = (some task, session.bind task.walk.bind) := by
  rw [accept, if_neg (Bool.eq_false_iff.1 quiet)]
  exact congrArg (·, _) (if_neg (Bool.eq_false_iff.1 silent))

def checked (session : Session) : Step → Option Task × Session
  | .run source =>
      let (statements, read) := session.read source Grammar.readProgram
      read.accept (.program statements)
  | .evaluate source =>
      let (tree, read) := session.read source Grammar.readExpression
      match tree with
      | none => (none, read)
      | some expression => read.accept (.value expression)
  | .forget => (none, session.forget)

def accepted? (session : Session) (step : Step) : Option (Binding.Walk × Binding.Analysis) :=
  (session.checked step).1.map fun task =>
    (task.walk, Binding.Analysis.initial session.machine.distances)

/-- The end of a step whose source text has been checked. -/
def proceed (fuel : Nat) : Option Task × Session → Option (Outcome × Session)
  | (none, session) => some (.staticError, session)
  | (some task, session) => (session.machine.perform fuel task).map session.finish

theorem proceed_accept (session : Session) (task : Task) (fuel : Nat) :
    proceed fuel (session.accept task) =
      if session.report.holdsStatic then some (.staticError, session)
      else
        let bound := session.bind task.walk.bind
        if bound.report.holdsStatic then some (.staticError, bound)
        else (bound.machine.perform fuel task).map bound.finish := by
  unfold accept
  dsimp only
  split
  · rfl
  · split <;> rfl

theorem run_eq (session : Session) (fuel : Nat) (source : String) :
    session.run fuel source = proceed fuel (session.checked (.run source)) := by
  unfold run checked
  dsimp only
  rw [proceed_accept]
  rfl

theorem evaluate_eq (session : Session) (fuel : Nat) (source : String) :
    session.evaluate fuel source = proceed fuel (session.checked (.evaluate source)) := by
  unfold evaluate checked
  dsimp only
  cases (session.read source Grammar.readExpression).1 with
  | none => rfl
  | some expression =>
      dsimp only
      rw [proceed_accept]
      rfl

/-- Every step but one that forgets is a step in two parts. -/
theorem step_eq (session : Session) (fuel : Nat) {step : Step} (takes : step ≠ .forget) :
    session.step fuel step =
      (proceed fuel (session.checked step)).map fun ended => ended.2.answered (some ended.1) := by
  cases step with
  | run source => rw [Session.step, run_eq]
  | evaluate source => rw [Session.step, evaluate_eq]
  | forget => exact absurd rfl takes

end Session

def Activity.walk? : Activity → Option Binding.Walk
  | .expression tree => some (.expression tree)
  | .expressions trees => some (.expressions trees)
  | .optional tree => some (.optional tree)
  | .call _ _ _ => none
  | .statement tree => some (.statement tree)
  | .statements trees => some (.statements trees)
  | .loop condition body => some (.statement (.whileLoop condition body))

/-- A step that a session takes, with the fuel that it may use. -/
structure Turn where
  session : Session
  fuel : Nat
  step : Step

namespace Turn

def roots (turn : Turn) : List (Binding.Walk × Binding.Analysis) :=
  (turn.session.accepted? turn.step).toList

/-- Static binding comes to a part of the source text, which has passed all checks. -/
def Visits (turn : Turn) (walk : Binding.Walk) (analysis : Binding.Analysis) : Prop :=
  ∃ root ∈ turn.roots, Binding.Visits root.1 root.2 walk analysis

def Reaches (turn : Turn) (moment : Moment) : Prop :=
  ∃ task ∈ (turn.session.checked turn.step).1,
    task.Reaches turn.fuel (turn.session.checked turn.step).2.machine moment

end Turn

inductive Session.After (start : Session) : List Turn → Session → Prop where
  | start : After start [] start
  | step {past : List Turn} {session after : Session} {fuel : Nat} {step : Step}
      {answer : Answer} :
      After start past session → session.step fuel step = some (answer, after) →
      After start (past ++ [⟨session, fuel, step⟩]) after

end Lox
