import Lox.Binding
import Lox.Proofs.Tree.Shape

/-! Static binding finds the same faults whatever the numbers of the nodes are. -/

namespace Lox.Binding

structure Alike (one other : Analysis) : Prop where
  frames : one.frames = other.frames
  insideProcedure : one.insideProcedure = other.insideProcedure
  faults : one.faults = other.faults

namespace Alike

variable {one other : Analysis}

theorem report (alike : Alike one other) (site : Token) (cause : ScopingCause) :
    Alike (one.report site cause) (other.report site cause) :=
  ⟨alike.frames, alike.insideProcedure, congrArg (· ++ [Fault.scoping site cause]) alike.faults⟩

theorem declare (alike : Alike one other) (name : Token) :
    Alike (one.declare name) (other.declare name) := by
  unfold Analysis.declare
  rw [alike.frames]
  cases other.frames with
  | nil => exact alike
  | cons frame outer =>
      dsimp only
      split
      · exact alike.report name .alreadyDeclared
      · exact ⟨rfl, alike.insideProcedure, alike.faults⟩

theorem define (alike : Alike one other) (name : Token) :
    Alike (one.define name) (other.define name) := by
  unfold Analysis.define
  rw [alike.frames]
  cases other.frames with
  | nil => exact alike
  | cons frame outer => exact ⟨rfl, alike.insideProcedure, alike.faults⟩

theorem defineAll (alike : Alike one other) (names : List Token) :
    Alike (one.defineAll names) (other.defineAll names) := by
  induction names generalizing one other with
  | nil => exact alike
  | cons name rest ih => exact ih ((alike.declare name).define name)

theorem record (alike : Alike one other) (id number : NodeId) (name : Token) :
    Alike (one.record id name) (other.record number name) := by
  unfold Analysis.record
  rw [alike.frames]
  cases depth? other.frames name.lexeme with
  | none => exact alike
  | some distance => exact ⟨rfl, alike.insideProcedure, alike.faults⟩

theorem openScope (alike : Alike one other) : Alike one.openScope other.openScope :=
  ⟨congrArg ([] :: ·) alike.frames, alike.insideProcedure, alike.faults⟩

theorem closeScope (alike : Alike one other) : Alike one.closeScope other.closeScope :=
  ⟨congrArg List.tail alike.frames, alike.insideProcedure, alike.faults⟩

end Alike

mutual

theorem bindExpression_bare : ∀ (expression : Expression) {one other : Analysis},
    Alike one other → Alike (bindExpression expression one) (bindExpression expression.bare other)
  | .literal _, _, _, alike => alike
  | .grouping inner, _, _, alike => bindExpression_bare inner alike
  | .unary _ right, _, _, alike => bindExpression_bare right alike
  | .binary left _ right, _, _, alike | .logical left _ right, _, _, alike =>
      bindExpression_bare right (bindExpression_bare left alike)
  | .ternary condition thenBranch elseBranch, _, _, alike =>
      bindExpression_bare elseBranch
        (bindExpression_bare thenBranch (bindExpression_bare condition alike))
  | .variable id name, one, other, alike => by
      rw [Expression.bare, bindExpression, bindExpression, alike.frames]
      split
      · exact (alike.report name .ownInitializer).record id 0 name
      · exact alike.record id 0 name
  | .assign id name value, _, _, alike => (bindExpression_bare value alike).record id 0 name
  | .call callee _ arguments, _, _, alike =>
      bindExpressions_bare arguments (bindExpression_bare callee alike)
  | .lambda procedure, _, _, alike => bindProcedure_bare procedure alike
termination_by structural expression => expression

theorem bindExpressions_bare : ∀ (expressions : List Expression) {one other : Analysis},
    Alike one other →
      Alike (bindExpressions expressions one) (bindExpressions (bareAll expressions) other)
  | [], _, _, alike => alike
  | expression :: rest, _, _, alike =>
      bindExpressions_bare rest (bindExpression_bare expression alike)
termination_by structural expressions => expressions

theorem bindExpression?_bare : ∀ (expression : Option Expression) {one other : Analysis},
    Alike one other →
      Alike (bindExpression? expression one) (bindExpression? (bare? expression) other)
  | none, _, _, alike => alike
  | some expression, _, _, alike => bindExpression_bare expression alike
termination_by structural expression => expression

theorem bindStatement_bare : ∀ (statement : Statement) {one other : Analysis},
    Alike one other → Alike (bindStatement statement one) (bindStatement statement.bare other)
  | .expression value, _, _, alike | .print value, _, _, alike => bindExpression_bare value alike
  | .var name initializer, _, _, alike =>
      (bindExpression?_bare initializer (alike.declare name)).define name
  | .block body, _, _, alike => (bindStatements_bare body alike.openScope).closeScope
  | .ifElse condition thenBranch elseBranch, _, _, alike =>
      bindStatement?_bare elseBranch
        (bindStatement_bare thenBranch (bindExpression_bare condition alike))
  | .whileLoop condition body, _, _, alike =>
      bindStatement_bare body (bindExpression_bare condition alike)
  | .function procedure, one, other, alike => by
      rw [Statement.bare, bindStatement, bindStatement, Procedure.bare_name]
      cases procedure.name with
      | none => exact bindProcedure_bare procedure alike
      | some name => exact bindProcedure_bare procedure ((alike.declare name).define name)
  | .returnValue keyword value, one, other, alike => by
      rw [Statement.bare, bindStatement, bindStatement, alike.insideProcedure]
      split
      · exact bindExpression?_bare value alike
      · exact bindExpression?_bare value (alike.report keyword .topLevelReturn)
termination_by structural statement => statement

theorem bindStatements_bare : ∀ (statements : List Statement) {one other : Analysis},
    Alike one other →
      Alike (bindStatements statements one) (bindStatements (bareBody statements) other)
  | [], _, _, alike => alike
  | statement :: rest, _, _, alike => bindStatements_bare rest (bindStatement_bare statement alike)
termination_by structural statements => statements

theorem bindStatement?_bare : ∀ (statement : Option Statement) {one other : Analysis},
    Alike one other →
      Alike (bindStatement? statement one) (bindStatement? (bareBranch statement) other)
  | none, _, _, alike => alike
  | some statement, _, _, alike => bindStatement_bare statement alike
termination_by structural statement => statement

theorem bindProcedure_bare : ∀ (procedure : Procedure) {one other : Analysis},
    Alike one other → Alike (bindProcedure procedure one) (bindProcedure procedure.bare other)
  | ⟨_, parameters, body⟩, one, other, alike => by
      have opened : Alike { one.openScope with insideProcedure := true }
          { other.openScope with insideProcedure := true } :=
        ⟨alike.openScope.frames, rfl, alike.faults⟩
      have closed := (bindStatements_bare body (opened.defineAll parameters)).closeScope
      exact ⟨closed.frames, alike.insideProcedure, closed.faults⟩
termination_by structural procedure => procedure

end

end Lox.Binding
