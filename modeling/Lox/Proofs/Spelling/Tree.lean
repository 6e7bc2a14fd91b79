import Lox.Proofs.Binding.Walk

/-! Two spellings of negative numbers. A number has its sign to itself, or stands behind a
minus. Where it is called, the sign goes with the number in the one spelling and stays
outside of the call in the other. Static binding takes both for the same. -/

namespace Lox.Spelling

open Binding (Walk Analysis)

/-- How the numbers go together that two expressions have in front. -/
inductive Sense where
  | same
  /-- The first number is the opposite of the second. -/
  | negated
  /-- The second number is the opposite of the first. -/
  | negating

/-- Parts of programs that differ at most in how numbers are spelled. Expressions that do
not have the same sense are calls of numbers. -/
inductive Alike : Sense → Walk → Walk → Prop where
  | literal : Alike .same (.expression (.literal value)) (.expression (.literal value))
  | negated (value : Float) : Alike .negated (.expression (.literal (.number (-value))))
      (.expression (.literal (.number value)))
  | negating (value : Float) : Alike .negating (.expression (.literal (.number value)))
      (.expression (.literal (.number (-value))))
  | apart {operator : Token} : operator.kind = .mark .minus →
      Alike .negated (.expression tree) (.expression tree') →
      Alike .same (.expression tree) (.expression (.unary operator tree'))
  | joined {operator : Token} : operator.kind = .mark .minus →
      Alike .negating (.expression tree) (.expression tree') →
      Alike .same (.expression (.unary operator tree)) (.expression tree')
  | grouping {inner inner' : Expression} :
      Alike .same (.expression inner) (.expression inner') →
      Alike .same (.expression (.grouping inner)) (.expression (.grouping inner'))
  | unary :
      Alike .same (.expression right) (.expression right') →
      Alike .same (.expression (.unary operator right)) (.expression (.unary operator right'))
  | binary :
      Alike .same (.expression left) (.expression left') →
      Alike .same (.expression right) (.expression right') →
      Alike .same (.expression (.binary left operator right))
        (.expression (.binary left' operator right'))
  | logical :
      Alike .same (.expression left) (.expression left') →
      Alike .same (.expression right) (.expression right') →
      Alike .same (.expression (.logical left operator right))
        (.expression (.logical left' operator right'))
  | ternary :
      Alike .same (.expression condition) (.expression condition') →
      Alike .same (.expression thenBranch) (.expression thenBranch') →
      Alike .same (.expression elseBranch) (.expression elseBranch') →
      Alike .same (.expression (.ternary condition thenBranch elseBranch))
        (.expression (.ternary condition' thenBranch' elseBranch'))
  | variable {id : NodeId} :
      Alike .same (.expression (.variable id name)) (.expression (.variable id name))
  | assign {id : NodeId} :
      Alike .same (.expression value) (.expression value') →
      Alike .same (.expression (.assign id name value)) (.expression (.assign id name value'))
  | call :
      Alike sense (.expression callee) (.expression callee') →
      Alike .same (.expressions arguments) (.expressions arguments') →
      Alike sense (.expression (.call callee paren arguments))
        (.expression (.call callee' paren arguments'))
  | lambda {closure closure' : Procedure} :
      Alike .same (.procedure closure) (.procedure closure') →
      Alike .same (.expression (.lambda closure)) (.expression (.lambda closure'))
  | noExpressions : Alike .same (.expressions []) (.expressions [])
  | expressions :
      Alike .same (.expression first) (.expression first') →
      Alike .same (.expressions rest) (.expressions rest') →
      Alike .same (.expressions (first :: rest)) (.expressions (first' :: rest'))
  | absent : Alike .same (.optional none) (.optional none)
  | present :
      Alike .same (.expression tree) (.expression tree') →
      Alike .same (.optional (some tree)) (.optional (some tree'))
  | evaluated :
      Alike .same (.expression value) (.expression value') →
      Alike .same (.statement (.expression value)) (.statement (.expression value'))
  | printed :
      Alike .same (.expression value) (.expression value') →
      Alike .same (.statement (.print value)) (.statement (.print value'))
  | var :
      Alike .same (.optional value) (.optional value') →
      Alike .same (.statement (.var name value)) (.statement (.var name value'))
  | block :
      Alike .same (.statements body) (.statements body') →
      Alike .same (.statement (.block body)) (.statement (.block body'))
  | ifElse :
      Alike .same (.expression condition) (.expression condition') →
      Alike .same (.statement thenBranch) (.statement thenBranch') →
      Alike .same (.branch elseBranch) (.branch elseBranch') →
      Alike .same (.statement (.ifElse condition thenBranch elseBranch))
        (.statement (.ifElse condition' thenBranch' elseBranch'))
  | whileLoop :
      Alike .same (.expression condition) (.expression condition') →
      Alike .same (.statement body) (.statement body') →
      Alike .same (.statement (.whileLoop condition body))
        (.statement (.whileLoop condition' body'))
  | function {closure closure' : Procedure} :
      Alike .same (.procedure closure) (.procedure closure') →
      Alike .same (.statement (.function closure)) (.statement (.function closure'))
  | returned :
      Alike .same (.optional value) (.optional value') →
      Alike .same (.statement (.returnValue keyword value))
        (.statement (.returnValue keyword value'))
  | noStatements : Alike .same (.statements []) (.statements [])
  | statements :
      Alike .same (.statement first) (.statement first') →
      Alike .same (.statements rest) (.statements rest') →
      Alike .same (.statements (first :: rest)) (.statements (first' :: rest'))
  | noBranch : Alike .same (.branch none) (.branch none)
  | branch {tree tree' : Statement} :
      Alike .same (.statement tree) (.statement tree') →
      Alike .same (.branch (some tree)) (.branch (some tree'))
  | procedure :
      Alike .same (.statements body) (.statements body') →
      Alike .same (.procedure ⟨name, parameters, body⟩) (.procedure ⟨name, parameters, body'⟩)

/-! ### Every part is like itself -/

mutual

theorem Alike.expression_refl :
    ∀ tree : Expression, Alike .same (.expression tree) (.expression tree)
  | .literal _ => .literal
  | .grouping inner => .grouping (expression_refl inner)
  | .unary _ right => .unary (expression_refl right)
  | .binary left _ right => .binary (expression_refl left) (expression_refl right)
  | .logical left _ right => .logical (expression_refl left) (expression_refl right)
  | .ternary condition thenBranch elseBranch =>
      .ternary (expression_refl condition) (expression_refl thenBranch)
        (expression_refl elseBranch)
  | .variable _ _ => .variable
  | .assign _ _ value => .assign (expression_refl value)
  | .call callee _ arguments => .call (expression_refl callee) (expressions_refl arguments)
  | .lambda closure => .lambda (procedure_refl closure)
termination_by structural tree => tree

theorem Alike.expressions_refl :
    ∀ trees : List Expression, Alike .same (.expressions trees) (.expressions trees)
  | [] => .noExpressions
  | first :: rest => .expressions (expression_refl first) (expressions_refl rest)
termination_by structural trees => trees

theorem Alike.optional_refl :
    ∀ tree : Option Expression, Alike .same (.optional tree) (.optional tree)
  | none => .absent
  | some tree => .present (expression_refl tree)
termination_by structural tree => tree

theorem Alike.statement_refl :
    ∀ tree : Statement, Alike .same (.statement tree) (.statement tree)
  | .expression value => .evaluated (expression_refl value)
  | .print value => .printed (expression_refl value)
  | .var _ value => .var (optional_refl value)
  | .block body => .block (statements_refl body)
  | .ifElse condition thenBranch elseBranch =>
      .ifElse (expression_refl condition) (statement_refl thenBranch) (branch_refl elseBranch)
  | .whileLoop condition body => .whileLoop (expression_refl condition) (statement_refl body)
  | .function closure => .function (procedure_refl closure)
  | .returnValue _ value => .returned (optional_refl value)
termination_by structural tree => tree

theorem Alike.statements_refl :
    ∀ trees : List Statement, Alike .same (.statements trees) (.statements trees)
  | [] => .noStatements
  | first :: rest => .statements (statement_refl first) (statements_refl rest)
termination_by structural trees => trees

theorem Alike.branch_refl :
    ∀ tree : Option Statement, Alike .same (.branch tree) (.branch tree)
  | none => .noBranch
  | some tree => .branch (statement_refl tree)
termination_by structural tree => tree

theorem Alike.procedure_refl :
    ∀ closure : Procedure, Alike .same (.procedure closure) (.procedure closure)
  | ⟨_, _, body⟩ => .procedure (statements_refl body)
termination_by structural closure => closure

end

/-! ### Static binding -/

/-- Static binding does not see how numbers are spelled. -/
theorem Alike.bound {sense : Sense} {walk walk' : Walk} (alike : Alike sense walk walk')
    (analysis : Analysis) : walk.bind analysis = walk'.bind analysis := by
  induction alike generalizing analysis with
  | literal | negated _ | negating _ | «variable» | noExpressions | absent | noStatements
  | noBranch => rfl
  | apart _ _ ih | joined _ _ ih | grouping _ ih | unary _ ih | lambda _ ih | present _ ih
  | evaluated _ ih | printed _ ih | branch _ ih => exact ih analysis
  | binary _ _ first second | logical _ _ first second | call _ _ first second
  | expressions _ _ first second | statements _ _ first second | whileLoop _ _ first second =>
      exact (congrArg _ (first analysis)).trans (second _)
  | ternary _ _ _ first second third | ifElse _ _ _ first second third =>
      exact (congrArg _ ((congrArg _ (first analysis)).trans (second _))).trans (third _)
  | @assign _ _ name id _ ih => exact congrArg (Analysis.record id name) (ih analysis)
  | @var _ _ name _ ih => exact congrArg (Analysis.define name) (ih _)
  | block _ ih => exact congrArg Analysis.closeScope (ih _)
  | function related ih =>
      cases related with
      | procedure _ => exact ih _
  | returned _ ih => exact ih _
  | procedure _ ih =>
      exact congrArg
        (fun inner : Analysis =>
          { inner.closeScope with insideProcedure := analysis.insideProcedure })
        (ih _)

end Lox.Spelling
