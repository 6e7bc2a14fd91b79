import Lox.Proofs.Lexical.Evaluation
import Lox.Proofs.Machine.Fuel

/-! Fuel with lexical scope. As with scopes and distances, a run that ends does so with more
fuel, too, and in the same way. -/

namespace Lox.Lexical

open Lox.Action (Within)

structure Fuelled (fuel more : Nat) : Prop where
  expression (view : View) (tree : Expression) :
    Within (evaluate fuel view tree) (evaluate more view tree)
  expressions (view : View) (trees : List Expression) :
    Within (evaluateAll fuel view trees) (evaluateAll more view trees)
  call (callee : Callee) (values : List Value) (paren : Token) :
    Within (invoke fuel callee values paren) (invoke more callee values paren)
  statement (view : View) (tree : Statement) :
    Within (execute fuel view tree) (execute more view tree)
  optional (view : View) (tree : Option Expression) :
    Within (evaluateOptional fuel view tree) (evaluateOptional more view tree)
  statements (view : View) (trees : List Statement) :
    Within (executeAll fuel view trees) (executeAll more view trees)
  loop (view : View) (condition : Expression) (body : Statement) :
    Within (repeatWhile fuel view condition body) (repeatWhile more view condition body)

namespace Fuelled

variable {fuel more : Nat}

theorem nextExpression (less : Fuelled fuel more) (view : View) (tree : Expression) :
    Within (evaluate (fuel + 1) view tree) (evaluate (more + 1) view tree) := by
  cases tree with
  | literal _ | «variable» _ _ | lambda _ => exact .refl _
  | grouping inner => exact less.expression view inner
  | unary operator right => exact (less.expression view right).before _
  | binary left operator right =>
      exact (less.expression view left).bind fun value => (less.expression view right).before _
  | logical left operator right =>
      apply (less.expression view left).bind
      intro value
      split
      · exact .refl _
      · exact less.expression view right
  | ternary condition thenBranch elseBranch =>
      apply (less.expression view condition).bind
      intro value
      split
      · exact less.expression view thenBranch
      · exact less.expression view elseBranch
  | assign id name value => exact (less.expression view value).before _
  | call callee paren arguments =>
      apply (less.expression view callee).bind
      intro value
      cases value with
      | callable identity target =>
          exact (less.expressions view arguments).bind fun values => less.call target values paren
      | _ => exact .refl _

theorem nextExpressions (less : Fuelled fuel more) (view : View) (trees : List Expression) :
    Within (evaluateAll (fuel + 1) view trees) (evaluateAll (more + 1) view trees) := by
  cases trees with
  | nil => exact .refl _
  | cons first rest =>
      exact (less.expression view first).bind fun value => (less.expressions view rest).before _

theorem nextCall (less : Fuelled fuel more) (callee : Callee) (values : List Value)
    (paren : Token) :
    Within (invoke (fuel + 1) callee values paren) (invoke (more + 1) callee values paren) := by
  unfold invoke
  split
  · exact .refl _
  · cases callee with
    | native native => exact .refl _
    | closure procedure view =>
        apply Within.behind
        intro inner
        exact (less.statements inner procedure.body).before _

theorem nextStatement (less : Fuelled fuel more) (view : View) (tree : Statement) :
    Within (execute (fuel + 1) view tree) (execute (more + 1) view tree) := by
  cases tree with
  | expression value => exact (less.expression view value).before _
  | print value => exact (less.expression view value).before _
  | var name initializer => exact (less.optional view initializer).before _
  | block body => exact less.statements view body
  | ifElse condition thenBranch elseBranch =>
      apply (less.expression view condition).bind
      intro value
      split
      · exact less.statement view thenBranch
      · cases elseBranch with
        | none => exact .refl _
        | some branch => exact less.statement view branch
  | whileLoop condition body => exact less.loop view condition body
  | function procedure => exact .refl _
  | returnValue keyword result => exact (less.optional view result).before _

theorem nextOptional (less : Fuelled fuel more) (view : View) (tree : Option Expression) :
    Within (evaluateOptional (fuel + 1) view tree) (evaluateOptional (more + 1) view tree) := by
  cases tree with
  | none => exact .refl _
  | some tree => exact less.expression view tree

theorem nextStatements (less : Fuelled fuel more) (view : View) (trees : List Statement) :
    Within (executeAll (fuel + 1) view trees) (executeAll (more + 1) view trees) := by
  cases trees with
  | nil => exact .refl _
  | cons first rest =>
      apply Within.behind
      intro inner
      apply (less.statement inner first).bind
      intro completion
      cases completion with
      | normal => exact less.statements inner rest
      | returned value => exact .refl _

theorem nextLoop (less : Fuelled fuel more) (view : View) (condition : Expression)
    (body : Statement) :
    Within (repeatWhile (fuel + 1) view condition body)
      (repeatWhile (more + 1) view condition body) := by
  apply (less.expression view condition).bind
  intro value
  split
  · apply (less.statement view body).bind
    intro completion
    cases completion with
    | normal => exact less.loop view condition body
    | returned value => exact .refl _
  · exact .refl _

end Fuelled

theorem fuelled_add (fuel extra : Nat) : Fuelled fuel (fuel + extra) := by
  induction fuel with
  | zero =>
      constructor <;> intros <;> exact .outOfFuel _
  | succ fuel less =>
      rw [Nat.add_right_comm]
      exact
        { expression := less.nextExpression
          expressions := less.nextExpressions
          call := less.nextCall
          statement := less.nextStatement
          optional := less.nextOptional
          statements := less.nextStatements
          loop := less.nextLoop }

theorem fuelled {fuel more : Nat} (enough : fuel ≤ more) : Fuelled fuel more := by
  have total := fuelled_add fuel (more - fuel)
  rwa [Nat.add_sub_of_le enough] at total

end Lox.Lexical
