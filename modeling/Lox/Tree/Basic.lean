import Lox.Token.Basic

/-! Programs as trees. Every use of a name and every assignment has a number of its
own, by which the static pass records how far out the name is bound. A `for` has
no node: it is a block around a `while`. -/

namespace Lox

inductive Literal where
  | number (value : Float)
  | string (text : String)
  | true
  | false
  | nil
  deriving Repr

abbrev NodeId := Nat

mutual

inductive Expression where
  | literal (value : Literal)
  | grouping (inner : Expression)
  | unary (operator : Token) (right : Expression)
  | binary (left : Expression) (operator : Token) (right : Expression)
  | logical (left : Expression) (operator : Token) (right : Expression)
  | ternary (condition thenBranch elseBranch : Expression)
  | variable (id : NodeId) (name : Token)
  | assign (id : NodeId) (name : Token) (value : Expression)
  /-- The closing parenthesis is where faults of the call are located. -/
  | call (callee : Expression) (paren : Token) (arguments : List Expression)
  | lambda (procedure : Procedure)

inductive Statement where
  | expression (value : Expression)
  | print (value : Expression)
  | var (name : Token) (initializer : Option Expression)
  | block (body : List Statement)
  | ifElse (condition : Expression) (thenBranch : Statement) (elseBranch : Option Statement)
  | whileLoop (condition : Expression) (body : Statement)
  | function (procedure : Procedure)
  | returnValue (keyword : Token) (value : Option Expression)

/-- Parameters and body of a function, which has a name, or of a lambda, which has none. -/
structure Procedure where
  name : Option Token
  parameters : List Token
  body : List Statement

end

end Lox
