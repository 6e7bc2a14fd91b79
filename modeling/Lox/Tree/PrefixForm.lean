import Lox.Tree.Basic

/-! The prefix form of an expression: every operation in parentheses with its
operator first. Strings stand without quotes, and of a lambda only the
parameters are shown. -/

namespace Lox

def Literal.prefixForm : Literal → String
  | .number value => NumberForm.prefixed.text value
  | .string text => text
  | .true => "true"
  | .false => "false"
  | .nil => "nil"

def parenthesized (head : String) (parts : List String) : String :=
  "(" ++ head ++ String.join (parts.map fun part => " " ++ part) ++ ")"

mutual

def Expression.prefixForm : Expression → String
  | .literal value => value.prefixForm
  | .grouping inner => parenthesized "group" [inner.prefixForm]
  | .unary operator right => parenthesized operator.lexeme [right.prefixForm]
  | .binary left operator right =>
      parenthesized operator.lexeme [left.prefixForm, right.prefixForm]
  | .logical left operator right =>
      parenthesized operator.lexeme [left.prefixForm, right.prefixForm]
  | .ternary condition thenBranch elseBranch =>
      parenthesized "?:" [condition.prefixForm, thenBranch.prefixForm, elseBranch.prefixForm]
  | .variable _ name => name.lexeme
  | .assign _ name value => parenthesized "=" [name.lexeme, value.prefixForm]
  | .call callee _ arguments => parenthesized "call" (callee.prefixForm :: prefixForms arguments)
  | .lambda procedure =>
      "(fun (" ++ String.intercalate " " (procedure.parameters.map Token.lexeme) ++ "))"
termination_by structural expression => expression

def prefixForms : List Expression → List String
  | [] => []
  | expression :: rest => expression.prefixForm :: prefixForms rest
termination_by structural expressions => expressions

end

end Lox
