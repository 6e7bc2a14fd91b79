import Lox.Tree.Basic
import Lox.Document

/-! Trees as documents. Every node is a record of one field, named for its kind,
which holds its parts in order; a kind without parts is its bare name. -/

namespace Lox

/-- Numbers without digits have no place in a document. -/
def serializedNumber (value : Float) : Document :=
  match NumberForm.serialized.finite? (Quantity.ofFloat value) with
  | some text => .decimal text
  | none => .null

def tagged (tag : String) (content : Document) : Document := .record [(tag, content)]

def Kind.serialized : Kind → Document
  | .string text => tagged "STRING" (.string text)
  | .number value => tagged "NUMBER" (serializedNumber value)
  | kind => .string kind.name

def Token.serialized (token : Token) : Document :=
  .record
    [("token_type", token.kind.serialized), ("lexeme", .string token.lexeme),
     ("line", .natural token.line)]

def Literal.serialized : Literal → Document
  | .number value => tagged "Number" (serializedNumber value)
  | .string text => tagged "Str" (.string text)
  | .true => .string "True"
  | .false => .string "False"
  | .nil => .string "Nil"

def serializedToken? : Option Token → Document
  | none => .null
  | some token => token.serialized

mutual

def Expression.serialized : Expression → Document
  | .literal value => tagged "Literal" value.serialized
  | .grouping inner => tagged "Grouping" inner.serialized
  | .unary operator right =>
      tagged "Unary" (.record [("operator", operator.serialized), ("right", right.serialized)])
  | .binary left operator right =>
      tagged "Binary" (.record
        [("left", left.serialized), ("operator", operator.serialized), ("right", right.serialized)])
  | .logical left operator right =>
      tagged "Logical" (.record
        [("left", left.serialized), ("operator", operator.serialized), ("right", right.serialized)])
  | .ternary condition thenBranch elseBranch =>
      tagged "Ternary" (.record
        [("condition", condition.serialized), ("then_branch", thenBranch.serialized),
         ("else_branch", elseBranch.serialized)])
  | .variable id name =>
      tagged "Variable" (.record [("id", .natural id), ("name", name.serialized)])
  | .assign id name value =>
      tagged "Assign" (.record
        [("id", .natural id), ("name", name.serialized), ("value", value.serialized)])
  | .call callee paren arguments =>
      tagged "Call" (.record
        [("callee", callee.serialized), ("paren", paren.serialized),
         ("arguments", .list (serializedExpressions arguments))])
  | .lambda procedure => tagged "Lambda" procedure.serialized
termination_by structural expression => expression

def serializedExpressions : List Expression → List Document
  | [] => []
  | expression :: rest => expression.serialized :: serializedExpressions rest
termination_by structural expressions => expressions

def serializedExpression? : Option Expression → Document
  | none => .null
  | some expression => expression.serialized
termination_by structural expression => expression

def Statement.serialized : Statement → Document
  | .expression value => tagged "Expression" value.serialized
  | .print value => tagged "Print" value.serialized
  | .var name initializer =>
      tagged "Var" (.record
        [("name", name.serialized), ("initializer", serializedExpression? initializer)])
  | .block body => tagged "Block" (.list (serializedStatements body))
  | .ifElse condition thenBranch elseBranch =>
      tagged "If" (.record
        [("condition", condition.serialized), ("then_branch", thenBranch.serialized),
         ("else_branch", serializedStatement? elseBranch)])
  | .whileLoop condition body =>
      tagged "While" (.record [("condition", condition.serialized), ("body", body.serialized)])
  | .function procedure => tagged "Function" procedure.serialized
  | .returnValue keyword value =>
      tagged "Return" (.record
        [("keyword", keyword.serialized), ("value", serializedExpression? value)])
termination_by structural statement => statement

def serializedStatements : List Statement → List Document
  | [] => []
  | statement :: rest => statement.serialized :: serializedStatements rest
termination_by structural statements => statements

def serializedStatement? : Option Statement → Document
  | none => .null
  | some statement => statement.serialized
termination_by structural statement => statement

def Procedure.serialized : Procedure → Document
  | ⟨name, parameters, body⟩ =>
      .record
        [("name", serializedToken? name), ("params", .list (parameters.map Token.serialized)),
         ("body", .list (serializedStatements body))]
termination_by structural procedure => procedure

end

end Lox
