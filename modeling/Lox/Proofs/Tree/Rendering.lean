import Lox.Tree.Basic

/-! Trees written out as tokens. Every node writes its own words and punctuation around
its parts; parentheses stand only where the tree has them, in a grouping, a call or a
list of parameters. A loop with clauses is written as the block and the `while` that
it has become. -/

namespace Lox

def Mark.token (sign : Mark) : Token := ⟨.mark sign, sign.spelling, 1⟩

def Keyword.token (word : Keyword) : Token := ⟨.keyword word, word.spelling, 1⟩

def Literal.token : Literal → Token
  | .number value => ⟨.number value, NumberForm.listed.text value, 1⟩
  | .string text => ⟨.string text, "\"" ++ text ++ "\"", 1⟩
  | .true => Keyword.true.token
  | .false => Keyword.false.token
  | .nil => Keyword.nil.token

def tokensOfFurtherNames : List Token → List Token
  | [] => []
  | name :: rest => Mark.comma.token :: name :: tokensOfFurtherNames rest

def tokensOfNames : List Token → List Token
  | [] => []
  | name :: rest => name :: tokensOfFurtherNames rest

mutual

def Expression.tokens : Expression → List Token
  | .literal value => [value.token]
  | .grouping inner => Mark.leftParen.token :: (inner.tokens ++ [Mark.rightParen.token])
  | .unary operator right => operator :: right.tokens
  | .binary left operator right => left.tokens ++ operator :: right.tokens
  | .logical left operator right => left.tokens ++ operator :: right.tokens
  | .ternary condition thenBranch elseBranch =>
      condition.tokens ++
        Mark.question.token :: (thenBranch.tokens ++ Mark.colon.token :: elseBranch.tokens)
  | .variable _ name => [name]
  | .assign _ name value => name :: Mark.equal.token :: value.tokens
  | .call callee paren arguments =>
      callee.tokens ++ Mark.leftParen.token :: (tokensOfAll arguments ++ [paren])
  | .lambda procedure => Keyword.fun.token :: procedure.tokens
termination_by structural expression => expression

def tokensOfAll : List Expression → List Token
  | [] => []
  | expression :: rest => expression.tokens ++ tokensOfFurther rest
termination_by structural expressions => expressions

def tokensOfFurther : List Expression → List Token
  | [] => []
  | expression :: rest => Mark.comma.token :: (expression.tokens ++ tokensOfFurther rest)
termination_by structural expressions => expressions

def tokensOf? : Option Expression → List Token
  | none => []
  | some expression => expression.tokens
termination_by structural expression => expression

def tokensOfInitializer : Option Expression → List Token
  | none => []
  | some expression => Mark.equal.token :: expression.tokens
termination_by structural expression => expression

def Statement.tokens : Statement → List Token
  | .expression value => value.tokens ++ [Mark.semicolon.token]
  | .print value => Keyword.print.token :: (value.tokens ++ [Mark.semicolon.token])
  | .var name initializer =>
      Keyword.var.token :: name :: (tokensOfInitializer initializer ++ [Mark.semicolon.token])
  | .block body => Mark.leftBrace.token :: (tokensOfBody body ++ [Mark.rightBrace.token])
  | .ifElse condition thenBranch elseBranch =>
      Keyword.if.token :: Mark.leftParen.token ::
        (condition.tokens ++ Mark.rightParen.token :: (thenBranch.tokens ++ tokensOfBranch elseBranch))
  | .whileLoop condition body =>
      Keyword.while.token :: Mark.leftParen.token ::
        (condition.tokens ++ Mark.rightParen.token :: body.tokens)
  | .function procedure => Keyword.fun.token :: (procedure.name.toList ++ procedure.tokens)
  | .returnValue keyword value => keyword :: (tokensOf? value ++ [Mark.semicolon.token])
termination_by structural statement => statement

def tokensOfBody : List Statement → List Token
  | [] => []
  | statement :: rest => statement.tokens ++ tokensOfBody rest
termination_by structural statements => statements

def tokensOfBranch : Option Statement → List Token
  | none => []
  | some statement => Keyword.else.token :: statement.tokens
termination_by structural statement => statement

/-- Parameters and body. The name of a function is written by its declaration. -/
def Procedure.tokens : Procedure → List Token
  | ⟨_, parameters, body⟩ =>
      Mark.leftParen.token :: (tokensOfNames parameters ++ Mark.rightParen.token ::
        Mark.leftBrace.token :: (tokensOfBody body ++ [Mark.rightBrace.token]))
termination_by structural procedure => procedure

end

def Token.SameText (token other : Token) : Prop :=
  token.kind = other.kind ∧ token.lexeme = other.lexeme

end Lox
