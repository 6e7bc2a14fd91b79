import Lox.Grammar.Rule
import Lox.Grammar.Precedence

/-! The grammar. Rules call each other without reading a token at most as deep as
there are layers, so fuel in proportion to the number of tokens is never used
up. -/

namespace Lox.Grammar

def listLimit : Nat := 255

/-- Only a name can be assigned to. Anything else is reported and kept. -/
def assignment (target : Expression) (equals : Token) (value : Expression) : Rule Expression :=
  match target with
  | .variable _ name => do
      let id ← Rule.freshId
      pure (.assign id name value)
  | _ => do
      Rule.report equals .assignmentTarget
      pure target

def reportExcess (count : Nat) (cause : GrammarCause) : Rule Unit := do
  if listLimit ≤ count then Rule.report (← Rule.site) cause else pure ()

def parameterNames : Nat → List Token → Rule (List Token)
  | 0, _ => Rule.stop
  | fuel + 1, names => do
      reportExcess names.length .tooManyParameters
      let name ← Rule.expect Kind.isIdentifier .parameterName
      match ← Rule.accept? (Kind.isMark .comma) with
      | some _ => parameterNames fuel (names ++ [name])
      | none => pure (names ++ [name])

def parameters (fuel : Nat) : Rule (List Token) := do
  let names ← Rule.unlessNext? (Kind.isMark .rightParen) (parameterNames fuel [])
  pure (names.getD [])

/-- The name of a function declaration. The word `fun` without a name begins an
expression instead. -/
def functionName? : Rule (Option Token) := fun reader =>
  match reader.rest with
  | word :: name :: rest =>
      if word.kind.isKeyword .fun && name.kind.isIdentifier then
        (some (some name), { reader with rest := rest })
      else (some none, reader)
  | _ => (some none, reader)

/-- A loop with clauses as a block around a `while`. The increment comes last in
the body. -/
def forLoop (initializer : Option Statement) (condition : Expression)
    (increment : Option Expression) (body : Statement) : Statement :=
  let repeated :=
    match increment with
    | some step => .block [body, .expression step]
    | none => body
  let loop := Statement.whileLoop condition repeated
  match initializer with
  | some first => .block [first, loop]
  | none => loop

mutual

def expression : Nat → Rule Expression
  | 0 => Rule.stop
  | fuel + 1 => do
      let target ← operand fuel .disjunction
      match ← Rule.accept? (Kind.isMark .equal) with
      | some equals => do
          let value ← expression fuel
          assignment target equals value
      | none => pure target

def operand : Nat → Precedence → Rule Expression
  | 0, _ => Rule.stop
  | fuel + 1, .ternary => do
      let condition ← operand fuel .equality
      match ← Rule.accept? (Precedence.admits .ternary) with
      | some _ => do
          let thenBranch ← operand fuel .equality
          let _ ← Rule.expect (Kind.isMark .colon) .choiceColon
          let elseBranch ← operand fuel .equality
          pure (.ternary condition thenBranch elseBranch)
      | none => pure condition
  | fuel + 1, .unary => do
      match ← Rule.accept? (Precedence.admits .unary) with
      | some operator => do
          let right ← operand fuel .unary
          pure (.unary operator right)
      | none => do
          let callee ← primary fuel
          calls fuel callee
  | fuel + 1, layer => do
      let left ← operand fuel layer.tighter
      chain fuel layer left

def chain : Nat → Precedence → Expression → Rule Expression
  | 0, _, _ => Rule.stop
  | fuel + 1, layer, left => do
      match ← Rule.accept? layer.admits with
      | some operator => do
          let right ← operand fuel layer.tighter
          chain fuel layer (layer.join left operator right)
      | none => pure left

def calls : Nat → Expression → Rule Expression
  | 0, _ => Rule.stop
  | fuel + 1, callee => do
      match ← Rule.accept? (Kind.isMark .leftParen) with
      | some _ => do
          let values ← Rule.unlessNext? (Kind.isMark .rightParen) (arguments fuel [])
          let paren ← Rule.expect (Kind.isMark .rightParen) .argumentsClose
          calls fuel (.call callee paren (values.getD []))
      | none => pure callee

def arguments : Nat → List Expression → Rule (List Expression)
  | 0, _ => Rule.stop
  | fuel + 1, values => do
      reportExcess values.length .tooManyArguments
      let value ← expression fuel
      match ← Rule.accept? (Kind.isMark .comma) with
      | some _ => arguments fuel (values ++ [value])
      | none => pure (values ++ [value])

def primary : Nat → Rule Expression
  | 0 => Rule.stop
  | fuel + 1 => do
      let token ← Rule.site
      match token.kind with
      | .keyword .false => do
          Rule.skip
          pure (.literal .false)
      | .keyword .true => do
          Rule.skip
          pure (.literal .true)
      | .keyword .nil => do
          Rule.skip
          pure (.literal .nil)
      | .number value => do
          Rule.skip
          pure (.literal (.number value))
      | .string text => do
          Rule.skip
          pure (.literal (.string text))
      | .identifier => do
          Rule.skip
          let id ← Rule.freshId
          pure (.variable id token)
      | .mark .leftParen => do
          Rule.skip
          let inner ← expression fuel
          let _ ← Rule.expect (Kind.isMark .rightParen) .groupingClose
          pure (.grouping inner)
      | .keyword .fun => do
          Rule.skip
          let lambda ← procedure fuel .lambda none
          pure (.lambda lambda)
      | _ => Rule.abandon .expression

def procedure : Nat → ProcedureKind → Option Token → Rule Procedure
  | 0, _, _ => Rule.stop
  | fuel + 1, kind, name => do
      let _ ← Rule.expect (Kind.isMark .leftParen) (.parametersOpen kind)
      let names ← parameters fuel
      let _ ← Rule.expect (Kind.isMark .rightParen) .parametersClose
      let _ ← Rule.expect (Kind.isMark .leftBrace) (.bodyOpen kind)
      let body ← block fuel
      pure ⟨name, names, body⟩

def block : Nat → Rule (List Statement)
  | 0 => Rule.stop
  | fuel + 1 => do
      let body ← declarations fuel (Kind.isMark .rightBrace)
      let _ ← Rule.expect (Kind.isMark .rightBrace) .blockClose
      pure body

def declarations : Nat → (Kind → Bool) → Rule (List Statement)
  | 0, _ => Rule.stop
  | fuel + 1, closes => do
      if ← Rule.nextIs (fun kind => closes kind || kind.isEndOfInput) then pure []
      else
        let first ← declaration fuel
        let rest ← declarations fuel closes
        pure (first.toList ++ rest)

def declaration : Nat → Rule (Option Statement)
  | 0 => Rule.stop
  | fuel + 1 => Rule.recover do
      match ← functionName? with
      | some name => do
          let function ← procedure fuel .function (some name)
          pure (.function function)
      | none =>
          match ← Rule.accept? (Kind.isKeyword .var) with
          | some _ => variableDeclaration fuel
          | none => statement fuel

def variableDeclaration : Nat → Rule Statement
  | 0 => Rule.stop
  | fuel + 1 => do
      let name ← Rule.expect Kind.isIdentifier .variableName
      let initializer ← Rule.after? (Kind.isMark .equal) (expression fuel)
      let _ ← Rule.expect (Kind.isMark .semicolon) .variableEnd
      pure (.var name initializer)

def statement : Nat → Rule Statement
  | 0 => Rule.stop
  | fuel + 1 => do
      let token ← Rule.site
      match token.kind with
      | .keyword .for => do
          Rule.skip
          forStatement fuel
      | .keyword .if => do
          Rule.skip
          ifStatement fuel
      | .keyword .print => do
          Rule.skip
          let value ← expression fuel
          let _ ← Rule.expect (Kind.isMark .semicolon) .valueEnd
          pure (.print value)
      | .keyword .return => do
          Rule.skip
          let value ← Rule.unlessNext? (Kind.isMark .semicolon) (expression fuel)
          let _ ← Rule.expect (Kind.isMark .semicolon) .returnEnd
          pure (.returnValue token value)
      | .keyword .while => do
          Rule.skip
          let _ ← Rule.expect (Kind.isMark .leftParen) .whileOpen
          let condition ← expression fuel
          let _ ← Rule.expect (Kind.isMark .rightParen) .whileClose
          let body ← statement fuel
          pure (.whileLoop condition body)
      | .mark .leftBrace => do
          Rule.skip
          let body ← block fuel
          pure (.block body)
      | _ => expressionStatement fuel

def expressionStatement : Nat → Rule Statement
  | 0 => Rule.stop
  | fuel + 1 => do
      let value ← expression fuel
      let _ ← Rule.expect (Kind.isMark .semicolon) .valueEnd
      pure (.expression value)

/-- An `else` belongs to the nearest `if` that is still open. -/
def ifStatement : Nat → Rule Statement
  | 0 => Rule.stop
  | fuel + 1 => do
      let _ ← Rule.expect (Kind.isMark .leftParen) .ifOpen
      let condition ← expression fuel
      let _ ← Rule.expect (Kind.isMark .rightParen) .ifClose
      let thenBranch ← statement fuel
      match ← Rule.accept? (Kind.isKeyword .else) with
      | some _ => do
          let elseBranch ← statement fuel
          pure (.ifElse condition thenBranch (some elseBranch))
      | none => pure (.ifElse condition thenBranch none)

def forInitializer : Nat → Rule (Option Statement)
  | 0 => Rule.stop
  | fuel + 1 => do
      match ← Rule.accept? (Kind.isMark .semicolon) with
      | some _ => pure none
      | none =>
          match ← Rule.accept? (Kind.isKeyword .var) with
          | some _ => do
              let declared ← variableDeclaration fuel
              pure (some declared)
          | none => do
              let first ← expressionStatement fuel
              pure (some first)

def forStatement : Nat → Rule Statement
  | 0 => Rule.stop
  | fuel + 1 => do
      let _ ← Rule.expect (Kind.isMark .leftParen) .forOpen
      let initializer ← forInitializer fuel
      let condition ← Rule.unlessNext? (Kind.isMark .semicolon) (expression fuel)
      let _ ← Rule.expect (Kind.isMark .semicolon) .loopConditionEnd
      let increment ← Rule.unlessNext? (Kind.isMark .rightParen) (expression fuel)
      let _ ← Rule.expect (Kind.isMark .rightParen) .forClose
      let body ← statement fuel
      pure (forLoop initializer (condition.getD (.literal .true)) increment body)

end

structure Reading (α : Type) where
  tree : α
  faults : List Fault
  nextId : NodeId

/-- Between two tokens the rules go less than sixteen deep. -/
def fuelFor (tokens : List Token) : Nat := 16 * (tokens.length + 2)

def readProgram (tokens : List Token) (nextId : NodeId) : Reading (List Statement) :=
  let result := declarations (fuelFor tokens) (fun _ => false) (Reader.ofTokens tokens nextId)
  ⟨result.1.getD [], result.2.faults, result.2.nextId⟩

def wholeExpression (fuel : Nat) : Rule Expression := do
  let value ← expression fuel
  if ← Rule.nextIs Kind.isEndOfInput then pure value else Rule.abandon .endOfExpression

/-- The expression that all tokens together are. Any fault leaves none. -/
def readExpression (tokens : List Token) (nextId : NodeId) : Reading (Option Expression) :=
  let result := wholeExpression (fuelFor tokens) (Reader.ofTokens tokens nextId)
  ⟨if result.2.faults.isEmpty then result.1 else none, result.2.faults, result.2.nextId⟩

end Lox.Grammar
