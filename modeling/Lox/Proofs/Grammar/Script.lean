import Lox.Grammar.Program

/-! The rules as data. What a rule does is a script of moves and of calls of other rules, and a
rule with some fuel is its script run with the rules that have one less. Without fuel a script
says which calls are made and in which order. -/

namespace Lox.Grammar

/-- The rules that call each other, with what they are given. -/
inductive Part : Type → Type where
  | expression : Part Expression
  | operand (layer : Precedence) : Part Expression
  | chain (layer : Precedence) (left : Expression) : Part Expression
  | calls (callee : Expression) : Part Expression
  | arguments (values : List Expression) : Part (List Expression)
  | primary : Part Expression
  | procedure (kind : ProcedureKind) (name : Option Token) : Part Procedure
  | parameterNames (names : List Token) : Part (List Token)
  | block : Part (List Statement)
  | declarations (closes : Kind → Bool) : Part (List Statement)
  | declaration : Part (Option Statement)
  | variableDeclaration : Part Statement
  | statement : Part Statement
  | expressionStatement : Part Statement
  | ifStatement : Part Statement
  | forInitializer : Part (Option Statement)
  | forStatement : Part Statement

/-- What a rule can do by itself. Only giving up yields nothing. -/
inductive Move : Type → Type where
  | site : Move Token
  | skip : Move Unit
  | report (token : Token) (cause : GrammarCause) : Move Unit
  | abandon (cause : GrammarCause) : Move Empty
  | nextIs (expected : Kind → Bool) : Move Bool
  | accept? (expected : Kind → Bool) : Move (Option Token)
  | functionName? : Move (Option Token)
  /-- Builds a node for a use of a name, with a new number. -/
  | newVariable (name : Token) : Move Expression
  | newAssign (name : Token) (value : Expression) : Move Expression

inductive Script : Type → Type 1 where
  | yield {α : Type} (value : α) : Script α
  | move {α β : Type} (step : Move β) (next : β → Script α) : Script α
  | call {α β : Type} (part : Part β) (next : β → Script α) : Script α
  /-- A failure of the script costs no more than the statement it is for. -/
  | attempt {α β : Type} (script : Script β) (next : Option β → Script α) : Script α

def Part.rule {α : Type} (fuel : Nat) : Part α → Rule α
  | .expression => Grammar.expression fuel
  | .operand layer => Grammar.operand fuel layer
  | .chain layer left => Grammar.chain fuel layer left
  | .calls callee => Grammar.calls fuel callee
  | .arguments values => Grammar.arguments fuel values
  | .primary => Grammar.primary fuel
  | .procedure kind name => Grammar.procedure fuel kind name
  | .parameterNames names => Grammar.parameterNames fuel names
  | .block => Grammar.block fuel
  | .declarations closes => Grammar.declarations fuel closes
  | .declaration => Grammar.declaration fuel
  | .variableDeclaration => Grammar.variableDeclaration fuel
  | .statement => Grammar.statement fuel
  | .expressionStatement => Grammar.expressionStatement fuel
  | .ifStatement => Grammar.ifStatement fuel
  | .forInitializer => Grammar.forInitializer fuel
  | .forStatement => Grammar.forStatement fuel

def Move.rule {α : Type} : Move α → Rule α
  | .site => Rule.site
  | .skip => Rule.skip
  | .report token cause => Rule.report token cause
  | .abandon cause => Rule.abandon cause
  | .nextIs expected => Rule.nextIs expected
  | .accept? expected => Rule.accept? expected
  | .functionName? => Grammar.functionName?
  | .newVariable name => do
      let id ← Rule.freshId
      pure (.variable id name)
  | .newAssign name value => do
      let id ← Rule.freshId
      pure (.assign id name value)

namespace Script

variable {α β : Type}

def andThen {α β : Type} : Script α → (α → Script β) → Script β
  | .yield value, next => next value
  | .move step middle, next => .move step fun value => (middle value).andThen next
  | .call part middle, next => .call part fun value => (middle value).andThen next
  | .attempt script middle, next => .attempt script fun value => (middle value).andThen next

instance : Monad Script where
  pure := yield
  bind := andThen

/-- What a script does when its calls are made with some rules. -/
def run (rules : {β : Type} → Part β → Rule β) {α : Type} : Script α → Rule α
  | .yield value => pure value
  | .move step next => do
      let value ← step.rule
      (next value).run rules
  | .call part next => do
      let value ← rules part
      (next value).run rules
  | .attempt script next => do
      let found ← (script.run rules).recover
      (next found).run rules

/-! ### The moves as scripts -/

def site : Script Token := .move .site .yield

def skip : Script Unit := .move .skip .yield

def report (token : Token) (cause : GrammarCause) : Script Unit :=
  .move (.report token cause) .yield

def abandon (cause : GrammarCause) : Script α :=
  .move (.abandon cause) fun impossible => nomatch impossible

def nextIs (expected : Kind → Bool) : Script Bool := .move (.nextIs expected) .yield

def accept? (expected : Kind → Bool) : Script (Option Token) := .move (.accept? expected) .yield

def functionName? : Script (Option Token) := .move .functionName? .yield

def newVariable (name : Token) : Script Expression := .move (.newVariable name) .yield

def newAssign (name : Token) (value : Expression) : Script Expression :=
  .move (.newAssign name value) .yield

def ask (part : Part α) : Script α := .call part .yield

def recover (script : Script α) : Script (Option α) := .attempt script .yield

def expect (expected : Kind → Bool) (cause : GrammarCause) : Script Token := do
  match ← accept? expected with
  | some token => pure token
  | none => abandon cause

def unlessNext? (closes : Kind → Bool) (script : Script α) : Script (Option α) := do
  if ← nextIs closes then pure none
  else
    let value ← script
    pure (some value)

def after? (announces : Kind → Bool) (script : Script α) : Script (Option α) := do
  match ← accept? announces with
  | some _ => do
      let value ← script
      pure (some value)
  | none => pure none

def assignment (target : Expression) (equals : Token) (value : Expression) : Script Expression :=
  match target with
  | .variable _ name => newAssign name value
  | _ => do
      report equals .assignmentTarget
      pure target

def reportExcess (count : Nat) (cause : GrammarCause) : Script Unit := do
  if listLimit ≤ count then report (← site) cause else pure ()

/-! ### Scripts run as the rules they are like -/

variable (rules : {β : Type} → Part β → Rule β)

@[simp]
theorem run_pure (value : α) : (pure value : Script α).run rules = pure value := by
  change (yield value).run rules = _
  rw [run]

@[simp]
theorem run_bind (script : Script α) (next : α → Script β) :
    (script >>= next).run rules = script.run rules >>= fun value => (next value).run rules := by
  change (script.andThen next).run rules = _
  induction script with
  | yield value => exact (pure_bind value fun value => (next value).run rules).symm
  | move _ _ ih | call _ _ ih | attempt _ _ _ ih =>
      rw [andThen, run, run, bind_assoc]
      exact bind_congr fun value => ih value next

@[simp]
theorem run_site : site.run rules = Rule.site := bind_pure _

@[simp]
theorem run_skip : skip.run rules = Rule.skip := bind_pure _

@[simp]
theorem run_abandon (cause : GrammarCause) :
    (abandon cause : Script α).run rules = Rule.abandon cause := by
  rw [abandon, run, Rule.abandon]
  rfl

@[simp]
theorem run_nextIs (expected : Kind → Bool) :
    (nextIs expected).run rules = Rule.nextIs expected := bind_pure _

@[simp]
theorem run_accept? (expected : Kind → Bool) :
    (accept? expected).run rules = Rule.accept? expected := bind_pure _

@[simp]
theorem run_functionName? : functionName?.run rules = Grammar.functionName? := bind_pure _

@[simp]
theorem run_newVariable (name : Token) :
    (newVariable name).run rules = (Move.newVariable name).rule := bind_pure _

@[simp]
theorem run_ask (part : Part α) : (ask part).run rules = rules part := bind_pure _

@[simp]
theorem run_recover (script : Script α) :
    (recover script).run rules = (script.run rules).recover := bind_pure _

@[simp]
theorem run_expect (expected : Kind → Bool) (cause : GrammarCause) :
    (expect expected cause).run rules = Rule.expect expected cause := by
  rw [expect, Rule.expect, run_bind, run_accept?]
  refine bind_congr fun found => ?_
  cases found <;> rfl

@[simp]
theorem run_unlessNext? (closes : Kind → Bool) (script : Script α) :
    (unlessNext? closes script).run rules = Rule.unlessNext? closes (script.run rules) := by
  rw [unlessNext?, Rule.unlessNext?, run_bind, run_nextIs]
  refine bind_congr fun closed => ?_
  cases closed
  · exact run_bind rules script _
  · rfl

@[simp]
theorem run_after? (announces : Kind → Bool) (script : Script α) :
    (after? announces script).run rules = Rule.after? announces (script.run rules) := by
  rw [after?, Rule.after?, run_bind, run_accept?]
  refine bind_congr fun found => ?_
  cases found
  · rfl
  · exact run_bind rules script _

@[simp]
theorem run_assignment (target : Expression) (equals : Token) (value : Expression) :
    (assignment target equals value).run rules = Grammar.assignment target equals value := by
  cases target <;> rfl

@[simp]
theorem run_reportExcess (count : Nat) (cause : GrammarCause) :
    (reportExcess count cause).run rules = Grammar.reportExcess count cause := by
  unfold reportExcess Grammar.reportExcess
  split <;> rfl

/-! ### The scripts of the rules -/

def of {α : Type} : Part α → Script α
  | .expression => do
      let target ← ask (.operand .disjunction)
      match ← accept? (Kind.isMark .equal) with
      | some equals => do
          let value ← ask .expression
          assignment target equals value
      | none => pure target
  | .operand .ternary => do
      let condition ← ask (.operand .equality)
      match ← accept? (Precedence.admits .ternary) with
      | some _ => do
          let thenBranch ← ask (.operand .equality)
          let _ ← expect (Kind.isMark .colon) .choiceColon
          let elseBranch ← ask (.operand .equality)
          pure (.ternary condition thenBranch elseBranch)
      | none => pure condition
  | .operand .unary => do
      match ← accept? (Precedence.admits .unary) with
      | some operator => do
          let right ← ask (.operand .unary)
          pure (.unary operator right)
      | none => do
          let callee ← ask .primary
          ask (.calls callee)
  | .operand layer => do
      let left ← ask (.operand layer.tighter)
      ask (.chain layer left)
  | .chain layer left => do
      match ← accept? layer.admits with
      | some operator => do
          let right ← ask (.operand layer.tighter)
          ask (.chain layer (layer.join left operator right))
      | none => pure left
  | .calls callee => do
      match ← accept? (Kind.isMark .leftParen) with
      | some _ => do
          let values ← unlessNext? (Kind.isMark .rightParen) (ask (.arguments []))
          let paren ← expect (Kind.isMark .rightParen) .argumentsClose
          ask (.calls (.call callee paren (values.getD [])))
      | none => pure callee
  | .arguments values => do
      reportExcess values.length .tooManyArguments
      let value ← ask .expression
      match ← accept? (Kind.isMark .comma) with
      | some _ => ask (.arguments (values ++ [value]))
      | none => pure (values ++ [value])
  | .primary => do
      let token ← site
      match token.kind with
      | .keyword .false => do
          skip
          pure (.literal .false)
      | .keyword .true => do
          skip
          pure (.literal .true)
      | .keyword .nil => do
          skip
          pure (.literal .nil)
      | .number value => do
          skip
          pure (.literal (.number value))
      | .string text => do
          skip
          pure (.literal (.string text))
      | .identifier => do
          skip
          newVariable token
      | .mark .leftParen => do
          skip
          let inner ← ask .expression
          let _ ← expect (Kind.isMark .rightParen) .groupingClose
          pure (.grouping inner)
      | .keyword .fun => do
          skip
          let lambda ← ask (.procedure .lambda none)
          pure (.lambda lambda)
      | _ => abandon .expression
  | .procedure kind name => do
      let _ ← expect (Kind.isMark .leftParen) (.parametersOpen kind)
      let names ← unlessNext? (Kind.isMark .rightParen) (ask (.parameterNames []))
      let _ ← expect (Kind.isMark .rightParen) .parametersClose
      let _ ← expect (Kind.isMark .leftBrace) (.bodyOpen kind)
      let body ← ask .block
      pure ⟨name, names.getD [], body⟩
  | .parameterNames names => do
      reportExcess names.length .tooManyParameters
      let name ← expect Kind.isIdentifier .parameterName
      match ← accept? (Kind.isMark .comma) with
      | some _ => ask (.parameterNames (names ++ [name]))
      | none => pure (names ++ [name])
  | .block => do
      let body ← ask (.declarations (Kind.isMark .rightBrace))
      let _ ← expect (Kind.isMark .rightBrace) .blockClose
      pure body
  | .declarations closes => do
      if ← nextIs (fun kind => closes kind || kind.isEndOfInput) then pure []
      else
        let first ← ask .declaration
        let rest ← ask (.declarations closes)
        pure (first.toList ++ rest)
  | .declaration => recover do
      match ← functionName? with
      | some name => do
          let function ← ask (.procedure .function (some name))
          pure (.function function)
      | none =>
          match ← accept? (Kind.isKeyword .var) with
          | some _ => ask .variableDeclaration
          | none => ask .statement
  | .variableDeclaration => do
      let name ← expect Kind.isIdentifier .variableName
      let initializer ← after? (Kind.isMark .equal) (ask .expression)
      let _ ← expect (Kind.isMark .semicolon) .variableEnd
      pure (.var name initializer)
  | .statement => do
      let token ← site
      match token.kind with
      | .keyword .for => do
          skip
          ask .forStatement
      | .keyword .if => do
          skip
          ask .ifStatement
      | .keyword .print => do
          skip
          let value ← ask .expression
          let _ ← expect (Kind.isMark .semicolon) .valueEnd
          pure (.print value)
      | .keyword .return => do
          skip
          let value ← unlessNext? (Kind.isMark .semicolon) (ask .expression)
          let _ ← expect (Kind.isMark .semicolon) .returnEnd
          pure (.returnValue token value)
      | .keyword .while => do
          skip
          let _ ← expect (Kind.isMark .leftParen) .whileOpen
          let condition ← ask .expression
          let _ ← expect (Kind.isMark .rightParen) .whileClose
          let body ← ask .statement
          pure (.whileLoop condition body)
      | .mark .leftBrace => do
          skip
          let body ← ask .block
          pure (.block body)
      | _ => ask .expressionStatement
  | .expressionStatement => do
      let value ← ask .expression
      let _ ← expect (Kind.isMark .semicolon) .valueEnd
      pure (.expression value)
  | .ifStatement => do
      let _ ← expect (Kind.isMark .leftParen) .ifOpen
      let condition ← ask .expression
      let _ ← expect (Kind.isMark .rightParen) .ifClose
      let thenBranch ← ask .statement
      match ← accept? (Kind.isKeyword .else) with
      | some _ => do
          let elseBranch ← ask .statement
          pure (.ifElse condition thenBranch (some elseBranch))
      | none => pure (.ifElse condition thenBranch none)
  | .forInitializer => do
      match ← accept? (Kind.isMark .semicolon) with
      | some _ => pure none
      | none =>
          match ← accept? (Kind.isKeyword .var) with
          | some _ => do
              let declared ← ask .variableDeclaration
              pure (some declared)
          | none => do
              let first ← ask .expressionStatement
              pure (some first)
  | .forStatement => do
      let _ ← expect (Kind.isMark .leftParen) .forOpen
      let initializer ← ask .forInitializer
      let condition ← unlessNext? (Kind.isMark .semicolon) (ask .expression)
      let _ ← expect (Kind.isMark .semicolon) .loopConditionEnd
      let increment ← unlessNext? (Kind.isMark .rightParen) (ask .expression)
      let _ ← expect (Kind.isMark .rightParen) .forClose
      let body ← ask .statement
      pure (forLoop initializer (condition.getD (.literal .true)) increment body)

/-- With one more fuel a rule does what its script says. -/
theorem rule_succ {α : Type} (fuel : Nat) (part : Part α) :
    part.rule (fuel + 1) = (of part).run (Part.rule fuel) := by
  cases part with
  | expression =>
      rw [Part.rule, Grammar.expression, of, run_bind, run_ask]
      refine bind_congr fun target => ?_
      rw [run_bind, run_accept?]
      refine bind_congr fun equals => ?_
      cases equals with
      | none => rfl
      | some _ =>
          simp
          rfl
  | operand layer =>
      cases layer
      case ternary =>
        simp only [Part.rule, Grammar.operand, of, run_bind, run_ask, run_accept?]
        refine bind_congr fun condition => bind_congr fun question => ?_
        cases question <;> simp [Part.rule]
      case unary =>
        simp only [Part.rule, Grammar.operand, of, run_bind, run_accept?]
        refine bind_congr fun operator => ?_
        cases operator <;> simp [Part.rule]
      all_goals
        simp only [Part.rule, Grammar.operand, of, run_bind, run_ask]
  | chain layer left =>
      simp only [Part.rule, Grammar.chain, of, run_bind, run_accept?]
      refine bind_congr fun operator => ?_
      cases operator <;> simp [Part.rule]
  | calls callee =>
      simp only [Part.rule, Grammar.calls, of, run_bind, run_accept?]
      refine bind_congr fun operator => ?_
      cases operator <;> simp [Part.rule]
  | arguments values =>
      simp only [Part.rule, Grammar.arguments, of, run_bind, run_ask, run_accept?,
        run_reportExcess]
      refine bind_congr fun _ => bind_congr fun value => bind_congr fun comma => ?_
      cases comma <;> simp [Part.rule]
  | primary =>
      simp only [Part.rule, Grammar.primary, of, run_bind, run_site]
      refine bind_congr fun token => ?_
      rcases token with ⟨⟨sign⟩ | ⟨word⟩ | _ | _ | _ | _, lexeme, line⟩
      case mark => cases sign <;> simp [Part.rule]
      case keyword => cases word <;> simp [Part.rule]
      all_goals simp [Move.rule]
  | procedure kind name =>
      simp [Part.rule, Grammar.procedure, of, parameters]
  | parameterNames names =>
      simp only [Part.rule, Grammar.parameterNames, of, run_bind, run_expect, run_accept?,
        run_reportExcess]
      refine bind_congr fun _ => bind_congr fun value => bind_congr fun comma => ?_
      cases comma <;> simp [Part.rule]
  | block => simp [Part.rule, Grammar.block, of]
  | declarations closes =>
      simp only [Part.rule, Grammar.declarations, of, run_bind, run_nextIs]
      refine bind_congr fun closed => ?_
      cases closed <;> simp [Part.rule]
  | declaration =>
      simp only [Part.rule, Grammar.declaration, of, run_recover, run_bind, run_functionName?]
      refine congrArg Rule.recover (bind_congr fun name => ?_)
      cases name with
      | some name => simp [Part.rule]
      | none =>
          simp only [run_bind, run_accept?]
          refine bind_congr fun word => ?_
          cases word <;> simp [Part.rule]
  | variableDeclaration => simp [Part.rule, Grammar.variableDeclaration, of]
  | statement =>
      simp only [Part.rule, Grammar.statement, of, run_bind, run_site]
      refine bind_congr fun token => ?_
      rcases token with ⟨⟨sign⟩ | ⟨word⟩ | _ | _ | _ | _, lexeme, line⟩
      case mark => cases sign <;> simp [Part.rule]
      case keyword => cases word <;> simp [Part.rule]
      all_goals simp [Part.rule]
  | expressionStatement => simp [Part.rule, Grammar.expressionStatement, of]
  | ifStatement =>
      simp only [Part.rule, Grammar.ifStatement, of, run_bind, run_ask, run_accept?, run_expect]
      refine bind_congr fun _ => bind_congr fun _ => bind_congr fun _ => bind_congr fun _ =>
        bind_congr fun other => ?_
      cases other <;> simp [Part.rule]
  | forInitializer =>
      simp only [Part.rule, Grammar.forInitializer, of, run_bind, run_accept?]
      refine bind_congr fun semicolon => ?_
      cases semicolon with
      | some _ => simp
      | none =>
          simp only [run_bind, run_accept?]
          refine bind_congr fun word => ?_
          cases word <;> simp [Part.rule]
  | forStatement => simp [Part.rule, Grammar.forStatement, of]

end Script
end Lox.Grammar
