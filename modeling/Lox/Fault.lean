import Lox.Token.Basic
import Lox.Text.Utf8

/-! Everything that can go wrong, with where it went wrong. Lexical, grammar and
scoping faults are found before a program runs; runtime and device faults end a
run; a source file can also fail to be readable text. -/

namespace Lox

inductive LexicalCause where
  | unexpected (character : Char)
  | unterminatedString
  deriving DecidableEq, Repr

inductive ProcedureKind where
  | function
  | lambda
  deriving DecidableEq, Repr

inductive GrammarCause where
  | expression
  | endOfExpression
  | parametersOpen (kind : ProcedureKind)
  | tooManyParameters
  | parameterName
  | parametersClose
  | bodyOpen (kind : ProcedureKind)
  | variableName
  | variableEnd
  | forOpen
  | loopConditionEnd
  | forClose
  | ifOpen
  | ifClose
  | valueEnd
  | returnEnd
  | whileOpen
  | whileClose
  | blockClose
  | assignmentTarget
  | choiceColon
  | tooManyArguments
  | argumentsClose
  | groupingClose
  deriving DecidableEq, Repr

inductive ScopingCause where
  | alreadyDeclared
  | ownInitializer
  | topLevelReturn
  deriving DecidableEq, Repr

inductive RuntimeCause where
  | undefinedVariable (name : String)
  | operandNotNumber
  | operandsNotNumbers
  | operandsNotAddable
  | unknownUnary
  | unknownBinary
  | notCallable
  | arity (expected given : Nat)
  | native (message : String)
  deriving DecidableEq, Repr

inductive Fault where
  | lexical (line : Nat) (cause : LexicalCause)
  | grammar (site : Token) (cause : GrammarCause)
  | scoping (site : Token) (cause : ScopingCause)
  | runtime (site : Token) (cause : RuntimeCause)
  | device (message : String)
  | encoding (flaw : Utf8.Flaw)

def LexicalCause.message : LexicalCause → String
  | .unexpected character => "Unexpected character: " ++ character.toString
  | .unterminatedString => "Unterminated string."

def ProcedureKind.noun : ProcedureKind → String
  | .function => "function"
  | .lambda => "lambda"

def GrammarCause.message : GrammarCause → String
  | .expression => "Expect expression."
  | .endOfExpression => "Expect end of expression."
  | .parametersOpen kind => "Expect '(' after " ++ kind.noun ++ " name."
  | .tooManyParameters => "Can't have more than 255 parameters."
  | .parameterName => "Expect parameter name."
  | .parametersClose => "Expect ')' after parameters."
  | .bodyOpen kind => "Expect '\x7b' before " ++ kind.noun ++ " body."
  | .variableName => "Expect variable name."
  | .variableEnd => "Expect ';' after variable declaration."
  | .forOpen => "Expect '(' after 'for'."
  | .loopConditionEnd => "Expect ';' after loop condition."
  | .forClose => "Expect ')' after for clauses."
  | .ifOpen => "Expect '(' after 'if'."
  | .ifClose => "Expect ')' after if condition."
  | .valueEnd => "Expect ';' after value."
  | .returnEnd => "Expect ';' after return value."
  | .whileOpen => "Expect '(' after 'while'."
  | .whileClose => "Expect ')' after while condition."
  | .blockClose => "Expect '\x7d' after block."
  | .assignmentTarget => "Invalid assignment target."
  | .choiceColon => "Expect ':' between truth and false cases."
  | .tooManyArguments => "Can't have more than 255 arguments."
  | .argumentsClose => "Expect ')' after arguments."
  | .groupingClose => "Expect ')' after expression."

def ScopingCause.message : ScopingCause → String
  | .alreadyDeclared => "Already a variable with this name in this scope."
  | .ownInitializer => "Can't read local variable in its own initializer."
  | .topLevelReturn => "Can't return from top-level code."

def RuntimeCause.message : RuntimeCause → String
  | .undefinedVariable name => "Undefined variable '" ++ name ++ "'."
  | .operandNotNumber => "Operand must be a number."
  | .operandsNotNumbers => "Operands must be numbers."
  | .operandsNotAddable => "Operands must be two numbers or two strings."
  | .unknownUnary => "Invalid unary operator."
  | .unknownBinary => "Invalid binary operator."
  | .notCallable => "Can only call functions and classes."
  | .arity expected given =>
      "Expected " ++ toString expected ++ (if expected = 1 then " argument" else " arguments") ++
        " but got " ++ toString given ++ "."
  | .native message => message

namespace Fault

def located (line : Nat) (place message : String) : String :=
  "[line " ++ toString line ++ "] Error" ++ place ++ ": " ++ message

/-- A message at a token, which the end of input names and every other token quotes. -/
def atToken (site : Token) (message : String) : String :=
  located site.line
    (if site.kind.isEndOfInput then " at end" else " at '" ++ site.lexeme ++ "'") message

def text : Fault → String
  | .lexical line cause => located line "" cause.message
  | .grammar site cause => atToken site cause.message
  | .scoping site cause => atToken site cause.message
  | .runtime site cause => atToken site cause.message
  | .device message => message
  | .encoding flaw => flaw.message

def isRuntime : Fault → Bool
  | .runtime _ _ | .device _ => true
  | .lexical _ _ | .grammar _ _ | .scoping _ _ | .encoding _ => false

end Fault
end Lox
