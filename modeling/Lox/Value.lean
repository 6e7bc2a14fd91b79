import Lox.Tree.Basic

/-! Values of a running program. A callable is either native or a procedure with
what it captured where it was made; every callable made is an object of its own.
What values do never depends on what is captured. -/

namespace Lox

abbrev ScopeId := Nat

/-- Functions that the host offers. A plain program has only the clock; a host that
inspects programs can also offer the others. -/
inductive Native where
  | clock
  | echo
  | fail
  | setGlobal
  deriving DecidableEq, Repr

inductive CalleeOver (Capture : Type) where
  | native (function : Native)
  | closure (procedure : Procedure) (capture : Capture)

inductive ValueOver (Capture : Type) where
  | nil
  | bool (value : Bool)
  | number (value : Float)
  | string (text : String)
  | callable (identity : Nat) (callee : CalleeOver Capture)

/-- A closure captures the scope that it was made in. -/
abbrev Callee := CalleeOver ScopeId

abbrev Value := ValueOver ScopeId

namespace Native

def name : Native → String
  | .clock => "clock"
  | .echo => "echo"
  | .fail => "fail"
  | .setGlobal => "setg"

def arity : Native → Nat
  | .clock => 0
  | .echo => 1
  | .fail => 2
  | .setGlobal => 2

end Native

namespace CalleeOver

variable {Capture : Type}

def arity : CalleeOver Capture → Nat
  | .native function => function.arity
  | .closure procedure _ => procedure.parameters.length

def text : CalleeOver Capture → String
  | .native function => "<native fn " ++ function.name ++ ">"
  | .closure procedure _ =>
      match procedure.name with
      | some name => "<fn " ++ name.lexeme ++ ">"
      | none => "<anonymous fn>"

end CalleeOver

def Literal.value {Capture : Type} : Literal → ValueOver Capture
  | .number value => .number value
  | .string text => .string text
  | .true => .bool Bool.true
  | .false => .bool Bool.false
  | .nil => .nil

namespace ValueOver

variable {Capture : Type}

def typeName : ValueOver Capture → String
  | .nil => "nil"
  | .bool _ => "bool"
  | .number _ => "number"
  | .string _ => "string"
  | .callable _ _ => "callable"

def text : ValueOver Capture → String
  | .nil => "nil"
  | .bool value => if value then "true" else "false"
  | .number value => NumberForm.printed.text value
  | .string text => text
  | .callable _ callee => callee.text

/-- Only `nil` and `false` are not true. -/
def isTruthy : ValueOver Capture → Bool
  | .nil => false
  | .bool value => value
  | .number _ | .string _ | .callable _ _ => true

/-- Values of different types are unequal, callables are compared by identity, and
a number that is undefined differs from itself. -/
def equals : ValueOver Capture → ValueOver Capture → Bool
  | .nil, .nil => true
  | .bool left, .bool right => left == right
  | .number left, .number right => left == right
  | .string left, .string right => left == right
  | .callable left _, .callable right _ => left == right
  | _, _ => false

end ValueOver
end Lox
