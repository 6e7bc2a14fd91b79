import Lox.Machine.Action
import Lox.Machine.Operators

/-! Evaluation of trees. Operands are evaluated from left to right, a callee before
its arguments, and a `return` ends every block and loop up to the call it belongs
to. Each step into a part of the tree, a call or another round of a loop costs
fuel, and with more fuel a run that ends gives the same answer. -/

namespace Lox

inductive CompletionOver (Capture : Type) where
  | normal
  | returned (value : ValueOver Capture)

abbrev Completion := CompletionOver ScopeId

/-- A call whose callee ran to its end without a `return` gives `nil`. -/
def CompletionOver.value {Capture : Type} : CompletionOver Capture → ValueOver Capture
  | .normal => .nil
  | .returned value => value

mutual

def evaluate : Nat → Expression → Action Value
  | 0, _ => Action.outOfFuel
  | fuel + 1, expression =>
      match expression with
      | .literal literal => pure literal.value
      | .grouping inner => evaluate fuel inner
      | .unary operator right => do
          let value ← evaluate fuel right
          Action.ofExcept (Operators.applyUnary operator value)
      | .binary left operator right => do
          let leftValue ← evaluate fuel left
          let rightValue ← evaluate fuel right
          Action.ofExcept (Operators.applyBinary leftValue operator rightValue)
      | .logical left operator right => do
          let value ← evaluate fuel left
          if Operators.decides operator value then pure value else evaluate fuel right
      | .ternary condition thenBranch elseBranch => do
          let value ← evaluate fuel condition
          if value.isTruthy then evaluate fuel thenBranch else evaluate fuel elseBranch
      | .variable id name => Action.look id name
      | .assign id name right => do
          let value ← evaluate fuel right
          Action.assign id name value
      | .call callee paren arguments => do
          match ← evaluate fuel callee with
          | .callable _ target => do
              let values ← evaluateAll fuel arguments
              invoke fuel target values paren
          | _ => Action.fail (.runtime paren .notCallable)
      | .lambda procedure => Action.makeClosure procedure

def evaluateAll : Nat → List Expression → Action (List Value)
  | 0, _ => Action.outOfFuel
  | _ + 1, [] => pure []
  | fuel + 1, expression :: rest => do
      let value ← evaluate fuel expression
      let values ← evaluateAll fuel rest
      pure (value :: values)

/-- A call with evaluated arguments. The scope of a procedure lies inside the scope
it was made in, wherever the call is. -/
def invoke : Nat → Callee → List Value → Token → Action Value
  | 0, _, _, _ => Action.outOfFuel
  | fuel + 1, callee, values, paren =>
      if values.length ≠ callee.arity then
        Action.fail (.runtime paren (.arity callee.arity values.length))
      else
        match callee with
        | .native native => native.perform values paren
        | .closure procedure scope => do
            let inner ← Action.openScope scope
            Action.defineIn inner procedure.parameters values
            let completion ← Action.within inner (executeAll fuel procedure.body)
            pure completion.value

def execute : Nat → Statement → Action Completion
  | 0, _ => Action.outOfFuel
  | fuel + 1, statement =>
      match statement with
      | .expression value => do
          let _ ← evaluate fuel value
          pure .normal
      | .print expression => do
          let value ← evaluate fuel expression
          Action.writeLine value.text
          pure .normal
      | .var name initializer => do
          let value ← evaluateOptional fuel initializer
          Action.define name value
          pure .normal
      | .block body => do
          let current ← Action.currentScope
          let inner ← Action.openScope current
          Action.within inner (executeAll fuel body)
      | .ifElse condition thenBranch elseBranch => do
          let value ← evaluate fuel condition
          if value.isTruthy then execute fuel thenBranch
          else
            match elseBranch with
            | some branch => execute fuel branch
            | none => pure .normal
      | .whileLoop condition body => repeatWhile fuel condition body
      | .function procedure => do
          let value ← Action.makeClosure procedure
          match procedure.name with
          | some name => do
              Action.define name value
              pure .normal
          | none => pure .normal
      | .returnValue _ result => do
          let value ← evaluateOptional fuel result
          pure (.returned value)

def evaluateOptional : Nat → Option Expression → Action Value
  | 0, _ => Action.outOfFuel
  | _ + 1, none => pure .nil
  | fuel + 1, some expression => evaluate fuel expression

/-- Statements in order, up to the first that returns. -/
def executeAll : Nat → List Statement → Action Completion
  | 0, _ => Action.outOfFuel
  | _ + 1, [] => pure .normal
  | fuel + 1, statement :: rest => do
      match ← execute fuel statement with
      | .normal => executeAll fuel rest
      | .returned value => pure (.returned value)

def repeatWhile : Nat → Expression → Statement → Action Completion
  | 0, _, _ => Action.outOfFuel
  | fuel + 1, condition, body => do
      let value ← evaluate fuel condition
      if value.isTruthy then
        match ← execute fuel body with
        | .normal => repeatWhile fuel condition body
        | .returned value => pure (.returned value)
      else pure .normal

end

/-- Top-level statements in order. A `return` at this level ends nothing. -/
def executeProgram (fuel : Nat) : List Statement → Action Unit
  | [] => pure ()
  | statement :: rest => do
      let _ ← execute fuel statement
      executeProgram fuel rest

namespace Machine

/-- The end of a run: the console is flushed, and the one fault to report is that
of the run or else that of the flush. Nothing is left of a run without fuel. -/
def settle : Run Unit → Option (Machine × List Fault)
  | .finished _ machine =>
      let (refused, console) := machine.console.flush
      some ({ machine with console := console }, refused.toList)
  | .failed fault machine =>
      some ({ machine with console := machine.console.flush.2 }, [fault])
  | .outOfFuel => none

def runProgram (machine : Machine) (fuel : Nat) (statements : List Statement) :
    Option (Machine × List Fault) :=
  settle (executeProgram fuel statements machine)

def printValue (machine : Machine) (fuel : Nat) (expression : Expression) :
    Option (Machine × List Fault) :=
  settle ((do
    let value ← evaluate fuel expression
    Action.writeLine value.text : Action Unit) machine)

end Machine
end Lox
