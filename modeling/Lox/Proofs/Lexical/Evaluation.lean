import Lox.Machine.Evaluation
import Lox.Proofs.Lexical.Machine
import Lox.Proofs.Tree.Shape

/-! Evaluation of trees with lexical scope. A view goes down into every part of a tree.
It grows by a declaration for the rest of the body that the declaration stands in,
and a closure brings back the view that it was made with. -/

namespace Lox.Lexical

mutual

def evaluate : Nat → View → Expression → Action Value
  | 0, _, _ => Action.outOfFuel
  | fuel + 1, view, expression =>
      match expression with
      | .literal literal => pure literal.value
      | .grouping inner => evaluate fuel view inner
      | .unary operator right => do
          let value ← evaluate fuel view right
          Action.ofExcept (Operators.applyUnary operator value)
      | .binary left operator right => do
          let leftValue ← evaluate fuel view left
          let rightValue ← evaluate fuel view right
          Action.ofExcept (Operators.applyBinary leftValue operator rightValue)
      | .logical left operator right => do
          let value ← evaluate fuel view left
          if Operators.decides operator value then pure value else evaluate fuel view right
      | .ternary condition thenBranch elseBranch => do
          let value ← evaluate fuel view condition
          if value.isTruthy then evaluate fuel view thenBranch else evaluate fuel view elseBranch
      | .variable _ name => Action.look view name
      | .assign _ name right => do
          let value ← evaluate fuel view right
          Action.assign view name value
      | .call callee paren arguments => do
          match ← evaluate fuel view callee with
          | .callable _ target => do
              let values ← evaluateAll fuel view arguments
              invoke fuel target values paren
          | _ => Action.fail (.runtime paren .notCallable)
      | .lambda procedure => Action.makeClosure view procedure

def evaluateAll : Nat → View → List Expression → Action (List Value)
  | 0, _, _ => Action.outOfFuel
  | _ + 1, _, [] => pure []
  | fuel + 1, view, expression :: rest => do
      let value ← evaluate fuel view expression
      let values ← evaluateAll fuel view rest
      pure (value :: values)

/-- A call sees what its closure captured and its own parameters, wherever it is. -/
def invoke : Nat → Callee → List Value → Token → Action Value
  | 0, _, _, _ => Action.outOfFuel
  | fuel + 1, callee, values, paren =>
      if values.length ≠ callee.arity then
        Action.fail (.runtime paren (.arity callee.arity values.length))
      else
        match callee with
        | .native native => native.performOn Action.readClock Action.defineGlobal values paren
        | .closure procedure view => do
            let inner ← Action.bindAll view procedure.parameters values
            let completion ← executeAll fuel inner procedure.body
            pure completion.value

/-- A statement with the view that its own declaration, if it is one, has extended. -/
def execute : Nat → View → Statement → Action (CompletionOver View)
  | 0, _, _ => Action.outOfFuel
  | fuel + 1, view, statement =>
      match statement with
      | .expression value => do
          let _ ← evaluate fuel view value
          pure .normal
      | .print expression => do
          let value ← evaluate fuel view expression
          Action.writeLine value.text
          pure .normal
      | .var name initializer => do
          let value ← evaluateOptional fuel view initializer
          Action.define view name value
          pure .normal
      | .block body => executeAll fuel view body
      | .ifElse condition thenBranch elseBranch => do
          let value ← evaluate fuel view condition
          if value.isTruthy then execute fuel view thenBranch
          else
            match elseBranch with
            | some branch => execute fuel view branch
            | none => pure .normal
      | .whileLoop condition body => repeatWhile fuel view condition body
      | .function procedure => do
          let value ← Action.makeClosure view procedure
          match procedure.name with
          | some name => do
              Action.define view name value
              pure .normal
          | none => pure .normal
      | .returnValue _ result => do
          let value ← evaluateOptional fuel view result
          pure (.returned value)

def evaluateOptional : Nat → View → Option Expression → Action Value
  | 0, _, _ => Action.outOfFuel
  | _ + 1, _, none => pure .nil
  | fuel + 1, view, some expression => evaluate fuel view expression

/-- The statements of a body in order, each in scope of the declarations before it. -/
def executeAll : Nat → View → List Statement → Action (CompletionOver View)
  | 0, _, _ => Action.outOfFuel
  | _ + 1, _, [] => pure .normal
  | fuel + 1, view, statement :: rest => do
      let inner ← Action.declare view statement.declared?
      match ← execute fuel inner statement with
      | .normal => executeAll fuel inner rest
      | .returned value => pure (.returned value)

def repeatWhile : Nat → View → Expression → Statement → Action (CompletionOver View)
  | 0, _, _, _ => Action.outOfFuel
  | fuel + 1, view, condition, body => do
      let value ← evaluate fuel view condition
      if value.isTruthy then
        match ← execute fuel view body with
        | .normal => repeatWhile fuel view condition body
        | .returned value => pure (.returned value)
      else pure .normal

end

/-- Top-level statements in order. They see no local names and declare none. -/
def executeProgram (fuel : Nat) : List Statement → Action Unit
  | [] => pure ()
  | statement :: rest => do
      let _ ← execute fuel [] statement
      executeProgram fuel rest

namespace Machine

def settle : RunOn Machine Unit → Option (Machine × List Fault)
  | .finished _ machine =>
      let (refused, console) := machine.console.flush
      some ({ machine with console := console }, refused.toList)
  | .failed fault machine =>
      some ({ machine with console := machine.console.flush.2 }, [fault])
  | .outOfFuel => none

def runProgram (machine : Machine) (fuel : Nat) (statements : List Statement) :
    Option (Machine × List Fault) :=
  settle (executeProgram fuel statements machine)

def printValue (machine : Machine) (fuel : Nat) (expression : Expression) :
    Option (Machine × List Fault) :=
  settle ((do
    let value ← evaluate fuel [] expression
    Action.writeLine value.text : Action Unit) machine)

end Machine

end Lox.Lexical
