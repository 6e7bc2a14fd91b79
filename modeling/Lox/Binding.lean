import Lox.Distances
import Lox.Fault

/-! Static binding. One walk over a tree keeps the names of every open local scope,
reports misplaced declarations, reads and returns, and records how far out each
local name is bound. The outermost scope is not kept: names found in no local
scope are global and are looked up when the program runs. -/

namespace Lox.Binding

/-- The names declared in one scope, with whether the declaration is complete. -/
abbrev Frame := List (String × Bool)

/-- The scopes are listed from the innermost outwards. -/
structure Analysis where
  frames : List Frame
  insideProcedure : Bool
  distances : Distances
  faults : List Fault

def depth? : List Frame → String → Option Nat
  | [], _ => none
  | frame :: outer, name =>
      if (frame.lookup name).isSome then some 0 else (depth? outer name).map (· + 1)

/-- Whether the innermost scope holds a name whose declaration is not complete. -/
def isUnfinished (frames : List Frame) (name : String) : Bool :=
  match frames with
  | [] => false
  | frame :: _ => frame.lookup name == some false

namespace Analysis

def report (site : Token) (cause : ScopingCause) (analysis : Analysis) : Analysis :=
  { analysis with faults := analysis.faults ++ [.scoping site cause] }

/-- Begins a declaration. A name that the scope already has is reported. -/
def declare (name : Token) (analysis : Analysis) : Analysis :=
  match analysis.frames with
  | [] => analysis
  | frame :: outer =>
      if (frame.lookup name.lexeme).isSome then analysis.report name .alreadyDeclared
      else { analysis with frames := ((name.lexeme, false) :: frame) :: outer }

def define (name : Token) (analysis : Analysis) : Analysis :=
  match analysis.frames with
  | [] => analysis
  | frame :: outer => { analysis with frames := ((name.lexeme, true) :: frame) :: outer }

def defineAll (names : List Token) (analysis : Analysis) : Analysis :=
  names.foldl (fun analysis name => (analysis.declare name).define name) analysis

def record (id : NodeId) (name : Token) (analysis : Analysis) : Analysis :=
  match depth? analysis.frames name.lexeme with
  | some distance => { analysis with distances := analysis.distances.record id distance }
  | none => analysis

def openScope (analysis : Analysis) : Analysis :=
  { analysis with frames := [] :: analysis.frames }

def closeScope (analysis : Analysis) : Analysis :=
  { analysis with frames := analysis.frames.tail }

end Analysis

mutual

def bindExpression : Expression → Analysis → Analysis
  | .literal _, analysis => analysis
  | .grouping inner, analysis => bindExpression inner analysis
  | .unary _ right, analysis => bindExpression right analysis
  | .binary left _ right, analysis => bindExpression right (bindExpression left analysis)
  | .logical left _ right, analysis => bindExpression right (bindExpression left analysis)
  | .ternary condition thenBranch elseBranch, analysis =>
      bindExpression elseBranch (bindExpression thenBranch (bindExpression condition analysis))
  | .variable id name, analysis =>
      let checked :=
        if isUnfinished analysis.frames name.lexeme then analysis.report name .ownInitializer
        else analysis
      checked.record id name
  | .assign id name value, analysis => (bindExpression value analysis).record id name
  | .call callee _ arguments, analysis => bindExpressions arguments (bindExpression callee analysis)
  | .lambda procedure, analysis => bindProcedure procedure analysis
termination_by structural expression => expression

def bindExpressions : List Expression → Analysis → Analysis
  | [], analysis => analysis
  | expression :: rest, analysis => bindExpressions rest (bindExpression expression analysis)
termination_by structural expressions => expressions

def bindExpression? : Option Expression → Analysis → Analysis
  | none, analysis => analysis
  | some expression, analysis => bindExpression expression analysis
termination_by structural expression => expression

def bindStatement : Statement → Analysis → Analysis
  | .expression value, analysis => bindExpression value analysis
  | .print value, analysis => bindExpression value analysis
  | .var name initializer, analysis =>
      (bindExpression? initializer (analysis.declare name)).define name
  | .block body, analysis => (bindStatements body analysis.openScope).closeScope
  | .ifElse condition thenBranch elseBranch, analysis =>
      bindStatement? elseBranch (bindStatement thenBranch (bindExpression condition analysis))
  | .whileLoop condition body, analysis => bindStatement body (bindExpression condition analysis)
  | .function procedure, analysis =>
      bindProcedure procedure
        (match procedure.name with
          | some name => (analysis.declare name).define name
          | none => analysis)
  | .returnValue keyword value, analysis =>
      bindExpression? value
        (if analysis.insideProcedure then analysis else analysis.report keyword .topLevelReturn)
termination_by structural statement => statement

def bindStatements : List Statement → Analysis → Analysis
  | [], analysis => analysis
  | statement :: rest, analysis => bindStatements rest (bindStatement statement analysis)
termination_by structural statements => statements

def bindStatement? : Option Statement → Analysis → Analysis
  | none, analysis => analysis
  | some statement, analysis => bindStatement statement analysis
termination_by structural statement => statement

/-- Parameters and body share one scope. -/
def bindProcedure : Procedure → Analysis → Analysis
  | ⟨_, parameters, body⟩, analysis =>
      let opened := { analysis.openScope with insideProcedure := true }
      let closed := (bindStatements body (opened.defineAll parameters)).closeScope
      { closed with insideProcedure := analysis.insideProcedure }
termination_by structural procedure => procedure

end

def Analysis.initial (distances : Distances) : Analysis :=
  { frames := [], insideProcedure := false, distances := distances, faults := [] }

end Lox.Binding
