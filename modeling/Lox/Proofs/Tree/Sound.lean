import Lox.Tree.Basic

/-! Trees that evaluation can make sense of: their operators are ones that it knows, what is named
is named by an identifier, and functions have names where lambdas have none. -/

namespace Lox

def unaryOperators : List Mark := [.bang, .minus]

def binaryOperators : List Mark :=
  [.plus, .minus, .star, .slash, .caret, .equalEqual, .bangEqual, .greater, .greaterEqual, .less,
   .lessEqual]

def logicalOperators : List Keyword := [.and, .or]

def Token.IsMarkOf (token : Token) (marks : List Mark) : Prop :=
  ∃ mark ∈ marks, token.kind = .mark mark

def Token.IsKeywordOf (token : Token) (words : List Keyword) : Prop :=
  ∃ word ∈ words, token.kind = .keyword word

def Token.IsName (token : Token) : Prop := token.kind = .identifier

mutual

/-- Every operator is known and every name is an identifier, at any depth. -/
def Expression.Sound : Expression → Prop
  | .literal _ => True
  | .grouping inner => inner.Sound
  | .unary operator right => operator.IsMarkOf unaryOperators ∧ right.Sound
  | .binary left operator right => operator.IsMarkOf binaryOperators ∧ left.Sound ∧ right.Sound
  | .logical left operator right => operator.IsKeywordOf logicalOperators ∧ left.Sound ∧ right.Sound
  | .ternary condition thenBranch elseBranch =>
      condition.Sound ∧ thenBranch.Sound ∧ elseBranch.Sound
  | .variable _ name => name.IsName
  | .assign _ name value => name.IsName ∧ value.Sound
  | .call callee _ arguments => callee.Sound ∧ SoundAll arguments
  | .lambda procedure => procedure.name = none ∧ procedure.Sound
termination_by structural expression => expression

def SoundAll : List Expression → Prop
  | [] => True
  | expression :: rest => expression.Sound ∧ SoundAll rest
termination_by structural expressions => expressions

def Sound? : Option Expression → Prop
  | none => True
  | some expression => expression.Sound
termination_by structural expression => expression

def Statement.Sound : Statement → Prop
  | .expression value => value.Sound
  | .print value => value.Sound
  | .var name initializer => name.IsName ∧ Sound? initializer
  | .block body => SoundBody body
  | .ifElse condition thenBranch elseBranch =>
      condition.Sound ∧ thenBranch.Sound ∧ SoundBranch elseBranch
  | .whileLoop condition body => condition.Sound ∧ body.Sound
  | .function procedure =>
      (∃ name, procedure.name = some name ∧ name.IsName) ∧ procedure.Sound
  | .returnValue _ value => Sound? value
termination_by structural statement => statement

def SoundBody : List Statement → Prop
  | [] => True
  | statement :: rest => statement.Sound ∧ SoundBody rest
termination_by structural statements => statements

def SoundBranch : Option Statement → Prop
  | none => True
  | some statement => statement.Sound
termination_by structural statement => statement

def Procedure.Sound : Procedure → Prop
  | ⟨_, parameters, body⟩ => (∀ parameter ∈ parameters, parameter.IsName) ∧ SoundBody body
termination_by structural procedure => procedure

end

theorem sound?_of_mem {tree : Option Expression} (sound : ∀ value ∈ tree, value.Sound) :
    Sound? tree := by
  cases tree with
  | none => trivial
  | some value => exact sound value rfl

theorem soundAll_append {first second : List Expression} :
    SoundAll (first ++ second) ↔ SoundAll first ∧ SoundAll second := by
  induction first with
  | nil => exact ⟨fun sound => ⟨trivial, sound⟩, And.right⟩
  | cons expression rest ih => rw [List.cons_append, SoundAll, SoundAll, ih, and_assoc]

theorem soundBody_append {first second : List Statement} :
    SoundBody (first ++ second) ↔ SoundBody first ∧ SoundBody second := by
  induction first with
  | nil => exact ⟨fun sound => ⟨trivial, sound⟩, And.right⟩
  | cons statement rest ih => rw [List.cons_append, SoundBody, SoundBody, ih, and_assoc]

end Lox
