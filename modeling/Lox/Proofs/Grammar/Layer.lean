import Lox.Grammar.Program

/-! What the grammar is written in: its tokens, its layers of operators, and the tree that a `for`
stands for. Productions are put together from these alone. The reader has tests, an order of layers
and nodes of its own, and each is shown here to be the written one. -/

namespace Lox.Grammar

/-- A token of the grammar, or a choice between marks. -/
inductive Terminal where
  | mark (sign : Mark)
  | oneOf (sign : Mark) (others : List Mark)
  | keyword (word : Keyword)
  | identifier
  | number
  | string
  | endOfInput

namespace Terminal

def admits : Terminal → Kind → Bool
  | .mark sign => fun kind => match kind with
      | .mark actual => actual == sign
      | _ => false
  | .oneOf sign others => fun kind => match kind with
      | .mark actual => (sign :: others).contains actual
      | _ => false
  | .keyword word => fun kind => match kind with
      | .keyword actual => actual == word
      | _ => false
  | .identifier => fun kind => match kind with
      | .identifier => true
      | _ => false
  | .number => fun kind => match kind with
      | .number _ => true
      | _ => false
  | .string => fun kind => match kind with
      | .string _ => true
      | _ => false
  | .endOfInput => fun kind => match kind with
      | .endOfInput => true
      | _ => false

def operator : Precedence → Terminal
  | .disjunction => .keyword .or
  | .conjunction => .keyword .and
  | .ternary => .mark .question
  | .equality => .oneOf .bangEqual [.equalEqual]
  | .comparison => .oneOf .greater [.greaterEqual, .less, .lessEqual]
  | .sum => .oneOf .minus [.plus]
  | .product => .oneOf .slash [.star]
  | .power => .mark .caret
  | .unary => .oneOf .bang [.minus]

@[simp]
theorem admits_mark (sign : Mark) : (Terminal.mark sign).admits = Kind.isMark sign := rfl

@[simp]
theorem admits_keyword (word : Keyword) : (Terminal.keyword word).admits = Kind.isKeyword word :=
  rfl

@[simp]
theorem admits_operator (layer : Precedence) : (operator layer).admits = layer.admits := by
  funext kind
  cases kind with
  | mark sign => cases layer <;> cases sign <;> rfl
  | keyword word => cases layer <;> cases word <;> rfl
  | identifier | string | number | endOfInput => cases layer <;> rfl

end Terminal

/-- Layers whose operators are repeated any number of times: the layer, that of the operands, the
operators, and the node of an operation. -/
inductive Layer : Precedence → Precedence → Terminal →
    (Expression → Token → Expression → Expression) → Prop where
  -- logic_or → logic_and ( "or" logic_and )*
  | disjunction : Layer .disjunction .conjunction (.keyword .or) .logical
  -- logic_and → ternary ( "and" ternary )*
  | conjunction : Layer .conjunction .ternary (.keyword .and) .logical
  -- equality → comparison ( ( "!=" | "==" ) comparison )*
  | equality : Layer .equality .comparison (.oneOf .bangEqual [.equalEqual]) .binary
  -- comparison → term ( ( ">" | ">=" | "<" | "<=" ) term )*
  | comparison :
      Layer .comparison .sum (.oneOf .greater [.greaterEqual, .less, .lessEqual]) .binary
  -- term → factor ( ( "-" | "+" ) factor )*
  | sum : Layer .sum .product (.oneOf .minus [.plus]) .binary
  -- factor → exponent ( ( "/" | "*" ) exponent )*
  | product : Layer .product .power (.oneOf .slash [.star]) .binary
  -- exponent → unary ( "^" unary )*
  | power : Layer .power .unary (.mark .caret) .binary

/-- Layers whose operators are repeated any number of times, as a test. -/
def Precedence.folds : Precedence → Bool
  | .ternary | .unary => false
  | _ => true

variable {layer tighter : Precedence} {operators : Terminal}
  {node : Expression → Token → Expression → Expression}

/-- The reader's order of layers, its operators and its nodes are those of the grammar. -/
theorem Layer.of_folds (folds : layer.folds = true) :
    Layer layer layer.tighter (.operator layer) layer.join := by
  cases layer with
  | disjunction => exact .disjunction
  | conjunction => exact .conjunction
  | ternary | unary => cases folds
  | equality => exact .equality
  | comparison => exact .comparison
  | sum => exact .sum
  | product => exact .product
  | power => exact .power

theorem Layer.unique (written : Layer layer tighter operators node) :
    layer.folds = true ∧ tighter = layer.tighter ∧ operators = .operator layer ∧
      node = layer.join := by
  cases written with
  | disjunction | conjunction | equality | comparison | sum | product | power =>
      exact ⟨rfl, rfl, rfl, rfl⟩

/-- A `for` is a `while` whose body runs the increment last, in a block behind the initializer. -/
def desugared : Option Statement → Option Expression → Option Expression → Statement → Statement
  | none, condition, none, body =>
      .whileLoop (condition.getD (.literal .true)) body
  | none, condition, some increment, body =>
      .whileLoop (condition.getD (.literal .true)) (.block [body, .expression increment])
  | some first, condition, none, body =>
      .block [first, .whileLoop (condition.getD (.literal .true)) body]
  | some first, condition, some increment, body =>
      .block [first,
        .whileLoop (condition.getD (.literal .true)) (.block [body, .expression increment])]

theorem desugared_eq_forLoop (first : Option Statement) (condition increment : Option Expression)
    (body : Statement) :
    desugared first condition increment body =
      forLoop first (condition.getD (.literal .true)) increment body := by
  cases first <;> cases increment <;> rfl

end Lox.Grammar
