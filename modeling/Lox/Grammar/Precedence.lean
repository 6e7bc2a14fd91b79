import Lox.Tree.Basic

/-! The layers of operators, from the loosest to the tightest. All layers but the
ternary and the prefix operators fold to the left. -/

namespace Lox.Grammar

inductive Precedence where
  | disjunction
  | conjunction
  | ternary
  | equality
  | comparison
  | sum
  | product
  | power
  | unary
  deriving DecidableEq, Repr

namespace Precedence

def tighter : Precedence → Precedence
  | .disjunction => .conjunction
  | .conjunction => .ternary
  | .ternary => .equality
  | .equality => .comparison
  | .comparison => .sum
  | .sum => .product
  | .product => .power
  | .power => .unary
  | .unary => .unary

def admits : Precedence → Kind → Bool
  | .disjunction, .keyword .or => true
  | .conjunction, .keyword .and => true
  | .ternary, .mark .question => true
  | .equality, .mark sign => sign == .bangEqual || sign == .equalEqual
  | .comparison, .mark sign =>
      sign == .greater || sign == .greaterEqual || sign == .less || sign == .lessEqual
  | .sum, .mark sign => sign == .minus || sign == .plus
  | .product, .mark sign => sign == .slash || sign == .star
  | .power, .mark .caret => true
  | .unary, .mark sign => sign == .bang || sign == .minus
  | _, _ => false

/-- The operands of the two loosest layers are not all evaluated. -/
def join : Precedence → Expression → Token → Expression → Expression
  | .disjunction, left, operator, right => .logical left operator right
  | .conjunction, left, operator, right => .logical left operator right
  | _, left, operator, right => .binary left operator right

end Precedence
end Lox.Grammar
