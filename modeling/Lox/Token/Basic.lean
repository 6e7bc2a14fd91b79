import Lox.Token.Kind
import Lox.Number.Numeral

/-! Tokens: a kind, the source text it was read from, and the line on which that
text ends. -/

namespace Lox

structure Token where
  kind : Kind
  lexeme : String
  line : Nat
  deriving Repr

namespace Token

/-- From here on the token list does not take whole numbers for machine integers. -/
def integerLimit : Nat := 1000000000000000

/-- A number as the token list shows it. Small whole numbers are written as machine
integers, with a fraction of zero behind them; all others as in the prefix form. -/
def numberText (value : Float) : String :=
  let quantity := Quantity.ofFloat value
  if !quantity.isWhole then NumberForm.prefixed.quantityText quantity
  else if quantity.isBelow integerLimit then toString quantity.toInt64 ++ ".0"
  else NumberForm.prefixed.quantityText quantity

/-- The value of a literal as the token list shows it. -/
def literalText (token : Token) : String :=
  match token.kind with
  | .string text => text
  | .number value => numberText value
  | .mark _ | .keyword _ | .identifier | .endOfInput => "null"

def text (token : Token) : String :=
  token.kind.name ++ " " ++ token.lexeme ++ " " ++ token.literalText

/-- Tokens agree in kind, text and line; the values of literals are not compared. -/
def agrees (left right : Token) : Bool :=
  left.kind.agrees right.kind && left.lexeme == right.lexeme && left.line == right.line

end Token
end Lox
