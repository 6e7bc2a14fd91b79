import Lox.Value
import Lox.Fault

/-! What operators do to values. A fault is located at the operator. -/

namespace Lox.Operators

variable {Capture : Type}

def negate (operator : Token) : ValueOver Capture → Except Fault (ValueOver Capture)
  | .number value => .ok (.number (-value))
  | _ => .error (.runtime operator .operandNotNumber)

def applyUnary (operator : Token) (right : ValueOver Capture) :
    Except Fault (ValueOver Capture) :=
  match operator.kind with
  | .mark .bang => .ok (.bool !right.isTruthy)
  | .mark .minus => negate operator right
  | _ => .error (.runtime operator .unknownUnary)

def add (operator : Token) :
    ValueOver Capture → ValueOver Capture → Except Fault (ValueOver Capture)
  | .number left, .number right => .ok (.number (left + right))
  | .string left, .string right => .ok (.string (left ++ right))
  | _, _ => .error (.runtime operator .operandsNotAddable)

def arithmetic (operator : Token) (left right : Float) : Except Fault (ValueOver Capture) :=
  match operator.kind with
  | .mark .minus => .ok (.number (left - right))
  | .mark .star => .ok (.number (left * right))
  | .mark .slash => .ok (.number (left / right))
  | .mark .caret => .ok (.number (Float.pow left right))
  | .mark .greater => .ok (.bool (right < left))
  | .mark .greaterEqual => .ok (.bool (right ≤ left))
  | .mark .less => .ok (.bool (left < right))
  | .mark .lessEqual => .ok (.bool (left ≤ right))
  | _ => .error (.runtime operator .unknownBinary)

def onNumbers (operator : Token) :
    ValueOver Capture → ValueOver Capture → Except Fault (ValueOver Capture)
  | .number left, .number right => arithmetic operator left right
  | _, _ => .error (.runtime operator .operandsNotNumbers)

def applyBinary (left : ValueOver Capture) (operator : Token) (right : ValueOver Capture) :
    Except Fault (ValueOver Capture) :=
  match operator.kind with
  | .mark .plus => add operator left right
  | .mark .equalEqual => .ok (.bool (left.equals right))
  | .mark .bangEqual => .ok (.bool !left.equals right)
  | _ => onNumbers operator left right

/-- Whether the left operand is already the result: a true one of `or`, and one
that is not true of any other operator. -/
def decides (operator : Token) (left : ValueOver Capture) : Bool :=
  if operator.kind.isKeyword .or then left.isTruthy else !left.isTruthy

end Lox.Operators
