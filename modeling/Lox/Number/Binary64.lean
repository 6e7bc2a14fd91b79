/-! The numbers of the language as exact quantities. A finite number is a sign
and a natural mantissa scaled by a power of two, so whether it is whole and how
large it is are questions of natural arithmetic. -/

namespace Lox

/-- The quantity `mantissa * 2 ^ exponent`. -/
structure Magnitude where
  mantissa : Nat
  exponent : Int
  deriving DecidableEq, Repr

namespace Magnitude

/-- The factor by which a quantity with this exponent exceeds its mantissa. -/
def scale (magnitude : Magnitude) : Nat := 1 <<< magnitude.exponent.toNat

def divisor (magnitude : Magnitude) : Nat := 1 <<< (-magnitude.exponent).toNat

/-- The natural number that the quantity is, if it has no fraction. -/
def whole? (magnitude : Magnitude) : Option Nat :=
  let scaled := magnitude.mantissa * magnitude.scale
  if scaled % magnitude.divisor = 0 then some (scaled / magnitude.divisor) else none

def truncated (magnitude : Magnitude) : Nat :=
  magnitude.mantissa * magnitude.scale / magnitude.divisor

def isBelow (magnitude : Magnitude) (limit : Nat) : Bool :=
  decide (magnitude.mantissa * magnitude.scale < limit * magnitude.divisor)

end Magnitude

/-- What a double is. Every exceptional value that is not infinite is undefined. -/
inductive Quantity where
  | finite (negative : Bool) (magnitude : Magnitude)
  | infinite (negative : Bool)
  | undefined
  deriving DecidableEq, Repr

/-- The three fields of the interchange format: one bit of sign, eleven of
exponent, and fifty-two of fraction. -/
def Quantity.ofFields (negative : Bool) (biased fraction : Nat) : Quantity :=
  if biased = 2047 then
    if fraction = 0 then .infinite negative else .undefined
  else if biased = 0 then .finite negative ⟨fraction, -1074⟩
  else .finite negative ⟨(1 <<< 52) + fraction, (biased : Int) - 1075⟩

def Quantity.ofFloat (number : Float) : Quantity :=
  let bits := number.toBits.toNat
  .ofFields (bits >>> 63 == 1) ((bits >>> 52) % 2048) (bits % (1 <<< 52))

namespace Quantity

def isWhole : Quantity → Bool
  | .finite _ magnitude => magnitude.whole?.isSome
  | .infinite _ | .undefined => false

def isBelow (limit : Nat) : Quantity → Bool
  | .finite _ magnitude => magnitude.isBelow limit
  | .infinite _ | .undefined => false

/-- The machine integer of a quantity: its fraction is cut off, and what does not fit
becomes the nearest one that there is. Both zeros become the same integer. -/
def toInt64 : Quantity → Int64
  | .finite negative magnitude =>
      let truncated : Int := magnitude.truncated
      Int64.ofIntClamp (if negative then -truncated else truncated)
  | .infinite negative => if negative then Int64.minValue else Int64.maxValue
  | .undefined => 0

end Quantity

end Lox
