import Lox.Number.Shortest

/-! How numbers are written. The value of `print`, the token list, the prefix form
of a tree and the serialized tree each have a form of their own; a form says
where positional notation ends and what a whole number is followed by. -/

namespace Lox

/-- A decimal form of numbers. -/
structure NumberForm where
  /-- Whether a number is written out in full, by whether it is whole and by the
  exponent of its leading digit. -/
  inFull : Bool → Int → Bool
  /-- What follows a whole number that is written in full. -/
  wholeSuffix : String
  /-- What follows a mantissa of one digit. -/
  mantissaSuffix : String
  /-- The least number of digits of an exponent. -/
  exponentDigits : Nat
  /-- Whether zero keeps its sign. -/
  signedZero : Bool
  tie : Tie

namespace NumberForm

/-- Values print without a fraction when whole, and in powers of ten from 1e16. -/
def printed : NumberForm :=
  { inFull := fun whole exponent => !whole || decide (exponent < 16)
    wholeSuffix := ""
    mantissaSuffix := ".0"
    exponentDigits := 2
    signedZero := true
    tie := .upward }

/-- The prefix form of a tree never uses powers of ten. -/
def prefixed : NumberForm :=
  { inFull := fun _ _ => true
    wholeSuffix := ".0"
    mantissaSuffix := ""
    exponentDigits := 1
    signedZero := true
    tie := .upward }

/-- The token list drops the sign of zero. -/
def listed : NumberForm := { prefixed with signedZero := false }

/-- The serialized tree uses powers of ten below 1e-5 and from 1e16. -/
def serialized : NumberForm :=
  { inFull := fun _ exponent => decide (-5 ≤ exponent) && decide (exponent < 16)
    wholeSuffix := ".0"
    mantissaSuffix := ""
    exponentDigits := 1
    signedZero := true
    tie := .toEven }

end NumberForm

def zeros (count : Nat) : List Char := List.replicate count '0'

namespace Decimal

def digitText (decimal : Decimal) : List Char := Nat.toDigits 10 decimal.digits

/-- The exponent of the leading digit. -/
def leadingExponent (decimal : Decimal) : Int :=
  decimal.exponent + decimal.digitText.length - 1

/-- All digits around a point, with the zeros that reach up to it. -/
def positional (decimal : Decimal) : List Char :=
  let text := decimal.digitText
  let places := (-decimal.exponent).toNat
  if places = 0 then text ++ zeros decimal.exponent.toNat
  else if places < text.length then
    text.take (text.length - places) ++ '.' :: text.drop (text.length - places)
  else '0' :: '.' :: zeros (places - text.length) ++ text

def exponentText (form : NumberForm) (exponent : Int) : List Char :=
  let text := Nat.toDigits 10 exponent.natAbs
  (if exponent < 0 then '-' else '+') :: zeros (form.exponentDigits - text.length) ++ text

/-- One digit before the point, and the exponent always with its sign. -/
def scientific (form : NumberForm) (decimal : Decimal) : List Char :=
  let mantissa :=
    match decimal.digitText with
    | [] => []
    | [digit] => digit :: form.mantissaSuffix.toList
    | digit :: more => digit :: '.' :: more
  mantissa ++ 'e' :: exponentText form decimal.leadingExponent

end Decimal

namespace NumberForm

/-- A whole number in full shows all digits of its exact value. -/
def magnitudeText (form : NumberForm) (magnitude : Magnitude) : List Char :=
  let decimal := magnitude.shortest form.tie
  if form.inFull magnitude.whole?.isSome decimal.leadingExponent then
    match magnitude.whole? with
    | some whole => Nat.toDigits 10 whole ++ form.wholeSuffix.toList
    | none => decimal.positional
  else decimal.scientific form

def signText (form : NumberForm) (negative : Bool) (magnitude : Magnitude) : List Char :=
  if negative && (form.signedZero || magnitude.mantissa != 0) then ['-'] else []

def finiteText (form : NumberForm) (negative : Bool) (magnitude : Magnitude) : String :=
  String.ofList (form.signText negative magnitude ++ form.magnitudeText magnitude)

/-- The text of a finite number; the exceptional values have no digits. -/
def finite? (form : NumberForm) : Quantity → Option String
  | .finite negative magnitude => some (form.finiteText negative magnitude)
  | .infinite _ => none
  | .undefined => none

def quantityText (form : NumberForm) : Quantity → String
  | .finite negative magnitude => form.finiteText negative magnitude
  | .infinite negative => if negative then "-inf" else "inf"
  | .undefined => "NaN"

def text (form : NumberForm) (number : Float) : String :=
  form.quantityText (Quantity.ofFloat number)

end NumberForm
end Lox
