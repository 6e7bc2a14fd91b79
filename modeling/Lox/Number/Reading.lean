/-! Reading numbers. A numeral is digits with an optional fraction and an optional
exponent, rounded to the nearest double; the words for the exceptional values
are read in any case of letters. -/

namespace Lox.Reading

def digitValue (digit : Char) : Nat := digit.toNat - '0'.toNat

def naturalOf (digits : List Char) : Nat :=
  digits.foldl (fun value digit => 10 * value + digitValue digit) 0

def infinity : Float := 1.0 / 0.0

def undefined : Float := 0.0 / 0.0

/-- The double nearest to `digits * 10 ^ exponent`. Beyond four hundred places the
answer is zero or infinity whatever the digits are. -/
def nearest (digits : Nat) (exponent : Int) : Float :=
  let leading := exponent + (Nat.toDigits 10 digits).length
  if digits = 0 || leading < -400 then 0.0
  else if 400 < leading then infinity
  else if exponent < 0 then Float.ofScientific digits true exponent.natAbs
  else Float.ofScientific digits false exponent.natAbs

def exponentDigits? (text : List Char) : Option Nat :=
  if !text.isEmpty && text.all Char.isDigit then some (naturalOf text) else none

def exponent? : List Char → Option Int
  | [] => some 0
  | mark :: text =>
      if mark = 'e' || mark = 'E' then
        match text with
        | '-' :: digits => (exponentDigits? digits).map fun value => -(value : Int)
        | '+' :: digits => (exponentDigits? digits).map fun value => (value : Int)
        | digits => (exponentDigits? digits).map fun value => (value : Int)
      else none

def fraction : List Char → List Char × List Char
  | '.' :: text => (text.takeWhile Char.isDigit, text.dropWhile Char.isDigit)
  | text => ([], text)

def unsigned? (text : List Char) : Option Float :=
  let word := text.map Char.toLower
  if word = "inf".toList || word = "infinity".toList then some infinity
  else if word = "nan".toList then some undefined
  else
    let whole := text.takeWhile Char.isDigit
    let (places, rest) := fraction (text.dropWhile Char.isDigit)
    if whole.isEmpty && places.isEmpty then none
    else (exponent? rest).map fun exponent =>
      nearest (naturalOf (whole ++ places)) (exponent - places.length)

/-- The number that a text stands for. A sign applies to the number as a whole. -/
def number? : List Char → Option Float
  | '-' :: text => (unsigned? text).map fun value => -value
  | '+' :: text => unsigned? text
  | text => unsigned? text

end Lox.Reading
