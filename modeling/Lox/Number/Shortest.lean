import Lox.Number.Binary64

/-! The shortest decimal that reads back as a given double. A decimal reads back
when it lies between the midpoints to the two neighbouring doubles; the
midpoints count when the mantissa is even. The coarsest grid of powers of ten
with a point between the midpoints gives the fewest digits. -/

namespace Lox

/-- The quantity `digits * 10 ^ exponent`. -/
structure Decimal where
  digits : Nat
  exponent : Int
  deriving DecidableEq, Repr

/-- Which of two equally near decimals is taken. -/
inductive Tie where
  | upward
  | toEven
  deriving DecidableEq, Repr

namespace Shortest

/-- A double and one decimal grid over a common denominator. `unit` is a quarter
of the gap to the next double and `grid` is the distance of two grid points. -/
structure Comparison where
  low : Nat
  centre : Nat
  high : Nat
  grid : Nat
  closed : Bool

/-- The gap below a power of two is half the gap above it. -/
def lowerGap (magnitude : Magnitude) : Nat :=
  if magnitude.mantissa = 1 <<< 52 ∧ -1074 < magnitude.exponent then 1 else 2

def comparison (magnitude : Magnitude) (place : Int) : Comparison :=
  let quarter := magnitude.exponent - 2
  let unit := (1 <<< quarter.toNat) * Nat.pow 10 (-place).toNat
  { low := (4 * magnitude.mantissa - lowerGap magnitude) * unit
    centre := 4 * magnitude.mantissa * unit
    high := (4 * magnitude.mantissa + 2) * unit
    grid := Nat.pow 10 place.toNat * (1 <<< (-quarter).toNat)
    closed := magnitude.mantissa % 2 == 0 }

def Comparison.readsBack (sides : Comparison) (digits : Nat) : Bool :=
  let point := digits * sides.grid
  if sides.closed then sides.low ≤ point && point ≤ sides.high
  else sides.low < point && point < sides.high

/-- Of the two grid points around the centre, the nearer one that reads back. -/
def Comparison.nearest? (sides : Comparison) (tie : Tie) : Option Nat :=
  let below := sides.centre / sides.grid
  let above := below + 1
  match sides.readsBack below, sides.readsBack above with
  | true, true =>
      let toBelow := sides.centre - below * sides.grid
      let toAbove := above * sides.grid - sides.centre
      if toBelow < toAbove then some below
      else if toAbove < toBelow then some above
      else match tie with
        | .upward => some above
        | .toEven => some (if below % 2 = 0 then below else above)
  | true, false => some below
  | false, true => some above
  | false, false => none

/-- A place no lower than that of the leading digit. The logarithm of two is a
little below 0.30103. -/
def leadingPlace (magnitude : Magnitude) : Int :=
  (((Nat.log2 magnitude.mantissa : Int) + magnitude.exponent) * 30103).fdiv 100000 + 1

end Shortest

/-- Seventeen digits always read back, and the leading place is at most two above
the leading digit, so twenty places are enough. -/
def Magnitude.shortest (magnitude : Magnitude) (tie : Tie) : Decimal :=
  if magnitude.mantissa = 0 then ⟨0, 0⟩
  else
    let top := Shortest.leadingPlace magnitude
    let found := (List.range 20).findSome? fun (below : Nat) =>
      let place := top - (below : Int)
      ((Shortest.comparison magnitude place).nearest? tie).bind fun digits =>
        if digits = 0 then none else some ⟨digits, place⟩
    found.getD ⟨0, 0⟩

end Lox
