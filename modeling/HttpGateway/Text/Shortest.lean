/-!
# The shortest decimal of a double

A double-precision number stands for every real that rounds to it. Among the decimals in that
interval one with the fewest digits is chosen, of two such the nearer one, and of two equally near
ones the even one. The search goes through the powers of ten from above: the first grid that has a
point in the interval has it next to the number itself.
-/

namespace HttpGateway.Shortest

/-- A finite positive double as an interval of reals: all ends are multiples of one unit, a quarter
of the number's last binary place, and that unit is `unitNum / unitDen`. -/
structure Interval where
  low : Nat
  value : Nat
  high : Nat
  /-- The ends round to the number too. -/
  closed : Bool
  unitNum : Nat
  unitDen : Nat

/-- The interval of a double that is given by its fraction bits and its exponent bits. -/
def Interval.ofBits (fraction exponent : Nat) : Interval :=
  let mantissa := if exponent = 0 then fraction else (1 <<< 52) + fraction
  let place := max exponent 1
  let below := if fraction = 0 && 1 < exponent then 1 else 2
  { low := 4 * mantissa - below
    value := 4 * mantissa
    high := 4 * mantissa + 2
    closed := mantissa % 2 = 0
    unitNum := 1 <<< (place - 1077)
    unitDen := 1 <<< (1077 - place) }

/-- A decimal: digits times a power of ten. -/
structure Scaled where
  digits : Nat
  exponent : Int
  deriving DecidableEq, Repr

namespace Interval

/-- The number of units in one point of the grid of a power of ten, as a fraction. -/
def gridStep (i : Interval) (power : Int) : Nat × Nat :=
  (i.unitDen * Nat.pow 10 power.toNat, i.unitNum * Nat.pow 10 (-power).toNat)

/-- The point with so many steps lies in the interval. -/
def covers (i : Interval) (step : Nat × Nat) (n : Nat) : Bool :=
  let at_ := n * step.1
  if i.closed then i.low * step.2 ≤ at_ && at_ ≤ i.high * step.2
  else i.low * step.2 < at_ && at_ < i.high * step.2

/-- The neighbour of the number on a grid that lies in the interval, the nearer one if both do. -/
def onGrid? (i : Interval) (power : Int) : Option Scaled :=
  let step := i.gridStep power
  let value := i.value * step.2
  let below := value / step.1
  let gapBelow := value - below * step.1
  let gapAbove := (below + 1) * step.1 - value
  let takesBelow := gapBelow < gapAbove || (gapBelow = gapAbove && below % 2 = 0)
  match i.covers step below, i.covers step (below + 1) with
  | false, false => none
  | true, false => some ⟨below, power⟩
  | false, true => some ⟨below + 1, power⟩
  | true, true => some ⟨if takesBelow then below else below + 1, power⟩

/-- The first hit on the grids from a power of ten downwards. -/
def search (i : Interval) : Nat → Int → Scaled
  | 0, power => ⟨0, power⟩
  | fuel + 1, power =>
    match i.onGrid? power with
    | some found => found
    | none => search i fuel (power - 1)

end Interval

/-- The shortest decimal of a finite positive double. The largest is below `10 ^ 309` and the least
has its last place above `10 ^ (-344)`. -/
def ofBits (fraction exponent : Nat) : Scaled :=
  (Interval.ofBits fraction exponent).search 660 309

end HttpGateway.Shortest
