import DocFilter.Number.Double

/-!
The fewest decimal digits that read back as a given double. The reals that round to `m · 2 ^ e`
form an interval, whose ends belong to it when `m` is even. On the grid of decimals with `n`
significant digits only the two neighbours of the number can be the nearest point inside, so the
first `n` for which one of them is inside gives the digits, and of two the nearer one is taken.
-/

namespace DocFilter.Shortest

/-- Which neighbour is taken when the number lies halfway between two of them. -/
inductive Tie where
  | upward
  | toEven
  deriving DecidableEq

/-- `digits` is read as `0.digits · 10 ^ point`, its first and last digits not being zero. -/
structure Decimal where
  digits : List Char
  point : Int
  deriving DecidableEq

/-- The reals from `low / den` to `high / den` that read back as `value / den`. -/
structure Interval where
  low : Nat
  value : Nat
  high : Nat
  den : Nat
  closed : Bool

/-- The lower half gap is half as wide below a power of two, where the exponent changes. -/
def interval (m : Nat) (e : Int) : Interval where
  low := (4 * m - if m = 0x10000000000000 ∧ -1074 < e then 1 else 2) * Nat.pow 2 (e - 2).toNat
  value := 4 * m * Nat.pow 2 (e - 2).toNat
  high := (4 * m + 2) * Nat.pow 2 (e - 2).toNat
  den := Nat.pow 2 (2 - e).toNat
  closed := m % 2 == 0

def Interval.holds (i : Interval) (num den : Nat) : Bool :=
  let low := i.low * den
  let here := num * i.den
  let high := i.high * den
  if i.closed then decide (low ≤ here ∧ here ≤ high) else decide (low < here ∧ here < high)

def digitsOf (n : Nat) : List Char := Nat.toDigits 10 n

/-- The `k` with `10 ^ (k - 1) ≤ num / den < 10 ^ k`, for positive `num` and `den`. -/
def decimalExponent (num den : Nat) : Int :=
  let guess : Int := (digitsOf num).length - (digitsOf den).length
  if den * Nat.pow 10 guess.toNat ≤ num * Nat.pow 10 (-guess).toNat then guess + 1 else guess

/-- The better of the neighbours `d` and `d + 1` of `num / den` on the whole numbers. -/
def nearer (tie : Tie) (d num den : Nat) : Nat :=
  let twice := 2 * (num - d * den)
  if twice < den then d
  else if den < twice then d + 1
  else match tie with
    | .upward => d + 1
    | .toEven => if d % 2 = 0 then d else d + 1

/-- The point of the grid with unit `10 ^ unit` that reads back, as a multiple of the unit. -/
def Interval.onGrid (i : Interval) (tie : Tie) (unit : Int) : Option Nat :=
  let up := Nat.pow 10 unit.toNat
  let down := Nat.pow 10 (-unit).toNat
  let d := i.value * down / (i.den * up)
  match i.holds (d * up) down, i.holds ((d + 1) * up) down with
  | true, true => some (nearer tie d (i.value * down) (i.den * up))
  | true, false => some d
  | false, true => some (d + 1)
  | false, false => none

def Decimal.ofScaled (d : Nat) (unit : Int) : Decimal :=
  let digits := digitsOf d
  ⟨(digits.reverse.dropWhile (· == '0')).reverse, unit + digits.length⟩

/-- Seventeen digits always suffice, so the search is over the digit counts up to that. -/
def decimal (tie : Tie) (m : Nat) (e : Int) : Decimal :=
  let i := interval m e
  let k := decimalExponent i.value i.den
  let found := (List.range 17).findSome? fun (n : Nat) =>
    let unit : Int := k - (n + 1 : Nat)
    (i.onGrid tie unit).map (Decimal.ofScaled · unit)
  found.getD ⟨[], k⟩

end DocFilter.Shortest
