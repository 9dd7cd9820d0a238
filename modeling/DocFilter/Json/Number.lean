import DocFilter.Number.Double

/-!
Number literals of JSON and the numbers they stand for. An integer that fits 64 bits keeps its
value. Every other literal is a double, made of the leading digits that fit 64 bits and a power of
ten: the digits are rounded to a double first, and one multiplication or division follows, so the
result may be off the nearest double by its last digit.
-/

namespace DocFilter.Json

/-- The parts of a literal. The exponent is a sign and digits. -/
structure NumberLiteral where
  negative : Bool
  whole : List Nat
  fraction : Option (List Nat)
  exponent : Option (Bool × List Nat)

inductive Number where
  | natural (n : Nat)
  | negative (n : Nat)
  | double (x : Double)
  | outOfRange
  deriving DecidableEq

def ofDigits (digits : List Nat) : Nat := digits.foldl (fun n d => 10 * n + d) 0

/-- Appends digits to a number as long as it stays below `2 ^ 64`, and counts the digits that were
left over. -/
def takeDigits (n : Nat) : List Nat → Nat × Nat
  | [] => (n, 0)
  | d :: rest =>
    if 10 * n + d < 0x10000000000000000 then takeDigits (10 * n + d) rest else (n, rest.length + 1)

def powerOfTen (k : Nat) : Double := Double.ofNat (Nat.pow 10 k)

/-- Divides by `10 ^ k`, in steps of the greatest power of ten that is a double. -/
def divideByPower (x : Double) (k : Nat) : Double :=
  if x.isZero then x
  else if h : k ≤ 308 then x.dividedBy (powerOfTen k)
  else divideByPower (x.dividedBy (powerOfTen 308)) (k - 308)
termination_by k

/-- `digits · 10 ^ exponent`, unless it is out of range. -/
def scaled? (digits : Nat) (exponent : Int) : Option Double :=
  let x := Double.ofNat digits
  if exponent < 0 then some (divideByPower x exponent.natAbs)
  else if x.isZero then some x
  else if 308 < exponent then none
  else
    let y := x.times (powerOfTen exponent.natAbs)
    if y.isInfinite then none else some y

namespace NumberLiteral

/-- Exponents are cut off at the ends of 32 bits, where they mean zero or out of range anyway. -/
def clamp (e : Int) : Int := max (-0x80000000) (min 0x7fffffff e)

def magnitude? (l : NumberLiteral) : Option Double :=
  let (whole, beyond) := takeDigits 0 l.whole
  let fraction := l.fraction.getD []
  let (digits, dropped) := takeDigits whole fraction
  let shift : Int := beyond - (fraction.length - dropped : Nat)
  match l.exponent with
  | none => scaled? digits shift
  | some (down, written) =>
    let e := ofDigits written
    if 0x80000000 ≤ e then
      if digits = 0 ∨ down then some (Double.ofNat 0) else none
    else scaled? digits (clamp (if down then shift - e else shift + e))

def asDouble (l : NumberLiteral) : Number :=
  match l.magnitude? with
  | none => .outOfRange
  | some x => .double (if l.negative then x.negate else x)

/-- Minus zero and the integers beyond 64 bits are doubles too. -/
def value (l : NumberLiteral) : Number :=
  if l.fraction.isSome || l.exponent.isSome then l.asDouble else
    let n := ofDigits l.whole
    if l.negative then
      if 0 < n ∧ n ≤ 0x8000000000000000 then .negative n else l.asDouble
    else if n < 0x10000000000000000 then .natural n else l.asDouble

end NumberLiteral

def Number.toDouble? : Number → Option Double
  | .natural n => some (Double.ofNat n)
  | .negative n => some (Double.ofInt (-n))
  | .double x => some x
  | .outOfRange => none

end DocFilter.Json
