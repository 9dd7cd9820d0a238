/-!
Double precision numbers as the 64 bits that encode them. A number is never rounded on its way
through the library; `Double.ofRatio` is the one place where a new one is made, and it rounds a
quotient to the nearest double with ties to the even one. Comparison is the arithmetic one: a NaN
differs from itself, and the two zeros are equal.
-/

namespace DocFilter

structure Double where
  bits : UInt64
  deriving DecidableEq

namespace Double

/-- What the bits say once the sign is taken off: `finite m e` is `m · 2 ^ e`. -/
inductive Magnitude where
  | nan
  | infinite
  | finite (m : Nat) (e : Int)
  deriving DecidableEq

def isNegative (x : Double) : Bool := decide (0x8000000000000000 ≤ x.bits.toNat)

def exponentField (x : Double) : Nat := x.bits.toNat / 0x10000000000000 % 0x800

def fractionField (x : Double) : Nat := x.bits.toNat % 0x10000000000000

def magnitude (x : Double) : Magnitude :=
  if x.exponentField = 2047 then
    if x.fractionField = 0 then .infinite else .nan
  else if x.exponentField = 0 then
    .finite x.fractionField (-1074)
  else
    .finite (0x10000000000000 + x.fractionField) (x.exponentField - 1075)

def isNaN (x : Double) : Bool := x.exponentField == 2047 && x.fractionField != 0

def isZero (x : Double) : Bool := x.bits.toNat % 0x8000000000000000 == 0

/-- Arithmetic equality: a NaN equals nothing, and both zeros are the same number. -/
def equal (x y : Double) : Bool :=
  !x.isNaN && !y.isNaN && (x.bits == y.bits || (x.isZero && y.isZero))

/-- `num / den` as the nearest whole number, an exact half going to the even one. -/
def roundedQuotient (num den : Nat) : Nat :=
  let q := num / den
  let twice := 2 * (num % den)
  if den < twice || (den == twice && q % 2 == 1) then q + 1 else q

/-- The greatest `e` with `2 ^ e ≤ num / den`, for positive `num` and `den`. -/
def binaryExponent (num den : Nat) : Int :=
  let guess : Int := (num.log2 : Int) - den.log2
  if num * Nat.pow 2 (-guess).toNat < den * Nat.pow 2 guess.toNat then guess - 1 else guess

def signBit (negative : Bool) : Nat := if negative then 0x8000000000000000 else 0

def infinity (negative : Bool) : Double := ⟨UInt64.ofNat (signBit negative + 2047 * 0x10000000000000)⟩

/-- The double nearest to `num / den`, an infinity when it is beyond the greatest one. A carry of
the rounded significand runs into the exponent field, where it means the next power of two. -/
def ofRatio (negative : Bool) (num den : Nat) : Double :=
  if num = 0 then ⟨UInt64.ofNat (signBit negative)⟩ else
    let unit := max (binaryExponent num den - 52) (-1074)
    let m := roundedQuotient (num * Nat.pow 2 (-unit).toNat) (den * Nat.pow 2 unit.toNat)
    let magnitude := (unit + 1074).toNat * 0x10000000000000 + m
    if 2047 * 0x10000000000000 ≤ magnitude then infinity negative
    else ⟨UInt64.ofNat (signBit negative + magnitude)⟩

def ofNat (n : Nat) : Double := ofRatio false n 1

def ofInt (n : Int) : Double := ofRatio (decide (n < 0)) n.natAbs 1

def negate (x : Double) : Double := ⟨x.bits ^^^ 0x8000000000000000⟩

/-- The rational value of a finite number without its sign, as a numerator and a denominator. -/
def ratio (x : Double) : Option (Nat × Nat) :=
  match x.magnitude with
  | .finite m e => some (m * Nat.pow 2 e.toNat, Nat.pow 2 (-e).toNat)
  | _ => none

/-- The rounded product of two finite numbers that are not negative. -/
def times (x y : Double) : Double :=
  match x.ratio, y.ratio with
  | some (a, b), some (c, d) => ofRatio false (a * c) (b * d)
  | _, _ => infinity false

/-- The rounded quotient of two finite numbers that are not negative, the divisor not zero. -/
def dividedBy (x y : Double) : Double :=
  match x.ratio, y.ratio with
  | some (a, b), some (c, d) => ofRatio false (a * d) (b * c)
  | _, _ => infinity false

def isInfinite (x : Double) : Bool := x.magnitude == .infinite

theorem equal_comm (x y : Double) : x.equal y = y.equal x := by
  simp only [equal, Bool.beq_comm (a := x.bits), Bool.and_comm x.isZero]
  cases x.isNaN <;> cases y.isNaN <;> simp [BEq.comm]

example : equal ⟨0⟩ ⟨0x8000000000000000⟩ = true := by decide
example : equal ⟨0x7ff8000000000000⟩ ⟨0x7ff8000000000000⟩ = false := by decide
example : (ofRatio false 1 10).bits = 0x3fb999999999999a := by decide
example : (ofRatio true 3 2).bits = 0xbff8000000000000 := by decide

end Double
end DocFilter
