/-!
# Decimal — from digits to a binary number

A decimal with a point or an exponent is read as its digits, a whole number of at
most 64 bits, and a power of ten. The digits are rounded to the nearest binary
number first and then multiplied or divided once by the power of ten, which is
rounded again; so a decimal of many digits may come out one step away from the
nearest binary number, and the writer's shortest digits read back exactly.
-/

namespace MediaLibrary.Decimal

/-- The greatest power of ten that a binary number holds. -/
def maxPower : Nat := 308

/-- The binary number nearest to a power of ten. -/
def powerOfTen (n : Nat) : Float :=
  Float.ofScientific 1 false n

/-- `x` divided by ten to the `n`, in steps of the greatest power. -/
def scaleDown (x : Float) (n : Nat) : Float :=
  if n ≤ maxPower then x / powerOfTen n
  else if x == 0.0 then x
  else scaleDown (x / powerOfTen maxPower) (n - maxPower)
termination_by n
decreasing_by
  simp only [maxPower] at *
  omega

/-- `digits` times ten to the `exponent`, or nothing when that is beyond the binary numbers. -/
def scaled? (digits : Nat) (exponent : Int) : Option Float :=
  let x := Float.ofNat digits
  if exponent < 0 then some (scaleDown x exponent.natAbs)
  else if exponent.toNat ≤ maxPower then
    let y := x * powerOfTen exponent.toNat
    if y.isInf then none else some y
  else if x == 0.0 then some x
  else none

end MediaLibrary.Decimal
