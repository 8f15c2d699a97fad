/-!
# Decimal — the binary number nearest to a decimal

A decimal `digits * 10 ^ exponent` stands for the binary number nearest to it, and
of two that are equally near for the one whose last bit is zero. The size of a
binary number is given by its bits without the sign: finite ones are
`m * 2 ^ q` with `m` below `2 ^ 53`, where `q` is at least `-1074`, and their bits
count `m` on from the numbers with a smaller `q`.

* `roundDiv` — a quotient rounded to a whole number;
* `nearest` — the bits of the nearest binary number.
-/

namespace MediaLibrary.Decimal

/-- The whole number nearest to `n / d`, of two the even one. -/
def roundDiv (n d : Nat) : Nat :=
  let below := n / d
  let rest := n % d
  if 2 * rest < d || (2 * rest == d && below % 2 == 0) then below else below + 1

/-- The greatest `e` such that two to the `e` is at most `n / d`. -/
def binaryMagnitude (n d : Nat) : Int :=
  let e := (n.log2 : Int) - d.log2
  if d * Nat.pow 2 e.toNat ≤ n * Nat.pow 2 (-e).toNat then e else e - 1

/-- The bits of infinity. -/
def infinityBits : Nat := 0x7ff0000000000000

/-- The bits of the binary number nearest to `n / d`. A number that would need more bits than
there are is infinite. -/
def nearestQuotient (n d : Nat) : Nat :=
  let q := max (binaryMagnitude n d - 52) (-1074)
  let m := roundDiv (n * Nat.pow 2 (-q).toNat) (d * Nat.pow 2 q.toNat)
  min ((q + 1074).toNat * Nat.pow 2 52 + m) infinityBits

/-- The bits of the binary number nearest to a decimal. The decimals of more than 310 places
in front of the point and of more than 330 zeros behind it need no calculation. -/
def nearest (digits : Nat) (exponent : Int) : Nat :=
  let magnitude := ((Nat.toDigits 10 digits).length : Int) + exponent
  if digits == 0 || magnitude < -330 then 0
  else if 310 < magnitude then infinityBits
  else nearestQuotient (digits * Nat.pow 10 exponent.toNat) (Nat.pow 10 (-exponent).toNat)

end MediaLibrary.Decimal
