import MediaLibrary.Decimal.Nearest

/-!
# Decimal — the shortest digits of a binary number

A binary number is written with the fewest decimal digits that read back as the
same number, and of those with the nearest to it. A finite binary number is
`m * 2 ^ q` with a whole `m`; the decimals that read back as it are those of the
interval between the half-way points to its neighbours, ends included when `m` is
even. The interval is compared with points of a decimal grid in whole numbers,
first the coarse grids and then the finer ones.
-/

namespace MediaLibrary.Decimal

/-- A positive number as a fraction of whole numbers, with the interval of decimals that
read back as it: all four bounds share one denominator. -/
structure Neighbourhood where
  low : Nat
  value : Nat
  high : Nat
  denominator : Nat
  closed : Bool

/-- The neighbourhood of the finite positive number with these bits. -/
def Neighbourhood.ofBits (bits : Nat) : Neighbourhood :=
  let fraction : Nat := bits % Nat.pow 2 52
  let exponent : Nat := bits / Nat.pow 2 52 % Nat.pow 2 11
  let m := if exponent == 0 then fraction else fraction + Nat.pow 2 52
  let q : Int := if exponent == 0 then -1074 else (exponent : Int) - 1075
  let below := if fraction == 0 && 1 < exponent then 1 else 2
  let up := Nat.pow 2 (q - 2).toNat
  let denominator := Nat.pow 2 (2 - q).toNat
  ⟨(4 * m - below) * up, 4 * m * up, (4 * m + 2) * up, denominator, m % 2 == 0⟩

/-- The decimal `n * 10 ^ k` lies in the interval. -/
def Neighbourhood.holds (r : Neighbourhood) (n : Nat) (k : Int) : Bool :=
  let point := n * Nat.pow 10 k.toNat * r.denominator
  let low := r.low * Nat.pow 10 (-k).toNat
  let high := r.high * Nat.pow 10 (-k).toNat
  if r.closed then low ≤ point && point ≤ high else low < point && point < high

/-- The exponent of the first decimal digit of the value. -/
def Neighbourhood.magnitude (r : Neighbourhood) : Int :=
  if r.denominator ≤ r.value then ((Nat.toDigits 10 (r.value / r.denominator)).length : Int) - 1
  else -((Nat.toDigits 10 ((r.denominator - 1) / r.value)).length : Int)

/-- The point of the grid `10 ^ k` that lies in the interval and is nearest to the value. -/
def Neighbourhood.onGrid? (r : Neighbourhood) (k : Int) : Option Nat :=
  let value := r.value * Nat.pow 10 (-k).toNat
  let unit := r.denominator * Nat.pow 10 k.toNat
  let below := value / unit
  let near := roundDiv value unit
  if r.holds near k then some near
  else if r.holds below k then some below
  else if r.holds (below + 1) k then some (below + 1)
  else none

/-- The shortest decimal of a positive finite number: its digits and the exponent of ten of
the last of them. The value just below a power of ten meets that power on the first grid, with
one digit more than needed. -/
def shortest (bits : Nat) : Nat × Int :=
  let r := Neighbourhood.ofBits bits
  let first := r.magnitude
  ((List.range 18).findSome? fun (count : Nat) =>
      let k := first - count
      (r.onGrid? k).map fun n => if n % 10 == 0 then (n / 10, k + 1) else (n, k)).getD (0, 0)

/-- The digits with as many zeros as it takes, and with a point if the last digit is behind it. -/
def plain (digits : List Char) (k : Int) : List Char :=
  let point := (digits.length : Int) + k
  if 0 ≤ k then digits ++ List.replicate k.toNat '0'
  else if 0 < point then digits.take point.toNat ++ '.' :: digits.drop point.toNat
  else ['0', '.'] ++ List.replicate (-point).toNat '0' ++ digits

/-- The digits with a point or an exponent: a point as long as no more than sixteen digits
stand in front of it and no more than four zeros behind it. -/
def positional (digits : List Char) (k : Int) : List Char :=
  let point := (digits.length : Int) + k
  if -5 < point && point ≤ 16 then plain digits k ++ (if 0 ≤ k then ['.', '0'] else [])
  else
    let places := digits.drop 1
    digits.take 1 ++ (if places.isEmpty then [] else '.' :: places)
      ++ 'e' :: (toString (point - 1)).toList

/-- The text of a finite binary number. -/
def realText (x : Float) : List Char :=
  let bits := x.toBits.toNat
  let size := bits % Nat.pow 2 63
  let sign := if bits == size then [] else ['-']
  if size == 0 then sign ++ ['0', '.', '0']
  else
    let (n, k) := shortest size
    sign ++ positional (Nat.toDigits 10 n) k

end MediaLibrary.Decimal
