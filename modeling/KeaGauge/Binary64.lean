/-!
# Binary floating-point numbers

The finite numbers of the 64-bit binary format, as a sign, a significand and
an exponent. Products and quotients are computed exactly on natural numbers
and rounded once, to the nearest number and on a tie to the even
significand, so that no operation depends on the machine.
-/

namespace KeaGauge

/-- A finite number `± significand · 2 ^ exponent`. The operations of this
module give a significand below `2 ^ 53` and an exponent of at least
`-1074`, with a significand of at least `2 ^ 52` whenever the exponent is
above that bound. -/
structure Binary64 where
  negative : Bool
  significand : Nat
  exponent : Int
deriving DecidableEq, Repr, Inhabited

namespace Binary64

/-- The least exponent of the format. -/
def leastExponent : Int := -1074

/-- The greatest exponent of the format. -/
def greatestExponent : Int := 971

/-- The value of the first of 53 bits, which a significand has unless the
exponent is the least. -/
def hidden : Nat := 0x10000000000000

/-- Zero, of either sign. -/
def zero (negative : Bool) : Binary64 := ⟨negative, 0, leastExponent⟩

/-- Whether the number is zero, of either sign. -/
def isZero (x : Binary64) : Bool := x.significand == 0

/-- The number with the other sign. -/
def neg (x : Binary64) : Binary64 := { x with negative := !x.negative }

/-- The fraction `n / d · 2 ^ (-e)` as a numerator and a denominator. -/
def scaled (n d : Nat) (e : Int) : Nat × Nat :=
  if e < 0 then (n * Nat.pow 2 e.natAbs, d) else (n, d * Nat.pow 2 e.natAbs)

/-- The quotient rounded to the nearest integer, a tie to the even one. -/
def roundQuotient (n d : Nat) : Nat :=
  let q := n / d
  let r := n % d
  if d < 2 * r ∨ (2 * r = d ∧ q % 2 = 1) then q + 1 else q

/-- The exponent at which the integer part of `n / d · 2 ^ (-e)` has at most
53 bits, and no fewer unless the least exponent is reached. -/
def exponentFor (n d : Nat) : Int :=
  let guess := max leastExponent ((n.log2 : Int) - (d.log2 : Int) - 53)
  let (n', d') := scaled n d guess
  if n' / d' < 2 * hidden then guess else guess + 1

/-- The number nearest to `n / d` with the given sign, or `none` when that
is beyond the format. -/
def ofQuotient (negative : Bool) (n d : Nat) : Option Binary64 :=
  if n = 0 then some (zero negative)
  else
    let e := exponentFor n d
    let (n', d') := scaled n d e
    let m := roundQuotient n' d'
    let (m, e) := if m = 2 * hidden then (hidden, e + 1) else (m, e)
    if greatestExponent < e then none else some ⟨negative, m, e⟩

/-- The number nearest to a natural number. -/
def ofNat? (n : Nat) : Option Binary64 := ofQuotient false n 1

/-- The magnitude of the number as a fraction of natural numbers. -/
def magnitude (x : Binary64) : Nat × Nat :=
  if x.exponent < 0 then (x.significand, Nat.pow 2 x.exponent.natAbs)
  else (x.significand * Nat.pow 2 x.exponent.natAbs, 1)

/-- The rounded product. -/
def mul? (x y : Binary64) : Option Binary64 :=
  let (a, b) := x.magnitude
  let (c, d) := y.magnitude
  ofQuotient (x.negative != y.negative) (a * c) (b * d)

/-- The rounded quotient; the divisor is not zero. -/
def div? (x y : Binary64) : Option Binary64 :=
  let (a, b) := x.magnitude
  let (c, d) := y.magnitude
  ofQuotient (x.negative != y.negative) (a * d) (b * c)

/-- The number nearest to a power of ten, for exponents up to 308. -/
def powTen? (k : Nat) : Option Binary64 := ofNat? (Nat.pow 10 k)

/-- Division by `10 ^ k` in steps of at most `10 ^ 308`, each of them
rounded. -/
def scaleDown? (x : Binary64) (k : Nat) : Option Binary64 :=
  if k ≤ 308 then do x.div? (← powTen? k)
  else if x.isZero then some x
  else do
    let y ← x.div? (← powTen? 308)
    scaleDown? y (k - 308)
termination_by k

/-- **Decimal scaling.** Multiplication by `10 ^ e`, where the power of ten is
rounded before the product or quotient is. `none` beyond the format. -/
def scaleTen? (x : Binary64) (e : Int) : Option Binary64 :=
  if e < 0 then x.scaleDown? e.natAbs
  else if e.natAbs ≤ 308 then do x.mul? (← powTen? e.natAbs)
  else if x.isZero then some x
  else none

/-! ## Shortest digits -/

/-- The exponent `k` with `10 ^ k ≤ n / d < 10 ^ (k + 1)`, for `n ≠ 0`. -/
def decimalExponent (n d : Nat) : Int :=
  if d ≤ n then (Nat.toDigits 10 (n / d)).length - 1
  else - ((Nat.toDigits 10 ((d - 1) / n)).length : Int)

/-- The values that round to a nonzero number: twice its significand and
twice the two half-way points around it, over `2 ^ (exponent - 2)`. -/
structure Neighbourhood where
  low : Nat
  value : Nat
  high : Nat
  closed : Bool
  exponent : Int

/-- The neighbourhood of a number. Below a power of two the numbers are twice
as dense, so the lower half-way point is nearer. The end points round to the
number when its significand is even. -/
def neighbourhood (x : Binary64) : Neighbourhood :=
  let gap := if x.significand = hidden ∧ leastExponent < x.exponent then 1 else 2
  ⟨4 * x.significand - gap, 4 * x.significand, 4 * x.significand + 2,
    x.significand % 2 = 0, x.exponent - 2⟩

/-- Of the two neighbours of the number on the grid of multiples of
`10 ^ p`, the nearer one that reads back as the number; a tie goes to the
even multiple. -/
def onGrid? (x : Binary64) (p : Int) : Option Nat :=
  let hood := x.neighbourhood
  -- everything over the common unit 2 ^ a · 10 ^ b with a, b ≤ 0
  let two := Nat.pow 2 hood.exponent.toNat
  let ten := Nat.pow 10 p.toNat * Nat.pow 2 (-hood.exponent).toNat
  let unscaled := Nat.pow 10 (-p).toNat
  let low := hood.low * two * unscaled
  let value := hood.value * two * unscaled
  let high := hood.high * two * unscaled
  let reads (d : Nat) : Bool :=
    let v := d * ten
    if hood.closed then low ≤ v && v ≤ high else low < v && v < high
  let d := value / ten
  let r := value % ten
  let lower := reads d
  let upper := reads (d + 1)
  if lower && upper then
    some (if 2 * r < ten ∨ (2 * r = ten ∧ d % 2 = 0) then d else d + 1)
  else if lower then some d
  else if upper then some (d + 1)
  else none

/-- Seeks the coarsest grid, from `digits` digits upwards, that has a point
which reads back as the number. -/
def shortestFrom (x : Binary64) (lead : Int) : Nat → Nat → Nat × Int
  | 0, _ => (0, 0)
  | fuel + 1, digits =>
    let p := lead - digits
    match x.onGrid? p with
    | some d => (d, p)
    | none => shortestFrom x lead fuel (digits + 1)

/-- **The fewest digits that read back.** A multiple and the exponent of its
power of ten, the nearest among those with the fewest digits. Seventeen
digits always suffice. -/
def shortest (x : Binary64) : Nat × Int :=
  let (n, d) := x.magnitude
  if n = 0 then (0, 0) else x.shortestFrom (decimalExponent n d) 18 0

end Binary64

end KeaGauge
