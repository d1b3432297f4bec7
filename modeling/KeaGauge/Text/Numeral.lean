import KeaGauge.Text.Reader
/-!
# Numerals

Reading and writing of natural numbers in positional notation. Writing is
the core library's `Nat.toDigits`; this module adds the fixed-width form and
a reader that takes the longest run of digits and bounds its length.
-/

namespace KeaGauge.Text

/-- The value of a digit in bases up to sixteen, either case. -/
def digitValue? (base : Nat) (c : Char) : Option Nat :=
  let n := c.toNat
  let value? :=
    if '0' ≤ c ∧ c ≤ '9' then some (n - 48)
    else if 'a' ≤ c ∧ c ≤ 'f' then some (n - 87)
    else if 'A' ≤ c ∧ c ≤ 'F' then some (n - 55)
    else none
  value?.filter (· < base)

/-- Whether the character is a digit of the base. -/
def isDigitIn (base : Nat) (c : Char) : Bool :=
  (digitValue? base c).isSome

/-- The number that the digits name, most significant first. -/
def ofDigits (base : Nat) (cs : List Char) : Nat :=
  cs.foldl (fun n c => base * n + (digitValue? base c).getD 0) 0

/-- The decimal numeral of a number, padded with zeros to a width. -/
def padded (width n : Nat) : List Char :=
  (Nat.toDigits 10 n).leftpad width '0'

/-- Takes the longest run of digits off the front: its value and what
follows. The run must hold at least one digit and at most `most`. -/
def numeral? (base most : Nat) : Reader Nat := fun cs =>
  let run := cs.takeWhile (isDigitIn base)
  if run.isEmpty ∨ most < run.length then none
  else some (ofDigits base run, cs.dropWhile (isDigitIn base))

end KeaGauge.Text
