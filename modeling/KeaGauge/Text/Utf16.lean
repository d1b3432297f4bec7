import KeaGauge.Text.Utf8
/-!
# UTF-16

The characters that a sequence of bytes encodes in UTF-16, in either order of
bytes. A surrogate without its partner counts as one fault, and so does what
is left over at the end: a byte, an upper surrogate, or one behind the other.
-/

namespace KeaGauge.Text

/-- The units of a sequence of bytes, the less significant byte first when
`little`. A byte left over belongs to no unit. -/
def units16 (little : Bool) : List UInt8 → List Nat
  | a :: b :: rest =>
    (if little then a.toNat + 256 * b.toNat else 256 * a.toNat + b.toNat) :: units16 little rest
  | _ => []

/-- What one unit gives after a possible upper surrogate: the characters
completed, and the upper surrogate begun. -/
def nextUnit (upper : Option Nat) (u : Nat) : List Char × Option Nat :=
  if 0xDC00 ≤ u ∧ u < 0xE000 then
    match upper with
    | some h => ([Char.ofNat (0x10000 + (h - 0xD800) * 0x400 + (u - 0xDC00))], none)
    | none => ([replacement], none)
  else
    let alone := if upper.isSome then [replacement] else []
    if 0xD800 ≤ u ∧ u < 0xDC00 then (alone, some u)
    else (alone ++ [Char.ofNat u], none)

/-- The characters of units after a possible upper surrogate, where a byte
may be left over behind them. -/
def utf16From (leftOver : Bool) : Option Nat → List Nat → List Char
  | upper, [] => if upper.isSome || leftOver then [replacement] else []
  | upper, u :: rest =>
    let (done, upper) := nextUnit upper u
    done ++ utf16From leftOver upper rest

/-- The characters of a sequence of bytes, with a replacement for each
fault. -/
def decodeUtf16 (little : Bool) (bytes : List UInt8) : List Char :=
  utf16From (bytes.length % 2 = 1) none (units16 little bytes)

end KeaGauge.Text
