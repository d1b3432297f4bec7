import KeaGauge.Json.Value
/-!
# Compact JSON text

The text of a JSON value without white space between its tokens, members in
ascending order of their names. In strings only quotes, backslashes and the
control characters below U+0020 are escaped. A number with a fraction or an
exponent is written with the fewest digits that read back.
-/

namespace KeaGauge.Json

/-- One character of a string literal. -/
def escape (c : Char) : List Char :=
  if c = '"' then ['\\', '"']
  else if c = '\\' then ['\\', '\\']
  else if c = '\x08' then ['\\', 'b']
  else if c = '\x0c' then ['\\', 'f']
  else if c = '\n' then ['\\', 'n']
  else if c = '\r' then ['\\', 'r']
  else if c = '\t' then ['\\', 't']
  else if c.toNat < 0x20 then
    ['\\', 'u', '0', '0', Nat.digitChar (c.toNat / 16), Nat.digitChar (c.toNat % 16)]
  else [c]

/-- A string literal. -/
def quote (s : List Char) : List Char :=
  '"' :: (s.flatMap escape ++ ['"'])

/-- The decimal exponents that are written positionally. -/
def positional (e : Int) : Bool := -5 ≤ e && e ≤ 15

/-- Digits with a point after the first `whole` of them, and at least one
digit on either side of the point. -/
def pointed (digits : List Char) (whole : Int) : List Char :=
  if whole ≤ 0 then
    '0' :: '.' :: (List.replicate whole.natAbs '0' ++ digits)
  else if whole.natAbs < digits.length then
    digits.take whole.natAbs ++ '.' :: digits.drop whole.natAbs
  else
    digits ++ List.replicate (whole.natAbs - digits.length) '0' ++ ['.', '0']

/-- Digits with a point after the first and an exponent that has a sign. -/
def scientific (digits : List Char) (e : Int) : List Char :=
  let fraction := digits.drop 1
  digits.take 1 ++ (if fraction.isEmpty then [] else '.' :: fraction)
    ++ 'e' :: (if e < 0 then '-' else '+') :: Nat.toDigits 10 e.natAbs

/-- The text of a number with a fraction or an exponent. -/
def floatText (x : Binary64) : List Char :=
  let sign := if x.negative then ['-'] else []
  if x.isZero then sign ++ ['0', '.', '0']
  else
    let (d, p) := x.shortest
    let all := Nat.toDigits 10 d
    let e := p + all.length - 1
    let digits := (all.reverse.dropWhile (· = '0')).reverse
    sign ++ if positional e then pointed digits (e + 1) else scientific digits e

mutual

/-- The compact text of a value. -/
def Value.chars : Value → List Char
  | .null => ['n', 'u', 'l', 'l']
  | .bool true => ['t', 'r', 'u', 'e']
  | .bool false => ['f', 'a', 'l', 's', 'e']
  | .int n => (Int.repr n).toList
  | .float x => floatText x
  | .string s => quote s.toList
  | .list [] => ['[', ']']
  | .list (v :: rest) => '[' :: (v.chars ++ moreItems rest)
  | .object [] => ['\x7b', '\x7d']
  | .object (m :: rest) => '\x7b' :: (memberChars m ++ moreMembers rest)
termination_by structural v => v

/-- The items of a list after the first, and its closing bracket. -/
def moreItems : List Value → List Char
  | [] => [']']
  | v :: rest => ',' :: (v.chars ++ moreItems rest)
termination_by structural items => items

/-- A member of an object. -/
def memberChars : String × Value → List Char
  | (name, v) => quote name.toList ++ ':' :: v.chars
termination_by structural m => m

/-- The members of an object after the first, and its closing brace. -/
def moreMembers : List (String × Value) → List Char
  | [] => ['\x7d']
  | m :: rest => ',' :: (memberChars m ++ moreMembers rest)
termination_by structural members => members

end

/-- The compact text of a value. -/
def Value.text (v : Value) : String := String.ofList v.chars

end KeaGauge.Json
