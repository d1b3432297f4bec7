import KeaGauge.Json.Value
import KeaGauge.Text.Numeral
import KeaGauge.Text.Reader
/-!
# Reading JSON text

`Json.parse?` reads a document of the JSON grammar in which at most 127
containers are open at once. A numeral without fraction and exponent that
fits 64 bits is an integer, except `-0`; any other numeral is the nearest
number to the digits that fit 64 bits, scaled by a power of ten.

The recursion is on the number of containers that may still be opened, and
within a container or a string on a bound that is set once for the whole
document: one more than its number of characters, which no run of items,
members or characters in it exceeds.
-/

namespace KeaGauge.Json

open Text (Reader)

/-- The white space of JSON. -/
def isSpace (c : Char) : Bool := c = ' ' || c = '\n' || c = '\t' || c = '\r'

/-- What follows the white space. -/
def skipSpace (cs : List Char) : List Char := cs.dropWhile isSpace

/-! ## Numerals -/

/-- The parts of a numeral: its sign, the digits before and after the point,
and the exponent. -/
structure Numeral where
  negative : Bool
  whole : List Char
  fraction : Option (List Char)
  exponent : Option Int
deriving DecidableEq, Repr

/-- The longest run of digits at the front, which must not be empty. -/
def digits? : Reader (List Char) := Text.run? Char.isDigit

/-- The digits before the point: a lone zero, or a run without a leading
zero. -/
def whole? : Reader (List Char)
  | '0' :: rest => some (['0'], rest)
  | cs => digits? cs

/-- The digits after the point, when there is a point. -/
def fraction? : Reader (Option (List Char))
  | '.' :: rest => (digits? rest).map fun (run, rest) => (some run, rest)
  | cs => some (none, cs)

/-- The sign of an exponent: whether it is negative. -/
def exponentSign : List Char → Bool × List Char
  | '+' :: rest => (false, rest)
  | '-' :: rest => (true, rest)
  | cs => (false, cs)

/-- The exponent, when there is one. -/
def exponent? : Reader (Option Int)
  | c :: rest =>
    if c = 'e' ∨ c = 'E' then
      let (negative, rest) := exponentSign rest
      (digits? rest).map fun (run, rest) =>
        let n : Int := Text.ofDigits 10 run
        (some (if negative then -n else n), rest)
    else some (none, c :: rest)
  | [] => some (none, [])

/-- The parts of a numeral, its sign read already. -/
def unsigned? (negative : Bool) : Reader Numeral := fun cs => do
  let (whole, cs) ← whole? cs
  let (fraction, cs) ← fraction? cs
  let (exponent, cs) ← exponent? cs
  return (⟨negative, whole, fraction, exponent⟩, cs)

/-- The parts of a numeral. -/
def numeral? : Reader Numeral
  | '-' :: rest => unsigned? true rest
  | cs => unsigned? false cs

/-- Appends digits to a number while it fits 64 bits: the number, and how
many digits it took. -/
def absorb (n : Nat) : List Char → Nat × Nat
  | [] => (n, 0)
  | c :: rest =>
    let m := 10 * n + (c.toNat - 48)
    if m < 0x10000000000000000 then
      let (m', k) := absorb m rest
      (m', k + 1)
    else (n, 0)

/-- The number nearest to the first digits of a numeral that fit 64 bits,
times the power of ten that the others and the exponent amount to. -/
def Numeral.float? (x : Numeral) : Option Binary64 := do
  let (n, taken) := absorb 0 x.whole
  let dropped : Int := x.whole.length - taken
  let (n, after) := absorb n (x.fraction.getD [])
  let y ← Binary64.ofNat? n
  let z ← y.scaleTen? (dropped - after + x.exponent.getD 0)
  return if x.negative then z.neg else z

/-- The integer that a numeral without fraction and exponent names, when it
fits 64 bits. Zero with a sign is no integer. -/
def Numeral.integer? (x : Numeral) : Option Int :=
  if x.fraction.isSome ∨ x.exponent.isSome then none
  else
    let n := Text.ofDigits 10 x.whole
    if x.negative then
      if 0 < n ∧ n ≤ 0x8000000000000000 then some (-n) else none
    else if n < 0x10000000000000000 then some n else none

/-- The value of a numeral; none beyond the largest number. -/
def Numeral.value? (x : Numeral) : Option Value :=
  match x.integer? with
  | some n => some (.int n)
  | none => x.float?.map .float

/-! ## Strings -/

/-- Four hexadecimal digits. -/
def hex4? : Reader Nat
  | a :: b :: c :: d :: rest => do
    let a ← Text.digitValue? 16 a
    let b ← Text.digitValue? 16 b
    let c ← Text.digitValue? 16 c
    let d ← Text.digitValue? 16 d
    return (((a * 16 + b) * 16 + c) * 16 + d, rest)
  | _ => none

/-- The character that a one-letter escape stands for. -/
def simpleEscape? : Char → Option Char
  | '"' => some '"'
  | '\\' => some '\\'
  | '/' => some '/'
  | 'b' => some '\x08'
  | 'f' => some '\x0c'
  | 'n' => some '\n'
  | 'r' => some '\r'
  | 't' => some '\t'
  | _ => none

/-- The character of a numeric escape, after its `\u`. A code unit of the
upper surrogates needs an escape of a lower one behind it. -/
def codeEscape? : Reader Char := fun cs => do
  let (unit, cs) ← hex4? cs
  if 0xD800 ≤ unit ∧ unit < 0xDC00 then
    match cs with
    | '\\' :: 'u' :: cs =>
      let (low, cs) ← hex4? cs
      if 0xDC00 ≤ low ∧ low < 0xE000 then
        return (Char.ofNat (0x10000 + (unit - 0xD800) * 0x400 + (low - 0xDC00)), cs)
      else none
    | _ => none
  else if 0xDC00 ≤ unit ∧ unit < 0xE000 then none
  else return (Char.ofNat unit, cs)

/-- The character of an escape, after its backslash. -/
def escape? : Reader Char
  | 'u' :: rest => codeEscape? rest
  | c :: rest => (simpleEscape? c).map (·, rest)
  | [] => none

/-- The content of a string literal, after its opening quote. The bound is a
number of characters that the text does not exceed. -/
def content? : Nat → Reader (List Char)
  | 0, _ => none
  | _ + 1, [] => none
  | n + 1, c :: rest =>
    if c = '"' then some ([], rest)
    else if c = '\\' then do
      let (d, rest) ← escape? rest
      let (ds, rest) ← content? n rest
      return (d :: ds, rest)
    else if c.toNat < 0x20 then none
    else do
      let (ds, rest) ← content? n rest
      return (c :: ds, rest)

/-- A string, after its opening quote. -/
def string? (bound : Nat) : Reader String := fun cs =>
  (content? bound cs).map fun (s, rest) => (String.ofList s, rest)

/-! ## Values -/

/-- What follows a word at the front. -/
def word? (w : List Char) (v : Value) : Reader Value := fun cs =>
  if w.isPrefixOf cs then some (v, cs.drop w.length) else none

/-- A value that opens no container. -/
def scalar? (bound : Nat) : Reader Value
  | '"' :: rest => (string? bound rest).map fun (s, rest) => (.string s, rest)
  | 'n' :: rest => word? ['u', 'l', 'l'] .null rest
  | 't' :: rest => word? ['r', 'u', 'e'] (.bool true) rest
  | 'f' :: rest => word? ['a', 'l', 's', 'e'] (.bool false) rest
  | cs => do
    let (x, rest) ← numeral? cs
    return (← x.value?, rest)

/-- The items of a list up to its closing bracket, where `item?` reads an
item. At least one item; the bound is on their number. -/
def items? (item? : Reader Value) : Nat → Reader (List Value)
  | 0, _ => none
  | n + 1, cs => do
    let (v, cs) ← item? (skipSpace cs)
    match skipSpace cs with
    | ']' :: rest => return ([v], rest)
    | ',' :: rest =>
      let (vs, rest) ← items? item? n rest
      return (v :: vs, rest)
    | _ => none

/-- The name of a member and the colon behind it. -/
def name? (bound : Nat) : Reader String
  | '"' :: rest => do
    let (name, rest) ← string? bound rest
    match skipSpace rest with
    | ':' :: rest => return (name, rest)
    | _ => none
  | _ => none

/-- The members of an object up to its closing brace. At least one member;
the second bound is on their number. -/
def members? (bound : Nat) (item? : Reader Value) : Nat → Reader (List (String × Value))
  | 0, _ => none
  | n + 1, cs => do
    let (name, cs) ← name? bound (skipSpace cs)
    let (v, cs) ← item? (skipSpace cs)
    match skipSpace cs with
    | '\x7d' :: rest => return ([(name, v)], rest)
    | ',' :: rest =>
      let (ms, rest) ← members? bound item? n rest
      return ((name, v) :: ms, rest)
    | _ => none

/-- A list after its opening bracket. -/
def list? (bound : Nat) (item? : Reader Value) : Reader Value := fun cs =>
  match skipSpace cs with
  | ']' :: rest => some (.list [], rest)
  | cs => (items? item? bound cs).map fun (vs, rest) => (.list vs, rest)

/-- An object after its opening brace. Of members of one name the last one
stays. -/
def object? (bound : Nat) (item? : Reader Value) : Reader Value := fun cs =>
  match skipSpace cs with
  | '\x7d' :: rest => some (.object [], rest)
  | cs => (members? bound item? bound cs).map fun (ms, rest) => (.ofMembers ms, rest)

/-- A value in which at most `depth` containers are open at once. -/
def value? (bound : Nat) : (depth : Nat) → Reader Value
  | 0 => fun cs =>
    match cs with
    | '[' :: _ | '\x7b' :: _ => none
    | cs => scalar? bound cs
  | depth + 1 => fun cs =>
    match cs with
    | '[' :: rest => list? bound (value? bound depth) rest
    | '\x7b' :: rest => object? bound (value? bound depth) rest
    | cs => scalar? bound cs

/-- How many containers may be open at once. -/
def maxDepth : Nat := 127

/-- **The value of a JSON document**, white space around it allowed. -/
def parseChars? (cs : List Char) : Option Value := do
  let (v, rest) ← value? (cs.length + 1) maxDepth (skipSpace cs)
  if (skipSpace rest).isEmpty then some v else none

/-- The value of a JSON document. -/
def parse? (s : String) : Option Value := parseChars? s.toList

end KeaGauge.Json
