/-!
# Base64

Bytes as a text in sixty-four characters. Three bytes make four characters;
equals signs fill up the last four.
-/

namespace KeaGauge.Text

/-- The character of a number below 64. -/
def base64Digit (n : Nat) : Char :=
  if n < 26 then Char.ofNat (65 + n)
  else if n < 52 then Char.ofNat (97 + (n - 26))
  else if n < 62 then Char.ofNat (48 + (n - 52))
  else if n = 62 then '+' else '/'

/-- The first so many of the four characters of a number of 24 bits. -/
def base64Digits (count n : Nat) : List Char :=
  ([n / 0x40000, n / 0x1000, n / 0x40, n].take count).map fun part => base64Digit (part % 0x40)

/-- The text of bytes. -/
def base64 : List UInt8 → List Char
  | a :: b :: c :: rest =>
    base64Digits 4 (0x10000 * a.toNat + 0x100 * b.toNat + c.toNat) ++ base64 rest
  | [a, b] => base64Digits 3 (0x10000 * a.toNat + 0x100 * b.toNat) ++ ['=']
  | [a] => base64Digits 2 (0x10000 * a.toNat) ++ ['=', '=']
  | [] => []

end KeaGauge.Text
