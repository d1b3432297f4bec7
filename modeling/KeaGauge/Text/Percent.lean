import KeaGauge.Text.Numeral
/-!
# Percent encoding

A byte may stand in a text as a percent sign with its two hexadecimal digits.
A percent sign without two such digits behind it stands for itself.
-/

namespace KeaGauge.Text

/-- The byte of two hexadecimal digits. -/
def hexByte? (high low : UInt8) : Option UInt8 := do
  let high ← digitValue? 16 (Char.ofNat high.toNat)
  let low ← digitValue? 16 (Char.ofNat low.toNat)
  return UInt8.ofNat (16 * high + low)

/-- The bytes that a sequence of bytes stands for. -/
def percentDecode : List UInt8 → List UInt8
  | 0x25 :: high :: low :: rest =>
    match hexByte? high low with
    | some b => b :: percentDecode rest
    | none => 0x25 :: percentDecode (high :: low :: rest)
  | b :: rest => b :: percentDecode rest
  | [] => []

/-- The bytes of characters in UTF-8. -/
def encodeUtf8 (cs : List Char) : List UInt8 := (String.ofList cs).toUTF8.toList

/-- The percent encoding of a byte, in capital digits. -/
def percentByte (b : UInt8) : List Char :=
  '%' :: ((Nat.toDigits 16 b.toNat).leftpad 2 '0').map Char.toUpper

/-- The text in which characters of a class, control characters, and all
beyond ASCII are percent encoded. -/
def percentEncode (isReserved : Char → Bool) (cs : List Char) : List Char :=
  cs.flatMap fun c =>
    if isReserved c ∨ c.toNat < 0x20 ∨ 0x7F ≤ c.toNat then (encodeUtf8 [c]).flatMap percentByte
    else [c]

end KeaGauge.Text
