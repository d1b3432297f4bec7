import KeaGauge.Text.Blank
import KeaGauge.Text.Utf16
/-!
# Charsets

How bytes stand for characters. A charset is known by labels; a text that
starts with a byte-order mark is in the charset of the mark, whatever else is
said of it, and the mark is no part of it.
-/

namespace KeaGauge.Text

/-- A way in which bytes stand for characters. -/
inductive Charset where
  | utf8
  /-- Units of two bytes, the less significant byte first when `little`. -/
  | utf16 (little : Bool)
  /-- One byte for each character: Latin-1 with punctuation in place of its
  upper control characters. -/
  | western
deriving DecidableEq, Repr

namespace Charset

/-- The labels of a charset. -/
def labels : Charset → List String
  | utf8 =>
    ["unicode-1-1-utf-8", "unicode11utf8", "unicode20utf8", "utf-8", "utf8", "x-unicode20utf8"]
  | utf16 true =>
    ["csunicode", "iso-10646-ucs-2", "ucs-2", "unicode", "unicodefeff", "utf-16", "utf-16le"]
  | utf16 false => ["unicodefffe", "utf-16be"]
  | western =>
    ["ansi_x3.4-1968", "ascii", "cp1252", "cp819", "csisolatin1", "ibm819", "iso-8859-1",
      "iso-ir-100", "iso8859-1", "iso88591", "iso_8859-1", "iso_8859-1:1987", "l1", "latin1",
      "us-ascii", "windows-1252", "x-cp1252"]

/-- The charset of a label, capital letters and blanks around it allowed. -/
def ofLabel? (label : List Char) : Option Charset :=
  let label := String.ofList ((trim label).map Char.toLower)
  [utf8, utf16 true, utf16 false, western].find? fun c => c.labels.contains label

/-- The characters that the bytes from 0x80 to 0x9F are in the western
charset. -/
def westernPunctuation : List Nat :=
  [0x20AC, 0x81, 0x201A, 0x192, 0x201E, 0x2026, 0x2020, 0x2021, 0x2C6, 0x2030, 0x160, 0x2039,
    0x152, 0x8D, 0x17D, 0x8F, 0x90, 0x2018, 0x2019, 0x201C, 0x201D, 0x2022, 0x2013, 0x2014,
    0x2DC, 0x2122, 0x161, 0x203A, 0x153, 0x9D, 0x17E, 0x178]

/-- The character that a byte is in the western charset. -/
def westernChar (b : Nat) : Char :=
  if 0x80 ≤ b then Char.ofNat (westernPunctuation.getD (b - 0x80) b) else Char.ofNat b

/-- The characters of bytes in a charset, with a replacement for each
malformed one. -/
def decode : Charset → List UInt8 → List Char
  | utf8, bytes => decodeUtf8 bytes
  | utf16 little, bytes => decodeUtf16 little bytes
  | western, bytes => bytes.map fun b => westernChar b.toNat

/-- The charset of the byte-order mark in front of bytes, and the bytes behind
it. -/
def marked? : List UInt8 → Option (Charset × List UInt8)
  | 0xEF :: 0xBB :: 0xBF :: rest => some (utf8, rest)
  | 0xFF :: 0xFE :: rest => some (utf16 true, rest)
  | 0xFE :: 0xFF :: rest => some (utf16 false, rest)
  | _ => none

/-- **The text of bytes** that are said to be in a charset. -/
def text (said : Charset) (bytes : List UInt8) : String :=
  let (charset, bytes) := (marked? bytes).getD (said, bytes)
  String.ofList (charset.decode bytes)

end Charset

end KeaGauge.Text
