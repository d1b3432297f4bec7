/-!
# UTF-8

The characters that a sequence of bytes encodes in UTF-8. A machine reads one
byte at a time; a malformed start of a character counts as one fault, and
reading goes on at the byte that broke it.
-/

namespace KeaGauge.Text

/-- A character of which some bytes have been read: its bits so far, how many
bytes are missing, and the bounds of the next one. -/
structure Pending where
  bits : Nat
  missing : Nat
  low : Nat
  high : Nat
deriving DecidableEq, Repr

/-- What the first byte of a character gives: the characters and faults
(`none`) completed, and the character begun. -/
def leadByte (b : Nat) : List (Option Char) × Option Pending :=
  if b < 0x80 then ([some (Char.ofNat b)], none)
  else if 0xC2 ≤ b ∧ b < 0xE0 then ([], some ⟨b - 0xC0, 1, 0x80, 0xBF⟩)
  else if b = 0xE0 then ([], some ⟨0, 2, 0xA0, 0xBF⟩)
  else if b = 0xED then ([], some ⟨0xD, 2, 0x80, 0x9F⟩)
  else if 0xE1 ≤ b ∧ b < 0xF0 then ([], some ⟨b - 0xE0, 2, 0x80, 0xBF⟩)
  else if b = 0xF0 then ([], some ⟨0, 3, 0x90, 0xBF⟩)
  else if 0xF1 ≤ b ∧ b < 0xF4 then ([], some ⟨b - 0xF0, 3, 0x80, 0xBF⟩)
  else if b = 0xF4 then ([], some ⟨4, 3, 0x80, 0x8F⟩)
  else ([none], none)

/-- One step of the machine. -/
def nextByte (pending : Option Pending) (b : Nat) : List (Option Char) × Option Pending :=
  match pending with
  | none => leadByte b
  | some p =>
    if p.low ≤ b ∧ b ≤ p.high then
      let bits := p.bits * 64 + (b - 0x80)
      if p.missing = 1 then ([some (Char.ofNat bits)], none)
      else ([], some ⟨bits, p.missing - 1, 0x80, 0xBF⟩)
    else
      let (done, pending) := leadByte b
      (none :: done, pending)

/-- The characters and faults of a sequence of bytes, from a state on. -/
def utf8From : Option Pending → List UInt8 → List (Option Char)
  | none, [] => []
  | some _, [] => [none]
  | pending, b :: rest =>
    let (done, pending) := nextByte pending b.toNat
    done ++ utf8From pending rest

/-- The characters of a sequence of bytes, if none of them is malformed. -/
def decodeUtf8? (bytes : List UInt8) : Option (List Char) :=
  (utf8From none bytes).mapM id

/-- What stands for a malformed character. -/
def replacement : Char := Char.ofNat 0xFFFD

/-- The characters of a sequence of bytes, with a replacement for each
malformed one. -/
def decodeUtf8 (bytes : List UInt8) : List Char :=
  (utf8From none bytes).map (·.getD replacement)

/-- A text without the byte-order mark it may start with. -/
def dropMark (s : String) : String :=
  match s.toList with
  | '\ufeff' :: rest => String.ofList rest
  | _ => s

end KeaGauge.Text
