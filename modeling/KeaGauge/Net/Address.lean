/-!
# Internet addresses

An address is a word of 32 or 128 bits, by its family. Its text is
canonical: four decimal octets, or groups of lower-case hexadecimal digits
with the first longest run of at least two zero groups left out; an IPv6
address in the IPv4-mapped block ends in the dotted form.
-/

namespace KeaGauge.Net

/-- The two families of addresses. -/
inductive Family where
  | v4
  | v6
deriving DecidableEq, Repr, Inhabited

namespace Family

/-- How many bits an address has. -/
def width : Family → Nat
  | v4 => 32
  | v6 => 128

/-- The number in the family's name. -/
def number : Family → Nat
  | v4 => 4
  | v6 => 6

/-- The family of a number. -/
def ofNumber? (n : Nat) : Option Family :=
  if n = 4 then some v4 else if n = 6 then some v6 else none

end Family

/-- An address. -/
structure Address where
  family : Family
  bits : BitVec family.width
deriving DecidableEq

namespace Address

/-- The address as a number, its first bit the most significant. -/
def value (a : Address) : Nat := a.bits.toNat

/-- The address of a number, which is taken modulo the number of addresses
of the family. -/
def ofNat (family : Family) (n : Nat) : Address :=
  ⟨family, BitVec.ofNat family.width n⟩

/-- The number that parts name, the first the most significant, each below
the base. -/
def join (base : Nat) (parts : List Nat) : Nat :=
  parts.foldl (fun n part => base * n + part) 0

/-- The `count` parts of a number in a base, the first the most
significant. -/
def split (base : Nat) : (count : Nat) → Nat → List Nat
  | 0, _ => []
  | count + 1, n => n / Nat.pow base count % base :: split base count n

/-- The text of four octets. -/
def dottedChars (n : Nat) : List Char :=
  ['.'].intercalate ((split 256 4 n).map (Nat.toDigits 10))

/-- The text of groups with colons between them. -/
def groupChars (groups : List Nat) : List Char :=
  [':'].intercalate (groups.map (Nat.toDigits 16))

/-- How many zero groups stand at a place. -/
def zerosAt (groups : List Nat) (i : Nat) : Nat :=
  ((groups.drop i).takeWhile (· = 0)).length

/-- The place and the length of the first longest run of zero groups. -/
def longestZeros (groups : List Nat) : Nat × Nat :=
  (List.range groups.length).foldl
    (fun best i => if best.2 < zerosAt groups i then (i, zerosAt groups i) else best) (0, 0)

/-- The text of eight groups. -/
def sixChars (groups : List Nat) : List Char :=
  let (start, count) := longestZeros groups
  if count < 2 then groupChars groups
  else
    groupChars (groups.take start) ++ ':' :: ':' :: groupChars (groups.drop (start + count))

/-- Whether a number is that of an IPv6 address in the block `::ffff:0:0/96`,
which holds the IPv4 addresses. -/
def isMapped (n : Nat) : Bool := n / 0x100000000 = 0xFFFF

/-- **The canonical text of an address.** -/
def chars (a : Address) : List Char :=
  match a.family with
  | .v4 => dottedChars a.value
  | .v6 =>
    if isMapped a.value then
      [':', ':', 'f', 'f', 'f', 'f', ':'] ++ dottedChars (a.value % 0x100000000)
    else sixChars (split 65536 8 a.value)

/-- The canonical text of an address. -/
def text (a : Address) : String := String.ofList a.chars

end Address

end KeaGauge.Net
