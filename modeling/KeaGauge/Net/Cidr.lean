import KeaGauge.Net.Address.Reader
/-!
# Network prefixes

An address with a prefix length, written with a slash between them. The bits
beyond the length are kept: two prefixes of one network that differ in them
are different.
-/

namespace KeaGauge.Net

/-- An address with the length of its network part. -/
structure Cidr where
  address : Address
  length : Nat
  length_le : length ≤ address.family.width := by decide
deriving DecidableEq

namespace Cidr

/-- The family of the address. -/
def family (c : Cidr) : Family := c.address.family

/-- How many bits lie beyond the network part. -/
def hostBits (c : Cidr) : Nat := c.family.width - c.length

/-- How many addresses the network has. -/
def size (c : Cidr) : Nat := Nat.pow 2 c.hostBits

/-- The first address of the network: every host bit clear. -/
def first (c : Cidr) : Address :=
  .ofNat c.family (c.address.value / c.size * c.size)

/-- The last address of the network: every host bit set. -/
def last (c : Cidr) : Address :=
  .ofNat c.family (c.address.value / c.size * c.size + (c.size - 1))

/-- The text of a prefix. -/
def chars (c : Cidr) : List Char :=
  c.address.chars ++ '/' :: Nat.toDigits 10 c.length

/-- The text of a prefix. -/
def text (c : Cidr) : String := String.ofList c.chars

/-- The prefix of an address and a length, if the length is not too great. -/
def of? (a : Address) (length : Nat) : Option Cidr :=
  if h : length ≤ a.family.width then some ⟨a, length, h⟩ else none

/-- A slash and a length of at most `most` digits behind an address. -/
def length? (most : Nat) (found : Option (Address × List Char)) : Option (Cidr × List Char) := do
  let (a, cs) ← found
  let (n, rest) ← Text.numeral? 10 most (← Text.after? '/' cs)
  return (← of? a n, rest)

/-- The prefix at the front of a text. -/
def read? : Text.Reader Cidr := fun cs =>
  (length? 2 (Address.four? Address.beforeLength cs)).orElse fun _ =>
    length? 3 (Address.six? Address.beforeLength cs)

/-- **The prefix that a text is.** -/
def ofChars? (cs : List Char) : Option Cidr := do
  let (c, rest) ← read? cs
  if rest.isEmpty then some c else none

/-- The prefix that a text is. -/
def ofText? (s : String) : Option Cidr := ofChars? s.toList

/-- The place of a prefix in the order of prefixes: IPv4 before IPv6, then
by address, then by length. -/
def rank (c : Cidr) : Nat :=
  let family := match c.family with
    | .v4 => 0
    | .v6 => 1
  (family * Nat.pow 2 128 + c.address.value) * 256 + c.length

end Cidr

end KeaGauge.Net
