import KeaGauge.Net.Address.Reader
import KeaGauge.Text.Percent
import KeaGauge.Text.Plain
import KeaGauge.Text.Utf8
/-!
# Hosts

A host is known by an address or by a name. An IPv4 address may also be
written in numbers: one to four of them with points between, each in decimal,
octal behind a zero, or hexadecimal behind `0x`, where the last number takes
all the room that the others leave.

Settings name a host by an address or a name; a URL does so in characters
that may be percent encoded or have other shapes.
-/

namespace KeaGauge.Net

/-- What a host is known by. -/
inductive Host where
  | address (a : Address)
  | name (n : String)
deriving DecidableEq

/-! ## Addresses in numbers -/

namespace Address

/-- The number of digits in a base, which may be missing when `mayBeEmpty`. -/
def digits? (base : Nat) (mayBeEmpty : Bool) (cs : List Char) : Option Nat :=
  if (cs.isEmpty && !mayBeEmpty) || !cs.all (Text.isDigitIn base) then none
  else some (Text.ofDigits base cs)

/-- A number in one of the three bases. The digits behind `0x` may be missing
when `mayBeBare`. -/
def number? (mayBeBare : Bool) : List Char → Option Nat
  | '0' :: 'x' :: digits => digits? 16 mayBeBare digits
  | '0' :: 'X' :: digits => digits? 16 mayBeBare digits
  | '0' :: c :: digits => digits? 8 false (c :: digits)
  | digits => digits? 10 false digits

/-- The address of numbers, the last of which takes the room that the others
leave. -/
def ofNumbers? (ns : List Nat) : Option Address := do
  let last ← ns.getLast?
  let front := ns.dropLast
  let room := Nat.pow 256 (4 - front.length)
  if front.length < 4 ∧ front.all (· < 256) ∧ last < room then
    some (ofNat .v4 (join 256 front * room + last))
  else none

/-- The address in numbers that parts of a text are. -/
def inNumbers? (mayBeBare : Bool) (parts : List (List Char)) : Option Address :=
  (parts.mapM (number? mayBeBare)).bind ofNumbers?

end Address

namespace Host

/-- The host that settings name. -/
def ofText (s : String) : Host :=
  let found := (Address.ofText? s).orElse fun _ => Address.inNumbers? false (s.toList.splitOn '.')
  (found.map address).getD (name s)

/-- The text by which the system finds the host. -/
def text : Host → String
  | address a => a.text
  | name n => n

/-! ## Hosts in URLs -/

/-- The host as it stands in a URL: an address of IPv6 in brackets, and all of
it in groups. -/
def urlText : Host → String
  | address ⟨.v6, bits⟩ =>
    "[" ++ String.ofList (Address.sixChars (Address.split 65536 8 bits.toNat)) ++ "]"
  | host => host.text

/-- The characters that no name in a URL holds. -/
def isForbidden (c : Char) : Bool :=
  c.toNat ≤ 0x20 || c = '\x7f'
    || ['%', '#', '/', ':', '<', '>', '?', '@', '[', '\\', ']', '^', '|'].contains c

/-- Whether parts of a name end in a number, so that the name can only be an
address. -/
def endsInNumber (parts : List (List Char)) : Bool :=
  match parts.getLast? with
  | some last =>
    (!last.isEmpty && last.all (Text.isDigitIn 10)) || (Address.number? true last).isSome
  | none => false

/-- The parts of a name, which a point may end. -/
def parts (n : List Char) : List (List Char) :=
  let parts := n.splitOn '.'
  if parts.getLast? = some [] then parts.dropLast else parts

/-- The host that a plain name in a URL is. -/
def ofPlain? (n : List Char) : Option Host :=
  if n.isEmpty || n.any isForbidden then none
  else if endsInNumber (parts n) then (Address.inNumbers? true (parts n)).map address
  else some (name (String.ofList n))

/-- **The host that characters in a URL name.** -/
def ofUrlChars? : List Char → Option Host
  | '[' :: inner =>
    if inner.getLast? = some ']' then
      ((Address.ofChars? inner.dropLast).filter (·.family = .v6)).map address
    else none
  | cs => do ofPlain? (← Text.plain? (← Text.decodeUtf8? (Text.percentDecode (Text.encodeUtf8 cs))))

end Host

end KeaGauge.Net
