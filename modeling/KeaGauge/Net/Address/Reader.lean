import KeaGauge.Net.Address
import KeaGauge.Text.Numeral
/-!
# Reading addresses

Addresses are read in two grammars. Where an address stands alone, an octet
has no leading zero and a double colon stands for at least one group. In
front of a prefix length both are relaxed. Otherwise the grammars agree:
octets of one to three digits, groups of one to four hexadecimal digits of
either case, one double colon, and an IPv4 address in place of the last two
groups.
-/

namespace KeaGauge.Net.Address

open Text (Reader after?)

/-- Which of two forms a grammar admits: an octet with leading zeros, and a
double colon that stands for no group. -/
structure Grammar where
  leadingZeros : Bool
  emptyGap : Bool

/-- The grammar of an address that stands alone. -/
def alone : Grammar := ⟨false, false⟩

/-- The grammar of an address in front of a prefix length. -/
def beforeLength : Grammar := ⟨true, true⟩

/-- An octet. -/
def octet? (g : Grammar) : Reader Nat := fun cs => do
  let (n, rest) ← Text.numeral? 10 3 cs
  let padded := cs.head? = some '0' ∧ rest.length + 1 < cs.length
  if 256 ≤ n ∨ (padded ∧ g.leadingZeros = false) then none
  else some (n, rest)

/-- Four octets. -/
def dotted? (g : Grammar) : Reader (List Nat) := fun cs => do
  let (a, cs) ← octet? g cs
  let (b, cs) ← octet? g (← after? '.' cs)
  let (c, cs) ← octet? g (← after? '.' cs)
  let (d, cs) ← octet? g (← after? '.' cs)
  return ([a, b, c, d], cs)

/-- A group. -/
def group? : Reader Nat := Text.numeral? 16 4

/-- What follows the separator in front of a group; the first group has
none. -/
def separated? (isFirst : Bool) (cs : List Char) : Option (List Char) :=
  if isFirst then some cs else after? ':' cs

/-- As many groups as there are, up to a limit; whether they end in an IPv4
address, which takes the place of two; and what follows. -/
def groups (g : Grammar) : (limit : Nat) → (isFirst : Bool) → List Char →
    List Nat × Bool × List Char
  | 0, _, cs => ([], false, cs)
  | limit + 1, isFirst, cs =>
    let embedded := if limit = 0 then none else (separated? isFirst cs).bind (dotted? g)
    match embedded with
    | some (octets, rest) => (split 65536 2 (join 256 octets), true, rest)
    | none =>
      match (separated? isFirst cs).bind group? with
      | some (n, rest) =>
        let (more, embedded, rest) := groups g limit false rest
        (n :: more, embedded, rest)
      | none => ([], false, cs)

/-- An IPv4 address. -/
def four? (g : Grammar) : Reader Address := fun cs =>
  (dotted? g cs).map fun (octets, rest) => (ofNat .v4 (join 256 octets), rest)

/-- An IPv6 address. -/
def six? (g : Grammar) : Reader Address := fun cs =>
  let (front, embedded, rest) := groups g 8 true cs
  if front.length = 8 then some (ofNat .v6 (join 65536 front), rest)
  else if embedded then none
  else
    match rest with
    | ':' :: ':' :: rest =>
      let limit := (if g.emptyGap then 8 else 7) - front.length
      let (back, _, rest) := groups g limit true rest
      let gap := List.replicate (8 - front.length - back.length) 0
      some (ofNat .v6 (join 65536 (front ++ gap ++ back)), rest)
    | _ => none

/-- The address at the front of a text. -/
def read? (g : Grammar) : Reader Address := fun cs =>
  (four? g cs).orElse fun _ => six? g cs

/-- **The address that a text is**, in the grammar of an address that stands
alone. -/
def ofChars? (cs : List Char) : Option Address := do
  let (a, rest) ← read? alone cs
  if rest.isEmpty then some a else none

/-- The address that a text is. -/
def ofText? (s : String) : Option Address := ofChars? s.toList

end KeaGauge.Net.Address
