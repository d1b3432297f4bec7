import KeaGauge.Net.Cidr
import KeaGauge.Text.Blank
/-!
# Address pools

A pool is the range of addresses that a subnet hands out. Kea writes it as
two addresses with a hyphen between them or as a prefix.
-/

namespace KeaGauge.Kea

open Net (Address Cidr)

/-- A range of addresses, both ends included. -/
structure Pool where
  first : Address
  last : Address
deriving DecidableEq

namespace Pool

/-- The pool of all addresses of a prefix. -/
def ofCidr (c : Cidr) : Pool := ⟨c.first, c.last⟩

/-- **The pool that a text names.** A text with a hyphen is a range, cut at
its first hyphen; any other is a prefix. -/
def ofChars? (cs : List Char) : Option Pool :=
  match cs.dropWhile (· ≠ '-') with
  | '-' :: back => do
    let first ← Address.ofChars? (Text.trim (cs.takeWhile (· ≠ '-')))
    let last ← Address.ofChars? (Text.trim back)
    return ⟨first, last⟩
  | _ => (Cidr.ofChars? (Text.trim cs)).map ofCidr

/-- The pool that a text names. -/
def ofText? (s : String) : Option Pool := ofChars? s.toList

end Pool

end KeaGauge.Kea
