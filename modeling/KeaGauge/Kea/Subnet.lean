import KeaGauge.Kea.Pool
import KeaGauge.Notice
/-!
# Subnet entries

A subnet is read from an entry of a configuration's subnet list. An entry
without a usable id or prefix is left out, and a pool that cannot be read is
left out of its subnet; each is reported once.
-/

namespace KeaGauge.Kea

open Json (Value)
open Net (Family Cidr)

/-- A subnet of a DHCP server. -/
structure Subnet where
  id : Nat
  cidr : Cidr
  pools : List Pool
deriving DecidableEq

namespace Subnet

/-- The id and the prefix of a subnet. -/
def assignment (s : Subnet) : Assignment := ⟨s.id, s.cidr⟩

/-- An id: an integer of 32 bits without sign. -/
def id? (v : Value) : Option Nat := v.nat?.filter (· < 0x100000000)

/-- A prefix, blanks around it allowed. -/
def cidr? (v : Value) : Option Cidr :=
  v.text?.bind fun s => Cidr.ofChars? (Text.trim s.toList)

/-- The entries of a list that is a member; none when it is absent or not a
list. -/
def entriesAt (v : Value) (name : String) : List Value :=
  ((v.get? name).bind Value.items?).getD []

/-- The pool of an entry of a pool list. -/
def pool? (v : Value) : Option Pool :=
  ((v.get? "pool").bind Value.text?).bind Pool.ofText?

/-- **The subnet of an entry**, or the reason why there is none. -/
def ofEntry (family : Family) (entry : Value) : Except Notice Subnet :=
  match entry.get? "id", entry.get? "subnet" with
  | some id, some written =>
    match id? id with
    | none => .error (.invalidId id)
    | some id =>
      match cidr? written with
      | none => .error (.invalidPrefix id written)
      | some cidr =>
        if cidr.family = family then
          .ok ⟨id, cidr, (entriesAt entry "pools").filterMap pool?⟩
        else .error (.foreignPrefix id cidr family)
  | _, _ => .error (.incompleteSubnet entry)

/-- The entries of a subnet's pool list that cannot be read. -/
def unparsablePools (entry : Value) : List Value :=
  (entriesAt entry "pools").filter fun v => (pool? v).isNone

/-- What is to be reported about an entry. -/
def notices (family : Family) (entry : Value) : List Notice :=
  match ofEntry family entry with
  | .error notice => [notice]
  | .ok s => (unparsablePools entry).map (.unparsablePool · s.id)

end Subnet

end KeaGauge.Kea
