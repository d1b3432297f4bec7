import KeaGauge.Kea.Subnet
import KeaGauge.Kea.Error
/-!
# Configuration snapshots

The subnets of a DHCP server at the moment it handed out its configuration.
A configuration document is an object with the section of exactly one server
and, at most, a hash beside it. The subnets are those of the section and of
its shared networks.
-/

namespace KeaGauge.Kea

open Json (Value Object)
open Net (Family)

/-- The subnets that a configuration lists. -/
structure Snapshot where
  family : Family
  subnets : List Subnet
  hash : Option String
deriving DecidableEq

namespace Snapshot

/-- The set of a snapshot's assignments. Two snapshots agree when these sets
do, whatever the order of the subnets, their pools and the hash. -/
def assignments (s : Snapshot) : List Assignment :=
  Assignment.setOf (s.subnets.map Subnet.assignment)

/-- Whether the snapshot lists no subnet. -/
def isEmpty (s : Snapshot) : Bool := s.subnets.isEmpty

/-- What a document holds beside and above its section. -/
structure Head where
  family : Option Family
  content : Value
  hash : Option String

/-- Reads a member of a document. -/
def readMember (head : Head) (name : String) (v : Value) : Except ConfigFault Head :=
  match familyOfSection? name, v with
  | some family, v =>
    if head.family.isSome then .error .bothSections
    else .ok { head with family := some family, content := v }
  | none, .string s =>
    if name = "hash" then .ok { head with hash := some s }
    else .error (.unexpectedMember name)
  | none, _ => .error (.unexpectedMember name)

/-- Reads the members of a document in their order; the first fault counts. -/
def readMembers (head : Head) : Object → Except ConfigFault Head
  | [] => .ok head
  | (name, v) :: rest =>
    match readMember head name v with
    | .error fault => .error fault
    | .ok head => readMembers head rest

/-- The section of a document, with the family it is for and the hash. -/
def sectionOf (o : Object) : Except ConfigFault (Family × Object × Option String) :=
  match readMembers ⟨none, .null, none⟩ o with
  | .error fault => .error fault
  | .ok head =>
    match head.family, head.content with
    | none, _ => .error .noSection
    | some family, .object content => .ok (family, content, head.hash)
    | some family, other => .error (.sectionNotObject family other.kind)

/-- The subnet entries of a section: those of its own list, then those of
each shared network. -/
def entries (family : Family) (content : Object) : List Value :=
  Subnet.entriesAt (.object content) (subnetsName family)
    ++ (Subnet.entriesAt (.object content) "shared-networks").flatMap
      (Subnet.entriesAt · (subnetsName family))

/-- **The snapshot of a configuration** and what is to be reported about its
entries. -/
def ofObject (o : Object) : Except ConfigFault (Snapshot × List Notice) :=
  match sectionOf o with
  | .error fault => .error fault
  | .ok (family, content, hash) =>
    let entries := entries family content
    .ok (⟨family, entries.filterMap fun e => (Subnet.ofEntry family e).toOption, hash⟩,
      entries.flatMap (Subnet.notices family))

/-- The snapshot of a configuration document. -/
def ofValue : Value → Except ConfigFault (Snapshot × List Notice)
  | .object o => ofObject o
  | other => .error (.notObject other.kind)

/-- The drift from one snapshot to another. -/
def drift? (before after : Snapshot) : Option Drift :=
  Drift.between? before.assignments after.assignments

end Snapshot

end KeaGauge.Kea
