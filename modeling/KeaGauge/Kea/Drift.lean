import KeaGauge.Kea.Grouping
/-!
# Drift

What changed between two sets of assignments. An id that lost exactly one
prefix and gained exactly one is re-prefixed; every other assignment that
only one of the sets has is removed or added.
-/

namespace KeaGauge.Kea

open Net (Cidr)

/-- An id and the prefixes it stood for before and after. -/
structure Reprefixed where
  id : Nat
  old : Cidr
  new : Cidr
deriving DecidableEq

namespace Reprefixed

/-- The assignment before. -/
def before (r : Reprefixed) : Assignment := ⟨r.id, r.old⟩

/-- The assignment after. -/
def after (r : Reprefixed) : Assignment := ⟨r.id, r.new⟩

/-- The text of the change. -/
def text (r : Reprefixed) : String :=
  "subnet[" ++ Nat.repr r.id ++ "] " ++ r.old.text ++ " -> " ++ r.new.text

end Reprefixed

/-- A difference of two sets of assignments. -/
structure Drift where
  added : List Assignment
  removed : List Assignment
  reprefixed : List Reprefixed
deriving DecidableEq

namespace Drift

/-- The drift of nothing. -/
def empty : Drift := ⟨[], [], []⟩

/-- Takes up an id that lost some prefixes and gained others: it is
re-prefixed when both are a single one. -/
def exchange (d : Drift) (id : Nat) : (old new : List Cidr) → Drift
  | [old], [new] => { d with reprefixed := d.reprefixed ++ [⟨id, old, new⟩] }
  | old, new =>
    { d with
      removed := d.removed ++ Grouping.spread id old
      added := d.added ++ Grouping.spread id new }

/-- Takes up an id that lost prefixes and gained none. -/
def remove (d : Drift) (id : Nat) (old : List Cidr) : Drift :=
  { d with removed := d.removed ++ Grouping.spread id old }

/-- Takes up ids that gained prefixes and lost none. -/
def addAll (d : Drift) (gained : Grouping) : Drift :=
  { d with added := d.added ++ gained.assignments }

/-- Puts what was added and what was removed in order. -/
def sort (d : Drift) : Drift :=
  { d with added := Assignment.sort d.added, removed := Assignment.sort d.removed }

/-- The drift as far as it is known, and the prefixes gained by the ids not
taken up yet. -/
structure Tally where
  drift : Drift
  gained : Grouping

/-- Takes up an id that lost prefixes. -/
def Tally.settle (t : Tally) : Nat × List Cidr → Tally
  | (id, old) =>
    match t.gained.get? id with
    | some new => ⟨t.drift.exchange id old new, t.gained.erase id⟩
    | none => ⟨t.drift.remove id old, t.gained⟩

/-- The drift of the assignments lost and gained: the ids that lost prefixes
are taken up one after the other, then the ids that are left. -/
def ofChanges (lost gained : List Assignment) : Drift :=
  let t := (Grouping.ofAssignments lost).foldl Tally.settle
    ⟨empty, Grouping.ofAssignments gained⟩
  (t.drift.addAll t.gained).sort

/-- **The drift from one set of assignments to another**, none when they are
equal. -/
def between? (before after : List Assignment) : Option Drift :=
  if before = after then none
  else some (ofChanges (Assignment.without before after) (Assignment.without after before))

/-- Whether an assignment was neither removed nor re-prefixed. -/
def isStable (d : Drift) (a : Assignment) : Bool :=
  !d.removed.contains a && !d.reprefixed.any (·.before = a)

/-- A part of the description, when there is anything in it. -/
def part (heading : String) (changes : List String) : List String :=
  if changes.isEmpty then [] else [heading ++ " " ++ ", ".intercalate changes]

/-- The drift in words. -/
def text (d : Drift) : String :=
  "; ".intercalate (part "added" (d.added.map (·.text))
    ++ part "removed" (d.removed.map (·.text))
    ++ part "re-prefixed" (d.reprefixed.map (·.text)))

end Drift

end KeaGauge.Kea
