import KeaGauge.Kea.Assignment
/-!
# Groupings

The prefixes of some assignments, grouped by the id they stand under. The ids
of a grouping are in ascending order, and every one of them has a prefix; the
prefixes of an id are in the order in which they were added.
-/

namespace KeaGauge.Kea

open Net (Cidr)

/-- Prefixes by id. -/
abbrev Grouping := List (Nat × List Cidr)

namespace Grouping

/-- The assignments of an id to prefixes. -/
def spread (id : Nat) (cidrs : List Cidr) : List Assignment := cidrs.map (⟨id, ·⟩)

/-- The assignments of a grouping. -/
def assignments (g : Grouping) : List Assignment := g.flatMap fun (id, cidrs) => spread id cidrs

/-- Adds a prefix to those of an id. -/
def add (a : Assignment) : Grouping → Grouping
  | [] => [(a.id, [a.cidr])]
  | (id, cidrs) :: rest =>
    if a.id < id then (a.id, [a.cidr]) :: (id, cidrs) :: rest
    else if a.id = id then (id, cidrs ++ [a.cidr]) :: rest
    else (id, cidrs) :: add a rest

/-- Groups assignments. -/
def ofAssignments (assignments : List Assignment) : Grouping :=
  assignments.foldl (fun g a => add a g) []

/-- The prefixes of an id, if it has any. -/
def get? (g : Grouping) (id : Nat) : Option (List Cidr) := g.lookup id

/-- The grouping without an id. -/
def erase (g : Grouping) (id : Nat) : Grouping := g.filter (·.1 ≠ id)

end Grouping

end KeaGauge.Kea
