import KeaGauge.Net.Cidr
/-!
# Assignments

Kea names a subnet by an id. A configuration assigns ids to prefixes, and a
change of configuration may assign them anew; an id and a prefix together
tell whether a subnet is still the same. Sets of assignments are lists in
ascending order without repetition.
-/

namespace KeaGauge.Kea

open Net (Cidr)

/-- An id and the prefix it stands for. -/
structure Assignment where
  id : Nat
  cidr : Cidr
deriving DecidableEq

namespace Assignment

/-- Whether an assignment comes before another one: by id, then by prefix. -/
def precedes (a b : Assignment) : Bool :=
  a.id < b.id || (a.id = b.id && a.cidr.rank < b.cidr.rank)

/-- Puts an assignment into an ascending list, unless it is there. -/
def insert (a : Assignment) : List Assignment → List Assignment
  | [] => [a]
  | b :: rest =>
    if a.precedes b then a :: b :: rest
    else if a = b then b :: rest
    else b :: insert a rest

/-- The set of the assignments of a list. -/
def setOf (assignments : List Assignment) : List Assignment :=
  assignments.foldr insert []

/-- Puts an assignment into an ascending list, in front of those that it does
not come after. -/
def place (a : Assignment) : List Assignment → List Assignment
  | [] => [a]
  | b :: rest => if b.precedes a then b :: place a rest else a :: b :: rest

/-- The assignments of a list in ascending order. -/
def sort (assignments : List Assignment) : List Assignment :=
  assignments.foldr place []

/-- The assignments of a list that a second list has not. -/
def without (assignments others : List Assignment) : List Assignment :=
  assignments.filter fun a => !others.contains a

@[simp]
theorem mem_insert {a b : Assignment} {set : List Assignment} :
    a ∈ insert b set ↔ a = b ∨ a ∈ set := by
  induction set with
  | nil => simp [insert]
  | cons c rest ih =>
    unfold insert
    split
    · simp
    · split
      · next h => simp [h]
      · simp only [List.mem_cons, ih]
        exact or_left_comm

/-- The set of a list has the same assignments. -/
@[simp]
theorem mem_setOf {a : Assignment} {assignments : List Assignment} :
    a ∈ setOf assignments ↔ a ∈ assignments := by
  induction assignments with
  | nil => simp [setOf]
  | cons b rest ih =>
    change a ∈ insert b (setOf rest) ↔ a ∈ b :: rest
    simp [ih]

@[simp]
theorem mem_without {a : Assignment} {assignments others : List Assignment} :
    a ∈ without assignments others ↔ a ∈ assignments ∧ a ∉ others := by
  simp [without]

/-- The text of an assignment. -/
def text (a : Assignment) : String :=
  "subnet[" ++ Nat.repr a.id ++ "] " ++ a.cidr.text

end Assignment

end KeaGauge.Kea
