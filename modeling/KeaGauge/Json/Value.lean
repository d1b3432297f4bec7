import KeaGauge.Binary64
/-!
# JSON values

A JSON document as a value. Integers are kept exactly and apart from numbers
with a fraction or an exponent; the members of an object are held in
ascending order of their names, each name once.
-/

namespace KeaGauge.Json

/-- A JSON value. -/
inductive Value where
  | null
  | bool (b : Bool)
  | int (n : Int)
  | float (x : Binary64)
  | string (s : String)
  | list (items : List Value)
  | object (members : List (String × Value))
deriving Inhabited, Repr

/-- The members of an object, in ascending order of their names. -/
abbrev Object := List (String × Value)

namespace Object

/-- The object without members. -/
def empty : Object := []

/-- Sets a member. A member of that name is replaced. -/
def insert (o : Object) (name : String) (v : Value) : Object :=
  match o with
  | [] => [(name, v)]
  | (other, w) :: rest =>
    if name < other then (name, v) :: (other, w) :: rest
    else if name = other then (name, v) :: rest
    else (other, w) :: insert rest name v

/-- The object of the given members; of two members of one name the later
one stays. -/
def ofMembers (members : List (String × Value)) : Object :=
  members.foldl (fun o m => o.insert m.1 m.2) empty

/-- The member of a name. -/
def get? (o : Object) (name : String) : Option Value :=
  List.lookup name o

theorem get?_cons (found : String) (w : Value) (rest : Object) (name : String) :
    get? ((found, w) :: rest) name = if name = found then some w else get? rest name := by
  unfold get?
  by_cases h : name = found
  · simp [h]
  · have hbeq : (name == found) = false := beq_false_of_ne h
    simp [List.lookup_cons, hbeq, h]

/-- **The last write of a name counts**, and writes to other names do not
touch it. -/
theorem get?_insert (o : Object) (name other : String) (v : Value) :
    (o.insert name v).get? other = if other = name then some v else o.get? other := by
  induction o with
  | nil => simp [insert, get?_cons]
  | cons m rest ih =>
    obtain ⟨found, w⟩ := m
    unfold insert
    split
    · simp [get?_cons]
    · split
      · next h =>
        subst h
        by_cases hn : other = name <;> simp [get?_cons, hn]
      · next h =>
        simp only [get?_cons, ih]
        by_cases hn : other = name
        · subst hn
          simp [h]
        · simp [hn]

end Object

namespace Value

/-- An object of the given members, the later of two of one name. -/
def ofMembers (members : List (String × Value)) : Value :=
  .object (Object.ofMembers members)

/-- The member of a name, when the value is an object that has it. -/
def get? (v : Value) (name : String) : Option Value :=
  match v with
  | .object o => Object.get? o name
  | _ => none

/-- The items, when the value is a list. -/
def items? : Value → Option (List Value)
  | .list items => some items
  | _ => none

/-- The text, when the value is a string. -/
def text? : Value → Option String
  | .string s => some s
  | _ => none

/-- The truth value, when the value is one. -/
def bool? : Value → Option Bool
  | .bool b => some b
  | _ => none

/-- The integer, when the value is one that 64 signed bits hold. -/
def int64? : Value → Option Int
  | .int n => if -0x8000000000000000 ≤ n ∧ n < 0x8000000000000000 then some n else none
  | _ => none

/-- The number, when the value is an integer that is not negative. -/
def nat? : Value → Option Nat
  | .int (.ofNat n) => some n
  | _ => none

/-- What kind of value this is, with its article. -/
def kind : Value → String
  | .null => "null"
  | .bool _ => "a boolean"
  | .int _ | .float _ => "a number"
  | .string _ => "a string"
  | .list _ => "a list"
  | .object _ => "an object"

/-- The value of a natural number. -/
def ofNat (n : Nat) : Value := .int n

/-- The list of strings. -/
def ofTexts (texts : List String) : Value := .list (texts.map .string)

end Value

end KeaGauge.Json
