/-!
# Result codes

Every answer of a Control Agent carries an integer result. Zero is success;
four more have a fixed meaning.
-/

namespace KeaGauge.Kea

/-- The results with a fixed meaning. -/
inductive Status where
  | success
  | error
  | unsupported
  | empty
  | conflict
deriving DecidableEq, Repr

namespace Status

/-- The code of a result. -/
def code : Status → Int
  | success => 0
  | error => 1
  | unsupported => 2
  | empty => 3
  | conflict => 4

/-- The result of a code. -/
def ofCode? (n : Int) : Option Status :=
  [success, error, unsupported, empty, conflict].find? (·.code = n)

/-- The name of a result. -/
def name : Status → String
  | success => "Success"
  | error => "Error"
  | unsupported => "Unsupported"
  | empty => "Empty"
  | conflict => "Conflict"

end Status

end KeaGauge.Kea
