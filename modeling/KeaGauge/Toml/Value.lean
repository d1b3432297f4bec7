/-!
# TOML values

What a TOML document can say. Tables keep their entries in the order in
which the document gives them. Fractional numbers and points in time are kept
as they are written.
-/

namespace KeaGauge.Toml

/-- A TOML value. -/
inductive Value where
  | text (s : String)
  | integer (n : Int)
  | float (written : String)
  | boolean (b : Bool)
  | moment (written : String)
  | list (items : List Value)
  | table (entries : List (String × Value))
deriving Inhabited, Repr

end KeaGauge.Toml
