import KeaGauge.Text.Charset
import KeaGauge.Text.Reader
/-!
# Media types

What an answer says its body is: a type, a subtype, and parameters behind
semicolons. Only the parameter that names a charset is of interest here.
-/

namespace KeaGauge.Net.MediaType

open Text (Reader Charset)

/-- The characters of names, and of values without quotes. -/
def isTokenChar (c : Char) : Bool :=
  c.isAlphanum || ['!', '#', '$', '%', '&', '\'', '*', '+', '-', '.', '^', '_', '\x60', '|', '~'].contains c

/-- What follows spaces. -/
def skipSpaces (cs : List Char) : List Char := cs.dropWhile (· = ' ')

/-- A value after its opening quote: at least one character, and all up to
the next quote. -/
def quoted? : Reader (List Char)
  | c :: rest =>
    let value := c :: rest.takeWhile (· ≠ '"')
    if value.all fun c => 0x1F < c.toNat ∧ c ≠ '\x7f' then
      (Text.after? '"' (rest.dropWhile (· ≠ '"'))).map (value, ·)
    else none
  | [] => none

/-- The value of a parameter. -/
def value? : Reader (List Char)
  | '"' :: rest => (quoted? rest).map fun (value, rest) => (value, skipSpaces rest)
  | ';' :: _ => none
  | cs => some (cs.takeWhile isTokenChar, cs.dropWhile isTokenChar)

/-- The parameters from a semicolon on, at most so many, their names in lower
case. -/
def parameters? : Nat → List Char → Option (List (List Char × List Char))
  | _, [] => some []
  | 0, _ => none
  | n + 1, cs => do
    match skipSpaces (← Text.after? ';' cs) with
    | [] => return []
    | cs =>
      let (name, cs) ← Text.run? isTokenChar cs
      let (value, cs) ← value? (← Text.after? '=' cs)
      return (name.map Char.toLower, value) :: (← parameters? n cs)

/-- The parameters of a media type; none of them counts when one is
malformed. -/
def parametersOf? (cs : List Char) : Option (List (List Char × List Char)) := do
  let (_, cs) ← Text.run? isTokenChar cs
  let cs ← Text.after? '/' cs
  let behind := cs.dropWhile isTokenChar
  if cs.head? = some ';' then none else parameters? behind.length behind

/-- **The charset that a media type names**; UTF-8 when it names none that is
known. -/
def charset (mediaType : String) : Charset :=
  let named := (parametersOf? mediaType.toList).bind (·.lookup "charset".toList)
  (named.bind Charset.ofLabel?).getD .utf8

end KeaGauge.Net.MediaType
