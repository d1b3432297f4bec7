import KeaGauge.Toml.Literal
import KeaGauge.Toml.Scalar
import KeaGauge.Toml.Table
/-!
# Reading TOML documents

A document is a sequence of lines, each empty or with one statement, and each
with a possible comment at its end. `Toml.parse?` gives the table that the
statements build. At most 79 lists and inline tables may be open at once, and
a key has at most 79 parts.
-/

namespace KeaGauge.Toml

open Text (Reader)

/-- How many containers may be open at once, and how many parts a key may
have. -/
def maxDepth : Nat := 79

/-! ## Keys -/

/-- The characters of a key without quotes. -/
def isKeyChar (c : Char) : Bool := c.isAlphanum || c = '_' || c = '-'

/-- One part of a key. -/
def keyPart? : Reader String := fun cs =>
  (lineString? cs).orElse fun _ =>
    (Text.run? isKeyChar cs).map fun (run, rest) => (String.ofList run, rest)

/-- The parts of a key, at most so many, with points and possible blanks
between them. -/
def keyParts? : Nat → Reader (List String)
  | 0, _ => none
  | n + 1, cs => do
    let (part, cs) ← keyPart? (skipBlanks cs)
    match skipBlanks cs with
    | '.' :: rest =>
      let (more, rest) ← keyParts? n rest
      return (part :: more, rest)
    | cs => return ([part], cs)

/-- A key and the blanks around it. -/
def key? : Reader Key := fun cs => do
  let (parts, rest) ← keyParts? maxDepth cs
  return (⟨parts.dropLast, ← parts.getLast?⟩, rest)

/-! ## Values -/

/-- What follows the blanks, line breaks and comments; the bound is on the
number of lines. -/
def skipGap : Nat → List Char → List Char
  | 0, cs => cs
  | n + 1, cs =>
    match skipBlanks cs with
    | '#' :: rest => skipGap n (rest.dropWhile isPlain)
    | cs =>
      match afterBreak? cs with
      | some rest => skipGap n rest
      | none => cs

/-- What follows the blanks, line breaks and comments. -/
def afterGap (cs : List Char) : List Char := skipGap (cs.length + 1) cs

/-- The items of a list up to its closing bracket, where `item?` reads an
item. The bound is on their number. -/
def items? (item? : Reader Value) : Nat → Reader (List Value)
  | 0, _ => none
  | n + 1, cs =>
    match afterGap cs with
    | ']' :: rest => some ([], rest)
    | cs => do
      let (v, cs) ← item? cs
      match afterGap cs with
      | ']' :: rest => return ([v], rest)
      | ',' :: rest =>
        let (vs, rest) ← items? item? n rest
        return (v :: vs, rest)
      | _ => none

/-- A key, the sign of equality and a value, where `item?` reads a value. -/
def assigned? (item? : Reader Value) : Reader (Key × Value) := fun cs => do
  let (key, cs) ← key? cs
  let (v, cs) ← item? (skipBlanks (← Text.after? '=' cs))
  return ((key, v), skipBlanks cs)

/-- The entries of an inline table up to its closing brace. At least one
entry; the bound is on their number. -/
def entries? (item? : Reader Value) (entries : Entries) : Nat → Reader Entries
  | 0, _ => none
  | n + 1, cs => do
    let ((key, v), cs) ← assigned? item? cs
    let entries ← entries.set? key v
    match cs with
    | '\x7d' :: rest => return (entries, rest)
    | ',' :: rest => entries? item? entries n rest
    | _ => none

/-- An inline table after its opening brace. -/
def inlineTable? (item? : Reader Value) : Reader Value := fun cs =>
  match skipBlanks cs with
  | '\x7d' :: rest => some (.table [], rest)
  | cs => (entries? item? [] (cs.length + 1) cs).map fun (entries, rest) =>
    (.table (finishEntries entries), rest)

/-- A value that opens no container. -/
def plain? : Reader Value := fun cs =>
  match cs with
  | '"' :: _ | '\'' :: _ => (string? cs).map fun (s, rest) => (.text s, rest)
  | cs => scalar? cs

/-- A value in which at most `depth` containers are open at once. -/
def value? : (depth : Nat) → Reader Value
  | 0 => plain?
  | depth + 1 => fun cs =>
    match cs with
    | '[' :: rest =>
      (items? (value? depth) (rest.length + 1) rest).map fun (vs, rest) => (.list vs, rest)
    | '\x7b' :: rest => inlineTable? (value? depth) rest
    | cs => plain? cs

/-! ## Documents -/

/-- What follows the end of a line, a comment in front of it allowed. -/
def afterLine? (cs : List Char) : Option (List Char) :=
  let cs := match skipBlanks cs with
    | '#' :: rest => rest.dropWhile isPlain
    | cs => cs
  if cs.isEmpty then some [] else afterBreak? cs

/-- One line of a document: its effect on the draft, and what follows. -/
def line? (d : Draft) : Reader Draft := fun cs =>
  match skipBlanks cs with
  | '[' :: '[' :: rest => do
    let (key, cs) ← key? rest
    let rest ← afterLine? (← Text.after? ']' (← Text.after? ']' cs))
    return (← d.openElement? key, rest)
  | '[' :: rest => do
    let (key, cs) ← key? rest
    let rest ← afterLine? (← Text.after? ']' cs)
    return (← d.openTable? key, rest)
  | cs =>
    match afterLine? cs with
    | some rest => some (d, rest)
    | none => do
      let ((key, v), cs) ← assigned? (value? maxDepth) cs
      let rest ← afterLine? cs
      return (← d.set? key v, rest)

/-- The lines of a document, at most so many. -/
def lines? : Nat → Draft → List Char → Option Draft
  | _, d, [] => some d
  | 0, _, _ => none
  | n + 1, d, cs => do
    let (d, rest) ← line? d cs
    lines? n d rest

/-- **The table that a document is**, a byte-order mark in front of it
allowed. -/
def parseChars? (cs : List Char) : Option (List (String × Value)) := do
  let cs := match cs with
    | '\ufeff' :: rest => rest
    | cs => cs
  let d ← lines? (cs.length + 1) .empty cs
  return finishEntries (← d.close?)

/-- The table that a document is. -/
def parse? (s : String) : Option (List (String × Value)) := parseChars? s.toList

end KeaGauge.Toml
