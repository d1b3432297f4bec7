import KeaGauge.Text.Numeral
import KeaGauge.Text.Reader
/-!
# String literals of TOML

A string stands between quotes, in which a backslash starts an escape, or
between apostrophes, in which nothing does. Three quotes or apostrophes
delimit a string that may run over several lines; a line break right after
the opening delimiter is no part of it, and every line break in it is read as
one line feed.
-/

namespace KeaGauge.Toml

open Text (Reader)

/-- The blanks of TOML. -/
def isBlank (c : Char) : Bool := c = ' ' || c = '\t'

/-- What follows the blanks. -/
def skipBlanks (cs : List Char) : List Char := cs.dropWhile isBlank

/-- The characters that comments and strings may hold as they are: all but
control characters, the tab excepted. -/
def isPlain (c : Char) : Bool := c = '\t' || (0x20 ≤ c.toNat && c ≠ '\x7f')

/-- What follows a line break. -/
def afterBreak? : List Char → Option (List Char)
  | '\n' :: rest => some rest
  | '\r' :: '\n' :: rest => some rest
  | _ => none

/-- The character of a code point written in hexadecimal digits. -/
def codePoint? (count : Nat) : Reader Char := fun cs =>
  let digits := cs.take count
  let n := Text.ofDigits 16 digits
  if digits.length = count ∧ digits.all (Text.isDigitIn 16) ∧ n.isValidChar then
    some (Char.ofNat n, cs.drop count)
  else none

/-- The character of an escape, after its backslash. -/
def escape? : Reader Char
  | 'b' :: rest => some ('\x08', rest)
  | 't' :: rest => some ('\t', rest)
  | 'n' :: rest => some ('\n', rest)
  | 'f' :: rest => some ('\x0c', rest)
  | 'r' :: rest => some ('\r', rest)
  | '"' :: rest => some ('"', rest)
  | '\\' :: rest => some ('\\', rest)
  | 'u' :: rest => codePoint? 4 rest
  | 'U' :: rest => codePoint? 8 rest
  | _ => none

/-- What follows blanks, a line break, and all blanks and line breaks behind
it: what a backslash at the end of a line passes over. -/
def afterContinuation? (cs : List Char) : Option (List Char) :=
  (afterBreak? (skipBlanks cs)).map (dropBreaks cs.length)
where
  /-- What follows the blanks and line breaks, at most so many of them. -/
  dropBreaks : Nat → List Char → List Char
  | 0, cs => cs
  | n + 1, cs =>
    match afterBreak? (skipBlanks cs) with
    | some rest => dropBreaks n rest
    | none => skipBlanks cs

/-- The content of a string on one line, after its opening quote. The bound
is on its number of characters. -/
def lineContent? (quote : Char) (escapes : Bool) : Nat → Reader (List Char)
  | 0, _ => none
  | _ + 1, [] => none
  | n + 1, c :: rest =>
    if c = quote then some ([], rest)
    else if escapes ∧ c = '\\' then do
      let (d, rest) ← escape? rest
      let (ds, rest) ← lineContent? quote escapes n rest
      return (d :: ds, rest)
    else if isPlain c then do
      let (ds, rest) ← lineContent? quote escapes n rest
      return (c :: ds, rest)
    else none

/-- The content of a string over several lines, after its opening delimiter.
One or two quotes are content; of a run of three to five the last three close
the string. The bound is on its number of characters. -/
def linesContent? (quote : Char) (escapes : Bool) : Nat → Reader (List Char)
  | 0, _ => none
  | _ + 1, [] => none
  | n + 1, c :: rest =>
    let more (ds : List Char) (rest : List Char) : Option (List Char × List Char) := do
      let (es, rest) ← linesContent? quote escapes n rest
      return (ds ++ es, rest)
    if c = quote then
      let run := ((c :: rest).takeWhile (· = quote)).length
      if run < 3 then more (List.replicate run quote) (rest.drop (run - 1))
      else
        let extra := min (run - 3) 2
        some (List.replicate extra quote, rest.drop (extra + 2))
    else if escapes ∧ c = '\\' then
      match afterContinuation? rest with
      | some rest => more [] rest
      | none => do
        let (d, rest) ← escape? rest
        more [d] rest
    else
      match afterBreak? (c :: rest) with
      | some rest => more ['\n'] rest
      | none => if isPlain c then more [c] rest else none

/-- A string on one line. -/
def lineString? : Reader String := fun cs =>
  match cs with
  | '"' :: rest => text (lineContent? '"' true (cs.length + 1) rest)
  | '\'' :: rest => text (lineContent? '\'' false (cs.length + 1) rest)
  | _ => none
where
  /-- The text of the characters read. -/
  text (found : Option (List Char × List Char)) : Option (String × List Char) :=
    found.map fun (s, rest) => (String.ofList s, rest)

/-- A string over several lines, after its opening delimiter. -/
def linesString? (quote : Char) (escapes : Bool) : Reader String := fun cs =>
  let cs := (afterBreak? cs).getD cs
  (linesContent? quote escapes (cs.length + 1) cs).map fun (s, rest) => (String.ofList s, rest)

/-- A string. -/
def string? : Reader String := fun cs =>
  match cs with
  | '"' :: '"' :: '"' :: rest => linesString? '"' true rest
  | '\'' :: '\'' :: '\'' :: rest => linesString? '\'' false rest
  | cs => lineString? cs

end KeaGauge.Toml
