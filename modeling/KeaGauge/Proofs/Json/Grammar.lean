import KeaGauge.Json.Reader
/-!
# The grammar of JSON

Which texts spell which values, said without the functions that read them. A
text spells a numeral, a character of a string, a scalar, a list or an object
when it is put together from parts that do, and a value in which at most so
many containers are open at once is spelled (`Spells`) by recursion on that
number. A document is such a value with white space around it
(`IsDocument`).
-/

namespace KeaGauge.Json

/-- White space, or nothing. -/
def IsBlank (cs : List Char) : Prop := ∀ c ∈ cs, isSpace c = true

theorem IsBlank.nil : IsBlank [] := fun _ hc => absurd hc List.not_mem_nil

/-! ## Numerals -/

/-- A run of decimal digits, at least one. -/
structure IsDigits (cs : List Char) : Prop where
  ne_nil : cs ≠ []
  digits : ∀ c ∈ cs, c.isDigit = true

/-- The digits before the point: no zero leads others. -/
structure IsWhole (cs : List Char) : Prop extends IsDigits cs where
  leading : cs.head? = some '0' → cs = ['0']

/-- The fraction of a numeral, which may be absent. -/
inductive SpellsFraction : List Char → Option (List Char) → Prop where
  | absent : SpellsFraction [] none
  | digits {run : List Char} (h : IsDigits run) : SpellsFraction ('.' :: run) (some run)

/-- The sign of an exponent, which may be absent: whether it is negative. -/
inductive SpellsSign : List Char → Bool → Prop where
  | absent : SpellsSign [] false
  | plus : SpellsSign ['+'] false
  | minus : SpellsSign ['-'] true

/-- The exponent of a numeral, which may be absent. -/
inductive SpellsExponent : List Char → Option Int → Prop where
  | absent : SpellsExponent [] none
  | digits {mark : Char} {sign run : List Char} {negative : Bool} (letter : mark = 'e' ∨ mark = 'E')
      (signed : SpellsSign sign negative) (h : IsDigits run) :
      SpellsExponent (mark :: (sign ++ run))
        (some (if negative then -(Text.ofDigits 10 run : Int) else Text.ofDigits 10 run))

/-- A numeral behind its sign. -/
inductive SpellsUnsigned (negative : Bool) : List Char → Numeral → Prop where
  | parts {whole point mark : List Char} {fraction : Option (List Char)} {exponent : Option Int}
      (before : IsWhole whole) (after : SpellsFraction point fraction)
      (scale : SpellsExponent mark exponent) :
      SpellsUnsigned negative (whole ++ (point ++ mark)) ⟨negative, whole, fraction, exponent⟩

/-- **A numeral**: an optional hyphen, digits, a fraction and an exponent. -/
inductive SpellsNumeral : List Char → Numeral → Prop where
  | positive {text : List Char} {x : Numeral} (h : SpellsUnsigned false text x) :
      SpellsNumeral text x
  | negative {text : List Char} {x : Numeral} (h : SpellsUnsigned true text x) :
      SpellsNumeral ('-' :: text) x

/-! ## Strings -/

/-- Four hexadecimal digits and the code unit that they name. -/
structure SpellsUnit (cs : List Char) (unit : Nat) : Prop where
  length : cs.length = 4
  digits : ∀ c ∈ cs, Text.isDigitIn 16 c = true
  value : Text.ofDigits 16 cs = unit

/-- **A character in a string literal**: itself, unless it is a quote, a
backslash or a control character, or an escape. A code unit that is a
surrogate stands in a pair only. -/
inductive SpellsChar : List Char → Char → Prop where
  | plain {c : Char} (quote : c ≠ '"') (backslash : c ≠ '\\') (printable : 0x20 ≤ c.toNat) :
      SpellsChar [c] c
  | letter {c d : Char} (h : simpleEscape? d = some c) : SpellsChar ['\\', d] c
  | unit {cs : List Char} {unit : Nat} (h : SpellsUnit cs unit)
      (alone : unit < 0xD800 ∨ 0xE000 ≤ unit) : SpellsChar ('\\' :: 'u' :: cs) (Char.ofNat unit)
  | pair {cs ds : List Char} {high low : Nat} (upper : SpellsUnit cs high)
      (isUpper : 0xD800 ≤ high ∧ high < 0xDC00) (lower : SpellsUnit ds low)
      (isLower : 0xDC00 ≤ low ∧ low < 0xE000) :
      SpellsChar ('\\' :: 'u' :: (cs ++ '\\' :: 'u' :: ds))
        (Char.ofNat (0x10000 + (high - 0xD800) * 0x400 + (low - 0xDC00)))

/-- The characters between the quotes of a string literal. -/
inductive SpellsContent : List Char → List Char → Prop where
  | nil : SpellsContent [] []
  | cons {text more : List Char} {c : Char} {cs : List Char} (here : SpellsChar text c)
      (rest : SpellsContent more cs) : SpellsContent (text ++ more) (c :: cs)

/-- A string literal. -/
inductive SpellsString : List Char → String → Prop where
  | quoted {text s : List Char} (h : SpellsContent text s) :
      SpellsString ('"' :: (text ++ ['"'])) (String.ofList s)

/-! ## Values -/

/-- **A value that opens no container.** A numeral beyond the largest number
spells none. -/
inductive SpellsScalar : List Char → Value → Prop where
  | null : SpellsScalar "null".toList .null
  | isTrue : SpellsScalar "true".toList (.bool true)
  | isFalse : SpellsScalar "false".toList (.bool false)
  | string {text : List Char} {s : String} (h : SpellsString text s) :
      SpellsScalar text (.string s)
  | numeral {text : List Char} {x : Numeral} {v : Value} (h : SpellsNumeral text x)
      (value : x.value? = some v) : SpellsScalar text v

section Containers

variable {α : Type}

/-- Something spelled with white space around it. -/
inductive Padded (spells : List Char → α → Prop) : List Char → α → Prop where
  | mk {left text right : List Char} {a : α} (before : IsBlank left) (h : spells text a)
      (after : IsBlank right) : Padded spells (left ++ (text ++ right)) a

/-- Elements with commas between them, at least one, white space around each
allowed. -/
inductive Separated (spells : List Char → α → Prop) : List Char → List α → Prop where
  | one {text : List Char} {a : α} (h : Padded spells text a) : Separated spells text [a]
  | more {text more : List Char} {a : α} {as : List α} (h : Padded spells text a)
      (rest : Separated spells more as) : Separated spells (text ++ ',' :: more) (a :: as)

/-- A member of an object: its name and its value, a colon between them. -/
inductive SpellsMember (spells : List Char → Value → Prop) :
    List Char → String × Value → Prop where
  | mk {literal before after text : List Char} {name : String} {v : Value}
      (named : SpellsString literal name) (left : IsBlank before) (right : IsBlank after)
      (h : spells text v) :
      SpellsMember spells (literal ++ (before ++ ':' :: (after ++ text))) (name, v)

/-- **A list or an object.** Of members of one name the last one counts. -/
inductive SpellsContainer (spells : List Char → Value → Prop) : List Char → Value → Prop where
  | emptyList {blank : List Char} (h : IsBlank blank) :
      SpellsContainer spells ('[' :: (blank ++ [']'])) (.list [])
  | list {text : List Char} {items : List Value} (h : Separated spells text items) :
      SpellsContainer spells ('[' :: (text ++ [']'])) (.list items)
  | emptyObject {blank : List Char} (h : IsBlank blank) :
      SpellsContainer spells ('\x7b' :: (blank ++ ['\x7d'])) (.object [])
  | object {text : List Char} {members : List (String × Value)}
      (h : Separated (SpellsMember spells) text members) :
      SpellsContainer spells ('\x7b' :: (text ++ ['\x7d'])) (.ofMembers members)

end Containers

/-- **A value in which at most `depth` containers are open at once.** -/
def Spells : (depth : Nat) → List Char → Value → Prop
  | 0 => SpellsScalar
  | depth + 1 => fun text v => SpellsScalar text v ∨ SpellsContainer (Spells depth) text v

/-- **A JSON document of a value.** -/
def IsDocument (s : String) (v : Value) : Prop := Padded (Spells maxDepth) s.toList v

/-! ## How a text begins -/

/-- A text that begins with a character of a class. -/
def BeginsWith (p : Char → Prop) (cs : List Char) : Prop := ∃ c rest, cs = c :: rest ∧ p c

theorem BeginsWith.append {p : Char → Prop} {cs : List Char} (h : BeginsWith p cs)
    (rest : List Char) : BeginsWith p (cs ++ rest) := by
  obtain ⟨c, more, rfl, hc⟩ := h
  exact ⟨c, more ++ rest, rfl, hc⟩

/-- What a value may begin with: no white space, and nothing that closes a
container. -/
def IsOpening (c : Char) : Prop := isSpace c = false ∧ c ≠ ']' ∧ c ≠ '\x7d'

instance (c : Char) : Decidable (IsOpening c) := inferInstanceAs (Decidable (_ ∧ _))

end KeaGauge.Json
