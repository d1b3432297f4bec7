import KeaGauge.Proofs.Json.Grammar
import KeaGauge.Proofs.Text.Numeral
import Mathlib.Data.List.DropRight
import Mathlib.Data.List.TakeWhile
/-!
# Scalars are read as they are spelled

The readers of JSON take off the front of a text what spells the value they
give (`Sound`), and what spells a value is read as it, whatever follows, as
long as that is no part of a numeral (`Complete`). Here this is proved of the
readers that open no container, from white space up to `scalar?`.

The readers have bounds on runs. A bound is large enough for a text that it
exceeds in characters.
-/

namespace KeaGauge.Json

open Text (Reader)

section Readers

variable {α : Type}

/-- **A reader is sound**: what it takes off the front spells what it
gives. -/
def Sound (read? : Reader α) (spells : List Char → α → Prop) : Prop :=
  ∀ ⦃cs a rest⦄, read? cs = some (a, rest) → ∃ text, cs = text ++ rest ∧ spells text a

/-- What follows is no part of a numeral. -/
def EndsNumeral (rest : List Char) : Prop :=
  ∀ c ∈ rest.head?, c.isDigit = false ∧ c ≠ '.' ∧ c ≠ 'e' ∧ c ≠ 'E'

theorem EndsNumeral.nil : EndsNumeral [] := fun _ hc => absurd hc (by simp)

/-- A character that is no part of a numeral ends one. -/
theorem EndsNumeral.cons {c : Char} (h : c.isDigit = false ∧ c ≠ '.' ∧ c ≠ 'e' ∧ c ≠ 'E')
    (rest : List Char) : EndsNumeral (c :: rest) := by
  intro d hd
  obtain rfl : c = d := Option.some.inj hd
  exact h

/-- **A reader is complete** for texts that are shorter than a bound: it reads
what they spell, whatever follows that is no part of a numeral. -/
def Complete (read? : Reader α) (spells : List Char → α → Prop) (bound : Nat) : Prop :=
  ∀ ⦃text a⦄, spells text a → text.length < bound → ∀ ⦃rest⦄, EndsNumeral rest →
    read? (text ++ rest) = some (a, rest)

end Readers

/-! ## White space -/

theorem skipSpace_spec (cs : List Char) : ∃ blank, IsBlank blank ∧ cs = blank ++ skipSpace cs :=
  ⟨cs.takeWhile isSpace, fun _ hc => List.mem_takeWhile_imp hc,
    (List.takeWhile_append_dropWhile ..).symm⟩

theorem IsBlank.skipSpace_append {blank : List Char} (h : IsBlank blank) (rest : List Char) :
    skipSpace (blank ++ rest) = skipSpace rest :=
  List.dropWhile_append_of_pos h

theorem skipSpace_cons {c : Char} (h : isSpace c = false) (rest : List Char) :
    skipSpace (c :: rest) = c :: rest := by
  simp [skipSpace, List.dropWhile, h]

theorem skipSpace_skipSpace (cs : List Char) : skipSpace (skipSpace cs) = skipSpace cs :=
  List.dropWhile_idempotent isSpace cs

/-- Something that is not white space comes after white space. -/
theorem IsBlank.skipSpace_cons {blank : List Char} (h : IsBlank blank) {c : Char}
    (hc : isSpace c = false) (rest : List Char) : skipSpace (blank ++ c :: rest) = c :: rest := by
  rw [h.skipSpace_append, Json.skipSpace_cons hc]

theorem IsBlank.endsNumeral_append {blank rest : List Char} (h : IsBlank blank)
    (hrest : EndsNumeral rest) : EndsNumeral (blank ++ rest) := by
  cases blank with
  | nil => exact hrest
  | cons c more =>
    have hc := h c List.mem_cons_self
    simp only [isSpace, Bool.or_eq_true, decide_eq_true_eq] at hc
    refine .cons ?_ _
    rcases hc with ((rfl | rfl) | rfl) | rfl <;> decide

/-! ## Numerals -/

theorem run?_eq_some_iff {p : Char → Bool} {cs run rest : List Char} :
    Text.run? p cs = some (run, rest) ↔
      cs = run ++ rest ∧ run ≠ [] ∧ (∀ c ∈ run, p c = true) ∧ ∀ c ∈ rest.head?, p c = false := by
  constructor
  · intro h
    simp only [Text.run?] at h
    split at h
    · exact absurd h (by simp)
    · next hne =>
      obtain ⟨rfl, rfl⟩ := Prod.mk.inj (Option.some.inj h)
      refine ⟨(List.takeWhile_append_dropWhile ..).symm, by simpa using hne,
        fun c hc => List.mem_takeWhile_imp hc, fun c hc => ?_⟩
      have hhead := List.head?_dropWhile_not p cs
      rw [Option.mem_def.1 hc] at hhead
      exact hhead
  · rintro ⟨rfl, hne, hrun, hrest⟩
    exact Text.run?_append hne hrun hrest

theorem digits?_eq_some_iff {cs run rest : List Char} :
    digits? cs = some (run, rest) ↔
      cs = run ++ rest ∧ IsDigits run ∧ ∀ c ∈ rest.head?, c.isDigit = false := by
  rw [digits?, run?_eq_some_iff]
  constructor
  · rintro ⟨rfl, hne, hrun, hrest⟩
    exact ⟨rfl, ⟨hne, hrun⟩, hrest⟩
  · rintro ⟨rfl, ⟨hne, hrun⟩, hrest⟩
    exact ⟨rfl, hne, hrun, hrest⟩

theorem whole?_eq_some {cs whole rest : List Char} (h : whole? cs = some (whole, rest)) :
    cs = whole ++ rest ∧ IsWhole whole := by
  rw [whole?.eq_def] at h
  split at h
  · next more =>
    obtain ⟨rfl, rfl⟩ := Prod.mk.inj (Option.some.inj h)
    exact ⟨rfl, ⟨by simp, by simp⟩, fun _ => rfl⟩
  · next hzero =>
    obtain ⟨rfl, hdigits, -⟩ := digits?_eq_some_iff.1 h
    refine ⟨rfl, hdigits, fun hhead => ?_⟩
    obtain ⟨more, rfl⟩ := List.head?_eq_some_iff.1 hhead
    exact absurd rfl (hzero _)

theorem whole?_append {whole rest : List Char} (h : IsWhole whole)
    (hrest : ∀ c ∈ rest.head?, c.isDigit = false) :
    whole? (whole ++ rest) = some (whole, rest) := by
  by_cases hzero : whole.head? = some '0'
  · rw [h.leading hzero]
    rfl
  · rw [whole?]
    · exact digits?_eq_some_iff.2 ⟨rfl, h.toIsDigits, hrest⟩
    · intro more hmore
      obtain ⟨c, cs, rfl⟩ := List.exists_cons_of_ne_nil h.ne_nil
      exact hzero (congrArg some (List.cons.inj hmore).1)

theorem fraction?_sound : Sound fraction? SpellsFraction := by
  intro cs fraction rest h
  rw [fraction?.eq_def] at h
  split at h
  · next more =>
    obtain ⟨⟨run, rest⟩, hrun, hpair⟩ := Option.map_eq_some_iff.1 h
    obtain ⟨rfl, rfl⟩ := Prod.mk.inj hpair
    obtain ⟨rfl, hdigits, -⟩ := digits?_eq_some_iff.1 hrun
    exact ⟨'.' :: run, rfl, .digits hdigits⟩
  · obtain ⟨rfl, rfl⟩ := Prod.mk.inj (Option.some.inj h)
    exact ⟨[], rfl, .absent⟩

theorem fraction?_append {point rest : List Char} {fraction : Option (List Char)}
    (h : SpellsFraction point fraction)
    (hrest : ∀ c ∈ rest.head?, c.isDigit = false ∧ c ≠ '.') :
    fraction? (point ++ rest) = some (fraction, rest) := by
  cases h with
  | absent =>
    rw [List.nil_append, fraction?]
    intro more hmore
    exact (hrest '.' (by rw [hmore]; rfl)).2 rfl
  | @digits run hdigits =>
    have hrun := digits?_eq_some_iff.2 ⟨rfl, hdigits, fun c hc => (hrest c hc).1⟩
    rw [List.cons_append, fraction?, hrun]
    rfl

theorem exponentSign_sound (cs : List Char) :
    ∃ sign, cs = sign ++ (exponentSign cs).2 ∧ SpellsSign sign (exponentSign cs).1 := by
  rw [exponentSign.eq_def]
  split
  · exact ⟨['+'], rfl, .plus⟩
  · exact ⟨['-'], rfl, .minus⟩
  · exact ⟨[], rfl, .absent⟩

theorem exponentSign_append {sign run rest : List Char} {negative : Bool}
    (h : SpellsSign sign negative) (hrun : IsDigits run) :
    exponentSign (sign ++ (run ++ rest)) = (negative, run ++ rest) := by
  cases h with
  | absent =>
    obtain ⟨c, more, rfl⟩ := List.exists_cons_of_ne_nil hrun.ne_nil
    have hc := hrun.digits c List.mem_cons_self
    rw [List.nil_append, List.cons_append, exponentSign.eq_def]
    -- a digit is no sign
    split
    · obtain rfl := (List.cons.inj ‹_›).1
      exact absurd hc (by decide)
    · obtain rfl := (List.cons.inj ‹_›).1
      exact absurd hc (by decide)
    · rfl
  | plus => rfl
  | minus => rfl

theorem exponent?_sound : Sound exponent? SpellsExponent := by
  intro cs exponent rest h
  cases cs with
  | nil =>
    obtain ⟨rfl, rfl⟩ := Prod.mk.inj (Option.some.inj h)
    exact ⟨[], rfl, .absent⟩
  | cons c cs =>
    obtain ⟨sign, hsign, signed⟩ := exponentSign_sound cs
    rw [exponent?] at h
    generalize exponentSign cs = found at h hsign signed
    obtain ⟨negative, more⟩ := found
    split at h
    · next letter =>
      obtain ⟨⟨run, rest⟩, hrun, hpair⟩ := Option.map_eq_some_iff.1 h
      obtain ⟨rfl, rfl⟩ := Prod.mk.inj hpair
      obtain ⟨hmore, hdigits, -⟩ := digits?_eq_some_iff.1 hrun
      refine ⟨c :: (sign ++ run), ?_, .digits letter signed hdigits⟩
      rw [List.cons_append, List.append_assoc, ← hmore, ← hsign]
    · obtain ⟨rfl, rfl⟩ := Prod.mk.inj (Option.some.inj h)
      exact ⟨[], rfl, .absent⟩

theorem exponent?_append {mark rest : List Char} {exponent : Option Int}
    (h : SpellsExponent mark exponent) (hrest : EndsNumeral rest) :
    exponent? (mark ++ rest) = some (exponent, rest) := by
  cases h with
  | absent =>
    cases rest with
    | nil => rfl
    | cons c rest =>
      rw [List.nil_append, exponent?, if_neg]
      rintro (rfl | rfl)
      · exact (hrest _ rfl).2.2.1 rfl
      · exact (hrest _ rfl).2.2.2 rfl
  | digits letter signed hdigits =>
    have hrun := digits?_eq_some_iff.2 ⟨rfl, hdigits, fun c hc => (hrest c hc).1⟩
    rw [List.cons_append, List.append_assoc, exponent?, if_pos letter]
    simp only [exponentSign_append signed hdigits, hrun]
    rfl

/-- A fraction and an exponent do not prolong the digits before them. -/
theorem head?_exponent {mark rest : List Char} {exponent : Option Int}
    (h : SpellsExponent mark exponent) (hrest : EndsNumeral rest) :
    ∀ c ∈ (mark ++ rest).head?, c.isDigit = false ∧ c ≠ '.' := by
  intro c hc
  cases h with
  | absent => exact ⟨(hrest c hc).1, (hrest c hc).2.1⟩
  | digits letter _ _ =>
    obtain rfl := Option.some.inj hc
    rcases letter with rfl | rfl <;> decide

theorem head?_fraction {point rest : List Char} {fraction : Option (List Char)}
    (h : SpellsFraction point fraction) (hrest : ∀ c ∈ rest.head?, c.isDigit = false ∧ c ≠ '.') :
    ∀ c ∈ (point ++ rest).head?, c.isDigit = false := by
  intro c hc
  cases h with
  | absent => exact (hrest c hc).1
  | digits _ =>
    obtain rfl := Option.some.inj hc
    rfl

theorem unsigned?_sound (negative : Bool) :
    Sound (unsigned? negative) (SpellsUnsigned negative) := by
  intro cs x rest h
  simp only [unsigned?, Option.bind_eq_bind, Option.bind_eq_some_iff, Prod.exists] at h
  obtain ⟨whole, cs₁, hwhole, fraction, cs₂, hfraction, exponent, cs₃, hexponent, hpair⟩ := h
  obtain ⟨rfl, rfl⟩ := Prod.mk.inj (Option.some.inj hpair)
  obtain ⟨rfl, before⟩ := whole?_eq_some hwhole
  obtain ⟨point, rfl, after⟩ := fraction?_sound hfraction
  obtain ⟨mark, rfl, scale⟩ := exponent?_sound hexponent
  exact ⟨_, by simp only [List.append_assoc], .parts before after scale⟩

theorem unsigned?_append {negative : Bool} {text rest : List Char} {x : Numeral}
    (h : SpellsUnsigned negative text x) (hrest : EndsNumeral rest) :
    unsigned? negative (text ++ rest) = some (x, rest) := by
  obtain ⟨before, after, scale⟩ := h
  have hmark := head?_exponent scale hrest
  simp only [List.append_assoc, unsigned?, whole?_append before (head?_fraction after hmark),
    fraction?_append after hmark, exponent?_append scale hrest, Option.bind_eq_bind,
    Option.bind_some]
  rfl

theorem numeral?_sound : Sound numeral? SpellsNumeral := by
  intro cs x rest h
  rw [numeral?.eq_def] at h
  split at h
  · obtain ⟨text, rfl, hx⟩ := unsigned?_sound true h
    exact ⟨'-' :: text, rfl, .negative hx⟩
  · obtain ⟨text, rfl, hx⟩ := unsigned?_sound false h
    exact ⟨text, rfl, .positive hx⟩

/-- A numeral behind its sign begins with a digit. -/
theorem SpellsUnsigned.beginsWith {negative : Bool} {text : List Char} {x : Numeral}
    (h : SpellsUnsigned negative text x) : BeginsWith (·.isDigit = true) text := by
  obtain ⟨before, -, -⟩ := h
  obtain ⟨c, more, rfl⟩ := List.exists_cons_of_ne_nil before.ne_nil
  exact ⟨c, _, rfl, before.digits c List.mem_cons_self⟩

theorem numeral?_append {text rest : List Char} {x : Numeral} (h : SpellsNumeral text x)
    (hrest : EndsNumeral rest) : numeral? (text ++ rest) = some (x, rest) := by
  cases h with
  | positive h =>
    obtain ⟨c, more, rfl, hc⟩ := h.beginsWith
    rw [numeral?]
    · exact unsigned?_append h hrest
    · intro cs hcs
      obtain rfl := (List.cons.inj hcs).1
      exact absurd hc (by decide)
  | negative h => exact unsigned?_append h hrest

/-! ## Strings -/

theorem isDigitIn_iff {base : Nat} {c : Char} :
    Text.isDigitIn base c = true ↔ ∃ d, Text.digitValue? base c = some d :=
  Option.isSome_iff_exists

theorem hex4?_eq_some_iff {cs rest : List Char} {unit : Nat} :
    hex4? cs = some (unit, rest) ↔ ∃ text, cs = text ++ rest ∧ SpellsUnit text unit := by
  constructor
  · intro h
    rw [hex4?.eq_def] at h
    split at h
    · next a b c d more =>
      simp only [Option.bind_eq_bind, Option.bind_eq_some_iff] at h
      obtain ⟨x, ha, y, hb, z, hc, w, hd, hpair⟩ := h
      obtain ⟨rfl, rfl⟩ := Prod.mk.inj (Option.some.inj hpair)
      refine ⟨[a, b, c, d], rfl, rfl, ?_, ?_⟩
      · simp [isDigitIn_iff, ha, hb, hc, hd]
      · simp only [Text.ofDigits, List.foldl_cons, List.foldl_nil, ha, hb, hc, hd,
          Option.getD_some]
        omega
    · exact absurd h (by simp)
  · rintro ⟨text, rfl, hlength, hdigits, hvalue⟩
    obtain ⟨a, more, rfl⟩ := List.exists_of_length_succ text hlength
    obtain ⟨b, c, d, rfl⟩ := List.length_eq_three.1 (Nat.succ.inj hlength)
    obtain ⟨x, ha⟩ := isDigitIn_iff.1 (hdigits a (by simp))
    obtain ⟨y, hb⟩ := isDigitIn_iff.1 (hdigits b (by simp))
    obtain ⟨z, hc⟩ := isDigitIn_iff.1 (hdigits c (by simp))
    obtain ⟨w, hd⟩ := isDigitIn_iff.1 (hdigits d (by simp))
    simp only [Text.ofDigits, List.foldl_cons, List.foldl_nil, ha, hb, hc, hd,
      Option.getD_some] at hvalue
    simp only [List.cons_append, List.nil_append, hex4?, ha, hb, hc, hd, Option.bind_eq_bind,
      Option.bind_some]
    exact congrArg (fun n => some (n, rest)) (by omega)

theorem SpellsUnit.read {cs : List Char} {unit : Nat} (h : SpellsUnit cs unit) (rest : List Char) :
    hex4? (cs ++ rest) = some (unit, rest) :=
  hex4?_eq_some_iff.2 ⟨cs, rfl, h⟩

/-- **A numeric escape** is read as the character that it spells. -/
theorem codeEscape?_eq_some_iff {cs rest : List Char} {c : Char} :
    codeEscape? cs = some (c, rest) ↔
      ∃ text, cs = text ++ rest ∧ SpellsChar ('\\' :: 'u' :: text) c := by
  constructor
  · intro h
    simp only [codeEscape?, Option.bind_eq_bind, Option.bind_eq_some_iff, Prod.exists] at h
    obtain ⟨unit, more, hunit, h⟩ := h
    obtain ⟨text, rfl, hspells⟩ := hex4?_eq_some_iff.1 hunit
    split at h
    · next hupper =>
      -- the first of a pair of surrogates
      split at h
      · next more =>
        simp only [Option.bind_eq_some_iff, Prod.exists] at h
        obtain ⟨low, more, hlow, h⟩ := h
        obtain ⟨second, rfl, hsecond⟩ := hex4?_eq_some_iff.1 hlow
        split at h
        · next hlower =>
          obtain ⟨rfl, rfl⟩ := Prod.mk.inj (Option.some.inj h)
          exact ⟨_, by simp, .pair hspells hupper hsecond hlower⟩
        · exact absurd h (by simp)
      · exact absurd h (by simp)
    · next hupper =>
      split at h
      · exact absurd h (by simp)
      · next hlower =>
        obtain ⟨rfl, rfl⟩ := Prod.mk.inj (Option.some.inj h)
        exact ⟨text, rfl, .unit hspells (by omega)⟩
  · rintro ⟨text, rfl, hspells⟩
    cases hspells with
    | letter h => exact absurd h (by simp [simpleEscape?])
    | unit h alone =>
      simp only [codeEscape?, h.read, Option.bind_eq_bind, Option.bind_some]
      rw [if_neg (by omega), if_neg (by omega)]
      rfl
    | pair upper isUpper lower isLower =>
      simp only [List.append_assoc, List.cons_append, codeEscape?, upper.read, lower.read,
        Option.bind_eq_bind, Option.bind_some]
      rw [if_pos isUpper, if_pos isLower]
      rfl

/-- **An escape** is read as the character that it spells. -/
theorem escape?_eq_some_iff {cs rest : List Char} {c : Char} :
    escape? cs = some (c, rest) ↔ ∃ text, cs = text ++ rest ∧ SpellsChar ('\\' :: text) c := by
  constructor
  · intro h
    rw [escape?.eq_def] at h
    split at h
    · obtain ⟨text, rfl, hspells⟩ := codeEscape?_eq_some_iff.1 h
      exact ⟨'u' :: text, rfl, hspells⟩
    · next d more hne =>
      obtain ⟨_, hletter, hpair⟩ := Option.map_eq_some_iff.1 h
      obtain ⟨rfl, rfl⟩ := Prod.mk.inj hpair
      exact ⟨[d], rfl, .letter hletter⟩
    · exact absurd h (by simp)
  · rintro ⟨text, rfl, hspells⟩
    by_cases hu : ∃ more, text = 'u' :: more
    · obtain ⟨more, rfl⟩ := hu
      exact codeEscape?_eq_some_iff.2 ⟨more, rfl, hspells⟩
    · cases hspells with
      | plain _ backslash _ => exact absurd rfl backslash
      | @letter _ d h =>
        rw [List.cons_append, escape?, h]
        · rfl
        · rintro rfl
          exact hu ⟨[], rfl⟩
      | unit => exact absurd ⟨_, rfl⟩ hu
      | pair => exact absurd ⟨_, rfl⟩ hu

/-- **The content of a literal** is read up to the quote that closes it. -/
theorem content?_eq_some {n : Nat} {cs s rest : List Char} (h : content? n cs = some (s, rest)) :
    ∃ text, cs = text ++ '"' :: rest ∧ SpellsContent text s := by
  induction n generalizing cs s with
  | zero => exact absurd h (by simp [content?])
  | succ n ih =>
    cases cs with
    | nil => exact absurd h (by simp [content?])
    | cons c cs =>
      rw [content?] at h
      split at h
      · next hquote =>
        obtain ⟨rfl, rfl⟩ := Prod.mk.inj (Option.some.inj h)
        exact ⟨[], by rw [hquote]; rfl, .nil⟩
      split at h
      · next hbackslash =>
        simp only [Option.bind_eq_bind, Option.bind_eq_some_iff, Prod.exists] at h
        obtain ⟨d, more, hescape, ds, rest', hmore, hpair⟩ := h
        obtain ⟨rfl, rfl⟩ := Prod.mk.inj (Option.some.inj hpair)
        obtain ⟨text, rfl, here⟩ := escape?_eq_some_iff.1 hescape
        obtain ⟨more, rfl, others⟩ := ih hmore
        exact ⟨_, by simp [hbackslash], .cons here others⟩
      split at h
      · exact absurd h (by simp)
      · next hquote hbackslash hcontrol =>
        simp only [Option.bind_eq_bind, Option.bind_eq_some_iff, Prod.exists] at h
        obtain ⟨ds, rest', hmore, hpair⟩ := h
        obtain ⟨rfl, rfl⟩ := Prod.mk.inj (Option.some.inj hpair)
        obtain ⟨more, rfl, others⟩ := ih hmore
        exact ⟨_, rfl, .cons (.plain hquote hbackslash (not_lt.1 hcontrol)) others⟩

/-- Puts a character in front of what is read. -/
def pushChar (c : Char) : List Char × List Char → List Char × List Char
  | (ds, rest) => (c :: ds, rest)

/-- One character of a literal is read, and the others behind it. -/
theorem content?_append {text : List Char} {c : Char} (h : SpellsChar text c) (n : Nat)
    (rest : List Char) :
    content? (n + 1) (text ++ rest) = (content? n rest).map (pushChar c) := by
  have hescape : ∀ more, SpellsChar ('\\' :: more) c →
      content? (n + 1) ('\\' :: (more ++ rest)) = (content? n rest).map (pushChar c) := by
    intro more hmore
    rw [content?, if_neg (by decide), if_pos rfl, escape?_eq_some_iff.2 ⟨more, rfl, hmore⟩]
    cases hrest : content? n rest <;> simp [hrest, pushChar]
  cases h with
  | plain quote backslash printable =>
    rw [List.singleton_append, content?, if_neg quote, if_neg backslash,
      if_neg (not_lt.2 printable)]
    cases hrest : content? n rest <;> simp [pushChar]
  | letter h => exact hescape _ (.letter h)
  | unit h alone => exact hescape _ (.unit h alone)
  | pair upper isUpper lower isLower => exact hescape _ (.pair upper isUpper lower isLower)

theorem SpellsChar.ne_nil {text : List Char} {c : Char} (h : SpellsChar text c) : text ≠ [] := by
  cases h <;> simp

theorem content?_quoted {n : Nat} {text s : List Char} (h : SpellsContent text s)
    (hn : text.length < n) (rest : List Char) :
    content? n (text ++ '"' :: rest) = some (s, rest) := by
  induction h generalizing n with
  | nil =>
    obtain ⟨n, rfl⟩ : ∃ k, n = k + 1 := ⟨n - 1, by omega⟩
    rfl
  | cons here _ ih =>
    have hlength := List.length_pos_iff.2 here.ne_nil
    rw [List.length_append] at hn
    obtain ⟨n, rfl⟩ : ∃ k, n = k + 1 := ⟨n - 1, by omega⟩
    rw [List.append_assoc, content?_append here, ih (by omega)]
    rfl

/-- A string literal is read behind its opening quote. -/
theorem string?_eq_some {bound : Nat} {cs rest : List Char} {s : String}
    (h : string? bound cs = some (s, rest)) :
    ∃ text, '"' :: cs = text ++ rest ∧ SpellsString text s := by
  obtain ⟨⟨content, more⟩, hcontent, hpair⟩ := Option.map_eq_some_iff.1 h
  obtain ⟨rfl, rfl⟩ := Prod.mk.inj hpair
  obtain ⟨text, rfl, hspells⟩ := content?_eq_some hcontent
  exact ⟨_, by simp, .quoted hspells⟩

theorem SpellsString.read {text : List Char} {s : String} (h : SpellsString text s) {bound : Nat}
    (hbound : text.length < bound) (rest : List Char) :
    ∃ cs, text ++ rest = '"' :: cs ∧ string? bound cs = some (s, rest) := by
  cases h with
  | @quoted content s hcontent =>
    simp only [List.length_cons, List.length_append] at hbound
    refine ⟨content ++ '"' :: rest, by simp, ?_⟩
    rw [string?, content?_quoted hcontent (by omega)]
    rfl

/-! ## Scalars -/

theorem word?_eq_some_iff {w cs rest : List Char} {v u : Value} :
    word? w v cs = some (u, rest) ↔ cs = w ++ rest ∧ u = v := by
  unfold word?
  split
  · next h =>
    obtain ⟨more, rfl⟩ := List.isPrefixOf_iff_prefix.1 h
    rw [List.drop_left, Option.some.injEq, Prod.mk.injEq, List.append_cancel_left_eq, and_comm,
      eq_comm (a := v)]
  · next h =>
    constructor
    · exact fun hnone => absurd hnone (by simp)
    · rintro ⟨rfl, -⟩
      exact absurd (List.isPrefixOf_iff_prefix.2 (List.prefix_append w rest)) h

theorem scalar?_sound (bound : Nat) : Sound (scalar? bound) SpellsScalar := by
  intro cs v rest h
  rw [scalar?.eq_def] at h
  split at h
  · obtain ⟨⟨s, more⟩, hstring, hpair⟩ := Option.map_eq_some_iff.1 h
    obtain ⟨rfl, rfl⟩ := Prod.mk.inj hpair
    obtain ⟨text, htext, hspells⟩ := string?_eq_some hstring
    exact ⟨text, htext, .string hspells⟩
  · obtain ⟨rfl, rfl⟩ := word?_eq_some_iff.1 h
    exact ⟨_, rfl, .null⟩
  · obtain ⟨rfl, rfl⟩ := word?_eq_some_iff.1 h
    exact ⟨_, rfl, .isTrue⟩
  · obtain ⟨rfl, rfl⟩ := word?_eq_some_iff.1 h
    exact ⟨_, rfl, .isFalse⟩
  · simp only [Option.bind_eq_bind, Option.bind_eq_some_iff, Prod.exists] at h
    obtain ⟨x, more, hnumeral, v', hvalue, hpair⟩ := h
    obtain ⟨rfl, rfl⟩ := Prod.mk.inj (Option.some.inj hpair)
    obtain ⟨text, rfl, hspells⟩ := numeral?_sound hnumeral
    exact ⟨text, rfl, .numeral hspells hvalue⟩

/-- A numeral begins with a hyphen or a digit. -/
theorem SpellsNumeral.beginsWith {text : List Char} {x : Numeral} (h : SpellsNumeral text x) :
    BeginsWith (fun c => c = '-' ∨ c.isDigit = true) text := by
  cases h with
  | positive h =>
    obtain ⟨c, more, rfl, hc⟩ := h.beginsWith
    exact ⟨c, more, rfl, .inr hc⟩
  | negative h => exact ⟨'-', _, rfl, .inl rfl⟩

theorem scalar?_complete (bound : Nat) : Complete (scalar? bound) SpellsScalar bound := by
  intro text v h hbound rest hrest
  cases h with
  | null => exact word?_eq_some_iff.2 ⟨rfl, rfl⟩
  | isTrue => exact word?_eq_some_iff.2 ⟨rfl, rfl⟩
  | isFalse => exact word?_eq_some_iff.2 ⟨rfl, rfl⟩
  | string h =>
    obtain ⟨cs, hcs, hread⟩ := h.read hbound rest
    rw [hcs, scalar?, hread]
    rfl
  | numeral h value =>
    have hnumeral := numeral?_append h hrest
    obtain ⟨c, more, rfl, hc⟩ := h.beginsWith
    rw [List.cons_append] at hnumeral ⊢
    -- no other scalar begins with such a character
    rw [scalar?.eq_def]
    split
    all_goals try
      obtain rfl := (List.cons.inj ‹_›).1
      exact absurd hc (by decide)
    simp only [hnumeral, value, Option.bind_eq_bind, Option.bind_some]
    rfl

end KeaGauge.Json
