import KeaGauge.Proofs.Json.Scalar
/-!
# What is read is what is spelled

A text is read as a value exactly when it is a document of it
(`parse?_eq_some_iff`). From scalars on the way leads over elements between
commas, which both lists and objects are made of (`separated?`), to values, by
induction on how many containers may still be opened.
-/

namespace KeaGauge.Json

open Text (Reader)

/-! ## Elements between commas -/

section Elements

variable {α : Type}

/-- Elements up to a closing character, at least one: how both items and
members are read. -/
def separated? (element? : Reader α) (close : Char) : Nat → Reader (List α)
  | 0, _ => none
  | n + 1, cs => do
    let (a, cs) ← element? (skipSpace cs)
    match skipSpace cs with
    | [] => none
    | c :: rest =>
      if c = close then return ([a], rest)
      else if c = ',' then
        let (as, rest) ← separated? element? close n rest
        return (a :: as, rest)
      else none

/-- A member: a name, a colon and a value. -/
def member? (bound : Nat) (item? : Reader Value) : Reader (String × Value) := fun cs => do
  let (name, cs) ← name? bound cs
  let (v, cs) ← item? (skipSpace cs)
  return ((name, v), cs)

theorem items?_eq_separated? (item? : Reader Value) (n : Nat) (cs : List Char) :
    items? item? n cs = separated? item? ']' n cs := by
  induction n generalizing cs with
  | zero => rfl
  | succ n ih =>
    simp only [items?, separated?, ih]
    congr
    funext ⟨v, cs⟩
    dsimp only
    generalize skipSpace cs = more
    split
    · simp
    · simp
    · next hclose hcomma =>
      cases more with
      | nil => rfl
      | cons c more =>
        simp only
        rw [if_neg fun h => hclose more (by rw [h]), if_neg fun h => hcomma more (by rw [h])]

theorem members?_eq_separated? (bound : Nat) (item? : Reader Value) (n : Nat) (cs : List Char) :
    members? bound item? n cs = separated? (member? bound item?) '\x7d' n cs := by
  induction n generalizing cs with
  | zero => rfl
  | succ n ih =>
    simp only [members?, separated?, member?, ih, Option.bind_eq_bind, Option.bind_assoc]
    congr
    funext ⟨name, cs⟩
    dsimp only
    congr
    funext ⟨v, cs⟩
    simp only [Option.bind_some, Option.pure_def]
    generalize skipSpace cs = more
    split
    · simp
    · simp
    · next hclose hcomma =>
      cases more with
      | nil => rfl
      | cons c more =>
        simp only
        rw [if_neg fun h => hclose more (by rw [h]), if_neg fun h => hcomma more (by rw [h])]

variable {element? : Reader α} {spells : List Char → α → Prop} {close : Char} {n bound : Nat}

/-- What is skipped around something pads it. -/
theorem Padded.mk_of_skipSpace {cs left text rest : List Char} {a : α} (hleft : IsBlank left)
    (hcs : cs = left ++ (text ++ rest)) (h : spells text a) :
    ∃ body, cs = body ++ skipSpace rest ∧ Padded spells body a := by
  obtain ⟨right, hright, hrest⟩ := skipSpace_spec rest
  refine ⟨left ++ (text ++ right), ?_, .mk hleft h hright⟩
  rw [hcs, List.append_assoc, List.append_assoc, ← hrest]

/-- **What is read between commas is spelled between commas.** -/
theorem separated?_eq_some (sound : Sound element? spells) {cs rest : List Char} {as : List α}
    (h : separated? element? close n cs = some (as, rest)) :
    ∃ text, cs = text ++ close :: rest ∧ Separated spells text as := by
  induction n generalizing cs as with
  | zero => exact absurd h (by simp [separated?])
  | succ n ih =>
    simp only [separated?, Option.bind_eq_bind, Option.bind_eq_some_iff, Prod.exists] at h
    obtain ⟨a, more, helement, h⟩ := h
    obtain ⟨text, htext, hspells⟩ := sound helement
    obtain ⟨left, hleft, hcs⟩ := skipSpace_spec cs
    rw [htext] at hcs
    -- the white space that is skipped behind the element counts as part of it
    obtain ⟨body, rfl, hbody⟩ := Padded.mk_of_skipSpace hleft hcs hspells
    split at h
    · exact absurd h (by simp)
    · next c more hmore =>
      split at h
      · next hclose =>
        obtain ⟨rfl, rfl⟩ := Prod.mk.inj (Option.some.inj h)
        exact ⟨body, by rw [hmore, hclose], .one hbody⟩
      split at h
      · next hcomma =>
        simp only [Option.bind_eq_some_iff, Prod.exists] at h
        obtain ⟨others, rest', hothers, hpair⟩ := h
        obtain ⟨rfl, rfl⟩ := Prod.mk.inj (Option.some.inj hpair)
        obtain ⟨text, rfl, hrest⟩ := ih hothers
        exact ⟨_, by rw [hmore, hcomma]; simp, .more hbody hrest⟩
      · exact absurd h (by simp)

/-- A padded element is read, and the white space around it with it. -/
theorem Padded.read (complete : Complete element? spells bound)
    (begins : ∀ ⦃text a⦄, spells text a → BeginsWith IsOpening text)
    {text rest : List Char} {a : α} (h : Padded spells text a) (hbound : text.length < bound)
    (hrest : EndsNumeral rest) :
    ∃ more, element? (skipSpace (text ++ rest)) = some (a, more) ∧
      skipSpace more = skipSpace rest := by
  obtain ⟨hleft, hbody, hright⟩ := h
  simp only [List.length_append] at hbound
  obtain ⟨c, cs, rfl, hc⟩ := begins hbody
  refine ⟨_, ?_, hright.skipSpace_append rest⟩
  rw [List.append_assoc, List.append_assoc, List.cons_append, hleft.skipSpace_cons hc.1]
  exact complete hbody (by omega) (hright.endsNumeral_append hrest)

/-- **What is spelled between commas is read**, when the closing character is
no comma and ends a numeral. -/
theorem separated?_append (complete : Complete element? spells bound)
    (begins : ∀ ⦃text a⦄, spells text a → BeginsWith IsOpening text)
    (hcomma : close ≠ ',') (hspace : isSpace close = false)
    (hclose : close.isDigit = false ∧ close ≠ '.' ∧ close ≠ 'e' ∧ close ≠ 'E')
    {text : List Char} {as : List α} (h : Separated spells text as) (hbound : text.length < bound)
    (hn : text.length < n) (rest : List Char) :
    separated? element? close n (text ++ close :: rest) = some (as, rest) := by
  induction h generalizing n with
  | one h =>
    obtain ⟨n, rfl⟩ : ∃ k, n = k + 1 := ⟨n - 1, by omega⟩
    obtain ⟨more, hread, hmore⟩ := h.read complete begins hbound (.cons hclose rest)
    rw [separated?, hread]
    simp only [Option.bind_eq_bind, Option.bind_some, hmore, skipSpace_cons hspace, if_true]
    rfl
  | @more text others a as h _ ih =>
    -- the comma makes what follows shorter, so one element less may follow
    simp only [List.length_append, List.length_cons] at hbound hn
    obtain ⟨n, rfl⟩ : ∃ k, n = k + 1 := ⟨n - 1, by omega⟩
    have hends : EndsNumeral (',' :: (others ++ close :: rest)) := .cons (by decide) _
    obtain ⟨more, hread, hmore⟩ := h.read complete begins (by omega) hends
    rw [List.append_assoc, List.cons_append, separated?, hread]
    simp only [Option.bind_eq_bind, Option.bind_some, hmore, skipSpace_cons (c := ',') rfl,
      if_neg hcomma.symm, if_true, ih (n := n) (by omega) (by omega)]
    rfl

/-- Between commas the first element comes first, whatever white space is
before it. -/
theorem Separated.beginsWith (begins : ∀ ⦃text a⦄, spells text a → BeginsWith IsOpening text)
    {text : List Char} {as : List α} (h : Separated spells text as) (rest : List Char) :
    BeginsWith IsOpening (skipSpace (text ++ rest)) := by
  have hpadded : ∀ {text : List Char} {a : α}, Padded spells text a → ∀ rest,
      BeginsWith IsOpening (skipSpace (text ++ rest)) := by
    rintro _ _ ⟨hleft, hbody, -⟩ rest
    obtain ⟨c, cs, rfl, hc⟩ := begins hbody
    rw [List.append_assoc, List.append_assoc, List.cons_append, hleft.skipSpace_cons hc.1]
    exact ⟨c, _, rfl, hc⟩
  cases h with
  | one h => exact hpadded h rest
  | more h _ =>
    rw [List.append_assoc]
    exact hpadded h _

theorem separated?_skipSpace (cs : List Char) :
    separated? element? close n (skipSpace cs) = separated? element? close n cs := by
  cases n with
  | zero => rfl
  | succ n => simp only [separated?, skipSpace_skipSpace]

end Elements

/-! ## Containers -/

section Containers

variable {item? : Reader Value} {spells : List Char → Value → Prop} {bound : Nat}

theorem SpellsString.beginsWith {text : List Char} {s : String} (h : SpellsString text s) :
    BeginsWith IsOpening text := by
  cases h with
  | quoted => exact ⟨'"', _, rfl, by decide⟩

theorem SpellsMember.beginsWith {text : List Char} {m : String × Value}
    (h : SpellsMember spells text m) : BeginsWith IsOpening text := by
  cases h with
  | mk named => exact named.beginsWith.append _

/-- The name of a member and the colon behind it are spelled. -/
theorem name?_eq_some {cs rest : List Char} {name : String}
    (h : name? bound cs = some (name, rest)) :
    ∃ literal before, cs = literal ++ (before ++ ':' :: rest) ∧ SpellsString literal name ∧
      IsBlank before := by
  rw [name?.eq_def] at h
  split at h
  · simp only [Option.bind_eq_bind, Option.bind_eq_some_iff, Prod.exists] at h
    obtain ⟨s, more, hstring, h⟩ := h
    obtain ⟨literal, hcs, hspells⟩ := string?_eq_some hstring
    obtain ⟨before, hbefore, hmore⟩ := skipSpace_spec more
    split at h
    · next hcolon =>
      obtain ⟨rfl, rfl⟩ := Prod.mk.inj (Option.some.inj h)
      exact ⟨literal, before, by rw [hcs, ← hcolon, ← hmore], hspells, hbefore⟩
    · exact absurd h (by simp)
  · exact absurd h (by simp)

theorem name?_append {literal before : List Char} {name : String} (h : SpellsString literal name)
    (hbound : literal.length < bound) (hbefore : IsBlank before) (rest : List Char) :
    name? bound (literal ++ (before ++ ':' :: rest)) = some (name, rest) := by
  obtain ⟨cs, hcs, hread⟩ := h.read hbound (before ++ ':' :: rest)
  rw [hcs, name?, hread]
  simp only [Option.bind_eq_bind, Option.bind_some, hbefore.skipSpace_cons (c := ':') rfl]
  rfl

theorem member?_sound (sound : Sound item? spells) :
    Sound (member? bound item?) (SpellsMember spells) := by
  intro cs m rest h
  simp only [member?, Option.bind_eq_bind, Option.bind_eq_some_iff, Prod.exists] at h
  obtain ⟨name, more, hname, v, rest', hitem, hpair⟩ := h
  obtain ⟨rfl, rfl⟩ := Prod.mk.inj (Option.some.inj hpair)
  obtain ⟨literal, before, rfl, named, left⟩ := name?_eq_some hname
  obtain ⟨after, right, hmore⟩ := skipSpace_spec more
  obtain ⟨text, htext, hspells⟩ := sound hitem
  refine ⟨literal ++ (before ++ ':' :: (after ++ text)), ?_, .mk named left right hspells⟩
  rw [hmore, htext]
  simp

theorem member?_complete (complete : Complete item? spells bound)
    (begins : ∀ ⦃text v⦄, spells text v → BeginsWith IsOpening text) :
    Complete (member? bound item?) (SpellsMember spells) bound := by
  intro text m h hbound rest hrest
  cases h with
  | mk named left right h =>
    simp only [List.length_append, List.length_cons] at hbound
    obtain ⟨c, cs, rfl, hc⟩ := begins h
    have hread := complete h (by omega) hrest
    simp only [List.append_assoc, List.cons_append] at hread ⊢
    rw [member?, name?_append named (by omega) left]
    simp only [Option.bind_eq_bind, Option.bind_some, right.skipSpace_cons hc.1, hread]
    rfl

theorem list?_eq_some (sound : Sound item? spells) {cs rest : List Char} {v : Value}
    (h : list? bound item? cs = some (v, rest)) :
    ∃ text, '[' :: cs = text ++ rest ∧ SpellsContainer spells text v := by
  unfold list? at h
  split at h
  · next hclose =>
    obtain ⟨rfl, rfl⟩ := Prod.mk.inj (Option.some.inj h)
    obtain ⟨blank, hblank, hcs⟩ := skipSpace_spec cs
    exact ⟨_, by rw [hcs, hclose]; simp, .emptyList hblank⟩
  · obtain ⟨⟨items, more⟩, hitems, hpair⟩ := Option.map_eq_some_iff.1 h
    obtain ⟨rfl, rfl⟩ := Prod.mk.inj hpair
    rw [items?_eq_separated?, separated?_skipSpace] at hitems
    obtain ⟨text, rfl, hspells⟩ := separated?_eq_some sound hitems
    exact ⟨_, by simp, .list hspells⟩

theorem object?_eq_some (sound : Sound item? spells) {cs rest : List Char} {v : Value}
    (h : object? bound item? cs = some (v, rest)) :
    ∃ text, '\x7b' :: cs = text ++ rest ∧ SpellsContainer spells text v := by
  unfold object? at h
  split at h
  · next hclose =>
    obtain ⟨rfl, rfl⟩ := Prod.mk.inj (Option.some.inj h)
    obtain ⟨blank, hblank, hcs⟩ := skipSpace_spec cs
    exact ⟨_, by rw [hcs, hclose]; simp, .emptyObject hblank⟩
  · obtain ⟨⟨members, more⟩, hmembers, hpair⟩ := Option.map_eq_some_iff.1 h
    obtain ⟨rfl, rfl⟩ := Prod.mk.inj hpair
    rw [members?_eq_separated?, separated?_skipSpace] at hmembers
    obtain ⟨text, rfl, hspells⟩ := separated?_eq_some (member?_sound sound) hmembers
    exact ⟨_, by simp, .object hspells⟩

theorem list?_append (complete : Complete item? spells bound)
    (begins : ∀ ⦃text v⦄, spells text v → BeginsWith IsOpening text) {text : List Char}
    {items : List Value} (h : Separated spells text items) (hbound : text.length < bound)
    (rest : List Char) : list? bound item? (text ++ ']' :: rest) = some (.list items, rest) := by
  have hread : items? item? bound (skipSpace (text ++ ']' :: rest)) = some (items, rest) := by
    rw [items?_eq_separated?, separated?_skipSpace]
    exact separated?_append complete begins (by decide) rfl (by decide) h hbound hbound rest
  obtain ⟨c, more, hmore, hc⟩ := h.beginsWith begins (']' :: rest)
  rw [hmore] at hread
  unfold list?
  rw [hmore]
  split
  · exact absurd (List.cons.inj ‹_›).1 hc.2.1
  · rw [hread]
    rfl

theorem object?_append (complete : Complete item? spells bound)
    (begins : ∀ ⦃text v⦄, spells text v → BeginsWith IsOpening text) {text : List Char}
    {members : List (String × Value)} (h : Separated (SpellsMember spells) text members)
    (hbound : text.length < bound) (rest : List Char) :
    object? bound item? (text ++ '\x7d' :: rest) = some (.ofMembers members, rest) := by
  have hbegins : ∀ ⦃text m⦄, SpellsMember spells text m → BeginsWith IsOpening text :=
    fun _ _ h => h.beginsWith
  have hread : members? bound item? bound (skipSpace (text ++ '\x7d' :: rest)) =
      some (members, rest) := by
    rw [members?_eq_separated?, separated?_skipSpace]
    exact separated?_append (member?_complete complete begins) hbegins (by decide) rfl (by decide)
      h hbound hbound rest
  obtain ⟨c, more, hmore, hc⟩ := h.beginsWith hbegins ('\x7d' :: rest)
  rw [hmore] at hread
  unfold object?
  rw [hmore]
  split
  · exact absurd (List.cons.inj ‹_›).1 hc.2.2
  · rw [hread]
    rfl

end Containers

/-! ## Values -/

/-- A value that opens no container begins as none does. -/
theorem SpellsScalar.beginsWith {text : List Char} {v : Value} (h : SpellsScalar text v) :
    BeginsWith (fun c => IsOpening c ∧ c ≠ '[' ∧ c ≠ '\x7b') text := by
  cases h with
  | null => exact ⟨'n', _, rfl, by decide⟩
  | isTrue => exact ⟨'t', _, rfl, by decide⟩
  | isFalse => exact ⟨'f', _, rfl, by decide⟩
  | string h =>
    cases h with
    | quoted => exact ⟨'"', _, rfl, by decide⟩
  | numeral h _ =>
    obtain ⟨c, more, rfl, hc⟩ := h.beginsWith
    have hne : ∀ d : Char, d.isDigit = false → d ≠ '-' → c ≠ d := by
      rintro d hdigit hhyphen rfl
      rcases hc with rfl | hc
      · exact hhyphen rfl
      · exact absurd (hc.symm.trans hdigit) (by decide)
    refine ⟨c, more, rfl, ⟨?_, hne _ rfl (by decide), hne _ rfl (by decide)⟩,
      hne _ rfl (by decide), hne _ rfl (by decide)⟩
    simp [isSpace, hne ' ' rfl, hne '\n' rfl, hne '\t' rfl, hne '\r' rfl]

theorem Spells.beginsWith {depth : Nat} {text : List Char} {v : Value} (h : Spells depth text v) :
    BeginsWith IsOpening text := by
  have hscalar : ∀ {text : List Char}, SpellsScalar text v → BeginsWith IsOpening text := by
    intro text h
    obtain ⟨c, more, rfl, hc, -⟩ := h.beginsWith
    exact ⟨c, more, rfl, hc⟩
  cases depth with
  | zero => exact hscalar h
  | succ depth =>
    rcases h with h | h
    · exact hscalar h
    · cases h <;> exact ⟨_, _, rfl, by decide⟩

/-- What opens no container is read as a scalar. -/
theorem value?_scalar (bound depth : Nat) {c : Char} (rest : List Char) (hlist : c ≠ '[')
    (hobject : c ≠ '\x7b') : value? bound depth (c :: rest) = scalar? bound (c :: rest) := by
  cases depth <;>
  · simp only [value?]
    split
    · exact absurd (List.cons.inj ‹_›).1 hlist
    · exact absurd (List.cons.inj ‹_›).1 hobject
    · rfl

/-- **The reader of values is sound.** -/
theorem value?_sound (bound depth : Nat) : Sound (value? bound depth) (Spells depth) := by
  induction depth with
  | zero =>
    intro cs v rest h
    simp only [value?] at h
    split at h
    · exact absurd h (by simp)
    · exact absurd h (by simp)
    · exact scalar?_sound bound h
  | succ depth ih =>
    intro cs v rest h
    simp only [value?] at h
    split at h
    · obtain ⟨text, htext, hspells⟩ := list?_eq_some ih h
      exact ⟨text, htext, .inr hspells⟩
    · obtain ⟨text, htext, hspells⟩ := object?_eq_some ih h
      exact ⟨text, htext, .inr hspells⟩
    · obtain ⟨text, htext, hspells⟩ := scalar?_sound bound h
      exact ⟨text, htext, .inl hspells⟩

/-- **The reader of values is complete.** -/
theorem value?_complete (bound depth : Nat) :
    Complete (value? bound depth) (Spells depth) bound := by
  have hscalar : ∀ depth, Complete (value? bound depth) SpellsScalar bound := by
    intro depth text v h hbound rest hrest
    have hread := scalar?_complete bound h hbound hrest
    obtain ⟨c, more, rfl, -, hlist, hobject⟩ := h.beginsWith
    rw [List.cons_append] at hread ⊢
    rw [value?_scalar bound depth _ hlist hobject, hread]
  induction depth with
  | zero => exact hscalar 0
  | succ depth ih =>
    intro text v h hbound rest hrest
    rcases h with h | h
    · exact hscalar _ h hbound hrest
    -- in a container one container less may be opened, as the induction hypothesis has it
    have hbegins : ∀ ⦃text v⦄, Spells depth text v → BeginsWith IsOpening text :=
      fun _ _ h => h.beginsWith
    cases h with
    | emptyList hblank =>
      simp only [List.cons_append, List.append_assoc, value?, list?, List.nil_append,
        hblank.skipSpace_cons (c := ']') rfl]
    | list h =>
      simp only [List.length_cons, List.length_append] at hbound
      simp only [List.cons_append, List.append_assoc, value?, List.nil_append]
      exact list?_append ih hbegins h (by omega) rest
    | emptyObject hblank =>
      simp only [List.cons_append, List.append_assoc, value?, object?, List.nil_append,
        hblank.skipSpace_cons (c := '\x7d') rfl]
    | object h =>
      simp only [List.length_cons, List.length_append] at hbound
      simp only [List.cons_append, List.append_assoc, value?, List.nil_append]
      exact object?_append ih hbegins h (by omega) rest

/-! ## Documents -/

theorem isBlank_iff {cs : List Char} : IsBlank cs ↔ skipSpace cs = [] :=
  List.dropWhile_eq_nil_iff.symm

/-- **A text is read as a value exactly when it is a document of it.** -/
theorem parse?_eq_some_iff {s : String} {v : Value} : parse? s = some v ↔ IsDocument s v := by
  unfold parse? parseChars? IsDocument
  generalize s.toList = cs
  constructor
  · intro h
    simp only [Option.bind_eq_bind, Option.bind_eq_some_iff, Prod.exists] at h
    obtain ⟨u, rest, hread, h⟩ := h
    split at h
    · next hempty =>
      obtain rfl := Option.some.inj h
      obtain ⟨left, hleft, hcs⟩ := skipSpace_spec cs
      obtain ⟨text, htext, hspells⟩ := value?_sound _ _ hread
      rw [hcs, htext]
      exact .mk hleft hspells (isBlank_iff.2 (List.isEmpty_iff.1 hempty))
    · exact absurd h (by simp)
  · rintro ⟨hleft, hspells, hright⟩
    obtain ⟨c, more, rfl, hc⟩ := hspells.beginsWith
    have hends := hright.endsNumeral_append .nil
    rw [List.append_nil] at hends
    rw [List.cons_append, hleft.skipSpace_cons hc.1, ← List.cons_append,
      value?_complete _ _ hspells (by simp; omega) hends]
    simp [isBlank_iff.1 hright]

/-- A text is a document of one value at most. -/
theorem IsDocument.unique {s : String} {v w : Value} (hv : IsDocument s v) (hw : IsDocument s w) :
    v = w :=
  Option.some.inj ((parse?_eq_some_iff.2 hv).symm.trans (parse?_eq_some_iff.2 hw))

end KeaGauge.Json
