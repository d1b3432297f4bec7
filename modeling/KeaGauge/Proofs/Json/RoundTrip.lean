import KeaGauge.Json.Printer
import KeaGauge.Proofs.Json.Object
import KeaGauge.Proofs.Json.Reading
/-!
# JSON text read back

The compact text of a value without floats, whose integers are in the range
that is read exactly, spells this value with the members of its objects in
order (`Printable.spells`), as long as no more containers are in each other
than may be open at once. So it is read back as this value (`parse?_text`).
What is read is in order (`ordered_of_parse?`), and what is in order is read
back as it is (`Value.Ordered.stable`, `Value.Stable.parse?_text`).
-/

namespace KeaGauge.Json

/-! ## Strings -/

theorem spellsUnit_control {n : Nat} (hn : n < 0x20) :
    SpellsUnit ['0', '0', Nat.digitChar (n / 16), Nat.digitChar (n % 16)] n := by
  have hzero : Text.digitValue? 16 '0' = some 0 := rfl
  have hhigh := Text.digitValue?_digitChar le_rfl (by omega : n / 16 < 16)
  have hlow := Text.digitValue?_digitChar le_rfl (by omega : n % 16 < 16)
  refine ⟨rfl, by simp [Text.isDigitIn, hzero, hhigh, hlow], ?_⟩
  simp only [Text.ofDigits, List.foldl_cons, List.foldl_nil, hzero, hhigh, hlow, Option.getD_some]
  omega

/-- **An escaped character spells itself.** -/
theorem spellsChar_escape (c : Char) : SpellsChar (escape c) c := by
  unfold escape
  -- the escapes of one letter, then the numeric ones, then what is no escape
  split
  · next h => subst h; exact .letter rfl
  · next hquote =>
    split
    · next h => subst h; exact .letter rfl
    · next hbackslash =>
      split
      · next h => subst h; exact .letter rfl
      split
      · next h => subst h; exact .letter rfl
      split
      · next h => subst h; exact .letter rfl
      split
      · next h => subst h; exact .letter rfl
      split
      · next h => subst h; exact .letter rfl
      split
      · next hcontrol =>
        have hspells := SpellsChar.unit (spellsUnit_control hcontrol) (by omega)
        rwa [Char.ofNat_toNat] at hspells
      · next hcontrol => exact .plain hquote hbackslash (not_lt.1 hcontrol)

theorem spellsContent_escape (s : List Char) : SpellsContent (s.flatMap escape) s := by
  induction s with
  | nil => exact .nil
  | cons c s ih => exact .cons (spellsChar_escape c) ih

/-- **A quoted string spells itself.** -/
theorem spellsString_quote (s : String) : SpellsString (quote s.toList) s := by
  have h := SpellsString.quoted (spellsContent_escape s.toList)
  rwa [String.ofList_toList] at h

/-! ## Numerals -/

theorem isWhole_toDigits (n : Nat) : IsWhole (Nat.toDigits 10 n) := by
  refine ⟨⟨Nat.toDigits_ne_nil, fun c hc =>
    Nat.isDigit_of_mem_toDigits (by decide) (by decide) hc⟩, fun hhead => ?_⟩
  by_cases hn : n = 0
  · subst hn
    rfl
  · exact absurd hhead (Text.head?_toDigits_ne_zero (by decide) hn)

/-- **The text of an integer spells it.** -/
theorem spellsNumeral_repr (n : Int) :
    SpellsNumeral (Int.repr n).toList ⟨decide (n < 0), Nat.toDigits 10 n.natAbs, none, none⟩ := by
  have hunsigned : ∀ negative, SpellsUnsigned negative (Nat.toDigits 10 n.natAbs)
      ⟨negative, Nat.toDigits 10 n.natAbs, none, none⟩ := fun negative => by
    have h : SpellsUnsigned negative (Nat.toDigits 10 n.natAbs ++ ([] ++ [])) _ :=
      .parts (isWhole_toDigits n.natAbs) .absent .absent
    rwa [List.append_nil, List.append_nil] at h
  rw [Text.toList_repr]
  by_cases hn : n < 0
  · simpa [hn] using SpellsNumeral.negative (hunsigned true)
  · simpa [hn] using SpellsNumeral.positive (hunsigned false)

/-- The integers that are read exactly: those of 64 bits, with or without
sign. -/
def IsExact (n : Int) : Prop := -0x8000000000000000 ≤ n ∧ n < 0x10000000000000000

theorem value?_integer {n : Int} (hn : IsExact n) :
    Numeral.value? ⟨decide (n < 0), Nat.toDigits 10 n.natAbs, none, none⟩ = some (.int n) := by
  obtain ⟨hlow, hhigh⟩ := hn
  have hdigits := Text.ofDigits_toDigits (by decide : 1 < 10) (by decide) n.natAbs
  have hinteger : Numeral.integer? ⟨decide (n < 0), Nat.toDigits 10 n.natAbs, none, none⟩ =
      some n := by
    simp only [Numeral.integer?, hdigits, Option.isSome_none, Bool.false_eq_true, or_self, if_false]
    by_cases hneg : n < 0
    · simp only [hneg, decide_true, if_true]
      rw [if_pos (by omega)]
      exact congrArg some (by omega)
    · simp only [hneg, decide_false, Bool.false_eq_true, if_false]
      rw [if_pos (by omega)]
      exact congrArg some (by omega)
  rw [Numeral.value?, hinteger]

/-! ## What is read back -/

mutual

/-- The value with the members of its objects in order. -/
def Value.normal : Value → Value
  | .null => .null
  | .bool b => .bool b
  | .int n => .int n
  | .float x => .float x
  | .string s => .string s
  | .list items => .list (normalItems items)
  | .object members => .ofMembers (normalMembers members)
termination_by structural v => v

/-- The items of a list, each with the members of its objects in order. -/
def normalItems : List Value → List Value
  | [] => []
  | v :: rest => v.normal :: normalItems rest
termination_by structural items => items

/-- A member, its value with the members of its objects in order. -/
def normalMember : String × Value → String × Value
  | (name, v) => (name, v.normal)
termination_by structural m => m

/-- The members of an object, their values with the members of their objects
in order. -/
def normalMembers : List (String × Value) → List (String × Value)
  | [] => []
  | m :: rest => normalMember m :: normalMembers rest
termination_by structural members => members

end

theorem normalItems_eq (items : List Value) : normalItems items = items.map Value.normal := by
  induction items with
  | nil => rfl
  | cons v rest ih => rw [normalItems, ih, List.map_cons]

theorem normalMembers_eq (members : List (String × Value)) :
    normalMembers members = Object.mapValues Value.normal members := by
  induction members with
  | nil => rfl
  | cons m rest ih =>
    obtain ⟨name, v⟩ := m
    rw [normalMembers, ih, normalMember, Object.mapValues, Object.mapValues, List.map_cons]

/-- A list of values that are in order is in order. -/
theorem normal_list {items : List Value} (h : ∀ v ∈ items, v.normal = v) :
    (Value.list items).normal = .list items := by
  rw [Value.normal, normalItems_eq, List.map_congr_left h, List.map_id']

/-- An object made of members whose values are in order is in order. -/
theorem normal_ofMembers {members : List (String × Value)}
    (h : ∀ m ∈ members, m.2.normal = m.2) :
    (Value.ofMembers members).normal = .ofMembers members := by
  have hsame : Object.mapValues Value.normal members = members := by
    rw [Object.mapValues]
    calc members.map (fun m => (m.1, m.2.normal)) = members.map id :=
          List.map_congr_left fun m hm => by rw [h m hm]; rfl
      _ = members := List.map_id members
  rw [Value.ofMembers, Value.normal, normalMembers_eq, ← Object.ofMembers_mapValues, hsame,
    Value.ofMembers, Object.ofMembers_ofMembers]

/-- **A value that is read back**: without floats, with exact integers, and
with no more containers in each other than may be open at once. -/
inductive Printable : (depth : Nat) → Value → Prop where
  | null {depth : Nat} : Printable depth .null
  | bool {depth : Nat} (b : Bool) : Printable depth (.bool b)
  | int {depth : Nat} {n : Int} (exact : IsExact n) : Printable depth (.int n)
  | string {depth : Nat} (s : String) : Printable depth (.string s)
  | list {depth : Nat} {items : List Value} (each : ∀ v ∈ items, Printable depth v) :
      Printable (depth + 1) (.list items)
  | object {depth : Nat} {members : List (String × Value)}
      (each : ∀ m ∈ members, Printable depth m.2) : Printable (depth + 1) (.object members)

theorem Printable.ofMembers {depth : Nat} {members : List (String × Value)}
    (h : ∀ m ∈ members, Printable depth m.2) : Printable (depth + 1) (.ofMembers members) :=
  .object fun m hm => h m (Object.mem_ofMembers hm)

/-! ## Texts of values -/

section Containers

variable {spells : List Char → Value → Prop}

/-- Something spelled without white space around it. -/
theorem Padded.of_spells {α : Type} {spells : List Char → α → Prop} {text : List Char} {a : α}
    (h : spells text a) : Padded spells text a := by
  have hpadded := Padded.mk .nil h .nil
  rwa [List.nil_append, List.append_nil] at hpadded

/-- The items of a list are spelled, and its closing bracket follows. -/
theorem separated_items {v : Value} {vs : List Value}
    (h : ∀ u ∈ v :: vs, spells u.chars u.normal) :
    ∃ text, v.chars ++ moreItems vs = text ++ [']'] ∧
      Separated spells text ((v :: vs).map Value.normal) := by
  induction vs generalizing v with
  | nil => exact ⟨v.chars, rfl, .one (.of_spells (h v List.mem_cons_self))⟩
  | cons u us ih =>
    obtain ⟨text, htext, hrest⟩ := ih fun w hw => h w (List.mem_cons_of_mem _ hw)
    refine ⟨v.chars ++ ',' :: text, ?_, .more (.of_spells (h v List.mem_cons_self)) hrest⟩
    rw [moreItems, htext, List.append_assoc, List.cons_append]

theorem spellsMember_chars {m : String × Value} (h : spells m.2.chars m.2.normal) :
    SpellsMember spells (memberChars m) (m.1, m.2.normal) := by
  obtain ⟨name, v⟩ := m
  exact .mk (spellsString_quote name) .nil .nil h

/-- The members of an object are spelled, and its closing brace follows. -/
theorem separated_members {m : String × Value} {ms : List (String × Value)}
    (h : ∀ k ∈ m :: ms, spells k.2.chars k.2.normal) :
    ∃ text, memberChars m ++ moreMembers ms = text ++ ['\x7d'] ∧
      Separated (SpellsMember spells) text (Object.mapValues Value.normal (m :: ms)) := by
  induction ms generalizing m with
  | nil =>
    exact ⟨memberChars m, rfl, .one (.of_spells (spellsMember_chars (h m List.mem_cons_self)))⟩
  | cons k ks ih =>
    obtain ⟨text, htext, hrest⟩ := ih fun w hw => h w (List.mem_cons_of_mem _ hw)
    refine ⟨memberChars m ++ ',' :: text, ?_,
      .more (.of_spells (spellsMember_chars (h m List.mem_cons_self))) hrest⟩
    rw [moreMembers, htext, List.append_assoc, List.cons_append]

end Containers

theorem Spells.of_scalar {depth : Nat} {text : List Char} {v : Value} (h : SpellsScalar text v) :
    Spells depth text v := by
  cases depth with
  | zero => exact h
  | succ depth => exact .inl h

/-- **The text of a value spells it**, the members of its objects in order. -/
theorem Printable.spells {depth : Nat} {v : Value} (h : Printable depth v) :
    Spells depth v.chars v.normal := by
  induction h with
  | null => exact .of_scalar .null
  | bool b => cases b <;> first | exact .of_scalar .isTrue | exact .of_scalar .isFalse
  | @int depth n exact => exact .of_scalar (.numeral (spellsNumeral_repr n) (value?_integer exact))
  | string s => exact .of_scalar (.string (spellsString_quote s))
  | @list depth items each ih =>
    cases items with
    | nil => exact .inr (.emptyList .nil)
    | cons v vs =>
      obtain ⟨text, htext, hitems⟩ := separated_items ih
      rw [Value.chars, htext, Value.normal, normalItems_eq]
      exact .inr (.list hitems)
  | @object depth members each ih =>
    cases members with
    | nil => exact .inr (.emptyObject .nil)
    | cons m ms =>
      obtain ⟨text, htext, hmembers⟩ := separated_members ih
      rw [Value.chars, htext, Value.normal, normalMembers_eq]
      exact .inr (.object hmembers)

/-- **JSON text is read back** as the value it was printed from, the members of
its objects in order. -/
theorem parse?_text {v : Value} (h : Printable maxDepth v) : parse? v.text = some v.normal := by
  rw [parse?_eq_some_iff, IsDocument, Value.text, String.toList_ofList]
  exact .of_spells h.spells

/-! ## Values that are read back as they are -/

/-- A value whose objects hold their members in order, so that it is read back
as it is. -/
structure Value.Stable (depth : Nat) (v : Value) : Prop where
  printable : Printable depth v
  normal_eq : v.normal = v

namespace Value.Stable

variable {depth : Nat}

theorem bool (b : Bool) : (Value.bool b).Stable depth := ⟨.bool b, rfl⟩

theorem int {n : Int} (exact : IsExact n) : (Value.int n).Stable depth := ⟨.int exact, rfl⟩

theorem string (s : String) : (Value.string s).Stable depth := ⟨.string s, rfl⟩

theorem list {items : List Value} (each : ∀ v ∈ items, v.Stable depth) :
    (Value.list items).Stable (depth + 1) :=
  ⟨.list fun v hv => (each v hv).printable, normal_list fun v hv => (each v hv).normal_eq⟩

theorem ofMembers {members : List (String × Value)} (each : ∀ m ∈ members, m.2.Stable depth) :
    (Value.ofMembers members).Stable (depth + 1) :=
  ⟨.ofMembers fun m hm => (each m hm).printable,
    normal_ofMembers fun m hm => (each m hm).normal_eq⟩

/-- **Such a value is read back as it is.** -/
theorem parse?_text {v : Value} (h : v.Stable maxDepth) : parse? v.text = some v := by
  rw [Json.parse?_text h.printable, h.normal_eq]

end Value.Stable

/-- **Every object in a value holds its members in order**, each name once. -/
inductive Value.Ordered : Value → Prop where
  | null : Value.null.Ordered
  | bool (b : Bool) : (Value.bool b).Ordered
  | int (n : Int) : (Value.int n).Ordered
  | float (x : Binary64) : (Value.float x).Ordered
  | string (s : String) : (Value.string s).Ordered
  | list {items : List Value} (each : ∀ v ∈ items, v.Ordered) : (Value.list items).Ordered
  | object {members : List (String × Value)} (ascending : Object.Ascending members)
      (each : ∀ m ∈ members, m.2.Ordered) : (Value.object members).Ordered

namespace Value.Ordered

variable {v : Value}

theorem ofMembers {members : List (String × Value)} (each : ∀ m ∈ members, m.2.Ordered) :
    (Value.ofMembers members).Ordered :=
  .object (Object.ascending_ofMembers members) fun m hm => each m (Object.mem_ofMembers hm)

/-- There is nothing to be put in order. -/
theorem normal_eq (h : v.Ordered) : v.normal = v := by
  induction h with
  | list each ih => exact normal_list ih
  | object ascending each ih =>
    have hmade := normal_ofMembers ih
    rwa [Value.ofMembers, Object.ofMembers_of_ascending ascending] at hmade
  | _ => rfl

theorem stable {depth : Nat} (h : v.Ordered) (hprintable : Printable depth v) : v.Stable depth :=
  ⟨hprintable, h.normal_eq⟩

end Value.Ordered

section Elements

variable {α : Type} {spells : List Char → α → Prop} {text : List Char} {a : α}

theorem Padded.exists_spells (h : Padded spells text a) : ∃ inner, spells inner a := by
  obtain ⟨-, h, -⟩ := h
  exact ⟨_, h⟩

theorem Separated.exists_spells {as : List α} (h : Separated spells text as) :
    ∀ a ∈ as, ∃ inner, spells inner a := by
  induction h with
  | one h => exact fun a ha => List.mem_singleton.1 ha ▸ h.exists_spells
  | more h _ ih => exact List.forall_mem_cons.2 ⟨h.exists_spells, ih⟩

end Elements

/-- What a text spells holds its members in order, whatever their order in the
text. -/
theorem Spells.ordered {depth : Nat} {text : List Char} {v : Value} (h : Spells depth text v) :
    v.Ordered := by
  have hscalar : ∀ {text : List Char} {v : Value}, SpellsScalar text v → v.Ordered := by
    intro text v h
    cases h with
    | null => exact .null
    | isTrue => exact .bool true
    | isFalse => exact .bool false
    | string _ => exact .string _
    | numeral _ value =>
      unfold Numeral.value? at value
      split at value
      · exact Option.some.inj value ▸ .int _
      · obtain ⟨x, -, rfl⟩ := Option.map_eq_some_iff.1 value
        exact .float x
  induction depth generalizing text v with
  | zero => exact hscalar h
  | succ depth ih =>
    rcases h with h | h
    · exact hscalar h
    cases h with
    | emptyList _ => exact .list nofun
    | list items =>
      refine .list fun v hv => ?_
      obtain ⟨_, h⟩ := items.exists_spells v hv
      exact ih h
    | emptyObject _ => exact .object List.Pairwise.nil nofun
    | object members =>
      refine .ofMembers fun m hm => ?_
      obtain ⟨_, -, -, -, h⟩ := members.exists_spells m hm
      exact ih h

/-- **What is read is in order**, so that nothing else can be read back as it
is. -/
theorem ordered_of_parse? {s : String} {v : Value} (h : parse? s = some v) : v.Ordered := by
  obtain ⟨_, h⟩ := Padded.exists_spells (parse?_eq_some_iff.1 h)
  exact h.ordered

end KeaGauge.Json
