import KeaGauge.Proofs.Settings.Section
import Mathlib.Logic.Relation
/-!
# What a document of settings need not say

A member of a name that means nothing is passed over, and one whose value is
its default (`Part.defaults`) may be left out. The member may stand in the
document itself, in a section or in a target (`Format.Within`), among whatever
else is said there: documents that differ so, in any number of members, hold
the same settings or have the same fault (`decode_eq_of_widened`,
`decode_eq_of_thinned`).
-/

namespace KeaGauge.Settings

variable {α : Type} {f : Format α} {name : String} {x y v w : α}

/-- The parts of a document of settings. -/
inductive Part where
  | whole
  | polling
  | collecting
  | carbon
  | targets
  | target

namespace Part

/-- The parts that the whole has, by name and in their order. -/
def sections : List (String × Part) :=
  [("poller", polling), ("collector", collecting), ("carbon", carbon), ("targets", targets)]

/-- The names that mean something in a part. -/
def names : Part → List String
  | whole => sections.map (·.1)
  | polling => ["interval_secs", "max_parallel_targets"]
  | collecting => ["discard_policy", "statistic_concurrency"]
  | carbon => ["host", "port", "root", "per_server_paths", "timeout_secs"]
  | targets => []
  | target => ["name", "address", "port", "https", "timeout_secs", "dhcp_version"]

/-- What members are taken for when they are left out. The address and the port
of a target may not be. -/
def defaults : Part → List (String × View α)
  | whole => [("poller", .table []), ("collector", .table []), ("carbon", .table []),
      ("targets", .list [])]
  | polling => [("interval_secs", .number 300), ("max_parallel_targets", .number 8)]
  | collecting => [("discard_policy", .text "whole-cycle"), ("statistic_concurrency", .number 1)]
  | carbon => [("host", .text "127.0.0.1"), ("port", .number 2003), ("root", .text "nav"),
      ("per_server_paths", .truth false), ("timeout_secs", .number 5)]
  | targets => []
  | target => [("name", .nothing), ("https", .truth true), ("timeout_secs", .number 10),
      ("dhcp_version", .number 4)]

end Part

namespace Format

/-! ## Changes of a document -/

/-- The value of a member is its default, of which the policy may also be
written as the only member of a table. -/
inductive Default (f : Format α) (part : Part) (name : String) (x : α) : Prop where
  | plain (written : (name, f.view x) ∈ part.defaults)
  | tabled {payload : α} (collecting : part = .collecting) (policy : name = "discard_policy")
      (written : f.view x = .table [("whole-cycle", payload)]) (bare : f.isBare payload = true)

/-- A part is widened by a member that means nothing in it. -/
def Widens (f : Format α) (part : Part) (v w : α) : Prop :=
  ∃ name x, name ∉ part.names ∧ f.More name x v w

/-- A part is thinned by a member whose value is its default. -/
def Thins (f : Format α) (part : Part) (v w : α) : Prop :=
  ∃ name x, f.Default part name x ∧ f.More name x w v

/-- **A change somewhere within a part**: to the part itself, to one of the
sections of the whole, or to one of the targets. -/
inductive Within (f : Format α) (change : Part → α → α → Prop) : Part → α → α → Prop where
  | here {part : Part} {v w : α} (changed : change part v w) : Within f change part v w
  | member {inner : Part} {name : String} {x y v w : α} {front back : List (String × α)}
      (known : (name, inner) ∈ Part.sections)
      (before : f.view v = .table (front ++ (name, x) :: back))
      (after : f.view w = .table (front ++ (name, y) :: back))
      (inside : Within f change inner x y) : Within f change .whole v w
  | item {inner : Part} {name : String} {x y v w : α} {front back : List α}
      (known : Part.sections[front.length]? = some (name, inner))
      (before : f.view v = .list (front ++ x :: back))
      (after : f.view w = .list (front ++ y :: back))
      (inside : Within f change inner x y) : Within f change .whole v w
  | target {x y v w : α} {front back : List α} (before : f.view v = .list (front ++ x :: back))
      (after : f.view w = .list (front ++ y :: back))
      (inside : Within f change .target x y) : Within f change .targets v w

/-- **A document widened** by any number of members that mean nothing where
they stand. -/
def Widened (f : Format α) : α → α → Prop := Relation.ReflTransGen (f.Within f.Widens .whole)

/-- **A document thinned** by any number of members whose values are their
defaults. -/
def Thinned (f : Format α) : α → α → Prop := Relation.ReflTransGen (f.Within f.Thins .whole)

/-! ## Members that say nothing -/

/-- Two values are decoded alike as some part, or have the same fault. -/
def Alike (f : Format α) : Part → α → α → Prop
  | .whole, v, w => f.decode v = f.decode w
  | .polling, v, w => f.polling v = f.polling w
  | .collecting, v, w => f.collecting v = f.collecting w
  | .carbon, v, w => f.carbon v = f.carbon w
  | .targets, v, w => f.targets v = f.targets w
  | .target, v, w => f.target v = f.target w

/-- A member says nothing: its name means nothing, or its value is its
default. -/
def Idle (f : Format α) (part : Part) (name : String) (x : α) : Prop :=
  name ∉ part.names ∨ f.Default part name x

/-- A section is decoded alike with and without a member that says nothing. -/
theorem decodeSection_eq_of_idle {σ : Type} {part : Part} {fields : List (Field α σ)} {start : σ}
    (more : f.More name x v w) (idle : f.Idle part name x) (apart : fields.Pairwise Field.Apart)
    (names : part.names = fields.map (·.name))
    (default : f.Default part name x →
      ∃ g, fields.find? (·.name = name) = some g ∧ g.set x start = .ok start) :
    f.decodeSection fields start v = f.decodeSection fields start w := by
  refine decodeSection_eq_of_more more apart ?_
  rcases idle with unknown | h
  · exact setMember_unknown (names ▸ unknown)
  · obtain ⟨g, hfind, hset⟩ := default h
    rw [setMember_known hfind, hset]

theorem alike_polling (more : f.More name x v w) (idle : f.Idle .polling name x) :
    f.polling v = f.polling w := by
  unfold polling
  refine decodeSection_eq_of_idle more idle f.apart_pollingFields rfl ?_
  rintro (written | ⟨⟨⟩⟩)
  simp only [Part.defaults, List.mem_cons, Prod.mk.injEq, List.not_mem_nil, or_false] at written
  obtain ⟨rfl, hx⟩ | ⟨rfl, hx⟩ := written
  · exact ⟨_, rfl, Field.set_of (word64_of_view hx)⟩
  · exact ⟨_, rfl, Field.set_of (word64_of_view hx)⟩

theorem alike_collecting (more : f.More name x v w) (idle : f.Idle .collecting name x) :
    f.collecting v = f.collecting w := by
  unfold collecting
  refine decodeSection_eq_of_idle more idle f.apart_collectingFields rfl ?_
  rintro (written | ⟨-, rfl, written, bare⟩)
  · simp only [Part.defaults, List.mem_cons, Prod.mk.injEq, List.not_mem_nil, or_false] at written
    obtain ⟨rfl, hx⟩ | ⟨rfl, hx⟩ := written
    · have hpolicy : f.policy x = .ok .wholeCycle := policy_of_text hx
      exact ⟨_, rfl, Field.set_of hpolicy⟩
    · exact ⟨_, rfl, Field.set_of (word64_of_view hx)⟩
  · have hpolicy : f.policy x = .ok .wholeCycle := policy_of_table written bare
    exact ⟨_, rfl, Field.set_of hpolicy⟩

theorem alike_carbon (more : f.More name x v w) (idle : f.Idle .carbon name x) :
    f.carbon v = f.carbon w := by
  unfold carbon
  refine decodeSection_eq_of_idle more idle f.apart_carbonFields rfl ?_
  rintro (written | ⟨⟨⟩⟩)
  simp only [Part.defaults, List.mem_cons, Prod.mk.injEq, List.not_mem_nil, or_false] at written
  obtain ⟨rfl, hx⟩ | ⟨rfl, hx⟩ | ⟨rfl, hx⟩ | ⟨rfl, hx⟩ | ⟨rfl, hx⟩ := written
  · exact ⟨_, rfl, Field.set_of (text_of_view hx)⟩
  · exact ⟨_, rfl, Field.set_of (word16_of_view hx)⟩
  · exact ⟨_, rfl, Field.set_of (text_of_view hx)⟩
  · exact ⟨_, rfl, Field.set_of (truth_of_view hx)⟩
  · exact ⟨_, rfl, Field.set_of (word64_of_view hx)⟩

theorem alike_targets (more : f.More name x v w) : f.targets v = f.targets w := by
  obtain ⟨less, more, -⟩ := more
  simp only [targets, less, more]

theorem alike_target (more : f.More name x v w) (idle : f.Idle .target name x) :
    f.target v = f.target w := by
  have hsection : f.decodeSection f.targetFields .empty v =
      f.decodeSection f.targetFields .empty w := by
    refine decodeSection_eq_of_idle more idle f.apart_targetFields rfl ?_
    rintro (written | ⟨⟨⟩⟩)
    simp only [Part.defaults, List.mem_cons, Prod.mk.injEq, List.not_mem_nil, or_false] at written
    obtain ⟨rfl, hx⟩ | ⟨rfl, hx⟩ | ⟨rfl, hx⟩ | ⟨rfl, hx⟩ := written
    · exact ⟨_, rfl, Field.set_of (name_of_nothing hx)⟩
    · exact ⟨_, rfl, Field.set_of (truth_of_view hx)⟩
    · exact ⟨_, rfl, Field.set_of (word64_of_view hx)⟩
    · have hfamily : f.family x = .ok .v4 := family_of_view hx
      exact ⟨_, rfl, Field.set_of hfamily⟩
  -- what is missing is missed in the same way, for both are tables
  obtain ⟨less, more, -⟩ := more
  simp only [target, hsection, isList, less, more]

theorem alike_whole (more : f.More name x v w) (idle : f.Idle .whole name x) :
    f.decode v = f.decode w := by
  refine decodeSection_eq_of_idle more idle f.apart_sections rfl ?_
  rintro (written | ⟨⟨⟩⟩)
  simp only [Part.defaults, List.mem_cons, Prod.mk.injEq, List.not_mem_nil, or_false] at written
  obtain ⟨rfl, hx⟩ | ⟨rfl, hx⟩ | ⟨rfl, hx⟩ | ⟨rfl, hx⟩ := written
  · exact ⟨_, rfl, Field.set_of (decodeSection_of_table hx)⟩
  · exact ⟨_, rfl, Field.set_of (decodeSection_of_table hx)⟩
  · exact ⟨_, rfl, Field.set_of (decodeSection_of_table hx)⟩
  · have hnone : f.targets x = .ok [] := by rw [targets, hx]; rfl
    exact ⟨_, rfl, Field.set_of hnone⟩

/-- **A member that says nothing changes nothing.** -/
theorem alike_of_more {part : Part} (more : f.More name x v w) (idle : f.Idle part name x) :
    f.Alike part v w := by
  cases part with
  | whole => exact alike_whole more idle
  | polling => exact alike_polling more idle
  | collecting => exact alike_collecting more idle
  | carbon => exact alike_carbon more idle
  | targets => exact alike_targets more
  | target => exact alike_target more idle

/-! ## Changes that say nothing -/

theorem Alike.symm {part : Part} (h : f.Alike part v w) : f.Alike part w v := by
  cases part <;> exact Eq.symm h

/-- A section decoded alike sets the same. -/
theorem Alike.set_eq {inner : Part} {i : Nat} (alike : f.Alike inner x y)
    (known : Part.sections[i]? = some (name, inner)) :
    ∃ g, f.sections[i]? = some g ∧ f.sections.find? (·.name = name) = some g ∧
      ∀ s, g.set x s = g.set y s := by
  match i, known with
  | 0, rfl => exact ⟨_, rfl, rfl, fun s => congrArg (Except.map _) alike⟩
  | 1, rfl => exact ⟨_, rfl, rfl, fun s => congrArg (Except.map _) alike⟩
  | 2, rfl => exact ⟨_, rfl, rfl, fun s => congrArg (Except.map _) alike⟩
  | 3, rfl => exact ⟨_, rfl, rfl, fun s => congrArg (Except.map _) alike⟩

/-- **A change within is as good as no change** when it is wherever it is
made. -/
theorem alike_of_within {change : Part → α → α → Prop}
    (alike : ∀ part v w, change part v w → f.Alike part v w) {part : Part}
    (h : f.Within change part v w) : f.Alike part v w := by
  induction h with
  | here changed => exact alike _ _ _ changed
  | member known before after _ ih =>
    obtain ⟨i, hi⟩ := List.mem_iff_getElem?.1 known
    obtain ⟨g, -, hfind, hset⟩ := ih.set_eq hi
    refine decodeSection_eq_of_member before after fun s => ?_
    rw [setMember_known hfind, setMember_known hfind, hset]
  | item known before after _ ih =>
    obtain ⟨g, hg, -, hset⟩ := ih.set_eq known
    refine decodeSection_eq_of_item before after fun g' hg' s => ?_
    obtain rfl := Option.some.inj (hg.symm.trans hg')
    exact hset s
  | target before after _ ih =>
    have htarget : f.target _ = f.target _ := ih
    simp only [Alike, targets, before, after, List.mapM_append, List.mapM_cons, htarget]

theorem decode_eq_of_steps {change : Part → α → α → Prop}
    (alike : ∀ part v w, change part v w → f.Alike part v w)
    (h : Relation.ReflTransGen (f.Within change .whole) v w) : f.decode v = f.decode w := by
  induction h with
  | refl => rfl
  | tail _ last ih => exact ih.trans (alike_of_within alike last)

/-- **Members that mean nothing are passed over.** -/
theorem decode_eq_of_widened (h : f.Widened v w) : f.decode v = f.decode w := by
  refine decode_eq_of_steps ?_ h
  rintro part v w ⟨name, x, unknown, more⟩
  exact alike_of_more more (.inl unknown)

/-- **Members whose values are their defaults may be left out.** -/
theorem decode_eq_of_thinned (h : f.Thinned v w) : f.decode v = f.decode w := by
  refine decode_eq_of_steps ?_ h
  rintro part v w ⟨name, x, default, more⟩
  exact (alike_of_more more (.inr default)).symm

end Format

end KeaGauge.Settings
