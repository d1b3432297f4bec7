import KeaGauge.Proofs.Carbon.Path
/-!
# Places in the tree

Carbon takes a path for the way down its tree, from component to component, so
the place of a metric is what its path is cut into at the points. A root may
hold points itself, and is cut at them as it would be on its own. What stands
behind it is cut as it was joined, since no part of it holds a point
(`components_intercalate`): escaping leaves neither points nor colons nor
slashes (`isComponent_escape`), whatever the text. So a metric is under the
root, as deep as every other, and what comes from a prefix or an address is one
component of its own (`PathScheme.fixed_depth`).
-/

namespace KeaGauge.Carbon

open Net (Cidr)

/-- **The components of a path**: what it is cut into at its points. -/
def components (path : String) : List String :=
  (path.toList.splitOn '.').map String.ofList

/-- A text without points, colons and slashes. -/
def IsComponent (s : String) : Prop := '.' ∉ s.toList ∧ ':' ∉ s.toList ∧ '/' ∉ s.toList

instance (s : String) : Decidable (IsComponent s) := inferInstanceAs (Decidable (_ ∧ _))

/-! ## Components -/

theorem isComponent_append {s t : String} :
    IsComponent (s ++ t) ↔ IsComponent s ∧ IsComponent t := by
  simp only [IsComponent, String.toList_append, List.mem_append, not_or]
  tauto

theorem isComponent_natRepr (n : Nat) : IsComponent (Nat.repr n) := by
  have hother : ∀ c, Text.isDigitIn 10 c = false → c ∉ (Nat.repr n).toList := fun c hc => by
    rw [Nat.repr, String.toList_ofList]
    exact Text.not_mem_toDigits (by decide) (by decide) hc
  exact ⟨hother '.' rfl, hother ':' rfl, hother '/' rfl⟩

/-- What stands for an escaped character is none that is escaped. -/
theorem escapeChar_ne {c d : Char} (hd : d = '.' ∨ d = ':' ∨ d = '/') : escapeChar c ≠ d := by
  unfold escapeChar
  split
  · rintro rfl
    exact absurd hd (by decide)
  · next hc =>
    rintro rfl
    exact hc hd

/-- **An escaped text is a component**, whatever it is. -/
theorem isComponent_escape (s : String) : IsComponent (escape s) := by
  have hnone : ∀ d, (d = '.' ∨ d = ':' ∨ d = '/') → d ∉ (escape s).toList := by
    intro d hd hmem
    rw [escape, String.toList_ofList, List.mem_map] at hmem
    obtain ⟨c, -, hc⟩ := hmem
    exact escapeChar_ne hd hc
  exact ⟨hnone _ (.inl rfl), hnone _ (.inr (.inl rfl)), hnone _ (.inr (.inr rfl))⟩

theorem length_escape (s : String) : (escape s).length = s.length := by
  rw [← String.length_toList, escape, String.toList_ofList, List.length_map,
    String.length_toList]

/-- **What is joined behind a root is cut apart again**, and the root is cut as
it is on its own. -/
theorem components_intercalate (root : String) {parts : List String} (hne : parts ≠ [])
    (h : ∀ part ∈ parts, '.' ∉ part.toList) :
    components (".".intercalate (root :: parts)) = components root ++ parts := by
  have hpoint : ".".toList = ['.'] := rfl
  have hparts : ∀ piece ∈ parts.map String.toList, '.' ∉ piece := List.forall_mem_map.2 h
  have hne' : parts.map String.toList ≠ [] := by simpa using hne
  -- the root may hold points, so the whole is not cut as it was joined: only what is behind it is
  rw [components, String.toList_intercalate, hpoint, List.map_cons, Text.intercalate_cons_eq,
    if_neg hne', List.singleton_append, List.splitOn_append_cons_self,
    List.splitOn_intercalate '.' hparts hne', List.map_append, List.map_map, components]
  simp [Function.comp_def]

/-! ## Paths -/

namespace PathScheme

variable (s : PathScheme)

theorem components_subnetPath (c : Cidr) (k : MetricKey) :
    components (s.subnetPath c k) =
      components s.root ++ ["dhcp", "subnets", escape c.text, k.text] := by
  refine components_intercalate s.root (List.cons_ne_nil _ _) ?_
  simp [(isComponent_escape c.text).1, point_not_mem_key]

theorem components_pathUnder {server : String} (hserver : IsComponent server) (c : Cidr)
    (k : MetricKey) :
    components (s.pathUnder server c k) =
      components s.root ++ ["dhcp", "servers", server, "subnets", escape c.text, k.text] := by
  refine components_intercalate s.root (List.cons_ne_nil _ _) ?_
  simp [hserver.1, (isComponent_escape c.text).1, point_not_mem_key]

/-- The component that names a server is one, whatever the address. -/
theorem isComponent_server (address : String) (port : Nat) :
    IsComponent (escape address ++ "_" ++ Nat.repr port) :=
  isComponent_append.2 ⟨isComponent_append.2 ⟨isComponent_escape address, by decide⟩,
    isComponent_natRepr port⟩

theorem components_serverPath? (address : String) (port : Nat) (c : Cidr) (k : MetricKey) :
    ((s.withServer address port).serverPath? c k).map components =
      some (components s.root ++ ["dhcp", "servers", escape address ++ "_" ++ Nat.repr port,
        "subnets", escape c.text, k.text]) :=
  congrArg some ((s.withServer address port).components_pathUnder (isComponent_server address port)
    c k)

/-- **Paths have a fixed depth**, whatever the root, the address, the port, the
prefix and the key. A subnet's metric is at `dhcp`, `subnets`, the prefix and
the key below the root, and its metric under a server at `dhcp`, `servers`, the
server, `subnets`, the prefix and the key. An escaped text has no point, colon
or slash and is as long as it was, so what stands for a prefix or an address is
always one component, and moves no metric to another place of the tree. -/
theorem fixed_depth (address : String) (port : Nat) (c : Cidr) (k : MetricKey) :
    components (s.subnetPath c k) =
        components s.root ++ ["dhcp", "subnets", escape c.text, k.text] ∧
      ((s.withServer address port).serverPath? c k).map components =
        some (components s.root ++ ["dhcp", "servers", escape address ++ "_" ++ Nat.repr port,
          "subnets", escape c.text, k.text]) ∧
      (∀ text, IsComponent (escape text) ∧ (escape text).length = text.length) ∧
      IsComponent (escape address ++ "_" ++ Nat.repr port) ∧
      (components (s.subnetPath c k)).length = (components s.root).length + 4 ∧
      ((s.withServer address port).serverPath? c k).map (List.length ∘ components) =
        some ((components s.root).length + 6) := by
  refine ⟨s.components_subnetPath c k, s.components_serverPath? address port c k,
    fun text => ⟨isComponent_escape text, length_escape text⟩, isComponent_server address port,
    ?_, ?_⟩
  · simp [s.components_subnetPath]
  · rw [← Option.map_map, s.components_serverPath?]
    simp

/-- An address of four components, and a root of two. -/
example :
    (((PathScheme.ofRoot "nav.kea").withServer "a.b/c:d" 8000).serverPath?
        ⟨.ofNat .v4 0, 0, by decide⟩ .total).map components =
      some ["nav", "kea", "dhcp", "servers", "a_b_c_d_8000", "subnets", "0_0_0_0_0", "total"] := by
  decide +kernel

end PathScheme

end KeaGauge.Carbon
