import KeaGauge.Carbon.Receiver
import KeaGauge.Proofs.Carbon.Payload
/-!
# What a receiver gets

A receiver cuts what a connection brings at its line feeds only, so it gets a
line for each metric under each of its paths as soon as no path holds a line
feed (`textLines_payload`). Blanks do no harm here, nor do carriage returns: a
line ends with a digit, in front of which none is dropped. A sink that connects
to a receiver which is up then never refuses a batch, and all of the batch
arrives (`sink_eq`).
-/

namespace KeaGauge.Carbon

open Net (Cidr)

/-! ## Texts without line feeds -/

/-- A text that is in one line. -/
def IsUnbroken (s : String) : Prop := '\n' ∉ s.toList

instance (s : String) : Decidable (IsUnbroken s) := inferInstanceAs (Decidable (_ ∉ _))

theorem IsPlain.isUnbroken {s : String} (h : IsPlain s) : IsUnbroken s := h.2

theorem isUnbroken_append {s t : String} :
    IsUnbroken (s ++ t) ↔ IsUnbroken s ∧ IsUnbroken t := by
  simp only [IsUnbroken, String.toList_append, List.mem_append, not_or]

theorem isUnbroken_intercalate {parts : List String} :
    IsUnbroken (".".intercalate parts) ↔ ∀ part ∈ parts, IsUnbroken part := by
  have hpoint : ".".toList = ['.'] := rfl
  rw [IsUnbroken, String.toList_intercalate, hpoint, Text.mem_intercalate (by decide)]
  simp [IsUnbroken]

theorem isUnbroken_escape {s : String} : IsUnbroken (escape s) ↔ IsUnbroken s :=
  not_congr (mem_escape (by decide))

/-- A scheme whose paths are in one line: neither its root nor its server holds
a line feed. -/
def PathScheme.IsUnbroken (scheme : PathScheme) : Prop :=
  Carbon.IsUnbroken scheme.root ∧ ∀ server ∈ scheme.server, Carbon.IsUnbroken server

theorem PathScheme.IsUnbroken.paths {scheme : PathScheme} (h : scheme.IsUnbroken) (m : Metric) :
    ∀ path ∈ scheme.paths m, Carbon.IsUnbroken path := by
  obtain ⟨hroot, hserver⟩ := h
  have hcidr := (isPlain_cidr m.cidr).isUnbroken
  have hkey := (isPlain_key m.key).isUnbroken
  have hfixed : Carbon.IsUnbroken "dhcp" ∧ Carbon.IsUnbroken "subnets" ∧
      Carbon.IsUnbroken "servers" := by decide
  intro path hpath
  rw [PathScheme.paths, List.mem_cons, Option.mem_toList, PathScheme.serverPath?,
    Option.map_eq_some_iff] at hpath
  rcases hpath with rfl | ⟨server, hmem, rfl⟩
  · rw [PathScheme.subnetPath, isUnbroken_intercalate]
    simp [hroot, hfixed, hcidr, hkey]
  · rw [PathScheme.pathUnder, isUnbroken_intercalate]
    simp [hroot, hfixed, hcidr, hkey, hserver server hmem]

/-! ## The lines of a batch -/

namespace Writer

variable {w : Writer} {batch more : List Metric} {r : Receiver}

/-- **The lines that a batch is to arrive as**: the fields of each metric under
each of its paths, with a blank between them. -/
def texts (w : Writer) (batch : List Metric) : List String :=
  (w.records batch).map fun fields => " ".intercalate fields

theorem texts_append (w : Writer) (batch more : List Metric) :
    w.texts (batch ++ more) = w.texts batch ++ w.texts more := by
  rw [texts, records, List.flatMap_append, List.map_append]
  rfl

theorem texts_eq_flatMap (w : Writer) (batch : List Metric) :
    w.texts batch = batch.flatMap fun m => (w.scheme.paths m).map fun path =>
      path ++ " " ++ Int.repr m.value ++ " " ++ Int.repr m.instant.epoch := by
  rw [texts, records, List.map_flatMap]
  refine List.flatMap_congr fun m _ => ?_
  rw [List.map_map]
  refine List.map_congr_left fun path _ => ?_
  simp [String.intercalate_cons_cons, String.append_assoc]

/-- The last field of a line ends with a digit. -/
theorem getLast?_joined (path : String) (m : Metric) :
    (joined [path, Int.repr m.value, Int.repr m.instant.epoch]).getLast? ≠ some '\r' := by
  intro h
  have hlast : (Int.repr m.instant.epoch).toList ≠ [] := by
    rw [Text.toList_repr]
    simp
  have hjoined : joined [path, Int.repr m.value, Int.repr m.instant.epoch] =
      path.toList ++ [' '] ++ (Int.repr m.value).toList ++ [' '] ++
        (Int.repr m.instant.epoch).toList := by
    simp [joined, List.intercalate]
  rw [hjoined, List.getLast?_append_of_ne_nil _ hlast] at h
  have hmem := List.mem_of_getLast? h
  rw [Text.toList_repr, List.mem_append] at hmem
  rcases hmem with hmem | hmem
  · split at hmem
    · exact absurd (List.mem_singleton.1 hmem) (by decide)
    · exact absurd hmem List.not_mem_nil
  · exact absurd (not_isBlank_of_mem_toDigits hmem) (by decide)

/-- Lines in one piece are cut as they were written. -/
theorem textLines_payload (h : w.scheme.IsUnbroken) :
    textLines (w.payload batch) = w.texts batch := by
  have hrecord : ∀ fields ∈ w.records batch, ∃ m path, path ∈ w.scheme.paths m ∧
      fields = [path, Int.repr m.value, Int.repr m.instant.epoch] := by
    intro fields hfields
    obtain ⟨m, -, hfields⟩ := List.mem_flatMap.1 hfields
    obtain ⟨path, hpath, rfl⟩ := List.mem_map.1 hfields
    exact ⟨m, path, hpath, rfl⟩
  have hended : ∀ line ∈ (w.records batch).map joined, '\n' ∉ line := by
    refine List.forall_mem_map.2 fun fields hfields hmem => ?_
    obtain ⟨m, path, hpath, rfl⟩ := hrecord fields hfields
    rw [joined, Text.mem_intercalate (by decide)] at hmem
    obtain ⟨piece, hpiece, hmem⟩ := hmem
    obtain ⟨field, hfield, rfl⟩ := List.mem_map.1 hpiece
    simp only [List.mem_cons, List.not_mem_nil, or_false] at hfield
    rcases hfield with rfl | rfl | rfl
    · exact h.paths m _ hpath hmem
    · exact (isPlain_intRepr _).2 hmem
    · exact (isPlain_intRepr _).2 hmem
  have hlines : (w.payload batch).toList.splitOn '\n' = (w.records batch).map joined ++ [[]] := by
    rw [toList_payload, ← Text.splitOn_ended hended, List.flatMap_map]
  -- no carriage return is dropped, for none stands at the end of a line
  have hdropped : ((w.records batch).map joined).map (dropReturn '\r') =
      (w.records batch).map joined := by
    rw [List.map_map]
    refine List.map_congr_left fun fields hfields => ?_
    obtain ⟨m, path, -, rfl⟩ := hrecord fields hfields
    exact if_neg (getLast?_joined path m)
  have htext : String.ofList ∘ joined = fun fields => " ".intercalate fields := by
    funext fields
    rw [← String.toList_inj, Function.comp_apply, String.toList_ofList, String.toList_intercalate]
    rfl
  have hnothing : ((some ([] : List Char)).filter (!·.isEmpty)).toList = [] := rfl
  rw [textLines, cutLines, hlines]
  simp only [List.dropLast_concat, hdropped, List.getLast?_concat, hnothing, List.append_nil,
    List.map_map, htext]
  rfl

/-- **A receiver that is up gets all lines of a batch.** -/
theorem sink_eq (h : w.scheme.IsUnbroken) (up : r.isUp = true) (batch : List Metric) :
    w.sink r batch = (.ok (), { r with lines := r.lines ++ w.texts batch }) := by
  have hlines : textLines (w.payload batch) = w.texts batch := textLines_payload h
  by_cases hempty : (w.payload batch).isEmpty = true
  · -- an empty payload has no lines
    have hnone : w.texts batch = [] := by
      rw [← hlines, String.isEmpty_iff.1 hempty]
      rfl
    simp only [sink, hempty, if_true, hnone, List.append_nil]
  · simp only [sink, hempty, Receiver.accept, up, if_true, hlines]
    rfl

end Writer

end KeaGauge.Carbon
