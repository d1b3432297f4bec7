import KeaGauge.Carbon.Writer
import KeaGauge.Proofs.Net.Cidr
import KeaGauge.Proofs.Text.Splitting
/-!
# Payloads read back

A payload knows no quotation: line feeds end its lines and blanks cut them into
fields. So what was written is found again just when no field holds either
(`cut_payload_iff_isPlain`). Only two parts of a field are not the library's
own, the root of the paths and the address of a target, and escaping takes no
blanks out of an address (`isPlain_escape`). So what was written is found again
just when these two are free of them (`cut_payload_iff`).
-/

namespace KeaGauge.Carbon

open Net (Cidr)

/-! ## Plain texts -/

/-- A text without blanks and line feeds. -/
def IsPlain (s : String) : Prop := ' ' ∉ s.toList ∧ '\n' ∉ s.toList

instance (s : String) : Decidable (IsPlain s) := inferInstanceAs (Decidable (_ ∧ _))

theorem isPlain_append {s t : String} : IsPlain (s ++ t) ↔ IsPlain s ∧ IsPlain t := by
  simp only [IsPlain, String.toList_append, List.mem_append, not_or]
  exact and_and_and_comm

theorem isPlain_intercalate {separator : String} (h : IsPlain separator) {parts : List String} :
    IsPlain (separator.intercalate parts) ↔ ∀ part ∈ parts, IsPlain part := by
  induction parts with
  | nil => simp [IsPlain]
  | cons part rest ih =>
    cases rest with
    | nil => simp
    | cons next rest =>
      rw [String.intercalate_cons_cons, isPlain_append, isPlain_append, ih,
        List.forall_mem_cons (a := part)]
      exact and_congr_left fun _ => and_iff_left h

/-- What holds no white space at all is plain. -/
theorem isPlain_of_not_isBlank {s : String} (h : ∀ c ∈ s.toList, Text.isBlank c = false) :
    IsPlain s :=
  ⟨fun hmem => absurd (h _ hmem) (by decide), fun hmem => absurd (h _ hmem) (by decide)⟩

theorem not_isBlank_of_mem_toDigits {n : Nat} {c : Char} (h : c ∈ Nat.toDigits 10 n) :
    Text.isBlank c = false :=
  Text.not_isBlank_of_isDigit (Nat.isDigit_of_mem_toDigits (by decide) (by decide) h)

theorem isPlain_natRepr (n : Nat) : IsPlain (Nat.repr n) :=
  isPlain_of_not_isBlank fun c hc => not_isBlank_of_mem_toDigits (by simpa [Nat.repr] using hc)

theorem isPlain_intRepr (n : Int) : IsPlain (Int.repr n) := by
  refine isPlain_of_not_isBlank fun c hc => ?_
  rw [Text.toList_repr, List.mem_append] at hc
  rcases hc with hc | hc
  · split at hc
    · rw [List.mem_singleton.1 hc]
      rfl
    · exact absurd hc List.not_mem_nil
  · exact not_isBlank_of_mem_toDigits hc

/-! ## Plain paths -/

/-- A character that is neither escaped nor what stands for the escaped ones
is only where it was. -/
theorem escapeChar_eq_iff {c d : Char} (hd : d ∉ ['.', ':', '/', '_']) :
    escapeChar c = d ↔ c = d := by
  unfold escapeChar
  split
  · next hc =>
    constructor
    · rintro rfl
      exact absurd hd (by decide)
    · rintro rfl
      rcases hc with rfl | rfl | rfl <;> exact absurd hd (by decide)
  · exact Iff.rfl

theorem mem_escape {s : String} {d : Char} (hd : d ∉ ['.', ':', '/', '_']) :
    d ∈ (escape s).toList ↔ d ∈ s.toList := by
  simp [escape, escapeChar_eq_iff hd]

/-- **Escaping leaves blanks and line feeds where they are.** -/
theorem isPlain_escape {s : String} : IsPlain (escape s) ↔ IsPlain s := by
  have hblank : ' ' ∈ (escape s).toList ↔ ' ' ∈ s.toList := mem_escape (by decide)
  have hfeed : '\n' ∈ (escape s).toList ↔ '\n' ∈ s.toList := mem_escape (by decide)
  rw [IsPlain, IsPlain, hblank, hfeed]

theorem isPlain_cidr (n : Cidr) : IsPlain (escape n.text) :=
  isPlain_escape.2 (isPlain_of_not_isBlank fun c hc =>
    Cidr.not_isBlank_of_mem_chars (by rwa [Cidr.text, String.toList_ofList] at hc))

theorem isPlain_key (key : MetricKey) : IsPlain key.text := by
  cases key <;> decide

/-- **The paths of a scheme are plain** just when its root and its server
are. -/
theorem isPlain_paths (scheme : PathScheme) (m : Metric) :
    (∀ path ∈ scheme.paths m, IsPlain path) ↔
      IsPlain scheme.root ∧ ∀ server ∈ scheme.server, IsPlain server := by
  have hpoint : IsPlain "." := by decide
  have hfixed : IsPlain "dhcp" ∧ IsPlain "subnets" ∧ IsPlain "servers" := by decide
  have hsubnet : IsPlain (scheme.subnetPath m.cidr m.key) ↔ IsPlain scheme.root := by
    simp only [PathScheme.subnetPath, isPlain_intercalate hpoint, List.forall_mem_cons]
    simp [hfixed, isPlain_cidr, isPlain_key]
  have hserver : ∀ server, IsPlain (scheme.pathUnder server m.cidr m.key) ↔
      IsPlain scheme.root ∧ IsPlain server := fun server => by
    simp only [PathScheme.pathUnder, isPlain_intercalate hpoint, List.forall_mem_cons]
    simp [hfixed, isPlain_cidr, isPlain_key]
  rw [PathScheme.paths, List.forall_mem_cons, hsubnet, PathScheme.serverPath?]
  cases scheme.server with
  | none => simp
  | some server => simp [hserver]

/-! ## Cutting -/

/-- **What a payload is cut into**: the fields of each of its lines, and what
is left behind the last line feed. -/
def cut (payload : String) : List (List String) × String :=
  let lines := payload.toList.splitOn '\n'
  (lines.dropLast.map fun line => (line.splitOn ' ').map String.ofList,
    String.ofList (lines.getLastD []))

/-- Fields as a line, its end apart. -/
def joined (fields : List String) : List Char := [' '].intercalate (fields.map String.toList)

section Cutting

variable {payload rest : String} {records : List (List String)}

/-- What has been cut out is plain. -/
theorem isPlain_of_cut_eq (h : cut payload = (records, rest)) :
    ∀ fields ∈ records, ∀ field ∈ fields, IsPlain field := by
  intro fields hfields field hfield
  rw [← (Prod.mk.inj h).1, List.mem_map] at hfields
  obtain ⟨line, hline, rfl⟩ := hfields
  obtain ⟨piece, hpiece, rfl⟩ := List.mem_map.1 hfield
  have hended := Text.not_mem_of_mem_splitOn (List.mem_of_mem_dropLast hline)
  rw [IsPlain, String.toList_ofList]
  exact ⟨Text.not_mem_of_mem_splitOn hpiece,
    fun hmem => hended (Text.mem_of_mem_splitOn hpiece hmem)⟩

/-- Plain fields are cut out as they were joined. -/
theorem splitOn_joined {fields : List String} (hne : fields ≠ [])
    (hplain : ∀ field ∈ fields, IsPlain field) :
    ((joined fields).splitOn ' ').map String.ofList = fields := by
  have hblank : ∀ piece ∈ fields.map String.toList, ' ' ∉ piece :=
    List.forall_mem_map.2 fun field hfield => (hplain field hfield).1
  rw [joined, List.splitOn_intercalate ' ' hblank (by simpa using hne), List.map_map]
  simp [Function.comp_def]

/-- **Lines of plain fields are cut as they were joined**, and nothing is left
behind the last one. -/
theorem cut_of_isPlain (hpayload : payload.toList = records.flatMap fun f => joined f ++ ['\n'])
    (hne : ∀ fields ∈ records, fields ≠ [])
    (hplain : ∀ fields ∈ records, ∀ field ∈ fields, IsPlain field) :
    cut payload = (records, "") := by
  have hended : ∀ line ∈ records.map joined, '\n' ∉ line := by
    refine List.forall_mem_map.2 fun fields hfields hmem => ?_
    rw [joined, Text.mem_intercalate (by decide)] at hmem
    obtain ⟨piece, hpiece, hmem⟩ := hmem
    obtain ⟨field, hfield, rfl⟩ := List.mem_map.1 hpiece
    exact (hplain fields hfields field hfield).2 hmem
  have hlines : payload.toList.splitOn '\n' = records.map joined ++ [[]] := by
    rw [hpayload, ← Text.splitOn_ended hended, List.flatMap_map]
  have hrecords : (records.map joined).map (fun line => (line.splitOn ' ').map String.ofList) =
      records := by
    rw [List.map_map]
    calc records.map _ = records.map id := List.map_congr_left fun fields hfields =>
          splitOn_joined (hne fields hfields) (hplain fields hfields)
      _ = records := List.map_id records
  simp only [cut, hlines, List.dropLast_concat, hrecords]
  simp

end Cutting

/-! ## What is written -/

namespace Writer

/-- The writer of settings, for a target when there is one. -/
def ofTarget? (s : Settings.Carbon) (target : Option Settings.Target) : Writer :=
  target.elim (.ofSettings s) (Writer.ofSettings s).forTarget

/-- **What is to be told of a batch**: of each metric under each of its paths,
that of its subnet first and then that under the server if there is one, the
path, the value and the second. -/
def records (w : Writer) (batch : List Metric) : List (List String) :=
  batch.flatMap fun m =>
    (w.scheme.subnetPath m.cidr m.key :: (w.scheme.serverPath? m.cidr m.key).toList).map
      fun path => [path, Int.repr m.value, Int.repr m.instant.epoch]

variable {w : Writer} {batch : List Metric}

/-- A line is the fields of a path and the end. -/
theorem toList_line (m : Metric) (path : String) :
    (line m path).toList = joined [path, Int.repr m.value, Int.repr m.instant.epoch] ++ ['\n'] := by
  simp [line, joined, List.intercalate, ToString.toString]

theorem toList_payload (w : Writer) (batch : List Metric) :
    (w.payload batch).toList = (w.records batch).flatMap fun f => joined f ++ ['\n'] := by
  rw [payload, String.toList_join, records, List.flatMap_assoc, List.flatMap_assoc]
  refine List.flatMap_congr fun m _ => ?_
  rw [lines, List.flatMap_map, List.flatMap_map, PathScheme.paths]
  exact List.flatMap_congr fun path _ => toList_line m path

/-- What is written is plain just when the paths are. -/
theorem isPlain_records (hbatch : batch ≠ []) :
    (∀ fields ∈ w.records batch, ∀ field ∈ fields, IsPlain field) ↔
      IsPlain w.scheme.root ∧ ∀ server ∈ w.scheme.server, IsPlain server := by
  have hfields : ∀ m, (∀ path ∈ w.scheme.paths m, ∀ field ∈
      [path, Int.repr m.value, Int.repr m.instant.epoch], IsPlain field) ↔
        IsPlain w.scheme.root ∧ ∀ server ∈ w.scheme.server, IsPlain server := fun m => by
    simp only [← isPlain_paths w.scheme m, List.forall_mem_cons, isPlain_intRepr]
    simp
  simp only [records, List.forall_mem_flatMap, List.forall_mem_map]
  obtain ⟨m, hm⟩ := List.exists_mem_of_ne_nil batch hbatch
  exact ⟨fun h => (hfields m).1 (h m hm), fun h m _ => (hfields m).2 h⟩

/-- **A payload is read back just when its paths are plain.** -/
theorem cut_payload_iff_isPlain (hbatch : batch ≠ []) :
    cut (w.payload batch) = (w.records batch, "") ↔
      IsPlain w.scheme.root ∧ ∀ server ∈ w.scheme.server, IsPlain server := by
  rw [← isPlain_records hbatch]
  refine ⟨isPlain_of_cut_eq, cut_of_isPlain (toList_payload w batch) fun fields hfields => ?_⟩
  obtain ⟨m, -, hfields⟩ := List.mem_flatMap.1 hfields
  obtain ⟨path, -, rfl⟩ := List.mem_map.1 hfields
  exact List.cons_ne_nil _ _

/-- The paths of a target are plain just when the root is and, if there are
paths under the target, its address. -/
theorem isPlain_ofTarget? (s : Settings.Carbon) (target : Option Settings.Target) :
    (IsPlain (ofTarget? s target).scheme.root ∧
        ∀ server ∈ (ofTarget? s target).scheme.server, IsPlain server) ↔
      IsPlain s.root ∧ ∀ t ∈ target, s.perServerPaths = true → IsPlain t.address := by
  have hjoint : IsPlain "_" := by decide
  cases target with
  | none => simp [ofTarget?, ofSettings, PathScheme.ofRoot]
  | some t =>
    cases hserver : s.perServerPaths <;>
      simp [ofTarget?, ofSettings, forTarget, hserver, PathScheme.ofRoot, PathScheme.withServer,
        isPlain_append, isPlain_escape, isPlain_natRepr, hjoint]

/-- **A payload is read back exactly when it can be.** Cut at its line feeds
and blanks it gives the path, the value and the second of each metric under
each of its paths, with nothing left over, if and only if neither the root nor
the address that paths are under holds a blank or a line feed. -/
theorem cut_payload_iff (s : Settings.Carbon) (target : Option Settings.Target)
    (hbatch : batch ≠ []) :
    cut ((ofTarget? s target).payload batch) = ((ofTarget? s target).records batch, "") ↔
      IsPlain s.root ∧ ∀ t ∈ target, s.perServerPaths = true → IsPlain t.address :=
  (cut_payload_iff_isPlain hbatch).trans (isPlain_ofTarget? s target)

/-- Settings with paths under servers. -/
def perServer : Settings.Carbon := { Settings.Carbon.standard with perServerPaths := true }

/-- A count below zero of a mapped prefix, a month before 1970. -/
def earlyMetric : Metric where
  instant := ⟨⟨1969, 11, 30, by decide, by decide, by decide⟩,
    ⟨21, 40, 57, 0, by decide, by decide, by decide, by decide⟩⟩
  cidr := ⟨.ofNat .v6 0xffffc0000201, 96, by decide⟩
  key := .declined
  value := -0x8000000000000000

/-- A metric under two paths is read back, unless the address of the target
holds a blank. -/
theorem cut_payload_two_paths :
    [earlyMetric] ≠ [] ∧
      cut ((ofTarget? perServer (some (.ofEndpoint "192.0.2.10" 8000))).payload [earlyMetric]) =
        ([["nav.dhcp.subnets.__ffff_192_0_2_1_96.declined", "-9223372036854775808", "-2686743"],
          ["nav.dhcp.servers.192_0_2_10_8000.subnets.__ffff_192_0_2_1_96.declined",
            "-9223372036854775808", "-2686743"]], "") ∧
      cut ((ofTarget? perServer (some (.ofEndpoint "kea core" 8000))).payload [earlyMetric]) ≠
        ((ofTarget? perServer (some (.ofEndpoint "kea core" 8000))).records [earlyMetric], "") := by
  have hbatch : [earlyMetric] ≠ [] := List.cons_ne_nil _ _
  have hrecords : (ofTarget? perServer (some (.ofEndpoint "192.0.2.10" 8000))).records
      [earlyMetric] =
        [["nav.dhcp.subnets.__ffff_192_0_2_1_96.declined", "-9223372036854775808", "-2686743"],
          ["nav.dhcp.servers.192_0_2_10_8000.subnets.__ffff_192_0_2_1_96.declined",
            "-9223372036854775808", "-2686743"]] := by
    decide +kernel
  refine ⟨hbatch, ?_, fun h => ?_⟩
  · rw [← hrecords]
    exact (cut_payload_iff _ _ hbatch).2 (by decide)
  · have haddress := ((cut_payload_iff _ _ hbatch).1 h).2 _ rfl rfl
    revert haddress
    decide

end Writer

end KeaGauge.Carbon
