import KeaGauge.Proofs.Json.RoundTrip
import KeaGauge.Proofs.Settings.Leniency
import KeaGauge.Settings.Encoding
/-!
# Settings written and read

What settings are written as, as a value or as a text, is decoded as these
settings (`decode_toJson`, `parse?_toJson`). The members of what is written are in the
order of their names, not of the fields, which makes no difference as fields
are apart. Nor does it what else stands there, and what is written is all that
matters of a document (`survives_encoding`).
-/

namespace KeaGauge.Settings

open Json (Value Object)

/-! ## What is written is decoded -/

/-- A section written as an object is decoded as its members are set, in
whatever order they are given. -/
theorem decodeSection_ofMembers {σ : Type} {fields : List (Field Value σ)} {start s : σ}
    {members : List (String × Value)} (apart : fields.Pairwise Field.Apart)
    (once : (members.map (·.1)).Nodup)
    (h : members.foldlM (setMember fields) start = .ok s) :
    json.decodeSection fields start (.ofMembers members) = .ok s := by
  have hperm := (Object.perm_ofMembers once).symm
  have hview : json.view (.ofMembers members) = .table (Object.ofMembers members) := rfl
  rw [Format.decodeSection_of_table hview]
  exact foldlM_perm apart hperm once h

theorem Polling.decode_toJson (s : Polling) : json.polling s.toJson = .ok s := by
  rw [Format.polling]
  refine decodeSection_ofMembers json.apart_pollingFields (by simp) ?_
  rw [foldlM_known rfl (Format.word64_of_view rfl), foldlM_known rfl (Format.word64_of_view rfl)]
  rfl

theorem Collecting.decode_toJson (s : Collecting) : json.collecting s.toJson = .ok s := by
  rw [Format.collecting]
  refine decodeSection_ofMembers json.apart_collectingFields (by simp) ?_
  rw [foldlM_known rfl (Format.policy_of_text rfl), foldlM_known rfl (Format.word64_of_view rfl)]
  rfl

theorem Carbon.decode_toJson (s : Carbon) : json.carbon s.toJson = .ok s := by
  rw [Format.carbon]
  refine decodeSection_ofMembers json.apart_carbonFields (by simp) ?_
  rw [foldlM_known rfl (Format.text_of_view rfl), foldlM_known rfl (Format.word16_of_view rfl),
    foldlM_known rfl (Format.text_of_view rfl), foldlM_known rfl (Format.truth_of_view rfl),
    foldlM_known rfl (Format.word64_of_view rfl)]
  rfl

theorem Target.decode_toJson (t : Target) : json.target t.toJson = .ok t := by
  obtain ⟨name, address, port, https, timeout, family⟩ := t
  have hrest : ∀ d : Target.Draft, List.foldlM (setMember json.targetFields) d
      [("address", Value.string address), ("port", .ofNat port.toNat), ("https", .bool https),
        ("timeout_secs", .ofNat timeout.toNat), ("dhcp_version", .ofNat family.number)] =
      .ok ⟨some address, some port, { d.target with https, timeout, family }⟩ := by
    intro d
    rw [foldlM_known rfl (Format.text_of_view rfl), foldlM_known rfl (Format.word16_of_view rfl),
      foldlM_known rfl (Format.truth_of_view rfl), foldlM_known rfl (Format.word64_of_view rfl),
      foldlM_known rfl (Format.family_of_view rfl)]
    rfl
  have hdraft : json.decodeSection json.targetFields .empty
      (toJson ⟨name, address, port, https, timeout, family⟩) =
      .ok ⟨some address, some port, ⟨name, "", 0, https, timeout, family⟩⟩ := by
    cases name with
    | none => exact decodeSection_ofMembers json.apart_targetFields (by simp) (hrest _)
    | some name =>
      refine decodeSection_ofMembers json.apart_targetFields (by simp) ?_
      exact (foldlM_known rfl (Format.name_of_text rfl)).trans (hrest _)
  rw [Format.target, hdraft]
  rfl

theorem Target.mapM_decode_toJson (targets : List Target) :
    (targets.map toJson).mapM json.target = .ok targets := by
  induction targets with
  | nil => rfl
  | cons t rest ih =>
    rw [List.map_cons, List.mapM_cons, t.decode_toJson, ih]
    rfl

/-- **Settings are decoded from what they are written as.** -/
theorem decode_toJson (s : Settings) : json.decode s.toJson = .ok s := by
  refine decodeSection_ofMembers json.apart_sections (by simp) ?_
  have htargets : json.targets (.list (s.targets.map Target.toJson)) = .ok s.targets :=
    Target.mapM_decode_toJson s.targets
  rw [foldlM_known rfl s.polling.decode_toJson, foldlM_known rfl s.collecting.decode_toJson,
    foldlM_known rfl s.carbon.decode_toJson, foldlM_known rfl htargets]
  rfl

/-! ## What is written is read -/

section Text

variable {depth : Nat}

/-- A word of 64 bits at most is read exactly. -/
theorem stable_ofNat {n : Nat} (h : n < 2 ^ 64) : (Value.ofNat n).Stable depth :=
  .int ⟨by omega, by omega⟩

theorem stable_port (port : UInt16) : (Value.ofNat port.toNat).Stable depth :=
  stable_ofNat (port.toNat_lt.trans (by decide))

theorem Polling.stable_toJson (s : Polling) : s.toJson.Stable (depth + 1) := by
  refine .ofMembers ?_
  simp only [List.forall_mem_cons, List.not_mem_nil, false_imp_iff, implies_true, and_true]
  exact ⟨stable_ofNat s.interval.toNat_lt, stable_ofNat s.parallel.toNat_lt⟩

theorem Collecting.stable_toJson (s : Collecting) : s.toJson.Stable (depth + 1) := by
  refine .ofMembers ?_
  simp only [List.forall_mem_cons, List.not_mem_nil, false_imp_iff, implies_true, and_true]
  exact ⟨.string _, stable_ofNat s.concurrency.toNat_lt⟩

theorem Carbon.stable_toJson (s : Carbon) : s.toJson.Stable (depth + 1) := by
  refine .ofMembers ?_
  simp only [List.forall_mem_cons, List.not_mem_nil, false_imp_iff, implies_true, and_true]
  exact ⟨.string _, stable_port _, .string _, .bool _, stable_ofNat s.timeout.toNat_lt⟩

theorem Target.stable_toJson (t : Target) : t.toJson.Stable (depth + 1) := by
  have hfamily : (Value.ofNat t.family.number).Stable depth := by
    cases t.family <;> exact stable_ofNat (by decide)
  refine .ofMembers (List.forall_mem_append.2 ⟨fun m hm => ?_, ?_⟩)
  · obtain ⟨name, -, rfl⟩ := by simpa using hm
    exact .string name
  · simp only [List.forall_mem_cons, List.not_mem_nil, false_imp_iff, implies_true, and_true]
    exact ⟨.string _, stable_port _, .bool _, stable_ofNat t.timeout.toNat_lt, hfamily⟩

theorem stable_toJson (s : Settings) : s.toJson.Stable (depth + 3) := by
  have htargets : (Value.list (s.targets.map Target.toJson)).Stable (depth + 2) := by
    refine .list fun v hv => ?_
    obtain ⟨t, -, rfl⟩ := List.mem_map.1 hv
    exact t.stable_toJson
  refine .ofMembers ?_
  simp only [List.forall_mem_cons, List.not_mem_nil, false_imp_iff, implies_true, and_true]
  exact ⟨s.polling.stable_toJson, s.collecting.stable_toJson, s.carbon.stable_toJson, htargets⟩

/-- **The text of settings is read** as what it is the text of. -/
theorem parse?_toJson (s : Settings) : Json.parse? s.toJson.text = some s.toJson :=
  (s.stable_toJson : s.toJson.Stable Json.maxDepth).parse?_text

end Text

/-! ## What becomes of settings -/

/-- **Settings survive being written.** They are decoded from what they are
written as, which is what its text is read as, and members that mean nothing
may be added to any part of it. Settings that a document holds, of whatever
format, are held by what they are written as; and members of the document whose
values are their defaults may be left out of any part of it, as members that
mean nothing may be added. -/
theorem survives_encoding :
    (∀ s : Settings, json.decode s.toJson = .ok s ∧ Json.parse? s.toJson.text = some s.toJson ∧
      ∀ w, json.Widened s.toJson w → json.decode w = .ok s) ∧
    ∀ (α : Type) (f : Format α) (v : α) (s : Settings), f.decode v = .ok s →
      json.decode s.toJson = .ok s ∧ (∀ w, f.Widened v w → f.decode w = .ok s) ∧
        ∀ w, f.Thinned v w → f.decode w = .ok s := by
  refine ⟨fun s => ⟨s.decode_toJson, s.parse?_toJson, fun w hw => ?_⟩,
    fun α f v s hv => ⟨s.decode_toJson, fun w hw => ?_, fun w hw => ?_⟩⟩
  · exact (Format.decode_eq_of_widened hw).symm.trans s.decode_toJson
  · exact (Format.decode_eq_of_widened hw).symm.trans hv
  · exact (Format.decode_eq_of_thinned hw).symm.trans hv

/-! ## A target that says little -/

namespace Endpoint

/-- A target known by no more than an address and a port. -/
def target : Target := .ofEndpoint "192.0.2.1" 8000

/-- Settings of this target only. -/
def settings : Settings := { standard with targets := [target] }

/-- The members of the target as it is written. -/
def members : Object :=
  Object.ofMembers [("address", .string "192.0.2.1"), ("port", .ofNat 8000),
    ("https", .bool true), ("timeout_secs", .ofNat 10), ("dhcp_version", .ofNat 4)]

/-- The target with a remark. -/
def remarked : Value := .object (("remark", .string "spare") :: members)

/-- The target as a document may have it. -/
def terse : Value := .object [("address", .string "192.0.2.1"), ("port", .int 8000)]

/-- The target with how it is spoken to. -/
def spelled : Value :=
  .object [("address", .string "192.0.2.1"), ("https", .bool true), ("port", .int 8000)]

/-- A document of one target. -/
def document (target : Value) : Value := .object [("targets", .list [target])]

theorem remarked_more :
    json.More "remark" (.string "spare") (.object members) remarked := by
  refine .intro (show _ = View.table ([] ++ members) from rfl)
    (show _ = View.table ([] ++ _ :: members) from rfl) fun m hm => ?_
  have hnames : ∀ n ∈ [("address", Value.string "192.0.2.1"), ("port", .ofNat 8000),
      ("https", .bool true), ("timeout_secs", .ofNat 10), ("dhcp_version", .ofNat 4)],
      n.1 ≠ "remark" := by simp
  exact hnames m (Object.mem_ofMembers hm)

/-- Among the sections that are written, wherever the targets stand, the target
may have a remark. -/
theorem widened : ∃ front back, json.Widened settings.toJson
    (.object (front ++ ("targets", .list [remarked]) :: back)) := by
  have hmem : ("targets", Value.list [.object members]) ∈ Object.ofMembers
      [("poller", settings.polling.toJson), ("collector", settings.collecting.toJson),
        ("carbon", settings.carbon.toJson), ("targets", .list [.object members])] :=
    (Object.perm_ofMembers (by simp)).mem_iff.2 (by simp)
  obtain ⟨front, back, hmembers⟩ := List.append_of_mem hmem
  have hlist : json.Within json.Widens .targets (.list [.object members]) (.list [remarked]) :=
    .target (show _ = View.list ([] ++ _ :: []) from rfl)
      (show _ = View.list ([] ++ _ :: []) from rfl)
      (.here ⟨_, _, by simp [Part.names], remarked_more⟩)
  exact ⟨front, back, .single (.member (by simp [Part.sections])
    (congrArg View.table hmembers) rfl hlist)⟩

theorem thinned : json.Thinned (document spelled) (document terse) := by
  have hmore : json.More "https" (.bool true) terse spelled :=
    .intro (show _ = View.table ([_] ++ [_]) from rfl) rfl (by simp)
  have hlist : json.Within json.Thins .targets (.list [spelled]) (.list [terse]) :=
    .target (show _ = View.list ([] ++ _ :: []) from rfl)
      (show _ = View.list ([] ++ _ :: []) from rfl)
      (.here ⟨_, _, .plain (by simp [Part.defaults, json]), hmore⟩)
  exact .single (.member (by simp [Part.sections]) (show _ = View.table ([] ++ _ :: []) from rfl)
    (show _ = View.table ([] ++ _ :: []) from rfl) hlist)

end Endpoint

/-- The settings of a target that says little, with a remark where they are
written, and where a document does not say how the target is spoken to. -/
theorem survives_encoding_endpoint :
    (∃ front back, json.decode (.object (front ++ ("targets", .list [Endpoint.remarked]) :: back)) =
      .ok Endpoint.settings) ∧
    json.decode (Endpoint.document Endpoint.spelled) = .ok Endpoint.settings ∧
    json.decode (Endpoint.document Endpoint.terse) = .ok Endpoint.settings := by
  obtain ⟨front, back, hwidened⟩ := Endpoint.widened
  have hspelled : json.decode (Endpoint.document Endpoint.spelled) = .ok Endpoint.settings := rfl
  exact ⟨⟨front, back, (survives_encoding.1 Endpoint.settings).2.2 _ hwidened⟩, hspelled,
    (survives_encoding.2 _ _ _ _ hspelled).2.2 _ Endpoint.thinned⟩

end KeaGauge.Settings
