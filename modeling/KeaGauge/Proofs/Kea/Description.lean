import KeaGauge.Proofs.Kea.Snapshot
import KeaGauge.Proofs.Net.Cidr
import KeaGauge.Proofs.Text.Splitting
/-!
# Drifts in words

The description of a drift loses nothing. Its parts are joined by semicolons
and what is in a part by commas, and neither stands in an id or a prefix
(`not_mem_text`); an id ends at its bracket and a prefix at a blank. So parts,
changes and what they are of are found again, each from the text that it stands
in, and no two drifts are described alike (`text_inj`). The description is empty
only where nothing changed, and so never between two snapshots that differ
(`text_ne_empty`).
-/

namespace KeaGauge.Kea

open Net (Cidr)

/-! ## Entries -/

/-- An id with a bracket behind it is known, and so is what follows. -/
theorem bracketed_inj {m n : Nat} {rest others : List Char} :
    Nat.toDigits 10 m ++ ']' :: rest = Nat.toDigits 10 n ++ ']' :: others ↔
      m = n ∧ rest = others := by
  have hdigits : ∀ n, ∀ c ∈ Nat.toDigits 10 n, Text.isDigitIn 10 c = true := fun n c hc =>
    Text.isDigitIn_of_mem_toDigits (by decide) (by decide) hc
  have hbracket : ∀ rest, ∀ c ∈ (']' :: rest : List Char).head?, Text.isDigitIn 10 c = false := by
    intro rest c hc
    obtain rfl := Option.some.inj hc
    rfl
  rw [Text.run_append_inj (hdigits m) (hdigits n) (hbracket rest) (hbracket others),
    Text.toDigits_inj (by decide) (by decide), List.cons.injEq, and_iff_right rfl]

theorem Assignment.toList_text (a : Assignment) :
    a.text.toList = "subnet[".toList ++ (Nat.toDigits 10 a.id ++ ']' :: ' ' :: a.cidr.chars) := by
  simp [text, Nat.repr, Cidr.text]

theorem Reprefixed.toList_text (r : Reprefixed) :
    r.text.toList = "subnet[".toList ++ (Nat.toDigits 10 r.id ++
      ']' :: ' ' :: (r.old.chars ++ ' ' :: '-' :: '>' :: ' ' :: r.new.chars)) := by
  simp [text, Nat.repr, Cidr.text]

/-- **An assignment is known from its text.** -/
theorem Assignment.text_inj {a b : Assignment} (h : a.text = b.text) : a = b := by
  rw [← String.toList_inj, toList_text, toList_text, List.append_cancel_left_eq, bracketed_inj,
    List.cons.injEq] at h
  obtain ⟨hid, -, hcidr⟩ := h
  calc a = ⟨a.id, a.cidr⟩ := rfl
    _ = ⟨b.id, b.cidr⟩ := by rw [hid, Cidr.chars_inj hcidr]
    _ = b := rfl

/-- **A change of prefix is known from its text**: no blank is in the prefix
before. -/
theorem Reprefixed.text_inj {r s : Reprefixed} (h : r.text = s.text) : r = s := by
  have hold : ∀ c : Cidr, ∀ x ∈ c.chars, (!Text.isBlank x) = true := fun c x hx => by
    rw [Cidr.not_isBlank_of_mem_chars hx, Bool.not_false]
  have hblank : ∀ rest, ∀ x ∈ (' ' :: rest : List Char).head?, (!Text.isBlank x) = false := by
    intro rest x hx
    obtain rfl := Option.some.inj hx
    rfl
  rw [← String.toList_inj, toList_text, toList_text, List.append_cancel_left_eq, bracketed_inj,
    List.cons.injEq, Text.run_append_inj (hold _) (hold _) (hblank _) (hblank _)] at h
  obtain ⟨hid, -, hbefore, hafter⟩ := h
  simp only [List.cons.injEq, true_and] at hafter
  calc r = ⟨r.id, r.old, r.new⟩ := rfl
    _ = ⟨s.id, s.old, s.new⟩ := by rw [hid, Cidr.chars_inj hbefore, Cidr.chars_inj hafter]
    _ = s := rfl

/-- **What a text is put together with** is nothing that an id or a prefix is
written with. -/
def IsMark (c : Char) : Prop := c = ',' ∨ c = ';' ∨ c = '('

theorem not_mem_cidr {n : Cidr} {c : Char} (hc : IsMark c) : c ∉ n.chars := by
  intro h
  rcases hc with rfl | rfl | rfl <;> exact absurd (Cidr.mem_chars h) (by decide)

theorem not_mem_id {n : Nat} {c : Char} (hc : IsMark c) : c ∉ Nat.toDigits 10 n := by
  rcases hc with rfl | rfl | rfl <;> exact Text.not_mem_toDigits (by decide) (by decide) rfl

theorem Assignment.not_mem_text {a : Assignment} {c : Char} (hc : IsMark c) :
    c ∉ a.text.toList := by
  have hid := not_mem_id (n := a.id) hc
  have hcidr := not_mem_cidr (n := a.cidr) hc
  rw [toList_text]
  rcases hc with rfl | rfl | rfl <;> simp [hid, hcidr]

theorem Reprefixed.not_mem_text {r : Reprefixed} {c : Char} (hc : IsMark c) :
    c ∉ r.text.toList := by
  have hid := not_mem_id (n := r.id) hc
  have hold := not_mem_cidr (n := r.old) hc
  have hnew := not_mem_cidr (n := r.new) hc
  rw [toList_text]
  rcases hc with rfl | rfl | rfl <;> simp [hid, hold, hnew]

/-! ## Parts -/

namespace Drift

variable {heading : String} {changes : List String}

/-- The parts of a description. -/
def parts (d : Drift) : List String :=
  part "added" (d.added.map (·.text)) ++ part "removed" (d.removed.map (·.text)) ++
    part "re-prefixed" (d.reprefixed.map (·.text))

theorem text_eq (d : Drift) : d.text = "; ".intercalate d.parts := rfl

/-- A part is its heading and, behind a blank, its changes. -/
theorem toList_of_mem_part {p : String} (h : p ∈ part heading changes) :
    changes ≠ [] ∧
      p.toList = heading.toList ++ ' ' :: [',', ' '].intercalate (changes.map String.toList) := by
  unfold part at h
  split at h
  · exact absurd h List.not_mem_nil
  · next hne =>
    rw [List.mem_singleton.1 h]
    exact ⟨by simpa using hne, by simp [String.toList_intercalate]⟩

/-- Nothing stands in a part but what stands in its heading and its changes,
commas and blanks apart. -/
theorem mem_of_mem_part {p : String} {c : Char} (h : p ∈ part heading changes)
    (hc : c ∈ p.toList) :
    c ∈ heading.toList ∨ c = ',' ∨ c = ' ' ∨ ∃ change ∈ changes, c ∈ change.toList := by
  rw [(toList_of_mem_part h).2, List.mem_append, List.mem_cons] at hc
  rcases hc with hc | hc | hc
  · exact .inl hc
  · exact .inr (.inr (.inl hc))
  · rcases Text.mem_of_mem_intercalate hc with hc | ⟨piece, hpiece, hc⟩
    · simp only [List.mem_cons, List.not_mem_nil, or_false] at hc
      exact .inr (hc.imp_right .inl)
    · obtain ⟨change, hchange, rfl⟩ := List.mem_map.1 hpiece
      exact .inr (.inr (.inr ⟨change, hchange, hc⟩))

/-- What a part is headed by. -/
def headingOf (p : String) : List Char := p.toList.takeWhile (· ≠ ' ')

theorem headingOf_of_mem_part {p : String} (hheading : ' ' ∉ heading.toList)
    (h : p ∈ part heading changes) : headingOf p = heading.toList := by
  rw [headingOf, (toList_of_mem_part h).2]
  exact Text.takeWhile_append_run
    (fun c hc => decide_eq_true fun heq => hheading (heq ▸ hc)) (by simp)

/-- Parts are told apart by their headings. -/
theorem filter_part (hheading : ' ' ∉ heading.toList) (other : List Char) :
    (part heading changes).filter (headingOf · = other) =
      if heading.toList = other then part heading changes else [] := by
  split
  · next heq =>
    rw [List.filter_eq_self]
    exact fun p hp => decide_eq_true ((headingOf_of_mem_part hheading hp).trans heq)
  · next hne =>
    rw [List.filter_eq_nil_iff]
    exact fun p hp heq =>
      hne ((headingOf_of_mem_part hheading hp).symm.trans (of_decide_eq_true heq))

/-- **Changes are known from the part** that they are listed in. -/
theorem part_inj {α : Type} {text : α → String} {xs ys : List α}
    (hinj : ∀ a b, text a = text b → a = b)
    (hentry : ∀ a, (text a).toList ≠ [] ∧ ',' ∉ (text a).toList)
    (h : part heading (xs.map text) = part heading (ys.map text)) : xs = ys := by
  have hempty : ∀ zs : List α, part heading (zs.map text) = [] ↔ zs = [] := by
    intro zs
    cases zs <;> simp [part]
  by_cases hxs : xs = []
  · rw [hxs, (hempty ys).1 (h ▸ (hempty xs).2 hxs)]
  · obtain ⟨p, hp⟩ := List.exists_mem_of_ne_nil _ (mt (hempty xs).1 hxs)
    have hjoin := (toList_of_mem_part hp).2.symm.trans (toList_of_mem_part (h ▸ hp)).2
    rw [List.append_cancel_left_eq, List.cons.injEq] at hjoin
    have hpieces : ∀ zs : List α, ∀ piece ∈ (zs.map text).map String.toList,
        piece ≠ [] ∧ ',' ∉ piece := by
      intro zs piece hpiece
      obtain ⟨_, hmem, rfl⟩ := List.mem_map.1 hpiece
      obtain ⟨a, -, rfl⟩ := List.mem_map.1 hmem
      exact hentry a
    have htexts := Text.intercalate_inj (hpieces xs) (hpieces ys) hjoin.2
    rw [List.map_inj_right fun _ _ => String.toList_inj.1] at htexts
    exact (List.map_inj_right fun a b => hinj a b).1 htexts

/-! ## Whole descriptions -/

variable {d e : Drift}

/-- No part is empty. -/
theorem toList_ne_nil_of_mem_parts {p : String} (h : p ∈ d.parts) : p.toList ≠ [] := by
  have hpart : ∀ {heading : String} {changes : List String}, p ∈ part heading changes →
      p.toList ≠ [] := fun h => by simp [(toList_of_mem_part h).2]
  simp only [parts, List.mem_append] at h
  rcases h with (h | h) | h <;> exact hpart h

/-- What parts are joined with, and what a description is put in brackets with,
is in no part. -/
theorem not_mem_of_mem_parts {p : String} {c : Char} (hc : c = ';' ∨ c = '(') (h : p ∈ d.parts) :
    c ∉ p.toList := by
  have hmark : IsMark c := .inr hc
  have hpart : ∀ {heading : String} {changes : List String}, c ∉ heading.toList →
      (∀ change ∈ changes, c ∉ change.toList) → p ∈ part heading changes → c ∉ p.toList := by
    intro heading changes hheading hchanges h hmem
    rcases mem_of_mem_part h hmem with hmem | rfl | rfl | ⟨change, hchange, hmem⟩
    · exact hheading hmem
    · exact absurd hc (by decide)
    · exact absurd hc (by decide)
    · exact hchanges change hchange hmem
  simp only [parts, List.mem_append] at h
  rcases h with (h | h) | h
  · refine hpart (by rcases hc with rfl | rfl <;> decide) ?_ h
    exact List.forall_mem_map.2 fun _ _ => Assignment.not_mem_text hmark
  · refine hpart (by rcases hc with rfl | rfl <;> decide) ?_ h
    exact List.forall_mem_map.2 fun _ _ => Assignment.not_mem_text hmark
  · refine hpart (by rcases hc with rfl | rfl <;> decide) ?_ h
    exact List.forall_mem_map.2 fun _ _ => Reprefixed.not_mem_text hmark

theorem bracket_not_mem_text (d : Drift) : '(' ∉ d.text.toList := by
  rw [text_eq, String.toList_intercalate]
  intro h
  rcases Text.mem_of_mem_intercalate h with h | ⟨piece, hpiece, h⟩
  · exact absurd h (by decide)
  · obtain ⟨p, hp, rfl⟩ := List.mem_map.1 hpiece
    exact not_mem_of_mem_parts (.inr rfl) hp h

/-- The parts of one description are those of the other. -/
theorem parts_eq_of_text_eq (h : d.text = e.text) : d.parts = e.parts := by
  have hpieces : ∀ d : Drift, ∀ piece ∈ d.parts.map String.toList, piece ≠ [] ∧ ';' ∉ piece := by
    intro d piece hpiece
    obtain ⟨p, hp, rfl⟩ := List.mem_map.1 hpiece
    exact ⟨toList_ne_nil_of_mem_parts hp, not_mem_of_mem_parts (.inl rfl) hp⟩
  rw [text_eq, text_eq, ← String.toList_inj, String.toList_intercalate,
    String.toList_intercalate] at h
  exact (List.map_inj_right fun _ _ => String.toList_inj.1).1
    (Text.intercalate_inj (hpieces d) (hpieces e) h)

/-- **A drift is known from its description.** -/
theorem text_inj (h : d.text = e.text) : d = e := by
  have hparts := parts_eq_of_text_eq h
  -- the three headings are told apart, so each part is that of the other description
  have hadded := congrArg (List.filter (headingOf · = "added".toList)) hparts
  have hremoved := congrArg (List.filter (headingOf · = "removed".toList)) hparts
  have hreprefixed := congrArg (List.filter (headingOf · = "re-prefixed".toList)) hparts
  have hblank : ' ' ∉ "added".toList ∧ ' ' ∉ "removed".toList ∧ ' ' ∉ "re-prefixed".toList := by
    decide
  have hother : "added".toList ≠ "removed".toList ∧ "added".toList ≠ "re-prefixed".toList ∧
      "removed".toList ≠ "re-prefixed".toList := by
    decide
  simp only [parts, List.filter_append, filter_part hblank.1, filter_part hblank.2.1,
    filter_part hblank.2.2, hother, hother.1.symm, hother.2.1.symm, hother.2.2.symm, if_true,
    if_false, List.append_nil, List.nil_append] at hadded hremoved hreprefixed
  have hassignment : ∀ a : Assignment, a.text.toList ≠ [] ∧ ',' ∉ a.text.toList := fun a =>
    ⟨by simp [Assignment.toList_text], Assignment.not_mem_text (.inl rfl)⟩
  have hchange : ∀ r : Reprefixed, r.text.toList ≠ [] ∧ ',' ∉ r.text.toList := fun r =>
    ⟨by simp [Reprefixed.toList_text], Reprefixed.not_mem_text (.inl rfl)⟩
  calc d = ⟨d.added, d.removed, d.reprefixed⟩ := rfl
    _ = ⟨e.added, e.removed, e.reprefixed⟩ := by
      rw [part_inj (fun _ _ => Assignment.text_inj) hassignment hadded,
        part_inj (fun _ _ => Assignment.text_inj) hassignment hremoved,
        part_inj (fun _ _ => Reprefixed.text_inj) hchange hreprefixed]
    _ = e := rfl

/-- Nothing is said just of a drift of nothing. -/
theorem text_eq_empty_iff : d.text = "" ↔ d = empty :=
  ⟨fun h => text_inj (h.trans rfl), fun h => h ▸ rfl⟩

end Drift

/-- **Something is said of any two snapshots that differ.** -/
theorem Snapshot.text_ne_empty {before after : Snapshot} {d : Drift}
    (h : before.drift? after = some d) : d.text ≠ "" := by
  intro htext
  obtain rfl := Drift.text_eq_empty_iff.1 htext
  refine pairs_ne_of_drift? h ?_
  have happly := (describes_of_drift? h).apply_eq
  simpa [Drift.apply, Drift.dropped, Drift.taken, Drift.empty] using happly

end KeaGauge.Kea
