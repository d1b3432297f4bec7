import KeaGauge.Kea.Pool
import KeaGauge.Proofs.Net.Cidr
import KeaGauge.Proofs.Net.Network
import Mathlib.Data.List.TakeWhile
/-!
# Two spellings of a pool

Two addresses with a hyphen between them spell the pool from the one to the
other, whatever blanks are around either of them (`ofText?_of_isRange`): no
hyphen stands in an address, so the text is cut where it should be. Nor does
one stand in a prefix, which is never taken for a range (`ofText?_text`). So a
pool may be spelled as a prefix or from end to end, and the addresses between
its ends are those that agree with the prefix (`spellings_agree`).
-/

namespace KeaGauge.Kea.Pool

open Net (Address Cidr)
open Text (isBlank)

/-- **A text spells the range from one address to another**: the two with a
hyphen between them, and blanks around either. -/
def IsRange (first last : Address) (text : String) : Prop :=
  ∃ a b c d : List Char, (∀ x ∈ a ++ b ++ c ++ d, isBlank x = true) ∧
    text.toList = a ++ first.chars ++ b ++ '-' :: (c ++ last.chars ++ d)

/-! ## Hyphens -/

theorem ne_hyphen_of_isBlank {c : Char} (h : isBlank c = true) : c ≠ '-' := by
  rintro rfl
  exact absurd h (by decide)

theorem ne_hyphen_of_mem_address {a : Address} {c : Char} (h : c ∈ a.chars) : c ≠ '-' := by
  rintro rfl
  exact absurd (Address.mem_chars h) (by decide)

theorem ne_hyphen_of_mem_cidr {n : Cidr} {c : Char} (h : c ∈ n.chars) : c ≠ '-' := by
  rintro rfl
  exact absurd (Cidr.mem_chars h) (by decide)

/-- A text is cut at its first hyphen. -/
theorem ofChars?_hyphen {front back : List Char} (hfront : ∀ c ∈ front, c ≠ '-') :
    ofChars? (front ++ '-' :: back) = do
      let first ← Address.ofChars? (Text.trim front)
      let last ← Address.ofChars? (Text.trim back)
      return ⟨first, last⟩ := by
  have hrun : ∀ c ∈ front, decide (c ≠ '-') = true := fun c hc => decide_eq_true (hfront c hc)
  have hstop : ∀ c ∈ ('-' :: back).head?, decide (c ≠ '-') = false := by simp
  unfold ofChars?
  rw [Text.dropWhile_append_run hrun hstop, Text.takeWhile_append_run hrun hstop]
  rfl

/-! ## Spellings -/

/-- **A range is read as the pool from its first address to its last.** -/
theorem ofText?_of_isRange {first last : Address} {text : String} (h : IsRange first last text) :
    ofText? text = some ⟨first, last⟩ := by
  obtain ⟨a, b, c, d, hblank, htext⟩ := h
  simp only [List.forall_mem_append] at hblank
  obtain ⟨⟨⟨ha, hb⟩, hc⟩, hd⟩ := hblank
  have hfront : ∀ x ∈ a ++ first.chars ++ b, x ≠ '-' := by
    simp only [List.forall_mem_append]
    exact ⟨⟨fun x hx => ne_hyphen_of_isBlank (ha x hx), fun x hx => ne_hyphen_of_mem_address hx⟩,
      fun x hx => ne_hyphen_of_isBlank (hb x hx)⟩
  rw [ofText?, htext, ofChars?_hyphen hfront, Text.trim_append ha hb, Text.trim_append hc hd,
    Address.trim_chars, Address.trim_chars, Address.ofChars?_chars, Address.ofChars?_chars]
  rfl

/-- **A prefix is read as the pool of all its addresses.** -/
theorem ofText?_text (n : Cidr) : ofText? n.text = some (ofCidr n) := by
  have hnone : n.chars.dropWhile (· ≠ '-') = [] := by
    rw [List.dropWhile_eq_nil_iff]
    exact fun c hc => decide_eq_true (ne_hyphen_of_mem_cidr hc)
  rw [ofText?, Cidr.text, String.toList_ofList, ofChars?, hnone]
  simp [Cidr.trim_chars, Cidr.ofChars?_chars]

/-- **The two spellings of a pool agree.** A prefix and the range from its first
address to its last spell one pool, and the addresses of its family that lie
between the ends of the pool are just those that agree with the prefix on its
leading bits. Any two addresses spell, as a range, the pool from the one to the
other. -/
theorem spellings_agree (n : Cidr) (first last : Address) :
    (∃ pool : Pool, ofText? n.text = some pool ∧
      (∀ text, IsRange n.first n.last text → ofText? text = some pool) ∧
      pool.first.family = n.family ∧ pool.last.family = n.family ∧
      ∀ a : Address, a.family = n.family →
        (pool.first.value ≤ a.value ∧ a.value ≤ pool.last.value ↔ n.Covers a)) ∧
    ∀ text, IsRange first last text → ofText? text = some ⟨first, last⟩ := by
  refine ⟨⟨ofCidr n, ofText?_text n, fun _ h => ofText?_of_isRange h, rfl, rfl, ?_⟩,
    fun _ h => ofText?_of_isRange h⟩
  exact fun a ha => (Cidr.covers_iff_between ha).symm

/-- A prefix of two addresses, its own being the last. -/
def pair : Cidr := ⟨.ofNat .v6 0x20010DB8000000000000000000000001, 127, by decide⟩

/-- The spellings of a pool of two addresses, and a range that ends before it
starts, with other blanks than spaces. -/
theorem spellings_agree_pair :
    IsRange pair.first pair.last "2001:db8:: - 2001:db8::1" ∧
      ofText? "2001:db8::1/127" = ofText? "2001:db8:: - 2001:db8::1" ∧
      (∃ pool, ofText? "2001:db8::1/127" = some pool ∧ ∀ a : Address, a.family = .v6 →
        (pool.first.value ≤ a.value ∧ a.value ≤ pool.last.value ↔ pair.Covers a)) ∧
      ofText? "\t192.0.2.10\u2003-192.0.2.9 " =
        some ⟨.ofNat .v4 0xC000020A, .ofNat .v4 0xC0000209⟩ := by
  have hrange : IsRange pair.first pair.last "2001:db8:: - 2001:db8::1" :=
    ⟨[], [' '], [' '], [], List.all_eq_true.1 (by decide), by decide +kernel⟩
  have hblanks : IsRange (.ofNat .v4 0xC000020A) (.ofNat .v4 0xC0000209)
      "\t192.0.2.10\u2003-192.0.2.9 " :=
    ⟨['\t'], ['\u2003'], [], [' '], List.all_eq_true.1 (by decide), by decide +kernel⟩
  have htext : pair.text = "2001:db8::1/127" := by decide +kernel
  obtain ⟨⟨pool, hcidr, hspelt, -, -, hbetween⟩, hother⟩ :=
    spellings_agree pair (.ofNat .v4 0xC000020A) (.ofNat .v4 0xC0000209)
  rw [htext] at hcidr
  exact ⟨hrange, hcidr.trans (hspelt _ hrange).symm, ⟨pool, hcidr, hbetween⟩, hother _ hblanks⟩

end KeaGauge.Kea.Pool
