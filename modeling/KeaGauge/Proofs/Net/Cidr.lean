import KeaGauge.Net.Cidr
import KeaGauge.Text.Blank
import KeaGauge.Proofs.Net.Address
/-!
# Prefixes read back

The text of a prefix is read back (`ofChars?_chars`), and no blank is in it
that trimming could take away (`trim_chars`).
-/

namespace KeaGauge.Net

open Text (isBlank)

namespace Cidr

/-! ## The characters of a prefix -/

/-- **A prefix is written with points, colons, a slash and hexadecimal
digits.** -/
theorem mem_chars {n : Cidr} {c : Char} (h : c ∈ n.chars) :
    c = '.' ∨ c = ':' ∨ c = '/' ∨ Text.isDigitIn 16 c = true := by
  rw [chars, List.mem_append, List.mem_cons] at h
  rcases h with h | rfl | h
  · exact (Address.mem_chars h).imp_right (Or.imp_right .inr)
  · exact .inr (.inr (.inl rfl))
  · have hdecimal := Text.isDigitIn_of_mem_toDigits (by decide) (by decide) h
    exact .inr (.inr (.inr (Text.isDigitIn_mono (by decide) hdecimal)))

theorem not_isBlank_of_mem_chars {n : Cidr} {c : Char} (h : c ∈ n.chars) : isBlank c = false := by
  rcases mem_chars h with rfl | rfl | rfl | h
  · rfl
  · rfl
  · rfl
  · exact Text.not_isBlank_of_isDigitIn h

/-- **Trimming leaves the text of a prefix as it is.** -/
theorem trim_chars (n : Cidr) : Text.trim n.chars = n.chars :=
  Text.trim_eq_self (fun _ hc => not_isBlank_of_mem_chars (List.mem_of_mem_head? hc))
    fun _ hc => not_isBlank_of_mem_chars (List.mem_of_mem_getLast? hc)

/-! ## Reading -/

theorem endsGroups_length (length : Nat) : Address.EndsGroups ('/' :: Nat.toDigits 10 length) := by
  refine ⟨Address.EndsDigits.cons rfl _, by simp, fun more hmore => ?_⟩
  exact absurd (List.cons.inj hmore).1 (by decide)

theorem length?_toDigits (n : Cidr) {most : Nat} (hmost : 0 < most) (hn : n.length < 10 ^ most) :
    length? most (some (n.address, '/' :: Nat.toDigits 10 n.length)) = some (n, []) := by
  have hnumeral : Text.numeral? 10 most (Nat.toDigits 10 n.length ++ []) = some (n.length, []) :=
    Text.numeral?_toDigits (by decide) (by decide) hmost hn (fun c hc => absurd hc (by simp))
  rw [List.append_nil] at hnumeral
  simp [length?, Text.after?, hnumeral, of?, n.length_le]

/-- **A prefix is read back.** -/
theorem ofChars?_chars (n : Cidr) : ofChars? n.chars = some n := by
  have hends := endsGroups_length n.length
  have hle := n.length_le
  have hread : read? n.chars = some (n, []) := by
    cases hfamily : n.address.family with
    | v4 =>
      rw [hfamily, Family.width] at hle
      rw [read?, chars, Address.four?_chars hfamily hends.decimal,
        length?_toDigits n (by decide) (by omega)]
      rfl
    | v6 =>
      rw [hfamily, Family.width] at hle
      rw [read?, chars, Address.four?_six hfamily hends, Address.six?_chars hfamily hends,
        length?_toDigits n (by decide) (by omega)]
      rfl
  simp [ofChars?, hread]

/-- No two prefixes have one text. -/
theorem chars_inj {c d : Cidr} (h : c.chars = d.chars) : c = d :=
  Option.some.inj ((ofChars?_chars c).symm.trans (h ▸ ofChars?_chars d))

end Cidr

end KeaGauge.Net
