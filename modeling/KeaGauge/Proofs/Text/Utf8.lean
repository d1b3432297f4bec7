import KeaGauge.Text.Percent
import KeaGauge.Text.Utf8
import Mathlib.Tactic.Common
import Mathlib.Data.List.Basic
/-!
# UTF-8 read back

The bytes that a text is encoded in are decoded as the characters of this text
(`decodeUtf8?_toUTF8`), whatever characters these are. A character takes one
to four bytes; the machine that reads them has its bits together at the last
one (`utf8From_encodeChar`).
-/

namespace KeaGauge.Text

/-! ## Bytes of a text -/

theorem toListLoop_eq (bytes : ByteArray) (i : Nat) (done : List UInt8) :
    ByteArray.toList.loop bytes i done = done.reverse ++ bytes.data.toList.drop i := by
  fun_induction ByteArray.toList.loop bytes i done with
  | case1 i done hlt ih =>
    have hi : i < bytes.data.toList.length := by simpa using hlt
    rw [ih, List.drop_eq_getElem_cons hi]
    simp [ByteArray.get!, hlt]
  | case2 i done hge =>
    have hend : bytes.data.toList.length ≤ i := by simpa using hge
    rw [List.drop_eq_nil_of_le hend, List.append_nil]

/-- The bytes of a text are those of its characters. -/
theorem toList_toUTF8 (s : String) :
    s.toUTF8.toList = s.toList.flatMap String.utf8EncodeChar := by
  conv_lhs => rw [← String.ofList_toList (s := s)]
  rw [ByteArray.toList, toListLoop_eq, List.reverse_nil, List.nil_append, List.drop_zero,
    String.toUTF8_eq_toByteArray, String.toByteArray_ofList]
  simp only [List.utf8Encode, List.data_toByteArray]

/-- What is written of each element by so much at most is as much for all of
them. -/
theorem length_flatMap_le {E F : Type} {write : E → List F} {most : Nat}
    (h : ∀ e, (write e).length ≤ most) (l : List E) :
    (l.flatMap write).length ≤ most * l.length := by
  induction l with
  | nil => exact Nat.zero_le _
  | cons e rest ih =>
    have he := h e
    rw [List.flatMap_cons, List.length_append, List.length_cons, Nat.mul_succ]
    omega

/-- There are four bytes to a character at most. -/
theorem length_toUTF8_le (s : String) : s.toUTF8.toList.length ≤ 4 * s.length := by
  rw [toList_toUTF8, ← String.length_toList]
  refine length_flatMap_le (fun c => ?_) _
  rw [String.length_utf8EncodeChar]
  exact c.utf8Size_le_four

/-! ## Reading a character -/

section Steps

variable {b : UInt8} {p : Pending} {rest : List UInt8}

theorem utf8From_lead (h : leadByte b.toNat = ([], some p)) :
    utf8From none (b :: rest) = utf8From (some p) rest := by
  simp only [utf8From, nextByte, h, List.nil_append]

theorem utf8From_more {low high : Nat} (hlow : low ≤ b.toNat) (hhigh : b.toNat ≤ high)
    {bits missing : Nat} :
    utf8From (some ⟨bits, missing + 2, low, high⟩) (b :: rest) =
      utf8From (some ⟨bits * 64 + (b.toNat - 0x80), missing + 1, 0x80, 0xBF⟩) rest := by
  simp [utf8From, nextByte, hlow, hhigh]

theorem utf8From_last {low high : Nat} (hlow : low ≤ b.toNat) (hhigh : b.toNat ≤ high)
    {bits : Nat} :
    utf8From (some ⟨bits, 1, low, high⟩) (b :: rest) =
      some (Char.ofNat (bits * 64 + (b.toNat - 0x80))) :: utf8From none rest := by
  simp [utf8From, nextByte, hlow, hhigh]

end Steps

section Leads

variable {v : Nat}

theorem leadByte_two (hlow : 0x80 ≤ v) (hhigh : v < 0x800) :
    leadByte (v / 64 % 32 + 192) = ([], some ⟨v / 64, 1, 0x80, 0xBF⟩) := by
  have hlead : v / 64 % 32 + 192 = v / 64 + 0xC0 := by omega
  rw [hlead, leadByte, if_neg (by omega), if_pos (by omega), Nat.add_sub_cancel]

/-- Begins with a character of three bytes: neither one that fits two bytes nor
a surrogate. -/
theorem leadByte_three (hlow : 0x800 ≤ v) (hhigh : v < 0x10000)
    (hscalar : v < 0xD800 ∨ 0xDFFF < v) :
    ∃ low high, leadByte (v / 4096 % 16 + 224) = ([], some ⟨v / 4096, 2, low, high⟩) ∧
      low ≤ v / 64 % 64 + 128 ∧ v / 64 % 64 + 128 ≤ high := by
  have hlead : v / 4096 % 16 + 224 = v / 4096 + 0xE0 := by omega
  rw [hlead]
  unfold leadByte
  split_ifs with h₁ h₂ h₃ h₄ h₅
  · omega
  · omega
  · exact ⟨0xA0, 0xBF, by rw [show v / 4096 = 0 by omega], by omega, by omega⟩
  · exact ⟨0x80, 0x9F, by rw [show v / 4096 = 0xD by omega], by omega, by omega⟩
  · exact ⟨0x80, 0xBF, by rw [Nat.add_sub_cancel], by omega, by omega⟩
  all_goals omega

/-- Begins with a character of four bytes. -/
theorem leadByte_four (hlow : 0x10000 ≤ v) (hhigh : v < 0x110000) :
    ∃ low high, leadByte (v / 262144 % 8 + 240) = ([], some ⟨v / 262144, 3, low, high⟩) ∧
      low ≤ v / 4096 % 64 + 128 ∧ v / 4096 % 64 + 128 ≤ high := by
  have hlead : v / 262144 % 8 + 240 = v / 262144 + 0xF0 := by omega
  rw [hlead]
  unfold leadByte
  split_ifs with h₁ h₂ h₃ h₄ h₅ h₆ h₇ h₈
  · omega
  · omega
  · omega
  · omega
  · omega
  · exact ⟨0x90, 0xBF, by rw [show v / 262144 = 0 by omega], by omega, by omega⟩
  · exact ⟨0x80, 0xBF, by rw [Nat.add_sub_cancel], by omega, by omega⟩
  · exact ⟨0x80, 0x8F, by rw [show v / 262144 = 4 by omega], by omega, by omega⟩
  · omega

end Leads

/-! ## Characters of each length -/

section Characters

variable {v : Nat} (rest : List UInt8)

/-- A number below 256 is that of its byte. -/
theorem toNat_byte {n : Nat} (h : n < 256) : (UInt8.ofNat n).toNat = n :=
  UInt8.toNat_ofNat_of_lt' h

theorem utf8From_one (hhigh : v < 0x80) :
    utf8From none (UInt8.ofNat v :: rest) = some (Char.ofNat v) :: utf8From none rest := by
  have hbyte : (UInt8.ofNat v).toNat = v := toNat_byte (by omega)
  simp only [utf8From, nextByte, hbyte, leadByte, if_pos hhigh, List.cons_append, List.nil_append]

theorem utf8From_two (hlow : 0x80 ≤ v) (hhigh : v < 0x800) :
    utf8From none (UInt8.ofNat (v / 64 % 32 + 192) :: UInt8.ofNat (v % 64 + 128) :: rest) =
      some (Char.ofNat v) :: utf8From none rest := by
  have hfirst := toNat_byte (by omega : v / 64 % 32 + 192 < 256)
  have hsecond := toNat_byte (by omega : v % 64 + 128 < 256)
  have hbits : v / 64 * 64 + (v % 64 + 128 - 0x80) = v := by omega
  rw [utf8From_lead (by rw [hfirst, leadByte_two hlow hhigh]),
    utf8From_last (by omega) (by omega), hsecond, hbits]

theorem utf8From_three (hlow : 0x800 ≤ v) (hhigh : v < 0x10000)
    (hscalar : v < 0xD800 ∨ 0xDFFF < v) :
    utf8From none (UInt8.ofNat (v / 4096 % 16 + 224) :: UInt8.ofNat (v / 64 % 64 + 128) ::
      UInt8.ofNat (v % 64 + 128) :: rest) = some (Char.ofNat v) :: utf8From none rest := by
  have hfirst := toNat_byte (by omega : v / 4096 % 16 + 224 < 256)
  have hsecond := toNat_byte (by omega : v / 64 % 64 + 128 < 256)
  have hthird := toNat_byte (by omega : v % 64 + 128 < 256)
  have hbits : (v / 4096 * 64 + (v / 64 % 64 + 128 - 0x80)) * 64 + (v % 64 + 128 - 0x80) = v := by
    omega
  obtain ⟨low, high, hlead, habove, hbelow⟩ := leadByte_three hlow hhigh hscalar
  rw [utf8From_lead (by rw [hfirst, hlead]), utf8From_more (by omega) (by omega),
    utf8From_last (by omega) (by omega), hsecond, hthird, hbits]

theorem utf8From_four (hlow : 0x10000 ≤ v) (hhigh : v < 0x110000) :
    utf8From none (UInt8.ofNat (v / 262144 % 8 + 240) :: UInt8.ofNat (v / 4096 % 64 + 128) ::
      UInt8.ofNat (v / 64 % 64 + 128) :: UInt8.ofNat (v % 64 + 128) :: rest) =
        some (Char.ofNat v) :: utf8From none rest := by
  have hfirst := toNat_byte (by omega : v / 262144 % 8 + 240 < 256)
  have hsecond := toNat_byte (by omega : v / 4096 % 64 + 128 < 256)
  have hthird := toNat_byte (by omega : v / 64 % 64 + 128 < 256)
  have hfourth := toNat_byte (by omega : v % 64 + 128 < 256)
  have hbits : ((v / 262144 * 64 + (v / 4096 % 64 + 128 - 0x80)) * 64 +
      (v / 64 % 64 + 128 - 0x80)) * 64 + (v % 64 + 128 - 0x80) = v := by omega
  obtain ⟨low, high, hlead, habove, hbelow⟩ := leadByte_four hlow hhigh
  rw [utf8From_lead (by rw [hfirst, hlead]), utf8From_more (by omega) (by omega),
    utf8From_more (by omega) (by omega), utf8From_last (by omega) (by omega), hsecond, hthird,
    hfourth, hbits]

/-- **The bytes of a character are read as this character.** -/
theorem utf8From_encodeChar (c : Char) :
    utf8From none (String.utf8EncodeChar c ++ rest) = some c :: utf8From none rest := by
  have hscalar : c.toNat < 0xD800 ∨ 0xDFFF < c.toNat ∧ c.toNat < 0x110000 := c.valid
  have hself : Char.ofNat c.val.toNat = c := Char.ofNat_toNat c
  change c.val.toNat < 0xD800 ∨ 0xDFFF < c.val.toNat ∧ c.val.toNat < 0x110000 at hscalar
  simp only [String.utf8EncodeChar]
  split_ifs with hone htwo hthree
  · exact (utf8From_one rest (by omega)).trans (by rw [hself])
  · exact (utf8From_two rest (by omega) (by omega)).trans (by rw [hself])
  · exact (utf8From_three rest (by omega) (by omega) (by omega)).trans (by rw [hself])
  · exact (utf8From_four rest (by omega) (by omega)).trans (by rw [hself])

end Characters

/-! ## Reading a text -/

theorem utf8From_flatMap (cs : List Char) :
    utf8From none (cs.flatMap String.utf8EncodeChar) = cs.map some := by
  induction cs with
  | nil => rfl
  | cons c cs ih => rw [List.flatMap_cons, utf8From_encodeChar, ih, List.map_cons]

/-- Only lists without a fault hold characters. -/
theorem mapM_id_eq_some_iff {found : List (Option Char)} {cs : List Char} :
    found.mapM id = some cs ↔ found = cs.map some := by
  induction found generalizing cs with
  | nil => cases cs <;> simp
  | cons first found ih =>
    cases first with
    | none => cases cs <;> simp
    | some c =>
      have hfirst : (some c :: found).mapM id = (found.mapM id).map (c :: ·) := by
        rw [List.mapM_cons]
        cases found.mapM id <;> rfl
      cases cs with
      | nil => simp [hfirst]
      | cons c' cs => simp [hfirst, ih, and_comm]

/-- **The bytes of a text are decoded as its characters.** -/
theorem decodeUtf8?_toUTF8 (s : String) : decodeUtf8? s.toUTF8.toList = some s.toList := by
  rw [decodeUtf8?, toList_toUTF8, utf8From_flatMap, mapM_id_eq_some_iff]

/-! ## Nothing else is read

What is read as characters was the bytes of these characters: the machine lets
no byte pass that the encoding of the character it ends up with has not. -/

section Encodings

variable {v : Nat}

/-- A number that stands for a character. -/
theorem toNat_val_ofNat (h : v < 0xD800 ∨ 0xDFFF < v ∧ v < 0x110000) :
    (Char.ofNat v).val.toNat = v := by
  have hvalid : v.isValidChar := h
  rw [Char.ofNat, dif_pos hvalid]
  exact UInt32.toNat_ofNatLT ..

theorem encodeChar_one (hhigh : v < 0x80) :
    String.utf8EncodeChar (Char.ofNat v) = [UInt8.ofNat v] := by
  have hval := toNat_val_ofNat (v := v) (by omega)
  simp only [String.utf8EncodeChar, hval]
  rw [if_pos (by omega)]

theorem encodeChar_two (hlow : 0x80 ≤ v) (hhigh : v < 0x800) :
    String.utf8EncodeChar (Char.ofNat v) =
      [UInt8.ofNat (v / 64 % 32 + 192), UInt8.ofNat (v % 64 + 128)] := by
  have hval := toNat_val_ofNat (v := v) (by omega)
  simp only [String.utf8EncodeChar, hval]
  rw [if_neg (by omega), if_pos (by omega)]

theorem encodeChar_three (hlow : 0x800 ≤ v) (hhigh : v < 0x10000)
    (hscalar : v < 0xD800 ∨ 0xDFFF < v) :
    String.utf8EncodeChar (Char.ofNat v) =
      [UInt8.ofNat (v / 4096 % 16 + 224), UInt8.ofNat (v / 64 % 64 + 128),
        UInt8.ofNat (v % 64 + 128)] := by
  have hval := toNat_val_ofNat (v := v) (by omega)
  simp only [String.utf8EncodeChar, hval]
  rw [if_neg (by omega), if_neg (by omega), if_pos (by omega)]

theorem encodeChar_four (hlow : 0x10000 ≤ v) (hhigh : v < 0x110000) :
    String.utf8EncodeChar (Char.ofNat v) =
      [UInt8.ofNat (v / 262144 % 8 + 240), UInt8.ofNat (v / 4096 % 64 + 128),
        UInt8.ofNat (v / 64 % 64 + 128), UInt8.ofNat (v % 64 + 128)] := by
  have hval := toNat_val_ofNat (v := v) (by omega)
  simp only [String.utf8EncodeChar, hval]
  rw [if_neg (by omega), if_neg (by omega), if_neg (by omega)]

end Encodings

/-- **What a first byte begins**: a character of one byte, one of two, three or
four with bounds on the next byte, or nothing. -/
theorem leadByte_cases (v : Nat) :
    (v < 0x80 ∧ leadByte v = ([some (Char.ofNat v)], none)) ∨
    (0xC2 ≤ v ∧ v < 0xE0 ∧ leadByte v = ([], some ⟨v - 0xC0, 1, 0x80, 0xBF⟩)) ∨
    (∃ low high, 0xE0 ≤ v ∧ v < 0xF0 ∧ 0x80 ≤ low ∧ high ≤ 0xBF ∧ (v = 0xE0 → 0xA0 ≤ low) ∧
      (v = 0xED → high ≤ 0x9F) ∧ leadByte v = ([], some ⟨v - 0xE0, 2, low, high⟩)) ∨
    (∃ low high, 0xF0 ≤ v ∧ v < 0xF5 ∧ 0x80 ≤ low ∧ high ≤ 0xBF ∧ (v = 0xF0 → 0x90 ≤ low) ∧
      (v = 0xF4 → high ≤ 0x8F) ∧ leadByte v = ([], some ⟨v - 0xF0, 3, low, high⟩)) ∨
    leadByte v = ([none], none) := by
  unfold leadByte
  split_ifs with h₁ h₂ h₃ h₄ h₅ h₆ h₇ h₈
  · exact .inl ⟨h₁, rfl⟩
  · exact .inr (.inl ⟨h₂.1, h₂.2, rfl⟩)
  · subst h₃
    exact .inr (.inr (.inl ⟨_, _, by decide, by decide, by decide, by decide, by decide, by decide,
      rfl⟩))
  · subst h₄
    exact .inr (.inr (.inl ⟨_, _, by decide, by decide, by decide, by decide, by decide, by decide,
      rfl⟩))
  · exact .inr (.inr (.inl ⟨_, _, by omega, h₅.2, Nat.le_refl _, Nat.le_refl _, by omega, by omega,
      rfl⟩))
  · subst h₆
    exact .inr (.inr (.inr (.inl ⟨_, _, by decide, by decide, by decide, by decide, by decide,
      by decide, rfl⟩)))
  · exact .inr (.inr (.inr (.inl ⟨_, _, by omega, by omega, Nat.le_refl _, Nat.le_refl _,
      by omega, by omega, rfl⟩)))
  · subst h₈
    exact .inr (.inr (.inr (.inl ⟨_, _, by decide, by decide, by decide, by decide, by decide,
      by decide, rfl⟩)))
  · exact .inr (.inr (.inr (.inr rfl)))

section Sound

variable {bits low high missing : Nat} {bytes : List UInt8} {cs : List Char}

/-- Where no fault is read, the next byte is there and within its bounds. -/
theorem exists_byte (h : utf8From (some ⟨bits, missing, low, high⟩) bytes = cs.map some) :
    ∃ b rest, bytes = b :: rest ∧ low ≤ b.toNat ∧ b.toNat ≤ high := by
  have hnone : none ∉ cs.map some := by simp
  cases bytes with
  | nil =>
    rw [← h] at hnone
    exact absurd (List.mem_singleton.2 rfl) hnone
  | cons b rest =>
    by_cases hbounds : low ≤ b.toNat ∧ b.toNat ≤ high
    · exact ⟨b, rest, rfl, hbounds.1, hbounds.2⟩
    · rw [← h] at hnone
      simp [utf8From, nextByte, hbounds] at hnone

theorem exists_last (h : utf8From (some ⟨bits, 1, low, high⟩) bytes = cs.map some) :
    ∃ b rest tail, bytes = b :: rest ∧ low ≤ b.toNat ∧ b.toNat ≤ high ∧
      cs = Char.ofNat (bits * 64 + (b.toNat - 0x80)) :: tail ∧
      utf8From none rest = tail.map some := by
  obtain ⟨b, rest, rfl, hlow, hhigh⟩ := exists_byte h
  rw [utf8From_last hlow hhigh] at h
  cases cs with
  | nil => exact absurd h (by simp)
  | cons c tail =>
    obtain ⟨hc, htail⟩ := List.cons.inj h
    exact ⟨b, rest, tail, rfl, hlow, hhigh, by rw [Option.some.inj hc], htail⟩

theorem exists_more (h : utf8From (some ⟨bits, missing + 2, low, high⟩) bytes = cs.map some) :
    ∃ b rest, bytes = b :: rest ∧ low ≤ b.toNat ∧ b.toNat ≤ high ∧
      utf8From (some ⟨bits * 64 + (b.toNat - 0x80), missing + 1, 0x80, 0xBF⟩) rest =
        cs.map some := by
  obtain ⟨b, rest, rfl, hlow, hhigh⟩ := exists_byte h
  exact ⟨b, rest, rfl, hlow, hhigh, by rwa [utf8From_more hlow hhigh] at h⟩

/-- A byte is the one of its number. -/
theorem ofNat_eq {b : UInt8} {n : Nat} (h : n = b.toNat) : UInt8.ofNat n = b := by
  rw [h, UInt8.ofNat_toNat]

/-- **What is read without a fault begins with the bytes of its first
character**, and goes on with what is read of the others. -/
theorem exists_char {b : UInt8} {rest : List UInt8}
    (h : utf8From none (b :: rest) = cs.map some) :
    ∃ c tail bytes, cs = c :: tail ∧ b :: rest = String.utf8EncodeChar c ++ bytes ∧
      utf8From none bytes = tail.map some := by
  have hb : b.toNat < 256 := UInt8.toNat_lt b
  rcases leadByte_cases b.toNat with ⟨hone, hlead⟩ | ⟨hlow, hhigh, hlead⟩ |
    ⟨low, high, hlow, hhigh, habove, hbelow, hshort, hsurrogate, hlead⟩ |
    ⟨low, high, hlow, hhigh, habove, hbelow, hshort, hgreat, hlead⟩ | hlead
  · simp only [utf8From, nextByte, hlead, List.cons_append, List.nil_append] at h
    cases cs with
    | nil => exact absurd h (by simp)
    | cons c tail =>
      obtain ⟨hc, htail⟩ := List.cons.inj h
      obtain rfl := Option.some.inj hc
      refine ⟨_, tail, rest, rfl, ?_, htail⟩
      rw [encodeChar_one hone, ofNat_eq rfl]
      rfl
  · rw [utf8From_lead hlead] at h
    obtain ⟨b₁, rest, tail, rfl, hlow₁, hhigh₁, rfl, htail⟩ := exists_last h
    refine ⟨_, tail, rest, rfl, ?_, htail⟩
    rw [encodeChar_two (by omega) (by omega), ofNat_eq (b := b) (by omega),
      ofNat_eq (b := b₁) (by omega)]
    rfl
  · rw [utf8From_lead hlead] at h
    obtain ⟨b₁, rest, rfl, hlow₁, hhigh₁, h⟩ := exists_more h
    obtain ⟨b₂, rest, tail, rfl, hlow₂, hhigh₂, rfl, htail⟩ := exists_last h
    refine ⟨_, tail, rest, rfl, ?_, htail⟩
    rw [encodeChar_three (by omega) (by omega) (by omega), ofNat_eq (b := b) (by omega),
      ofNat_eq (b := b₁) (by omega), ofNat_eq (b := b₂) (by omega)]
    rfl
  · rw [utf8From_lead hlead] at h
    obtain ⟨b₁, rest, rfl, hlow₁, hhigh₁, h⟩ := exists_more h
    obtain ⟨b₂, rest, rfl, hlow₂, hhigh₂, h⟩ := exists_more h
    obtain ⟨b₃, rest, tail, rfl, hlow₃, hhigh₃, rfl, htail⟩ := exists_last h
    refine ⟨_, tail, rest, rfl, ?_, htail⟩
    rw [encodeChar_four (by omega) (by omega), ofNat_eq (b := b) (by omega),
      ofNat_eq (b := b₁) (by omega), ofNat_eq (b := b₂) (by omega), ofNat_eq (b := b₃) (by omega)]
    rfl
  · have hnone : none ∈ cs.map some := by
      rw [← h]
      simp [utf8From, nextByte, hlead]
    exact absurd hnone (by simp)

/-- **Bytes that are read without a fault are those of what is read.** -/
theorem eq_flatMap_of_utf8From (h : utf8From none bytes = cs.map some) :
    bytes = cs.flatMap String.utf8EncodeChar := by
  induction cs generalizing bytes with
  | nil =>
    cases bytes with
    | nil => rfl
    | cons b rest =>
      obtain ⟨_, _, _, hcs, -⟩ := exists_char h
      exact absurd hcs (by simp)
  | cons c cs ih =>
    cases bytes with
    | nil => exact absurd h (by simp [utf8From])
    | cons b rest =>
      obtain ⟨c', tail, bytes, hcs, hbytes, htail⟩ := exists_char h
      obtain ⟨rfl, rfl⟩ := List.cons.inj hcs
      rw [hbytes, List.flatMap_cons, ← ih htail]

/-- **Bytes are decoded as characters just when they are the bytes of these
characters.** -/
theorem decodeUtf8?_eq_some_iff :
    decodeUtf8? bytes = some cs ↔ bytes = (String.ofList cs).toUTF8.toList := by
  rw [toList_toUTF8, String.toList_ofList, decodeUtf8?, mapM_id_eq_some_iff]
  exact ⟨eq_flatMap_of_utf8From, fun h => h ▸ utf8From_flatMap cs⟩

/-- **And they are not decoded** just when they are the bytes of no text. -/
theorem decodeUtf8?_eq_none_iff :
    decodeUtf8? bytes = none ↔ ∀ content : String, bytes ≠ content.toUTF8.toList := by
  rw [Option.eq_none_iff_forall_ne_some]
  constructor
  · rintro h content rfl
    exact h content.toList (decodeUtf8?_toUTF8 content)
  · intro h cs hcs
    exact h _ (decodeUtf8?_eq_some_iff.1 hcs)

end Sound

end KeaGauge.Text
