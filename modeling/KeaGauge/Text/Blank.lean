/-!
# Blank characters

The characters that carry the Unicode property *White_Space*, and the removal
of such characters from either end of a text. Every trimming in the library
is this one: of pool and subnet texts, of timestamps, of target addresses.
-/

namespace KeaGauge.Text

/-- The Unicode property *White_Space*. -/
def isBlank (c : Char) : Bool :=
  let n := c.toNat
  (9 ≤ n && n ≤ 13) || n == 0x20 || n == 0x85 || n == 0xA0 || n == 0x1680
    || (0x2000 ≤ n && n ≤ 0x200A) || n == 0x2028 || n == 0x2029 || n == 0x202F
    || n == 0x205F || n == 0x3000

/-- The text without the blanks it starts with. -/
def trimStart (cs : List Char) : List Char :=
  cs.dropWhile isBlank

/-- The text without the blanks it ends with. -/
def trimEnd (cs : List Char) : List Char :=
  (cs.reverse.dropWhile isBlank).reverse

/-- The text without the blanks at either end. -/
def trim (cs : List Char) : List Char :=
  trimEnd (trimStart cs)

/-- A text that starts with no blank loses none at its start. -/
theorem trimStart_of_not_isBlank {c : Char} {cs : List Char} (h : isBlank c = false) :
    trimStart (c :: cs) = c :: cs := by
  simp [trimStart, List.dropWhile, h]

/-- A text that neither starts nor ends with a blank loses nothing. -/
theorem trim_eq_self {cs : List Char} (hfirst : ∀ c ∈ cs.head?, isBlank c = false)
    (hlast : ∀ c ∈ cs.getLast?, isBlank c = false) : trim cs = cs := by
  have hstart : ∀ ds : List Char, (∀ c ∈ ds.head?, isBlank c = false) →
      ds.dropWhile isBlank = ds := by
    intro ds hds
    cases ds with
    | nil => rfl
    | cons c ds => simp [List.dropWhile, hds c rfl]
  have hend : cs.reverse.dropWhile isBlank = cs.reverse :=
    hstart cs.reverse fun c hc => hlast c (by rwa [List.head?_reverse] at hc)
  rw [trim, trimStart, hstart cs hfirst, trimEnd, hend, List.reverse_reverse]

/-- Blanks around a text are trimmed away, and with them no more than those of
its own. -/
theorem trim_append {front cs back : List Char} (hfront : ∀ c ∈ front, isBlank c = true)
    (hback : ∀ c ∈ back, isBlank c = true) : trim (front ++ cs ++ back) = trim cs := by
  have hstart : trimStart (front ++ cs ++ back) = (cs ++ back).dropWhile isBlank := by
    rw [trimStart, List.append_assoc, List.dropWhile_append_of_pos hfront]
  have hblank : back.dropWhile isBlank = [] := by
    have hnil : (back ++ []).dropWhile isBlank = [].dropWhile isBlank :=
      List.dropWhile_append_of_pos hback
    simpa using hnil
  have hend : ∀ ds : List Char, trimEnd (ds ++ back) = trimEnd ds := by
    intro ds
    have hreverse : ∀ c ∈ back.reverse, isBlank c = true := fun c hc =>
      hback c (List.mem_reverse.1 hc)
    rw [trimEnd, List.reverse_append, List.dropWhile_append_of_pos hreverse, trimEnd]
  rw [trim, hstart, List.dropWhile_append, hblank]
  split
  · next h => rw [trim, trimStart, List.isEmpty_iff.1 h]
  · rw [hend, trim, trimStart]

end KeaGauge.Text
