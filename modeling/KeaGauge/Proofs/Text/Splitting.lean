import KeaGauge.Text.Reader
import Mathlib.Data.List.Basic
/-!
# Cutting at a separator

No piece that a list is cut into holds the separator
(`not_mem_of_mem_splitOn`), and whatever else it holds was in the list
(`mem_of_mem_splitOn`). Pieces that do not hold the separator, each with it
behind, are cut apart again, and nothing is left behind the last one
(`splitOn_ended`). At its last separator, a list is cut in one way only
(`append_cons_inj_of_not_mem`), and so is a text where a run of characters ends
(`run_append_inj`). Pieces that are joined with separators between them are
known from what that makes (`intercalate_inj`).
-/

namespace KeaGauge.Text

variable {α : Type} {separator c : α} {cs piece : List α}

/-- The separators apart, pieces hold together what they hold one by one. -/
theorem mem_intercalate {pieces : List (List α)} (hc : c ≠ separator) :
    c ∈ [separator].intercalate pieces ↔ ∃ piece ∈ pieces, c ∈ piece := by
  induction pieces with
  | nil => simp
  | cons piece rest ih =>
    cases rest with
    | nil => simp
    | cons next rest =>
      rw [List.intercalate_cons_cons, List.mem_append, List.mem_append, ih]
      simp [hc]

/-- **Two texts cut at their last separators**, what is behind each of them
holding none, are the same just when their parts are. -/
theorem append_cons_inj_of_not_mem {x y d e : List α} (hd : separator ∉ d) (he : separator ∉ e) :
    x ++ separator :: d = y ++ separator :: e ↔ x = y ∧ d = e := by
  constructor
  · intro h
    rcases List.append_eq_append_iff.1 h with ⟨more, rfl, hmore⟩ | ⟨more, rfl, hmore⟩ <;>
      rcases List.cons_eq_append_iff.1 hmore with ⟨rfl, hrest⟩ | ⟨rest, rfl, rfl⟩
    · exact ⟨(List.append_nil x).symm, (List.cons.inj hrest).2.symm⟩
    · exact absurd (List.mem_append_right rest List.mem_cons_self) hd
    · exact ⟨List.append_nil y, (List.cons.inj hrest).2⟩
    · exact absurd (List.mem_append_right rest List.mem_cons_self) he
  · rintro ⟨rfl, rfl⟩
    rfl

/-- **Two texts that start with runs of one class**, what is behind each of
them starting with none of it, are the same just when their parts are. -/
theorem run_append_inj {p : Char → Bool} {run other rest others : List Char}
    (hrun : ∀ c ∈ run, p c = true) (hother : ∀ c ∈ other, p c = true)
    (hrest : ∀ c ∈ rest.head?, p c = false) (hothers : ∀ c ∈ others.head?, p c = false) :
    run ++ rest = other ++ others ↔ run = other ∧ rest = others := by
  constructor
  · intro h
    constructor
    · rw [← takeWhile_append_run hrun hrest, h, takeWhile_append_run hother hothers]
    · rw [← dropWhile_append_run hrun hrest, h, dropWhile_append_run hother hothers]
  · rintro ⟨rfl, rfl⟩
    rfl

/-- Behind the first piece of a join there is nothing, or a separator. -/
theorem intercalate_cons_eq (joint piece : List α) (rest : List (List α)) :
    joint.intercalate (piece :: rest) =
      piece ++ if rest = [] then [] else joint ++ joint.intercalate rest := by
  cases rest with
  | nil => simp
  | cons next rest => simp [List.intercalate_cons_cons]

/-- What is in a join is in the separator or in a piece. -/
theorem mem_of_mem_intercalate {joint : List α} {pieces : List (List α)}
    (h : c ∈ joint.intercalate pieces) : c ∈ joint ∨ ∃ piece ∈ pieces, c ∈ piece := by
  induction pieces with
  | nil => exact absurd h (by simp)
  | cons piece rest ih =>
    rw [intercalate_cons_eq, List.mem_append] at h
    rcases h with h | h
    · exact .inr ⟨piece, List.mem_cons_self, h⟩
    split at h
    · exact absurd h List.not_mem_nil
    rcases List.mem_append.1 h with h | h
    · exact .inl h
    · exact (ih h).imp_right fun ⟨next, hnext, hc⟩ => ⟨next, List.mem_cons_of_mem _ hnext, hc⟩

/-- **Pieces are known from their join**, when a separator starts with what
is in none of them and none of them is empty. -/
theorem intercalate_inj {mark : Char} {more : List Char} {pieces others : List (List Char)}
    (h : ∀ piece ∈ pieces, piece ≠ [] ∧ mark ∉ piece)
    (hothers : ∀ piece ∈ others, piece ≠ [] ∧ mark ∉ piece)
    (hjoin : (mark :: more).intercalate pieces = (mark :: more).intercalate others) :
    pieces = others := by
  have hclass : ∀ {piece : List Char}, mark ∉ piece → ∀ c ∈ piece, decide (c ≠ mark) = true :=
    fun hmark c hc => decide_eq_true fun heq => hmark (heq ▸ hc)
  have hends : ∀ rest : List (List Char), ∀ c ∈ (if rest = [] then [] else
      mark :: more ++ (mark :: more).intercalate rest).head?, decide (c ≠ mark) = false := by
    intro rest
    split <;> simp
  induction pieces generalizing others with
  | nil =>
    cases others with
    | nil => rfl
    | cons piece rest =>
      rw [intercalate_cons_eq, List.intercalate_nil] at hjoin
      exact absurd (List.append_eq_nil_iff.1 hjoin.symm).1 (hothers piece List.mem_cons_self).1
  | cons piece rest ih =>
    obtain ⟨⟨hne, hmark⟩, hrest⟩ := List.forall_mem_cons.1 h
    cases others with
    | nil =>
      rw [intercalate_cons_eq, List.intercalate_nil] at hjoin
      exact absurd (List.append_eq_nil_iff.1 hjoin).1 hne
    | cons other others =>
      obtain ⟨⟨-, hmark'⟩, hrest'⟩ := List.forall_mem_cons.1 hothers
      rw [intercalate_cons_eq, intercalate_cons_eq,
        run_append_inj (hclass hmark) (hclass hmark') (hends rest) (hends others)] at hjoin
      obtain ⟨rfl, htails⟩ := hjoin
      split_ifs at htails with hnil hnil' hnil'
      · rw [hnil, hnil']
      · exact absurd htails (by simp)
      · exact absurd htails (by simp)
      · rw [ih hrest hrest' (List.append_cancel_left htails)]

variable [BEq α] [LawfulBEq α]

/-- **No piece holds the separator.** -/
theorem not_mem_of_mem_splitOn (h : piece ∈ cs.splitOn separator) : separator ∉ piece := by
  induction cs generalizing piece with
  | nil =>
    rw [List.splitOn_nil, List.mem_singleton] at h
    subst h
    exact List.not_mem_nil
  | cons c cs ih =>
    obtain ⟨first, others, hpieces⟩ :=
      List.exists_cons_of_ne_nil (List.splitOn_ne_nil separator cs)
    rw [List.splitOn_cons_eq_if_modifyHead, hpieces] at h
    rw [hpieces] at ih
    split at h
    · rcases List.mem_cons.1 h with rfl | h
      · exact List.not_mem_nil
      · exact ih h
    · next hc =>
      -- the first piece has grown by a character that is no separator
      rcases List.mem_cons.1 h with rfl | h
      · rw [List.mem_cons, not_or]
        exact ⟨fun heq => hc (beq_iff_eq.2 heq.symm), ih List.mem_cons_self⟩
      · exact ih (List.mem_cons_of_mem _ h)

/-- What a piece holds was there before. -/
theorem mem_of_mem_splitOn (h : piece ∈ cs.splitOn separator) (hc : c ∈ piece) : c ∈ cs := by
  have hne : c ≠ separator := fun heq => not_mem_of_mem_splitOn h (heq ▸ hc)
  have hcs : [separator].intercalate (cs.splitOn separator) = cs :=
    List.intercalate_splitOn separator
  rw [← hcs, mem_intercalate hne]
  exact ⟨piece, h, hc⟩

/-- **Pieces with a separator behind each are cut apart again.** -/
theorem splitOn_ended {pieces : List (List α)} (h : ∀ piece ∈ pieces, separator ∉ piece) :
    (pieces.flatMap fun piece => piece ++ [separator]).splitOn separator = pieces ++ [[]] := by
  induction pieces with
  | nil => exact List.splitOn_nil separator
  | cons piece rest ih =>
    obtain ⟨hpiece, hrest⟩ := List.forall_mem_cons.1 h
    rw [List.flatMap_cons, List.append_assoc, List.singleton_append,
      List.splitOn_append_cons_self_of_not_mem hpiece, ih hrest, List.cons_append]

end KeaGauge.Text
