import Provisioning.Text.Search

/-!
# Laws of splitting and joining

Splitting a text at a separator and joining segments by one are inverse to each other, as long as no
segment holds the separator (`joinWith_splitAtChar`, `splitAtChar_joinWith`). Both are operations of
the library on lists of characters (`splitAtChar_eq_splitOn`, `joinWith_eq_intercalate`), so that
its laws apply to them.
-/

set_option autoImplicit false

namespace Provisioning.Text

variable {sep : Char} {segs : List (List Char)}

theorem splitAtChar_eq_splitOn (sep : Char) (cs : List Char) :
    splitAtChar sep cs = cs.splitOn sep := by
  induction cs with
  | nil => simp [splitAtChar]
  | cons c cs ih =>
    rw [splitAtChar, List.splitOn_cons_eq_if_modifyHead, ih]
    by_cases hc : c = sep
    · simp [hc]
    · obtain ⟨seg, rest, hsegs⟩ := List.exists_cons_of_ne_nil (List.splitOn_ne_nil sep cs)
      simp [hc, hsegs]

theorem joinWith_eq_intercalate (sep : Char) (segs : List (List Char)) :
    joinWith sep segs = [sep].intercalate segs := by
  induction segs with
  | nil => simp [joinWith]
  | cons seg rest ih =>
    cases rest with
    | nil => simp [joinWith]
    | cons next rest =>
      rw [List.intercalate_cons_cons, ← ih, joinWith, List.append_assoc, List.singleton_append]
      exact List.cons_ne_nil next rest

theorem joinWith_cons (sep : Char) (seg : List Char) (hne : segs ≠ []) :
    joinWith sep (seg :: segs) = seg ++ sep :: joinWith sep segs := by
  cases segs with
  | nil => exact absurd rfl hne
  | cons next rest => rfl

/-- A character in front of the first segment is in front of the text. -/
theorem joinWith_modifyHead (sep c : Char) (hne : segs ≠ []) :
    joinWith sep (segs.modifyHead (c :: ·)) = c :: joinWith sep segs := by
  cases segs with
  | nil => exact absurd rfl hne
  | cons seg rest => cases rest <;> rfl

/-- A joined text is made of its segments and of separators. -/
theorem mem_joinWith_iff {c : Char} :
    c ∈ joinWith sep segs ↔ (c = sep ∧ 2 ≤ segs.length) ∨ ∃ seg ∈ segs, c ∈ seg := by
  induction segs with
  | nil => simp [joinWith]
  | cons seg rest ih =>
    cases rest with
    | nil => simp [joinWith]
    | cons next rest =>
      rw [joinWith_cons sep seg (List.cons_ne_nil next rest), List.mem_append, List.mem_cons, ih]
      simp only [List.length_cons, List.mem_cons, exists_eq_or_imp]
      constructor
      · rintro (h | h | ⟨h, -⟩ | h)
        · exact .inr (.inl h)
        · exact .inl ⟨h, by omega⟩
        · exact .inl ⟨h, by omega⟩
        · exact .inr (.inr h)
      · rintro (⟨h, -⟩ | h | h)
        · exact .inr (.inl h)
        · exact .inl h
        · exact .inr (.inr (.inr h))

/-- Splitting joined segments gives the segments back. -/
theorem splitAtChar_joinWith (hsep : ∀ seg ∈ segs, sep ∉ seg) (hne : segs ≠ []) :
    splitAtChar sep (joinWith sep segs) = segs := by
  rw [splitAtChar_eq_splitOn, joinWith_eq_intercalate]
  exact List.splitOn_intercalate sep hsep hne

/-- A text falls apart at each of its separators. -/
theorem splitAtChar_append_cons (sep : Char) (front back : List Char) :
    splitAtChar sep (front ++ sep :: back) = splitAtChar sep front ++ splitAtChar sep back := by
  simp only [splitAtChar_eq_splitOn]
  exact List.splitOn_append_cons_self front back

/-- No segment of a text holds the separator. -/
theorem not_mem_of_mem_splitAtChar {seg cs : List Char} (h : seg ∈ splitAtChar sep cs) :
    sep ∉ seg := by
  induction cs generalizing seg with
  | nil =>
    rw [splitAtChar, List.mem_singleton] at h
    simp [h]
  | cons c cs ih =>
    obtain ⟨first, rest, hsegs⟩ := List.exists_cons_of_ne_nil (splitAtChar_ne_nil sep cs)
    rw [hsegs] at ih
    rw [splitAtChar, hsegs] at h
    by_cases hc : c = sep
    · rw [if_pos hc] at h
      rcases List.mem_cons.1 h with rfl | h
      · exact List.not_mem_nil
      · exact ih h
    · rw [if_neg hc] at h
      rcases List.mem_cons.1 h with rfl | h
      · intro hmem
        rcases List.mem_cons.1 hmem with he | hmem
        · exact hc he.symm
        · exact ih (.head _) hmem
      · exact ih (.tail _ h)

end Provisioning.Text
