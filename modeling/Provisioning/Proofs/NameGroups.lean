import Provisioning.Proofs.ResourceName
import Provisioning.Proofs.Splitting

/-!
# Resource names as a normal form

A text is read through its groups, the parts between its hyphens that are not empty. Two hyphenated
texts with the same groups are equal (`joinWith_groups`), and making a resource name keeps the
groups of the characters that are allowed (`groups_resourceNameChars`). So the resource name of a
text is its groups joined by single hyphens (`resourceNameChars_eq`), which makes it a normal form:
`toResourceName_normalizes`.
-/

set_option autoImplicit false

namespace Provisioning

open Text

/-- Groups of lower-case ASCII letters and digits, none of them empty, joined by single hyphens. -/
def Grouped (cs : List Char) : Prop :=
  ∃ gs : List (List Char), (∀ g ∈ gs, g ≠ [] ∧ ∀ c ∈ g, isNameChar c) ∧ cs = joinWith '-' gs

/-- The parts between the hyphens of a text, without the empty ones. -/
def groups (cs : List Char) : List (List Char) := (splitAtChar '-' cs).filter fun g => !g.isEmpty

/-- The text of which a resource name takes the groups: in lower case, with a hyphen for every
character that is not allowed. -/
def allowedChars (cs : List Char) : List Char := (cs.flatMap lowerChar).map nameChar

/-! ## Groups -/

@[simp] theorem groups_nil : groups [] = [] := rfl

theorem groups_append_hyphen (front back : List Char) :
    groups (front ++ '-' :: back) = groups front ++ groups back := by
  rw [groups, splitAtChar_append_cons, List.filter_append]
  rfl

@[simp] theorem groups_cons_hyphen (cs : List Char) : groups ('-' :: cs) = groups cs :=
  groups_append_hyphen [] cs

theorem groups_append_singleton (cs : List Char) : groups (cs ++ ['-']) = groups cs := by
  rw [groups_append_hyphen, groups_nil, List.append_nil]

/-- A character that is no hyphen joins the group behind it, or is one of its own. -/
theorem groups_cons {c : Char} (hc : c ≠ '-') (cs : List Char) :
    groups (c :: cs) =
      if cs = [] ∨ cs.head? = some '-' then [c] :: groups cs
      else (groups cs).modifyHead (c :: ·) := by
  cases cs with
  | nil => simp [groups, splitAtChar, hc]
  | cons d cs =>
    obtain ⟨first, rest, hsplit⟩ := List.exists_cons_of_ne_nil (splitAtChar_ne_nil '-' cs)
    by_cases hd : d = '-'
    · simp [groups, splitAtChar, hc, hd, hsplit]
    · simp [groups, splitAtChar, hc, hd, hsplit]

theorem groups_collapseHyphens (cs : List Char) : groups (collapseHyphens cs) = groups cs := by
  induction cs with
  | nil => rfl
  | cons c cs ih =>
    rw [collapseHyphens]
    split
    case isTrue hrun => rw [hrun.1, groups_cons_hyphen, ih]
    case isFalse =>
      by_cases hc : c = '-'
      · rw [hc, groups_cons_hyphen, groups_cons_hyphen, ih]
      · have hnil : collapseHyphens cs = [] ↔ cs = [] := by
          rw [← List.head?_eq_none_iff, head?_collapseHyphens, List.head?_eq_none_iff]
        rw [groups_cons hc, groups_cons hc, head?_collapseHyphens, ih]
        simp only [hnil]

theorem groups_dropWhile (cs : List Char) : groups (cs.dropWhile (· == '-')) = groups cs := by
  induction cs with
  | nil => rfl
  | cons c cs ih =>
    by_cases hc : c = '-'
    · rw [hc, List.dropWhile_cons_of_pos (by simp), groups_cons_hyphen, ih]
    · rw [List.dropWhile_cons_of_neg (by simpa using hc)]

theorem groups_trimEndBy (cs : List Char) : groups (trimEndBy (· == '-') cs) = groups cs := by
  induction cs using List.reverseRecOn with
  | nil => rfl
  | append_singleton cs c ih =>
    rw [trimEndBy, ← List.rdropWhile] at ih ⊢
    by_cases hc : c = '-'
    · rw [hc, List.rdropWhile_concat_pos _ _ _ (by simp), ih, groups_append_singleton]
    · rw [List.rdropWhile_concat_neg _ _ _ (by simpa using hc)]

/-- Making a resource name keeps the groups. -/
theorem groups_resourceNameChars (cs : List Char) :
    groups (resourceNameChars cs) = groups (allowedChars cs) := by
  rw [resourceNameChars, trimBy, groups_trimEndBy, groups_dropWhile, groups_collapseHyphens]
  rfl

/-! ## Hyphenated texts -/

/-- A text without hyphens in a row or at its end is its groups joined by hyphens, but for a hyphen
at its start. -/
theorem joinWith_groups_of_isChain {cs : List Char}
    (hsingle : cs.IsChain fun a b => ¬(a = '-' ∧ b = '-')) (hlast : cs.getLast? ≠ some '-') :
    (cs ≠ [] → groups cs ≠ []) ∧
      joinWith '-' (groups cs) = if cs.head? = some '-' then cs.tail else cs := by
  induction cs with
  | nil => exact ⟨fun h => absurd rfl h, rfl⟩
  | cons c cs ih =>
    obtain ⟨hnext, hsingle⟩ := List.isChain_cons.1 hsingle
    have hrest : cs.getLast? ≠ some '-' := by
      intro h
      rw [List.getLast?_cons, h] at hlast
      exact hlast rfl
    obtain ⟨hne, hjoin⟩ := ih hsingle hrest
    by_cases hc : c = '-'
    · -- the text behind a hyphen does not start with one, and there is such a text
      have hcs : cs ≠ [] := by
        rintro rfl
        exact hlast (by simp [hc])
      have hhead : cs.head? ≠ some '-' := fun h => hnext '-' h ⟨hc, rfl⟩
      rw [if_neg hhead] at hjoin
      rw [hc, groups_cons_hyphen, hjoin]
      exact ⟨fun _ => hne hcs, rfl⟩
    · have hstart : (c :: cs).head? ≠ some '-' := by simpa using hc
      rw [if_neg hstart, groups_cons hc]
      split
      case isTrue hown =>
        refine ⟨fun _ => List.cons_ne_nil _ _, ?_⟩
        rcases hown with rfl | hhead
        · rfl
        · obtain ⟨tail, rfl⟩ := List.head?_eq_some_iff.1 hhead
          rw [joinWith_cons '-' [c] (hne (List.cons_ne_nil _ _)), hjoin, if_pos hhead]
          rfl
      case isFalse hjoined =>
        obtain ⟨hcs, hhead⟩ := not_or.1 hjoined
        rw [joinWith_modifyHead '-' c (hne hcs), hjoin, if_neg hhead]
        exact ⟨fun _ => by simpa using hne hcs, rfl⟩

/-- A hyphenated text is its groups joined by single hyphens. -/
theorem joinWith_groups {cs : List Char} (h : Hyphenated cs) :
    joinWith '-' (groups cs) = cs := by
  rw [(joinWith_groups_of_isChain h.single h.last).2, if_neg h.head]

theorem grouped_of_hyphenated {cs : List Char} (h : Hyphenated cs) : Grouped cs := by
  refine ⟨groups cs, fun g hg => ?_, (joinWith_groups h).symm⟩
  obtain ⟨hsplit, hne⟩ := List.mem_filter.1 hg
  refine ⟨by simpa using hne, fun c hc => ?_⟩
  have hmem : c ∈ cs := by
    rw [← joinWith_splitAtChar '-' cs]
    exact mem_joinWith_iff.2 (.inr ⟨g, hsplit, hc⟩)
  exact (h.chars c hmem).resolve_right fun he => not_mem_of_mem_splitAtChar hsplit (he ▸ hc)

/-! ## Resource names and their groups -/

theorem toNat_lt_of_isNameChar {c : Char} (hc : isNameChar c) : c.toNat < 128 := by
  rcases Bool.or_eq_true_iff.1 hc with hletter | hdigit
  · have hle : c ≤ 'z' := of_decide_eq_true (Bool.and_eq_true_iff.1 hletter).2
    exact Nat.lt_of_le_of_lt (UInt32.le_iff_toNat_le.1 hle) (by decide)
  · have hle : c.val ≤ '9'.val := of_decide_eq_true (Bool.and_eq_true_iff.1 hdigit).2
    exact Nat.lt_of_le_of_lt (UInt32.le_iff_toNat_le.1 hle) (by decide)

/-- What a resource name may hold is left as it is. -/
theorem allowedChars_eq_self {cs : List Char} (h : ∀ c ∈ cs, isNameChar c ∨ c = '-') :
    allowedChars cs = cs := by
  have hall : ∀ n < 128, (isNameChar (Char.ofNat n) ∨ Char.ofNat n = '-') →
      (lowerChar (Char.ofNat n)).map nameChar = [Char.ofNat n] := by decide
  induction cs with
  | nil => rfl
  | cons c cs ih =>
    obtain ⟨hc, hcs⟩ := List.forall_mem_cons.1 h
    have hlt : c.toNat < 128 := by
      rcases hc with hc | rfl
      · exact toNat_lt_of_isNameChar hc
      · decide
    have hchar := hall c.toNat hlt
    rw [Char.ofNat_toNat] at hchar
    rw [allowedChars, List.flatMap_cons, List.map_append, hchar hc, ← allowedChars, ih hcs]
    rfl

theorem allowedChars_append_hyphen (front back : List Char) :
    allowedChars (front ++ '-' :: back) = allowedChars front ++ '-' :: allowedChars back := by
  have hhyphen : (lowerChar '-').map nameChar = ['-'] := by decide
  rw [allowedChars, List.flatMap_append, List.flatMap_cons, List.map_append, List.map_append,
    hhyphen]
  rfl

/-- The resource name of a text is its groups joined by single hyphens. -/
theorem resourceNameChars_eq (cs : List Char) :
    resourceNameChars cs = joinWith '-' (groups (allowedChars cs)) := by
  rw [← groups_resourceNameChars, joinWith_groups (hyphenated_resourceNameChars cs)]

theorem resourceNameChars_eq_self {cs : List Char} (h : Grouped cs) :
    resourceNameChars cs = cs := by
  obtain ⟨gs, hgs, rfl⟩ := h
  have hchars : ∀ c ∈ joinWith '-' gs, isNameChar c ∨ c = '-' := fun c hc => by
    rcases mem_joinWith_iff.1 hc with ⟨he, -⟩ | ⟨g, hg, hmem⟩
    · exact .inr he
    · exact .inl ((hgs g hg).2 c hmem)
  have hgroups : groups (joinWith '-' gs) = gs := by
    rcases List.eq_nil_or_concat' gs with rfl | ⟨front, last, rfl⟩
    · rfl
    · rw [groups, splitAtChar_joinWith (fun g hg hmem => ?_) (by simp)]
      · exact List.filter_eq_self.2 fun g hg => by simpa using (hgs g hg).1
      · exact absurd ((hgs g hg).2 '-' hmem) (by decide)
  rw [resourceNameChars_eq, allowedChars_eq_self hchars, hgroups]

/-- Behind a hyphen, a text may as well be made a resource name first. -/
theorem resourceNameChars_append_hyphen (front back : List Char) :
    resourceNameChars (front ++ '-' :: resourceNameChars back) =
      resourceNameChars (front ++ '-' :: back) := by
  have hback : groups (allowedChars (resourceNameChars back)) = groups (allowedChars back) := by
    rw [allowedChars_eq_self (hyphenated_resourceNameChars back).chars, groups_resourceNameChars]
  simp only [resourceNameChars_eq (front ++ '-' :: _), allowedChars_append_hyphen,
    groups_append_hyphen, hback]

/-- Resource names are a normal form: groups of letters and digits joined by single hyphens, and
the texts of this form are exactly those that are their own resource names. So making a resource
name twice changes nothing, and neither does making one of the part behind a hyphen first. -/
theorem toResourceName_normalizes :
    (∀ s, Grouped (toResourceName s).toList) ∧
      (∀ s, toResourceName s = s ↔ Grouped s.toList) ∧
      (∀ s, toResourceName (toResourceName s) = toResourceName s) ∧
      ∀ a b, toResourceName (a ++ "-" ++ toResourceName b) = toResourceName (a ++ "-" ++ b) := by
  have hgrouped : ∀ s, Grouped (toResourceName s).toList := fun s => by
    rw [toResourceName, String.toList_ofList]
    exact grouped_of_hyphenated (hyphenated_resourceNameChars s.toList)
  have hfixed : ∀ s, Grouped s.toList → toResourceName s = s := fun s h => by
    rw [toResourceName, resourceNameChars_eq_self h, String.ofList_toList]
  refine ⟨hgrouped, fun s => ⟨fun h => h ▸ hgrouped s, hfixed s⟩,
    fun s => hfixed _ (hgrouped s), fun a b => ?_⟩
  have hjoin : ∀ c : String, (a ++ "-" ++ c).toList = a.toList ++ '-' :: c.toList := fun c => by
    simp [String.toList_append]
  simp only [toResourceName, hjoin, String.toList_ofList, resourceNameChars_append_hyphen]

end Provisioning
