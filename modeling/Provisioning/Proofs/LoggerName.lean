import Mathlib.Data.List.Forall2
import Provisioning.Logging.Line
import Provisioning.Proofs.Splitting

/-!
# Short names of loggers

Shortening goes through the segments of a name from the last one on, with a running length of the
name in which the segments seen so far are whole and all others count as one letter (`lengthWith`).
`wholeCount` is the number of segments that are whole when this length first exceeds the limit:
everything before them is cut down to its first letter (`keepWhole_false`, `keepWhole_true`).

The running length is the real one as long as every segment has a first letter
(`length_joinWith_abbreviate`). So a name without empty segments is kept if it fits, and otherwise
shortened as little as whole segments allow (`compress_abbreviates`).

An empty segment has no letter that it could be cut to, and shortening fails exactly if it comes to
one (`compress?_eq_none_iff`): the filter of the log faults for such names, and for no others
(`Record.exists_shortName_iff`).
-/

set_option autoImplicit false

namespace Provisioning.Logging

open Text

/-- The segments of a name between its dots. -/
def nameSegments (name : String) : List (List Char) := splitAtChar '.' name.toList

/-- How much longer a name is for these segments being whole instead of one letter each. -/
def surplus : (segs : List (List Char)) → Int
  | [] => 0
  | seg :: segs => seg.length - 1 + surplus segs

/-- The last `whole` segments of a name as they are, and the first letter of all others. -/
def abbreviate (whole : Nat) (segs : List (List Char)) : List (List Char) :=
  (segs.take (segs.length - whole)).map (·.take 1) ++ segs.drop (segs.length - whole)

/-- The first letter of every segment but the last, and as much of the last one as a name of
`length` characters has room for. -/
def fillLast (length : Int) (segs : List (List Char)) : List (List Char) :=
  segs.dropLast.map (·.take 1) ++
    [(segs.getLastD []).take (length - (2 * segs.length - 1) + 1).toNat]

/-- The length of a name whose last `whole` segments are whole, where every other one counts as
one letter. -/
def lengthWith (whole : Nat) (segs : List (List Char)) : Int :=
  2 * segs.length - 1 + surplus (segs.drop (segs.length - whole))

/-! ## Lengths -/

@[simp] theorem surplus_nil : surplus [] = 0 := rfl

@[simp] theorem surplus_cons (seg : List Char) (segs : List (List Char)) :
    surplus (seg :: segs) = seg.length - 1 + surplus segs := rfl

@[simp] theorem surplus_append (front back : List (List Char)) :
    surplus (front ++ back) = surplus front + surplus back := by
  induction front with
  | nil => simp
  | cons seg front ih =>
    rw [List.cons_append, surplus_cons, surplus_cons, ih, Int.add_assoc]

@[simp] theorem surplus_reverse (segs : List (List Char)) :
    surplus segs.reverse = surplus segs := by
  induction segs with
  | nil => rfl
  | cons seg segs ih =>
    rw [List.reverse_cons, surplus_append, ih, surplus_cons, surplus_cons, surplus_nil]
    omega

theorem surplus_nonneg {segs : List (List Char)} (h : ∀ seg ∈ segs, seg ≠ []) :
    0 ≤ surplus segs := by
  induction segs with
  | nil => exact Int.le_refl 0
  | cons seg segs ih =>
    obtain ⟨hseg, hsegs⟩ := List.forall_mem_cons.1 h
    have hpos := List.length_pos_iff.2 hseg
    have hrest := ih hsegs
    rw [surplus_cons]
    omega

/-- First letters have no surplus. -/
theorem surplus_letters {segs : List (List Char)} (h : ∀ seg ∈ segs, seg ≠ []) :
    surplus (segs.map (·.take 1)) = 0 := by
  induction segs with
  | nil => rfl
  | cons seg segs ih =>
    obtain ⟨hseg, hsegs⟩ := List.forall_mem_cons.1 h
    obtain ⟨c, seg, rfl⟩ := List.exists_cons_of_ne_nil hseg
    rw [List.map_cons, surplus_cons, ih hsegs]
    simp

/-- A joined name has a letter for every segment, a dot between any two, and the surplus. -/
theorem length_joinWith_dots {segs : List (List Char)} (h : segs ≠ []) :
    ((joinWith '.' segs).length : Int) = 2 * segs.length - 1 + surplus segs := by
  induction segs with
  | nil => exact absurd rfl h
  | cons seg rest ih =>
    rw [List.length_cons, surplus_cons]
    cases rest with
    | nil =>
      rw [joinWith, surplus_nil, List.length_nil]
      omega
    | cons next rest =>
      have hne := List.cons_ne_nil next rest
      have hrest := ih hne
      rw [joinWith_cons '.' seg hne, List.length_append, List.length_cons]
      omega

theorem nameSegments_ne_nil (name : String) : nameSegments name ≠ [] := splitAtChar_ne_nil _ _

/-- The length of a name is that of its segments. -/
theorem length_eq (name : String) :
    (name.length : Int) = 2 * (nameSegments name).length - 1 + surplus (nameSegments name) := by
  rw [← length_joinWith_dots (nameSegments_ne_nil name), nameSegments, joinWith_splitAtChar,
    String.length_toList]

theorem nameSegments_ofList_joinWith {segs : List (List Char)} (hdots : ∀ seg ∈ segs, '.' ∉ seg)
    (hne : segs ≠ []) : nameSegments (String.ofList (joinWith '.' segs)) = segs := by
  rw [nameSegments, String.toList_ofList, splitAtChar_joinWith hdots hne]

/-! ## Abbreviating -/

section
variable {segs : List (List Char)} {whole : Nat}

@[simp] theorem length_abbreviate : (abbreviate whole segs).length = segs.length := by
  simp [abbreviate]

/-- From the last segment on, an abbreviated name starts with the segments that are whole. -/
theorem reverse_abbreviate :
    (abbreviate whole segs).reverse =
      segs.reverse.take whole ++ (segs.reverse.drop whole).map (·.take 1) := by
  rw [abbreviate, List.reverse_append, ← List.map_reverse, List.take_reverse, List.drop_reverse]

@[simp] theorem lengthWith_zero : lengthWith 0 segs = 2 * segs.length - 1 := by
  simp [lengthWith]

theorem lengthWith_eq :
    lengthWith whole segs = 2 * segs.length - 1 + surplus (segs.reverse.take whole) := by
  rw [lengthWith, List.take_reverse, surplus_reverse]

/-- An abbreviated name is as long as it counts if every segment has a first letter. -/
theorem length_joinWith_abbreviate (h : ∀ seg ∈ segs, seg ≠ []) (hne : segs ≠ []) :
    ((joinWith '.' (abbreviate whole segs)).length : Int) = lengthWith whole segs := by
  have hcut : abbreviate whole segs ≠ [] := by
    rw [← List.length_pos_iff, length_abbreviate]
    exact List.length_pos_iff.2 hne
  rw [length_joinWith_dots hcut, length_abbreviate, lengthWith, abbreviate, surplus_append,
    surplus_letters fun seg hseg => h seg (List.mem_of_mem_take hseg)]
  omega

/-- The more segments are whole, the longer a name is. -/
theorem lengthWith_mono (h : ∀ seg ∈ segs, seg ≠ []) {more : Nat} (hle : whole ≤ more) :
    lengthWith whole segs ≤ lengthWith more segs := by
  obtain ⟨extra, rfl⟩ := Nat.exists_eq_add_of_le hle
  have hextra : 0 ≤ surplus ((segs.reverse.drop whole).take extra) :=
    surplus_nonneg fun seg hseg =>
      h seg (List.mem_reverse.1 (List.mem_of_mem_drop (List.mem_of_mem_take hseg)))
  rw [lengthWith_eq, lengthWith_eq, List.take_add, surplus_append]
  omega

end

/-! ## The loop -/

theorem initials_nil_cons (segs : List (List Char)) : initials ([] :: segs) = none := rfl

theorem initials_cons_cons (c : Char) (seg : List Char) (segs : List (List Char)) :
    initials ((c :: seg) :: segs) = (initials segs).map ([c] :: ·) := by
  rw [initials, List.mapM_cons, ← initials]
  cases initials segs <;> rfl

theorem initials_eq_some {segs : List (List Char)} (h : [] ∉ segs) :
    initials segs = some (segs.map (·.take 1)) := by
  induction segs with
  | nil => rfl
  | cons seg segs ih =>
    cases seg with
    | nil => exact absurd (.head _) h
    | cons c seg =>
      rw [initials_cons_cons, ih fun hmem => h (.tail _ hmem)]
      rfl

theorem initials_eq_none_iff {segs : List (List Char)} : initials segs = none ↔ [] ∈ segs := by
  induction segs with
  | nil => simp [initials]
  | cons seg segs ih =>
    cases seg with
    | nil => simp [initials_nil_cons]
    | cons c seg =>
      rw [initials_cons_cons, Option.map_eq_none_iff, ih, List.mem_cons]
      simp

/-- The number of segments that stay whole, where the segments come from the last one on and `used`
is the length of the name so far. -/
def wholeCount (length : Int) : (used : Int) → List (List Char) → Nat
  | _, [] => 0
  | used, seg :: rest =>
    if length < used + (seg.length - 1) then 0
    else wholeCount length (used + (seg.length - 1)) rest + 1

section
variable {length used : Int} {segs : List (List Char)}

/-- With the segments that stay whole, and with fewer of them, the name fits. -/
theorem le_of_le_wholeCount {k : Nat} (hpos : 0 < k) (hk : k ≤ wholeCount length used segs) :
    used + surplus (segs.take k) ≤ length := by
  induction segs generalizing used k with
  | nil => simp [wholeCount] at hk; omega
  | cons seg rest ih =>
    obtain ⟨k, rfl⟩ : ∃ j, k = j + 1 := ⟨k - 1, by omega⟩
    rw [wholeCount] at hk
    split at hk
    · omega
    · rw [List.take_succ_cons, surplus_cons]
      cases k with
      | zero => simp; omega
      | succ k =>
        have hrest := ih (k := k + 1) (Nat.succ_pos k) (Nat.le_of_succ_le_succ hk)
        omega

/-- With one segment more than those that stay whole, the name does not fit. -/
theorem lt_wholeCount_succ (h : wholeCount length used segs < segs.length) :
    length < used + surplus (segs.take (wholeCount length used segs + 1)) := by
  induction segs generalizing used with
  | nil => simp at h
  | cons seg rest ih =>
    rw [wholeCount] at h ⊢
    split at h
    · rename_i hlong
      rw [if_pos hlong]
      simpa using hlong
    · rename_i hfits
      have hrest := ih (Nat.lt_of_succ_lt_succ h)
      rw [if_neg hfits, List.take_succ_cons, surplus_cons]
      omega

/-- Behind the last segment, the loop keeps segments whole and then cuts the others. -/
theorem keepWhole_false (length used : Int) (segs : List (List Char)) :
    keepWhole length false used segs =
      (initials (segs.drop (wholeCount length used segs))).map
        (segs.take (wholeCount length used segs) ++ ·) := by
  induction segs generalizing used with
  | nil => rfl
  | cons seg rest ih =>
    rw [keepWhole, wholeCount]
    split
    · simp
    · rw [ih]
      cases hletters : initials (rest.drop (wholeCount length (used + (seg.length - 1)) rest)) <;>
        simp [hletters]

/-- The last segment is treated as all others, unless it does not fit although there is room. -/
theorem keepWhole_true (h : wholeCount length used segs = 0 → length ≤ used) :
    keepWhole length true used segs = keepWhole length false used segs := by
  cases segs with
  | nil => rfl
  | cons seg rest =>
    rw [keepWhole, keepWhole]
    split
    · rename_i hlong
      have hroom : ¬ used < length := Int.not_lt.2 (h (by rw [wholeCount, if_pos hlong]))
      simp [hroom]
    · rfl

/-- A last segment that does not fit is cut to what is left. -/
theorem keepWhole_cut {seg : List Char} (h : wholeCount length used (seg :: segs) = 0)
    (hroom : used < length) :
    keepWhole length true used (seg :: segs) =
      (initials (seg :: segs)).map fun letters =>
        seg.take (length - used + 1).toNat :: letters.drop 1 := by
  have hlong : length < used + (seg.length - 1) := by
    rw [wholeCount] at h
    split at h
    · assumption
    · cases h
  rw [keepWhole, if_pos hlong]
  cases hletters : initials (seg :: segs) <;> simp [hroom]

theorem keepWhole_true_eq_none_iff :
    keepWhole length true used segs = none ↔ [] ∈ segs.drop (wholeCount length used segs) := by
  by_cases h : wholeCount length used segs = 0 ∧ used < length
  · obtain ⟨hnone, hroom⟩ := h
    cases segs with
    | nil => simp [keepWhole]
    | cons seg rest =>
      rw [keepWhole_cut hnone hroom, Option.map_eq_none_iff, initials_eq_none_iff, hnone,
        List.drop_zero]
  · have hsame : wholeCount length used segs = 0 → length ≤ used := fun hnone =>
      Int.not_lt.1 fun hroom => h ⟨hnone, hroom⟩
    rw [keepWhole_true hsame, keepWhole_false, Option.map_eq_none_iff, initials_eq_none_iff]

end

/-! ## Where the loop stops -/

/-- The number of segments at the end of a name that stay whole when it is shortened. -/
def fitting (length : Int) (segs : List (List Char)) : Nat :=
  wholeCount length (2 * segs.length - 1) segs.reverse

section
variable {length : Int} {segs : List (List Char)}

theorem lengthWith_le_of_le_fitting {k : Nat} (hpos : 0 < k) (hk : k ≤ fitting length segs) :
    lengthWith k segs ≤ length := by
  rw [lengthWith_eq]
  exact le_of_le_wholeCount hpos hk

theorem lt_lengthWith_of_fitting_lt (h : fitting length segs < segs.length) :
    length < lengthWith (fitting length segs + 1) segs := by
  rw [lengthWith_eq]
  exact lt_wholeCount_succ (by simpa [fitting] using h)

/-- A name that is too long does not keep all its segments. -/
theorem fitting_lt {name : String} (hlong : length < name.length) :
    fitting length (nameSegments name) < (nameSegments name).length := by
  refine Nat.lt_of_not_le fun hall => ?_
  have hfits := lengthWith_le_of_le_fitting (List.length_pos_iff.2 (nameSegments_ne_nil name)) hall
  rw [lengthWith, Nat.sub_self, List.drop_zero, ← length_eq] at hfits
  omega

theorem compress?_eq_map {name : String} (hlong : length < name.length) :
    compress? name length =
      (keepWhole length true (2 * (nameSegments name).length - 1) (nameSegments name).reverse).map
        fun kept => String.ofList (joinWith '.' kept.reverse) := by
  have hnot : ¬ (name.toList.length : Int) ≤ length := by
    rw [String.length_toList]
    omega
  rw [compress?, Option.map_eq_bind]
  simp only [if_neg hnot]
  rfl

theorem compress?_of_le {name : String} (hfits : (name.length : Int) ≤ length) :
    compress? name length = some name := by
  have hle : (name.toList.length : Int) ≤ length := by rwa [String.length_toList]
  rw [compress?]
  simp only [if_pos hle]

end

/-! ## Names with empty segments -/

/-- Shortening a name to `length` characters comes to an empty segment: the name is too long with
`whole + 1` of its last segments whole, and one of those in front of the last `whole` is empty. -/
def MeetsEmpty (length : Int) (segs : List (List Char)) : Prop :=
  ∃ whole < segs.length, length < lengthWith (whole + 1) segs ∧
    [] ∈ segs.take (segs.length - whole)

/-- It is enough to look at the segments in front of those that stay whole. -/
theorem meetsEmpty_iff {length : Int} {segs : List (List Char)} :
    MeetsEmpty length segs ↔ [] ∈ segs.take (segs.length - fitting length segs) := by
  constructor
  · rintro ⟨whole, -, hlong, hmem⟩
    have hle : fitting length segs ≤ whole := by
      refine Nat.le_of_not_lt fun hlt => ?_
      have hfits := lengthWith_le_of_le_fitting (k := whole + 1) (Nat.succ_pos whole) hlt
      omega
    exact List.take_subset_take_left segs (Nat.sub_le_sub_left hle _) hmem
  · intro hmem
    have hlt : fitting length segs < segs.length := by
      refine Nat.lt_of_not_le fun hle => ?_
      rw [Nat.sub_eq_zero_of_le hle, List.take_zero] at hmem
      cases hmem
    exact ⟨fitting length segs, hlt, lt_lengthWith_of_fitting_lt hlt, hmem⟩

/-- A name cannot be shortened exactly if it is too long and shortening comes to an empty
segment. -/
theorem compress?_eq_none_iff {name : String} {length : Int} :
    compress? name length = none ↔
      length < name.length ∧ MeetsEmpty length (nameSegments name) := by
  by_cases hlong : length < name.length
  · rw [compress?_eq_map hlong, Option.map_eq_none_iff, keepWhole_true_eq_none_iff,
      List.drop_reverse, List.mem_reverse, meetsEmpty_iff, fitting]
    exact (and_iff_right hlong).symm
  · rw [compress?_of_le (Int.not_lt.1 hlong)]
    simp [hlong]

/-- The filter of the log answers exactly for the names that fit and for those that are shortened
without coming to an empty segment. -/
theorem Record.exists_shortName_iff (r : Record) (maxLength : Option Int) :
    (∃ short, r.shortName maxLength = .ok short) ↔
      (r.name.length : Int) ≤ allowedLength maxLength ∨
        ¬ MeetsEmpty (allowedLength maxLength) (nameSegments r.name) := by
  have hnone : compress? r.name (allowedLength maxLength) = none ↔ _ := compress?_eq_none_iff
  rw [Record.shortName]
  cases hshort : compress? r.name (allowedLength maxLength) with
  | none =>
    obtain ⟨hlong, hempty⟩ := hnone.1 hshort
    simp [hempty, hlong]
  | some short =>
    rw [hshort] at hnone
    have hnot : ¬ (allowedLength maxLength < r.name.length ∧
        MeetsEmpty (allowedLength maxLength) (nameSegments r.name)) := fun h => by
      cases hnone.2 h
    refine iff_of_true ⟨short, rfl⟩ ?_
    by_cases hlong : allowedLength maxLength < r.name.length
    · exact .inr fun hempty => hnot ⟨hlong, hempty⟩
    · exact .inl (Int.not_lt.1 hlong)

/-- There are names that the filter of the log cannot shorten: two dots in a row, in front of
segments that are too long. -/
theorem not_forall_exists_shortName :
    ¬ ∀ (r : Record) (maxLength : Option Int), ∃ short, r.shortName maxLength = .ok short := by
  intro h
  obtain ⟨short, hshort⟩ :=
    h ⟨"rds_cfn..services.rds.resource_providers", .int 20, "m", [], .int 0, .int 0⟩ none
  have hnone : compress? "rds_cfn..services.rds.resource_providers" (allowedLength none) = none :=
    by decide
  rw [Record.shortName, hnone] at hshort
  cases hshort

/-! ## Names without empty segments -/

/-- What is left of a segment: a part of it from its start, with at least one character. -/
def IsCut (cut seg : List Char) : Prop := cut ≠ [] ∧ cut <+: seg

/-- A shortened name: its last `whole` segments are whole and all others one letter, where a last
segment that is not whole fills the room that there is. With more whole segments the name would be
too long. -/
structure Abbreviates (length : Int) (segs : List (List Char)) (whole : Nat) (short : String) :
    Prop where
  whole_lt : whole < segs.length
  cuts : List.Forall₂ IsCut (nameSegments short) segs
  bounded : (short.length : Int) ≤ max length (2 * segs.length - 1)
  letters : ¬(whole = 0 ∧ 2 * (segs.length : Int) - 1 < length) →
    nameSegments short = abbreviate whole segs
  filled : whole = 0 → 2 * (segs.length : Int) - 1 < length →
    (nameSegments short).dropLast = segs.dropLast.map (·.take 1) ∧ (short.length : Int) = length
  maximal : ∀ more, whole < more → more ≤ segs.length →
    length < (joinWith '.' (abbreviate more segs)).length

theorem isCut_self {seg : List Char} (h : seg ≠ []) : IsCut seg seg := ⟨h, List.prefix_rfl⟩

theorem isCut_take {seg : List Char} (h : seg ≠ []) {n : Nat} (hn : 0 < n) :
    IsCut (seg.take n) seg :=
  ⟨fun hnil => (List.take_eq_nil_iff.1 hnil).elim (Nat.ne_of_gt hn) h, List.take_prefix n seg⟩

theorem not_mem_of_cuts {cuts segs : List (List Char)} (h : List.Forall₂ IsCut cuts segs)
    (hdots : ∀ seg ∈ segs, '.' ∉ seg) : ∀ cut ∈ cuts, '.' ∉ cut := by
  induction h with
  | nil => intro cut hcut; cases hcut
  | @cons cut seg cuts segs hcut _ ih =>
    obtain ⟨hseg, hsegs⟩ := List.forall_mem_cons.1 hdots
    exact List.forall_mem_cons.2 ⟨fun hdot => hseg (hcut.2.subset hdot), ih hsegs⟩

section
variable {length : Int} {name : String} {segs : List (List Char)}

theorem cuts_letters (h : ∀ seg ∈ segs, seg ≠ []) :
    List.Forall₂ IsCut (segs.map (·.take 1)) segs :=
  List.forall₂_map_left_iff.2
    (List.forall₂_same.2 fun seg hseg => isCut_take (h seg hseg) Nat.one_pos)

theorem cuts_abbreviate (h : ∀ seg ∈ segs, seg ≠ []) (whole : Nat) :
    List.Forall₂ IsCut (abbreviate whole segs) segs := by
  have hfront := cuts_letters fun seg hseg =>
    h seg (List.mem_of_mem_take (i := segs.length - whole) hseg)
  have hback : List.Forall₂ IsCut (segs.drop (segs.length - whole))
      (segs.drop (segs.length - whole)) :=
    List.forall₂_same.2 fun seg hseg => isCut_self (h seg (List.mem_of_mem_drop hseg))
  have happend : List.Forall₂ IsCut (abbreviate whole segs)
      (segs.take (segs.length - whole) ++ segs.drop (segs.length - whole)) :=
    List.rel_append hfront hback
  rwa [List.take_append_drop] at happend

theorem cuts_fillLast (h : ∀ seg ∈ segs, seg ≠ []) (hne : segs ≠ [])
    (hroom : 2 * (segs.length : Int) - 1 < length) :
    List.Forall₂ IsCut (fillLast length segs) segs := by
  obtain ⟨front, last, rfl⟩ := (List.eq_nil_or_concat' segs).resolve_left hne
  obtain ⟨hfront, hlast⟩ := List.forall_mem_append.1 h
  have hcut := isCut_take (hlast last (.head _))
    (n := (length - (2 * (front ++ [last]).length - 1) + 1).toNat) (by omega)
  have happend : List.Forall₂ IsCut (fillLast length (front ++ [last])) (front ++ [last]) := by
    rw [fillLast, List.dropLast_concat, List.getLastD_concat]
    exact List.rel_append (cuts_letters hfront) (.cons hcut .nil)
  exact happend

/-- What the last segment fills is the room that there is. -/
theorem length_fillLast (h : ∀ seg ∈ segs, seg ≠ []) (hne : segs ≠ [])
    (hroom : 2 * (segs.length : Int) - 1 < length) (hlong : length < lengthWith 1 segs) :
    ((joinWith '.' (fillLast length segs)).length : Int) = length := by
  have hcount := (cuts_fillLast h hne hroom).length_eq
  have hcut : fillLast length segs ≠ [] := by simp [fillLast]
  obtain ⟨front, last, rfl⟩ := (List.eq_nil_or_concat' segs).resolve_left hne
  obtain ⟨hfront, -⟩ := List.forall_mem_append.1 h
  rw [lengthWith_eq, List.reverse_append, List.reverse_singleton, List.singleton_append,
    List.take_succ_cons, List.take_zero, surplus_cons, surplus_nil] at hlong
  rw [length_joinWith_dots hcut, hcount, fillLast, List.dropLast_concat, List.getLastD_concat,
    surplus_append, surplus_letters hfront, surplus_cons, surplus_nil, List.length_take]
  omega

/-- The segments of a name that is made of cut segments. -/
theorem nameSegments_of_cuts {cuts : List (List Char)}
    (h : List.Forall₂ IsCut cuts (nameSegments name)) :
    nameSegments (String.ofList (joinWith '.' cuts)) = cuts := by
  refine nameSegments_ofList_joinWith
    (not_mem_of_cuts h fun seg hseg => not_mem_of_mem_splitAtChar hseg) fun hnil => ?_
  rw [hnil] at h
  cases hsegs : nameSegments name with
  | nil => exact nameSegments_ne_nil name hsegs
  | cons seg rest =>
    rw [hsegs] at h
    cases h

/-- The loop leaves the abbreviated name, unless there is room for a part of the last segment. -/
theorem compress?_eq_abbreviate (hlong : length < name.length)
    (hne : ∀ seg ∈ nameSegments name, seg ≠ [])
    (hroom : fitting length (nameSegments name) = 0 → length ≤ 2 * (nameSegments name).length - 1) :
    compress? name length = some (String.ofList (joinWith '.'
      (abbreviate (fitting length (nameSegments name)) (nameSegments name)))) := by
  have hletters : [] ∉ (nameSegments name).reverse.drop (fitting length (nameSegments name)) :=
    fun hmem => hne [] (List.mem_reverse.1 (List.mem_of_mem_drop hmem)) rfl
  rw [compress?_eq_map hlong, keepWhole_true hroom, keepWhole_false]
  rw [← fitting, initials_eq_some hletters, Option.map_some, Option.map_some,
    ← reverse_abbreviate, List.reverse_reverse]

/-- If there is room for a part of the last segment but not for all of it, it fills the room. -/
theorem compress?_eq_fillLast (hlong : length < name.length)
    (hne : ∀ seg ∈ nameSegments name, seg ≠ []) (hnone : fitting length (nameSegments name) = 0)
    (hroom : 2 * ((nameSegments name).length : Int) - 1 < length) :
    compress? name length =
      some (String.ofList (joinWith '.' (fillLast length (nameSegments name)))) := by
  obtain ⟨front, last, hsegs⟩ :=
    (List.eq_nil_or_concat' (nameSegments name)).resolve_left (nameSegments_ne_nil name)
  have hreverse : (nameSegments name).reverse = last :: front.reverse := by simp [hsegs]
  have hletters : [] ∉ last :: front.reverse := fun hmem =>
    hne [] (List.mem_reverse.1 (hreverse ▸ hmem)) rfl
  rw [fitting, hreverse] at hnone
  rw [compress?_eq_map hlong, hreverse, keepWhole_cut hnone hroom, initials_eq_some hletters]
  simp [fillLast, hsegs]

/-- With more whole segments than those that fit, a name is too long. -/
theorem lt_length_abbreviate (hlong : length < name.length)
    (hne : ∀ seg ∈ nameSegments name, seg ≠ []) {more : Nat}
    (hmore : fitting length (nameSegments name) < more) :
    length < (joinWith '.' (abbreviate more (nameSegments name))).length := by
  have hstop := lt_lengthWith_of_fitting_lt (fitting_lt hlong)
  have hmono := lengthWith_mono hne (Nat.succ_le_of_lt hmore)
  rw [length_joinWith_abbreviate hne (nameSegments_ne_nil name)]
  exact Int.lt_of_lt_of_le hstop hmono

theorem abbreviates_abbreviate (hlong : length < name.length)
    (hne : ∀ seg ∈ nameSegments name, seg ≠ [])
    (hroom : fitting length (nameSegments name) = 0 → length ≤ 2 * (nameSegments name).length - 1) :
    Abbreviates length (nameSegments name) (fitting length (nameSegments name))
      (String.ofList (joinWith '.'
        (abbreviate (fitting length (nameSegments name)) (nameSegments name)))) where
  whole_lt := fitting_lt hlong
  cuts := by
    rw [nameSegments_of_cuts (cuts_abbreviate hne _)]
    exact cuts_abbreviate hne _
  bounded := by
    rw [String.length_ofList, length_joinWith_abbreviate hne (nameSegments_ne_nil name)]
    rcases Nat.eq_zero_or_pos (fitting length (nameSegments name)) with hnone | hpos
    · rw [hnone, lengthWith_zero]
      exact Int.le_max_right _ _
    · exact Int.le_trans (lengthWith_le_of_le_fitting hpos (Nat.le_refl _)) (Int.le_max_left _ _)
  letters _ := nameSegments_of_cuts (cuts_abbreviate hne _)
  filled hnone hlt := absurd hlt (Int.not_lt.2 (hroom hnone))
  maximal _ hmore _ := lt_length_abbreviate hlong hne hmore

theorem abbreviates_fillLast (hlong : length < name.length)
    (hne : ∀ seg ∈ nameSegments name, seg ≠ []) (hnone : fitting length (nameSegments name) = 0)
    (hroom : 2 * ((nameSegments name).length : Int) - 1 < length) :
    Abbreviates length (nameSegments name) 0
      (String.ofList (joinWith '.' (fillLast length (nameSegments name)))) := by
  have hlt := fitting_lt hlong
  have hstop := lt_lengthWith_of_fitting_lt hlt
  rw [hnone] at hlt hstop
  have hcuts := cuts_fillLast hne (nameSegments_ne_nil name) hroom
  have hlength := length_fillLast hne (nameSegments_ne_nil name) hroom hstop
  exact {
    whole_lt := hlt
    cuts := by rwa [nameSegments_of_cuts hcuts]
    bounded := by
      rw [String.length_ofList, hlength]
      exact Int.le_max_left _ _
    letters := fun hnot => absurd ⟨rfl, hroom⟩ hnot
    filled := fun _ _ => by
      rw [nameSegments_of_cuts hcuts, String.length_ofList, fillLast, List.dropLast_concat]
      exact ⟨rfl, hlength⟩
    maximal := fun more hmore _ => lt_length_abbreviate hlong hne (by rwa [hnone]) }

/-- A name without empty segments is kept if it fits. Otherwise it is abbreviated: as many of its
last segments are whole as fit, and the length is bounded by the limit or by that of one letter for
every segment. -/
theorem compress_abbreviates (name : String) (length : Int)
    (hne : ∀ seg ∈ nameSegments name, seg ≠ []) :
    ∃ short, compress? name length = some short ∧
      ((name.length : Int) ≤ length → short = name) ∧
      (length < name.length → ∃ whole, Abbreviates length (nameSegments name) whole short) := by
  by_cases hlong : length < name.length
  · have hnot : ¬ (name.length : Int) ≤ length := Int.not_le.2 hlong
    by_cases hroom : fitting length (nameSegments name) = 0 ∧
        2 * ((nameSegments name).length : Int) - 1 < length
    · obtain ⟨hnone, hlt⟩ := hroom
      exact ⟨_, compress?_eq_fillLast hlong hne hnone hlt, fun h => absurd h hnot,
        fun _ => ⟨0, abbreviates_fillLast hlong hne hnone hlt⟩⟩
    · have hle : fitting length (nameSegments name) = 0 →
          length ≤ 2 * (nameSegments name).length - 1 := fun hnone =>
        Int.not_lt.1 fun hlt => hroom ⟨hnone, hlt⟩
      exact ⟨_, compress?_eq_abbreviate hlong hne hle, fun h => absurd h hnot,
        fun _ => ⟨_, abbreviates_abbreviate hlong hne hle⟩⟩
  · exact ⟨name, compress?_of_le (Int.not_lt.1 hlong), fun _ => rfl, fun h => absurd h hlong⟩

/-- In nine characters, there is room for three letters of the last of four segments. -/
theorem compress_abbreviates_tagging :
    (∀ seg ∈ nameSegments "rds_cfn.services.rds.tagging", seg ≠ []) ∧
      ∃ short, compress? "rds_cfn.services.rds.tagging" 9 = some short ∧
        ∃ whole, Abbreviates 9 (nameSegments "rds_cfn.services.rds.tagging") whole short := by
  have hne : ∀ seg ∈ nameSegments "rds_cfn.services.rds.tagging", seg ≠ [] := by decide
  obtain ⟨short, hshort, -, hcut⟩ := compress_abbreviates "rds_cfn.services.rds.tagging" 9 hne
  exact ⟨hne, short, hshort, hcut (by decide)⟩

example : compress? "rds_cfn.services.rds.tagging" 9 = some "r.s.r.tag" := by decide

end

end Provisioning.Logging
