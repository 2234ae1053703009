import Mathlib.Data.List.Chain
import Mathlib.Data.List.DropRight
import Provisioning.Proofs.Reading
import Provisioning.ResourceName

/-!
# The form of resource names

A resource name made of any text is `Hyphenated`: lower-case ASCII letters and digits in groups,
with one hyphen between a group and the next (`hyphenated_resourceNameChars`). Cutting a hyphenated
text at any place and dropping the hyphens at the cut leaves it hyphenated
(`hyphenated_trimEndBy`), so the only thing a generated name owes to its factory is that its stem is
not cut down to nothing and starts with a letter: the first by the length of names, the second by
the name of the stack that the factory falls back to (`startsWithLetter_withLetter`).
-/

set_option autoImplicit false

namespace Provisioning

/-! ## Hyphenated texts -/

/-- Groups of lower-case ASCII letters and digits with single hyphens between them, or nothing. -/
structure Hyphenated (cs : List Char) : Prop where
  chars : ∀ c ∈ cs, isNameChar c ∨ c = '-'
  single : cs.IsChain fun a b => ¬(a = '-' ∧ b = '-')
  head : cs.head? ≠ some '-'
  last : cs.getLast? ≠ some '-'

/-- A text starts with a lower-case ASCII letter. -/
def StartsWithLetter (cs : List Char) : Prop := ∃ c ∈ cs.head?, 'a' ≤ c ∧ c ≤ 'z'

theorem nameChar_spec (c : Char) : isNameChar (nameChar c) ∨ nameChar c = '-' := by
  unfold nameChar
  split
  · exact .inl ‹_›
  · exact .inr rfl

theorem letter_ne_hyphen {c : Char} (hc : 'a' ≤ c ∧ c ≤ 'z') : c ≠ '-' := by
  rintro rfl
  exact absurd hc (by decide)

theorem nameChar_letter {c : Char} (hc : 'a' ≤ c ∧ c ≤ 'z') : nameChar c = c := by
  simp [nameChar, isNameChar, hc.1, hc.2]

/-! ## Collapsing hyphens -/

theorem mem_of_mem_collapseHyphens {c : Char} {cs : List Char} (h : c ∈ collapseHyphens cs) :
    c ∈ cs := by
  induction cs with
  | nil => exact h
  | cons d cs ih =>
    rw [collapseHyphens] at h
    split at h
    · exact .tail _ (ih h)
    · rcases List.mem_cons.1 h with rfl | h
      · exact .head _
      · exact .tail _ (ih h)

theorem head?_collapseHyphens (cs : List Char) : (collapseHyphens cs).head? = cs.head? := by
  induction cs with
  | nil => rfl
  | cons c cs ih =>
    rw [collapseHyphens]
    split
    case isTrue hrun => rw [ih, hrun.2, hrun.1, List.head?_cons]
    case isFalse => rfl

theorem isChain_collapseHyphens (cs : List Char) :
    (collapseHyphens cs).IsChain fun a b => ¬(a = '-' ∧ b = '-') := by
  induction cs with
  | nil => exact .nil
  | cons c cs ih =>
    rw [collapseHyphens]
    split
    case isTrue => exact ih
    case isFalse hrun =>
      refine List.isChain_cons.2 ⟨fun b hb hboth => hrun ⟨hboth.1, ?_⟩, ih⟩
      rw [head?_collapseHyphens] at hb
      rw [Option.mem_def.1 hb, hboth.2]

/-! ## Dropping the hyphens at the ends -/

theorem isPrefix_trimEndBy (p : Char → Bool) (cs : List Char) : Text.trimEndBy p cs <+: cs :=
  List.rdropWhile_prefix p cs

theorem getLast?_trimEndBy (cs : List Char) :
    (Text.trimEndBy (· == '-') cs).getLast? ≠ some '-' := by
  intro h
  have hne : cs.rdropWhile (· == '-') ≠ [] := by
    intro hnil
    rw [Text.trimEndBy, ← List.rdropWhile, hnil] at h
    cases h
  have hlast := List.rdropWhile_last_not (· == '-') cs hne
  exact hlast (beq_iff_eq.2 (Option.some.inj ((List.getLast?_eq_some_getLast hne).symm.trans h)))

/-- A first character that is no hyphen is not dropped from the end. -/
theorem head?_trimEndBy {cs : List Char} (h : cs.head? ≠ some '-') :
    (Text.trimEndBy (· == '-') cs).head? = cs.head? := by
  cases cs with
  | nil => rfl
  | cons c cs =>
    have hc : (c == '-') = false := beq_false_of_ne fun he => h (congrArg some he)
    have hne : (c :: cs).rdropWhile (· == '-') ≠ [] := fun hnil => by
      have hall := List.rdropWhile_eq_nil_iff.1 hnil c (.head _)
      rw [hc] at hall
      cases hall
    obtain ⟨d, rest, hcons⟩ := List.exists_cons_of_ne_nil hne
    obtain ⟨dropped, happ⟩ := List.rdropWhile_prefix (· == '-') (c :: cs)
    rw [hcons, List.cons_append] at happ
    rw [Text.trimEndBy, ← List.rdropWhile, hcons, ← happ]
    rfl

/-- A piece of a text with single hyphens is hyphenated once the hyphens at its end are dropped. -/
theorem hyphenated_trimEndBy {cs : List Char} (hchars : ∀ c ∈ cs, isNameChar c ∨ c = '-')
    (hsingle : cs.IsChain fun a b => ¬(a = '-' ∧ b = '-')) (hhead : cs.head? ≠ some '-') :
    Hyphenated (Text.trimEndBy (· == '-') cs) where
  chars c hc := hchars c ((isPrefix_trimEndBy _ cs).subset hc)
  single := hsingle.prefix (isPrefix_trimEndBy _ cs)
  head := by rwa [head?_trimEndBy hhead]
  last := getLast?_trimEndBy cs

/-- The resource name made of any text is hyphenated. -/
theorem hyphenated_resourceNameChars (cs : List Char) : Hyphenated (resourceNameChars cs) := by
  unfold resourceNameChars Text.trimBy
  have hsuffix := List.dropWhile_suffix (l := collapseHyphens ((cs.flatMap Text.lowerChar).map
    nameChar)) (· == '-')
  refine hyphenated_trimEndBy (fun c hc => ?_) ((isChain_collapseHyphens _).suffix hsuffix)
    fun hhead => ?_
  · obtain ⟨d, -, rfl⟩ := List.mem_map.1 (mem_of_mem_collapseHyphens (hsuffix.subset hc))
    exact nameChar_spec d
  · have hnot := List.head?_dropWhile_not (· == '-')
      (collapseHyphens ((cs.flatMap Text.lowerChar).map nameChar))
    rw [hhead] at hnot
    cases hnot

/-! ## The first character -/

theorem toNat_lt_of_isAlpha {c : Char} (hc : c.isAlpha) : c.toNat < 128 := by
  have hbound : c.val ≤ 'Z'.val ∨ c.val ≤ 'z'.val := by
    rcases Bool.or_eq_true_iff.1 hc with hupper | hlower
    · have h : decide (c.val ≥ 'A'.val ∧ c.val ≤ 'Z'.val) = true := hupper
      exact .inl (of_decide_eq_true h).2
    · have h : (decide (c.val ≥ 'a'.val) && decide (c.val ≤ 'z'.val)) = true := hlower
      exact .inr (of_decide_eq_true (Bool.and_eq_true_iff.1 h).2)
  rcases hbound with h | h
  · exact Nat.lt_of_le_of_lt (UInt32.le_iff_toNat_le.1 h) (by decide)
  · exact Nat.lt_of_le_of_lt (UInt32.le_iff_toNat_le.1 h) (by decide)

/-- The lower case of an ASCII letter is one lower-case ASCII letter. -/
theorem lowerChar_of_isAlpha {c : Char} (hc : c.isAlpha) :
    ∃ d, Text.lowerChar c = [d] ∧ 'a' ≤ d ∧ d ≤ 'z' := by
  have hall : ∀ n < 128, (Char.ofNat n).isAlpha →
      Text.lowerChar (Char.ofNat n) = [(Char.ofNat n).toLower] ∧
        'a' ≤ (Char.ofNat n).toLower ∧ (Char.ofNat n).toLower ≤ 'z' := by decide
  have h := hall c.toNat (toNat_lt_of_isAlpha hc)
  rw [Char.ofNat_toNat] at h
  exact ⟨_, h hc⟩

/-- A resource name starts with a letter if its text starts with an ASCII letter. -/
theorem startsWithLetter_resourceNameChars {cs : List Char} (h : ∃ c ∈ cs.head?, c.isAlpha) :
    StartsWithLetter (resourceNameChars cs) := by
  obtain ⟨c, hhead, hc⟩ := h
  obtain ⟨rest, rfl⟩ := List.head?_eq_some_iff.1 hhead
  obtain ⟨d, hlower, hd⟩ := lowerChar_of_isAlpha hc
  have hfirst : (collapseHyphens (((c :: rest).flatMap Text.lowerChar).map nameChar)).head? =
      some d := by
    rw [head?_collapseHyphens, List.flatMap_cons, hlower]
    exact congrArg some (nameChar_letter hd)
  obtain ⟨tail, htail⟩ := List.head?_eq_some_iff.1 hfirst
  have hnot : (d == '-') = false := beq_false_of_ne (letter_ne_hyphen hd)
  have hkept : (d :: tail).dropWhile (· == '-') = d :: tail :=
    List.dropWhile_cons_of_neg (by simp [hnot])
  refine ⟨d, ?_, hd⟩
  rw [resourceNameChars, Text.trimBy, htail, hkept, head?_trimEndBy]
  · rfl
  · exact fun he => letter_ne_hyphen hd (Option.some.inj he)

/-! ## Generated names -/

namespace IdentifierFactory

variable {f : IdentifierFactory}

theorem startsWithLetter_withLetter (h : ∃ c ∈ f.stackName.toList.head?, c.isAlpha)
    (stem : List Char) : StartsWithLetter (f.withLetter stem) := by
  have hextended : StartsWithLetter (withLetter.extended f stem) := by
    obtain ⟨c, hhead, hc⟩ := h
    refine startsWithLetter_resourceNameChars ⟨c, ?_, hc⟩
    obtain ⟨rest, hrest⟩ := List.head?_eq_some_iff.1 hhead
    rw [hrest]
    rfl
  cases stem with
  | nil => exact hextended
  | cons c stem =>
    rw [withLetter]
    split
    case isTrue hletter => exact ⟨c, rfl, hletter⟩
    case isFalse => exact hextended

theorem hyphenated_withLetter {stem : List Char} (h : Hyphenated stem) :
    Hyphenated (f.withLetter stem) := by
  cases stem with
  | nil => exact hyphenated_resourceNameChars _
  | cons c stem =>
    rw [withLetter]
    split
    case isTrue => exact h
    case isFalse => exact hyphenated_resourceNameChars _

/-- The cut leaves at least one character of a stem. -/
theorem exists_take_eq (hlength : 10 ≤ f.maxLength) (stem : List Char) :
    ∃ n : Nat, f.cut stem = Text.trimEndBy (· == '-') (stem.take (n + 1)) ∧
      (n : Int) + 10 = f.maxLength := by
  obtain ⟨n, hn⟩ := Int.eq_ofNat_of_zero_le (Int.sub_nonneg_of_le hlength)
  have hroom : f.maxLength - Text.shortUidLength - 1 = ((n + 1 : Nat) : Int) := by
    rw [Text.shortUidLength]
    omega
  refine ⟨n, ?_, by omega⟩
  rw [cut, hroom, takeChars, if_neg (by omega)]
  rfl

variable {stem : List Char}

theorem startsWithLetter_cut (hlength : 10 ≤ f.maxLength) (h : StartsWithLetter stem) :
    StartsWithLetter (f.cut stem) := by
  obtain ⟨n, hcut, -⟩ := exists_take_eq hlength stem
  obtain ⟨c, hhead, hc⟩ := h
  have hfirst : (stem.take (n + 1)).head? = some c := by
    obtain ⟨rest, rfl⟩ := List.head?_eq_some_iff.1 hhead
    rfl
  refine ⟨c, ?_, hc⟩
  rw [hcut, head?_trimEndBy, hfirst]
  · rfl
  · rw [hfirst]
    exact fun he => letter_ne_hyphen hc (Option.some.inj he)

theorem hyphenated_cut (hlength : 10 ≤ f.maxLength) (h : Hyphenated stem) :
    Hyphenated (f.cut stem) := by
  obtain ⟨n, hcut, -⟩ := exists_take_eq hlength stem
  rw [hcut]
  refine hyphenated_trimEndBy (fun c hc => h.chars c (List.mem_of_mem_take hc))
    (h.single.take _) fun hhead => h.head ?_
  rwa [List.head?_take, if_neg (Nat.succ_ne_zero n)] at hhead

/-- Behind the cut there is room for a hyphen and a suffix. -/
theorem length_cut_le (hlength : 10 ≤ f.maxLength) (stem : List Char) :
    ((f.cut stem).length : Int) + 9 ≤ f.maxLength := by
  obtain ⟨n, hcut, hmax⟩ := exists_take_eq hlength stem
  have hle : (f.cut stem).length ≤ n + 1 := by
    rw [hcut]
    exact (isPrefix_trimEndBy _ _).length_le.trans (List.length_take_le _ _)
  omega

end IdentifierFactory

/-! ## Suffixes -/

namespace Text

theorem isHexDigit_hexDigit {n : Nat} (h : n < 16) : isHexDigit (hexDigit n) := by
  have hall : ∀ n < 16, isHexDigit (hexDigit n) := by decide
  exact hall n h

theorem length_hexDigits (width n : Nat) : (hexDigits width n).length = width := by
  induction width generalizing n with
  | zero => rfl
  | succ width ih => rw [hexDigits, List.length_append, ih, List.length_singleton]

theorem isHexDigit_of_mem_hexDigits {c : Char} {width n : Nat} (h : c ∈ hexDigits width n) :
    isHexDigit c := by
  induction width generalizing n with
  | zero => cases h
  | succ width ih =>
    rcases List.mem_append.1 h with h | h
    · exact ih h
    · rw [List.mem_singleton.1 h]
      exact isHexDigit_hexDigit (Nat.mod_lt _ (by decide))

theorem length_hex (s : Sha1.State) : s.hex.length = 40 := by
  simp [Sha1.State.hex, length_hexDigits]

/-- A short identifier has as many characters as it is said to have. -/
theorem length_shortUid (seed : String) : (shortUid seed).toList.length = shortUidLength := by
  rw [shortUid, String.toList_ofList, List.length_take, length_hex]
  rfl

/-- A short identifier is made of hexadecimal digits in lower case. -/
theorem isHexDigit_of_mem_shortUid {c : Char} {seed : String} (h : c ∈ (shortUid seed).toList) :
    isHexDigit c := by
  rw [shortUid, String.toList_ofList] at h
  obtain ⟨w, -, hw⟩ := List.mem_flatMap.1 (List.mem_of_mem_take h)
  exact isHexDigit_of_mem_hexDigits hw

end Text

/-- A text without surrogates can be written in UTF-8. -/
theorem requireUtf8_eq_ok {text : String} (h : ∀ c ∈ text.toList, Text.surrogate? c = none) :
    requireUtf8 text = .ok () := by
  have hnone : text.toList.findIdx? (fun c => (Text.surrogate? c).isSome) = none :=
    List.findIdx?_eq_none_iff.2 fun c hc => by rw [h c hc]; rfl
  rw [requireUtf8, surrogateRun?, hnone]
  rfl

namespace IdentifierFactory

/-- Every stack identifier, logical identifier and token that can be encoded gives a name: of the
name of some stack, of some logical identifier and of the token. -/
theorem exists_name_newIdentifierFor (f : IdentifierFactory) (stackId : Option String)
    (logicalId : Value) {token : String} (h : ∀ c ∈ token.toList, Text.surrogate? c = none) :
    ∃ stack logical, f.newIdentifierFor ((stackId.map .text).getD .null) logicalId (.text token) =
      .ok (f.name stack logical token) := by
  have hseed : seedOf (.text token) = .ok token := by
    rw [seedOf, requireUtf8_eq_ok h]
    rfl
  cases stackId with
  | none => exact ⟨_, _, bind_eq_ok.2 ⟨_, rfl, bind_eq_ok.2 ⟨_, hseed, rfl⟩⟩⟩
  | some s => exact ⟨_, _, bind_eq_ok.2 ⟨_, rfl, bind_eq_ok.2 ⟨_, hseed, rfl⟩⟩⟩

/-- A name in the form that is generated for a token: a hyphenated stem that starts with a letter, a
hyphen, and eight hexadecimal digits that depend on the token alone. -/
structure Generates (f : IdentifierFactory) (token name : String) : Prop where
  form : ∃ stem, name.toList = stem ++ '-' :: (Text.shortUid token).toList ∧
    StartsWithLetter stem ∧ Hyphenated stem
  suffix : (Text.shortUid token).toList.length = 8 ∧
    ∀ digit ∈ (Text.shortUid token).toList, Text.isHexDigit digit
  length : (name.toList.length : Int) ≤ f.maxLength

theorem generates_name {f : IdentifierFactory}
    (hstack : ∃ c ∈ f.stackName.toList.head?, c.isAlpha) (hlength : 10 ≤ f.maxLength)
    (stack logical token : String) :
    f.Generates token (f.name stack logical token) where
  form := ⟨_, String.toList_ofList,
    startsWithLetter_cut hlength (startsWithLetter_withLetter hstack _),
    hyphenated_cut hlength (hyphenated_withLetter (hyphenated_resourceNameChars _))⟩
  suffix := ⟨Text.length_shortUid token, fun _ => Text.isHexDigit_of_mem_shortUid⟩
  length := by
    have hroom := f.length_cut_le hlength
      (f.withLetter (resourceNameChars (stack.toList ++ '-' :: logical.toList)))
    have hsuffix : (Text.shortUid token).toList.length = 8 := Text.length_shortUid token
    rw [name, String.toList_ofList, List.length_append, List.length_cons, hsuffix]
    omega

/-- A factory whose stack name starts with an ASCII letter gives a valid name for every stack
identifier, logical identifier and token that can be encoded, if its names may have ten
characters. -/
theorem newIdentifierFor_generates (f : IdentifierFactory) (stackId : Option String)
    (logicalId : Value) (token : String)
    (hstack : ∃ c ∈ f.stackName.toList.head?, c.isAlpha) (hlength : 10 ≤ f.maxLength)
    (htoken : ∀ c ∈ token.toList, Text.surrogate? c = none) :
    ∃ name,
      f.newIdentifierFor ((stackId.map .text).getD .null) logicalId (.text token) = .ok name ∧
        f.Generates token name := by
  obtain ⟨stack, logical, hname⟩ := f.exists_name_newIdentifierFor stackId logicalId htoken
  exact ⟨_, hname, generates_name hstack hlength stack logical token⟩

/-- A stack whose name starts with a digit, a logical identifier of symbols, and a length that cuts
the name right behind a hyphen. -/
theorem newIdentifierFor_generates_behind_hyphen :
    let f : IdentifierFactory := ⟨"Stack", "integration", 15⟩
    ∃ name, f.newIdentifierFor (.text "arn:aws:cloudformation:eu-west-1:1:stack/9-lives/id")
        (.text "__") (.text "token") = .ok name ∧
      f.Generates "token" name :=
  newIdentifierFor_generates ⟨"Stack", "integration", 15⟩
    (some "arn:aws:cloudformation:eu-west-1:1:stack/9-lives/id") (.text "__") "token"
    ⟨'S', by decide, by decide⟩ (by decide) (by simp [Text.surrogate?])

end IdentifierFactory

end Provisioning
