import Provisioning.Proofs.Number

/-!
# Values of numbers, and how far rounding may go below them

A finite number has a value (`Number.toRat?`). The order of numbers is that of their values, and the
integer part of a number that is not negative is its value rounded down
(`Number.whole_eq_floor`).

A difference of floating-point numbers is rounded to 53 significant bits. It may be less than the
exact difference, but it is not less than an integer of up to 53 bits that the exact one has reached
(`Binary64.atLeast_sub`).
-/

set_option autoImplicit false

namespace Provisioning

/-! ## Values -/

namespace Number

variable {a b n : Number} {p q : Rat}

/-- The value of a finite number. -/
def toRat? (n : Number) : Option Rat :=
  match n.extent? with
  | some (.exact x) => some x.toRat
  | _ => none

theorem toRat?_eq_some : n.toRat? = some q ↔ ∃ x, n.extent? = some (.exact x) ∧ x.toRat = q := by
  unfold toRat?
  split
  · rename_i x hx
    simp [hx]
  · rename_i hne
    exact ⟨nofun, fun ⟨x, hx, _⟩ => absurd hx (hne x)⟩

theorem toRat?_int (n : Int) : (Number.int n).toRat? = some (n : Rat) :=
  congrArg some (Dyadic.toRat_intCast n)

/-- The order of finite numbers is that of their values. -/
theorem lt_eq_decide (ha : a.toRat? = some p) (hb : b.toRat? = some q) :
    a.lt b = decide (p < q) := by
  obtain ⟨x, hx, rfl⟩ := toRat?_eq_some.1 ha
  obtain ⟨y, hy, rfl⟩ := toRat?_eq_some.1 hb
  simp only [lt, hx, hy, Extent.lt, Dyadic.toRat_lt_toRat_iff]

/-- A number is infinite, or its value is at least the given one. -/
def AtLeast (q : Rat) (n : Number) : Prop :=
  n.extent? = some .above ∨ ∃ p, n.toRat? = some p ∧ q ≤ p

/-- What is at least a value is greater than a number of less value. -/
theorem AtLeast.lt (hn : n.AtLeast q) (ha : a.toRat? = some p) (hlt : p < q) :
    a.lt n = true := by
  rcases hn with hn | ⟨r, hr, hle⟩
  · obtain ⟨x, hx, -⟩ := toRat?_eq_some.1 ha
    simp only [Number.lt, hx, hn, Extent.lt]
  · rw [lt_eq_decide ha hr, decide_eq_true (Std.lt_of_lt_of_le hlt hle)]

/-- What is at least a value is not less than a number of this value. -/
theorem AtLeast.lt_eq_false (hn : n.AtLeast q) (ha : a.toRat? = some p) (hle : p ≤ q) :
    n.lt a = false := by
  rcases hn with hn | ⟨r, hr, hle'⟩
  · obtain ⟨x, hx, -⟩ := toRat?_eq_some.1 ha
    simp only [Number.lt, hx, hn, Extent.lt]
  · rw [lt_eq_decide hr ha, decide_eq_false (Rat.not_lt.2 (Std.le_trans hle hle'))]

end Number

/-! ## Powers of two -/

theorem pow2_pos (n : Nat) : 0 < pow2 n := Nat.two_pow_pos n

theorem pow2_add (m n : Nat) : pow2 (m + n) = pow2 m * pow2 n := Nat.pow_add 2 m n

theorem lt_pow2_log2 (n : Nat) : n < pow2 (n.log2 + 1) := Nat.lt_log2_self

theorem pow2_log2_le {n : Nat} (h : n ≠ 0) : pow2 n.log2 ≤ n := Nat.log2_self_le h

/-! ## Integer parts -/

theorem toRat_ofIntWithPrec_natCast (n : Int) (k : Nat) :
    (Dyadic.ofIntWithPrec n k).toRat = n / pow2 k := by
  rw [Dyadic.toRat_ofIntWithPrec_eq_mul_two_pow, Rat.zpow_neg, Rat.zpow_natCast, Rat.div_def]
  exact congrArg (fun x : Rat => n * x⁻¹) (Rat.natCast_pow 2 k).symm

theorem toRat_ofIntWithPrec_neg (n : Int) (k : Nat) :
    (Dyadic.ofIntWithPrec n (-k)).toRat = n * pow2 k := by
  rw [Dyadic.toRat_ofIntWithPrec_eq_mul_two_pow, Int.neg_neg, Rat.zpow_natCast]
  exact congrArg (fun x : Rat => n * x) (Rat.natCast_pow 2 k).symm

theorem floor_div_natCast (n : Int) {d : Nat} (hd : 0 < d) :
    ((n : Rat) / (d : Rat)).floor = n / d := by
  have hpos : (0 : Rat) < (d : Rat) := Rat.natCast_lt_natCast.2 hd
  have hcast : ∀ m : Int, (m : Rat) * (d : Rat) = ((m * d : Int) : Rat) := fun m => by
    rw [Rat.intCast_mul, Rat.intCast_natCast]
  apply Int.le_antisymm
  · refine Int.lt_add_one_iff.1 (Rat.floor_lt_iff.2 ((Rat.div_lt_iff hpos).2 ?_))
    rw [hcast, Rat.intCast_lt_intCast]
    exact Int.lt_ediv_add_one_mul_self n (by omega)
  · refine Rat.le_floor_iff.2 (Rat.not_lt.1 fun hlt => ?_)
    rw [Rat.div_lt_iff hpos, hcast, Rat.intCast_lt_intCast] at hlt
    exact absurd (Int.ediv_mul_le n (by omega)) (Int.not_le.2 hlt)

theorem odd_nonneg {n k : Int} {hn : n % 2 = 1} (h : 0 ≤ (Dyadic.ofOdd n k hn).toRat) :
    0 ≤ n := by
  have hle : Dyadic.ble .zero (.ofOdd n k hn) = true := Dyadic.toRat_le_toRat_iff.1 h
  simpa [Dyadic.ble] using hle

/-- The integer part of a value that is not negative is the value rounded down. -/
theorem truncateValue_eq_floor {x : Dyadic} (h : 0 ≤ x.toRat) :
    Binary64.truncateValue x = x.toRat.floor := by
  cases x with
  | zero => rfl
  | ofOdd n k hn =>
    have hnonneg := odd_nonneg h
    unfold Binary64.truncateValue
    dsimp only
    rw [Dyadic.ofOdd_eq_ofIntWithPrec]
    rcases k with l | l
    · rw [Int.ofNat_eq_natCast, toRat_ofIntWithPrec_natCast,
        floor_div_natCast n (pow2_pos l), if_neg (Int.not_lt.2 (Int.natCast_nonneg l)),
        Int.tdiv_eq_ediv_of_nonneg hnonneg]
      rfl
    · rw [if_pos (Int.negSucc_lt_zero l), Int.negSucc_eq, ← Int.natCast_add_one,
        toRat_ofIntWithPrec_neg, ← Rat.intCast_natCast, ← Rat.intCast_mul, Rat.floor_intCast,
        Int.neg_neg, Int.toNat_natCast]

/-- The integer part of a number that is not negative is its value rounded down. -/
theorem Number.whole_eq_floor {n : Number} {q : Rat} (hn : n.toRat? = some q) (hq : 0 ≤ q) :
    n.whole = .ok q.floor := by
  cases n with
  | int m =>
    rw [toRat?_int] at hn
    cases hn
    rw [Rat.floor_intCast]
    rfl
  | float y =>
    obtain ⟨x, hx, rfl⟩ := toRat?_eq_some.1 hn
    cases y with
    | finite y =>
      cases hx
      exact congrArg Except.ok (truncateValue_eq_floor hq)
    | negativeZero =>
      cases hx
      rfl
    | infinite negative => cases negative <;> cases hx
    | undefined => cases hx

/-! ## Rounding -/

namespace Binary64

theorem div_le_roundDiv (num den : Nat) : num / den ≤ roundDiv num den := by
  unfold roundDiv
  dsimp only
  split
  · exact Nat.le_succ _
  · exact Nat.le_refl _

/-- A ratio whose last bit is above the unit has all significant bits down to its last one. -/
theorem le_of_lastBit_pos {num den : Nat} (hnum : num ≠ 0) (hpos : 0 < lastBit num den) :
    den * pow2 (lastBit num den).toNat * pow2 (precision - 1) ≤ num := by
  have hcases : (∃ k : Nat, lastBit num den = k ∧ num.log2 = den.log2 + precision + k) ∨
      ∃ k : Nat, lastBit num den = k ∧ den * pow2 k * pow2 (precision - 1) ≤ num := by
    generalize he : (num.log2 : Int) - den.log2 - (precision - 1) = e
    have hlast : lastBit num den = max minExponent
        (if (scaleDown num den e).1 < (scaleDown num den e).2 * pow2 (precision - 1) then e - 1
          else e) := by
      rw [← he]
      rfl
    unfold precision minExponent at *
    rw [hlast] at hpos ⊢
    by_cases hshort : (scaleDown num den e).1 < (scaleDown num den e).2 * pow2 (53 - 1)
    · rw [if_pos hshort] at hpos ⊢
      exact .inl ⟨(e - 1).toNat, by omega, by omega⟩
    · rw [if_neg hshort] at hpos ⊢
      refine .inr ⟨e.toNat, by omega, ?_⟩
      rw [scaleDown, if_neg (by omega)] at hshort
      exact Nat.not_lt.1 hshort
  rcases hcases with ⟨k, hk, hlog⟩ | ⟨k, hk, hle⟩
  · rw [hk, Int.toNat_natCast]
    calc den * pow2 k * pow2 (precision - 1)
        ≤ pow2 (den.log2 + 1) * pow2 k * pow2 (precision - 1) :=
          Nat.mul_le_mul_right _ (Nat.mul_le_mul_right _ (Nat.le_of_lt (lt_pow2_log2 den)))
      _ = pow2 num.log2 := by
          rw [← pow2_add, ← pow2_add, hlog]
          congr 1
          unfold precision
          omega
      _ ≤ num := pow2_log2_le hnum
  · rw [hk, Int.toNat_natCast]
    exact hle

/-- The significand of a ratio, for its last bit. -/
def significand (num den : Nat) : Nat :=
  roundDiv (scaleDown num den (lastBit num den)).1 (scaleDown num den (lastBit num den)).2

theorem ofRatio_eq {num den : Nat} (hnum : num ≠ 0) : ofRatio false num den =
    if significand num den = 0 then .finite 0
    else if 1024 < (Nat.log2 (significand num den) : Int) + 1 + lastBit num den then .infinite false
    else .finite (Dyadic.ofIntWithPrec (significand num den) (-lastBit num den)) := by
  unfold ofRatio significand
  rw [if_neg hnum]
  -- the pair is opened by name, so that no conversion has to evaluate the last bit
  extract_lets e
  split
  rename_i n d hs
  rw [show scaleDown num den (lastBit num den) = (n, d) from hs]
  rfl

/-- The significand of a ratio that has reached an integer: with the last bit at the unit or below
it, it has reached this integer too, and else it has all significant bits. -/
theorem le_significand {num den N : Nat} (hden : 0 < den) (hN : 0 < N) (h : N * den ≤ num) :
    ∃ k : Nat, lastBit num den = -k ∧ N * pow2 k ≤ significand num den ∨
      lastBit num den = k ∧ 1 ≤ k ∧ pow2 (precision - 1) ≤ significand num den := by
  have hnum : num ≠ 0 := fun hzero => by
    have := Nat.mul_pos hN hden
    omega
  have hle : ∀ {m n d : Nat}, 0 < d → m * d ≤ n → m ≤ roundDiv n d := fun hd hmul =>
    Nat.le_trans ((Nat.le_div_iff_mul_le hd).2 hmul) (div_le_roundDiv _ _)
  unfold significand
  rcases Int.lt_trichotomy (lastBit num den) 0 with hneg | hzero | hpos
  · refine ⟨(-lastBit num den).toNat, .inl ⟨by omega, ?_⟩⟩
    rw [scaleDown, if_pos hneg]
    refine hle hden ?_
    rw [Nat.mul_right_comm]
    exact Nat.mul_le_mul_right _ h
  · refine ⟨0, .inl ⟨by omega, ?_⟩⟩
    rw [scaleDown, if_neg (by omega), hzero, Int.toNat_zero, show pow2 0 = 1 from rfl, Nat.mul_one,
      Nat.mul_one]
    exact hle hden h
  · refine ⟨(lastBit num den).toNat, .inr ⟨by omega, by omega, ?_⟩⟩
    have hbits := le_of_lastBit_pos hnum hpos
    rw [scaleDown, if_neg (by omega)]
    refine hle (Nat.mul_pos hden (pow2_pos _)) ?_
    rw [Nat.mul_comm]
    exact hbits

/-- A ratio that has reached an integer of no more bits than there are significant ones is not
rounded below it. -/
theorem atLeast_ofRatio {num den N : Nat} (hden : 0 < den) (hN : 0 < N) (hmax : N ≤ pow2 precision)
    (h : N * den ≤ num) : (Number.float (ofRatio false num den)).AtLeast N := by
  have hnum : num ≠ 0 := fun hzero => by
    have := Nat.mul_pos hN hden
    omega
  obtain ⟨k, hk⟩ := le_significand hden hN h
  have hsignificand : significand num den ≠ 0 := by
    have := Nat.mul_pos hN (pow2_pos k)
    have := pow2_pos (precision - 1)
    omega
  rw [ofRatio_eq hnum, if_neg hsignificand]
  split
  · exact .inl rfl
  · refine .inr ⟨_, rfl, ?_⟩
    rcases hk with ⟨hk, hle⟩ | ⟨hk, hk1, hle⟩
    · rw [hk, Int.neg_neg, toRat_ofIntWithPrec_natCast]
      refine Rat.not_lt.1 fun hlt => ?_
      rw [Rat.div_lt_iff (Rat.natCast_lt_natCast.2 (pow2_pos k)), Rat.intCast_natCast,
        ← Rat.natCast_mul, Rat.natCast_lt_natCast] at hlt
      exact absurd hle (Nat.not_le.2 hlt)
    · rw [hk, toRat_ofIntWithPrec_neg, Rat.intCast_natCast, ← Rat.natCast_mul,
        Rat.natCast_le_natCast]
      calc N ≤ pow2 (precision - 1) * pow2 1 := hmax
        _ ≤ significand num den * pow2 k :=
          Nat.mul_le_mul hle (Nat.pow_le_pow_right (by decide) hk1)

/-- A value that has reached such an integer is not rounded below it. -/
theorem atLeast_round {z : Dyadic} {N : Nat} (hN : 0 < N) (hmax : N ≤ pow2 precision)
    (h : (N : Rat) ≤ z.toRat) : (Number.float (round z)).AtLeast N := by
  have hpos : (0 : Rat) < N := Rat.natCast_lt_natCast.2 hN
  have hnonneg : 0 ≤ z.toRat := Std.le_of_lt (Std.lt_of_lt_of_le hpos h)
  cases z with
  | zero => exact absurd h (Rat.not_le.2 hpos)
  | ofOdd n k hn =>
    obtain ⟨m, rfl⟩ := Int.eq_ofNat_of_zero_le (odd_nonneg hnonneg)
    rw [Dyadic.ofOdd_eq_ofIntWithPrec] at h
    unfold round
    dsimp only
    rw [decide_eq_false (Int.not_lt.2 (Int.natCast_nonneg m)), Int.natAbs_natCast]
    by_cases hk : k < 0
    · obtain ⟨l, hl⟩ := Int.eq_ofNat_of_zero_le (show 0 ≤ -k by omega)
      obtain rfl : k = -l := by omega
      rw [if_pos hk, Int.neg_neg, Int.toNat_natCast]
      rw [toRat_ofIntWithPrec_neg, Rat.intCast_natCast, ← Rat.natCast_mul,
        Rat.natCast_le_natCast] at h
      exact atLeast_ofRatio Nat.one_pos hN hmax (by omega)
    · obtain ⟨l, rfl⟩ := Int.eq_ofNat_of_zero_le (Int.not_lt.1 hk)
      rw [if_neg hk, Int.toNat_natCast]
      rw [toRat_ofIntWithPrec_natCast, ← Rat.not_lt,
        Rat.div_lt_iff (Rat.natCast_lt_natCast.2 (pow2_pos l)), Rat.intCast_natCast,
        ← Rat.natCast_mul, Rat.natCast_lt_natCast] at h
      exact atLeast_ofRatio (pow2_pos l) hN hmax (Nat.not_lt.1 h)

/-- A difference that has reached such an integer is not rounded below it. -/
theorem atLeast_sub {a b : Binary64} {p q : Rat} {N : Nat} (ha : (Number.float a).toRat? = some p)
    (hb : (Number.float b).toRat? = some q) (hN : 0 < N) (hmax : N ≤ pow2 precision)
    (h : (N : Rat) ≤ p - q) : (Number.float (a.sub b)).AtLeast N := by
  have hpos : (0 : Rat) < N := Rat.natCast_lt_natCast.2 hN
  have hzero : (0 : Dyadic).toRat = 0 := rfl
  obtain ⟨x, hx, rfl⟩ := Number.toRat?_eq_some.1 ha
  obtain ⟨y, hy, rfl⟩ := Number.toRat?_eq_some.1 hb
  cases a with
  | infinite negative => cases negative <;> cases hx
  | undefined => cases hx
  | finite a =>
    cases hx
    cases b with
    | infinite negative => cases negative <;> cases hy
    | undefined => cases hy
    | finite b =>
      cases hy
      exact atLeast_round hN hmax (by rwa [Dyadic.toRat_sub])
    | negativeZero =>
      cases hy
      refine .inr ⟨_, rfl, ?_⟩
      rwa [hzero, Rat.sub_eq_add_neg, Rat.neg_zero, Rat.add_zero] at h
  | negativeZero =>
    cases hx
    rw [hzero, Rat.sub_eq_add_neg, Rat.zero_add] at h
    cases b with
    | infinite negative => cases negative <;> cases hy
    | undefined => cases hy
    | finite b =>
      cases hy
      have hy : y ≠ 0 := by
        rintro rfl
        rw [hzero] at h
        exact Rat.not_le.2 hpos h
      rw [sub, if_neg hy]
      exact atLeast_round hN hmax (by rwa [Dyadic.toRat_neg])
    | negativeZero =>
      cases hy
      rw [hzero] at h
      exact absurd h (Rat.not_le.2 hpos)

end Binary64

end Provisioning
