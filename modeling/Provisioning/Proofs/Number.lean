import Provisioning.Value.Access

/-!
# Delays of at least one second

A number that is at least one is positive, and so is its integer part. The integer part of a number
from zero up to one is zero.
-/

set_option autoImplicit false

namespace Provisioning

theorem ofInt_le_ofInt {a b : Int} : Dyadic.ofInt a ≤ Dyadic.ofInt b ↔ a ≤ b := by
  have hcast : ∀ k : Int, (Dyadic.ofInt k).toRat = k := Dyadic.toRat_intCast
  rw [← Dyadic.toRat_le_toRat_iff, hcast, hcast, Rat.intCast_le_intCast]

theorem ofInt_lt_ofInt {a b : Int} : Dyadic.ofInt a < Dyadic.ofInt b ↔ a < b := by
  rw [← Std.not_le, ofInt_le_ofInt, Int.not_le]

theorem one_eq_ofOdd : Dyadic.ofInt 1 = .ofOdd 1 0 rfl := by decide

/-- The integer part of a value that is at least one is at least one. -/
theorem one_le_truncateValue {x : Dyadic} (h : Dyadic.ofInt 1 ≤ x) :
    1 ≤ Binary64.truncateValue x := by
  rw [one_eq_ofOdd] at h
  change Dyadic.ble _ _ = true at h
  cases x with
  | zero => simp [Dyadic.ble] at h
  | ofOdd n k hn =>
    unfold Binary64.truncateValue
    rcases k with l | l
    · have hle : (2 ^ l : Int) ≤ n := by simpa [Dyadic.ble, Int.shiftLeft_eq] using h
      have hpos : (0 : Int) < 2 ^ l := Int.pow_pos (by decide)
      have hpow : ((pow2 l : Nat) : Int) = 2 ^ l := by simp [pow2]
      simp only [Int.ofNat_eq_natCast, Int.toNat_natCast, hpow,
        Int.not_lt.2 (Int.natCast_nonneg l), if_false]
      rw [Int.tdiv_eq_ediv_of_nonneg (by omega)]
      exact Int.le_ediv_of_mul_le hpos (by omega)
    · have hle : 1 ≤ n * (2 ^ (l + 1) : Int) := by simpa [Dyadic.ble, Int.shiftLeft_eq] using h
      simpa [pow2, Int.neg_negSucc] using hle

theorem truncateValue_eq_zero {x : Dyadic} (h : Dyadic.ofInt 0 ≤ x) (hlt : ¬ Dyadic.ofInt 1 ≤ x) :
    Binary64.truncateValue x = 0 := by
  rw [one_eq_ofOdd] at hlt
  change Dyadic.ble .zero _ = true at h
  change ¬ Dyadic.ble _ _ = true at hlt
  cases x with
  | zero => rfl
  | ofOdd n k hn =>
    have hn : 0 ≤ n := by simpa [Dyadic.ble] using h
    unfold Binary64.truncateValue
    rcases k with l | l
    · have hlt : n < (2 ^ l : Int) := by simpa [Dyadic.ble, Int.shiftLeft_eq] using hlt
      have hpow : ((pow2 l : Nat) : Int) = 2 ^ l := by simp [pow2]
      simp only [Int.ofNat_eq_natCast, Int.toNat_natCast, hpow,
        Int.not_lt.2 (Int.natCast_nonneg l), if_false]
      rw [Int.tdiv_eq_ediv_of_nonneg hn]
      exact Int.ediv_eq_zero_of_lt hn hlt
    · have hlt : n * (2 ^ (l + 1) : Int) < 1 := by
        simpa [Dyadic.ble, Int.shiftLeft_eq] using hlt
      have hpos : (0 : Int) < 2 ^ (l + 1) := Int.pow_pos (by decide)
      have hnonneg : 0 ≤ n * (2 ^ (l + 1) : Int) := Int.mul_nonneg hn (Int.le_of_lt hpos)
      have hpow : n * ((pow2 (-Int.negSucc l).toNat : Nat) : Int) = n * 2 ^ (l + 1) := by
        simp [pow2, Int.neg_negSucc]
      simp only [Int.negSucc_lt_zero, if_true, hpow]
      omega

namespace Number

variable {n : Number}

theorem extent_of_one_le (h : (Number.int 1).le n = true) :
    n.extent? = some .above ∨ ∃ x, n.extent? = some (.exact x) ∧ Dyadic.ofInt 1 ≤ x := by
  unfold le at h
  cases hn : n.extent? with
  | none => rw [hn] at h; cases h
  | some y =>
    rw [hn] at h
    cases y with
    | below => simp [extent?, Extent.lt] at h
    | above => exact .inl rfl
    | exact x =>
      refine .inr ⟨x, rfl, ?_⟩
      simpa [extent?, Extent.lt] using h

theorem one_le_int {d : Int} (h : 1 ≤ d) : (Number.int 1).le (.int d) = true := by
  simpa [le, extent?, Extent.lt] using ofInt_le_ofInt.2 h

/-- A number that is at least one is positive. -/
theorem pos_of_one_le (h : (Number.int 1).le n = true) : (Number.int 0).lt n = true := by
  unfold lt
  rcases extent_of_one_le h with hn | ⟨x, hn, hx⟩ <;> rw [hn]
  · rfl
  · have hlt : Dyadic.ofInt 0 < x := Std.lt_of_lt_of_le (by decide) hx
    simpa [extent?, Extent.lt] using hlt

/-- The integer part of a number that is at least one is at least one. -/
theorem one_le_whole (h : (Number.int 1).le n = true) {d : Int} (hd : n.whole = .ok d) :
    1 ≤ d := by
  cases n with
  | int m =>
    cases hd
    rcases extent_of_one_le h with hn | ⟨x, hn, hx⟩ <;> cases hn
    exact ofInt_le_ofInt.1 hx
  | float y =>
    cases y with
    | finite x =>
      rcases extent_of_one_le h with hn | ⟨x', hn, hx⟩ <;> cases hn
      cases hd
      exact one_le_truncateValue hx
    | negativeZero => exact absurd h (by decide)
    | infinite negative => cases hd
    | undefined => cases hd

/-- The integer part of a number from zero up to one is zero. -/
theorem whole_eq_zero (h : (Number.int 0).le n = true) (hlt : (Number.int 1).le n = false) :
    n.whole = .ok 0 := by
  cases n with
  | int m =>
    have hm : 0 ≤ m := ofInt_le_ofInt.1 (by simpa [le, extent?, Extent.lt] using h)
    have hm' : ¬ 1 ≤ m := fun hle => by
      rw [one_le_int hle] at hlt
      cases hlt
    obtain rfl : m = 0 := by omega
    rfl
  | float y =>
    cases y with
    | finite x =>
      have hx : Dyadic.ofInt 0 ≤ x := by simpa [le, extent?, Extent.lt] using h
      have hx' : ¬ Dyadic.ofInt 1 ≤ x := by simpa [le, extent?, Extent.lt] using hlt
      exact congrArg Except.ok (truncateValue_eq_zero hx hx')
    | negativeZero => rfl
    | infinite negative => cases negative <;> simp [le, extent?, Extent.lt] at h hlt
    | undefined => cases h

end Number

/-- A delay of at least one second is positive. -/
theorem Value.isPositive_of_one_le {v : Value} {n : Number} (hv : v.number? = some n)
    (h : (Number.int 1).le n = true) : v.isPositive = .ok true := by
  simp [isPositive, hv, Number.pos_of_one_le h]

/-- An integer is a positive number exactly if it is positive. -/
theorem Value.isPositive_int (d : Int) : (Value.int d).isPositive = .ok (decide (0 < d)) := by
  have hlt : (Number.int 0).lt (.int d) = decide (Dyadic.ofInt 0 < Dyadic.ofInt d) := rfl
  have hpos : (Value.int d).isPositive = .ok ((Number.int 0).lt (.int d)) := rfl
  rw [hpos, hlt]
  simp only [ofInt_lt_ofInt]

end Provisioning
