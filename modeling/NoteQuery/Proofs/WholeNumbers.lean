import NoteQuery.Proofs.Numerals

/-!
# Whole numbers

A binary64 number without a fraction is an integer, and rounding this integer gives the number back
(`ofInt_of_toInt?`), whatever its size: the integer has no more bits from its first one to its last
one than the significand, so no place of it is lost. Only the sign of the negative zero is.
-/

namespace NoteQuery

namespace Binary64

/-! ## Scaling by powers of two -/

theorem log2_mul_twoTo {n : Nat} (hpos : 0 < n) (k : Nat) : (n * twoTo k).log2 = n.log2 + k := by
  have hpow : 0 < 2 ^ k := Nat.two_pow_pos k
  have hne : n * 2 ^ k ≠ 0 := (Nat.mul_pos hpos hpow).ne'
  refine (Nat.log2_eq_iff hne).2 ⟨?_, ?_⟩
  · calc 2 ^ (n.log2 + k) = 2 ^ n.log2 * 2 ^ k := Nat.pow_add 2 _ _
      _ ≤ n * 2 ^ k := Nat.mul_le_mul_right _ (Nat.log2_self_le hpos.ne')
  · calc n * 2 ^ k < 2 ^ (n.log2 + 1) * 2 ^ k := Nat.mul_lt_mul_of_pos_right Nat.lt_log2_self hpow
      _ = 2 ^ (n.log2 + k + 1) := by rw [← Nat.pow_add, Nat.add_right_comm]

/-- A quotient without remainder is not rounded. -/
theorem roundHalfEven_mul (n : Nat) {den : Nat} (hpos : 0 < den) :
    roundHalfEven (n * den) den = n := by
  have hquotient : n * den / den = n := Nat.mul_div_cancel n hpos
  have hremainder : n * den % den = 0 := Nat.mul_mod_left n den
  unfold roundHalfEven
  dsimp only
  rw [hquotient, hremainder, if_pos (by omega)]

/-! ## Significands -/

/-- Above the subnormal range the significand starts with its leading one. -/
theorem significand_bounds {x : Binary64} (h : twoTo 52 ≤ x.magnitude) :
    twoTo 52 ≤ x.significand ∧ x.significand < twoTo 53 := by
  rw [twoTo_52] at h
  rw [significand, twoTo_52, twoTo_53, if_neg (by omega)]
  omega

/-- Above the subnormal range the magnitude is put together from exponent and significand. -/
theorem magnitude_eq_exponent_significand {x : Binary64} (h : twoTo 52 ≤ x.magnitude) :
    x.magnitude = (x.exponent + 1074).toNat * twoTo 52 + x.significand := by
  rw [twoTo_52] at h
  rw [significand, exponent, twoTo_52, if_neg (by omega)]
  omega

theorem neg_1074_le_exponent (x : Binary64) : -1074 ≤ x.exponent := by
  unfold exponent
  omega

/-- A whole number times the denominator of its ratio is the numerator. -/
theorem exists_of_wholeMagnitude? {x : Binary64} {n : Nat} (h : x.wholeMagnitude? = some n) :
    x.isFinite = true ∧ n * twoTo (-x.exponent).toNat = x.significand * twoTo x.exponent.toNat := by
  unfold wholeMagnitude? ratio at h
  dsimp only at h
  split at h
  · rename_i hwhole
    simp only [Bool.and_eq_true, beq_iff_eq] at hwhole
    obtain rfl := Option.some.inj h
    exact ⟨hwhole.1, Nat.div_mul_cancel (Nat.dvd_of_mod_eq_zero hwhole.2)⟩
  · cases h

/-! ## Rounding a whole number -/

/-- Subnormal numbers lie below one, so a positive whole number is none. -/
theorem twoTo_52_le_magnitude {x : Binary64} {n : Nat} (hpos : 0 < n)
    (h : n * twoTo (-x.exponent).toNat = x.significand * twoTo x.exponent.toNat) :
    twoTo 52 ≤ x.magnitude := by
  by_contra hsmall
  have hsmall : x.magnitude < twoTo 52 := Nat.lt_of_not_le hsmall
  have hsignificand : x.significand = x.magnitude := if_pos hsmall
  have hexponent : 52 ≤ (-x.exponent).toNat ∧ x.exponent.toNat = 0 := by
    rw [twoTo_52] at hsmall
    rw [exponent, twoTo_52]
    omega
  have hone : x.significand * twoTo x.exponent.toNat = x.magnitude := by
    rw [hsignificand, hexponent.2]
    exact Nat.mul_one _
  have hle : twoTo 52 ≤ n * twoTo (-x.exponent).toNat := by
    calc twoTo 52 ≤ twoTo (-x.exponent).toNat := Nat.pow_le_pow_right (by decide) hexponent.1
      _ ≤ n * twoTo (-x.exponent).toNat := Nat.le_mul_of_pos_left _ hpos
  rw [h, hone] at hle
  exact absurd hle (Nat.not_le_of_lt hsmall)

/-- A whole number other than zero is not rounded. -/
theorem ofRatio_of_wholeMagnitude? {x : Binary64} {n : Nat} (h : x.wholeMagnitude? = some n)
    (hpos : 0 < n) : ofRatio x.negative n 1 = x := by
  obtain ⟨hfinite, hscaled⟩ := exists_of_wholeMagnitude? h
  have hnormal : twoTo 52 ≤ x.magnitude := twoTo_52_le_magnitude hpos hscaled
  obtain ⟨hlow, hhigh⟩ := significand_bounds hnormal
  have hsignificand : 0 < x.significand := Nat.lt_of_lt_of_le (Nat.two_pow_pos 52) hlow
  have hlog : x.significand.log2 = 52 := (Nat.log2_eq_iff hsignificand.ne').2 ⟨hlow, hhigh⟩
  -- both sides of the scaled equation have the same number of bits
  have hbits : n.log2 + (-x.exponent).toNat = 52 + x.exponent.toNat := by
    rw [← log2_mul_twoTo hpos, hscaled, log2_mul_twoTo hsignificand, hlog]
  have hplace : placeOf n 1 = x.exponent := by
    have hexponent := neg_1074_le_exponent x
    rw [placeOf_one hpos]
    omega
  have hrounded : roundHalfEven (n * twoTo (-x.exponent).toNat) (1 * twoTo x.exponent.toNat) =
      x.significand := by
    rw [hscaled, Nat.one_mul]
    exact roundHalfEven_mul _ (Nat.two_pow_pos _)
  have hfits : x.magnitude < infinityMagnitude := of_decide_eq_true hfinite
  unfold ofRatio
  rw [if_neg hpos.ne']
  dsimp only
  rw [hplace, hrounded, ← magnitude_eq_exponent_significand hnormal, if_pos hfits, ofMagnitude,
    dif_pos x.magnitude_lt]

/-! ## Integers -/

/-- A number with the positive zero in place of the negative one. -/
def withoutNegativeZero (x : Binary64) : Binary64 := if x.isZero then zero false else x

theorem wholeMagnitude?_eq_zero_iff {x : Binary64} {n : Nat} (h : x.wholeMagnitude? = some n) :
    n = 0 ↔ x.isZero = true := by
  obtain ⟨-, hscaled⟩ := exists_of_wholeMagnitude? h
  have hpow : twoTo (-x.exponent).toNat ≠ 0 := (Nat.two_pow_pos _).ne'
  have hzero : n * twoTo (-x.exponent).toNat = 0 ↔ x.isZero = true := by
    rw [hscaled]
    exact ratio_eq_zero_iff x
  rw [← hzero, Nat.mul_eq_zero, or_iff_left hpow]

theorem toInt?_eq_some_iff {x : Binary64} {n : Int} :
    x.toInt? = some n ↔
      ∃ m : Nat, x.wholeMagnitude? = some m ∧ (if x.negative then -(m : Int) else m) = n := by
  unfold toInt?
  cases x.wholeMagnitude? with
  | none => exact iff_of_false nofun (fun ⟨_, hm, _⟩ => nomatch hm)
  | some m =>
    constructor
    · intro h
      exact ⟨m, rfl, Option.some.inj h⟩
    · rintro ⟨_, hm, hn⟩
      obtain rfl := Option.some.inj hm
      exact congrArg some hn

theorem eq_zero_of_toInt? {x : Binary64} {n : Int} (h : x.toInt? = some n)
    (hzero : x.isZero = true) : n = 0 := by
  obtain ⟨m, hm, hn⟩ := toInt?_eq_some_iff.1 h
  obtain rfl : m = 0 := (wholeMagnitude?_eq_zero_iff hm).2 hzero
  rw [← hn]
  split <;> rfl

/-- The number nearest to the integer that a number is equal to is this number. -/
theorem ofInt_of_toInt? {x : Binary64} {n : Int} (h : x.toInt? = some n) :
    ofInt n = x.withoutNegativeZero := by
  rw [withoutNegativeZero]
  by_cases hzero : x.isZero = true
  · rw [if_pos hzero, eq_zero_of_toInt? h hzero]
    rfl
  · obtain ⟨m, hm, hn⟩ := toInt?_eq_some_iff.1 h
    have hpos : 0 < m :=
      Nat.pos_of_ne_zero (fun h0 => hzero ((wholeMagnitude?_eq_zero_iff hm).1 h0))
    have hsign : decide (n < 0) = x.negative := by
      rw [← hn]
      cases x.negative
      · simp
      · simpa using hpos
    have habs : n.natAbs = m := by
      rw [← hn]
      split <;> omega
    rw [if_neg hzero, ofInt, hsign, habs, ofRatio_of_wholeMagnitude? hm hpos]

/-- A number that is equal to no integer is no zero. -/
theorem isZero_of_toInt?_eq_none {x : Binary64} (hfinite : x.isFinite = true)
    (h : x.toInt? = none) : x.isZero = false := by
  by_contra hzero
  have hzero : x.ratio.1 = 0 := (ratio_eq_zero_iff x).2 (by simpa using hzero)
  have hwhole := wholeMagnitude?_eq x hfinite (hzero ▸ Nat.dvd_zero _)
  have hsome := toInt?_eq_some_iff.2 ⟨_, hwhole, rfl⟩
  exact nomatch h.symm.trans hsome

end Binary64

end NoteQuery
