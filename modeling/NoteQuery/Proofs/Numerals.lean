import NoteQuery.Query.OfTree
import NoteQuery.Proofs.Lexemes
import Mathlib.Data.List.TakeDrop

/-!
# Numerals

Every text that the lexer takes for a number is read as the number nearest to what its digits say.
It can be a limit if it is a count: finite, whole, and not below zero. Up to 2⁵³ the whole numbers
are numbers of the format, so a limit of so many records is that limit.
-/

namespace NoteQuery

open Unicode Text

namespace Binary64

/-! ## Reading numerals -/

theorem span_digits_append {digits : List Char} (hdigits : IsDigits digits) {rest : List Char}
    (hrest : ∀ c ∈ rest.head?, isAsciiDigit c = false) :
    (digits ++ rest).span isAsciiDigit = (digits, rest) := by
  obtain ⟨htake, hdrop⟩ := takeWhile_dropWhile_append hdigits.isAsciiDigit_of_mem hrest
  rw [List.span_eq_takeWhile_dropWhile, htake, hdrop]

theorem span_digits {digits : List Char} (hdigits : IsDigits digits) :
    digits.span isAsciiDigit = (digits, []) := by
  have hspan := @span_digits_append digits hdigits [] nofun
  rwa [List.append_nil] at hspan

/-- Digits are read as the number that they say, with or without a fraction behind them. -/
theorem readDecimal?_eq (negative : Bool) {cs whole fraction rest : List Char}
    (hwhole : whole ≠ []) (hspan : cs.span isAsciiDigit = (whole, rest))
    (hfraction : readFraction rest = (fraction, [])) :
    readDecimal? negative cs =
      some (ofDecimal negative (decimalValue (whole ++ fraction)) (-(fraction.length : Int))) := by
  unfold readDecimal?
  rw [hspan]
  dsimp only
  rw [hfraction]
  dsimp only
  rw [if_neg (by simp [hwhole]), readExponent?, Option.map_some, Int.zero_sub]

theorem readSign_of_isDigits {digits : List Char} (hdigits : IsDigits digits) (rest : List Char) :
    readSign (digits ++ rest) = (false, digits ++ rest) := by
  obtain ⟨d, ds, rfl⟩ := List.exists_cons_of_ne_nil hdigits.ne_nil
  have hd := hdigits.isAsciiDigit_of_mem d (by simp)
  rw [List.cons_append]
  unfold readSign
  split
  · rename_i heq
    obtain ⟨rfl, -⟩ := List.cons.inj heq
    exact absurd hd (by decide)
  · rename_i heq
    obtain ⟨rfl, -⟩ := List.cons.inj heq
    exact absurd hd (by decide)
  · rfl

theorem toLower_of_isAsciiDigit {c : Char} (h : isAsciiDigit c = true) : c.toLower = c := by
  have hle : c.toNat ≤ 57 := by
    have hdigit : '0' ≤ c ∧ c ≤ '9' := by simpa [isAsciiDigit] using h
    exact hdigit.2
  unfold Char.toLower
  split
  · rename_i hupper
    have hlow : 65 ≤ c.toNat := hupper.1
    omega
  · rfl

/-- What starts with a digit is no infinity and no NaN. -/
theorem ofText?_eq_readDecimal? {text : String} {negative : Bool} {d : Char} {ds : List Char}
    (hsign : readSign text.toList = (negative, d :: ds)) (hd : isAsciiDigit d = true) :
    ofText? text = readDecimal? negative (d :: ds) := by
  have hlower : (d :: ds).map Char.toLower = d :: ds.map Char.toLower := by
    rw [List.map_cons, toLower_of_isAsciiDigit hd]
  have hne : ∀ c : Char, isAsciiDigit c = false → ∀ cs, d :: ds.map Char.toLower ≠ c :: cs := by
    intro c hc cs heq
    rw [(List.cons.inj heq).1, hc] at hd
    cases hd
  unfold ofText?
  rw [hsign]
  dsimp only
  rw [hlower, if_neg, if_neg]
  · exact hne 'n' (by decide) _
  · rintro (h | h)
    · exact hne 'i' (by decide) _ h
    · exact hne 'i' (by decide) _ h

/-- A numeral is read as the number nearest to what its digits say. -/
theorem ofText?_numeral (negative : Bool) {whole : List Char} {fraction : Option (List Char)}
    (hwhole : IsDigits whole) (hfraction : ∀ digits ∈ fraction, IsDigits digits) {text : String}
    (htext : text.toList = (if negative then ['-'] else []) ++
      (whole ++ fraction.elim [] (fun digits => '.' :: digits))) :
    ofText? text = some (ofDecimal negative (decimalValue (whole ++ fraction.getD []))
      (-((fraction.getD []).length : Int))) := by
  have hsign : readSign text.toList =
      (negative, whole ++ fraction.elim [] (fun digits => '.' :: digits)) := by
    rw [htext]
    cases negative with
    | true => rfl
    | false => exact readSign_of_isDigits hwhole _
  have hdecimal : readDecimal? negative (whole ++ fraction.elim [] (fun digits => '.' :: digits)) =
      some (ofDecimal negative (decimalValue (whole ++ fraction.getD []))
        (-((fraction.getD []).length : Int))) := by
    cases fraction with
    | none =>
      rw [Option.elim_none, List.append_nil]
      exact readDecimal?_eq negative hwhole.ne_nil (span_digits hwhole) rfl
    | some digits =>
      have hpoint : ∀ c ∈ ('.' :: digits).head?, isAsciiDigit c = false := by
        rintro c ⟨⟩
        decide
      exact readDecimal?_eq negative hwhole.ne_nil (span_digits_append hwhole hpoint)
        (span_digits (hfraction digits rfl))
  obtain ⟨d, ds, rfl⟩ := List.exists_cons_of_ne_nil hwhole.ne_nil
  rw [ofText?_eq_readDecimal? hsign (hwhole.isAsciiDigit_of_mem d (List.mem_cons_self ..))]
  exact hdecimal

theorem IsSign.exists_eq {sign : List Char} (h : IsSign sign) :
    ∃ negative : Bool, sign = if negative then ['-'] else [] := by
  rcases h with rfl | rfl
  · exact ⟨false, rfl⟩
  · exact ⟨true, rfl⟩

/-- Every numeral is read as a number. -/
theorem isSome_ofText? {text : String} (h : IsNumeral text.toList) :
    (ofText? text).isSome = true := by
  generalize htext : text.toList = cs at h
  cases h with
  | @whole sign digits hsign hdigits =>
    obtain ⟨negative, rfl⟩ := IsSign.exists_eq hsign
    have hmem : ∀ others ∈ (none : Option (List Char)), IsDigits others := nofun
    rw [ofText?_numeral negative hdigits hmem (by simp [htext])]
    rfl
  | @decimal sign digits fraction hsign hdigits hfraction =>
    obtain ⟨negative, rfl⟩ := IsSign.exists_eq hsign
    have hmem : ∀ others ∈ some fraction, IsDigits others := by
      rintro others ⟨⟩
      exact hfraction
    rw [ofText?_numeral negative hdigits hmem (by simp [htext])]
    rfl

/-! ## Counts -/

/-- A finite number without a fraction that is not below zero; the negative zero is one, too. -/
structure IsCount (x : Binary64) : Prop where
  isFinite : x.isFinite = true
  isWhole : x.ratio.2 ∣ x.ratio.1
  isZero_of_negative : x.negative = true → x.isZero = true

theorem ratio_eq_zero_iff (x : Binary64) : x.ratio.1 = 0 ↔ x.isZero = true := by
  have hpow : twoTo x.exponent.toNat ≠ 0 := (Nat.two_pow_pos _).ne'
  have h52 : 0 < twoTo 52 := Nat.two_pow_pos 52
  have hsignificand : x.significand = 0 ↔ x.magnitude = 0 := by
    unfold significand
    split
    · rfl
    · omega
  show x.significand * twoTo x.exponent.toNat = 0 ↔ x.isZero = true
  rw [Nat.mul_eq_zero, or_iff_left hpow, hsignificand, isZero, beq_iff_eq]

/-- A number without a fraction is a whole number of denominators. -/
theorem wholeMagnitude?_eq (x : Binary64) (hfinite : x.isFinite = true)
    (hwhole : x.ratio.2 ∣ x.ratio.1) : x.wholeMagnitude? = some (x.ratio.1 / x.ratio.2) := by
  have hmod : x.ratio.1 % x.ratio.2 = 0 := Nat.mod_eq_zero_of_dvd hwhole
  unfold wholeMagnitude?
  dsimp only
  rw [if_pos (by simp [hfinite, hmod])]

/-- Limits are counts. -/
theorem isSome_admissibleLimit?_iff (x : Binary64) :
    (Tree.admissibleLimit? x).isSome = true ↔ IsCount x := by
  by_cases hwhole : x.isFinite = true ∧ x.ratio.2 ∣ x.ratio.1
  · have hzero : x.ratio.1 / x.ratio.2 = 0 ↔ x.isZero = true := by
      rw [← ratio_eq_zero_iff]
      exact ⟨Nat.eq_zero_of_dvd_of_div_eq_zero hwhole.2, fun h => by rw [h, Nat.zero_div]⟩
    rw [Tree.admissibleLimit?, wholeMagnitude?_eq x hwhole.1 hwhole.2]
    dsimp only
    split
    · rename_i hnegative
      refine ⟨fun h => absurd h Bool.false_ne_true, fun hcount => ?_⟩
      exact absurd (hzero.2 (hcount.isZero_of_negative hnegative.1)) hnegative.2
    · rename_i hnegative
      refine ⟨fun _ => ⟨hwhole.1, hwhole.2, fun hneg => ?_⟩, fun _ => rfl⟩
      exact hzero.1 (not_not.1 (fun hne => hnegative ⟨hneg, hne⟩))
  · have hnone : x.wholeMagnitude? = none := by
      unfold wholeMagnitude?
      dsimp only
      rw [if_neg]
      intro h
      simp only [Bool.and_eq_true, beq_iff_eq] at h
      exact hwhole ⟨h.1, Nat.dvd_of_mod_eq_zero h.2⟩
    rw [Tree.admissibleLimit?, hnone]
    refine ⟨fun h => absurd h Bool.false_ne_true, fun hcount => ?_⟩
    exact absurd ⟨hcount.isFinite, hcount.isWhole⟩ hwhole

/-! ## Whole numbers -/

theorem twoTo_52 : twoTo 52 = 4503599627370496 := rfl

theorem twoTo_53 : twoTo 53 = 9007199254740992 := rfl

theorem roundHalfEven_one (n : Nat) : roundHalfEven n 1 = n := by
  simp [roundHalfEven, Nat.mod_one]

theorem placeOf_one {n : Nat} (hpos : 0 < n) : placeOf n 1 = max (-1074) ((n.log2 : Int) - 52) := by
  have hguess : (n.log2 : Int) - (Nat.log2 1 : Nat) = n.log2 := by
    rw [show Nat.log2 1 = 0 by decide]
    exact Int.sub_zero _
  have hle : twoTo (n.log2 : Int).toNat * 1 ≤ n * twoTo (-(n.log2 : Int)).toNat := by
    have hself : 2 ^ n.log2 ≤ n := Nat.log2_self_le hpos.ne'
    simpa using hself
  unfold placeOf floorLog2
  rw [hguess, if_pos hle]

/-- The number with a significand between 2⁵² and 2⁵³, and a place not above that of the ones. -/
theorem wholeMagnitude?_of_magnitude_eq {x : Binary64} {n k : Nat} (hk : k ≤ 52)
    (hlow : twoTo 52 ≤ n * twoTo k) (hhigh : n * twoTo k < twoTo 53)
    (hx : x.magnitude = (1074 - k) * twoTo 52 + n * twoTo k) : x.wholeMagnitude? = some n := by
  rw [twoTo_53] at hhigh
  rw [twoTo_52] at hlow hx
  have hsignificand : x.significand = n * twoTo k := by
    rw [significand, twoTo_52, if_neg (by omega)]
    omega
  have hexponent : x.exponent = -(k : Int) := by
    rw [exponent, twoTo_52]
    omega
  have hfinite : x.isFinite = true := by
    rw [isFinite, infinityMagnitude, twoTo_52, decide_eq_true_eq]
    omega
  have hratio : x.ratio = (n * twoTo k, twoTo k) := by
    have hzero : (-(k : Int)).toNat = 0 := by omega
    rw [ratio, hsignificand, hexponent, Int.neg_neg, Int.toNat_natCast, hzero]
    exact congrArg (·, twoTo k) (Nat.mul_one _)
  have hpow : 0 < twoTo k := Nat.two_pow_pos k
  rw [wholeMagnitude?_eq x hfinite (by rw [hratio]; exact Nat.dvd_mul_left _ _), hratio,
    Nat.mul_div_cancel n hpow]

/-- A number whose last place is not above that of the ones is not rounded. -/
theorem ofRatio_eq_ofMagnitude {n k : Nat} (hpos : 0 < n) (hplace : placeOf n 1 = -(k : Int))
    (hk : k ≤ 1074) (hfinite : (1074 - k) * twoTo 52 + n * twoTo k < infinityMagnitude) :
    ofRatio false n 1 = ofMagnitude false ((1074 - k) * twoTo 52 + n * twoTo k) := by
  have hexponent : (-(k : Int) + 1074).toNat = 1074 - k := by omega
  have hsignificand :
      roundHalfEven (n * twoTo (-placeOf n 1).toNat) (1 * twoTo (placeOf n 1).toNat) =
        n * twoTo k := by
    have hzero : (-(k : Int)).toNat = 0 := by omega
    rw [hplace, Int.neg_neg, Int.toNat_natCast, hzero]
    exact roundHalfEven_one _
  unfold ofRatio
  rw [if_neg hpos.ne']
  dsimp only
  rw [hsignificand, hplace, hexponent, if_pos hfinite]

theorem magnitude_ofMagnitude (negative : Bool) {m : Nat} (h : m < twoTo 63) :
    (ofMagnitude negative m).magnitude = m := by
  rw [ofMagnitude, dif_pos h]

/-- Whole numbers below 2⁵³ are numbers of the format: their bits fill the significand from the
left. -/
theorem wholeMagnitude?_ofRatio {n : Nat} (hpos : 0 < n) (hlt : n < twoTo 53) :
    (ofRatio false n 1).wholeMagnitude? = some n := by
  have hlog : n.log2 < 53 := (Nat.log2_lt hpos.ne').2 hlt
  -- the significand has `k` bits more than the number
  obtain ⟨k, hk⟩ : ∃ k, n.log2 + k = 52 := ⟨52 - n.log2, by omega⟩
  have hlow : twoTo 52 ≤ n * twoTo k := by
    calc twoTo 52 = 2 ^ n.log2 * 2 ^ k := by rw [← Nat.pow_add, hk]
      _ ≤ n * 2 ^ k := Nat.mul_le_mul_right _ (Nat.log2_self_le hpos.ne')
  have hhigh : n * twoTo k < twoTo 53 := by
    calc n * 2 ^ k < 2 ^ (n.log2 + 1) * 2 ^ k :=
          Nat.mul_lt_mul_of_pos_right Nat.lt_log2_self (Nat.two_pow_pos _)
      _ = twoTo 53 := by rw [← Nat.pow_add, Nat.add_right_comm, hk]
  have hplace : placeOf n 1 = -(k : Int) := by
    rw [placeOf_one hpos]
    omega
  have hfinite : (1074 - k) * twoTo 52 + n * twoTo k < infinityMagnitude := by
    rw [twoTo_53] at hhigh
    rw [infinityMagnitude, twoTo_52]
    omega
  have hfits : infinityMagnitude < twoTo 63 := by decide
  refine wholeMagnitude?_of_magnitude_eq (by omega) hlow hhigh ?_
  rw [ofRatio_eq_ofMagnitude hpos hplace (by omega) hfinite,
    magnitude_ofMagnitude false (Nat.lt_trans hfinite hfits)]

/-- Digits without a fraction spell a quotient by one. -/
theorem ofDecimal_zero (negative : Bool) (digits : Nat) :
    ofDecimal negative digits 0 = ofRatio negative digits 1 := by
  have hten : tenTo (0 : Int).toNat = 1 ∧ tenTo (-(0 : Int)).toNat = 1 := ⟨rfl, rfl⟩
  have hlog : ¬ 0 + (digits.log2 : Int) < -400 := by omega
  unfold ofDecimal
  by_cases hzero : digits = 0
  · rw [if_pos hzero, hzero, ofRatio, if_pos rfl]
  · rw [if_neg hzero, if_neg (by decide), if_neg hlog, hten.1, hten.2, Nat.mul_one]

theorem negative_ofRatio (negative : Bool) (num den : Nat) :
    (ofRatio negative num den).negative = negative := by
  unfold ofRatio
  dsimp only
  split
  · rfl
  · split
    · unfold ofMagnitude
      split <;> rfl
    · rfl

/-- Whole numbers up to 2⁵³ are limits. -/
theorem admissibleLimit?_ofRatio {n : Nat} (hle : n ≤ twoTo 53) :
    Tree.admissibleLimit? (ofRatio false n 1) = some n := by
  have hwhole : (ofRatio false n 1).wholeMagnitude? = some n := by
    rcases Nat.eq_zero_or_pos n with rfl | hpos
    · decide +kernel
    · rcases Nat.lt_or_eq_of_le hle with hlt | rfl
      · exact wholeMagnitude?_ofRatio hpos hlt
      · decide +kernel
  have hmax : min n Tree.maxLimit = n := by
    have hlimit : twoTo 53 ≤ Tree.maxLimit := by decide
    exact Nat.min_eq_left (Nat.le_trans hle hlimit)
  rw [Tree.admissibleLimit?, hwhole]
  dsimp only
  rw [negative_ofRatio, if_neg (by simp), hmax]

end Binary64

end NoteQuery
