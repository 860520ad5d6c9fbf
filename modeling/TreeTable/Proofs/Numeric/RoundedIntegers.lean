import TreeTable.Numeric.Binary64

/-! # The order of rounded integers

Rounding to a double keeps the order of integers, though it may bring different ones together. The
magnitude of the double is made of the length of the integer and of its leading binary digits, and a
carry out of these digits is taken up by the length.
-/

namespace TreeTable.Numeric

/-- A quotient is rounded down if the rest is at most half of the denominator, and up if it is at
least half of it. -/
theorem roundHalfEven_cases (num den : Nat) :
    roundHalfEven num den = num / den ∧ 2 * (num % den) ≤ den ∨
      roundHalfEven num den = num / den + 1 ∧ den ≤ 2 * (num % den) := by
  simp only [roundHalfEven]
  split
  next below => exact .inl ⟨rfl, Nat.le_of_lt below⟩
  next notBelow =>
    split
    next above => exact .inr ⟨rfl, Nat.le_of_lt above⟩
    next notAbove =>
      split
      next => exact .inl ⟨rfl, Nat.le_of_not_lt notAbove⟩
      next => exact .inr ⟨rfl, Nat.le_of_not_lt notBelow⟩

/-- Of two numbers over one denominator the greater one is not rounded to less. -/
theorem roundHalfEven_mono {first second : Nat} (den : Nat) (h : first ≤ second) :
    roundHalfEven first den ≤ roundHalfEven second den := by
  have quotients : first / den ≤ second / den := Nat.div_le_div_right h
  have hfirst := roundHalfEven_cases first den
  have hsecond := roundHalfEven_cases second den
  by_cases same : first / den = second / den
  · -- Between the same whole neighbours the rests decide, and equal rests mean equal numbers.
    have splitFirst := Nat.div_add_mod first den
    have splitSecond := Nat.div_add_mod second den
    rw [same] at splitFirst
    by_cases equal : first % den = second % den
    · rw [equal, splitSecond] at splitFirst
      exact Nat.le_of_eq (by rw [splitFirst])
    · omega
  · omega

namespace Binary64

/-- The leading binary digits of a natural number, 53 of them or one more by a carry. -/
def leadingDigits (n : Nat) : Nat :=
  roundHalfEven (n * twoPow (52 - n.log2)) (twoPow (n.log2 - 52))

/-- The magnitude of the double to which a natural number is rounded. -/
def roundedMagnitude (n : Nat) : Nat :=
  if n = 0 then 0
  else min ((n.log2 + 1022) * twoPow 52 + leadingDigits n) infinityMagnitude

theorem ofRatio_one (negative : Bool) (n : Nat) :
    ofRatio negative n 1 = ofMagnitude negative (roundedMagnitude n) := by
  rw [ofRatio, roundedMagnitude]
  split
  next => rfl
  next nonzero =>
    have power : max (floorLogTwo n 1 - 52) (-1074) = (n.log2 : Int) - 52 := by
      rw [floorLogTwo_one nonzero]
      omega
    have up : (-((n.log2 : Int) - 52)).toNat = 52 - n.log2 := by omega
    have down : ((n.log2 : Int) - 52).toNat = n.log2 - 52 := by omega
    have scale : ((n.log2 : Int) - 52 + 1074).toNat = n.log2 + 1022 := by omega
    simp only [power, up, down, scale, Nat.one_mul, leadingDigits]

theorem twoPow_shift {n : Nat} (nonzero : n ≠ 0) :
    twoPow 52 * twoPow (n.log2 - 52) ≤ n * twoPow (52 - n.log2) ∧
      n * twoPow (52 - n.log2) < twoPow 53 * twoPow (n.log2 - 52) := by
  have below : twoPow n.log2 ≤ n := Nat.log2_self_le nonzero
  have above : n < twoPow (n.log2 + 1) := Nat.lt_log2_self
  have scale : 52 + (n.log2 - 52) = n.log2 + (52 - n.log2) := by omega
  constructor
  · calc twoPow 52 * twoPow (n.log2 - 52) = twoPow n.log2 * twoPow (52 - n.log2) := by
          rw [← twoPow_add, ← twoPow_add, scale]
      _ ≤ n * twoPow (52 - n.log2) := Nat.mul_le_mul_right _ below
  · calc n * twoPow (52 - n.log2) < twoPow (n.log2 + 1) * twoPow (52 - n.log2) :=
          Nat.mul_lt_mul_of_pos_right above (twoPow_pos _)
      _ = twoPow 53 * twoPow (n.log2 - 52) := by
          rw [← twoPow_add, ← twoPow_add]
          congr 1
          omega

theorem leadingDigits_bounds {n : Nat} (nonzero : n ≠ 0) :
    twoPow 52 ≤ leadingDigits n ∧ leadingDigits n ≤ twoPow 53 := by
  obtain ⟨low, high⟩ := twoPow_shift nonzero
  have hpos := twoPow_pos (n.log2 - 52)
  have least : twoPow 52 ≤ n * twoPow (52 - n.log2) / twoPow (n.log2 - 52) :=
    (Nat.le_div_iff_mul_le hpos).mpr low
  have greatest : n * twoPow (52 - n.log2) / twoPow (n.log2 - 52) < twoPow 53 :=
    (Nat.div_lt_iff_lt_mul hpos).mpr high
  rcases roundHalfEven_cases (n * twoPow (52 - n.log2)) (twoPow (n.log2 - 52)) with
    ⟨down, -⟩ | ⟨up, -⟩
  · rw [leadingDigits, down]
    exact ⟨least, Nat.le_of_lt greatest⟩
  · rw [leadingDigits, up]
    exact ⟨Nat.le_succ_of_le least, greatest⟩

/-- A greater natural number is rounded to no lesser double. -/
theorem roundedMagnitude_mono {m n : Nat} (h : m ≤ n) :
    roundedMagnitude m ≤ roundedMagnitude n := by
  rw [roundedMagnitude, roundedMagnitude]
  split
  next => exact Nat.zero_le _
  next hm =>
    have hn : n ≠ 0 := by omega
    rw [if_neg hn]
    have unbounded : (m.log2 + 1022) * twoPow 52 + leadingDigits m ≤
        (n.log2 + 1022) * twoPow 52 + leadingDigits n := by
      have half : twoPow 53 = twoPow 52 + twoPow 52 := rfl
      have lengths : m.log2 < n.log2 + 1 := by
        apply lt_of_twoPow_lt
        calc twoPow m.log2 ≤ m := Nat.log2_self_le hm
          _ ≤ n := h
          _ < twoPow (n.log2 + 1) := Nat.lt_log2_self
      rcases Nat.lt_or_eq_of_le (Nat.le_of_lt_succ lengths) with longer | same
      · -- A carry out of the digits of the shorter number stays below the longer one.
        have shorter := (leadingDigits_bounds hm).2
        have longest := (leadingDigits_bounds hn).1
        have scale := Nat.mul_le_mul_right (twoPow 52) (show m.log2 + 1 + 1022 ≤ n.log2 + 1022 by
          omega)
        rw [Nat.add_right_comm, Nat.add_mul _ 1, Nat.one_mul] at scale
        omega
      · have digits : leadingDigits m ≤ leadingDigits n := by
          rw [leadingDigits, leadingDigits, same]
          exact roundHalfEven_mono _ (Nat.mul_le_mul_right _ h)
        rw [same]
        omega
    omega

theorem roundedMagnitude_le (n : Nat) : roundedMagnitude n ≤ infinityMagnitude := by
  rw [roundedMagnitude]
  split
  · exact Nat.zero_le _
  · exact Nat.min_le_right _ _

theorem roundedMagnitude_lt_twoPow (n : Nat) : roundedMagnitude n < twoPow 63 :=
  Nat.lt_of_le_of_lt (roundedMagnitude_le n) (by decide)

theorem toNat_bits_ofMagnitude (negative : Bool) {m : Nat} (h : m < twoPow 63) :
    (ofMagnitude negative m).bits.toNat = if negative then twoPow 63 + m else m := by
  have word : 2 ^ 64 = twoPow 63 + twoPow 63 := rfl
  rw [ofMagnitude, UInt64.toNat_ofNat']
  apply Nat.mod_eq_of_lt
  split <;> omega

theorem magnitude_ofMagnitude (negative : Bool) {m : Nat} (h : m < twoPow 63) :
    (ofMagnitude negative m).magnitude = m := by
  rw [magnitude, toNat_bits_ofMagnitude negative h]
  split
  · rw [Nat.add_mod_left, Nat.mod_eq_of_lt h]
  · exact Nat.mod_eq_of_lt h

theorem isNegative_ofMagnitude (negative : Bool) {m : Nat} (h : m < twoPow 63) :
    (ofMagnitude negative m).isNegative = negative := by
  rw [isNegative, toNat_bits_ofMagnitude negative h]
  cases negative with
  | true => exact decide_eq_true (Nat.le_add_right ..)
  | false => exact decide_eq_false (Nat.not_le_of_lt h)

theorem orderKey_ofMagnitude (negative : Bool) {m : Nat} (h : m < twoPow 63) :
    (ofMagnitude negative m).orderKey = if negative then -(m : Int) else m := by
  rw [orderKey, isNegative_ofMagnitude negative h, magnitude_ofMagnitude negative h]

theorem ofInt_eq_ofMagnitude (i : Int) :
    ofInt i = ofMagnitude (decide (i < 0)) (roundedMagnitude i.natAbs) :=
  ofRatio_one _ _

theorem isNaN_ofMagnitude (negative : Bool) {m : Nat} (h : m ≤ infinityMagnitude) :
    (ofMagnitude negative m).isNaN = false := by
  have small : m < twoPow 63 := Nat.lt_of_le_of_lt h (by decide)
  rw [isNaN, magnitude_ofMagnitude negative small]
  exact decide_eq_false (Nat.not_lt_of_le h)

/-- Every quotient is rounded to a number. -/
theorem isNaN_ofRatio (negative : Bool) (num den : Nat) :
    (ofRatio negative num den).isNaN = false := by
  rw [ofRatio]
  split
  · exact isNaN_ofMagnitude negative (Nat.zero_le _)
  · exact isNaN_ofMagnitude negative (Nat.min_le_right _ _)

theorem isNaN_ofInt (i : Int) : (ofInt i).isNaN = false := isNaN_ofRatio _ _ _

theorem orderKey_ofInt (i : Int) :
    (ofInt i).orderKey =
      if i < 0 then -(roundedMagnitude i.natAbs : Int) else roundedMagnitude i.natAbs := by
  rw [ofInt_eq_ofMagnitude, orderKey_ofMagnitude _ (roundedMagnitude_lt_twoPow _)]
  by_cases negative : i < 0
  · rw [decide_eq_true negative, if_pos rfl, if_pos negative]
  · rw [decide_eq_false negative, if_neg Bool.false_ne_true, if_neg negative]

/-- A greater integer is rounded to a double at no lesser place. -/
theorem orderKey_ofInt_mono {i j : Int} (h : i ≤ j) :
    (ofInt i).orderKey ≤ (ofInt j).orderKey := by
  rw [orderKey_ofInt, orderKey_ofInt]
  split
  next negative =>
    split
    next =>
      have := roundedMagnitude_mono (show j.natAbs ≤ i.natAbs by omega)
      omega
    next => omega
  next =>
    have := roundedMagnitude_mono (show i.natAbs ≤ j.natAbs by omega)
    rw [if_neg (by omega)]
    omega

end Binary64

end TreeTable.Numeric
