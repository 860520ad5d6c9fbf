import TreeTable.Proofs.Numeric.RoundedIntegers

/-! # Integers that doubles hold exactly

Every finite double is a whole multiple of the least positive one, so it stands for an integer
when that multiple is the integer's. An integer that some double stands for is rounded to such a
double, and the doubles that equal it are those that stand for it.
-/

namespace TreeTable.Numeric.Binary64

/-- The multiple of the least positive number that a finite number of some magnitude is. -/
def units (magnitude : Nat) : Nat :=
  if magnitude < twoPow 52 then magnitude
  else (twoPow 52 + magnitude % twoPow 52) * twoPow (magnitude / twoPow 52 - 1)

/-- The multiple of the least positive number that is at a place of the integer line. -/
def unitsAt (key : Int) : Int :=
  if key < 0 then -(units key.natAbs : Int) else units key.natAbs

/-- Whether a number is finite and stands for an integer. -/
def Denotes (x : Binary64) (i : Int) : Prop :=
  x.isFinite = true ∧ x.signedMultiple (-1074) = i * twoPow 1074

instance (x : Binary64) (i : Int) : Decidable (x.Denotes i) :=
  inferInstanceAs (Decidable (_ ∧ _))

/-- Whether some number stands for an integer. -/
def Holds (i : Int) : Prop := ∃ x : Binary64, x.Denotes i

theorem natAbs_orderKey (x : Binary64) : x.orderKey.natAbs = x.magnitude := by
  rw [orderKey]
  split <;> omega

theorem unitsAt_natCast (m : Nat) : unitsAt m = units m := by
  rw [unitsAt, if_neg (by omega), Int.natAbs_natCast]

theorem unitsAt_neg (m : Nat) : unitsAt (-m) = -(units m : Int) := by
  rcases Nat.eq_zero_or_pos m with rfl | hpos
  · rfl
  · rw [unitsAt, if_pos (by omega), Int.natAbs_neg, Int.natAbs_natCast]

/-- A double that is normal is a 53-bit significand under a power of two. -/
theorem units_of_le {significand scale : Nat} (low : twoPow 52 ≤ significand)
    (high : significand < twoPow 53) :
    units (scale * twoPow 52 + significand) = significand * twoPow scale := by
  have half : twoPow 53 = twoPow 52 + twoPow 52 := rfl
  have hpos := twoPow_pos 52
  have shape : scale * twoPow 52 + significand =
      (significand - twoPow 52) + twoPow 52 * (scale + 1) := by
    rw [Nat.mul_add, Nat.mul_comm scale]
    omega
  have small : significand - twoPow 52 < twoPow 52 := by omega
  rw [units, if_neg (by omega), shape, Nat.add_mul_mod_self_left, Nat.add_mul_div_left _ _ hpos,
    Nat.mod_eq_of_lt small, Nat.div_eq_of_lt small, Nat.add_sub_cancel' low, Nat.zero_add,
    Nat.add_sub_cancel]

theorem exists_significand {m : Nat} (h : twoPow 52 ≤ m) :
    ∃ significand scale, twoPow 52 ≤ significand ∧ significand < twoPow 53 ∧
      m = scale * twoPow 52 + significand := by
  have half : twoPow 53 = twoPow 52 + twoPow 52 := rfl
  have hpos := twoPow_pos 52
  have parts := Nat.div_add_mod m (twoPow 52)
  have small := Nat.mod_lt m hpos
  obtain ⟨scale, hscale⟩ := Nat.exists_eq_add_of_le' (Nat.div_pos h hpos)
  rw [hscale, Nat.mul_add, Nat.mul_one, Nat.mul_comm] at parts
  exact ⟨twoPow 52 + m % twoPow 52, scale, by omega, by omega, by omega⟩

theorem signedMultiple_eq_unitsAt (x : Binary64) :
    x.signedMultiple (-1074) = unitsAt x.orderKey := by
  have whole : x.significand * twoPow (x.exponent - -1074).toNat = units x.magnitude := by
    rw [significand, exponent, units]
    split
    next => exact Nat.mul_one _
    next h =>
      have scale : ((x.magnitude / twoPow 52 : Nat) - 1075 - -1074 : Int).toNat =
          x.magnitude / twoPow 52 - 1 := by omega
      rw [scale]
  rw [signedMultiple, whole, orderKey]
  split
  · exact (unitsAt_neg _).symm
  · exact (unitsAt_natCast _).symm

/-- What a number stands for depends only on its place among the numbers. -/
theorem denotes_iff_orderKey (x : Binary64) (i : Int) :
    x.Denotes i ↔ x.orderKey.natAbs < infinityMagnitude ∧
      unitsAt x.orderKey = i * twoPow 1074 := by
  rw [Denotes, signedMultiple_eq_unitsAt, natAbs_orderKey, isFinite, decide_eq_true_iff]

theorem significand_mul_pos {significand : Nat} (low : twoPow 52 ≤ significand) (scale : Nat) :
    0 < significand * twoPow scale :=
  Nat.mul_pos (Nat.lt_of_lt_of_le (twoPow_pos 52) low) (twoPow_pos scale)

/-- The scale of a natural number that is a normal double is told by its length. -/
theorem log2_of_significand {n significand scale : Nat} (low : twoPow 52 ≤ significand)
    (high : significand < twoPow 53) (h : n * twoPow 1074 = significand * twoPow scale)
    (hn : n ≠ 0) : n.log2 + 1022 = scale := by
  have below : twoPow n.log2 ≤ n := Nat.log2_self_le hn
  have above : n < twoPow (n.log2 + 1) := Nat.lt_log2_self
  have lower : 52 + scale < n.log2 + 1 + 1074 := by
    apply lt_of_twoPow_lt
    calc twoPow (52 + scale) = twoPow 52 * twoPow scale := twoPow_add ..
      _ ≤ significand * twoPow scale := Nat.mul_le_mul_right _ low
      _ = n * twoPow 1074 := h.symm
      _ < twoPow (n.log2 + 1) * twoPow 1074 := Nat.mul_lt_mul_of_pos_right above (twoPow_pos _)
      _ = twoPow (n.log2 + 1 + 1074) := (twoPow_add ..).symm
  have upper : n.log2 + 1074 < 53 + scale := by
    apply lt_of_twoPow_lt
    calc twoPow (n.log2 + 1074) = twoPow n.log2 * twoPow 1074 := twoPow_add ..
      _ ≤ n * twoPow 1074 := Nat.mul_le_mul_right _ below
      _ = significand * twoPow scale := h
      _ < twoPow 53 * twoPow scale := Nat.mul_lt_mul_of_pos_right high (twoPow_pos _)
      _ = twoPow (53 + scale) := (twoPow_add ..).symm
  omega

/-- A natural number that is a normal double is rounded to that double. -/
theorem roundedMagnitude_of_significand {n significand scale : Nat}
    (low : twoPow 52 ≤ significand) (high : significand < twoPow 53)
    (finite : scale * twoPow 52 + significand < infinityMagnitude)
    (h : n * twoPow 1074 = significand * twoPow scale) :
    roundedMagnitude n = scale * twoPow 52 + significand := by
  have hn : n ≠ 0 := by
    rintro rfl
    have := significand_mul_pos low scale
    omega
  have length := log2_of_significand low high h hn
  have exact : n * twoPow (52 - n.log2) = significand * twoPow (n.log2 - 52) := by
    have shift : scale + (52 - n.log2) = n.log2 - 52 + 1074 := by omega
    apply Nat.eq_of_mul_eq_mul_right (twoPow_pos 1074)
    rw [Nat.mul_right_comm, h, Nat.mul_assoc, Nat.mul_assoc, ← twoPow_add, ← twoPow_add, shift]
  have digits : leadingDigits n = significand := roundHalfEven_of_eq_mul (twoPow_pos _) exact
  rw [roundedMagnitude, if_neg hn, digits, length, Nat.min_eq_left (Nat.le_of_lt finite)]

/-- Rounding keeps a natural number that is a multiple of the least positive number by some
magnitude. -/
theorem roundedMagnitude_of_units {n m : Nat} (finite : m < infinityMagnitude)
    (h : units m = n * twoPow 1074) : roundedMagnitude n = m := by
  rcases Nat.lt_or_ge m (twoPow 52) with subnormal | normal
  · -- Below the normal doubles lies no whole number but zero.
    have small : twoPow 52 ≤ twoPow 1074 := twoPow_le (by decide)
    rw [units, if_pos subnormal] at h
    have hzero : n = 0 := by
      rcases Nat.eq_zero_or_pos n with hzero | hpos
      · exact hzero
      · have := Nat.le_mul_of_pos_left (twoPow 1074) hpos
        omega
    subst hzero
    rw [Nat.zero_mul] at h
    exact h.symm
  · obtain ⟨significand, scale, low, high, rfl⟩ := exists_significand normal
    rw [units_of_le low high] at h
    exact roundedMagnitude_of_significand low high finite h.symm

theorem units_eq_zero {m : Nat} (h : units m = 0) : m = 0 := by
  rcases Nat.lt_or_ge m (twoPow 52) with subnormal | normal
  · rwa [units, if_pos subnormal] at h
  · obtain ⟨significand, scale, low, high, rfl⟩ := exists_significand normal
    rw [units_of_le low high] at h
    have := significand_mul_pos low scale
    omega

theorem unitsAt_neg_iff (key : Int) : unitsAt key < 0 ↔ key < 0 := by
  rw [unitsAt]
  split
  next negative =>
    have nonzero : units key.natAbs ≠ 0 := by
      intro h
      have := units_eq_zero h
      omega
    omega
  next => omega

theorem lt_twoPow_of_finite {m : Nat} (h : m < infinityMagnitude) : m < twoPow 63 := by
  have bound : infinityMagnitude < twoPow 63 := by decide
  omega

/-- An integer is rounded to a number that stands at the place of any number that stands for
it. -/
theorem Denotes.orderKey_ofInt {x : Binary64} {i : Int} (h : x.Denotes i) :
    (ofInt i).orderKey = x.orderKey := by
  obtain ⟨finite, value⟩ := (denotes_iff_orderKey x i).mp h
  have hpos := twoPow_pos 1074
  have size : units x.orderKey.natAbs = i.natAbs * twoPow 1074 := by
    have := congrArg Int.natAbs value
    rw [Int.natAbs_mul, Int.natAbs_natCast] at this
    rw [← this, unitsAt]
    split <;> omega
  -- Only zero has two words, and these stand at one place.
  have sign : x.orderKey < 0 ↔ i < 0 := by
    have scaled : i * (twoPow 1074 : Int) < 0 * twoPow 1074 ↔ i < 0 :=
      Int.mul_lt_mul_right (by omega)
    rw [Int.zero_mul] at scaled
    rw [← unitsAt_neg_iff, value]
    exact scaled
  rw [Binary64.orderKey_ofInt, roundedMagnitude_of_units finite size]
  split
  next negative =>
    have := sign.mpr negative
    omega
  next => omega

theorem Denotes.not_isNaN {x : Binary64} {i : Int} (h : x.Denotes i) : x.isNaN = false := by
  have finite := h.1
  rw [isFinite, decide_eq_true_iff] at finite
  rw [isNaN, decide_eq_false_iff_not]
  omega

/-- Numbers that stand at one place stand for the same integers. -/
theorem Denotes.of_orderKey_eq {x y : Binary64} {i : Int} (h : x.Denotes i)
    (same : x.orderKey = y.orderKey) : y.Denotes i := by
  rw [denotes_iff_orderKey] at h ⊢
  rw [← same]
  exact h

/-- A number stands for at most one integer. -/
theorem Denotes.unique {x : Binary64} {i j : Int} (hi : x.Denotes i) (hj : x.Denotes j) :
    i = j := by
  have hpos := twoPow_pos 1074
  have same : i * (twoPow 1074 : Int) = j * twoPow 1074 := hi.2.symm.trans hj.2
  exact Int.eq_of_mul_eq_mul_right (by omega) same

/-- An integer that is held is rounded to a number that stands for it. -/
theorem holds_iff_denotes_ofInt (i : Int) : Holds i ↔ (ofInt i).Denotes i := by
  constructor
  · rintro ⟨x, h⟩
    exact h.of_orderKey_eq h.orderKey_ofInt.symm
  · intro h
    exact ⟨ofInt i, h⟩

instance (i : Int) : Decidable (Holds i) := decidable_of_iff _ (holds_iff_denotes_ofInt i).symm

/-- The numbers equal to what a held integer is rounded to are those that stand for it. -/
theorem eq_ofInt_iff_denotes {i : Int} (held : Holds i) (x : Binary64) :
    (ofInt i).eq x = true ↔ x.Denotes i := by
  have exact := (holds_iff_denotes_ofInt i).mp held
  constructor
  · intro h
    simp only [eq, Bool.and_eq_true, decide_eq_true_iff] at h
    exact exact.of_orderKey_eq h.2
  · intro h
    rw [eq, exact.not_isNaN, h.not_isNaN, h.orderKey_ofInt]
    simp

/-- The magnitude of an integer in units, with the integer's sign, stands for the integer. -/
theorem denotes_ofMagnitude {i : Int} {m : Nat} (finite : m < infinityMagnitude)
    (size : units m = i.natAbs * twoPow 1074) : (ofMagnitude (decide (i < 0)) m).Denotes i := by
  rw [denotes_iff_orderKey, orderKey_ofMagnitude _ (lt_twoPow_of_finite finite)]
  by_cases negative : i < 0
  · have sign : -(i.natAbs : Int) = i := by omega
    rw [decide_eq_true negative, if_pos rfl, Int.natAbs_neg, Int.natAbs_natCast, unitsAt_neg,
      size, Int.natCast_mul, ← Int.neg_mul, sign]
    exact ⟨finite, rfl⟩
  · have sign : (i.natAbs : Int) = i := by omega
    rw [decide_eq_false negative, if_neg Bool.false_ne_true, Int.natAbs_natCast, unitsAt_natCast,
      size, Int.natCast_mul, sign]
    exact ⟨finite, rfl⟩

/-- A significand of 53 bits under a power of two is held. -/
theorem holds_of_significand {i : Int} {significand scale : Nat} (low : twoPow 52 ≤ significand)
    (high : significand < twoPow 53) (inRange : scale ≤ 2045)
    (h : i.natAbs * twoPow 1074 = significand * twoPow scale) : Holds i := by
  have finite : scale * twoPow 52 + significand < infinityMagnitude := by
    have half : twoPow 53 = 2 * twoPow 52 := rfl
    have bound : (scale + 2) * twoPow 52 ≤ infinityMagnitude :=
      Nat.mul_le_mul_right (twoPow 52) (show scale + 2 ≤ 2047 by omega)
    rw [Nat.add_mul] at bound
    omega
  have size : units (scale * twoPow 52 + significand) = i.natAbs * twoPow 1074 := by
    rw [units_of_le low high, h]
  exact ⟨_, denotes_ofMagnitude finite size⟩

/-- Integers of up to 53 binary digits are held, and so is the first one of 54. -/
theorem holds_of_natAbs_le {i : Int} (h : i.natAbs ≤ twoPow 53) : Holds i := by
  rcases Nat.eq_zero_or_pos i.natAbs with hzero | hpos
  · rw [Int.natAbs_eq_zero.mp hzero]
    decide +kernel
  rcases Nat.lt_or_eq_of_le h with small | large
  · have below : twoPow i.natAbs.log2 ≤ i.natAbs := Nat.log2_self_le (by omega)
    have short : i.natAbs.log2 < 53 := lt_of_twoPow_lt (Nat.lt_of_le_of_lt below small)
    -- All binary digits are leading ones, so none is shifted out.
    have whole : i.natAbs.log2 - 52 = 0 := by omega
    obtain ⟨low, high⟩ := twoPow_shift (Nat.ne_of_gt hpos)
    rw [whole, twoPow_zero, Nat.mul_one] at low high
    have scale : i.natAbs.log2 + 1022 ≤ 2045 := by omega
    have shift : 52 - i.natAbs.log2 + (i.natAbs.log2 + 1022) = 1074 := by omega
    apply holds_of_significand low high scale
    rw [Nat.mul_assoc, ← twoPow_add, shift]
  · have scale : 1075 ≤ 2045 := by decide
    apply holds_of_significand (Nat.le_refl (twoPow 52)) (by decide) scale
    rw [large, ← twoPow_add, ← twoPow_add]

end TreeTable.Numeric.Binary64
