import PeerLending.Proofs.Conservation

/-!
# Interest factors

The pool ages its supply index by the linear factor and its borrow index by the compounded one
(`PeerLending.Interest`), computed with the machine's wrapping `+` and `*` and with products that
stop at the largest word. On the pool's domain, rates below `rateBound` (`10^30` ray a year) and
elapsed times below `timeBound` (`2^64` seconds), no operation of either factor leaves the word:
each factor is the value of its formula over the natural numbers (`val_linearInterest`,
`val_compoundedInterest`).

Everything else is proved on `Nat`. Both factors are at least one ray, they grow with the time and
with the rate, and the linear factor is at most the compounded one. The cubic term multiplies by a
`t - 2` that stops at zero, so it vanishes at one and at two seconds and the compounded factor
grows through those cases as well.

It follows that aging pool indexes of at most `2^128` never lowers them and is monotone in the
current time, and that the yearly yield of a rate grows with the rate: `interest_factors_monotone`
puts these together.
-/

set_option autoImplicit false

namespace PeerLending

/-! ## 1. Rounded products -/

theorem wordSize_eq :
    wordSize = 115792089237316195423570985008687907853269984665640564039457584007913129639936 := by
  decide

section Products

variable {x y z : Word}

theorem rayMul_comm (x y : Word) : rayMul x y = rayMul y x := by
  simp only [rayMul, mulDiv, Word.satMul, Nat.mul_comm]

theorem rayMul_mono_right (h : y ≤ z) : rayMul x y ≤ rayMul x z :=
  mulDiv_mono .halfUp (Nat.le_refl x.val) h

theorem val_rayMul_of_lt (h : x.val * y.val + ray.val / 2 < wordSize) :
    (rayMul x y).val = (x.val * y.val + ray.val / 2) / ray.val := by
  have hsat : satProduct x.val y.val = x.val * y.val := if_pos (by omega)
  rw [rayMul, val_mulDiv_halfUp _ _ _ (by decide), hsat, if_pos h]

/-- A factor of at least one ray never lowers a value whose product with one ray fits in a word;
a product that saturates stops above it. -/
theorem le_rayMul_of_ray_le (hy : ray ≤ y) (hx : x.val * ray.val < wordSize) :
    x ≤ rayMul x y := by
  have hy' : ray.val ≤ y.val := hy
  have hsat : x.val * ray.val ≤ satProduct x.val y.val := by
    unfold satProduct
    split
    · exact Nat.mul_le_mul_left _ hy'
    · omega
  rw [Word.le_iff_val_le, rayMul, val_mulDiv_halfUp _ _ _ (by decide),
    Nat.le_div_iff_mul_le (by decide)]
  generalize satProduct x.val y.val = p at *
  generalize x.val * ray.val = q at *
  split <;> omega

theorem ray_le_rayMul (hx : ray ≤ x) (hy : ray ≤ y) : ray ≤ rayMul x y := by
  have hprod : ray.val * ray.val ≤ x.val * y.val := Nat.mul_le_mul hx hy
  have hsat : ray.val * ray.val ≤ satProduct x.val y.val := by
    unfold satProduct
    split
    · exact hprod
    · decide
  rw [Word.le_iff_val_le, rayMul, val_mulDiv_halfUp _ _ _ (by decide),
    Nat.le_div_iff_mul_le (by decide)]
  have hroom : ray.val * ray.val < wordSize := by decide
  generalize satProduct x.val y.val = p at *
  split <;> omega

end Products

/-! ## 2. Word operations that stay in range -/

section Steps

variable {a b : Word} {x y n : Nat}

theorem val_ofNat_of_lt (h : n < wordSize) : (Word.ofNat n).val = n := by
  rw [Word.val_ofNat, Nat.mod_eq_of_lt h]

theorem val_mul_of_le (ha : a.val ≤ x) (hb : b.val ≤ y) (hfit : x * y < wordSize) :
    (a * b).val = a.val * b.val := by
  rw [Word.val_mul]
  exact Nat.mod_eq_of_lt (Nat.lt_of_le_of_lt (Nat.mul_le_mul ha hb) hfit)

/-- A rounded product of words bounded by a product that fits is the rounded product of the
values. -/
theorem val_rayMul_of_le (ha : a.val ≤ x) (hb : b.val ≤ y) (hfit : x * y + ray.val / 2 < wordSize) :
    (rayMul a b).val = (a.val * b.val + ray.val / 2) / ray.val :=
  val_rayMul_of_lt (Nat.lt_of_le_of_lt (Nat.add_le_add_right (Nat.mul_le_mul ha hb) _) hfit)

/-- The bound below which a value's share of at most one ray is rounded without saturating,
`2^166`. -/
def shareBound : Nat := Nat.pow 2 166

/-- A share of at most one ray of a value below `shareBound` is the rounded product. -/
theorem val_rayMul_of_share (hm : a.val ≤ ray.val) (hg : b.val < shareBound) :
    (rayMul a b).val = (a.val * b.val + ray.val / 2) / ray.val :=
  val_rayMul_of_le hm (Nat.le_of_lt hg) (by decide)

end Steps

/-! ## 3. The factors over the natural numbers -/

/-- The bound below which pool rates are kept, `10^30` (ray per year). -/
def rateBound : Nat := 1000000000000000000000000000000

/-- The bound below which times are kept, `2^64` seconds. -/
def timeBound : Nat := 18446744073709551616

/-- The linear factor over the natural numbers. -/
def linearValue (r t : Nat) : Nat := ray.val + r * t / secondsPerYear

/-- The squared rate per second (ray), rounded as the compounded factor rounds it. -/
def squaredRate (r : Nat) : Nat :=
  (r * r + ray.val / 2) / ray.val / (secondsPerYear * secondsPerYear)

/-- The cubed rate per second (ray), from the squared one. -/
def cubedRate (r : Nat) : Nat := (squaredRate r * r + ray.val / 2) / ray.val / secondsPerYear

/-- The compounded factor over the natural numbers; the cubic term's `t - 2` stops at zero. -/
def compoundedValue (r t : Nat) : Nat :=
  if t = 0 then ray.val
  else
    ray.val + r * t / secondsPerYear + t * (t - 1) * squaredRate r / 2 +
      t * (t - 1) * (t - 2) * cubedRate r / 6

section Values

variable {r r' t t' : Nat}

theorem linearValue_mono (hr : r ≤ r') (ht : t ≤ t') : linearValue r t ≤ linearValue r' t' :=
  Nat.add_le_add_left (Nat.div_le_div_right (Nat.mul_le_mul hr ht)) _

theorem squaredRate_mono (hr : r ≤ r') : squaredRate r ≤ squaredRate r' :=
  Nat.div_le_div_right (Nat.div_le_div_right (Nat.add_le_add_right (Nat.mul_le_mul hr hr) _))

theorem cubedRate_mono (hr : r ≤ r') : cubedRate r ≤ cubedRate r' :=
  Nat.div_le_div_right (Nat.div_le_div_right
    (Nat.add_le_add_right (Nat.mul_le_mul (squaredRate_mono hr) hr) _))

theorem ray_le_compoundedValue (r t : Nat) : ray.val ≤ compoundedValue r t := by
  unfold compoundedValue
  split
  · exact Nat.le_refl _
  · exact Nat.le_trans (Nat.le_add_right _ _)
      (Nat.le_trans (Nat.le_add_right _ _) (Nat.le_add_right _ _))

theorem compoundedValue_mono (hr : r ≤ r') (ht : t ≤ t') :
    compoundedValue r t ≤ compoundedValue r' t' := by
  by_cases h0 : t = 0
  · rw [compoundedValue, if_pos h0]
    exact ray_le_compoundedValue r' t'
  · unfold compoundedValue
    rw [if_neg h0, if_neg (by omega)]
    -- term by term; `t - 2` stops at zero, and so grows with `t` too
    have hpair : t * (t - 1) ≤ t' * (t' - 1) := Nat.mul_le_mul ht (Nat.sub_le_sub_right ht 1)
    have hlinear : r * t / secondsPerYear ≤ r' * t' / secondsPerYear :=
      Nat.div_le_div_right (Nat.mul_le_mul hr ht)
    have hsecond : t * (t - 1) * squaredRate r / 2 ≤ t' * (t' - 1) * squaredRate r' / 2 :=
      Nat.div_le_div_right (Nat.mul_le_mul hpair (squaredRate_mono hr))
    have hthird : t * (t - 1) * (t - 2) * cubedRate r / 6 ≤
        t' * (t' - 1) * (t' - 2) * cubedRate r' / 6 :=
      Nat.div_le_div_right
        (Nat.mul_le_mul (Nat.mul_le_mul hpair (Nat.sub_le_sub_right ht 2)) (cubedRate_mono hr))
    exact Nat.add_le_add (Nat.add_le_add (Nat.add_le_add_left hlinear _) hsecond) hthird

theorem linearValue_le_compoundedValue (r t : Nat) : linearValue r t ≤ compoundedValue r t := by
  unfold linearValue compoundedValue
  split
  · next h => simp [h]
  · exact Nat.le_trans (Nat.le_add_right _ _) (Nat.le_add_right _ _)

end Values

/-! ## 4. The machine computes the formulas

Below `rateBound` and `timeBound` every operation of the two factors is bounded by its value at
the largest rate and time, and those values fit in a word with room to spare. -/

section Factors

variable {rate : Word} {elapsed : Nat}

/-- The largest rate and time of the domain. -/
theorem rate_le_max (hr : rate.val < rateBound) : rate.val ≤ 999999999999999999999999999999 := by
  unfold rateBound at hr
  omega

theorem time_le_max (ht : elapsed < timeBound) : elapsed ≤ 18446744073709551615 := by
  unfold timeBound at ht
  omega

theorem val_year : (Word.ofNat secondsPerYear).val = secondsPerYear := val_ofNat_of_lt (by decide)

theorem val_time (ht : elapsed < timeBound) : (Word.ofNat elapsed).val = elapsed :=
  val_ofNat_of_lt (Nat.lt_of_le_of_lt (time_le_max ht) (by decide))

theorem val_linearInterest (hr : rate.val < rateBound) (ht : elapsed < timeBound) :
    (linearInterest rate elapsed).val = linearValue rate.val elapsed := by
  have hprod : rate.val * elapsed ≤ 999999999999999999999999999999 * 18446744073709551615 :=
    Nat.mul_le_mul (rate_le_max hr) (time_le_max ht)
  have hmul : (rate.satMul (Word.ofNat elapsed)).val = rate.val * elapsed := by
    rw [Word.val_satMul, val_time ht, if_pos (Nat.lt_of_le_of_lt hprod (by decide))]
  have hq : (rate.satMul (Word.ofNat elapsed) / Word.ofNat secondsPerYear).val =
      rate.val * elapsed / secondsPerYear := by
    rw [Word.val_div, hmul, val_year]
  have hfit : ray.val + rate.val * elapsed / secondsPerYear < wordSize :=
    Nat.lt_of_le_of_lt (Nat.add_le_add_left (Nat.le_trans (Nat.div_le_self _ _) hprod) _)
      (by decide)
  rw [linearInterest, Word.val_add_of_lt (by rw [hq]; exact hfit), hq]
  rfl

/-- The squared rate per second as the machine computes it. -/
theorem val_squaredRate (hr : rate.val < rateBound) :
    (rayMul rate rate / (Word.ofNat secondsPerYear * Word.ofNat secondsPerYear)).val =
      squaredRate rate.val := by
  have hsq := val_rayMul_of_le (rate_le_max hr) (rate_le_max hr) (by decide)
  rw [Word.val_div, hsq]
  rfl

theorem squaredRate_le (hr : rate.val < rateBound) : squaredRate rate.val ≤ 1005510907653620830 :=
  Nat.le_trans (squaredRate_mono (rate_le_max hr)) (by decide)

theorem cubedRate_le (hr : rate.val < rateBound) : cubedRate rate.val ≤ 31884541719102 :=
  Nat.le_trans (cubedRate_mono (rate_le_max hr)) (by decide)

/-- The cubed rate per second as the machine computes it. -/
theorem val_cubedRate (hr : rate.val < rateBound) :
    (rayMul (rayMul rate rate / (Word.ofNat secondsPerYear * Word.ofNat secondsPerYear)) rate /
      Word.ofNat secondsPerYear).val = cubedRate rate.val := by
  have hcube := val_rayMul_of_le ((val_squaredRate hr).symm ▸ squaredRate_le hr) (rate_le_max hr)
    (by decide)
  rw [Word.val_div, hcube, val_squaredRate hr, val_year]
  rfl

theorem val_compoundedInterest (hr : rate.val < rateBound) (ht : elapsed < timeBound) :
    (compoundedInterest rate elapsed).val = compoundedValue rate.val elapsed := by
  unfold compoundedInterest compoundedValue
  split
  · rfl
  · dsimp only
    have htime := time_le_max ht
    have ht0 := val_time ht
    have ht1 : (Word.ofNat (elapsed - 1)).val = elapsed - 1 :=
      val_time (Nat.lt_of_le_of_lt (Nat.sub_le _ _) ht)
    have ht2 : (Word.ofNat (elapsed - 2)).val = elapsed - 2 :=
      val_time (Nat.lt_of_le_of_lt (Nat.sub_le _ _) ht)
    have hsq := val_squaredRate hr
    have hcube := val_cubedRate hr
    generalize rayMul rate rate / (Word.ofNat secondsPerYear * Word.ofNat secondsPerYear) = b2 at *
    generalize rayMul b2 rate / Word.ofNat secondsPerYear = b3 at *
    -- the linear term
    have hrt : (rate * Word.ofNat elapsed).val = rate.val * elapsed := by
      rw [val_mul_of_le (rate_le_max hr) (ht0 ▸ htime) (by decide), ht0]
    have ha : (rate * Word.ofNat elapsed / Word.ofNat secondsPerYear).val =
        rate.val * elapsed / secondsPerYear := by
      rw [Word.val_div, hrt, val_year]
    -- the quadratic term
    have hpair : (Word.ofNat elapsed * Word.ofNat (elapsed - 1)).val = elapsed * (elapsed - 1) := by
      rw [val_mul_of_le (ht0 ▸ htime) (ht1 ▸ Nat.le_trans (Nat.sub_le _ _) htime) (by decide),
        ht0, ht1]
    have hpairLe : elapsed * (elapsed - 1) ≤ 18446744073709551615 * 18446744073709551615 :=
      Nat.mul_le_mul htime (Nat.le_trans (Nat.sub_le _ _) htime)
    have hb : (Word.ofNat elapsed * Word.ofNat (elapsed - 1) * b2 / 2).val =
        elapsed * (elapsed - 1) * squaredRate rate.val / 2 := by
      rw [Word.val_div, val_mul_of_le (hpair ▸ hpairLe) (hsq ▸ squaredRate_le hr) (by decide),
        hpair, hsq]
      rfl
    -- the cubic term
    have htriple : (Word.ofNat elapsed * Word.ofNat (elapsed - 1) * Word.ofNat (elapsed - 2)).val =
        elapsed * (elapsed - 1) * (elapsed - 2) := by
      rw [val_mul_of_le (hpair ▸ hpairLe) (ht2 ▸ Nat.le_trans (Nat.sub_le _ _) htime) (by decide),
        hpair, ht2]
    have htripleLe : elapsed * (elapsed - 1) * (elapsed - 2) ≤
        18446744073709551615 * 18446744073709551615 * 18446744073709551615 :=
      Nat.mul_le_mul hpairLe (Nat.le_trans (Nat.sub_le _ _) htime)
    have hc : (Word.ofNat elapsed * Word.ofNat (elapsed - 1) * Word.ofNat (elapsed - 2) * b3 / 6).val =
        elapsed * (elapsed - 1) * (elapsed - 2) * cubedRate rate.val / 6 := by
      rw [Word.val_div, val_mul_of_le (htriple ▸ htripleLe) (hcube ▸ cubedRate_le hr) (by decide),
        htriple, hcube]
      rfl
    -- the three terms together stay far below the word's range
    have haLe : rate.val * elapsed / secondsPerYear ≤
        999999999999999999999999999999 * 18446744073709551615 :=
      Nat.le_trans (Nat.div_le_self _ _) (Nat.mul_le_mul (rate_le_max hr) htime)
    have hbLe : elapsed * (elapsed - 1) * squaredRate rate.val / 2 ≤
        18446744073709551615 * 18446744073709551615 * 1005510907653620830 :=
      Nat.le_trans (Nat.div_le_self _ _) (Nat.mul_le_mul hpairLe (squaredRate_le hr))
    have hcLe : elapsed * (elapsed - 1) * (elapsed - 2) * cubedRate rate.val / 6 ≤
        18446744073709551615 * 18446744073709551615 * 18446744073709551615 * 31884541719102 :=
      Nat.le_trans (Nat.div_le_self _ _) (Nat.mul_le_mul htripleLe (cubedRate_le hr))
    rw [← ha, ← hb, ← hc] at *
    have hR : ray.val = 1000000000000000000000000000 := rfl
    have hW := wordSize_eq
    generalize rate * Word.ofNat elapsed / Word.ofNat secondsPerYear = a at *
    generalize Word.ofNat elapsed * Word.ofNat (elapsed - 1) * b2 / 2 = b at *
    generalize Word.ofNat elapsed * Word.ofNat (elapsed - 1) * Word.ofNat (elapsed - 2) * b3 / 6 = c at *
    have h1 : ray.val + a.val < wordSize := by omega
    have h2 : (ray + a).val + b.val < wordSize := by
      rw [Word.val_add_of_lt h1]
      omega
    have h3 : (ray + a + b).val + c.val < wordSize := by
      rw [Word.val_add_of_lt h2, Word.val_add_of_lt h1]
      omega
    rw [Word.val_add_of_lt h3, Word.val_add_of_lt h2, Word.val_add_of_lt h1]

theorem ray_le_linearInterest (rate : Word) (elapsed : Nat) :
    ray ≤ linearInterest rate elapsed := by
  have hq : (rate.satMul (Word.ofNat elapsed) / Word.ofNat secondsPerYear).val ≤
      (wordSize - 1) / 31536000 := by
    rw [Word.val_div, val_year]
    exact Nat.div_le_div_right (Nat.le_pred_of_lt (Word.isLt _))
  have hroom : ray.val + (wordSize - 1) / 31536000 < wordSize := by decide
  rw [Word.le_iff_val_le, linearInterest, Word.val_add_of_lt (by omega)]
  exact Nat.le_add_right _ _

/-- Below `10^30` per year and over less than `2^64` seconds, the compounded factor is at least
one ray. -/
theorem ray_le_compoundedInterest (hr : rate.val < rateBound) (ht : elapsed < timeBound) :
    ray ≤ compoundedInterest rate elapsed := by
  rw [Word.le_iff_val_le, val_compoundedInterest hr ht]
  exact ray_le_compoundedValue _ _

end Factors

/-! ## 5. Aged pool indexes and yields -/

namespace PoolIndexes

/-- Both indexes at most those of another. -/
instance : LE PoolIndexes := ⟨fun a b => a.supplyIndex ≤ b.supplyIndex ∧ a.borrowIndex ≤ b.borrowIndex⟩

variable {last : PoolIndexes} {lastUpdate now now' : Nat} {supplyRate borrowRate : Word}

theorem age_of_lt (h : lastUpdate < now) :
    last.age lastUpdate supplyRate borrowRate now =
      ⟨rayMul (linearInterest supplyRate (now - lastUpdate)) last.supplyIndex,
       rayMul (compoundedInterest borrowRate (now - lastUpdate)) last.borrowIndex⟩ := by
  unfold age
  rw [if_neg (Nat.not_le.2 h)]

theorem mul_ray_lt_of_le {i : Word} (h : i.val ≤ Nat.pow 2 128) : i.val * ray.val < wordSize :=
  Nat.lt_of_le_of_lt (Nat.mul_le_mul_right _ h) (by decide)

/-- Aging never lowers indexes of at most `2^128`. -/
theorem le_age (hs : last.supplyIndex.val ≤ Nat.pow 2 128) (hb : last.borrowIndex.val ≤ Nat.pow 2 128)
    (hbr : borrowRate.val < rateBound) (hnow : now < timeBound) :
    last ≤ last.age lastUpdate supplyRate borrowRate now := by
  by_cases h : now ≤ lastUpdate
  · rw [age_of_le _ _ _ _ h]
    exact ⟨Nat.le_refl _, Nat.le_refl _⟩
  · rw [age_of_lt (Nat.lt_of_not_le h)]
    have helapsed : now - lastUpdate < timeBound := Nat.lt_of_le_of_lt (Nat.sub_le _ _) hnow
    refine ⟨?_, ?_⟩ <;> dsimp only
    · rw [rayMul_comm]
      exact le_rayMul_of_ray_le (ray_le_linearInterest _ _) (mul_ray_lt_of_le hs)
    · rw [rayMul_comm]
      exact le_rayMul_of_ray_le (ray_le_compoundedInterest hbr helapsed) (mul_ray_lt_of_le hb)

/-- Aging to a later time gives indexes at least as large. -/
theorem age_mono (hsr : supplyRate.val < rateBound) (hbr : borrowRate.val < rateBound)
    (hs : last.supplyIndex.val ≤ Nat.pow 2 128) (hb : last.borrowIndex.val ≤ Nat.pow 2 128)
    (hle : now ≤ now') (hnow' : now' < timeBound) :
    last.age lastUpdate supplyRate borrowRate now ≤ last.age lastUpdate supplyRate borrowRate now' := by
  by_cases h : now ≤ lastUpdate
  · rw [age_of_le _ _ _ _ h]
    exact le_age hs hb hbr hnow'
  · rw [age_of_lt (Nat.lt_of_not_le h), age_of_lt (by omega)]
    -- both factors grow with the elapsed time, and a rounded product with its factor
    have ht : now - lastUpdate ≤ now' - lastUpdate := Nat.sub_le_sub_right hle _
    have ht' : now' - lastUpdate < timeBound := by omega
    have ht0 : now - lastUpdate < timeBound := Nat.lt_of_le_of_lt ht ht'
    refine ⟨rayMul_mono ?_, rayMul_mono ?_⟩
    · rw [Word.le_iff_val_le, val_linearInterest hsr ht0, val_linearInterest hsr ht']
      exact linearValue_mono (Nat.le_refl _) ht
    · rw [Word.le_iff_val_le, val_compoundedInterest hbr ht0, val_compoundedInterest hbr ht']
      exact compoundedValue_mono (Nat.le_refl _) ht

end PoolIndexes

theorem rayToPercent_mono {x y : Word} (h : x ≤ y) : rayToPercent x ≤ rayToPercent y := by
  have h' : x.val ≤ y.val := h
  unfold rayToPercent
  rw [Word.le_iff_val_le, Word.val_div, Word.val_div, Word.val_satAdd, Word.val_satAdd]
  apply Nat.div_le_div_right
  split <;> split <;> omega

section Yield

variable {r r' : Word}

/-- The growth of a rate over a year, less the one ray it starts from: the subtraction does not
wrap. -/
theorem val_yearlyGrowth (hr : r.val < rateBound) :
    (compoundedInterest r secondsPerYear - ray).val =
      compoundedValue r.val secondsPerYear - ray.val := by
  rw [Word.val_sub_of_le (ray_le_compoundedInterest hr (by decide)),
    val_compoundedInterest hr (by decide)]

theorem rateToApy_mono (h : r ≤ r') (hr' : r'.val < rateBound) : rateToApy r ≤ rateToApy r' := by
  have hr : r.val < rateBound := Nat.lt_of_le_of_lt h hr'
  apply rayToPercent_mono
  rw [Word.le_iff_val_le, val_yearlyGrowth hr, val_yearlyGrowth hr']
  exact Nat.sub_le_sub_right (compoundedValue_mono h (Nat.le_refl _)) _

end Yield

/-! ## 6. Interest factors are monotone and do not wrap -/

/-- Interest factors are monotone and free of wrap-around on the pool's domain. Below `10^30` ray
a year and `2^64` seconds both factors are the values of their formulas over the natural numbers;
the linear factor is at least one ray and at most the compounded one, and both grow with the time
and with the rate. Aging pool indexes of at most `2^128` to a time below `2^64` never lowers them
and is monotone in the time, and the yearly yield grows with the rate, the one ray it subtracts
never wrapping. -/
theorem interest_factors_monotone :
    (∀ (r r' : Word) (t t' : Nat), r ≤ r' → r'.val < rateBound → t ≤ t' → t' < timeBound →
      (linearInterest r t).val = linearValue r.val t ∧
      (compoundedInterest r t).val = compoundedValue r.val t ∧
      ray ≤ linearInterest r t ∧ linearInterest r t ≤ linearInterest r' t' ∧
      linearInterest r t ≤ compoundedInterest r t ∧
      compoundedInterest r t ≤ compoundedInterest r' t') ∧
    (∀ (last : PoolIndexes) (lastUpdate : Nat) (supplyRate borrowRate : Word) (now now' : Nat),
      supplyRate.val < rateBound → borrowRate.val < rateBound →
      last.supplyIndex.val ≤ Nat.pow 2 128 → last.borrowIndex.val ≤ Nat.pow 2 128 →
      now ≤ now' → now' < timeBound →
      last ≤ last.age lastUpdate supplyRate borrowRate now ∧
        last.age lastUpdate supplyRate borrowRate now ≤
          last.age lastUpdate supplyRate borrowRate now') ∧
    (∀ (r r' : Word), r ≤ r' → r'.val < rateBound →
      (compoundedInterest r secondsPerYear - ray).val =
          compoundedValue r.val secondsPerYear - ray.val ∧
        rateToApy r ≤ rateToApy r') := by
  refine ⟨?factors, ?pool, ?yield⟩
  case factors =>
    intro r r' t t' hr hr' ht ht'
    have hr0 : r.val < rateBound := Nat.lt_of_le_of_lt hr hr'
    have ht0 : t < timeBound := Nat.lt_of_le_of_lt ht ht'
    have hlin := val_linearInterest hr0 ht0
    have hcomp := val_compoundedInterest hr0 ht0
    refine ⟨hlin, hcomp, ray_le_linearInterest r t, ?_, ?_, ?_⟩
    · rw [Word.le_iff_val_le, hlin, val_linearInterest hr' ht']
      exact linearValue_mono hr ht
    · rw [Word.le_iff_val_le, hlin, hcomp]
      exact linearValue_le_compoundedValue _ _
    · rw [Word.le_iff_val_le, hcomp, val_compoundedInterest hr' ht']
      exact compoundedValue_mono hr ht
  case pool =>
    intro last lastUpdate supplyRate borrowRate now now' hsr hbr hs hb hle hnow'
    exact ⟨PoolIndexes.le_age hs hb hbr (Nat.lt_of_le_of_lt hle hnow'),
      PoolIndexes.age_mono hsr hbr hs hb hle hnow'⟩
  case yield =>
    intro r r' hr hr'
    exact ⟨val_yearlyGrowth (Nat.lt_of_le_of_lt hr hr'), rateToApy_mono hr hr'⟩

/-- Three and five percent a year over a thousand seconds and over a year; pool indexes of one
ray last updated at 1000, aged to 2000 and to a year later. -/
theorem pool_rates_grow_over_a_year :
    ((30000000000000000000000000 : Word) ≤ 50000000000000000000000000 ∧
      (50000000000000000000000000 : Word).val < rateBound ∧ 1000 ≤ secondsPerYear ∧
      secondsPerYear < timeBound ∧
      (linearInterest 30000000000000000000000000 1000).val =
        linearValue (30000000000000000000000000 : Word).val 1000 ∧
      (compoundedInterest 30000000000000000000000000 1000).val =
        compoundedValue (30000000000000000000000000 : Word).val 1000 ∧
      ray ≤ linearInterest 30000000000000000000000000 1000 ∧
      linearInterest 30000000000000000000000000 1000 ≤
        linearInterest 50000000000000000000000000 secondsPerYear ∧
      linearInterest 30000000000000000000000000 1000 ≤
        compoundedInterest 30000000000000000000000000 1000 ∧
      compoundedInterest 30000000000000000000000000 1000 ≤
        compoundedInterest 50000000000000000000000000 secondsPerYear) ∧
    ((30000000000000000000000000 : Word).val < rateBound ∧
      (50000000000000000000000000 : Word).val < rateBound ∧
      (⟨ray, ray⟩ : PoolIndexes).supplyIndex.val ≤ Nat.pow 2 128 ∧
      (⟨ray, ray⟩ : PoolIndexes).borrowIndex.val ≤ Nat.pow 2 128 ∧
      2000 ≤ 31537000 ∧ 31537000 < timeBound ∧
      (⟨ray, ray⟩ : PoolIndexes) ≤
        (⟨ray, ray⟩ : PoolIndexes).age 1000 30000000000000000000000000 50000000000000000000000000 2000 ∧
      (⟨ray, ray⟩ : PoolIndexes).age 1000 30000000000000000000000000 50000000000000000000000000 2000 ≤
        (⟨ray, ray⟩ : PoolIndexes).age 1000 30000000000000000000000000 50000000000000000000000000
          31537000) ∧
    ((30000000000000000000000000 : Word) ≤ 50000000000000000000000000 ∧
      (50000000000000000000000000 : Word).val < rateBound ∧
      (compoundedInterest 30000000000000000000000000 secondsPerYear - ray).val =
        compoundedValue (30000000000000000000000000 : Word).val secondsPerYear - ray.val ∧
      rateToApy 30000000000000000000000000 ≤ rateToApy 50000000000000000000000000) := by
  have hr : (30000000000000000000000000 : Word) ≤ 50000000000000000000000000 := by decide
  have hr' : (50000000000000000000000000 : Word).val < rateBound := by decide
  have hr0 : (30000000000000000000000000 : Word).val < rateBound := by decide
  have ht : 1000 ≤ secondsPerYear := by decide
  have ht' : secondsPerYear < timeBound := by decide
  have hidx : (⟨ray, ray⟩ : PoolIndexes).supplyIndex.val ≤ Nat.pow 2 128 := by decide
  exact ⟨⟨hr, hr', ht, ht', interest_factors_monotone.1 _ _ _ _ hr hr' ht ht'⟩,
    ⟨hr0, hr', hidx, hidx, by decide, by decide,
      interest_factors_monotone.2.1 _ _ _ _ _ _ hr0 hr' hidx hidx (by decide) (by decide)⟩,
    ⟨hr, hr', interest_factors_monotone.2.2 _ _ hr hr'⟩⟩

end PeerLending
