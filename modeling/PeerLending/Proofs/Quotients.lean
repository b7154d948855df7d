import PeerLending.FixedPoint
import Mathlib.Algebra.Order.Floor.Div

/-!
# Rounded quotients of stopped products

`mulDiv x y d r` divides the product `x * y`, stopped at the largest word, by `d`. Write
`P = min (x * y) (2^256 - 1)` for that stopped product. The three roundings are then the floor
`P / d`, the ceiling `P ⌈/⌉ d`, and the floor of `P + d / 2` over `d`, where the sum stops at the
largest word as well; so the half-up quotient is `(P + d / 2) / d` exactly while that sum fits a
word. Wherever it stops, the half-up quotient still lies between the other two, and these differ
by at most one: the ceiling's `+ 1` never wraps, since a quotient by two or more is at most half a
word.

All three roundings are read through one function, `Rounding.quotient`, which is monotone in its
dividend; since the stopped product is monotone in both factors, so is every rounding of
`mulDiv`, and with it every conversion built on it, in its numerator (`mulDiv_rounding_laws`).
A zero divisor gives zero in every rounding.
-/

set_option autoImplicit false

namespace PeerLending

/-! ## 1. The stopped product -/

theorem satProduct_eq_min (x y : Nat) : satProduct x y = min (x * y) (wordSize - 1) := by
  unfold satProduct
  split <;> omega

theorem satProduct_mono {x x' y y' : Nat} (hx : x ≤ x') (hy : y ≤ y') :
    satProduct x y ≤ satProduct x' y' := by
  rw [satProduct_eq_min, satProduct_eq_min]
  exact min_le_min_right _ (Nat.mul_le_mul hx hy)

/-! ## 2. The three roundings on `Nat` -/

/-- The quotient of `n` by `d` in the rounding `r`; the half-up sum stops at the largest word,
as `mulDiv`'s does. -/
def Rounding.quotient : Rounding → Nat → Nat → Nat
  | .down, n, d => n / d
  | .up, n, d => n ⌈/⌉ d
  | .halfUp, n, d => min (n + d / 2) (wordSize - 1) / d

/-- The remainder test of the ceiling: one more than the floor exactly when the division leaves
a remainder. -/
theorem div_add_ite_mod_eq_ceilDiv (n d : Nat) (hd : 0 < d) :
    n / d + (if n % d = 0 then 0 else 1) = n ⌈/⌉ d := by
  have hn := Nat.div_add_mod n d
  have hr := Nat.mod_lt n hd
  rw [Nat.ceilDiv_eq_add_pred_div]
  split
  · next h0 =>
    -- `n` is a multiple of `d`: the added `d - 1` stays below the next multiple
    have e : n + d - 1 = (d - 1) + d * (n / d) := by omega
    rw [e, Nat.add_mul_div_left _ _ hd, Nat.div_eq_of_lt (show d - 1 < d by omega)]
    omega
  · next h0 =>
    -- a remainder `r ≥ 1` carries the added `d - 1` past the next multiple, and no further
    have e : n + d - 1 = (n % d - 1) + d * (n / d + 1) := by
      rw [Nat.mul_add, Nat.mul_one]
      omega
    rw [e, Nat.add_mul_div_left _ _ hd, Nat.div_eq_of_lt (show n % d - 1 < d by omega)]
    omega

theorem ceilDiv_le_div_succ (n d : Nat) : n ⌈/⌉ d ≤ n / d + 1 := by
  rcases Nat.eq_zero_or_pos d with rfl | hd
  · simp
  · rw [← div_add_ite_mod_eq_ceilDiv n d hd]
    split <;> omega

theorem Rounding.quotient_zero_divisor (r : Rounding) (n : Nat) : r.quotient n 0 = 0 := by
  cases r <;> simp [Rounding.quotient]

theorem Rounding.quotient_mono (r : Rounding) (d : Nat) {n n' : Nat} (h : n ≤ n') :
    r.quotient n d ≤ r.quotient n' d := by
  cases r with
  | down => exact Nat.div_le_div_right h
  | up =>
    simp only [Rounding.quotient, Nat.ceilDiv_eq_add_pred_div]
    exact Nat.div_le_div_right (by omega)
  | halfUp =>
    exact Nat.div_le_div_right (min_le_min_right _ (Nat.add_le_add_right h _))

/-- Below the largest word, the half-up quotient lies between the floor and the ceiling, also
where its sum stops: a stopped sum still reaches the dividend and stays below `n + d`. -/
theorem quotient_down_le_halfUp (d : Nat) {n : Nat} (hn : n < wordSize) :
    Rounding.down.quotient n d ≤ Rounding.halfUp.quotient n d :=
  Nat.div_le_div_right (le_min (Nat.le_add_right _ _) (by omega))

theorem quotient_halfUp_le_up (n : Nat) {d : Nat} (hd : 0 < d) :
    Rounding.halfUp.quotient n d ≤ Rounding.up.quotient n d := by
  simp only [Rounding.quotient, Nat.ceilDiv_eq_add_pred_div]
  exact Nat.div_le_div_right (Nat.le_trans (min_le_left _ _) (by omega))

/-! ## 3. The roundings of `mulDiv` -/

/-- `mulDiv` in every rounding is the rounding's quotient of the stopped product. -/
theorem val_mulDiv (x y d : Word) (r : Rounding) :
    (mulDiv x y d r).val = r.quotient (satProduct x.val y.val) d.val := by
  by_cases hd : d.val = 0
  · have h0 : d = 0 := Word.ext hd
    rw [h0, mulDiv_zero_divisor, val_zero, Rounding.quotient_zero_divisor]
  · cases r with
    | down => exact val_mulDiv_down x y d hd
    | up => rw [val_mulDiv_up x y d hd, div_add_ite_mod_eq_ceilDiv _ _ (Nat.pos_of_ne_zero hd)]; rfl
    | halfUp =>
      rw [val_mulDiv_halfUp x y d hd]
      simp only [Rounding.quotient]
      congr 1
      split <;> omega

section MulDiv

variable {x x' y y' d : Word}

/-- Every rounding of `mulDiv` is monotone in both factors, whatever the divisor. -/
theorem mulDiv_mono (r : Rounding) (hx : x ≤ x') (hy : y ≤ y') :
    mulDiv x y d r ≤ mulDiv x' y' d r := by
  rw [Word.le_iff_val_le, val_mulDiv, val_mulDiv]
  exact Rounding.quotient_mono r d.val (satProduct_mono hx hy)

theorem mulDiv_down_le_halfUp : mulDiv x y d .down ≤ mulDiv x y d .halfUp := by
  rw [Word.le_iff_val_le, val_mulDiv, val_mulDiv]
  exact quotient_down_le_halfUp d.val (satProduct_lt x.val y.val)

theorem mulDiv_halfUp_le_up (hd : d.val ≠ 0) : mulDiv x y d .halfUp ≤ mulDiv x y d .up := by
  rw [Word.le_iff_val_le, val_mulDiv, val_mulDiv]
  exact quotient_halfUp_le_up _ (Nat.pos_of_ne_zero hd)

theorem val_mulDiv_up_le_succ : (mulDiv x y d .up).val ≤ (mulDiv x y d .down).val + 1 := by
  rw [val_mulDiv, val_mulDiv]
  exact ceilDiv_le_div_succ _ _

end MulDiv

/-! ## 4. The laws together -/

/-- The laws of `mulDiv`, with `P = min (x * y) (2^256 - 1)` the stopped product: a zero divisor
gives zero; otherwise rounding down is `P / d`, rounding up `P ⌈/⌉ d`, and rounding half up
`(P + d / 2) / d` while that sum fits a word, the three in order and the outer two at most one
apart. Every rounding is monotone in both factors for every divisor, so every conversion built on
`mulDiv` is monotone in its numerator. -/
theorem mulDiv_rounding_laws :
    (∀ (x y : Word) (r : Rounding), mulDiv x y 0 r = 0) ∧
    (∀ x y d : Word, d.val ≠ 0 →
      (mulDiv x y d .down).val = min (x.val * y.val) (wordSize - 1) / d.val ∧
      (mulDiv x y d .up).val = min (x.val * y.val) (wordSize - 1) ⌈/⌉ d.val ∧
      (min (x.val * y.val) (wordSize - 1) + d.val / 2 < wordSize →
        (mulDiv x y d .halfUp).val = (min (x.val * y.val) (wordSize - 1) + d.val / 2) / d.val) ∧
      mulDiv x y d .down ≤ mulDiv x y d .halfUp ∧ mulDiv x y d .halfUp ≤ mulDiv x y d .up ∧
      (mulDiv x y d .up).val ≤ (mulDiv x y d .down).val + 1) ∧
    (∀ (x x' y y' d : Word) (r : Rounding), x ≤ x' → y ≤ y' →
      mulDiv x y d r ≤ mulDiv x' y' d r) ∧
    (∀ x x' y d : Word, x ≤ x' →
      mulDivDown x y d ≤ mulDivDown x' y d ∧ mulDivUp x y d ≤ mulDivUp x' y d ∧
      rayMul x y ≤ rayMul x' y ∧ rayMul y x ≤ rayMul y x' ∧
      rayDiv x y ≤ rayDiv x' y ∧ rayDivUp x y ≤ rayDivUp x' y ∧
      wadDivDown x y ≤ wadDivDown x' y ∧
      percentMul x y ≤ percentMul x' y ∧ percentMul y x ≤ percentMul y x' ∧
      percentMulDown x y ≤ percentMulDown x' y ∧ percentMulDown y x ≤ percentMulDown y x' ∧
      percentDiv x y ≤ percentDiv x' y ∧ percentDivDown x y ≤ percentDivDown x' y) := by
  refine ⟨mulDiv_zero_divisor, fun x y d hd => ?_, fun _ _ _ _ _ r hx hy => mulDiv_mono r hx hy,
    fun x x' y d h => ?_⟩
  · have hdiv : ∀ r, (mulDiv x y d r).val =
        r.quotient (min (x.val * y.val) (wordSize - 1)) d.val := fun r => by
      rw [val_mulDiv, satProduct_eq_min]
    refine ⟨hdiv .down, hdiv .up, fun hfit => ?_, mulDiv_down_le_halfUp, mulDiv_halfUp_le_up hd,
      val_mulDiv_up_le_succ⟩
    -- below the top of the word the stopped sum is the sum itself
    rw [hdiv .halfUp, Rounding.quotient, min_eq_left (by omega)]
  · -- each conversion is `mulDiv` with the numerator among its two factors
    have hy : y ≤ y := Nat.le_refl y.val
    exact ⟨mulDiv_mono _ h hy, mulDiv_mono _ h hy, mulDiv_mono _ h hy, mulDiv_mono _ hy h,
      mulDiv_mono _ h (Nat.le_refl _), mulDiv_mono _ h (Nat.le_refl _),
      mulDiv_mono _ h (Nat.le_refl _), mulDiv_mono _ h hy, mulDiv_mono _ hy h, mulDiv_mono _ h hy,
      mulDiv_mono _ hy h, mulDiv_mono _ h (Nat.le_refl _), mulDiv_mono _ h (Nat.le_refl _)⟩

end PeerLending
