import PeerLending.Proofs.Arith
import PeerLending.Simulation.Step

/-!
# Native amounts and scaled balances

Balances are kept scaled by an index: a native amount `x` enters a balance as `rayDiv x i`, and
a scaled balance `s` is worth `rayMul s i`. Both round half up, so an amount added to a balance
and read back is the amount only to within a rounding error, and the error grows with the index:
at an index of `i`, one scaled unit is worth `i / ray` native units.

This module bounds the error once. A scaled amount `r` *stands for* a native amount `x` at index
`i` (`ScaledOf`) when `r * i` is `x * ray` to within one index. `rayDiv` gives such an amount, and
so does the part that `removeScaled` takes out of a balance worth at least `x`. Adding to a
balance, or taking out of it, an amount that stands for `x` moves its worth by `x`, to within
`roundingError i` (`near_rayMul_add`, `near_rayMul_sub`).

All this holds while nothing saturates: balances and amounts below `valueBound`, indexes below
`indexBound`, so that every product stays well inside a word.
-/

set_option autoImplicit false

namespace PeerLending

/-! ## 1. Nearness -/

/-- Two integers within `e` of each other. -/
def Near (x y e : Int) : Prop := x ≤ y + e ∧ y ≤ x + e

namespace Near

variable {x y z x' y' e e' : Int}

theorem refl (x : Int) {e : Int} (he : 0 ≤ e) : Near x x e := by
  unfold Near
  omega

theorem of_eq (h : x = y) (he : 0 ≤ e) : Near x y e := h ▸ refl x he

theorem symm (h : Near x y e) : Near y x e := by
  unfold Near at *
  omega

theorem trans (h : Near x y e) (h' : Near y z e') : Near x z (e + e') := by
  unfold Near at *
  omega

theorem add (h : Near x y e) (h' : Near x' y' e') : Near (x + x') (y + y') (e + e') := by
  unfold Near at *
  omega

theorem mono (h : Near x y e) (he : e ≤ e') : Near x y e' := by
  unfold Near at *
  omega

end Near

/-! ## 2. Conversions in range -/

/-- The bound below which balances and amounts are kept. -/
def valueBound : Nat := Nat.pow 2 140

/-- The bound below which indexes are kept. -/
def indexBound : Nat := Nat.pow 2 100

theorem ray_val : ray.val = 1000000000000000000000000000 := rfl

/-- The rounding error of one conversion at an index, in native units: one, plus the native
worth of the half scaled unit the conversion may round away. -/
def roundingError (i : Word) : Nat := i.val / ray.val + 1

/-- In range, `rayMul` is the half-up rounded product. -/
theorem val_rayMul {s i : Word} (hs : s.val < valueBound) (hi : i.val < indexBound) :
    (rayMul s i).val = (s.val * i.val + ray.val / 2) / ray.val := by
  have hprod : s.val * i.val < valueBound * indexBound := Nat.mul_lt_mul'' hs hi
  have hfit : valueBound * indexBound + ray.val / 2 < wordSize := by decide
  have hsat : satProduct s.val i.val = s.val * i.val := if_pos (by omega)
  rw [rayMul, val_mulDiv_halfUp _ _ _ (by decide), hsat, if_pos (by omega)]

/-- In range, `rayDiv` is the half-up rounded quotient. -/
theorem val_rayDiv {x i : Word} (hx : x.val < valueBound) (hi : 0 < i.val) :
    (rayDiv x i).val = (x.val * ray.val + i.val / 2) / i.val := by
  have hprod : x.val * ray.val < valueBound * ray.val := Nat.mul_lt_mul_of_pos_right hx (by decide)
  have hfit : valueBound * ray.val + wordSize / 2 < wordSize := by decide
  have hhalf : i.val / 2 ≤ wordSize / 2 := Nat.div_le_div_right (Nat.le_of_lt i.isLt)
  have hsat : satProduct x.val ray.val = x.val * ray.val := if_pos (by omega)
  rw [rayDiv, val_mulDiv_halfUp _ _ _ (Nat.pos_iff_ne_zero.1 hi), hsat, if_pos (by omega)]

/-- At an index of at least one ray, a quotient is at most the amount, plus one. -/
theorem rayDiv_le {x i : Word} (hx : x.val < valueBound) (hR : ray.val ≤ i.val) :
    (rayDiv x i).val ≤ x.val + 1 := by
  have hi : 0 < i.val := Nat.lt_of_lt_of_le (by decide) hR
  rw [val_rayDiv hx hi]
  have hmul := Nat.div_mul_le_self (x.val * ray.val + i.val / 2) i.val
  have hle : x.val * ray.val ≤ x.val * i.val := Nat.mul_le_mul_left _ hR
  refine Nat.le_of_lt_succ (Nat.lt_of_mul_lt_mul_right (a := i.val) ?_)
  rw [Nat.succ_mul, Nat.succ_mul]
  omega

/-! ## 3. Amounts that stand for one another -/

/-- The scaled amount `r` stands for the native amount `x` at index `i`: `r * i` is `x * ray` to
within one index. -/
def ScaledOf (r x i : Nat) : Prop := x * ray.val ≤ r * i + i ∧ r * i ≤ x * ray.val + i

/-- The quotient stands for the amount. -/
theorem scaledOf_rayDiv {x i : Word} (hx : x.val < valueBound) (hi : 0 < i.val) :
    ScaledOf (rayDiv x i).val x.val i.val := by
  rw [val_rayDiv hx hi]
  have hle := Nat.div_mul_le_self (x.val * ray.val + i.val / 2) i.val
  have hlt := Nat.lt_div_mul_add (a := x.val * ray.val + i.val / 2) hi
  unfold ScaledOf
  omega

/-- A balance worth at least an amount gives a part that stands for it: the whole balance when it
is worth exactly the amount, else the quotient, which is then at most the balance. -/
theorem scaledOf_removeScaled {s x i : Word} (hx : x ≤ rayMul s i) (hs : s.val < valueBound)
    (hxb : x.val < valueBound) (hR : ray.val ≤ i.val) (hi : i.val < indexBound) :
    ScaledOf (removeScaled s x i).2.val x.val i.val := by
  have hi0 : 0 < i.val := Nat.lt_of_lt_of_le (by decide) hR
  have hworth := val_rayMul hs hi
  have hdm := Nat.div_mul_le_self (s.val * i.val + ray.val / 2) ray.val
  have hlt := Nat.lt_div_mul_add (a := s.val * i.val + ray.val / 2) (b := ray.val) (by decide)
  rw [Word.le_iff_val_le, hworth] at hx
  unfold removeScaled
  split
  · -- the balance is worth exactly the amount, and is taken whole
    rename_i hall
    rw [Word.le_iff_val_le, hworth] at hall
    dsimp only
    unfold ScaledOf
    rw [ray_val] at *
    omega
  · rename_i hpart
    rw [Word.le_iff_val_le, hworth] at hpart
    have hq := scaledOf_rayDiv hxb hi0
    dsimp only
    rw [Word.val_min]
    split
    · exact hq
    · -- a quotient above the balance would make the balance worth at most the amount
      rename_i hge
      rcases Nat.eq_or_lt_of_le (Nat.le_of_not_lt hge) with heq | hlt'
      · rw [heq]
        exact hq
      · exfalso
        rw [val_rayDiv hxb hi0] at hlt'
        have hq2 := Nat.div_mul_le_self (x.val * ray.val + i.val / 2) i.val
        have hsi := Nat.mul_le_mul_right i.val (Nat.succ_le_of_lt hlt')
        rw [Nat.succ_mul] at hsi
        rw [ray_val] at *
        omega

/-- The part `removeScaled` takes out is at most the balance, and the rest is the balance less
that part. -/
theorem removeScaled_split (s x i : Word) :
    (removeScaled s x i).2.val ≤ s.val ∧
      (removeScaled s x i).1.val + (removeScaled s x i).2.val = s.val := by
  unfold removeScaled
  split
  · exact ⟨Nat.le_refl _, Nat.zero_add _⟩
  · have hle : Word.min (rayDiv x i) s ≤ s := Word.min_le_right _ _
    refine ⟨hle, ?_⟩
    dsimp only
    rw [Word.val_sub_of_le hle]
    exact Nat.sub_add_cancel hle

/-! ## 4. Moving a balance -/

/-- Adding a scaled amount that stands for `x` adds `x` to the balance's worth, to within the
rounding error. -/
theorem near_rayMul_add {S S' r i : Word} {x : Nat} (hr : ScaledOf r.val x i.val)
    (hS' : S'.val = S.val + r.val) (hb : S'.val < valueBound) (hi : i.val < indexBound) :
    Near (rayMul S' i).val ((rayMul S i).val + x) (roundingError i) := by
  rw [val_rayMul hb hi, val_rayMul (by omega) hi, hS']
  have hdist := Nat.add_mul S.val r.val i.val
  unfold Near roundingError
  unfold ScaledOf at hr
  rw [ray_val] at *
  omega

/-- Taking out a scaled amount that stands for `x` takes `x` from the balance's worth, to within
the rounding error. -/
theorem near_rayMul_sub {S S' r i : Word} {x : Nat} (hr : ScaledOf r.val x i.val)
    (hS' : S'.val + r.val = S.val) (hb : S.val < valueBound) (hi : i.val < indexBound) :
    Near (rayMul S' i).val ((rayMul S i).val - (x : Int)) (roundingError i) := by
  rw [val_rayMul hb hi, val_rayMul (by omega) hi]
  have hdist : S'.val * i.val + r.val * i.val = S.val * i.val := by
    rw [← Nat.add_mul, hS']
  unfold Near roundingError
  unfold ScaledOf at hr
  rw [ray_val] at *
  omega

/-- A balance worth at least an amount has at least the amount's quotient: at an index of one
ray or more, an amount no larger than a balance's worth is no larger, scaled, than the balance. -/
theorem rayDiv_le_of_le_rayMul {S x i : Word} (hx : x ≤ rayMul S i) (hS : S.val < valueBound)
    (hxb : x.val < valueBound) (hR : ray.val ≤ i.val) (hi : i.val < indexBound) : rayDiv x i ≤ S := by
  have hi0 : 0 < i.val := Nat.lt_of_lt_of_le (by decide) hR
  rw [Word.le_iff_val_le, val_rayMul hS hi] at hx
  rw [Word.le_iff_val_le, val_rayDiv hxb hi0]
  have hdm := Nat.div_mul_le_self (S.val * i.val + ray.val / 2) ray.val
  have hxr : x.val * ray.val ≤ S.val * i.val + ray.val / 2 :=
    Nat.le_trans (Nat.mul_le_mul_right _ hx) hdm
  refine Nat.le_of_lt_succ ((Nat.div_lt_iff_lt_mul hi0).2 ?_)
  rw [Nat.succ_mul]
  -- at one ray exactly, `x * ray` and `S * ray + ray / 2` differ in their remainder by a half
  rcases Nat.lt_or_ge ray.val i.val with hgt | heq
  · rw [ray_val] at *
    omega
  · have hiR : i.val = ray.val := Nat.le_antisymm heq hR
    rw [hiR] at hxr ⊢
    rw [ray_val] at *
    omega

/-! ## 5. The moves an operation makes -/

/-- The bound below which a market's and a position's scaled balances, and an operation's amount,
are kept: their native worth at an index below `indexBound` stays below `2^131`, and a balance
plus the quotient of such an amount below `valueBound`. -/
def balanceBound : Nat := Nat.pow 2 120

/-- The worth of a balance below `balanceBound` at an index below `indexBound`. -/
theorem rayMul_lt {s i : Word} (hs : s.val < balanceBound) (hi : i.val < indexBound) :
    (rayMul s i).val < Nat.pow 2 131 := by
  have hsv : s.val < valueBound := Nat.lt_trans hs (by decide)
  rw [val_rayMul hsv hi]
  have hprod : s.val * i.val < balanceBound * indexBound := Nat.mul_lt_mul'' hs hi
  have hfit : balanceBound * indexBound + ray.val / 2 ≤ ray.val * Nat.pow 2 131 := by decide
  exact Nat.div_lt_of_lt_mul (Nat.lt_of_lt_of_le (Nat.add_lt_add_right hprod _) hfit)

variable {S T x i : Word}

/-- Adding an amount to a balance. -/
theorem near_add_rayDiv (hS : S.val + x.val + 1 < valueBound) (hR : ray.val ≤ i.val)
    (hi : i.val < indexBound) :
    Near (rayMul (S + rayDiv x i) i).val ((rayMul S i).val + x.val) (roundingError i) := by
  have hx : x.val < valueBound := by omega
  have hr := rayDiv_le hx hR
  have hword : valueBound < wordSize := by decide
  have hsum : (S + rayDiv x i).val = S.val + (rayDiv x i).val := Word.val_add_of_lt (by omega)
  exact near_rayMul_add (scaledOf_rayDiv hx (Nat.lt_of_lt_of_le (by decide) hR)) hsum
    (by omega) hi

/-- Taking an amount out of a balance worth at least the amount. -/
theorem near_removeScaled (hx : x ≤ rayMul S i) (hS : S.val < valueBound)
    (hxb : x.val < valueBound) (hR : ray.val ≤ i.val) (hi : i.val < indexBound) :
    Near (rayMul (removeScaled S x i).1 i).val ((rayMul S i).val - x.val) (roundingError i) :=
  near_rayMul_sub (scaledOf_removeScaled hx hS hxb hR hi) (removeScaled_split S x i).2 hS hi

/-- Taking out of an aggregate the part a balance gave up for an amount. -/
theorem near_zeroFloorSub_removed {s : Word} (hx : x ≤ rayMul s i) (hcov : (removeScaled s x i).2 ≤ T)
    (hs : s.val < valueBound) (hT : T.val < valueBound) (hxb : x.val < valueBound)
    (hR : ray.val ≤ i.val) (hi : i.val < indexBound) :
    Near (rayMul (zeroFloorSub T (removeScaled s x i).2) i).val ((rayMul T i).val - x.val)
      (roundingError i) := by
  refine near_rayMul_sub (scaledOf_removeScaled hx hs hxb hR hi) ?_ hT hi
  rw [zeroFloorSub, Word.val_satSub]
  exact Nat.sub_add_cancel hcov

/-- Taking an amount's quotient out of an aggregate that holds it. -/
theorem near_zeroFloorSub_rayDiv (hcov : rayDiv x i ≤ T) (hT : T.val < valueBound)
    (hxb : x.val < valueBound) (hR : ray.val ≤ i.val) (hi : i.val < indexBound) :
    Near (rayMul (zeroFloorSub T (rayDiv x i)) i).val ((rayMul T i).val - x.val)
      (roundingError i) := by
  refine near_rayMul_sub (scaledOf_rayDiv hxb (Nat.lt_of_lt_of_le (by decide) hR)) ?_ hT hi
  rw [zeroFloorSub, Word.val_satSub]
  exact Nat.sub_add_cancel hcov

end PeerLending
