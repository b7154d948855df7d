import Mathlib
import PeerLending.Proofs.Health

/-!
# The net APY is the exact weighted average

`netApy` runs once over the positions, adding each position's supply and collateral yield (its
USD value times its APY) to a signed sum and taking off its borrow cost, while it totals the
supply, collateral and debt values. It then divides the sum by `supply + collateral - debt`, or by
`supply + collateral` when that difference is zero, truncating toward zero, and answers zero when
both are zero. The sum runs in signed words, and the first step that leaves them stops the
computation (`none`).

The main statement (`netApy_exact`): when all the yields and costs together, the assets and the
debt each stay below `2^255`, no step leaves the signed words, and the answer is the exact
quotient `exactNetApy`. The run keeps a tally that holds the exact partial sums
(`ApyTally.Holds`): each product is exact and below `2^255`, each partial signed sum is at most
the yields and costs met so far in size, and no total wraps.
-/

set_option autoImplicit false

namespace PeerLending

/-! ## The exact quantities -/

/-- A position's supply value times its supply APY, exactly. -/
def supplyYield (v : PositionView) : Nat := v.supplyUsd.val * v.experiencedSupplyApy.val

/-- A position's collateral value times its collateral APY, exactly. -/
def collateralYield (v : PositionView) : Nat :=
  v.collateralUsd.val * v.experiencedCollateralApy.val

/-- A position's debt value times its borrow APY, exactly. -/
def borrowCost (v : PositionView) : Nat := v.borrowUsd.val * v.experiencedBorrowApy.val

/-- All three products of a position, the borrow cost counted positive: what a position can
move the signed sum by. -/
def yieldMass (v : PositionView) : Nat := supplyYield v + collateralYield v + borrowCost v

/-- The exact signed sum of the yields, borrow costs counting negative. -/
def weightedSum (views : List PositionView) : Int :=
  (natSum (fun v => supplyYield v + collateralYield v) views : Int) - natSum borrowCost views

/-- The supply and collateral values together. -/
def assetsUsd (views : List PositionView) : Nat :=
  natSum (·.supplyUsd.val) views + natSum (·.collateralUsd.val) views

/-- The debt value. -/
def debtUsd (views : List PositionView) : Nat := natSum (·.borrowUsd.val) views

/-- The assets minus the debt, or the assets when the two are equal. -/
def apyNormaliser (views : List PositionView) : Int :=
  if assetsUsd views = debtUsd views then assetsUsd views
  else (assetsUsd views : Int) - debtUsd views

/-- The exact net APY: the signed sum over the normaliser, truncated toward zero, and zero when
the normaliser is. -/
def exactNetApy (views : List PositionView) : Int :=
  if apyNormaliser views = 0 then 0 else (weightedSum views).tdiv (apyNormaliser views)

/-! ## Signed words in range -/

namespace SignedWord

theorem ofInt?_of_range {i : Int} (h₁ : -signedHalf ≤ i) (h₂ : i < signedHalf) :
    ∃ r, ofInt? i = some r ∧ r.val = i :=
  ⟨⟨i, h₁, h₂⟩, dif_pos ⟨h₁, h₂⟩, rfl⟩

theorem val_ofWordSaturating {w : Word} (h : (w.val : Int) < signedHalf) :
    (ofWordSaturating w).val = w.val := by
  unfold ofWordSaturating
  rw [dif_pos h]

end SignedWord

theorem signedHalf_eq : signedHalf = ((2 ^ 255 : Nat) : Int) := rfl

/-- A product of words below `2^255` is exact, and so is its signed reading. -/
theorem val_ofWordSaturating_mul {a b : Word} (h : a.val * b.val < 2 ^ 255) :
    (SignedWord.ofWordSaturating (a * b)).val = a.val * b.val := by
  have hword : a.val * b.val < wordSize := lt_trans h (by decide)
  have hval : (a * b).val = a.val * b.val := by
    rw [Word.val_mul, Nat.mod_eq_of_lt hword]
  rw [SignedWord.val_ofWordSaturating, hval]
  · push_cast
    rfl
  · rw [hval, signedHalf_eq]
    exact_mod_cast h

/-- A wrapping sum of words below `2^256` is exact. -/
theorem val_add_of_lt {a b : Word} (h : a.val + b.val < wordSize) : (a + b).val = a.val + b.val := by
  rw [Word.val_add, Nat.mod_eq_of_lt h]

/-- A total that reads as `n`, grown by a word with room below `2^256`, reads as the exact sum. -/
theorem val_add_of_val_eq {a b : Word} {n : Nat} (ha : a.val = n) (h : n + b.val < wordSize) :
    (a + b).val = n + b.val := by
  rw [val_add_of_lt (ha ▸ h), ha]

/-! ## One step of the tally -/

/-- The tally holds the signed sum `w` and the totals `s`, `c` and `b`. -/
structure ApyTally.Holds (t : ApyTally) (w : Int) (s c b : Nat) : Prop where
  weighted : t.weighted.val = w
  supply : t.supply.val = s
  collateral : t.collateral.val = c
  borrow : t.borrow.val = b

/-- One position added to a tally whose signed sum is at most `m` in size, with room for the
position's yields below `2^255` and for its values below `2^256`: no step leaves the signed
words, and the tally holds the exact new sums. -/
theorem ApyTally.add_holds {t : ApyTally} {w : Int} {s c b m : Nat} (ht : t.Holds w s c b)
    (v : PositionView) (hw : w.natAbs ≤ m) (hm : m + yieldMass v < 2 ^ 255)
    (hs : s + v.supplyUsd.val < wordSize) (hc : c + v.collateralUsd.val < wordSize)
    (hb : b + v.borrowUsd.val < wordSize) :
    ∃ t', t.add v = some t' ∧
      t'.Holds (w + supplyYield v + collateralYield v - borrowCost v)
        (s + v.supplyUsd.val) (c + v.collateralUsd.val) (b + v.borrowUsd.val) := by
  unfold yieldMass at hm
  -- the three signed readings are the exact products
  have hsy := val_ofWordSaturating_mul (a := v.supplyUsd) (b := v.experiencedSupplyApy)
    (by unfold supplyYield at hm; omega)
  have hcy := val_ofWordSaturating_mul (a := v.collateralUsd) (b := v.experiencedCollateralApy)
    (by unfold collateralYield at hm; omega)
  have hbc := val_ofWordSaturating_mul (a := v.borrowUsd) (b := v.experiencedBorrowApy)
    (by unfold borrowCost at hm; omega)
  unfold ApyTally.add
  generalize SignedWord.ofWordSaturating (v.supplyUsd * v.experiencedSupplyApy) = x at hsy ⊢
  generalize SignedWord.ofWordSaturating (v.collateralUsd * v.experiencedCollateralApy) = y at hcy ⊢
  generalize SignedWord.ofWordSaturating (v.borrowUsd * v.experiencedBorrowApy) = z at hbc ⊢
  change x.val = (supplyYield v : Int) at hsy
  change y.val = (collateralYield v : Int) at hcy
  change z.val = (borrowCost v : Int) at hbc
  -- every partial signed sum stays within `m` plus the products added so far
  have hm' : (m : Int) + supplyYield v + collateralYield v + borrowCost v < signedHalf := by
    rw [signedHalf_eq]
    exact_mod_cast (by omega : m + supplyYield v + collateralYield v + borrowCost v < 2 ^ 255)
  have hw' : -(m : Int) ≤ w ∧ w ≤ m := by omega
  have hw₀ := ht.weighted
  obtain ⟨w₁, h₁, hv₁⟩ := SignedWord.ofInt?_of_range (i := t.weighted.val + x.val)
    (by omega) (by omega)
  obtain ⟨w₂, h₂, hv₂⟩ := SignedWord.ofInt?_of_range (i := w₁.val + y.val) (by omega) (by omega)
  obtain ⟨w₃, h₃, hv₃⟩ := SignedWord.ofInt?_of_range (i := w₂.val - z.val) (by omega) (by omega)
  refine ⟨⟨w₃, t.supply + v.supplyUsd, t.collateral + v.collateralUsd, t.borrow + v.borrowUsd⟩,
    ?_, ?_⟩
  · simp [SignedWord.add?, SignedWord.sub?, h₁, h₂, h₃]
  · exact ⟨show w₃.val = _ by omega, val_add_of_val_eq ht.supply hs,
      val_add_of_val_eq ht.collateral hc, val_add_of_val_eq ht.borrow hb⟩

/-! ## The run -/

/-- The signed sum is at most all the yields and costs in size. -/
theorem natAbs_weightedSum_le :
    ∀ views : List PositionView, (weightedSum views).natAbs ≤ natSum yieldMass views
  | [] => by simp [weightedSum, natSum]
  | v :: rest => by
    have ih := natAbs_weightedSum_le rest
    unfold weightedSum at ih ⊢
    simp only [natSum, yieldMass] at ih ⊢
    omega

/-- The run over the positions from a tally holding `w`, `s`, `c` and `b`, with room for every
yield and value: no step leaves the signed words, and the final tally holds the exact sums. -/
theorem foldlM_add_holds :
    ∀ (views : List PositionView) {t : ApyTally} {w : Int} {s c b m : Nat}, t.Holds w s c b →
      w.natAbs ≤ m → m + natSum yieldMass views < 2 ^ 255 →
      s + natSum (·.supplyUsd.val) views < wordSize →
      c + natSum (·.collateralUsd.val) views < wordSize →
      b + natSum (·.borrowUsd.val) views < wordSize →
      ∃ t', views.foldlM ApyTally.add t = some t' ∧
        t'.Holds (w + weightedSum views) (s + natSum (·.supplyUsd.val) views)
          (c + natSum (·.collateralUsd.val) views) (b + natSum (·.borrowUsd.val) views)
  | [], t, w, s, c, b, _, ht, _, _, _, _, _ => ⟨t, rfl, by simpa [weightedSum, natSum] using ht⟩
  | v :: rest, t, w, s, c, b, m, ht, hw, hm, hs, hc, hb => by
    simp only [natSum] at hm hs hc hb
    -- the first position is one step, the rest is the run from the tally after it
    obtain ⟨t₁, h₁, ht₁⟩ := ApyTally.add_holds ht v hw (by omega) (by omega) (by omega) (by omega)
    have hw₁ : (w + supplyYield v + collateralYield v - borrowCost v).natAbs ≤ m + yieldMass v := by
      unfold yieldMass
      omega
    obtain ⟨t', h', ht'⟩ := foldlM_add_holds rest ht₁ hw₁ (by omega) (by omega) (by omega)
      (by omega)
    refine ⟨t', by simp [h₁, h'], ?_⟩
    have hsum : w + supplyYield v + collateralYield v - borrowCost v + weightedSum rest =
        w + weightedSum (v :: rest) := by
      unfold weightedSum
      simp only [natSum]
      push_cast
      ring
    simp only [natSum]
    rw [← hsum, ← Nat.add_assoc, ← Nat.add_assoc, ← Nat.add_assoc]
    exact ht'

/-! ## The net APY -/

/-- When all the yields and costs together, the assets and the debt each stay below `2^255`, the
net APY overflows no signed word, and it is the exact signed sum over the normaliser, truncated
toward zero, or zero when assets and debt are both zero. -/
theorem netApy_exact (views : List PositionView) (hyield : natSum yieldMass views < 2 ^ 255)
    (hassets : assetsUsd views < 2 ^ 255) (hdebt : debtUsd views < 2 ^ 255) :
    (netApy views).map SignedWord.val = some (exactNetApy views) := by
  have hhalf : (2 ^ 255 : Nat) < wordSize := by decide
  unfold assetsUsd at hassets
  unfold debtUsd at hdebt
  -- the run starts from zero sums
  obtain ⟨t, hrun, ht⟩ := foldlM_add_holds views (t := ⟨SignedWord.zero, 0, 0, 0⟩)
    (w := 0) (s := 0) (c := 0) (b := 0) (m := 0)
    ⟨rfl, rfl, rfl, rfl⟩ (by simp) (by omega) (by omega) (by omega) (by omega)
  simp only [Int.zero_add, Nat.zero_add] at ht
  -- the totals do not wrap, and read as signed words exactly
  have hsum : (t.supply + t.collateral).val = assetsUsd views := by
    rw [val_add_of_val_eq ht.supply (by rw [ht.collateral]; omega), ht.collateral]
    rfl
  have hA : (SignedWord.ofWordSaturating (t.supply + t.collateral)).val = assetsUsd views := by
    rw [SignedWord.val_ofWordSaturating, hsum]
    -- left: the total reads below `2^255`
    rw [hsum, signedHalf_eq]
    exact_mod_cast hassets
  have hB : (SignedWord.ofWordSaturating t.borrow).val = debtUsd views := by
    rw [SignedWord.val_ofWordSaturating, ht.borrow]
    · rfl
    · rw [ht.borrow, signedHalf_eq]
      exact_mod_cast hdebt
  have hW := ht.weighted
  have hWle := natAbs_weightedSum_le views
  unfold netApy
  rw [hrun, Option.bind_eq_bind, Option.bind_some]
  generalize SignedWord.ofWordSaturating (t.supply + t.collateral) = A at hA ⊢
  generalize SignedWord.ofWordSaturating t.borrow = B at hB ⊢
  have hH : signedHalf = ((2 ^ 255 : Nat) : Int) := signedHalf_eq
  obtain ⟨D, hD, hDv⟩ := SignedWord.ofInt?_of_range (i := A.val - B.val)
    (by unfold assetsUsd at hA; unfold debtUsd at hB; omega)
    (by unfold assetsUsd at hA; unfold debtUsd at hB; omega)
  -- the normaliser: the difference, or the assets when the difference is zero
  have hN : (if D.val = 0 then A else D).val = apyNormaliser views := by
    unfold apyNormaliser
    by_cases hAB : assetsUsd views = debtUsd views
    · rw [if_pos (by omega), if_pos hAB, hA]
    · rw [if_neg (by omega), if_neg hAB, hDv, hA, hB]
  simp only [SignedWord.sub?, hD, Option.bind_eq_bind, Option.bind_some]
  generalize (if D.val = 0 then A else D) = N at hN ⊢
  unfold exactNetApy
  by_cases h0 : N.val = 0
  · rw [if_pos h0, if_pos (hN ▸ h0)]
    rfl
  · rw [if_neg h0, if_neg (hN ▸ h0)]
    have hq := Int.natAbs_tdiv_le_natAbs t.weighted.val N.val
    obtain ⟨q, hq', hqv⟩ := SignedWord.ofInt?_of_range (i := t.weighted.val.tdiv N.val)
      (by omega) (by omega)
    rw [SignedWord.div?, if_neg h0, hq', Option.map_some, hqv, hW, hN]

/-- A position with the given supply, collateral and debt values, at 4%, 1% and 6% (in
hundredths of a percent), and nothing else. -/
def apyView (supply collateral borrow : Word) : PositionView :=
  { market := Address.zero, symbol := "", decimals := 0, supplyInP2P := 0, supplyOnPool := 0,
    totalSupply := 0, borrowInP2P := 0, borrowOnPool := 0, totalBorrow := 0, collateral := 0,
    walletBalance := 0, supplyUsd := supply, borrowUsd := borrow, collateralUsd := collateral,
    liquidationValue := 0, borrowCapacity := 0, supplyMatchingShare := 0,
    borrowMatchingShare := 0, experiencedSupplyApy := 400, experiencedBorrowApy := 600,
    experiencedCollateralApy := 100, usdPrice := 0, risk := ⟨0, 0, 0⟩ }

/-- `(100·4% + 100·1% - 50·6%) / 150` is `1.33%`, exactly as the net APY computes it. -/
theorem mixed_position_net_apy :
    natSum yieldMass [apyView 100 100 50] < 2 ^ 255 ∧ assetsUsd [apyView 100 100 50] < 2 ^ 255 ∧
      debtUsd [apyView 100 100 50] < 2 ^ 255 ∧
      (netApy [apyView 100 100 50]).map SignedWord.val = some (exactNetApy [apyView 100 100 50]) ∧
      exactNetApy [apyView 100 100 50] = 133 := by
  have hyield : natSum yieldMass [apyView 100 100 50] < 2 ^ 255 := by decide
  have hassets : assetsUsd [apyView 100 100 50] < 2 ^ 255 := by decide
  have hdebt : debtUsd [apyView 100 100 50] < 2 ^ 255 := by decide
  exact ⟨hyield, hassets, hdebt, netApy_exact _ hyield hassets hdebt, by decide⟩

end PeerLending
