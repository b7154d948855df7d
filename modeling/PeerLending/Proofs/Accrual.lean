import PeerLending.Proofs.Interest
import PeerLending.Market.Accrue

/-!
# Peer-to-peer indexes under accrual

Accrual moves each peer-to-peer index by a *blend* of growth factors: the skewed mid growth on
the matched share, the pool's growth on the delta share and no growth on the idle share
(`p2pIndexAfter`). The skewed mid places the supply side's growth below the borrow side's
(`skewedMid_ordered`), and the borrow side's delta earns the pool's borrow growth, which is at
least its mid growth; so, rounding apart, the peer-to-peer supply index never overtakes the
peer-to-peer borrow index.

Rounding does not stay apart. Every part of a blend is rounded half up, so two parts that both
sit at a half round up together and the supply side's blend can exceed its growth by one; a
pool index that grows by less than half a ray unit per ray has a growth factor of exactly one.
What holds is the order to within the rounding of one conversion at the last index
(`roundingError`), and the outer bounds against the pool indexes to within the same:

* `p2pSupply_le_p2pBorrow`: the new peer-to-peer supply index is at most the new borrow index
  plus `roundingError` of the last supply index, as long as the pool's supply growth is at most
  its borrow growth or no supply delta rests on the pool;
* `poolSupply_le_p2pSupply`, `p2pBorrow_le_poolBorrow`: with no idle supply, the outer bounds;
* `Unmatched.accrue`, `Unmatched.accrueAll`: without peer-to-peer principal, no blend happens
  and the order holds exactly along every run of accruals from a new market.
-/

set_option autoImplicit false

namespace PeerLending

/-! ## 1. Rounded products -/

section Products

variable {x y z : Word}

/-- One more unit of index gives at most one conversion's rounding more. -/
theorem rayMul_le_of_le_succ (hc : z.val ≤ y.val + 1)
    (hfit : x.val * (y.val + 1) + ray.val / 2 < wordSize) :
    (rayMul x z).val ≤ (rayMul x y).val + roundingError x := by
  have hz : x.val * z.val ≤ x.val * (y.val + 1) := Nat.mul_le_mul_left _ hc
  have hy : x.val * y.val + x.val = x.val * (y.val + 1) := (Nat.mul_succ _ _).symm
  rw [val_rayMul_of_lt (by omega), val_rayMul_of_lt (by omega), roundingError, ray_val]
  generalize x.val * z.val = p at *
  generalize x.val * y.val = q at *
  generalize x.val * (y.val + 1) = r at *
  omega

end Products

/-! ## 2. The skewed mid

The mid growth lies between the pool's supply and borrow growth, and the reserve factor moves the
two peer-to-peer growths apart from it, each toward its own pool growth and never past it. -/

/-- The bound below which growth factors are kept. A growth over a last index of at least one ray
is below it whatever the new index, since a quotient by a ray is at most `wordSize / ray`. -/
def growthBound : Nat := Nat.pow 2 200

theorem growthBound_eq : growthBound = 1606938044258990275541962092341162602522202993782792835301376 := by
  decide

/-- A growth below `growthBound` times one hundred percent fits in a word. -/
theorem mul_percent_lt_of_lt_growthBound {x : Word} (h : x.val < growthBound) :
    x.val * 10000 < wordSize := by
  rw [growthBound_eq] at h
  have hw := wordSize_eq
  omega

section Mid

variable {x y c rf : Word}

/-- The cursor's weighted average of two growths lies between them. -/
theorem percentAvg_between (hxy : x ≤ y) (hy : y.val * 10000 < wordSize) :
    x ≤ percentAvg x y c ∧ percentAvg x y c ≤ y := by
  have hp : (Word.min c percent).val ≤ 10000 := Word.min_le_right c percent
  unfold percentAvg
  generalize Word.min c percent = p at *
  have hsub : (percent - p).val = 10000 - p.val := Word.val_sub_of_le hp
  -- the weights sum to one hundred percent, so the weighted sum is between the two ends
  have hx : x.val * (10000 - p.val) + x.val * p.val = x.val * 10000 := by
    rw [← Nat.mul_add, Nat.sub_add_cancel hp]
  have hy' : y.val * (10000 - p.val) + y.val * p.val = y.val * 10000 := by
    rw [← Nat.mul_add, Nat.sub_add_cancel hp]
  have hlo : x.val * p.val ≤ y.val * p.val := Nat.mul_le_mul_right _ hxy
  have hhi : x.val * (10000 - p.val) ≤ y.val * (10000 - p.val) := Nat.mul_le_mul_right _ hxy
  have hw := wordSize_eq
  -- nothing saturates: every term is at most ten thousand times the larger growth
  have h1 : (x.satMul (percent - p)).val = x.val * (10000 - p.val) := by
    rw [Word.val_satMul, hsub, if_pos (by omega)]
  have h2 : (y.satMul p).val = y.val * p.val := by
    rw [Word.val_satMul, if_pos (by omega)]
  have h3 : ((x.satMul (percent - p)).satAdd (y.satMul p)).val =
      x.val * (10000 - p.val) + y.val * p.val := by
    rw [Word.val_satAdd, h1, h2, if_pos (by omega)]
  have h4 : (halfPercent.satAdd ((x.satMul (percent - p)).satAdd (y.satMul p))).val =
      5000 + (x.val * (10000 - p.val) + y.val * p.val) := by
    rw [Word.val_satAdd, h3, if_pos (by show 5000 + _ < _; omega)]
    rfl
  rw [Word.le_iff_val_le, Word.le_iff_val_le, Word.val_div, h4]
  show x.val ≤ _ / 10000 ∧ _ / 10000 ≤ y.val
  omega

/-- A share of at most one hundred percent, rounded half up, is no more than the whole. -/
theorem percentMul_le_self (hrf : rf.val ≤ 10000) (hx : x.val * 10000 < wordSize) :
    percentMul x rf ≤ x := by
  have hprod : x.val * rf.val ≤ x.val * 10000 := Nat.mul_le_mul_left _ hrf
  have hw := wordSize_eq
  have hsat : satProduct x.val rf.val = x.val * rf.val := if_pos (by omega)
  rw [Word.le_iff_val_le, percentMul, val_mulDiv_halfUp _ _ _ (by decide), hsat,
    if_pos (by show _ + 5000 < _; omega)]
  show (x.val * rf.val + 5000) / 10000 ≤ _
  omega

/-- The skewed mid orders the two peer-to-peer growths: the supply side's is at most the borrow
side's, the borrow side's at most the pool's borrow growth, and the supply side's at least the
pool's supply growth, or the borrow growth itself when the supply growth exceeds it. -/
theorem skewedMid_ordered (hrf : rf.val ≤ 10000) (hy : y.val * 10000 < wordSize) :
    (skewedMid x y c rf).1 ≤ (skewedMid x y c rf).2 ∧ (skewedMid x y c rf).2 ≤ y ∧
      (x ≤ y → x ≤ (skewedMid x y c rf).1) ∧ (y < x → (skewedMid x y c rf).1 = y) := by
  unfold skewedMid
  split
  case isTrue hyx => exact ⟨Nat.le_refl _, Nat.le_refl _, fun h => absurd hyx (Word.not_lt_of_le h),
    fun _ => rfl⟩
  case isFalse hyx =>
    have hxy : x ≤ y := Nat.le_of_not_lt hyx
    obtain ⟨hlo, hhi⟩ := percentAvg_between hxy hy (c := c)
    generalize percentAvg x y c = mid at *
    have hlo' : x.val ≤ mid.val := hlo
    have hhi' : mid.val ≤ y.val := hhi
    have hxy' : x.val ≤ y.val := hxy
    -- both distances are at most the borrow side, so their percentages do not saturate
    have hsup := percentMul_le_self hrf (x := mid - x)
      (Nat.lt_of_le_of_lt (Nat.mul_le_mul_right _ (by rw [Word.val_sub_of_le hlo]; omega)) hy)
    have hbor := percentMul_le_self hrf (x := y - mid)
      (Nat.lt_of_le_of_lt (Nat.mul_le_mul_right _ (by rw [Word.val_sub_of_le hhi]; omega)) hy)
    rw [Word.le_iff_val_le, Word.val_sub_of_le hlo] at hsup
    rw [Word.le_iff_val_le, Word.val_sub_of_le hhi] at hbor
    -- the supply side moves down from the mid by at most its distance to the supply growth,
    -- the borrow side up by at most its distance to the borrow growth
    have hs : (mid - percentMul (mid - x) rf).val = mid.val - (percentMul (mid - x) rf).val :=
      Word.val_sub_of_le (by rw [Word.le_iff_val_le]; omega)
    have hb : (mid + percentMul (y - mid) rf).val = mid.val + (percentMul (y - mid) rf).val :=
      Word.val_add_of_lt (by have := y.isLt; omega)
    refine ⟨?_, ?_, fun _ => ?_, fun h => absurd h hyx⟩ <;>
      simp only [Word.le_iff_val_le, hs, hb] <;> omega

end Mid

/-! ## 3. Blends

A peer-to-peer index with principal that is not all matched moves by a blend: the matched share
at the peer-to-peer growth, the delta share at the pool growth and the idle share at none. The
shares sum to one ray, so the exact blend lies between the smallest and the largest of the
three growths; each of the two rounded products adds at most a half, so the blend is the exact
one rounded down, or one more. -/

section Blend

variable {pg g G P L I : Word} {D : SideDelta}

/-- The delta share leaves room for the idle share. -/
theorem proportionDelta_le (D : SideDelta) (P L idle : Word) :
    (proportionDelta D P L idle).val ≤ ray.val - idle.val := by
  unfold proportionDelta
  split
  · exact Nat.zero_le _
  · dsimp only
    split
    · exact Nat.le_refl _
    · exact Word.min_le_right _ _

theorem proportionDelta_of_scaledDelta (h : D.scaledDelta.val = 0) :
    (proportionDelta D P L I).val = 0 := by
  unfold proportionDelta
  rw [if_pos (Or.inr h)]
  rfl

/-- Two products rounded half up and added: the exact sum rounded down, or one more. -/
theorem round_add_round (a b : Nat) :
    (a + b) / ray.val ≤ (a + ray.val / 2) / ray.val + (b + ray.val / 2) / ray.val ∧
      (a + ray.val / 2) / ray.val + (b + ray.val / 2) / ray.val ≤ (a + b) / ray.val + 1 := by
  rw [ray_val]
  omega

/-- A share of at most one ray of a growth in range converts exactly. -/
theorem val_rayMul_share {m : Word} (hm : m.val ≤ ray.val) (hg : g.val < valueBound) :
    (rayMul m g).val = (m.val * g.val + ray.val / 2) / ray.val ∧
      (rayMul m g).val < valueBound + 1 := by
  have hprod : m.val * g.val ≤ ray.val * g.val := Nat.mul_le_mul_right _ hm
  have hlt : ray.val * g.val < ray.val * valueBound := Nat.mul_lt_mul_of_pos_left hg (by decide)
  have hval := val_rayMul_of_share hm (Nat.lt_trans hg (by decide))
  refine ⟨hval, ?_⟩
  rw [hval]
  refine Nat.lt_succ_of_le ((Nat.div_le_iff_le_mul_add_pred (by decide)).2 ?_)
  rw [ray_val] at hprod hlt ⊢
  omega

/-- The shares of a blend and its rounded value. -/
theorem val_blend {m δ idle : Word} (hm : m.val ≤ ray.val) (hδ : δ.val ≤ ray.val)
    (hidle : idle.val ≤ ray.val) (hg : g.val < valueBound) (hpg : pg.val < valueBound) :
    (rayMul m g + rayMul δ pg + idle).val =
      (m.val * g.val + ray.val / 2) / ray.val + (δ.val * pg.val + ray.val / 2) / ray.val +
        idle.val := by
  obtain ⟨hmg, hmg'⟩ := val_rayMul_share hm hg
  obtain ⟨hdp, hdp'⟩ := val_rayMul_share hδ hpg
  have hroom : 2 * (valueBound + 1) + ray.val < wordSize := by decide
  rw [Word.val_add_of_lt (by rw [Word.val_add_of_lt (by omega)]; omega),
    Word.val_add_of_lt (by omega), hmg, hdp]

/-- A blend whose growths are at most `G` moves the index to at most its growth by `G`, plus one
conversion's rounding: the pool growth counts only where a delta rests on the pool, and the idle
share's lack of growth only where there is an idle share. -/
theorem p2pIndexAfter_le (hg : g ≤ G) (hpg : D.scaledDelta.val = 0 ∨ pg ≤ G)
    (hR : I.val = 0 ∨ ray ≤ G) (hG : G.val < valueBound) (hpgb : pg.val < valueBound)
    (hL : L.val < indexBound) :
    (p2pIndexAfter pg g P L D I).val ≤ (rayMul L G).val + roundingError L := by
  have hfit : L.val * (G.val + 1) + ray.val / 2 < wordSize := by
    have hroom : indexBound * valueBound + ray.val / 2 < wordSize := by decide
    have hG1 : G.val + 1 ≤ valueBound := hG
    have := Nat.mul_le_mul (Nat.le_of_lt hL) hG1
    omega
  have hg' : g.val ≤ G.val := hg
  unfold p2pIndexAfter
  split
  · -- nothing blends: the index grows by the peer-to-peer growth alone
    have := rayMul_mono_right (x := L) hg
    rw [Word.le_iff_val_le] at this
    omega
  · dsimp only
    apply rayMul_le_of_le_succ _ hfit
    have hidle : (Word.min I ray).val ≤ ray.val := Word.min_le_right _ _
    have hidle0 : I.val = 0 → (Word.min I ray).val = 0 := fun h => by
      rw [Word.val_min, if_pos (by rw [h]; decide), h]
    generalize Word.min I ray = idle at *
    have hδ := proportionDelta_le D P L idle
    have hδ0 : D.scaledDelta.val = 0 → (proportionDelta D P L idle).val = 0 :=
      proportionDelta_of_scaledDelta
    generalize proportionDelta D P L idle = δ at *
    have hm : (zeroFloorSub (zeroFloorSub ray δ) idle).val = ray.val - δ.val - idle.val := rfl
    generalize zeroFloorSub (zeroFloorSub ray δ) idle = m at *
    rw [val_blend (by omega) (by omega) hidle (Nat.lt_of_le_of_lt hg hG) hpgb]
    -- the exact blend is at most `G`: every share's growth is
    have hmg : m.val * g.val ≤ m.val * G.val := Nat.mul_le_mul_left _ hg
    have hdp : δ.val * pg.val ≤ δ.val * G.val := by
      rcases hpg with h | h
      · rw [hδ0 h, Nat.zero_mul]
        exact Nat.zero_le _
      · exact Nat.mul_le_mul_left _ h
    have hir : idle.val * ray.val ≤ idle.val * G.val := by
      rcases hR with h | h
      · rw [hidle0 h, Nat.zero_mul]
        exact Nat.zero_le _
      · exact Nat.mul_le_mul_left _ h
    have hsum : m.val * G.val + δ.val * G.val + idle.val * G.val = ray.val * G.val := by
      rw [← Nat.add_mul, ← Nat.add_mul, hm]
      congr 1
      omega
    have hround := (round_add_round (m.val * g.val) (δ.val * pg.val)).2
    rw [ray_val] at hround hsum hir ⊢
    generalize m.val * g.val = a at *
    generalize δ.val * pg.val = b at *
    generalize m.val * G.val = a' at *
    generalize δ.val * G.val = b' at *
    generalize idle.val * G.val = c' at *
    omega

/-- A blend without idle share whose growths are at least `G` moves the index to at least its
growth by `G`. -/
theorem le_p2pIndexAfter (hg : G ≤ g) (hpg : G ≤ pg) (hgb : g.val < valueBound)
    (hpgb : pg.val < valueBound) : rayMul L G ≤ p2pIndexAfter pg g P L D 0 := by
  unfold p2pIndexAfter
  split
  · exact rayMul_mono_right hg
  · dsimp only
    apply rayMul_mono_right
    have hidle : Word.min 0 ray = 0 := rfl
    rw [hidle]
    have hδ := proportionDelta_le D P L 0
    generalize proportionDelta D P L 0 = δ at *
    have hm : (zeroFloorSub (zeroFloorSub ray δ) 0).val = ray.val - δ.val := rfl
    generalize zeroFloorSub (zeroFloorSub ray δ) 0 = m at *
    rw [Word.le_iff_val_le, val_blend (by omega) (by omega) (by decide) hgb hpgb]
    -- the exact blend is at least `G`: every share's growth is
    have hmg : m.val * G.val ≤ m.val * g.val := Nat.mul_le_mul_left _ hg
    have hdp : δ.val * G.val ≤ δ.val * pg.val := Nat.mul_le_mul_left _ hpg
    have hsum : m.val * G.val + δ.val * G.val = ray.val * G.val := by
      rw [← Nat.add_mul, hm]
      congr 1
      omega
    have hround := (round_add_round (m.val * g.val) (δ.val * pg.val)).1
    rw [ray_val] at hround hsum ⊢
    show G.val ≤ _
    generalize m.val * g.val = a at *
    generalize δ.val * pg.val = b at *
    generalize m.val * G.val = a' at *
    generalize δ.val * G.val = b' at *
    omega

end Blend

/-! ## 4. Pool growth

A pool index's growth is the new index over the last one, rounded half up. It is at least one
ray when the index did not fall, and it is bounded whatever the new index once the last index is
at least one ray. Converting the last index back by its growth gives the new index to within one
conversion's rounding at the last index. -/

section PoolGrowth

variable {A P : Word}

/-- A pool index that did not fall grew by at least one ray. -/
theorem ray_le_rayDiv (hle : P ≤ A) (hP : 0 < P.val) (hA : A.val < valueBound) :
    ray ≤ rayDiv A P := by
  have hle' : P.val ≤ A.val := hle
  rw [Word.le_iff_val_le, val_rayDiv hA hP, Nat.le_div_iff_mul_le hP]
  have := Nat.mul_le_mul_left ray.val hle'
  rw [Nat.mul_comm A.val]
  omega

theorem rayDiv_lt_growthBound (hR : ray ≤ P) : (rayDiv A P).val < growthBound := by
  have hR' : ray.val ≤ P.val := hR
  have hP : P.val ≠ 0 := by
    have : 0 < ray.val := by decide
    omega
  rw [rayDiv, val_mulDiv_halfUp _ _ _ hP]
  have hnum : (if satProduct A.val ray.val + P.val / 2 < wordSize then
      satProduct A.val ray.val + P.val / 2 else wordSize - 1) ≤ wordSize - 1 := by
    split <;> omega
  calc _ ≤ (wordSize - 1) / P.val := Nat.div_le_div_right hnum
    _ ≤ (wordSize - 1) / ray.val := Nat.div_le_div_left hR' (by decide)
    _ < growthBound := by decide

/-- Converting back by the growth falls short of the new index by at most one conversion's
rounding at the last index. -/
theorem le_rayMul_rayDiv (hR : ray ≤ P) (hP : P.val < indexBound) (hA : A.val < indexBound) :
    A.val ≤ (rayMul P (rayDiv A P)).val + roundingError P := by
  have hR' : ray.val ≤ P.val := hR
  have hP0 : 0 < P.val := Nat.lt_of_lt_of_le (by decide) hR'
  have hAv : A.val < valueBound := Nat.lt_trans hA (by decide)
  have hq := rayDiv_le hAv hR
  have hlt := Nat.lt_div_mul_add (a := A.val * ray.val + P.val / 2) hP0
  rw [← val_rayDiv hAv hP0] at hlt
  have hprod : P.val * (rayDiv A P).val ≤ indexBound * (indexBound + 1) :=
    Nat.mul_le_mul (Nat.le_of_lt hP) (by omega)
  have hfit : indexBound * (indexBound + 1) + ray.val / 2 < wordSize := by decide
  rw [val_rayMul_of_lt (by omega), roundingError, Nat.mul_comm P.val]
  rw [ray_val] at hlt ⊢
  generalize (rayDiv A P).val * P.val = x at *
  omega

/-- Converting back by the growth exceeds the new index by at most one conversion's rounding at
the last index. -/
theorem rayMul_rayDiv_le (hR : ray ≤ P) (hP : P.val < indexBound) (hA : A.val < indexBound) :
    (rayMul P (rayDiv A P)).val ≤ A.val + roundingError P := by
  have hR' : ray.val ≤ P.val := hR
  have hP0 : 0 < P.val := Nat.lt_of_lt_of_le (by decide) hR'
  have hAv : A.val < valueBound := Nat.lt_trans hA (by decide)
  have hq := rayDiv_le hAv hR
  have hle := Nat.div_mul_le_self (A.val * ray.val + P.val / 2) P.val
  rw [← val_rayDiv hAv hP0] at hle
  have hprod : P.val * (rayDiv A P).val ≤ indexBound * (indexBound + 1) :=
    Nat.mul_le_mul (Nat.le_of_lt hP) (by omega)
  have hfit : indexBound * (indexBound + 1) + ray.val / 2 < wordSize := by decide
  rw [val_rayMul_of_lt (by omega), roundingError, Nat.mul_comm P.val]
  rw [ray_val] at hle ⊢
  generalize (rayDiv A P).val * P.val = x at *
  omega

end PoolGrowth

/-! ## 5. One accrual

`accrue` ages the reserve's indexes (`agedPool`), takes the pool growth from the stored pool
indexes to the aged ones and the skewed mid of it (`growth`), and moves each peer-to-peer index
by its blend. -/

/-- The growths of an accrual in range: each pool growth at least one ray and below
`valueBound`, and the skewed mid's order between them. -/
structure Growth.Ordered (gr : Growth) : Prop where
  poolSupply_ge : ray ≤ gr.poolSupply
  poolBorrow_ge : ray ≤ gr.poolBorrow
  poolSupply_lt : gr.poolSupply.val < valueBound
  poolBorrow_lt : gr.poolBorrow.val < valueBound
  p2p : gr.p2pSupply ≤ gr.p2pBorrow
  borrow : gr.p2pBorrow ≤ gr.poolBorrow
  supply : gr.poolSupply ≤ gr.poolBorrow → gr.poolSupply ≤ gr.p2pSupply
  donation : gr.poolBorrow < gr.poolSupply → gr.p2pSupply = gr.poolBorrow

theorem Growth.Ordered.ray_le_p2pSupply {gr : Growth} (hg : gr.Ordered) : ray ≤ gr.p2pSupply := by
  by_cases h : gr.poolSupply ≤ gr.poolBorrow
  · exact Nat.le_trans hg.poolSupply_ge (hg.supply h)
  · rw [hg.donation (Nat.lt_of_not_le h)]
    exact hg.poolBorrow_ge

theorem Growth.Ordered.p2pSupply_lt {gr : Growth} (hg : gr.Ordered) :
    gr.p2pSupply.val < valueBound :=
  Nat.lt_of_le_of_lt (Nat.le_trans hg.p2p hg.borrow) hg.poolBorrow_lt

theorem Growth.Ordered.p2pBorrow_lt {gr : Growth} (hg : gr.Ordered) :
    gr.p2pBorrow.val < valueBound :=
  Nat.lt_of_le_of_lt hg.borrow hg.poolBorrow_lt

namespace MarketState

variable {m : MarketState} {config : MarketConfig} {now : Nat}

/-- The pool indexes that `accrue` ages the reserve's indexes to. -/
def agedPool (m : MarketState) (now : Nat) : PoolIndexes :=
  PoolIndexes.age ⟨m.poolReserve.liquidityIndex, m.poolReserve.variableBorrowIndex⟩
    m.poolReserve.lastUpdate m.poolReserve.liquidityRate m.poolReserve.variableBorrowRate now

/-- The pool and peer-to-peer growth of one accrual. -/
def growth (m : MarketState) (config : MarketConfig) (now : Nat) : Growth :=
  Growth.between m.indexes.supply.poolIndex m.indexes.borrow.poolIndex (m.agedPool now).supplyIndex
    (m.agedPool now).borrowIndex config.p2pIndexCursor config.p2pReserveFactor

theorem accrue_indexes (h : m.indexes.lastUpdate < now) :
    (m.accrue config now).indexes =
      ⟨⟨(m.agedPool now).supplyIndex,
        p2pIndexAfter (m.growth config now).poolSupply (m.growth config now).p2pSupply
          m.indexes.supply.poolIndex m.indexes.supply.p2pIndex m.deltas.supply
          (proportionIdle m.idleSupply m.deltas.supply m.indexes.supply.p2pIndex)⟩,
       ⟨(m.agedPool now).borrowIndex,
        p2pIndexAfter (m.growth config now).poolBorrow (m.growth config now).p2pBorrow
          m.indexes.borrow.poolIndex m.indexes.borrow.p2pIndex m.deltas.borrow 0⟩, now⟩ := by
  unfold accrue
  rw [if_neg (Nat.not_le.2 h)]
  rfl

/-- What one accrual in range needs: a reserve factor of at most one hundred percent, stored
indexes in range, and aged pool indexes below `indexBound` that did not fall. -/
structure AccruesInRange (m : MarketState) (config : MarketConfig) (now : Nat) : Prop where
  reserveFactor : config.p2pReserveFactor.val ≤ 10000
  stored : m.indexes.InRange
  supplyAged : m.indexes.supply.poolIndex ≤ (m.agedPool now).supplyIndex
  borrowAged : m.indexes.borrow.poolIndex ≤ (m.agedPool now).borrowIndex
  supplyAgedLt : (m.agedPool now).supplyIndex.val < indexBound
  borrowAgedLt : (m.agedPool now).borrowIndex.val < indexBound

theorem AccruesInRange.growthOrdered (hr : m.AccruesInRange config now) :
    (m.growth config now).Ordered := by
  have hs := hr.stored.supply
  have hb := hr.stored.borrow
  have hsv : (m.agedPool now).supplyIndex.val < valueBound :=
    Nat.lt_trans hr.supplyAgedLt (by decide)
  have hbv : (m.agedPool now).borrowIndex.val < valueBound :=
    Nat.lt_trans hr.borrowAgedLt (by decide)
  have hsR := ray_le_rayDiv hr.supplyAged (Nat.lt_of_lt_of_le (by decide) hs.pool_ge) hsv
  have hbR := ray_le_rayDiv hr.borrowAged (Nat.lt_of_lt_of_le (by decide) hb.pool_ge) hbv
  -- a growth over a last index of at least one ray is at most the new index, plus one
  have hsl := rayDiv_le hsv hs.pool_ge
  have hbl := rayDiv_le hbv hb.pool_ge
  have hbg : (rayDiv (m.agedPool now).borrowIndex m.indexes.borrow.poolIndex).val < growthBound :=
    Nat.lt_of_le_of_lt hbl (Nat.lt_trans (Nat.succ_lt_succ hr.borrowAgedLt) (by decide))
  obtain ⟨hp2p, hborrow, hsupply, hdonation⟩ :=
    skewedMid_ordered (c := config.p2pIndexCursor) hr.reserveFactor
      (mul_percent_lt_of_lt_growthBound hbg)
  exact ⟨hsR, hbR, Nat.lt_of_le_of_lt hsl (Nat.lt_trans (Nat.succ_lt_succ hr.supplyAgedLt) (by decide)),
    Nat.lt_of_le_of_lt hbl (Nat.lt_trans (Nat.succ_lt_succ hr.borrowAgedLt) (by decide)),
    hp2p, hborrow, hsupply, hdonation⟩

theorem growth_poolSupply (m : MarketState) (config : MarketConfig) (now : Nat) :
    (m.growth config now).poolSupply = rayDiv (m.agedPool now).supplyIndex m.indexes.supply.poolIndex :=
  rfl

theorem growth_poolBorrow (m : MarketState) (config : MarketConfig) (now : Nat) :
    (m.growth config now).poolBorrow = rayDiv (m.agedPool now).borrowIndex m.indexes.borrow.poolIndex :=
  rfl

/-- The peer-to-peer supply index stays at most the peer-to-peer borrow index, to within one
conversion's rounding at the last supply index: the supply blend exceeds the supply growth by at
most one, and the borrow blend is at least the borrow growth, since the borrow delta earns the
pool's borrow growth. Where the pool's supply growth exceeds its borrow growth, a supply delta
would earn more than every borrower, hence the second alternative. -/
theorem p2pSupply_le_p2pBorrow (hr : m.AccruesInRange config now)
    (hord : m.indexes.supply.p2pIndex ≤ m.indexes.borrow.p2pIndex)
    (hsk : (m.growth config now).poolSupply ≤ (m.growth config now).poolBorrow ∨
      m.deltas.supply.scaledDelta.val = 0) :
    (m.accrue config now).indexes.supply.p2pIndex.val ≤
      (m.accrue config now).indexes.borrow.p2pIndex.val + roundingError m.indexes.supply.p2pIndex := by
  have hord' : m.indexes.supply.p2pIndex.val ≤ m.indexes.borrow.p2pIndex.val := hord
  by_cases hnow : now ≤ m.indexes.lastUpdate
  · rw [accrue_of_le m config hnow]
    omega
  rw [accrue_indexes (Nat.lt_of_not_le hnow)]
  dsimp only
  have hg := hr.growthOrdered
  generalize m.growth config now = gr at *
  have hpg : m.deltas.supply.scaledDelta.val = 0 ∨ gr.poolSupply ≤ gr.p2pSupply := by
    rcases hsk with h | h
    · exact .inr (hg.supply h)
    · exact .inl h
  -- the supply side: its growth plus one conversion's rounding
  have hsup := p2pIndexAfter_le (P := m.indexes.supply.poolIndex) (D := m.deltas.supply)
    (I := proportionIdle m.idleSupply m.deltas.supply m.indexes.supply.p2pIndex)
    (Nat.le_refl _) hpg (.inr hg.ray_le_p2pSupply) hg.p2pSupply_lt hg.poolSupply_lt
    hr.stored.supply.p2p_lt
  -- the borrow side: at least its growth
  have hbor := le_p2pIndexAfter (L := m.indexes.borrow.p2pIndex) (P := m.indexes.borrow.poolIndex)
    (D := m.deltas.borrow) (Nat.le_refl _) hg.borrow hg.p2pBorrow_lt hg.poolBorrow_lt
  have h1 := rayMul_mono (i := gr.p2pSupply) hord
  have h2 := rayMul_mono_right (x := m.indexes.borrow.p2pIndex) hg.p2p
  rw [Word.le_iff_val_le] at hbor h1 h2
  omega

/-- Without idle supply, and while the pool's supply growth is at most its borrow growth, the
pool supply index stays at most the peer-to-peer supply index, to within one conversion's
rounding at the last pool supply index. -/
theorem poolSupply_le_p2pSupply (hr : m.AccruesInRange config now) (hidle : m.idleSupply.val = 0)
    (hsk : (m.growth config now).poolSupply ≤ (m.growth config now).poolBorrow)
    (hout : m.indexes.supply.poolIndex ≤ m.indexes.supply.p2pIndex) :
    (m.accrue config now).indexes.supply.poolIndex.val ≤
      (m.accrue config now).indexes.supply.p2pIndex.val + roundingError m.indexes.supply.poolIndex := by
  have hout' : m.indexes.supply.poolIndex.val ≤ m.indexes.supply.p2pIndex.val := hout
  by_cases hnow : now ≤ m.indexes.lastUpdate
  · rw [accrue_of_le m config hnow]
    omega
  rw [accrue_indexes (Nat.lt_of_not_le hnow)]
  dsimp only
  have hidle0 : proportionIdle m.idleSupply m.deltas.supply m.indexes.supply.p2pIndex = 0 := by
    unfold proportionIdle
    rw [if_pos (.inl hidle)]
  rw [hidle0]
  -- the aged index is the stored one converted back by the growth
  have hround := le_rayMul_rayDiv hr.stored.supply.pool_ge hr.stored.supply.pool_lt hr.supplyAgedLt
  rw [← growth_poolSupply m config now] at hround
  have hg := hr.growthOrdered
  generalize m.growth config now = gr at *
  have h1 := rayMul_mono (i := gr.poolSupply) hout
  have h2 := le_p2pIndexAfter (L := m.indexes.supply.p2pIndex) (P := m.indexes.supply.poolIndex)
    (D := m.deltas.supply) (hg.supply hsk) (Nat.le_refl _) hg.p2pSupply_lt hg.poolSupply_lt
  rw [Word.le_iff_val_le] at h1 h2
  omega

/-- The peer-to-peer borrow index stays at most the pool borrow index, to within one conversion's
rounding at each of the last two borrow indexes: the borrow side has no idle share and its
growth is at most the pool's. -/
theorem p2pBorrow_le_poolBorrow (hr : m.AccruesInRange config now)
    (hout : m.indexes.borrow.p2pIndex ≤ m.indexes.borrow.poolIndex) :
    (m.accrue config now).indexes.borrow.p2pIndex.val ≤
      (m.accrue config now).indexes.borrow.poolIndex.val + roundingError m.indexes.borrow.p2pIndex +
        roundingError m.indexes.borrow.poolIndex := by
  have hout' : m.indexes.borrow.p2pIndex.val ≤ m.indexes.borrow.poolIndex.val := hout
  by_cases hnow : now ≤ m.indexes.lastUpdate
  · rw [accrue_of_le m config hnow]
    omega
  rw [accrue_indexes (Nat.lt_of_not_le hnow)]
  dsimp only
  have hround := rayMul_rayDiv_le hr.stored.borrow.pool_ge hr.stored.borrow.pool_lt hr.borrowAgedLt
  rw [← growth_poolBorrow m config now] at hround
  have hg := hr.growthOrdered
  generalize m.growth config now = gr at *
  have h1 := p2pIndexAfter_le (P := m.indexes.borrow.poolIndex) (D := m.deltas.borrow)
    (I := 0) hg.borrow (.inr (Nat.le_refl _)) (.inl rfl) hg.poolBorrow_lt hg.poolBorrow_lt
    hr.stored.borrow.p2p_lt
  have h2 := rayMul_mono (i := gr.poolBorrow) hout
  rw [Word.le_iff_val_le] at h2
  omega

end MarketState

/-! ## 6. Markets without peer-to-peer principal

A market in which nothing is matched peer to peer moves each peer-to-peer index by its skewed
growth alone: no blend, no rounding of shares, and the order of the two indexes is kept exactly,
since a rounded product is monotone in both factors. A new market is such a market, and accrual
keeps it one. -/

namespace MarketState

variable {m : MarketState} {config : MarketConfig} {now : Nat}

/-- A market with no peer-to-peer principal on either side, pool indexes of at least one ray
both stored and in its reserve, a pool borrow rate below `rateBound`, and its peer-to-peer supply
index at most its borrow index. -/
structure Unmatched (m : MarketState) : Prop where
  supplyP2P : m.deltas.supply.scaledP2PTotal.val = 0
  borrowP2P : m.deltas.borrow.scaledP2PTotal.val = 0
  poolSupply : ray ≤ m.indexes.supply.poolIndex
  poolBorrow : ray ≤ m.indexes.borrow.poolIndex
  reserveSupply : ray ≤ m.poolReserve.liquidityIndex
  reserveBorrow : ray ≤ m.poolReserve.variableBorrowIndex
  borrowRate : m.poolReserve.variableBorrowRate.val < rateBound
  ordered : m.indexes.supply.p2pIndex ≤ m.indexes.borrow.p2pIndex

/-- A new market, whatever its pool rates below `rateBound`, has nothing matched. -/
theorem unmatched_empty (underlying : Address) (timestamp : Nat) {supplyRate borrowRate : Word}
    (hr : borrowRate.val < rateBound) :
    ({ MarketState.empty underlying timestamp with
        poolReserve := ⟨ray, ray, supplyRate, borrowRate, timestamp⟩ } : MarketState).Unmatched :=
  ⟨rfl, rfl, Nat.le_refl _, Nat.le_refl _, Nat.le_refl _, Nat.le_refl _, hr, Nat.le_refl _⟩

theorem Unmatched.ray_le_agedPool (h : m.Unmatched) (hnow : now < timeBound) :
    ray ≤ (m.agedPool now).supplyIndex ∧ ray ≤ (m.agedPool now).borrowIndex := by
  unfold agedPool PoolIndexes.age
  split
  · exact ⟨h.reserveSupply, h.reserveBorrow⟩
  · exact ⟨ray_le_rayMul (ray_le_linearInterest _ _) h.reserveSupply,
      ray_le_rayMul (ray_le_compoundedInterest h.borrowRate (by omega)) h.reserveBorrow⟩

/-- Accrual keeps a market unmatched: the stored and reserve pool indexes become the aged ones,
which are at least one ray, and each peer-to-peer index grows by its own skewed growth, the
supply side's at most the borrow side's. -/
theorem Unmatched.accrue (h : m.Unmatched) (hrf : config.p2pReserveFactor.val ≤ 10000)
    (hnow : now < timeBound) : (m.accrue config now).Unmatched := by
  by_cases hle : now ≤ m.indexes.lastUpdate
  · rw [accrue_of_le m config hle]
    exact h
  have haged := h.ray_le_agedPool hnow
  have hbg : (m.growth config now).poolBorrow.val < growthBound :=
    rayDiv_lt_growthBound h.poolBorrow
  obtain ⟨hp2p, -, -, -⟩ := skewedMid_ordered (c := config.p2pIndexCursor) hrf
    (mul_percent_lt_of_lt_growthBound hbg)
  have hidx := @accrue_indexes _ config _ (Nat.lt_of_not_le hle)
  -- without peer-to-peer principal, neither index blends
  have hsupply : p2pIndexAfter (m.growth config now).poolSupply (m.growth config now).p2pSupply
      m.indexes.supply.poolIndex m.indexes.supply.p2pIndex m.deltas.supply
      (proportionIdle m.idleSupply m.deltas.supply m.indexes.supply.p2pIndex) =
      rayMul m.indexes.supply.p2pIndex (m.growth config now).p2pSupply := by
    unfold p2pIndexAfter
    rw [if_pos (.inl h.supplyP2P)]
  have hborrow : p2pIndexAfter (m.growth config now).poolBorrow (m.growth config now).p2pBorrow
      m.indexes.borrow.poolIndex m.indexes.borrow.p2pIndex m.deltas.borrow 0 =
      rayMul m.indexes.borrow.p2pIndex (m.growth config now).p2pBorrow := by
    unfold p2pIndexAfter
    rw [if_pos (.inl h.borrowP2P)]
  rw [hsupply, hborrow] at hidx
  unfold MarketState.accrue at hidx ⊢
  rw [if_neg hle] at hidx ⊢
  refine ⟨h.supplyP2P, h.borrowP2P, haged.1, haged.2, haged.1, haged.2, h.borrowRate, ?_⟩
  rw [hidx]
  exact Nat.le_trans (rayMul_mono h.ordered) (rayMul_mono_right hp2p)

/-- Accrues a market through a run of configurations and times. -/
def accrueAll (m : MarketState) : List (MarketConfig × Nat) → MarketState
  | [] => m
  | (config, now) :: rest => (m.accrue config now).accrueAll rest

/-- A run of accruals, each with a reserve factor of at most one hundred percent and a time below
`timeBound`, keeps a market unmatched. -/
theorem Unmatched.accrueAll (h : m.Unmatched) {steps : List (MarketConfig × Nat)}
    (hsteps : ∀ s ∈ steps, s.1.p2pReserveFactor.val ≤ 10000 ∧ s.2 < timeBound) :
    (m.accrueAll steps).Unmatched := by
  induction steps generalizing m with
  | nil => exact h
  | cons s rest ih =>
    obtain ⟨config, now⟩ := s
    obtain ⟨hrf, hnow⟩ := hsteps _ List.mem_cons_self
    exact ih (h.accrue hrf hnow) fun s hs => hsteps s (List.mem_cons_of_mem _ hs)

end MarketState

/-- Every market of a snapshot is unmatched. -/
def Snapshot.AllUnmatched (s : Snapshot) : Prop :=
  ∀ k market, s.markets.get? k = some market → market.Unmatched

/-- Aging a snapshot keeps every market unmatched when every configuration's reserve factor is at
most one hundred percent: each market is accrued under its own configuration, or kept as it is
without one. -/
theorem Snapshot.AllUnmatched.accrue {s : Snapshot} {now : Nat} (h : s.AllUnmatched)
    (hcfg : ∀ k config, s.configs.get? k = some config → config.p2pReserveFactor.val ≤ 10000)
    (hnow : now < timeBound) : (s.accrue now).AllUnmatched := by
  intro k market hm
  simp only [Snapshot.accrue, AddrMap.get?_mapValues, Option.map_eq_some_iff] at hm
  obtain ⟨market₀, hm₀, rfl⟩ := hm
  cases hc : s.configs.get? k with
  | none => exact h k market₀ hm₀
  | some config => exact (h k market₀ hm₀).accrue (hcfg k config hc) hnow

/-! ## 7. Where the exact order fails

Three markets at zero rates, last updated at 1000 and accrued to 2000, whose reserve already holds
the aged pool indexes. -/

/-- All stored indexes at `stored`, the reserve at `agedSupply` and `agedBorrow`, and
`scaledDelta` of the `scaledP2PTotal` peer-to-peer supply resting on the pool. -/
def accrualMarket (stored agedSupply agedBorrow scaledDelta scaledP2PTotal : Word) :
    MarketState where
  underlying := Address.ofNat 0xaaaaaaaaaaaaaaaaaaaaaaaaaaaaaaaaaaaaaaaa
  scaledPoolSupply := 0
  scaledPoolBorrow := 0
  scaledProtocolSupplyOnPool := 0
  scaledProtocolBorrowOnPool := 0
  scaledProtocolCollateral := 0
  deltas := ⟨⟨scaledDelta, scaledP2PTotal⟩, ⟨0, 0⟩⟩
  idleSupply := 0
  indexes := ⟨⟨stored, stored⟩, ⟨stored, stored⟩, 1000⟩
  poolReserve := ⟨agedSupply, agedBorrow, 0, 0, 1000⟩
  poolLiquidity := 0
  chainUsdPrice := 100000000

/-- A cursor in the middle and no reserve factor. -/
def accrualConfig : MarketConfig where
  underlying := Address.ofNat 0xaaaaaaaaaaaaaaaaaaaaaaaaaaaaaaaaaaaaaaaa
  symbol := "TKN"
  decimals := 18
  collateralFactor := 8000
  borrowableFactor := 7500
  p2pReserveFactor := 0
  p2pIndexCursor := 5000
  supplyCap := 0
  borrowCap := 0
  pause := {}
  eModeCategory := 0
  wrappedNative := false

/-- Half of the peer-to-peer supply rests on the pool at three rays, and both pool indexes have
grown by two units. -/
def roundingMarket : MarketState :=
  accrualMarket 3000000000000000000000000000 3000000000000000000000000002
    3000000000000000000000000002 1000000000000000000000000000 2000000000000000000000000000

/-- Half of the peer-to-peer supply rests on the pool, and a donation doubled the pool supply
index while the pool borrow index stayed. -/
def donationMarket : MarketState := accrualMarket ray 2000000000000000000000000000 ray 1 2

/-- Nothing is matched, and the pool supply index has grown by one unit over three rays. -/
def outerMarket : MarketState :=
  accrualMarket 3000000000000000000000000000 3000000000000000000000000001
    3000000000000000000000000000 0 0

/-- Rounding lifts the supply index over the borrow index: both growths are one ray and one unit,
and each half of the supply blend rounds up. A donation is earned by the supply delta and by no
borrower: the supply index ends half a ray above the borrow index. A growth of one unit over three
rays rounds to exactly one ray, and the pool supply index stays ahead of the peer-to-peer one. -/
theorem accrue_breaks_exact_index_order :
    (roundingMarket.accrue accrualConfig 2000).indexes.supply.p2pIndex.val =
        (roundingMarket.accrue accrualConfig 2000).indexes.borrow.p2pIndex.val + 3 ∧
      (donationMarket.accrue accrualConfig 2000).indexes.supply.p2pIndex.val =
        1500000000000000000000000000 ∧
      (donationMarket.accrue accrualConfig 2000).indexes.borrow.p2pIndex = ray ∧
      (outerMarket.accrue accrualConfig 2000).indexes.supply.poolIndex.val =
        (outerMarket.accrue accrualConfig 2000).indexes.supply.p2pIndex.val + 1 := by
  decide

/-! ## 8. The order of the peer-to-peer indexes -/

/-- Peer-to-peer suppliers out-earn borrowers by no more than rounding. One accrual in range keeps
the peer-to-peer supply index at most the borrow index to within one conversion's rounding at the
last supply index, while the pool's supply growth is at most its borrow growth or no supply delta
rests on the pool; without idle supply and with that order of growths it keeps the pool supply
index at most the peer-to-peer supply index, and always the peer-to-peer borrow index at most the
pool borrow index, each to within the rounding at the last indexes. Without peer-to-peer
principal the order holds exactly along every run of accruals of a market, and aging a snapshot
keeps it for every market. -/
theorem accrue_keeps_p2p_order :
    (∀ (m : MarketState) (config : MarketConfig) (now : Nat), m.AccruesInRange config now →
      m.indexes.supply.p2pIndex ≤ m.indexes.borrow.p2pIndex →
      ((m.growth config now).poolSupply ≤ (m.growth config now).poolBorrow ∨
        m.deltas.supply.scaledDelta.val = 0) →
      (m.accrue config now).indexes.supply.p2pIndex.val ≤
        (m.accrue config now).indexes.borrow.p2pIndex.val + roundingError m.indexes.supply.p2pIndex) ∧
    (∀ (m : MarketState) (config : MarketConfig) (now : Nat), m.AccruesInRange config now →
      m.idleSupply.val = 0 → (m.growth config now).poolSupply ≤ (m.growth config now).poolBorrow →
      m.indexes.supply.poolIndex ≤ m.indexes.supply.p2pIndex →
      (m.accrue config now).indexes.supply.poolIndex.val ≤
        (m.accrue config now).indexes.supply.p2pIndex.val + roundingError m.indexes.supply.poolIndex) ∧
    (∀ (m : MarketState) (config : MarketConfig) (now : Nat), m.AccruesInRange config now →
      m.indexes.borrow.p2pIndex ≤ m.indexes.borrow.poolIndex →
      (m.accrue config now).indexes.borrow.p2pIndex.val ≤
        (m.accrue config now).indexes.borrow.poolIndex.val + roundingError m.indexes.borrow.p2pIndex +
          roundingError m.indexes.borrow.poolIndex) ∧
    (∀ (m : MarketState) (steps : List (MarketConfig × Nat)), m.Unmatched →
      (∀ s ∈ steps, s.1.p2pReserveFactor.val ≤ 10000 ∧ s.2 < timeBound) →
      (m.accrueAll steps).indexes.supply.p2pIndex ≤ (m.accrueAll steps).indexes.borrow.p2pIndex) ∧
    (∀ (s : Snapshot) (now : Nat), s.AllUnmatched →
      (∀ k config, s.configs.get? k = some config → config.p2pReserveFactor.val ≤ 10000) →
      now < timeBound → (s.accrue now).AllUnmatched) :=
  ⟨fun _ _ _ hr hord hsk => MarketState.p2pSupply_le_p2pBorrow hr hord hsk,
   fun _ _ _ hr hidle hsk hout => MarketState.poolSupply_le_p2pSupply hr hidle hsk hout,
   fun _ _ _ hr hout => MarketState.p2pBorrow_le_poolBorrow hr hout,
   fun _ _ h hsteps => (h.accrueAll hsteps).ordered,
   fun _ _ h hcfg hnow => h.accrue hcfg hnow⟩

/-- A new market with pool rates of three and five percent a year. -/
def newMarket : MarketState :=
  { MarketState.empty (Address.ofNat 0xaaaaaaaaaaaaaaaaaaaaaaaaaaaaaaaaaaaaaaaa) 1000 with
    poolReserve := ⟨ray, ray, 30000000000000000000000000, 50000000000000000000000000, 1000⟩ }

/-- A month of accrual, then the rest of a year. -/
def newMarketSteps : List (MarketConfig × Nat) :=
  [(accrualConfig, 2629000), (accrualConfig, 31537000)]

theorem sample_markets_keep_p2p_order :
    (roundingMarket.AccruesInRange accrualConfig 2000 ∧
      roundingMarket.indexes.supply.p2pIndex ≤ roundingMarket.indexes.borrow.p2pIndex ∧
      ((roundingMarket.growth accrualConfig 2000).poolSupply ≤
          (roundingMarket.growth accrualConfig 2000).poolBorrow ∨
        roundingMarket.deltas.supply.scaledDelta.val = 0) ∧
      (roundingMarket.accrue accrualConfig 2000).indexes.supply.p2pIndex.val ≤
        (roundingMarket.accrue accrualConfig 2000).indexes.borrow.p2pIndex.val +
          roundingError roundingMarket.indexes.supply.p2pIndex) ∧
    (outerMarket.AccruesInRange accrualConfig 2000 ∧ outerMarket.idleSupply.val = 0 ∧
      (outerMarket.growth accrualConfig 2000).poolSupply ≤
        (outerMarket.growth accrualConfig 2000).poolBorrow ∧
      outerMarket.indexes.supply.poolIndex ≤ outerMarket.indexes.supply.p2pIndex ∧
      (outerMarket.accrue accrualConfig 2000).indexes.supply.poolIndex.val ≤
        (outerMarket.accrue accrualConfig 2000).indexes.supply.p2pIndex.val +
          roundingError outerMarket.indexes.supply.poolIndex) ∧
    (outerMarket.indexes.borrow.p2pIndex ≤ outerMarket.indexes.borrow.poolIndex ∧
      (outerMarket.accrue accrualConfig 2000).indexes.borrow.p2pIndex.val ≤
        (outerMarket.accrue accrualConfig 2000).indexes.borrow.poolIndex.val +
          roundingError outerMarket.indexes.borrow.p2pIndex +
          roundingError outerMarket.indexes.borrow.poolIndex) ∧
    (newMarket.Unmatched ∧
      (∀ s ∈ newMarketSteps, s.1.p2pReserveFactor.val ≤ 10000 ∧ s.2 < timeBound) ∧
      (newMarket.accrueAll newMarketSteps).indexes.supply.p2pIndex ≤
        (newMarket.accrueAll newMarketSteps).indexes.borrow.p2pIndex) ∧
    ((Snapshot.empty.withMarket newMarket accrualConfig).AllUnmatched ∧
      (∀ k config, (Snapshot.empty.withMarket newMarket accrualConfig).configs.get? k = some config →
        config.p2pReserveFactor.val ≤ 10000) ∧
      2629000 < timeBound ∧
      ((Snapshot.empty.withMarket newMarket accrualConfig).accrue 2629000).AllUnmatched) := by
  have hround : roundingMarket.AccruesInRange accrualConfig 2000 :=
    ⟨by decide, ⟨⟨by decide, by decide, by decide, by decide⟩,
      ⟨by decide, by decide, by decide, by decide⟩⟩, by decide, by decide, by decide, by decide⟩
  have houter : outerMarket.AccruesInRange accrualConfig 2000 :=
    ⟨by decide, ⟨⟨by decide, by decide, by decide, by decide⟩,
      ⟨by decide, by decide, by decide, by decide⟩⟩, by decide, by decide, by decide, by decide⟩
  have hnew : newMarket.Unmatched := MarketState.unmatched_empty _ _ (by decide)
  have hsteps : ∀ s ∈ newMarketSteps, s.1.p2pReserveFactor.val ≤ 10000 ∧ s.2 < timeBound := by
    decide
  have hall : (Snapshot.empty.withMarket newMarket accrualConfig).AllUnmatched := by
    intro k market hm
    obtain ⟨-, rfl⟩ := AddrMap.get?_single hm
    exact hnew
  have hcfg : ∀ k config, (Snapshot.empty.withMarket newMarket accrualConfig).configs.get? k =
      some config → config.p2pReserveFactor.val ≤ 10000 := by
    intro k config hc
    obtain ⟨-, rfl⟩ := AddrMap.get?_single hc
    decide
  have hord : roundingMarket.indexes.supply.p2pIndex ≤ roundingMarket.indexes.borrow.p2pIndex := by
    decide
  have hsk : (roundingMarket.growth accrualConfig 2000).poolSupply ≤
      (roundingMarket.growth accrualConfig 2000).poolBorrow := by decide
  have hsk' : (outerMarket.growth accrualConfig 2000).poolSupply ≤
      (outerMarket.growth accrualConfig 2000).poolBorrow := by decide
  have hout : outerMarket.indexes.supply.poolIndex ≤ outerMarket.indexes.supply.p2pIndex := by decide
  have hout' : outerMarket.indexes.borrow.p2pIndex ≤ outerMarket.indexes.borrow.poolIndex := by
    decide
  exact ⟨⟨hround, hord, .inl hsk, accrue_keeps_p2p_order.1 _ _ _ hround hord (.inl hsk)⟩,
    ⟨houter, rfl, hsk', hout, accrue_keeps_p2p_order.2.1 _ _ _ houter rfl hsk' hout⟩,
    ⟨hout', accrue_keeps_p2p_order.2.2.1 _ _ _ houter hout'⟩,
    ⟨hnew, hsteps, accrue_keeps_p2p_order.2.2.2.1 _ _ hnew hsteps⟩,
    ⟨hall, hcfg, by decide, accrue_keeps_p2p_order.2.2.2.2 _ _ hall hcfg (by decide)⟩⟩

end PeerLending
