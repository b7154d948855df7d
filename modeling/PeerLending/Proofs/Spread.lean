import PeerLending.Proofs.Accrual

/-!
# The peer-to-peer spread

The skewed mid places the peer-to-peer values between the pool's supply and borrow values: the
cursor's weighted average first, then each side moved by the reserve factor toward its own pool
value, and both sides at the borrow value when the supply value exceeds it
(`skewedMid_between`). This holds as long as the borrow value times one hundred percent fits in a
word. Past that the weighted average saturates below the supply value and `mid - supply` wraps.

Growth factors are the skewed mid of the pool's growths, so they nest (`Growth.nested_between`).
An accrual whose aged pool indexes stay at most `2^128` never lowers an index
(`accrue_never_lowers_indexes`): every growth is at least one ray, and so is every blend of
growths, whose shares sum to exactly one ray and are each rounded half up from a product at
least as large. A stored pool index of one with an aged one of about `3.2·10^46` breaks this: the
supply growth passes `2^256 / 10^4`, the peer-to-peer supply growth wraps to zero, and the supply
index with it (`wide_growth_zeroes_supply_index`).

Rates blend like indexes, but a blend rounds each of its two products half up, and two halves
can round up together. A blended rate is at most its larger rate plus one unit and at least its
smaller one, as long as no share saturates (rates below `shareBound`, `2^166`). So the
peer-to-peer supply rate is at most the borrow rate plus one, and the borrow rate at most the
pool borrow rate plus one, exactly so on a side that does not blend (`rates_nearly_ordered`).
-/

set_option autoImplicit false

namespace PeerLending

/-! ## 1. The skewed mid on its whole domain -/

/-- The skewed mid lies between its two sides: `s ≤ x ≤ y ≤ b` when `s ≤ b`, and both at `b`
when `s > b`. -/
theorem skewedMid_between {s b c rf : Word} (hb : b.val * 10000 < wordSize)
    (hrf : rf.val ≤ 10000) :
    (s ≤ b → s ≤ (skewedMid s b c rf).1 ∧ (skewedMid s b c rf).1 ≤ (skewedMid s b c rf).2 ∧
        (skewedMid s b c rf).2 ≤ b) ∧
      (b < s → skewedMid s b c rf = (b, b)) := by
  obtain ⟨hxy, hyb, hsx, -⟩ := skewedMid_ordered (x := s) (c := c) hrf hb
  refine ⟨fun hsb => ⟨hsx hsb, hxy, hyb⟩, fun hbs => ?_⟩
  unfold skewedMid
  rw [if_pos hbs]

theorem mul_percent_lt_of_lt_shareBound {x : Word} (h : x.val < shareBound) :
    x.val * 10000 < wordSize :=
  Nat.lt_of_le_of_lt (Nat.mul_le_mul_right _ (Nat.le_of_lt h)) (by decide)

/-! ## 2. Growth factors nest -/

/-- The four growths of one aging period in order: the pool's supply growth, the peer-to-peer
supply growth, the peer-to-peer borrow growth, the pool's borrow growth. -/
def Growth.Nested (g : Growth) : Prop :=
  g.poolSupply ≤ g.p2pSupply ∧ g.p2pSupply ≤ g.p2pBorrow ∧ g.p2pBorrow ≤ g.poolBorrow

/-- Growth factors nest while the pool's supply growth is at most its borrow growth and the
borrow growth times one hundred percent fits in a word. -/
theorem Growth.nested_between {lastS lastB S B c rf : Word} (hrf : rf.val ≤ 10000)
    (hb : (rayDiv B lastB).val * 10000 < wordSize) (hsb : rayDiv S lastS ≤ rayDiv B lastB) :
    (Growth.between lastS lastB S B c rf).Nested :=
  (skewedMid_between (c := c) hb hrf).1 hsb

/-! ## 3. Blended rates

A blend adds two shares of rates, half up each; the shares sum to at most one ray. Rounded
separately, the sum is the exact blend rounded down, or one more. -/

section Blend

variable {a a' c m δ : Word}

/-- A blend of two rates at most `c`, by shares summing to at most one ray, is at most `c` plus
one. -/
theorem blend_le_succ (ha : a ≤ c) (ha' : a' ≤ c) (hc : c.val < shareBound)
    (hm : m.val ≤ ray.val) (hδ : δ.val ≤ ray.val) (hsum : m.val + δ.val ≤ ray.val) :
    (rayMul a m + rayMul a' δ).val ≤ c.val + 1 := by
  rw [val_add_rayMul, rayMul_comm a m, rayMul_comm a' δ,
    val_rayMul_of_share hm (Nat.lt_of_le_of_lt ha hc),
    val_rayMul_of_share hδ (Nat.lt_of_le_of_lt ha' hc)]
  have hround := (round_add_round (m.val * a.val) (δ.val * a'.val)).2
  -- the exact blend is at most `c`
  have hexact : (m.val * a.val + δ.val * a'.val) / ray.val ≤ c.val :=
    calc (m.val * a.val + δ.val * a'.val) / ray.val
        ≤ ray.val * c.val / ray.val := by
          apply Nat.div_le_div_right
          calc m.val * a.val + δ.val * a'.val ≤ m.val * c.val + δ.val * c.val :=
                Nat.add_le_add (Nat.mul_le_mul_left _ ha) (Nat.mul_le_mul_left _ ha')
            _ = (m.val + δ.val) * c.val := (Nat.add_mul _ _ _).symm
            _ ≤ ray.val * c.val := Nat.mul_le_mul_right _ hsum
      _ = c.val := Nat.mul_div_cancel_left _ (by decide)
  omega

/-- A blend of two rates at least `c`, by shares summing to one ray, is at least `c`. -/
theorem le_blend (ha : c ≤ a) (ha' : c ≤ a') (hab : a.val < shareBound) (hab' : a'.val < shareBound)
    (hm : m.val ≤ ray.val) (hδ : δ.val ≤ ray.val) (hsum : m.val + δ.val = ray.val) :
    c.val ≤ (rayMul a m + rayMul a' δ).val := by
  rw [val_add_rayMul, rayMul_comm a m, rayMul_comm a' δ, val_rayMul_of_share hm hab,
    val_rayMul_of_share hδ hab']
  have hround := (round_add_round (m.val * a.val) (δ.val * a'.val)).1
  -- the exact blend is at least `c`
  have hexact : c.val ≤ (m.val * a.val + δ.val * a'.val) / ray.val :=
    calc c.val = ray.val * c.val / ray.val := (Nat.mul_div_cancel_left _ (by decide)).symm
      _ ≤ (m.val * a.val + δ.val * a'.val) / ray.val := by
          apply Nat.div_le_div_right
          calc ray.val * c.val = (m.val + δ.val) * c.val := by rw [hsum]
            _ = m.val * c.val + δ.val * c.val := Nat.add_mul _ _ _
            _ ≤ m.val * a.val + δ.val * a'.val :=
                Nat.add_le_add (Nat.mul_le_mul_left _ ha) (Nat.mul_le_mul_left _ ha')
  omega

end Blend

/-- Neither floored subtraction of the matched share floors: the matched share, the delta share
and the idle share capped at one ray sum to one ray. -/
theorem blendShares_sum (D : SideDelta) (poolIndex p2pIndex idleShare : Word) :
    (zeroFloorSub (zeroFloorSub ray (proportionDelta D poolIndex p2pIndex (Word.min idleShare ray)))
          (Word.min idleShare ray)).val +
        (proportionDelta D poolIndex p2pIndex (Word.min idleShare ray)).val +
        (Word.min idleShare ray).val = ray.val := by
  have hidle : (Word.min idleShare ray).val ≤ ray.val := Word.min_le_right _ _
  have hδ := proportionDelta_le D poolIndex p2pIndex (Word.min idleShare ray)
  rw [zeroFloorSub, Word.val_satSub, zeroFloorSub, Word.val_satSub]
  omega

namespace P2PRateInputs

variable {p : P2PRateInputs}

/-- The skewed mid of the pool rates. -/
def mid (p : P2PRateInputs) : Word × Word :=
  skewedMid p.poolSupplyRate p.poolBorrowRate p.cursor p.reserveFactor

/-- The supply rate blends: there is peer-to-peer supply, and some of it rests on the pool or is
idle. -/
def SupplyBlends (p : P2PRateInputs) : Prop :=
  p.deltas.supply.scaledP2PTotal.val ≠ 0 ∧
    (p.deltas.supply.scaledDelta.val ≠ 0 ∨ p.idleShare.val ≠ 0)

instance : Decidable p.SupplyBlends := inferInstanceAs (Decidable (_ ∧ _))

/-- The borrow rate blends: there is peer-to-peer debt, and some of it rests on the pool. -/
def BorrowBlends (p : P2PRateInputs) : Prop :=
  p.deltas.borrow.scaledP2PTotal.val ≠ 0 ∧ p.deltas.borrow.scaledDelta.val ≠ 0

instance : Decidable p.BorrowBlends := inferInstanceAs (Decidable (_ ∧ _))

/-- The share of peer-to-peer supply resting on the pool. -/
def supplyDeltaShare (p : P2PRateInputs) : Word :=
  proportionDelta p.deltas.supply p.poolSupplyIndex p.p2pSupplyIndex (Word.min p.idleShare ray)

/-- The share of peer-to-peer debt resting on the pool. -/
def borrowDeltaShare (p : P2PRateInputs) : Word :=
  proportionDelta p.deltas.borrow p.poolBorrowIndex p.p2pBorrowIndex 0

theorem supplyRate_eq (p : P2PRateInputs) :
    p.rates.supplyRate =
      if p.SupplyBlends then
        rayMul p.mid.1
            (zeroFloorSub (zeroFloorSub ray p.supplyDeltaShare) (Word.min p.idleShare ray)) +
          rayMul p.poolSupplyRate p.supplyDeltaShare
      else p.mid.1 :=
  rfl

theorem borrowRate_eq (p : P2PRateInputs) :
    p.rates.borrowRate =
      if p.BorrowBlends then
        rayMul p.mid.2 (ray - p.borrowDeltaShare) + rayMul p.poolBorrowRate p.borrowDeltaShare
      else p.mid.2 :=
  rfl

/-- The matched share of supply and its delta share sum to at most one ray. -/
theorem supplyShares_le :
    (zeroFloorSub (zeroFloorSub ray p.supplyDeltaShare) (Word.min p.idleShare ray)).val +
        p.supplyDeltaShare.val ≤ ray.val ∧
      p.supplyDeltaShare.val ≤ ray.val := by
  have hsum := blendShares_sum p.deltas.supply p.poolSupplyIndex p.p2pSupplyIndex p.idleShare
  unfold supplyDeltaShare
  omega

theorem supplyRate_le_succ (hmid : p.poolSupplyRate ≤ p.mid.1) (hc : p.mid.1.val < shareBound) :
    p.rates.supplyRate.val ≤ p.mid.1.val + 1 := by
  rw [supplyRate_eq]
  split
  · obtain ⟨hsum, hδ⟩ := supplyShares_le (p := p)
    exact blend_le_succ (Nat.le_refl _) hmid hc (by omega) hδ hsum
  · exact Nat.le_succ _

theorem borrowRate_between (hmid : p.mid.2 ≤ p.poolBorrowRate)
    (hb : p.poolBorrowRate.val < shareBound) :
    p.mid.2 ≤ p.rates.borrowRate ∧ p.rates.borrowRate.val ≤ p.poolBorrowRate.val + 1 := by
  rw [borrowRate_eq]
  split
  · have hδ : p.borrowDeltaShare.val ≤ ray.val := by
      have := proportionDelta_le p.deltas.borrow p.poolBorrowIndex p.p2pBorrowIndex 0
      exact Nat.le_trans this (Nat.sub_le _ _)
    have hm : (ray - p.borrowDeltaShare).val = ray.val - p.borrowDeltaShare.val :=
      Word.val_sub_of_le hδ
    have hmid' : p.mid.2.val < shareBound := Nat.lt_of_le_of_lt hmid hb
    refine ⟨le_blend (Nat.le_refl _) hmid hmid' hb (by omega) hδ (by omega), ?_⟩
    exact blend_le_succ hmid (Nat.le_refl _) hb (by omega) hδ (by omega)
  · exact ⟨Nat.le_refl _, Nat.le_trans hmid (Nat.le_succ _)⟩

/-- Peer-to-peer rates keep their order to within one unit of rounding: with the pool supply
rate at most the pool borrow rate below `shareBound` and a reserve factor of at most one hundred
percent, the supply rate is at most the borrow rate plus one and the borrow rate at most the pool
borrow rate plus one; a side that does not blend keeps its order exactly. -/
theorem rates_nearly_ordered (hps : p.poolSupplyRate ≤ p.poolBorrowRate)
    (hb : p.poolBorrowRate.val < shareBound) (hrf : p.reserveFactor.val ≤ 10000) :
    p.rates.supplyRate.val ≤ p.rates.borrowRate.val + 1 ∧
      p.rates.borrowRate.val ≤ p.poolBorrowRate.val + 1 ∧
      (¬p.SupplyBlends → p.rates.supplyRate ≤ p.rates.borrowRate) ∧
      (¬p.BorrowBlends → p.rates.borrowRate ≤ p.poolBorrowRate) := by
  obtain ⟨hsx, hxy, hyb⟩ :=
    (skewedMid_between (c := p.cursor) (mul_percent_lt_of_lt_shareBound hb) hrf).1 hps
  change p.poolSupplyRate ≤ p.mid.1 at hsx
  change p.mid.1 ≤ p.mid.2 at hxy
  change p.mid.2 ≤ p.poolBorrowRate at hyb
  have hsupply := supplyRate_le_succ hsx (Nat.lt_of_le_of_lt (Nat.le_trans hxy hyb) hb)
  obtain ⟨hborrowLo, hborrowHi⟩ := borrowRate_between hyb hb
  have hxy' : p.mid.1.val ≤ p.mid.2.val := hxy
  have hlo : p.mid.2.val ≤ p.rates.borrowRate.val := hborrowLo
  refine ⟨by omega, hborrowHi, fun hs => ?_, fun hb' => ?_⟩
  · -- without a blend the supply rate is the mid supply rate
    rw [supplyRate_eq, if_neg hs]
    exact Nat.le_trans hxy' hlo
  · rw [borrowRate_eq, if_neg hb']
    exact hyb

end P2PRateInputs

/-! ## 4. The order of the spread

Pool rates of one unit with half of one side's peer-to-peer principal resting on the pool show
the rounding: both halves of the blend round up. Pool rates of `2^200` lie within the skewed
mid's domain, but a borrow blend of them saturates. And growths past `2^256 / 10^4` wrap the
skewed mid. -/

/-- Pool rates of one unit, the deltas given, no idle share, a cursor in the middle and no
reserve factor. -/
def unitRateInputs (supply borrow : SideDelta) : P2PRateInputs :=
  ⟨1, 1, ray, ray, ray, ray, 5000, 0, ⟨supply, borrow⟩, 0⟩

/-- Pool rates of `2^200`, half of the peer-to-peer debt resting on the pool. -/
def wideRateInputs : P2PRateInputs :=
  ⟨1606938044258990275541962092341162602522202993782792835301376,
    1606938044258990275541962092341162602522202993782792835301376,
    ray, ray, ray, ray, 5000, 0, ⟨⟨0, 0⟩, ⟨1, 2⟩⟩, 0⟩

/-- The skewed mid lies between its two sides for a borrow side below `2^256 / 10^4`, every
cursor and every reserve factor of at most one hundred percent; growth factors below that bound
nest; and peer-to-peer rates keep their order to within one unit of rounding while the pool
borrow rate is below `shareBound`, exactly on a side that does not blend. -/
theorem skewed_mid_orders_spread :
    (∀ s b c rf : Word, b.val * 10000 < wordSize → rf.val ≤ 10000 →
      (s ≤ b → s ≤ (skewedMid s b c rf).1 ∧ (skewedMid s b c rf).1 ≤ (skewedMid s b c rf).2 ∧
          (skewedMid s b c rf).2 ≤ b) ∧
        (b < s → skewedMid s b c rf = (b, b))) ∧
    (∀ lastS lastB S B c rf : Word, rf.val ≤ 10000 → (rayDiv B lastB).val * 10000 < wordSize →
      rayDiv S lastS ≤ rayDiv B lastB → (Growth.between lastS lastB S B c rf).Nested) ∧
    (∀ p : P2PRateInputs, p.poolSupplyRate ≤ p.poolBorrowRate → p.poolBorrowRate.val < shareBound →
      p.reserveFactor.val ≤ 10000 →
      p.rates.supplyRate.val ≤ p.rates.borrowRate.val + 1 ∧
        p.rates.borrowRate.val ≤ p.poolBorrowRate.val + 1 ∧
        (¬p.SupplyBlends → p.rates.supplyRate ≤ p.rates.borrowRate) ∧
        (¬p.BorrowBlends → p.rates.borrowRate ≤ p.poolBorrowRate)) :=
  ⟨fun _ _ _ _ hb hrf => skewedMid_between hb hrf,
   fun _ _ _ _ _ _ hrf hb hsb => Growth.nested_between hrf hb hsb,
   fun _ hps hb hrf => P2PRateInputs.rates_nearly_ordered hps hb hrf⟩

/-- Three and five units a side with a tenth of the spread kept as reserve; growths of three and
five rays; and the rounding of a supply blend, which stays within one unit. -/
theorem unit_spread_ordered :
    ((5 : Word).val * 10000 < wordSize ∧ (1000 : Word).val ≤ 10000 ∧
      ((3 : Word) ≤ 5 → (3 : Word) ≤ (skewedMid 3 5 5000 1000).1 ∧
          (skewedMid 3 5 5000 1000).1 ≤ (skewedMid 3 5 5000 1000).2 ∧
          (skewedMid 3 5 5000 1000).2 ≤ 5) ∧
        ((5 : Word) < 3 → skewedMid 3 5 5000 1000 = (5, 5))) ∧
    ((1000 : Word).val ≤ 10000 ∧ (rayDiv 5 1).val * 10000 < wordSize ∧ rayDiv 3 1 ≤ rayDiv 5 1 ∧
      (Growth.between 1 1 3 5 5000 1000).Nested) ∧
    ((unitRateInputs ⟨1, 2⟩ ⟨0, 0⟩).poolSupplyRate ≤
        (unitRateInputs ⟨1, 2⟩ ⟨0, 0⟩).poolBorrowRate ∧
      (unitRateInputs ⟨1, 2⟩ ⟨0, 0⟩).poolBorrowRate.val < shareBound ∧
      (unitRateInputs ⟨1, 2⟩ ⟨0, 0⟩).reserveFactor.val ≤ 10000 ∧
      (unitRateInputs ⟨1, 2⟩ ⟨0, 0⟩).rates.supplyRate.val ≤
          (unitRateInputs ⟨1, 2⟩ ⟨0, 0⟩).rates.borrowRate.val + 1 ∧
        (unitRateInputs ⟨1, 2⟩ ⟨0, 0⟩).rates.borrowRate.val ≤
          (unitRateInputs ⟨1, 2⟩ ⟨0, 0⟩).poolBorrowRate.val + 1 ∧
        (¬(unitRateInputs ⟨1, 2⟩ ⟨0, 0⟩).SupplyBlends →
          (unitRateInputs ⟨1, 2⟩ ⟨0, 0⟩).rates.supplyRate ≤
            (unitRateInputs ⟨1, 2⟩ ⟨0, 0⟩).rates.borrowRate) ∧
        (¬(unitRateInputs ⟨1, 2⟩ ⟨0, 0⟩).BorrowBlends →
          (unitRateInputs ⟨1, 2⟩ ⟨0, 0⟩).rates.borrowRate ≤
            (unitRateInputs ⟨1, 2⟩ ⟨0, 0⟩).poolBorrowRate)) := by
  have hb : (5 : Word).val * 10000 < wordSize := by decide
  have hrf : (1000 : Word).val ≤ 10000 := by decide
  have hg : (rayDiv 5 1).val * 10000 < wordSize := by decide
  have hsb : rayDiv 3 1 ≤ rayDiv 5 1 := by decide
  have hps : (unitRateInputs ⟨1, 2⟩ ⟨0, 0⟩).poolSupplyRate ≤
      (unitRateInputs ⟨1, 2⟩ ⟨0, 0⟩).poolBorrowRate := by decide
  have hpb : (unitRateInputs ⟨1, 2⟩ ⟨0, 0⟩).poolBorrowRate.val < shareBound := by decide
  have hrf' : (unitRateInputs ⟨1, 2⟩ ⟨0, 0⟩).reserveFactor.val ≤ 10000 := by decide
  exact ⟨⟨hb, hrf, skewed_mid_orders_spread.1 3 5 5000 1000 hb hrf⟩,
    ⟨hrf, hg, hsb, skewed_mid_orders_spread.2.1 1 1 3 5 5000 1000 hrf hg hsb⟩,
    ⟨hps, hpb, hrf', skewed_mid_orders_spread.2.2 _ hps hpb hrf'⟩⟩

/-- Blending rounds each share half up. At pool rates of one unit, half of the peer-to-peer
supply resting on the pool rounds both halves of the supply blend up, and the supply rate ends
one above the borrow rate; half of the debt resting on the pool lifts the borrow rate one above
the pool's. At pool rates of `2^200`, inside the skewed mid's domain, the borrow blend saturates
and the borrow rate falls far below the supply rate. Growths past `2^256 / 10^4` wrap the skewed
mid: last indexes of one and new ones of `2^200` give the largest word as both pool growths and
zero as the peer-to-peer supply growth. -/
theorem blended_rates_leave_their_order :
    (unitRateInputs ⟨1, 2⟩ ⟨0, 0⟩).rates = ⟨2, 1⟩ ∧
      (unitRateInputs ⟨0, 0⟩ ⟨1, 2⟩).rates = ⟨1, 2⟩ ∧
      wideRateInputs.poolBorrowRate.val * 10000 < wordSize ∧
      wideRateInputs.rates.borrowRate.val + 1 < wideRateInputs.rates.supplyRate.val ∧
      (Growth.between 1 1 1606938044258990275541962092341162602522202993782792835301376
          1606938044258990275541962092341162602522202993782792835301376
          5000 10000).poolSupply = Word.maxValue ∧
      (Growth.between 1 1 1606938044258990275541962092341162602522202993782792835301376
          1606938044258990275541962092341162602522202993782792835301376
          5000 10000).poolBorrow = Word.maxValue ∧
      (Growth.between 1 1 1606938044258990275541962092341162602522202993782792835301376
          1606938044258990275541962092341162602522202993782792835301376
          5000 10000).p2pSupply = 0 := by
  decide

/-! ## 5. Accrual never lowers an index -/

section Upward

variable {pg g P L I m δ idle : Word} {D : SideDelta}

/-- A blend of growths of at least one ray, whose shares sum to one ray, is at least one ray:
each share grows at least to itself. -/
theorem ray_le_blend (hg : ray ≤ g) (hpg : ray ≤ pg) (hm : m.val ≤ ray.val)
    (hδ : δ.val ≤ ray.val) (hidle : idle.val ≤ ray.val)
    (hsum : m.val + δ.val + idle.val = ray.val) :
    ray ≤ rayMul m g + rayMul δ pg + idle := by
  have hshare : ∀ {x : Word}, x.val ≤ ray.val → x.val * ray.val < wordSize := fun hx =>
    Nat.lt_of_le_of_lt (Nat.mul_le_mul_right _ hx) (by decide)
  have hmg : m ≤ rayMul m g := le_rayMul_of_ray_le hg (hshare hm)
  have hδpg : δ ≤ rayMul δ pg := le_rayMul_of_ray_le hpg (hshare hδ)
  have hfit : (rayMul m g + rayMul δ pg).val + idle.val < wordSize := by
    rw [val_add_rayMul]
    have h1 := rayMul_val_lt m g
    have h2 := rayMul_val_lt δ pg
    have hroom : Nat.pow 2 167 + Nat.pow 2 167 + ray.val < wordSize := by decide
    omega
  rw [Word.le_iff_val_le, Word.val_add_of_lt hfit, val_add_rayMul]
  have hmg' : m.val ≤ (rayMul m g).val := hmg
  have hδpg' : δ.val ≤ (rayMul δ pg).val := hδpg
  omega

/-- A peer-to-peer index whose growths are at least one ray does not fall, whatever its delta and
idle share, as long as it times one ray fits in a word. -/
theorem le_p2pIndexAfter_of_ray_le (hg : ray ≤ g) (hpg : ray ≤ pg)
    (hL : L.val * ray.val < wordSize) : L ≤ p2pIndexAfter pg g P L D I := by
  unfold p2pIndexAfter
  split
  · exact le_rayMul_of_ray_le hg hL
  · dsimp only
    apply le_rayMul_of_ray_le _ hL
    -- the matched, delta and idle shares sum to exactly one ray
    have hsum := blendShares_sum D P L I
    exact ray_le_blend hg hpg (by omega) (by omega) (by omega) hsum

end Upward

/-- A pool growth over a positive last index, to a new index of at most `2^128`, times one hundred
percent fits in a word. -/
theorem rayDiv_mul_percent_lt {A P : Word} (hP : 0 < P.val) (hPA : P ≤ A)
    (hA : A.val ≤ Nat.pow 2 128) : (rayDiv A P).val * 10000 < wordSize := by
  have hAv : A.val < valueBound := Nat.lt_of_le_of_lt hA (by decide)
  have hPA' : P.val ≤ A.val := hPA
  have hq : (rayDiv A P).val ≤ Nat.pow 2 128 * ray.val + Nat.pow 2 128 := by
    rw [val_rayDiv hAv hP]
    calc (A.val * ray.val + P.val / 2) / P.val ≤ A.val * ray.val + P.val / 2 := Nat.div_le_self _ _
      _ ≤ Nat.pow 2 128 * ray.val + Nat.pow 2 128 :=
          Nat.add_le_add (Nat.mul_le_mul_right _ hA) (by omega)
  calc (rayDiv A P).val * 10000 ≤ (Nat.pow 2 128 * ray.val + Nat.pow 2 128) * 10000 :=
        Nat.mul_le_mul_right _ hq
    _ < wordSize := by decide

/-- Every index of `new` at least the matching one of `old`. -/
def Indexes.Grown (old new : Indexes) : Prop :=
  old.supply.poolIndex ≤ new.supply.poolIndex ∧ old.supply.p2pIndex ≤ new.supply.p2pIndex ∧
    old.borrow.poolIndex ≤ new.borrow.poolIndex ∧ old.borrow.p2pIndex ≤ new.borrow.p2pIndex

namespace MarketState

variable {m : MarketState} {config : MarketConfig} {now : Nat}

/-- An accrual whose indexes stay in `[1, 2^128]`: a reserve factor of at most one hundred
percent, stored pool indexes of at least one, stored peer-to-peer indexes of at most `2^128`, and
aged pool indexes between the stored ones and `2^128`. -/
structure AccruesWithin (m : MarketState) (config : MarketConfig) (now : Nat) : Prop where
  reserveFactor : config.p2pReserveFactor.val ≤ 10000
  supplyPoolPos : 0 < m.indexes.supply.poolIndex.val
  borrowPoolPos : 0 < m.indexes.borrow.poolIndex.val
  supplyP2PLe : m.indexes.supply.p2pIndex.val ≤ Nat.pow 2 128
  borrowP2PLe : m.indexes.borrow.p2pIndex.val ≤ Nat.pow 2 128
  supplyAged : m.indexes.supply.poolIndex ≤ (m.agedPool now).supplyIndex
  borrowAged : m.indexes.borrow.poolIndex ≤ (m.agedPool now).borrowIndex
  supplyAgedLe : (m.agedPool now).supplyIndex.val ≤ Nat.pow 2 128
  borrowAgedLe : (m.agedPool now).borrowIndex.val ≤ Nat.pow 2 128

/-- Within `[1, 2^128]` every growth of an accrual is at least one ray. -/
theorem AccruesWithin.ray_le_growth (h : m.AccruesWithin config now) :
    ray ≤ (m.growth config now).poolSupply ∧ ray ≤ (m.growth config now).poolBorrow ∧
      ray ≤ (m.growth config now).p2pSupply ∧ ray ≤ (m.growth config now).p2pBorrow := by
  have hsR : ray ≤ (m.growth config now).poolSupply :=
    ray_le_rayDiv h.supplyAged h.supplyPoolPos (Nat.lt_of_le_of_lt h.supplyAgedLe (by decide))
  have hbR : ray ≤ (m.growth config now).poolBorrow :=
    ray_le_rayDiv h.borrowAged h.borrowPoolPos (Nat.lt_of_le_of_lt h.borrowAgedLe (by decide))
  obtain ⟨hxy, -, hsx, hdonation⟩ :=
    skewedMid_ordered (x := (m.growth config now).poolSupply) (c := config.p2pIndexCursor)
      h.reserveFactor (rayDiv_mul_percent_lt h.borrowPoolPos h.borrowAged h.borrowAgedLe)
  -- the supply side is at least the pool's supply growth, or the borrow growth after a donation
  have hsup : ray ≤ (m.growth config now).p2pSupply := by
    by_cases hsb : (m.growth config now).poolSupply ≤ (m.growth config now).poolBorrow
    · exact Nat.le_trans hsR (hsx hsb)
    · have heq : (m.growth config now).p2pSupply = (m.growth config now).poolBorrow :=
        hdonation (Nat.lt_of_not_le hsb)
      rw [heq]
      exact hbR
  exact ⟨hsR, hbR, hsup, Nat.le_trans hsup hxy⟩

/-- Accrual never lowers an index while the indexes stay in `[1, 2^128]`, whatever the deltas,
the idle supply and the pool rates. -/
theorem accrue_never_lowers_indexes (h : m.AccruesWithin config now) :
    m.indexes.Grown (m.accrue config now).indexes := by
  by_cases hle : now ≤ m.indexes.lastUpdate
  · rw [accrue_of_le m config hle]
    exact ⟨Nat.le_refl _, Nat.le_refl _, Nat.le_refl _, Nat.le_refl _⟩
  · rw [accrue_indexes (Nat.lt_of_not_le hle)]
    obtain ⟨hsR, hbR, hs2R, hb2R⟩ := h.ray_le_growth
    exact ⟨h.supplyAged,
      le_p2pIndexAfter_of_ray_le hs2R hsR (PoolIndexes.mul_ray_lt_of_le h.supplyP2PLe),
      h.borrowAged,
      le_p2pIndexAfter_of_ray_le hb2R hbR (PoolIndexes.mul_ray_lt_of_le h.borrowP2PLe)⟩

/-- Stored indexes of three rays aged by two units, half of the peer-to-peer supply and a third of
the peer-to-peer debt resting on the pool, and some idle supply. -/
def blendMarket : MarketState where
  underlying := Address.ofNat 0xaaaaaaaaaaaaaaaaaaaaaaaaaaaaaaaaaaaaaaaa
  scaledPoolSupply := 0
  scaledPoolBorrow := 0
  scaledProtocolSupplyOnPool := 0
  scaledProtocolBorrowOnPool := 0
  scaledProtocolCollateral := 0
  deltas := ⟨⟨1000000000000000000000000000, 2000000000000000000000000000⟩, ⟨1, 3⟩⟩
  idleSupply := 5
  indexes := ⟨⟨3000000000000000000000000000, 3000000000000000000000000000⟩,
    ⟨3000000000000000000000000000, 3000000000000000000000000000⟩, 1000⟩
  poolReserve := ⟨3000000000000000000000000002, 3000000000000000000000000002, 0, 0, 1000⟩
  poolLiquidity := 0
  chainUsdPrice := 100000000

/-- A cursor in the middle and the given share of the spread kept as reserve. -/
def spreadConfig (reserveFactor : Word) : MarketConfig where
  underlying := Address.ofNat 0xaaaaaaaaaaaaaaaaaaaaaaaaaaaaaaaaaaaaaaaa
  symbol := "TKN"
  decimals := 18
  collateralFactor := 8000
  borrowableFactor := 7500
  p2pReserveFactor := reserveFactor
  p2pIndexCursor := 5000
  supplyCap := 0
  borrowCap := 0
  pause := {}
  eModeCategory := 0
  wrappedNative := false

theorem blended_market_indexes_grow :
    blendMarket.AccruesWithin (spreadConfig 2500) 2000 ∧
      blendMarket.indexes.Grown (blendMarket.accrue (spreadConfig 2500) 2000).indexes := by
  have h : blendMarket.AccruesWithin (spreadConfig 2500) 2000 :=
    ⟨by decide, by decide, by decide, by decide, by decide, by decide, by decide, by decide,
      by decide⟩
  exact ⟨h, accrue_never_lowers_indexes h⟩

/-- Stored pool and peer-to-peer indexes of one, and a reserve at `2^128` with rates just below
`10^30` a year, last updated at zero. -/
def wideMarket : MarketState :=
  { blendMarket with
    deltas := ⟨⟨0, 0⟩, ⟨0, 0⟩⟩
    idleSupply := 0
    indexes := ⟨⟨1, 1⟩, ⟨1, 1⟩, 0⟩
    poolReserve := ⟨340282366920938463463374607431768211456,
      340282366920938463463374607431768211456,
      999999999999999999999999999999, 999999999999999999999999999999, 0⟩ }

/-- Without a bound on the aged pool indexes the skewed mid wraps. Over `3·10^12` seconds the
reserve ages to about `3.2·10^46`, a supply growth of about `3.2·10^73` over a stored index of
one; the weighted average saturates below it, the supply side's subtraction wraps, and the
peer-to-peer supply index falls from one to zero. -/
theorem wide_growth_zeroes_supply_index :
    (spreadConfig 10000).p2pReserveFactor.val ≤ 10000 ∧
      wideMarket.poolReserve.liquidityRate.val < rateBound ∧
      wideMarket.poolReserve.variableBorrowRate.val < rateBound ∧
      wideMarket.poolReserve.liquidityIndex.val ≤ Nat.pow 2 128 ∧
      wideMarket.poolReserve.variableBorrowIndex.val ≤ Nat.pow 2 128 ∧
      wideMarket.indexes.supply = ⟨1, 1⟩ ∧ wideMarket.indexes.borrow = ⟨1, 1⟩ ∧
      wideMarket.indexes.supply.poolIndex ≤ (wideMarket.agedPool 3000000000000).supplyIndex ∧
      wideMarket.indexes.borrow.poolIndex ≤ (wideMarket.agedPool 3000000000000).borrowIndex ∧
      (wideMarket.accrue (spreadConfig 10000) 3000000000000).indexes.supply.p2pIndex.val = 0 := by
  decide

end MarketState

end PeerLending
