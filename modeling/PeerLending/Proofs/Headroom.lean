import PeerLending.Proofs.Health
import PeerLending.Proofs.Accrual
import PeerLending.Proofs.Commute

/-!
# Headrooms against the user's view

The limiter bounds a collateral withdrawal by the headroom that keeps the debt covered, and a
borrow by the borrow capacity left, both computed backwards from the user's totals: the room in
USD is divided by the factor, undone of the `999/1000` reduction and turned into native units,
each step rounded down. The successor's view computes forwards: native units to USD, the
reduction, the factor, again each rounded down. One lemma carries the whole comparison
(`val_mulDivDown_le_add`): when `x` exceeds `x'` by at most the largest amount whose image is
`q`, the image of `x` exceeds that of `x'` by at most `q`. Applied once per rounding, it shows
that a native drop within the headroom lowers the position's liquidation value by at most the
room, and a native gain within the remaining capacity raises its debt by at most that capacity.

The native amounts are exact only where the scaled balances convert at one ray. At any other
index the step removes or adds the quotient of the amount rounded half up, and one scaled unit can
be worth more than the rounding left over: at a supply index of `1.5` ray, withdrawing one token
takes a scaled unit worth `1.5` tokens, and the user falls under water
(`index_rounding_overshoots_headroom`). At one ray a conversion is the amount itself, up to the
largest word over a ray (`val_rayMul_ray`), and the headrooms are sound.
-/

set_option autoImplicit false

namespace PeerLending

/-! ## 1. A bounded drop through a rounding down -/

theorem satProduct_le_mul (x y : Nat) : satProduct x y ≤ x * y := by
  unfold satProduct
  split <;> omega

/-- Rounding down keeps a bounded drop bounded: if `x` exceeds `x'` by at most the largest amount
whose image is at most `q`, then the image of `x` exceeds that of `x'` by at most `q`, whether or
not the products saturate. -/
theorem val_mulDivDown_le_add {x x' y d q : Word} (h : x.val ≤ x'.val + (mulDivDown q d y).val) :
    (mulDivDown x y d).val ≤ (mulDivDown x' y d).val + q.val := by
  by_cases hd : d.val = 0
  · simp only [mulDivDown, mulDiv, hd, if_true, val_zero]
    omega
  by_cases hy : y.val = 0
  · -- nothing is worth anything at a zero factor
    have hq : (mulDivDown q d y).val = 0 := by simp only [mulDivDown, mulDiv, hy, if_true, val_zero]
    have hle := mulDivDown_mono_left y d (show x ≤ x' by rw [Word.le_iff_val_le]; omega)
    rw [Word.le_iff_val_le] at hle
    omega
  rw [mulDivDown, val_mulDiv_down _ _ _ hy] at h
  rw [mulDivDown, mulDivDown, val_mulDiv_down _ _ _ hd, val_mulDiv_down _ _ _ hd]
  -- the product grows by at most `q * d`, and a saturated product not at all
  have hqd : satProduct q.val d.val / y.val * y.val ≤ q.val * d.val :=
    Nat.le_trans (Nat.div_mul_le_self _ _) (satProduct_le_mul _ _)
  have hxy : x.val * y.val ≤ x'.val * y.val + q.val * d.val :=
    calc x.val * y.val ≤ (x'.val + satProduct q.val d.val / y.val) * y.val := Nat.mul_le_mul_right _ h
      _ = x'.val * y.val + satProduct q.val d.val / y.val * y.val := Nat.add_mul _ _ _
      _ ≤ x'.val * y.val + q.val * d.val := Nat.add_le_add_left hqd _
  have hsat : satProduct x.val y.val ≤ satProduct x'.val y.val + q.val * d.val := by
    unfold satProduct
    generalize x.val * y.val = p at *
    generalize x'.val * y.val = p' at *
    split <;> split <;> omega
  calc satProduct x.val y.val / d.val
      ≤ (satProduct x'.val y.val + q.val * d.val) / d.val := Nat.div_le_div_right hsat
    _ = satProduct x'.val y.val / d.val + q.val := Nat.add_mul_div_right _ _ (Nat.pos_of_ne_zero hd)

/-- A native drop within the collateral headroom of `room` lowers the liquidation value by at most
`room`: the three roundings down of the headroom each leave room for one rounding down of the
value. -/
theorem riskAdjustedValue_toUsd_le_add {x x' price factor room : Word}
    (h : x.val ≤ x'.val + (fromUsd (mulDivDown (percentDivDown room factor) ltLowerBound
      (ltLowerBound - 1)) price).val) :
    (riskAdjustedValue (toUsd x price) factor).val ≤
      (riskAdjustedValue (toUsd x' price) factor).val + room.val :=
  val_mulDivDown_le_add (val_mulDivDown_le_add (val_mulDivDown_le_add h))

/-! ## 2. Conversions at one ray -/

/-- At one ray a conversion is the amount itself, up to the largest word over a ray. -/
theorem val_rayMul_ray (x : Word) : (rayMul x ray).val = min x.val ((wordSize - 1) / ray.val) := by
  have hx := x.isLt
  rw [rayMul, val_mulDiv_halfUp _ _ _ (by decide)]
  unfold satProduct
  rw [ray_val] at *
  rw [wordSize_eq] at *
  generalize x.val = v at *
  split <;> split <;> omega

theorem rayDiv_ray (x : Word) : rayDiv x ray = rayMul x ray := rfl

/-- Adding the quotient of an amount at one ray raises the balance's conversion by at most the
amount, and by nothing when the sum wraps. -/
theorem val_rayMul_add_rayDiv_ray (s x : Word) :
    (rayMul (s + rayDiv x ray) ray).val ≤ (rayMul s ray).val + x.val := by
  rw [rayDiv_ray, val_rayMul_ray, val_rayMul_ray, Word.val_add, val_rayMul_ray]
  have hs := s.isLt
  have hx := x.isLt
  rw [ray_val, wordSize_eq] at *
  generalize s.val = a at *
  generalize x.val = b at *
  omega

/-! ## 3. The two steps at one ray -/

namespace Work

variable {w w₁ : Work} {a : Word} {l : Ledger} {idx : Indexes}

/-- At a supply pool index of one ray, withdrawing collateral lowers the conversion of the user's
collateral by at most the amount the step moves. -/
theorem collateral_withdrawCollateral_at_ray (w : Work) (a : Word) (headroom : Option Word)
    (hR : w.market.indexes.supply.poolIndex = ray) :
    (rayMul w.ledger.userCollateral ray).val ≤
      (rayMul (w.withdrawCollateral a headroom).ledger.userCollateral ray).val +
        (w.withdrawCollateral a headroom).amount.val := by
  rw [ledger_withdrawCollateral, amount_withdrawCollateral]
  dsimp only
  rw [show w.position.scaledCollateral = w.ledger.userCollateral from rfl, hR]
  have hclamp := clamp_le_balance (d := rayMul w.ledger.userCollateral ray) (a := a)
  generalize w.ledger.userCollateral = c at *
  generalize (if rayMul c ray < a then rayMul c ray else a) = b at *
  unfold removeScaled
  split
  · -- the whole collateral goes, and the amount was at least its conversion
    rw [rayMul_zero_left, val_zero]
    rename_i hle
    rw [Word.le_iff_val_le] at hle
    omega
  · -- the amount is below the conversion, so its quotient is the amount itself
    rename_i hlt
    dsimp only
    rw [Word.le_iff_val_le] at hlt
    rw [rayDiv_ray] at *
    have hmin := Word.val_min (rayMul b ray) c
    rw [val_rayMul_ray] at hclamp hlt hmin
    have hle : Word.min (rayMul b ray) c ≤ c := Word.min_le_right _ _
    simp only [val_rayMul_ray]
    rw [Word.val_sub_of_le hle]
    rw [Word.le_iff_val_le] at hle
    have hb := b.isLt
    have hc := c.isLt
    rw [ray_val, wordSize_eq] at *
    generalize (Word.min (rayMul b ray) c).val = r at *
    generalize b.val = x at *
    generalize c.val = y at *
    split at hmin <;> omega

/-- The moves of a borrow at borrow indexes of one ray: the matched part and the rest each raise
the conversion of the user's debt by at most themselves, so the whole by at most the amount. -/
theorem debt_borrowFrom_at_ray (hl : w₁.ledger = l) (hi : w₁.market.indexes = idx)
    (hR : idx.borrow = SideIndexes.unit) :
    (rayMul ((((w₁.promoteSuppliers (w₁.matchable a w₁.protocolSupplyOnPool)).borrowPool
      (a - w₁.matchable a w₁.protocolSupplyOnPool)).withLiquidity (zeroFloorSub · a)).payOut
        a).ledger.userBorrowInP2P ray +
      rayMul ((((w₁.promoteSuppliers (w₁.matchable a w₁.protocolSupplyOnPool)).borrowPool
      (a - w₁.matchable a w₁.protocolSupplyOnPool)).withLiquidity (zeroFloorSub · a)).payOut
        a).ledger.userBorrowOnPool ray).val ≤
      (rayMul l.userBorrowInP2P ray + rayMul l.userBorrowOnPool ray).val + a.val := by
  subst hl hi
  rw [ledger_payOut, ledger_withLiquidity]
  have hma := matchable_le w₁ a w₁.protocolSupplyOnPool
  generalize w₁.matchable a w₁.protocolSupplyOnPool = m at hma ⊢
  have hsub : (a - m).val + m.val = a.val := by
    rw [Word.val_sub_of_le hma]
    rw [Word.le_iff_val_le] at hma
    omega
  have hpool : w₁.market.indexes.borrow.poolIndex = ray := by rw [hR]; rfl
  have hp2p : w₁.market.indexes.borrow.p2pIndex = ray := by rw [hR]; rfl
  rw [ledger_borrowPool, (quiet_promoteSuppliers _ _).indexes, ledger_promoteSuppliers, val_add_rayMul,
    val_add_rayMul]
  have hon := val_rayMul_add_rayDiv_ray w₁.ledger.userBorrowOnPool (a - m)
  have hin := val_rayMul_add_rayDiv_ray w₁.ledger.userBorrowInP2P m
  split
  · dsimp only
    rw [hpool]
    omega
  · dsimp only
    rw [hpool, hp2p]
    omega

theorem debt_borrow_at_ray (w : Work) (a headroom : Word)
    (hR : w.market.indexes.borrow = SideIndexes.unit) :
    (rayMul (w.borrow a headroom).ledger.userBorrowInP2P ray +
        rayMul (w.borrow a headroom).ledger.userBorrowOnPool ray).val ≤
      (rayMul w.ledger.userBorrowInP2P ray + rayMul w.ledger.userBorrowOnPool ray).val + a.val := by
  unfold borrow
  exact debt_borrowFrom_at_ray (by simp) (by simp [checkLiquidity, checkBorrowCap, noteIf_eq]) hR

end Work

/-! ## 4. One position's view, and the sums over all -/

namespace PositionView

variable {p p' : Position} {v : MarketView} {r : RiskParams}

/-- A drop of the collateral's conversion within the headroom left by `room` lowers the liquidation
value by at most `room`. -/
theorem liquidationValue_le_add (room : Word)
    (h : (rayMul p.scaledCollateral v.poolSupplyIndex).val ≤
      (rayMul p'.scaledCollateral v.poolSupplyIndex).val +
        (fromUsd (mulDivDown (percentDivDown room r.collateralFactor) ltLowerBound
          (ltLowerBound - 1)) (PeerLending.usdPrice r.chainUsdPrice v.decimals)).val) :
    (of p v r).liquidationValue.val ≤ (of p' v r).liquidationValue.val + room.val :=
  riskAdjustedValue_toUsd_le_add h

/-- A rise of the debt's conversion within what `room` buys raises the debt in USD by at most
`room`. -/
theorem borrowUsd_le_add (room : Word)
    (h : (rayMul p'.scaledBorrowInP2P v.p2pBorrowIndex + rayMul p'.scaledBorrowOnPool v.poolBorrowIndex).val ≤
      (rayMul p.scaledBorrowInP2P v.p2pBorrowIndex + rayMul p.scaledBorrowOnPool v.poolBorrowIndex).val +
        (fromUsd room (PeerLending.usdPrice r.chainUsdPrice v.decimals)).val) :
    (of p' v r).borrowUsd.val ≤ (of p v r).borrowUsd.val + room.val :=
  val_mulDivDown_le_add h

/-- A position's health numbers read only the indexes and the price of its market. -/
theorem of_market_congr (p : Position) (c : MarketConfig) (chain : ChainContext)
    {m m' : MarketState} (hi : m'.indexes = m.indexes) (hp : m'.chainUsdPrice = m.chainUsdPrice) :
    (of p (MarketView.of m' c) (RiskParams.effective m' c chain)).liquidationValue =
        (of p (MarketView.of m c) (RiskParams.effective m c chain)).liquidationValue ∧
      (of p (MarketView.of m' c) (RiskParams.effective m' c chain)).borrowCapacity =
        (of p (MarketView.of m c) (RiskParams.effective m c chain)).borrowCapacity ∧
      (of p (MarketView.of m' c) (RiskParams.effective m' c chain)).borrowUsd =
        (of p (MarketView.of m c) (RiskParams.effective m c chain)).borrowUsd := by
  have hr : RiskParams.effective m' c chain = RiskParams.effective m c chain := by
    unfold RiskParams.effective
    rw [hp]
  simp only [of, MarketView.of, hr, hi, and_self]

end PositionView

/-- `h'` is `h` with the view `v` replaced by the view `v'`: each number moves by what the view's
number moves. -/
structure HealthNumbers.Replaces (h' h : HealthNumbers) (v v' : PositionView) : Prop where
  liquidationValue :
    h'.liquidationValue + v.liquidationValue.val = h.liquidationValue + v'.liquidationValue.val
  borrowCapacity : h'.borrowCapacity + v.borrowCapacity.val = h.borrowCapacity + v'.borrowCapacity.val
  borrowUsd : h'.borrowUsd + v.borrowUsd.val = h.borrowUsd + v'.borrowUsd.val

/-- The user's three totals, as natural numbers. -/
def UserView.totals (u : UserView) : HealthNumbers :=
  ⟨u.liquidationValue.val, u.borrowCapacity.val, u.totalBorrowUsd.val⟩

namespace Snapshot

/-- The step lemma of a market operation, read through the health numbers: the work starts from
the position stored under the operation's market, and each sum over the positions moves by what
that position's view moves when the work's position replaces it, both read on the market as it
stood before the step. -/
theorem healthSums_market_step {st : SimulatedState} {op : Operation} {t : Transition}
    (hkeys : st.snapshot.KeysAgree) (hc : op.kind ≠ .claimRewards) (hw : op.kind ≠ .wrap)
    (h : applyOperation st op = .ok t) :
    ∃ market config chain amount,
      st.snapshot.markets.get? op.market = some market ∧
      st.snapshot.configs.get? op.market = some config ∧ st.snapshot.chain = some chain ∧
      resolveAmount st.snapshot op = .ok amount ∧
      t = ((Work.start st.snapshot market config op.unwrap).perform st chain op amount).finish
        st.snapshot ∧
      (t.snapshot.healthSums chain).Replaces (st.snapshot.healthSums chain)
        (PositionView.of (st.snapshot.positionAt op.market) (MarketView.of market config)
          (RiskParams.effective market config chain))
        (PositionView.of ((Work.start st.snapshot market config op.unwrap).perform st chain op
          amount).position (MarketView.of market config) (RiskParams.effective market config chain)) := by
  have hchg := (applyOperation_changesOnly hkeys h).1
  obtain ⟨market, config, chain, amount, hm, hcfg, hch, hres, -, rfl⟩ := applyOperation_market_ok hc hw h
  refine ⟨market, config, chain, amount, hm, hcfg, hch, hres, rfl, ?_⟩
  have hkeep := Work.keeps_perform (Work.start st.snapshot market config op.unwrap) amount st chain op
  have haddr := hkeep.addresses.trans (Work.addresses_start hkeys hm config op.unwrap)
  have hi := hkeep.indexes
  have hp := hkeep.chainUsdPrice
  generalize (Work.start st.snapshot market config op.unwrap).perform st chain op amount = w
    at haddr hi hp hchg ⊢
  -- the position before is read on `market`, the one after on the work's market
  have hpm : w.position.market = op.market := congrArg Prod.snd haddr
  have hpos : (w.finish st.snapshot).snapshot.positions = st.snapshot.positions.insert op.market
      w.position := by
    simp only [Work.finish, hpm]
  have hp₀ : (st.snapshot.positionAt op.market).market = op.market :=
    hkeys.positionAt_market op.market
  have hm₀ : st.snapshot.markets.get? (st.snapshot.positionAt op.market).market = some market := by
    rw [hp₀]
    exact hm
  have hc₀ : st.snapshot.configs.get? (st.snapshot.positionAt op.market).market = some config := by
    rw [hp₀]
    exact hcfg
  have hm₁ : (w.finish st.snapshot).snapshot.markets.get? w.position.market = some w.market := by
    rw [hpm]
    exact (Work.finish_ledgerAt haddr st.snapshot).1
  have hc₁ : (w.finish st.snapshot).snapshot.configs.get? w.position.market = some config := by
    rw [hpm, hchg.configs]
    exact hcfg
  have e := fun g hg => (getD_viewNumber (s := st.snapshot) chain (g := g) hg op.market) ▸
    viewSum_insert hkeys hchg hpos chain g
  have el := e (·.liquidationValue) fun k v r => (PositionView.of_empty k v r).1
  have ec := e (·.borrowCapacity) fun k v r => (PositionView.of_empty k v r).2.1
  have eb := e (·.borrowUsd) fun k v r => (PositionView.of_empty k v r).2.2
  simp only [viewNumber, positionView_eq hm₀ hc₀, positionView_eq hm₁ hc₁] at el ec eb
  obtain ⟨cl, cc, cb⟩ := PositionView.of_market_congr w.position config chain hi hp
  rw [cl] at el
  rw [cc] at ec
  rw [cb] at eb
  exact ⟨el, ec, eb⟩

end Snapshot

/-! ## 5. The two steps on the view of the position -/

namespace Work

variable (w : Work) (a : Word) (c : MarketConfig) (chain : ChainContext)

theorem borrowUsd_withdrawCollateral (headroom : Option Word) :
    (PositionView.of (w.withdrawCollateral a headroom).position (MarketView.of w.market c)
        (RiskParams.effective w.market c chain)).borrowUsd =
      (PositionView.of w.position (MarketView.of w.market c)
        (RiskParams.effective w.market c chain)).borrowUsd := by
  have hdebt := (user_withdrawCollateral w a headroom).1
  simp only [Ledger.debt, Prod.mk.injEq] at hdebt
  simp only [PositionView.of]
  rw [show (w.withdrawCollateral a headroom).position.scaledBorrowOnPool =
    w.position.scaledBorrowOnPool from hdebt.1,
    show (w.withdrawCollateral a headroom).position.scaledBorrowInP2P =
    w.position.scaledBorrowInP2P from hdebt.2]

/-- At a supply pool index of one ray, a collateral withdrawal whose amount is within the headroom
left by `room` lowers the liquidation value of the user's position by at most `room`, read on the
market as it stood. -/
theorem liquidationValue_withdrawCollateral_at_ray (headroom : Option Word) (room : Word)
    (hR : w.market.indexes.supply.poolIndex = ray)
    (hwithin : (w.withdrawCollateral a headroom).amount ≤
      fromUsd (mulDivDown (percentDivDown room (RiskParams.effective w.market c chain).collateralFactor)
        ltLowerBound (ltLowerBound - 1))
        (usdPrice (RiskParams.effective w.market c chain).chainUsdPrice c.decimals)) :
    (PositionView.of w.position (MarketView.of w.market c)
        (RiskParams.effective w.market c chain)).liquidationValue.val ≤
      (PositionView.of (w.withdrawCollateral a headroom).position (MarketView.of w.market c)
        (RiskParams.effective w.market c chain)).liquidationValue.val + room.val := by
  apply PositionView.liquidationValue_le_add room
  -- the view reads the collateral at the supply pool index, one ray
  show (rayMul w.ledger.userCollateral w.market.indexes.supply.poolIndex).val ≤
    (rayMul (w.withdrawCollateral a headroom).ledger.userCollateral
      w.market.indexes.supply.poolIndex).val + _
  rw [hR]
  rw [Word.le_iff_val_le] at hwithin
  exact Nat.le_trans (collateral_withdrawCollateral_at_ray w a headroom hR)
    (Nat.add_le_add_left hwithin _)

/-- At borrow indexes of one ray, a borrow whose amount is within what `room` buys raises the
debt of the user's position by at most `room`, and leaves its liquidation value and borrow
capacity; all are read on the market as it stood. -/
theorem views_borrow_at_ray (headroom room : Word) (hR : w.market.indexes.borrow = SideIndexes.unit)
    (hwithin : a ≤ fromUsd room (usdPrice (RiskParams.effective w.market c chain).chainUsdPrice c.decimals)) :
    (PositionView.of (w.borrow a headroom).position (MarketView.of w.market c)
        (RiskParams.effective w.market c chain)).borrowUsd.val ≤
      (PositionView.of w.position (MarketView.of w.market c)
        (RiskParams.effective w.market c chain)).borrowUsd.val + room.val ∧
    (PositionView.of (w.borrow a headroom).position (MarketView.of w.market c)
        (RiskParams.effective w.market c chain)).liquidationValue =
      (PositionView.of w.position (MarketView.of w.market c)
        (RiskParams.effective w.market c chain)).liquidationValue ∧
    (PositionView.of (w.borrow a headroom).position (MarketView.of w.market c)
        (RiskParams.effective w.market c chain)).borrowCapacity =
      (PositionView.of w.position (MarketView.of w.market c)
        (RiskParams.effective w.market c chain)).borrowCapacity := by
  have hcol : (w.borrow a headroom).position.scaledCollateral = w.position.scaledCollateral :=
    collateral_borrow w a headroom
  refine ⟨PositionView.borrowUsd_le_add room ?_, ?_, ?_⟩
  · -- the view reads the debt at the two borrow indexes, both one ray
    have hpool : w.market.indexes.borrow.poolIndex = ray := by rw [hR]; rfl
    have hp2p : w.market.indexes.borrow.p2pIndex = ray := by rw [hR]; rfl
    show (rayMul (w.borrow a headroom).ledger.userBorrowInP2P w.market.indexes.borrow.p2pIndex +
      rayMul (w.borrow a headroom).ledger.userBorrowOnPool w.market.indexes.borrow.poolIndex).val ≤
      (rayMul w.ledger.userBorrowInP2P w.market.indexes.borrow.p2pIndex +
        rayMul w.ledger.userBorrowOnPool w.market.indexes.borrow.poolIndex).val + _
    rw [hpool, hp2p]
    rw [Word.le_iff_val_le] at hwithin
    exact Nat.le_trans (debt_borrow_at_ray w a headroom hR) (Nat.add_le_add_left hwithin _)
  · simp only [PositionView.of, hcol]
  · simp only [PositionView.of, hcol]

end Work

/-! ## 6. The headrooms against the totals -/

theorem withdrawCollateralHeadroom_eq_some {u : UserView} {pv : PositionView} {h : Word}
    (hh : withdrawCollateralHeadroom u pv = some h) :
    h = fromUsd (mulDivDown (percentDivDown (zeroFloorSub u.liquidationValue u.totalBorrowUsd)
      pv.risk.collateralFactor) ltLowerBound (ltLowerBound - 1)) pv.usdPrice := by
  unfold withdrawCollateralHeadroom at hh
  split at hh
  · cases hh
  · exact (Option.some.inj hh).symm

theorem withdrawCollateralHeadroom_eq_none {u : UserView} {pv : PositionView}
    (hh : withdrawCollateralHeadroom u pv = none) :
    u.totalBorrowUsd.val = 0 ∨ pv.risk.collateralFactor.val = 0 := by
  unfold withdrawCollateralHeadroom at hh
  split at hh
  · assumption
  · cases hh

theorem riskAdjustedValue_zero_factor (x : Word) {f : Word} (hf : f.val = 0) :
    (riskAdjustedValue x f).val = 0 := by
  unfold riskAdjustedValue percentMulDown mulDivDown
  rw [val_mulDiv_down _ _ _ (by decide)]
  simp [satProduct, hf]

/-- The step lemma of a market operation, read on the user's totals: on a state of a run with few
positions, each total moves by what the view of the position on the operation's market moves when
the work's position replaces the stored one. -/
theorem UserView.totals_market_step {s : Snapshot} {st next : SimulatedState} {op : Operation}
    {t : Transition} {market : MarketState} (hkeys : s.KeysAgree) (hrun : Reaches s st)
    (hfew : st.snapshot.positions.size < 10000)
    (hc : op.kind ≠ .claimRewards) (hw : op.kind ≠ .wrap)
    (hm : st.snapshot.markets.get? op.market = some market) (h : applyOperation st op = .ok t)
    (hnext : SimulatedState.derive t.snapshot = .ok next) :
    ∃ config chain amount, st.snapshot.configs.get? op.market = some config ∧
      st.snapshot.chain = some chain ∧
      (Work.start st.snapshot market config op.unwrap).position = st.snapshot.positionAt op.market ∧
      t = ((Work.start st.snapshot market config op.unwrap).perform st chain op amount).finish
        st.snapshot ∧
      next.user.totals.Replaces st.user.totals
        (PositionView.of (Work.start st.snapshot market config op.unwrap).position
          (MarketView.of market config) (RiskParams.effective market config chain))
        (PositionView.of ((Work.start st.snapshot market config op.unwrap).perform st chain op
          amount).position (MarketView.of market config) (RiskParams.effective market config chain)) := by
  have hkeys' := hrun.keysAgree hkeys
  have hu := (SimulatedState.derive_ok hrun.derive_eq).2.2
  have hu' := (SimulatedState.derive_ok hnext).2.2
  have hsize := applyOperation_size_le hkeys' h
  obtain ⟨market', config, chain, amount, hm', hcfg, hch, -, rfl, hrep⟩ :=
    Snapshot.healthSums_market_step hkeys' hc hw h
  rw [hm, Option.some.injEq] at hm'
  subst hm'
  -- the work starts from the position stored under the operation's market
  have hpos₀ : (Work.start st.snapshot market config op.unwrap).position =
      st.snapshot.positionAt op.market := by
    simp only [Work.start, hkeys'.underlying_of_get? hm, Snapshot.positionAt]
  refine ⟨config, chain, amount, hcfg, hch, hpos₀, rfl, ?_⟩
  rw [← hpos₀] at hrep
  -- both views total their positions, and neither total wraps
  have hshow := Snapshot.currentUserView_shows hu hch
  have hshow' := Snapshot.currentUserView_shows hu' hch
  have hfit := Snapshot.healthSums_fit (Nat.le_of_lt hfew) chain
  have hfit' := Snapshot.healthSums_fit (Nat.le_trans hsize hfew) chain
  refine ⟨?_, ?_, ?_⟩
  · show next.user.liquidationValue.val + _ = st.user.liquidationValue.val + _
    rw [hshow.liquidationValue, hshow'.liquidationValue, Nat.mod_eq_of_lt hfit.1,
      Nat.mod_eq_of_lt hfit'.1]
    exact hrep.liquidationValue
  · show next.user.borrowCapacity.val + _ = st.user.borrowCapacity.val + _
    rw [hshow.borrowCapacity, hshow'.borrowCapacity, Nat.mod_eq_of_lt hfit.2,
      Nat.mod_eq_of_lt hfit'.2]
    exact hrep.borrowCapacity
  · show next.user.totalBorrowUsd.val + _ = st.user.totalBorrowUsd.val + _
    rw [hshow.totalBorrowUsd, hshow'.totalBorrowUsd, Nat.mod_eq_of_lt hfit.3,
      Nat.mod_eq_of_lt hfit'.3]
    exact hrep.borrowUsd

/-- The step on the totals, for a collateral withdrawal at a supply pool index of one ray whose
amount is within the headroom the user's view gives whenever it gives one: the debt stays, and
the liquidation value falls by at most the room between it and the debt, unless there was no debt
at all. -/
theorem withdrawCollateral_within_headroom {s : Snapshot} {st next : SimulatedState}
    {op : Operation} {t : Transition} {market : MarketState} (hkeys : s.KeysAgree)
    (hrun : Reaches s st) (hfew : st.snapshot.positions.size < 10000)
    (hk : op.kind = .withdrawCollateral) (hm : st.snapshot.markets.get? op.market = some market)
    (hray : market.indexes.supply.poolIndex = ray)
    (hwithin : ∀ pv h, st.user.position? op.market = some pv →
      withdrawCollateralHeadroom st.user pv = some h → t.amount ≤ h)
    (h : applyOperation st op = .ok t) (hnext : SimulatedState.derive t.snapshot = .ok next) :
    next.user.totalBorrowUsd = st.user.totalBorrowUsd ∧
      (st.user.liquidationValue.val ≤ next.user.liquidationValue.val +
          (zeroFloorSub st.user.liquidationValue st.user.totalBorrowUsd).val ∨
        st.user.totalBorrowUsd.val = 0) := by
  have hkeys' := hrun.keysAgree hkeys
  have hu := (SimulatedState.derive_ok hrun.derive_eq).2.2
  have hc : op.kind ≠ .claimRewards := by rw [hk]; decide
  have hw : op.kind ≠ .wrap := by rw [hk]; decide
  obtain ⟨config, chain, amount, hcfg, hch, hpos₀, rfl, hrep⟩ :=
    UserView.totals_market_step hkeys hrun hfew hc hw hm h hnext
  -- the work withdraws collateral against the headroom the view gives
  have hperf : (Work.start st.snapshot market config op.unwrap).perform st chain op amount =
      (Work.start st.snapshot market config op.unwrap).withdrawCollateral amount
        ((st.user.position? op.market).bind (withdrawCollateralHeadroom st.user)) := by
    simp only [Work.perform, hk]
  rw [hperf] at hrep hwithin
  generalize hw₀ : Work.start st.snapshot market config op.unwrap = w₀ at hrep hpos₀ hwithin
  have hmarket : w₀.market = market := by rw [← hw₀]; rfl
  subst hmarket
  generalize (st.user.position? op.market).bind (withdrawCollateralHeadroom st.user) = headroom
    at hrep hwithin
  have hb := Work.borrowUsd_withdrawCollateral w₀ amount config chain headroom
  -- the position's liquidation value falls by at most the room, or there is no debt
  have hliq : (PositionView.of w₀.position (MarketView.of w₀.market config)
        (RiskParams.effective w₀.market config chain)).liquidationValue.val ≤
      (PositionView.of (w₀.withdrawCollateral amount headroom).position (MarketView.of w₀.market config)
        (RiskParams.effective w₀.market config chain)).liquidationValue.val +
        (zeroFloorSub st.user.liquidationValue st.user.totalBorrowUsd).val ∨
      st.user.totalBorrowUsd.val = 0 := by
    cases hp : st.snapshot.positions.get? op.market with
    | none =>
      -- no stored position: the work starts from an empty one, worth nothing
      have he : w₀.position = Position.empty op.market := by
        rw [hpos₀, Snapshot.positionAt, hp]
        rfl
      rw [he, (PositionView.of_empty _ _ _).1, val_zero]
      exact .inl (Nat.zero_le _)
    | some q =>
      have hpv := Snapshot.position?_eq hkeys' hu hp hm hcfg hch
      have hq : w₀.position = q := by
        rw [hpos₀, Snapshot.positionAt, hp]
        rfl
      rw [← hq] at hpv
      cases hh : withdrawCollateralHeadroom st.user (PositionView.of w₀.position
          (MarketView.of w₀.market config) (RiskParams.effective w₀.market config chain)) with
      | some hd =>
        have hle := hwithin _ hd hpv hh
        rw [withdrawCollateralHeadroom_eq_some hh] at hle
        exact .inl (Work.liquidationValue_withdrawCollateral_at_ray w₀ amount config chain headroom _
          hray hle)
      | none =>
        rcases withdrawCollateralHeadroom_eq_none hh with h0 | h0
        · exact .inr h0
        · -- at a zero collateral factor the position is worth nothing
          left
          rw [show (PositionView.of w₀.position (MarketView.of w₀.market config)
            (RiskParams.effective w₀.market config chain)).liquidationValue.val = 0 from
            riskAdjustedValue_zero_factor _ h0]
          exact Nat.zero_le _
  have e₁ := hrep.liquidationValue
  have e₃ := hrep.borrowUsd
  rw [hb] at e₃
  simp only [UserView.totals] at e₁ e₃
  refine ⟨Word.ext (by omega), ?_⟩
  rw [zeroFloorSub, Word.val_satSub] at hliq ⊢
  omega

/-- The step on the totals, for a borrow at borrow indexes of one ray whose amount is within the
borrow capacity left, turned into the asset at its effective price: the liquidation value and the
borrow capacity stay, and the debt grows by at most the capacity left. -/
theorem borrow_within_capacity {s : Snapshot} {st next : SimulatedState} {op : Operation}
    {t : Transition} {market : MarketState} {config : MarketConfig} {chain : ChainContext}
    (hkeys : s.KeysAgree) (hrun : Reaches s st)
    (hfew : st.snapshot.positions.size < 10000) (hk : op.kind = .borrow)
    (hm : st.snapshot.markets.get? op.market = some market)
    (hcfg : st.snapshot.configs.get? op.market = some config) (hch : st.snapshot.chain = some chain)
    (hray : market.indexes.borrow = SideIndexes.unit)
    (hwithin : t.amount ≤ fromUsd st.user.borrowCapacityRemaining
      (usdPrice (RiskParams.effective market config chain).chainUsdPrice config.decimals))
    (h : applyOperation st op = .ok t) (hnext : SimulatedState.derive t.snapshot = .ok next) :
    next.user.liquidationValue = st.user.liquidationValue ∧
      next.user.borrowCapacity = st.user.borrowCapacity ∧
      next.user.totalBorrowUsd.val ≤
        st.user.totalBorrowUsd.val + st.user.borrowCapacityRemaining.val := by
  have hc : op.kind ≠ .claimRewards := by rw [hk]; decide
  have hw : op.kind ≠ .wrap := by rw [hk]; decide
  obtain ⟨config', chain', amount, hcfg', hch', -, rfl, hrep⟩ :=
    UserView.totals_market_step hkeys hrun hfew hc hw hm h hnext
  rw [hcfg, Option.some.injEq] at hcfg'
  rw [hch, Option.some.injEq] at hch'
  subst hcfg' hch'
  -- the work borrows against the capacity left, in the asset at its effective price
  have hperf : (Work.start st.snapshot market config op.unwrap).perform st chain op amount =
      (Work.start st.snapshot market config op.unwrap).borrow amount
        (fromUsd st.user.borrowCapacityRemaining
          (usdPrice (RiskParams.effective market config chain).chainUsdPrice config.decimals)) := by
    simp only [Work.perform, hk]
    rfl
  rw [hperf] at hrep hwithin
  generalize hw₀ : Work.start st.snapshot market config op.unwrap = w₀ at hrep hwithin
  have hmarket : w₀.market = market := by rw [← hw₀]; rfl
  subst hmarket
  -- the amount the step moves is the amount asked for
  rw [show ((w₀.borrow amount _).finish st.snapshot).amount = amount from
    Work.amount_borrow w₀ amount _] at hwithin
  generalize fromUsd st.user.borrowCapacityRemaining
    (usdPrice (RiskParams.effective w₀.market config chain).chainUsdPrice config.decimals) = headroom
    at hrep
  obtain ⟨hb, hl, hc⟩ := Work.views_borrow_at_ray w₀ amount config chain headroom
    st.user.borrowCapacityRemaining hray hwithin
  have e₁ := hrep.liquidationValue
  have e₂ := hrep.borrowCapacity
  have e₃ := hrep.borrowUsd
  rw [hl] at e₁
  rw [hc] at e₂
  simp only [UserView.totals] at e₁ e₂ e₃
  exact ⟨Word.ext (by omega), Word.ext (by omega), by omega⟩

/-! ## 7. Health of one wad -/

theorem wad_val : wad.val = 1000000000000000000 := rfl

namespace UserView

theorem covered_of_wad_le_healthOf {liq borrow : Word} (h : wad ≤ healthOf liq borrow) :
    borrow.val ≤ liq.val ∧ borrow.val * wad.val < wordSize := by
  unfold healthOf at h
  split at h
  · rename_i h0
    rw [h0, Nat.zero_mul]
    exact ⟨Nat.zero_le _, Nat.two_pow_pos 256⟩
  · rename_i h0
    rw [Word.le_iff_val_le, wadDivDown, mulDivDown, val_mulDiv_down _ _ _ h0] at h
    -- the saturated product is at least one wad per unit of debt
    have hle := (Nat.le_div_iff_mul_le (Nat.pos_of_ne_zero h0)).1 h
    have hsat := satProduct_le_mul liq.val wad.val
    have hlt := satProduct_lt liq.val wad.val
    rw [Nat.mul_comm] at hle
    refine ⟨Nat.le_of_mul_le_mul_right (Nat.le_trans hle hsat) (by rw [wad_val]; decide), ?_⟩
    omega

theorem wad_le_healthOf {liq borrow : Word} (hcov : borrow.val ≤ liq.val)
    (hfit : borrow.val * wad.val < wordSize) : wad ≤ healthOf liq borrow := by
  unfold healthOf
  split
  · exact Nat.le_sub_one_of_lt wad.isLt
  · rename_i h0
    rw [Word.le_iff_val_le, wadDivDown, mulDivDown, val_mulDiv_down _ _ _ h0]
    apply (Nat.le_div_iff_mul_le (Nat.pos_of_ne_zero h0)).2
    have hmul : borrow.val * wad.val ≤ liq.val * wad.val := Nat.mul_le_mul_right _ hcov
    rw [Nat.mul_comm]
    unfold satProduct
    generalize liq.val * wad.val = p at *
    split <;> omega

end UserView

/-- On every market of the snapshot the effective borrowable factor is at most the effective
collateral factor. -/
def Snapshot.BorrowsWithinCollateral (s : Snapshot) : Prop :=
  ∀ k market config chain, s.markets.get? k = some market → s.configs.get? k = some config →
    s.chain = some chain →
    (RiskParams.effective market config chain).borrowableFactor ≤
      (RiskParams.effective market config chain).collateralFactor

theorem natSum_le_natSum {β : Type} {f g : β → Nat} :
    ∀ {l : List β}, (∀ b ∈ l, f b ≤ g b) → natSum f l ≤ natSum g l
  | [], _ => Nat.le_refl _
  | b :: rest, h => by
    simp only [natSum]
    exact Nat.add_le_add (h b List.mem_cons_self)
      (natSum_le_natSum fun c hc => h c (List.mem_cons_of_mem b hc))

theorem riskAdjustedValue_mono_factor (x : Word) {f f' : Word} (h : f ≤ f') :
    riskAdjustedValue x f ≤ riskAdjustedValue x f' :=
  mulDiv_mono .down (Nat.le_refl _) h

/-- Where every borrowable factor is at most the collateral factor, the borrow capacity summed over
the positions is at most the liquidation value. -/
theorem Snapshot.healthSums_capacity_le {s : Snapshot} {chain : ChainContext}
    (hf : s.BorrowsWithinCollateral) (hch : s.chain = some chain) :
    (s.healthSums chain).borrowCapacity ≤ (s.healthSums chain).liquidationValue := by
  unfold healthSums viewSum
  apply natSum_le_natSum
  intro e _
  unfold viewNumber positionView
  cases hm : s.markets.get? e.2.market with
  | none => exact Nat.le_refl _
  | some market =>
    cases hc : s.configs.get? e.2.market with
    | none => exact Nat.le_refl _
    | some config => exact riskAdjustedValue_mono_factor _ (hf _ _ _ _ hm hc hch)

/-! ## 8. Runs of one operation -/

/-- A run of one operation that ends with a final state applied the operation to the state it
started from and derived the final state from the result. -/
theorem simulate_single_final {s : Snapshot} {op : Operation} {start fin : SimulatedState}
    {out : SimulationOutcome} (hstart : startState s = .ok start)
    (h : simulate s [op] = .ok out) (hfin : out.final = some fin) :
    ∃ t, applyOperation start op = .ok t ∧ SimulatedState.derive t.snapshot = .ok fin := by
  unfold simulate at h
  rw [simulateWithThreshold_eq, hstart] at h
  dsimp only at h
  cases happ : applyOperation start op with
  | error e =>
    -- a blocked operation ends the run with no final state
    cases e with
    | overflow =>
      simp only [runFrom, happ] at h
      cases h
    | blocked k =>
      simp only [runFrom, happ, Except.map] at h
      cases h
      simp [concludeRun] at hfin
  | ok t =>
    cases hd : SimulatedState.derive t.snapshot with
    | error e =>
      cases e <;> simp only [runFrom, happ, hd, Except.map] at h <;> cases h <;>
        simp [concludeRun] at hfin
    | ok next =>
      simp only [runFrom, happ, hd, Except.map] at h
      cases h
      simp only [concludeRun_final, Option.some.injEq] at hfin
      exact ⟨t, rfl, hfin ▸ hd⟩

theorem maxCapacity_of_resolveAmount {s : Snapshot} {op : Operation} {amount : Word}
    (hmax : op.amount = Word.maxValue) (h : resolveAmount s op = .ok amount) :
    ∃ limit, s.maxCapacity op.market op.kind = .ok (some limit) ∧ limit.value = amount := by
  unfold resolveAmount at h
  rw [if_pos (by simp [Operation.isMax, hmax])] at h
  cases hcap : s.maxCapacity op.market op.kind with
  | error e =>
    rw [hcap] at h
    cases e <;> cases h
  | ok limit =>
    rw [hcap] at h
    cases limit with
    | none => cases h
    | some limit =>
      cases h
      exact ⟨limit, rfl, rfl⟩

/-- The sentinel amount, on a state of a run, is within every present candidate the user's view of
the operation's market offers; that market holds a stored position. -/
theorem resolveAmount_max_within {s : Snapshot} {st : SimulatedState} {op : Operation}
    {amount : Word} {market : MarketState} {config : MarketConfig} {chain : ChainContext}
    (hkeys : s.KeysAgree) (hreach : Reaches s st) (hc : op.kind ≠ .claimRewards)
    (hw : op.kind ≠ .wrap) (hmax : op.amount = Word.maxValue)
    (hres : resolveAmount st.snapshot op = .ok amount)
    (hm : st.snapshot.markets.get? op.market = some market)
    (hcfg : st.snapshot.configs.get? op.market = some config) (hch : st.snapshot.chain = some chain) :
    ∃ p, st.snapshot.positions.get? op.market = some p ∧
      st.user.position? op.market = some (PositionView.of p (MarketView.of market config)
        (RiskParams.effective market config chain)) ∧
      ∀ x r, (some x, r) ∈ candidates (MarketView.of market config) st.user
        (PositionView.of p (MarketView.of market config) (RiskParams.effective market config chain))
        op.kind → amount ≤ x := by
  obtain ⟨limit, hcap, hval⟩ := maxCapacity_of_resolveAmount hmax hres
  obtain ⟨config', state, chain', p, u, pv, hcfg', hst, hch', hp, hu, hpv, hlim⟩ :=
    Snapshot.maxCapacity_market_cases hc hw hcap
  rw [hcfg, Option.some.injEq] at hcfg'
  rw [hm, Option.some.injEq] at hst
  rw [hch, Option.some.injEq] at hch'
  subst hcfg' hst hch'
  have hu' := (SimulatedState.derive_ok hreach.derive_eq).2.2
  rw [hu', Except.ok.injEq] at hu
  subst hu
  have hpv' := Snapshot.position?_eq (hreach.keysAgree hkeys) hu' hp hm hcfg hch
  rw [hpv, Option.some.injEq] at hpv'
  subst hpv'
  refine ⟨p, hp, hpv, fun x r hx => ?_⟩
  rw [← hval]
  -- a zero price and a pause bind at nothing; otherwise the limit is the least candidate
  rcases hlim with rfl | ⟨-, rfl⟩ | ⟨-, hb⟩
  · exact Nat.zero_le _
  · exact Nat.zero_le _
  · exact bindMin_le hb x r hx

/-! ## 9. Spending a whole headroom -/

/-- Withdrawing as much collateral as allowed keeps a health factor of one wad: from a snapshot
whose keys agree, with fewer than ten thousand positions and the market's supply pool index at one
ray once aged, a run of that one withdrawal that ends with a final state ends at a health factor
of at least one wad when it started at one. -/
theorem withdrawCollateral_max_keeps_health {s : Snapshot} {m : Address}
    {start fin : SimulatedState} {out : SimulationOutcome} (hkeys : s.KeysAgree)
    (hstart : startState s = .ok start)
    (hfew : start.snapshot.positions.size < 10000)
    (hray : ∀ market, start.snapshot.markets.get? m = some market →
      market.indexes.supply.poolIndex = ray)
    (hhealthy : defaultHealthThreshold ≤ start.user.healthFactor)
    (h : simulate s [⟨.withdrawCollateral, m, Word.maxValue, false⟩] = .ok out)
    (hfin : out.final = some fin) : defaultHealthThreshold ≤ fin.user.healthFactor := by
  obtain ⟨t, happ, hd⟩ := simulate_single_final hstart h hfin
  have hreach := Reaches.of_startState hstart
  have hc : OperationKind.withdrawCollateral ≠ .claimRewards := by decide
  have hw : OperationKind.withdrawCollateral ≠ .wrap := by decide
  obtain ⟨market, config, chain, amount, hm, hcfg, hch, hres, -, ht⟩ :=
    applyOperation_market_ok hc hw happ
  obtain ⟨p, -, hpv, hcand⟩ := resolveAmount_max_within hkeys hreach hc hw rfl hres hm hcfg hch
  -- the step moves at most the capacity, which is within the headroom the view gives
  have hmoved : t.amount ≤ amount := by
    rw [ht]
    simp only [Work.finish, Work.perform, Work.amount_withdrawCollateral]
    split
    · exact Nat.le_of_lt ‹_›
    · exact Nat.le_refl _
  have hwithin : ∀ pv hd, start.user.position? m = some pv →
      withdrawCollateralHeadroom start.user pv = some hd → t.amount ≤ hd := by
    intro pv hd hpv' hh
    rw [hpv, Option.some.injEq] at hpv'
    subst hpv'
    refine Nat.le_trans hmoved (hcand hd .borrowCapacity ?_)
    simp only [candidates, hh]
    exact List.mem_cons_of_mem _ List.mem_cons_self
  -- a health factor of one wad covers the debt, which the withdrawal leaves
  have hu := (SimulatedState.derive_ok hreach.derive_eq).2.2
  have hu' := (SimulatedState.derive_ok hd).2.2
  have hch' : t.snapshot.chain = some chain := by
    rw [ht]
    exact hch
  have hcoh := (Snapshot.currentUserView_shows hu hch).coherent
  have hcoh' := (Snapshot.currentUserView_shows hu' hch').coherent
  unfold defaultHealthThreshold at hhealthy ⊢
  rw [hcoh.healthFactor] at hhealthy
  obtain ⟨hcov, hsmall⟩ := UserView.covered_of_wad_le_healthOf hhealthy
  obtain ⟨hb, hl⟩ := withdrawCollateral_within_headroom hkeys hreach hfew rfl hm (hray _ hm)
    hwithin happ hd
  rw [hcoh'.healthFactor, hb]
  apply UserView.wad_le_healthOf _ hsmall
  rw [zeroFloorSub, Word.val_satSub] at hl
  rcases hl with hl | hl <;> omega

/-- Borrowing as much as allowed keeps a health factor of one wad where no borrowable factor
exceeds its collateral factor: from a snapshot whose keys agree, with fewer than ten thousand
positions, the market's borrow indexes at one ray once aged and a borrow capacity whose product
with one wad fits in a word, a run of that one borrow that ends with a final state ends at a
health factor of at least one wad when it started at one. -/
theorem borrow_max_keeps_health {s : Snapshot} {m : Address} {start fin : SimulatedState}
    {out : SimulationOutcome} (hkeys : s.KeysAgree)
    (hstart : startState s = .ok start) (hfew : start.snapshot.positions.size < 10000)
    (hray : ∀ market, start.snapshot.markets.get? m = some market →
      market.indexes.borrow = SideIndexes.unit)
    (hfactors : start.snapshot.BorrowsWithinCollateral)
    (hhealthy : defaultHealthThreshold ≤ start.user.healthFactor)
    (hsmall : start.user.borrowCapacity.val * wad.val < wordSize)
    (h : simulate s [⟨.borrow, m, Word.maxValue, false⟩] = .ok out)
    (hfin : out.final = some fin) : defaultHealthThreshold ≤ fin.user.healthFactor := by
  obtain ⟨t, happ, hd⟩ := simulate_single_final hstart h hfin
  have hreach := Reaches.of_startState hstart
  have hc : OperationKind.borrow ≠ .claimRewards := by decide
  have hw : OperationKind.borrow ≠ .wrap := by decide
  obtain ⟨market, config, chain, amount, hm, hcfg, hch, hres, -, ht⟩ :=
    applyOperation_market_ok hc hw happ
  obtain ⟨p, -, -, hcand⟩ := resolveAmount_max_within hkeys hreach hc hw rfl hres hm hcfg hch
  -- the step moves the capacity, which is within the borrow capacity left
  have hwithin : t.amount ≤ fromUsd start.user.borrowCapacityRemaining
      (usdPrice (RiskParams.effective market config chain).chainUsdPrice config.decimals) := by
    have hamount : t.amount = amount := by
      rw [ht]
      simp only [Work.finish, Work.perform, Work.amount_borrow]
    rw [hamount]
    exact hcand _ .borrowCapacity List.mem_cons_self
  have hu := (SimulatedState.derive_ok hreach.derive_eq).2.2
  have hu' := (SimulatedState.derive_ok hd).2.2
  have hch' : t.snapshot.chain = some chain := by
    rw [ht]
    exact hch
  have hshow := Snapshot.currentUserView_shows hu hch
  have hcoh' := (Snapshot.currentUserView_shows hu' hch').coherent
  unfold defaultHealthThreshold at hhealthy ⊢
  rw [hshow.coherent.healthFactor] at hhealthy
  obtain ⟨hcov, hsmall'⟩ := UserView.covered_of_wad_le_healthOf hhealthy
  obtain ⟨hl, hcap, hb⟩ := borrow_within_capacity hkeys hreach hfew rfl hm hcfg hch
    (hray _ hm) hwithin happ hd
  -- the capacity is at most the liquidation value, both before the step and after it
  have hcl : start.user.borrowCapacity.val ≤ start.user.liquidationValue.val := by
    have hfit := Snapshot.healthSums_fit (Nat.le_of_lt hfew) chain
    rw [hshow.borrowCapacity, hshow.liquidationValue, Nat.mod_eq_of_lt hfit.2,
      Nat.mod_eq_of_lt hfit.1]
    exact Snapshot.healthSums_capacity_le hfactors hch
  rw [hcoh'.healthFactor, hl]
  unfold UserView.borrowCapacityRemaining at hb
  rw [zeroFloorSub, Word.val_satSub] at hb
  -- the debt ends at most at the larger of the old debt and the capacity
  apply UserView.wad_le_healthOf (by omega)
  rcases Nat.le_total start.user.totalBorrowUsd.val start.user.borrowCapacity.val with hbc | hbc
  · exact Nat.lt_of_le_of_lt (Nat.mul_le_mul_right _ (by omega)) hsmall
  · exact Nat.lt_of_le_of_lt (Nat.mul_le_mul_right _ (by omega)) hsmall'

/-! ## 10. The headrooms keep the debt covered -/

/-- The limiter's headrooms keep the debt covered where the scaled balances convert at one ray.
On any state of a run from a snapshot whose keys agree, with fewer than ten thousand positions:
withdrawing collateral from a market whose supply pool index is one ray, by an amount within the
headroom the user's view gives, leaves a covered debt covered; borrowing on a market whose borrow
indexes are one ray, by an amount within the borrow capacity left in the asset at its effective
price, leaves a debt within the capacity within it. So a run that withdraws as much collateral as
allowed, from a start with a health factor of one wad, ends with one; and so does a run that
borrows as much as allowed, where no borrowable factor exceeds its collateral factor and the
capacity times one wad fits in a word. -/
theorem headrooms_keep_debt_covered {s : Snapshot} (hkeys : s.KeysAgree) :
    (∀ st op t next market, Reaches s st → st.snapshot.positions.size < 10000 →
      op.kind = .withdrawCollateral → st.snapshot.markets.get? op.market = some market →
      market.indexes.supply.poolIndex = ray →
      (∀ pv h, st.user.position? op.market = some pv →
        withdrawCollateralHeadroom st.user pv = some h → t.amount ≤ h) →
      st.user.totalBorrowUsd ≤ st.user.liquidationValue →
      applyOperation st op = .ok t → SimulatedState.derive t.snapshot = .ok next →
      next.user.totalBorrowUsd ≤ next.user.liquidationValue) ∧
    (∀ st op t next market config chain, Reaches s st → st.snapshot.positions.size < 10000 →
      op.kind = .borrow → st.snapshot.markets.get? op.market = some market →
      st.snapshot.configs.get? op.market = some config → st.snapshot.chain = some chain →
      market.indexes.borrow = SideIndexes.unit →
      t.amount ≤ fromUsd st.user.borrowCapacityRemaining
        (usdPrice (RiskParams.effective market config chain).chainUsdPrice config.decimals) →
      st.user.totalBorrowUsd ≤ st.user.borrowCapacity →
      applyOperation st op = .ok t → SimulatedState.derive t.snapshot = .ok next →
      next.user.totalBorrowUsd ≤ next.user.borrowCapacity) ∧
    (∀ m start out fin, startState s = .ok start → start.snapshot.positions.size < 10000 →
      (∀ market, start.snapshot.markets.get? m = some market →
        market.indexes.supply.poolIndex = ray) →
      defaultHealthThreshold ≤ start.user.healthFactor →
      simulate s [⟨.withdrawCollateral, m, Word.maxValue, false⟩] = .ok out →
      out.final = some fin → defaultHealthThreshold ≤ fin.user.healthFactor) ∧
    (∀ m start out fin, startState s = .ok start → start.snapshot.positions.size < 10000 →
      (∀ market, start.snapshot.markets.get? m = some market →
        market.indexes.borrow = SideIndexes.unit) →
      start.snapshot.BorrowsWithinCollateral →
      start.user.borrowCapacity.val * wad.val < wordSize →
      defaultHealthThreshold ≤ start.user.healthFactor →
      simulate s [⟨.borrow, m, Word.maxValue, false⟩] = .ok out →
      out.final = some fin → defaultHealthThreshold ≤ fin.user.healthFactor) := by
  refine ⟨?_, ?_, ?_, ?_⟩
  · intro st op t next market hrun hfew hk hm hray hwithin hcover h hnext
    obtain ⟨hb, hl⟩ :=
      withdrawCollateral_within_headroom hkeys hrun hfew hk hm hray hwithin h hnext
    rw [Word.le_iff_val_le] at hcover ⊢
    rw [hb]
    rw [zeroFloorSub, Word.val_satSub] at hl
    rcases hl with hl | hl <;> omega
  · intro st op t next market config chain hrun hfew hk hm hcfg hch hray hwithin hunder h hnext
    obtain ⟨-, hcap, hb⟩ :=
      borrow_within_capacity hkeys hrun hfew hk hm hcfg hch hray hwithin h hnext
    rw [Word.le_iff_val_le] at hunder ⊢
    rw [hcap]
    unfold UserView.borrowCapacityRemaining at hb
    rw [zeroFloorSub, Word.val_satSub] at hb
    omega
  · intro m start out fin hstart hfew hray hhealthy h hfin
    exact withdrawCollateral_max_keeps_health hkeys hstart hfew hray hhealthy h hfin
  · intro m start out fin hstart hfew hray hfactors hsmall hhealthy h hfin
    exact borrow_max_keeps_health hkeys hstart hfew hray hfactors hhealthy hsmall h hfin

/-- A market of a one-dollar token without decimals, at the given supply and borrow indexes, where
the user holds `collateral` scaled collateral and owes `debt` scaled on the pool. -/
def roundingState (supplyIndex borrowIndex collateral debt : Word) : MarketState where
  underlying := exitAsset
  scaledPoolSupply := collateral
  scaledPoolBorrow := debt
  scaledProtocolSupplyOnPool := 0
  scaledProtocolBorrowOnPool := debt
  scaledProtocolCollateral := collateral
  deltas := ⟨⟨0, 0⟩, ⟨0, 0⟩⟩
  idleSupply := 0
  indexes := ⟨⟨supplyIndex, supplyIndex⟩, ⟨borrowIndex, borrowIndex⟩, 1000⟩
  poolReserve := ⟨supplyIndex, borrowIndex, 0, 0, 1000⟩
  poolLiquidity := 100
  chainUsdPrice := 100000000

/-- The user's position on that market, at a collateral factor of 80% and the given borrowable
factor. -/
def roundingSnapshot (supplyIndex borrowIndex collateral debt borrowableFactor : Word) : Snapshot where
  chain := some exitChain
  user := some exitAccount
  markets := AddrMap.empty.insert exitAsset (roundingState supplyIndex borrowIndex collateral debt)
  configs := AddrMap.empty.insert exitAsset
    { exitConfig exitAsset with decimals := 0, borrowableFactor := borrowableFactor }
  positions := AddrMap.empty.insert exitAsset
    { Position.empty exitAsset with scaledCollateral := collateral, scaledBorrowOnPool := debt }

theorem roundingSnapshot_keysAgree (supplyIndex borrowIndex collateral debt borrowableFactor : Word) :
    (roundingSnapshot supplyIndex borrowIndex collateral debt borrowableFactor).KeysAgree := by
  refine ⟨fun e he => ?_, fun e he => ?_⟩
  · rcases AddrMap.mem_insert he with rfl | he
    · rfl
    · cases he
  · rcases AddrMap.mem_insert he with rfl | he
    · rfl
    · cases he

/-- At unit indexes, five tokens of collateral against a debt of three keep a health factor of one
wad after withdrawing as much as allowed. -/
theorem withdrawing_all_at_one_ray_keeps_health :
    ∃ start out fin, startState (roundingSnapshot ray ray 5 3 7500) = .ok start ∧
      defaultHealthThreshold ≤ start.user.healthFactor ∧
      simulate (roundingSnapshot ray ray 5 3 7500)
        [⟨.withdrawCollateral, exitAsset, Word.maxValue, false⟩] = .ok out ∧
      out.final = some fin ∧ defaultHealthThreshold ≤ fin.user.healthFactor := by
  have hstart : startState (roundingSnapshot ray ray 5 3 7500) = .ok _ := rfl
  have hsim : simulate (roundingSnapshot ray ray 5 3 7500)
      [⟨.withdrawCollateral, exitAsset, Word.maxValue, false⟩] = .ok _ := rfl
  refine ⟨_, _, _, hstart, by decide, hsim, rfl, ?_⟩
  refine (headrooms_keep_debt_covered (roundingSnapshot_keysAgree ray ray 5 3 7500)).2.2.1
    exitAsset _ _ _ hstart (by decide)
    (fun market hm => ?_) (by decide) hsim rfl
  -- the aged market is the stored one, at a supply pool index of one ray
  have e : (((roundingSnapshot ray ray 5 3 7500).accrue 1000).markets.get? exitAsset).map
      (·.indexes.supply.poolIndex) = some ray := by decide
  rw [show ((roundingSnapshot ray ray 5 3 7500).accrue 1000).markets.get? exitAsset = some market
    from hm] at e
  exact Option.some.inj e

/-- Away from one ray the headrooms overshoot. At a supply pool index of `1.5` ray, three scaled
units of collateral show as five tokens against a debt of three: the headroom is one token, whose
quotient rounds up to a whole scaled unit worth `1.5` tokens, and the withdrawal leaves three
tokens of collateral, under water. At a borrow index of `1.5` ray, with both factors at 80%, two
tokens of collateral leave a borrow capacity of one token, whose quotient again rounds up to a
scaled unit that shows as two tokens of debt: past the capacity, and under water. -/
theorem index_rounding_overshoots_headroom :
    (∃ start out fin,
      startState (roundingSnapshot 1500000000000000000000000000 ray 3 3 7500) = .ok start ∧
      defaultHealthThreshold ≤ start.user.healthFactor ∧
      simulate (roundingSnapshot 1500000000000000000000000000 ray 3 3 7500)
        [⟨.withdrawCollateral, exitAsset, Word.maxValue, false⟩] = .ok out ∧
      out.final = some fin ∧ fin.user.healthFactor < defaultHealthThreshold) ∧
    (∃ start out fin,
      startState (roundingSnapshot ray 1500000000000000000000000000 2 0 8000) = .ok start ∧
      defaultHealthThreshold ≤ start.user.healthFactor ∧
      simulate (roundingSnapshot ray 1500000000000000000000000000 2 0 8000)
        [⟨.borrow, exitAsset, Word.maxValue, false⟩] = .ok out ∧
      out.final = some fin ∧ fin.user.borrowCapacity < fin.user.totalBorrowUsd ∧
      fin.user.healthFactor < defaultHealthThreshold) :=
  ⟨⟨_, _, _, rfl, by decide, rfl, rfl, by decide⟩, ⟨_, _, _, rfl, by decide, rfl, rfl, by decide,
    by decide⟩⟩

end PeerLending
