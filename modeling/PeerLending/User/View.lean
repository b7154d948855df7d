import PeerLending.Market.View
import PeerLending.QueryError
import PeerLending.Snapshot
import PeerLending.Word.Signed

/-!
# The view of a user

A user's scaled positions become real balances, USD values and risk numbers.

* **Risk parameters.** A market belonging to the chain's active efficiency-mode category (a
  non-zero id equal to the market's) takes the category's liquidation threshold and
  loan-to-value as its factors, and the category's price when the category has a price source
  (a non-zero address) with a fetched price. Otherwise the market's own factors and price hold.
* **Risk-adjusted value.** A USD value is first reduced by `(ltLowerBound - 1) / ltLowerBound`
  and then multiplied by a factor, both rounded down: the liquidation value (by the collateral
  factor) and the borrow capacity (by the borrowable factor).
* **Experienced APYs.** The supply (borrow) APY a user sees is the peer-to-peer and pool APYs
  weighted by the user's peer-to-peer and pool amounts; collateral earns the pool supply APY.
* **Health.** The health factor is the liquidation value over the debt (wad, rounded down), or
  the largest word without debt; the usages are the debt over the borrow capacity and over the
  liquidation value (percent).
* **Net APY.** The signed sum of every USD value times its APY (debt counting negative) over
  `supply + collateral - borrow`, or over `supply + collateral` when that difference is exactly
  zero, truncated toward zero; zero when both are zero. The sum is accumulated in signed 256-bit
  words, each product read as signed by stopping at the largest signed word, and a step that
  leaves the signed range ends the computation (`none`).
-/

set_option autoImplicit false

namespace PeerLending

/-- The risk parameters in force on a market. -/
structure RiskParams where
  /-- Percent. -/
  collateralFactor : Word
  /-- Percent. -/
  borrowableFactor : Word
  /-- usd8. -/
  chainUsdPrice : Word
deriving DecidableEq

/-- The risk parameters of a market under the chain's efficiency-mode category. -/
def RiskParams.effective (state : MarketState) (config : MarketConfig) (chain : ChainContext) :
    RiskParams :=
  let e := chain.eMode
  if e.id = 0 ∨ config.eModeCategory ≠ e.id then
    ⟨config.collateralFactor, config.borrowableFactor, state.chainUsdPrice⟩
  else
    let price := match e.price with
      | some p => if e.priceSource.isZero then state.chainUsdPrice else p
      | none => state.chainUsdPrice
    ⟨e.liquidationThreshold, e.ltv, price⟩

/-- A USD value reduced by `(ltLowerBound - 1) / ltLowerBound`, then times `factor` (percent),
each rounded down. -/
def riskAdjustedValue (usd factor : Word) : Word :=
  percentMulDown (mulDivDown usd (ltLowerBound - 1) ltLowerBound) factor

/-- A user's position on one market in real units. -/
structure PositionView where
  market : Address
  symbol : String
  decimals : Nat
  /-- Native. -/
  supplyInP2P : Word
  supplyOnPool : Word
  totalSupply : Word
  borrowInP2P : Word
  borrowOnPool : Word
  totalBorrow : Word
  collateral : Word
  walletBalance : Word
  /-- Wad. -/
  supplyUsd : Word
  borrowUsd : Word
  collateralUsd : Word
  liquidationValue : Word
  borrowCapacity : Word
  /-- Percent. -/
  supplyMatchingShare : Word
  borrowMatchingShare : Word
  experiencedSupplyApy : Word
  experiencedBorrowApy : Word
  experiencedCollateralApy : Word
  /-- Wad per native unit, efficiency-mode price applied. -/
  usdPrice : Word
  risk : RiskParams
deriving DecidableEq

/-- The APY of two amounts weighted by their sizes; the second APY when both are zero. -/
def weightedApy (first firstApy second secondApy : Word) : Word :=
  let total := first + second
  if total.val = 0 then secondApy else (first * firstApy + second * secondApy) / total

/-- A user's view of one market. -/
def PositionView.of (p : Position) (m : MarketView) (risk : RiskParams) : PositionView :=
  let supplyInP2P := rayMul p.scaledSupplyInP2P m.p2pSupplyIndex
  let supplyOnPool := rayMul p.scaledSupplyOnPool m.poolSupplyIndex
  let borrowInP2P := rayMul p.scaledBorrowInP2P m.p2pBorrowIndex
  let borrowOnPool := rayMul p.scaledBorrowOnPool m.poolBorrowIndex
  let collateral := rayMul p.scaledCollateral m.poolSupplyIndex
  let totalSupply := supplyInP2P + supplyOnPool
  let totalBorrow := borrowInP2P + borrowOnPool
  let price := PeerLending.usdPrice risk.chainUsdPrice m.decimals
  let collateralUsd := toUsd collateral price
  { market := m.underlying
    symbol := m.symbol
    decimals := m.decimals
    supplyInP2P := supplyInP2P
    supplyOnPool := supplyOnPool
    totalSupply := totalSupply
    borrowInP2P := borrowInP2P
    borrowOnPool := borrowOnPool
    totalBorrow := totalBorrow
    collateral := collateral
    walletBalance := p.walletBalance
    supplyUsd := toUsd totalSupply price
    borrowUsd := toUsd totalBorrow price
    collateralUsd := collateralUsd
    liquidationValue := riskAdjustedValue collateralUsd risk.collateralFactor
    borrowCapacity := riskAdjustedValue collateralUsd risk.borrowableFactor
    supplyMatchingShare := percentShare supplyInP2P totalSupply
    borrowMatchingShare := percentShare borrowInP2P totalBorrow
    experiencedSupplyApy := weightedApy supplyInP2P m.p2pSupplyApy supplyOnPool m.poolSupplyApy
    experiencedBorrowApy := weightedApy borrowInP2P m.p2pBorrowApy borrowOnPool m.poolBorrowApy
    experiencedCollateralApy := m.poolSupplyApy
    usdPrice := price
    risk := risk }

/-- The running totals of the net APY: the signed weighted sum, and the supply, collateral and
borrow USD values. -/
structure ApyTally where
  weighted : SignedWord
  supply : Word
  collateral : Word
  borrow : Word

/-- Adds one position to the tally; `none` when the signed sum leaves its range. -/
def ApyTally.add (t : ApyTally) (v : PositionView) : Option ApyTally := do
  let w ← t.weighted.add? (SignedWord.ofWordSaturating (v.supplyUsd * v.experiencedSupplyApy))
  let w ← w.add? (SignedWord.ofWordSaturating (v.collateralUsd * v.experiencedCollateralApy))
  let w ← w.sub? (SignedWord.ofWordSaturating (v.borrowUsd * v.experiencedBorrowApy))
  return ⟨w, t.supply + v.supplyUsd, t.collateral + v.collateralUsd, t.borrow + v.borrowUsd⟩

/-- The signed net APY (percent) of a list of positions; `none` when a signed step leaves its
range. -/
def netApy (views : List PositionView) : Option SignedWord := do
  let t ← views.foldlM ApyTally.add ⟨SignedWord.zero, 0, 0, 0⟩
  let assets := SignedWord.ofWordSaturating (t.supply + t.collateral)
  let difference ← assets.sub? (SignedWord.ofWordSaturating t.borrow)
  let normaliser := if difference.val = 0 then assets else difference
  if normaliser.val = 0 then return SignedWord.zero
  else t.weighted.div? normaliser

/-- The aggregate view of a user over every market held. -/
structure UserView where
  user : Option Address
  markets : List PositionView
  /-- Wad. -/
  totalSupplyUsd : Word
  totalBorrowUsd : Word
  totalCollateralUsd : Word
  liquidationValue : Word
  borrowCapacity : Word
  /-- Wad; the largest word without debt. -/
  healthFactor : Word
  /-- Percent; the largest word for debt against no capacity. -/
  borrowCapacityUsed : Word
  /-- Percent; the largest word for debt against no liquidation value. -/
  liquidationValueUsed : Word
  /-- Signed percent. -/
  netApy : SignedWord
deriving DecidableEq

namespace UserView

/-- The sum of a field over the positions, wrapping. -/
def total (views : List PositionView) (f : PositionView → Word) : Word :=
  views.foldl (fun acc v => acc + f v) 0

/-- Aggregates per-market views into the user's view; `none` when the net APY overflows. -/
def aggregate (user : Option Address) (views : List PositionView) : Option UserView := do
  let supplyUsd := total views (·.supplyUsd)
  let borrowUsd := total views (·.borrowUsd)
  let collateralUsd := total views (·.collateralUsd)
  let liquidationValue := total views (·.liquidationValue)
  let borrowCapacity := total views (·.borrowCapacity)
  let apy ← PeerLending.netApy views
  return { user := user
           markets := views
           totalSupplyUsd := supplyUsd
           totalBorrowUsd := borrowUsd
           totalCollateralUsd := collateralUsd
           liquidationValue := liquidationValue
           borrowCapacity := borrowCapacity
           healthFactor :=
             if borrowUsd.val = 0 then Word.maxValue else wadDivDown liquidationValue borrowUsd
           borrowCapacityUsed := usage borrowUsd borrowCapacity
           liquidationValueUsed := usage borrowUsd liquidationValue
           netApy := apy }

/-- The view of the position on `market`, if the user has one. -/
def position? (u : UserView) (market : Address) : Option PositionView :=
  u.markets.find? (·.market == market)

/-- Borrow capacity left (wad), stopping at zero. -/
def borrowCapacityRemaining (u : UserView) : Word :=
  zeroFloorSub u.borrowCapacity u.totalBorrowUsd

end UserView

end PeerLending
