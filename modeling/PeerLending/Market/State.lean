import PeerLending.Address
import PeerLending.FixedPoint

/-!
# Market state

A market is kept in *scaled* units: a real amount is a scaled balance times the matching index.
Pool balances are scaled by a pool index, peer-to-peer balances by a peer-to-peer index. Every
field says its base: ray, wad, percent, native (the asset's own decimals) or usd8 (an
eight-decimal oracle price).

* `SideDelta`: for one side (supply or borrow), the peer-to-peer principal that is not really
  matched and rests on the pool (pool scaled), and the whole peer-to-peer principal (p2p scaled);
* `SideIndexes`, `Indexes`: the indexes the lending layer stores, with their timestamp;
* `PoolReserve`: the underlying pool's own indexes and yearly rates;
* `MarketState`: all of the above, the pool-wide totals, the layer's own pool balances, idle
  supply, pool liquidity and the oracle price;
* `PauseFlags`, `MarketConfig`: static configuration of a market.

`MarketState.empty` is a market with unit indexes and nothing in it.
-/

set_option autoImplicit false

namespace PeerLending

/-- Unmatched and total peer-to-peer principal of one side of a market. -/
structure SideDelta where
  /-- Peer-to-peer principal resting unmatched on the pool (pool-index scaled). -/
  scaledDelta : Word
  /-- All peer-to-peer principal of the side (p2p-index scaled). -/
  scaledP2PTotal : Word
deriving DecidableEq, Inhabited

/-- The two sides' deltas. -/
structure Deltas where
  supply : SideDelta
  borrow : SideDelta
deriving DecidableEq, Inhabited

/-- Pool and peer-to-peer index of one side (ray). -/
structure SideIndexes where
  poolIndex : Word
  p2pIndex : Word
deriving DecidableEq

/-- Both indexes at one, the state of a market that never accrued. -/
def SideIndexes.unit : SideIndexes := ⟨ray, ray⟩

/-- The indexes the lending layer stores, and when they were last brought up to date. -/
structure Indexes where
  supply : SideIndexes
  borrow : SideIndexes
  /-- Seconds. -/
  lastUpdate : Nat
deriving DecidableEq

/-- The underlying pool's own accounting for the asset. -/
structure PoolReserve where
  /-- Pool supply index (ray). -/
  liquidityIndex : Word
  /-- Pool variable borrow index (ray). -/
  variableBorrowIndex : Word
  /-- Pool supply rate (ray per year). -/
  liquidityRate : Word
  /-- Pool variable borrow rate (ray per year). -/
  variableBorrowRate : Word
  /-- Seconds. -/
  lastUpdate : Nat
deriving DecidableEq

/-- The lending layer's state of one market, in scaled units. -/
structure MarketState where
  underlying : Address
  /-- Pool-wide scaled supply. -/
  scaledPoolSupply : Word
  /-- Pool-wide scaled variable debt. -/
  scaledPoolBorrow : Word
  /-- The layer's own supply on the pool (pool scaled). -/
  scaledProtocolSupplyOnPool : Word
  /-- The layer's own debt on the pool (pool scaled). -/
  scaledProtocolBorrowOnPool : Word
  /-- The layer's collateral on the pool (pool scaled). -/
  scaledProtocolCollateral : Word
  deltas : Deltas
  /-- Supply neither matched nor on the pool (native). -/
  idleSupply : Word
  indexes : Indexes
  poolReserve : PoolReserve
  /-- Liquidity the pool can lend or pay out (native). -/
  poolLiquidity : Word
  /-- Oracle price of the asset (usd8). -/
  chainUsdPrice : Word
deriving DecidableEq

/-- A market with unit indexes and nothing in it, both timestamps at `timestamp`. -/
def MarketState.empty (underlying : Address) (timestamp : Nat) : MarketState where
  underlying := underlying
  scaledPoolSupply := 0
  scaledPoolBorrow := 0
  scaledProtocolSupplyOnPool := 0
  scaledProtocolBorrowOnPool := 0
  scaledProtocolCollateral := 0
  deltas := default
  idleSupply := 0
  indexes := ⟨SideIndexes.unit, SideIndexes.unit, timestamp⟩
  poolReserve := ⟨ray, ray, 0, 0, timestamp⟩
  poolLiquidity := 0
  chainUsdPrice := 0

/-- Pause flags of a market; all lowered by default. -/
structure PauseFlags where
  supplyPaused : Bool := false
  supplyCollateralPaused : Bool := false
  borrowPaused : Bool := false
  repayPaused : Bool := false
  withdrawPaused : Bool := false
  withdrawCollateralPaused : Bool := false
  liquidateCollateralPaused : Bool := false
  liquidateBorrowPaused : Bool := false
  p2pDisabled : Bool := false
  deprecated : Bool := false
deriving DecidableEq, Inhabited

/-- The static configuration of a market. -/
structure MarketConfig where
  underlying : Address
  symbol : String
  /-- Decimals of the asset, below 256. -/
  decimals : Nat
  /-- Liquidation threshold (percent). -/
  collateralFactor : Word
  /-- Loan-to-value (percent). -/
  borrowableFactor : Word
  /-- Share of the peer-to-peer spread the layer keeps (percent). -/
  p2pReserveFactor : Word
  /-- Where the peer-to-peer mid rate stands between the pool rates (percent). -/
  p2pIndexCursor : Word
  /-- Native; zero means no cap. -/
  supplyCap : Word
  /-- Native; zero means no cap. -/
  borrowCap : Word
  pause : PauseFlags
  /-- Efficiency-mode category, below 256; zero is none. -/
  eModeCategory : Nat
  /-- The asset is the wrapped coin of the chain. -/
  wrappedNative : Bool
deriving DecidableEq

end PeerLending
