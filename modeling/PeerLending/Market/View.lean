import PeerLending.Index.PeerToPeer

/-!
# The view of a market

`MarketView.of` turns a market state into real amounts, rates, APYs and matching shares, as the
state stands: it does not age the market (`MarketState.accrue` does that first where needed).

Real amounts are scaled balances times their index: pool balances by the pool index of their
side, peer-to-peer totals by the peer-to-peer index, and collateral by the pool *supply* index.
The matching share of a side is its peer-to-peer part in percent of its total; a cap's remaining
room is `none` when the cap is zero (no cap).

Prices: an oracle price has eight decimals (usd8); `usdPrice` rescales it to wad per native
unit of an asset with the given decimals, and is zero for an asset with more than twenty-six.
-/

set_option autoImplicit false

namespace PeerLending

/-- Decimals of a wad price plus the oracle's eight. -/
def priceDecimals : Nat := 26

/-- An oracle price (usd8) as wad per native unit: `price · 10^(26 - decimals) / 10^8`, zero
above twenty-six decimals. -/
def usdPrice (chainUsdPrice : Word) (decimals : Nat) : Word :=
  if decimals > priceDecimals then 0
  else mulDivDown chainUsdPrice (pow10 (priceDecimals - decimals)) priceUnit

/-- The USD value (wad) of a native amount at a wad price. -/
def toUsd (amount price : Word) : Word := mulDivDown amount price priceUnit

/-- The native amount worth `usd` (wad) at a wad price; zero at price zero. -/
def fromUsd (usd price : Word) : Word := mulDivDown usd priceUnit price

/-- The derived view of one market. -/
structure MarketView where
  underlying : Address
  symbol : String
  decimals : Nat
  /-- Ray. -/
  poolSupplyIndex : Word
  poolBorrowIndex : Word
  p2pSupplyIndex : Word
  p2pBorrowIndex : Word
  /-- Ray per year. -/
  poolSupplyRate : Word
  poolBorrowRate : Word
  p2pSupplyRate : Word
  p2pBorrowRate : Word
  /-- Percent. -/
  poolSupplyApy : Word
  poolBorrowApy : Word
  p2pSupplyApy : Word
  p2pBorrowApy : Word
  /-- Pool-wide totals (native). -/
  totalPoolSupply : Word
  totalPoolBorrow : Word
  /-- The lending layer's balances (native). -/
  protocolSupplyInP2P : Word
  protocolSupplyOnPool : Word
  totalProtocolSupply : Word
  protocolBorrowInP2P : Word
  protocolBorrowOnPool : Word
  totalProtocolBorrow : Word
  totalProtocolCollateral : Word
  idleSupply : Word
  /-- Peer-to-peer part of the layer's supply and borrow (percent). -/
  supplyMatchingShare : Word
  borrowMatchingShare : Word
  /-- Native. -/
  poolLiquidity : Word
  /-- usd8. -/
  chainUsdPrice : Word
  /-- Wad per native unit. -/
  usdPrice : Word
  /-- Room under the supply cap (native); none without a cap. -/
  supplyCapRemaining : Option Word
  /-- Room under the borrow cap (native); none without a cap. -/
  borrowCapRemaining : Option Word
  /-- Seconds. -/
  lastUpdate : Nat
deriving DecidableEq

/-- Room left under a cap; none for the zero cap, which means no cap. -/
def capRemaining (cap total : Word) : Option Word :=
  if cap.val = 0 then none else some (zeroFloorSub cap total)

namespace MarketView

/-- The view of a market as it stands. -/
def of (state : MarketState) (config : MarketConfig) : MarketView :=
  let supply := state.indexes.supply
  let borrow := state.indexes.borrow
  let reserve := state.poolReserve
  let idle := proportionIdle state.idleSupply state.deltas.supply supply.p2pIndex
  let rates := P2PRateInputs.rates
    { poolSupplyRate := reserve.liquidityRate
      poolBorrowRate := reserve.variableBorrowRate
      poolSupplyIndex := supply.poolIndex
      poolBorrowIndex := borrow.poolIndex
      p2pSupplyIndex := supply.p2pIndex
      p2pBorrowIndex := borrow.p2pIndex
      cursor := config.p2pIndexCursor
      reserveFactor := config.p2pReserveFactor
      deltas := state.deltas
      idleShare := idle }
  let totalPoolSupply := rayMul state.scaledPoolSupply supply.poolIndex
  let totalPoolBorrow := rayMul state.scaledPoolBorrow borrow.poolIndex
  let supplyInP2P := rayMul state.deltas.supply.scaledP2PTotal supply.p2pIndex
  let supplyOnPool := rayMul state.scaledProtocolSupplyOnPool supply.poolIndex
  let totalSupply := supplyInP2P + supplyOnPool
  let borrowInP2P := rayMul state.deltas.borrow.scaledP2PTotal borrow.p2pIndex
  let borrowOnPool := rayMul state.scaledProtocolBorrowOnPool borrow.poolIndex
  let totalBorrow := borrowInP2P + borrowOnPool
  { underlying := state.underlying
    symbol := config.symbol
    decimals := config.decimals
    poolSupplyIndex := supply.poolIndex
    poolBorrowIndex := borrow.poolIndex
    p2pSupplyIndex := supply.p2pIndex
    p2pBorrowIndex := borrow.p2pIndex
    poolSupplyRate := reserve.liquidityRate
    poolBorrowRate := reserve.variableBorrowRate
    p2pSupplyRate := rates.supplyRate
    p2pBorrowRate := rates.borrowRate
    poolSupplyApy := rateToApy reserve.liquidityRate
    poolBorrowApy := rateToApy reserve.variableBorrowRate
    p2pSupplyApy := rateToApy rates.supplyRate
    p2pBorrowApy := rateToApy rates.borrowRate
    totalPoolSupply := totalPoolSupply
    totalPoolBorrow := totalPoolBorrow
    protocolSupplyInP2P := supplyInP2P
    protocolSupplyOnPool := supplyOnPool
    totalProtocolSupply := totalSupply
    protocolBorrowInP2P := borrowInP2P
    protocolBorrowOnPool := borrowOnPool
    totalProtocolBorrow := totalBorrow
    totalProtocolCollateral := rayMul state.scaledProtocolCollateral supply.poolIndex
    idleSupply := state.idleSupply
    supplyMatchingShare := percentShare supplyInP2P totalSupply
    borrowMatchingShare := percentShare borrowInP2P totalBorrow
    poolLiquidity := state.poolLiquidity
    chainUsdPrice := state.chainUsdPrice
    usdPrice := PeerLending.usdPrice state.chainUsdPrice config.decimals
    supplyCapRemaining := capRemaining config.supplyCap totalPoolSupply
    borrowCapRemaining := capRemaining config.borrowCap totalPoolBorrow
    lastUpdate := state.indexes.lastUpdate }

/-- The USD value (wad) of a native amount of this market's asset. -/
def amountToUsd (v : MarketView) (amount : Word) : Word := toUsd amount v.usdPrice

/-- The native amount of this market's asset worth `usd` (wad). -/
def amountFromUsd (v : MarketView) (usd : Word) : Word := fromUsd usd v.usdPrice

end MarketView

end PeerLending
