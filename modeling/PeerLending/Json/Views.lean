import PeerLending.Json.Snapshot
import PeerLending.User.View

/-!
# The JSON form of views

Market, position and user views are written as objects with their fields in snake case, in the
order the views declare them; words as hexadecimal text, the signed net APY as signed decimal
text, absent cap room and an absent user as `null`.
-/

set_option autoImplicit false

namespace PeerLending

namespace MarketView

def toJson (v : MarketView) : Json :=
  .object [("underlying", .ofAddress v.underlying),
    ("symbol", .string v.symbol),
    ("decimals", .ofNat v.decimals),
    ("pool_supply_index", .ofWord v.poolSupplyIndex),
    ("pool_borrow_index", .ofWord v.poolBorrowIndex),
    ("p2p_supply_index", .ofWord v.p2pSupplyIndex),
    ("p2p_borrow_index", .ofWord v.p2pBorrowIndex),
    ("pool_supply_rate", .ofWord v.poolSupplyRate),
    ("pool_borrow_rate", .ofWord v.poolBorrowRate),
    ("p2p_supply_rate", .ofWord v.p2pSupplyRate),
    ("p2p_borrow_rate", .ofWord v.p2pBorrowRate),
    ("pool_supply_apy", .ofWord v.poolSupplyApy),
    ("pool_borrow_apy", .ofWord v.poolBorrowApy),
    ("p2p_supply_apy", .ofWord v.p2pSupplyApy),
    ("p2p_borrow_apy", .ofWord v.p2pBorrowApy),
    ("total_pool_supply", .ofWord v.totalPoolSupply),
    ("total_pool_borrow", .ofWord v.totalPoolBorrow),
    ("morpho_supply_in_p2p", .ofWord v.protocolSupplyInP2P),
    ("morpho_supply_on_pool", .ofWord v.protocolSupplyOnPool),
    ("total_morpho_supply", .ofWord v.totalProtocolSupply),
    ("morpho_borrow_in_p2p", .ofWord v.protocolBorrowInP2P),
    ("morpho_borrow_on_pool", .ofWord v.protocolBorrowOnPool),
    ("total_morpho_borrow", .ofWord v.totalProtocolBorrow),
    ("total_morpho_collateral", .ofWord v.totalProtocolCollateral),
    ("idle_supply", .ofWord v.idleSupply),
    ("supply_matching_ratio", .ofWord v.supplyMatchingShare),
    ("borrow_matching_ratio", .ofWord v.borrowMatchingShare),
    ("pool_liquidity", .ofWord v.poolLiquidity),
    ("chain_usd_price", .ofWord v.chainUsdPrice),
    ("usd_price", .ofWord v.usdPrice),
    ("supply_cap_remaining", .ofOption .ofWord v.supplyCapRemaining),
    ("borrow_cap_remaining", .ofOption .ofWord v.borrowCapRemaining),
    ("last_update_timestamp", .ofNat v.lastUpdate)]

end MarketView

namespace RiskParams

def toJson (r : RiskParams) : Json :=
  .object [("collateral_factor", .ofWord r.collateralFactor),
    ("borrowable_factor", .ofWord r.borrowableFactor),
    ("chain_usd_price", .ofWord r.chainUsdPrice)]

end RiskParams

namespace PositionView

def toJson (v : PositionView) : Json :=
  .object [("market", .ofAddress v.market),
    ("symbol", .string v.symbol),
    ("decimals", .ofNat v.decimals),
    ("supply_in_p2p", .ofWord v.supplyInP2P),
    ("supply_on_pool", .ofWord v.supplyOnPool),
    ("total_supply", .ofWord v.totalSupply),
    ("borrow_in_p2p", .ofWord v.borrowInP2P),
    ("borrow_on_pool", .ofWord v.borrowOnPool),
    ("total_borrow", .ofWord v.totalBorrow),
    ("collateral", .ofWord v.collateral),
    ("wallet_balance", .ofWord v.walletBalance),
    ("supply_usd", .ofWord v.supplyUsd),
    ("borrow_usd", .ofWord v.borrowUsd),
    ("collateral_usd", .ofWord v.collateralUsd),
    ("liquidation_value", .ofWord v.liquidationValue),
    ("borrow_capacity", .ofWord v.borrowCapacity),
    ("supply_matching_ratio", .ofWord v.supplyMatchingShare),
    ("borrow_matching_ratio", .ofWord v.borrowMatchingShare),
    ("experienced_supply_apy", .ofWord v.experiencedSupplyApy),
    ("experienced_borrow_apy", .ofWord v.experiencedBorrowApy),
    ("experienced_collateral_apy", .ofWord v.experiencedCollateralApy),
    ("usd_price", .ofWord v.usdPrice),
    ("risk", v.risk.toJson)]

end PositionView

namespace UserView

def toJson (u : UserView) : Json :=
  .object [("user", .ofOption .ofAddress u.user),
    ("markets", .array (u.markets.map PositionView.toJson)),
    ("total_supply_usd", .ofWord u.totalSupplyUsd),
    ("total_borrow_usd", .ofWord u.totalBorrowUsd),
    ("total_collateral_usd", .ofWord u.totalCollateralUsd),
    ("liquidation_value", .ofWord u.liquidationValue),
    ("borrow_capacity", .ofWord u.borrowCapacity),
    ("health_factor", .ofWord u.healthFactor),
    ("borrow_capacity_used", .ofWord u.borrowCapacityUsed),
    ("liquidation_value_used", .ofWord u.liquidationValueUsed),
    ("net_apy", .string u.netApy.toDecimal)]

end UserView

end PeerLending
