import PeerLending.Json.Decode
import PeerLending.Snapshot
import PeerLending.Operation

/-!
# The JSON form of snapshots and operations

Each record is an object with its fields in snake case. In this form every field must be given,
except these, which default when absent: a market configuration's `pause` (each flag of which
defaults to `false`) and `wrapped_native` (`false`); the chain context's `e_mode` (no category)
and `fee_data` (zeros); an operation's `unwrap` (`false`); a snapshot's `markets`, `configs` and
`positions` (empty). The snapshot's `global` and `user`, and an efficiency-mode category's
`price`, are optional: `null` or absent is none.

Words are written as `0x` and lowercase hexadecimal digits, addresses as `0x` and forty
lowercase digits, whole numbers as JSON numbers; maps list their entries in address order.
-/

set_option autoImplicit false

namespace PeerLending

namespace Json

/-- A word as its hexadecimal text. -/
def ofWord (w : Word) : Json := .string w.toHex

/-- An address as its lowercase text. -/
def ofAddress (a : Address) : Json := .string a.toHex

/-- An optional value, `null` for none. -/
def ofOption {α : Type} (f : α → Json) : Option α → Json
  | some a => f a
  | none => .null

/-- A map keyed by address, entries in address order. -/
def ofAddrMap {α : Type} (f : α → Json) (m : AddrMap α) : Json :=
  .object (m.entries.map fun (k, v) => (k.toHex, f v))

end Json

/-! ## Reading -/

namespace SideDelta

def fromJson (v : Json) : Decoded SideDelta := do
  let r ← Record.ofJson "MarketSideDelta" ["scaled_delta", "scaled_p2p_total"] v
  return ⟨← r.req "scaled_delta" Json.asWord, ← r.req "scaled_p2p_total" Json.asWord⟩

def toJson (d : SideDelta) : Json :=
  .object [("scaled_delta", .ofWord d.scaledDelta), ("scaled_p2p_total", .ofWord d.scaledP2PTotal)]

end SideDelta

namespace Deltas

def fromJson (v : Json) : Decoded Deltas := do
  let r ← Record.ofJson "MarketDeltas" ["supply", "borrow"] v
  return ⟨← r.req "supply" SideDelta.fromJson, ← r.req "borrow" SideDelta.fromJson⟩

def toJson (d : Deltas) : Json :=
  .object [("supply", d.supply.toJson), ("borrow", d.borrow.toJson)]

end Deltas

namespace SideIndexes

def fromJson (v : Json) : Decoded SideIndexes := do
  let r ← Record.ofJson "SideIndexes" ["pool_index", "p2p_index"] v
  return ⟨← r.req "pool_index" Json.asWord, ← r.req "p2p_index" Json.asWord⟩

def toJson (i : SideIndexes) : Json :=
  .object [("pool_index", .ofWord i.poolIndex), ("p2p_index", .ofWord i.p2pIndex)]

end SideIndexes

namespace Indexes

def fromJson (v : Json) : Decoded Indexes := do
  let r ← Record.ofJson "MarketIndexes" ["supply", "borrow", "last_update_timestamp"] v
  return ⟨← r.req "supply" SideIndexes.fromJson, ← r.req "borrow" SideIndexes.fromJson,
    ← r.req "last_update_timestamp" Json.asU64⟩

def toJson (i : Indexes) : Json :=
  .object [("supply", i.supply.toJson), ("borrow", i.borrow.toJson),
    ("last_update_timestamp", .ofNat i.lastUpdate)]

end Indexes

namespace PoolReserve

def fromJson (v : Json) : Decoded PoolReserve := do
  let r ← Record.ofJson "PoolReserveState" ["liquidity_index", "variable_borrow_index",
    "liquidity_rate", "variable_borrow_rate", "last_update_timestamp"] v
  return ⟨← r.req "liquidity_index" Json.asWord, ← r.req "variable_borrow_index" Json.asWord,
    ← r.req "liquidity_rate" Json.asWord, ← r.req "variable_borrow_rate" Json.asWord,
    ← r.req "last_update_timestamp" Json.asU64⟩

def toJson (p : PoolReserve) : Json :=
  .object [("liquidity_index", .ofWord p.liquidityIndex),
    ("variable_borrow_index", .ofWord p.variableBorrowIndex),
    ("liquidity_rate", .ofWord p.liquidityRate),
    ("variable_borrow_rate", .ofWord p.variableBorrowRate),
    ("last_update_timestamp", .ofNat p.lastUpdate)]

end PoolReserve

namespace MarketState

/-- The declared fields of a market state. -/
def fields : List String :=
  ["underlying", "scaled_pool_supply", "scaled_pool_borrow", "scaled_morpho_supply_on_pool",
   "scaled_morpho_borrow_on_pool", "scaled_morpho_collateral", "deltas", "idle_supply", "indexes",
   "pool_reserve", "pool_liquidity", "chain_usd_price"]

def fromJson (v : Json) : Decoded MarketState := do
  let r ← Record.ofJson "ScaledMarketState" fields v
  return {
    underlying := ← r.req "underlying" Json.asAddress
    scaledPoolSupply := ← r.req "scaled_pool_supply" Json.asWord
    scaledPoolBorrow := ← r.req "scaled_pool_borrow" Json.asWord
    scaledProtocolSupplyOnPool := ← r.req "scaled_morpho_supply_on_pool" Json.asWord
    scaledProtocolBorrowOnPool := ← r.req "scaled_morpho_borrow_on_pool" Json.asWord
    scaledProtocolCollateral := ← r.req "scaled_morpho_collateral" Json.asWord
    deltas := ← r.req "deltas" Deltas.fromJson
    idleSupply := ← r.req "idle_supply" Json.asWord
    indexes := ← r.req "indexes" Indexes.fromJson
    poolReserve := ← r.req "pool_reserve" PoolReserve.fromJson
    poolLiquidity := ← r.req "pool_liquidity" Json.asWord
    chainUsdPrice := ← r.req "chain_usd_price" Json.asWord }

def toJson (m : MarketState) : Json :=
  .object [("underlying", .ofAddress m.underlying),
    ("scaled_pool_supply", .ofWord m.scaledPoolSupply),
    ("scaled_pool_borrow", .ofWord m.scaledPoolBorrow),
    ("scaled_morpho_supply_on_pool", .ofWord m.scaledProtocolSupplyOnPool),
    ("scaled_morpho_borrow_on_pool", .ofWord m.scaledProtocolBorrowOnPool),
    ("scaled_morpho_collateral", .ofWord m.scaledProtocolCollateral),
    ("deltas", m.deltas.toJson),
    ("idle_supply", .ofWord m.idleSupply),
    ("indexes", m.indexes.toJson),
    ("pool_reserve", m.poolReserve.toJson),
    ("pool_liquidity", .ofWord m.poolLiquidity),
    ("chain_usd_price", .ofWord m.chainUsdPrice)]

end MarketState

namespace PauseFlags

/-- The declared flags, in order. -/
def fields : List String :=
  ["is_supply_paused", "is_supply_collateral_paused", "is_borrow_paused", "is_repay_paused",
   "is_withdraw_paused", "is_withdraw_collateral_paused", "is_liquidate_collateral_paused",
   "is_liquidate_borrow_paused", "is_p2p_disabled", "is_deprecated"]

def fromJson (v : Json) : Decoded PauseFlags := do
  let r ← Record.ofJson "PauseStatuses" fields v
  let flag := fun name => r.withDefault name Json.asBool false
  return {
    supplyPaused := ← flag "is_supply_paused"
    supplyCollateralPaused := ← flag "is_supply_collateral_paused"
    borrowPaused := ← flag "is_borrow_paused"
    repayPaused := ← flag "is_repay_paused"
    withdrawPaused := ← flag "is_withdraw_paused"
    withdrawCollateralPaused := ← flag "is_withdraw_collateral_paused"
    liquidateCollateralPaused := ← flag "is_liquidate_collateral_paused"
    liquidateBorrowPaused := ← flag "is_liquidate_borrow_paused"
    p2pDisabled := ← flag "is_p2p_disabled"
    deprecated := ← flag "is_deprecated" }

def toJson (p : PauseFlags) : Json :=
  .object [("is_supply_paused", .bool p.supplyPaused),
    ("is_supply_collateral_paused", .bool p.supplyCollateralPaused),
    ("is_borrow_paused", .bool p.borrowPaused),
    ("is_repay_paused", .bool p.repayPaused),
    ("is_withdraw_paused", .bool p.withdrawPaused),
    ("is_withdraw_collateral_paused", .bool p.withdrawCollateralPaused),
    ("is_liquidate_collateral_paused", .bool p.liquidateCollateralPaused),
    ("is_liquidate_borrow_paused", .bool p.liquidateBorrowPaused),
    ("is_p2p_disabled", .bool p.p2pDisabled),
    ("is_deprecated", .bool p.deprecated)]

end PauseFlags

namespace MarketConfig

/-- The declared fields of a configuration. -/
def fields : List String :=
  ["underlying", "symbol", "decimals", "collateral_factor", "borrowable_factor",
   "p2p_reserve_factor", "p2p_index_cursor", "supply_cap", "borrow_cap", "pause",
   "e_mode_category_id", "wrapped_native"]

def fromJson (v : Json) : Decoded MarketConfig := do
  let r ← Record.ofJson "MarketConfig" fields v
  return {
    underlying := ← r.req "underlying" Json.asAddress
    symbol := ← r.req "symbol" Json.asString
    decimals := ← r.req "decimals" Json.asU8
    collateralFactor := ← r.req "collateral_factor" Json.asWord
    borrowableFactor := ← r.req "borrowable_factor" Json.asWord
    p2pReserveFactor := ← r.req "p2p_reserve_factor" Json.asWord
    p2pIndexCursor := ← r.req "p2p_index_cursor" Json.asWord
    supplyCap := ← r.req "supply_cap" Json.asWord
    borrowCap := ← r.req "borrow_cap" Json.asWord
    pause := ← r.withDefault "pause" PauseFlags.fromJson {}
    eModeCategory := ← r.req "e_mode_category_id" Json.asU8
    wrappedNative := ← r.withDefault "wrapped_native" Json.asBool false }

def toJson (c : MarketConfig) : Json :=
  .object [("underlying", .ofAddress c.underlying),
    ("symbol", .string c.symbol),
    ("decimals", .ofNat c.decimals),
    ("collateral_factor", .ofWord c.collateralFactor),
    ("borrowable_factor", .ofWord c.borrowableFactor),
    ("p2p_reserve_factor", .ofWord c.p2pReserveFactor),
    ("p2p_index_cursor", .ofWord c.p2pIndexCursor),
    ("supply_cap", .ofWord c.supplyCap),
    ("borrow_cap", .ofWord c.borrowCap),
    ("pause", c.pause.toJson),
    ("e_mode_category_id", .ofNat c.eModeCategory),
    ("wrapped_native", .bool c.wrappedNative)]

end MarketConfig

namespace Position

/-- The declared fields of a position. -/
def fields : List String :=
  ["market", "scaled_collateral", "scaled_supply_in_p2p", "scaled_supply_on_pool",
   "scaled_borrow_in_p2p", "scaled_borrow_on_pool", "wallet_balance", "nonce", "approval",
   "permit2_approval"]

def fromJson (v : Json) : Decoded Position := do
  let r ← Record.ofJson "UserScaledPosition" fields v
  return {
    market := ← r.req "market" Json.asAddress
    scaledCollateral := ← r.req "scaled_collateral" Json.asWord
    scaledSupplyInP2P := ← r.req "scaled_supply_in_p2p" Json.asWord
    scaledSupplyOnPool := ← r.req "scaled_supply_on_pool" Json.asWord
    scaledBorrowInP2P := ← r.req "scaled_borrow_in_p2p" Json.asWord
    scaledBorrowOnPool := ← r.req "scaled_borrow_on_pool" Json.asWord
    walletBalance := ← r.req "wallet_balance" Json.asWord
    nonce := ← r.req "nonce" Json.asWord
    approval := ← r.req "approval" Json.asWord
    permit2Approval := ← r.req "permit2_approval" Json.asWord }

def toJson (p : Position) : Json :=
  .object [("market", .ofAddress p.market),
    ("scaled_collateral", .ofWord p.scaledCollateral),
    ("scaled_supply_in_p2p", .ofWord p.scaledSupplyInP2P),
    ("scaled_supply_on_pool", .ofWord p.scaledSupplyOnPool),
    ("scaled_borrow_in_p2p", .ofWord p.scaledBorrowInP2P),
    ("scaled_borrow_on_pool", .ofWord p.scaledBorrowOnPool),
    ("wallet_balance", .ofWord p.walletBalance),
    ("nonce", .ofWord p.nonce),
    ("approval", .ofWord p.approval),
    ("permit2_approval", .ofWord p.permit2Approval)]

end Position

namespace EMode

def fromJson (v : Json) : Decoded EMode := do
  let r ← Record.ofJson "EModeCategory"
    ["id", "ltv", "liquidation_threshold", "price_source", "price"] v
  return ⟨← r.req "id" Json.asU8, ← r.req "ltv" Json.asWord,
    ← r.req "liquidation_threshold" Json.asWord, ← r.req "price_source" Json.asAddress,
    ← r.opt "price" Json.asWord⟩

def toJson (e : EMode) : Json :=
  .object [("id", .ofNat e.id), ("ltv", .ofWord e.ltv),
    ("liquidation_threshold", .ofWord e.liquidationThreshold),
    ("price_source", .ofAddress e.priceSource), ("price", .ofOption .ofWord e.price)]

end EMode

namespace FeeData

def fromJson (v : Json) : Decoded FeeData := do
  let r ← Record.ofJson "FeeData" ["gas_price", "max_fee_per_gas", "max_priority_fee_per_gas"] v
  return ⟨← r.req "gas_price" Json.asWord, ← r.req "max_fee_per_gas" Json.asWord,
    ← r.req "max_priority_fee_per_gas" Json.asWord⟩

def toJson (f : FeeData) : Json :=
  .object [("gas_price", .ofWord f.gasPrice), ("max_fee_per_gas", .ofWord f.maxFeePerGas),
    ("max_priority_fee_per_gas", .ofWord f.maxPriorityFeePerGas)]

end FeeData

namespace ChainContext

def fromJson (v : Json) : Decoded ChainContext := do
  let r ← Record.ofJson "GlobalContext"
    ["block", "timestamp", "eth_usd_price", "e_mode", "fee_data"] v
  return ⟨← r.req "block" Json.asU64, ← r.req "timestamp" Json.asU64,
    ← r.req "eth_usd_price" Json.asWord, ← r.withDefault "e_mode" EMode.fromJson EMode.none,
    ← r.withDefault "fee_data" FeeData.fromJson FeeData.zero⟩

def toJson (c : ChainContext) : Json :=
  .object [("block", .ofNat c.block), ("timestamp", .ofNat c.timestamp),
    ("eth_usd_price", .ofWord c.ethUsdPrice), ("e_mode", c.eMode.toJson),
    ("fee_data", c.feeData.toJson)]

end ChainContext

namespace Account

def fromJson (v : Json) : Decoded Account := do
  let r ← Record.ofJson "UserContext"
    ["address", "native_balance", "claimable_rewards", "rewards_balance"] v
  return ⟨← r.req "address" Json.asAddress, ← r.req "native_balance" Json.asWord,
    ← r.req "claimable_rewards" Json.asWord, ← r.req "rewards_balance" Json.asWord⟩

def toJson (a : Account) : Json :=
  .object [("address", .ofAddress a.address), ("native_balance", .ofWord a.nativeBalance),
    ("claimable_rewards", .ofWord a.claimableRewards),
    ("rewards_balance", .ofWord a.rewardsBalance)]

end Account

namespace Snapshot

def fromJson (v : Json) : Decoded Snapshot := do
  let r ← Record.ofJson "Snapshot" ["global", "user", "markets", "configs", "positions"] v
  return ⟨← r.opt "global" ChainContext.fromJson, ← r.opt "user" Account.fromJson,
    ← r.withDefault "markets" (Json.asAddrMap MarketState.fromJson) .empty,
    ← r.withDefault "configs" (Json.asAddrMap MarketConfig.fromJson) .empty,
    ← r.withDefault "positions" (Json.asAddrMap Position.fromJson) .empty⟩

def toJson (s : Snapshot) : Json :=
  .object [("global", .ofOption ChainContext.toJson s.chain),
    ("user", .ofOption Account.toJson s.user),
    ("markets", .ofAddrMap MarketState.toJson s.markets),
    ("configs", .ofAddrMap MarketConfig.toJson s.configs),
    ("positions", .ofAddrMap Position.toJson s.positions)]

end Snapshot

namespace OperationKind

/-- A kind by its exact canonical name: the name as a string, or an object whose one member is
the name with `null`. -/
def fromJson (v : Json) : Decoded OperationKind := do
  let s ← match v with
    | .object [(name, .null)] => .ok name
    | .object _ => .error (.invalidValue "map" "map with a single key")
    | _ => Json.asString v
  match OperationKind.ofName? s with
  | some k => .ok k
  | none => .error (.unknownVariant s (OperationKind.all.map (·.name)))

def toJson (k : OperationKind) : Json := .string k.name

end OperationKind

namespace Operation

def fromJson (v : Json) : Decoded Operation := do
  let r ← Record.ofJson "Operation" ["kind", "market", "amount", "unwrap"] v
  return ⟨← r.req "kind" OperationKind.fromJson, ← r.req "market" Json.asAddress,
    ← r.req "amount" Json.asWord, ← r.withDefault "unwrap" Json.asBool false⟩

def toJson (o : Operation) : Json :=
  .object [("kind", o.kind.toJson), ("market", .ofAddress o.market),
    ("amount", .ofWord o.amount), ("unwrap", .bool o.unwrap)]

end Operation

end PeerLending
