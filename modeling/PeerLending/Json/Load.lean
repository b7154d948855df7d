import PeerLending.Json.Shape
import PeerLending.Json.Snapshot
import PeerLending.Provider

/-!
# Loading a snapshot from text

A snapshot file is read against the shape of a snapshot (`snapshotShape`) in one pass, so that
a refusal says where the text went wrong; what it read is then decoded as a snapshot. Either
failure is a provider's parse error carrying the reason.

The shape lists every record's fields in their declared order, with the ones that may be left
out: the three maps of a snapshot, a configuration's pause flags and wrapping mark, every pause
flag, and a chain context's efficiency mode and fee data. The chain context, the user and an
efficiency mode's price may also be `null`, and so may be left out of an object.
-/

set_option autoImplicit false

namespace PeerLending

namespace Json

/-- A field that must be given. -/
def needed (name : String) (shape : Shape) : String × Bool × Shape := (name, false, shape)

/-- A field with a default. -/
def defaulted (name : String) (shape : Shape) : String × Bool × Shape := (name, true, shape)

/-- Word fields that must be given. -/
def words (names : List String) : List (String × Bool × Shape) := names.map (needed · .word)

/-- An unsigned 8-bit number. -/
def u8Shape : Shape := .natBelow (Nat.pow 2 8) "u8"

/-- An unsigned 64-bit number. -/
def u64Shape : Shape := .natBelow (Nat.pow 2 64) "u64"

/-- One side's peer-to-peer delta. -/
def sideDeltaShape : Shape := .record "MarketSideDelta" (words ["scaled_delta", "scaled_p2p_total"])

/-- Both sides' deltas. -/
def deltasShape : Shape :=
  .record "MarketDeltas" [needed "supply" sideDeltaShape, needed "borrow" sideDeltaShape]

/-- One side's indexes. -/
def sideIndexesShape : Shape := .record "SideIndexes" (words ["pool_index", "p2p_index"])

/-- A market's stored indexes. -/
def indexesShape : Shape :=
  .record "MarketIndexes" [needed "supply" sideIndexesShape, needed "borrow" sideIndexesShape,
    needed "last_update_timestamp" u64Shape]

/-- The pool's reserve state. -/
def poolReserveShape : Shape :=
  .record "PoolReserveState"
    (words ["liquidity_index", "variable_borrow_index", "liquidity_rate", "variable_borrow_rate"] ++
      [needed "last_update_timestamp" u64Shape])

/-- A market's state. -/
def marketStateShape : Shape :=
  .record "ScaledMarketState"
    ([needed "underlying" .address] ++
      words ["scaled_pool_supply", "scaled_pool_borrow", "scaled_morpho_supply_on_pool",
        "scaled_morpho_borrow_on_pool", "scaled_morpho_collateral"] ++
      [needed "deltas" deltasShape, needed "idle_supply" .word, needed "indexes" indexesShape,
        needed "pool_reserve" poolReserveShape, needed "pool_liquidity" .word,
        needed "chain_usd_price" .word])

/-- A market's pause flags, each of which may be left out. -/
def pauseShape : Shape := .record "PauseStatuses" (PauseFlags.fields.map (defaulted · .boolean))

/-- A market's configuration. -/
def configShape : Shape :=
  .record "MarketConfig"
    ([needed "underlying" .address, needed "symbol" .text, needed "decimals" u8Shape] ++
      words ["collateral_factor", "borrowable_factor", "p2p_reserve_factor", "p2p_index_cursor",
        "supply_cap", "borrow_cap"] ++
      [defaulted "pause" pauseShape, needed "e_mode_category_id" u8Shape,
        defaulted "wrapped_native" .boolean])

/-- A user's position on a market. -/
def positionShape : Shape :=
  .record "UserScaledPosition"
    (needed "market" .address ::
      words ["scaled_collateral", "scaled_supply_in_p2p", "scaled_supply_on_pool",
        "scaled_borrow_in_p2p", "scaled_borrow_on_pool", "wallet_balance", "nonce", "approval",
        "permit2_approval"])

/-- An efficiency-mode category. -/
def eModeShape : Shape :=
  .record "EModeCategory"
    [needed "id" u8Shape, needed "ltv" .word, needed "liquidation_threshold" .word,
      needed "price_source" .address, needed "price" (.nullable .word)]

/-- Gas prices. -/
def feeDataShape : Shape :=
  .record "FeeData" (words ["gas_price", "max_fee_per_gas", "max_priority_fee_per_gas"])

/-- The chain context. -/
def chainShape : Shape :=
  .record "GlobalContext"
    [needed "block" u64Shape, needed "timestamp" u64Shape, needed "eth_usd_price" .word,
      defaulted "e_mode" eModeShape, defaulted "fee_data" feeDataShape]

/-- The user's context. -/
def accountShape : Shape :=
  .record "UserContext"
    (needed "address" .address :: words ["native_balance", "claimable_rewards", "rewards_balance"])

/-- A snapshot. -/
def snapshotShape : Shape :=
  .record "Snapshot"
    [needed "global" (.nullable chainShape), needed "user" (.nullable accountShape),
      defaulted "markets" (.addrMap marketStateShape), defaulted "configs" (.addrMap configShape),
      defaulted "positions" (.addrMap positionShape)]

end Json

/-- The snapshot a text holds. -/
def loadSnapshot (text : String) : Fetched Snapshot :=
  match Json.snapshotShape.readText text with
  | .error f => .error (.parse f.render)
  | .ok v =>
    match Snapshot.fromJson v with
    | .ok s => .ok s
    | .error e => .error (.parse e.describe)

end PeerLending
