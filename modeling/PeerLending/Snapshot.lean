import PeerLending.AddrMap
import PeerLending.Market.Accrue

/-!
# Snapshots

A snapshot is everything the views and the simulation read: the chain's context, the user's
context, and three maps keyed by the asset's address — the markets' states, their
configurations, and the user's positions. Data that was never fetched is absent (`none`, or no
entry), which is different from data fetched as zero.

Entries are found by their key, but each entry also names its own address (`underlying` of a
market, `market` of a position); the two agree in snapshots built by `withMarket` and
`withPosition`, and nothing else assumes they do.

`Snapshot.accrue` ages every market that has a configuration to a timestamp and leaves the rest
of the snapshot as it is.
-/

set_option autoImplicit false

namespace PeerLending

/-- One user's position on one market. -/
structure Position where
  market : Address
  /-- Pool-index scaled. -/
  scaledCollateral : Word
  /-- P2P-index scaled. -/
  scaledSupplyInP2P : Word
  /-- Pool-index scaled. -/
  scaledSupplyOnPool : Word
  /-- P2P-index scaled. -/
  scaledBorrowInP2P : Word
  /-- Pool-index scaled. -/
  scaledBorrowOnPool : Word
  /-- Native. -/
  walletBalance : Word
  nonce : Word
  /-- Native. -/
  approval : Word
  /-- Native. -/
  permit2Approval : Word
deriving DecidableEq

namespace Position

/-- A position holding nothing on `market`. -/
def empty (market : Address) : Position := ⟨market, 0, 0, 0, 0, 0, 0, 0, 0, 0⟩

/-- Whether the user holds anything with the lending layer on this market (the wallet balance
does not count). -/
def holdsAny (p : Position) : Bool :=
  !(p.scaledCollateral.isZero && p.scaledSupplyInP2P.isZero && p.scaledSupplyOnPool.isZero &&
    p.scaledBorrowInP2P.isZero && p.scaledBorrowOnPool.isZero)

end Position

/-- The pool's efficiency-mode category. -/
structure EMode where
  /-- Zero is no category; below 256. -/
  id : Nat
  /-- Replaces the borrowable factor (percent). -/
  ltv : Word
  /-- Replaces the collateral factor (percent). -/
  liquidationThreshold : Word
  /-- Oracle replacing the markets' prices; the zero address is none. -/
  priceSource : Address
  /-- Price from `priceSource` (usd8), if fetched. -/
  price : Option Word
deriving DecidableEq

/-- No category. -/
def EMode.none : EMode := ⟨0, 0, 0, Address.zero, Option.none⟩

/-- Gas prices (wei). -/
structure FeeData where
  gasPrice : Word
  maxFeePerGas : Word
  maxPriorityFeePerGas : Word
deriving DecidableEq

/-- No gas price known. -/
def FeeData.zero : FeeData := ⟨0, 0, 0⟩

/-- The context of the chain, shared by every market. -/
structure ChainContext where
  block : Nat
  /-- Seconds. -/
  timestamp : Nat
  /-- usd8. -/
  ethUsdPrice : Word
  eMode : EMode
  feeData : FeeData
deriving DecidableEq

/-- What a user holds outside every market. -/
structure Account where
  address : Address
  /-- The chain's own coin (wad). -/
  nativeBalance : Word
  /-- Rewards not yet claimed (wad). -/
  claimableRewards : Word
  /-- Rewards claimed and held (wad). -/
  rewardsBalance : Word
deriving DecidableEq

/-- Everything the models read. -/
structure Snapshot where
  chain : Option ChainContext
  user : Option Account
  markets : AddrMap MarketState
  configs : AddrMap MarketConfig
  positions : AddrMap Position

namespace Snapshot

/-- The snapshot with nothing fetched. -/
def empty : Snapshot := ⟨none, none, .empty, .empty, .empty⟩

/-- Adds a market and its configuration under the market's own address, replacing any entry. -/
def withMarket (s : Snapshot) (state : MarketState) (config : MarketConfig) : Snapshot :=
  { s with
    configs := s.configs.insert state.underlying config
    markets := s.markets.insert state.underlying state }

/-- Adds a position under its own market's address, replacing any entry. -/
def withPosition (s : Snapshot) (p : Position) : Snapshot :=
  { s with positions := s.positions.insert p.market p }

/-- Sets the chain context. -/
def withChain (s : Snapshot) (c : ChainContext) : Snapshot := { s with chain := some c }

/-- Sets the user context. -/
def withUser (s : Snapshot) (a : Account) : Snapshot := { s with user := some a }

/-- The addresses, ascending, that have both a market state and a configuration. -/
def marketAddresses (s : Snapshot) : List Address :=
  s.markets.keys.filter s.configs.contains

/-- Every market that has a configuration aged to `timestamp`; all else unchanged. -/
def accrue (s : Snapshot) (timestamp : Nat) : Snapshot :=
  { s with
    markets := s.markets.mapValues fun address state =>
      match s.configs.get? address with
      | some config => state.accrue config timestamp
      | none => state }

end Snapshot

end PeerLending
