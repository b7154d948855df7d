import PeerLending.Snapshot.Views

/-!
# Capacity

The largest amount a user can move with one operation on one market, and the constraint that
binds it. Each kind of operation has an ordered list of candidate limits; a candidate may be
absent (nothing bounds it there). The smallest present candidate wins, and of equal ones the
earliest in the list:

| kind | candidates, in order |
|---|---|
| supply, supply as collateral | wallet balance; room under the supply cap |
| borrow | borrow capacity left, in the asset; pool liquidity; room under the borrow cap |
| repay | wallet balance; debt |
| withdraw | pool liquidity; pool supply plus room under the borrow cap; supply |
| withdraw collateral | collateral; collateral that keeps the debt covered; pool liquidity |

Before the table, a market whose (efficiency-mode) price is zero allows nothing (`zeroPrice`),
and then a paused operation allows nothing (`operationPaused`). Claims and wraps are not market
operations: a claim is bounded by the pending rewards and a wrap by the chain-coin balance, and
both need only the user context.
-/

set_option autoImplicit false

namespace PeerLending

/-- What binds a capacity. -/
inductive LimitReason where
  | walletBalance
  | operationPaused
  | zeroPrice
  | cap
  | borrowCapacity
  | poolLiquidity
  | balance
deriving DecidableEq, Repr

/-- The name of a reason in data. -/
def LimitReason.name : LimitReason → String
  | .walletBalance => "walletBalance"
  | .operationPaused => "operationPaused"
  | .zeroPrice => "zeroPrice"
  | .cap => "cap"
  | .borrowCapacity => "borrowCapacity"
  | .poolLiquidity => "poolLiquidity"
  | .balance => "balance"

/-- A capacity and what binds it. -/
structure CapacityLimit where
  /-- Native units of the market's asset (wad for the chain coin and rewards). -/
  value : Word
  reason : LimitReason
deriving DecidableEq

/-- The smallest present candidate, the earliest of equal ones; none without any. -/
def bindMin (candidates : List (Option Word × LimitReason)) : Option CapacityLimit :=
  match candidates.filterMap fun (v, r) => v.map fun w => CapacityLimit.mk w r with
  | [] => none
  | first :: rest => some (rest.foldl (fun best c => if c.value < best.value then c else best) first)

/-- The collateral (native) that can be withdrawn while the liquidation value still covers the
debt; none when nothing bounds it (no debt, or a zero collateral factor). -/
def withdrawCollateralHeadroom (user : UserView) (position : PositionView) : Option Word :=
  if user.totalBorrowUsd.val = 0 ∨ position.risk.collateralFactor.val = 0 then none
  else
    let headroomUsd := zeroFloorSub user.liquidationValue user.totalBorrowUsd
    let collateralUsd := percentDivDown headroomUsd position.risk.collateralFactor
    let unreducedUsd := mulDivDown collateralUsd ltLowerBound (ltLowerBound - 1)
    some (fromUsd unreducedUsd position.usdPrice)

/-- The candidate limits of a market operation, in order. -/
def candidates (market : MarketView) (user : UserView) (position : PositionView) :
    OperationKind → List (Option Word × LimitReason)
  | .supply | .supplyCollateral =>
    [(some position.walletBalance, .walletBalance), (market.supplyCapRemaining, .cap)]
  | .borrow =>
    [(some (fromUsd user.borrowCapacityRemaining position.usdPrice), .borrowCapacity),
     (some market.poolLiquidity, .poolLiquidity), (market.borrowCapRemaining, .cap)]
  | .repay => [(some position.walletBalance, .walletBalance), (some position.totalBorrow, .balance)]
  | .withdraw =>
    [(some market.poolLiquidity, .poolLiquidity),
     (market.borrowCapRemaining.map (position.supplyOnPool + ·), .cap),
     (some position.totalSupply, .balance)]
  | .withdrawCollateral =>
    [(some position.collateral, .balance),
     (withdrawCollateralHeadroom user position, .borrowCapacity),
     (some market.poolLiquidity, .poolLiquidity)]
  | .claimRewards | .wrap => []

/-- The capacity of a market operation from its candidates. -/
def marketCapacity (market : MarketView) (user : UserView) (position : PositionView)
    (kind : OperationKind) : Answer CapacityLimit :=
  match bindMin (candidates market user position kind) with
  | some limit => .ok limit
  | none => .error (.unresolvedLimiter market.underlying kind)

namespace Snapshot

/-- The capacity on a snapshot as it stands; none when the data it needs was never fetched
(the market, its configuration, the chain context or the position; the user context for
claims and wraps). -/
def maxCapacity (s : Snapshot) (market : Address) (kind : OperationKind) :
    Answer (Option CapacityLimit) :=
  match kind with
  | .claimRewards => .ok (s.user.map fun u => ⟨u.claimableRewards, .balance⟩)
  | .wrap => .ok (s.user.map fun u => ⟨u.nativeBalance, .walletBalance⟩)
  | _ =>
    match s.configs.get? market, s.markets.get? market, s.chain, s.positions.get? market with
    | some config, some _, some _, some _ => do
      let view ← s.marketView market
      let user ← s.currentUserView
      let position ← match user.position? market with
        | some p => Except.ok p
        | none => .error (.missingData .userPosition)
      if position.usdPrice.val = 0 then return some ⟨0, .zeroPrice⟩
      else if config.pause.stops kind then return some ⟨0, .operationPaused⟩
      else return some (← marketCapacity view user position kind)
    | _, _, _, _ => .ok none

/-- The capacity after aging the snapshot to the chain context's timestamp (when there is
one). -/
def userMaxCapacity (s : Snapshot) (market : Address) (kind : OperationKind) :
    Answer (Option CapacityLimit) :=
  match s.chain with
  | some c => (s.accrue c.timestamp).maxCapacity market kind
  | none => s.maxCapacity market kind

end Snapshot

end PeerLending
