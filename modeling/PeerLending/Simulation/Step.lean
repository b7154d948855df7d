import PeerLending.Capacity

/-!
# One simulated operation

An operation works on a copy of the market it targets, the user's position on it and the user's
context (`Work`), and then writes them back into the snapshot. On the way it notes *issues*:
non-blocking problems such as an amount above the wallet balance, after which the operation still
goes through with what is possible.

Matching is the heart of it. Supplying first takes the place of pool borrowers peer-to-peer
(they are *promoted*: their debt leaves the pool and both peer-to-peer totals grow), and only the
rest goes to the pool; borrowing likewise promotes pool suppliers. Repaying takes from the pool
debt first and then from peer-to-peer debt; the suppliers that the peer-to-peer repayment frees
are matched with remaining pool borrowers first, and the rest of them go back to the pool
(*demoted*: both peer-to-peer totals shrink and the pool supply grows). Withdrawing is the same
with the two sides swapped. A market with peer-to-peer disabled matches nothing.

Amounts leave scaled balances through `removeScaled`: removing at least the whole real balance
clears it exactly, otherwise the scaled amount removed is the amount over the index, at most the
balance.
-/

set_option autoImplicit false

namespace PeerLending

/-- What can go wrong with a simulated operation. -/
inductive IssueKind where
  | unknownMarket
  | missingData
  | operationDisabled
  | operationPaused
  | insufficientWalletBalance
  | insufficientLiquidity
  | supplyCapReached
  | borrowCapReached
  | insufficientBalance
  | collateralCapacityReached
deriving DecidableEq, Repr

namespace IssueKind

/-- Whether the issue stops the simulation: an unknown market, missing data, or an operation
that the market forbids. -/
def isBlocking : IssueKind → Bool
  | unknownMarket | missingData | operationDisabled | operationPaused => true
  | _ => false

/-- The name of an issue in data. -/
def name : IssueKind → String
  | unknownMarket => "unknownMarket"
  | missingData => "missingData"
  | operationDisabled => "operationDisabled"
  | operationPaused => "operationPaused"
  | insufficientWalletBalance => "insufficientWalletBalance"
  | insufficientLiquidity => "insufficientLiquidity"
  | supplyCapReached => "supplyCapReached"
  | borrowCapReached => "borrowCapReached"
  | insufficientBalance => "insufficientBalance"
  | collateralCapacityReached => "collateralCapacityReached"

/-- The words of an issue. -/
def text : IssueKind → String
  | unknownMarket => "unknown market"
  | missingData => "missing data"
  | operationDisabled => "operation disabled"
  | operationPaused => "operation paused"
  | insufficientWalletBalance => "insufficient wallet balance"
  | insufficientLiquidity => "insufficient pool liquidity"
  | supplyCapReached => "supply cap reached"
  | borrowCapReached => "borrow cap reached"
  | insufficientBalance => "insufficient balance"
  | collateralCapacityReached => "collateral capacity reached"

/-- The issue a failed query becomes: an unknown market stays one, everything else is missing
data. -/
def ofQueryError : QueryError → IssueKind
  | .unknownMarket _ => unknownMarket
  | _ => missingData

end IssueKind

/-- Why an operation was not applied: an issue that blocks it, or the machine stopping on an
overflow. -/
inductive StepFailure where
  | blocked (kind : IssueKind)
  | overflow
deriving DecidableEq

/-- The snapshot after one operation, the amount it moved and the issues it noted. -/
structure Transition where
  snapshot : Snapshot
  amount : Word
  issues : List IssueKind

/-- Removes a real amount from a scaled balance: the new balance and the scaled amount removed.
At least the whole real balance clears it. -/
def removeScaled (scaled amount index : Word) : Word × Word :=
  if rayMul scaled index ≤ amount then (0, scaled)
  else
    let removed := Word.min (rayDiv amount index) scaled
    (scaled - removed, removed)

/-- The amount an operation moves: its own, or for the "as much as allowed" sentinel the
capacity as the snapshot stands. -/
def resolveAmount (s : Snapshot) (op : Operation) : Except StepFailure Word :=
  if op.isMax then
    match s.maxCapacity op.market op.kind with
    | .ok (some limit) => .ok limit.value
    | .ok none => .error (.blocked .missingData)
    | .error .overflow => .error .overflow
    | .error e => .error (.blocked (IssueKind.ofQueryError e))
  else .ok op.amount

/-- The copy of one market, the user's position on it and the user's context that an operation
works on, with the amount it moved and the issues noted so far. -/
structure Work where
  config : MarketConfig
  market : MarketState
  position : Position
  user : Option Account
  unwrap : Bool
  amount : Word
  issues : List IssueKind

namespace Work

/-- The work on `market`: its position is the one stored under the market's own address. -/
def start (s : Snapshot) (market : MarketState) (config : MarketConfig) (unwrap : Bool) : Work :=
  { config := config
    market := market
    position := (s.positions.get? market.underlying).getD (Position.empty market.underlying)
    user := s.user
    unwrap := unwrap
    amount := 0
    issues := [] }

/-- Writes the work back: the position under its own market, the market under its own address,
and the user context. -/
def finish (w : Work) (s : Snapshot) : Transition :=
  { snapshot := { s with
      user := w.user
      positions := s.positions.insert w.position.market w.position
      markets := s.markets.insert w.market.underlying w.market }
    amount := w.amount
    issues := w.issues }

/-- Notes an issue. -/
def note (w : Work) (k : IssueKind) : Work := { w with issues := w.issues ++ [k] }

/-- Notes an issue when the condition holds. -/
def noteIf (w : Work) (c : Bool) (k : IssueKind) : Work := if c then w.note k else w

/-- The supply indexes of the market. -/
def supplyIndexes (w : Work) : SideIndexes := w.market.indexes.supply

/-- The borrow indexes of the market. -/
def borrowIndexes (w : Work) : SideIndexes := w.market.indexes.borrow

/-- The part of `amount` that can be matched peer-to-peer against `counterpart`. -/
def matchable (w : Work) (amount counterpart : Word) : Word :=
  if w.config.pause.p2pDisabled then 0 else Word.min amount counterpart

/-- Takes an amount from the wallet, noting when the wallet holds less. -/
def debitWallet (w : Work) (amount : Word) : Work :=
  let w := w.noteIf (w.position.walletBalance < amount) .insufficientWalletBalance
  { w with position := { w.position with walletBalance := zeroFloorSub w.position.walletBalance amount } }

/-- Pays an amount out: as the chain's coin to the user context when unwrapping (and there is
one), else to the wallet. -/
def payOut (w : Work) (amount : Word) : Work :=
  match w.user, w.unwrap with
  | some u, true => { w with user := some { u with nativeBalance := u.nativeBalance + amount } }
  | _, _ => { w with position := { w.position with walletBalance := w.position.walletBalance + amount } }

/-- The amount clamped to a balance, noting when it exceeds it. -/
def clampToBalance (w : Work) (amount balance : Word) : Work × Word :=
  if balance < amount then (w.note .insufficientBalance, balance) else (w, amount)

/-- Notes when the pool cannot pay the amount out. -/
def checkLiquidity (w : Work) (amount : Word) : Work :=
  w.noteIf (w.market.poolLiquidity < amount) .insufficientLiquidity

/-- Notes when the amount would take the pool's supply past a non-zero supply cap. -/
def checkSupplyCap (w : Work) (amount : Word) : Work :=
  let total := rayMul w.market.scaledPoolSupply w.supplyIndexes.poolIndex
  w.noteIf (w.config.supplyCap.val ≠ 0 && w.config.supplyCap < total + amount) .supplyCapReached

/-- Notes when the amount would take the pool's debt past a non-zero borrow cap. -/
def checkBorrowCap (w : Work) (amount : Word) : Work :=
  let total := rayMul w.market.scaledPoolBorrow w.borrowIndexes.poolIndex
  w.noteIf (w.config.borrowCap.val ≠ 0 && w.config.borrowCap < total + amount) .borrowCapReached

/-- Adds supply on the pool for the layer; the scaled amount added. -/
def addSupplyOnPool (w : Work) (amount : Word) : Work × Word :=
  let scaled := rayDiv amount w.supplyIndexes.poolIndex
  ({ w with market := { w.market with
      scaledProtocolSupplyOnPool := w.market.scaledProtocolSupplyOnPool + scaled
      scaledPoolSupply := w.market.scaledPoolSupply + scaled } }, scaled)

/-- Removes the layer's supply from the pool. -/
def removeSupplyOnPool (w : Work) (amount : Word) : Work :=
  let (rest, removed) :=
    removeScaled w.market.scaledProtocolSupplyOnPool amount w.supplyIndexes.poolIndex
  { w with market := { w.market with
      scaledProtocolSupplyOnPool := rest
      scaledPoolSupply := zeroFloorSub w.market.scaledPoolSupply removed } }

/-- Adds debt on the pool for the layer; the scaled amount added. -/
def addBorrowOnPool (w : Work) (amount : Word) : Work × Word :=
  let scaled := rayDiv amount w.borrowIndexes.poolIndex
  ({ w with market := { w.market with
      scaledProtocolBorrowOnPool := w.market.scaledProtocolBorrowOnPool + scaled
      scaledPoolBorrow := w.market.scaledPoolBorrow + scaled } }, scaled)

/-- Removes the layer's debt from the pool. -/
def removeBorrowOnPool (w : Work) (amount : Word) : Work :=
  let (rest, removed) :=
    removeScaled w.market.scaledProtocolBorrowOnPool amount w.borrowIndexes.poolIndex
  { w with market := { w.market with
      scaledProtocolBorrowOnPool := rest
      scaledPoolBorrow := zeroFloorSub w.market.scaledPoolBorrow removed } }

/-- Grows both peer-to-peer totals by a matched amount. -/
def addP2P (w : Work) (amount : Word) : Work :=
  let d := w.market.deltas
  { w with market := { w.market with deltas :=
      { supply := { d.supply with
          scaledP2PTotal := d.supply.scaledP2PTotal + rayDiv amount w.supplyIndexes.p2pIndex }
        borrow := { d.borrow with
          scaledP2PTotal := d.borrow.scaledP2PTotal + rayDiv amount w.borrowIndexes.p2pIndex } } } }

/-- Shrinks both peer-to-peer totals by a demoted amount, stopping at zero. -/
def shrinkP2P (w : Work) (amount : Word) : Work :=
  let d := w.market.deltas
  { w with market := { w.market with deltas :=
      { supply := { d.supply with
          scaledP2PTotal := zeroFloorSub d.supply.scaledP2PTotal (rayDiv amount w.supplyIndexes.p2pIndex) }
        borrow := { d.borrow with
          scaledP2PTotal := zeroFloorSub d.borrow.scaledP2PTotal (rayDiv amount w.borrowIndexes.p2pIndex) } } } }

/-- The layer's supply on the pool (native). -/
def protocolSupplyOnPool (w : Work) : Word :=
  rayMul w.market.scaledProtocolSupplyOnPool w.supplyIndexes.poolIndex

/-- The layer's debt on the pool (native). -/
def protocolBorrowOnPool (w : Work) : Word :=
  rayMul w.market.scaledProtocolBorrowOnPool w.borrowIndexes.poolIndex

/-- Sets the position. -/
def withPosition (w : Work) (f : Position → Position) : Work := { w with position := f w.position }

/-- Sets the pool liquidity. -/
def withLiquidity (w : Work) (f : Word → Word) : Work :=
  { w with market := { w.market with poolLiquidity := f w.market.poolLiquidity } }

/-- Promotes `amount` of pool borrowers to peer-to-peer against the supplier: their debt leaves
the pool, both peer-to-peer totals grow, and so does the supplier's peer-to-peer supply. -/
def promoteBorrowers (w : Work) (amount : Word) : Work :=
  if amount.val = 0 then w
  else
    let w := (w.removeBorrowOnPool amount).addP2P amount
    w.withPosition fun p =>
      { p with scaledSupplyInP2P := p.scaledSupplyInP2P + rayDiv amount w.supplyIndexes.p2pIndex }

/-- Supplies `amount` on the pool: the layer's and the user's pool supply grow. -/
def supplyPool (w : Work) (amount : Word) : Work :=
  let (w, scaled) := w.addSupplyOnPool amount
  w.withPosition fun p => { p with scaledSupplyOnPool := p.scaledSupplyOnPool + scaled }

/-- Supplies `amount`: pool borrowers are promoted first, the rest goes to the pool. -/
def supply (w : Work) (amount : Word) : Work :=
  let w := ({ w with amount := amount } : Work).debitWallet amount
  let w := w.checkSupplyCap amount
  let matched := w.matchable amount w.protocolBorrowOnPool
  let w := (w.promoteBorrowers matched).supplyPool (amount - matched)
  w.withLiquidity (· + amount)

/-- Supplies `amount` as collateral, on the pool. -/
def supplyCollateral (w : Work) (amount : Word) : Work :=
  let w := ({ w with amount := amount } : Work).debitWallet amount
  let w := w.checkSupplyCap amount
  let scaled := rayDiv amount w.supplyIndexes.poolIndex
  let w := { w with market := { w.market with
    scaledProtocolCollateral := w.market.scaledProtocolCollateral + scaled
    scaledPoolSupply := w.market.scaledPoolSupply + scaled } }
  let w := w.withPosition fun p => { p with scaledCollateral := p.scaledCollateral + scaled }
  w.withLiquidity (· + amount)

/-- Promotes `amount` of pool suppliers to peer-to-peer against the borrower: their supply
leaves the pool, both peer-to-peer totals grow, and so does the borrower's peer-to-peer debt. -/
def promoteSuppliers (w : Work) (amount : Word) : Work :=
  if amount.val = 0 then w
  else
    let w := (w.removeSupplyOnPool amount).addP2P amount
    w.withPosition fun p =>
      { p with scaledBorrowInP2P := p.scaledBorrowInP2P + rayDiv amount w.borrowIndexes.p2pIndex }

/-- Borrows `amount` from the pool: the layer's and the user's pool debt grow. -/
def borrowPool (w : Work) (amount : Word) : Work :=
  let (w, scaled) := w.addBorrowOnPool amount
  w.withPosition fun p => { p with scaledBorrowOnPool := p.scaledBorrowOnPool + scaled }

/-- Borrows `amount` against a headroom (native): pool suppliers are promoted first, the rest is
borrowed from the pool. -/
def borrow (w : Work) (amount headroom : Word) : Work :=
  let w := ({ w with amount := amount } : Work).noteIf (headroom < amount) .collateralCapacityReached
  let w := (w.checkLiquidity amount).checkBorrowCap amount
  let matched := w.matchable amount w.protocolSupplyOnPool
  let w := (w.promoteSuppliers matched).borrowPool (amount - matched)
  let w := w.withLiquidity (zeroFloorSub · amount)
  w.payOut amount

/-- Repays `amount` of the user's pool debt. -/
def repayPool (w : Work) (amount : Word) : Work :=
  if amount.val = 0 then w
  else
    let (rest, removed) := removeScaled w.position.scaledBorrowOnPool amount w.borrowIndexes.poolIndex
    let w := w.withPosition fun p => { p with scaledBorrowOnPool := rest }
    { w with market := { w.market with
        scaledProtocolBorrowOnPool := zeroFloorSub w.market.scaledProtocolBorrowOnPool removed
        scaledPoolBorrow := zeroFloorSub w.market.scaledPoolBorrow removed } }

/-- Sends `amount` of peer-to-peer suppliers back to the pool: both peer-to-peer totals shrink
and the layer's supply on the pool grows. -/
def demoteSuppliers (w : Work) (amount : Word) : Work :=
  if amount.val = 0 then w else ((w.shrinkP2P amount).addSupplyOnPool amount).1

/-- Takes `amount` off the user's peer-to-peer debt. -/
def releaseBorrowInP2P (w : Work) (amount : Word) : Work :=
  let (rest, _) := removeScaled w.position.scaledBorrowInP2P amount w.borrowIndexes.p2pIndex
  w.withPosition fun p => { p with scaledBorrowInP2P := rest }

/-- Moves `amount` of pool borrowers into peer-to-peer debt a repayment freed: their debt leaves
the pool, and the peer-to-peer totals stay. -/
def backfillBorrowers (w : Work) (amount : Word) : Work :=
  if amount.val = 0 then w else w.removeBorrowOnPool amount

/-- Repays `amount` of the user's peer-to-peer debt. The suppliers it frees are matched with
pool borrowers first, and the rest of them are demoted. -/
def repayP2P (w : Work) (amount : Word) : Work :=
  if amount.val = 0 then w
  else
    let w := w.releaseBorrowInP2P amount
    let promoted := w.matchable amount w.protocolBorrowOnPool
    (w.backfillBorrowers promoted).demoteSuppliers (amount - promoted)

/-- Repays up to the debt: pool debt first, then peer-to-peer debt. -/
def repay (w : Work) (requested : Word) : Work :=
  let idx := w.market.indexes
  let onPool := rayMul w.position.scaledBorrowOnPool idx.borrow.poolIndex
  let inP2P := rayMul w.position.scaledBorrowInP2P idx.borrow.p2pIndex
  let (w, amount) := w.clampToBalance requested (onPool + inP2P)
  let w := ({ w with amount := amount } : Work).debitWallet amount
  let fromPool := Word.min amount onPool
  let w := (w.repayPool fromPool).repayP2P (amount - fromPool)
  w.withLiquidity (· + amount)

/-- Withdraws `amount` of the user's pool supply. -/
def withdrawPool (w : Work) (amount : Word) : Work :=
  if amount.val = 0 then w
  else
    let (rest, removed) := removeScaled w.position.scaledSupplyOnPool amount w.supplyIndexes.poolIndex
    let w := w.withPosition fun p => { p with scaledSupplyOnPool := rest }
    { w with market := { w.market with
        scaledProtocolSupplyOnPool := zeroFloorSub w.market.scaledProtocolSupplyOnPool removed
        scaledPoolSupply := zeroFloorSub w.market.scaledPoolSupply removed } }

/-- Sends `amount` of peer-to-peer borrowers back to the pool, held against the borrow cap: both
peer-to-peer totals shrink and the layer's debt on the pool grows. -/
def demoteBorrowers (w : Work) (amount : Word) : Work :=
  if amount.val = 0 then w else (((w.checkBorrowCap amount).shrinkP2P amount).addBorrowOnPool amount).1

/-- Takes `amount` off the user's peer-to-peer supply. -/
def releaseSupplyInP2P (w : Work) (amount : Word) : Work :=
  let (rest, _) := removeScaled w.position.scaledSupplyInP2P amount w.supplyIndexes.p2pIndex
  w.withPosition fun p => { p with scaledSupplyInP2P := rest }

/-- Moves `amount` of pool suppliers into peer-to-peer supply a withdrawal freed: their supply
leaves the pool, and the peer-to-peer totals stay. -/
def backfillSuppliers (w : Work) (amount : Word) : Work :=
  if amount.val = 0 then w else w.removeSupplyOnPool amount

/-- Withdraws `amount` of the user's peer-to-peer supply. The borrowers it frees are matched
with pool suppliers first, and the rest of them are demoted. -/
def withdrawP2P (w : Work) (amount : Word) : Work :=
  if amount.val = 0 then w
  else
    let w := w.releaseSupplyInP2P amount
    let promoted := w.matchable amount w.protocolSupplyOnPool
    (w.backfillSuppliers promoted).demoteBorrowers (amount - promoted)

/-- Withdraws up to the supply: pool supply first, then peer-to-peer supply. -/
def withdraw (w : Work) (requested : Word) : Work :=
  let idx := w.market.indexes
  let onPool := rayMul w.position.scaledSupplyOnPool idx.supply.poolIndex
  let inP2P := rayMul w.position.scaledSupplyInP2P idx.supply.p2pIndex
  let (w, amount) := w.clampToBalance requested (onPool + inP2P)
  let w := ({ w with amount := amount } : Work).checkLiquidity amount
  let fromPool := Word.min amount onPool
  let w := (w.withdrawPool fromPool).withdrawP2P (amount - fromPool)
  let w := w.withLiquidity (zeroFloorSub · amount)
  w.payOut amount

/-- Withdraws up to the collateral, noting when it exceeds the headroom that keeps the debt
covered (when there is one). -/
def withdrawCollateral (w : Work) (requested : Word) (headroom : Option Word) : Work :=
  let poolIndex := w.supplyIndexes.poolIndex
  let collateral := rayMul w.position.scaledCollateral poolIndex
  let (w, amount) := w.clampToBalance requested collateral
  let exceeds := match headroom with
    | some h => decide (h < amount)
    | none => false
  let w := ({ w with amount := amount } : Work).noteIf exceeds .collateralCapacityReached
  let w := w.checkLiquidity amount
  let (rest, removed) := removeScaled w.position.scaledCollateral amount poolIndex
  let w := w.withPosition fun p => { p with scaledCollateral := rest }
  let w := { w with market := { w.market with
    scaledProtocolCollateral := zeroFloorSub w.market.scaledProtocolCollateral removed
    scaledPoolSupply := zeroFloorSub w.market.scaledPoolSupply removed } }
  let w := w.withLiquidity (zeroFloorSub · amount)
  w.payOut amount

end Work

end PeerLending
