import PeerLending.Proofs.Step

/-!
# The scaled balances an operation moves

An operation moves twelve scaled balances and nothing else that an accounting property reads: the
pool's total supply and debt, the layer's supply, debt and collateral on the pool, the two
peer-to-peer totals, and the user's five balances on the market (`Ledger`). It never moves an
index.

Each part of an operation gets one equation that says what it does to the ledger of its work
(`ledger_addP2P`, `ledger_promoteBorrowers`, …), in terms of the ledger and the indexes it starts
from; every check and every move of a wallet or of the pool's liquidity leaves the ledger alone.
The six market operations then read off as compositions of those equations, and properties of
the balances are proved on the ledger without unfolding an operation again.
-/

set_option autoImplicit false

namespace PeerLending

/-- The scaled balances of one market that an operation moves: the pool's totals, the lending
layer's aggregates, and the user's position. -/
structure Ledger where
  poolSupply : Word
  poolBorrow : Word
  layerSupplyOnPool : Word
  layerBorrowOnPool : Word
  layerCollateral : Word
  supplyInP2P : Word
  borrowInP2P : Word
  userSupplyOnPool : Word
  userBorrowOnPool : Word
  userCollateral : Word
  userSupplyInP2P : Word
  userBorrowInP2P : Word

/-- The ledger of a market and a position on it. -/
def Ledger.of (m : MarketState) (p : Position) : Ledger where
  poolSupply := m.scaledPoolSupply
  poolBorrow := m.scaledPoolBorrow
  layerSupplyOnPool := m.scaledProtocolSupplyOnPool
  layerBorrowOnPool := m.scaledProtocolBorrowOnPool
  layerCollateral := m.scaledProtocolCollateral
  supplyInP2P := m.deltas.supply.scaledP2PTotal
  borrowInP2P := m.deltas.borrow.scaledP2PTotal
  userSupplyOnPool := p.scaledSupplyOnPool
  userBorrowOnPool := p.scaledBorrowOnPool
  userCollateral := p.scaledCollateral
  userSupplyInP2P := p.scaledSupplyInP2P
  userBorrowInP2P := p.scaledBorrowInP2P

/-- The user's scaled balances are held in the layer's aggregates. -/
structure Ledger.Held (l : Ledger) : Prop where
  supplyOnPool : l.userSupplyOnPool ≤ l.layerSupplyOnPool
  borrowOnPool : l.userBorrowOnPool ≤ l.layerBorrowOnPool
  collateral : l.userCollateral ≤ l.layerCollateral
  supplyInP2P : l.userSupplyInP2P ≤ l.supplyInP2P
  borrowInP2P : l.userBorrowInP2P ≤ l.borrowInP2P

namespace Work

/-- The ledger of a work: that of its market and its position. -/
def ledger (w : Work) : Ledger := Ledger.of w.market w.position

variable (w : Work) (a : Word)

/-! ## 1. What leaves the ledger alone -/

section Frame

@[simp] theorem ledger_noteIf (c : Bool) (k : IssueKind) : (w.noteIf c k).ledger = w.ledger := by
  unfold noteIf
  split <;> rfl

@[simp] theorem ledger_amount : ({ w with amount := a } : Work).ledger = w.ledger := rfl

@[simp] theorem ledger_debitWallet : (w.debitWallet a).ledger = w.ledger := by
  simp [debitWallet, ledger, Ledger.of, noteIf_eq]

@[simp] theorem ledger_checkLiquidity : (w.checkLiquidity a).ledger = w.ledger := by
  simp [checkLiquidity]

@[simp] theorem ledger_checkSupplyCap : (w.checkSupplyCap a).ledger = w.ledger := by
  simp [checkSupplyCap]

@[simp] theorem ledger_checkBorrowCap : (w.checkBorrowCap a).ledger = w.ledger := by
  simp [checkBorrowCap]

@[simp] theorem ledger_withLiquidity (f : Word → Word) : (w.withLiquidity f).ledger = w.ledger :=
  rfl

@[simp] theorem ledger_payOut : (w.payOut a).ledger = w.ledger := by
  unfold payOut
  split <;> rfl

theorem ledger_clampToBalance (b : Word) : (w.clampToBalance a b).1.ledger = w.ledger := by
  unfold clampToBalance
  split <;> rfl

end Frame

/-! ## 2. The parts of an operation -/

section Parts

@[simp] theorem ledger_addSupplyOnPool : (w.addSupplyOnPool a).1.ledger =
    { w.ledger with
      poolSupply := w.ledger.poolSupply + rayDiv a w.market.indexes.supply.poolIndex
      layerSupplyOnPool := w.ledger.layerSupplyOnPool + rayDiv a w.market.indexes.supply.poolIndex } :=
  rfl

@[simp] theorem ledger_addBorrowOnPool : (w.addBorrowOnPool a).1.ledger =
    { w.ledger with
      poolBorrow := w.ledger.poolBorrow + rayDiv a w.market.indexes.borrow.poolIndex
      layerBorrowOnPool := w.ledger.layerBorrowOnPool + rayDiv a w.market.indexes.borrow.poolIndex } :=
  rfl

@[simp] theorem ledger_removeSupplyOnPool : (w.removeSupplyOnPool a).ledger =
    let removed := removeScaled w.ledger.layerSupplyOnPool a w.market.indexes.supply.poolIndex
    { w.ledger with
      poolSupply := zeroFloorSub w.ledger.poolSupply removed.2
      layerSupplyOnPool := removed.1 } :=
  rfl

@[simp] theorem ledger_removeBorrowOnPool : (w.removeBorrowOnPool a).ledger =
    let removed := removeScaled w.ledger.layerBorrowOnPool a w.market.indexes.borrow.poolIndex
    { w.ledger with
      poolBorrow := zeroFloorSub w.ledger.poolBorrow removed.2
      layerBorrowOnPool := removed.1 } :=
  rfl

@[simp] theorem ledger_addP2P : (w.addP2P a).ledger =
    { w.ledger with
      supplyInP2P := w.ledger.supplyInP2P + rayDiv a w.market.indexes.supply.p2pIndex
      borrowInP2P := w.ledger.borrowInP2P + rayDiv a w.market.indexes.borrow.p2pIndex } :=
  rfl

@[simp] theorem ledger_shrinkP2P : (w.shrinkP2P a).ledger =
    { w.ledger with
      supplyInP2P := zeroFloorSub w.ledger.supplyInP2P (rayDiv a w.market.indexes.supply.p2pIndex)
      borrowInP2P := zeroFloorSub w.ledger.borrowInP2P (rayDiv a w.market.indexes.borrow.p2pIndex) } :=
  rfl

@[simp] theorem ledger_withPosition (f : Position → Position) : (w.withPosition f).ledger =
    { w.ledger with
      userSupplyOnPool := (f w.position).scaledSupplyOnPool
      userBorrowOnPool := (f w.position).scaledBorrowOnPool
      userCollateral := (f w.position).scaledCollateral
      userSupplyInP2P := (f w.position).scaledSupplyInP2P
      userBorrowInP2P := (f w.position).scaledBorrowInP2P } :=
  rfl

theorem ledger_promoteBorrowers : (w.promoteBorrowers a).ledger =
    if a.val = 0 then w.ledger
    else
      let removed := removeScaled w.ledger.layerBorrowOnPool a w.market.indexes.borrow.poolIndex
      { w.ledger with
        poolBorrow := zeroFloorSub w.ledger.poolBorrow removed.2
        layerBorrowOnPool := removed.1
        supplyInP2P := w.ledger.supplyInP2P + rayDiv a w.market.indexes.supply.p2pIndex
        borrowInP2P := w.ledger.borrowInP2P + rayDiv a w.market.indexes.borrow.p2pIndex
        userSupplyInP2P := w.ledger.userSupplyInP2P + rayDiv a w.market.indexes.supply.p2pIndex } := by
  unfold promoteBorrowers
  split <;> rfl

theorem ledger_promoteSuppliers : (w.promoteSuppliers a).ledger =
    if a.val = 0 then w.ledger
    else
      let removed := removeScaled w.ledger.layerSupplyOnPool a w.market.indexes.supply.poolIndex
      { w.ledger with
        poolSupply := zeroFloorSub w.ledger.poolSupply removed.2
        layerSupplyOnPool := removed.1
        supplyInP2P := w.ledger.supplyInP2P + rayDiv a w.market.indexes.supply.p2pIndex
        borrowInP2P := w.ledger.borrowInP2P + rayDiv a w.market.indexes.borrow.p2pIndex
        userBorrowInP2P := w.ledger.userBorrowInP2P + rayDiv a w.market.indexes.borrow.p2pIndex } := by
  unfold promoteSuppliers
  split <;> rfl

theorem ledger_releaseBorrowInP2P : (w.releaseBorrowInP2P a).ledger =
    { w.ledger with
      userBorrowInP2P :=
        (removeScaled w.ledger.userBorrowInP2P a w.market.indexes.borrow.p2pIndex).1 } :=
  rfl

theorem ledger_releaseSupplyInP2P : (w.releaseSupplyInP2P a).ledger =
    { w.ledger with
      userSupplyInP2P :=
        (removeScaled w.ledger.userSupplyInP2P a w.market.indexes.supply.p2pIndex).1 } :=
  rfl

theorem ledger_backfillBorrowers : (w.backfillBorrowers a).ledger =
    if a.val = 0 then w.ledger else (w.removeBorrowOnPool a).ledger := by
  unfold backfillBorrowers
  split <;> rfl

theorem ledger_backfillSuppliers : (w.backfillSuppliers a).ledger =
    if a.val = 0 then w.ledger else (w.removeSupplyOnPool a).ledger := by
  unfold backfillSuppliers
  split <;> rfl

theorem ledger_supplyPool : (w.supplyPool a).ledger =
    let scaled := rayDiv a w.market.indexes.supply.poolIndex
    { w.ledger with
      poolSupply := w.ledger.poolSupply + scaled
      layerSupplyOnPool := w.ledger.layerSupplyOnPool + scaled
      userSupplyOnPool := w.ledger.userSupplyOnPool + scaled } :=
  rfl

theorem ledger_borrowPool : (w.borrowPool a).ledger =
    let scaled := rayDiv a w.market.indexes.borrow.poolIndex
    { w.ledger with
      poolBorrow := w.ledger.poolBorrow + scaled
      layerBorrowOnPool := w.ledger.layerBorrowOnPool + scaled
      userBorrowOnPool := w.ledger.userBorrowOnPool + scaled } :=
  rfl

theorem ledger_repayPool : (w.repayPool a).ledger =
    if a.val = 0 then w.ledger
    else
      let removed := removeScaled w.ledger.userBorrowOnPool a w.market.indexes.borrow.poolIndex
      { w.ledger with
        poolBorrow := zeroFloorSub w.ledger.poolBorrow removed.2
        layerBorrowOnPool := zeroFloorSub w.ledger.layerBorrowOnPool removed.2
        userBorrowOnPool := removed.1 } := by
  unfold repayPool
  split <;> rfl

theorem ledger_withdrawPool : (w.withdrawPool a).ledger =
    if a.val = 0 then w.ledger
    else
      let removed := removeScaled w.ledger.userSupplyOnPool a w.market.indexes.supply.poolIndex
      { w.ledger with
        poolSupply := zeroFloorSub w.ledger.poolSupply removed.2
        layerSupplyOnPool := zeroFloorSub w.ledger.layerSupplyOnPool removed.2
        userSupplyOnPool := removed.1 } := by
  unfold withdrawPool
  split <;> rfl

theorem ledger_demoteSuppliers : (w.demoteSuppliers a).ledger =
    if a.val = 0 then w.ledger
    else
      let scaled := rayDiv a w.market.indexes.supply.poolIndex
      { w.ledger with
        poolSupply := w.ledger.poolSupply + scaled
        layerSupplyOnPool := w.ledger.layerSupplyOnPool + scaled
        supplyInP2P := zeroFloorSub w.ledger.supplyInP2P (rayDiv a w.market.indexes.supply.p2pIndex)
        borrowInP2P := zeroFloorSub w.ledger.borrowInP2P (rayDiv a w.market.indexes.borrow.p2pIndex) } := by
  unfold demoteSuppliers
  split <;> rfl

theorem ledger_demoteBorrowers : (w.demoteBorrowers a).ledger =
    if a.val = 0 then w.ledger
    else
      let scaled := rayDiv a w.market.indexes.borrow.poolIndex
      { w.ledger with
        poolBorrow := w.ledger.poolBorrow + scaled
        layerBorrowOnPool := w.ledger.layerBorrowOnPool + scaled
        supplyInP2P := zeroFloorSub w.ledger.supplyInP2P (rayDiv a w.market.indexes.supply.p2pIndex)
        borrowInP2P := zeroFloorSub w.ledger.borrowInP2P (rayDiv a w.market.indexes.borrow.p2pIndex) } := by
  unfold demoteBorrowers
  split
  · rfl
  · -- the cap check moves no balance and keeps the indexes
    rw [ledger_addBorrowOnPool, (quiet_shrinkP2P _ a).indexes, ledger_shrinkP2P, ledger_checkBorrowCap,
      (keepsAmount_checkBorrowCap w a).indexes]

end Parts

end Work

end PeerLending
