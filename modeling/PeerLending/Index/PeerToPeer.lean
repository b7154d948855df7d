import PeerLending.Index.Pool
import PeerLending.Market.State

/-!
# Peer-to-peer indexes and rates

Peer-to-peer balances grow at a *mid* rate between the pool's supply and borrow rates, placed by
the market's cursor and then skewed by its reserve factor:

```text
mid     = percentAvg(supply side, borrow side, cursor)
supply' = mid - reserveFactor · (mid - supply side)
borrow' = mid + reserveFactor · (borrow side - mid)
```

When the supply side exceeds the borrow side (only possible through donations to the pool),
both peer-to-peer sides take the borrow side, so suppliers never out-earn borrowers.

Not all peer-to-peer principal is really matched. The *delta* share rests on the pool and grows
at the pool rate; on the supply side an *idle* share earns nothing. A peer-to-peer index moves by

```text
new = last · ((1 - δ - ι) · p2pGrowth + δ · poolGrowth + ι)
```

with `δ = proportionDelta` and `ι = proportionIdle`, and the peer-to-peer rates blend the same
way. `accrueMarket` (in `PeerLending.Market.Accrue`) ties this to a stored market.
-/

set_option autoImplicit false

namespace PeerLending

/-- Pool and peer-to-peer growth factors over one aging period (ray). -/
structure Growth where
  poolSupply : Word
  poolBorrow : Word
  p2pSupply : Word
  p2pBorrow : Word
deriving DecidableEq

/-- The supply-side and borrow-side peer-to-peer values between a supply-side and a borrow-side
pool value: the cursor's mid, skewed by the reserve factor; both are the borrow side when the
supply side exceeds it. Works on growth factors and on rates alike. -/
def skewedMid (supplySide borrowSide cursor reserveFactor : Word) : Word × Word :=
  if borrowSide < supplySide then (borrowSide, borrowSide)
  else
    let mid := percentAvg supplySide borrowSide cursor
    (mid - percentMul (mid - supplySide) reserveFactor,
     mid + percentMul (borrowSide - mid) reserveFactor)

/-- Pool growth from the last to the new pool indexes, and the peer-to-peer growth that
`skewedMid` places between them. -/
def Growth.between (lastPoolSupply lastPoolBorrow poolSupply poolBorrow cursor reserveFactor : Word) :
    Growth :=
  let poolSupplyGrowth := rayDiv poolSupply lastPoolSupply
  let poolBorrowGrowth := rayDiv poolBorrow lastPoolBorrow
  let (p2pSupplyGrowth, p2pBorrowGrowth) :=
    skewedMid poolSupplyGrowth poolBorrowGrowth cursor reserveFactor
  ⟨poolSupplyGrowth, poolBorrowGrowth, p2pSupplyGrowth, p2pBorrowGrowth⟩

/-- The idle share of peer-to-peer supply (ray, at most one): zero without idle supply or
without peer-to-peer supply. -/
def proportionIdle (idleSupply : Word) (supplyDelta : SideDelta) (p2pSupplyIndex : Word) : Word :=
  if idleSupply.val = 0 ∨ supplyDelta.scaledP2PTotal.val = 0 then 0
  else
    let totalP2PSupplied := rayMul supplyDelta.scaledP2PTotal p2pSupplyIndex
    if totalP2PSupplied.val = 0 then ray
    else Word.min (rayDivUp idleSupply totalP2PSupplied) ray

/-- The unmatched share of peer-to-peer principal (ray), at most one minus the idle share; zero
when the side has no peer-to-peer principal or no delta. -/
def proportionDelta (delta : SideDelta) (poolIndex p2pIndex idleShare : Word) : Word :=
  if delta.scaledP2PTotal.val = 0 ∨ delta.scaledDelta.val = 0 then 0
  else
    let p2pAmount := rayMul delta.scaledP2PTotal p2pIndex
    let upper := zeroFloorSub ray idleShare
    if p2pAmount.val = 0 then upper
    else Word.min (rayDivUp (rayMul delta.scaledDelta poolIndex) p2pAmount) upper

/-- The new peer-to-peer index of one side: the last index grown by the blend of peer-to-peer
growth on the matched share, pool growth on the delta share, and nothing on the idle share. -/
def p2pIndexAfter (poolGrowth p2pGrowth lastPoolIndex lastP2PIndex : Word) (delta : SideDelta)
    (idleShare : Word) : Word :=
  if delta.scaledP2PTotal.val = 0 ∨ (delta.scaledDelta.val = 0 ∧ idleShare.val = 0) then
    rayMul lastP2PIndex p2pGrowth
  else
    let idle := Word.min idleShare ray
    let deltaShare := proportionDelta delta lastPoolIndex lastP2PIndex idle
    let matched := zeroFloorSub (zeroFloorSub ray deltaShare) idle
    rayMul lastP2PIndex (rayMul matched p2pGrowth + rayMul deltaShare poolGrowth + idle)

/-- The peer-to-peer supply and borrow indexes. -/
structure P2PIndexes where
  supplyIndex : Word
  borrowIndex : Word
deriving DecidableEq

/-- What a peer-to-peer index update reads: the last pool and peer-to-peer indexes, the new pool
indexes, the cursor and reserve factor, the deltas and the idle share of supply. -/
structure P2PIndexInputs where
  lastPoolSupplyIndex : Word
  lastPoolBorrowIndex : Word
  lastP2PSupplyIndex : Word
  lastP2PBorrowIndex : Word
  poolSupplyIndex : Word
  poolBorrowIndex : Word
  cursor : Word
  reserveFactor : Word
  deltas : Deltas
  idleShare : Word

/-- The new peer-to-peer indexes; the borrow side has no idle share. -/
def P2PIndexInputs.indexes (p : P2PIndexInputs) : P2PIndexes :=
  let growth := Growth.between p.lastPoolSupplyIndex p.lastPoolBorrowIndex p.poolSupplyIndex
    p.poolBorrowIndex p.cursor p.reserveFactor
  { supplyIndex := p2pIndexAfter growth.poolSupply growth.p2pSupply p.lastPoolSupplyIndex
      p.lastP2PSupplyIndex p.deltas.supply p.idleShare
    borrowIndex := p2pIndexAfter growth.poolBorrow growth.p2pBorrow p.lastPoolBorrowIndex
      p.lastP2PBorrowIndex p.deltas.borrow 0 }

/-- Peer-to-peer supply and borrow rates (ray per year). -/
structure P2PRates where
  supplyRate : Word
  borrowRate : Word
deriving DecidableEq

/-- What the peer-to-peer rates read: pool rates, current indexes, cursor, reserve factor,
deltas and the idle share of supply. -/
structure P2PRateInputs where
  poolSupplyRate : Word
  poolBorrowRate : Word
  poolSupplyIndex : Word
  poolBorrowIndex : Word
  p2pSupplyIndex : Word
  p2pBorrowIndex : Word
  cursor : Word
  reserveFactor : Word
  deltas : Deltas
  idleShare : Word

/-- The rates that peer-to-peer suppliers and borrowers see: the skewed mid rate on the matched
share, the pool rate on the delta share, nothing on the idle share. -/
def P2PRateInputs.rates (p : P2PRateInputs) : P2PRates :=
  let (midSupply, midBorrow) := skewedMid p.poolSupplyRate p.poolBorrowRate p.cursor p.reserveFactor
  let supplyRate :=
    if p.deltas.supply.scaledP2PTotal.val ≠ 0 ∧
        (p.deltas.supply.scaledDelta.val ≠ 0 ∨ p.idleShare.val ≠ 0) then
      let idle := Word.min p.idleShare ray
      let deltaShare := proportionDelta p.deltas.supply p.poolSupplyIndex p.p2pSupplyIndex idle
      let matched := zeroFloorSub (zeroFloorSub ray deltaShare) idle
      rayMul midSupply matched + rayMul p.poolSupplyRate deltaShare
    else midSupply
  let borrowRate :=
    if p.deltas.borrow.scaledP2PTotal.val ≠ 0 ∧ p.deltas.borrow.scaledDelta.val ≠ 0 then
      let deltaShare := proportionDelta p.deltas.borrow p.poolBorrowIndex p.p2pBorrowIndex 0
      rayMul midBorrow (ray - deltaShare) + rayMul p.poolBorrowRate deltaShare
    else midBorrow
  ⟨supplyRate, borrowRate⟩

end PeerLending
