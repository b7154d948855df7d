import PeerLending.Index.PeerToPeer

/-!
# Bringing a market up to date

`MarketState.accrue` ages a market to `now`. The pool reserve's indexes are aged by the pool
model from the reserve's own timestamp and rates; the stored peer-to-peer indexes then move by
the peer-to-peer model, fed with the stored pool indexes as the last ones and the aged pool
indexes as the new ones. The result stores the aged pool indexes both as its pool indexes and in
its reserve, and `now` as both timestamps. A market already at or past `now` is unchanged.
-/

set_option autoImplicit false

namespace PeerLending

namespace MarketState

/-- The market aged to `now` under its configuration's cursor and reserve factor. -/
def accrue (m : MarketState) (config : MarketConfig) (now : Nat) : MarketState :=
  if now ≤ m.indexes.lastUpdate then m
  else
    let pool := PoolIndexes.age ⟨m.poolReserve.liquidityIndex, m.poolReserve.variableBorrowIndex⟩
      m.poolReserve.lastUpdate m.poolReserve.liquidityRate m.poolReserve.variableBorrowRate now
    let idle := proportionIdle m.idleSupply m.deltas.supply m.indexes.supply.p2pIndex
    let p2p := P2PIndexInputs.indexes
      { lastPoolSupplyIndex := m.indexes.supply.poolIndex
        lastPoolBorrowIndex := m.indexes.borrow.poolIndex
        lastP2PSupplyIndex := m.indexes.supply.p2pIndex
        lastP2PBorrowIndex := m.indexes.borrow.p2pIndex
        poolSupplyIndex := pool.supplyIndex
        poolBorrowIndex := pool.borrowIndex
        cursor := config.p2pIndexCursor
        reserveFactor := config.p2pReserveFactor
        deltas := m.deltas
        idleShare := idle }
    { m with
      indexes := ⟨⟨pool.supplyIndex, p2p.supplyIndex⟩, ⟨pool.borrowIndex, p2p.borrowIndex⟩, now⟩
      poolReserve := { m.poolReserve with
        liquidityIndex := pool.supplyIndex
        variableBorrowIndex := pool.borrowIndex
        lastUpdate := now } }

theorem accrue_of_le (m : MarketState) (config : MarketConfig) {now : Nat}
    (h : now ≤ m.indexes.lastUpdate) : m.accrue config now = m := by
  simp [accrue, h]

end MarketState

end PeerLending
