import PeerLending.Interest

/-!
# Pool indexes

The underlying pool grows its supply index linearly and its borrow index by compounding, from
the moment of its last update to `now`. A pool that is already at or past `now` keeps its
indexes: time never runs backwards in this model.
-/

set_option autoImplicit false

namespace PeerLending

/-- A supply index and a borrow index (ray). -/
structure PoolIndexes where
  supplyIndex : Word
  borrowIndex : Word
deriving DecidableEq

/-- The pool indexes `last`, updated at `lastUpdate` with the given yearly rates (ray), aged to
`now`: the supply index by `linearInterest`, the borrow index by `compoundedInterest`. -/
def PoolIndexes.age (last : PoolIndexes) (lastUpdate : Nat) (supplyRate borrowRate : Word)
    (now : Nat) : PoolIndexes :=
  if now ≤ lastUpdate then last
  else
    let elapsed := now - lastUpdate
    { supplyIndex := rayMul (linearInterest supplyRate elapsed) last.supplyIndex
      borrowIndex := rayMul (compoundedInterest borrowRate elapsed) last.borrowIndex }

theorem PoolIndexes.age_of_le (last : PoolIndexes) (lastUpdate : Nat) (supplyRate borrowRate : Word)
    {now : Nat} (h : now ≤ lastUpdate) : last.age lastUpdate supplyRate borrowRate now = last := by
  simp [PoolIndexes.age, h]

end PeerLending
