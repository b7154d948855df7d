import PeerLending.Proofs.Spread

/-!
# The shares of a blend

A side's peer-to-peer principal is cut into three shares of one ray: the idle share, which earns
nothing, the delta share, which rests on the pool, and the matched rest. Whichever early return
the two proportions take, the idle share is at most one ray (`proportionIdle_le_ray`) and the
delta share at most one ray less the idle share it is given (`proportionDelta_le`). A blend caps
the idle share at one ray first, so the matched share, two floored subtractions, never floors: it
is one ray less the two others exactly, and the three sum to one ray (`blendShares_sum`).

Index updates and rates blend with exactly these shares: `blend_shares_partition_ray` says that
every peer-to-peer index update and supply rate that blends is a blend by three shares summing
to one ray, and that the borrow side's `ray - δ` never wraps.
-/

set_option autoImplicit false

namespace PeerLending

/-! ## 1. The idle and delta shares -/

/-- The idle share of peer-to-peer supply is at most one ray: zero without idle supply or
peer-to-peer supply, one ray when the peer-to-peer supply rounds to nothing, and capped
otherwise. -/
theorem proportionIdle_le_ray (idleSupply : Word) (D : SideDelta) (p2pIndex : Word) :
    proportionIdle idleSupply D p2pIndex ≤ ray := by
  unfold proportionIdle
  split
  · exact Nat.zero_le _
  · dsimp only
    split
    · exact Nat.le_refl _
    · exact Word.min_le_right _ _

/-! ## 2. Blends -/

/-- An index update that blends grows the last index by the matched share at the peer-to-peer
growth, the delta share at the pool growth and the idle share at none. -/
theorem p2pIndexAfter_of_blends {poolGrowth p2pGrowth lastPoolIndex lastP2PIndex : Word}
    {D : SideDelta} {idleShare : Word} (hp2p : D.scaledP2PTotal.val ≠ 0)
    (hshare : D.scaledDelta.val ≠ 0 ∨ idleShare.val ≠ 0) :
    p2pIndexAfter poolGrowth p2pGrowth lastPoolIndex lastP2PIndex D idleShare =
      rayMul lastP2PIndex
        (rayMul (zeroFloorSub (zeroFloorSub ray
              (proportionDelta D lastPoolIndex lastP2PIndex (Word.min idleShare ray)))
            (Word.min idleShare ray)) p2pGrowth +
          rayMul (proportionDelta D lastPoolIndex lastP2PIndex (Word.min idleShare ray)) poolGrowth +
          Word.min idleShare ray) := by
  unfold p2pIndexAfter
  rw [if_neg (by omega)]

/-- The borrow side takes one ray less its delta share, and that subtraction never wraps: the
delta share is computed with no idle share, so against a cap of one ray. -/
theorem P2PRateInputs.val_ray_sub_borrowDeltaShare (p : P2PRateInputs) :
    (ray - p.borrowDeltaShare).val + p.borrowDeltaShare.val = ray.val := by
  have hδ : p.borrowDeltaShare.val ≤ ray.val :=
    Nat.le_trans (proportionDelta_le p.deltas.borrow p.poolBorrowIndex p.p2pBorrowIndex 0)
      (Nat.sub_le _ _)
  rw [Word.val_sub_of_le hδ]
  omega

/-- The weights of every blend partition one ray. The idle share is at most one ray, and the
delta share at most one ray less the capped idle share. An index update that blends grows the
last index by three shares summing to one ray: the matched share at the peer-to-peer growth, the
delta share at the pool growth, the capped idle share at none. A supply rate that blends takes
the mid rate on the matched share and the pool rate on the delta share, the three shares again
summing to one ray, and a borrow rate that blends takes the mid rate on one ray less the delta
share, a subtraction that does not wrap. -/
theorem blend_shares_partition_ray :
    (∀ (idleSupply : Word) (D : SideDelta) (p2pIndex : Word),
      proportionIdle idleSupply D p2pIndex ≤ ray) ∧
    (∀ (D : SideDelta) (poolIndex p2pIndex idleShare : Word),
      (proportionDelta D poolIndex p2pIndex (Word.min idleShare ray)).val ≤
        ray.val - (Word.min idleShare ray).val) ∧
    (∀ (poolGrowth p2pGrowth lastPoolIndex lastP2PIndex : Word) (D : SideDelta) (idleShare : Word),
      D.scaledP2PTotal.val ≠ 0 → (D.scaledDelta.val ≠ 0 ∨ idleShare.val ≠ 0) →
      ∃ matched : Word,
        matched.val + (proportionDelta D lastPoolIndex lastP2PIndex (Word.min idleShare ray)).val +
            (Word.min idleShare ray).val = ray.val ∧
          p2pIndexAfter poolGrowth p2pGrowth lastPoolIndex lastP2PIndex D idleShare =
            rayMul lastP2PIndex (rayMul matched p2pGrowth +
              rayMul (proportionDelta D lastPoolIndex lastP2PIndex (Word.min idleShare ray))
                poolGrowth + Word.min idleShare ray)) ∧
    (∀ p : P2PRateInputs, p.SupplyBlends →
      ∃ matched : Word,
        matched.val + p.supplyDeltaShare.val + (Word.min p.idleShare ray).val = ray.val ∧
          p.rates.supplyRate =
            rayMul p.mid.1 matched + rayMul p.poolSupplyRate p.supplyDeltaShare) ∧
    (∀ p : P2PRateInputs, p.BorrowBlends →
      (ray - p.borrowDeltaShare).val + p.borrowDeltaShare.val = ray.val ∧
        p.rates.borrowRate =
          rayMul p.mid.2 (ray - p.borrowDeltaShare) + rayMul p.poolBorrowRate p.borrowDeltaShare) := by
  refine ⟨proportionIdle_le_ray, fun D poolIndex p2pIndex idleShare => ?_,
    fun _ _ lastPoolIndex lastP2PIndex D idleShare hp2p hshare => ?_, fun p h => ?_,
    fun p h => ⟨p.val_ray_sub_borrowDeltaShare, by rw [P2PRateInputs.borrowRate_eq, if_pos h]⟩⟩
  · exact proportionDelta_le D poolIndex p2pIndex _
  · exact ⟨_, blendShares_sum D lastPoolIndex lastP2PIndex idleShare,
      p2pIndexAfter_of_blends hp2p hshare⟩
  · -- the supply rate's matched share is the index update's, at the current indexes
    exact ⟨_, blendShares_sum p.deltas.supply p.poolSupplyIndex p.p2pSupplyIndex p.idleShare,
      by rw [P2PRateInputs.supplyRate_eq, if_pos h]; rfl⟩

end PeerLending
