import PeerLending.Proofs.Consistency

/-!
# Matching moves value, it does not make it

What an accounting property compares on a market is worth in native units: the lending layer's
supply (peer-to-peer plus on the pool), its debt and its collateral, and the user's three
balances (`Worth`). A supply of `a` adds `a` to the layer's supply and to the user's, and leaves
every debt where it was, even when it promotes pool borrowers to peer-to-peer: the debt they
take off the pool they take on peer-to-peer. A repayment takes `a` off both debts and leaves the
supply where it was: the suppliers it frees are matched again or sent back to the pool. The same
holds, sides swapped, for borrowing and withdrawing, and collateral moves only collateral.

Every conversion between native and scaled amounts rounds, so each of these equalities holds to
within the rounding error of the conversions it makes (`Indexes.slack`). The proof goes part by
part: each part of an operation moves the worth by a known amount to within the error of its own
conversions (`worth_promoteBorrowers`, `worth_supplyPool`, …), and an operation's move is the sum
of its parts' (`Worth.Near.then`).

The conversions stay in range when the balances and the amount are below `balanceBound` and the
indexes between one ray and `indexBound`. Taking a user's balance out of an aggregate moves the
aggregate's worth only if the aggregate holds it (`Ledger.Covered`): the layer's balances hold the
user's, and a peer-to-peer repayment or withdrawal that sends the other side back to the pool finds
that side's peer-to-peer total large enough.
-/

set_option autoImplicit false

namespace PeerLending

/-! ## 1. Worth -/

/-- The native worth of what an accounting property compares on a market: the lending layer's
supply, debt and collateral, and the user's. -/
@[ext] structure Worth where
  supply : Int
  borrow : Int
  collateral : Int
  userSupply : Int
  userBorrow : Int
  userCollateral : Int

namespace Worth

instance : Add Worth :=
  ⟨fun x y => ⟨x.supply + y.supply, x.borrow + y.borrow, x.collateral + y.collateral,
    x.userSupply + y.userSupply, x.userBorrow + y.userBorrow, x.userCollateral + y.userCollateral⟩⟩

@[simp] theorem add_supply (x y : Worth) : (x + y).supply = x.supply + y.supply := rfl
@[simp] theorem add_borrow (x y : Worth) : (x + y).borrow = x.borrow + y.borrow := rfl
@[simp] theorem add_collateral (x y : Worth) : (x + y).collateral = x.collateral + y.collateral := rfl
@[simp] theorem add_userSupply (x y : Worth) : (x + y).userSupply = x.userSupply + y.userSupply := rfl
@[simp] theorem add_userBorrow (x y : Worth) : (x + y).userBorrow = x.userBorrow + y.userBorrow := rfl
@[simp] theorem add_userCollateral (x y : Worth) :
    (x + y).userCollateral = x.userCollateral + y.userCollateral := rfl

instance : Zero Worth := ⟨⟨0, 0, 0, 0, 0, 0⟩⟩

theorem add_zero (x : Worth) : x + 0 = x := by
  ext <;> exact Int.add_zero _

/-- A move of `x` on the supply side: the layer's supply and the user's. -/
def supplied (x : Int) : Worth := ⟨x, 0, 0, x, 0, 0⟩

/-- A move of `x` on the debt side: the layer's debt and the user's. -/
def borrowed (x : Int) : Worth := ⟨0, x, 0, 0, x, 0⟩

/-- A move of `x` of collateral: the layer's and the user's. -/
def pledged (x : Int) : Worth := ⟨0, 0, x, 0, 0, x⟩

/-- Two worths within a slack of each other, balance by balance. -/
structure Near (x y e : Worth) : Prop where
  supply : PeerLending.Near x.supply y.supply e.supply
  borrow : PeerLending.Near x.borrow y.borrow e.borrow
  collateral : PeerLending.Near x.collateral y.collateral e.collateral
  userSupply : PeerLending.Near x.userSupply y.userSupply e.userSupply
  userBorrow : PeerLending.Near x.userBorrow y.userBorrow e.userBorrow
  userCollateral : PeerLending.Near x.userCollateral y.userCollateral e.userCollateral

/-- Moves add up: a move of `d` within `e` then a move of `d'` within `e'` is a move of `d + d'`
within `e + e'`. -/
theorem Near.then {x y z d d' e e' : Worth} (h : Near y (x + d) e) (h' : Near z (y + d') e') :
    Near z (x + (d + d')) (e + e') := by
  obtain ⟨h1, h2, h3, h4, h5, h6⟩ := h
  obtain ⟨h1', h2', h3', h4', h5', h6'⟩ := h'
  simp only [PeerLending.Near, add_supply, add_borrow, add_collateral, add_userSupply,
    add_userBorrow, add_userCollateral] at *
  refine ⟨?_, ?_, ?_, ?_, ?_, ?_⟩ <;>
  · simp only [PeerLending.Near, add_supply, add_borrow, add_collateral, add_userSupply,
      add_userBorrow, add_userCollateral]
    omega

/-- A move within a slack is within every larger one. -/
theorem Near.mono {x y e e' : Worth} (h : Near x y e) (hs : e.supply ≤ e'.supply)
    (hb : e.borrow ≤ e'.borrow) (hc : e.collateral ≤ e'.collateral)
    (hus : e.userSupply ≤ e'.userSupply) (hub : e.userBorrow ≤ e'.userBorrow)
    (huc : e.userCollateral ≤ e'.userCollateral) : Near x y e' :=
  ⟨h.supply.mono hs, h.borrow.mono hb, h.collateral.mono hc, h.userSupply.mono hus,
    h.userBorrow.mono hub, h.userCollateral.mono huc⟩

end Worth

/-- The worth of a ledger at a market's indexes. -/
def Ledger.worth (l : Ledger) (idx : Indexes) : Worth where
  supply := (rayMul l.supplyInP2P idx.supply.p2pIndex).val +
    (rayMul l.layerSupplyOnPool idx.supply.poolIndex).val
  borrow := (rayMul l.borrowInP2P idx.borrow.p2pIndex).val +
    (rayMul l.layerBorrowOnPool idx.borrow.poolIndex).val
  collateral := (rayMul l.layerCollateral idx.supply.poolIndex).val
  userSupply := (rayMul l.userSupplyInP2P idx.supply.p2pIndex).val +
    (rayMul l.userSupplyOnPool idx.supply.poolIndex).val
  userBorrow := (rayMul l.userBorrowInP2P idx.borrow.p2pIndex).val +
    (rayMul l.userBorrowOnPool idx.borrow.poolIndex).val
  userCollateral := (rayMul l.userCollateral idx.supply.poolIndex).val

/-- The worth of a work's ledger at its market's indexes. -/
def Work.worth (w : Work) : Worth := w.ledger.worth w.market.indexes

/-! ## 2. Range -/

/-- Both indexes of a side are at least one ray and below `indexBound`. -/
structure SideIndexes.InRange (idx : SideIndexes) : Prop where
  pool_ge : ray.val ≤ idx.poolIndex.val
  pool_lt : idx.poolIndex.val < indexBound
  p2p_ge : ray.val ≤ idx.p2pIndex.val
  p2p_lt : idx.p2pIndex.val < indexBound

/-- All four indexes of a market are at least one ray and below `indexBound`. -/
structure Indexes.InRange (idx : Indexes) : Prop where
  supply : idx.supply.InRange
  borrow : idx.borrow.InRange

/-- The rounding error of one conversion at a side's pool index. -/
def SideIndexes.poolError (idx : SideIndexes) : Int := roundingError idx.poolIndex

/-- The rounding error of one conversion at a side's peer-to-peer index. -/
def SideIndexes.p2pError (idx : SideIndexes) : Int := roundingError idx.p2pIndex

theorem SideIndexes.poolError_nonneg (idx : SideIndexes) : 0 ≤ idx.poolError :=
  Int.natCast_nonneg _

theorem SideIndexes.p2pError_nonneg (idx : SideIndexes) : 0 ≤ idx.p2pError :=
  Int.natCast_nonneg _

/-- The slack of one operation: two conversions at each index of a side, for every balance of
that side (collateral is on the supply side). -/
def Indexes.slack (idx : Indexes) : Worth :=
  let s := 2 * (idx.supply.poolError + idx.supply.p2pError)
  let b := 2 * (idx.borrow.poolError + idx.borrow.p2pError)
  ⟨s, b, s, s, b, s⟩

namespace Indexes

variable (idx : Indexes)

theorem slack_nonneg : 0 ≤ idx.slack.supply ∧ 0 ≤ idx.slack.borrow ∧ 0 ≤ idx.slack.collateral ∧
    0 ≤ idx.slack.userSupply ∧ 0 ≤ idx.slack.userBorrow ∧ 0 ≤ idx.slack.userCollateral := by
  have e1 := idx.supply.poolError_nonneg
  have e2 := idx.supply.p2pError_nonneg
  have e3 := idx.borrow.poolError_nonneg
  have e4 := idx.borrow.p2pError_nonneg
  simp only [slack]
  omega

theorem near_self (x : Worth) : Worth.Near x x idx.slack :=
  have h := idx.slack_nonneg
  ⟨.refl _ h.1, .refl _ h.2.1, .refl _ h.2.2.1, .refl _ h.2.2.2.1, .refl _ h.2.2.2.2.1,
    .refl _ h.2.2.2.2.2⟩

/-- A move of collateral, within one conversion at the supply pool index, is within the slack. -/
theorem near_of_collateral {idx : Indexes} {x y : Worth}
    (h : Worth.Near x y ⟨0, 0, idx.supply.poolError, 0, 0, idx.supply.poolError⟩) :
    Worth.Near x y idx.slack := by
  have e1 := idx.supply.poolError_nonneg
  have e2 := idx.supply.p2pError_nonneg
  have e3 := idx.borrow.poolError_nonneg
  have e4 := idx.borrow.p2pError_nonneg
  refine h.mono ?_ ?_ ?_ ?_ ?_ ?_ <;>
  · simp only [slack]
    omega

end Indexes

/-- Every balance of a ledger that has a worth is below `b`. -/
structure Ledger.Below (l : Ledger) (b : Nat) : Prop where
  layerSupplyOnPool : l.layerSupplyOnPool.val < b
  layerBorrowOnPool : l.layerBorrowOnPool.val < b
  layerCollateral : l.layerCollateral.val < b
  supplyInP2P : l.supplyInP2P.val < b
  borrowInP2P : l.borrowInP2P.val < b
  userSupplyOnPool : l.userSupplyOnPool.val < b
  userBorrowOnPool : l.userBorrowOnPool.val < b
  userCollateral : l.userCollateral.val < b
  userSupplyInP2P : l.userSupplyInP2P.val < b
  userBorrowInP2P : l.userBorrowInP2P.val < b

theorem balanceBound_room : 2 * balanceBound + 2 < valueBound := by decide

theorem rayMul_room : Nat.pow 2 131 + balanceBound + 2 < valueBound := by decide


/-! ## 3. The parts of an operation -/

namespace Work

variable (w : Work) (x : Word)

theorem matchable_le_counterpart (c : Word) : w.matchable x c ≤ c := by
  unfold matchable
  split
  · exact Nat.zero_le _
  · exact Word.min_le_right _ _

theorem ledger_promoteBorrowers_supplyOnPool :
    (w.promoteBorrowers x).ledger.layerSupplyOnPool = w.ledger.layerSupplyOnPool ∧
      (w.promoteBorrowers x).ledger.userSupplyOnPool = w.ledger.userSupplyOnPool := by
  rw [ledger_promoteBorrowers]
  split <;> exact ⟨rfl, rfl⟩

theorem ledger_promoteSuppliers_borrowOnPool :
    (w.promoteSuppliers x).ledger.layerBorrowOnPool = w.ledger.layerBorrowOnPool ∧
      (w.promoteSuppliers x).ledger.userBorrowOnPool = w.ledger.userBorrowOnPool := by
  rw [ledger_promoteSuppliers]
  split <;> exact ⟨rfl, rfl⟩

variable {w x}

/-- Supplying on the pool moves the supply side by the amount, to within one conversion at the
pool index. -/
theorem worth_supplyPool (hidx : w.market.indexes.InRange)
    (hlayer : w.ledger.layerSupplyOnPool.val + x.val + 1 < valueBound)
    (huser : w.ledger.userSupplyOnPool.val + x.val + 1 < valueBound) :
    Worth.Near (w.supplyPool x).worth (w.worth + Worth.supplied x.val)
      ⟨w.market.indexes.supply.poolError, 0, 0, w.market.indexes.supply.poolError, 0, 0⟩ := by
  have hs := hidx.supply
  have hl := near_add_rayDiv hlayer hs.pool_ge hs.pool_lt
  have hu := near_add_rayDiv huser hs.pool_ge hs.pool_lt
  unfold Work.worth
  rw [ledger_supplyPool, (quiet_supplyPool _ _).indexes]
  refine ⟨?_, ?_, ?_, ?_, ?_, ?_⟩ <;>
  · simp only [Ledger.worth, Worth.add_supply, Worth.add_borrow, Worth.add_collateral,
      Worth.add_userSupply, Worth.add_userBorrow, Worth.add_userCollateral, Worth.supplied,
      SideIndexes.poolError, roundingError, PeerLending.Near] at *
    omega

/-- Promoting pool borrowers against a supplier moves the supply side by the amount; the debt
the borrowers take off the pool they take on peer-to-peer. -/
theorem worth_promoteBorrowers (hidx : w.market.indexes.InRange)
    (hcov : x ≤ rayMul w.ledger.layerBorrowOnPool w.market.indexes.borrow.poolIndex)
    (hpool : w.ledger.layerBorrowOnPool.val < valueBound) (hx : x.val < valueBound)
    (hs2 : w.ledger.supplyInP2P.val + x.val + 1 < valueBound)
    (hb2 : w.ledger.borrowInP2P.val + x.val + 1 < valueBound)
    (hu2 : w.ledger.userSupplyInP2P.val + x.val + 1 < valueBound) :
    Worth.Near (w.promoteBorrowers x).worth (w.worth + Worth.supplied x.val)
      ⟨w.market.indexes.supply.p2pError,
        w.market.indexes.borrow.poolError + w.market.indexes.borrow.p2pError, 0,
        w.market.indexes.supply.p2pError, 0, 0⟩ := by
  have hs := hidx.supply
  have hb := hidx.borrow
  unfold Work.worth
  rw [ledger_promoteBorrowers, (quiet_promoteBorrowers _ _).indexes]
  split
  · -- nothing to promote
    rename_i h0
    have e1 := w.market.indexes.supply.p2pError_nonneg
    have e2 := w.market.indexes.borrow.poolError_nonneg
    have e3 := w.market.indexes.borrow.p2pError_nonneg
    refine ⟨?_, ?_, ?_, ?_, ?_, ?_⟩ <;>
    · simp only [Ledger.worth, Worth.add_supply, Worth.add_borrow, Worth.add_collateral,
        Worth.add_userSupply, Worth.add_userBorrow, Worth.add_userCollateral, Worth.supplied,
        PeerLending.Near, h0]
      omega
  · have n1 := near_add_rayDiv hs2 hs.p2p_ge hs.p2p_lt
    have n2 := near_add_rayDiv hb2 hb.p2p_ge hb.p2p_lt
    have n3 := near_add_rayDiv hu2 hs.p2p_ge hs.p2p_lt
    have n4 := near_removeScaled hcov hpool hx hb.pool_ge hb.pool_lt
    refine ⟨?_, ?_, ?_, ?_, ?_, ?_⟩ <;>
    · simp only [Ledger.worth, Worth.add_supply, Worth.add_borrow, Worth.add_collateral,
        Worth.add_userSupply, Worth.add_userBorrow, Worth.add_userCollateral, Worth.supplied,
        SideIndexes.poolError, SideIndexes.p2pError, roundingError, PeerLending.Near] at *
      omega

/-- Borrowing from the pool moves the debt side by the amount, to within one conversion at the
pool index. -/
theorem worth_borrowPool (hidx : w.market.indexes.InRange)
    (hlayer : w.ledger.layerBorrowOnPool.val + x.val + 1 < valueBound)
    (huser : w.ledger.userBorrowOnPool.val + x.val + 1 < valueBound) :
    Worth.Near (w.borrowPool x).worth (w.worth + Worth.borrowed x.val)
      ⟨0, w.market.indexes.borrow.poolError, 0, 0, w.market.indexes.borrow.poolError, 0⟩ := by
  have hb := hidx.borrow
  have hl := near_add_rayDiv hlayer hb.pool_ge hb.pool_lt
  have hu := near_add_rayDiv huser hb.pool_ge hb.pool_lt
  unfold Work.worth
  rw [ledger_borrowPool, (quiet_borrowPool _ _).indexes]
  refine ⟨?_, ?_, ?_, ?_, ?_, ?_⟩ <;>
  · simp only [Ledger.worth, Worth.add_supply, Worth.add_borrow, Worth.add_collateral,
      Worth.add_userSupply, Worth.add_userBorrow, Worth.add_userCollateral, Worth.borrowed,
      SideIndexes.poolError, roundingError, PeerLending.Near] at *
    omega

/-- Promoting pool suppliers against a borrower moves the debt side by the amount; the supply
they take off the pool they hold peer-to-peer. -/
theorem worth_promoteSuppliers (hidx : w.market.indexes.InRange)
    (hcov : x ≤ rayMul w.ledger.layerSupplyOnPool w.market.indexes.supply.poolIndex)
    (hpool : w.ledger.layerSupplyOnPool.val < valueBound) (hx : x.val < valueBound)
    (hs2 : w.ledger.supplyInP2P.val + x.val + 1 < valueBound)
    (hb2 : w.ledger.borrowInP2P.val + x.val + 1 < valueBound)
    (hu2 : w.ledger.userBorrowInP2P.val + x.val + 1 < valueBound) :
    Worth.Near (w.promoteSuppliers x).worth (w.worth + Worth.borrowed x.val)
      ⟨w.market.indexes.supply.poolError + w.market.indexes.supply.p2pError,
        w.market.indexes.borrow.p2pError, 0, 0, w.market.indexes.borrow.p2pError, 0⟩ := by
  have hs := hidx.supply
  have hb := hidx.borrow
  unfold Work.worth
  rw [ledger_promoteSuppliers, (quiet_promoteSuppliers _ _).indexes]
  split
  · -- nothing to promote
    rename_i h0
    have e1 := w.market.indexes.supply.poolError_nonneg
    have e2 := w.market.indexes.supply.p2pError_nonneg
    have e3 := w.market.indexes.borrow.p2pError_nonneg
    refine ⟨?_, ?_, ?_, ?_, ?_, ?_⟩ <;>
    · simp only [Ledger.worth, Worth.add_supply, Worth.add_borrow, Worth.add_collateral,
        Worth.add_userSupply, Worth.add_userBorrow, Worth.add_userCollateral, Worth.borrowed,
        PeerLending.Near, h0]
      omega
  · have n1 := near_add_rayDiv hs2 hs.p2p_ge hs.p2p_lt
    have n2 := near_add_rayDiv hb2 hb.p2p_ge hb.p2p_lt
    have n3 := near_add_rayDiv hu2 hb.p2p_ge hb.p2p_lt
    have n4 := near_removeScaled hcov hpool hx hs.pool_ge hs.pool_lt
    refine ⟨?_, ?_, ?_, ?_, ?_, ?_⟩ <;>
    · simp only [Ledger.worth, Worth.add_supply, Worth.add_borrow, Worth.add_collateral,
        Worth.add_userSupply, Worth.add_userBorrow, Worth.add_userCollateral, Worth.borrowed,
        SideIndexes.poolError, SideIndexes.p2pError, roundingError, PeerLending.Near] at *
      omega

/-- Repaying pool debt moves the debt side down by the amount: the user's pool debt and the
layer's, which holds it. -/
theorem worth_repayPool (hidx : w.market.indexes.InRange)
    (hx : x ≤ rayMul w.ledger.userBorrowOnPool w.market.indexes.borrow.poolIndex)
    (hheld : w.ledger.userBorrowOnPool ≤ w.ledger.layerBorrowOnPool)
    (hlayer : w.ledger.layerBorrowOnPool.val < valueBound) (hxb : x.val < valueBound) :
    Worth.Near (w.repayPool x).worth (w.worth + Worth.borrowed (-x.val))
      ⟨0, w.market.indexes.borrow.poolError, 0, 0, w.market.indexes.borrow.poolError, 0⟩ := by
  have hb := hidx.borrow
  have huser : w.ledger.userBorrowOnPool.val < valueBound := Nat.lt_of_le_of_lt hheld hlayer
  have e := w.market.indexes.borrow.poolError_nonneg
  unfold Work.worth
  rw [ledger_repayPool, (quiet_repayPool _ _).indexes]
  split
  · -- nothing to repay
    rename_i h0
    refine ⟨?_, ?_, ?_, ?_, ?_, ?_⟩ <;>
    · simp only [Ledger.worth, Worth.add_supply, Worth.add_borrow, Worth.add_collateral,
        Worth.add_userSupply, Worth.add_userBorrow, Worth.add_userCollateral, Worth.borrowed,
        PeerLending.Near, h0]
      omega
  · -- the scaled debt the user gives up leaves the layer's aggregate too
    have hcov := Nat.le_trans (removeScaled_split w.ledger.userBorrowOnPool x
      w.market.indexes.borrow.poolIndex).1 hheld
    have n1 := near_removeScaled hx huser hxb hb.pool_ge hb.pool_lt
    have n2 := near_zeroFloorSub_removed hx hcov huser hlayer hxb hb.pool_ge hb.pool_lt
    refine ⟨?_, ?_, ?_, ?_, ?_, ?_⟩ <;>
    · simp only [Ledger.worth, Worth.add_supply, Worth.add_borrow, Worth.add_collateral,
        Worth.add_userSupply, Worth.add_userBorrow, Worth.add_userCollateral, Worth.borrowed,
        SideIndexes.poolError, roundingError, PeerLending.Near] at *
      omega

/-- Withdrawing pool supply moves the supply side down by the amount: the user's pool supply
and the layer's, which holds it. -/
theorem worth_withdrawPool (hidx : w.market.indexes.InRange)
    (hx : x ≤ rayMul w.ledger.userSupplyOnPool w.market.indexes.supply.poolIndex)
    (hheld : w.ledger.userSupplyOnPool ≤ w.ledger.layerSupplyOnPool)
    (hlayer : w.ledger.layerSupplyOnPool.val < valueBound) (hxb : x.val < valueBound) :
    Worth.Near (w.withdrawPool x).worth (w.worth + Worth.supplied (-x.val))
      ⟨w.market.indexes.supply.poolError, 0, 0, w.market.indexes.supply.poolError, 0, 0⟩ := by
  have hs := hidx.supply
  have huser : w.ledger.userSupplyOnPool.val < valueBound := Nat.lt_of_le_of_lt hheld hlayer
  have e := w.market.indexes.supply.poolError_nonneg
  unfold Work.worth
  rw [ledger_withdrawPool, (quiet_withdrawPool _ _).indexes]
  split
  · -- nothing to withdraw
    rename_i h0
    refine ⟨?_, ?_, ?_, ?_, ?_, ?_⟩ <;>
    · simp only [Ledger.worth, Worth.add_supply, Worth.add_borrow, Worth.add_collateral,
        Worth.add_userSupply, Worth.add_userBorrow, Worth.add_userCollateral, Worth.supplied,
        PeerLending.Near, h0]
      omega
  · -- the scaled supply the user gives up leaves the layer's aggregate too
    have hcov := Nat.le_trans (removeScaled_split w.ledger.userSupplyOnPool x
      w.market.indexes.supply.poolIndex).1 hheld
    have n1 := near_removeScaled hx huser hxb hs.pool_ge hs.pool_lt
    have n2 := near_zeroFloorSub_removed hx hcov huser hlayer hxb hs.pool_ge hs.pool_lt
    refine ⟨?_, ?_, ?_, ?_, ?_, ?_⟩ <;>
    · simp only [Ledger.worth, Worth.add_supply, Worth.add_borrow, Worth.add_collateral,
        Worth.add_userSupply, Worth.add_userBorrow, Worth.add_userCollateral, Worth.supplied,
        SideIndexes.poolError, roundingError, PeerLending.Near] at *
      omega

/-- Releasing peer-to-peer debt moves the user's debt down by the amount, and nothing else. -/
theorem worth_releaseBorrowInP2P (hidx : w.market.indexes.InRange)
    (hx : x ≤ rayMul w.ledger.userBorrowInP2P w.market.indexes.borrow.p2pIndex)
    (huser : w.ledger.userBorrowInP2P.val < valueBound) (hxb : x.val < valueBound) :
    Worth.Near (w.releaseBorrowInP2P x).worth (w.worth + ⟨0, 0, 0, 0, -x.val, 0⟩)
      ⟨0, 0, 0, 0, w.market.indexes.borrow.p2pError, 0⟩ := by
  have hb := hidx.borrow
  have n := near_removeScaled hx huser hxb hb.p2p_ge hb.p2p_lt
  unfold Work.worth
  rw [ledger_releaseBorrowInP2P, (quiet_releaseBorrowInP2P _ _).indexes]
  refine ⟨?_, ?_, ?_, ?_, ?_, ?_⟩ <;>
  · simp only [Ledger.worth, Worth.add_supply, Worth.add_borrow, Worth.add_collateral,
      Worth.add_userSupply, Worth.add_userBorrow, Worth.add_userCollateral,
      SideIndexes.p2pError, roundingError, PeerLending.Near] at *
    omega

/-- Releasing peer-to-peer supply moves the user's supply down by the amount, and nothing
else. -/
theorem worth_releaseSupplyInP2P (hidx : w.market.indexes.InRange)
    (hx : x ≤ rayMul w.ledger.userSupplyInP2P w.market.indexes.supply.p2pIndex)
    (huser : w.ledger.userSupplyInP2P.val < valueBound) (hxb : x.val < valueBound) :
    Worth.Near (w.releaseSupplyInP2P x).worth (w.worth + ⟨0, 0, 0, -x.val, 0, 0⟩)
      ⟨0, 0, 0, w.market.indexes.supply.p2pError, 0, 0⟩ := by
  have hs := hidx.supply
  have n := near_removeScaled hx huser hxb hs.p2p_ge hs.p2p_lt
  unfold Work.worth
  rw [ledger_releaseSupplyInP2P, (quiet_releaseSupplyInP2P _ _).indexes]
  refine ⟨?_, ?_, ?_, ?_, ?_, ?_⟩ <;>
  · simp only [Ledger.worth, Worth.add_supply, Worth.add_borrow, Worth.add_collateral,
      Worth.add_userSupply, Worth.add_userBorrow, Worth.add_userCollateral,
      SideIndexes.p2pError, roundingError, PeerLending.Near] at *
    omega

/-- Backfilling freed peer-to-peer debt with pool borrowers moves the layer's pool debt down by
the amount. -/
theorem worth_backfillBorrowers (hidx : w.market.indexes.InRange)
    (hx : x ≤ rayMul w.ledger.layerBorrowOnPool w.market.indexes.borrow.poolIndex)
    (hlayer : w.ledger.layerBorrowOnPool.val < valueBound) (hxb : x.val < valueBound) :
    Worth.Near (w.backfillBorrowers x).worth (w.worth + ⟨0, -x.val, 0, 0, 0, 0⟩)
      ⟨0, w.market.indexes.borrow.poolError, 0, 0, 0, 0⟩ := by
  have hb := hidx.borrow
  have e := w.market.indexes.borrow.poolError_nonneg
  unfold Work.worth
  rw [ledger_backfillBorrowers, (quiet_backfillBorrowers _ _).indexes]
  split
  · -- nothing to backfill
    rename_i h0
    refine ⟨?_, ?_, ?_, ?_, ?_, ?_⟩ <;>
    · simp only [Ledger.worth, Worth.add_supply, Worth.add_borrow, Worth.add_collateral,
        Worth.add_userSupply, Worth.add_userBorrow, Worth.add_userCollateral,
        PeerLending.Near, h0]
      omega
  · have n := near_removeScaled hx hlayer hxb hb.pool_ge hb.pool_lt
    refine ⟨?_, ?_, ?_, ?_, ?_, ?_⟩ <;>
    · simp only [ledger_removeBorrowOnPool, Ledger.worth, Worth.add_supply, Worth.add_borrow,
        Worth.add_collateral, Worth.add_userSupply, Worth.add_userBorrow,
        Worth.add_userCollateral, SideIndexes.poolError, roundingError, PeerLending.Near] at *
      omega

/-- Backfilling freed peer-to-peer supply with pool suppliers moves the layer's pool supply down
by the amount. -/
theorem worth_backfillSuppliers (hidx : w.market.indexes.InRange)
    (hx : x ≤ rayMul w.ledger.layerSupplyOnPool w.market.indexes.supply.poolIndex)
    (hlayer : w.ledger.layerSupplyOnPool.val < valueBound) (hxb : x.val < valueBound) :
    Worth.Near (w.backfillSuppliers x).worth (w.worth + ⟨-x.val, 0, 0, 0, 0, 0⟩)
      ⟨w.market.indexes.supply.poolError, 0, 0, 0, 0, 0⟩ := by
  have hs := hidx.supply
  have e := w.market.indexes.supply.poolError_nonneg
  unfold Work.worth
  rw [ledger_backfillSuppliers, (quiet_backfillSuppliers _ _).indexes]
  split
  · -- nothing to backfill
    rename_i h0
    refine ⟨?_, ?_, ?_, ?_, ?_, ?_⟩ <;>
    · simp only [Ledger.worth, Worth.add_supply, Worth.add_borrow, Worth.add_collateral,
        Worth.add_userSupply, Worth.add_userBorrow, Worth.add_userCollateral,
        PeerLending.Near, h0]
      omega
  · have n := near_removeScaled hx hlayer hxb hs.pool_ge hs.pool_lt
    refine ⟨?_, ?_, ?_, ?_, ?_, ?_⟩ <;>
    · simp only [ledger_removeSupplyOnPool, Ledger.worth, Worth.add_supply, Worth.add_borrow,
        Worth.add_collateral, Worth.add_userSupply, Worth.add_userBorrow,
        Worth.add_userCollateral, SideIndexes.poolError, roundingError, PeerLending.Near] at *
      omega

/-- Demoting peer-to-peer suppliers moves their supply from peer-to-peer to the pool, and the
debt they were matched with out of the peer-to-peer total: the debt side moves down by the
amount, the supply side stays. -/
theorem worth_demoteSuppliers (hidx : w.market.indexes.InRange)
    (hs2 : x ≤ rayMul w.ledger.supplyInP2P w.market.indexes.supply.p2pIndex)
    (hb2 : x ≤ rayMul w.ledger.borrowInP2P w.market.indexes.borrow.p2pIndex)
    (hsb : w.ledger.supplyInP2P.val < valueBound) (hbb : w.ledger.borrowInP2P.val < valueBound)
    (hpool : w.ledger.layerSupplyOnPool.val + x.val + 1 < valueBound) :
    Worth.Near (w.demoteSuppliers x).worth (w.worth + ⟨0, -x.val, 0, 0, 0, 0⟩)
      ⟨w.market.indexes.supply.poolError + w.market.indexes.supply.p2pError,
        w.market.indexes.borrow.p2pError, 0, 0, 0, 0⟩ := by
  have hs := hidx.supply
  have hb := hidx.borrow
  have hxb : x.val < valueBound := by omega
  have e1 := w.market.indexes.supply.poolError_nonneg
  have e2 := w.market.indexes.supply.p2pError_nonneg
  have e3 := w.market.indexes.borrow.p2pError_nonneg
  unfold Work.worth
  rw [ledger_demoteSuppliers, (quiet_demoteSuppliers _ _).indexes]
  split
  · -- nothing to demote
    rename_i h0
    refine ⟨?_, ?_, ?_, ?_, ?_, ?_⟩ <;>
    · simp only [Ledger.worth, Worth.add_supply, Worth.add_borrow, Worth.add_collateral,
        Worth.add_userSupply, Worth.add_userBorrow, Worth.add_userCollateral,
        PeerLending.Near, h0]
      omega
  · -- both peer-to-peer totals are worth the amount, so neither stops at zero
    have n1 := near_zeroFloorSub_rayDiv
      (rayDiv_le_of_le_rayMul hs2 hsb hxb hs.p2p_ge hs.p2p_lt) hsb hxb hs.p2p_ge hs.p2p_lt
    have n2 := near_zeroFloorSub_rayDiv
      (rayDiv_le_of_le_rayMul hb2 hbb hxb hb.p2p_ge hb.p2p_lt) hbb hxb hb.p2p_ge hb.p2p_lt
    have n3 := near_add_rayDiv hpool hs.pool_ge hs.pool_lt
    refine ⟨?_, ?_, ?_, ?_, ?_, ?_⟩ <;>
    · simp only [Ledger.worth, Worth.add_supply, Worth.add_borrow, Worth.add_collateral,
        Worth.add_userSupply, Worth.add_userBorrow, Worth.add_userCollateral,
        SideIndexes.poolError, SideIndexes.p2pError, roundingError, PeerLending.Near] at *
      omega

/-- Demoting peer-to-peer borrowers moves their debt from peer-to-peer to the pool, and the
supply they were matched with out of the peer-to-peer total: the supply side moves down by the
amount, the debt side stays. -/
theorem worth_demoteBorrowers (hidx : w.market.indexes.InRange)
    (hs2 : x ≤ rayMul w.ledger.supplyInP2P w.market.indexes.supply.p2pIndex)
    (hb2 : x ≤ rayMul w.ledger.borrowInP2P w.market.indexes.borrow.p2pIndex)
    (hsb : w.ledger.supplyInP2P.val < valueBound) (hbb : w.ledger.borrowInP2P.val < valueBound)
    (hpool : w.ledger.layerBorrowOnPool.val + x.val + 1 < valueBound) :
    Worth.Near (w.demoteBorrowers x).worth (w.worth + ⟨-x.val, 0, 0, 0, 0, 0⟩)
      ⟨w.market.indexes.supply.p2pError,
        w.market.indexes.borrow.poolError + w.market.indexes.borrow.p2pError, 0, 0, 0, 0⟩ := by
  have hs := hidx.supply
  have hb := hidx.borrow
  have hxb : x.val < valueBound := by omega
  have e1 := w.market.indexes.supply.p2pError_nonneg
  have e2 := w.market.indexes.borrow.poolError_nonneg
  have e3 := w.market.indexes.borrow.p2pError_nonneg
  unfold Work.worth
  rw [ledger_demoteBorrowers, (keepsAmount_demoteBorrowers _ _).indexes]
  split
  · -- nothing to demote
    rename_i h0
    refine ⟨?_, ?_, ?_, ?_, ?_, ?_⟩ <;>
    · simp only [Ledger.worth, Worth.add_supply, Worth.add_borrow, Worth.add_collateral,
        Worth.add_userSupply, Worth.add_userBorrow, Worth.add_userCollateral,
        PeerLending.Near, h0]
      omega
  · -- both peer-to-peer totals are worth the amount, so neither stops at zero
    have n1 := near_zeroFloorSub_rayDiv
      (rayDiv_le_of_le_rayMul hs2 hsb hxb hs.p2p_ge hs.p2p_lt) hsb hxb hs.p2p_ge hs.p2p_lt
    have n2 := near_zeroFloorSub_rayDiv
      (rayDiv_le_of_le_rayMul hb2 hbb hxb hb.p2p_ge hb.p2p_lt) hbb hxb hb.p2p_ge hb.p2p_lt
    have n3 := near_add_rayDiv hpool hb.pool_ge hb.pool_lt
    refine ⟨?_, ?_, ?_, ?_, ?_, ?_⟩ <;>
    · simp only [Ledger.worth, Worth.add_supply, Worth.add_borrow, Worth.add_collateral,
        Worth.add_userSupply, Worth.add_userBorrow, Worth.add_userCollateral,
        SideIndexes.poolError, SideIndexes.p2pError, roundingError, PeerLending.Near] at *
      omega

/-- The worth reads the ledger and the indexes only. -/
theorem worth_congr {v : Work} (hl : v.ledger = w.ledger) (hi : v.market.indexes = w.market.indexes) :
    v.worth = w.worth := by
  unfold worth
  rw [hl, hi]

end Work

/-! ## 4. Operations -/

namespace Work

variable {w : Work} {a : Word}

theorem supplied_split {m a : Word} (h : m ≤ a) :
    Worth.supplied m.val + Worth.supplied (a - m).val = Worth.supplied a.val := by
  have hs := Word.val_sub_of_le h
  have hle := Word.le_iff_val_le.1 h
  ext <;> simp only [Worth.supplied, Worth.add_supply, Worth.add_borrow, Worth.add_collateral,
    Worth.add_userSupply, Worth.add_userBorrow, Worth.add_userCollateral] <;> omega

theorem borrowed_split {m a : Word} (h : m ≤ a) :
    Worth.borrowed m.val + Worth.borrowed (a - m).val = Worth.borrowed a.val := by
  have hs := Word.val_sub_of_le h
  have hle := Word.le_iff_val_le.1 h
  ext <;> simp only [Worth.borrowed, Worth.add_supply, Worth.add_borrow, Worth.add_collateral,
    Worth.add_userSupply, Worth.add_userBorrow, Worth.add_userCollateral] <;> omega

/-- The liquidity moves no balance. -/
theorem worth_withLiquidity (v : Work) (f : Word → Word) : (v.withLiquidity f).worth = v.worth :=
  rfl

/-- Paying the amount out moves no balance. -/
theorem worth_payOut (v : Work) (a : Word) : (v.payOut a).worth = v.worth :=
  worth_congr (ledger_payOut v a) (quiet_payOut v a).indexes

/-- A supply moves the supply side by its amount: what it does not match with pool borrowers it
supplies on the pool. -/
theorem worth_supply (hidx : w.market.indexes.InRange) (hb : w.ledger.Below balanceBound)
    (ha : a.val < balanceBound) :
    Worth.Near (w.supply a).worth (w.worth + Worth.supplied a.val) w.market.indexes.slack := by
  unfold supply
  dsimp only
  rw [worth_withLiquidity]
  -- the wallet and the cap are checked before anything moves
  let w₁ := (({ w with amount := a } : Work).debitWallet a).checkSupplyCap a
  have hl₁ : w₁.ledger = w.ledger := by simp [w₁]
  have hi₁ : w₁.market.indexes = w.market.indexes :=
    ((keepsAmount_debitWallet _ a).trans (keepsAmount_checkSupplyCap _ a)).indexes
  let m := w₁.matchable a w₁.protocolBorrowOnPool
  have hma : m ≤ a := matchable_le w₁ a _
  have hmc : m ≤ rayMul w₁.ledger.layerBorrowOnPool w₁.market.indexes.borrow.poolIndex :=
    matchable_le_counterpart _ _ _
  have hroom := balanceBound_room
  have hidx₁ : w₁.market.indexes.InRange := hi₁ ▸ hidx
  have hp := worth_promoteBorrowers hidx₁ hmc
    (by rw [hl₁]; exact Nat.lt_trans hb.layerBorrowOnPool (by decide))
    (by rw [Word.le_iff_val_le] at hma; omega)
    (by rw [hl₁]; have := hb.supplyInP2P; rw [Word.le_iff_val_le] at hma; omega)
    (by rw [hl₁]; have := hb.borrowInP2P; rw [Word.le_iff_val_le] at hma; omega)
    (by rw [hl₁]; have := hb.userSupplyInP2P; rw [Word.le_iff_val_le] at hma; omega)
  have hrest : (a - m).val ≤ a.val := Word.sub_le_self hma
  have hs := worth_supplyPool (w := w₁.promoteBorrowers m) (x := a - m)
    (by rw [(quiet_promoteBorrowers _ _).indexes]; exact hidx₁)
    (by rw [(ledger_promoteBorrowers_supplyOnPool w₁ m).1, hl₁]
        have := hb.layerSupplyOnPool; omega)
    (by rw [(ledger_promoteBorrowers_supplyOnPool w₁ m).2, hl₁]
        have := hb.userSupplyOnPool; omega)
  have hmove := hp.then hs
  rw [supplied_split hma, worth_congr hl₁ hi₁, (quiet_promoteBorrowers _ _).indexes, hi₁] at hmove
  have e1 := w.market.indexes.supply.poolError_nonneg
  have e2 := w.market.indexes.supply.p2pError_nonneg
  have e3 := w.market.indexes.borrow.poolError_nonneg
  have e4 := w.market.indexes.borrow.p2pError_nonneg
  refine hmove.mono ?_ ?_ ?_ ?_ ?_ ?_ <;>
  · simp only [Indexes.slack, Worth.add_supply, Worth.add_borrow, Worth.add_collateral,
      Worth.add_userSupply, Worth.add_userBorrow, Worth.add_userCollateral]
    omega


/-- A borrow moves the debt side by its amount: what it does not match with pool suppliers it
borrows from the pool. -/
theorem worth_borrow (hidx : w.market.indexes.InRange) (hb : w.ledger.Below balanceBound)
    (ha : a.val < balanceBound) (headroom : Word) :
    Worth.Near (w.borrow a headroom).worth (w.worth + Worth.borrowed a.val)
      w.market.indexes.slack := by
  -- the amount is paid out last, and neither the payment nor the liquidity is a balance
  unfold borrow
  dsimp only
  rw [worth_payOut, worth_withLiquidity]
  -- the headroom, the liquidity and the cap are checked before anything moves
  let w₁ := ((({ w with amount := a } : Work).noteIf (decide (headroom < a))
    .collateralCapacityReached).checkLiquidity a).checkBorrowCap a
  have hl₁ : w₁.ledger = w.ledger := by simp [w₁]
  have hi₁ : w₁.market.indexes = w.market.indexes :=
    (((keepsAmount_noteIf _ _ _).trans (keepsAmount_checkLiquidity _ a)).trans
      (keepsAmount_checkBorrowCap _ a)).indexes
  let m := w₁.matchable a w₁.protocolSupplyOnPool
  have hma : m ≤ a := matchable_le w₁ a _
  have hmc : m ≤ rayMul w₁.ledger.layerSupplyOnPool w₁.market.indexes.supply.poolIndex :=
    matchable_le_counterpart _ _ _
  have hroom := balanceBound_room
  have hidx₁ : w₁.market.indexes.InRange := hi₁ ▸ hidx
  have hp := worth_promoteSuppliers hidx₁ hmc
    (by rw [hl₁]; exact Nat.lt_trans hb.layerSupplyOnPool (by decide))
    (by rw [Word.le_iff_val_le] at hma; omega)
    (by rw [hl₁]; have := hb.supplyInP2P; rw [Word.le_iff_val_le] at hma; omega)
    (by rw [hl₁]; have := hb.borrowInP2P; rw [Word.le_iff_val_le] at hma; omega)
    (by rw [hl₁]; have := hb.userBorrowInP2P; rw [Word.le_iff_val_le] at hma; omega)
  have hrest : (a - m).val ≤ a.val := Word.sub_le_self hma
  have hs := worth_borrowPool (w := w₁.promoteSuppliers m) (x := a - m)
    (by rw [(quiet_promoteSuppliers _ _).indexes]; exact hidx₁)
    (by rw [(ledger_promoteSuppliers_borrowOnPool w₁ m).1, hl₁]
        have := hb.layerBorrowOnPool; omega)
    (by rw [(ledger_promoteSuppliers_borrowOnPool w₁ m).2, hl₁]
        have := hb.userBorrowOnPool; omega)
  have hmove := hp.then hs
  rw [borrowed_split hma, worth_congr hl₁ hi₁, (quiet_promoteSuppliers _ _).indexes, hi₁] at hmove
  have e1 := w.market.indexes.supply.poolError_nonneg
  have e2 := w.market.indexes.supply.p2pError_nonneg
  have e3 := w.market.indexes.borrow.poolError_nonneg
  have e4 := w.market.indexes.borrow.p2pError_nonneg
  refine hmove.mono ?_ ?_ ?_ ?_ ?_ ?_ <;>
  · simp only [Indexes.slack, Worth.add_supply, Worth.add_borrow, Worth.add_collateral,
      Worth.add_userSupply, Worth.add_userBorrow, Worth.add_userCollateral]
    omega

end Work

/-! ## 5. Paying back and taking out

A repayment or a withdrawal takes the pool balance first and then the peer-to-peer one. Past
the pool balance, the counterparties the user leaves are matched again with the pool or sent
back to it: that keeps the other side's worth only if its peer-to-peer total holds what is sent
back, which is what `Ledger.Covered` asks. -/

/-- The user's balances are held in the layer's aggregates, and the user's peer-to-peer balance
on each side is matched by the other side's peer-to-peer total. -/
structure Ledger.Covered (l : Ledger) (idx : Indexes) : Prop where
  held : l.Held
  borrowMatched :
    rayMul l.userBorrowInP2P idx.borrow.p2pIndex ≤ rayMul l.supplyInP2P idx.supply.p2pIndex
  supplyMatched :
    rayMul l.userSupplyInP2P idx.supply.p2pIndex ≤ rayMul l.borrowInP2P idx.borrow.p2pIndex

/-- Converting to native units keeps the order. -/
theorem rayMul_mono {s s' i : Word} (h : s ≤ s') : rayMul s i ≤ rayMul s' i :=
  mulDiv_mono .halfUp h (Nat.le_refl i.val)

/-- A native amount is far below the word's range: the product saturates below `wordSize`, and
a ray divides it. -/
theorem rayMul_val_lt (s i : Word) : (rayMul s i).val < Nat.pow 2 167 := by
  unfold rayMul
  rw [val_mulDiv_halfUp _ _ _ (by decide)]
  calc _ ≤ (wordSize - 1) / ray.val := Nat.div_le_div_right (by split <;> omega)
    _ < Nat.pow 2 167 := by decide

/-- Two converted amounts add up without a wrap. -/
theorem val_add_rayMul (s i s' i' : Word) :
    (rayMul s i + rayMul s' i').val = (rayMul s i).val + (rayMul s' i').val := by
  have h1 := rayMul_val_lt s i
  have h2 := rayMul_val_lt s' i'
  have h3 : Nat.pow 2 167 + Nat.pow 2 167 < wordSize := by decide
  exact Word.val_add_of_lt (by omega)

/-- A clamped amount is at most the balance it is clamped to. -/
theorem clamp_le_balance {d a : Word} : (if d < a then d else a).val ≤ d.val := by
  split
  · exact Nat.le_refl _
  · exact Nat.le_of_not_lt ‹¬d < a›

namespace Work

variable {w : Work} {x : Word} {b : Nat}

theorem below_repayPool (hb : w.ledger.Below b) : (w.repayPool x).ledger.Below b := by
  rw [ledger_repayPool]
  split
  · exact hb
  dsimp only
  have hsplit := removeScaled_split w.ledger.userBorrowOnPool x w.market.indexes.borrow.poolIndex
  generalize removeScaled w.ledger.userBorrowOnPool x w.market.indexes.borrow.poolIndex = rem at hsplit ⊢
  obtain ⟨h1, h2, h3, h4, h5, h6, h7, h8, h9, h10⟩ := hb
  refine ⟨h1, ?_, h3, h4, h5, h6, ?_, h8, h9, h10⟩ <;>
    simp only [zeroFloorSub, Word.val_satSub] <;> omega

theorem below_withdrawPool (hb : w.ledger.Below b) : (w.withdrawPool x).ledger.Below b := by
  rw [ledger_withdrawPool]
  split
  · exact hb
  dsimp only
  have hsplit := removeScaled_split w.ledger.userSupplyOnPool x w.market.indexes.supply.poolIndex
  generalize removeScaled w.ledger.userSupplyOnPool x w.market.indexes.supply.poolIndex = rem at hsplit ⊢
  obtain ⟨h1, h2, h3, h4, h5, h6, h7, h8, h9, h10⟩ := hb
  refine ⟨?_, h2, h3, h4, h5, ?_, h7, h8, h9, h10⟩ <;>
    simp only [zeroFloorSub, Word.val_satSub] <;> omega

theorem covered_repayPool (hc : w.ledger.Covered w.market.indexes) :
    (w.repayPool x).ledger.Covered w.market.indexes := by
  rw [ledger_repayPool]
  split
  · exact hc
  dsimp only
  have hsplit := removeScaled_split w.ledger.userBorrowOnPool x w.market.indexes.borrow.poolIndex
  obtain ⟨⟨h1, h2, h3, h4, h5⟩, h6, h7⟩ := hc
  refine ⟨⟨h1, ?_, h3, h4, h5⟩, h6, h7⟩
  simp only [Word.le_iff_val_le, zeroFloorSub, Word.val_satSub] at h2 ⊢
  omega

theorem covered_withdrawPool (hc : w.ledger.Covered w.market.indexes) :
    (w.withdrawPool x).ledger.Covered w.market.indexes := by
  rw [ledger_withdrawPool]
  split
  · exact hc
  dsimp only
  have hsplit := removeScaled_split w.ledger.userSupplyOnPool x w.market.indexes.supply.poolIndex
  obtain ⟨⟨h1, h2, h3, h4, h5⟩, h6, h7⟩ := hc
  refine ⟨⟨?_, h2, h3, h4, h5⟩, h6, h7⟩
  simp only [Word.le_iff_val_le, zeroFloorSub, Word.val_satSub] at h1 ⊢
  omega

/-- Repaying peer-to-peer debt moves the debt side down by the amount: the user's peer-to-peer
debt goes, pool borrowers take the freed matches as far as they go, and the suppliers left over
go back to the pool, taking their match out of the peer-to-peer debt. -/
theorem worth_repayP2P (hidx : w.market.indexes.InRange) (hb : w.ledger.Below balanceBound)
    (hc : w.ledger.Covered w.market.indexes)
    (hx : x ≤ rayMul w.ledger.userBorrowInP2P w.market.indexes.borrow.p2pIndex) :
    Worth.Near (w.repayP2P x).worth (w.worth + Worth.borrowed (-x.val))
      ⟨w.market.indexes.supply.poolError + w.market.indexes.supply.p2pError,
        w.market.indexes.borrow.poolError + w.market.indexes.borrow.p2pError, 0, 0,
        w.market.indexes.borrow.p2pError, 0⟩ := by
  have e1 := w.market.indexes.supply.poolError_nonneg
  have e2 := w.market.indexes.supply.p2pError_nonneg
  have e3 := w.market.indexes.borrow.poolError_nonneg
  have e4 := w.market.indexes.borrow.p2pError_nonneg
  unfold repayP2P
  split
  case isTrue h0 =>
    refine ⟨?_, ?_, ?_, ?_, ?_, ?_⟩ <;>
    · simp only [Worth.add_supply, Worth.add_borrow, Worth.add_collateral, Worth.add_userSupply,
        Worth.add_userBorrow, Worth.add_userCollateral, Worth.borrowed, PeerLending.Near, h0]
      omega
  case isFalse =>
    dsimp only
    have hroom := rayMul_room
    have hbal : balanceBound < valueBound := by decide
    have hxv : x.val < Nat.pow 2 131 :=
      Nat.lt_of_le_of_lt (Word.le_iff_val_le.1 hx) (rayMul_lt hb.userBorrowInP2P hidx.borrow.p2p_lt)
    have h₁ := worth_releaseBorrowInP2P hidx hx (by have := hb.userBorrowInP2P; omega) (by omega)
    -- pool borrowers take the freed matches, as far as they go
    have hpx := matchable_le (w.releaseBorrowInP2P x) x (w.releaseBorrowInP2P x).protocolBorrowOnPool
    have hpc := matchable_le_counterpart (w.releaseBorrowInP2P x) x
      (w.releaseBorrowInP2P x).protocolBorrowOnPool
    generalize (w.releaseBorrowInP2P x).matchable x (w.releaseBorrowInP2P x).protocolBorrowOnPool = p
      at hpx hpc ⊢
    have hp := Word.le_iff_val_le.1 hpx
    have h₂ := worth_backfillBorrowers (w := w.releaseBorrowInP2P x) (x := p) hidx hpc
      (by have := hb.layerBorrowOnPool; exact Nat.lt_trans this hbal) (by omega)
    rw [show (w.releaseBorrowInP2P x).market.indexes = w.market.indexes from rfl] at h₂
    -- the suppliers left over go back to the pool
    have hl₄ : ((w.releaseBorrowInP2P x).backfillBorrowers p).ledger.supplyInP2P = w.ledger.supplyInP2P ∧
        ((w.releaseBorrowInP2P x).backfillBorrowers p).ledger.borrowInP2P = w.ledger.borrowInP2P ∧
        ((w.releaseBorrowInP2P x).backfillBorrowers p).ledger.layerSupplyOnPool =
          w.ledger.layerSupplyOnPool := by
      rw [ledger_backfillBorrowers]
      split <;> exact ⟨rfl, rfl, rfl⟩
    have hi₄ : ((w.releaseBorrowInP2P x).backfillBorrowers p).market.indexes = w.market.indexes :=
      (quiet_backfillBorrowers _ _).indexes
    have hxp : x - p ≤ x := Word.sub_le_self hpx
    have hs2 : x - p ≤ rayMul ((w.releaseBorrowInP2P x).backfillBorrowers p).ledger.supplyInP2P
        ((w.releaseBorrowInP2P x).backfillBorrowers p).market.indexes.supply.p2pIndex := by
      rw [hl₄.1, hi₄]
      exact Nat.le_trans (Nat.le_trans hxp hx) hc.borrowMatched
    have hb2 : x - p ≤ rayMul ((w.releaseBorrowInP2P x).backfillBorrowers p).ledger.borrowInP2P
        ((w.releaseBorrowInP2P x).backfillBorrowers p).market.indexes.borrow.p2pIndex := by
      rw [hl₄.2.1, hi₄]
      exact Nat.le_trans (Nat.le_trans hxp hx) (rayMul_mono hc.held.borrowInP2P)
    have hxpv := Word.val_sub_of_le hpx
    have h₃ := worth_demoteSuppliers (hi₄ ▸ hidx) hs2 hb2
      (by rw [hl₄.1]; have := hb.supplyInP2P; omega) (by rw [hl₄.2.1]; have := hb.borrowInP2P; omega)
      (by rw [hl₄.2.2]; have := hb.layerSupplyOnPool; omega)
    rw [hi₄] at h₃
    have hmove := (h₁.then h₂).then h₃
    refine ⟨?_, ?_, ?_, ?_, ?_, ?_⟩ <;>
    · obtain ⟨m1, m2, m3, m4, m5, m6⟩ := hmove
      simp only [Worth.add_supply, Worth.add_borrow, Worth.add_collateral, Worth.add_userSupply,
        Worth.add_userBorrow, Worth.add_userCollateral, Worth.borrowed, PeerLending.Near,
        SideIndexes.poolError, SideIndexes.p2pError] at *
      omega

/-- Withdrawing peer-to-peer supply moves the supply side down by the amount: the user's
peer-to-peer supply goes, pool suppliers take the freed matches as far as they go, and the
borrowers left over go back to the pool, taking their match out of the peer-to-peer supply. -/
theorem worth_withdrawP2P (hidx : w.market.indexes.InRange) (hb : w.ledger.Below balanceBound)
    (hc : w.ledger.Covered w.market.indexes)
    (hx : x ≤ rayMul w.ledger.userSupplyInP2P w.market.indexes.supply.p2pIndex) :
    Worth.Near (w.withdrawP2P x).worth (w.worth + Worth.supplied (-x.val))
      ⟨w.market.indexes.supply.poolError + w.market.indexes.supply.p2pError,
        w.market.indexes.borrow.poolError + w.market.indexes.borrow.p2pError, 0,
        w.market.indexes.supply.p2pError, 0, 0⟩ := by
  have e1 := w.market.indexes.supply.poolError_nonneg
  have e2 := w.market.indexes.supply.p2pError_nonneg
  have e3 := w.market.indexes.borrow.poolError_nonneg
  have e4 := w.market.indexes.borrow.p2pError_nonneg
  unfold withdrawP2P
  split
  case isTrue h0 =>
    refine ⟨?_, ?_, ?_, ?_, ?_, ?_⟩ <;>
    · simp only [Worth.add_supply, Worth.add_borrow, Worth.add_collateral, Worth.add_userSupply,
        Worth.add_userBorrow, Worth.add_userCollateral, Worth.supplied, PeerLending.Near, h0]
      omega
  case isFalse =>
    dsimp only
    have hroom := rayMul_room
    have hbal : balanceBound < valueBound := by decide
    have hxv : x.val < Nat.pow 2 131 :=
      Nat.lt_of_le_of_lt (Word.le_iff_val_le.1 hx) (rayMul_lt hb.userSupplyInP2P hidx.supply.p2p_lt)
    have h₁ := worth_releaseSupplyInP2P hidx hx (by have := hb.userSupplyInP2P; omega) (by omega)
    -- pool suppliers take the freed matches, as far as they go
    have hpx := matchable_le (w.releaseSupplyInP2P x) x (w.releaseSupplyInP2P x).protocolSupplyOnPool
    have hpc := matchable_le_counterpart (w.releaseSupplyInP2P x) x
      (w.releaseSupplyInP2P x).protocolSupplyOnPool
    generalize (w.releaseSupplyInP2P x).matchable x (w.releaseSupplyInP2P x).protocolSupplyOnPool = p
      at hpx hpc ⊢
    have hp := Word.le_iff_val_le.1 hpx
    have h₂ := worth_backfillSuppliers (w := w.releaseSupplyInP2P x) (x := p) hidx hpc
      (by have := hb.layerSupplyOnPool; exact Nat.lt_trans this hbal) (by omega)
    rw [show (w.releaseSupplyInP2P x).market.indexes = w.market.indexes from rfl] at h₂
    -- the borrowers left over go back to the pool
    have hl₄ : ((w.releaseSupplyInP2P x).backfillSuppliers p).ledger.supplyInP2P = w.ledger.supplyInP2P ∧
        ((w.releaseSupplyInP2P x).backfillSuppliers p).ledger.borrowInP2P = w.ledger.borrowInP2P ∧
        ((w.releaseSupplyInP2P x).backfillSuppliers p).ledger.layerBorrowOnPool =
          w.ledger.layerBorrowOnPool := by
      rw [ledger_backfillSuppliers]
      split <;> exact ⟨rfl, rfl, rfl⟩
    have hi₄ : ((w.releaseSupplyInP2P x).backfillSuppliers p).market.indexes = w.market.indexes :=
      (quiet_backfillSuppliers _ _).indexes
    have hxp : x - p ≤ x := Word.sub_le_self hpx
    have hs2 : x - p ≤ rayMul ((w.releaseSupplyInP2P x).backfillSuppliers p).ledger.supplyInP2P
        ((w.releaseSupplyInP2P x).backfillSuppliers p).market.indexes.supply.p2pIndex := by
      rw [hl₄.1, hi₄]
      exact Nat.le_trans (Nat.le_trans hxp hx) (rayMul_mono hc.held.supplyInP2P)
    have hb2 : x - p ≤ rayMul ((w.releaseSupplyInP2P x).backfillSuppliers p).ledger.borrowInP2P
        ((w.releaseSupplyInP2P x).backfillSuppliers p).market.indexes.borrow.p2pIndex := by
      rw [hl₄.2.1, hi₄]
      exact Nat.le_trans (Nat.le_trans hxp hx) hc.supplyMatched
    have hxpv := Word.val_sub_of_le hpx
    have h₃ := worth_demoteBorrowers (hi₄ ▸ hidx) hs2 hb2
      (by rw [hl₄.1]; have := hb.supplyInP2P; omega) (by rw [hl₄.2.1]; have := hb.borrowInP2P; omega)
      (by rw [hl₄.2.2]; have := hb.layerBorrowOnPool; omega)
    rw [hi₄] at h₃
    have hmove := (h₁.then h₂).then h₃
    refine ⟨?_, ?_, ?_, ?_, ?_, ?_⟩ <;>
    · obtain ⟨m1, m2, m3, m4, m5, m6⟩ := hmove
      simp only [Worth.add_supply, Worth.add_borrow, Worth.add_collateral, Worth.add_userSupply,
        Worth.add_userBorrow, Worth.add_userCollateral, Worth.supplied, PeerLending.Near,
        SideIndexes.poolError, SideIndexes.p2pError] at *
      omega

/-- A repayment, from the work as it stands after the checks: pool debt first, then
peer-to-peer debt, the debt side down by the amount. -/
theorem worth_repayFrom {w₁ : Work} {l : Ledger} {idx : Indexes} {amt onPool : Word}
    (hl : w₁.ledger = l) (hi : w₁.market.indexes = idx) (hidx : idx.InRange)
    (hb : l.Below balanceBound) (hc : l.Covered idx)
    (hon : onPool = rayMul l.userBorrowOnPool idx.borrow.poolIndex)
    (hamt : amt.val ≤ onPool.val + (rayMul l.userBorrowInP2P idx.borrow.p2pIndex).val) :
    Worth.Near (((w₁.repayPool (Word.min amt onPool)).repayP2P
        (amt - Word.min amt onPool)).withLiquidity (· + amt)).worth
      (l.worth idx + Worth.borrowed (-amt.val)) idx.slack := by
  subst hl hi
  -- the liquidity is no balance
  rw [worth_withLiquidity]
  show Worth.Near _ (w₁.worth + Worth.borrowed (-amt.val)) w₁.market.indexes.slack
  have hbal : balanceBound < valueBound := by decide
  have hroom := rayMul_room
  -- what the pool part leaves for peer-to-peer is within the user's peer-to-peer debt
  have hmin := Word.min_le_right amt onPool
  have hsplit := Word.val_sub_of_le (Word.min_le_left amt onPool)
  have hma := Word.le_iff_val_le.1 (Word.min_le_left amt onPool)
  have hrest : (amt - Word.min amt onPool).val ≤
      (rayMul w₁.ledger.userBorrowInP2P w₁.market.indexes.borrow.p2pIndex).val := by
    rw [hsplit, Word.val_min]
    split <;> omega
  subst hon
  generalize Word.min amt (rayMul w₁.ledger.userBorrowOnPool
    w₁.market.indexes.borrow.poolIndex) = m at hmin hsplit hma hrest ⊢
  have hmv : m.val < Nat.pow 2 131 :=
    Nat.lt_of_le_of_lt hmin (rayMul_lt hb.userBorrowOnPool hidx.borrow.pool_lt)
  -- the pool debt goes first
  have h₁ := worth_repayPool hidx hmin hc.held.borrowOnPool
    (Nat.lt_trans hb.layerBorrowOnPool hbal) (by omega)
  -- then the peer-to-peer debt, which the pool part leaves as it was
  have hu : (w₁.repayPool m).ledger.userBorrowInP2P = w₁.ledger.userBorrowInP2P := by
    rw [ledger_repayPool]
    split <;> rfl
  have h₂ := worth_repayP2P (w := w₁.repayPool m) (x := amt - m)
    (by rw [(quiet_repayPool _ _).indexes]; exact hidx) (below_repayPool hb)
    (by rw [(quiet_repayPool _ _).indexes]; exact covered_repayPool hc)
    (by rw [hu, (quiet_repayPool _ _).indexes]; exact hrest)
  rw [(quiet_repayPool _ _).indexes] at h₂
  have hmove := h₁.then h₂
  have e1 := w₁.market.indexes.supply.poolError_nonneg
  have e2 := w₁.market.indexes.supply.p2pError_nonneg
  have e3 := w₁.market.indexes.borrow.poolError_nonneg
  have e4 := w₁.market.indexes.borrow.p2pError_nonneg
  refine ⟨?_, ?_, ?_, ?_, ?_, ?_⟩ <;>
  · obtain ⟨m1, m2, m3, m4, m5, m6⟩ := hmove
    simp only [Worth.add_supply, Worth.add_borrow, Worth.add_collateral, Worth.add_userSupply,
      Worth.add_userBorrow, Worth.add_userCollateral, Worth.borrowed, PeerLending.Near,
      Indexes.slack] at *
    omega

/-- A repayment moves the debt side down by the amount it repays, clamped to the debt. -/
theorem worth_repay (hidx : w.market.indexes.InRange) (hb : w.ledger.Below balanceBound)
    (hc : w.ledger.Covered w.market.indexes) :
    Worth.Near (w.repay x).worth (w.worth + Worth.borrowed (-(w.repay x).amount.val))
      w.market.indexes.slack := by
  rw [amount_repay]
  unfold repay
  dsimp only
  rw [clampToBalance_eq]
  exact worth_repayFrom (by simp [noteIf_eq]; rfl) (by simp [debitWallet, noteIf_eq]) hidx hb hc rfl
    (Nat.le_trans clamp_le_balance (Nat.le_of_eq (val_add_rayMul _ _ _ _)))

/-- A withdrawal, from the work as it stands after the checks: pool supply first, then
peer-to-peer supply, the supply side down by the amount. -/
theorem worth_withdrawFrom {w₁ : Work} {l : Ledger} {idx : Indexes} {amt onPool : Word}
    (hl : w₁.ledger = l) (hi : w₁.market.indexes = idx) (hidx : idx.InRange)
    (hb : l.Below balanceBound) (hc : l.Covered idx)
    (hon : onPool = rayMul l.userSupplyOnPool idx.supply.poolIndex)
    (hamt : amt.val ≤ onPool.val + (rayMul l.userSupplyInP2P idx.supply.p2pIndex).val) :
    Worth.Near ((((w₁.withdrawPool (Word.min amt onPool)).withdrawP2P
        (amt - Word.min amt onPool)).withLiquidity (zeroFloorSub · amt)).payOut amt).worth
      (l.worth idx + Worth.supplied (-amt.val)) idx.slack := by
  subst hl hi
  -- the liquidity and the payment are no balance
  rw [worth_payOut, worth_withLiquidity]
  show Worth.Near _ (w₁.worth + Worth.supplied (-amt.val)) w₁.market.indexes.slack
  have hbal : balanceBound < valueBound := by decide
  have hroom := rayMul_room
  -- what the pool part leaves for peer-to-peer is within the user's peer-to-peer supply
  have hmin := Word.min_le_right amt onPool
  have hsplit := Word.val_sub_of_le (Word.min_le_left amt onPool)
  have hma := Word.le_iff_val_le.1 (Word.min_le_left amt onPool)
  have hrest : (amt - Word.min amt onPool).val ≤
      (rayMul w₁.ledger.userSupplyInP2P w₁.market.indexes.supply.p2pIndex).val := by
    rw [hsplit, Word.val_min]
    split <;> omega
  subst hon
  generalize Word.min amt (rayMul w₁.ledger.userSupplyOnPool
    w₁.market.indexes.supply.poolIndex) = m at hmin hsplit hma hrest ⊢
  have hmv : m.val < Nat.pow 2 131 :=
    Nat.lt_of_le_of_lt hmin (rayMul_lt hb.userSupplyOnPool hidx.supply.pool_lt)
  -- the pool supply goes first
  have h₁ := worth_withdrawPool hidx hmin hc.held.supplyOnPool
    (Nat.lt_trans hb.layerSupplyOnPool hbal) (by omega)
  -- then the peer-to-peer supply, which the pool part leaves as it was
  have hu : (w₁.withdrawPool m).ledger.userSupplyInP2P = w₁.ledger.userSupplyInP2P := by
    rw [ledger_withdrawPool]
    split <;> rfl
  have h₂ := worth_withdrawP2P (w := w₁.withdrawPool m) (x := amt - m)
    (by rw [(quiet_withdrawPool _ _).indexes]; exact hidx) (below_withdrawPool hb)
    (by rw [(quiet_withdrawPool _ _).indexes]; exact covered_withdrawPool hc)
    (by rw [hu, (quiet_withdrawPool _ _).indexes]; exact hrest)
  rw [(quiet_withdrawPool _ _).indexes] at h₂
  have hmove := h₁.then h₂
  have e1 := w₁.market.indexes.supply.poolError_nonneg
  have e2 := w₁.market.indexes.supply.p2pError_nonneg
  have e3 := w₁.market.indexes.borrow.poolError_nonneg
  have e4 := w₁.market.indexes.borrow.p2pError_nonneg
  refine ⟨?_, ?_, ?_, ?_, ?_, ?_⟩ <;>
  · obtain ⟨m1, m2, m3, m4, m5, m6⟩ := hmove
    simp only [Worth.add_supply, Worth.add_borrow, Worth.add_collateral, Worth.add_userSupply,
      Worth.add_userBorrow, Worth.add_userCollateral, Worth.supplied, PeerLending.Near,
      Indexes.slack] at *
    omega

/-- A withdrawal moves the supply side down by the amount it withdraws, clamped to the
supply. -/
theorem worth_withdraw (hidx : w.market.indexes.InRange) (hb : w.ledger.Below balanceBound)
    (hc : w.ledger.Covered w.market.indexes) :
    Worth.Near (w.withdraw x).worth (w.worth + Worth.supplied (-(w.withdraw x).amount.val))
      w.market.indexes.slack := by
  rw [amount_withdraw]
  unfold withdraw
  dsimp only
  rw [clampToBalance_eq]
  exact worth_withdrawFrom (by simp [noteIf_eq]; rfl) (by simp [checkLiquidity, noteIf_eq]) hidx hb hc
    rfl
    (Nat.le_trans clamp_le_balance (Nat.le_of_eq (val_add_rayMul _ _ _ _)))

/-- Supplying collateral moves the collateral by the amount, to within one conversion at the
pool index. -/
theorem worth_supplyCollateral (hidx : w.market.indexes.InRange)
    (hb : w.ledger.Below balanceBound) (ha : x.val < balanceBound) :
    Worth.Near (w.supplyCollateral x).worth (w.worth + Worth.pledged x.val)
      ⟨0, 0, w.market.indexes.supply.poolError, 0, 0, w.market.indexes.supply.poolError⟩ := by
  have hs := hidx.supply
  have hroom := balanceBound_room
  have hl := near_add_rayDiv (S := w.ledger.layerCollateral) (x := x)
    (by have := hb.layerCollateral; omega) hs.pool_ge hs.pool_lt
  have hu := near_add_rayDiv (S := w.ledger.userCollateral) (x := x)
    (by have := hb.userCollateral; omega) hs.pool_ge hs.pool_lt
  have hi := (keeps_supplyCollateral w x).indexes
  have e := w.market.indexes.supply.poolError_nonneg
  unfold Work.worth
  rw [ledger_supplyCollateral, hi]
  refine ⟨?_, ?_, ?_, ?_, ?_, ?_⟩ <;>
  · simp only [Ledger.worth, Worth.add_supply, Worth.add_borrow, Worth.add_collateral,
      Worth.add_userSupply, Worth.add_userBorrow, Worth.add_userCollateral, Worth.pledged,
      SideIndexes.poolError, roundingError, PeerLending.Near] at *
    omega

/-- Taking collateral out moves the collateral down by the amount taken, clamped to the user's
collateral: the user's and the layer's, which holds it. -/
theorem worth_withdrawCollateral (hidx : w.market.indexes.InRange)
    (hb : w.ledger.Below balanceBound) (hc : w.ledger.Covered w.market.indexes)
    (headroom : Option Word) :
    Worth.Near (w.withdrawCollateral x headroom).worth
      (w.worth + Worth.pledged (-(w.withdrawCollateral x headroom).amount.val))
      ⟨0, 0, w.market.indexes.supply.poolError, 0, 0, w.market.indexes.supply.poolError⟩ := by
  have hs := hidx.supply
  have hbal : balanceBound < valueBound := by decide
  have hroom := rayMul_room
  have hi := (keeps_withdrawCollateral w x headroom).indexes
  rw [amount_withdrawCollateral, show w.position.scaledCollateral = w.ledger.userCollateral from rfl]
  unfold Work.worth
  rw [ledger_withdrawCollateral, hi]
  dsimp only
  -- the amount is clamped to the user's collateral
  have hamt := clamp_le_balance (d := rayMul w.ledger.userCollateral w.market.indexes.supply.poolIndex)
    (a := x)
  have hav : (if rayMul w.ledger.userCollateral w.market.indexes.supply.poolIndex < x then
      rayMul w.ledger.userCollateral w.market.indexes.supply.poolIndex else x).val < Nat.pow 2 131 :=
    Nat.lt_of_le_of_lt hamt (rayMul_lt hb.userCollateral hs.pool_lt)
  generalize (if rayMul w.ledger.userCollateral w.market.indexes.supply.poolIndex < x then
      rayMul w.ledger.userCollateral w.market.indexes.supply.poolIndex else x) = amt at hamt hav ⊢
  have hcov := Nat.le_trans (removeScaled_split w.ledger.userCollateral amt
    w.market.indexes.supply.poolIndex).1 hc.held.collateral
  have hu := near_removeScaled hamt (Nat.lt_trans hb.userCollateral hbal) (by omega) hs.pool_ge
    hs.pool_lt
  have hl := near_zeroFloorSub_removed hamt hcov (Nat.lt_trans hb.userCollateral hbal)
    (Nat.lt_trans hb.layerCollateral hbal) (by omega) hs.pool_ge hs.pool_lt
  have e := w.market.indexes.supply.poolError_nonneg
  refine ⟨?_, ?_, ?_, ?_, ?_, ?_⟩ <;>
  · simp only [Ledger.worth, Worth.add_supply, Worth.add_borrow, Worth.add_collateral,
      Worth.add_userSupply, Worth.add_userBorrow, Worth.add_userCollateral, Worth.pledged,
      SideIndexes.poolError, roundingError, PeerLending.Near] at *
    omega

end Work

/-! ## 6. What the views show

The market view shows the lending layer's totals and the position view the user's balances,
each total the sum of two conversions. Converted amounts are far below a wrap, so the views show
exactly the ledger's worth at the market's indexes (`Worth.ofViews_of`). -/

/-- The worth a market view and a position view show: the layer's supply, debt and collateral,
and the user's. -/
def Worth.ofViews (v : MarketView) (p : PositionView) : Worth :=
  ⟨v.totalProtocolSupply.val, v.totalProtocolBorrow.val, v.totalProtocolCollateral.val,
    p.totalSupply.val, p.totalBorrow.val, p.collateral.val⟩

theorem Worth.ofViews_of (market : MarketState) (config : MarketConfig) (p : Position)
    (risk : RiskParams) :
    Worth.ofViews (MarketView.of market config) (PositionView.of p (MarketView.of market config) risk) =
      (Ledger.of market p).worth market.indexes := by
  simp only [Worth.ofViews, MarketView.of, PositionView.of, Ledger.worth, Ledger.of, val_add_rayMul,
    Int.natCast_add]

namespace Snapshot

/-- What the views of market `m` show: the view of the market and the view of the user's
position on it, an empty one when the user holds none. -/
def shownWorth (s : Snapshot) (chain : ChainContext) (m : Address) : Answer Worth := do
  let v ← s.marketView m
  let p ← s.positionView chain ((s.positions.get? m).getD (Position.empty m))
  return Worth.ofViews v p

theorem KeysAgree.positionAt_market {s : Snapshot} (hkeys : s.KeysAgree) (m : Address) :
    ((s.positions.get? m).getD (Position.empty m)).market = m := by
  cases hp : s.positions.get? m with
  | none => rfl
  | some p => exact hkeys.market_of_get? hp

theorem shownWorth_eq {s : Snapshot} (hkeys : s.KeysAgree) {m : Address} {market : MarketState}
    {config : MarketConfig} (hm : s.markets.get? m = some market)
    (hc : s.configs.get? m = some config) (chain : ChainContext) :
    s.shownWorth chain m = .ok ((s.ledgerAt m market).worth market.indexes) := by
  unfold shownWorth marketView positionView
  rw [hkeys.positionAt_market m, hm, hc]
  exact congrArg Except.ok (Worth.ofViews_of _ _ _ _)

end Snapshot

/-! ## 7. One step

An operation moves the worth by its kind and its effective amount (`OperationKind.move`), the
amount after the clamp for a repayment or a withdrawal. A claim and a wrap move nothing: the
wallet a wrap credits is no balance of the views. -/

/-- How an operation of kind `k` moves the worth, for an effective amount `a`. -/
def OperationKind.move (k : OperationKind) (a : Word) : Worth :=
  match k with
  | .supply => Worth.supplied a.val
  | .supplyCollateral => Worth.pledged a.val
  | .borrow => Worth.borrowed a.val
  | .repay => Worth.borrowed (-a.val)
  | .withdraw => Worth.supplied (-a.val)
  | .withdrawCollateral => Worth.pledged (-a.val)
  | .claimRewards | .wrap => 0

namespace Work

variable {w : Work} {x : Word}

/-- Every operation moves the worth of its work by its kind and its effective amount. -/
theorem worth_perform (hidx : w.market.indexes.InRange) (hb : w.ledger.Below balanceBound)
    (hc : w.ledger.Covered w.market.indexes) (st : SimulatedState) (chain : ChainContext)
    (op : Operation) (ha : (w.perform st chain op x).amount.val < balanceBound) :
    Worth.Near (w.perform st chain op x).worth
      (w.worth + op.kind.move (w.perform st chain op x).amount) w.market.indexes.slack := by
  cases hk : op.kind <;> simp only [perform, hk, OperationKind.move] at ha ⊢
  case supply =>
    rw [amount_supply] at ha ⊢
    exact worth_supply hidx hb ha
  case supplyCollateral =>
    rw [amount_supplyCollateral] at ha ⊢
    exact Indexes.near_of_collateral (worth_supplyCollateral hidx hb ha)
  case borrow =>
    rw [amount_borrow] at ha ⊢
    exact worth_borrow hidx hb ha _
  case repay => exact worth_repay hidx hb hc
  case withdraw => exact worth_withdraw hidx hb hc
  case withdrawCollateral => exact Indexes.near_of_collateral (worth_withdrawCollateral hidx hb hc _)
  case claimRewards | wrap =>
    rw [Worth.add_zero]
    exact w.market.indexes.near_self _

end Work

/-- Matching moves value and does not make it: an operation on a market whose indexes are in
range, whose balances and effective amount are below `balanceBound`, and whose aggregates hold
the user's balances with each peer-to-peer side matched by the other, moves what the views of
the market show by its kind and its effective amount, to within the rounding slack of the
market's indexes. The views exist before and after the step. -/
theorem applyOperation_moves_worth {st : SimulatedState} {op : Operation} {t : Transition}
    {market : MarketState} {config : MarketConfig} (hkeys : st.snapshot.KeysAgree)
    (hm : st.snapshot.markets.get? op.market = some market)
    (hcfg : st.snapshot.configs.get? op.market = some config) (hidx : market.indexes.InRange)
    (hb : (st.snapshot.ledgerAt op.market market).Below balanceBound)
    (hc : (st.snapshot.ledgerAt op.market market).Covered market.indexes)
    (ha : t.amount.val < balanceBound) (h : applyOperation st op = .ok t) (chain : ChainContext) :
    ∃ before after, st.snapshot.shownWorth chain op.market = .ok before ∧
      t.snapshot.shownWorth chain op.market = .ok after ∧
      Worth.Near after (before + op.kind.move t.amount) market.indexes.slack := by
  obtain ⟨hch, -, -, hclaim, hwrap, hkeys'⟩ := applyOperation_changesOnly hkeys h
  have hcfg' : t.snapshot.configs.get? op.market = some config := by
    rw [hch.configs]
    exact hcfg
  -- before the step the views show the ledger the snapshot holds
  suffices hafter : ∃ after, t.snapshot.shownWorth chain op.market = .ok after ∧
      Worth.Near after ((st.snapshot.ledgerAt op.market market).worth market.indexes +
        op.kind.move t.amount) market.indexes.slack by
    obtain ⟨after, hafter, hnear⟩ := hafter
    exact ⟨_, after, Snapshot.shownWorth_eq hkeys hm hcfg chain, hafter, hnear⟩
  by_cases hk : op.kind = .claimRewards
  · -- a claim touches the user context only
    obtain ⟨_, _, _, _, heq⟩ := hclaim hk
    have hm' : t.snapshot.markets.get? op.market = some market := by
      rw [heq]
      exact hm
    refine ⟨_, Snapshot.shownWorth_eq hkeys' hm' hcfg' chain, ?_⟩
    rw [hk, OperationKind.move, Worth.add_zero, heq]
    exact market.indexes.near_self _
  by_cases hw : op.kind = .wrap
  · -- a wrap credits the wallet, which no view's total reads
    obtain ⟨hmarkets, hl⟩ := (hwrap hw).ledgerAt market
    refine ⟨_, Snapshot.shownWorth_eq hkeys' (hmarkets ▸ hm) hcfg' chain, ?_⟩
    rw [hw, OperationKind.move, Worth.add_zero, hl]
    exact market.indexes.near_self _
  obtain ⟨market₀, w₀, chain₀, amount, hm₀, -, hl₀, hi₀, haddr, rfl⟩ :=
    applyOperation_performs hkeys hk hw h
  rw [hm, Option.some.injEq] at hm₀
  subst hm₀
  have hmove := Work.worth_perform (w := w₀) (x := amount) (hi₀ ▸ hidx) (hl₀ ▸ hb)
    (hl₀ ▸ hi₀ ▸ hc) st chain₀ op ha
  have hi₁ := (Work.keeps_perform w₀ amount st chain₀ op).indexes.trans hi₀
  -- the work is written back under the operation's market
  obtain ⟨hm', hl⟩ := Work.finish_ledgerAt haddr st.snapshot
  refine ⟨_, Snapshot.shownWorth_eq (hkeys.finish _) hm' hcfg' chain, ?_⟩
  unfold Work.worth at hmove
  rw [hi₁, hi₀] at hmove
  rw [hl, hi₁, ← hl₀]
  exact hmove

/-! ## 8. Debt that no supply matches

The peer-to-peer debt of a market is matched by its peer-to-peer supply only as far as the two
totals say. When the user's peer-to-peer debt is more than the peer-to-peer supply, repaying it
sends back to the pool suppliers that were never matched, and the layer's supply grows by the
amount repaid. -/

def unmatchedAsset : Address := Address.ofNat 0xaaaaaaaaaaaaaaaaaaaaaaaaaaaaaaaaaaaaaaaa

def unmatchedChain : ChainContext := ⟨1, 1000, 200000000000, EMode.none, FeeData.zero⟩

/-- A market at unit indexes with 100 of peer-to-peer debt against `supplyInP2P` of
peer-to-peer supply. -/
def unmatchedState (supplyInP2P : Word) : MarketState where
  underlying := unmatchedAsset
  scaledPoolSupply := 1000
  scaledPoolBorrow := 100
  scaledProtocolSupplyOnPool := 0
  scaledProtocolBorrowOnPool := 0
  scaledProtocolCollateral := 0
  deltas := ⟨⟨0, supplyInP2P⟩, ⟨0, 100⟩⟩
  idleSupply := 0
  indexes := ⟨⟨ray, ray⟩, ⟨ray, ray⟩, 1000⟩
  poolReserve := ⟨ray, ray, 0, 0, 1000⟩
  poolLiquidity := 1000
  chainUsdPrice := 100000000

def unmatchedConfig : MarketConfig where
  underlying := unmatchedAsset
  symbol := "USDC"
  decimals := 6
  collateralFactor := 8500
  borrowableFactor := 8000
  p2pReserveFactor := 0
  p2pIndexCursor := 5000
  supplyCap := 0
  borrowCap := 0
  pause := {}
  eModeCategory := 0
  wrappedNative := false

/-- The user owes the market's 100 of peer-to-peer debt and holds 100 tokens. -/
def unmatchedSnapshot (supplyInP2P : Word) : Snapshot where
  chain := some unmatchedChain
  user := some ⟨Address.ofNat 0x1111111111111111111111111111111111111111, 0, 0, 0⟩
  markets := AddrMap.empty.insert unmatchedAsset (unmatchedState supplyInP2P)
  configs := AddrMap.empty.insert unmatchedAsset unmatchedConfig
  positions := AddrMap.empty.insert unmatchedAsset
    { Position.empty unmatchedAsset with scaledBorrowInP2P := 100, walletBalance := 100 }

def unmatchedRepay : Operation := ⟨.repay, unmatchedAsset, 100, false⟩

theorem unmatchedSnapshot_keysAgree (supplyInP2P : Word) :
    (unmatchedSnapshot supplyInP2P).KeysAgree := by
  refine ⟨fun e he => ?_, fun e he => ?_⟩
  · rcases AddrMap.mem_insert he with rfl | he
    · rfl
    · cases he
  · rcases AddrMap.mem_insert he with rfl | he
    · rfl
    · cases he

/-- With no peer-to-peer supply every condition of the step holds but the matching, and the
repayment of 100 raises the layer's supply the market view shows from 0 to 100. -/
theorem repay_demotes_unmatched_supply :
    ∃ st t, Reaches (unmatchedSnapshot 0) st ∧ applyOperation st unmatchedRepay = .ok t ∧
      t.amount = 100 ∧
      st.snapshot.markets.get? unmatchedAsset = some (unmatchedState 0) ∧
      (unmatchedState 0).indexes.InRange ∧
      (st.snapshot.ledgerAt unmatchedAsset (unmatchedState 0)).Below balanceBound ∧
      (st.snapshot.ledgerAt unmatchedAsset (unmatchedState 0)).Held ∧
      ¬(st.snapshot.ledgerAt unmatchedAsset (unmatchedState 0)).Covered
        (unmatchedState 0).indexes ∧
      (∃ v, st.snapshot.marketView unmatchedAsset = .ok v ∧ v.totalProtocolSupply = 0) ∧
      ∃ v, t.snapshot.marketView unmatchedAsset = .ok v ∧ v.totalProtocolSupply = 100 := by
  have hreach : Reaches (unmatchedSnapshot 0) _ := .start rfl rfl
  refine ⟨_, _, hreach, rfl, rfl, rfl, ?_, ?_, by decide, fun hc => ?_, ⟨_, rfl, rfl⟩, _, rfl, rfl⟩
  · exact ⟨⟨by decide, by decide, by decide, by decide⟩, ⟨by decide, by decide, by decide, by decide⟩⟩
  · constructor <;> decide
  · exact absurd hc.borrowMatched (by decide)

/-- With the debt matched by as much supply, the repayment moves the views by its amount. -/
theorem repay_matched_moves_worth :
    ∃ st t, Reaches (unmatchedSnapshot 100) st ∧ applyOperation st unmatchedRepay = .ok t ∧
      ∃ before after, st.snapshot.shownWorth unmatchedChain unmatchedAsset = .ok before ∧
        t.snapshot.shownWorth unmatchedChain unmatchedAsset = .ok after ∧
        Worth.Near after (before + OperationKind.repay.move t.amount)
          (unmatchedState 100).indexes.slack := by
  have hreach : Reaches (unmatchedSnapshot 100) _ := .start rfl rfl
  have hkeys := hreach.keysAgree (unmatchedSnapshot_keysAgree 100)
  refine ⟨_, _, hreach, rfl, ?_⟩
  refine @applyOperation_moves_worth _ unmatchedRepay _ (unmatchedState 100) unmatchedConfig hkeys
    ?_ ?_ ?_ ?_ ?_ ?_ ?_ unmatchedChain
  · rfl
  · rfl
  · exact ⟨⟨by decide, by decide, by decide, by decide⟩, ⟨by decide, by decide, by decide, by decide⟩⟩
  · constructor <;> decide
  · constructor <;> decide
  · decide
  · rfl

end PeerLending
