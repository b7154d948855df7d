import PeerLending.Proofs.Consistency
import PeerLending.Proofs.Capacity

/-!
# A full exit leaves no dust

A repayment, a withdrawal and a collateral withdrawal take an amount out of the user's scaled
balances through `removeScaled`, which clears a balance whenever the amount is at least the
balance's worth at its index. Each of them first clamps the amount to the worth the user holds,
computed with the same indexes, and then takes from the pool balance first: asked for at least
the whole worth, each part reaches the clearing branch, and the position is left with none of the
balances the operation draws on. Whatever the amount, nothing is taken below zero: each of the
user's scaled balances after such a step is at most what it was (`applyOperation_exit_clears`).

Two things stand outside this. The sentinel "as much as allowed" resolves to the capacity, which
may be bound by the wallet: only a capacity bound by the balance itself asks for the whole worth.
And a position filed under another market's key is read under the market's address and written
back under its own, so the entry under the market is not the one emptied
(`sentinel_or_stray_key_keeps_debt`).
-/

set_option autoImplicit false

namespace PeerLending

/-! ## 1. Taking out a whole balance -/

theorem removeScaled_clears {s x i : Word} (h : rayMul s i ≤ x) : (removeScaled s x i).1 = 0 := by
  unfold removeScaled
  rw [if_pos h]

theorem removeScaled_le (s x i : Word) : (removeScaled s x i).1 ≤ s := by
  have h := (removeScaled_split s x i).2
  rw [Word.le_iff_val_le]
  omega

namespace Word

variable {a b x : Word}

theorem clamp_of_le (h : a.val + b.val ≤ x.val) : (if a + b < x then a + b else x) = a + b := by
  have hs : (a + b).val = a.val + b.val := val_add_of_lt (Nat.lt_of_le_of_lt h x.isLt)
  split
  · rfl
  · rename_i hlt
    rw [lt_iff_val_lt, hs] at hlt
    exact ext (by omega)

/-- The pool-first split of a sum that fits takes its first part whole. -/
theorem min_add_left (h : a.val + b.val < wordSize) : min (a + b) a = a := by
  unfold min
  rw [if_neg]
  rw [lt_iff_val_lt, val_add_of_lt h]
  omega

theorem add_sub_left (h : a.val + b.val < wordSize) : a + b - a = b := by
  have hs := val_add_of_lt h
  have hle : a ≤ a + b := le_iff_val_le.2 (by omega)
  exact ext (by rw [val_sub_of_le hle, hs]; omega)

end Word

/-! ## 2. The user's balances only shrink -/

namespace Ledger

/-- The user's five scaled balances. -/
def userBalances (l : Ledger) : Word × Word × Word × Word × Word :=
  (l.userSupplyOnPool, l.userBorrowOnPool, l.userCollateral, l.userSupplyInP2P, l.userBorrowInP2P)

/-- Each of the user's balances in `l'` is at most the same balance in `l`. -/
structure UserShrinks (l' l : Ledger) : Prop where
  supplyOnPool : l'.userSupplyOnPool ≤ l.userSupplyOnPool
  borrowOnPool : l'.userBorrowOnPool ≤ l.userBorrowOnPool
  collateral : l'.userCollateral ≤ l.userCollateral
  supplyInP2P : l'.userSupplyInP2P ≤ l.userSupplyInP2P
  borrowInP2P : l'.userBorrowInP2P ≤ l.userBorrowInP2P

variable {l l' l'' : Ledger}

theorem UserShrinks.of_userBalances (h : l'.userBalances = l.userBalances) : l'.UserShrinks l := by
  simp only [userBalances, Prod.mk.injEq] at h
  obtain ⟨h1, h2, h3, h4, h5⟩ := h
  exact ⟨h1 ▸ Nat.le_refl _, h2 ▸ Nat.le_refl _, h3 ▸ Nat.le_refl _, h4 ▸ Nat.le_refl _,
    h5 ▸ Nat.le_refl _⟩

theorem UserShrinks.refl (l : Ledger) : l.UserShrinks l := .of_userBalances rfl

theorem UserShrinks.trans (h : l''.UserShrinks l') (h' : l'.UserShrinks l) : l''.UserShrinks l :=
  ⟨Nat.le_trans h.1 h'.1, Nat.le_trans h.2 h'.2, Nat.le_trans h.3 h'.3, Nat.le_trans h.4 h'.4,
    Nat.le_trans h.5 h'.5⟩

end Ledger

namespace Work

open Ledger

variable (w : Work) (a : Word)

/-! Promoting the other side back, and demoting it, move the aggregates and totals only. -/

theorem userBalances_backfillBorrowers :
    (w.backfillBorrowers a).ledger.userBalances = w.ledger.userBalances := by
  rw [ledger_backfillBorrowers]
  split <;> rfl

theorem userBalances_backfillSuppliers :
    (w.backfillSuppliers a).ledger.userBalances = w.ledger.userBalances := by
  rw [ledger_backfillSuppliers]
  split <;> rfl

theorem userBalances_demoteSuppliers :
    (w.demoteSuppliers a).ledger.userBalances = w.ledger.userBalances := by
  rw [ledger_demoteSuppliers]
  split <;> rfl

theorem userBalances_demoteBorrowers :
    (w.demoteBorrowers a).ledger.userBalances = w.ledger.userBalances := by
  rw [ledger_demoteBorrowers]
  split <;> rfl

/-! Each removal from a user balance goes through `removeScaled`, which never takes more than the
balance. -/

theorem shrinks_repayPool : (w.repayPool a).ledger.UserShrinks w.ledger := by
  rw [ledger_repayPool]
  split
  · exact .refl _
  · exact ⟨Nat.le_refl _, removeScaled_le _ _ _, Nat.le_refl _, Nat.le_refl _, Nat.le_refl _⟩

theorem shrinks_withdrawPool : (w.withdrawPool a).ledger.UserShrinks w.ledger := by
  rw [ledger_withdrawPool]
  split
  · exact .refl _
  · exact ⟨removeScaled_le _ _ _, Nat.le_refl _, Nat.le_refl _, Nat.le_refl _, Nat.le_refl _⟩

theorem shrinks_repayP2P : (w.repayP2P a).ledger.UserShrinks w.ledger := by
  unfold repayP2P
  split
  · exact .refl _
  · dsimp only
    refine (UserShrinks.of_userBalances (userBalances_demoteSuppliers _ _)).trans
      ((UserShrinks.of_userBalances (userBalances_backfillBorrowers _ _)).trans ?_)
    rw [ledger_releaseBorrowInP2P]
    exact ⟨Nat.le_refl _, Nat.le_refl _, Nat.le_refl _, Nat.le_refl _, removeScaled_le _ _ _⟩

theorem shrinks_withdrawP2P : (w.withdrawP2P a).ledger.UserShrinks w.ledger := by
  unfold withdrawP2P
  split
  · exact .refl _
  · dsimp only
    refine (UserShrinks.of_userBalances (userBalances_demoteBorrowers _ _)).trans
      ((UserShrinks.of_userBalances (userBalances_backfillSuppliers _ _)).trans ?_)
    rw [ledger_releaseSupplyInP2P]
    exact ⟨Nat.le_refl _, Nat.le_refl _, Nat.le_refl _, removeScaled_le _ _ _, Nat.le_refl _⟩

/-- A repayment of any amount: the clamp and the wallet move no balance, and the pool part and
the peer-to-peer part each only shrink one. -/
theorem shrinks_repay : (w.repay a).ledger.UserShrinks w.ledger := by
  unfold repay
  simp only [clampToBalance_eq, ledger_withLiquidity]
  exact (shrinks_repayP2P _ _).trans ((shrinks_repayPool _ _).trans
    (.of_userBalances (by simp [noteIf_eq]; rfl)))

theorem shrinks_withdraw : (w.withdraw a).ledger.UserShrinks w.ledger := by
  unfold withdraw
  simp only [clampToBalance_eq, ledger_payOut, ledger_withLiquidity]
  exact (shrinks_withdrawP2P _ _).trans ((shrinks_withdrawPool _ _).trans
    (.of_userBalances (by simp [noteIf_eq]; rfl)))

theorem shrinks_withdrawCollateral (headroom : Option Word) :
    (w.withdrawCollateral a headroom).ledger.UserShrinks w.ledger := by
  rw [ledger_withdrawCollateral]
  exact ⟨Nat.le_refl _, Nat.le_refl _, removeScaled_le _ _ _, Nat.le_refl _, Nat.le_refl _⟩

/-! ## 3. Asking for the whole worth

The clamp makes the amount the whole worth, the pool-first split takes the whole pool balance,
and what is left is the whole peer-to-peer balance: each part is the worth of its balance at its
own index, which is exactly what `removeScaled` clears. A worth of nothing means an empty balance
only because the index is at least one ray; below that, a balance worth nothing would be left
behind by the zero amount each part skips. -/

theorem borrowInP2P_repayPool : (w.repayPool a).ledger.userBorrowInP2P = w.ledger.userBorrowInP2P := by
  rw [ledger_repayPool]
  split <;> rfl

theorem supplyInP2P_withdrawPool :
    (w.withdrawPool a).ledger.userSupplyInP2P = w.ledger.userSupplyInP2P := by
  rw [ledger_withdrawPool]
  split <;> rfl

/-- Repaying peer-to-peer debt keeps the pool debt and takes the amount out of the peer-to-peer
debt. -/
theorem debt_repayP2P : (w.repayP2P a).ledger.debt =
    if a.val = 0 then w.ledger.debt
    else (w.ledger.userBorrowOnPool,
      (removeScaled w.ledger.userBorrowInP2P a w.market.indexes.borrow.p2pIndex).1) := by
  unfold repayP2P
  split
  · rfl
  · dsimp only
    rw [(user_demoteSuppliers _ _).1, (user_backfillBorrowers _ _).1, ledger_releaseBorrowInP2P]
    rfl

/-- Withdrawing peer-to-peer supply keeps the pool supply and takes the amount out of the
peer-to-peer supply. -/
theorem credit_withdrawP2P : (w.withdrawP2P a).ledger.credit =
    if a.val = 0 then w.ledger.credit
    else (w.ledger.userSupplyOnPool,
      (removeScaled w.ledger.userSupplyInP2P a w.market.indexes.supply.p2pIndex).1) := by
  unfold withdrawP2P
  split
  · rfl
  · dsimp only
    rw [(user_demoteBorrowers _ _).2, (user_backfillSuppliers _ _).2.1, ledger_releaseSupplyInP2P]
    rfl

theorem repayP2P_clears (hR : ray.val ≤ w.market.indexes.borrow.p2pIndex.val) :
    (w.repayP2P (rayMul w.ledger.userBorrowInP2P w.market.indexes.borrow.p2pIndex)).ledger.debt =
      (w.ledger.userBorrowOnPool, 0) := by
  rw [debt_repayP2P]
  split
  · exact Prod.ext rfl (Word.ext (eq_zero_of_rayMul_eq_zero hR ‹_›))
  · rw [removeScaled_clears (Nat.le_refl _)]

theorem withdrawP2P_clears (hR : ray.val ≤ w.market.indexes.supply.p2pIndex.val) :
    (w.withdrawP2P (rayMul w.ledger.userSupplyInP2P w.market.indexes.supply.p2pIndex)).ledger.credit =
      (w.ledger.userSupplyOnPool, 0) := by
  rw [credit_withdrawP2P]
  split
  · exact Prod.ext rfl (Word.ext (eq_zero_of_rayMul_eq_zero hR ‹_›))
  · rw [removeScaled_clears (Nat.le_refl _)]

end Work

namespace Work

variable {w w₁ : Work} {l : Ledger} {idx : Indexes} {onPool inP2P a : Word}

/-- Asked for at least the debt, the moves of a repayment clear it. -/
theorem repayFrom_clears (hl : w₁.ledger = l) (hi : w₁.market.indexes = idx)
    (hidx : idx.AtLeastRay) (hon : onPool = rayMul l.userBorrowOnPool idx.borrow.poolIndex)
    (hin : inP2P = rayMul l.userBorrowInP2P idx.borrow.p2pIndex) (ha : onPool.val + inP2P.val ≤ a.val) :
    let amount := if onPool + inP2P < a then onPool + inP2P else a
    (((w₁.repayPool (Word.min amount onPool)).repayP2P (amount - Word.min amount onPool)).withLiquidity
      (· + amount)).ledger.debt = (0, 0) := by
  intro amount
  have hfit : onPool.val + inP2P.val < wordSize := Nat.lt_of_le_of_lt ha a.isLt
  have hamount : amount = onPool + inP2P := Word.clamp_of_le ha
  rw [ledger_withLiquidity, hamount, Word.min_add_left hfit, Word.add_sub_left hfit]
  subst hl hi hon hin
  -- the pool part takes the whole pool debt and leaves the peer-to-peer debt as it was
  have hpool := repayPool_clears (w := w₁) hidx.borrowPool
  have hp2p := repayP2P_clears (w₁.repayPool (rayMul w₁.ledger.userBorrowOnPool
    w₁.market.indexes.borrow.poolIndex)) (by rw [(quiet_repayPool _ _).indexes]; exact hidx.borrowP2P)
  rw [borrowInP2P_repayPool, (quiet_repayPool _ _).indexes] at hp2p
  rw [hp2p]
  exact Prod.ext (Word.ext hpool) rfl

/-- Asked for at least the supply, the moves of a withdrawal clear it. -/
theorem withdrawFrom_clears (hl : w₁.ledger = l) (hi : w₁.market.indexes = idx)
    (hidx : idx.AtLeastRay) (hon : onPool = rayMul l.userSupplyOnPool idx.supply.poolIndex)
    (hin : inP2P = rayMul l.userSupplyInP2P idx.supply.p2pIndex) (ha : onPool.val + inP2P.val ≤ a.val) :
    let amount := if onPool + inP2P < a then onPool + inP2P else a
    ((((w₁.withdrawPool (Word.min amount onPool)).withdrawP2P (amount - Word.min amount onPool)).withLiquidity
      (zeroFloorSub · amount)).payOut amount).ledger.credit = (0, 0) := by
  intro amount
  have hfit : onPool.val + inP2P.val < wordSize := Nat.lt_of_le_of_lt ha a.isLt
  have hamount : amount = onPool + inP2P := Word.clamp_of_le ha
  rw [ledger_payOut, ledger_withLiquidity, hamount, Word.min_add_left hfit, Word.add_sub_left hfit]
  subst hl hi hon hin
  have hpool := withdrawPool_clears (w := w₁) hidx.supplyPool
  have hp2p := withdrawP2P_clears (w₁.withdrawPool (rayMul w₁.ledger.userSupplyOnPool
    w₁.market.indexes.supply.poolIndex)) (by rw [(quiet_withdrawPool _ _).indexes]; exact hidx.supplyP2P)
  rw [supplyInP2P_withdrawPool, (quiet_withdrawPool _ _).indexes] at hp2p
  rw [hp2p]
  exact Prod.ext (Word.ext hpool) rfl

theorem repay_clears (hidx : w.market.indexes.AtLeastRay)
    (ha : (rayMul w.ledger.userBorrowOnPool w.market.indexes.borrow.poolIndex).val +
      (rayMul w.ledger.userBorrowInP2P w.market.indexes.borrow.p2pIndex).val ≤ a.val) :
    (w.repay a).ledger.debt = (0, 0) := by
  unfold repay
  dsimp only
  rw [clampToBalance_eq]
  -- the clamp reads the two debts at the work's own indexes, as the moves do
  exact @repayFrom_clears _ w.ledger _ _ _ _ (by simp [noteIf_eq]; rfl) (by simp [debitWallet, noteIf_eq])
    hidx rfl rfl ha

theorem withdraw_clears (hidx : w.market.indexes.AtLeastRay)
    (ha : (rayMul w.ledger.userSupplyOnPool w.market.indexes.supply.poolIndex).val +
      (rayMul w.ledger.userSupplyInP2P w.market.indexes.supply.p2pIndex).val ≤ a.val) :
    (w.withdraw a).ledger.credit = (0, 0) := by
  unfold withdraw
  dsimp only
  rw [clampToBalance_eq]
  exact @withdrawFrom_clears _ w.ledger _ _ _ _ (by simp [noteIf_eq]; rfl)
    (by simp [checkLiquidity, noteIf_eq]) hidx rfl rfl ha

/-- A collateral withdrawal asked for at least the collateral clears it, at any index: the
clamped amount is then at least the collateral's worth. -/
theorem withdrawCollateral_clears (w : Work) (headroom : Option Word)
    (ha : (rayMul w.ledger.userCollateral w.market.indexes.supply.poolIndex).val ≤ a.val) :
    (w.withdrawCollateral a headroom).ledger.userCollateral = 0 := by
  rw [ledger_withdrawCollateral]
  apply removeScaled_clears
  split
  · exact Nat.le_refl _
  · exact ha

end Work

/-! ## 4. The balances an exit takes from -/

namespace Snapshot

/-- The user's position on a market, or an empty one when the user holds none there. -/
def positionAt (s : Snapshot) (m : Address) : Position := (s.positions.get? m).getD (Position.empty m)

end Snapshot

/-- The operations that take from the user's balances. -/
def OperationKind.IsExit (k : OperationKind) : Prop :=
  k = .repay ∨ k = .withdraw ∨ k = .withdrawCollateral

namespace Position

/-- The worth, in native units at the indexes, of the balances an operation of kind `k` takes
from, each part rounded as the views round it: the debt for a repayment, the supply for a
withdrawal, the collateral for a collateral withdrawal, and nothing for the other operations. -/
def exitWorth (p : Position) (idx : Indexes) : OperationKind → Nat
  | .repay => (rayMul p.scaledBorrowOnPool idx.borrow.poolIndex).val +
      (rayMul p.scaledBorrowInP2P idx.borrow.p2pIndex).val
  | .withdraw => (rayMul p.scaledSupplyOnPool idx.supply.poolIndex).val +
      (rayMul p.scaledSupplyInP2P idx.supply.p2pIndex).val
  | .withdrawCollateral => (rayMul p.scaledCollateral idx.supply.poolIndex).val
  | _ => 0

/-- The balances an operation of kind `k` takes from are all empty. -/
def Exited (p : Position) : OperationKind → Prop
  | .repay => p.scaledBorrowOnPool = 0 ∧ p.scaledBorrowInP2P = 0
  | .withdraw => p.scaledSupplyOnPool = 0 ∧ p.scaledSupplyInP2P = 0
  | .withdrawCollateral => p.scaledCollateral = 0
  | _ => True

/-- Each scaled balance of `p'` is at most the same balance of `p`. -/
structure Shrinks (p' p : Position) : Prop where
  collateral : p'.scaledCollateral ≤ p.scaledCollateral
  supplyInP2P : p'.scaledSupplyInP2P ≤ p.scaledSupplyInP2P
  supplyOnPool : p'.scaledSupplyOnPool ≤ p.scaledSupplyOnPool
  borrowInP2P : p'.scaledBorrowInP2P ≤ p.scaledBorrowInP2P
  borrowOnPool : p'.scaledBorrowOnPool ≤ p.scaledBorrowOnPool

end Position

namespace Work

variable {w : Work} {st : SimulatedState} {chain : ChainContext} {op : Operation} {a : Word}

theorem finish_position {m : Address} (hw : w.addresses = (m, m)) (s : Snapshot) :
    (w.finish s).snapshot.positions.get? m = some w.position := by
  have hpm : w.position.market = m := congrArg Prod.snd hw
  simp only [finish, AddrMap.get?_insert, hpm, if_pos]

theorem shrinks_perform (hexit : op.kind.IsExit) :
    (w.perform st chain op a).position.Shrinks w.position := by
  have h : (w.perform st chain op a).ledger.UserShrinks w.ledger := by
    rcases hexit with hk | hk | hk <;> simp only [perform, hk]
    · exact shrinks_repay w a
    · exact shrinks_withdraw w a
    · exact shrinks_withdrawCollateral w a _
  exact ⟨h.collateral, h.supplyInP2P, h.supplyOnPool, h.borrowInP2P, h.borrowOnPool⟩

/-- An exit performed on a work for at least the worth it takes from leaves none of it. -/
theorem exited_perform (hexit : op.kind.IsExit) (hidx : w.market.indexes.AtLeastRay)
    (ha : w.position.exitWorth w.market.indexes op.kind ≤ a.val) :
    (w.perform st chain op a).position.Exited op.kind := by
  rcases hexit with hk | hk | hk <;> simp only [perform, hk] <;> rw [hk] at ha
  · exact Prod.mk.inj (repay_clears hidx ha)
  · exact Prod.mk.inj (withdraw_clears hidx ha)
  · exact withdrawCollateral_clears w _ ha

end Work

/-! ## 5. The amount a step asks for -/

/-- On a snapshot whose keys agree, a capacity of an exit that binds on the balance is the worth
of the balances the exit takes from, when that worth fits in a word. -/
theorem maxCapacity_balance {s : Snapshot} {op : Operation} {market : MarketState}
    {limit : CapacityLimit} (hkeys : s.KeysAgree) (hm : s.markets.get? op.market = some market)
    (hexit : op.kind.IsExit)
    (hfit : (s.positionAt op.market).exitWorth market.indexes op.kind < wordSize)
    (h : s.maxCapacity op.market op.kind = .ok (some limit)) (hr : limit.reason = .balance) :
    limit.value.val = (s.positionAt op.market).exitWorth market.indexes op.kind := by
  have hc : op.kind ≠ .claimRewards := by rcases hexit with hk | hk | hk <;> rw [hk] <;> decide
  have hw : op.kind ≠ .wrap := by rcases hexit with hk | hk | hk <;> rw [hk] <;> decide
  obtain ⟨config, state, chain, p, u, pv, hcfg, hst, hch, hp, hu, hpv, hlim⟩ :=
    Snapshot.maxCapacity_market_cases hc hw h
  rw [hm] at hst
  cases hst
  rw [Snapshot.position?_eq hkeys hu hp hm hcfg hch] at hpv
  cases hpv
  have hpos : s.positionAt op.market = p := by simp [Snapshot.positionAt, hp]
  rw [hpos] at hfit ⊢
  -- a zero price and a pause bind on reasons of their own; the candidates' balance is the worth
  rcases hlim with rfl | ⟨-, rfl⟩ | ⟨-, hb⟩
  · cases hr
  · cases hr
  have hmem := bindMin_mem hb
  rw [hr] at hmem
  rcases hexit with hk | hk | hk <;> rw [hk] at hmem hfit ⊢ <;> simp [candidates] at hmem <;>
    rw [hmem] <;> simp only [Position.exitWorth] at hfit ⊢
  -- the candidate adds the two conversions as words; the worth fits, so the sum does not wrap
  · show (rayMul p.scaledBorrowInP2P market.indexes.borrow.p2pIndex +
      rayMul p.scaledBorrowOnPool market.indexes.borrow.poolIndex).val = _
    rw [Word.val_add_of_lt (by omega)]
    omega
  · show (rayMul p.scaledSupplyInP2P market.indexes.supply.p2pIndex +
      rayMul p.scaledSupplyOnPool market.indexes.supply.poolIndex).val = _
    rw [Word.val_add_of_lt (by omega)]
    omega
  · rfl

/-- The amount a step resolves covers the worth an exit takes from, whenever the amount asked
for does: an amount other than the sentinel that is at least the worth, or the sentinel with a
capacity bound by the balance. -/
theorem resolveAmount_covers {s : Snapshot} {op : Operation} {market : MarketState} {amount : Word}
    (hkeys : s.KeysAgree) (hm : s.markets.get? op.market = some market) (hexit : op.kind.IsExit)
    (hfit : (s.positionAt op.market).exitWorth market.indexes op.kind < wordSize)
    (hcov : (op.amount ≠ Word.maxValue ∧
        (s.positionAt op.market).exitWorth market.indexes op.kind ≤ op.amount.val) ∨
      (op.amount = Word.maxValue ∧ ∃ limit, s.maxCapacity op.market op.kind = .ok (some limit) ∧
        limit.reason = .balance))
    (h : resolveAmount s op = .ok amount) :
    (s.positionAt op.market).exitWorth market.indexes op.kind ≤ amount.val := by
  rcases hcov with ⟨hne, hle⟩ | ⟨heq, limit, hcap, hr⟩
  · -- an amount other than the sentinel is taken as it is
    rw [resolveAmount_of_ne_max hne] at h
    cases h
    exact hle
  · -- the sentinel resolves to the capacity, which binds at the worth itself
    have hmax : op.isMax = true := by simp [Operation.isMax, heq]
    unfold resolveAmount at h
    rw [if_pos hmax, hcap] at h
    cases h
    exact Nat.le_of_eq (maxCapacity_balance hkeys hm hexit hfit hcap hr).symm

/-! ## 6. A full exit -/

/-- A full exit leaves no dust. On a snapshot whose entries agree with their keys, take a
repayment, a withdrawal or a collateral withdrawal on a market whose four indexes are at least
one ray, where the worth of the balances it takes from fits in a word. The step writes the
position back under the market with each of the user's scaled balances at most what it was; and
when the amount asked for is at least that worth, or is the sentinel and the capacity binds on
the balance, the balances it takes from are empty. -/
theorem applyOperation_exit_clears {st : SimulatedState} {op : Operation} {t : Transition}
    {market : MarketState} (hkeys : st.snapshot.KeysAgree)
    (hm : st.snapshot.markets.get? op.market = some market) (hidx : market.indexes.AtLeastRay)
    (hexit : op.kind.IsExit)
    (hfit : (st.snapshot.positionAt op.market).exitWorth market.indexes op.kind < wordSize)
    (h : applyOperation st op = .ok t) :
    ∃ p, t.snapshot.positions.get? op.market = some p ∧
      p.Shrinks (st.snapshot.positionAt op.market) ∧
      ((op.amount ≠ Word.maxValue ∧
          (st.snapshot.positionAt op.market).exitWorth market.indexes op.kind ≤ op.amount.val) ∨
        (op.amount = Word.maxValue ∧ ∃ limit,
          st.snapshot.maxCapacity op.market op.kind = .ok (some limit) ∧ limit.reason = .balance) →
        p.Exited op.kind) := by
  have hc : op.kind ≠ .claimRewards := by rcases hexit with hk | hk | hk <;> rw [hk] <;> decide
  have hw : op.kind ≠ .wrap := by rcases hexit with hk | hk | hk <;> rw [hk] <;> decide
  obtain ⟨market', config, chain, amount, hm', -, -, hres, -, rfl⟩ := applyOperation_market_ok hc hw h
  rw [hm] at hm'
  cases hm'
  -- the work starts from the position stored under the market and is written back there
  have hu : market.underlying = op.market := hkeys.underlying_of_get? hm
  have hpos : (Work.start st.snapshot market config op.unwrap).position =
      st.snapshot.positionAt op.market := by
    simp only [Work.start, hu, Snapshot.positionAt]
  have haddr := (Work.keeps_perform _ amount st chain op).addresses.trans
    (Work.addresses_start hkeys hm config op.unwrap)
  refine ⟨_, Work.finish_position haddr _, hpos ▸ Work.shrinks_perform hexit, fun hcov => ?_⟩
  apply Work.exited_perform hexit hidx
  rw [hpos]
  exact resolveAmount_covers hkeys hm hexit hfit hcov hres

/-! ## 7. Two runs -/

def exitAsset : Address := Address.ofNat 0xaaaaaaaaaaaaaaaaaaaaaaaaaaaaaaaaaaaaaaaa

def exitOther : Address := Address.ofNat 0xbbbbbbbbbbbbbbbbbbbbbbbbbbbbbbbbbbbbbbbb

def exitChain : ChainContext := ⟨1, 1000, 200000000000, EMode.none, FeeData.zero⟩

/-- A market at unit indexes whose layer owes the pool `layerDebt`. -/
def exitState (asset : Address) (layerDebt : Word) : MarketState where
  underlying := asset
  scaledPoolSupply := 1000
  scaledPoolBorrow := 100
  scaledProtocolSupplyOnPool := 0
  scaledProtocolBorrowOnPool := layerDebt
  scaledProtocolCollateral := 0
  deltas := ⟨⟨0, 0⟩, ⟨0, 0⟩⟩
  idleSupply := 0
  indexes := ⟨⟨ray, ray⟩, ⟨ray, ray⟩, 1000⟩
  poolReserve := ⟨ray, ray, 0, 0, 1000⟩
  poolLiquidity := 1000
  chainUsdPrice := 100000000

def exitConfig (asset : Address) : MarketConfig where
  underlying := asset
  symbol := "TKN"
  decimals := 18
  collateralFactor := 8000
  borrowableFactor := 7500
  p2pReserveFactor := 0
  p2pIndexCursor := 5000
  supplyCap := 0
  borrowCap := 0
  pause := {}
  eModeCategory := 0
  wrappedNative := false

def exitAccount : Account := ⟨Address.ofNat 0x1111111111111111111111111111111111111111, 0, 0, 0⟩

/-- The user owes 100 on the pool of the market and holds `wallet` tokens. -/
def exitSnapshot (wallet : Word) : Snapshot where
  chain := some exitChain
  user := some exitAccount
  markets := AddrMap.empty.insert exitAsset (exitState exitAsset 100)
  configs := AddrMap.empty.insert exitAsset (exitConfig exitAsset)
  positions := AddrMap.empty.insert exitAsset
    { Position.empty exitAsset with scaledBorrowOnPool := 100, walletBalance := wallet }

/-- The same debt, filed under the market's key but naming a second listed market. -/
def strayExitSnapshot : Snapshot where
  chain := some exitChain
  user := some exitAccount
  markets := (AddrMap.empty.insert exitAsset (exitState exitAsset 100)).insert exitOther
    (exitState exitOther 0)
  configs := (AddrMap.empty.insert exitAsset (exitConfig exitAsset)).insert exitOther
    (exitConfig exitOther)
  positions := AddrMap.empty.insert exitAsset
    { Position.empty exitOther with scaledBorrowOnPool := 100, walletBalance := 100 }

/-- Repaying as much as allowed. -/
def exitRepayAll : Operation := ⟨.repay, exitAsset, Word.maxValue, false⟩

/-- Repaying the whole debt by its amount. -/
def exitRepayDebt : Operation := ⟨.repay, exitAsset, 100, false⟩

theorem exitSnapshot_keysAgree (wallet : Word) : (exitSnapshot wallet).KeysAgree := by
  refine ⟨fun e he => ?_, fun e he => ?_⟩
  · rcases AddrMap.mem_insert he with rfl | he
    · rfl
    · cases he
  · rcases AddrMap.mem_insert he with rfl | he
    · rfl
    · cases he

theorem exitState_atLeastRay (asset : Address) (layerDebt : Word) :
    (exitState asset layerDebt).indexes.AtLeastRay :=
  ⟨Nat.le_refl _, Nat.le_refl _, Nat.le_refl _, Nat.le_refl _⟩

/-- With 200 in the wallet against a debt of 100, the capacity of a repayment binds on the
balance, and repaying as much as allowed clears the debt. -/
theorem repay_all_clears_debt :
    ∃ st t, Reaches (exitSnapshot 200) st ∧ st.snapshot.KeysAgree ∧
      st.snapshot.markets.get? exitAsset = some (exitState exitAsset 100) ∧
      (exitState exitAsset 100).indexes.AtLeastRay ∧ exitRepayAll.kind.IsExit ∧
      (st.snapshot.positionAt exitAsset).exitWorth (exitState exitAsset 100).indexes .repay <
        wordSize ∧
      applyOperation st exitRepayAll = .ok t ∧
      st.snapshot.maxCapacity exitAsset .repay = .ok (some ⟨100, .balance⟩) ∧
      ∃ p, t.snapshot.positions.get? exitAsset = some p ∧
        p.Shrinks (st.snapshot.positionAt exitAsset) ∧
        ((exitRepayAll.amount ≠ Word.maxValue ∧
            (st.snapshot.positionAt exitAsset).exitWorth (exitState exitAsset 100).indexes .repay ≤
              exitRepayAll.amount.val) ∨
          (exitRepayAll.amount = Word.maxValue ∧ ∃ limit,
            st.snapshot.maxCapacity exitAsset .repay = .ok (some limit) ∧
            limit.reason = .balance) →
          p.Exited .repay) := by
  have hreach : Reaches (exitSnapshot 200) _ := .start rfl rfl
  have hkeys := hreach.keysAgree (exitSnapshot_keysAgree 200)
  refine ⟨_, _, hreach, hkeys, rfl, exitState_atLeastRay _ _, .inl rfl, by decide, rfl, rfl, ?_⟩
  exact @applyOperation_exit_clears _ exitRepayAll _ (exitState exitAsset 100) hkeys rfl
    (exitState_atLeastRay _ _) (.inl rfl) (by decide) rfl

/-- A full exit can leave debt behind in two ways. Repaying as much as allowed with 40 in the
wallet against a pool debt of 100, at unit indexes, resolves to the wallet, and 60 of the debt
stays. And repaying the whole debt of a position filed under the market's key but naming another
market empties the copy written under the other market: the entry under the market still owes
100. -/
theorem sentinel_or_stray_key_keeps_debt :
    (∃ st t, Reaches (exitSnapshot 40) st ∧ applyOperation st exitRepayAll = .ok t ∧
      st.snapshot.markets.get? exitAsset = some (exitState exitAsset 100) ∧
      (st.snapshot.positionAt exitAsset).exitWorth (exitState exitAsset 100).indexes .repay ≤
        exitRepayAll.amount.val ∧
      (t.snapshot.positionAt exitAsset).scaledBorrowOnPool = 60) ∧
    (∃ st t, Reaches strayExitSnapshot st ∧ applyOperation st exitRepayDebt = .ok t ∧
      st.snapshot.markets.get? exitAsset = some (exitState exitAsset 100) ∧
      (st.snapshot.positionAt exitAsset).exitWorth (exitState exitAsset 100).indexes .repay ≤
        exitRepayDebt.amount.val ∧
      (t.snapshot.positionAt exitAsset).scaledBorrowOnPool = 100) :=
  ⟨⟨_, _, .start rfl rfl, rfl, rfl, by decide, rfl⟩, ⟨_, _, .start rfl rfl, rfl, rfl, by decide, rfl⟩⟩

end PeerLending
