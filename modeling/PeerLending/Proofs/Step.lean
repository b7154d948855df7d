import PeerLending.Simulation
import PeerLending.Proofs.Arith

/-!
# What one operation does

A market operation edits a `Work` — a copy of one market, the user's position on it and the
user's context — and notes *issues* on the way; a claim or a wrap edits the snapshot directly.
This module says, once for every function that edits a work, what it keeps (`Keeps`,
`KeepsAmount`, `Quiet`), and once for every operation which issues it notes and which amount it
records. It then reads a successful step back into its parts (`applyOperation_eq_ok`): the checks
that let it through, the amount it resolved, and the work it performed. Later proofs cite these
lemmas and never unfold an operation.

Two facts about the two kinds of trouble come out of it and carry the shape of every run:

* every issue an operation notes lets the run go on (`applyOperation_issues_continue`);
* every issue a step stops on is blocking (`applyOperation_blocked`).
-/

set_option autoImplicit false

namespace PeerLending

namespace Work

/-! ## 1. Noting issues -/

/-- The issue `k` when `c` holds, and nothing otherwise. -/
def issueIf (c : Bool) (k : IssueKind) : List IssueKind := if c then [k] else []

@[simp] theorem mem_issueIf {c : Bool} {k k' : IssueKind} :
    k' ∈ issueIf c k ↔ k' = k ∧ c = true := by
  cases c <;> simp [issueIf]

@[simp] theorem issueIf_eq_nil {c : Bool} {k : IssueKind} : issueIf c k = [] ↔ c = false := by
  cases c <;> simp [issueIf]

/-- Noting an issue when `c` holds writes the issues and nothing else. -/
theorem noteIf_eq (w : Work) (c : Bool) (k : IssueKind) :
    w.noteIf c k = { w with issues := w.issues ++ issueIf c k } := by
  cases c <;> simp [noteIf, note, issueIf]

@[simp] theorem issues_noteIf (w : Work) (c : Bool) (k : IssueKind) :
    (w.noteIf c k).issues = w.issues ++ issueIf c k := by
  rw [noteIf_eq]

/-- Clamping notes an insufficient balance exactly when it cuts the amount down. -/
theorem clampToBalance_eq (w : Work) (a b : Word) :
    w.clampToBalance a b =
      (w.noteIf (decide (b < a)) .insufficientBalance, if b < a then b else a) := by
  unfold clampToBalance noteIf
  by_cases h : b < a <;> simp [h]

/-! ## 2. What a step keeps

No step of an operation writes the market's configuration, its asset, its indexes or its price,
the market of the position, or where a payout goes (`Keeps`). Every step after the operation has
recorded its amount keeps that amount too (`KeepsAmount`), and a step that only moves balances
notes nothing either (`Quiet`). Each function that edits a work gets one lemma saying which of
the three it does, proved along its definition; every frame fact a later proof needs is a field
of one of them. -/

/-- What no step of an operation writes. -/
structure Keeps (w w' : Work) : Prop where
  config : w'.config = w.config
  underlying : w'.market.underlying = w.market.underlying
  indexes : w'.market.indexes = w.market.indexes
  chainUsdPrice : w'.market.chainUsdPrice = w.market.chainUsdPrice
  positionMarket : w'.position.market = w.position.market
  unwrap : w'.unwrap = w.unwrap

/-- A step that may note an issue, and keeps the amount recorded. -/
structure KeepsAmount (w w' : Work) : Prop extends Keeps w w' where
  amount : w'.amount = w.amount

/-- A step that moves balances and notes nothing. -/
structure Quiet (w w' : Work) : Prop extends KeepsAmount w w' where
  issues : w'.issues = w.issues

section Relations

variable {w w' w'' : Work}

theorem Keeps.refl (w : Work) : w.Keeps w := ⟨rfl, rfl, rfl, rfl, rfl, rfl⟩

theorem Keeps.trans (h : w.Keeps w') (h' : w'.Keeps w'') : w.Keeps w'' :=
  ⟨h'.config.trans h.config, h'.underlying.trans h.underlying, h'.indexes.trans h.indexes,
    h'.chainUsdPrice.trans h.chainUsdPrice, h'.positionMarket.trans h.positionMarket,
    h'.unwrap.trans h.unwrap⟩

/-- The amount plays no part in what a step keeps. -/
theorem Keeps.of_withAmount {a : Word} (h : Keeps { w with amount := a } w') : w.Keeps w' :=
  ⟨h.config, h.underlying, h.indexes, h.chainUsdPrice, h.positionMarket, h.unwrap⟩

theorem KeepsAmount.refl (w : Work) : w.KeepsAmount w := ⟨.refl w, rfl⟩

theorem KeepsAmount.trans (h : w.KeepsAmount w') (h' : w'.KeepsAmount w'') :
    w.KeepsAmount w'' :=
  ⟨h.toKeeps.trans h'.toKeeps, h'.amount.trans h.amount⟩

theorem Quiet.refl (w : Work) : w.Quiet w := ⟨.refl w, rfl⟩

theorem Quiet.trans (h : w.Quiet w') (h' : w'.Quiet w'') : w.Quiet w'' :=
  ⟨h.toKeepsAmount.trans h'.toKeepsAmount, h'.issues.trans h.issues⟩

end Relations

section Steps

variable (w : Work) (a : Word)

/-! The checks note an issue and keep everything else. -/

theorem keepsAmount_noteIf (c : Bool) (k : IssueKind) : w.KeepsAmount (w.noteIf c k) := by
  rw [noteIf_eq]
  exact ⟨⟨rfl, rfl, rfl, rfl, rfl, rfl⟩, rfl⟩

theorem keepsAmount_checkLiquidity : w.KeepsAmount (w.checkLiquidity a) := keepsAmount_noteIf _ _ _

theorem keepsAmount_checkSupplyCap : w.KeepsAmount (w.checkSupplyCap a) := keepsAmount_noteIf _ _ _

theorem keepsAmount_checkBorrowCap : w.KeepsAmount (w.checkBorrowCap a) := keepsAmount_noteIf _ _ _

theorem keepsAmount_debitWallet : w.KeepsAmount (w.debitWallet a) :=
  (keepsAmount_noteIf w _ _).trans ⟨⟨rfl, rfl, rfl, rfl, rfl, rfl⟩, rfl⟩

theorem keepsAmount_clampToBalance (b : Word) : w.KeepsAmount (w.clampToBalance a b).1 := by
  rw [clampToBalance_eq]
  exact keepsAmount_noteIf w _ _

/-! The moves of the market's and the position's balances, of the wallet and of the pool's
liquidity only rewrite balances: the proofs are `rfl` field by field. -/

theorem quiet_addSupplyOnPool : w.Quiet (w.addSupplyOnPool a).1 :=
  ⟨⟨⟨rfl, rfl, rfl, rfl, rfl, rfl⟩, rfl⟩, rfl⟩

theorem quiet_removeSupplyOnPool : w.Quiet (w.removeSupplyOnPool a) :=
  ⟨⟨⟨rfl, rfl, rfl, rfl, rfl, rfl⟩, rfl⟩, rfl⟩

theorem quiet_addBorrowOnPool : w.Quiet (w.addBorrowOnPool a).1 :=
  ⟨⟨⟨rfl, rfl, rfl, rfl, rfl, rfl⟩, rfl⟩, rfl⟩

theorem quiet_removeBorrowOnPool : w.Quiet (w.removeBorrowOnPool a) :=
  ⟨⟨⟨rfl, rfl, rfl, rfl, rfl, rfl⟩, rfl⟩, rfl⟩

theorem quiet_addP2P : w.Quiet (w.addP2P a) := ⟨⟨⟨rfl, rfl, rfl, rfl, rfl, rfl⟩, rfl⟩, rfl⟩

theorem quiet_shrinkP2P : w.Quiet (w.shrinkP2P a) := ⟨⟨⟨rfl, rfl, rfl, rfl, rfl, rfl⟩, rfl⟩, rfl⟩

theorem quiet_withLiquidity (f : Word → Word) : w.Quiet (w.withLiquidity f) :=
  ⟨⟨⟨rfl, rfl, rfl, rfl, rfl, rfl⟩, rfl⟩, rfl⟩

/-- A new position keeps the frame as long as it stays on its market. -/
theorem quiet_withPosition (f : Position → Position) (hf : (f w.position).market = w.position.market) :
    w.Quiet (w.withPosition f) :=
  ⟨⟨⟨rfl, rfl, rfl, rfl, hf, rfl⟩, rfl⟩, rfl⟩

theorem quiet_payOut : w.Quiet (w.payOut a) := by
  unfold payOut
  split <;> exact ⟨⟨⟨rfl, rfl, rfl, rfl, rfl, rfl⟩, rfl⟩, rfl⟩

/-! Matching, promotion and demotion are made of those moves. -/

theorem quiet_promoteBorrowers : w.Quiet (w.promoteBorrowers a) := by
  unfold promoteBorrowers
  split
  · exact .refl w
  · exact ((quiet_removeBorrowOnPool w a).trans (quiet_addP2P _ a)).trans (quiet_withPosition _ _ rfl)

theorem quiet_promoteSuppliers : w.Quiet (w.promoteSuppliers a) := by
  unfold promoteSuppliers
  split
  · exact .refl w
  · exact ((quiet_removeSupplyOnPool w a).trans (quiet_addP2P _ a)).trans (quiet_withPosition _ _ rfl)

theorem quiet_supplyPool : w.Quiet (w.supplyPool a) := by
  dsimp only [supplyPool]
  exact (quiet_addSupplyOnPool w a).trans (quiet_withPosition _ _ rfl)

theorem quiet_borrowPool : w.Quiet (w.borrowPool a) := by
  dsimp only [borrowPool]
  exact (quiet_addBorrowOnPool w a).trans (quiet_withPosition _ _ rfl)

theorem quiet_repayPool : w.Quiet (w.repayPool a) := by
  unfold repayPool
  split
  · exact .refl w
  · exact (quiet_withPosition w _ rfl).trans ⟨⟨⟨rfl, rfl, rfl, rfl, rfl, rfl⟩, rfl⟩, rfl⟩

theorem quiet_withdrawPool : w.Quiet (w.withdrawPool a) := by
  unfold withdrawPool
  split
  · exact .refl w
  · exact (quiet_withPosition w _ rfl).trans ⟨⟨⟨rfl, rfl, rfl, rfl, rfl, rfl⟩, rfl⟩, rfl⟩

theorem quiet_demoteSuppliers : w.Quiet (w.demoteSuppliers a) := by
  unfold demoteSuppliers
  split
  · exact .refl w
  · exact (quiet_shrinkP2P w a).trans (quiet_addSupplyOnPool _ a)

/-- Demoting borrowers checks the borrow cap first, so it may note an issue. -/
theorem keepsAmount_demoteBorrowers : w.KeepsAmount (w.demoteBorrowers a) := by
  unfold demoteBorrowers
  split
  · exact .refl w
  · exact (keepsAmount_checkBorrowCap w a).trans
      ((quiet_shrinkP2P _ a).trans (quiet_addBorrowOnPool _ a)).toKeepsAmount

theorem quiet_releaseBorrowInP2P : w.Quiet (w.releaseBorrowInP2P a) := by
  dsimp only [releaseBorrowInP2P]
  exact quiet_withPosition w _ rfl

theorem quiet_releaseSupplyInP2P : w.Quiet (w.releaseSupplyInP2P a) := by
  dsimp only [releaseSupplyInP2P]
  exact quiet_withPosition w _ rfl

theorem quiet_backfillBorrowers : w.Quiet (w.backfillBorrowers a) := by
  unfold backfillBorrowers
  split
  · exact .refl w
  · exact quiet_removeBorrowOnPool w a

theorem quiet_backfillSuppliers : w.Quiet (w.backfillSuppliers a) := by
  unfold backfillSuppliers
  split
  · exact .refl w
  · exact quiet_removeSupplyOnPool w a

theorem quiet_repayP2P : w.Quiet (w.repayP2P a) := by
  unfold repayP2P
  split
  · exact .refl w
  · exact ((quiet_releaseBorrowInP2P w a).trans (quiet_backfillBorrowers _ _)).trans
      (quiet_demoteSuppliers _ _)

theorem keepsAmount_withdrawP2P : w.KeepsAmount (w.withdrawP2P a) := by
  unfold withdrawP2P
  split
  · exact .refl w
  · exact ((quiet_releaseSupplyInP2P w a).trans (quiet_backfillSuppliers _ _)).toKeepsAmount.trans
      (keepsAmount_demoteBorrowers _ _)

/-! An operation records its amount, clamped to the balance by a repayment or a withdrawal, and
every later step keeps it. -/

theorem keepsAmount_supply : ({ w with amount := a } : Work).KeepsAmount (w.supply a) := by
  dsimp only [supply]
  exact ((keepsAmount_debitWallet _ a).trans (keepsAmount_checkSupplyCap _ a)).trans
    (((quiet_promoteBorrowers _ _).trans (quiet_supplyPool _ _)).trans
      (quiet_withLiquidity _ _)).toKeepsAmount

theorem keepsAmount_supplyCollateral :
    ({ w with amount := a } : Work).KeepsAmount (w.supplyCollateral a) := by
  dsimp only [supplyCollateral]
  -- the pool supply, the position's collateral and the liquidity are rewritten in place
  exact ((keepsAmount_debitWallet _ a).trans (keepsAmount_checkSupplyCap _ a)).trans
    ⟨⟨rfl, rfl, rfl, rfl, rfl, rfl⟩, rfl⟩

theorem keepsAmount_borrow (headroom : Word) :
    ({ w with amount := a } : Work).KeepsAmount (w.borrow a headroom) := by
  dsimp only [borrow]
  exact (((keepsAmount_noteIf _ _ _).trans (keepsAmount_checkLiquidity _ a)).trans
    (keepsAmount_checkBorrowCap _ a)).trans
    ((((quiet_promoteSuppliers _ _).trans (quiet_borrowPool _ _)).trans
      (quiet_withLiquidity _ _)).trans (quiet_payOut _ a)).toKeepsAmount

theorem keepsAmount_repay :
    let debt := rayMul w.position.scaledBorrowOnPool w.market.indexes.borrow.poolIndex +
      rayMul w.position.scaledBorrowInP2P w.market.indexes.borrow.p2pIndex
    let clamped := w.clampToBalance a debt
    ({ clamped.1 with amount := clamped.2 } : Work).KeepsAmount (w.repay a) := by
  dsimp only [repay]
  exact (keepsAmount_debitWallet _ _).trans
    (((quiet_repayPool _ _).trans (quiet_repayP2P _ _)).trans (quiet_withLiquidity _ _)).toKeepsAmount

theorem keepsAmount_withdraw :
    let supplied := rayMul w.position.scaledSupplyOnPool w.market.indexes.supply.poolIndex +
      rayMul w.position.scaledSupplyInP2P w.market.indexes.supply.p2pIndex
    let clamped := w.clampToBalance a supplied
    ({ clamped.1 with amount := clamped.2 } : Work).KeepsAmount (w.withdraw a) := by
  dsimp only [withdraw]
  exact (((keepsAmount_checkLiquidity _ _).trans (quiet_withdrawPool _ _).toKeepsAmount).trans
    (keepsAmount_withdrawP2P _ _)).trans
    ((quiet_withLiquidity _ _).trans (quiet_payOut _ _)).toKeepsAmount

theorem keepsAmount_withdrawCollateral (headroom : Option Word) :
    let clamped := w.clampToBalance a (rayMul w.position.scaledCollateral w.market.indexes.supply.poolIndex)
    ({ clamped.1 with amount := clamped.2 } : Work).KeepsAmount (w.withdrawCollateral a headroom) := by
  dsimp only [withdrawCollateral]
  refine KeepsAmount.trans ?_ (quiet_payOut _ _).toKeepsAmount
  -- after the two checks the collateral, the pool supply and the liquidity are rewritten in place
  exact (keepsAmount_noteIf _ _ _).trans ((keepsAmount_checkLiquidity _ _).trans
    (show KeepsAmount _ _ from ⟨⟨rfl, rfl, rfl, rfl, rfl, rfl⟩, rfl⟩))

/-! From the start, then, every operation keeps the frame. -/

theorem keeps_supply : w.Keeps (w.supply a) := .of_withAmount (keepsAmount_supply w a).toKeeps

theorem keeps_supplyCollateral : w.Keeps (w.supplyCollateral a) :=
  .of_withAmount (keepsAmount_supplyCollateral w a).toKeeps

theorem keeps_borrow (headroom : Word) : w.Keeps (w.borrow a headroom) :=
  .of_withAmount (keepsAmount_borrow w a headroom).toKeeps

theorem keeps_repay : w.Keeps (w.repay a) :=
  (keepsAmount_clampToBalance w a _).toKeeps.trans (.of_withAmount (keepsAmount_repay w a).toKeeps)

theorem keeps_withdraw : w.Keeps (w.withdraw a) :=
  (keepsAmount_clampToBalance w a _).toKeeps.trans (.of_withAmount (keepsAmount_withdraw w a).toKeeps)

theorem keeps_withdrawCollateral (headroom : Option Word) : w.Keeps (w.withdrawCollateral a headroom) :=
  (keepsAmount_clampToBalance w a _).toKeeps.trans
    (.of_withAmount (keepsAmount_withdrawCollateral w a headroom).toKeeps)

theorem keeps_perform (st : SimulatedState) (chain : ChainContext) (op : Operation) :
    w.Keeps (w.perform st chain op a) := by
  unfold perform
  split
  · exact keeps_supply w a
  · exact keeps_supplyCollateral w a
  · exact keeps_borrow w a _
  · exact keeps_repay w a
  · exact keeps_withdraw w a
  · exact keeps_withdrawCollateral w a _
  -- claims and wraps leave the work alone
  · exact .refl w
  · exact .refl w

end Steps

/-! ## 3. The issues of each market operation

Matching, promotion and demotion never note anything: an operation's issues are those of its
checks, in the order the checks run. -/

section Issues

variable (w : Work) (a : Word)

theorem issues_supply : (w.supply a).issues = w.issues ++
    issueIf (w.position.walletBalance < a) .insufficientWalletBalance ++
    issueIf (w.config.supplyCap.val ≠ 0 &&
      w.config.supplyCap < rayMul w.market.scaledPoolSupply w.market.indexes.supply.poolIndex + a)
      .supplyCapReached := by
  -- after its two checks, supplying only moves balances
  simp only [supply, (quiet_withLiquidity _ _).issues, (quiet_supplyPool _ _).issues,
    (quiet_promoteBorrowers _ _).issues]
  simp [debitWallet, checkSupplyCap, noteIf_eq, supplyIndexes]

theorem issues_supplyCollateral : (w.supplyCollateral a).issues = w.issues ++
    issueIf (w.position.walletBalance < a) .insufficientWalletBalance ++
    issueIf (w.config.supplyCap.val ≠ 0 &&
      w.config.supplyCap < rayMul w.market.scaledPoolSupply w.market.indexes.supply.poolIndex + a)
      .supplyCapReached := by
  simp [supplyCollateral, debitWallet, checkSupplyCap, noteIf_eq, withPosition, withLiquidity,
    supplyIndexes]

theorem issues_borrow (headroom : Word) : (w.borrow a headroom).issues = w.issues ++
    issueIf (headroom < a) .collateralCapacityReached ++
    issueIf (w.market.poolLiquidity < a) .insufficientLiquidity ++
    issueIf (w.config.borrowCap.val ≠ 0 &&
      w.config.borrowCap < rayMul w.market.scaledPoolBorrow w.market.indexes.borrow.poolIndex + a)
      .borrowCapReached := by
  -- after its three checks, borrowing only moves balances
  simp only [borrow, (quiet_payOut _ _).issues, (quiet_withLiquidity _ _).issues,
    (quiet_borrowPool _ _).issues, (quiet_promoteSuppliers _ _).issues]
  simp [checkLiquidity, checkBorrowCap, noteIf_eq, borrowIndexes]

theorem issues_repay : (w.repay a).issues =
    let debt := rayMul w.position.scaledBorrowOnPool w.market.indexes.borrow.poolIndex +
      rayMul w.position.scaledBorrowInP2P w.market.indexes.borrow.p2pIndex
    w.issues ++ issueIf (debt < a) .insufficientBalance ++
      issueIf (w.position.walletBalance < if debt < a then debt else a) .insufficientWalletBalance := by
  -- after clamping and the wallet, repaying only moves balances
  simp only [repay, clampToBalance_eq, (quiet_withLiquidity _ _).issues, (quiet_repayP2P _ _).issues,
    (quiet_repayPool _ _).issues]
  simp [debitWallet, noteIf_eq]

theorem scaledPoolBorrow_withdrawPool :
    (w.withdrawPool a).market.scaledPoolBorrow = w.market.scaledPoolBorrow := by
  unfold withdrawPool
  split <;> rfl

theorem issues_demoteBorrowers : (w.demoteBorrowers a).issues = w.issues ++
    issueIf (a.val ≠ 0 && w.config.borrowCap.val ≠ 0 &&
      w.config.borrowCap < rayMul w.market.scaledPoolBorrow w.market.indexes.borrow.poolIndex + a)
      .borrowCapReached := by
  unfold demoteBorrowers checkBorrowCap borrowIndexes
  split
  · simp_all [issueIf]
  · simp_all [shrinkP2P, addBorrowOnPool]

/-- Demoting at most `b` from a work that agrees with `w` on the cap, the pool debt and the
issues notes what a demotion of some `d ≤ b` from `w` would. -/
theorem exists_issues_demoteBorrowers {v : Work} {b c : Word} (hc : c ≤ b)
    (hcap : v.config.borrowCap = w.config.borrowCap)
    (hpool : v.market.scaledPoolBorrow = w.market.scaledPoolBorrow)
    (hidx : v.market.indexes = w.market.indexes) (hiss : v.issues = w.issues) :
    ∃ d ≤ b, (v.demoteBorrowers c).issues = w.issues ++
      issueIf (d.val ≠ 0 && w.config.borrowCap.val ≠ 0 &&
        w.config.borrowCap < rayMul w.market.scaledPoolBorrow w.market.indexes.borrow.poolIndex + d)
        .borrowCapReached :=
  ⟨c, hc, by rw [issues_demoteBorrowers, hcap, hpool, hidx, hiss]⟩

theorem matchable_le (c : Word) : w.matchable a c ≤ a := by
  unfold matchable
  split
  · exact Nat.zero_le _
  · exact Word.min_le_left _ _

/-- A peer-to-peer withdrawal notes at most the borrow cap, checked on the borrowers it demotes,
who are at most the amount. -/
theorem issues_withdrawP2P : ∃ d ≤ a, (w.withdrawP2P a).issues = w.issues ++
    issueIf (d.val ≠ 0 && w.config.borrowCap.val ≠ 0 &&
      w.config.borrowCap < rayMul w.market.scaledPoolBorrow w.market.indexes.borrow.poolIndex + d)
      .borrowCapReached := by
  unfold withdrawP2P
  split
  · exact ⟨0, Nat.zero_le _, by simp [issueIf, val_zero]⟩
  · apply exists_issues_demoteBorrowers
    · exact Word.sub_le_self (matchable_le _ _ _)
    all_goals
      unfold backfillSuppliers
      split <;> simp [releaseSupplyInP2P, withPosition, removeSupplyOnPool]

/-- A withdrawal notes a balance it cannot cover, then the pool's liquidity, then the borrow
cap on the borrowers it demotes: at most the part taken from peer-to-peer supply. -/
theorem issues_withdraw :
    let onPool := rayMul w.position.scaledSupplyOnPool w.market.indexes.supply.poolIndex
    let supplied := onPool + rayMul w.position.scaledSupplyInP2P w.market.indexes.supply.p2pIndex
    let amount := if supplied < a then supplied else a
    ∃ d ≤ amount - Word.min amount onPool, (w.withdraw a).issues = w.issues ++
      issueIf (supplied < a) .insufficientBalance ++
      issueIf (w.market.poolLiquidity < amount) .insufficientLiquidity ++
      issueIf (d.val ≠ 0 && w.config.borrowCap.val ≠ 0 &&
        w.config.borrowCap < rayMul w.market.scaledPoolBorrow w.market.indexes.borrow.poolIndex + d)
        .borrowCapReached := by
  intro onPool supplied amount
  -- the work the peer-to-peer part starts from: clamped, checked and with the pool part taken
  let u : Work := { w.noteIf (decide (supplied < a)) .insufficientBalance with amount := amount }
  let v := (u.checkLiquidity amount).withdrawPool (Word.min amount onPool)
  have hv : (w.withdraw a).issues = (v.withdrawP2P (amount - Word.min amount onPool)).issues := by
    simp only [withdraw, clampToBalance_eq, (quiet_payOut _ _).issues, (quiet_withLiquidity _ _).issues]
    rfl
  have hq : u.KeepsAmount v :=
    (keepsAmount_checkLiquidity u amount).trans (quiet_withdrawPool _ _).toKeepsAmount
  obtain ⟨d, hd, h⟩ := issues_withdrawP2P v (amount - Word.min amount onPool)
  refine ⟨d, hd, ?_⟩
  rw [hv, h, hq.config, hq.indexes, scaledPoolBorrow_withdrawPool, (quiet_withdrawPool _ _).issues]
  simp [u, checkLiquidity, noteIf_eq]

theorem issues_withdrawCollateral (headroom : Option Word) :
    (w.withdrawCollateral a headroom).issues =
    let collateral := rayMul w.position.scaledCollateral w.market.indexes.supply.poolIndex
    let amount := if collateral < a then collateral else a
    w.issues ++ issueIf (collateral < a) .insufficientBalance ++
      issueIf (headroom.any (· < amount)) .collateralCapacityReached ++
      issueIf (w.market.poolLiquidity < amount) .insufficientLiquidity := by
  cases headroom <;>
  simp [withdrawCollateral, clampToBalance_eq, checkLiquidity, noteIf_eq, withPosition,
    withLiquidity, supplyIndexes, (quiet_payOut _ _).issues]

end Issues

/-! ## 4. The amount each operation records

An operation records its effective amount when it starts, and every later step keeps it
(`keepsAmount_supply`, …): the amount asked for, clamped to the balance by a repayment or a
withdrawal. -/

section Amount

variable (w : Work) (a : Word)

theorem amount_supply : (w.supply a).amount = a := (keepsAmount_supply w a).amount

theorem amount_supplyCollateral : (w.supplyCollateral a).amount = a :=
  (keepsAmount_supplyCollateral w a).amount

theorem amount_borrow (headroom : Word) : (w.borrow a headroom).amount = a :=
  (keepsAmount_borrow w a headroom).amount

theorem amount_repay : (w.repay a).amount =
    let debt := rayMul w.position.scaledBorrowOnPool w.market.indexes.borrow.poolIndex +
      rayMul w.position.scaledBorrowInP2P w.market.indexes.borrow.p2pIndex
    if debt < a then debt else a :=
  (keepsAmount_repay w a).amount.trans (by simp [clampToBalance_eq])

theorem amount_withdraw : (w.withdraw a).amount =
    let supplied := rayMul w.position.scaledSupplyOnPool w.market.indexes.supply.poolIndex +
      rayMul w.position.scaledSupplyInP2P w.market.indexes.supply.p2pIndex
    if supplied < a then supplied else a :=
  (keepsAmount_withdraw w a).amount.trans (by simp [clampToBalance_eq])

theorem amount_withdrawCollateral (headroom : Option Word) : (w.withdrawCollateral a headroom).amount =
    let collateral := rayMul w.position.scaledCollateral w.market.indexes.supply.poolIndex
    if collateral < a then collateral else a :=
  (keepsAmount_withdrawCollateral w a headroom).amount.trans (by simp [clampToBalance_eq])

end Amount

/-- Whatever market operation the work performs, the issues it adds are non-blocking. -/
theorem perform_issues (w : Work) (st : SimulatedState) (chain : ChainContext) (op : Operation) (a : Word) :
    ∃ new, (w.perform st chain op a).issues = w.issues ++ new ∧
      ∀ k ∈ new, k.isBlocking = false := by
  unfold perform
  split
  · exact ⟨_, by rw [issues_supply, List.append_assoc], by simp [or_imp, forall_and, IssueKind.isBlocking]⟩
  · exact ⟨_, by rw [issues_supplyCollateral, List.append_assoc], by simp [or_imp, forall_and, IssueKind.isBlocking]⟩
  · exact ⟨_, by rw [issues_borrow, List.append_assoc, List.append_assoc],
      by simp [or_imp, forall_and, IssueKind.isBlocking]⟩
  · exact ⟨_, by rw [issues_repay, List.append_assoc], by simp [or_imp, forall_and, IssueKind.isBlocking]⟩
  · obtain ⟨d, -, h⟩ := issues_withdraw w a
    exact ⟨_, by rw [h, List.append_assoc, List.append_assoc], by simp [or_imp, forall_and, IssueKind.isBlocking]⟩
  · exact ⟨_, by rw [issues_withdrawCollateral, List.append_assoc, List.append_assoc],
      by simp [or_imp, forall_and, IssueKind.isBlocking]⟩
  all_goals exact ⟨[], by simp, by simp⟩

/-- A market operation performed on fresh work notes only non-blocking issues. -/
theorem perform_issues_continue {w : Work} (hw : w.issues = []) (st : SimulatedState)
    (chain : ChainContext) (op : Operation) (a : Word) :
    ∀ k ∈ (w.perform st chain op a).issues, k.isBlocking = false := by
  obtain ⟨new, hnew, hnb⟩ := perform_issues w st chain op a
  rw [hnew, hw, List.nil_append]
  exact hnb

end Work

/-! ## 5. What a step can stop on -/

@[simp] theorem IssueKind.isBlocking_ofQueryError (e : QueryError) :
    (IssueKind.ofQueryError e).isBlocking = true := by
  cases e <;> rfl

theorem resolveAmount_blocked {s : Snapshot} {op : Operation} {k : IssueKind}
    (h : resolveAmount s op = .error (.blocked k)) : k.isBlocking = true := by
  unfold resolveAmount at h
  split at h
  · split at h <;> cases h <;> first | rfl | simp
  · cases h

/-- A market operation that goes through found its market, configuration, chain context and
amount, and its transition is the work it performed, written back. -/
theorem applyOperation_market_ok {st : SimulatedState} {op : Operation} {t : Transition}
    (hc : op.kind ≠ .claimRewards) (hw : op.kind ≠ .wrap) (h : applyOperation st op = .ok t) :
    ∃ market config chain amount,
      st.snapshot.markets.get? op.market = some market ∧
      st.snapshot.configs.get? op.market = some config ∧
      st.snapshot.chain = some chain ∧
      resolveAmount st.snapshot op = .ok amount ∧ config.pause.stops op.kind = false ∧
      t = ((Work.start st.snapshot market config op.unwrap).perform st chain op amount).finish
        st.snapshot := by
  unfold applyOperation at h
  split at h
  · contradiction
  · contradiction
  · dsimp only at h
    split at h
    · rename_i market config hm hcfg
      split at h
      · cases h
      · rename_i chain hch
        cases ha : resolveAmount st.snapshot op with
        | error e =>
          rw [ha] at h
          cases h
        | ok amount =>
          rw [ha] at h
          split at h
          · cases h
          · split at h
            · cases h
            · rename_i hpause
              refine ⟨market, config, chain, amount, hm, hcfg, hch, rfl, by simpa using hpause, ?_⟩
              repeat' (split at h; cases h)
              cases h
              rfl
    · cases h

/-- Every issue a step stops on is blocking. -/
theorem applyOperation_blocked {st : SimulatedState} {op : Operation} {k : IssueKind}
    (h : applyOperation st op = .error (.blocked k)) : k.isBlocking = true := by
  unfold applyOperation claimRewards wrapCoin at h
  dsimp only at h
  -- the amount is resolved after the first checks, and may stop the step itself
  cases hr : resolveAmount st.snapshot op with
  | error e =>
    rw [hr] at h
    repeat' split at h
    all_goals cases h
    all_goals first | rfl | exact resolveAmount_blocked hr
  | ok amount =>
    rw [hr] at h
    repeat' split at h
    all_goals cases h
    all_goals rfl

/-- Every issue a step that goes through notes lets the run go on. -/
theorem applyOperation_issues_continue {st : SimulatedState} {op : Operation} {t : Transition}
    (h : applyOperation st op = .ok t) : ∀ k ∈ t.issues, k.isBlocking = false := by
  unfold applyOperation claimRewards wrapCoin at h
  dsimp only at h
  cases hr : resolveAmount st.snapshot op with
  | error e =>
    rw [hr] at h
    repeat' split at h
    all_goals cases h
  | ok amount =>
    rw [hr] at h
    repeat' split at h
    all_goals cases h
    all_goals intro k hk
    -- a claim notes at most a short balance, a wrap at most a short coin balance
    · split at hk <;> simp_all [IssueKind.isBlocking]
    · split at hk <;> simp_all [IssueKind.isBlocking]
    -- a market operation notes what its work noted, starting from nothing
    · exact Work.perform_issues_continue rfl _ _ _ _ k hk

end PeerLending
